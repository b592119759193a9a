/-
# What is recorded of a slot fits together

The audits of a slot's retries count its calls from the second to the last, and every
start is either still counted by the row or recorded as refused (`SlotView.Sound`).  A
refusal removes the audit of the call it takes back, and nothing else does.

The counter is `call_count` in the table `invocations` of `src/model_council/store.py`; it goes up
in `start_invocation` and down in `release_undispatched_invocation`, each time together with the
audit events that these invariants are about.
-/

import CouncilLogic.Engine.SlotView

namespace CouncilLogic

open Protocol

variable {rt : Runtime} {spec : RunSpec} {w w' : World} {stage : Stage} {provider : Str}
  {v v' : SlotView}

/-! ### The audits of a slot -/

/-- The audit of the retry that is a slot's `callCount`-th call. -/
def retryAuditOf (stage : Stage) (provider : Str) (callCount : ℕ) (prior : ProviderError) :
    Event :=
  ⟨.providerRetryStarted, Dict.canon (Store.retryEvent stage provider callCount prior)⟩

/-- The audit of a start names the slot, the number of the call and the error of the call before
it. -/
theorem retryAudit_eq {r : Invocation} (h : r.slot = (stage, provider)) (prior : ProviderError) :
    Store.retryAudit r prior = retryAuditOf stage provider (r.callCount + 1) prior := by
  rw [Invocation.slot, Prod.mk.injEq] at h
  rw [← h.1, ← h.2]
  rfl

/-- The audits of a slot's retries, from its second call on. -/
def retryAudits (stage : Stage) (provider : Str) (priors : List ProviderError) : List Event :=
  priors.mapIdx fun i prior => retryAuditOf stage provider (i + 2) prior

/-- One more call is one more audit, with the next number. -/
theorem retryAudits_snoc (priors : List ProviderError) (prior : ProviderError) :
    retryAudits stage provider (priors ++ [prior]) =
      retryAudits stage provider priors ++
        [retryAuditOf stage provider (priors.length + 2) prior] := by
  unfold retryAudits
  rw [List.mapIdx_append]
  simp [Nat.add_comm]

/-- The audit of a call is the one with its number. -/
theorem isRetryOf_retryAuditOf (n m : ℕ) (prior : ProviderError) :
    Store.isRetryOf stage provider n (retryAuditOf stage provider m prior) = decide (m = n) := by
  have hnd := keys_retryEvent_nodup stage provider m prior
  unfold Store.isRetryOf retryAuditOf
  simp only [Dict.get?_canon hnd]
  simp [Store.retryEvent, Dict.get?_cons, Json.canon]

/-- An audit whose number is beyond all those that are there removes none of them when it is taken
out. -/
theorem filter_isRetryOf_retryAudits (priors : List ProviderError) {n : ℕ}
    (h : priors.length + 2 ≤ n) :
    (retryAudits stage provider priors).filter (fun e => !Store.isRetryOf stage provider n e) =
      retryAudits stage provider priors := by
  refine List.filter_eq_self.2 fun e he => ?_
  obtain ⟨i, hi, rfl⟩ := List.mem_mapIdx.1 he
  rw [isRetryOf_retryAuditOf, decide_eq_false (by omega)]
  rfl

/-- Taking back the last call removes its audit. -/
theorem filter_isRetryOf_snoc (priors : List ProviderError) (prior : ProviderError) :
    (retryAudits stage provider (priors ++ [prior])).filter
        (fun e => !Store.isRetryOf stage provider (priors.length + 2) e) =
      retryAudits stage provider priors := by
  rw [retryAudits_snoc, List.filter_append, filter_isRetryOf_retryAudits _ le_rfl,
    List.filter_singleton, isRetryOf_retryAuditOf]
  simp

/-! ### Sound views -/

/-- The calls that the row counts. -/
def SlotView.calls (v : SlotView) : ℕ := (v.row.map Invocation.callCount).getD 0

/-- A slot has as many calls as its row counts. -/
theorem SlotView.calls_of_row {r : Invocation} (h : v.row = some r) : v.calls = r.callCount := by
  rw [SlotView.calls, h]
  rfl

/-- What is recorded of a slot fits together. -/
structure SlotView.Sound (stage : Stage) (provider : Str) (v : SlotView) : Prop where
  slot : ∀ r, v.row = some r → r.slot = (stage, provider)
  positive : ∀ r, v.row = some r → 1 ≤ r.callCount
  retries : ∃ priors, v.retries = retryAudits stage provider priors ∧ priors.length = v.calls - 1
  starts : v.starts.length = v.calls + v.released

/-- A new action adds a start when it is one. -/
theorem SlotView.starts_snoc (v : SlotView) (a : Action) (row : Option Invocation)
    (retries : List Event) (released : ℕ) :
    (SlotView.mk row retries released (v.actions ++ [a])).starts =
      v.starts ++ a.start?.toList := by
  unfold SlotView.starts
  rw [List.filterMap_append]
  cases h : a.start? <;> simp [h]

/-- A changed row that still counts the same calls. -/
theorem SlotView.Sound.setRow (hv : v.Sound stage provider) {r r' : Invocation}
    (hrow : v.row = some r) (hslot : r'.slot = r.slot) (hcount : r'.callCount = r.callCount) :
    SlotView.Sound stage provider { v with row := some r' } where
  slot x hx := by
    cases hx
    rw [hslot]
    exact hv.slot r hrow
  positive x hx := by
    cases hx
    rw [hcount]
    exact hv.positive r hrow
  retries := by
    obtain ⟨priors, heq, hlen⟩ := hv.retries
    refine ⟨priors, heq, ?_⟩
    rw [hlen, SlotView.calls_of_row hrow,
      SlotView.calls_of_row (v := { v with row := some r' }) rfl,
      hcount]
  starts := by
    have hstarts := hv.starts
    rw [SlotView.calls_of_row hrow] at hstarts
    rw [SlotView.calls_of_row (v := { v with row := some r' }) rfl, hcount]
    exact hstarts

/-- A slot of which nothing is recorded is sound. -/
theorem SlotView.sound_empty (stage : Stage) (provider : Str) :
    SlotView.Sound stage provider {} where
  slot r hr := by cases hr
  positive r hr := by cases hr
  retries := ⟨[], rfl, rfl⟩
  starts := rfl

/-- **Every move keeps a sound view sound.** -/
theorem SlotMove.sound (h : SlotMove rt spec stage provider w v v') (hv : v.Sound stage provider) :
    v'.Sound stage provider := by
  cases h with
  | same => exact hv
  | act a hof hstart done =>
    exact { hv with
      starts := by
        rw [SlotView.starts_snoc, hstart, Option.toList_none, List.append_nil]
        exact hv.starts }
  | first call config hslot hconfig ok hrow =>
    obtain ⟨priors, heq, hlen⟩ := hv.retries
    have hcalls : v.calls = 0 := by
      rw [SlotView.calls, hrow]
      rfl
    have hnil : priors = [] := List.length_eq_zero_iff.1 (by omega)
    subst hnil
    exact {
      slot := fun x hx => by
        cases hx
        rfl
      positive := fun x hx => by
        cases hx
        exact le_rfl
      retries := ⟨[], heq, rfl⟩
      starts := by
        have hstarts := hv.starts
        rw [SlotView.starts_snoc]
        simp only [Action.start?, Option.toList_some, List.length_append, List.length_singleton,
          SlotView.calls, Option.map_some, Option.getD_some, Store.newRow]
        omega }
  | again call config r e hslot hconfig ok hrow hstate hsame =>
    obtain ⟨priors, heq, hlen⟩ := hv.retries
    have hcalls := SlotView.calls_of_row hrow
    have hpos := hv.positive r hrow
    exact {
      slot := fun x hx => by
        cases hx
        exact hv.slot r hrow
      positive := fun x hx => by
        cases hx
        exact Nat.le_add_left _ _
      retries := by
        refine ⟨priors ++ [e], ?_, ?_⟩
        · show v.retries ++ [Store.retryAudit r e] = _
          rw [retryAudits_snoc, heq, retryAudit_eq (hv.slot r hrow), hlen]
          congr 3
          omega
        · simp only [List.length_append, List.length_singleton, SlotView.calls, Option.map_some,
            Option.getD_some, Store.restart]
          omega
      starts := by
        have hstarts := hv.starts
        rw [SlotView.starts_snoc]
        simp only [Action.start?, Option.toList_some, List.length_append, List.length_singleton,
          SlotView.calls, Option.map_some, Option.getD_some, Store.restart]
        omega }
  | succeed r response hrow hrun hlive hphase hstop => exact hv.setRow hrow rfl rfl
  | fail r error hrow hrun hlive => exact hv.setRow hrow rfl rfl
  | cancel r hrow hrun hlive hphase hcount =>
    obtain ⟨priors, heq, hlen⟩ := hv.retries
    have hcalls := SlotView.calls_of_row hrow
    have hnil : priors = [] := List.length_eq_zero_iff.1 (by omega)
    subst hnil
    exact {
      slot := fun x hx => by cases hx
      positive := fun x hx => by cases hx
      retries := ⟨[], heq, rfl⟩
      starts := by
        have hstarts := hv.starts
        show v.starts.length = 0 + (v.released + 1)
        omega }
  | restore r e callCount hrow hrun hlive hphase hpos hcount hprior =>
    obtain ⟨priors, heq, hlen⟩ := hv.retries
    have hcalls := SlotView.calls_of_row hrow
    rcases List.eq_nil_or_concat priors with rfl | ⟨init, last, rfl⟩
    · simp only [List.length_nil] at hlen
      omega
    · rw [List.concat_eq_append] at heq hlen
      rw [List.length_append, List.length_singleton] at hlen
      exact {
        slot := fun x hx => by
          cases hx
          exact hv.slot r hrow
        positive := fun x hx => by
          cases hx
          exact hpos
        retries := by
          refine ⟨init, ?_, ?_⟩
          · have hn : r.callCount = init.length + 2 := by omega
            show v.retries.filter _ = _
            rw [heq, hn, filter_isRetryOf_snoc]
          · show init.length = callCount - 1
            omega
        starts := by
          have hstarts := hv.starts
          show v.starts.length = callCount + (v.released + 1)
          omega }

/-- **The view of every slot of a run is sound.** -/
theorem Run.sound (h : Run rt spec w) (stage : Stage) (provider : Str) :
    (w.view stage provider).Sound stage provider :=
  h.view_induction stage provider (SlotView.sound_empty stage provider)
    fun _ _ _ _ _ hmove hv => hmove.sound hv

/-- Only providers of the run have rows. -/
theorem Run.row_provider {r : Invocation} (h : Run rt spec w)
    (hrow : w.store.slot stage provider = some r) : provider ∈ spec.config.names := by
  refine h.view_induction (P := fun v => v.row ≠ none → provider ∈ spec.config.names) stage
    provider (fun hne => absurd rfl hne) ?_ ?_
  · intro w v v' _ _ hmove hv hne
    cases hmove with
    | same => exact hv hne
    | act => exact hv hne
    | first call config hslot hconfig ok =>
      rw [Call.slot, Prod.mk.injEq] at hslot
      exact hslot.2 ▸ ok.provider
    | again call config r e hslot hconfig ok =>
      rw [Call.slot, Prod.mk.injEq] at hslot
      exact hslot.2 ▸ ok.provider
    | succeed r response hrow => exact hv (by simp [hrow])
    | fail r error hrow => exact hv (by simp [hrow])
    | cancel r hrow => exact hv (by simp [hrow])
    | restore r e callCount hrow => exact hv (by simp [hrow])
  · show w.store.slot stage provider ≠ none
    simp [hrow]

/-- A row that has succeeded stays as it is. -/
theorem SlotMove.succeeded_row {r : Invocation} {response : ProviderResponse}
    (h : SlotMove rt spec stage provider w v v') (hrow : v.row = some r)
    (hstate : r.state = .succeeded response) : v'.row = some r := by
  cases h with
  | same => exact hrow
  | act a hof hstart done => exact hrow
  | first call config hslot hconfig ok hnone =>
    rw [hrow] at hnone
    cases hnone
  | again call config r' e hslot hconfig ok hrow' hstate' hsame =>
    rw [hrow] at hrow'
    cases hrow'
    rw [hstate] at hstate'
    cases hstate'
  | succeed r' response' hrow' hrun hlive hphase hstop =>
    rw [hrow] at hrow'
    cases hrow'
    rw [hstate] at hrun
    cases hrun
  | fail r' error hrow' hrun hlive =>
    rw [hrow] at hrow'
    cases hrow'
    rw [hstate] at hrun
    cases hrun
  | cancel r' hrow' hrun hlive hphase hcount =>
    rw [hrow] at hrow'
    cases hrow'
    rw [hstate] at hrun
    cases hrun
  | restore r' e callCount hrow' hrun hlive hphase hpos hcount hprior =>
    rw [hrow] at hrow'
    cases hrow'
    rw [hstate] at hrun
    cases hrun

/-- **A row that has succeeded never changes again.** -/
theorem Run.succeeded_row {r : Invocation} {response : ProviderResponse} (h : Run rt spec w)
    (hsteps : Relation.ReflTransGen (RunMove rt spec) w w')
    (hrow : w.store.slot stage provider = some r) (hstate : r.state = .succeeded response) :
    w'.store.slot stage provider = some r :=
  h.view_later (P := fun v => v.row = some r) hsteps stage provider
    (fun _ _ _ _ _ hmove hv => hmove.succeeded_row hv hstate) hrow

/-! ### Starts -/

/-- The action starts a call. -/
def Action.isStart (a : Action) : Bool := a.start?.isSome

/-- The calls that were started and not made. -/
def Store.refusals (st : Store) : ℕ :=
  st.events.countP fun e => e.type = .providerCallNotDispatched

/-- An event of another type is no refusal. -/
theorem refusals_addEvent (st : Store) {type : EventType} (payload : Dict)
    (h : type ≠ .providerCallNotDispatched) :
    (st.addEvent type payload).refusals = st.refusals := by
  unfold Store.refusals
  rw [events_addEvent, List.countP_append, List.countP_singleton]
  simp [h]

/-- A call that is taken back is one more refusal. -/
theorem refusals_released (st : Store) (r : Invocation) (payload : Dict) :
    (st.withEvents (Store.releasedEvents st r payload)).refusals = st.refusals + 1 := by
  unfold Store.refusals Store.releasedEvents
  show List.countP _ (_ ++ _) = _
  rw [List.countP_append, List.countP_singleton, List.countP_filter]
  have hkeep : ∀ e ∈ st.events, (decide (e.type = .providerCallNotDispatched) &&
      !Store.isRetryOf r.stage r.provider r.callCount e) = true ↔
        decide (e.type = .providerCallNotDispatched) = true := by
    intro e _
    by_cases he : e.type = .providerCallNotDispatched
    · simp [he, Store.isRetryOf]
    · simp [he]
  rw [List.countP_congr hkeep]
  rfl

/-- Every start is counted, or was taken back. -/
def World.Counted (w : World) : Prop :=
  w.trace.countP Action.isStart = w.store.countCalls + w.store.refusals

/-- Every step of a stage keeps the balance: the calls that the rows count and the refusals
together are the starts there have been. -/
theorem StageStep.counted {names : List Str} (h : StageStep rt spec stage names w w')
    (hwf : w.store.WellFormed) (hw : w.Counted) : w'.Counted := by
  unfold World.Counted at hw ⊢
  cases h with
  | tick elapsed => exact hw
  | act a ok hname =>
    have hstart : a.isStart = false := by
      cases a <;> first | exact ok.elim | rfl
    rw [World.record_trace, List.countP_append, List.countP_singleton, hstart]
    exact hw
  | audit type payload ht =>
    rw [World.withStore_store, refusals_addEvent _ payload (by rintro rfl; cases ht)]
    exact hw
  | start call config id st hname hstage hconfig ok h =>
    obtain ⟨r, hs⟩ := started_of_ok hwf ok.free h
    have hrefusals : st.refusals = w.store.refusals := by
      obtain ⟨audits, he, ht⟩ := hs.events
      have hzero : audits.countP (fun e => e.type = .providerCallNotDispatched) = 0 := by
        rw [List.countP_eq_zero]
        intro e hm
        obtain ⟨old, prior, -, -, rfl⟩ := ht e hm
        simp [Store.retryAudit]
      unfold Store.refusals
      rw [he, List.countP_append, hzero, add_zero]
    have htrace : (w.record (.started call w.store)).trace.countP Action.isStart =
        w.trace.countP Action.isStart + 1 := by
      rw [World.record_trace, List.countP_append]
      rfl
    have hcount := hs.countCalls
    show (w.record (.started call w.store)).trace.countP Action.isStart = _
    dsimp only
    omega
  | succeed r response hr hname hstage hrun hlive hphase hstop =>
    have hcount := hwf.countCalls_update
      (f := Store.setState (.succeeded (Store.storedResponse response))) hr
    have hsame : (w.store.updateInvocation r.id
        (Store.setState (.succeeded (Store.storedResponse response)))).refusals =
        w.store.refusals := rfl
    rw [World.withStore_store, World.withStore_trace, hsame]
    simp only [Store.setState] at hcount ⊢
    omega
  | fail r error hr hname hstage hrun hlive =>
    have hcount := hwf.countCalls_update (f := Store.setState (.failed error)) hr
    have hsame : (w.store.updateInvocation r.id (Store.setState (.failed error))).refusals =
        w.store.refusals := rfl
    rw [World.withStore_store, World.withStore_trace, hsame]
    simp only [Store.setState] at hcount ⊢
    omega
  | cancel r payload hr hname hstage hrun hlive hphase hcount hpayload =>
    have hdelete := hwf.countCalls_delete hr
    have hsame : ((w.store.deleteRow r.id).addEvent .providerCallNotDispatched payload).refusals =
        w.store.refusals + 1 := by
      unfold Store.refusals
      rw [events_addEvent, List.countP_append]
      rfl
    rw [World.withStore_store, World.withStore_trace, countCalls_addEvent, hsame]
    omega
  | restore r e callCount payload hr hname hstage hrun hlive hphase hpos hcount hprior haudit
      hpayload =>
    have hupdate := hwf.countCalls_update (f := Store.restore e callCount) hr
    have hsame := refusals_released w.store r payload
    rw [World.withStore_store, World.withStore_trace, Store.countCalls_withEvents]
    simp only [Store.restore] at hupdate ⊢
    show _ = _ + (w.store.withEvents (Store.releasedEvents w.store r payload)).refusals
    omega

/-- **The calls that are counted** are the starts that were not taken back. -/
theorem Run.counted (h : Run rt spec w) : w.Counted := by
  refine h.induction (P := World.Counted) ?_ ?_
  · intro eng draws question st hcreate _
    obtain ⟨rfl, -⟩ := createRun_ok hcreate
    rfl
  · intro w w' _ hinv hmove hw
    rcases hmove with hmove | rfl
    · cases hmove with
      | stage _ _ _ hs => exact hs.counted hinv.wellFormed hw
      | adjudicate mapping records aggregate ok =>
        unfold World.Counted at hw ⊢
        rw [World.record_trace, List.countP_append]
        exact hw
      | status => exact hw
      | audit type payload ht =>
        unfold World.Counted at hw ⊢
        rw [World.withStore_store, refusals_addEvent _ payload (by rintro rfl; cases ht)]
        exact hw
      | marker | lockNamespace | lockAdjudication | advance =>
        unfold World.Counted at hw ⊢
        rw [World.withStore_store, refusals_addEvent _ _ (by simp)]
        exact hw
      | finish p result event hopen ok =>
        have hsame := refusals_addEvent w.store event (show EventType.runFinished ≠ _ by simp)
        unfold World.Counted at hw ⊢
        exact hw.trans (congrArg (w.store.countCalls + ·) hsame.symm)
    · exact hw

end CouncilLogic
