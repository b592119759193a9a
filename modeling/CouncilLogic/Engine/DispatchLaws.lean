/-
# The calls that were made

Between two starts of a slot its provider is called at most once.  So the calls made are
bounded by the calls the row counts, and those made after a truncated response by the
truncation retries that are on record (`SlotView.Paid`): a start that is taken back takes
its retry off the record, and only while its call has not been made.

The calls are those of `provider.generate` in `src/model_council/engine.py`, each of which costs
money whatever becomes of it, while the row's call count is what the budget is checked against.
The invariant has three parts: dispatches are paid for by counted starts, the last start says
whether its row was truncated, and dispatches on truncated rows are paid for by truncation retries
on record.  `SlotMove.paid` checks it move by move.
-/

import CouncilLogic.Engine.SlotLaws

namespace CouncilLogic

open Protocol

variable {rt : Runtime} {spec : RunSpec} {w w' : World} {stage : Stage} {provider : Str}
  {v v' : SlotView}

/-! ### Dispatches -/

/-- The last start, and the starts whose call was made. -/
def dispatchNext (d : Option (Call × Store) × List (Call × Store)) :
    Action → Option (Call × Store) × List (Call × Store)
  | .started call before => (some (call, before), d.2)
  | .generate .. => (d.1, d.2 ++ d.1.toList)
  | .attempt .. | .reserved .. | .granted .. | .released _ | .reconciled _ | .settled _
  | .enter .. | .overLimit .. | .adjudicated .. => d

/-- The starts whose call was made, each with the store it was made in. -/
def dispatchesOf (actions : List Action) : List (Call × Store) :=
  (actions.foldl dispatchNext (none, [])).2

/-- The calls made for a slot, each with the store in which it was started. -/
def World.dispatchesOf (w : World) (stage : Stage) (provider : Str) : List (Call × Store) :=
  CouncilLogic.dispatchesOf (w.actionsOf stage provider)

/-- While the actions of a slot are read in order, what is remembered is its last start. -/
theorem foldl_dispatchNext_fst (actions : List Action) :
    (actions.foldl dispatchNext (none, [])).1 = (actions.filterMap Action.start?).getLast? := by
  induction actions using List.reverseRecOn with
  | nil => rfl
  | append_singleton actions a ih =>
    rw [List.foldl_append, List.filterMap_append]
    cases a <;> simp [dispatchNext, Action.start?, ih]

/-- One more action that is no call. -/
theorem dispatchesOf_snoc (actions : List Action) {a : Action}
    (h : ∀ call before, a ≠ .generate call before) :
    dispatchesOf (actions ++ [a]) = dispatchesOf actions := by
  unfold dispatchesOf
  rw [List.foldl_append]
  cases a <;> first | rfl | exact absurd rfl (h _ _)

/-- One more call. -/
theorem dispatchesOf_generate (actions : List Action) (call : Call) (before : Store) :
    dispatchesOf (actions ++ [.generate call before]) =
      dispatchesOf actions ++ (actions.filterMap Action.start?).getLast?.toList := by
  rw [← foldl_dispatchNext_fst]
  unfold dispatchesOf
  rw [List.foldl_append]
  rfl

/-! ### Phases without a call -/

/-- The call that was started last has not been made. -/
def CallPhase.isUnsent : CallPhase → Bool
  | .started | .asked | .leased | .releasing | .released => true
  | .idle | .called _ | .reconciling | .reconciled => false

/-- A call that was not sent is unsent. -/
theorem CallPhase.Unsent.isUnsent {phase : CallPhase} (h : phase.Unsent) :
    phase.isUnsent = true := by
  rcases h with rfl | rfl | rfl <;> rfl

/-- A call that is ready to be sent has not been sent. -/
theorem CallPhase.Ready.isUnsent {phase : CallPhase} (h : phase.Ready) :
    phase.isUnsent = true := by
  rcases h with rfl | rfl <;> rfl

/-- The row is running and its call has not been made. -/
def SlotView.unsent (v : SlotView) : Bool :=
  v.row.any (fun r => decide (r.state = .running)) && v.phase.isUnsent

/-- A slot whose row is running and whose call is in an unsent phase has a call that was never
sent. -/
theorem SlotView.unsent_of_row {r : Invocation} (hrow : v.row = some r)
    (hrun : r.state = .running) (h : v.phase.isUnsent = true) : v.unsent = true := by
  simp [SlotView.unsent, hrow, hrun, h]

/-- One more action takes the phase of a slot one step on. -/
theorem SlotView.phase_snoc (v : SlotView) (a : Action) (row : Option Invocation)
    (retries : List Event) (released : ℕ) :
    (SlotView.mk row retries released (v.actions ++ [a])).phase = v.phase.next a := by
  unfold SlotView.phase
  rw [List.foldl_append]
  rfl

/-- A slot's action is of a call of the slot. -/
theorem isOf_slot {a : Action} (h : a.isOf stage provider = true) {call : Call}
    (hcall : a.call? = some call) : call.slot = (stage, provider) := by
  rw [isOf_eq_true] at h
  obtain ⟨call', hcall', hs, hp⟩ := h
  rw [hcall] at hcall'
  cases hcall'
  rw [Call.slot, hs, hp]

/-- What a task knows of its call, read off the view of its slot. -/
theorem InCall.view {call : Call} {phase : CallPhase → Prop} (h : InCall w call phase)
    (hslot : call.slot = (stage, provider)) :
    (∃ r, (w.view stage provider).row = some r ∧ r.state = .running ∧ r.id ∈ w.live) ∧
      (∃ before, (w.view stage provider).starts.getLast? = some (call, before)) ∧
      phase (w.view stage provider).phase := by
  rw [Call.slot, Prod.mk.injEq] at hslot
  obtain ⟨rfl, rfl⟩ := hslot
  exact ⟨h.running, h.last, h.phase⟩

/-- What is done for a slot, other than its call, leaves a call unsent only if it was. -/
theorem unsent_of_act {a : Action} (hof : a.isOf stage provider = true) (hstart : a.start? = none)
    (done : ActionDone rt spec w a) (h : ((w.view stage provider).phase.next a).isUnsent = true) :
    (w.view stage provider).phase.isUnsent = true := by
  cases a with
  | started => cases hstart
  | attempt => exact h
  | enter => exact h
  | overLimit => exact h
  | adjudicated => exact h
  | generate => cases h
  | reserved call attempt =>
    obtain ⟨-, -, hphase⟩ := done.2.toInCall.view (isOf_slot hof rfl)
    rw [hphase]
    rfl
  | granted call attempt =>
    obtain ⟨-, -, hphase⟩ := done.2.toInCall.view (isOf_slot hof rfl)
    rw [hphase]
    rfl
  | released call =>
    obtain ⟨-, -, hphase⟩ := done.2.view (isOf_slot hof rfl)
    rw [hphase]
    rfl
  | reconciled call => cases h
  | settled call =>
    obtain ⟨-, -, hphase⟩ := done.2.view (isOf_slot hof rfl)
    rcases hphase with hphase | hphase
    · rw [hphase]
      rfl
    · rw [hphase] at h
      cases h

/-! ### Bounded calls -/

/-- The start follows a truncated response. -/
def isTruncated (start : Call × Store) : Bool :=
  isLengthFailure (start.2.slot start.1.stage start.1.provider)

/-- The truncation retries on record. -/
def SlotView.truncations (v : SlotView) (stage : Stage) (provider : Str) : ℕ :=
  v.retries.countP (isTruncationRetry stage provider)

/-- The restarts of a truncated call are counted in the view of the slot. -/
theorem truncationRetryCount_view (w : World) (stage : Stage) (provider : Str) :
    w.store.truncationRetryCount stage provider =
      (w.view stage provider).truncations stage provider := by
  unfold SlotView.truncations World.view
  rw [List.countP_filter, truncationRetryCount_eq]
  refine List.countP_congr fun e _ => ?_
  unfold isTruncationRetry isRetry
  simp only [Bool.and_eq_true]
  tauto

/-- Every call made is paid for: by a call that the row counts, and after a truncated
response by a truncation retry on record.  The last start of a running row follows a
truncated response just when the last retry is one. -/
structure SlotView.Paid (stage : Stage) (provider : Str) (v : SlotView) : Prop where
  calls : (dispatchesOf v.actions).length + v.unsent.toNat ≤ v.calls
  last : ∀ r, v.row = some r → r.state = .running → ∃ start, v.starts.getLast? = some start ∧
    isTruncated start = v.retries.getLast?.any (isTruncationRetry stage provider)
  truncations : (dispatchesOf v.actions).countP isTruncated +
    (v.unsent && v.retries.getLast?.any (isTruncationRetry stage provider)).toNat ≤
      v.truncations stage provider

/-- A slot of which nothing is recorded has paid for nothing. -/
theorem SlotView.paid_empty (stage : Stage) (provider : Str) : SlotView.Paid stage provider {} where
  calls := le_rfl
  last r hr := by cases hr
  truncations := le_rfl

/-! ### The audit of the last start -/

/-- A retry is audited as a truncation retry just when the row it restarts was truncated. -/
theorem isTruncationRetry_audit {r : Invocation} (hslot : r.slot = (stage, provider))
    (e : ProviderError) :
    isTruncationRetry stage provider (Store.retryAudit r e) =
      decide (Store.lengthSuffix <:+ e.message) := by
  have hnd := keys_retryEvent_nodup r.stage r.provider (r.callCount + 1) e
  rw [Invocation.slot, Prod.mk.injEq] at hslot
  obtain ⟨rfl, rfl⟩ := hslot
  simp only [isTruncationRetry, Store.eventOfSlot, Store.retryAudit, Dict.get?_canon hnd]
  simp only [Store.retryEvent, Dict.get?_cons, lit_inj, String.reduceEq, if_true, if_false,
    Option.map_some, Json.canon, decide_true, Bool.true_and, Bool.and_self]
  unfold Store.retryKind
  split <;> simp_all

/-- What follows the last call is not the last call's start. -/
theorem SlotView.unsent_of_not_running {r : Invocation} (hrow : v.row = some r)
    (h : r.state ≠ .running) : v.unsent = false := by
  simp [SlotView.unsent, hrow, h]

/-- A row that stops running was paid for while it ran. -/
theorem SlotView.Paid.stop (hv : v.Paid stage provider) {r r' : Invocation}
    (hrow : v.row = some r) (hcount : r'.callCount = r.callCount) (hstop : r'.state ≠ .running) :
    SlotView.Paid stage provider { v with row := some r' } where
  calls := by
    have hcalls := hv.calls
    rw [SlotView.calls_of_row hrow] at hcalls
    rw [SlotView.calls_of_row (v := { v with row := some r' }) rfl, hcount,
      SlotView.unsent_of_not_running (v := { v with row := some r' }) rfl hstop]
    show (dispatchesOf v.actions).length + 0 ≤ _
    omega
  last x hx hrun := by
    cases hx
    exact absurd hrun hstop
  truncations := by
    have htruncations := hv.truncations
    rw [SlotView.unsent_of_not_running (v := { v with row := some r' }) rfl hstop, Bool.false_and]
    show (dispatchesOf v.actions).countP isTruncated + 0 ≤ v.truncations stage provider
    omega

/-- Something that is no call leaves what is paid for as it is. -/
theorem SlotView.Paid.act (hv : v.Paid stage provider) {a : Action} (hstart : a.start? = none)
    (hcall : ∀ call before, a ≠ .generate call before)
    (hunsent : (v.phase.next a).isUnsent = true → v.phase.isUnsent = true) :
    SlotView.Paid stage provider { v with actions := v.actions ++ [a] } := by
  have hle : SlotView.unsent { v with actions := v.actions ++ [a] } = true →
      v.unsent = true := by
    intro h
    unfold SlotView.unsent at h ⊢
    rw [SlotView.phase_snoc, Bool.and_eq_true] at h
    rw [Bool.and_eq_true]
    exact ⟨h.1, hunsent h.2⟩
  exact {
    calls := by
      have hcalls := hv.calls
      have hnat := Bool.toNat_le_toNat hle
      rw [dispatchesOf_snoc _ hcall]
      show _ ≤ v.calls
      omega
    last := fun r hr hrun => by
      rw [SlotView.starts_snoc, hstart, Option.toList_none, List.append_nil]
      exact hv.last r hr hrun
    truncations := by
      have htruncations := hv.truncations
      rw [dispatchesOf_snoc _ hcall]
      refine le_trans (Nat.add_le_add_left (Bool.toNat_le_toNat ?_) _) htruncations
      intro h
      rw [Bool.and_eq_true] at h ⊢
      exact ⟨hle h.1, h.2⟩ }

/-- A call is paid for by its start. -/
theorem SlotView.Paid.generate (hv : v.Paid stage provider) {r : Invocation}
    (hrow : v.row = some r) (hrun : r.state = .running) (hready : v.phase.isUnsent = true)
    (call : Call) (before : Store) :
    SlotView.Paid stage provider { v with actions := v.actions ++ [.generate call before] } := by
  obtain ⟨start, hstart, htruncated⟩ := hv.last r hrow hrun
  have hwas := SlotView.unsent_of_row hrow hrun hready
  have hnow : SlotView.unsent { v with actions := v.actions ++ [.generate call before] } =
      false := by
    unfold SlotView.unsent
    rw [SlotView.phase_snoc]
    exact Bool.and_false _
  have hdispatches : dispatchesOf (v.actions ++ [.generate call before]) =
      dispatchesOf v.actions ++ [start] := by
    rw [dispatchesOf_generate]
    show _ ++ v.starts.getLast?.toList = _
    rw [hstart]
    rfl
  exact {
    calls := by
      have hcalls := hv.calls
      rw [hwas] at hcalls
      rw [hnow, hdispatches, List.length_append]
      exact hcalls
    last := fun x hx hxrun => by
      rw [SlotView.starts_snoc]
      show ∃ s, (v.starts ++ []).getLast? = _ ∧ _
      rw [List.append_nil]
      exact hv.last x hx hxrun
    truncations := by
      have htruncations := hv.truncations
      rw [hwas, Bool.true_and, ← htruncated] at htruncations
      rw [hnow, hdispatches, Bool.false_and, List.countP_append, List.countP_singleton]
      show _ + (if isTruncated start = true then 1 else 0) + 0 ≤ v.truncations stage provider
      cases hs : isTruncated start <;> simp_all }

/-- A first start: no call was made, and no retry is on record. -/
theorem SlotView.Paid.first (hs : v.Sound stage provider) (hv : v.Paid stage provider)
    (hrow : v.row = none) (hslot : w.store.slot stage provider = none) {call : Call}
    (hcall : call.slot = (stage, provider)) {r : Invocation} (hcount : r.callCount = 1) :
    SlotView.Paid stage provider { v with
      row := some r
      actions := v.actions ++ [.started call w.store] } := by
  obtain ⟨priors, heq, hlen⟩ := hs.retries
  have hcalls : v.calls = 0 := by
    rw [SlotView.calls, hrow]
    rfl
  have hnil : priors = [] := List.length_eq_zero_iff.1 (by omega)
  subst hnil
  have hretries : v.retries.getLast?.any (isTruncationRetry stage provider) = false := by
    rw [heq]
    rfl
  have hdispatches := dispatchesOf_snoc v.actions (a := .started call w.store)
    fun _ _ h => by cases h
  have hpaid := hv.calls
  exact {
    calls := by
      rw [hdispatches, SlotView.calls_of_row (v := SlotView.mk _ _ _ _) rfl, hcount]
      have hle : (dispatchesOf v.actions).length ≤ 0 := by omega
      exact Nat.add_le_add hle (Bool.toNat_le _)
    last := fun r hr hrun => by
      refine ⟨(call, w.store), ?_, ?_⟩
      · rw [SlotView.starts_snoc]
        exact List.getLast?_concat ..
      · show isLengthFailure (w.store.slot call.stage call.provider) = _
        rw [Call.slot, Prod.mk.injEq] at hcall
        rw [hretries, hcall.1, hcall.2, hslot]
        rfl
    truncations := by
      rw [hdispatches]
      show _ + (_ && v.retries.getLast?.any (isTruncationRetry stage provider)).toNat ≤
        v.truncations stage provider
      rw [hretries, Bool.and_false]
      exact le_trans (Nat.add_le_add_left (Nat.zero_le _) _) hv.truncations }

/-- Another start: it puts its retry on record, which says of what kind it is. -/
theorem SlotView.Paid.again (hs : v.Sound stage provider) (hv : v.Paid stage provider)
    {call : Call} {r : Invocation} {e : ProviderError} (hrow : v.row = some r)
    (hstate : r.state = .failed e) (hslot : w.store.slot stage provider = some r)
    (hcall : call.slot = (stage, provider)) (ok : StartOk rt spec w.store call) :
    SlotView.Paid stage provider { v with
      row := some (Store.restart r)
      retries := v.retries ++ [Store.retryAudit r e]
      actions := v.actions ++ [.started call w.store] } := by
  have hcalls := hv.calls
  rw [SlotView.calls_of_row hrow] at hcalls
  have haudit := isTruncationRetry_audit (hs.slot r hrow) e
  have hdispatches := dispatchesOf_snoc v.actions (a := .started call w.store)
    fun _ _ h => by cases h
  have hslot' : w.store.slot call.stage call.provider = some r := by
    rw [Call.slot, Prod.mk.injEq] at hcall
    rw [hcall.1, hcall.2]
    exact hslot
  have hquiet := (ok.quiet _ r hslot').2
  have hretries : (v.retries ++ [Store.retryAudit r e]).getLast? =
      some (Store.retryAudit r e) := List.getLast?_concat ..
  exact {
    calls := by
      rw [hdispatches, SlotView.calls_of_row (v := SlotView.mk _ _ _ _) rfl]
      exact Nat.add_le_add (by omega) (Bool.toNat_le _)
    last := fun x hx hrun => by
      refine ⟨(call, w.store), ?_, ?_⟩
      · rw [SlotView.starts_snoc]
        exact List.getLast?_concat ..
      · show isLengthFailure (w.store.slot call.stage call.provider) =
          (v.retries ++ [Store.retryAudit r e]).getLast?.any _
        rw [hslot', isLengthFailure_eq hstate, hretries, Option.any_some, haudit]
        have hamb : e.ambiguous = false := by
          simpa [Invocation.failedAmbiguous, hstate] using hquiet
        rw [hamb]
        rfl
    truncations := by
      have htruncations := hv.truncations
      rw [hdispatches]
      show _ + (_ && (v.retries ++ [Store.retryAudit r e]).getLast?.any
        (isTruncationRetry stage provider)).toNat ≤
          (v.retries ++ [Store.retryAudit r e]).countP (isTruncationRetry stage provider)
      rw [hretries, Option.any_some, List.countP_append, List.countP_singleton]
      unfold SlotView.truncations at htruncations
      refine Nat.add_le_add (by omega) ?_
      cases isTruncationRetry stage provider (Store.retryAudit r e) <;> simp [Bool.toNat_le] }

/-- The first start is taken back while its call has not been made: none was. -/
theorem SlotView.Paid.cancel (hv : v.Paid stage provider) {r : Invocation}
    (hrow : v.row = some r) (hrun : r.state = .running) (hphase : v.phase.Unsent)
    (hcount : r.callCount = 1) :
    SlotView.Paid stage provider { v with row := none, released := v.released + 1 } := by
  have hunsent := SlotView.unsent_of_row hrow hrun hphase.isUnsent
  have hcalls := hv.calls
  have htruncations := hv.truncations
  rw [SlotView.calls_of_row hrow, hunsent] at hcalls
  exact {
    calls := by
      show (dispatchesOf v.actions).length + 0 ≤ 0
      have hone : true.toNat = 1 := rfl
      omega
    last := fun x hx => by cases hx
    truncations := by
      show (dispatchesOf v.actions).countP isTruncated + 0 ≤ v.truncations stage provider
      omega }

/-- Another start is taken back while its call has not been made, and its retry with it. -/
theorem SlotView.Paid.restore (hs : v.Sound stage provider) (hv : v.Paid stage provider)
    {r : Invocation} {callCount : ℕ} (e : ProviderError) (hrow : v.row = some r)
    (hrun : r.state = .running) (hphase : v.phase.Unsent) (hpos : 1 ≤ callCount)
    (hcount : callCount + 1 = r.callCount) :
    SlotView.Paid stage provider { v with
      row := some (Store.restore e callCount r)
      retries := v.retries.filter fun e => !Store.isRetryOf stage provider r.callCount e
      released := v.released + 1 } := by
  have hunsent := SlotView.unsent_of_row hrow hrun hphase.isUnsent
  have hcalls := hv.calls
  have htruncations := hv.truncations
  rw [SlotView.calls_of_row hrow, hunsent] at hcalls
  rw [hunsent, Bool.true_and] at htruncations
  obtain ⟨priors, heq, hlen⟩ := hs.retries
  rw [SlotView.calls_of_row hrow] at hlen
  rcases List.eq_nil_or_concat priors with rfl | ⟨init, last, rfl⟩
  · simp only [List.length_nil] at hlen
    omega
  · rw [List.concat_eq_append] at heq hlen
    rw [List.length_append, List.length_singleton] at hlen
    have hn : r.callCount = init.length + 2 := by omega
    have hstopped : (Store.restore e callCount r).state ≠ .running := by simp [Store.restore]
    have hnow : SlotView.unsent (SlotView.mk (some (Store.restore e callCount r))
        (v.retries.filter fun e => !Store.isRetryOf stage provider r.callCount e)
        (v.released + 1) v.actions) = false :=
      SlotView.unsent_of_not_running rfl hstopped
    have hone : true.toNat = 1 := rfl
    exact {
      calls := by
        rw [hnow, SlotView.calls_of_row (v := SlotView.mk _ _ _ _) rfl]
        show (dispatchesOf v.actions).length + 0 ≤ callCount
        omega
      last := fun x hx hxrun => by
        cases hx
        exact absurd hxrun hstopped
      truncations := by
        rw [hnow, Bool.false_and]
        unfold SlotView.truncations at htruncations ⊢
        show (dispatchesOf v.actions).countP isTruncated + 0 ≤
          (v.retries.filter fun e => !Store.isRetryOf stage provider r.callCount e).countP _
        rw [heq, hn, filter_isRetryOf_snoc]
        rw [heq, retryAudits_snoc, List.countP_append, List.countP_singleton,
          List.getLast?_concat, Option.any_some] at htruncations
        cases hlast : isTruncationRetry stage provider
          (retryAuditOf stage provider (init.length + 2) last) <;>
          rw [hlast] at htruncations
        · rw [if_neg Bool.false_ne_true, Bool.toNat_false] at htruncations
          omega
        · rw [if_pos rfl, hone] at htruncations
          omega }

/-- **Every move keeps the calls of a slot paid for.** -/
theorem SlotMove.paid (h : SlotMove rt spec stage provider w v v')
    (hview : v = w.view stage provider) (hs : v.Sound stage provider)
    (hv : v.Paid stage provider) : v'.Paid stage provider := by
  cases h with
  | same => exact hv
  | act a hof hstart done =>
    cases a with
    | generate call before =>
      obtain ⟨⟨r, hrow, hrun, -⟩, -, hready⟩ := done.2.2.toInCall.view (isOf_slot hof rfl)
      exact hv.generate (hview ▸ hrow) hrun (hview ▸ hready.isUnsent) call before
    | started => cases hstart
    | attempt | reserved | granted | released | reconciled | settled | enter | overLimit
    | adjudicated =>
      refine hv.act rfl (fun _ _ h => by cases h) fun h => ?_
      subst hview
      exact unsent_of_act hof rfl done h
  | first call config hslot hconfig ok hrow =>
    subst hview
    exact hv.first hs hrow hrow hslot rfl
  | again call config r e hslot hconfig ok hrow hstate hsame =>
    subst hview
    exact hv.again hs hrow hstate hrow hslot ok
  | succeed r response hrow hrun hlive hphase hstop =>
    exact hv.stop hrow rfl (by simp [Store.setState])
  | fail r error hrow hrun hlive => exact hv.stop hrow rfl (by simp [Store.setState])
  | cancel r hrow hrun hlive hphase hcount =>
    exact hv.cancel hrow hrun hphase hcount
  | restore r e callCount hrow hrun hlive hphase hpos hcount hprior =>
    exact hv.restore hs e hrow hrun hphase hpos hcount

/-- **The calls made for a slot are paid for** in every world of a run. -/
theorem Run.paid (h : Run rt spec w) (stage : Stage) (provider : Str) :
    (w.view stage provider).Paid stage provider :=
  h.view_induction stage provider (SlotView.paid_empty stage provider)
    fun _ _ _ hrun hview hmove hv =>
      hmove.paid hview (hview ▸ hrun.sound stage provider) hv

/-! ### The calls of a run -/

/-- The call that was made. -/
def Action.generated? : Action → Option Call
  | .generate call _ => some call
  | .started .. | .attempt .. | .reserved .. | .granted .. | .released _ | .reconciled _
  | .settled _ | .enter .. | .overLimit .. | .adjudicated .. => none

/-- The calls that were made, in order. -/
def World.dispatched (w : World) : List Call := w.trace.filterMap Action.generated?

/-- Every dispatch belongs to a start. -/
theorem mem_dispatchesOf {actions : List Action} {start : Call × Store}
    (h : start ∈ dispatchesOf actions) : start ∈ actions.filterMap Action.start? := by
  induction actions using List.reverseRecOn with
  | nil => cases h
  | append_singleton actions a ih =>
    rw [List.filterMap_append]
    by_cases ha : ∃ call before, a = .generate call before
    · obtain ⟨call, before, rfl⟩ := ha
      rw [dispatchesOf_generate, List.mem_append, Option.mem_toList] at h
      rcases h with h | h
      · exact List.mem_append_left _ (ih h)
      · exact List.mem_append_left _ (List.mem_of_getLast? h)
    · rw [dispatchesOf_snoc _ fun call before heq => ha ⟨call, before, heq⟩] at h
      exact List.mem_append_left _ (ih h)

/-- What was called for a slot is what was started. -/
theorem Run.generated_eq (h : Run rt spec w) (stage : Stage) (provider : Str) :
    (w.actionsOf stage provider).filterMap Action.generated? =
      (w.dispatchesOf stage provider).map Prod.fst := by
  refine h.view_induction (P := fun v => v.actions.filterMap Action.generated? =
    (CouncilLogic.dispatchesOf v.actions).map Prod.fst) stage provider rfl ?_
  intro w v v' hrun hview hmove hv
  cases hmove with
  | same | succeed | fail | cancel | restore => exact hv
  | first call | again call =>
    rw [List.filterMap_append, dispatchesOf_snoc _ (fun _ _ h => by cases h), hv]
    exact List.append_nil _
  | act a hof hstart done =>
    by_cases ha : ∃ call before, a = .generate call before
    · obtain ⟨call, before, rfl⟩ := ha
      obtain ⟨-, ⟨started, hlast⟩, -⟩ := done.2.2.toInCall.view (isOf_slot hof rfl)
      rw [← hview] at hlast
      show List.filterMap _ (v.actions ++ [.generate call before]) = _
      rw [List.filterMap_append, dispatchesOf_generate, List.map_append, hv]
      unfold SlotView.starts at hlast
      rw [hlast]
      rfl
    · have hnone : a.generated? = none := by
        cases a <;> first | rfl | exact absurd ⟨_, _, rfl⟩ ha
      show List.filterMap _ (v.actions ++ [a]) = _
      rw [List.filterMap_append, dispatchesOf_snoc _ fun call before heq => ha ⟨call, before, heq⟩,
        hv]
      simp [hnone]

/-- The calls of a slot are those that were made for it. -/
theorem filter_dispatched (w : World) (stage : Stage) (provider : Str) :
    w.dispatched.filter (fun call => call.slot = (stage, provider)) =
      (w.actionsOf stage provider).filterMap Action.generated? := by
  unfold World.dispatched World.actionsOf
  rw [List.filter_filterMap, List.filterMap_filter]
  refine List.filterMap_congr fun a _ => ?_
  cases a <;> simp [Action.generated?, Action.isOf, Action.call?, Option.filter]

/-- A call that was made was started where it may be. -/
theorem Run.dispatched_started (h : Run rt spec w) {call : Call} (hcall : call ∈ w.dispatched) :
    ∃ before, (call, before) ∈ w.dispatchesOf call.stage call.provider ∧
      StartOk rt spec before call := by
  have hmem : call ∈ w.dispatched.filter fun c => c.slot = (call.stage, call.provider) :=
    List.mem_filter.2 ⟨hcall, decide_eq_true rfl⟩
  rw [filter_dispatched, h.generated_eq, List.mem_map] at hmem
  obtain ⟨⟨call', before⟩, hstart, rfl⟩ := hmem
  obtain ⟨a, ha, hstarted⟩ := List.mem_filterMap.1 (mem_dispatchesOf hstart)
  cases a with
  | started call'' before' =>
    cases hstarted
    obtain ⟨w₀, hw₀⟩ := h.happened (List.mem_filter.1 ha).1
    obtain ⟨rfl, hok⟩ := hw₀.started
    exact ⟨_, hstart, hok⟩
  | attempt | generate | reserved | granted | released | reconciled | settled | enter | overLimit
  | adjudicated => cases hstarted

/-- **The calls that were made are counted.** -/
theorem Run.length_dispatched_le (h : Run rt spec w) :
    w.dispatched.length ≤ w.store.countCalls := by
  have hlength : w.dispatched.length = (w.dispatched.map Call.slot).length := by simp
  rw [hlength]
  refine Rows.length_le_sum h.inv.wellFormed.slots Invocation.callCount fun slot => ?_
  obtain ⟨stage, provider⟩ := slot
  have hcalls := (h.paid stage provider).calls
  have hmade : w.dispatched.filter (fun call => call.slot = (stage, provider)) =
      (w.dispatchesOf stage provider).map Prod.fst :=
    (filter_dispatched w stage provider).trans (h.generated_eq stage provider)
  have hcount : (w.dispatched.map Call.slot).countP (· = (stage, provider)) =
      (w.dispatchesOf stage provider).length := by
    rw [List.countP_map, List.countP_eq_length_filter]
    exact (congrArg List.length hmade).trans (List.length_map _)
  rw [hcount]
  exact (Nat.le_add_right _ _).trans hcalls

end CouncilLogic
