/-
# What a run does to one slot

All that is ever recorded of a slot is its `SlotView`: its row, the audit events of its
retries and refusals, and the actions taken for it.  A move of the run changes the view
of a slot in one of a few ways (`SlotMove`), so what holds of a slot throughout a run is
a fact about views alone (`Run.view_induction`).

A slot is a stage and a provider, the unique key of the table `invocations` in
`src/model_council/store.py`.  The moves of a view are the writes of that file seen from one slot:
`start_invocation`, the two `finish_invocation_*` and `release_undispatched_invocation`, and an
end of the process in between.
-/

import CouncilLogic.Engine.History

namespace CouncilLogic

open Protocol

variable {rt : Runtime} {spec : RunSpec} {w w' : World} {stage : Stage} {provider : Str}

/-! ### Views -/

/-- What is recorded of a slot. -/
@[ext]
structure SlotView where
  row : Option Invocation := none
  retries : List Event := []
  released : ℕ := 0
  actions : List Action := []

/-- The event is the audit of a retry of the slot. -/
def isRetry (stage : Stage) (provider : Str) (e : Event) : Bool :=
  Store.eventOfSlot e .providerRetryStarted stage provider

/-- What a world records of a slot. -/
def World.view (w : World) (stage : Stage) (provider : Str) : SlotView where
  row := w.store.slot stage provider
  retries := w.store.events.filter (isRetry stage provider)
  released := w.store.notDispatchedCount stage provider
  actions := w.actionsOf stage provider

/-- How far the last call has got. -/
def SlotView.phase (v : SlotView) : CallPhase := v.actions.foldl CallPhase.next .idle

/-- The starts. -/
def SlotView.starts (v : SlotView) : List (Call × Store) := v.actions.filterMap Action.start?

/-- The phase of a slot's last call is read off its view. -/
theorem view_phase (w : World) (stage : Stage) (provider : Str) :
    (w.view stage provider).phase = w.phase stage provider := rfl

/-- What a move of the run does to the view of a slot. -/
inductive SlotMove (rt : Runtime) (spec : RunSpec) (stage : Stage) (provider : Str) (w : World)
    (v : SlotView) : SlotView → Prop
  /-- Nothing. -/
  | same : SlotMove rt spec stage provider w v v
  /-- Something is done for the slot. -/
  | act (a : Action) (hof : a.isOf stage provider = true) (hstart : a.start? = none)
      (done : ActionDone rt spec w a) :
      SlotMove rt spec stage provider w v { v with actions := v.actions ++ [a] }
  /-- Its first call is started. -/
  | first (call : Call) (config : ProviderConfig) (hslot : call.slot = (stage, provider))
      (hconfig : spec.config.config? provider = some config) (ok : StartOk rt spec w.store call)
      (hrow : v.row = none) :
      SlotMove rt spec stage provider w v { v with
        row := some (Store.newRow rt w.store stage provider config.model config.lineage
          (combinedPrompt call.prompts))
        actions := v.actions ++ [.started call w.store] }
  /-- It is called again. -/
  | again (call : Call) (config : ProviderConfig) (r : Invocation) (e : ProviderError)
      (hslot : call.slot = (stage, provider))
      (hconfig : spec.config.config? provider = some config) (ok : StartOk rt spec w.store call)
      (hrow : v.row = some r) (hstate : r.state = .failed e)
      (hsame : r.model = config.model ∧ r.lineage = config.lineage ∧
        r.promptSha256 = rt.sha256 (combinedPrompt call.prompts)) :
      SlotMove rt spec stage provider w v { v with
        row := some (Store.restart r)
        retries := v.retries ++ [Store.retryAudit r e]
        actions := v.actions ++ [.started call w.store] }
  /-- Its call succeeds. -/
  | succeed (r : Invocation) (response : ProviderResponse) (hrow : v.row = some r)
      (hrun : r.state = .running) (hlive : r.id ∈ w.live) (hphase : v.phase.Done)
      (hstop : response.finishReason = some (lit "stop")) :
      SlotMove rt spec stage provider w v { v with
        row := some (Store.setState (.succeeded (Store.storedResponse response)) r) }
  /-- Its call fails, or is found to have been left running. -/
  | fail (r : Invocation) (error : ProviderError) (hrow : v.row = some r)
      (hrun : r.state = .running)
      (hlive : (r.id ∈ w.live ∧ v.phase.Closes error) ∨ error = priorAmbiguousError)
      (hencodes : error.Encodes) :
      SlotMove rt spec stage provider w v { v with
        row := some (Store.setState (.failed error) r) }
  /-- Its first call was not made. -/
  | cancel (r : Invocation) (hrow : v.row = some r) (hrun : r.state = .running)
      (hlive : r.id ∈ w.live) (hphase : v.phase.Unsent) (hcount : r.callCount = 1) :
      SlotMove rt spec stage provider w v { v with row := none, released := v.released + 1 }
  /-- A retry was not made. -/
  | restore (r : Invocation) (e : ProviderError) (callCount : ℕ) (hrow : v.row = some r)
      (hrun : r.state = .running) (hlive : r.id ∈ w.live) (hphase : v.phase.Unsent)
      (hpos : 1 ≤ callCount) (hcount : callCount + 1 = r.callCount)
      (hprior : e.ambiguous = false) (hencodes : e.Encodes) :
      SlotMove rt spec stage provider w v { v with
        row := some (Store.restore e callCount r)
        retries := v.retries.filter fun e => !Store.isRetryOf stage provider r.callCount e
        released := v.released + 1 }

/-! ### Moves -/

/-- The fields of the audit of a retry. -/
theorem get?_retryAudit (r : Invocation) (e : ProviderError) (key : Str) :
    (Store.retryAudit r e).payload.get? key =
      (Dict.get? (Store.retryEvent r.stage r.provider (r.callCount + 1) e) key).map Json.canon :=
  Dict.get?_canon (keys_retryEvent_nodup _ _ _ _)

/-- The audit of a retry is one of its slot. -/
theorem isRetry_retryAudit (r : Invocation) (e : ProviderError) (s : Stage) (p : Str) :
    isRetry s p (Store.retryAudit r e) = decide (r.slot = (s, p)) := by
  unfold isRetry Store.eventOfSlot
  rw [get?_retryAudit, get?_retryAudit]
  simp [Store.retryAudit, Store.retryEvent, Dict.get?_cons, Json.canon, Invocation.slot]

/-- Only audits of retries are retries of a slot. -/
theorem isRetry_of_type {e : Event} (h : e.type ≠ .providerRetryStarted) (s : Stage) (p : Str) :
    isRetry s p e = false := by
  simp [isRetry, Store.eventOfSlot, h]

/-- An event of another type is no retry of any slot. -/
theorem filter_isRetry_addEvent {st : Store} {type : EventType} {payload : Dict}
    (h : type ≠ .providerRetryStarted) (s : Stage) (p : Str) :
    (st.addEvent type payload).events.filter (isRetry s p) = st.events.filter (isRetry s p) := by
  rw [events_addEvent, List.filter_append, List.filter_singleton, isRetry_of_type h]
  simp

/-- Releasing a retry removes its audit, and no audit of another slot. -/
theorem filter_isRetry_released {st : Store} {r : Invocation} {payload : Dict} (s : Stage)
    (p : Str) :
    (Store.releasedEvents st r payload).filter (isRetry s p) =
      if r.slot = (s, p) then
        (st.events.filter (isRetry s p)).filter fun e => !Store.isRetryOf s p r.callCount e
      else st.events.filter (isRetry s p) := by
  unfold Store.releasedEvents
  rw [List.filter_append, List.filter_singleton, isRetry_of_type (by simp), List.filter_filter]
  rw [cond_false, List.append_nil]
  by_cases heq : r.slot = (s, p)
  · rw [if_pos heq, List.filter_filter]
    rw [Invocation.slot, Prod.mk.injEq] at heq
    rw [heq.1, heq.2]
    exact List.filter_congr fun e _ => Bool.and_comm _ _
  · rw [if_neg heq]
    refine List.filter_congr fun e _ => ?_
    by_cases he : isRetry s p e = true
    · have hno : Store.isRetryOf r.stage r.provider r.callCount e = false := by
        rw [← Bool.not_eq_true]
        intro hr
        simp only [isRetry, Store.eventOfSlot, Bool.and_eq_true, decide_eq_true_eq] at he
        simp only [Store.isRetryOf, Bool.and_eq_true, decide_eq_true_eq] at hr
        have hs := he.1.2.symm.trans hr.1.1.2
        have hp := he.2.symm.trans hr.1.2
        simp only [Option.some.injEq, Json.str.injEq, Stage.name_inj] at hs hp
        exact heq (by rw [Invocation.slot, hs, hp])
      simp [he, hno]
    · simp [he]

/-- Views of a slot that differ in nothing. -/
theorem view_congr (hrow : w'.store.slot stage provider = w.store.slot stage provider)
    (hretries : w'.store.events.filter (isRetry stage provider) =
      w.store.events.filter (isRetry stage provider))
    (hreleased : w'.store.notDispatchedCount stage provider =
      w.store.notDispatchedCount stage provider)
    (hactions : w'.actionsOf stage provider = w.actionsOf stage provider) :
    w'.view stage provider = w.view stage provider := by
  unfold World.view
  rw [hrow, hretries, hreleased, hactions]

/-- The view of a slot other than the one that is started. -/
theorem view_started_other (hwf : w.store.WellFormed) {call : Call} {config : ProviderConfig}
    {id : ℕ} {st : Store} (ok : StartOk rt spec w.store call)
    (h : w.store.startInvocation rt call.stage call.provider config.model config.lineage
      (combinedPrompt call.prompts) = .ok (id, st)) (hne : call.slot ≠ (stage, provider)) :
    World.view { w.record (.started call w.store) with store := st, live := id :: w.live }
      stage provider = w.view stage provider := by
  obtain ⟨r, hs⟩ := started_of_ok hwf ok.free h
  refine view_congr ?_ ?_ (hs.released stage provider) ?_
  · exact (hs.slots stage provider).trans (if_neg (by rw [hs.slot_eq]; exact hne))
  · obtain ⟨audits, he, ht⟩ := hs.events
    have hnil : audits.filter (isRetry stage provider) = [] := by
      refine List.filter_eq_nil_iff.2 fun e hm => ?_
      obtain ⟨old, prior, hold, -, rfl⟩ := ht e hm
      obtain ⟨hstage, hprovider⟩ := Store.slot_fields hold
      rw [isRetry_retryAudit, Invocation.slot, hstage, hprovider]
      simpa [Call.slot] using hne
    show st.events.filter _ = _
    rw [he, List.filter_append, hnil, List.append_nil]
  · have hother : (w.record (.started call w.store)).actionsOf stage provider =
        w.actionsOf stage provider := by
      refine actionsOf_record_of_not ?_
      exact decide_eq_false hne
    exact hother

/-- The view of the slot that is started. -/
theorem view_started (hwf : w.store.WellFormed) {call : Call} {config : ProviderConfig}
    {id : ℕ} {st : Store} (hconfig : spec.config.config? call.provider = some config)
    (ok : StartOk rt spec w.store call)
    (h : w.store.startInvocation rt call.stage call.provider config.model config.lineage
      (combinedPrompt call.prompts) = .ok (id, st)) :
    SlotMove rt spec call.stage call.provider w (w.view call.stage call.provider)
      (World.view { w.record (.started call w.store) with store := st, live := id :: w.live }
        call.stage call.provider) := by
  have hactions : (w.record (.started call w.store)).actionsOf call.stage call.provider =
      w.actionsOf call.stage call.provider ++ [.started call w.store] := by
    rw [actionsOf_record, if_pos (by simp [Action.isOf, Action.call?, Call.slot])]
  rcases Store.startInvocation_ok h with ⟨hslot, rfl, rfl⟩ |
    ⟨r, hslot, rfl, hmodel, hlineage, hsha, ⟨e, hstate, rfl⟩ | ⟨hne, -⟩⟩
  · have hrow : (w.view call.stage call.provider).row = none := hslot
    have hnew : (w.store.insertRow (Store.newRow rt w.store call.stage call.provider config.model
        config.lineage (combinedPrompt call.prompts))).slot call.stage call.provider =
        some (Store.newRow rt w.store call.stage call.provider config.model config.lineage
          (combinedPrompt call.prompts)) := by
      rw [Store.slot_insertRow hslot]
      exact if_pos rfl
    have hfirst := SlotMove.first call config rfl hconfig ok hrow
    convert hfirst using 1
    exact SlotView.ext hnew rfl rfl hactions
  · obtain ⟨hmem, hstage, hprovider⟩ := hwf.slot_eq_some.1 hslot
    have hrow : (w.view call.stage call.provider).row = some r := hslot
    have hself : r.slot = (call.stage, call.provider) := by
      rw [Invocation.slot, hstage, hprovider]
    have hnew : ((w.store.updateInvocation r.id Store.restart).withEvents
        (w.store.events ++ [Store.retryAudit r e])).slot call.stage call.provider =
        some (Store.restart r) := by
      rw [Store.slot_withEvents, hwf.slot_update Store.keepsKeys_restart hmem, if_pos hself]
    have hretries : (w.store.events ++ [Store.retryAudit r e]).filter
        (isRetry call.stage call.provider) =
        w.store.events.filter (isRetry call.stage call.provider) ++ [Store.retryAudit r e] := by
      rw [List.filter_append, List.filter_singleton, isRetry_retryAudit, decide_eq_true hself]
      rfl
    have hreleased : (w.store.events ++ [Store.retryAudit r e]).countP
        (isNotDispatched call.stage call.provider) =
        w.store.events.countP (isNotDispatched call.stage call.provider) := by
      rw [List.countP_append, List.countP_singleton,
        isNotDispatched_of_type (by simp [Store.retryAudit])]
      rfl
    have hagain := SlotMove.again call config r e rfl hconfig ok hrow hstate
      ⟨hmodel, hlineage, hsha⟩
    convert hagain using 1
    exact SlotView.ext hnew hretries hreleased hactions
  · obtain ⟨e, he⟩ := ok.free r hslot
    exact absurd he (hne e)

/-- The row of a slot that one step changes, and the rows it leaves alone. -/
theorem view_update (hwf : w.store.WellFormed) {f : Invocation → Invocation}
    (hf : Store.KeepsKeys f) {r : Invocation} (hr : r ∈ w.store.invocations) (s : Stage) (p : Str) :
    (w.withStore (w.store.updateInvocation r.id f)).view s p =
      if r.slot = (s, p) then { w.view s p with row := some (f r) } else w.view s p := by
  have hslot := hwf.slot_update hf hr s p
  by_cases heq : r.slot = (s, p)
  · rw [if_pos heq] at hslot ⊢
    exact SlotView.ext hslot rfl rfl rfl
  · rw [if_neg heq] at hslot ⊢
    exact view_congr hslot rfl rfl rfl

/-- The row of a slot, seen from its view. -/
theorem view_row (hwf : w.store.WellFormed) {r : Invocation} (hr : r ∈ w.store.invocations)
    {s : Stage} {p : Str} (heq : r.slot = (s, p)) : (w.view s p).row = some r := by
  rw [Invocation.slot, Prod.mk.injEq] at heq
  have hslot := hwf.slot_of_mem hr
  rwa [heq.1, heq.2] at hslot

/-- **A step of a stage moves every slot.** -/
theorem StageStep.view {names : List Str} (h : StageStep rt spec stage names w w')
    (hwf : w.store.WellFormed) (s : Stage) (p : Str) :
    SlotMove rt spec s p w (w.view s p) (w'.view s p) := by
  cases h with
  | tick elapsed => exact .same
  | act a ok hname =>
    by_cases hof : a.isOf s p = true
    · have hstart : a.start? = none := by
        cases a <;> first | exact ok.elim | rfl
      have hact := SlotMove.act (v := w.view s p) a hof hstart ok.done
      convert hact using 1
      refine SlotView.ext rfl rfl rfl ?_
      show (w.record a).actionsOf s p = w.actionsOf s p ++ [a]
      rw [actionsOf_record, if_pos hof]
    · have hother : (w.record a).view s p = w.view s p :=
        view_congr rfl rfl rfl (actionsOf_record_of_not (by simpa using hof))
      rw [hother]
      exact .same
  | audit type payload ht =>
    have hother : (w.withStore (w.store.addEvent type payload)).view s p = w.view s p :=
      view_congr rfl (filter_isRetry_addEvent (by rintro rfl; cases ht) s p)
        (notDispatchedCount_addEvent (by rintro rfl; cases ht) s p) rfl
    rw [hother]
    exact .same
  | start call config id st hname hstage hconfig ok h =>
    by_cases heq : call.slot = (s, p)
    · rw [Call.slot, Prod.mk.injEq] at heq
      obtain ⟨rfl, rfl⟩ := heq
      exact view_started hwf hconfig ok h
    · rw [view_started_other hwf ok h heq]
      exact .same
  | succeed r response hr hname hstage hrun hlive hphase hstop =>
    rw [view_update hwf (Store.keepsKeys_setState _) hr]
    by_cases heq : r.slot = (s, p)
    · rw [if_pos heq]
      refine .succeed r response (view_row hwf hr heq) hrun hlive ?_ hstop
      rw [Invocation.slot, Prod.mk.injEq] at heq
      rw [view_phase, ← heq.1, ← heq.2]
      exact hphase
    · rw [if_neg heq]
      exact .same
  | fail r error hr hname hstage hrun hlive hencodes =>
    rw [view_update hwf (Store.keepsKeys_setState _) hr]
    by_cases heq : r.slot = (s, p)
    · rw [if_pos heq]
      refine .fail r error (view_row hwf hr heq) hrun (hlive.imp_left fun hl => ⟨hl.1, ?_⟩)
        hencodes
      rw [Invocation.slot, Prod.mk.injEq] at heq
      rw [view_phase, ← heq.1, ← heq.2]
      exact hl.2
    · rw [if_neg heq]
      exact .same
  | cancel r payload hr hname hstage hrun hlive hphase hcount hpayload =>
    have hslot := hwf.slot_delete hr s p
    have hreleased : ((w.store.deleteRow r.id).addEvent .providerCallNotDispatched
        payload).notDispatchedCount s p = w.store.notDispatchedCount s p +
          if r.slot = (s, p) then 1 else 0 := notDispatchedCount_release hpayload s p
    have hretries : ((w.store.deleteRow r.id).addEvent .providerCallNotDispatched
        payload).events.filter (isRetry s p) = w.store.events.filter (isRetry s p) :=
      filter_isRetry_addEvent (by simp) s p
    by_cases heq : r.slot = (s, p)
    · rw [if_pos heq] at hslot hreleased
      have hphase' : (w.view s p).phase.Unsent := by
        rw [Invocation.slot, Prod.mk.injEq] at heq
        rw [view_phase, ← heq.1, ← heq.2]
        exact hphase
      have hcancel : SlotMove rt spec s p w _ _ :=
        .cancel r (view_row hwf hr heq) hrun hlive hphase' hcount
      convert hcancel using 1
      exact SlotView.ext hslot hretries hreleased rfl
    · rw [if_neg heq] at hslot hreleased
      have hother : (w.withStore ((w.store.deleteRow r.id).addEvent .providerCallNotDispatched
          payload)).view s p = w.view s p := view_congr hslot hretries hreleased rfl
      rw [hother]
      exact .same
  | restore r e callCount payload hr hname hstage hrun hlive hphase hpos hcount hprior haudit
      hpayload hencodes =>
    have hslot := hwf.slot_update (Store.keepsKeys_restore e callCount) hr s p
    have hreleased : (Store.releasedEvents w.store r payload).countP (isNotDispatched s p) =
        w.store.notDispatchedCount s p + if r.slot = (s, p) then 1 else 0 :=
      notDispatchedCount_released hpayload s p
    have hretries : (Store.releasedEvents w.store r payload).filter (isRetry s p) =
        if r.slot = (s, p) then (w.store.events.filter (isRetry s p)).filter fun e =>
          !Store.isRetryOf s p r.callCount e
        else w.store.events.filter (isRetry s p) := filter_isRetry_released s p
    by_cases heq : r.slot = (s, p)
    · rw [if_pos heq] at hslot hreleased hretries
      have hphase' : (w.view s p).phase.Unsent := by
        rw [Invocation.slot, Prod.mk.injEq] at heq
        rw [view_phase, ← heq.1, ← heq.2]
        exact hphase
      have hrestore : SlotMove rt spec s p w _ _ :=
        .restore r e callCount (view_row hwf hr heq) hrun hlive hphase' hpos hcount hprior hencodes
      convert hrestore using 1
      exact SlotView.ext hslot hretries hreleased rfl
    · rw [if_neg heq] at hslot hreleased hretries
      have hother : (w.withStore ((w.store.updateInvocation r.id (Store.restore e
          callCount)).withEvents (Store.releasedEvents w.store r payload))).view s p =
          w.view s p := view_congr hslot hretries hreleased rfl
      rw [hother]
      exact .same

/-- **A step of a stage leaves the slots of other providers** as they are. -/
theorem StageStep.view_other {names : List Str} (h : StageStep rt spec stage names w w')
    (hwf : w.store.WellFormed) {p : Str} (hp : p ∉ names) : w'.view stage p = w.view stage p := by
  have hk := h.keeps hwf
  have hne : ∀ r : Invocation, r.provider ∈ names → r.slot ≠ (stage, p) := by
    rintro r hname heq
    rw [Invocation.slot, Prod.mk.injEq] at heq
    exact hp (heq.2 ▸ hname)
  refine view_congr (hk.slots _ _ (.inr hp)) ?_ (hk.released _ _ (.inr hp))
    (hk.actions _ _ (.inr hp))
  cases h with
  | tick => rfl
  | act => rfl
  | audit type payload ht => exact filter_isRetry_addEvent (by rintro rfl; cases ht) _ _
  | start call config id st hname hstage hconfig ok h =>
    obtain ⟨r, hs⟩ := started_of_ok hwf ok.free h
    obtain ⟨audits, he, ht⟩ := hs.events
    show st.events.filter _ = _
    rw [he, List.filter_append, List.append_right_eq_self, List.filter_eq_nil_iff]
    intro e hm
    obtain ⟨old, prior, hold, -, rfl⟩ := ht e hm
    obtain ⟨-, hprovider⟩ := Store.slot_fields hold
    rw [isRetry_retryAudit, decide_eq_true_eq]
    exact hne old (hprovider ▸ hname)
  | succeed => rfl
  | fail => rfl
  | cancel => exact filter_isRetry_addEvent (by simp) _ _
  | restore r e callCount payload hr hname =>
    exact (filter_isRetry_released stage p).trans (if_neg (hne r hname))

/-- A store that keeps the rows, the retries and the refusals of a slot. -/
theorem view_addEvent {type : EventType} (payload : Dict) (hretry : type ≠ .providerRetryStarted)
    (hreleased : type ≠ .providerCallNotDispatched) (s : Stage) (p : Str) :
    (w.withStore (w.store.addEvent type payload)).view s p = w.view s p :=
  view_congr rfl (filter_isRetry_addEvent hretry s p) (notDispatchedCount_addEvent hreleased s p)
    rfl

/-- **A move of a run moves every slot.** -/
theorem RunMove.view (h : RunMove rt spec w w') (hwf : w.store.WellFormed) (s : Stage) (p : Str) :
    SlotMove rt spec s p w (w.view s p) (w'.view s p) := by
  rcases h with h | rfl
  · cases h with
    | stage _ _ _ hs => exact hs.view hwf s p
    | audit type payload ht =>
      rw [view_addEvent payload (by rintro rfl; cases ht) (by rintro rfl; cases ht)]
      exact .same
    | status => exact .same
    | marker =>
      rw [view_addEvent _ (by simp) (by simp)]
      exact .same
    | lockNamespace =>
      rw [view_addEvent _ (by simp) (by simp)]
      exact .same
    | lockAdjudication =>
      rw [view_addEvent _ (by simp) (by simp)]
      exact .same
    | adjudicate mapping records aggregate ok =>
      have hother : (w.record (.adjudicated mapping records aggregate)).view s p = w.view s p :=
        view_congr rfl rfl rfl (actionsOf_record_of_not rfl)
      rw [hother]
      exact .same
    | advance =>
      rw [view_addEvent _ (by simp) (by simp)]
      exact .same
    | finish q result event hopen ok =>
      have hother : (w.withStore (w.store.addEvent .runFinished event)).view s p = w.view s p :=
        view_addEvent event (by simp) (by simp) s p
      have hsame : (w.withStore { w.store with
          run := { w.store.run with status := q.status, result := some result.canon }
          events := w.store.events ++ [⟨.runFinished, event⟩] }).view s p = w.view s p := hother
      rw [hsame]
      exact .same
  · exact .same

/-- **Induction over what a run does to a slot.** -/
theorem Run.view_induction {P : SlotView → Prop} (h : Run rt spec w) (s : Stage) (p : Str)
    (hcreated : P {})
    (hmove : ∀ w v v', Run rt spec w → v = w.view s p → SlotMove rt spec s p w v v' → P v → P v') :
    P (w.view s p) := by
  refine h.induction (P := fun w => P (w.view s p)) ?_ ?_
  · intro eng draws question st hcreate _
    obtain ⟨rfl, -⟩ := createRun_ok hcreate
    exact hcreated
  · intro w w' hrun hinv hmove' hp
    exact hmove w _ _ hrun rfl (hmove'.view hinv.wellFormed s p) hp

/-- What holds of a slot goes on to hold if every move keeps it. -/
theorem Run.view_later {P : SlotView → Prop} (h : Run rt spec w)
    (hsteps : Relation.ReflTransGen (RunMove rt spec) w w') (s : Stage) (p : Str)
    (hmove : ∀ w v v', Run rt spec w → v = w.view s p → SlotMove rt spec s p w v v' → P v → P v')
    (hnow : P (w.view s p)) : P (w'.view s p) := by
  induction hsteps with
  | refl => exact hnow
  | tail hinit hlast ih =>
    have hrun := h.trans hinit
    exact hmove _ _ _ hrun rfl (hlast.view hrun.inv.wellFormed s p) ih

end CouncilLogic
