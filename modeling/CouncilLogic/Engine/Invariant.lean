/-
# What every step keeps

Each step changes at most one row, and a row that has succeeded never again.  The
locks are written once.  So the steps keep a store well formed, the run's own columns
as they are, and everything that is final (`Extends`).

The steps are those of `CouncilLogic.Engine.Step`, which every resume of
`src/model_council/engine.py` takes (`CouncilLogic.Engine.ResumeSpec`).  `Inv` collects what a
store of a run satisfies at every moment, `Extends` is the order in which its states follow each
other: rows that have succeeded stay, locks stay, events of the locks are only appended.
Everything later in the development is derived from these two and from the steps; no later module
looks at the engine's control flow again.
-/

import CouncilLogic.Engine.Step

namespace CouncilLogic

open Protocol

variable {rt : Runtime} {spec : RunSpec} {stage : Stage} {names : List Str} {w w' : World}

/-! ### One started invocation -/

/-- What `start_invocation` does for a slot that is free. -/
structure Started (rt : Runtime) (st st' : Store) (stage : Stage) (provider prompt : Str) (id : ℕ)
    (r : Invocation) : Prop where
  slot_eq : r.slot = (stage, provider)
  id_eq : r.id = id
  running : r.state = .running
  callCount : r.callCount = ((st.slot stage provider).map Invocation.callCount).getD 0 + 1
  prompt : r.promptText = ((st.slot stage provider).map Invocation.promptText).getD prompt
  same_id : ∀ old, st.slot stage provider = some old → old.id = id
  new_id : st.slot stage provider = none → id = st.nextId
  slots : ∀ s p, st'.slot s p = if r.slot = (s, p) then some r else st.slot s p
  countCalls : st'.countCalls = st.countCalls + 1
  wellFormed : st'.WellFormed
  run : st'.run = st.run
  events : ∃ audits, st'.events = st.events ++ audits ∧
    ∀ e ∈ audits, ∃ old prior, st.slot stage provider = some old ∧ old.state = .failed prior ∧
      e = Store.retryAudit old prior

/-- A free slot is started. -/
theorem started_of_ok {st st' : Store} (hwf : st.WellFormed) {stage : Stage}
    {provider model lineage prompt : Str} {id : ℕ}
    (hfree : ∀ r, st.slot stage provider = some r → ∃ e, r.state = .failed e)
    (h : st.startInvocation rt stage provider model lineage prompt = .ok (id, st')) :
    ∃ r, Started rt st st' stage provider prompt id r := by
  rcases Store.startInvocation_ok h with ⟨hslot, rfl, rfl⟩ | ⟨r, hslot, rfl, -, -, -, hr⟩
  · refine ⟨Store.newRow rt st stage provider model lineage prompt, ?_⟩
    have hfields : st.slot (Store.newRow rt st stage provider model lineage prompt).stage
        (Store.newRow rt st stage provider model lineage prompt).provider = none := hslot
    exact {
      slot_eq := rfl
      id_eq := rfl
      running := rfl
      callCount := by
        rw [hslot]
        rfl
      prompt := by
        rw [hslot]
        rfl
      same_id := fun old hold => by simp [hslot] at hold
      new_id := fun _ => rfl
      slots := Store.slot_insertRow hfields
      countCalls := Store.countCalls_insertRow _
      wellFormed := hwf.insertRow rfl hfields
      run := rfl
      events := ⟨[], by simp, by simp⟩ }
  · obtain ⟨e, hstate⟩ := hfree r hslot
    obtain ⟨hmem, hstage, hprovider⟩ := hwf.slot_eq_some.1 hslot
    rcases hr with ⟨e', he', rfl⟩ | ⟨hne, -⟩
    · refine ⟨Store.restart r, ?_⟩
      have hcount := hwf.countCalls_update (f := Store.restart) hmem
      exact {
        slot_eq := by simp [Store.restart, Invocation.slot, hstage, hprovider]
        id_eq := rfl
        running := rfl
        callCount := by
          rw [hslot]
          rfl
        prompt := by
          rw [hslot]
          rfl
        same_id := fun old hold => by
          rw [hslot] at hold
          cases hold
          rfl
        new_id := fun hnone => by simp [hslot] at hnone
        slots := fun s p => by
          rw [Store.slot_withEvents, hwf.slot_update Store.keepsKeys_restart hmem]
          rfl
        countCalls := by
          rw [Store.countCalls_withEvents]
          simp only [Store.restart] at hcount ⊢
          omega
        wellFormed := (hwf.updateInvocation Store.keepsKeys_restart _).withEvents _
        run := rfl
        events := ⟨[Store.retryAudit r e'], rfl, fun a ha => by
          rw [List.mem_singleton] at ha
          exact ⟨r, e', hslot, he', ha⟩⟩ }
    · exact absurd hstate (hne e)

/-- A started slot was free, so nothing that had succeeded is touched. -/
theorem Started.successful {st st' : Store} {provider prompt : Str} {id : ℕ} {r : Invocation}
    (h : Started rt st st' stage provider prompt id r)
    (hfree : ∀ r, st.slot stage provider = some r → ∃ e, r.state = .failed e)
    {s : Stage} {p : Str} {response : ProviderResponse}
    (hs : st.successful s p = some response) : st'.successful s p = some response := by
  rw [Store.successful_eq_some] at hs ⊢
  obtain ⟨old, hold, hstate⟩ := hs
  refine ⟨old, ?_, hstate⟩
  rw [h.slots, if_neg, hold]
  intro heq
  rw [h.slot_eq, Prod.mk.injEq] at heq
  obtain ⟨rfl, rfl⟩ := heq
  obtain ⟨e, he⟩ := hfree old hold
  rw [he] at hstate
  cases hstate

/-- Events that lock nothing leave the locks as they are. -/
theorem lockEvents_append {events audits : List Event} (h : ∀ e ∈ audits, e.type.isLock = false) :
    lockEvents (events ++ audits) = lockEvents events := by
  unfold lockEvents
  have hnil : audits.filter (fun e => e.type.isLock) = [] :=
    List.filter_eq_nil_iff.2 fun e he => by simp [h e he]
  rw [List.filter_append, hnil, List.append_nil]

/-- Starting an invocation locks nothing. -/
theorem Started.lockEvents {st st' : Store} {provider prompt : Str} {id : ℕ} {r : Invocation}
    (h : Started rt st st' stage provider prompt id r) :
    lockEvents st'.events = lockEvents st.events := by
  obtain ⟨audits, he, ht⟩ := h.events
  rw [he]
  refine lockEvents_append fun e hm => ?_
  obtain ⟨old, prior, -, -, rfl⟩ := ht e hm
  rfl

/-! ### Steps of a stage -/

/-- The audits of a stage lock nothing. -/
theorem isStageAudit_isLock {type : EventType} (h : type.isStageAudit = true) :
    type.isLock = false := by
  cases type <;> simp_all [EventType.isStageAudit, EventType.isLock]

/-- The audits of a resume lock nothing. -/
theorem isResumeAudit_isLock {type : EventType} (h : type.isResumeAudit = true) :
    type.isLock = false := by
  cases type <;> simp_all [EventType.isResumeAudit, EventType.isLock]

/-- An event that locks nothing leaves the locks as they are. -/
theorem lockEvents_addEvent {st : Store} {type : EventType} {payload : Dict}
    (h : type.isLock = false) :
    lockEvents (st.addEvent type payload).events = lockEvents st.events :=
  lockEvents_append fun e he => by
    rw [List.mem_singleton] at he
    rw [he]
    exact h

/-- A release removes a retry audit and adds its own record; the locks stay. -/
theorem lockEvents_released (st : Store) (r : Invocation) (payload : Dict) :
    lockEvents (Store.releasedEvents st r payload) = lockEvents st.events := by
  unfold Store.releasedEvents
  rw [lockEvents_append (by simp [EventType.isLock])]
  unfold lockEvents
  rw [List.filter_filter]
  refine List.filter_congr fun e _ => ?_
  by_cases he : e.type = .providerRetryStarted
  · simp [he, EventType.isLock]
  · simp [Store.isRetryOf, he]

/-- A slot that has succeeded is not the slot of a running row. -/
theorem slot_ne_of_running {st : Store} (hwf : st.WellFormed) {r : Invocation}
    (hr : r ∈ st.invocations) (hrun : r.state = .running) {s : Stage} {p : Str}
    {old : Invocation} {response : ProviderResponse} (hold : st.slot s p = some old)
    (hstate : old.state = .succeeded response) : r.slot ≠ (s, p) := by
  intro heq
  rw [Invocation.slot, Prod.mk.injEq] at heq
  have hslot := hwf.slot_of_mem hr
  rw [heq.1, heq.2, hold] at hslot
  cases hslot
  rw [hrun] at hstate
  cases hstate

/-- A changed row is one that was running: what has succeeded stays. -/
theorem successful_update {st : Store} (hwf : st.WellFormed) {f : Invocation → Invocation}
    (hf : Store.KeepsKeys f) {r : Invocation} (hr : r ∈ st.invocations)
    (hrun : r.state = .running) {s : Stage} {p : Str} {response : ProviderResponse}
    (hs : st.successful s p = some response) :
    (st.updateInvocation r.id f).successful s p = some response := by
  rw [Store.successful_eq_some] at hs ⊢
  obtain ⟨old, hold, hstate⟩ := hs
  exact ⟨old, by rw [hwf.slot_update hf hr, if_neg (slot_ne_of_running hwf hr hrun hold hstate),
    hold], hstate⟩

/-- Deleting a row that is running takes no success away. -/
theorem successful_delete {st : Store} (hwf : st.WellFormed) {r : Invocation}
    (hr : r ∈ st.invocations) (hrun : r.state = .running) {s : Stage} {p : Str}
    {response : ProviderResponse} (hs : st.successful s p = some response) :
    (st.deleteRow r.id).successful s p = some response := by
  rw [Store.successful_eq_some] at hs ⊢
  obtain ⟨old, hold, hstate⟩ := hs
  exact ⟨old, by rw [hwf.slot_delete hr, if_neg (slot_ne_of_running hwf hr hrun hold hstate),
    hold], hstate⟩

/-- Other events take no success away. -/
@[simp] theorem successful_withEvents (st : Store) (events : List Event) (s : Stage) (p : Str) :
    (st.withEvents events).successful s p = st.successful s p := rfl

/-- An event leaves the rows as they are. -/
@[simp] theorem slot_addEvent (st : Store) (type : EventType) (payload : Dict) (s : Stage)
    (p : Str) : (st.addEvent type payload).slot s p = st.slot s p := rfl

/-- An event leaves the successes as they are. -/
@[simp] theorem successful_addEvent (st : Store) (type : EventType) (payload : Dict) (s : Stage)
    (p : Str) : (st.addEvent type payload).successful s p = st.successful s p := rfl

/-- An event leaves the number of calls as it is. -/
@[simp] theorem countCalls_addEvent (st : Store) (type : EventType) (payload : Dict) :
    (st.addEvent type payload).countCalls = st.countCalls := rfl

/-- An event leaves the run's own row as it is. -/
@[simp] theorem run_addEvent (st : Store) (type : EventType) (payload : Dict) :
    (st.addEvent type payload).run = st.run := rfl

/-- An event is appended behind the others. -/
@[simp] theorem events_addEvent (st : Store) (type : EventType) (payload : Dict) :
    (st.addEvent type payload).events = st.events ++ [⟨type, payload⟩] := rfl

/-- An event leaves the store well formed. -/
theorem wellFormed_addEvent {st : Store} (h : st.WellFormed) (type : EventType) (payload : Dict) :
    (st.addEvent type payload).WellFormed := h.withEvents _

/-- Every response that counts as a success was finished normally. -/
def Store.Stopped (st : Store) : Prop :=
  ∀ stage provider response, st.successful stage provider = some response →
    response.finishReason = some (lit "stop")

/-- What a step of a stage keeps. -/
structure StageKeeps (stage : Stage) (names : List Str) (w w' : World) : Prop where
  wellFormed : w'.store.WellFormed
  run : w'.store.run = w.store.run
  locks : lockEvents w'.store.events = lockEvents w.store.events
  successful : ∀ s p r, w.store.successful s p = some r → w'.store.successful s p = some r
  stopped : w.store.Stopped → w'.store.Stopped
  slots : ∀ s p, s ≠ stage ∨ p ∉ names → w'.store.slot s p = w.store.slot s p
  retries : ∀ s p, s ≠ stage ∨ p ∉ names →
    w'.store.truncationRetryCount s p ≤ w.store.truncationRetryCount s p
  released : ∀ s p, s ≠ stage ∨ p ∉ names →
    w'.store.notDispatchedCount s p = w.store.notDispatchedCount s p
  actions : ∀ s p, s ≠ stage ∨ p ∉ names → w'.actionsOf s p = w.actionsOf s p
  now : w.now ≤ w'.now
  live : ∀ id ∈ w.live, id ∈ w'.live

namespace StageKeeps

/-- Doing nothing keeps a stage's rows. -/
theorem refl (hwf : w.store.WellFormed) : StageKeeps stage names w w :=
  ⟨hwf, rfl, rfl, fun _ _ _ h => h, id, fun _ _ _ => rfl, fun _ _ _ => le_rfl,
    fun _ _ _ => rfl, fun _ _ _ => rfl, le_rfl, fun _ h => h⟩

/-- What two parts keep one after the other is kept by both. -/
theorem trans {w'' : World} (h : StageKeeps stage names w w')
    (h' : StageKeeps stage names w' w'') : StageKeeps stage names w w'' where
  wellFormed := h'.wellFormed
  run := h'.run.trans h.run
  locks := h'.locks.trans h.locks
  successful s p r hr := h'.successful s p r (h.successful s p r hr)
  stopped hs := h'.stopped (h.stopped hs)
  slots s p hsp := (h'.slots s p hsp).trans (h.slots s p hsp)
  retries s p hsp := (h'.retries s p hsp).trans (h.retries s p hsp)
  released s p hsp := (h'.released s p hsp).trans (h.released s p hsp)
  actions s p hsp := (h'.actions s p hsp).trans (h.actions s p hsp)
  now := h.now.trans h'.now
  live id hid := h'.live id (h.live id hid)

/-- What is kept of some slots is kept of more of them. -/
theorem mono {names' : List Str} (h : StageKeeps stage names w w') (hsub : names ⊆ names') :
    StageKeeps stage names' w w' where
  wellFormed := h.wellFormed
  run := h.run
  locks := h.locks
  successful := h.successful
  stopped := h.stopped
  slots s p hsp := h.slots s p (hsp.imp_right fun hn hm => hn (hsub hm))
  retries s p hsp := h.retries s p (hsp.imp_right fun hn hm => hn (hsub hm))
  released s p hsp := h.released s p (hsp.imp_right fun hn hm => hn (hsub hm))
  actions s p hsp := h.actions s p (hsp.imp_right fun hn hm => hn (hsub hm))
  now := h.now
  live := h.live

/-- A part that keeps the rows of a stage extends the store. -/
theorem extends_ (h : StageKeeps stage names w w') :
    Extends rt spec w.store w'.store :=
  .of_lockEvents h.locks.symm h.successful

end StageKeeps

/-! ### Retries of a slot -/

/-- The event is a truncation retry of the slot. -/
def isTruncationRetry (stage : Stage) (provider : Str) (e : Event) : Bool :=
  Store.eventOfSlot e .providerRetryStarted stage provider &&
    decide (e.payload.get? (lit "retry_kind") = some (.str (lit "truncation")))

/-- The truncation retries of a slot are counted off its audits. -/
theorem truncationRetryCount_eq (st : Store) (stage : Stage) (provider : Str) :
    st.truncationRetryCount stage provider =
      st.events.countP (isTruncationRetry stage provider) := rfl

/-- Only the audits of retries are audits of truncation retries. -/
theorem isTruncationRetry_of_type {e : Event} (h : e.type ≠ .providerRetryStarted)
    (stage : Stage) (provider : Str) : isTruncationRetry stage provider e = false := by
  simp [isTruncationRetry, Store.eventOfSlot, h]

/-- Another event adds no truncation retry. -/
theorem truncationRetryCount_addEvent {st : Store} {type : EventType} {payload : Dict}
    (h : type ≠ .providerRetryStarted) (stage : Stage) (provider : Str) :
    (st.addEvent type payload).truncationRetryCount stage provider =
      st.truncationRetryCount stage provider := by
  rw [truncationRetryCount_eq, events_addEvent, List.countP_append, List.countP_singleton,
    isTruncationRetry_of_type h, truncationRetryCount_eq]
  simp

/-- A release adds no truncation retry. -/
theorem truncationRetryCount_released {st : Store} (r : Invocation) (payload : Dict)
    (st' : Store) (h : st'.events = Store.releasedEvents st r payload) (stage : Stage)
    (provider : Str) :
    st'.truncationRetryCount stage provider ≤ st.truncationRetryCount stage provider := by
  rw [truncationRetryCount_eq, h, Store.releasedEvents, List.countP_append, List.countP_singleton,
    isTruncationRetry_of_type (by simp), truncationRetryCount_eq]
  simpa using List.Sublist.countP_le List.filter_sublist

/-- The audit of a retry repeats no key. -/
theorem keys_retryEvent_nodup (stage : Stage) (provider : Str) (n : ℕ) (e : ProviderError) :
    (Dict.keys (Store.retryEvent stage provider n e)).Nodup := by
  simp [Dict.keys, Store.retryEvent]

/-- A retry is audited for its own slot, as a truncation retry when the row it
restarts was truncated. -/
theorem isTruncationRetry_retryAudit {old : Invocation} {prior : ProviderError} {s : Stage}
    {p : Str} (h : isTruncationRetry s p (Store.retryAudit old prior) = true) :
    old.slot = (s, p) ∧ Store.lengthSuffix <:+ prior.message := by
  have hnd := keys_retryEvent_nodup old.stage old.provider (old.callCount + 1) prior
  simp only [isTruncationRetry, Store.eventOfSlot, Store.retryAudit, Bool.and_eq_true,
    decide_eq_true_eq, Dict.get?_canon hnd] at h
  obtain ⟨⟨⟨-, hs⟩, hp⟩, hk⟩ := h
  simp only [Store.retryEvent, Dict.get?_cons, lit_inj, String.reduceEq, if_true, if_false,
    Option.map_some, Json.canon, Option.some.injEq, Json.str.injEq, Stage.name_inj] at hs hp hk
  refine ⟨by rw [Invocation.slot, hs, hp], ?_⟩
  unfold Store.retryKind at hk
  split at hk
  · assumption
  · simp at hk

/-- Starting a slot counts no truncation retry for another slot, nor for its own when
its row was not truncated. -/
theorem Started.retries {st st' : Store} {provider prompt : Str} {id : ℕ} {r : Invocation}
    (h : Started rt st st' stage provider prompt id r) {s : Stage} {p : Str}
    (hsp : (stage, provider) ≠ (s, p) ∨ ∀ old prior, st.slot stage provider = some old →
      old.state = .failed prior → ¬ Store.lengthSuffix <:+ prior.message) :
    st'.truncationRetryCount s p = st.truncationRetryCount s p := by
  obtain ⟨audits, he, ht⟩ := h.events
  rw [truncationRetryCount_eq, he, List.countP_append, truncationRetryCount_eq]
  have hzero : audits.countP (isTruncationRetry s p) = 0 := by
    rw [List.countP_eq_zero]
    intro e hm hretry
    obtain ⟨old, prior, hold, hstate, rfl⟩ := ht e hm
    obtain ⟨hslot, hsuffix⟩ := isTruncationRetry_retryAudit hretry
    rcases hsp with hne | hno
    · obtain ⟨hs, hp⟩ := Store.slot_fields hold
      rw [Invocation.slot, hs, hp] at hslot
      exact hne hslot
    · exact hno old prior hold hstate hsuffix
  omega

/-- The event says that a call of the slot was not made. -/
def isNotDispatched (stage : Stage) (provider : Str) (e : Event) : Bool :=
  Store.eventOfSlot e .providerCallNotDispatched stage provider

/-- The refused starts of a slot are counted off their records. -/
theorem notDispatchedCount_eq (st : Store) (stage : Stage) (provider : Str) :
    st.notDispatchedCount stage provider = st.events.countP (isNotDispatched stage provider) := rfl

/-- Only the records of refused starts count as refused starts. -/
theorem isNotDispatched_of_type {e : Event} (h : e.type ≠ .providerCallNotDispatched)
    (stage : Stage) (provider : Str) : isNotDispatched stage provider e = false := by
  simp [isNotDispatched, Store.eventOfSlot, h]

/-- Another event adds no refused start. -/
theorem notDispatchedCount_addEvent {st : Store} {type : EventType} {payload : Dict}
    (h : type ≠ .providerCallNotDispatched) (stage : Stage) (provider : Str) :
    (st.addEvent type payload).notDispatchedCount stage provider =
      st.notDispatchedCount stage provider := by
  rw [notDispatchedCount_eq, events_addEvent, List.countP_append, List.countP_singleton,
    isNotDispatched_of_type h, notDispatchedCount_eq]
  simp

/-- A release is one of the slot it names. -/
theorem isNotDispatched_release {r : Invocation} {payload : Dict} (h : Store.IsRelease r payload)
    (s : Stage) (p : Str) :
    isNotDispatched s p ⟨.providerCallNotDispatched, payload⟩ = decide (r.slot = (s, p)) := by
  simp [isNotDispatched, Store.eventOfSlot, h.stage, h.provider, Invocation.slot]

/-- A release counts for its own slot. -/
theorem notDispatchedCount_release {st : Store} {r : Invocation} {payload : Dict}
    (h : Store.IsRelease r payload) (s : Stage) (p : Str) :
    (st.addEvent .providerCallNotDispatched payload).notDispatchedCount s p =
      st.notDispatchedCount s p + if r.slot = (s, p) then 1 else 0 := by
  rw [notDispatchedCount_eq, events_addEvent, List.countP_append, List.countP_singleton,
    isNotDispatched_release h, notDispatchedCount_eq]
  simp

/-- The release of a retry counts for its own slot. -/
theorem notDispatchedCount_released {st : Store} {r : Invocation} {payload : Dict}
    (h : Store.IsRelease r payload) (s : Stage) (p : Str) :
    (Store.releasedEvents st r payload).countP (isNotDispatched s p) =
      st.notDispatchedCount s p + if r.slot = (s, p) then 1 else 0 := by
  have hkeep : (st.events.filter fun e => !Store.isRetryOf r.stage r.provider r.callCount e).countP
      (isNotDispatched s p) = st.events.countP (isNotDispatched s p) := by
    rw [List.countP_filter]
    refine List.countP_congr fun e _ => ?_
    by_cases he : e.type = .providerRetryStarted
    · simp [isNotDispatched_of_type (e := e) (by simp [he])]
    · simp [Store.isRetryOf, he]
  rw [Store.releasedEvents, List.countP_append, List.countP_singleton, isNotDispatched_release h,
    hkeep, notDispatchedCount_eq]
  simp

/-- Starting a slot releases nothing. -/
theorem Started.released {st st' : Store} {provider prompt : Str} {id : ℕ} {r : Invocation}
    (h : Started rt st st' stage provider prompt id r) (s : Stage) (p : Str) :
    st'.notDispatchedCount s p = st.notDispatchedCount s p := by
  obtain ⟨audits, he, ht⟩ := h.events
  rw [notDispatchedCount_eq, he, List.countP_append, notDispatchedCount_eq]
  have hzero : audits.countP (isNotDispatched s p) = 0 := by
    rw [List.countP_eq_zero]
    intro e hm hrel
    obtain ⟨old, prior, -, -, rfl⟩ := ht e hm
    rw [isNotDispatched_of_type (by simp [Store.retryAudit])] at hrel
    cases hrel
  omega

/-- What is done for a slot of the stage is not done for another one. -/
theorem actionsOf_record_other {a : Action}
    (ha : ∀ call, a.call? = some call → call.stage = stage ∧ call.provider ∈ names)
    {s : Stage} {p : Str} (hsp : s ≠ stage ∨ p ∉ names) :
    (w.record a).actionsOf s p = w.actionsOf s p := by
  refine actionsOf_record_of_not ?_
  rw [← Bool.not_eq_true, isOf_eq_true]
  rintro ⟨call, hcall, rfl, rfl⟩
  obtain ⟨hs, hp⟩ := ha call hcall
  rcases hsp with h | h
  · exact h hs
  · exact h hp

/-- An action of a stage is one for a slot of the stage. -/
theorem ActionOk.stage_eq {a : Action} (h : ActionOk rt spec stage w a) {call : Call}
    (hcall : a.call? = some call) : call.stage = stage := by
  cases a <;> first | exact h.elim | (cases hcall; exact h.1) | cases hcall

/-- The step of one running row. -/
theorem keeps_update (hwf : w.store.WellFormed) {f : Invocation → Invocation}
    (hf : Store.KeepsKeys f) {r : Invocation} (hr : r ∈ w.store.invocations)
    (hname : r.provider ∈ names) (hstage : r.stage = stage) (hrun : r.state = .running)
    {events : List Event} (hevents : lockEvents events = lockEvents w.store.events)
    (hretries : ∀ s p, events.countP (isTruncationRetry s p) ≤
      w.store.events.countP (isTruncationRetry s p))
    (hreleased : ∀ s p, r.slot ≠ (s, p) → events.countP (isNotDispatched s p) =
      w.store.events.countP (isNotDispatched s p))
    (hnew : ∀ response, (f r).state = .succeeded response →
      response.finishReason = some (lit "stop")) :
    StageKeeps stage names w
      (w.withStore ((w.store.updateInvocation r.id f).withEvents events)) where
  wellFormed := (hwf.updateInvocation hf _).withEvents _
  run := rfl
  locks := hevents
  successful s p _ hs := successful_update hwf hf hr hrun hs
  stopped hstop s p response hs := by
    rw [World.withStore_store, successful_withEvents, Store.successful_eq_some] at hs
    obtain ⟨new, hslot, hstate⟩ := hs
    rw [hwf.slot_update hf hr] at hslot
    by_cases heq : r.slot = (s, p)
    · rw [if_pos heq] at hslot
      cases hslot
      exact hnew response hstate
    · rw [if_neg heq] at hslot
      exact hstop s p response (Store.successful_eq_some.2 ⟨new, hslot, hstate⟩)
  slots s p hsp := by
    rw [World.withStore_store, Store.slot_withEvents, hwf.slot_update hf hr, if_neg]
    rw [Invocation.slot, Prod.mk.injEq]
    rintro ⟨rfl, rfl⟩
    rcases hsp with h | h
    · exact h hstage
    · exact h hname
  retries s p _ := hretries s p
  released s p hsp := hreleased s p fun heq => by
    rw [Invocation.slot, Prod.mk.injEq] at heq
    rcases hsp with h | h
    · exact h (heq.1 ▸ hstage)
    · exact h (heq.2 ▸ hname)
  actions _ _ _ := rfl
  now := le_rfl
  live _ h := h

/-- **A step of a stage keeps everything outside its own slots.** -/
theorem StageStep.keeps (hwf : w.store.WellFormed) (h : StageStep rt spec stage names w w') :
    StageKeeps stage names w w' := by
  cases h with
  | tick elapsed => exact { StageKeeps.refl hwf with now := Nat.le_add_right _ _ }
  | act a ok hname =>
    exact { StageKeeps.refl hwf with
      actions := fun s p hsp =>
        actionsOf_record_other (fun call hcall => ⟨ok.stage_eq hcall, hname call hcall⟩) hsp }
  | audit type payload ht =>
    exact { StageKeeps.refl hwf with
      wellFormed := wellFormed_addEvent hwf _ _
      locks := lockEvents_addEvent (isStageAudit_isLock ht)
      retries := fun s p _ =>
        (truncationRetryCount_addEvent (by rintro rfl; cases ht) s p).le
      released := fun s p _ => notDispatchedCount_addEvent (by rintro rfl; cases ht) s p }
  | start call config id st hname hstage hconfig ok h =>
    obtain ⟨r, hs⟩ := started_of_ok hwf ok.free h
    exact {
      wellFormed := hs.wellFormed
      run := hs.run
      locks := hs.lockEvents
      successful := fun _ _ _ hr => hs.successful ok.free hr
      stopped := fun hstop s p response hsucc => by
        rw [Store.successful_eq_some] at hsucc
        obtain ⟨new, hslot, hstate⟩ := hsucc
        rw [hs.slots] at hslot
        by_cases heq : r.slot = (s, p)
        · rw [if_pos heq] at hslot
          cases hslot
          rw [hs.running] at hstate
          cases hstate
        · rw [if_neg heq] at hslot
          exact hstop s p response (Store.successful_eq_some.2 ⟨new, hslot, hstate⟩)
      slots := fun s p hsp => by
        rw [hs.slots, if_neg]
        rw [hs.slot_eq, Prod.mk.injEq]
        rintro ⟨rfl, rfl⟩
        rcases hsp with h | h
        · exact h hstage
        · exact h hname
      retries := fun s p hsp => by
        refine (hs.retries (.inl ?_)).le
        rw [Ne, Prod.mk.injEq]
        rintro ⟨rfl, rfl⟩
        rcases hsp with h | h
        · exact h hstage
        · exact h hname
      released := fun s p _ => hs.released s p
      actions := fun s p hsp => by
        have hother : (w.record (.started call w.store)).actionsOf s p = w.actionsOf s p :=
          actionsOf_record_other (fun c hc => by
            cases hc
            exact ⟨hstage, hname⟩) hsp
        exact hother
      now := le_rfl
      live := fun _ h => List.mem_cons_of_mem _ h }
  | succeed r response hr hname hstage hrun hlive hphase hstop =>
    exact keeps_update hwf (Store.keepsKeys_setState _) hr hname hstage hrun rfl
      (fun _ _ => le_rfl) (fun _ _ _ => rfl) fun _ h => by
        cases h
        exact hstop
  | fail r error hr hname hstage hrun hlive =>
    exact keeps_update hwf (Store.keepsKeys_setState _) hr hname hstage hrun rfl
      (fun _ _ => le_rfl) (fun _ _ _ => rfl) fun _ h => by cases h
  | cancel r payload hr hname hstage hrun hlive hphase hcount hpayload =>
    exact {
      wellFormed := wellFormed_addEvent (hwf.deleteRow _) _ _
      run := rfl
      locks := lockEvents_addEvent rfl
      successful := fun s p _ hs => successful_delete hwf hr hrun hs
      stopped := fun hstop s p response hs => by
        rw [World.withStore_store, successful_addEvent, Store.successful_eq_some] at hs
        obtain ⟨new, hslot, hstate⟩ := hs
        rw [hwf.slot_delete hr] at hslot
        by_cases heq : r.slot = (s, p)
        · rw [if_pos heq] at hslot
          cases hslot
        · rw [if_neg heq] at hslot
          exact hstop s p response (Store.successful_eq_some.2 ⟨new, hslot, hstate⟩)
      slots := fun s p hsp => by
        rw [World.withStore_store, slot_addEvent, hwf.slot_delete hr, if_neg]
        rw [Invocation.slot, Prod.mk.injEq]
        rintro ⟨rfl, rfl⟩
        rcases hsp with h | h
        · exact h hstage
        · exact h hname
      retries := fun s p _ => (truncationRetryCount_addEvent (by simp) s p).le
      released := fun s p hsp => by
        have hdel : ((w.store.deleteRow r.id).notDispatchedCount s p) =
          w.store.notDispatchedCount s p := rfl
        rw [World.withStore_store, notDispatchedCount_release hpayload, hdel, if_neg, add_zero]
        rw [Invocation.slot, Prod.mk.injEq]
        rintro ⟨rfl, rfl⟩
        rcases hsp with h | h
        · exact h hstage
        · exact h hname
      actions := fun _ _ _ => rfl
      now := le_rfl
      live := fun _ h => h }
  | restore r e callCount payload hr hname hstage hrun hlive hphase hpos hcount hprior haudit
      hpayload =>
    exact keeps_update hwf (Store.keepsKeys_restore _ _) hr hname hstage hrun
      (lockEvents_released _ _ _)
      (fun s p => truncationRetryCount_released r payload
        (w.store.withEvents (Store.releasedEvents w.store r payload)) rfl s p)
      (fun s p hne => by
        rw [notDispatchedCount_released hpayload, if_neg hne]
        rfl)
      fun _ h => by cases h

/-- **What a step of a stage does to a slot**: nothing, unless the slot was running, or
the step starts it. -/
theorem StageStep.slot_cases (hwf : w.store.WellFormed) (h : StageStep rt spec stage names w w')
    (s : Stage) (p : Str) :
    w'.store.slot s p = w.store.slot s p ∨
      (∃ r, w.store.slot s p = some r ∧ r.state = .running) ∨
      ∃ call r, call.stage = s ∧ call.provider = p ∧ StartOk rt spec w.store call ∧
        w'.store.slot s p = some r ∧ r.state = .running := by
  have hrunning : ∀ {r : Invocation} {st : Store}, r ∈ w.store.invocations → r.state = .running →
      (r.slot ≠ (s, p) → st.slot s p = w.store.slot s p) →
      st.slot s p = w.store.slot s p ∨ ∃ r, w.store.slot s p = some r ∧ r.state = .running := by
    intro r st hr hrun hne
    by_cases heq : r.slot = (s, p)
    · refine .inr ⟨r, ?_, hrun⟩
      rw [Invocation.slot, Prod.mk.injEq] at heq
      rw [← heq.1, ← heq.2]
      exact hwf.slot_of_mem hr
    · exact .inl (hne heq)
  cases h with
  | tick elapsed => exact .inl rfl
  | act a ok hname => exact .inl rfl
  | audit type payload ht => exact .inl rfl
  | start call config id st hname hstage hconfig ok h =>
    obtain ⟨r, hs⟩ := started_of_ok hwf ok.free h
    dsimp only
    by_cases heq : r.slot = (s, p)
    · refine .inr (.inr ⟨call, r, ?_, ?_, ok, by rw [hs.slots, if_pos heq], hs.running⟩)
      · rw [hs.slot_eq, Prod.mk.injEq] at heq
        exact heq.1
      · rw [hs.slot_eq, Prod.mk.injEq] at heq
        exact heq.2
    · exact .inl (by rw [hs.slots, if_neg heq])
  | succeed r response hr hname hstage hrun hlive hphase hstop =>
    refine (hrunning hr hrun fun hne => ?_).imp_right .inl
    rw [World.withStore_store, hwf.slot_update (Store.keepsKeys_setState _) hr, if_neg hne]
  | fail r error hr hname hstage hrun hlive =>
    refine (hrunning hr hrun fun hne => ?_).imp_right .inl
    rw [World.withStore_store, hwf.slot_update (Store.keepsKeys_setState _) hr, if_neg hne]
  | cancel r payload hr hname hstage hrun hlive hphase hcount hpayload =>
    refine (hrunning hr hrun fun hne => ?_).imp_right .inl
    rw [World.withStore_store, slot_addEvent, hwf.slot_delete hr, if_neg hne]
  | restore r e callCount payload hr hname hstage hrun hlive hphase hpos hcount hprior haudit
      hpayload =>
    refine (hrunning hr hrun fun hne => ?_).imp_right .inl
    rw [World.withStore_store, Store.slot_withEvents,
      hwf.slot_update (Store.keepsKeys_restore _ _) hr, if_neg hne]

/-! ### Steps of a resume -/

section Events
variable {st : Store} {type : EventType} {payload : Dict}

/-- An event of another type is not among the events of a type. -/
theorem filter_addEvent {t : EventType} (h : type ≠ t) :
    ((st.addEvent type payload).events.filter fun e => e.type = t) =
      st.events.filter fun e => e.type = t := by
  rw [events_addEvent, List.filter_append, List.filter_singleton]
  simp [h]

/-- An event that names no candidates leaves their lock as it is. -/
theorem namespace?_addEvent (h : type ≠ .candidateNamespaceLocked) :
    (st.addEvent type payload).namespace? rt spec = st.namespace? rt spec := by
  unfold Store.namespace? loadCandidateNamespaceLock
  rw [filter_addEvent h]

/-- An event that locks neither candidates nor votes leaves the vote as it is. -/
theorem adjudication?_addEvent (h : type ≠ .candidateNamespaceLocked)
    (h' : type ≠ .adjudicationLocked) :
    (st.addEvent type payload).adjudication? rt spec = st.adjudication? rt spec := by
  unfold Store.adjudication? loadAdjudicationLock
  rw [filter_addEvent h', namespace?_addEvent h]

/-- A marker that is recorded stays the marker of the run. -/
theorem marker?_addEvent {m : Str} (h : st.marker? = some m) :
    (st.addEvent type payload).marker? = some m := by
  unfold Store.marker? at h ⊢
  rw [events_addEvent, List.findSome?_append, h]
  rfl

/-- Without its event there is no candidate lock. -/
theorem namespace?_eq_none (h : st.NoEvent .candidateNamespaceLocked) :
    st.namespace? rt spec = none := by
  unfold Store.namespace?
  rw [loadCandidateNamespaceLock_none.2 h]
  rfl

/-- Without its event there is no locked vote. -/
theorem adjudication?_eq_none (h : st.NoEvent .adjudicationLocked) :
    st.adjudication? rt spec = none := by
  unfold Store.adjudication? loadAdjudicationLock
  have : (st.events.filter fun e => e.type = .adjudicationLocked) = [] := by
    simpa [Store.NoEvent] using h
  rw [this]
  rfl

/-- No vote is decided before the candidates are named. -/
theorem adjudication?_eq_none_of_namespace (h : st.namespace? rt spec = none) :
    st.adjudication? rt spec = none := by
  cases ha : st.adjudication? rt spec with
  | none => rfl
  | some adjudication =>
    unfold Store.adjudication? loadAdjudicationLock at ha
    rw [h, toOption_join] at ha
    split at ha <;> simp_all

/-- **Locks are written once**: an event that does not repeat one extends the store. -/
theorem extends_addEvent
    (hn : type = .candidateNamespaceLocked → st.NoEvent .candidateNamespaceLocked)
    (ha : type = .adjudicationLocked → st.NoEvent .adjudicationLocked) :
    Extends rt spec st (st.addEvent type payload) where
  marker _ h := marker?_addEvent h
  candidateNamespace _ hl := by
    by_cases ht : type = .candidateNamespaceLocked
    · rw [namespace?_eq_none (hn ht)] at hl
      cases hl
    · rwa [namespace?_addEvent ht]
  adjudication _ hl := by
    by_cases ht : type = .candidateNamespaceLocked
    · rw [adjudication?_eq_none_of_namespace (namespace?_eq_none (hn ht))] at hl
      cases hl
    · by_cases ht' : type = .adjudicationLocked
      · rw [adjudication?_eq_none (ha ht')] at hl
        cases hl
      · rwa [adjudication?_addEvent ht ht']
  successful _ _ _ h := h

/-- A namespace that was just written is the one that is read. -/
theorem namespace?_locked (h : st.NoEvent .candidateNamespaceLocked) :
    (st.addEvent .candidateNamespaceLocked payload).namespace? rt spec =
      (readNamespace rt spec.config spec.id payload).toOption := by
  have hnil : (st.events.filter fun e => e.type = .candidateNamespaceLocked) = [] := by
    simpa [Store.NoEvent] using h
  unfold Store.namespace? loadCandidateNamespaceLock
  rw [events_addEvent, List.filter_append, hnil]
  cases hread : readNamespace rt spec.config spec.id payload <;>
    simp [hread, Except.map, Except.toOption]

/-- A vote that was just written is the one that is read. -/
theorem adjudication?_locked {lock : NamespaceLock} {adjudication : AdjudicationLock}
    (h : st.NoEvent .adjudicationLocked) (hlock : st.namespace? rt spec = some lock)
    (hread : readAdjudication rt spec.config lock payload = .ok adjudication) :
    (st.addEvent .adjudicationLocked payload).adjudication? rt spec = some adjudication := by
  have hnil : (st.events.filter fun e => e.type = .adjudicationLocked) = [] := by
    simpa [Store.NoEvent] using h
  unfold Store.adjudication? loadAdjudicationLock
  rw [namespace?_addEvent (by simp), hlock, events_addEvent, List.filter_append, hnil]
  simp [hread, Except.map, Except.toOption]

end Events

/-! ### The synthesis chain -/

/-- The synthesis chain of a store: only slots up to the current one are used, and only
after the vote; each transition is the one the store's own slot accounts for. -/
structure Store.Chain (rt : Runtime) (spec : RunSpec) (st : Store) : Prop where
  reached : ∀ name r, st.slot .synthesis name = some r →
    (st.adjudication? rt spec).isSome = true ∧
      name ∈ spec.config.synthesisProviders.take ((fallbackEvents st.events).length + 1)
  transitions : ∀ i e, (fallbackEvents st.events)[i]? = some e → ∃ fromProvider toProvider error,
    spec.config.synthesisProviders[i]? = some fromProvider ∧
      spec.config.synthesisProviders[i + 1]? = some toProvider ∧
      e.payload = Dict.canon (fallbackPayload (i + 1) fromProvider toProvider
        (failureOf .synthesis fromProvider error.toDict)) ∧
      ∀ r, st.slot .synthesis fromProvider = some r → r.state = .failed error

/-- The chain depends on the synthesis slots, the transitions, and there being a vote. -/
theorem Store.Chain.congr {st st' : Store} (h : st.Chain rt spec)
    (hslot : ∀ p, st'.slot .synthesis p = st.slot .synthesis p)
    (hevents : fallbackEvents st'.events = fallbackEvents st.events)
    (hext : Extends rt spec st st') : st'.Chain rt spec where
  reached name r hr := by
    rw [hslot] at hr
    obtain ⟨ha, hn⟩ := h.reached name r hr
    obtain ⟨lock, hl⟩ := Option.isSome_iff_exists.1 ha
    rw [hevents, hext.adjudication _ hl]
    exact ⟨rfl, hn⟩
  transitions i e he := by
    rw [hevents] at he
    obtain ⟨a, b, error, ha, hb, hp, hf⟩ := h.transitions i e he
    exact ⟨a, b, error, ha, hb, hp, fun r hr => hf r (by rwa [← hslot])⟩

/-- In a list without repetitions a name has one position. -/
theorem getElem?_inj_of_nodup {l : List Str} (h : l.Nodup) {i j : ℕ} {a : Str}
    (hi : l[i]? = some a) (hj : l[j]? = some a) : i = j := by
  obtain ⟨hi', rfl⟩ := List.getElem?_eq_some_iff.1 hi
  obtain ⟨hj', hj⟩ := List.getElem?_eq_some_iff.1 hj
  exact (h.getElem_inj_iff).1 hj.symm

/-- A step of a stage keeps the chain: it starts only the current slot. -/
theorem Store.Chain.stageStep (h : w.store.Chain rt spec) (hwf : w.store.WellFormed)
    (hacc : spec.config.Accepted) (hstep : StageStep rt spec stage names w w') :
    w'.store.Chain rt spec := by
  have hk := hstep.keeps hwf
  have hevents := fallbackEvents_congr hk.locks
  have hadj : w'.store.adjudication? rt spec = w.store.adjudication? rt spec :=
    Store.adjudication?_congr hk.locks
  constructor
  · intro name r hr
    rw [hevents, hadj]
    rcases hstep.slot_cases hwf .synthesis name with heq | ⟨old, hold, -⟩ |
      ⟨call, -, hs, hp, ok, -⟩
    · exact h.reached name r (by rwa [← heq])
    · exact h.reached name old hold
    · have hphase := ok.phase
      rw [hs, hp] at hphase
      exact ⟨hphase.1, List.mem_of_getElem? (by
        rw [List.getElem?_take_of_lt (Nat.lt_succ_self _)]
        exact hphase.2)⟩
  · intro i e he
    rw [hevents] at he
    obtain ⟨a, b, error, ha, hb, hpay, hf⟩ := h.transitions i e he
    refine ⟨a, b, error, ha, hb, hpay, fun r hr => ?_⟩
    rcases hstep.slot_cases hwf .synthesis a with heq | ⟨old, hold, hrun⟩ |
      ⟨call, -, hs, hp, ok, -⟩
    · exact hf r (by rwa [← heq])
    · rw [hf old hold] at hrun
      cases hrun
    · have hphase := ok.phase
      rw [hs, hp] at hphase
      have hi := getElem?_inj_of_nodup hacc.synthesis_nodup ha hphase.2
      have := (List.getElem?_eq_some_iff.1 he).1
      omega

/-- The next transition keeps the chain. -/
theorem Store.Chain.advance {st : Store} (h : st.Chain rt spec) {position : ℕ}
    {fromProvider toProvider : Str} {error : ProviderError}
    (ok : AdvanceOk spec st position fromProvider toProvider error) :
    (st.addEvent .synthesisFallbackAdvanced (Dict.canon (fallbackPayload position fromProvider
      toProvider (failureOf .synthesis fromProvider error.toDict)))).Chain rt spec := by
  have hevents : fallbackEvents (st.addEvent .synthesisFallbackAdvanced (Dict.canon
      (fallbackPayload position fromProvider toProvider
        (failureOf .synthesis fromProvider error.toDict)))).events =
      fallbackEvents st.events ++ [⟨.synthesisFallbackAdvanced, Dict.canon
        (fallbackPayload position fromProvider toProvider
          (failureOf .synthesis fromProvider error.toDict))⟩] := by
    simp [fallbackEvents, List.filter_append]
  constructor
  · intro name r hr
    rw [adjudication?_addEvent (by simp) (by simp), hevents, List.length_append,
      List.length_singleton]
    obtain ⟨ha, hn⟩ := h.reached name r hr
    exact ⟨ha, (List.take_subset_take_left _ (Nat.le_succ _)) hn⟩
  · intro i e he
    rw [hevents] at he
    rcases Nat.lt_or_ge i (fallbackEvents st.events).length with hi | hi
    · rw [List.getElem?_append_left hi] at he
      exact h.transitions i e he
    · have hi' : i = (fallbackEvents st.events).length := by
        have := (List.getElem?_eq_some_iff.1 he).1
        rw [List.length_append, List.length_singleton] at this
        omega
      subst hi'
      rw [List.getElem?_concat_length, Option.some.injEq] at he
      subst he
      have hp := ok.next
      refine ⟨fromProvider, toProvider, error, ?_, ?_, by rw [hp], ok.slot⟩
      · have := ok.leaves
        rwa [hp, Nat.add_sub_cancel] at this
      · have := ok.enters
        rwa [hp] at this

/-- What a resume may assume and every step keeps. -/
structure Inv (rt : Runtime) (spec : RunSpec) (w : World) : Prop where
  wellFormed : w.store.WellFormed
  stopped : w.store.Stopped
  spec_eq : w.store.run.spec = spec
  accepted : spec.config.Accepted
  complete : w.store.Complete rt spec
  chain : w.store.Chain rt spec

/-- The proposals behind a candidate lock stay complete when the store is extended. -/
theorem Store.Complete.extends {st st' : Store} (h : st.Complete rt spec)
    (hext : Extends rt spec st st') (hn : st'.namespace? rt spec = st.namespace? rt spec) :
    st'.Complete rt spec := by
  intro lock hl provider hp
  rw [hn] at hl
  obtain ⟨a, ha⟩ := Option.isSome_iff_exists.1 (h lock hl provider hp)
  rw [hext.artifact ha]
  rfl

/-- **Every step of a resume keeps the invariant and everything that is final.** -/
theorem EngineStep.keeps (hinv : Inv rt spec w) (h : EngineStep rt spec w w') :
    Inv rt spec w' ∧ Extends rt spec w.store w'.store := by
  cases h with
  | stage _ s names h =>
    have hk := h.keeps hinv.wellFormed
    have hext : Extends rt spec w.store w'.store := hk.extends_
    exact ⟨{
      wellFormed := hk.wellFormed
      stopped := hk.stopped hinv.stopped
      spec_eq := by rw [hk.run, hinv.spec_eq]
      accepted := hinv.accepted
      complete := hinv.complete.extends hext (Store.namespace?_congr hk.locks)
      chain := hinv.chain.stageStep hinv.wellFormed hinv.accepted h }, hext⟩
  | audit type payload ht =>
    have hne : type ≠ .candidateNamespaceLocked := by
      rintro rfl
      cases ht
    have hne' : type ≠ .synthesisFallbackAdvanced := by
      rintro rfl
      cases ht
    have hext : Extends rt spec w.store (w.store.addEvent type payload) :=
      extends_addEvent (by rintro rfl; cases ht) (by rintro rfl; cases ht)
    exact ⟨{ hinv with
      wellFormed := wellFormed_addEvent hinv.wellFormed _ _
      complete := hinv.complete.extends hext (namespace?_addEvent hne)
      chain := hinv.chain.congr (fun _ => rfl) (filter_addEvent hne') hext }, hext⟩
  | status h =>
    have hext : Extends rt spec w.store (w.store.setRunStatus .running) :=
      ⟨fun _ h => h, fun _ h => h, fun _ h => h, fun _ _ _ h => h⟩
    exact ⟨{ hinv with
      wellFormed := ⟨hinv.wellFormed.ids, hinv.wellFormed.slots, hinv.wellFormed.fresh⟩
      chain := hinv.chain.congr (fun _ => rfl) rfl hext }, hext⟩
  | marker m h =>
    have hext : Extends rt spec w.store (w.store.addEvent .untrustedMarker
        (Dict.canon [(lit "marker", .str m.text)])) :=
      extends_addEvent (by simp) (by simp)
    exact ⟨{ hinv with
      wellFormed := wellFormed_addEvent hinv.wellFormed _ _
      complete := hinv.complete.extends hext (namespace?_addEvent (by simp))
      chain := hinv.chain.congr (fun _ => rfl) (filter_addEvent (by simp)) hext }, hext⟩
  | lockNamespace payload h hread hstored =>
    have hext : Extends rt spec w.store (w.store.addEvent .candidateNamespaceLocked payload) :=
      extends_addEvent (fun _ => h) (by simp)
    refine ⟨{ hinv with
      wellFormed := wellFormed_addEvent hinv.wellFormed _ _
      complete := ?_
      chain := hinv.chain.congr (fun _ => rfl) (filter_addEvent (by simp)) hext }, hext⟩
    intro lock hl provider hp
    rw [World.withStore_store, namespace?_locked h, toOption_eq_some] at hl
    exact hstored lock hl provider hp
  | lockAdjudication payload lock adjudication h hlock hread hbacked =>
    have hext : Extends rt spec w.store (w.store.addEvent .adjudicationLocked payload) :=
      extends_addEvent (by simp) (fun _ => h)
    exact ⟨{ hinv with
      wellFormed := wellFormed_addEvent hinv.wellFormed _ _
      complete := hinv.complete.extends hext (namespace?_addEvent (by simp))
      chain := hinv.chain.congr (fun _ => rfl) (filter_addEvent (by simp)) hext }, hext⟩
  | adjudicate mapping records aggregate ok => exact ⟨{ hinv with }, .refl _⟩
  | advance position fromProvider toProvider error ok =>
    have hext : Extends rt spec w.store (w.store.addEvent .synthesisFallbackAdvanced
        (Dict.canon (fallbackPayload position fromProvider toProvider
          (failureOf .synthesis fromProvider error.toDict)))) :=
      extends_addEvent (by simp) (by simp)
    exact ⟨{ hinv with
      wellFormed := wellFormed_addEvent hinv.wellFormed _ _
      complete := hinv.complete.extends hext (namespace?_addEvent (by simp))
      chain := hinv.chain.advance ok }, hext⟩
  | finish p result event hopen ok =>
    have hlock : lockEvents (w.store.events ++ [⟨.runFinished, event⟩]) =
        lockEvents w.store.events := lockEvents_append (by simp [EventType.isLock])
    have hext : Extends rt spec w.store { w.store with
        run := { w.store.run with status := p.status, result := some result.canon }
        events := w.store.events ++ [⟨.runFinished, event⟩] } :=
      .of_lockEvents hlock.symm fun _ _ _ h => h
    exact ⟨{ hinv with
      wellFormed := ⟨hinv.wellFormed.ids, hinv.wellFormed.slots, hinv.wellFormed.fresh⟩
      complete := hinv.complete.extends hext (Store.namespace?_congr hlock)
      chain := hinv.chain.congr (fun _ => rfl) (fallbackEvents_congr hlock) hext }, hext⟩

/-- The end of a process changes nothing that is kept. -/
theorem Inv.lose (h : Inv rt spec w) : Inv rt spec w.lose := { h with }

end CouncilLogic
