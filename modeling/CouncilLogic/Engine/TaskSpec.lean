/-
# One task of a thread pool

Specifications of the moves of a single task, by a worker and by the main thread.  A
task only ever writes the slot of its own provider; what it may assume of that slot
depends on how far it has got (`StateOk`), and every move passes on what the next one
assumes.

A worker's moves are the lines of `_execute_provider_call` in `src/model_council/engine.py`, and
the main thread's are the body of the loop over `as_completed` in `_run_parallel_stage`.  `Busy`
is what a task knows of its own slot while other tasks write theirs: its row is running and
belongs to this resume.
-/

import CouncilLogic.Engine.StageSpec

namespace CouncilLogic

open Protocol

variable {rt : Runtime} {spec : RunSpec} {stage : Stage} {w w' : World} {args : StageArgs}
  {st : Store} {task : Task} {provider : Str} {id : ℕ}

/-! ### What a task assumes -/

/-- What holds of a task from the entry of the stage to its end; `st` is the store at
the entry. -/
structure TaskReady (rt : Runtime) (spec : RunSpec) (args : StageArgs) (st : Store) (w : World)
    (task : Task) : Prop where
  stage : task.call.stage = args.stage
  prior : task.prior = st.slot args.stage task.call.provider
  work : WorkSlot spec.config.policy args st task.call.provider
  limit : LimitOk spec.config st task.call
  settings : task.call.providerStage = args.stage.providerStage
  repair : args.stage = .juryRepair → args.retryFailedInvocations = false
  known : task.call.provider ∈ spec.config.names
  prompts : w.store.expectedPrompts rt spec args.stage task.call.provider = some task.call.prompts
  phase : w.store.InPhase rt spec args.stage task.call.provider
  other : ∀ s, s ≠ args.stage →
    w.store.slot s task.call.provider = st.slot s task.call.provider

/-- Phases depend on the locks only. -/
theorem inPhase_congr {st st' : Store} (hlock : lockEvents st'.events = lockEvents st.events)
    (h : st.InPhase rt spec stage provider) : st'.InPhase rt spec stage provider := by
  have hno : ∀ {type : EventType}, type.isLock = true → st.NoEvent type → st'.NoEvent type := by
    intro type ht hn
    have hnil : (st.events.filter fun e => e.type = type) = [] := by
      simpa [Store.NoEvent] using hn
    have hnil' := (Store.filter_congr hlock ht).trans hnil
    simpa [Store.NoEvent] using hnil'
  have hns : st'.namespace? rt spec = st.namespace? rt spec := Store.namespace?_congr hlock
  have hadj : st'.adjudication? rt spec = st.adjudication? rt spec :=
    Store.adjudication?_congr hlock
  cases stage with
  | proposal => exact hno rfl h
  | jury => exact ⟨by rw [hns]; exact h.1, hno rfl h.2⟩
  | juryRepair => exact ⟨by rw [hns]; exact h.1, hno rfl h.2⟩
  | synthesis => exact ⟨by rw [hadj]; exact h.1, by rw [fallbackEvents_congr hlock]; exact h.2⟩

/-- Steps of the stage keep what a task assumes, whoever makes them. -/
theorem TaskReady.keeps {names : List Str} (h : TaskReady rt spec args st w task)
    (hinv : Inv rt spec w) (hk : StageKeeps args.stage names w w') :
    TaskReady rt spec args st w' task where
  stage := h.stage
  prior := h.prior
  work := h.work
  limit := h.limit
  settings := h.settings
  repair := h.repair
  known := h.known
  prompts := hk.extends_.expectedPrompts hinv.complete h.prompts
  phase := inPhase_congr hk.locks h.phase
  other s hs := (hk.slots s _ (.inl hs)).trans (h.other s hs)

/-- The slot is running, started by the running resume. -/
def Running (stage : Stage) (w : World) (provider : Str) (id : ℕ) : Prop :=
  (∃ r, w.store.slot stage provider = some r ∧ r.id = id ∧ r.state = .running) ∧ id ∈ w.live

/-- The slot is running for a call that has got as far as a phase. -/
structure Busy (stage : Stage) (w : World) (call : Call) (id : ℕ) (phase : CallPhase → Prop) :
    Prop where
  running : Running stage w call.provider id
  last : ∃ before, (w.startsOf stage call.provider).getLast? = some (call, before)
  phase : phase (w.phase stage call.provider)

/-- The gate is given the number of the call. -/
def Numbered (stage : Stage) (w : World) (call : Call) (attempt : ℕ) : Prop :=
  ∀ r, w.store.slot stage call.provider = some r → attempt = w.store.reservationAttempt r

/-- The phase of a call whose worker has finished. -/
def Outcome.phase (o : Outcome) (phase : CallPhase) : Prop :=
  if o.dispatched then phase = .called o.lease
  else if o.lease then phase = .leased else phase = .started ∨ phase = .asked

/-- What a worker hands to the main thread. -/
structure OutcomeOk (args : StageArgs) (st : Store) (w : World) (task : Task) (o : Outcome) :
    Prop where
  unstarted : o.invocationId = none → o.dispatched = false ∧ o.lease = false ∧
    w.store.slot args.stage task.call.provider = st.slot args.stage task.call.provider ∧
    ∃ e, o.error = some e ∧ e.ambiguous = false
  started : ∀ id, o.invocationId = some id →
    Busy args.stage w task.call id o.phase ∧ (o.dispatched = false →
      (∃ e, o.error = some e ∧ (o.lease = true → e.ambiguous = false)) ∧
        ∃ attempt, o.reservationAttempt = some attempt)

/-- A response that was preserved: the error it will be failed with, and why it may be
asked for again. -/
structure PreservedOk (policy : RunPolicy) (args : StageArgs) (st : Store) (task : Task)
    (response : Option ProviderResponse) (error : ProviderError) (recover : Bool) : Prop where
  error_eq : completionError response = some error
  may : recover = true → mayRecover policy args st task response = true

/-- A slot that has not been started is as it was. -/
structure Unstarted (args : StageArgs) (st : Store) (w : World) (task : Task) : Prop where
  slot : w.store.slot args.stage task.call.provider = st.slot args.stage task.call.provider
  retries : w.store.truncationRetryCount args.stage task.call.provider ≤
    st.truncationRetryCount args.stage task.call.provider

/-- What a task may assume of its slot in each state. -/
def StateOk (policy : RunPolicy) (args : StageArgs) (st : Store) (w : World) (task : Task) :
    TaskState → Prop
  | .queued => Unstarted args st w task
  | .started id attempt => Busy args.stage w task.call id (· = .started) ∧
      Numbered args.stage w task.call attempt
  | .admitted id _ lease => Busy args.stage w task.call id fun phase =>
      if lease then phase = .leased else phase = .started
  | .calling id _ lease => Busy args.stage w task.call id (· = .called lease)
  | .finished (.ok o) => OutcomeOk args st w task o
  | .preserved id response error recover => Busy args.stage w task.call id CallPhase.Done ∧
      PreservedOk policy args st task response error recover
  | .finished (.error _) | .settled => True

/-- A slot that had not been truncated has not been retried as truncated since. -/
def RetriesOk (args : StageArgs) (st : Store) (w : World) (task : Task) : Prop :=
  isLengthFailure task.prior = false →
    w.store.truncationRetryCount args.stage task.call.provider ≤
      st.truncationRetryCount args.stage task.call.provider

/-- A task stays busy while the other slots of the stage change. -/
theorem Busy.keeps {stage : Stage} {names : List Str} {call : Call} {phase : CallPhase → Prop}
    (h : Busy stage w call id phase) (hk : StageKeeps stage names w w')
    (hn : call.provider ∉ names) : Busy stage w' call id phase where
  running := ⟨by rw [hk.slots _ _ (.inr hn)]; exact h.running.1, hk.live _ h.running.2⟩
  last := by
    rw [startsOf_congr (hk.actions _ _ (.inr hn))]
    exact h.last
  phase := by
    rw [phase_congr (hk.actions _ _ (.inr hn))]
    exact h.phase

/-- The number of a task's call stays right while the other slots of the stage change. -/
theorem Numbered.keeps {stage : Stage} {names : List Str} {call : Call} {attempt : ℕ}
    (h : Numbered stage w call attempt) (hk : StageKeeps stage names w w')
    (hn : call.provider ∉ names) : Numbered stage w' call attempt := by
  intro r hr
  rw [hk.slots _ _ (.inr hn)] at hr
  obtain ⟨hs, hp⟩ := Store.slot_fields hr
  rw [h r hr, Store.reservationAttempt, Store.reservationAttempt,
    hk.released _ _ (.inr (by rwa [hp]))]

/-- Steps over other slots keep what is known of a slot. -/
theorem StateOk.keeps {policy : RunPolicy} {names : List Str} {state : TaskState}
    (h : StateOk policy args st w task state) (hk : StageKeeps args.stage names w w')
    (hn : task.call.provider ∉ names) : StateOk policy args st w' task state := by
  have hslot := hk.slots args.stage task.call.provider (.inr hn)
  cases state with
  | queued => exact ⟨hslot.trans h.slot, (hk.retries _ _ (.inr hn)).trans h.retries⟩
  | started id attempt => exact ⟨h.1.keeps hk hn, h.2.keeps hk hn⟩
  | admitted id attempt lease => exact Busy.keeps h hk hn
  | calling id attempt lease => exact Busy.keeps h hk hn
  | finished outcome =>
    cases outcome with
    | error e => trivial
    | ok o =>
      refine ⟨fun hid => ?_, fun id hid => ?_⟩
      · obtain ⟨hd, hl, hs, he⟩ := h.unstarted hid
        exact ⟨hd, hl, hslot.trans hs, he⟩
      · obtain ⟨hr, hd⟩ := h.started id hid
        exact ⟨hr.keeps hk hn, hd⟩
  | preserved id response error recover => exact ⟨h.1.keeps hk hn, h.2⟩
  | settled => trivial

/-- The number of retries that a task may still make stays right while the other slots of the
stage change. -/
theorem RetriesOk.keeps {names : List Str} (h : RetriesOk args st w task)
    (hk : StageKeeps args.stage names w w') (hn : task.call.provider ∉ names) :
    RetriesOk args st w' task :=
  fun hlen => (hk.retries _ _ (.inr hn)).trans (h hlen)

/-- The restarts of a truncated call are counted in the log, so they are the same in stores with
the same events. -/
theorem truncationRetryCount_congr {st st' : Store} (h : st'.events = st.events) (s : Stage)
    (p : Str) : st'.truncationRetryCount s p = st.truncationRetryCount s p := by
  rw [truncationRetryCount_eq, truncationRetryCount_eq, h]

/-! ### Closing a running slot -/

/-- A running slot is failed. -/
theorem wp_fail (hinv : Inv rt spec w) (hrun : Running stage w provider id)
    (error : ProviderError) (hphase : (w.phase stage provider).Closes error)
    {post : Unit → World → Prop}
    (h : ∀ w' r, w'.store.slot stage provider = some r → r.state = .failed error →
      w'.store.getInvocation id = some r → w'.store.events = w.store.events →
      w'.store.countCalls = w.store.countCalls → post () w') :
    Prog.wp (stageRules rt spec stage [provider]) post (fun _ w' => w'.store = w.store)
      (transact fun st => st.finishInvocationFailure rt id error) w := by
  obtain ⟨⟨r, hslot, rfl, hstate⟩, hlive⟩ := hrun
  obtain ⟨hmem, hstage, hprovider⟩ := hinv.wellFormed.slot_eq_some.1 hslot
  rw [wp_transact]
  refine ⟨fun st' hst' => ?_, fun _ _ => rfl⟩
  obtain ⟨r', hget, hcase⟩ := Store.finishInvocationFailure_ok hst'
  obtain ⟨hmem', hid⟩ := Store.mem_of_getInvocation hget
  obtain rfl := hinv.wellFormed.ids.eq hmem' hmem hid
  rcases hcase with ⟨-, rfl⟩ | ⟨prior, hprior, -⟩
  · refine ⟨.fail w r' error hmem (by simp [hprovider]) hstage hstate
        (.inl ⟨hlive, by rw [hstage, hprovider]; exact hphase⟩)
        (Store.finishInvocationFailure_encodes hst'),
      h _ (Store.setState (.failed error) r') ?_ rfl ?_ rfl ?_⟩
    · rw [World.withStore_store, hinv.wellFormed.slot_update (Store.keepsKeys_setState _) hmem,
        if_pos (by rw [Invocation.slot, hstage, hprovider])]
    · rw [World.withStore_store,
        hinv.wellFormed.getInvocation_update (Store.keepsKeys_setState _) hmem, if_pos rfl]
    · have := hinv.wellFormed.countCalls_update (f := Store.setState (.failed error)) hmem
      rw [World.withStore_store]
      exact Nat.add_right_cancel this
  · rw [hstate] at hprior
    cases hprior

/-- A running slot succeeds. -/
theorem wp_succeed (hinv : Inv rt spec w) (hrun : Running stage w provider id)
    (hphase : (w.phase stage provider).Done) (response : ProviderResponse)
    (hstop : response.finishReason = some (lit "stop"))
    {post : Unit → World → Prop}
    (h : ∀ w', w'.store.successful stage provider = some (Store.storedResponse response) →
      w'.store.events = w.store.events → w'.store.countCalls = w.store.countCalls →
      post () w') :
    Prog.wp (stageRules rt spec stage [provider]) post (fun _ w' => w'.store = w.store)
      (transact fun st => st.finishInvocationSuccess rt id response) w := by
  obtain ⟨⟨r, hslot, rfl, hstate⟩, hlive⟩ := hrun
  obtain ⟨hmem, hstage, hprovider⟩ := hinv.wellFormed.slot_eq_some.1 hslot
  rw [wp_transact]
  refine ⟨fun st' hst' => ?_, fun _ _ => rfl⟩
  obtain ⟨r', hget, hcase⟩ := Store.finishInvocationSuccess_ok hst'
  obtain ⟨hmem', hid⟩ := Store.mem_of_getInvocation hget
  obtain rfl := hinv.wellFormed.ids.eq hmem' hmem hid
  rcases hcase with ⟨-, rfl⟩ | ⟨prior, hprior, -⟩
  · refine ⟨.succeed w r' response hmem (by simp [hprovider]) hstage hstate hlive
        (by rw [hstage, hprovider]; exact hphase) hstop, h _ ?_ rfl ?_⟩
    · refine Store.successful_eq_some.2 ⟨Store.setState
        (.succeeded (Store.storedResponse response)) r', ?_, rfl⟩
      rw [World.withStore_store, hinv.wellFormed.slot_update (Store.keepsKeys_setState _) hmem,
        if_pos (by rw [Invocation.slot, hstage, hprovider])]
    · have := hinv.wellFormed.countCalls_update
        (f := Store.setState (.succeeded (Store.storedResponse response))) hmem
      rw [World.withStore_store]
      exact Nat.add_right_cancel this
  · rw [hstate] at hprior
    cases hprior

/-- A running slot is released: it is as it was before the call. -/
theorem wp_release (hinv : Inv rt spec w) (hrun : Running stage w provider id)
    (hphase : (w.phase stage provider).Unsent) {error : ProviderError} {attempt : ℤ}
    {prior : Option Invocation}
    {post : Unit → World → Prop}
    (h : ∀ w', (∀ p, prior = some p → ∃ r e, w'.store.slot stage provider = some r ∧
        r.state = .failed e ∧ p.state = .failed e) →
      (prior = none → w'.store.slot stage provider = none) →
      (∀ s p, w'.store.truncationRetryCount s p ≤ w.store.truncationRetryCount s p) →
      w'.store.countCalls ≤ w.store.countCalls → post () w') :
    Prog.wp (stageRules rt spec stage [provider]) post (fun _ w' => w'.store = w.store)
      (transact fun st => st.releaseUndispatchedInvocation rt id error attempt prior) w := by
  obtain ⟨⟨r, hslot, rfl, hstate⟩, hlive⟩ := hrun
  obtain ⟨hmem, hstage, hprovider⟩ := hinv.wellFormed.slot_eq_some.1 hslot
  have hkey : r.slot = (stage, provider) := by rw [Invocation.slot, hstage, hprovider]
  rw [wp_transact]
  refine ⟨fun st' hst' => ?_, fun _ _ => rfl⟩
  obtain ⟨-, r', hget, -, hcase⟩ := Store.releaseUndispatchedInvocation_ok hst'
  obtain ⟨hmem', hid⟩ := Store.mem_of_getInvocation hget
  obtain rfl := hinv.wellFormed.ids.eq hmem' hmem hid
  have hunsent : (w.phase r'.stage r'.provider).Unsent := by
    rw [hstage, hprovider]
    exact hphase
  rcases hcase with ⟨rfl, hcount, payload, hpayload, rfl⟩ |
    ⟨p, e, payload, rfl, -, -, hp, hamb, hcount, hpos, haudit, hpayload, rfl⟩
  · refine ⟨.cancel w r' payload hmem (by simp [hprovider]) hstage hstate hlive hunsent hcount
        hpayload,
      h _ (fun _ hp => by cases hp) (fun _ => ?_) (fun s p => ?_) ?_⟩
    · rw [World.withStore_store, Store.slot_withEvents, hinv.wellFormed.slot_delete hmem,
        if_pos hkey]
    · have hdel : (w.store.deleteRow r'.id).truncationRetryCount s p =
          w.store.truncationRetryCount s p := rfl
      exact hdel ▸ (truncationRetryCount_addEvent (by simp) s p).le
    · have := hinv.wellFormed.countCalls_delete hmem
      rw [World.withStore_store, Store.countCalls_withEvents]
      omega
  · refine ⟨.restore w r' e p.callCount payload hmem (by simp [hprovider]) hstage hstate hlive
      hunsent hpos hcount hamb haudit hpayload
      ((Store.releaseUndispatchedInvocation_encodes hst').2 p e rfl hp),
      h _ (fun q hq => ?_) (fun hq => by cases hq) (fun s q => ?_) ?_⟩
    · cases hq
      refine ⟨Store.restore e p.callCount r', e, ?_, rfl, hp⟩
      rw [World.withStore_store, Store.slot_withEvents,
        hinv.wellFormed.slot_update (Store.keepsKeys_restore _ _) hmem, if_pos hkey]
    · exact truncationRetryCount_released r' payload _ rfl s q
    · have := hinv.wellFormed.countCalls_update (f := Store.restore e p.callCount) hmem
      rw [World.withStore_store, Store.countCalls_withEvents]
      simp only [Store.restore] at this ⊢
      omega

/-! ### The worker -/

/-- What a move of a task achieves. -/
structure Moved (policy : RunPolicy) (args : StageArgs) (st : Store) (task : Task)
    (state : TaskState) (w : World) (state' : TaskState) (w' : World) : Prop where
  slot : StateOk policy args st w' task state'
  retries : RetriesOk args st w' task
  left : 0 < state'.movesLeft ∧ state'.movesLeft < state.movesLeft
  calls : w'.store.countCalls ≤ w.store.countCalls + if state.isQueued then 1 else 0

/-- What every move of a task may assume. -/
structure TaskPre (rt : Runtime) (spec : RunSpec) (args : StageArgs) (st : Store) (w : World)
    (task : Task) (state : TaskState) : Prop where
  inv : Inv rt spec w
  ready : TaskReady rt spec args st w task
  slot : StateOk spec.config.policy args st w task state
  retries : RetriesOk args st w task
  budget : (w.store.countCalls : ℤ) + (if state.isQueued then 1 else 0) +
    callReserve spec.config args.stage task.call.provider ≤ spec.config.policy.maxCalls

/-- A queued task of a provider is ready to be started. -/
theorem TaskPre.startOk (h : TaskPre rt spec args st w task .queued) :
    StartOk rt spec w.store task.call := by
  have hslots : ∀ s, w.store.slot s task.call.provider = st.slot s task.call.provider := by
    intro s
    by_cases hs : s = args.stage
    · exact hs ▸ h.slot.slot
    · exact h.ready.other s hs
  have hstage := h.ready.stage
  exact {
    provider := h.ready.known
    quiet := fun s r hr => h.ready.work.quiet s r (by rwa [← hslots])
    free := fun r hr => by
      rw [hstage, hslots] at hr
      obtain ⟨e, he, -⟩ := h.ready.work.free r hr
      exact ⟨e, he⟩
    budget := by
      rw [hstage]
      exact h.budget
    prompts := by
      rw [hstage]
      exact h.ready.prompts
    phase := by
      rw [hstage]
      exact h.ready.phase
    settings := by
      rw [hstage]
      exact h.ready.settings
    limit := by
      have hlimit := h.ready.limit
      unfold LimitOk at hlimit ⊢
      rwa [hslots]
    retry := {
      repair := fun hrepair => by
        rw [hslots, hstage]
        cases hslot : st.slot args.stage task.call.provider with
        | none => rfl
        | some r =>
          obtain ⟨-, -, hretry⟩ := h.ready.work.free r hslot
          rw [h.ready.repair (hstage ▸ hrepair)] at hretry
          cases hretry
      truncation := fun hlen => by
        rw [hslots, hstage] at hlen
        rw [hstage]
        have hlt := h.ready.work.truncation hlen
        have hle := h.slot.retries
        omega } }

/-- A configured provider has a configuration. -/
theorem config?_of_mem {config : RunConfig} (h : provider ∈ config.names) :
    ∃ c, config.config? provider = some c := by
  obtain ⟨c, hc, rfl⟩ := List.mem_map.1 h
  cases hf : config.config? c.name with
  | some c' => exact ⟨c', rfl⟩
  | none =>
    have := List.find?_eq_none.1 hf c hc
    simp at this

/-- An action for the slot of a task. -/
theorem step_act {a : Action} (ha : a.call? = some task.call) (ok : ActionOk rt spec stage w a) :
    StageStep rt spec stage [task.call.provider] w (w.record a) :=
  .act w a ok fun call hcall => by
    rw [ha, Option.some.injEq] at hcall
    rw [← hcall]
    exact List.mem_singleton_self _

/-- An action for the call of a task is one for the slot of the task. -/
theorem TaskReady.isOf {a : Action} (h : TaskReady rt spec args st w' task)
    (ha : a.call? = some task.call) : a.isOf args.stage task.call.provider = true :=
  isOf_eq_true.2 ⟨task.call, ha, h.stage, rfl⟩

/-- A call in progress, after one more action. -/
theorem Busy.record {phase phase' : CallPhase → Prop} {a : Action}
    (h : Busy stage w task.call id phase) (hof : a.isOf stage task.call.provider = true)
    (hstart : a.start? = none) (hnext : ∀ p, phase p → phase' (p.next a)) :
    Busy stage (w.record a) task.call id phase' where
  running := h.running
  last := by
    rw [startsOf_record hof, hstart, Option.toList_none, List.append_nil]
    exact h.last
  phase := by
    rw [phase_record hof]
    exact hnext _ h.phase

/-- A task that is busy in one phase is busy in every weaker one. -/
theorem Busy.imp {phase phase' : CallPhase → Prop} (h : Busy stage w task.call id phase)
    (himp : ∀ p, phase p → phase' p) : Busy stage w task.call id phase' :=
  ⟨h.running, h.last, himp _ h.phase⟩

/-- A busy task is in its call: its row is running, is live, and was started for this call. -/
theorem Busy.inCall {phase : CallPhase → Prop} (h : Busy stage w task.call id phase)
    (hstage : task.call.stage = stage) : InCall w task.call phase := by
  subst hstage
  obtain ⟨⟨r, hslot, hid, hstate⟩, hlive⟩ := h.running
  exact ⟨⟨r, hslot, hstate, hid ▸ hlive⟩, h.last, h.phase⟩

/-- A busy task whose call is numbered may ask the gate with that number. -/
theorem Numbered.reserveOk {phase : CallPhase → Prop} {attempt : ℕ}
    (h : Numbered stage w task.call attempt) (hbusy : Busy stage w task.call id phase)
    (hstage : task.call.stage = stage) : ReserveOk w task.call phase attempt :=
  ⟨hbusy.inCall hstage, by rw [hstage]; exact h⟩

/-- **Starting**: the deadline, or a row for the call. -/
theorem startTask_spec (h : TaskPre rt spec args st w task .queued) {deadline : ℤ} :
    Prog.wp (stageRules rt spec args.stage [task.call.provider])
      (fun state' w' => Moved spec.config.policy args st task .queued w state' w')
      (fun _ _ => False) (startTask rt spec.config deadline task.call) w := by
  unfold startTask
  rw [Prog.wp_bind]
  refine wp_monotonic fun elapsed => ⟨.tick w elapsed, ?_⟩
  by_cases hdead : deadline ≤ (w.tick elapsed).now
  · rw [if_pos hdead]
    exact ⟨⟨fun _ => ⟨rfl, rfl, h.slot.slot, deadlineError, rfl, rfl⟩,
      fun _ hid => (nomatch hid)⟩, h.retries, by simp [notDispatched, TaskState.movesLeft],
      Nat.le_add_right _ _⟩
  rw [if_neg hdead]
  obtain ⟨config, hconfig⟩ := config?_of_mem h.ready.known
  simp only [hconfig]
  have hpre : TaskPre rt spec args st (w.tick elapsed) task .queued :=
    ⟨{ h.inv with }, { h.ready with }, ⟨h.slot.slot, h.slot.retries⟩, h.retries, h.budget⟩
  rw [Prog.wp_bind, wp_emit]
  refine ⟨step_act rfl ⟨h.ready.stage, rfl, hpre.startOk⟩, ?_⟩
  rw [Prog.wp_bind, Prog.wp_read]
  generalize hw₁ : (w.tick elapsed).record (.attempt task.call (w.tick elapsed).store) = w₁
  have hst₁ : w₁.store = w.store := by
    rw [← hw₁]
    rfl
  have hok₁ : StartOk rt spec w₁.store task.call := by
    rw [hst₁]
    exact hpre.startOk
  cases hstart : w₁.store.startInvocation rt task.call.stage
      task.call.provider config.model config.lineage (combinedPrompt task.call.prompts) with
  | error e =>
    simp only
    refine ⟨trivial, ?_, by simp [TaskState.movesLeft], ?_⟩
    · unfold RetriesOk
      rw [hst₁]
      exact h.retries
    · rw [hst₁]
      exact Nat.le_add_right _ _
  | ok v =>
    obtain ⟨id, st'⟩ := v
    have hwf : w₁.store.WellFormed := by
      rw [hst₁]
      exact h.inv.wellFormed
    obtain ⟨r, hs⟩ := started_of_ok hwf hok₁.free hstart
    have hof : (Action.started task.call w₁.store).isOf args.stage task.call.provider = true :=
      h.ready.isOf rfl
    have hslot : st'.slot args.stage task.call.provider = some r := by
      rw [hs.slots, if_pos (by rw [hs.slot_eq, h.ready.stage])]
    simp only
    rw [Prog.wp_bind, Prog.wp_write]
    refine ⟨.start w₁ task.call config id st' (List.mem_singleton_self _) h.ready.stage hconfig
      hok₁ hstart, ⟨?_, ?_⟩, ?_, ?_, ?_⟩
    · exact {
        running := ⟨⟨r, hslot, hs.id_eq, hs.running⟩, List.mem_cons_self⟩
        last := by
          refine ⟨w₁.store, ?_⟩
          have hlast := startsOf_record (w := w₁) hof
          rw [Action.start?, Option.toList_some] at hlast
          exact (congrArg List.getLast? hlast).trans List.getLast?_concat
        phase := phase_record (w := w₁) hof }
    · intro r' hr'
      have hr' : st'.slot args.stage task.call.provider = some r' := hr'
      obtain rfl := Option.some.inj (hslot.symm.trans hr')
      obtain ⟨hmem, hstage, hprovider⟩ := hs.wellFormed.slot_eq_some.1 hslot
      have hget : st'.getInvocation id = some r :=
        hs.wellFormed.getInvocation_eq_some.2 ⟨hmem, hs.id_eq⟩
      rw [hget, Store.reservationAttempt, hstage, hprovider, h.ready.stage]
      rfl
    · intro hlen
      refine .trans (Eq.le ?_) (h.retries hlen)
      rw [← hst₁]
      refine hs.retries (.inr fun old prior hold hprior hsuffix => ?_)
      rw [hst₁] at hold
      have hslot : task.prior = some old := by
        rw [h.ready.prior, ← h.slot.slot, ← h.ready.stage]
        exact hold
      have hquiet := (hpre.startOk.quiet _ old hold).2
      rw [failedAmbiguous_eq hprior] at hquiet
      rw [hslot, isLengthFailure_eq hprior] at hlen
      simp [hquiet, hsuffix] at hlen
    · simp [TaskState.movesLeft]
    · rw [← hst₁]
      exact hs.countCalls.le

/-- A call that was not made is handed over. -/
theorem notDispatched_ok {policy : RunPolicy} {lease : Bool} {error : ProviderError} {attempt : ℕ}
    {phase : CallPhase → Prop} (hbusy : Busy args.stage w task.call id phase)
    (hphase : ∀ p, phase p → if lease then p = .leased else p = .started ∨ p = .asked)
    (hlease : lease = true → error.ambiguous = false) :
    StateOk policy args st w task
      (notDispatched (some id) lease error (some attempt)) := by
  refine ⟨fun hid => (nomatch hid), fun i hid => ?_⟩
  cases hid
  exact ⟨hbusy.imp hphase, fun _ => ⟨⟨_, rfl, hlease⟩, _, rfl⟩⟩

/-- **The gate**: a lease, or no call. -/
theorem reserveTask_spec {attempt : ℕ} (h : TaskPre rt spec args st w task (.started id attempt))
    {hasGate : Bool} :
    Prog.wp (stageRules rt spec args.stage [task.call.provider])
      (fun state' w' => Moved spec.config.policy args st task (.started id attempt) w state' w')
      (fun _ _ => False) (reserveTask hasGate task.call id attempt) w := by
  obtain ⟨hbusy, hnumber⟩ := h.slot
  unfold reserveTask
  by_cases hgate : hasGate = false
  · rw [if_pos hgate]
    exact ⟨hbusy.imp fun p hp => hp, h.retries, by simp [TaskState.movesLeft],
      Nat.le_add_right _ _⟩
  rw [if_neg hgate, Prog.wp_bind, wp_emit]
  have hstage := h.ready.stage
  refine ⟨step_act rfl ⟨hstage, hnumber.reserveOk hbusy hstage⟩, fun answer _ => ?_⟩
  have hasked : Busy args.stage (w.record (.reserved task.call attempt)) task.call id
      (· = .asked) := hbusy.record (h.ready.isOf rfl) rfl fun _ _ => rfl
  have hdenied : ∀ error : ProviderError, Moved spec.config.policy args st task
      (.started id attempt) w (notDispatched (some id) false error (some attempt))
      (w.record (.reserved task.call attempt)) := fun error =>
    ⟨notDispatched_ok hasked (fun _ hp => .inr hp) nofun, h.retries,
      by simp [notDispatched, TaskState.movesLeft], Nat.le_add_right _ _⟩
  cases answer with
  | denied error => exact hdenied error
  | raised typeName => exact hdenied (gateError typeName)
  | lease =>
    change Prog.wp _ _ _ (emit (fun _ => .granted task.call attempt) >>= fun _ =>
      (pure (TaskState.admitted id attempt true) : M TaskState)) _
    rw [Prog.wp_bind, wp_emit]
    have hnumber' :
      Numbered args.stage (w.record (.reserved task.call attempt)) task.call attempt :=
      hnumber
    refine ⟨step_act rfl ⟨hstage, hnumber'.reserveOk hasked hstage⟩, ?_, h.retries,
      by simp [TaskState.movesLeft], Nat.le_add_right _ _⟩
    exact hasked.record (h.ready.isOf rfl) rfl fun _ _ => rfl

/-- **The call**: the provider is called only while its slot is running and it is quiet
everywhere else. -/
theorem dispatchTask_spec {attempt : ℕ} {lease : Bool}
    (h : TaskPre rt spec args st w task (.admitted id attempt lease)) {deadline : ℤ} :
    Prog.wp (stageRules rt spec args.stage [task.call.provider])
      (fun state' w' =>
        Moved spec.config.policy args st task (.admitted id attempt lease) w state' w')
      (fun _ _ => False) (dispatchTask deadline task.call id attempt lease) w := by
  have hbusy : Busy args.stage (w.tick 0) task.call id fun phase =>
      if lease then phase = .leased else phase = .started := h.slot
  unfold dispatchTask
  rw [Prog.wp_bind]
  refine wp_monotonic fun elapsed => ⟨.tick w elapsed, ?_⟩
  have hbusy : Busy args.stage (w.tick elapsed) task.call id fun phase =>
      if lease then phase = .leased else phase = .started :=
    ⟨hbusy.running, hbusy.last, hbusy.phase⟩
  by_cases hdead : deadline - (w.tick elapsed).now ≤ 0
  · rw [if_pos hdead]
    refine ⟨notDispatched_ok hbusy (fun p hp => ?_) fun _ => rfl, h.retries,
      by simp [notDispatched, TaskState.movesLeft], Nat.le_add_right _ _⟩
    cases lease
    · exact .inl hp
    · exact hp
  rw [if_neg hdead, Prog.wp_bind, wp_emit]
  have hready : Busy args.stage (w.tick elapsed) task.call id CallPhase.Ready := by
    refine hbusy.imp fun p hp => ?_
    cases lease
    · exact .inl hp
    · exact .inr hp
  refine ⟨step_act rfl ⟨h.ready.stage, rfl, hready.inCall h.ready.stage, fun s r' hs hr' => ?_,
    ?_⟩, hbusy.record (h.ready.isOf rfl) rfl fun p hp => ?_, h.retries,
    by simp [TaskState.movesLeft], Nat.le_add_right _ _⟩
  · rw [h.ready.stage] at hs
    exact h.ready.work.quiet s r' (by rw [← h.ready.other s hs]; exact hr')
  · have hbudget := h.budget
    rw [h.ready.stage]
    simpa [TaskState.isQueued] using hbudget
  · cases lease
    · rw [show p = .started from hp]
      rfl
    · rw [show p = .leased from hp]
      rfl

/-- **The answer** of a provider is handed over as it is. -/
theorem returnTask_spec {attempt : ℕ} {lease : Bool}
    (h : TaskPre rt spec args st w task (.calling id attempt lease)) :
    Prog.wp (stageRules rt spec args.stage [task.call.provider])
      (fun state' w' =>
        Moved spec.config.policy args st task (.calling id attempt lease) w state' w')
      (fun _ _ => False) (returnTask task.call id attempt lease) w := by
  intro answer _
  have hbusy : Busy args.stage w task.call id (· = .called lease) := h.slot
  have hok : ∀ response error, OutcomeOk args st w task
      ⟨some id, lease, response, error, true, some attempt⟩ := fun _ _ =>
    ⟨fun hid => (nomatch hid), fun i hid => Option.some.inj hid ▸
      ⟨hbusy.imp fun _ hp => hp, fun hd => (nomatch hd)⟩⟩
  cases answer <;>
    exact ⟨hok _ _, h.retries, by simp [TaskState.movesLeft],
      Nat.le_add_right _ _⟩

/-! ### The main thread -/

/-- What settling a task achieves. -/
def SettledOk (policy : RunPolicy) (args : StageArgs) (strict : Prop) (st : Store) (w : World)
    (task : Task) : Settlement → Prop
  | .success response => SlotSuccess args.stage w.store task.call.provider response
  | .failure error => SlotFailure args.stage strict w.store task.call.provider error
  | .preserved id response error recover => Busy args.stage w task.call id CallPhase.Done ∧
      PreservedOk policy args st task response error recover

/-- Settling counts no call and no retry. -/
structure Settles (policy : RunPolicy) (args : StageArgs) (strict : Prop) (st : Store) (task : Task)
    (w : World) (settlement : Settlement) (w' : World) : Prop where
  ok : SettledOk policy args strict st w' task settlement
  retries : RetriesOk args st w' task
  calls : w'.store.countCalls ≤ w.store.countCalls

/-- A response that did not complete is never ambiguous. -/
theorem completionError_ambiguous {response : Option ProviderResponse} {e : ProviderError}
    (h : completionError response = some e) : e.ambiguous = false := by
  unfold completionError at h
  split at h
  · cases h
    rfl
  · split at h
    · cases h
    · cases h
      rfl

/-- The error of a truncated response says so. -/
theorem completionError_length {response : Option ProviderResponse} {e : ProviderError}
    (hlen : (response.any fun r => decide (r.finishReason = some (lit "length"))) = true)
    (h : completionError response = some e) : Store.lengthSuffix <:+ e.message := by
  cases response with
  | none => cases hlen
  | some r =>
    have hr : r.finishReason = some (lit "length") := by simpa using hlen
    simp only [completionError, hr, Option.some.injEq, lit_inj, String.reduceEq, if_false] at h
    rw [← h]
    simp only [completionError.reason, hr]
    exact ⟨lit "Provider response did not complete normally ", rfl⟩

/-- A response that completed was finished normally. -/
theorem completionError_eq_none {response : Option ProviderResponse}
    (h : completionError response = none) :
    ∃ r, response = some r ∧ r.finishReason = some (lit "stop") := by
  unfold completionError at h
  split at h
  · cases h
  · rename_i r
    split at h
    · rename_i hstop
      exact ⟨r, rfl, hstop⟩
    · cases h

/-- The error a slot reports when it is as it was at the entry. -/
theorem reports_prior {strict : Prop} (hready : TaskReady rt spec args st w task)
    (hslot : w'.store.slot args.stage task.call.provider =
      st.slot args.stage task.call.provider) (e : ProviderError) :
    SlotFailure args.stage strict w'.store task.call.provider
      ((priorError task.prior).getD e.toDict) := by
  rw [hready.prior]
  exact (hready.work.prior e).congr hslot

/-- The invariant is about the store. -/
theorem Inv.congr (h : Inv rt spec w) (hst : w'.store = w.store) : Inv rt spec w' where
  wellFormed := hst ▸ h.wellFormed
  stopped := hst ▸ h.stopped
  spec_eq := hst ▸ h.spec_eq
  accepted := h.accepted
  complete := hst ▸ h.complete
  chain := hst ▸ h.chain

/-- The retries that a task may still make are read off the store. -/
theorem RetriesOk.congr (h : RetriesOk args st w task) (hst : w'.store = w.store) :
    RetriesOk args st w' task := by
  unfold RetriesOk
  rw [hst]
  exact h

/-- The lease of a call that was not made is given back. -/
structure Released (stage : Stage) (w : World) (task : Task) (o : Outcome) (w' : World) : Prop where
  store : w'.store = w.store
  busy : ∀ id, Busy stage w task.call id o.phase → Busy stage w' task.call id CallPhase.Unsent
  kept : o.lease = false → w' = w

/-- Releasing a lease tells the gate and leaves the store as it is, whether the gate answers or
raises. -/
theorem releaseLease_spec {o : Outcome} (hstage : task.call.stage = stage)
    (hd : o.dispatched = false)
    (hbusy : o.lease = true → ∃ id, Busy stage w task.call id o.phase) :
    Prog.wp (stageRules rt spec stage [task.call.provider])
      (fun _ w' => Released stage w task o w') (fun _ w' => w'.store = w.store)
      (releaseLease task.call o) w := by
  have hof : ∀ a : Action, a.call? = some task.call → a.isOf stage task.call.provider = true :=
    fun a ha => isOf_eq_true.2 ⟨_, ha, hstage, rfl⟩
  unfold releaseLease
  by_cases hl : o.lease = true
  · obtain ⟨id, hbusy⟩ := hbusy hl
    have hleased : ∀ i, Busy stage w task.call i o.phase →
        Busy stage w task.call i (· = .leased) := fun i hi =>
      hi.imp fun p hp => by simpa [Outcome.phase, hd, hl] using hp
    have hreleasing : ∀ i, Busy stage w task.call i o.phase →
        Busy stage (w.record (.released task.call)) task.call i (· = .releasing) := fun i hi =>
      hi.record (hof _ rfl) rfl fun _ _ => rfl
    rw [if_pos hl, Prog.wp_bind, wp_emit]
    refine ⟨step_act rfl ⟨hstage, (hleased id hbusy).inCall hstage⟩, fun answer _ => ?_⟩
    cases answer with
    | some e => exact rfl
    | none =>
      refine ⟨step_act rfl ⟨hstage, ((hreleasing id hbusy).imp fun _ hp => .inl hp).inCall hstage⟩,
        rfl, fun i hi => (hreleasing i hi).record (hof _ rfl) rfl fun p hp => ?_,
        fun hno => by simp [hno] at hl⟩
      rw [show p = .releasing from hp]
      exact .inr (.inr rfl)
  · rw [if_neg hl]
    refine ⟨rfl, fun i hi => hi.imp fun p hp => ?_, fun _ => rfl⟩
    have hp : p = .started ∨ p = .asked := by simpa [Outcome.phase, hd, hl] using hp
    exact hp.imp_right .inl

/-- The lease of a call that was made is reconciled.  A response, or an error that is
not ambiguous, is left only when nothing is owed to the gate. -/
structure ReconciledOk (stage : Stage) (w : World) (task : Task) (o : Outcome)
    (x : Option ProviderResponse × Option ProviderError) (w' : World) : Prop where
  store : w'.store = w.store
  error : ∀ e, x.2 = some e → ∀ id, Busy stage w task.call id o.phase →
    Busy stage w' task.call id (CallPhase.Closes e)
  response : x.2 = none → ∀ id, Busy stage w task.call id o.phase →
    Busy stage w' task.call id CallPhase.Done

/-- An error that is not ambiguous closes a call that is done. -/
theorem closes_of_done {e : ProviderError} (he : e.ambiguous = false) {p : CallPhase}
    (hp : p.Done) : p.Closes e := by
  unfold CallPhase.Closes
  rw [he]
  exact hp

/-- Reconciling an outcome tells the gate what was used, and leaves the store as it is. -/
theorem reconcileOutcome_spec {o : Outcome} (hstage : task.call.stage = stage)
    (hd : o.dispatched = true)
    (hbusy : o.lease = true → ∃ id, Busy stage w task.call id o.phase) :
    Prog.wp (stageRules rt spec stage [task.call.provider])
      (fun x w' => ReconciledOk stage w task o x w') (fun _ w' => w'.store = w.store)
      (reconcileOutcome task.call o) w := by
  have hof : ∀ a : Action, a.call? = some task.call → a.isOf stage task.call.provider = true :=
    fun a ha => isOf_eq_true.2 ⟨_, ha, hstage, rfl⟩
  have hcalled : ∀ p, o.phase p → p = .called o.lease := fun p hp => by
    simpa [Outcome.phase, hd] using hp
  unfold reconcileOutcome
  by_cases hcond : (o.lease && !(o.error.any ProviderError.ambiguous)) = true
  · rw [if_pos hcond]
    rw [Bool.and_eq_true, Bool.not_eq_true'] at hcond
    obtain ⟨hl, hsure⟩ := hcond
    obtain ⟨id, hbusy⟩ := hbusy hl
    have hreconciling : ∀ i, Busy stage w task.call i o.phase →
        Busy stage (w.record (.reconciled task.call)) task.call i (· = .reconciling) := fun i hi =>
      hi.record (hof _ rfl) rfl fun _ _ => rfl
    rw [Prog.wp_bind, wp_emit]
    refine ⟨step_act rfl ⟨hstage, (hbusy.imp fun p hp => (hcalled p hp).trans (by rw [hl])).inCall
      hstage⟩, fun answer _ => ?_⟩
    cases answer with
    | some typeName =>
      refine ⟨rfl, fun e he i hi => (hreconciling i hi).imp fun p hp => ?_, nofun⟩
      obtain rfl := Option.some.inj he
      rw [show p = .reconciling from hp]
      exact .inr ⟨rfl, typeName, rfl⟩
    | none =>
      change Prog.wp _ _ _ (emit (fun _ => .settled task.call) >>= fun _ =>
        pure (o.response, o.error)) _
      rw [Prog.wp_bind, wp_emit]
      have hdone : ∀ i, Busy stage w task.call i o.phase →
          Busy stage ((w.record (.reconciled task.call)).record (.settled task.call)) task.call i
            CallPhase.Done := fun i hi =>
        (hreconciling i hi).record (hof _ rfl) rfl fun p hp => by
          rw [show p = .reconciling from hp]
          exact .inr rfl
      refine ⟨step_act rfl ⟨hstage, ((hreconciling id hbusy).imp fun _ hp => .inr hp).inCall
        hstage⟩, rfl, fun e he i hi => (hdone i hi).imp fun p hp => ?_, fun _ i hi => hdone i hi⟩
      have he : o.error = some e := he
      rw [he] at hsure
      exact closes_of_done (by simpa using hsure) hp
  · rw [if_neg hcond]
    refine ⟨rfl, fun e he i hi => hi.imp fun p hp => ?_, fun he i hi => hi.imp fun p hp => ?_⟩
    · rw [hcalled p hp]
      by_cases hamb : e.ambiguous = true
      · simp [CallPhase.Closes, CallPhase.IsSettled, hamb]
      · have hl : o.lease = false := by
          have he : o.error = some e := he
          simpa [he, hamb] using hcond
        rw [hl]
        exact closes_of_done (by simpa using hamb) (.inl rfl)
    · have hl : o.lease = false := by
        have he : o.error = none := he
        simpa [he] using hcond
      rw [hcalled p hp, hl]
      exact .inl rfl

/-- A slot that has just been failed reports its error. -/
theorem settles_failed {policy : RunPolicy} {strict : Prop} {r : Invocation} {e : ProviderError}
    (hretries : RetriesOk args st w task)
    (hslot : w'.store.slot args.stage task.call.provider = some r) (hstate : r.state = .failed e)
    (hevents : w'.store.events = w.store.events)
    (hcalls : w'.store.countCalls = w.store.countCalls) :
    Settles policy args strict st task w (.failure e.toDict) w' where
  ok := slotFailure_stored hslot hstate (reports_self e)
  retries hlen := (truncationRetryCount_congr hevents _ _).trans_le (hretries hlen)
  calls := hcalls.le

/-- A response is preserved while its slot is still running. -/
theorem wp_preserve {policy : RunPolicy} {strict : Prop} {type : EventType} {payload : Dict}
    {response : Option ProviderResponse} {e : ProviderError} {recover : Bool}
    (hbusy : Busy args.stage w task.call id CallPhase.Done) (hretries : RetriesOk args st w task)
    (ht : type.isStageAudit = true) (hp : PreservedOk policy args st task response e recover) :
    Prog.wp (stageRules rt spec args.stage [task.call.provider])
      (fun _ w' => Settles policy args strict st task w (.preserved id response e recover) w')
      (fun _ w' => w'.store = w.store)
      (transact fun st => st.appendEvent rt type payload) w := by
  rw [wp_transact]
  refine ⟨fun st' hst' => ?_, fun _ _ => rfl⟩
  have hprinted := Store.appendEvent_dumpable hst'
  obtain rfl := Store.appendEvent_ok hst'
  refine ⟨.audit w type _ ht hprinted, ⟨⟨hbusy.running, hbusy.last, hbusy.phase⟩, hp⟩,
    fun hlen => ?_,
    le_rfl⟩
  exact (truncationRetryCount_addEvent (by rintro rfl; cases ht) _ _).trans_le (hretries hlen)

/-- **An outcome without a call**: the slot is as it was, or it failed ambiguously. -/
theorem settleUndispatched_spec {o : Outcome} {strict : Prop}
    (h : TaskPre rt spec args st w task (.finished (.ok o))) (hd : o.dispatched = false) :
    Prog.wp (stageRules rt spec args.stage [task.call.provider])
      (fun s w' => Settles spec.config.policy args strict st task w s w')
      (fun _ w' => w'.store = w.store) (settleUndispatched rt task o) w := by
  have hok : OutcomeOk args st w task o := h.slot
  have hleased : o.lease = true → ∃ id, Busy args.stage w task.call id o.phase := by
    intro hl
    cases hid : o.invocationId with
    | none =>
      obtain ⟨-, hno, -⟩ := hok.unstarted hid
      simp [hno] at hl
    | some id => exact ⟨id, (hok.started id hid).1⟩
  unfold settleUndispatched
  refine Prog.wp_seq (releaseLease_spec h.ready.stage hd hleased) fun _ w₁ ht => ?_
  have hinv := h.inv.congr ht.store
  have hretries : RetriesOk args st w₁ task := h.retries.congr ht.store
  have hexc : ∀ (e : PyErr) (w' : World), w'.store = w₁.store → w'.store = w.store :=
    fun _ _ he => he.trans ht.store
  cases hid : o.invocationId with
  | none =>
    obtain ⟨-, -, hslot, e, he, hamb⟩ := hok.unstarted hid
    simp only [he, restoreSlot, hid, hamb]
    refine ⟨reports_prior h.ready (by rw [ht.store]; exact hslot) e, hretries, ?_⟩
    rw [ht.store]
  | some id =>
    obtain ⟨hbusy, hdone⟩ := hok.started id hid
    obtain ⟨⟨e, he, hlease⟩, attempt, hattempt⟩ := hdone hd
    have hunsent := ht.busy id hbusy
    simp only [he, restoreSlot, hid, hattempt]
    refine Prog.wp_mono (fun _ _ h => h) hexc ?_
    by_cases hamb : e.ambiguous = true
    · -- the gate has refused ambiguously: there is no lease
      have hl : o.lease = false := by
        by_contra hl
        rw [Bool.not_eq_false] at hl
        simp [hlease hl] at hamb
      have hcloses : (w₁.phase args.stage task.call.provider).Closes e := by
        have hp : w.phase args.stage task.call.provider = .started ∨
            w.phase args.stage task.call.provider = .asked := by
          simpa [Outcome.phase, hd, hl] using hbusy.phase
        rw [ht.kept hl]
        unfold CallPhase.Closes
        rcases hp with hp | hp <;> simp [hp, hamb, CallPhase.IsSettled]
      simp only [hamb, if_true]
      rw [Prog.wp_bind]
      refine wp_fail hinv hunsent.running e hcloses fun w' r hslot hstate _ hevents hcalls => ?_
      have hs : Settles spec.config.policy args strict st task w₁ (.failure e.toDict) w' :=
        settles_failed hretries hslot hstate hevents hcalls
      exact ⟨hs.ok, hs.retries, ht.store ▸ hs.calls⟩
    · simp only [hamb, if_false, Bool.false_eq_true]
      rw [Prog.wp_bind]
      refine wp_release hinv hunsent.running hunsent.phase fun w' hsome hnone hcount hcalls => ?_
      refine ⟨?_, fun hlen => (hcount _ _).trans (hretries hlen), ht.store ▸ hcalls⟩
      cases hprior : task.prior with
      | none => exact slotFailure_none (hnone hprior) (reports_self e)
      | some p =>
        obtain ⟨r, e', hslot, hstate, hp⟩ := hsome p hprior
        have : priorError (some p) = some e'.stored := by simp [priorError, hp]
        rw [this]
        exact slotFailure_stored hslot hstate (reports_stored e')

/-- **An outcome of a call**: the slot succeeds, fails, or its response is preserved
first. -/
theorem settleDispatched_spec {o : Outcome} {strict : Prop}
    (h : TaskPre rt spec args st w task (.finished (.ok o))) (hd : o.dispatched = true) :
    Prog.wp (stageRules rt spec args.stage [task.call.provider])
      (fun s w' => Settles spec.config.policy args strict st task w s w')
      (fun _ w' => w'.store = w.store)
      (settleDispatched rt spec.config.policy args st task o) w := by
  have hok : OutcomeOk args st w task o := h.slot
  have hstarted : ∃ id, o.invocationId = some id := by
    cases hid : o.invocationId with
    | none =>
      obtain ⟨hno, -⟩ := hok.unstarted hid
      simp [hno] at hd
    | some id => exact ⟨id, rfl⟩
  obtain ⟨id, hid⟩ := hstarted
  have hbusy := (hok.started id hid).1
  unfold settleDispatched
  refine Prog.wp_seq (reconcileOutcome_spec h.ready.stage hd fun _ => ⟨id, hbusy⟩) ?_
  rintro ⟨response, error⟩ w₁ ht
  have hinv := h.inv.congr ht.store
  have hretries : RetriesOk args st w₁ task := h.retries.congr ht.store
  have hpost : ∀ s w', Settles spec.config.policy args strict st task w₁ s w' →
      Settles spec.config.policy args strict st task w s w' :=
    fun _ _ hs => ⟨hs.ok, hs.retries, ht.store ▸ hs.calls⟩
  have hexc : ∀ (e : PyErr) (w' : World), w'.store = w₁.store → w'.store = w.store :=
    fun _ _ he => he.trans ht.store
  refine Prog.wp_mono hpost hexc ?_
  rw [hid]
  have hfail : ∀ e : ProviderError, Busy args.stage w₁ task.call id (CallPhase.Closes e) →
      Prog.wp (stageRules rt spec args.stage [task.call.provider])
        (fun _ w' => Settles spec.config.policy args strict st task w₁ (.failure e.toDict) w')
        (fun _ w' => w'.store = w₁.store)
        (transact fun st => st.finishInvocationFailure rt id e) w₁ := fun e hcloses =>
    wp_fail hinv hcloses.running e hcloses.phase fun w' r hslot hstate _ hevents hcalls =>
      settles_failed hretries hslot hstate hevents hcalls
  cases error with
  | some e => exact Prog.wp_seq (hfail e (ht.error e rfl id hbusy)) fun _ _ hs => hs
  | none =>
    have hdone := ht.response rfl id hbusy
    cases hc : completionError response with
    | none =>
      obtain ⟨r, rfl, hstop⟩ := completionError_eq_none hc
      simp only [hc]
      rw [Prog.wp_bind]
      refine wp_succeed hinv hdone.running hdone.phase r hstop fun w' hsucc hevents hcalls => ?_
      exact ⟨⟨⟨_, hsucc, by simp [Store.storedResponse]⟩, hstop⟩,
        fun hlen => (truncationRetryCount_congr hevents _ _).trans_le (hretries hlen), hcalls.le⟩
    | some e =>
      have hcloses : Busy args.stage w₁ task.call id (CallPhase.Closes e) :=
        hdone.imp fun _ hp => closes_of_done (completionError_ambiguous hc) hp
      cases response with
      | none =>
        simp only [hc]
        exact Prog.wp_seq (hfail e hcloses) fun _ _ hs => hs
      | some r =>
        simp only [hc]
        by_cases hmay : mayRecover spec.config.policy args st task (some r) = true
        · rw [if_pos hmay]
          exact Prog.wp_seq (wp_preserve hdone hretries rfl ⟨hc, fun _ => hmay⟩)
            fun _ _ hs => hs
        rw [if_neg hmay]
        by_cases hkeep : args.preserveIncompleteResponses = true
        · rw [if_pos hkeep]
          exact Prog.wp_seq (wp_preserve hdone hretries rfl ⟨hc, fun hr => by cases hr⟩)
            fun _ _ hs => hs
        · rw [if_neg hkeep]
          exact Prog.wp_seq (hfail e hcloses) fun _ _ hs => hs

/-- What is known of a response that may be asked for again: its slot has failed with
its error, and may be retried. -/
structure RecoverableOk (policy : RunPolicy) (args : StageArgs) (w : World) (task : Task)
    (r : Recoverable) : Prop where
  provider : r.provider = task.call.provider
  prompts : r.prompts = task.call.prompts
  failed : ∃ row e, w.store.slot args.stage r.provider = some row ∧ row.state = .failed e ∧
    completionError r.response = some e
  truncated : isLengthFailure (w.store.slot args.stage r.provider) = true
  limit : r.outputLimit = task.call.outputLimit ∧ isLengthFailure task.prior = false
  retries : w.store.truncationRetryCount args.stage r.provider < policy.truncationRetries
  allowed : args.allowTruncationRecovery = true

/-- Settling a preserved response: its slot has failed with its error. -/
structure Failed (policy : RunPolicy) (args : StageArgs) (strict : Prop) (st : Store) (task : Task)
    (recover : Bool) (error : ProviderError) (w : World) (r : Recoverable) (w' : World) :
    Prop where
  settles : Settles policy args strict st task w (.failure error.toDict) w'
  recoverable : recover = true → RecoverableOk policy args w' task r

/-- **A preserved response** is failed with its error. -/
theorem failPreserved_spec {response : Option ProviderResponse} {error : ProviderError}
    {recover : Bool} {strict : Prop}
    (h : TaskPre rt spec args st w task (.preserved id response error recover)) :
    Prog.wp (stageRules rt spec args.stage [task.call.provider])
      (fun r w' => Failed spec.config.policy args strict st task recover error w r w')
      (fun _ w' => w'.store = w.store) (failPreserved rt task id response error) w := by
  obtain ⟨hbusy, hp⟩ := h.slot
  have hcloses := closes_of_done (completionError_ambiguous hp.error_eq) hbusy.phase
  unfold failPreserved
  rw [Prog.wp_bind]
  refine wp_fail h.inv hbusy.running error hcloses fun w' r hslot hstate hget hevents hcalls => ?_
  rw [Prog.wp_bind, wp_getStore]
  simp only [hget]
  refine ⟨settles_failed h.retries hslot hstate hevents hcalls, fun hrecover => ?_⟩
  have hmay := hp.may hrecover
  simp only [mayRecover, Bool.and_eq_true, decide_eq_true_eq, Bool.not_eq_true'] at hmay
  have htruncated : isLengthFailure (some r) = true := by
    rw [isLengthFailure_eq hstate, completionError_ambiguous hp.error_eq]
    simpa using completionError_length hmay.1.1.1.1 hp.error_eq
  refine ⟨rfl, rfl, ⟨r, error, hslot, hstate, hp.error_eq⟩, by rw [← htruncated, ← hslot],
    ⟨rfl, hmay.1.2⟩, ?_, hmay.1.1.1.2⟩
  have hcount := (truncationRetryCount_congr hevents args.stage task.call.provider).trans_le
    (h.retries hmay.1.2)
  have hlt := hmay.2
  dsimp only
  omega

end CouncilLogic
