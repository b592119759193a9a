/-
# Following a run

What a run can come to, for some answers: a fresh run opens its proposal stage, and the
pool of the stage goes on as its tasks are scheduled.

The theorems of this development hold for all runs; that their hypotheses can be met is shown by
runs that are followed here.  The engine of `src/model_council/engine.py` is deterministic once
its environment answers, but a run has thousands of steps: so it is cut into pieces, each a lemma
from one named world to the next (`Prog.Ends`, `Prog.Passes`, `Prog.Leads`), and the pieces are
put together by transitivity.
-/

import CouncilLogic.Engine.Creation
import CouncilLogic.Json.Storable

namespace CouncilLogic

open Protocol

variable {rt : Runtime} {eng : CouncilEngine} {w w' : World} {α : Type}

/-! ### Steps -/

/-- Reading the store ends with the store. -/
theorem ends_getStore (w : World) : Prog.Ends getStore w w.store w :=
  (Prog.ends_read w).seq (Prog.ends_pure _ _)

/-- A transaction that does not raise ends with its store. -/
theorem ends_transact {f : Store → Except PyErr Store} {st : Store} (h : f w.store = .ok st) :
    Prog.Ends (transact f) w () (w.withStore st) :=
  (Prog.ends_read w).seq ((Prog.ends_ofExcept h w).seq (Prog.ends_write _ _))

/-- An action is recorded. -/
theorem ends_emit (a : Store → Action) (w : World) :
    Prog.Ends (emit a) w () (w.record (a w.store)) :=
  (Prog.ends_read w).seq (Prog.ends_write _ _)

/-- The clock ends with any time that is not before the last one. -/
theorem ends_monotonic (w : World) (elapsed : ℕ) :
    Prog.Ends monotonic w (w.now + elapsed : ℤ) (w.tick elapsed) :=
  (Prog.ends_read w).seq ((Prog.ends_query Question.clock elapsed w).seq
    ((Prog.ends_write _ _).seq (Prog.ends_pure _ _)))

/-! ### A fresh run -/

/-- The store of a fresh run whose resume has written its first events. -/
def Store.opened (spec : RunSpec) (events : List Event) : Store where
  run := { spec := spec, status := .running }
  events := events

/-- What the first resume of a run has written when its stages begin. -/
structure Opening (rt : Runtime) (eng : CouncilEngine) (spec : RunSpec) (m : Marker)
    (plan : Workload.Plan) (events : List Event) : Prop where
  spec_eq : spec.protocolHash = rt.protocolHash ∧ spec.config = eng.toRunConfig
  planned : ∃ draws, Workload.estimateWorkload rt draws spec.question eng.names eng.policy
    eng.synthesisProviders = .ok plan
  limits : Workload.requireWorkloadWithinLimits plan = .ok ()
  written : ∃ marker started preflight,
    Dict.store rt (lit "$.event") [(lit "marker", .str m.text)] = .ok marker ∧
    Dict.store rt (lit "$.event")
      [(lit "protocol", .str (protocolId ++ lit "@" ++ protocolVersion))] = .ok started ∧
    Dict.store rt (lit "$.event") plan.toDict = .ok preflight ∧
    events = [⟨.untrustedMarker, marker⟩, ⟨.runStarted, started⟩, ⟨.workloadPreflight, preflight⟩]

/-- Nothing has been refused when the stages of a fresh run begin. -/
theorem Opening.notDispatchedCount {spec : RunSpec} {m : Marker} {plan : Workload.Plan}
    {events : List Event} (h : Opening rt eng spec m plan events) (stage : Stage)
    (provider : Str) : (Store.opened spec events).notDispatchedCount stage provider = 0 := by
  obtain ⟨marker, started, preflight, -, -, -, rfl⟩ := h.written
  rfl

/-- In a run that has just been created no call was restarted. -/
theorem Opening.truncationRetryCount {spec : RunSpec} {m : Marker} {plan : Workload.Plan}
    {events : List Event} (h : Opening rt eng spec m plan events) (stage : Stage)
    (provider : Str) : (Store.opened spec events).truncationRetryCount stage provider = 0 := by
  obtain ⟨marker, started, preflight, -, -, -, rfl⟩ := h.written
  rfl

/-- An event whose payload can be stored is appended. -/
theorem appendEvent_eq {st : Store} {type : EventType} {payload stored : Dict}
    (h : Dict.store rt (lit "$.event") payload = .ok stored) :
    st.appendEvent rt type payload = .ok (st.addEvent type stored) := by
  unfold Store.appendEvent
  rw [h]
  rfl

/-- The run lock is accepted for the configuration and the protocol it was made for. -/
theorem validateRunLock_eq_ok {spec : RunSpec}
    (h : spec.protocolHash = rt.protocolHash ∧ spec.config = eng.toRunConfig) :
    validateRunLock rt eng spec = .ok () := by
  unfold validateRunLock
  rw [h.1, h.2]
  simp

/-- The chain of a run without rows and events is at its first position. -/
theorem loadSynthesisFallbackState_fresh (config : RunConfig) {st : Store}
    (hrows : st.invocations = []) : loadSynthesisFallbackState config st [] = .ok (1, []) := by
  have hpositions : successfulPositions config st = [] := by
    unfold successfulPositions
    rw [hrows]
    rfl
  unfold loadSynthesisFallbackState
  simp only [fallbackEvents, List.filter_nil, checkTransitions, bind, Except.bind, hpositions]
  rfl

/-- **The first resume of a run opens its stages.** -/
theorem passes_resume {spec : RunSpec} {m : Marker} {plan : Workload.Plan} {events : List Event}
    (h : Opening rt eng spec m plan events)
    (hstages : Prog.Passes (runStages rt eng
      ⟨spec, m.text, eng.policy.deadlineSeconds, plan⟩ none none (1, []) [])
      { store := .opened spec events } w) :
    Prog.Passes (resume rt eng) { store := { run := { spec := spec } } } w := by
  obtain ⟨draws, hplan⟩ := h.planned
  obtain ⟨marker, started, preflight, hmarker, hstarted, hpreflight, rfl⟩ := h.written
  have hlock := validateRunLock_eq_ok h.spec_eq
  have hload : loadSynthesisFallbackState eng.toRunConfig { run := { spec := spec } } [] =
      .ok (1, []) := loadSynthesisFallbackState_fresh _ rfl
  unfold resume
  refine (ends_getStore _).seq_passes ?_
  refine (Prog.ends_ofExcept hlock _).seq_passes ?_
  refine (Prog.ends_ofExcept hload _).seq_passes ?_
  refine (Prog.ends_ofExcept (a := none) rfl _).seq_passes ?_
  refine (Prog.ends_ofExcept (a := none) rfl _).seq_passes ?_
  show Prog.Passes (beginResume rt eng _ none none (1, [])) _ w
  unfold beginResume loadOrCreateUntrustedMarker
  refine Prog.Ends.seq_passes (a := m.text) ((Prog.ends_query Question.newMarker m _).seq
    ((ends_transact (appendEvent_eq hmarker)).seq (Prog.ends_pure _ _))) ?_
  refine (ends_monotonic _ 0).seq_passes ?_
  refine (ends_transact (f := fun st => .ok (st.setRunStatus .running)) rfl).seq_passes ?_
  refine (ends_transact (appendEvent_eq hstarted)).seq_passes ?_
  refine (Prog.ends_query Question.planDraws draws _).seq_passes ?_
  refine (Prog.ends_ofExcept hplan _).seq_passes ?_
  refine (Prog.ends_ofExcept h.limits _).seq_passes ?_
  refine (ends_transact (appendEvent_eq hpreflight)).seq_passes ?_
  have hdeadline : ((0 : ℕ) : ℤ) + ((0 : ℕ) : ℤ) + eng.policy.deadlineSeconds =
      eng.policy.deadlineSeconds := by omega
  show Prog.Passes (runStages rt eng ⟨spec, m.text, ((0 : ℕ) : ℤ) + ((0 : ℕ) : ℤ) +
    eng.policy.deadlineSeconds, plan⟩ none none (1, []) []) _ w
  rw [hdeadline]
  exact hstages

/-! ### A pass of a stage -/

section Pass
variable {args : StageArgs} {work : List (Str × PromptPair)}

/-- Slots that are all work. -/
theorem ends_selectSlots_work {policy : RunPolicy} {st : Store} {prompts : List (Str × PromptPair)}
    (hwork : ∀ e ∈ prompts, selectSlot policy args st e.1 = .work) (w : World) :
    Prog.Ends (selectSlots rt policy args st prompts) w ({}, prompts) w := by
  induction prompts with
  | nil => exact Prog.ends_pure _ _
  | cons e rest ih =>
    obtain ⟨name, prompts⟩ := e
    unfold selectSlots
    rw [hwork _ List.mem_cons_self]
    exact (ih fun e he => hwork e (List.mem_cons_of_mem _ he)).seq (Prog.ends_pure _ _)

/-- Without rows every slot is work. -/
theorem ends_selectSlots_fresh {st : Store} (hrows : st.invocations = []) (policy : RunPolicy)
    (args : StageArgs) (prompts : List (Str × PromptPair)) (w : World) :
    Prog.Ends (selectSlots rt policy args st prompts) w ({}, prompts) w :=
  ends_selectSlots_work (fun e _ => by
    simp [selectSlot, Store.slot, Rows.find, hrows, Store.isAmbiguous]) w

/-- A truncated slot with a retry left is work. -/
theorem selectSlot_again {policy : RunPolicy} {st : Store} {name : Str} {r : Invocation}
    {e : ProviderError} (hrow : st.slot args.stage name = some r) (hstate : r.state = .failed e)
    (hambiguous : e.ambiguous = false) (hretry : args.retryFailedInvocations = true)
    (hrecorded : st.recordedTruncationRecovery args.stage name = false)
    (hleft : (st.truncationRetryCount args.stage name : ℤ) < policy.truncationRetries)
    (hquiet : st.isAmbiguous name = false) : selectSlot policy args st name = .work := by
  unfold selectSlot
  simp [hrow, hstate, hambiguous, hretry, hrecorded, hquiet, not_le.2 hleft]

/-- Prompts within the limit are all work. -/
theorem ends_limitPrompts {policy : RunPolicy} (args : StageArgs) {work : List (Str × PromptPair)}
    (hfits : ∀ e ∈ work, fitsLimit policy e.2 = true) (w : World) :
    Prog.Ends (limitPrompts policy args work) w ({}, work) w := by
  induction work with
  | nil => exact Prog.ends_pure _ _
  | cons e rest ih =>
    obtain ⟨name, prompts⟩ := e
    unfold limitPrompts
    rw [if_pos (hfits _ List.mem_cons_self)]
    exact (ih fun e he => hfits e (List.mem_cons_of_mem _ he)).seq (Prog.ends_pure _ _)

/-- The call budget of a run without rows admits a call for every provider. -/
theorem capacity_fresh {st : Store} (hrows : st.invocations = []) (workNames : List Str) :
    eng.names.length ≤ remainingCalls eng.toRunConfig st -
      downstreamCallReserve eng.toRunConfig st .proposal workNames := by
  have hmax := eng.accepted.max_calls
  have hcount : st.countCalls = 0 := by
    simp [Store.countCalls, hrows]
  have hexists : synthesisResultExists eng.toRunConfig st = false := by
    unfold synthesisResultExists Store.successful Store.slot Rows.find
    rw [hrows, List.any_eq_false]
    simp
  have hnames : eng.names.length = eng.providers.length := by
    simp [RunConfig.names]
  unfold remainingCalls downstreamCallReserve
  simp only [hexists, hcount, Bool.false_eq_true, if_false]
  rw [hnames]
  omega

/-- The pool that makes the calls of some work. -/
def startPool (eng : CouncilEngine) (args : StageArgs) (st : Store)
    (work : List (Str × PromptPair)) : Pool where
  tasks := (tasksOf eng.toRunConfig args st work).map fun task => (task, .queued)

/-- What an executor makes of its pool. -/
def poolResult (pool : Pool) : M (StageResult × List Recoverable) :=
  match pool.raised with
  | some e => .raise e
  | none => pure (pool.result, pool.recoverable)

/-- With work to do and a worker to do it, the calls of a stage are the run of its pool. -/
theorem executeCalls_eq {st : Store} (hwork : work ≠ [])
    (hparallel : 1 ≤ eng.policy.maxParallelCalls) :
    executeCalls rt eng args st work =
      (runPool rt eng args st (min eng.policy.maxParallelCalls work.length).toNat
        (6 * work.length) (startPool eng args st work) >>= poolResult) := by
  have htasks : (tasksOf eng.toRunConfig args st work).length = work.length := by
    simp [tasksOf]
  have hpos := List.length_pos_of_ne_nil hwork
  have hworkers : ¬ min eng.policy.maxParallelCalls (work.length : ℤ) ≤ 0 := by omega
  unfold executeCalls
  simp only [htasks, hworkers, if_false]
  rfl

/-- **A pass makes its calls** within the deadline, the prompt limit and the budget. -/
theorem leads_runStagePass {selected : StageResult}
    (hselect : Prog.Ends (selectSlots rt eng.policy args w.store args.prompts)
      (w.record (.enter args.stage args.prompts w.store)) (selected, work)
      (w.record (.enter args.stage args.prompts w.store)))
    (hwork : work ≠ []) (hnow : (w.now : ℤ) < args.deadline)
    (hfits : ∀ e ∈ work, fitsLimit eng.policy e.2 = true)
    (hcapacity : work.length ≤ remainingCalls eng.toRunConfig w.store -
      downstreamCallReserve eng.toRunConfig w.store args.stage (work.map Prod.fst))
    (hparallel : 1 ≤ eng.policy.maxParallelCalls) :
    Prog.Leads (runStagePass rt eng args) w
      (runPool rt eng args w.store (min eng.policy.maxParallelCalls work.length).toNat
        (6 * work.length) (startPool eng args w.store work) >>= poolResult >>= fun r =>
          pure (((selected.append {}).append {}).append r.1, r.2))
      (w.record (.enter args.stage args.prompts w.store)) := by
  have htake : work.take (remainingCalls eng.toRunConfig w.store -
      downstreamCallReserve eng.toRunConfig w.store args.stage (work.map Prod.fst)) = work :=
    List.take_of_length_le hcapacity
  have hdrop : work.drop (remainingCalls eng.toRunConfig w.store -
      downstreamCallReserve eng.toRunConfig w.store args.stage (work.map Prod.fst)) = [] :=
    List.drop_eq_nil_of_le hcapacity
  have hclock : ¬ args.deadline ≤ (w.now : ℤ) + ((0 : ℕ) : ℤ) := by omega
  rw [← executeCalls_eq hwork hparallel]
  unfold runStagePass
  refine (ends_emit _ w).seq_leads ?_
  refine (ends_getStore _).seq_leads ?_
  refine hselect.seq_leads ?_
  show Prog.Leads (if work = [] then _ else _) _ _ _
  rw [if_neg hwork]
  refine (ends_monotonic _ 0).seq_leads ?_
  show Prog.Leads (if args.deadline ≤ (w.now : ℤ) + ((0 : ℕ) : ℤ) then _ else _) _ _ _
  rw [if_neg hclock]
  refine (ends_limitPrompts args hfits _).seq_leads ?_
  show Prog.Leads (if work = [] then _ else _) _ _ _
  rw [if_neg hwork]
  unfold callWithinBudget
  refine (ends_getStore _).seq_leads ?_
  simp only [World.record_store, World.tick_store, htake, hdrop, List.map_nil, hwork, if_false]
  unfold denySlots
  exact (Prog.ends_pure _ _).seq_leads (.refl _ _)

/-- **The first pass of a run** makes a call for every prompt. -/
theorem leads_firstPass (hstage : args.stage = .proposal) (hrows : w.store.invocations = [])
    (hprompts : args.prompts ≠ []) (hlength : args.prompts.length = eng.names.length)
    (hnow : (w.now : ℤ) < args.deadline)
    (hfits : ∀ e ∈ args.prompts, fitsLimit eng.policy e.2 = true)
    (hparallel : 1 ≤ eng.policy.maxParallelCalls) :
    Prog.Leads (runStagePass rt eng args) w
      (runPool rt eng args w.store (min eng.policy.maxParallelCalls args.prompts.length).toNat
        (6 * args.prompts.length) (startPool eng args w.store args.prompts) >>= poolResult >>=
          fun r => pure (((StageResult.append {} {}).append {}).append r.1, r.2))
      (w.record (.enter args.stage args.prompts w.store)) := by
  have hcapacity : eng.names.length ≤ remainingCalls eng.toRunConfig w.store -
      downstreamCallReserve eng.toRunConfig w.store .proposal (args.prompts.map Prod.fst) :=
    capacity_fresh hrows _
  rw [← hlength, ← hstage] at hcapacity
  exact leads_runStagePass (ends_selectSlots_fresh hrows _ _ _ _) hprompts hnow hfits hcapacity
    hparallel

end Pass

/-! ### Moves of a pool -/

section Pool
variable {args : StageArgs} {st : Store} {pool pool' : Pool} {maxWorkers fuel i : ℕ}

/-- A task that can move is among those the schedule chooses from. -/
theorem mem_moves (hi : pool.canMove maxWorkers i = true) : i ∈ pool.moves maxWorkers := by
  refine List.mem_filter.2 ⟨List.mem_range.2 ?_, hi⟩
  by_contra hlt
  unfold Pool.canMove at hi
  rw [List.getElem?_eq_none (not_lt.1 hlt)] at hi
  cases hi

/-- Any task that can move may be the next one. -/
theorem exists_schedule {moves : List ℕ} {move : ℕ} (hi : i ∈ move :: moves) :
    ∃ k, (move :: moves).getD (k % (moves.length + 1)) move = i := by
  obtain ⟨k, hk, hget⟩ := List.getElem_of_mem hi
  have hlt : k < moves.length + 1 := hk
  refine ⟨k, ?_⟩
  rw [Nat.mod_eq_of_lt hlt, List.getD_eq_getElem?_getD, List.getElem?_eq_getElem hk, hget]
  rfl

/-- The pool passes through what a task does. -/
theorem passes_movePool (hi : pool.canMove maxWorkers i = true)
    (h : Prog.Passes (movePool rt eng args st pool i) w w') :
    Prog.Passes (runPool rt eng args st maxWorkers (fuel + 1) pool) w w' := by
  unfold runPool
  have hmem := mem_moves hi
  cases hmoves : pool.moves maxWorkers with
  | nil =>
    rw [hmoves] at hmem
    cases hmem
  | cons move moves =>
    rw [hmoves] at hmem
    obtain ⟨k, hk⟩ := exists_schedule hmem
    refine (Prog.ends_query Question.schedule k w).seq_passes ?_
    rw [hk]
    exact h.left _

/-- The pool goes on after a move. -/
theorem leads_runPool {w₁ : World} (hi : pool.canMove maxWorkers i = true)
    (h : Prog.Ends (movePool rt eng args st pool i) w pool' w₁) :
    Prog.Leads (runPool rt eng args st maxWorkers (fuel + 1) pool) w
      (runPool rt eng args st maxWorkers fuel pool') w₁ := by
  have hmem := mem_moves hi
  generalize hrest : runPool rt eng args st maxWorkers fuel pool' = rest
  unfold runPool
  cases hmoves : pool.moves maxWorkers with
  | nil =>
    rw [hmoves] at hmem
    cases hmem
  | cons move moves =>
    rw [hmoves] at hmem
    obtain ⟨k, hk⟩ := exists_schedule hmem
    refine (Prog.ends_query Question.schedule k w).seq_leads ?_
    rw [hk, ← hrest]
    exact h.seq_leads (.refl _ _)

/-- A pool in which a task can move passes through the world after that move. -/
theorem passes_runPool {w₁ : World} (hi : pool.canMove maxWorkers i = true)
    (h : Prog.Ends (movePool rt eng args st pool i) w pool' w₁)
    (h' : Prog.Passes (runPool rt eng args st maxWorkers fuel pool') w₁ w') :
    Prog.Passes (runPool rt eng args st maxWorkers (fuel + 1) pool) w w' :=
  (leads_runPool hi h).passes h'

/-- A pool in which a task can move ends as the pool after that move does. -/
theorem ends_runPool {w₁ : World} {pool'' : Pool} (hi : pool.canMove maxWorkers i = true)
    (h : Prog.Ends (movePool rt eng args st pool i) w pool' w₁)
    (h' : Prog.Ends (runPool rt eng args st maxWorkers fuel pool') w₁ pool'' w') :
    Prog.Ends (runPool rt eng args st maxWorkers (fuel + 1) pool) w pool'' w' :=
  (leads_runPool hi h).ends h'

end Pool

/-! ### Tasks -/

/-- A call whose invocation can be started is started. -/
theorem ends_startTask {config : RunConfig} {deadline : ℤ} {call : Call}
    {provider : ProviderConfig} {id : ℕ} {st : Store} (hnow : (w.now : ℤ) < deadline)
    (hconfig : config.config? call.provider = some provider)
    (h : w.store.startInvocation rt call.stage call.provider provider.model provider.lineage
      (combinedPrompt call.prompts) = .ok (id, st)) :
    Prog.Ends (startTask rt config deadline call) w
      (.started id (((st.getInvocation id).map Invocation.callCount).getD 1 +
        st.notDispatchedCount call.stage call.provider))
      { (w.record (.attempt call w.store)).record (.started call w.store) with
        store := st, live := id :: w.live } := by
  have hclock : ¬ deadline ≤ (w.now : ℤ) + ((0 : ℕ) : ℤ) := by omega
  unfold startTask
  refine (ends_monotonic w 0).seq ?_
  rw [if_neg hclock, hconfig]
  refine (ends_emit _ _).seq ((Prog.ends_read _).seq ?_)
  simp only [World.record_store, World.tick_store, h]
  exact (Prog.ends_write _ _).seq (Prog.ends_pure _ _)

/-- Without a gate a call is admitted. -/
theorem ends_reserveTask (call : Call) (id attempt : ℕ) (w : World) :
    Prog.Ends (reserveTask false call id attempt) w (.admitted id attempt false) w :=
  Prog.ends_pure _ _

/-- A gate may grant a lease. -/
theorem ends_reserveTask_lease (call : Call) (id attempt : ℕ) (w : World) :
    Prog.Ends (reserveTask true call id attempt) w (.admitted id attempt true)
      ((w.record (.reserved call attempt)).record (.granted call attempt)) := by
  unfold reserveTask
  refine (ends_emit (fun _ => .reserved call attempt) w).seq ?_
  refine (Prog.ends_query (Question.reserve call attempt) GateAnswer.lease _).seq ?_
  exact (ends_emit (fun _ => .granted call attempt) _).seq (Prog.ends_pure _ _)

/-- A provider may answer. -/
theorem ends_returnTask (call : Call) (id attempt : ℕ) (lease : Bool)
    (response : ProviderResponse) (w : World) :
    Prog.Ends (returnTask call id attempt lease) w
      (.finished (.ok ⟨some id, lease, some response, none, true, some attempt⟩)) w :=
  (Prog.ends_query (Question.generate call) (ProviderAnswer.response response) w).seq
    (Prog.ends_pure _ _)

/-- A lease is reconciled before its call is settled. -/
theorem passes_settle {args : StageArgs} {st : Store} {task : Task} {id attempt : ℕ}
    {policy : RunPolicy} (response : ProviderResponse) (w : World) :
    Prog.Passes (settleDispatched rt policy args st task
        ⟨some id, true, some response, none, true, some attempt⟩) w
      ((w.record (.reconciled task.call)).record (.settled task.call)) := by
  unfold settleDispatched
  refine Prog.Passes.left (Prog.Ends.passes (a := (some response, none)) ?_) _
  unfold reconcileOutcome
  refine (ends_emit (fun _ => .reconciled task.call) w).seq ?_
  refine (Prog.ends_query (Question.reconcile task.call) (none : Option Str) _).seq ?_
  exact (ends_emit (fun _ => .settled task.call) _).seq (Prog.ends_pure _ _)

/-- A truncated response that may be asked for again is preserved first. -/
theorem ends_settleTruncated {args : StageArgs} {st st' : Store} {task : Task} {id : ℕ}
    {attempt : Option ℕ} {policy : RunPolicy} {response : ProviderResponse} {error : ProviderError}
    (hrecover : mayRecover policy args st task (some response) = true)
    (herror : completionError (some response) = some error)
    (happend : w.store.appendEvent rt .truncatedResponsePreserved
      (truncatedPayload task.call response) = .ok st') :
    Prog.Ends (settleDispatched rt policy args st task
        ⟨some id, false, some response, none, true, attempt⟩) w
      (.preserved id (some response) error true) (w.withStore st') := by
  unfold settleDispatched
  refine Prog.Ends.seq (a := (some response, none)) (Prog.ends_pure _ _) ?_
  simp only [herror, hrecover, if_true]
  exact (ends_transact happend).seq (Prog.ends_pure _ _)

/-- Then its invocation fails. -/
theorem ends_failPreserved {st' : Store} {task : Task} {id : ℕ}
    {response : Option ProviderResponse} {error : ProviderError} {r : Invocation}
    (hfail : w.store.finishInvocationFailure rt id error = .ok st')
    (hrow : st'.getInvocation id = some r) :
    Prog.Ends (failPreserved rt task id response error) w
      ⟨task.call.provider, task.call.prompts, response, task.call.outputLimit, r.callCount⟩
      (w.withStore st') := by
  unfold failPreserved
  refine (ends_transact hfail).seq ((ends_getStore _).seq ?_)
  simp only [World.withStore_store, hrow]
  exact Prog.ends_pure _ _

/-- A running row fails. -/
theorem finishInvocationFailure_eq {st : Store} {id : ℕ} {error : ProviderError} {r : Invocation}
    (hrow : st.getInvocation id = some r) (hrun : r.state = .running)
    (hstorable : Json.storableFields rt error.toDict = true) (hbinds : error.Binds) :
    st.finishInvocationFailure rt id error =
      .ok (st.updateInvocation id (Store.setState (.failed error))) := by
  unfold Store.finishInvocationFailure
  rw [Dict.store_ok hstorable]
  simp only [bind, Except.bind, hrow, hrun, Store.forM_bindInteger_ok_iff.2 hbinds]
  rfl

/-- A failed row is called again. -/
theorem startInvocation_again {st : Store} {stage : Stage} {provider model lineage prompt : Str}
    {r : Invocation} {e : ProviderError} (hrow : st.slot stage provider = some r)
    (hstate : r.state = .failed e)
    (hsame : r.model = model ∧ r.lineage = lineage ∧ r.promptSha256 = rt.sha256 prompt)
    (hprovider : Store.requiredText (lit "provider") provider = .ok ())
    (hmodel : Store.requiredText (lit "model") model = .ok ())
    (hlineage : Store.requiredText (lit "lineage") lineage = .ok ())
    (hblank : Str.isBlank prompt = false) (hencodable : Str.encodable prompt = true) :
    st.startInvocation rt stage provider model lineage prompt =
      .ok (r.id, (st.updateInvocation r.id Store.restart).withEvents
        (st.events ++ [Store.retryAudit r e])) := by
  have hprompt : Store.requiredText (lit "prompt") prompt = .ok () := by
    unfold Store.requiredText
    rw [hblank]
    rfl
  obtain ⟨hstage, hname⟩ := Store.slot_fields hrow
  unfold Store.startInvocation
  simp only [bind, Except.bind, hprovider, hmodel, hlineage, hprompt, hencodable, hrow, hstate,
    hsame.1, hsame.2.1, hsame.2.2, ne_eq, not_true_eq_false, or_self, Bool.true_eq_false, if_false]
  subst hstage hname
  rfl

/-- An admitted call is made before the deadline. -/
theorem ends_dispatchTask {deadline : ℤ} {call : Call} {id attempt : ℕ} {lease : Bool}
    (hnow : (w.now : ℤ) < deadline) :
    Prog.Ends (dispatchTask deadline call id attempt lease) w (.calling id attempt lease)
      (w.record (.generate call w.store)) := by
  have hclock : ¬ deadline - ((w.now : ℤ) + ((0 : ℕ) : ℤ)) ≤ 0 := by omega
  unfold dispatchTask
  refine (ends_monotonic w 0).seq ?_
  rw [if_neg hclock]
  exact (ends_emit _ _).seq (Prog.ends_pure _ _)

/-! ### The example -/

/-- The limiting stages of a plan are stages. -/
theorem limitingStages_names {draws : Workload.PlanDraws} {question : Str} {n : ℕ}
    {policy : RunPolicy} {current : Workload.StageChars} {capacity : Workload.PlainCapacity}
    (h : Workload.plainQuestionCapacity rt draws question n policy current = .ok capacity) :
    ∀ name ∈ capacity.limitingStages, ∃ stage : Stage, name = stage.name := by
  unfold Workload.plainQuestionCapacity at h
  simp only [bind, Except.bind] at h
  split at h
  · cases h
  split at h
  · cases h
  split at h
  · cases h
  split at h
  · cases h
    intro name hname
    cases hname
  · cases h
    intro name hname
    unfold Str.sorted at hname
    rw [List.mem_insertionSort, List.mem_map] at hname
    obtain ⟨c, -, rfl⟩ := hname
    exact ⟨_, rfl⟩

/-- The name of a stage is ASCII. -/
theorem encodable_stageName (stage : Stage) : Str.encodable stage.name = true := by
  cases stage <;> exact encodable_lit _

/-- The name of a stage may be a key of a record. -/
theorem plainKey_stageName (stage : Stage) : Json.plainKey exampleRuntime stage.name = true := by
  cases stage <;> decide

/-- A capacity is not negative, and at most the length a question may have. -/
theorem plainCapacity_le {draws : Workload.PlanDraws} {question : Str} {n : ℕ}
    {policy : RunPolicy} {current : Workload.StageChars} {capacity : Workload.PlainCapacity}
    (hpolicy : 0 ≤ policy.maxQuestionChars)
    (h : Workload.plainQuestionCapacity rt draws question n policy current = .ok capacity) :
    (∀ m ∈ capacity.effectiveMaximum, 0 ≤ m ∧ m ≤ policy.maxQuestionChars) ∧
      ∀ m ∈ capacity.headroom, 0 ≤ m ∧ m ≤ policy.maxQuestionChars := by
  have hmin : ∀ (l : List ℤ) (a : ℤ), 0 ≤ a → (∀ m ∈ l, 0 ≤ m) →
      0 ≤ l.foldl min a ∧ l.foldl min a ≤ a := by
    intro l
    induction l with
    | nil => exact fun a ha _ => ⟨ha, le_rfl⟩
    | cons m l ih =>
      intro a ha hl
      obtain ⟨hm, hl⟩ := List.forall_mem_cons.1 hl
      obtain ⟨hlow, hhigh⟩ := ih (min a m) (le_min ha hm) hl
      exact ⟨hlow, hhigh.trans (min_le_left a m)⟩
  have hstage : ∀ {maxChars plainOne amount m : ℤ},
      Workload.stageCapacity maxChars plainOne amount = some m → 0 ≤ m := by
    intro maxChars plainOne amount m hm
    unfold Workload.stageCapacity at hm
    repeat' split at hm
    all_goals cases hm
    · exact le_rfl
    · exact le_max_left _ _
  unfold Workload.plainQuestionCapacity at h
  simp only [bind, Except.bind] at h
  split at h
  · cases h
  split at h
  · cases h
  split at h
  · cases h
  split at h
  · cases h
    exact ⟨by rintro m ⟨⟩, by rintro m ⟨⟩⟩
  · rename_i growth hgrowth
    cases h
    refine ⟨?_, ?_⟩
    · rintro m ⟨⟩
      refine hmin _ _ hpolicy fun m hm => ?_
      obtain ⟨c, hc, hsome⟩ := List.mem_filterMap.1 hm
      obtain ⟨r, -, rfl⟩ := List.mem_map.1 hc
      exact hstage hsome
    · rintro m ⟨⟩
      refine ⟨le_max_left _ _, max_le hpolicy ?_⟩
      have hfold : ∀ (l : List ((Stage × ℤ) × Stage × ℕ)) (a : ℤ), a ≤ policy.maxQuestionChars →
          l.foldl (fun h r =>
            if policy.maxStagePromptChars < r.2.2 then 0
            else if r.1.2 ≠ 0 then min h ((policy.maxStagePromptChars - r.2.2) / r.1.2)
            else h) a ≤ policy.maxQuestionChars := by
        intro l
        induction l with
        | nil => exact fun a ha => ha
        | cons r l ih =>
          intro a ha
          refine ih _ ?_
          dsimp only
          split
          · exact hpolicy
          split
          · exact (min_le_left _ _).trans ha
          · exact ha
      exact hfold _ _ (max_le hpolicy (by omega))

/-- The numbers of a plan for a few members and a policy of a few digits are printed. -/
structure SmallPlan (names chain : List Str) (policy : RunPolicy) : Prop where
  names : names.length < 1000000
  chain : chain.length < 1000000
  question : 0 ≤ policy.maxQuestionChars ∧ policy.maxQuestionChars < 1000000
  prompts : 0 ≤ policy.maxStagePromptChars ∧ policy.maxStagePromptChars < 1000000
  calls : 0 ≤ policy.maxCalls ∧ policy.maxCalls < 1000000

/-- A number of a few digits is printed. -/
theorem dumpable_small {n : ℤ} (h : n.natAbs < 10000000) : Json.dumpable (.int n) = true := by
  have hle : 10000000 ≤ Json.intLimit := by decide
  exact decide_eq_true (h.trans_le hle)

/-- A small number can be printed. -/
theorem storable_small {n : ℤ} (h : n.natAbs < 10000000) : Json.storable rt (.int n) = true :=
  dumpable_small h

/-- The longest prompts of a run's stages are a part of its result. -/
theorem storable_actualStagePromptChars {st : Store}
    (h : ∀ r ∈ st.invocations, r.promptText.length < 10000000) :
    Json.storableFields exampleRuntime (actualStagePromptChars st) = true := by
  have hbounded : (∀ f ∈ actualStagePromptChars st, ∀ n, f.2 = .int n → n.natAbs < 10000000) ∧
      Json.storableFields exampleRuntime (actualStagePromptChars st) = true := by
    unfold actualStagePromptChars
    refine List.foldlRecOn (motive := fun chars : Dict =>
      (∀ f ∈ chars, ∀ n, f.2 = .int n → n.natAbs < 10000000) ∧
        Json.storableFields exampleRuntime chars = true) _ _
      ⟨List.forall_mem_nil _, rfl⟩ ?_
    rintro chars ⟨hsmall, hchars⟩ r hr
    have hset : ∀ prior : ℤ, prior.natAbs < 10000000 →
        (∀ f ∈ Dict.set chars r.stage.name (.int (max r.promptText.length prior)), ∀ n,
          f.2 = .int n → n.natAbs < 10000000) ∧
        Json.storableFields exampleRuntime (Dict.set chars r.stage.name
          (.int (max r.promptText.length prior))) = true := by
      intro prior hprior
      have hlength := h r hr
      have hmax : (max (r.promptText.length : ℤ) prior).natAbs < 10000000 := by omega
      refine ⟨fun f hf n hn => ?_,
        Dict.storable_set (plainKey_stageName _) (storable_small hmax) hchars⟩
      rcases Dict.mem_set hf with hf | rfl
      · exact hsmall f hf n hn
      · cases hn
        exact hmax
    dsimp only
    split
    · rename_i n hn
      exact hset n (hsmall _ (Dict.mem_of_get? hn) n rfl)
    · exact hset 0 (by decide)
  exact hbounded.2

/-- The plan of a run can be stored. -/
theorem storable_plan {draws : Workload.PlanDraws} {question : Str} {names chain : List Str}
    {policy : RunPolicy} {plan : Workload.Plan}
    (h : Workload.estimateWorkload exampleRuntime draws question names policy chain = .ok plan)
    (hlimits : Workload.requireWorkloadWithinLimits plan = .ok ())
    (hnames : names.all Str.encodable = true) (hchain : chain.all Str.encodable = true)
    (hsmall : SmallPlan names chain policy) :
    Json.storableFields exampleRuntime plan.toDict = true := by
  have hwithin : plan.questionLimitExceeded = false ∧ plan.promptLimitExceededStages = [] := by
    unfold Workload.requireWorkloadWithinLimits at hlimits
    split at hlimits
    · cases hlimits
    split at hlimits
    · cases hlimits
    rename_i hquestion
    split at hlimits
    · exact ⟨by simpa using hquestion, ‹_›⟩
    · cases hlimits
  unfold Workload.estimateWorkload at h
  simp only [bind, Except.bind] at h
  split at h
  · cases h
  rename_i chars hchars
  split at h
  · cases h
  rename_i capacity hcapacity
  have hlimiting : capacity.limitingStages.all Str.encodable = true := by
    rw [List.all_eq_true]
    intro name hname
    obtain ⟨stage, rfl⟩ := limitingStages_names hcapacity name hname
    exact encodable_stageName stage
  have hstages : ∀ stages : List Stage,
      (Str.sorted (stages.map Stage.name)).all Str.encodable = true := by
    intro stages
    rw [List.all_eq_true]
    intro name hname
    unfold Str.sorted at hname
    rw [List.mem_insertionSort, List.mem_map] at hname
    obtain ⟨stage, -, rfl⟩ := hname
    exact encodable_stageName stage
  have hchars : ∀ l : List (Stage × ℕ), (∀ c ∈ l, c.2 < 10000000) →
      Json.storableFields exampleRuntime (l.map fun c => (c.1.name, Json.int c.2)) = true := by
    intro l
    induction l with
    | nil => exact fun _ => rfl
    | cons c l ih =>
      intro hl
      obtain ⟨hc, hl⟩ := List.forall_mem_cons.1 hl
      rw [List.map_cons, Json.storableFields, ih hl, plainKey_stageName,
        storable_small (by simpa using hc)]
      rfl
  have hhead : Json.storable exampleRuntime (optStr chain.head?) = true := by
    cases chain with
    | nil => rfl
    | cons name rest =>
      rw [List.all_cons, Bool.and_eq_true] at hchain
      exact hchain.1
  have hint : ∀ n : Option ℤ, (∀ m ∈ n, 0 ≤ m ∧ m ≤ policy.maxQuestionChars) →
      Json.storable exampleRuntime (optInt n) = true := by
    rintro (_ | n) hn
    · rfl
    · obtain ⟨hlow, hhigh⟩ := hn n rfl
      have hquestion := hsmall.question
      exact storable_small (by omega)
  obtain ⟨heffective, hheadroom⟩ := plainCapacity_le hsmall.question.1 hcapacity
  obtain ⟨hn, hc, hquestion, hprompts, hcalls⟩ := hsmall
  cases h
  obtain ⟨hlength, hexceeded⟩ := hwithin
  have hlength : (question.length : ℤ) ≤ policy.maxQuestionChars := by simpa using hlength
  have hfit : ∀ c ∈ chars.toList, c.2 < 10000000 := by
    intro c hc
    have hnone := List.filter_eq_nil_iff.1 (List.map_eq_nil_iff.1 hexceeded) c hc
    have hle : (c.2 : ℤ) ≤ policy.maxStagePromptChars := by simpa using hnone
    omega
  have hnumbers : ∀ n ∈ [(question.length : ℤ), names.length,
      names.length * 2 + chain.length,
      max 0 (policy.maxCalls - names.length * 2 - chain.length), policy.maxQuestionChars,
      policy.maxStagePromptChars], Json.storable exampleRuntime (.int n) = true := by
    simp only [List.forall_mem_cons]
    exact ⟨storable_small (by omega), storable_small (by omega), storable_small (by omega),
      storable_small (by omega), storable_small (by omega), storable_small (by omega),
      List.forall_mem_nil _⟩
  simp only [List.forall_mem_cons] at hnumbers
  obtain ⟨h₁, h₂, h₃, h₄, h₅, h₆, -⟩ := hnumbers
  simp only [Json.storable] at h₁ h₂ h₃ h₄ h₅ h₆
  simp only [Workload.Plan.toDict, Json.storableFields, Json.storable, Json.storableItems_map_str,
    hnames, hchain, hlimiting, hstages, hchars _ hfit, hhead, hint _ heffective,
    hint _ hheadroom, h₁, h₂, h₃, h₄, h₅, h₆, Bool.and_true]
  decide

/-- The plan of the example is small enough for all its numbers to be printed and bound. -/
theorem exampleEngine_small : SmallPlan [lit "solo"] [lit "solo"] exampleEngine.policy where
  names := by decide
  chain := by decide
  question := by decide
  prompts := ⟨exampleMaxChars_nonneg, exampleMaxChars_lt.trans (by decide)⟩
  calls := by decide

/-- The engine of the example, with a gate or without. -/
def exampleResumer (hasGate : Bool) : CouncilEngine := { exampleEngine with hasGate := hasGate }

/-- The first resume of the example opens its stages. -/
theorem soloRun_opening (tokens : ℤ) (other : Option ℤ) (hasGate : Bool) : ∃ plan events,
    Opening exampleRuntime (soloEngine tokens other hasGate) (soloSpec tokens other) nines
      plan events := by
  obtain ⟨-, -, plan, hplan, hlimits⟩ := createRun_ok (soloRun_created tokens other)
  have hstrip : Str.strip (lit "Why?") = lit "Why?" := by decide
  rw [hstrip] at hplan
  have hencodable : [lit "solo"].all Str.encodable = true := by decide
  have hstorable := storable_plan hplan hlimits hencodable hencodable exampleEngine_small
  have hmarker : Dict.store exampleRuntime (lit "$.event") [(lit "marker", .str nines.text)] =
      .ok _ := Dict.store_ok (by decide) _
  have hstarted : Dict.store exampleRuntime (lit "$.event")
      [(lit "protocol", .str (protocolId ++ lit "@" ++ protocolVersion))] = .ok _ :=
    Dict.store_ok (by decide) _
  have hpreflight := Dict.store_ok hstorable (lit "$.event")
  exact ⟨plan, _, ⟨rfl, rfl⟩, ⟨_, hplan⟩, hlimits, _, _, _, hmarker, hstarted, hpreflight, rfl⟩

/-- The resume of the example opens its run, with the marker of nines. -/
theorem exampleRun_opening (hasGate : Bool) : ∃ plan events,
    Opening exampleRuntime (exampleResumer hasGate) exampleSpec nines plan events :=
  soloRun_opening 1800 none hasGate

/-- The proposal prompts of the example, and what is needed of them. -/
structure ExamplePrompts (prompts : PromptPair) : Prop where
  built : proposalPrompts exampleSpec.question nines.text = .ok prompts
  fit : fitsLimit exampleEngine.policy prompts = true
  encodable : Str.encodable (combinedPrompt prompts) = true

/-- The prompts of the example can be made. -/
theorem exists_examplePrompts : ∃ prompts, ExamplePrompts prompts := by
  have hmarker : checkedMarker nines.text (payload (.obj [(lit "question",
      .str exampleSpec.question)])) = .ok nines.text :=
    checkedMarker_payload unshown_one.punctuation (by decide) (by decide)
  have hcheck : checkQuestion exampleSpec.question = .ok () := by decide
  have hbuilt : ∃ prompts, proposalPrompts exampleSpec.question nines.text = .ok prompts := by
    unfold proposalPrompts
    simp only [bind, Except.bind, hcheck, hmarker]
    exact ⟨_, rfl⟩
  obtain ⟨prompts, hbuilt⟩ := hbuilt
  refine ⟨prompts, hbuilt, decide_eq_true ?_, ?_⟩
  · have hchars := chars_proposalPrompts hbuilt
    have hwidth : Json.width 0 (.obj [(lit "question", .str exampleSpec.question)]) ≤ 100 := by
      decide +kernel
    have hlength : nines.text.length = 16 := nines.length_text
    show (combinedPromptChars prompts : ℤ) ≤ exampleMaxChars
    unfold exampleMaxChars
    generalize combinedPromptChars (proposalSystemTemplate, proposalUser [] []) = a at *
    generalize combinedPromptChars (jurySystemTemplate, juryUser [] [] []) = b at *
    generalize combinedPromptChars (synthesisSystemTemplate, synthesisUser [] []) = d at *
    generalize combinedPromptChars prompts = e at *
    omega
  · have hpayload : Str.encodable (payload (.obj [(lit "question", .str exampleSpec.question)])) =
        true := by decide
    have htext : Str.encodable nines.text = true := by decide
    rw [proposalPrompts_ok hbuilt]
    unfold combinedPrompt proposalUser proposalSystemTemplate
    simp only [encodable_append, encodable_lit, hpayload, htext, Bool.and_self]

section Example
variable {prompts : PromptPair} (hprompts : ExamplePrompts prompts)

/-- The call of the example. -/
def exampleCall (prompts : PromptPair) (outputLimit : ℤ) : Call where
  stage := .proposal
  providerStage := .proposal
  provider := lit "solo"
  prompts := prompts
  outputLimit := outputLimit

/-- The row of the call. -/
def exampleRow (prompt : Str) : Invocation where
  id := 0
  stage := .proposal
  provider := lit "solo"
  model := lit "m"
  lineage := lit "l"
  promptText := prompt
  promptSha256 := prompt
  state := .running
  callCount := 1

/-- A first call of the example can be started. -/
theorem exampleCall_starts {st : Store} {prompt : Str} (hrows : st.invocations = [])
    (hid : st.nextId = 0) (hblank : Str.isBlank prompt = false)
    (hencodable : Str.encodable prompt = true) :
    st.startInvocation exampleRuntime .proposal (lit "solo") (lit "m") (lit "l") prompt =
      .ok (0, st.insertRow (exampleRow prompt)) := by
  have hslot : st.slot .proposal (lit "solo") = none := by
    unfold Store.slot Rows.find
    rw [hrows]
    rfl
  have hprovider : Store.requiredText (lit "provider") (lit "solo") = .ok () := by decide
  have hmodel : Store.requiredText (lit "model") (lit "m") = .ok () := by decide
  have hlineage : Store.requiredText (lit "lineage") (lit "l") = .ok () := by decide
  have hprompt : Store.requiredText (lit "prompt") prompt = .ok () := by
    unfold Store.requiredText
    rw [hblank]
    rfl
  unfold Store.startInvocation
  simp only [bind, Except.bind, hprovider, hmodel, hlineage, hprompt, hencodable, hslot,
    Bool.true_eq_false, if_false]
  unfold Store.insertRow
  rw [hid]
  rfl

/-- The stage of the example. -/
def exampleArgs (prompts : PromptPair) : StageArgs :=
  proposalArgs exampleEngine.policy.deadlineSeconds prompts exampleEngine.names

/-- The example when its stage begins. -/
def exampleWorld (prompts : PromptPair) (events : List Event) : World where
  store := .opened exampleSpec events
  trace := [.enter .proposal [(lit "solo", prompts)] (.opened exampleSpec events)]

include hprompts in
/-- What the first stage of the example passes through is reachable. -/
theorem soloRun_stage {tokens : ℤ} {other : Option ℤ} {hasGate : Bool} {plan : Workload.Plan}
    {events : List Event}
    (h : Opening exampleRuntime (soloEngine tokens other hasGate) (soloSpec tokens other) nines
      plan events)
    (hstage : Prog.Passes (runParallelStage exampleRuntime (soloEngine tokens other hasGate)
      (exampleArgs prompts)) { store := .opened (soloSpec tokens other) events } w) :
    ∃ p, Reachable exampleRuntime (soloSpec tokens other) (.active p w) := by
  have hresume : Prog.Passes (resume exampleRuntime (soloEngine tokens other hasGate))
      { store := { run := { spec := soloSpec tokens other } } } w := by
    refine passes_resume h ?_
    unfold runStages proposalPhase
    refine Prog.Passes.left ?_ _
    refine (Prog.ends_ofExcept hprompts.built _).seq_passes ?_
    exact hstage.left _
  have hstart : Resumes exampleRuntime (resume exampleRuntime (soloEngine tokens other hasGate)) :=
    ⟨soloEngine tokens other hasGate, rfl⟩
  obtain ⟨p, hreach⟩ := hresume.reach hstart
  exact ⟨p, ⟨soloEngine tokens other false, ninesDraws, lit "Why?", _,
    soloRun_created tokens other, rfl, hreach⟩⟩

include hprompts in
/-- The first pass of the example makes its call. -/
theorem soloRun_firstPass (tokens : ℤ) (other : Option ℤ) (hasGate : Bool) (events : List Event) :
    Prog.Leads (runStagePass exampleRuntime (soloEngine tokens other hasGate) (exampleArgs prompts))
      { store := .opened (soloSpec tokens other) events }
      (runPool exampleRuntime (soloEngine tokens other hasGate) (exampleArgs prompts)
        (.opened (soloSpec tokens other) events) 1 6
        { tasks := [(⟨exampleCall prompts tokens, none⟩, .queued)] } >>= poolResult >>= fun r =>
          pure (((StageResult.append {} {}).append {}).append r.1, r.2))
      { store := .opened (soloSpec tokens other) events
        trace :=
          [.enter .proposal [(lit "solo", prompts)]
            (.opened (soloSpec tokens other) events)] } := by
  have hnow : ((0 : ℕ) : ℤ) < 900 := by omega
  have hparallel : (1 : ℤ) ≤ exampleEngine.policy.maxParallelCalls := by decide
  have hfits : ∀ e ∈ (exampleArgs prompts).prompts,
      fitsLimit (soloEngine tokens other hasGate).policy e.2 = true := by
    intro e he
    have heq : e = (lit "solo", prompts) := List.mem_singleton.1 he
    rw [heq]
    exact hprompts.fit
  cases other <;> exact leads_firstPass rfl rfl (List.cons_ne_nil _ _) rfl hnow hfits hparallel

include hprompts in
/-- What the pool of the example passes through is reachable. -/
theorem exampleRun_pool {hasGate : Bool} {plan : Workload.Plan} {events : List Event}
    (h : Opening exampleRuntime (exampleResumer hasGate) exampleSpec nines plan events)
    (hpool : Prog.Passes (runPool exampleRuntime (exampleResumer hasGate) (exampleArgs prompts)
      (.opened exampleSpec events) 1 6 { tasks := [(⟨exampleCall prompts 1800, none⟩, .queued)] })
      (exampleWorld prompts events) w) :
    ∃ p, Reachable exampleRuntime exampleSpec (.active p w) := by
  have hopening : Opening exampleRuntime (soloEngine 1800 none hasGate) (soloSpec 1800 none) nines
      plan events := h
  refine soloRun_stage hprompts hopening ?_
  unfold runParallelStage
  have hfirst := soloRun_firstPass hprompts 1800 none hasGate events
  exact (hfirst.passes ((hpool.left _).left _)).left _

/-- The example when its call is started. -/
def exampleStarted (prompts : PromptPair) (events : List Event) : World where
  store := (Store.opened exampleSpec events).insertRow (exampleRow (combinedPrompt prompts))
  live := [0]
  trace := [.enter .proposal [(lit "solo", prompts)] (.opened exampleSpec events),
    .attempt (exampleCall prompts 1800) (.opened exampleSpec events),
    .started (exampleCall prompts 1800) (.opened exampleSpec events)]

/-- The example with another output limit, when its call is started. -/
def soloStarted (tokens : ℤ) (other : Option ℤ) (prompts : PromptPair) (events : List Event) :
    World where
  store :=
    (Store.opened (soloSpec tokens other) events).insertRow (exampleRow (combinedPrompt prompts))
  live := [0]
  trace := [.enter .proposal [(lit "solo", prompts)] (.opened (soloSpec tokens other) events),
    .attempt (exampleCall prompts tokens) (.opened (soloSpec tokens other) events),
    .started (exampleCall prompts tokens) (.opened (soloSpec tokens other) events)]

include hprompts in
/-- The one member's call is started and its row written. -/
theorem ends_soloStart (tokens : ℤ) (other : Option ℤ) (hasGate : Bool) (events : List Event) :
    Prog.Ends (startTask exampleRuntime (soloEngine tokens other hasGate).toRunConfig
      (exampleArgs prompts).deadline (exampleCall prompts tokens))
      { store := .opened (soloSpec tokens other) events
        trace :=
          [.enter .proposal [(lit "solo", prompts)] (.opened (soloSpec tokens other) events)] }
      (.started 0 (1 + (Store.opened (soloSpec tokens other) events).notDispatchedCount .proposal
        (lit "solo"))) (soloStarted tokens other prompts events) := by
  have hnow : ((0 : ℕ) : ℤ) < (exampleArgs prompts).deadline := by
    show ((0 : ℕ) : ℤ) < 900
    omega
  have hconfig : (soloEngine tokens other hasGate).toRunConfig.config?
      (exampleCall prompts tokens).provider = some (soloProvider tokens other) := rfl
  have hstart : (Store.opened (soloSpec tokens other) events).startInvocation exampleRuntime
      (exampleCall prompts tokens).stage (exampleCall prompts tokens).provider (lit "m") (lit "l")
      (combinedPrompt (exampleCall prompts tokens).prompts) =
        .ok (0, (Store.opened (soloSpec tokens other) events).insertRow
          (exampleRow (combinedPrompt prompts))) :=
    exampleCall_starts rfl rfl (combinedPrompt_not_blank prompts) hprompts.encodable
  exact ends_startTask (w := { store := .opened (soloSpec tokens other) events, trace := _ }) hnow
    hconfig
    hstart

include hprompts in
/-- The call of the example is started and its row written. -/
theorem ends_exampleStart (events : List Event) :
    Prog.Ends (startTask exampleRuntime exampleEngine.toRunConfig (exampleArgs prompts).deadline
      (exampleCall prompts 1800)) (exampleWorld prompts events)
      (.started 0 (1 + (Store.opened exampleSpec events).notDispatchedCount .proposal
        (lit "solo"))) (exampleStarted prompts events) :=
  ends_soloStart hprompts 1800 none false events

end Example

/-- **A call of the example is started**, and the process may end there. -/
theorem exampleRun_started : ∃ prompts events p,
    Reachable exampleRuntime exampleSpec (.active p (exampleStarted prompts events)) ∧
      Reachable exampleRuntime exampleSpec (.idle (exampleStarted prompts events).lose) := by
  obtain ⟨prompts, hprompts⟩ := exists_examplePrompts
  obtain ⟨plan, events, h⟩ := exampleRun_opening false
  obtain ⟨p, hp⟩ := exampleRun_pool hprompts h (passes_movePool (i := 0) rfl
    ((ends_exampleStart hprompts events).passes.left _))
  refine ⟨prompts, events, p, hp, ?_⟩
  obtain ⟨eng, draws, question, st, hcreate, hspec, hreach⟩ := hp.created
  exact ⟨eng, draws, question, st, hcreate, hspec, hreach.tail (.stop _ _)⟩

end CouncilLogic
