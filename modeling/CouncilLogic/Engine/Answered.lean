/-
# Following answered calls

What `_execute_provider_call` and the completion loop of `_run_parallel_stage` in
`src/model_council/engine.py` come to for a first call that is admitted without a gate,
made before its deadline and answered: `startInvocation` inserts its row, the call is made,
and its answer is recorded, as a success or as a failure.

`leads_answered` is the five moves of one such call in the pool of its stage, whatever the
other tasks of the pool have come to.  The worlds that a stage passes through are not
described anew at each move: `World.answered` is the world after a call, and `Answers` is a
chain of such worlds, one for each call of a stage.  `Answers.ends_runPool` is the pool that
makes these calls one after the other, and `ends_stage` the whole stage, when every provider
is called and nothing is to be asked for again.
-/

import CouncilLogic.Engine.Follow

namespace CouncilLogic

open Protocol

variable {rt : Runtime} {eng : CouncilEngine} {args : StageArgs} {st : Store} {w w' : World}
  {pool pool' : Pool} {maxWorkers fuel i id : ℕ} {task : Task} {call : Call}
  {provider : ProviderConfig} {response : ProviderResponse} {error : ProviderError}

/-! ### A first call -/

/-- The row that `start_invocation` inserts for the first call of a slot: it is running, and
its call count is one. -/
def Call.row (rt : Runtime) (call : Call) (provider : ProviderConfig) (id : ℕ) : Invocation where
  id := id
  stage := call.stage
  provider := call.provider
  model := provider.model
  lineage := provider.lineage
  promptText := combinedPrompt call.prompts
  promptSha256 := rt.sha256 (combinedPrompt call.prompts)
  state := .running
  callCount := 1

/-- The texts of a provider that `start_invocation` requires are not blank. -/
structure ProviderConfig.Named (provider : ProviderConfig) : Prop where
  name : Str.isBlank provider.name = false
  model : Str.isBlank provider.model = false
  lineage : Str.isBlank provider.lineage = false

/-- A slot without a row is started with a new row, whose id is the next one. -/
theorem startInvocation_fresh (hslot : st.slot call.stage call.provider = none)
    (hname : provider.name = call.provider) (hprovider : provider.Named)
    (hencodable : Str.encodable (combinedPrompt call.prompts) = true) :
    st.startInvocation rt call.stage call.provider provider.model provider.lineage
        (combinedPrompt call.prompts) =
      .ok (st.nextId, st.insertRow (call.row rt provider st.nextId)) := by
  have hrequired : ∀ {name value : Str}, Str.isBlank value = false →
      Store.requiredText name value = .ok () := by
    intro name value hblank
    unfold Store.requiredText
    rw [hblank]
    rfl
  have hblank : Str.isBlank call.provider = false := hname ▸ hprovider.name
  unfold Store.startInvocation
  simp only [bind, Except.bind, hrequired hblank, hrequired hprovider.model,
    hrequired hprovider.lineage, hrequired (combinedPrompt_not_blank call.prompts), hencodable,
    hslot, Bool.true_eq_false, if_false]
  rfl

/-- The world in which a first call has been started: its row is inserted. -/
def World.begun (rt : Runtime) (w : World) (call : Call) (provider : ProviderConfig) : World :=
  { (w.record (.attempt call w.store)).record (.started call w.store) with
    store := w.store.insertRow (call.row rt provider w.store.nextId)
    live := w.store.nextId :: w.live }

/-- The world in which it has been made: the process is waiting for the answer. -/
def World.called (rt : Runtime) (w : World) (call : Call) (provider : ProviderConfig) : World :=
  (w.begun rt call provider).record (.generate call (w.begun rt call provider).store)

/-- The world in which a first call has been made and its answer has been recorded in this
state. -/
def World.answered (rt : Runtime) (w : World) (call : Call) (provider : ProviderConfig)
    (state : InvocationState) : World :=
  (w.called rt call provider).withStore ((w.called rt call provider).store.updateInvocation
    w.store.nextId (Store.setState state))

/-- Recording the answer of a first call comes to inserting a finished row. -/
theorem World.answered_store (hwf : w.store.WellFormed) (rt : Runtime) (call : Call)
    (provider : ProviderConfig) (state : InvocationState) :
    (w.answered rt call provider state).store =
      w.store.insertRow (Store.setState state (call.row rt provider w.store.nextId)) := by
  have hrows : Rows.change Invocation.id
      (w.store.invocations ++ [call.row rt provider w.store.nextId]) w.store.nextId
        (Store.setState state) =
      w.store.invocations ++ [Store.setState state (call.row rt provider w.store.nextId)] :=
    Rows.change_append (r := call.row rt provider w.store.nextId)
      (fun r hr => (hwf.fresh r hr).ne) _
  show (w.store.insertRow (call.row rt provider w.store.nextId)).updateInvocation _ _ = _
  unfold Store.updateInvocation Store.insertRow
  dsimp only
  rw [hrows]

/-- The row of a call that was made is the running one. -/
theorem World.getInvocation_called (hwf : w.store.WellFormed)
    (hslot : w.store.slot call.stage call.provider = none) :
    (w.called rt call provider).store.getInvocation w.store.nextId =
      some (call.row rt provider w.store.nextId) := by
  have hinserted : (w.store.insertRow (call.row rt provider w.store.nextId)).WellFormed :=
    hwf.insertRow rfl hslot
  exact hinserted.getInvocation_eq_some.2 ⟨List.mem_append_right _ (List.mem_singleton_self _), rfl⟩

/-- The store after an answered first call is well formed. -/
theorem World.answered_wellFormed (hwf : w.store.WellFormed)
    (hslot : w.store.slot call.stage call.provider = none) (state : InvocationState) :
    (w.answered rt call provider state).store.WellFormed := by
  rw [World.answered_store hwf]
  exact hwf.insertRow rfl hslot

/-! ### Recording the answer -/

/-- A running row succeeds with a response that can be written. -/
theorem finishInvocationSuccess_eq {r : Invocation} {value : Dict}
    (hrow : st.getInvocation id = some r) (hrun : r.state = .running)
    (hmetadata : Json.assertNoCredentials rt (lit "$.response.metadata") (.obj response.metadata) =
      .ok ())
    (hvalue : Dict.encode response.toDict = .ok value)
    (hbinds : ∀ n ∈ [response.latencyMs, response.attempts], Store.HoldsInteger n) :
    st.finishInvocationSuccess rt id response = .ok (st.updateInvocation id
      (Store.setState (.succeeded (Store.storedResponse response)))) := by
  unfold Store.finishInvocationSuccess
  simp only [bind, Except.bind, hmetadata, hvalue, hrow, hrun,
    Store.forM_bindInteger_ok_iff.2 hbinds]
  rfl

/-- A response that completed is recorded and reported as a success. -/
theorem ends_settleSuccess {attempt : ℕ} {st' : Store}
    (hstop : completionError (some response) = none)
    (hfinish : w.store.finishInvocationSuccess rt id response = .ok st') :
    Prog.Ends (settleDispatched rt eng.policy args st task
        ⟨some id, false, some response, none, true, some attempt⟩) w (.success response)
      (w.withStore st') := by
  unfold settleDispatched
  refine Prog.Ends.seq (a := (some response, none)) (Prog.ends_pure _ _) ?_
  simp only [hstop]
  exact (ends_transact hfinish).seq (Prog.ends_pure _ _)

/-- A response that did not complete, and is neither asked for again nor kept, is recorded
and reported as a failure. -/
theorem ends_settleFailure {attempt : ℕ} {st' : Store}
    (herror : completionError (some response) = some error)
    (hrecover : mayRecover eng.policy args st task (some response) = false)
    (hkeep : args.preserveIncompleteResponses = false)
    (hfinish : w.store.finishInvocationFailure rt id error = .ok st') :
    Prog.Ends (settleDispatched rt eng.policy args st task
        ⟨some id, false, some response, none, true, some attempt⟩) w (.failure error.toDict)
      (w.withStore st') := by
  unfold settleDispatched
  refine Prog.Ends.seq (a := (some response, none)) (Prog.ends_pure _ _) ?_
  simp only [herror, hrecover, hkeep, Bool.false_eq_true, if_false]
  exact (ends_transact hfinish).seq (Prog.ends_pure _ _)

/-! ### The moves of one call -/

/-- The task can go on until it is settled: no other task holds it back. -/
def Pool.Next (maxWorkers : ℕ) (pool : Pool) (i : ℕ) : Prop :=
  ∀ state : TaskState, state.movesLeft ≠ 0 → (pool.setState i state).canMove maxWorkers i = true

/-- Of two states of a task the later one counts. -/
theorem Pool.setState_setState (pool : Pool) (i : ℕ) (a b : TaskState) :
    (pool.setState i a).setState i b = pool.setState i b := by
  unfold Pool.setState
  simp only [List.modify_modify_eq]
  rfl

/-- A task in the state it is in. -/
theorem Pool.setState_self {state : TaskState} (htask : pool.tasks[i]? = some (task, state)) :
    pool.setState i state = pool := by
  obtain ⟨tasks, result, recoverable, raised⟩ := pool
  have hsame : tasks.modify i (fun t => (t.1, state)) = tasks := by
    refine List.ext_getElem? fun j => ?_
    rw [List.getElem?_modify]
    by_cases hj : i = j
    · subst hj
      have htask : tasks[i]? = some (task, state) := htask
      simp [htask]
    · simp [hj]
  unfold Pool.setState
  simp only [hsame]

/-- The task whose state is set is in that state. -/
theorem Pool.getElem?_setState (htask : pool.tasks[i]? = some (task, .queued))
    (state : TaskState) : (pool.setState i state).tasks[i]? = some (task, state) := by
  unfold Pool.setState
  simp [htask]

/-- What settling makes of a pool does not depend on the state the task was in. -/
theorem Pool.settle_setState (pool : Pool) (i : ℕ) (state : TaskState) (name : Str)
    (settlement : Settlement) :
    (pool.setState i state).settle i name settlement = pool.settle i name settlement := by
  cases settlement <;> simp only [Pool.settle, Pool.setState_setState] <;> rfl

/-- **A first call in its pool.**  The worker starts the invocation, no gate holds it back, it
calls the provider, the provider answers, and the main thread settles the answer: five moves
of the pool, which goes on with the task settled. -/
theorem leads_answered {state : InvocationState} {settlement : Settlement}
    (hgate : eng.hasGate = false) (hnext : pool.Next maxWorkers i)
    (htask : pool.tasks[i]? = some (task, .queued)) (hnow : (w.now : ℤ) < args.deadline)
    (hconfig : eng.toRunConfig.config? task.call.provider = some provider)
    (hprovider : provider.Named)
    (hslot : w.store.slot task.call.stage task.call.provider = none)
    (hencodable : Str.encodable (combinedPrompt task.call.prompts) = true)
    (hsettle : ∀ attempt, Prog.Ends (settleDispatched rt eng.policy args st task
        ⟨some w.store.nextId, false, some response, none, true, some attempt⟩)
      (w.called rt task.call provider) settlement
      (w.answered rt task.call provider state)) :
    Prog.Leads (runPool rt eng args st maxWorkers (fuel + 5) pool) w
      (runPool rt eng args st maxWorkers fuel (pool.settle i task.call.provider settlement))
      (w.answered rt task.call provider state) := by
  have hname : provider.name = task.call.provider := by simpa using List.find?_some hconfig
  obtain ⟨attempt, hstart⟩ : ∃ attempt, Prog.Ends
      (startTask rt eng.toRunConfig args.deadline task.call) w (.started w.store.nextId attempt)
      (w.begun rt task.call provider) :=
    ⟨_, ends_startTask hnow hconfig (startInvocation_fresh hslot hname hprovider hencodable)⟩
  have hreserve := ends_reserveTask task.call w.store.nextId attempt (w.begun rt task.call provider)
  have hdispatch : Prog.Ends (dispatchTask args.deadline task.call w.store.nextId attempt false)
      (w.begun rt task.call provider) (.calling w.store.nextId attempt false)
      (w.called rt task.call provider) := ends_dispatchTask hnow
  have hreturn := ends_returnTask task.call w.store.nextId attempt false response
    (w.called rt task.call provider)
  have hmove : ∀ {state state' : TaskState} {p : M TaskState} {fuel : ℕ} {w w' : World},
      state.movesLeft ≠ 0 →
      movePool rt eng args st (pool.setState i state) i =
        (p >>= fun state' => pure ((pool.setState i state).setState i state')) →
      Prog.Ends p w state' w' →
      Prog.Leads (runPool rt eng args st maxWorkers (fuel + 1) (pool.setState i state)) w
        (runPool rt eng args st maxWorkers fuel (pool.setState i state')) w' := by
    intro state state' p fuel w w' hleft hp hends
    refine leads_runPool (hnext state hleft) ?_
    rw [hp]
    refine hends.seq ?_
    rw [Pool.setState_setState]
    exact Prog.ends_pure _ _
  -- a worker's moves, and then the main thread's
  have hget : ∀ state, (pool.setState i state).tasks[i]? = some (task, state) :=
    Pool.getElem?_setState htask
  rw [← Pool.setState_self htask]
  refine Relation.ReflTransGen.trans (hmove ?_ ?_ hstart) ?_
  · exact Nat.succ_ne_zero _
  · simp only [movePool, hget]
  refine Relation.ReflTransGen.trans (hmove ?_ ?_ hreserve) ?_
  · exact Nat.succ_ne_zero _
  · simp only [movePool, hget, hgate]
  refine Relation.ReflTransGen.trans (hmove ?_ ?_ hdispatch) ?_
  · exact Nat.succ_ne_zero _
  · simp only [movePool, hget]
  refine Relation.ReflTransGen.trans (hmove ?_ ?_ hreturn) ?_
  · exact Nat.succ_ne_zero _
  · simp only [movePool, hget]
  refine leads_runPool (hnext _ ?_) ?_
  · exact Nat.succ_ne_zero _
  unfold movePool
  simp only [hget, if_true]
  refine (hsettle attempt).catching.seq ?_
  dsimp only
  rw [Pool.settle_setState, Pool.settle_setState]
  exact Prog.ends_pure _ _

/-! ### A stage -/

/-- Results may be put together either way. -/
theorem StageResult.append_assoc (a b c : StageResult) :
    (a.append b).append c = a.append (b.append c) := by
  simp [StageResult.append]

/-- No further results change nothing. -/
theorem StageResult.append_nil (r : StageResult) : r.append {} = r := by
  obtain ⟨successes, failures, recoveries⟩ := r
  simp [StageResult.append]

/-- A slot without a row is work unless its provider is ambiguous. -/
theorem selectSlot_fresh {policy : RunPolicy} {name : Str} (hslot : st.slot args.stage name = none)
    (hquiet : st.isAmbiguous name = false) : selectSlot policy args st name = .work := by
  unfold selectSlot
  rw [hslot, hquiet]
  rfl

/-- A first call can be started in this world. -/
structure World.Opens (rt : Runtime) (eng : CouncilEngine) (w : World) (call : Call)
    (provider : ProviderConfig) : Prop where
  config : eng.toRunConfig.config? call.provider = some provider
  named : provider.Named
  slot : w.store.slot call.stage call.provider = none
  encodable : Str.encodable (combinedPrompt call.prompts) = true

/-- Nothing is left to do for the task. -/
def Settlement.isFinal : Settlement → Bool
  | .success _ | .failure _ => true
  | .preserved .. => false

/-- What a settled task adds to the result of its stage. -/
def Settlement.result (name : Str) : Settlement → StageResult
  | .success response => ⟨[(name, response)], [], []⟩
  | .failure error => ⟨[], [(name, error)], []⟩
  | .preserved .. => {}

/-- A final settlement settles its task and adds its result. -/
theorem Pool.settle_final {settlement : Settlement} (hfinal : settlement.isFinal = true)
    (pool : Pool) (i : ℕ) (name : Str) : pool.settle i name settlement =
      { pool.setState i .settled with
        result := pool.result.append (settlement.result name) } := by
  cases settlement with
  | success response => rfl
  | failure error => rfl
  | preserved => cases hfinal

/-- The calls of a stage are made one after the other: each is answered in the world that
the calls before it have left, and this is what they come to. -/
inductive Answers (rt : Runtime) (eng : CouncilEngine) (args : StageArgs) (st : Store) :
    World → List Task → StageResult → World → Prop
  | done (w : World) : Answers rt eng args st w [] {} w
  | call {w w' : World} {task : Task} {provider : ProviderConfig} {state : InvocationState}
      {answer : ProviderResponse} {settlement : Settlement} {tasks : List Task}
      {result : StageResult} (hopens : w.Opens rt eng task.call provider)
      (hfinal : settlement.isFinal = true)
      (hsettle : ∀ attempt, Prog.Ends (settleDispatched rt eng.policy args st task
          ⟨some w.store.nextId, false, some answer, none, true, some attempt⟩)
        (w.called rt task.call provider) settlement (w.answered rt task.call provider state))
      (hrest : Answers rt eng args st (w.answered rt task.call provider state) tasks result w') :
      Answers rt eng args st w (task :: tasks)
        ((settlement.result task.call.provider).append result) w'

/-- **A call is answered** with a response that completed and can be written. -/
theorem Answers.complete {task : Task} {tasks : List Task} {result : StageResult}
    (hwf : w.store.WellFormed) (hopens : w.Opens rt eng task.call provider)
    (hstop : completionError (some response) = none)
    (hmetadata : Json.assertNoCredentials rt (lit "$.response.metadata") (.obj response.metadata) =
      .ok ())
    (hstorable : Json.storableFields rt response.toDict = true)
    (hbinds : ∀ n ∈ [response.latencyMs, response.attempts], Store.HoldsInteger n)
    (hrest : Answers rt eng args st
      (w.answered rt task.call provider (.succeeded (Store.storedResponse response))) tasks result
      w') :
    Answers rt eng args st w (task :: tasks)
      (StageResult.append ⟨[(task.call.provider, response)], [], []⟩ result) w' := by
  have hrow : (w.called rt task.call provider).store.getInvocation w.store.nextId =
      some (task.call.row rt provider w.store.nextId) :=
    World.getInvocation_called hwf hopens.slot
  have hvalue := Dict.encode_of_store (Dict.store_ok hstorable [])
  have hfinal : (Settlement.success response).isFinal = true := rfl
  exact .call hopens hfinal
    (fun _ => ends_settleSuccess hstop
      (finishInvocationSuccess_eq hrow rfl hmetadata hvalue hbinds)) hrest

/-- **A call is answered** with a response that did not complete and is not asked for again. -/
theorem Answers.fail {task : Task} {tasks : List Task} {result : StageResult}
    (hwf : w.store.WellFormed) (hopens : w.Opens rt eng task.call provider)
    (herror : completionError (some response) = some error)
    (hrecover : mayRecover eng.policy args st task (some response) = false)
    (hkeep : args.preserveIncompleteResponses = false)
    (hstorable : Json.storableFields rt error.toDict = true) (hbinds : error.Binds)
    (hrest : Answers rt eng args st (w.answered rt task.call provider (.failed error)) tasks result
      w') :
    Answers rt eng args st w (task :: tasks)
      (StageResult.append ⟨[], [(task.call.provider, error.toDict)], []⟩ result) w' := by
  have hrow : (w.called rt task.call provider).store.getInvocation w.store.nextId =
      some (task.call.row rt provider w.store.nextId) :=
    World.getInvocation_called hwf hopens.slot
  have hfinal : (Settlement.failure error.toDict).isFinal = true := rfl
  exact .call hopens hfinal
    (fun _ => ends_settleFailure herror hrecover hkeep
      (finishInvocationFailure_eq hrow rfl hstorable hbinds)) hrest

/-- A pool whose tasks are all settled makes no more moves. -/
theorem ends_settledPool (hdone : pool.moves maxWorkers = []) (w : World) :
    Prog.Ends (runPool rt eng args st maxWorkers fuel pool) w pool w := by
  cases fuel with
  | zero => exact Prog.ends_pure _ _
  | succ fuel =>
    unfold runPool
    rw [hdone]
    exact Prog.ends_pure _ _

/-- A pool whose first tasks are settled and whose other tasks are queued. -/
def Pool.halfway (done tasks : List Task) (result : StageResult) : Pool where
  tasks := done.map (fun task => (task, .settled)) ++ tasks.map fun task => (task, .queued)
  result := result

/-- A pool whose calls are made in order sets the state of the first task that is left. -/
theorem Pool.setState_halfway (done tasks : List Task) (task : Task) (result : StageResult)
    (state : TaskState) :
    (Pool.halfway done (task :: tasks) result).setState done.length state =
      { tasks := done.map (fun task => (task, .settled)) ++
          (task, state) :: tasks.map fun task => (task, .queued)
        result := result } := by
  have hmodify : ∀ rest : List (Task × TaskState),
      (done.map (fun task => (task, TaskState.settled)) ++ (task, .queued) :: rest).modify
        done.length (fun t => (t.1, state)) =
      done.map (fun task => (task, .settled)) ++ (task, state) :: rest := by
    intro rest
    induction done with
    | nil => rfl
    | cons d done ih => exact congrArg (List.cons _) ih
  unfold Pool.setState Pool.halfway
  rw [List.map_cons, hmodify]

/-- In a pool whose calls are made in order the next task is the first one that is left. -/
theorem Pool.getElem?_halfway (done tasks : List Task) (task : Task) (result : StageResult) :
    (Pool.halfway done (task :: tasks) result).tasks[done.length]? = some (task, .queued) := by
  have hlength : (done.map fun task => (task, TaskState.settled)).length = done.length :=
    List.length_map _
  unfold Pool.halfway
  rw [List.map_cons, List.getElem?_append_right hlength.le, hlength, Nat.sub_self]
  rfl

/-- When the next task is settled, one task less is queued. -/
theorem Pool.settle_halfway (done tasks : List Task) (task : Task) (result : StageResult) :
    (Pool.halfway done (task :: tasks) result).setState done.length .settled =
      Pool.halfway (done ++ [task]) tasks result := by
  rw [Pool.setState_halfway]
  unfold Pool.halfway
  rw [List.map_append, List.append_assoc]
  rfl

/-- The first queued task of such a pool can go on until it is settled. -/
theorem Pool.next_halfway (done tasks : List Task) (task : Task) (result : StageResult)
    (hworkers : 1 ≤ maxWorkers) :
    (Pool.halfway done (task :: tasks) result).Next maxWorkers done.length := by
  intro state hleft
  have hsettled : ∀ {t : Task × TaskState}, t ∈ done.map (fun task => (task, .settled)) →
      t.2 = .settled := by
    intro t ht
    obtain ⟨-, -, rfl⟩ := List.mem_map.1 ht
    rfl
  have hqueued : ∀ {t : Task × TaskState}, t ∈ tasks.map (fun task => (task, .queued)) →
      t.2 = .queued := by
    intro t ht
    obtain ⟨-, -, rfl⟩ := List.mem_map.1 ht
    rfl
  have hlength : (done.map fun task => (task, TaskState.settled)).length = done.length :=
    List.length_map _
  rw [Pool.setState_halfway]
  unfold Pool.canMove
  dsimp only
  rw [List.getElem?_append_right hlength.le, hlength, Nat.sub_self]
  show Pool.mayMove maxWorkers _ done.length state = true
  have hbefore : ∀ t ∈ (done.map (fun task => (task, TaskState.settled)) ++
      (task, state) :: tasks.map fun task => (task, .queued)).take done.length, t.2 = .settled := by
    intro t ht
    rw [List.take_append_of_le_length hlength.ge] at ht
    exact hsettled (List.mem_of_mem_take ht)
  have hothers : ∀ t ∈ done.map (fun task => (task, TaskState.settled)) ++
      (task, state) :: tasks.map (fun task => (task, .queued)),
      t.2 = .settled ∨ t.2 = state ∨ t.2 = .queued := by
    intro t ht
    rcases List.mem_append.1 ht with ht | ht
    · exact .inl (hsettled ht)
    rcases List.mem_cons.1 ht with rfl | ht
    · exact .inr (.inl rfl)
    · exact .inr (.inr (hqueued ht))
  cases state with
  | queued =>
    have hfree : (done.map (fun task => (task, TaskState.settled)) ++
        (task, TaskState.queued) :: tasks.map fun task => (task, TaskState.queued)).countP
          (fun t => t.2.isActive) = 0 := by
      refine List.countP_eq_zero.2 fun t ht => ?_
      rcases hothers t ht with h | h | h <;> rw [h] <;> exact Bool.false_ne_true
    unfold Pool.mayMove
    rw [Bool.and_eq_true, List.all_eq_true]
    refine ⟨fun t ht => ?_, decide_eq_true ?_⟩
    · rw [hbefore t ht]
      rfl
    · rw [hfree]
      exact hworkers
  | started | admitted | calling => rfl
  | finished outcome =>
    unfold Pool.mayMove
    rw [Bool.and_eq_true, Bool.not_eq_true', List.any_eq_false]
    refine ⟨rfl, fun t ht => ?_⟩
    rcases hothers t ht with h | h | h <;> rw [h] <;> exact Bool.false_ne_true
  | preserved => rfl
  | settled => exact absurd rfl hleft

/-- **A pool of first calls** makes them all, in the order in which they were submitted. -/
theorem Answers.ends_runPool {st : Store} {tasks done : List Task} {result acc : StageResult}
    (h : Answers rt eng args st w tasks result w') (hgate : eng.hasGate = false)
    (hworkers : 1 ≤ maxWorkers) (hnow : (w.now : ℤ) < args.deadline)
    (hfuel : 5 * tasks.length ≤ fuel) :
    Prog.Ends (runPool rt eng args st maxWorkers fuel (.halfway done tasks acc)) w
      (.halfway (done ++ tasks) [] (acc.append result)) w' := by
  induction h generalizing done acc fuel with
  | done w =>
    rw [List.append_nil, StageResult.append_nil]
    refine ends_settledPool ?_ w
    refine List.filter_eq_nil_iff.2 fun i _ hmove => ?_
    obtain ⟨t, ht, hmay⟩ := (Option.any_eq_true _ _).1 hmove
    have hmem := List.mem_of_getElem? ht
    simp only [Pool.halfway, List.map_nil, List.append_nil, List.mem_map] at hmem
    obtain ⟨task, -, rfl⟩ := hmem
    cases hmay
  | @call w w' task provider state answer settlement tasks result hopens hfinal hsettle _ ih =>
    rw [List.length_cons] at hfuel
    obtain ⟨fuel, rfl⟩ : ∃ left, fuel = left + 5 := ⟨fuel - 5, by omega⟩
    have hrest : Prog.Ends (runPool rt eng args st maxWorkers fuel (.halfway (done ++ [task]) tasks
        (acc.append (settlement.result task.call.provider))))
        (w.answered rt task.call provider state) (.halfway (done ++ [task] ++ tasks) []
          ((acc.append (settlement.result task.call.provider)).append result)) w' :=
      ih hnow (by omega)
    rw [List.append_assoc, StageResult.append_assoc] at hrest
    refine Prog.Leads.ends (leads_answered hgate (Pool.next_halfway done tasks task acc hworkers)
      (Pool.getElem?_halfway done tasks task acc) hnow hopens.config hopens.named hopens.slot
      hopens.encodable hsettle) ?_
    rw [Pool.settle_final hfinal, Pool.settle_halfway]
    exact hrest

/-- **A stage of first calls.**  Every provider of the stage is called within the budget and
answers, and the stage returns what the answers come to. -/
theorem ends_stage {result : StageResult} (hgate : eng.hasGate = false)
    (hprompts : args.prompts ≠ []) (hnow : (w.now : ℤ) < args.deadline)
    (hwork : ∀ e ∈ args.prompts, selectSlot eng.policy args w.store e.1 = .work)
    (hfits : ∀ e ∈ args.prompts, fitsLimit eng.policy e.2 = true)
    (hcapacity : args.prompts.length ≤ remainingCalls eng.toRunConfig w.store -
      downstreamCallReserve eng.toRunConfig w.store args.stage (args.prompts.map Prod.fst))
    (hparallel : 1 ≤ eng.policy.maxParallelCalls)
    (hanswers : Answers rt eng args w.store (w.record (.enter args.stage args.prompts w.store))
      (tasksOf eng.toRunConfig args w.store args.prompts) result w') :
    Prog.Ends (runParallelStage rt eng args) w result w' := by
  have hlength : (tasksOf eng.toRunConfig args w.store args.prompts).length =
      args.prompts.length := List.length_map _
  have hpositive : 1 ≤ args.prompts.length := List.length_pos_of_ne_nil hprompts
  have hpool : Prog.Ends (runPool rt eng args w.store
      (min eng.policy.maxParallelCalls args.prompts.length).toNat (6 * args.prompts.length)
      (.halfway [] (tasksOf eng.toRunConfig args w.store args.prompts) {}))
      (w.record (.enter args.stage args.prompts w.store))
      (.halfway ([] ++ tasksOf eng.toRunConfig args w.store args.prompts) []
        (StageResult.append {} result)) w' :=
    hanswers.ends_runPool hgate (by omega) hnow (by omega)
  have hresult : Prog.Ends (poolResult (.halfway
      ([] ++ tasksOf eng.toRunConfig args w.store args.prompts) [] (StageResult.append {} result)))
      w' (result, []) w' := Prog.ends_pure _ _
  have hpass : Prog.Ends (runStagePass rt eng args) w (result, []) w' :=
    (leads_runStagePass (ends_selectSlots_work hwork _) hprompts hnow hfits hcapacity
      hparallel).ends ((hpool.seq hresult).seq (Prog.ends_pure _ _))
  have hnone : orderRecoverable eng.toRunConfig [] = [] := by
    unfold orderRecoverable
    exact List.filterMap_eq_nil_iff.2 fun _ _ => rfl
  have hsplit : Prog.Ends (splitRecoverable rt eng.policy args.stage []) w' ({}, []) w' := by
    unfold splitRecoverable
    exact Prog.ends_pure _ _
  unfold runParallelStage
  refine hpass.seq ?_
  dsimp only
  rw [hnone]
  refine hsplit.seq ?_
  dsimp only
  rw [if_pos rfl, StageResult.append_nil]
  exact Prog.ends_pure _ _

end CouncilLogic
