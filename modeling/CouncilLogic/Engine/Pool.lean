/-
# The thread pool of a stage

The admitted calls run in `max_workers` threads while the main thread settles the
finished ones.  Every write of the store is a transaction of its own, so the state
of the pool is how far each task has got, and a move takes one task one step on:
its worker starts the invocation, asks the gate, checks the clock, calls the
provider; the main thread settles the outcome, in two transactions where a
response is preserved first.  `schedule` chooses among the possible moves.

When settling raises, the executor still waits for all its tasks: the workers go
on, nothing is settled any more, and the exception is raised at the end.

The pool is the `ThreadPoolExecutor` of `_run_parallel_stage` in `src/model_council/engine.py`,
and a task is one call of `_execute_provider_call`; the order of the moves is the one thing the
source leaves open, and here it is an answer of the environment.
-/

import CouncilLogic.Engine.Stage

namespace CouncilLogic

open Protocol

/-- `_ProviderCallOutcome`; `response` is `none` for an object that is not a
response. -/
structure Outcome where
  invocationId : Option ℕ
  lease : Bool
  response : Option ProviderResponse
  error : Option ProviderError
  dispatched : Bool
  reservationAttempt : Option ℕ

/-- How far a task has got. -/
inductive TaskState
  | queued
  /-- `start_invocation` has returned. -/
  | started (id attempt : ℕ)
  /-- The gate has answered; `lease` is whether it granted one. -/
  | admitted (id attempt : ℕ) (lease : Bool)
  /-- The provider has been called. -/
  | calling (id attempt : ℕ) (lease : Bool)
  /-- The future is done, with its result or its exception. -/
  | finished (outcome : Except PyErr Outcome)
  /-- The main thread has preserved the response and will fail the invocation. -/
  | preserved (id : ℕ) (response : Option ProviderResponse) (error : ProviderError)
      (recover : Bool)
  | settled

/-- One admitted call, with the record of its slot at the entry of the stage. -/
structure Task where
  call : Call
  prior : Option Invocation

/-- A response that was truncated and may be asked for again. -/
structure Recoverable where
  provider : Str
  prompts : PromptPair
  response : Option ProviderResponse
  outputLimit : ℤ
  callCount : ℕ

/-- The pool: its tasks in the order they were submitted, what has been settled,
and the exception of the main thread. -/
structure Pool where
  tasks : List (Task × TaskState)
  result : StageResult := {}
  recoverable : List Recoverable := []
  raised : Option PyErr := none

/-! ### The worker -/

/-- An outcome without a call. -/
def notDispatched (id : Option ℕ) (lease : Bool) (error : ProviderError) (attempt : Option ℕ) :
    TaskState :=
  .finished (.ok ⟨id, lease, none, some error, false, attempt⟩)

/-- `_execute_provider_call` until the invocation is started. -/
def startTask (rt : Runtime) (config : RunConfig) (deadline : ℤ) (call : Call) : M TaskState := do
  let now ← monotonic
  if deadline ≤ now then pure (notDispatched none false deadlineError none)
  else
    match config.config? call.provider with
    | none => pure (.finished (.error ⟨.keyError, call.provider⟩))
    | some provider => do
      emit fun before => .attempt call before
      let w ← Prog.read
      match w.store.startInvocation rt call.stage call.provider provider.model provider.lineage
          (combinedPrompt call.prompts) with
      | .error e => pure (.finished (.error e))
      | .ok (id, st) => do
        Prog.write { w.record (.started call w.store) with store := st, live := id :: w.live }
        let callCount := ((st.getInvocation id).map Invocation.callCount).getD 1
        pure (.started id (callCount + st.notDispatchedCount call.stage call.provider))

/-- The error of a gate that raised something unexpected. -/
def gateError (typeName : Str) : ProviderError where
  message := lit "Provider dispatch failed safely: " ++ typeName
  category := .unknown

/-- The gate. -/
def reserveTask (hasGate : Bool) (call : Call) (id attempt : ℕ) : M TaskState :=
  if hasGate = false then pure (.admitted id attempt false)
  else do
    emit fun _ => .reserved call attempt
    let answer : GateAnswer ← Prog.query (Question.reserve call attempt)
    match answer with
    | .lease => do
      emit fun _ => .granted call attempt
      pure (.admitted id attempt true)
    | .denied error => pure (notDispatched (some id) false error (some attempt))
    | .raised typeName =>
      pure (notDispatched (some id) false (gateError typeName) (some attempt))

/-- The second look at the clock, and the call. -/
def dispatchTask (deadline : ℤ) (call : Call) (id attempt : ℕ) (lease : Bool) : M TaskState := do
  let now ← monotonic
  if deadline - now ≤ 0 then pure (notDispatched (some id) lease deadlineError (some attempt))
  else do
    emit fun before => .generate call before
    pure (.calling id attempt lease)

/-- The error of a provider that raised something unexpected. -/
def unexpectedError (typeName : Str) : ProviderError where
  message := lit "Unexpected provider failure: " ++ typeName
  category := .unknown
  ambiguous := true

/-- The provider answers. -/
def returnTask (call : Call) (id attempt : ℕ) (lease : Bool) : M TaskState := do
  let answer : ProviderAnswer ← Prog.query (Question.generate call)
  let (response, error) : Option ProviderResponse × Option ProviderError :=
    match answer with
    | .response response => (some response, none)
    | .invalid => (none, none)
    | .error error => (none, some error)
    | .raised typeName => (none, some (unexpectedError typeName))
  pure (.finished (.ok ⟨some id, lease, response, error, true, some attempt⟩))

/-! ### The main thread -/

/-- What settling makes of a task. -/
inductive Settlement
  | success (response : ProviderResponse)
  | failure (error : Dict)
  | preserved (id : ℕ) (response : Option ProviderResponse) (error : ProviderError)
      (recover : Bool)

/-- The error of a lease that could not be reconciled. -/
def reconcileError (typeName : Str) : ProviderError where
  message := lit "Provider call completed but budget reconciliation failed safely: " ++ typeName
  category := .budget
  ambiguous := true

/-- The lease of a call that was not made is released. -/
def releaseLease (call : Call) (o : Outcome) : M Unit :=
  if o.lease then do
    emit fun _ => .released call
    let answer : Option PyErr ← Prog.query (Question.release call)
    match answer with
    | some e => .raise e
    | none => emit fun _ => .settled call
  else pure ()

/-- The slot of a call that was not made is restored, or failed when the refusal is
ambiguous. -/
def restoreSlot (rt : Runtime) (task : Task) (o : Outcome) (error : ProviderError) : M Unit :=
  match o.invocationId, o.reservationAttempt with
  | some id, some attempt =>
    if error.ambiguous then transact fun st => st.finishInvocationFailure rt id error
    else transact fun st => st.releaseUndispatchedInvocation rt id error attempt task.prior
  | some id, none => transact fun st => st.finishInvocationFailure rt id error
  | none, _ => pure ()

/-- An outcome without a call. -/
def settleUndispatched (rt : Runtime) (task : Task) (o : Outcome) : M Settlement := do
  releaseLease task.call o
  match o.error with
  | none => .raise ⟨.assertionError, []⟩
  | some error =>
    restoreSlot rt task o error
    if error.ambiguous then pure (.failure error.toDict)
    else pure (.failure ((priorError task.prior).getD error.toDict))

/-- The lease of a call that was made is reconciled, unless the call is ambiguous. -/
def reconcileOutcome (call : Call) (o : Outcome) :
    M (Option ProviderResponse × Option ProviderError) :=
  if o.lease && !(o.error.any ProviderError.ambiguous) then do
    emit fun _ => .reconciled call
    let answer : Option Str ← Prog.query (Question.reconcile call)
    match answer with
    | some typeName => pure (none, some (reconcileError typeName))
    | none => do
      emit fun _ => .settled call
      pure (o.response, o.error)
  else pure (o.response, o.error)

/-- Whether a truncated response may be asked for again. -/
def mayRecover (policy : RunPolicy) (args : StageArgs) (st : Store) (task : Task)
    (response : Option ProviderResponse) : Bool :=
  response.any (fun r => r.finishReason = some (lit "length")) && args.allowTruncationRecovery &&
    decide (policy.truncationRetries ≠ 0) && !isLengthFailure task.prior &&
    decide (st.truncationRetryCount args.stage task.call.provider < policy.truncationRetries)

/-- Payload of `truncated_response_preserved`. -/
def truncatedPayload (call : Call) (response : ProviderResponse) : Dict :=
  [(lit "stage", .str call.stage.name),
    (lit "provider", .str call.provider),
    (lit "requested_max_output_tokens", .int call.outputLimit),
    (lit "response", .obj response.toDict)]

/-- Payload of `incomplete_response_preserved`. -/
def incompletePayload (call : Call) (response : ProviderResponse) : Dict :=
  [(lit "stage", .str call.stage.name),
    (lit "provider", .str call.provider),
    (lit "response", .obj response.toDict)]

/-- An outcome of a call that was made.  `st` is the store at the entry of the
stage. -/
def settleDispatched (rt : Runtime) (policy : RunPolicy) (args : StageArgs) (st : Store)
    (task : Task) (o : Outcome) : M Settlement := do
  let (response, error) ← reconcileOutcome task.call o
  match o.invocationId with
  | none => .raise ⟨.assertionError, []⟩
  | some id =>
    match error with
    | some error =>
      transact fun st => st.finishInvocationFailure rt id error
      pure (.failure error.toDict)
    | none =>
      match completionError response, response with
      | none, some r =>
        transact fun st => st.finishInvocationSuccess rt id r
        pure (.success r)
      | none, none => .raise ⟨.assertionError, []⟩
      | some error, some r =>
        if mayRecover policy args st task response then
          transact fun st =>
            st.appendEvent rt .truncatedResponsePreserved (truncatedPayload task.call r)
          pure (.preserved id response error true)
        else if args.preserveIncompleteResponses then
          transact fun st =>
            st.appendEvent rt .incompleteResponsePreserved (incompletePayload task.call r)
          pure (.preserved id response error false)
        else
          transact fun st => st.finishInvocationFailure rt id error
          pure (.failure error.toDict)
      | some error, none =>
        transact fun st => st.finishInvocationFailure rt id error
        pure (.failure error.toDict)

/-- The second transaction, after a response was preserved. -/
def failPreserved (rt : Runtime) (task : Task) (id : ℕ) (response : Option ProviderResponse)
    (error : ProviderError) : M Recoverable := do
  transact fun st => st.finishInvocationFailure rt id error
  let st ← getStore
  match st.getInvocation id with
  | none => .raise (.runtimeError (lit "Truncated invocation disappeared"))
  | some r =>
    pure ⟨task.call.provider, task.call.prompts, response, task.call.outputLimit, r.callCount⟩

/-! ### Moves -/

/-- A worker is on the task. -/
def TaskState.isActive : TaskState → Bool
  | .started .. | .admitted .. | .calling .. => true
  | .queued | .finished _ | .preserved .. | .settled => false

def TaskState.isQueued : TaskState → Bool
  | .queued => true
  | .started .. | .admitted .. | .calling .. | .finished _ | .preserved .. | .settled => false

def TaskState.isPreserved : TaskState → Bool
  | .preserved .. => true
  | .queued | .started .. | .admitted .. | .calling .. | .finished _ | .settled => false

/-- The `i`-th task can move: a queued task when it is the first one and a worker
is free, a finished one when the main thread is not busy with another. -/
def Pool.mayMove (maxWorkers : ℕ) (pool : Pool) (i : ℕ) : TaskState → Bool
  | .settled => false
  | .queued =>
    (pool.tasks.take i).all (fun t => !t.2.isQueued) &&
      decide (pool.tasks.countP (fun t => t.2.isActive) < maxWorkers)
  | .started .. | .admitted .. | .calling .. => true
  | .finished _ => pool.raised.isNone && !pool.tasks.any fun t => t.2.isPreserved
  | .preserved .. => pool.raised.isNone

/-- There is an `i`-th task and it can move. -/
def Pool.canMove (maxWorkers : ℕ) (pool : Pool) (i : ℕ) : Bool :=
  (pool.tasks[i]?).any fun t => pool.mayMove maxWorkers i t.2

/-- The possible moves. -/
def Pool.moves (maxWorkers : ℕ) (pool : Pool) : List ℕ :=
  (List.range pool.tasks.length).filter (pool.canMove maxWorkers)

/-- The pool with the `i`-th task in another state. -/
def Pool.setState (pool : Pool) (i : ℕ) (state : TaskState) : Pool :=
  { pool with tasks := pool.tasks.modify i fun t => (t.1, state) }

/-- The pool after the main thread has settled the `i`-th task. -/
def Pool.settle (pool : Pool) (i : ℕ) (name : Str) : Settlement → Pool
  | .success response =>
    { pool.setState i .settled with
      result := pool.result.append ⟨[(name, response)], [], []⟩ }
  | .failure error =>
    { pool.setState i .settled with result := pool.result.append ⟨[], [(name, error)], []⟩ }
  | .preserved id response error recover =>
    pool.setState i (.preserved id response error recover)

/-- The main thread has raised. -/
def Pool.fail (pool : Pool) (i : ℕ) (e : PyErr) : Pool :=
  { pool.setState i .settled with raised := some e }

/-- One move of the `i`-th task. -/
def movePool (rt : Runtime) (eng : CouncilEngine) (args : StageArgs) (st : Store) (pool : Pool)
    (i : ℕ) : M Pool :=
  match pool.tasks[i]? with
  | none => pure pool
  | some (task, state) =>
    match state with
    | .queued => do
      let state ← startTask rt eng.toRunConfig args.deadline task.call
      pure (pool.setState i state)
    | .started id attempt => do
      let state ← reserveTask eng.hasGate task.call id attempt
      pure (pool.setState i state)
    | .admitted id attempt lease => do
      let state ← dispatchTask args.deadline task.call id attempt lease
      pure (pool.setState i state)
    | .calling id attempt lease => do
      let state ← returnTask task.call id attempt lease
      pure (pool.setState i state)
    | .finished (.error e) => pure (pool.fail i e)
    | .finished (.ok o) => do
      let settlement ←
        (if o.dispatched then settleDispatched rt eng.policy args st task o
          else settleUndispatched rt task o).catching
      match settlement with
      | .ok settlement => pure (pool.settle i task.call.provider settlement)
      | .error e => pure (pool.fail i e)
    | .preserved id response error recover => do
      match ← (failPreserved rt task id response error).catching with
      | .error e => pure (pool.fail i e)
      | .ok recoverable =>
        if recover then
          pure { pool.setState i .settled with
            recoverable := pool.recoverable ++ [recoverable] }
        else pure (pool.settle i task.call.provider (.failure error.toDict))
    | .settled => pure pool

/-- How many moves a task has left at most. -/
def TaskState.movesLeft : TaskState → ℕ
  | .queued => 6
  | .started .. => 5
  | .admitted .. => 4
  | .calling .. => 3
  | .finished _ => 2
  | .preserved .. => 1
  | .settled => 0

/-- Moves until none is possible, at most `fuel` of them. -/
def runPool (rt : Runtime) (eng : CouncilEngine) (args : StageArgs) (st : Store)
    (maxWorkers : ℕ) : ℕ → Pool → M Pool
  | 0, pool => pure pool
  | fuel + 1, pool =>
    match pool.moves maxWorkers with
    | [] => pure pool
    | move :: moves => do
      let k : ℕ ← Prog.query Question.schedule
      let pool ← movePool rt eng args st pool ((move :: moves).getD (k % (moves.length + 1)) move)
      runPool rt eng args st maxWorkers fuel pool

/-- The output limit of a call: a slot that was truncated before gets more. -/
def outputLimitOf (config : RunConfig) (args : StageArgs) (prior : Option Invocation)
    (name : Str) : ℤ :=
  match args.outputOverrides.lookup name with
  | some limit => limit
  | none =>
    let limit := configuredLimit config args name
    if isLengthFailure prior then recoveryLimit config.policy limit else limit

/-- The tasks of the admitted work. -/
def tasksOf (config : RunConfig) (args : StageArgs) (st : Store)
    (allowed : List (Str × PromptPair)) : List Task :=
  allowed.map fun e =>
    let prior := st.slot args.stage e.1
    ⟨⟨args.stage, args.providerStage, e.1, e.2, outputLimitOf config args prior e.1⟩, prior⟩

/-- The executor: all admitted calls, until every one is settled. -/
def executeCalls (rt : Runtime) (eng : CouncilEngine) (args : StageArgs) (st : Store)
    (allowed : List (Str × PromptPair)) : M (StageResult × List Recoverable) := do
  let tasks := tasksOf eng.toRunConfig args st allowed
  let maxWorkers := min eng.policy.maxParallelCalls tasks.length
  if maxWorkers ≤ 0 then
    .raise (.valueError (lit "max_workers must be greater than 0"))
  else
    let pool ← runPool rt eng args st maxWorkers.toNat (6 * tasks.length)
      { tasks := tasks.map fun task => (task, .queued) }
    match pool.raised with
    | some e => .raise e
    | none => pure (pool.result, pool.recoverable)

/-! ### The stage -/

/-- The budget of a stage, and the calls within it; `before` are the results so far. -/
def callWithinBudget (rt : Runtime) (eng : CouncilEngine) (args : StageArgs) (st : Store)
    (before : StageResult) (work : List (Str × PromptPair)) :
    M (StageResult × List Recoverable) := do
  let current ← getStore
  let remaining := remainingCalls eng.toRunConfig current
  let reserve := downstreamCallReserve eng.toRunConfig current args.stage (work.map Prod.fst)
  let capacity := remaining - reserve
  let allowed := work.take capacity
  let denied := (work.drop capacity).map Prod.fst
  let reserved := if reserve = 0 then [] else ((work.take remaining).drop capacity).map Prod.fst
  let refused ← denySlots rt eng.toRunConfig args st reserved denied
  if allowed = [] then return (before.append refused, [])
  let (executed, recoverable) ← executeCalls rt eng args st allowed
  return ((before.append refused).append executed, recoverable)

/-- `_run_parallel_stage` without its second pass: the results, and the truncated
responses that may be asked for again. -/
def runStagePass (rt : Runtime) (eng : CouncilEngine) (args : StageArgs) :
    M (StageResult × List Recoverable) := do
  emit fun before => .enter args.stage args.prompts before
  let st ← getStore
  let (selected, work) ← selectSlots rt eng.policy args st args.prompts
  if work = [] then return (selected, [])
  let now ← monotonic
  if args.deadline ≤ now then return (selected.append (expiredWork args st work), [])
  let (limited, work) ← limitPrompts eng.policy args work
  if work = [] then return (selected.append limited, [])
  callWithinBudget rt eng args st (selected.append limited) work

/-- Payload of `truncation_recovery` when the limit cannot be raised. -/
def unavailableRecovery (stage : Stage) (r : Recoverable) : Dict :=
  [(lit "stage", .str stage.name),
    (lit "provider", .str r.provider),
    (lit "status", .str (lit "not_attempted")),
    (lit "reason", .str (lit "recovery output limit unavailable")),
    (lit "initial_max_output_tokens", .int r.outputLimit)]

/-- Payload of `truncation_recovery` after the second pass. -/
def completedRecovery (stage : Stage) (r : Recoverable) (limit : ℤ)
    (recovered dispatched failureRecorded : Bool) : Dict :=
  [(lit "stage", .str stage.name),
    (lit "provider", .str r.provider),
    (lit "status", .str (if recovered then lit "recovered"
      else if dispatched then lit "failed" else lit "not_dispatched")),
    (lit "initial_finish_reason", .str (lit "length")),
    (lit "initial_max_output_tokens", .int r.outputLimit),
    (lit "recovery_max_output_tokens", .int limit),
    (lit "final_failure_recorded", .bool failureRecorded)] ++
    if dispatched then []
    else [(lit "reason", .str (lit "recovery ended before provider dispatch"))]

/-- The truncated responses whose limit can be raised; the others fail here. -/
def splitRecoverable (rt : Runtime) (policy : RunPolicy) (stage : Stage) :
    List Recoverable → M (StageResult × List (Recoverable × ℤ))
  | [] => pure ({}, [])
  | r :: rest => do
    let limit := recoveryLimit policy r.outputLimit
    if limit ≤ r.outputLimit then
      match completionError r.response with
      | none => .raise ⟨.assertionError, []⟩
      | some error =>
        transact fun st => st.appendEvent rt .truncationRecovery (unavailableRecovery stage r)
        let (result, recoveries) ← splitRecoverable rt policy stage rest
        pure (StageResult.append ⟨[], [(r.provider, error.toDict)], [unavailableRecovery stage r]⟩
          result, recoveries)
    else
      let (result, recoveries) ← splitRecoverable rt policy stage rest
      pure (result, (r, limit) :: recoveries)

/-- `recovery.get("provider")` of a recovery of the stage. -/
def recoveryOf (stage : Stage) (provider : Str) (recovery : Dict) : Bool :=
  decide (recovery.get? (lit "stage") = some (.str stage.name)) &&
    decide (recovery.get? (lit "provider") = some (.str provider))

/-- The audit of the second pass. -/
def recordRecoveries (rt : Runtime) (stage : Stage) (nested : StageResult) :
    List (Recoverable × ℤ) → M (List Dict)
  | [] => pure []
  | (r, limit) :: rest => do
    if nested.recoveries.any (recoveryOf stage r.provider) then
      recordRecoveries rt stage nested rest
    else
      let st ← getStore
      let dispatched :=
        (st.slot stage r.provider).any fun row => decide (r.callCount < row.callCount)
      let recovery := completedRecovery stage r limit
        (nested.successes.any fun s => s.1 = r.provider) dispatched
        (nested.failures.any fun f => f.1 = r.provider)
      transact fun st => st.appendEvent rt .truncationRecovery recovery
      let recoveries ← recordRecoveries rt stage nested rest
      pure (recovery :: recoveries)

/-- The truncated responses, in the order of the configured providers. -/
def orderRecoverable (config : RunConfig) (recoverable : List Recoverable) : List Recoverable :=
  config.names.filterMap fun name => recoverable.find? fun r => r.provider = name

/-- `_run_parallel_stage`.  The second pass allows no truncation recovery, so its
own list of recoverable responses is empty. -/
def runParallelStage (rt : Runtime) (eng : CouncilEngine) (args : StageArgs) : M StageResult := do
  let (first, recoverable) ← runStagePass rt eng args
  let (unavailable, recoveries) ←
    splitRecoverable rt eng.policy args.stage (orderRecoverable eng.toRunConfig recoverable)
  if recoveries = [] then return first.append unavailable
  let (nested, _) ← runStagePass rt eng { args with
    prompts := recoveries.map fun e => (e.1.provider, e.1.prompts)
    allowTruncationRecovery := false
    outputOverrides := recoveries.map fun e => (e.1.provider, e.2)
    retryFailedInvocations := true }
  let recorded ← recordRecoveries rt args.stage nested recoveries
  return (first.append unavailable).append
    { nested with recoveries := nested.recoveries ++ recorded }

end CouncilLogic
