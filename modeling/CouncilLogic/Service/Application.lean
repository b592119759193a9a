/-
# The service application

`CouncilApplication`: the bindings of runs to principals and the runs themselves are durable,
the slots, the scheduled and the pending runs and the jobs of the executor are in memory.
`create_run` holds the state lock from its first read to its end, so nothing but the workers
moves meanwhile; it writes the binding and the run in two transactions of two stores.

What the application does not decide is a question: what a policy says, which id `uuid4`
draws, whether a transaction or a submission fails, what the workers have done by now.

The source is `src/model_council/service.py`, with the methods of
`src/model_council/service_store.py` that it calls for bindings; `docs/PORTABLE-SERVICE.md`
describes what a client sees of it.  The HTTP server in front of it is not modelled: what it adds
is the parsing of requests and the lookup of the principal.
-/

import CouncilLogic.Json
import CouncilLogic.Lib.Prog
import CouncilLogic.Lib.Rows

namespace CouncilLogic
namespace Service

/-! ### Tables -/

/-- The columns of `service_run_bindings` that are read. -/
structure RunBinding where
  principalId : Str
  idempotencyKey : Str
  runId : Str
  payloadHash : Str
  deriving DecidableEq

/-- The columns of `runs` that the service reads. -/
structure CouncilRun where
  runId : Str
  question : Str
  status : Str
  deriving DecidableEq

/-- `_TERMINAL_STATUSES`. -/
def terminalStatuses : List Str :=
  [lit "completed", lit "partial", lit "failed", lit "cancelled"]

/-- A future of the executor: submitted, run by a worker, or done but for its callback. -/
inductive Phase
  | queued
  | executing
  | finished
  deriving DecidableEq

/-- `_execute_run(principal, run_id)`, as it was submitted. -/
structure Job where
  principalId : Str
  runId : Str
  phase : Phase := .queued
  deriving DecidableEq

/-- `CouncilApplication` and the two stores.  `bound`, `created` and `drawn` record the
bindings that were made, those whose run was created, and the ids that were drawn;
`doubled` records that a scheduled run was submitted again, in this process. -/
structure CouncilApplication where
  capacity : ℕ := 0
  closed : Bool := true
  slots : ℕ := 0
  scheduledRunIds : List Str := []
  pendingRecovery : List (Str × Str) := []
  pendingRunIds : List Str := []
  jobs : List Job := []
  bindings : List RunBinding := []
  runs : List CouncilRun := []
  bound : List RunBinding := []
  created : List RunBinding := []
  drawn : List Str := []
  doubled : Bool := false

/-- The process ends: the stores and the history stay. -/
def CouncilApplication.lose (app : CouncilApplication) : CouncilApplication where
  bindings := app.bindings
  runs := app.runs
  bound := app.bound
  created := app.created
  drawn := app.drawn

/-! ### Questions and errors -/

/-- What the application may raise. -/
inductive AppError
  /-- `ServiceInputError`. -/
  | input (status : ℕ) (code message : Str)
  | keyError (key : Str)
  | valueError (message : Str)
  | runtimeError (message : Str)
  /-- Anything else that a store, the engine or the executor raises. -/
  | raised (typeName : Str)
  deriving DecidableEq

/-- What a worker thread does: it takes the job at a position, changes the status of its run,
or ends, which leaves the run terminal. -/
inductive WorkerMove
  | start (position : ℕ)
  | status (position : ℕ) (status : Str)
  | finish (position : ℕ) (status : Str)

/-- What the application asks of its environment. -/
inductive AppQuestion
  /-- The code with which `authorize_action` denies, if it does. -/
  | authorize (principalId : Str)
  /-- `bind_run` finds the principal enabled. -/
  | enabled (principalId : Str)
  /-- `uuid.uuid4()`. -/
  | uuid4
  /-- What the next transaction raises, if it fails. -/
  | transaction
  /-- What `CouncilEngine.create_run` raises before it writes, if it refuses the question. -/
  | refuses (question : Str)
  /-- A run that is there was created by the same request. -/
  | sameRequest (runId question : Str)
  /-- A call reservation names the run. -/
  | reservationExists (runId : Str)
  /-- What `executor.submit` raises, if it fails. -/
  | submit
  /-- What the workers have done since they were last looked at. -/
  | workers

/-- The answers. -/
def AppAnswer : AppQuestion → Type
  | .authorize _ => Option Str
  | .enabled _ => Bool
  | .uuid4 => Str
  | .transaction => Option AppError
  | .refuses _ => Option AppError
  | .sameRequest _ _ => Bool
  | .reservationExists _ => Bool
  | .submit => Option AppError
  | .workers => List WorkerMove

/-- A part of an operation. -/
abbrev AppM (α : Type) := Prog CouncilApplication AppError AppQuestion AppAnswer α

/-! ### Workers -/

namespace CouncilApplication

/-- The run with an id. -/
def run? (app : CouncilApplication) (runId : Str) : Option CouncilRun :=
  Rows.find CouncilRun.runId app.runs runId

/-- The application with another status of a run. -/
def withStatus (app : CouncilApplication) (runId status : Str) : CouncilApplication :=
  { app with
    runs := Rows.change CouncilRun.runId app.runs runId fun r => { r with status := status } }

/-- The application with a job in another phase. -/
def withPhase (app : CouncilApplication) (position : ℕ) (job : Job) (phase : Phase) :
    CouncilApplication :=
  { app with jobs := app.jobs.set position { job with phase := phase } }

/-- One move of a worker.  `_execute_run` ends when `resume` has, which leaves the run with a
terminal status, or when it has set the status `failed` itself. -/
def work (app : CouncilApplication) : WorkerMove → CouncilApplication
  | .start position =>
    match app.jobs[position]? with
    | some job => if job.phase = .queued then app.withPhase position job .executing else app
    | none => app
  | .status position status =>
    match app.jobs[position]? with
    | some job => if job.phase = .executing then app.withStatus job.runId status else app
    | none => app
  | .finish position status =>
    match app.jobs[position]? with
    | some job =>
      if job.phase = .executing ∧ status ∈ terminalStatuses then
        (app.withStatus job.runId status).withPhase position job .finished
      else app
    | none => app

end CouncilApplication

/-- The workers move. -/
def workers : AppM Unit := do
  let moves : List WorkerMove ← Prog.query AppQuestion.workers
  let app ← Prog.read
  Prog.write (moves.foldl CouncilApplication.work app)

/-! ### Stores -/

/-- A change of the state in memory. -/
def modify (f : CouncilApplication → CouncilApplication) : AppM Unit := do
  let app ← Prog.read
  Prog.write (f app)

/-- A transaction begins, or fails. -/
def transaction : AppM Unit := do
  let failure : Option AppError ← Prog.query AppQuestion.transaction
  match failure with
  | some e => .raise e
  | none => pure ()

/-- `RunBindingCode`, as far as the application tells the codes apart. -/
inductive RunBindingCode
  | created
  | replay
  | idempotencyConflict
  | runIdConflict
  | principalDisabled
  deriving DecidableEq

/-- The binding of a principal and a key. -/
def CouncilApplication.binding? (app : CouncilApplication) (principalId key : Str) :
    Option RunBinding :=
  Rows.find (fun b : RunBinding => (b.principalId, b.idempotencyKey)) app.bindings
    (principalId, key)

/-- The code of a binding that is there already. -/
def RunBinding.code (b : RunBinding) (payloadHash : Str) : RunBindingCode :=
  if b.payloadHash = payloadHash then .replay else .idempotencyConflict

/-- `find_run_binding`. -/
def findRunBinding (principalId key payloadHash : Str) :
    AppM (Option (RunBindingCode × Str)) := do
  transaction
  let app ← Prog.read
  pure ((app.binding? principalId key).map fun b => (b.code payloadHash, b.runId))

/-- `bind_run`. -/
def bindRun (principalId key runId payloadHash : Str) : AppM (RunBindingCode × Str) := do
  transaction
  let enabled : Bool ← Prog.query (AppQuestion.enabled principalId)
  if enabled = false then pure (.principalDisabled, runId)
  else do
    let app ← Prog.read
    match app.binding? principalId key with
    | some b => pure (b.code payloadHash, b.runId)
    | none =>
      match Rows.find RunBinding.runId app.bindings runId with
      | some _ => pure (.runIdConflict, runId)
      | none => do
        let b : RunBinding := ⟨principalId, key, runId, payloadHash⟩
        Prog.write { app with bindings := app.bindings ++ [b], bound := app.bound ++ [b] }
        pure (.created, runId)

/-- `abandon_run_binding`. -/
def abandonRunBinding (b : RunBinding) : AppM Unit := do
  transaction
  let reserved : Bool ← Prog.query (AppQuestion.reservationExists b.runId)
  if reserved then pure ()
  else modify fun app => { app with bindings := app.bindings.filter fun b' => b' ≠ b }

/-- `council_store.get_run`. -/
def getRun (runId : Str) : AppM (Option CouncilRun) := do
  transaction
  workers
  let app ← Prog.read
  pure (app.run? runId)

/-- `council_store.set_run_status`. -/
def setRunStatus (runId status : Str) : AppM Unit := do
  transaction
  let app ← Prog.read
  match app.run? runId with
  | none => .raise (.keyError (lit "unknown run: " ++ runId))
  | some _ => Prog.write (app.withStatus runId status)

/-- `council_store.append_event`; the events of a run are not read here. -/
def appendEvent : AppM Unit := transaction

/-- `CouncilEngine.create_run(question, run_id=…)` for a binding. -/
def engineCreateRun (question : Str) (b : RunBinding) : AppM Str := do
  let refused : Option AppError ← Prog.query (AppQuestion.refuses question)
  match refused with
  | some e => .raise e
  | none => do
    transaction
    let same : Bool ← Prog.query (AppQuestion.sameRequest b.runId question)
    let app ← Prog.read
    match app.run? b.runId with
    | some _ =>
      if same then pure b.runId
      else .raise (.valueError (lit "run_id was already used for another request"))
    | none => do
      Prog.write { app with
        runs := app.runs ++ [⟨b.runId, question, lit "created"⟩]
        created := app.created ++ [b] }
      pure b.runId

/-! ### Scheduling -/

/-- `self._slots.acquire(blocking=False)`. -/
def acquire : AppM Bool := do
  let app ← Prog.read
  if app.slots = 0 then pure false
  else do
    Prog.write { app with slots := app.slots - 1 }
    pure true

/-- `self._slots.release()` of a bounded semaphore. -/
def release : AppM Unit := do
  let app ← Prog.read
  if app.slots < app.capacity then Prog.write { app with slots := app.slots + 1 }
  else .raise (.valueError (lit "Semaphore released too many times"))

/-- `self._executor.submit(self._execute_run, principal, run_id)`. -/
def submit (principalId runId : Str) : AppM Unit := do
  let failure : Option AppError ← Prog.query AppQuestion.submit
  match failure with
  | some e => .raise e
  | none => modify fun app => { app with jobs := app.jobs ++ [⟨principalId, runId, .queued⟩] }

/-- `self._scheduled_run_ids.discard(run_id)`. -/
def discard (runId : Str) : AppM Unit :=
  modify fun app => { app with scheduledRunIds := app.scheduledRunIds.filter fun r => r ≠ runId }

/-- The future of a run is done. -/
def CouncilApplication.done (app : CouncilApplication) (runId : Str) : Bool :=
  app.jobs.any fun job => decide (job.runId = runId) && decide (job.phase = .finished)

/-- `release_slot`: the callback of a future that is done. -/
def releaseSlot (drain : AppM Unit) (runId : Str) : AppM Unit := do
  modify fun app => { app with
    jobs := app.jobs.filter fun job =>
      !(decide (job.runId = runId) && decide (job.phase = .finished))
    scheduledRunIds := app.scheduledRunIds.filter fun r => r ≠ runId }
  release
  drain

/-- `_submit_acquired`.  A future that is done already when the callback is added calls it at
once, and logs what it raises. -/
def submitAcquired (drain : AppM Unit) (principalId runId : Str) : AppM Unit := do
  let app ← Prog.read
  if runId ∈ app.scheduledRunIds then do
    Prog.write { app with doubled := true }
    release
    .raise (.runtimeError (lit "Council run is already scheduled"))
  else do
    Prog.write { app with scheduledRunIds := app.scheduledRunIds ++ [runId] }
    let submitted ← (submit principalId runId).catching
    match submitted with
    | .error e => do
      discard runId
      .raise e
    | .ok _ => do
      workers
      let app ← Prog.read
      if app.done runId then do
        let _ ← (releaseSlot drain runId).catching
        pure ()
      else pure ()

/-- `_drain_pending_locked`.  Every round takes a pending run, and a callback that is called in
the round drains in its turn: as many rounds as there are pending runs, and one, are enough. -/
def drainPending : ℕ → AppM Unit
  | 0 => pure ()
  | rounds + 1 => do
    let app ← Prog.read
    match app.pendingRecovery with
    | [] => pure ()
    | (principalId, runId) :: rest =>
      if app.closed then pure ()
      else do
        let acquired ← acquire
        if acquired = false then pure ()
        else do
          modify fun app => { app with
            pendingRecovery := rest
            pendingRunIds := app.pendingRunIds.filter fun r => r ≠ runId }
          let submitted ← (submitAcquired (drainPending rounds) principalId runId).catching
          match submitted with
          | .error e => do
            release
            .raise e
          | .ok _ => drainPending rounds

/-- `_drain_pending_locked()`. -/
def drainPendingLocked : AppM Unit := do
  let app ← Prog.read
  drainPending (app.pendingRecovery.length + 1)

/-- `_queue_recovery_locked`. -/
def queueRecovery (principalId runId : Str) : AppM Unit := do
  let app ← Prog.read
  if runId ∈ app.scheduledRunIds ∨ runId ∈ app.pendingRunIds then pure ()
  else Prog.write { app with
    pendingRecovery := app.pendingRecovery ++ [(principalId, runId)]
    pendingRunIds := app.pendingRunIds ++ [runId] }

/-- `_ensure_scheduled_locked`. -/
def ensureScheduled (principalId runId status : Str) : AppM Unit :=
  if status ∈ terminalStatuses then pure ()
  else do
    let app ← Prog.read
    if runId ∉ app.scheduledRunIds ∧ runId ∉ app.pendingRunIds then do
      queueRecovery principalId runId
      drainPendingLocked
    else pure ()

/-! ### Requests -/

/-- The bytes of a code point in UTF-8. -/
def utf8Bytes (c : ℕ) : ℕ :=
  if c < 0x80 then 1 else if c < 0x800 then 2 else if c < 0x10000 then 3 else 4

/-- `len(s.encode("utf-8"))`. -/
def utf8Length (s : Str) : ℕ := (s.map utf8Bytes).sum

/-- `_validate_question`. -/
def validateQuestion (value : Str) : Except AppError Str :=
  let clean := value.strip
  if clean = [] then
    .error (.input 400 (lit "invalid_question") (lit "question must not be empty"))
  else if 32768 < clean.length ∨ clean.encodable = false ∨ 32768 < utf8Length clean then
    .error (.input 413 (lit "question_too_large") (lit "question exceeds the service limit"))
  else if clean.any fun c => decide (c < 32 ∧ c ∉ [9, 10, 13]) then
    .error (.input 400 (lit "invalid_question")
      (lit "question contains unsupported control characters"))
  else .ok clean

/-- `_validate_idempotency_key`. -/
def validateIdempotencyKey (value : Str) : Except AppError Str :=
  if value = [] then
    .error (.input 400 (lit "invalid_idempotency_key")
      (lit "Idempotency-Key must be a non-empty visible ASCII value"))
  else if value.encodable = false then .error (.raised (lit "UnicodeEncodeError"))
  else if 128 < utf8Length value ∨ value.any (fun c => decide (c < 0x21 ∨ 0x7e < c)) = true then
    .error (.input 400 (lit "invalid_idempotency_key")
      (lit "Idempotency-Key must be at most 128 visible ASCII bytes"))
  else .ok value

/-- The canonical JSON of a request. -/
def requestText (question : Str) : Str :=
  Json.dumpsCompact (.obj [(lit "question", .str question)])

/-- `_request_hash`. -/
def requestHash (rt : Runtime) (question : Str) : Str := rt.sha256 (requestText question)

/-- The ids of `six_principals()`. -/
def sixPrincipals : List Str :=
  [lit "mini-a-agent", lit "mini-b-agent", lit "personal-laptop-human",
    lit "personal-laptop-agent", lit "work-laptop-human", lit "work-laptop-agent"]

/-- `CreateRunResult`, without the result or the error of a terminal run. -/
structure CreateRunResult where
  status : ℕ
  runId : Str
  runStatus : Str
  replayed : Bool
  deriving DecidableEq

/-- `_authorize_action`. -/
def authorizeAction (principalId : Str) : AppM Unit :=
  if principalId ∉ sixPrincipals then .raise (.keyError principalId)
  else do
    transaction
    let denied : Option Str ← Prog.query (AppQuestion.authorize principalId)
    match denied with
    | some code => .raise (.input 403 code (lit "Council policy denied this action"))
    | none => pure ()

/-- `_public_run(run_id, replayed=True)`. -/
def publicRun (runId : Str) : AppM CreateRunResult := do
  let run ← getRun runId
  match run with
  | none => .raise (.input 404 (lit "run_not_found") (lit "Council run was not found"))
  | some run => pure ⟨200, runId, run.status, true⟩

/-- `try` with an `except BaseException` that cleans up and raises again. -/
def onError {α : Type} (body : AppM α) (cleanup : AppM Unit) : AppM α := do
  let result ← body.catching
  match result with
  | .ok a => pure a
  | .error e => do
    cleanup
    .raise e

def queueFull : AppError :=
  .input 503 (lit "queue_full") (lit "Council work queue is full")

def idempotencyConflict : AppError :=
  .input 409 (lit "idempotency_conflict")
    (lit "Idempotency-Key was already used for another request")

/-- The run of a binding is created, marked as queued and submitted. -/
def startRun (question : Str) (b : RunBinding) : AppM Unit := do
  let createdRunId ← engineCreateRun question b
  if createdRunId ≠ b.runId then
    .raise (.runtimeError (lit "Council store returned an unexpected run_id"))
  else do
    setRunStatus b.runId (lit "queued")
    appendEvent
    submitAcquired drainPendingLocked b.principalId b.runId

/-- `create_run` where the key is bound to a run already. -/
def replayRun (question : Str) (b : RunBinding) : AppM CreateRunResult := do
  let existing ← getRun b.runId
  match existing with
  | some run => do
    ensureScheduled b.principalId b.runId run.status
    publicRun b.runId
  | none => do
    let acquired ← acquire
    if acquired = false then .raise queueFull
    else do
      onError (startRun question b) release
      pure ⟨202, b.runId, lit "queued", true⟩

/-- What `create_run` does about a run that it has bound and could not submit. -/
def undoBinding (b : RunBinding) : AppM Unit := do
  let missing ← getRun b.runId
  if missing.isNone then abandonRunBinding b
  else pure ()
  let present ← getRun b.runId
  if present.isSome then do
    let _ ← (setRunStatus b.runId (lit "failed")).catching
    pure ()
  else pure ()
  release

/-- `create_run` up to `binding_created`, with what it answers where the pair is bound. -/
def bindNew (principalId key runId payloadHash : Str) : AppM (Option CreateRunResult) := do
  let (code, boundRunId) ← bindRun principalId key runId payloadHash
  match code with
  | .idempotencyConflict => .raise idempotencyConflict
  | .replay => do
    let payload ← publicRun boundRunId
    release
    pure (some payload)
  | .created => pure none
  | .runIdConflict | .principalDisabled =>
    .raise (.input 403 (lit "principal_disabled")
      (lit "Principal is not permitted to create runs"))

/-- `create_run` where the key is free. -/
def newRun (question : Str) (principalId key payloadHash : Str) : AppM CreateRunResult := do
  let acquired ← acquire
  if acquired = false then .raise queueFull
  else do
    let runId : Str ← Prog.query AppQuestion.uuid4
    modify fun app => { app with drawn := app.drawn ++ [runId] }
    let replay ← onError (bindNew principalId key runId payloadHash) release
    match replay with
    | some payload => pure payload
    | none => do
      let b : RunBinding := ⟨principalId, key, runId, payloadHash⟩
      onError (startRun question b) (undoBinding b)
      pure ⟨202, runId, lit "queued", false⟩

/-- `create_run`. -/
def createRun (rt : Runtime) (principalId question idempotencyKey : Str) :
    AppM CreateRunResult := do
  let cleanQuestion ← Prog.ofExcept (validateQuestion question)
  let cleanKey ← Prog.ofExcept (validateIdempotencyKey idempotencyKey)
  let payloadHash := requestHash rt cleanQuestion
  let app ← Prog.read
  if app.closed then
    .raise (.input 503 (lit "service_stopping") (lit "Council service is stopping"))
  else do
    authorizeAction principalId
    let existing ← findRunBinding principalId cleanKey payloadHash
    match existing with
    | some (.idempotencyConflict, _) => .raise idempotencyConflict
    | some (_, runId) => replayRun cleanQuestion ⟨principalId, cleanKey, runId, payloadHash⟩
    | none => newRun cleanQuestion principalId cleanKey payloadHash

/-! ### The life of an application -/

/-- The pending runs of `_recover_nonterminal_runs`, one binding after the other. -/
def queueNonterminal : List RunBinding → AppM Unit
  | [] => pure ()
  | b :: bindings => do
    let run ← getRun b.runId
    match run with
    | none => pure ()
    | some run =>
      if run.status ∈ terminalStatuses ∨ b.principalId ∉ sixPrincipals then pure ()
      else queueRecovery b.principalId b.runId
    queueNonterminal bindings

/-- `_recover_nonterminal_runs`. -/
def recoverNonterminalRuns : AppM Unit := do
  transaction
  let app ← Prog.read
  queueNonterminal app.bindings
  drainPendingLocked

/-- `CouncilApplication(…, recover_jobs=True)`. -/
def openApplication (maxWorkers maxQueue : ℕ) : AppM Unit := do
  transaction
  let app ← Prog.read
  if app.runs.any fun r => (Rows.find RunBinding.runId app.bindings r.runId).isNone then
    .raise (.valueError (lit "Council service refuses a preexisting unowned run"))
  else do
    Prog.write { app.lose with
      capacity := maxWorkers + maxQueue
      slots := maxWorkers + maxQueue
      closed := false }
    recoverNonterminalRuns

/-- The callback of the future of a run, on the thread of its worker. -/
def callback (runId : Str) : AppM Unit := do
  let app ← Prog.read
  if app.done runId then do
    let _ ← (releaseSlot drainPendingLocked runId).catching
    pure ()
  else pure ()

/-- `close`: the executor goes on with what was submitted. -/
def close : AppM Unit := modify fun app => { app with closed := true }

/-- What happens to an application. -/
inductive AppOp
  | createRun (principalId question idempotencyKey : Str)
  | workers
  | callback (runId : Str)
  | close

/-- The program of an operation. -/
def AppOp.program (rt : Runtime) : AppOp → AppM (Option CreateRunResult)
  | .createRun principalId question key => do
    let result ← Service.createRun rt principalId question key
    pure (some result)
  | .workers => do
    Service.workers
    pure none
  | .callback runId => do
    Service.callback runId
    pure none
  | .close => do
    Service.close
    pure none

/-- The programs that run in a process: an application is made, and its operations. -/
inductive AppPrograms (rt : Runtime) : AppM (Option CreateRunResult) → Prop
  | construct (maxWorkers maxQueue : ℕ) : AppPrograms rt (do
      openApplication maxWorkers maxQueue
      pure none)
  | call (op : AppOp) : AppPrograms rt (op.program rt)

end Service
end CouncilLogic
