/-
# The programs on a data directory

`guarded_create`, `guarded_run` and the requests of agents, `council approve` and
`council resume`, each as a client of the data directory.  What a program draws or finds in its
environment is given to it: clocks, random ids, the secrets of the deployment, and whether it
gets the lock of the directory.

The sources are `src/model_council/agent.py`, `src/model_council/approval.py` and the commands of
`src/model_council/cli.py`; `docs/AGENT-INTERFACE.md` describes the requests.  A program is cut
into the transactions it makes, since another program may come in between any two of them.
-/

import CouncilLogic.Agent.Vault

namespace CouncilLogic
namespace Agent

open Client
open Columns (Stamp)

/-- What is fixed for every program: the interpreter, `urlparse` and the keyed digest. -/
structure Platform (K : Type) extends Runtime where
  urlparse : Str → Except PyErr Url
  hmac : K → Str → Str
  /-- The key of no bytes, that an empty file holds. -/
  emptyKey : K

/-- What one program draws or finds. -/
structure Env where
  plan : Workload.PlanDraws
  /-- The projections made when the run is created. -/
  run : Workload.PlanDraws
  deployment : Config.Deployment
  /-- The times of the transactions. -/
  consumedAt : Stamp
  createdAt : Stamp
  boundAt : Stamp
  recordedAt : Stamp
  /-- The id drawn by `create_run`. -/
  draw : Runs.Tables → Runs.Uuid
  /-- What `ServiceLock.acquire` and `_refuse_service_managed_cli` raise. -/
  lock : Except AgentErr Unit

/-- A validated `run` or `start` request. -/
structure AgentRequest where
  /-- The action is `start`. -/
  start : Bool
  requestId : Option Str
  /-- `payload_sha256` of the request. -/
  payloadSha256 : Str
  /-- What `select_config` and `_question` make of it. -/
  selection : Except AgentErr (AppConfig × Str)
  approvedBy : Option Str
  approvalToken : Option Str

/-- The answers of the programs. -/
inductive Answer
  /-- The exit code of a command that is refused. -/
  | exit (code : ℕ)
  /-- The token that `council approve` prints. -/
  | token (t : Str)
  /-- A run whose work was done. -/
  | ran (runId : Str)
  /-- The reply to an agent's request. -/
  | reply (request : AgentRequest) (runId : Str) (replayed : Bool)
  /-- Another write of the store. -/
  | wrote

variable {K : Type} (pf : Platform K)

/-- A client of the data directory. -/
abbrev Program (K α : Type) := Client (Vault K) AgentErr α

/-- A computation that needs no state. -/
def computed {α : Type} (x : Except PyErr α) : Program K α := ofExcept (x.mapError .py)

/-- A read of the directory. -/
def look {α : Type} (f : Vault K → α) : Program K α :=
  perform (Transaction.read >>= fun v => pure (f v))

/-! ### Creating runs -/

/-- The arguments of `guarded_create`. -/
structure CreateArgs where
  config : AppConfig
  question : Str
  approvedBy : Option Str := none
  approvalToken : Option Str := none
  idempotencyKey : Option Str := none
  requestId : Option Str := none
  requestPayloadSha256 : Option Str := none

/-- The token's digest and its approval, when the plan needs one. -/
def claimApproval (env : Env) (args : CreateArgs) (plan : PlanRecord) :
    Program K (Option (Str × Consumed)) :=
  if plan.approvalRequired then do
    let key ← look (Vault.storedKey pf.emptyKey)
    let token ← ofExcept (verifyToken pf.hmac pf.sha256 key plan.approved args.approvedBy
      args.approvalToken)
    let approval ← perform (consumeRunApproval env.consumedAt token plan.planHash)
    pure (some (token, approval))
  else pure none

/-- `CouncilEngine.create_run`. -/
def createRun (env : Env) (engine : AppConfig) (question : Str) (idempotencyKey : Option Str) :
    Program K Str := do
  computed (checkRun pf.toRuntime env.run engine question)
  let uuid ← look fun v => env.draw v.tables
  perform (onTables (Runs.createRun pf.toRuntime
    { now := env.createdAt
      uuid := uuid
      request := runRequest pf.toRuntime engine question
      idempotencyKey := idempotencyKey }))

/-- The payload of `human_run_approval`. -/
def approvalPayload (token : Str) (approval : Consumed) : Dict :=
  [(lit "approved_by", .str approval.approvedBy),
    (lit "plan_hash", .str approval.planHash),
    (lit "max_calls", .int approval.maxCalls),
    (lit "approved_at", .str approval.approvedAt.text),
    (lit "token_sha256", .str token)]

/-- The binding of an agent's request. -/
def bindRequest (env : Env) (args : CreateArgs) (runId : Str) : Program K Unit :=
  match args.requestId, args.requestPayloadSha256 with
  | some requestId, some payload =>
    perform (bindAgentRequest env.boundAt requestId payload runId)
  | _, _ => pure ()

/-- The attachment of a consumed approval. -/
def attach (env : Env) (runId : Str) : Option (Str × Consumed) → Program K Unit
  | none => pure ()
  | some (token, approval) => do
    perform (attachRunApproval token runId)
    perform (onTables (appendEvent pf.toRuntime env.recordedAt runId (lit "human_run_approval")
      (approvalPayload token approval)))

/-- `guarded_create`. -/
def guardedCreate (env : Env) (args : CreateArgs) : Program K (AppConfig × Str) := do
  let plan ← computed (planRecord pf.toRuntime pf.urlparse env.plan args.config args.question)
  let approval ← claimApproval pf env args plan
  let engine ← computed (Config.engineOf env.deployment args.config)
  let runId ← createRun pf env engine args.question args.idempotencyKey
  bindRequest env args runId
  attach pf env runId approval
  pure (engine, runId)

/-- `CouncilEngine.resume`, up to the work itself. -/
def resume (engine : AppConfig) (runId : Str) : Program K Unit :=
  perform (beginResume pf.toRuntime engine runId)

/-- `guarded_run`; `unneeded` are the draws of its own plan. -/
def guardedRun (env : Env) (unneeded : Workload.PlanDraws) (args : CreateArgs) :
    Program K Answer := do
  let plan ← computed (planRecord pf.toRuntime pf.urlparse unneeded args.config args.question)
  if plan.approvalRequired then do
    let (engine, runId) ← guardedCreate pf env
      { args with requestId := none, requestPayloadSha256 := none }
    resume pf engine runId
    pure (.ran runId)
  else do
    let engine ← computed (Config.engineOf env.deployment args.config)
    let runId ← createRun pf env engine args.question args.idempotencyKey
    resume pf engine runId
    pure (.ran runId)

/-! ### Commands -/

/-- `os.open(path, os.O_WRONLY | os.O_CREAT | os.O_EXCL, 0o600)`: the file is created empty. -/
def createKeyFile : VaultM K Unit :=
  Transaction.atomically do
    let v ← Transaction.read
    Transaction.refuse (v.key.isSome = true) (.os (lit "File exists"))
    Transaction.write fun v => { v with key := some none }

/-- `handle.write(key.hex())`; the text is short enough for one write of the system. -/
def writeKey (newKey : K) : VaultM K Unit :=
  Transaction.write fun v => { v with key := some (some newKey) }

/-- `_load_key` with `create=True`: the file is looked for, and where it is not there, created
and then written.  Whoever reads it in between finds it empty. -/
def loadKey (newKey : K) : Program K K := do
  match ← look (Vault.storedKey pf.emptyKey) with
  | some key => pure key
  | none => do
    perform createKeyFile
    perform (writeKey newKey)
    pure newKey

/-- `_approve_command`. -/
def approve (env : Env) (args : ApproveArgs K) : Program K Answer := do
  let call ← perform (beginApprove args)
  let record ← computed (planRecord pf.toRuntime pf.urlparse env.plan args.config args.question)
  if record.approvalRequired = false then pure (.exit 2)
  else if record.planHash ≠ Str.strip args.planHash then pure (.exit 4)
  else if args.isatty = false then pure (.exit 4)
  else if Str.strip args.typed ≠ record.planHash.take 12 then pure (.exit 4)
  else do
    let key ← loadKey pf args.newKey
    let token ← ofExcept (issueToken pf.hmac key record.approved args.approvedBy args.nonce)
    perform (recordRunApproval env.recordedAt (pf.sha256 token) record.planHash
      (Str.strip args.approvedBy) record.estimate.maxCalls call)
    pure (.token token)

/-- The approval of a run, when it needs one. -/
def neededApproval (config : AppConfig) (runId : Str) : Program K (Option ApprovalRow) :=
  if Approval.isPaid config.toRunConfig then perform (runApprovalFor runId) else pure none

/-- `council resume`; `locked` is `_locked_resume_config` of the run's row. -/
def resumeCommand (env : Env) (locked : Runs.Row → Except PyErr AppConfig) (runId : Str) :
    Program K Answer := do
  match ← look fun v => v.tables.run runId with
  | none => ofExcept (.error (.py ⟨.keyError, lit "Unknown run: " ++ runId⟩))
  | some row => do
    let config ← computed (locked row)
    let approval ← neededApproval config runId
    if Approval.isPaid config.toRunConfig = true ∧ approval = none then pure (.exit 4)
    else do
      let engine ← computed (Config.engineOf env.deployment config)
      resume pf engine runId
      pure (.ran runId)

/-! ### Requests of agents -/

/-- `run_status`, of which only the error is modelled. -/
def runStatus (runId : Str) : Program K Unit := do
  match ← look fun v => v.tables.run runId with
  | some _ => pure ()
  | none => ofExcept (.error (.request (lit "unknown run: " ++ runId) (lit "not_found")))

/-- The part of `handle_request` that creates a run. -/
def handleNew (env : Env) (request : AgentRequest) : Program K Answer := do
  let (config, question) ← ofExcept request.selection
  ofExcept env.lock
  let (engine, runId) ← guardedCreate pf env
    { config := config
      question := question
      approvedBy := request.approvedBy
      approvalToken := request.approvalToken
      idempotencyKey := request.requestId.map fun id => lit "agent:" ++ id
      requestId := request.requestId
      requestPayloadSha256 := some request.payloadSha256 }
  if request.start then runStatus runId else resume pf engine runId
  pure (.reply request runId false)

/-- `handle_request` for `run` and `start`. -/
def handleRun (env : Env) (request : AgentRequest) : Program K Answer := do
  match request.requestId with
  | none => handleNew pf env request
  | some requestId =>
    match ← perform (getAgentRequest requestId) with
    | none => handleNew pf env request
    | some existing =>
      if existing.payloadSha256 ≠ request.payloadSha256 then
        ofExcept (.error (.request
          (lit "request_id '" ++ requestId ++ lit ("' was already used with a " ++
            "different payload; use a new request_id")) (lit "request_id_conflict")))
      else do
        runStatus existing.runId
        pure (.reply request existing.runId true)

/-! ### All programs -/

/-- A write that the work on a run, or a human, makes to the tables of the runs. -/
inductive Write
  | setStatus (now : Stamp) (runId status : Str) (error : Option Dict)
  | finish (now : Stamp) (runId : Str) (result : Dict)
  | decide (now : Stamp) (runId decision note : Str)
  | event (now : Stamp) (runId type : Str) (payload : Dict)

/-- The method of the store. -/
def Write.method (rt : Runtime) : Write → Runs.Sql Unit
  | .setStatus now runId status error => Runs.setRunStatus rt now runId status error
  | .finish now runId result => Runs.finishRun rt now runId result
  | .decide now runId decision note => do
    let _ ← Runs.recordHumanDecision rt now runId decision note
    pure ()
  | .event now runId type payload => appendEvent rt now runId type payload

/-- Everything that is done on a data directory. -/
inductive Task (K : Type)
  | approve (env : Env) (args : ApproveArgs K)
  | run (env : Env) (unneeded : Workload.PlanDraws) (args : CreateArgs)
  | resume (env : Env) (locked : Runs.Row → Except PyErr AppConfig) (runId : Str)
  | handle (env : Env) (request : AgentRequest)
  | write (w : Write)

/-- The program of a task. -/
def Task.program : Task K → Program K Answer
  | .approve env args => Agent.approve pf env args
  | .run env unneeded args => guardedRun pf env unneeded args
  | .resume env locked runId => resumeCommand pf env locked runId
  | .handle env request => handleRun pf env request
  | .write w => do
    perform (onTables (w.method pf.toRuntime))
    pure .wrote

end Agent
end CouncilLogic
