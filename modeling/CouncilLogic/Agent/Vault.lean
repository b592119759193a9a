/-
# Approvals and requests of agents

The tables `run_approvals` and `agent_requests` of `store.py` beside those of the runs, with
the approval key of the data directory and, as a history, the calls of `council approve`.  Each
method is one transaction.

The methods are `record_run_approval`, `consume_run_approval`, `attach_run_approval`,
`run_approval_for`, `bind_agent_request` and `get_agent_request` of `src/model_council/store.py`,
and `_load_key` of `src/model_council/approval.py`.  The key is created in two steps
there: the file first, with `O_EXCL`, and then its contents, and a program that stops in between
leaves an empty key behind.
-/

import CouncilLogic.Agent.Plans
import CouncilLogic.Lib.Clients

namespace CouncilLogic
namespace Agent

open Transaction Columns

/-- A row of `run_approvals`. -/
structure ApprovalRow where
  tokenSha256 : Str
  planHash : Str
  approvedBy : Str
  maxCalls : ℤ
  approvedAt : Stamp
  consumedAt : Option Stamp := none
  runId : Option Str := none
  /-- The call of `council approve` that recorded it, by its number; no column of the table. -/
  call : ℕ
  deriving DecidableEq

/-- A row of `agent_requests`. -/
structure AgentRequestRow where
  requestId : Str
  payloadSha256 : Str
  runId : Str
  createdAt : Stamp
  deriving DecidableEq

/-- What `council approve` is called with, and what it finds at its standard input. -/
structure ApproveArgs (K : Type) where
  config : AppConfig
  question : Str
  planHash : Str
  approvedBy : Str
  /-- The standard input is a terminal. -/
  isatty : Bool
  /-- What is typed at the prompt. -/
  typed : Str
  /-- The key that is drawn when the directory has none. -/
  newKey : K
  nonce : Str

/-- A data directory; `K` are the approval keys. -/
structure Vault (K : Type) where
  tables : Runs.Tables := {}
  approvals : List ApprovalRow := []
  requests : List AgentRequestRow := []
  /-- The file `approval.key`: it is created empty, and written afterwards. -/
  key : Option (Option K) := none
  /-- The runs whose work was begun or taken up again, in order. -/
  resumed : List Str := []
  /-- Every call of `council approve`, in order. -/
  calls : List (ApproveArgs K) := []

variable {K : Type}

/-- A method of the store. -/
abbrev VaultM (K : Type) := Transaction (Vault K) AgentErr

namespace Vault

/-- `SELECT * FROM run_approvals WHERE token_sha256 = ?`. -/
def approval (v : Vault K) (tokenSha256 : Str) : Option ApprovalRow :=
  Rows.find ApprovalRow.tokenSha256 v.approvals tokenSha256

/-- `SELECT * FROM agent_requests WHERE request_id = ?`. -/
def request (v : Vault K) (requestId : Str) : Option AgentRequestRow :=
  Rows.find AgentRequestRow.requestId v.requests requestId

/-- The key that is read of `approval.key`: that of an empty text when the file is empty. -/
def storedKey (emptyKey : K) (v : Vault K) : Option K := v.key.map fun file => file.getD emptyKey

/-- `UPDATE run_approvals SET … WHERE token_sha256 = ?`. -/
def updateApproval (tokenSha256 : Str) (f : ApprovalRow → ApprovalRow) (v : Vault K) : Vault K :=
  { v with approvals := Rows.change ApprovalRow.tokenSha256 v.approvals tokenSha256 f }

end Vault

/-- A check of the store. -/
def checkPy {α : Type} (x : Except PyErr α) : VaultM K α :=
  check (x.mapError .py)

/-- A method on the tables of the runs. -/
def onTables {α : Type} (t : Runs.Sql α) : VaultM K α := ⟨fun v =>
  match t.run v.tables with
  | (.ok a, tables) => (.ok a, { v with tables := tables })
  | (.error e, tables) => (.error (.py e), { v with tables := tables })⟩

/-! ### Approvals -/

/-- A call of `council approve` gets its number. -/
def beginApprove (args : ApproveArgs K) : VaultM K ℕ := do
  let v ← read
  write fun v => { v with calls := v.calls ++ [args] }
  pure v.calls.length

/-- `record_run_approval`, made by a call of `council approve`. -/
def recordRunApproval (now : Stamp) (tokenSha256 planHash approvedBy : Str) (maxCalls : ℤ)
    (call : ℕ) : VaultM K Unit :=
  atomically do
    checkPy (bindTexts [tokenSha256, planHash, approvedBy])
    checkPy (bindValue (.int maxCalls))
    let v ← read
    match v.approval tokenSha256 with
    | some _ => pure ()
    | none => write fun v => { v with approvals := v.approvals ++
        [⟨tokenSha256, planHash, approvedBy, maxCalls, now, none, none, call⟩] }

/-- What `consume_run_approval` returns. -/
structure Consumed where
  approvedBy : Str
  planHash : Str
  maxCalls : ℤ
  approvedAt : Stamp
  consumedAt : Stamp

/-- `consume_run_approval`. -/
def consumeRunApproval (now : Stamp) (tokenSha256 planHash : Str) : VaultM K Consumed :=
  atomically do
    checkPy (bindTexts [tokenSha256])
    let v ← read
    match v.approval tokenSha256 with
    | none => check (.error unknown)
    | some row =>
      if row.planHash ≠ planHash then check (.error unknown)
      else if row.consumedAt ≠ none then
        check (.error (.permission (lit "Paid run refused: approval token was already used (run " ++
          (if row.runId.getD [] = [] then lit "unknown" else row.runId.getD []) ++
          lit "); approve a new plan")))
      else do
        write (Vault.updateApproval tokenSha256 fun r => { r with consumedAt := some now })
        pure ⟨row.approvedBy, row.planHash, row.maxCalls, row.approvedAt, now⟩
where
  unknown : AgentErr :=
    .permission (lit "Paid run refused: no recorded human approval for this plan")

/-- `attach_run_approval`. -/
def attachRunApproval (tokenSha256 runId : Str) : VaultM K Unit :=
  atomically do
    checkPy (bindTexts [runId, tokenSha256])
    write (Vault.updateApproval tokenSha256 fun r =>
      if r.runId = none then { r with runId := some runId } else r)

/-- `run_approval_for`. -/
def runApprovalFor (runId : Str) : VaultM K (Option ApprovalRow) := do
  checkPy (bindTexts [runId])
  let v ← read
  let rows := v.approvals.filter fun r =>
    decide (r.runId = some runId) && r.consumedAt.isSome
  pure (rows.insertionSort fun a b => Str.le a.approvedAt.text b.approvedAt.text = true).head?

/-! ### Requests -/

/-- `get_agent_request`. -/
def getAgentRequest (requestId : Str) : VaultM K (Option AgentRequestRow) := do
  checkPy (bindTexts [requestId])
  let v ← read
  pure (v.request requestId)

/-- `bind_agent_request`. -/
def bindAgentRequest (now : Stamp) (requestId payloadSha256 runId : Str) : VaultM K Unit :=
  atomically do
    checkPy (bindTexts [requestId, payloadSha256, runId])
    let v ← read
    refuse (v.request requestId ≠ none) (.py ⟨.integrityError,
      lit "UNIQUE constraint failed: agent_requests.request_id"⟩)
    refuse (v.tables.run runId = none) (.py ⟨.integrityError,
      lit "FOREIGN KEY constraint failed"⟩)
    write fun v => { v with requests := v.requests ++ [⟨requestId, payloadSha256, runId, now⟩] }

/-! ### Runs -/

/-- `append_event`. -/
def appendEvent (rt : Runtime) (now : Stamp) (runId type : Str) (payload : Dict) :
    Runs.Sql Unit := do
  check (Store.requiredText (lit "event_type") type)
  let payload ← check (Dict.store rt (lit "$.event") payload)
  atomically do
    check (bindTexts [runId, type])
    let t ← read
    refuse (t.run runId = none) ⟨.keyError, lit "unknown run: " ++ runId⟩
    write fun t => { t with
      events := t.events ++ [⟨t.nextEventId, runId, type, payload, now⟩]
      nextEventId := t.nextEventId + 1 }

/-- The start of `CouncilEngine._resume_locked`: the run is the one that the engine's
configuration was locked for. -/
def beginResume (rt : Runtime) (engine : AppConfig) (runId : Str) : VaultM K Unit :=
  atomically do
    checkPy (bindTexts [runId])
    let v ← read
    match v.tables.run runId with
    | none => check (.error (.py ⟨.keyError, lit "Unknown run: " ++ runId⟩))
    | some row => do
      let request := runRequest rt engine row.question
      refuse (row.protocolId ≠ request.protocolId)
        (.py (.valueError (lit "Unsupported protocol: " ++ row.protocolId)))
      refuse (row.protocolHash ≠ rt.protocolHash)
        (.py (.valueError (lit "Protocol hash differs from the immutable run lock")))
      refuse (row.providerConfigs ≠ Json.canon (.arr request.providerConfigs))
        (.py (.valueError
          (lit "Current provider configuration or order differs from the run lock")))
      refuse (row.policy ≠ request.policy.canon)
        (.py (.valueError
          (lit "Current policy or synthesis provider chain differs from the run lock")))
      write fun v => { v with resumed := v.resumed ++ [runId] }

end Agent
end CouncilLogic
