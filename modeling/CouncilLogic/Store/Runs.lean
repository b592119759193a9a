/-
# Runs and decisions

The table of runs and the ledger of human decisions, as `create_run`, `set_run_status`,
`finish_run`, `record_human_decision` and `list_human_decisions` of `store.py` read and write
them.  The digests of events are left out, and `save_result`, which nothing calls.

The identity of a run is its id, the digest of its request (`request_sha256`, over the canonical
JSON of what it was created for) and its idempotency key.  A decision is a record of the ledger:
its canonical text, the digest of that text, and the digest of the record before it for the same
run.  The listing reads each record back and compares its digest, as `_decision_from_row` does.
-/

import CouncilLogic.Store.Columns

namespace CouncilLogic
namespace Runs

open Transaction Columns
open Protocol (field)

/-- A row of `runs`. -/
structure Row where
  id : Str
  createdAt : Stamp
  updatedAt : Stamp
  finishedAt : Option Stamp := none
  status : Str
  question : Str
  questionSha256 : Str
  protocolId : Str
  protocolVersion : Str
  protocolHash : Str
  providerConfigs : Json
  policy : Dict
  requestSha256 : Str
  idempotencyKey : Option Str
  result : Option Dict := none
  resultSha256 : Option Str := none
  error : Option Dict := none
  deriving DecidableEq

/-- A row of `human_decisions`. -/
structure DecisionRow where
  id : ℕ
  runId : Str
  decision : Str
  note : Str
  aggregateOutcome : Json
  aggregateWinner : Json
  resultSha256 : Str
  previousRecordSha256 : Option Str
  recordJson : Str
  recordSha256 : Str
  decidedAt : Stamp
  deriving DecidableEq

/-- The tables.  Decisions and events stand in the order of their ids. -/
structure Tables where
  runs : List Row := []
  decisions : List DecisionRow := []
  events : List EventRow := []
  nextDecisionId : ℕ := 1
  nextEventId : ℕ := 1

/-- A method of the store. -/
abbrev Sql := Transaction Tables PyErr

variable (rt : Runtime)

/-- `_canonical_json` of an object. -/
def canonicalJson (value : Dict) : Str := (Json.canon (.obj value)).dumpsCompact

/-- `_TERMINAL_RUN_STATUSES`. -/
def terminalRunStatuses : List Str :=
  [lit "succeeded", lit "completed", lit "partial", lit "failed", lit "cancelled"]

/-- `HUMAN_DECISIONS`. -/
def humanDecisions : List Str := [lit "accept", lit "reject", lit "defer"]

/-- `HUMAN_DECISION_NOTE_MAX_CHARS`. -/
def humanDecisionNoteMaxChars : ℕ := 4000

namespace Tables

/-- `SELECT * FROM runs WHERE id = ?`. -/
def run (t : Tables) (id : Str) : Option Row := Rows.find Row.id t.runs id

/-- `SELECT * FROM runs WHERE idempotency_key = ?`. -/
def keyed (t : Tables) (key : Str) : Option Row :=
  Rows.find Row.idempotencyKey t.runs (some key)

/-- `SELECT * FROM human_decisions WHERE run_id = ? ORDER BY id`. -/
def decisionsOf (t : Tables) (runId : Str) : List DecisionRow :=
  t.decisions.filter fun d => d.runId = runId

/-- `SELECT record_sha256 FROM human_decisions WHERE run_id = ? ORDER BY id DESC LIMIT 1`. -/
def lastRecordSha256 (t : Tables) (runId : Str) : Option Str :=
  (t.decisionsOf runId).getLast?.map DecisionRow.recordSha256

/-- `UPDATE runs SET ... WHERE id = ?`. -/
def updateRun (id : Str) (f : Row → Row) (t : Tables) : Tables :=
  { t with runs := Rows.change Row.id t.runs id f }

end Tables

/-! ### Creating -/

/-- What a run is created for. -/
structure Request where
  question : Str
  protocolId : Str
  protocolVersion : Str
  protocolHash : Str
  providerConfigs : List Json
  policy : Dict

/-- `request_value`. -/
def Request.value (r : Request) : Dict :=
  [(lit "question", .str r.question),
    (lit "protocol_id", .str r.protocolId),
    (lit "protocol_version", .str r.protocolVersion),
    (lit "protocol_hash", .str r.protocolHash),
    (lit "provider_configs", .arr r.providerConfigs),
    (lit "policy", .obj r.policy)]

/-- The text of which `request_sha256` is the digest. -/
def Request.text (r : Request) : Str := canonicalJson r.value

/-- The checks of `create_run` on what the run is created for. -/
def Request.checks (r : Request) : Except PyErr Unit := do
  Store.requiredText (lit "question") r.question
  Store.requiredText (lit "protocol_id") r.protocolId
  Store.requiredText (lit "protocol_version") r.protocolVersion
  Store.requiredText (lit "protocol_hash") r.protocolHash
  Json.assertNoCredentials rt (lit "$.provider_configs") (.arr r.providerConfigs)
  Json.assertNoCredentials rt (lit "$.policy") (.obj r.policy)
  let _ ← Dict.encode r.value
  .ok ()

/-- `_required_text` of an argument that may be left out. -/
def optionalText (name : Str) : Option Str → Except PyErr Unit
  | none => .ok ()
  | some value => Store.requiredText name value

/-- The row that is inserted. -/
def createdRow (now : Stamp) (id : Str) (request : Request) (idempotencyKey : Option Str) :
    Row where
  id := id
  createdAt := now
  updatedAt := now
  status := lit "created"
  question := request.question
  questionSha256 := rt.sha256 request.question
  protocolId := request.protocolId
  protocolVersion := request.protocolVersion
  protocolHash := request.protocolHash
  providerConfigs := Json.canon (.arr request.providerConfigs)
  policy := request.policy.canon
  requestSha256 := rt.sha256 request.text
  idempotencyKey := idempotencyKey

/-- What `str(uuid.uuid4())` returns: hexadecimal digits and hyphens. -/
structure Uuid where
  text : Str
  nonempty : text ≠ []
  hex : ∀ c ∈ text, c = 45 ∨ 48 ≤ c ∧ c ≤ 57 ∨ 97 ≤ c ∧ c ≤ 102

/-- A call of `create_run`; `uuid` is the id it draws when it is given none. -/
structure CreateCall where
  now : Stamp
  uuid : Uuid
  request : Request
  idempotencyKey : Option Str := none
  runId : Option Str := none

/-- The id that the call looks for first. -/
def CreateCall.id (c : CreateCall) : Str := c.runId.getD c.uuid.text

/-- `create_run`, when no run has the id. -/
def createUnknown (c : CreateCall) : Sql Str := do
  let t ← read
  match c.idempotencyKey.bind t.keyed with
  | some r => do
    refuse (r.requestSha256 ≠ rt.sha256 c.request.text)
      (.valueError (lit "idempotency key was already used for another request"))
    refuse (c.runId ≠ none ∧ r.id ≠ c.id)
      (.valueError (lit "idempotency key is already bound to another run_id"))
    pure r.id
  | none => do
    -- neither the id nor the key is taken, so that no constraint fails
    write fun t =>
      { t with runs := t.runs ++ [createdRow rt c.now c.id c.request c.idempotencyKey] }
    pure c.id

/-- `create_run`. -/
def createRun (c : CreateCall) : Sql Str := do
  check (c.request.checks rt)
  check (optionalText (lit "idempotency_key") c.idempotencyKey)
  check (optionalText (lit "run_id") c.runId)
  atomically do
    check (bindTexts [c.id])
    let t ← read
    match t.run c.id with
    | some r => do
      refuse (r.requestSha256 ≠ rt.sha256 c.request.text)
        (.valueError (lit "run_id was already used for another request"))
      pure r.id
    | none => do
      check (bindTexts c.idempotencyKey.toList)
      createUnknown rt c

/-! ### Status and result -/

/-- The text that `_canonical_json` makes of the value of an error, when there is one. -/
def storeError : Option Dict → Except PyErr (Option Dict)
  | none => .ok none
  | some error => (Dict.store rt (lit "$.error") error).map some

/-- `set_run_status`, `error` being the value that `_error_value` makes of the error. -/
def setRunStatus (now : Stamp) (runId status : Str) (error : Option Dict) : Sql Unit := do
  check (Store.requiredText (lit "status") status)
  let error ← check (storeError rt error)
  atomically do
    check (bindTexts [status, runId])
    let t ← read
    refuse (t.run runId = none) ⟨.keyError, lit "unknown run: " ++ runId⟩
    write (Tables.updateRun runId fun r => { r with
      status := status
      error := error
      updatedAt := now
      finishedAt := if status ∈ terminalRunStatuses then some now else none })

/-- `result.get("status")`, which must be a terminal status. -/
def resultStatus (result : Dict) : Except PyErr Str :=
  match field result (lit "status") with
  | .str status => do
    Store.requiredText (lit "result.status") status
    if status ∈ terminalRunStatuses then .ok status
    else .error (.valueError (lit "result status must be terminal"))
  | .null | .bool _ | .int _ | .float _ | .arr _ | .obj _ =>
    .error (.valueError (lit "result.status must be a non-empty string"))

/-- `len(result.get("failures") or [])`. -/
def failureCount (result : Dict) : Except PyErr ℕ :=
  match field result (lit "failures") with
  | .arr items => .ok items.length
  | .obj fields => .ok fields.length
  | .str s => .ok s.length
  | .null => .ok 0
  | .bool b => if b = true then .error noLength else .ok 0
  | .int n => if truthy (.int n) = true then .error noLength else .ok 0
  | .float token => if truthy (.float token) = true then .error noLength else .ok 0
where
  noLength : PyErr := .typeError (lit "object has no len()")

/-- `run_finished`. -/
def runFinished : Str := lit "run_finished"

/-- `finish_run`. -/
def finishRun (now : Stamp) (runId : Str) (result : Dict) : Sql Unit := do
  let status ← check (resultStatus result)
  check (Json.assertNoCredentials rt (lit "$.result") (.obj result))
  refuse (Json.dumpableFields result = false) (Json.dumpError (.obj result))
  let failures ← check (failureCount result)
  atomically do
    let value ← check (Dict.encode result)
    check (bindTexts [runId])
    let t ← read
    refuse (t.run runId = none) ⟨.keyError, lit "unknown run: " ++ runId⟩
    write (Tables.updateRun runId fun r => { r with
      result := some value
      resultSha256 := some (rt.sha256 (canonicalJson value))
      status := status
      error := none
      updatedAt := now
      finishedAt := some now })
    write fun t => { t with
      events := t.events ++ [⟨t.nextEventId, runId, runFinished,
        [(lit "failure_count", .int failures), (lit "status", .str status)], now⟩]
      nextEventId := t.nextEventId + 1 }

/-! ### Decisions -/

/-- `result.get("aggregate") or {}`, of which fields are read. -/
def aggregateField (result : Dict) : Except PyErr Dict :=
  match field result (lit "aggregate") with
  | .obj fields => .ok fields
  | value =>
    if truthy value = true then
      .error ⟨.attributeError, lit "object has no attribute 'get'"⟩
    else .ok []

/-- The record of a decision. -/
def decisionRecord (now : Stamp) (runId decision note status : Str) (result aggregate : Dict)
    (previous : Option Str) : Dict :=
  [(lit "run_id", .str runId),
    (lit "decision", .str decision),
    (lit "note", .str note),
    (lit "run_status", .str status),
    (lit "completion_quality", field result (lit "completion_quality")),
    (lit "aggregate_outcome", field aggregate (lit "outcome")),
    (lit "aggregate_winner", field aggregate (lit "winner")),
    (lit "result_sha256", .str (rt.sha256 (canonicalJson result))),
    (lit "previous_record_sha256", optStr previous),
    (lit "decided_at", .str now.text)]

/-- The row of a record. -/
def decisionRow (now : Stamp) (id : ℕ) (runId decision note : Str) (result aggregate record : Dict)
    (previous : Option Str) : DecisionRow where
  id := id
  runId := runId
  decision := decision
  note := note
  aggregateOutcome := field aggregate (lit "outcome")
  aggregateWinner := field aggregate (lit "winner")
  resultSha256 := rt.sha256 (canonicalJson result)
  previousRecordSha256 := previous
  recordJson := canonicalJson record
  recordSha256 := rt.sha256 (canonicalJson record)
  decidedAt := now

/-- The checks of `record_human_decision` on its arguments; it goes on with the note
stripped. -/
def decisionChecks (decision note : Str) : Except PyErr Unit := do
  if decision ∉ humanDecisions then
    .error (.valueError (lit "decision must be one of: " ++ Str.join (lit ", ") humanDecisions))
  if humanDecisionNoteMaxChars < (Str.strip note).length then
    .error (.valueError (lit "decision note must be at most " ++
      Str.ofNat humanDecisionNoteMaxChars ++ lit " characters"))
  Json.assertNoCredentials rt (lit "$.decision") (.obj [(lit "note", .str (Str.strip note))])

/-- `record_human_decision`. -/
def recordHumanDecision (now : Stamp) (runId decision note : Str) : Sql Dict := do
  check (decisionChecks rt decision note)
  atomically do
    check (bindTexts [runId])
    let t ← read
    match t.run runId with
    | none => check (.error ⟨.keyError, lit "unknown run: " ++ runId⟩)
    | some r =>
      match r.result with
      | none | some [] =>
        check (.error
          (.valueError (lit "run has no result yet; resume or wait before deciding")))
      | some result => do
        let aggregate ← check (aggregateField result)
        let previous := t.lastRecordSha256 runId
        let record := decisionRecord rt now runId decision (Str.strip note) r.status result
          aggregate previous
        let _ ← check (Dict.encode record)
        let row := decisionRow rt now t.nextDecisionId runId decision (Str.strip note) result
          aggregate record previous
        check (bindValue row.aggregateOutcome)
        check (bindValue row.aggregateWinner)
        refuse (row.recordSha256 ∈ t.decisions.map DecisionRow.recordSha256)
          ⟨.integrityError, lit "UNIQUE constraint failed: human_decisions.record_sha256"⟩
        write fun t => { t with
          decisions := t.decisions ++ [row]
          nextDecisionId := t.nextDecisionId + 1 }
        pure ((lit "id", .int row.id) :: record ++ [(lit "record_sha256", .str row.recordSha256)])

/-! ### The listing -/

/-- An entry of `list_human_decisions`, `loads` being `json.loads`. -/
def decisionFromRow (loads : Str → Except PyErr Json) (row : DecisionRow) : Except PyErr Dict := do
  match ← loads row.recordJson with
  | .obj record =>
    let listed := Dict.update [(lit "id", .int row.id)] record
    .ok (Dict.set (Dict.set listed (lit "record_sha256") (.str row.recordSha256))
      (lit "hash_verified") (.bool (decide (rt.sha256 row.recordJson = row.recordSha256))))
  | _ => .error (.typeError (lit "object is not a mapping"))

/-- `list_human_decisions`. -/
def listHumanDecisions (loads : Str → Except PyErr Json) (runId : Str) : Sql (List Dict) := do
  check (bindTexts [runId])
  let t ← read
  check ((t.decisionsOf runId).mapM (decisionFromRow rt loads))

end Runs
end CouncilLogic
