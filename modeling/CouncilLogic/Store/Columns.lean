/-
# The columns of an invocation

`Store` keeps what came of an invocation as one value.  The table keeps it in sixteen
columns, and `release_undispatched_invocation` writes them back from the dictionary that
`_invocation_from_row` once made of them.  This is the table as the methods of `store.py`
read and write it: every statement in its order, inside a transaction that is rolled back
when one of them raises.

A JSON column holds the value that its text decodes to, keys sorted; other columns hold
what SQLite is given, a text, an integer or NULL.  The digests of events are left out.

The types are SQLite's as the source uses them: a JSON column is text or NULL, a flag is an
integer, and an integer beyond 64 bits is an `OverflowError` when it is bound (`bindValue`).
Nothing here refers to the engine; who calls the methods and when is `CouncilLogic.Engine.Pool`.
-/

import CouncilLogic.Lib.Transaction
import CouncilLogic.Protocol.Parse
import CouncilLogic.Store

namespace CouncilLogic
namespace Columns

open Transaction
open Protocol (field)

/-- `invocations.status`. -/
inductive Status
  | running
  | succeeded
  | failed
  deriving DecidableEq, Repr

def Status.name : Status → Str
  | .running => lit "running"
  | .succeeded => lit "succeeded"
  | .failed => lit "failed"

/-- The columns that a call fills in. -/
structure Outcome where
  responseText : Json := .null
  responseSha256 : Json := .null
  responseJson : Option Json := none
  resolvedModel : Json := .null
  requestId : Json := .null
  usageJson : Option Json := none
  latencyMs : Json := .null
  attempts : Json := .null
  finishReason : Json := .null
  metadataJson : Option Json := none
  errorCategory : Json := .null
  errorMessage : Json := .null
  errorRetryable : Json := .null
  errorStatusCode : Json := .null
  errorAmbiguous : Json := .null
  errorJson : Option Json := none
  deriving DecidableEq

/-- A row of `invocations`. -/
structure Row where
  id : Str
  runId : Str
  stage : Str
  provider : Str
  model : Str
  lineage : Str
  status : Status
  promptText : Str
  promptSha256 : Str
  outcome : Outcome := {}
  callCount : ℕ := 1
  startedAt : Json
  updatedAt : Json
  finishedAt : Json := .null
  deriving DecidableEq

/-- The columns of which no two rows share all. -/
def Row.slot (r : Row) : Str × Str × Str := (r.runId, r.stage, r.provider)

/-- What `_utc_now` returns: a text in ASCII. -/
structure Stamp where
  text : Str
  ascii : ∀ c ∈ text, c < 128
  deriving DecidableEq

/-- A row of `events`. -/
structure EventRow where
  id : ℕ
  runId : Str
  type : Str
  payload : Dict
  createdAt : Stamp
  deriving DecidableEq

/-- The tables: the ids of `runs`, and the rows of the two tables that refer to them. -/
structure Tables where
  runs : List Str := []
  invocations : List Row := []
  events : List EventRow := []
  nextEventId : ℕ := 1

/-- A method of the store. -/
abbrev Sql := Transaction Tables PyErr

variable (rt : Runtime)

namespace Tables

/-- The row of a slot. -/
def slot (t : Tables) (runId stage provider : Str) : Option Row :=
  Rows.find Row.slot t.invocations (runId, stage, provider)

/-- `SELECT * FROM invocations WHERE id = ?`. -/
def invocation (t : Tables) (id : Str) : Option Row := Rows.find Row.id t.invocations id

/-- `count_calls`. -/
def countCalls (t : Tables) (runId : Str) : ℕ :=
  ((t.invocations.filter fun r => r.runId = runId).map Row.callCount).sum

/-- `INSERT INTO events`. -/
def insertEvent (runId type : Str) (payload : Dict) (now : Stamp) (t : Tables) : Tables :=
  { t with
    events := t.events ++ [⟨t.nextEventId, runId, type, payload, now⟩]
    nextEventId := t.nextEventId + 1 }

/-- `UPDATE invocations SET ... WHERE id = ?`. -/
def updateRow (id : Str) (f : Row → Row) (t : Tables) : Tables :=
  { t with invocations := Rows.change Row.id t.invocations id f }

end Tables

/-! ### Binding -/

/-- A text that SQLite takes. -/
def bindTexts (texts : List Str) : Except PyErr Unit :=
  if texts.all Str.encodable then .ok ()
  else .error ⟨.unicodeEncodeError, lit "surrogates not allowed"⟩

/-- A value that SQLite takes: an integer of 64 bits, a UTF-8 text, a number or NULL. -/
def bindValue : Json → Except PyErr Unit
  | .null | .bool _ | .float _ => .ok ()
  | .int n => Store.bindInteger n
  | .str s => bindTexts [s]
  | .arr _ | .obj _ => .error ⟨.interfaceError, lit "Error binding parameter"⟩

/-- `_canonical_json(value)`, bound. -/
def bindJson (value : Json) : Except PyErr Unit :=
  if Json.dumpable value = false then .error (Json.dumpError value)
  else if Json.encodable value = false then
    .error ⟨.unicodeEncodeError, lit "surrogates not allowed"⟩
  else .ok ()

/-- The columns of an outcome, bound. -/
def bindOutcome (o : Outcome) : Except PyErr Unit := do
  [o.responseJson, o.usageJson, o.metadataJson, o.errorJson].forM fun
    | some value => bindJson value
    | none => .ok ()
  [o.responseText, o.responseSha256, o.resolvedModel, o.requestId, o.latencyMs, o.attempts,
    o.finishReason, o.errorCategory, o.errorMessage, o.errorRetryable, o.errorStatusCode,
    o.errorAmbiguous].forM bindValue

/-- A boolean is bound as an integer. -/
def bound : Json → Json
  | .bool b => .int (if b then 1 else 0)
  | value => value

/-- `bool(value)`. -/
def truthy : Json → Bool
  | .null => false
  | .bool b => b
  | .int n => decide (n ≠ 0)
  | .float token => !(token == lit "0.0" || token == lit "-0.0")
  | .str s => !s.isEmpty
  | .arr items => !items.isEmpty
  | .obj fields => !fields.isEmpty

/-! ### Reading -/

/-- `_decode_json(value, default)`. -/
def decodeJson (value : Option Json) (default : Json) : Json := value.getD default

/-- A nullable flag, as it is read back. -/
def flag (value : Json) : Json := if value = .null then .null else .bool (truthy value)

/-- `_invocation_from_row`. -/
def invocationFromRow (r : Row) : Dict :=
  [(lit "id", .str r.id),
    (lit "invocation_id", .str r.id),
    (lit "run_id", .str r.runId),
    (lit "stage", .str r.stage),
    (lit "provider", .str r.provider),
    (lit "model", .str r.model),
    (lit "lineage", .str r.lineage),
    (lit "status", .str r.status.name),
    (lit "prompt_text", .str r.promptText),
    (lit "prompt_sha256", .str r.promptSha256),
    (lit "response_text", r.outcome.responseText),
    (lit "response_sha256", r.outcome.responseSha256),
    (lit "response", decodeJson r.outcome.responseJson .null),
    (lit "resolved_model", r.outcome.resolvedModel),
    (lit "request_id", r.outcome.requestId),
    (lit "usage", decodeJson r.outcome.usageJson (.obj [])),
    (lit "latency_ms", r.outcome.latencyMs),
    (lit "attempts", r.outcome.attempts),
    (lit "finish_reason", r.outcome.finishReason),
    (lit "metadata", decodeJson r.outcome.metadataJson (.obj [])),
    (lit "error_category", r.outcome.errorCategory),
    (lit "error_message", r.outcome.errorMessage),
    (lit "error_retryable", flag r.outcome.errorRetryable),
    (lit "error_status_code", r.outcome.errorStatusCode),
    (lit "error_ambiguous", flag r.outcome.errorAmbiguous),
    (lit "error", decodeJson r.outcome.errorJson .null),
    (lit "call_count", .int r.callCount),
    (lit "started_at", r.startedAt),
    (lit "updated_at", r.updatedAt),
    (lit "finished_at", r.finishedAt)]

/-- The columns of a row that no method changes. -/
def immutableFields (r : Row) : Dict :=
  [(lit "id", .str r.id),
    (lit "run_id", .str r.runId),
    (lit "stage", .str r.stage),
    (lit "provider", .str r.provider),
    (lit "model", .str r.model),
    (lit "lineage", .str r.lineage),
    (lit "prompt_text", .str r.promptText),
    (lit "prompt_sha256", .str r.promptSha256)]

/-! ### Starting -/

/-- `provider_retry_started`. -/
def retryStarted : Str := lit "provider_retry_started"

/-- The error of a failed row, from its columns when there is no JSON. -/
def priorFailure (o : Outcome) : Json :=
  decodeJson o.errorJson (.obj
    [(lit "message", o.errorMessage),
      (lit "category", o.errorCategory),
      (lit "retryable", .bool (truthy o.errorRetryable)),
      (lit "status_code", o.errorStatusCode),
      (lit "request_id", o.requestId),
      (lit "attempts", o.attempts),
      (lit "ambiguous", .bool (truthy o.errorAmbiguous))])

/-- `str(prior_failure.get("message") or "")`; what is not a text cannot end in
`(finish_reason=length)`. -/
def messageText : Json → Str
  | .str s => s
  | _ => []

/-- The payload of the retry audit of a row. -/
def retryEvent (r : Row) : Except PyErr Dict :=
  match priorFailure r.outcome with
  | .obj failure => Dict.encode
    [(lit "stage", .str r.stage),
      (lit "provider", .str r.provider),
      (lit "retry_call_count", .int (r.callCount + 1 : ℕ)),
      (lit "retry_kind", .str (Store.retryKind (messageText (field failure (lit "message"))))),
      (lit "prior_failure", .obj failure)]
  | _ => .error ⟨.attributeError, lit "object has no attribute 'get'"⟩

/-- The row of a slot that is started again. -/
def Row.restarted (now : Stamp) (r : Row) : Row :=
  { r with
    status := .running
    outcome := {}
    callCount := r.callCount + 1
    startedAt := .str now.text
    updatedAt := .str now.text
    finishedAt := .null }

/-- The row of a slot that is started for the first time. -/
def startedRow (now : Stamp) (uuid runId stage provider model lineage prompt : Str) : Row where
  id := uuid
  runId := runId
  stage := stage
  provider := provider
  model := model
  lineage := lineage
  status := .running
  promptText := prompt
  promptSha256 := rt.sha256 prompt
  startedAt := .str now.text
  updatedAt := .str now.text

/-- `start_invocation`, `uuid` being the id it would draw. -/
def startInvocation (now : Stamp) (uuid runId stage provider model lineage prompt : Str) :
    Sql Str := do
  check (Store.requiredText (lit "stage") stage)
  check (Store.requiredText (lit "provider") provider)
  check (Store.requiredText (lit "model") model)
  check (Store.requiredText (lit "lineage") lineage)
  check (Store.requiredText (lit "prompt") prompt)
  check (bindTexts [prompt])
  atomically do
    check (bindTexts [runId, stage, provider])
    let t ← read
    refuse (runId ∉ t.runs) ⟨.keyError, lit "unknown run: " ++ runId⟩
    match t.slot runId stage provider with
    | some r => do
      refuse (r.model ≠ model ∨ r.lineage ≠ lineage ∨ r.promptSha256 ≠ rt.sha256 prompt)
        (.valueError (lit "stage/provider invocation already exists with different input"))
      match r.status with
      | .running | .succeeded => pure r.id
      | .failed => do
        let event ← check (retryEvent r)
        write (Tables.insertEvent runId retryStarted event now)
        write (Tables.updateRow r.id (Row.restarted now))
        pure r.id
    | none => do
      check (bindTexts [uuid, model, lineage, rt.sha256 prompt])
      refuse (uuid ∈ t.invocations.map Row.id)
        ⟨.integrityError, lit "UNIQUE constraint failed: invocations.id"⟩
      write fun t => { t with invocations := t.invocations ++
        [startedRow rt now uuid runId stage provider model lineage prompt] }
      pure uuid

/-! ### Finishing -/

/-- The columns of a response, `value` being its dictionary with sorted keys. -/
def responseOutcome (response : ProviderResponse) (value : Dict) : Outcome where
  responseText := .str response.content
  responseSha256 := .str (rt.sha256 response.content)
  responseJson := some (.obj value)
  resolvedModel := .str response.resolvedModel
  requestId := optStr response.requestId
  usageJson := some (.obj (Dict.canon response.usage.toDict))
  latencyMs := .int response.latencyMs
  attempts := .int response.attempts
  finishReason := optStr response.finishReason
  metadataJson := some (.obj (Dict.canon response.metadata))

/-- `finish_invocation_success`. -/
def finishInvocationSuccess (now : Stamp) (id : Str) (response : ProviderResponse) : Sql Unit := do
  check (Json.assertNoCredentials rt (lit "$.response.metadata") (.obj response.metadata))
  let value ← check (Dict.encode response.toDict)
  atomically do
    check (bindTexts [id])
    let t ← read
    match t.invocation id with
    | none => refuse True ⟨.keyError, lit "unknown invocation: " ++ id⟩
    | some r =>
      match r.status with
      | .succeeded =>
        refuse (r.outcome.responseJson ≠ some (.obj value))
          (.valueError (lit "invocation already has a different successful response"))
      | .failed =>
        refuse True (.runtimeError (lit "failed invocation must be restarted before success"))
      | .running => do
        check (bindOutcome (responseOutcome rt response value))
        write (Tables.updateRow id fun r => { r with
          status := .succeeded
          outcome := responseOutcome rt response value
          updatedAt := .str now.text
          finishedAt := .str now.text })

/-- The columns of an error. -/
def failureOutcome (error : ProviderError) : Outcome where
  requestId := optStr error.requestId
  attempts := .int error.attempts
  errorCategory := .str error.category.value
  errorMessage := .str error.message
  errorRetryable := .int (if error.retryable then 1 else 0)
  errorStatusCode := optInt error.statusCode
  errorAmbiguous := .int (if error.ambiguous then 1 else 0)
  errorJson := some (.obj error.stored)

/-- `finish_invocation_failure`. -/
def finishInvocationFailure (now : Stamp) (id : Str) (error : ProviderError) : Sql Unit := do
  let value ← check (Dict.store rt (lit "$.provider_error") error.toDict)
  atomically do
    check (bindTexts [id])
    let t ← read
    match t.invocation id with
    | none => refuse True ⟨.keyError, lit "unknown invocation: " ++ id⟩
    | some r =>
      match r.status with
      | .failed =>
        refuse (r.outcome.errorJson ≠ some (.obj value))
          (.valueError (lit "invocation already has a different failure"))
      | .succeeded =>
        refuse True
          (.runtimeError (lit "successful invocation cannot be overwritten by failure"))
      | .running => do
        check (bindOutcome (failureOutcome error))
        write (Tables.updateRow id fun r => { r with
          status := .failed
          outcome := failureOutcome error
          updatedAt := .str now.text
          finishedAt := .str now.text })

/-- `append_event`. -/
def appendEvent (now : Stamp) (runId type : Str) (payload : Dict) : Sql Unit := do
  check (Store.requiredText (lit "event_type") type)
  let payload ← check (Dict.store rt (lit "$.event") payload)
  atomically do
    check (bindTexts [runId, type])
    let t ← read
    refuse (runId ∉ t.runs) ⟨.keyError, lit "unknown run: " ++ runId⟩
    write (Tables.insertEvent runId type payload now)

/-! ### Releasing a call that was not made -/

/-- `provider_call_not_dispatched`. -/
def callNotDispatched : Str := lit "provider_call_not_dispatched"

/-- The event is the audit of the `callCount`-th call of a slot. -/
def isRetryOf (runId stage provider : Str) (callCount : ℕ) (e : EventRow) : Bool :=
  decide (e.runId = runId) && decide (e.type = retryStarted) &&
    decide (e.payload.get? (lit "stage") = some (.str stage)) &&
    decide (e.payload.get? (lit "provider") = some (.str provider)) &&
    decide (e.payload.get? (lit "retry_call_count") = some (.int callCount))

/-- What a release restores: the error and the call count of the prior state, without
the audit of its retry. -/
structure Prior where
  eventId : ℕ
  retryKind : Str
  failure : Dict
  callCount : ℕ

/-- The error columns of a prior invocation are those of its error. -/
def failureConsistent (prior failure : Dict) : Bool :=
  decide (field prior (lit "error_ambiguous") = .bool false) &&
    decide (field failure (lit "ambiguous") = .bool false) &&
    [(lit "error_message", lit "message"), (lit "error_category", lit "category"),
      (lit "error_retryable", lit "retryable"), (lit "error_status_code", lit "status_code"),
      (lit "request_id", lit "request_id"), (lit "attempts", lit "attempts")].all fun f =>
        Json.same (field prior f.1) (field failure f.2)

/-- The audit of the retry that is released: there is one, and it names the prior error. -/
def retryAudit (t : Tables) (r : Row) (failure : Dict) : Except PyErr (ℕ × Str) :=
  match t.events.filter (isRetryOf r.runId r.stage r.provider r.callCount) with
  | [e] =>
    if Json.same (field e.payload (lit "prior_failure")) (.obj failure) = false then
      .error (.valueError (lit "retry audit does not match the prior invocation"))
    else
      match field e.payload (lit "retry_kind") with
      | .str kind =>
        if kind = lit "application" ∨ kind = lit "truncation" then .ok (e.id, kind)
        else .error (.valueError (lit "retry audit kind is invalid"))
      | _ => .error (.valueError (lit "retry audit kind is invalid"))
  | _ => .error (.runtimeError (lit "undispatched retry has no unique retry audit event"))

/-- The checks of a prior invocation against the running row. -/
def checkPrior (t : Tables) (r : Row) (prior : Dict) : Except PyErr Prior := do
  if (immutableFields r).any fun f => decide (field prior f.1 ≠ f.2) then
    .error (.valueError (lit "prior invocation does not match the running slot"))
  match field prior (lit "call_count") with
  | .int n =>
    if field prior (lit "status") ≠ .str Status.failed.name ∨ n < 1 ∨ n + 1 ≠ r.callCount then
      .error (.valueError
        (lit "prior invocation is not the immediately preceding failed state"))
    match field prior (lit "error") with
    | .obj failure => do
      Json.assertNoCredentials rt (lit "$.prior_failure") (.obj failure)
      if failureConsistent prior failure = false then
        .error (.valueError (lit "prior invocation failure fields are inconsistent"))
      let (eventId, kind) ← retryAudit t r failure
      .ok ⟨eventId, kind, failure, n.toNat⟩
    | _ => .error (.valueError (lit "prior invocation failure is malformed"))
  | _ =>
    .error (.valueError (lit "prior invocation is not the immediately preceding failed state"))

/-- Payload of `provider_call_not_dispatched`. -/
def notDispatchedEvent (r : Row) (error : ProviderError) (reservationAttempt : ℤ)
    (prior : Option Prior) : Dict :=
  [(lit "version", .int 1),
    (lit "invocation_id", .str r.id),
    (lit "stage", .str r.stage),
    (lit "provider", .str r.provider),
    (lit "model", .str r.model),
    (lit "lineage", .str r.lineage),
    (lit "prompt_sha256", .str r.promptSha256),
    (lit "reservation_attempt", .int reservationAttempt),
    (lit "attempted_call_count", .int r.callCount),
    (lit "restored_call_count", .int (((prior.map Prior.callCount).getD 0 : ℕ) : ℤ)),
    (lit "retry_kind", optStr (prior.map Prior.retryKind)),
    (lit "prior_failure", (prior.map fun p => Json.obj p.failure).getD .null),
    (lit "error", .obj error.toDict)]

/-- A JSON column of a prior invocation: NULL when its value is empty. -/
def restoredJson (value : Json) : Option Json :=
  if truthy value = false then none else some (Json.canon value)

/-- The columns of a prior invocation. -/
def restoredOutcome (prior failure : Dict) : Outcome where
  responseText := bound (field prior (lit "response_text"))
  responseSha256 := bound (field prior (lit "response_sha256"))
  responseJson :=
    if field prior (lit "response") = .null then none
    else some (Json.canon (field prior (lit "response")))
  resolvedModel := bound (field prior (lit "resolved_model"))
  requestId := bound (field prior (lit "request_id"))
  usageJson := restoredJson (field prior (lit "usage"))
  latencyMs := bound (field prior (lit "latency_ms"))
  attempts := bound (field prior (lit "attempts"))
  finishReason := bound (field prior (lit "finish_reason"))
  metadataJson := restoredJson (field prior (lit "metadata"))
  errorCategory := bound (field prior (lit "error_category"))
  errorMessage := bound (field prior (lit "error_message"))
  errorRetryable := .int (if truthy (field prior (lit "error_retryable")) then 1 else 0)
  errorStatusCode := bound (field prior (lit "error_status_code"))
  errorAmbiguous := .int (if truthy (field prior (lit "error_ambiguous")) then 1 else 0)
  errorJson := some (.obj (Dict.canon failure))

/-- The times of a prior invocation, bound; the first two columns are `NOT NULL`. -/
def bindTimes (prior : Dict) : Except PyErr Unit := do
  [field prior (lit "started_at"), field prior (lit "updated_at"),
    field prior (lit "finished_at")].forM bindValue
  if field prior (lit "started_at") = .null ∨ field prior (lit "updated_at") = .null then
    .error ⟨.integrityError, lit "NOT NULL constraint failed"⟩

/-- The row of a slot that is given its prior state back. -/
def Row.restored (prior : Dict) (p : Prior) (r : Row) : Row :=
  { r with
    status := .failed
    outcome := restoredOutcome prior p.failure
    callCount := p.callCount
    startedAt := bound (field prior (lit "started_at"))
    updatedAt := bound (field prior (lit "updated_at"))
    finishedAt := bound (field prior (lit "finished_at")) }

/-- `DELETE FROM events WHERE id = ?`. -/
def Tables.deleteEvent (eventId : ℕ) (t : Tables) : Tables :=
  { t with events := t.events.filter fun e => e.id ≠ eventId }

/-- `DELETE FROM invocations WHERE id = ?`. -/
def Tables.deleteRow (id : Str) (t : Tables) : Tables :=
  { t with invocations := t.invocations.filter fun r => r.id ≠ id }

/-- `release_undispatched_invocation`: record that the call was not made and restore the
slot, to the prior state that is given or to nothing.  The row it deletes or updates is
the running one it has read, in the same transaction. -/
def releaseUndispatchedInvocation (now : Stamp) (id : Str) (error : ProviderError)
    (reservationAttempt : ℤ) (priorInvocation : Option Dict) : Sql Unit := do
  refuse (error.ambiguous = true)
    (.valueError (lit "undispatched invocation error must be unambiguous"))
  refuse (reservationAttempt < 1)
    (.valueError (lit "reservation_attempt must be a positive integer"))
  check (Json.assertNoCredentials rt (lit "$.provider_error") (.obj error.toDict))
  atomically do
    check (bindTexts [id])
    let t ← read
    match t.invocation id with
    | none => refuse True ⟨.keyError, lit "unknown invocation: " ++ id⟩
    | some r => do
      refuse (r.status ≠ .running)
        (.runtimeError (lit "only a running invocation can be released as undispatched"))
      refuse (reservationAttempt < r.callCount)
        (.valueError (lit "reservation_attempt precedes the logical call count"))
      match priorInvocation with
      | none => do
        refuse (r.callCount ≠ 1)
          (.runtimeError (lit "a retried invocation requires its prior failed state"))
        let event ← check (Dict.store rt (lit "$.undispatched_call")
          (notDispatchedEvent r error reservationAttempt none))
        write (Tables.insertEvent r.runId callNotDispatched event now)
        write (Tables.deleteRow id)
      | some prior => do
        let p ← check (checkPrior rt t r prior)
        let event ← check (Dict.store rt (lit "$.undispatched_call")
          (notDispatchedEvent r error reservationAttempt (some p)))
        write (Tables.insertEvent r.runId callNotDispatched event now)
        write (Tables.deleteEvent p.eventId)
        check (bindOutcome (restoredOutcome prior p.failure))
        check (bindTimes prior)
        write (Tables.updateRow id (Row.restored prior p))

end Columns
end CouncilLogic
