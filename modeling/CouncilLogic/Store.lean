/-
# The durable record of one run

`CouncilStore` of `store.py`, as far as one run is concerned: its row in `runs`,
its rows in `invocations` (one for each stage and provider) and its `events`.
Every public method is one transaction: it either returns the store after all its
statements, or raises and leaves the store as it was.

JSON columns are read back with sorted keys, so what a method stores is the
`canon` of what it was given.  Time stamps and the digests nothing compares are
left out; row ids are drawn from a counter, as `uuid4` never repeats one.

`CouncilLogic.Store.Columns` models the same methods of `src/model_council/store.py` column by
column, for the claims about what exactly is written back; `CouncilLogic.Store.ColumnLaws` shows
that both accept the same responses and the same errors for a running row.  What an invocation has
come to is one value here (`InvocationState`), so that a row which is running and has a response,
or has failed without an error, cannot be built.
-/

import CouncilLogic.Lib.Rows
import CouncilLogic.Models

namespace CouncilLogic

/-- `runs.status`. -/
inductive RunStatus
  | created
  | running
  | completed
  | partialResult
  | failed
  deriving DecidableEq, Repr

def RunStatus.name : RunStatus → Str
  | .created => lit "created"
  | .running => lit "running"
  | .completed => lit "completed"
  | .partialResult => lit "partial"
  | .failed => lit "failed"

/-- The columns of `runs` that `create_run` writes once. -/
structure RunSpec where
  id : Str
  question : Str
  protocolHash : Str
  config : RunConfig
  deriving DecidableEq

/-- The row of a run: what `create_run` locked, and how far it got. -/
structure RunRow where
  spec : RunSpec
  status : RunStatus := .created
  result : Option Dict := none

/-- The columns of an invocation that depend on its status. -/
inductive InvocationState
  | running
  | succeeded (response : ProviderResponse)
  | failed (error : ProviderError)
  deriving DecidableEq

/-- A row of `invocations`. -/
structure Invocation where
  id : ℕ
  stage : Stage
  provider : Str
  model : Str
  lineage : Str
  promptText : Str
  promptSha256 : Str
  state : InvocationState
  callCount : ℕ
  deriving DecidableEq

/-- The stage and the provider of a row; no two rows of a run share both. -/
def Invocation.slot (r : Invocation) : Stage × Str := (r.stage, r.provider)

/-- `status == "failed" and error_ambiguous`. -/
def Invocation.failedAmbiguous (r : Invocation) : Bool :=
  match r.state with
  | .failed e => e.ambiguous
  | .running | .succeeded _ => false

/-- `record["error"]` of a failed row, as it is read back. -/
def ProviderError.stored (e : ProviderError) : Dict := Dict.canon e.toDict

/-- `events.event_type`. -/
inductive EventType
  | runStarted
  | workloadPreflight
  | untrustedMarker
  | providerRetryStarted
  | providerCallNotDispatched
  | truncatedResponsePreserved
  | incompleteResponsePreserved
  | truncationRecovery
  | juryArtifactRepair
  | candidateNamespaceLocked
  | adjudicationLocked
  | synthesisFallbackAdvanced
  | runFinished
  deriving DecidableEq, Repr

/-- A row of `events`. -/
structure Event where
  type : EventType
  payload : Dict
  deriving DecidableEq

/-- The rows of one run. -/
structure Store where
  run : RunRow
  invocations : List Invocation := []
  events : List Event := []
  nextId : ℕ := 0

namespace Store

variable (rt : Runtime)

/-! ### Reading -/

/-- The row of a slot. -/
def slot (st : Store) (stage : Stage) (provider : Str) : Option Invocation :=
  Rows.find Invocation.slot st.invocations (stage, provider)

/-- `get_invocation`. -/
def getInvocation (st : Store) (id : ℕ) : Option Invocation :=
  Rows.find Invocation.id st.invocations id

/-- `get_successful_invocation`: the response of a succeeded slot. -/
def successful (st : Store) (stage : Stage) (provider : Str) : Option ProviderResponse :=
  match st.slot stage provider with
  | some r =>
    match r.state with
    | .succeeded response => some response
    | .running | .failed _ => none
  | none => none

/-- `count_calls`. -/
def countCalls (st : Store) : ℕ := (st.invocations.map Invocation.callCount).sum

/-- The events of one type, in order. -/
def eventsOf (st : Store) (type : EventType) : List Event :=
  st.events.filter fun e => e.type = type

/-! ### Runs and events -/

/-- `append_event`. -/
def appendEvent (st : Store) (type : EventType) (payload : Dict) : Except PyErr Store := do
  let payload ← Dict.store rt (lit "$.event") payload
  .ok { st with events := st.events ++ [⟨type, payload⟩] }

/-- `set_run_status(run_id, status)`. -/
def setRunStatus (st : Store) (status : RunStatus) : Store :=
  { st with run := { st.run with status := status } }

/-- `finish_run`: the result, its status and the audit event in one transaction. -/
def finishRun (st : Store) (status : RunStatus) (failureCount : ℕ) (result : Dict) :
    Except PyErr Store := do
  let result ← Dict.store rt (lit "$.result") result
  let event : Dict :=
    [(lit "status", .str status.name), (lit "failure_count", .int failureCount)]
  .ok { st with
    run := { st.run with status := status, result := some result }
    events := st.events ++ [⟨.runFinished, event.canon⟩] }

/-! ### Invocations -/

/-- `_required_text`. -/
def requiredText (name value : Str) : Except PyErr Unit :=
  if Str.isBlank value then .error (.valueError (name ++ lit " must be a non-empty string"))
  else .ok ()

/-- Replace the rows with an id. -/
def updateInvocation (st : Store) (id : ℕ) (f : Invocation → Invocation) : Store :=
  { st with invocations := Rows.change Invocation.id st.invocations id f }

/-- `(finish_reason=length)` at the end of an error message. -/
def lengthSuffix : Str := lit "(finish_reason=length)"

/-- `retry_kind` of a prior failure. -/
def retryKind (message : Str) : Str :=
  if lengthSuffix <:+ message then lit "truncation" else lit "application"

/-- Payload of `provider_retry_started`. -/
def retryEvent (stage : Stage) (provider : Str) (callCount : ℕ) (prior : ProviderError) : Dict :=
  [(lit "stage", .str stage.name),
    (lit "provider", .str provider),
    (lit "retry_call_count", .int callCount),
    (lit "retry_kind", .str (retryKind prior.message)),
    (lit "prior_failure", .obj prior.stored)]

/-- `start_invocation`: a new row, a failed row set running again with its prior
failure in the audit log, or the id of a row that is running or has succeeded. -/
def startInvocation (st : Store) (stage : Stage) (provider model lineage prompt : Str) :
    Except PyErr (ℕ × Store) := do
  requiredText (lit "provider") provider
  requiredText (lit "model") model
  requiredText (lit "lineage") lineage
  requiredText (lit "prompt") prompt
  if Str.encodable prompt = false then
    .error ⟨.unicodeEncodeError, lit "surrogates not allowed"⟩
  match st.slot stage provider with
  | none =>
    .ok (st.nextId, { st with
      invocations := st.invocations ++
        [⟨st.nextId, stage, provider, model, lineage, prompt, rt.sha256 prompt, .running, 1⟩]
      nextId := st.nextId + 1 })
  | some r =>
    if r.model ≠ model ∨ r.lineage ≠ lineage ∨ r.promptSha256 ≠ rt.sha256 prompt then
      .error (.valueError
        (lit "stage/provider invocation already exists with different input"))
    else
      match r.state with
      | .running | .succeeded _ => .ok (r.id, st)
      | .failed prior =>
        .ok (r.id, { st.updateInvocation r.id fun r =>
              { r with state := .running, callCount := r.callCount + 1 } with
            events := st.events ++
              [⟨.providerRetryStarted,
                Dict.canon (retryEvent stage provider (r.callCount + 1) prior)⟩] })

/-- The response as it is read back: its metadata has sorted keys. -/
def storedResponse (response : ProviderResponse) : ProviderResponse :=
  { response with metadata := Dict.canon response.metadata }

/-- SQLite holds integers of 64 bits. -/
def HoldsInteger (n : ℤ) : Prop := -2 ^ 63 ≤ n ∧ n < 2 ^ 63

instance (n : ℤ) : Decidable (HoldsInteger n) := inferInstanceAs (Decidable (_ ∧ _))

/-- An integer is bound to a column. -/
def bindInteger (n : ℤ) : Except PyErr Unit :=
  if HoldsInteger n then .ok ()
  else .error ⟨.overflowError, lit "Python int too large to convert to SQLite INTEGER"⟩

/-- `finish_invocation_success`. -/
def finishInvocationSuccess (st : Store) (id : ℕ) (response : ProviderResponse) :
    Except PyErr Store := do
  Json.assertNoCredentials rt (lit "$.response.metadata") (.obj response.metadata)
  let value ← Dict.encode response.toDict
  match st.getInvocation id with
  | none => .error ⟨.keyError, lit "unknown invocation: " ++ Str.ofNat id⟩
  | some r =>
    match r.state with
    | .succeeded prior =>
      if Dict.canon prior.toDict ≠ value then
        .error (.valueError (lit "invocation already has a different successful response"))
      else .ok st
    | .failed _ =>
      .error (.runtimeError (lit "failed invocation must be restarted before success"))
    | .running => do
      [response.latencyMs, response.attempts].forM bindInteger
      .ok (st.updateInvocation id fun r =>
        { r with state := .succeeded (storedResponse response) })

/-- `finish_invocation_failure`. -/
def finishInvocationFailure (st : Store) (id : ℕ) (error : ProviderError) :
    Except PyErr Store := do
  let value ← Dict.store rt (lit "$.provider_error") error.toDict
  match st.getInvocation id with
  | none => .error ⟨.keyError, lit "unknown invocation: " ++ Str.ofNat id⟩
  | some r =>
    match r.state with
    | .failed prior =>
      if prior.stored ≠ value then
        .error (.valueError (lit "invocation already has a different failure"))
      else .ok st
    | .succeeded _ =>
      .error (.runtimeError (lit "successful invocation cannot be overwritten by failure"))
    | .running => do
      (error.attempts :: error.statusCode.toList).forM bindInteger
      .ok (st.updateInvocation id fun r => { r with state := .failed error })

/-! ### Releasing a call that was not made -/

/-- The event is the retry audit of the slot's `callCount`-th call. -/
def isRetryOf (stage : Stage) (provider : Str) (callCount : ℕ) (e : Event) : Bool :=
  e.type = .providerRetryStarted &&
    e.payload.get? (lit "stage") = some (.str stage.name) &&
    e.payload.get? (lit "provider") = some (.str provider) &&
    e.payload.get? (lit "retry_call_count") = some (.int callCount)

/-- Payload of `provider_call_not_dispatched`. -/
def notDispatchedEvent (r : Invocation) (error : ProviderError) (reservationAttempt : ℤ)
    (prior : Option (ℕ × Str × ProviderError)) : Dict :=
  [(lit "version", .int 1),
    (lit "invocation_id", .str (Str.ofNat r.id)),
    (lit "stage", .str r.stage.name),
    (lit "provider", .str r.provider),
    (lit "model", .str r.model),
    (lit "lineage", .str r.lineage),
    (lit "prompt_sha256", .str r.promptSha256),
    (lit "reservation_attempt", .int reservationAttempt),
    (lit "attempted_call_count", .int r.callCount),
    (lit "restored_call_count", .int ((prior.map Prod.fst).getD 0)),
    (lit "retry_kind", optStr (prior.map fun p => p.2.1)),
    (lit "prior_failure", (prior.map fun p => Json.obj p.2.2.stored).getD .null),
    (lit "error", .obj error.toDict)]

/-- The prior failure of a row that is released: it is the state just before the
running one, and its retry has exactly one audit event. -/
def priorOfRelease (st : Store) (r prior : Invocation) :
    Except PyErr (ℕ × Str × ProviderError) :=
  if prior.id ≠ r.id ∨ prior.stage ≠ r.stage ∨ prior.provider ≠ r.provider ∨
      prior.model ≠ r.model ∨ prior.lineage ≠ r.lineage ∨ prior.promptText ≠ r.promptText ∨
      prior.promptSha256 ≠ r.promptSha256 then
    .error (.valueError (lit "prior invocation does not match the running slot"))
  else
    match prior.state with
    | .running | .succeeded _ =>
      .error (.valueError
        (lit "prior invocation is not the immediately preceding failed state"))
    | .failed e =>
      if prior.callCount < 1 ∨ prior.callCount + 1 ≠ r.callCount then
        .error (.valueError
          (lit "prior invocation is not the immediately preceding failed state"))
      else if e.ambiguous then
        .error (.valueError (lit "prior invocation failure fields are inconsistent"))
      else
        match st.events.filter (isRetryOf r.stage r.provider r.callCount) with
        | [event] =>
          if event.payload.get? (lit "prior_failure") ≠ some (.obj e.stored) then
            .error (.valueError (lit "retry audit does not match the prior invocation"))
          else
            match event.payload.get? (lit "retry_kind") with
            | some (.str kind) =>
              if kind = lit "application" ∨ kind = lit "truncation" then
                .ok (prior.callCount, kind, e)
              else .error (.valueError (lit "retry audit kind is invalid"))
            | _ => .error (.valueError (lit "retry audit kind is invalid"))
        | _ => .error (.runtimeError (lit "undispatched retry has no unique retry audit event"))

/-- `release_undispatched_invocation`: record that the call was not made and
restore the slot: to its prior failure, without the retry event, or to nothing. -/
def releaseUndispatchedInvocation (st : Store) (id : ℕ) (error : ProviderError)
    (reservationAttempt : ℤ) (prior : Option Invocation) : Except PyErr Store :=
  if error.ambiguous then
    .error (.valueError (lit "undispatched invocation error must be unambiguous"))
  else if reservationAttempt < 1 then
    .error (.valueError (lit "reservation_attempt must be a positive integer"))
  else
    match st.getInvocation id with
    | none => .error ⟨.keyError, lit "unknown invocation: " ++ Str.ofNat id⟩
    | some r =>
      if r.state ≠ .running then
        .error (.runtimeError
          (lit "only a running invocation can be released as undispatched"))
      else if reservationAttempt < r.callCount then
        .error (.valueError (lit "reservation_attempt precedes the logical call count"))
      else
        match prior with
        | none =>
          if r.callCount ≠ 1 then
            .error (.runtimeError
              (lit "a retried invocation requires its prior failed state"))
          else do
            let event ← Dict.store rt (lit "$.undispatched_call")
              (notDispatchedEvent r error reservationAttempt none)
            .ok { st with
              invocations := st.invocations.filter fun r => r.id ≠ id
              events := st.events ++ [⟨.providerCallNotDispatched, event⟩] }
        | some prior => do
          let (callCount, kind, e) ← priorOfRelease st r prior
          let event ← Dict.store rt (lit "$.undispatched_call")
            (notDispatchedEvent r error reservationAttempt (some (callCount, kind, e)))
          .ok { st.updateInvocation id fun r =>
                { r with state := .failed e, callCount := callCount } with
              events :=
                (st.events.filter fun e => !isRetryOf r.stage r.provider r.callCount e) ++
                  [⟨.providerCallNotDispatched, event⟩] }

end Store

end CouncilLogic
