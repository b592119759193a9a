/-
# One stage: selecting the slots and budgeting the calls

`_run_parallel_stage` up to the point where its thread pool starts.  Every
provider the stage is called for has one slot.  Its row decides what happens to
the slot: a success or a final failure is reported as it is, a row that was left
running becomes an ambiguous failure, and only the rest is work.  Work beyond the
deadline, the prompt limit or the call budget is reported as failed without a
call.

The lines are those of `_run_parallel_stage` in `src/model_council/engine.py` before its executor
is made, and of the second pass for truncated responses, which sorts its slots by the same rules.
-/

import CouncilLogic.Engine.Locks

namespace CouncilLogic

open Protocol

/-- The arguments of `_run_parallel_stage`. -/
structure StageArgs where
  stage : Stage
  prompts : List (Str × PromptPair)
  deadline : ℤ
  allowTruncationRecovery : Bool := true
  outputOverrides : List (Str × ℤ) := []
  providerStage : Stage
  retryFailedInvocations : Bool := true
  preserveIncompleteResponses : Bool := false

/-- What a stage returns: responses, errors and recoveries, by provider in the
order they were found. -/
structure StageResult where
  successes : List (Str × ProviderResponse) := []
  failures : List (Str × Dict) := []
  recoveries : List Dict := []

/-- The failures as the dictionaries the engine keeps. -/
def StageResult.failureDicts (r : StageResult) (stage : Stage) : List Dict :=
  r.failures.map fun f => failureOf stage f.1 f.2

/-- What the first part of a stage reports comes before what the second part reports. -/
def StageResult.append (a b : StageResult) : StageResult :=
  ⟨a.successes ++ b.successes, a.failures ++ b.failures, a.recoveries ++ b.recoveries⟩

/-! ### Reading the record of a slot -/

namespace Store

/-- The event has a payload of the stage and the provider. -/
def eventOfSlot (e : Event) (type : EventType) (stage : Stage) (provider : Str) : Bool :=
  decide (e.type = type) && decide (e.payload.get? (lit "stage") = some (.str stage.name)) &&
    decide (e.payload.get? (lit "provider") = some (.str provider))

/-- The provider has a dispatched recovery on record, or one that was refused. -/
def recordedTruncationRecovery (st : Store) (stage : Stage) (provider : Str) : Bool :=
  st.events.any fun e => eventOfSlot e .truncationRecovery stage provider &&
    decide (e.payload.get? (lit "status") ≠ some (.str (lit "not_dispatched")))

/-- How often the slot was called again after a truncated response. -/
def truncationRetryCount (st : Store) (stage : Stage) (provider : Str) : ℕ :=
  st.events.countP fun e => eventOfSlot e .providerRetryStarted stage provider &&
    decide (e.payload.get? (lit "retry_kind") = some (.str (lit "truncation")))

/-- The output limit of the last truncated response that was preserved. -/
def preservedLimit (st : Store) (stage : Stage) (provider : Str) : Option ℤ :=
  match st.events.reverse.find? fun e => eventOfSlot e .truncatedResponsePreserved stage provider
  with
  | some e =>
    match e.payload.get? (lit "requested_max_output_tokens") with
    | some (.int n) => some n
    | _ => none
  | none => none

/-- How often a call of the slot was recorded as not made. -/
def notDispatchedCount (st : Store) (stage : Stage) (provider : Str) : ℕ :=
  st.events.countP fun e => eventOfSlot e .providerCallNotDispatched stage provider

/-- The provider has a row that is running or has failed ambiguously. -/
def isAmbiguous (st : Store) (provider : Str) : Bool :=
  st.invocations.any fun r => decide (r.provider = provider) &&
    (decide (r.state = .running) || r.failedAmbiguous)

end Store

/-- `_is_length_failure_record`. -/
def isLengthFailure : Option Invocation → Bool
  | some r =>
    match r.state with
    | .failed e => !e.ambiguous && decide (Store.lengthSuffix <:+ e.message)
    | .running | .succeeded _ => false
  | none => false

/-- The stored error of a slot that has failed. -/
def priorError : Option Invocation → Option Dict
  | some r =>
    match r.state with
    | .failed e => some e.stored
    | .running | .succeeded _ => none
  | none => none

/-- `_completion_error(response)`; `none` is an object that is not a response. -/
def completionError : Option ProviderResponse → Option ProviderError
  | none => some {
      message := lit "Provider returned an invalid response object"
      category := .invalidResponse }
  | some response =>
    if response.finishReason = some (lit "stop") then none
    else some {
      message := lit "Provider response did not complete normally" ++
        lit " (finish_reason=" ++ reason response ++ lit ")"
      category :=
        if response.finishReason = some (lit "content_filter") then .contentFilter
        else .invalidResponse
      requestId := response.requestId
      attempts := response.attempts }
where
  /-- `response.finish_reason or "missing"`. -/
  reason (response : ProviderResponse) : Str :=
    match response.finishReason with
    | some (c :: s) => c :: s
    | some [] | none => lit "missing"

/-! ### Selecting the slots -/

/-- The error of a row that an earlier process left running. -/
def priorAmbiguousError : ProviderError where
  message := lit "Prior invocation outcome is ambiguous; automatic retry refused"
  category := .unknown
  ambiguous := true

/-- The error of a slot whose provider is ambiguous elsewhere in the run. -/
def suppressedError : ProviderError where
  message := lit ("Prior provider outcome in this run is ambiguous; " ++
    "later-stage invocation suppressed")
  category := .unknown
  ambiguous := true

/-- The error of a slot whose truncation retries are used up. -/
def exhaustedError (prior : ProviderError) : ProviderError where
  message := lit ("Known output-length recovery is exhausted; " ++
    "automatic retry refused (finish_reason=length)")
  category := .invalidResponse
  requestId := prior.requestId
  attempts := if prior.attempts = 0 then 1 else prior.attempts

/-- `deadline_error`. -/
def deadlineError : ProviderError where
  message := lit "Run deadline exhausted"
  category := .timeout
  retryable := true

/-- What the record of a slot makes of it. -/
inductive Selection
  | succeeded (response : ProviderResponse)
  | failed (error : Dict)
  /-- The row is running, but nobody is behind it. -/
  | settle (id : ℕ)
  | work

/-- The slot selection of `_run_parallel_stage`.  A slot without a row is work
unless its provider is ambiguous; a failed row is work only when it may be retried. -/
def selectSlot (policy : RunPolicy) (args : StageArgs) (st : Store) (name : Str) : Selection :=
  match st.slot args.stage name with
  | none => if st.isAmbiguous name then .failed suppressedError.toDict else .work
  | some r =>
    match r.state with
    | .succeeded response =>
      match completionError (some response) with
      | some e => .failed e.toDict
      | none => .succeeded response
    | .running => .settle r.id
    | .failed e =>
      if e.ambiguous then .failed e.stored
      else if args.retryFailedInvocations = false then .failed e.stored
      else if isLengthFailure (some r) && st.recordedTruncationRecovery args.stage name then
        .failed e.stored
      else if isLengthFailure (some r) &&
          decide (policy.truncationRetries ≤ st.truncationRetryCount args.stage name) then
        .failed (exhaustedError e).toDict
      else if st.isAmbiguous name then .failed suppressedError.toDict
      else .work

/-- The selection loop: the results that need no call, and the work.  `st` is the
store at entry; the only writes of the loop settle rows that were left running. -/
def selectSlots (rt : Runtime) (policy : RunPolicy) (args : StageArgs) (st : Store) :
    List (Str × PromptPair) → M (StageResult × List (Str × PromptPair))
  | [] => pure ({}, [])
  | (name, prompts) :: rest => do
    match selectSlot policy args st name with
    | .succeeded response =>
      let (result, work) ← selectSlots rt policy args st rest
      pure ({ result with successes := (name, response) :: result.successes }, work)
    | .failed error =>
      let (result, work) ← selectSlots rt policy args st rest
      pure ({ result with failures := (name, error) :: result.failures }, work)
    | .settle id =>
      transact fun st => st.finishInvocationFailure rt id priorAmbiguousError
      let (result, work) ← selectSlots rt policy args st rest
      pure ({ result with
        failures := (name, priorAmbiguousError.toDict) :: result.failures }, work)
    | .work =>
      let (result, work) ← selectSlots rt policy args st rest
      pure (result, (name, prompts) :: work)

/-! ### Deadline and prompt limit -/

/-- Work that the deadline ends: a failed slot keeps its error. -/
def expiredWork (args : StageArgs) (st : Store) (work : List (Str × PromptPair)) : StageResult where
  failures := work.map fun e =>
    (e.1, (priorError (st.slot args.stage e.1)).getD deadlineError.toDict)

/-- The error of a prompt beyond the limit. -/
def overLimitError (policy : RunPolicy) (prompts : PromptPair) : ProviderError where
  message := lit "Stage prompt exceeds configured workload limit: " ++
    Str.ofNat (combinedPromptChars prompts) ++ lit " > " ++ Str.ofInt policy.maxStagePromptChars
  category := .budget

/-- The prompt is within the limit of the policy. -/
def fitsLimit (policy : RunPolicy) (prompts : PromptPair) : Bool :=
  decide ((combinedPromptChars prompts : ℤ) ≤ policy.maxStagePromptChars)

/-- The prompt limit: the work that is within it. -/
def limitPrompts (policy : RunPolicy) (args : StageArgs) :
    List (Str × PromptPair) → M (StageResult × List (Str × PromptPair))
  | [] => pure ({}, [])
  | (name, prompts) :: rest => do
    if fitsLimit policy prompts then
      let (result, work) ← limitPrompts policy args rest
      pure (result, (name, prompts) :: work)
    else
      emit fun _ => .overLimit args.stage name
      let (result, work) ← limitPrompts policy args rest
      pure ({ result with
        failures := (name, (overLimitError policy prompts).toDict) :: result.failures }, work)

/-! ### The call budget -/

/-- `synthesis_result_exists`. -/
def synthesisResultExists (config : RunConfig) (st : Store) : Bool :=
  config.synthesisProviders.any fun name => (st.successful .synthesis name).isSome

/-- `downstream_call_reserve`. -/
def downstreamCallReserve (config : RunConfig) (st : Store) (stage : Stage)
    (workNames : List Str) : ℕ :=
  let chain := config.synthesisProviders
  if synthesisResultExists config st then 0
  else
    match stage with
    | .synthesis =>
      match (workNames.filter (· ∈ chain)).map chain.idxOf with
      | [] => chain.length
      | position :: positions => chain.length - positions.foldl min position - 1
    | .proposal => config.providers.length + chain.length
    | .jury | .juryRepair => chain.length

/-- `remaining`. -/
def remainingCalls (config : RunConfig) (st : Store) : ℕ :=
  (config.policy.maxCalls - st.countCalls).toNat

/-- `reservation_reason`. -/
def reservationReason (stage : Stage) : Str :=
  match stage with
  | .proposal => lit "call budget reserved for jury calls and synthesis"
  | .jury | .juryRepair | .synthesis => lit "call budget reserved for synthesis"

/-- `min(max(limit + 1024, limit * 2), max_recovery_output_tokens)`. -/
def recoveryLimit (policy : RunPolicy) (limit : ℤ) : ℤ :=
  min (max (limit + 1024) (limit * 2)) policy.maxRecoveryOutputTokens

/-- `provider.config.output_tokens_for(provider_stage)`. -/
def configuredLimit (config : RunConfig) (args : StageArgs) (name : Str) : ℤ :=
  ((config.config? name).map fun c => c.outputTokensFor args.providerStage).getD 0

/-- Payload of `truncation_recovery` for a truncated slot that is denied its retry. -/
def deniedRecovery (config : RunConfig) (args : StageArgs) (st : Store) (reserved : Bool)
    (name : Str) : Dict :=
  let initialLimit := (st.preservedLimit args.stage name).getD (configuredLimit config args name)
  [(lit "stage", .str args.stage.name),
    (lit "provider", .str name),
    (lit "status", .str (lit "not_attempted")),
    (lit "reason", .str (if reserved then reservationReason args.stage
      else lit "run call budget exhausted")),
    (lit "initial_finish_reason", .str (lit "length")),
    (lit "initial_max_output_tokens", .int initialLimit),
    (lit "recovery_max_output_tokens", .int ((args.outputOverrides.lookup name).getD
      (recoveryLimit config.policy initialLimit))),
    (lit "final_failure_recorded", .bool true)]

/-- The error of a denied slot that was never called. -/
def deniedError (stage : Stage) (reserved : Bool) : ProviderError where
  message := if reserved then lit "Run " ++ reservationReason stage
    else lit "Run call budget exhausted"
  category := .budget

/-- The slots beyond the budget.  `st` is the store at entry, `reserved` the names
that only the reserve for later stages excludes. -/
def denySlots (rt : Runtime) (config : RunConfig) (args : StageArgs) (st : Store)
    (reserved : List Str) : List Str → M StageResult
  | [] => pure {}
  | name :: rest => do
    let prior := st.slot args.stage name
    if isLengthFailure prior then
      let recovery := deniedRecovery config args st (decide (name ∈ reserved)) name
      transact fun st => st.appendEvent rt .truncationRecovery recovery
      let result ← denySlots rt config args st reserved rest
      pure { result with
        failures := (name, (priorError prior).getD []) :: result.failures
        recoveries := recovery :: result.recoveries }
    else
      let result ← denySlots rt config args st reserved rest
      pure { result with
        failures := (name, (priorError prior).getD
          (deniedError args.stage (decide (name ∈ reserved))).toDict) :: result.failures }

end CouncilLogic
