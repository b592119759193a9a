/-
# The result of a run

`_provider_retry_recoveries` rebuilds the retries of the run from the audit log and
checks that the log is complete; `_synthesis_summary` reports the synthesis chain;
`_build_result` puts the result together.

All three are methods of `CouncilEngine` in `src/model_council/engine.py`.  They read the store
and write nothing; the result is stored by `_finish`, which is part of
`CouncilLogic.Engine.Resume`.
-/

import CouncilLogic.Engine.Repair
import CouncilLogic.Protocol.Check

namespace CouncilLogic

open Protocol

/-! ### Retries -/

/-- A `provider_retry_started` event that was read back. -/
structure RetryEvent where
  stage : Str
  provider : Str
  retryCallCount : ℤ
  truncation : Bool
  priorFailure : Dict
  deriving DecidableEq

/-- `(stage, provider)`. -/
def RetryEvent.slot (e : RetryEvent) : Str × Str := (e.stage, e.provider)

/-- The checks of one retry event. -/
def readRetryEvent (config : RunConfig) (payload : Dict) : Except PyErr RetryEvent :=
  if payload.hasKeys [lit "stage", lit "provider", lit "retry_call_count", lit "retry_kind",
      lit "prior_failure"] = false then
    .error (.valueError (lit "Provider retry audit event is malformed"))
  else
    match field payload (lit "stage"), field payload (lit "provider"),
        field payload (lit "retry_call_count"), field payload (lit "retry_kind"),
        field payload (lit "prior_failure") with
    | .str stage, .str provider, .int count, .str kind, .obj prior =>
      if provider ∉ config.names ∨ count < 2 ∨
          (kind ≠ lit "application" ∧ kind ≠ lit "truncation") then
        .error (.valueError (lit "Provider retry audit event is inconsistent"))
      else .ok ⟨stage, provider, count, decide (kind = lit "truncation"), prior⟩
    | _, _, _, _, _ => .error (.valueError (lit "Provider retry audit event is inconsistent"))

/-- All retry events, each slot and count at most once. -/
def readRetryEvents (config : RunConfig) :
    List Event → List RetryEvent → Except PyErr (List RetryEvent)
  | [], seen => .ok seen
  | e :: events, seen => do
    let retry ← readRetryEvent config e.payload
    if seen.any fun r => r.slot = retry.slot ∧ r.retryCallCount = retry.retryCallCount then
      .error (.valueError (lit "Provider retry audit event is duplicated"))
    readRetryEvents config events (seen ++ [retry])

/-- `str(payload.get(key))`. -/
def fieldText (payload : Dict) (key : Str) : Str :=
  match payload.get? key with
  | some (.str s) => s
  | _ => lit "None"

/-- The slots with a truncation recovery that is on record. -/
def completedTruncationSlots (events : List Event) : List (Str × Str) :=
  (events.filter fun e => decide (e.type = .truncationRecovery) &&
      decide (e.payload.get? (lit "status") ≠ some (.str (lit "not_dispatched")))).map fun e =>
    (fieldText e.payload (lit "stage"), fieldText e.payload (lit "provider"))

/-- The slot of an invocation, by name. -/
def Invocation.slotName (r : Invocation) : Str × Str := (r.stage.name, r.provider)

/-- How a retry ended: by the next retry, or as its invocation stands. -/
def retryStatus (invocation : Invocation) : List RetryEvent → Str × Option Dict
  | next :: _ => (lit "failed", some next.priorFailure)
  | [] =>
    match invocation.state with
    | .succeeded _ => (lit "recovered", none)
    | .failed e => (if e.ambiguous then lit "ambiguous" else lit "failed", some e.stored)
    | .running => (lit "in_progress", none)

/-- The recoveries of one slot, its retries in order. -/
def slotRecoveries (completed : List (Str × Str)) (invocation : Invocation) :
    List RetryEvent → List Dict
  | [] => []
  | e :: rest =>
    let status := retryStatus invocation rest
    let recovery : Dict :=
      [(lit "kind", .str (if e.truncation then lit "truncation_retry"
          else lit "application_retry")),
        (lit "stage", .str e.stage),
        (lit "provider", .str e.provider),
        (lit "retry_call_count", .int e.retryCallCount),
        (lit "status", .str status.1),
        (lit "prior_failure", .obj e.priorFailure)] ++
        (status.2.map fun failure => (lit "final_failure", Json.obj failure)).toList
    if e.truncation && decide (e.slot ∈ completed) then slotRecoveries completed invocation rest
    else recovery :: slotRecoveries completed invocation rest

/-- The retries of one slot in order: from the second call to the last one. -/
def orderRetries (retries : List RetryEvent) : List RetryEvent :=
  retries.insertionSort fun a b => a.retryCallCount ≤ b.retryCallCount

/-- The recoveries of the slots, in the order of their first retry. -/
def recoveriesOfSlots (st : Store) (retries : List RetryEvent) :
    List (Str × Str) → Except PyErr (List Dict)
  | [] => .ok []
  | slot :: slots =>
    match st.invocations.find? fun r => r.slotName = slot with
    | none => .error (.valueError (lit "Provider retry audit has no invocation record"))
    | some invocation =>
      let ordered := orderRetries (retries.filter fun e => e.slot = slot)
      if ordered.map RetryEvent.retryCallCount ≠
          (List.range (invocation.callCount - 1)).map (fun i : ℕ => (i : ℤ) + 2) then
        .error (.valueError (lit "Provider retry audit is incomplete"))
      else do
        let rest ← recoveriesOfSlots st retries slots
        .ok (slotRecoveries (completedTruncationSlots st.events) invocation ordered ++ rest)

/-- `_provider_retry_recoveries`. -/
def providerRetryRecoveries (config : RunConfig) (st : Store) : Except PyErr (List Dict) := do
  let retries ← readRetryEvents config (st.eventsOf .providerRetryStarted) []
  if st.invocations.any fun r =>
      decide (1 < r.callCount) && decide (r.slotName ∉ retries.map RetryEvent.slot) then
    .error (.valueError (lit "Provider retry audit is missing"))
  recoveriesOfSlots st retries (retries.map RetryEvent.slot).eraseDups

/-! ### The synthesis chain -/

/-- One entry of `attempts`. -/
def synthesisAttempt (st : Store) (failures : List Dict) (position : ℕ) (provider : Str) : Dict :=
  let head : Dict := [(lit "position", .int position), (lit "provider", .str provider)]
  match st.slot .synthesis provider with
  | some r =>
    match r.state with
    | .succeeded response =>
      head ++ [(lit "status", .str (lit "succeeded")),
        (lit "invocation_id", .str (Str.ofNat r.id)),
        (lit "resolved_model",
          .str (if response.resolvedModel = [] then r.model else response.resolvedModel)),
        (lit "call_count", .int r.callCount)]
    | .failed e =>
      head ++ [(lit "status", .str (if e.ambiguous then lit "ambiguous" else lit "failed")),
        (lit "invocation_id", .str (Str.ofNat r.id)),
        (lit "category", .str e.category.value),
        (lit "ambiguous", .bool e.ambiguous),
        (lit "call_count", .int r.callCount)]
    | .running =>
      head ++ [(lit "status", .str (lit "failed")),
        (lit "invocation_id", .str (Str.ofNat r.id)),
        (lit "category", .null),
        (lit "ambiguous", .bool false),
        (lit "call_count", .int r.callCount)]
  | none =>
    match failures.reverse.find? fun f =>
        decide (f.get? (lit "stage") = some (.str Stage.synthesis.name)) &&
          decide (f.get? (lit "provider") = some (.str provider)) with
    | some failure =>
      head ++ [(lit "status", .str (lit "not_dispatched")),
        (lit "category", field failure (lit "category")),
        (lit "ambiguous", .bool (decide (failure.get? (lit "ambiguous") = some (.bool true))))]
    | none => head ++ [(lit "status", .str (lit "not_attempted"))]

/-- What `_synthesis_summary` returns. -/
structure SynthesisSummary where
  configuredOrder : List Str
  selectedProvider : Option Str
  selectedPosition : Option ℕ
  attempts : List Dict

def SynthesisSummary.toDict (s : SynthesisSummary) : Dict :=
  [(lit "configured_order", .arr (s.configuredOrder.map .str)),
    (lit "selected_provider", optStr s.selectedProvider),
    (lit "selected_position", optInt (s.selectedPosition.map fun n => (n : ℤ))),
    (lit "attempts", .arr (s.attempts.map .obj))]

/-- `_synthesis_summary(invocations, failures)`: the first slot of the chain that
has succeeded is selected. -/
def synthesisSummary (config : RunConfig) (st : Store) (failures : List Dict) :
    SynthesisSummary :=
  let selected := config.synthesisProviders.find? fun name => (st.successful .synthesis name).isSome
  { configuredOrder := config.synthesisProviders
    selectedProvider := selected
    selectedPosition := selected.map fun name => config.synthesisProviders.idxOf name + 1
    attempts := (List.range config.synthesisProviders.length).zipWith
      (fun i name => synthesisAttempt st failures (i + 1) name) config.synthesisProviders }

/-! ### The result -/

/-- A proposal that is part of the result. -/
structure Proposal where
  provider : Str
  response : ProviderResponse
  artifact : ProposalArtifact
  deriving DecidableEq

/-- What `_build_result` is given. -/
structure ResultParts where
  status : RunStatus
  answer : Option Str := none
  proposals : List Proposal
  juryRecords : List Dict := []
  aggregate : Option (Aggregate × Mapping) := none
  failures : List Dict
  warnings : List Str
  recoveries : List Dict
  plan : Workload.Plan
  candidateMapping : Option Mapping := none
  synthesisCheck : Option SynthesisCheck := none

/-- `aggregate`, with its mapping. -/
def aggregateDict (a : Aggregate × Mapping) : Dict :=
  a.1.toDict protocolId protocolVersion ++ [(lit "candidate_label_mapping", .obj a.2.toDict)]

/-- The fields of a jury record that `self_vote_report` reads. -/
def voteOf (record : Dict) : Vote where
  juror := (jurorOf record).getD []
  winner := match record.get? (lit "winner") with
    | some (.str name) => some name
    | _ => none
  ranking := ((record.get? (lit "ranking")).bind Json.strings?).getD []
  abstain := decide (record.get? (lit "abstain") = some (.bool true))

/-- One entry of `proposals`. -/
def proposalDict (config : RunConfig) (p : Proposal) : Dict :=
  [(lit "provider", .str p.provider),
    (lit "model", .str p.response.resolvedModel),
    (lit "lineage", optStr ((config.config? p.provider).map ProviderConfig.lineage)),
    (lit "artifact", .obj p.artifact.toDict)] ++ p.response.toDict

/-- `recovery.get("kind") in kinds`, `none` standing for an absent kind. -/
def recoveryKindIn (kinds : List (Option Str)) (recovery : Dict) : Bool :=
  match recovery.get? (lit "kind") with
  | none | some .null => decide (none ∈ kinds)
  | some (.str kind) => decide (some kind ∈ kinds)
  | some _ => false

/-- The number of recovered recoveries of the kinds. -/
def recoveredCount (kinds : List (Option Str)) (recoveries : List Dict) : ℕ :=
  recoveries.countP fun r =>
    decide (r.get? (lit "status") = some (.str (lit "recovered"))) && recoveryKindIn kinds r

/-- `actual_stage_prompt_chars`. -/
def actualStagePromptChars (st : Store) : Dict :=
  st.invocations.foldl (fun chars r =>
    let prior := match Dict.get? chars r.stage.name with
      | some (.int n) => n
      | _ => 0
    Dict.set chars r.stage.name (.int (max r.promptText.length prior))) []

/-- `completion_quality == "clean"`. -/
def ResultParts.isClean (p : ResultParts) (recoveries : List Dict) : Bool :=
  decide (p.status = .completed) && p.failures.isEmpty && recoveries.isEmpty &&
    (p.synthesisCheck.map SynthesisCheck.consistent).getD true

/-- `_build_result(…)`. -/
def buildResult (rt : Runtime) (config : RunConfig) (spec : RunSpec) (st : Store)
    (p : ResultParts) : Except PyErr Dict := do
  let retries ← providerRetryRecoveries config st
  let recoveries := p.recoveries ++ retries
  let selfVotes ← match p.aggregate with
    | none => .ok Json.null
    | some (aggregate, _) => do
      let report ← selfVoteReport rt ((p.juryRecords.filter isValidRecord).map voteOf)
        (aggregate.bordaPoints.map Prod.fst) aggregate
      .ok (.obj report.toDict)
  let warnings := p.warnings ++
    if p.status = .completed ∧ p.isClean recoveries = false then
      [lit "Council completed with degraded provider execution; inspect failures and recoveries."]
    else []
  .ok
    [(lit "run_id", .str spec.id),
      (lit "status", .str p.status.name),
      (lit "completion_quality",
        .str (if p.isClean recoveries then lit "clean" else lit "degraded")),
      (lit "protocol", .obj
        [(lit "id", .str protocolId), (lit "version", .str protocolVersion),
          (lit "hash", .str rt.protocolHash)]),
      (lit "question_sha256", .str (rt.sha256 spec.question)),
      (lit "answer", optStr p.answer),
      (lit "synthesis", .obj (synthesisSummary config st p.failures).toDict),
      (lit "aggregate", (p.aggregate.map fun a => Json.obj (aggregateDict a)).getD .null),
      (lit "synthesis_check",
        (p.synthesisCheck.map fun c => Json.obj c.toDict).getD .null),
      (lit "self_votes", selfVotes),
      (lit "candidate_namespace", (p.candidateMapping.map fun m =>
        Json.obj [(lit "candidate_label_mapping", .obj m.toDict)]).getD .null),
      (lit "proposals", .arr ((config.names.filterMap fun name =>
        p.proposals.find? fun q => q.provider = name).map fun q =>
          .obj (proposalDict config q))),
      (lit "juries", .arr (p.juryRecords.map .obj)),
      (lit "failures", .arr (p.failures.map .obj)),
      (lit "recoveries", .arr (recoveries.map .obj)),
      (lit "warnings", .arr (warnings.map .str)),
      (lit "membership", .obj
        [(lit "requested_providers", .int config.providers.length),
          (lit "successful_proposals", .int p.proposals.length),
          (lit "valid_juries", .int (p.juryRecords.countP isValidRecord)),
          (lit "provider_stage_failures", .int p.failures.length),
          (lit "recovered_truncations", .int (recoveredCount
            [none, some (lit "truncation_recovery"), some (lit "truncation_retry")] recoveries)),
          (lit "recovered_jury_repairs", .int (recoveredCount
            [some (lit "jury_artifact_repair")] recoveries))]),
      (lit "workload", .obj
        [(lit "preflight", .obj p.plan.toDict),
          (lit "actual_stage_prompt_chars", .obj (actualStagePromptChars st)),
          (lit "application_calls", .int st.countCalls)]),
      (lit "limitations", .arr
        [.str (lit "Model output is analysis, not independent evidence."),
          .str (lit "Metadata blinding cannot hide model writing style."),
          .str (lit "Consensus can still be wrong; verify consequential claims.")])]

/-- The result is built and stored. -/
def finish (rt : Runtime) (config : RunConfig) (spec : RunSpec) (p : ResultParts) : M Dict := do
  let st ← getStore
  let result ← Prog.ofExcept (buildResult rt config spec st p)
  transact fun st => st.finishRun rt p.status p.failures.length result
  pure result

end CouncilLogic
