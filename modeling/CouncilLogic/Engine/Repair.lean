/-
# Ballots, and the repair of their prose

`_parse_and_repair_juries`: every jury response becomes a record, in the order of
the configured providers.  A response that does not parse may be repaired once, in
an invocation of its own, and the repair counts only when it leaves the decision
as it was.

The functions here are those of `src/model_council/engine.py` between the jury stage and the
adjudication: `_parse_and_repair_juries`, `_valid_jury_record`, `_invalid_jury_record`,
`_jury_artifact_failure` and `_persist_jury_repair_event`.  Parsing itself is
`CouncilLogic.Protocol.Parse`.
-/

import CouncilLogic.Engine.Pool

namespace CouncilLogic

open Protocol

/-! ### Records -/

/-- `_canonicalize_jury`: providers in place of labels. -/
def canonicalizeJury (mapping : Mapping) (a : JuryArtifact) : JuryArtifact :=
  { a with decision := { a.decision with
      winner := a.decision.winner.map mapping.provider
      ranking := a.decision.ranking.map mapping.provider } }

/-- The fields every record has besides its judgment or its error. -/
def recordFields (juror : Str) (response : ProviderResponse) (mapping : Mapping)
    (presentationOrder : List Str) (valid : Bool) : Dict :=
  [(lit "juror", .str juror),
    (lit "juror_model", .str response.resolvedModel),
    (lit "mapping", .obj mapping.toDict),
    (lit "presentation_order", .arr (presentationOrder.map .str)),
    (lit "valid", .bool valid)]

/-- `_valid_jury_record`. -/
def validJuryRecord (juror : Str) (response : ProviderResponse) (mapping : Mapping)
    (presentationOrder : List Str) (parsed : JuryArtifact) : Dict :=
  (canonicalizeJury mapping parsed).toDict ++
    recordFields juror response mapping presentationOrder true

/-- `_invalid_jury_record`. -/
def invalidJuryRecord (juror : Str) (response : ProviderResponse) (mapping : Mapping)
    (presentationOrder : List Str) (error : Str) : Dict :=
  recordFields juror response mapping presentationOrder false ++ [(lit "error", .str error)]

/-- `_jury_artifact_failure`. -/
def juryArtifactFailure (juror : Str) (response : ProviderResponse) (error : Str) : Dict :=
  failurePayload .jury juror {
    message := lit "Jury artifact was invalid: " ++ error
    category := .invalidResponse
    requestId := response.requestId
    attempts := response.attempts }

/-! ### Reading the responses -/

/-- What is kept of a response that does not parse. -/
structure InvalidJury where
  response : ProviderResponse
  presentationOrder : List Str
  initialError : Str
  /-- The prompts of a repair and the decision it has to keep, or why there is none;
  `none` when the policy allows no repair. -/
  repair : Option (Except Str (PromptPair × JuryDecision))

/-- A jury response that was read. -/
inductive JuryReading
  | valid (record : Dict)
  | invalid (details : InvalidJury)

/-- One response.  Only a `TypeError` or a `ValueError` makes it invalid. -/
def readJury (rt : Runtime) (policy : RunPolicy) (marker : Str) (mapping : Mapping) (juror : Str)
    (presentationOrder : List Str) (response : ProviderResponse) : Except PyErr JuryReading :=
  match parseJury rt response.content mapping.labels with
  | .ok parsed => .ok (.valid (validJuryRecord juror response mapping presentationOrder parsed))
  | .error e =>
    if e.isValueOrType = false then .error e
    else if policy.juryRepairAttempts = 0 then
      .ok (.invalid ⟨response, presentationOrder, e.message, none⟩)
    else
      match juryRepairPrompts rt response.content e.message mapping.labels marker with
      | .ok repair => .ok (.invalid ⟨response, presentationOrder, e.message, some (.ok repair)⟩)
      | .error e' =>
        if e'.isValueOrType = false then .error e'
        else .ok (.invalid ⟨response, presentationOrder, e.message, some (.error e'.message)⟩)

/-- All responses, in the order of the configured providers. -/
def readJuries (rt : Runtime) (policy : RunPolicy) (marker : Str) (mapping : Mapping)
    (orders : List (Str × List Str)) (responses : List (Str × ProviderResponse)) :
    List Str → Except PyErr (List (Str × JuryReading))
  | [] => .ok []
  | juror :: rest =>
    match responses.lookup juror with
    | none => readJuries rt policy marker mapping orders responses rest
    | some response => do
      let reading ← readJury rt policy marker mapping juror ((orders.lookup juror).getD []) response
      let readings ← readJuries rt policy marker mapping orders responses rest
      .ok ((juror, reading) :: readings)

/-- The prompts of a possible repair. -/
def JuryReading.repairPrompt? : JuryReading → Option PromptPair
  | .invalid ⟨_, _, _, some (.ok (prompts, _))⟩ => some prompts
  | .invalid ⟨_, _, _, some (.error _)⟩ | .invalid ⟨_, _, _, none⟩ | .valid _ => none

/-- The jurors that have a repair invocation. -/
def repairProviders (st : Store) : List Str :=
  (st.invocations.filter fun r => r.stage = .juryRepair).map Invocation.provider

/-- `new_repair_capacity`. -/
def newRepairCapacity (config : RunConfig) (st : Store) : ℕ :=
  (config.policy.maxCalls - st.countCalls - config.synthesisProviders.length).toNat

/-- The repairs to run: those with an invocation, and new ones within the capacity. -/
def selectRepairs (config : RunConfig) (st : Store) (eligible : List (Str × PromptPair)) :
    List (Str × PromptPair) :=
  let existing := repairProviders st
  let new := ((eligible.map Prod.fst).filter (· ∉ existing)).take (newRepairCapacity config st)
  eligible.filter fun e => e.1 ∈ existing ∨ e.1 ∈ new

/-! ### Outcomes -/

/-- Fields every repair audit begins with. -/
def repairAudit (juror status : Str) (initialError : Str) : Dict :=
  [(lit "kind", .str (lit "jury_artifact_repair")),
    (lit "stage", .str (lit "jury")),
    (lit "repair_stage", .str (lit "jury_repair")),
    (lit "provider", .str juror),
    (lit "status", .str status),
    (lit "initial_error", .str initialError)]

/-- What becomes of an invalid response: its record, its failure, and the audit of
its repair with whether it is written to the store. -/
structure RepairOutcome where
  record : Dict
  failure : Option Dict
  recovery : Option (Dict × Bool)

/-- `f"{value}"` of a message that is a string or absent. -/
def messageText (value : Option Json) : Str :=
  match value with
  | some (.str s) => s
  | _ => lit "None"

/-- The failure of a juror whose repair call failed. -/
def repairCallFailure (initial : Dict) : Option Dict → Dict
  | none => initial
  | some failure =>
    let kept := failure.filter fun f =>
      f.1 ≠ lit "stage" ∧ f.1 ≠ lit "provider" ∧ f.1 ≠ lit "message"
    (((initial.update kept).set (lit "message")
      (.str (lit "Jury artifact repair failed after an invalid response: " ++
        messageText (Dict.get? failure (lit "message"))))).set (lit "retryable") (.bool false)).set
      (lit "attempt_stage") (.str (lit "jury_repair"))

/-- A repair that was answered: it parses and keeps the decision, or it does not. -/
def readRepair (rt : Runtime) (mapping : Mapping) (immutableDecision : JuryDecision)
    (content : Str) : Except PyErr JuryArtifact := do
  let parsed ← parseJury rt content mapping.labels
  if parsed.decision ≠ immutableDecision then
    .error (.valueError (lit "repair changed immutable jury decision fields"))
  .ok parsed

/-- The outcome of one invalid response.  `repairs` are the repairs that were run,
`results` what they returned, `dispatched` the jurors with a repair invocation. -/
def repairOutcome (rt : Runtime) (mapping : Mapping) (juror : Str) (d : InvalidJury)
    (repairs : List (Str × PromptPair)) (results : StageResult) (dispatched : List Str) :
    Except PyErr RepairOutcome :=
  let record := invalidJuryRecord juror d.response mapping d.presentationOrder d.initialError
  let failure := juryArtifactFailure juror d.response d.initialError
  match d.repair with
  | none => .ok ⟨record, some failure, none⟩
  | some (.error reason) =>
    .ok ⟨record, some failure, some (repairAudit juror (lit "not_attempted") d.initialError ++
      [(lit "reason", .str (lit "immutable jury decision could not be recovered: " ++ reason))],
      true)⟩
  | some (.ok (_, decision)) =>
    if juror ∉ repairs.map Prod.fst then
      .ok ⟨record, some failure, some (repairAudit juror (lit "not_attempted") d.initialError ++
        [(lit "reason", .str (lit "call budget reserved for synthesis"))], true)⟩
    else
      match results.successes.lookup juror with
      | some response =>
        match readRepair rt mapping decision response.content with
        | .ok parsed =>
          .ok ⟨validJuryRecord juror d.response mapping d.presentationOrder parsed, none,
            some (repairAudit juror (lit "recovered") d.initialError ++
              [(lit "decision_preserved", .bool true),
                (lit "repair_resolved_model", .str response.resolvedModel)], true)⟩
        | .error e =>
          if e.isValueOrType = false then .error e
          else
            .ok ⟨invalidJuryRecord juror response mapping d.presentationOrder e.message,
              some ((juryArtifactFailure juror response
                (lit "repair remained invalid: " ++ e.message)).set (lit "attempt_stage")
                  (.str (lit "jury_repair"))),
              some (repairAudit juror (lit "failed") d.initialError ++
                [(lit "final_error", .str e.message),
                  (lit "decision_preserved", .bool false)], true)⟩
      | none =>
        let callFailure := (results.failureDicts .juryRepair).reverse.find? fun f =>
          f.get? (lit "provider") = some (.str juror)
        let wasDispatched := decide (juror ∈ dispatched)
        .ok ⟨record, some (repairCallFailure failure callFailure),
          some (repairAudit juror
              (if wasDispatched then lit "failed" else lit "not_attempted") d.initialError ++
            [(lit "final_error", (callFailure.bind fun f =>
                Dict.get? f (lit "message")).getD .null),
              (lit "decision_preserved", .bool false)], wasDispatched)⟩

/-! ### Auditing -/

/-- `_persist_jury_repair_event`. -/
def persistJuryRepairEvent (rt : Runtime) (payload : Dict) : M Dict := do
  let st ← getStore
  match (st.eventsOf .juryArtifactRepair).filter fun e =>
      e.payload.get? (lit "provider") = payload.get? (lit "provider") with
  | [] =>
    transact fun st => st.appendEvent rt .juryArtifactRepair payload
    pure payload
  | [e] =>
    if e.payload = payload.canon then pure e.payload
    else .raise (.valueError (lit "Jury repair audit event is inconsistent"))
  | _ => .raise (.valueError (lit "Run contains duplicate jury repair events"))

/-- `value in values` of dictionaries. -/
def containsDict (values : List Dict) (value : Dict) : Bool :=
  values.any fun v => Json.same (.obj v) (.obj value)

/-- What the ballots come to. -/
structure JuryResult where
  records : List Dict
  failures : List Dict
  recoveries : List Dict

/-- The last loop of `_parse_and_repair_juries`. -/
def settleJuries (rt : Runtime) (mapping : Mapping) (repairs : List (Str × PromptPair))
    (results : StageResult) (dispatched : List Str) :
    List (Str × JuryReading) → JuryResult → M JuryResult
  | [], acc => pure acc
  | (_, .valid record) :: rest, acc =>
    settleJuries rt mapping repairs results dispatched rest
      { acc with records := acc.records ++ [record] }
  | (juror, .invalid details) :: rest, acc => do
    let outcome ← Prog.ofExcept
      (repairOutcome rt mapping juror details repairs results dispatched)
    let recovery : Option Dict ←
      match outcome.recovery with
      | none => pure none
      | some (recovery, false) => pure (some recovery)
      | some (recovery, true) => do
        let recovery ← persistJuryRepairEvent rt recovery
        pure (some recovery)
    settleJuries rt mapping repairs results dispatched rest {
      records := acc.records ++ [outcome.record]
      failures := acc.failures ++ outcome.failure.toList
      recoveries := acc.recoveries ++
        recovery.toList.filter fun r => !containsDict acc.recoveries r }

/-- The arguments of the repair stage. -/
def repairArgs (deadline : ℤ) (prompts : List (Str × PromptPair)) : StageArgs where
  stage := .juryRepair
  prompts := prompts
  deadline := deadline
  allowTruncationRecovery := false
  providerStage := .jury
  retryFailedInvocations := false
  preserveIncompleteResponses := true

/-- `_parse_and_repair_juries`. -/
def parseAndRepairJuries (rt : Runtime) (eng : CouncilEngine) (marker : Str) (mapping : Mapping)
    (orders : List (Str × List Str)) (responses : List (Str × ProviderResponse)) (deadline : ℤ) :
    M JuryResult := do
  let readings ← Prog.ofExcept
    (readJuries rt eng.policy marker mapping orders responses eng.names)
  let eligible := readings.filterMap fun r => r.2.repairPrompt?.map fun prompts => (r.1, prompts)
  let st ← getStore
  let repairs := selectRepairs eng.toRunConfig st eligible
  let results ←
    if repairs = [] then pure ({} : StageResult)
    else runParallelStage rt eng (repairArgs deadline repairs)
  let st ← getStore
  settleJuries rt mapping repairs results (repairProviders st) readings ⟨[], [], []⟩

end CouncilLogic
