/-
# One resume of a run

`create_run` and `_resume_locked`.  A resume reads the locks, runs the proposals,
names the candidates, runs the ballots, adjudicates, and walks the synthesis
chain; what an earlier resume has locked is read back in place of being decided
again.

The order of the statements is that of `src/model_council/engine.py`: a resume that raises has
made the writes that come before the raise and no others.  The process lock that `resume` takes is
not modelled; one resume at a time is what the lock gives, and an end of the process between any
two writes is part of the model of a run (`CouncilLogic.Engine.History`).
-/

import CouncilLogic.Engine.Result

namespace CouncilLogic

open Protocol

/-! ### Creating a run -/

/-- `create_run(question, run_id=…)` of a fresh run id: the store of the new run. -/
def createRun (rt : Runtime) (eng : CouncilEngine) (draws : Workload.PlanDraws)
    (question runId : Str) : Except PyErr Store := do
  let cleanQuestion := Str.strip question
  if cleanQuestion = [] then .error (.valueError (lit "Question cannot be empty"))
  let plan ← Workload.estimateWorkload rt draws cleanQuestion eng.names eng.policy
    eng.synthesisProviders
  Workload.requireWorkloadWithinLimits plan
  Json.assertNoCredentials rt (lit "$.provider_configs")
    (.arr (eng.providers.map fun c => .obj c.toDict))
  Store.requiredText (lit "run_id") runId
  .ok { run := { spec := ⟨runId, cleanQuestion, rt.protocolHash, eng.toRunConfig⟩ } }

/-! ### Anonymizing -/

/-- `reverse.get(provider, provider)`. -/
def Mapping.label (mapping : Mapping) (provider : Str) : Str :=
  ((mapping.find? fun e => e.2 = provider).map Prod.fst).getD provider

/-- `_anonymize_aggregate`. -/
def anonymizeAggregate (mapping : Mapping) (a : Aggregate) : Aggregate :=
  { a with
    winner := a.winner.map mapping.label
    ranking := a.ranking.map mapping.label
    tiedCandidates := a.tiedCandidates.map mapping.label
    bordaPoints := a.bordaPoints.map fun e => (mapping.label e.1, e.2)
    winCounts := a.winCounts.map fun e => (mapping.label e.1, e.2) }

/-- The label in place of a provider. -/
def anonymizeName (mapping : Mapping) : Json → Json
  | .str name => .str (mapping.label name)
  | value => value

/-- `_anonymize_jury`. -/
def anonymizeJury (mapping : Mapping) (jury : Dict) : Except PyErr Dict := do
  let payload ← judgmentPayload jury
  let ranking := match field jury (lit "ranking") with
    | .arr items => items.map (anonymizeName mapping)
    | _ => []
  .ok ((payload.set (lit "ranking") (.arr ranking)).set (lit "winner")
    (anonymizeName mapping (field jury (lit "winner"))))

/-! ### Proposals -/

/-- What a resume has settled before its stages. -/
structure RunContext where
  spec : RunSpec
  marker : Str
  deadline : ℤ
  plan : Workload.Plan

/-- The failure of a response that is not a proposal. -/
def proposalArtifactFailure (name : Str) (response : ProviderResponse) (error : Str) : Dict :=
  failurePayload .proposal name {
    message := lit "Proposal artifact was invalid: " ++ error
    category := .invalidResponse
    requestId := response.requestId
    attempts := response.attempts }

/-- The proposals among the responses, and the failures of the others. -/
def parseProposals (rt : Runtime) :
    List (Str × ProviderResponse) → Except PyErr (List Proposal × List Dict)
  | [] => .ok ([], [])
  | (name, response) :: rest =>
    match parseProposal rt response.content with
    | .ok artifact => do
      let (proposals, failures) ← parseProposals rt rest
      .ok (⟨name, response, artifact⟩ :: proposals, failures)
    | .error e =>
      if e.isValueOrType then do
        let (proposals, failures) ← parseProposals rt rest
        .ok (proposals, proposalArtifactFailure name response e.message :: failures)
      else .error e

/-- The arguments of the proposal stage: every provider gets the same prompts. -/
def proposalArgs (deadline : ℤ) (prompts : PromptPair) (names : List Str) : StageArgs where
  stage := .proposal
  prompts := names.map fun name => (name, prompts)
  deadline := deadline
  providerStage := .proposal

/-- The proposal stage: the proposals, its failures and its recoveries. -/
def proposalPhase (rt : Runtime) (eng : CouncilEngine) (ctx : RunContext)
    (namespaceLock : Option NamespaceLock) : M (List Proposal × List Dict × List Dict) := do
  let names := (namespaceLock.map fun lock => lock.mapping.providers).getD eng.names
  let prompts ← Prog.ofExcept (proposalPrompts ctx.spec.question ctx.marker)
  let result ← runParallelStage rt eng (proposalArgs ctx.deadline prompts names)
  let (proposals, invalid) ← Prog.ofExcept (parseProposals rt result.successes)
  match namespaceLock with
  | some lock =>
    if sameMembers (proposals.map Proposal.provider) lock.mapping.providers = false then
      .raise (.valueError (lit ("Frozen candidate membership could not be recovered " ++
        "from successful proposal records")))
  | none => pure ()
  pure (proposals, result.failureDicts .proposal ++ invalid, result.recoveries)

/-- The warnings of proposals that are too few or too uniform. -/
def quorumWarnings (eng : CouncilEngine) (proposals : List Proposal) : List Str :=
  let lineages := eng.lineages (proposals.map Proposal.provider)
  (if (proposals.length : ℤ) < eng.policy.proposalQuorum then
    [lit "Proposal quorum not met: " ++ Str.ofNat proposals.length ++ lit "/" ++
      Str.ofInt eng.policy.proposalQuorum] else []) ++
  (if (lineages.length : ℤ) < eng.policy.minLineages then
    [lit "Lineage diversity not met: " ++ Str.ofNat lineages.length ++ lit "/" ++
      Str.ofInt eng.policy.minLineages] else [])

/-! ### Ballots -/

/-- The artifacts behind labels, in the order of the labels. -/
def candidatesOf (mapping : Mapping) (proposals : List Proposal) (labels : List Str) : Dict :=
  Workload.artifactDict (labels.filterMap fun label =>
    (proposals.find? fun p => p.provider = mapping.provider label).map fun p =>
      (label, p.artifact))

/-- `jury_presentation_orders`. -/
def presentationOrders (rt : Runtime) (runId : Str) (mapping : Mapping) (names : List Str) :
    List (Str × List Str) :=
  names.map fun juror => (juror, juryPresentationOrder rt runId juror mapping.labels)

/-- The prompts of the jury stage. -/
def juryStagePrompts (ctx : RunContext) (mapping : Mapping) (proposals : List Proposal) :
    List (Str × List Str) → Except PyErr (List (Str × PromptPair))
  | [] => .ok []
  | (juror, order) :: rest => do
    let prompts ← juryPrompts ctx.spec.question (candidatesOf mapping proposals order) ctx.marker
    let others ← juryStagePrompts ctx mapping proposals rest
    .ok ((juror, prompts) :: others)

/-- The arguments of the jury stage. -/
def juryArgs (deadline : ℤ) (prompts : List (Str × PromptPair)) : StageArgs where
  stage := .jury
  prompts := prompts
  deadline := deadline
  providerStage := .jury

/-- The jury stage and its repairs: records, failures, and the recoveries of both. -/
def juryPhase (rt : Runtime) (eng : CouncilEngine) (ctx : RunContext) (mapping : Mapping)
    (proposals : List Proposal) : M (JuryResult × List Dict) := do
  let orders := presentationOrders rt ctx.spec.id mapping eng.names
  let prompts ← Prog.ofExcept (juryStagePrompts ctx mapping proposals orders)
  let result ← runParallelStage rt eng (juryArgs ctx.deadline prompts)
  let juries ← parseAndRepairJuries rt eng ctx.marker mapping orders result.successes ctx.deadline
  pure ({ juries with failures := result.failureDicts .jury ++ juries.failures },
    result.recoveries)

/-! ### Synthesis -/

/-- The arguments of one synthesis attempt: only the last slot of the chain, and only
when the resume began there, may be called again after a failure. -/
def synthesisArgs (deadline : ℤ) (name : Str) (prompts : PromptPair) (retry : Bool) :
    StageArgs where
  stage := .synthesis
  prompts := [(name, prompts)]
  deadline := deadline
  providerStage := .synthesis
  retryFailedInvocations := retry

/-- What the synthesis chain comes to. -/
structure SynthesisResult where
  answer : Option (Str × Str) := none
  failures : List Dict := []
  recoveries : List Dict := []

/-- The chain from `position` on; `current` is where the resume began. -/
def synthesisChain (rt : Runtime) (eng : CouncilEngine) (deadline : ℤ) (prompts : PromptPair)
    (current : ℕ) : ℕ → List Str → M SynthesisResult
  | _, [] => pure {}
  | position, name :: rest => do
    let now ← monotonic
    if deadline ≤ now then return {}
    let last := eng.synthesisProviders.length
    let result ← runParallelStage rt eng (synthesisArgs deadline name prompts
      (decide (position = current) && decide (position = last)))
    let failures := result.failureDicts .synthesis
    match result.successes.lookup name with
    | some response => pure ⟨some (name, response.content), failures, result.recoveries⟩
    | none => do
      if position < last then
        let now ← monotonic
        if now < deadline then
          match failures.reverse.find? fun f =>
              f.get? (lit "provider") = some (.str name) with
          | none => .raise (.runtimeError (lit "Synthesis fallback has no failure record"))
          | some failure =>
            persistSynthesisFallbackEvent rt eng.toRunConfig position failure
      let others ← synthesisChain rt eng deadline prompts current (position + 1) rest
      pure ⟨others.answer, failures ++ others.failures, result.recoveries ++ others.recoveries⟩

/-- The prompts of the synthesis: the record of the council, without names. -/
def synthesisStagePrompts (question marker : Str) (mapping : Mapping) (candidates : Dict)
    (validJuries : List Dict) (aggregate : Aggregate) : Except PyErr PromptPair := do
  let juries ← validJuries.mapM (anonymizeJury mapping)
  synthesisPrompts question candidates
    ((anonymizeAggregate mapping aggregate).toDict protocolId protocolVersion) juries marker

/-- The synthesis phase: nothing once the deadline has passed. -/
def synthesisPhase (rt : Runtime) (eng : CouncilEngine) (ctx : RunContext) (mapping : Mapping)
    (proposals : List Proposal) (validJuries : List Dict) (aggregate : Aggregate)
    (current : ℕ) : M SynthesisResult := do
  let now ← monotonic
  if ctx.deadline ≤ now then return {}
  let prompts ← Prog.ofExcept (synthesisStagePrompts ctx.spec.question ctx.marker mapping
    (candidatesOf mapping proposals mapping.labels) validJuries aggregate)
  synthesisChain rt eng ctx.deadline prompts current current
    (eng.synthesisProviders.drop (current - 1))

/-- The warnings about the synthesis. -/
def synthesisWarnings (eng : CouncilEngine) (check : Option SynthesisCheck)
    (answer : Option (Str × Str)) : List Str :=
  (match check with
    | some c =>
      if c.consistent then []
      else [lit "Synthesis Outcome does not match the deterministic aggregate (" ++ c.reason ++
        lit "); the aggregate remains authoritative and the run is degraded."]
    | none => []) ++
  match answer with
  | none => [lit "Synthesis did not complete; raw council record preserved"]
  | some (name, _) =>
    if name = eng.synthesisProvider then []
    else [lit "Synthesis completed with fallback provider " ++ name ++ lit " after " ++
      Str.ofNat (eng.synthesisProviders.idxOf name) ++
      lit " unsuccessful synthesis attempt(s)."]

/-! ### The resume -/

/-- The recoveries earlier resumes have recorded. -/
def recordedRecoveries (events : List Event) : List Dict :=
  (events.filter fun e => decide (e.type = .truncationRecovery ∨
    e.type = .juryArtifactRepair)).map Event.payload

/-- What the proposals and, if they are locked, the candidates come to. -/
structure ProposalState where
  proposals : List Proposal
  failures : List Dict
  recoveries : List Dict

/-- The end of a resume whose proposals are too few: partial or failed. -/
def finishWithoutQuorum (rt : Runtime) (eng : CouncilEngine) (ctx : RunContext)
    (p : ProposalState) (warnings : List Str) : M Dict :=
  finish rt eng.toRunConfig ctx.spec {
    status := if p.proposals ≠ [] ∧ eng.policy.allowPartial = true then .partialResult else .failed
    proposals := p.proposals
    failures := p.failures
    warnings := warnings
    recoveries := p.recoveries
    plan := ctx.plan }

/-- The ballots, once they are final: read from the lock, or taken now. -/
def ballotPhase (rt : Runtime) (eng : CouncilEngine) (ctx : RunContext) (mapping : Mapping)
    (p : ProposalState) (adjudication : Option AdjudicationLock) :
    M (List Dict × List Dict × List Dict) :=
  match adjudication with
  | some lock => pure (lock.records, lock.failures, p.recoveries)
  | none => do
    let (juries, stageRecoveries) ← juryPhase rt eng ctx mapping p.proposals
    let recoveries := p.recoveries ++ stageRecoveries
    pure (juries.records, juries.failures,
      juries.recoveries.foldl (fun rs r => if containsDict rs r then rs else rs ++ [r]) recoveries)

/-- From the adjudicated ballots to the result. -/
def synthesizeAndFinish (rt : Runtime) (eng : CouncilEngine) (ctx : RunContext)
    (mapping : Mapping) (p : ProposalState) (records : List Dict) (aggregate : Aggregate)
    (advanced : ℕ × List Dict) (failures recoveries : List Dict) : M Dict := do
  emit fun _ => .adjudicated mapping records aggregate
  let synthesis ← synthesisPhase rt eng ctx mapping p.proposals (records.filter isValidRecord)
    aggregate advanced.1
  let check := synthesis.answer.map fun a =>
    checkSynthesisOutcome rt a.2 (anonymizeAggregate mapping aggregate)
  finish rt eng.toRunConfig ctx.spec {
    status := if synthesis.answer.isSome then .completed else .partialResult
    answer := synthesis.answer.map Prod.snd
    proposals := p.proposals
    juryRecords := records
    aggregate := some (aggregate, mapping)
    failures := failures ++ advanced.2 ++ synthesis.failures
    warnings := synthesisWarnings eng check synthesis.answer
    recoveries := recoveries ++ synthesis.recoveries
    plan := ctx.plan
    candidateMapping := some mapping
    synthesisCheck := check }

/-- From the named candidates to the result. -/
def adjudicateAndFinish (rt : Runtime) (eng : CouncilEngine) (ctx : RunContext)
    (mapping : Mapping) (p : ProposalState) (adjudication : Option AdjudicationLock)
    (advanced : ℕ × List Dict) : M Dict := do
  let (records, juryFailures, recoveries) ← ballotPhase rt eng ctx mapping p adjudication
  let failures := p.failures ++ juryFailures
  let valid := records.filter isValidRecord
  if adjudication = none ∧ (valid.length : ℤ) < eng.policy.juryQuorum then
    finish rt eng.toRunConfig ctx.spec {
      status := .partialResult
      proposals := p.proposals
      juryRecords := records
      failures := failures
      warnings := [lit "Jury quorum not met: " ++ Str.ofNat valid.length ++ lit "/" ++
        Str.ofInt eng.policy.juryQuorum]
      recoveries := recoveries
      plan := ctx.plan
      candidateMapping := some mapping }
  else do
    let judgments ← Prog.ofExcept (judgmentsOf valid)
    let aggregate ← Prog.ofExcept
      (aggregateJuries rt judgments (p.proposals.map Proposal.provider))
    if adjudication = none then
      let _ ← lockAdjudication rt eng.toRunConfig ctx.spec.id mapping records juryFailures
    synthesizeAndFinish rt eng ctx mapping p records aggregate advanced failures recoveries

/-- The stages of a resume. -/
def runStages (rt : Runtime) (eng : CouncilEngine) (ctx : RunContext)
    (namespaceLock : Option NamespaceLock) (adjudication : Option AdjudicationLock)
    (advanced : ℕ × List Dict) (recorded : List Dict) : M Dict := do
  let frozen := (namespaceLock.map NamespaceLock.failures).getD []
  let (proposals, stageFailures, stageRecoveries) ← proposalPhase rt eng ctx namespaceLock
  let p : ProposalState := ⟨proposals, frozen ++ stageFailures, recorded ++ stageRecoveries⟩
  let warnings := quorumWarnings eng proposals
  if warnings ≠ [] then finishWithoutQuorum rt eng ctx p warnings
  else
    match namespaceLock with
    | some lock => adjudicateAndFinish rt eng ctx lock.mapping p adjudication advanced
    | none => do
      let lock ← lockCandidateNamespace rt eng.toRunConfig ctx.spec.id
        (candidateMapping rt ctx.spec.id (proposals.map Proposal.provider)) p.failures
      adjudicateAndFinish rt eng ctx lock.mapping p adjudication advanced

/-- `_validate_provider_lock`, `_validate_policy_lock` and the protocol check. -/
def validateRunLock (rt : Runtime) (eng : CouncilEngine) (spec : RunSpec) : Except PyErr Unit :=
  if spec.protocolHash ≠ rt.protocolHash then
    .error (.valueError (lit "Protocol hash differs from the immutable run lock"))
  else if eng.providers ≠ spec.config.providers then
    .error (.valueError
      (lit "Current provider configuration or order differs from the run lock"))
  else if eng.policy ≠ spec.config.policy ∨
      eng.synthesisProvider ≠ spec.config.synthesisProvider ∨
      eng.synthesisFallbacks ≠ spec.config.synthesisFallbacks then
    .error (.valueError
      (lit "Current policy or synthesis provider chain differs from the run lock"))
  else .ok ()

/-- A resume whose run is not completed: the marker, the clock, the preflight, and
the stages. -/
def beginResume (rt : Runtime) (eng : CouncilEngine) (st : Store)
    (namespaceLock : Option NamespaceLock) (adjudication : Option AdjudicationLock)
    (advanced : ℕ × List Dict) : M Dict := do
  let marker ← loadOrCreateUntrustedMarker rt st.events
  let started ← monotonic
  transact fun st => .ok (st.setRunStatus .running)
  transact fun st => st.appendEvent rt .runStarted
    [(lit "protocol", .str (protocolId ++ lit "@" ++ protocolVersion))]
  let draws : Workload.PlanDraws ← Prog.query Question.planDraws
  let plan ← Prog.ofExcept (Workload.estimateWorkload rt draws st.run.spec.question eng.names
    eng.policy eng.synthesisProviders)
  Prog.ofExcept (Workload.requireWorkloadWithinLimits plan)
  transact fun st => st.appendEvent rt .workloadPreflight plan.toDict
  runStages rt eng ⟨st.run.spec, marker, started + eng.policy.deadlineSeconds, plan⟩
    namespaceLock adjudication advanced (recordedRecoveries st.events)

/-- `_resume_locked(run_id)`, under the lock that keeps other resumes of the run out. -/
def resume (rt : Runtime) (eng : CouncilEngine) : M Dict := do
  let st ← getStore
  Prog.ofExcept (validateRunLock rt eng st.run.spec)
  let advanced ← Prog.ofExcept (loadSynthesisFallbackState eng.toRunConfig st st.events)
  let namespaceLock ← Prog.ofExcept
    (loadCandidateNamespaceLock rt eng.toRunConfig st.run.spec.id st.events)
  let adjudication ← Prog.ofExcept
    (loadAdjudicationLock rt eng.toRunConfig namespaceLock st.events)
  match st.run.status, st.run.result with
  | .completed, some result => pure result
  | _, _ => beginResume rt eng st namespaceLock adjudication advanced

/-! ### Runs -/

/-- The programs that run on a store: resumes, by any engine. -/
def Resumes (rt : Runtime) (p : M Dict) : Prop := ∃ eng : CouncilEngine, p = resume rt eng

/-- A run: created by an engine, then resumed any number of times, by engines that
may differ, each resume ending anywhere. -/
structure Reachable (rt : Runtime) (spec : RunSpec)
    (c : Prog.Config World PyErr Question Answer Dict) :
    Prop where
  created : ∃ eng draws question, ∃ st : Store,
    createRun rt eng draws question spec.id = .ok st ∧ st.run.spec = spec ∧
      Prog.Reach (Resumes rt) World.lose (.idle { store := st }) c

end CouncilLogic
