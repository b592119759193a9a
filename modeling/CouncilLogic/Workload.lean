/-
# The workload plan

`workload.py`: before a run is created, and again at every resume, the longest
prompt each stage could need is built and measured.  The plan is within limits
when the question and all projected prompts are; `require_workload_within_limits`
raises otherwise.

Each prompt of a projection draws a marker of its own.  `MarkerDraws` are the
markers of one projection, `PlanDraws` those of the four projections of a plan.

The numbers of a plan are exact wherever the source's are: the stage prompts are really built,
with the templates of `CouncilLogic.Protocol.Prompts`, and measured.  What is a bound in the
source is a bound here, in particular the repair prompt, which is that of a response padded with
NUL characters (`src/model_council/workload.py`).  `plainQuestionCapacity` measures how the
prompts grow with a plain question, from three projections, and computes how many characters still
fit.
-/

import CouncilLogic.Models
import CouncilLogic.Protocol.Aggregate
import CouncilLogic.Protocol.Prompts

namespace CouncilLogic
namespace Workload

open Protocol

/-- `_filled(prefix, length)`: cut or padded with `x` to the length. -/
def filled (text : Str) (length : ℕ) : Str :=
  if length ≤ text.length then text.take length
  else text ++ List.replicate (length - text.length) 120

/-- The items of a maximal list field. -/
def filledItems (text : Str) (count length : ℕ) : List Str :=
  (List.range count).map fun i => filled (text ++ Str.ofNat (i + 1) ++ lit ": ") length

/-- `maximum_proposal_artifact(label)`. -/
def maximumProposalArtifact (label : Str) : ProposalArtifact where
  outcome := filled (label ++ lit " outcome: ") proposalOutcomeMaxChars
  evidenceAndReasoning :=
    filledItems (label ++ lit " reason ") proposalReasonMaxItems proposalReasonMaxChars
  uncertainty :=
    filledItems (label ++ lit " uncertainty ") proposalUncertaintyMaxItems
      proposalUncertaintyMaxChars
  verificationNeeded :=
    filledItems (label ++ lit " verification ") proposalVerificationMaxItems
      proposalVerificationMaxChars

/-- The labels of `n` candidates. -/
def labelsOf (n : ℕ) : List Str := (List.range n).map candidateLabel

/-- Artifacts by label, as the dictionary the prompt builders take. -/
def artifactDict (artifacts : List (Str × ProposalArtifact)) : Dict :=
  artifacts.map fun e => (e.1, .obj e.2.toDict)

/-- The projected artifacts. -/
def projectedArtifacts (n : ℕ) : Dict :=
  artifactDict ((labelsOf n).map fun label => (label, maximumProposalArtifact label))

/-- The projected aggregate: a tie of all candidates with every list full. -/
def projectedAggregate (n : ℕ) : Aggregate where
  winner := none
  outcome := if labelsOf n = [] then .invalid else .tie
  consensus := .divided
  ranking := labelsOf n
  bordaPoints := (labelsOf n).map fun label => (label, n * (n - 1))
  winCounts := (labelsOf n).map fun label => (label, n)
  tie := decide (labelsOf n ≠ [])
  tiedCandidates := labelsOf n
  validJudgments := n
  countedJudgments := n
  abstentions := 0
  invalidJudgments := 0
  invalidJudgmentReasons := []
  hasMaterialDisagreement := true
  materialDisagreements :=
    filledItems (lit "disagreement ") (n * juryListMaxItems) juryListItemMaxChars
  verificationNeeded :=
    filledItems (lit "verification ") (n * juryListMaxItems) juryListItemMaxChars

/-- The projected ballots: the `i`-th juror picks the `i`-th candidate. -/
def projectedJuries (n : ℕ) : List Dict :=
  (List.range n).map fun i =>
    JuryDecision.toDict ⟨(labelsOf n)[i % (labelsOf n).length]?, labelsOf n, .medium, false⟩

/-- The smallest useful ballot, dumped. -/
def repairObject : Str :=
  Json.dumpsCompact (.obj
    [(lit "winner", .null), (lit "ranking", .arr []), (lit "confidence", .str (lit "low")),
      (lit "abstain", .bool true), (lit "rationale", .str []),
      (lit "material_disagreements", .arr []), (lit "verification_needed", .arr [])])

/-- The markers drawn for the prompts of one projection. -/
abbrev MarkerDraws := Stage → Marker

/-- Projected prompt lengths; the repair prompt only when repairs are allowed. -/
structure StageChars where
  proposal : ℕ
  jury : ℕ
  synthesis : ℕ
  juryRepair : Option ℕ
  deriving DecidableEq

/-- The projection as the dictionary of the plan. -/
def StageChars.toList (c : StageChars) : List (Stage × ℕ) :=
  [(.proposal, c.proposal), (.jury, c.jury), (.synthesis, c.synthesis)] ++
    (c.juryRepair.map fun chars => (Stage.juryRepair, chars)).toList

/-- `_stage_prompt_chars(question, providers, policy)` for `n` providers. -/
def stagePromptChars (rt : Runtime) (draws : MarkerDraws) (question : Str) (n : ℕ)
    (policy : RunPolicy) : Except PyErr StageChars := do
  let proposal ← proposalPrompts question (draws .proposal).text
  let jury ← juryPrompts question (projectedArtifacts n) (draws .jury).text
  let synthesis ← synthesisPrompts question (projectedArtifacts n)
    ((projectedAggregate n).toDict protocolId protocolVersion) (projectedJuries n)
    (draws .synthesis).text
  let repair ←
    if policy.juryRepairAttempts ≠ 0 then do
      let (prompts, _) ← juryRepairPrompts rt
        (List.replicate (juryRepairInputMaxChars - repairObject.length) 0 ++ repairObject)
        (List.replicate juryRepairErrorMaxChars 0) (labelsOf n) (draws .juryRepair).text
      .ok (some (combinedPromptChars prompts))
    else .ok none
  .ok ⟨combinedPromptChars proposal, combinedPromptChars jury, combinedPromptChars synthesis,
    repair⟩

/-! ### Capacity for plain text -/

/-- The markers of the four projections of a plan: the question itself, `"x"`,
`"xx"` and the question with an `x` appended. -/
structure PlanDraws where
  current : MarkerDraws
  plainOne : MarkerDraws
  plainTwo : MarkerDraws
  appended : MarkerDraws

/-- Growth of each stage for one more plain character, when it is the same from
`"x"` to `"xx"` and from the question to the longer question. -/
def growthOf (one two current appended : StageChars) : Option (List (Stage × ℤ)) :=
  let rows := ((one.toList.zip two.toList).zip (current.toList.zip appended.toList)).map
    fun r => (r.1.1.1, (r.1.2.2 : ℤ) - r.1.1.2, (r.2.2.2 : ℤ) - r.2.1.2)
  if rows.any fun r => decide (r.2.1 < 0) || r.2.2 != r.2.1 then none
  else some (rows.map fun r => (r.1, r.2.1))

/-- Capacity of one stage: `none` when the question does not count. -/
def stageCapacity (maxChars plainOne amount : ℤ) : Option ℤ :=
  if amount = 0 then (if plainOne ≤ maxChars then none else some 0)
  else some (max 0 ((maxChars - (plainOne - amount)) / amount))

/-- What `_plain_question_capacity` returns. -/
structure PlainCapacity where
  effectiveMaximum : Option ℤ
  headroom : Option ℤ
  limitingStages : List Str

/-- `_plain_question_capacity(question, providers, policy, current_stage_chars)`. -/
def plainQuestionCapacity (rt : Runtime) (draws : PlanDraws) (question : Str) (n : ℕ)
    (policy : RunPolicy) (current : StageChars) : Except PyErr PlainCapacity := do
  let one ← stagePromptChars rt draws.plainOne (lit "x") n policy
  let two ← stagePromptChars rt draws.plainTwo (lit "xx") n policy
  let appended ← stagePromptChars rt draws.appended (question ++ lit "x") n policy
  match growthOf one two current appended with
  | none => .ok ⟨none, none, []⟩
  | some growth =>
    let capacities := (growth.zip one.toList).map fun r =>
      (r.1.1, stageCapacity policy.maxStagePromptChars r.2.2 r.1.2)
    let effective :=
      (capacities.filterMap Prod.snd).foldl min policy.maxQuestionChars
    let limiting := Str.sorted
      ((capacities.filter fun c => c.2 = some effective).map fun c => c.1.name)
    let headroom := (growth.zip current.toList).foldl
      (fun h r =>
        if policy.maxStagePromptChars < r.2.2 then 0
        else if r.1.2 ≠ 0 then min h ((policy.maxStagePromptChars - r.2.2) / r.1.2)
        else h)
      (max 0 (policy.maxQuestionChars - question.length))
    .ok ⟨some effective, some (max 0 headroom), limiting⟩

/-! ### The plan -/

/-- `estimate_workload(…)`. -/
structure Plan where
  questionChars : ℕ
  questionUtf8Valid : Bool
  providers : List Str
  synthesisProviders : List Str
  mandatoryCalls : ℤ
  recoveryCallCapacity : ℤ
  stagePromptChars : StageChars
  maxQuestionChars : ℤ
  maxStagePromptChars : ℤ
  questionLimitExceeded : Bool
  promptLimitExceededStages : List Stage
  capacity : PlainCapacity

/-- `within_limits` of a plan. -/
def Plan.withinLimits (p : Plan) : Bool :=
  p.questionUtf8Valid && decide ((p.questionChars : ℤ) ≤ p.maxQuestionChars) &&
    p.promptLimitExceededStages.isEmpty

/-- The plan as the payload of its event and as a part of the result. -/
def Plan.toDict (p : Plan) : Dict :=
  [(lit "question_chars", .int p.questionChars),
    (lit "question_utf8_valid", .bool p.questionUtf8Valid),
    (lit "provider_count", .int p.providers.length),
    (lit "providers", .arr (p.providers.map .str)),
    (lit "synthesis_provider", optStr p.synthesisProviders.head?),
    (lit "synthesis_providers", .arr (p.synthesisProviders.map .str)),
    (lit "mandatory_calls", .int p.mandatoryCalls),
    (lit "recovery_call_capacity", .int p.recoveryCallCapacity),
    (lit "stage_prompt_chars",
      .obj (p.stagePromptChars.toList.map fun c => (c.1.name, .int c.2))),
    (lit "max_question_chars", .int p.maxQuestionChars),
    (lit "max_stage_prompt_chars", .int p.maxStagePromptChars),
    (lit "limits", .obj [(lit "question_chars", .int p.maxQuestionChars),
      (lit "stage_prompt_chars", .int p.maxStagePromptChars)]),
    (lit "question_limit_exceeded", .bool p.questionLimitExceeded),
    (lit "prompt_limit_exceeded_stages",
      .arr ((Str.sorted (p.promptLimitExceededStages.map Stage.name)).map .str)),
    (lit "limiting_stages", .arr (p.capacity.limitingStages.map .str)),
    (lit "within_limits", .bool p.withinLimits),
    (lit "effective_plain_question_max_chars", optInt p.capacity.effectiveMaximum),
    (lit "plain_question_headroom_chars", optInt p.capacity.headroom),
    (lit "plain_question_basis", .str (lit "unescaped ASCII characters")),
    (lit "estimate_basis", .str (lit "protocol-character-upper-bound"))]

/-- `estimate_workload(question, provider_names, policy, synthesis_providers=…)`. -/
def estimateWorkload (rt : Runtime) (draws : PlanDraws) (question : Str) (providers : List Str)
    (policy : RunPolicy) (synthesisProviders : List Str) : Except PyErr Plan := do
  let chars ← stagePromptChars rt draws.current question providers.length policy
  let capacity ← plainQuestionCapacity rt draws question providers.length policy chars
  let mandatory : ℤ := providers.length * 2 + synthesisProviders.length
  .ok {
    questionChars := question.length
    questionUtf8Valid := Str.encodable question
    providers := providers
    synthesisProviders := synthesisProviders
    mandatoryCalls := mandatory
    recoveryCallCapacity :=
      max 0 (policy.maxCalls - providers.length * 2 - synthesisProviders.length)
    stagePromptChars := chars
    maxQuestionChars := policy.maxQuestionChars
    maxStagePromptChars := policy.maxStagePromptChars
    questionLimitExceeded := decide (policy.maxQuestionChars < question.length)
    promptLimitExceededStages :=
      (chars.toList.filter fun c => decide (policy.maxStagePromptChars < c.2)).map Prod.fst
    capacity := capacity }

/-- `require_workload_within_limits(plan)`. -/
def requireWorkloadWithinLimits (plan : Plan) : Except PyErr Unit :=
  if plan.questionUtf8Valid = false then
    .error (.valueError (lit ("Question contains Unicode surrogate code points and cannot " ++
      "be encoded as UTF-8")))
  else if plan.questionLimitExceeded then
    .error (.valueError
      (lit "Question is too large for the configured council workload: " ++
        Str.ofNat plan.questionChars ++ lit " characters exceeds " ++
        Str.ofInt plan.maxQuestionChars))
  else if plan.promptLimitExceededStages = [] then .ok ()
  else
    let exceeded := plan.stagePromptChars.toList.filter fun c =>
      c.1 ∈ plan.promptLimitExceededStages
    let names := Str.sorted (exceeded.map fun c => c.1.name)
    let details := names.map fun name =>
      name ++ lit "=" ++ Str.ofNat
        (((exceeded.find? fun c => c.1.name = name).map Prod.snd).getD 0)
    .error (.valueError
      (lit "Projected council prompt growth exceeds max_stage_prompt_chars=" ++
        Str.ofInt plan.maxStagePromptChars ++ lit ": " ++ Str.join (lit ", ") details))

end Workload
end CouncilLogic
