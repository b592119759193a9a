/-
# What the council says

The texts of the run that `Engine.CouncilRun` follows through
`src/model_council/engine.py`, and what `src/model_council/protocol.py` makes of them.  Both
members propose the same and vote the same, but one of the two ballots states no rationale at
first, so it does not parse and is repaired by a call of its own.

The parsers and the aggregation are evaluated on these texts.  The prompts of the four
stages are not: they are built, they are short enough for the policy, and they can be
encoded, and that is all the run needs of them.  A `Council` is a choice of prompts, plan and
opening events with these facts, and `exists_council` is that there is one: the marker is
written in nines, which none of the payloads shows, and the lengths of the templates are
known from the projection.
-/

import CouncilLogic.Engine.Council

namespace CouncilLogic

open Protocol Workload

/-! ### What the members say -/

/-- The candidates behind their labels. -/
def councilMapping : Mapping :=
  [(candidateLabel 0, lit "duo"), (candidateLabel 1, lit "solo")]

/-- Both members propose the same. -/
def councilProposal : ProposalArtifact := ⟨lit "Ship it.", [lit "Tests pass."], [], []⟩

def proposalText : Str := Json.dumpsAscii (.obj councilProposal.toDict)

def councilProposals : List Proposal :=
  [⟨lit "solo", answeredBy proposalText, councilProposal⟩,
    ⟨lit "duo", answeredBy proposalText, councilProposal⟩]

/-- Both members vote the same. -/
def councilBallot : JuryArtifact :=
  ⟨⟨some (candidateLabel 0), [candidateLabel 0, candidateLabel 1], .high, false⟩,
    lit "Clear.", [], []⟩

def ballotText : Str := Json.dumpsAscii (.obj councilBallot.toDict)

/-- One of them states no rationale at first. -/
def brokenText : Str :=
  Json.dumpsAscii (.obj (councilBallot.toDict.set (lit "rationale") (.int 0)))

def brokenError : Str := lit "rationale must be a non-empty string"

/-- Every juror sees the candidates in the order of their labels. -/
def councilOrder : List Str := [candidateLabel 0, candidateLabel 1]

/-- The candidates as the prompts show them. -/
def councilCandidates : Dict := candidatesOf councilMapping councilProposals councilOrder

/-- The records of the two ballots, the first one repaired. -/
def councilRecords : List Dict :=
  [validJuryRecord (lit "solo") (answeredBy brokenText) councilMapping councilOrder councilBallot,
    validJuryRecord (lit "duo") (answeredBy ballotText) councilMapping councilOrder councilBallot]

/-- The vote is unanimous. -/
def councilAggregate : Aggregate where
  winner := some (lit "duo")
  outcome := .winner
  consensus := .unanimous
  ranking := [lit "duo", lit "solo"]
  bordaPoints := [(lit "duo", 2), (lit "solo", 0)]
  winCounts := [(lit "duo", 2), (lit "solo", 0)]
  tie := false
  tiedCandidates := []
  validJudgments := 2
  countedJudgments := 2
  abstentions := 0
  invalidJudgments := 0
  invalidJudgmentReasons := []
  hasMaterialDisagreement := false
  materialDisagreements := []
  verificationNeeded := []

/-- The votes as the synthesis sees them. -/
def councilVotes : List Dict :=
  match councilRecords.mapM (anonymizeJury councilMapping) with
  | .ok votes => votes
  | .error _ => []

/-- The vote as the synthesis sees it. -/
def anonymousVote : Dict :=
  (anonymizeAggregate councilMapping councilAggregate).toDict protocolId protocolVersion

/-! ### What the run keeps of it -/

namespace Council

/-- What is kept of the repair. -/
def repairRecord : Dict :=
  repairAudit (lit "solo") (lit "recovered") brokenError ++
    [(lit "decision_preserved", .bool true), (lit "repair_resolved_model", .str (lit "m"))]

/-- The failure that makes the chain advance. -/
def filteredFailure : Dict := failureOf .synthesis (lit "solo") filteredError.toDict

/-- What the fallback provider writes. -/
def answerText : Str := lit "## Outcome\nCANDIDATE_01 is supported.\n## Consensus\nAll agree."

/-- The store after these answers and events. -/
def storeOf (rows : List Invocation) (events : List Event) : Store where
  run := { spec := councilSpec, status := .running }
  invocations := rows
  events := events
  nextId := rows.length

/-- The report on the chain does not show the prompts. -/
def blankRows : List Invocation :=
  [councilRow 5 .synthesis soloMember ([], []) (.failed filteredError),
    councilRow 6 .synthesis duoMember ([], []) (.succeeded (answeredBy answerText))]

end Council

/-! ### What is evaluated -/

/-- A text that a prompt shows: the marker of the run does not occur in it, and it can be
encoded. -/
structure Showable (text : Str) : Prop where
  unshown : 57 ∉ text
  encodable : Str.encodable text = true

/-- The record that a repair prompt shows. -/
def brokenRecord : Json :=
  repairRecord councilMapping.labels councilBallot.decision (Str.strip brokenError)
    (Str.strip brokenText)

/-- The fields of the object that a synthesis prompt shows. -/
def councilFields : Dict :=
  [(lit "question", .str councilSpec.question), (lit "candidates", .obj councilCandidates),
    (lit "aggregate", .obj anonymousVote), (lit "jury_votes", .arr (councilVotes.map compactJury))]

/-- What the parsers, the aggregation and the prompts make of what the members say. -/
structure CouncilFacts : Prop where
  encodable : Str.encodable proposalText = true ∧ Str.encodable ballotText = true ∧
    Str.encodable brokenText = true
  proposal : parseProposal exampleRuntime proposalText = .ok councilProposal
  ballot : parseJury exampleRuntime ballotText councilMapping.labels = .ok councilBallot
  broken : parseJury exampleRuntime brokenText councilMapping.labels =
    .error (.valueError brokenError)
  /-- The ballot that does not parse still states its decision. -/
  found : Decode.extractJsonObject exampleRuntime [] (Str.strip brokenText) =
    .ok (councilBallot.toDict.set (lit "rationale") (.int 0))
  short : (Str.strip brokenText).length ≤ juryRepairInputMaxChars ∧
    (Str.strip brokenError).length ≤ juryRepairErrorMaxChars
  counted : (do
    let judgments ← judgmentsOf councilRecords
    aggregateJuries exampleRuntime judgments (councilProposals.map Proposal.provider)) =
      .ok councilAggregate
  valid : councilRecords.filter isValidRecord = councilRecords
  anonymized : councilRecords.mapM (anonymizeJury councilMapping) = .ok councilVotes
  candidates : checkCandidates councilCandidates = .ok ()
  evaluation : Showable (evaluationPayload councilSpec.question councilCandidates)
  record : Showable (payload brokenRecord)
  synthesis : Showable (councilPayload councilSpec.question councilCandidates anonymousVote
    councilVotes)
  labels : Str.encodable (payload (.arr (councilCandidates.keys.map .str))) = true
  labels_width : Json.width 0 (.arr (councilCandidates.keys.map .str)) ≤ 100
  jury_width : Json.width 0 (.obj [(lit "question", .str councilSpec.question),
    (lit "candidates", .obj councilCandidates)]) ≤ 9000
  record_width : Json.width 0 brokenRecord ≤ 9000
  synthesis_width : Json.width 0 (.obj councilFields) ≤ 9000

/-- What the run writes and reads back of what the members say. -/
structure CouncilRecorded : Prop where
  readNamespace : readNamespace exampleRuntime councilSpec.config (lit "run")
    (Dict.canon (namespacePayload councilMapping [])) = .ok ⟨councilMapping, []⟩
  readAdjudication : readAdjudication exampleRuntime councilSpec.config ⟨councilMapping, []⟩
    (Dict.canon (adjudicationPayload councilMapping councilRecords [])) =
      .ok ⟨councilRecords.map Dict.canon, []⟩
  /-- The repaired ballot states the decision of the broken one. -/
  readRepair : readRepair exampleRuntime councilMapping councilBallot.decision ballotText =
    .ok councilBallot
  repair : Json.storableFields exampleRuntime Council.repairRecord = true
  adjudication : Json.storableFields exampleRuntime
    (adjudicationPayload councilMapping councilRecords []) = true
  fallback : Json.storableFields exampleRuntime
    (fallbackPayload 1 (lit "solo") (lit "duo") Council.filteredFailure) = true
  /-- The report on the members that vote for themselves can be stored. -/
  votes : (match selfVoteReport exampleRuntime (councilRecords.map voteOf)
      (councilAggregate.bordaPoints.map Prod.fst) councilAggregate with
    | .ok report => Json.storable exampleRuntime (.obj report.toDict)
    | .error _ => false) = true
  summary : Json.storable exampleRuntime (.obj (synthesisSummary councilEngine.toRunConfig
    (Council.storeOf Council.blankRows []) [Council.filteredFailure]).toDict) = true

/-- All of it is evaluated. -/
theorem council_evaluated : CouncilFacts ∧ CouncilRecorded := by
  refine ⟨?_, ?_⟩
  · exact {
      encodable := by decide +kernel
      proposal := by decide +kernel
      ballot := by decide +kernel
      broken := by decide +kernel
      found := by decide +kernel
      short := by decide +kernel
      counted := by decide +kernel
      valid := by decide +kernel
      anonymized := by decide +kernel
      candidates := by decide +kernel
      evaluation := ⟨by decide +kernel, by decide +kernel⟩
      record := ⟨by decide +kernel, by decide +kernel⟩
      synthesis := ⟨by decide +kernel, by decide +kernel⟩
      labels := by decide +kernel
      labels_width := by decide +kernel
      jury_width := by decide +kernel
      record_width := by decide +kernel
      synthesis_width := by decide +kernel }
  · exact {
      readNamespace := by decide +kernel
      readAdjudication := by decide +kernel
      readRepair := by decide +kernel
      repair := by decide +kernel
      adjudication := by decide +kernel
      fallback := by decide +kernel
      votes := by decide +kernel
      summary := by decide +kernel }

/-- The texts of the example can be printed and contain no nine but for the markers. -/
theorem council_facts : CouncilFacts := council_evaluated.1

/-- The records of the example's ballots can be printed, and the vote over them is the one that
the result reports. -/
theorem council_recorded : CouncilRecorded := council_evaluated.2

/-! ### The prompts -/

/-- What the first resume has written before its stages. -/
def openingEvents (marker started preflight : Dict) : List Event :=
  [⟨.untrustedMarker, marker⟩, ⟨.runStarted, started⟩, ⟨.workloadPreflight, preflight⟩]

/-- What the run of the council depends on and nobody wants to print: the plan, the events
of the opening, and the prompts of its stages. -/
structure Council where
  marker : Dict
  started : Dict
  preflight : Dict
  plan : Plan
  proposal : PromptPair
  jury : PromptPair
  repair : PromptPair
  synthesis : PromptPair
  opening : Opening exampleRuntime councilEngine councilSpec nines plan
    (openingEvents marker started preflight)
  proposal_built : proposalPrompts councilSpec.question nines.text = .ok proposal
  jury_built : juryPrompts councilSpec.question councilCandidates nines.text = .ok jury
  repair_built : juryRepairPrompts exampleRuntime brokenText brokenError councilMapping.labels
    nines.text = .ok (repair, councilBallot.decision)
  synthesis_built : synthesisStagePrompts councilSpec.question nines.text councilMapping
    councilCandidates councilRecords councilAggregate = .ok synthesis
  proposal_sent : Sendable proposal
  jury_sent : Sendable jury
  repair_sent : Sendable repair
  synthesis_sent : Sendable synthesis

/-- The proposal prompts of the example can be made, and they are short enough to be sent. -/
theorem exists_proposalPrompts : ∃ prompts,
    proposalPrompts councilSpec.question nines.text = .ok prompts ∧ Sendable prompts := by
  obtain ⟨prompts, hprompts⟩ := exists_examplePrompts
  refine ⟨prompts, hprompts.built, decide_eq_true ?_, hprompts.encodable⟩
  have hfit : (combinedPromptChars prompts : ℤ) ≤ exampleMaxChars := of_decide_eq_true hprompts.fit
  show (combinedPromptChars prompts : ℤ) ≤ councilMaxChars
  unfold councilMaxChars
  omega

/-- The jury prompts of the example can be made, and they are short enough to be sent. -/
theorem exists_juryPrompts : ∃ prompts,
    juryPrompts councilSpec.question councilCandidates nines.text = .ok prompts ∧
      Sendable prompts := by
  have hcheck : checkQuestion councilSpec.question = .ok () := by decide
  have hcandidates := council_facts.candidates
  have hmarker : checkedMarker nines.text (evaluationPayload councilSpec.question
      councilCandidates) = .ok nines.text :=
    checkedMarker_text (contains_nines council_facts.evaluation.unshown)
  obtain ⟨prompts, hbuilt⟩ : ∃ prompts,
      juryPrompts councilSpec.question councilCandidates nines.text = .ok prompts := by
    unfold juryPrompts
    simp only [bind, Except.bind, hcheck, hcandidates, hmarker]
    exact ⟨_, rfl⟩
  refine ⟨prompts, hbuilt, decide_eq_true ?_, ?_⟩
  · have hchars := chars_juryPrompts hbuilt
    have hlabels := council_facts.labels_width
    have hwidth := council_facts.jury_width
    have hlength : nines.text.length = 16 := nines.length_text
    show (combinedPromptChars prompts : ℤ) ≤ councilMaxChars
    unfold councilMaxChars exampleMaxChars
    generalize combinedPromptChars (proposalSystemTemplate, proposalUser [] []) = a at *
    generalize combinedPromptChars (jurySystemTemplate, juryUser [] [] []) = b at *
    generalize combinedPromptChars (synthesisSystemTemplate, synthesisUser [] []) = d at *
    generalize combinedPromptChars prompts = e at *
    generalize Json.width 0 (.arr (councilCandidates.keys.map .str)) = f at *
    generalize Json.width 0 (.obj [(lit "question", .str councilSpec.question),
          (lit "candidates", .obj councilCandidates)]) = g at *
    omega
  · have hpayload := council_facts.evaluation.encodable
    have hlabels := council_facts.labels
    have htext : Str.encodable nines.text = true := by decide
    rw [juryPrompts_ok hbuilt]
    unfold combinedPrompt juryUser jurySystemTemplate
    simp only [encodable_append, encodable_lit, hpayload, hlabels, htext, Bool.and_self]

/-- The repair prompts of the example's broken ballot can be made, and its decision is the one
that the repaired ballot has. -/
theorem exists_repairPrompts : ∃ prompts,
    juryRepairPrompts exampleRuntime brokenText brokenError councilMapping.labels nines.text =
        .ok (prompts, councilBallot.decision) ∧ Sendable prompts := by
  have hrepairable : Repairable exampleRuntime brokenText brokenError councilMapping.labels
      (councilBallot.toDict.set (lit "rationale") (.int 0)) councilBallot.decision :=
    ⟨by decide, council_facts.short.1, by decide, council_facts.short.2,
      Decode.extractJsonObject_iff.1 council_facts.found, by decide, by decide⟩
  have hmarker : checkedMarker nines.text (payload brokenRecord) = .ok nines.text :=
    checkedMarker_text (contains_nines council_facts.record.unshown)
  have hbuilt := juryRepairPrompts_iff.2 ⟨⟨_, hrepairable⟩, hmarker, rfl⟩
  refine ⟨_, hbuilt, decide_eq_true ?_, ?_⟩
  · have hchars := chars_juryRepairPrompts hbuilt
    have htemplates := chars_repairTemplates
    have hwidth : Json.width 0 (repairRecord councilMapping.labels councilBallot.decision
        (Str.strip brokenError) (Str.strip brokenText)) ≤ 9000 := council_facts.record_width
    have hlength : nines.text.length = 16 := nines.length_text
    have hnonneg := exampleMaxChars_nonneg
    show (combinedPromptChars _ : ℤ) ≤ councilMaxChars
    rw [hchars]
    unfold councilMaxChars
    generalize combinedPromptChars (juryRepairSystemTemplate, juryRepairUser [] []) = a at *
    generalize Json.width 0 (repairRecord councilMapping.labels councilBallot.decision
        (Str.strip brokenError) (Str.strip brokenText)) = b at *
    generalize exampleMaxChars = m at *
    omega
  · have hpayload : Str.encodable (payload (repairRecord councilMapping.labels
        councilBallot.decision (Str.strip brokenError) (Str.strip brokenText))) = true :=
      council_facts.record.encodable
    have htext : Str.encodable nines.text = true := by decide
    unfold combinedPrompt juryRepairUser juryRepairSystemTemplate
    simp only [encodable_append, encodable_lit, hpayload, htext, Bool.and_self]

/-- The synthesis prompts of the example can be made, and they are short enough to be sent. -/
theorem exists_synthesisPrompts : ∃ prompts,
    synthesisStagePrompts councilSpec.question nines.text councilMapping councilCandidates
        councilRecords councilAggregate = .ok prompts ∧ Sendable prompts := by
  have hcheck : checkQuestion councilSpec.question = .ok () := by decide
  have hcandidates := council_facts.candidates
  have hmarker : checkedMarker nines.text (councilPayload councilSpec.question councilCandidates
      anonymousVote councilVotes) = .ok nines.text :=
    checkedMarker_text (contains_nines council_facts.synthesis.unshown)
  obtain ⟨prompts, hbuilt⟩ : ∃ prompts, synthesisPrompts councilSpec.question councilCandidates
      anonymousVote councilVotes nines.text = .ok prompts := by
    unfold synthesisPrompts
    simp only [bind, Except.bind, hcheck, hcandidates, hmarker]
    exact ⟨_, rfl⟩
  refine ⟨prompts, ?_, decide_eq_true ?_, ?_⟩
  · unfold synthesisStagePrompts
    simp only [bind, Except.bind, council_facts.anonymized]
    exact hbuilt
  · have hchars := chars_synthesisPrompts hbuilt
    have hwidth : Json.width 0 (.obj [(lit "question", .str councilSpec.question),
        (lit "candidates", .obj councilCandidates), (lit "aggregate", .obj anonymousVote),
        (lit "jury_votes", .arr (councilVotes.map compactJury))]) ≤ 9000 :=
      council_facts.synthesis_width
    have hlength : nines.text.length = 16 := nines.length_text
    show (combinedPromptChars prompts : ℤ) ≤ councilMaxChars
    unfold councilMaxChars exampleMaxChars
    generalize combinedPromptChars (proposalSystemTemplate, proposalUser [] []) = a at *
    generalize combinedPromptChars (jurySystemTemplate, juryUser [] [] []) = b at *
    generalize combinedPromptChars (synthesisSystemTemplate, synthesisUser [] []) = d at *
    generalize combinedPromptChars prompts = e at *
    generalize Json.width 0 (.obj [(lit "question", .str councilSpec.question),
        (lit "candidates", .obj councilCandidates), (lit "aggregate", .obj anonymousVote),
        (lit "jury_votes", .arr (councilVotes.map compactJury))]) = g at *
    omega
  · have hpayload := council_facts.synthesis.encodable
    have htext : Str.encodable nines.text = true := by decide
    rw [synthesisPrompts_ok hbuilt]
    unfold combinedPrompt synthesisUser synthesisSystemTemplate
    simp only [encodable_append, encodable_lit, hpayload, htext, Bool.and_self]

/-- **There is such a run.** -/
theorem exists_council : Nonempty Council := by
  obtain ⟨plan, events, h⟩ := councilRun_opening
  obtain ⟨marker, started, preflight, -, -, -, rfl⟩ := h.written
  obtain ⟨proposal, hproposal, hproposal'⟩ := exists_proposalPrompts
  obtain ⟨jury, hjury, hjury'⟩ := exists_juryPrompts
  obtain ⟨repair, hrepair, hrepair'⟩ := exists_repairPrompts
  obtain ⟨synthesis, hsynthesis, hsynthesis'⟩ := exists_synthesisPrompts
  exact ⟨{ marker, started, preflight, plan, proposal, jury, repair, synthesis
           opening := h
           proposal_built := hproposal, jury_built := hjury, repair_built := hrepair
           synthesis_built := hsynthesis, proposal_sent := hproposal', jury_sent := hjury'
           repair_sent := hrepair', synthesis_sent := hsynthesis' }⟩

end CouncilLogic
