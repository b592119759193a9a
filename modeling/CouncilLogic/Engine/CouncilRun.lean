/-
# The run of the council, to its end

A resume of `src/model_council/engine.py` that goes through every phase of a run and
completes it.  Both members propose; the candidates are named and locked; both vote, and one
ballot is repaired; the vote is locked and decided; the provider in front of the synthesis
chain filters its answer, the chain advances, and the fallback provider writes the answer
that the run is completed with.

The run is a witness for what is proved of all runs about completed results, locks, the
synthesis chain and repairs.

The worlds are named after what has just happened, from `Council.opened` to
`Council.finished`.  The rows and events of each are written out once (`Council.named_store`
and so on), since every later step looks at them, and each step of the run is a theorem from
one world to the next.
-/

import CouncilLogic.Engine.CouncilPrompts

namespace CouncilLogic

open Protocol Workload

namespace Council

variable (c : Council)

/-! ### The proposals -/

/-- The stages begin. -/
def opened : World where
  store := .opened councilSpec (openingEvents c.marker c.started c.preflight)

/-- What the stages of the resume have in common. -/
def context : RunContext := ⟨councilSpec, nines.text, 900, c.plan⟩

/-- Both members have proposed. -/
def proposed : World := c.opened.bothAnswered .proposal c.proposal proposalText proposalText

/-- The candidates are locked. -/
def named : World :=
  c.proposed.withStore (c.proposed.store.addEvent .candidateNamespaceLocked
    (Dict.canon (namespacePayload councilMapping [])))

/-- A run that has been created has no rows yet. -/
theorem opened_wellFormed : c.opened.store.WellFormed :=
  ⟨List.nodup_nil, List.nodup_nil, fun _ hr => absurd hr List.not_mem_nil⟩

def namedRows : List Invocation :=
  [councilRow 0 .proposal soloMember c.proposal (.succeeded (answeredBy proposalText)),
    councilRow 1 .proposal duoMember c.proposal (.succeeded (answeredBy proposalText))]

def namedEvents : List Event :=
  openingEvents c.marker c.started c.preflight ++
    [⟨.candidateNamespaceLocked, Dict.canon (namespacePayload councilMapping [])⟩]

/-- What is in the store when the candidates are locked: two rows, and the events up to the lock.
-/
theorem named_store : c.named.store = storeOf c.namedRows c.namedEvents := by
  unfold named proposed
  rw [World.withStore_store, World.bothAnswered_store c.opened_wellFormed (fun _ => rfl)]
  rfl

/-- The store with the two proposals is well formed. -/
theorem named_wellFormed : c.named.store.WellFormed :=
  (World.bothAnswered_wellFormed c.opened_wellFormed (fun _ => rfl) _ _ _).withEvents _

/-- Both members' texts are read as proposals, and neither fails. -/
theorem parseProposals_eq : parseProposals exampleRuntime
    [(lit "solo", answeredBy proposalText), (lit "duo", answeredBy proposalText)] =
      .ok (councilProposals, []) := by
  have hparse : parseProposal exampleRuntime (answeredBy proposalText).content =
      .ok councilProposal := council_facts.proposal
  simp only [parseProposals, hparse, bind, Except.bind]
  rfl

/-- **The proposals**: both members are asked, both answer, and both answers are proposals. -/
theorem ends_proposed :
    Prog.Ends (proposalPhase exampleRuntime councilEngine c.context none) c.opened
      (councilProposals, [], []) c.proposed := by
  have hstage : Prog.Ends (runParallelStage exampleRuntime councilEngine
      (proposalArgs 900 c.proposal councilEngine.names)) c.opened
      ⟨[(lit "solo", answeredBy proposalText), (lit "duo", answeredBy proposalText)], [], []⟩
      c.proposed :=
    ends_bothAnswered rfl rfl rfl rfl c.opened_wellFormed c.proposal_sent
      (show ((0 : ℕ) : ℤ) < 900 by omega) (fun _ => rfl) ⟨rfl, rfl⟩
      (show 2 ≤ 16 - 4 by decide) council_facts.encodable.1 council_facts.encodable.1
  unfold proposalPhase
  refine (Prog.ends_ofExcept c.proposal_built _).seq ?_
  refine hstage.seq ?_
  refine (Prog.ends_ofExcept parseProposals_eq _).seq ?_
  exact (Prog.ends_pure _ _).seq (Prog.ends_pure _ _)

/-- **The lock of the candidates**: it is written with the mapping of the example and read back as
it was written. -/
theorem ends_named :
    Prog.Ends (lockCandidateNamespace exampleRuntime councilEngine.toRunConfig (lit "run")
        councilMapping []) c.proposed ⟨councilMapping, []⟩ c.named := by
  have hstored : Dict.store exampleRuntime (lit "$.event") (namespacePayload councilMapping []) =
      .ok _ := Dict.store_ok (by decide) _
  have hload : loadCandidateNamespaceLock exampleRuntime councilEngine.toRunConfig (lit "run")
      c.named.store.events = .ok (some ⟨councilMapping, []⟩) := by
    show (readNamespace exampleRuntime councilSpec.config (lit "run")
      (Dict.canon (namespacePayload councilMapping []))).map some = _
    rw [council_recorded.readNamespace]
    rfl
  unfold lockCandidateNamespace
  refine (ends_transact (appendEvent_eq hstored)).seq ?_
  refine (ends_getStore _).seq ?_
  exact (Prog.ends_ofExcept hload _).seq (Prog.ends_pure _ _)

/-! ### The ballots -/

/-- Both members have voted. -/
def voted : World := c.named.bothAnswered .jury c.jury brokenText ballotText

/-- The first ballot is repaired. -/
def repaired : World :=
  c.voted.oneAnswered .juryRepair .jury soloMember c.repair (.succeeded (answeredBy ballotText))

/-- The repair is on record. -/
def audited : World :=
  c.repaired.withStore (c.repaired.store.addEvent .juryArtifactRepair (Dict.canon repairRecord))

def votedRows : List Invocation :=
  c.namedRows ++
    [councilRow 2 .jury soloMember c.jury (.succeeded (answeredBy brokenText)),
      councilRow 3 .jury duoMember c.jury (.succeeded (answeredBy ballotText))]

def repairedRows : List Invocation :=
  c.votedRows ++
    [councilRow 4 .juryRepair soloMember c.repair (.succeeded (answeredBy ballotText))]

def auditedEvents : List Event :=
  c.namedEvents ++ [⟨.juryArtifactRepair, Dict.canon repairRecord⟩]

/-- No juror has been asked yet. -/
theorem named_fresh (name : Str) : c.named.store.slot .jury name = none := by
  rw [c.named_store]
  rfl

/-- The store with the two ballots is well formed. -/
theorem voted_wellFormed : c.voted.store.WellFormed :=
  World.bothAnswered_wellFormed c.named_wellFormed c.named_fresh _ _ _

/-- What is in the store when both jurors have answered. -/
theorem voted_store : c.voted.store = storeOf c.votedRows c.namedEvents := by
  unfold voted
  rw [World.bothAnswered_store c.named_wellFormed c.named_fresh, c.named_store]
  rfl

/-- No repair has been asked for yet. -/
theorem voted_fresh : c.voted.store.slot .juryRepair (lit "solo") = none := by
  rw [c.voted_store]
  rfl

/-- The store with the repaired ballot is well formed. -/
theorem repaired_wellFormed : c.repaired.store.WellFormed :=
  World.oneAnswered_wellFormed c.voted_wellFormed c.voted_fresh _ _

/-- What is in the store when the repair has been answered. -/
theorem repaired_store : c.repaired.store = storeOf c.repairedRows c.namedEvents := by
  unfold repaired
  rw [World.oneAnswered_store c.voted_wellFormed, c.voted_store]
  rfl

/-- What is in the store when the repair has been audited: one event more. -/
theorem audited_store : c.audited.store = storeOf c.repairedRows c.auditedEvents := by
  unfold audited
  rw [World.withStore_store, c.repaired_store]
  rfl

/-- Both jurors are asked the same prompts, since their orders of the two candidates agree. -/
theorem juryStagePrompts_eq : juryStagePrompts c.context councilMapping councilProposals
    (presentationOrders exampleRuntime councilSpec.id councilMapping councilEngine.names) =
      .ok (bothAsked c.jury) := by
  have horders : presentationOrders exampleRuntime councilSpec.id councilMapping
      councilEngine.names = [(lit "solo", councilOrder), (lit "duo", councilOrder)] := by
    decide
  have hbuilt : juryPrompts c.context.spec.question
      (candidatesOf councilMapping councilProposals councilOrder) c.context.marker =
        .ok c.jury := c.jury_built
  rw [horders]
  simp only [juryStagePrompts, hbuilt, bind, Except.bind]
  rfl

/-- Both jurors are asked and both answer; the first one's text is broken. -/
theorem ends_voted :
    Prog.Ends (runParallelStage exampleRuntime councilEngine (juryArgs 900 (bothAsked c.jury)))
      c.named
      ⟨[(lit "solo", answeredBy brokenText), (lit "duo", answeredBy ballotText)], [], []⟩
      c.voted := by
  have hquiet : c.named.store.isAmbiguous (lit "solo") = false ∧
      c.named.store.isAmbiguous (lit "duo") = false := by
    rw [c.named_store]
    exact ⟨rfl, rfl⟩
  have hcapacity : 2 ≤ remainingCalls councilEngine.toRunConfig c.named.store -
      downstreamCallReserve councilEngine.toRunConfig c.named.store .jury
        [lit "solo", lit "duo"] := by
    rw [c.named_store]
    show 2 ≤ 14 - 2
    decide
  exact ends_bothAnswered rfl rfl rfl rfl c.named_wellFormed c.jury_sent
    (show ((0 : ℕ) : ℤ) < 900 by omega) c.named_fresh hquiet hcapacity council_facts.encodable.2.2
    council_facts.encodable.2.1

/-- What is kept of the first ballot until it is repaired. -/
def brokenJury : InvalidJury where
  response := answeredBy brokenText
  presentationOrder := councilOrder
  initialError := brokenError
  repair := some (.ok (c.repair, councilBallot.decision))

/-- The second ballot. -/
def duoRecord : Dict :=
  validJuryRecord (lit "duo") (answeredBy ballotText) councilMapping councilOrder councilBallot

/-- The first ballot does not parse but its decision can be made out, so it may be repaired; the
second one is valid. -/
theorem readJuries_eq : readJuries exampleRuntime councilEngine.policy nines.text councilMapping
    [(lit "solo", councilOrder), (lit "duo", councilOrder)]
    [(lit "solo", answeredBy brokenText), (lit "duo", answeredBy ballotText)]
    councilEngine.names =
      .ok [(lit "solo", .invalid c.brokenJury), (lit "duo", .valid duoRecord)] := by
  have hbroken : parseJury exampleRuntime (answeredBy brokenText).content councilMapping.labels =
      .error (.valueError brokenError) := council_facts.broken
  have hballot : parseJury exampleRuntime (answeredBy ballotText).content councilMapping.labels =
      .ok councilBallot := council_facts.ballot
  have hrepair : juryRepairPrompts exampleRuntime (answeredBy brokenText).content
      (PyErr.valueError brokenError).message councilMapping.labels nines.text =
        .ok (c.repair, councilBallot.decision) := c.repair_built
  have hsolo : readJury exampleRuntime councilEngine.policy nines.text councilMapping (lit "solo")
      councilOrder (answeredBy brokenText) = .ok (.invalid c.brokenJury) := by
    unfold readJury
    rw [hbroken]
    simp only [hrepair]
    rfl
  have hduo : readJury exampleRuntime councilEngine.policy nines.text councilMapping (lit "duo")
      councilOrder (answeredBy ballotText) = .ok (.valid duoRecord) := by
    unfold readJury
    rw [hballot]
    rfl
  have hnames : councilEngine.names = [lit "solo", lit "duo"] := rfl
  have hlookup : List.lookup (lit "solo")
        [(lit "solo", answeredBy brokenText), (lit "duo", answeredBy ballotText)] =
          some (answeredBy brokenText) ∧
      List.lookup (lit "duo")
        [(lit "solo", answeredBy brokenText), (lit "duo", answeredBy ballotText)] =
          some (answeredBy ballotText) := ⟨rfl, rfl⟩
  have horder :
      ([(lit "solo", councilOrder), (lit "duo", councilOrder)].lookup (lit "solo")).getD [] =
          councilOrder ∧
        ([(lit "solo", councilOrder), (lit "duo", councilOrder)].lookup (lit "duo")).getD [] =
          councilOrder := ⟨rfl, rfl⟩
  rw [hnames]
  simp only [readJuries, hlookup, horder, hsolo, hduo, bind, Except.bind]

/-- The budget allows the one repair. -/
theorem selectRepairs_eq : selectRepairs councilEngine.toRunConfig c.voted.store
    [(lit "solo", c.repair)] = [(lit "solo", c.repair)] := by
  have hexisting : repairProviders c.voted.store = [] := by
    rw [c.voted_store]
    rfl
  have hcapacity : newRepairCapacity councilEngine.toRunConfig c.voted.store = 10 := by
    rw [c.voted_store]
    rfl
  unfold selectRepairs
  rw [hexisting, hcapacity]
  rfl

/-- The repair is asked for in an invocation of its own, and answered. -/
theorem ends_repaired :
    Prog.Ends (runParallelStage exampleRuntime councilEngine
        (repairArgs 900 [(lit "solo", c.repair)])) c.voted
      ⟨[(lit "solo", answeredBy ballotText)], [], []⟩ c.repaired := by
  have hcapacity : 1 ≤ remainingCalls councilEngine.toRunConfig c.voted.store -
      downstreamCallReserve councilEngine.toRunConfig c.voted.store .juryRepair [lit "solo"] := by
    rw [c.voted_store]
    show 1 ≤ 12 - 2
    decide
  have hquiet : c.voted.store.isAmbiguous (lit "solo") = false := by
    rw [c.voted_store]
    rfl
  unfold repaired
  exact ends_oneCompleted rfl rfl rfl rfl (.inl rfl) c.voted_wellFormed c.repair_sent
    (show ((0 : ℕ) : ℤ) < 900 by omega) c.voted_fresh hquiet hcapacity
    council_facts.encodable.2.1

/-- The repair counts, since it decides as the broken ballot did. -/
theorem repairOutcome_eq : repairOutcome exampleRuntime councilMapping (lit "solo") c.brokenJury
    [(lit "solo", c.repair)] ⟨[(lit "solo", answeredBy ballotText)], [], []⟩ [lit "solo"] =
      .ok ⟨validJuryRecord (lit "solo") (answeredBy brokenText) councilMapping councilOrder
        councilBallot, none, some (repairRecord, true)⟩ := by
  have hread : readRepair exampleRuntime councilMapping councilBallot.decision
      (answeredBy ballotText).content = .ok councilBallot := council_recorded.readRepair
  have hlookup : List.lookup (lit "solo") [(lit "solo", answeredBy ballotText)] =
      some (answeredBy ballotText) := rfl
  have hmem : lit "solo" ∈ [(lit "solo", c.repair)].map Prod.fst := List.mem_singleton_self _
  unfold repairOutcome brokenJury
  simp only [hlookup, hread, hmem, not_true_eq_false, if_false]
  rfl

/-- What came of the repair is written to the log. -/
theorem ends_audited :
    Prog.Ends (persistJuryRepairEvent exampleRuntime repairRecord) c.repaired repairRecord
      c.audited := by
  have hstored : Dict.store exampleRuntime (lit "$.event") repairRecord = .ok _ :=
    Dict.store_ok council_recorded.repair _
  unfold persistJuryRepairEvent
  refine (ends_getStore _).seq ?_
  have hnone : (c.repaired.store.eventsOf .juryArtifactRepair).filter (fun e =>
      e.payload.get? (lit "provider") = repairRecord.get? (lit "provider")) = [] := by
    rw [c.repaired_store]
    rfl
  rw [hnone]
  exact (ends_transact (appendEvent_eq hstored)).seq (Prog.ends_pure _ _)

/-- **The ballots are settled**: one of them is repaired. -/
theorem ends_settled :
    Prog.Ends (parseAndRepairJuries exampleRuntime councilEngine nines.text councilMapping
        [(lit "solo", councilOrder), (lit "duo", councilOrder)]
        [(lit "solo", answeredBy brokenText), (lit "duo", answeredBy ballotText)] 900) c.voted
      ⟨councilRecords, [], [repairRecord]⟩ c.audited := by
  unfold parseAndRepairJuries
  refine (Prog.ends_ofExcept c.readJuries_eq _).seq ?_
  refine (ends_getStore _).seq ?_
  have hrepairs : selectRepairs councilEngine.toRunConfig c.voted.store
      ([(lit "solo", JuryReading.invalid c.brokenJury), (lit "duo", .valid duoRecord)].filterMap
        fun r => r.2.repairPrompt?.map fun prompts => (r.1, prompts)) =
      [(lit "solo", c.repair)] := c.selectRepairs_eq
  dsimp only
  rw [hrepairs, if_neg (List.cons_ne_nil _ _)]
  refine c.ends_repaired.seq ?_
  refine (ends_getStore _).seq ?_
  show Prog.Ends (settleJuries exampleRuntime councilMapping [(lit "solo", c.repair)]
    ⟨[(lit "solo", answeredBy ballotText)], [], []⟩ [lit "solo"]
    [(lit "solo", .invalid c.brokenJury), (lit "duo", .valid duoRecord)] ⟨[], [], []⟩) _ _ _
  unfold settleJuries
  refine (Prog.ends_ofExcept c.repairOutcome_eq _).seq ?_
  refine c.ends_audited.seq ?_
  refine (Prog.ends_pure (some repairRecord) _).seq ?_
  unfold settleJuries
  unfold settleJuries
  exact Prog.ends_pure _ _

/-- **The ballots**: two jurors vote, one ballot is repaired, and two records count. -/
theorem ends_juried :
    Prog.Ends (juryPhase exampleRuntime councilEngine c.context councilMapping councilProposals)
      c.named (⟨councilRecords, [], [repairRecord]⟩, []) c.audited := by
  have horders : presentationOrders exampleRuntime c.context.spec.id councilMapping
      councilEngine.names = [(lit "solo", councilOrder), (lit "duo", councilOrder)] := by
    show presentationOrders exampleRuntime councilSpec.id councilMapping councilEngine.names = _
    decide
  unfold juryPhase
  refine (Prog.ends_ofExcept c.juryStagePrompts_eq _).seq ?_
  refine c.ends_voted.seq ?_
  rw [horders]
  exact c.ends_settled.seq (Prog.ends_pure _ _)

/-! ### The adjudication -/

/-- The ballots are locked. -/
def locked : World :=
  c.audited.withStore (c.audited.store.addEvent .adjudicationLocked
    (Dict.canon (adjudicationPayload councilMapping councilRecords [])))

/-- The store with the locked vote is well formed. -/
theorem locked_wellFormed : c.locked.store.WellFormed :=
  (c.repaired_wellFormed.withEvents _).withEvents _

def lockedEvents : List Event :=
  c.auditedEvents ++
    [⟨.adjudicationLocked, Dict.canon (adjudicationPayload councilMapping councilRecords [])⟩]

/-- What is in the store when the vote is locked. -/
theorem locked_store : c.locked.store = storeOf c.repairedRows c.lockedEvents := by
  unfold locked
  rw [World.withStore_store, c.audited_store]
  rfl

/-- The candidates of the council are read back from the locked run. -/
theorem locked_namespace : loadCandidateNamespaceLock exampleRuntime councilEngine.toRunConfig
    (lit "run") c.locked.store.events = .ok (some ⟨councilMapping, []⟩) := by
  rw [c.locked_store]
  show (readNamespace exampleRuntime councilSpec.config (lit "run")
    (Dict.canon (namespacePayload councilMapping []))).map some = _
  rw [council_recorded.readNamespace]
  rfl

/-- The ballots of the council are read back from the locked run. -/
theorem locked_adjudication : loadAdjudicationLock exampleRuntime councilEngine.toRunConfig
    (some ⟨councilMapping, []⟩) c.locked.store.events =
      .ok (some ⟨councilRecords.map Dict.canon, []⟩) := by
  rw [c.locked_store]
  show (readAdjudication exampleRuntime councilSpec.config ⟨councilMapping, []⟩
    (Dict.canon (adjudicationPayload councilMapping councilRecords []))).map some = _
  rw [council_recorded.readAdjudication]
  rfl

/-- **The lock of the vote**: the records are written in canonical form and read back as they were
written. -/
theorem ends_locked :
    Prog.Ends (lockAdjudication exampleRuntime councilEngine.toRunConfig (lit "run")
        councilMapping councilRecords []) c.audited ⟨councilRecords.map Dict.canon, []⟩
      c.locked := by
  have hstored : Dict.store exampleRuntime (lit "$.event")
      (adjudicationPayload councilMapping councilRecords []) = .ok _ :=
    Dict.store_ok council_recorded.adjudication _
  unfold lockAdjudication
  refine (ends_transact (appendEvent_eq hstored)).seq ?_
  refine (ends_getStore _).seq ?_
  refine (Prog.ends_ofExcept c.locked_namespace _).seq ?_
  exact (Prog.ends_ofExcept c.locked_adjudication _).seq (Prog.ends_pure _ _)

/-- The vote is decided. -/
def adjudicated : World :=
  c.locked.record (.adjudicated councilMapping councilRecords councilAggregate)

/-- The repair was sent to the provider whose ballot did not parse. -/
theorem repair_sent_adjudicated : ∃ before,
    Action.generate (councilCall .juryRepair .jury (lit "solo") c.repair) before ∈
      c.adjudicated.trace :=
  ⟨_, List.mem_append_left _ (List.mem_append_right _ (List.mem_singleton_self _))⟩

/-! ### The synthesis -/

/-- The provider in front filters its answer. -/
def filtered : World :=
  c.adjudicated.oneAnswered .synthesis .synthesis soloMember c.synthesis (.failed filteredError)

/-- The chain has advanced. -/
def advanced : World :=
  c.filtered.withStore (c.filtered.store.addEvent .synthesisFallbackAdvanced
    (Dict.canon (fallbackPayload 1 (lit "solo") (lit "duo") filteredFailure)))

/-- The fallback provider has answered. -/
def answered : World :=
  c.advanced.oneAnswered .synthesis .synthesis duoMember c.synthesis
    (.succeeded (answeredBy answerText))

def filteredRows : List Invocation :=
  c.repairedRows ++ [councilRow 5 .synthesis soloMember c.synthesis (.failed filteredError)]

def answeredRows : List Invocation :=
  c.filteredRows ++
    [councilRow 6 .synthesis duoMember c.synthesis (.succeeded (answeredBy answerText))]

def advancedEvents : List Event :=
  c.lockedEvents ++ [⟨.synthesisFallbackAdvanced,
    Dict.canon (fallbackPayload 1 (lit "solo") (lit "duo") filteredFailure)⟩]

/-- What is in the store when the synthesis begins. -/
theorem adjudicated_store : c.adjudicated.store = storeOf c.repairedRows c.lockedEvents :=
  c.locked_store

/-- The provider in front of the chain has not been asked yet. -/
theorem adjudicated_fresh : c.adjudicated.store.slot .synthesis (lit "solo") = none := by
  rw [c.adjudicated_store]
  rfl

/-- What is in the store when the provider in front of the chain has filtered its answer: a row
that failed for good. -/
theorem filtered_store : c.filtered.store = storeOf c.filteredRows c.lockedEvents := by
  unfold filtered
  rw [World.oneAnswered_store (w := c.adjudicated) c.locked_wellFormed, c.adjudicated_store]
  rfl

/-- What is in the store when the chain has advanced: one event more. -/
theorem advanced_store : c.advanced.store = storeOf c.filteredRows c.advancedEvents := by
  unfold advanced
  rw [World.withStore_store, c.filtered_store]
  rfl

/-- The store after the transition of the chain is well formed. -/
theorem advanced_wellFormed : c.advanced.store.WellFormed :=
  (World.oneAnswered_wellFormed (w := c.adjudicated) c.locked_wellFormed c.adjudicated_fresh _
    _).withEvents _

/-- The fallback provider has not been asked yet. -/
theorem advanced_fresh : c.advanced.store.slot .synthesis (lit "duo") = none := by
  rw [c.advanced_store]
  rfl

/-- What is in the store when the fallback provider has answered. -/
theorem answered_store : c.answered.store = storeOf c.answeredRows c.advancedEvents := by
  unfold answered
  rw [World.oneAnswered_store c.advanced_wellFormed, c.advanced_store]
  rfl

/-- The provider in front of the chain is asked and filters its answer. -/
theorem ends_filtered :
    Prog.Ends (runParallelStage exampleRuntime councilEngine
        (synthesisArgs 900 (lit "solo") c.synthesis false)) c.adjudicated
      ⟨[], [(lit "solo", filteredError.toDict)], []⟩ c.filtered := by
  have hcapacity : 1 ≤ remainingCalls councilEngine.toRunConfig c.adjudicated.store -
      downstreamCallReserve councilEngine.toRunConfig c.adjudicated.store .synthesis
        [lit "solo"] := by
    rw [c.adjudicated_store]
    show 1 ≤ 11 - 1
    decide
  have hquiet : c.adjudicated.store.isAmbiguous (lit "solo") = false := by
    rw [c.adjudicated_store]
    rfl
  unfold filtered
  exact ends_oneFiltered rfl rfl rfl rfl rfl (.inl rfl) c.locked_wellFormed c.synthesis_sent
    (show ((0 : ℕ) : ℤ) < 900 by omega) c.adjudicated_fresh hquiet hcapacity

/-- The transition is read back from the log: the second position of the chain, and the failure of
the first one. -/
theorem loadSynthesisFallbackState_eq :
    loadSynthesisFallbackState councilEngine.toRunConfig c.advanced.store
      c.advanced.store.events =
        .ok (2, [failureOf .synthesis (lit "solo") filteredError.stored]) := by
  rw [c.advanced_store]
  rfl

/-- The chain advances by one, and the transition is written to the log. -/
theorem ends_advanced :
    Prog.Ends (persistSynthesisFallbackEvent exampleRuntime councilEngine.toRunConfig 1
      filteredFailure) c.filtered () c.advanced := by
  have hstored : Dict.store exampleRuntime (lit "$.event")
      (fallbackPayload 1 (lit "solo") (lit "duo") filteredFailure) = .ok _ :=
    Dict.store_ok council_recorded.fallback _
  have hstage : ¬ (filteredFailure.get? (lit "stage") ≠ some (.str Stage.synthesis.name) ∨
      filteredFailure.get? (lit "provider") ≠ some (.str (lit "solo"))) := by decide
  have hkeys : ¬ Dict.hasKeys (errorOfFailure filteredFailure) providerErrorFields = false := by
    decide
  have hnone : (fallbackEvents c.filtered.store.events).filter (fun e =>
      e.payload.get? (lit "from_position") = some (.int ((1 : ℕ) : ℤ))) = [] := by
    rw [c.filtered_store]
    rfl
  unfold persistSynthesisFallbackEvent
  show Prog.Ends (if filteredFailure.get? (lit "stage") ≠ some (.str Stage.synthesis.name) ∨
      filteredFailure.get? (lit "provider") ≠ some (.str (lit "solo")) then _ else _) _ _ _
  rw [if_neg hstage, if_neg hkeys]
  refine (ends_getStore _).seq ?_
  rw [hnone]
  refine (ends_transact (appendEvent_eq hstored)).seq ?_
  refine (ends_getStore _).seq ?_
  exact (Prog.ends_ofExcept c.loadSynthesisFallbackState_eq _).seq (Prog.ends_pure _ _)

/-- The fallback provider is asked the same prompts and answers. -/
theorem ends_answered :
    Prog.Ends (runParallelStage exampleRuntime councilEngine
        (synthesisArgs 900 (lit "duo") c.synthesis false)) c.advanced
      ⟨[(lit "duo", answeredBy answerText)], [], []⟩ c.answered := by
  have hcapacity : 1 ≤ remainingCalls councilEngine.toRunConfig c.advanced.store -
      downstreamCallReserve councilEngine.toRunConfig c.advanced.store .synthesis
        [lit "duo"] := by
    rw [c.advanced_store]
    show 1 ≤ 10 - 0
    decide
  have hquiet : c.advanced.store.isAmbiguous (lit "duo") = false := by
    rw [c.advanced_store]
    rfl
  have htext : Str.encodable answerText = true := encodable_lit _
  unfold answered
  exact ends_oneCompleted rfl rfl rfl rfl (.inr rfl) c.advanced_wellFormed c.synthesis_sent
    (show ((0 : ℕ) : ℤ) < 900 by omega) c.advanced_fresh hquiet hcapacity htext

/-- **The chain advances once and answers.** -/
theorem ends_chain :
    Prog.Ends (synthesisChain exampleRuntime councilEngine 900 c.synthesis 1 1
        [lit "solo", lit "duo"]) c.adjudicated
      ⟨some (lit "duo", answerText), [filteredFailure], []⟩ c.answered := by
  have hadjudicated : (c.adjudicated.now : ℤ) < 900 := show ((0 : ℕ) : ℤ) < 900 by omega
  have hfiltered : (c.filtered.now : ℤ) < 900 := show ((0 : ℕ) : ℤ) < 900 by omega
  have hadvanced : (c.advanced.now : ℤ) < 900 := show ((0 : ℕ) : ℤ) < 900 by omega
  have hfailures : StageResult.failureDicts ⟨[], [(lit "solo", filteredError.toDict)], []⟩
      .synthesis = [filteredFailure] := rfl
  have hfound : [filteredFailure].reverse.find? (fun f =>
      f.get? (lit "provider") = some (.str (lit "solo"))) = some filteredFailure := by decide
  rw [← hfailures] at hfound
  have hsecond : Prog.Ends (synthesisChain exampleRuntime councilEngine 900 c.synthesis 1 (1 + 1)
      [lit "duo"]) c.advanced ⟨some (lit "duo", answerText), [], []⟩ c.answered :=
    @ends_synthesisChain_answer exampleRuntime councilEngine 900 c.synthesis 1 2 (lit "duo") [] _ _
      _ _ hadvanced c.ends_answered rfl
  have hchain := @ends_synthesisChain_advance exampleRuntime councilEngine 900 c.synthesis 1 1
    (lit "solo") [lit "duo"] _ _ _ _ _ _ _ hadjudicated (by decide) c.ends_filtered rfl hfiltered
    hfound c.ends_advanced hsecond
  rw [hfailures] at hchain
  exact hchain

/-! ### The result -/

/-- The answer names the winner. -/
def check : SynthesisCheck :=
  checkSynthesisOutcome exampleRuntime answerText
    (anonymizeAggregate councilMapping councilAggregate)

/-- What the result is built from. -/
def parts : ResultParts where
  status := .completed
  answer := some answerText
  proposals := councilProposals
  juryRecords := councilRecords
  aggregate := some (councilAggregate, councilMapping)
  failures := [filteredFailure]
  warnings := synthesisWarnings councilEngine (some check) (some (lit "duo", answerText))
  recoveries := [repairRecord]
  plan := c.plan
  candidateMapping := some councilMapping
  synthesisCheck := some check

/-- The report on the members that vote for themselves can be stored. -/
theorem exists_votes : ∃ report, selfVoteReport exampleRuntime
      ((councilRecords.filter isValidRecord).map voteOf)
      (councilAggregate.bordaPoints.map Prod.fst) councilAggregate = .ok report ∧
    Json.storable exampleRuntime (.obj report.toDict) = true := by
  have hreport := council_recorded.votes
  rw [council_facts.valid]
  split at hreport
  · exact ⟨_, ‹_›, hreport⟩
  · cases hreport

/-- No call of the run was made twice. -/
theorem providerRetryRecoveries_eq :
    providerRetryRecoveries councilEngine.toRunConfig c.answered.store = .ok [] := by
  rw [c.answered_store]
  rfl

/-- The summary of the synthesis can be printed. -/
theorem storable_summary : Json.storable exampleRuntime (.obj (synthesisSummary
    councilEngine.toRunConfig c.answered.store [filteredFailure]).toDict) = true := by
  have hblank : synthesisSummary councilEngine.toRunConfig c.answered.store [filteredFailure] =
      synthesisSummary councilEngine.toRunConfig (storeOf blankRows []) [filteredFailure] := by
    rw [c.answered_store]
    rfl
  rw [hblank]
  exact council_recorded.summary

/-- The workload of the run can be printed. -/
theorem storable_workload : Json.storable exampleRuntime (.obj
    [(lit "preflight", .obj c.plan.toDict),
      (lit "actual_stage_prompt_chars", .obj (actualStagePromptChars c.answered.store)),
      (lit "application_calls", .int c.answered.store.countCalls)]) = true := by
  obtain ⟨draws, hplan⟩ := c.opening.planned
  have hnames : [lit "solo", lit "duo"].all Str.encodable = true := by decide
  have hpreflight : Json.storableFields exampleRuntime c.plan.toDict = true :=
    storable_plan hplan c.opening.limits hnames hnames councilEngine_small
  have hsent : ∀ {prompts : PromptPair}, Sendable prompts →
      (combinedPrompt prompts).length < 10000000 := by
    intro prompts h
    have hfit : (combinedPromptChars prompts : ℤ) ≤ councilMaxChars := of_decide_eq_true h.fit
    have hlt := councilMaxChars_lt
    have heq : (combinedPrompt prompts).length = combinedPromptChars prompts := rfl
    omega
  have hchars : Json.storableFields exampleRuntime (actualStagePromptChars c.answered.store) =
      true := by
    refine storable_actualStagePromptChars ?_
    rw [c.answered_store]
    show ∀ r ∈ c.answeredRows, r.promptText.length < 10000000
    simp only [answeredRows, filteredRows, repairedRows, votedRows, namedRows, List.cons_append,
      List.nil_append, List.forall_mem_cons]
    exact ⟨hsent c.proposal_sent, hsent c.proposal_sent, hsent c.jury_sent, hsent c.jury_sent,
      hsent c.repair_sent, hsent c.synthesis_sent, hsent c.synthesis_sent, fun _ hf => nomatch hf⟩
  have hcalls : c.answered.store.countCalls = 7 := by
    rw [c.answered_store]
    rfl
  rw [hcalls]
  simp only [Json.storable, Json.storableFields, hpreflight, hchars]
  decide

/-- **The result is built, and can be stored.** -/
theorem exists_result : ∃ result,
    buildResult exampleRuntime councilEngine.toRunConfig councilSpec c.answered.store c.parts =
        .ok result ∧
      Json.storableFields exampleRuntime result = true := by
  obtain ⟨report, hreport, hvotes⟩ := exists_votes
  unfold buildResult parts
  simp only [bind, Except.bind, c.providerRetryRecoveries_eq, hreport]
  refine ⟨_, rfl, ?_⟩
  simp only [Json.storableFields, ResultParts.isClean, c.storable_summary, hvotes,
    c.storable_workload]
  decide +kernel

/-- The run is completed with this result. -/
def finished (result : Dict) : World :=
  c.answered.withStore { c.answered.store with
    run := { c.answered.store.run with status := .completed, result := some result.canon }
    events := c.answered.store.events ++ [⟨.runFinished, Dict.canon
      [(lit "status", .str RunStatus.completed.name), (lit "failure_count", .int (1 : ℕ))]⟩] }

def finishedEvents : List Event :=
  c.advancedEvents ++ [⟨.runFinished, Dict.canon
    [(lit "status", .str RunStatus.completed.name), (lit "failure_count", .int (1 : ℕ))]⟩]

/-- What is in the store at the end: the same rows, two events more, and the run with its result.
-/
theorem finished_store (result : Dict) : (c.finished result).store =
    { storeOf c.answeredRows c.finishedEvents with
      run := { spec := councilSpec, status := .completed, result := some result.canon } } := by
  unfold finished
  rw [World.withStore_store, c.answered_store]
  rfl

/-- From the vote to the result. -/
theorem ends_finished {result : Dict} (hbuilt : buildResult exampleRuntime
      councilEngine.toRunConfig councilSpec c.answered.store c.parts = .ok result)
    (hstorable : Json.storableFields exampleRuntime result = true) :
    Prog.Ends (finish exampleRuntime councilEngine.toRunConfig councilSpec c.parts) c.answered
      result (c.finished result) := by
  have hfinish : c.answered.store.finishRun exampleRuntime c.parts.status
      c.parts.failures.length result = .ok (c.finished result).store := by
    unfold Store.finishRun
    rw [Dict.store_ok hstorable]
    rfl
  unfold finish
  refine (ends_getStore _).seq ?_
  refine (Prog.ends_ofExcept hbuilt _).seq ?_
  exact (ends_transact hfinish).seq (Prog.ends_pure _ _)

/-- The chain is walked to its second provider, and the run is completed with the result that is
built from the store. -/
theorem ends_synthesized {result : Dict} (hbuilt : buildResult exampleRuntime
      councilEngine.toRunConfig councilSpec c.answered.store c.parts = .ok result)
    (hstorable : Json.storableFields exampleRuntime result = true) :
    Prog.Ends (synthesizeAndFinish exampleRuntime councilEngine c.context councilMapping
        ⟨councilProposals, [], []⟩ councilRecords councilAggregate (1, []) [] [repairRecord])
      c.locked result (c.finished result) := by
  have hprompts : synthesisStagePrompts c.context.spec.question c.context.marker councilMapping
      (candidatesOf councilMapping councilProposals councilMapping.labels)
      (councilRecords.filter isValidRecord) councilAggregate = .ok c.synthesis := by
    rw [council_facts.valid]
    exact c.synthesis_built
  have hphase : Prog.Ends (synthesisPhase exampleRuntime councilEngine c.context councilMapping
      councilProposals (councilRecords.filter isValidRecord) councilAggregate 1) c.adjudicated
      ⟨some (lit "duo", answerText), [filteredFailure], []⟩ c.answered := by
    have hnow : ¬ c.context.deadline ≤ (c.adjudicated.now : ℤ) :=
      show ¬ (900 : ℤ) ≤ ((0 : ℕ) : ℤ) by omega
    unfold synthesisPhase
    refine (ends_clock _).seq ?_
    rw [if_neg hnow]
    exact (Prog.ends_ofExcept hprompts _).seq c.ends_chain
  unfold synthesizeAndFinish
  refine (ends_emit _ _).seq ?_
  refine hphase.seq ?_
  exact c.ends_finished hbuilt hstorable

variable {w : World}

/-- The vote over the two records is the one of the example. -/
theorem judgmentsOf_eq : ∃ judgments,
    judgmentsOf (councilRecords.filter isValidRecord) = .ok judgments ∧
      aggregateJuries exampleRuntime judgments (councilProposals.map Proposal.provider) =
        .ok councilAggregate := by
  have hvotes := council_facts.counted
  rw [council_facts.valid]
  simp only [bind, Except.bind] at hvotes
  split at hvotes
  · cases hvotes
  · exact ⟨_, ‹_›, hvotes⟩

/-- From the locked vote on, a resume counts the records and goes on to the synthesis. -/
theorem passes_adjudicated
    (hrest : Prog.Passes (synthesizeAndFinish exampleRuntime councilEngine c.context councilMapping
      ⟨councilProposals, [], []⟩ councilRecords councilAggregate (1, []) [] [repairRecord])
        c.locked w) :
    Prog.Passes (adjudicateAndFinish exampleRuntime councilEngine c.context councilMapping
      ⟨councilProposals, [], []⟩ none (1, [])) c.named w := by
  obtain ⟨judgments, hjudgments, haggregate⟩ := judgmentsOf_eq
  have hballots : Prog.Ends (ballotPhase exampleRuntime councilEngine c.context councilMapping
      ⟨councilProposals, [], []⟩ none) c.named (councilRecords, [], [repairRecord]) c.audited := by
    unfold ballotPhase
    exact c.ends_juried.seq (Prog.ends_pure _ _)
  have hquorum : ¬ ((none : Option AdjudicationLock) = none ∧
      ((councilRecords.filter isValidRecord).length : ℤ) < councilEngine.policy.juryQuorum) := by
    rw [council_facts.valid]
    exact fun h => absurd h.2 (show ¬ (2 : ℤ) < 2 by omega)
  unfold adjudicateAndFinish
  refine hballots.seq_passes ?_
  dsimp only
  rw [if_neg hquorum]
  refine (Prog.ends_ofExcept hjudgments _).seq_passes ?_
  refine (Prog.ends_ofExcept haggregate _).seq_passes ?_
  rw [if_pos rfl]
  refine Prog.Ends.seq_passes c.ends_locked ?_
  exact hrest

/-- From the named candidates on, a resume asks for the ballots, locks the vote and goes on. -/
theorem passes_stages
    (hrest : Prog.Passes (adjudicateAndFinish exampleRuntime councilEngine c.context councilMapping
      ⟨councilProposals, [], []⟩ none (1, [])) c.named w) :
    Prog.Passes (runStages exampleRuntime councilEngine c.context none none (1, []) [])
      c.opened w := by
  have hmapping : candidateMapping exampleRuntime (lit "run")
      (councilProposals.map Proposal.provider) = councilMapping := by decide
  have hquorum : quorumWarnings councilEngine councilProposals = [] := by decide
  unfold runStages
  refine c.ends_proposed.seq_passes ?_
  dsimp only
  rw [hquorum, if_neg (not_not.2 rfl)]
  show Prog.Passes (lockCandidateNamespace exampleRuntime councilEngine.toRunConfig (lit "run")
    (candidateMapping exampleRuntime (lit "run") (councilProposals.map Proposal.provider)) [] >>= _)
      _ _
  rw [hmapping]
  exact c.ends_named.seq_passes hrest

/-- What the resume passes through is reachable. -/
theorem reachable_of_passes
    (h : Prog.Passes (runStages exampleRuntime councilEngine c.context none none (1, []) [])
      c.opened w) : ∃ p, Reachable exampleRuntime councilSpec (.active p w) := by
  have hresume := passes_resume c.opening h
  have hstart : Resumes exampleRuntime (resume exampleRuntime councilEngine) :=
    ⟨councilEngine, rfl⟩
  obtain ⟨p, hreach⟩ := hresume.reach hstart
  exact ⟨p, councilEngine, ninesDraws, lit "Why?", _, councilRun_created, rfl, hreach⟩

/-- **The vote of the council is decided**, and the process may end there. -/
theorem reachable_adjudicated :
    ∃ p, Reachable exampleRuntime councilSpec (.active p c.adjudicated) := by
  refine c.reachable_of_passes (c.passes_stages (c.passes_adjudicated ?_))
  unfold synthesizeAndFinish
  exact (ends_emit _ _).seq_passes (.refl _ _)

/-- **The run of the council is completed.** -/
theorem reachable_finished : ∃ result p,
    buildResult exampleRuntime councilEngine.toRunConfig councilSpec c.answered.store c.parts =
        .ok result ∧
      Reachable exampleRuntime councilSpec (.active p (c.finished result)) := by
  obtain ⟨result, hbuilt, hstorable⟩ := c.exists_result
  obtain ⟨p, hreach⟩ := c.reachable_of_passes (c.passes_stages (c.passes_adjudicated
    (c.ends_synthesized hbuilt hstorable).passes))
  exact ⟨result, p, hbuilt, hreach⟩

end Council
end CouncilLogic
