/-
# A council of two members

The engine of `src/model_council/engine.py` for the run that is followed to its end in
`Engine.CouncilRun`: two members of two lineages, both of which have to propose and to vote,
one repair for a ballot that does not parse, and a synthesis chain with a fallback.

`create_run` accepts its question, since the projected prompts of all four stages fit: the
lengths of the templates are bounded once, and the projected repair is measured
(`councilRun_created`).  The first resume opens the stages (`councilRun_opening`).

The stages themselves come in two shapes.  In the proposal and the jury stage both members
are asked, with the same prompts, and both answer (`ends_bothAnswered`); in the repair and
in each attempt of the synthesis one member is asked (`ends_oneAnswered`).  Neither needs
to know what the run has done before, but that the slots of the stage have no rows, that no
provider is ambiguous and that the call budget has room.
-/

import CouncilLogic.Engine.Answered
import CouncilLogic.Engine.Projection
import CouncilLogic.Protocol.Printed

namespace CouncilLogic

open Protocol Workload

/-! ### What the stages need -/

section Lengths
-- a text is unfolded into its characters
set_option maxRecDepth 100000

/-- How long the texts of the prompts for two members are. -/
structure CouncilLengths : Prop where
  repairSystem : juryRepairSystemTemplate.length ≤ 10000
  repairUser : (juryRepairUser [] []).length ≤ 1000 + 0 + 500 + 0 + 500 + 0
  repairRecord : Json.width 0 (repairRecord (labelsOf 2) projectedDecision projectedError
    projectedResponse) ≤ 50000
  question : Json.width 0 (.obj [(lit "question", .str (lit "Why?"))]) ≤ 100
  labels : Json.width 0 (.arr ((labelsOf 2).map .str)) ≤ 100
  jury : Json.width 0 (.obj [(lit "question", .str (lit "Why?")),
    (lit "candidates", .obj (projectedArtifacts 2))]) ≤ 50000
  synthesis : Json.width 0 (.obj ((lit "question", .str (lit "Why?")) :: projectedParts 2)) ≤
    50000
  /-- No projection for two members shows a nine. -/
  unshown : Unshown 57 2

/-- The templates are as long as the bounds of the example say. -/
theorem council_lengths : CouncilLengths where
  repairSystem := length_lit_le (by decide +kernel)
  repairUser :=
    length_append_le (length_append_le (length_append_le (length_append_le
      (length_append_le (length_lit_le (by decide +kernel)) le_rfl)
      (length_lit_le (by decide +kernel))) le_rfl) (length_lit_le (by decide +kernel))) le_rfl
  repairRecord := by decide +kernel
  question := by decide +kernel
  labels := by decide +kernel
  jury := by decide +kernel
  synthesis := by decide +kernel
  unshown :=
    { punctuation := by decide, key := by decide, labels := by decide, parts := by decide +kernel }

end Lengths

/-- The two templates of the repair prompt have 19000 characters at most. -/
theorem chars_repairTemplates :
    combinedPromptChars (juryRepairSystemTemplate, juryRepairUser [] []) ≤ 19000 := by
  have hsystem := council_lengths.repairSystem
  have huser := council_lengths.repairUser
  have hframe : (lit "[SYSTEM]\n").length ≤ 100 ∧ (lit "\n\n[USER]\n").length ≤ 100 :=
    ⟨by decide, by decide⟩
  unfold combinedPromptChars combinedPrompt
  simp only [List.length_append]
  omega

/-- A projected repair is as long as its templates and its record. -/
theorem repairChars_le {n a b : ℕ}
    (ha : combinedPromptChars (juryRepairSystemTemplate, juryRepairUser [] []) ≤ a)
    (hb : Json.width 0 (repairRecord (labelsOf n) projectedDecision projectedError
      projectedResponse) ≤ b) : repairChars n ≤ a + 2 * 16 + b := by
  unfold repairChars
  generalize Json.width 0 (repairRecord (labelsOf n) projectedDecision projectedError
      projectedResponse) = w at *
  generalize combinedPromptChars (juryRepairSystemTemplate, juryRepairUser [] []) = t at *
  omega

/-- The repair prompt for two candidates stays below its bound: the templates, two labels, and
what a response and an error may have. -/
theorem repairChars_two : repairChars 2 ≤ 19000 + 2 * 16 + 50000 :=
  repairChars_le chars_repairTemplates council_lengths.repairRecord

/-! ### The engine -/

/-- A member of the council. -/
def councilMember (name lineage : Str) : ProviderConfig where
  name := name
  model := lit "m"
  lineage := lineage
  endpoint := lit "https://solo.test"

def soloMember : ProviderConfig := councilMember (lit "solo") (lit "l")

def duoMember : ProviderConfig := councilMember (lit "duo") (lit "k")

/-- Both members have a name, a model and a lineage. -/
theorem named_members : soloMember.Named ∧ duoMember.Named :=
  ⟨⟨by decide, by decide, by decide⟩, ⟨by decide, by decide, by decide⟩⟩

/-- Room for the prompts of the example, and for a projected repair. -/
def councilMaxChars : ℤ := exampleMaxChars + 100000

/-- Both members have to propose and to vote, one call is made at a time, and a ballot may be
repaired. -/
def councilEngine : CouncilEngine where
  providers := [soloMember, duoMember]
  policy := {
    proposalQuorum := 2
    juryQuorum := 2
    minLineages := 2
    maxParallelCalls := 1
    juryRepairAttempts := 1
    maxStagePromptChars := councilMaxChars }
  synthesisProvider := lit "solo"
  synthesisFallbacks := [lit "duo"]
  hasGate := false
  accepted := ⟨by decide, by decide, by decide, by decide, by decide⟩

/-- The run it creates. -/
def councilSpec : RunSpec :=
  ⟨lit "run", lit "Why?", exampleRuntime.protocolHash, councilEngine.toRunConfig⟩

/-- **The council can create its run.** -/
theorem councilRun_created :
    createRun exampleRuntime councilEngine ninesDraws (lit "Why?") (lit "run") =
      .ok { run := { spec := councilSpec } } := by
  have hapart : ninesDraws.Apart 2 (lit "Why?") :=
    apart_ninesDraws council_lengths.unshown (by decide)
  have hlength : ((lit "Why?").length : ℤ) ≤ 30000 := by decide
  have hrepair : (repairChars 2 : ℤ) ≤ councilMaxChars := by
    have hnat := repairChars_two
    have hnonneg := exampleMaxChars_nonneg
    unfold councilMaxChars
    generalize repairChars 2 = r at *
    generalize exampleMaxChars = m at *
    omega
  refine createRun_apart councilEngine hapart (fun _ => by decide) (by decide) (by decide)
    (by decide) hlength (fun chars h => ?_) hrepair rfl (by decide)
  have hwidths : Json.width 0 (.obj [(lit "question", .str (lit "Why?"))]) ≤ 100 ∧
      Json.width 0 (.arr ((labelsOf 2).map .str)) ≤ 100 ∧
      Json.width 0 (.obj [(lit "question", .str (lit "Why?")),
        (lit "candidates", .obj (projectedArtifacts 2))]) ≤ 50000 ∧
      Json.width 0 (.obj ((lit "question", .str (lit "Why?")) :: projectedParts 2)) ≤ 50000 :=
    ⟨council_lengths.question, council_lengths.labels, council_lengths.jury,
      council_lengths.synthesis⟩
  have hproposal := h.proposal
  have hjury := h.jury
  have hsynthesis := h.synthesis
  have hn : councilEngine.names.length = 2 := rfl
  rw [hn] at hjury hsynthesis
  show (chars.proposal : ℤ) ≤ councilMaxChars ∧ (chars.jury : ℤ) ≤ councilMaxChars ∧
    (chars.synthesis : ℤ) ≤ councilMaxChars
  unfold councilMaxChars exampleMaxChars
  generalize combinedPromptChars (proposalSystemTemplate, proposalUser [] []) = a at *
  generalize combinedPromptChars (jurySystemTemplate, juryUser [] [] []) = b at *
  generalize combinedPromptChars (synthesisSystemTemplate, synthesisUser [] []) = d at *
  generalize Json.width 0 (.obj [(lit "question", .str (lit "Why?"))]) = e at *
  generalize Json.width 0 (.obj ((lit "question", .str (lit "Why?")) :: projectedParts 2)) = f at *
  generalize Json.width 0 (.arr ((labelsOf 2).map .str)) = g at *
  generalize Json.width 0 (.obj [(lit "question", .str (lit "Why?")),
        (lit "candidates", .obj (projectedArtifacts 2))]) = i at *
  omega

/-- The longest prompt of the example has less than 200000 characters. -/
theorem councilMaxChars_lt : councilMaxChars < 200000 := by
  have hlt := exampleMaxChars_lt
  unfold councilMaxChars
  omega

/-- The plan of the example is small enough for all its numbers to be printed and bound. -/
theorem councilEngine_small :
    SmallPlan [lit "solo", lit "duo"] [lit "solo", lit "duo"] councilEngine.policy where
  names := by decide
  chain := by decide
  question := by decide
  prompts := by
    have hnonneg := exampleMaxChars_nonneg
    have hlt := councilMaxChars_lt
    show 0 ≤ councilMaxChars ∧ councilMaxChars < 1000000
    unfold councilMaxChars at *
    omega
  calls := by decide

/-- The first resume opens the stages of the council. -/
theorem councilRun_opening : ∃ plan events,
    Opening exampleRuntime councilEngine councilSpec nines plan events := by
  obtain ⟨-, -, plan, hplan, hlimits⟩ := createRun_ok councilRun_created
  have hstrip : Str.strip (lit "Why?") = lit "Why?" := by decide
  rw [hstrip] at hplan
  have hencodable : [lit "solo", lit "duo"].all Str.encodable = true := by decide
  have hstorable := storable_plan hplan hlimits hencodable hencodable councilEngine_small
  have hmarker : Dict.store exampleRuntime (lit "$.event") [(lit "marker", .str nines.text)] =
      .ok _ := Dict.store_ok (by decide) _
  have hstarted : Dict.store exampleRuntime (lit "$.event")
      [(lit "protocol", .str (protocolId ++ lit "@" ++ protocolVersion))] = .ok _ :=
    Dict.store_ok (by decide) _
  have hpreflight := Dict.store_ok hstorable (lit "$.event")
  exact ⟨plan, _, ⟨rfl, rfl⟩, ⟨_, hplan⟩, hlimits, _, _, _, hmarker, hstarted, hpreflight, rfl⟩

/-! ### Answers -/

/-- A response that completed. -/
def answeredBy (content : Str) : ProviderResponse where
  content := content
  resolvedModel := lit "m"
  finishReason := some (lit "stop")

/-- A response that a provider has filtered. -/
def filteredResponse : ProviderResponse where
  content := []
  resolvedModel := lit "m"
  finishReason := some (lit "content_filter")

/-- What it is recorded as. -/
def filteredError : ProviderError where
  message := lit "Provider response did not complete normally (finish_reason=content_filter)"
  category := .contentFilter

/-- A response can be stored when its text can be encoded. -/
theorem storable_answeredBy {text : Str} (h : Str.encodable text = true) :
    Json.storableFields exampleRuntime (answeredBy text).toDict = true := by
  simp only [answeredBy, ProviderResponse.toDict, Json.storableFields, Json.storable, h]
  decide

/-- The counters of an example's answer fit 64 bits. -/
theorem binds_answeredBy (text : Str) :
    ∀ n ∈ [(answeredBy text).latencyMs, (answeredBy text).attempts], Store.HoldsInteger n :=
  show ∀ n ∈ [(0 : ℤ), 1], Store.HoldsInteger n by decide

/-! ### Stages -/

/-- A call of the council. -/
def councilCall (stage providerStage : Stage) (name : Str) (prompts : PromptPair) : Call where
  stage := stage
  providerStage := providerStage
  provider := name
  prompts := prompts
  outputLimit := 1800

/-- The prompts of a stage in which both members are asked the same. -/
def bothAsked (prompts : PromptPair) : List (Str × PromptPair) :=
  [(lit "solo", prompts), (lit "duo", prompts)]

/-- The world after a stage in which both members have answered with these texts. -/
def World.bothAnswered (w : World) (stage : Stage) (prompts : PromptPair) (solo duo : Str) :
    World :=
  ((w.record (.enter stage (bothAsked prompts) w.store)).answered exampleRuntime
      (councilCall stage stage (lit "solo") prompts) soloMember
      (.succeeded (answeredBy solo))).answered exampleRuntime
      (councilCall stage stage (lit "duo") prompts) duoMember (.succeeded (answeredBy duo))

/-- The world after a stage in which one member was asked. -/
def World.oneAnswered (w : World) (stage providerStage : Stage) (member : ProviderConfig)
    (prompts : PromptPair) (state : InvocationState) : World :=
  (w.record (.enter stage [(member.name, prompts)] w.store)).answered exampleRuntime
    (councilCall stage providerStage member.name prompts) member state

/-- The prompts can be sent to the council. -/
structure Sendable (prompts : PromptPair) : Prop where
  fit : fitsLimit councilEngine.policy prompts = true
  encodable : Str.encodable (combinedPrompt prompts) = true

/-- The slot of the second member is still free when the first one has answered. -/
theorem World.slot_duo {w : World} {stage : Stage} (hwf : w.store.WellFormed)
    (hfresh : ∀ name, w.store.slot stage name = none) (prompts : PromptPair)
    (state : InvocationState) : ((w.record (.enter stage (bothAsked prompts) w.store)).answered
      exampleRuntime (councilCall stage stage (lit "solo") prompts) soloMember state).store.slot
        stage (lit "duo") = none := by
  rw [World.answered_store (w := w.record _) hwf, Store.slot_insertRow (hfresh _), if_neg]
  · exact hfresh _
  · intro hslot
    have hname : lit "solo" = lit "duo" := congrArg Prod.snd hslot
    exact absurd hname (by decide)

/-- The row of a call that has been answered. -/
def councilRow (id : ℕ) (stage : Stage) (member : ProviderConfig) (prompts : PromptPair)
    (state : InvocationState) : Invocation where
  id := id
  stage := stage
  provider := member.name
  model := member.model
  lineage := member.lineage
  promptText := combinedPrompt prompts
  promptSha256 := combinedPrompt prompts
  state := state
  callCount := 1

/-- A stage in which both members answer leaves two rows more. -/
theorem World.bothAnswered_store {w : World} {stage : Stage} (hwf : w.store.WellFormed)
    (hfresh : ∀ name, w.store.slot stage name = none) (prompts : PromptPair) (solo duo : Str) :
    (w.bothAnswered stage prompts solo duo).store =
      (w.store.insertRow (councilRow w.store.nextId stage soloMember prompts
        (.succeeded (answeredBy solo)))).insertRow (councilRow (w.store.nextId + 1) stage duoMember
          prompts (.succeeded (answeredBy duo))) := by
  have hfirst := World.answered_store (w := w.record (.enter stage (bothAsked prompts) w.store)) hwf
    exampleRuntime (councilCall stage stage (lit "solo") prompts) soloMember
    (.succeeded (answeredBy solo))
  have hwf₁ : ((w.record (.enter stage (bothAsked prompts) w.store)).answered exampleRuntime
      (councilCall stage stage (lit "solo") prompts) soloMember
        (.succeeded (answeredBy solo))).store.WellFormed :=
    have hslot : (w.record (.enter stage (bothAsked prompts) w.store)).store.slot
        (councilCall stage stage (lit "solo") prompts).stage
        (councilCall stage stage (lit "solo") prompts).provider = none := hfresh _
    World.answered_wellFormed hwf hslot _
  have hsecond := World.answered_store hwf₁ exampleRuntime
    (councilCall stage stage (lit "duo") prompts) duoMember (.succeeded (answeredBy duo))
  unfold World.bothAnswered
  rw [hsecond, hfirst]
  rfl

/-- A stage in which one member is asked leaves one row more. -/
theorem World.oneAnswered_store {w : World} (hwf : w.store.WellFormed)
    (stage providerStage : Stage) (member : ProviderConfig) (prompts : PromptPair)
    (state : InvocationState) :
    (w.oneAnswered stage providerStage member prompts state).store =
      w.store.insertRow (councilRow w.store.nextId stage member prompts state) :=
  World.answered_store (w := w.record (.enter stage [(member.name, prompts)] w.store)) hwf
    exampleRuntime (councilCall stage providerStage member.name prompts) member state

/-- Two new rows, one for each member, keep a store well formed. -/
theorem World.bothAnswered_wellFormed {w : World} {stage : Stage} (hwf : w.store.WellFormed)
    (hfresh : ∀ name, w.store.slot stage name = none) (prompts : PromptPair) (solo duo : Str) :
    (w.bothAnswered stage prompts solo duo).store.WellFormed :=
  World.answered_wellFormed (World.answered_wellFormed hwf (hfresh _) _)
    (World.slot_duo hwf hfresh prompts _) _

/-- One new row keeps a store well formed when its slot was free. -/
theorem World.oneAnswered_wellFormed {w : World} {stage providerStage : Stage}
    {member : ProviderConfig} (hwf : w.store.WellFormed)
    (hfresh : w.store.slot stage member.name = none) (prompts : PromptPair)
    (state : InvocationState) :
    (w.oneAnswered stage providerStage member prompts state).store.WellFormed := by
  have hslot : (w.record (.enter stage [(member.name, prompts)] w.store)).store.slot
      (councilCall stage providerStage member.name prompts).stage
      (councilCall stage providerStage member.name prompts).provider = none := hfresh
  exact World.answered_wellFormed hwf hslot _

/-- **Both members are asked and answer.** -/
theorem ends_bothAnswered {args : StageArgs} {w : World} {stage : Stage} {prompts : PromptPair}
    {solo duo : Str} (hstage : args.stage = stage) (hprovider : args.providerStage = stage)
    (hprompts : args.prompts = bothAsked prompts) (hoverrides : args.outputOverrides = [])
    (hwf : w.store.WellFormed) (hsend : Sendable prompts) (hnow : (w.now : ℤ) < args.deadline)
    (hfresh : ∀ name, w.store.slot stage name = none)
    (hquiet : w.store.isAmbiguous (lit "solo") = false ∧ w.store.isAmbiguous (lit "duo") = false)
    (hcapacity : 2 ≤ remainingCalls councilEngine.toRunConfig w.store -
      downstreamCallReserve councilEngine.toRunConfig w.store stage [lit "solo", lit "duo"])
    (hsolo : Str.encodable solo = true) (hduo : Str.encodable duo = true) :
    Prog.Ends (runParallelStage exampleRuntime councilEngine args) w
      ⟨[(lit "solo", answeredBy solo), (lit "duo", answeredBy duo)], [], []⟩
      (w.bothAnswered stage prompts solo duo) := by
  obtain ⟨stage', prompts', deadline, allow, overrides, providerStage, retry, preserve⟩ := args
  dsimp only at *
  subst hstage hprovider hprompts hoverrides
  have hasked : ∀ e ∈ bothAsked prompts, e = (lit "solo", prompts) ∨ e = (lit "duo", prompts) := by
    intro e he
    simpa [bothAsked] using he
  have hfits : ∀ e ∈ bothAsked prompts, fitsLimit councilEngine.policy e.2 = true := by
    intro e he
    rcases hasked e he with rfl | rfl
    · exact hsend.fit
    · exact hsend.fit
  have hanswers : ∀ {args : StageArgs}, Answers exampleRuntime councilEngine args w.store
      (w.record (.enter providerStage (bothAsked prompts) w.store))
      [⟨councilCall providerStage providerStage (lit "solo") prompts, none⟩,
        ⟨councilCall providerStage providerStage (lit "duo") prompts, none⟩]
      (StageResult.append ⟨[(lit "solo", answeredBy solo)], [], []⟩
        (StageResult.append ⟨[(lit "duo", answeredBy duo)], [], []⟩ {}))
      (w.bothAnswered providerStage prompts solo duo) := by
    intro args
    refine Answers.complete hwf ⟨rfl, named_members.1, hfresh _, hsend.encodable⟩ rfl rfl
      (storable_answeredBy hsolo) (binds_answeredBy _) ?_
    refine Answers.complete (World.answered_wellFormed hwf (hfresh _) _)
      ⟨rfl, named_members.2, World.slot_duo hwf hfresh prompts _, hsend.encodable⟩ rfl rfl
      (storable_answeredBy hduo) (binds_answeredBy _) ?_
    exact .done _
  have htasks : tasksOf councilEngine.toRunConfig ⟨providerStage, bothAsked prompts, deadline,
      allow, [], providerStage, retry, preserve⟩ w.store (bothAsked prompts) =
      [⟨councilCall providerStage providerStage (lit "solo") prompts, none⟩,
        ⟨councilCall providerStage providerStage (lit "duo") prompts, none⟩] := by
    simp only [tasksOf, bothAsked, List.map_cons, List.map_nil, hfresh]
    rfl
  refine ends_stage rfl (List.cons_ne_nil _ _) hnow (fun e he => ?_) hfits hcapacity ?_ ?_
  · rcases hasked e he with rfl | rfl
    · exact selectSlot_fresh (hfresh _) hquiet.1
    · exact selectSlot_fresh (hfresh _) hquiet.2
  · exact Int.le_refl 1
  · rw [htasks]
    exact hanswers

/-- **One member is asked.** -/
theorem ends_oneAnswered {args : StageArgs} {w : World} {stage providerStage : Stage}
    {member : ProviderConfig} {prompts : PromptPair} {state : InvocationState}
    {result : StageResult} (hstage : args.stage = stage)
    (hprovider : args.providerStage = providerStage)
    (hprompts : args.prompts = [(member.name, prompts)]) (hoverrides : args.outputOverrides = [])
    (hmember : member = soloMember ∨ member = duoMember)
    (hsend : Sendable prompts) (hnow : (w.now : ℤ) < args.deadline)
    (hfresh : w.store.slot stage member.name = none)
    (hquiet : w.store.isAmbiguous member.name = false)
    (hcapacity : 1 ≤ remainingCalls councilEngine.toRunConfig w.store -
      downstreamCallReserve councilEngine.toRunConfig w.store stage [member.name])
    (hanswers : (w.record (.enter stage [(member.name, prompts)] w.store)).Opens exampleRuntime
        councilEngine (councilCall stage providerStage member.name prompts) member →
      Answers exampleRuntime councilEngine args w.store
        (w.record (.enter stage [(member.name, prompts)] w.store))
        [⟨councilCall stage providerStage member.name prompts, none⟩] result
        (w.oneAnswered stage providerStage member prompts state)) :
    Prog.Ends (runParallelStage exampleRuntime councilEngine args) w result
      (w.oneAnswered stage providerStage member prompts state) := by
  obtain ⟨stage', prompts', deadline, allow, overrides, providerStage', retry, preserve⟩ := args
  dsimp only at *
  subst hstage hprovider hprompts hoverrides
  have hfits : ∀ e ∈ [(member.name, prompts)], fitsLimit councilEngine.policy e.2 = true := by
    intro e he
    rw [List.mem_singleton.1 he]
    exact hsend.fit
  have hopens : (w.record (.enter stage' [(member.name, prompts)] w.store)).Opens exampleRuntime
      councilEngine (councilCall stage' providerStage' member.name prompts) member := by
    rcases hmember with rfl | rfl
    · exact ⟨rfl, named_members.1, hfresh, hsend.encodable⟩
    · exact ⟨rfl, named_members.2, hfresh, hsend.encodable⟩
  have htasks : tasksOf councilEngine.toRunConfig ⟨stage', [(member.name, prompts)], deadline,
      allow, [], providerStage', retry, preserve⟩ w.store [(member.name, prompts)] =
      [⟨councilCall stage' providerStage' member.name prompts, none⟩] := by
    simp only [tasksOf, List.map_cons, List.map_nil, hfresh]
    rcases hmember with rfl | rfl <;> rfl
  refine ends_stage rfl (List.cons_ne_nil _ _) hnow (fun e he => ?_) hfits hcapacity ?_ ?_
  · rw [List.mem_singleton.1 he]
    exact selectSlot_fresh hfresh hquiet
  · exact Int.le_refl 1
  · rw [htasks]
    exact hanswers hopens

/-- **One member is asked and answers.** -/
theorem ends_oneCompleted {args : StageArgs} {w : World} {stage providerStage : Stage}
    {member : ProviderConfig} {prompts : PromptPair} {text : Str} (hstage : args.stage = stage)
    (hprovider : args.providerStage = providerStage)
    (hprompts : args.prompts = [(member.name, prompts)]) (hoverrides : args.outputOverrides = [])
    (hmember : member = soloMember ∨ member = duoMember) (hwf : w.store.WellFormed)
    (hsend : Sendable prompts) (hnow : (w.now : ℤ) < args.deadline)
    (hfresh : w.store.slot stage member.name = none)
    (hquiet : w.store.isAmbiguous member.name = false)
    (hcapacity : 1 ≤ remainingCalls councilEngine.toRunConfig w.store -
      downstreamCallReserve councilEngine.toRunConfig w.store stage [member.name])
    (htext : Str.encodable text = true) :
    Prog.Ends (runParallelStage exampleRuntime councilEngine args) w
      ⟨[(member.name, answeredBy text)], [], []⟩
      (w.oneAnswered stage providerStage member prompts (.succeeded (answeredBy text))) := by
  refine ends_oneAnswered hstage hprovider hprompts hoverrides hmember hsend hnow hfresh hquiet
    hcapacity fun hopens => ?_
  show Answers _ _ _ _ _ _ (StageResult.append ⟨[(member.name, answeredBy text)], [], []⟩ {}) _
  exact Answers.complete (w := w.record _) hwf hopens rfl rfl (storable_answeredBy htext)
    (binds_answeredBy _) (.done _)

/-- **One member is asked and its answer is refused.** -/
theorem ends_oneFiltered {args : StageArgs} {w : World} {stage providerStage : Stage}
    {member : ProviderConfig} {prompts : PromptPair} (hstage : args.stage = stage)
    (hprovider : args.providerStage = providerStage)
    (hprompts : args.prompts = [(member.name, prompts)]) (hoverrides : args.outputOverrides = [])
    (hkeep : args.preserveIncompleteResponses = false)
    (hmember : member = soloMember ∨ member = duoMember) (hwf : w.store.WellFormed)
    (hsend : Sendable prompts) (hnow : (w.now : ℤ) < args.deadline)
    (hfresh : w.store.slot stage member.name = none)
    (hquiet : w.store.isAmbiguous member.name = false)
    (hcapacity : 1 ≤ remainingCalls councilEngine.toRunConfig w.store -
      downstreamCallReserve councilEngine.toRunConfig w.store stage [member.name]) :
    Prog.Ends (runParallelStage exampleRuntime councilEngine args) w
      ⟨[], [(member.name, filteredError.toDict)], []⟩
      (w.oneAnswered stage providerStage member prompts (.failed filteredError)) := by
  refine ends_oneAnswered hstage hprovider hprompts hoverrides hmember hsend hnow hfresh hquiet
    hcapacity fun hopens => ?_
  have herror : completionError (some filteredResponse) = some filteredError := rfl
  show Answers _ _ _ _ _ _ (StageResult.append ⟨[], [(member.name, filteredError.toDict)], []⟩ {}) _
  exact Answers.fail (w := w.record _) hwf hopens herror rfl hkeep (by decide) (by decide) (.done _)

/-! ### The synthesis chain -/

section Chain
variable {rt : Runtime} {eng : CouncilEngine} {deadline : ℤ} {prompts : PromptPair}
  {current position : ℕ} {name : Str} {rest : List Str} {result : StageResult} {w w₁ w₂ w' : World}

/-- The clock may stand still. -/
theorem ends_clock (w : World) : Prog.Ends monotonic w (w.now : ℤ) w := by
  have hclock := ends_monotonic w 0
  rwa [show (w.now : ℤ) + ((0 : ℕ) : ℤ) = w.now by omega] at hclock

/-- The synthesis is over when the provider in front answers. -/
theorem ends_synthesisChain_answer {response : ProviderResponse} (hnow : (w.now : ℤ) < deadline)
    (hstage : Prog.Ends (runParallelStage rt eng (synthesisArgs deadline name prompts
      (decide (position = current) && decide (position = eng.synthesisProviders.length)))) w
        result w')
    (hanswered : result.successes.lookup name = some response) :
    Prog.Ends (synthesisChain rt eng deadline prompts current position (name :: rest)) w
      ⟨some (name, response.content), result.failureDicts .synthesis, result.recoveries⟩ w' := by
  unfold synthesisChain
  refine (ends_clock w).seq ?_
  rw [if_neg (not_le.2 hnow)]
  refine hstage.seq ?_
  dsimp only
  rw [hanswered]
  exact Prog.ends_pure _ _

/-- It goes on with the next provider when the one in front has failed. -/
theorem ends_synthesisChain_advance {failure : Dict} {others : SynthesisResult}
    (hnow : (w.now : ℤ) < deadline) (hposition : position < eng.synthesisProviders.length)
    (hstage : Prog.Ends (runParallelStage rt eng (synthesisArgs deadline name prompts
      (decide (position = current) && decide (position = eng.synthesisProviders.length)))) w
        result w₁)
    (hanswered : result.successes.lookup name = none) (hnow₁ : (w₁.now : ℤ) < deadline)
    (hfailure : (result.failureDicts .synthesis).reverse.find? (fun f =>
      f.get? (lit "provider") = some (.str name)) = some failure)
    (hadvanced : Prog.Ends (persistSynthesisFallbackEvent rt eng.toRunConfig position failure) w₁
      () w₂)
    (hothers : Prog.Ends (synthesisChain rt eng deadline prompts current (position + 1) rest) w₂
      others w') :
    Prog.Ends (synthesisChain rt eng deadline prompts current position (name :: rest)) w
      ⟨others.answer, result.failureDicts .synthesis ++ others.failures,
        result.recoveries ++ others.recoveries⟩ w' := by
  unfold synthesisChain
  refine (ends_clock w).seq ?_
  rw [if_neg (not_le.2 hnow)]
  refine hstage.seq ?_
  dsimp only
  rw [hanswered]
  dsimp only
  rw [if_pos hposition]
  refine (ends_clock w₁).seq ?_
  rw [if_pos hnow₁, hfailure]
  exact hadvanced.seq (hothers.seq (Prog.ends_pure _ _))

end Chain

end CouncilLogic
