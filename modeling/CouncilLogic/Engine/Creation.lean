/-
# Runs can be created

A question is accepted when its projected prompts fit: their lengths are known without
printing them, and drawn markers do not collide with them when they have a character
that the projections do not show.

`create_run` of `src/model_council/engine.py` builds the prompts of all four stages four times,
each with a marker of its own, and refuses the question if one of them is longer than the policy
allows.  For a run that a theorem is to be applied to, that has to be known of a concrete
question; evaluating the templates would be slow, so that the lengths are computed from the widths
of the payloads, and the freshness of a marker from a character that occurs nowhere else.
-/

import CouncilLogic.Engine.History
import CouncilLogic.Protocol.PromptLaws

namespace CouncilLogic
namespace Workload

open Protocol

variable {rt : Runtime} {policy : RunPolicy} {question : Str} {n c : ℕ}

/-- The parts of a projected prompt that do not depend on the question. -/
def projectedParts (n : ℕ) : Dict :=
  [(lit "candidates", .obj (projectedArtifacts n)),
    (lit "aggregate", .obj ((projectedAggregate n).toDict protocolId protocolVersion)),
    (lit "jury_votes", .arr ((projectedJuries n).map compactJury))]

/-- The character is in every drawn marker and in no projection for `n` providers. -/
structure Unshown (c n : ℕ) : Prop where
  punctuation : c ∉ Json.punctuation
  key : c ∉ Json.dumpsStr (lit "question")
  labels : Json.itemsAvoid c ((labelsOf n).map .str) = true
  parts : Json.fieldsAvoid c (projectedParts n) = true

/-- A record that begins with the question avoids what the question and the rest avoid. -/
theorem avoids_question (h : Unshown c n) (hq : c ∉ Json.dumpsStr question) {fs : Dict}
    (hfs : Json.fieldsAvoid c fs = true) :
    Json.avoids c (.obj ((lit "question", .str question) :: fs)) = true := by
  rw [Json.avoids, Json.fieldsAvoid, hfs, decide_eq_true h.key, Bool.true_and, Bool.and_true]
  exact decide_eq_true hq

/-- The projected artifacts are those of the labels that are made for so many candidates. -/
theorem keys_projectedArtifacts (n : ℕ) : Dict.keys (projectedArtifacts n) = labelsOf n := by
  simp [projectedArtifacts, artifactDict, Dict.keys, Function.comp_def]

/-- The projected artifacts pass the check that the real ones have to pass. -/
theorem checkCandidates_projected (h : validatedLabels (labelsOf n) = .ok ()) :
    checkCandidates (projectedArtifacts n) = .ok () := by
  have hnull : (projectedArtifacts n).any (fun e => decide (e.2 = Json.null)) = false := by
    rw [List.any_eq_false]
    intro e he
    simp only [projectedArtifacts, artifactDict, List.map_map, List.mem_map] at he
    obtain ⟨label, -, rfl⟩ := he
    simp
  unfold checkCandidates
  rw [keys_projectedArtifacts, h]
  simp only [bind, Except.bind, hnull, Bool.false_eq_true, if_false]

/-- The lengths of the projected prompts. -/
structure ProjectedChars (question : Str) (n : ℕ) (chars : StageChars) : Prop where
  proposal : chars.proposal =
    combinedPromptChars (proposalSystemTemplate, proposalUser [] []) + 2 * 16 +
      Json.width 0 (.obj [(lit "question", .str question)])
  jury : chars.jury =
    combinedPromptChars (jurySystemTemplate, juryUser [] [] []) + 2 * 16 +
      Json.width 0 (.arr ((labelsOf n).map .str)) +
      Json.width 0 (.obj [(lit "question", .str question),
        (lit "candidates", .obj (projectedArtifacts n))])
  synthesis : chars.synthesis =
    combinedPromptChars (synthesisSystemTemplate, synthesisUser [] []) + 2 * 16 +
      Json.width 0 (.obj ((lit "question", .str question) :: projectedParts n))

/-- **What a projection measures.** -/
theorem stagePromptChars_ok {draws : MarkerDraws} {chars : StageChars}
    (h : stagePromptChars rt draws question n policy = .ok chars) :
    ProjectedChars question n chars := by
  unfold stagePromptChars at h
  simp only [bind, Except.bind] at h
  split at h
  · cases h
  rename_i proposal hproposal
  split at h
  · cases h
  rename_i jury hjury
  split at h
  · cases h
  rename_i synthesis hsynthesis
  have hchars : ∃ repair, chars = ⟨combinedPromptChars proposal, combinedPromptChars jury,
      combinedPromptChars synthesis, repair⟩ := by
    split at h
    · split at h
      · cases h
      · exact ⟨_, (Except.ok.inj h).symm⟩
    · exact ⟨_, (Except.ok.inj h).symm⟩
  obtain ⟨repair, rfl⟩ := hchars
  have hp := chars_proposalPrompts hproposal
  have hj := chars_juryPrompts hjury
  have hs := chars_synthesisPrompts hsynthesis
  rw [Marker.length_text] at hp hj hs
  rw [keys_projectedArtifacts] at hj
  exact ⟨hp, hj, hs⟩

/-- A projection without repairs can be measured. -/
theorem exists_stagePromptChars (rt : Runtime) (draws : MarkerDraws) (h : Unshown c n)
    (hdraws : ∀ stage, c ∈ (draws stage).text) (hlabels : validatedLabels (labelsOf n) = .ok ())
    (hblank : Str.isBlank question = false) (hq : c ∉ Json.dumpsStr question)
    (hrepair : policy.juryRepairAttempts = 0) :
    ∃ chars, stagePromptChars rt draws question n policy = .ok chars ∧ chars.juryRepair = none := by
  have hcheck : checkQuestion question = .ok () := by
    unfold checkQuestion
    rw [hblank]
    rfl
  have hcandidates := checkCandidates_projected hlabels
  have hproposal : checkedMarker (draws .proposal).text
      (payload (.obj [(lit "question", .str question)])) = .ok (draws .proposal).text :=
    checkedMarker_payload h.punctuation (hdraws _) (avoids_question h hq rfl)
  have hparts := h.parts
  rw [projectedParts, Json.fieldsAvoid, Bool.and_eq_true] at hparts
  have hjury : checkedMarker (draws .jury).text (evaluationPayload question
      (projectedArtifacts n)) = .ok (draws .jury).text := by
    refine checkedMarker_payload h.punctuation (hdraws _) (avoids_question h hq ?_)
    rw [Json.fieldsAvoid, hparts.1]
    rfl
  have hsynthesis : checkedMarker (draws .synthesis).text (councilPayload question
      (projectedArtifacts n) ((projectedAggregate n).toDict protocolId protocolVersion)
      (projectedJuries n)) = .ok (draws .synthesis).text :=
    checkedMarker_payload h.punctuation (hdraws _) (avoids_question h hq h.parts)
  unfold stagePromptChars proposalPrompts juryPrompts synthesisPrompts
  simp only [bind, Except.bind, hcheck, hcandidates, hproposal, hjury, hsynthesis, hrepair,
    ne_eq, not_true_eq_false, if_false]
  exact ⟨_, rfl, rfl⟩

/-- The capacity of a plan can be measured. -/
theorem exists_plainQuestionCapacity (rt : Runtime) (draws : PlanDraws) (h : Unshown c n)
    (hdraws : ∀ stage, c ∈ (draws.plainOne stage).text ∧ c ∈ (draws.plainTwo stage).text ∧
      c ∈ (draws.appended stage).text)
    (hlabels : validatedLabels (labelsOf n) = .ok ()) (hone : c ∉ Json.dumpsStr (lit "x"))
    (htwo : c ∉ Json.dumpsStr (lit "xx"))
    (hblank : Str.isBlank (question ++ lit "x") = false)
    (hq : c ∉ Json.dumpsStr (question ++ lit "x"))
    (hrepair : policy.juryRepairAttempts = 0) (current : StageChars) :
    ∃ capacity, plainQuestionCapacity rt draws question n policy current = .ok capacity := by
  obtain ⟨one, h1, -⟩ := exists_stagePromptChars rt draws.plainOne h (fun s => (hdraws s).1)
    hlabels (by decide) hone hrepair
  obtain ⟨two, h2, -⟩ := exists_stagePromptChars rt draws.plainTwo h
    (fun s => (hdraws s).2.1) hlabels (by decide) htwo hrepair
  obtain ⟨appended, h3, -⟩ := exists_stagePromptChars rt draws.appended h
    (fun s => (hdraws s).2.2) hlabels hblank hq hrepair
  unfold plainQuestionCapacity
  simp only [bind, Except.bind, h1, h2, h3]
  split
  · exact ⟨_, rfl⟩
  · exact ⟨_, rfl⟩

end Workload

open Protocol Workload

variable {rt : Runtime}

/-- **An engine can create a run** of a question whose prompts fit. -/
theorem exists_createRun (eng : CouncilEngine) (draws : PlanDraws) {question runId : Str} {c : ℕ}
    (h : Unshown c eng.names.length)
    (hdraws : ∀ stage, c ∈ (draws.current stage).text ∧ c ∈ (draws.plainOne stage).text ∧
      c ∈ (draws.plainTwo stage).text ∧ c ∈ (draws.appended stage).text)
    (hlabels : validatedLabels (labelsOf eng.names.length) = .ok ())
    (hone : c ∉ Json.dumpsStr (lit "x")) (htwo : c ∉ Json.dumpsStr (lit "xx"))
    (hclean : Str.strip question = question) (hblank : Str.isBlank question = false)
    (hencodable : Str.encodable question = true)
    (hq : c ∉ Json.dumpsStr question) (hq' : c ∉ Json.dumpsStr (question ++ lit "x"))
    (hrepair : eng.policy.juryRepairAttempts = 0)
    (hlength : (question.length : ℤ) ≤ eng.policy.maxQuestionChars)
    (hfits : ∀ chars, ProjectedChars question eng.names.length chars →
      (chars.proposal : ℤ) ≤ eng.policy.maxStagePromptChars ∧
        (chars.jury : ℤ) ≤ eng.policy.maxStagePromptChars ∧
        (chars.synthesis : ℤ) ≤ eng.policy.maxStagePromptChars)
    (hcredentials : Json.assertNoCredentials rt (lit "$.provider_configs")
      (.arr (eng.providers.map fun c => .obj c.toDict)) = .ok ())
    (hid : Str.isBlank runId = false) :
    createRun rt eng draws question runId =
      .ok { run := { spec := ⟨runId, question, rt.protocolHash, eng.toRunConfig⟩ } } := by
  have hblank' : Str.isBlank (question ++ lit "x") = false := by
    unfold Str.isBlank at hblank ⊢
    rw [List.all_append, hblank, Bool.false_and]
  obtain ⟨chars, hchars, hnone⟩ := exists_stagePromptChars rt draws.current h
    (fun s => (hdraws s).1) hlabels hblank hq hrepair
  obtain ⟨capacity, hcapacity⟩ := exists_plainQuestionCapacity rt draws h
    (fun s => (hdraws s).2) hlabels hone htwo hblank' hq' hrepair chars
  obtain ⟨hproposal, hjury, hsynthesis⟩ := hfits chars (stagePromptChars_ok hchars)
  have hne : question ≠ [] := by
    rintro rfl
    cases hblank
  have hexceeded : (chars.toList.filter fun e =>
      decide (eng.policy.maxStagePromptChars < (e.2 : ℤ))) = [] := by
    unfold StageChars.toList
    rw [hnone]
    refine List.filter_eq_nil_iff.2 fun e he => ?_
    simp only [Option.map_none, Option.toList_none, List.append_nil, List.mem_cons,
      List.not_mem_nil, or_false] at he
    rcases he with rfl | rfl | rfl <;> simpa
  have hrequired : Store.requiredText (lit "run_id") runId = .ok () := by
    unfold Store.requiredText
    rw [hid]
    rfl
  unfold createRun estimateWorkload requireWorkloadWithinLimits
  simp only [bind, Except.bind, hclean, hne, if_false, hchars, hcapacity, hencodable,
    hexceeded, List.map_nil, hcredentials, hrequired, Bool.true_eq_false, not_lt.2 hlength,
    if_true, decide_false, Bool.false_eq_true]

/-! ### A run -/

/-- A runtime for examples in ASCII: nothing is folded, and digests are the texts. -/
def exampleRuntime : Runtime where
  casefold s := s
  lower s := s
  isWord c := decide (48 ≤ c ∧ c ≤ 57 ∨ 65 ≤ c ∧ c ≤ 90 ∨ c = 95 ∨ 97 ≤ c ∧ c ≤ 122)
  sha256 s := s
  shuffle _ _ := Equiv.refl _
  recursionLimit := 1000
  floatRepr s := s
  endpointRejected _ := false
  protocolHash := lit "hash"

/-- Room for the templates of every stage, and ten thousand characters. -/
def exampleMaxChars : ℤ :=
  combinedPromptChars (proposalSystemTemplate, proposalUser [] []) +
    combinedPromptChars (jurySystemTemplate, juryUser [] [] []) +
    combinedPromptChars (synthesisSystemTemplate, synthesisUser [] []) + 10000

/-- The longest prompt of the example has a length. -/
theorem exampleMaxChars_nonneg : 0 ≤ exampleMaxChars := by
  unfold exampleMaxChars
  omega

/-- A literal is as long as its characters. -/
theorem length_lit_le {l : List Char} {n : ℕ} (h : l.length ≤ n) :
    (lit (String.ofList l)).length ≤ n := by
  rw [length_lit, String.length_ofList]
  exact h

/-- Bounds for two texts add up to one for both. -/
theorem length_append_le {a b : Str} {m n : ℕ} (ha : a.length ≤ m) (hb : b.length ≤ n) :
    (a ++ b).length ≤ m + n := by
  rw [List.length_append]
  exact Nat.add_le_add ha hb

section Lengths
-- a text is unfolded into its characters
set_option maxRecDepth 100000

/-- The three system templates have 10000 characters each at most. -/
theorem length_systemTemplates : proposalSystemTemplate.length ≤ 10000 ∧
    jurySystemTemplate.length ≤ 10000 ∧ synthesisSystemTemplate.length ≤ 10000 :=
  ⟨length_lit_le (by decide +kernel), length_lit_le (by decide +kernel),
    length_lit_le (by decide +kernel)⟩

/-- The user templates, with nothing filled in, are as long as their pieces. -/
theorem length_users : (proposalUser [] []).length ≤ 500 + 0 + 500 + 0 + 500 + 0 ∧
    (juryUser [] [] []).length ≤ 500 + 0 + 500 + 0 + 500 + 0 + 500 + 0 ∧
    (synthesisUser [] []).length ≤ 500 + 0 + 500 + 0 + 500 + 0 := by
  have hsmall : ∀ {l : List Char}, l.length ≤ 500 → (lit (String.ofList l)).length ≤ 500 :=
    fun h => length_lit_le h
  refine ⟨?_, ?_, ?_⟩
  · exact length_append_le (length_append_le (length_append_le (length_append_le
      (length_append_le (hsmall (by decide +kernel)) le_rfl) (hsmall (by decide +kernel))) le_rfl)
      (hsmall (by decide +kernel))) le_rfl
  · exact length_append_le (length_append_le (length_append_le (length_append_le
      (length_append_le (length_append_le (length_append_le (hsmall (by decide +kernel)) le_rfl)
      (hsmall (by decide +kernel))) le_rfl) (hsmall (by decide +kernel))) le_rfl)
      (hsmall (by decide +kernel))) le_rfl
  · exact length_append_le (length_append_le (length_append_le (length_append_le
      (length_append_le (hsmall (by decide +kernel)) le_rfl) (hsmall (by decide +kernel))) le_rfl)
      (hsmall (by decide +kernel))) le_rfl

end Lengths

/-- The longest prompt of the example has less than 100000 characters. -/
theorem exampleMaxChars_lt : exampleMaxChars < 100000 := by
  obtain ⟨hproposal, hjury, hsynthesis⟩ := length_systemTemplates
  obtain ⟨hproposal', hjury', hsynthesis'⟩ := length_users
  have hframe : (lit "[SYSTEM]\n").length ≤ 100 ∧ (lit "\n\n[USER]\n").length ≤ 100 :=
    ⟨by decide, by decide⟩
  unfold exampleMaxChars combinedPromptChars combinedPrompt
  simp only [List.length_append]
  omega

/-- An engine of one provider that answers, judges and writes. -/
def exampleEngine : CouncilEngine where
  providers := [{
    name := lit "solo"
    model := lit "m"
    lineage := lit "l"
    endpoint := lit "https://solo.test" }]
  policy := {
    proposalQuorum := 1
    juryQuorum := 1
    minLineages := 1
    maxStagePromptChars := exampleMaxChars }
  synthesisProvider := lit "solo"
  synthesisFallbacks := []
  hasGate := false
  accepted := ⟨by decide, by decide, by decide, by decide, by decide⟩

/-- A marker of nines. -/
def nines : Marker := ⟨List.replicate 16 57, by decide, by decide⟩

def ninesDraws : PlanDraws := ⟨fun _ => nines, fun _ => nines, fun _ => nines, fun _ => nines⟩

/-- The run it creates. -/
def exampleSpec : RunSpec :=
  ⟨lit "run", lit "Why?", exampleRuntime.protocolHash, exampleEngine.toRunConfig⟩

/-- The character of the example's marker is in no template for one candidate. -/
theorem unshown_one : Unshown 57 1 where
  punctuation := by decide
  key := by decide
  labels := by decide
  parts := by decide +kernel

/-- The provider of the example with an output limit of its own, and maybe another one for
the synthesis. -/
def soloProvider (tokens : ℤ) (other : Option ℤ) : ProviderConfig where
  name := lit "solo"
  model := lit "m"
  lineage := lit "l"
  endpoint := lit "https://solo.test"
  maxOutputTokens := tokens
  stageMaxOutputTokens := (other.map fun limit => (lit "synthesis", limit)).toList

/-- The engine of the example with output limits of its own, with a gate or without. -/
def soloEngine (tokens : ℤ) (other : Option ℤ) (hasGate : Bool) : CouncilEngine where
  providers := [soloProvider tokens other]
  policy := exampleEngine.policy
  synthesisProvider := lit "solo"
  synthesisFallbacks := []
  hasGate := hasGate
  accepted := ⟨by simp, List.nodup_singleton _, List.nodup_singleton _, List.Subset.refl _,
    exampleEngine.accepted.max_calls⟩

/-- The run it creates. -/
def soloSpec (tokens : ℤ) (other : Option ℤ) : RunSpec :=
  ⟨lit "run", lit "Why?", exampleRuntime.protocolHash,
    (soloEngine tokens other false).toRunConfig⟩

/-- The question of the example fits every stage of its one provider, so `create_run`
accepts it. -/
theorem soloRun_created (tokens : ℤ) (other : Option ℤ) :
    createRun exampleRuntime (soloEngine tokens other false) ninesDraws (lit "Why?")
      (lit "run") = .ok { run := { spec := soloSpec tokens other } } := by
  have hnine : ∀ stage : Stage, 57 ∈ (ninesDraws.current stage).text := fun _ => by
    show 57 ∈ List.replicate 16 57
    decide
  have hcredentials : Json.assertNoCredentials exampleRuntime (lit "$.provider_configs")
      (.arr ((soloEngine tokens other false).providers.map fun c => .obj c.toDict)) = .ok () := by
    cases other <;> rfl
  refine exists_createRun (soloEngine tokens other false) ninesDraws unshown_one
    (fun stage => ⟨hnine stage, hnine stage, hnine stage, hnine stage⟩)
    (show validatedLabels (labelsOf 1) = .ok () by decide) (by decide) (by decide) (by decide)
    (by decide) (by decide) (by decide) (by decide) rfl
    (show ((lit "Why?").length : ℤ) ≤ 30000 by decide) ?_ hcredentials (by decide)
  intro chars h
  have hwidths : Json.width 0 (.obj [(lit "question", .str (lit "Why?"))]) ≤ 100 ∧
      Json.width 0 (.arr ((labelsOf 1).map .str)) ≤ 100 ∧
      Json.width 0 (.obj [(lit "question", .str (lit "Why?")),
        (lit "candidates", .obj (projectedArtifacts 1))]) ≤ 9000 ∧
      Json.width 0 (.obj ((lit "question", .str (lit "Why?")) :: projectedParts 1)) ≤ 9000 :=
    ⟨by decide +kernel, by decide +kernel, by decide +kernel, by decide +kernel⟩
  have hproposal := h.proposal
  have hjury := h.jury
  have hsynthesis := h.synthesis
  show (chars.proposal : ℤ) ≤ exampleMaxChars ∧ (chars.jury : ℤ) ≤ exampleMaxChars ∧
    (chars.synthesis : ℤ) ≤ exampleMaxChars
  unfold exampleMaxChars
  have hn : (soloEngine tokens other false).names.length = 1 := rfl
  rw [hn] at hjury hsynthesis
  generalize combinedPromptChars (proposalSystemTemplate, proposalUser [] []) = a at *
  generalize combinedPromptChars (jurySystemTemplate, juryUser [] [] []) = b at *
  generalize combinedPromptChars (synthesisSystemTemplate, synthesisUser [] []) = d at *
  omega

/-- The example's run is created. -/
theorem exampleRun_created :
    createRun exampleRuntime exampleEngine ninesDraws (lit "Why?") (lit "run") =
      .ok { run := { spec := exampleSpec } } :=
  soloRun_created 1800 none

/-- **There is a run.** -/
theorem exampleRun_reachable :
    Reachable exampleRuntime exampleSpec (.idle { store := { run := { spec := exampleSpec } } }) :=
  ⟨exampleEngine, ninesDraws, lit "Why?", _, exampleRun_created, rfl, .refl⟩

end CouncilLogic
