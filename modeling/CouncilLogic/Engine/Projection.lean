/-
# How a projection grows

The three prompts that show the question need a number of characters of their own and the width of
the printed question; the repair prompt is the same for every question (`stagePromptChars_frame`).
A plain character is printed as it is, so it adds one.  The projection is returned when no drawn
marker occurs in the printed question or in the rest of the record.

The functions are `_stage_prompt_chars` and `_plain_question_capacity` of
`src/model_council/workload.py`: `estimate_workload` refuses a question whose prompts could become
longer than the policy allows, and what has to be known for that is how long the templates are
when everything that the models will write is as long as it may be.
-/

import CouncilLogic.Engine.Creation
import CouncilLogic.Protocol.RepairLaws

namespace CouncilLogic
namespace Workload

open Decode Protocol

variable {rt : Runtime} {policy : RunPolicy} {question t : Str} {n : ℕ}

/-! ### Plain text -/

/-- A printable ASCII character that is printed as it is. -/
def isPlain (c : ℕ) : Bool := 32 ≤ c && c ≤ 126 && c != 34 && c != 92

/-- Text of plain characters. -/
def Plain (t : Str) : Prop := t.all isPlain = true

/-- A plain character is printed as it is. -/
theorem escape_plain {c : ℕ} (h : isPlain c = true) : Json.escape c = [c] := by
  simp only [isPlain, Bool.and_eq_true, decide_eq_true_eq, bne_iff_ne, ne_eq] at h
  obtain ⟨⟨⟨hlow, hhigh⟩, hquote⟩, hslash⟩ := h
  unfold Json.escape
  rw [if_neg hquote, if_neg hslash, if_neg (by omega), if_neg (by omega), if_neg (by omega),
    if_neg (by omega), if_neg (by omega), if_neg (by omega)]

/-- Each plain character adds one to the width. -/
theorem width_append_plain (s : Str) (h : Plain t) :
    Str.width (s ++ t) = Str.width s + t.length := by
  have hsum : (t.map fun c => (Json.escape c).length).sum = t.length := by
    induction t with
    | nil => rfl
    | cons c t ih =>
      rw [Plain, List.all_cons, Bool.and_eq_true] at h
      rw [List.map_cons, List.sum_cons, ih h.2, escape_plain h.1, List.length_singleton,
        List.length_cons, Nat.add_comm]
  simp only [Str.width, List.map_append, List.sum_append, hsum]
  omega

/-- **A plain text is as wide as it is long**, with two quotes. -/
theorem width_plain (h : Plain t) : Str.width t = t.length + 2 := by
  have happend := width_append_plain [] h
  rw [List.nil_append] at happend
  rw [happend, Nat.add_comm]
  rfl

/-- A plain text can be encoded. -/
theorem encodable_plain (h : Plain t) : Str.encodable t = true := by
  unfold Plain at h
  rw [List.all_eq_true] at h
  unfold Str.encodable
  rw [List.all_eq_true]
  intro c hc
  have hplain := h c hc
  simp only [isPlain, Bool.and_eq_true, decide_eq_true_eq] at hplain
  simp only [Bool.not_eq_true', Bool.and_eq_false_iff, decide_eq_false_iff_not]
  omega

/-! ### The repair stage -/

/-- The fields of the smallest useful ballot. -/
def repairFields : Dict :=
  [(lit "winner", .null), (lit "ranking", .arr []), (lit "confidence", .str (lit "low")),
    (lit "abstain", .bool true), (lit "rationale", .str []),
    (lit "material_disagreements", .arr []), (lit "verification_needed", .arr [])]

/-- The response and the error that the projection repairs, and the decision it keeps. -/
def projectedResponse : Str :=
  List.replicate (juryRepairInputMaxChars - repairObject.length) 0 ++ repairObject

def projectedError : Str := List.replicate juryRepairErrorMaxChars 0

def projectedDecision : JuryDecision := ⟨none, [], .low, true⟩

set_option maxRecDepth 8000 in
/-- The smallest useful ballot is nested two levels deep. -/
theorem rawDecode_repairObject (rt : Runtime) : rawDecode rt repairObject =
    if 2 ≤ rt.recursionLimit then .ok (.obj repairFields, []) else .error .recursion := by
  unfold rawDecode
  match rt.recursionLimit with
  | 0 => rfl
  | 1 => rfl
  | m + 2 =>
    rw [if_pos (Nat.le_add_left 2 m)]
    rfl

set_option maxRecDepth 8000 in
/-- The object that the projected repair quotes has 130 characters. -/
theorem length_repairObject : repairObject.length = 130 := by decide

/-- The projected response is the object behind as many NULs as fill it up. -/
theorem projectedResponse_eq : projectedResponse = List.replicate (5869 + 1) 0 ++ repairObject := by
  have hpad : juryRepairInputMaxChars - repairObject.length = 5869 + 1 := by
    rw [length_repairObject]
    rfl
  unfold projectedResponse
  rw [hpad]

/-- NULs are not white space, so the projected response is not stripped. -/
theorem strip_projectedResponse : Str.strip projectedResponse = projectedResponse := by
  rw [projectedResponse_eq]
  exact strip_padded 5869 (by decide)

/-- **The projected response** can be repaired unless the recursion runs out. -/
theorem finds_projectedResponse {value : Dict} :
    Finds rt projectedResponse value ↔ 2 ≤ rt.recursionLimit ∧ value = repairFields := by
  have hraw := rawDecode_repairObject rt
  rw [projectedResponse_eq]
  by_cases h : 2 ≤ rt.recursionLimit
  · rw [if_pos h] at hraw
    have hfinds := finds_padded 5869 (by decide) (by decide) hraw
    exact ⟨fun h' => ⟨h, h'.unique hfinds⟩, fun ⟨_, hvalue⟩ => hvalue ▸ hfinds⟩
  · rw [if_neg h] at hraw
    refine ⟨fun h' => absurd h' ?_, fun h' => absurd h'.1 h⟩
    exact not_finds_padded 5869 (by decide) (by decide) hraw

/-- NULs are not white space, so the projected error is not stripped. -/
theorem strip_projectedError : Str.strip projectedError = projectedError := by
  refine strip_eq_self (fun c hc => ?_) fun c hc => ?_
  · rw [List.eq_of_mem_replicate (List.mem_of_head? hc)]
    rfl
  · rw [List.eq_of_mem_replicate (List.mem_of_getLast? hc)]
    rfl

/-- The labels that are made for the candidates pass their own check. -/
theorem validatedLabels_labelsOf (hn : n ≠ 0) : validatedLabels (labelsOf n) = .ok () := by
  have hne : labelsOf n ≠ [] := by
    intro hnil
    refine hn ?_
    rw [← length_labelsOf n, hnil]
    rfl
  have hblank : (labelsOf n).any Str.isBlank = false := by
    rw [List.any_eq_false]
    intro label hlabel
    obtain ⟨i, -, rfl⟩ := List.mem_map.1 hlabel
    unfold candidateLabel Str.isBlank
    rw [List.all_append, show candidateLabelPrefix.all Str.isSpace = false by decide]
    exact Bool.false_ne_true
  unfold validatedLabels
  rw [if_neg hne, hblank, if_neg Bool.false_ne_true, if_pos (labelsOf_nodup n)]

/-- **The projected ballot** can be repaired. -/
theorem repairable_projected (hn : n ≠ 0) (h : 2 ≤ rt.recursionLimit) :
    Repairable rt projectedResponse projectedError (labelsOf n) repairFields
      projectedDecision where
  valid := validatedLabels_labelsOf hn
  response_le := by
    rw [strip_projectedResponse]
    unfold projectedResponse
    rw [List.length_append, List.length_replicate, length_repairObject]
    decide
  complains := rfl
  error_le := by
    rw [strip_projectedError]
    exact (List.length_replicate ..).le
  finds := by
    rw [strip_projectedResponse]
    exact finds_projectedResponse.2 ⟨h, rfl⟩
  keys := by decide
  decides := rfl

/-! ### What the stages show -/

/-- The text between the markers of a projected prompt. -/
def stagePayload (n : ℕ) (question : Str) : Stage → Str
  | .proposal => payload (.obj [(lit "question", .str question)])
  | .jury => evaluationPayload question (projectedArtifacts n)
  | .juryRepair =>
    payload (repairRecord (labelsOf n) projectedDecision projectedError projectedResponse)
  | .synthesis => councilPayload question (projectedArtifacts n)
      ((projectedAggregate n).toDict protocolId protocolVersion) (projectedJuries n)

/-- No drawn marker occurs in the text it delimits. -/
def Clear (draws : MarkerDraws) (n : ℕ) (question : Str) : Prop :=
  ∀ stage, Str.contains (draws stage).text (stagePayload n question stage) = false

/-- What the stages need besides the printed question. -/
structure Frame where
  proposal : ℕ
  jury : ℕ
  synthesis : ℕ
  juryRepair : Option ℕ

/-- The lengths for a question of this width. -/
def Frame.chars (f : Frame) (width : ℕ) : StageChars :=
  ⟨f.proposal + width, f.jury + width, f.synthesis + width, f.juryRepair⟩

/-- A record that begins with the question is as wide as the question and a number that does not
depend on it. -/
theorem width_question (fs : Dict) : ∃ k, ∀ question : Str,
    Json.width 0 (.obj ((lit "question", .str question) :: fs)) = k + Str.width question := by
  refine ⟨2 * 1 + 4 + Str.width (lit "question") + Json.fieldsWidth 1 fs + 2, fun question => ?_⟩
  have htext : Json.width 1 (.str question) = Str.width question := rfl
  show Json.fieldsWidth 1 _ + 2 * 0 + 2 = _
  rw [Json.fieldsWidth, htext]
  omega

/-- **A projection is returned** when the markers are clear of what they delimit. -/
theorem stagePromptChars_clear {draws : MarkerDraws} (hn : n ≠ 0)
    (hlimit : policy.juryRepairAttempts ≠ 0 → 2 ≤ rt.recursionLimit)
    (hblank : Str.isBlank question = false) (hclear : Clear draws n question) :
    ∃ chars, stagePromptChars rt draws question n policy = .ok chars := by
  have hcheck : checkQuestion question = .ok () := by
    unfold checkQuestion
    rw [hblank]
    rfl
  have hcandidates := checkCandidates_projected (validatedLabels_labelsOf hn)
  have hproposal := checkedMarker_text (hclear .proposal)
  have hjury := checkedMarker_text (hclear .jury)
  have hsynthesis := checkedMarker_text (hclear .synthesis)
  have hrepair := checkedMarker_text (hclear .juryRepair)
  unfold stagePayload at hproposal hjury hsynthesis hrepair
  unfold stagePromptChars proposalPrompts juryPrompts synthesisPrompts
  simp only [bind, Except.bind, hcheck, hcandidates, hproposal, hjury, hsynthesis]
  by_cases hattempts : policy.juryRepairAttempts = 0
  · rw [if_neg (not_not.2 hattempts)]
    exact ⟨_, rfl⟩
  · have hprompts := juryRepairPrompts_iff.2 ⟨⟨_, repairable_projected hn (hlimit hattempts)⟩,
      by rw [strip_projectedError, strip_projectedResponse]; exact hrepair, rfl⟩
    unfold projectedResponse projectedError at hprompts
    rw [if_pos hattempts, hprompts]
    exact ⟨_, rfl⟩

/-- The length of the projected repair prompt. -/
def repairChars (n : ℕ) : ℕ :=
  combinedPromptChars (juryRepairSystemTemplate, juryRepairUser [] []) + 2 * 16 +
    Json.width 0 (repairRecord (labelsOf n) projectedDecision projectedError projectedResponse)

/-- **The repair stage** is projected to the same length for every question. -/
theorem stagePromptChars_repair {draws : MarkerDraws} {chars : StageChars}
    (h : stagePromptChars rt draws question n policy = .ok chars) :
    chars.juryRepair =
      if policy.juryRepairAttempts = 0 then none else some (repairChars n) := by
  unfold stagePromptChars at h
  simp only [bind, Except.bind] at h
  split at h
  · cases h
  split at h
  · cases h
  split at h
  · cases h
  by_cases hattempts : policy.juryRepairAttempts = 0
  · rw [if_neg (not_not.2 hattempts)] at h
    rw [if_pos hattempts, ← Except.ok.inj h]
  · rw [if_pos hattempts] at h
    rw [if_neg hattempts]
    split at h
    · cases h
    rename_i w hprompts
    obtain ⟨prompts, decision⟩ := w
    have hdecision : decision = projectedDecision := by
      obtain ⟨⟨value, hrepairable⟩, -⟩ := juryRepairPrompts_iff.1 hprompts
      have hfinds := hrepairable.finds
      change Finds rt (Str.strip projectedResponse) value at hfinds
      rw [strip_projectedResponse, finds_projectedResponse] at hfinds
      have hdecides := hrepairable.decides
      rw [hfinds.2] at hdecides
      exact (Except.ok.inj hdecides).symm
    have hchars := chars_juryRepairPrompts hprompts
    change combinedPromptChars prompts = _ + _ + Json.width 0 (repairRecord (labelsOf n) decision
      (Str.strip projectedError) (Str.strip projectedResponse)) at hchars
    rw [Marker.length_text, hdecision, strip_projectedError, strip_projectedResponse] at hchars
    rw [← Except.ok.inj h]
    exact congrArg some hchars

/-- **A projection grows with the width of the question.** -/
theorem stagePromptChars_frame (hn : n ≠ 0)
    (hlimit : policy.juryRepairAttempts ≠ 0 → 2 ≤ rt.recursionLimit) :
    ∃ f : Frame, ∀ (draws : MarkerDraws) (question : Str), Str.isBlank question = false →
      Clear draws n question →
      stagePromptChars rt draws question n policy = .ok (f.chars (Str.width question)) := by
  obtain ⟨p, hp⟩ := width_question []
  obtain ⟨j, hj⟩ := width_question [(lit "candidates", .obj (projectedArtifacts n))]
  obtain ⟨s, hs⟩ := width_question (projectedParts n)
  refine ⟨⟨combinedPromptChars (proposalSystemTemplate, proposalUser [] []) + 2 * 16 + p,
    combinedPromptChars (jurySystemTemplate, juryUser [] [] []) + 2 * 16 +
      Json.width 0 (.arr ((labelsOf n).map .str)) + j,
    combinedPromptChars (synthesisSystemTemplate, synthesisUser [] []) + 2 * 16 + s,
    if policy.juryRepairAttempts = 0 then none else some (repairChars n)⟩,
    fun draws question hblank hclear => ?_⟩
  obtain ⟨chars, hchars⟩ := stagePromptChars_clear hn hlimit hblank hclear
  have hparts := stagePromptChars_ok hchars
  have hrepair := stagePromptChars_repair hchars
  have hproposal := hparts.proposal
  have hjury := hparts.jury
  have hsynthesis := hparts.synthesis
  rw [hp] at hproposal
  rw [hj] at hjury
  rw [hs] at hsynthesis
  rw [hchars]
  obtain ⟨cp, cj, cs, cr⟩ := chars
  dsimp only at hproposal hjury hsynthesis hrepair
  rw [hproposal, hjury, hsynthesis, hrepair]
  simp only [Frame.chars, Nat.add_assoc]

/-! ### Markers -/

/-- The marker does not occur in the printed question, nor in what is printed around it. -/
structure Apart (m : Marker) (n : ℕ) (question : Str) : Prop where
  question : Str.contains m.text (Json.dumpsStr question) = false
  record : ∀ stage, Str.contains m.text (stagePayload n [] stage) = false

/-- A marker is made of lower-case hexadecimal digits. -/
theorem notMem_marker (m : Marker) {c : ℕ} (hc : isHexLower c = false) : c ∉ m.text := by
  intro h
  have hhex := List.all_eq_true.1 m.hex_text c h
  rw [hc] at hhex
  cases hhex

/-- A text without the character does not lie across it. -/
theorem infix_of_notMem {c : ℕ} {m u v : Str} (hc : c ∉ m) (h : m <:+: u ++ c :: v) :
    m <:+: u ∨ m <:+: v := by
  rcases List.infix_append_iff.1 h with h | h | ⟨l₁, l₂, rfl, hl₁, hl₂⟩
  · exact .inl h
  · rcases List.infix_cons_iff.1 h with h | h
    · rcases List.prefix_cons_iff.1 h with rfl | ⟨m', rfl, -⟩
      · exact .inl List.nil_infix
      · exact absurd List.mem_cons_self hc
    · exact .inr h
  · rcases List.prefix_cons_iff.1 hl₂ with rfl | ⟨m', rfl, -⟩
    · rw [List.append_nil]
      exact .inl hl₁.isInfix
    · exact absurd (List.mem_append_right _ List.mem_cons_self) hc

/-- The printed question stands between two texts that do not depend on it. -/
theorem payload_question (fs : Dict) : ∃ u v, ∀ question : Str,
    payload (.obj ((lit "question", .str question) :: fs)) = u ++ Json.dumpsStr question ++ v := by
  refine ⟨lit "\x7b" ++ Json.newline 1 ++ Json.dumpsStr (lit "question") ++ lit ": ",
    Json.dumpsIndentFields 1 fs ++ Json.newline 0 ++ lit "\x7d", fun question => ?_⟩
  have htext : Json.dumpsIndent 1 (.str question) = Json.dumpsStr question := rfl
  unfold payload
  rw [Json.dumpsIndent, htext]
  simp only [List.append_assoc]

/-- A marker that neither occurs in the printed question nor in the rest of the record does not
occur in the record, for the seam between them is no hexadecimal digit. -/
theorem contains_payload_question {m : Marker} {fs : Dict}
    (hquestion : Str.contains m.text (Json.dumpsStr question) = false)
    (hrecord : Str.contains m.text (payload (.obj ((lit "question", .str []) :: fs))) = false) :
    Str.contains m.text (payload (.obj ((lit "question", .str question) :: fs))) = false := by
  obtain ⟨u, v, hsplit⟩ := payload_question fs
  have hquote := notMem_marker m (c := 34) rfl
  unfold Str.contains at hquestion hrecord ⊢
  rw [decide_eq_false_iff_not] at hquestion hrecord ⊢
  rw [hsplit] at hrecord ⊢
  intro h
  unfold Json.dumpsStr at h
  rw [List.append_assoc, List.cons_append, List.append_assoc] at h
  rcases infix_of_notMem hquote h with h | h
  · exact hrecord (List.infix_append_of_infix_left (List.infix_append_of_infix_left h))
  rcases infix_of_notMem hquote h with h | h
  · exact hquestion (List.infix_cons (List.infix_append_of_infix_left h))
  · exact hrecord (List.infix_append_of_infix_right h)

/-- **Markers that are apart from the question** are clear of what they delimit. -/
theorem clear_of_apart {draws : MarkerDraws} (h : ∀ stage, Apart (draws stage) n question) :
    Clear draws n question := by
  intro stage
  have hapart := h stage
  cases stage with
  | proposal => exact contains_payload_question hapart.question (hapart.record .proposal)
  | jury => exact contains_payload_question hapart.question (hapart.record .jury)
  | juryRepair => exact hapart.record .juryRepair
  | synthesis => exact contains_payload_question hapart.question (hapart.record .synthesis)

/-- No marker fits into a short text. -/
theorem contains_short (m : Marker) {s : Str} (h : s.length < 16) :
    Str.contains m.text s = false := by
  refine decide_eq_false fun hpart => ?_
  have hle := hpart.length_le
  rw [m.length_text] at hle
  omega

/-- An `x` behind the question makes no new marker, for it is no digit. -/
theorem Apart.append_x {m : Marker} (h : Apart m n question) :
    Apart m n (question ++ lit "x") := by
  refine ⟨decide_eq_false fun hpart => ?_, h.record⟩
  have hquestion := of_decide_eq_false h.question
  have hquote := notMem_marker m (c := 34) rfl
  have hx := notMem_marker m (c := 120) rfl
  have hnil : ¬ m.text <:+: [] := fun hpart => by
    have hle := hpart.length_le
    rw [m.length_text] at hle
    exact absurd hle (by decide)
  have hprinted : Json.dumpsStr (question ++ lit "x") =
      [] ++ 34 :: (question.flatMap Json.escape ++ 120 :: ([] ++ 34 :: [])) := by
    unfold Json.dumpsStr
    rw [List.flatMap_append, List.append_assoc]
    rfl
  rw [hprinted] at hpart
  rcases infix_of_notMem hquote hpart with hpart | hpart
  · exact hnil hpart
  rcases infix_of_notMem hx hpart with hpart | hpart
  · exact hquestion (List.infix_cons (List.infix_append_of_infix_left hpart))
  rcases infix_of_notMem hquote hpart with hpart | hpart
  · exact hnil hpart
  · exact hnil hpart

/-- No marker drawn for the plan occurs in the question, nor in what is printed around it. -/
def PlanDraws.Apart (draws : PlanDraws) (n : ℕ) (question : Str) : Prop :=
  ∀ stage, Workload.Apart (draws.current stage) n question ∧
    Workload.Apart (draws.plainOne stage) n question ∧
    Workload.Apart (draws.plainTwo stage) n question ∧
    Workload.Apart (draws.appended stage) n question

/-! ### Nines -/

/-- A text that shows no nine of control characters and other text. -/
theorem notMem_dumpsStr_padded (k : ℕ) {s : Str} (h : 57 ∉ s.flatMap Json.escape) :
    57 ∉ Json.dumpsStr (List.replicate k 0 ++ s) := by
  have hnuls : 57 ∉ (List.replicate k 0).flatMap Json.escape := by
    intro hmem
    obtain ⟨c, hc, hc'⟩ := List.mem_flatMap.1 hmem
    rw [List.eq_of_mem_replicate hc] at hc'
    exact absurd hc' (by decide)
  simp only [Json.dumpsStr, List.flatMap_append, List.mem_cons, List.mem_append, not_or]
  exact ⟨by decide, ⟨hnuls, h⟩, by decide, List.not_mem_nil⟩

/-- A text without a nine does not contain the marker of the example. -/
theorem contains_nines {s : Str} (h : 57 ∉ s) : Str.contains nines.text s = false :=
  decide_eq_false fun hpart => h (hpart.subset (show 57 ∈ List.replicate 16 57 by decide))

/-- The record of a repair shows no nine when its response shows none. -/
theorem contains_nines_repairRecord (hn : Unshown 57 n) {response : Str}
    (h : 57 ∉ Json.dumpsStr response) :
    Str.contains nines.text (payload (repairRecord (labelsOf n) projectedDecision projectedError
      response)) = false := by
  have herror : 57 ∉ Json.dumpsStr projectedError := by
    have hpadded := notMem_dumpsStr_padded juryRepairErrorMaxChars (s := []) List.not_mem_nil
    rwa [List.append_nil] at hpadded
  refine contains_nines (Json.notMem_dumpsIndent unshown_one.punctuation 0 _ ?_)
  simp only [repairRecord, Json.avoids, Json.fieldsAvoid, Json.dumpsAtom, herror, h, hn.labels]
  decide

/-- A marker of nines is apart from a question without one. -/
theorem apart_nines (hn : Unshown 57 n) (h : 57 ∉ Json.dumpsStr question) :
    Apart nines n question := by
  have hprinted : ∀ {j : Json}, Json.avoids 57 j = true → 57 ∉ payload j := fun h =>
    Json.notMem_dumpsIndent hn.punctuation 0 _ h
  have hempty : 57 ∉ Json.dumpsStr [] := by decide
  refine ⟨contains_nines h, fun stage => ?_⟩
  cases stage with
  | proposal => exact contains_nines (hprinted (avoids_question hn hempty rfl))
  | jury =>
    refine contains_nines (hprinted (avoids_question hn hempty ?_))
    have hparts := hn.parts
    rw [projectedParts, Json.fieldsAvoid, Bool.and_eq_true] at hparts
    rw [Json.fieldsAvoid, hparts.1]
    rfl
  | synthesis => exact contains_nines (hprinted (avoids_question hn hempty hn.parts))
  | juryRepair =>
    refine contains_nines_repairRecord hn ?_
    rw [projectedResponse_eq]
    exact notMem_dumpsStr_padded _ (by decide)

/-- Drawn markers of nines are apart from a question without one. -/
theorem apart_ninesDraws (hn : Unshown 57 n) (h : 57 ∉ Json.dumpsStr question) :
    ninesDraws.Apart n question := fun _ =>
  ⟨apart_nines hn h, apart_nines hn h, apart_nines hn h, apart_nines hn h⟩

/-! ### Capacity -/

/-- A question of this length and width is within limits. -/
structure Frame.Fits (f : Frame) (policy : RunPolicy) (length width : ℤ) : Prop where
  question : length ≤ policy.maxQuestionChars
  proposal : f.proposal + width ≤ policy.maxStagePromptChars
  jury : f.jury + width ≤ policy.maxStagePromptChars
  synthesis : f.synthesis + width ≤ policy.maxStagePromptChars
  juryRepair : ∀ chars ∈ f.juryRepair, (chars : ℤ) ≤ policy.maxStagePromptChars

/-- A question fits when it is short enough itself and its width leaves room in each of the three
prompts; the repair prompt has to fit without it. -/
theorem Frame.fits_iff {f : Frame} {length width : ℤ} : f.Fits policy length width ↔
    length ≤ policy.maxQuestionChars ∧ f.proposal + width ≤ policy.maxStagePromptChars ∧
      f.jury + width ≤ policy.maxStagePromptChars ∧
      f.synthesis + width ≤ policy.maxStagePromptChars ∧
      ∀ chars ∈ f.juryRepair, (chars : ℤ) ≤ policy.maxStagePromptChars :=
  ⟨fun ⟨h₁, h₂, h₃, h₄, h₅⟩ => ⟨h₁, h₂, h₃, h₄, h₅⟩,
    fun ⟨h₁, h₂, h₃, h₄, h₅⟩ => ⟨h₁, h₂, h₃, h₄, h₅⟩⟩

/-- The growth that is found: one in the stages that show the question. -/
theorem growthOf_frame (f : Frame) (w : ℕ) :
    growthOf (f.chars 3) (f.chars 4) (f.chars w) (f.chars (w + 1)) =
      some ([(.proposal, 1), (.jury, 1), (.synthesis, 1)] ++
        (f.juryRepair.map fun _ => (Stage.juryRepair, (0 : ℤ))).toList) := by
  obtain ⟨p, j, s, r⟩ := f
  cases r with
  | none => simp [growthOf, Frame.chars, StageChars.toList]
  | some r => simp [growthOf, Frame.chars, StageChars.toList]

/-- What `_plain_question_capacity` returns: the longest plain question that fits, and the
plain text that still fits behind the question. -/
structure Frame.Capacity (f : Frame) (policy : RunPolicy) (length width maximum headroom : ℤ) :
    Prop where
  maximum : ∀ l : ℤ, 1 ≤ l → (l ≤ maximum ↔ f.Fits policy l (l + 2))
  headroom : f.Fits policy length width →
    ∀ l : ℤ, 0 ≤ l → (l ≤ headroom ↔ f.Fits policy (length + l) (width + l))

/-- **The capacity is exact**, whatever the stages need. -/
theorem plainQuestionCapacity_frame {draws : PlanDraws} {f : Frame}
    (hframe : ∀ (draws : MarkerDraws) (question : Str), Str.isBlank question = false →
      Clear draws n question →
      stagePromptChars rt draws question n policy = .ok (f.chars (Str.width question)))
    (hblank : Str.isBlank question = false) (hapart : draws.Apart n question) :
    ∃ maximum headroom limiting,
      plainQuestionCapacity rt draws question n policy (f.chars (Str.width question)) =
        .ok ⟨some maximum, some headroom, limiting⟩ ∧
      f.Capacity policy question.length (Str.width question) maximum headroom := by
  have hshort : ∀ {m : Marker} {s : Str}, (Json.dumpsStr s).length < 16 → Apart m n question →
      Apart m n s := fun hs h => ⟨contains_short _ hs, h.record⟩
  have hone := hframe draws.plainOne (lit "x") rfl
    (clear_of_apart fun stage => hshort (by decide) (hapart stage).2.1)
  have htwo := hframe draws.plainTwo (lit "xx") rfl
    (clear_of_apart fun stage => hshort (by decide) (hapart stage).2.2.1)
  have hblank' : Str.isBlank (question ++ lit "x") = false := by
    unfold Str.isBlank at hblank ⊢
    rw [List.all_append, hblank, Bool.false_and]
  have happended := hframe draws.appended (question ++ lit "x") hblank'
    (clear_of_apart fun stage => (hapart stage).2.2.2.append_x)
  have hplain : Plain (lit "x") := by
    unfold Plain
    decide
  rw [width_append_plain _ hplain] at happended
  have hgrowth := growthOf_frame f (Str.width question)
  unfold plainQuestionCapacity
  simp only [bind, Except.bind, hone, htwo, happended]
  have hwidth : Str.width (lit "x") = 3 ∧ Str.width (lit "xx") = 4 ∧ (lit "x").length = 1 := by
    decide
  rw [hwidth.1, hwidth.2.1, hwidth.2.2, hgrowth]
  refine ⟨_, _, _, rfl, fun l hl => ?_, fun hfits l hl => ?_⟩
  · rw [Frame.fits_iff]
    obtain ⟨p, j, s, r⟩ := f
    cases r with
    | none =>
      simp [Frame.chars, StageChars.toList, stageCapacity]
      omega
    | some r =>
      simp [Frame.chars, StageChars.toList, stageCapacity]
      split
      · simp
        omega
      · simp
        omega
  · rw [Frame.fits_iff] at hfits ⊢
    obtain ⟨p, j, s, r⟩ := f
    cases r with
    | none =>
      simp [Frame.chars, StageChars.toList] at hfits ⊢
      omega
    | some r =>
      simp [Frame.chars, StageChars.toList] at hfits ⊢
      omega

end Workload

open Protocol Workload

variable {rt : Runtime}

/-- **An engine that may repair can create a run** of a question whose prompts fit, when the
projected repair fits as well. -/
theorem createRun_apart (eng : CouncilEngine) {draws : PlanDraws} {question runId : Str}
    (hapart : draws.Apart eng.names.length question)
    (hlimit : eng.policy.juryRepairAttempts ≠ 0 → 2 ≤ rt.recursionLimit)
    (hclean : Str.strip question = question) (hblank : Str.isBlank question = false)
    (hencodable : Str.encodable question = true)
    (hlength : (question.length : ℤ) ≤ eng.policy.maxQuestionChars)
    (hfits : ∀ chars, ProjectedChars question eng.names.length chars →
      (chars.proposal : ℤ) ≤ eng.policy.maxStagePromptChars ∧
        (chars.jury : ℤ) ≤ eng.policy.maxStagePromptChars ∧
        (chars.synthesis : ℤ) ≤ eng.policy.maxStagePromptChars)
    (hrepair : (repairChars eng.names.length : ℤ) ≤ eng.policy.maxStagePromptChars)
    (hcredentials : Json.assertNoCredentials rt (lit "$.provider_configs")
      (.arr (eng.providers.map fun c => .obj c.toDict)) = .ok ())
    (hid : Str.isBlank runId = false) :
    createRun rt eng draws question runId =
      .ok { run := { spec := ⟨runId, question, rt.protocolHash, eng.toRunConfig⟩ } } := by
  have hn : eng.names.length ≠ 0 := by
    simpa [RunConfig.names] using eng.accepted.providers_ne_nil
  obtain ⟨f, hframe⟩ : ∃ f : Frame, ∀ (draws : MarkerDraws) (question : Str),
      Str.isBlank question = false → Clear draws eng.names.length question →
      stagePromptChars rt draws question eng.names.length eng.policy =
        .ok (f.chars (Str.width question)) := stagePromptChars_frame hn hlimit
  obtain ⟨maximum, headroom, limiting, hcapacity, -⟩ :=
    plainQuestionCapacity_frame hframe hblank hapart
  have hchars := hframe draws.current question hblank
    (clear_of_apart fun stage => (hapart stage).1)
  have hrepaired := stagePromptChars_repair hchars
  obtain ⟨hproposal, hjury, hsynthesis⟩ := hfits _ (stagePromptChars_ok hchars)
  have hne : question ≠ [] := by
    rintro rfl
    cases hblank
  have hexceeded : ((f.chars (Str.width question)).toList.filter fun e =>
      decide (eng.policy.maxStagePromptChars < (e.2 : ℤ))) = [] := by
    unfold StageChars.toList
    rw [hrepaired]
    have hle : ∀ k : ℕ, (k : ℤ) ≤ eng.policy.maxStagePromptChars →
        ¬ decide (eng.policy.maxStagePromptChars < (k : ℤ)) = true := by
      intro k hk
      rw [decide_eq_true_eq]
      exact not_lt.2 hk
    refine List.filter_eq_nil_iff.2 fun e he => ?_
    by_cases hattempts : eng.policy.juryRepairAttempts = 0
    · simp only [hattempts, if_true, Option.map_none, Option.toList_none, List.append_nil,
        List.mem_cons, List.not_mem_nil, or_false] at he
      rcases he with rfl | rfl | rfl
      · exact hle _ hproposal
      · exact hle _ hjury
      · exact hle _ hsynthesis
    · simp only [hattempts, if_false, Option.map_some, Option.toList_some, List.mem_append,
        List.mem_cons, List.not_mem_nil, or_false] at he
      rcases he with (rfl | rfl | rfl) | rfl
      · exact hle _ hproposal
      · exact hle _ hjury
      · exact hle _ hsynthesis
      · exact hle _ hrepair
  have hrequired : Store.requiredText (lit "run_id") runId = .ok () := by
    unfold Store.requiredText
    rw [hid]
    rfl
  unfold createRun estimateWorkload requireWorkloadWithinLimits
  simp only [bind, Except.bind, hclean, hne, if_false, hchars, hcapacity, hencodable,
    hexceeded, List.map_nil, hcredentials, hrequired, Bool.true_eq_false, not_lt.2 hlength,
    if_true, decide_false, Bool.false_eq_true]

end CouncilLogic
