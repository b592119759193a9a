/-
# Which ballots can be repaired

`jury_repair_prompts` accepts a response from which one object can be taken that has the
keys of a ballot and a valid decision; its free-text fields may hold anything
(`juryRepairPrompts_iff`).  The prompt shows the response and the error as JSON strings, so
its length is that of a template, the marker twice, and the printed record.

A repair is a second call of a juror whose ballot could not be parsed:
`src/model_council/engine.py` asks for the same decision with the free text made valid.  So a
response is only worth a repair when its decision can be read; everything else of the ballot may
be missing, of another type or too long.
-/

import CouncilLogic.Protocol.Fences
import CouncilLogic.Protocol.PromptLaws

namespace CouncilLogic
namespace Protocol

open Decode

variable {rt : Runtime} {response error marker : Str} {labels : List Str} {value : Dict}
  {decision : JuryDecision} {prompts : PromptPair}

/-- The record that a repair prompt shows. -/
def repairRecord (labels : List Str) (decision : JuryDecision) (error response : Str) : Json :=
  .obj [(lit "allowed_candidate_labels", .arr (labels.map .str)),
    (lit "immutable_decision", .obj decision.toDict),
    (lit "validation_error", .str error),
    (lit "original_response", .str response)]

/-- The response holds a ballot with this decision that can be repaired. -/
structure Repairable (rt : Runtime) (response error : Str) (labels : List Str) (value : Dict)
    (decision : JuryDecision) : Prop where
  valid : validatedLabels labels = .ok ()
  response_le : (Str.strip response).length ≤ juryRepairInputMaxChars
  complains : Str.isBlank error = false
  error_le : (Str.strip error).length ≤ juryRepairErrorMaxChars
  finds : Finds rt (Str.strip response) value
  keys : checkKeys juryKeys value = .ok ()
  decides : validateJuryDecision value labels = .ok decision

/-- **Repair prompts** are returned for the ballots that can be repaired, when the marker
does not occur in the record. -/
theorem juryRepairPrompts_iff :
    juryRepairPrompts rt response error labels marker = .ok (prompts, decision) ↔
      (∃ value, Repairable rt response error labels value decision) ∧
        checkedMarker marker (payload (repairRecord labels decision (Str.strip error)
          (Str.strip response))) = .ok marker ∧
        prompts = (juryRepairSystemTemplate, juryRepairUser marker (payload
          (repairRecord labels decision (Str.strip error) (Str.strip response)))) := by
  unfold juryRepairPrompts
  constructor
  · intro h
    simp only [bind, Except.bind] at h
    split at h
    · cases h
    rename_i hlabels
    split at h
    · cases h
    split at h
    · cases h
    rename_i hresponse
    split at h
    · cases h
    rename_i hcomplains
    split at h
    · cases h
    rename_i herror
    split at h
    · cases h
    rename_i value hvalue
    split at h
    · cases h
    rename_i hkeys
    split at h
    · cases h
    rename_i d hdecides
    split at h
    · cases h
    rename_i m hm
    simp only [Except.ok.injEq, Prod.mk.injEq] at h
    obtain ⟨rfl, rfl⟩ := h
    obtain ⟨rfl, -⟩ := checkedMarker_ok hm
    exact ⟨⟨value, hlabels, not_lt.1 hresponse, Bool.not_eq_true _ ▸ hcomplains, not_lt.1 herror,
      extractJsonObject_iff.1 hvalue, hkeys, hdecides⟩, hm, rfl⟩
  · rintro ⟨⟨value, h⟩, hmarker, rfl⟩
    have hblank : Str.isBlank response = false := by
      rw [← Bool.not_eq_true]
      intro hblank
      have hfinds := h.finds
      rw [Str.isBlank_iff.1 hblank] at hfinds
      have hvalue : extractJsonObject rt [] [] = .ok value := extractJsonObject_iff.2 hfinds
      have hnone : extractJsonObject rt [] [] =
          .error (.valueError ([] ++ lit " must be non-empty text")) := rfl
      rw [hnone] at hvalue
      cases hvalue
    have hvalue : extractJsonObject rt (lit "jury response for repair") (Str.strip response) =
        .ok value := extractJsonObject_iff.2 h.finds
    unfold repairRecord at hmarker
    simp only [bind, Except.bind, h.valid, hblank, not_lt.2 h.response_le, h.complains,
      not_lt.2 h.error_le, hvalue, h.keys, if_false, Bool.false_eq_true]
    rw [h.decides]
    dsimp only
    rw [hmarker]
    rfl

/-! ### Lengths -/

/-- The length of a repair prompt around its marker and its payload. -/
theorem length_juryRepairUser (marker text : Str) :
    (juryRepairUser marker text).length =
      (juryRepairUser [] []).length + 2 * marker.length + text.length := by
  simp only [juryRepairUser, List.length_append, List.length_nil]
  omega

/-- **The length of a repair prompt.** -/
theorem chars_juryRepairPrompts
    (h : juryRepairPrompts rt response error labels marker = .ok (prompts, decision)) :
    combinedPromptChars prompts =
      combinedPromptChars (juryRepairSystemTemplate, juryRepairUser [] []) +
        2 * marker.length +
        Json.width 0 (repairRecord labels decision (Str.strip error) (Str.strip response)) := by
  obtain ⟨-, -, rfl⟩ := juryRepairPrompts_iff.1 h
  rw [combinedPromptChars_eq, combinedPromptChars_eq _ (juryRepairUser [] []),
    length_juryRepairUser, length_payload]
  omega

/-- The labels, the decision, the error and the response count each for themselves. -/
theorem width_repairRecord (labels : List Str) (decision : JuryDecision)
    (error response : Str) :
    Json.width 0 (repairRecord labels decision error response) =
      109 + Json.width 1 (.arr (labels.map .str)) + Json.width 1 (.obj decision.toDict) +
        Str.width error + Str.width response := by
  have hlabels : Str.width (lit "allowed_candidate_labels") = 26 := by decide
  have hdecision : Str.width (lit "immutable_decision") = 20 := by decide
  have herror : Str.width (lit "validation_error") = 18 := by decide
  have hresponse : Str.width (lit "original_response") = 19 := by decide
  have htext : ∀ s : Str, Json.width 1 (.str s) = Str.width s := fun _ => rfl
  show Json.fieldsWidth 1 _ + 2 * 0 + 2 = _
  simp only [Json.fieldsWidth, hlabels, hdecision, herror, hresponse, htext]
  omega

/-! ### Objects behind padding -/

/-- A text without a backquote has no fenced block. -/
theorem fencedBlocks_of_notMem {s : Str} (h : 96 ∉ s) (fuel : ℕ) : fencedBlocks fuel s = [] := by
  cases fuel with
  | zero => rfl
  | succ fuel =>
    have hsplit : splitFence s = none := by
      cases hs : splitFence s with
      | none => rfl
      | some w =>
        obtain ⟨u, v⟩ := w
        refine absurd ?_ h
        rw [splitFence_sound hs]
        simp [fence]
    rw [fencedBlocks, hsplit]

/-- Padding in front of an object is stripped by no one. -/
theorem strip_padded {s : Str} (k : ℕ) (hlast : s.getLast? = some 125) :
    Str.strip (List.replicate (k + 1) 0 ++ s) = List.replicate (k + 1) 0 ++ s := by
  refine strip_eq_self (fun c hc => ?_) fun c hc => ?_
  · cases hc
    rfl
  · rw [List.getLast?_append, hlast] at hc
    cases hc
    rfl

/-- NUL characters before a text make it no JSON, so that the search goes on. -/
theorem searches_padded (s : Str) (k : ℕ) : Searches rt (List.replicate (k + 1) 0 ++ s) := by
  have hlstrip : Str.lstrip (List.replicate (k + 1) 0 ++ s) =
      0 :: (List.replicate k 0 ++ s) := rfl
  refine .inl ?_
  unfold decodeCompleteJson
  rw [hlstrip]
  rfl

/-- The objects of a padded text without a fence are sought from its first brace on. -/
theorem candidates_padded (rt : Runtime) {rest : Str} (k : ℕ) (hfence : 96 ∉ rest) :
    ∃ fuel, candidates rt (List.replicate (k + 1) 0 ++ 123 :: rest) =
      match rawDecode rt (123 :: rest) with
      | .error .recursion => .error .recursion
      | .error .value => braceObjects rt fuel rest
      | .ok (.obj d, after) => do
        let ds ← braceObjects rt fuel after
        .ok (d :: ds)
      | .ok (_, after) => braceObjects rt fuel after := by
  have hpad : (List.replicate (k + 1) 0 ++ 123 :: rest).dropWhile (· != 123) = 123 :: rest := by
    rw [List.dropWhile_append_of_pos]
    · rfl
    · intro c hc
      rw [List.eq_of_mem_replicate hc]
      rfl
  have hblocks : 96 ∉ List.replicate (k + 1) 0 ++ 123 :: rest := by
    rw [List.mem_append, List.mem_cons, not_or, not_or]
    exact ⟨fun h => absurd (List.eq_of_mem_replicate h) (by decide), by decide, hfence⟩
  unfold candidates
  rw [fencedBlocks_of_notMem hblocks]
  simp only [fencedObjects, if_true]
  rw [braceObjects, hpad]
  exact ⟨_, rfl⟩

/-- **An object behind padding** is found. -/
theorem finds_padded {rest : Str} (k : ℕ) (hlast : (123 :: rest).getLast? = some 125)
    (hfence : 96 ∉ rest) (hraw : rawDecode rt (123 :: rest) = .ok (.obj value, [])) :
    Finds rt (List.replicate (k + 1) 0 ++ 123 :: rest) value := by
  obtain ⟨fuel, hcandidates⟩ := candidates_padded rt k hfence
  rw [hraw] at hcandidates
  have hnone : braceObjects rt fuel [] = .ok [] := by
    cases fuel <;> rfl
  simp only [hnone] at hcandidates
  refine @Finds.sole _ _ [value] _ ?_ ?_ ⟨rfl, fun d hd => by rw [List.mem_singleton.1 hd]⟩
  · rw [strip_padded k hlast]
    exact searches_padded _ k
  · rw [strip_padded k hlast]
    exact hcandidates

/-- Nothing is found when the object is nested too deep. -/
theorem not_finds_padded {rest : Str} (k : ℕ) (hlast : (123 :: rest).getLast? = some 125)
    (hfence : 96 ∉ rest) (hraw : rawDecode rt (123 :: rest) = .error .recursion) :
    ¬ Finds rt (List.replicate (k + 1) 0 ++ 123 :: rest) value := by
  obtain ⟨fuel, hcandidates⟩ := candidates_padded rt k hfence
  rw [hraw] at hcandidates
  refine Exhausts.not_finds (.inr ?_)
  rw [strip_padded k hlast]
  exact ⟨searches_padded _ k, hcandidates⟩

end Protocol
end CouncilLogic
