/-
# What the prompt builders return

A prompt is a fixed template around the run's marker, twice, and the payload; its length
is the sum of the parts.  A marker with a character that the payload does not have is
accepted.

The templates are long closed texts; here their length is never computed, only compared with that
of the same template around nothing.  `src/model_council/workload.py` adds up such lengths for a
whole run before it starts, and `CouncilLogic.Guarantees.Capacity` shows that the sum is exact.
-/

import CouncilLogic.Json.Width
import CouncilLogic.Protocol.Prompts

namespace CouncilLogic
namespace Protocol

variable {question marker text : Str} {candidates aggregate : Dict} {juries : List Dict}
  {prompts : PromptPair}

/-! ### Markers -/

/-- A drawn marker has the form that is asked for. -/
theorem markerMatches_text (m : Marker) : markerMatches m.text = true := by
  have hlast : ¬ m.text.getLast? = some 10 := by
    intro h
    have hhex := List.all_eq_true.1 m.hex_text 10 (List.mem_of_getLast? h)
    exact absurd hhex (by decide)
  unfold markerMatches
  simp only [if_neg hlast, m.length_text, m.hex_text]
  rfl

/-- A marker that the payload does not contain is accepted. -/
theorem checkedMarker_text {m : Marker} (h : Str.contains m.text text = false) :
    checkedMarker m.text text = .ok m.text := by
  unfold checkedMarker
  rw [markerMatches_text, h]
  rfl

/-- A marker passes when the value does not show one of its characters. -/
theorem checkedMarker_payload {m : Marker} {value : Json} {c : ℕ} (hc : c ∉ Json.punctuation)
    (hm : c ∈ m.text) (hv : value.avoids c = true) :
    checkedMarker m.text (payload value) = .ok m.text := by
  refine checkedMarker_text (decide_eq_false fun hpart => ?_)
  exact Json.notMem_dumpsIndent hc 0 value hv (hpart.subset hm)

/-- An accepted marker is the one that was given, and is not in the payload. -/
theorem checkedMarker_ok {m : Str} (h : checkedMarker marker text = .ok m) :
    m = marker ∧ Str.contains marker text = false := by
  unfold checkedMarker at h
  split at h
  · cases h
  split at h
  · cases h
  rename_i hcontains
  cases h
  exact ⟨rfl, by simpa using hcontains⟩

/-! ### The prompts -/

/-- The prompts of a proposal: the template and the question, as JSON between the markers. -/
theorem proposalPrompts_ok (h : proposalPrompts question marker = .ok prompts) :
    prompts = (proposalSystemTemplate,
      proposalUser marker (payload (.obj [(lit "question", .str question)]))) := by
  unfold proposalPrompts at h
  simp only [bind, Except.bind] at h
  split at h
  · cases h
  split at h
  · cases h
  rename_i m hm
  obtain ⟨rfl, -⟩ := checkedMarker_ok hm
  exact (Except.ok.inj h).symm

/-- The prompts of a juror: the template, the labels and the record of the candidates. -/
theorem juryPrompts_ok (h : juryPrompts question candidates marker = .ok prompts) :
    prompts = (jurySystemTemplate, juryUser marker
      (payload (.arr (candidates.keys.map .str))) (evaluationPayload question candidates)) := by
  unfold juryPrompts at h
  simp only [bind, Except.bind] at h
  split at h
  · cases h
  split at h
  · cases h
  split at h
  · cases h
  rename_i m hm
  obtain ⟨rfl, -⟩ := checkedMarker_ok hm
  exact (Except.ok.inj h).symm

/-- The prompts of a synthesis: the template and the record of the council. -/
theorem synthesisPrompts_ok
    (h : synthesisPrompts question candidates aggregate juries marker = .ok prompts) :
    prompts = (synthesisSystemTemplate,
      synthesisUser marker (councilPayload question candidates aggregate juries)) := by
  unfold synthesisPrompts at h
  simp only [bind, Except.bind] at h
  split at h
  · cases h
  split at h
  · cases h
  split at h
  · cases h
  rename_i m hm
  obtain ⟨rfl, -⟩ := checkedMarker_ok hm
  exact (Except.ok.inj h).symm

/-! ### Lengths -/

/-- The length of a proposal prompt around its marker and its payload. -/
theorem length_proposalUser (marker text : Str) :
    (proposalUser marker text).length =
      (proposalUser [] []).length + 2 * marker.length + text.length := by
  simp only [proposalUser, List.length_append, List.length_nil]
  omega

/-- The length of a juror's prompt around its marker, its labels and its payload. -/
theorem length_juryUser (marker labels text : Str) :
    (juryUser marker labels text).length =
      (juryUser [] [] []).length + 2 * marker.length + labels.length + text.length := by
  simp only [juryUser, List.length_append, List.length_nil]
  omega

/-- The length of a synthesis prompt around its marker and its payload. -/
theorem length_synthesisUser (marker text : Str) :
    (synthesisUser marker text).length =
      (synthesisUser [] []).length + 2 * marker.length + text.length := by
  simp only [synthesisUser, List.length_append, List.length_nil]
  omega

/-- The length of a combined prompt grows with the user's part, one character for each. -/
theorem combinedPromptChars_eq (system user : Str) :
    combinedPromptChars (system, user) = combinedPromptChars (system, []) + user.length := by
  simp only [combinedPromptChars, combinedPrompt, List.length_append, List.length_nil]
  omega

/-- A payload is as long as the width of its value. -/
theorem length_payload (value : Json) : (payload value).length = Json.width 0 value :=
  Json.length_dumpsIndent 0 value

/-- **The length of a proposal prompt.** -/
theorem chars_proposalPrompts (h : proposalPrompts question marker = .ok prompts) :
    combinedPromptChars prompts =
      combinedPromptChars (proposalSystemTemplate, proposalUser [] []) + 2 * marker.length +
        Json.width 0 (.obj [(lit "question", .str question)]) := by
  rw [proposalPrompts_ok h, combinedPromptChars_eq, combinedPromptChars_eq _ (proposalUser [] []),
    length_proposalUser, length_payload]
  omega

/-- **The length of a jury prompt.** -/
theorem chars_juryPrompts (h : juryPrompts question candidates marker = .ok prompts) :
    combinedPromptChars prompts =
      combinedPromptChars (jurySystemTemplate, juryUser [] [] []) + 2 * marker.length +
        Json.width 0 (.arr (candidates.keys.map .str)) +
        Json.width 0 (.obj [(lit "question", .str question),
          (lit "candidates", .obj candidates)]) := by
  rw [juryPrompts_ok h, combinedPromptChars_eq, combinedPromptChars_eq _ (juryUser [] [] []),
    length_juryUser, length_payload, evaluationPayload, length_payload]
  omega

/-- **The length of a synthesis prompt.** -/
theorem chars_synthesisPrompts
    (h : synthesisPrompts question candidates aggregate juries marker = .ok prompts) :
    combinedPromptChars prompts =
      combinedPromptChars (synthesisSystemTemplate, synthesisUser [] []) + 2 * marker.length +
        Json.width 0 (.obj
          [(lit "question", .str question), (lit "candidates", .obj candidates),
            (lit "aggregate", .obj aggregate),
            (lit "jury_votes", .arr (juries.map compactJury))]) := by
  rw [synthesisPrompts_ok h, combinedPromptChars_eq, combinedPromptChars_eq _ (synthesisUser [] []),
    length_synthesisUser, councilPayload, length_payload]
  omega

/-- A combined prompt is never blank. -/
theorem combinedPrompt_not_blank (prompts : PromptPair) :
    Str.isBlank (combinedPrompt prompts) = false := by
  unfold combinedPrompt Str.isBlank
  rw [List.all_append, List.all_append, List.all_append]
  have hhead : (lit "[SYSTEM]\n").all Str.isSpace = false := by decide
  rw [hhead]
  rfl

end Protocol
end CouncilLogic
