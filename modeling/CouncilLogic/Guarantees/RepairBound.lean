/-
# How long a repair prompt gets

The projection of the repair stage pads the ballot it takes for the smallest useful one with
control characters, for "a true upper bound".  It is not the smallest: a ballot is repaired
when its keys and its decision are right, so its rationale and its lists may be numbers,
which are shorter than an empty text and an empty list.  An abstention of this kind among
enough control characters makes a prompt that is longer than projected.

The bound holds exactly when the ballot is no abstention, or the response and the error
leave as much room as the projected ballot does.  They do when the rationale is a text and
the lists are arrays, and otherwise up to thirteen characters.

The projection is `_stage_prompt_chars` of `src/model_council/workload.py`, and what is accepted
for a repair is decided by `jury_repair_prompts` of `src/model_council/protocol.py`.
-/

import CouncilLogic.Engine.Projection
import CouncilLogic.Protocol.Spare

namespace CouncilLogic
namespace Protocol

open Decode Workload

variable {rt : Runtime} {policy : RunPolicy} {question response error : Str} {n : ℕ}
  {value : Dict} {decision : JuryDecision} {prompts : PromptPair}

/-! ### What a ballot spares -/

/-- The text around an object spares no less. -/
theorem spare_le_of_finds {text : Str} (h : Finds rt text value) :
    Json.spare (.obj value) ≤ Str.spare text ∧ (Dict.keys value).Nodup := by
  obtain ⟨p, hp, rfl⟩ := finds_iff_taken.1 h
  have hplace : p.Decoded rt ∧ p.start <:+ Str.strip text := by
    cases hp with
    | whole hstart hdecoded _ => exact ⟨hdecoded, hstart ▸ List.suffix_rfl⟩
    | sought _ _ hps halone => exact hps.decoded p (List.mem_of_getLast? halone.1)
  obtain ⟨hreads, hdistinct, -⟩ := rawDecode_iff.1 hplace.1
  have hspare := hreads.spare_le
  have hstart := Str.spare_suffix hplace.2
  have hstrip := Str.spare_sublist (Str.strip_sublist text)
  rw [distinct, Bool.and_eq_true] at hdistinct
  exact ⟨by omega, of_decide_eq_true hdistinct.1⟩

/-- A ballot has the fields it is asked for, in some order. -/
theorem ballot_perm (hnd : (Dict.keys value).Nodup) (hkeys : checkKeys juryKeys value = .ok ()) :
    value.Perm (juryKeys.map fun key => (key, field value key)) := by
  obtain ⟨hall, honly⟩ := checkKeys_ok hkeys
  refine (List.perm_ext_iff_of_nodup hnd.of_map ?_).2 fun f => ?_
  · exact List.Nodup.map (fun a b h => (Prod.mk.inj h).1) (by decide)
  · obtain ⟨key, j⟩ := f
    rw [← Dict.get?_eq_some hnd, List.mem_map]
    constructor
    · intro h
      have hkey : key ∈ Dict.keys value :=
        List.mem_map_of_mem ((Dict.get?_eq_some hnd).1 h)
      refine ⟨key, honly hkey, ?_⟩
      unfold field
      rw [h]
      rfl
    · rintro ⟨key', hkey', heq⟩
      obtain ⟨rfl, rfl⟩ := Prod.mk.inj heq
      cases hget : Dict.get? value key' with
      | none => exact absurd (hall hkey') (Dict.get?_eq_none.1 hget)
      | some j =>
        unfold field
        rw [hget]
        rfl

/-- **What a ballot spares**, field by field. -/
theorem spare_ballot (hnd : (Dict.keys value).Nodup)
    (hkeys : checkKeys juryKeys value = .ok ()) :
    Json.spare (.obj value) =
      531 + (juryKeys.map fun key => Json.spare (field value key)).sum := by
  have hperm := ballot_perm hnd hkeys
  have hobj : Json.spare (.obj value) = 5 + Json.fieldsSpare value := by
    cases value with
    | nil => exact absurd hperm.symm.eq_nil (by decide)
    | cons f fs => rfl
  rw [hobj, Json.fieldsSpare_eq_sum,
    (hperm.map fun f => 18 + 5 * f.1.length + Json.spare f.2).sum_eq]
  have hlengths : [(lit "winner").length, (lit "ranking").length, (lit "confidence").length,
      (lit "abstain").length, (lit "rationale").length, (lit "material_disagreements").length,
      (lit "verification_needed").length] = [6, 7, 10, 7, 9, 22, 19] := by decide
  simp only [List.cons.injEq, and_true] at hlengths
  obtain ⟨h₁, h₂, h₃, h₄, h₅, h₆, h₇⟩ := hlengths
  simp only [juryKeys, List.map_cons, List.map_nil, List.sum_cons, List.sum_nil, h₁, h₂, h₃, h₄,
    h₅, h₆, h₇]
  omega

/-! ### What a decision takes -/

/-- The width of a decision in the record, field by field. -/
theorem width_decision (d : JuryDecision) :
    Json.width 1 (.obj d.toDict) = 74 + Json.width 2 ((d.winner.map Json.str).getD .null) +
      Json.width 2 (.arr (d.ranking.map .str)) + Str.width d.confidence.name +
      Json.width 2 (.bool d.abstain) := by
  have hwinner : Str.width (lit "winner") = 8 := by decide
  have hranking : Str.width (lit "ranking") = 9 := by decide
  have hconfidence : Str.width (lit "confidence") = 12 := by decide
  have habstain : Str.width (lit "abstain") = 9 := by decide
  have htext : ∀ s : Str, Json.width 2 (.str s) = Str.width s := fun _ => rfl
  show Json.fieldsWidth 2 _ + 2 * 1 + 2 = _
  simp only [Json.fieldsWidth, hwinner, hranking, hconfidence, habstain, htext]
  omega

/-- The name of a confidence is as wide as it is long, with two quotes. -/
theorem width_confidence (c : Confidence) : Str.width c.name = c.name.length + 2 := by
  cases c <;> decide

/-- A label is plain, and has ten characters at least. -/
theorem plain_labelsOf {label : Str} (h : label ∈ labelsOf n) :
    Plain label ∧ 10 ≤ label.length := by
  obtain ⟨i, -, rfl⟩ := List.mem_map.1 h
  have hdigits : ∀ m : ℕ, (Str.ofNat m).all isPlain = true := by
    intro m
    unfold Str.ofNat
    split
    · rfl
    · rw [List.all_map, List.all_reverse, List.all_eq_true]
      intro d hd
      have hlt := Nat.digits_lt_base (by decide : 1 < 10) hd
      simp only [Function.comp_apply, isPlain, Bool.and_eq_true, decide_eq_true_eq, bne_iff_ne]
      omega
  have hnumber : (Str.ofNat02 (i + 1)).all isPlain = true := by
    unfold Str.ofNat02
    split
    · rw [List.all_cons, hdigits]
      rfl
    · exact hdigits _
  unfold candidateLabel
  refine ⟨?_, ?_⟩
  · unfold Plain
    rw [List.all_append, hnumber]
    rfl
  · rw [List.length_append]
    exact Nat.le_add_right _ _

/-- Labels in the decision take less than their text in the response spares. -/
theorem itemsWidth_le_spare {labels : List Str} (h : ∀ l ∈ labels, Plain l) :
    Json.itemsWidth 3 (labels.map .str) ≤ Json.itemsSpare (labels.map .str) := by
  induction labels with
  | nil => exact le_rfl
  | cons l labels ih =>
    have hrest := ih fun l' hl' => h l' (List.mem_cons_of_mem _ hl')
    have hwidth : Json.width 3 (.str l) = l.length + 2 :=
      width_plain (h l List.mem_cons_self)
    rw [List.map_cons, Json.itemsWidth, Json.itemsSpare, hwidth, Json.spare]
    omega

/-- **The width of an abstention** differs by the word for its confidence. -/
theorem width_abstention (hover : decision.Over (labelsOf n)) (h : decision.abstain = true) :
    Json.width 1 (.obj decision.toDict) + 3 =
      Json.width 1 (.obj projectedDecision.toDict) + decision.confidence.name.length := by
  obtain ⟨hwinner, hranking⟩ := hover.abstains h
  rw [width_decision, width_decision, hwinner, hranking, h, width_confidence, width_confidence]
  have hlow : projectedDecision.confidence.name.length = 3 := rfl
  rw [hlow]
  show 74 + 4 + 2 + _ + 4 + 3 = 74 + 4 + 2 + _ + 4 + _
  omega

/-- **A ballot that ranks** spares more than its decision takes. -/
theorem width_ranking_le (hn : n ≠ 0) (hnd : (Dict.keys value).Nodup)
    (hkeys : checkKeys juryKeys value = .ok ()) (hover : decision.Over (labelsOf n))
    (hread : decision.ReadFrom value) (h : decision.abstain = false) :
    632 + Json.width 1 (.obj decision.toDict) ≤
      Json.spare (.obj value) + Json.width 1 (.obj projectedDecision.toDict) := by
  obtain ⟨hperm, -, hwinner⟩ := hover.ranks h
  have hne : decision.ranking ≠ [] := fun hnil => by
    have hlength := hperm.length_eq
    rw [hnil, length_labelsOf] at hlength
    exact hn hlength.symm
  obtain ⟨w, rest, hranking⟩ := List.exists_cons_of_ne_nil hne
  have hplain : ∀ l ∈ w :: rest, Plain l ∧ 10 ≤ l.length := fun l hl =>
    plain_labelsOf (hperm.subset (hranking ▸ hl))
  have hlist : Json.itemsWidth (2 + 1) ((w :: rest).map .str) ≤
      Json.itemsSpare ((w :: rest).map .str) := itemsWidth_le_spare fun l hl => (hplain l hl).1
  have hw := hplain w List.mem_cons_self
  have hwidth : Json.width 2 (.str w) = w.length + 2 := width_plain hw.1
  have hprojected : Json.width 1 (.obj projectedDecision.toDict) = 89 := by decide
  have hrationale := Json.five_le_spare (field value (lit "rationale"))
  have hdisagreements := Json.five_le_spare (field value (lit "material_disagreements"))
  have hverification := Json.five_le_spare (field value (lit "verification_needed"))
  rw [hranking, List.head?_cons] at hwinner
  have harray : Json.width 2 (.arr ((w :: rest).map .str)) =
      Json.itemsWidth (2 + 1) ((w :: rest).map .str) + 2 * 2 + 2 := rfl
  have hfalse : Json.width 2 (.bool false) = 5 := rfl
  have hspare : Json.spare (.arr ((w :: rest).map .str)) =
      5 + Json.itemsSpare ((w :: rest).map .str) := rfl
  rw [width_decision, spare_ballot hnd hkeys, hprojected, width_confidence, hwinner, hranking, h,
    Option.map_some, Option.getD_some, hwidth, harray, hfalse]
  simp only [juryKeys, List.map_cons, List.map_nil, List.sum_cons, List.sum_nil, hread.winner,
    hread.confidence, hread.abstain, hwinner, h, Option.map_some, Option.getD_some]
  rw [List.map_cons] at hlist hspare
  rw [hread.ranking, hranking, List.map_cons, hspare, Json.spare, Json.spare, Json.spare]
  omega

/-! ### The bound -/

/-- The room that a response and an error leave: six characters for each that is missing,
and what the others spare. -/
def room (response error : Str) : ℕ :=
  6 * (juryRepairInputMaxChars - (Str.strip response).length) + Str.spare (Str.strip response) +
    (6 * (juryRepairErrorMaxChars - (Str.strip error).length) + Str.spare (Str.strip error))

/-- A response that abstains leaves, with the error, the room that the projected ballot does:
632 characters, and those by which the word for its confidence is longer than "low". -/
def Covered (rt : Runtime) (response error : Str) : Prop :=
  ∀ (value : Dict) (c : Confidence), Finds rt (Str.strip response) value →
    field value (lit "abstain") = .bool true → field value (lit "confidence") = .str c.name →
    629 + c.name.length ≤ room response error

/-- The free-text fields of the ballot have their types. -/
structure Typed (value : Dict) : Prop where
  rationale : ∃ s, field value (lit "rationale") = .str s
  disagreements : ∃ items, field value (lit "material_disagreements") = .arr items
  verification : ∃ items, field value (lit "verification_needed") = .arr items

/-- The characters that the projected ballot leaves to be filled up. -/
theorem spare_repairObject : Str.spare repairObject = 632 := by decide +kernel

/-- **The lengths compared.** -/
theorem chars_add_room {m : Marker}
    (h : juryRepairPrompts rt response error (labelsOf n) m.text = .ok (prompts, decision)) :
    combinedPromptChars prompts + room response error +
        Json.width 1 (.obj projectedDecision.toDict) =
      repairChars n + 632 + Json.width 1 (.obj decision.toDict) := by
  obtain ⟨⟨value, hrepairable⟩, -⟩ := juryRepairPrompts_iff.1 h
  have hresponse := Str.width_add_spare (Str.strip response)
  have herror := Str.width_add_spare (Str.strip error)
  have hresponse' := Str.width_add_spare projectedResponse
  have herror' := Str.width_add_spare projectedError
  have hspare : Str.spare projectedResponse = 632 := by
    rw [projectedResponse_eq, Str.spare_append, Str.spare_replicate, spare_repairObject]
  have hlength : projectedResponse.length = juryRepairInputMaxChars := by
    rw [projectedResponse_eq, List.length_append, List.length_replicate, length_repairObject]
    rfl
  have hlength' : projectedError.length = juryRepairErrorMaxChars := List.length_replicate
  have hspare' : Str.spare projectedError = 0 := Str.spare_replicate _
  have hle := hrepairable.response_le
  have hle' := hrepairable.error_le
  rw [hspare, hlength] at hresponse'
  rw [hspare', hlength'] at herror'
  rw [chars_juryRepairPrompts h, repairChars, width_repairRecord, width_repairRecord,
    Marker.length_text]
  unfold room
  omega

/-- **An abstention** spares what its free-text fields do. -/
theorem spare_abstention (hnd : (Dict.keys value).Nodup)
    (hkeys : checkKeys juryKeys value = .ok ()) (hover : decision.Over (labelsOf n))
    (hread : decision.ReadFrom value) (h : decision.abstain = true) :
    Json.spare (.obj value) = 589 + 5 * decision.confidence.name.length +
      (Json.spare (field value (lit "rationale")) +
        Json.spare (field value (lit "material_disagreements")) +
        Json.spare (field value (lit "verification_needed"))) := by
  obtain ⟨hwinner, hranking⟩ := hover.abstains h
  rw [spare_ballot hnd hkeys]
  simp only [juryKeys, List.map_cons, List.map_nil, List.sum_cons, List.sum_nil, hread.winner,
    hread.confidence, hread.abstain, hread.ranking, hwinner, hranking, h, Option.map_none,
    Option.getD_none, Json.spare]
  omega

/-- A ballot with a text and two lists leaves as much room as the projected one. -/
theorem Typed.spare_le (h : Typed value) :
    28 ≤ Json.spare (field value (lit "rationale")) +
      Json.spare (field value (lit "material_disagreements")) +
      Json.spare (field value (lit "verification_needed")) := by
  have harray : ∀ items : List Json, 10 ≤ Json.spare (.arr items) := fun items => by
    cases items with
    | nil => exact le_rfl
    | cons j js =>
      have hj := Json.five_le_spare j
      rw [Json.spare, Json.itemsSpare]
      omega
  obtain ⟨⟨s, hs⟩, ⟨items, hitems⟩, ⟨items', hitems'⟩⟩ := h
  have h₁ := harray items
  have h₂ := harray items'
  rw [hs, hitems, hitems', Json.spare]
  omega

/-- **When the projection bounds a repair prompt.**  It does exactly when the ballot is no
abstention, or response and error leave the room of the projected ballot; so it does when the
free-text fields of the ballot have their types, and it is never off by more than thirteen. -/
theorem repairPrompt_bounded_iff {m : Marker} {draws : MarkerDraws} {chars : StageChars}
    {projected : ℕ}
    (hprompts : juryRepairPrompts rt response error (labelsOf n) m.text = .ok (prompts, decision))
    (hprojection : stagePromptChars rt draws question n policy = .ok chars)
    (hrepair : chars.juryRepair = some projected) :
    (combinedPromptChars prompts ≤ projected ↔ Covered rt response error) ∧
      ((∀ value, Finds rt (Str.strip response) value → Typed value) →
        combinedPromptChars prompts ≤ projected) ∧
      combinedPromptChars prompts ≤ projected + 13 := by
  have hprojected : projected = repairChars n := by
    have hchars := stagePromptChars_repair hprojection
    rw [hrepair] at hchars
    split at hchars
    · cases hchars
    · exact Option.some.inj hchars
  obtain ⟨⟨value, hrepairable⟩, -⟩ := juryRepairPrompts_iff.1 hprompts
  obtain ⟨hne, -, hnodup⟩ := validatedLabels_ok hrepairable.valid
  have hn : n ≠ 0 := by
    rintro rfl
    exact hne rfl
  obtain ⟨hover, hread⟩ := validateJuryDecision_ok hnodup hrepairable.decides
  obtain ⟨hspare, hnd⟩ := spare_le_of_finds hrepairable.finds
  have hchars := chars_add_room hprompts
  have hroom : Str.spare (Str.strip response) ≤ room response error := by
    unfold room
    omega
  have hconfidence : 3 ≤ decision.confidence.name.length := by
    cases decision.confidence <;> decide
  have hrationale := Json.five_le_spare (field value (lit "rationale"))
  have hdisagreements := Json.five_le_spare (field value (lit "material_disagreements"))
  have hverification := Json.five_le_spare (field value (lit "verification_needed"))
  rw [hprojected]
  cases habstain : decision.abstain with
  | false =>
    have hbound := width_ranking_le hn hnd hrepairable.keys hover hread habstain
    have hcovered : Covered rt response error := fun value' c hfinds hfield _ => by
      rw [hfinds.unique hrepairable.finds, hread.abstain, habstain] at hfield
      cases hfield
    exact ⟨⟨fun _ => hcovered, fun _ => by omega⟩, fun _ => by omega, by omega⟩
  | true =>
    have hwidth := width_abstention hover habstain
    have hballot := spare_abstention hnd hrepairable.keys hover hread habstain
    have hcovered : Covered rt response error ↔
        629 + decision.confidence.name.length ≤ room response error := by
      constructor
      · intro h
        exact h value _ hrepairable.finds (habstain ▸ hread.abstain) hread.confidence
      · intro h value' c hfinds _ hfield
        rw [hfinds.unique hrepairable.finds, hread.confidence, Json.str.injEq] at hfield
        rw [← hfield]
        exact h
    rw [hcovered]
    refine ⟨⟨fun _ => by omega, fun _ => by omega⟩, fun htyped => ?_, by omega⟩
    have htext := (htyped value hrepairable.finds).spare_le
    omega

/-! ### A ballot that is shorter -/

/-- An abstention with numbers for its free-text fields. -/
def numericFields : Dict :=
  [(lit "winner", .null), (lit "ranking", .arr []), (lit "confidence", .str (lit "low")),
    (lit "abstain", .bool true), (lit "rationale", .int 0),
    (lit "material_disagreements", .int 0), (lit "verification_needed", .int 0)]

def numericObject : Str := Json.dumpsCompact (.obj numericFields)

/-- It stands behind as many control characters as there is room for. -/
def numericResponse : Str := List.replicate (5872 + 1) 0 ++ numericObject

set_option maxRecDepth 8000 in
/-- The ballot of the counterexample is decoded to its end. -/
theorem rawDecode_numericObject :
    rawDecode exampleRuntime numericObject = .ok (.obj numericFields, []) := by
  rfl

set_option maxRecDepth 8000 in
/-- The ballot of the counterexample may be repaired. -/
theorem repairable_numeric : Repairable exampleRuntime numericResponse projectedError
    (labelsOf 1) numericFields projectedDecision := by
  have hstrip : Str.strip numericResponse = numericResponse := strip_padded 5872 (by decide)
  have hlength : numericObject.length = 127 := by decide
  refine ⟨by decide, ?_, rfl, ?_, ?_, by decide, rfl⟩
  · rw [hstrip, numericResponse, List.length_append, List.length_replicate, hlength]
    decide
  · rw [strip_projectedError]
    exact (List.length_replicate ..).le
  · rw [hstrip]
    exact finds_padded 5872 (by decide) (by decide) rawDecode_numericObject

/-- The prompt that repairs it. -/
def numericPrompts : PromptPair :=
  (juryRepairSystemTemplate, juryRepairUser nines.text (payload (repairRecord (labelsOf 1)
    projectedDecision (Str.strip projectedError) (Str.strip numericResponse))))

/-- The response of the counterexample is not stripped. -/
theorem strip_numericResponse : Str.strip numericResponse = numericResponse :=
  strip_padded 5872 (by decide)

/-- The repair prompts of the counterexample. -/
theorem juryRepairPrompts_numeric :
    juryRepairPrompts exampleRuntime numericResponse projectedError (labelsOf 1) nines.text =
      .ok (numericPrompts, projectedDecision) := by
  refine juryRepairPrompts_iff.2 ⟨⟨_, repairable_numeric⟩, ?_, rfl⟩
  rw [strip_projectedError, strip_numericResponse]
  exact checkedMarker_text (contains_nines_repairRecord unshown_one
    (notMem_dumpsStr_padded _ (by decide)))

/-- A policy that repairs. -/
def repairingPolicy : RunPolicy := { exampleEngine.policy with juryRepairAttempts := 1 }

/-- The plan of the counterexample projects the repair prompt for one candidate. -/
theorem exists_projection : ∃ chars,
    stagePromptChars exampleRuntime (fun _ => nines) (lit "Why?") 1 repairingPolicy = .ok chars ∧
      chars.juryRepair = some (repairChars 1) := by
  have hclear : Clear (fun _ => nines) 1 (lit "Why?") :=
    clear_of_apart fun _ => apart_nines unshown_one (by decide)
  obtain ⟨chars, hchars⟩ := @stagePromptChars_clear exampleRuntime repairingPolicy (lit "Why?") 1
    _ (by decide) (fun _ => by decide) (by decide) hclear
  exact ⟨chars, hchars, stagePromptChars_repair hchars⟩

/-- It leaves less room than the projected ballot. -/
theorem room_numeric : room numericResponse projectedError = 619 := by
  have hlength : numericResponse.length = juryRepairInputMaxChars := by
    rw [numericResponse, List.length_append, List.length_replicate]
    decide +kernel
  have hspare : Str.spare numericResponse = 619 := by
    rw [numericResponse, Str.spare_append, Str.spare_replicate]
    decide +kernel
  unfold room
  rw [strip_numericResponse, strip_projectedError, hlength, hspare, projectedError,
    Str.spare_replicate, List.length_replicate, Nat.sub_self, Nat.sub_self]

/-- The bound and its condition at this ballot. -/
theorem repairPrompt_bounded_iff_numeric : ∃ chars,
    stagePromptChars exampleRuntime (fun _ => nines) (lit "Why?") 1 repairingPolicy = .ok chars ∧
      (combinedPromptChars numericPrompts ≤ repairChars 1 ↔
        Covered exampleRuntime numericResponse projectedError) := by
  obtain ⟨chars, hchars, hrepair⟩ := exists_projection
  exact ⟨chars, hchars,
    (repairPrompt_bounded_iff juryRepairPrompts_numeric hchars hrepair).1⟩

/-- **The bound is not one.**  A ballot whose rationale and lists are zeros is repaired with a
prompt that is longer than the projection. -/
theorem repairPrompt_exceeds :
    ¬ ∀ (rt : Runtime) (policy : RunPolicy) (draws : MarkerDraws) (m : Marker)
      (question response error : Str) (n : ℕ) (prompts : PromptPair) (decision : JuryDecision)
      (chars : StageChars) (projected : ℕ),
      juryRepairPrompts rt response error (labelsOf n) m.text = .ok (prompts, decision) →
      stagePromptChars rt draws question n policy = .ok chars →
      chars.juryRepair = some projected → combinedPromptChars prompts ≤ projected := by
  intro hbound
  obtain ⟨chars, hchars, hrepair⟩ := exists_projection
  have hle := hbound _ _ _ _ _ _ _ _ _ _ _ _ juryRepairPrompts_numeric hchars hrepair
  have heq := chars_add_room juryRepairPrompts_numeric
  rw [room_numeric] at heq
  omega

end Protocol
end CouncilLogic
