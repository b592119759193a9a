/-
# Renamed candidates

A renaming of the labels renames a ballot: its winner and its ranking, and nothing else.
A ballot is accepted for the labels exactly when the renamed ballot is accepted for the
renamed labels, and then the accepted decision is the renamed one
(`validateJuryObject_rename`).  So the rankings that are counted are the renamed ones
(`profile_rename`).

The jurors of `src/model_council/engine.py` see labels and never providers, and which provider has
which label is drawn for each run.  Anonymity of the rule is therefore neutrality under renamings
of the labels: with it the outcome belongs to the candidates and not to the draw.
-/

import CouncilLogic.Protocol.Verdict

namespace CouncilLogic
namespace Protocol

variable {rt : Runtime} {σ : Str → Str} {labels : List Str} {value : Dict}

/-- A label in a ballot. -/
def renameLabel (σ : Str → Str) : Json → Json
  | .str s => .str (σ s)
  | value => value

/-- A field of a ballot. -/
def renameField (σ : Str → Str) (key : Str) (value : Json) : Json :=
  if key = lit "winner" then renameLabel σ value
  else if key = lit "ranking" then
    match value with
    | .arr items => .arr (items.map (renameLabel σ))
    | value => value
  else value

/-- A ballot over renamed labels. -/
def renameBallot (σ : Str → Str) (value : Dict) : Dict :=
  value.map fun e => (e.1, renameField σ e.1 e.2)

/-- A decision over renamed labels. -/
def JuryDecision.rename (σ : Str → Str) (d : JuryDecision) : JuryDecision :=
  { d with winner := d.winner.map σ, ranking := d.ranking.map σ }

/-- An accepted ballot over renamed labels. -/
def JuryArtifact.rename (σ : Str → Str) (b : JuryArtifact) : JuryArtifact :=
  { b with decision := b.decision.rename σ }

/-- An entry of a ballot list and the same entry after a renaming: a dictionary, or any
texts that are read as such dictionaries. -/
inductive Renamed (rt : Runtime) (σ : Str → Str) : Json → Json → Prop
  | ballot (value : Dict) : Renamed rt σ (.obj value) (.obj (renameBallot σ value))
  | text {text text' : Str}
      (h : Decode.extractJsonObject rt (lit "jury response") text' =
        (Decode.extractJsonObject rt (lit "jury response") text).map (renameBallot σ)) :
      Renamed rt σ (.str text) (.str text')
  | other {entry : Json} (hstr : ∀ text, entry ≠ .str text) (hobj : ∀ value, entry ≠ .obj value) :
      Renamed rt σ entry entry

/-! ### Renamed fields -/

/-- Renaming a ballot keeps its keys. -/
theorem keys_renameBallot (σ : Str → Str) (value : Dict) :
    (renameBallot σ value).keys = value.keys := by
  unfold renameBallot Dict.keys
  rw [List.map_map]
  rfl

/-- A field of the renamed ballot is the renamed field. -/
theorem field_renameBallot (σ : Str → Str) (value : Dict) (key : Str) :
    field (renameBallot σ value) key = renameField σ key (field value key) := by
  have hnull : renameField σ key .null = .null := by
    unfold renameField
    split
    · rfl
    split <;> rfl
  have hget : (renameBallot σ value).get? key = (value.get? key).map (renameField σ key) := by
    induction value with
    | nil => rfl
    | cons e value ih =>
      obtain ⟨k, v⟩ := e
      have hcons : renameBallot σ ((k, v) :: value) =
          (k, renameField σ k v) :: renameBallot σ value := rfl
      rw [hcons, Dict.get?_cons, Dict.get?_cons, ih]
      split
      · rename_i hk
        rw [hk, Option.map_some]
      · rfl
  unfold field
  rw [hget]
  cases value.get? key with
  | none => exact hnull.symm
  | some v => rfl

/-- Other fields are kept. -/
theorem field_renameBallot_other {key : Str} (hwinner : key ≠ lit "winner")
    (hranking : key ≠ lit "ranking") :
    field (renameBallot σ value) key = field value key := by
  rw [field_renameBallot]
  unfold renameField
  rw [if_neg hwinner, if_neg hranking]

/-- The renamed ranking is read as the renamed labels. -/
theorem rankingLabels_rename (items : List Json) :
    rankingLabels (items.map (renameLabel σ)) = (rankingLabels items).map (List.map σ) := by
  induction items with
  | nil => rfl
  | cons item items ih =>
    cases item with
    | str s =>
      simp only [List.map_cons, renameLabel, rankingLabels, ih, Option.map_map]
      rfl
    | _ => rfl

/-! ### Renamed ballots -/

/-- The conditions on a ranking hold for the renamed one. -/
theorem ranks_rename (hσ : Function.Injective σ) (ranking : List Str) :
    ((ranking.map σ).length ≠ (labels.map σ).length ∨
        ¬ (ranking.map σ ⊆ labels.map σ ∧ labels.map σ ⊆ ranking.map σ)) ↔
      ranking.length ≠ labels.length ∨ ¬ (ranking ⊆ labels ∧ labels ⊆ ranking) := by
  rw [List.length_map, List.length_map, List.map_subset_iff _ hσ, List.map_subset_iff _ hσ]

/-- **A renamed decision is validated alike** against the renamed labels, refusals included. -/
theorem validateJuryDecision_rename (hσ : Function.Injective σ) :
    validateJuryDecision (renameBallot σ value) (labels.map σ) =
      (validateJuryDecision value labels).map (JuryDecision.rename σ) := by
  have habstain : field (renameBallot σ value) (lit "abstain") = field value (lit "abstain") :=
    field_renameBallot_other (by decide) (by decide)
  have hconfidence : field (renameBallot σ value) (lit "confidence") =
      field value (lit "confidence") := field_renameBallot_other (by decide) (by decide)
  have hwinner : field (renameBallot σ value) (lit "winner") =
      renameLabel σ (field value (lit "winner")) := by
    rw [field_renameBallot]
    exact if_pos rfl
  have hranking : field (renameBallot σ value) (lit "ranking") =
      match field value (lit "ranking") with
      | .arr items => .arr (items.map (renameLabel σ))
      | value => value := by
    rw [field_renameBallot]
    unfold renameField
    rw [if_neg (by decide), if_pos rfl]
  unfold validateJuryDecision
  rw [habstain, hconfidence, hwinner, hranking]
  generalize field value (lit "abstain") = abstain
  generalize field value (lit "winner") = winner
  cases abstain with
  | bool abstain => ?_
  | _ => rfl
  cases readConfidence (field value (lit "confidence")) with
  | error e => rfl
  | ok confidence => ?_
  cases field value (lit "ranking") with
  | arr items => ?_
  | _ => rfl
  simp only [bind, Except.bind]
  rw [rankingLabels_rename]
  cases rankingLabels items with
  | none => rfl
  | some ranking => ?_
  simp only [Option.map_some]
  cases abstain with
  | true =>
    simp only [if_true]
    cases winner with
    | null =>
      simp only [renameLabel, ne_eq, not_true_eq_false, if_false, List.map_eq_nil_iff]
      split
      · rfl
      · rfl
    | _ => rfl
  | false =>
    simp only [Bool.false_eq_true, if_false]
    cases winner with
    | str w =>
      simp only [renameLabel, List.mem_map_of_injective hσ, ranks_rename hσ,
        List.nodup_map_iff hσ, List.head?_map]
      have hhead : ranking.head?.map σ ≠ some (σ w) ↔ ranking.head? ≠ some w := by
        rw [← Option.map_some, ne_eq, (Option.map_injective hσ).eq_iff]
      simp only [hhead]
      split
      · rfl
      split
      · rfl
      split
      · rfl
      split
      · rfl
      · rfl
    | _ => rfl

/-- **A renamed ballot is validated alike** against the renamed labels, as long as both lists of
labels are ones. -/
theorem validateJuryObject_rename (hσ : Function.Injective σ)
    (hlabels : validatedLabels labels = .ok ())
    (hrenamed : validatedLabels (labels.map σ) = .ok ()) :
    validateJuryObject (renameBallot σ value) (labels.map σ) =
      (validateJuryObject value labels).map (JuryArtifact.rename σ) := by
  have hkeys : checkKeys juryKeys (renameBallot σ value) = checkKeys juryKeys value := by
    unfold checkKeys
    rw [keys_renameBallot]
  unfold validateJuryObject
  rw [hlabels, hrenamed, hkeys, validateJuryDecision_rename hσ,
    field_renameBallot_other (by decide) (by decide),
    field_renameBallot_other (by decide) (by decide),
    field_renameBallot_other (by decide) (by decide)]
  simp only [bind, Except.bind]
  cases checkKeys juryKeys value with
  | error e => rfl
  | ok _ => ?_
  cases validateJuryDecision value labels with
  | error e => rfl
  | ok decision => ?_
  simp only [Except.map]
  cases boundedString (field value (lit "rationale")) (lit "rationale") juryRationaleMaxChars with
  | error e => rfl
  | ok rationale => ?_
  simp only
  cases stringList (field value (lit "material_disagreements")) (lit "material_disagreements")
      juryListMaxItems juryListItemMaxChars with
  | error e => rfl
  | ok disagreements => ?_
  simp only
  cases stringList (field value (lit "verification_needed")) (lit "verification_needed")
      juryListMaxItems juryListItemMaxChars with
  | error e => rfl
  | ok verification => rfl

/-! ### Renamed ballot lists -/

section Entries
variable (hσ : Function.Injective σ) (hlabels : validatedLabels labels = .ok ())
  (hrenamed : validatedLabels (labels.map σ) = .ok ())
include hσ hlabels hrenamed

/-- A renamed entry of the ballot list is read as the renamed ballot. -/
theorem readEntry_rename {entry entry' : Json} (h : Renamed rt σ entry entry') :
    readEntry rt (labels.map σ) entry' =
      (readEntry rt labels entry).map (JuryArtifact.rename σ) := by
  cases h with
  | ballot value => exact validateJuryObject_rename hσ hlabels hrenamed
  | text h =>
    unfold readEntry parseJury
    simp only [hlabels, hrenamed, h, bind, Except.bind]
    cases Decode.extractJsonObject rt (lit "jury response") _ with
    | error e => rfl
    | ok value => exact validateJuryObject_rename hσ hlabels hrenamed
  | other hstr hobj =>
    cases entry with
    | str text => exact absurd rfl (hstr text)
    | obj value => exact absurd rfl (hobj value)
    | _ => rfl

/-- If no entry of a list makes the loop raise, no renamed one does. -/
theorem readable_rename {entries entries' : List Json}
    (h : List.Forall₂ (Renamed rt σ) entries entries') (hreadable : Readable rt labels entries) :
    Readable rt (labels.map σ) entries' := by
  induction h with
  | nil => exact fun entry hentry => nomatch hentry
  | @cons entry entry' entries entries' hr h ih =>
    obtain ⟨hentry, hentries⟩ := List.forall_mem_cons.1 hreadable
    refine List.forall_mem_cons.2 ⟨fun e he => ?_, ih hentries⟩
    rw [readEntry_rename hσ hlabels hrenamed hr] at he
    cases hread : readEntry rt labels entry with
    | ok b =>
      rw [hread] at he
      cases he
    | error e' =>
      rw [hread] at he
      cases he
      exact hentry e hread

/-- **Renamed ballots count as renamed rankings.** -/
theorem profile_rename {entries entries' : List Json}
    (h : List.Forall₂ (Renamed rt σ) entries entries') :
    profile rt (labels.map σ) entries' = (profile rt labels entries).map (List.map σ) := by
  unfold profile
  induction h with
  | nil => rfl
  | @cons entry entry' entries entries' hr h ih =>
    unfold acceptedBallots at ih ⊢
    rw [List.filterMap_cons, List.filterMap_cons, readEntry_rename hσ hlabels hrenamed hr]
    cases readEntry rt labels entry with
    | error e => exact ih
    | ok b =>
      simp only [Except.map, Except.toOption, rankingsOf_cons, List.map_append]
      refine congrArg₂ _ ?_ ih
      unfold JuryArtifact.rename JuryDecision.rename
      cases b.decision.abstain <;> rfl

end Entries

end Protocol
end CouncilLogic
