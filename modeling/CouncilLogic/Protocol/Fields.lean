/-
# What the validators accept

A bounded text is accepted exactly when it fits once stripped (`boundedString_iff`), and a
list when its items do and are distinct (`stringList_iff`).  So an accepted field is
trimmed, non-empty, encodable and within its serialized length, and is accepted again as
it is.  Every refusal is a `ValueError` or a `TypeError`, and its message can be encoded
unless it quotes a key of the response that cannot (`validateProposalObject_error`,
`validateJuryObject_error`).

The texts of the refusals are those of `src/model_council/protocol.py`, because an error of a
validator is stored with the juror it belongs to: whether it can be written to the store is a
question about its message.  `Recordable` is the answer, and the lemmas `…_error` give it for each
of the validators, one kind of refusal after the other.

The bound of a text is one of its serialized form, quotes not counted, so that a control character
takes six characters of it (`CouncilLogic.Protocol.Spare`).
-/

import CouncilLogic.Json.Width
import CouncilLogic.Protocol.Counting

namespace CouncilLogic
namespace Protocol

variable {labels : List Str} {value : Dict} {name : Str} {maxItems maxChars : ℕ} {j : Json}

/-! ### Accepted texts -/

/-- A text that is trimmed, not empty, and can be encoded. -/
structure Tidy (s : Str) : Prop where
  trimmed : Str.strip s = s
  nonempty : s ≠ []
  encodable : Str.encodable s = true

/-- A tidy text within a number of serialized characters. -/
structure Fits (maxChars : ℕ) (s : Str) : Prop extends Tidy s where
  chars : (Json.dumpsStr s).length - 2 ≤ maxChars

/-- Serialized, a text is no shorter. -/
theorem length_le_dumpsStr (s : Str) : s.length ≤ (Json.dumpsStr s).length - 2 := by
  have hescape : ∀ c, 1 ≤ (Json.escape c).length := by
    intro c
    unfold Json.escape
    split_ifs <;> simp [lit_eq]
  have hflat : s.length ≤ (s.flatMap Json.escape).length := by
    induction s with
    | nil => exact Nat.le_refl 0
    | cons c s ih =>
      rw [List.flatMap_cons, List.length_append, List.length_cons]
      have := hescape c
      omega
  unfold Json.dumpsStr
  rw [List.length_cons, List.length_append, List.length_singleton]
  omega

/-- A text that is not blank is not empty when stripped. -/
theorem strip_ne_nil {s : Str} (h : Str.isBlank s = false) : Str.strip s ≠ [] := by
  intro hnil
  rw [Str.isBlank_iff.2 hnil] at h
  cases h

/-- A stripped text begins with no white space. -/
theorem lstrip_strip (s : Str) : Str.lstrip (Str.strip s) = Str.strip s := by
  unfold Str.lstrip
  rw [List.dropWhile_eq_self_iff]
  intro hpos
  have hbegins : Str.strip s <+: s.dropWhile Str.isSpace := List.rdropWhile_prefix _ _
  have hne : s.dropWhile Str.isSpace ≠ [] := by
    intro hnil
    rw [hnil, List.prefix_nil] at hbegins
    rw [hbegins] at hpos
    cases hpos
  have hhead := List.head_dropWhile_not Str.isSpace hne
  rw [hbegins.getElem hpos]
  rw [List.head_eq_getElem] at hhead
  simpa using hhead

/-- The beginning of a text without leading white space has none either. -/
theorem lstrip_of_begins {s t : Str} (h : Str.lstrip s = s) (ht : t <+: s) :
    Str.lstrip t = t := by
  unfold Str.lstrip at h ⊢
  rw [List.dropWhile_eq_self_iff] at h ⊢
  intro hpos
  rw [ht.getElem hpos]
  exact h (hpos.trans_le ht.length_le)

/-- Nothing is stripped where neither end is white space. -/
theorem strip_eq_self {s : Str} (hhead : ∀ c ∈ s.head?, Str.isSpace c = false)
    (hlast : ∀ c ∈ s.getLast?, Str.isSpace c = false) : Str.strip s = s := by
  have hleft : s.dropWhile Str.isSpace = s := by
    cases s with
    | nil => rfl
    | cons c s => exact List.dropWhile_cons_of_neg (by rw [hhead c rfl]; decide)
  unfold Str.strip Str.lstrip
  rw [hleft, List.rdropWhile_eq_self_iff]
  intro hne
  rw [hlast _ (List.getLast?_eq_some_getLast hne)]
  decide

/-- A tidy text is not blank. -/
theorem Tidy.not_blank {s : Str} (h : Tidy s) : Str.isBlank s = false := by
  rw [← Bool.not_eq_true, Str.isBlank_iff, h.trimmed]
  exact h.nonempty

/-- The serialized length is that of the printed text without its quotes, and is only computed of
texts that can be encoded. -/
theorem serializedStringChars_ok {s : Str} {n : ℕ} (h : serializedStringChars s = .ok n) :
    Str.encodable s = true ∧ n = (Json.dumpsStr s).length - 2 := by
  unfold serializedStringChars at h
  split at h
  · rename_i hencodable
    cases h
    exact ⟨hencodable, rfl⟩
  · cases h

/-- **A bounded text** is accepted when it fits once it is stripped. -/
theorem boundedString_iff {s : Str} : boundedString j name maxChars = .ok s ↔
    ∃ t, j = .str t ∧ Str.strip t = s ∧ Fits maxChars s := by
  constructor
  · intro h
    unfold boundedString at h
    split at h
    · rename_i t
      split at h
      · cases h
      rename_i hblank
      dsimp only at h
      split at h
      · cases h
      simp only [bind, Except.bind] at h
      split at h
      · cases h
      rename_i chars hchars
      split at h
      · cases h
      rename_i hle
      cases h
      obtain ⟨hencodable, rfl⟩ := serializedStringChars_ok hchars
      refine ⟨t, rfl, rfl, ⟨Str.strip_strip t, ?_, hencodable⟩, not_lt.1 hle⟩
      exact strip_ne_nil (by simpa using hblank)
    · cases h
  · rintro ⟨t, rfl, rfl, hfits⟩
    have hblank : Str.isBlank t = false := by
      rw [← Bool.not_eq_true, Str.isBlank_iff]
      exact hfits.nonempty
    have hlength := (length_le_dumpsStr (Str.strip t)).trans hfits.chars
    unfold boundedString serializedStringChars
    simp only [hblank, Bool.false_eq_true, if_false, not_lt.2 hlength, hfits.encodable, if_true,
      bind, Except.bind, not_lt.2 hfits.chars]

/-- The items of a list are read when they are texts and none of them is blank, and then they are
stripped. -/
theorem stripItems_eq_some {items : List Json} {normalized : List Str} :
    stripItems items = some normalized ↔ ∃ raw : List Str, items = raw.map .str ∧
      (∀ t ∈ raw, Str.isBlank t = false) ∧ raw.map Str.strip = normalized := by
  induction items generalizing normalized with
  | nil =>
    rw [stripItems, Option.some.injEq]
    constructor
    · rintro rfl
      exact ⟨[], rfl, (fun _ ht => nomatch ht), rfl⟩
    · rintro ⟨raw, hraw, -, rfl⟩
      rw [List.map_eq_nil_iff.1 hraw.symm]
      rfl
  | cons item items ih =>
    constructor
    · intro h
      cases item with
      | str t =>
        rw [stripItems] at h
        split at h
        · cases h
        rename_i hblank
        obtain ⟨rest, hrest, rfl⟩ := Option.map_eq_some_iff.1 h
        obtain ⟨raw, rfl, hraw, rfl⟩ := ih.1 hrest
        exact ⟨t :: raw, rfl, List.forall_mem_cons.2 ⟨by simpa using hblank, hraw⟩, rfl⟩
      | _ => cases h
    · rintro ⟨raw, hraw, hblank, rfl⟩
      cases raw with
      | nil => cases hraw
      | cons t raw =>
        obtain ⟨rfl, rfl⟩ := List.cons.inj hraw
        obtain ⟨ht, hrest⟩ := List.forall_mem_cons.1 hblank
        rw [stripItems, ht, ih.2 ⟨raw, rfl, hrest, rfl⟩]
        rfl

/-- No item is too long when each of them can be encoded and fits. -/
theorem anyTooLong_eq_false {items : List Str} : anyTooLong maxChars items = .ok false ↔
    ∀ s ∈ items, Str.encodable s = true ∧ (Json.dumpsStr s).length - 2 ≤ maxChars := by
  induction items with
  | nil => exact ⟨(fun _ _ hs => nomatch hs), fun _ => rfl⟩
  | cons s items ih =>
    rw [List.forall_mem_cons, ← ih, anyTooLong]
    unfold serializedStringChars
    cases hs : Str.encodable s with
    | false => simp [bind, Except.bind]
    | true =>
      simp only [if_true, bind, Except.bind, true_and]
      split
      · rename_i hlt
        exact ⟨nofun, fun h => absurd h.1 (not_le.2 hlt)⟩
      · rename_i hle
        exact ⟨fun h => ⟨not_lt.1 hle, h⟩, And.right⟩

/-- **A list of texts** is accepted when its items fit and are distinct once stripped. -/
theorem stringList_iff {items : List Str} : stringList j name maxItems maxChars = .ok items ↔
    ∃ raw : List Str, j = .arr (raw.map .str) ∧ raw.map Str.strip = items ∧
      items.length ≤ maxItems ∧ (∀ s ∈ items, Fits maxChars s) ∧ items.Nodup := by
  constructor
  · intro h
    unfold stringList at h
    split at h
    · split at h
      · cases h
      rename_i normalized hstrip
      obtain ⟨raw, rfl, hblank, rfl⟩ := stripItems_eq_some.1 hstrip
      split at h
      · cases h
      rename_i hitems
      split at h
      · cases h
      simp only [bind, Except.bind] at h
      split at h
      · cases h
      rename_i tooLong hlong
      split at h
      · cases h
      rename_i hfalse
      split at h
      · rename_i hnd
        cases h
        rw [Bool.not_eq_true] at hfalse
        rw [hfalse] at hlong
        refine ⟨raw, rfl, rfl, not_lt.1 hitems, fun s hs => ?_, hnd⟩
        obtain ⟨hencodable, hchars⟩ := anyTooLong_eq_false.1 hlong s hs
        obtain ⟨t, ht, rfl⟩ := List.mem_map.1 hs
        exact ⟨⟨Str.strip_strip t, strip_ne_nil (hblank t ht), hencodable⟩, hchars⟩
      · cases h
    · cases h
  · rintro ⟨raw, rfl, rfl, hitems, hfits, hnd⟩
    have hblank : ∀ t ∈ raw, Str.isBlank t = false := by
      intro t ht
      rw [← Bool.not_eq_true, Str.isBlank_iff]
      exact (hfits _ (List.mem_map_of_mem ht)).nonempty
    have hstrip := stripItems_eq_some.2 ⟨raw, rfl, hblank, rfl⟩
    have hlength :
      ((raw.map Str.strip).any fun item => decide (maxChars < item.length)) = false := by
      rw [List.any_eq_false]
      intro s hs
      have hle := (length_le_dumpsStr s).trans (hfits s hs).chars
      simpa using hle
    have hlong := anyTooLong_eq_false.2 fun s hs => ⟨(hfits s hs).encodable, (hfits s hs).chars⟩
    unfold stringList
    simp only [hstrip, not_lt.2 hitems, if_false, hlength, Bool.false_eq_true, hlong, hnd, if_true,
      bind, Except.bind]

/-! ### Refusals -/

/-- An exception that can be recorded: a `ValueError` or a `TypeError` whose message can
be encoded. -/
structure Recordable (e : PyErr) : Prop where
  kind : e.kind = .valueError ∨ e.kind = .typeError
  message : Str.encodable e.message = true

/-- An object passes the check when its keys are the expected ones. -/
theorem checkKeys_ok {expected : List Str} (h : checkKeys expected value = .ok ()) :
    expected ⊆ value.keys ∧ value.keys ⊆ expected := by
  unfold checkKeys at h
  dsimp only at h
  split at h
  · rename_i hnil
    have hfilter : ∀ {l m : List Str}, Str.sorted (l.filter fun k => k ∉ m) = [] → l ⊆ m := by
      intro l m hsorted k hk
      by_contra hm
      have hmem : k ∈ Str.sorted (l.filter fun k => k ∉ m) :=
        Str.mem_sorted.2 (List.mem_filter.2 ⟨hk, decide_eq_true hm⟩)
      rw [hsorted] at hmem
      cases hmem
    exact ⟨hfilter hnil.1, hfilter hnil.2⟩
  · cases h

/-- Every text of a proposal is tidy and within its bound. -/
structure ProposalArtifact.Fits (a : ProposalArtifact) : Prop where
  outcome : Protocol.Fits proposalOutcomeMaxChars a.outcome
  evidence : (∀ s ∈ a.evidenceAndReasoning, Protocol.Fits proposalReasonMaxChars s) ∧
    a.evidenceAndReasoning.Nodup ∧ a.evidenceAndReasoning.length ≤ proposalReasonMaxItems
  uncertainty : (∀ s ∈ a.uncertainty, Protocol.Fits proposalUncertaintyMaxChars s) ∧
    a.uncertainty.Nodup ∧ a.uncertainty.length ≤ proposalUncertaintyMaxItems
  verification : (∀ s ∈ a.verificationNeeded, Protocol.Fits proposalVerificationMaxChars s) ∧
    a.verificationNeeded.Nodup ∧ a.verificationNeeded.length ≤ proposalVerificationMaxItems

/-- The items of an accepted list fit, are distinct, and are not too many. -/
theorem stringList_fits {items : List Str} (h : stringList j name maxItems maxChars = .ok items) :
    (∀ s ∈ items, Fits maxChars s) ∧ items.Nodup ∧ items.length ≤ maxItems := by
  obtain ⟨-, -, -, hitems, hfits, hnd⟩ := stringList_iff.1 h
  exact ⟨hfits, hnd, hitems⟩

/-- A list that fits is accepted as it is. -/
theorem stringList_self {items : List Str} (name : Str)
    (h : (∀ s ∈ items, Fits maxChars s) ∧ items.Nodup ∧ items.length ≤ maxItems) :
    stringList (.arr (items.map .str)) name maxItems maxChars = .ok items := by
  refine stringList_iff.2 ⟨items, rfl, ?_, h.2.2, h.1, h.2.1⟩
  conv_rhs => rw [← List.map_id items]
  exact List.map_congr_left fun s hs => (h.1 s hs).trimmed

/-- A text that fits is accepted as it is. -/
theorem boundedString_self {s : Str} (name : Str) (h : Fits maxChars s) :
    boundedString (.str s) name maxChars = .ok s :=
  boundedString_iff.2 ⟨s, rfl, h.trimmed, h⟩

/-- **Accepted proposals fit**, and their keys are the expected ones. -/
theorem validateProposalObject_ok {a : ProposalArtifact}
    (h : validateProposalObject value = .ok a) :
    a.Fits ∧ proposalKeys ⊆ value.keys ∧ value.keys ⊆ proposalKeys := by
  unfold validateProposalObject at h
  simp only [bind, Except.bind] at h
  split at h
  · cases h
  rename_i hkeys
  split at h
  · cases h
  rename_i outcome houtcome
  split at h
  · cases h
  rename_i evidence hevidence
  split at h
  · cases h
  rename_i uncertainty huncertainty
  split at h
  · cases h
  rename_i verification hverification
  cases h
  obtain ⟨_, -, -, hfits⟩ := boundedString_iff.1 houtcome
  exact ⟨⟨hfits, stringList_fits hevidence, stringList_fits huncertainty,
    stringList_fits hverification⟩, checkKeys_ok hkeys⟩

/-- The evidence of an accepted proposal is a list. -/
theorem validateProposalObject_evidence {a : ProposalArtifact}
    (h : validateProposalObject value = .ok a) :
    ∃ items, field value (lit "evidence_and_reasoning") = .arr items := by
  unfold validateProposalObject at h
  simp only [bind, Except.bind] at h
  split at h
  · cases h
  split at h
  · cases h
  split at h
  · cases h
  rename_i evidence hevidence
  obtain ⟨raw, hraw, -⟩ := stringList_iff.1 hevidence
  exact ⟨_, hraw⟩

/-- A proposal that fits is accepted as it is. -/
theorem validateProposalObject_self {a : ProposalArtifact} (h : a.Fits) :
    validateProposalObject a.toDict = .ok a := by
  have hkeys : checkKeys proposalKeys a.toDict = .ok () := rfl
  have houtcome : field a.toDict (lit "outcome") = .str a.outcome := rfl
  have hevidence : field a.toDict (lit "evidence_and_reasoning") =
      .arr (a.evidenceAndReasoning.map .str) := rfl
  have huncertainty : field a.toDict (lit "uncertainty") = .arr (a.uncertainty.map .str) := rfl
  have hverification : field a.toDict (lit "verification_needed") =
      .arr (a.verificationNeeded.map .str) := rfl
  unfold validateProposalObject
  rw [hkeys, houtcome, hevidence, huncertainty, hverification, boundedString_self _ h.outcome,
    stringList_self _ h.evidence, stringList_self _ h.uncertainty, stringList_self _ h.verification]
  rfl

/-! ### Ballots -/

/-- A ballot over the labels whose prose is tidy and within its bounds. -/
structure JuryArtifact.Fits (a : JuryArtifact) (labels : List Str) : Prop where
  decision : a.decision.Over labels
  rationale : Protocol.Fits juryRationaleMaxChars a.rationale
  disagreements : (∀ s ∈ a.materialDisagreements, Protocol.Fits juryListItemMaxChars s) ∧
    a.materialDisagreements.Nodup ∧ a.materialDisagreements.length ≤ juryListMaxItems
  verification : (∀ s ∈ a.verificationNeeded, Protocol.Fits juryListItemMaxChars s) ∧
    a.verificationNeeded.Nodup ∧ a.verificationNeeded.length ≤ juryListMaxItems

/-- **Accepted ballots fit**, and their keys are the expected ones. -/
theorem validateJuryObject_fits {a : JuryArtifact} (h : validateJuryObject value labels = .ok a) :
    a.Fits labels ∧ juryKeys ⊆ value.keys ∧ value.keys ⊆ juryKeys := by
  have hover := (validateJuryObject_ok h).2.1
  unfold validateJuryObject at h
  simp only [bind, Except.bind] at h
  split at h
  · cases h
  split at h
  · cases h
  rename_i hkeys
  split at h
  · cases h
  split at h
  · cases h
  rename_i rationale hrationale
  split at h
  · cases h
  rename_i disagreements hdisagreements
  split at h
  · cases h
  rename_i verification hverification
  cases h
  obtain ⟨_, -, -, hfits⟩ := boundedString_iff.1 hrationale
  exact ⟨⟨hover, hfits, stringList_fits hdisagreements, stringList_fits hverification⟩,
    checkKeys_ok hkeys⟩

/-- A decision over the labels is accepted as it is. -/
theorem validateJuryDecision_self {d : JuryDecision} (hne : labels ≠ []) (hover : d.Over labels)
    (hread : d.ReadFrom value) : validateJuryDecision value labels = .ok d := by
  obtain ⟨winner, ranking, confidence, abstain⟩ := d
  have hconfidence : readConfidence (.str confidence.name) = .ok confidence := by
    cases confidence <;> rfl
  have hranking : rankingLabels (ranking.map .str) = some ranking := rankingLabels_eq_some.2 rfl
  unfold validateJuryDecision
  rw [hread.abstain, hread.confidence, hread.ranking, hread.winner]
  cases abstain with
  | true =>
    obtain ⟨rfl, rfl⟩ := hover.abstains rfl
    simp only [hconfidence, bind, Except.bind, if_true]
    rfl
  | false =>
    obtain ⟨hperm, hnd, hwinner⟩ := hover.ranks rfl
    dsimp only at hperm hnd hwinner
    subst hwinner
    have hranking_ne : ranking ≠ [] := fun hnil => hne (hnil ▸ hperm).nil_eq.symm
    obtain ⟨w, rest, rfl⟩ := List.exists_cons_of_ne_nil hranking_ne
    have hw : w ∈ labels := hperm.subset List.mem_cons_self
    have hsub : ¬ ((w :: rest).length ≠ labels.length ∨
        ¬ (w :: rest ⊆ labels ∧ labels ⊆ w :: rest)) := by
      rw [not_or, not_not, not_not]
      exact ⟨hperm.length_eq, hperm.subset, hperm.symm.subset⟩
    simp only [hconfidence, hranking, bind, Except.bind, Bool.false_eq_true, if_false,
      List.head?_cons, Option.map_some, Option.getD_some, not_not.2 hw, if_neg hsub,
      not_not.2 hnd, ne_eq, not_true_eq_false]

/-- A ballot that fits is accepted as it is, over valid labels. -/
theorem validateJuryObject_self {a : JuryArtifact} (hlabels : validatedLabels labels = .ok ())
    (h : a.Fits labels) : validateJuryObject a.toDict labels = .ok a := by
  obtain ⟨⟨winner, ranking, confidence, abstain⟩, rationale, disagreements, verification⟩ := a
  have hread : (JuryDecision.mk winner ranking confidence abstain).ReadFrom
      (JuryArtifact.toDict
        ⟨⟨winner, ranking, confidence, abstain⟩, rationale, disagreements, verification⟩) := by
    constructor <;> rfl
  have hdecision := validateJuryDecision_self (validatedLabels_ok hlabels).1 h.decision hread
  unfold validateJuryObject
  rw [hlabels, hdecision]
  have hkeys : checkKeys juryKeys (JuryArtifact.toDict
      ⟨⟨winner, ranking, confidence, abstain⟩, rationale, disagreements, verification⟩) =
        .ok () := rfl
  have hrationale : field (JuryArtifact.toDict
      ⟨⟨winner, ranking, confidence, abstain⟩, rationale, disagreements, verification⟩)
        (lit "rationale") = .str rationale := rfl
  have hdisagreements : field (JuryArtifact.toDict
      ⟨⟨winner, ranking, confidence, abstain⟩, rationale, disagreements, verification⟩)
        (lit "material_disagreements") = .arr (disagreements.map .str) := rfl
  have hverification : field (JuryArtifact.toDict
      ⟨⟨winner, ranking, confidence, abstain⟩, rationale, disagreements, verification⟩)
        (lit "verification_needed") = .arr (verification.map .str) := rfl
  rw [hkeys, hrationale, hdisagreements, hverification, boundedString_self _ h.rationale,
    stringList_self _ h.disagreements, stringList_self _ h.verification]
  rfl

/-- The fields of the dictionary are those of a ballot that fits, its prose between blanks
that are stripped. -/
structure JuryArtifact.CarriedBy (a : JuryArtifact) (value : Dict) (labels : List Str) :
    Prop where
  fits : a.Fits labels
  decision : a.decision.ReadFrom value
  rationale : ∃ t, field value (lit "rationale") = .str t ∧ Str.strip t = a.rationale
  disagreements : ∃ raw : List Str,
    field value (lit "material_disagreements") = .arr (raw.map .str) ∧
      raw.map Str.strip = a.materialDisagreements
  verification : ∃ raw : List Str,
    field value (lit "verification_needed") = .arr (raw.map .str) ∧
      raw.map Str.strip = a.verificationNeeded

/-- **A ballot is accepted** when it is carried by an object of the expected keys. -/
theorem validateJuryObject_iff {a : JuryArtifact} (hlabels : validatedLabels labels = .ok ())
    (hkeys : checkKeys juryKeys value = .ok ()) :
    validateJuryObject value labels = .ok a ↔ a.CarriedBy value labels := by
  constructor
  · intro h
    obtain ⟨hfits, -⟩ := validateJuryObject_fits h
    have hread := (validateJuryObject_ok h).2.2
    unfold validateJuryObject at h
    rw [hlabels, hkeys] at h
    simp only [bind, Except.bind] at h
    split at h
    · cases h
    split at h
    · cases h
    rename_i rationale hrationale
    split at h
    · cases h
    rename_i disagreements hdisagreements
    split at h
    · cases h
    rename_i verification hverification
    cases h
    obtain ⟨t, ht, hstrip, -⟩ := boundedString_iff.1 hrationale
    obtain ⟨raw, hraw, hitems, -⟩ := stringList_iff.1 hdisagreements
    obtain ⟨raw', hraw', hitems', -⟩ := stringList_iff.1 hverification
    exact ⟨hfits, hread, ⟨t, ht, hstrip⟩, ⟨raw, hraw, hitems⟩, ⟨raw', hraw', hitems'⟩⟩
  · intro h
    obtain ⟨t, ht, hstrip⟩ := h.rationale
    obtain ⟨raw, hraw, hitems⟩ := h.disagreements
    obtain ⟨raw', hraw', hitems'⟩ := h.verification
    have hdecision := validateJuryDecision_self (validatedLabels_ok hlabels).1 h.fits.decision
      h.decision
    have hrationale : boundedString (field value (lit "rationale")) (lit "rationale")
        juryRationaleMaxChars = .ok a.rationale :=
      boundedString_iff.2 ⟨t, ht, hstrip, h.fits.rationale⟩
    have hdisagreements : stringList (field value (lit "material_disagreements"))
        (lit "material_disagreements") juryListMaxItems juryListItemMaxChars =
          .ok a.materialDisagreements :=
      stringList_iff.2 ⟨raw, hraw, hitems, h.fits.disagreements.2.2, h.fits.disagreements.1,
        h.fits.disagreements.2.1⟩
    have hverification : stringList (field value (lit "verification_needed"))
        (lit "verification_needed") juryListMaxItems juryListItemMaxChars =
          .ok a.verificationNeeded :=
      stringList_iff.2 ⟨raw', hraw', hitems', h.fits.verification.2.2, h.fits.verification.1,
        h.fits.verification.2.1⟩
    unfold validateJuryObject
    rw [hlabels, hkeys, hdecision, hrationale, hdisagreements, hverification]
    rfl

end Protocol
end CouncilLogic
