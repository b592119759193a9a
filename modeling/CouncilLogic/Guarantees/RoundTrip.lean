/-
# Accepted artifacts are accepted again

What `parse_proposal` or `parse_jury` accepts is accepted again, unchanged, from the text
that `json.dumps` prints for it.  Inside a code fence it is accepted again exactly when no
fence inside a field cuts a JSON object out of the response (`artifacts_roundTrip`): the
extractor looks for fences without regard to strings, and prefers what it finds.  The
judgment of a record with providers in place of labels is a ballot over the providers.

The parsers are in `src/model_council/protocol.py`, and the fences are those that models put
around their answers; `CouncilLogic.Protocol.Fences` has what the extractor cuts out of them.
-/

import CouncilLogic.Engine.Creation
import CouncilLogic.Protocol.Fences

namespace CouncilLogic

open Protocol Decode Json

variable {rt : Runtime} {text : Str} {labels : List Str}

/-! ### Printed artifacts -/

/-- A list of texts is textual. -/
theorem textualItems_map_str (l : List Str) : textualItems (l.map .str) = true := by
  induction l with
  | nil => rfl
  | cons s l ih => exact ih

/-- Texts repeat no key. -/
theorem distinctItems_map_str (l : List Str) : distinctItems (l.map .str) = true := by
  induction l with
  | nil => rfl
  | cons s l ih => exact ih

/-- Texts are not nested. -/
theorem depthItems_map_str (l : List Str) : depthItems (l.map .str) = 0 := by
  induction l with
  | nil => rfl
  | cons s l ih =>
    rw [List.map_cons, depthItems, ih]
    rfl

/-- Texts are joined one by one. -/
theorem joinedItems_map_str (l : List Str) :
    joinedItems (l.map .str) = (l.map joined).map .str := by
  induction l with
  | nil => rfl
  | cons s l ih =>
    rw [List.map_cons, joinedItems, ih]
    rfl

/-- Texts that were accepted have no surrogate pairs left to join. -/
theorem joined_map_of_fits {l : List Str} {maxChars : ℕ} (h : ∀ s ∈ l, Fits maxChars s) :
    l.map joined = l := by
  conv_rhs => rw [← List.map_id l]
  exact List.map_congr_left fun s hs => joined_of_encodable (h s hs).encodable

/-- A field is no deeper than the record. -/
theorem depth_le_depthFields {k : Str} {j : Json} {fields : List (Str × Json)}
    (h : (k, j) ∈ fields) : depth j ≤ depthFields fields := by
  induction fields with
  | nil => cases h
  | cons f fields ih =>
    rw [depthFields]
    rcases List.mem_cons.1 h with rfl | h
    · exact le_max_left _ _
    · exact (ih h).trans (le_max_right _ _)

/-- An object with a list in it was read within a recursion limit of two. -/
theorem two_le_recursionLimit {d : Dict} {k : Str} {items : List Json} (h : Finds rt text d)
    (hfield : field d k = .arr items) : 2 ≤ rt.recursionLimit := by
  obtain ⟨s, r, hdecode⟩ := h.decoded
  obtain ⟨-, -, hdepth⟩ := rawDecode_iff.1 hdecode
  have hmem : (k, Json.arr items) ∈ d := by
    unfold field at hfield
    cases hget : d.get? k with
    | none =>
      rw [hget] at hfield
      cases hfield
    | some j =>
      rw [hget] at hfield
      obtain rfl : j = .arr items := hfield
      exact Dict.mem_of_get? hget
  have hle := depth_le_depthFields hmem
  have hobj : depth (.obj d) = depthFields d + 1 := rfl
  have harr : depth (.arr items) = depthItems items + 1 := rfl
  omega

/-- **An accepted proposal** is printed and read back as it is. -/
theorem Protocol.ProposalArtifact.printable {a : ProposalArtifact} (h : a.Fits)
    (hlimit : 2 ≤ rt.recursionLimit) : Printable rt a.toDict where
  textual := by
    simp only [ProposalArtifact.toDict, textual, textualFields, textualItems_map_str, Bool.and_self]
  joined := by
    have hkey : ∀ s : String, joined (lit s) = lit s := fun s =>
      joined_of_encodable (encodable_lit s)
    simp only [ProposalArtifact.toDict, joinedJson, joinedFields, hkey, joinedItems_map_str,
      joined_of_encodable h.outcome.encodable, joined_map_of_fits h.evidence.1,
      joined_map_of_fits h.uncertainty.1, joined_map_of_fits h.verification.1]
  distinct := by
    simp only [ProposalArtifact.toDict, distinct, distinctFields, distinctItems_map_str,
      Bool.and_self, Bool.and_true]
    rfl
  depth := by
    simp only [ProposalArtifact.toDict, depth, depthFields, depthItems_map_str]
    exact hlimit

/-- The record of a ballot, field by field. -/
theorem Protocol.JuryArtifact.toDict_eq (a : JuryArtifact) : a.toDict =
    [(lit "winner", (a.decision.winner.map Json.str).getD .null),
      (lit "ranking", .arr (a.decision.ranking.map .str)),
      (lit "confidence", .str a.decision.confidence.name),
      (lit "abstain", .bool a.decision.abstain), (lit "rationale", .str a.rationale),
      (lit "material_disagreements", .arr (a.materialDisagreements.map .str)),
      (lit "verification_needed", .arr (a.verificationNeeded.map .str))] := rfl

/-- Every ballot is text without repeated keys, of nesting two. -/
theorem Protocol.JuryArtifact.shape (a : JuryArtifact) : textual (.obj a.toDict) = true ∧
    distinct (.obj a.toDict) = true ∧ depth (.obj a.toDict) = 2 := by
  rw [a.toDict_eq]
  refine ⟨?_, ?_, ?_⟩
  · simp only [textual, textualFields, textualItems_map_str, Bool.and_self, Bool.and_true]
    cases a.decision.winner <;> rfl
  · simp only [distinct, distinctFields, distinctItems_map_str, Bool.and_self, Bool.and_true]
    cases a.decision.winner <;> rfl
  · simp only [depth, depthFields, depthItems_map_str]
    cases a.decision.winner <;> rfl

/-- The ballot with its labels joined. -/
def Protocol.JuryArtifact.joinLabels (a : JuryArtifact) : JuryArtifact :=
  { a with decision := { a.decision with
      winner := a.decision.winner.map joined
      ranking := a.decision.ranking.map joined } }

/-- **An accepted ballot** is printed and read back with its labels joined. -/
theorem Protocol.JuryArtifact.joined_toDict {a : JuryArtifact} (h : a.Fits labels) :
    joinedJson (.obj a.toDict) = .obj a.joinLabels.toDict := by
  have hkey : ∀ s : String, joined (lit s) = lit s := fun s =>
    joined_of_encodable (encodable_lit s)
  have hconfidence : joined a.decision.confidence.name = a.decision.confidence.name := by
    cases a.decision.confidence <;> exact hkey _
  have hwinner : joinedJson ((a.decision.winner.map Json.str).getD .null) =
      ((a.decision.winner.map joined).map Json.str).getD .null := by
    cases a.decision.winner <;> rfl
  rw [a.toDict_eq, a.joinLabels.toDict_eq]
  simp only [joinedJson, joinedFields, hkey, hconfidence, hwinner, joinedItems_map_str,
    joined_of_encodable h.rationale.encodable, joined_map_of_fits h.disagreements.1,
    joined_map_of_fits h.verification.1]
  rfl

/-- An accepted ballot whose labels are not joined is printed and read back as it is. -/
theorem Protocol.JuryArtifact.printable {a : JuryArtifact} (h : a.Fits labels)
    (hjoined : ∀ l ∈ a.decision.ranking, joined l = l) (hlimit : 2 ≤ rt.recursionLimit) :
    Printable rt a.toDict := by
  have hwinner : a.decision.winner = a.decision.ranking.head? := by
    cases habstain : a.decision.abstain with
    | true =>
      obtain ⟨hwinner, hranking⟩ := h.decision.abstains habstain
      rw [hwinner, hranking]
      rfl
    | false => exact (h.decision.ranks habstain).2.2
  have hranking : a.decision.ranking.map joined = a.decision.ranking := by
    conv_rhs => rw [← List.map_id a.decision.ranking]
    exact List.map_congr_left hjoined
  have hsame : a.joinLabels = a := by
    unfold JuryArtifact.joinLabels
    rw [hwinner, ← List.head?_map, hranking, ← hwinner]
  obtain ⟨htextual, hdistinct, hdepth⟩ := a.shape
  refine ⟨htextual, ?_, hdistinct, hdepth.trans_le hlimit⟩
  rw [JuryArtifact.joined_toDict h, hsame]

/-! ### The round trip -/

/-- The parser returns the artifact for what `json.dumps` prints of it, also in a fence. -/
def RoundTrips {α : Type} (parse : Str → Except PyErr α) (d : Dict) (a : α) : Prop :=
  parse (dumpsAscii (.obj d)) = .ok a ∧ parse (fenced (dumpsAscii (.obj d))) = .ok a

/-- A parser extracts an object and validates it; the object has the expected keys. -/
structure Extracts {α : Type} (rt : Runtime) (parse : Str → Except PyErr α)
    (validate : Dict → Except PyErr α) (expected : List Str) : Prop where
  parse_iff : ∀ {text a}, parse text = .ok a ↔ ∃ d, Finds rt text d ∧ validate d = .ok a
  keys : ∀ {d a}, validate d = .ok a → expected ⊆ d.keys ∧ d.keys ⊆ expected
  nonempty : expected ≠ []
  plain : ∀ k ∈ expected, ¬ Punctuated k

/-- A text that does not begin with punctuation is not punctuated. -/
theorem not_punctuated {k : Str} (h : k.head?.any isPunctuation = false) : ¬ Punctuated k := by
  rintro ⟨c, k', rfl, hc⟩
  rw [List.head?_cons, Option.any_some, hc] at h
  cases h

/-- An artifact is accepted when an object is found and passes its checks. -/
theorem extract_ok {α : Type} {name : Str} {validate : Dict → Except PyErr α} {a : α} :
    (extractJsonObject rt name text >>= validate) = .ok a ↔
      ∃ d, Finds rt text d ∧ validate d = .ok a := by
  simp only [← @extractJsonObject_iff rt text name]
  cases extractJsonObject rt name text with
  | error e => exact ⟨nofun, fun ⟨_, h, _⟩ => nomatch h⟩
  | ok d =>
    constructor
    · exact fun h => ⟨d, rfl, h⟩
    · rintro ⟨d', hd', h⟩
      cases hd'
      exact h

/-- The parser of proposals is the extractor and the checks of a proposal. -/
theorem parseProposal_extracts :
    Extracts rt (parseProposal rt) validateProposalObject proposalKeys where
  parse_iff := extract_ok
  keys h := (validateProposalObject_ok h).2
  nonempty := List.cons_ne_nil _ _
  plain k hk := not_punctuated (by revert k; decide)

/-- The parser of ballots is the extractor and the checks of a ballot, for labels that are valid.
-/
theorem parseJury_extracts (hlabels : validatedLabels labels = .ok ()) :
    Extracts rt (fun text => parseJury rt text labels) (validateJuryObject · labels) juryKeys where
  parse_iff {text a} := by
    have hparse : parseJury rt text labels = (validatedLabels labels >>= fun _ =>
        extractJsonObject rt (lit "jury response") text >>= fun d =>
          validateJuryObject d labels) := rfl
    rw [hparse, hlabels]
    exact extract_ok
  keys h := (validateJuryObject_fits h).2
  nonempty := List.cons_ne_nil _ _
  plain k hk := not_punctuated (by revert k; decide)

/-- A ballot is only accepted for labels that are valid. -/
theorem parseJury_labels {a : JuryArtifact} (h : parseJury rt text labels = .ok a) :
    validatedLabels labels = .ok () := by
  cases hlabels : validatedLabels labels with
  | ok u => rfl
  | error e =>
    unfold parseJury at h
    rw [hlabels] at h
    cases h

/-- **The round trip** of a printable artifact succeeds when its fences cut out no object. -/
theorem Extracts.roundTrips_iff {α : Type} {parse : Str → Except PyErr α}
    {validate : Dict → Except PyErr α} {expected : List Str} {d : Dict} {a : α}
    (h : Extracts rt parse validate expected) (hprint : Printable rt d)
    (hself : validate d = .ok a) :
    RoundTrips parse d a ↔ Undisturbed rt (dumpsAscii (.obj d)) := by
  have hdirect : parse (dumpsAscii (.obj d)) = .ok a := h.parse_iff.2 ⟨d, hprint.finds, hself⟩
  constructor
  · rintro ⟨-, hfenced⟩
    by_contra hdis
    obtain ⟨d', hfinds, hvalid⟩ := h.parse_iff.1 hfenced
    obtain ⟨hexpected, hkeys⟩ := h.keys hvalid
    rcases hprint.finds_disturbed hdis hfinds with rfl | ⟨k, hk, hpunct⟩
    · obtain ⟨k, rest, hk⟩ := List.exists_cons_of_ne_nil h.nonempty
      rw [hk] at hexpected
      exact absurd (hexpected List.mem_cons_self) List.not_mem_nil
    · exact h.plain k (hkeys hk) hpunct
  · exact fun hund => ⟨hdirect, h.parse_iff.2 ⟨d, hprint.finds_fenced hund, hself⟩⟩

/-- An accepted proposal is accepted again from its own text, inside a fence exactly when nothing
in it disturbs the fence. -/
theorem parseProposal_roundTrips {a : ProposalArtifact} (h : parseProposal rt text = .ok a) :
    RoundTrips (parseProposal rt) a.toDict a ↔ Undisturbed rt (dumpsAscii (.obj a.toDict)) := by
  obtain ⟨d, hfinds, hvalid⟩ := parseProposal_extracts.parse_iff.1 h
  have hfits := (validateProposalObject_ok hvalid).1
  have hlimit : 2 ≤ rt.recursionLimit := by
    obtain ⟨items, hitems⟩ := validateProposalObject_evidence hvalid
    exact two_le_recursionLimit hfinds hitems
  exact parseProposal_extracts.roundTrips_iff (ProposalArtifact.printable hfits hlimit)
    (validateProposalObject_self hfits)

/-- Where a label of the ballot is joined, the ballot that is read back differs. -/
theorem parseJury_joined {a : JuryArtifact} (hfits : a.Fits labels)
    (hlimit : 2 ≤ rt.recursionLimit) (hlabels : validatedLabels labels = .ok ())
    (h : parseJury rt (dumpsAscii (.obj a.toDict)) labels = .ok a) :
    ∀ l ∈ a.decision.ranking, joined l = l := by
  obtain ⟨d, hfinds, hvalid⟩ := (parseJury_extracts hlabels).parse_iff.1 h
  obtain ⟨-, hdistinct, hdepth⟩ := a.joinLabels.shape
  obtain rfl : d = a.joinLabels.toDict := hfinds.unique
    (finds_dumpsAscii a.shape.1 (JuryArtifact.joined_toDict hfits) hdistinct
      (hdepth.trans_le hlimit))
  have hranking : Json.arr ((a.decision.ranking.map joined).map .str) =
      .arr (a.decision.ranking.map .str) := (validateJuryObject_ok hvalid).2.2.ranking
  rw [Json.arr.injEq] at hranking
  have hmap := List.map_injective_iff.2 (fun s t hst => Json.str.inj hst) hranking
  intro l hl
  obtain ⟨i, hi, rfl⟩ := List.getElem_of_mem hl
  have hget := List.getElem_of_eq hmap (by rw [List.length_map]; exact hi)
  rw [List.getElem_map] at hget
  exact hget

/-- An accepted ballot is accepted again from its own text, inside a fence exactly when nothing in
it disturbs the fence. -/
theorem parseJury_roundTrips {a : JuryArtifact} (h : parseJury rt text labels = .ok a) :
    RoundTrips (parseJury rt · labels) a.toDict a ↔
      (∀ l ∈ a.decision.ranking, joined l = l) ∧
        Undisturbed rt (dumpsAscii (.obj a.toDict)) := by
  have hlabels := parseJury_labels h
  obtain ⟨d, hfinds, hvalid⟩ := (parseJury_extracts hlabels).parse_iff.1 h
  have hfits := (validateJuryObject_fits hvalid).1
  have hread := (validateJuryObject_ok hvalid).2.2
  have hlimit := two_le_recursionLimit hfinds hread.ranking
  have hself := validateJuryObject_self hlabels hfits
  constructor
  · intro htrips
    have hjoined := parseJury_joined hfits hlimit hlabels htrips.1
    exact ⟨hjoined, ((parseJury_extracts hlabels).roundTrips_iff
      (JuryArtifact.printable hfits hjoined hlimit) hself).1 htrips⟩
  · rintro ⟨hjoined, hund⟩
    exact ((parseJury_extracts hlabels).roundTrips_iff
      (JuryArtifact.printable hfits hjoined hlimit) hself).2 hund

/-! ### Canonicalised ballots -/

/-- A mapping with distinct labels maps them to its providers in order. -/
theorem Mapping.map_provider {mapping : Mapping} (h : mapping.labels.Nodup) :
    mapping.labels.map mapping.provider = mapping.providers := by
  unfold Mapping.labels Mapping.providers
  rw [List.map_map]
  refine List.map_congr_left fun e he => ?_
  have hlookup : mapping.lookup e.1 = some e.2 := by
    have hnodup : (List.map Prod.fst mapping).Nodup := h
    clear h
    induction mapping with
    | nil => cases he
    | cons f mapping ih =>
      rw [List.map_cons, List.nodup_cons] at hnodup
      rcases List.mem_cons.1 he with rfl | he
      · exact List.lookup_cons_self
      · have hne : e.1 ≠ f.1 := fun heq => hnodup.1 (heq ▸ List.mem_map_of_mem he)
        rw [List.lookup_cons, beq_eq_false_iff_ne.2 hne]
        exact ih he hnodup.2
  unfold Mapping.provider
  change (mapping.lookup e.1).getD e.1 = e.2
  rw [hlookup]
  rfl

/-- The canonicalised ballot is one over the providers. -/
theorem canonicalizeJury_fits {mapping : Mapping} {a : JuryArtifact}
    (hlabels : mapping.labels.Nodup) (hproviders : mapping.providers.Nodup)
    (h : a.Fits mapping.labels) : (canonicalizeJury mapping a).Fits mapping.providers where
  decision := by
    constructor
    · intro habstain
      obtain ⟨hwinner, hranking⟩ := h.decision.abstains habstain
      change a.decision.winner.map _ = none ∧ a.decision.ranking.map _ = []
      rw [hwinner, hranking]
      exact ⟨rfl, rfl⟩
    · intro habstain
      obtain ⟨hperm, -, hwinner⟩ := h.decision.ranks habstain
      have hperm' := hperm.map mapping.provider
      rw [Mapping.map_provider hlabels] at hperm'
      change (a.decision.ranking.map _).Perm _ ∧ (a.decision.ranking.map _).Nodup ∧
        a.decision.winner.map _ = (a.decision.ranking.map _).head?
      rw [hwinner, List.head?_map]
      exact ⟨hperm', hperm'.nodup_iff.2 hproviders, rfl⟩
  rationale := h.rationale
  disagreements := h.disagreements
  verification := h.verification

/-- The judgment of a record is the ballot over the providers. -/
theorem judgmentPayload_validJuryRecord (juror : Str) (response : ProviderResponse)
    (mapping : Mapping) (order : List Str) (a : JuryArtifact) :
    judgmentPayload (validJuryRecord juror response mapping order a) =
      .ok (canonicalizeJury mapping a).toDict := rfl

/-- The judgment of a valid record is accepted over the providers, and returned as it is. -/
theorem validJuryRecord_accepted {mapping : Mapping} {a : JuryArtifact}
    (h : parseJury rt text mapping.labels = .ok a)
    (hproviders : validatedLabels mapping.providers = .ok ()) (juror : Str)
    (response : ProviderResponse) (order : List Str) :
    ∃ judgment, judgmentPayload (validJuryRecord juror response mapping order a) = .ok judgment ∧
      judgment = (canonicalizeJury mapping a).toDict ∧
      validateJuryObject judgment mapping.providers = .ok (canonicalizeJury mapping a) := by
  have hlabels := parseJury_labels h
  obtain ⟨d, -, hvalid⟩ := (parseJury_extracts hlabels).parse_iff.1 h
  refine ⟨_, judgmentPayload_validJuryRecord juror response mapping order a, rfl, ?_⟩
  refine validateJuryObject_self hproviders (canonicalizeJury_fits ?_ ?_
    (validateJuryObject_fits hvalid).1)
  · exact (validatedLabels_ok hlabels).2.2
  · exact (validatedLabels_ok hproviders).2.2

/-- **Accepted artifacts round trip**: printed they always do, but for labels that the
decoder joins; in a fence when no fence of a field cuts out an object.  Canonicalised
ballots are accepted over the providers. -/
theorem artifacts_roundTrip (rt : Runtime) (text : Str) (labels : List Str) (mapping : Mapping) :
    (∀ a, parseProposal rt text = .ok a → (RoundTrips (parseProposal rt) a.toDict a ↔
      Undisturbed rt (dumpsAscii (.obj a.toDict)))) ∧
    (∀ a, parseJury rt text labels = .ok a →
      (RoundTrips (parseJury rt · labels) a.toDict a ↔
        (∀ l ∈ a.decision.ranking, joined l = l) ∧
          Undisturbed rt (dumpsAscii (.obj a.toDict)))) ∧
    (validatedLabels mapping.providers = .ok () → ∀ a,
      parseJury rt text mapping.labels = .ok a → ∀ juror response order, ∃ judgment,
        judgmentPayload (validJuryRecord juror response mapping order a) = .ok judgment ∧
        judgment = (canonicalizeJury mapping a).toDict ∧
        validateJuryObject judgment mapping.providers = .ok (canonicalizeJury mapping a)) :=
  ⟨fun _ h => parseProposal_roundTrips h, fun _ h => parseJury_roundTrips h,
    fun hproviders _ h juror response order => validJuryRecord_accepted h hproviders juror
      response order⟩

/-- A proposal that quotes an empty object in a fence. -/
def fencedProposal : ProposalArtifact := ⟨lit "a``` ``` \x7b\x7d ```", [], [], []⟩

/-- The proposal is accepted as printed, and lost in a fence. -/
theorem fencedProposal_lost :
    parseProposal exampleRuntime (dumpsAscii (.obj fencedProposal.toDict)) = .ok fencedProposal ∧
    ¬ RoundTrips (parseProposal exampleRuntime) fencedProposal.toDict fencedProposal := by
  refine ⟨by decide +kernel, fun h => ?_⟩
  have hfenced := h.2
  revert hfenced
  decide +kernel

/-- A proposal whose round trip succeeds, and a ballot. -/
def plainProposal : ProposalArtifact := ⟨lit "Ship it.", [lit "Tests pass."], [], []⟩

def plainBallot : JuryArtifact :=
  ⟨⟨some (candidateLabel 0), [candidateLabel 0, candidateLabel 1], .high, false⟩,
    lit "Clear.", [], []⟩

/-- An ordinary proposal and an ordinary ballot are accepted again in every form. -/
theorem plainArtifacts_roundTrip :
    RoundTrips (parseProposal exampleRuntime) plainProposal.toDict plainProposal ∧
    RoundTrips (parseJury exampleRuntime · [candidateLabel 0, candidateLabel 1])
      plainBallot.toDict plainBallot ∧
    validateJuryObject
      (canonicalizeJury [(candidateLabel 0, lit "a"), (candidateLabel 1, lit "b")]
        plainBallot).toDict [lit "a", lit "b"] =
      .ok (canonicalizeJury [(candidateLabel 0, lit "a"), (candidateLabel 1, lit "b")]
        plainBallot) := by
  have hquiet : ∀ s, (∀ block ∈ fencedBlocks (fenced s).length (fenced s),
      Str.strip block = s) → Undisturbed exampleRuntime s := fun s h block hblock =>
    .inl (h block hblock)
  have hproposal : parseProposal exampleRuntime (dumpsAscii (.obj plainProposal.toDict)) =
      .ok plainProposal := by decide +kernel
  have hballot : parseJury exampleRuntime (dumpsAscii (.obj plainBallot.toDict))
      [candidateLabel 0, candidateLabel 1] = .ok plainBallot := by decide +kernel
  have hmapping := artifacts_roundTrip exampleRuntime (dumpsAscii (.obj plainProposal.toDict))
    [candidateLabel 0, candidateLabel 1] [(candidateLabel 0, lit "a"), (candidateLabel 1, lit "b")]
  have hmapping' := artifacts_roundTrip exampleRuntime (dumpsAscii (.obj plainBallot.toDict))
    [candidateLabel 0, candidateLabel 1] [(candidateLabel 0, lit "a"), (candidateLabel 1, lit "b")]
  refine ⟨(hmapping.1 _ hproposal).2 (hquiet _ (by decide +kernel)),
    (hmapping'.2.1 _ hballot).2 ⟨by decide, hquiet _ (by decide +kernel)⟩, ?_⟩
  obtain ⟨judgment, -, rfl, h⟩ :=
    hmapping'.2.2 (by decide +kernel) _ hballot [] ⟨[], [], none, {}, 0, 1, none, []⟩ []
  exact h

end CouncilLogic
