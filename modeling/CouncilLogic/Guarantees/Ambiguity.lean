/-
# Responses with two objects

A text is ambiguous when reading it from left to right meets two different objects.  The
parsers raise on every ambiguous text but one kind: where the fenced blocks of a text hold
one valid object, all of them the same, it is taken and the objects outside of the fences
are not looked at (`ambiguous_raises_iff`).

The extractor is `_extract_json_object` of `src/model_council/protocol.py`; `parse_jury` there
says in its docstring that ambiguous multiple objects are rejected.  Two objects are different
when their canonical texts are, which is how the source compares them.
-/

import CouncilLogic.Guarantees.RoundTrip
import CouncilLogic.Protocol.Places

namespace CouncilLogic

open Protocol Decode Json

variable {rt : Runtime} {text : Str} {labels : List Str}

/-! ### Ambiguous texts -/

/-- Two different objects stand in the text, neither inside an object. -/
def Ambiguous (rt : Runtime) (text : Str) : Prop :=
  ∃ ps, Reading rt (Str.strip text) ps ∧
    ∃ p ∈ ps, ∃ q ∈ ps, canonicalText p.object ≠ canonicalText q.object

/-- The fenced blocks hold one object, all of them the same, in a text that is searched. -/
structure FencedAlone (rt : Runtime) (text : Str) (p : Place) : Prop where
  searches : Searches rt (Str.strip text)
  bounded : ¬ Exhausts rt text
  alone : Alone (fencedPlaces rt (Str.strip text)) p

/-- An object that stands alone in the fences is taken. -/
theorem FencedAlone.taken {p : Place} (h : FencedAlone rt text p) : Taken rt text p := by
  refine .sought h.searches h.bounded (.fenced fun hnil => ?_) h.alone
  have hlast := h.alone.1
  rw [hnil] at hlast
  cases hlast

/-- No object stands in white space. -/
theorem Decode.Reading.eq_nil_of_blank {s : Str} {ps : List Place} (h : Reading rt s ps)
    (hs : Str.strip s = []) : ps = [] := by
  rw [List.eq_nil_iff_forall_not_mem]
  intro p hp
  obtain ⟨hdecoded, hsuffix⟩ := h.decoded p hp
  obtain ⟨s', hs'⟩ := hdecoded.start_eq
  have hmem : 123 ∈ s := hsuffix.subset (by rw [hs']; exact List.mem_cons_self)
  have hspace := List.all_eq_true.1 (Str.isBlank_iff.2 hs) _ hmem
  cases hspace

/-- **From an ambiguous text** an object is taken only out of a fence. -/
theorem Ambiguous.fencedAlone (h : Ambiguous rt text) {p : Place} (hp : Taken rt text p) :
    FencedAlone rt text p := by
  obtain ⟨ps, hreading, q, hq, q', hq', hne⟩ := h
  cases hp with
  | whole hstart hdecoded hrest =>
    exfalso
    rw [← hstart] at hreading
    have hone : ps = [p] := by
      generalize hs : p.start = s at hreading
      cases hreading with
      | done =>
        obtain ⟨s', hs'⟩ := hdecoded.start_eq
        rw [hs] at hs'
        cases hs'
      | object hdecoded' hreading' =>
        obtain rfl := hdecoded.unique hdecoded' hs
        rw [hreading'.eq_nil_of_blank hrest]
      | past hnot _ => exact absurd hdecoded (hnot p hs)
    rw [hone, List.mem_singleton] at hq hq'
    rw [hq, hq'] at hne
    exact hne rfl
  | sought hsearch hexh hps halone =>
    cases hps with
    | fenced => exact ⟨hsearch, hexh, halone⟩
    | bare _ hreading' =>
      obtain rfl := hreading.unique hreading'
      exact absurd ((halone.2 q hq).trans (halone.2 q' hq').symm) hne

/-- A proposal is accepted when an object is taken from the text and passes its checks. -/
theorem parseProposal_ok_iff {a : ProposalArtifact} : parseProposal rt text = .ok a ↔
    ∃ p, Taken rt text p ∧ validateProposalObject p.object = .ok a := by
  rw [parseProposal_extracts.parse_iff]
  simp only [finds_iff_taken]
  constructor
  · rintro ⟨d, ⟨p, hp, rfl⟩, h⟩
    exact ⟨p, hp, h⟩
  · rintro ⟨p, hp, h⟩
    exact ⟨_, ⟨p, hp, rfl⟩, h⟩

/-- A ballot is accepted when an object is taken from the text and passes its checks. -/
theorem parseJury_ok_iff {a : JuryArtifact} : parseJury rt text labels = .ok a ↔
    ∃ p, Taken rt text p ∧ validateJuryObject p.object labels = .ok a := by
  constructor
  · intro h
    obtain ⟨d, hfinds, hvalid⟩ := (parseJury_extracts (parseJury_labels h)).parse_iff.1 h
    obtain ⟨p, hp, rfl⟩ := finds_iff_taken.1 hfinds
    exact ⟨p, hp, hvalid⟩
  · rintro ⟨p, hp, hvalid⟩
    exact (parseJury_extracts (validateJuryObject_ok hvalid).1).parse_iff.2
      ⟨_, finds_iff_taken.2 ⟨p, hp, rfl⟩, hvalid⟩

/-- A parser that validates what is taken raises on an ambiguous text unless a fence holds
one valid object alone. -/
theorem Ambiguous.raises_iff {α : Type} {parsed : Except PyErr α} (h : Ambiguous rt text)
    (validate : Dict → Except PyErr α)
    (hparse : ∀ a, parsed = .ok a ↔ ∃ p, Taken rt text p ∧ validate p.object = .ok a) :
    (∀ a, parsed ≠ .ok a) ↔ ¬ ∃ p, FencedAlone rt text p ∧ ∃ a, validate p.object = .ok a := by
  constructor
  · rintro hraise ⟨p, hp, a, hvalid⟩
    exact hraise a ((hparse a).2 ⟨p, hp.taken, hvalid⟩)
  · intro hnone a ha
    obtain ⟨p, hp, hvalid⟩ := (hparse a).1 ha
    exact hnone ⟨p, h.fencedAlone hp, a, hvalid⟩

/-- **Ambiguous texts raise** unless their fenced blocks hold one valid object alone. -/
theorem ambiguous_raises_iff (rt : Runtime) (text : Str) (h : Ambiguous rt text) :
    ((∀ a, parseProposal rt text ≠ .ok a) ↔
      ¬ ∃ p, FencedAlone rt text p ∧ ∃ a, validateProposalObject p.object = .ok a) ∧
    (∀ labels, (∀ a, parseJury rt text labels ≠ .ok a) ↔
      ¬ ∃ p, FencedAlone rt text p ∧ ∃ a, validateJuryObject p.object labels = .ok a) :=
  ⟨h.raises_iff _ fun _ => parseProposal_ok_iff,
    fun labels => h.raises_iff (validateJuryObject · labels) fun _ => parseJury_ok_iff⟩

/-! ### A fenced ballot beside a bare one -/

/-- A text in which the search from brace to brace finds two different objects is ambiguous. -/
theorem ambiguous_of_braceObjects {ds : List Dict}
    (h : braceObjects rt ((Str.strip text).length + 1) (Str.strip text) = .ok ds) {d d' : Dict}
    (hd : d ∈ ds) (hd' : d' ∈ ds) (hne : canonicalText d ≠ canonicalText d') :
    Ambiguous rt text := by
  obtain ⟨ps, hreading, rfl⟩ := braceObjects_reading (Nat.lt_succ_self _) h
  obtain ⟨p, hp, rfl⟩ := List.mem_map.1 hd
  obtain ⟨q, hq, rfl⟩ := List.mem_map.1 hd'
  exact ⟨ps, hreading, p, hp, q, hq, hne⟩

/-- The other ballot. -/
def otherBallot : JuryArtifact :=
  ⟨⟨some (candidateLabel 1), [candidateLabel 1, candidateLabel 0], .low, false⟩,
    lit "Better.", [], []⟩

/-- A bare ballot, and another one in a fence. -/
def twoBallots : Str :=
  dumpsAscii (.obj otherBallot.toDict) ++ 10 :: fenced (dumpsAscii (.obj plainBallot.toDict))

/-- Of two different ballots the fenced one is counted. -/
theorem twoBallots_counted : Ambiguous exampleRuntime twoBallots ∧
    parseJury exampleRuntime twoBallots [candidateLabel 0, candidateLabel 1] = .ok plainBallot := by
  have hobjects : braceObjects exampleRuntime ((Str.strip twoBallots).length + 1)
      (Str.strip twoBallots) = .ok [otherBallot.toDict, plainBallot.toDict] := by decide +kernel
  refine ⟨ambiguous_of_braceObjects hobjects List.mem_cons_self
    (List.mem_cons_of_mem _ List.mem_cons_self) (by decide +kernel), by decide +kernel⟩

/-- Two objects in prose. -/
def twoObjects : Str := lit "\x7b\"a\": 1\x7d or \x7b\"a\": 2\x7d"

/-- Two different objects in prose raise. -/
theorem twoObjects_raise : (∀ a, parseProposal exampleRuntime twoObjects ≠ .ok a) ∧
    ∀ a, parseJury exampleRuntime twoObjects [candidateLabel 0] ≠ .ok a := by
  have hobjects : braceObjects exampleRuntime ((Str.strip twoObjects).length + 1)
      (Str.strip twoObjects) = .ok [[(lit "a", .int 1)], [(lit "a", .int 2)]] := by decide +kernel
  have hambiguous : Ambiguous exampleRuntime twoObjects :=
    ambiguous_of_braceObjects hobjects List.mem_cons_self
      (List.mem_cons_of_mem _ List.mem_cons_self) (by decide +kernel)
  have hnone : ∀ p, ¬ FencedAlone exampleRuntime twoObjects p := by
    intro p hp
    have hlast := hp.alone.1
    have hstarts : fencedStarts (Str.strip twoObjects).length (Str.strip twoObjects) = [] := by
      decide +kernel
    unfold fencedPlaces at hlast
    rw [hstarts] at hlast
    cases hlast
  have hraises := ambiguous_raises_iff exampleRuntime _ hambiguous
  exact ⟨hraises.1.2 fun ⟨p, hp, _⟩ => hnone p hp,
    (hraises.2 _).2 fun ⟨p, hp, _⟩ => hnone p hp⟩

end CouncilLogic
