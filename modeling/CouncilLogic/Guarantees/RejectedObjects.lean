/-
# Objects inside rejected objects

The decoder rejects an object that repeats a key, at any depth, but the search of
`_extract_json_object` goes on behind its opening brace and can take an object from inside
it.  In a text that is searched it does so exactly when one object stands there, and its last
occurrence lies inside a rejected object (`takenOutside_iff`); a response that is one object
with a repeated key is a case of this.

The function is `_extract_json_object` of `src/model_council/protocol.py`, whose decoder refuses
an object with a repeated key (`_reject_duplicate_keys`).  The condition is on the objects that
stand in the text, with their places, and not on what the extractor returns.
-/

import CouncilLogic.Guarantees.Ambiguity

namespace CouncilLogic

open Protocol Decode Json

variable {rt : Runtime} {text : Str}

/-! ### Rejected objects -/

/-- A complete object of the text that is rejected for a repeated key, in it or inside it. -/
structure Rejected (rt : Runtime) (s start rest : Str) (pairs : Dict) : Prop where
  suffix : start <:+ s
  reads : Reads rt start (.obj pairs) rest
  repeats : distinct (.obj pairs) = false

/-- The place is inside a rejected object: it starts behind its opening brace, and ends
with it or before. -/
def InsideRejected (rt : Runtime) (s : Str) (p : Place) : Prop :=
  ∃ start rest pairs, Rejected rt s start rest pairs ∧ p.start.length < start.length ∧
    rest.length ≤ p.rest.length

/-- The response is one object, and a key of it is repeated. -/
def Repeats (rt : Runtime) (text : Str) : Prop :=
  ∃ pairs rest, Reads rt (Str.strip text) (.obj pairs) rest ∧ Str.strip rest = [] ∧
    ¬ (pairs.map Prod.fst).Nodup

/-- No object is taken from inside a rejected one, and none from a response that repeats a
key. -/
structure TakenOutside (rt : Runtime) (text : Str) : Prop where
  outside : ∀ p, Taken rt text p → ¬ InsideRejected rt (Str.strip text) p
  whole : Repeats rt text → ∀ name d, extractJsonObject rt name text ≠ .ok d

/-- An object with a repeated key is rejected. -/
theorem not_distinct_of_repeated {pairs : Dict} (h : ¬ (pairs.map Prod.fst).Nodup) :
    distinct (.obj pairs) = false := by
  rw [distinct, decide_eq_false h]
  rfl

/-- An object behind which only white space is left ends the stripped text. -/
theorem eq_nil_of_blank_suffix {rest : Str} (hsuffix : rest <:+ Str.strip text)
    (hblank : Str.strip rest = []) : rest = [] := by
  by_contra hne
  obtain ⟨u, hu⟩ := hsuffix
  have hspace : Str.isSpace (rest.getLast hne) = true :=
    List.all_eq_true.1 (Str.isBlank_iff.2 hblank) _ (List.getLast_mem hne)
  have hself : (Str.strip text).rdropWhile Str.isSpace = Str.strip text :=
    List.rdropWhile_idempotent _ _
  have hne' : Str.strip text ≠ [] := by
    rw [← hu]
    exact List.append_ne_nil_of_right_ne_nil _ hne
  have hlast := List.rdropWhile_eq_self_iff.1 hself hne'
  have hsame : (Str.strip text).getLast hne' = rest.getLast hne := by
    simp only [← hu]
    exact List.getLast_append_of_ne_nil _ hne
  rw [hsame] at hlast
  exact hlast hspace

/-- Whatever is taken from a response that repeats a key is inside it. -/
theorem Repeats.insideRejected (h : Repeats rt text) {p : Place} (hp : Taken rt text p) :
    InsideRejected rt (Str.strip text) p := by
  obtain ⟨pairs, rest, hreads, hblank, hrepeats⟩ := h
  have hrejected : distinct (.obj pairs) = false := not_distinct_of_repeated hrepeats
  have hne : p.Decoded rt → p.start ≠ Str.strip text := by
    intro hdecoded hstart
    obtain ⟨hreads', hdistinct, -⟩ := rawDecode_iff.1 hdecoded
    rw [hstart] at hreads'
    rw [(hreads'.unique hreads).1, hrejected] at hdistinct
    cases hdistinct
  cases hp with
  | whole hstart hdecoded _ => exact absurd hstart (hne hdecoded)
  | sought _ _ hps halone =>
    obtain ⟨hdecoded, hsuffix⟩ := hps.decoded p (List.mem_of_getLast? halone.1)
    refine ⟨_, _, pairs, ⟨List.suffix_rfl, hreads, hrejected⟩, ?_, ?_⟩
    · refine lt_of_le_of_ne hsuffix.length_le fun hlength => ?_
      exact hne hdecoded (hsuffix.eq_of_length hlength)
    · rw [eq_nil_of_blank_suffix hreads.suffix hblank]
      exact Nat.zero_le _

/-! ### The objects of a text -/

/-- The objects that stand in a text: those of its fenced blocks or, where no block holds an
object, those that are met when the text is read from left to right. -/
inductive Stands (rt : Runtime) (s : Str) : Place → Prop
  | fenced {p : Place} (hp : p ∈ fencedPlaces rt s) : Stands rt s p
  | bare {ps : List Place} {p : Place} (h : fencedPlaces rt s = []) (hreading : Reading rt s ps)
      (hp : p ∈ ps) : Stands rt s p

/-- The text as a whole is a JSON value, and not `null`. -/
def IsJson (rt : Runtime) (text : Str) : Prop :=
  ∃ j, decodeCompleteJson rt (Str.strip text) = .ok j ∧ j ≠ .null

/-- The objects that are sought are those that stand in the text. -/
theorem Decode.Sought.mem_iff {ps : List Place} (h : Sought rt text ps) (p : Place) :
    p ∈ ps ↔ Stands rt (Str.strip text) p := by
  constructor
  · intro hp
    cases h with
    | fenced => exact .fenced hp
    | bare hnil hreading => exact .bare hnil hreading hp
  · intro hp
    cases hp with
    | fenced hp =>
      rw [h.unique (.fenced (List.ne_nil_of_mem hp))]
      exact hp
    | bare hnil hreading hp =>
      rw [h.unique (.bare hnil hreading)]
      exact hp

/-- A text in which an object stands is searched to its end. -/
theorem Stands.sought {p : Place} (h : Stands rt (Str.strip text) p) : ∃ ps, Sought rt text ps := by
  cases h with
  | fenced hp => exact ⟨_, .fenced (List.ne_nil_of_mem hp)⟩
  | bare hnil hreading _ => exact ⟨_, .bare hnil hreading⟩

/-- A text that is no JSON value, and whose nesting is not too deep, is searched. -/
theorem searches_of_not_isJson (hjson : ¬ IsJson rt text) (hexh : ¬ Exhausts rt text) :
    Searches rt (Str.strip text) := by
  cases hwhole : decodeCompleteJson rt (Str.strip text) with
  | error e =>
    cases e with
    | value => exact .inl hwhole
    | recursion => exact absurd (.inl hwhole) hexh
  | ok j =>
    by_cases hnull : j = .null
    · exact .inr (hwhole.trans (congrArg Except.ok hnull))
    · exact absurd ⟨j, hwhole, hnull⟩ hjson

/-- A text that is searched is no JSON text as a whole. -/
theorem not_isJson_of_searches (h : Searches rt (Str.strip text)) : ¬ IsJson rt text := by
  rintro ⟨j, hj, hne⟩
  rcases h with h | h <;> rw [h] at hj <;> cases hj
  exact hne rfl

/-- The last of the objects that are sought starts behind all others. -/
theorem start_le_of_getLast? {ps : List Place} {p q : Place}
    (h : ps.Pairwise fun p q => q.start.length < p.start.length) (hlast : ps.getLast? = some p)
    (hq : q ∈ ps) : q = p ∨ p.start.length < q.start.length := by
  obtain ⟨init, rfl⟩ := List.getLast?_eq_some_iff.1 hlast
  rcases List.mem_append.1 hq with hq | hq
  · exact .inr ((List.pairwise_append.1 h).2.2 q hq p (List.mem_singleton_self p))
  · exact .inl (List.mem_singleton.1 hq)

/-- **Nothing is taken from inside a rejected object** exactly when the text as a whole is
JSON, or nests too deep, or two different objects stand in it, or behind each object that
stands inside a rejected one there stands an object outside of them all. -/
theorem takenOutside_iff (rt : Runtime) (text : Str) : TakenOutside rt text ↔
    IsJson rt text ∨ Exhausts rt text ∨
      (∃ p q, Stands rt (Str.strip text) p ∧ Stands rt (Str.strip text) q ∧
        canonicalText p.object ≠ canonicalText q.object) ∨
      ∀ p, Stands rt (Str.strip text) p → InsideRejected rt (Str.strip text) p →
        ∃ q, Stands rt (Str.strip text) q ∧ q.start.length < p.start.length ∧
          ¬ InsideRejected rt (Str.strip text) q := by
  constructor
  · intro h
    by_cases hjson : IsJson rt text
    · exact .inl hjson
    by_cases hexh : Exhausts rt text
    · exact .inr (.inl hexh)
    refine .inr (.inr (or_iff_not_imp_left.2 fun hsame p hp hinside => ?_))
    obtain ⟨ps, hps⟩ := hp.sought
    have hmem := (hps.mem_iff p).2 hp
    obtain ⟨l, hlast⟩ : ∃ l, ps.getLast? = some l :=
      ⟨_, List.getLast?_eq_some_getLast (List.ne_nil_of_mem hmem)⟩
    have hl := (hps.mem_iff l).1 (List.mem_of_getLast? hlast)
    have hout : ¬ InsideRejected rt (Str.strip text) l := by
      refine h.outside l (.sought (searches_of_not_isJson hjson hexh) hexh hps ⟨hlast, ?_⟩)
      intro q hq
      by_contra hne
      exact hsame ⟨q, l, (hps.mem_iff q).1 hq, hl, hne⟩
    rcases start_le_of_getLast? hps.ordered hlast hmem with rfl | hlt
    · exact absurd hinside hout
    · exact ⟨l, hl, hlt, hout⟩
  · intro h
    have houtside : ∀ p, Taken rt text p → ¬ InsideRejected rt (Str.strip text) p := by
      intro p hp hinside
      cases hp with
      | whole hstart _ _ =>
        obtain ⟨start, rest, pairs, hrejected, hlt, -⟩ := hinside
        have hle := hrejected.suffix.length_le
        rw [hstart] at hlt
        omega
      | sought hsearch hexh hps halone =>
        have hmem := List.mem_of_getLast? halone.1
        rcases h with hjson | hdeep | ⟨q, q', hq, hq', hne⟩ | hbehind
        · exact not_isJson_of_searches hsearch hjson
        · exact hexh hdeep
        · rw [← hps.mem_iff] at hq hq'
          exact hne ((halone.2 q hq).trans (halone.2 q' hq').symm)
        · obtain ⟨q, hq, hlt, -⟩ := hbehind p ((hps.mem_iff p).1 hmem) hinside
          rcases start_le_of_getLast? hps.ordered halone.1 ((hps.mem_iff q).2 hq) with rfl | hgt
          · omega
          · omega
    refine ⟨houtside, fun hrepeats name d hd => ?_⟩
    obtain ⟨p, hp, -⟩ := extractJsonObject_taken.1 hd
    exact houtside p hp (hrepeats.insideRejected hp)

/-- Where no object of the text repeats a key, nothing is taken from inside a rejected
one. -/
theorem takenOutside_of_distinct (h : ∀ start rest pairs, start <:+ Str.strip text →
    Reads rt start (.obj pairs) rest → distinct (.obj pairs) = true) : TakenOutside rt text := by
  refine (takenOutside_iff rt text).2 (.inr (.inr (.inr fun p _ hinside => ?_)))
  obtain ⟨start, rest, pairs, hrejected, -⟩ := hinside
  have hdistinct := h start rest pairs hrejected.suffix hrejected.reads
  rw [hrejected.repeats] at hdistinct
  cases hdistinct

/-! ### A ballot under a repeated key -/

/-- An object that repeats a key, the second time with a ballot. -/
def repeatedKey : Dict := [(lit "note", .null), (lit "note", .obj plainBallot.toDict)]

/-- The ballot inside the rejected response is counted. -/
theorem repeatedKey_counted :
    parseJury exampleRuntime (dumpsAscii (.obj repeatedKey)) [candidateLabel 0, candidateLabel 1] =
      .ok plainBallot ∧
    ¬ (∀ p, Taken exampleRuntime (dumpsAscii (.obj repeatedKey)) p →
      ¬ InsideRejected exampleRuntime (Str.strip (dumpsAscii (.obj repeatedKey))) p) ∧
    ¬ (Repeats exampleRuntime (dumpsAscii (.obj repeatedKey)) →
      ∀ name d, extractJsonObject exampleRuntime name (dumpsAscii (.obj repeatedKey)) ≠ .ok d) := by
  have hparse : parseJury exampleRuntime (dumpsAscii (.obj repeatedKey))
      [candidateLabel 0, candidateLabel 1] = .ok plainBallot := by decide +kernel
  have hreads : Reads exampleRuntime (dumpsAscii (.obj repeatedKey) ++ [])
      (joinedJson (.obj repeatedKey)) [] := reads_dumpsAscii _ _ (by decide)
  have hrepeats : Repeats exampleRuntime (dumpsAscii (.obj repeatedKey)) := by
    refine ⟨joinedFields repeatedKey, [], ?_, rfl, by decide +kernel⟩
    rw [List.append_nil] at hreads
    rw [strip_dumpsAscii]
    exact hreads
  obtain ⟨p, hp, -⟩ := parseJury_ok_iff.1 hparse
  refine ⟨hparse, fun h => h p hp (hrepeats.insideRejected hp), fun h => ?_⟩
  exact h hrepeats [] p.object (extractJsonObject_taken.2 ⟨p, hp, rfl⟩)

end CouncilLogic
