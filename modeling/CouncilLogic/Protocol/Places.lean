/-
# Where the objects of a text stand

A text is read from left to right: where an object can be decoded it is taken as a whole
and the reading goes on behind it, elsewhere one character is passed (`Reading`).  The
objects at the braces of `_extract_json_object` are those of the reading; the objects of
its fenced blocks have places of their own (`fencedPlaces`).  What the extractor returns is
taken from one place (`extractJsonObject_taken`).

The object that `parse_jury` takes from a response is one of the objects that stand in the text,
but which ones the extractor looks at depends on the way: a fenced block hides the objects outside
of it, and the whole text hides everything.  Places make that a statement about the text, so that
"another object stood there" can be said of what the juror wrote and not of what the code
collected.
-/

import CouncilLogic.Protocol.Fences

namespace CouncilLogic
namespace Decode

open Protocol

variable {rt : Runtime} {s text name : Str} {d : Dict}

/-! ### Reading from left to right -/

/-- An object in a text: the text from its opening brace on, the object, and the text
behind its closing brace. -/
structure Place where
  start : Str
  object : Dict
  rest : Str

/-- The object is decoded at its place. -/
def Place.Decoded (rt : Runtime) (p : Place) : Prop :=
  rawDecode rt p.start = .ok (.obj p.object, p.rest)

/-- The objects of a text, read from left to right. -/
inductive Reading (rt : Runtime) : Str → List Place → Prop
  | done : Reading rt [] []
  | object {p : Place} {ps : List Place} (h : p.Decoded rt) (hrest : Reading rt p.rest ps) :
      Reading rt p.start (p :: ps)
  | past {c : ℕ} {s : Str} {ps : List Place}
      (h : ∀ p : Place, p.start = c :: s → ¬ p.Decoded rt) (hrest : Reading rt s ps) :
      Reading rt (c :: s) ps

/-- At a decoded place JSON text of the object begins. -/
theorem Place.Decoded.reads {p : Place} (h : p.Decoded rt) :
    Reads rt p.start (.obj p.object) p.rest :=
  (rawDecode_iff.1 h).1

/-- An object starts with a brace. -/
theorem Place.Decoded.start_eq {p : Place} (h : p.Decoded rt) : ∃ s, p.start = 123 :: s := by
  obtain ⟨start, object, rest⟩ := p
  have hreads : Reads rt start (.obj object) rest := h.reads
  cases hreads with
  | objNil => exact ⟨_, rfl⟩
  | obj => exact ⟨_, rfl⟩
  | atom _ _ _ hatom => exact absurd rfl ((scanAtom_isAtom hatom).2 object)

/-- The place is determined by where it starts. -/
theorem Place.Decoded.unique {p q : Place} (h : p.Decoded rt) (h' : q.Decoded rt)
    (hstart : p.start = q.start) : p = q := by
  obtain ⟨start, object, rest⟩ := p
  obtain ⟨start', object', rest'⟩ := q
  obtain rfl : start = start' := hstart
  unfold Place.Decoded at h h'
  dsimp only at h h'
  rw [h] at h'
  cases h'
  rfl

/-- An object takes at least one character. -/
theorem Place.Decoded.rest_lt {p : Place} (h : p.Decoded rt) : p.rest.length < p.start.length :=
  h.reads.length_lt

/-- What follows an object is an end of the text it begins in. -/
theorem Place.Decoded.rest_suffix {p : Place} (h : p.Decoded rt) : p.rest <:+ p.start :=
  h.reads.suffix

/-- **A text has one reading.** -/
theorem Reading.unique {ps qs : List Place} (h : Reading rt s ps) (h' : Reading rt s qs) :
    ps = qs := by
  induction h generalizing qs with
  | done =>
    generalize hs : ([] : Str) = s at h'
    cases h' with
    | done => rfl
    | object hq _ =>
      obtain ⟨c, hstart⟩ := hq.start_eq
      rw [← hs] at hstart
      cases hstart
    | past => cases hs
  | @object p ps hp _ ih =>
    obtain ⟨c, hstart⟩ := hp.start_eq
    generalize hs : p.start = s at h'
    cases h' with
    | done =>
      rw [hs] at hstart
      cases hstart
    | @object q qs hq hrest =>
      obtain rfl := hp.unique hq hs
      rw [ih hrest]
    | past hnot _ => exact absurd hp (hnot p hs)
  | @past c s ps hnot _ ih =>
    generalize hs : c :: s = s' at h'
    cases h' with
    | done => cases hs
    | object hq _ => exact absurd hq (hnot _ hs.symm)
    | past _ hrest =>
      obtain ⟨-, rfl⟩ := List.cons.inj hs
      exact ih hrest

/-- All places of a reading are decoded, and lie in the text. -/
theorem Reading.decoded {ps : List Place} (h : Reading rt s ps) :
    ∀ p ∈ ps, p.Decoded rt ∧ p.start <:+ s := by
  induction h with
  | done => exact fun _ hp => nomatch hp
  | @object p ps hp _ ih =>
    intro q hq
    rcases List.mem_cons.1 hq with rfl | hq
    · exact ⟨hp, List.suffix_rfl⟩
    · exact ⟨(ih q hq).1, (ih q hq).2.trans hp.rest_suffix⟩
  | past _ _ ih => exact fun p hp => ⟨(ih p hp).1, (ih p hp).2.trans (List.suffix_cons _ _)⟩

/-- Text before a brace is passed. -/
theorem Reading.of_dropWhile {ps : List Place} (h : Reading rt (s.dropWhile (· != 123)) ps) :
    Reading rt s ps := by
  induction s with
  | nil => exact h
  | cons c s ih =>
    rw [List.dropWhile_cons] at h
    split at h
    · rename_i hc
      refine .past (fun p hstart hp => ?_) (ih h)
      obtain ⟨s', hs'⟩ := hp.start_eq
      rw [hstart] at hs'
      obtain rfl := (List.cons.inj hs').1
      cases hc
    · exact h

/-- **The objects at the braces** are those of the reading. -/
theorem braceObjects_reading {fuel : ℕ} {ds : List Dict} (hfuel : s.length < fuel)
    (h : braceObjects rt fuel s = .ok ds) : ∃ ps, Reading rt s ps ∧ ps.map Place.object = ds := by
  induction fuel generalizing s ds with
  | zero => exact absurd hfuel (Nat.not_lt_zero _)
  | succ fuel ih =>
    have hle := (List.dropWhile_sublist (· != 123) (l := s)).length_le
    rw [braceObjects] at h
    split at h
    · rename_i hnil
      cases h
      refine ⟨[], Reading.of_dropWhile ?_, rfl⟩
      rw [hnil]
      exact .done
    · rename_i start rest hstart
      rw [hstart, List.length_cons] at hle
      split at h
      · cases h
      · rename_i hdecode
        obtain ⟨ps, hps, rfl⟩ := ih (by omega) h
        refine ⟨ps, Reading.of_dropWhile ?_, rfl⟩
        rw [hstart]
        refine .past (fun p hp hdecoded => ?_) hps
        unfold Place.Decoded at hdecoded
        rw [hp, hdecode] at hdecoded
        cases hdecoded
      · rename_i d after hdecode
        have hp : Place.Decoded rt ⟨start :: rest, d, after⟩ := hdecode
        have hlt : after.length < rest.length + 1 := hp.rest_lt
        cases hrest : braceObjects rt fuel after with
        | error e =>
          rw [hrest] at h
          cases h
        | ok ds' =>
          rw [hrest] at h
          cases h
          obtain ⟨ps, hps, rfl⟩ := ih (by omega) hrest
          refine ⟨⟨start :: rest, d, after⟩ :: ps, Reading.of_dropWhile ?_, rfl⟩
          rw [hstart]
          exact .object hp hps
      · rename_i j after hobj hdecode
        have hbrace : start = 123 := by
          have hhead := List.head?_dropWhile_not (· != 123) s
          rw [hstart] at hhead
          simpa using hhead
        subst hbrace
        have hreads := (rawDecode_iff.1 hdecode).1
        cases hreads with
        | objNil => exact absurd rfl (hobj _)
        | obj => exact absurd rfl (hobj _)
        | atom _ hne _ _ => exact absurd rfl hne

/-- The objects of a reading stand one behind the other. -/
theorem Reading.ordered {ps : List Place} (h : Reading rt s ps) :
    ps.Pairwise fun p q => q.start.length < p.start.length := by
  induction h with
  | done => exact .nil
  | @object p ps hp hrest ih =>
    refine .cons (fun q hq => ?_) ih
    exact (hrest.decoded q hq).2.length_le.trans_lt hp.rest_lt
  | past _ _ ih => exact ih

/-! ### Fenced places -/

/-- Where the fenced blocks of a text start. -/
def fencedStarts : ℕ → Str → List Str
  | 0, _ => []
  | fuel + 1, s =>
    match splitFence s with
    | none => []
    | some (_, inner) =>
      match splitFence (Str.lstrip (dropJsonTag inner)) with
      | none => []
      | some (_, rest) => Str.lstrip (dropJsonTag inner) :: fencedStarts fuel rest

/-- The block up to the next fence. -/
def blockBody (start : Str) : Str := ((splitFence start).map Prod.fst).getD []

/-- The object of the block that starts there. -/
def fencedPlace (rt : Runtime) (start : Str) : Option Place :=
  match blockObject rt (blockBody start), rawDecode rt start with
  | some _, .ok (.obj d, rest) => some ⟨start, d, rest⟩
  | _, _ => none

/-- The objects of the fenced blocks of a text. -/
def fencedPlaces (rt : Runtime) (s : Str) : List Place :=
  (fencedStarts s.length s).filterMap (fencedPlace rt)

/-- The fenced blocks are the bodies behind their opening fences. -/
theorem fencedBlocks_eq (fuel : ℕ) (s : Str) :
    fencedBlocks fuel s = (fencedStarts fuel s).map blockBody := by
  induction fuel generalizing s with
  | zero => rfl
  | succ fuel ih =>
    rw [fencedBlocks, fencedStarts]
    cases hopen : splitFence s with
    | none => rfl
    | some w =>
      dsimp only
      cases hclose : splitFence (Str.lstrip (dropJsonTag w.2)) with
      | none => rfl
      | some w' =>
        have hbody : blockBody (Str.lstrip (dropJsonTag w.2)) = w'.1 := by
          unfold blockBody
          rw [hclose]
          rfl
        rw [List.map_cons, hbody, ← ih]

/-- Passing the tag leaves an end of the text. -/
theorem dropJsonTag_suffix (s : Str) : dropJsonTag s <:+ s := by
  unfold dropJsonTag
  split
  · split
    · exact ⟨[_, _, _, _], rfl⟩
    · exact List.suffix_rfl
  · exact List.suffix_rfl

/-- A block starts in the text, behind its white space, and its body is a beginning of what
follows. -/
theorem fencedStarts_mem {fuel : ℕ} {start : Str} (h : start ∈ fencedStarts fuel s) :
    start <:+ s ∧ Str.lstrip start = start ∧ blockBody start <+: start := by
  induction fuel generalizing s with
  | zero => cases h
  | succ fuel ih =>
    rw [fencedStarts] at h
    split at h
    · cases h
    rename_i u inner hopen
    split at h
    · cases h
    rename_i body rest hclose
    have hopen' := splitFence_sound hopen
    have hinner : inner <:+ s := ⟨u ++ fence, by rw [hopen', List.append_assoc]⟩
    have hstart : Str.lstrip (dropJsonTag inner) <:+ s :=
      ((List.dropWhile_suffix _).trans (dropJsonTag_suffix inner)).trans hinner
    have hclose' := splitFence_sound hclose
    rcases List.mem_cons.1 h with rfl | h
    · refine ⟨hstart, List.dropWhile_idempotent _ _, ?_⟩
      unfold blockBody
      rw [hclose]
      exact ⟨fence ++ rest, hclose'.symm⟩
    · obtain ⟨hsuffix, hl, hbody⟩ := ih h
      refine ⟨hsuffix.trans (List.IsSuffix.trans ⟨body ++ fence, ?_⟩ hstart), hl, hbody⟩
      rw [hclose', List.append_assoc]

/-- The blocks start one behind the other. -/
theorem fencedStarts_ordered (fuel : ℕ) (s : Str) :
    (fencedStarts fuel s).Pairwise fun start later => later.length < start.length := by
  induction fuel generalizing s with
  | zero => exact .nil
  | succ fuel ih =>
    rw [fencedStarts]
    split
    · exact .nil
    rename_i u inner hopen
    split
    · exact .nil
    rename_i body rest hclose
    refine .cons (fun later hlater => ?_) (ih rest)
    have hle := (fencedStarts_mem hlater).1.length_le
    have hlength := congrArg List.length (splitFence_sound hclose)
    rw [List.length_append, List.length_append] at hlength
    have hfence : 0 < fence.length := by decide
    omega

/-- An object is decoded whatever follows it. -/
theorem rawDecode_append {r : Str} (h : rawDecode rt s = .ok (.obj d, r)) (x : Str) :
    rawDecode rt (s ++ x) = .ok (.obj d, r ++ x) := by
  obtain ⟨hreads, hdistinct, hdepth⟩ := rawDecode_iff.1 h
  exact rawDecode_iff.2 ⟨hreads.append x (.inl fun hatom => hatom.2 d rfl), hdistinct, hdepth⟩

/-- **The object of a fenced block** is decoded where the block starts. -/
theorem fencedPlace_object {start : Str} (hl : Str.lstrip start = start)
    (hbody : blockBody start <+: start) :
    (fencedPlace rt start).map Place.object = blockObject rt (blockBody start) := by
  cases hblock : blockObject rt (blockBody start) with
  | none =>
    unfold fencedPlace
    rw [hblock]
    rfl
  | some d =>
    obtain ⟨r, hraw, -⟩ := decodeCompleteJson_ok.1 (blockObject_eq_some.1 hblock)
    rw [lstrip_strip] at hraw
    have hlstrip := lstrip_of_begins hl hbody
    obtain ⟨x, hx⟩ := hbody
    obtain ⟨y, hy⟩ : Str.strip (blockBody start) <+: blockBody start := by
      unfold Str.strip
      rw [hlstrip]
      exact List.rdropWhile_prefix _ _
    have hdecode := rawDecode_append hraw (y ++ x)
    rw [← List.append_assoc, hy, hx] at hdecode
    unfold fencedPlace
    rw [hblock, hdecode]
    rfl

/-- The objects of the fenced places are those of the blocks. -/
theorem fencedPlaces_objects (rt : Runtime) (s : Str) :
    (fencedPlaces rt s).map Place.object =
      (fencedBlocks s.length s).filterMap (blockObject rt) := by
  rw [fencedBlocks_eq, fencedPlaces, List.filterMap_map, List.map_filterMap]
  refine List.filterMap_congr fun start hstart => ?_
  obtain ⟨-, hl, hbody⟩ := fencedStarts_mem hstart
  exact fencedPlace_object hl hbody

/-- The places of the fenced blocks are decoded, and lie in the text. -/
theorem fencedPlaces_decoded {p : Place} (h : p ∈ fencedPlaces rt s) :
    p.Decoded rt ∧ p.start <:+ s := by
  obtain ⟨start, hstart, hp⟩ := List.mem_filterMap.1 h
  unfold fencedPlace at hp
  split at hp
  · rename_i hdecode
    cases hp
    exact ⟨hdecode, (fencedStarts_mem hstart).1⟩
  · cases hp

/-- The objects of the fenced blocks stand one behind the other. -/
theorem fencedPlaces_ordered (rt : Runtime) (s : Str) :
    (fencedPlaces rt s).Pairwise fun p q => q.start.length < p.start.length := by
  have hstart : ∀ {start : Str} {p : Place}, fencedPlace rt start = some p → p.start = start := by
    intro start p hp
    unfold fencedPlace at hp
    split at hp <;> cases hp
    rfl
  refine (fencedStarts_ordered s.length s).filterMap _ fun start later hlt p hp q hq => ?_
  rw [hstart hp, hstart hq]
  exact hlt

/-! ### Where the extracted object is taken -/

/-- All objects are the same, and this is the last of them. -/
def Alone (ps : List Place) (p : Place) : Prop :=
  ps.getLast? = some p ∧ ∀ q ∈ ps, canonicalText q.object = canonicalText p.object

/-- The objects among which one is sought: of the fenced blocks, or else of the reading. -/
inductive Sought (rt : Runtime) (text : Str) : List Place → Prop
  | fenced (h : fencedPlaces rt (Str.strip text) ≠ []) :
      Sought rt text (fencedPlaces rt (Str.strip text))
  | bare {ps : List Place} (h : fencedPlaces rt (Str.strip text) = [])
      (hreading : Reading rt (Str.strip text) ps) : Sought rt text ps

/-- The place the extracted object is taken from. -/
inductive Taken (rt : Runtime) (text : Str) : Place → Prop
  | whole {p : Place} (hstart : p.start = Str.strip text) (hp : p.Decoded rt)
      (hrest : Str.strip p.rest = []) : Taken rt text p
  | sought {ps : List Place} {p : Place} (hsearch : Searches rt (Str.strip text))
      (hexh : ¬ Exhausts rt text) (hps : Sought rt text ps) (halone : Alone ps p) :
      Taken rt text p

/-- A text is searched at one list of places only. -/
theorem Sought.unique {ps qs : List Place} (h : Sought rt text ps) (h' : Sought rt text qs) :
    ps = qs := by
  cases h with
  | fenced hne =>
    cases h' with
    | fenced => rfl
    | bare hnil => exact absurd hnil hne
  | bare hnil hreading =>
    cases h' with
    | fenced hne => exact absurd hnil hne
    | bare _ hreading' => exact hreading.unique hreading'

/-- The places that are searched are decoded, and lie in the stripped text. -/
theorem Sought.decoded {ps : List Place} (h : Sought rt text ps) :
    ∀ p ∈ ps, p.Decoded rt ∧ p.start <:+ Str.strip text := by
  cases h with
  | fenced => exact fun p hp => fencedPlaces_decoded hp
  | bare _ hreading => exact hreading.decoded

/-- The objects that are sought stand one behind the other. -/
theorem Sought.ordered {ps : List Place} (h : Sought rt text ps) :
    ps.Pairwise fun p q => q.start.length < p.start.length := by
  cases h with
  | fenced => exact fencedPlaces_ordered _ _
  | bare _ hreading => exact hreading.ordered

/-- **The candidates** are the objects that are sought, unless the recursion runs out. -/
theorem candidates_ok {ds : List Dict} (h : candidates rt (Str.strip text) = .ok ds) :
    ∃ ps, Sought rt text ps ∧ ps.map Place.object = ds := by
  unfold candidates at h
  split at h
  · cases h
  rename_i objects hobjects
  obtain ⟨-, hobjects⟩ := fencedObjects_ok.1 hobjects
  rw [← fencedPlaces_objects] at hobjects
  split at h
  · rename_i hnil
    rw [hnil, List.map_eq_nil_iff] at hobjects
    obtain ⟨ps, hreading, hds⟩ := braceObjects_reading (Nat.lt_succ_self _) h
    exact ⟨ps, .bare hobjects hreading, hds⟩
  · rename_i hne
    cases h
    refine ⟨_, .fenced fun hnil => hne ?_, hobjects⟩
    rw [← hobjects, hnil]
    rfl

/-- One object is left among the candidates exactly when all places hold it. -/
theorem sole_iff_alone {ps : List Place} :
    Sole (ps.map Place.object) d ↔ ∃ p, Alone ps p ∧ p.object = d := by
  unfold Sole Alone
  rw [List.getLast?_map, Option.map_eq_some_iff]
  constructor
  · rintro ⟨⟨p, hp, rfl⟩, hall⟩
    exact ⟨p, ⟨hp, fun q hq => hall _ (List.mem_map_of_mem hq)⟩, rfl⟩
  · rintro ⟨p, ⟨hp, hall⟩, rfl⟩
    refine ⟨⟨p, hp, rfl⟩, fun d' hd' => ?_⟩
    obtain ⟨q, hq, rfl⟩ := List.mem_map.1 hd'
    exact hall q hq

/-- **What is found** is the object at the place it is taken from. -/
theorem finds_iff_taken : Finds rt text d ↔ ∃ p, Taken rt text p ∧ p.object = d := by
  constructor
  · intro h
    cases h with
    | whole hwhole =>
      obtain ⟨r, hraw, hr⟩ := decodeCompleteJson_ok.1 hwhole
      rw [lstrip_strip] at hraw
      exact ⟨⟨Str.strip text, d, r⟩, .whole rfl hraw hr, rfl⟩
    | sole hsearch hds hsole =>
      obtain ⟨ps, hps, rfl⟩ := candidates_ok hds
      obtain ⟨p, halone, rfl⟩ := sole_iff_alone.1 hsole
      refine ⟨p, .sought hsearch (fun hexh => ?_) hps halone, rfl⟩
      exact hexh.not_finds (.sole hsearch hds hsole)
  · rintro ⟨p, hp, rfl⟩
    cases hp with
    | whole hstart hdecoded hrest =>
      refine .whole (decodeCompleteJson_ok.2 ⟨p.rest, ?_, hrest⟩)
      rw [lstrip_strip, ← hstart]
      exact hdecoded
    | sought hsearch hexh hps halone =>
      cases hds : candidates rt (Str.strip text) with
      | error e =>
        rw [candidates_error hds] at hds
        exact absurd (.inr ⟨hsearch, hds⟩) hexh
      | ok ds =>
        obtain ⟨qs, hqs, rfl⟩ := candidates_ok hds
        obtain rfl := hps.unique hqs
        exact .sole hsearch hds (sole_iff_alone.2 ⟨p, halone, rfl⟩)

/-- **The extracted object** is taken from a place in the text. -/
theorem extractJsonObject_taken :
    extractJsonObject rt name text = .ok d ↔ ∃ p, Taken rt text p ∧ p.object = d :=
  extractJsonObject_iff.trans finds_iff_taken

end Decode
end CouncilLogic
