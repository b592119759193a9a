/-
# Fences inside a printed value

A printed value has its backquotes inside its strings, and behind a closing quote comes a
comma, a colon or a closing bracket (`wellQuoted_dumpsAscii`).  So a fenced block that
starts at a fence of the printed value starts inside a string, and an object that is read
there is empty or has a key that starts with one of these characters
(`StartsInside.punctuated`): it is none of the objects the protocol asks for.

A model is asked for its ballot as JSON in a fenced block, and `src/model_council/protocol.py`
cuts the block out at the first fence behind the opening one, wherever that stands.  A proposal's
text may itself contain a fence, inside a string; then the block ends there and what is cut out is
no JSON.  The module says exactly what happens: the printed object is found in its fence when no
block that starts inside of it disturbs (`Printable.finds_fenced`), and what disturbs is never an
object with the keys of the protocol.
-/

import CouncilLogic.Protocol.Extract
import CouncilLogic.Protocol.Printed

namespace CouncilLogic
namespace Decode

open Json Protocol

variable {rt : Runtime}

/-! ### Inside and outside of strings -/

/-- Where a position of a printed value is: outside its strings, inside one, or right
behind one. -/
inductive Quoting
  | outside
  | inside
  | closed

/-- What may follow a string. -/
def isPunctuation (c : ℕ) : Bool := c == 44 || c == 58 || c == 93 || c == 125

/-- The rest of a printed value at a place: backquotes are inside strings, and punctuation
follows each string. -/
def wellQuoted : Quoting → Str → Bool
  | .outside, [] => true
  | .outside, 34 :: s => wellQuoted .inside s
  | .outside, c :: s => c != 96 && wellQuoted .outside s
  | .inside, [] => false
  | .inside, 34 :: s => wellQuoted .closed s
  | .inside, 92 :: _ :: s => wellQuoted .inside s
  | .inside, _ :: s => wellQuoted .inside s
  | .closed, [] => false
  | .closed, c :: s => isPunctuation c && wellQuoted .outside s

/-- Inside a string an ordinary character is passed. -/
theorem wellQuoted_inside_cons {c : ℕ} {s : Str} (hquote : c ≠ 34) (hslash : c ≠ 92) :
    wellQuoted .inside (c :: s) = wellQuoted .inside s := by
  rw [wellQuoted]
  · exact hquote
  · intro d s' heq
    exact absurd heq hslash

/-- A digit of an escape is neither a quote nor a backslash. -/
theorem hexDigit_ne (d : ℕ) : escape.hexDigit d ≠ 34 ∧ (d < 16 → escape.hexDigit d ≠ 92) := by
  unfold escape.hexDigit
  split <;> omega

/-- An escape `\uXXXX` is passed inside a string. -/
theorem wellQuoted_escapeUnit {u : ℕ} (hu : u < 0x10000) (t : Str) :
    wellQuoted .inside (escapeUnit u ++ t) = wellQuoted .inside t := by
  have hdigit : ∀ {d : ℕ} (_ : d < 16) (s : Str),
      wellQuoted .inside (escape.hexDigit d :: s) = wellQuoted .inside s := fun hd s =>
    wellQuoted_inside_cons (hexDigit_ne _).1 ((hexDigit_ne _).2 hd)
  unfold escapeUnit
  simp only [List.cons_append, List.nil_append]
  rw [wellQuoted, hdigit (by omega), hdigit (by omega), hdigit (by omega), hdigit (by omega)]

/-- What the default printer writes for a character is passed inside a string. -/
theorem wellQuoted_escapeAscii (c : ℕ) (t : Str) :
    wellQuoted .inside (escapeAscii c ++ t) = wellQuoted .inside t := by
  cases escaped c with
  | letter hc _ _ =>
    rw [hc]
    rfl
  | raw hc hquote hslash _ _ =>
    rw [hc]
    exact wellQuoted_inside_cons hquote hslash
  | unit hc hbasic =>
    rw [hc]
    exact wellQuoted_escapeUnit hbasic t
  | pair hc hu hv _ _ _ =>
    rw [hc, List.append_assoc, wellQuoted_escapeUnit hu, wellQuoted_escapeUnit hv]

/-- A printed string is opened and closed, and what follows is judged behind its closing quote. -/
theorem wellQuoted_dumpsAsciiStr (s r : Str) :
    wellQuoted .outside (dumpsAsciiStr s ++ r) = wellQuoted .closed r := by
  have hbody : wellQuoted .inside (s.flatMap escapeAscii ++ 34 :: r) = wellQuoted .closed r := by
    induction s with
    | nil => rfl
    | cons c s ih => rw [List.flatMap_cons, List.append_assoc, wellQuoted_escapeAscii, ih]
  rw [dumpsAsciiStr, List.cons_append, List.append_assoc]
  exact hbody

/-- The text may follow any value. -/
def Follows (r : Str) : Prop := wellQuoted .outside r = true ∧ wellQuoted .closed r = true

/-- Behind a closing quote, punctuation is what may follow. -/
theorem follows_cons {c : ℕ} {r : Str} (hc : isPunctuation c = true)
    (h : wellQuoted .outside r = true) : Follows (c :: r) := by
  have hquote : c ≠ 34 := by
    rintro rfl
    cases hc
  have hback : (c != 96) = true := by
    rw [bne_iff_ne]
    rintro rfl
    cases hc
  refine ⟨?_, ?_⟩
  · rw [wellQuoted, hback, h]
    · rfl
    · exact hquote
  · rw [wellQuoted, hc, h]
    rfl

mutual
/-- **A printed value** is well quoted. -/
theorem wellQuoted_dumpsAscii : ∀ (j : Json) (r : Str), textual j = true → Follows r →
    wellQuoted .outside (dumpsAscii j ++ r) = true
  | .null, r, _, hr => hr.1
  | .bool true, r, _, hr => hr.1
  | .bool false, r, _, hr => hr.1
  | .str s, r, _, hr => by
    rw [dumpsAscii, wellQuoted_dumpsAsciiStr]
    exact hr.2
  | .arr [], r, _, hr => hr.1
  | .arr (j :: js), r, h, hr => by
    rw [textual, textualItems, Bool.and_eq_true] at h
    rw [dumpsAscii, List.append_assoc, List.append_assoc, List.append_assoc]
    exact wellQuoted_dumpsAsciiItems j js r h.1 h.2 hr.1
  | .obj fields, r, h, hr => wellQuoted_dumpsAsciiObj fields r h hr.1
termination_by j => (sizeOf j, 1)

/-- A printed object is quoted well, if what follows it is. -/
theorem wellQuoted_dumpsAsciiObj : ∀ (fields : List (Str × Json)) (r : Str),
    textual (.obj fields) = true → wellQuoted .outside r = true →
    wellQuoted .outside (dumpsAscii (.obj fields) ++ r) = true
  | [], r, _, hr => hr
  | (k, j) :: fs, r, h, hr => by
    rw [textual, textualFields, Bool.and_eq_true] at h
    rw [dumpsAscii, List.append_assoc, List.append_assoc, List.append_assoc, List.append_assoc,
      List.append_assoc]
    exact wellQuoted_dumpsAsciiFields k j fs r h.1 h.2 hr
termination_by fields => (sizeOf (Json.obj fields), 0)

/-- The printed items of a list are quoted well, if what follows their bracket is. -/
theorem wellQuoted_dumpsAsciiItems : ∀ (j : Json) (js : List Json) (r : Str), textual j = true →
    textualItems js = true → wellQuoted .outside r = true →
    wellQuoted .outside (dumpsAscii j ++ (dumpsAsciiItems js ++ 93 :: r)) = true
  | j, [], r, h, _, hr => wellQuoted_dumpsAscii j _ h (follows_cons rfl hr)
  | j, j' :: js, r, h, h', hr => by
    rw [textualItems, Bool.and_eq_true] at h'
    have hitems := wellQuoted_dumpsAsciiItems j' js r h'.1 h'.2 hr
    rw [dumpsAsciiItems, List.append_assoc, List.append_assoc]
    exact wellQuoted_dumpsAscii j _ h (follows_cons rfl hitems)
termination_by j js => (sizeOf (j :: js), 0)

/-- The printed fields of an object are quoted well, if what follows their brace is. -/
theorem wellQuoted_dumpsAsciiFields : ∀ (k : Str) (j : Json) (fs : List (Str × Json)) (r : Str),
    textual j = true → textualFields fs = true → wellQuoted .outside r = true →
    wellQuoted .outside (dumpsAsciiStr k ++ (lit ": " ++ (dumpsAscii j ++
      (dumpsAsciiFields fs ++ 125 :: r)))) = true
  | k, j, [], r, h, _, hr => by
    rw [wellQuoted_dumpsAsciiStr]
    exact wellQuoted_dumpsAscii j _ h (follows_cons rfl hr)
  | k, j, (k', j') :: fs, r, h, h', hr => by
    rw [textualFields, Bool.and_eq_true] at h'
    have hfields := wellQuoted_dumpsAsciiFields k' j' fs r h'.1 h'.2 hr
    rw [wellQuoted_dumpsAsciiStr]
    rw [dumpsAsciiFields, List.append_assoc, List.append_assoc, List.append_assoc,
      List.append_assoc]
    exact wellQuoted_dumpsAscii j _ h (follows_cons rfl hfields)
termination_by k j fs => (sizeOf ((k, j) :: fs), 0)
end

/-- Behind a backquote we are inside a string. -/
theorem wellQuoted_backquote {p : Quoting} {u v : Str} (h : wellQuoted p (u ++ 96 :: v) = true) :
    wellQuoted .inside v = true := by
  generalize hs : u ++ 96 :: v = s at h
  fun_induction wellQuoted p s generalizing u with
  | case1 => simp at hs
  | case2 s ih =>
    cases u with
    | nil => cases hs
    | cons c u => exact ih (List.cons.inj hs).2 h
  | case3 c s hc ih =>
    rw [Bool.and_eq_true] at h
    cases u with
    | nil =>
      obtain rfl := (List.cons.inj hs).1
      cases h.1
    | cons c u => exact ih (List.cons.inj hs).2 h.2
  | case4 => simp at hs
  | case5 s ih =>
    cases u with
    | nil => cases hs
    | cons c u => exact ih (List.cons.inj hs).2 h
  | case6 c s ih =>
    cases u with
    | nil => cases hs
    | cons d u =>
      obtain ⟨-, hs⟩ := List.cons.inj hs
      cases u with
      | nil =>
        obtain ⟨-, rfl⟩ := List.cons.inj hs
        exact h
      | cons d u => exact ih (List.cons.inj hs).2 h
  | case7 c s hquote hslash ih =>
    cases u with
    | nil =>
      obtain ⟨-, rfl⟩ := List.cons.inj hs
      exact h
    | cons d u => exact ih (List.cons.inj hs).2 h
  | case8 => simp at hs
  | case9 c s ih =>
    rw [Bool.and_eq_true] at h
    cases u with
    | nil =>
      obtain rfl := (List.cons.inj hs).1
      cases h.1
    | cons c u => exact ih (List.cons.inj hs).2 h.2

/-! ### Splitting at fences -/

/-- Three backquotes. -/
def fence : Str := [96, 96, 96]

/-- A text that starts with a fence is split there. -/
theorem splitFence_fence (s : Str) : splitFence (fence ++ s) = some ([], s) := rfl

/-- Away from a fence, the split goes on behind the first character. -/
theorem splitFence_cons {c : ℕ} {s : Str} (h : ¬ fence <+: c :: s) :
    splitFence (c :: s) = (splitFence s).map fun (body, after) => (c :: body, after) := by
  rw [splitFence]
  intro rest hc hs
  refine h ⟨rest, ?_⟩
  rw [hc, hs]
  rfl

/-- What is split at a fence is what stands before it and behind it. -/
theorem splitFence_sound {s u v : Str} (h : splitFence s = some (u, v)) :
    s = u ++ (fence ++ v) := by
  induction s generalizing u with
  | nil => cases h
  | cons c s ih =>
    by_cases hf : fence <+: c :: s
    · obtain ⟨rest, hrest⟩ := hf
      rw [← hrest, splitFence_fence] at h
      cases h
      exact hrest.symm
    · rw [splitFence_cons hf, Option.map_eq_some_iff] at h
      obtain ⟨⟨body, after⟩, hsplit, heq⟩ := h
      cases heq
      rw [ih hsplit]
      rfl

/-- Text that is appended does not move the first fence. -/
theorem splitFence_append {s u v : Str} (h : splitFence s = some (u, v)) (x : Str) :
    splitFence (s ++ x) = some (u, v ++ x) := by
  induction s generalizing u with
  | nil => cases h
  | cons c s ih =>
    by_cases hf : fence <+: c :: s
    · obtain ⟨rest, hrest⟩ := hf
      rw [← hrest, splitFence_fence] at h
      cases h
      rw [← hrest, List.append_assoc, splitFence_fence]
    · rw [splitFence_cons hf, Option.map_eq_some_iff] at h
      obtain ⟨⟨body, after⟩, hsplit, heq⟩ := h
      cases heq
      have hf' : ¬ fence <+: c :: s ++ x := by
        intro hbegins
        refine hf (List.prefix_of_prefix_length_le hbegins (List.prefix_append _ _) ?_)
        rw [splitFence_sound hsplit]
        simp only [fence, List.length_append, List.length_cons]
        omega
      rw [List.cons_append] at hf' ⊢
      rw [splitFence_cons hf', ih hsplit]
      rfl

/-- What stands around a printed value at the end of a fenced response. -/
def fenceEnd : Str := 10 :: fence

/-- A text without a fence ends at the next line's fence. -/
theorem splitFence_fenceEnd {s : Str} (h : splitFence s = none) :
    splitFence (s ++ fenceEnd) = some (s ++ [10], []) := by
  induction s with
  | nil => rfl
  | cons c s ih =>
    have hf : ¬ fence <+: c :: s := by
      rintro ⟨rest, hrest⟩
      rw [← hrest, splitFence_fence] at h
      cases h
    rw [splitFence_cons hf, Option.map_eq_none_iff] at h
    have hf' : ¬ fence <+: c :: s ++ fenceEnd := by
      intro hbegins
      rcases s with - | ⟨d, - | ⟨e, s⟩⟩
      · revert hbegins
        simp [fence, fenceEnd]
      · revert hbegins
        simp [fence, fenceEnd]
      · exact hf (List.prefix_of_prefix_length_le hbegins (List.prefix_append _ _)
          (by simp [fence]))
    rw [List.cons_append] at hf' ⊢
    rw [splitFence_cons hf', ih h]
    rfl

/-! ### Blocks that start inside a string -/

/-- The text is the rest of a printed value from inside a string on, and what follows it. -/
def Within (x : Str) : Prop := ∃ q, x = q ++ fenceEnd ∧ wellQuoted .inside q = true

/-- A block that starts inside a string of a printed value. -/
def StartsInside (s : Str) : Prop := ∃ rest, Within (s ++ rest)

/-- One character on, inside a string, is still inside it. -/
theorem Within.tail {c : ℕ} {x : Str} (h : Within (c :: x)) (hquote : c ≠ 34) (hslash : c ≠ 92) :
    Within x := by
  obtain ⟨q, heq, hq⟩ := h
  cases q with
  | nil => cases hq
  | cons d q =>
    obtain ⟨rfl, rfl⟩ := List.cons.inj heq
    rw [wellQuoted_inside_cons hquote hslash] at hq
    exact ⟨q, rfl, hq⟩

/-- Behind the quote that closes the string there is punctuation. -/
theorem Within.quote {x : Str} (h : Within (34 :: x)) :
    ∃ c x', x = c :: x' ∧ isPunctuation c = true := by
  obtain ⟨q, heq, hq⟩ := h
  cases q with
  | nil => cases hq
  | cons d q =>
    obtain ⟨rfl, rfl⟩ := List.cons.inj heq
    rw [wellQuoted] at hq
    cases q with
    | nil => cases hq
    | cons c q =>
      rw [wellQuoted, Bool.and_eq_true] at hq
      exact ⟨c, _, rfl, hq.1⟩

/-- Passing characters that are neither quotes nor backslashes stays inside the string. -/
theorem Within.dropWhile {x : Str} {p : ℕ → Bool} (hp : ∀ c, p c = true → c ≠ 34 ∧ c ≠ 92)
    (h : Within x) : Within (x.dropWhile p) := by
  induction x with
  | nil => exact h
  | cons c x ih =>
    rw [List.dropWhile_cons]
    split
    · rename_i hc
      exact ih (h.tail (hp c hc).1 (hp c hc).2)
    · exact h

/-- White space is neither a quote nor a backslash. -/
theorem isSpace_ne {c : ℕ} (h : Str.isSpace c = true) : c ≠ 34 ∧ c ≠ 92 := by
  constructor
  all_goals
    rintro rfl
    cases h

/-- The white space of JSON is neither a quote nor a backslash. -/
theorem isWs_ne {c : ℕ} (h : isWs c = true) : c ≠ 34 ∧ c ≠ 92 := by
  constructor
  all_goals
    rintro rfl
    cases h

/-- Passing the tag `json` behind a fence stays inside the string. -/
theorem Within.dropJsonTag {x : Str} (h : Within x) : Within (dropJsonTag x) := by
  unfold Decode.dropJsonTag
  split
  · rename_i a b c d rest
    split
    · rename_i htag
      obtain ⟨ha, hb, hc, hd⟩ := htag
      exact (((h.tail (by omega) (by omega)).tail (by omega) (by omega)).tail (by omega)
        (by omega)).tail (by omega) (by omega)
    · exact h
  · exact h

/-- Behind a fence of a text that continues a printed value we are inside a string, or the
text is at its end. -/
theorem splitFence_within {p : Quoting} {q u v : Str} (hq : wellQuoted p q = true)
    (h : splitFence (q ++ fenceEnd) = some (u, v)) :
    v = [] ∨ ∃ q', v = q' ++ fenceEnd ∧ wellQuoted .inside q' = true := by
  cases hsplit : splitFence q with
  | none =>
    rw [splitFence_fenceEnd hsplit] at h
    cases h
    exact .inl rfl
  | some w =>
    obtain ⟨u', v'⟩ := w
    rw [splitFence_append hsplit] at h
    cases h
    rw [splitFence_sound hsplit] at hq
    refine .inr ⟨v', rfl, ?_⟩
    exact wellQuoted_backquote (u := []) (wellQuoted_backquote (u := [])
      (wellQuoted_backquote (u := u) hq))

/-- **The blocks at the fences of a printed value** start inside its strings. -/
theorem fencedBlocks_startsInside {p : Quoting} {q : Str} (hq : wellQuoted p q = true) (fuel : ℕ) :
    ∀ block ∈ fencedBlocks fuel (q ++ fenceEnd), StartsInside block := by
  have hnil : ∀ fuel, fencedBlocks fuel [] = [] := by
    intro fuel
    cases fuel <;> rfl
  induction fuel generalizing p q with
  | zero => exact fun _ hblock => nomatch hblock
  | succ fuel ih =>
    intro block hblock
    rw [fencedBlocks] at hblock
    split at hblock
    · cases hblock
    rename_i u inner hopen
    rcases splitFence_within hq hopen with rfl | ⟨q', rfl, hq'⟩
    · cases hblock
    have hwithin : Within (Str.lstrip (dropJsonTag (q' ++ fenceEnd))) :=
      (Within.dropJsonTag ⟨q', rfl, hq'⟩).dropWhile fun c hc => isSpace_ne hc
    obtain ⟨q'', heq, hq''⟩ := hwithin
    rw [heq] at hblock
    split at hblock
    · cases hblock
    rename_i body rest hclose
    rcases List.mem_cons.1 hblock with rfl | hblock
    · refine ⟨fence ++ rest, q'', ?_, hq''⟩
      rw [splitFence_sound hclose]
    · rcases splitFence_within hq'' hclose with rfl | ⟨q₃, rfl, hq₃⟩
      · rw [hnil] at hblock
        cases hblock
      · exact ih hq₃ block hblock

/-- The beginning of a block that starts inside a string starts inside it. -/
theorem StartsInside.of_begins {s t : Str} (h : StartsInside s) (ht : t <+: s) :
    StartsInside t := by
  obtain ⟨rest, hrest⟩ := h
  obtain ⟨x, rfl⟩ := ht
  rw [List.append_assoc] at hrest
  exact ⟨_, hrest⟩

/-- A block that starts inside a string starts inside it one character on. -/
theorem StartsInside.tail {c : ℕ} {s : Str} (h : StartsInside (c :: s)) (hquote : c ≠ 34)
    (hslash : c ≠ 92) : StartsInside s := by
  obtain ⟨rest, hrest⟩ := h
  exact ⟨rest, Within.tail hrest hquote hslash⟩

/-- A block that starts inside a string starts inside it behind its white space. -/
theorem StartsInside.dropWhile {s : Str} {p : ℕ → Bool} (hp : ∀ c, p c = true → c ≠ 34 ∧ c ≠ 92)
    (h : StartsInside s) : StartsInside (s.dropWhile p) := by
  induction s with
  | nil => exact h
  | cons c s ih =>
    rw [List.dropWhile_cons]
    split
    · rename_i hc
      exact ih (h.tail (hp c hc).1 (hp c hc).2)
    · exact h

/-- A block that starts inside a string does so after stripping. -/
theorem StartsInside.strip {s : Str} (h : StartsInside s) : StartsInside (Str.strip s) :=
  (h.dropWhile fun _ hc => isSpace_ne hc).of_begins (List.rdropWhile_prefix _ _)

/-- A key that starts with punctuation. -/
def Punctuated (k : Str) : Prop := ∃ c k', k = c :: k' ∧ isPunctuation c = true

/-- A string that starts with punctuation is read as such. -/
theorem scanString_punctuated {c : ℕ} {s t r : Str} (hc : isPunctuation c = true)
    (h : scanString (c :: s) = .ok (t, r)) : Punctuated t := by
  have hne : c ≠ 34 ∧ c ≠ 92 := by
    constructor
    all_goals
      rintro rfl
      cases hc
  rw [scanString] at h
  · split at h
    · cases h
    · obtain ⟨t', -, rfl⟩ := bind_scan_ok h
      exact ⟨c, t', rfl, hc⟩
  · exact hne.1
  · intro a b c' d e f g h' rest heq
    exact absurd heq hne.2
  · intro a b c' d rest heq
    exact absurd heq hne.2
  · intro c' rest heq
    exact absurd heq hne.2

/-- **An object read from inside a string** is empty or has a punctuated key. -/
theorem StartsInside.punctuated {s r : Str} {d : Dict} (h : StartsInside s)
    (hreads : Reads rt s (.obj d) r) : d = [] ∨ ∃ k ∈ d.keys, Punctuated k := by
  have hquote : ∀ {s : Str}, StartsInside (34 :: s) → s ≠ [] →
      ∃ c s', s = c :: s' ∧ isPunctuation c = true := by
    rintro s ⟨rest, hrest⟩ hne
    obtain ⟨c, x, heq, hc⟩ := Within.quote hrest
    obtain ⟨d, s', rfl⟩ := List.exists_cons_of_ne_nil hne
    obtain ⟨rfl, -⟩ := List.cons.inj heq
    exact ⟨d, s', rfl, hc⟩
  have hkey : ∀ {s key s₁ : Str}, StartsInside (34 :: s) → scanString s = .ok (key, s₁) →
      Punctuated key := by
    intro s key s₁ hs hscan
    have hne : s ≠ [] := by
      rintro rfl
      cases hscan
    obtain ⟨c, s', rfl, hc⟩ := hquote hs hne
    exact scanString_punctuated hc hscan
  cases hreads with
  | objNil => exact .inl rfl
  | obj hfields =>
    have hinside := (h.tail (by decide) (by decide)).dropWhile fun _ hc => isWs_ne hc
    generalize hs : skipWs _ = s at hfields
    have hs' : StartsInside s := hs ▸ hinside
    right
    cases hfields with
    | last hscan _ _ _ => exact ⟨_, List.mem_cons_self, hkey hs' hscan⟩
    | more hscan _ _ _ _ => exact ⟨_, List.mem_cons_self, hkey hs' hscan⟩
  | atom _ _ _ hatom => exact absurd rfl ((scanAtom_isAtom hatom).2 d)

/-! ### A printed object in a fence -/

/-- A text inside a Markdown code fence. -/
def fenced (s : Str) : Str := lit "```json\n" ++ (s ++ fenceEnd)

/-- The dictionary is printed and read back as it is, within the recursion limit. -/
structure Printable (rt : Runtime) (d : Dict) : Prop where
  textual : Json.textual (.obj d) = true
  joined : joinedJson (.obj d) = .obj d
  distinct : Decode.distinct (.obj d) = true
  depth : Decode.depth (.obj d) ≤ rt.recursionLimit

variable {d : Dict}

/-- A printed object begins with a brace and ends with one. -/
theorem dumpsAscii_obj (d : Dict) : ∃ s, dumpsAscii (.obj d) = 123 :: s ∧
    ∃ t, dumpsAscii (.obj d) = t ++ [125] := by
  cases d with
  | nil => exact ⟨_, rfl, [123], rfl⟩
  | cons f d =>
    obtain ⟨k, j⟩ := f
    refine ⟨_, rfl, lit "\x7b" ++ (dumpsAsciiStr k ++ (lit ": " ++ (dumpsAscii j ++
      dumpsAsciiFields d))), ?_⟩
    rw [dumpsAscii, List.append_assoc, List.append_assoc, List.append_assoc, List.append_assoc]
    rfl

/-- A printed object has no white space at its ends. -/
theorem strip_dumpsAscii (d : Dict) : Str.strip (dumpsAscii (.obj d)) = dumpsAscii (.obj d) := by
  obtain ⟨s, hs, t, ht⟩ := dumpsAscii_obj d
  refine strip_eq_self (fun c hc => ?_) (fun c hc => ?_)
  · rw [hs] at hc
    cases hc
    rfl
  · rw [ht, List.getLast?_concat] at hc
    cases hc
    rfl

/-- A printed object begins with no white space. -/
theorem lstrip_dumpsAscii (d : Dict) (r : Str) :
    Str.lstrip (dumpsAscii (.obj d) ++ r) = dumpsAscii (.obj d) ++ r := by
  obtain ⟨s, hs, -⟩ := dumpsAscii_obj d
  rw [hs]
  rfl

/-- A printable object is read back from its text, whatever follows. -/
theorem Printable.reads (h : Printable rt d) (r : Str) :
    Reads rt (dumpsAscii (.obj d) ++ r) (.obj d) r := by
  have hreads : Reads rt (dumpsAscii (.obj d) ++ r) (joinedJson (.obj d)) r :=
    reads_dumpsAscii _ r h.textual
  rw [h.joined] at hreads
  exact hreads

/-- The decoder reads a printable object back, and leaves what follows. -/
theorem Printable.rawDecode (h : Printable rt d) (r : Str) :
    rawDecode rt (dumpsAscii (.obj d) ++ r) = .ok (.obj d, r) :=
  rawDecode_iff.2 ⟨h.reads r, h.distinct, h.depth⟩

/-- A printed object with only white space behind it is decoded as a whole. -/
theorem Printable.decode (h : Printable rt d) {r : Str} (hr : Str.strip r = []) :
    decodeCompleteJson rt (dumpsAscii (.obj d) ++ r) = .ok (.obj d) := by
  unfold decodeCompleteJson
  rw [lstrip_dumpsAscii, h.rawDecode]
  exact if_pos hr

/-- **A printed object** is found in its text, joined. -/
theorem finds_dumpsAscii {d' : Dict} (htextual : Json.textual (.obj d) = true)
    (hjoined : joinedJson (.obj d) = .obj d') (hdistinct : Decode.distinct (.obj d') = true)
    (hdepth : Decode.depth (.obj d') ≤ rt.recursionLimit) :
    Finds rt (dumpsAscii (.obj d)) d' := by
  have hreads : Reads rt (dumpsAscii (.obj d) ++ []) (joinedJson (.obj d)) [] :=
    reads_dumpsAscii _ [] htextual
  have hlstrip := lstrip_dumpsAscii d []
  rw [List.append_nil] at hreads hlstrip
  rw [hjoined] at hreads
  refine .whole (decodeCompleteJson_ok.2 ⟨[], ?_, rfl⟩)
  rw [strip_dumpsAscii, hlstrip]
  exact rawDecode_iff.2 ⟨hreads, hdistinct, hdepth⟩

/-- A printed object alone is found, as the whole text. -/
theorem Printable.finds (h : Printable rt d) : Finds rt (dumpsAscii (.obj d)) d :=
  finds_dumpsAscii h.textual h.joined h.distinct h.depth

/-- A fenced text has no white space around it. -/
theorem strip_fenced (s : Str) : Str.strip (fenced s) = fenced s := by
  have hlast : fenced s = (lit "```json\n" ++ (s ++ [10, 96, 96])) ++ [96] := by
    unfold fenced fenceEnd fence
    rw [List.append_assoc, List.append_assoc]
    rfl
  refine strip_eq_self (fun c hc => ?_) (fun c hc => ?_)
  · cases hc
    rfl
  · rw [hlast, List.getLast?_concat] at hc
    cases hc
    rfl

/-- A fence is no JSON. -/
theorem searches_fenced (s : Str) : Searches rt (fenced s) := .inl rfl

/-- The blocks of a fenced printed object: the object, or what its own fences cut it into. -/
theorem fencedBlocks_fenced (d : Dict) :
    ∃ fuel, fencedBlocks (fenced (dumpsAscii (.obj d))).length (fenced (dumpsAscii (.obj d))) =
      match splitFence (dumpsAscii (.obj d)) with
      | none => [dumpsAscii (.obj d) ++ [10]]
      | some (u, v) => u :: fencedBlocks fuel (v ++ fenceEnd) := by
  obtain ⟨fuel, hfuel⟩ : ∃ fuel, (fenced (dumpsAscii (.obj d))).length = fuel + 1 :=
    ⟨_, rfl⟩
  refine ⟨fuel, ?_⟩
  rw [hfuel, fencedBlocks]
  have hopen : splitFence (fenced (dumpsAscii (.obj d))) =
      some ([], lit "json\n" ++ (dumpsAscii (.obj d) ++ fenceEnd)) := rfl
  have htag : dropJsonTag (lit "json\n" ++ (dumpsAscii (.obj d) ++ fenceEnd)) =
      10 :: (dumpsAscii (.obj d) ++ fenceEnd) := rfl
  have hspace : Str.lstrip (10 :: (dumpsAscii (.obj d) ++ fenceEnd)) =
      dumpsAscii (.obj d) ++ fenceEnd := lstrip_dumpsAscii d fenceEnd
  rw [hopen]
  dsimp only
  rw [htag, hspace]
  cases hsplit : splitFence (dumpsAscii (.obj d)) with
  | none =>
    rw [splitFence_fenceEnd hsplit]
    cases fuel <;> rfl
  | some w =>
    obtain ⟨u, v⟩ := w
    rw [splitFence_append hsplit]

/-- The fenced block is a JSON object, or nests beyond the recursion limit. -/
def HoldsObject (rt : Runtime) (block : Str) : Prop :=
  decodeCompleteJson rt (Str.strip block) = .error .recursion ∨
    ∃ d, blockObject rt block = some d

/-- In the fenced text no block but the text itself holds an object. -/
def Undisturbed (rt : Runtime) (s : Str) : Prop :=
  ∀ block ∈ fencedBlocks (fenced s).length (fenced s),
    Str.strip block = s ∨ ¬ HoldsObject rt block

/-- What a fence cuts off of a printed object is not the object. -/
theorem strip_ne_of_split {u v : Str} (h : splitFence (dumpsAscii (.obj d)) = some (u, v)) :
    ¬ Str.strip u = dumpsAscii (.obj d) := by
  intro heq
  have hlength := congrArg List.length (splitFence_sound h)
  have hle := (Str.strip_sublist u).length_le
  rw [heq, hlength] at hle
  simp only [fence, List.length_append, List.length_cons] at hle
  omega

/-- What is cut off holds no object. -/
theorem Printable.blockObject_cut (h : Printable rt d) {u v : Str}
    (hsplit : splitFence (dumpsAscii (.obj d)) = some (u, v)) : blockObject rt u = none := by
  rw [Option.eq_none_iff_forall_ne_some]
  intro d' hd'
  have hsound := splitFence_sound hsplit
  have hlstrip : Str.lstrip u = u := by
    have hwhole := lstrip_dumpsAscii d []
    rw [List.append_nil] at hwhole
    exact lstrip_of_begins hwhole ⟨_, hsound.symm⟩
  obtain ⟨x, hx⟩ : Str.strip u <+: u := by
    have hbegins := List.rdropWhile_prefix Str.isSpace (Str.lstrip u)
    rw [hlstrip] at hbegins
    unfold Str.strip
    rw [hlstrip]
    exact hbegins
  obtain ⟨r, hraw, -⟩ := decodeCompleteJson_ok.1 (blockObject_eq_some.1 hd')
  rw [lstrip_strip] at hraw
  have hreads := ((rawDecode_iff.1 hraw).1.append (x ++ (fence ++ v))
    (.inl fun hatom => hatom.2 d' rfl))
  rw [← List.append_assoc, hx, ← hsound] at hreads
  have hwhole := h.reads []
  rw [List.append_nil] at hwhole
  have hnil := (hreads.unique hwhole).2
  simp [fence] at hnil

/-- What a block inside a printed object holds is empty or has a punctuated key. -/
theorem blockObject_within {p : Quoting} {q : Str} (hq : wellQuoted p q = true) {fuel : ℕ}
    {block : Str} {d' : Dict} (hmem : block ∈ fencedBlocks fuel (q ++ fenceEnd))
    (h : blockObject rt block = some d') : d' = [] ∨ ∃ k ∈ d'.keys, Punctuated k := by
  obtain ⟨r, hraw, -⟩ := decodeCompleteJson_ok.1 (blockObject_eq_some.1 h)
  rw [lstrip_strip] at hraw
  exact (fencedBlocks_startsInside hq fuel block hmem).strip.punctuated (rawDecode_iff.1 hraw).1

/-- The candidates of a fenced text are the objects of its blocks, unless there are none. -/
theorem candidates_fenced {s : Str} {ds : List Dict} (h : candidates rt (fenced s) = .ok ds) :
    (∀ block ∈ fencedBlocks (fenced s).length (fenced s),
      decodeCompleteJson rt (Str.strip block) ≠ .error .recursion) ∧
    (ds = (fencedBlocks (fenced s).length (fenced s)).filterMap (blockObject rt) ∨
      (fencedBlocks (fenced s).length (fenced s)).filterMap (blockObject rt) = []) := by
  unfold candidates at h
  split at h
  · cases h
  rename_i objects hobjects
  obtain ⟨hall, rfl⟩ := fencedObjects_ok.1 hobjects
  refine ⟨hall, ?_⟩
  split at h
  · rename_i hnil
    exact .inr hnil
  · cases h
    exact .inl rfl

/-- Passing the tag makes no text longer. -/
theorem length_dropJsonTag_le (s : Str) : (dropJsonTag s).length ≤ s.length := by
  unfold dropJsonTag
  split
  · split
    · simp only [List.length_cons]
      omega
    · exact Nat.le_refl _
  · exact Nat.le_refl _

/-- A block is shorter than the text, by two fences. -/
theorem length_fencedBlocks {fuel : ℕ} {s block : Str} (h : block ∈ fencedBlocks fuel s) :
    block.length + 6 ≤ s.length := by
  induction fuel generalizing s with
  | zero => cases h
  | succ fuel ih =>
    rw [fencedBlocks] at h
    split at h
    · cases h
    rename_i u inner hopen
    split at h
    · cases h
    rename_i body rest hclose
    have hinner := (List.dropWhile_sublist Str.isSpace (l := dropJsonTag inner)).length_le
    have htag := length_dropJsonTag_le inner
    have hopen' := congrArg List.length (splitFence_sound hopen)
    have hclose' := congrArg List.length (splitFence_sound hclose)
    unfold Str.lstrip at hclose'
    simp only [fence, List.length_append, List.length_cons, List.length_nil] at hopen' hclose'
    rcases List.mem_cons.1 h with rfl | h
    · omega
    · have := ih h
      omega

/-- In the fenced text only the object itself is a block that is stripped to it. -/
theorem strip_ne_of_within {u v block : Str} {fuel : ℕ}
    (hsplit : splitFence (dumpsAscii (.obj d)) = some (u, v))
    (h : block ∈ fencedBlocks fuel (v ++ fenceEnd)) :
    ¬ Str.strip block = dumpsAscii (.obj d) := by
  intro heq
  have hlength := congrArg List.length (splitFence_sound hsplit)
  have hle := (Str.strip_sublist block).length_le
  have hblock := length_fencedBlocks h
  rw [heq, hlength] at hle
  simp only [fence, fenceEnd, List.length_append, List.length_cons, List.length_nil] at hle hblock
  omega

/-- The block of a printed object, with the line break behind it, is decoded as the object. -/
theorem Printable.blockObject_self (h : Printable rt d) :
    Str.strip (dumpsAscii (.obj d) ++ [10]) = dumpsAscii (.obj d) ∧
      decodeCompleteJson rt (dumpsAscii (.obj d)) = .ok (.obj d) := by
  have hstrip : Str.strip (dumpsAscii (.obj d) ++ [10]) = Str.strip (dumpsAscii (.obj d)) := by
    have hlstrip := lstrip_dumpsAscii d []
    rw [List.append_nil] at hlstrip
    unfold Str.strip
    rw [lstrip_dumpsAscii, hlstrip, List.rdropWhile_concat_pos _ _ _ rfl]
  have hdecode := h.decode (r := []) rfl
  rw [List.append_nil] at hdecode
  exact ⟨hstrip.trans (strip_dumpsAscii d), hdecode⟩

/-- The brace of a fenced printed object is the object's. -/
theorem Printable.braceObjects_fenced (h : Printable rt d) (fuel : ℕ) :
    braceObjects rt (fuel + 2) (fenced (dumpsAscii (.obj d))) = .ok [d] := by
  have hstart : (fenced (dumpsAscii (.obj d))).dropWhile (· != 123) =
      dumpsAscii (.obj d) ++ fenceEnd := by
    obtain ⟨s, hs, -⟩ := dumpsAscii_obj d
    rw [hs]
    rfl
  have hraw := h.rawDecode fenceEnd
  have hend : braceObjects rt (fuel + 1) fenceEnd = .ok [] := rfl
  rw [braceObjects, hstart]
  obtain ⟨s, hs, -⟩ := dumpsAscii_obj d
  rw [hs] at hraw ⊢
  rw [List.cons_append] at hraw ⊢
  simp only [hraw, hend, bind, Except.bind]

/-- **An undisturbed object** is found in its fence. -/
theorem Printable.finds_fenced (h : Printable rt d)
    (hund : Undisturbed rt (dumpsAscii (.obj d))) : Finds rt (fenced (dumpsAscii (.obj d))) d := by
  obtain ⟨fuel, hblocks⟩ := fencedBlocks_fenced d
  have hsole : Sole [d] d := ⟨rfl, fun d' hd' => by rw [List.mem_singleton.1 hd']⟩
  have hcandidates : candidates rt (fenced (dumpsAscii (.obj d))) = .ok [d] := by
    unfold candidates
    obtain ⟨hstrip, hdecode⟩ := h.blockObject_self
    cases hsplit : splitFence (dumpsAscii (.obj d)) with
    | none =>
      rw [hsplit] at hblocks
      have hblock : blockObject rt (dumpsAscii (.obj d) ++ [10]) = some d := by
        rw [blockObject_eq_some, hstrip, hdecode]
      have hobjects : fencedObjects rt [dumpsAscii (.obj d) ++ [10]] = .ok [d] := by
        rw [fencedObjects_ok, List.forall_mem_singleton, hstrip, hdecode]
        exact ⟨nofun, List.filterMap_cons_some hblock⟩
      rw [hblocks, hobjects]
      rfl
    | some w =>
      obtain ⟨u, v⟩ := w
      have hquiet : ∀ block ∈ fencedBlocks (fenced (dumpsAscii (.obj d))).length
          (fenced (dumpsAscii (.obj d))), ¬ HoldsObject rt block := by
        intro block hblock
        refine (hund block hblock).resolve_left ?_
        rw [hblocks, hsplit] at hblock
        rcases List.mem_cons.1 hblock with rfl | hblock
        · exact strip_ne_of_split hsplit
        · exact strip_ne_of_within hsplit hblock
      have hobjects : fencedObjects rt (fencedBlocks (fenced (dumpsAscii (.obj d))).length
          (fenced (dumpsAscii (.obj d)))) = .ok [] := by
        rw [fencedObjects_ok]
        refine ⟨fun block hblock hrec => hquiet block hblock (.inl hrec), ?_⟩
        rw [List.filterMap_eq_nil_iff]
        intro block hblock
        rw [Option.eq_none_iff_forall_ne_some]
        exact fun d' hd' => hquiet block hblock (.inr ⟨d', hd'⟩)
      rw [hobjects]
      have hlength : (fenced (dumpsAscii (.obj d))).length + 1 =
          (fenced (dumpsAscii (.obj d))).length - 1 + 2 := by
        have hpos : 1 ≤ (fenced (dumpsAscii (.obj d))).length := by
          simp only [fenced, fenceEnd, List.length_append, List.length_cons]
          omega
        omega
      rw [hlength]
      exact h.braceObjects_fenced _
  refine .sole ?_ ?_ hsole
  · rw [strip_fenced]
    exact searches_fenced _
  · rw [strip_fenced]
    exact hcandidates

/-- **From a disturbed fence** only an object that is empty or has a punctuated key is
taken. -/
theorem Printable.finds_disturbed (h : Printable rt d)
    (hdis : ¬ Undisturbed rt (dumpsAscii (.obj d))) {d' : Dict}
    (hfinds : Finds rt (fenced (dumpsAscii (.obj d))) d') :
    d' = [] ∨ ∃ k ∈ d'.keys, Punctuated k := by
  obtain ⟨fuel, hblocks⟩ := fencedBlocks_fenced d
  simp only [Undisturbed, not_forall, not_or, not_not, exists_prop] at hdis
  obtain ⟨block, hblock, hne, hholds⟩ := hdis
  cases hfinds with
  | whole hwhole =>
    rw [strip_fenced] at hwhole
    cases hwhole
  | sole _ hds hsole =>
    rw [strip_fenced] at hds
    obtain ⟨hall, hds⟩ := candidates_fenced hds
    obtain ⟨d₀, hd₀⟩ := hholds.resolve_left (hall block hblock)
    have hmem : d₀ ∈ (fencedBlocks (fenced (dumpsAscii (.obj d))).length
        (fenced (dumpsAscii (.obj d)))).filterMap (blockObject rt) :=
      List.mem_filterMap.2 ⟨block, hblock, hd₀⟩
    obtain rfl := hds.resolve_right (List.ne_nil_of_mem hmem)
    obtain ⟨block', hblock', hd'⟩ := List.mem_filterMap.1 (List.mem_of_getLast? hsole.1)
    rw [hblocks] at hblock hblock'
    cases hsplit : splitFence (dumpsAscii (.obj d)) with
    | none =>
      rw [hsplit, List.mem_singleton] at hblock
      rw [hblock] at hne
      exact absurd h.blockObject_self.1 hne
    | some w =>
      obtain ⟨u, v⟩ := w
      rw [hsplit] at hblock'
      rcases List.mem_cons.1 hblock' with rfl | hblock'
      · rw [h.blockObject_cut hsplit] at hd'
        cases hd'
      · have hwell : wellQuoted .outside (dumpsAscii (.obj d)) = true := by
          have hobj := wellQuoted_dumpsAsciiObj d [] h.textual rfl
          rw [List.append_nil] at hobj
          exact hobj
        rw [splitFence_sound hsplit] at hwell
        have hinside := wellQuoted_backquote (u := []) (wellQuoted_backquote (u := [])
          (wellQuoted_backquote hwell))
        exact blockObject_within hinside hblock' hd'

end Decode
end CouncilLogic
