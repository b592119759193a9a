/-
# Reading back what `json.dumps` prints

`json.dumps` with its defaults writes ASCII only: every other character as `\uXXXX`, one
beyond the basic plane as a surrogate pair of such escapes.  The decoder reads the printed
text back (`reads_dumpsAscii`), except that it joins a high surrogate followed by a low
one into the character they would encode (`joined`).  A text that can be encoded comes
back as it is.

Nothing in the repository prints with the defaults but a model that answers as it was asked:
`json.dumps(ballot)` is the form the prompts describe, so that a theorem about "a response that is
the ballot's JSON" is one about this printer.  The joined surrogates are the one thing that is not
read back: `\ud83d` and `\ude00` next to each other are one character for the decoder, while
Python may hold them as two.
-/

import CouncilLogic.Protocol.Scan

namespace CouncilLogic
namespace Json

/-! ### The default printer -/

/-- `\uXXXX`, with lower-case digits. -/
def escapeUnit (u : ℕ) : Str :=
  [92, 117, escape.hexDigit (u / 4096), escape.hexDigit (u / 256 % 16),
    escape.hexDigit (u / 16 % 16), escape.hexDigit (u % 16)]

/-- A character inside a JSON string, `ensure_ascii=True`.  There is no character beyond
`0x10FFFF`. -/
def escapeAscii (c : ℕ) : Str :=
  if c = 34 then [92, 34]
  else if c = 92 then [92, 92]
  else if c = 10 then lit "\\n"
  else if c = 13 then lit "\\r"
  else if c = 9 then lit "\\t"
  else if c = 12 then lit "\\f"
  else if c = 8 then lit "\\b"
  else if 32 ≤ c ∧ c ≤ 126 then [c]
  else if c < 0x10000 then escapeUnit c
  else if c ≤ 0x10FFFF then
    escapeUnit (0xD800 + (c - 0x10000) / 0x400) ++ escapeUnit (0xDC00 + (c - 0x10000) % 0x400)
  else [c]

/-- `json.dumps(s)` of a string. -/
def dumpsAsciiStr (s : Str) : Str := 34 :: (s.flatMap escapeAscii ++ [34])

mutual
/-- `json.dumps(value)`, with the separators `", "` and `": "`. -/
def dumpsAscii : Json → Str
  | .arr [] => lit "[]"
  | .arr (j :: js) => lit "[" ++ (dumpsAscii j ++ (dumpsAsciiItems js ++ lit "]"))
  | .obj [] => lit "\x7b\x7d"
  | .obj ((k, j) :: fs) =>
    lit "\x7b" ++ (dumpsAsciiStr k ++ (lit ": " ++ (dumpsAscii j ++
      (dumpsAsciiFields fs ++ lit "\x7d"))))
  | .str s => dumpsAsciiStr s
  | .null => dumpsAtom .null
  | .bool b => dumpsAtom (.bool b)
  | .int n => dumpsAtom (.int n)
  | .float t => dumpsAtom (.float t)

def dumpsAsciiItems : List Json → Str
  | [] => []
  | j :: js => lit ", " ++ (dumpsAscii j ++ dumpsAsciiItems js)

def dumpsAsciiFields : List (Str × Json) → Str
  | [] => []
  | (k, j) :: fs =>
    lit ", " ++ (dumpsAsciiStr k ++ (lit ": " ++ (dumpsAscii j ++ dumpsAsciiFields fs)))
end

mutual
/-- The value has no number in it. -/
def textual : Json → Bool
  | .null | .bool _ | .str _ => true
  | .int _ | .float _ => false
  | .arr items => textualItems items
  | .obj fields => textualFields fields

def textualItems : List Json → Bool
  | [] => true
  | j :: js => textual j && textualItems js

def textualFields : List (Str × Json) → Bool
  | [] => true
  | (_, j) :: fs => textual j && textualFields fs
end

end Json

namespace Decode

open Json

variable {rt : Runtime}

/-! ### Surrogates that are joined -/

/-- The text with every high surrogate that a low one follows joined to it. -/
def joined : Str → Str
  | [] => []
  | [c] => [c]
  | u :: v :: s =>
    if isHighSurrogate u ∧ isLowSurrogate v then
      (0x10000 + (u - 0xD800) * 0x400 + (v - 0xDC00)) :: joined s
    else u :: joined (v :: s)

/-- An encodable text has nothing to join. -/
theorem joined_of_encodable {s : Str} (h : Str.encodable s = true) : joined s = s := by
  fun_induction joined s with
  | case1 => rfl
  | case2 => rfl
  | case3 u v s hpair ih =>
    have hu := (List.all_eq_true.1 h) u List.mem_cons_self
    obtain ⟨hhigh, -⟩ := hpair
    unfold isHighSurrogate at hhigh
    simp only [Bool.and_eq_true, decide_eq_true_eq, Bool.not_eq_true', Bool.and_eq_false_iff,
      decide_eq_false_iff_not] at hhigh hu
    omega
  | case4 u v s hpair ih =>
    rw [ih]
    unfold Str.encodable at h ⊢
    rw [List.all_cons, Bool.and_eq_true] at h
    exact h.2

mutual
/-- The value with every string and every key joined. -/
def joinedJson : Json → Json
  | .arr items => .arr (joinedItems items)
  | .obj fields => .obj (joinedFields fields)
  | .str s => .str (joined s)
  | .null => .null
  | .bool b => .bool b
  | .int n => .int n
  | .float t => .float t

def joinedItems : List Json → List Json
  | [] => []
  | j :: js => joinedJson j :: joinedItems js

def joinedFields : List (Str × Json) → List (Str × Json)
  | [] => []
  | (k, j) :: fs => (joined k, joinedJson j) :: joinedFields fs
end

/-! ### Escapes -/

/-- A digit of an escape is read as its value. -/
theorem hexValue_hexDigit : ∀ d < 16, hexValue (escape.hexDigit d) = some d := by decide

/-- The four digits of an escape are read as the code unit they print. -/
theorem hex4_hexDigits {u : ℕ} (h : u < 0x10000) :
    hex4 (escape.hexDigit (u / 4096)) (escape.hexDigit (u / 256 % 16))
      (escape.hexDigit (u / 16 % 16)) (escape.hexDigit (u % 16)) = some u := by
  unfold hex4
  rw [hexValue_hexDigit _ (by omega), hexValue_hexDigit _ (by omega),
    hexValue_hexDigit _ (by omega), hexValue_hexDigit _ (by omega)]
  change some _ = some u
  congr 1
  omega

/-- The text starts with the escape of a low surrogate. -/
def StartsLow (t : Str) : Prop :=
  ∃ e f g h v rest, t = 92 :: 117 :: e :: f :: g :: h :: rest ∧ hex4 e f g h = some v ∧
    isLowSurrogate v = true

/-- An escape whose digits are none is malformed. -/
theorem scanString_bad {e f g h : ℕ} {rest : Str} (hv : hex4 e f g h = none) :
    scanString (92 :: 117 :: e :: f :: g :: h :: rest) = .error .value := by
  by_cases ht : ∃ a b c d t, rest = 92 :: 117 :: a :: b :: c :: d :: t
  · obtain ⟨a, b, c, d, t, rfl⟩ := ht
    rw [scanString]
    simp only [hv]
  · rw [scanString]
    · simp only [hv]
    · intro a b c d t heq
      exact ht ⟨a, b, c, d, t, heq⟩

/-- An escaped character is read back, unless it is the first half of a pair. -/
theorem scanString_unit {a b c d u : ℕ} {t s r : Str} (hu : hex4 a b c d = some u)
    (hpair : isHighSurrogate u = true → ¬ StartsLow t) (h : scanString t = .ok (s, r)) :
    scanString (92 :: 117 :: a :: b :: c :: d :: t) = .ok (u :: s, r) := by
  by_cases ht : ∃ e f g h rest, t = 92 :: 117 :: e :: f :: g :: h :: rest
  · obtain ⟨e, f, g, h', rest, rfl⟩ := ht
    rw [scanString]
    simp only [hu]
    cases hhigh : isHighSurrogate u with
    | false =>
      simp only [Bool.false_eq_true, if_false, h]
      rfl
    | true =>
      simp only [if_true]
      cases hv : hex4 e f g h' with
      | none =>
        rw [scanString_bad hv] at h
        cases h
      | some v =>
        have hlow : isLowSurrogate v = false := by
          by_contra hlow
          exact hpair hhigh ⟨e, f, g, h', v, rest, rfl, hv, by simpa using hlow⟩
        simp only [hlow, Bool.false_eq_true, if_false, h]
        rfl
  · rw [scanString]
    · simp only [hu, h]
      rfl
    · intro e f g h' rest heq
      exact ht ⟨e, f, g, h', rest, heq⟩

/-- The two halves of a pair are read back as one character. -/
theorem scanString_pair {a b c d e f g h u v : ℕ} {t s r : Str} (hu : hex4 a b c d = some u)
    (hhigh : isHighSurrogate u = true) (hv : hex4 e f g h = some v)
    (hlow : isLowSurrogate v = true) (ht : scanString t = .ok (s, r)) :
    scanString (92 :: 117 :: a :: b :: c :: d :: 92 :: 117 :: e :: f :: g :: h :: t) =
      .ok ((0x10000 + (u - 0xD800) * 0x400 + (v - 0xDC00)) :: s, r) := by
  rw [scanString]
  simp only [hu, hhigh, hv, hlow, if_true, ht]
  rfl

/-- A one-letter escape is read back. -/
theorem scanString_letter {c u : ℕ} {t s r : Str} (hc : c ≠ 117) (hu : unescape c = some u)
    (h : scanString t = .ok (s, r)) : scanString (92 :: c :: t) = .ok (u :: s, r) := by
  rw [scanString]
  · simp only [hu, h]
    rfl
  · intro a b c' d e f g h' rest heq
    exact absurd heq hc
  · intro a b c' d rest heq
    exact absurd heq hc

/-- A character that needs no escape is read back. -/
theorem scanString_raw {c : ℕ} {t s r : Str} (hquote : c ≠ 34) (hslash : c ≠ 92) (hc : 32 ≤ c)
    (h : scanString t = .ok (s, r)) : scanString (c :: t) = .ok (c :: s, r) := by
  rw [scanString]
  · have hnot : ¬ (c < 32 ∨ c = 92) := by omega
    rw [if_neg hnot, h]
    rfl
  · exact hquote
  · intro a b c' d e f g h' rest heq
    exact absurd heq hslash
  · intro a b c' d rest heq
    exact absurd heq hslash
  · intro c' rest heq
    exact absurd heq hslash

/-- What is printed for a character. -/
inductive Escaped (c : ℕ) : Prop
  | letter {l : ℕ} (h : escapeAscii c = [92, l]) (hl : l ≠ 117) (hc : unescape l = some c)
  | raw (h : escapeAscii c = [c]) (hquote : c ≠ 34) (hslash : c ≠ 92) (hc : 32 ≤ c)
      (hplain : c < 0xD800 ∨ 0xDFFF < c)
  | unit (h : escapeAscii c = escapeUnit c) (hc : c < 0x10000)
  | pair {u v : ℕ} (h : escapeAscii c = escapeUnit u ++ escapeUnit v) (hu : u < 0x10000)
      (hv : v < 0x10000) (hhigh : isHighSurrogate u = true) (hlow : isLowSurrogate v = true)
      (hc : c = 0x10000 + (u - 0xD800) * 0x400 + (v - 0xDC00))

/-- Every code point has one of the forms that the decoder distinguishes. -/
theorem escaped (c : ℕ) : Escaped c := by
  by_cases h34 : c = 34
  · subst h34
    exact .letter rfl (by decide) rfl
  by_cases h92 : c = 92
  · subst h92
    exact .letter rfl (by decide) rfl
  by_cases h10 : c = 10
  · subst h10
    exact .letter rfl (by decide) rfl
  by_cases h13 : c = 13
  · subst h13
    exact .letter rfl (by decide) rfl
  by_cases h9 : c = 9
  · subst h9
    exact .letter rfl (by decide) rfl
  by_cases h12 : c = 12
  · subst h12
    exact .letter rfl (by decide) rfl
  by_cases h8 : c = 8
  · subst h8
    exact .letter rfl (by decide) rfl
  have hrest : escapeAscii c = if 32 ≤ c ∧ c ≤ 126 then [c]
      else if c < 0x10000 then escapeUnit c
      else if c ≤ 0x10FFFF then escapeUnit (0xD800 + (c - 0x10000) / 0x400) ++
        escapeUnit (0xDC00 + (c - 0x10000) % 0x400)
      else [c] := by
    unfold escapeAscii
    rw [if_neg h34, if_neg h92, if_neg h10, if_neg h13, if_neg h9, if_neg h12, if_neg h8]
  split_ifs at hrest with hascii hbasic hchar
  · exact .raw hrest h34 h92 hascii.1 (by omega)
  · exact .unit hrest hbasic
  · refine .pair hrest (by omega) (by omega) ?_ ?_ (by omega)
    · unfold isHighSurrogate
      simp only [Bool.and_eq_true, decide_eq_true_eq]
      omega
    · unfold isLowSurrogate
      simp only [Bool.and_eq_true, decide_eq_true_eq]
      omega
  · exact .raw hrest h34 h92 (by omega) (by omega)

/-- What is printed starts with a low surrogate only for one. -/
theorem StartsLow.of_escape {c : ℕ} {t : Str} (h : StartsLow (escapeAscii c ++ t)) :
    isLowSurrogate c = true := by
  obtain ⟨e, f, g, h', v, rest, heq, hv, hlow⟩ := h
  have hunit : ∀ {u : ℕ} {t' : Str}, u < 0x10000 →
      escapeUnit u ++ t' = 92 :: 117 :: e :: f :: g :: h' :: rest → u = v := by
    intro u t' hu heq
    simp only [escapeUnit, List.cons_append, List.cons.injEq] at heq
    obtain ⟨-, -, rfl, rfl, rfl, rfl, -⟩ := heq
    rw [hex4_hexDigits hu] at hv
    exact Option.some.inj hv
  cases escaped c with
  | letter hc hl _ =>
    rw [hc] at heq
    simp only [List.cons_append, List.cons.injEq] at heq
    exact absurd heq.2.1 hl
  | raw hc _ hslash _ _ =>
    rw [hc] at heq
    exact absurd (List.cons.inj heq).1 hslash
  | unit hc hbasic =>
    rw [hc] at heq
    rw [hunit hbasic heq]
    exact hlow
  | @pair u _ hc hu _ hhigh _ _ =>
    rw [hc, List.append_assoc] at heq
    rw [hunit hu heq] at hhigh
    unfold isHighSurrogate at hhigh
    unfold isLowSurrogate at hlow
    simp only [Bool.and_eq_true, decide_eq_true_eq] at hhigh hlow
    omega

/-- A printed character is read back, unless it is the first half of a pair. -/
theorem scanString_escape {c : ℕ} {t s r : Str}
    (hpair : isHighSurrogate c = true → ¬ StartsLow t) (h : scanString t = .ok (s, r)) :
    scanString (escapeAscii c ++ t) = .ok (c :: s, r) := by
  cases escaped c with
  | letter hc hl hu =>
    rw [hc]
    exact scanString_letter hl hu h
  | raw hc hquote hslash hle _ =>
    rw [hc]
    exact scanString_raw hquote hslash hle h
  | unit hc hbasic =>
    rw [hc]
    exact scanString_unit (hex4_hexDigits hbasic) hpair h
  | pair hc hu hv hhigh hlow heq =>
    rw [hc, heq]
    exact scanString_pair (hex4_hexDigits hu) hhigh (hex4_hexDigits hv) hlow h

/-- A surrogate is printed as the escape of itself. -/
theorem escapeAscii_surrogate {c : ℕ} (h : 0xD800 ≤ c ∧ c ≤ 0xDFFF) :
    escapeAscii c = escapeUnit c := by
  cases escaped c with
  | letter hc hl hu =>
    unfold unescape at hu
    split_ifs at hu
    all_goals
      cases hu
      omega
  | raw _ _ _ _ hplain => omega
  | unit hc _ => exact hc
  | pair hc hu hv hhigh hlow heq => omega

/-- **A printed string** is read back joined. -/
theorem scanString_dumpsAscii (s r : Str) :
    scanString (s.flatMap escapeAscii ++ 34 :: r) = .ok (joined s, r) := by
  fun_induction joined s with
  | case1 => rfl
  | case2 c =>
    rw [List.flatMap_singleton]
    refine scanString_escape (fun _ hlow => ?_) rfl
    obtain ⟨_, _, _, _, _, _, heq, -⟩ := hlow
    cases heq
  | case3 u v s hpair ih =>
    obtain ⟨hhigh, hlow⟩ := hpair
    have hu : 0xD800 ≤ u ∧ u ≤ 0xDBFF := by simpa [isHighSurrogate] using hhigh
    have hv : 0xDC00 ≤ v ∧ v ≤ 0xDFFF := by simpa [isLowSurrogate] using hlow
    rw [List.flatMap_cons, List.flatMap_cons, escapeAscii_surrogate (by omega),
      escapeAscii_surrogate (by omega), List.append_assoc, List.append_assoc]
    exact scanString_pair (hex4_hexDigits (by omega)) hhigh (hex4_hexDigits (by omega)) hlow ih
  | case4 u v s hpair ih =>
    rw [List.flatMap_cons, List.append_assoc]
    refine scanString_escape (fun hhigh hlow => hpair ⟨hhigh, ?_⟩) ih
    rw [List.flatMap_cons, List.append_assoc] at hlow
    exact hlow.of_escape

/-! ### Values -/

/-- A printed value begins with a character that is neither white space nor a closing bracket. -/
theorem head_dumpsAscii {j : Json} (h : textual j = true) :
    ∃ c t, dumpsAscii j = c :: t ∧ isWs c = false ∧ c ≠ 93 := by
  cases j with
  | null => exact ⟨_, _, rfl, rfl, by decide⟩
  | bool b => cases b <;> exact ⟨_, _, rfl, rfl, by decide⟩
  | int n => cases h
  | float t => cases h
  | str s => exact ⟨_, _, rfl, rfl, by decide⟩
  | arr items => cases items <;> exact ⟨_, _, rfl, rfl, by decide⟩
  | obj fields => cases fields <;> exact ⟨_, _, rfl, rfl, by decide⟩

/-- Printed text begins with no white space. -/
theorem skipWs_dumpsAscii {j : Json} (h : textual j = true) (r : Str) :
    skipWs (dumpsAscii j ++ r) = dumpsAscii j ++ r := by
  obtain ⟨c, t, heq, hws, -⟩ := head_dumpsAscii h
  rw [heq]
  exact List.dropWhile_cons_of_neg (by rw [hws]; decide)

mutual
/-- **A printed value** is read back joined. -/
theorem reads_dumpsAscii : ∀ (j : Json) (r : Str), textual j = true →
    Reads rt (dumpsAscii j ++ r) (joinedJson j) r
  | .null, r, _ => .atom nofun nofun nofun (scanAtom_literal .null r)
  | .bool true, r, _ => .atom nofun nofun nofun (scanAtom_literal .true r)
  | .bool false, r, _ => .atom nofun nofun nofun (scanAtom_literal .false r)
  | .str s, r, _ => by
    rw [dumpsAscii, dumpsAsciiStr, List.cons_append, List.append_assoc]
    exact .str (scanString_dumpsAscii s r)
  | .arr [], r, _ => .arrNil rfl
  | .arr (j :: js), r, h => by
    rw [textual, textualItems, Bool.and_eq_true] at h
    have hitems := readsItems_dumpsAscii j js r h.1 h.2
    obtain ⟨c, t, heq, -, hc⟩ := head_dumpsAscii h.1
    have hskip := skipWs_dumpsAscii h.1 (dumpsAsciiItems js ++ 93 :: r)
    rw [dumpsAscii, List.append_assoc, List.append_assoc, List.append_assoc]
    refine .arr ?_ ?_
    · change (skipWs (dumpsAscii j ++ (dumpsAsciiItems js ++ 93 :: r))).head? ≠ _
      rw [hskip, heq]
      intro hhead
      exact hc (Option.some.inj hhead)
    · change ReadsItems rt (skipWs (dumpsAscii j ++ (dumpsAsciiItems js ++ 93 :: r))) _ r
      rw [hskip]
      exact hitems
  | .obj [], r, _ => .objNil rfl
  | .obj ((k, j) :: fs), r, h => by
    rw [textual, textualFields, Bool.and_eq_true] at h
    have hfields := readsFields_dumpsAscii k j fs r h.1 h.2
    rw [dumpsAscii, List.append_assoc, List.append_assoc, List.append_assoc, List.append_assoc,
      List.append_assoc]
    exact .obj hfields
termination_by j => sizeOf j

/-- The printed items of a list are read back, joined. -/
theorem readsItems_dumpsAscii : ∀ (j : Json) (js : List Json) (r : Str), textual j = true →
    textualItems js = true → ReadsItems rt (dumpsAscii j ++ (dumpsAsciiItems js ++ 93 :: r))
      (joinedJson j :: joinedItems js) r
  | j, [], r, h, _ => .last (reads_dumpsAscii j (93 :: r) h) rfl
  | j, j' :: js, r, h, h' => by
    rw [textualItems, Bool.and_eq_true] at h'
    have hitems := readsItems_dumpsAscii j' js r h'.1 h'.2
    rw [dumpsAsciiItems, List.append_assoc, List.append_assoc]
    refine .more (reads_dumpsAscii j _ h) rfl ?_
    change ReadsItems rt (skipWs (dumpsAscii j' ++ (dumpsAsciiItems js ++ 93 :: r))) _ r
    rw [skipWs_dumpsAscii h'.1]
    exact hitems
termination_by j js => sizeOf (j :: js)

/-- The printed fields of an object are read back, keys and values joined. -/
theorem readsFields_dumpsAscii : ∀ (k : Str) (j : Json) (fs : List (Str × Json)) (r : Str),
    textual j = true → textualFields fs = true →
    ReadsFields rt (dumpsAsciiStr k ++ (lit ": " ++ (dumpsAscii j ++
      (dumpsAsciiFields fs ++ 125 :: r)))) ((joined k, joinedJson j) :: joinedFields fs) r
  | k, j, [], r, h, _ => by
    have hvalue : Reads rt (skipWs (32 :: (dumpsAscii j ++ 125 :: r))) (joinedJson j)
        (125 :: r) := by
      change Reads rt (skipWs (dumpsAscii j ++ 125 :: r)) _ _
      rw [skipWs_dumpsAscii h]
      exact reads_dumpsAscii j (125 :: r) h
    rw [dumpsAsciiStr, List.cons_append, List.append_assoc]
    exact .last (scanString_dumpsAscii k _) rfl hvalue rfl
  | k, j, (k', j') :: fs, r, h, h' => by
    rw [textualFields, Bool.and_eq_true] at h'
    have hfields := readsFields_dumpsAscii k' j' fs r h'.1 h'.2
    have hvalue : ∀ x, Reads rt (skipWs (32 :: (dumpsAscii j ++ x))) (joinedJson j) x := by
      intro x
      change Reads rt (skipWs (dumpsAscii j ++ x)) _ _
      rw [skipWs_dumpsAscii h]
      exact reads_dumpsAscii j x h
    rw [dumpsAsciiStr, List.cons_append, List.append_assoc]
    rw [dumpsAsciiFields, List.append_assoc, List.append_assoc, List.append_assoc,
      List.append_assoc]
    exact .more (scanString_dumpsAscii k _) rfl (hvalue _) rfl hfields
termination_by k j fs => sizeOf ((k, j) :: fs)
end

end Decode
end CouncilLogic
