/-
# Compact text is read back

`json.dumps` with `ensure_ascii=False` and the separators `","` and `":"` writes every character
that needs no escape as it is, and `json.loads` reads the text of a value back as that value.

A number is printable when `str` and `repr` write it and `int` and `float` read it back: an
integer within the limit on digits, and a float that is carried as its `repr`.

The direction from text to value is an induction over the value: `reads_dumpsCompact` builds a
derivation of `Reads` for its text, whatever text follows, and `CouncilLogic.Protocol.Scan` turns
a derivation into a run of the decoder with enough fuel.  The decoder with the hook of
`src/model_council/protocol.py` and the one without it are compared by `scan_of_decode`: a text
that the hook lets through has no repeated key, so that building a dictionary from its pairs drops
none of them.

Numbers need care, because the scanner is greedy: what follows a number must not go on with it.
`isStop` are the characters that may follow one inside a printed value, and the lemmas `…_stop`
say that the scanner of each part of a number stops there.
-/

import CouncilLogic.Json.Loads
import CouncilLogic.Protocol.Ballots
import CouncilLogic.Protocol.Printed

namespace CouncilLogic

namespace Json

open Decode (maxIntDigits)

/-- The text of a float: the decoder reads it back as it stands. -/
def floatText (rt : Runtime) (t : Str) : Bool :=
  match Decode.scanAtom rt t with
  | .ok (.float t', []) => t' == t
  | _ => false

/-- What is neither a list nor a dictionary is written and read back. -/
def printableAtom (rt : Runtime) : Json → Bool
  | .int n => decide ((Str.ofNat n.natAbs).length ≤ maxIntDigits)
  | .float t => floatText rt t
  | _ => true

mutual
/-- Everything inside that is neither a list nor a dictionary satisfies `p`. -/
def allAtoms (p : Json → Bool) : Json → Bool
  | .arr items => allAtomsItems p items
  | .obj fields => allAtomsFields p fields
  | .null => p .null
  | .bool b => p (.bool b)
  | .int n => p (.int n)
  | .float t => p (.float t)
  | .str s => p (.str s)

def allAtomsItems (p : Json → Bool) : List Json → Bool
  | [] => true
  | j :: js => allAtoms p j && allAtomsItems p js

def allAtomsFields (p : Json → Bool) : List (Str × Json) → Bool
  | [] => true
  | (_, j) :: fs => allAtoms p j && allAtomsFields p fs
end

/-- Every number of the value is written and read back. -/
abbrev printable (rt : Runtime) : Json → Bool := allAtoms (printableAtom rt)

/-- A property of all atoms is one of the atoms of each field. -/
theorem allAtomsFields_eq_all (p : Json → Bool) (fields : List (Str × Json)) :
    allAtomsFields p fields = fields.all fun f => allAtoms p f.2 := by
  induction fields with
  | nil => rfl
  | cons f fields ih => rw [allAtomsFields, ih, List.all_cons]

mutual
/-- The order of keys does not matter. -/
theorem allAtoms_canon (p : Json → Bool) : ∀ j : Json, allAtoms p (canon j) = allAtoms p j
  | .null | .bool _ | .int _ | .float _ | .str _ => rfl
  | .arr items => allAtomsItems_canonItems p items
  | .obj fields => by
    show allAtomsFields p (sortFields (canonFields fields)) = allAtomsFields p fields
    rw [allAtomsFields_eq_all, (sortFields_perm _).all_eq, ← allAtomsFields_eq_all,
      allAtomsFields_canonFields p fields]

/-- Sorting the keys inside the items of a list leaves the same atoms. -/
theorem allAtomsItems_canonItems (p : Json → Bool) :
    ∀ items : List Json, allAtomsItems p (canonItems items) = allAtomsItems p items
  | [] => rfl
  | j :: js => by
    rw [canonItems, allAtomsItems, allAtomsItems, allAtoms_canon p j,
      allAtomsItems_canonItems p js]

/-- Sorting the keys inside the fields of an object leaves the same atoms. -/
theorem allAtomsFields_canonFields (p : Json → Bool) :
    ∀ fields : List (Str × Json), allAtomsFields p (canonFields fields) = allAtomsFields p fields
  | [] => rfl
  | (k, j) :: fs => by
    rw [canonFields, allAtomsFields, allAtomsFields, allAtoms_canon p j,
      allAtomsFields_canonFields p fs]
end

end Json

namespace Decode

open Json

variable {rt : Runtime} {c : ℕ}

/-! ### Numbers -/

/-- What may follow a number. -/
def Stops (r : Str) : Prop := ∀ c ∈ r.head?, isStop c = true

/-- A text that begins with a stop stops a number. -/
theorem stops_cons {r : Str} (h : isStop c = true) : Stops (c :: r) := by
  rintro _ ⟨⟩
  exact h

/-- No digit is a stop. -/
theorem isStop_notDigit (h : isStop c = true) : isDigit c = false := by
  unfold isStop isWs at h
  unfold isDigit
  simp only [Bool.or_eq_true, beq_iff_eq] at h
  rw [Bool.and_eq_false_iff, decide_eq_false_iff_not, decide_eq_false_iff_not]
  omega

/-- Taking digits ends before a stop at the latest. -/
theorem takeWhile_stop (hc : isStop c = true) (s r : Str) :
    (s ++ c :: r).takeWhile isDigit = s.takeWhile isDigit := by
  induction s with
  | nil =>
    rw [List.nil_append, List.takeWhile_cons_of_neg]
    · rfl
    · rw [isStop_notDigit hc]
      exact Bool.false_ne_true
  | cons d s ih =>
    rw [List.cons_append, List.takeWhile_cons, List.takeWhile_cons, ih]

/-- The sign of a number is read off its beginning, whatever follows a stop. -/
theorem signedBody_stop (hc : isStop c = true) (s r : Str) :
    signedBody (s ++ c :: r) = ((signedBody s).1, (signedBody s).2 ++ c :: r) := by
  cases s with
  | nil =>
    unfold signedBody
    split
    · rename_i heq
      obtain ⟨rfl, -⟩ := List.cons.inj heq
      cases hc
    · rfl
  | cons d s =>
    by_cases hd : d = 45
    · rw [hd]
      rfl
    · unfold signedBody
      split
      · rename_i heq
        exact absurd (List.cons.inj heq).1 hd
      · split
        · rename_i heq
          exact absurd (List.cons.inj heq).1 hd
        · rfl

/-- The integer part of a number ends before a stop. -/
theorem integerPart_stop (hc : isStop c = true) (s r : Str) :
    integerPart (s ++ c :: r) = integerPart s := by
  cases s with
  | nil =>
    unfold integerPart
    split
    · rename_i heq
      obtain ⟨rfl, -⟩ := List.cons.inj heq
      cases hc
    · exact takeWhile_stop hc [] r
  | cons d s =>
    by_cases hd : d = 48
    · rw [hd]
      rfl
    · unfold integerPart
      split
      · rename_i heq
        exact absurd (List.cons.inj heq).1 hd
      · split
        · rename_i heq
          exact absurd (List.cons.inj heq).1 hd
        · exact takeWhile_stop hc (d :: s) r

/-- The fraction of a number ends before a stop. -/
theorem fractionPart_stop (hc : isStop c = true) (s r : Str) :
    fractionPart (s ++ c :: r) = fractionPart s := by
  cases s with
  | nil =>
    unfold fractionPart
    split
    · rename_i heq
      obtain ⟨rfl, -⟩ := List.cons.inj heq
      cases hc
    · rfl
  | cons d s =>
    by_cases hd : d = 46
    · have hpoint : ∀ t : Str, fractionPart (46 :: t) =
          if t.takeWhile isDigit = [] then [] else 46 :: t.takeWhile isDigit := fun _ => rfl
      rw [hd, List.cons_append, hpoint, hpoint, takeWhile_stop hc s r]
    · unfold fractionPart
      split
      · rename_i heq
        exact absurd (List.cons.inj heq).1 hd
      · split
        · rename_i heq
          exact absurd (List.cons.inj heq).1 hd
        · rfl

/-- The sign and the digits of an exponent end before a stop. -/
theorem signedExponent_stop (hc : isStop c = true) (s r : Str) :
    (signedExponent (s ++ c :: r)).1 = (signedExponent s).1 ∧
      (signedExponent (s ++ c :: r)).2.takeWhile isDigit =
        (signedExponent s).2.takeWhile isDigit := by
  cases s with
  | nil =>
    have hsign : ¬ (c = 43 ∨ c = 45) := by
      rintro (rfl | rfl) <;> cases hc
    unfold signedExponent
    dsimp only [List.nil_append]
    rw [if_neg hsign]
    exact ⟨rfl, takeWhile_stop hc [] r⟩
  | cons d s =>
    unfold signedExponent
    dsimp only [List.cons_append]
    split
    · exact ⟨rfl, takeWhile_stop hc s r⟩
    · exact ⟨rfl, takeWhile_stop hc (d :: s) r⟩

/-- The exponent of a number ends before a stop. -/
theorem exponentPart_stop (hc : isStop c = true) (s r : Str) :
    exponentPart (s ++ c :: r) = exponentPart s := by
  obtain ⟨-, hupper, hlower⟩ := isStop_not hc
  cases s with
  | nil =>
    unfold exponentPart
    dsimp only [List.nil_append]
    rw [if_neg (not_or.2 ⟨hupper, hlower⟩)]
  | cons e s =>
    obtain ⟨hsign, hdigits⟩ := signedExponent_stop hc s r
    unfold exponentPart
    dsimp only [List.cons_append]
    rw [hsign, hdigits]

/-- The integer part is a beginning of the text. -/
theorem integerPart_begins (s : Str) : integerPart s <+: s := by
  unfold integerPart
  split
  · exact List.prefix_append [48] _
  · exact List.takeWhile_prefix _

/-- The fraction is a beginning of the text behind the integer part. -/
theorem fractionPart_begins (s : Str) : fractionPart s <+: s := by
  unfold fractionPart
  split
  · split
    · exact List.nil_prefix
    · exact (List.prefix_cons_inj _).2 (List.takeWhile_prefix _)
  · exact List.nil_prefix

/-- The sign of an exponent and the rest make up its text. -/
theorem signedExponent_parts (r : Str) : (signedExponent r).1 ++ (signedExponent r).2 = r := by
  cases r with
  | nil => rfl
  | cons c r =>
    unfold signedExponent
    dsimp only
    split <;> rfl

/-- The exponent is a beginning of the text behind the fraction. -/
theorem exponentPart_begins (s : Str) : exponentPart s <+: s := by
  unfold exponentPart
  split
  · rename_i e r
    split
    · split
      · exact List.nil_prefix
      · rw [List.cons_append]
        have hparts : (signedExponent r).1 ++ (signedExponent r).2.takeWhile isDigit <+:
            (signedExponent r).1 ++ (signedExponent r).2 :=
          (List.prefix_append_right_inj _).2 (List.takeWhile_prefix _)
        rw [signedExponent_parts] at hparts
        exact (List.prefix_cons_inj _).2 hparts
    · exact List.nil_prefix
  · exact List.nil_prefix

/-- **A number ends** where a character follows that stops it. -/
theorem numberParts_stop (hc : isStop c = true) (s r : Str) :
    numberParts (s ++ c :: r) =
      { numberParts s with rest := (numberParts s).rest ++ c :: r } := by
  unfold numberParts
  dsimp only
  rw [signedBody_stop hc]
  dsimp only
  rw [integerPart_stop hc, List.drop_append_of_le_length (integerPart_begins _).length_le,
    fractionPart_stop hc, List.drop_append_of_le_length (fractionPart_begins _).length_le,
    exponentPart_stop hc, List.drop_append_of_le_length (exponentPart_begins _).length_le]

/-- **A number is read in front of a stop as it is read alone**: nothing of what follows is taken
into it. -/
theorem scanNumber_stops {s r r' : Str} {j : Json} (hr : Stops r')
    (h : scanNumber rt s = .ok (j, r)) : scanNumber rt (s ++ r') = .ok (j, r ++ r') := by
  cases r' with
  | nil => rwa [List.append_nil, List.append_nil]
  | cons c r' =>
    rw [scanNumber_eq] at h ⊢
    obtain ⟨hrest, hvalue⟩ := NumberParts.value_ok h
    rw [numberParts_stop (hr c rfl), hrest]
    exact hvalue _

/-- An atom is read in front of a stop as it is read alone. -/
theorem scanAtom_stops {s r r' : Str} {j : Json} (hr : Stops r')
    (h : scanAtom rt s = .ok (j, r)) : scanAtom rt (s ++ r') = .ok (j, r ++ r') := by
  rcases scanAtom_ok h with ⟨l, hl, rfl⟩ | hnumber
  · rw [List.append_assoc]
    exact scanAtom_literal hl _
  · exact scanAtom_number (scanNumber_stops hr hnumber)

/-- An atom begins with an ASCII character that is no bracket, no quote and no white space. -/
theorem scanAtom_head {s r : Str} {j : Json} (h : scanAtom rt s = .ok (j, r)) :
    ∃ c t, s = c :: t ∧ isWs c = false ∧ c < 128 ∧ c ≠ 34 ∧ c ≠ 91 ∧ c ≠ 93 ∧ c ≠ 123 := by
  have hdigit : ∀ c, isDigit c = true →
      isWs c = false ∧ c < 128 ∧ c ≠ 34 ∧ c ≠ 91 ∧ c ≠ 93 ∧ c ≠ 123 := by
    intro c hc
    unfold isDigit at hc
    rw [Bool.and_eq_true, decide_eq_true_iff, decide_eq_true_iff] at hc
    refine ⟨?_, by omega, by omega, by omega, by omega, by omega⟩
    unfold isWs
    simp only [Bool.or_eq_false_iff, beq_eq_false_iff_ne]
    omega
  rcases scanAtom_ok h with ⟨l, hl, rfl⟩ | hnumber
  · cases hl <;> exact ⟨_, _, rfl, rfl, by decide, by decide, by decide, by decide, by decide⟩
  · rcases scanNumber_head hnumber with ⟨c, t, rfl, hc⟩ | ⟨c, t, rfl, -⟩
    · exact ⟨c, t, rfl, hdigit c hc⟩
    · exact ⟨45, c :: t, rfl, rfl, by decide, by decide, by decide, by decide, by decide⟩

/-! ### Integers -/

/-- A natural number is printed in digits. -/
theorem ofNat_isDigit (n : ℕ) : ∀ c ∈ Str.ofNat n, isDigit c = true := by
  intro c hc
  unfold Str.ofNat at hc
  split at hc
  · obtain rfl := List.mem_singleton.1 hc
    rfl
  · obtain ⟨d, hd, rfl⟩ := List.mem_map.1 hc
    have hlt := Nat.digits_lt_base (by decide) (List.mem_reverse.1 hd)
    unfold isDigit
    rw [Bool.and_eq_true, decide_eq_true_iff, decide_eq_true_iff]
    omega

/-- The digits of a natural number have its value. -/
theorem digitsValue_ofNat (n : ℕ) : digitsValue (Str.ofNat n) = n := by
  unfold Str.ofNat
  split
  · rename_i hn
    rw [hn]
    rfl
  · unfold digitsValue
    rw [List.foldl_map, List.foldl_reverse]
    have hfold : ∀ l : List ℕ,
        l.foldr (fun d n => n * 10 + (d + 48 - 48)) 0 = Nat.ofDigits 10 l := by
      intro l
      induction l with
      | nil => rfl
      | cons d l ih =>
        rw [List.foldr_cons, ih, Nat.ofDigits_cons, Nat.add_sub_cancel]
        ring
    rw [hfold, Nat.ofDigits_digits]

/-- A natural number is printed as at least one digit. -/
theorem ofNat_ne_nil (n : ℕ) : Str.ofNat n ≠ [] := by
  unfold Str.ofNat
  split
  · exact List.cons_ne_nil _ _
  · rename_i hn
    intro hnil
    exact Nat.digits_ne_nil_iff_ne_zero.2 hn
      (List.reverse_eq_nil_iff.1 (List.map_eq_nil_iff.1 hnil))

/-- The printed number is an integer part: it has no leading zero to stop at. -/
theorem integerPart_ofNat (n : ℕ) : integerPart (Str.ofNat n) = Str.ofNat n := by
  by_cases hn : n = 0
  · rw [hn]
    rfl
  · unfold integerPart
    split
    · rename_i heq
      have hhead := Protocol.ofNat_head hn
      rw [heq] at hhead
      exact absurd rfl hhead
    · exact List.takeWhile_eq_self_iff.2 (ofNat_isDigit n)

/-- The parts of a printed number. -/
theorem numberParts_ofNat (n : ℕ) : numberParts (Str.ofNat n) = ⟨[], Str.ofNat n, [], [], []⟩ ∧
    numberParts (45 :: Str.ofNat n) = ⟨[45], Str.ofNat n, [], [], []⟩ := by
  have hplain : signedBody (Str.ofNat n) = ([], Str.ofNat n) := by
    unfold signedBody
    split
    · rename_i heq
      have hminus := ofNat_isDigit n 45 (heq ▸ List.mem_cons_self)
      cases hminus
    · rfl
  have hsigned : signedBody (45 :: Str.ofNat n) = ([45], Str.ofNat n) := rfl
  constructor
  · unfold numberParts
    rw [hplain]
    dsimp only
    rw [integerPart_ofNat, List.drop_length]
    rfl
  · unfold numberParts
    rw [hsigned]
    dsimp only
    rw [integerPart_ofNat, List.drop_length]
    rfl

/-- The parts of a printed integer have the integer as their value, as long as it has no more
digits than `int` reads. -/
theorem value_digits {sign : Str} {n : ℕ} (h : (Str.ofNat n).length ≤ maxIntDigits) :
    (NumberParts.mk sign (Str.ofNat n) [] [] []).value rt =
      .ok (.int (if sign = [] then n else -n), []) := by
  unfold NumberParts.value
  dsimp only
  rw [if_neg (ofNat_ne_nil n), if_pos ⟨rfl, rfl⟩, if_neg (not_lt.2 h), digitsValue_ofNat]

/-- **An integer is read back.** -/
theorem scanNumber_ofInt {n : ℤ} (h : (Str.ofNat n.natAbs).length ≤ maxIntDigits) :
    scanNumber rt (Str.ofInt n) = .ok (.int n, []) := by
  rw [scanNumber_eq]
  cases n with
  | ofNat n =>
    have h : (Str.ofNat n).length ≤ maxIntDigits := h
    show (numberParts (Str.ofNat n)).value rt = _
    rw [(numberParts_ofNat n).1, value_digits h, if_pos rfl]
    rfl
  | negSucc n =>
    have h : (Str.ofNat (n + 1)).length ≤ maxIntDigits := h
    show (numberParts (45 :: Str.ofNat (n + 1))).value rt = _
    rw [(numberParts_ofNat (n + 1)).2, value_digits h, if_neg (List.cons_ne_nil _ _)]
    rfl

/-! ### Strings -/

/-- **A printed string is read back**, lone surrogates included. -/
theorem scanString_dumpsStr (s r : Str) :
    scanString (s.flatMap escape ++ 34 :: r) = .ok (s, r) := by
  induction s with
  | nil => rfl
  | cons c s ih =>
    rw [List.flatMap_cons, List.append_assoc]
    unfold escape
    split_ifs with h1 h2 h3 h4 h5 h6 h7 h8
    · rw [h1]
      exact scanString_letter (by decide) rfl ih
    · rw [h2]
      exact scanString_letter (by decide) rfl ih
    · rw [h3]
      exact scanString_letter (by decide) rfl ih
    · rw [h4]
      exact scanString_letter (by decide) rfl ih
    · rw [h5]
      exact scanString_letter (by decide) rfl ih
    · rw [h6]
      exact scanString_letter (by decide) rfl ih
    · rw [h7]
      exact scanString_letter (by decide) rfl ih
    · have hunit : hex4 48 48 (escape.hexDigit (c / 16)) (escape.hexDigit (c % 16)) = some c := by
        have hdigits := hex4_hexDigits (by omega : c < 0x10000)
        have hzero : escape.hexDigit 0 = 48 := rfl
        rwa [Nat.div_eq_of_lt (by omega : c < 4096), Nat.div_eq_of_lt (by omega : c < 256),
          Nat.zero_mod, hzero, Nat.mod_eq_of_lt (by omega : c / 16 < 16)] at hdigits
      have hhigh : isHighSurrogate c = true → ¬ StartsLow (s.flatMap escape ++ 34 :: r) := by
        intro hsurrogate
        unfold isHighSurrogate at hsurrogate
        rw [Bool.and_eq_true, decide_eq_true_iff, decide_eq_true_iff] at hsurrogate
        omega
      exact scanString_unit hunit hhigh ih
    · exact scanString_raw h1 h2 (by omega) ih

/-! ### Values -/

/-- A text is that of a float when the scanner reads all of it, and reads a float. -/
theorem floatText_iff {t : Str} : floatText rt t = true ↔ scanAtom rt t = .ok (.float t, []) := by
  unfold floatText
  constructor
  · intro h
    split at h
    · rename_i t' heq
      rw [heq, beq_iff_eq.1 h]
    · cases h
  · intro h
    rw [h]
    exact beq_self_eq_true t

/-- The text of a value begins with an ASCII character, which is no white space and no closing
bracket. -/
theorem head_dumpsCompact {j : Json} (h : printable rt j = true) :
    ∃ c t, dumpsCompact j = c :: t ∧ isWs c = false ∧ c < 128 ∧ c ≠ 93 := by
  cases j with
  | null => exact ⟨_, _, rfl, rfl, by decide, by decide⟩
  | bool b => cases b <;> exact ⟨_, _, rfl, rfl, by decide, by decide⟩
  | int n =>
    have hscan : scanNumber rt (Str.ofInt n) = .ok (.int n, []) :=
      scanNumber_ofInt (of_decide_eq_true h)
    obtain ⟨c, t, heq, hws, hascii, -, -, hc, -⟩ := scanAtom_head (scanAtom_number hscan)
    exact ⟨c, t, heq, hws, hascii, hc⟩
  | float t =>
    obtain ⟨c, t', heq, hws, hascii, -, -, hc, -⟩ := scanAtom_head (floatText_iff.1 h)
    exact ⟨c, t', heq, hws, hascii, hc⟩
  | str s => exact ⟨_, _, rfl, rfl, by decide, by decide⟩
  | arr items => cases items <;> exact ⟨_, _, rfl, rfl, by decide, by decide⟩
  | obj fields => cases fields <;> exact ⟨_, _, rfl, rfl, by decide, by decide⟩

/-- Printed text begins with no white space. -/
theorem skipWs_dumpsCompact {j : Json} (h : printable rt j = true) (r : Str) :
    skipWs (dumpsCompact j ++ r) = dumpsCompact j ++ r := by
  obtain ⟨c, t, heq, hws, -, -⟩ := head_dumpsCompact h
  rw [heq]
  exact List.dropWhile_cons_of_neg (by rw [hws]; decide)

/-- An atom whose text is read alone is read in front of everything that stops it. -/
theorem reads_atom {s r : Str} {j : Json} (h : scanAtom rt s = .ok (j, [])) (hr : Stops r) :
    Reads rt (s ++ r) j r := by
  have hscan := scanAtom_stops hr h
  obtain ⟨c, t, heq, -, -, hquote, hbracket, -, hbrace⟩ := scanAtom_head hscan
  rw [List.nil_append] at hscan
  refine .atom ?_ ?_ ?_ hscan
  all_goals
    rw [heq]
    intro hhead
    obtain rfl := Option.some.inj hhead
    contradiction

mutual
/-- **A printed value is read back.** -/
theorem reads_dumpsCompact : ∀ (j : Json) (r : Str), printable rt j = true → Stops r →
    Reads rt (dumpsCompact j ++ r) j r
  | .null, r, _, hr => reads_atom (scanAtom_literal .null []) hr
  | .bool true, r, _, hr => reads_atom (scanAtom_literal .true []) hr
  | .bool false, r, _, hr => reads_atom (scanAtom_literal .false []) hr
  | .int n, r, h, hr => reads_atom (scanAtom_number (scanNumber_ofInt (of_decide_eq_true h))) hr
  | .float t, r, h, hr => reads_atom (floatText_iff.1 h) hr
  | .str s, r, _, _ => by
    rw [dumpsCompact, dumpsAtom, dumpsStr, List.cons_append, List.append_assoc]
    exact .str (scanString_dumpsStr s r)
  | .arr [], r, _, _ => .arrNil rfl
  | .arr (j :: js), r, h, _ => by
    rw [printable, allAtoms, allAtomsItems, Bool.and_eq_true] at h
    have hitems := readsItems_dumpsCompact j js r h.1 h.2
    obtain ⟨c, t, heq, -, -, hc⟩ := head_dumpsCompact h.1
    have hskip := skipWs_dumpsCompact h.1 (dumpsCompactItems js ++ 93 :: r)
    rw [dumpsCompact, List.append_assoc, List.append_assoc, List.append_assoc]
    refine .arr ?_ ?_
    · change (skipWs (dumpsCompact j ++ (dumpsCompactItems js ++ 93 :: r))).head? ≠ _
      rw [hskip, heq]
      intro hhead
      exact hc (Option.some.inj hhead)
    · change ReadsItems rt (skipWs (dumpsCompact j ++ (dumpsCompactItems js ++ 93 :: r))) _ r
      rw [hskip]
      exact hitems
  | .obj [], r, _, _ => .objNil rfl
  | .obj ((k, j) :: fs), r, h, _ => by
    rw [printable, allAtoms, allAtomsFields, Bool.and_eq_true] at h
    have hfields := readsFields_dumpsCompact k j fs r h.1 h.2
    rw [dumpsCompact, List.append_assoc, List.append_assoc, List.append_assoc, List.append_assoc,
      List.append_assoc]
    exact .obj hfields
termination_by j => sizeOf j

/-- The printed items of a list are read back, up to and including the bracket that closes it. -/
theorem readsItems_dumpsCompact : ∀ (j : Json) (js : List Json) (r : Str),
    printable rt j = true → allAtomsItems (printableAtom rt) js = true →
    ReadsItems rt (dumpsCompact j ++ (dumpsCompactItems js ++ 93 :: r)) (j :: js) r
  | j, [], r, h, _ => .last (reads_dumpsCompact j (93 :: r) h (stops_cons rfl)) rfl
  | j, j' :: js, r, h, h' => by
    rw [allAtomsItems, Bool.and_eq_true] at h'
    have hitems := readsItems_dumpsCompact j' js r h'.1 h'.2
    rw [dumpsCompactItems, List.append_assoc, List.append_assoc]
    refine .more (reads_dumpsCompact j _ h (stops_cons rfl)) rfl ?_
    change ReadsItems rt (skipWs (dumpsCompact j' ++ (dumpsCompactItems js ++ 93 :: r))) _ r
    rw [skipWs_dumpsCompact h'.1]
    exact hitems
termination_by j js => sizeOf (j :: js)

/-- The printed fields of an object are read back, up to and including the brace that closes it.
-/
theorem readsFields_dumpsCompact : ∀ (k : Str) (j : Json) (fs : List (Str × Json)) (r : Str),
    printable rt j = true → allAtomsFields (printableAtom rt) fs = true →
    ReadsFields rt (dumpsStr k ++ (lit ":" ++ (dumpsCompact j ++
      (dumpsCompactFields fs ++ 125 :: r)))) ((k, j) :: fs) r
  | k, j, [], r, h, _ => by
    have hvalue : Reads rt (skipWs (dumpsCompact j ++ 125 :: r)) j (125 :: r) := by
      rw [skipWs_dumpsCompact h]
      exact reads_dumpsCompact j (125 :: r) h (stops_cons rfl)
    rw [dumpsStr, List.cons_append, List.append_assoc]
    exact .last (scanString_dumpsStr k _) rfl hvalue rfl
  | k, j, (k', j') :: fs, r, h, h' => by
    rw [allAtomsFields, Bool.and_eq_true] at h'
    have hfields := readsFields_dumpsCompact k' j' fs r h'.1 h'.2
    have hvalue : ∀ x, Stops x → Reads rt (skipWs (dumpsCompact j ++ x)) j x := by
      intro x hx
      rw [skipWs_dumpsCompact h]
      exact reads_dumpsCompact j x h hx
    rw [dumpsStr, List.cons_append, List.append_assoc]
    rw [dumpsCompactFields, List.append_assoc, List.append_assoc, List.append_assoc,
      List.append_assoc]
    exact .more (scanString_dumpsStr k _) rfl (hvalue _ (stops_cons rfl)) rfl hfields
termination_by k j fs => sizeOf ((k, j) :: fs)
end

end Decode

/-! ### The decoder without a hook -/

namespace Loads

variable {rt : Runtime}

/-- A new key is put behind the others. -/
theorem set_new {d : Dict} {key : Str} {value : Json} (h : key ∉ d.keys) :
    Dict.set d key value = d ++ [(key, value)] := by
  induction d with
  | nil => rfl
  | cons f d ih =>
    obtain ⟨k, v⟩ := f
    have hk : k ≠ key := fun heq => h (heq ▸ List.mem_cons_self)
    rw [Dict.set, if_neg hk, ih fun hmem => h (List.mem_cons_of_mem _ hmem), List.cons_append]

/-- Updating with keys that are new and distinct appends the pairs. -/
theorem update_new {d d' : Dict} (h : (d.keys ++ d'.keys).Nodup) : Dict.update d d' = d ++ d' := by
  induction d' generalizing d with
  | nil => exact (List.append_nil d).symm
  | cons f d' ih =>
    obtain ⟨k, v⟩ := f
    have hkeys : d.keys ++ Dict.keys ((k, v) :: d') =
        Dict.keys (d ++ [(k, v)]) ++ Dict.keys d' := by
      simp [Dict.keys]
    have hnew : k ∉ d.keys := fun hmem =>
      (List.nodup_append.1 h).2.2 k hmem k List.mem_cons_self rfl
    have hset : Dict.update d ((k, v) :: d') = Dict.update (Dict.set d k v) d' := rfl
    rw [hset, set_new hnew, ih (hkeys ▸ h), List.append_assoc]
    rfl

/-- A dictionary of distinct pairs is that of the pairs. -/
theorem dictOf_eq {pairs : List (Str × Json)} (h : (pairs.map Prod.fst).Nodup) :
    dictOf pairs = pairs := update_new h

/-- An atom is read alike with and without the hook. -/
theorem scanAtom_of_decode {s r : Str} {j : Json} (h : Decode.scanAtom rt s = .ok (j, r)) :
    scanAtom rt s = .ok (j, r) := by
  unfold scanAtom
  rw [h]

/-- A string is read alike with and without the hook. -/
theorem scanString_of_decode {s t r : Str} (h : Decode.scanString s = .ok (t, r)) :
    scanString s = .ok (t, r) := by
  unfold scanString
  rw [h]

/-- With so much fuel, what the hook lets through is read without it as well. -/
structure ReadAlike (rt : Runtime) (fuel : ℕ) : Prop where
  value : ∀ d s j r, Decode.scanOnce rt fuel d s = .ok (j, r) → scanOnce rt fuel d s = .ok (j, r)
  fields : ∀ d s pairs r, Decode.scanFields rt fuel d s = .ok (pairs, r) →
    scanFields rt fuel d s = .ok (pairs, r)
  items : ∀ d s items r, Decode.scanItems rt fuel d s = .ok (items, r) →
    scanItems rt fuel d s = .ok (items, r)

/-- A value: the hook changes nothing about strings, arrays and atoms. -/
theorem ReadAlike.succ_value {fuel : ℕ} (ih : ReadAlike rt fuel) {d : ℕ} {s r : Str} {j : Json}
    (h : Decode.scanOnce rt (fuel + 1) d s = .ok (j, r)) :
    Loads.scanOnce rt (fuel + 1) d s = .ok (j, r) := by
  unfold Decode.scanOnce at h
  simp only [bind, Except.bind] at h
  split at h
  · split at h
    · cases h
    rename_i hstring
    cases h
    rw [Loads.scanOnce, scanString_of_decode hstring]
    rfl
  · split at h
    · cases h
    rename_i d'
    split at h
    · rename_i hnil
      cases h
      simp only [Loads.scanOnce, hnil]
    rename_i hne
    split at h
    · cases h
    rename_i hfields
    split at h
    · cases h
    rename_i hreject
    cases h
    obtain ⟨rfl, hnd⟩ := Decode.rejectDuplicateKeys_ok hreject
    have hscan := ih.fields _ _ _ _ hfields
    rw [Loads.scanOnce]
    dsimp only
    split
    · rename_i hnil
      exact absurd hnil (hne _)
    · rw [hscan]
      show Except.ok (Json.obj (dictOf _), _) = _
      rw [dictOf_eq hnd]
  · split at h
    · cases h
    rename_i d'
    split at h
    · rename_i hnil
      cases h
      simp only [Loads.scanOnce, hnil]
    rename_i hne
    split at h
    · cases h
    rename_i hitems
    cases h
    have hscan := ih.items _ _ _ _ hitems
    rw [Loads.scanOnce]
    dsimp only
    split
    · rename_i hnil
      exact absurd hnil (hne _)
    · rw [hscan]
      rfl
  · rename_i hstr hobj harr
    rw [Loads.scanOnce, scanAtom_of_decode h]
    · rintro s' rfl
      exact hstr _ rfl
    · rintro s' rfl
      exact hobj _ rfl
    · rintro s' rfl
      exact harr _ rfl

/-- Fields are read alike: a key, a colon, a value, and what the decoder does next. -/
theorem ReadAlike.succ_fields {fuel : ℕ} (ih : ReadAlike rt fuel) {d : ℕ} {s r : Str}
    {pairs : List (Str × Json)} (h : Decode.scanFields rt (fuel + 1) d s = .ok (pairs, r)) :
    Loads.scanFields rt (fuel + 1) d s = .ok (pairs, r) := by
  unfold Decode.scanFields at h
  simp only [bind, Except.bind] at h
  split at h
  · split at h
    · cases h
    rename_i hkey
    rw [Loads.scanFields, scanString_of_decode hkey]
    split at h
    · rename_i hcolon
      split at h
      · cases h
      rename_i hvalue
      have hscan := ih.value _ _ _ _ hvalue
      split at h
      · rename_i hend
        cases h
        simp only [hcolon, hscan, hend, bind, Except.bind]
      · rename_i hcomma
        split at h
        · cases h
        rename_i hfields
        cases h
        simp only [hcolon, hscan, hcomma, ih.fields _ _ _ _ hfields, bind, Except.bind]
      · cases h
    · cases h
  · cases h

/-- Items are read alike: a value, and what the decoder does next. -/
theorem ReadAlike.succ_items {fuel : ℕ} (ih : ReadAlike rt fuel) {d : ℕ} {s r : Str}
    {items : List Json} (h : Decode.scanItems rt (fuel + 1) d s = .ok (items, r)) :
    Loads.scanItems rt (fuel + 1) d s = .ok (items, r) := by
  unfold Decode.scanItems at h
  simp only [bind, Except.bind] at h
  split at h
  · cases h
  rename_i hvalue
  have hscan := ih.value _ _ _ _ hvalue
  split at h
  · rename_i hend
    cases h
    simp only [Loads.scanItems, hscan, hend, bind, Except.bind]
  · rename_i hcomma
    split at h
    · cases h
    rename_i hitems
    cases h
    simp only [Loads.scanItems, hscan, hcomma, ih.items _ _ _ _ hitems, bind, Except.bind]
  · cases h

/-- **What the hook lets through** is read without it as well. -/
theorem scan_of_decode (rt : Runtime) (fuel : ℕ) : ReadAlike rt fuel := by
  induction fuel with
  | zero => exact ⟨fun _ _ _ _ h => by simp [Decode.scanOnce] at h,
      fun _ _ _ _ h => by simp [Decode.scanFields] at h,
      fun _ _ _ _ h => by simp [Decode.scanItems] at h⟩
  | succ fuel ih =>
    exact ⟨fun _ _ _ _ => ih.succ_value, fun _ _ _ _ => ih.succ_fields,
      fun _ _ _ _ => ih.succ_items⟩

end Loads

/-! ### What a stored value is read back as -/

namespace Decode

open Json

/-- No object repeats a key when none does in any field. -/
theorem distinctFields_eq_all (fields : List (Str × Json)) :
    distinctFields fields = fields.all fun f => distinct f.2 := by
  induction fields with
  | nil => rfl
  | cons f fields ih =>
    obtain ⟨k, j⟩ := f
    rw [distinctFields, ih]
    rfl

/-- The depth of fields is the greatest depth of a value among them. -/
theorem depthFields_eq_foldr (fields : List (Str × Json)) :
    depthFields fields = (fields.map fun f => depth f.2).foldr max 0 := by
  induction fields with
  | nil => rfl
  | cons f fields ih =>
    obtain ⟨k, j⟩ := f
    rw [depthFields, ih]
    rfl

mutual
/-- Sorting the keys of a value makes none of them equal. -/
theorem distinct_canon : ∀ j : Json, distinct (canon j) = distinct j
  | .null | .bool _ | .int _ | .float _ | .str _ => rfl
  | .arr items => distinctItems_canonItems items
  | .obj fields => by
    have hkeys : ((sortFields (canonFields fields)).map Prod.fst).Nodup ↔
        (fields.map Prod.fst).Nodup := (Dict.keys_canon_perm fields).nodup_iff
    show (decide ((sortFields (canonFields fields)).map Prod.fst).Nodup &&
      distinctFields (sortFields (canonFields fields))) = _
    rw [decide_eq_decide.2 hkeys, distinctFields_eq_all, (sortFields_perm _).all_eq,
      ← distinctFields_eq_all, distinctFields_canonFields fields]
    rfl

/-- Sorting the keys inside the items repeats no key. -/
theorem distinctItems_canonItems :
    ∀ items : List Json, distinctItems (canonItems items) = distinctItems items
  | [] => rfl
  | j :: js => by
    rw [canonItems, distinctItems, distinctItems, distinct_canon j, distinctItems_canonItems js]

/-- Sorting the keys inside the fields repeats no key. -/
theorem distinctFields_canonFields :
    ∀ fields : List (Str × Json), distinctFields (canonFields fields) = distinctFields fields
  | [] => rfl
  | (k, j) :: fs => by
    rw [canonFields, distinctFields, distinctFields, distinct_canon j,
      distinctFields_canonFields fs]
end

mutual
/-- Sorting keys changes no depth. -/
theorem depth_canon : ∀ j : Json, depth (canon j) = depth j
  | .null | .bool _ | .int _ | .float _ | .str _ => rfl
  | .arr items => congrArg (· + 1) (depthItems_canonItems items)
  | .obj fields => by
    show depthFields (sortFields (canonFields fields)) + 1 = depthFields fields + 1
    rw [depthFields_eq_foldr, ((sortFields_perm _).map _).foldr_eq, ← depthFields_eq_foldr,
      depthFields_canonFields fields]

/-- Sorting the keys inside the items changes no depth. -/
theorem depthItems_canonItems :
    ∀ items : List Json, depthItems (canonItems items) = depthItems items
  | [] => rfl
  | j :: js => by
    rw [canonItems, depthItems, depthItems, depth_canon j, depthItems_canonItems js]

/-- Sorting the keys inside the fields changes no depth. -/
theorem depthFields_canonFields :
    ∀ fields : List (Str × Json), depthFields (canonFields fields) = depthFields fields
  | [] => rfl
  | (k, j) :: fs => by
    rw [canonFields, depthFields, depthFields, depth_canon j, depthFields_canonFields fs]
end

end Decode

open Decode Json

variable {rt : Runtime}

/-- **`json.loads` reads a printed value back**, when its objects repeat no key and it is nested
within the recursion limit. -/
theorem loads_dumpsCompact {j : Json} (h : printable rt j = true) (hdistinct : distinct j = true)
    (hdepth : depth j ≤ rt.recursionLimit) : loads rt (dumpsCompact j) = .ok j := by
  have hreads : Reads rt (dumpsCompact j ++ []) j [] :=
    reads_dumpsCompact j [] h (by rintro _ ⟨⟩)
  rw [List.append_nil] at hreads
  have hskip := skipWs_dumpsCompact h []
  rw [List.append_nil] at hskip
  have hdecode : scanOnce rt (2 * (dumpsCompact j).length + 2) rt.recursionLimit
      (dumpsCompact j) = .ok (j, []) :=
    hreads.scan hdistinct hdepth (by rw [List.length_nil]; omega)
  have hscan := (Loads.scan_of_decode rt _).value _ _ _ _ hdecode
  obtain ⟨c, t, heq, -, hascii, -⟩ := head_dumpsCompact h
  have hmark : ¬ (dumpsCompact j).head? = some 0xFEFF := by
    rw [heq]
    intro hhead
    obtain rfl := Option.some.inj hhead
    omega
  unfold loads
  rw [if_neg hmark]
  dsimp only
  rw [hskip, hscan]
  rfl

end CouncilLogic
