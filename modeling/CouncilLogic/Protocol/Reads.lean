/-
# JSON text

`Reads s j r`: the text `s` begins with JSON text of the value `j`, and `r` is what
follows it.  This is what the decoder of the standard library accepts without a hook:
repeated keys are kept, and no depth is too much.  Unlike the decoder the relation has no
fuel, so facts about all JSON text are inductions over it: text that follows does not
change what was read (`Reads.append`), and a text is read in one way (`Reads.unique`).

The parts of a number are those of the regular expression in the standard library's scanner; they
are taken greedily, so that the relation has to say where a number ends.  `isStop` are the
characters that may follow a value inside a list or an object: a comma, a closing bracket or
brace, white space.  For every other kind of value its own last character ends it.

The decoder of `src/model_council/protocol.py` is compared with the relation in
`CouncilLogic.Protocol.Scan`, in both directions.
-/

import CouncilLogic.Protocol.Decode

namespace CouncilLogic
namespace Decode

variable {rt : Runtime}

mutual
/-- JSON text of a value, and what follows it. -/
inductive Reads (rt : Runtime) : Str → Json → Str → Prop
  | str {s t r : Str} (h : scanString s = .ok (t, r)) : Reads rt (34 :: s) (.str t) r
  | objNil {s r : Str} (h : skipWs s = 125 :: r) : Reads rt (123 :: s) (.obj []) r
  | obj {s r : Str} {pairs : List (Str × Json)} (h : ReadsFields rt (skipWs s) pairs r) :
      Reads rt (123 :: s) (.obj pairs) r
  | arrNil {s r : Str} (h : skipWs s = 93 :: r) : Reads rt (91 :: s) (.arr []) r
  | arr {s r : Str} {items : List Json} (hne : (skipWs s).head? ≠ some 93)
      (h : ReadsItems rt (skipWs s) items r) : Reads rt (91 :: s) (.arr items) r
  | atom {s r : Str} {j : Json} (hstr : s.head? ≠ some 34) (hobj : s.head? ≠ some 123)
      (harr : s.head? ≠ some 91) (h : scanAtom rt s = .ok (j, r)) : Reads rt s j r

/-- The fields of an object, up to its closing brace. -/
inductive ReadsFields (rt : Runtime) : Str → List (Str × Json) → Str → Prop
  | last {s s₁ s₂ s₃ r key : Str} {value : Json} (hkey : scanString s = .ok (key, s₁))
      (hcolon : skipWs s₁ = 58 :: s₂) (hvalue : Reads rt (skipWs s₂) value s₃)
      (hend : skipWs s₃ = 125 :: r) : ReadsFields rt (34 :: s) [(key, value)] r
  | more {s s₁ s₂ s₃ s₄ r key : Str} {value : Json} {pairs : List (Str × Json)}
      (hkey : scanString s = .ok (key, s₁)) (hcolon : skipWs s₁ = 58 :: s₂)
      (hvalue : Reads rt (skipWs s₂) value s₃) (hcomma : skipWs s₃ = 44 :: s₄)
      (hrest : ReadsFields rt (skipWs s₄) pairs r) :
      ReadsFields rt (34 :: s) ((key, value) :: pairs) r

/-- The items of an array, up to its closing bracket. -/
inductive ReadsItems (rt : Runtime) : Str → List Json → Str → Prop
  | last {s s₁ r : Str} {value : Json} (hvalue : Reads rt s value s₁)
      (hend : skipWs s₁ = 93 :: r) : ReadsItems rt s [value] r
  | more {s s₁ s₂ r : Str} {value : Json} {items : List Json} (hvalue : Reads rt s value s₁)
      (hcomma : skipWs s₁ = 44 :: s₂) (hrest : ReadsItems rt (skipWs s₂) items r) :
      ReadsItems rt s (value :: items) r
end

/-! ### Atoms -/

/-- A value that is no array and no object. -/
def IsAtom (j : Json) : Prop := (∀ items, j ≠ .arr items) ∧ ∀ fields, j ≠ .obj fields

/-! ### The parts of a number -/

/-- The sign of a number, and what follows it. -/
def signedBody (s : Str) : Str × Str :=
  match s with
  | 45 :: r => ([45], r)
  | _ => ([], s)

def integerPart (body : Str) : Str :=
  match body with
  | 48 :: _ => [48]
  | _ => body.takeWhile isDigit

def fractionPart (rest : Str) : Str :=
  match rest with
  | 46 :: r => if (r.takeWhile isDigit) = [] then [] else 46 :: r.takeWhile isDigit
  | _ => []

def signedExponent (r : Str) : Str × Str :=
  match r with
  | c :: r' => if c = 43 ∨ c = 45 then ([c], r') else ([], c :: r')
  | [] => ([], [])

def exponentPart (rest : Str) : Str :=
  match rest with
  | e :: r =>
    if e = 69 ∨ e = 101 then
      if ((signedExponent r).2.takeWhile isDigit) = [] then []
      else e :: (signedExponent r).1 ++ (signedExponent r).2.takeWhile isDigit
    else []
  | [] => []

/-- The parts of the number at the beginning of a text, and what follows them. -/
structure NumberParts where
  sign : Str
  digits : Str
  fraction : Str
  exponent : Str
  rest : Str

def numberParts (s : Str) : NumberParts :=
  let body := (signedBody s).2
  let digits := integerPart body
  let afterDigits := body.drop digits.length
  let fraction := fractionPart afterDigits
  let afterFraction := afterDigits.drop fraction.length
  let exponent := exponentPart afterFraction
  ⟨(signedBody s).1, digits, fraction, exponent, afterFraction.drop exponent.length⟩

/-- The value of the parts. -/
def NumberParts.value (rt : Runtime) (p : NumberParts) : Except DecodeErr (Json × Str) :=
  if p.digits = [] then .error .value
  else if p.fraction = [] ∧ p.exponent = [] then
    if maxIntDigits < p.digits.length then .error .value
    else .ok (.int (if p.sign = [] then digitsValue p.digits else -digitsValue p.digits), p.rest)
  else .ok (.float (rt.floatRepr (p.sign ++ p.digits ++ p.fraction ++ p.exponent)), p.rest)

/-- The scanner of a number reads its parts and then their value. -/
theorem scanNumber_eq (s : Str) : scanNumber rt s = (numberParts s).value rt := rfl

/-- A number is no list and no object. -/
theorem scanNumber_isAtom {s r : Str} {j : Json} (h : scanNumber rt s = .ok (j, r)) :
    IsAtom j := by
  rw [scanNumber_eq] at h
  unfold NumberParts.value at h
  split_ifs at h
  all_goals
    cases h
    exact ⟨fun _ => nofun, fun _ => nofun⟩

/-- What the scanner of atoms reads is an atom. -/
theorem scanAtom_isAtom {s r : Str} {j : Json} (h : scanAtom rt s = .ok (j, r)) : IsAtom j := by
  unfold scanAtom at h
  split_ifs at h
  · cases h
    exact ⟨fun _ => nofun, fun _ => nofun⟩
  · cases h
    exact ⟨fun _ => nofun, fun _ => nofun⟩
  · cases h
    exact ⟨fun _ => nofun, fun _ => nofun⟩
  · cases h
    exact ⟨fun _ => nofun, fun _ => nofun⟩
  · cases h
    exact ⟨fun _ => nofun, fun _ => nofun⟩
  · cases h
    exact ⟨fun _ => nofun, fun _ => nofun⟩
  · exact scanNumber_isAtom h

/-! ### Text that follows -/

/-- A text that ends within an escape is no string. -/
theorem scanString_cut {s x : Str} {e f g h : ℕ} {rest : Str}
    (hs : ∀ e f g h rest, s ≠ 92 :: 117 :: e :: f :: g :: h :: rest)
    (heq : s ++ x = 92 :: 117 :: e :: f :: g :: h :: rest) : scanString s = .error .value := by
  match s, hs, heq with
  | [], _, _ => rfl
  | [a], _, heq => 
    obtain rfl : a = 92 := (List.cons.inj heq).1
    rfl
  | a :: b :: s, hs, heq => 
    obtain rfl : a = 92 := (List.cons.inj heq).1
    obtain rfl : b = 117 := (List.cons.inj (List.cons.inj heq).2).1
    match s, hs with
    | [], _ => rfl
    | [_], _ => rfl
    | [_, _], _ => rfl
    | [_, _, _], _ => rfl
    | _ :: _ :: _ :: _ :: _, hs => exact absurd rfl (hs _ _ _ _ _)

/-- Where a scan of the rest is a step of a scan. -/
theorem bind_scan_ok {e : Except DecodeErr (Str × Str)} {c : ℕ} {t r : Str}
    (h : (do let (s, rest) ← e; .ok (c :: s, rest)) = Except.ok (t, r)) :
    ∃ s, e = .ok (s, r) ∧ t = c :: s := by
  cases e with
  | error e => cases h
  | ok p =>
    cases h
    exact ⟨p.1, rfl, rfl⟩

/-- **Text that follows a string** does not change it. -/
theorem scanString_append {s t r : Str} (x : Str) (h : scanString s = .ok (t, r)) :
    scanString (s ++ x) = .ok (t, r ++ x) := by
  fun_induction scanString s generalizing t r with
  | case1 => cases h
  | case2 => 
    cases h
    rfl
  | case3 => cases h
  | case4 => cases h
  | case5 a b c d e f g h' rest u hu hhigh v hv hlow ih => 
    obtain ⟨s, hs, rfl⟩ := bind_scan_ok h
    simp only [List.cons_append, scanString, hu, hhigh, hv, hlow, if_true, ih hs]
    rfl
  | case6 a b c d e f g h' rest u hu hhigh v hv hlow ih => 
    obtain ⟨s, hs, rfl⟩ := bind_scan_ok h
    have hs' := ih hs
    simp only [List.cons_append] at hs' ⊢
    rw [scanString]
    simp only [hu, hhigh, hv, hlow, if_true, hs']
    rfl
  | case7 a b c d e f g h' rest u hu hhigh ih => 
    obtain ⟨s, hs, rfl⟩ := bind_scan_ok h
    have hs' := ih hs
    simp only [List.cons_append] at hs' ⊢
    rw [scanString]
    simp only [hu, hhigh, hs']
    rfl
  | case8 => cases h
  | case9 a b c d rest hne u hu ih =>
    obtain ⟨s, hs, rfl⟩ := bind_scan_ok h
    have hne' : ∀ e f g h rest', rest ++ x ≠ 92 :: 117 :: e :: f :: g :: h :: rest' := by
      intro e f g h rest' heq
      rw [scanString_cut hne heq] at hs
      cases hs
    simp only [List.cons_append]
    rw [scanString]
    · simp only [hu, ih hs]
      rfl
    · exact hne'
  | case10 => cases h
  | case11 c rest hne hne' u hu ih =>
    obtain ⟨s, hs, rfl⟩ := bind_scan_ok h
    have hc : c ≠ 117 := by
      rintro rfl
      cases hu
    simp only [List.cons_append]
    rw [scanString]
    · simp only [hu, ih hs]
      rfl
    · exact fun _ _ _ _ _ _ _ _ _ heq => absurd heq hc
    · exact fun _ _ _ _ _ heq => absurd heq hc
  | case12 => cases h
  | case13 c rest hquote hpair hshort hescape hc ih =>
    obtain ⟨s, hs, rfl⟩ := bind_scan_ok h
    rw [not_or] at hc
    rw [List.cons_append, scanString]
    · rw [if_neg (not_or.2 hc), ih hs]
      rfl
    · exact hquote
    · exact fun _ _ _ _ _ _ _ _ _ heq => absurd heq hc.2
    · exact fun _ _ _ _ _ heq => absurd heq hc.2
    · exact fun _ _ heq => absurd heq hc.2

/-- A character that may follow a value inside an array or an object. -/
def isStop (c : ℕ) : Bool := isWs c || c == 44 || c == 93 || c == 125

/-- Behind white space the same character stands, whatever is appended. -/
theorem skipWs_append {s r : Str} {c : ℕ} (x : Str) (h : skipWs s = c :: r) :
    skipWs (s ++ x) = c :: (r ++ x) := by
  unfold skipWs at h ⊢
  rw [List.dropWhile_append, h]
  rfl

/-- What is taken before something else is taken alike when text is appended. -/
theorem takeWhile_append_of_drop {p : ℕ → Bool} {s : Str} (x : Str)
    (h : s.drop (s.takeWhile p).length ≠ []) : (s ++ x).takeWhile p = s.takeWhile p := by
  rw [List.takeWhile_append, if_neg]
  intro hlength
  rw [hlength] at h
  exact h List.drop_length

/-- The sign of a text that is not empty does not depend on what is appended. -/
theorem signedBody_append {s : Str} (x : Str) (h : s ≠ []) :
    signedBody (s ++ x) = ((signedBody s).1, (signedBody s).2 ++ x) := by
  obtain ⟨c, s, rfl⟩ := List.exists_cons_of_ne_nil h
  unfold signedBody
  by_cases hc : c = 45
  · subst hc
    rfl
  · simp only [List.cons_append]
    split
    · rename_i heq
      exact absurd (List.cons.inj heq).1 hc
    · split
      · rename_i heq
        exact absurd (List.cons.inj heq).1 hc
      · rfl

/-- The integer part that is followed by something does not grow. -/
theorem integerPart_append {s : Str} (x : Str) (h : s.drop (integerPart s).length ≠ []) :
    integerPart (s ++ x) = integerPart s := by
  cases s with
  | nil => exact absurd rfl h
  | cons c s =>
    by_cases hc : c = 48
    · subst hc
      rfl
    · have hpart : ∀ s : Str, integerPart (c :: s) = (c :: s).takeWhile isDigit := by
        intro s
        unfold integerPart
        split
        · rename_i heq
          exact absurd (List.cons.inj heq).1 hc
        · rfl
      rw [hpart] at h
      rw [List.cons_append, hpart, hpart, ← List.cons_append, takeWhile_append_of_drop x h]

/-- What follows a fraction does not belong to it, unless it begins with the point. -/
theorem fractionPart_append {s : Str} (x : Str) (h : s.drop (fractionPart s).length ≠ [])
    (hpoint : (s.drop (fractionPart s).length).head? ≠ some 46) :
    fractionPart (s ++ x) = fractionPart s := by
  cases s with
  | nil => exact absurd rfl h
  | cons c s =>
    by_cases hc : c = 46
    · subst hc
      have hpart : ∀ s : Str, fractionPart (46 :: s) =
          if s.takeWhile isDigit = [] then [] else 46 :: s.takeWhile isDigit := fun s => rfl
      rw [hpart] at h hpoint
      by_cases hnil : s.takeWhile isDigit = []
      · rw [if_pos hnil] at hpoint
        exact absurd rfl hpoint
      · rw [if_neg hnil, List.length_cons, List.drop_succ_cons] at h
        rw [List.cons_append, hpart, hpart, takeWhile_append_of_drop x h]
    · have hpart : ∀ s : Str, fractionPart (c :: s) = [] := by
        intro s
        unfold fractionPart
        split
        · rename_i heq
          exact absurd (List.cons.inj heq).1 hc
        · rfl
      rw [List.cons_append, hpart, hpart]

/-- The sign of an exponent does not depend on what is appended. -/
theorem signedExponent_append {s : Str} (x : Str) (h : s ≠ []) :
    signedExponent (s ++ x) = ((signedExponent s).1, (signedExponent s).2 ++ x) := by
  obtain ⟨c, s, rfl⟩ := List.exists_cons_of_ne_nil h
  unfold signedExponent
  simp only [List.cons_append]
  split <;> rfl

/-- An exponent that is followed by something does not grow. -/
theorem exponentPart_append {s : Str} (x : Str) (h : s.drop (exponentPart s).length ≠ [])
    (hstart : ∀ e ∈ (s.drop (exponentPart s).length).head?, e ≠ 69 ∧ e ≠ 101) :
    exponentPart (s ++ x) = exponentPart s := by
  cases s with
  | nil => exact absurd rfl h
  | cons e s =>
    have hpart : ∀ s : Str, exponentPart (e :: s) =
        if e = 69 ∨ e = 101 then
          if (signedExponent s).2.takeWhile isDigit = [] then []
          else e :: (signedExponent s).1 ++ (signedExponent s).2.takeWhile isDigit
        else [] := fun s => rfl
    rw [List.cons_append, hpart, hpart]
    rw [hpart] at h hstart
    by_cases he : e = 69 ∨ e = 101
    · rw [if_pos he] at h hstart
      rw [if_pos he, if_pos he]
      by_cases hnil : (signedExponent s).2.takeWhile isDigit = []
      · rw [if_pos hnil] at hstart
        obtain ⟨h1, h2⟩ := hstart e rfl
        exact absurd he (not_or.2 ⟨h1, h2⟩)
      · rw [if_neg hnil] at h
        have hs : s ≠ [] := by
          rintro rfl
          exact hnil rfl
        have hsplit : s = (signedExponent s).1 ++ (signedExponent s).2 := by
          obtain ⟨c, s, rfl⟩ := List.exists_cons_of_ne_nil hs
          unfold signedExponent
          dsimp only
          split <;> rfl
        have hrest : (signedExponent s).2.drop
            ((signedExponent s).2.takeWhile isDigit).length ≠ [] := by
          intro heq
          refine h ?_
          have hdrop : s.drop (signedExponent s).1.length = (signedExponent s).2 := by
            conv_lhs => arg 2; rw [hsplit]
            exact List.drop_left
          rw [List.cons_append, List.length_cons, List.drop_succ_cons, List.length_append,
            ← List.drop_drop, hdrop, heq]
        rw [signedExponent_append x hs]
        dsimp only
        rw [takeWhile_append_of_drop x hrest]
    · rw [if_neg he, if_neg he]

/-- Dropping within a text leaves what is appended. -/
theorem drop_append_of_ne {s : Str} {n : ℕ} (x : Str) (h : s.drop n ≠ []) :
    (s ++ x).drop n = s.drop n ++ x := by
  refine List.drop_append_of_le_length (Nat.le_of_lt ?_)
  by_contra hle
  exact h (List.drop_eq_nil_of_le (not_lt.1 hle))

/-- A stop begins no fraction and no exponent. -/
theorem isStop_not {c : ℕ} (h : isStop c = true) : c ≠ 46 ∧ c ≠ 69 ∧ c ≠ 101 := by
  refine ⟨?_, ?_, ?_⟩
  all_goals
    rintro rfl
    cases h

/-- **A number that a stop follows** has the same parts when text is appended. -/
theorem numberParts_append {s r : Str} {c : ℕ} (x : Str) (hc : isStop c = true)
    (h : (numberParts s).rest = c :: r) :
    numberParts (s ++ x) = { numberParts s with rest := c :: (r ++ x) } := by
  obtain ⟨hpoint, hupper, hlower⟩ := isStop_not hc
  have hs : s ≠ [] := by
    rintro rfl
    have hnil : (numberParts []).rest = [] := rfl
    rw [hnil] at h
    cases h
  unfold numberParts at h ⊢
  dsimp only at h ⊢
  have hdigits : (signedBody s).2.drop (integerPart (signedBody s).2).length ≠ [] := by
    intro heq
    rw [heq, List.drop_nil, List.drop_nil] at h
    cases h
  rw [signedBody_append x hs]
  dsimp only
  rw [integerPart_append x hdigits, drop_append_of_ne x hdigits]
  generalize (signedBody s).2.drop (integerPart (signedBody s).2).length = s₁ at h ⊢
  have hfraction : s₁.drop (fractionPart s₁).length ≠ [] := by
    intro heq
    rw [heq, List.drop_nil] at h
    cases h
  have hfirst : (s₁.drop (fractionPart s₁).length).head? ≠ some 46 := by
    intro heq
    obtain ⟨tail, htail⟩ := List.head?_eq_some_iff.1 heq
    rw [htail] at h
    have hnone : exponentPart (46 :: tail) = [] := rfl
    rw [hnone] at h
    exact hpoint (List.cons.inj h).1.symm
  rw [fractionPart_append x hfraction hfirst, drop_append_of_ne x hfraction]
  generalize s₁.drop (fractionPart s₁).length = s₂ at h ⊢
  have hexponent : s₂.drop (exponentPart s₂).length ≠ [] := by
    rw [h]
    exact List.cons_ne_nil c r
  have hstart : ∀ e ∈ (s₂.drop (exponentPart s₂).length).head?, e ≠ 69 ∧ e ≠ 101 := by
    rw [h]
    rintro e he
    obtain rfl : c = e := Option.some.inj he
    exact ⟨hupper, hlower⟩
  rw [exponentPart_append x hexponent hstart, drop_append_of_ne x hexponent, h]
  rfl

/-- The value of a number does not depend on what follows. -/
theorem NumberParts.value_ok {p : NumberParts} {j : Json} {r : Str}
    (h : p.value rt = .ok (j, r)) :
    p.rest = r ∧ ∀ r', { p with rest := r' }.value rt = .ok (j, r') := by
  obtain ⟨sign, digits, fraction, exponent, rest⟩ := p
  unfold NumberParts.value at h ⊢
  dsimp only at h ⊢
  by_cases hdigits : digits = []
  · rw [if_pos hdigits] at h
    cases h
  rw [if_neg hdigits] at h
  by_cases hint : fraction = [] ∧ exponent = []
  · rw [if_pos hint] at h
    by_cases hlong : maxIntDigits < digits.length
    · rw [if_pos hlong] at h
      cases h
    · rw [if_neg hlong] at h
      cases h
      exact ⟨rfl, fun r' => by rw [if_neg hdigits, if_pos hint, if_neg hlong]⟩
  · rw [if_neg hint] at h
    cases h
    exact ⟨rfl, fun r' => by rw [if_neg hdigits, if_neg hint]⟩

/-- **Text that follows a number** does not change it, if the number has ended. -/
theorem scanNumber_append {s r : Str} {c : ℕ} {j : Json} (x : Str) (hc : isStop c = true)
    (h : scanNumber rt s = .ok (j, c :: r)) : scanNumber rt (s ++ x) = .ok (j, c :: (r ++ x)) := by
  rw [scanNumber_eq] at h
  obtain ⟨hrest, hvalue⟩ := NumberParts.value_ok h
  rw [scanNumber_eq, numberParts_append x hc hrest]
  exact hvalue _

/-! ### Literals -/

/-- The literals and their values. -/
inductive IsLiteral : Str → Json → Prop
  | null : IsLiteral (lit "null") .null
  | true : IsLiteral (lit "true") (.bool true)
  | false : IsLiteral (lit "false") (.bool false)
  | nan : IsLiteral (lit "NaN") (.float (lit "NaN"))
  | infinity : IsLiteral (lit "Infinity") (.float (lit "Infinity"))
  | negInfinity : IsLiteral (lit "-Infinity") (.float (lit "-Infinity"))

/-- An atom is a literal of the grammar, or a number. -/
theorem scanAtom_ok {s r : Str} {j : Json} (h : scanAtom rt s = .ok (j, r)) :
    (∃ l, IsLiteral l j ∧ s = l ++ r) ∨ scanNumber rt s = .ok (j, r) := by
  have hsplit : ∀ {l : Str}, l <+: s → s = l ++ s.drop l.length := fun hl =>
    (List.prefix_iff_eq_append.1 hl).symm
  unfold scanAtom at h
  split_ifs at h with h1 h2 h3 h4 h5 h6
  · cases h
    exact .inl ⟨_, .null, hsplit h1⟩
  · cases h
    exact .inl ⟨_, .true, hsplit h2⟩
  · cases h
    exact .inl ⟨_, .false, hsplit h3⟩
  · cases h
    exact .inl ⟨_, .nan, hsplit h4⟩
  · cases h
    exact .inl ⟨_, .infinity, hsplit h5⟩
  · cases h
    exact .inl ⟨_, .negInfinity, hsplit h6⟩
  · exact .inr h

/-- A literal is read in front of everything. -/
theorem scanAtom_literal {l : Str} {j : Json} (h : IsLiteral l j) (r : Str) :
    scanAtom rt (l ++ r) = .ok (j, r) := by
  cases h <;> rfl

/-- A number begins with a digit, or with a minus sign and a digit. -/
theorem scanNumber_head {s r : Str} {j : Json} (h : scanNumber rt s = .ok (j, r)) :
    (∃ c s', s = c :: s' ∧ isDigit c = true) ∨
      ∃ c s', s = 45 :: c :: s' ∧ isDigit c = true := by
  have hdigits : ∀ body : Str, integerPart body ≠ [] → ∃ c s', body = c :: s' ∧
    isDigit c = true := by
    intro body hne
    unfold integerPart at hne
    split at hne
    · exact ⟨48, _, rfl, rfl⟩
    · cases body with
      | nil => exact absurd rfl hne
      | cons c body =>
        rw [List.takeWhile_cons] at hne
        split at hne
        · rename_i hc
          exact ⟨c, body, rfl, hc⟩
        · exact absurd rfl hne
  rw [scanNumber_eq] at h
  have hne : integerPart (signedBody s).2 ≠ [] := by
    intro hnil
    have herror : (numberParts s).value rt = .error .value := if_pos hnil
    rw [herror] at h
    cases h
  obtain ⟨c, s', hbody, hc⟩ := hdigits _ hne
  unfold signedBody at hbody
  split at hbody
  · exact .inr ⟨c, s', congrArg (List.cons 45) hbody, hc⟩
  · exact .inl ⟨c, s', hbody, hc⟩

/-- A number begins with no literal. -/
theorem not_literal_begins {s l : Str} {j : Json}
    (hs : (∃ c s', s = c :: s' ∧ isDigit c = true) ∨ ∃ c s', s = 45 :: c :: s' ∧ isDigit c = true)
    (hl : IsLiteral l j) : ¬ l <+: s := by
  intro hbegins
  rcases hs with ⟨c, s', rfl, hc⟩ | ⟨c, s', rfl, hc⟩
  · cases hl <;>
      · obtain ⟨rfl, -⟩ := List.cons_prefix_cons.1 hbegins
        cases hc
  · cases hl with
    | negInfinity =>
      obtain ⟨-, hbegins⟩ := List.cons_prefix_cons.1 hbegins
      obtain ⟨rfl, -⟩ := List.cons_prefix_cons.1 hbegins
      cases hc
    | _ => exact absurd (List.cons_prefix_cons.1 hbegins).1 (by decide)

/-- A number is read as an atom. -/
theorem scanAtom_number {s r : Str} {j : Json} (h : scanNumber rt s = .ok (j, r)) :
    scanAtom rt s = .ok (j, r) := by
  have hhead := scanNumber_head h
  unfold scanAtom
  rw [if_neg (not_literal_begins hhead .null), if_neg (not_literal_begins hhead .true),
    if_neg (not_literal_begins hhead .false), if_neg (not_literal_begins hhead .nan),
    if_neg (not_literal_begins hhead .infinity), if_neg (not_literal_begins hhead .negInfinity), h]

/-- Text that follows an atom does not change it, if the atom has ended. -/
theorem scanAtom_append {s r : Str} {c : ℕ} {j : Json} (x : Str) (hc : isStop c = true)
    (h : scanAtom rt s = .ok (j, c :: r)) : scanAtom rt (s ++ x) = .ok (j, c :: (r ++ x)) := by
  rcases scanAtom_ok h with ⟨l, hl, rfl⟩ | hnumber
  · rw [List.append_assoc]
    exact scanAtom_literal hl _
  · exact scanAtom_number (scanNumber_append x hc hnumber)

/-- A value that has ended: it is no number, or a character follows that ends it. -/
def Ended (j : Json) (r : Str) : Prop := ¬ IsAtom j ∨ ∃ c r', r = c :: r' ∧ isStop c = true

/-- A value is ended by a stop behind white space. -/
theorem ended_of_skipWs {j : Json} {r r' : Str} {c : ℕ} (h : skipWs r = c :: r')
    (hc : isStop c = true) : Ended j r := by
  cases r with
  | nil => cases h
  | cons d r =>
    refine .inr ⟨d, r, rfl, ?_⟩
    unfold skipWs at h
    rw [List.dropWhile_cons] at h
    split at h
    · rename_i hd
      simp [isStop, hd]
    · rw [(List.cons.inj h).1]
      exact hc

/-- White space that is followed by something is passed alike when text is appended. -/
theorem skipWs_append_of_ne {s : Str} (x : Str) (h : skipWs s ≠ []) :
    skipWs (s ++ x) = skipWs s ++ x := by
  obtain ⟨c, r, hs⟩ := List.exists_cons_of_ne_nil h
  rw [skipWs_append x hs, hs]
  rfl

/-- No value is read from an empty text. -/
theorem Reads.ne_nil {s r : Str} {j : Json} (h : Reads rt s j r) : s ≠ [] := by
  cases h with
  | atom hstr hobj harr h =>
    rintro rfl
    rcases scanAtom_ok h with ⟨l, hl, hs⟩ | hnumber
    · cases hl <;> cases hs
    · rcases scanNumber_head hnumber with ⟨c, s', hs, -⟩ | ⟨c, s', hs, -⟩ <;> cases hs
  | _ => exact List.cons_ne_nil _ _

/-- No field is read from an empty text. -/
theorem ReadsFields.ne_nil {s r : Str} {pairs : List (Str × Json)}
    (h : ReadsFields rt s pairs r) : s ≠ [] := by
  cases h <;> exact List.cons_ne_nil _ _

/-- No item is read from an empty text. -/
theorem ReadsItems.ne_nil {s r : Str} {items : List Json} (h : ReadsItems rt s items r) :
    s ≠ [] := by
  cases h with
  | last hvalue _ => exact hvalue.ne_nil
  | more hvalue _ _ => exact hvalue.ne_nil

mutual
/-- **Text that follows a value** does not change it. -/
theorem Reads.append {s r : Str} {j : Json} (h : Reads rt s j r) (x : Str) (hj : Ended j r) :
    Reads rt (s ++ x) j (r ++ x) := by
  match h with
  | .str h => exact .str (scanString_append x h)
  | .objNil h => exact .objNil (skipWs_append x h)
  | .obj h =>
    rw [List.cons_append]
    refine .obj ?_
    rw [skipWs_append_of_ne x h.ne_nil]
    exact h.append x
  | .arrNil h => exact .arrNil (skipWs_append x h)
  | .arr hne h =>
    obtain ⟨c, s', hs⟩ := List.exists_cons_of_ne_nil h.ne_nil
    rw [List.cons_append]
    refine .arr ?_ ?_
    · rw [skipWs_append x hs]
      rwa [hs] at hne
    · rw [skipWs_append_of_ne x h.ne_nil]
      exact h.append x
  | .atom hstr hobj harr h =>
    obtain hatom | ⟨c, r', rfl, hc⟩ := hj
    · exact absurd (scanAtom_isAtom h) hatom
    · have hhead : (s ++ x).head? = s.head? :=
        List.head?_append_of_ne_nil _ (Reads.atom hstr hobj harr h).ne_nil
      exact .atom (hhead ▸ hstr) (hhead ▸ hobj) (hhead ▸ harr) (scanAtom_append x hc h)

/-- Text that follows the fields does not change what was read. -/
theorem ReadsFields.append {s r : Str} {pairs : List (Str × Json)}
    (h : ReadsFields rt s pairs r) (x : Str) : ReadsFields rt (s ++ x) pairs (r ++ x) := by
  match h with
  | .last hkey hcolon hvalue hend =>
    refine .last (scanString_append x hkey) (skipWs_append x hcolon) ?_ (skipWs_append x hend)
    rw [skipWs_append_of_ne x hvalue.ne_nil]
    exact hvalue.append x (ended_of_skipWs hend rfl)
  | .more hkey hcolon hvalue hcomma hrest =>
    refine .more (scanString_append x hkey) (skipWs_append x hcolon) ?_
      (skipWs_append x hcomma) ?_
    · rw [skipWs_append_of_ne x hvalue.ne_nil]
      exact hvalue.append x (ended_of_skipWs hcomma rfl)
    · rw [skipWs_append_of_ne x hrest.ne_nil]
      exact hrest.append x

/-- Text that follows the items does not change what was read. -/
theorem ReadsItems.append {s r : Str} {items : List Json} (h : ReadsItems rt s items r)
    (x : Str) : ReadsItems rt (s ++ x) items (r ++ x) := by
  match h with
  | .last hvalue hend =>
    exact .last (hvalue.append x (ended_of_skipWs hend rfl)) (skipWs_append x hend)
  | .more hvalue hcomma hrest =>
    refine .more (hvalue.append x (ended_of_skipWs hcomma rfl)) (skipWs_append x hcomma) ?_
    rw [skipWs_append_of_ne x hrest.ne_nil]
    exact hrest.append x
end

mutual
/-- **A text is read in one way.** -/
theorem Reads.unique {s r r' : Str} {j j' : Json} (h : Reads rt s j r) (h' : Reads rt s j' r') :
    j = j' ∧ r = r' := by
  match h, h' with
  | .str h, .str h' =>
    rw [h] at h'
    cases h'
    exact ⟨rfl, rfl⟩
  | .str _, .atom hstr _ _ _ => exact absurd rfl hstr
  | .objNil h, .objNil h' =>
    rw [h] at h'
    cases h'
    exact ⟨rfl, rfl⟩
  | .objNil h, .obj h' =>
    rw [h] at h'
    cases h'
  | .objNil _, .atom _ hobj _ _ => exact absurd rfl hobj
  | .obj h, .objNil h' =>
    rw [h'] at h
    cases h
  | .obj h, .obj h' =>
    obtain ⟨rfl, rfl⟩ := h.unique h'
    exact ⟨rfl, rfl⟩
  | .obj _, .atom _ hobj _ _ => exact absurd rfl hobj
  | .arrNil h, .arrNil h' =>
    rw [h] at h'
    cases h'
    exact ⟨rfl, rfl⟩
  | .arrNil h, .arr hne _ =>
    rw [h] at hne
    exact absurd rfl hne
  | .arrNil _, .atom _ _ harr _ => exact absurd rfl harr
  | .arr hne _, .arrNil h' =>
    rw [h'] at hne
    exact absurd rfl hne
  | .arr _ h, .arr _ h' =>
    obtain ⟨rfl, rfl⟩ := h.unique h'
    exact ⟨rfl, rfl⟩
  | .arr _ _, .atom _ _ harr _ => exact absurd rfl harr
  | .atom hstr _ _ _, .str _ => exact absurd rfl hstr
  | .atom _ hobj _ _, .objNil _ => exact absurd rfl hobj
  | .atom _ hobj _ _, .obj _ => exact absurd rfl hobj
  | .atom _ _ harr _, .arrNil _ => exact absurd rfl harr
  | .atom _ _ harr _, .arr _ _ => exact absurd rfl harr
  | .atom _ _ _ h, .atom _ _ _ h' =>
    rw [h] at h'
    cases h'
    exact ⟨rfl, rfl⟩

/-- The fields of a text are read in one way. -/
theorem ReadsFields.unique {s r r' : Str} {pairs pairs' : List (Str × Json)}
    (h : ReadsFields rt s pairs r) (h' : ReadsFields rt s pairs' r') :
    pairs = pairs' ∧ r = r' := by
  match h, h' with
  | .last hkey hcolon hvalue hend, .last hkey' hcolon' hvalue' hend' =>
    rw [hkey] at hkey'
    cases hkey'
    rw [hcolon] at hcolon'
    cases hcolon'
    obtain ⟨rfl, rfl⟩ := hvalue.unique hvalue'
    rw [hend] at hend'
    cases hend'
    exact ⟨rfl, rfl⟩
  | .last hkey hcolon hvalue hend, .more hkey' hcolon' hvalue' hcomma' _ =>
    rw [hkey] at hkey'
    cases hkey'
    rw [hcolon] at hcolon'
    cases hcolon'
    obtain ⟨rfl, rfl⟩ := hvalue.unique hvalue'
    rw [hend] at hcomma'
    cases hcomma'
  | .more hkey hcolon hvalue hcomma _, .last hkey' hcolon' hvalue' hend' =>
    rw [hkey] at hkey'
    cases hkey'
    rw [hcolon] at hcolon'
    cases hcolon'
    obtain ⟨rfl, rfl⟩ := hvalue.unique hvalue'
    rw [hcomma] at hend'
    cases hend'
  | .more hkey hcolon hvalue hcomma hrest, .more hkey' hcolon' hvalue' hcomma' hrest' =>
    rw [hkey] at hkey'
    cases hkey'
    rw [hcolon] at hcolon'
    cases hcolon'
    obtain ⟨rfl, rfl⟩ := hvalue.unique hvalue'
    rw [hcomma] at hcomma'
    cases hcomma'
    obtain ⟨rfl, rfl⟩ := hrest.unique hrest'
    exact ⟨rfl, rfl⟩

/-- The items of a text are read in one way. -/
theorem ReadsItems.unique {s r r' : Str} {items items' : List Json}
    (h : ReadsItems rt s items r) (h' : ReadsItems rt s items' r') : items = items' ∧ r = r' := by
  match h, h' with
  | .last hvalue hend, .last hvalue' hend' =>
    obtain ⟨rfl, rfl⟩ := hvalue.unique hvalue'
    rw [hend] at hend'
    cases hend'
    exact ⟨rfl, rfl⟩
  | .last hvalue hend, .more hvalue' hcomma' _ =>
    obtain ⟨rfl, rfl⟩ := hvalue.unique hvalue'
    rw [hend] at hcomma'
    cases hcomma'
  | .more hvalue hcomma _, .last hvalue' hend' =>
    obtain ⟨rfl, rfl⟩ := hvalue.unique hvalue'
    rw [hcomma] at hend'
    cases hend'
  | .more hvalue hcomma hrest, .more hvalue' hcomma' hrest' =>
    obtain ⟨rfl, rfl⟩ := hvalue.unique hvalue'
    rw [hcomma] at hcomma'
    cases hcomma'
    obtain ⟨rfl, rfl⟩ := hrest.unique hrest'
    exact ⟨rfl, rfl⟩
end

end Decode
end CouncilLogic
