/-
# Compact text determines its value

Two values that are printed alike are the same: no text is the beginning of another one's, and
the texts of different kinds of values begin differently.  All that is asked of a value is that
its floats are carried as texts of floats, which is what `repr` writes.

This is what makes a digest of `_canonical_json` meaningful in `src/model_council/store.py`: two
requests of a run, or two records of the decision ledger, with the same text are the same record,
up to the order of the keys.  It needs no decoder: the proof cancels equal beginnings, atom by
atom and bracket by bracket.
-/

import CouncilLogic.Json.Compact

namespace CouncilLogic
namespace Json

open Decode

/-- A text of a float: no integer is written like it, and nothing that ends a number is in it. -/
def floatToken : Str → Bool
  | [] => false
  | c :: s => (isDigit c || c == 45 || c == 73 || c == 78) && (c :: s).all (fun d => !isStop d) &&
    (c :: s).any fun d => !(isDigit d || d == 45)

/-- A float is carried as the text of a float. -/
def regularAtom : Json → Bool
  | .float t => floatToken t
  | _ => true

/-- Every float of the value is carried as the text of a float. -/
abbrev regular : Json → Bool := allAtoms regularAtom

/-! ### Atoms -/

/-- A value that is neither a string nor a list nor a dictionary. -/
def isBare : Json → Bool
  | .null | .bool _ | .int _ | .float _ => true
  | .str _ | .arr _ | .obj _ => false

/-- An integer is printed in digits and a sign. -/
theorem ofInt_chars (n : ℤ) : ∀ c ∈ Str.ofInt n, isDigit c = true ∨ c = 45 := by
  cases n with
  | ofNat n => exact fun c hc => .inl (ofNat_isDigit n c hc)
  | negSucc n =>
    rintro c (_ | ⟨_, hc⟩)
    · exact .inr rfl
    · exact .inl (ofNat_isDigit _ c hc)

/-- An integer is printed as at least one character. -/
theorem ofInt_ne_nil (n : ℤ) : Str.ofInt n ≠ [] := by
  cases n with
  | ofNat n => exact ofNat_ne_nil n
  | negSucc n => exact List.cons_ne_nil _ _

/-- Integers that are printed alike are the same. -/
theorem ofInt_injective : Function.Injective Str.ofInt := by
  have hminus : ∀ m n : ℕ, Str.ofNat m ≠ 45 :: Str.ofNat n := by
    intro m n h
    have hdigit := ofNat_isDigit m 45 (h ▸ List.mem_cons_self)
    cases hdigit
  intro m n h
  cases m with
  | ofNat m =>
    cases n with
    | ofNat n => exact congrArg Int.ofNat (Protocol.ofNat_injective h)
    | negSucc n => exact absurd h (hminus m (n + 1))
  | negSucc m =>
    cases n with
    | ofNat n => exact absurd h.symm (hminus n (m + 1))
    | negSucc n =>
      exact congrArg Int.negSucc (Nat.succ_injective (Protocol.ofNat_injective (List.cons.inj h).2))

/-- The sign of a number is no stop. -/
theorem isStop_minus : isStop 45 = false := rfl

/-- A digit is no stop. -/
theorem notStop_of_digit {c : ℕ} (h : isDigit c = true) : isStop c = false := by
  cases hc : isStop c with
  | false => rfl
  | true =>
    rw [isStop_notDigit hc] at h
    cases h

/-- The text of a bare value has nothing in it that ends it, and begins with no quote and no
bracket. -/
theorem bare_text {j : Json} (hbare : isBare j = true) (h : regular j = true) :
    (∀ c ∈ dumpsAtom j, isStop c = false) ∧
      ∃ c t, dumpsAtom j = c :: t ∧ c ≠ 34 ∧ c ≠ 91 ∧ c ≠ 93 ∧ c ≠ 123 := by
  have hhead : ∀ c, isDigit c = true ∨ c = 45 ∨ c = 73 ∨ c = 78 →
      c ≠ 34 ∧ c ≠ 91 ∧ c ≠ 93 ∧ c ≠ 123 := by
    intro c hc
    unfold isDigit at hc
    rw [Bool.and_eq_true, decide_eq_true_iff, decide_eq_true_iff] at hc
    omega
  cases j with
  | null => exact ⟨by decide, _, _, rfl, by decide⟩
  | bool b => cases b <;> exact ⟨by decide, _, _, rfl, by decide⟩
  | int n =>
    refine ⟨fun c hc => ?_, ?_⟩
    · rcases ofInt_chars n c hc with hdigit | rfl
      · exact notStop_of_digit hdigit
      · exact isStop_minus
    · obtain ⟨c, t, heq⟩ := List.exists_cons_of_ne_nil (ofInt_ne_nil n)
      refine ⟨c, t, heq, hhead c ?_⟩
      rcases ofInt_chars n c (heq ▸ List.mem_cons_self) with hdigit | hminus
      · exact .inl hdigit
      · exact .inr (.inl hminus)
  | float t =>
    cases t with
    | nil => cases h
    | cons c s =>
      have hparts : floatToken (c :: s) = true := h
      unfold floatToken at hparts
      rw [Bool.and_eq_true, Bool.and_eq_true] at hparts
      obtain ⟨⟨hfirst, hall⟩, -⟩ := hparts
      refine ⟨fun d hd => ?_, c, s, rfl, hhead c ?_⟩
      · simpa using List.all_eq_true.1 hall d hd
      · simpa [or_assoc] using hfirst
  | str s => cases hbare
  | arr items => cases hbare
  | obj fields => cases hbare

/-- The text of a float is that of no integer and of no literal. -/
theorem floatToken_apart {t : Str} (h : floatToken t = true) :
    (∀ n, Str.ofInt n ≠ t) ∧ lit "null" ≠ t ∧ lit "true" ≠ t ∧ lit "false" ≠ t := by
  cases t with
  | nil => cases h
  | cons c s =>
    unfold floatToken at h
    rw [Bool.and_eq_true, Bool.and_eq_true] at h
    obtain ⟨⟨hfirst, -⟩, hany⟩ := h
    obtain ⟨d, hd, hother⟩ := List.any_eq_true.1 hany
    refine ⟨fun n heq => ?_, ?_, ?_, ?_⟩
    · rcases ofInt_chars n d (heq ▸ hd) with hdigit | rfl
      · rw [hdigit] at hother
        cases hother
      · cases hother
    all_goals
      rintro ⟨⟩
      cases hfirst

/-- No integer is written as a literal. -/
theorem ofInt_ne_literal (n : ℤ) :
    Str.ofInt n ≠ lit "null" ∧ Str.ofInt n ≠ lit "true" ∧ Str.ofInt n ≠ lit "false" := by
  have hletter : ∀ (c : ℕ) (t : Str), isDigit c = false → c ≠ 45 → Str.ofInt n ≠ c :: t := by
    intro c t hdigit hminus heq
    rcases ofInt_chars n c (heq ▸ List.mem_cons_self) with h | h
    · rw [hdigit] at h
      cases h
    · exact hminus h
  exact ⟨hletter 110 _ rfl (by decide), hletter 116 _ rfl (by decide),
    hletter 102 _ rfl (by decide)⟩

/-- Bare values with the same text are the same. -/
theorem dumpsAtom_inj {a b : Json} (hbare : isBare a = true) (hbare' : isBare b = true)
    (ha : regular a = true) (hb : regular b = true) (h : dumpsAtom a = dumpsAtom b) : a = b := by
  match a, b with
  | .null, .null | .bool true, .bool true | .bool false, .bool false => rfl
  | .null, .bool true | .null, .bool false | .bool true, .null | .bool false, .null
  | .bool true, .bool false | .bool false, .bool true => cases h
  | .null, .int n => exact absurd h.symm (ofInt_ne_literal n).1
  | .bool true, .int n => exact absurd h.symm (ofInt_ne_literal n).2.1
  | .bool false, .int n => exact absurd h.symm (ofInt_ne_literal n).2.2
  | .int n, .null => exact absurd h (ofInt_ne_literal n).1
  | .int n, .bool true => exact absurd h (ofInt_ne_literal n).2.1
  | .int n, .bool false => exact absurd h (ofInt_ne_literal n).2.2
  | .int m, .int n => exact congrArg Json.int (ofInt_injective h)
  | .int n, .float t => exact absurd h ((floatToken_apart hb).1 n)
  | .float t, .int n => exact absurd h.symm ((floatToken_apart ha).1 n)
  | .null, .float t => exact absurd h (floatToken_apart hb).2.1
  | .bool true, .float t => exact absurd h (floatToken_apart hb).2.2.1
  | .bool false, .float t => exact absurd h (floatToken_apart hb).2.2.2
  | .float t, .null => exact absurd h.symm (floatToken_apart ha).2.1
  | .float t, .bool true => exact absurd h.symm (floatToken_apart ha).2.2.1
  | .float t, .bool false => exact absurd h.symm (floatToken_apart ha).2.2.2
  | .float t, .float t' => exact congrArg Json.float h

/-- A bare value ends where something follows that ends it. -/
theorem takeWhile_bare {j : Json} (hbare : isBare j = true) (h : regular j = true) {r : Str}
    (hr : Stops r) : (dumpsAtom j ++ r).takeWhile (fun c => !isStop c) = dumpsAtom j := by
  have hall := (bare_text hbare h).1
  rw [List.takeWhile_append_of_pos fun c hc => by rw [hall c hc]; rfl]
  have hnil : r.takeWhile (fun c => !isStop c) = [] := by
    cases r with
    | nil => rfl
    | cons c r =>
      refine List.takeWhile_cons_of_neg ?_
      rw [hr c rfl]
      exact Bool.false_ne_true
  rw [hnil, List.append_nil]

/-! ### Values -/

/-- A value that is no string, list or object is printed as an atom. -/
theorem dumpsCompact_bare {j : Json} (h : isBare j = true) : dumpsCompact j = dumpsAtom j := by
  cases j with
  | str s => cases h
  | arr items => cases h
  | obj fields => cases h
  | _ => rfl

/-- The first character of a text says what kind of value it is. -/
theorem dumpsCompact_head (j : Json) (h : regular j = true) :
    (isBare j = true ∧ ∃ c t, dumpsCompact j = c :: t ∧ c ≠ 34 ∧ c ≠ 91 ∧ c ≠ 93 ∧ c ≠ 123) ∨
      (∃ s, j = .str s) ∨ (∃ items, j = .arr items) ∨ ∃ fields, j = .obj fields := by
  cases hbare : isBare j with
  | true =>
    rw [dumpsCompact_bare hbare]
    exact .inl ⟨rfl, (bare_text hbare h).2⟩
  | false =>
    cases j with
    | str s => exact .inr (.inl ⟨s, rfl⟩)
    | arr items => exact .inr (.inr (.inl ⟨items, rfl⟩))
    | obj fields => exact .inr (.inr (.inr ⟨fields, rfl⟩))
    | _ => cases hbare

/-- A list is printed with a bracket at its beginning. -/
theorem head_arr (items : List Json) : ∃ t, dumpsCompact (.arr items) = 91 :: t := by
  cases items <;> exact ⟨_, rfl⟩

/-- An object is printed with a brace at its beginning. -/
theorem head_obj (fields : List (Str × Json)) : ∃ t, dumpsCompact (.obj fields) = 123 :: t := by
  cases fields <;> exact ⟨_, rfl⟩

/-- A printed string ends where it ends. -/
theorem dumpsStr_cancel {s s' r r' : Str} (h : dumpsStr s ++ r = dumpsStr s' ++ r') :
    s = s' ∧ r = r' := by
  unfold dumpsStr at h
  rw [List.cons_append, List.cons_append, List.append_assoc, List.append_assoc] at h
  have hscan := scanString_dumpsStr s r
  have hsame := (List.cons.inj h).2
  rw [List.singleton_append] at hsame
  rw [hsame, List.singleton_append, scanString_dumpsStr] at hscan
  obtain ⟨rfl, rfl⟩ := Prod.mk.inj (Except.ok.inj hscan)
  exact ⟨rfl, rfl⟩

section Cancel
variable {a b : Json} {r r' : Str}

/-- The kinds of two values that are printed alike are the same. -/
theorem cancel_bare (hbare : isBare a = true) (ha : regular a = true) (hb : regular b = true)
    (hr : Stops r) (hr' : Stops r') (h : dumpsCompact a ++ r = dumpsCompact b ++ r') :
    a = b ∧ r = r' := by
  rw [dumpsCompact_bare hbare] at h
  obtain ⟨c, t, heq, hquote, hbracket, -, hbrace⟩ := (bare_text hbare ha).2
  rcases dumpsCompact_head b hb with ⟨hbare', -⟩ | ⟨s, rfl⟩ | ⟨items, rfl⟩ | ⟨fields, rfl⟩
  · rw [dumpsCompact_bare hbare'] at h
    have htake := congrArg (List.takeWhile fun c => !isStop c) h
    rw [takeWhile_bare hbare ha hr, takeWhile_bare hbare' hb hr'] at htake
    rw [htake] at h
    exact ⟨dumpsAtom_inj hbare hbare' ha hb htake, List.append_cancel_left h⟩
  · rw [heq] at h
    exact absurd (List.cons.inj h).1 hquote
  · obtain ⟨t', ht'⟩ := head_arr items
    rw [heq, ht'] at h
    exact absurd (List.cons.inj h).1 hbracket
  · obtain ⟨t', ht'⟩ := head_obj fields
    rw [heq, ht'] at h
    exact absurd (List.cons.inj h).1 hbrace

/-- What is printed like a string, up to what follows, is that string. -/
theorem cancel_str {s : Str} (hb : regular b = true)
    (h : dumpsCompact (.str s) ++ r = dumpsCompact b ++ r') : .str s = b ∧ r = r' := by
  have hhead : ∃ t, dumpsCompact (.str s) = 34 :: t := ⟨_, rfl⟩
  obtain ⟨t, ht⟩ := hhead
  rcases dumpsCompact_head b hb with ⟨-, c, t', heq, hquote, -⟩ | ⟨s', rfl⟩ | ⟨items, rfl⟩ |
    ⟨fields, rfl⟩
  · rw [ht, heq] at h
    exact absurd (List.cons.inj h).1.symm hquote
  · obtain ⟨rfl, rfl⟩ := dumpsStr_cancel h
    exact ⟨rfl, rfl⟩
  · obtain ⟨t', ht'⟩ := head_arr items
    rw [ht, ht'] at h
    cases (List.cons.inj h).1
  · obtain ⟨t', ht'⟩ := head_obj fields
    rw [ht, ht'] at h
    cases (List.cons.inj h).1

/-- What is printed like a list is a list. -/
theorem cancel_arr {items : List Json} (hb : regular b = true)
    (h : dumpsCompact (.arr items) ++ r = dumpsCompact b ++ r') : ∃ items', b = .arr items' := by
  obtain ⟨t, ht⟩ := head_arr items
  rcases dumpsCompact_head b hb with ⟨-, c, t', heq, -, hbracket, -⟩ | ⟨s', rfl⟩ | hitems |
    ⟨fields, rfl⟩
  · rw [ht, heq] at h
    exact absurd (List.cons.inj h).1.symm hbracket
  · rw [ht] at h
    cases (List.cons.inj h).1
  · exact hitems
  · obtain ⟨t', ht'⟩ := head_obj fields
    rw [ht, ht'] at h
    cases (List.cons.inj h).1

/-- What is printed like an object is an object. -/
theorem cancel_obj {fields : List (Str × Json)} (hb : regular b = true)
    (h : dumpsCompact (.obj fields) ++ r = dumpsCompact b ++ r') :
    ∃ fields', b = .obj fields' := by
  obtain ⟨t, ht⟩ := head_obj fields
  rcases dumpsCompact_head b hb with ⟨-, c, t', heq, -, -, -, hbrace⟩ | ⟨s', rfl⟩ | ⟨items, rfl⟩ |
    hfields
  · rw [ht, heq] at h
    exact absurd (List.cons.inj h).1.symm hbrace
  · rw [ht] at h
    cases (List.cons.inj h).1
  · obtain ⟨t', ht'⟩ := head_arr items
    rw [ht, ht'] at h
    cases (List.cons.inj h).1
  · exact hfields

/-- No value begins with a closing bracket. -/
theorem head_ne_close {j : Json} (h : regular j = true) (x y : Str) :
    93 :: x ≠ dumpsCompact j ++ y := by
  intro heq
  rcases dumpsCompact_head j h with ⟨-, c, t', hc, -, -, hclose, -⟩ | ⟨s', rfl⟩ | ⟨items, rfl⟩ |
    ⟨fields, rfl⟩
  · rw [hc] at heq
    exact absurd (List.cons.inj heq).1.symm hclose
  · cases (List.cons.inj heq).1
  · obtain ⟨t', ht'⟩ := head_arr items
    rw [ht'] at heq
    cases (List.cons.inj heq).1
  · obtain ⟨t', ht'⟩ := head_obj fields
    rw [ht'] at heq
    cases (List.cons.inj heq).1

end Cancel

/-- The text of a list with a first item, laid out before what follows. -/
theorem dumpsCompact_arr_cons (j : Json) (js : List Json) (r : Str) :
    dumpsCompact (.arr (j :: js)) ++ r =
      91 :: (dumpsCompact j ++ (dumpsCompactItems js ++ 93 :: r)) := by
  rw [dumpsCompact, List.append_assoc, List.append_assoc, List.append_assoc]
  rfl

/-- The text of an object with a first field, laid out before what follows. -/
theorem dumpsCompact_obj_cons (k : Str) (j : Json) (fs : List (Str × Json)) (r : Str) :
    dumpsCompact (.obj ((k, j) :: fs)) ++ r =
      123 :: (dumpsStr k ++ 58 :: (dumpsCompact j ++ (dumpsCompactFields fs ++ 125 :: r))) := by
  rw [dumpsCompact, List.append_assoc, List.append_assoc, List.append_assoc, List.append_assoc,
    List.append_assoc]
  rfl

/-- The rest of a list stops the item before it. -/
theorem stops_items (js : List Json) (r : Str) : Stops (dumpsCompactItems js ++ 93 :: r) := by
  cases js <;> exact stops_cons rfl

/-- The rest of an object stops the value before it. -/
theorem stops_fields (fs : List (Str × Json)) (r : Str) :
    Stops (dumpsCompactFields fs ++ 125 :: r) := by
  cases fs <;> exact stops_cons rfl

mutual
/-- **No text is the beginning of another one's.** -/
theorem dumpsCompact_cancel : ∀ (a b : Json) (r r' : Str), regular a = true → regular b = true →
    Stops r → Stops r' → dumpsCompact a ++ r = dumpsCompact b ++ r' → a = b ∧ r = r'
  | .null, b, r, r', ha, hb, hr, hr', h => cancel_bare rfl ha hb hr hr' h
  | .bool _, b, r, r', ha, hb, hr, hr', h => cancel_bare rfl ha hb hr hr' h
  | .int _, b, r, r', ha, hb, hr, hr', h => cancel_bare rfl ha hb hr hr' h
  | .float _, b, r, r', ha, hb, hr, hr', h => cancel_bare rfl ha hb hr hr' h
  | .str _, b, r, r', _, hb, _, _, h => cancel_str hb h
  | .arr [], b, r, r', _, hb, _, _, h => by
    obtain ⟨items', rfl⟩ := cancel_arr hb h
    cases items' with
    | nil => exact ⟨rfl, List.append_cancel_left h⟩
    | cons j' js' =>
      rw [regular, allAtoms, allAtomsItems, Bool.and_eq_true] at hb
      rw [dumpsCompact_arr_cons] at h
      exact absurd (List.cons.inj h).2 (head_ne_close hb.1 r _)
  | .arr (j :: js), b, r, r', ha, hb, _, _, h => by
    obtain ⟨items', rfl⟩ := cancel_arr hb h
    rw [regular, allAtoms, allAtomsItems, Bool.and_eq_true] at ha
    rw [dumpsCompact_arr_cons] at h
    cases items' with
    | nil => exact absurd (List.cons.inj h).2.symm (head_ne_close ha.1 r' _)
    | cons j' js' =>
      rw [regular, allAtoms, allAtomsItems, Bool.and_eq_true] at hb
      rw [dumpsCompact_arr_cons] at h
      obtain ⟨rfl, hrest⟩ := dumpsCompact_cancel j j' _ _ ha.1 hb.1 (stops_items js r)
        (stops_items js' r') (List.cons.inj h).2
      obtain ⟨rfl, rfl⟩ := dumpsCompactItems_cancel js js' r r' ha.2 hb.2 hrest
      exact ⟨rfl, rfl⟩
  | .obj [], b, r, r', _, hb, _, _, h => by
    obtain ⟨fields', rfl⟩ := cancel_obj hb h
    cases fields' with
    | nil => exact ⟨rfl, List.append_cancel_left h⟩
    | cons f' fs' =>
      rw [dumpsCompact_obj_cons] at h
      cases (List.cons.inj (List.cons.inj h).2).1
  | .obj ((k, j) :: fs), b, r, r', ha, hb, _, _, h => by
    obtain ⟨fields', rfl⟩ := cancel_obj hb h
    rw [regular, allAtoms, allAtomsFields, Bool.and_eq_true] at ha
    rw [dumpsCompact_obj_cons] at h
    cases fields' with
    | nil => cases (List.cons.inj (List.cons.inj h).2).1
    | cons f' fs' =>
      rw [regular, allAtoms, allAtomsFields, Bool.and_eq_true] at hb
      rw [dumpsCompact_obj_cons] at h
      obtain ⟨hkey, hvalue⟩ := dumpsStr_cancel (List.cons.inj h).2
      obtain ⟨hj, hrest⟩ := dumpsCompact_cancel j f'.2 _ _ ha.1 hb.1 (stops_fields fs r)
        (stops_fields fs' r') (List.cons.inj hvalue).2
      obtain ⟨rfl, rfl⟩ := dumpsCompactFields_cancel fs fs' r r' ha.2 hb.2 hrest
      rw [hkey, hj]
      exact ⟨rfl, rfl⟩
termination_by a => sizeOf a

/-- The rests of two lists that are printed alike, up to what follows, are the same. -/
theorem dumpsCompactItems_cancel : ∀ (js js' : List Json) (r r' : Str),
    allAtomsItems regularAtom js = true → allAtomsItems regularAtom js' = true →
    dumpsCompactItems js ++ 93 :: r = dumpsCompactItems js' ++ 93 :: r' → js = js' ∧ r = r'
  | [], [], r, r', _, _, h => ⟨rfl, (List.cons.inj h).2⟩
  | [], j' :: js', r, r', _, _, h => by cases (List.cons.inj h).1
  | j :: js, [], r, r', _, _, h => by cases (List.cons.inj h).1
  | j :: js, j' :: js', r, r', ha, hb, h => by
    rw [allAtomsItems, Bool.and_eq_true] at ha hb
    rw [dumpsCompactItems, dumpsCompactItems, List.append_assoc, List.append_assoc,
      List.append_assoc, List.append_assoc] at h
    obtain ⟨rfl, hrest⟩ := dumpsCompact_cancel j j' _ _ ha.1 hb.1 (stops_items js r)
      (stops_items js' r') (List.cons.inj h).2
    obtain ⟨rfl, rfl⟩ := dumpsCompactItems_cancel js js' r r' ha.2 hb.2 hrest
    exact ⟨rfl, rfl⟩
termination_by js => sizeOf js

/-- The rests of two objects that are printed alike, up to what follows, are the same. -/
theorem dumpsCompactFields_cancel : ∀ (fs fs' : List (Str × Json)) (r r' : Str),
    allAtomsFields regularAtom fs = true → allAtomsFields regularAtom fs' = true →
    dumpsCompactFields fs ++ 125 :: r = dumpsCompactFields fs' ++ 125 :: r' → fs = fs' ∧ r = r'
  | [], [], r, r', _, _, h => ⟨rfl, (List.cons.inj h).2⟩
  | [], f' :: fs', r, r', _, _, h => by cases (List.cons.inj h).1
  | f :: fs, [], r, r', _, _, h => by cases (List.cons.inj h).1
  | (k, j) :: fs, (k', j') :: fs', r, r', ha, hb, h => by
    rw [allAtomsFields, Bool.and_eq_true] at ha hb
    rw [dumpsCompactFields, dumpsCompactFields] at h
    simp only [List.append_assoc] at h
    obtain ⟨rfl, hvalue⟩ := dumpsStr_cancel (List.cons.inj h).2
    obtain ⟨rfl, hrest⟩ := dumpsCompact_cancel j j' _ _ ha.1 hb.1 (stops_fields fs r)
      (stops_fields fs' r') (List.cons.inj hvalue).2
    obtain ⟨rfl, rfl⟩ := dumpsCompactFields_cancel fs fs' r r' ha.2 hb.2 hrest
    exact ⟨rfl, rfl⟩
termination_by fs => sizeOf fs
end

/-- **Compact text determines its value.** -/
theorem dumpsCompact_inj {a b : Json} (ha : regular a = true) (hb : regular b = true)
    (h : dumpsCompact a = dumpsCompact b) : a = b := by
  have hnil : Stops [] := by rintro _ ⟨⟩
  exact (dumpsCompact_cancel a b [] [] ha hb hnil hnil (by rw [h])).1

end Json
end CouncilLogic
