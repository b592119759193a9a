/-
# What the decoder accepts

The decoder of `protocol.py` accepts JSON text as long as no object repeats a key and the
nesting is within the recursion limit, and nothing else (`rawDecode_iff`).  The fuel of
the model never runs out: twice the text is enough.

Soundness and completeness are two inductions over different things.  `scan_sound` follows the
fuel of the decoder: whatever it returns is JSON text, and the hook and the depth counter have
refused what is repeated or too deep.  `Reads.scan` follows a derivation of `Reads`: the decoder,
given at least twice the characters that are read, reads the same value and leaves the same rest.
-/

import CouncilLogic.Protocol.Reads

namespace CouncilLogic
namespace Decode

variable {rt : Runtime}

/-! ### Soundness -/

mutual
/-- No object inside repeats a key. -/
def distinct : Json → Bool
  | .arr items => distinctItems items
  | .obj fields => decide (fields.map Prod.fst).Nodup && distinctFields fields
  | .null => true
  | .bool _ => true
  | .int _ => true
  | .float _ => true
  | .str _ => true

def distinctItems : List Json → Bool
  | [] => true
  | j :: js => distinct j && distinctItems js

def distinctFields : List (Str × Json) → Bool
  | [] => true
  | (_, j) :: fs => distinct j && distinctFields fs
end

mutual
/-- The nesting of arrays and objects. -/
def depth : Json → ℕ
  | .arr items => depthItems items + 1
  | .obj fields => depthFields fields + 1
  | .null => 0
  | .bool _ => 0
  | .int _ => 0
  | .float _ => 0
  | .str _ => 0

def depthItems : List Json → ℕ
  | [] => 0
  | j :: js => max (depth j) (depthItems js)

def depthFields : List (Str × Json) → ℕ
  | [] => 0
  | (_, j) :: fs => max (depth j) (depthFields fs)
end

/-- An atom repeats no key. -/
theorem IsAtom.distinct {j : Json} (h : IsAtom j) : distinct j = true := by
  cases j with
  | arr items => exact absurd rfl (h.1 items)
  | obj fields => exact absurd rfl (h.2 fields)
  | _ => rfl

/-- An atom is not nested. -/
theorem IsAtom.depth {j : Json} (h : IsAtom j) : depth j = 0 := by
  cases j with
  | arr items => exact absurd rfl (h.1 items)
  | obj fields => exact absurd rfl (h.2 fields)
  | _ => rfl

/-- The hook lets pairs through whose keys are distinct, and makes an object of them. -/
theorem rejectDuplicateKeys_ok {pairs : List (Str × Json)} {j : Json}
    (h : rejectDuplicateKeys pairs = .ok j) : j = .obj pairs ∧ (pairs.map Prod.fst).Nodup := by
  unfold rejectDuplicateKeys at h
  split at h
  · rename_i hnd
    cases h
    exact ⟨rfl, hnd⟩
  · cases h

/-- With so much fuel, what the decoder accepts is JSON text without repeated keys, within the
depth. -/
structure ScanSound (rt : Runtime) (fuel : ℕ) : Prop where
  value : ∀ d s j r, scanOnce rt fuel d s = .ok (j, r) →
    Reads rt s j r ∧ distinct j = true ∧ depth j ≤ d
  fields : ∀ d s pairs r, scanFields rt fuel d s = .ok (pairs, r) →
    ReadsFields rt s pairs r ∧ distinctFields pairs = true ∧ depthFields pairs ≤ d
  items : ∀ d s items r, scanItems rt fuel d s = .ok (items, r) →
    ReadsItems rt s items r ∧ distinctItems items = true ∧ depthItems items ≤ d

/-- A value: a string, an object whose keys the hook lets through, an array or an atom. -/
theorem ScanSound.succ_value {fuel : ℕ} (ih : ScanSound rt fuel) {d : ℕ} {s r : Str} {j : Json}
    (h : scanOnce rt (fuel + 1) d s = .ok (j, r)) :
    Reads rt s j r ∧ distinct j = true ∧ depth j ≤ d := by
  unfold scanOnce at h
  simp only [bind, Except.bind] at h
  split at h
  · split at h
    · cases h
    rename_i hstring
    cases h
    exact ⟨.str hstring, rfl, Nat.zero_le _⟩
  · split at h
    · cases h
    rename_i d'
    split at h
    · rename_i hnil
      cases h
      exact ⟨.objNil hnil, rfl, by simp [depth, depthFields]⟩
    split at h
    · cases h
    rename_i hfields
    split at h
    · cases h
    rename_i hreject
    cases h
    obtain ⟨rfl, hnd⟩ := rejectDuplicateKeys_ok hreject
    obtain ⟨hreads, hdistinct, hdepth⟩ := ih.fields _ _ _ _ hfields
    refine ⟨.obj hreads, ?_, Nat.succ_le_succ hdepth⟩
    rw [distinct, hdistinct, decide_eq_true hnd]
    rfl
  · split at h
    · cases h
    rename_i d'
    split at h
    · rename_i hnil
      cases h
      exact ⟨.arrNil hnil, rfl, by simp [depth, depthItems]⟩
    rename_i hne
    split at h
    · cases h
    rename_i hitems
    cases h
    obtain ⟨hreads, hdistinct, hdepth⟩ := ih.items _ _ _ _ hitems
    refine ⟨.arr ?_ hreads, hdistinct, Nat.succ_le_succ hdepth⟩
    intro hhead
    obtain ⟨tail, htail⟩ := List.head?_eq_some_iff.1 hhead
    exact hne _ htail
  · rename_i hstr hobj harr
    have hatom := scanAtom_isAtom h
    refine ⟨.atom ?_ ?_ ?_ h, hatom.distinct, hatom.depth.le.trans (Nat.zero_le _)⟩
    all_goals
      intro hhead
      obtain ⟨tail, rfl⟩ := List.head?_eq_some_iff.1 hhead
    · exact hstr _ rfl
    · exact hobj _ rfl
    · exact harr _ rfl

/-- The fields of an object: a last one, or one and more after a comma. -/
theorem ScanSound.succ_fields {fuel : ℕ} (ih : ScanSound rt fuel) {d : ℕ} {s r : Str}
    {pairs : List (Str × Json)} (h : scanFields rt (fuel + 1) d s = .ok (pairs, r)) :
    ReadsFields rt s pairs r ∧ distinctFields pairs = true ∧ depthFields pairs ≤ d := by
  unfold scanFields at h
  simp only [bind, Except.bind] at h
  split at h
  · split at h
    · cases h
    rename_i hkey
    split at h
    · rename_i hcolon
      split at h
      · cases h
      rename_i hvalue
      obtain ⟨hreads, hdistinct, hdepth⟩ := ih.value _ _ _ _ hvalue
      split at h
      · rename_i hend
        cases h
        refine ⟨.last hkey hcolon hreads hend, ?_, ?_⟩
        · simp [distinctFields, hdistinct]
        · simpa [depthFields] using hdepth
      · rename_i hcomma
        split at h
        · cases h
        rename_i hfields
        cases h
        obtain ⟨hrest, hdistinct', hdepth'⟩ := ih.fields _ _ _ _ hfields
        refine ⟨.more hkey hcolon hreads hcomma hrest, ?_, max_le hdepth hdepth'⟩
        rw [distinctFields, hdistinct, hdistinct']
        rfl
      · cases h
    · cases h
  · cases h

/-- The items of an array: a last one, or one and more after a comma. -/
theorem ScanSound.succ_items {fuel : ℕ} (ih : ScanSound rt fuel) {d : ℕ} {s r : Str}
    {items : List Json} (h : scanItems rt (fuel + 1) d s = .ok (items, r)) :
    ReadsItems rt s items r ∧ distinctItems items = true ∧ depthItems items ≤ d := by
  unfold scanItems at h
  simp only [bind, Except.bind] at h
  split at h
  · cases h
  rename_i hvalue
  obtain ⟨hreads, hdistinct, hdepth⟩ := ih.value _ _ _ _ hvalue
  split at h
  · rename_i hend
    cases h
    refine ⟨.last hreads hend, ?_, ?_⟩
    · simp [distinctItems, hdistinct]
    · simpa [depthItems] using hdepth
  · rename_i hcomma
    split at h
    · cases h
    rename_i hitems
    cases h
    obtain ⟨hrest, hdistinct', hdepth'⟩ := ih.items _ _ _ _ hitems
    refine ⟨.more hreads hcomma hrest, ?_, max_le hdepth hdepth'⟩
    rw [distinctItems, hdistinct, hdistinct']
    rfl
  · cases h

/-- **What the decoder accepts** is JSON text without repeated keys, within the depth. -/
theorem scan_sound (rt : Runtime) (fuel : ℕ) : ScanSound rt fuel := by
  induction fuel with
  | zero => exact ⟨fun _ _ _ _ h => by simp [scanOnce] at h,
      fun _ _ _ _ h => by simp [scanFields] at h, fun _ _ _ _ h => by simp [scanItems] at h⟩
  | succ fuel ih =>
    exact ⟨fun _ _ _ _ => ih.succ_value, fun _ _ _ _ => ih.succ_fields,
      fun _ _ _ _ => ih.succ_items⟩

/-! ### Completeness -/

/-- Passing white space makes no text longer. -/
theorem length_skipWs_le (s : Str) : (skipWs s).length ≤ s.length :=
  (List.dropWhile_sublist _).length_le

/-- Passing white space and a character makes a text shorter. -/
theorem length_of_skipWs {s r : Str} {c : ℕ} (h : skipWs s = c :: r) : r.length < s.length := by
  have hle := length_skipWs_le s
  rw [h, List.length_cons] at hle
  omega

/-- A string takes at least its closing quote. -/
theorem scanString_length {s t r : Str} (h : scanString s = .ok (t, r)) : r.length < s.length := by
  fun_induction scanString s generalizing t r with
  | case1 => cases h
  | case2 =>
    cases h
    exact Nat.lt_succ_self _
  | case3 => cases h
  | case4 => cases h
  | case5 a b c d e f g h' rest u hu hhigh v hv hlow ih =>
    obtain ⟨s, hs, rfl⟩ := bind_scan_ok h
    have hlt := ih hs
    simp only [List.length_cons]
    omega
  | case6 a b c d e f g h' rest u hu hhigh v hv hlow ih =>
    obtain ⟨s, hs, rfl⟩ := bind_scan_ok h
    have hlt := ih hs
    simp only [List.length_cons] at hlt ⊢
    omega
  | case7 a b c d e f g h' rest u hu hhigh ih =>
    obtain ⟨s, hs, rfl⟩ := bind_scan_ok h
    have hlt := ih hs
    simp only [List.length_cons] at hlt ⊢
    omega
  | case8 => cases h
  | case9 a b c d rest hne u hu ih =>
    obtain ⟨s, hs, rfl⟩ := bind_scan_ok h
    have hlt := ih hs
    simp only [List.length_cons]
    omega
  | case10 => cases h
  | case11 c rest hne hne' u hu ih =>
    obtain ⟨s, hs, rfl⟩ := bind_scan_ok h
    have hlt := ih hs
    simp only [List.length_cons]
    omega
  | case12 => cases h
  | case13 c rest hquote hpair hshort hescape hc ih =>
    obtain ⟨s, hs, rfl⟩ := bind_scan_ok h
    have hlt := ih hs
    simp only [List.length_cons]
    omega

/-- A number takes at least one digit. -/
theorem scanNumber_length {s r : Str} {j : Json} (h : scanNumber rt s = .ok (j, r)) :
    r.length < s.length := by
  have hsigned : (signedBody s).2.length ≤ s.length := by
    unfold signedBody
    split
    · exact Nat.le_succ _
    · exact le_rfl
  have hdigits : (integerPart (signedBody s).2) ≠ [] := by
    intro hnil
    have herror : (numberParts s).value rt = .error .value := if_pos hnil
    rw [scanNumber_eq, herror] at h
    cases h
  have hinteger : (integerPart (signedBody s).2).length ≤ (signedBody s).2.length := by
    unfold integerPart
    split
    · rename_i heq
      rw [heq]
      exact Nat.succ_le_succ (Nat.zero_le _)
    · exact (List.takeWhile_prefix _).length_le
  have hrest : (numberParts s).rest.length ≤
      (signedBody s).2.length - (integerPart (signedBody s).2).length := by
    unfold numberParts
    simp only [List.length_drop]
    omega
  have hpos := List.length_pos_of_ne_nil hdigits
  rw [scanNumber_eq] at h
  rw [(NumberParts.value_ok h).1] at hrest
  omega

/-- An atom takes at least one character. -/
theorem scanAtom_length {s r : Str} {j : Json} (h : scanAtom rt s = .ok (j, r)) :
    r.length < s.length := by
  rcases scanAtom_ok h with ⟨l, hl, rfl⟩ | hnumber
  · have hpos : 0 < l.length := by cases hl <;> exact Nat.succ_pos _
    rw [List.length_append]
    omega
  · exact scanNumber_length hnumber

mutual
/-- A value takes at least one character. -/
theorem Reads.length_lt {s r : Str} {j : Json} (h : Reads rt s j r) : r.length < s.length := by
  match h with
  | .str h => exact Nat.lt_succ_of_lt (scanString_length h)
  | .objNil h => exact Nat.lt_succ_of_lt (length_of_skipWs h)
  | .obj h => exact Nat.lt_succ_of_le (h.length_lt.le.trans (length_skipWs_le _))
  | .arrNil h => exact Nat.lt_succ_of_lt (length_of_skipWs h)
  | .arr _ h => exact Nat.lt_succ_of_le (h.length_lt.le.trans (length_skipWs_le _))
  | .atom _ _ _ h => exact scanAtom_length h

/-- Fields take at least one character. -/
theorem ReadsFields.length_lt {s r : Str} {pairs : List (Str × Json)}
    (h : ReadsFields rt s pairs r) : r.length < s.length := by
  match h with
  | @ReadsFields.last _ s s₁ s₂ s₃ r key value hkey hcolon hvalue hend =>
    have h1 := scanString_length hkey
    have h2 := length_of_skipWs hcolon
    have h3 := hvalue.length_lt
    have h4 := length_of_skipWs hend
    have h5 := length_skipWs_le s₂
    rw [List.length_cons]
    omega
  | @ReadsFields.more _ s s₁ s₂ s₃ s₄ r key value pairs hkey hcolon hvalue hcomma hrest =>
    have h1 := scanString_length hkey
    have h2 := length_of_skipWs hcolon
    have h3 := hvalue.length_lt
    have h4 := length_of_skipWs hcomma
    have h5 := hrest.length_lt
    have h6 := length_skipWs_le s₂
    have h7 := length_skipWs_le s₄
    rw [List.length_cons]
    omega

/-- Items take at least one character. -/
theorem ReadsItems.length_lt {s r : Str} {items : List Json} (h : ReadsItems rt s items r) :
    r.length < s.length := by
  match h with
  | .last hvalue hend =>
    have h1 := hvalue.length_lt
    have h2 := length_of_skipWs hend
    omega
  | @ReadsItems.more _ s s₁ s₂ r value items hvalue hcomma hrest =>
    have h1 := hvalue.length_lt
    have h2 := length_of_skipWs hcomma
    have h3 := hrest.length_lt
    have h4 := length_skipWs_le s₂
    omega
end

/-- What follows white space and a character is an end of the text. -/
theorem suffix_of_skipWs {s r : Str} {c : ℕ} (h : skipWs s = c :: r) : r <:+ s :=
  (List.suffix_cons c r).trans (h ▸ List.dropWhile_suffix _)

/-- What follows a string is an end of the text. -/
theorem scanString_suffix {s t r : Str} (h : scanString s = .ok (t, r)) : r <:+ s := by
  fun_induction scanString s generalizing t r with
  | case1 => cases h
  | case2 rest =>
    cases h
    exact List.suffix_cons _ _
  | case3 => cases h
  | case4 => cases h
  | case5 a b c d e f g h' rest u hu hhigh v hv hlow ih =>
    obtain ⟨s, hs, rfl⟩ := bind_scan_ok h
    exact (ih hs).trans ⟨[92, 117, a, b, c, d, 92, 117, e, f, g, h'], rfl⟩
  | case6 a b c d e f g h' rest u hu hhigh v hv hlow ih =>
    obtain ⟨s, hs, rfl⟩ := bind_scan_ok h
    exact (ih hs).trans ⟨[92, 117, a, b, c, d], rfl⟩
  | case7 a b c d e f g h' rest u hu hhigh ih =>
    obtain ⟨s, hs, rfl⟩ := bind_scan_ok h
    exact (ih hs).trans ⟨[92, 117, a, b, c, d], rfl⟩
  | case8 => cases h
  | case9 a b c d rest hne u hu ih =>
    obtain ⟨s, hs, rfl⟩ := bind_scan_ok h
    exact (ih hs).trans ⟨[92, 117, a, b, c, d], rfl⟩
  | case10 => cases h
  | case11 c rest hne hne' u hu ih =>
    obtain ⟨s, hs, rfl⟩ := bind_scan_ok h
    exact (ih hs).trans ⟨[92, c], rfl⟩
  | case12 => cases h
  | case13 c rest hquote hpair hshort hescape hc ih =>
    obtain ⟨s, hs, rfl⟩ := bind_scan_ok h
    exact (ih hs).trans (List.suffix_cons _ _)

/-- What follows an atom is an end of the text. -/
theorem scanAtom_suffix {s r : Str} {j : Json} (h : scanAtom rt s = .ok (j, r)) : r <:+ s := by
  rcases scanAtom_ok h with ⟨l, -, rfl⟩ | hnumber
  · exact List.suffix_append _ _
  · rw [scanNumber_eq] at hnumber
    rw [← (NumberParts.value_ok hnumber).1]
    have hbody : (signedBody s).2 <:+ s := by
      unfold signedBody
      split
      · exact List.suffix_cons _ _
      · exact List.suffix_rfl
    exact (((List.drop_suffix _ _).trans (List.drop_suffix _ _)).trans
      (List.drop_suffix _ _)).trans hbody

mutual
/-- What is left behind a value is the end of the text. -/
theorem Reads.suffix {s r : Str} {j : Json} (h : Reads rt s j r) : r <:+ s := by
  match h with
  | .str h => exact (scanString_suffix h).trans (List.suffix_cons _ _)
  | .objNil h => exact (suffix_of_skipWs h).trans (List.suffix_cons _ _)
  | .obj h => exact (h.suffix.trans (List.dropWhile_suffix _)).trans (List.suffix_cons _ _)
  | .arrNil h => exact (suffix_of_skipWs h).trans (List.suffix_cons _ _)
  | .arr _ h => exact (h.suffix.trans (List.dropWhile_suffix _)).trans (List.suffix_cons _ _)
  | .atom _ _ _ h => exact scanAtom_suffix h

/-- What follows the fields is an end of the text. -/
theorem ReadsFields.suffix {s r : Str} {pairs : List (Str × Json)}
    (h : ReadsFields rt s pairs r) : r <:+ s := by
  match h with
  | .last hkey hcolon hvalue hend =>
    exact ((((suffix_of_skipWs hend).trans hvalue.suffix).trans (List.dropWhile_suffix _)).trans
      (suffix_of_skipWs hcolon)).trans ((scanString_suffix hkey).trans (List.suffix_cons _ _))
  | .more hkey hcolon hvalue hcomma hrest =>
    exact (((((hrest.suffix.trans (List.dropWhile_suffix _)).trans
      (suffix_of_skipWs hcomma)).trans hvalue.suffix).trans (List.dropWhile_suffix _)).trans
      (suffix_of_skipWs hcolon)).trans ((scanString_suffix hkey).trans (List.suffix_cons _ _))

/-- What follows the items is an end of the text. -/
theorem ReadsItems.suffix {s r : Str} {items : List Json} (h : ReadsItems rt s items r) :
    r <:+ s := by
  match h with
  | .last hvalue hend => exact (suffix_of_skipWs hend).trans hvalue.suffix
  | .more hvalue hcomma hrest =>
    exact ((hrest.suffix.trans (List.dropWhile_suffix _)).trans
      (suffix_of_skipWs hcomma)).trans hvalue.suffix
end

/-- Fields begin with the quote of a key. -/
theorem ReadsFields.head {s r : Str} {pairs : List (Str × Json)} (h : ReadsFields rt s pairs r) :
    ∃ s', s = 34 :: s' := by
  cases h <;> exact ⟨_, rfl⟩

mutual
/-- **JSON text without repeated keys is accepted**, within the depth. -/
theorem Reads.scan {s r : Str} {j : Json} (h : Reads rt s j r) (hdistinct : distinct j = true)
    {d : ℕ} (hdepth : depth j ≤ d) {fuel : ℕ} (hfuel : 2 * s.length ≤ fuel + 2 * r.length) :
    scanOnce rt fuel d s = .ok (j, r) := by
  have hlt := h.length_lt
  obtain ⟨fuel, rfl⟩ : ∃ fuel', fuel = fuel' + 1 := ⟨fuel - 1, by omega⟩
  match h with
  | .str h =>
    rw [scanOnce, h]
    rfl
  | .objNil h =>
    obtain ⟨d, rfl⟩ : ∃ d', d = d' + 1 := ⟨d - 1, by rw [depth] at hdepth; omega⟩
    rw [scanOnce]
    simp only [h]
  | @Reads.obj _ s r pairs h =>
    obtain ⟨d, rfl⟩ : ∃ d', d = d' + 1 := ⟨d - 1, by rw [depth] at hdepth; omega⟩
    rw [distinct, Bool.and_eq_true, decide_eq_true_eq] at hdistinct
    have hle := length_skipWs_le s
    rw [List.length_cons] at hfuel
    have hscan : scanFields rt fuel d (skipWs s) = .ok (pairs, r) :=
      h.scan hdistinct.2 (Nat.le_of_succ_le_succ hdepth) (by omega)
    have hunique : rejectDuplicateKeys pairs = .ok (.obj pairs) := if_pos hdistinct.1
    obtain ⟨s', hs⟩ := h.head
    rw [hs] at hscan
    rw [scanOnce]
    simp only [hs, hscan, hunique, bind, Except.bind]
  | .arrNil h =>
    obtain ⟨d, rfl⟩ : ∃ d', d = d' + 1 := ⟨d - 1, by rw [depth] at hdepth; omega⟩
    rw [scanOnce]
    simp only [h]
  | @Reads.arr _ s r items hne h =>
    obtain ⟨d, rfl⟩ : ∃ d', d = d' + 1 := ⟨d - 1, by rw [depth] at hdepth; omega⟩
    have hle := length_skipWs_le s
    rw [List.length_cons] at hfuel
    have hscan : scanItems rt fuel d (skipWs s) = .ok (items, r) :=
      h.scan hdistinct (Nat.le_of_succ_le_succ hdepth) (by omega)
    rw [scanOnce]
    dsimp only
    split
    · rename_i hs
      rw [hs] at hne
      exact absurd rfl hne
    · rw [hscan]
      rfl
  | .atom hstr hobj harr h =>
    rw [scanOnce, h]
    · rintro s' rfl
      exact hstr rfl
    · rintro s' rfl
      exact hobj rfl
    · rintro s' rfl
      exact harr rfl

/-- Fields that are read, without repeated keys and not too deep, are read by the decoder with
twice their characters as fuel. -/
theorem ReadsFields.scan {s r : Str} {pairs : List (Str × Json)} (h : ReadsFields rt s pairs r)
    (hdistinct : distinctFields pairs = true) {d : ℕ} (hdepth : depthFields pairs ≤ d) {fuel : ℕ}
    (hfuel : 2 * s.length ≤ fuel + 2 * r.length) :
    scanFields rt fuel d s = .ok (pairs, r) := by
  have hlt := h.length_lt
  obtain ⟨fuel, rfl⟩ : ∃ fuel', fuel = fuel' + 1 := ⟨fuel - 1, by omega⟩
  match h with
  | @ReadsFields.last _ s s₁ s₂ s₃ r key value hkey hcolon hvalue hend =>
    have h1 := scanString_length hkey
    have h2 := length_of_skipWs hcolon
    have h3 := length_of_skipWs hend
    have h4 := length_skipWs_le s₂
    rw [List.length_cons] at hfuel
    rw [distinctFields, Bool.and_eq_true] at hdistinct
    rw [depthFields] at hdepth
    have hscan : scanOnce rt fuel d (skipWs s₂) = .ok (value, s₃) :=
      hvalue.scan hdistinct.1 ((le_max_left _ _).trans hdepth) (by omega)
    rw [scanFields]
    simp only [hkey, hcolon, hscan, hend, bind, Except.bind]
  | @ReadsFields.more _ s s₁ s₂ s₃ s₄ r key value pairs hkey hcolon hvalue hcomma hrest =>
    have h1 := scanString_length hkey
    have h2 := length_of_skipWs hcolon
    have h3 := length_of_skipWs hcomma
    have h4 := length_skipWs_le s₂
    have h5 := length_skipWs_le s₄
    have h6 := hrest.length_lt
    have h7 := hvalue.length_lt
    rw [List.length_cons] at hfuel
    rw [distinctFields, Bool.and_eq_true] at hdistinct
    rw [depthFields] at hdepth
    have hscan : scanOnce rt fuel d (skipWs s₂) = .ok (value, s₃) :=
      hvalue.scan hdistinct.1 ((le_max_left _ _).trans hdepth) (by omega)
    have hscan' : scanFields rt fuel d (skipWs s₄) = .ok (pairs, r) :=
      hrest.scan hdistinct.2 ((le_max_right _ _).trans hdepth) (by omega)
    rw [scanFields]
    simp only [hkey, hcolon, hscan, hcomma, hscan', bind, Except.bind]

/-- Items that are read, without repeated keys and not too deep, are read by the decoder with
twice their characters as fuel. -/
theorem ReadsItems.scan {s r : Str} {items : List Json} (h : ReadsItems rt s items r)
    (hdistinct : distinctItems items = true) {d : ℕ} (hdepth : depthItems items ≤ d) {fuel : ℕ}
    (hfuel : 2 * s.length ≤ fuel + 2 * r.length) : scanItems rt fuel d s = .ok (items, r) := by
  have hlt := h.length_lt
  obtain ⟨fuel, rfl⟩ : ∃ fuel', fuel = fuel' + 1 := ⟨fuel - 1, by omega⟩
  match h with
  | @ReadsItems.last _ s s₁ r value hvalue hend =>
    have h1 := length_of_skipWs hend
    rw [distinctItems, Bool.and_eq_true] at hdistinct
    rw [depthItems] at hdepth
    have hscan : scanOnce rt fuel d s = .ok (value, s₁) :=
      hvalue.scan hdistinct.1 ((le_max_left _ _).trans hdepth) (by omega)
    rw [scanItems]
    simp only [hscan, hend, bind, Except.bind]
  | @ReadsItems.more _ s s₁ s₂ r value items hvalue hcomma hrest =>
    have h1 := length_of_skipWs hcomma
    have h2 := length_skipWs_le s₂
    have h3 := hrest.length_lt
    have h4 := hvalue.length_lt
    rw [distinctItems, Bool.and_eq_true] at hdistinct
    rw [depthItems] at hdepth
    have hscan : scanOnce rt fuel d s = .ok (value, s₁) :=
      hvalue.scan hdistinct.1 ((le_max_left _ _).trans hdepth) (by omega)
    have hscan' : scanItems rt fuel d (skipWs s₂) = .ok (items, r) :=
      hrest.scan hdistinct.2 ((le_max_right _ _).trans hdepth) (by omega)
    rw [scanItems]
    simp only [hscan, hcomma, hscan', bind, Except.bind]
end

/-- **The decoder accepts JSON text** in which no object repeats a key and whose nesting
is within the recursion limit, and nothing else. -/
theorem rawDecode_iff {s r : Str} {j : Json} : rawDecode rt s = .ok (j, r) ↔
    Reads rt s j r ∧ distinct j = true ∧ depth j ≤ rt.recursionLimit :=
  ⟨(scan_sound rt _).value _ _ _ _, fun ⟨h, hdistinct, hdepth⟩ =>
    h.scan hdistinct hdepth (by omega)⟩

end Decode
end CouncilLogic
