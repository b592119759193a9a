/-
# What JSON text spares

Printed inside a JSON string a control character takes six characters, and none takes
more.  `Str.spare` is what a text takes less than as many control characters would.
Punctuation, letters and digits spare five each and quotes four, so the text of a value
spares at least what its shortest form does (`Reads.spare_le`), however it is escaped and
wherever white space stands.

`src/model_council/workload.py` plans for the longest repair prompt by padding a response with NUL
characters, on the ground that nothing takes more room in a JSON string.  For a single character
that is so; a response, however, has to contain a ballot, whose punctuation takes less than a NUL
would.  The spare of a text is that difference, and its lower bound for JSON text is what
`CouncilLogic.Guarantees.RepairBound` adds up.
-/

import Mathlib.Algebra.Order.BigOperators.Group.List
import CouncilLogic.Json.Width
import CouncilLogic.Protocol.Places

namespace CouncilLogic

/-- What a printed text takes less than as many control characters. -/
def Str.spare (s : Str) : ℕ := (s.map fun c => 6 - (Json.escape c).length).sum

namespace Str

/-- A character spares what its escape is shorter than six. -/
@[simp] theorem spare_nil : spare [] = 0 := rfl

@[simp] theorem spare_cons (c : ℕ) (s : Str) :
    spare (c :: s) = (6 - (Json.escape c).length) + spare s := by
  rw [spare, List.map_cons, List.sum_cons, spare]

/-- What two texts spare adds up. -/
theorem spare_append (s t : Str) : spare (s ++ t) = spare s + spare t := by
  rw [spare, List.map_append, List.sum_append, spare, spare]

/-- A part of a text spares no more than the text. -/
theorem spare_sublist {s t : Str} (h : s.Sublist t) : spare s ≤ spare t :=
  (h.map fun c => 6 - (Json.escape c).length).sum_le_sum fun _ _ => Nat.zero_le _

/-- An end of a text spares no more than the text. -/
theorem spare_suffix {s t : Str} (h : s <:+ t) : spare s ≤ spare t := spare_sublist h.sublist

/-- No escape is longer than six characters. -/
theorem length_escape_le (c : ℕ) : (Json.escape c).length ≤ 6 := by
  unfold Json.escape
  split_ifs
  any_goals exact show _ ≤ _ from Nat.le_of_ble_eq_true rfl

/-- **The width of a text** is what six characters for each of its own leave. -/
theorem width_add_spare (s : Str) : width s + spare s = 6 * s.length + 2 := by
  induction s with
  | nil => rfl
  | cons c s ih =>
    have hle := length_escape_le c
    have hwidth : width (c :: s) = (Json.escape c).length + width s := by
      rw [width, List.map_cons, List.sum_cons, width, Nat.add_assoc]
    rw [hwidth, spare_cons, List.length_cons]
    omega

/-- NUL characters spare nothing. -/
theorem spare_replicate (k : ℕ) : spare (List.replicate k 0) = 0 := by
  rw [spare, List.map_replicate, List.sum_replicate]
  rfl

end Str

namespace Json

mutual
/-- What the text of a value spares at least. -/
def spare : Json → ℕ
  | .null => 20
  | .bool true => 20
  | .bool false => 25
  | .int _ => 5
  | .float _ => 5
  | .str s => 8 + 5 * s.length
  | .arr [] => 10
  | .arr (j :: js) => 5 + itemsSpare (j :: js)
  | .obj [] => 10
  | .obj (f :: fs) => 5 + fieldsSpare (f :: fs)

/-- The items of a list, each with the comma or bracket behind it. -/
def itemsSpare : List Json → ℕ
  | [] => 0
  | j :: js => spare j + 5 + itemsSpare js

/-- The fields of a dictionary, each with its colon and the comma or brace behind it. -/
def fieldsSpare : List (Str × Json) → ℕ
  | [] => 0
  | (k, j) :: fs => 8 + 5 * k.length + 5 + spare j + 5 + fieldsSpare fs
end

/-- The shortest text of every value spares at least five. -/
theorem five_le_spare (j : Json) : 5 ≤ spare j := by
  match j with
  | .null => decide
  | .bool true => decide
  | .bool false => decide
  | .int _ => exact le_rfl
  | .float _ => exact le_rfl
  | .str s =>
    rw [spare]
    omega
  | .arr [] => exact Nat.le_add_left _ _
  | .arr (_ :: _) => exact Nat.le_add_right _ _
  | .obj [] => exact Nat.le_add_left _ _
  | .obj (_ :: _) => exact Nat.le_add_right _ _

/-- The fields of an object spare what each of them does with its key, its quotes, its colon and
its comma. -/
theorem fieldsSpare_eq_sum (fs : List (Str × Json)) :
    fieldsSpare fs = (fs.map fun f => 18 + 5 * f.1.length + spare f.2).sum := by
  induction fs with
  | nil => rfl
  | cons f fs ih =>
    obtain ⟨k, j⟩ := f
    rw [fieldsSpare, List.map_cons, List.sum_cons, ih]
    dsimp only
    omega

end Json

namespace Decode

open Str

variable {rt : Runtime}

/-- Passing white space spares no more. -/
theorem spare_skipWs_le (s : Str) : spare (skipWs s) ≤ spare s :=
  spare_suffix (List.dropWhile_suffix _)

/-- A punctuation character behind white space. -/
theorem spare_of_skipWs {c : ℕ} {s r : Str} (hc : (Json.escape c).length = 1)
    (h : skipWs s = c :: r) :
    5 + spare r ≤ spare s := by
  have hle := spare_skipWs_le s
  rw [h, spare_cons, hc] at hle
  exact hle

/-- **The text of a string** spares five for each character, and its closing quote four. -/
theorem scanString_spare {s t r : Str} (h : scanString s = .ok (t, r)) :
    4 + 5 * t.length + spare r ≤ spare s := by
  have hslash : 6 - (Json.escape 92).length = 4 := rfl
  have hletter : 6 - (Json.escape 117).length = 5 := rfl
  fun_induction scanString s generalizing t r with
  | case1 => cases h
  | case2 rest =>
    cases h
    rw [spare_cons]
    exact le_rfl
  | case3 => cases h
  | case4 => cases h
  | case5 a b c d e f g h' rest u hu hhigh v hv hlow ih =>
    obtain ⟨s, hs, rfl⟩ := bind_scan_ok h
    have hle := ih hs
    simp only [spare_cons, List.length_cons, hslash, hletter]
    omega
  | case6 a b c d e f g h' rest u hu hhigh v hv hlow ih =>
    obtain ⟨s, hs, rfl⟩ := bind_scan_ok h
    have hle := ih hs
    simp only [spare_cons, List.length_cons, hslash, hletter] at hle ⊢
    omega
  | case7 a b c d e f g h' rest u hu hhigh ih =>
    obtain ⟨s, hs, rfl⟩ := bind_scan_ok h
    have hle := ih hs
    simp only [spare_cons, List.length_cons, hslash, hletter] at hle ⊢
    omega
  | case8 => cases h
  | case9 a b c d rest hne u hu ih =>
    obtain ⟨s, hs, rfl⟩ := bind_scan_ok h
    have hle := ih hs
    simp only [spare_cons, List.length_cons, hslash, hletter]
    omega
  | case10 => cases h
  | case11 c rest hne hne' u hu ih =>
    obtain ⟨s, hs, rfl⟩ := bind_scan_ok h
    have hle := ih hs
    have hc : 4 ≤ 6 - (Json.escape c).length := by
      unfold unescape at hu
      split_ifs at hu <;> subst_vars <;> decide
    simp only [spare_cons, List.length_cons, hslash]
    omega
  | case12 => cases h
  | case13 c rest hquote hpair hshort hescape hc ih =>
    obtain ⟨s, hs, rfl⟩ := bind_scan_ok h
    have hle := ih hs
    have hc' : (Json.escape c).length = 1 := by
      rw [not_or] at hc
      have hne : c ≠ 34 := hquote
      unfold Json.escape
      rw [if_neg hne, if_neg hc.2, if_neg (by omega), if_neg (by omega), if_neg (by omega),
        if_neg (by omega), if_neg (by omega), if_neg (by omega)]
      rfl
    simp only [spare_cons, List.length_cons, hc']
    omega

/-- The text of an atom spares at least what the atom does. -/
theorem scanAtom_spare {s r : Str} {j : Json} (h : scanAtom rt s = .ok (j, r)) :
    Json.spare j + spare r ≤ spare s := by
  rcases scanAtom_ok h with ⟨l, hl, rfl⟩ | hnumber
  · rw [spare_append]
    refine Nat.add_le_add_right ?_ _
    cases hl <;> decide
  · -- a number starts with a digit or a minus sign, and ends behind it
    have hfirst : ∃ c s', s = c :: s' ∧ (Json.escape c).length = 1 := by
      rcases scanNumber_head hnumber with ⟨c, s', rfl, hc⟩ | ⟨c, s', rfl, -⟩
      · refine ⟨c, s', rfl, ?_⟩
        simp only [isDigit, Bool.and_eq_true, decide_eq_true_eq] at hc
        unfold Json.escape
        rw [if_neg (by omega), if_neg (by omega), if_neg (by omega), if_neg (by omega),
          if_neg (by omega), if_neg (by omega), if_neg (by omega), if_neg (by omega)]
        rfl
      · exact ⟨45, c :: s', rfl, rfl⟩
    obtain ⟨c, s', rfl, hc⟩ := hfirst
    have hsuffix : r <:+ s' := List.suffix_of_suffix_length_le (scanAtom_suffix h)
      (List.suffix_cons c s') (Nat.le_of_lt_succ (scanAtom_length h))
    have hle := spare_suffix hsuffix
    have hj : Json.spare j = 5 := by
      rw [scanNumber_eq] at hnumber
      unfold NumberParts.value at hnumber
      split_ifs at hnumber
      all_goals
        cases hnumber
        rfl
    rw [hj, spare_cons, hc]
    omega

/-- An object with fields spares five more than its fields: a brace, for the comma it has too few.
-/
theorem ReadsFields.spare_obj {s r : Str} {pairs : List (Str × Json)}
    (h : ReadsFields rt s pairs r) : Json.spare (.obj pairs) = 5 + Json.fieldsSpare pairs := by
  cases h <;> rfl

/-- A list with items spares five more than its items. -/
theorem ReadsItems.spare_arr {s r : Str} {items : List Json} (h : ReadsItems rt s items r) :
    Json.spare (.arr items) = 5 + Json.itemsSpare items := by
  cases h <;> rfl

mutual
/-- **The text of a value** spares what its shortest form does. -/
theorem Reads.spare_le {s r : Str} {j : Json} (h : Reads rt s j r) :
    Json.spare j + spare r ≤ spare s := by
  match h with
  | @Reads.str _ s t r h =>
    have hle := scanString_spare h
    rw [Json.spare, spare_cons]
    show _ ≤ 4 + _
    omega
  | @Reads.objNil _ s r h =>
    have hle := spare_of_skipWs (c := 125) rfl h
    rw [Json.spare, spare_cons]
    show _ ≤ 5 + _
    omega
  | @Reads.obj _ s r pairs h =>
    have hle := h.spare_le
    have hws := spare_skipWs_le s
    have hspare : Json.spare (.obj pairs) = 5 + Json.fieldsSpare pairs := h.spare_obj
    rw [hspare, spare_cons]
    show _ ≤ 5 + _
    omega
  | @Reads.arrNil _ s r h =>
    have hle := spare_of_skipWs (c := 93) rfl h
    rw [Json.spare, spare_cons]
    show _ ≤ 5 + _
    omega
  | @Reads.arr _ s r items hne h =>
    have hle := h.spare_le
    have hws := spare_skipWs_le s
    have hspare : Json.spare (.arr items) = 5 + Json.itemsSpare items := h.spare_arr
    rw [hspare, spare_cons]
    show _ ≤ 5 + _
    omega
  | .atom _ _ _ h => exact scanAtom_spare h

/-- The text of fields spares at least what the fields do. -/
theorem ReadsFields.spare_le {s r : Str} {pairs : List (Str × Json)}
    (h : ReadsFields rt s pairs r) : Json.fieldsSpare pairs + spare r ≤ spare s := by
  match h with
  | @ReadsFields.last _ s s₁ s₂ s₃ r key value hkey hcolon hvalue hend =>
    have h1 := scanString_spare hkey
    have h2 := spare_of_skipWs (c := 58) rfl hcolon
    have h3 := spare_skipWs_le s₂
    have h4 := hvalue.spare_le
    have h5 := spare_of_skipWs (c := 125) rfl hend
    rw [Json.fieldsSpare, Json.fieldsSpare, spare_cons]
    show _ ≤ 4 + _
    omega
  | @ReadsFields.more _ s s₁ s₂ s₃ s₄ r key value pairs hkey hcolon hvalue hcomma hrest =>
    have h1 := scanString_spare hkey
    have h2 := spare_of_skipWs (c := 58) rfl hcolon
    have h3 := spare_skipWs_le s₂
    have h4 := hvalue.spare_le
    have h5 := spare_of_skipWs (c := 44) rfl hcomma
    have h6 := spare_skipWs_le s₄
    have h7 := hrest.spare_le
    rw [Json.fieldsSpare, spare_cons]
    show _ ≤ 4 + _
    omega

/-- The text of items spares at least what the items do. -/
theorem ReadsItems.spare_le {s r : Str} {items : List Json} (h : ReadsItems rt s items r) :
    Json.itemsSpare items + spare r ≤ spare s := by
  match h with
  | @ReadsItems.last _ s s₁ r value hvalue hend =>
    have h1 := hvalue.spare_le
    have h2 := spare_of_skipWs (c := 93) rfl hend
    rw [Json.itemsSpare, Json.itemsSpare]
    omega
  | @ReadsItems.more _ s s₁ s₂ r value items hvalue hcomma hrest =>
    have h1 := hvalue.spare_le
    have h2 := spare_of_skipWs (c := 44) rfl hcomma
    have h3 := spare_skipWs_le s₂
    have h4 := hrest.spare_le
    rw [Json.itemsSpare]
    omega
end

end Decode
end CouncilLogic
