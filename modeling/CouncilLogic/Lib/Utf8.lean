/-
# Reading UTF-8

Lean keeps a string as the bytes of its UTF-8 encoding, and takes its characters out of them
by a well-founded recursion over positions, which the kernel is slow to follow.  `Utf8.decode`
reads the code points off a list of bytes by structural recursion instead, so that a
definition that contains literal texts can still be evaluated.

It is only meant for bytes that are an encoding: a sequence of bytes that is cut off is read
as if it ended there.  On the encoding of a character it returns its code point, in each of
the four lengths that an encoding has (`Utf8.decode_encodeChar`), and hence on the bytes of a
string the code points of its characters (`Utf8.decode_bytes`).
-/

import Mathlib.Data.Nat.Notation
import Mathlib.Tactic.Conv
import Mathlib.Tactic.SplitIfs

namespace Utf8

/-- The code points of a text in UTF-8. -/
def decode : List ℕ → List ℕ
  | [] => []
  | a :: bytes =>
    if a < 0x80 then a :: decode bytes
    else
      match bytes with
      | [] => []
      | b :: bytes =>
        if a < 0xe0 then (a % 0x20 * 0x40 + b % 0x40) :: decode bytes
        else
          match bytes with
          | [] => []
          | c :: bytes =>
            if a < 0xf0 then (a % 0x10 * 0x1000 + b % 0x40 * 0x40 + c % 0x40) :: decode bytes
            else
              match bytes with
              | [] => []
              | d :: bytes =>
                (a % 0x08 * 0x40000 + b % 0x40 * 0x1000 + c % 0x40 * 0x40 + d % 0x40) ::
                  decode bytes

/-- A byte below `0x80` is a character of its own. -/
theorem decode_one {a : ℕ} (ha : a < 0x80) (bytes : List ℕ) :
    decode (a :: bytes) = a :: decode bytes := by
  conv_lhs => unfold decode
  rw [if_pos ha]

/-- A lead byte of two is read with the byte behind it. -/
theorem decode_two {a : ℕ} (ha : 0x80 ≤ a ∧ a < 0xe0) (b : ℕ) (bytes : List ℕ) :
    decode (a :: b :: bytes) = (a % 0x20 * 0x40 + b % 0x40) :: decode bytes := by
  conv_lhs => unfold decode
  rw [if_neg (by omega)]
  dsimp only
  rw [if_pos ha.2]

/-- A lead byte of three is read with the two bytes behind it. -/
theorem decode_three {a : ℕ} (ha : 0xe0 ≤ a ∧ a < 0xf0) (b c : ℕ) (bytes : List ℕ) :
    decode (a :: b :: c :: bytes) =
      (a % 0x10 * 0x1000 + b % 0x40 * 0x40 + c % 0x40) :: decode bytes := by
  conv_lhs => unfold decode
  rw [if_neg (by omega)]
  dsimp only
  rw [if_neg (by omega), if_pos ha.2]

/-- A lead byte of four is read with the three bytes behind it. -/
theorem decode_four {a : ℕ} (ha : 0xf0 ≤ a) (b c d : ℕ) (bytes : List ℕ) :
    decode (a :: b :: c :: d :: bytes) =
      (a % 0x08 * 0x40000 + b % 0x40 * 0x1000 + c % 0x40 * 0x40 + d % 0x40) ::
        decode bytes := by
  conv_lhs => unfold decode
  rw [if_neg (by omega)]
  dsimp only
  rw [if_neg (by omega), if_neg (by omega)]

/-- The bytes of a character are read back, in each of the four lengths they come in. -/
theorem decode_encodeChar (c : Char) (bytes : List ℕ) :
    decode ((String.utf8EncodeChar c).map UInt8.toNat ++ bytes) = c.toNat :: decode bytes := by
  have hlt : c.toNat < 0x110000 := by
    rcases c.valid with h | ⟨-, h⟩
    · exact Nat.lt_trans h (by decide)
    · exact h
  have hbyte : ∀ n : ℕ, (UInt8.ofNat n).toNat = n % 0x100 := fun n => UInt8.toNat_ofNat'
  have hn : c.val.toNat = c.toNat := rfl
  simp only [String.utf8EncodeChar, hn]
  generalize c.toNat = v at *
  split_ifs with h1 h2 h3
  · simp only [List.map_cons, List.map_nil, List.cons_append, List.nil_append, hbyte]
    rw [decode_one (by omega), Nat.mod_eq_of_lt (by omega)]
  · simp only [List.map_cons, List.map_nil, List.cons_append, List.nil_append, hbyte]
    rw [decode_two (by omega)]
    congr 1
    omega
  · simp only [List.map_cons, List.map_nil, List.cons_append, List.nil_append, hbyte]
    rw [decode_three (by omega)]
    congr 1
    omega
  · simp only [List.map_cons, List.map_nil, List.cons_append, List.nil_append, hbyte]
    rw [decode_four (by omega)]
    congr 1
    omega

/-- The bytes of a string. -/
def bytes (s : String) : List ℕ := s.toByteArray.data.toList.map UInt8.toNat

/-- **The bytes of a string are read as its characters.** -/
theorem decode_bytes (s : String) : decode (bytes s) = s.toList.map Char.toNat := by
  have hbytes : s.toByteArray.data.toList = s.toList.flatMap String.utf8EncodeChar := by
    rw [← String.utf8Encode_toList]
    exact List.toList_data_toByteArray
  unfold bytes
  rw [hbytes]
  induction s.toList with
  | nil => rfl
  | cons c cs ih =>
    rw [List.flatMap_cons, List.map_append, decode_encodeChar, ih, List.map_cons]

end Utf8
