/-
# Values whose text can be encoded

The compact text of a value can be encoded as UTF-8 when every key, every string and the text of
every float in it can.

`plan_hash` of `src/model_council/approval.py` is the digest of such a text, and a digest needs
bytes: a plan with a lone surrogate in a name has none, and raises `UnicodeEncodeError`.  The
condition is one on the value, so that it can be checked field by field and is the same for every
order of the keys.
-/

import CouncilLogic.Json.Storable

namespace CouncilLogic
namespace Json

mutual
/-- Every text that is printed of the value can be encoded. -/
def writable : Json → Bool
  | .str s => Str.encodable s
  | .float t => Str.encodable t
  | .arr items => itemsWritable items
  | .obj fields => fieldsWritable fields
  | .null => true
  | .bool _ => true
  | .int _ => true

def itemsWritable : List Json → Bool
  | [] => true
  | j :: js => writable j && itemsWritable js

def fieldsWritable : List (Str × Json) → Bool
  | [] => true
  | (k, j) :: fs => Str.encodable k && writable j && fieldsWritable fs
end

/-- A text can be encoded when its first character and its rest can. -/
theorem encodable_cons (c : ℕ) (s : Str) :
    Str.encodable (c :: s) = (Str.encodable [c] && Str.encodable s) := encodable_append [c] s

/-- The escape of a character that can be encoded can be encoded. -/
theorem encodable_escape {c : ℕ} (h : Str.encodable [c] = true) :
    Str.encodable (escape c) = true := by
  have hlt : ∀ d, d < 16 → Str.encodable [escape.hexDigit d] = true := by decide
  unfold escape
  split
  · rfl
  split
  · rfl
  split
  · exact encodable_lit _
  split
  · exact encodable_lit _
  split
  · exact encodable_lit _
  split
  · exact encodable_lit _
  split
  · exact encodable_lit _
  split
  · rename_i hcontrol
    have h₁ := hlt (c / 16) (by omega)
    have h₂ := hlt (c % 16) (by omega)
    rw [encodable_append, encodable_lit, encodable_cons, h₁, h₂]
    rfl
  · exact h

/-- A string that can be encoded is printed as a text that can. -/
theorem encodable_dumpsStr {s : Str} (h : Str.encodable s = true) :
    Str.encodable (dumpsStr s) = true := by
  have hbody : Str.encodable (s.flatMap escape) = true := by
    unfold Str.encodable at h ⊢
    rw [List.all_flatMap, List.all_eq_true]
    intro c hc
    refine encodable_escape ?_
    unfold Str.encodable
    rw [List.all_cons, List.all_eq_true.1 h c hc]
    rfl
  unfold dumpsStr
  rw [encodable_cons, encodable_append, hbody]
  rfl

/-- A printed integer can be encoded. -/
theorem encodable_ofInt (n : ℤ) : Str.encodable (Str.ofInt n) = true := by
  cases n with
  | ofNat n => exact encodable_ofNat n
  | negSucc n =>
    rw [Str.ofInt, encodable_cons, encodable_ofNat]
    rfl

mutual
/-- **The text of a value can be encoded** when all that is printed in it can. -/
theorem encodable_dumpsCompact :
    ∀ j : Json, writable j = true → Str.encodable (dumpsCompact j) = true
  | .arr [], _ => encodable_lit _
  | .arr (j :: js), h => by
    rw [writable, itemsWritable, Bool.and_eq_true] at h
    rw [dumpsCompact, encodable_append, encodable_append, encodable_append,
      encodable_dumpsCompact j h.1, encodable_dumpsCompactItems js h.2, encodable_lit,
      encodable_lit]
    rfl
  | .obj [], _ => encodable_lit _
  | .obj ((k, j) :: fs), h => by
    rw [writable, fieldsWritable, Bool.and_eq_true, Bool.and_eq_true] at h
    rw [dumpsCompact, encodable_append, encodable_append, encodable_append, encodable_append,
      encodable_append, encodable_dumpsStr h.1.1, encodable_dumpsCompact j h.1.2,
      encodable_dumpsCompactFields fs h.2, encodable_lit, encodable_lit, encodable_lit]
    rfl
  | .null, _ => encodable_lit _
  | .bool true, _ => encodable_lit _
  | .bool false, _ => encodable_lit _
  | .int n, _ => encodable_ofInt n
  | .float _, h => h
  | .str _, h => encodable_dumpsStr h

/-- The printed rest of a list of writable items can be encoded. -/
theorem encodable_dumpsCompactItems :
    ∀ js : List Json, itemsWritable js = true → Str.encodable (dumpsCompactItems js) = true
  | [], _ => rfl
  | j :: js, h => by
    rw [itemsWritable, Bool.and_eq_true] at h
    rw [dumpsCompactItems, encodable_append, encodable_append, encodable_dumpsCompact j h.1,
      encodable_dumpsCompactItems js h.2, encodable_lit]
    rfl

/-- The printed rest of an object of writable fields can be encoded. -/
theorem encodable_dumpsCompactFields : ∀ fs : List (Str × Json), fieldsWritable fs = true →
    Str.encodable (dumpsCompactFields fs) = true
  | [], _ => rfl
  | (k, j) :: fs, h => by
    rw [fieldsWritable, Bool.and_eq_true, Bool.and_eq_true] at h
    rw [dumpsCompactFields, encodable_append, encodable_append, encodable_append,
      encodable_append, encodable_dumpsStr h.1.1, encodable_dumpsCompact j h.1.2,
      encodable_dumpsCompactFields fs h.2, encodable_lit, encodable_lit]
    rfl
end

/-! ### Canonical values -/

/-- Fields are writable when each of them is, with its key. -/
theorem fieldsWritable_eq_all (fields : List (Str × Json)) :
    fieldsWritable fields = fields.all fun f => Str.encodable f.1 && writable f.2 := by
  induction fields with
  | nil => rfl
  | cons f fields ih =>
    obtain ⟨k, j⟩ := f
    rw [fieldsWritable, ih]
    rfl

mutual
/-- The order of the fields does not matter. -/
theorem writable_canon : ∀ j : Json, writable (canon j) = writable j
  | .arr items => itemsWritable_canonItems items
  | .obj fields => by
    show fieldsWritable (sortFields (canonFields fields)) = fieldsWritable fields
    rw [fieldsWritable_eq_all, (sortFields_perm _).all_eq, ← fieldsWritable_eq_all]
    exact fieldsWritable_canonFields fields
  | .null => rfl
  | .bool _ => rfl
  | .int _ => rfl
  | .float _ => rfl
  | .str _ => rfl

/-- The order of the keys inside the items does not matter. -/
theorem itemsWritable_canonItems :
    ∀ js : List Json, itemsWritable (canonItems js) = itemsWritable js
  | [] => rfl
  | j :: js => by
    rw [canonItems, itemsWritable, itemsWritable, writable_canon j, itemsWritable_canonItems js]

/-- The order of the keys inside the fields does not matter. -/
theorem fieldsWritable_canonFields :
    ∀ fs : List (Str × Json), fieldsWritable (canonFields fs) = fieldsWritable fs
  | [] => rfl
  | (k, j) :: fs => by
    rw [canonFields, fieldsWritable, fieldsWritable, writable_canon j,
      fieldsWritable_canonFields fs]
end

end Json
end CouncilLogic
