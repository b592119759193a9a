/-
# The order of keys

Whether the store accepts a value does not depend on the order of the keys in it: neither
the search for credentials nor `allow_nan=False` nor the encoding as UTF-8 does.

`_assert_no_credentials` of `src/model_council/store.py` walks through a value and raises at the
first key that names a credential; the path in its message depends on the order of the fields, but
whether it raises does not.  `clean` is that verdict alone, and `clean_canon` says that a value is
judged alike before it is stored and after it has been read back with sorted keys.  So what was
once accepted is accepted again, which the run records of `CouncilLogic.Store.RunLaws` and the
releases of `CouncilLogic.Store.ColumnLaws` need.
-/

import CouncilLogic.Json.Storable
import CouncilLogic.Lib.Transaction

namespace CouncilLogic
namespace Json

variable {rt : Runtime}

/-- The field names no credential and is not an endpoint that holds one. -/
def cleanField (rt : Runtime) (key : Str) (value : Json) : Bool :=
  decide (normalizedKey rt key ∉ rawCredentialKeys) &&
    match value with
    | .str s => !(decide (normalizedKey rt key = lit "endpoint") && rt.endpointRejected s)
    | .null | .bool _ | .int _ | .float _ | .arr _ | .obj _ => true

mutual
/-- `_assert_no_credentials` finds nothing to refuse. -/
def clean (rt : Runtime) : Json → Bool
  | .arr items => cleanItems rt items
  | .obj fields => cleanFields rt fields
  | .null => true
  | .bool _ => true
  | .int _ => true
  | .float _ => true
  | .str _ => true

def cleanItems (rt : Runtime) : List Json → Bool
  | [] => true
  | j :: js => clean rt j && cleanItems rt js

def cleanFields (rt : Runtime) : List (Str × Json) → Bool
  | [] => true
  | (k, j) :: fs => cleanField rt k j && clean rt j && cleanFields rt fs
end

/-- The check of a field, as `_assert_no_credentials` makes it. -/
theorem assertNoCredentialsFields_cons_ok_iff {k path : Str} {j : Json} {fs : List (Str × Json)} :
    assertNoCredentialsFields rt path ((k, j) :: fs) = .ok () ↔ cleanField rt k j = true ∧
      assertNoCredentials rt (path ++ lit "." ++ k) j = .ok () ∧
      assertNoCredentialsFields rt path fs = .ok () := by
  rw [assertNoCredentialsFields]
  unfold cleanField
  by_cases hkey : normalizedKey rt k ∈ rawCredentialKeys
  · simp [hkey, bind, Except.bind]
  · have hrest := @Except.seq_ok_iff PyErr (assertNoCredentials rt (path ++ lit "." ++ k) j)
      (assertNoCredentialsFields rt path fs)
    cases j with
    | str s =>
      by_cases hendpoint : normalizedKey rt k = lit "endpoint" ∧ rt.endpointRejected s = true
      · simp only [hendpoint, and_self, if_true, bind, Except.bind, decide_true,
          Bool.and_self, Bool.not_true, Bool.and_false, Bool.false_eq_true, false_and, iff_false]
        rintro ⟨⟩
      · simp only [hkey, hendpoint, if_false, not_false_eq_true, decide_true, Bool.true_and]
        refine hrest.trans (and_iff_right ?_).symm
        rw [Bool.not_eq_true', Bool.and_eq_false_iff, decide_eq_false_iff_not]
        exact (not_and_or.1 hendpoint).imp_right Bool.eq_false_of_not_eq_true
    | null | bool _ | int _ | float _ | arr _ | obj _ =>
      simp only [hkey, if_false, not_false_eq_true, decide_true, Bool.and_self, true_and]
      exact hrest

mutual
/-- The search raises nothing exactly for a clean value, from whichever path it starts. -/
theorem assertNoCredentials_ok_iff : ∀ (j : Json) (path : Str),
    assertNoCredentials rt path j = .ok () ↔ clean rt j = true
  | .arr items, path => assertNoCredentialsItems_ok_iff items path 0
  | .obj fields, path => assertNoCredentialsFields_ok_iff fields path
  | .null, _ => ⟨fun _ => rfl, fun _ => rfl⟩
  | .bool _, _ => ⟨fun _ => rfl, fun _ => rfl⟩
  | .int _, _ => ⟨fun _ => rfl, fun _ => rfl⟩
  | .float _, _ => ⟨fun _ => rfl, fun _ => rfl⟩
  | .str _, _ => ⟨fun _ => rfl, fun _ => rfl⟩

/-- The search through the items of a list raises nothing exactly when all of them are clean. -/
theorem assertNoCredentialsItems_ok_iff : ∀ (js : List Json) (path : Str) (index : ℕ),
    assertNoCredentialsItems rt path index js = .ok () ↔ cleanItems rt js = true
  | [], _, _ => ⟨fun _ => rfl, fun _ => rfl⟩
  | j :: js, path, index => by
    rw [assertNoCredentialsItems, Except.seq_ok_iff, assertNoCredentials_ok_iff j,
      assertNoCredentialsItems_ok_iff js, cleanItems, Bool.and_eq_true]

/-- The search through the fields of an object raises nothing exactly when no key names a
credential and all values are clean. -/
theorem assertNoCredentialsFields_ok_iff : ∀ (fs : List (Str × Json)) (path : Str),
    assertNoCredentialsFields rt path fs = .ok () ↔ cleanFields rt fs = true
  | [], _ => ⟨fun _ => rfl, fun _ => rfl⟩
  | (k, j) :: fs, path => by
    rw [assertNoCredentialsFields_cons_ok_iff, assertNoCredentials_ok_iff j,
      assertNoCredentialsFields_ok_iff fs, cleanFields, Bool.and_eq_true, Bool.and_eq_true,
      and_assoc]
end

/-! ### Sorted keys -/

/-- Whether a field holds a credential does not depend on the order of the keys in its value. -/
theorem cleanField_canon (key : Str) (value : Json) :
    cleanField rt key (canon value) = cleanField rt key value := by
  cases value <;> rfl

/-- The fields of an object are judged one by one. -/
theorem cleanFields_eq_all (fields : List (Str × Json)) :
    cleanFields rt fields = fields.all fun f => cleanField rt f.1 f.2 && clean rt f.2 := by
  induction fields with
  | nil => rfl
  | cons f fields ih =>
    obtain ⟨k, j⟩ := f
    rw [cleanFields, ih]
    rfl

/-- Sorting the fields does not change the verdict. -/
theorem cleanFields_sortFields (fields : List (Str × Json)) :
    cleanFields rt (sortFields fields) = cleanFields rt fields := by
  rw [cleanFields_eq_all, cleanFields_eq_all]
  exact (sortFields_perm fields).all_eq

mutual
/-- **A stored value is judged as it was before it was stored.** -/
theorem clean_canon : ∀ j : Json, clean rt (canon j) = clean rt j
  | .arr items => cleanItems_canonItems items
  | .obj fields => (cleanFields_sortFields _).trans (cleanFields_canonFields fields)
  | .null => rfl
  | .bool _ => rfl
  | .int _ => rfl
  | .float _ => rfl
  | .str _ => rfl

/-- The items of a list are judged alike with their keys sorted. -/
theorem cleanItems_canonItems :
    ∀ js : List Json, cleanItems rt (canonItems js) = cleanItems rt js
  | [] => rfl
  | j :: js => by
    rw [canonItems, cleanItems, cleanItems, clean_canon j, cleanItems_canonItems js]

/-- The fields of an object are judged alike with the keys of their values sorted. -/
theorem cleanFields_canonFields :
    ∀ fs : List (Str × Json), cleanFields rt (canonFields fs) = cleanFields rt fs
  | [] => rfl
  | (k, j) :: fs => by
    rw [canonFields, cleanFields, cleanFields, cleanField_canon, clean_canon j,
      cleanFields_canonFields fs]
end

end Json
end CouncilLogic
