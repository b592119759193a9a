/-
# What the store accepts

A dictionary is written to a JSON column when none of its keys names a credential, all
its text is UTF-8 and all its numbers are finite.

The three conditions belong to three places of `src/model_council/store.py`:
`_assert_no_credentials` refuses the keys, `json.dumps(…, allow_nan=False)` the numbers, and
SQLite the text when it is bound.  `storable` joins them into one test of a value, `Dict.store_ok`
says that it is enough, and the rest of the module reads the single conditions off a dictionary
that was stored, and shows that a value that is read back can be stored again.
-/

import CouncilLogic.Json.Laws

namespace CouncilLogic
namespace Json

/-- The key is neither a credential's nor an endpoint's. -/
def plainKey (rt : Runtime) (key : Str) : Bool :=
  decide (normalizedKey rt key ∉ rawCredentialKeys) &&
    decide (normalizedKey rt key ≠ lit "endpoint") && Str.encodable key

mutual
/-- The value may be stored. -/
def storable (rt : Runtime) : Json → Bool
  | .arr items => storableItems rt items
  | .obj fields => storableFields rt fields
  | .null => true
  | .bool _ => true
  | .int n => dumpable (.int n)
  | .float t => dumpable (.float t)
  | .str s => Str.encodable s

def storableItems (rt : Runtime) : List Json → Bool
  | [] => true
  | j :: js => storable rt j && storableItems rt js

def storableFields (rt : Runtime) : List (Str × Json) → Bool
  | [] => true
  | (k, j) :: fs => plainKey rt k && storable rt j && storableFields rt fs
end

variable {rt : Runtime}

mutual
/-- The numbers of a storable value can be printed. -/
theorem dumpable_of_storable : ∀ j : Json, storable rt j = true → dumpable j = true
  | .arr items, h => dumpableItems_of_storable items h
  | .obj fields, h => dumpableFields_of_storable fields h
  | .null, _ => rfl
  | .bool _, _ => rfl
  | .int _, h => h
  | .float _, h => h
  | .str _, _ => rfl

/-- The numbers of storable items can be printed. -/
theorem dumpableItems_of_storable :
    ∀ js : List Json, storableItems rt js = true → dumpableItems js = true
  | [], _ => rfl
  | j :: js, h => by
    rw [storableItems, Bool.and_eq_true] at h
    rw [dumpableItems, dumpable_of_storable j h.1, dumpableItems_of_storable js h.2]
    rfl

/-- The numbers of storable fields can be printed. -/
theorem dumpableFields_of_storable :
    ∀ fs : List (Str × Json), storableFields rt fs = true → dumpableFields fs = true
  | [], _ => rfl
  | (k, j) :: fs, h => by
    rw [storableFields, Bool.and_eq_true, Bool.and_eq_true] at h
    rw [dumpableFields, dumpable_of_storable j h.1.2, dumpableFields_of_storable fs h.2]
    rfl
end

mutual
/-- The texts of a storable value can be encoded. -/
theorem encodable_of_storable : ∀ j : Json, storable rt j = true → encodable j = true
  | .arr items, h => encodableItems_of_storable items h
  | .obj fields, h => encodableFields_of_storable fields h
  | .null, _ => rfl
  | .bool _, _ => rfl
  | .int _, _ => rfl
  | .float _, _ => rfl
  | .str _, h => h

/-- The texts of storable items can be encoded. -/
theorem encodableItems_of_storable :
    ∀ js : List Json, storableItems rt js = true → encodableItems js = true
  | [], _ => rfl
  | j :: js, h => by
    rw [storableItems, Bool.and_eq_true] at h
    rw [encodableItems, encodable_of_storable j h.1, encodableItems_of_storable js h.2]
    rfl

/-- The keys and the texts of storable fields can be encoded. -/
theorem encodableFields_of_storable :
    ∀ fs : List (Str × Json), storableFields rt fs = true → encodableFields fs = true
  | [], _ => rfl
  | (k, j) :: fs, h => by
    rw [storableFields, plainKey, Bool.and_eq_true, Bool.and_eq_true, Bool.and_eq_true] at h
    rw [encodableFields, h.1.1.2, encodable_of_storable j h.1.2,
      encodableFields_of_storable fs h.2]
    rfl
end

mutual
/-- No key of a storable value names a credential. -/
theorem assertNoCredentials_of_storable :
    ∀ (j : Json) (path : Str), storable rt j = true → assertNoCredentials rt path j = .ok ()
  | .arr items, path, h => assertNoCredentialsItems_of_storable items path 0 h
  | .obj fields, path, h => assertNoCredentialsFields_of_storable fields path h
  | .null, _, _ => rfl
  | .bool _, _, _ => rfl
  | .int _, _, _ => rfl
  | .float _, _, _ => rfl
  | .str _, _, _ => rfl

/-- No key inside storable items names a credential. -/
theorem assertNoCredentialsItems_of_storable :
    ∀ (js : List Json) (path : Str) (index : ℕ), storableItems rt js = true →
      assertNoCredentialsItems rt path index js = .ok ()
  | [], _, _, _ => rfl
  | j :: js, path, index, h => by
    rw [storableItems, Bool.and_eq_true] at h
    rw [assertNoCredentialsItems, assertNoCredentials_of_storable j _ h.1]
    exact assertNoCredentialsItems_of_storable js path (index + 1) h.2

/-- No key of storable fields, or inside them, names a credential. -/
theorem assertNoCredentialsFields_of_storable :
    ∀ (fs : List (Str × Json)) (path : Str), storableFields rt fs = true →
      assertNoCredentialsFields rt path fs = .ok ()
  | [], _, _ => rfl
  | (k, j) :: fs, path, h => by
    rw [storableFields, plainKey, Bool.and_eq_true, Bool.and_eq_true, Bool.and_eq_true,
      Bool.and_eq_true, decide_eq_true_eq, decide_eq_true_eq] at h
    have hvalue := assertNoCredentials_of_storable j (path ++ lit "." ++ k) h.1.2
    have hrest := assertNoCredentialsFields_of_storable fs path h.2
    rw [assertNoCredentialsFields]
    simp only [bind, Except.bind, h.1.1.1.1, if_false]
    cases j <;> simp only [hvalue, hrest, h.1.1.1.2, false_and, if_false]
end

/-- A list of texts is storable when all of them can be encoded. -/
theorem storableItems_map_str (l : List Str) :
    storableItems rt (l.map .str) = l.all Str.encodable := by
  induction l with
  | nil => rfl
  | cons s l ih =>
    rw [List.map_cons, storableItems, ih]
    rfl

/-! ### What is read back can be written again -/

/-- Fields can be encoded when each of them can, with its key. -/
theorem encodableFields_eq_all (fields : List (Str × Json)) :
    encodableFields fields = fields.all fun f => Str.encodable f.1 && encodable f.2 := by
  induction fields with
  | nil => rfl
  | cons f fields ih =>
    obtain ⟨k, j⟩ := f
    rw [encodableFields, ih]
    rfl

/-- The order of the fields does not matter. -/
theorem encodableFields_sortFields (fields : List (Str × Json)) :
    encodableFields (sortFields fields) = encodableFields fields := by
  rw [encodableFields_eq_all, encodableFields_eq_all]
  exact (sortFields_perm fields).all_eq

mutual
/-- The order of the keys does not matter for the encoding. -/
theorem encodable_canon : ∀ j : Json, encodable (canon j) = encodable j
  | .arr items => encodableItems_canonItems items
  | .obj fields => (encodableFields_sortFields _).trans (encodableFields_canonFields fields)
  | .null => rfl
  | .bool _ => rfl
  | .int _ => rfl
  | .float _ => rfl
  | .str _ => rfl

/-- The order of the keys inside the items does not matter for the encoding. -/
theorem encodableItems_canonItems :
    ∀ js : List Json, encodableItems (canonItems js) = encodableItems js
  | [] => rfl
  | j :: js => by
    rw [canonItems, encodableItems, encodableItems, encodable_canon j,
      encodableItems_canonItems js]

/-- The order of the keys inside the fields does not matter for the encoding. -/
theorem encodableFields_canonFields :
    ∀ fs : List (Str × Json), encodableFields (canonFields fs) = encodableFields fs
  | [] => rfl
  | (k, j) :: fs => by
    rw [canonFields, encodableFields, encodableFields, encodable_canon j,
      encodableFields_canonFields fs]
end

/-- Fields can be printed when the value of each of them can. -/
theorem dumpableFields_eq_all (fields : List (Str × Json)) :
    dumpableFields fields = fields.all fun f => dumpable f.2 := by
  induction fields with
  | nil => rfl
  | cons f fields ih =>
    obtain ⟨k, j⟩ := f
    rw [dumpableFields, ih]
    rfl

/-- Fields can be printed in every order, or in none. -/
theorem dumpableFields_sortFields (fields : List (Str × Json)) :
    dumpableFields (sortFields fields) = dumpableFields fields := by
  rw [dumpableFields_eq_all, dumpableFields_eq_all]
  exact (sortFields_perm fields).all_eq

mutual
/-- The order of the keys does not matter for printing the numbers. -/
theorem dumpable_canon : ∀ j : Json, dumpable (canon j) = dumpable j
  | .arr items => dumpableItems_canonItems items
  | .obj fields => (dumpableFields_sortFields _).trans (dumpableFields_canonFields fields)
  | .null => rfl
  | .bool _ => rfl
  | .int _ => rfl
  | .float _ => rfl
  | .str _ => rfl

/-- The order of the keys inside the items does not matter for printing the numbers. -/
theorem dumpableItems_canonItems :
    ∀ js : List Json, dumpableItems (canonItems js) = dumpableItems js
  | [] => rfl
  | j :: js => by
    rw [canonItems, dumpableItems, dumpableItems, dumpable_canon j, dumpableItems_canonItems js]

/-- The order of the keys inside the fields does not matter for printing the numbers. -/
theorem dumpableFields_canonFields :
    ∀ fs : List (Str × Json), dumpableFields (canonFields fs) = dumpableFields fs
  | [] => rfl
  | (k, j) :: fs => by
    rw [canonFields, dumpableFields, dumpableFields, dumpable_canon j,
      dumpableFields_canonFields fs]
end

end Json

/-- A storable dictionary is storable with one more storable field. -/
theorem Dict.storable_set {rt : Runtime} {d : Dict} {key : Str} {j : Json}
    (hkey : Json.plainKey rt key = true) (hvalue : Json.storable rt j = true)
    (h : Json.storableFields rt d = true) : Json.storableFields rt (Dict.set d key j) = true := by
  induction d with
  | nil =>
    show (Json.plainKey rt key && Json.storable rt j && true) = true
    rw [hkey, hvalue]
    rfl
  | cons f d ih =>
    obtain ⟨k, v⟩ := f
    rw [Json.storableFields, Bool.and_eq_true, Bool.and_eq_true] at h
    unfold Dict.set
    split
    · rw [Json.storableFields, h.1.1, hvalue, h.2]
      rfl
    · rw [Json.storableFields, h.1.1, h.1.2, ih h.2]
      rfl

/-- A stored dictionary was encoded. -/
theorem Dict.encode_of_store {rt : Runtime} {path : Str} {d d' : Dict}
    (h : Dict.store rt path d = .ok d') : Dict.encode d = .ok d.canon := by
  unfold Dict.store at h
  simp only [bind, Except.bind] at h
  split at h
  · cases h
  · unfold Dict.encode at h ⊢
    split at h
    · cases h
    split at h
    · cases h
    · rename_i hdumpable hencodable
      rw [if_neg hdumpable, if_neg hencodable]

/-- What is encoded is the dictionary with its keys sorted. -/
theorem Dict.encode_ok {d d' : Dict} (h : Dict.encode d = .ok d') : d' = d.canon := by
  unfold Dict.encode at h
  split at h
  · cases h
  split at h
  · cases h
  · cases h
    rfl

/-- The text of an encoded dictionary can be encoded. -/
theorem Dict.encodable_of_encode {d d' : Dict} (h : Dict.encode d = .ok d') :
    Json.encodableFields d = true := by
  unfold Dict.encode at h
  split at h
  · cases h
  split at h
  · cases h
  · rename_i hencodable
    simpa using hencodable

/-- The numbers of an encoded dictionary are printed. -/
theorem Dict.dumpable_of_encode {d d' : Dict} (h : Dict.encode d = .ok d') :
    Json.dumpableFields d = true := by
  unfold Dict.encode at h
  split at h
  · cases h
  · rename_i hdumpable
    simpa using hdumpable

/-- A dictionary of printable numbers and UTF-8 texts is encoded. -/
theorem Dict.encode_eq_ok {d : Dict} (hdumpable : Json.dumpableFields d = true)
    (hencodable : Json.encodableFields d = true) : Dict.encode d = .ok d.canon := by
  unfold Dict.encode
  rw [hdumpable, hencodable]
  rfl

/-- **A storable dictionary is stored**, with its keys sorted. -/
theorem Dict.store_ok {rt : Runtime} {d : Dict} (h : Json.storableFields rt d = true) (path : Str) :
    Dict.store rt path d = .ok d.canon := by
  unfold Dict.store Dict.encode
  rw [Json.dumpableFields_of_storable d h, Json.encodableFields_of_storable d h]
  simp only [bind, Except.bind, Json.assertNoCredentials_of_storable (.obj d) path h,
    Bool.true_eq_false, if_false]

end CouncilLogic
