/-
# Reading back a stored dictionary

Sorting the keys of a dictionary whose keys are distinct changes no lookup, and
sorting twice is sorting once.

A dictionary is a list of fields here, as `src/model_council/store.py` receives one, and is read
back from its column with sorted keys (`Dict.canon`).  The laws of lookup are those of a Python
dictionary: the first field with a key is found, setting a key replaces its value or appends it,
updating sets the keys one after the other.  For a dictionary with distinct keys, which every
Python dictionary is, the canonical form is found alike under every key.
-/

import CouncilLogic.Json

namespace CouncilLogic

/-! ### Lookup -/

namespace Dict

variable {d d' : Dict} {key key' : Str} {value : Json}

/-- A field is the first entry with its key. -/
@[simp] theorem get?_nil : get? [] key = none := rfl

theorem get?_cons (k : Str) (v : Json) (d : Dict) :
    get? ((k, v) :: d) key = if key = k then some v else get? d key := by
  unfold get?
  rw [List.lookup_cons]
  by_cases h : key = k
  · simp [h]
  · have : (key == k) = false := by simpa using h
    simp [h, this]

/-- What is found in the first dictionary hides the second. -/
theorem get?_append : get? (d ++ d') key = (get? d key).or (get? d' key) := by
  induction d with
  | nil => simp
  | cons f d ih =>
    obtain ⟨k, v⟩ := f
    rw [List.cons_append, get?_cons, get?_cons, ih]
    split <;> simp

/-- Nothing is found exactly under the keys that are not there. -/
theorem get?_eq_none : get? d key = none ↔ key ∉ d.keys := by
  induction d with
  | nil => simp [keys]
  | cons f d ih =>
    obtain ⟨k, v⟩ := f
    have hkeys : keys ((k, v) :: d) = k :: keys d := rfl
    rw [get?_cons, hkeys, List.mem_cons]
    by_cases h : key = k
    · simp [h]
    · rw [if_neg h, ih]
      simp [h]

/-- Where keys are distinct, a field is found exactly when it is there. -/
theorem get?_eq_some (h : d.keys.Nodup) : get? d key = some value ↔ (key, value) ∈ d := by
  induction d with
  | nil => simp
  | cons f d ih =>
    obtain ⟨k, v⟩ := f
    have hkeys : keys ((k, v) :: d) = k :: keys d := rfl
    rw [hkeys, List.nodup_cons] at h
    rw [get?_cons, List.mem_cons, Prod.mk.injEq]
    by_cases hk : key = k
    · subst hk
      simp only [if_true, Option.some.injEq, true_and]
      constructor
      · rintro rfl
        exact .inl rfl
      · rintro (h' | h')
        · exact h'.symm
        · exact absurd (List.mem_map.2 ⟨_, h', rfl⟩) h.1
    · rw [if_neg hk, ih h.2]
      simp [hk]

/-- What is found is a field. -/
theorem mem_of_get? (h : get? d key = some value) : (key, value) ∈ d := by
  induction d with
  | nil => simp at h
  | cons f d ih =>
    obtain ⟨k, v⟩ := f
    rw [get?_cons] at h
    split at h
    · rename_i hk
      cases h
      simp [hk]
    · exact List.mem_cons_of_mem _ (ih h)

/-- The order of distinct keys does not matter. -/
theorem get?_perm (hp : d.Perm d') (h : d.keys.Nodup) : get? d key = get? d' key := by
  have h' : d'.keys.Nodup := (hp.map Prod.fst).nodup_iff.1 h
  apply Option.ext
  intro v
  rw [get?_eq_some h, get?_eq_some h', hp.mem_iff]

/-- **Setting a key** changes what is found under it and nothing else. -/
theorem get?_set :
    get? (set d key value) key' = if key' = key then some value else get? d key' := by
  induction d with
  | nil => rw [set, get?_cons]
  | cons f d ih =>
    obtain ⟨k, v⟩ := f
    unfold set
    by_cases hk : k = key
    · subst hk
      rw [if_pos rfl, get?_cons, get?_cons]
      split <;> rfl
    · rw [if_neg hk, get?_cons, get?_cons, ih]
      by_cases hkey : key' = k
      · rw [if_pos hkey, if_pos hkey, if_neg (fun h => hk (hkey.symm.trans h))]
      · rw [if_neg hkey, if_neg hkey]

/-- A field of a changed dictionary was there, or is the changed one. -/
theorem mem_set {f : Str × Json} (h : f ∈ set d key value) : f ∈ d ∨ f = (key, value) := by
  induction d with
  | nil => exact .inr (List.mem_singleton.1 h)
  | cons g d ih =>
    unfold set at h
    split at h
    · rename_i hkey
      rcases List.mem_cons.1 h with rfl | h
      · exact .inr (congrArg (·, value) hkey)
      · exact .inl (List.mem_cons_of_mem _ h)
    · rcases List.mem_cons.1 h with rfl | h
      · exact .inl List.mem_cons_self
      · exact (ih h).imp_left (List.mem_cons_of_mem _)

/-- Setting a key adds it to the keys, if it is not there. -/
theorem mem_keys_set {k : Str} : k ∈ (set d key value).keys ↔ k = key ∨ k ∈ d.keys := by
  rw [← not_iff_not, not_or, ← get?_eq_none, ← get?_eq_none, get?_set]
  by_cases h : k = key <;> simp [h]

/-- Setting a key repeats none. -/
theorem nodup_keys_set (h : d.keys.Nodup) : (set d key value).keys.Nodup := by
  induction d with
  | nil => simp [set, keys]
  | cons f d ih =>
    obtain ⟨k, v⟩ := f
    have hkeys : keys ((k, v) :: d) = k :: keys d := rfl
    rw [hkeys, List.nodup_cons] at h
    unfold set
    by_cases hk : k = key
    · rw [if_pos hk]
      exact List.nodup_cons.2 h
    · rw [if_neg hk]
      refine List.nodup_cons.2 ⟨fun hm => ?_, ih h.2⟩
      rcases mem_keys_set.1 hm with rfl | hm
      · exact hk rfl
      · exact h.1 hm

/-- Updating repeats no key. -/
theorem nodup_keys_update (h : d.keys.Nodup) : (update d d').keys.Nodup := by
  unfold update
  induction d' generalizing d with
  | nil => exact h
  | cons f d' ih => exact ih (nodup_keys_set h)

/-- Fields the other dictionary does not have stay. -/
theorem get?_update_of_notMem (h : key ∉ d'.keys) : get? (update d d') key = get? d key := by
  unfold update
  induction d' generalizing d with
  | nil => rfl
  | cons f d' ih =>
    obtain ⟨k, v⟩ := f
    have hkeys : keys ((k, v) :: d') = k :: keys d' := rfl
    rw [hkeys, List.mem_cons, not_or] at h
    rw [List.foldl_cons, ih h.2, get?_set, if_neg h.1]

end Dict

/-! ### Canonical form -/

namespace Json

/-- The canonical forms of the values are taken field by field. -/
theorem canonFields_eq_map (fields : List (Str × Json)) :
    canonFields fields = fields.map fun f => (f.1, canon f.2) := by
  induction fields with
  | nil => rfl
  | cons f fields ih =>
    obtain ⟨k, j⟩ := f
    simp [canonFields, ih]

/-- The canonical forms of items are taken one by one. -/
theorem canonItems_eq_map (items : List Json) : canonItems items = items.map canon := by
  induction items with
  | nil => rfl
  | cons j items ih => simp [canonItems, ih]

/-- Sorting the fields rearranges them. -/
theorem sortFields_perm (fields : List (Str × Json)) : (sortFields fields).Perm fields :=
  List.perm_insertionSort _ _

/-- Any two fields can be ordered by their keys. -/
private theorem keyLe_total (a b : Str × Json) : Str.le a.1 b.1 = true ∨ Str.le b.1 a.1 = true :=
  Str.le_total _ _

/-- The order of fields by their keys is transitive. -/
private theorem keyLe_trans {a b c : Str × Json} (h : Str.le a.1 b.1 = true)
    (h' : Str.le b.1 c.1 = true) : Str.le a.1 c.1 = true :=
  Str.le_trans h h'

/-- Sorted fields have their keys in order. -/
theorem pairwise_sortFields (fields : List (Str × Json)) :
    (sortFields fields).Pairwise fun a b => Str.le a.1 b.1 = true := by
  have : Std.Total fun a b : Str × Json => Str.le a.1 b.1 = true := ⟨keyLe_total⟩
  have : IsTrans (Str × Json) fun a b => Str.le a.1 b.1 = true := ⟨fun _ _ _ => keyLe_trans⟩
  exact List.pairwise_insertionSort _ _

/-- What is sorted stays as it is. -/
theorem sortFields_eq_self {fields : List (Str × Json)}
    (h : fields.Pairwise fun a b => Str.le a.1 b.1 = true) : sortFields fields = fields :=
  List.Pairwise.insertionSort_eq h

/-- Inserting a field in its place and taking canonical forms may be done in either order, since
the keys stay. -/
theorem insertField_canon (f : Str × Json) (fields : List (Str × Json)) :
    canonFields (List.orderedInsert (fun a b : Str × Json => Str.le a.1 b.1 = true) f fields) =
      List.orderedInsert (fun a b : Str × Json => Str.le a.1 b.1 = true) (f.1, canon f.2)
        (canonFields fields) := by
  induction fields with
  | nil => simp [canonFields_eq_map]
  | cons g fields ih =>
    rw [canonFields_eq_map] at ih ⊢
    rw [List.orderedInsert_cons]
    simp only [canonFields_eq_map, List.map_cons] at ih ⊢
    rw [List.orderedInsert_cons]
    split
    · rfl
    · rw [List.map_cons, ih]

/-- Sorting the keys and canonizing the values may be done in either order. -/
theorem canonFields_sortFields (fields : List (Str × Json)) :
    canonFields (sortFields fields) = sortFields (canonFields fields) := by
  unfold sortFields
  induction fields with
  | nil => rfl
  | cons f fields ih =>
    obtain ⟨k, j⟩ := f
    simp only [List.insertionSort_cons, canonFields]
    rw [insertField_canon, ih]

mutual
/-- **What is read back is stored as it is**: the canonical form of a value is canonical, at every
depth. -/
theorem canon_canon : ∀ j : Json, canon (canon j) = canon j
  | .null => rfl
  | .bool _ => rfl
  | .int _ => rfl
  | .float _ => rfl
  | .str _ => rfl
  | .arr items => by
    simp only [canon, canonItems_canonItems items]
  | .obj fields => by
    simp only [canon, canonFields_sortFields, canonFields_canonFields fields]
    rw [sortFields_eq_self (pairwise_sortFields _)]

/-- The items of a canonical list are canonical. -/
theorem canonItems_canonItems : ∀ js : List Json, canonItems (canonItems js) = canonItems js
  | [] => rfl
  | j :: js => by simp only [canonItems, canon_canon j, canonItems_canonItems js]

/-- The values of canonical fields are canonical. -/
theorem canonFields_canonFields : ∀ fs : List (Str × Json),
    canonFields (canonFields fs) = canonFields fs
  | [] => rfl
  | (k, j) :: fs => by simp only [canonFields, canon_canon j, canonFields_canonFields fs]
end

end Json

namespace Dict

variable {d : Dict} {key : Str}

/-- Sorting twice is sorting once: a dictionary that was read back is stored as it is. -/
@[simp] theorem canon_canon (d : Dict) : canon (canon d) = canon d := by
  have h := Json.canon_canon (.obj d)
  simpa [Json.canon, canon] using h

/-- The canonical form holds the canonical values of the fields, in another order. -/
theorem canon_perm (d : Dict) : (canon d).Perm (d.map fun f => (f.1, Json.canon f.2)) := by
  unfold canon
  rw [← Json.canonFields_eq_map]
  exact Json.sortFields_perm _

/-- The canonical form has the same keys, in another order. -/
theorem keys_canon_perm (d : Dict) : (canon d).keys.Perm d.keys := by
  have h := (canon_perm d).map Prod.fst
  rw [List.map_map] at h
  exact h

/-- The canonical form repeats no key that is not repeated. -/
theorem nodup_keys_canon (h : d.keys.Nodup) : (canon d).keys.Nodup :=
  (keys_canon_perm d).nodup_iff.2 h

/-- A key is in the canonical form exactly when it is in the dictionary. -/
@[simp] theorem mem_keys_canon : key ∈ (canon d).keys ↔ key ∈ d.keys :=
  (keys_canon_perm d).mem_iff

/-- Reading a field of what was stored. -/
theorem get?_canon (h : d.keys.Nodup) : get? (canon d) key = (get? d key).map Json.canon := by
  rw [get?_perm (canon_perm d) (nodup_keys_canon h)]
  induction d with
  | nil => rfl
  | cons f d ih =>
    obtain ⟨k, v⟩ := f
    have hkeys : keys ((k, v) :: d) = k :: keys d := rfl
    rw [hkeys, List.nodup_cons] at h
    rw [List.map_cons, get?_cons, get?_cons, ih h.2]
    split <;> rfl

/-- Inserting a field in its place finds it under its key and changes no other lookup. -/
theorem lookup_orderedInsert (f : Str × Json) (fields : List (Str × Json)) :
    (List.orderedInsert (fun a b : Str × Json => Str.le a.1 b.1 = true) f fields).lookup key =
      if key = f.1 then some f.2 else fields.lookup key := by
  obtain ⟨k, v⟩ := f
  induction fields with
  | nil => exact get?_cons k v []
  | cons g fields ih =>
    obtain ⟨k', v'⟩ := g
    rw [List.orderedInsert_cons]
    split
    · exact get?_cons k v _
    · rename_i hle
      have hne : k ≠ k' := by
        rintro rfl
        rcases Str.le_total k k with h | h <;> exact hle h
      show get? ((k', v') :: _) key = if key = k then some v else get? ((k', v') :: fields) key
      rw [get?_cons, get?_cons]
      by_cases hk : key = k'
      · subst hk
        rw [if_pos rfl, if_pos rfl, if_neg hne.symm]
      · rw [if_neg hk, if_neg hk]
        exact ih

/-- Sorting is stable: the first of two values of one key stays the first. -/
theorem lookup_sortFields (fields : List (Str × Json)) :
    (Json.sortFields fields).lookup key = fields.lookup key := by
  unfold Json.sortFields
  induction fields with
  | nil => rfl
  | cons f fields ih =>
    obtain ⟨k, v⟩ := f
    rw [List.insertionSort_cons, lookup_orderedInsert, ih]
    exact (get?_cons k v fields).symm

/-- Reading a field of what was stored, whatever its keys. -/
theorem get?_canon_eq (d : Dict) (key : Str) :
    get? (canon d) key = (get? d key).map Json.canon := by
  show (Json.sortFields (Json.canonFields d)).lookup key = _
  rw [lookup_sortFields, Json.canonFields_eq_map]
  show get? _ key = _
  induction d with
  | nil => rfl
  | cons f d ih =>
    obtain ⟨k, v⟩ := f
    rw [List.map_cons, get?_cons, get?_cons, ih]
    split <;> rfl

end Dict

end CouncilLogic
