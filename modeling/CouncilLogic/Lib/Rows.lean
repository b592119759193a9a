/-
# Rows with a key

A table is a list of rows in which no key occurs twice.  These are the laws of
finding, changing, appending and deleting a row by its key, and of a total taken
over all rows.

The tables of `src/model_council/store.py`, `src/model_council/service_store.py` and of the other
stores are modelled by such lists; a primary key or a unique index is `Unique` of the
corresponding column.  The laws are stated for any type of rows and any key with decidable
equality, so that one proof serves the rows of every table, and a second index of the same table
is only another key.
-/

import Mathlib.Data.List.Nodup
import Mathlib.Data.Nat.Notation
import Mathlib.Algebra.BigOperators.Group.List.Basic
import Mathlib.Algebra.Ring.Nat

namespace Rows

variable {α κ ι : Type} {key : α → κ} {rows : List α}

/-- No key occurs twice. -/
def Unique (key : α → κ) (rows : List α) : Prop := (rows.map key).Nodup

/-- Two rows with one key are one row. -/
theorem Unique.eq (h : Unique key rows) {a b : α} (ha : a ∈ rows) (hb : b ∈ rows)
    (hab : key a = key b) : a = b :=
  List.inj_on_of_nodup_map h ha hb hab

/-- The key of the first row is none of the others, whose keys are unique in their turn. -/
theorem Unique.cons {a : α} (h : Unique key (a :: rows)) :
    key a ∉ rows.map key ∧ Unique key rows :=
  List.nodup_cons.1 h

/-- A row with a new key can be inserted: what `INSERT` does when no constraint fails. -/
theorem Unique.append (h : Unique key rows) {r : α} (hr : ∀ a ∈ rows, key a ≠ key r) :
    Unique key (rows ++ [r]) := by
  unfold Unique
  rw [List.map_append, List.nodup_append]
  refine ⟨h, List.nodup_singleton _, ?_⟩
  intro x hx y hy
  obtain ⟨a, ha, rfl⟩ := List.mem_map.1 hx
  rw [List.map_singleton, List.mem_singleton] at hy
  rw [hy]
  exact hr a ha

/-- Deleting rows keeps the keys unique. -/
theorem Unique.filter (h : Unique key rows) (p : α → Bool) : Unique key (rows.filter p) :=
  (List.filter_sublist.map key).nodup h

variable [DecidableEq κ]

/-- The row with a key. -/
def find (key : α → κ) (rows : List α) (k : κ) : Option α := rows.find? fun r => key r = k

/-- The rows, those with the key changed. -/
def change (key : α → κ) (rows : List α) (k : κ) (f : α → α) : List α :=
  rows.map fun r => if key r = k then f r else r

/-- What is found is in the table, under the key. -/
theorem find_some {k : κ} {r : α} (h : find key rows k = some r) : r ∈ rows ∧ key r = k :=
  ⟨List.mem_of_find?_eq_some h, by simpa using List.find?_some h⟩

/-- Finding a row is having it in the table. -/
theorem find_eq_some (h : Unique key rows) {k : κ} {r : α} :
    find key rows k = some r ↔ r ∈ rows ∧ key r = k := by
  constructor
  · intro hf
    exact find_some hf
  · rintro ⟨hr, rfl⟩
    cases hf : find key rows (key r) with
    | none =>
      have := List.find?_eq_none.1 hf r hr
      simp at this
    | some a =>
      have ha : a ∈ rows := List.mem_of_find?_eq_some hf
      have hk : key a = key r := by simpa using List.find?_some hf
      rw [h.eq ha hr hk]

/-- No row is found exactly when none has the key. -/
theorem find_eq_none {k : κ} : find key rows k = none ↔ ∀ r ∈ rows, key r ≠ k := by
  simp [find, List.find?_eq_none]

/-- A row is found under its own key. -/
theorem find_key (h : Unique key rows) {r : α} (hr : r ∈ rows) :
    find key rows (key r) = some r :=
  (find_eq_some h).2 ⟨hr, rfl⟩

/-- The rows of a key that is there. -/
theorem Unique.filter_key (h : Unique key rows) {r : α} (hr : r ∈ rows) :
    (rows.filter fun a => decide (key a = key r)) = [r] := by
  induction rows with
  | nil => cases hr
  | cons a rows ih =>
    obtain ⟨ha, hu⟩ := h.cons
    rcases List.mem_cons.1 hr with rfl | hr
    · rw [List.filter_cons, if_pos (decide_eq_true rfl), List.filter_eq_nil_iff.2]
      intro b hb hsame
      exact ha (of_decide_eq_true hsame ▸ List.mem_map_of_mem hb)
    · have hne : key a ≠ key r := fun heq => ha (heq ▸ List.mem_map_of_mem hr)
      rw [List.filter_cons, if_neg (by simpa using hne)]
      exact ih hu hr

/-! ### Appending -/

/-- After an insertion the new row is found under its key, and every other key finds what it found
before. -/
theorem find_append {r : α} (hr : ∀ a ∈ rows, key a ≠ key r) (k : κ) :
    find key (rows ++ [r]) k = if key r = k then some r else find key rows k := by
  unfold find
  rw [List.find?_append]
  by_cases hk : key r = k
  · have : rows.find? (fun a => decide (key a = k)) = none := by
      rw [List.find?_eq_none]
      intro a ha
      simpa [← hk] using hr a ha
    simp [this, hk]
  · simp [hk]

/-! ### Changing -/

/-- The last row is changed by its key. -/
theorem change_append {r : α} (hr : ∀ a ∈ rows, key a ≠ key r) (f : α → α) :
    change key (rows ++ [r]) (key r) f = rows ++ [f r] := by
  have hkept : rows.map (fun a => if key a = key r then f a else a) = rows := by
    conv_rhs => rw [← List.map_id rows]
    refine List.map_congr_left fun a ha => ?_
    rw [if_neg (hr a ha)]
    rfl
  unfold change
  rw [List.map_append, hkept, List.map_singleton, if_pos rfl]

/-- A change that keeps a key keeps it unique. -/
theorem Unique.change {key' : α → ι} (h : Unique key' rows) {k : κ} {f : α → α}
    (hf : ∀ r, key' (f r) = key' r) : Unique key' (change key rows k f) := by
  unfold Unique Rows.change
  have : (key' ∘ fun r => if key r = k then f r else r) = key' := by
    funext r
    simp only [Function.comp]
    split
    · exact hf r
    · rfl
  rw [List.map_map, this]
  exact h

/-- The rows after an update: the changed row of the key, and the rows of the other keys as they
were. -/
theorem mem_change {k : κ} {f : α → α} {r : α} :
    r ∈ change key rows k f ↔
      (∃ a ∈ rows, key a = k ∧ f a = r) ∨ (r ∈ rows ∧ key r ≠ k) := by
  unfold change
  rw [List.mem_map]
  constructor
  · rintro ⟨a, ha, rfl⟩
    by_cases hk : key a = k
    · exact .inl ⟨a, ha, hk, by simp [hk]⟩
    · exact .inr ⟨by simpa [hk] using ha, by simp [hk]⟩
  · rintro (⟨a, ha, hk, rfl⟩ | ⟨hr, hk⟩)
    · exact ⟨a, ha, by simp [hk]⟩
    · exact ⟨r, hr, by simp [hk]⟩

/-- The row found under a key, after the rows of a key have changed. -/
theorem find_change_key {k : κ} {f : α → α} (hf : ∀ r, key r = k → key (f r) = k) (j : κ) :
    find key (change key rows k f) j =
      if j = k then (find key rows k).map f else find key rows j := by
  induction rows with
  | nil => split <;> rfl
  | cons a rows ih =>
    unfold find change at ih ⊢
    rw [List.map_cons, List.find?_cons, List.find?_cons, List.find?_cons, ih]
    by_cases hak : key a = k
    · by_cases hjk : j = k
      · simp [hak, hjk, hf]
      · simp [hak, hjk, hf, Ne.symm hjk]
    · by_cases hjk : j = k
      · simp [hak, hjk]
      · simp [hak, hjk]

/-- Finding by another key after the row of `k` has changed. -/
theorem find_change [DecidableEq ι] {key' : α → ι} (h : Unique key' rows)
    (hu : Unique key rows) {r : α} (hr : r ∈ rows) {f : α → α}
    (hf : ∀ a, key' (f a) = key' a) (i : ι) :
    find key' (change key rows (key r) f) i =
      if key' r = i then some (f r) else find key' rows i := by
  by_cases hi : key' r = i
  · rw [if_pos hi, find_eq_some (h.change hf), mem_change]
    exact ⟨.inl ⟨r, hr, rfl, rfl⟩, by rw [hf, hi]⟩
  · rw [if_neg hi]
    cases hfind : find key' rows i with
    | none =>
      rw [find_eq_none] at hfind ⊢
      intro a ha
      rcases mem_change.1 ha with ⟨b, hb, -, rfl⟩ | ⟨ha, -⟩
      · rw [hf]
        exact hfind b hb
      · exact hfind a ha
    | some a =>
      obtain ⟨ha, hk⟩ := (find_eq_some h).1 hfind
      rw [find_eq_some (h.change hf), mem_change]
      refine ⟨.inr ⟨ha, fun hka => hi ?_⟩, hk⟩
      rw [← hu.eq ha hr hka, hk]

/-- Finding by a key that the change keeps: the row that was there, as it is now. -/
theorem find_change_map [DecidableEq ι] {key' : α → ι} {k : κ} {f : α → α}
    (hf : ∀ r, key' (f r) = key' r) (i : ι) :
    find key' (change key rows k f) i =
      (find key' rows i).map fun r => if key r = k then f r else r := by
  unfold find change
  rw [List.find?_map]
  refine congrArg (Option.map _) (congrArg (fun p => rows.find? p) (funext fun r => ?_))
  show decide (key' (if key r = k then f r else r) = i) = decide (key' r = i)
  split
  · rw [hf]
  · rfl

/-- A row that is changed and changed back. -/
theorem Unique.change_change (h : Unique key rows) {r : α} (hr : r ∈ rows) {f g : α → α}
    (hf : ∀ a, key (f a) = key a) (hback : g (f r) = r) :
    Rows.change key (Rows.change key rows (key r) f) (key r) g = rows := by
  unfold Rows.change
  rw [List.map_map]
  conv_rhs => rw [← List.map_id rows]
  refine List.map_congr_left fun a ha => ?_
  by_cases hsame : key a = key r
  · obtain rfl : a = r := h.eq ha hr hsame
    simp only [Function.comp_apply, if_true, hf, hback, id_eq]
  · simp only [Function.comp_apply, if_neg hsame, id_eq]

/-- A total after one row has changed. -/
theorem sum_change {M : Type} [AddCommMonoid M] (hu : Unique key rows) {r : α} (hr : r ∈ rows)
    (f : α → α) (m : α → M) :
    ((change key rows (key r) f).map m).sum + m r = (rows.map m).sum + m (f r) := by
  induction rows with
  | nil => simp at hr
  | cons a rows ih =>
    obtain ⟨ha, hu⟩ := hu.cons
    rcases List.mem_cons.1 hr with rfl | hr
    · have hrest : change key rows (key r) f = rows := by
        unfold change
        conv_rhs => rw [← List.map_id rows]
        refine List.map_congr_left fun b hb => if_neg fun hk => ha ?_
        exact List.mem_map.2 ⟨b, hb, hk⟩
      have hsum : ((change key (r :: rows) (key r) f).map m).sum =
          m (f r) + ((change key rows (key r) f).map m).sum := by
        simp [change]
      rw [hsum, hrest, List.map_cons, List.sum_cons, add_right_comm, add_comm (m (f r)),
        add_right_comm]
    · have hne : key a ≠ key r := fun hk => ha (List.mem_map.2 ⟨r, hr, hk.symm⟩)
      have hsum : ((change key (a :: rows) (key r) f).map m).sum =
          m a + ((change key rows (key r) f).map m).sum := by
        simp [change, hne]
      rw [hsum, List.map_cons, List.sum_cons, add_assoc, ih hu hr, add_assoc]

/-! ### Deleting -/

/-- Finding by another key after the row of `k` has been deleted. -/
theorem find_delete [DecidableEq ι] {key' : α → ι} (h : Unique key' rows)
    (hu : Unique key rows) {r : α} (hr : r ∈ rows) (i : ι) :
    find key' (rows.filter fun a => key a ≠ key r) i =
      if key' r = i then none else find key' rows i := by
  by_cases hi : key' r = i
  · rw [if_pos hi, find_eq_none]
    intro a ha hk
    obtain ⟨ha, hne⟩ := List.mem_filter.1 ha
    rw [h.eq ha hr (hk.trans hi.symm)] at hne
    simp at hne
  · rw [if_neg hi]
    cases hfind : find key' rows i with
    | none =>
      rw [find_eq_none] at hfind ⊢
      exact fun a ha => hfind a (List.mem_filter.1 ha).1
    | some a =>
      obtain ⟨ha, hk⟩ := (find_eq_some h).1 hfind
      rw [find_eq_some (h.filter _), List.mem_filter]
      refine ⟨⟨ha, ?_⟩, hk⟩
      simp only [ne_eq, decide_not, Bool.not_eq_true', decide_eq_false_iff_not]
      intro hka
      exact hi (by rw [← hu.eq ha hr hka, hk])

/-- The rows are the one that is deleted and the others. -/
theorem Unique.perm_delete (h : Unique key rows) {r : α} (hr : r ∈ rows) :
    rows.Perm (r :: rows.filter fun a => key a ≠ key r) := by
  have hperm := List.filter_append_perm (fun a => decide (key a = key r)) rows
  rw [h.filter_key hr] at hperm
  refine hperm.symm.trans ?_
  rw [List.singleton_append]
  refine List.Perm.cons r (List.Perm.of_eq (List.filter_congr fun a _ => ?_))
  rw [decide_not]

/-- A total after one row has been deleted. -/
theorem sum_delete (hu : Unique key rows) {r : α} (hr : r ∈ rows) (m : α → ℕ) :
    ((rows.filter fun a => key a ≠ key r).map m).sum + m r = (rows.map m).sum := by
  induction rows with
  | nil => simp at hr
  | cons a rows ih =>
    obtain ⟨ha, hu⟩ := hu.cons
    rcases List.mem_cons.1 hr with rfl | hr
    · have hrest : (rows.filter fun b => decide (key b ≠ key r)) = rows := by
        rw [List.filter_eq_self]
        intro b hb
        simpa using fun hk : key b = key r => ha (List.mem_map.2 ⟨b, hb, hk⟩)
      rw [List.filter_cons_of_neg (by simp), hrest, List.map_cons, List.sum_cons]
      omega
    · have hne : key a ≠ key r := fun hk => ha (List.mem_map.2 ⟨r, hr, hk.symm⟩)
      have := ih hu hr
      rw [List.filter_cons_of_pos (by simpa using hne)]
      simp only [List.map_cons, List.sum_cons]
      omega

/-! ### Counting -/

/-- A list of keys in which each occurs at most as often as its row allows is no longer than
what all rows allow. -/
theorem length_le_sum (hu : Unique key rows) (m : α → ℕ) {l : List κ}
    (hl : ∀ k, l.countP (· = k) ≤ ((find key rows k).map m).getD 0) :
    l.length ≤ (rows.map m).sum := by
  induction rows generalizing l with
  | nil =>
    cases l with
    | nil => exact Nat.le_refl _
    | cons k l =>
      have hcount := hl k
      rw [List.countP_cons_of_pos (by simp)] at hcount
      exact absurd hcount (by simp [find])
  | cons a rows ih =>
    obtain ⟨ha, hu⟩ := hu.cons
    have hfind : find key (a :: rows) (key a) = some a := by simp [find]
    have hown := hl (key a)
    rw [hfind] at hown
    have hothers : ∀ k, (l.filter fun k => k ≠ key a).countP (· = k) ≤
        ((find key rows k).map m).getD 0 := by
      intro k
      rw [List.countP_filter]
      by_cases hk : k = key a
      · rw [hk, List.countP_eq_zero.2 (by simp)]
        exact Nat.zero_le _
      · have hcount := hl k
        have hskip : find key (a :: rows) k = find key rows k := by
          simp [find, Ne.symm hk]
        rw [hskip] at hcount
        refine Nat.le_trans (List.countP_mono_left fun x _ hx => ?_) hcount
        exact (Bool.and_eq_true _ _ ▸ hx).1
    have hlength := List.length_eq_countP_add_countP (fun k => decide (k = key a)) (l := l)
    have hrest := ih hu hothers
    rw [← List.countP_eq_length_filter] at hrest
    have hne : l.countP (fun k => decide ¬decide (k = key a) = true) =
        l.countP (fun k => decide (k ≠ key a)) := List.countP_congr fun k _ => by simp
    rw [List.map_cons, List.sum_cons]
    simp only [Option.map_some, Option.getD_some] at hown
    omega

end Rows
