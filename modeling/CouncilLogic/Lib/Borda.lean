/-
# Borda counts with first places as the tie-break

A ranking gives every candidate one point for each candidate below it.  The tally of a
profile adds the points of its rankings, and, as a second component, how often a
candidate is ranked first; tallies are compared lexicographically.  Because tallies add
up and the order is one of an ordered monoid, the rule is consistent
(`IsWinner.append`); because a higher place gives no fewer points and first places, it is
monotone (`IsWinner.raise`).

The library names nothing of a council: labels are of any type with decidable equality.  It is
what `aggregate_juries` of `src/model_council/protocol.py` computes once a ballot has been
accepted; `CouncilLogic.Protocol.Counting` shows that the counting loop of the code adds up
exactly this tally, and `CouncilLogic.Protocol.Verdict` that the sorted table of the code names
exactly its leaders.

A candidate that a ranking leaves out gets nothing from it, and the rankings need not be complete:
the laws hold for partial and for repeated rankings alike, so that a test of validity is never
needed to use them.
-/

import Mathlib.Algebra.BigOperators.Group.List.Basic
import Mathlib.Algebra.Order.Group.Nat
import Mathlib.Algebra.Order.Monoid.Canonical.Defs
import Mathlib.Algebra.Order.Monoid.Prod
import Mathlib.Data.Finset.Max
import Mathlib.Data.List.Nodup
import Mathlib.Data.Nat.Notation
import Mathlib.Tactic.Ring

namespace Borda

variable {α β : Type*} [DecidableEq α] [DecidableEq β]

/-! ### Rankings -/

/-- The points of a candidate: how many candidates are ranked below it. -/
def points : List α → α → ℕ
  | [], _ => 0
  | a :: r, x => if a = x then r.length else points r x

/-- Whether the candidate is ranked first. -/
def firsts (r : List α) (x : α) : ℕ := if r.head? = some x then 1 else 0

/-- A candidate that a ranking does not name gets no points from it: points are counted from the
candidates behind it, and there is no place to count from. -/
theorem points_of_not_mem {r : List α} {x : α} (h : x ∉ r) : points r x = 0 := by
  induction r with
  | nil => rfl
  | cons a r ih =>
    rw [List.mem_cons, not_or] at h
    rw [points, if_neg (Ne.symm h.1), ih h.2]

/-- Points and first places of one ranking. -/
def score (r : List α) (x : α) : ℕ ×ₗ ℕ := toLex (points r x, firsts r x)

/-- Renaming the candidates renames their points. -/
theorem score_map {σ : α → β} (hσ : Function.Injective σ) (r : List α) (x : α) :
    score (r.map σ) (σ x) = score r x := by
  have hpoints : points (r.map σ) (σ x) = points r x := by
    induction r with
    | nil => rfl
    | cons a r ih => simp only [List.map_cons, points, hσ.eq_iff, List.length_map, ih]
  have hfirsts : firsts (r.map σ) (σ x) = firsts r x := by
    unfold firsts
    cases r with
    | nil => rfl
    | cons a r => simp only [List.map_cons, List.head?_cons, Option.some.injEq, hσ.eq_iff]
  unfold score
  rw [hpoints, hfirsts]

/-- The points of the candidates in a ranking are `0, …, n - 1`. -/
theorem sum_points {r : List α} (h : r.Nodup) :
    2 * (r.map (points r)).sum = r.length * (r.length - 1) := by
  induction r with
  | nil => rfl
  | cons a r ih =>
    rw [List.nodup_cons] at h
    have hrest : r.map (points (a :: r)) = r.map (points r) := by
      refine List.map_congr_left fun x hx => ?_
      have hne : a ≠ x := fun heq => h.1 (heq ▸ hx)
      rw [points, if_neg hne]
    rw [List.map_cons, List.sum_cons, hrest, Nat.mul_add, ih h.2, points, if_pos rfl,
      List.length_cons, Nat.add_sub_cancel]
    cases r with
    | nil => rfl
    | cons b r =>
      rw [List.length_cons, Nat.add_sub_cancel]
      ring

/-- One candidate of a ranking is the first. -/
theorem sum_firsts {r : List α} (h : r.Nodup) (hne : r ≠ []) : (r.map (firsts r)).sum = 1 := by
  obtain ⟨a, r, rfl⟩ := List.exists_cons_of_ne_nil hne
  rw [List.nodup_cons] at h
  have hrest : (r.map (firsts (a :: r))).sum = 0 := by
    refine List.sum_eq_zero fun n hn => ?_
    obtain ⟨x, hx, rfl⟩ := List.mem_map.1 hn
    have hne : a ≠ x := fun heq => h.1 (heq ▸ hx)
    simp [firsts, hne]
  rw [List.map_cons, List.sum_cons, hrest]
  simp [firsts]

/-! ### Profiles -/

/-- What a candidate gets from all rankings. -/
def tally (P : List (List α)) (x : α) : ℕ ×ₗ ℕ := (P.map fun r => score r x).sum

/-- One ranking more adds what it scores. -/
@[simp] theorem tally_nil (x : α) : tally [] x = 0 := rfl

@[simp] theorem tally_cons (r : List α) (P : List (List α)) (x : α) :
    tally (r :: P) x = score r x + tally P x := List.sum_cons

/-- **Tallies add up**: two profiles together give what each of them gives, which is the reason
why the rule is consistent. -/
@[simp] theorem tally_append (P Q : List (List α)) (x : α) :
    tally (P ++ Q) x = tally P x + tally Q x := by
  unfold tally
  rw [List.map_append, List.sum_append]

/-- The order in which the ballots came does not matter, for a sum is the same in every order. -/
theorem tally_perm {P Q : List (List α)} (h : P.Perm Q) (x : α) : tally P x = tally Q x :=
  (h.map _).sum_eq

/-- **Neutrality**: under an injective renaming of the candidates a candidate's new name has the
tally of its old one. -/
theorem tally_map {σ : α → β} (hσ : Function.Injective σ) (P : List (List α)) (x : α) :
    tally (P.map (List.map σ)) (σ x) = tally P x := by
  unfold tally
  rw [List.map_map]
  exact congrArg List.sum (List.map_congr_left fun r _ => score_map hσ r x)

/-- The first component of a tally is the sum of the points. -/
theorem fst_tally (P : List (List α)) (x : α) :
    (ofLex (tally P x)).1 = (P.map fun r => points r x).sum := by
  induction P with
  | nil => rfl
  | cons r P ih => rw [tally_cons, List.map_cons, List.sum_cons, ← ih]; rfl

/-- The second component of a tally is the number of rankings that put the candidate first. -/
theorem snd_tally (P : List (List α)) (x : α) :
    (ofLex (tally P x)).2 = (P.map fun r => firsts r x).sum := by
  induction P with
  | nil => rfl
  | cons r P ih => rw [tally_cons, List.map_cons, List.sum_cons, ← ih]; rfl

omit [DecidableEq α] in
/-- What all candidates get together, of a number that each ranking distributes. -/
theorem sum_sum {P : List (List α)} {L : List α} {f : List α → α → ℕ} {n : ℕ}
    (h : ∀ r ∈ P, (L.map (f r)).sum = n) :
    (L.map fun x => (P.map fun r => f r x).sum).sum = P.length * n := by
  induction P with
  | nil => simp
  | cons r P ih =>
    obtain ⟨hr, hP⟩ := List.forall_mem_cons.1 h
    simp only [List.map_cons, List.sum_cons]
    rw [List.sum_map_add, hr, ih hP, List.length_cons]
    ring

/-- **All points together.** -/
theorem sum_fst_tally {P : List (List α)} {L : List α} (hL : L.Nodup)
    (hP : ∀ r ∈ P, r.Perm L) :
    2 * (L.map fun x => (ofLex (tally P x)).1).sum = P.length * (L.length * (L.length - 1)) := by
  have hsum : (L.map fun x => (ofLex (tally P x)).1).sum =
      P.length * (L.length * (L.length - 1) / 2) := by
    simp only [fst_tally]
    refine sum_sum fun r hr => ?_
    have hperm := hP r hr
    have htwice := sum_points (hperm.nodup_iff.2 hL)
    rw [(hperm.map _).sum_eq, hperm.length_eq] at htwice
    omega
  have heven : 2 * (L.length * (L.length - 1) / 2) = L.length * (L.length - 1) :=
    Nat.mul_div_cancel' (Nat.even_mul_pred_self _).two_dvd
  rw [hsum, Nat.mul_left_comm, heven]

/-- **All first places together.** -/
theorem sum_snd_tally {P : List (List α)} {L : List α} (hL : L.Nodup) (hne : L ≠ [])
    (hP : ∀ r ∈ P, r.Perm L) : (L.map fun x => (ofLex (tally P x)).2).sum = P.length := by
  simp only [snd_tally]
  rw [← Nat.mul_one P.length]
  refine sum_sum fun r hr => ?_
  have hperm := hP r hr
  have hnil : r ≠ [] := fun h => hne (h ▸ hperm).nil_eq.symm
  rw [← (hperm.map _).sum_eq, sum_firsts (hperm.nodup_iff.2 hL) hnil]

/-! ### Winners -/

/-- No candidate has more. -/
def IsLeader (P : List (List α)) (L : List α) (w : α) : Prop :=
  w ∈ L ∧ ∀ x ∈ L, tally P x ≤ tally P w

/-- Every other candidate has less. -/
def IsWinner (P : List (List α)) (L : List α) (w : α) : Prop :=
  w ∈ L ∧ ∀ x ∈ L, x ≠ w → tally P x < tally P w

/-- A winner is the only leader. -/
theorem isWinner_iff {P : List (List α)} {L : List α} {w : α} :
    IsWinner P L w ↔ IsLeader P L w ∧ ∀ x, IsLeader P L x → x = w := by
  constructor
  · rintro ⟨hw, hlt⟩
    refine ⟨⟨hw, fun x hx => ?_⟩, fun x hx => ?_⟩
    · by_cases hxw : x = w
      · rw [hxw]
      · exact (hlt x hx hxw).le
    · by_contra hxw
      exact absurd (hx.2 w hw) (hlt x hx.1 hxw).not_ge
  · rintro ⟨⟨hw, hle⟩, hunique⟩
    refine ⟨hw, fun x hx hxw => lt_of_le_of_ne (hle x hx) fun heq => hxw ?_⟩
    exact hunique x ⟨hx, fun y hy => heq ▸ hle y hy⟩

/-- Some candidate leads. -/
theorem exists_isLeader (P : List (List α)) {L : List α} (h : L ≠ []) : ∃ w, IsLeader P L w := by
  obtain ⟨a, L, rfl⟩ := List.exists_cons_of_ne_nil h
  obtain ⟨w, hw, hmax⟩ := (a :: L).toFinset.exists_max_image (tally P) ⟨a, by simp⟩
  exact ⟨w, List.mem_toFinset.1 hw, fun x hx => hmax x (List.mem_toFinset.2 hx)⟩

/-- Renamed candidates lead where they led. -/
theorem isLeader_map {σ : α → β} (hσ : Function.Injective σ) {P : List (List α)} {L : List α}
    {y : β} : IsLeader (P.map (List.map σ)) (L.map σ) y ↔ ∃ x, IsLeader P L x ∧ σ x = y := by
  constructor
  · rintro ⟨hy, hle⟩
    obtain ⟨w, hw, rfl⟩ := List.mem_map.1 hy
    refine ⟨w, ⟨hw, fun x hx => ?_⟩, rfl⟩
    have hx' := hle (σ x) (List.mem_map_of_mem hx)
    rwa [tally_map hσ, tally_map hσ] at hx'
  · rintro ⟨w, ⟨hw, hle⟩, rfl⟩
    refine ⟨List.mem_map_of_mem hw, fun y hy => ?_⟩
    obtain ⟨x, hx, rfl⟩ := List.mem_map.1 hy
    rw [tally_map hσ, tally_map hσ]
    exact hle x hx

/-- **Consistency**: who wins in two electorates wins in both together. -/
theorem IsWinner.append {P Q : List (List α)} {L : List α} {w : α} (hP : IsWinner P L w)
    (hQ : IsWinner Q L w) : IsWinner (P ++ Q) L w := by
  refine ⟨hP.1, fun x hx hxw => ?_⟩
  rw [tally_append, tally_append]
  exact add_lt_add (hP.2 x hx hxw) (hQ.2 x hx hxw)

/-- The second ranking has `w` at a higher place, and the others in the same order. -/
def Raises (w : α) (r r' : List α) : Prop :=
  ∃ above between below, r = above ++ between ++ w :: below ∧
    r' = above ++ w :: (between ++ below)

/-- Candidates that are ranked above `x` do not change its points, since only those below it
count. -/
theorem points_append_of_not_mem {r : List α} {x : α} (h : x ∉ r) (s : List α) :
    points (r ++ s) x = points s x := by
  induction r with
  | nil => rfl
  | cons a r ih =>
    rw [List.mem_cons, not_or] at h
    rw [List.cons_append, points, if_neg (Ne.symm h.1), ih h.2]

/-- More candidates below give no fewer points. -/
theorem points_append_le {r s s' : List α} {x : α} (hlen : s.length = s'.length)
    (hs : points s x ≤ points s' x) : points (r ++ s) x ≤ points (r ++ s') x := by
  induction r with
  | nil => exact hs
  | cons a r ih =>
    rw [List.cons_append, List.cons_append, points, points]
    split
    · rw [List.length_append, List.length_append, hlen]
    · exact ih

section Raise
variable {w : α} {r r' : List α}

/-- A raised candidate gets no less. -/
theorem Raises.score_le (h : Raises w r r') (hnd : r.Nodup) : score r w ≤ score r' w := by
  obtain ⟨above, between, below, rfl, rfl⟩ := h
  rw [List.append_assoc] at hnd ⊢
  have hdisj := List.disjoint_of_nodup_append hnd
  have habove : w ∉ above := fun hw => hdisj hw (by simp)
  have hbetween : w ∉ between := fun hw =>
    List.disjoint_of_nodup_append (List.nodup_append.1 hnd).2.1 hw (by simp)
  refine (Prod.Lex.toLex_le_toLex').2 ⟨?_, fun _ => ?_⟩
  · rw [points_append_of_not_mem habove, points_append_of_not_mem hbetween,
      points_append_of_not_mem habove, points, points, if_pos rfl, if_pos rfl,
      List.length_append]
    exact Nat.le_add_left _ _
  · unfold firsts
    cases above with
    | nil => simp only [List.nil_append, List.head?_cons, if_true]; split <;> omega
    | cons a above => rfl

/-- The others get no more. -/
theorem Raises.score_ge (h : Raises w r r') {x : α} (hx : x ≠ w) : score r' x ≤ score r x := by
  obtain ⟨above, between, below, rfl, rfl⟩ := h
  rw [List.append_assoc]
  have hpoints : points (w :: (between ++ below)) x ≤ points (between ++ w :: below) x := by
    rw [points, if_neg (Ne.symm hx)]
    induction between with
    | nil => rw [List.nil_append, List.nil_append, points, if_neg (Ne.symm hx)]
    | cons b between ih =>
      rw [List.cons_append, List.cons_append, points, points]
      split
      · simp only [List.length_append, List.length_cons]
        omega
      · exact ih
  refine (Prod.Lex.toLex_le_toLex').2 ⟨points_append_le (by simp; omega) hpoints, fun _ => ?_⟩
  unfold firsts
  cases above with
  | nil =>
    have hne : ¬ some w = some x := fun heq => hx (Option.some.inj heq).symm
    rw [List.nil_append, List.head?_cons, if_neg hne]
    exact Nat.zero_le _
  | cons a above => rfl

end Raise

/-- **Monotonicity**: a winner that is raised in one ranking still wins. -/
theorem IsWinner.raise {P Q : List (List α)} {L : List α} {w : α} {r r' : List α}
    (h : IsWinner (P ++ r :: Q) L w) (hr : Raises w r r') (hnd : r.Nodup) :
    IsWinner (P ++ r' :: Q) L w := by
  refine ⟨h.1, fun x hx hxw => ?_⟩
  have hlt := h.2 x hx hxw
  simp only [tally_append, tally_cons] at hlt ⊢
  calc tally P x + (score r' x + tally Q x)
      ≤ tally P x + (score r x + tally Q x) := by
        gcongr
        exact hr.score_ge hxw
    _ < tally P w + (score r w + tally Q w) := hlt
    _ ≤ tally P w + (score r' w + tally Q w) := by
        gcongr
        exact hr.score_le hnd

end Borda
