/-
# The labels of a vote are a set

Ballots are validated and counted against a list of labels, but only its members and
its length matter: `aggregate_juries` orders the labels itself.  So the aggregate is
the same for every order in which the candidates are known (`aggregateJuries_perm`).
The labels themselves are distinct, whatever their number (`labelsOf_nodup`).

That matters because `src/model_council/engine.py` calls `aggregate_juries` with the labels in the
order of the candidates, once when the vote is taken and once more, from the store, when a resume
checks the stored result.  The validators take the labels as a list and turn it into a set, so
that they are invariant as well.
-/

import CouncilLogic.Json.Laws
import CouncilLogic.Workload

namespace CouncilLogic
namespace Protocol

variable {rt : Runtime} {labels labels' : List Str}

/-! ### Candidate labels -/

/-- The decimal digits of a positive number do not begin with a zero. -/
theorem ofNat_head {n : ℕ} (hn : n ≠ 0) : (Str.ofNat n).head? ≠ some 48 := by
  unfold Str.ofNat
  rw [if_neg hn, List.head?_map, List.head?_reverse]
  intro h
  obtain ⟨d, hd, hd'⟩ := Option.map_eq_some_iff.1 h
  have hne : Nat.digits 10 n ≠ [] := Nat.digits_ne_nil_iff_ne_zero.2 hn
  have hlast := Nat.getLast_digit_ne_zero 10 hn
  rw [List.getLast?_eq_some_getLast hne, Option.some.injEq] at hd
  omega

/-- Different numbers are printed differently. -/
theorem ofNat_injective : Function.Injective Str.ofNat := by
  intro m n h
  by_cases hm : m = 0 <;> by_cases hn : n = 0
  · rw [hm, hn]
  · have := ofNat_head hn
    rw [← h, hm] at this
    exact absurd rfl this
  · have := ofNat_head hm
    rw [h, hn] at this
    exact absurd rfl this
  · unfold Str.ofNat at h
    rw [if_neg hm, if_neg hn] at h
    have hinj : Function.Injective fun d : ℕ => d + 48 := fun a b hab => by
      simpa using hab
    exact Nat.digits_inj_iff.1 (List.reverse_injective (List.map_injective_iff.2 hinj h))

/-- Different candidates have different labels: `Candidate 1`, `Candidate 2` and so on. -/
theorem candidateLabel_injective : Function.Injective candidateLabel := by
  intro m n h
  have h' : Str.ofNat02 (m + 1) = Str.ofNat02 (n + 1) := List.append_cancel_left h
  unfold Str.ofNat02 at h'
  split at h' <;> split at h'
  · exact Nat.succ_injective (ofNat_injective (List.cons_injective h'))
  · exact absurd (by rw [← h']; rfl) (ofNat_head (Nat.succ_ne_zero n))
  · exact absurd (by rw [h']; rfl) (ofNat_head (Nat.succ_ne_zero m))
  · exact Nat.succ_injective (ofNat_injective h')

/-- The labels of a vote are distinct, however many candidates there are. -/
theorem labelsOf_nodup (n : ℕ) : (Workload.labelsOf n).Nodup :=
  List.nodup_range.map candidateLabel_injective

/-- There are as many labels as candidates. -/
@[simp] theorem length_labelsOf (n : ℕ) : (Workload.labelsOf n).length = n := by
  simp [Workload.labelsOf]

/-! ### The order of labels -/

/-- Any two labels are comparable. -/
theorem labelLe_total (a b : Str) : labelLe rt a b = true ∨ labelLe rt b a = true := by
  unfold labelLe
  by_cases h : rt.casefold a = rt.casefold b
  · rw [if_pos h, if_pos h.symm]
    exact Str.le_total a b
  · rw [if_neg h, if_neg (Ne.symm h)]
    exact Str.le_total _ _

/-- Labels that are no greater than each other are equal: where their case-folded texts agree, the
texts decide. -/
theorem labelLe_antisymm {a b : Str} (h : labelLe rt a b = true) (h' : labelLe rt b a = true) :
    a = b := by
  unfold labelLe at h h'
  by_cases hc : rt.casefold a = rt.casefold b
  · rw [if_pos hc] at h
    rw [if_pos hc.symm] at h'
    exact Str.le_antisymm h h'
  · rw [if_neg hc] at h
    rw [if_neg (Ne.symm hc)] at h'
    exact absurd (Str.le_antisymm h h') hc

/-- The order of labels is transitive. -/
theorem labelLe_trans {a b c : Str} (h : labelLe rt a b = true) (h' : labelLe rt b c = true) :
    labelLe rt a c = true := by
  unfold labelLe at h h' ⊢
  by_cases hab : rt.casefold a = rt.casefold b
  · rw [if_pos hab] at h
    by_cases hbc : rt.casefold b = rt.casefold c
    · rw [if_pos hbc] at h'
      rw [if_pos (hab.trans hbc)]
      exact Str.le_trans h h'
    · rw [if_neg hbc] at h'
      rwa [if_neg (hab ▸ hbc), hab]
  · rw [if_neg hab] at h
    by_cases hbc : rt.casefold b = rt.casefold c
    · rwa [if_neg (hbc ▸ hab), ← hbc]
    · rw [if_neg hbc] at h'
      have hac : rt.casefold a ≠ rt.casefold c := fun heq =>
        hab (Str.le_antisymm h (heq ▸ h'))
      rw [if_neg hac]
      exact Str.le_trans h h'

instance (rt : Runtime) : Std.Total (fun a b : Str => labelLe rt a b = true) := ⟨labelLe_total⟩
instance (rt : Runtime) : Std.Antisymm (fun a b : Str => labelLe rt a b = true) :=
  ⟨fun _ _ => labelLe_antisymm⟩
instance (rt : Runtime) : IsTrans Str (fun a b => labelLe rt a b = true) :=
  ⟨fun _ _ _ => labelLe_trans⟩

/-- Ordering the labels rearranges them. -/
theorem sortedByLabel_perm (rt : Runtime) (values : List Str) :
    (sortedByLabel rt values).Perm values := List.perm_insertionSort _ _

/-- Sorting by label forgets the order of its input. -/
theorem sortedByLabel_eq_of_perm (h : labels.Perm labels') :
    sortedByLabel rt labels = sortedByLabel rt labels' := by
  refine List.Perm.eq_of_pairwise' (r := fun a b => labelLe rt a b = true) ?_ ?_ ?_
  · exact List.pairwise_insertionSort _ _
  · exact List.pairwise_insertionSort _ _
  · exact ((sortedByLabel_perm rt labels).trans h).trans (sortedByLabel_perm rt labels').symm

/-! ### Ballots over permuted labels -/

/-- A list of labels is refused or accepted in every order alike. -/
theorem validatedLabels_perm (h : labels.Perm labels') :
    validatedLabels labels = validatedLabels labels' := by
  unfold validatedLabels
  have hnil : labels = [] ↔ labels' = [] := by
    rw [← List.length_eq_zero_iff, ← List.length_eq_zero_iff, h.length_eq]
  have hblank : labels.any Str.isBlank = labels'.any Str.isBlank := h.any_eq
  simp only [hnil, hblank, h.nodup_iff]

/-- A decision is validated against the labels in every order alike. -/
theorem validateJuryDecision_perm (value : Dict) (h : labels.Perm labels') :
    validateJuryDecision value labels = validateJuryDecision value labels' := by
  have hmem : ∀ w : Str, w ∈ labels ↔ w ∈ labels' := fun w => h.mem_iff
  have hsub : ∀ ranking : List Str, (ranking ⊆ labels ∧ labels ⊆ ranking) ↔
      (ranking ⊆ labels' ∧ labels' ⊆ ranking) := fun ranking => by
    simp only [List.subset_def, hmem]
  unfold validateJuryDecision
  simp only [hmem, hsub, h.length_eq]

/-- A ballot is validated against the labels in every order alike. -/
theorem validateJuryObject_perm (value : Dict) (h : labels.Perm labels') :
    validateJuryObject value labels = validateJuryObject value labels' := by
  unfold validateJuryObject
  rw [validatedLabels_perm h, validateJuryDecision_perm value h]

/-- An entry of the ballot list is read alike for the labels in every order. -/
theorem readEntry_perm (entry : Json) (h : labels.Perm labels') :
    readEntry rt labels entry = readEntry rt labels' entry := by
  unfold readEntry
  cases entry with
  | str text =>
    dsimp only
    unfold parseJury
    rw [validatedLabels_perm h]
    simp only [fun value => validateJuryObject_perm value h]
  | obj value => exact validateJuryObject_perm value h
  | null => rfl
  | bool b => rfl
  | int n => rfl
  | float t => rfl
  | arr items => rfl

/-- **The counting loop** goes alike for the labels in every order, from every count so far. -/
theorem countEntries_perm (h : labels.Perm labels') (entries : List Json) :
    ∀ c, countEntries rt labels entries c = countEntries rt labels' entries c := by
  induction entries with
  | nil => exact fun c => rfl
  | cons entry entries ih =>
    intro c
    unfold countEntries
    simp only [readEntry_perm entry h, h.length_eq, ih]

/-- **The order of the candidates does not matter to the aggregate.** -/
theorem aggregateJuries_perm (juries : List Json) (h : labels.Perm labels') :
    aggregateJuries rt juries labels = aggregateJuries rt juries labels' := by
  unfold aggregateJuries
  rw [validatedLabels_perm h, countEntries_perm h, sortedByLabel_eq_of_perm h]

end Protocol
end CouncilLogic
