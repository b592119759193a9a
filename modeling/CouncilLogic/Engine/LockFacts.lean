/-
# What the locks of a run say

A lock that can be read has passed the checks of its loader: the candidates and the
ballots meet the quorums of the policy, the failures name exactly the providers that are
not among them, and no juror has two records.

The loaders are `_load_candidate_namespace` and `_load_adjudication` of
`src/model_council/engine.py`.  They check what they read against the configuration of the run,
field by field, and raise at the first contradiction; this module collects what is known when they
return, for every payload, whoever has written it.
-/

import CouncilLogic.Engine.History

namespace CouncilLogic

open Protocol

variable {rt : Runtime} {spec : RunSpec} {config : RunConfig} {lock : NamespaceLock}

/-! ### The candidates -/

/-- What the loader of a namespace has checked. -/
structure NamespaceLock.Checked (config : RunConfig) (lock : NamespaceLock) : Prop where
  nodup : lock.mapping.providers.Nodup
  known : lock.mapping.providers ⊆ config.names
  quorum : config.policy.proposalQuorum ≤ lock.mapping.providers.length
  lineages : config.policy.minLineages ≤ (config.lineages lock.mapping.providers).length
  failed : ∀ name ∈ config.names, name ∉ lock.mapping.providers →
    name ∈ failedProviders lock.failures

/-- A candidate lock that is read has passed its checks. -/
theorem readNamespace_checked {runId : Str} {payload : Dict}
    (h : readNamespace rt config runId payload = .ok lock) : lock.Checked config := by
  obtain ⟨hnodup, hknown, -⟩ := readNamespace_ok h
  unfold readNamespace at h
  simp only [bind, Except.bind] at h
  split at h
  · cases h
  split at h
  · cases h
  split at h
  · cases h
  split at h
  · cases h
  split at h
  · cases h
  rename_i hquorum
  split at h
  · cases h
  split at h
  · cases h
  split at h
  · cases h
  rename_i hmembers
  cases h
  simp only [not_or, not_lt, Bool.not_eq_false, sameMembers_iff] at hquorum hmembers
  exact {
    nodup := hnodup
    known := hknown
    quorum := hquorum.1
    lineages := hquorum.2
    failed := fun name hname hnot => hmembers.2.2 (List.mem_filter.2 ⟨hname, by simpa using hnot⟩) }

/-- The candidate lock of a store has passed its checks. -/
theorem namespace?_checked {st : Store} (h : st.namespace? rt spec = some lock) :
    lock.Checked spec.config := by
  obtain ⟨e, -, hread⟩ := loadCandidateNamespaceLock_some (toOption_join.1 h)
  exact readNamespace_checked hread

/-! ### The ballots -/

/-- The jurors of the valid records. -/
def validJurors (records : List Dict) : List Str := (records.filter isValidRecord).filterMap jurorOf

/-- What the loader of an adjudication has checked. -/
structure AdjudicationLock.Checked (config : RunConfig) (lock : AdjudicationLock) : Prop where
  nodup : (lock.records.filterMap jurorOf).Nodup
  juror : ∀ record ∈ lock.records, (jurorOf record).isSome = true
  quorum : config.policy.juryQuorum ≤ (validJurors lock.records).length
  counted : ∀ name ∈ config.names, name ∉ validJurors lock.records →
    name ∈ failedProviders lock.failures

/-- Records that pass the check are of different jurors, none of them seen before, and every
record names one. -/
theorem checkJuryRecords_nodup {mapping : Mapping} {records : List Dict} :
    ∀ {seen}, checkJuryRecords config mapping seen records = .ok () →
      (records.filterMap jurorOf).Nodup ∧ (∀ name ∈ records.filterMap jurorOf, name ∉ seen) ∧
        ∀ record ∈ records, (jurorOf record).isSome = true := by
  induction records with
  | nil => exact fun _ => ⟨List.nodup_nil, by simp, by simp⟩
  | cons record records ih =>
    intro seen h
    unfold checkJuryRecords at h
    split at h
    · rename_i juror order hjuror horder
      split at h
      · cases h
      rename_i hok
      simp only [not_or] at hok
      obtain ⟨hnodup, hseen, hall⟩ := ih h
      rw [List.filterMap_cons, hjuror]
      refine ⟨List.nodup_cons.2 ⟨fun hm => hseen _ hm List.mem_cons_self, hnodup⟩, ?_, ?_⟩
      · intro name hname
        rcases List.mem_cons.1 hname with rfl | hname
        · exact hok.2.1
        · exact fun hm => hseen _ hname (List.mem_cons_of_mem _ hm)
      · exact List.forall_mem_cons.2 ⟨by rw [hjuror]; rfl, hall⟩
    · cases h

/-- A vote that is read has passed its checks. -/
theorem readAdjudication_checked {payload : Dict} {adjudication : AdjudicationLock}
    (h : readAdjudication rt config lock payload = .ok adjudication) :
    adjudication.Checked config := by
  unfold readAdjudication at h
  simp only [bind, Except.bind] at h
  split at h
  · cases h
  split at h
  · cases h
  split at h
  · cases h
  split at h
  · cases h
  rename_i records hrecords
  split at h
  · cases h
  rename_i hcheck
  split at h
  · cases h
  rename_i failures hfailures
  split at h
  · cases h
  split at h
  · cases h
  rename_i hmembers
  split at h
  · cases h
    simp only [not_or, not_lt, Bool.not_eq_false, sameMembers_iff, Bool.not_eq_true] at hmembers
    obtain ⟨hvalid, hinvalid, hsame, hquorum⟩ := hmembers
    obtain ⟨hnodup, -, hjuror⟩ := checkJuryRecords_nodup hcheck
    refine ⟨hnodup, hjuror, hquorum, fun name hname hnot => ?_⟩
    rcases List.mem_append.1 (hsame.2 hname) with hmem | hmem
    · have hfailed := List.any_eq_false.1 hinvalid name
        (List.mem_filter.2 ⟨hmem, decide_eq_true hnot⟩)
      simpa using hfailed
    · exact hmem
  · split at h <;> cases h

/-- The locked vote of a store has been checked, for the candidates of the store. -/
theorem adjudication?_ok {st : Store} {adjudication : AdjudicationLock}
    (h : st.adjudication? rt spec = some adjudication) : ∃ lock payload,
      st.namespace? rt spec = some lock ∧ ⟨.adjudicationLocked, payload⟩ ∈ st.events ∧
        readAdjudication rt spec.config lock payload = .ok adjudication := by
  have hload := toOption_join.1 h
  unfold loadAdjudicationLock at hload
  split at hload
  · cases hload
  · cases hload
  · rename_i e lock hevents hlock
    cases hread : readAdjudication rt spec.config lock e.payload with
    | error _ =>
      rw [hread] at hload
      cases hload
    | ok adjudication' =>
      rw [hread] at hload
      cases hload
      have hmem : e ∈ st.events.filter fun e => e.type = .adjudicationLocked := by
        rw [hevents]
        exact List.mem_singleton_self e
      obtain ⟨hmem, htype⟩ := List.mem_filter.1 hmem
      obtain ⟨type, payload⟩ := e
      obtain rfl : type = .adjudicationLocked := by simpa using htype
      exact ⟨lock, payload, hlock, hmem, hread⟩
  · cases hload

end CouncilLogic
