/-
# Locks that agree and a vote that stays

What a resume writes down about its candidates and its vote is accepted by every later
resume, whatever has happened in between and wherever the process ended.  Once written,
the mapping, the records and the aggregate are what every synthesis is built from.

The locks are written by `_lock_candidate_namespace` and `_lock_adjudication` of
`src/model_council/engine.py`, and read by `_load_candidate_namespace_lock` and
`_load_adjudication_lock`.
-/

import CouncilLogic.Engine.CouncilRun

namespace CouncilLogic

open Protocol

variable {rt : Runtime} {spec : RunSpec} {w w' : World} {st st' : Store}

/-! ### Locks that can be read -/

/-- The locks that were written can be read. -/
structure Store.LocksRead (rt : Runtime) (spec : RunSpec) (st : Store) : Prop where
  candidateNamespace : st.NoEvent .candidateNamespaceLocked ∨
    (st.namespace? rt spec).isSome = true
  adjudication : st.NoEvent .adjudicationLocked ∨ (st.adjudication? rt spec).isSome = true

/-- An event of another type does not make a lock. -/
theorem noEvent_addEvent {t type : EventType} {payload : Dict} (ht : type ≠ t)
    (h : st.NoEvent t) : (st.addEvent type payload).NoEvent t := by
  intro e he
  rw [events_addEvent, List.mem_append, List.mem_singleton] at he
  rcases he with he | rfl
  · exact h e he
  · exact ht

/-- Whether a lock is there depends on the locks in the log alone. -/
theorem noEvent_lockEvents {t : EventType} (ht : t.isLock = true)
    (hlock : lockEvents st'.events = lockEvents st.events) (h : st.NoEvent t) : st'.NoEvent t := by
  intro e he heq
  have hmem : e ∈ lockEvents st'.events := List.mem_filter.2 ⟨he, by rw [heq]; exact ht⟩
  rw [hlock] at hmem
  exact h e (List.mem_filter.1 hmem).1 heq

/-- Locks can still be read when everything that is final is kept and no new one is
written. -/
theorem Store.LocksRead.extends_ (h : st.LocksRead rt spec) (hext : Extends rt spec st st')
    (hnone : ∀ t : EventType, t.isLock = true → st.NoEvent t → st'.NoEvent t) :
    st'.LocksRead rt spec where
  candidateNamespace := by
    refine h.candidateNamespace.imp (hnone _ rfl) fun hsome => ?_
    obtain ⟨lock, hlock⟩ := Option.isSome_iff_exists.1 hsome
    rw [hext.candidateNamespace lock hlock]
    rfl
  adjudication := by
    refine h.adjudication.imp (hnone _ rfl) fun hsome => ?_
    obtain ⟨lock, hlock⟩ := Option.isSome_iff_exists.1 hsome
    rw [hext.adjudication lock hlock]
    rfl

/-- Every step keeps the locks readable. -/
theorem EngineStep.locksRead (h : EngineStep rt spec w w') (hinv : Inv rt spec w)
    (hquorum : 1 ≤ spec.config.policy.proposalQuorum) (hw : w.store.LocksRead rt spec) :
    w'.store.LocksRead rt spec := by
  have hext : Extends rt spec w.store w'.store := (h.keeps hinv).2
  cases h with
  | stage _ s names hs =>
    have hk := hs.keeps hinv.wellFormed
    exact hw.extends_ hext fun t ht => noEvent_lockEvents ht hk.locks
  | audit type payload ht =>
    refine hw.extends_ hext fun t hlock => noEvent_addEvent fun heq => ?_
    subst heq
    cases type <;> simp [EventType.isResumeAudit, EventType.isLock] at ht hlock
  | status => exact hw.extends_ hext fun _ _ h => h
  | marker m h =>
    constructor
    · refine hw.candidateNamespace.imp (noEvent_addEvent (by simp)) fun hsome => ?_
      rwa [World.withStore_store, namespace?_addEvent (by simp)]
    · refine hw.adjudication.imp (noEvent_addEvent (by simp)) fun hsome => ?_
      rwa [World.withStore_store, adjudication?_addEvent (by simp) (by simp)]
  | lockNamespace payload hno hread =>
    obtain ⟨lock, hlock⟩ := hread hquorum
    constructor
    · right
      rw [World.withStore_store, namespace?_locked hno, hlock]
      rfl
    · left
      rcases hw.adjudication with hadjudication | hsome
      · exact noEvent_addEvent (by simp) hadjudication
      · rw [adjudication?_eq_none_of_namespace (namespace?_eq_none hno)] at hsome
        cases hsome
  | lockAdjudication payload lock adjudication hno hlock hread =>
    constructor
    · right
      rw [World.withStore_store, namespace?_addEvent (by simp), hlock]
      rfl
    · right
      rw [World.withStore_store, adjudication?_locked hno hlock hread]
      rfl
  | adjudicate => exact hw
  | advance =>
    constructor
    · refine hw.candidateNamespace.imp (noEvent_addEvent (by simp)) fun hsome => ?_
      rwa [World.withStore_store, namespace?_addEvent (by simp)]
    · refine hw.adjudication.imp (noEvent_addEvent (by simp)) fun hsome => ?_
      rwa [World.withStore_store, adjudication?_addEvent (by simp) (by simp)]
  | finish p result event =>
    have hlocks : lockEvents (w.store.events ++ [⟨.runFinished, event⟩]) =
        lockEvents w.store.events := lockEvents_append (by simp [EventType.isLock])
    exact hw.extends_ hext fun t ht => noEvent_lockEvents ht hlocks

/-- **The locks of a run can be read**, in every world of it. -/
theorem Run.locksRead (h : Run rt spec w) (hquorum : 1 ≤ spec.config.policy.proposalQuorum) :
    w.store.LocksRead rt spec := by
  refine h.induction (P := fun w => w.store.LocksRead rt spec) ?_ ?_
  · intro eng draws question st hcreate _
    obtain ⟨rfl, -⟩ := createRun_ok hcreate
    exact ⟨.inl (fun e he => by cases he), .inl (fun e he => by cases he)⟩
  · intro w w' _ hinv hmove hw
    rcases hmove with hmove | rfl
    · exact hmove.locksRead hinv hquorum hw
    · exact hw

/-! ### Loading -/

/-- Readable locks are loaded. -/
theorem Store.LocksRead.load (h : st.LocksRead rt spec) :
    loadCandidateNamespaceLock rt spec.config spec.id st.events = .ok (st.namespace? rt spec) ∧
      loadAdjudicationLock rt spec.config (st.namespace? rt spec) st.events =
        .ok (st.adjudication? rt spec) := by
  constructor
  · rcases h.candidateNamespace with hnone | hsome
    · rw [namespace?_eq_none hnone]
      exact loadCandidateNamespaceLock_none.2 hnone
    · obtain ⟨lock, hlock⟩ := Option.isSome_iff_exists.1 hsome
      rw [hlock]
      exact toOption_join.1 hlock
  · rcases h.adjudication with hnone | hsome
    · have hnil : (st.events.filter fun e => e.type = .adjudicationLocked) = [] := by
        simpa [Store.NoEvent] using hnone
      rw [adjudication?_eq_none hnone]
      unfold loadAdjudicationLock
      rw [hnil]
    · obtain ⟨lock, hlock⟩ := Option.isSome_iff_exists.1 hsome
      rw [hlock]
      exact toOption_join.1 hlock

/-- A synthesis was built on what the locks of the run now say. -/
theorem Run.adjudicated (h : Run rt spec w) {mapping : Mapping} {records : List Dict}
    {aggregate : Aggregate} (ha : .adjudicated mapping records aggregate ∈ w.trace) :
    AdjudicatedOk rt spec w.store mapping records aggregate := by
  obtain ⟨w₀, hw₀⟩ := h.happened ha
  obtain ⟨lock, adjudication, hlock, hadjudication, hrest⟩ := hw₀.adjudicatedOk.locked
  have hext := hw₀.run.extends_ hw₀.later
  exact ⟨lock, adjudication, hext.candidateNamespace _ hlock, hext.adjudication _ hadjudication,
    hrest⟩

/-- **Lock agreement and frozen membership.**  In every state of a run whose policy asks for
a proposal the two loaders accept what was written; what they read stays the same in every
later state; and every synthesis of the run is built on one mapping, one list of records
and one aggregate. -/
theorem lock_agreement {c : Prog.Config World PyErr Question Answer Dict}
    (h : Reachable rt spec c) (hquorum : 1 ≤ spec.config.policy.proposalQuorum) :
    (∃ candidateNamespace adjudication,
      loadCandidateNamespaceLock rt spec.config spec.id c.state.store.events =
          .ok candidateNamespace ∧
        loadAdjudicationLock rt spec.config candidateNamespace c.state.store.events =
          .ok adjudication ∧
        ∀ c', Prog.Reach (Resumes rt) World.lose c c' →
          (∀ lock, candidateNamespace = some lock →
            loadCandidateNamespaceLock rt spec.config spec.id c'.state.store.events =
              .ok (some lock)) ∧
          ∀ lock, adjudication = some lock →
            loadAdjudicationLock rt spec.config candidateNamespace c'.state.store.events =
              .ok (some lock)) ∧
      ∀ mapping records aggregate mapping' records' aggregate',
        .adjudicated mapping records aggregate ∈ c.state.trace →
        .adjudicated mapping' records' aggregate' ∈ c.state.trace →
          mapping' = mapping ∧ records'.map Dict.canon = records.map Dict.canon ∧
            aggregate' = aggregate := by
  constructor
  · obtain ⟨hns, hadj⟩ := (h.run.locksRead hquorum).load
    refine ⟨_, _, hns, hadj, fun c' hlater => ?_⟩
    have hsteps := h.later hlater
    have hext := h.run.extends_ hsteps
    obtain ⟨hns', hadj'⟩ := ((h.run.trans hsteps).locksRead hquorum).load
    constructor
    · intro lock hlock
      rw [hns', hext.candidateNamespace lock hlock]
    · intro lock hlock
      have hsome : (c.state.store.namespace? rt spec).isSome = true := by
        by_contra hnone
        rw [Bool.not_eq_true, Option.isSome_eq_false_iff, Option.isNone_iff_eq_none] at hnone
        rw [adjudication?_eq_none_of_namespace hnone] at hlock
        cases hlock
      obtain ⟨candidates, hcandidates⟩ := Option.isSome_iff_exists.1 hsome
      rw [hext.candidateNamespace _ hcandidates] at hadj'
      rw [hcandidates, hadj', hext.adjudication lock hlock]
  · intro mapping records aggregate mapping' records' aggregate' ha ha'
    obtain ⟨lock, adjudication, hlock, hadj, hmapping, hrecords, haggregate⟩ :=
      (h.run.adjudicated ha).locked
    obtain ⟨lock', adjudication', hlock', hadj', hmapping', hrecords', haggregate'⟩ :=
      (h.run.adjudicated ha').locked
    rw [hlock] at hlock'
    rw [hadj] at hadj'
    cases hlock'
    cases hadj'
    subst hmapping hmapping'
    rw [haggregate] at haggregate'
    cases haggregate'
    exact ⟨rfl, hrecords'.trans hrecords.symm, rfl⟩

/-- In the council whose vote has just been decided both loaders read what was written, and
they read it in every later state, the resumes after an end of the process included; the
synthesis is built on this mapping, these ballots and this aggregate. -/
theorem lock_agreement_example : ∃ c : Prog.Config World PyErr Question Answer Dict,
    Reachable exampleRuntime councilSpec c ∧
      .adjudicated councilMapping councilRecords councilAggregate ∈ c.state.trace ∧
      (∀ c', Prog.Reach (Resumes exampleRuntime) World.lose c c' →
        loadCandidateNamespaceLock exampleRuntime councilSpec.config councilSpec.id
            c'.state.store.events = .ok (some ⟨councilMapping, []⟩) ∧
          loadAdjudicationLock exampleRuntime councilSpec.config (some ⟨councilMapping, []⟩)
            c'.state.store.events = .ok (some ⟨councilRecords.map Dict.canon, []⟩)) ∧
      ∀ mapping records aggregate, .adjudicated mapping records aggregate ∈ c.state.trace →
        mapping = councilMapping ∧
          records.map Dict.canon = councilRecords.map Dict.canon ∧
            aggregate = councilAggregate := by
  obtain ⟨council⟩ := exists_council
  obtain ⟨p, hreach⟩ := council.reachable_adjudicated
  have hdecided : .adjudicated councilMapping councilRecords councilAggregate ∈
      council.adjudicated.trace := List.mem_append_right _ (List.mem_singleton_self _)
  obtain ⟨⟨candidateNamespace, adjudication, hnamespace, hadjudication, hlater⟩, hsame⟩ :=
    lock_agreement hreach (by decide)
  have hread : loadCandidateNamespaceLock exampleRuntime councilSpec.config councilSpec.id
      council.adjudicated.store.events = .ok (some ⟨councilMapping, []⟩) :=
    council.locked_namespace
  obtain rfl : candidateNamespace = some ⟨councilMapping, []⟩ :=
    Except.ok.inj (hnamespace.symm.trans hread)
  have hread : loadAdjudicationLock exampleRuntime councilSpec.config
      (some ⟨councilMapping, []⟩) council.adjudicated.store.events =
        .ok (some ⟨councilRecords.map Dict.canon, []⟩) := council.locked_adjudication
  obtain rfl : adjudication = some ⟨councilRecords.map Dict.canon, []⟩ :=
    Except.ok.inj (hadjudication.symm.trans hread)
  refine ⟨_, hreach, hdecided, fun c' hc' => ?_, fun mapping records aggregate ha => ?_⟩
  · obtain ⟨hcandidates, hballots⟩ := hlater c' hc'
    exact ⟨hcandidates _ rfl, hballots _ rfl⟩
  · exact hsame _ _ _ _ _ _ hdecided ha

end CouncilLogic
