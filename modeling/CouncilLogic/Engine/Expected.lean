/-
# What a store determines

The marker, the two locks and the artifacts a store holds determine the prompts of
every slot, whoever resumes the run and whenever.  A store is extended by another
when all of these are kept; `Extends.expectedPrompts` says that the prompts are kept
with them.

That is what makes a resume safe to repeat: `_run_parallel_stage` of `src/model_council/engine.py`
computes its prompts anew and `start_invocation` refuses a row whose prompt differs, so that two
resumes which computed different prompts for one slot would stop the run.  Here the prompts are a
function of the store (`expectedPrompts`), and no lock that a run has written is ever changed.
-/

import CouncilLogic.Engine.Resume
import CouncilLogic.Store.Laws

namespace CouncilLogic

open Protocol

variable {rt : Runtime} {spec : RunSpec} {st st' st'' : Store}

/-! ### Readings -/

/-- The untrusted marker of the run. -/
def Store.marker? (st : Store) : Option Str := st.events.findSome? markerOf

/-- The candidate namespace of the run, when it is locked. -/
def Store.namespace? (rt : Runtime) (spec : RunSpec) (st : Store) : Option NamespaceLock :=
  (loadCandidateNamespaceLock rt spec.config spec.id st.events).toOption.join

/-- The adjudication of the run, when it is locked. -/
def Store.adjudication? (rt : Runtime) (spec : RunSpec) (st : Store) : Option AdjudicationLock :=
  (loadAdjudicationLock rt spec.config (st.namespace? rt spec) st.events).toOption.join

/-- The artifact of a provider's stored proposal. -/
def Store.artifact? (rt : Runtime) (st : Store) (provider : Str) : Option ProposalArtifact :=
  (st.successful .proposal provider).bind fun r => (parseProposal rt r.content).toOption

/-- The stored artifacts behind labels. -/
def Store.candidates (rt : Runtime) (st : Store) (mapping : Mapping) (labels : List Str) : Dict :=
  Workload.artifactDict (labels.filterMap fun label =>
    (st.artifact? rt (mapping.provider label)).map fun artifact => (label, artifact))

/-- The aggregate of records over the providers of a mapping. -/
def aggregateOf (rt : Runtime) (mapping : Mapping) (records : List Dict) :
    Except PyErr Aggregate := do
  let judgments ← judgmentsOf (records.filter isValidRecord)
  aggregateJuries rt judgments mapping.providers

/-- The synthesis prompts of a locked vote. -/
def lockedSynthesisPrompts (rt : Runtime) (question marker : Str) (mapping : Mapping)
    (candidates : Dict) (records : List Dict) : Except PyErr PromptPair := do
  let aggregate ← aggregateOf rt mapping records
  synthesisStagePrompts question marker mapping candidates (records.filter isValidRecord) aggregate

/-- The prompts of a slot, as far as the store determines them already. -/
def Store.expectedPrompts (rt : Runtime) (spec : RunSpec) (st : Store) (stage : Stage)
    (provider : Str) : Option PromptPair := do
  let marker ← st.marker?
  match stage with
  | .proposal => (proposalPrompts spec.question marker).toOption
  | .jury =>
    let lock ← st.namespace? rt spec
    (juryPrompts spec.question (st.candidates rt lock.mapping
      (juryPresentationOrder rt spec.id provider lock.mapping.labels)) marker).toOption
  | .juryRepair =>
    let lock ← st.namespace? rt spec
    let response ← st.successful .jury provider
    match parseJury rt response.content lock.mapping.labels with
    | .ok _ => none
    | .error e =>
      ((juryRepairPrompts rt response.content e.message lock.mapping.labels marker).toOption).map
        Prod.fst
  | .synthesis =>
    let lock ← st.namespace? rt spec
    let adjudication ← st.adjudication? rt spec
    (lockedSynthesisPrompts rt spec.question marker lock.mapping
      (st.candidates rt lock.mapping lock.mapping.labels) adjudication.records).toOption

/-! ### Extension -/

/-- Everything that is final in one store is the same in the other. -/
structure Extends (rt : Runtime) (spec : RunSpec) (st st' : Store) : Prop where
  marker : ∀ m, st.marker? = some m → st'.marker? = some m
  candidateNamespace : ∀ lock, st.namespace? rt spec = some lock →
    st'.namespace? rt spec = some lock
  adjudication : ∀ lock, st.adjudication? rt spec = some lock →
    st'.adjudication? rt spec = some lock
  successful : ∀ stage provider response, st.successful stage provider = some response →
    st'.successful stage provider = some response

namespace Extends

/-- A store extends itself. -/
theorem refl (st : Store) : Extends rt spec st st :=
  ⟨fun _ h => h, fun _ h => h, fun _ h => h, fun _ _ _ h => h⟩

/-- A store that extends one which extends a third extends the third. -/
theorem trans (h : Extends rt spec st st') (h' : Extends rt spec st' st'') :
    Extends rt spec st st'' where
  marker m hm := h'.marker m (h.marker m hm)
  candidateNamespace lock hl := h'.candidateNamespace lock (h.candidateNamespace lock hl)
  adjudication lock hl := h'.adjudication lock (h.adjudication lock hl)
  successful stage provider r hr :=
    h'.successful stage provider r (h.successful stage provider r hr)

/-- The artifact of a provider is the same in every store that extends the one it is in. -/
theorem artifact (h : Extends rt spec st st') {provider : Str} {a : ProposalArtifact}
    (ha : st.artifact? rt provider = some a) : st'.artifact? rt provider = some a := by
  unfold Store.artifact? at ha ⊢
  rw [Option.bind_eq_some_iff] at ha ⊢
  obtain ⟨r, hr, ha⟩ := ha
  exact ⟨r, h.successful _ _ r hr, ha⟩

/-- Candidates whose artifacts are all stored stay the same. -/
theorem candidates (h : Extends rt spec st st') {mapping : Mapping} {labels : List Str}
    (ha : ∀ label ∈ labels, (st.artifact? rt (mapping.provider label)).isSome = true) :
    st'.candidates rt mapping labels = st.candidates rt mapping labels := by
  unfold Store.candidates
  congr 1
  refine List.filterMap_congr fun label hlabel => ?_
  obtain ⟨a, hsome⟩ := Option.isSome_iff_exists.1 (ha label hlabel)
  rw [hsome, h.artifact hsome]

end Extends

/-- The candidates of a locked namespace have all been stored. -/
def Store.Complete (rt : Runtime) (spec : RunSpec) (st : Store) : Prop :=
  ∀ lock, st.namespace? rt spec = some lock →
    ∀ provider ∈ lock.mapping.providers, (st.artifact? rt provider).isSome = true

/-! ### Locked mappings -/

/-- What is read without an error and is there, is what the reading returns. -/
theorem toOption_join {α : Type} {x : Except PyErr (Option α)} {a : α} :
    x.toOption.join = some a ↔ x = .ok (some a) := by
  cases x with
  | error e => simp [Except.toOption]
  | ok o => simp [Except.toOption]

/-- What is read without an error is what the reading returns. -/
theorem toOption_eq_some {α : Type} {x : Except PyErr α} {a : α} :
    x.toOption = some a ↔ x = .ok a := by
  cases x <;> simp [Except.toOption]

/-- The events of a namespace that was read. -/
theorem loadCandidateNamespaceLock_some {config : RunConfig} {runId : Str} {events : List Event}
    {lock : NamespaceLock}
    (h : loadCandidateNamespaceLock rt config runId events = .ok (some lock)) :
    ∃ e, (events.filter fun e => e.type = .candidateNamespaceLocked) = [e] ∧
      readNamespace rt config runId e.payload = .ok lock := by
  unfold loadCandidateNamespaceLock at h
  split at h
  · cases h
  · rename_i e he
    refine ⟨e, he, ?_⟩
    cases hr : readNamespace rt config runId e.payload with
    | error err =>
      rw [hr] at h
      cases h
    | ok l =>
      rw [hr] at h
      cases h
      rfl
  · cases h

/-- No event, no namespace. -/
theorem loadCandidateNamespaceLock_none {config : RunConfig} {runId : Str} {events : List Event} :
    loadCandidateNamespaceLock rt config runId events = .ok none ↔
      ∀ e ∈ events, e.type ≠ .candidateNamespaceLocked := by
  unfold loadCandidateNamespaceLock
  constructor
  · intro h
    split at h
    · rename_i hnil
      simpa using hnil
    · rename_i e he
      cases hr : readNamespace rt config runId e.payload <;> rw [hr] at h <;> cases h
    · cases h
  · intro h
    have : (events.filter fun e => e.type = .candidateNamespaceLocked) = [] := by
      simpa using h
    rw [this]

/-- The labels a juror sees are labels of the mapping. -/
theorem mem_juryPresentationOrder {runId juror label : Str} {labels : List Str} :
    label ∈ juryPresentationOrder rt runId juror labels ↔ label ∈ labels := by
  unfold juryPresentationOrder
  rw [(rt.shuffled_perm _ _).mem_iff, Str.mem_sorted]

/-- **Prompts that are determined stay as they are.** -/
theorem Extends.expectedPrompts (h : Extends rt spec st st') (hc : st.Complete rt spec)
    {stage : Stage} {provider : Str} {prompts : PromptPair}
    (hp : st.expectedPrompts rt spec stage provider = some prompts) :
    st'.expectedPrompts rt spec stage provider = some prompts := by
  unfold Store.expectedPrompts at hp ⊢
  rw [Option.bind_eq_bind, Option.bind_eq_some_iff] at hp ⊢
  obtain ⟨marker, hm, hp⟩ := hp
  refine ⟨marker, h.marker _ hm, ?_⟩
  cases stage with
  | proposal => exact hp
  | jury =>
    dsimp only at hp ⊢
    rw [Option.bind_eq_bind, Option.bind_eq_some_iff] at hp ⊢
    obtain ⟨lock, hl, hp⟩ := hp
    refine ⟨lock, h.candidateNamespace _ hl, ?_⟩
    rwa [h.candidates fun label hlabel =>
      hc lock hl _ (Mapping.provider_mem (mem_juryPresentationOrder.1 hlabel))]
  | juryRepair =>
    dsimp only at hp ⊢
    rw [Option.bind_eq_bind, Option.bind_eq_some_iff] at hp ⊢
    obtain ⟨lock, hl, hp⟩ := hp
    refine ⟨lock, h.candidateNamespace _ hl, ?_⟩
    rw [Option.bind_eq_bind, Option.bind_eq_some_iff] at hp ⊢
    obtain ⟨response, hr, hp⟩ := hp
    exact ⟨response, h.successful _ _ _ hr, hp⟩
  | synthesis =>
    dsimp only at hp ⊢
    rw [Option.bind_eq_bind, Option.bind_eq_some_iff] at hp ⊢
    obtain ⟨lock, hl, hp⟩ := hp
    refine ⟨lock, h.candidateNamespace _ hl, ?_⟩
    rw [Option.bind_eq_bind, Option.bind_eq_some_iff] at hp ⊢
    obtain ⟨adjudication, ha, hp⟩ := hp
    refine ⟨adjudication, h.adjudication _ ha, ?_⟩
    rwa [h.candidates fun label hlabel => hc lock hl _ (Mapping.provider_mem hlabel)]

/-! ### Events that do not matter -/

/-- The events that make a decision final. -/
def EventType.isLock : EventType → Bool
  | .untrustedMarker | .candidateNamespaceLocked | .adjudicationLocked
  | .synthesisFallbackAdvanced => true
  | .runStarted | .workloadPreflight | .providerRetryStarted | .providerCallNotDispatched
  | .truncatedResponsePreserved | .incompleteResponsePreserved | .truncationRecovery
  | .juryArtifactRepair | .runFinished => false

/-- The final decisions among events. -/
def lockEvents (events : List Event) : List Event := events.filter fun e => e.type.isLock

/-- The locks of one type are found among all locks as they are among all events. -/
theorem filter_lockEvents {type : EventType} (ht : type.isLock = true) (events : List Event) :
    (lockEvents events).filter (fun e => e.type = type) = events.filter fun e => e.type = type := by
  unfold lockEvents
  rw [List.filter_filter]
  refine List.filter_congr fun e _ => ?_
  by_cases he : e.type = type <;> simp [he, ht]

/-- The marker is among the final decisions. -/
theorem findSome_lockEvents (events : List Event) :
    (lockEvents events).findSome? markerOf = events.findSome? markerOf := by
  unfold lockEvents
  induction events with
  | nil => rfl
  | cons e events ih =>
    by_cases he : e.type.isLock = true
    · rw [List.filter_cons_of_pos (p := fun e : Event => e.type.isLock) he, List.findSome?_cons,
        List.findSome?_cons, ih]
    · have hm : markerOf e = none := by
        unfold markerOf
        split
        · simp_all [EventType.isLock]
        · rfl
      rw [List.filter_cons_of_neg (p := fun e : Event => e.type.isLock) he,
        List.findSome?_cons, hm, ih]

section
variable (hlock : lockEvents st.events = lockEvents st'.events)
include hlock

/-- The marker of a run is read off its locks. -/
theorem Store.marker?_congr : st.marker? = st'.marker? := by
  unfold Store.marker?
  rw [← findSome_lockEvents, hlock, findSome_lockEvents]

/-- Stores with the same locks have the same locks of each type. -/
theorem Store.filter_congr {type : EventType} (ht : type.isLock = true) :
    st.events.filter (fun e => e.type = type) = st'.events.filter fun e => e.type = type := by
  rw [← filter_lockEvents ht, hlock, filter_lockEvents ht]

/-- The lock of the candidates is read off the locks. -/
theorem Store.namespace?_congr : st.namespace? rt spec = st'.namespace? rt spec := by
  unfold Store.namespace? loadCandidateNamespaceLock
  rw [Store.filter_congr hlock rfl]

/-- The lock of the vote is read off the locks. -/
theorem Store.adjudication?_congr : st.adjudication? rt spec = st'.adjudication? rt spec := by
  unfold Store.adjudication? loadAdjudicationLock
  rw [Store.namespace?_congr hlock, Store.filter_congr hlock rfl]

/-- The transitions of the synthesis chain are read off the locks. -/
theorem fallbackEvents_congr : fallbackEvents st.events = fallbackEvents st'.events :=
  Store.filter_congr hlock rfl

end

/-- A store with the same final decisions and all successes extends. -/
theorem Extends.of_lockEvents (hlock : lockEvents st.events = lockEvents st'.events)
    (hs : ∀ stage provider r, st.successful stage provider = some r →
      st'.successful stage provider = some r) : Extends rt spec st st' where
  marker m hm := by rwa [← Store.marker?_congr hlock]
  candidateNamespace l hl := by rwa [← Store.namespace?_congr hlock]
  adjudication l hl := by rwa [← Store.adjudication?_congr hlock]
  successful := hs

end CouncilLogic
