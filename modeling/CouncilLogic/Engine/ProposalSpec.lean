/-
# Proposals and the names of the candidates

The proposal stage of a resume gives every provider a proposal or a failure.  Before
the candidates are named it runs for all providers; afterwards it only reads the
candidates back.  What is then locked is read back as it was written.

In `src/model_council/engine.py` this is the part of `_resume_locked` up to the namespace lock,
with `_candidate_mapping`, `_lock_candidate_namespace` and `_load_candidate_namespace_lock`.  What
the later phases need is collected in `Proposed` and `At`, which stay true of every later world of
the run (`Proposed.steady`, `At.steady`).
-/

import CouncilLogic.Engine.BallotSpec

namespace CouncilLogic

open Protocol

variable {rt : Runtime} {spec : RunSpec} {w w' : World} {marker : Str}

/-! ### A resume under way -/

/-- A resume under way: its marker is the marker of the run, which is not completed. -/
structure At (rt : Runtime) (spec : RunSpec) (marker : Str) (w : World) : Prop where
  inv : Inv rt spec w
  marked : w.store.marker? = some marker
  running : ¬ w.store.Completed

/-- What is known at the start of a phase is still known when only the rows of a stage have
changed. -/
theorem At.steady (h : At rt spec marker w) (hinv : Inv rt spec w') (hk : Steady w w') :
    At rt spec marker w' where
  inv := hinv
  marked := by
    rw [Store.marker?_congr hk.locks]
    exact h.marked
  running := by
    unfold Store.Completed
    rw [hk.run]
    exact h.running

/-- A stage does not touch the lock of the candidates. -/
theorem namespace?_steady (hk : Steady w w') :
    w'.store.namespace? rt spec = w.store.namespace? rt spec := Store.namespace?_congr hk.locks

/-- A stage does not touch the lock of the vote. -/
theorem adjudication?_steady (hk : Steady w w') :
    w'.store.adjudication? rt spec = w.store.adjudication? rt spec :=
  Store.adjudication?_congr hk.locks

/-- A namespace that was loaded is the one of the store. -/
theorem namespace?_eq_some {st : Store} {lock : NamespaceLock}
    (h : loadCandidateNamespaceLock rt spec.config spec.id st.events = .ok (some lock)) :
    st.namespace? rt spec = some lock := by
  unfold Store.namespace?
  rw [h]
  rfl

/-- What a namespace that can be read says. -/
theorem readNamespace_ok {config : RunConfig} {runId : Str} {payload : Dict} {lock : NamespaceLock}
    (h : readNamespace rt config runId payload = .ok lock) :
    lock.mapping.providers.Nodup ∧ lock.mapping.providers ⊆ config.names ∧
      lock.mapping = candidateMapping rt runId lock.mapping.providers := by
  unfold readNamespace at h
  simp only [bind, Except.bind] at h
  split at h
  · cases h
  split at h
  · cases h
  split at h
  · cases h
  split at h
  · cases h
  rename_i hok
  split at h
  · cases h
  split at h
  · cases h
  split at h
  · cases h
  split at h
  · cases h
  cases h
  simp only [not_or, not_not] at hok
  exact hok

/-- What the namespace of a store says. -/
theorem namespace?_ok {st : Store} {lock : NamespaceLock}
    (h : st.namespace? rt spec = some lock) :
    lock.mapping.providers.Nodup ∧ lock.mapping.providers ⊆ spec.config.names ∧
      lock.mapping = candidateMapping rt spec.id lock.mapping.providers := by
  obtain ⟨e, -, hread⟩ := loadCandidateNamespaceLock_some (toOption_join.1 h)
  exact readNamespace_ok hread

/-! ### Proposals -/

/-- Every response is a proposal or a failure. -/
theorem parseProposals_ok {responses : List (Str × ProviderResponse)} :
    ∀ {x}, parseProposals rt responses = .ok x →
      (∀ p ∈ x.1, (p.provider, p.response) ∈ responses ∧
        parseProposal rt p.response.content = .ok p.artifact) ∧
      ∃ invalid, List.Forall₂ (FailureFor .proposal) invalid x.2 ∧
        (x.1.map Proposal.provider ++ invalid).Perm (responses.map Prod.fst) := by
  induction responses with
  | nil =>
    intro x h
    cases h
    exact ⟨by simp, [], .nil, .nil⟩
  | cons e responses ih =>
    intro x h
    obtain ⟨name, response⟩ := e
    unfold parseProposals at h
    split at h
    · rename_i artifact hparse
      simp only [bind, Except.bind] at h
      split at h
      · cases h
      rename_i v hrest
      cases h
      obtain ⟨hall, invalid, hf, hp⟩ := ih hrest
      refine ⟨List.forall_mem_cons.2 ⟨⟨List.mem_cons_self, hparse⟩, fun p hp =>
        ⟨List.mem_cons_of_mem _ (hall p hp).1, (hall p hp).2⟩⟩, invalid, hf, ?_⟩
      exact hp.cons name
    · split at h
      · simp only [bind, Except.bind] at h
        split at h
        · cases h
        rename_i v hrest
        cases h
        obtain ⟨hall, invalid, hf, hp⟩ := ih hrest
        refine ⟨fun p hp => ⟨List.mem_cons_of_mem _ (hall p hp).1, (hall p hp).2⟩, name :: invalid,
          .cons (failurePayload_for _ _ _) hf, ?_⟩
        exact List.perm_middle.trans (hp.cons name)
      · cases h

/-- What the proposal stage comes to for some providers. -/
structure Proposed (rt : Runtime) (st : Store) (names : List Str) (proposals : List Proposal)
    (failures : List Dict) : Prop where
  artifact : ∀ p ∈ proposals, st.artifact? rt p.provider = some p.artifact
  split : ∃ failed, List.Forall₂ (FailureFor .proposal) failed failures ∧
    (proposals.map Proposal.provider ++ failed).Perm names

/-- The proposals of a run stay what they are while later stages write their own rows. -/
theorem Proposed.steady {names : List Str} {proposals : List Proposal} {failures : List Dict}
    (h : Proposed rt w.store names proposals failures) (hk : Steady w w') :
    Proposed rt w'.store names proposals failures :=
  ⟨fun p hp => hk.artifact (h.artifact p hp), h.split⟩

/-- The arguments of the proposal stage fit the run. -/
theorem proposalPre (h : At rt spec marker w) {deadline : ℤ} {prompts : PromptPair}
    {names : List Str} (hprompts : proposalPrompts spec.question marker = .ok prompts)
    (hnd : names.Nodup) (hsub : names ⊆ spec.config.names)
    (hphase : w.store.NoEvent .candidateNamespaceLocked ∨
      ∀ p ∈ names, (w.store.artifact? rt p).isSome = true) :
    StagePre rt spec (proposalArgs deadline prompts names) w := by
  have hmem : ∀ e ∈ (proposalArgs deadline prompts names).prompts,
      e.1 ∈ names ∧ e.2 = prompts := by
    intro e he
    obtain ⟨name, hname, rfl⟩ := List.mem_map.1 he
    exact ⟨hname, rfl⟩
  refine ⟨h.inv, ?_, fun e he => hsub (hmem e he).1, ?_, ?_, rfl, nofun, nofun⟩
  · show (((names.map fun name => (name, prompts))).map Prod.fst).Nodup
    rw [List.map_map]
    exact (List.map_id names).symm ▸ hnd
  · intro e he
    rw [(hmem e he).2]
    show (w.store.marker? >>= _) = _
    rw [h.marked]
    show (proposalPrompts spec.question marker).toOption = _
    rw [hprompts]
    rfl
  · intro e he hwork
    rcases hphase with hno | hstored
    · exact hno
    · -- a stored proposal is not work
      have hsome := hstored e.1 (hmem e he).1
      obtain ⟨a, ha⟩ := Option.isSome_iff_exists.1 hsome
      obtain ⟨r, hr, -⟩ := Option.bind_eq_some_iff.1 ha
      obtain ⟨row, hrow, hstate⟩ := Store.successful_eq_some.1 hr
      obtain ⟨error, herror, -⟩ := hwork.free row hrow
      rw [hstate] at herror
      cases herror

/-- The providers the proposals of a resume are asked of. -/
def proposalNames (config : RunConfig) (namespaceLock : Option NamespaceLock) : List Str :=
  (namespaceLock.map fun lock => lock.mapping.providers).getD config.names

/-- **The proposals of a resume.** -/
theorem proposalPhase_spec {eng : CouncilEngine} (heng : eng.toRunConfig = spec.config)
    {ctx : RunContext} (hspec : ctx.spec = spec) (h : At rt spec ctx.marker w)
    {namespaceLock : Option NamespaceLock}
    (hlock : ∀ lock, namespaceLock = some lock → w.store.namespace? rt spec = some lock)
    (hnone : namespaceLock = none → w.store.NoEvent .candidateNamespaceLocked) :
    Prog.wp (engineRules rt spec)
      (fun x w' => (Inv rt spec w' ∧ Steady w w') ∧
        Proposed rt w'.store (proposalNames spec.config namespaceLock) x.1 x.2.1 ∧
        ∀ lock, namespaceLock = some lock →
          sameMembers (x.1.map Proposal.provider) lock.mapping.providers = true)
      (fun _ _ => True) (proposalPhase rt eng ctx namespaceLock) w := by
  have hnames : eng.names = spec.config.names := congrArg RunConfig.names heng
  unfold proposalPhase
  rw [hnames, hspec]
  dsimp only
  have hproposers : (namespaceLock.map fun lock => lock.mapping.providers).getD spec.config.names =
      proposalNames spec.config namespaceLock := rfl
  rw [hproposers]
  set names := proposalNames spec.config namespaceLock with hn
  rw [Prog.wp_bind, Prog.wp_ofExcept]
  refine ⟨fun prompts hprompts => ?_, fun _ _ => trivial⟩
  have hpre : StagePre rt spec (proposalArgs ctx.deadline prompts names) w := by
    cases namespaceLock with
    | none =>
      exact proposalPre h hprompts h.inv.accepted.names_nodup (List.Subset.refl _)
        (.inl (hnone rfl))
    | some lock =>
      have hl := hlock lock rfl
      obtain ⟨hnd, hsub, -⟩ := namespace?_ok hl
      exact proposalPre h hprompts hnd hsub (.inr (h.inv.complete lock hl))
  refine Prog.wp_seq (runStage_spec heng hpre) ?_
  rintro result w₁ ⟨⟨hinv₁, hk₁⟩, hdone⟩
  rw [Prog.wp_bind, Prog.wp_ofExcept]
  refine ⟨?_, fun _ _ => trivial⟩
  rintro ⟨proposals, invalid⟩ hparse
  obtain ⟨hall, bad, hbad, hperm⟩ := parseProposals_ok hparse
  have hproposed : Proposed rt w₁.store names proposals
      (result.failureDicts .proposal ++ invalid) := by
    refine ⟨fun p hp => ?_, result.failures.map Prod.fst ++ bad,
      List.rel_append (failureDicts_for hdone.result) hbad, ?_⟩
    · obtain ⟨hmem, hartifact⟩ := hall p hp
      obtain ⟨r, hr, hcontent, -⟩ := (hdone.result.successes _ hmem).fields
      show (w₁.store.successful .proposal p.provider).bind _ = _
      rw [show w₁.store.successful .proposal p.provider = some r from hr, Option.bind_some,
        hcontent, hartifact]
      rfl
    · have hproviders := hdone.providers
      rw [List.append_nil] at hproviders
      have hargs : (proposalArgs ctx.deadline prompts names).prompts.map Prod.fst = names := by
        show ((names.map fun name => (name, prompts))).map Prod.fst = names
        rw [List.map_map]
        exact List.map_id names
      rw [hargs] at hproviders
      refine .trans ?_ hproviders
      refine .trans (.append_left _ List.perm_append_comm) ?_
      rw [← List.append_assoc]
      exact .append_right _ hperm
  dsimp only
  cases namespaceLock with
  | none => exact ⟨⟨hinv₁, hk₁⟩, hproposed, fun lock hl => by cases hl⟩
  | some lock =>
    dsimp only
    split
    · trivial
    · rename_i hsame
      refine ⟨⟨hinv₁, hk₁⟩, hproposed, fun lock' hl => ?_⟩
      cases hl
      simpa using hsame

/-! ### Naming the candidates -/

/-- **What was locked is what was written.** -/
theorem readNamespace_written {names failed : List Str} {failures : List Dict}
    {lock : NamespaceLock} (hpart : Partition spec.config names failed)
    (hf : List.Forall₂ (FailureFor .proposal) failed failures)
    (h : readNamespace rt spec.config spec.id
      (Dict.canon (namespacePayload (candidateMapping rt spec.id names) failures)) = .ok lock) :
    lock = ⟨candidateMapping rt spec.id names, failures.map Dict.canon⟩ := by
  by_cases hne : names = []
  · subst hne
    have hnil : candidateMapping rt spec.id [] = [] :=
      List.length_eq_zero_iff.1 (candidateMapping_length rt spec.id [])
    rw [hnil] at h
    exact absurd h readNamespace_nil
  · rw [readNamespace_canon hpart hf hne] at h
    exact (Except.ok.inj h).symm

/-- **Naming the candidates**: one event, which is read back. -/
theorem lockCandidateNamespace_spec (hinv : Inv rt spec w) {names failed : List Str}
    {failures : List Dict} (hno : w.store.NoEvent .candidateNamespaceLocked)
    (hpart : Partition spec.config names failed)
    (hf : List.Forall₂ (FailureFor .proposal) failed failures)
    (hstored : ∀ p ∈ names, (w.store.artifact? rt p).isSome = true) :
    Prog.wp (engineRules rt spec)
      (fun lock w' => Inv rt spec w' ∧
        (∃ payload, w' = w.withStore (w.store.addEvent .candidateNamespaceLocked payload)) ∧
        w'.store.namespace? rt spec = some lock ∧
        lock.mapping = candidateMapping rt spec.id names)
      (fun _ _ => True)
      (lockCandidateNamespace rt spec.config spec.id (candidateMapping rt spec.id names) failures)
      w := by
  set payload := Dict.canon (namespacePayload (candidateMapping rt spec.id names) failures)
    with hpayload
  unfold lockCandidateNamespace
  rw [Prog.wp_bind, wp_transact]
  refine ⟨fun st hst => ?_, fun _ _ => trivial⟩
  obtain rfl := Store.appendEvent_ok hst
  have hstep : EngineStep rt spec w
      (w.withStore (w.store.addEvent .candidateNamespaceLocked payload)) := by
    refine .lockNamespace w payload hno (fun hquorum => ?_) fun lock hread p hp => ?_
    · refine ⟨_, readNamespace_canon hpart hf ?_⟩
      rintro rfl
      have := hpart.quorum
      simp only [List.length_nil, Nat.cast_zero, not_lt] at this
      omega
    · rw [readNamespace_written hpart hf hread] at hp
      exact hstored p ((candidateMapping_providers rt spec.id names).subset hp)
  refine ⟨hstep, ?_⟩
  rw [Prog.wp_bind, wp_getStore, Prog.wp_bind, Prog.wp_ofExcept]
  refine ⟨fun loaded hloaded => ?_, fun _ _ => trivial⟩
  cases loaded with
  | none => trivial
  | some lock =>
    have hns := namespace?_eq_some hloaded
    refine ⟨(hstep.keeps hinv).1, ⟨payload, rfl⟩, hns, ?_⟩
    have hread : (w.store.addEvent .candidateNamespaceLocked payload).namespace? rt spec =
      some lock := hns
    rw [namespace?_locked hno, toOption_eq_some] at hread
    rw [readNamespace_written hpart hf hread]

end CouncilLogic
