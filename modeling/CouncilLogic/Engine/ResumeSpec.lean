/-
# Every resume takes the steps of a run

The last pieces: the result, the synthesis, the vote, and the resume as a whole.
`resume_spec` says that whatever the environment answers, every write of a resume is a
step of `EngineStep`; `Reachable.steps` turns that into a fact about all reachable
states of a run.

The method is `_resume_locked` of `src/model_council/engine.py` with `_build_result` and
`_finish`.  The specification is proved once, phase by phase and from the last phase to the first,
in the rules of `CouncilLogic.Lib.Prog`: `Voted` and `Loaded` say what a phase leaves for the next
one, whether it has decided it itself or has read a lock of an earlier resume.
-/

import CouncilLogic.Engine.ChainSpec

namespace CouncilLogic

open Protocol

variable {rt : Runtime} {spec : RunSpec} {w w' : World} {marker : Str} {lock : NamespaceLock}
  {proposals : List Proposal}

/-! ### Results -/

/-- **Storing a result.** -/
theorem finish_spec (h : At rt spec marker w) {p : ResultParts}
    (hcompleted : p.status = .completed → CompletedOk rt spec w.store p)
    (hunanswered : p.status ≠ .completed → p.answer = none) :
    Prog.wp (engineRules rt spec) (fun _ _ => True) (fun _ _ => True)
      (finish rt spec.config spec p) w := by
  unfold finish
  rw [Prog.wp_bind, wp_getStore, Prog.wp_bind, Prog.wp_ofExcept]
  refine ⟨fun result hresult => ?_, fun _ _ => trivial⟩
  rw [Prog.wp_bind, wp_transact]
  refine ⟨fun st hst => ?_, fun _ _ => trivial⟩
  obtain ⟨event, rfl⟩ := Store.finishRun_ok hst
  exact ⟨.finish w p result event h.running ⟨hresult, hcompleted, hunanswered⟩, trivial⟩

/-! ### From the vote to the result -/

/-- The vote a resume has in hand is the locked one. -/
structure Voted (rt : Runtime) (spec : RunSpec) (st : Store) (lock : NamespaceLock)
    (records : List Dict) (aggregate : Aggregate) : Prop where
  locked : st.namespace? rt spec = some lock
  counted : aggregateOf rt lock.mapping records = .ok aggregate
  voted : ∃ adjudication, st.adjudication? rt spec = some adjudication ∧
    records.map Dict.canon = adjudication.records.map Dict.canon ∧
    aggregateOf rt lock.mapping adjudication.records = .ok aggregate ∧
    ∀ question marker candidates,
      lockedSynthesisPrompts rt question marker lock.mapping candidates adjudication.records =
        lockedSynthesisPrompts rt question marker lock.mapping candidates records

/-- A vote that was counted now is one that can be locked. -/
theorem Voted.adjudicatedOk {st : Store} {records : List Dict} {aggregate : Aggregate}
    (h : Voted rt spec st lock records aggregate) :
    AdjudicatedOk rt spec st lock.mapping records aggregate := by
  obtain ⟨adjudication, ha, hrecords, hagg, -⟩ := h.voted
  exact ⟨lock, adjudication, h.locked, ha, rfl, hrecords, hagg⟩

/-- A vote stays counted in every store that extends the one it was counted in. -/
theorem Voted.extends_ {st st' : Store} {records : List Dict} {aggregate : Aggregate}
    (h : Voted rt spec st lock records aggregate) (hext : Extends rt spec st st') :
    Voted rt spec st' lock records aggregate where
  locked := hext.candidateNamespace _ h.locked
  counted := h.counted
  voted := by
    obtain ⟨adjudication, ha, hrest⟩ := h.voted
    exact ⟨adjudication, hext.adjudication _ ha, hrest⟩

/-- **From the vote to the result.** -/
theorem synthesizeAndFinish_spec {eng : CouncilEngine} (heng : eng.toRunConfig = spec.config)
    {ctx : RunContext} (hspec : ctx.spec = spec) (h : At rt spec ctx.marker w)
    {p : ProposalState} (hcand : Candidates rt w.store lock.mapping p.proposals)
    {records failures recoveries : List Dict} {aggregate : Aggregate}
    (hvoted : Voted rt spec w.store lock records aggregate) {advanced : ℕ × List Dict}
    (hadvanced : (fallbackEvents w.store.events).length + 1 = advanced.1) :
    Prog.wp (engineRules rt spec) (fun _ _ => True) (fun _ _ => True)
      (synthesizeAndFinish rt eng ctx lock.mapping p records aggregate advanced failures
        recoveries) w := by
  have hchain : eng.synthesisProviders = spec.config.synthesisProviders :=
    congrArg RunConfig.synthesisProviders heng
  unfold synthesizeAndFinish
  rw [Prog.wp_bind, wp_emit]
  have hstep : EngineStep rt spec w (w.record (.adjudicated lock.mapping records aggregate)) :=
    .adjudicate w _ _ _ hvoted.adjudicatedOk
  refine ⟨hstep, ?_⟩
  have h₁ : At rt spec ctx.marker (w.record (.adjudicated lock.mapping records aggregate)) :=
    ⟨(hstep.keeps h.inv).1, h.marked, h.running⟩
  -- the synthesis leaves what it is built on as it is
  have hsynthesis : Prog.wp (engineRules rt spec)
      (fun x w' => At rt spec ctx.marker w' ∧ Extends rt spec w.store w'.store ∧
        Answered spec w'.store x.answer)
      (fun _ _ => True) (synthesisPhase rt eng ctx lock.mapping p.proposals
        (records.filter isValidRecord) aggregate advanced.1)
      (w.record (.adjudicated lock.mapping records aggregate)) := by
    unfold synthesisPhase
    rw [Prog.wp_bind]
    refine wp_monotonic fun elapsed => ?_
    set w₁ := w.record (.adjudicated lock.mapping records aggregate) with hw₁
    have htick : EngineStep rt spec w₁ (w₁.tick elapsed) :=
      .stage _ _ .synthesis [] (.tick w₁ elapsed)
    refine ⟨htick, ?_⟩
    have h₂ : At rt spec ctx.marker (w₁.tick elapsed) :=
      ⟨(htick.keeps h₁.inv).1, h.marked, h.running⟩
    by_cases hdead : ctx.deadline ≤ (w₁.tick elapsed).now
    · rw [if_pos hdead]
      exact ⟨h₂, .refl _, fun _ _ hx => by cases hx⟩
    rw [if_neg hdead, hspec, Prog.wp_bind, Prog.wp_ofExcept]
    refine ⟨fun prompts hprompts => ?_, fun _ _ => trivial⟩
    obtain ⟨adjudication, ha, -, -, hsame⟩ := hvoted.voted
    rw [hcand.candidatesOf_eq (List.Subset.refl _)] at hprompts
    have hs : Synthesizing rt spec ctx.marker lock adjudication prompts (w₁.tick elapsed) := by
      refine ⟨h₂, hvoted.locked, ha, ?_⟩
      rw [hsame]
      unfold lockedSynthesisPrompts
      rw [hvoted.counted]
      exact hprompts
    rw [hchain]
    refine Prog.wp_mono ?_ (fun _ _ h => h) (synthesisChain_spec heng _ _ _ (by omega) rfl hs
      (.inl hadvanced))
    exact fun x w' hx => ⟨hx.synthesizing.toAt, hx.extends_, hx.answered⟩
  refine Prog.wp_seq hsynthesis ?_
  rintro synthesis w₂ ⟨h₂, hext, hanswered⟩
  dsimp only
  rw [hspec, heng]
  refine finish_spec h₂ (fun hcompleted => ?_) fun hne => ?_
  · cases hanswer : synthesis.answer with
    | none =>
      rw [hanswer] at hcompleted
      cases hcompleted
    | some answer =>
      obtain ⟨name, content⟩ := answer
      obtain ⟨hmem, response, hresponse, hcontent⟩ := hanswered name content hanswer
      refine ⟨⟨lock.mapping, aggregate, rfl, rfl, (hvoted.extends_ hext).adjudicatedOk,
        sameMembers_of_perm hcand.perm⟩, name, response, hmem, hresponse, ?_⟩
      rw [hcontent]
      rfl
  · cases hanswer : synthesis.answer with
    | none => rfl
    | some answer =>
      rw [hanswer] at hne
      exact absurd rfl hne

/-! ### From the candidates to the vote -/

/-- The aggregate over the proposals in hand is the aggregate of the mapping. -/
theorem aggregateOf_eq {st : Store} {mapping : Mapping} (hcand : Candidates rt st mapping proposals)
    {records : List Dict} {judgments : List Json} {aggregate : Aggregate}
    (hj : judgmentsOf (records.filter isValidRecord) = .ok judgments)
    (ha : aggregateJuries rt judgments (proposals.map Proposal.provider) = .ok aggregate) :
    aggregateOf rt mapping records = .ok aggregate := by
  unfold aggregateOf
  rw [hj, ← ha, aggregateJuries_perm judgments hcand.perm]
  rfl

/-- The ballots a resume has in hand: the locked ones, or new ones. -/
def Balloted (rt : Runtime) (spec : RunSpec) (st : Store) (lock : NamespaceLock)
    (adjudication : Option AdjudicationLock) (records failures : List Dict) : Prop :=
  match adjudication with
  | some vote => st.adjudication? rt spec = some vote ∧ records = vote.records
  | none => st.NoEvent .adjudicationLocked ∧
      (∃ jurors failed, Counted spec.config lock.mapping jurors failed records failures) ∧
      ∀ record ∈ records, isValidRecord record = true →
        RecordBacked rt st lock.mapping record.canon

/-- **The ballots of a resume**, locked or new. -/
theorem ballotPhase_spec {eng : CouncilEngine} (heng : eng.toRunConfig = spec.config)
    {ctx : RunContext} (hspec : ctx.spec = spec) (h : At rt spec ctx.marker w)
    (hlock : w.store.namespace? rt spec = some lock) {p : ProposalState}
    (hcand : Candidates rt w.store lock.mapping p.proposals)
    {adjudication : Option AdjudicationLock}
    (hvote : ∀ vote, adjudication = some vote → w.store.adjudication? rt spec = some vote)
    (hopen : adjudication = none → w.store.NoEvent .adjudicationLocked) :
    Prog.wp (engineRules rt spec)
      (fun x w' => (Inv rt spec w' ∧ Steady w w') ∧
        Balloted rt spec w'.store lock adjudication x.1 x.2.1)
      (fun _ _ => True) (ballotPhase rt eng ctx lock.mapping p adjudication) w := by
  unfold ballotPhase
  cases adjudication with
  | some vote => exact ⟨⟨h.inv, .refl w⟩, hvote vote rfl, rfl⟩
  | none =>
    refine Prog.wp_seq (juryPhase_spec heng hspec h hlock (hopen rfl) hcand) ?_
    rintro ⟨juries, stageRecoveries⟩ w' ⟨⟨hinv, hk⟩, hcounted, hbacked⟩
    exact ⟨⟨hinv, hk⟩, noEvent_congr rfl hk.locks (hopen rfl), hcounted, hbacked⟩

/-- **From the candidates to the result.** -/
theorem adjudicateAndFinish_spec {eng : CouncilEngine} (heng : eng.toRunConfig = spec.config)
    {ctx : RunContext} (hspec : ctx.spec = spec) (h : At rt spec ctx.marker w)
    (hlock : w.store.namespace? rt spec = some lock) {p : ProposalState}
    (hcand : Candidates rt w.store lock.mapping p.proposals)
    {adjudication : Option AdjudicationLock}
    (hvote : ∀ vote, adjudication = some vote → w.store.adjudication? rt spec = some vote)
    (hopen : adjudication = none → w.store.NoEvent .adjudicationLocked)
    {advanced : ℕ × List Dict}
    (hadvanced : (fallbackEvents w.store.events).length + 1 = advanced.1) :
    Prog.wp (engineRules rt spec) (fun _ _ => True) (fun _ _ => True)
      (adjudicateAndFinish rt eng ctx lock.mapping p adjudication advanced) w := by
  have hpolicy : eng.policy = spec.config.policy := congrArg RunConfig.policy heng
  unfold adjudicateAndFinish
  refine Prog.wp_seq (ballotPhase_spec heng hspec h hlock hcand hvote hopen) ?_
  rintro ⟨records, juryFailures, recoveries⟩ w₁ ⟨⟨hinv₁, hk₁⟩, hballoted⟩
  have h₁ := h.steady hinv₁ hk₁
  have hlock₁ : w₁.store.namespace? rt spec = some lock := by rw [namespace?_steady hk₁, hlock]
  have hcand₁ : Candidates rt w₁.store lock.mapping p.proposals :=
    hcand.congr fun _ _ => hk₁.artifact
  have hadvanced₁ : (fallbackEvents w₁.store.events).length + 1 = advanced.1 := by
    rw [fallbackEvents_congr hk₁.locks]
    exact hadvanced
  dsimp only
  split
  · -- too few ballots
    rw [hspec, heng]
    exact finish_spec h₁ (fun hcompleted => by cases hcompleted) fun _ => rfl
  rename_i hquorum
  rw [Prog.wp_bind, Prog.wp_ofExcept]
  refine ⟨fun judgments hjudgments => ?_, fun _ _ => trivial⟩
  rw [Prog.wp_bind, Prog.wp_ofExcept]
  refine ⟨fun aggregate haggregate => ?_, fun _ _ => trivial⟩
  have hagg := aggregateOf_eq hcand₁ hjudgments haggregate
  cases adjudication with
  | some vote =>
    rw [if_neg (by simp)]
    obtain ⟨hvoted, rfl⟩ := hballoted
    exact synthesizeAndFinish_spec heng hspec h₁ hcand₁
      ⟨hlock₁, hagg, vote, hvoted, rfl, hagg, fun _ _ _ => rfl⟩ hadvanced₁
  | none =>
    rw [if_pos rfl]
    obtain ⟨hno, ⟨jurors, failed, hcounted⟩, hbacked⟩ := hballoted
    have hdecided : Decided rt spec.config lock.mapping jurors failed records juryFailures := by
      refine ⟨hcounted, fun hlt => hquorum ⟨rfl, ?_⟩, aggregate, hagg⟩
      rw [hpolicy]
      exact hlt
    rw [hspec, heng]
    refine Prog.wp_seq (lockAdjudication_spec hinv₁ hlock₁ hno hdecided hbacked) ?_
    rintro _ w₂ ⟨hinv₂, ⟨payload, rfl⟩, hvoted⟩
    have hext : Extends rt spec w₁.store (w₁.store.addEvent .adjudicationLocked payload) :=
      extends_addEvent (by simp) fun _ => hno
    have hcand₂ : Candidates rt (w₁.withStore (w₁.store.addEvent .adjudicationLocked payload)).store
        lock.mapping p.proposals := hcand₁.congr fun _ _ ha => ha
    refine synthesizeAndFinish_spec heng hspec
      ⟨hinv₂, marker?_addEvent h₁.marked, h₁.running⟩ hcand₂
      ⟨hext.candidateNamespace _ hlock₁, hagg, _, hvoted, ?_, ?_, ?_⟩ ?_
    · rw [List.map_map]
      exact List.map_congr_left fun d _ => (Dict.canon_canon d).symm
    · rw [hcounted.recorded.aggregateOf_canon]
      exact hagg
    · exact fun question marker candidates =>
        hcounted.recorded.lockedSynthesisPrompts_canon
    · show (fallbackEvents (w₁.store.addEvent .adjudicationLocked payload).events).length + 1 = _
      rw [fallbackEvents, filter_addEvent (by simp)]
      exact hadvanced₁

/-! ### The stages -/

/-- **A resume with another configuration is refused**: when the run lock is accepted, the
engine's configuration is the one the run was created with. -/
theorem validateRunLock_ok {eng : CouncilEngine} (h : validateRunLock rt eng spec = .ok ()) :
    eng.toRunConfig = spec.config := by
  unfold validateRunLock at h
  split at h
  · cases h
  split at h
  · cases h
  split at h
  · cases h
  rename_i hproviders hrest
  simp only [not_or, not_not] at hproviders hrest
  obtain ⟨hpolicy, hsynthesis, hfallbacks⟩ := hrest
  cases hconfig : spec.config
  rw [hconfig] at hproviders hpolicy hsynthesis hfallbacks
  cases heng : eng.toRunConfig
  rw [heng] at hproviders hpolicy hsynthesis hfallbacks
  cases hproviders
  cases hpolicy
  cases hsynthesis
  cases hfallbacks
  rfl

/-- A resume that reports no quorum problem has proposals enough, and lineages enough among them.
-/
theorem quorumWarnings_eq_nil {eng : CouncilEngine} (heng : eng.toRunConfig = spec.config)
    (h : quorumWarnings eng proposals = []) :
    ¬ ((proposals.map Proposal.provider).length : ℤ) < spec.config.policy.proposalQuorum ∧
      ¬ ((spec.config.lineages (proposals.map Proposal.provider)).length : ℤ) <
        spec.config.policy.minLineages := by
  unfold quorumWarnings at h
  dsimp only at h
  rw [List.append_eq_nil_iff, heng] at h
  obtain ⟨hquorum, hlineages⟩ := h
  rw [List.length_map]
  constructor
  · intro hlt
    rw [if_pos hlt] at hquorum
    cases hquorum
  · intro hlt
    rw [if_pos hlt] at hlineages
    cases hlineages

/-- **The stages of a resume.** -/
theorem runStages_spec {eng : CouncilEngine} (heng : eng.toRunConfig = spec.config)
    {ctx : RunContext} (hspec : ctx.spec = spec) (h : At rt spec ctx.marker w)
    {namespaceLock : Option NamespaceLock} {adjudication : Option AdjudicationLock}
    (hlock : ∀ lock, namespaceLock = some lock → w.store.namespace? rt spec = some lock)
    (hnone : namespaceLock = none → w.store.NoEvent .candidateNamespaceLocked)
    (hvote : ∀ vote, adjudication = some vote → w.store.adjudication? rt spec = some vote)
    (hopen : adjudication = none → w.store.NoEvent .adjudicationLocked)
    {advanced : ℕ × List Dict}
    (hadvanced : (fallbackEvents w.store.events).length + 1 = advanced.1) {recorded : List Dict} :
    Prog.wp (engineRules rt spec) (fun _ _ => True) (fun _ _ => True)
      (runStages rt eng ctx namespaceLock adjudication advanced recorded) w := by
  unfold runStages
  dsimp only
  refine Prog.wp_seq (proposalPhase_spec heng hspec h hlock hnone) ?_
  rintro ⟨proposals, stageFailures, stageRecoveries⟩ w₁ ⟨⟨hinv₁, hk₁⟩, hproposed, hsame⟩
  have h₁ := h.steady hinv₁ hk₁
  have hvote₁ : ∀ vote, adjudication = some vote →
      w₁.store.adjudication? rt spec = some vote := fun vote hv => by
    rw [adjudication?_steady hk₁, hvote vote hv]
  have hopen₁ : adjudication = none → w₁.store.NoEvent .adjudicationLocked := fun ha =>
    noEvent_congr rfl hk₁.locks (hopen ha)
  have hadvanced₁ : (fallbackEvents w₁.store.events).length + 1 = advanced.1 := by
    rw [fallbackEvents_congr hk₁.locks]
    exact hadvanced
  dsimp only at hproposed hsame ⊢
  split
  · -- too few proposals
    unfold finishWithoutQuorum
    rw [hspec, heng]
    refine finish_spec h₁ (fun hcompleted => ?_) fun _ => rfl
    dsimp only at hcompleted
    split at hcompleted <;> cases hcompleted
  rename_i hwarnings
  obtain ⟨hquorum, hdiverse⟩ := quorumWarnings_eq_nil heng (not_not.1 hwarnings)
  cases namespaceLock with
  | some lock =>
    have hlock₁ : w₁.store.namespace? rt spec = some lock := by
      rw [namespace?_steady hk₁, hlock lock rfl]
    obtain ⟨hnd, -, -⟩ := namespace?_ok hlock₁
    have hcand : Candidates rt w₁.store lock.mapping proposals := by
      obtain ⟨failed, -, hperm⟩ := hproposed.split
      have hpnd := (List.nodup_append.1 (hperm.nodup_iff.2 hnd)).1
      obtain ⟨hsub, hsub'⟩ := sameMembers_iff.1 (hsame lock rfl)
      exact ⟨(List.perm_ext_iff_of_nodup hpnd hnd).2 fun a => ⟨fun ha => hsub ha,
        fun ha => hsub' ha⟩, hproposed.artifact⟩
    exact adjudicateAndFinish_spec heng hspec h₁ hlock₁ hcand hvote₁ hopen₁ hadvanced₁
  | none =>
    have hno := noEvent_congr rfl hk₁.locks (hnone rfl)
    obtain ⟨failed, hfailed, hperm⟩ := hproposed.split
    have hpart : Partition spec.config (proposals.map Proposal.provider) failed :=
      ⟨hperm, h.inv.accepted.names_nodup, hquorum, hdiverse⟩
    rw [hspec, heng]
    refine Prog.wp_seq (lockCandidateNamespace_spec hinv₁ hno hpart hfailed ?_) ?_
    · intro name hname
      obtain ⟨p, hp, rfl⟩ := List.mem_map.1 hname
      rw [hproposed.artifact p hp]
      rfl
    rintro lock w₂ ⟨hinv₂, ⟨payload, rfl⟩, hlocked, hmapping⟩
    have hadj : adjudication = none := by
      cases hadj : adjudication with
      | none => rfl
      | some vote =>
        have hvoted := hvote₁ vote hadj
        rw [adjudication?_eq_none_of_namespace (namespace?_eq_none hno)] at hvoted
        cases hvoted
    have hcand : Candidates rt
        (w₁.withStore (w₁.store.addEvent .candidateNamespaceLocked payload)).store lock.mapping
        proposals := by
      refine ⟨?_, fun p hp => hproposed.artifact p hp⟩
      rw [hmapping]
      exact (candidateMapping_providers rt spec.id _).symm
    refine adjudicateAndFinish_spec heng hspec ⟨hinv₂, marker?_addEvent h₁.marked, h₁.running⟩
      hlocked hcand (fun vote hv => ?_) (fun _ => ?_) ?_
    · rw [hadj] at hv
      cases hv
    · intro e he
      rw [World.withStore_store, events_addEvent, List.mem_append, List.mem_singleton] at he
      rcases he with he | rfl
      · exact hopen₁ hadj e he
      · simp
    · show (fallbackEvents (w₁.store.addEvent .candidateNamespaceLocked payload).events).length
        + 1 = _
      rw [fallbackEvents, filter_addEvent (by simp)]
      exact hadvanced₁

/-! ### The resume -/

/-- The marker of a run is found, or drawn and kept. -/
theorem loadOrCreateUntrustedMarker_spec (hinv : Inv rt spec w) :
    Prog.wp (engineRules rt spec)
      (fun marker w' => Inv rt spec w' ∧ w'.store.marker? = some marker ∧
        w'.store.run = w.store.run ∧
        (w'.store.events = w.store.events ∨ ∃ payload, w'.store.events = w.store.events ++
          [⟨.untrustedMarker, payload⟩]))
      (fun _ _ => True) (loadOrCreateUntrustedMarker rt w.store.events) w := by
  unfold loadOrCreateUntrustedMarker
  cases hm : w.store.events.findSome? markerOf with
  | some marker => exact ⟨hinv, hm, rfl, .inl rfl⟩
  | none =>
    intro (marker : Marker) _
    change Prog.wp _ _ _ (transact (fun st => st.appendEvent rt .untrustedMarker
      [(lit "marker", .str marker.text)]) >>= fun _ => pure marker.text) w
    rw [Prog.wp_bind, wp_transact]
    refine ⟨fun st hst => ?_, fun _ _ => trivial⟩
    obtain rfl := Store.appendEvent_ok hst
    have hstep : EngineStep rt spec w (w.withStore (w.store.addEvent .untrustedMarker
        (Dict.canon [(lit "marker", .str marker.text)]))) := .marker w marker hm
    refine ⟨hstep, (hstep.keeps hinv).1, ?_, rfl, .inr ⟨_, rfl⟩⟩
    have hne : marker.text ≠ [] := by
      intro h
      have := marker.length_text
      rw [h] at this
      cases this
    have hread : markerOf ⟨.untrustedMarker, Dict.canon [(lit "marker", .str marker.text)]⟩ =
        some marker.text := by
      unfold markerOf
      rw [Dict.get?_canon (by simp [Dict.keys])]
      simp [Dict.get?_cons, Json.canon, hne]
    unfold Store.marker?
    rw [World.withStore_store, Store.withEvents_events, List.findSome?_append, hm,
      List.findSome?_singleton, hread]
    rfl

/-- Audit events of a resume. -/
theorem wp_audit {type : EventType} {payload : Dict} (h : At rt spec marker w)
    (ht : type.isResumeAudit = true) :
    Prog.wp (engineRules rt spec) (fun _ w' => At rt spec marker w' ∧ Steady w w')
      (fun _ _ => True) (transact fun st => st.appendEvent rt type payload) w := by
  rw [wp_transact]
  refine ⟨fun st hst => ?_, fun _ _ => trivial⟩
  obtain rfl := Store.appendEvent_ok hst
  have hstep : EngineStep rt spec w (w.withStore (w.store.addEvent type payload.canon)) :=
    .audit w _ _ ht
  have hk : Steady w (w.withStore (w.store.addEvent type payload.canon)) := steady_audit ht _
  exact ⟨hstep, h.steady (hstep.keeps h.inv).1 hk, hk⟩

/-- What was loaded at the start of a resume still is what the store says. -/
structure Loaded (rt : Runtime) (spec : RunSpec) (st : Store)
    (namespaceLock : Option NamespaceLock) (adjudication : Option AdjudicationLock)
    (advanced : ℕ × List Dict) : Prop where
  locked : ∀ lock, namespaceLock = some lock → st.namespace? rt spec = some lock
  unnamed : namespaceLock = none → st.NoEvent .candidateNamespaceLocked
  voted : ∀ vote, adjudication = some vote → st.adjudication? rt spec = some vote
  undecided : adjudication = none → st.NoEvent .adjudicationLocked
  position : (fallbackEvents st.events).length + 1 = advanced.1

section
variable {st st' : Store} {namespaceLock : Option NamespaceLock}
  {adjudication : Option AdjudicationLock} {advanced : ℕ × List Dict}

/-- What a resume has loaded depends on the locks in the log alone. -/
theorem Loaded.congr (h : Loaded rt spec st namespaceLock adjudication advanced)
    (hlocks : ∀ type, type.isLock = true → type ≠ .untrustedMarker →
      st'.events.filter (fun e => e.type = type) = st.events.filter fun e => e.type = type) :
    Loaded rt spec st' namespaceLock adjudication advanced := by
  have hns : st'.namespace? rt spec = st.namespace? rt spec := by
    unfold Store.namespace? loadCandidateNamespaceLock
    rw [hlocks _ rfl (by simp)]
  have hadj : st'.adjudication? rt spec = st.adjudication? rt spec := by
    unfold Store.adjudication? loadAdjudicationLock
    rw [hns, hlocks _ rfl (by simp)]
  have hno : ∀ type, type.isLock = true → type ≠ .untrustedMarker → st.NoEvent type →
      st'.NoEvent type := by
    intro type ht hne hn
    have hnil : (st.events.filter fun e => e.type = type) = [] := by simpa [Store.NoEvent] using hn
    have hnil' := (hlocks type ht hne).trans hnil
    simpa [Store.NoEvent] using hnil'
  exact {
    locked := fun lock hl => by rw [hns, h.locked lock hl]
    unnamed := fun hn => hno _ rfl (by simp) (h.unnamed hn)
    voted := fun vote hv => by rw [hadj, h.voted vote hv]
    undecided := fun hn => hno _ rfl (by simp) (h.undecided hn)
    position := by
      unfold fallbackEvents
      rw [hlocks _ rfl (by simp)]
      exact h.position }

/-- What a resume has loaded at its start is still what the store says after a stage. -/
theorem Loaded.steady (h : Loaded rt spec w.store namespaceLock adjudication advanced)
    (hk : Steady w w') : Loaded rt spec w'.store namespaceLock adjudication advanced :=
  h.congr fun _ ht _ => Store.filter_congr hk.locks ht

/-- What the loaders return is what the store says. -/
theorem loaded_of_ok
    (hadvanced : loadSynthesisFallbackState spec.config st st.events = .ok advanced)
    (hns : loadCandidateNamespaceLock rt spec.config spec.id st.events = .ok namespaceLock)
    (hadj : loadAdjudicationLock rt spec.config namespaceLock st.events = .ok adjudication) :
    Loaded rt spec st namespaceLock adjudication advanced where
  locked lock hl := namespace?_eq_some (hl ▸ hns)
  unnamed hn := loadCandidateNamespaceLock_none.1 (hn ▸ hns)
  voted vote hv := by
    have hnamespace : st.namespace? rt spec = namespaceLock := by
      unfold Store.namespace?
      rw [hns]
      rfl
    unfold Store.adjudication?
    rw [hnamespace, hadj, hv]
    rfl
  undecided hn := by
    rw [hn] at hadj
    unfold loadAdjudicationLock at hadj
    split at hadj
    · rename_i hnil
      simpa [Store.NoEvent] using hnil
    · cases hadj
    · rename_i e lock _
      cases hr : readAdjudication rt spec.config lock e.payload <;> rw [hr] at hadj <;> cases hadj
    · cases hadj
  position := by
    unfold loadSynthesisFallbackState at hadvanced
    simp only [bind, Except.bind] at hadvanced
    split at hadvanced
    · cases hadvanced
    split at hadvanced
    · cases hadvanced
      rfl
    · split at hadvanced <;> cases hadvanced
      rfl
    · cases hadvanced

end

/-- **A resume of a run that is not completed.** -/
theorem beginResume_spec {eng : CouncilEngine} (heng : eng.toRunConfig = spec.config)
    (hinv : Inv rt spec w) (hopen : ¬ w.store.Completed) {namespaceLock : Option NamespaceLock}
    {adjudication : Option AdjudicationLock} {advanced : ℕ × List Dict}
    (hloaded : Loaded rt spec w.store namespaceLock adjudication advanced) :
    Prog.wp (engineRules rt spec) (fun _ _ => True) (fun _ _ => True)
      (beginResume rt eng w.store namespaceLock adjudication advanced) w := by
  unfold beginResume
  refine Prog.wp_seq (loadOrCreateUntrustedMarker_spec hinv) ?_
  rintro marker w₁ ⟨hinv₁, hmarker, hrun, hevents⟩
  have hloaded₁ : Loaded rt spec w₁.store namespaceLock adjudication advanced := by
    refine hloaded.congr fun type _ hne => ?_
    rcases hevents with he | ⟨payload, he⟩
    · rw [he]
    · rw [he, List.filter_append, List.filter_singleton]
      simp [Ne.symm hne]
  rw [Prog.wp_bind]
  refine wp_monotonic fun elapsed => ?_
  have htick : EngineStep rt spec w₁ (w₁.tick elapsed) :=
    .stage _ _ .synthesis [] (.tick w₁ elapsed)
  refine ⟨htick, ?_⟩
  have hinv₂ := (htick.keeps hinv₁).1
  rw [Prog.wp_bind, wp_transact]
  refine ⟨fun st hst => ?_, fun _ _ => trivial⟩
  obtain rfl := Except.ok.inj hst
  have hstatus : EngineStep rt spec (w₁.tick elapsed)
      ((w₁.tick elapsed).withStore ((w₁.tick elapsed).store.setRunStatus .running)) := by
    refine .status _ ?_
    unfold Store.Completed
    rw [World.tick_store, hrun]
    exact hopen
  refine ⟨hstatus, ?_⟩
  have h₃ : At rt spec marker
      ((w₁.tick elapsed).withStore ((w₁.tick elapsed).store.setRunStatus .running)) :=
    ⟨(hstatus.keeps hinv₂).1, hmarker, fun hc => by cases hc.1⟩
  have hloaded₃ : Loaded rt spec ((w₁.tick elapsed).withStore
      ((w₁.tick elapsed).store.setRunStatus .running)).store namespaceLock adjudication advanced :=
    hloaded₁.congr fun _ _ _ => rfl
  refine Prog.wp_seq (wp_audit h₃ rfl) ?_
  rintro _ w₄ ⟨h₄, hk₄⟩
  intro (draws : Workload.PlanDraws) _
  change Prog.wp _ _ _ (Prog.ofExcept _ >>= _) w₄
  rw [Prog.wp_bind, Prog.wp_ofExcept]
  refine ⟨fun plan _ => ?_, fun _ _ => trivial⟩
  rw [Prog.wp_bind, Prog.wp_ofExcept]
  refine ⟨fun _ _ => ?_, fun _ _ => trivial⟩
  refine Prog.wp_seq (wp_audit h₄ rfl) ?_
  rintro _ w₅ ⟨h₅, hk₅⟩
  have hloaded₅ := (hloaded₃.steady hk₄).steady hk₅
  exact runStages_spec heng hinv.spec_eq h₅ hloaded₅.locked hloaded₅.unnamed hloaded₅.voted
    hloaded₅.undecided hloaded₅.position

/-- **Every write of every resume is a step.** -/
theorem resume_spec (eng : CouncilEngine) (hinv : Inv rt spec w) :
    Prog.wp (engineRules rt spec) (fun _ _ => True) (fun _ _ => True) (resume rt eng) w := by
  unfold resume
  rw [Prog.wp_bind, wp_getStore, hinv.spec_eq, Prog.wp_bind, Prog.wp_ofExcept]
  refine ⟨fun _ hlock => ?_, fun _ _ => trivial⟩
  have heng := validateRunLock_ok hlock
  rw [heng, Prog.wp_bind, Prog.wp_ofExcept]
  refine ⟨fun advanced hadvanced => ?_, fun _ _ => trivial⟩
  rw [Prog.wp_bind, Prog.wp_ofExcept]
  refine ⟨fun namespaceLock hns => ?_, fun _ _ => trivial⟩
  rw [Prog.wp_bind, Prog.wp_ofExcept]
  refine ⟨fun adjudication hadj => ?_, fun _ _ => trivial⟩
  have hloaded := loaded_of_ok hadvanced hns hadj
  split
  · trivial
  · rename_i hne
    refine beginResume_spec heng hinv (fun hc => ?_) hloaded
    obtain ⟨result, hresult⟩ := Option.ne_none_iff_exists'.1 hc.2
    exact hne result hc.1 hresult

/-! ### Runs -/

/-- A run is created empty, of a question whose workload fits. -/
theorem createRun_ok {eng : CouncilEngine} {draws : Workload.PlanDraws} {question runId : Str}
    {st : Store} (h : createRun rt eng draws question runId = .ok st) :
    st = { run := { spec := ⟨runId, Str.strip question, rt.protocolHash, eng.toRunConfig⟩ } } ∧
      Str.strip question ≠ [] ∧ ∃ plan,
        Workload.estimateWorkload rt draws (Str.strip question) eng.names eng.policy
          eng.synthesisProviders = .ok plan ∧
        Workload.requireWorkloadWithinLimits plan = .ok () := by
  unfold createRun at h
  simp only [bind, Except.bind] at h
  split at h
  · cases h
  rename_i hquestion
  split at h
  · cases h
  rename_i plan hplan
  split at h
  · cases h
  rename_i hlimits
  split at h
  · cases h
  split at h
  · cases h
  cases h
  exact ⟨rfl, hquestion, plan, hplan, hlimits⟩

/-- A run that was just created has nothing to keep. -/
theorem inv_created {eng : CouncilEngine} {draws : Workload.PlanDraws} {question : Str} {st : Store}
    (h : createRun rt eng draws question spec.id = .ok st) (hspec : st.run.spec = spec) :
    Inv rt spec { store := st } := by
  obtain ⟨rfl, -⟩ := createRun_ok h
  have hslot : ∀ (s : Stage) (p : Str) (run : RunRow), ({ run := run } : Store).slot s p = none :=
    fun _ _ _ => rfl
  exact {
    wellFormed := ⟨List.nodup_nil, List.nodup_nil, by simp⟩
    stopped := fun s p r hr => by simp [Store.successful, hslot] at hr
    spec_eq := hspec
    accepted := hspec ▸ eng.accepted
    complete := fun lock hl => by cases hl
    chain :=
      ⟨fun name r hr => by simp [hslot] at hr, fun i e he => by simp [fallbackEvents] at he⟩ }

/-- How the world of a run moves: by the steps of resumes, and when a process ends. -/
abbrev RunMove (rt : Runtime) (spec : RunSpec) : World → World → Prop :=
  (engineRules rt spec).Moves World.lose

/-- Every move of a run keeps the invariant, and the store it leads to extends the one it started
from. -/
theorem RunMove.keeps (h : RunMove rt spec w w') (hinv : Inv rt spec w) :
    Inv rt spec w' ∧ Extends rt spec w.store w'.store := by
  rcases h with h | rfl
  · exact EngineStep.keeps hinv h
  · exact ⟨hinv.lose, .refl _⟩

/-- **The states of a run are reached by steps**, from the state its creation leaves. -/
theorem Reachable.steps {c : Prog.Config World PyErr Question Answer Dict}
    (h : Reachable rt spec c) : ∃ eng draws question, ∃ st : Store,
      createRun rt eng draws question spec.id = .ok st ∧ st.run.spec = spec ∧
      Relation.ReflTransGen (RunMove rt spec) { store := st } c.state ∧ Inv rt spec c.state := by
  obtain ⟨eng, draws, question, st, hcreate, hspec, hreach⟩ := h.created
  have hinv := inv_created hcreate hspec
  have hresume : ∀ p, Resumes rt p → ∀ s, Inv rt spec s →
      Prog.wp (engineRules rt spec) (fun _ _ => True) (fun _ _ => True) p s := by
    rintro p ⟨eng, rfl⟩ s hs
    exact resume_spec eng hs
  have hkeeps : ∀ s s', RunMove rt spec s s' → Inv rt spec s → Inv rt spec s' :=
    fun s s' hm hs => (RunMove.keeps hm hs).1
  obtain ⟨hsteps, hinv', -⟩ :=
    Prog.Reach.guarantee (fun _ _ => trivial) hresume hkeeps hreach hinv trivial
  exact ⟨eng, draws, question, st, hcreate, hspec, hsteps, hinv'⟩

end CouncilLogic
