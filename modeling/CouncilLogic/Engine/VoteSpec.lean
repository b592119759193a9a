/-
# The ballots of a resume and their lock

Once the candidates are named, the jury stage gives every provider a ballot or a
failure.  The prompts are made from the stored artifacts in the order of the mapping,
so they are the same for every resume; and what is locked as the vote is read back as
it was written, with every counted record backed by a stored response.

In `src/model_council/engine.py` this is the part of `_resume_locked` from the namespace lock to
the adjudication lock, with `_jury_presentation_order`, `_parse_and_repair_juries`,
`_lock_adjudication` and `_load_adjudication_lock`.
-/

import CouncilLogic.Engine.ProposalSpec

namespace CouncilLogic

open Protocol

variable {rt : Runtime} {spec : RunSpec} {w w' : World} {marker : Str} {lock : NamespaceLock}
  {proposals : List Proposal}

/-! ### Candidates -/

/-- The proposals a resume has in hand are those of the named candidates. -/
structure Candidates (rt : Runtime) (st : Store) (mapping : Mapping) (proposals : List Proposal) :
    Prop where
  perm : (proposals.map Proposal.provider).Perm mapping.providers
  artifact : ∀ p ∈ proposals, st.artifact? rt p.provider = some p.artifact

/-- The candidates of a mapping are the same in every store that has their artifacts. -/
theorem Candidates.congr {st st' : Store} {mapping : Mapping}
    (h : Candidates rt st mapping proposals)
    (hs : ∀ provider a, st.artifact? rt provider = some a → st'.artifact? rt provider = some a) :
    Candidates rt st' mapping proposals :=
  ⟨h.perm, fun p hp => hs _ _ (h.artifact p hp)⟩

/-- The candidates in hand are the stored ones. -/
theorem Candidates.candidatesOf_eq {st : Store} {mapping : Mapping}
    (h : Candidates rt st mapping proposals) {labels : List Str} (hl : labels ⊆ mapping.labels) :
    candidatesOf mapping proposals labels = st.candidates rt mapping labels := by
  unfold candidatesOf Store.candidates
  congr 1
  refine List.filterMap_congr fun label hlabel => ?_
  have hmem := h.perm.symm.subset (Mapping.provider_mem (hl hlabel))
  obtain ⟨p, hp, hname⟩ := List.mem_map.1 hmem
  obtain ⟨q, hq⟩ := Option.isSome_iff_exists.1
    (List.find?_isSome (p := fun p : Proposal => decide (p.provider = mapping.provider label)).2
      ⟨p, hp, by simpa using hname⟩)
  have hqname : q.provider = mapping.provider label := by simpa using List.find?_some hq
  rw [hq, ← hqname, h.artifact q (List.mem_of_find?_eq_some hq), Option.map_some, Option.map_some]

/-! ### The jury stage -/

/-- When the jury prompts can be made there is one for every juror, made from the same candidates
in the juror's own order. -/
theorem juryStagePrompts_ok {ctx : RunContext} {mapping : Mapping}
    {orders : List (Str × List Str)} :
    ∀ {prompts}, juryStagePrompts ctx mapping proposals orders = .ok prompts →
      prompts.map Prod.fst = orders.map Prod.fst ∧
      ∀ e ∈ prompts, ∃ order, (e.1, order) ∈ orders ∧
        juryPrompts ctx.spec.question (candidatesOf mapping proposals order) ctx.marker =
          .ok e.2 := by
  induction orders with
  | nil =>
    intro prompts h
    cases h
    exact ⟨rfl, by simp⟩
  | cons o orders ih =>
    intro prompts h
    obtain ⟨juror, order⟩ := o
    unfold juryStagePrompts at h
    simp only [bind, Except.bind] at h
    split at h
    · cases h
    rename_i pair hpair
    split at h
    · cases h
    rename_i others hothers
    cases h
    obtain ⟨hfst, hall⟩ := ih hothers
    refine ⟨by rw [List.map_cons, List.map_cons, hfst], List.forall_mem_cons.2 ⟨?_, fun e he => ?_⟩⟩
    · exact ⟨order, List.mem_cons_self, hpair⟩
    · obtain ⟨order', hmem, hp⟩ := hall e he
      exact ⟨order', List.mem_cons_of_mem _ hmem, hp⟩

/-- Every configured juror has an order. -/
theorem map_fst_presentationOrders {runId : Str} {mapping : Mapping} {names : List Str} :
    (presentationOrders rt runId mapping names).map Prod.fst = names := by
  unfold presentationOrders
  rw [List.map_map]
  exact List.map_id names

/-- The arguments of the jury stage fit the run. -/
theorem juryPre (h : At rt spec marker w) {ctx : RunContext} (hspec : ctx.spec = spec)
    (hmarker : ctx.marker = marker) (hlock : w.store.namespace? rt spec = some lock)
    (hopen : w.store.NoEvent .adjudicationLocked)
    (hcand : Candidates rt w.store lock.mapping proposals) {prompts : List (Str × PromptPair)}
    (hprompts : juryStagePrompts ctx lock.mapping proposals
      (presentationOrders rt spec.id lock.mapping spec.config.names) = .ok prompts) :
    StagePre rt spec (juryArgs ctx.deadline prompts) w ∧
      prompts.map Prod.fst = spec.config.names := by
  obtain ⟨hfst, hall⟩ := juryStagePrompts_ok hprompts
  rw [map_fst_presentationOrders] at hfst
  refine ⟨⟨h.inv, ?_, ?_, ?_, fun e _ _ => ⟨by rw [hlock]; rfl, hopen⟩, rfl, nofun, nofun⟩, hfst⟩
  · exact hfst ▸ h.inv.accepted.names_nodup
  · intro e he
    have := List.mem_map_of_mem (f := Prod.fst) he
    exact hfst ▸ this
  · intro e he
    obtain ⟨order, hmem, hp⟩ := hall e he
    obtain ⟨juror, -, heq⟩ := List.mem_map.1 hmem
    rw [Prod.mk.injEq] at heq
    obtain ⟨rfl, rfl⟩ := heq
    rw [hspec, hmarker, hcand.candidatesOf_eq fun l hl => mem_juryPresentationOrder.1 hl] at hp
    show (w.store.marker? >>= _) = _
    rw [h.marked]
    show (w.store.namespace? rt spec >>= _) = _
    rw [hlock]
    show (juryPrompts spec.question _ marker).toOption = _
    rw [hp]
    rfl

/-- The settled jurors, and those of them with a failure. -/
theorem settled_counted {st : Store} {mapping : Mapping} {jurors : List Str}
    {outcomes : List (Dict × Option Dict)}
    (h : List.Forall₂ (Settled rt st mapping) jurors outcomes) (hnd : jurors.Nodup) :
    ∃ failed, failed ⊆ jurors ∧
      List.Forall₂ (FailureFor .jury) failed (outcomes.filterMap Prod.snd) ∧
      Recorded mapping failed jurors (outcomes.map Prod.fst) := by
  induction h with
  | nil => exact ⟨[], List.Subset.refl _, .nil, .nil⟩
  | @cons juror o jurors outcomes ho _ ih =>
    rw [List.nodup_cons] at hnd
    obtain ⟨failed, hsub, hf, hrec⟩ := ih hnd.2
    cases ho2 : o.2 with
    | none =>
      refine ⟨failed, fun j hj => List.mem_cons_of_mem _ (hsub hj), ?_, .cons ⟨ho.record, ?_⟩ hrec⟩
      · rwa [List.filterMap_cons_none ho2]
      · exact iff_of_true (ho.valid.2 ho2) fun hj => hnd.1 (hsub hj)
    | some f =>
      refine ⟨juror :: failed, List.cons_subset_cons _ hsub, ?_, .cons ⟨ho.record, ?_⟩ ?_⟩
      · rw [List.filterMap_cons_some ho2]
        exact .cons (ho.failure f ho2) hf
      · refine iff_of_false (fun hv => ?_) fun hn => hn List.mem_cons_self
        rw [ho.valid.1 hv] at ho2
        cases ho2
      · refine hrec.congr fun j hj => ?_
        rw [List.mem_cons]
        exact or_iff_right fun heq => hnd.1 (heq ▸ hj)

/-- The valid ones among the settled records are backed. -/
theorem settled_backed {st : Store} {mapping : Mapping} {jurors : List Str}
    {outcomes : List (Dict × Option Dict)}
    (h : List.Forall₂ (Settled rt st mapping) jurors outcomes) {record : Dict}
    (hr : record ∈ outcomes.map Prod.fst) (hv : isValidRecord record = true) :
    RecordBacked rt st mapping record.canon := by
  induction h with
  | nil => cases hr
  | @cons juror o jurors outcomes ho _ ih =>
    rcases List.mem_cons.1 hr with rfl | hr
    · obtain ⟨response, order, artifact, hs, hd, hrec⟩ := ho.backed hv
      exact ⟨juror, response, order, artifact, hs, hd, by rw [hrec]⟩
    · exact ih hr

/-- **The jury stage of a resume.** -/
theorem juryPhase_spec {eng : CouncilEngine} (heng : eng.toRunConfig = spec.config)
    {ctx : RunContext} (hspec : ctx.spec = spec) (h : At rt spec ctx.marker w)
    (hlock : w.store.namespace? rt spec = some lock)
    (hopen : w.store.NoEvent .adjudicationLocked)
    (hcand : Candidates rt w.store lock.mapping proposals) :
    Prog.wp (engineRules rt spec)
      (fun x w' => (Inv rt spec w' ∧ Steady w w') ∧
        (∃ jurors failed, Counted spec.config lock.mapping jurors failed x.1.records
          x.1.failures) ∧
        ∀ record ∈ x.1.records, isValidRecord record = true →
          RecordBacked rt w'.store lock.mapping record.canon)
      (fun _ _ => True) (juryPhase rt eng ctx lock.mapping proposals) w := by
  have hnames : eng.names = spec.config.names := congrArg RunConfig.names heng
  unfold juryPhase
  dsimp only
  rw [hspec, Prog.wp_bind, Prog.wp_ofExcept]
  refine ⟨fun prompts hprompts => ?_, fun _ _ => trivial⟩
  rw [hnames] at hprompts
  obtain ⟨hpre, hfst⟩ := juryPre h hspec rfl hlock hopen hcand hprompts
  refine Prog.wp_seq (runStage_spec heng hpre) ?_
  rintro result w₁ ⟨⟨hinv₁, hk₁⟩, hdone⟩
  have hproviders := hdone.providers
  rw [List.append_nil] at hproviders
  have hargs : (juryArgs ctx.deadline prompts).prompts.map Prod.fst = spec.config.names := hfst
  rw [hargs] at hproviders
  have hsub : ∀ s ∈ result.successes, s.1 ∈ spec.config.names := fun s hs =>
    hproviders.subset (List.mem_append_left _ (List.mem_map_of_mem hs))
  refine Prog.wp_seq (parseAndRepairJuries_spec heng hinv₁ (h.steady hinv₁ hk₁).marked
    (by rw [namespace?_steady hk₁, hlock]) (noEvent_congr rfl hk₁.locks hopen)
    hdone.result.successes hsub) ?_
  rintro juries w₂ ⟨⟨hinv₂, hk₂⟩, outcomes, hall, hrec, hfail⟩
  set jurors := spec.config.names.filter fun j => (result.successes.lookup j).isSome with hjurors
  have hnd : jurors.Nodup := h.inv.accepted.names_nodup.filter _
  obtain ⟨failed, hfailed, hf, hrecorded⟩ := settled_counted hall hnd
  have hanswered : ∀ j ∈ jurors, j ∈ result.successes.map Prod.fst := by
    intro j hj
    obtain ⟨response, hr⟩ := Option.isSome_iff_exists.1 (List.mem_filter.1 hj).2
    exact List.mem_map_of_mem (mem_of_lookup hr)
  have hdisj : ∀ j ∈ jurors, j ∉ result.failures.map Prod.fst := by
    intro j hj hf
    have hnd' := hproviders.nodup_iff.2 h.inv.accepted.names_nodup
    exact (List.nodup_append.1 hnd').2.2 j (hanswered j hj) j hf rfl
  refine ⟨⟨hinv₂, hk₁.trans hk₂⟩, ⟨jurors, result.failures.map Prod.fst ++ failed, ?_⟩, ?_⟩
  · refine ⟨?_, hnd, ?_, ⟨fun j hj => (List.mem_filter.1 hj).1, ?_⟩, ?_⟩
    · show Recorded _ _ _ juries.records
      rw [hrec]
      exact hrecorded.congr fun j hj => by
        rw [List.mem_append]
        exact or_iff_right (hdisj j hj)
    · show List.Forall₂ _ _ (result.failureDicts .jury ++ juries.failures)
      rw [hfail]
      exact List.rel_append (failureDicts_for hdone.result) hf
    · refine List.append_subset.2 ⟨fun j hj => hproviders.subset (List.mem_append_right _ hj), ?_⟩
      exact fun j hj => (List.mem_filter.1 (hfailed hj)).1
    · intro j hj
      rcases List.mem_append.1 (hproviders.symm.subset hj) with hs | hf
      · refine List.mem_append_left _ (List.mem_filter.2 ⟨hj, ?_⟩)
        obtain ⟨s, hmem, rfl⟩ := List.mem_map.1 hs
        cases hl : result.successes.lookup s.1 with
        | some response => rfl
        | none =>
          rw [List.lookup_eq_none_iff] at hl
          simpa using hl s hmem
      · exact List.mem_append_right _ (List.mem_append_left _ hf)
  · intro record hr hv
    have hr' : record ∈ juries.records := hr
    rw [hrec] at hr'
    exact settled_backed hall hr' hv

/-! ### Deciding the vote -/

/-- **Deciding the vote**: one event, which can be read back. -/
theorem lockAdjudication_spec (hinv : Inv rt spec w) {jurors failed : List Str}
    {records failures : List Dict} (hlock : w.store.namespace? rt spec = some lock)
    (hopen : w.store.NoEvent .adjudicationLocked)
    (hdecided : Decided rt spec.config lock.mapping jurors failed records failures)
    (hbacked : ∀ record ∈ records, isValidRecord record = true →
      RecordBacked rt w.store lock.mapping record.canon) :
    Prog.wp (engineRules rt spec)
      (fun _ w' => Inv rt spec w' ∧
        (∃ payload, w' = w.withStore (w.store.addEvent .adjudicationLocked payload)) ∧
        w'.store.adjudication? rt spec =
          some ⟨records.map Dict.canon, failures.map Dict.canon⟩)
      (fun _ _ => True)
      (lockAdjudication rt spec.config spec.id lock.mapping records failures) w := by
  set payload := Dict.canon (adjudicationPayload lock.mapping records failures) with hpayload
  unfold lockAdjudication
  rw [Prog.wp_bind, wp_transact]
  refine ⟨fun st hst => ?_, fun _ _ => trivial⟩
  obtain rfl := Store.appendEvent_ok hst
  have hread := readAdjudication_canon hdecided
  have hstep : EngineStep rt spec w
      (w.withStore (w.store.addEvent .adjudicationLocked payload)) := by
    refine .lockAdjudication w payload lock _ hopen hlock hread fun record hr hv => ?_
    obtain ⟨original, horiginal, rfl⟩ := List.mem_map.1 hr
    obtain ⟨juror, -, hrec⟩ := hdecided.recorded.mem horiginal
    rw [hrec.isValidRecord_canon] at hv
    exact hbacked original horiginal hv
  refine ⟨hstep, ?_⟩
  have hpost : Inv rt spec (w.withStore (w.store.addEvent .adjudicationLocked payload)) ∧
      (∃ payload', w.withStore (w.store.addEvent .adjudicationLocked payload) =
        w.withStore (w.store.addEvent .adjudicationLocked payload')) ∧
      (w.store.addEvent .adjudicationLocked payload).adjudication? rt spec =
        some ⟨records.map Dict.canon, failures.map Dict.canon⟩ :=
    ⟨(hstep.keeps hinv).1, ⟨payload, rfl⟩, adjudication?_locked hopen hlock hread⟩
  rw [Prog.wp_bind, wp_getStore, Prog.wp_bind, Prog.wp_ofExcept]
  refine ⟨fun _ _ => ?_, fun _ _ => trivial⟩
  rw [Prog.wp_bind, Prog.wp_ofExcept]
  refine ⟨fun loaded _ => ?_, fun _ _ => trivial⟩
  cases loaded with
  | none => trivial
  | some adjudication => exact hpost

end CouncilLogic
