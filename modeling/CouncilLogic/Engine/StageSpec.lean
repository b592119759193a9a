/-
# The slots of a stage, before its calls

Specifications of the loops of `_run_parallel_stage` that run before its thread pool:
which slots are settled without a call, what is known about the work that is left,
and how large the budget for it is.

The loops are those of `CouncilEngine._run_parallel_stage` in `src/model_council/engine.py`, in
their order there.  A result is right when it is what the slot has stored (`ResultOk`); a failure
that the engine reports for a slot without a row, such as a prompt that is too long, is right as
long as the slot is untouched.
-/

import CouncilLogic.Engine.Invariant

namespace CouncilLogic

open Protocol

variable {rt : Runtime} {spec : RunSpec} {stage : Stage} {names : List Str} {w w' : World}

/-! ### Rules -/

/-- Any answers, and steps of a stage. -/
def stageRules (rt : Runtime) (spec : RunSpec) (stage : Stage) (names : List Str) :
    Prog.Rules World Question Answer :=
  ⟨fun _ _ => True, StageStep rt spec stage names⟩

/-- Any answers, and steps of a resume. -/
def engineRules (rt : Runtime) (spec : RunSpec) : Prog.Rules World Question Answer :=
  ⟨fun _ _ => True, EngineStep rt spec⟩

/-- A step over the slots of some providers is one over those of more. -/
theorem StageStep.mono {names' : List Str} (h : StageStep rt spec stage names w w')
    (hsub : names ⊆ names') : StageStep rt spec stage names' w w' := by
  cases h with
  | tick elapsed => exact .tick w elapsed
  | act a ok hname => exact .act w a ok fun call hcall => hsub (hname call hcall)
  | audit type payload ht hprinted => exact .audit w type payload ht hprinted
  | start call config id st hname hstage hconfig ok h =>
    exact .start w call config id st (hsub hname) hstage hconfig ok h
  | succeed r response hr hname hstage hrun hlive hphase hstop =>
    exact .succeed w r response hr (hsub hname) hstage hrun hlive hphase hstop
  | fail r error hr hname hstage hrun hlive hencodes =>
    exact .fail w r error hr (hsub hname) hstage hrun hlive hencodes
  | cancel r payload hr hname hstage hrun hlive hphase hcount hpayload =>
    exact .cancel w r payload hr (hsub hname) hstage hrun hlive hphase hcount hpayload
  | restore r e callCount payload hr hname hstage hrun hlive hphase hpos hcount hprior haudit
      hpayload hencodes =>
    exact .restore w r e callCount payload hr (hsub hname) hstage hrun hlive hphase hpos hcount
      hprior haudit hpayload hencodes

/-- What a stage keeps is kept by any number of its steps. -/
theorem StageStep.keeps_many (hinv : Inv rt spec w)
    (h : Relation.ReflTransGen (StageStep rt spec stage names) w w') :
    Inv rt spec w' ∧ StageKeeps stage names w w' := by
  induction h with
  | refl => exact ⟨hinv, .refl hinv.wellFormed⟩
  | tail _ hlast ih =>
    obtain ⟨hinv', hk⟩ := ih
    exact ⟨(EngineStep.keeps hinv' (.stage _ _ _ _ hlast)).1,
      hk.trans (hlast.keeps hinv'.wellFormed)⟩

/-- **The frame rule of a stage**: a program of a stage keeps the invariant, and
everything outside the slots of its providers. -/
theorem wp_frame {α : Type} {p : M α} {post : α → World → Prop} {exc : PyErr → World → Prop}
    (hinv : Inv rt spec w) (h : Prog.wp (stageRules rt spec stage names) post exc p w) :
    Prog.wp (stageRules rt spec stage names)
      (fun a w' => (Inv rt spec w' ∧ StageKeeps stage names w w') ∧ post a w')
      (fun e w' => (Inv rt spec w' ∧ StageKeeps stage names w w') ∧ exc e w') p w :=
  Prog.wp_mono (fun _ _ h => ⟨StageStep.keeps_many hinv h.1, h.2⟩)
    (fun _ _ h => ⟨StageStep.keeps_many hinv h.1, h.2⟩) (Prog.wp_remember h)

/-- The frame rule where an exception ends the resume. -/
theorem wp_framed {α : Type} {p : M α} {post : α → World → Prop} (hinv : Inv rt spec w)
    (h : Prog.wp (stageRules rt spec stage names) post (fun _ _ => True) p w) :
    Prog.wp (stageRules rt spec stage names)
      (fun a w' => (Inv rt spec w' ∧ StageKeeps stage names w w') ∧ post a w')
      (fun _ _ => True) p w :=
  Prog.wp_mono (fun _ _ h => h) (fun _ _ _ => trivial) (wp_frame hinv h)

/-- A program over fewer slots. -/
theorem wp_names {α : Type} {p : M α} {post : α → World → Prop} {exc : PyErr → World → Prop}
    {names' : List Str} (hsub : names ⊆ names')
    (h : Prog.wp (stageRules rt spec stage names) post exc p w) :
    Prog.wp (stageRules rt spec stage names') post exc p w :=
  Prog.wp_rules (fun _ _ _ => trivial) (fun _ _ hstep => StageStep.mono hstep hsub) h

section Wp
variable {R : Prog.Rules World Question Answer} {exc : PyErr → World → Prop}

/-- Reading the store gives what is there. -/
theorem wp_getStore {post : Store → World → Prop} :
    Prog.wp R post exc getStore w ↔ post w.store w := by
  unfold getStore
  rw [Prog.wp_bind]
  rfl

/-- A transaction is committed as a step that the rules must allow, or it raises and nothing is
written. -/
theorem wp_transact {f : Store → Except PyErr Store} {post : Unit → World → Prop} :
    Prog.wp R post exc (transact f) w ↔
      (∀ st, f w.store = .ok st → R.guar w (w.withStore st) ∧ post () (w.withStore st)) ∧
        ∀ e, f w.store = .error e → exc e w := by
  unfold transact
  rw [Prog.wp_bind, Prog.wp_read, Prog.wp_bind, Prog.wp_ofExcept]
  rfl

/-- An action is recorded with the store it was taken in. -/
theorem wp_emit {a : Store → Action} {post : Unit → World → Prop} :
    Prog.wp R post exc (emit a) w ↔
      R.guar w (w.record (a w.store)) ∧ post () (w.record (a w.store)) := by
  unfold emit
  rw [Prog.wp_bind, Prog.wp_read]
  rfl

/-- Reading the clock moves it. -/
theorem wp_monotonic {post : ℤ → World → Prop}
    (h : ∀ elapsed, R.guar w (w.tick elapsed) ∧ post (w.tick elapsed).now (w.tick elapsed)) :
    Prog.wp R post exc monotonic w := by
  intro elapsed _
  refine ⟨(h elapsed).1, ?_⟩
  have hcast : ((w.tick elapsed).now : ℤ) = w.now + (show ℕ from elapsed) := Nat.cast_add _ _
  exact hcast ▸ (h elapsed).2

end Wp

/-! ### Results of slots -/

/-- An error as the engine reports it: as it was raised, or as it was stored. -/
def Reports (d : Dict) (e : ProviderError) : Prop := d = e.toDict ∨ d = e.stored

/-- A response that is reported is the one its slot has stored, up to the order of its
metadata. -/
structure SlotSuccess (stage : Stage) (st : Store) (provider : Str)
    (response : ProviderResponse) : Prop where
  stored : ∃ r, st.successful stage provider = some r ∧
    Store.storedResponse r = Store.storedResponse response
  stopped : response.finishReason = some (lit "stop")

/-- An error that is reported: its slot is not open any more, and when `strict`, the
error of a slot with a row is the one that is stored. -/
structure SlotFailure (stage : Stage) (strict : Prop) (st : Store) (provider : Str)
    (error : Dict) : Prop where
  closed : ∀ r, st.slot stage provider = some r → ∃ e, r.state = .failed e
  reports : ∃ e, Reports error e ∧
    (strict → ∀ r, st.slot stage provider = some r → r.state = .failed e)

/-- The providers a stage has results for. -/
def StageResult.providers (r : StageResult) : List Str :=
  r.successes.map Prod.fst ++ r.failures.map Prod.fst

/-- The results of a stage agree with the store. -/
structure ResultOk (stage : Stage) (strict : Prop) (st : Store) (r : StageResult) : Prop where
  successes : ∀ s ∈ r.successes, SlotSuccess stage st s.1 s.2
  failures : ∀ f ∈ r.failures, SlotFailure stage strict st f.1 f.2

/-- An empty result claims nothing. -/
theorem ResultOk.empty {strict : Prop} {st : Store} : ResultOk stage strict st {} :=
  ⟨by simp, by simp⟩

/-- Two right results are right together. -/
theorem ResultOk.append {strict : Prop} {st : Store} {a b : StageResult}
    (ha : ResultOk stage strict st a) (hb : ResultOk stage strict st b) :
    ResultOk stage strict st (a.append b) where
  successes s hs := (List.mem_append.1 hs).elim (ha.successes s) (hb.successes s)
  failures f hf := (List.mem_append.1 hf).elim (ha.failures f) (hb.failures f)

/-- Two results are about the providers of the one and those of the other. -/
theorem StageResult.providers_append (a b : StageResult) :
    (a.append b).providers.Perm (a.providers ++ b.providers) := by
  simp only [StageResult.providers, StageResult.append, List.map_append]
  refine .trans ?_ (List.Perm.of_eq (List.append_assoc _ _ _).symm)
  refine .trans (List.Perm.of_eq (List.append_assoc _ _ _)) (.append_left _ ?_)
  rw [← List.append_assoc, ← List.append_assoc]
  exact .append_right _ List.perm_append_comm

/-- What was reported stays true while other slots move. -/
theorem ResultOk.keeps {strict : Prop} {names : List Str} {r : StageResult}
    (h : ResultOk stage strict w.store r) (hk : StageKeeps stage names w w')
    (hdisj : ∀ f ∈ r.failures, f.1 ∉ names) : ResultOk stage strict w'.store r where
  successes s hs := by
    obtain ⟨⟨r, hr, hsame⟩, hstop⟩ := h.successes s hs
    exact ⟨⟨r, hk.successful _ _ _ hr, hsame⟩, hstop⟩
  failures f hf := by
    have hslot := hk.slots stage f.1 (.inr (hdisj f hf))
    exact ⟨by rw [hslot]; exact (h.failures f hf).closed,
      by rw [hslot]; exact (h.failures f hf).reports⟩

/-- A row that failed reports its stored error. -/
theorem slotFailure_stored {strict : Prop} {st : Store} {provider : Str} {r : Invocation}
    {e : ProviderError} (hslot : st.slot stage provider = some r) (hstate : r.state = .failed e)
    {d : Dict} (hd : Reports d e) : SlotFailure stage strict st provider d where
  closed r' hr' := by
    rw [hslot] at hr'
    cases hr'
    exact ⟨e, hstate⟩
  reports := ⟨e, hd, fun _ r' hr' => by
    rw [hslot] at hr'
    cases hr'
    exact hstate⟩

/-- A slot without a row reports whatever kept it from getting one. -/
theorem slotFailure_none {strict : Prop} {st : Store} {provider : Str} {e : ProviderError}
    (hslot : st.slot stage provider = none) {d : Dict} (hd : Reports d e) :
    SlotFailure stage strict st provider d :=
  ⟨fun r hr => by simp [hslot] at hr, ⟨e, hd, fun _ r hr => by simp [hslot] at hr⟩⟩

/-- Outside the strict reading, any failure may be reported for a slot that has failed. -/
theorem slotFailure_lax {strict : Prop} {st : Store} {provider : Str} {r : Invocation}
    {e e' : ProviderError} (hslot : st.slot stage provider = some r)
    (hstate : r.state = .failed e) (hstrict : ¬ strict) {d : Dict} (hd : Reports d e') :
    SlotFailure stage strict st provider d where
  closed r' hr' := by
    rw [hslot] at hr'
    cases hr'
    exact ⟨e, hstate⟩
  reports := ⟨e', hd, fun h => absurd h hstrict⟩

/-! ### Quiet providers -/

/-- A provider is not ambiguous when none of its slots is left running or has failed with an
unknown outcome. -/
theorem isAmbiguous_eq_false {st : Store} (hwf : st.WellFormed) {provider : Str} :
    st.isAmbiguous provider = false ↔ st.Quiet provider := by
  rw [← Bool.not_eq_true, hwf.isAmbiguous_iff]
  constructor
  · intro h s r hr
    refine ⟨fun hrun => h ⟨s, r, hr, .inl hrun⟩, ?_⟩
    by_contra hamb
    exact h ⟨s, r, hr, .inr (by simpa using hamb)⟩
  · rintro h ⟨s, r, hr, hrun | hamb⟩
    · exact (h s r hr).1 hrun
    · rw [(h s r hr).2] at hamb
      cases hamb

/-- A row has failed ambiguously when its error says so. -/
theorem failedAmbiguous_eq {r : Invocation} {e : ProviderError} (h : r.state = .failed e) :
    r.failedAmbiguous = e.ambiguous := by
  simp [Invocation.failedAmbiguous, h]

/-- A row counts as truncated when its error is not ambiguous and ends in the suffix that the
engine gives such errors. -/
theorem isLengthFailure_eq {r : Invocation} {e : ProviderError} (h : r.state = .failed e) :
    isLengthFailure (some r) = (!e.ambiguous && decide (Store.lengthSuffix <:+ e.message)) := by
  simp [isLengthFailure, h]

/-- A slot that is work: without a row, or with a failed one that may be retried. -/
structure WorkSlot (policy : RunPolicy) (args : StageArgs) (st : Store) (provider : Str) :
    Prop where
  quiet : st.Quiet provider
  free : ∀ r, st.slot args.stage provider = some r → ∃ e, r.state = .failed e ∧
    args.retryFailedInvocations = true
  truncation : isLengthFailure (st.slot args.stage provider) = true →
    (st.truncationRetryCount args.stage provider : ℤ) < policy.truncationRetries

/-- When the errors of a stage are those of its rows: it retries nothing, or it is the
second pass over responses that were truncated just now. -/
def StrictPass (policy : RunPolicy) (args : StageArgs) (st : Store) : Prop :=
  args.retryFailedInvocations = false ∨
    ∀ e ∈ args.prompts, st.Quiet e.1 ∧
      st.truncationRetryCount args.stage e.1 < policy.truncationRetries ∧
      fitsLimit policy e.2 = true

/-! ### Selecting -/

/-- The record of an error reports it. -/
theorem reports_self (e : ProviderError) : Reports e.toDict e := .inl rfl

/-- An error as it was read back from its JSON column still reports the error. -/
theorem reports_stored (e : ProviderError) : Reports e.stored e := .inr rfl

/-- What the record of a slot says about it. -/
theorem selectSlot_spec (policy : RunPolicy) (args : StageArgs) {st : Store}
    (hwf : st.WellFormed) (hstop : st.Stopped) (name : Str) :
    match selectSlot policy args st name with
    | .succeeded response => st.successful args.stage name = some response ∧
        response.finishReason = some (lit "stop")
    | .failed error => (∃ prompts, (name, prompts) ∈ args.prompts) →
        SlotFailure args.stage (StrictPass policy args st) st name error
    | .settle id => ∃ r, st.slot args.stage name = some r ∧ r.id = id ∧ r.state = .running
    | .work => WorkSlot policy args st name := by
  unfold selectSlot
  cases hslot : st.slot args.stage name with
  | none =>
    dsimp only
    by_cases hamb : st.isAmbiguous name = true
    · rw [if_pos hamb]
      exact fun _ => slotFailure_none hslot (reports_self _)
    · rw [if_neg hamb]
      exact ⟨(isAmbiguous_eq_false hwf).1 (by simpa using hamb),
        fun r hr => by simp [hslot] at hr, fun hlen => by simp [hslot, isLengthFailure] at hlen⟩
  | some r =>
    dsimp only
    cases hstate : r.state with
    | succeeded response =>
      have hsucc : st.successful args.stage name = some response :=
        Store.successful_eq_some.2 ⟨r, hslot, hstate⟩
      have hs := hstop _ _ _ hsucc
      have hnone : completionError (some response) = none := by simp [completionError, hs]
      simp only [hnone]
      exact ⟨hsucc, hs⟩
    | running => exact ⟨r, rfl, rfl, hstate⟩
    | failed e =>
      dsimp only
      by_cases hamb : e.ambiguous = true
      · rw [if_pos hamb]
        exact fun _ => slotFailure_stored hslot hstate (reports_stored e)
      rw [if_neg hamb]
      by_cases hretry : args.retryFailedInvocations = false
      · rw [if_pos hretry]
        exact fun _ => slotFailure_stored hslot hstate (reports_stored e)
      rw [if_neg hretry]
      by_cases hrec : (isLengthFailure (some r) &&
          st.recordedTruncationRecovery args.stage name) = true
      · rw [if_pos hrec]
        exact fun _ => slotFailure_stored hslot hstate (reports_stored e)
      rw [if_neg hrec]
      by_cases hexh : (isLengthFailure (some r) && decide (policy.truncationRetries ≤
          st.truncationRetryCount args.stage name)) = true
      · rw [if_pos hexh]
        rintro ⟨prompts, hp⟩
        refine slotFailure_lax hslot hstate ?_ (reports_self _)
        rintro (h | h)
        · exact hretry h
        · simp only [Bool.and_eq_true, decide_eq_true_eq] at hexh
          have := (h _ hp).2.1
          dsimp only at this
          omega
      rw [if_neg hexh]
      by_cases hsup : st.isAmbiguous name = true
      · rw [if_pos hsup]
        rintro ⟨prompts, hp⟩
        refine slotFailure_lax hslot hstate ?_ (reports_self _)
        rintro (h | h)
        · exact hretry h
        · have := (isAmbiguous_eq_false hwf).2 (h _ hp).1
          dsimp only at this
          rw [this] at hsup
          cases hsup
      rw [if_neg hsup]
      refine ⟨(isAmbiguous_eq_false hwf).1 (by simpa using hsup), fun r' hr' => ?_, fun hlen => ?_⟩
      · rw [hslot] at hr'
        cases hr'
        exact ⟨e, hstate, by simpa using hretry⟩
      · rw [hslot] at hlen
        rw [hlen, Bool.true_and, decide_eq_true_eq, not_le] at hexh
        exact hexh

/-- The record of a provider in a store is at least as it was in another. -/
structure SameSlots (st st' : Store) (provider : Str) : Prop where
  slot : ∀ s, st'.slot s provider = st.slot s provider
  retries : ∀ s, st'.truncationRetryCount s provider ≤ st.truncationRetryCount s provider

/-- A store has the slots that it has. -/
theorem SameSlots.refl (st : Store) (provider : Str) : SameSlots st st provider :=
  ⟨fun _ => rfl, fun _ => le_rfl⟩

/-- Steps over other slots keep the record of a provider. -/
theorem SameSlots.keeps {st : Store} {provider : Str} (h : SameSlots st w.store provider)
    (hk : StageKeeps stage names w w') (hn : provider ∉ names) :
    SameSlots st w'.store provider where
  slot s := (hk.slots s provider (.inr hn)).trans (h.slot s)
  retries s := (hk.retries s provider (.inr hn)).trans (h.retries s)

/-- What is reported of a slot holds wherever the slot is the same. -/
theorem SlotFailure.congr {strict : Prop} {st st' : Store} {provider : Str} {error : Dict}
    (h : SlotFailure stage strict st provider error)
    (hslot : st'.slot stage provider = st.slot stage provider) :
    SlotFailure stage strict st' provider error :=
  ⟨by rw [hslot]; exact h.closed, by rw [hslot]; exact h.reports⟩

/-- What a loop over slots has made of its list: results, and the slots that are left. -/
structure Sorted (args : StageArgs) (strict : Prop) (st : Store) (l : List (Str × PromptPair))
    (result : StageResult) (work : List (Str × PromptPair)) (w : World) : Prop where
  providers : (result.providers ++ work.map Prod.fst).Perm (l.map Prod.fst)
  result : ResultOk args.stage strict w.store result
  sublist : work.Sublist l
  same : ∀ e ∈ work, SameSlots st w.store e.1

namespace Sorted

variable {args : StageArgs} {strict : Prop} {st : Store} {l : List (Str × PromptPair)}
  {result : StageResult} {work : List (Str × PromptPair)} {e : Str × PromptPair}

/-- Of no slots, nothing has to be sorted. -/
theorem nil : Sorted args strict st [] {} [] w where
  providers := by simp [StageResult.providers]
  result := .empty
  sublist := .slnil
  same := by simp

/-- The first slot is left as work. -/
theorem work_cons (h : Sorted args strict st l result work w)
    (hsame : SameSlots st w.store e.1) :
    Sorted args strict st (e :: l) result (e :: work) w where
  providers := by
    rw [List.map_cons, List.map_cons]
    exact List.perm_middle.trans (.cons _ h.providers)
  result := h.result
  sublist := h.sublist.cons_cons e
  same := List.forall_mem_cons.2 ⟨hsame, h.same⟩

/-- The first slot is reported as a success. -/
theorem success_cons (h : Sorted args strict st l result work w) {response : ProviderResponse}
    (hs : SlotSuccess args.stage w.store e.1 response) :
    Sorted args strict st (e :: l)
      { result with successes := (e.1, response) :: result.successes } work w where
  providers := by
    rw [List.map_cons]
    exact .cons _ h.providers
  result := ⟨List.forall_mem_cons.2 ⟨hs, h.result.successes⟩, h.result.failures⟩
  sublist := h.sublist.cons e
  same := h.same

/-- The first slot is reported as a failure. -/
theorem failure_cons (h : Sorted args strict st l result work w) {error : Dict}
    (hs : SlotFailure args.stage strict w.store e.1 error) {recoveries : List Dict} :
    Sorted args strict st (e :: l) ⟨result.successes, (e.1, error) :: result.failures, recoveries⟩
      work w where
  providers := by
    have hmid : (StageResult.providers
        ⟨result.successes, (e.1, error) :: result.failures, recoveries⟩).Perm
        (e.1 :: result.providers) := List.perm_middle
    exact (hmid.append_right _).trans (.cons _ h.providers)
  result := ⟨h.result.successes, List.forall_mem_cons.2 ⟨hs, h.result.failures⟩⟩
  sublist := h.sublist.cons e
  same := h.same

end Sorted

/-- The names after the first one do not contain it. -/
theorem notMem_rest {e : Str × PromptPair} {l : List (Str × PromptPair)}
    (h : ((e :: l).map Prod.fst).Nodup) : e.1 ∉ l.map Prod.fst ∧ (l.map Prod.fst).Nodup := by
  rw [List.map_cons, List.nodup_cons] at h
  exact h

/-- **Selecting**: everything that is not work is reported as its slot has it. -/
theorem selectSlots_spec {policy : RunPolicy} {args : StageArgs} {st : Store}
    (hwf : st.WellFormed) (hstop : st.Stopped) (l : List (Str × PromptPair)) :
    ∀ w, Inv rt spec w → (l.map Prod.fst).Nodup → l ⊆ args.prompts →
      (∀ e ∈ l, SameSlots st w.store e.1) →
      Prog.wp (stageRules rt spec args.stage (l.map Prod.fst))
        (fun x w' => Sorted args (StrictPass policy args st) st l x.1 x.2 w' ∧
          ∀ e ∈ x.2, WorkSlot policy args st e.1)
        (fun _ _ => True) (selectSlots rt policy args st l) w := by
  induction l with
  | nil => exact fun w _ _ _ _ => ⟨.nil, by simp⟩
  | cons e l ih =>
    obtain ⟨name, prompts⟩ := e
    intro w hinv hnd hsub hsame
    obtain ⟨hname, hnd⟩ := notMem_rest hnd
    obtain ⟨hsame₀, hsame⟩ := List.forall_mem_cons.1 hsame
    obtain ⟨hmem, hsub⟩ := List.cons_subset.1 hsub
    have hrest : ∀ w', Inv rt spec w' → (∀ e ∈ l, SameSlots st w'.store e.1) →
        Prog.wp (stageRules rt spec args.stage (((name, prompts) :: l).map Prod.fst))
          (fun x w'' => (Inv rt spec w'' ∧ StageKeeps args.stage (l.map Prod.fst) w' w'') ∧
            Sorted args (StrictPass policy args st) st l x.1 x.2 w'' ∧
            ∀ e ∈ x.2, WorkSlot policy args st e.1)
          (fun _ _ => True) (selectSlots rt policy args st l) w' := fun w' hinv' hsame' =>
      wp_names (List.subset_cons_self _ _) (wp_framed hinv' (ih w' hinv' hnd hsub hsame'))
    have hsel := selectSlot_spec policy args hwf hstop name
    unfold selectSlots
    cases hslot : selectSlot policy args st name with
    | succeeded response =>
      simp only [hslot] at hsel
      refine Prog.wp_seq (hrest w hinv hsame) ?_
      rintro ⟨result, work⟩ w' ⟨⟨-, hk⟩, hsorted, hwork⟩
      refine ⟨hsorted.success_cons ⟨⟨response, ?_, rfl⟩, hsel.2⟩, hwork⟩
      have := hsel.1
      rw [Store.successful_eq_some] at this ⊢
      obtain ⟨r, hr, hstate⟩ := this
      exact ⟨r, by rw [hk.slots _ _ (.inr hname), hsame₀.slot, hr], hstate⟩
    | failed error =>
      simp only [hslot] at hsel
      refine Prog.wp_seq (hrest w hinv hsame) ?_
      rintro ⟨result, work⟩ w' ⟨⟨-, hk⟩, hsorted, hwork⟩
      refine ⟨hsorted.failure_cons ((hsel ⟨prompts, hmem⟩).congr ?_), hwork⟩
      rw [hk.slots _ _ (.inr hname), hsame₀.slot]
    | settle id =>
      simp only [hslot] at hsel
      obtain ⟨r, hr, rfl, hrun⟩ := hsel
      have hr' : w.store.slot args.stage name = some r := by rw [hsame₀.slot, hr]
      obtain ⟨hrmem, hstage, hprovider⟩ := hinv.wellFormed.slot_eq_some.1 hr'
      rw [Prog.wp_bind, wp_transact]
      refine ⟨fun st' hst' => ?_, fun _ _ => trivial⟩
      obtain ⟨r', hget, hcase⟩ := Store.finishInvocationFailure_ok hst'
      obtain ⟨hrmem', hid⟩ := Store.mem_of_getInvocation hget
      obtain rfl := hinv.wellFormed.ids.eq hrmem' hrmem hid
      rcases hcase with ⟨-, rfl⟩ | ⟨prior, hprior, -⟩
      · have hstep : StageStep rt spec args.stage [name] w (w.withStore
            (w.store.updateInvocation r'.id (Store.setState (.failed priorAmbiguousError)))) :=
          .fail w r' priorAmbiguousError hrmem (by simp [hprovider]) hstage hrun (.inr rfl)
            (Store.finishInvocationFailure_encodes hst')
        have hk := hstep.keeps hinv.wellFormed
        refine ⟨hstep.mono (by simp), ?_⟩
        have hinv' := (EngineStep.keeps hinv (.stage _ _ _ _ hstep)).1
        have hsame' : ∀ e ∈ l, SameSlots st (w.withStore (w.store.updateInvocation r'.id
            (Store.setState (.failed priorAmbiguousError)))).store e.1 := fun e he =>
          (hsame e he).keeps hk fun hn => hname
            (List.mem_singleton.1 hn ▸ List.mem_map.2 ⟨e, he, rfl⟩)
        refine Prog.wp_seq (hrest _ hinv' hsame') ?_
        rintro ⟨result, work⟩ w' ⟨⟨-, hk'⟩, hsorted, hwork⟩
        refine ⟨hsorted.failure_cons (slotFailure_stored (r := Store.setState
          (.failed priorAmbiguousError) r') ?_ rfl (reports_self _)), hwork⟩
        rw [hk'.slots _ _ (.inr hname), World.withStore_store,
          hinv.wellFormed.slot_update (Store.keepsKeys_setState _) hrmem,
          if_pos (by rw [Invocation.slot, hstage, hprovider])]
      · rw [hrun] at hprior
        cases hprior
    | work =>
      simp only [hslot] at hsel
      refine Prog.wp_seq (hrest w hinv hsame) ?_
      rintro ⟨result, work⟩ w' ⟨⟨-, hk⟩, hsorted, hwork⟩
      exact ⟨hsorted.work_cons (hsame₀.keeps hk hname), List.forall_mem_cons.2 ⟨hsel, hwork⟩⟩

/-! ### Work that is not called -/

/-- Work that is given up keeps the error of its row. -/
theorem WorkSlot.prior {policy : RunPolicy} {args : StageArgs} {strict : Prop} {st : Store}
    {provider : Str} (h : WorkSlot policy args st provider) (e : ProviderError) :
    SlotFailure args.stage strict st provider
      ((priorError (st.slot args.stage provider)).getD e.toDict) := by
  cases hslot : st.slot args.stage provider with
  | none => exact slotFailure_none hslot (reports_self e)
  | some r =>
    obtain ⟨prior, hstate, -⟩ := h.free r hslot
    have hprior : priorError (some r) = some prior.stored := by simp [priorError, hstate]
    rw [hprior]
    exact slotFailure_stored hslot hstate (reports_stored prior)

/-- Work with a row is given another error only in a pass that is not strict. -/
theorem WorkSlot.lax {policy : RunPolicy} {args : StageArgs} {strict : Prop} {st : Store}
    {provider : Str} (h : WorkSlot policy args st provider)
    (hstrict : strict → st.slot args.stage provider = none)
    (e : ProviderError) : SlotFailure args.stage strict st provider e.toDict := by
  cases hslot : st.slot args.stage provider with
  | none => exact slotFailure_none hslot (reports_self e)
  | some r =>
    obtain ⟨prior, hstate, -⟩ := h.free r hslot
    exact slotFailure_lax hslot hstate (fun hs => by simp [hstrict hs] at hslot) (reports_self e)

/-- **The deadline**: all work is given up. -/
theorem expiredWork_ok {policy : RunPolicy} {args : StageArgs} {strict : Prop} {st : Store}
    {work : List (Str × PromptPair)} (hwork : ∀ e ∈ work, WorkSlot policy args st e.1)
    (hsame : ∀ e ∈ work, SameSlots st w.store e.1) :
    ResultOk args.stage strict w.store (expiredWork args st work) where
  successes := by simp [expiredWork]
  failures f hf := by
    obtain ⟨e, he, rfl⟩ := List.mem_map.1 hf
    exact ((hwork e he).prior deadlineError).congr ((hsame e he).slot _)

/-- Every slot that is left when the deadline has passed is reported as expired. -/
theorem expiredWork_providers (args : StageArgs) (st : Store) (work : List (Str × PromptPair)) :
    (expiredWork args st work).providers = work.map Prod.fst := by
  simp [StageResult.providers, expiredWork]

/-- **The prompt limit**: a prompt is refused only when it is too long. -/
theorem limitPrompts_spec {policy : RunPolicy} {args : StageArgs} {st : Store}
    (hpolicy : spec.config.policy = policy) (l : List (Str × PromptPair)) :
    ∀ w, (∀ e ∈ l, WorkSlot policy args st e.1) → (∀ e ∈ l, SameSlots st w.store e.1) →
      l ⊆ args.prompts →
      (∀ e ∈ l, w.store.expectedPrompts rt spec args.stage e.1 = some e.2) →
      Prog.wp (stageRules rt spec args.stage [])
        (fun x w' => w'.store = w.store ∧
          Sorted args (StrictPass policy args st) st l x.1 x.2 w' ∧
          ∀ e ∈ x.2, fitsLimit policy e.2 = true)
        (fun _ _ => True) (limitPrompts policy args l) w := by
  induction l with
  | nil => exact fun w _ _ _ _ => ⟨rfl, .nil, by simp⟩
  | cons e l ih =>
    obtain ⟨name, prompts⟩ := e
    intro w hwork hsame hsub hexp
    obtain ⟨hwork₀, hwork⟩ := List.forall_mem_cons.1 hwork
    obtain ⟨hsame₀, hsame⟩ := List.forall_mem_cons.1 hsame
    obtain ⟨hmem, hsub⟩ := List.cons_subset.1 hsub
    obtain ⟨hexp₀, hexp⟩ := List.forall_mem_cons.1 hexp
    unfold limitPrompts
    by_cases hfits : fitsLimit policy prompts = true
    · rw [if_pos hfits]
      refine Prog.wp_seq (ih w hwork hsame hsub hexp) ?_
      rintro ⟨result, work⟩ w' ⟨hst, hsorted, hall⟩
      exact ⟨hst, hsorted.work_cons (by rw [hst]; exact hsame₀),
        List.forall_mem_cons.2 ⟨hfits, hall⟩⟩
    · rw [if_neg hfits, Prog.wp_bind, wp_emit]
      refine ⟨.act w (.overLimit args.stage name) ⟨rfl, prompts, hexp₀, ?_⟩ nofun, ?_⟩
      · rw [hpolicy]
        simpa using hfits
      refine Prog.wp_seq (ih _ hwork hsame hsub hexp) ?_
      rintro ⟨result, work⟩ w' ⟨hst, hsorted, hall⟩
      refine ⟨hst, hsorted.failure_cons ?_, hall⟩
      rw [hst]
      refine (hwork₀.lax ?_ (overLimitError policy prompts)).congr (hsame₀.slot _)
      rintro (hretry | hall)
      · cases hslot : st.slot args.stage name with
        | none => rfl
        | some r =>
          obtain ⟨-, -, h⟩ := hwork₀.free r hslot
          rw [hretry] at h
          cases h
      · exact absurd (hall _ hmem).2.2 hfits

/-- The error of a truncated slot is on record. -/
theorem priorError_isSome {prior : Option Invocation} (h : isLengthFailure prior = true) :
    ∃ error, priorError prior = some error := by
  unfold isLengthFailure at h
  split at h
  · rename_i r
    split at h
    · rename_i e he
      exact ⟨e.stored, by simp [priorError, he]⟩
    · cases h
    · cases h
  · cases h

/-- **The denials**: denied work is given up, the denial of a retry is recorded. -/
theorem denySlots_spec {config : RunConfig} {policy : RunPolicy} {args : StageArgs}
    (strict : Prop) {st : Store}
    {reserved : List Str} (l : List Str) :
    ∀ w, Inv rt spec w → (∀ name ∈ l, WorkSlot policy args st name ∧ SameSlots st w.store name) →
      Prog.wp (stageRules rt spec args.stage [])
        (fun x w' => w'.store.countCalls = w.store.countCalls ∧ x.successes = [] ∧
          x.failures.map Prod.fst = l ∧ ResultOk args.stage strict w'.store x)
        (fun _ _ => True) (denySlots rt config args st reserved l) w := by
  induction l with
  | nil => exact fun w _ _ => ⟨rfl, rfl, rfl, .empty⟩
  | cons name l ih =>
    intro w hinv hwork
    obtain ⟨⟨hwork₀, hsame₀⟩, hwork⟩ := List.forall_mem_cons.1 hwork
    -- the rest of the loop leaves the first slot alone
    have hrest : ∀ w', Inv rt spec w' → StageKeeps args.stage [] w w' →
        Prog.wp (stageRules rt spec args.stage [])
          (fun x w'' => SameSlots st w''.store name ∧
            w''.store.countCalls = w'.store.countCalls ∧ x.successes = [] ∧
            x.failures.map Prod.fst = l ∧ ResultOk args.stage strict w''.store x)
          (fun _ _ => True) (denySlots rt config args st reserved l) w' := fun w' hinv' hk =>
      Prog.wp_mono (fun _ _ h => ⟨(hsame₀.keeps hk (by simp)).keeps h.1.2 (by simp), h.2⟩)
        (fun _ _ _ => trivial)
        (wp_framed hinv' (ih w' hinv' fun n hn =>
          ⟨(hwork n hn).1, (hwork n hn).2.keeps hk (by simp)⟩))
    unfold denySlots
    by_cases hlen : isLengthFailure (st.slot args.stage name) = true
    · rw [if_pos hlen, Prog.wp_bind, wp_transact]
      refine ⟨fun st' hst' => ?_, fun _ _ => trivial⟩
      have hprinted := Store.appendEvent_dumpable hst'
      obtain rfl := Store.appendEvent_ok hst'
      have hstep : StageStep rt spec args.stage [] w _ := .audit w .truncationRecovery
        (Dict.canon (deniedRecovery config args st (decide (name ∈ reserved)) name)) rfl hprinted
      refine ⟨hstep, Prog.wp_seq (hrest _ (EngineStep.keeps hinv (.stage _ _ _ _ hstep)).1
        (hstep.keeps hinv.wellFormed)) ?_⟩
      rintro result w' ⟨hsame, hcalls, hsucc, hfail, hok⟩
      refine ⟨hcalls, hsucc, congrArg _ hfail, hok.successes,
        List.forall_mem_cons.2 ⟨?_, hok.failures⟩⟩
      obtain ⟨error, herror⟩ := priorError_isSome hlen
      have hprior : SlotFailure args.stage strict w'.store name _ :=
        (hwork₀.prior deadlineError).congr (hsame.slot _)
      rw [herror] at hprior ⊢
      exact hprior
    · rw [if_neg hlen]
      refine Prog.wp_seq (hrest w hinv (.refl hinv.wellFormed)) ?_
      rintro result w' ⟨hsame, hcalls, hsucc, hfail, hok⟩
      exact ⟨hcalls, hsucc, congrArg _ hfail, hok.successes,
        List.forall_mem_cons.2 ⟨(hwork₀.prior _).congr (hsame.slot _), hok.failures⟩⟩

/-! ### The call budget -/

/-- While a slot of the current phase is open, no synthesis has succeeded. -/
theorem synthesisResultExists_eq_false (hinv : Inv rt spec w) {provider : Str}
    (hphase : w.store.InPhase rt spec stage provider)
    (hfree : ∀ r, w.store.slot stage provider = some r → ∃ e, r.state = .failed e) :
    synthesisResultExists spec.config w.store = false := by
  unfold synthesisResultExists
  rw [List.any_eq_false]
  intro name hname hsome
  obtain ⟨response, hsucc⟩ := Option.isSome_iff_exists.1 hsome
  obtain ⟨r, hslot, hstate⟩ := Store.successful_eq_some.1 hsucc
  obtain ⟨hadj, hreached⟩ := hinv.chain.reached name r hslot
  have hnone : stage ≠ .synthesis → w.store.adjudication? rt spec = none := by
    intro hs
    cases stage with
    | proposal => exact adjudication?_eq_none_of_namespace (namespace?_eq_none hphase)
    | jury => exact adjudication?_eq_none hphase.2
    | juryRepair => exact adjudication?_eq_none hphase.2
    | synthesis => exact absurd rfl hs
  by_cases hs : stage = .synthesis
  · subst hs
    rw [List.take_add_one, List.mem_append] at hreached
    rcases hreached with hleft | hcurrent
    · obtain ⟨i, hi, rfl⟩ := List.mem_take_iff_getElem.1 hleft
      have hi' : i < (fallbackEvents w.store.events).length := by omega
      obtain ⟨a, b, error, ha, -, -, hf⟩ :=
        hinv.chain.transitions i _ (List.getElem?_eq_getElem hi')
      rw [List.getElem?_eq_getElem (by omega), Option.some.injEq] at ha
      rw [ha] at hslot
      rw [hf r hslot] at hstate
      cases hstate
    · have hp := hphase.2
      rw [Option.mem_toList] at hcurrent
      rw [hcurrent, Option.some.injEq] at hp
      subst hp
      obtain ⟨e, he⟩ := hfree r hslot
      rw [he] at hstate
      cases hstate
  · rw [hnone hs] at hadj
    cases hadj

/-- The least of a list is no greater than any of its members and than the start. -/
theorem foldl_min_le (l : List ℕ) : ∀ m, (∀ a ∈ l, l.foldl min m ≤ a) ∧ l.foldl min m ≤ m := by
  induction l with
  | nil => simp
  | cons b l ih =>
    intro m
    obtain ⟨hall, hm⟩ := ih (min m b)
    rw [List.foldl_cons]
    exact ⟨List.forall_mem_cons.2 ⟨hm.trans (min_le_right _ _), hall⟩,
      hm.trans (min_le_left _ _)⟩

/-- **The reserve of a stage covers the reserve of each of its calls.** -/
theorem callReserve_le {config : RunConfig} {st : Store}
    (hnone : synthesisResultExists config st = false) {workNames : List Str} {provider : Str}
    (hmem : provider ∈ workNames) :
    callReserve config stage provider ≤ downstreamCallReserve config st stage workNames := by
  unfold downstreamCallReserve callReserve
  rw [if_neg (by simp [hnone])]
  cases stage with
  | proposal => exact le_rfl
  | jury => exact le_rfl
  | juryRepair => exact le_rfl
  | synthesis =>
    dsimp only
    by_cases hchain : provider ∈ config.synthesisProviders
    · have hidx : config.synthesisProviders.idxOf provider ∈
          (workNames.filter (· ∈ config.synthesisProviders)).map config.synthesisProviders.idxOf :=
        List.mem_map.2 ⟨provider, List.mem_filter.2 ⟨hmem, by simpa using hchain⟩, rfl⟩
      split
      · rename_i hnil
        rw [hnil] at hidx
        cases hidx
      · rename_i position positions hpos
        rw [hpos] at hidx
        have hle := foldl_min_le positions position
        have : positions.foldl min position ≤ config.synthesisProviders.idxOf provider := by
          rcases List.mem_cons.1 hidx with h | h
          · rw [h]
            exact hle.2
          · exact hle.1 _ h
        omega
    · rw [List.idxOf_eq_length hchain]
      omega

/-- The admitted calls and the reserve are within the budget. -/
theorem capacity_ok {config : RunConfig} {st : Store} {reserve : ℕ}
    {work : List (Str × PromptPair)}
    (hne : work.take (remainingCalls config st - reserve) ≠ []) :
    (st.countCalls : ℤ) + (work.take (remainingCalls config st - reserve)).length + reserve ≤
      config.policy.maxCalls := by
  have hpos : 0 < remainingCalls config st - reserve := by
    rw [Nat.pos_iff_ne_zero]
    intro hz
    rw [hz, List.take_zero] at hne
    exact hne rfl
  have hlen : (work.take (remainingCalls config st - reserve)).length ≤
      remainingCalls config st - reserve := List.length_take_le _ _
  unfold remainingCalls at *
  omega

end CouncilLogic
