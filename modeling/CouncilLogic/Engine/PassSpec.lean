/-
# A whole stage

`_run_parallel_stage` sorts its slots step by step into results: what the record of the
slot says, what the deadline, the prompt limit and the budget exclude, what the calls
come to, and, in a second pass, what comes of asking again for a response that was
truncated.  `Done` says how far it has got; at the end every provider of the stage has
exactly one result, and the result is what its slot has stored.

The method is `CouncilEngine._run_parallel_stage` in `src/model_council/engine.py`, from its first
line to its `return`.  `StageSpec` has what comes before the thread pool and `PoolSpec` the pool;
this module puts them together, and `StageKeeps` and `ResultOk` are all that the phases of a
resume need to know of a stage.
-/

import CouncilLogic.Engine.PoolSpec

namespace CouncilLogic

open Protocol

variable {rt : Runtime} {spec : RunSpec} {w w' : World} {args : StageArgs} {strict : Prop}
  {names rest rest' : List Str} {result more : StageResult}

/-! ### Results so far -/

/-- The results so far; `rest` are the providers without one. -/
structure Done (args : StageArgs) (strict : Prop) (names : List Str) (result : StageResult)
    (rest : List Str) (w : World) : Prop where
  providers : (result.providers ++ rest).Perm names
  result : ResultOk args.stage strict w.store result

/-- A stage whose slots are sorted before its pool starts has nothing done yet but what the
sorting itself has reported. -/
theorem Sorted.done {st : Store} {l work : List (Str × PromptPair)}
    (h : Sorted args strict st l result work w) :
    Done args strict (l.map Prod.fst) result (work.map Prod.fst) w :=
  ⟨h.providers, h.result⟩

/-- More results, in place of some of the rest. -/
theorem Done.add (h : Done args strict names result rest w)
    (hrest : rest.Perm (more.providers ++ rest'))
    (hmore : ResultOk args.stage strict w.store more) :
    Done args strict names (result.append more) rest' w where
  providers := by
    refine .trans (.append_right _ (StageResult.providers_append _ _)) ?_
    rw [List.append_assoc]
    exact .trans (.append_left _ hrest.symm) h.providers
  result := h.result.append hmore

/-- Steps over the rest keep the results. -/
theorem Done.keeps (h : Done args strict names result rest w) (hnd : names.Nodup)
    (hk : StageKeeps args.stage rest' w w') (hsub : rest' ⊆ rest) :
    Done args strict names result rest w' where
  providers := h.providers
  result := h.result.keeps hk fun f hf hn => by
    have := (List.nodup_append.1 (h.providers.nodup_iff.2 hnd)).2.2
    exact this _ (List.mem_append_right _ (List.mem_map_of_mem hf)) _ (hsub hn) rfl

/-- The store has not changed. -/
theorem Done.congr (h : Done args strict names result rest w) (hst : w'.store = w.store) :
    Done args strict names result rest w' :=
  ⟨h.providers, hst ▸ h.result⟩

/-! ### One pass -/

/-- What a stage is called with. -/
structure StagePre (rt : Runtime) (spec : RunSpec) (args : StageArgs) (w : World) : Prop where
  inv : Inv rt spec w
  nodup : (args.prompts.map Prod.fst).Nodup
  known : ∀ e ∈ args.prompts, e.1 ∈ spec.config.names
  prompts : ∀ e ∈ args.prompts,
    w.store.expectedPrompts rt spec args.stage e.1 = some e.2
  phase : ∀ e ∈ args.prompts, WorkSlot spec.config.policy args w.store e.1 →
    w.store.InPhase rt spec args.stage e.1
  settings : args.providerStage = args.stage.providerStage
  repair : args.stage = .juryRepair →
    args.retryFailedInvocations = false ∧ args.allowTruncationRecovery = false
  overrides : ∀ e ∈ args.prompts, ∀ limit, args.outputOverrides.lookup e.1 = some limit →
    limit = recoveryLimit spec.config.policy (configuredLimit spec.config args e.1) ∧
      isLengthFailure (w.store.slot args.stage e.1) = true

/-- A truncated response a pass leaves to the next one. -/
structure Again (rt : Runtime) (spec : RunSpec) (args : StageArgs) (w : World) (r : Recoverable) :
    Prop where
  may : MayRetry spec.config args w args.prompts r
  quiet : w.store.Quiet r.provider
  phase : w.store.InPhase rt spec args.stage r.provider
  fits : fitsLimit spec.config.policy r.prompts = true

/-- What a pass returns. -/
structure PassOk (rt : Runtime) (spec : RunSpec) (args : StageArgs) (strict : Prop)
    (result : StageResult) (recoverable : List Recoverable) (w : World) : Prop where
  done : Done args strict (args.prompts.map Prod.fst) result
    (recoverable.map Recoverable.provider) w
  again : ∀ r ∈ recoverable, Again rt spec args w r

/-- A provider that was quiet before its call is quiet after a failure that is not
ambiguous. -/
theorem quiet_of_failed {policy : RunPolicy} {st : Store} {provider : Str} {e : ProviderError}
    {row : Invocation} (hwork : WorkSlot policy args st provider)
    (hk : ∀ s, s ≠ args.stage → w.store.slot s provider = st.slot s provider)
    (hslot : w.store.slot args.stage provider = some row) (hstate : row.state = .failed e)
    (hamb : e.ambiguous = false) : w.store.Quiet provider := by
  intro s r hr
  by_cases hs : s = args.stage
  · subst hs
    rw [hslot] at hr
    cases hr
    exact ⟨by rw [hstate]; simp, by rw [failedAmbiguous_eq hstate, hamb]⟩
  · rw [hk s hs] at hr
    exact hwork.quiet s r hr

/-- The end of a pass without calls. -/
theorem passOk_of_done (h : Done args strict (args.prompts.map Prod.fst) result [] w) :
    PassOk rt spec args strict result [] w :=
  ⟨h, by simp⟩

/-- What is known of work is known of it wherever its slot is the same. -/
theorem StagePre.admitted (h : StagePre rt spec args w) {e : Str × PromptPair}
    (he : e ∈ args.prompts) (hwork : WorkSlot spec.config.policy args w.store e.1)
    (hsame : SameSlots w.store w'.store e.1) (hk : StageKeeps args.stage names w w') :
    Admitted rt spec args w.store w' e where
  work := hwork
  limit := by
    unfold LimitOk outputLimitOf stageLimit
    dsimp only
    cases hover : args.outputOverrides.lookup e.1 with
    | some limit =>
      obtain ⟨hlimit, hlen⟩ := h.overrides e he limit hover
      exact .inr ⟨hlen, hlimit⟩
    | none =>
      by_cases hlen : isLengthFailure (w.store.slot args.stage e.1) = true
      · rw [if_pos hlen]
        exact .inr ⟨hlen, rfl⟩
      · rw [if_neg hlen]
        exact .inl rfl
  settings := h.settings
  repair hrepair := (h.repair hrepair).1
  same := hsame
  known := h.known e he
  prompts := hk.extends_.expectedPrompts h.inv.complete (h.prompts e he)
  phase := inPhase_congr hk.locks (h.phase e he hwork)

/-- Work that is called within the budget: what the executor is given. -/
structure WithinBudget (rt : Runtime) (spec : RunSpec) (args : StageArgs) (st : Store)
    (allowed : List (Str × PromptPair)) (reserve : ℕ) (w : World) : Prop where
  inv : Inv rt spec w
  nodup : (allowed.map Prod.fst).Nodup
  admitted : ∀ e ∈ allowed, Admitted rt spec args st w e
  reserved : ∀ e ∈ allowed, callReserve spec.config args.stage e.1 ≤ reserve
  budget : (w.store.countCalls : ℤ) + allowed.length + reserve ≤ spec.config.policy.maxCalls

section Budget
variable {w₁ : World} {work : List (Str × PromptPair)}

/-- The slots that are denied a call. -/
theorem denied_ok {st : Store} {capacity : ℕ}
    (hwork : ∀ e ∈ work, WorkSlot spec.config.policy args st e.1)
    (hsame : ∀ e ∈ work, SameSlots st w'.store e.1) :
    ∀ name ∈ (work.drop capacity).map Prod.fst,
      WorkSlot spec.config.policy args st name ∧ SameSlots st w'.store name := by
  intro name hname
  obtain ⟨e, he, rfl⟩ := List.mem_map.1 hname
  exact ⟨hwork e (List.mem_of_mem_drop he), hsame e (List.mem_of_mem_drop he)⟩

/-- **The calls of a pass** and the reserve are within the budget, after the denials. -/
theorem StagePre.withinBudget (h : StagePre rt spec args w) (hinv : Inv rt spec w')
    (hk : StageKeeps args.stage (args.prompts.map Prod.fst) w w')
    (hsub : work.Sublist args.prompts)
    (hwork : ∀ e ∈ work, WorkSlot spec.config.policy args w.store e.1)
    (hsame : ∀ e ∈ work, SameSlots w.store w'.store e.1) (hinv₁ : Inv rt spec w₁)
    (hk₁ : StageKeeps args.stage [] w' w₁) (hcalls : w₁.store.countCalls = w'.store.countCalls)
    {reserve capacity : ℕ}
    (hreserve : downstreamCallReserve spec.config w'.store args.stage (work.map Prod.fst) = reserve)
    (hcapacity : remainingCalls spec.config w'.store - reserve = capacity)
    (hne : work.take capacity ≠ []) :
    WithinBudget rt spec args w.store (work.take capacity) reserve w₁ := by
  have hsub' : (work.take capacity).Sublist args.prompts := (List.take_sublist _ _).trans hsub
  refine ⟨hinv₁, h.nodup.sublist (hsub'.map _), fun e he => ?_, fun e he => ?_, ?_⟩
  · exact h.admitted (hsub.subset (List.mem_of_mem_take he)) (hwork e (List.mem_of_mem_take he))
      ((hsame e (List.mem_of_mem_take he)).keeps hk₁ (by simp)) (hk.trans (hk₁.mono (by simp)))
  · have hwork' := hwork e (List.mem_of_mem_take he)
    have hphase := inPhase_congr hk.locks (h.phase e (hsub'.subset he) hwork')
    have hnone := synthesisResultExists_eq_false hinv hphase fun r hr => by
      rw [(hsame e (List.mem_of_mem_take he)).slot] at hr
      obtain ⟨error, herror, -⟩ := hwork'.free r hr
      exact ⟨error, herror⟩
    rw [← hreserve]
    exact callReserve_le hnone (List.mem_map_of_mem (List.mem_of_mem_take he))
  · rw [hcalls, ← hcapacity]
    exact capacity_ok (by rw [hcapacity]; exact hne)

end Budget

/-- **The calls of a pass**: they and the reserve are within the budget. -/
theorem callWithinBudget_spec {eng : CouncilEngine} (heng : eng.toRunConfig = spec.config)
    (h : StagePre rt spec args w) {before : StageResult} {work : List (Str × PromptPair)}
    (hinv : Inv rt spec w') (hk : StageKeeps args.stage (args.prompts.map Prod.fst) w w')
    (hdone : Done args strict (args.prompts.map Prod.fst) before (work.map Prod.fst) w')
    (hsub : work.Sublist args.prompts)
    (hwork : ∀ e ∈ work, WorkSlot spec.config.policy args w.store e.1)
    (hsame : ∀ e ∈ work, SameSlots w.store w'.store e.1)
    (hfits : ∀ e ∈ work, fitsLimit spec.config.policy e.2 = true) :
    Prog.wp (stageRules rt spec args.stage (args.prompts.map Prod.fst))
      (fun x w'' => PassOk rt spec args strict x.1 x.2 w'')
      (fun _ _ => True) (callWithinBudget rt eng args w.store before work) w' := by
  unfold callWithinBudget
  rw [Prog.wp_bind, wp_getStore, heng]
  dsimp only
  generalize hreserve : downstreamCallReserve spec.config w'.store args.stage
    (work.map Prod.fst) = reserve
  generalize hcapacity : remainingCalls spec.config w'.store - reserve = capacity
  refine Prog.wp_seq (wp_names (List.nil_subset _)
    (wp_framed hinv (denySlots_spec strict _ w' hinv (denied_ok hwork hsame)))) ?_
  rintro refused w₁ ⟨⟨hinv₁, hk₁⟩, hcalls, hsucc, hfail, hok⟩
  have hnd := h.nodup
  have hrest : (work.map Prod.fst).Perm
      (refused.providers ++ (work.take capacity).map Prod.fst) := by
    unfold StageResult.providers
    rw [hsucc, hfail, List.map_nil, List.nil_append, ← List.map_append]
    exact (List.perm_append_comm.trans (.of_eq (List.take_append_drop capacity work))).symm.map _
  have hdone₁ := (hdone.keeps hnd hk₁ (List.nil_subset _)).add hrest hok
  by_cases hnil : work.take capacity = []
  · rw [if_pos hnil]
    rw [hnil] at hdone₁
    exact passOk_of_done hdone₁
  rw [if_neg hnil]
  -- the admitted calls
  have hbudget := h.withinBudget hinv hk hsub hwork hsame hinv₁ hk₁ hcalls hreserve hcapacity hnil
  have hsub' : (work.take capacity).Sublist args.prompts := (List.take_sublist _ _).trans hsub
  refine Prog.wp_seq (wp_names (hsub'.map _).subset (wp_framed hinv₁
    (executeCalls_spec heng strict hinv₁ hbudget.nodup hbudget.admitted hbudget.reserved
      hbudget.budget))) ?_
  rintro ⟨executed, recoverable⟩ w₂ ⟨⟨hinv₂, hk₂⟩, hexec⟩
  dsimp only at hexec
  have hdone₂ := (hdone₁.keeps hnd hk₂ (List.Subset.refl _)).add hexec.providers.symm hexec.result
  show PassOk rt spec args strict ((before.append refused).append executed) recoverable w₂
  refine ⟨hdone₂, fun r hr => ?_⟩
  have hmay := hexec.recoverable r hr
  obtain ⟨row, e, hslot, hstate, hcompletion⟩ := hmay.failed
  have hmem := hmay.admitted
  have ha := hbudget.admitted _ hmem
  have hother : ∀ s, s ≠ args.stage → w₂.store.slot s r.provider = w.store.slot s r.provider :=
    fun s hs => (hk₂.slots s _ (.inl hs)).trans (ha.same.slot s)
  exact ⟨⟨hsub'.subset hmem, hmay.failed, hmay.truncated, hmay.limit, hmay.retries, hmay.allowed⟩,
    quiet_of_failed ha.work hother hslot hstate (completionError_ambiguous hcompletion),
    inPhase_congr hk₂.locks ha.phase, hfits (r.provider, r.prompts) (List.mem_of_mem_take hmem)⟩

/-- **One pass of a stage.** -/
theorem runStagePass_spec {eng : CouncilEngine} (heng : eng.toRunConfig = spec.config)
    (h : StagePre rt spec args w) :
    Prog.wp (stageRules rt spec args.stage (args.prompts.map Prod.fst))
      (fun x w' => PassOk rt spec args (StrictPass spec.config.policy args w.store) x.1 x.2 w')
      (fun _ _ => True) (runStagePass rt eng args) w := by
  unfold runStagePass
  rw [Prog.wp_bind, wp_emit]
  refine ⟨.act w (.enter args.stage args.prompts w.store) ⟨rfl, rfl, h.prompts⟩ nofun, ?_⟩
  rw [Prog.wp_bind, wp_getStore, heng]
  have hinv₁ : Inv rt spec (w.record (.enter args.stage args.prompts w.store)) := h.inv.congr rfl
  have hk₁ : StageKeeps args.stage (args.prompts.map Prod.fst) w
      (w.record (.enter args.stage args.prompts w.store)) :=
    { StageKeeps.refl hinv₁.wellFormed with
      actions := fun _ _ _ => actionsOf_record_of_not rfl }
  refine Prog.wp_seq (wp_framed hinv₁ (selectSlots_spec h.inv.wellFormed h.inv.stopped args.prompts
    _ hinv₁ h.nodup (List.Subset.refl _) fun e _ => SameSlots.refl w.store e.1)) ?_
  rintro ⟨selected, work⟩ w₂ ⟨⟨hinv₂, hk₂⟩, hselected, hwork⟩
  dsimp only at hselected hwork ⊢
  by_cases hnil : work = []
  · rw [if_pos hnil]
    subst hnil
    exact passOk_of_done hselected.done
  rw [if_neg hnil, Prog.wp_bind]
  refine wp_monotonic fun elapsed => ⟨.tick w₂ elapsed, ?_⟩
  have hdone₃ := hselected.done.congr (World.tick_store w₂ elapsed)
  by_cases hdead : args.deadline ≤ (w₂.tick elapsed).now
  · rw [if_pos hdead]
    refine passOk_of_done (hdone₃.add ?_ (expiredWork_ok hwork hselected.same))
    rw [expiredWork_providers, List.append_nil]
  rw [if_neg hdead]
  have hinv₃ : Inv rt spec (w₂.tick elapsed) := hinv₂.congr rfl
  have hk₃ : StageKeeps args.stage (args.prompts.map Prod.fst) w (w₂.tick elapsed) :=
    (hk₁.trans hk₂).trans { StageKeeps.refl hinv₃.wellFormed with now := Nat.le_add_right _ _ }
  have hsub : work ⊆ args.prompts := hselected.sublist.subset
  have hprompts : ∀ e ∈ work,
      (w₂.tick elapsed).store.expectedPrompts rt spec args.stage e.1 = some e.2 := fun e he =>
    hk₃.extends_.expectedPrompts h.inv.complete (h.prompts e (hsub he))
  refine Prog.wp_seq (wp_names (List.nil_subset _) (wp_framed hinv₃
    (limitPrompts_spec rfl work _ hwork hselected.same hsub hprompts))) ?_
  rintro ⟨limited, work'⟩ w₄ ⟨⟨hinv₄, hk₄⟩, hst₄, hlimited, hfits⟩
  dsimp only at hlimited hfits ⊢
  have hdone₄ := (hdone₃.congr hst₄).add hlimited.providers.symm hlimited.result
  by_cases hnil' : work' = []
  · rw [if_pos hnil']
    subst hnil'
    exact passOk_of_done hdone₄
  rw [if_neg hnil']
  exact callWithinBudget_spec heng h hinv₄ (hk₃.trans (hk₄.mono (List.nil_subset _))) hdone₄
    (hlimited.sublist.trans hselected.sublist)
    (fun e he => hwork e (hlimited.sublist.subset he)) hlimited.same hfits

/-! ### The second pass -/

/-- What is reported under one condition is reported under a stronger one. -/
theorem ResultOk.imp {stage : Stage} {st : Store} {strict' : Prop}
    (h : ResultOk stage strict st result) (hs : strict' → strict) :
    ResultOk stage strict' st result where
  successes := h.successes
  failures f hf := by
    obtain ⟨hclosed, e, he, hstrict⟩ := h.failures f hf
    exact ⟨hclosed, e, he, fun hs' => hstrict (hs hs')⟩

/-- The responses in the order of the configured providers are the same ones. -/
theorem orderRecoverable_perm {config : RunConfig} {recoverable : List Recoverable}
    (hnames : config.names.Nodup) (hnd : (recoverable.map Recoverable.provider).Nodup)
    (hsub : ∀ r ∈ recoverable, r.provider ∈ config.names) :
    (orderRecoverable config recoverable).Perm recoverable := by
  have hunique : ∀ r ∈ recoverable,
      (recoverable.find? fun a => a.provider = r.provider) = some r := by
    intro r hr
    obtain ⟨a, ha⟩ := Option.isSome_iff_exists.1
      (List.find?_isSome (p := fun a : Recoverable => decide (a.provider = r.provider)).2
        ⟨r, hr, by simp⟩)
    have hp : a.provider = r.provider := by simpa using List.find?_some ha
    rw [ha, List.inj_on_of_nodup_map hnd (List.mem_of_find?_eq_some ha) hr hp]
  refine (List.perm_ext_iff_of_nodup ?_ hnd.of_map).2 fun r => ?_
  · unfold orderRecoverable
    refine hnames.filterMap fun a a' b hb hb' => ?_
    have h₁ : b.provider = a := by simpa using List.find?_some hb
    have h₂ : b.provider = a' := by simpa using List.find?_some hb'
    exact h₁.symm.trans h₂
  · unfold orderRecoverable
    rw [List.mem_filterMap]
    exact ⟨fun ⟨name, _, h⟩ => List.mem_of_find?_eq_some h,
      fun hr => ⟨r.provider, hsub r hr, hunique r hr⟩⟩

/-- A response may still be asked for again after steps over no slot. -/
theorem Again.keeps {r : Recoverable} (h : Again rt spec args w r)
    (hk : StageKeeps args.stage [] w w') : Again rt spec args w' r where
  may := {
    admitted := h.may.admitted
    failed := by
      rw [hk.slots _ _ (.inr (by simp))]
      exact h.may.failed
    truncated := by
      rw [hk.slots _ _ (.inr (by simp))]
      exact h.may.truncated
    limit := h.may.limit
    retries := (Int.ofNat_le.2 (hk.retries _ _ (.inr (by simp)))).trans_lt h.may.retries
    allowed := h.may.allowed }
  quiet s row hrow := h.quiet s row (by rwa [hk.slots _ _ (.inr (by simp))] at hrow)
  phase := inPhase_congr hk.locks h.phase
  fits := h.fits

/-- What is looked up in a list of pairs stands in it. -/
theorem mem_of_lookup {α : Type} {l : List (Str × α)} {k : Str} {v : α}
    (h : l.lookup k = some v) : (k, v) ∈ l := by
  obtain ⟨l₁, l₂, rfl, -⟩ := List.lookup_eq_some_iff.1 h
  simp

/-- **Raising the limit**: a response whose limit cannot be raised has failed. -/
theorem splitRecoverable_spec {policy : RunPolicy} (strict : Prop) (l : List Recoverable) :
    ∀ w, Inv rt spec w → (∀ r ∈ l, Again rt spec args w r) →
      Prog.wp (stageRules rt spec args.stage [])
        (fun x w' => (l.map Recoverable.provider).Perm
            (x.1.providers ++ x.2.map fun e => e.1.provider) ∧
          ResultOk args.stage strict w'.store x.1 ∧ (x.2.map Prod.fst).Sublist l ∧
          ∀ e ∈ x.2, e.2 = recoveryLimit policy e.1.outputLimit)
        (fun _ _ => True) (splitRecoverable rt policy args.stage l) w := by
  induction l with
  | nil => exact fun w _ _ => ⟨List.Perm.refl _, .empty, .slnil, by simp⟩
  | cons r l ih =>
    intro w hinv hagain
    obtain ⟨hagain₀, hagain⟩ := List.forall_mem_cons.1 hagain
    obtain ⟨row, e, hslot, hstate, hcompletion⟩ := hagain₀.may.failed
    unfold splitRecoverable
    dsimp only
    by_cases hlimit : recoveryLimit policy r.outputLimit ≤ r.outputLimit
    · rw [if_pos hlimit, hcompletion]
      dsimp only
      rw [Prog.wp_bind, wp_transact]
      refine ⟨fun st' hst' => ?_, fun _ _ => trivial⟩
      have hprinted := Store.appendEvent_dumpable hst'
      obtain rfl := Store.appendEvent_ok hst'
      have hstep : StageStep rt spec args.stage [] w _ := .audit w .truncationRecovery
        (Dict.canon (unavailableRecovery args.stage r)) rfl hprinted
      have hk := hstep.keeps hinv.wellFormed
      have hinv' := (EngineStep.keeps hinv (.stage _ _ _ _ hstep)).1
      refine ⟨hstep, Prog.wp_seq (wp_framed hinv' (ih _ hinv' fun r hr =>
        (hagain r hr).keeps hk)) ?_⟩
      rintro ⟨result, recoveries⟩ w' ⟨⟨-, hk'⟩, hperm, hok, hsub, hlimits⟩
      have hfirst : SlotFailure args.stage strict w'.store r.provider e.toDict :=
        (slotFailure_stored hslot hstate (reports_self e)).congr
          ((hk.trans hk').slots _ _ (.inr (by simp)))
      refine ⟨?_, .append ⟨by simp, by simpa using hfirst⟩ hok, hsub.cons r, hlimits⟩
      rw [List.map_cons]
      refine .trans (.cons _ hperm) (.symm ?_)
      exact .append_right _ (StageResult.providers_append _ _)
    · rw [if_neg hlimit]
      refine Prog.wp_seq (ih w hinv hagain) ?_
      rintro ⟨result, recoveries⟩ w' ⟨hperm, hok, hsub, hlimits⟩
      refine ⟨?_, hok, hsub.cons_cons r, List.forall_mem_cons.2 ⟨rfl, hlimits⟩⟩
      rw [List.map_cons, List.map_cons]
      exact (hperm.cons _).trans List.perm_middle.symm

/-- The audit of the second pass changes no slot. -/
theorem recordRecoveries_spec {stage : Stage} {nested : StageResult}
    (l : List (Recoverable × ℤ)) : ∀ w,
      Prog.wp (stageRules rt spec stage []) (fun _ _ => True) (fun _ _ => True)
        (recordRecoveries rt stage nested l) w := by
  induction l with
  | nil => exact fun w => trivial
  | cons e l ih =>
    obtain ⟨r, limit⟩ := e
    intro w
    unfold recordRecoveries
    by_cases hany : nested.recoveries.any (recoveryOf stage r.provider) = true
    · rw [if_pos hany]
      exact ih w
    · rw [if_neg hany, Prog.wp_bind, wp_getStore]
      dsimp only
      rw [Prog.wp_bind, wp_transact]
      refine ⟨fun st' hst' => ?_, fun _ _ => trivial⟩
      have hprinted := Store.appendEvent_dumpable hst'
      obtain rfl := Store.appendEvent_ok hst'
      exact ⟨.audit w .truncationRecovery _ rfl hprinted, Prog.wp_seq (ih _) fun _ _ _ => trivial⟩

/-- The arguments of the second pass. -/
def StageArgs.secondPass (args : StageArgs) (recoveries : List (Recoverable × ℤ)) : StageArgs :=
  { args with
    prompts := recoveries.map fun e => (e.1.provider, e.1.prompts)
    allowTruncationRecovery := false
    outputOverrides := recoveries.map fun e => (e.1.provider, e.2)
    retryFailedInvocations := true }

/-- The second pass is over the providers whose truncated response may be asked for again, in the
order in which they were found. -/
theorem secondPass_providers (args : StageArgs) (recoveries : List (Recoverable × ℤ)) :
    (args.secondPass recoveries).prompts.map Prod.fst = recoveries.map fun e => e.1.provider := by
  unfold StageArgs.secondPass
  dsimp only
  rw [List.map_map]
  rfl

/-- What is retried in the second pass. -/
structure Recovers (rt : Runtime) (spec : RunSpec) (args : StageArgs) (w : World)
    (recoveries : List (Recoverable × ℤ)) : Prop where
  nodup : (recoveries.map fun e => e.1.provider).Nodup
  again : ∀ e ∈ recoveries, Again rt spec args w e.1
  limits : ∀ e ∈ recoveries, e.2 = recoveryLimit spec.config.policy e.1.outputLimit

/-- The providers of the second pass are among those of the stage. -/
theorem Recovers.subset {recoveries : List (Recoverable × ℤ)}
    (h : Recovers rt spec args w recoveries) :
    (args.secondPass recoveries).prompts.map Prod.fst ⊆ args.prompts.map Prod.fst := by
  rw [secondPass_providers]
  intro name hname
  obtain ⟨e, he, rfl⟩ := List.mem_map.1 hname
  exact List.mem_map.2 ⟨_, (h.again e he).may.admitted, rfl⟩

/-- **What the second pass is called with.** -/
theorem StagePre.secondPass (h : StagePre rt spec args w) (hinv : Inv rt spec w')
    (hk : StageKeeps args.stage (args.prompts.map Prod.fst) w w')
    {recoveries : List (Recoverable × ℤ)} (hrec : Recovers rt spec args w' recoveries)
    (hnil : recoveries ≠ []) : StagePre rt spec (args.secondPass recoveries) w' where
  inv := hinv
  nodup := by
    rw [secondPass_providers]
    exact hrec.nodup
  known := by
    intro e he
    obtain ⟨r, hr, rfl⟩ := List.mem_map.1 he
    exact h.known _ (hrec.again r hr).may.admitted
  prompts := by
    intro e he
    obtain ⟨r, hr, rfl⟩ := List.mem_map.1 he
    exact hk.extends_.expectedPrompts h.inv.complete (h.prompts _ (hrec.again r hr).may.admitted)
  phase := by
    intro e he _
    obtain ⟨r, hr, rfl⟩ := List.mem_map.1 he
    exact (hrec.again r hr).phase
  settings := h.settings
  repair := by
    intro hrepair
    obtain ⟨e, he⟩ := List.exists_mem_of_ne_nil _ hnil
    have hallowed := (hrec.again e he).may.allowed
    rw [(h.repair hrepair).2] at hallowed
    cases hallowed
  overrides := by
    intro e he limit hlimit
    obtain ⟨r, hr, rfl⟩ := List.mem_map.1 he
    obtain ⟨e', he', heq⟩ := List.mem_map.1 (mem_of_lookup hlimit)
    obtain ⟨hname, rfl⟩ := Prod.mk.inj heq
    refine ⟨?_, (hrec.again r hr).may.truncated⟩
    rw [hrec.limits e' he', (hrec.again e' he').may.limit, hname]
    rfl

/-- The second pass reports the errors of its rows. -/
theorem Recovers.strictPass {recoveries : List (Recoverable × ℤ)}
    (h : Recovers rt spec args w recoveries) :
    StrictPass spec.config.policy (args.secondPass recoveries) w.store := by
  refine .inr fun e he => ?_
  obtain ⟨r, hr, rfl⟩ := List.mem_map.1 he
  exact ⟨(h.again r hr).quiet, (h.again r hr).may.retries, (h.again r hr).fits⟩

/-- What is left of the first pass, in the order of the configured providers. -/
theorem PassOk.order (h : StagePre rt spec args w) {recoverable : List Recoverable}
    (hpass : PassOk rt spec args strict result recoverable w') :
    (orderRecoverable spec.config recoverable).Perm recoverable := by
  have hrest := (List.nodup_append.1 (hpass.done.providers.nodup_iff.2 h.nodup)).2.1
  exact orderRecoverable_perm h.inv.accepted.names_nodup hrest fun r hr =>
    h.known _ (hpass.again r hr).may.admitted

/-- **A whole stage**: every provider has one result, and it is what its slot has
stored. -/
theorem runParallelStage_spec {eng : CouncilEngine} (heng : eng.toRunConfig = spec.config)
    (h : StagePre rt spec args w) :
    Prog.wp (stageRules rt spec args.stage (args.prompts.map Prod.fst))
      (fun x w' => Done args (args.retryFailedInvocations = false) (args.prompts.map Prod.fst)
        x [] w')
      (fun _ _ => True) (runParallelStage rt eng args) w := by
  unfold runParallelStage
  refine Prog.wp_seq (wp_framed h.inv (runStagePass_spec heng h)) ?_
  rintro ⟨first, recoverable⟩ w₁ ⟨⟨hinv₁, hk₁⟩, hpass⟩
  dsimp only at hpass ⊢
  rw [heng]
  have hnd := h.nodup
  have horder := hpass.order h
  have hfirst : Done args (args.retryFailedInvocations = false) (args.prompts.map Prod.fst) first
      (recoverable.map Recoverable.provider) w₁ :=
    ⟨hpass.done.providers, hpass.done.result.imp .inl⟩
  refine Prog.wp_seq (wp_names (List.nil_subset _) (wp_framed hinv₁
    (splitRecoverable_spec (args.retryFailedInvocations = false) _ w₁ hinv₁ fun r hr =>
      hpass.again r (horder.mem_iff.1 hr)))) ?_
  rintro ⟨unavailable, recoveries⟩ w₂ ⟨⟨hinv₂, hk₂⟩, hperm, hok, hsub, hlimits⟩
  dsimp only at hperm hok hsub hlimits ⊢
  have hdone₂ := (hfirst.keeps hnd hk₂ (List.nil_subset _)).add
    ((horder.map Recoverable.provider).symm.trans hperm) hok
  by_cases hnil : recoveries = []
  · rw [if_pos hnil]
    rw [hnil] at hdone₂
    exact hdone₂
  rw [if_neg hnil]
  have hrec : Recovers rt spec args w₂ recoveries := {
    nodup := (List.nodup_append.1 (hdone₂.providers.nodup_iff.2 hnd)).2.1
    again e he :=
      (hpass.again _ (horder.mem_iff.1 (hsub.subset (List.mem_map_of_mem he)))).keeps hk₂
    limits := hlimits }
  have hpre := h.secondPass hinv₂ (hk₁.trans (hk₂.mono (List.nil_subset _))) hrec hnil
  refine Prog.wp_seq (wp_names hrec.subset (wp_framed hinv₂ (runStagePass_spec heng hpre))) ?_
  rintro ⟨nested, left⟩ w₃ ⟨⟨hinv₃, hk₃⟩, hnested⟩
  dsimp only at hnested ⊢
  -- the second pass allows no third one
  have hleft : left = [] := List.eq_nil_iff_forall_not_mem.2 fun r hr => by
    have := (hnested.again r hr).may.allowed
    cases this
  subst hleft
  have hresult := hnested.done
  rw [secondPass_providers, List.map_nil] at hresult
  rw [secondPass_providers] at hk₃
  refine Prog.wp_seq (wp_names (List.nil_subset _) (wp_framed hinv₃
    (recordRecoveries_spec recoveries w₃))) ?_
  rintro recorded w₄ ⟨⟨-, hk₄⟩, -⟩
  have hdone₄ := (hdone₂.keeps hnd hk₃ (List.Subset.refl _)).keeps hnd hk₄ (List.nil_subset _)
  have hresult₄ := hresult.keeps hrec.nodup hk₄ (List.nil_subset _)
  exact hdone₄.add hresult₄.providers.symm
    ⟨hresult₄.result.successes, (hresult₄.result.imp fun _ => hrec.strictPass).failures⟩

end CouncilLogic
