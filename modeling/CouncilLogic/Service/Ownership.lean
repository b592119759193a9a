/-
# Bindings and the runs they own

What holds of the bindings, the runs and their history at every write of the application: a
pair of a principal and a key has one binding, a run has one binding, and a run is there only
while the binding it was created for is.

The writes are `bind_run` and `abandon_run_binding` of `src/model_council/service_store.py` and
`create_run` of the engine, in the order in which `CouncilApplication.create_run` of
`src/model_council/service.py` makes them.  The binding comes first, so a process that ends in
between leaves a binding without a run, and never a run without one.
-/

import CouncilLogic.Service.AppRules

namespace CouncilLogic
namespace Service

open Prog (wp)

variable {rt : Runtime} {app app' app'' : CouncilApplication} {b : RunBinding}

/-- The principal and the key of a binding. -/
def RunBinding.pair (b : RunBinding) : Str × Str := (b.principalId, b.idempotencyKey)

/-- The bindings and the runs, and how they came about. -/
structure Ownership (rt : Runtime) (app : CouncilApplication) : Prop where
  pairs : Rows.Unique RunBinding.pair app.bindings
  ids : Rows.Unique RunBinding.runId app.bindings
  principals : ∀ b ∈ app.bindings, b.principalId ∈ sixPrincipals
  bound : ∀ b ∈ app.bindings, b ∈ app.bound
  drawn : (app.bound.map RunBinding.runId).Sublist app.drawn
  created : ∀ b ∈ app.created, b ∈ app.bindings
  once : Rows.Unique RunBinding.pair app.created
  runs : ((app.runs.map CouncilRun.request).map Prod.fst).Nodup
  exist : ∀ b ∈ app.created, ∃ r ∈ app.runs.map CouncilRun.request, r.1 = b.runId
  owner : ∀ r ∈ app.runs.map CouncilRun.request,
    ∃ b ∈ app.created, b.runId = r.1 ∧ b.payloadHash = requestHash rt r.2

/-- Nothing of the history is lost, and no run changes its question. -/
structure Grows (app app' : CouncilApplication) : Prop where
  bound : app.bound <+: app'.bound
  created : app.created <+: app'.created
  drawn : app.drawn <+: app'.drawn
  runs : app.runs.map CouncilRun.request <+: app'.runs.map CouncilRun.request

/-- An application has what it has. -/
theorem Grows.refl (app : CouncilApplication) : Grows app app :=
  ⟨List.prefix_rfl, List.prefix_rfl, List.prefix_rfl, List.prefix_rfl⟩

/-- What is never taken back in two steps is never taken back in both. -/
theorem Grows.trans (h : Grows app app') (h' : Grows app' app'') : Grows app app'' where
  bound := h.bound.trans h'.bound
  created := h.created.trans h'.created
  drawn := h.drawn.trans h'.drawn
  runs := h.runs.trans h'.runs

/-- An operation that leaves the bindings and the runs alone takes nothing back. -/
theorem Quiet.grows (h : Quiet app app') : Grows app app' where
  bound := by rw [h.bound]
  created := by rw [h.created]
  drawn := by rw [h.drawn]
  runs := by rw [h.runs]

/-- Ownership is about the bindings and the runs, so a quiet operation keeps it. -/
theorem Ownership.quiet (ho : Ownership rt app) (h : Quiet app app') : Ownership rt app' where
  pairs := by rw [h.bindings]; exact ho.pairs
  ids := by rw [h.bindings]; exact ho.ids
  principals := by rw [h.bindings]; exact ho.principals
  bound := by rw [h.bindings, h.bound]; exact ho.bound
  drawn := by rw [h.bound, h.drawn]; exact ho.drawn
  created := by rw [h.created, h.bindings]; exact ho.created
  once := by rw [h.created]; exact ho.once
  runs := by rw [h.runs]; exact ho.runs
  exist := by rw [h.created, h.runs]; exact ho.exist
  owner := by rw [h.runs, h.created]; exact ho.owner

/-- Nothing is bound and nothing has happened. -/
theorem ownership_empty : Ownership rt {} where
  pairs := List.nodup_nil
  ids := List.nodup_nil
  principals := fun _ hb => by cases hb
  bound := fun _ hb => by cases hb
  drawn := List.Sublist.refl _
  created := fun _ hb => by cases hb
  once := List.nodup_nil
  runs := List.nodup_nil
  exist := fun _ hb => by cases hb
  owner := fun _ hr => by cases hr

/-- There is no run under an id that no run was created with. -/
theorem run?_eq_none {runId : Str} :
    app.run? runId = none ↔ ∀ r ∈ app.runs.map CouncilRun.request, r.1 ≠ runId := by
  unfold CouncilApplication.run?
  rw [Rows.find_eq_none, List.forall_mem_map]
  rfl

/-- The run that was created for a binding is there. -/
theorem Ownership.ne_created (ho : Ownership rt app) (hnone : app.run? b.runId = none)
    {b' : RunBinding}
    (hb' : b' ∈ app.created) : b' ≠ b := by
  rintro rfl
  obtain ⟨r, hr, hid⟩ := ho.exist b' hb'
  exact run?_eq_none.1 hnone r hr hid

/-- No run is there without a binding. -/
theorem Ownership.unbound (ho : Ownership rt app) {runId : Str}
    (hfind : Rows.find RunBinding.runId app.bindings runId = none) : app.run? runId = none := by
  refine run?_eq_none.2 fun r hr hid => ?_
  obtain ⟨b, hb, howner, -⟩ := ho.owner r hr
  exact Rows.find_eq_none.1 hfind b (ho.created b hb) (howner.trans hid)

/-- Another id is drawn. -/
theorem Ownership.draw (ho : Ownership rt app) (runId : Str) :
    Ownership rt { app with drawn := app.drawn ++ [runId] } :=
  { ho with drawn := ho.drawn.trans (List.sublist_append_left _ _) }

/-- A pair that has no binding is bound to a run that has none. -/
theorem Ownership.bind (ho : Ownership rt app)
    (hpair : app.binding? b.principalId b.idempotencyKey = none)
    (hid : Rows.find RunBinding.runId app.bindings b.runId = none)
    (hprincipal : b.principalId ∈ sixPrincipals)
    (hdrawn : ((app.bound ++ [b]).map RunBinding.runId).Sublist app.drawn) :
    Ownership rt { app with bindings := app.bindings ++ [b], bound := app.bound ++ [b] } where
  pairs := ho.pairs.append fun a ha => Rows.find_eq_none.1 hpair a ha
  ids := ho.ids.append fun a ha => Rows.find_eq_none.1 hid a ha
  principals := by
    intro a ha
    rcases List.mem_append.1 ha with ha | ha
    · exact ho.principals a ha
    · obtain rfl := List.mem_singleton.1 ha
      exact hprincipal
  bound := by
    intro a ha
    rcases List.mem_append.1 ha with ha | ha
    · exact List.mem_append_left _ (ho.bound a ha)
    · exact List.mem_append_right _ ha
  drawn := hdrawn
  created := fun a ha => List.mem_append_left _ (ho.created a ha)
  once := ho.once
  runs := ho.runs
  exist := ho.exist
  owner := ho.owner

/-- A binding whose run is not there is abandoned. -/
theorem Ownership.abandon (ho : Ownership rt app) (hnone : app.run? b.runId = none) :
    Ownership rt { app with bindings := app.bindings.filter fun b' => b' ≠ b } where
  pairs := ho.pairs.filter _
  ids := ho.ids.filter _
  principals := fun a ha => ho.principals a (List.mem_of_mem_filter ha)
  bound := fun a ha => ho.bound a (List.mem_of_mem_filter ha)
  drawn := ho.drawn
  created := fun a ha => List.mem_filter.2 ⟨ho.created a ha,
    decide_eq_true (ho.ne_created hnone ha)⟩
  once := ho.once
  runs := ho.runs
  exist := ho.exist
  owner := ho.owner

/-- The run of a binding is created. -/
theorem Ownership.create (ho : Ownership rt app) (hb : b ∈ app.bindings)
    (hnone : app.run? b.runId = none) {question : Str}
    (hhash : b.payloadHash = requestHash rt question) :
    Ownership rt { app with
      runs := app.runs ++ [⟨b.runId, question, lit "created"⟩]
      created := app.created ++ [b] } where
  pairs := ho.pairs
  ids := ho.ids
  principals := ho.principals
  bound := ho.bound
  drawn := ho.drawn
  created := by
    intro a ha
    rcases List.mem_append.1 ha with ha | ha
    · exact ho.created a ha
    · obtain rfl := List.mem_singleton.1 ha
      exact hb
  once := ho.once.append fun a ha hpair =>
    ho.ne_created hnone ha (ho.pairs.eq (ho.created a ha) hb hpair)
  runs := by
    rw [List.map_append, List.map_append]
    refine List.nodup_append.2 ⟨ho.runs, List.nodup_singleton _, ?_⟩
    intro id hid id' hid' heq
    obtain ⟨r, hr, rfl⟩ := List.mem_map.1 hid
    have hown : id' = b.runId := List.mem_singleton.1 hid'
    exact run?_eq_none.1 hnone r hr (heq.trans hown)
  exist := by
    intro a ha
    rw [List.map_append]
    rcases List.mem_append.1 ha with ha | ha
    · obtain ⟨r, hr, hid⟩ := ho.exist a ha
      exact ⟨r, List.mem_append_left _ hr, hid⟩
    · obtain rfl := List.mem_singleton.1 ha
      exact ⟨_, List.mem_append_right _ (List.mem_singleton_self _), rfl⟩
  owner := by
    intro r hr
    rw [List.map_append] at hr
    rcases List.mem_append.1 hr with hr | hr
    · obtain ⟨a, ha, howner⟩ := ho.owner r hr
      exact ⟨a, List.mem_append_left _ ha, howner⟩
    · obtain rfl := List.mem_singleton.1 hr
      exact ⟨b, List.mem_append_right _ (List.mem_singleton_self _), rfl, hhash⟩

/-! ### The programs -/

/-- Anything may be answered; the history grows and ownership is kept. -/
def ownershipRules (rt : Runtime) : Prog.Rules CouncilApplication AppQuestion AppAnswer where
  env := fun _ _ => True
  guar := fun app app' => Grows app app' ∧ (Ownership rt app → Ownership rt app')

/-- A quiet step is allowed. -/
theorem quiet_guar (app app' : CouncilApplication) (h : Quiet app app') :
    (ownershipRules rt).guar app app' := ⟨h.grows, fun ho => ho.quiet h⟩

/-- From where ownership holds, a program ends where it does. -/
def KeepsOwnership (rt : Runtime) {α : Type} (p : AppM α) (app : CouncilApplication) : Prop :=
  wp (ownershipRules rt) (fun _ => Ownership rt) (fun _ => Ownership rt) p app

section
variable {α β : Type} {p : AppM α} {f : α → AppM β}

/-- A quiet program keeps ownership. -/
theorem Ownership.keeps (ho : Ownership rt app)
    (h : Prog.Keeps (ownershipRules rt) Quiet p) : KeepsOwnership rt p app :=
  Prog.wp_mono (fun _ _ => ho.quiet) (fun _ _ => ho.quiet) (h app)

/-- Two programs that keep ownership keep it one after the other. -/
theorem KeepsOwnership.bind (h : KeepsOwnership rt p app)
    (hf : ∀ a app', Ownership rt app' → KeepsOwnership rt (f a) app') :
    KeepsOwnership rt (p >>= f) app :=
  Prog.wp_seq h fun a app' => hf a app'

/-- The rule for `onError`: the cleanup starts where the body has raised. -/
theorem wp_onError {R : Prog.Rules CouncilApplication AppQuestion AppAnswer}
    {post : α → CouncilApplication → Prop} {exc mid : AppError → CouncilApplication → Prop}
    {cleanup : AppM Unit} (h : wp R post mid p app)
    (hcleanup : ∀ e app', mid e app' → wp R (fun _ => exc e) exc cleanup app') :
    wp R post exc (onError p cleanup) app := by
  have hcatch : wp R (fun result app' => (∀ a, result = .ok a → post a app') ∧
      ∀ e, result = .error e → mid e app') exc p.catching app := by
    refine Prog.wp_catching.2 (Prog.wp_mono (fun a _ ha => ?_) (fun e _ he => ?_) h)
    · exact ⟨fun _ heq => Except.ok.inj heq ▸ ha, fun _ heq => nomatch heq⟩
    · exact ⟨fun _ heq => (nomatch heq), fun _ heq => Except.error.inj heq ▸ he⟩
  refine Prog.wp_seq hcatch fun result app' ⟨hok, herror⟩ => ?_
  cases result with
  | ok a => exact hok a rfl
  | error e => exact Prog.wp_seq (hcleanup e app' (herror e rfl)) fun _ _ ho => ho

/-- A program that keeps ownership, cleaned up by one that keeps it, keeps it. -/
theorem KeepsOwnership.onError {cleanup : AppM Unit} (h : KeepsOwnership rt p app)
    (hcleanup : ∀ app', Ownership rt app' → KeepsOwnership rt cleanup app') :
    KeepsOwnership rt (onError p cleanup) app :=
  wp_onError h fun _ app' ho' => hcleanup app' ho'

end

/-- The engine creates the run of a binding, or does not. -/
theorem engineCreateRun_ownership (ho : Ownership rt app) (hb : b ∈ app.bindings)
    {question : Str} (hhash : b.payloadHash = requestHash rt question) :
    KeepsOwnership rt (engineCreateRun question b) app := by
  intro refused _
  cases refused with
  | some e => exact ho
  | none =>
    intro failure _
    cases failure with
    | some e => exact ho
    | none =>
      intro same _
      dsimp only [Prog.bind]
      refine Prog.wp_bind.2 ((Prog.wp_read app).2 ?_)
      cases hrun : app.run? b.runId with
      | some r =>
        cases same with
        | true => exact ho
        | false => exact ho
      | none =>
        refine ⟨⟨⟨List.prefix_rfl, List.prefix_append _ _, List.prefix_rfl, ?_⟩, fun _ =>
          ho.create hb hrun hhash⟩, ho.create hb hrun hhash⟩
        rw [List.map_append]
        exact List.prefix_append _ _

/-- `get_run` answers with the run that is there. -/
theorem getRun_ownership (ho : Ownership rt app) (runId : Str) :
    wp (ownershipRules rt) (fun run app' => Ownership rt app' ∧ run = app'.run? runId)
      (fun _ => Ownership rt) (getRun runId) app := by
  refine Prog.wp_seq (ho.keeps keeps_transaction) fun _ app' ho' => ?_
  refine Prog.wp_seq (ho'.keeps (keeps_workers quiet_guar)) fun _ app' ho' => ?_
  exact ⟨ho', rfl⟩

/-- `abandon_run_binding` where the run is missing. -/
theorem abandonRunBinding_ownership (ho : Ownership rt app) (hnone : app.run? b.runId = none) :
    KeepsOwnership rt (abandonRunBinding b) app := by
  intro failure _
  cases failure with
  | some e => exact ho
  | none =>
    intro reserved _
    cases reserved with
    | true => exact ho
    | false =>
      exact ⟨⟨⟨List.prefix_rfl, List.prefix_rfl, List.prefix_rfl, List.prefix_rfl⟩, fun _ =>
        ho.abandon hnone⟩, ho.abandon hnone⟩

/-- `startRun` of a binding. -/
theorem startRun_ownership (ho : Ownership rt app) (hb : b ∈ app.bindings) {question : Str}
    (hhash : b.payloadHash = requestHash rt question) :
    KeepsOwnership rt (startRun question b) app := by
  refine (engineCreateRun_ownership ho hb hhash).bind fun createdRunId app' ho' => ?_
  split
  · exact ho'
  · refine (ho'.keeps (keeps_setRunStatus quiet_guar _ _)).bind fun _ app' ho' => ?_
    refine (ho'.keeps keeps_transaction).bind fun _ app' ho' => ?_
    exact ho'.keeps (keeps_submitAcquired quiet_guar (keeps_drainPendingLocked quiet_guar) _ _)

/-- A binding is abandoned only where its run is missing. -/
theorem undoBinding_ownership (ho : Ownership rt app) : KeepsOwnership rt (undoBinding b) app := by
  have hrest : ∀ app', Ownership rt app' → KeepsOwnership rt (do
      let present ← getRun b.runId
      if present.isSome then do
        let _ ← (setRunStatus b.runId (lit "failed")).catching
        pure ()
      else pure ()
      release) app' := by
    intro app' ho'
    refine (ho'.keeps (keeps_getRun quiet_guar _)).bind fun present app' ho' => ?_
    have hrelease : ∀ app', Ownership rt app' → KeepsOwnership rt release app' :=
      fun app' ho' => ho'.keeps (keeps_release quiet_guar)
    split
    · exact (ho'.keeps (keeps_setRunStatus quiet_guar _ _).catching).bind fun _ => hrelease
    · exact hrelease app' ho'
  refine Prog.wp_seq (getRun_ownership ho b.runId) fun missing app' ⟨ho', hmissing⟩ => ?_
  cases missing with
  | some r => exact hrest app' ho'
  | none => exact (abandonRunBinding_ownership ho' hmissing.symm).bind fun _ => hrest

/-! ### `create_run` -/

/-- A pair without a binding is bound to a run id that was just drawn. -/
theorem bindRun_ownership {principalId runId : Str} (ho : Ownership rt app)
    (key payloadHash : Str) (hprincipal : principalId ∈ sixPrincipals)
    (hdrawn : (app.bound.map RunBinding.runId ++ [runId]).Sublist app.drawn) :
    wp (ownershipRules rt) (fun answer app' => Ownership rt app' ∧
        (answer.1 = .created → ⟨principalId, key, runId, payloadHash⟩ ∈ app'.bindings))
      (fun _ => Ownership rt) (bindRun principalId key runId payloadHash) app := by
  intro failure _
  cases failure with
  | some e => exact ho
  | none =>
  intro enabled _
  cases enabled with
  | false => exact ⟨ho, fun h => (by cases h)⟩
  | true =>
    dsimp only [Prog.bind]
    rw [if_neg (by decide)]
    refine Prog.wp_bind.2 ((Prog.wp_read app).2 ?_)
    cases hpair : app.binding? principalId key with
    | some b =>
      refine ⟨ho, fun hcode => ?_⟩
      rcases code_eq b payloadHash with ⟨h, -⟩ | ⟨h, -⟩
      · exact absurd (h.symm.trans hcode) (by decide)
      · exact absurd (h.symm.trans hcode) (by decide)
    | none =>
      dsimp only
      cases hid : Rows.find RunBinding.runId app.bindings runId with
      | some b => exact ⟨ho, fun h => (by cases h)⟩
      | none =>
        have hbound := ho.bind (b := ⟨principalId, key, runId, payloadHash⟩) hpair hid hprincipal
          (by rw [List.map_append]; exact hdrawn)
        exact ⟨⟨⟨List.prefix_append _ _, List.prefix_rfl, List.prefix_rfl, List.prefix_rfl⟩,
          fun _ => hbound⟩, hbound, fun _ => List.mem_append_right _ (List.mem_singleton_self _)⟩

/-- A quiet program keeps ownership and is quiet as a whole. -/
theorem ownership_and_quiet {α : Type} {p : AppM α} (ho : Ownership rt app)
    (h : Prog.Keeps (ownershipRules rt) Quiet p) :
    wp (ownershipRules rt) (fun _ app' => Ownership rt app' ∧ Quiet app app')
      (fun _ => Ownership rt) p app :=
  Prog.wp_mono (fun _ _ h => ⟨ho.quiet h, h⟩) (fun _ _ => ho.quiet) (h app)

/-- A key that is bound to a run already. -/
theorem replayRun_ownership (ho : Ownership rt app) (hb : b ∈ app.bindings) {question : Str}
    (hhash : b.payloadHash = requestHash rt question) :
    KeepsOwnership rt (replayRun question b) app := by
  refine Prog.wp_seq (ownership_and_quiet ho (keeps_getRun quiet_guar b.runId))
    fun existing app' ⟨ho', hquiet⟩ => ?_
  cases existing with
  | some run =>
    refine (ho'.keeps (keeps_ensureScheduled quiet_guar _ _ _)).bind fun _ app' ho' => ?_
    exact ho'.keeps (keeps_publicRun quiet_guar _)
  | none =>
    refine Prog.wp_seq (ownership_and_quiet ho' (keeps_acquire quiet_guar))
      fun acquired app'' ⟨ho'', hquiet'⟩ => ?_
    cases acquired with
    | false => exact ho''
    | true =>
      have hb'' : b ∈ app''.bindings := by
        rw [hquiet'.bindings, hquiet.bindings]
        exact hb
      refine ((startRun_ownership ho'' hb'' hhash).onError fun _ ho => ?_).bind fun _ _ ho => ho
      exact ho.keeps (keeps_release quiet_guar)

/-- The binding is new, or the run it answers with is another. -/
theorem bindNew_ownership {principalId runId : Str} (ho : Ownership rt app)
    (key payloadHash : Str) (hprincipal : principalId ∈ sixPrincipals)
    (hdrawn : (app.bound.map RunBinding.runId ++ [runId]).Sublist app.drawn) :
    wp (ownershipRules rt) (fun replay app' => Ownership rt app' ∧
        (replay = none → ⟨principalId, key, runId, payloadHash⟩ ∈ app'.bindings))
      (fun _ => Ownership rt) (bindNew principalId key runId payloadHash) app := by
  refine Prog.wp_seq (bindRun_ownership ho key payloadHash hprincipal hdrawn)
    fun answer app ⟨ho, hcreated⟩ => ?_
  obtain ⟨code, boundRunId⟩ := answer
  cases code with
  | created => exact ⟨ho, fun _ => hcreated rfl⟩
  | replay =>
    refine Prog.wp_seq (ho.keeps (keeps_publicRun quiet_guar _)) fun payload app ho => ?_
    refine Prog.wp_seq (ho.keeps (keeps_release quiet_guar)) fun _ app ho => ?_
    exact ⟨ho, fun h => (by cases h)⟩
  | idempotencyConflict => exact ho
  | runIdConflict => exact ho
  | principalDisabled => exact ho

/-- A key that is free. -/
theorem newRun_ownership (ho : Ownership rt app) {principalId : Str}
    (hprincipal : principalId ∈ sixPrincipals) (question key : Str) :
    KeepsOwnership rt (newRun question principalId key (requestHash rt question)) app := by
  refine (ho.keeps (keeps_acquire quiet_guar)).bind fun acquired app ho => ?_
  cases acquired with
  | false => exact ho
  | true =>
  intro (runId : Str) _
  have hdrawn : (app.bound.map RunBinding.runId ++ [runId]).Sublist (app.drawn ++ [runId]) :=
    ho.drawn.append (List.Sublist.refl _)
  refine ⟨⟨⟨List.prefix_rfl, List.prefix_rfl, List.prefix_append _ _, List.prefix_rfl⟩,
    fun ho => ho.draw runId⟩, ?_⟩
  have hrelease : ∀ app, Ownership rt app → KeepsOwnership rt release app :=
    fun _ ho => ho.keeps (keeps_release quiet_guar)
  have hbind := wp_onError (bindNew_ownership (ho.draw runId) key
    (requestHash rt question) hprincipal hdrawn)
    fun _ app ho => hrelease app ho
  refine Prog.wp_bind.2 (Prog.wp_seq hbind fun replay app ⟨ho, hreplay⟩ => ?_)
  cases replay with
  | some payload => exact ho
  | none =>
    refine ((startRun_ownership ho (hreplay rfl) rfl).onError fun app ho => ?_).bind
      fun _ _ ho => ho
    exact undoBinding_ownership ho

/-- `create_run` keeps ownership, wherever it stops. -/
theorem createRun_ownership (ho : Ownership rt app) (principalId question key : Str) :
    KeepsOwnership rt (createRun rt principalId question key) app := by
  refine wp_createRun (fun _ => ho) (fun _ _ b _ _ _ hb hhash => ?_)
    fun _ _ _ _ _ _ hprincipal => ?_
  · exact replayRun_ownership ho (binding?_some hb).1 hhash
  · exact newRun_ownership ho hprincipal _ _

/-- **Every program of the process keeps ownership**, wherever it stops. -/
theorem programs_ownership {p : AppM (Option CreateRunResult)} (hp : AppPrograms rt p)
    (ho : Ownership rt app) : KeepsOwnership rt p app := by
  cases hp with
  | construct maxWorkers maxQueue =>
    exact (ho.keeps (keeps_openApplication quiet_guar _ _)).bind fun _ _ ho => ho
  | call op =>
    cases op with
    | createRun principalId question key =>
      exact (createRun_ownership ho principalId question key).bind fun _ _ ho => ho
    | workers => exact (ho.keeps (keeps_workers quiet_guar)).bind fun _ _ ho => ho
    | callback runId => exact (ho.keeps (keeps_callback quiet_guar _)).bind fun _ _ ho => ho
    | close => exact (ho.keeps (keeps_close quiet_guar)).bind fun _ _ ho => ho

/-! ### Lives of the process -/

/-- The configurations of the service process. -/
abbrev AppConfig := Prog.Config CouncilApplication AppError AppQuestion AppAnswer
  (Option CreateRunResult)

/-- Applications are made, serve and crash, one after the other. -/
abbrev AppLife (rt : Runtime) : AppConfig → AppConfig → Prop :=
  Prog.Life (AppPrograms rt) CouncilApplication.lose

/-- An end of the process leaves the stores alone. -/
theorem quiet_lose (app : CouncilApplication) : Quiet app app.lose := quiet_memory rfl

/-- What the history of a process keeps: ownership is never lost and the history grows. -/
theorem AppLife.ownership {c c' : AppConfig} (h : AppLife rt c c')
    (hc : Ownership rt c.state) (hsafe : c.Safe (ownershipRules rt)) :
    Grows c.state c'.state ∧ Ownership rt c'.state ∧ c'.Safe (ownershipRules rt) := by
  have hmove : ∀ s s', (ownershipRules rt).Moves CouncilApplication.lose s s' →
      Grows s s' ∧ (Ownership rt s → Ownership rt s') := by
    rintro s s' (hguar | rfl)
    · exact hguar
    · exact quiet_guar _ _ (quiet_lose s)
  obtain ⟨hreach, ho, hsafe'⟩ := Prog.Life.guarantee (fun _ _ => trivial)
    (fun p hp s ho => Prog.wp_mono (fun _ _ _ => trivial) (fun _ _ _ => trivial)
      (programs_ownership hp ho)) (fun s s' hs => (hmove s s' hs).2) h hc hsafe
  refine ⟨?_, ho, hsafe'⟩
  clear ho hsafe' hsafe hc h
  generalize c'.state = s at hreach
  induction hreach with
  | refl => exact .refl _
  | tail _ hlast ih => exact ih.trans (hmove _ _ hlast).1

end Service
end CouncilLogic
