/-
# The books between two operations

Every operation takes the application from a state in which no slot is held, every bound run
is covered and no run waits while a slot is free, to such a state again, also where it raises.

The operations are `create_run` and `get_run`, the callback of a finished job, the
recovery at the start and `close`, all of `src/model_council/service.py`.  What is shown of them
here is what `CouncilLogic.Guarantees.Slots` and `CouncilLogic.Guarantees.Scheduling` then say of
every life of the application.
-/

import CouncilLogic.Service.Scheduling

namespace CouncilLogic
namespace Service

open Prog (wp)

variable {rt : Runtime} {app app' : CouncilApplication} {held capacity : ℕ} {runId : Str}
  {b : RunBinding}

/-- Until the application is closed, every bound run that exists is covered, but perhaps one. -/
def Live (but : Option Str) (app : CouncilApplication) : Prop :=
  app.closed = false → ∀ b ∈ app.bindings, but ≠ some b.runId → app.run? b.runId ≠ none →
    app.Covered b.runId

/-- Between two operations. -/
structure Steady (capacity : ℕ) (app : CouncilApplication) : Prop where
  accounts : Accounts 0 app
  size : app.capacity = capacity
  live : Live none app
  drained : Drained app

/-- Inside an operation that got a slot, so that no run was waiting. -/
structure Holding (capacity held : ℕ) (app : CouncilApplication) : Prop where
  accounts : Accounts held app
  size : app.capacity = capacity
  live : Live none app
  idle : app.pendingRecovery = []

/-- Inside an operation that has created a run and not submitted it. -/
structure Submitting (capacity : ℕ) (runId : Str) (app : CouncilApplication) : Prop where
  accounts : Accounts 1 app
  size : app.capacity = capacity
  live : Live (some runId) app
  idle : app.pendingRecovery = []
  exist : app.run? runId ≠ none
  unscheduled : runId ∉ app.scheduledRunIds ∧ runId ∉ app.pendingRunIds

/-- The same runs are there before and after. -/
theorem run?_ne_none (h : Quiet app app') : app'.run? runId ≠ none ↔ app.run? runId ≠ none := by
  have hsame := h.run?_isNone runId
  rw [not_iff_not, ← Option.isNone_iff_eq_none, ← Option.isNone_iff_eq_none, hsame]

/-- Runs that are covered stay covered while runs are served. -/
theorem Live.serves {but : Option Str} (hl : Live but app) (h : Serves app app') :
    Live but app' := by
  intro hopen b hb hbut hrun
  rw [h.quiet.bindings] at hb
  exact h.covered _ (hl (h.closed ▸ hopen) b hb hbut ((run?_ne_none h.quiet).1 hrun))

/-- The run that was not covered is. -/
theorem Live.cover (hl : Live (some runId) app) (h : app.Covered runId) : Live none app := by
  intro hopen b hb _ hrun
  by_cases hid : runId = b.runId
  · exact hid ▸ h
  · exact hl hopen b hb (fun heq => hid (Option.some.inj heq)) hrun

/-- The workers keep a steady state steady. -/
theorem Steady.works (hs : Steady capacity app) (h : Works app app') (ha : Accounts 0 app') :
    Steady capacity app' :=
  ⟨ha, h.capacity.trans hs.size, hs.live.serves h.toServes, hs.drained.works h⟩

/-- Serving a run leads from a steady state to one, as long as the books balance and nothing waits
for a free slot. -/
theorem Steady.serves (hs : Steady capacity app) (h : Serves app app') (ha : Accounts 0 app')
    (hd : Drained app') : Steady capacity app' :=
  ⟨ha, h.capacity.trans hs.size, hs.live.serves h, hd⟩

/-- Draining keeps an operation's hold on its slot. -/
theorem Holding.drains (hh : Holding capacity held app) (h : Drains app app') {held' : ℕ}
    (ha : Accounts held' app') : Holding capacity held' app' where
  accounts := ha
  size := h.capacity.trans hh.size
  live := hh.live.serves h.toServes
  idle := by
    have hle := h.pending
    rw [hh.idle] at hle
    exact List.eq_nil_of_length_eq_zero (Nat.le_zero.1 hle)

/-- Nothing is held any more. -/
theorem Holding.steady (hh : Holding capacity 0 app) : Steady capacity app :=
  ⟨hh.accounts, hh.size, hh.live, fun _ hne => absurd hh.idle hne⟩

/-- A run that does not exist is neither scheduled nor pending. -/
theorem Accounts.unscheduled (h : Accounts held app) (hnone : app.run? runId = none) :
    runId ∉ app.scheduledRunIds ∧ runId ∉ app.pendingRunIds :=
  ⟨fun hmem => h.exist runId (.inl hmem) hnone, fun hmem => h.exist runId (.inr hmem) hnone⟩

/-! ### The drain and the queue -/

/-- Draining ends with no run waiting for a free slot. -/
theorem drainPendingLocked_does (h : Accounts held app) :
    Does drainPendingLocked app fun _ s => Accounts held s ∧ Drains app s ∧ Drained s :=
  drainPending_does _ held app h (Nat.le_refl _)

/-- Any number of rounds of draining is one draining. -/
theorem drainsUpTo_locked (n : ℕ) : DrainsUpTo drainPendingLocked n :=
  fun _ _ h _ => drainPendingLocked_does h

/-- A run that exists is covered when it has been queued. -/
theorem queueRecovery_does (h : Accounts held app) (hrun : app.run? runId ≠ none)
    (principalId : Str) :
    Does (queueRecovery principalId runId) app fun _ s =>
      Accounts held s ∧ Serves app s ∧ s.Covered runId := by
  show wp _ _ _ (if runId ∈ app.scheduledRunIds ∨ runId ∈ app.pendingRunIds then _ else _) app
  split
  · rename_i hmem
    exact ⟨h, .refl app, hmem.elim .inl fun hmem => .inr (.inl hmem)⟩
  · rename_i hnot
    obtain ⟨hscheduled, hpending⟩ := not_or.1 hnot
    refine ⟨trivial, ?_, ⟨quiet_memory rfl, rfl, rfl, fun r hr => hr.imp_right fun hr =>
      hr.imp_left (List.mem_append_left _)⟩, .inr (.inl ?_)⟩
    · exact { h with
        pending := by
          dsimp only
          rw [List.map_append, h.pending]
          rfl
        waiting := List.nodup_append.2 ⟨h.waiting, List.nodup_singleton _, fun r hr r' hr' heq =>
          hpending (List.mem_singleton.1 hr' ▸ heq ▸ hr)⟩
        apart := by
          intro r hr hr'
          rcases List.mem_append.1 hr' with hr' | hr'
          · exact h.apart r hr hr'
          · exact hscheduled (List.mem_singleton.1 hr' ▸ hr)
        exist := by
          rintro r (hr | hr)
          · exact h.exist r (.inl hr)
          · rcases List.mem_append.1 hr with hr | hr
            · exact h.exist r (.inr hr)
            · exact List.mem_singleton.1 hr ▸ hrun }
    · exact List.mem_append_right _ (List.mem_singleton_self _)

/-- A run that is there can be scheduled from a steady state, which is steady again. -/
theorem ensureScheduled_does (hs : Steady capacity app) (hrun : app.run? runId ≠ none)
    (principalId status : Str) :
    Does (ensureScheduled principalId runId status) app fun _ s => Steady capacity s := by
  unfold ensureScheduled
  split
  · exact hs
  · show wp _ _ _ (if runId ∉ app.scheduledRunIds ∧ runId ∉ app.pendingRunIds then _ else _) app
    split
    · refine (queueRecovery_does hs.accounts hrun principalId).bind
        fun _ app₁ ⟨h₁, hserves₁, _⟩ => ?_
      refine (drainPendingLocked_does h₁).mono fun _ app₂ ⟨h₂, hdrains₂, hdrained⟩ => ?_
      exact hs.serves (hserves₁.trans hdrains₂.toServes) h₂ hdrained
    · exact hs

/-! ### The moves of the environment -/

/-- The workers move. -/
theorem workers_steady (hs : Steady capacity app) :
    Does workers app fun _ s => Steady capacity s :=
  (workers_does hs.accounts).mono fun _ _ ⟨h, hworks⟩ => hs.works hworks h

/-- The callback of a job frees its slot and gives it to the next run that waits. -/
theorem callback_steady (hs : Steady capacity app) (runId : Str) :
    Does (callback runId) app fun _ s => Steady capacity s := by
  show wp _ _ _ (if app.done runId = true then _ else _) app
  split
  · rename_i hdone
    have hrelease := releaseSlot_does hs.accounts hdone (drainsUpTo_locked _)
    refine hrelease.catching.bind fun _ s ⟨_, _, h, hdrains, hdrained⟩ => ?_
    exact hs.serves hdrains.toServes h hdrained
  · exact hs

/-- Closing keeps the books. -/
theorem close_steady (hs : Steady capacity app) : Does close app fun _ s => Steady capacity s :=
  (modify_does _).mono fun _ s happ => by
    subst happ
    exact ⟨{ hs.accounts with }, hs.size, fun hopen => (by cases hopen),
      fun hopen => (by cases hopen)⟩

/-! ### `create_run` -/

/-- Smooth answers; where the program raises, `exc` holds. -/
def Ends {α : Type} (p : AppM α) (app : CouncilApplication)
    (post : α → CouncilApplication → Prop) (exc : CouncilApplication → Prop) : Prop :=
  wp smoothRules post (fun _ => exc) p app

section
variable {α β : Type} {p : AppM α} {f : α → AppM β} {post mid : α → CouncilApplication → Prop}
  {post' : β → CouncilApplication → Prop} {exc exc' : CouncilApplication → Prop}

/-- A program that cannot raise ends as it does. -/
theorem Does.ends (h : Does p app post) : Ends p app post exc :=
  Prog.wp_mono (fun _ _ h => h) (fun _ _ h => h.elim) h

/-- What ends and is followed by what ends, ends. -/
theorem Ends.bind (h : Ends p app mid exc) (hf : ∀ a app', mid a app' → Ends (f a) app' post' exc) :
    Ends (p >>= f) app post' exc :=
  Prog.wp_seq h hf

/-- What does something and is followed by what ends, ends. -/
theorem Does.then (h : Does p app mid) (hf : ∀ a app', mid a app' → Ends (f a) app' post' exc) :
    Ends (p >>= f) app post' exc :=
  h.ends.bind hf

/-- A program with a cleanup ends in the program's way or in the cleanup's. -/
theorem Ends.onError {cleanup : AppM Unit} (h : Ends p app post exc)
    (hcleanup : ∀ app', exc app' → Ends cleanup app' (fun _ => exc') exc') :
    Ends (onError p cleanup) app post exc' :=
  wp_onError h fun _ app' he => hcleanup app' he

end

/-- The run of a binding is created. -/
theorem Holding.create (hh : Holding capacity 1 app) (hnone : app.run? b.runId = none)
    (question : Str) :
    Submitting capacity b.runId { app with
      runs := app.runs ++ [⟨b.runId, question, lit "created"⟩]
      created := app.created ++ [b] } := by
  have hrun : ∀ r, CouncilApplication.run? { app with
      runs := app.runs ++ [⟨b.runId, question, lit "created"⟩]
      created := app.created ++ [b] } r =
      if b.runId = r then some ⟨b.runId, question, lit "created"⟩ else app.run? r :=
    fun r => Rows.find_append (fun a ha => Rows.find_eq_none.1 hnone a ha) r
  have hother : ∀ r, app.run? r ≠ none → CouncilApplication.run? { app with
      runs := app.runs ++ [⟨b.runId, question, lit "created"⟩]
      created := app.created ++ [b] } r = app.run? r := by
    intro r hr
    rw [hrun, if_neg]
    rintro rfl
    exact hr hnone
  have hover : ∀ r, app.Over r → CouncilApplication.Over { app with
      runs := app.runs ++ [⟨b.runId, question, lit "created"⟩]
      created := app.created ++ [b] } r := by
    rintro r ⟨run, hrun, hterminal⟩
    exact ⟨run, (hother r (by rw [hrun]; simp)).trans hrun, hterminal⟩
  refine ⟨?_, hh.size, ?_, hh.idle, by rw [hrun, if_pos rfl]; simp, hh.accounts.unscheduled hnone⟩
  · exact { hh.accounts with
      exist := fun r hr => by rw [hother r (hh.accounts.exist r hr)]; exact hh.accounts.exist r hr
      finished := fun job hjob hphase => hover _ (hh.accounts.finished job hjob hphase) }
  · intro hopen b' hb' hbut hexist
    rw [hrun, if_neg fun hid => hbut (congrArg some hid)] at hexist
    exact (hh.live hopen b' hb' (by simp) hexist).imp_right fun h => h.imp_right (hover _)

/-- `engine.create_run` creates the run, or refuses and leaves everything alone. -/
theorem engineCreateRun_ends (hh : Holding capacity 1 app) (hnone : app.run? b.runId = none)
    (question : Str) :
    Ends (engineCreateRun question b) app
      (fun createdRunId s => createdRunId = b.runId ∧ Submitting capacity b.runId s)
      (fun s => s = app) := by
  intro refused _
  cases refused with
  | some e => rfl
  | none =>
    refine transaction_does.then fun _ app' happ => ?_
    obtain rfl := happ.symm
    intro same _
    dsimp only [Prog.bind]
    refine Prog.wp_bind.2 ((Prog.wp_read app).2 ?_)
    rw [hnone]
    exact ⟨trivial, rfl, hh.create hnone question⟩

/-- Writing the status keeps the submission in progress. -/
theorem setRunStatus_submitting (hs : Submitting capacity runId app) (status : Str) :
    Does (setRunStatus runId status) app fun _ s => Submitting capacity runId s := by
  refine transaction_does.bind fun _ app' happ => ?_
  obtain rfl := happ.symm
  refine Prog.wp_bind.2 ((Prog.wp_read app).2 ?_)
  cases hrun : app.run? runId with
  | none => exact absurd hrun hs.exist
  | some run =>
    refine ⟨trivial, ?_⟩
    refine ⟨hs.accounts.withStatus fun job hjob hid _ => hs.unscheduled.1
      (hid ▸ hs.accounts.mem_scheduled hjob), hs.size, ?_, hs.idle,
      (run?_ne_none (quiet_withStatus _ _)).2 hs.exist, hs.unscheduled⟩
    intro hopen b hb hbut hexist
    exact covered_withStatus (fun hid => hbut (congrArg some hid.symm)) (hs.live hopen b hb hbut
      ((run?_ne_none (quiet_withStatus _ _)).1 hexist))

/-- The run of a binding is created and submitted, or nothing has happened. -/
theorem startRun_ends (hh : Holding capacity 1 app) (hnone : app.run? b.runId = none)
    (question : Str) :
    Ends (startRun question b) app (fun _ => Holding capacity 0) (fun s => s = app) := by
  refine (engineCreateRun_ends hh hnone question).bind fun createdRunId app₁ ⟨hid, h₁⟩ => ?_
  rw [if_neg (not_not.2 hid)]
  refine (setRunStatus_submitting h₁ _).then fun _ app₂ h₂ => ?_
  refine transaction_does.then fun _ app₃ happ => ?_
  obtain rfl := happ.symm
  refine ((submitAcquired_does h₂.accounts h₂.unscheduled.1 h₂.unscheduled.2 h₂.exist
    b.principalId (drainsUpTo_locked _)).mono fun _ app₄ ⟨h₄, hdrains, hcovered⟩ => ?_).ends
  refine ⟨h₄, hdrains.capacity.trans h₂.size, (h₂.live.serves hdrains.toServes).cover hcovered, ?_⟩
  have hle := hdrains.pending
  rw [h₂.idle] at hle
  exact List.eq_nil_of_length_eq_zero (Nat.le_zero.1 hle)

/-- Reading a run keeps the slot that is held. -/
theorem getRun_holding (hh : Holding capacity held app) (runId : Str) :
    Does (getRun runId) app fun run s =>
      Holding capacity held s ∧ Quiet app s ∧ run = s.run? runId :=
  (getRun_does hh.accounts runId).mono fun _ _ ⟨h, hworks, hrun⟩ =>
    ⟨hh.drains hworks.toDrains h, hworks.quiet, hrun⟩

/-- Abandoning a binding keeps the slot that is held, and the run. -/
theorem abandonRunBinding_does (hh : Holding capacity held app) (b : RunBinding) :
    Does (abandonRunBinding b) app fun _ s =>
      Holding capacity held s ∧ s.run? b.runId = app.run? b.runId := by
  refine transaction_does.bind fun _ app' happ => ?_
  obtain rfl := happ.symm
  intro reserved _
  cases reserved with
  | true => exact ⟨hh, rfl⟩
  | false =>
    refine ⟨trivial, ⟨{ hh.accounts with }, hh.size, ?_, hh.idle⟩, rfl⟩
    intro hopen b' hb' hbut hexist
    exact hh.live hopen b' (List.mem_of_mem_filter hb') hbut hexist

/-- Releasing gives the held slot back. -/
theorem release_holding (hh : Holding capacity 1 app) :
    Does release app fun _ s => Holding capacity 0 s :=
  (release_does hh.accounts).mono fun _ _ ⟨happ, h⟩ => hh.drains (happ ▸ drains_slots _) h

/-- A run that was refused leaves no slot behind. -/
theorem undoBinding_does (hh : Holding capacity 1 app) (hnone : app.run? b.runId = none) :
    Does (undoBinding b) app fun _ => Holding capacity 0 := by
  have hmissing : ∀ {app app'}, Quiet app app' → app.run? b.runId = none →
      app'.run? b.runId = none := fun h hnone => not_not.1 fun hne => (run?_ne_none h).1 hne hnone
  refine (getRun_holding hh b.runId).bind fun missing app₁ ⟨h₁, hquiet₁, hmissing₁⟩ => ?_
  have hnone₁ := hmissing hquiet₁ hnone
  rw [hnone₁] at hmissing₁
  subst hmissing₁
  refine (abandonRunBinding_does h₁ b).bind fun _ app₂ ⟨h₂, hsame⟩ => ?_
  refine (getRun_holding h₂ b.runId).bind fun present app₃ ⟨h₃, hquiet₃, hpresent⟩ => ?_
  rw [hmissing hquiet₃ (hsame.trans hnone₁)] at hpresent
  subst hpresent
  exact release_holding h₃

/-- A slot is held by an operation that got one: no run was waiting. -/
theorem acquire_holding (hs : Steady capacity app) (hopen : app.closed = false) :
    Does acquire app fun acquired s => (acquired = false ∧ s = app) ∨
      (acquired = true ∧ s = { app with slots := app.slots - 1 } ∧ Holding capacity 1 s) := by
  refine (acquire_does hs.accounts).mono fun acquired s h => ?_
  rcases h with ⟨hacquired, happ, -⟩ | ⟨hacquired, happ, h, hslots⟩
  · exact .inl ⟨hacquired, happ⟩
  · refine .inr ⟨hacquired, happ, ?_⟩
    have hidle : app.pendingRecovery = [] := not_not.1 fun hne => hslots (hs.drained hopen hne)
    subst happ
    exact ⟨h, hs.size, hs.live, hidle⟩

/-- `_public_run` changes nothing but what the workers do. -/
theorem publicRun_ends (hh : Holding capacity held app) (runId : Str) :
    Ends (publicRun runId) app (fun _ => Holding capacity held) (Holding capacity held) := by
  refine (getRun_holding hh runId).then fun run app₁ ⟨h₁, _, _⟩ => ?_
  cases run with
  | none => exact h₁
  | some run => exact h₁

/-- Reading a run for its owner leads from a steady state to one, whether it raises or not. -/
theorem publicRun_steady (hs : Steady capacity app) (runId : Str) :
    Ends (publicRun runId) app (fun _ => Steady capacity) (Steady capacity) := by
  refine (getRun_does hs.accounts runId).then fun run app₁ ⟨h₁, hworks, _⟩ => ?_
  cases run with
  | none => exact hs.works hworks h₁
  | some run => exact hs.works hworks h₁

/-- A key that is bound to a run already. -/
theorem replayRun_ends (hs : Steady capacity app) (hopen : app.closed = false) (question : Str) :
    Ends (replayRun question b) app (fun _ => Steady capacity) (Steady capacity) := by
  refine (getRun_does hs.accounts b.runId).then fun existing app₁ ⟨h₁, hworks, hexisting⟩ => ?_
  have hs₁ := hs.works hworks h₁
  cases existing with
  | some run =>
    have hrun : app₁.run? b.runId ≠ none := by rw [← hexisting]; simp
    refine (ensureScheduled_does hs₁ hrun _ _).then fun _ app₂ hs₂ => ?_
    exact publicRun_steady hs₂ _
  | none =>
    refine (acquire_holding hs₁ (hworks.closed.trans hopen)).then fun acquired app₂ h => ?_
    rcases h with ⟨rfl, rfl⟩ | ⟨rfl, happ, h₂⟩
    · exact hs₁
    · have hnone : app₂.run? b.runId = none := by
        subst happ
        exact hexisting.symm
      refine ((startRun_ends h₂ hnone question).onError fun app₃ happ => ?_).bind
        fun _ _ h => h.steady
      subst happ
      exact ((release_holding h₂).mono fun _ _ h => h.steady).ends

/-- A pair is bound to an id that no run has. -/
theorem bindRun_does (hh : Holding capacity 1 app) {runId : Str}
    (hfree : Rows.find RunBinding.runId app.bindings runId = none → app.run? runId = none)
    (principalId key payloadHash : Str) :
    Does (bindRun principalId key runId payloadHash) app fun answer s =>
      Holding capacity 1 s ∧ (answer.1 = .created → s.run? runId = none) := by
  refine transaction_does.bind fun _ app' happ => ?_
  obtain rfl := happ.symm
  intro enabled _
  cases enabled with
  | false => exact ⟨hh, fun h => (by cases h)⟩
  | true =>
    dsimp only [Prog.bind]
    rw [if_neg (by decide)]
    refine Prog.wp_bind.2 ((Prog.wp_read app).2 ?_)
    cases hpair : app.binding? principalId key with
    | some b =>
      refine ⟨hh, fun hcode => ?_⟩
      rcases code_eq b payloadHash with ⟨h, -⟩ | ⟨h, -⟩
      · exact absurd (h.symm.trans hcode) (by decide)
      · exact absurd (h.symm.trans hcode) (by decide)
    | none =>
      dsimp only
      cases hid : Rows.find RunBinding.runId app.bindings runId with
      | some b => exact ⟨hh, fun h => (by cases h)⟩
      | none =>
        refine ⟨trivial, ⟨{ hh.accounts with }, hh.size, ?_, hh.idle⟩, fun _ => hfree hid⟩
        intro hopen b hb hbut hexist
        rcases List.mem_append.1 hb with hb | hb
        · exact hh.live hopen b hb hbut hexist
        · obtain rfl := List.mem_singleton.1 hb
          exact absurd (hfree hid) hexist

/-- A request is bound anew or answered from its binding; in neither case is there a run under a
new id yet. -/
theorem bindNew_ends (hh : Holding capacity 1 app) {runId : Str}
    (hfree : Rows.find RunBinding.runId app.bindings runId = none → app.run? runId = none)
    (principalId key payloadHash : Str) :
    Ends (bindNew principalId key runId payloadHash) app
      (fun replay s => (replay = none ∧ Holding capacity 1 s ∧ s.run? runId = none) ∨
        (replay ≠ none ∧ Holding capacity 0 s)) (Holding capacity 1) := by
  refine (bindRun_does hh hfree principalId key payloadHash).then fun answer app₁ ⟨h₁, hcreated⟩ =>
    ?_
  obtain ⟨code, boundRunId⟩ := answer
  cases code with
  | created => exact .inl ⟨rfl, h₁, hcreated rfl⟩
  | replay =>
    refine (publicRun_ends h₁ boundRunId).bind fun payload app₂ h₂ => ?_
    exact (release_holding h₂).then fun _ app₃ h₃ => .inr ⟨by simp, h₃⟩
  | idempotencyConflict => exact h₁
  | runIdConflict => exact h₁
  | principalDisabled => exact h₁

/-- A key that is free. -/
theorem newRun_ends (hs : Steady capacity app) (ho : Ownership rt app)
    (hopen : app.closed = false) (question principalId key payloadHash : Str) :
    Ends (newRun question principalId key payloadHash) app (fun _ => Steady capacity)
      (Steady capacity) := by
  refine (acquire_holding hs hopen).then fun acquired app₁ h => ?_
  rcases h with ⟨rfl, rfl⟩ | ⟨rfl, happ, h₁⟩
  · exact hs
  intro (runId : Str) _
  refine (modify_does _).then fun _ app₂ happ₂ => ?_
  have h₂ : Holding capacity 1 app₂ := by
    subst happ₂
    exact ⟨{ h₁.accounts with }, h₁.size, h₁.live, h₁.idle⟩
  have hfree : Rows.find RunBinding.runId app₂.bindings runId = none →
      app₂.run? runId = none := by
    subst happ₂ happ
    exact ho.unbound
  have hrelease : ∀ app, Holding capacity 1 app →
      Ends release app (fun _ => Steady capacity) (Steady capacity) :=
    fun app h => ((release_holding h).mono fun _ _ h => h.steady).ends
  refine ((bindNew_ends h₂ hfree principalId key payloadHash).onError hrelease).bind
    fun replay app₃ h => ?_
  rcases h with ⟨rfl, h₃, hnone⟩ | ⟨hreplay, h₃⟩
  · refine ((startRun_ends h₃ hnone question).onError fun app₄ happ => ?_).bind
      fun _ _ h => h.steady
    subst happ
    exact ((undoBinding_does h₃ hnone).mono fun _ _ h => h.steady).ends
  · obtain ⟨payload, rfl⟩ := Option.ne_none_iff_exists'.1 hreplay
    exact h₃.steady

/-- **`create_run` leaves the books as it found them**, whether it answers or raises. -/
theorem createRun_ends (hs : Steady capacity app) (ho : Ownership rt app)
    (principalId question key : Str) :
    Ends (createRun rt principalId question key) app (fun _ => Steady capacity)
      (Steady capacity) :=
  wp_createRun (fun _ => hs) (fun _ _ _ _ _ hopen _ _ => replayRun_ends hs hopen _)
    fun _ _ _ _ hopen _ _ => newRun_ends hs ho hopen _ _ _ _

/-! ### An application is made -/

/-- The nonterminal runs of the bindings are queued. -/
theorem queueNonterminal_does (bindings : List RunBinding)
    (hprincipals : ∀ b ∈ bindings, b.principalId ∈ sixPrincipals) (h : Accounts held app) :
    Does (queueNonterminal bindings) app fun _ s => Accounts held s ∧ Serves app s ∧
      ∀ b ∈ bindings, s.run? b.runId ≠ none → s.Covered b.runId := by
  induction bindings generalizing app with
  | nil => exact ⟨h, .refl app, fun _ hb => (by cases hb)⟩
  | cons b bindings ih =>
    have ih := fun app => @ih app fun b hb => hprincipals b (List.mem_cons_of_mem _ hb)
    refine (getRun_does h b.runId).bind fun run app₁ ⟨h₁, hworks, hrun⟩ => ?_
    -- what is left is the same wherever this run exists and is covered
    have hrest : ∀ app₂, Accounts held app₂ → Serves app₁ app₂ →
        (app₁.run? b.runId ≠ none → app₂.Covered b.runId) →
        Does (queueNonterminal bindings) app₂ fun _ s => Accounts held s ∧ Serves app s ∧
          ∀ b' ∈ b :: bindings, s.run? b'.runId ≠ none → s.Covered b'.runId := by
      intro app₂ h₂ hserves hcovered
      refine (ih app₂ h₂).mono fun _ s ⟨hs, hserves', hothers⟩ => ?_
      refine ⟨hs, (hworks.toServes.trans hserves).trans hserves', fun b' hb' hexist => ?_⟩
      rcases List.mem_cons.1 hb' with rfl | hb'
      · have hexist₁ := (run?_ne_none (hserves.quiet.trans hserves'.quiet)).1 hexist
        exact hserves'.covered _ (hcovered hexist₁)
      · exact hothers b' hb' hexist
    cases run with
    | none => exact hrest app₁ h₁ (.refl app₁) fun hne => absurd hrun.symm hne
    | some run =>
      dsimp only
      split
      · rename_i hskip
        have hterminal := hskip.resolve_right
          (not_not.2 (hprincipals b List.mem_cons_self))
        exact hrest app₁ h₁ (.refl app₁) fun _ => .inr (.inr ⟨run, hrun.symm, hterminal⟩)
      · have hexist : app₁.run? b.runId ≠ none := by rw [← hrun]; simp
        refine (queueRecovery_does h₁ hexist b.principalId).bind
          fun _ app₂ ⟨h₂, hserves, hcovered⟩ => hrest app₂ h₂ hserves fun _ => hcovered

/-- **Recovery after a start**: every bound run that is not over is scheduled or waits, and the
state is steady. -/
theorem recoverNonterminalRuns_does (h : Accounts 0 app) (hsize : app.capacity = capacity)
    (hprincipals : ∀ b ∈ app.bindings, b.principalId ∈ sixPrincipals) :
    Does recoverNonterminalRuns app fun _ => Steady capacity := by
  refine transaction_does.bind fun _ app' happ => ?_
  obtain rfl := happ.symm
  refine (queueNonterminal_does app.bindings hprincipals h).bind
    fun _ app₁ ⟨h₁, hserves, hcovered⟩ => ?_
  refine (drainPendingLocked_does h₁).mono fun _ app₂ ⟨h₂, hdrains, hdrained⟩ => ?_
  refine ⟨h₂, (hdrains.capacity.trans hserves.capacity).trans hsize, ?_, hdrained⟩
  have hlive : Live none app₁ := fun _ b hb _ hexist =>
    hcovered b (hserves.quiet.bindings ▸ hb) hexist
  exact hlive.serves hdrains.toServes

/-- An application that is made starts with every slot free and every nonterminal run queued. -/
theorem openApplication_ends (ho : Ownership rt app) (maxWorkers maxQueue : ℕ) :
    Ends (openApplication maxWorkers maxQueue) app (fun _ => Steady (maxWorkers + maxQueue))
      (fun _ => True) := by
  refine transaction_does.then fun _ app' happ => ?_
  obtain rfl := happ.symm
  show wp _ _ _ (if app.runs.any _ then _ else _) app
  split
  · trivial
  · have hopened : Accounts 0 { app.lose with
        capacity := maxWorkers + maxQueue
        slots := maxWorkers + maxQueue
        closed := false } :=
      { slots := rfl
        jobs := List.Perm.refl _
        scheduled := List.nodup_nil
        pending := rfl
        waiting := List.nodup_nil
        apart := fun _ hr => (by cases hr)
        exist := fun _ hr => (by rcases hr with hr | hr <;> cases hr)
        finished := fun _ hjob => (by cases hjob)
        once := rfl }
    exact ⟨trivial, (recoverNonterminalRuns_does hopened rfl ho.principals).ends⟩

/-- **Every operation leaves the books as it found them.** -/
theorem op_ends (hs : Steady capacity app) (ho : Ownership rt app) (op : AppOp) :
    Ends (op.program rt) app (fun _ => Steady capacity) (Steady capacity) := by
  cases op with
  | createRun principalId question key =>
    exact (createRun_ends hs ho principalId question key).bind fun _ _ h => h
  | workers => exact (workers_steady hs).then fun _ _ h => h
  | callback runId => exact (callback_steady hs runId).then fun _ _ h => h
  | close => exact (close_steady hs).then fun _ _ h => h

end Service
end CouncilLogic
