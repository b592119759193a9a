/-
# What the operations of the application leave alone

Everything but `bind_run`, `abandon_run_binding`, `create_run` of the engine and the drawing
of an id leaves the bindings, the runs but for their status, and the history alone.

The operations are the methods of `CouncilApplication` in `src/model_council/service.py`.  The
modules about ownership and about scheduling are both after two or three of them only; what all
the others do is said here once, as one relation (`Quiet`), and cited from there.
-/

import CouncilLogic.Lib.Life
import CouncilLogic.Service.Application

namespace CouncilLogic
namespace Service

open Prog (Keeps wp)

variable {R : Prog.Rules CouncilApplication AppQuestion AppAnswer}
  {app app' app'' : CouncilApplication}

/-- The id and the question of a run. -/
def CouncilRun.request (r : CouncilRun) : Str × Str := (r.runId, r.question)

/-- The bindings, the runs but for their status, and the history are the same. -/
structure Quiet (app app' : CouncilApplication) : Prop where
  bindings : app'.bindings = app.bindings
  runs : app'.runs.map CouncilRun.request = app.runs.map CouncilRun.request
  bound : app'.bound = app.bound
  created : app'.created = app.created
  drawn : app'.drawn = app.drawn

/-- Nothing has changed where nothing was done. -/
theorem Quiet.refl (app : CouncilApplication) : Quiet app app := ⟨rfl, rfl, rfl, rfl, rfl⟩

/-- Two operations that leave the bindings and the runs alone leave them alone together. -/
theorem Quiet.trans (h : Quiet app app') (h' : Quiet app' app'') : Quiet app app'' where
  bindings := h'.bindings.trans h.bindings
  runs := h'.runs.trans h.runs
  bound := h'.bound.trans h.bound
  created := h'.created.trans h.created
  drawn := h'.drawn.trans h.drawn

/-- A run is there before if it is there after. -/
theorem Quiet.mem {r : CouncilRun} (h : Quiet app app') (hr : r ∈ app'.runs) :
    ∃ r' ∈ app.runs, r'.runId = r.runId ∧ r'.question = r.question := by
  have hmem : r.request ∈ app'.runs.map CouncilRun.request := List.mem_map_of_mem hr
  rw [h.runs] at hmem
  obtain ⟨r', hr', heq⟩ := List.mem_map.1 hmem
  exact ⟨r', hr', congrArg Prod.fst heq, congrArg Prod.snd heq⟩

/-- What is left alone in one direction is the same in the other. -/
theorem Quiet.symm (h : Quiet app app') : Quiet app' app :=
  ⟨h.bindings.symm, h.runs.symm, h.bound.symm, h.created.symm, h.drawn.symm⟩

/-- The same runs are there before and after. -/
theorem Quiet.run?_isNone (h : Quiet app app') (runId : Str) :
    (app'.run? runId).isNone = (app.run? runId).isNone := by
  have hnone : ∀ {a b : CouncilApplication}, Quiet a b → a.run? runId = none →
      b.run? runId = none := by
    intro a b h hnone
    refine Rows.find_eq_none.2 fun r hr hid => ?_
    obtain ⟨r', hr', hid', -⟩ := h.mem hr
    exact Rows.find_eq_none.1 hnone r' hr' (hid'.trans hid)
  cases ha : app.run? runId with
  | none => rw [hnone h ha]
  | some r =>
    cases hb : app'.run? runId with
    | none => rw [hnone h.symm hb] at ha; cases ha
    | some r' => rfl

/-- A status that is written changes no run but for its status. -/
theorem quiet_withStatus (runId status : Str) : Quiet app (app.withStatus runId status) := by
  refine ⟨rfl, ?_, rfl, rfl, rfl⟩
  unfold CouncilApplication.withStatus Rows.change
  rw [List.map_map]
  refine List.map_congr_left fun r _ => ?_
  simp only [Function.comp]
  split <;> rfl

/-- Only what is in memory has changed. -/
theorem quiet_memory (h : (app'.bindings, app'.runs, app'.bound, app'.created, app'.drawn) =
    (app.bindings, app.runs, app.bound, app.created, app.drawn)) : Quiet app app' := by
  simp only [Prod.mk.injEq] at h
  obtain ⟨hbindings, hruns, hbound, hcreated, hdrawn⟩ := h
  exact ⟨hbindings, by rw [hruns], hbound, hcreated, hdrawn⟩

/-- The phase of a job is no part of the stores. -/
theorem quiet_withPhase (position : ℕ) (job : Job) (phase : Phase) :
    Quiet app (app.withPhase position job phase) := ⟨rfl, rfl, rfl, rfl, rfl⟩

/-- A move of a worker writes the status of its run at most. -/
theorem quiet_work (move : WorkerMove) : Quiet app (app.work move) := by
  unfold CouncilApplication.work
  cases move with
  | start position =>
    dsimp only
    repeat' split
    all_goals first | exact .refl _ | exact quiet_withPhase _ _ _
  | status position status =>
    dsimp only
    repeat' split
    all_goals first | exact .refl _ | exact quiet_withStatus _ _
  | finish position status =>
    dsimp only
    repeat' split
    all_goals first | exact .refl _ | exact (quiet_withStatus _ _).trans (quiet_withPhase _ _ _)

/-- Whatever the workers do in between, they leave the bindings and the runs alone. -/
theorem quiet_works (moves : List WorkerMove) :
    Quiet app (moves.foldl CouncilApplication.work app) := by
  induction moves generalizing app with
  | nil => exact .refl app
  | cons move moves ih => exact (quiet_work move).trans ih

/-! ### Quiet programs -/

section
variable (hR : ∀ app app', Quiet app app' → R.guar app app')
include hR

/-- A change of the books in memory is quiet when the change is. -/
theorem keeps_modify {f : CouncilApplication → CouncilApplication} (hf : ∀ app, Quiet app (f app)) :
    Keeps R Quiet (modify f) := fun app => ⟨hR _ _ (hf app), hf app⟩

/-- A write of what is in memory, and what follows it. -/
theorem keeps_put {α : Type} {p : AppM α} (hq : Quiet app app') (hp : Keeps R Quiet p) :
    wp R (fun _ s => Quiet app s) (fun _ s => Quiet app s) (.put app' p) app :=
  ⟨hR _ _ hq, Prog.wp_mono (fun _ _ => hq.trans) (fun _ _ => hq.trans) (hp app')⟩

/-- Waiting for the workers is quiet, whatever they do meanwhile. -/
theorem keeps_workers : Keeps R Quiet workers := fun _ moves _ =>
  ⟨hR _ _ (quiet_works moves), quiet_works moves⟩

omit hR in
/-- A transaction that only reads is quiet, also when it fails. -/
theorem keeps_transaction : Keeps R Quiet transaction := by
  intro app failure _
  cases failure with
  | none => exact .refl app
  | some e => exact .refl app

/-- Reading a run is quiet. -/
theorem keeps_getRun (runId : Str) : Keeps R Quiet (getRun runId) :=
  .bind .trans (keeps_transaction) fun _ => .bind .trans (keeps_workers hR) fun _ app =>
    .refl app

/-- Writing the status of a run is quiet. -/
theorem keeps_setRunStatus (runId status : Str) : Keeps R Quiet (setRunStatus runId status) := by
  refine .bind .trans (keeps_transaction) fun _ app => ?_
  refine Prog.wp_bind.2 ((Prog.wp_read app).2 ?_)
  cases app.run? runId with
  | none => exact .refl app
  | some r => exact ⟨hR _ _ (quiet_withStatus _ _), quiet_withStatus _ _⟩

/-- Taking a slot is quiet. -/
theorem keeps_acquire : Keeps R Quiet acquire := by
  intro app
  show wp R _ _ (if app.slots = 0 then _ else _) app
  split
  · exact .refl app
  · exact keeps_put hR (by exact quiet_memory rfl) (Prog.keeps_pure .refl _)

/-- Giving a slot back is quiet. -/
theorem keeps_release : Keeps R Quiet release := by
  intro app
  show wp R _ _ (if app.slots < app.capacity then _ else _) app
  split
  · exact keeps_put hR (by exact quiet_memory rfl) (Prog.keeps_pure .refl _)
  · exact .refl app

/-- Submitting a job to the executor is quiet, also when the executor refuses it. -/
theorem keeps_submit (principalId runId : Str) : Keeps R Quiet (submit principalId runId) := by
  intro app failure _
  cases failure with
  | some e => exact .refl app
  | none => exact ⟨hR _ _ ⟨rfl, rfl, rfl, rfl, rfl⟩, ⟨rfl, rfl, rfl, rfl, rfl⟩⟩

/-- Taking a run off the schedule is quiet. -/
theorem keeps_discard (runId : Str) : Keeps R Quiet (discard runId) :=
  keeps_modify hR fun _ => by exact quiet_memory rfl

/-- Releasing the slot of a run is quiet when the draining that follows is. -/
theorem keeps_releaseSlot {drain : AppM Unit} (hdrain : Keeps R Quiet drain) (runId : Str) :
    Keeps R Quiet (releaseSlot drain runId) :=
  .bind .trans (keeps_modify hR fun _ => by exact quiet_memory rfl) fun _ =>
    .bind .trans (keeps_release hR) fun _ => hdrain

/-- Submitting a run with a slot in hand is quiet, on the way back from a failure too. -/
theorem keeps_submitAcquired {drain : AppM Unit} (hdrain : Keeps R Quiet drain)
    (principalId runId : Str) : Keeps R Quiet (submitAcquired drain principalId runId) := by
  intro app
  show wp R _ _ (if runId ∈ app.scheduledRunIds then _ else _) app
  split
  · refine keeps_put hR (by exact quiet_memory rfl) ?_
    exact .bind .trans (keeps_release hR) fun _ => Prog.keeps_raise .refl _
  · refine keeps_put hR (by exact quiet_memory rfl) ?_
    refine .bind .trans (keeps_submit hR principalId runId).catching fun submitted => ?_
    cases submitted with
    | error e => exact .bind .trans (keeps_discard hR runId) fun _ => Prog.keeps_raise .refl _
    | ok _ =>
      refine .bind .trans (keeps_workers hR) fun _ app => ?_
      show wp R _ _ (if app.done runId then _ else _) app
      split
      · exact (Keeps.bind .trans (keeps_releaseSlot hR hdrain runId).catching fun _ =>
          Prog.keeps_pure .refl _) app
      · exact .refl app

/-- Draining the pending runs is quiet for any number of rounds. -/
theorem keeps_drainPending (rounds : ℕ) : Keeps R Quiet (drainPending rounds) := by
  induction rounds with
  | zero => exact Prog.keeps_pure .refl _
  | succ rounds ih =>
    intro app
    refine Prog.wp_bind.2 ((Prog.wp_read app).2 ?_)
    split
    · exact .refl app
    · rename_i principalId runId rest _
      split
      · exact .refl app
      · refine (Keeps.bind .trans (keeps_acquire hR) fun acquired => ?_) app
        split
        · exact Prog.keeps_pure .refl _
        · refine .bind .trans (keeps_modify hR fun _ => by exact quiet_memory rfl) fun _ => ?_
          refine .bind .trans (keeps_submitAcquired hR ih principalId runId).catching
            fun submitted => ?_
          cases submitted with
          | error e => exact .bind .trans (keeps_release hR) fun _ => Prog.keeps_raise .refl _
          | ok _ => exact ih

/-- Draining the pending runs is quiet. -/
theorem keeps_drainPendingLocked : Keeps R Quiet drainPendingLocked :=
  fun app => keeps_drainPending hR _ app

/-- Queueing a run for recovery is quiet. -/
theorem keeps_queueRecovery (principalId runId : Str) :
    Keeps R Quiet (queueRecovery principalId runId) := by
  intro app
  show wp R _ _ (if runId ∈ app.scheduledRunIds ∨ runId ∈ app.pendingRunIds then _ else _) app
  split
  · exact .refl app
  · exact keeps_put hR (by exact quiet_memory rfl) (Prog.keeps_pure .refl _)

/-- Scheduling a run that is not over is quiet. -/
theorem keeps_ensureScheduled (principalId runId status : Str) :
    Keeps R Quiet (ensureScheduled principalId runId status) := by
  unfold ensureScheduled
  split
  · exact Prog.keeps_pure .refl _
  · intro app
    show wp R _ _ (if runId ∉ app.scheduledRunIds ∧ runId ∉ app.pendingRunIds then _ else _) app
    split
    · exact (Keeps.bind .trans (keeps_queueRecovery hR principalId runId) fun _ =>
        keeps_drainPendingLocked hR) app
    · exact .refl app

/-- Reading a run for its owner is quiet. -/
theorem keeps_publicRun (runId : Str) : Keeps R Quiet (publicRun runId) := by
  refine .bind .trans (keeps_getRun hR runId) fun run => ?_
  split
  · exact Prog.keeps_raise .refl _
  · exact Prog.keeps_pure .refl _

/-- Queueing the runs that are not over is quiet. -/
theorem keeps_queueNonterminal (bindings : List RunBinding) :
    Keeps R Quiet (queueNonterminal bindings) := by
  induction bindings with
  | nil => exact Prog.keeps_pure .refl _
  | cons b bindings ih =>
    refine .bind .trans (keeps_getRun hR b.runId) fun run => ?_
    cases run with
    | none => exact .bind .trans (Prog.keeps_pure .refl ()) fun _ => ih
    | some run =>
      dsimp only
      split
      · exact .bind .trans (Prog.keeps_pure .refl ()) fun _ => ih
      · exact .bind .trans (keeps_queueRecovery hR _ _) fun _ => ih

/-- The callback of a job that is done is quiet. -/
theorem keeps_callback (runId : Str) : Keeps R Quiet (callback runId) := by
  intro app
  show wp R _ _ (if app.done runId then _ else _) app
  split
  · exact (Keeps.bind .trans
      (keeps_releaseSlot hR (keeps_drainPendingLocked hR) runId).catching fun _ =>
        Prog.keeps_pure .refl _) app
  · exact .refl app

/-- Closing the application is quiet. -/
theorem keeps_close : Keeps R Quiet close := keeps_modify hR fun _ => by exact quiet_memory rfl

/-- Recovery after a start is quiet: it schedules runs and writes no binding. -/
theorem keeps_recoverNonterminalRuns : Keeps R Quiet recoverNonterminalRuns :=
  .bind .trans keeps_transaction fun _ => Prog.keeps_read fun app =>
    (Keeps.bind .trans (keeps_queueNonterminal hR app.bindings) fun _ =>
      keeps_drainPendingLocked hR) app

/-- Opening the application is quiet. -/
theorem keeps_openApplication (maxWorkers maxQueue : ℕ) :
    Keeps R Quiet (openApplication maxWorkers maxQueue) := by
  refine .bind .trans keeps_transaction fun _ => Prog.keeps_read fun app => ?_
  split
  · exact .refl app
  · exact keeps_put hR (by exact quiet_memory rfl) (keeps_recoverNonterminalRuns hR)

end

/-! ### The branches of `create_run` -/

variable {b : RunBinding}

/-- A transaction that only reads leaves the application as it is, whether it fails or not. -/
theorem transaction_spec : wp R (fun _ s => s = app) (fun _ s => s = app) transaction app := by
  intro failure _
  cases failure with
  | none => rfl
  | some e => rfl

/-- Only one of the six principals is authorized, and asking changes nothing. -/
theorem authorizeAction_spec (principalId : Str) :
    wp R (fun _ s => s = app ∧ principalId ∈ sixPrincipals) (fun _ s => s = app)
      (authorizeAction principalId) app := by
  unfold authorizeAction
  split
  · rfl
  · rename_i hprincipal
    refine Prog.wp_seq transaction_spec fun _ app' happ => ?_
    rintro (_ | code) _
    · exact ⟨happ, not_not.1 hprincipal⟩
    · exact happ

/-- What is found under a principal and a key is its binding, judged by the hash of the payload.
-/
theorem findRunBinding_spec (principalId key payloadHash : Str) :
    wp R (fun found s => s = app ∧
        found = (app.binding? principalId key).map fun b => (b.code payloadHash, b.runId))
      (fun _ s => s = app) (findRunBinding principalId key payloadHash) app := by
  refine Prog.wp_seq transaction_spec fun _ app' happ => ?_
  subst happ
  exact ⟨rfl, rfl⟩

/-- A binding that is found under a principal and a key has both. -/
theorem binding?_some {principalId key : Str} (h : app.binding? principalId key = some b) :
    b ∈ app.bindings ∧ b.principalId = principalId ∧ b.idempotencyKey = key := by
  obtain ⟨hmem, hpair⟩ := Rows.find_some h
  exact ⟨hmem, congrArg Prod.fst hpair, congrArg Prod.snd hpair⟩

/-- A binding is a replay for its own payload and a conflict for every other one. -/
theorem code_eq (b : RunBinding) (payloadHash : Str) :
    (b.code payloadHash = .replay ∧ b.payloadHash = payloadHash) ∨
      (b.code payloadHash = .idempotencyConflict ∧ b.payloadHash ≠ payloadHash) := by
  unfold RunBinding.code
  split
  · rename_i heq
    exact .inl ⟨rfl, heq⟩
  · rename_i hne
    exact .inr ⟨rfl, hne⟩

/-- **The rule for `create_run`**: it raises and nothing has changed, or the pair is bound with
the same payload, or it has no binding. -/
theorem wp_createRun {rt : Runtime} {post : CreateRunResult → CouncilApplication → Prop}
    {exc : AppError → CouncilApplication → Prop} {principalId question key : Str}
    (hexc : ∀ e, exc e app)
    (hreplay : ∀ cleanQuestion cleanKey b, validateQuestion question = .ok cleanQuestion →
      validateIdempotencyKey key = .ok cleanKey → app.closed = false →
      app.binding? principalId cleanKey = some b → b.payloadHash = requestHash rt cleanQuestion →
      wp R post exc (replayRun cleanQuestion b) app)
    (hnew : ∀ cleanQuestion cleanKey, validateQuestion question = .ok cleanQuestion →
      validateIdempotencyKey key = .ok cleanKey → app.closed = false →
      app.binding? principalId cleanKey = none → principalId ∈ sixPrincipals →
      wp R post exc
        (newRun cleanQuestion principalId cleanKey (requestHash rt cleanQuestion)) app) :
    wp R post exc (createRun rt principalId question key) app := by
  refine Prog.wp_bind.2 ((Prog.wp_ofExcept _ _).2 ⟨fun cleanQuestion hq => ?_, fun _ _ => hexc _⟩)
  refine Prog.wp_bind.2 ((Prog.wp_ofExcept _ _).2 ⟨fun cleanKey hk => ?_, fun _ _ => hexc _⟩)
  show wp _ _ _ (if app.closed = true then _ else _) app
  split
  · exact hexc _
  · rename_i hclosed
    refine Prog.wp_seq (Prog.wp_mono (fun _ _ h => h) (fun e s (h : s = app) => h ▸ hexc e)
      (authorizeAction_spec principalId)) fun _ app' ⟨happ, hprincipal⟩ => ?_
    obtain rfl := happ.symm
    refine Prog.wp_seq (Prog.wp_mono (fun _ _ h => h) (fun e s (h : s = app) => h ▸ hexc e)
      (findRunBinding_spec principalId cleanKey _)) fun existing app' ⟨happ, hfound⟩ => ?_
    obtain rfl := happ.symm
    cases hb : app.binding? principalId cleanKey with
    | none =>
      rw [hb] at hfound
      subst hfound
      exact hnew _ _ hq hk (Bool.eq_false_iff.2 hclosed) hb hprincipal
    | some b =>
      rw [hb] at hfound
      subst hfound
      have hbound := hreplay _ _ b hq hk (Bool.eq_false_iff.2 hclosed) hb
      obtain ⟨-, rfl, rfl⟩ := binding?_some hb
      rw [Option.map_some]
      rcases code_eq b (requestHash rt cleanQuestion) with
        ⟨hcode, hhash⟩ | ⟨hcode, -⟩
      · rw [hcode, ← hhash]
        exact hbound hhash
      · rw [hcode]
        exact hexc _

end Service
end CouncilLogic
