/-
# The books of the scheduler

A slot is free, held by the operation that runs, or taken by a scheduled run; a scheduled run
has one job of the executor; a run that is pending waits for a slot.  What is scheduled or
pending stays covered until its run is over.

The stores and the executor do not fail here: a transaction or a submission that raises
leaves the books as they are, or a slot behind.

The books are `_scheduled_run_ids`, `_pending_recovery`, the semaphore `_slots` and the executor of
`CouncilApplication` in `src/model_council/service.py`.  They are read under its state lock, so an
operation sees them between moves of the workers and never within one.
-/

import CouncilLogic.Service.Ownership

namespace CouncilLogic
namespace Service

open Prog (wp)

variable {app app' app'' : CouncilApplication} {held rounds : ℕ} {runId r : Str}

namespace CouncilApplication

/-- The run has a terminal status. -/
def Over (app : CouncilApplication) (runId : Str) : Prop :=
  ∃ run, app.run? runId = some run ∧ run.status ∈ terminalStatuses

/-- The run is scheduled, pending or over. -/
def Covered (app : CouncilApplication) (runId : Str) : Prop :=
  runId ∈ app.scheduledRunIds ∨ runId ∈ app.pendingRunIds ∨ app.Over runId

end CouncilApplication

/-- The slots, the scheduled and the pending runs and the jobs agree; the operation that runs
holds some slots. -/
structure Accounts (held : ℕ) (app : CouncilApplication) : Prop where
  slots : app.slots + app.scheduledRunIds.length + held = app.capacity
  jobs : (app.jobs.map Job.runId).Perm app.scheduledRunIds
  scheduled : app.scheduledRunIds.Nodup
  pending : app.pendingRecovery.map Prod.snd = app.pendingRunIds
  waiting : app.pendingRunIds.Nodup
  apart : ∀ r ∈ app.scheduledRunIds, r ∉ app.pendingRunIds
  exist : ∀ r, r ∈ app.scheduledRunIds ∨ r ∈ app.pendingRunIds → app.run? r ≠ none
  finished : ∀ job ∈ app.jobs, job.phase = .finished → app.Over job.runId
  once : app.doubled = false

/-- What scheduling leaves alone. -/
structure Serves (app app' : CouncilApplication) : Prop where
  quiet : Quiet app app'
  closed : app'.closed = app.closed
  capacity : app'.capacity = app.capacity
  covered : ∀ r, app.Covered r → app'.Covered r

/-- Scheduling that adds no pending run. -/
structure Drains (app app' : CouncilApplication) : Prop extends Serves app app' where
  pending : app'.pendingRecovery.length ≤ app.pendingRecovery.length

/-- What the workers may do: nothing is scheduled, queued or given back. -/
structure Works (app app' : CouncilApplication) : Prop extends Drains app app' where
  slots : app'.slots = app.slots
  queue : app'.pendingRecovery = app.pendingRecovery

/-- No run waits while a slot is free. -/
def Drained (app : CouncilApplication) : Prop :=
  app.closed = false → app.pendingRecovery ≠ [] → app.slots = 0

/-- An application serves what it serves. -/
theorem Serves.refl (app : CouncilApplication) : Serves app app :=
  ⟨.refl app, rfl, rfl, fun _ h => h⟩

/-- What is served after two steps is served after both. -/
theorem Serves.trans (h : Serves app app') (h' : Serves app' app'') : Serves app app'' where
  quiet := h.quiet.trans h'.quiet
  closed := h'.closed.trans h.closed
  capacity := h'.capacity.trans h.capacity
  covered r hr := h'.covered r (h.covered r hr)

/-- Draining nothing drains nothing. -/
theorem Drains.refl (app : CouncilApplication) : Drains app app := ⟨.refl app, Nat.le_refl _⟩

/-- Two rounds of draining are one draining. -/
theorem Drains.trans (h : Drains app app') (h' : Drains app' app'') : Drains app app'' :=
  ⟨h.toServes.trans h'.toServes, h'.pending.trans h.pending⟩

/-- Workers that do nothing have done nothing. -/
theorem Works.refl (app : CouncilApplication) : Works app app := ⟨.refl app, rfl, rfl⟩

/-- What the workers do in two steps they do in both. -/
theorem Works.trans (h : Works app app') (h' : Works app' app'') : Works app app'' :=
  ⟨h.toDrains.trans h'.toDrains, h'.slots.trans h.slots, h'.queue.trans h.queue⟩

/-- No run waits for a free slot, and the workers free none: only the callback does. -/
theorem Drained.works (hd : Drained app) (h : Works app app') : Drained app' := by
  intro hopen hne
  rw [h.slots]
  exact hd (h.closed ▸ hopen) (h.queue ▸ hne)

/-! ### The jobs -/

/-- A run has one job at most. -/
theorem Accounts.jobs_unique (h : Accounts held app) : Rows.Unique Job.runId app.jobs :=
  h.jobs.nodup_iff.2 h.scheduled

/-- A run that has a job is scheduled. -/
theorem Accounts.mem_scheduled (h : Accounts held app) {job : Job} (hjob : job ∈ app.jobs) :
    job.runId ∈ app.scheduledRunIds :=
  h.jobs.mem_iff.1 (List.mem_map_of_mem hjob)

/-- A scheduled run is in no other job. -/
theorem Accounts.job_eq (h : Accounts held app) {job job' : Job} (hjob : job ∈ app.jobs)
    (hjob' : job' ∈ app.jobs) (hid : job'.runId = job.runId) : job' = job :=
  h.jobs_unique.eq hjob' hjob hid

/-! ### Workers -/

/-- A status is written into one run. -/
theorem run?_withStatus (app : CouncilApplication) (runId status r : Str) :
    (app.withStatus runId status).run? r =
      if r = runId then (app.run? runId).map (fun run => { run with status := status })
      else app.run? r :=
  Rows.find_change_key (by exact fun _ h => h) r

/-- The status of one run does not uncover another. -/
theorem covered_withStatus {status : Str} (hne : r ≠ runId) (h : app.Covered r) :
    (app.withStatus runId status).Covered r := by
  rcases h with h | h | ⟨run, hrun, hover⟩
  · exact .inl h
  · exact .inr (.inl h)
  · refine .inr (.inr ⟨run, ?_, hover⟩)
    rw [run?_withStatus, if_neg hne]
    exact hrun

/-- The status of a run changes whose job is not done. -/
theorem Accounts.withStatus (h : Accounts held app) {status : Str}
    (hjob : ∀ job ∈ app.jobs, job.runId = runId → job.phase ≠ .finished) :
    Accounts held (app.withStatus runId status) :=
  { h with
    exist := by
      intro r hr
      rw [run?_withStatus]
      split
      · rename_i heq
        subst heq
        simpa using h.exist r hr
      · exact h.exist r hr
    finished := by
      intro job hmem hphase
      obtain ⟨run, hrun, hover⟩ := h.finished job hmem hphase
      refine ⟨run, ?_, hover⟩
      rw [run?_withStatus, if_neg fun hid => hjob job hmem hid hphase]
      exact hrun }

/-- A worker may end its run, for the run is scheduled. -/
theorem works_withStatus {status : Str} (hscheduled : runId ∈ app.scheduledRunIds) :
    Works app (app.withStatus runId status) where
  quiet := quiet_withStatus _ _
  closed := rfl
  capacity := rfl
  slots := rfl
  queue := rfl
  pending := Nat.le_refl _
  covered := by
    intro r hr
    by_cases hid : r = runId
    · exact .inl (hid ▸ hscheduled)
    · exact covered_withStatus hid hr

/-- The phase of a job changes; a run is over before its job is done. -/
theorem Accounts.withPhase (h : Accounts held app) {position : ℕ} {job : Job} {phase : Phase}
    (hjob : app.jobs[position]? = some job) (hover : phase = .finished → app.Over job.runId) :
    Accounts held (app.withPhase position job phase) :=
  { h with
    jobs := by
      have hset : (app.jobs.set position { job with phase := phase }).map Job.runId =
          app.jobs.map Job.runId := by
        rw [List.map_set]
        obtain ⟨hlt, rfl⟩ := List.getElem?_eq_some_iff.1 hjob
        refine List.ext_getElem? fun i => ?_
        rw [List.getElem?_set]
        split
        · rename_i hi
          subst hi
          simp [hlt]
        · rfl
      exact hset ▸ h.jobs
    finished := by
      intro job' hmem hphase
      rcases List.mem_or_eq_of_mem_set hmem with hold | rfl
      · exact h.finished job' hold hphase
      · exact hover hphase }

/-- A worker may begin its job. -/
theorem works_withPhase (position : ℕ) (job : Job) (phase : Phase) :
    Works app (app.withPhase position job phase) where
  quiet := quiet_withPhase _ _ _
  closed := rfl
  capacity := rfl
  slots := rfl
  queue := rfl
  pending := Nat.le_refl _
  covered _ h := h

/-- One move of a worker keeps the books. -/
theorem work_accounts (h : Accounts held app) (move : WorkerMove) :
    Accounts held (app.work move) ∧ Works app (app.work move) := by
  have hsame : Accounts held app ∧ Works app app := ⟨h, .refl app⟩
  have hexecuting : ∀ {position : ℕ} {job : Job} (status : Str),
      app.jobs[position]? = some job → job.phase = .executing →
      Accounts held (app.withStatus job.runId status) ∧
        Works app (app.withStatus job.runId status) := by
    intro position job status hjob hphase
    have hmem := List.mem_of_getElem? hjob
    refine ⟨h.withStatus fun job' hmem' hid => ?_, works_withStatus (h.mem_scheduled hmem)⟩
    obtain rfl := h.job_eq hmem hmem' hid
    rw [hphase]
    decide
  cases move with
  | start position =>
    cases hjob : app.jobs[position]? with
    | none => simpa only [CouncilApplication.work, hjob] using hsame
    | some job =>
      simp only [CouncilApplication.work, hjob]
      split
      · exact ⟨h.withPhase hjob fun h => (by cases h), works_withPhase _ _ _⟩
      · exact hsame
  | status position status =>
    cases hjob : app.jobs[position]? with
    | none => simpa only [CouncilApplication.work, hjob] using hsame
    | some job =>
      simp only [CouncilApplication.work, hjob]
      split
      · exact hexecuting status hjob ‹_›
      · exact hsame
  | finish position status =>
    cases hjob : app.jobs[position]? with
    | none => simpa only [CouncilApplication.work, hjob] using hsame
    | some job =>
      simp only [CouncilApplication.work, hjob]
      split
      · rename_i hmove
        obtain ⟨haccounts, hworks⟩ := hexecuting status hjob hmove.1
        refine ⟨haccounts.withPhase hjob fun _ => ?_, hworks.trans (works_withPhase _ _ _)⟩
        -- the run of the job exists, and has the terminal status now
        cases hrun : app.run? job.runId with
        | none =>
          exact absurd hrun (h.exist _ (.inl (h.mem_scheduled (List.mem_of_getElem? hjob))))
        | some run =>
          refine ⟨{ run with status := status }, ?_, hmove.2⟩
          rw [run?_withStatus, if_pos rfl, hrun]
          rfl
      · exact hsame

/-- Whatever the workers do, the books stay balanced. -/
theorem works_accounts (h : Accounts held app) (moves : List WorkerMove) :
    Accounts held (moves.foldl CouncilApplication.work app) ∧
      Works app (moves.foldl CouncilApplication.work app) := by
  induction moves generalizing app with
  | nil => exact ⟨h, .refl app⟩
  | cons move moves ih =>
    obtain ⟨hstep, hworks⟩ := work_accounts h move
    exact ⟨(ih hstep).1, hworks.trans (ih hstep).2⟩

/-! ### The parts of an operation -/

/-- No transaction and no submission fails. -/
def Smooth : (q : AppQuestion) → AppAnswer q → Prop
  | .transaction, failure => failure = (none : Option AppError)
  | .submit, failure => failure = (none : Option AppError)
  | _, _ => True

/-- Smooth answers, and any writes. -/
def smoothRules : Prog.Rules CouncilApplication AppQuestion AppAnswer where
  env := Smooth
  guar := fun _ _ => True

/-- Under smooth answers, a program ends so and does not raise. -/
def Does {α : Type} (p : AppM α) (app : CouncilApplication)
    (post : α → CouncilApplication → Prop) : Prop :=
  wp smoothRules post (fun _ _ => False) p app

section
variable {α β : Type} {p : AppM α} {f : α → AppM β}
  {post mid : α → CouncilApplication → Prop} {post' : β → CouncilApplication → Prop}

/-- Two programs do one thing after the other. -/
theorem Does.bind (h : Does p app mid) (hf : ∀ a app', mid a app' → Does (f a) app' post') :
    Does (p >>= f) app post' :=
  Prog.wp_seq h hf

/-- What a program does is whatever follows from it. -/
theorem Does.mono (h : Does p app mid) (hpost : ∀ a app', mid a app' → post a app') :
    Does p app post :=
  Prog.wp_mono hpost (fun _ _ h => h) h

/-- Nothing is caught of a program that does not raise. -/
theorem Does.catching (h : Does p app mid) :
    Does p.catching app fun result app' => ∃ a, result = .ok a ∧ mid a app' :=
  Prog.wp_catching.2 (Prog.wp_mono (fun a _ h => ⟨a, rfl, h⟩) (fun _ _ h => h.elim) h)

end

/-- A transaction that only reads does nothing. -/
theorem transaction_does : Does transaction app fun _ s => s = app := by
  intro failure hsmooth
  obtain rfl : failure = none := hsmooth
  rfl

/-- A change of the books is made. -/
theorem modify_does (f : CouncilApplication → CouncilApplication) :
    Does (modify f) app fun _ s => s = f app := ⟨trivial, rfl⟩

/-- The workers move on while an operation waits, and the books stay balanced. -/
theorem workers_does (h : Accounts held app) :
    Does workers app fun _ s => Accounts held s ∧ Works app s :=
  fun moves _ => ⟨trivial, works_accounts h moves⟩

/-- Reading a run gives the run as the workers have left it. -/
theorem getRun_does (h : Accounts held app) (runId : Str) :
    Does (getRun runId) app fun run s =>
      Accounts held s ∧ Works app s ∧ run = s.run? runId := by
  refine transaction_does.bind fun _ app' happ => ?_
  subst happ
  exact (workers_does h).bind fun _ s ⟨h, hworks⟩ => ⟨h, hworks, rfl⟩

/-- A slot is taken, unless none is free. -/
theorem acquire_does (h : Accounts held app) :
    Does acquire app fun acquired s =>
      (acquired = false ∧ s = app ∧ app.slots = 0) ∨
      (acquired = true ∧ s = { app with slots := app.slots - 1 } ∧ Accounts (held + 1) s ∧
        app.slots ≠ 0) := by
  show wp _ _ _ (if app.slots = 0 then _ else _) app
  split
  · exact .inl ⟨rfl, rfl, ‹_›⟩
  · rename_i hslots
    refine ⟨trivial, .inr ⟨rfl, rfl, { h with slots := ?_ }, hslots⟩⟩
    have := h.slots
    dsimp only
    omega

/-- A slot that is held is given back: the semaphore is never released too often. -/
theorem release_does (h : Accounts (held + 1) app) :
    Does release app fun _ s => s = { app with slots := app.slots + 1 } ∧ Accounts held s := by
  have hslots := h.slots
  show wp _ _ _ (if app.slots < app.capacity then _ else _) app
  rw [if_pos (by omega)]
  refine ⟨trivial, rfl, { h with slots := ?_ }⟩
  dsimp only
  omega

/-- Slots that are counted anew change no run. -/
theorem drains_slots (n : ℕ) : Drains app { app with slots := n } :=
  ⟨⟨quiet_memory rfl, rfl, rfl, fun _ h => h⟩, Nat.le_refl _⟩

/-- The run of a job that is done is over. -/
theorem Accounts.done (h : Accounts held app) (hdone : app.done runId = true) :
    runId ∈ app.scheduledRunIds ∧ app.Over runId ∧
      ∀ job ∈ app.jobs, job.runId = runId → job.phase = .finished := by
  obtain ⟨job, hjob, hboth⟩ := List.any_eq_true.1 hdone
  simp only [Bool.and_eq_true, decide_eq_true_eq] at hboth
  obtain ⟨rfl, hphase⟩ := hboth
  refine ⟨h.mem_scheduled hjob, h.finished job hjob hphase, fun job' hjob' hid => ?_⟩
  rw [h.job_eq hjob hjob' hid]
  exact hphase

/-- A job that is done leaves the scheduled runs. -/
theorem Accounts.retire (h : Accounts held app) (hdone : app.done runId = true) :
    Accounts (held + 1) { app with
      jobs := app.jobs.filter fun job =>
        !(decide (job.runId = runId) && decide (job.phase = .finished))
      scheduledRunIds := app.scheduledRunIds.filter fun r => r ≠ runId } := by
  obtain ⟨hmem, -, hphase⟩ := h.done hdone
  have hjobs : (app.jobs.filter fun job =>
      !(decide (job.runId = runId) && decide (job.phase = .finished))) =
      app.jobs.filter fun job => decide (job.runId ≠ runId) := by
    refine List.filter_congr fun job hjob => ?_
    by_cases hid : job.runId = runId
    · simp [hid, hphase job hjob hid]
    · simp [hid]
  have hlength : (app.scheduledRunIds.filter fun r => decide (r ≠ runId)).length + 1 =
      app.scheduledRunIds.length := by
    have hsame : (app.scheduledRunIds.filter fun r => decide (r ≠ runId)) =
        app.scheduledRunIds.erase runId := by
      rw [h.scheduled.erase_eq_filter]
      exact List.filter_congr fun r _ => by by_cases hr : r = runId <;> simp [hr]
    rw [hsame]
    exact List.length_erase_add_one hmem
  constructor
  case slots =>
    have := h.slots
    dsimp only
    omega
  case jobs =>
    dsimp only
    have hmap : (app.jobs.filter fun job => decide (job.runId ≠ runId)).map Job.runId =
        (app.jobs.map Job.runId).filter fun r => decide (r ≠ runId) := by
      rw [List.filter_map]
      rfl
    rw [hjobs, hmap]
    exact h.jobs.filter _
  case scheduled => exact h.scheduled.filter _
  case pending => exact h.pending
  case waiting => exact h.waiting
  case apart => exact fun r hr => h.apart r (List.mem_of_mem_filter hr)
  case exist => exact fun r hr => h.exist r (hr.imp_left List.mem_of_mem_filter)
  case finished => exact fun job hjob => h.finished job (List.mem_of_mem_filter hjob)
  case once => exact h.once

/-- A drain that keeps the books and leaves no run waiting while a slot is free, wherever at
most so many runs are pending. -/
def DrainsUpTo (drain : AppM Unit) (n : ℕ) : Prop :=
  ∀ held app, Accounts held app → app.pendingRecovery.length ≤ n →
    Does drain app fun _ s => Accounts held s ∧ Drains app s ∧ Drained s

/-- The callback of a job that is done gives its slot back. -/
theorem releaseSlot_does {drain : AppM Unit} (h : Accounts held app)
    (hdone : app.done runId = true) (hdrain : DrainsUpTo drain app.pendingRecovery.length) :
    Does (releaseSlot drain runId) app fun _ s =>
      Accounts held s ∧ Drains app s ∧ Drained s := by
  have hretired := h.retire hdone
  have hdrains : Drains app { app with
      jobs := app.jobs.filter fun job =>
        !(decide (job.runId = runId) && decide (job.phase = .finished))
      scheduledRunIds := app.scheduledRunIds.filter fun r => r ≠ runId } := by
    refine ⟨⟨quiet_memory rfl, rfl, rfl, fun r hr => ?_⟩, Nat.le_refl _⟩
    by_cases hid : r = runId
    · exact .inr (.inr (hid ▸ (h.done hdone).2.1))
    · exact hr.imp_left fun hr => List.mem_filter.2 ⟨hr, decide_eq_true hid⟩
  refine (modify_does _).bind fun _ app₁ happ => ?_
  rw [← happ] at hretired hdrains
  refine (release_does hretired).bind fun _ app₂ ⟨happ, h₂⟩ => ?_
  have hdrains : Drains app app₂ := hdrains.trans (happ ▸ drains_slots _)
  exact (hdrain held app₂ h₂ hdrains.pending).mono fun _ s ⟨h, hdrains', hdrained⟩ =>
    ⟨h, hdrains.trans hdrains', hdrained⟩

/-- A run that is neither scheduled nor pending is scheduled with the slot that is held. -/
theorem Accounts.schedule (h : Accounts (held + 1) app) (hscheduled : runId ∉ app.scheduledRunIds)
    (hpending : runId ∉ app.pendingRunIds) (hrun : app.run? runId ≠ none) (principalId : Str) :
    Accounts held { app with
      scheduledRunIds := app.scheduledRunIds ++ [runId]
      jobs := app.jobs ++ [⟨principalId, runId, .queued⟩] } where
  slots := by
    have := h.slots
    simp only [List.length_append, List.length_singleton]
    omega
  jobs := by
    rw [List.map_append]
    exact h.jobs.append_right _
  scheduled := by
    refine List.nodup_append.2 ⟨h.scheduled, List.nodup_singleton _, fun r hr r' hr' heq => ?_⟩
    rw [List.mem_singleton.1 hr'] at heq
    exact hscheduled (heq ▸ hr)
  pending := h.pending
  waiting := h.waiting
  apart := by
    intro r hr
    rcases List.mem_append.1 hr with hr | hr
    · exact h.apart r hr
    · exact List.mem_singleton.1 hr ▸ hpending
  exist := by
    rintro r (hr | hr)
    · rcases List.mem_append.1 hr with hr | hr
      · exact h.exist r (.inl hr)
      · exact List.mem_singleton.1 hr ▸ hrun
    · exact h.exist r (.inr hr)
  finished := by
    intro job hjob hphase
    rcases List.mem_append.1 hjob with hjob | hjob
    · exact h.finished job hjob hphase
    · rw [List.mem_singleton.1 hjob] at hphase
      cases hphase
  once := h.once

/-- A submission adds the job of the run. -/
theorem submit_does (principalId runId : Str) :
    Does (submit principalId runId) app fun _ s =>
      s = { app with jobs := app.jobs ++ [⟨principalId, runId, .queued⟩] } := by
  intro failure hsmooth
  obtain rfl : failure = none := hsmooth
  exact ⟨trivial, rfl⟩

/-- `_submit_acquired` with a slot that is held: the run is not scheduled twice. -/
theorem submitAcquired_does {drain : AppM Unit} (h : Accounts (held + 1) app)
    (hscheduled : runId ∉ app.scheduledRunIds) (hpending : runId ∉ app.pendingRunIds)
    (hrun : app.run? runId ≠ none) (principalId : Str)
    (hdrain : DrainsUpTo drain app.pendingRecovery.length) :
    Does (submitAcquired drain principalId runId) app fun _ s =>
      Accounts held s ∧ Drains app s ∧ s.Covered runId := by
  have h₁ := h.schedule hscheduled hpending hrun principalId
  have hdrains : Drains app { app with
      scheduledRunIds := app.scheduledRunIds ++ [runId]
      jobs := app.jobs ++ [⟨principalId, runId, .queued⟩] } :=
    ⟨⟨quiet_memory rfl, rfl, rfl, fun _ hr => hr.imp_left (List.mem_append_left _)⟩, Nat.le_refl _⟩
  have hcovered : CouncilApplication.Covered { app with
      scheduledRunIds := app.scheduledRunIds ++ [runId]
      jobs := app.jobs ++ [⟨principalId, runId, .queued⟩] } runId :=
    .inl (List.mem_append_right _ (List.mem_singleton_self _))
  show wp _ _ _ (if runId ∈ app.scheduledRunIds then _ else _) app
  rw [if_neg hscheduled]
  refine ⟨trivial, (submit_does principalId runId).catching.bind fun submitted app₁ hsubmitted =>
    ?_⟩
  obtain ⟨_, rfl, rfl⟩ := hsubmitted
  refine (workers_does h₁).bind fun _ app₂ ⟨h₂, hworks⟩ => ?_
  have hdrains := hdrains.trans hworks.toDrains
  have hcovered := hworks.covered runId hcovered
  show wp _ _ _ (if app₂.done runId = true then _ else _) app₂
  split
  · rename_i hdone
    have hrelease := releaseSlot_does h₂ hdone fun held app h hle =>
      hdrain held app h (hle.trans hdrains.pending)
    refine hrelease.catching.bind fun _ app₃ ⟨_, _, h₃, hdrains₃, _⟩ => ?_
    exact ⟨h₃, hdrains.trans hdrains₃, hdrains₃.covered runId hcovered⟩
  · exact ⟨h₂, hdrains, hcovered⟩

/-- The first pending run is taken from the queue. -/
theorem Accounts.pop (h : Accounts held app) {principalId : Str} {rest : List (Str × Str)}
    (hpending : app.pendingRecovery = (principalId, runId) :: rest) :
    Accounts held { app with
        pendingRecovery := rest
        pendingRunIds := app.pendingRunIds.filter fun r => r ≠ runId } ∧
      runId ∉ app.scheduledRunIds ∧ app.run? runId ≠ none := by
  have hids : app.pendingRunIds = runId :: rest.map Prod.snd := by
    rw [← h.pending, hpending]
    rfl
  have hwaiting := h.waiting
  rw [hids] at hwaiting
  obtain ⟨hnot, hnodup⟩ := List.nodup_cons.1 hwaiting
  have hmem : runId ∈ app.pendingRunIds := hids ▸ List.mem_cons_self
  refine ⟨?_, fun hscheduled => h.apart runId hscheduled hmem, h.exist runId (.inr hmem)⟩
  exact { h with
    pending := by
      dsimp only
      rw [hids, List.filter_cons_of_neg (by simp)]
      refine (List.filter_eq_self.2 fun r hr => decide_eq_true ?_).symm
      rintro rfl
      exact hnot hr
    waiting := h.waiting.filter _
    apart := fun r hr hr' => h.apart r hr (List.mem_of_mem_filter hr')
    exist := fun r hr => h.exist r (hr.imp_right List.mem_of_mem_filter) }

/-- **The drain** keeps the books, and leaves no run waiting while a slot is free: as many
rounds as there are pending runs, and one, are enough. -/
theorem drainPending_does (rounds : ℕ) : DrainsUpTo (drainPending (rounds + 1)) rounds := by
  induction rounds with
  | zero =>
    intro held app h hle
    have hnil : app.pendingRecovery = [] := List.eq_nil_of_length_eq_zero (Nat.le_zero.1 hle)
    refine Prog.wp_bind.2 ((Prog.wp_read app).2 ?_)
    rw [hnil]
    exact ⟨h, .refl app, fun _ hne => absurd hnil hne⟩
  | succ rounds ih =>
    intro held app h hle
    refine Prog.wp_bind.2 ((Prog.wp_read app).2 ?_)
    rcases hpending : app.pendingRecovery with _ | ⟨⟨principalId, runId⟩, rest⟩
    · exact ⟨h, .refl app, fun _ hne => absurd hpending hne⟩
    have hrest : rest.length ≤ rounds := by
      rw [hpending, List.length_cons] at hle
      omega
    by_cases hclosed : app.closed = true
    · show wp _ _ _ (if app.closed = true then _ else _) app
      rw [if_pos hclosed]
      exact ⟨h, .refl app, fun hopen => absurd (hclosed.symm.trans hopen) (by decide)⟩
    show wp _ _ _ (if app.closed = true then _ else _) app
    rw [if_neg hclosed]
    refine (acquire_does h).bind fun acquired app₁ hacquired => ?_
    rcases hacquired with ⟨rfl, rfl, hslots⟩ | ⟨rfl, happ, h₁, -⟩
    · exact ⟨h, .refl _, fun _ _ => hslots⟩
    have hpending₁ : app₁.pendingRecovery = (principalId, runId) :: rest := by
      rw [happ]
      exact hpending
    have hpop := h₁.pop hpending₁
    refine (modify_does _).bind fun _ app₂ happ₂ => ?_
    have hlength : app₂.pendingRecovery.length = rest.length := by rw [happ₂]
    have hqueued : Accounts (held + 1) app₂ ∧ runId ∉ app₂.scheduledRunIds ∧
        runId ∉ app₂.pendingRunIds ∧ app₂.run? runId ≠ none := by
      subst happ₂
      exact ⟨hpop.1, hpop.2.1, by simp, hpop.2.2⟩
    obtain ⟨h₂, hscheduled, hpending₂, hrun⟩ := hqueued
    have hsubmitted := submitAcquired_does h₂ hscheduled hpending₂ hrun principalId
      fun held app h hle => ih held app h (hle.trans (hlength.le.trans hrest))
    refine hsubmitted.catching.bind fun submitted app₃ hend => ?_
    obtain ⟨_, rfl, h₃, hdrains₃, hcovered₃⟩ := hend
    refine (ih held app₃ h₃ (hdrains₃.pending.trans (hlength.le.trans hrest))).mono
      fun _ app₄ ⟨h₄, hdrains₄, hdrained⟩ => ⟨h₄, ?_, hdrained⟩
    have hdrains := hdrains₃.trans hdrains₄
    subst happ₂ happ
    refine ⟨⟨Quiet.trans (by exact quiet_memory rfl) hdrains.quiet, hdrains.closed,
      hdrains.capacity,
      fun r hr => ?_⟩, ?_⟩
    · by_cases hid : r = runId
      · exact hid ▸ hdrains₄.covered runId hcovered₃
      · exact hdrains.covered r (hr.imp_right fun hr => hr.imp_left fun hr =>
          List.mem_filter.2 ⟨hr, decide_eq_true hid⟩)
    · rw [hpending, List.length_cons]
      exact hdrains.pending.trans (hlength.le.trans (Nat.le_succ _))

end Service
end CouncilLogic
