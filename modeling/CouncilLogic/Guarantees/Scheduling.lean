/-
# Slots, scheduled runs and pending runs

In an application that was made with `recover_jobs`, whatever requests arrive, workers do and
callbacks run, no slot is lost or given back twice, no run is scheduled or queued twice, and no
run that should go on is forgotten until the application is closed.

The application is `CouncilApplication` of `src/model_council/service.py`.  Its transactions and
its executor are assumed not to fail here; `CouncilLogic.Guarantees.Slots` is about an engine's
slots and not about these.
-/

import CouncilLogic.Guarantees.Idempotency
import CouncilLogic.Service.Execution
import CouncilLogic.Service.Serving

namespace CouncilLogic
namespace Service

variable {rt : Runtime} {maxWorkers maxQueue : ℕ} {app : CouncilApplication}

/-- The states of an application between its operations, if no store and no submission fails.
It was made on what any life of the service has left in the stores. -/
inductive Serving (rt : Runtime) (maxWorkers maxQueue : ℕ) : CouncilApplication → Prop
  | construct (oracle : ℕ → (q : AppQuestion) → AppAnswer q) (n : ℕ)
      (app app' : CouncilApplication) (hlife : AppLife rt (.idle {}) (.idle app))
      (hsmooth : ∀ i q, Smooth q (oracle i q))
      (hrun : (openApplication maxWorkers maxQueue).run oracle n app = (.ok (), app')) :
      Serving rt maxWorkers maxQueue app'
  | call (op : AppOp) (oracle : ℕ → (q : AppQuestion) → AppAnswer q) (n : ℕ)
      (app app' : CouncilApplication) (result : Except AppError (Option CreateRunResult))
      (h : Serving rt maxWorkers maxQueue app) (hsmooth : ∀ i q, Smooth q (oracle i q))
      (hrun : (op.program rt).run oracle n app = (result, app')) :
      Serving rt maxWorkers maxQueue app'

/-- **Every run of operations** leaves the books in order and the runs owned. -/
theorem Serving.steady (h : Serving rt maxWorkers maxQueue app) :
    Steady (maxWorkers + maxQueue) app ∧ Ownership rt app := by
  induction h with
  | construct oracle n app app' hlife hsmooth hrun =>
    have ho := (AppLife.ownership hlife ownership_empty trivial).2.1
    refine ⟨?_, ?_⟩
    · exact (Prog.wp_run hsmooth (openApplication_ends ho maxWorkers maxQueue) hrun).1 () rfl
    · exact (Prog.wp_run (fun _ _ => trivial)
        (ho.keeps (keeps_openApplication quiet_guar maxWorkers maxQueue)) hrun).1 () rfl
  | call op oracle n app app' result _ hsmooth hrun ih =>
    obtain ⟨hs, ho⟩ := ih
    have hsteady := Prog.wp_run hsmooth (op_ends hs ho op) hrun
    have howned := Prog.wp_run (fun _ _ => trivial) (programs_ownership (.call op) ho) hrun
    cases result with
    | ok result => exact ⟨hsteady.1 result rfl, howned.1 result rfl⟩
    | error e => exact ⟨hsteady.2 e rfl, howned.2 e rfl⟩

/-- **The books of the scheduler are in order.**  Between any two operations: the free slots and
the scheduled runs make up all slots; no run is scheduled and pending or queued twice; no
scheduled run was submitted again; each scheduled run has one job, so that no two workers
execute it; until the application is closed every bound run that exists and is not over is
scheduled or pending, and none waits while a slot is free. -/
theorem slots_and_runs (h : Serving rt maxWorkers maxQueue app) :
    app.slots + app.scheduledRunIds.length = maxWorkers + maxQueue ∧
      (app.scheduledRunIds ++ app.pendingRunIds).Nodup ∧
      app.pendingRecovery.map Prod.snd = app.pendingRunIds ∧
      app.doubled = false ∧
      (app.jobs.map Job.runId).Perm app.scheduledRunIds ∧
      (∀ (i j : ℕ) (job job' : Job), app.jobs[i]? = some job → app.jobs[j]? = some job' →
        job.phase = .executing → job'.phase = .executing → job.runId = job'.runId → i = j) ∧
      (app.closed = false → ∀ b ∈ app.bindings, ∀ run, app.run? b.runId = some run →
        run.status ∉ terminalStatuses →
          b.runId ∈ app.scheduledRunIds ∨ b.runId ∈ app.pendingRunIds) ∧
      (app.closed = false → app.pendingRecovery ≠ [] → app.slots = 0) := by
  obtain ⟨⟨haccounts, hsize, hlive, hdrained⟩, -⟩ := h.steady
  refine ⟨haccounts.slots.trans hsize, ?_, haccounts.pending, haccounts.once, haccounts.jobs,
    ?_, ?_, hdrained⟩
  · exact List.nodup_append.2 ⟨haccounts.scheduled, haccounts.waiting, fun r hr r' hr' heq =>
      haccounts.apart r hr (heq ▸ hr')⟩
  · intro i j job job' hi hj _ _ hid
    have hnodup := haccounts.jobs_unique
    have hids : (app.jobs.map Job.runId)[i]? = (app.jobs.map Job.runId)[j]? := by
      rw [List.getElem?_map, List.getElem?_map, hi, hj]
      exact congrArg some hid
    have hlt : i < (app.jobs.map Job.runId).length := by
      simpa using (List.getElem?_eq_some_iff.1 hi).1
    exact (List.getElem?_inj hlt hnodup).1 hids
  · intro hopen b hb run hrun hterminal
    rcases hlive hopen b hb (by simp) (by rw [hrun]; simp) with hmem | hmem | ⟨run', hrun', hover⟩
    · exact .inl hmem
    · exact .inr hmem
    · rw [hrun] at hrun'
      exact absurd (Option.some.inj hrun' ▸ hover) hterminal

/-! ### An application that serves a request -/

/-- The answers of the example do not fail. -/
theorem smoothAnswers_smooth (q : AppQuestion) : Smooth q (smoothAnswers q) := by
  cases q <;> first | rfl | trivial

/-- The application of the example has served one request. -/
theorem servedOnce_serving (rt : Runtime) : Serving rt 1 1 (servedOnce rt) :=
  .call (.createRun (lit "mini-a-agent") (lit "why") (lit "key")) (fun _ => smoothAnswers) 0 _ _ _
    (.construct (fun _ => smoothAnswers) 0 {} _ .refl (fun _ => smoothAnswers_smooth) rfl)
    (fun _ => smoothAnswers_smooth) rfl

/-- Of two slots, one is taken by the run that was created. -/
theorem slots_and_runs_example :
    (servedOnce exampleRuntime).scheduledRunIds = [lit "run"] ∧
      (servedOnce exampleRuntime).slots + [lit "run"].length = 1 + 1 :=
  ⟨rfl, (slots_and_runs (servedOnce_serving exampleRuntime)).1⟩

end Service
end CouncilLogic
