/-
# A worker's execution of a run

`_execute_run` resumes the run, and marks it as failed where the resume raises.  Either way
the run is over when it ends, which is what a move of a worker takes from it.

The method is `CouncilApplication._execute_run` of `src/model_council/service.py`, and what it
resumes is the engine of `CouncilLogic.Engine.Resume`.  The point of the module is that the one
move which the application's model has for a worker is the truth about that engine.
-/

import CouncilLogic.Engine.Resume
import CouncilLogic.Lib.Life
import CouncilLogic.Service.Application

namespace CouncilLogic
namespace Service

open Prog (wp)

variable {rt : Runtime} {eng : CouncilEngine} {w : World}

/-- `_execute_run`, without the event of a failure. -/
def executeRun (rt : Runtime) (eng : CouncilEngine) : M Unit := do
  let resumed ← (resume rt eng).catching
  match resumed with
  | .ok _ => pure ()
  | .error _ => transact fun st => .ok (st.setRunStatus .failed)

/-- The run of a store has a status of `_TERMINAL_STATUSES`. -/
def Terminal (w : World) : Prop := w.store.run.status.name ∈ terminalStatuses

/-- The three statuses that a resume ends with are terminal. -/
theorem terminal_of_status {status : RunStatus}
    (h : status = .completed ∨ status = .partialResult ∨ status = .failed) :
    status.name ∈ terminalStatuses := by
  rcases h with rfl | rfl | rfl <;> decide

/-- Any answers and any writes. -/
def anyMoves : Prog.Rules World Question Answer where
  env := fun _ _ => True
  guar := fun _ _ => True

/-- Wherever it ends normally, the run is over. -/
def EndsTerminal {α : Type} (p : M α) : Prop :=
  ∀ w, wp anyMoves (fun _ => Terminal) (fun _ _ => True) p w

section
variable {α β : Type} {p : M α} {f : α → M β}

/-- Only the last part of a sequence matters. -/
theorem EndsTerminal.after (hf : ∀ a, EndsTerminal (f a)) : EndsTerminal (p >>= f) := fun _ =>
  Prog.wp_seq (Prog.wp_trivial fun _ _ => trivial) fun a w _ => hf a w

end

/-- A transaction that returns has made its write. -/
theorem transact_spec {g : Store → Except PyErr Store} :
    wp anyMoves (fun _ w' => g w.store = .ok w'.store) (fun _ _ => True) (transact g) w := by
  refine Prog.wp_bind.2 (Prog.wp_bind.2 ?_)
  show wp _ _ _ (Prog.ofExcept (g w.store)) w
  refine (Prog.wp_ofExcept _ _).2 ⟨fun st hst => ⟨trivial, ?_⟩, fun _ _ => trivial⟩
  exact hst

/-- A run that is finished has the status it was finished with. -/
theorem finishRun_status {st st' : Store} {status : RunStatus} {n : ℕ} {result : Dict}
    (h : st.finishRun rt status n result = .ok st') : st'.run.status = status := by
  unfold Store.finishRun at h
  cases hstore : Dict.store rt (lit "$.result") result with
  | error e =>
    rw [hstore] at h
    cases h
  | ok result' =>
    rw [hstore] at h
    cases h
    rfl

/-- A resume that finishes its run leaves it in a terminal status. -/
theorem finish_terminal {config : RunConfig} {spec : RunSpec} {p : ResultParts}
    (h : p.status = .completed ∨ p.status = .partialResult ∨ p.status = .failed) :
    EndsTerminal (finish rt config spec p) := by
  refine EndsTerminal.after fun st => EndsTerminal.after fun result w => ?_
  refine Prog.wp_seq transact_spec fun _ w' hfinish => ?_
  show w'.store.run.status.name ∈ terminalStatuses
  rw [finishRun_status hfinish]
  exact terminal_of_status h

/-- **Every way through the stages ends in a terminal status**: without a quorum, with a
synthesis, and with a chain that is exhausted. -/
theorem runStages_terminal (ctx : RunContext) (namespaceLock : Option NamespaceLock)
    (adjudication : Option AdjudicationLock) (advanced : ℕ × List Dict) (recorded : List Dict) :
    EndsTerminal (runStages rt eng ctx namespaceLock adjudication advanced recorded) := by
  have hadjudicate : ∀ mapping p, EndsTerminal
      (adjudicateAndFinish rt eng ctx mapping p adjudication advanced) := by
    intro mapping p
    refine EndsTerminal.after fun ballots => ?_
    dsimp only
    split
    · exact finish_terminal (.inr (.inl rfl))
    · have hsynthesize : ∀ records aggregate failures recoveries, EndsTerminal
          (synthesizeAndFinish rt eng ctx mapping p records aggregate advanced failures
            recoveries) := by
        intro records aggregate failures recoveries
        refine EndsTerminal.after fun _ => EndsTerminal.after fun synthesis => ?_
        refine finish_terminal ?_
        dsimp only
        split
        · exact .inl rfl
        · exact .inr (.inl rfl)
      refine EndsTerminal.after fun judgments => EndsTerminal.after fun aggregate => ?_
      split
      · exact EndsTerminal.after fun _ => hsynthesize _ _ _ _
      · exact hsynthesize _ _ _ _
  refine EndsTerminal.after fun phase => ?_
  dsimp only
  split
  · refine finish_terminal ?_
    dsimp only
    split
    · exact .inr (.inl rfl)
    · exact .inr (.inr rfl)
  · cases namespaceLock with
    | some lock => exact hadjudicate _ _
    | none => exact EndsTerminal.after fun lock => hadjudicate _ _

/-- A check that raises is no normal end. -/
theorem ofExcept_then {α β : Type} {x : Except PyErr α} {f : α → M β}
    {post : β → World → Prop} (h : ∀ a, wp anyMoves post (fun _ _ => True) (f a) w) :
    wp anyMoves post (fun _ _ => True) (Prog.ofExcept x >>= f) w :=
  Prog.wp_bind.2 ((Prog.wp_ofExcept _ _).2 ⟨fun a _ => h a, fun _ _ => trivial⟩)

/-- A resume that ends normally leaves the run over. -/
theorem resume_terminal : EndsTerminal (resume rt eng) := by
  intro w
  refine Prog.wp_bind.2 (Prog.wp_bind.2 ?_)
  refine ofExcept_then fun _ => ofExcept_then fun advanced => ofExcept_then fun namespaceLock =>
    ofExcept_then fun adjudication => ?_
  have hbegin : EndsTerminal (beginResume rt eng w.store namespaceLock adjudication advanced) :=
    .after fun _ => .after fun _ => .after fun _ => .after fun _ => .after fun _ => .after fun _ =>
      .after fun _ => .after fun _ => runStages_terminal _ _ _ _ _
  split
  · rename_i hcompleted _
    show w.store.run.status.name ∈ terminalStatuses
    rw [hcompleted]
    exact terminal_of_status (.inl rfl)
  · exact hbegin w

/-- **The run of a job that is done is over**: `_execute_run` leaves a terminal status. -/
theorem executeRun_terminal (w : World) :
    wp anyMoves (fun _ => Terminal) (fun _ _ => False) (executeRun rt eng) w := by
  refine Prog.wp_bind.2 (Prog.wp_catching.2 (Prog.wp_mono (fun _ _ h => h) (fun _ w' _ => ?_)
    (resume_terminal w)))
  exact ⟨trivial, terminal_of_status (.inr (.inr rfl))⟩

end Service
end CouncilLogic
