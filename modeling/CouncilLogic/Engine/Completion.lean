/-
# A stage comes to its end when all it was answered can be recorded

The answers of the providers and of the gate are fixed (`StageAnswers`).  A task settles
when all it was answered can be recorded, and otherwise the main thread raises; so the pool,
a pass and the whole stage return exactly when the answers of all their providers can be
recorded.  That the steps are those of a stage is taken from the specifications of the
programs (`wp_moved`).

Two kinds of fact are put together.  The specifications of `CouncilLogic.Engine.TaskSpec`,
`CouncilLogic.Engine.PoolSpec` and `CouncilLogic.Engine.PassSpec` say of any environment which
steps a stage of `src/model_council/engine.py` takes; here the answers are fixed and it is
followed whether the stage returns.  In each loop the invariant is the same: as long as nothing
was raised, all that was answered for the settled tasks could be recorded; when something was
raised, it was for a task whose answer could not.
-/

import CouncilLogic.Engine.Answers
import CouncilLogic.Lib.Life

namespace CouncilLogic

open Protocol

variable {rt : Runtime} {spec : RunSpec} {answers : StageAnswers} {eng : CouncilEngine}
  {P : Call → Prop} {stage : Stage} {provider : Str} {names : List Str} {w₀ w w' : World}
  {args : StageArgs} {st : Store} {task : Task} {state : TaskState} {id attempt : ℕ}

/-! ### Steps of a stage -/

/-- Any number of steps of a stage over the slots of some providers. -/
abbrev StageMoves (rt : Runtime) (spec : RunSpec) (stage : Stage) (names : List Str) :
    World → World → Prop :=
  Relation.ReflTransGen (StageStep rt spec stage names)

/-- A stage that moves on makes moves of the run. -/
theorem StageMoves.moves (h : StageMoves rt spec stage names w w') :
    Relation.ReflTransGen (RunMove rt spec) w w' :=
  h.lift id fun _ _ hstep => .inl (.stage _ _ _ _ hstep)

/-- A run in which a stage moves on is still a run. -/
theorem StageMoves.run (hrun : Run rt spec w) (h : StageMoves rt spec stage names w w') :
    Run rt spec w' :=
  hrun.trans h.moves

/-- A stage that moves on adds to the trace and takes nothing away. -/
theorem StageMoves.later (h : StageMoves rt spec stage names w w') (hlater : w₀.trace <+: w.trace) :
    w₀.trace <+: w'.trace :=
  hlater.trans (trace_grows h.moves)

/-- Moves over some slots are moves over more slots. -/
theorem StageMoves.mono {names' : List Str} (h : StageMoves rt spec stage names w w')
    (hsub : names ⊆ names') : StageMoves rt spec stage names' w w' :=
  h.lift id fun _ _ hstep => hstep.mono hsub

/-- The slots of other providers are left as they are. -/
theorem StageMoves.view_other (hrun : Run rt spec w) (h : StageMoves rt spec stage names w w')
    (hp : provider ∉ names) : w'.view stage provider = w.view stage provider := by
  induction h with
  | refl => rfl
  | tail hsteps hlast ih =>
    have hrun' : Run rt spec _ := StageMoves.run hrun hsteps
    exact (hlast.view_other hrun'.inv.wellFormed hp).trans ih

/-- How a row was started is on record as long as the audits of its retries. -/
theorem StartedFrom.congr {st' : Store} {r : Invocation} {prior : Option Invocation}
    (heq : st'.events.filter (isRetry r.stage r.provider) =
      st.events.filter (isRetry r.stage r.provider)) (h : StartedFrom st r prior) :
    StartedFrom st' r prior := by
  cases h with
  | first hcount => exact .first hcount
  | again p e hrow hstate haudit => exact .again p e hrow hstate (heq ▸ haudit)

/-- Whether a task's call has begun is read off the view of its slot. -/
theorem Begun.congr (hview : w'.view args.stage task.call.provider =
    w.view args.stage task.call.provider) (h : Begun args w task id attempt) :
    Begun args w' task id attempt := by
  obtain ⟨r, hslot, hid, hfrom, hcount⟩ := h
  have hrow : w'.store.slot args.stage task.call.provider =
      w.store.slot args.stage task.call.provider := congrArg SlotView.row hview
  obtain ⟨hstage, hprovider⟩ := Store.slot_fields hslot
  have hreleased : w'.store.notDispatchedCount args.stage task.call.provider =
      w.store.notDispatchedCount args.stage task.call.provider := congrArg SlotView.released hview
  refine ⟨r, hrow.trans hslot, hid, hfrom.congr ?_, hreleased ▸ hcount⟩
  rw [hstage, hprovider]
  exact congrArg SlotView.retries hview

/-- Steps over other slots change nothing of what is known of an answer. -/
theorem AnswerOk.congr (hstage : task.call.stage = args.stage)
    (hview : w'.view args.stage task.call.provider = w.view args.stage task.call.provider)
    (h : AnswerOk rt P answers eng args st w₀ w task state) :
    AnswerOk rt P answers eng args st w₀ w' task state := by
  have hfine : TaskFine P answers w₀ w' task ↔ TaskFine P answers w₀ w task := by
    unfold TaskFine
    rw [hstage]
    exact fine_congr (congrArg SlotView.actions hview)
  cases state with
  | queued => exact hfine.2 h
  | started id attempt => exact ⟨hfine.2 h.1, h.2.congr hview⟩
  | admitted id attempt lease => exact ⟨hfine.2 h.1, h.2.1.congr hview, h.2.2⟩
  | calling id attempt lease => exact ⟨h.1, hfine.trans h.2⟩
  | finished outcome =>
    cases outcome with
    | error e => exact hfine.not.2 h
    | ok o =>
      refine ⟨fun hd => ?_, fun hid => hfine.2 (h.unstarted hid), fun hd id attempt hid ha => ?_⟩
      · obtain ⟨hlease, hreceived, hiff⟩ := h.made hd
        exact ⟨hlease, hreceived, hfine.trans hiff⟩
      · obtain ⟨hbegun, hiff⟩ := h.unmade hd id attempt hid ha
        exact ⟨hbegun.congr hview, fun e he => hfine.trans (hiff e he)⟩
  | preserved id response error recover => exact Iff.trans hfine h
  | settled => exact hfine.2 h

/-! ### The pool -/

/-- What is known of the answers of a pool: of all its tasks, unless it has raised because
of one of them, or because a slot was started too often. -/
structure PoolAnswers (rt : Runtime) (P : Call → Prop) (answers : StageAnswers)
    (eng : CouncilEngine) (args : StageArgs) (st : Store) (w₀ : World) (pool : Pool) (w : World) :
    Prop where
  raised : pool.raised ≠ none → (∃ t ∈ pool.tasks, ¬ TaskFine P answers w₀ w t.1) ∨ Crowded w
  each : pool.raised = none → ∀ t ∈ pool.tasks, AnswerOk rt P answers eng args st w₀ w t.1 t.2

/-- What a move of a task comes to: it goes on, or the pool has raised because of it. -/
structure TaskMoved (rt : Runtime) (P : Call → Prop) (answers : StageAnswers)
    (eng : CouncilEngine) (args : StageArgs) (st : Store) (w₀ : World) (pool : Pool) (i : ℕ)
    (task : Task) (pool' : Pool) (w' : World) : Prop where
  raised : pool.raised ≠ none → pool'.raised ≠ none
  moved : pool.raised = none →
    (pool'.raised ≠ none ∧ (¬ TaskFine P answers w₀ w' task ∨ Crowded w')) ∨
    pool'.raised = none ∧ ∃ state', pool'.tasks = (pool.setState i state').tasks ∧
      AnswerOk rt P answers eng args st w₀ w' task state'

section Move
variable {pool pool' : Pool} {i maxWorkers : ℕ}

/-- Nothing is known of the other tasks but what was known before. -/
theorem PoolAnswers.move {tasks : List Task} {reserve : ℕ} {strict : Prop}
    (hargs : PoolArgs spec args tasks reserve) (hrun : Run rt spec w)
    (hinv : PoolInv rt spec args st tasks reserve strict pool w)
    (hans : PoolAnswers rt P answers eng args st w₀ pool w)
    (hi : pool.tasks[i]? = some (task, state))
    (hmoves : StageMoves rt spec args.stage [task.call.provider] w w')
    (heq : pool'.tasks.map Prod.fst = tasks)
    (hmoved : TaskMoved rt P answers eng args st w₀ pool i task pool' w') :
    PoolAnswers rt P answers eng args st w₀ pool' w' := by
  obtain ⟨before, after, htasks, hlen⟩ := split_at hi
  have hmem : ∀ t ∈ pool.tasks, ∃ t' ∈ pool'.tasks, t'.1 = t.1 := fun t ht =>
    List.mem_map.1 (heq ▸ hinv.base.tasks_eq ▸ List.mem_map_of_mem (f := Prod.fst) ht)
  by_cases hraised : pool.raised = none
  · rcases hmoved.moved hraised with ⟨hne, hbad⟩ | ⟨hnone, state', htasks', hok⟩
    · obtain ⟨t', ht', h⟩ := hmem _ (List.mem_of_getElem? hi)
      refine ⟨fun _ => hbad.imp_left fun hbad => ⟨t', ht', h ▸ hbad⟩, fun hnone => ?_⟩
      exact absurd hnone hne
    refine ⟨fun hne => absurd hnone hne, fun _ t ht => ?_⟩
    rw [htasks', setState_tasks state' htasks hlen, List.mem_append, List.mem_cons] at ht
    have hother : ∀ t ∈ before ++ after, AnswerOk rt P answers eng args st w₀ w' t.1 t.2 := by
      intro t ht
      have htmem : t ∈ pool.tasks := by
        rw [htasks]
        simp only [List.mem_append, List.mem_cons] at ht ⊢
        exact ht.imp_right .inr
      refine (hans.each hraised t htmem).congr (hinv.base.each t htmem).ready.stage ?_
      refine hmoves.view_other hrun ?_
      rw [List.mem_singleton]
      exact hinv.base.others hargs htasks ht
    rcases ht with ht | rfl | ht
    · exact hother t (List.mem_append_left _ ht)
    · exact hok
    · exact hother t (List.mem_append_right _ ht)
  · have hgrows := trace_grows hmoves.moves
    refine ⟨fun _ => ?_, fun hnone => absurd hnone (hmoved.raised hraised)⟩
    rcases hans.raised hraised with ⟨t, ht, hbad⟩ | hcrowded
    · obtain ⟨t', ht', h⟩ := hmem t ht
      refine .inl ⟨t', ht', fun hfine => hbad ?_⟩
      rw [h] at hfine
      exact hfine.earlier hgrows
    · exact .inr (hcrowded.later hgrows)

end Move

/-! ### The executor -/

/-- What was done for every provider of some work can be recorded. -/
def AllFine (P : Call → Prop) (answers : StageAnswers) (w₀ w : World) (stage : Stage)
    (names : List Str) : Prop :=
  ∀ provider ∈ names, Fine P answers w₀ w stage provider

/-- What is fine later was fine before. -/
theorem AllFine.earlier (h : AllFine P answers w₀ w' stage names) (hlater : w.trace <+: w'.trace) :
    AllFine P answers w₀ w stage names := fun p hp => (h p hp).earlier hlater

/-- Steps over the slots of some names leave the others fine. -/
theorem AllFine.moves {names' : List Str} (hrun : Run rt spec w)
    (h : AllFine P answers w₀ w stage names) (hmoves : StageMoves rt spec stage names' w w')
    (h' : AllFine P answers w₀ w' stage names') : AllFine P answers w₀ w' stage names := by
  intro p hp
  by_cases hmem : p ∈ names'
  · exact h' p hmem
  · exact (fine_congr (congrArg SlotView.actions (hmoves.view_other hrun hmem))).2 (h p hp)

/-- What raises: an answer that cannot be recorded, or a slot that was started too often. -/
def Spoilt (P : Call → Prop) (answers : StageAnswers) (w₀ w : World) (stage : Stage)
    (names : List Str) : Prop :=
  ¬ AllFine P answers w₀ w stage names ∨ Crowded w

/-- What is spoilt for some slots is spoilt for more. -/
theorem Spoilt.mono {names' : List Str} (h : Spoilt P answers w₀ w stage names)
    (hsub : names ⊆ names') : Spoilt P answers w₀ w stage names' :=
  h.imp_left fun hbad hall => hbad fun p hp => hall p (hsub hp)

/-- Steps over no slot leave what is fine as it is. -/
theorem AllFine.quiet (hrun : Run rt spec w) (h : AllFine P answers w₀ w stage names)
    (hmoves : StageMoves rt spec stage [] w w') : AllFine P answers w₀ w' stage names :=
  h.moves hrun hmoves (fun _ hp => absurd hp List.not_mem_nil)

end CouncilLogic
