/-
# The history of a run

A `Run` is a world that is reached from a run's creation by the steps of resumes and by
the ends of processes.  Every action in its trace was taken in a world of the run, which
what came later extends (`Run.happened`); so a statement about what was done is one
about the states in which it was done.

The trace of a world is the model's own record: `src/model_council/engine.py` keeps none, and what
it knows of the past is what `src/model_council/store.py` has committed.  A statement about two
calls of one run is therefore a statement about two entries of the trace and the stores they were
made in.
-/

import CouncilLogic.Engine.ResumeSpec

namespace CouncilLogic

open Protocol

variable {rt : Runtime} {spec : RunSpec} {w w' : World}

/-- A world of a run: reached from its creation. -/
structure Run (rt : Runtime) (spec : RunSpec) (w : World) : Prop where
  reached : ∃ eng draws question, ∃ st : Store,
    createRun rt eng draws question spec.id = .ok st ∧ st.run.spec = spec ∧
      Relation.ReflTransGen (RunMove rt spec) { store := st } w

/-- The states of a run are worlds of the run. -/
theorem Reachable.run {c : Prog.Config World PyErr Question Answer Dict}
    (h : Reachable rt spec c) : Run rt spec c.state := by
  obtain ⟨eng, draws, question, st, hcreate, hspec, hsteps, -⟩ := h.steps
  exact ⟨eng, draws, question, st, hcreate, hspec, hsteps⟩

/-- **Induction over a run**: what holds at its creation and is kept by every move. -/
theorem Run.induction {P : World → Prop} (h : Run rt spec w)
    (hcreated : ∀ eng draws question, ∀ st : Store,
      createRun rt eng draws question spec.id = .ok st → st.run.spec = spec → P { store := st })
    (hmove : ∀ w w', Run rt spec w → Inv rt spec w → RunMove rt spec w w' → P w → P w') : P w := by
  obtain ⟨eng, draws, question, st, hcreate, hspec, hsteps⟩ := h.reached
  have hinv : Inv rt spec { store := st } := inv_created hcreate hspec
  suffices H : Inv rt spec w ∧ P w from H.2
  induction hsteps with
  | refl => exact ⟨hinv, hcreated eng draws question st hcreate hspec⟩
  | tail hinit hlast ih =>
    obtain ⟨hinv', hp⟩ := ih ⟨eng, draws, question, st, hcreate, hspec, hinit⟩
    exact ⟨(hlast.keeps hinv').1,
      hmove _ _ ⟨eng, draws, question, st, hcreate, hspec, hinit⟩ hinv' hlast hp⟩

/-- Every world of a run satisfies the invariant of its store. -/
theorem Run.inv (h : Run rt spec w) : Inv rt spec w := by
  obtain ⟨eng, draws, question, st, hcreate, hspec, hsteps⟩ := h.reached
  have hinv : Inv rt spec { store := st } := inv_created hcreate hspec
  induction hsteps with
  | refl => exact hinv
  | tail hinit hlast ih =>
    exact (hlast.keeps (ih ⟨eng, draws, question, st, hcreate, hspec, hinit⟩)).1

/-- A run goes on. -/
theorem Run.trans (h : Run rt spec w) (hsteps : Relation.ReflTransGen (RunMove rt spec) w w') :
    Run rt spec w' := by
  obtain ⟨eng, draws, question, st, hcreate, hspec, hinit⟩ := h.reached
  exact ⟨eng, draws, question, st, hcreate, hspec, hinit.trans hsteps⟩

/-- What is final stays final. -/
theorem Run.extends_ (h : Run rt spec w) (hsteps : Relation.ReflTransGen (RunMove rt spec) w w') :
    Extends rt spec w.store w'.store := by
  induction hsteps with
  | refl => exact .refl _
  | tail hinit hlast ih => exact ih.trans (hlast.keeps (h.trans hinit).inv).2

/-- **Later states of a run** are reached from earlier ones by moves. -/
theorem Reachable.later {c c' : Prog.Config World PyErr Question Answer Dict}
    (h : Reachable rt spec c) (hreach : Prog.Reach (Resumes rt) World.lose c c') :
    Relation.ReflTransGen (RunMove rt spec) c.state c'.state := by
  obtain ⟨eng, draws, question, st, hcreate, hspec, hbefore⟩ := h.created
  have hresume : ∀ p, Resumes rt p → ∀ s, Inv rt spec s →
      Prog.wp (engineRules rt spec) (fun _ _ => True) (fun _ _ => True) p s := by
    rintro p ⟨eng, rfl⟩ s hs
    exact resume_spec eng hs
  have hkeeps : ∀ s s', RunMove rt spec s s' → Inv rt spec s → Inv rt spec s' :=
    fun s s' hm hs => (RunMove.keeps hm hs).1
  obtain ⟨-, hinv, hsafe⟩ := Prog.Reach.guarantee (fun _ _ => trivial) hresume hkeeps hbefore
    (inv_created hcreate hspec) trivial
  exact (Prog.Reach.guarantee (fun _ _ => trivial) hresume hkeeps hreach hinv hsafe).1

/-! ### What was done -/

/-- What an action that was taken in a world says is true of it. -/
def ActionDone (rt : Runtime) (spec : RunSpec) (w : World) : Action → Prop
  | .started call before => before = w.store ∧ StartOk rt spec w.store call
  | .adjudicated mapping records aggregate =>
    AdjudicatedOk rt spec w.store mapping records aggregate
  | .enter s prompts before => ∃ stage, ActionOk rt spec stage w (.enter s prompts before)
  | .overLimit s provider => ∃ stage, ActionOk rt spec stage w (.overLimit s provider)
  | .attempt call before => ActionOk rt spec call.stage w (.attempt call before)
  | .generate call before => ActionOk rt spec call.stage w (.generate call before)
  | .reserved call attempt => ActionOk rt spec call.stage w (.reserved call attempt)
  | .granted call attempt => ActionOk rt spec call.stage w (.granted call attempt)
  | .released call => ActionOk rt spec call.stage w (.released call)
  | .reconciled call => ActionOk rt spec call.stage w (.reconciled call)
  | .settled call => ActionOk rt spec call.stage w (.settled call)

/-- An action of a stage is done where it may be. -/
theorem ActionOk.done {stage : Stage} {a : Action} (h : ActionOk rt spec stage w a) :
    ActionDone rt spec w a := by
  cases a with
  | enter s prompts before => exact ⟨stage, h⟩
  | overLimit s provider => exact ⟨stage, h⟩
  | attempt call before => exact ⟨rfl, h.2⟩
  | generate call before => exact ⟨rfl, h.2⟩
  | reserved call attempt => exact ⟨rfl, h.2⟩
  | granted call attempt => exact ⟨rfl, h.2⟩
  | released call => exact ⟨rfl, h.2⟩
  | reconciled call => exact ⟨rfl, h.2⟩
  | settled call => exact ⟨rfl, h.2⟩
  | started call before => exact h.elim
  | adjudicated mapping records aggregate => exact h.elim

/-- An action was taken in a world of the run, on the way to another one. -/
structure Happened (rt : Runtime) (spec : RunSpec) (a : Action) (w₀ w : World) : Prop where
  run : Run rt spec w₀
  later : Relation.ReflTransGen (RunMove rt spec) w₀ w
  done : ActionDone rt spec w₀ a

/-- A move records at most one action. -/
theorem RunMove.trace_cases (h : RunMove rt spec w w') :
    w'.trace = w.trace ∨ ∃ a, w'.trace = w.trace ++ [a] ∧ ActionDone rt spec w a := by
  rcases h with h | rfl
  · cases h with
    | stage _ s names hs =>
      cases hs with
      | act a ok => exact .inr ⟨a, rfl, ok.done⟩
      | start call config id st hname hstage hconfig ok hst => exact .inr ⟨_, rfl, rfl, ok⟩
      | tick => exact .inl rfl
      | audit => exact .inl rfl
      | succeed => exact .inl rfl
      | fail => exact .inl rfl
      | cancel => exact .inl rfl
      | restore => exact .inl rfl
    | adjudicate mapping records aggregate ok => exact .inr ⟨_, rfl, ok⟩
    | audit => exact .inl rfl
    | status => exact .inl rfl
    | marker => exact .inl rfl
    | lockNamespace => exact .inl rfl
    | lockAdjudication => exact .inl rfl
    | advance => exact .inl rfl
    | finish => exact .inl rfl
  · exact .inl rfl

/-- The trace only grows. -/
theorem trace_grows (h : Relation.ReflTransGen (RunMove rt spec) w w') : w.trace <+: w'.trace := by
  induction h with
  | refl => exact List.prefix_rfl
  | tail _ hlast ih =>
    rcases hlast.trace_cases with heq | ⟨a, heq, -⟩
    · rwa [heq]
    · rw [heq]
      exact ih.trans (List.prefix_append _ _)

/-- **Everything in the trace has happened.** -/
theorem Run.happened (h : Run rt spec w) {a : Action} (ha : a ∈ w.trace) :
    ∃ w₀, Happened rt spec a w₀ w := by
  refine h.induction (P := fun w => a ∈ w.trace → ∃ w₀, Happened rt spec a w₀ w) ?_ ?_ ha
  · intro eng draws question st _ _ hmem
    cases hmem
  · intro w w' hrun _ hmove ih hmem
    rcases hmove.trace_cases with heq | ⟨b, heq, hdone⟩
    · obtain ⟨w₀, hw₀⟩ := ih (heq ▸ hmem)
      exact ⟨w₀, hw₀.run, hw₀.later.tail hmove, hw₀.done⟩
    · rw [heq, List.mem_append, List.mem_singleton] at hmem
      rcases hmem with hmem | rfl
      · obtain ⟨w₀, hw₀⟩ := ih hmem
        exact ⟨w₀, hw₀.run, hw₀.later.tail hmove, hw₀.done⟩
      · exact ⟨w, hrun, .single hmove, hdone⟩

/-- **Everything done later** has happened later. -/
theorem Run.happened_since (h : Run rt spec w)
    (hsteps : Relation.ReflTransGen (RunMove rt spec) w w') {a : Action}
    (ha : a ∈ w'.trace.drop w.trace.length) :
    ∃ w₀, Relation.ReflTransGen (RunMove rt spec) w w₀ ∧ Happened rt spec a w₀ w' := by
  induction hsteps with
  | refl =>
    rw [List.drop_length] at ha
    cases ha
  | @tail w₁ w₂ hinit hlast ih =>
    rcases hlast.trace_cases with heq | ⟨b, heq, hdone⟩
    · obtain ⟨w₀, hw₀, hh⟩ := ih (heq ▸ ha)
      exact ⟨w₀, hw₀, hh.run, hh.later.tail hlast, hh.done⟩
    · have hle := (trace_grows hinit).length_le
      rw [heq, List.drop_append_of_le_length hle, List.mem_append, List.mem_singleton] at ha
      rcases ha with ha | rfl
      · obtain ⟨w₀, hw₀, hh⟩ := ih ha
        exact ⟨w₀, hw₀, hh.run, hh.later.tail hlast, hh.done⟩
      · exact ⟨w₁, hinit, h.trans hinit, .single hlast, hdone⟩

/-- An invocation was to be started where it may be. -/
theorem Happened.attempted {call : Call} {before : Store} {w₀ : World}
    (h : Happened rt spec (.attempt call before) w₀ w) :
    before = w₀.store ∧ StartOk rt spec w₀.store call := h.done.2

/-- An invocation was started where it may be. -/
theorem Happened.started {call : Call} {before : Store} {w₀ : World}
    (h : Happened rt spec (.started call before) w₀ w) :
    before = w₀.store ∧ StartOk rt spec w₀.store call := h.done

/-- A provider was called where it may be. -/
theorem Happened.generated {call : Call} {before : Store} {w₀ : World}
    (h : Happened rt spec (.generate call before) w₀ w) :
    before = w₀.store ∧ GenerateOk spec w₀ call := h.done.2

/-- A synthesis was built on the locked vote. -/
theorem Happened.adjudicatedOk {mapping : Mapping} {records : List Dict} {aggregate : Aggregate}
    {w₀ : World} (h : Happened rt spec (.adjudicated mapping records aggregate) w₀ w) :
    AdjudicatedOk rt spec w₀.store mapping records aggregate := h.done

end CouncilLogic
