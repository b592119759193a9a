/-
# A provider with an unknown outcome is not called again

A call whose outcome is not known may have been paid for.  Its row is failed as
ambiguous, or running without a process that will finish it; either way the provider is
`Marked` from then on, in every stage.

The check is `isAmbiguous` of `CouncilLogic.Engine.Stage`: `_run_parallel_stage` of
`src/model_council/engine.py` looks at all rows of a provider before it admits a call to it.
-/

import CouncilLogic.Engine.Follow
import CouncilLogic.Engine.SlotView

namespace CouncilLogic

open Protocol

variable {rt : Runtime} {spec : RunSpec} {w w' : World} {provider : Str}

/-- The provider has a row whose outcome is unknown, or will be. -/
def Marked (provider : Str) (w : World) : Prop :=
  ∃ stage r, w.store.slot stage provider = some r ∧
    (r.failedAmbiguous = true ∨ r.state = .running ∧ r.id ∉ w.live)

/-- A quiet provider is not marked. -/
theorem Marked.not_quiet (h : Marked provider w) (hq : w.store.Quiet provider) : False := by
  obtain ⟨stage, r, hslot, hbad⟩ := h
  obtain ⟨hrun, hambiguous⟩ := hq stage r hslot
  rcases hbad with hbad | hbad
  · rw [hbad] at hambiguous
    cases hambiguous
  · exact hrun hbad.1

/-- **A marked provider is not called.** -/
theorem Marked.not_generate {call : Call} (h : Marked call.provider w)
    (hok : GenerateOk spec w call) : False := by
  obtain ⟨stage, r, hslot, hbad⟩ := h
  by_cases hstage : stage = call.stage
  · obtain ⟨r', hslot', hrun, hlive⟩ := hok.running
    rw [hstage, hslot'] at hslot
    cases hslot
    rcases hbad with hbad | hbad
    · simp [Invocation.failedAmbiguous, hrun] at hbad
    · exact hbad.2 hlive
  · obtain ⟨hrun, hambiguous⟩ := hok.quiet stage r hstage hslot
    rcases hbad with hbad | hbad
    · rw [hbad] at hambiguous
      cases hambiguous
    · exact hrun hbad.1

/-- What a move does to the row of a marked provider: nothing, or it settles what was
left running. -/
theorem SlotMove.marked {stage : Stage} {v v' : SlotView} {r : Invocation}
    (h : SlotMove rt spec stage provider w v v') (hquiet : ¬ w.store.Quiet provider)
    (hrow : v.row = some r)
    (hbad : r.failedAmbiguous = true ∨ r.state = .running ∧ r.id ∉ w.live) :
    v'.row = some r ∨ ∃ r', v'.row = some r' ∧ r'.failedAmbiguous = true := by
  have hdead : ∀ r', v.row = some r' → r'.state = .running → r'.id ∈ w.live → False := by
    intro r' hrow' hrun hlive
    rw [hrow] at hrow'
    cases hrow'
    rcases hbad with hbad | hbad
    · simp [Invocation.failedAmbiguous, hrun] at hbad
    · exact hbad.2 hlive
  cases h with
  | same => exact .inl hrow
  | act => exact .inl hrow
  | first call config hslot hconfig ok =>
    rw [Call.slot, Prod.mk.injEq] at hslot
    exact absurd (hslot.2 ▸ ok.quiet) hquiet
  | again call config r' e hslot hconfig ok =>
    rw [Call.slot, Prod.mk.injEq] at hslot
    exact absurd (hslot.2 ▸ ok.quiet) hquiet
  | succeed r' response hrow' hrun hlive => exact (hdead r' hrow' hrun hlive).elim
  | fail r' error hrow' hrun hlive =>
    rcases hlive with hlive | rfl
    · exact (hdead r' hrow' hrun hlive.1).elim
    · exact .inr ⟨_, rfl, rfl⟩
  | cancel r' hrow' hrun hlive => exact (hdead r' hrow' hrun hlive).elim
  | restore r' e callCount hrow' hrun hlive => exact (hdead r' hrow' hrun hlive).elim

/-- What becomes live is the row that was started. -/
theorem RunMove.live_cases (h : RunMove rt spec w w') (hwf : w.store.WellFormed) {id : ℕ}
    (hid : id ∈ w'.live) :
    id ∈ w.live ∨ ∃ call r, StartOk rt spec w.store call ∧
      w'.store.slot call.stage call.provider = some r ∧ r.id = id := by
  rcases h with h | rfl
  · cases h with
    | stage _ s names hs =>
      cases hs with
      | start call config id' st hname hstage hconfig ok hst =>
        rcases List.mem_cons.1 hid with rfl | hid
        · obtain ⟨r, hr⟩ := started_of_ok hwf ok.free hst
          refine .inr ⟨call, r, ok, ?_, hr.id_eq⟩
          show st.slot _ _ = _
          rw [hr.slots, if_pos hr.slot_eq]
        · exact .inl hid
      | tick | act | audit | succeed | fail | cancel | restore => exact .inl hid
    | audit | status | marker | lockNamespace | lockAdjudication | adjudicate | advance
    | finish => exact .inl hid
  · cases hid

/-- **A marked provider stays marked.** -/
theorem Marked.move (h : Marked provider w) (hinv : Inv rt spec w) (hmove : RunMove rt spec w w') :
    Marked provider w' := by
  have hquiet : ¬ w.store.Quiet provider := fun hq => h.not_quiet hq
  obtain ⟨stage, r, hslot, hbad⟩ := h
  have hview := hmove.view hinv.wellFormed stage provider
  rcases hview.marked hquiet hslot hbad with hrow | ⟨r', hrow, hambiguous⟩
  · refine ⟨stage, r, hrow, hbad.imp_right fun hrun => ⟨hrun.1, fun hlive => ?_⟩⟩
    rcases hmove.live_cases hinv.wellFormed hlive with hlive | ⟨call, r', hok, hslot', hid⟩
    · exact hrun.2 hlive
    · -- the row that was started is another one, as its provider was quiet
      have hwf := (hmove.keeps hinv).1.wellFormed
      obtain ⟨hmem, -, hprovider⟩ := hwf.slot_eq_some.1 hrow
      obtain ⟨hmem', -, hprovider'⟩ := hwf.slot_eq_some.1 hslot'
      have heq : r' = r := hwf.ids.eq hmem' hmem hid
      rw [heq, hprovider] at hprovider'
      exact hquiet (hprovider' ▸ hok.quiet)
  · exact ⟨stage, r', hrow, .inl hambiguous⟩

/-- A provider that is marked stays marked, whatever comes later. -/
theorem Run.marked_later (h : Run rt spec w)
    (hsteps : Relation.ReflTransGen (RunMove rt spec) w w') (hm : Marked provider w) :
    Marked provider w' := by
  induction hsteps with
  | refl => exact hm
  | tail hinit hlast ih => exact ih.move (h.trans hinit).inv hlast

/-- **Suppression.**  Once a provider has an invocation that failed as ambiguous, or that
is running while no process works on the run, nothing that is done later calls it. -/
theorem suppressed {c c' : Prog.Config World PyErr Question Answer Dict}
    (h : Reachable rt spec c) (hlater : Prog.Reach (Resumes rt) World.lose c c')
    {stage : Stage} {r : Invocation} (hslot : c.state.store.slot stage provider = some r)
    (hbad : r.failedAmbiguous = true ∨ r.state = .running ∧ ∃ w, c = .idle w) :
    ∀ call before, .generate call before ∈ c'.state.trace.drop c.state.trace.length →
      call.provider ≠ provider := by
  have hmarked : Marked provider c.state := by
    refine ⟨stage, r, hslot, hbad.imp_right fun hrun => ⟨hrun.1, ?_⟩⟩
    obtain ⟨w, rfl⟩ := hrun.2
    obtain ⟨eng, draws, question, st, -, -, hreach⟩ := h.created
    have hreach' : Prog.Reach (Resumes rt) World.lose (.idle (World.lose { store := st }))
        (.idle w) := hreach
    have hlost : w.lose = w := hreach'.idle_lost World.lose_lose rfl
    show r.id ∉ w.live
    rw [← hlost]
    exact List.not_mem_nil
  rintro call before ha rfl
  have hsteps := h.later hlater
  obtain ⟨w₀, hsince, hw₀⟩ := h.run.happened_since hsteps ha
  obtain ⟨-, hok⟩ := hw₀.generated
  exact (h.run.marked_later hsince hmarked).not_generate hok

/-- A process that ends during the first call: the provider is not called again. -/
theorem suppressed_after_crash : ∃ prompts events,
    ∀ c', Prog.Reach (Resumes exampleRuntime) World.lose
        (.idle (exampleStarted prompts events).lose) c' →
      ∀ call before, .generate call before ∈
          c'.state.trace.drop (exampleStarted prompts events).trace.length →
        call.provider ≠ lit "solo" := by
  obtain ⟨prompts, events, -, -, h⟩ := exampleRun_started
  refine ⟨prompts, events, fun c' hlater => ?_⟩
  exact suppressed h hlater (show (exampleStarted prompts events).lose.store.slot .proposal
    (lit "solo") = some (exampleRow (combinedPrompt prompts)) from rfl) (.inr ⟨rfl, _, rfl⟩)

end CouncilLogic
