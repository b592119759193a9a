/-
# The call budget

The count of the calls of a run is bounded by `max_calls`, and no call takes what is
reserved for those that have to come after it.

The limit is `policy.max_calls`, which `_run_parallel_stage` of `src/model_council/engine.py`
compares with `count_calls` of `src/model_council/store.py` before it admits a call; a call that a
gate has refused is taken off the count again.
-/

import CouncilLogic.Engine.SlotLaws
import CouncilLogic.Engine.Twice

namespace CouncilLogic

open Protocol

variable {rt : Runtime} {spec : RunSpec} {w w' : World}

/-! ### The count -/

/-- Every step of a stage stays within the limit: a call is started only where the count leaves
room for it and for the calls that are reserved. -/
theorem StageStep.countCalls_le {stage : Stage} {names : List Str}
    (h : StageStep rt spec stage names w w') (hwf : w.store.WellFormed)
    (hw : (w.store.countCalls : ℤ) ≤ spec.config.policy.maxCalls) :
    (w'.store.countCalls : ℤ) ≤ spec.config.policy.maxCalls := by
  cases h with
  | tick elapsed => exact hw
  | act a ok hname => exact hw
  | audit type payload ht => exact hw
  | start call config id st hname hstage hconfig ok h =>
    obtain ⟨r, hs⟩ := started_of_ok hwf ok.free h
    have hbudget := ok.budget
    have hcount := hs.countCalls
    show (st.countCalls : ℤ) ≤ _
    omega
  | succeed r response hr hname hstage hrun hlive hphase hstop =>
    have hcount := hwf.countCalls_update
      (f := Store.setState (.succeeded (Store.storedResponse response))) hr
    rw [World.withStore_store]
    simp only [Store.setState] at hcount ⊢
    omega
  | fail r error hr hname hstage hrun hlive =>
    have hcount := hwf.countCalls_update (f := Store.setState (.failed error)) hr
    rw [World.withStore_store]
    simp only [Store.setState] at hcount ⊢
    omega
  | cancel r payload hr hname hstage hrun hlive hphase hcount hpayload =>
    have hdelete := hwf.countCalls_delete hr
    rw [World.withStore_store, countCalls_addEvent]
    omega
  | restore r e callCount payload hr hname hstage hrun hlive hphase hpos hcount hprior haudit
      hpayload =>
    have hupdate := hwf.countCalls_update (f := Store.restore e callCount) hr
    rw [World.withStore_store, Store.countCalls_withEvents]
    simp only [Store.restore] at hupdate ⊢
    omega

/-- The count stays below the limit. -/
theorem Run.countCalls_le (h : Run rt spec w) :
    (w.store.countCalls : ℤ) ≤ spec.config.policy.maxCalls := by
  refine h.induction (P := fun w => (w.store.countCalls : ℤ) ≤ spec.config.policy.maxCalls) ?_ ?_
  · intro eng draws question st hcreate hspec
    have haccepted := (inv_created hcreate hspec).accepted.max_calls
    obtain ⟨rfl, -⟩ := createRun_ok hcreate
    show ((0 : ℕ) : ℤ) ≤ _
    omega
  · intro w w' _ hinv hmove hw
    rcases hmove with hmove | rfl
    · cases hmove with
      | stage _ _ _ hs => exact hs.countCalls_le hinv.wellFormed hw
      | audit | status | marker | lockNamespace | lockAdjudication | adjudicate | advance
      | finish => exact hw
    · exact hw

/-- A call is made while its reserve is free. -/
theorem Run.generate_budget (h : Run rt spec w) {call : Call} {before : Store}
    (ha : .generate call before ∈ w.trace) :
    (before.countCalls : ℤ) + callReserve spec.config call.stage call.provider ≤
      spec.config.policy.maxCalls := by
  obtain ⟨w₀, hw₀⟩ := h.happened ha
  obtain ⟨rfl, hok⟩ := hw₀.generated
  exact hok.budget

/-- **A call of the chain is started while a call for every later position is free.** -/
theorem Run.synthesis_budget (h : Run rt spec w) {call : Call} {before : Store}
    (ha : .started call before ∈ w.trace) (hstage : call.stage = .synthesis) :
    ∃ p : ℕ, spec.config.synthesisProviders[p]? = some call.provider ∧
      (before.countCalls : ℤ) + (spec.config.synthesisProviders.length - p) ≤
        spec.config.policy.maxCalls := by
  obtain ⟨w₀, hw₀⟩ := h.happened ha
  obtain ⟨rfl, hok⟩ := hw₀.started
  have hphase := hok.phase
  rw [hstage] at hphase
  obtain ⟨-, hposition⟩ := hphase
  have hbudget := hok.budget
  have hnodup := hw₀.run.inv.accepted.synthesis_nodup
  refine ⟨_, hposition, ?_⟩
  obtain ⟨hlt, hget⟩ := List.getElem?_eq_some_iff.1 hposition
  have hidx : spec.config.synthesisProviders.idxOf call.provider =
      (fallbackEvents w₀.store.events).length := by
    rw [← hget]
    exact hnodup.idxOf_getElem _ hlt
  rw [hstage] at hbudget
  simp only [callReserve, hidx] at hbudget
  omega

/-- **The call budget.**  In every state of a run the stored calls are at most
`max_calls`; a proposal leaves a call for every juror and the whole chain free, a ballot
or a repair the whole chain, and a call of the chain itself and every later position. -/
theorem call_budget {c : Prog.Config World PyErr Question Answer Dict}
    (h : Reachable rt spec c) :
    (c.state.store.countCalls : ℤ) ≤ spec.config.policy.maxCalls ∧
      (∀ call before, .generate call before ∈ c.state.trace → call.stage = .proposal →
        (before.countCalls : ℤ) + (spec.config.providers.length +
          spec.config.synthesisProviders.length) ≤ spec.config.policy.maxCalls) ∧
      (∀ call before, .generate call before ∈ c.state.trace →
        call.stage = .jury ∨ call.stage = .juryRepair →
        (before.countCalls : ℤ) + spec.config.synthesisProviders.length ≤
          spec.config.policy.maxCalls) ∧
      ∀ call before, .started call before ∈ c.state.trace → call.stage = .synthesis →
        ∃ p : ℕ, spec.config.synthesisProviders[p]? = some call.provider ∧
          (before.countCalls : ℤ) + (spec.config.synthesisProviders.length - p) ≤
            spec.config.policy.maxCalls := by
  refine ⟨h.run.countCalls_le, ?_, ?_, ?_⟩
  · intro call before ha hstage
    have hbudget := h.run.generate_budget ha
    rw [hstage] at hbudget
    simpa [callReserve] using hbudget
  · intro call before ha hstage
    have hbudget := h.run.generate_budget ha
    rcases hstage with hstage | hstage <;> rw [hstage] at hbudget <;>
      simpa [callReserve] using hbudget
  · intro call before ha hstage
    exact h.run.synthesis_budget ha hstage

/-- In the run that makes its call twice two calls are counted, and the second one was made
while a ballot and the synthesis were free. -/
theorem call_budget_example : ∃ prompts events,
    (madeTwice none prompts events).store.countCalls = 2 ∧
      ((2 : ℕ) : ℤ) ≤ (soloSpec 50 none).config.policy.maxCalls ∧
      .generate (secondCall prompts) (startedAgain none prompts events).store ∈
        (madeTwice none prompts events).trace ∧
      ((startedAgain none prompts events).store.countCalls : ℤ) + (1 + 1) ≤
        (soloSpec 50 none).config.policy.maxCalls := by
  obtain ⟨prompts, plan, events, p, -, hreach⟩ := soloRun_madeTwice none
  have hbudget := call_budget hreach
  have hmade : .generate (secondCall prompts) (startedAgain none prompts events).store ∈
      (madeTwice none prompts events).trace := List.mem_append_right _ (List.mem_singleton.2 rfl)
  exact ⟨prompts, events, rfl, hbudget.1, hmade, hbudget.2.1 _ _ hmade rfl⟩

end CouncilLogic
