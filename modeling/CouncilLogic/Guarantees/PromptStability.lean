/-
# Prompts that stay the same

The prompts of a slot are rebuilt at every resume from what the store has kept: the
marker, the two locks and the stored responses.  Once they are determined they stay as
they are, so a slot that is called again is given the prompts it was given before, and its
row never has another input than the next call.

The prompts are made by `src/model_council/protocol.py` and compared by `start_invocation` of
`src/model_council/store.py`, which refuses a slot with another input.  The theorem says that this
refusal is never met by the engine itself.
-/

import CouncilLogic.Engine.DispatchLaws
import CouncilLogic.Engine.RowLaws
import CouncilLogic.Engine.Twice

namespace CouncilLogic

open Protocol

variable {rt : Runtime} {spec : RunSpec} {w w' : World} {stage : Stage} {provider : Str}

/-- A call that was made has the prompts the store determines. -/
theorem Run.expectedPrompts_dispatched (h : Run rt spec w) {call : Call}
    (hcall : call ∈ w.dispatched) :
    w.store.expectedPrompts rt spec call.stage call.provider = some call.prompts := by
  obtain ⟨before, hstart, -⟩ := h.dispatched_started hcall
  obtain ⟨a, ha, hstarted⟩ := List.mem_filterMap.1 (mem_dispatchesOf hstart)
  cases a with
  | started call' before' =>
    cases hstarted
    obtain ⟨w₀, hw₀⟩ := h.happened (List.mem_filter.1 ha).1
    obtain ⟨-, hok⟩ := hw₀.started
    exact hw₀.run.expectedPrompts_later hw₀.later hok.prompts
  | attempt | generate | reserved | granted | released | reconciled | settled | enter | overLimit
  | adjudicated => cases hstarted

/-- **Prompt stability.**  The calls made for one slot, over the whole life of a run, are
all given the same prompts; and no start of an invocation is ever refused because its slot
has another input. -/
theorem prompt_stability {c : Prog.Config World PyErr Question Answer Dict}
    (h : Reachable rt spec c) :
    (∀ call ∈ c.state.dispatched, ∀ call' ∈ c.state.dispatched, call.slot = call'.slot →
      call.prompts = call'.prompts) ∧
      ∀ call before config, .attempt call before ∈ c.state.trace →
        spec.config.config? call.provider = some config →
        before.startInvocation rt call.stage call.provider config.model config.lineage
          (combinedPrompt call.prompts) ≠ .error Store.differsError := by
  constructor
  · intro call hcall call' hcall' hslot
    have hp := h.run.expectedPrompts_dispatched hcall
    have hp' := h.run.expectedPrompts_dispatched hcall'
    rw [Call.slot, Call.slot, Prod.mk.injEq] at hslot
    rw [hslot.1, hslot.2, hp'] at hp
    exact (Option.some.inj hp).symm
  · intro call before config ha hconfig
    obtain ⟨w₀, hw₀⟩ := h.run.happened ha
    obtain ⟨rfl, hok⟩ := hw₀.attempted
    refine Store.startInvocation_ne_differs fun r hr => ?_
    obtain ⟨⟨config', hconfig', hmodel, hlineage⟩, prompts, hp, hsha⟩ := hw₀.run.sameInput hr
    rw [hconfig] at hconfig'
    rw [hok.prompts] at hp
    cases hconfig'
    cases hp
    exact ⟨hmodel, hlineage, hsha⟩

/-- In the run that makes its call twice both calls have the same prompts, and the second
start, which finds a row, is not refused. -/
theorem prompt_stability_example : ∃ prompts events,
    firstCall prompts ∈ (madeTwice none prompts events).dispatched ∧
      secondCall prompts ∈ (madeTwice none prompts events).dispatched ∧
      firstCall prompts ≠ secondCall prompts ∧
      (firstCall prompts).prompts = (secondCall prompts).prompts ∧
      ((secondPass none prompts events).store.slot .proposal (lit "solo")).isSome = true ∧
      (secondPass none prompts events).store.startInvocation exampleRuntime .proposal (lit "solo")
        (lit "m") (lit "l") (combinedPrompt prompts) ≠ .error Store.differsError := by
  obtain ⟨prompts, plan, events, p, -, hreach⟩ := soloRun_madeTwice none
  have hstable := prompt_stability hreach
  have hcalls : (madeTwice none prompts events).dispatched =
      [firstCall prompts, secondCall prompts] := rfl
  have hfirst : firstCall prompts ∈ (madeTwice none prompts events).dispatched := by
    rw [hcalls]
    exact List.mem_cons_self
  have hsecond : secondCall prompts ∈ (madeTwice none prompts events).dispatched := by
    rw [hcalls]
    exact List.mem_cons_of_mem _ List.mem_cons_self
  have hdiffer : firstCall prompts ≠ secondCall prompts := by
    intro heq
    have hlimit := congrArg Call.outputLimit heq
    cases hlimit
  have hattempt : .attempt (secondCall prompts) (secondPass none prompts events).store ∈
      (madeTwice none prompts events).trace :=
    List.mem_append_left _ (List.mem_append_left _ (List.mem_append_right _
      (List.mem_singleton.2 rfl)))
  exact ⟨prompts, events, hfirst, hsecond, hdiffer, hstable.1 _ hfirst _ hsecond rfl, rfl,
    hstable.2 _ _ (soloProvider 50 none) hattempt rfl⟩

end CouncilLogic
