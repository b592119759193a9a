/-
# A call that is made twice

The second pass of `_run_parallel_stage` in `src/model_council/engine.py`: a response
with `finish_reason=length` is preserved, its row fails, and the call is made again with
a raised limit, in the same execution.  The run followed here has one provider, which
gets fifty tokens for its proposal.  Its first response is cut off, so the row of the
slot is started a second time with 1074 tokens, and `provider_retry_started` carries the
call count two.

The limit that is configured for the synthesis is a parameter: the largest configured
limit is what an approval counts with, and the raised limit of the second call may lie
below it or above it.

The run is a witness for what is proved of all runs about the budget, the prompts, the
slots and the retries: it makes two calls for one slot, the second one on a truncated
row, and the process may end after either.
-/

import CouncilLogic.Engine.DispatchLaws
import CouncilLogic.Engine.Follow

namespace CouncilLogic

open Protocol

/-! ### The worlds it passes through -/

/-- A response that was cut off. -/
def cutResponse : ProviderResponse where
  content := lit "\x7b"
  resolvedModel := lit "m"
  finishReason := some (lit "length")

/-- What it is stored as. -/
def cutError : ProviderError where
  message := lit "Provider response did not complete normally (finish_reason=length)"
  category := .invalidResponse

section Twice
variable (other : Option ℤ) (prompts : PromptPair) (events : List Event)

/-- The first call, with fifty tokens. -/
def firstCall : Call := exampleCall prompts 50

/-- The call that is made again, with a thousand more. -/
def secondCall : Call := exampleCall prompts 1074

/-- The first call is made. -/
def madeOnce : World :=
  (soloStarted 50 other prompts events).record (.generate (firstCall prompts)
    (soloStarted 50 other prompts events).store)

/-- Its response is preserved, and its row fails. -/
def cutOff : World :=
  let preserved := (madeOnce other prompts events).withStore
    ((madeOnce other prompts events).store.addEvent .truncatedResponsePreserved
      (Dict.canon (truncatedPayload (firstCall prompts) cutResponse)))
  preserved.withStore (preserved.store.updateInvocation 0 (Store.setState (.failed cutError)))

/-- The second pass begins. -/
def secondPass : World :=
  (cutOff other prompts events).record (.enter .proposal [(lit "solo", prompts)]
    (cutOff other prompts events).store)

/-- The row of the failed call. -/
def cutRow : Invocation :=
  Store.setState (.failed cutError) (exampleRow (combinedPrompt prompts))

/-- The row is called again. -/
def startedAgain : World :=
  { ((secondPass other prompts events).record (.attempt (secondCall prompts)
      (secondPass other prompts events).store)).record (.started (secondCall prompts)
      (secondPass other prompts events).store) with
    store := ((secondPass other prompts events).store.updateInvocation 0 Store.restart).withEvents
      ((secondPass other prompts events).store.events ++
        [Store.retryAudit (cutRow prompts) cutError])
    live := [0, 0] }

/-- The second call is made. -/
def madeTwice : World :=
  (startedAgain other prompts events).record (.generate (secondCall prompts)
    (startedAgain other prompts events).store)

variable {other} {prompts} {events} (hprompts : ExamplePrompts prompts) {plan : Workload.Plan}
  (h : Opening exampleRuntime (soloEngine 50 other false) (soloSpec 50 other) nines plan events)

/-- The first pass ends with a response that may be asked for again. -/
def cutPool (prompts : PromptPair) : Pool where
  tasks := [(⟨firstCall prompts, none⟩, .settled)]
  recoverable := [⟨lit "solo", prompts, some cutResponse, 50, 1⟩]

include hprompts h in
/-- The pool of the first pass: the response is cut off, and the row says so. -/
theorem ends_cutPool :
    Prog.Ends (runPool exampleRuntime (soloEngine 50 other false) (exampleArgs prompts)
        (.opened (soloSpec 50 other) events) 1 6
          { tasks := [(⟨firstCall prompts, none⟩, .queued)] })
      { store := .opened (soloSpec 50 other) events
        trace := [.enter .proposal [(lit "solo", prompts)] (.opened (soloSpec 50 other) events)] }
      (cutPool prompts) (cutOff other prompts events) := by
  have hstart := ends_soloStart hprompts 50 other false events
  rw [h.notDispatchedCount] at hstart
  have hnow : ((soloStarted 50 other prompts events).now : ℤ) < (exampleArgs prompts).deadline := by
    show ((0 : ℕ) : ℤ) < 900
    omega
  have hcount :
    (Store.opened (soloSpec 50 other) events).truncationRetryCount .proposal (lit "solo") =
      0 := h.truncationRetryCount .proposal (lit "solo")
  have hrecover : mayRecover exampleEngine.policy (exampleArgs prompts)
      (.opened (soloSpec 50 other) events) ⟨firstCall prompts, none⟩ (some cutResponse) = true := by
    have hprior : isLengthFailure (none : Option Invocation) = false := rfl
    unfold mayRecover
    simp [exampleArgs, proposalArgs, firstCall, exampleCall, hcount, hprior, cutResponse,
      exampleEngine]
  have hpreserved : (madeOnce other prompts events).store.appendEvent exampleRuntime
      .truncatedResponsePreserved (truncatedPayload (firstCall prompts) cutResponse) = .ok _ :=
    appendEvent_eq (Dict.store_ok rfl _)
  have hfail : ((madeOnce other prompts events).store.addEvent .truncatedResponsePreserved
      (Dict.canon (truncatedPayload (firstCall prompts) cutResponse))).finishInvocationFailure
        exampleRuntime 0 cutError = .ok _ :=
    finishInvocationFailure_eq (r := exampleRow (combinedPrompt prompts)) rfl rfl (by decide)
      (by decide)
  refine ends_runPool (i := 0) rfl (hstart.seq (Prog.ends_pure _ _)) ?_
  refine ends_runPool (i := 0) rfl ((ends_reserveTask _ _ _ _).seq (Prog.ends_pure _ _)) ?_
  refine ends_runPool (i := 0) rfl
    ((ends_dispatchTask (w := soloStarted 50 other prompts events) hnow).seq
      (Prog.ends_pure _ _)) ?_
  refine ends_runPool (i := 0) rfl ((ends_returnTask _ _ _ _ cutResponse _).seq
    (Prog.ends_pure _ _)) ?_
  refine ends_runPool (i := 0) rfl ((ends_settleTruncated hrecover rfl hpreserved).catching.seq
    (Prog.ends_pure _ _)) ?_
  refine ends_runPool (i := 0) rfl ((ends_failPreserved hfail rfl).catching.seq
    (Prog.ends_pure _ _)) ?_
  exact Prog.ends_pure _ _

/-- The arguments of the second pass. -/
def secondArgs (prompts : PromptPair) : StageArgs :=
  { exampleArgs prompts with
    allowTruncationRecovery := false
    outputOverrides := [(lit "solo", 1074)] }

include hprompts h in
/-- The second pass makes the call again, with a raised limit. -/
theorem passes_secondPass :
    Prog.Passes (runStagePass exampleRuntime (soloEngine 50 other false) (secondArgs prompts))
      (cutOff other prompts events) (madeTwice other prompts events) := by
  have hselect : Prog.Ends (selectSlots exampleRuntime (soloEngine 50 other false).policy
      (secondArgs prompts) (cutOff other prompts events).store (secondArgs prompts).prompts)
      (secondPass other prompts events)
      ({}, [(lit "solo", prompts)]) (secondPass other prompts events) := by
    obtain ⟨marker, started, preflight, -, -, -, rfl⟩ := h.written
    refine ends_selectSlots_work (fun e he => ?_) _
    rw [List.mem_singleton.1 he]
    exact selectSlot_again (r := cutRow prompts) (e := cutError) rfl rfl rfl rfl rfl
      (show ((0 : ℕ) : ℤ) < 1 by omega) rfl
  have hnow : ((0 : ℕ) : ℤ) < (secondArgs prompts).deadline := by
    show ((0 : ℕ) : ℤ) < 900
    omega
  have hfits : ∀ e ∈ [(lit "solo", prompts)], fitsLimit exampleEngine.policy e.2 = true := by
    intro e he
    rw [List.mem_singleton.1 he]
    exact hprompts.fit
  have hcapacity : 1 ≤
      remainingCalls (soloEngine 50 other false).toRunConfig (cutOff other prompts events).store -
        downstreamCallReserve (soloEngine 50 other false).toRunConfig
          (cutOff other prompts events).store
          .proposal [lit "solo"] := by
    show 1 ≤ 13
    omega
  have hparallel : (1 : ℤ) ≤ exampleEngine.policy.maxParallelCalls := by decide
  have hstart : (cutOff other prompts events).store.startInvocation exampleRuntime .proposal
      (lit "solo") (lit "m") (lit "l") (combinedPrompt prompts) = .ok _ :=
    startInvocation_again (r := cutRow prompts) (e := cutError) rfl rfl ⟨rfl, rfl, rfl⟩
      (by decide) (by decide) (by decide) (combinedPrompt_not_blank prompts) hprompts.encodable
  refine (leads_runStagePass hselect (List.cons_ne_nil _ _) hnow hfits hcapacity
    hparallel).passes ?_
  refine Prog.Passes.left (Prog.Passes.left ?_ _) _
  refine passes_runPool (i := 0) rfl ((ends_startTask (w := secondPass other prompts events) hnow
    rfl hstart).seq (Prog.ends_pure _ _)) ?_
  refine passes_runPool (i := 0) rfl ((ends_reserveTask _ _ _ _).seq (Prog.ends_pure _ _)) ?_
  exact passes_movePool (i := 0) rfl
    ((ends_dispatchTask (w := startedAgain other prompts events) hnow).passes.left _)

include hprompts h in
/-- **The stage of the example makes its call twice.** -/
theorem passes_madeTwice :
    Prog.Passes (runParallelStage exampleRuntime (soloEngine 50 other false) (exampleArgs prompts))
      { store := .opened (soloSpec 50 other) events } (madeTwice other prompts events) := by
  have hfirst :
    Prog.Ends (runStagePass exampleRuntime (soloEngine 50 other false) (exampleArgs prompts))
      { store := .opened (soloSpec 50 other) events }
      ({}, [⟨lit "solo", prompts, some cutResponse, 50, 1⟩]) (cutOff other prompts events) := by
    have hresult : Prog.Ends (poolResult (cutPool prompts)) (cutOff other prompts events)
        ({}, (cutPool prompts).recoverable) (cutOff other prompts events) := Prog.ends_pure _ _
    refine (soloRun_firstPass hprompts 50 other false events).ends ?_
    exact ((ends_cutPool hprompts h).seq hresult).seq (Prog.ends_pure _ _)
  have hsplit : Prog.Ends (splitRecoverable exampleRuntime exampleEngine.policy .proposal
      [⟨lit "solo", prompts, some cutResponse, 50, 1⟩]) (cutOff other prompts events)
      ({}, [(⟨lit "solo", prompts, some cutResponse, 50, 1⟩, 1074)])
        (cutOff other prompts events) := by
    unfold splitRecoverable
    exact (Prog.ends_pure _ _).seq (Prog.ends_pure _ _)
  unfold runParallelStage
  refine hfirst.seq_passes (hsplit.seq_passes ?_)
  exact (passes_secondPass hprompts h).left _

omit hprompts in
include h in
/-- Both calls are starts of the one slot. -/
theorem Opening.dispatchesOf_madeTwice : (madeTwice other prompts events).dispatchesOf .proposal
    (lit "solo") = [(firstCall prompts, .opened (soloSpec 50 other) events),
      (secondCall prompts, (secondPass other prompts events).store)] := by
  obtain ⟨marker, started, preflight, -, -, -, rfl⟩ := h.written
  rfl

omit hprompts in
include h in
/-- The second one is made on the row that the cut response left. -/
theorem Opening.isTruncated_secondCall :
    isTruncated (secondCall prompts, (secondPass other prompts events).store) = true := by
  obtain ⟨marker, started, preflight, -, -, -, rfl⟩ := h.written
  rfl

end Twice

/-- **A run that makes its call twice.**  The worlds of this module are reachable: an engine
creates the run, its first resume opens the stages, and the process is in the middle of the
second pass of the proposals. -/
theorem soloRun_madeTwice (other : Option ℤ) : ∃ prompts plan events p,
    Opening exampleRuntime (soloEngine 50 other false) (soloSpec 50 other) nines plan events ∧
      Reachable exampleRuntime (soloSpec 50 other)
        (.active p (madeTwice other prompts events)) := by
  obtain ⟨prompts, hprompts⟩ := exists_examplePrompts
  obtain ⟨plan, events, h⟩ := soloRun_opening 50 other false
  obtain ⟨p, hreach⟩ := soloRun_stage hprompts h (passes_madeTwice hprompts h)
  exact ⟨prompts, plan, events, p, h, hreach⟩

end CouncilLogic
