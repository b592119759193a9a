/-
# The approved output ceiling

The estimate a human approves multiplies the call limit with the largest configured
output limit.  The calls of a run are within it as long as none is given more than that
limit: after a truncated response a call is given a raised limit, which the estimate does
not know of.

The number is `max_output_tokens_upper_bound` of `cost_estimate` in
`src/model_council/approval.py`, which `docs/AGENT-INTERFACE.md` shows to the human who approves;
the raised limit is in the second pass of `_run_parallel_stage` in `src/model_council/engine.py`.
-/

import CouncilLogic.Approval
import CouncilLogic.Engine.DispatchLaws
import CouncilLogic.Engine.Twice
import CouncilLogic.Guarantees.Budget
import CouncilLogic.Guarantees.Leases

namespace CouncilLogic

open Protocol Workload Approval

variable {rt : Runtime} {spec : RunSpec} {w : World}

/-- The output limits of all calls that were made, added up. -/
def World.dispatchedTokens (w : World) : ℤ := (w.dispatched.map Call.outputLimit).sum

/-- The configured limit of a call is at most the largest one. -/
theorem stageLimit_le {call : Call} {config : RunConfig} (hprovider : call.provider ∈ config.names)
    (hsettings : call.providerStage = call.stage.providerStage) :
    stageLimit config call ≤ largestOutput config := by
  obtain ⟨p, hp⟩ := config?_of_mem hprovider
  have hstage : call.providerStage ≠ .juryRepair := by
    rw [hsettings]
    cases call.stage <;> simp [Stage.providerStage]
  unfold stageLimit
  rw [hp]
  exact outputTokensFor_le (List.mem_of_find?_eq_some hp) hstage

/-- The raised limit of a call that follows a truncated response is within the largest
configured one. -/
def RaiseCovered (config : RunConfig) (start : Call × Store) : Prop :=
  isTruncated start = true →
    recoveryLimit config.policy (stageLimit config start.1) ≤ largestOutput config

/-- What a call is given, unless its limit was raised beyond the largest configured one. -/
theorem StartOk.outputLimit_le {call : Call} {before : Store} (h : StartOk rt spec before call)
    (hcovered : RaiseCovered spec.config (call, before)) :
    call.outputLimit ≤ largestOutput spec.config := by
  rcases h.limit with hlimit | ⟨htruncated, hlimit⟩
  · rw [hlimit]
    exact stageLimit_le h.provider h.settings
  · rw [hlimit]
    exact hcovered htruncated

/-- **The output ceiling.**  As long as no call that followed a truncated response was
raised beyond the largest configured limit, the output limits of all calls of a run, over
all its resumes, stay within the estimate that was approved. -/
theorem output_ceiling {c : Prog.Config World PyErr Question Answer Dict}
    (h : Reachable rt spec c) (hpositive : ∀ p ∈ spec.config.providers, LimitsPositive p)
    (hcovered : ∀ stage provider, ∀ start ∈ c.state.dispatchesOf stage provider,
      RaiseCovered spec.config start)
    {draws : PlanDraws} {plan : Plan}
    (hplan : estimateWorkload rt draws spec.question spec.config.names spec.config.policy
      spec.config.synthesisProviders = .ok plan) :
    c.state.dispatchedTokens ≤ (costEstimate spec.config plan).maxOutputTokensUpperBound := by
  have hlimits : ∀ limit ∈ c.state.dispatched.map Call.outputLimit,
      limit ≤ largestOutput spec.config := by
    intro limit hlimit
    obtain ⟨call, hcall, rfl⟩ := List.mem_map.1 hlimit
    obtain ⟨before, hstart, hok⟩ := h.run.dispatched_started hcall
    exact hok.outputLimit_le (hcovered _ _ _ hstart)
  have hsum := List.sum_le_card_nsmul _ _ hlimits
  have hcount := h.run.length_dispatched_le
  have hmax := h.run.countCalls_le
  have hcalls : (c.state.dispatched.length : ℤ) ≤ spec.config.policy.maxCalls := by omega
  have hceiling : (costEstimate spec.config plan).maxOutputTokensUpperBound =
      spec.config.policy.maxCalls * largestOutput spec.config := by
    rw [← maxCalls_costEstimate h.run.inv.accepted hplan]
    rfl
  calc c.state.dispatchedTokens
      ≤ (c.state.dispatched.map Call.outputLimit).length • largestOutput spec.config := hsum
    _ = c.state.dispatched.length * largestOutput spec.config := by
        rw [List.length_map, nsmul_eq_mul]
    _ ≤ spec.config.policy.maxCalls * largestOutput spec.config :=
        mul_le_mul_of_nonneg_right hcalls (largestOutput_nonneg hpositive)
    _ = (costEstimate spec.config plan).maxOutputTokensUpperBound := hceiling.symm

/-- The ceiling holds of a run whose call was made again with a raised limit: fifty tokens
and then 1074, within sixteen calls of the 1800 tokens that its synthesis may have. -/
theorem output_ceiling_example : ∃ prompts events plan,
    (secondCall prompts, (secondPass (some 1800) prompts events).store) ∈
        (madeTwice (some 1800) prompts events).dispatchesOf .proposal (lit "solo") ∧
      isTruncated (secondCall prompts, (secondPass (some 1800) prompts events).store) = true ∧
      (madeTwice (some 1800) prompts events).dispatchedTokens = 50 + 1074 ∧
      50 + 1074 ≤
        (costEstimate (soloSpec 50 (some 1800)).config plan).maxOutputTokensUpperBound := by
  obtain ⟨prompts, plan, events, p, h, hreach⟩ := soloRun_madeTwice (some 1800)
  obtain ⟨draws, hplan⟩ := h.planned
  have hpositive : ∀ p ∈ (soloSpec 50 (some 1800)).config.providers, LimitsPositive p := by
    intro p hp
    rw [List.mem_singleton.1 hp]
    exact ⟨by decide, by decide⟩
  -- the limit of every call may be raised: the synthesis is configured with more
  have hcovered : ∀ stage provider, ∀ start ∈
      (madeTwice (some 1800) prompts events).dispatchesOf stage provider,
      RaiseCovered (soloSpec 50 (some 1800)).config start := by
    intro stage provider start hstart _
    obtain ⟨a, ha, hs⟩ := List.mem_filterMap.1 (mem_dispatchesOf hstart)
    have hmem := (List.mem_filter.1 ha).1
    simp only [madeTwice, startedAgain, secondPass, cutOff, madeOnce, soloStarted, World.record,
      World.withStore, List.cons_append, List.nil_append, List.mem_cons, List.not_mem_nil,
      or_false] at hmem
    have hraise : recoveryLimit exampleEngine.policy 50 ≤
        largestOutput (soloSpec 50 (some 1800)).config := by decide
    rcases hmem with rfl | rfl | rfl | rfl | rfl | rfl | rfl | rfl <;> cases hs <;> exact hraise
  have hstart : (secondCall prompts, (secondPass (some 1800) prompts events).store) ∈
      (madeTwice (some 1800) prompts events).dispatchesOf .proposal (lit "solo") := by
    rw [h.dispatchesOf_madeTwice]
    exact List.mem_cons_of_mem _ List.mem_cons_self
  exact ⟨prompts, events, plan, hstart, h.isTruncated_secondCall, rfl,
    output_ceiling hreach hpositive hcovered hplan⟩

/-- The policy of the example is valid for one provider. -/
theorem examplePolicy_valid : exampleEngine.policy.Valid 1 1 1 where
  proposal_quorum := by decide
  jury_quorum := by decide
  min_lineages := by decide
  deadline := by decide
  max_parallel_calls := by decide
  max_question_chars := by decide
  max_stage_prompt_chars := by
    show 1 ≤ exampleMaxChars
    unfold exampleMaxChars
    omega
  jury_repair_attempts := by decide
  truncation_retries := by decide
  max_recovery_output_tokens := by decide
  max_calls := by decide

/-- **A truncated response can take a run beyond its ceiling**: with a configured limit of
fifty tokens the estimate is eight hundred, and two calls are given 1124. -/
theorem ceiling_overspent :
    ¬ ∀ rt spec c draws plan, Reachable rt spec c →
      (∀ p ∈ spec.config.providers, LimitsPositive p) →
      spec.config.policy.Valid spec.config.providers.length
        (spec.config.lineages spec.config.names).length spec.config.synthesisProviders.length →
      estimateWorkload rt draws spec.question spec.config.names spec.config.policy
        spec.config.synthesisProviders = .ok plan →
      c.state.dispatchedTokens ≤ (costEstimate spec.config plan).maxOutputTokensUpperBound := by
  intro hclaim
  obtain ⟨prompts, plan, events, p, h, hreach⟩ := soloRun_madeTwice none
  obtain ⟨draws, hplan⟩ := h.planned
  have hpositive : ∀ p ∈ (soloSpec 50 none).config.providers, LimitsPositive p := by
    intro p hp
    rw [List.mem_singleton.1 hp]
    exact ⟨by decide, fun e he => by cases he⟩
  have hvalid : (soloSpec 50 none).config.policy.Valid 1 1 1 := examplePolicy_valid
  have hle := hclaim _ _ _ draws plan hreach hpositive hvalid hplan
  have hspent : (madeTwice none prompts events).dispatchedTokens = 50 + 1074 := rfl
  have hceiling : (costEstimate (soloSpec 50 none).config plan).maxOutputTokensUpperBound =
      (costEstimate (soloSpec 50 none).config plan).maxCalls * 50 := rfl
  have hcalls : (costEstimate (soloSpec 50 none).config plan).maxCalls = 16 :=
    maxCalls_costEstimate (soloEngine 50 none false).accepted hplan
  have hbound : (madeTwice none prompts events).dispatchedTokens ≤ _ := hle
  rw [hspent, hceiling, hcalls] at hbound
  omega

end CouncilLogic
