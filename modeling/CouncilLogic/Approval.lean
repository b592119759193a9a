/-
# What a human approves

`cost_estimate` of `approval.py`: the ceilings of a plan, as `council approve` shows them
before a human types the plan's hash.

The estimate is shown by `council approve` and printed by the command line of
`src/model_council/cli.py`; it is part of what the plan hash covers.  Token bounds are computed as
in the source, with a float quotient that is rounded up, and each provider's output ceiling is the
greatest limit that any stage configures for it.  The theorems of the module are about the limits
alone: an estimate bounds every call that is made with its configured limit.
-/

import Mathlib.Data.Nat.Size
import CouncilLogic.Workload

namespace CouncilLogic
namespace Approval

open Workload

/-- `CHARS_PER_TOKEN_ESTIMATE`. -/
def charsPerTokenEstimate : ℤ := 4

/-- `is_paid(config)`. -/
def isPaid (config : RunConfig) : Bool :=
  config.providers.any fun p => !(lit "mock").isPrefixOf p.name

/-- The output limits a run is configured with. -/
def outputCaps (config : RunConfig) : List ℤ :=
  config.providers.flatMap fun p =>
    [Stage.proposal, Stage.jury, Stage.synthesis].map p.outputTokensFor

/-- `max(output_caps, default=0)`. -/
def largestOutput (config : RunConfig) : ℤ := (outputCaps config).max?.getD 0

/-- What `validate_provider_config` establishes about the output limits of a provider. -/
structure LimitsPositive (p : ProviderConfig) : Prop where
  max_output_tokens : 1 ≤ p.maxOutputTokens
  stage_max_output_tokens : ∀ e ∈ p.stageMaxOutputTokens, 1 ≤ e.2

/-! ### Tokens -/

/-- The float next to a number, halves to the even one: 53 bits are kept. -/
def nearestFloat (n : ℕ) : ℕ :=
  let unit := 2 ^ (n.size - 53)
  let down := n / unit
  let rest := n % unit
  (if unit < 2 * rest ∨ 2 * rest = unit ∧ down % 2 = 1 then down + 1 else down) * unit

/-- A number of characters whose quotient by four is a float. -/
def floatChars (n : ℤ) : ℤ :=
  if n < 0 then -(nearestFloat n.natAbs : ℤ) else nearestFloat n.natAbs

/-- `math.ceil(n / CHARS_PER_TOKEN_ESTIMATE)`, where the quotient is a float. -/
def estimatedTokens (n : ℤ) : ℤ := -(-floatChars n / charsPerTokenEstimate)

/-- The least number of characters whose quotient by four is no float any more. -/
def floatBound : ℕ := 2 ^ 1026

/-- The quotient is too large for a float, so that the division raises. -/
def tooLarge (n : ℤ) : Bool := decide (floatBound ≤ nearestFloat n.natAbs)

/-- Numbers below `2 ^ 53` are floats. -/
theorem nearestFloat_eq {n : ℕ} (h : n < 2 ^ 53) : nearestFloat n = n := by
  have hsize : n.size - 53 = 0 := Nat.sub_eq_zero_of_le (Nat.size_le.2 h)
  unfold nearestFloat
  simp only [hsize, pow_zero, Nat.div_one, Nat.mod_one, mul_zero, mul_one]
  rw [if_neg (by omega)]

/-- Below `2 ^ 53` characters the quotient is exact. -/
theorem estimatedTokens_eq {n : ℤ} (hn : 0 ≤ n) (h : n < 2 ^ 53) :
    estimatedTokens n = -(-n / charsPerTokenEstimate) := by
  have hnat : n.natAbs < 2 ^ 53 := by omega
  unfold estimatedTokens floatChars
  rw [if_neg (by omega), nearestFloat_eq hnat, Int.natAbs_of_nonneg hn]

/-- Numbers up to `2 ^ 53` are within the range of floats. -/
theorem lt_floatBound : 2 ^ 53 < floatBound := by
  unfold floatBound
  gcongr <;> decide

/-- A number of characters below `2 ^ 53` can be divided. -/
theorem tooLarge_of_lt {n : ℤ} (hn : 0 ≤ n) (h : n < 2 ^ 53) : tooLarge n = false := by
  have hnat : n.natAbs < 2 ^ 53 := by omega
  unfold tooLarge
  rw [nearestFloat_eq hnat, decide_eq_false_iff_not, not_le]
  exact hnat.trans lt_floatBound

/-! ### Estimates -/

/-- The figures of an estimate. -/
structure CostEstimate where
  paid : Bool
  providerCount : ℕ
  providers : List (Str × Str)
  healthyRunCalls : ℕ
  mandatoryReservedCalls : ℤ
  maxCalls : ℤ
  maxInputTokensUpperBound : ℤ
  maxOutputTokensUpperBound : ℤ
  deriving DecidableEq

/-- `max_calls * largest_prompt`. -/
def promptChars (config : RunConfig) (workload : Plan) : ℤ :=
  min config.policy.maxCalls (workload.mandatoryCalls + workload.recoveryCallCapacity) *
    ((workload.stagePromptChars.toList.map Prod.snd).foldl max 0 : ℕ)

/-- `cost_estimate(config, workload)`, where `promptChars` is not too large. -/
def costEstimate (config : RunConfig) (workload : Plan) : CostEstimate :=
  let maxCalls := min config.policy.maxCalls
    (workload.mandatoryCalls + workload.recoveryCallCapacity)
  { paid := isPaid config
    providerCount := config.providers.length
    providers := config.providers.map fun p => (p.name, p.model)
    healthyRunCalls := 2 * config.providers.length + 1
    mandatoryReservedCalls := workload.mandatoryCalls
    maxCalls := maxCalls
    maxInputTokensUpperBound := estimatedTokens (promptChars config workload)
    maxOutputTokensUpperBound := maxCalls * largestOutput config }

/-- The estimate as a part of the plan record. -/
def CostEstimate.toDict (e : CostEstimate) : Dict :=
  [(lit "paid", .bool e.paid),
    (lit "provider_count", .int e.providerCount),
    (lit "providers", .arr (e.providers.map fun p =>
      .obj [(lit "name", .str p.1), (lit "model", .str p.2)])),
    (lit "healthy_run_calls", .int e.healthyRunCalls),
    (lit "mandatory_reserved_calls", .int e.mandatoryReservedCalls),
    (lit "max_calls", .int e.maxCalls),
    (lit "max_input_tokens_upper_bound", .int e.maxInputTokensUpperBound),
    (lit "max_output_tokens_upper_bound", .int e.maxOutputTokensUpperBound),
    (lit "currency_estimate", .null),
    (lit "note", .str (lit ("Call and output figures use configured limits. The legacy " ++
      "max_input_tokens_upper_bound field is an approximation at 4 " ++
      "characters per token, not a guaranteed upper bound. Provider " ++
      "tokenization and prices vary; this is not a currency ceiling.")))]

/-! ### The ceilings -/

variable {rt : Runtime} {config : RunConfig} {plan : Plan}

/-- Every configured output limit is at most the largest one. -/
theorem outputTokensFor_le {p : ProviderConfig} (hp : p ∈ config.providers) {stage : Stage}
    (hstage : stage ≠ .juryRepair) : p.outputTokensFor stage ≤ largestOutput config := by
  have hmem : p.outputTokensFor stage ∈ outputCaps config := by
    refine List.mem_flatMap.2 ⟨p, hp, List.mem_map.2 ⟨stage, ?_, rfl⟩⟩
    cases stage <;> simp_all
  unfold largestOutput
  cases hmax : (outputCaps config).max? with
  | none =>
    rw [List.max?_eq_none_iff] at hmax
    rw [hmax] at hmem
    cases hmem
  | some m => exact (List.max?_le_iff hmax).1 le_rfl _ hmem

/-- The limit of every stage is positive. -/
theorem LimitsPositive.outputTokensFor {p : ProviderConfig} (h : LimitsPositive p)
    (stage : Stage) : 1 ≤ p.outputTokensFor stage := by
  unfold ProviderConfig.outputTokensFor
  cases hl : p.stageMaxOutputTokens.lookup stage.name with
  | none => exact h.max_output_tokens
  | some limit =>
    obtain ⟨l₁, l₂, heq, -⟩ := List.lookup_eq_some_iff.1 hl
    have hmem : (stage.name, limit) ∈ p.stageMaxOutputTokens := by
      rw [heq]
      exact List.mem_append_right _ List.mem_cons_self
    exact h.stage_max_output_tokens _ hmem

/-- The largest limit of valid providers is no loss. -/
theorem largestOutput_nonneg (h : ∀ p ∈ config.providers, LimitsPositive p) :
    0 ≤ largestOutput config := by
  unfold largestOutput
  cases hmax : (outputCaps config).max? with
  | none => exact le_rfl
  | some m =>
    obtain ⟨p, hp, hm⟩ := List.mem_flatMap.1 (List.max?_mem hmax)
    obtain ⟨stage, -, rfl⟩ := List.mem_map.1 hm
    have hpos := (h p hp).outputTokensFor stage
    show (0 : ℤ) ≤ p.outputTokensFor stage
    omega

/-- The calls of a plan: those that have to be made, and the rest. -/
theorem calls_of_plan {draws : PlanDraws} {question : Str}
    (h : estimateWorkload rt draws question config.names config.policy
      config.synthesisProviders = .ok plan) :
    plan.mandatoryCalls = config.names.length * 2 + config.synthesisProviders.length ∧
      plan.recoveryCallCapacity = max 0 (config.policy.maxCalls - config.names.length * 2 -
        config.synthesisProviders.length) := by
  unfold estimateWorkload at h
  simp only [bind, Except.bind] at h
  split at h
  · cases h
  split at h
  · cases h
  cases h
  exact ⟨rfl, rfl⟩

/-- The call ceiling of an accepted configuration is the call limit of its policy. -/
theorem maxCalls_costEstimate (haccepted : config.Accepted) {draws : PlanDraws} {question : Str}
    (hplan : estimateWorkload rt draws question config.names config.policy
      config.synthesisProviders = .ok plan) :
    (costEstimate config plan).maxCalls = config.policy.maxCalls := by
  have hmax := haccepted.max_calls
  have hlength : config.names.length = config.providers.length := by simp [RunConfig.names]
  obtain ⟨hmandatory, hrecovery⟩ := calls_of_plan hplan
  show min config.policy.maxCalls (plan.mandatoryCalls + plan.recoveryCallCapacity) = _
  rw [hmandatory, hrecovery, hlength]
  omega

end Approval
end CouncilLogic
