/-
# Providers, policies, responses and errors

The records of `models.py` the engine and the store work on, and the checks
`validate_run_policy` of `config.py` makes of a policy before any caller builds an
engine from it.

`ProviderError`, `ProviderResponse` and `Usage` are those of `src/model_council/models.py` with
all of their fields; their dictionaries list the fields in the order of `to_dict`.
`RunPolicy.Valid` is what `validate_run_policy` of `src/model_council/config.py` accepts, and
`Accepted` the state of an engine's configuration that every caller in the repository has
established before a run.
-/

import CouncilLogic.Json

namespace CouncilLogic

/-- The stages of a run; `jury_repair` is an audit stage of its own that uses the
provider settings of `jury`. -/
inductive Stage
  | proposal
  | jury
  | juryRepair
  | synthesis
  deriving DecidableEq, Repr

def Stage.name : Stage → Str
  | .proposal => lit "proposal"
  | .jury => lit "jury"
  | .juryRepair => lit "jury_repair"
  | .synthesis => lit "synthesis"

/-- The stages have different names, so that a row's stage can be read off its text. -/
@[simp] theorem Stage.name_inj {a b : Stage} : a.name = b.name ↔ a = b := by
  cases a <;> cases b <;> simp [Stage.name]

/-! ### Errors -/

/-- `ErrorCategory`. -/
inductive ErrorCategory
  | authentication
  | permission
  | rateLimit
  | timeout
  | connection
  | providerServer
  | invalidRequest
  | invalidResponse
  | contentFilter
  | budget
  | cancelled
  | unknown
  deriving DecidableEq, Repr

/-- `ErrorCategory.value`. -/
def ErrorCategory.value : ErrorCategory → Str
  | .authentication => lit "authentication"
  | .permission => lit "permission"
  | .rateLimit => lit "rate_limit"
  | .timeout => lit "timeout"
  | .connection => lit "connection"
  | .providerServer => lit "provider_server"
  | .invalidRequest => lit "invalid_request"
  | .invalidResponse => lit "invalid_response"
  | .contentFilter => lit "content_filter"
  | .budget => lit "budget"
  | .cancelled => lit "cancelled"
  | .unknown => lit "unknown"

/-- All members of the enumeration. -/
def ErrorCategory.all : List ErrorCategory :=
  [.authentication, .permission, .rateLimit, .timeout, .connection, .providerServer,
    .invalidRequest, .invalidResponse, .contentFilter, .budget, .cancelled, .unknown]

/-- The list of the categories is complete. -/
theorem ErrorCategory.mem_all (c : ErrorCategory) : c ∈ ErrorCategory.all := by
  cases c <;> simp [ErrorCategory.all]

/-- `None` or a string, as JSON. -/
def optStr (s : Option Str) : Json := (s.map Json.str).getD .null

/-- `None` or an integer, as JSON. -/
def optInt (n : Option ℤ) : Json := (n.map Json.int).getD .null

/-- `ProviderError`. -/
structure ProviderError where
  message : Str
  category : ErrorCategory := .unknown
  retryable : Bool := false
  statusCode : Option ℤ := none
  requestId : Option Str := none
  attempts : ℤ := 1
  ambiguous : Bool := false
  clientRequestId : Option Str := none
  elapsedMs : Option ℤ := none
  transportPhase : Option Str := none
  timeoutSubtype : Option Str := none
  providerErrorCode : Option Str := none
  deriving DecidableEq

/-- `ProviderError.to_dict()`. -/
def ProviderError.toDict (e : ProviderError) : Dict :=
  [(lit "message", .str e.message),
    (lit "category", .str e.category.value),
    (lit "retryable", .bool e.retryable),
    (lit "status_code", optInt e.statusCode),
    (lit "request_id", optStr e.requestId),
    (lit "attempts", .int e.attempts),
    (lit "ambiguous", .bool e.ambiguous),
    (lit "client_request_id", optStr e.clientRequestId),
    (lit "elapsed_ms", optInt e.elapsedMs),
    (lit "transport_phase", optStr e.transportPhase),
    (lit "timeout_subtype", optStr e.timeoutSubtype),
    (lit "provider_error_code", optStr e.providerErrorCode)]

/-- `_PROVIDER_ERROR_FIELDS` of `engine.py`. -/
def providerErrorFields : List Str :=
  [lit "message", lit "category", lit "retryable", lit "status_code", lit "request_id",
    lit "attempts", lit "ambiguous", lit "client_request_id", lit "elapsed_ms",
    lit "transport_phase", lit "timeout_subtype", lit "provider_error_code"]

/-- The fields the engine expects of an error are those `to_dict` writes. -/
theorem ProviderError.keys_toDict (e : ProviderError) :
    Dict.keys e.toDict = providerErrorFields := rfl

/-! ### Responses -/

/-- `Usage`. -/
structure Usage where
  inputTokens : Option ℤ := none
  outputTokens : Option ℤ := none
  totalTokens : Option ℤ := none
  cachedInputTokens : Option ℤ := none
  reasoningTokens : Option ℤ := none
  deriving DecidableEq

/-- `Usage.to_dict()`. -/
def Usage.toDict (u : Usage) : Dict :=
  [(lit "input_tokens", optInt u.inputTokens),
    (lit "output_tokens", optInt u.outputTokens),
    (lit "total_tokens", optInt u.totalTokens),
    (lit "cached_input_tokens", optInt u.cachedInputTokens),
    (lit "reasoning_tokens", optInt u.reasoningTokens)]

/-- `ProviderResponse`. -/
structure ProviderResponse where
  content : Str
  resolvedModel : Str
  requestId : Option Str := none
  usage : Usage := {}
  latencyMs : ℤ := 0
  attempts : ℤ := 1
  finishReason : Option Str := none
  metadata : Dict := []
  deriving DecidableEq

/-- `ProviderResponse.to_dict()`. -/
def ProviderResponse.toDict (r : ProviderResponse) : Dict :=
  [(lit "content", .str r.content),
    (lit "resolved_model", .str r.resolvedModel),
    (lit "request_id", optStr r.requestId),
    (lit "usage", .obj r.usage.toDict),
    (lit "latency_ms", .int r.latencyMs),
    (lit "attempts", .int r.attempts),
    (lit "finish_reason", optStr r.finishReason),
    (lit "metadata", .obj r.metadata)]

/-! ### Configuration -/

/-- `ProviderConfig`.  `settings` are the fields only the run lock compares:
timeouts, attempts, the enabled flag, credentials' names and `extra`. -/
structure ProviderConfig where
  name : Str
  model : Str
  lineage : Str
  endpoint : Str
  maxOutputTokens : ℤ := 1800
  stageMaxOutputTokens : List (Str × ℤ) := []
  settings : Dict := []
  deriving DecidableEq

/-- `ProviderConfig.to_dict()`. -/
def ProviderConfig.toDict (c : ProviderConfig) : Dict :=
  [(lit "name", .str c.name),
    (lit "model", .str c.model),
    (lit "lineage", .str c.lineage),
    (lit "endpoint", .str c.endpoint),
    (lit "max_output_tokens", .int c.maxOutputTokens),
    (lit "stage_max_output_tokens",
      .obj (c.stageMaxOutputTokens.map fun e => (e.1, .int e.2)))] ++ c.settings

/-- `ProviderConfig.output_tokens_for(stage)`. -/
def ProviderConfig.outputTokensFor (c : ProviderConfig) (stage : Stage) : ℤ :=
  (c.stageMaxOutputTokens.lookup stage.name).getD c.maxOutputTokens

/-- `RunPolicy`; the deadline is in ticks of the clock. -/
structure RunPolicy where
  proposalQuorum : ℤ := 3
  juryQuorum : ℤ := 3
  minLineages : ℤ := 3
  maxCalls : ℤ := 16
  maxParallelCalls : ℤ := 5
  deadlineSeconds : ℤ := 900
  allowPartial : Bool := true
  maxQuestionChars : ℤ := 30000
  maxStagePromptChars : ℤ := 60000
  truncationRetries : ℤ := 1
  maxRecoveryOutputTokens : ℤ := 8192
  juryRepairAttempts : ℤ := 0
  deriving DecidableEq

/-- What `validate_run_policy` establishes about the numbers of a policy, for
`n` providers of `lineages` distinct lineages and `s` synthesis attempts. -/
structure RunPolicy.Valid (p : RunPolicy) (n lineages s : ℕ) : Prop where
  proposal_quorum : 1 ≤ p.proposalQuorum ∧ p.proposalQuorum ≤ n
  jury_quorum : 1 ≤ p.juryQuorum ∧ p.juryQuorum ≤ n
  min_lineages : 1 ≤ p.minLineages ∧ p.minLineages ≤ lineages
  deadline : 0 < p.deadlineSeconds
  max_parallel_calls : 1 ≤ p.maxParallelCalls
  max_question_chars : 1 ≤ p.maxQuestionChars
  max_stage_prompt_chars : 1 ≤ p.maxStagePromptChars
  jury_repair_attempts : 0 ≤ p.juryRepairAttempts ∧ p.juryRepairAttempts ≤ 1
  truncation_retries : 0 ≤ p.truncationRetries ∧ p.truncationRetries ≤ 1
  max_recovery_output_tokens : 1 ≤ p.maxRecoveryOutputTokens
  max_calls : (n : ℤ) * 2 + s ≤ p.maxCalls

/-- What a run locks of an engine: the providers in order, the policy and the
synthesis chain. -/
structure RunConfig where
  providers : List ProviderConfig
  policy : RunPolicy
  synthesisProvider : Str
  synthesisFallbacks : List Str
  deriving DecidableEq

namespace RunConfig

/-- `list(self.providers)`. -/
def names (c : RunConfig) : List Str := c.providers.map ProviderConfig.name

/-- `self.synthesis_providers`. -/
def synthesisProviders (c : RunConfig) : List Str := c.synthesisProvider :: c.synthesisFallbacks

/-- `self.providers[name].config`. -/
def config? (c : RunConfig) (name : Str) : Option ProviderConfig :=
  c.providers.find? fun p => p.name = name

/-- The distinct lineages of the named providers. -/
def lineages (c : RunConfig) (names : List Str) : List Str :=
  (names.filterMap fun name => (c.config? name).map ProviderConfig.lineage).dedup

/-- What `CouncilEngine.__init__` accepts. -/
structure Accepted (c : RunConfig) : Prop where
  providers_ne_nil : c.providers ≠ []
  names_nodup : c.names.Nodup
  synthesis_nodup : c.synthesisProviders.Nodup
  synthesis_available : c.synthesisProviders ⊆ c.names
  max_calls : (c.providers.length : ℤ) * 2 + c.synthesisProviders.length ≤ c.policy.maxCalls

end RunConfig

end CouncilLogic
