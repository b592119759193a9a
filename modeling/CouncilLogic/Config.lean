/-
# Configurations that a run is created from

What `src/model_council/config.py` checks of the providers, the policy and the synthesis chain
before an engine is built from them, and the report on the lineages of the providers that it rests
on.

What `urlparse` makes of a text is a parameter, and so is the `ValueError` that it may raise.

The functions are `model_identity`, `lineage_report`, `validate_run_policy` and
`validate_synthesis_providers`, and for the engine `_providers` of `src/model_council/cli.py` and
the checks of `CouncilEngine.__init__` in `src/model_council/engine.py`.
-/

import CouncilLogic.Approval

namespace CouncilLogic

/-- `AppConfig`, without its directory; `deadline` is `repr(policy.deadline_seconds)`. -/
structure AppConfig extends RunConfig where
  deadline : Str
  deriving DecidableEq

/-- `RunPolicy.to_dict()`. -/
def RunPolicy.toDict (p : RunPolicy) (deadline : Str) : Dict :=
  [(lit "proposal_quorum", .int p.proposalQuorum),
    (lit "jury_quorum", .int p.juryQuorum),
    (lit "min_lineages", .int p.minLineages),
    (lit "max_calls", .int p.maxCalls),
    (lit "max_parallel_calls", .int p.maxParallelCalls),
    (lit "deadline_seconds", .float deadline),
    (lit "allow_partial", .bool p.allowPartial),
    (lit "max_question_chars", .int p.maxQuestionChars),
    (lit "max_stage_prompt_chars", .int p.maxStagePromptChars),
    (lit "truncation_retries", .int p.truncationRetries),
    (lit "max_recovery_output_tokens", .int p.maxRecoveryOutputTokens),
    (lit "jury_repair_attempts", .int p.juryRepairAttempts)]

namespace Config

/-! ### Endpoints -/

/-- `s.replace("{model}", model)`, where the next characters belong to what has been replaced. -/
def renderFrom (model : Str) : ℕ → Str → Str
  | _, [] => []
  | skip + 1, _ :: s => renderFrom model skip s
  | 0, c :: s =>
    if lit "\x7bmodel\x7d" <+: c :: s then model ++ renderFrom model 6 s
    else c :: renderFrom model 0 s

/-- `s.replace("{model}", model)`. -/
def renderModel (model s : Str) : Str := renderFrom model 0 s

variable (rt : Runtime) (urlparse : Str → Except PyErr Url)

/-! ### Lineages -/

/-- `OPENROUTER_PREFIX_LINEAGES`. -/
def openrouterPrefixLineages : List (Str × Str) :=
  [(lit "openai", lit "openai-gpt"), (lit "anthropic", lit "anthropic-claude"),
    (lit "google", lit "google-gemini"), (lit "mistralai", lit "mistral"),
    (lit "x-ai", lit "xai-grok"), (lit "qwen", lit "alibaba-qwen"),
    (lit "cohere", lit "cohere-command"), (lit "upstage", lit "upstage-solar")]

/-- `DIRECT_PROVIDER_PREFIXES`. -/
def directProviderPrefixes : List (Str × Str) :=
  [(lit "openai", lit "openai"), (lit "anthropic", lit "anthropic"), (lit "gemini", lit "google"),
    (lit "mistral", lit "mistralai"), (lit "xai", lit "x-ai"), (lit "qwen", lit "qwen"),
    (lit "cohere", lit "cohere"), (lit "upstage", lit "upstage")]

/-- `_is_openrouter_endpoint`; a malformed endpoint makes `urlparse` raise. -/
def isOpenrouterEndpoint (endpoint : Str) : Except PyErr Bool := do
  let parsed ← urlparse (renderModel (lit "m") endpoint)
  let host := rt.lower (parsed.hostname.getD [])
  .ok (decide (host = lit "openrouter.ai") || (lit ".openrouter.ai").isSuffixOf host)

/-- `s[len(p):] if s.startswith(p) else s`. -/
def dropStart (p s : Str) : Str := if p.isPrefixOf s then s.drop p.length else s

/-- `model_identity`. -/
def modelIdentity (provider : ProviderConfig) : Except PyErr Str := do
  let model := rt.lower (Str.strip provider.model)
  let router ← isOpenrouterEndpoint rt urlparse provider.endpoint
  if router then .ok model
  else
    let vendor := (directProviderPrefixes.lookup provider.name).getD provider.name
    .ok (vendor ++ 47 :: dropStart (lit "models/") (dropStart (vendor ++ [47]) model))

/-- The provider makes no paid calls. -/
def isMock (provider : ProviderConfig) : Bool := (lit "mock").isPrefixOf provider.name

/-- The lineage that the model of an OpenRouter seat names. -/
def derivedLineage (provider : ProviderConfig) : Option Str :=
  let model := rt.lower (Str.strip provider.model)
  if 47 ∈ model then openrouterPrefixLineages.lookup (model.takeWhile fun c => decide (c ≠ 47))
  else none

/-- What is known of the seats so far. -/
structure Lineages where
  mismatches : List Str := []
  unverified : List Str := []
  /-- `seen`: the seats by their model identities. -/
  seen : List (Str × Str) := []
  duplicates : List Str := []
  /-- `lineages`, as a set. -/
  lineages : List Str := []

/-- A seat whose model identity is to be looked up among the seen ones. -/
def Lineages.see (l : Lineages) (provider : ProviderConfig) (identity : Str) : Lineages :=
  match l.seen.lookup identity with
  | some other =>
    { l with duplicates := l.duplicates ++
        [provider.name ++ lit " and " ++ other ++ lit " both use " ++ provider.model] }
  | none => { l with seen := l.seen ++ [(identity, provider.name)] }

/-- What is made of the model of a live seat, on OpenRouter or not, and the lineage that the seat
counts for. -/
def Lineages.judge (l : Lineages) (provider : ProviderConfig) (router : Bool) : Lineages × Str :=
  if router then
    match derivedLineage rt provider with
    | none => ({ l with unverified := l.unverified ++ [provider.name] }, provider.lineage)
    | some derived =>
      if derived = provider.lineage then (l, provider.lineage)
      else
        ({ l with mismatches := l.mismatches ++ [provider.name ++ lit ": model " ++
            provider.model ++ lit " is " ++ derived ++ lit ", not declared " ++
            provider.lineage] }, derived)
  else (l, provider.lineage)

/-- One seat of the report. -/
def Lineages.seat (l : Lineages) (provider : ProviderConfig) : Except PyErr Lineages :=
  if isMock provider then .ok { l with lineages := l.lineages ++ [provider.lineage] }
  else do
    let identity ← modelIdentity rt urlparse provider
    let router ← isOpenrouterEndpoint rt urlparse provider.endpoint
    let (judged, lineage) := l.judge rt provider router
    .ok { judged.see provider identity with lineages := judged.lineages ++ [lineage] }

/-- `lineage_report`, before it is made a dictionary. -/
def lineagesOf (providers : List ProviderConfig) : Except PyErr Lineages :=
  providers.foldlM (Lineages.seat rt urlparse) {}

/-- `lineage_count`. -/
def Lineages.count (l : Lineages) : ℕ := l.lineages.dedup.length

/-- `status` of the report. -/
def Lineages.status (l : Lineages) : Str :=
  if l.mismatches ≠ [] ∨ l.duplicates ≠ [] then lit "invalid"
  else if l.unverified ≠ [] then lit "unverified"
  else lit "verified"

/-- The report as a dictionary. -/
def Lineages.toDict (l : Lineages) : Dict :=
  [(lit "status", .str l.status),
    (lit "lineage_count", .int l.count),
    (lit "unverified_providers", .arr (l.unverified.map .str)),
    (lit "mismatches", .arr (l.mismatches.map .str)),
    (lit "duplicate_models", .arr (l.duplicates.map .str))]

/-- `lineage_report`. -/
def lineageReport (providers : List ProviderConfig) : Except PyErr Dict := do
  let l ← lineagesOf rt urlparse providers
  .ok l.toDict

/-! ### Policies and chains -/

/-- Raise a `ValueError` under a condition. -/
def refuse (c : Prop) [Decidable c] (message : Str) : Except PyErr Unit :=
  if c then .error (.valueError message) else .ok ()

/-- `validate_run_policy`. -/
def validateRunPolicy (policy : RunPolicy) (providers : List ProviderConfig)
    (synthesisProviderCount : ℕ) : Except PyErr Unit := do
  refuse (providers = []) (lit "At least one provider must be enabled")
  refuse (policy.proposalQuorum < 1) (lit "proposal_quorum must be positive")
  refuse (policy.juryQuorum < 1) (lit "jury_quorum must be positive")
  refuse (policy.minLineages < 1) (lit "min_lineages must be positive")
  refuse (policy.deadlineSeconds ≤ 0) (lit "deadline_seconds must be positive")
  refuse (policy.maxParallelCalls < 1) (lit "max_parallel_calls must be positive")
  refuse (policy.maxQuestionChars < 1) (lit "max_question_chars must be positive")
  refuse (policy.maxStagePromptChars < 1) (lit "max_stage_prompt_chars must be positive")
  refuse (¬ (0 ≤ policy.juryRepairAttempts ∧ policy.juryRepairAttempts ≤ 1))
    (lit "jury_repair_attempts must be 0 or 1")
  refuse (¬ (0 ≤ policy.truncationRetries ∧ policy.truncationRetries ≤ 1))
    (lit "truncation_retries must be 0 or 1")
  refuse (policy.maxRecoveryOutputTokens < 1) (lit "max_recovery_output_tokens must be positive")
  refuse ((providers.length : ℤ) < policy.proposalQuorum)
    (lit "Proposal quorum exceeds enabled provider count")
  refuse ((providers.length : ℤ) < policy.juryQuorum)
    (lit "Jury quorum exceeds enabled provider count")
  let diversity ← lineagesOf rt urlparse providers
  refuse (diversity.mismatches ≠ []) (lit "OpenRouter model does not match seat lineage: " ++
    Str.join (lit "; ") diversity.mismatches)
  refuse (diversity.duplicates ≠ []) (lit "Duplicate model identity across seats: " ++
    Str.join (lit "; ") diversity.duplicates)
  refuse ((diversity.count : ℤ) < policy.minLineages)
    (lit "Configured providers do not meet minimum lineage diversity")
  refuse (synthesisProviderCount < 1) (lit "At least one synthesis provider is required")
  refuse (policy.maxCalls < (providers.length : ℤ) * 2 + synthesisProviderCount)
    (lit ("Max calls is too small for proposals, juries, and configured " ++
      "synthesis attempts"))

/-- `validate_synthesis_providers`. -/
def validateSynthesisProviders (synthesisProvider : Str) (synthesisFallbacks : List Str)
    (providers : List ProviderConfig) : Except PyErr (List Str) := do
  let chain := synthesisProvider :: synthesisFallbacks
  refuse (chain.any Str.isBlank = true) (lit "Synthesis provider names must be non-empty strings")
  refuse (¬ chain.Nodup) (lit "Synthesis providers must not contain duplicates")
  let unavailable := chain.filter fun name => decide (name ∉ providers.map ProviderConfig.name)
  refuse (unavailable ≠ []) (lit "Configured synthesis providers are not enabled: " ++
    Str.join (lit ", ") unavailable)
  .ok chain

/-- The checks that every configuration goes through before a run is created from it. -/
def validate (config : AppConfig) : Except PyErr Unit := do
  let chain ← validateSynthesisProviders config.synthesisProvider config.synthesisFallbacks
    config.providers
  validateRunPolicy rt urlparse config.policy config.providers chain.length

/-! ### Engines -/

/-- What a deployment has: the secrets that its resolver finds, where it does not raise, and what
the constructor of a provider raises. -/
structure Deployment where
  resolve : Str → Except PyErr (Option Str)
  create : ProviderConfig → Str → Except PyErr Unit

/-- `provider.secret_name`. -/
def secretName (provider : ProviderConfig) : Str :=
  match Dict.get? provider.settings (lit "secret_name") with
  | some (.str name) => name
  | _ => []

/-- The key that a provider is built with; an empty one is missing. -/
def keyOf (d : Deployment) (provider : ProviderConfig) : Except PyErr Str :=
  if isMock provider then .ok (lit "mock-only-sentinel")
  else do
    let key ← d.resolve (secretName provider)
    .ok (key.getD [])

/-- `built[name] = provider`. -/
def put (built : List ProviderConfig) (provider : ProviderConfig) : List ProviderConfig :=
  if built.any fun p => decide (p.name = provider.name) then
    built.map fun p => if p.name = provider.name then provider else p
  else built ++ [provider]

/-- The loop of `_providers`: what is built, and what is missing. -/
def buildProviders (d : Deployment) :
    List ProviderConfig → List ProviderConfig × List Str →
      Except PyErr (List ProviderConfig × List Str)
  | [], state => .ok state
  | provider :: rest, (built, missing) =>
    match keyOf d provider with
    | .error e => .error e
    | .ok [] =>
      buildProviders d rest (built, missing ++
        [provider.name ++ lit " (" ++ secretName provider ++ lit ")"])
    | .ok (c :: key) =>
      match d.create provider (c :: key) with
      | .error e => .error e
      | .ok () => buildProviders d rest (put built provider, missing)

/-- `_providers`: the providers of an engine, in the order of its dictionary. -/
def providersOf (d : Deployment) (providers : List ProviderConfig) :
    Except PyErr (List ProviderConfig) := do
  let (built, missing) ← buildProviders d providers ([], [])
  if missing ≠ [] then
    .error (.runtimeError (lit "Missing provider credentials: " ++ Str.join (lit ", ") missing ++
      lit (". Use process environment variables or " ++
        "MODEL_COUNCIL_SECRET_COMMAND; .env files are intentionally unsupported.")))
  else .ok built

/-- `CouncilEngine.__init__`. -/
def engineInit (config : RunConfig) : Except PyErr Unit := do
  refuse (config.providers = []) (lit "At least one provider is required")
  refuse (¬ config.synthesisProviders.Nodup)
    (lit "Synthesis providers must not contain duplicates")
  let unavailable := config.synthesisProviders.filter fun name => decide (name ∉ config.names)
  refuse (unavailable ≠ []) (lit "Synthesis providers are not available: " ++
    Str.join (lit ", ") unavailable)
  refuse (config.policy.maxCalls <
      (config.providers.length : ℤ) * 2 + config.synthesisProviders.length)
    (lit ("Max calls is too small for proposals, juries, and configured " ++
      "synthesis attempts"))

/-- `_engine`: the configuration of the engine that is built. -/
def engineOf (d : Deployment) (config : AppConfig) : Except PyErr AppConfig := do
  let providers ← providersOf d config.providers
  let built := { config with providers := providers }
  engineInit built.toRunConfig
  .ok built

/-! ### The mock deployment -/

/-- A seat of `mock_config`. -/
def mockProvider (index : ℕ) : ProviderConfig where
  name := lit "mock-" ++ Str.ofNat index
  model := lit "mock-model-" ++ Str.ofNat index
  lineage := lit "mock-lineage-" ++ Str.ofNat index
  endpoint := lit "http://localhost/mock"
  settings := [(lit "secret_name", .str (lit "MOCK_KEY_" ++ Str.ofNat index)),
    (lit "timeout_seconds", .float (lit "90.0")), (lit "max_attempts", .int 1),
    (lit "enabled", .bool true), (lit "stage_timeout_seconds", .obj []),
    (lit "extra", .obj [(lit "seed", .int index)])]

/-- `mock_config`, before it is validated. -/
def mockConfig : AppConfig where
  providers := [1, 2, 3, 4].map mockProvider
  policy := {}
  synthesisProvider := lit "mock-1"
  synthesisFallbacks := []
  deadline := lit "900.0"

end Config
end CouncilLogic
