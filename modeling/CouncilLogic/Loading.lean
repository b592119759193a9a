/-
# Loaded configurations

`load_config`, with or without a file, and `mock_config`.  The environment is a parameter; the
sections of a file are taken with values of the kinds they are documented with.

The functions are `load_config` and `mock_config` of `src/model_council/config.py`, with the
defaults that the file has for a section or a field that is missing.  A relative data directory is
taken as it stands.
-/

import CouncilLogic.Selection

namespace CouncilLogic
namespace Config

/-! ### Defaults -/

/-- `DEFAULT_LIVE_PROVIDER_NAMES`. -/
def defaultLiveProviderNames : List Str :=
  [lit "openai", lit "anthropic", lit "gemini", lit "mistral", lit "xai", lit "qwen",
    lit "cohere"]

/-- `KNOWN_PROVIDER_NAMES`. -/
def knownProviderNames : List Str := defaultLiveProviderNames ++ [lit "upstage"]

/-- `_PROVIDERS_ADDED_AFTER_V0_2`. -/
def providersAddedAfterV02 : List Str :=
  [lit "xai", lit "qwen", lit "cohere", lit "upstage"]

/-- `DEFAULT_ENDPOINTS`. -/
def defaultEndpoints : List (Str × Str) :=
  [(lit "openai", lit "https://api.openai.com/v1/responses"),
    (lit "anthropic", lit "https://api.anthropic.com/v1/messages"),
    (lit "gemini", lit ("https://generativelanguage.googleapis.com/" ++
      "v1beta/models/\x7bmodel\x7d:generateContent")),
    (lit "mistral", lit "https://api.mistral.ai/v1/chat/completions"),
    (lit "xai", lit "https://api.x.ai/v1/responses"),
    (lit "qwen", lit ("https://dashscope-intl.aliyuncs.com/" ++
      "compatible-mode/v1/chat/completions")),
    (lit "cohere", lit "https://api.cohere.ai/v2/chat"),
    (lit "upstage", lit "https://api.upstage.ai/v1/chat/completions")]

/-- `DEFAULT_MODELS`. -/
def defaultModels : List (Str × Str) :=
  [(lit "openai", lit "gpt-5.6-sol"), (lit "anthropic", lit "claude-sonnet-4-6"),
    (lit "gemini", lit "gemini-3.6-flash"), (lit "mistral", lit "mistral-medium-3-5"),
    (lit "xai", lit "grok-4.5"), (lit "qwen", lit "qwen3.7-max"),
    (lit "cohere", lit "command-a-plus-05-2026"), (lit "upstage", lit "solar-pro3-260323")]

/-- `DEFAULT_SECRETS`. -/
def defaultSecrets : List (Str × Str) :=
  [(lit "openai", lit "OPENAI_API_KEY"), (lit "anthropic", lit "ANTHROPIC_API_KEY"),
    (lit "gemini", lit "GEMINI_API_KEY"), (lit "mistral", lit "MISTRAL_API_KEY"),
    (lit "xai", lit "XAI_API_KEY"), (lit "qwen", lit "DASHSCOPE_API_KEY"),
    (lit "cohere", lit "COHERE_API_KEY"), (lit "upstage", lit "UPSTAGE_API_KEY")]

/-- `DEFAULT_LINEAGES`. -/
def defaultLineages : List (Str × Str) :=
  [(lit "openai", lit "openai-gpt"), (lit "anthropic", lit "anthropic-claude"),
    (lit "gemini", lit "google-gemini"), (lit "mistral", lit "mistral"),
    (lit "xai", lit "xai-grok"), (lit "qwen", lit "alibaba-qwen"),
    (lit "cohere", lit "cohere-command"), (lit "upstage", lit "upstage-solar")]

/-- `DEFAULT_OPENROUTER_MODELS`. -/
def defaultOpenrouterModels : List (Str × Str) :=
  [(lit "openai", lit "openai/gpt-5.6-sol"), (lit "anthropic", lit "anthropic/claude-sonnet-5.5"),
    (lit "gemini", lit "google/gemini-3.8-flash"),
    (lit "mistral", lit "mistralai/mistral-medium-3-5"), (lit "xai", lit "x-ai/grok-4.7"),
    (lit "qwen", lit "qwen/qwen3.8-max-0902"), (lit "cohere", lit "cohere/command-a-plus"),
    (lit "upstage", lit "upstage/solar-pro4")]

/-- `DEFAULT_OPENROUTER_EXTRA`. -/
def defaultOpenrouterExtra : List (Str × Dict) :=
  [(lit "cohere", [(lit "reasoning", .obj [(lit "max_tokens", .int 800)])]),
    (lit "qwen", [(lit "reasoning", .obj [(lit "max_tokens", .int 800)])]),
    (lit "xai", [(lit "reasoning", .obj [(lit "effort", .str (lit "low"))])]),
    (lit "gemini", [(lit "reasoning", .obj [(lit "effort", .str (lit "low"))])])]

/-- `OPENROUTER_ENDPOINT`. -/
def openrouterEndpoint : Str := lit "https://openrouter.ai/api/v1/chat/completions"

/-- `OPENROUTER_SECRET`. -/
def openrouterSecret : Str := lit "OPENROUTER_API_KEY"

/-- `name.upper()` of a known name. -/
def upper (name : Str) : Str := name.map fun c => if 97 ≤ c ∧ c ≤ 122 then c - 32 else c

/-- `a or b`. -/
def orElse (a : Option Str) (b : Str) : Str :=
  match a with
  | none | some [] => b
  | some s => s

/-- `DEFAULT_STAGE_MAX_OUTPUT_TOKENS`, and what Gemini has in its place. -/
def defaultStageTokens (name : Str) : List (Str × ℤ) :=
  if name = lit "gemini" then
    [(lit "proposal", 4096), (lit "jury", 4096), (lit "synthesis", 4096)]
  else [(lit "proposal", 3200), (lit "jury", 2200), (lit "synthesis", 3200)]

/-- `DEFAULT_STAGE_TIMEOUT_SECONDS`, and what Qwen has in its place. -/
def defaultStageTimeouts (name : Str) : List (Str × Str) :=
  if name = lit "qwen" then
    [(lit "proposal", lit "300.0"), (lit "jury", lit "300.0"), (lit "synthesis", lit "360.0")]
  else [(lit "proposal", lit "150.0"), (lit "jury", lit "120.0"), (lit "synthesis", lit "180.0")]

/-- What is passed on to a provider by default. -/
def defaultExtra (name : Str) : Dict :=
  if name = lit "gemini" then [(lit "thinking_level", .str (lit "low"))]
  else if name = lit "qwen" then [(lit "enable_thinking", .bool false)]
  else if name = lit "cohere" then
    [(lit "thinking", .obj [(lit "token_budget", .int 800)]), (lit "temperature", .int 0)]
  else if name = lit "upstage" then [(lit "reasoning_effort", .str (lit "low"))]
  else []

/-- `_default_provider` of a known name. -/
def defaultProvider (environ : Str → Option Str) (name : Str) : Seat where
  name := name
  model := orElse (environ (lit "MODEL_COUNCIL_" ++ upper name ++ lit "_MODEL"))
    ((defaultModels.lookup name).getD [])
  lineage := (defaultLineages.lookup name).getD []
  secretName := (defaultSecrets.lookup name).getD []
  endpoint := (defaultEndpoints.lookup name).getD []
  stageMaxOutputTokens := defaultStageTokens name
  stageTimeoutSeconds := defaultStageTimeouts name
  extra := defaultExtra name

/-! ### Routes -/

/-- The keys that are passed on to OpenRouter. -/
def portableKeys : List Str := [lit "temperature", lit "reasoning", lit "provider"]

/-- `route_via_openrouter`. -/
def routeViaOpenrouter (environ : Str → Option Str) (s : Seat) (model : Option Str) : Seat :=
  if s.isMock then s
  else
    let fallback := orElse (defaultOpenrouterModels.lookup s.name) s.model
    let fromEnv := orElse
      (environ (lit "MODEL_COUNCIL_" ++ upper s.name ++ lit "_OPENROUTER_MODEL")) fallback
    { s with
      model := orElse model fromEnv
      secretName := openrouterSecret
      endpoint := openrouterEndpoint
      extra := Dict.update ((defaultOpenrouterExtra.lookup s.name).getD [])
        (s.extra.filter fun f => decide (f.1 ∈ portableKeys)) }

/-- `ROUTES`. -/
def routes : List Str := [lit "direct", lit "openrouter"]

variable (lib : Libraries) (environ : Str → Option Str)

/-- `route.strip().lower()`, which must be a route. -/
def readRoute (route message : Str) : Except PyErr Str := do
  let route := lib.lower (Str.strip route)
  refuse (route ∉ routes) message
  .ok route

/-- `default_route`. -/
def defaultRoute : Except PyErr Str :=
  readRoute lib ((environ (lit "MODEL_COUNCIL_ROUTE")).getD (lit "direct"))
    (lit "MODEL_COUNCIL_ROUTE must be 'direct' or 'openrouter'")

/-- `default_config`. -/
def defaultConfig : Except PyErr FullConfig := do
  let route ← defaultRoute lib environ
  let seats := defaultLiveProviderNames.map (defaultProvider environ)
  .ok
    { seats := if route = lit "openrouter" then
        seats.map fun s => routeViaOpenrouter environ s none
      else seats
      policy := { maxCalls := 20, juryRepairAttempts := 1 }
      deadline := lit "900.0"
      synthesisProvider := lit "openai"
      synthesisFallbacks := [lit "anthropic", lit "gemini"] }

/-! ### Files -/

/-- A section `[providers.NAME]` of a file. -/
structure SeatSection where
  model : Option Str := none
  lineage : Option Str := none
  secretName : Option Str := none
  endpoint : Option Str := none
  maxOutputTokens : Option ℤ := none
  timeoutSeconds : Option Str := none
  maxAttempts : Option ℤ := none
  enabled : Option Bool := none
  stageMaxOutputTokens : Option (List (Str × ℤ)) := none
  stageTimeoutSeconds : Option (List (Str × Str)) := none
  extra : Dict := []
  route : Option Str := none
  openrouterModel : Option Str := none
  openrouterSecretName : Option Str := none
  openrouterExtra : Dict := []

/-- A configuration file. -/
structure RawConfig where
  route : Option Str := none
  synthesisProvider : Option Str := none
  synthesisFallbacks : List Str := []
  policy : Overrides := {}
  allowPartial : Option Bool := none
  providers : List (Str × SeatSection) := []

/-- The default seat with the values of its section. -/
def overrideSeat (default : Seat) (o : SeatSection) : Seat where
  name := default.name
  model := o.model.getD default.model
  lineage := o.lineage.getD default.lineage
  secretName := o.secretName.getD default.secretName
  endpoint := o.endpoint.getD default.endpoint
  maxOutputTokens := o.maxOutputTokens.getD default.maxOutputTokens
  timeoutSeconds := o.timeoutSeconds.getD default.timeoutSeconds
  maxAttempts := o.maxAttempts.getD default.maxAttempts
  enabled := o.enabled.getD default.enabled
  stageMaxOutputTokens := o.stageMaxOutputTokens.getD default.stageMaxOutputTokens
  stageTimeoutSeconds := o.stageTimeoutSeconds.getD default.stageTimeoutSeconds
  extra := Dict.update default.extra o.extra

/-- A seat of a file, sent over its route. -/
def routeSeat (s : Seat) (o : SeatSection) (route : Str) : Seat :=
  if route = lit "openrouter" then
    let routed := routeViaOpenrouter environ s o.openrouterModel
    { routed with
      secretName := o.openrouterSecretName.getD openrouterSecret
      extra := Dict.update routed.extra o.openrouterExtra }
  else s

/-- One turn of the loop over the known providers: the seat, unless the file leaves it out. -/
def fileSeat (raw : RawConfig) (runRoute name : Str) : Except PyErr (Option Seat) :=
  let written := raw.providers.lookup name
  if name ∈ providersAddedAfterV02 ∧ written = none then .ok none
  else do
    let o := written.getD {}
    let route ← readRoute lib (o.route.getD runRoute)
      (name ++ lit ": route must be 'direct' or 'openrouter'")
    let seat := routeSeat environ (overrideSeat (defaultProvider environ name) o) o route
    if seat.enabled then
      validateProviderConfig lib.urlparse seat
      .ok (some seat)
    else .ok none

/-- The seats of a file. -/
def fileSeats (raw : RawConfig) (runRoute : Str) : List Str → Except PyErr (List Seat)
  | [] => .ok []
  | name :: names => do
    let seat ← fileSeat lib environ raw runRoute name
    let seats ← fileSeats raw runRoute names
    .ok (seat.toList ++ seats)

/-- `load_config` of a file. -/
def loadFile (base : FullConfig) (raw : RawConfig) : Except PyErr FullConfig := do
  let runRoute ← readRoute lib
    (raw.route.getD ((environ (lit "MODEL_COUNCIL_ROUTE")).getD (lit "direct")))
    (lit "run.route must be 'direct' or 'openrouter'")
  let seats ← fileSeats lib environ raw runRoute knownProviderNames
  let loaded : FullConfig :=
    { seats := seats
      policy := { raw.policy.policy {} with allowPartial := raw.allowPartial.getD true }
      deadline := raw.policy.deadlineSeconds.getD (lit "900.0")
      synthesisProvider := raw.synthesisProvider.getD base.synthesisProvider
      synthesisFallbacks := raw.synthesisFallbacks }
  loaded.validate lib
  .ok loaded

/-- `load_config`; there is no file without a path. -/
def loadConfig (raw : Option RawConfig) : Except PyErr FullConfig := do
  let base ← defaultConfig lib environ
  match raw with
  | some raw => loadFile lib environ base raw
  | none => do
    checkEach (validateProviderConfig lib.urlparse) base.seats
    base.validate lib
    .ok base

/-! ### The mock deployment -/

/-- A seat of `mock_config`. -/
def mockSeat (index : ℕ) : Seat where
  name := lit "mock-" ++ Str.ofNat index
  model := lit "mock-model-" ++ Str.ofNat index
  lineage := lit "mock-lineage-" ++ Str.ofNat index
  secretName := lit "MOCK_KEY_" ++ Str.ofNat index
  endpoint := lit "http://localhost/mock"
  maxAttempts := 1
  extra := [(lit "seed", .int index)]

/-- `mock_config`. -/
def mockFull : Except PyErr FullConfig := do
  let config : FullConfig :=
    { seats := [1, 2, 3, 4].map mockSeat
      policy := {}
      deadline := lit "900.0"
      synthesisProvider := lit "mock-1"
      synthesisFallbacks := [] }
  checkEach (validateProviderConfig lib.urlparse) config.seats
  config.validate lib
  .ok config

/-- `config_for`: the configuration of a deployment. -/
def configFor (mock : Bool) (raw : Option RawConfig) : Except PyErr FullConfig :=
  if mock then mockFull lib else loadConfig lib environ raw

end Config
end CouncilLogic
