/-
# Seats: the full configuration of a provider

`ProviderConfig` with the fields that only its adapter and the run lock read: its credential's
name, its timeouts and attempts, and what is passed on to the provider.  A timeout is carried as
the `repr` of the float, and compared by the number that it writes.

The class is `ProviderConfig` of `src/model_council/models.py`, and its checks are
`validate_provider_config` of `src/model_council/config.py`.
-/

import CouncilLogic.Config
import CouncilLogic.Lib.Decimal
import CouncilLogic.Protocol.Decode

namespace CouncilLogic
namespace Config

open Decode (isDigit digitsValue)

/-! ### Seconds -/

/-- The exponent that the `repr` of a float ends with. -/
def exponentOf : Str → Option ℤ
  | [] => some 0
  | 101 :: 43 :: s => if s ≠ [] ∧ s.all isDigit then some (digitsValue s) else none
  | 101 :: 45 :: s => if s ≠ [] ∧ s.all isDigit then some (-digitsValue s) else none
  | _ :: _ => none

/-- The number that the `repr` of a float writes, when it is finite and has no sign. -/
def secondsValue (t : Str) : Option Decimal :=
  let whole := t.takeWhile isDigit
  let rest := t.dropWhile isDigit
  let fraction := if rest.head? = some 46 then rest.tail.takeWhile isDigit else []
  let rest := if rest.head? = some 46 then rest.tail.dropWhile isDigit else rest
  if whole = [] then none
  else (exponentOf rest).map fun e => ⟨digitsValue (whole ++ fraction), e - fraction.length⟩

/-- `math.isfinite(seconds) and seconds > 0`. -/
def isPositive (t : Str) : Bool := (secondsValue t).any fun d => decide (d.coefficient ≠ 0)

/-- `min(value, seconds)` for a positive number of seconds. -/
def minSeconds (value seconds : Str) : Str :=
  match secondsValue value, secondsValue seconds with
  | some x, some y => if Decimal.lt y x then seconds else value
  | _, _ => if value = lit "inf" then seconds else value

/-! ### Seats -/

/-- `ProviderConfig`. -/
structure Seat where
  name : Str
  model : Str
  lineage : Str
  secretName : Str
  endpoint : Str
  maxOutputTokens : ℤ := 1800
  timeoutSeconds : Str := lit "90.0"
  maxAttempts : ℤ := 3
  enabled : Bool := true
  stageMaxOutputTokens : List (Str × ℤ) := []
  stageTimeoutSeconds : List (Str × Str) := []
  extra : Dict := []
  deriving DecidableEq

/-- What the engine reads of a seat, and the rest of its dictionary. -/
def Seat.config (s : Seat) : ProviderConfig where
  name := s.name
  model := s.model
  lineage := s.lineage
  endpoint := s.endpoint
  maxOutputTokens := s.maxOutputTokens
  stageMaxOutputTokens := s.stageMaxOutputTokens
  settings := [(lit "secret_name", .str s.secretName),
    (lit "timeout_seconds", .float s.timeoutSeconds),
    (lit "max_attempts", .int s.maxAttempts),
    (lit "enabled", .bool s.enabled),
    (lit "stage_timeout_seconds", .obj (s.stageTimeoutSeconds.map fun e => (e.1, .float e.2))),
    (lit "extra", .obj s.extra)]

/-! ### Reading seats -/

/-- The error for a value of another kind than `to_dict` writes. -/
def unreadable {α : Type} : Except PyErr α :=
  .error (.typeError (lit "the stored configuration has a value of another type"))

/-- `str(value)`. -/
def asStr : Json → Except PyErr Str
  | .str s => .ok s
  | _ => unreadable

/-- `int(value)`. -/
def asInt : Json → Except PyErr ℤ
  | .int n => .ok n
  | _ => unreadable

/-- `float(value)`. -/
def asFloat : Json → Except PyErr Str
  | .float t => .ok t
  | _ => unreadable

/-- `bool(value)`. -/
def asBool : Json → Except PyErr Bool
  | .bool b => .ok b
  | _ => unreadable

/-- `dict(value)`. -/
def asDict : Json → Except PyErr Dict
  | .obj d => .ok d
  | _ => unreadable

/-- `convert(value[key])`. -/
def required {α : Type} (convert : Json → Except PyErr α) (value : Dict) (key : Str) :
    Except PyErr α :=
  match value.get? key with
  | none => .error ⟨.keyError, lit "'" ++ key ++ lit "'"⟩
  | some j => convert j

/-- `convert(value.get(key, default))`. -/
def optional {α : Type} (convert : Json → Except PyErr α) (value : Dict) (key : Str)
    (default : α) : Except PyErr α :=
  match value.get? key with
  | none => .ok default
  | some j => convert j

/-- `{str(stage): convert(limit) for stage, limit in fields.items()}`. -/
def stageValues {α : Type} (convert : Json → Except PyErr α) :
    Dict → Except PyErr (List (Str × α))
  | [] => .ok []
  | (stage, j) :: fields => do
    let limit ← convert j
    let limits ← stageValues convert fields
    .ok ((stage, limit) :: limits)

/-- `ProviderConfig.from_dict`. -/
def Seat.fromDict (value : Dict) : Except PyErr Seat := do
  let name ← required asStr value (lit "name")
  let model ← required asStr value (lit "model")
  let lineage ← required asStr value (lit "lineage")
  let secretName ← required asStr value (lit "secret_name")
  let endpoint ← required asStr value (lit "endpoint")
  let maxOutputTokens ← optional asInt value (lit "max_output_tokens") 1800
  let timeoutSeconds ← optional asFloat value (lit "timeout_seconds") (lit "90.0")
  let maxAttempts ← optional asInt value (lit "max_attempts") 3
  let enabled ← optional asBool value (lit "enabled") true
  let maxTokens ← optional asDict value (lit "stage_max_output_tokens") []
  let stageMaxOutputTokens ← stageValues asInt maxTokens
  let timeouts ← optional asDict value (lit "stage_timeout_seconds") []
  let stageTimeoutSeconds ← stageValues asFloat timeouts
  let extra ← optional asDict value (lit "extra") []
  .ok
    { name := name
      model := model
      lineage := lineage
      secretName := secretName
      endpoint := endpoint
      maxOutputTokens := maxOutputTokens
      timeoutSeconds := timeoutSeconds
      maxAttempts := maxAttempts
      enabled := enabled
      stageMaxOutputTokens := stageMaxOutputTokens
      stageTimeoutSeconds := stageTimeoutSeconds
      extra := extra }

/-! ### Checking seats -/

/-- `COUNCIL_STAGES`. -/
def councilStages : List Str := [lit "proposal", lit "jury", lit "synthesis"]

/-- `ALLOWED_ENDPOINT_HOSTS`. -/
def allowedEndpointHosts : List (Str × List Str) :=
  [(lit "openai", [lit "api.openai.com", lit "openrouter.ai"]),
    (lit "anthropic", [lit "api.anthropic.com", lit "openrouter.ai"]),
    (lit "gemini", [lit "generativelanguage.googleapis.com", lit "openrouter.ai"]),
    (lit "mistral", [lit "api.mistral.ai", lit "openrouter.ai"]),
    (lit "xai", [lit "api.x.ai", lit "openrouter.ai"]),
    (lit "qwen", [lit "dashscope-intl.aliyuncs.com", lit "dashscope-us.aliyuncs.com",
      lit "dashscope.aliyuncs.com", lit "cn-hongkong.dashscope.aliyuncs.com",
      lit "openrouter.ai"]),
    (lit "cohere", [lit "api.cohere.ai", lit "openrouter.ai"]),
    (lit "upstage", [lit "api.upstage.ai", lit "openrouter.ai"]),
    (lit "mock", [lit "localhost", lit "127.0.0.1"])]

/-- `repr` of a host. -/
def hostRepr : Option Str → Str
  | none => lit "None"
  | some host => lit "'" ++ host ++ lit "'"

/-- The name begins with `mock`. -/
def Seat.isMock (s : Seat) : Bool := (lit "mock").isPrefixOf s.name

/-- `_validate_endpoint`. -/
def validateEndpoint (urlparse : Str → Except PyErr Url) (s : Seat) : Except PyErr Unit := do
  let parsed ← urlparse (renderModel s.model s.endpoint)
  let kind := if s.isMock then lit "mock" else s.name
  refuse (parsed.scheme ≠ lit "https" ∧ kind ≠ lit "mock")
    (s.name ++ lit ": provider endpoint must use HTTPS")
  let allowed := (allowedEndpointHosts.lookup kind).getD []
  refuse (¬ parsed.hostname.any fun host => decide (host ∈ allowed))
    (s.name ++ lit ": endpoint host " ++ hostRepr parsed.hostname ++ lit " is not allowlisted")
  let port ← parsed.port
  refuse (port ≠ none ∧ port ≠ some 443 ∧ kind ≠ lit "mock")
    (s.name ++ lit ": endpoint port must be 443")
  refuse (parsed.credentials = true) (s.name ++ lit ": endpoint must not contain credentials")

/-- `[A-Za-z_]`. -/
def isNameStart (c : ℕ) : Bool :=
  (65 ≤ c && c ≤ 90) || (97 ≤ c && c ≤ 122) || c == 95

/-- `_SECRET_NAME_RE.fullmatch`. -/
def isSecretName : Str → Bool
  | [] => false
  | c :: s => isNameStart c && s.all fun d => isNameStart d || isDigit d

/-- The text fields, with their names. -/
def Seat.texts (s : Seat) : List (Str × Str) :=
  [(lit "name", s.name), (lit "model", s.model), (lit "lineage", s.lineage),
    (lit "secret_name", s.secretName), (lit "endpoint", s.endpoint)]

/-- A loop of checks. -/
def checkEach {α : Type} (check : α → Except PyErr Unit) : List α → Except PyErr Unit
  | [] => .ok ()
  | a :: rest => do
    check a
    checkEach check rest

/-- The limits of one kind: no stage is unknown, and each limit is positive. -/
def validateStages {α : Type} (s : Seat) (field : Str) (positive : α → Bool)
    (values : List (Str × α)) : Except PyErr Unit := do
  let unknown := ((values.map Prod.fst).filter fun stage => decide (stage ∉ councilStages)).dedup
  refuse (unknown ≠ []) (s.name ++ lit ": " ++ field ++ lit " has unknown stages: " ++
    Str.join (lit ", ") (Str.sorted unknown))
  checkEach (fun e : Str × α => refuse (positive e.2 = false)
    (s.name ++ lit ": " ++ field ++ 46 :: e.1 ++ lit " must be positive")) values

/-- `validate_provider_config`. -/
def validateProviderConfig (urlparse : Str → Except PyErr Url) (s : Seat) :
    Except PyErr Unit := do
  checkEach (fun f : Str × Str => refuse (Str.isBlank f.2 = true)
    ((if s.name = [] then lit "provider" else s.name) ++ lit ": " ++ f.1 ++
      lit " must be non-empty")) s.texts
  refuse (isSecretName s.secretName = false)
    (s.name ++ lit ": secret_name must be an environment-style identifier")
  refuse (s.maxOutputTokens < 1) (s.name ++ lit ": max_output_tokens must be positive")
  refuse (isPositive s.timeoutSeconds = false)
    (s.name ++ lit ": timeout_seconds must be positive")
  refuse (¬ (1 ≤ s.maxAttempts ∧ s.maxAttempts ≤ 10))
    (s.name ++ lit ": max_attempts must be between 1 and 10")
  validateStages s (lit "stage_max_output_tokens") (fun n : ℤ => decide (0 < n))
    s.stageMaxOutputTokens
  validateStages s (lit "stage_timeout_seconds") isPositive s.stageTimeoutSeconds
  validateEndpoint urlparse s

/-- `apply_call_timeout`. -/
def applyCallTimeout (seconds : Str) (s : Seat) : Except PyErr Seat := do
  refuse (isPositive seconds = false) (lit "call_timeout_seconds must be a positive number")
  .ok { s with
    timeoutSeconds := minSeconds s.timeoutSeconds seconds
    stageTimeoutSeconds := s.stageTimeoutSeconds.map fun e => (e.1, minSeconds e.2 seconds) }

end Config
end CouncilLogic
