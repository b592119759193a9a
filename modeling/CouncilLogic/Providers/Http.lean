/-
# The HTTP client of the providers

`JsonHttpClient.post_json` of `providers/http.py`: it sends one request, and again after an
explicit failure that is worth retrying.  What the transport does, what the clocks say and what
the random source draws at each attempt is a script, and the result is how many requests were
sent and how the call ended.

Floats are values of a type with the operations that the client uses; nothing is assumed of
them.  An operation that raises in Python is checked where it is used.

The file is `src/model_council/providers/http.py`.  A response is bounded in size and may fail to
be JSON; whether a failure is marked as ambiguous decides whether the engine may ask again.
-/

import CouncilLogic.Json.Loads
import CouncilLogic.Models

namespace CouncilLogic
namespace Http

/-! ### The libraries -/

/-- The arithmetic of `float`. -/
structure Floats (F : Type) where
  zero : F
  one : F
  thousand : F
  sub : F → F → F
  mul : F → F → F
  lt : F → F → Bool
  le : F → F → Bool
  isFinite : F → Bool
  /-- `float(2 ** n)`, for `n < 1024`. -/
  pow2 : ℕ → F
  /-- `int(round(x))`, for a finite `x`. -/
  round : F → ℤ
  /-- `float(text)`, `none` for `ValueError`. -/
  ofText : Str → Option F

namespace Floats

variable {F : Type} (fl : Floats F)

/-- `min(a, b)`. -/
def min (a b : F) : F := if fl.lt b a then b else a

/-- `max(a, b)`. -/
def max (a b : F) : F := if fl.lt a b then b else a

end Floats

/-- What `parsedate_to_datetime` makes of a header: whether it has a time zone, and its
timestamps as it stands and as a time in UTC. -/
structure MailDate (F : Type) where
  aware : Bool
  timestamp : F
  utcTimestamp : F

/-- What encoding a payload raises: a `TypeError` or `ValueError` of some class, or another
exception. -/
inductive EncodeErr
  | caught (typeName : Str)
  | other (e : PyErr)

/-- The libraries around the client. -/
structure Library (F : Type) extends Floats F where
  urlparse : Str → Except PyErr Url
  /-- `none` for the exceptions that the client catches. -/
  parsedate : Str → Option (MailDate F)
  /-- `json.dumps(payload, …).encode("utf-8")`. -/
  encodeJson : Dict → Except EncodeErr (List UInt8)

/-! ### Requests and responses -/

/-- `HttpResponse`. -/
structure HttpResponse where
  statusCode : ℤ
  headers : List (Str × Str)
  body : List UInt8

/-- `JsonResponse`. -/
structure JsonResponse where
  data : Dict
  statusCode : ℤ
  headers : List (Str × Str)
  requestId : Option Str
  clientRequestId : Str
  attempts : ℕ

/-- An exception of the transport. -/
inductive TransportError
  /-- `socket.timeout` or `TimeoutError`. -/
  | timeout
  /-- `URLError`, whose reason may be a timeout. -/
  | urlError (timedOut : Bool)
  /-- Another `OSError`. -/
  | osError
  | providerError (e : ProviderError)
  /-- Another `Exception`. -/
  | other (typeName : Str)

/-- What the transport does. -/
inductive TransportResult
  | response (r : HttpResponse)
  /-- It returns something else. -/
  | invalid
  | raised (e : TransportError)

/-- What happens around one attempt. -/
structure Attempt (F : Type) where
  transport : TransportResult
  /-- The monotonic clock before the request. -/
  startedAt : F
  /-- The monotonic clock in the handler of an exception. -/
  endedAt : F
  /-- The clock that a date of `Retry-After` is compared with. -/
  wallTime : F
  randomValue : F

/-- The client, as its constructor leaves it. -/
structure JsonHttpClient (F : Type) where
  backoffBaseSeconds : F
  backoffCapSeconds : F
  maxRetryAfterSeconds : F
  maxResponseBytes : ℕ
  response_pos : 1 ≤ maxResponseBytes

/-- The arguments of `post_json`, with the identifier that it draws. -/
structure PostRequest (F : Type) where
  url : Str
  payload : Dict
  timeoutSeconds : F
  maxAttempts : ℤ
  clientRequestId : Str

/-- What `post_json` raises. -/
inductive PostError
  | provider (e : ProviderError)
  | other (e : PyErr)

/-! ### Reading a response -/

variable (rt : Runtime)

/-- `SAFE_PROVIDER_ERROR_CODES`. -/
def safeProviderErrorCodes : List Str :=
  [lit "api_error", lit "authentication_error", lit "billing_error",
    lit "context_length_exceeded", lit "content_policy_violation", lit "deadline_exceeded",
    lit "gateway_timeout", lit "insufficient_quota", lit "internal", lit "invalid_api_key",
    lit "invalid_argument", lit "invalid_request_error", lit "missing_required_parameter",
    lit "model_not_found", lit "not_found", lit "not_found_error", lit "overloaded_error",
    lit "permission_denied", lit "permission_error", lit "rate_limit_error",
    lit "rate_limit_exceeded", lit "request_too_large", lit "resource_exhausted",
    lit "unauthenticated", lit "unavailable", lit "unsupported_parameter"]

/-- `safe_provider_error_code`. -/
def safeProviderErrorCode : Json → Option Str
  | .str value =>
    let normalized := rt.casefold (Str.strip value)
    if normalized = [] ∨ 64 < normalized.length ∨ normalized ∉ safeProviderErrorCodes then none
    else some normalized
  | _ => none

/-- `header_value`. -/
def headerValue (headers : List (Str × Str)) (name : Str) : Option Str :=
  (headers.find? fun h => decide (rt.casefold h.1 = rt.casefold name)).map Prod.snd

/-- The headers that may name a request. -/
def requestIdHeaders : List Str :=
  [lit "mistral-correlation-id", lit "x-kong-request-id", lit "request-id", lit "x-request-id",
    lit "x-goog-request-id", lit "x-cloud-trace-context"]

/-- `response_request_id`. -/
def responseRequestId (headers : List (Str × Str)) : Option Str :=
  ((requestIdHeaders.filterMap (headerValue rt headers)).find? fun value => decide (value ≠ [])).map
    fun value => value.take 256

/-- `response_provider_error_code`. -/
def responseProviderErrorCode (body : List UInt8) : Option Str :=
  if body = [] ∨ 64 * 1024 < body.length then none
  else
    match utf8Decode body with
    | none => none
    | some text =>
      match loads rt text with
      | .error _ => none
      | .ok (.obj decoded) =>
        let nested := match Dict.get? decoded (lit "error") with
          | some (.obj nested) => [nested]
          | _ => []
        ((nested ++ [decoded]).flatMap fun container =>
          [lit "code", lit "type", lit "status"].map (Dict.get? container)).findSome? fun value =>
            value.bind (safeProviderErrorCode rt)
      | .ok _ => none

/-- The status is one of success. -/
def isSuccess (statusCode : ℤ) : Bool := decide (200 ≤ statusCode ∧ statusCode ≤ 299)

/-- The category of an HTTP failure, and whether it is worth retrying. -/
def classify (statusCode : ℤ) : ErrorCategory × Bool :=
  if statusCode = 401 then (.authentication, false)
  else if statusCode = 403 then (.permission, false)
  else if statusCode = 408 then (.timeout, true)
  else if statusCode = 409 ∨ statusCode = 425 ∨ statusCode = 429 then (.rateLimit, true)
  else if 500 ≤ statusCode ∧ statusCode ≤ 599 then (.providerServer, true)
  else if 400 ≤ statusCode ∧ statusCode ≤ 499 then (.invalidRequest, false)
  else (.invalidResponse, false)

/-- `_classified_http_error`. -/
def classifiedHttpError (response : HttpResponse) (clientRequestId : Str) : ProviderError where
  message := lit "Provider request failed with HTTP " ++ Str.ofInt response.statusCode
  category := (classify response.statusCode).1
  retryable := (classify response.statusCode).2
  statusCode := some response.statusCode
  requestId := responseRequestId rt response.headers
  ambiguous := false
  clientRequestId := some clientRequestId
  providerErrorCode := responseProviderErrorCode rt response.body

/-! ### Times -/

variable {F : Type} (lib : Library F)

/-- `_elapsed_ms`: a product that overflows cannot be made an integer. -/
def elapsedMs (a : Attempt F) : Except PyErr ℤ :=
  let elapsedSeconds := lib.sub a.endedAt a.startedAt
  if lib.isFinite elapsedSeconds = false then .ok 0
  else
    let ms := lib.mul elapsedSeconds lib.thousand
    if lib.isFinite ms = false then
      .error ⟨.overflowError, lit "cannot convert float infinity to integer"⟩
    else .ok (max 0 (lib.round ms))

/-- `_parse_retry_after`. -/
def parseRetryAfter (value : Option Str) (wallTime : F) : Option F :=
  match value with
  | none | some [] => none
  | some value =>
    let seconds := match lib.ofText (Str.strip value) with
      | some seconds => some seconds
      | none => (lib.parsedate value).map fun parsed =>
        lib.sub (if parsed.aware then parsed.timestamp else parsed.utcTimestamp) wallTime
    match seconds with
    | none => none
    | some seconds =>
      if lib.isFinite seconds = false then none
      else if lib.lt seconds lib.zero then some lib.zero
      else some seconds

/-- `_retry_delay`: a power of two from `2 ** 1024` on does not fit a float. -/
def retryDelay (client : JsonHttpClient F) (a : Attempt F) (headers : List (Str × Str))
    (attempt : ℕ) : Except PyErr F :=
  match parseRetryAfter lib (headerValue rt headers (lit "retry-after")) a.wallTime with
  | some retryAfter => .ok (lib.min retryAfter client.maxRetryAfterSeconds)
  | none =>
    if 1024 ≤ attempt - 1 then
      .error ⟨.overflowError, lit "int too large to convert to float"⟩
    else
      let ceiling := lib.min client.backoffCapSeconds
        (lib.mul client.backoffBaseSeconds (lib.pow2 (attempt - 1)))
      .ok (lib.mul (lib.min (lib.max lib.zero a.randomValue) lib.one) ceiling)

/-! ### Attempts -/

/-- How an attempt ends. -/
inductive Step (F : Type)
  | again (delay : F)
  | stop (outcome : Except PostError JsonResponse)

/-- An error whose elapsed time is still to be read. -/
def inFlight (a : Attempt F) (error : ℤ → ProviderError) : Step F :=
  match elapsedMs lib a with
  | .ok ms => .stop (.error (.provider (error ms)))
  | .error e => .stop (.error (.other e))

/-- The handlers of the exceptions that the transport raises. -/
def handleTransportError (a : Attempt F) (clientRequestId : Str) (attempt : ℕ) :
    TransportError → Step F
  | .timeout => inFlight lib a fun ms =>
    { message := lit "Provider request timed out after transmission may have begun"
      category := .timeout
      retryable := true
      attempts := attempt
      ambiguous := true
      clientRequestId := some clientRequestId
      elapsedMs := some ms
      transportPhase := some (lit "request_in_flight")
      timeoutSubtype := some (lit "socket_or_os_timeout") }
  | .urlError timedOut => inFlight lib a fun ms =>
    { message := lit "Provider connection failed after transmission may have begun"
      category := if timedOut then .timeout else .connection
      retryable := true
      attempts := attempt
      ambiguous := true
      clientRequestId := some clientRequestId
      elapsedMs := some ms
      transportPhase := some (lit "request_in_flight")
      timeoutSubtype := if timedOut then some (lit "url_error_timeout") else none }
  | .osError => inFlight lib a fun ms =>
    { message := lit "Provider connection failed after transmission may have begun"
      category := .connection
      retryable := true
      attempts := attempt
      ambiguous := true
      clientRequestId := some clientRequestId
      elapsedMs := some ms
      transportPhase := some (lit "request_in_flight") }
  | .providerError e =>
    let enriched (ms : ℤ) : ProviderError :=
      { e with
        attempts := attempt
        clientRequestId := match e.clientRequestId with
          | some (c :: id) => some (c :: id)
          | _ => some clientRequestId
        elapsedMs := some ms
        transportPhase := match e.transportPhase with
          | some (c :: phase) => some (c :: phase)
          | _ => some (lit "request_in_flight") }
    match e.elapsedMs with
    | some ms => .stop (.error (.provider (enriched ms)))
    | none => inFlight lib a enriched
  | .other typeName => inFlight lib a fun ms =>
    { message := lit "Provider transport failed safely: " ++ typeName
      category := .unknown
      retryable := false
      attempts := attempt
      ambiguous := true
      clientRequestId := some clientRequestId
      elapsedMs := some ms
      transportPhase := some (lit "request_in_flight") }

/-- An invalid response of a provider. -/
def invalidResponse (message : String) (statusCode : Option ℤ) (requestId : Option Str)
    (attempt : ℕ) : PostError :=
  .provider
    { message := lit message
      category := .invalidResponse
      retryable := false
      statusCode := statusCode
      requestId := requestId
      attempts := attempt
      ambiguous := true }

/-- What is made of a response with a status of success. -/
def readSuccess (client : JsonHttpClient F) (response : HttpResponse) (clientRequestId : Str)
    (attempt : ℕ) : Except PostError JsonResponse :=
  let requestId := responseRequestId rt response.headers
  let invalid (message : String) :=
    invalidResponse message (some response.statusCode) requestId attempt
  if client.maxResponseBytes < response.body.length then
    .error (invalid "Provider response exceeded the safe size limit")
  else
    match utf8Decode response.body with
    | none => .error (invalid "Provider returned malformed JSON")
    | some text =>
      match loads rt text with
      | .error .malformed => .error (invalid "Provider returned malformed JSON")
      | .error .digits => .error (.other (.valueError
          (lit "Exceeds the limit (4300 digits) for integer string conversion")))
      | .error .recursion => .error (.other
          ⟨.recursionError, lit "maximum recursion depth exceeded"⟩)
      | .ok (.obj data) =>
        .ok ⟨data, response.statusCode, response.headers, requestId, clientRequestId, attempt⟩
      | .ok _ => .error (invalid "Provider returned a non-object JSON response")

/-- What is made of a response. -/
def handleResponse (client : JsonHttpClient F) (a : Attempt F) (response : HttpResponse)
    (clientRequestId : Str) (allowed attempt : ℕ) : Step F :=
  if isSuccess response.statusCode then
    .stop (readSuccess rt client response clientRequestId attempt)
  else
    let error := classifiedHttpError rt response clientRequestId
    if error.retryable = true ∧ error.ambiguous = false ∧ attempt < allowed then
      match retryDelay rt lib client a response.headers attempt with
      | .ok delay => .again delay
      | .error e => .stop (.error (.other e))
    else .stop (.error (.provider { error with attempts := attempt }))

/-- One attempt: a request is sent. -/
def performAttempt (client : JsonHttpClient F) (clientRequestId : Str) (allowed attempt : ℕ)
    (a : Attempt F) : Step F :=
  match a.transport with
  | .raised e => handleTransportError lib a clientRequestId attempt e
  | .invalid => .stop (.error
      (invalidResponse "Provider transport returned an invalid response" none none attempt))
  | .response response => handleResponse rt lib client a response clientRequestId allowed attempt

/-- The loop, with a number of attempts left, from an attempt on.  The script says what happens
at each attempt; the result begins with the number of requests sent. -/
def attemptLoop (client : JsonHttpClient F) (clientRequestId : Str) (script : ℕ → Attempt F)
    (allowed : ℕ) : ℕ → ℕ → ℕ × Except PostError JsonResponse
  | 0, attempt => (attempt - 1, .error (.other
      ⟨.assertionError, lit "retry loop exhausted without returning or raising"⟩))
  | left + 1, attempt =>
    match performAttempt rt lib client clientRequestId allowed attempt (script attempt) with
    | .again _ => attemptLoop client clientRequestId script allowed left (attempt + 1)
    | .stop outcome => (attempt, outcome)

/-! ### `post_json` -/

/-- The checks before anything is sent. -/
def prepare (request : PostRequest F) : Except PostError Unit := do
  let refuse (message : Str) : PostError :=
    .provider { message := message, category := .invalidRequest, retryable := false }
  match lib.urlparse request.url with
  | .error e => throw (.other e)
  | .ok parsed =>
    if parsed.scheme ≠ lit "https" ∨ parsed.hostname.getD [] = [] ∨
        parsed.username.getD [] ≠ [] ∨ parsed.password.getD [] ≠ [] ∨ parsed.query ≠ [] ∨
        parsed.fragment ≠ [] then
      throw (refuse (lit "Provider endpoint must be credential-free HTTPS"))
  if lib.le request.timeoutSeconds lib.zero then
    throw (refuse (lit "Provider timeout must be positive"))
  match lib.encodeJson request.payload with
  | .error (.caught typeName) =>
    throw (refuse (lit "Provider request could not be encoded: " ++ typeName))
  | .error (.other e) => throw (.other e)
  | .ok _ => pure ()

/-- `attempts_allowed`. -/
def attemptsAllowed (maxAttempts : ℤ) : ℕ := (max 1 maxAttempts).toNat

/-- `JsonHttpClient.post_json`: how many requests it sends, and how it ends. -/
def postJson (client : JsonHttpClient F) (request : PostRequest F) (script : ℕ → Attempt F) :
    ℕ × Except PostError JsonResponse :=
  match prepare lib request with
  | .error e => (0, .error e)
  | .ok () => attemptLoop rt lib client request.clientRequestId script
      (attemptsAllowed request.maxAttempts) (attemptsAllowed request.maxAttempts) 1

end Http
end CouncilLogic
