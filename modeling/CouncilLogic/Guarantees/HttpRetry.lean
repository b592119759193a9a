/-
# Retries are safe where nothing else is raised

`post_json` sends again only after an explicit failure worth retrying, at most as often as it
may, and says how often it has sent.  It ends with a response or a `ProviderError` unless an
exception passes its handlers: the `RecursionError` or the plain `ValueError` of `json.loads` on
a body of success, which `response_provider_error_code` catches, a back-off of `2 ** 1024` or
more, or an elapsed time that overflows.

The method is `JsonHttpClient.post_json` of `src/model_council/providers/http.py`.  What it marks
as ambiguous is what the engine will not ask for again, so a request that may have been answered
is never sent a second time (`retrySafe_iff`).
-/

import CouncilLogic.Engine.Creation
import CouncilLogic.Providers.Http

namespace CouncilLogic
namespace Http

variable {F : Type} {rt : Runtime} {lib : Library F} {client : JsonHttpClient F}
  {clientRequestId : Str} {allowed attempt : ℕ} {a : Attempt F}
  {outcome : Except PostError JsonResponse}

/-! ### What is promised -/

namespace Attempt

/-- The attempt ends with an explicit failure that is worth retrying. -/
def RetryableFailure (a : Attempt F) : Prop :=
  ∃ response, a.transport = .response response ∧ isSuccess response.statusCode = false ∧
    (classify response.statusCode).2 = true

/-- A failure of the attempt leaves open whether the provider did the work: there was a status
of success, the transport returned something that is no response, or it raised something of
its own. -/
def Unsettled (a : Attempt F) : Prop :=
  (∃ response, a.transport = .response response ∧ isSuccess response.statusCode = true) ∨
    a.transport = .invalid ∨
    ∃ error, a.transport = .raised error ∧ ∀ e, error ≠ .providerError e

end Attempt

/-- The call ends at an attempt, and says so. -/
def EndsAt (a : Attempt F) (attempt : ℕ) (outcome : Except PostError JsonResponse) : Prop :=
  (∃ response, outcome = .ok response ∧ response.attempts = attempt) ∨
    ∃ e, outcome = .error (.provider e) ∧ e.attempts = attempt ∧
      (a.Unsettled → e.ambiguous = true)

/-- The call is safe to have made: how many requests were sent, and how it ended. -/
structure RetrySafe (script : ℕ → Attempt F) (maxAttempts : ℤ)
    (result : ℕ × Except PostError JsonResponse) : Prop where
  resent : ∀ i, 1 ≤ i → i < result.1 → (script i).RetryableFailure
  bounded : (result.1 : ℤ) ≤ max 1 maxAttempts
  ends : EndsAt (script result.1) result.1 result.2

/-! ### What may pass the handlers -/

/-- The elapsed time is not finite, or it is finite in milliseconds. -/
def ElapsedFits (lib : Library F) (a : Attempt F) : Prop :=
  lib.isFinite (lib.sub a.endedAt a.startedAt) = true →
    lib.isFinite (lib.mul (lib.sub a.endedAt a.startedAt) lib.thousand) = true

/-- `json.loads` reads the body, or raises `JSONDecodeError`. -/
def Decodes (rt : Runtime) (client : JsonHttpClient F) (response : HttpResponse) : Prop :=
  response.body.length ≤ client.maxResponseBytes → ∀ text, utf8Decode response.body = some text →
    loads rt text ≠ .error .digits ∧ loads rt text ≠ .error .recursion

/-- A body of brackets alone is not decoded. -/
example : loads exampleRuntime (List.replicate 1001 91) = .error .recursion := by decide +kernel

/-- The delay before the next attempt can be computed. -/
def DelayFits (rt : Runtime) (lib : Library F) (a : Attempt F) (response : HttpResponse)
    (attempt : ℕ) : Prop :=
  parseRetryAfter lib (headerValue rt response.headers (lit "retry-after")) a.wallTime ≠ none ∨
    attempt ≤ 1024

/-- Nothing is raised at the attempt that the client does not handle. -/
def Benign (rt : Runtime) (lib : Library F) (client : JsonHttpClient F) (allowed attempt : ℕ)
    (a : Attempt F) : Prop :=
  match a.transport with
  | .invalid => True
  | .raised (.providerError e) => e.elapsedMs = none → ElapsedFits lib a
  | .raised _ => ElapsedFits lib a
  | .response response =>
    if isSuccess response.statusCode then Decodes rt client response
    else (classify response.statusCode).2 = true → attempt < allowed →
      DelayFits rt lib a response attempt

/-! ### One attempt -/

/-- The elapsed time is a number of milliseconds, or taking it raises. -/
theorem elapsedMs_cases :
    (ElapsedFits lib a ∧ ∃ ms, elapsedMs lib a = .ok ms) ∨
      ¬ ElapsedFits lib a ∧ ∃ e, elapsedMs lib a = .error e := by
  unfold ElapsedFits elapsedMs
  dsimp only
  cases lib.isFinite (lib.sub a.endedAt a.startedAt) with
  | false => exact .inl ⟨by rintro ⟨⟩, 0, rfl⟩
  | true =>
    cases lib.isFinite (lib.mul (lib.sub a.endedAt a.startedAt) lib.thousand) with
    | false => exact .inr ⟨fun h => absurd (h rfl) (by decide), _, rfl⟩
    | true => exact .inl ⟨fun _ => rfl, _, rfl⟩

/-- A request that may have arrived ends the call with its error, unless the elapsed time raises.
-/
theorem inFlight_cases (error : ℤ → ProviderError) :
    (ElapsedFits lib a ∧ ∃ ms, inFlight lib a error = .stop (.error (.provider (error ms)))) ∨
      ¬ ElapsedFits lib a ∧ ∃ e, inFlight lib a error = .stop (.error (.other e)) := by
  unfold inFlight
  rcases @elapsedMs_cases F lib a with ⟨hfits, ms, hms⟩ | ⟨hfits, e, he⟩
  · rw [hms]
    exact .inl ⟨hfits, ms, rfl⟩
  · rw [he]
    exact .inr ⟨hfits, e, rfl⟩

/-- A retry is delayed by a time, or computing it raises. -/
theorem retryDelay_cases (response : HttpResponse) :
    (DelayFits rt lib a response attempt ∧
        ∃ delay, retryDelay rt lib client a response.headers attempt = .ok delay) ∨
      ¬ DelayFits rt lib a response attempt ∧
        ∃ e, retryDelay rt lib client a response.headers attempt = .error e := by
  unfold DelayFits retryDelay
  cases parseRetryAfter lib (headerValue rt response.headers (lit "retry-after")) a.wallTime with
  | some retryAfter => exact .inl ⟨.inl (by rintro ⟨⟩), _, rfl⟩
  | none =>
    dsimp only
    split
    · rename_i hlarge
      refine .inr ⟨?_, _, rfl⟩
      rintro (h | h)
      · exact h rfl
      · omega
    · rename_i hsmall
      exact .inl ⟨.inr (by omega), _, rfl⟩

/-- How a response of success is read. -/
theorem readSuccess_cases (response : HttpResponse) :
    (Decodes rt client response ∧
        ((∃ r, readSuccess rt client response clientRequestId attempt = .ok r ∧
            r.attempts = attempt) ∨
          ∃ e, readSuccess rt client response clientRequestId attempt = .error (.provider e) ∧
            e.attempts = attempt ∧ e.ambiguous = true)) ∨
      ¬ Decodes rt client response ∧
        ∃ e, readSuccess rt client response clientRequestId attempt = .error (.other e) := by
  unfold Decodes readSuccess
  dsimp only
  by_cases hsize : client.maxResponseBytes < response.body.length
  · rw [if_pos hsize]
    exact .inl ⟨fun h => absurd h (not_le.2 hsize), .inr ⟨_, rfl, rfl, rfl⟩⟩
  rw [if_neg hsize]
  cases htext : utf8Decode response.body with
  | none => exact .inl ⟨fun _ _ h => (by cases h), .inr ⟨_, rfl, rfl, rfl⟩⟩
  | some text =>
    dsimp only
    have honly : ∀ {P : Str → Prop}, (response.body.length ≤ client.maxResponseBytes →
        ∀ t, some text = some t → P t) ↔ P text := by
      intro P
      exact ⟨fun h => h (not_lt.1 hsize) text rfl, fun h _ t ht => Option.some.inj ht ▸ h⟩
    rw [honly]
    cases hloads : loads rt text with
    | error e =>
      cases e with
      | malformed => exact .inl ⟨⟨by rintro ⟨⟩, by rintro ⟨⟩⟩, .inr ⟨_, rfl, rfl, rfl⟩⟩
      | digits => exact .inr ⟨fun h => h.1 rfl, _, rfl⟩
      | recursion => exact .inr ⟨fun h => h.2 rfl, _, rfl⟩
    | ok value =>
      refine .inl ⟨⟨by rintro ⟨⟩, by rintro ⟨⟩⟩, ?_⟩
      cases value with
      | obj data => exact .inl ⟨_, rfl, rfl⟩
      | null | bool _ | int _ | float _ | str _ | arr _ => exact .inr ⟨_, rfl, rfl, rfl⟩

/-- What one attempt comes to. -/
inductive Came (rt : Runtime) (lib : Library F) (client : JsonHttpClient F)
    (allowed attempt : ℕ) (a : Attempt F) : Step F → Prop
  | again (delay : F) : a.RetryableFailure → attempt < allowed →
    Benign rt lib client allowed attempt a → Came rt lib client allowed attempt a (.again delay)
  | ended {outcome : Except PostError JsonResponse} :
    Benign rt lib client allowed attempt a → EndsAt a attempt outcome →
    ¬ (a.RetryableFailure ∧ attempt < allowed) →
    Came rt lib client allowed attempt a (.stop outcome)
  | escaped (e : PyErr) : ¬ Benign rt lib client allowed attempt a →
    Came rt lib client allowed attempt a (.stop (.error (.other e)))

/-- A transport that raises gives no response that is worth retrying. -/
theorem Attempt.not_retryableFailure_of_raised {error : TransportError}
    (ha : a.transport = .raised error) : ¬ a.RetryableFailure := by
  rintro ⟨response, h, -⟩
  rw [ha] at h
  cases h

/-- What comes of a request that may have arrived: no second one. -/
theorem Came.of_inFlight {error : ℤ → ProviderError} {raised : TransportError}
    (ha : a.transport = .raised raised)
    (hbenign : Benign rt lib client allowed attempt a ↔ ElapsedFits lib a)
    (hattempts : ∀ ms, (error ms).attempts = attempt)
    (hambiguous : ∀ ms, a.Unsettled → (error ms).ambiguous = true) :
    Came rt lib client allowed attempt a (inFlight lib a error) := by
  rcases @inFlight_cases F lib a error with ⟨hfits, ms, h⟩ | ⟨hfits, e, h⟩
  · rw [h]
    exact .ended (hbenign.2 hfits) (.inr ⟨_, rfl, hattempts ms, hambiguous ms⟩)
      fun h => Attempt.not_retryableFailure_of_raised ha h.1
  · rw [h]
    exact .escaped e fun hb => hfits (hbenign.1 hb)

/-- What comes of an attempt whose transport raised. -/
theorem came_handleTransportError {error : TransportError} (ha : a.transport = .raised error) :
    Came rt lib client allowed attempt a
      (handleTransportError lib a clientRequestId attempt error) := by
  cases error with
  | providerError e =>
    have hsettled : ¬ a.Unsettled := by
      rintro (⟨response, h, -⟩ | h | ⟨error, h, hne⟩)
      · rw [ha] at h
        cases h
      · rw [ha] at h
        cases h
      · rw [ha] at h
        cases h
        exact hne e rfl
    cases he : e.elapsedMs with
    | some ms =>
      have hbenign : Benign rt lib client allowed attempt a := by
        unfold Benign
        rw [ha]
        intro hnone
        rw [he] at hnone
        cases hnone
      unfold handleTransportError
      dsimp only
      rw [he]
      exact .ended hbenign (.inr ⟨_, rfl, rfl, fun h => absurd h hsettled⟩)
        fun h => Attempt.not_retryableFailure_of_raised ha h.1
    | none =>
      have hbenign : Benign rt lib client allowed attempt a ↔ ElapsedFits lib a := by
        unfold Benign
        rw [ha]
        exact ⟨fun h => h he, fun h _ => h⟩
      unfold handleTransportError
      dsimp only
      rw [he]
      exact .of_inFlight ha hbenign (fun _ => rfl) fun _ h => absurd h hsettled
  | timeout | urlError timedOut | osError | other typeName =>
    have hbenign : Benign rt lib client allowed attempt a ↔ ElapsedFits lib a := by
      unfold Benign
      rw [ha]
    exact .of_inFlight ha hbenign (fun _ => rfl) fun _ _ => rfl

/-- What comes of an attempt that was answered. -/
theorem came_handleResponse {response : HttpResponse} (ha : a.transport = .response response) :
    Came rt lib client allowed attempt a
      (handleResponse rt lib client a response clientRequestId allowed attempt) := by
  unfold handleResponse
  cases hsuccess : isSuccess response.statusCode with
  | true =>
    have hbenign : Benign rt lib client allowed attempt a ↔ Decodes rt client response := by
      unfold Benign
      rw [ha]
      dsimp only
      rw [hsuccess, if_pos rfl]
    rw [if_pos rfl]
    rcases @readSuccess_cases F rt client clientRequestId attempt response with
      ⟨hdecodes, hr⟩ | ⟨hdecodes, e, he⟩
    · refine .ended (hbenign.2 hdecodes) ?_ ?_
      · rcases hr with ⟨r, hr, hattempts⟩ | ⟨e, he, hattempts, hambiguous⟩
        · exact .inl ⟨r, hr, hattempts⟩
        · exact .inr ⟨e, he, hattempts, fun _ => hambiguous⟩
      · rintro ⟨⟨r, h, hr, -⟩, -⟩
        rw [ha] at h
        cases h
        rw [hsuccess] at hr
        cases hr
    · rw [he]
      exact .escaped e fun hb => hdecodes (hbenign.1 hb)
  | false =>
    have hbenign : Benign rt lib client allowed attempt a ↔
        ((classify response.statusCode).2 = true → attempt < allowed →
          DelayFits rt lib a response attempt) := by
      unfold Benign
      rw [ha]
      dsimp only
      rw [hsuccess, if_neg (by decide)]
    rw [if_neg (by decide)]
    dsimp only [classifiedHttpError]
    by_cases hagain : (classify response.statusCode).2 = true ∧ attempt < allowed
    · rw [if_pos ⟨hagain.1, rfl, hagain.2⟩]
      rcases @retryDelay_cases F rt lib client attempt a response with
        ⟨hfits, delay, hd⟩ | ⟨hfits, e, he⟩
      · rw [hd]
        exact .again delay ⟨response, ha, hsuccess, hagain.1⟩ hagain.2
          (hbenign.2 fun _ _ => hfits)
      · rw [he]
        exact .escaped e fun hb => hfits (hbenign.1 hb hagain.1 hagain.2)
    · rw [if_neg fun h => hagain ⟨h.1, h.2.2⟩]
      refine .ended (hbenign.2 fun h₁ h₂ => absurd ⟨h₁, h₂⟩ hagain) (.inr ⟨_, rfl, rfl, ?_⟩) ?_
      · rintro (⟨r, h, hr⟩ | h | ⟨error, h, -⟩)
        · rw [ha] at h
          cases h
          rw [hsuccess] at hr
          cases hr
        · rw [ha] at h
          cases h
        · rw [ha] at h
          cases h
      · rintro ⟨⟨r, h, -, hretryable⟩, hlt⟩
        rw [ha] at h
        cases h
        exact hagain ⟨hretryable, hlt⟩

/-- **One attempt** sends again only after an explicit failure, and ends the call with a
response or a provider's error exactly where nothing passes the handlers. -/
theorem came_performAttempt :
    Came rt lib client allowed attempt a
      (performAttempt rt lib client clientRequestId allowed attempt a) := by
  unfold performAttempt
  cases ha : a.transport with
  | raised error => exact came_handleTransportError ha
  | response response => exact came_handleResponse ha
  | invalid =>
    have hbenign : Benign rt lib client allowed attempt a := by
      unfold Benign
      rw [ha]
      trivial
    refine .ended hbenign (.inr ⟨_, rfl, rfl, fun _ => rfl⟩) ?_
    rintro ⟨⟨response, h, -⟩, -⟩
    rw [ha] at h
    cases h

/-- A request is only sent again after a failure worth retrying, while attempts are left. -/
theorem Came.again_inv {delay : F} (h : Came rt lib client allowed attempt a (.again delay)) :
    a.RetryableFailure ∧ attempt < allowed ∧ Benign rt lib client allowed attempt a := by
  cases h with
  | again _ hfailure hlt hbenign => exact ⟨hfailure, hlt, hbenign⟩

/-- A call ends after an attempt because there is nothing to retry, or because an exception passes
its handlers. -/
theorem Came.stop_inv (h : Came rt lib client allowed attempt a (.stop outcome)) :
    (Benign rt lib client allowed attempt a ∧ EndsAt a attempt outcome ∧
        ¬ (a.RetryableFailure ∧ attempt < allowed)) ∨
      ¬ Benign rt lib client allowed attempt a ∧ ¬ EndsAt a attempt outcome := by
  cases h with
  | ended hbenign hends hlast => exact .inl ⟨hbenign, hends, hlast⟩
  | escaped e hbenign =>
    refine .inr ⟨hbenign, ?_⟩
    rintro (⟨_, h, -⟩ | ⟨_, h, -⟩)
    · cases h
    · cases h

/-! ### The whole call -/

/-- The loop goes on from an attempt to the one that ends it. -/
theorem attemptLoop_stops {script : ℕ → Attempt F} {left : ℕ} (hleft : 1 ≤ left)
    {attempt : ℕ} (hsum : attempt + left = allowed + 1) :
    ∃ n outcome, attemptLoop rt lib client clientRequestId script allowed left attempt =
        (n, outcome) ∧ attempt ≤ n ∧ n ≤ allowed ∧
      (∀ j, attempt ≤ j → j < n → ∃ delay,
        performAttempt rt lib client clientRequestId allowed j (script j) = .again delay) ∧
      performAttempt rt lib client clientRequestId allowed n (script n) = .stop outcome := by
  induction left generalizing attempt with
  | zero => omega
  | succ left ih =>
    unfold attemptLoop
    cases hstep :
        performAttempt rt lib client clientRequestId allowed attempt (script attempt) with
    | stop outcome =>
      exact ⟨attempt, outcome, rfl, le_rfl, by omega, fun j h₁ h₂ => absurd h₂ (not_lt.2 h₁),
        hstep⟩
    | again delay =>
      have hcame : Came rt lib client allowed attempt (script attempt) (.again delay) :=
        hstep ▸ came_performAttempt
      have hlt := hcame.again_inv.2.1
      have hnext : attempt + 1 + left = allowed + 1 := by omega
      obtain ⟨n, outcome, hloop, hle, hbound, hagain, hstop⟩ := ih (by omega) hnext
      refine ⟨n, outcome, hloop, by omega, hbound, fun j h₁ h₂ => ?_, hstop⟩
      rcases Nat.eq_or_lt_of_le h₁ with rfl | hj
      · exact ⟨delay, hstep⟩
      · exact hagain j hj h₂

/-- A refusal says that one request was sent, though none was. -/
theorem not_endsAt_of_prepare {request : PostRequest F} {e : PostError}
    (h : prepare lib request = .error e) : ¬ EndsAt a 0 (.error e) := by
  have hrefuse : ∀ e', e = .provider e' → e'.attempts = 1 := by
    rintro e' rfl
    unfold prepare at h
    dsimp only at h
    split at h
    · cases h
    · split at h
      · cases h
        rfl
      · split at h
        · cases h
          rfl
        · split at h
          · cases h
            rfl
          · cases h
          · cases h
  rintro (⟨_, h, -⟩ | ⟨e', h, hattempts, -⟩)
  · cases h
  · rw [hrefuse e' (by cases h; rfl)] at hattempts
    exact absurd hattempts (by decide)

/-- At least one attempt is allowed. -/
theorem one_le_attemptsAllowed (maxAttempts : ℤ) : 1 ≤ attemptsAllowed maxAttempts := by
  unfold attemptsAllowed
  omega

/-- The attempts that are allowed are the configured ones, and one at least. -/
theorem attemptsAllowed_cast (maxAttempts : ℤ) :
    (attemptsAllowed maxAttempts : ℤ) = max 1 maxAttempts := by
  unfold attemptsAllowed
  omega

/-- **Retries are safe exactly where nothing else is raised.**  Whatever the transport, the
clocks and the random source do, a call sends a request again only after an explicit failure
that is worth retrying, sends at most `max(1, max_attempts)` of them, and ends with a response or
a `ProviderError` that counts them and is ambiguous wherever the work may have been done, if
and only if its arguments pass the checks and no attempt that it reaches raises something that
the client does not handle. -/
theorem retrySafe_iff (rt : Runtime) (lib : Library F) (client : JsonHttpClient F)
    (request : PostRequest F) (script : ℕ → Attempt F) :
    RetrySafe script request.maxAttempts (postJson rt lib client request script) ↔
      prepare lib request = .ok () ∧
        ∀ i, 1 ≤ i → i ≤ attemptsAllowed request.maxAttempts →
          (∀ j, 1 ≤ j → j < i → (script j).RetryableFailure) →
          Benign rt lib client (attemptsAllowed request.maxAttempts) i (script i) := by
  unfold postJson
  cases hprepare : prepare lib request with
  | error e =>
    exact iff_of_false (fun h => not_endsAt_of_prepare hprepare h.ends) (by rintro ⟨⟨⟩, -⟩)
  | ok _ =>
    obtain ⟨n, outcome, hloop, hn, hbound, hagain, hstop⟩ :=
      @attemptLoop_stops F rt lib client request.clientRequestId _ script _
        (one_le_attemptsAllowed request.maxAttempts) 1 (Nat.add_comm _ _)
    have hbefore : ∀ j, 1 ≤ j → j < n → (script j).RetryableFailure ∧
        j < attemptsAllowed request.maxAttempts ∧
        Benign rt lib client (attemptsAllowed request.maxAttempts) j (script j) := by
      intro j h₁ h₂
      obtain ⟨delay, hj⟩ := hagain j h₁ h₂
      exact (hj ▸ came_performAttempt :
        Came rt lib client (attemptsAllowed request.maxAttempts) j (script j)
          (.again delay)).again_inv
    have hlast := (hstop ▸ came_performAttempt :
      Came rt lib client (attemptsAllowed request.maxAttempts) n (script n)
        (.stop outcome)).stop_inv
    dsimp only
    rw [hloop]
    constructor
    · rintro ⟨-, -, hends⟩
      rcases hlast with ⟨hbenign, -, hstops⟩ | ⟨-, hnot⟩
      · refine ⟨rfl, fun i h₁ h₂ hall => ?_⟩
        rcases lt_trichotomy i n with hlt | rfl | hgt
        · exact (hbefore i h₁ hlt).2.2
        · exact hbenign
        · exact absurd ⟨hall n hn hgt, by omega⟩ hstops
      · exact absurd hends hnot
    · rintro ⟨-, hbenign⟩
      rcases hlast with ⟨-, hends, -⟩ | ⟨hnot, -⟩
      · refine ⟨fun j h₁ h₂ => (hbefore j h₁ h₂).1, ?_, hends⟩
        rw [← attemptsAllowed_cast]
        exact_mod_cast hbound
      · exact absurd (hbenign n hn hbound fun j h₁ h₂ => (hbefore j h₁ h₂).1) hnot

end Http
end CouncilLogic
