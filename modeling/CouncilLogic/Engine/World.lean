/-
# The world a council engine runs in

An engine is a program over the durable store of a run.  Everything it does not
compute itself is a question to its environment: the clock, the random markers,
which of the concurrent calls moves next, what the dispatch gate and the providers
answer.  No answer is assumed to be honest, timely or consistent with another one.

A `World` is the store, the clock of the process and the rows the running resume has
started itself (both are lost with the process), and the trace of what was done.  The
trace is not read by the engine; statements about dispatches are statements about the
trace.

The engine is `CouncilEngine` of `src/model_council/engine.py`.  What it asks is one constructor
of `Question` each: `time.monotonic`, `secrets.token_hex`, the dispatch gate (`CallGate`,
`CallLease`) and `ModelProvider.generate`.
-/

import CouncilLogic.Lib.Prog
import CouncilLogic.Store
import CouncilLogic.Workload

namespace CouncilLogic

open Protocol

/-! ### The engine -/

/-- A `CouncilEngine` that `__init__` accepted; `hasGate` is `call_gate is not None`. -/
structure CouncilEngine extends RunConfig where
  hasGate : Bool
  accepted : toRunConfig.Accepted

/-- `CouncilEngine.__init__`.  `providers` is a dictionary by provider name, so no
name occurs twice. -/
def CouncilEngine.init (config : RunConfig) (hasGate : Bool) (names_nodup : config.names.Nodup) :
    Except PyErr CouncilEngine :=
  let unavailable := config.synthesisProviders.filter fun name => name ∉ config.names
  if hp : config.providers = [] then
    .error (.valueError (lit "At least one provider is required"))
  else if hd : ¬ config.synthesisProviders.Nodup then
    .error (.valueError (lit "Synthesis providers must not contain duplicates"))
  else if hu : unavailable ≠ [] then
    .error (.valueError
      (lit "Synthesis providers are not available: " ++ Str.join (lit ", ") unavailable))
  else if hc : config.policy.maxCalls <
      config.providers.length * 2 + config.synthesisProviders.length then
    .error (.valueError (lit ("Max calls is too small for proposals, juries, and configured " ++
      "synthesis attempts")))
  else
    .ok { config with
      hasGate := hasGate
      accepted := {
        providers_ne_nil := hp
        names_nodup := names_nodup
        synthesis_nodup := not_not.1 hd
        synthesis_available := by
          intro name hname
          by_contra hn
          have : name ∈ unavailable := List.mem_filter.2 ⟨hname, by simpa using hn⟩
          exact List.not_mem_nil (not_not.1 hu ▸ this)
        max_calls := not_lt.1 hc } }

/-! ### Questions and answers -/

/-- One provider call the engine wants to make. -/
structure Call where
  stage : Stage
  providerStage : Stage
  provider : Str
  prompts : PromptPair
  outputLimit : ℤ

/-- What the engine asks of its environment. -/
inductive Question
  /-- How far `time.monotonic()` has moved since it was last read. -/
  | clock
  /-- The markers `estimate_workload` draws. -/
  | planDraws
  /-- `new_untrusted_marker()`. -/
  | newMarker
  /-- Which of the possible moves of a thread pool comes next. -/
  | schedule
  /-- `call_gate.reserve(…, attempt=attempt)`. -/
  | reserve (call : Call) (attempt : ℕ)
  /-- `lease.release()`. -/
  | release (call : Call)
  /-- `lease.reconcile(1)`. -/
  | reconcile (call : Call)
  /-- `provider.generate(…)`. -/
  | generate (call : Call)

/-- What a dispatch gate does: it grants a lease, raises a `ProviderError`, or
raises anything else. -/
inductive GateAnswer
  | lease
  | denied (error : ProviderError)
  | raised (typeName : Str)

/-- What a provider does: it returns a response or another object, raises a
`ProviderError`, or raises anything else. -/
inductive ProviderAnswer
  | response (response : ProviderResponse)
  | invalid
  | error (error : ProviderError)
  | raised (typeName : Str)

/-- The answers to a question. -/
def Answer : Question → Type
  | .clock => ℕ
  | .planDraws => Workload.PlanDraws
  | .newMarker => Marker
  | .schedule => ℕ
  | .reserve _ _ => GateAnswer
  | .release _ => Option PyErr
  | .reconcile _ => Option Str
  | .generate _ => ProviderAnswer

/-! ### The world -/

/-- What the trace records; `before` is the store at that moment. -/
inductive Action
  /-- `_run_parallel_stage` begins with these prompts. -/
  | enter (stage : Stage) (prompts : List (Str × PromptPair)) (before : Store)
  /-- A prompt is refused as longer than `max_stage_prompt_chars`. -/
  | overLimit (stage : Stage) (provider : Str)
  /-- `start_invocation` is about to be called. -/
  | attempt (call : Call) (before : Store)
  /-- `start_invocation` has returned. -/
  | started (call : Call) (before : Store)
  /-- `provider.generate` is called. -/
  | generate (call : Call) (before : Store)
  /-- The gate is asked. -/
  | reserved (call : Call) (attempt : ℕ)
  /-- The gate has granted a lease. -/
  | granted (call : Call) (attempt : ℕ)
  /-- A lease is going to be released. -/
  | released (call : Call)
  /-- A lease is going to be reconciled. -/
  | reconciled (call : Call)
  /-- The release or the reconciliation of a lease has returned. -/
  | settled (call : Call)
  /-- The vote is decided: what the synthesis prompts are built from. -/
  | adjudicated (mapping : List (Str × Str)) (records : List Dict) (aggregate : Aggregate)

/-- The store, the clock, the ids the running resume has started, and the trace. -/
structure World where
  store : Store
  now : ℕ := 0
  live : List ℕ := []
  trace : List Action := []

/-- The process ends: the store and the history stay. -/
def World.lose (w : World) : World := { w with now := 0, live := [] }

/-- The clock of a process starts anew. -/
@[simp] theorem World.lose_store (w : World) : w.lose.store = w.store := rfl
@[simp] theorem World.lose_live (w : World) : w.lose.live = [] := rfl
@[simp] theorem World.lose_trace (w : World) : w.lose.trace = w.trace := rfl
@[simp] theorem World.lose_now (w : World) : w.lose.now = 0 := rfl
@[simp] theorem World.lose_lose (w : World) : w.lose.lose = w.lose := rfl

/-- The world with another store. -/
def World.withStore (w : World) (st : Store) : World := { w with store := st }

/-- The world some time later. -/
def World.tick (w : World) (elapsed : ℕ) : World := { w with now := w.now + elapsed }

/-- The world with one more action in its trace. -/
def World.record (w : World) (a : Action) : World := { w with trace := w.trace ++ [a] }

@[simp] theorem World.withStore_store (w : World) (st : Store) : (w.withStore st).store = st := rfl
@[simp] theorem World.withStore_live (w : World) (st : Store) :
    (w.withStore st).live = w.live := rfl
@[simp] theorem World.withStore_trace (w : World) (st : Store) :
    (w.withStore st).trace = w.trace := rfl
/-- Time passes. -/
@[simp] theorem World.withStore_now (w : World) (st : Store) : (w.withStore st).now = w.now := rfl
@[simp] theorem World.tick_store (w : World) (n : ℕ) : (w.tick n).store = w.store := rfl
@[simp] theorem World.tick_live (w : World) (n : ℕ) : (w.tick n).live = w.live := rfl
@[simp] theorem World.tick_trace (w : World) (n : ℕ) : (w.tick n).trace = w.trace := rfl
@[simp] theorem World.tick_now (w : World) (n : ℕ) : (w.tick n).now = w.now + n := rfl
@[simp] theorem World.record_now (w : World) (a : Action) : (w.record a).now = w.now := rfl
@[simp] theorem World.record_store (w : World) (a : Action) : (w.record a).store = w.store := rfl
@[simp] theorem World.record_live (w : World) (a : Action) : (w.record a).live = w.live := rfl
@[simp] theorem World.record_trace (w : World) (a : Action) :
    (w.record a).trace = w.trace ++ [a] := rfl

/-! ### Programs of the engine -/

/-- A part of a resume. -/
abbrev M (α : Type) := Prog World PyErr Question Answer α

/-- The store as it is now. -/
def getStore : M Store := do
  let w ← Prog.read
  pure w.store

/-- One transaction of the store. -/
def transact (f : Store → Except PyErr Store) : M Unit := do
  let w ← Prog.read
  let st ← Prog.ofExcept (f w.store)
  Prog.write (w.withStore st)

/-- Record an action. -/
def emit (a : Store → Action) : M Unit := do
  let w ← Prog.read
  Prog.write (w.record (a w.store))

/-- `time.monotonic()`. -/
def monotonic : M ℤ := do
  let w ← Prog.read
  let elapsed : ℕ ← Prog.query Question.clock
  Prog.write (w.tick elapsed)
  pure (w.now + elapsed)

end CouncilLogic
