/-
# Where configurations come from

`load_config`, the selection that a command or an agent makes of the loaded providers, and the
configuration that a resume reads back from the lock of its run.

The tables of a configuration file are taken with values of the kinds they are documented with,
and the environment and what `urlparse` finds are parameters.

The functions are `load_config` of `src/model_council/config.py`, `_select_run_config` of
`src/model_council/cli.py` with its helpers, and what `council resume` makes of a stored run.  A
selection is what a command or an agent may choose of a deployment: seats by their names, a
shorter time for each call, and nothing else.
-/

import CouncilLogic.Engine.Locks
import CouncilLogic.Seats
import CouncilLogic.Store.Runs

namespace CouncilLogic
namespace Config

/-- `AppConfig`, without its directory, with the seats in full. -/
structure FullConfig where
  seats : List Seat
  policy : RunPolicy
  /-- `repr(policy.deadline_seconds)`. -/
  deadline : Str
  synthesisProvider : Str
  synthesisFallbacks : List Str
  deriving DecidableEq

/-- The interpreter and the libraries: `ticks` are the ticks of the clock in a number of
seconds. -/
structure Libraries extends Runtime where
  urlparse : Str → Except PyErr Url
  ticks : Str → ℕ

variable (lib : Libraries)

/-- The deadline in ticks: at least one for a finite and positive number of seconds. -/
def deadlineTicks (t : Str) : ℤ := if isPositive t then max 1 (lib.ticks t : ℤ) else 0

/-- The configuration that the engine is built from. -/
def FullConfig.app (c : FullConfig) : AppConfig where
  providers := c.seats.map Seat.config
  policy := { c.policy with deadlineSeconds := deadlineTicks lib c.deadline }
  synthesisProvider := c.synthesisProvider
  synthesisFallbacks := c.synthesisFallbacks
  deadline := c.deadline

/-- The names of the seats. -/
def FullConfig.names (c : FullConfig) : List Str := c.seats.map Seat.name

/-! ### Overrides of the policy -/

/-- `_RUN_POLICY_OVERRIDES`, as far as they are given. -/
structure Overrides where
  proposalQuorum : Option ℤ := none
  juryQuorum : Option ℤ := none
  minLineages : Option ℤ := none
  maxCalls : Option ℤ := none
  maxParallelCalls : Option ℤ := none
  deadlineSeconds : Option Str := none
  maxQuestionChars : Option ℤ := none
  maxStagePromptChars : Option ℤ := none
  juryRepairAttempts : Option ℤ := none
  truncationRetries : Option ℤ := none
  maxRecoveryOutputTokens : Option ℤ := none

/-- `RunPolicy.from_dict({**policy.to_dict(), **overrides})`. -/
def Overrides.policy (o : Overrides) (p : RunPolicy) : RunPolicy where
  proposalQuorum := o.proposalQuorum.getD p.proposalQuorum
  juryQuorum := o.juryQuorum.getD p.juryQuorum
  minLineages := o.minLineages.getD p.minLineages
  maxCalls := o.maxCalls.getD p.maxCalls
  maxParallelCalls := o.maxParallelCalls.getD p.maxParallelCalls
  deadlineSeconds := p.deadlineSeconds
  allowPartial := p.allowPartial
  maxQuestionChars := o.maxQuestionChars.getD p.maxQuestionChars
  maxStagePromptChars := o.maxStagePromptChars.getD p.maxStagePromptChars
  truncationRetries := o.truncationRetries.getD p.truncationRetries
  maxRecoveryOutputTokens := o.maxRecoveryOutputTokens.getD p.maxRecoveryOutputTokens
  juryRepairAttempts := o.juryRepairAttempts.getD p.juryRepairAttempts

/-! ### Selections -/

/-- The arguments that select what is run. -/
structure RunArgs where
  providers : Option Str := none
  synthesisProvider : Option Str := none
  synthesisProviders : Option Str := none
  config : Option Str := none
  overrides : Overrides := {}
  callTimeoutSeconds : Option Str := none

/-- `[item.strip() for item in text.split(",") if item.strip()]`. -/
def listed (text : Str) : List Str := ((text.splitOn 44).map Str.strip).filter (· ≠ [])

/-- `{provider.name: provider for provider in providers}.get(name)`. -/
def available (seats : List Seat) (name : Str) : Option Seat :=
  seats.reverse.find? fun s => s.name = name

/-- The seats that are asked for, in their order. -/
def selectSeats (seats : List Seat) : Option Str → Except PyErr (List Seat)
  | none => .ok seats
  | some text =>
    if text = [] then .ok seats
    else do
      let requested := listed text
      refuse (¬ requested.Nodup) (lit "Selected providers must not contain duplicates")
      let unknown := requested.filter fun name => decide (available seats name = none)
      refuse (unknown ≠ []) (lit "Unknown providers: " ++ Str.join (lit ", ") unknown)
      .ok (requested.filterMap (available seats))

/-- The cap on every call's timeout. -/
def capSeats (seats : List Seat) : Option Str → Except PyErr (List Seat)
  | none => .ok seats
  | some seconds => seats.mapM (applyCallTimeout seconds)

/-- The synthesis chain of the selection: its first provider and the fallbacks. -/
def selectChain (config : FullConfig) (args : RunArgs) (seats : List Seat) :
    Except PyErr (Str × List Str) :=
  match args.synthesisProviders, args.synthesisProvider with
  | some ordered, _ =>
    match listed ordered with
    | [] => .error (.valueError (lit "At least one synthesis provider is required"))
    | first :: rest => .ok (first, rest)
  | none, some name => .ok (name, [])
  | none, none =>
    if args.providers.any (fun text => decide (text ≠ [])) ∧ args.config = none then
      if config.synthesisProvider ∉ seats.map Seat.name then
        .error (.valueError (lit "Synthesis provider must be one of the selected providers"))
      else
        -- the primary is selected, so that the chain begins with it
        .ok (config.synthesisProvider,
          config.synthesisFallbacks.filter fun name => decide (name ∈ seats.map Seat.name))
    else .ok (config.synthesisProvider, config.synthesisFallbacks)

/-- The checks of the chain and the policy. -/
def FullConfig.validate (c : FullConfig) : Except PyErr Unit :=
  Config.validate lib.toRuntime lib.urlparse (c.app lib)

/-- `_select_run_config`. -/
def selectRunConfig (config : FullConfig) (args : RunArgs) : Except PyErr FullConfig := do
  let seats ← selectSeats config.seats args.providers
  let seats ← capSeats seats args.callTimeoutSeconds
  let chain ← selectChain config args seats
  let selected : FullConfig :=
    { seats := seats
      policy := args.overrides.policy config.policy
      deadline := args.overrides.deadlineSeconds.getD config.deadline
      synthesisProvider := chain.1
      synthesisFallbacks := chain.2 }
  selected.validate lib
  .ok selected

/-! ### The lock of a run -/

/-- `RunPolicy.from_dict`: the policy without its deadline, and the deadline. -/
def policyFromDict (value : Dict) : Except PyErr (RunPolicy × Str) := do
  let proposalQuorum ← optional asInt value (lit "proposal_quorum") 3
  let juryQuorum ← optional asInt value (lit "jury_quorum") 3
  let minLineages ← optional asInt value (lit "min_lineages") 3
  let maxCalls ← optional asInt value (lit "max_calls") 16
  let maxParallelCalls ← optional asInt value (lit "max_parallel_calls") 5
  let deadline ← optional asFloat value (lit "deadline_seconds") (lit "900.0")
  let allowPartial ← optional asBool value (lit "allow_partial") true
  let maxQuestionChars ← optional asInt value (lit "max_question_chars") 30000
  let maxStagePromptChars ← optional asInt value (lit "max_stage_prompt_chars") 60000
  let juryRepairAttempts ← optional asInt value (lit "jury_repair_attempts") 0
  let truncationRetries ← optional asInt value (lit "truncation_retries") 1
  let maxRecoveryOutputTokens ← optional asInt value (lit "max_recovery_output_tokens") 8192
  .ok (
    { proposalQuorum := proposalQuorum
      juryQuorum := juryQuorum
      minLineages := minLineages
      maxCalls := maxCalls
      maxParallelCalls := maxParallelCalls
      allowPartial := allowPartial
      maxQuestionChars := maxQuestionChars
      maxStagePromptChars := maxStagePromptChars
      juryRepairAttempts := juryRepairAttempts
      truncationRetries := truncationRetries
      maxRecoveryOutputTokens := maxRecoveryOutputTokens }, deadline)

/-- The stored seats. -/
def storedSeats : Json → Except PyErr (List Seat)
  | .arr items => items.mapM fun j => asDict j >>= Seat.fromDict
  | _ => unreadable

/-- `str(policy.get("synthesis_provider") or default)`. -/
def storedSynthesis (policy : Dict) (default : Str) : Except PyErr Str :=
  match policy.get? (lit "synthesis_provider") with
  | none | some .null | some (.str []) => .ok default
  | some j => asStr j

/-- `policy.get("synthesis_fallbacks", [])`, which must be a list of names. -/
def storedFallbacks (policy : Dict) : Except PyErr (List Str) :=
  match policy.get? (lit "synthesis_fallbacks") with
  | none => .ok []
  | some (.arr items) =>
    match Json.strings? (.arr items) with
    | some names => .ok names
    | none => .error (.valueError (lit "Synthesis provider names must be non-empty strings"))
  | some _ => .error (.valueError (lit "Stored synthesis fallback lock is malformed"))

/-- `_locked_resume_config` of the run's row. -/
def lockedResumeConfig (config : FullConfig) (row : Runs.Row) : Except PyErr FullConfig := do
  let seats ← storedSeats row.providerConfigs
  let requestedMock := config.seats.all Seat.isMock
  let storedMock := seats.all Seat.isMock
  refuse (requestedMock ≠ storedMock)
    (lit "Stored run mode differs from the requested deployment mode")
  checkEach (validateProviderConfig lib.urlparse) seats
  let (policy, deadline) ← policyFromDict row.policy
  let synthesisProvider ← storedSynthesis row.policy config.synthesisProvider
  let synthesisFallbacks ← storedFallbacks row.policy
  let locked : FullConfig :=
    { seats := seats
      policy := policy
      deadline := deadline
      synthesisProvider := synthesisProvider
      synthesisFallbacks := synthesisFallbacks }
  locked.validate lib
  .ok locked

end Config
end CouncilLogic
