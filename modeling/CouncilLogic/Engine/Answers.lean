/-
# What becomes of the answers a task is given

The providers and the gate give fixed answers, whatever the clock and the scheduler do.
A task is fine when all that it was answered can be recorded (`Fine`); in each state this
is known of what is left to be recorded, and the main thread settles a task that is fine
and raises on one that is not.

The limits are those of `CouncilLogic.Store`: a text that is not UTF-8, a number of more than 4300
digits, an integer that SQLite cannot bind, a metadata key that names a credential.  Nothing in
the completion loop of `_run_parallel_stage` in `src/model_council/engine.py` catches what the
store raises, so that one answer which cannot be recorded ends the stage.

The postconditions of raising say which answer it was, or that SQLite's own 64-bit counters have
run out (`Crowded`).
-/

import CouncilLogic.Engine.Recording

namespace CouncilLogic

open Protocol

/-! ### Inputs -/

/-- What is written of a provider's configuration: no text is blank, all are UTF-8, and the
limits can be printed. -/
structure ProviderConfig.Written (c : ProviderConfig) : Prop where
  name : Str.isBlank c.name = false ∧ Str.encodable c.name = true
  model : Str.isBlank c.model = false ∧ Str.encodable c.model = true
  lineage : Str.isBlank c.lineage = false ∧ Str.encodable c.lineage = true
  limits : ∀ stage, (c.outputTokensFor stage).natAbs < Json.intLimit

/-- What the providers answer to calls, what the gate answers, and what giving a lease back
or reconciling it raises. -/
structure StageAnswers where
  generate : Call → ProviderAnswer
  reserve : Call → ℕ → GateAnswer
  release : Call → Option PyErr
  reconcile : Call → Option Str

/-- What is recorded of a call that was not made can be written: its error, which is bound
to the columns of the row when it is ambiguous. -/
structure ProviderError.Refuses (e : ProviderError) : Prop where
  encodes : e.Encodes
  binds : e.ambiguous = true → e.Binds

/-- The gate grants a lease, or refuses with an error that can be recorded. -/
def GateAnswer.Recorded : GateAnswer → Prop
  | .lease => True
  | .denied error => error.Refuses
  | .raised typeName => (gateError typeName).Refuses

/-- What a worker makes of an answer. -/
def ProviderAnswer.received : ProviderAnswer → Option ProviderResponse × Option ProviderError
  | .response r => (some r, none)
  | .invalid => (none, none)
  | .error e => (none, some e)
  | .raised typeName => (none, some (unexpectedError typeName))

/-- What is to be recorded for a call: its answer, unless its lease cannot be reconciled. -/
def StageAnswers.outcome (answers : StageAnswers) (hasGate : Bool) (call : Call) :
    Option ProviderResponse × Option ProviderError :=
  let received := (answers.generate call).received
  if hasGate && !(received.2.any ProviderError.ambiguous) then
    match answers.reconcile call with
    | some typeName => (none, some (reconcileError typeName))
    | none => received
  else received

/-- What is preserved of a response that did not complete. -/
def preservedPayload (policy : RunPolicy) (args : StageArgs) (st : Store) (task : Task)
    (response : ProviderResponse) : Option Dict :=
  if mayRecover policy args st task (some response) then
    some (truncatedPayload task.call response)
  else if args.preserveIncompleteResponses then some (incompletePayload task.call response)
  else none

/-- The store takes all that is recorded of an outcome. -/
def Records (rt : Runtime) (policy : RunPolicy) (args : StageArgs) (st : Store) (task : Task) :
    Option ProviderResponse × Option ProviderError → Prop
  | (_, some error) => error.Fits
  | (none, none) => True
  | (some response, none) =>
    match completionError (some response) with
    | none => response.Stores rt
    | some error => error.Fits ∧ ∀ payload ∈ preservedPayload policy args st task response,
        Dict.Stores rt (lit "$.event") payload

/-- The answer to the call of a task can be recorded. -/
def Recordable (rt : Runtime) (answers : StageAnswers) (eng : CouncilEngine) (args : StageArgs)
    (st : Store) (task : Task) : Prop :=
  Records rt eng.policy args st task (answers.outcome eng.hasGate task.call)

variable {rt : Runtime} {spec : RunSpec} {answers : StageAnswers} {eng : CouncilEngine}
  {P : Call → Prop} {stage : Stage} {provider : Str} {w₀ w w' : World} {args : StageArgs}
  {st : Store} {task : Task} {id attempt : ℕ}

/-- What was done for a slot since `w₀`. -/
def World.newActions (w₀ w : World) (stage : Stage) (provider : Str) : List Action :=
  (w.actionsOf stage provider).drop (w₀.actionsOf stage provider).length

/-- What comes of an action can be recorded; `P` says so of the answer to a call. -/
def Action.Fine (P : Call → Prop) (answers : StageAnswers) : Action → Prop
  | .attempt call _ => Str.encodable (combinedPrompt call.prompts) = true
  | .generate call _ => P call
  | .reserved call attempt => (answers.reserve call attempt).Recorded
  | .released call => answers.release call = none
  | .enter .. | .overLimit .. | .started .. | .granted .. | .reconciled _ | .settled _
  | .adjudicated .. => True

/-- What was done for a slot since `w₀` can all be recorded. -/
def Fine (P : Call → Prop) (answers : StageAnswers) (w₀ w : World) (stage : Stage)
    (provider : Str) : Prop :=
  ∀ a ∈ w₀.newActions w stage provider, a.Fine P answers

/-- Whether an answer can be recorded depends only on what was done for the slot. -/
theorem fine_congr (h : w'.actionsOf stage provider = w.actionsOf stage provider) :
    Fine P answers w₀ w' stage provider ↔ Fine P answers w₀ w stage provider := by
  unfold Fine World.newActions
  rw [h]

/-- What is fine later was fine before. -/
theorem Fine.earlier (h : Fine P answers w₀ w' stage provider) (hlater : w.trace <+: w'.trace) :
    Fine P answers w₀ w stage provider := by
  obtain ⟨more, hmore⟩ := hlater
  intro a ha
  refine h a ?_
  have heq : w'.actionsOf stage provider = w.actionsOf stage provider ++
      more.filter (Action.isOf stage provider) := by
    unfold World.actionsOf
    rw [← hmore, List.filter_append]
  unfold World.newActions at ha ⊢
  rw [heq, List.drop_append]
  exact List.mem_append_left _ ha

/-- Some slot was started more often than Python can print. -/
def Crowded (w : World) : Prop :=
  ∃ stage provider, Json.intLimit ≤ (w.startsOf stage provider).length

/-- Counters that have run out stay so. -/
theorem Crowded.later (h : Crowded w) (hlater : w.trace <+: w'.trace) : Crowded w' := by
  obtain ⟨stage, provider, hle⟩ := h
  exact ⟨stage, provider, hle.trans ((hlater.filter _).filterMap _).length_le⟩

/-! ### Tasks -/

/-- What was done for a task can all be recorded. -/
abbrev TaskFine (P : Call → Prop) (answers : StageAnswers) (w₀ w : World) (task : Task) : Prop :=
  Fine P answers w₀ w task.call.stage task.call.provider

/-- The row of a task that was started, and the number its call has. -/
def Begun (args : StageArgs) (w : World) (task : Task) (id attempt : ℕ) : Prop :=
  ∃ r, w.store.slot args.stage task.call.provider = some r ∧ r.id = id ∧
    StartedFrom w.store r task.prior ∧
    attempt = r.callCount + w.store.notDispatchedCount args.stage task.call.provider

/-- What is known of an outcome: it is the answer to the call, or an error. -/
structure HandedOver (rt : Runtime) (P : Call → Prop) (answers : StageAnswers)
    (eng : CouncilEngine) (args : StageArgs) (st : Store) (w₀ w : World) (task : Task)
    (o : Outcome) : Prop where
  made : o.dispatched = true → o.lease = eng.hasGate ∧
    (o.response, o.error) = (answers.generate task.call).received ∧
    (TaskFine P answers w₀ w task ↔ Recordable rt answers eng args st task)
  unstarted : o.invocationId = none → TaskFine P answers w₀ w task
  unmade : o.dispatched = false → ∀ id attempt, o.invocationId = some id →
    o.reservationAttempt = some attempt → Begun args w task id attempt ∧
      ∀ e, o.error = some e → (TaskFine P answers w₀ w task ↔ e.Refuses)

/-- What is known of what a task was answered, in each state. -/
def AnswerOk (rt : Runtime) (P : Call → Prop) (answers : StageAnswers) (eng : CouncilEngine)
    (args : StageArgs) (st : Store) (w₀ w : World) (task : Task) : TaskState → Prop
  | .queued => TaskFine P answers w₀ w task
  | .started id attempt => TaskFine P answers w₀ w task ∧ Begun args w task id attempt
  | .admitted id attempt lease => TaskFine P answers w₀ w task ∧ Begun args w task id attempt ∧
      lease = eng.hasGate
  | .calling _ _ lease => lease = eng.hasGate ∧
      (TaskFine P answers w₀ w task ↔ Recordable rt answers eng args st task)
  | .finished (.ok o) => HandedOver rt P answers eng args st w₀ w task o
  | .finished (.error _) => ¬ TaskFine P answers w₀ w task
  | .preserved _ _ error _ => TaskFine P answers w₀ w task ↔ error.Fits
  | .settled => TaskFine P answers w₀ w task

/-- The input of a slot is the one its row has. -/
theorem TaskPre.sameInput (hrun : Run rt spec w) (h : TaskPre rt spec args st w task .queued)
    {config : ProviderConfig} (hconfig : spec.config.config? task.call.provider = some config)
    {r : Invocation} (hr : w.store.slot task.call.stage task.call.provider = some r) :
    r.model = config.model ∧ r.lineage = config.lineage ∧
      r.promptSha256 = rt.sha256 (combinedPrompt task.call.prompts) := by
  rw [h.ready.stage] at hr
  obtain ⟨⟨config', hconfig', hmodel, hlineage⟩, prompts, hprompts, hsha⟩ := hrun.sameInput hr
  rw [hconfig] at hconfig'
  rw [h.ready.prompts] at hprompts
  cases hconfig'
  cases hprompts
  exact ⟨hmodel, hlineage, hsha⟩

/-- The row of a task that is running. -/
theorem Running.row (h : Running stage w provider id) (hinv : Inv rt spec w) :
    ∃ r, w.store.getInvocation id = some r ∧ r.state = .running := by
  obtain ⟨⟨r, hslot, rfl, hstate⟩, -⟩ := h
  exact ⟨r, hinv.wellFormed.getInvocation_eq_some.2 ⟨Store.mem_of_slot hslot, rfl⟩, hstate⟩

end CouncilLogic
