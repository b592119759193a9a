/-
# The steps of a run

An abstract account of what an engine may do to its world, one constructor for each
kind of write with the condition under which it is made.  Nothing here refers to the
engine's control flow: that every write of every resume is such a step is proved
elsewhere, and everything about whole runs follows from the steps alone.

`StageStep` are the steps of one stage over the slots of some providers; `EngineStep`
adds the locks, the transitions of the synthesis chain and the result.

The steps are read off `src/model_council/engine.py`: one constructor for each call of a writing
method of `src/model_council/store.py`, and the hypotheses of the constructor are what the engine
has established by then.
-/

import CouncilLogic.Engine.Calls

namespace CouncilLogic

open Protocol

/-! ### Conditions -/

/-- The calls a dispatch in a stage leaves for later ones: for a proposal all ballots
and the synthesis chain, for a ballot the chain, and in the chain its later slots. -/
def callReserve (config : RunConfig) (stage : Stage) (provider : Str) : ℕ :=
  match stage with
  | .proposal => config.providers.length + config.synthesisProviders.length
  | .jury | .juryRepair => config.synthesisProviders.length
  | .synthesis =>
    config.synthesisProviders.length - config.synthesisProviders.idxOf provider - 1

/-- The provider has no row that is running or has failed ambiguously. -/
def Store.Quiet (st : Store) (provider : Str) : Prop :=
  ∀ stage r, st.slot stage provider = some r → r.state ≠ .running ∧ r.failedAmbiguous = false

/-- There is no event of a type. -/
def Store.NoEvent (st : Store) (type : EventType) : Prop := ∀ e ∈ st.events, e.type ≠ type

/-- The stage is the one the locks of the run have come to. -/
def Store.InPhase (rt : Runtime) (spec : RunSpec) (st : Store) (stage : Stage) (provider : Str) :
    Prop :=
  match stage with
  | .proposal => st.NoEvent .candidateNamespaceLocked
  | .jury | .juryRepair =>
    (st.namespace? rt spec).isSome = true ∧ st.NoEvent .adjudicationLocked
  | .synthesis =>
    (st.adjudication? rt spec).isSome = true ∧
      spec.config.synthesisProviders[(fallbackEvents st.events).length]? = some provider

/-- The provider settings a stage uses. -/
def Stage.providerStage : Stage → Stage
  | .proposal => .proposal
  | .jury | .juryRepair => .jury
  | .synthesis => .synthesis

/-- The configured output limit of a call. -/
def stageLimit (config : RunConfig) (call : Call) : ℤ :=
  ((config.config? call.provider).map fun c => c.outputTokensFor call.providerStage).getD 0

/-- The output limit of a call is the configured one, or the one that is raised after a
truncated response. -/
def LimitOk (config : RunConfig) (st : Store) (call : Call) : Prop :=
  call.outputLimit = stageLimit config call ∨
    isLengthFailure (st.slot call.stage call.provider) = true ∧
      call.outputLimit = recoveryLimit config.policy (stageLimit config call)

/-- A slot that has failed may be called again: never a repair, and after a truncated
response only while the policy has retries left. -/
structure RetryOk (config : RunConfig) (st : Store) (call : Call) : Prop where
  repair : call.stage = .juryRepair → st.slot call.stage call.provider = none
  truncation : isLengthFailure (st.slot call.stage call.provider) = true →
    (st.truncationRetryCount call.stage call.provider : ℤ) < config.policy.truncationRetries

/-- When an invocation may be started. -/
structure StartOk (rt : Runtime) (spec : RunSpec) (st : Store) (call : Call) : Prop where
  provider : call.provider ∈ spec.config.names
  quiet : st.Quiet call.provider
  free : ∀ r, st.slot call.stage call.provider = some r → ∃ e, r.state = .failed e
  budget : (st.countCalls : ℤ) + 1 + callReserve spec.config call.stage call.provider ≤
    spec.config.policy.maxCalls
  prompts : st.expectedPrompts rt spec call.stage call.provider = some call.prompts
  phase : st.InPhase rt spec call.stage call.provider
  settings : call.providerStage = call.stage.providerStage
  limit : LimitOk spec.config st call
  retry : RetryOk spec.config st call

/-- When a provider may be called: its slot is running, started by this resume for this
call, and it is not running or ambiguous anywhere else. -/
structure GenerateOk (spec : RunSpec) (w : World) (call : Call) : Prop
    extends InCall w call CallPhase.Ready where
  quiet : ∀ stage r, stage ≠ call.stage → w.store.slot stage call.provider = some r →
    r.state ≠ .running ∧ r.failedAmbiguous = false
  budget : (w.store.countCalls : ℤ) + callReserve spec.config call.stage call.provider ≤
    spec.config.policy.maxCalls

/-- What the actions of a stage say is true. -/
def ActionOk (rt : Runtime) (spec : RunSpec) (stage : Stage) (w : World) : Action → Prop
  | .enter s prompts before => s = stage ∧ before = w.store ∧
      ∀ e ∈ prompts, w.store.expectedPrompts rt spec stage e.1 = some e.2
  | .overLimit s provider => s = stage ∧ ∃ prompts,
      w.store.expectedPrompts rt spec stage provider = some prompts ∧
        fitsLimit spec.config.policy prompts = false
  | .attempt call before => call.stage = stage ∧ before = w.store ∧ StartOk rt spec w.store call
  | .generate call before => call.stage = stage ∧ before = w.store ∧ GenerateOk spec w call
  | .reserved call attempt => call.stage = stage ∧ ReserveOk w call (· = .started) attempt
  | .granted call attempt => call.stage = stage ∧ ReserveOk w call (· = .asked) attempt
  | .released call => call.stage = stage ∧ InCall w call (· = .leased)
  | .reconciled call => call.stage = stage ∧ InCall w call (· = .called true)
  | .settled call => call.stage = stage ∧ InCall w call CallPhase.Settling
  | .started _ _ | .adjudicated _ _ _ => False

/-- The audit events of a stage. -/
def EventType.isStageAudit : EventType → Bool
  | .truncatedResponsePreserved | .incompleteResponsePreserved | .truncationRecovery => true
  | .runStarted | .workloadPreflight | .untrustedMarker | .providerRetryStarted
  | .providerCallNotDispatched | .juryArtifactRepair | .candidateNamespaceLocked
  | .adjudicationLocked | .synthesisFallbackAdvanced | .runFinished => false

/-- The audit events of a resume outside its stages. -/
def EventType.isResumeAudit : EventType → Bool
  | .runStarted | .workloadPreflight | .juryArtifactRepair => true
  | .truncatedResponsePreserved | .incompleteResponsePreserved | .truncationRecovery
  | .untrustedMarker | .providerRetryStarted | .providerCallNotDispatched
  | .candidateNamespaceLocked | .adjudicationLocked | .synthesisFallbackAdvanced
  | .runFinished => false

/-- The store with one more event. -/
def Store.addEvent (st : Store) (type : EventType) (payload : Dict) : Store :=
  st.withEvents (st.events ++ [⟨type, payload⟩])

/-! ### Steps of a stage -/

/-- The steps of a stage over the slots of `names`. -/
inductive StageStep (rt : Runtime) (spec : RunSpec) (stage : Stage) (names : List Str) :
    World → World → Prop
  /-- Time passes. -/
  | tick (w : World) (elapsed : ℕ) : StageStep rt spec stage names w (w.tick elapsed)
  /-- Something is recorded. -/
  | act (w : World) (a : Action) (ok : ActionOk rt spec stage w a)
      (hname : ∀ call, a.call? = some call → call.provider ∈ names) :
      StageStep rt spec stage names w (w.record a)
  /-- An audit event is appended, and its numbers are printed. -/
  | audit (w : World) (type : EventType) (payload : Dict) (ht : type.isStageAudit = true)
      (hprinted : Json.dumpableFields payload = true) :
      StageStep rt spec stage names w (w.withStore (w.store.addEvent type payload))
  /-- An invocation is started. -/
  | start (w : World) (call : Call) (config : ProviderConfig) (id : ℕ) (st : Store)
      (hname : call.provider ∈ names) (hstage : call.stage = stage)
      (hconfig : spec.config.config? call.provider = some config)
      (ok : StartOk rt spec w.store call)
      (h : w.store.startInvocation rt call.stage call.provider config.model config.lineage
        (combinedPrompt call.prompts) = .ok (id, st)) :
      StageStep rt spec stage names w
        { w.record (.started call w.store) with store := st, live := id :: w.live }
  /-- A call this resume has started succeeds. -/
  | succeed (w : World) (r : Invocation) (response : ProviderResponse)
      (hr : r ∈ w.store.invocations) (hname : r.provider ∈ names) (hstage : r.stage = stage)
      (hrun : r.state = .running) (hlive : r.id ∈ w.live)
      (hphase : (w.phase r.stage r.provider).Done)
      (hstop : response.finishReason = some (lit "stop")) :
      StageStep rt spec stage names w (w.withStore (w.store.updateInvocation r.id
        (Store.setState (.succeeded (Store.storedResponse response)))))
  /-- A call this resume has started fails, or a row an earlier one left running is
  settled as ambiguous. -/
  | fail (w : World) (r : Invocation) (error : ProviderError)
      (hr : r ∈ w.store.invocations) (hname : r.provider ∈ names) (hstage : r.stage = stage)
      (hrun : r.state = .running)
      (hlive : (r.id ∈ w.live ∧ (w.phase r.stage r.provider).Closes error) ∨
        error = priorAmbiguousError) (hencodes : error.Encodes) :
      StageStep rt spec stage names w (w.withStore (w.store.updateInvocation r.id
        (Store.setState (.failed error))))
  /-- A first call was not made: its row is deleted. -/
  | cancel (w : World) (r : Invocation) (payload : Dict)
      (hr : r ∈ w.store.invocations) (hname : r.provider ∈ names) (hstage : r.stage = stage)
      (hrun : r.state = .running) (hlive : r.id ∈ w.live)
      (hphase : (w.phase r.stage r.provider).Unsent) (hcount : r.callCount = 1)
      (hpayload : Store.IsRelease r payload) :
      StageStep rt spec stage names w (w.withStore
        ((w.store.deleteRow r.id).addEvent .providerCallNotDispatched payload))
  /-- A retry was not made: its row is restored. -/
  | restore (w : World) (r : Invocation) (e : ProviderError) (callCount : ℕ) (payload : Dict)
      (hr : r ∈ w.store.invocations) (hname : r.provider ∈ names) (hstage : r.stage = stage)
      (hrun : r.state = .running) (hlive : r.id ∈ w.live)
      (hphase : (w.phase r.stage r.provider).Unsent) (hpos : 1 ≤ callCount)
      (hcount : callCount + 1 = r.callCount) (hprior : e.ambiguous = false)
      (haudit : ∃ event, w.store.events.filter
        (Store.isRetryOf r.stage r.provider r.callCount) = [event] ∧
        event.payload.get? (lit "prior_failure") = some (.obj e.stored))
      (hpayload : Store.IsRelease r payload) (hencodes : e.Encodes) :
      StageStep rt spec stage names w (w.withStore
        ((w.store.updateInvocation r.id (Store.restore e callCount)).withEvents
          (Store.releasedEvents w.store r payload)))

/-! ### Steps of a resume -/

/-- A response text states a decision over the labels. -/
def Decides (rt : Runtime) (labels : List Str) (text : Str) (decision : JuryDecision) : Prop :=
  ∃ name cleaned value, (cleaned = text ∨ cleaned = Str.strip text) ∧
    Decode.extractJsonObject rt name cleaned = .ok value ∧
    checkKeys juryKeys value = .ok () ∧ validateJuryDecision value labels = .ok decision

/-- A locked record counts what its juror's stored response decides. -/
def RecordBacked (rt : Runtime) (st : Store) (mapping : Mapping) (record : Dict) : Prop :=
  ∃ juror response order artifact,
    st.successful .jury juror = some response ∧
    Decides rt mapping.labels response.content artifact.decision ∧
    record = Dict.canon (validJuryRecord juror response mapping order artifact)

/-- The vote a synthesis is built on is the locked one. -/
structure AdjudicatedOk (rt : Runtime) (spec : RunSpec) (st : Store) (mapping : Mapping)
    (records : List Dict) (aggregate : Aggregate) : Prop where
  locked : ∃ lock adjudication, st.namespace? rt spec = some lock ∧
    st.adjudication? rt spec = some adjudication ∧ lock.mapping = mapping ∧
    records.map Dict.canon = adjudication.records.map Dict.canon ∧
    aggregateOf rt mapping adjudication.records = .ok aggregate

/-- A transition of the synthesis chain: the next one, with the error of the slot it
leaves. -/
structure AdvanceOk (spec : RunSpec) (st : Store) (position : ℕ) (fromProvider toProvider : Str)
    (error : ProviderError) : Prop where
  next : position = (fallbackEvents st.events).length + 1
  leaves : spec.config.synthesisProviders[position - 1]? = some fromProvider
  enters : spec.config.synthesisProviders[position]? = some toProvider
  slot : ∀ r, st.slot .synthesis fromProvider = some r → r.state = .failed error

/-- What a completed result rests on. -/
structure CompletedOk (rt : Runtime) (spec : RunSpec) (st : Store) (p : ResultParts) : Prop where
  adjudicated : ∃ mapping aggregate, p.candidateMapping = some mapping ∧
    p.aggregate = some (aggregate, mapping) ∧
    AdjudicatedOk rt spec st mapping p.juryRecords aggregate ∧
    sameMembers (p.proposals.map Proposal.provider) mapping.providers = true
  answered : ∃ name response, name ∈ spec.config.synthesisProviders ∧
    st.successful .synthesis name = some response ∧ p.answer = some response.content

/-- When a result may be stored. -/
structure FinishOk (rt : Runtime) (spec : RunSpec) (st : Store) (p : ResultParts)
    (result : Dict) : Prop where
  built : buildResult rt spec.config spec st p = .ok result
  completed : p.status = .completed → CompletedOk rt spec st p
  unanswered : p.status ≠ .completed → p.answer = none

/-- The run has a completed result. -/
def Store.Completed (st : Store) : Prop := st.run.status = .completed ∧ st.run.result ≠ none

/-- The steps of a resume. -/
inductive EngineStep (rt : Runtime) (spec : RunSpec) : World → World → Prop
  /-- A step of a stage. -/
  | stage (w w' : World) (s : Stage) (names : List Str) (h : StageStep rt spec s names w w') :
      EngineStep rt spec w w'
  /-- An audit event is appended. -/
  | audit (w : World) (type : EventType) (payload : Dict) (ht : type.isResumeAudit = true) :
      EngineStep rt spec w (w.withStore (w.store.addEvent type payload))
  /-- A run that is not completed is set running. -/
  | status (w : World) (h : ¬ w.store.Completed) :
      EngineStep rt spec w (w.withStore (w.store.setRunStatus .running))
  /-- The marker of a run without one. -/
  | marker (w : World) (m : Marker) (h : w.store.marker? = none) :
      EngineStep rt spec w (w.withStore (w.store.addEvent .untrustedMarker
        (Dict.canon [(lit "marker", .str m.text)])))
  /-- The candidates of a run are named: all of them have a stored proposal.  What is
  written can be read, unless the policy wants no candidate at all. -/
  | lockNamespace (w : World) (payload : Dict) (h : w.store.NoEvent .candidateNamespaceLocked)
      (hread : 1 ≤ spec.config.policy.proposalQuorum →
        ∃ lock, readNamespace rt spec.config spec.id payload = .ok lock)
      (hstored : ∀ lock, readNamespace rt spec.config spec.id payload = .ok lock →
        ∀ p ∈ lock.mapping.providers, (w.store.artifact? rt p).isSome = true) :
      EngineStep rt spec w (w.withStore (w.store.addEvent .candidateNamespaceLocked payload))
  /-- The vote of a run is decided. -/
  | lockAdjudication (w : World) (payload : Dict) (lock : NamespaceLock)
      (adjudication : AdjudicationLock) (h : w.store.NoEvent .adjudicationLocked)
      (hlock : w.store.namespace? rt spec = some lock)
      (hread : readAdjudication rt spec.config lock payload = .ok adjudication)
      (hbacked : ∀ record ∈ adjudication.records, isValidRecord record = true →
        RecordBacked rt w.store lock.mapping record) :
      EngineStep rt spec w (w.withStore (w.store.addEvent .adjudicationLocked payload))
  /-- A synthesis is going to be built on the vote. -/
  | adjudicate (w : World) (mapping : Mapping) (records : List Dict) (aggregate : Aggregate)
      (ok : AdjudicatedOk rt spec w.store mapping records aggregate) :
      EngineStep rt spec w (w.record (.adjudicated mapping records aggregate))
  /-- The synthesis moves on to its next provider. -/
  | advance (w : World) (position : ℕ) (fromProvider toProvider : Str) (error : ProviderError)
      (ok : AdvanceOk spec w.store position fromProvider toProvider error) :
      EngineStep rt spec w (w.withStore (w.store.addEvent .synthesisFallbackAdvanced
        (Dict.canon (fallbackPayload position fromProvider toProvider
          (failureOf .synthesis fromProvider error.toDict)))))
  /-- The result is stored. -/
  | finish (w : World) (p : ResultParts) (result event : Dict)
      (hopen : ¬ w.store.Completed) (ok : FinishOk rt spec w.store p result) :
      EngineStep rt spec w (w.withStore { w.store with
        run := { w.store.run with status := p.status, result := some result.canon }
        events := w.store.events ++ [⟨.runFinished, event⟩] })

end CouncilLogic
