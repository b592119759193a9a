/-
# What a resume reads back

The events that make decisions of a run final: the untrusted marker, the candidate
namespace, the adjudication, and the transitions of the synthesis chain.  Each is
written once, and each is checked in full against the configuration and the
invocations whenever it is read.

The functions are `_load_untrusted_marker`, `_load_candidate_namespace`, `_load_adjudication` and
`_load_synthesis_fallbacks` of `src/model_council/engine.py`, with all of their checks in order; a
version is compared as Python does, so that `1`, `1.0` and `True` are the same.  Payloads are
arbitrary dictionaries here, not only those that the engine writes.
-/

import CouncilLogic.Engine.World

namespace CouncilLogic

open Protocol

/-- `random.Random(seed).shuffle(items)`, the seed being derived from a text. -/
def Runtime.shuffled (rt : Runtime) (seed : Str) (items : List Str) : List Str :=
  List.ofFn fun i : Fin items.length => items.get (rt.shuffle seed items.length i)

/-- Shuffling permutes. -/
theorem Runtime.shuffled_perm (rt : Runtime) (seed : Str) (items : List Str) :
    (rt.shuffled seed items).Perm items := by
  have h := (Equiv.Perm.ofFn_comp_perm (rt.shuffle seed items.length) items.get)
  rwa [List.ofFn_get] at h

/-- The keys of a dictionary, as a set, are the expected ones. -/
def Dict.hasKeys (d : Dict) (expected : List Str) : Bool :=
  decide (d.keys ⊆ expected) && decide (expected ⊆ d.keys)

/-- Two lists have the same members. -/
def sameMembers (a b : List Str) : Bool := decide (a ⊆ b) && decide (b ⊆ a)

/-- The strings of a JSON array of strings. -/
def Json.strings? : Json → Option (List Str)
  | .arr items => rankingLabels items
  | _ => none

/-- The dictionaries of a JSON array of dictionaries. -/
def Json.dicts? : Json → Option (List Dict)
  | .arr items => items.mapM fun
    | .obj d => some d
    | _ => none
  | _ => none

/-! ### The untrusted marker -/

/-- The marker of an `untrusted_marker` event: a non-empty string. -/
def markerOf (e : Event) : Option Str :=
  match e.type, e.payload.get? (lit "marker") with
  | .untrustedMarker, some (.str marker) => if marker = [] then none else some marker
  | _, _ => none

/-- `_load_or_create_untrusted_marker`. -/
def loadOrCreateUntrustedMarker (rt : Runtime) (existingEvents : List Event) : M Str :=
  match existingEvents.findSome? markerOf with
  | some marker => pure marker
  | none => do
    let marker : Marker ← Prog.query Question.newMarker
    transact fun st => st.appendEvent rt .untrustedMarker [(lit "marker", .str marker.text)]
    pure marker.text

/-! ### The candidate namespace -/

/-- Labels and the providers behind them, in label order. -/
abbrev Mapping := List (Str × Str)

/-- The mapping as a dictionary. -/
def Mapping.toDict (mapping : Mapping) : Dict := mapping.map fun e => (e.1, .str e.2)

/-- The labels of a mapping. -/
def Mapping.labels (mapping : Mapping) : List Str := mapping.map Prod.fst

/-- The providers of a mapping. -/
def Mapping.providers (mapping : Mapping) : List Str := mapping.map Prod.snd

/-- `mapping[label]`; the labels a program looks up are in the mapping. -/
def Mapping.provider (mapping : Mapping) (label : Str) : Str := (mapping.lookup label).getD label

/-- The provider of a label of the mapping is one of its providers. -/
theorem Mapping.provider_mem {mapping : Mapping} {label : Str} (h : label ∈ mapping.labels) :
    mapping.provider label ∈ mapping.providers := by
  unfold Mapping.provider Mapping.providers
  induction mapping with
  | nil => simp [Mapping.labels] at h
  | cons e mapping ih =>
    rw [List.lookup_cons]
    by_cases he : label = e.1
    · simp [he]
    · have : label ∈ Mapping.labels mapping := by simpa [Mapping.labels, he] using h
      have hb : (label == e.1) = false := by simpa using he
      simp only [hb, List.map_cons, List.mem_cons]
      exact .inr (ih this)

/-- The providers of a list of failures, those that are strings. -/
def failedProviders (failures : List Dict) : List Str :=
  failures.filterMap fun f =>
    match f.get? (lit "provider") with
    | some (.str name) => some name
    | _ => none

/-- Every failure is of the stage and of a configured provider. -/
def failuresBelong (config : RunConfig) (stage : Stage) (failures : List Dict) : Bool :=
  failures.all fun f =>
    decide (f.get? (lit "stage") = some (.str stage.name)) &&
      match f.get? (lit "provider") with
      | some (.str name) => decide (name ∈ config.names)
      | _ => false

/-- `_candidate_mapping(run_id, provider_names)`. -/
def candidateMapping (rt : Runtime) (runId : Str) (providerNames : List Str) : Mapping :=
  let shuffled := rt.shuffled (runId ++ lit ":candidate-label-map-v1") (Str.sorted providerNames)
  (Workload.labelsOf shuffled.length).zip shuffled

/-- `_jury_presentation_order(run_id, juror_name, candidate_labels)`. -/
def juryPresentationOrder (rt : Runtime) (runId jurorName : Str) (labels : List Str) : List Str :=
  rt.shuffled (runId ++ lit ":" ++ jurorName ++ lit ":jury-presentation-v1") (Str.sorted labels)

/-- A candidate namespace that has been read back. -/
structure NamespaceLock where
  mapping : Mapping
  failures : List Dict
  deriving DecidableEq

/-- The mapping of a namespace payload, in label order: the labels are the first
ones, each with a string. -/
def readMapping (raw : Json) : Except PyErr Mapping :=
  match raw with
  | .obj fields =>
    if fields = [] then .error (.valueError (lit "Candidate namespace mapping is malformed"))
    else
      match fields.mapM fun
          | (label, .str provider) => some (label, provider)
          | _ => none with
      | none => .error (.valueError (lit "Candidate namespace mapping is malformed"))
      | some pairs =>
        let expected := Workload.labelsOf pairs.length
        if sameMembers (pairs.map Prod.fst) expected = false then
          .error (.valueError (lit "Candidate namespace labels are malformed"))
        else .ok (expected.filterMap fun label => (pairs.lookup label).map fun p => (label, p))
  | _ => .error (.valueError (lit "Candidate namespace mapping is malformed"))

/-- The checks of a namespace payload. -/
def readNamespace (rt : Runtime) (config : RunConfig) (runId : Str) (payload : Dict) :
    Except PyErr NamespaceLock := do
  if payload.hasKeys [lit "version", lit "candidate_label_mapping", lit "proposal_failures"] =
      false then
    .error (.valueError (lit "Candidate namespace lock is malformed"))
  if (payload.get? (lit "version")).any Json.isOne = false then
    .error (.valueError (lit "Candidate namespace lock version is unsupported"))
  let mapping ← readMapping (field payload (lit "candidate_label_mapping"))
  let selected := mapping.providers
  if ¬ selected.Nodup ∨ ¬ selected ⊆ config.names ∨
      mapping ≠ candidateMapping rt runId selected then
    .error (.valueError (lit "Candidate namespace mapping is inconsistent"))
  if (selected.length : ℤ) < config.policy.proposalQuorum ∨
      ((config.lineages selected).length : ℤ) < config.policy.minLineages then
    .error (.valueError (lit "Candidate namespace does not satisfy quorum"))
  match (field payload (lit "proposal_failures")).dicts? with
  | none => .error (.valueError (lit "Frozen proposal failures are malformed"))
  | some failures =>
    if failuresBelong config .proposal failures = false then
      .error (.valueError (lit "Frozen proposal failures are inconsistent"))
    else if (failedProviders failures).any (· ∈ selected) ∨
        sameMembers (failedProviders failures) (config.names.filter (· ∉ selected)) = false then
      .error (.valueError (lit "Frozen proposal membership is inconsistent"))
    else .ok ⟨mapping, failures⟩

/-- `_load_candidate_namespace_lock(run_id, events)`. -/
def loadCandidateNamespaceLock (rt : Runtime) (config : RunConfig) (runId : Str)
    (events : List Event) : Except PyErr (Option NamespaceLock) :=
  match events.filter fun e => e.type = .candidateNamespaceLocked with
  | [] => .ok none
  | [e] => (readNamespace rt config runId e.payload).map some
  | _ => .error (.valueError (lit "Run contains duplicate candidate namespace locks"))

/-- Payload of `candidate_namespace_locked`. -/
def namespacePayload (mapping : Mapping) (proposalFailures : List Dict) : Dict :=
  [(lit "version", .int 1),
    (lit "candidate_label_mapping", .obj mapping.toDict),
    (lit "proposal_failures", .arr (proposalFailures.map .obj))]

/-- `_lock_candidate_namespace`: written, and read back. -/
def lockCandidateNamespace (rt : Runtime) (config : RunConfig) (runId : Str) (mapping : Mapping)
    (proposalFailures : List Dict) : M NamespaceLock := do
  transact fun st =>
    st.appendEvent rt .candidateNamespaceLocked (namespacePayload mapping proposalFailures)
  let st ← getStore
  match ← Prog.ofExcept (loadCandidateNamespaceLock rt config runId st.events) with
  | some lock => pure lock
  | none => .raise ⟨.assertionError, []⟩

/-! ### The adjudication -/

/-- An adjudication that has been read back. -/
structure AdjudicationLock where
  records : List Dict
  failures : List Dict
  deriving DecidableEq

/-- `jury.get("valid")` of a jury record. -/
def isValidRecord (record : Dict) : Bool := record.get? (lit "valid") = some (.bool true)

/-- `record.get("juror")`, when it is a string. -/
def jurorOf (record : Dict) : Option Str :=
  match record.get? (lit "juror") with
  | some (.str name) => some name
  | _ => none

/-- The fields of a judgment. -/
def judgmentKeys : List Str :=
  [lit "winner", lit "ranking", lit "confidence", lit "abstain", lit "rationale",
    lit "material_disagreements", lit "verification_needed"]

/-- `_judgment_payload(jury)`. -/
def judgmentPayload (jury : Dict) : Except PyErr Dict :=
  judgmentKeys.mapM fun key =>
    match jury.get? key with
    | some value => .ok (key, value)
    | none => .error ⟨.keyError, key⟩

/-- The judgments of records, for `aggregate_juries`. -/
def judgmentsOf (records : List Dict) : Except PyErr (List Json) :=
  records.mapM fun record => do
    let payload ← judgmentPayload record
    .ok (.obj payload)

/-- The per-record checks of an adjudication, `seen` being the jurors before. -/
def checkJuryRecords (config : RunConfig) (mapping : Mapping) (seen : List Str) :
    List Dict → Except PyErr Unit
  | [] => .ok ()
  | record :: records =>
    match jurorOf record, (record.get? (lit "presentation_order")).bind Json.strings? with
    | some juror, some order =>
      if juror ∉ config.names ∨ juror ∈ seen ∨
          ((record.get? (lit "mapping")).map (Json.same (.obj mapping.toDict))) ≠ some true ∨
          order.length ≠ mapping.length ∨ sameMembers order mapping.labels = false ∨
          (record.get? (lit "valid") ≠ some (.bool true) ∧
            record.get? (lit "valid") ≠ some (.bool false)) then
        .error (.valueError (lit "Locked jury records are inconsistent"))
      else checkJuryRecords config mapping (juror :: seen) records
    | _, _ => .error (.valueError (lit "Locked jury records are inconsistent"))

/-- The checks of an adjudication payload. -/
def readAdjudication (rt : Runtime) (config : RunConfig) (namespaceLock : NamespaceLock)
    (payload : Dict) : Except PyErr AdjudicationLock := do
  if payload.hasKeys [lit "version", lit "candidate_label_mapping", lit "jury_records",
      lit "jury_failures"] = false then
    .error (.valueError (lit "Adjudication lock is malformed"))
  if (payload.get? (lit "version")).any Json.isOne = false then
    .error (.valueError (lit "Adjudication lock version is unsupported"))
  let mapping := namespaceLock.mapping
  if Json.same (field payload (lit "candidate_label_mapping")) (.obj mapping.toDict) = false then
    .error (.valueError (lit "Adjudication lock candidate namespace is inconsistent"))
  match (field payload (lit "jury_records")).dicts? with
  | none => .error (.valueError (lit "Locked jury records are malformed"))
  | some records =>
    checkJuryRecords config mapping [] records
    match (field payload (lit "jury_failures")).dicts? with
    | none => .error (.valueError (lit "Locked jury failures are malformed"))
    | some failures =>
      if failuresBelong config .jury failures = false then
        .error (.valueError (lit "Locked jury failures are inconsistent"))
      let failed := failedProviders failures
      let recorded := records.filterMap jurorOf
      let valid := (records.filter isValidRecord).filterMap jurorOf
      let invalid := recorded.filter (· ∉ valid)
      if valid.any (· ∈ failed) ∨ invalid.any (· ∉ failed) ∨
          sameMembers (recorded ++ failed) config.names = false ∨
          (valid.length : ℤ) < config.policy.juryQuorum then
        .error (.valueError (lit "Locked jury membership is inconsistent"))
      match (do
          let judgments ← judgmentsOf (records.filter isValidRecord)
          aggregateJuries rt judgments mapping.providers) with
      | .ok _ => .ok ⟨records, failures⟩
      | .error e =>
        if e.isValueOrType ∨ e.kind = .keyError then
          .error (.valueError (lit "Locked jury judgments are inconsistent"))
        else .error e

/-- `_load_adjudication_lock(run_id, namespace_lock, events)`. -/
def loadAdjudicationLock (rt : Runtime) (config : RunConfig)
    (namespaceLock : Option NamespaceLock) (events : List Event) :
    Except PyErr (Option AdjudicationLock) :=
  match events.filter fun e => e.type = .adjudicationLocked, namespaceLock with
  | [], _ => .ok none
  | _ :: _, none =>
    .error (.valueError (lit "Adjudication lock exists without a candidate namespace"))
  | [e], some lock => (readAdjudication rt config lock e.payload).map some
  | _ :: _ :: _, some _ => .error (.valueError (lit "Run contains duplicate adjudication locks"))

/-- Payload of `adjudication_locked`. -/
def adjudicationPayload (mapping : Mapping) (juryRecords juryFailures : List Dict) : Dict :=
  [(lit "version", .int 1),
    (lit "candidate_label_mapping", .obj mapping.toDict),
    (lit "jury_records", .arr (juryRecords.map .obj)),
    (lit "jury_failures", .arr (juryFailures.map .obj))]

/-- `_lock_adjudication`: written, and read back. -/
def lockAdjudication (rt : Runtime) (config : RunConfig) (runId : Str) (mapping : Mapping)
    (juryRecords juryFailures : List Dict) : M AdjudicationLock := do
  transact fun st =>
    st.appendEvent rt .adjudicationLocked (adjudicationPayload mapping juryRecords juryFailures)
  let st ← getStore
  let namespaceLock ← Prog.ofExcept (loadCandidateNamespaceLock rt config runId st.events)
  match ← Prog.ofExcept (loadAdjudicationLock rt config namespaceLock st.events) with
  | some lock => pure lock
  | none => .raise ⟨.assertionError, []⟩

/-! ### The synthesis chain -/

/-- `{"stage": stage, "provider": name, **error}`. -/
def failureOf (stage : Stage) (provider : Str) (error : Dict) : Dict :=
  (lit "stage", .str stage.name) :: (lit "provider", .str provider) :: error

/-- `_failure_payload(stage, provider_name, error)`. -/
def failurePayload (stage : Stage) (provider : Str) (error : ProviderError) : Dict :=
  failureOf stage provider error.toDict

/-- The error of a failure: everything but its stage and provider. -/
def errorOfFailure (failure : Dict) : Dict :=
  failure.filter fun f => f.1 ≠ lit "stage" ∧ f.1 ≠ lit "provider"

/-- The events of the synthesis chain. -/
def fallbackEvents (events : List Event) : List Event :=
  events.filter fun e => e.type = .synthesisFallbackAdvanced

/-- The keys of a transition. -/
def fallbackKeys : List Str :=
  [lit "version", lit "from_position", lit "from_provider", lit "to_position",
    lit "to_provider", lit "reason_category", lit "ambiguous", lit "failure"]

/-- The error a transition carries: the fields of a `ProviderError`, its category
and ambiguity as the transition states them. -/
def readTransitionError (payload : Dict) : Except PyErr Dict :=
  match field payload (lit "failure") with
  | .obj failure =>
    match Dict.get? failure (lit "message"), Dict.get? failure (lit "retryable"),
        Dict.get? failure (lit "ambiguous") with
    | some (.str _), some (.bool _), some (.bool _) =>
      if Dict.hasKeys failure providerErrorFields = false ∨
          Dict.get? failure (lit "category") ≠ payload.get? (lit "reason_category") ∨
          Dict.get? failure (lit "ambiguous") ≠ payload.get? (lit "ambiguous") then
        .error (.valueError (lit "Synthesis fallback audit failure is inconsistent"))
      else .ok failure
    | _, _, _ => .error (.valueError (lit "Synthesis fallback audit failure is inconsistent"))
  | _ => .error (.valueError (lit "Synthesis fallback audit failure is inconsistent"))

/-- The check of the transition that is expected to leave `position`. -/
def checkTransition (config : RunConfig) (st : Store) (position : ℕ) (payload : Dict) :
    Except PyErr Dict := do
  if payload.hasKeys fallbackKeys = false then
    .error (.valueError (lit "Synthesis fallback audit event is malformed"))
  match config.synthesisProviders[position - 1]?, config.synthesisProviders[position]? with
  | some fromProvider, some toProvider =>
    if (payload.get? (lit "version")).any Json.isOne = false ∨
        payload.get? (lit "from_position") ≠ some (.int position) ∨
        payload.get? (lit "to_position") ≠ some (.int (position + 1)) ∨
        payload.get? (lit "from_provider") ≠ some (.str fromProvider) ∨
        payload.get? (lit "to_provider") ≠ some (.str toProvider) ∨
        (payload.get? (lit "ambiguous") ≠ some (.bool true) ∧
          payload.get? (lit "ambiguous") ≠ some (.bool false)) then
      .error (.valueError (lit "Synthesis fallback audit event is inconsistent"))
    if payload.get? (lit "reason_category") ∉
        ErrorCategory.all.map (fun c => some (Json.str c.value)) then
      .error (.valueError (lit "Synthesis fallback audit event has an invalid category"))
    let failure ← readTransitionError payload
    match st.slot .synthesis fromProvider with
    | none => .ok (failureOf .synthesis fromProvider failure)
    | some r =>
      match r.state with
      | .failed e =>
        if Json.same (.obj e.toDict) (.obj failure) then
          .ok (failureOf .synthesis fromProvider e.stored)
        else
          .error (.valueError
            (lit "Synthesis fallback audit event disagrees with its invocation"))
      | .running | .succeeded _ =>
        .error (.valueError
          (lit "Synthesis fallback audit event disagrees with its invocation"))
  | _, _ => .error (.valueError (lit "Synthesis fallback audit event is inconsistent"))

/-- The transitions in order, the first one leaving `position`. -/
def checkTransitions (config : RunConfig) (st : Store) (position : ℕ) :
    List Event → Except PyErr (List Dict)
  | [] => .ok []
  | e :: events => do
    let failure ← checkTransition config st position e.payload
    let failures ← checkTransitions config st (position + 1) events
    .ok (failure :: failures)

/-- The positions whose slot has succeeded. -/
def successfulPositions (config : RunConfig) (st : Store) : List ℕ :=
  (st.invocations.filter fun r =>
    decide (r.stage = .synthesis) && decide (r.provider ∈ config.synthesisProviders) &&
      match r.state with
      | .succeeded _ => true
      | .running | .failed _ => false).map fun r =>
    config.synthesisProviders.idxOf r.provider + 1

/-- `_load_synthesis_fallback_state`: the current position and the failures of the
earlier ones. -/
def loadSynthesisFallbackState (config : RunConfig) (st : Store) (events : List Event) :
    Except PyErr (ℕ × List Dict) := do
  let transitions := fallbackEvents events
  let failures ← checkTransitions config st 1 transitions
  let current := transitions.length + 1
  match successfulPositions config st with
  | [] => .ok (current, failures)
  | [position] =>
    if position = current then .ok (current, failures)
    else
      .error (.valueError
        (lit "Synthesis fallback audit state disagrees with successful invocations"))
  | _ =>
    .error (.valueError
      (lit "Synthesis fallback audit state disagrees with successful invocations"))

/-- Payload of `synthesis_fallback_advanced`. -/
def fallbackPayload (position : ℕ) (fromProvider toProvider : Str) (failure : Dict) : Dict :=
  [(lit "version", .int 1),
    (lit "from_position", .int position),
    (lit "from_provider", .str fromProvider),
    (lit "to_position", .int (position + 1)),
    (lit "to_provider", .str toProvider),
    (lit "reason_category", field failure (lit "category")),
    (lit "ambiguous", field failure (lit "ambiguous")),
    (lit "failure", .obj (errorOfFailure failure))]

/-- `_persist_synthesis_fallback_event` of the transition that leaves `position`. -/
def persistSynthesisFallbackEvent (rt : Runtime) (config : RunConfig) (position : ℕ)
    (failure : Dict) : M Unit :=
  match config.synthesisProviders[position - 1]?, config.synthesisProviders[position]? with
  | some fromProvider, some toProvider => do
    if failure.get? (lit "stage") ≠ some (.str Stage.synthesis.name) ∨
        failure.get? (lit "provider") ≠ some (.str fromProvider) then
      .raise (.valueError (lit "Synthesis fallback failure is inconsistent"))
    if Dict.hasKeys (errorOfFailure failure) providerErrorFields = false then
      .raise (.valueError (lit "Synthesis fallback failure is malformed"))
    let payload := fallbackPayload position fromProvider toProvider failure
    let st ← getStore
    match (fallbackEvents st.events).filter fun e =>
        e.payload.get? (lit "from_position") = some (.int position) with
    | [] => do
      transact fun st => st.appendEvent rt .synthesisFallbackAdvanced payload
      let st ← getStore
      let _ ← Prog.ofExcept (loadSynthesisFallbackState config st st.events)
      pure ()
    | [e] =>
      if e.payload = payload.canon then pure ()
      else .raise (.valueError (lit "Synthesis fallback audit event is inconsistent"))
    | _ => .raise (.valueError (lit "Run contains duplicate synthesis fallback events"))
  | _, _ => .raise (.valueError (lit "Synthesis fallback failure is inconsistent"))

end CouncilLogic
