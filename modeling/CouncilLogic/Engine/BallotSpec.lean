/-
# Ballots and their repair

`_parse_and_repair_juries` turns the jury responses into records.  Each juror gets one
record; the record is valid exactly when the juror has no failure, and a valid record
states the decision of the juror's stored response, repaired or not.

In `src/model_council/engine.py` a ballot is accepted as it is, accepted after its prose was
repaired in a call of its own, or reported as failed; the repair is only accepted when the
decision it states is the decision that the first response states already.  Records are built here
and read again by `CouncilLogic.Engine.Locks` when a later resume finds them locked; `RecordFor`
is what both sides agree on.
-/

import CouncilLogic.Engine.LockLaws
import CouncilLogic.Engine.PassSpec

namespace CouncilLogic

open Protocol

variable {rt : Runtime} {spec : RunSpec} {w w' : World} {mapping : Mapping} {juror : Str}
  {response : ProviderResponse} {order : List Str}

/-! ### Records -/

/-- A nullable text is read back as it was written. -/
theorem canon_optStr (s : Option Str) : Json.canon ((s.map Json.str).getD .null) =
    (s.map Json.str).getD .null := by
  cases s <;> rfl

/-- A valid record is a record. -/
theorem validJuryRecord_for (hp : order.Perm mapping.labels) (artifact : JuryArtifact) :
    RecordFor mapping juror (validJuryRecord juror response mapping order artifact) where
  nodup := by
    have hkeys : Dict.keys (validJuryRecord juror response mapping order artifact) =
        judgmentKeys ++ [lit "juror", lit "juror_model", lit "mapping",
          lit "presentation_order", lit "valid"] := rfl
    rw [hkeys]
    simp [judgmentKeys]
  juror := by
    simp [validJuryRecord, recordFields, JuryArtifact.toDict, JuryDecision.toDict, Dict.get?_cons]
  candidates := by
    refine ⟨.obj mapping.toDict, ?_, by simp [Json.same]⟩
    simp [validJuryRecord, recordFields, JuryArtifact.toDict, JuryDecision.toDict, Dict.get?_cons]
  order := by
    refine ⟨order, ?_, hp⟩
    simp [validJuryRecord, recordFields, JuryArtifact.toDict, JuryDecision.toDict, Dict.get?_cons]
  valid := by
    simp [validJuryRecord, recordFields, JuryArtifact.toDict, JuryDecision.toDict, Dict.get?_cons]
  plain := by
    intro key hk value hv
    have hmem := Dict.mem_of_get? hv
    simp only [validJuryRecord, recordFields, JuryArtifact.toDict, JuryDecision.toDict,
      List.cons_append, List.nil_append, List.mem_cons, Prod.mk.injEq, List.not_mem_nil,
      or_false] at hmem
    rcases hmem with ⟨-, rfl⟩ | ⟨-, rfl⟩ | ⟨-, rfl⟩ | ⟨-, rfl⟩ | ⟨-, rfl⟩ | ⟨-, rfl⟩ | ⟨-, rfl⟩ |
      ⟨-, rfl⟩ | ⟨-, rfl⟩ | ⟨rfl, -⟩ | ⟨-, rfl⟩ | ⟨-, rfl⟩
    · exact canon_optStr _
    · exact canon_strings _
    · rfl
    · rfl
    · rfl
    · exact canon_strings _
    · exact canon_strings _
    · rfl
    · rfl
    · simp [judgmentKeys] at hk
    · exact canon_strings _
    · rfl

/-- The record of an accepted ballot counts. -/
theorem isValidRecord_valid (artifact : JuryArtifact) :
    isValidRecord (validJuryRecord juror response mapping order artifact) = true := by
  simp [isValidRecord, validJuryRecord, recordFields, JuryArtifact.toDict, JuryDecision.toDict,
    Dict.get?_cons]

/-- An invalid record is a record. -/
theorem invalidJuryRecord_for (hp : order.Perm mapping.labels) (error : Str) :
    RecordFor mapping juror (invalidJuryRecord juror response mapping order error) where
  nodup := by
    have hkeys : Dict.keys (invalidJuryRecord juror response mapping order error) =
        [lit "juror", lit "juror_model", lit "mapping", lit "presentation_order", lit "valid",
          lit "error"] := rfl
    rw [hkeys]
    simp
  juror := by simp [invalidJuryRecord, recordFields, Dict.get?_cons]
  candidates :=
    ⟨.obj mapping.toDict, by simp [invalidJuryRecord, recordFields, Dict.get?_cons],
      by simp [Json.same]⟩
  order := ⟨order, by simp [invalidJuryRecord, recordFields, Dict.get?_cons], hp⟩
  valid := by simp [invalidJuryRecord, recordFields, Dict.get?_cons]
  plain := by
    intro key hk value hv
    have hmem := Dict.mem_of_get? hv
    simp only [invalidJuryRecord, recordFields, List.cons_append, List.nil_append, List.mem_cons,
      Prod.mk.injEq, List.not_mem_nil, or_false] at hmem
    rcases hmem with ⟨rfl, -⟩ | ⟨rfl, -⟩ | ⟨rfl, -⟩ | ⟨rfl, -⟩ | ⟨rfl, -⟩ | ⟨rfl, -⟩ <;>
      simp [judgmentKeys] at hk

/-- The record of a ballot that was not accepted does not count. -/
theorem isValidRecord_invalid (error : Str) :
    isValidRecord (invalidJuryRecord juror response mapping order error) = false := by
  simp [isValidRecord, invalidJuryRecord, recordFields, Dict.get?_cons]

/-! ### Failures -/

/-- What reports an error has distinct keys, and neither a stage nor a provider among them. -/
theorem keys_reports {d : Dict} {e : ProviderError} (h : Reports d e) :
    d.keys.Nodup ∧ lit "stage" ∉ d.keys ∧ lit "provider" ∉ d.keys := by
  have hnd : (Dict.keys e.toDict).Nodup := by
    rw [ProviderError.keys_toDict]
    simp [providerErrorFields]
  have hs : lit "stage" ∉ Dict.keys e.toDict := by
    rw [ProviderError.keys_toDict]
    simp [providerErrorFields]
  have hp : lit "provider" ∉ Dict.keys e.toDict := by
    rw [ProviderError.keys_toDict]
    simp [providerErrorFields]
  rcases h with rfl | rfl
  · exact ⟨hnd, hs, hp⟩
  · exact ⟨Dict.nodup_keys_canon hnd, by rwa [ProviderError.stored, Dict.mem_keys_canon],
      by rwa [ProviderError.stored, Dict.mem_keys_canon]⟩

/-- An error that is reported is the failure of its stage and provider. -/
theorem failureOf_for {stage : Stage} {provider : Str} {d : Dict} {e : ProviderError}
    (h : Reports d e) : FailureFor stage provider (failureOf stage provider d) := by
  obtain ⟨hnd, hs, hp⟩ := keys_reports h
  refine ⟨?_, by simp [failureOf, Dict.get?_cons], by simp [failureOf, Dict.get?_cons]⟩
  have hkeys : Dict.keys (failureOf stage provider d) = lit "stage" :: lit "provider" :: d.keys :=
    rfl
  rw [hkeys, List.nodup_cons, List.nodup_cons, List.mem_cons, not_or]
  exact ⟨⟨by simp, hs⟩, hp, hnd⟩

/-- The payload of a failure names the stage and the provider it is a failure of. -/
theorem failurePayload_for (stage : Stage) (provider : Str) (e : ProviderError) :
    FailureFor stage provider (failurePayload stage provider e) :=
  failureOf_for (reports_self e)

/-- A failure that gets one field more is still a failure of its slot. -/
theorem FailureFor.set {stage : Stage} {provider key : Str} {d : Dict} {value : Json}
    (h : FailureFor stage provider d) (hs : key ≠ lit "stage") (hp : key ≠ lit "provider") :
    FailureFor stage provider (d.set key value) where
  nodup := Dict.nodup_keys_set h.nodup
  stage := by rw [Dict.get?_set, if_neg (Ne.symm hs), h.stage]
  provider := by rw [Dict.get?_set, if_neg (Ne.symm hp), h.provider]

/-- A failed repair call keeps the failure one of the jury stage. -/
theorem repairCallFailure_for {initial : Dict} (h : FailureFor .jury juror initial)
    (failure : Option Dict) : FailureFor .jury juror (repairCallFailure initial failure) := by
  cases failure with
  | none => exact h
  | some failure =>
    unfold repairCallFailure
    dsimp only
    set kept := failure.filter fun f =>
      f.1 ≠ lit "stage" ∧ f.1 ≠ lit "provider" ∧ f.1 ≠ lit "message" with hkept
    have hnot : ∀ key : Str, (key = lit "stage" ∨ key = lit "provider") → key ∉ Dict.keys kept := by
      intro key hkey hm
      obtain ⟨f, hf, rfl⟩ := List.mem_map.1 hm
      have := (List.mem_filter.1 hf).2
      simp only [decide_eq_true_eq] at this
      exact hkey.elim this.1 this.2.1
    have hupdate : FailureFor .jury juror (Dict.update initial kept) := {
      nodup := Dict.nodup_keys_update h.nodup
      stage := by rw [Dict.get?_update_of_notMem (hnot _ (.inl rfl)), h.stage]
      provider := by rw [Dict.get?_update_of_notMem (hnot _ (.inr rfl)), h.provider] }
    exact ((hupdate.set (by simp) (by simp)).set (by simp) (by simp)).set (by simp) (by simp)

/-- The failures of a stage, in order. -/
theorem failureDicts_for {stage stage' : Stage} {strict : Prop} {st : Store} {r : StageResult}
    (h : ResultOk stage strict st r) :
    List.Forall₂ (FailureFor stage') (r.failures.map Prod.fst) (r.failureDicts stage') := by
  unfold StageResult.failureDicts
  rw [List.forall₂_map_left_iff, List.forall₂_map_right_iff, List.forall₂_same]
  intro f hf
  obtain ⟨e, he, -⟩ := (h.failures f hf).reports
  exact failureOf_for he

/-! ### Reading the responses -/

/-- A response that was read, or cannot be. -/
structure ReadingOk (rt : Runtime) (policy : RunPolicy) (marker : Str) (mapping : Mapping)
    (orders : List (Str × List Str)) (responses : List (Str × ProviderResponse))
    (r : Str × JuryReading) : Prop where
  read : ∃ response, responses.lookup r.1 = some response ∧
    readJury rt policy marker mapping r.1 ((orders.lookup r.1).getD []) response = .ok r.2

/-- There is one reading for every juror that has responded, in the order of the configuration. -/
theorem readJuries_ok {policy : RunPolicy} {marker : Str} {orders : List (Str × List Str)}
    {responses : List (Str × ProviderResponse)} {names : List Str} :
    ∀ {readings}, readJuries rt policy marker mapping orders responses names = .ok readings →
      readings.map Prod.fst = names.filter (fun j => (responses.lookup j).isSome) ∧
      ∀ r ∈ readings, ReadingOk rt policy marker mapping orders responses r := by
  induction names with
  | nil =>
    intro readings h
    cases h
    exact ⟨rfl, by simp⟩
  | cons juror names ih =>
    intro readings h
    unfold readJuries at h
    cases hl : responses.lookup juror with
    | none =>
      rw [hl] at h
      obtain ⟨hfst, hall⟩ := ih h
      exact ⟨by rw [hfst, List.filter_cons_of_neg (by simp [hl])], hall⟩
    | some response =>
      rw [hl] at h
      simp only [bind, Except.bind] at h
      split at h
      · cases h
      rename_i reading hreading
      split at h
      · cases h
      rename_i rest hrest
      cases h
      obtain ⟨hfst, hall⟩ := ih hrest
      refine ⟨by rw [List.map_cons, hfst, List.filter_cons_of_pos (by simp [hl])], ?_⟩
      exact List.forall_mem_cons.2 ⟨⟨response, hl, hreading⟩, hall⟩

/-- What is known of a response that does not parse. -/
structure InvalidOk (rt : Runtime) (marker : Str) (mapping : Mapping) (d : InvalidJury)
    (response : ProviderResponse) (order : List Str) : Prop where
  response_eq : d.response = response
  order_eq : d.presentationOrder = order
  error : ∃ e, parseJury rt response.content mapping.labels = .error e ∧
    ∀ repair, d.repair = some (.ok repair) →
      juryRepairPrompts rt response.content e.message mapping.labels marker = .ok repair

/-- A response is a valid record, or is invalid. -/
theorem readJury_ok {policy : RunPolicy} {marker : Str} {reading : JuryReading}
    (h : readJury rt policy marker mapping juror order response = .ok reading) :
    (∃ artifact, parseJury rt response.content mapping.labels = .ok artifact ∧
      reading = .valid (validJuryRecord juror response mapping order artifact)) ∨
    ∃ d, reading = .invalid d ∧ InvalidOk rt marker mapping d response order := by
  unfold readJury at h
  cases hp : parseJury rt response.content mapping.labels with
  | ok artifact =>
    rw [hp] at h
    cases h
    exact .inl ⟨artifact, rfl, rfl⟩
  | error e =>
    rw [hp] at h
    dsimp only at h
    right
    split at h
    · cases h
    split at h
    · cases h
      exact ⟨_, rfl, rfl, rfl, e, hp, fun repair hr => by cases hr⟩
    split at h
    · rename_i repair hrepair
      cases h
      refine ⟨_, rfl, rfl, rfl, e, hp, fun repair' hr => ?_⟩
      cases hr
      exact hrepair
    · split at h
      · cases h
      · cases h
        exact ⟨_, rfl, rfl, rfl, e, hp, fun repair hr => by cases hr⟩

/-! ### Decisions -/

/-- A ballot that parses states its decision. -/
theorem decides_of_parseJury {text : Str} {labels : List Str} {artifact : JuryArtifact}
    (h : parseJury rt text labels = .ok artifact) : Decides rt labels text artifact.decision := by
  unfold parseJury validateJuryObject at h
  simp only [bind, Except.bind] at h
  split at h
  · cases h
  split at h
  · cases h
  rename_i value hvalue
  split at h
  · cases h
  split at h
  · cases h
  rename_i hkeys
  split at h
  · cases h
  rename_i decision hdecision
  split at h
  · cases h
  split at h
  · cases h
  split at h
  · cases h
  cases h
  exact ⟨_, text, value, .inl rfl, hvalue, hkeys, hdecision⟩

/-- The decision a repair has to keep is the one the response states. -/
theorem decides_of_juryRepairPrompts {text error marker : Str} {labels : List Str}
    {prompts : PromptPair} {decision : JuryDecision}
    (h : juryRepairPrompts rt text error labels marker = .ok (prompts, decision)) :
    Decides rt labels text decision := by
  unfold juryRepairPrompts at h
  simp only [bind, Except.bind] at h
  split at h
  · cases h
  split at h
  · cases h
  split at h
  · cases h
  split at h
  · cases h
  split at h
  · cases h
  split at h
  · cases h
  rename_i value hvalue
  split at h
  · cases h
  rename_i hkeys
  split at h
  · cases h
  rename_i decision' hdecision
  split at h
  · cases h
  rw [Except.ok.injEq, Prod.mk.injEq] at h
  obtain ⟨-, rfl⟩ := h
  exact ⟨_, Str.strip text, value, .inr rfl, hvalue, hkeys, hdecision⟩

/-- **A repair keeps the decision**: the artifact that is read from a repair's response decides as
the ballot that was repaired. -/
theorem readRepair_ok {decision : JuryDecision} {content : Str} {artifact : JuryArtifact}
    (h : readRepair rt mapping decision content = .ok artifact) : artifact.decision = decision := by
  unfold readRepair at h
  simp only [bind, Except.bind] at h
  split at h
  · cases h
  split at h
  · cases h
  rename_i hne
  cases h
  exact not_not.1 hne

/-! ### Between the stages -/

/-- What everything but the locks of a resume leaves as it is. -/
structure Steady (w w' : World) : Prop where
  run : w'.store.run = w.store.run
  locks : lockEvents w'.store.events = lockEvents w.store.events
  successful : ∀ s p r, w.store.successful s p = some r → w'.store.successful s p = some r
  now : w.now ≤ w'.now

/-- A world has the run, the locks and the artifacts that it has. -/
theorem Steady.refl (w : World) : Steady w w := ⟨rfl, rfl, fun _ _ _ h => h, le_rfl⟩

/-- What stays the same twice stays the same. -/
theorem Steady.trans {w'' : World} (h : Steady w w') (h' : Steady w' w'') : Steady w w'' where
  run := h'.run.trans h.run
  locks := h'.locks.trans h.locks
  successful s p r hr := h'.successful s p r (h.successful s p r hr)
  now := h.now.trans h'.now

/-- A store in which only rows have been added or closed extends the one before. -/
theorem Steady.extends_ (h : Steady w w') : Extends rt spec w.store w'.store :=
  .of_lockEvents h.locks.symm h.successful

/-- An artifact that a provider has given stays its artifact. -/
theorem Steady.artifact (h : Steady w w') {provider : Str} {a : ProposalArtifact}
    (ha : w.store.artifact? rt provider = some a) : w'.store.artifact? rt provider = some a := by
  unfold Store.artifact? at ha ⊢
  rw [Option.bind_eq_some_iff] at ha ⊢
  obtain ⟨r, hr, ha⟩ := ha
  exact ⟨r, h.successful _ _ r hr, ha⟩

/-- A stage writes rows and their audits, so the run, its locks and the artifacts of other stages
stay. -/
theorem StageKeeps.steady {stage : Stage} {names : List Str} (h : StageKeeps stage names w w') :
    Steady w w' := ⟨h.run, h.locks, h.successful, h.now⟩

/-- Whether a lock is there depends on the locks in the log alone. -/
theorem noEvent_congr {st st' : Store} {type : EventType} (ht : type.isLock = true)
    (hlock : lockEvents st'.events = lockEvents st.events) (h : st.NoEvent type) :
    st'.NoEvent type := by
  have hnil : (st.events.filter fun e => e.type = type) = [] := by simpa [Store.NoEvent] using h
  have hnil' := (Store.filter_congr hlock ht).trans hnil
  simpa [Store.NoEvent] using hnil'

/-- An audit event leaves everything as it is. -/
theorem steady_audit {type : EventType} (ht : type.isResumeAudit = true) (payload : Dict) :
    Steady w (w.withStore (w.store.addEvent type payload)) :=
  ⟨rfl, lockEvents_addEvent (isResumeAudit_isLock ht), fun _ _ _ h => h, le_rfl⟩

/-- **A stage of a resume.** -/
theorem runStage_spec {eng : CouncilEngine} {args : StageArgs}
    (heng : eng.toRunConfig = spec.config)
    (h : StagePre rt spec args w) :
    Prog.wp (engineRules rt spec)
      (fun x w' => (Inv rt spec w' ∧ Steady w w') ∧
        Done args (args.retryFailedInvocations = false) (args.prompts.map Prod.fst) x [] w')
      (fun _ _ => True) (runParallelStage rt eng args) w := by
  have hstage := wp_framed h.inv (runParallelStage_spec heng h)
  refine Prog.wp_rules (fun _ _ _ => trivial) (fun _ _ hs => EngineStep.stage _ _ _ _ hs)
    (Prog.wp_mono ?_ (fun _ _ h => h) hstage)
  rintro x w' ⟨⟨hinv, hk⟩, hdone⟩
  exact ⟨⟨hinv, hk.steady⟩, hdone⟩

/-! ### Settling -/

/-- What becomes of a juror: a record, and a failure unless it is valid. -/
structure Settled (rt : Runtime) (st : Store) (mapping : Mapping) (juror : Str)
    (o : Dict × Option Dict) : Prop where
  record : RecordFor mapping juror o.1
  valid : isValidRecord o.1 = true ↔ o.2 = none
  failure : ∀ f, o.2 = some f → FailureFor .jury juror f
  backed : isValidRecord o.1 = true → ∃ response order artifact,
    st.successful .jury juror = some response ∧
      Decides rt mapping.labels response.content artifact.decision ∧
      o.1 = validJuryRecord juror response mapping order artifact

/-- What a juror's slot has come to is settled for good. -/
theorem Settled.steady {o : Dict × Option Dict} (h : Settled rt w.store mapping juror o)
    (hk : Steady w w') : Settled rt w'.store mapping juror o where
  record := h.record
  valid := h.valid
  failure := h.failure
  backed hv := by
    obtain ⟨response, order, artifact, hs, hd, ho⟩ := h.backed hv
    exact ⟨response, order, artifact, hk.successful _ _ _ hs, hd, ho⟩

/-- What is reported of a stored response. -/
theorem SlotSuccess.fields {stage : Stage} {st : Store} {provider : Str}
    (h : SlotSuccess stage st provider response) : ∃ r, st.successful stage provider = some r ∧
      r.content = response.content ∧ r.resolvedModel = response.resolvedModel := by
  obtain ⟨r, hr, hsame⟩ := h.stored
  have hcontent := congrArg ProviderResponse.content hsame
  have hmodel := congrArg ProviderResponse.resolvedModel hsame
  exact ⟨r, hr, hcontent, hmodel⟩

/-- A juror whose response is settled. -/
structure Voter (st : Store) (mapping : Mapping) (juror : Str) (response : ProviderResponse)
    (order : List Str) : Prop where
  stored : SlotSuccess .jury st juror response
  order : order.Perm mapping.labels

/-- A valid record is backed by the stored response. -/
theorem settled_valid {st : Store} (h : Voter st mapping juror response order)
    {artifact : JuryArtifact} (hd : Decides rt mapping.labels response.content artifact.decision) :
    Settled rt st mapping juror (validJuryRecord juror response mapping order artifact, none) where
  record := validJuryRecord_for h.order artifact
  valid := by simp [isValidRecord_valid]
  failure f hf := by cases hf
  backed _ := by
    obtain ⟨r, hr, hcontent, hmodel⟩ := h.stored.fields
    refine ⟨r, order, artifact, hr, by rwa [hcontent], ?_⟩
    unfold validJuryRecord recordFields
    rw [hmodel]

/-- A ballot that was not accepted settles its juror with a failure and a record that does not
count. -/
theorem settled_invalid {st : Store} {response' : ProviderResponse} (hp : order.Perm mapping.labels)
    {error : Str} {failure : Dict} (hf : FailureFor .jury juror failure) :
    Settled rt st mapping juror
      (invalidJuryRecord juror response' mapping order error, some failure) where
  record := invalidJuryRecord_for hp error
  valid := by simp [isValidRecord_invalid]
  failure f hf' := by
    cases hf'
    exact hf
  backed hv := by simp [isValidRecord_invalid] at hv

/-- **The outcome of an invalid response**: it stays invalid with a failure, or its
repair keeps the decision the response states. -/
theorem repairOutcome_ok {st : Store} {marker : Str} {d : InvalidJury}
    {repairs : List (Str × PromptPair)} {results : StageResult} {dispatched : List Str}
    {o : RepairOutcome} (hvoter : Voter st mapping juror response order)
    (hd : InvalidOk rt marker mapping d response order)
    (h : repairOutcome rt mapping juror d repairs results dispatched = .ok o) :
    Settled rt st mapping juror (o.record, o.failure) := by
  have hfail : ∀ response error, FailureFor .jury juror
      (juryArtifactFailure juror response error) := fun _ _ => failurePayload_for _ _ _
  obtain ⟨e, -, hrepair⟩ := hd.error
  unfold repairOutcome at h
  rw [hd.order_eq, hd.response_eq] at h
  dsimp only at h
  split at h
  · cases h
    exact settled_invalid hvoter.order (hfail _ _)
  · cases h
    exact settled_invalid hvoter.order (hfail _ _)
  · rename_i prompts decision hsome
    split at h
    · cases h
      exact settled_invalid hvoter.order (hfail _ _)
    split at h
    · split at h
      · rename_i parsed hparsed
        cases h
        refine settled_valid hvoter ?_
        rw [readRepair_ok hparsed]
        exact decides_of_juryRepairPrompts (hrepair _ hsome)
      · split at h
        · cases h
        · cases h
          exact settled_invalid hvoter.order ((hfail _ _).set (by simp) (by simp))
    · cases h
      exact settled_invalid hvoter.order (repairCallFailure_for (hfail _ _) _)

/-- The audit of a repair. -/
theorem persistJuryRepairEvent_spec {payload : Dict} (hinv : Inv rt spec w) :
    Prog.wp (engineRules rt spec) (fun _ w' => Inv rt spec w' ∧ Steady w w')
      (fun _ _ => True) (persistJuryRepairEvent rt payload) w := by
  unfold persistJuryRepairEvent
  rw [Prog.wp_bind, wp_getStore]
  split
  · rw [Prog.wp_bind, wp_transact]
    refine ⟨fun st hst => ?_, fun _ _ => trivial⟩
    obtain rfl := Store.appendEvent_ok hst
    have hstep : EngineStep rt spec w (w.withStore (w.store.addEvent .juryArtifactRepair
        payload.canon)) := .audit w _ _ rfl
    exact ⟨hstep, (hstep.keeps hinv).1, steady_audit rfl _⟩
  · split
    · exact ⟨hinv, .refl w⟩
    · trivial
  · trivial

/-- **Settling the ballots**: every response becomes a record, in order. -/
theorem settleJuries_spec {st : Store} {policy : RunPolicy} {marker : Str}
    {orders : List (Str × List Str)} {responses : List (Str × ProviderResponse)}
    {repairs : List (Str × PromptPair)} {results : StageResult} {dispatched : List Str}
    (hvoter : ∀ j response, responses.lookup j = some response →
      Voter st mapping j response ((orders.lookup j).getD []))
    (readings : List (Str × JuryReading)) :
    ∀ acc w, Inv rt spec w →
      (∀ r ∈ readings, ReadingOk rt policy marker mapping orders responses r) →
      Prog.wp (engineRules rt spec)
        (fun x w' => (Inv rt spec w' ∧ Steady w w') ∧ ∃ outcomes : List (Dict × Option Dict),
          List.Forall₂ (Settled rt st mapping) (readings.map Prod.fst) outcomes ∧
          x.records = acc.records ++ outcomes.map Prod.fst ∧
          x.failures = acc.failures ++ outcomes.filterMap Prod.snd)
        (fun _ _ => True) (settleJuries rt mapping repairs results dispatched readings acc) w := by
  induction readings with
  | nil =>
    intro acc w hinv _
    exact ⟨⟨hinv, .refl w⟩, [], .nil, by simp, by simp⟩
  | cons r readings ih =>
    intro acc w hinv hread
    obtain ⟨juror, reading⟩ := r
    obtain ⟨hfirst, hrest⟩ := List.forall_mem_cons.1 hread
    obtain ⟨response, hlookup, hreading⟩ := hfirst.read
    dsimp only at hlookup hreading
    have hv := hvoter juror response hlookup
    rcases readJury_ok hreading with ⟨artifact, hparse, rfl⟩ | ⟨d, rfl, hd⟩
    · unfold settleJuries
      refine Prog.wp_mono ?_ (fun _ _ h => h) (ih _ w hinv hrest)
      rintro x w' ⟨hk, outcomes, hall, hrec, hfail⟩
      refine ⟨hk, (validJuryRecord juror response mapping ((orders.lookup juror).getD []) artifact,
        none) :: outcomes, .cons (settled_valid hv (decides_of_parseJury hparse)) hall, ?_, ?_⟩
      · rw [hrec, List.append_assoc]
        rfl
      · rw [hfail]
        rfl
    · unfold settleJuries
      rw [Prog.wp_bind, Prog.wp_ofExcept]
      refine ⟨fun o ho => ?_, fun _ _ => trivial⟩
      have hsettled := repairOutcome_ok hv hd ho
      have hnext : ∀ recoveries w₁, Inv rt spec w₁ ∧ Steady w w₁ →
          Prog.wp (engineRules rt spec)
            (fun x w' => (Inv rt spec w' ∧ Steady w w') ∧ ∃ outcomes : List (Dict × Option Dict),
              List.Forall₂ (Settled rt st mapping)
                (((juror, JuryReading.invalid d) :: readings).map Prod.fst) outcomes ∧
              x.records = acc.records ++ outcomes.map Prod.fst ∧
              x.failures = acc.failures ++ outcomes.filterMap Prod.snd)
            (fun _ _ => True) (settleJuries rt mapping repairs results dispatched readings
              ⟨acc.records ++ [o.record], acc.failures ++ o.failure.toList, recoveries⟩) w₁ := by
        rintro recoveries w₁ ⟨hinv₁, hk₁⟩
        refine Prog.wp_mono ?_ (fun _ _ h => h) (ih _ w₁ hinv₁ hrest)
        rintro x w' ⟨⟨hinv', hk⟩, outcomes, hall, hrec, hfail⟩
        refine ⟨⟨hinv', hk₁.trans hk⟩, (o.record, o.failure) :: outcomes, .cons hsettled hall,
          ?_, ?_⟩
        · rw [hrec, List.append_assoc]
          rfl
        · rw [hfail, List.append_assoc]
          cases o.failure <;> rfl
      dsimp only
      split
      · exact hnext _ w ⟨hinv, .refl w⟩
      · exact hnext _ w ⟨hinv, .refl w⟩
      · exact Prog.wp_seq (persistJuryRepairEvent_spec hinv) fun _ w₁ h => hnext _ w₁ h

/-! ### The ballots of a resume -/

/-- Every configured juror has an order, drawn for the run and the juror. -/
theorem lookup_presentationOrders {runId : Str} {names : List Str} {juror : Str}
    (h : juror ∈ names) : (presentationOrders rt runId mapping names).lookup juror =
      some (juryPresentationOrder rt runId juror mapping.labels) := by
  unfold presentationOrders
  induction names with
  | nil => cases h
  | cons name names ih =>
    rw [List.map_cons, List.lookup_cons]
    by_cases hj : juror = name
    · subst hj
      simp
    · have hb : (juror == name) = false := by simpa using hj
      rw [hb]
      exact ih ((List.mem_cons.1 h).resolve_left hj)

/-- A juror is shown all candidates, each of them once. -/
theorem juryPresentationOrder_perm {runId : Str} {labels : List Str} :
    (juryPresentationOrder rt runId juror labels).Perm labels :=
  (rt.shuffled_perm _ _).trans (Str.sorted_perm labels)

/-- The prompts of a repair are those the store determines. -/
theorem expectedPrompts_repair {st : Store} {marker : Str} {lock : NamespaceLock}
    (hmarker : st.marker? = some marker) (hlock : st.namespace? rt spec = some lock)
    (hvoter : SlotSuccess .jury st juror response) {e : PyErr} {prompts : PromptPair}
    {decision : JuryDecision}
    (hparse : parseJury rt response.content lock.mapping.labels = .error e)
    (hrepair : juryRepairPrompts rt response.content e.message lock.mapping.labels marker =
      .ok (prompts, decision)) :
    st.expectedPrompts rt spec .juryRepair juror = some prompts := by
  obtain ⟨r, hr, hcontent, -⟩ := hvoter.fields
  unfold Store.expectedPrompts
  rw [hmarker]
  show (st.namespace? rt spec >>= _) = _
  rw [hlock]
  show (st.successful .jury juror >>= _) = _
  rw [hr]
  rw [Option.bind_eq_bind, Option.bind_some, hcontent, hparse]
  dsimp only
  rw [hrepair]
  rfl

/-- **The ballots of a resume**: the jurors that answered, each with what its response
comes to. -/
theorem parseAndRepairJuries_spec {eng : CouncilEngine} (heng : eng.toRunConfig = spec.config)
    {marker : Str} {lock : NamespaceLock} {responses : List (Str × ProviderResponse)} {deadline : ℤ}
    (hinv : Inv rt spec w) (hmarker : w.store.marker? = some marker)
    (hlock : w.store.namespace? rt spec = some lock) (hopen : w.store.NoEvent .adjudicationLocked)
    (hresponses : ∀ s ∈ responses, SlotSuccess .jury w.store s.1 s.2)
    (hknown : ∀ s ∈ responses, s.1 ∈ spec.config.names) :
    Prog.wp (engineRules rt spec)
      (fun x w' => (Inv rt spec w' ∧ Steady w w') ∧ ∃ outcomes : List (Dict × Option Dict),
        List.Forall₂ (Settled rt w'.store lock.mapping)
          (spec.config.names.filter fun j => (responses.lookup j).isSome) outcomes ∧
        x.records = outcomes.map Prod.fst ∧ x.failures = outcomes.filterMap Prod.snd)
      (fun _ _ => True)
      (parseAndRepairJuries rt eng marker lock.mapping
        (presentationOrders rt spec.id lock.mapping eng.names) responses deadline) w := by
  have hnames : eng.names = spec.config.names := congrArg RunConfig.names heng
  have hvoter : ∀ j response, responses.lookup j = some response →
      Voter w.store lock.mapping j response
        (((presentationOrders rt spec.id lock.mapping eng.names).lookup j).getD []) := by
    intro j response hj
    have hmem := mem_of_lookup hj
    refine ⟨hresponses _ hmem, ?_⟩
    rw [lookup_presentationOrders (by rw [hnames]; exact hknown _ hmem), Option.getD_some]
    exact juryPresentationOrder_perm
  unfold parseAndRepairJuries
  rw [Prog.wp_bind, Prog.wp_ofExcept]
  refine ⟨fun readings hreadings => ?_, fun _ _ => trivial⟩
  obtain ⟨hfst, hread⟩ := readJuries_ok hreadings
  rw [hnames] at hfst
  dsimp only
  set eligible := readings.filterMap fun r => r.2.repairPrompt?.map fun prompts => (r.1, prompts)
    with heligible
  rw [Prog.wp_bind, wp_getStore]
  set repairs := selectRepairs eng.toRunConfig w.store eligible with hrepairs
  have hsub : repairs.Sublist eligible := List.filter_sublist
  have hreadnd : (readings.map Prod.fst).Nodup := by
    rw [hfst]
    exact hinv.accepted.names_nodup.filter _
  have hpre : StagePre rt spec (repairArgs deadline repairs) w := by
    have hentry : ∀ e ∈ repairs, ∃ r ∈ readings, r.1 = e.1 ∧ r.2.repairPrompt? = some e.2 := by
      intro e he
      obtain ⟨r, hr, hsome⟩ := List.mem_filterMap.1 (hsub.subset he)
      obtain ⟨prompts, hprompts, rfl⟩ := Option.map_eq_some_iff.1 hsome
      exact ⟨r, hr, rfl, hprompts⟩
    refine ⟨hinv, ?_, ?_, ?_, fun e _ _ => ⟨by rw [hlock]; rfl, hopen⟩, rfl, fun _ => ⟨rfl, rfl⟩,
      nofun⟩
    · refine (hsub.map Prod.fst).nodup (List.Sublist.nodup ?_ hreadnd)
      rw [heligible]
      clear_value eligible
      clear heligible hrepairs hsub hread hfst hreadings hentry hreadnd
      induction readings with
      | nil => exact .slnil
      | cons r readings ih =>
        cases hp : r.2.repairPrompt? with
        | none =>
          rw [List.filterMap_cons_none (by rw [hp]; rfl), List.map_cons]
          exact ih.cons _
        | some prompts =>
          rw [List.filterMap_cons_some (by rw [hp]; rfl), List.map_cons, List.map_cons]
          exact ih.cons_cons _
    · intro e he
      obtain ⟨r, hr, hname, -⟩ := hentry e he
      have := List.mem_map_of_mem (f := Prod.fst) hr
      rw [hfst, hname] at this
      exact (List.mem_filter.1 this).1
    · intro e he
      obtain ⟨r, hr, hname, hprompts⟩ := hentry e he
      obtain ⟨response, hlookup, hreading⟩ := (hread r hr).read
      rw [hname] at hlookup
      have hs := hresponses _ (mem_of_lookup hlookup)
      rcases readJury_ok hreading with ⟨artifact, -, hvalid⟩ | ⟨d, hinvalid, hd⟩
      · rw [hvalid] at hprompts
        cases hprompts
      · rw [hinvalid] at hprompts
        obtain ⟨error, hparse, hrepair⟩ := hd.error
        obtain ⟨_, _, _, repair⟩ := d
        rcases repair with _ | reason | ⟨prompts, decision⟩
        · cases hprompts
        · cases hprompts
        · cases hprompts
          exact expectedPrompts_repair hmarker hlock hs hparse (hrepair _ rfl)
  have hsettle : ∀ results w₁, Inv rt spec w₁ ∧ Steady w w₁ →
      Prog.wp (engineRules rt spec)
        (fun x w' => (Inv rt spec w' ∧ Steady w w') ∧ ∃ outcomes : List (Dict × Option Dict),
          List.Forall₂ (Settled rt w'.store lock.mapping)
            (spec.config.names.filter fun j => (responses.lookup j).isSome) outcomes ∧
          x.records = outcomes.map Prod.fst ∧ x.failures = outcomes.filterMap Prod.snd)
        (fun _ _ => True) (do
          let st ← getStore
          settleJuries rt lock.mapping repairs results (repairProviders st) readings
            ⟨[], [], []⟩) w₁ := by
    rintro results w₁ ⟨hinv₁, hk₁⟩
    rw [Prog.wp_bind, wp_getStore]
    refine Prog.wp_mono ?_ (fun _ _ h => h)
      (settleJuries_spec hvoter readings _ w₁ hinv₁ hread)
    rintro x w₂ ⟨⟨hinv₂, hk₂⟩, outcomes, hall, hrec, hfail⟩
    rw [hfst] at hall
    exact ⟨⟨hinv₂, hk₁.trans hk₂⟩, outcomes,
      hall.imp fun _ _ h => h.steady (hk₁.trans hk₂), hrec, hfail⟩
  split
  · exact hsettle _ w ⟨hinv, .refl w⟩
  · exact Prog.wp_seq (runStage_spec heng hpre) fun results w₁ h => hsettle results w₁ h.1

end CouncilLogic
