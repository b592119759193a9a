/-
# Completed means backed by quorum

A result that says `completed` names candidates and ballots that meet the quorums of the
policy, aggregates exactly its valid ballots, and each of these states what a stored
response of its juror decides.  The result is a copy of what the locks of the run say, and
the locks were checked when they were read.

The result is made by `_build_result` of `src/model_council/engine.py` from the proposals and the
records of the resume that completes the run; the statement is about the result that is stored,
and about the store it is stored in.
-/

import CouncilLogic.Engine.LockFacts
import CouncilLogic.Guarantees.FrozenVote

namespace CouncilLogic

open Protocol

variable {rt : Runtime} {spec : RunSpec} {w w' : World} {st st' : Store}

/-! ### Stored records -/

/-- Whether a record counts does not depend on the order of its keys. -/
theorem isValidRecord_canon_eq (record : Dict) :
    isValidRecord record.canon = isValidRecord record := by
  unfold isValidRecord
  rw [Dict.get?_canon_eq]
  rcases hv : Dict.get? record (lit "valid") with _ | value
  · rfl
  · cases value <;> simp [Json.canon]

/-- The juror of a record does not depend on the order of its keys. -/
theorem jurorOf_canon_eq (record : Dict) : jurorOf record.canon = jurorOf record := by
  unfold jurorOf
  rw [Dict.get?_canon_eq]
  rcases hv : Dict.get? record (lit "juror") with _ | value
  · rfl
  · cases value <;> rfl

/-- The valid ones of stored records, when these are backed by responses. -/
theorem filter_valid_canon {mapping : Mapping} {records : List Dict}
    (h : ∀ record ∈ records, isValidRecord record = true → RecordBacked rt st mapping record) :
    (records.map Dict.canon).filter isValidRecord = records.filter isValidRecord := by
  induction records with
  | nil => rfl
  | cons record records ih =>
    obtain ⟨hfirst, hrest⟩ := List.forall_mem_cons.1 h
    rw [List.map_cons, List.filter_cons, List.filter_cons, isValidRecord_canon_eq, ih hrest]
    by_cases hv : isValidRecord record = true
    · obtain ⟨juror, response, order, artifact, -, -, hrecord⟩ := hfirst hv
      rw [if_pos hv, if_pos hv, hrecord, Dict.canon_canon]
    · rw [if_neg hv, if_neg hv]

/-! ### The locked vote -/

/-- A vote is only locked for named candidates, and its valid ballots are backed. -/
structure Store.VoteBacked (rt : Runtime) (spec : RunSpec) (st : Store) : Prop where
  named : st.NoEvent .adjudicationLocked ∨ (st.namespace? rt spec).isSome = true
  backed : ∀ lock adjudication, st.namespace? rt spec = some lock →
    st.adjudication? rt spec = some adjudication →
      ∀ record ∈ adjudication.records, isValidRecord record = true →
        RecordBacked rt st lock.mapping record

/-- A record that a response backs stays backed. -/
theorem RecordBacked.extends_ {mapping : Mapping} {record : Dict}
    (h : RecordBacked rt st mapping record) (hext : Extends rt spec st st') :
    RecordBacked rt st' mapping record := by
  obtain ⟨juror, response, order, artifact, hs, hrest⟩ := h
  exact ⟨juror, response, order, artifact, hext.successful _ _ _ hs, hrest⟩

/-- The vote stays backed when the locks stay as they are. -/
theorem Store.VoteBacked.congr (h : st.VoteBacked rt spec) (hext : Extends rt spec st st')
    (hnone : st.NoEvent .adjudicationLocked → st'.NoEvent .adjudicationLocked)
    (hns : st'.namespace? rt spec = st.namespace? rt spec)
    (hadj : st'.adjudication? rt spec = st.adjudication? rt spec) : st'.VoteBacked rt spec where
  named := by
    rw [hns]
    exact h.named.imp_left hnone
  backed lock adjudication hl ha record hr hv := by
    rw [hns] at hl
    rw [hadj] at ha
    exact (h.backed lock adjudication hl ha record hr hv).extends_ hext

/-- Every step keeps the vote backed. -/
theorem EngineStep.voteBacked (h : EngineStep rt spec w w') (hinv : Inv rt spec w)
    (hw : w.store.VoteBacked rt spec) : w'.store.VoteBacked rt spec := by
  have hext : Extends rt spec w.store w'.store := (h.keeps hinv).2
  cases h with
  | stage _ s names hs =>
    have hlocks := (hs.keeps hinv.wellFormed).locks
    exact hw.congr hext (noEvent_congr rfl hlocks) (Store.namespace?_congr hlocks)
      (Store.adjudication?_congr hlocks)
  | audit type payload ht =>
    have hlocks : lockEvents (w.store.addEvent type payload).events = lockEvents w.store.events :=
      lockEvents_addEvent (isResumeAudit_isLock ht)
    exact hw.congr hext (noEvent_congr rfl hlocks) (Store.namespace?_congr hlocks)
      (Store.adjudication?_congr hlocks)
  | status => exact hw.congr hext (fun h => h) rfl rfl
  | marker m h =>
    exact hw.congr hext (noEvent_addEvent (by simp)) (namespace?_addEvent (by simp))
      (adjudication?_addEvent (by simp) (by simp))
  | lockNamespace payload hno hread hstored =>
    have hnone : w.store.NoEvent .adjudicationLocked := by
      refine hw.named.resolve_right fun hsome => ?_
      rw [namespace?_eq_none hno] at hsome
      cases hsome
    have hnone' : (w.store.addEvent .candidateNamespaceLocked payload).NoEvent
        .adjudicationLocked := noEvent_addEvent (by simp) hnone
    refine ⟨.inl hnone', fun lock adjudication hl ha => ?_⟩
    rw [World.withStore_store, adjudication?_eq_none hnone'] at ha
    cases ha
  | lockAdjudication payload lock adjudication hno hlock hread hbacked =>
    have hns : (w.store.addEvent .adjudicationLocked payload).namespace? rt spec = some lock := by
      rw [namespace?_addEvent (by simp), hlock]
    constructor
    · right
      rw [World.withStore_store, hns]
      rfl
    · intro lock' adjudication' hl ha record hr hv
      rw [World.withStore_store, hns] at hl
      rw [World.withStore_store, adjudication?_locked hno hlock hread] at ha
      cases hl
      cases ha
      exact (hbacked record hr hv).extends_ hext
  | adjudicate => exact hw
  | advance =>
    exact hw.congr hext (noEvent_addEvent (by simp)) (namespace?_addEvent (by simp))
      (adjudication?_addEvent (by simp) (by simp))
  | finish p result event =>
    have hlocks : lockEvents (w.store.events ++ [⟨.runFinished, event⟩]) =
        lockEvents w.store.events := lockEvents_append (by simp [EventType.isLock])
    refine hw.congr hext (fun hno => ?_) (Store.namespace?_congr hlocks)
      (Store.adjudication?_congr hlocks)
    exact @noEvent_congr w.store _ _ rfl hlocks hno

/-- **The locked vote of a run is backed.** -/
theorem Run.voteBacked (h : Run rt spec w) : w.store.VoteBacked rt spec := by
  refine h.induction (P := fun w => w.store.VoteBacked rt spec) ?_ ?_
  · intro eng draws question st hcreate _
    obtain ⟨rfl, -⟩ := createRun_ok hcreate
    exact ⟨.inl (fun e he => by cases he), fun lock adjudication hl => by cases hl⟩
  · intro w w' _ hinv hmove hw
    rcases hmove with hmove | rfl
    · exact hmove.voteBacked hinv hw
    · exact hw

/-! ### Backed results -/

/-- What a completed result shows, and what of it the store backs. -/
structure Backed (rt : Runtime) (spec : RunSpec) (st : Store) (result : Dict) (mapping : Mapping)
    (records : List Dict) (aggregate : Aggregate) : Prop where
  candidates : result.get? (lit "candidate_namespace") =
    some (.obj [(lit "candidate_label_mapping", Json.canon (.obj mapping.toDict))])
  ballots : result.get? (lit "juries") = some (.arr (records.map .obj))
  aggregated : result.get? (lit "aggregate") =
    some (Json.canon (.obj (aggregateDict (aggregate, mapping))))
  known : mapping.providers.Nodup ∧ mapping.providers ⊆ spec.config.names
  accepted : ∀ name ∈ mapping.providers, (st.artifact? rt name).isSome = true
  proposalQuorum : spec.config.policy.proposalQuorum ≤ mapping.providers.length
  lineages : spec.config.policy.minLineages ≤ (spec.config.lineages mapping.providers).length
  jurors : (records.filterMap jurorOf).Nodup
  juryQuorum : spec.config.policy.juryQuorum ≤ (records.filter isValidRecord).length
  counted : aggregateOf rt mapping records = .ok aggregate
  backed : ∀ record ∈ records, isValidRecord record = true → RecordBacked rt st mapping record

/-- A result that the store backs stays backed. -/
theorem Backed.extends_ {result : Dict} {mapping : Mapping} {records : List Dict}
    {aggregate : Aggregate} (h : Backed rt spec st result mapping records aggregate)
    (hext : Extends rt spec st st') : Backed rt spec st' result mapping records aggregate where
  candidates := h.candidates
  ballots := h.ballots
  aggregated := h.aggregated
  known := h.known
  accepted name hname := by
    obtain ⟨artifact, hartifact⟩ := Option.isSome_iff_exists.1 (h.accepted name hname)
    rw [hext.artifact hartifact]
    rfl
  proposalQuorum := h.proposalQuorum
  lineages := h.lineages
  jurors := h.jurors
  juryQuorum := h.juryQuorum
  counted := h.counted
  backed record hr hv := by
    obtain ⟨juror, response, order, artifact, hs, hrest⟩ := h.backed record hr hv
    exact ⟨juror, response, order, artifact, hext.successful _ _ _ hs, hrest⟩

/-- What a resume puts into its result. -/
structure ResultFields (p : ResultParts) (result : Dict) : Prop where
  status : result.get? (lit "status") = some (.str p.status.name)
  candidates : result.get? (lit "candidate_namespace") = some ((p.candidateMapping.map fun m =>
    Json.obj [(lit "candidate_label_mapping", .obj m.toDict)]).getD .null)
  ballots : result.get? (lit "juries") = some (.arr (p.juryRecords.map .obj))
  aggregated : result.get? (lit "aggregate") =
    some ((p.aggregate.map fun a => Json.obj (aggregateDict a)).getD .null)

/-- What the fields of a result are made from. -/
theorem buildResult_fields {p : ResultParts} {result : Dict}
    (h : buildResult rt spec.config spec st p = .ok result) : ResultFields p result := by
  unfold buildResult at h
  simp only [bind, Except.bind] at h
  split at h
  · cases h
  rename_i retries hretries
  split at h
  · cases h
    exact ⟨rfl, rfl, rfl, rfl⟩
  · split at h
    · cases h
    cases h
    exact ⟨rfl, rfl, rfl, rfl⟩

/-- The ballots a result counts are those of the lock. -/
theorem AdjudicatedOk.valid_eq {mapping : Mapping} {records locked : List Dict}
    (hrecords : records.map Dict.canon = locked.map Dict.canon)
    (hbacked : ∀ record ∈ locked, isValidRecord record = true → RecordBacked rt st mapping record) :
    (records.map Dict.canon).filter isValidRecord = locked.filter isValidRecord := by
  rw [hrecords]
  exact filter_valid_canon hbacked

/-- A completed result is backed when it is stored. -/
theorem FinishOk.backed {p : ResultParts} {result : Dict} (h : FinishOk rt spec w.store p result)
    (hrun : Run rt spec w) (hstatus : p.status = .completed) :
    ∃ mapping records aggregate,
      Backed rt spec w.store result.canon mapping records aggregate := by
  obtain ⟨mapping, aggregate, hmapping, haggregate, hadj, -⟩ := (h.completed hstatus).adjudicated
  obtain ⟨lock, adjudication, hlock, hadjudication, rfl, hrecords, hcounted⟩ := hadj.locked
  obtain ⟨lock', payload, hlock', hevent, hread⟩ := adjudication?_ok hadjudication
  rw [hlock] at hlock'
  cases hlock'
  have hns := namespace?_checked hlock
  have hvote := readAdjudication_checked hread
  have hbacked := hrun.voteBacked.backed lock adjudication hlock hadjudication
  have hvalid := AdjudicatedOk.valid_eq hrecords hbacked
  have hfields := buildResult_fields h.built
  have hjurors : (p.juryRecords.map Dict.canon).filterMap jurorOf =
      adjudication.records.filterMap jurorOf := by
    rw [hrecords, List.filterMap_map]
    exact List.filterMap_congr fun record _ => jurorOf_canon_eq record
  refine ⟨lock.mapping, p.juryRecords.map Dict.canon, aggregate, {
    candidates := ?_
    ballots := ?_
    aggregated := ?_
    known := ⟨hns.nodup, hns.known⟩
    accepted := hrun.inv.complete lock hlock
    proposalQuorum := hns.quorum
    lineages := hns.lineages
    jurors := by
      rw [hjurors]
      exact hvote.nodup
    juryQuorum := ?_
    counted := ?_
    backed := ?_ }⟩
  · rw [Dict.get?_canon_eq, hfields.candidates, hmapping]
    rfl
  · rw [Dict.get?_canon_eq, hfields.ballots, Option.map_some, canon_dicts]
  · rw [Dict.get?_canon_eq, hfields.aggregated, haggregate]
    rfl
  · rw [hvalid]
    exact hvote.quorum.trans (by exact_mod_cast List.length_filterMap_le _ _)
  · unfold aggregateOf at hcounted ⊢
    rwa [hvalid]
  · intro record hr hv
    have hmem : record ∈ adjudication.records.filter isValidRecord := by
      rw [← hvalid]
      exact List.mem_filter.2 ⟨hr, hv⟩
    exact hbacked record (List.mem_filter.1 hmem).1 hv

/-- Only one status is called `completed`. -/
theorem completed_name {status : RunStatus} (h : status.name = lit "completed") :
    status = .completed := by
  cases status <;> first | rfl | exact absurd h (by decide)

/-- A stored result that says `completed` is backed. -/
def Store.CompletedBacked (rt : Runtime) (spec : RunSpec) (st : Store) : Prop :=
  ∀ result, st.run.result = some result →
    result.get? (lit "status") = some (.str (lit "completed")) →
      ∃ mapping records aggregate, Backed rt spec st result mapping records aggregate

/-- Every step keeps completed results backed. -/
theorem EngineStep.completedBacked (h : EngineStep rt spec w w') (hrun : Run rt spec w)
    (hw : w.store.CompletedBacked rt spec) : w'.store.CompletedBacked rt spec := by
  have hext : Extends rt spec w.store w'.store := (h.keeps hrun.inv).2
  have hkept : w'.store.run.result = w.store.run.result → w'.store.CompletedBacked rt spec := by
    intro hsame result hresult hstatus
    obtain ⟨mapping, records, aggregate, hbacked⟩ := hw result (hsame ▸ hresult) hstatus
    exact ⟨mapping, records, aggregate, hbacked.extends_ hext⟩
  cases h with
  | finish p result' event hopen ok =>
    intro result hresult hstatus
    cases hresult
    rw [Dict.get?_canon_eq, (buildResult_fields ok.built).status] at hstatus
    have hname : p.status.name = lit "completed" := by
      simpa [Json.canon] using hstatus
    obtain ⟨mapping, records, aggregate, hbacked⟩ := ok.backed hrun (completed_name hname)
    exact ⟨mapping, records, aggregate, hbacked.extends_ hext⟩
  | stage _ s names hs => exact hkept (by rw [(hs.keeps hrun.inv.wellFormed).run])
  | audit => exact hkept rfl
  | status => exact hkept rfl
  | marker => exact hkept rfl
  | lockNamespace => exact hkept rfl
  | lockAdjudication => exact hkept rfl
  | adjudicate => exact hkept rfl
  | advance => exact hkept rfl

/-- **Completed means backed by quorum.**  In every state of a run, a stored result that
says `completed` has candidates and valid ballots enough for the policy, aggregates exactly
these ballots, counts each juror once, and counts what the stored responses decide. -/
theorem completed_backed {c : Prog.Config World PyErr Question Answer Dict}
    (h : Reachable rt spec c) : c.state.store.CompletedBacked rt spec := by
  refine h.run.induction (P := fun w => w.store.CompletedBacked rt spec) ?_ ?_
  · intro eng draws question st hcreate _ result hresult
    obtain ⟨rfl, -⟩ := createRun_ok hcreate
    cases hresult
  · intro w w' hrun _ hmove hw
    rcases hmove with hmove | rfl
    · exact hmove.completedBacked hrun hw
    · exact hw

/-- The council completes its run: both members have proposed and have voted, one of the
ballots after a repair, and the result counts these two ballots. -/
theorem completed_backed_example : ∃ c : Prog.Config World PyErr Question Answer Dict,
    Reachable exampleRuntime councilSpec c ∧
      ∃ result, c.state.store.run.result = some result ∧
        result.get? (lit "status") = some (.str (lit "completed")) ∧
        ∃ mapping records aggregate,
          Backed exampleRuntime councilSpec c.state.store result mapping records aggregate := by
  obtain ⟨council⟩ := exists_council
  obtain ⟨result, p, hbuilt, hreach⟩ := council.reachable_finished
  have hbuilt : buildResult exampleRuntime councilSpec.config councilSpec council.answered.store
      council.parts = .ok result := hbuilt
  have hfields := buildResult_fields hbuilt
  have hstatus : result.canon.get? (lit "status") = some (.str (lit "completed")) := by
    rw [Dict.get?_canon_eq, hfields.status]
    rfl
  exact ⟨_, hreach, result.canon, rfl, hstatus, completed_backed hreach _ rfl hstatus⟩

end CouncilLogic
