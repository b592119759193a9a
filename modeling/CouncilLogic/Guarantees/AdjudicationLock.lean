/-
# A locked vote that counts

`_load_adjudication_lock` checks the ballots of a locked vote by aggregating them.
`aggregate_juries` raises for a missing field only: a ballot that is malformed is one more
invalid judgment, and the lock is accepted.  The records marked valid therefore all enter
the aggregate exactly when each of them carries a ballot over the candidates.

The reader is `_load_adjudication_lock` of `src/model_council/engine.py`, and what it calls is
`aggregate_juries` of `src/model_council/protocol.py`.  `docs/OPERATIONS.md` says that a resume
rejects missing, duplicate or inconsistent lock records; the lock here is inconsistent and is not
rejected (`adjudicationLock_counts_iff`).
-/

import CouncilLogic.Engine.Creation
import CouncilLogic.Engine.LockFacts
import CouncilLogic.Engine.SelfVotes
import CouncilLogic.Protocol.Fields

namespace CouncilLogic

open Protocol

variable {rt : Runtime} {config : RunConfig} {namespaceLock : NamespaceLock}
  {lock : AdjudicationLock} {labels : List Str} {record payload : Dict}

/-! ### Records that carry a ballot -/

/-- The fields of a record are those of a ballot over the labels. -/
def CarriesBallot (labels : List Str) (record : Dict) : Prop :=
  ∃ a : JuryArtifact, a.CarriedBy record labels

/-- The payload of a judgment has the keys of a judgment. -/
theorem keys_judgmentPayload (h : judgmentPayload record = .ok payload) :
    payload.keys = judgmentKeys := by
  unfold judgmentPayload at h
  generalize judgmentKeys = keys at h ⊢
  induction keys generalizing payload with
  | nil =>
    cases h
    rfl
  | cons k keys ih =>
    rw [List.mapM_cons] at h
    simp only [bind, Except.bind, pure, Except.pure] at h
    split at h
    · cases h
    rename_i e he
    split at h
    · cases h
    rename_i rest hrest
    cases h
    have hk : e.1 = k := by
      split at he
      · cases he
        rfl
      · cases he
    exact congrArg₂ List.cons hk (ih hrest)

/-- The payload of a judgment has the fields of its record. -/
theorem field_judgmentPayload (h : judgmentPayload record = .ok payload) {key : Str}
    (hkey : key ∈ judgmentKeys) : field payload key = field record key := by
  unfold field
  rw [get?_judgmentPayload h key hkey]

/-- Whether a ballot is carried depends on the fields of a judgment alone. -/
theorem carriedBy_congr {a : JuryArtifact} {value value' : Dict}
    (h : ∀ key ∈ judgmentKeys, field value' key = field value key)
    (ha : a.CarriedBy value labels) : a.CarriedBy value' labels where
  fits := ha.fits
  decision := by
    refine ⟨?_, ?_, ?_, ?_⟩
    · rw [h _ (by decide), ha.decision.abstain]
    · rw [h _ (by decide), ha.decision.confidence]
    · rw [h _ (by decide), ha.decision.ranking]
    · rw [h _ (by decide), ha.decision.winner]
  rationale := by
    rw [h _ (by decide)]
    exact ha.rationale
  disagreements := by
    rw [h _ (by decide)]
    exact ha.disagreements
  verification := by
    rw [h _ (by decide)]
    exact ha.verification

/-- **A judgment is accepted** exactly when its record carries a ballot. -/
theorem readEntry_judgment_iff (hlabels : validatedLabels labels = .ok ())
    (h : judgmentPayload record = .ok payload) :
    (∃ a, readEntry rt labels (.obj payload) = .ok a) ↔ CarriesBallot labels record := by
  have hkeys : checkKeys juryKeys payload = .ok () := by
    have hsame := keys_judgmentPayload h
    unfold checkKeys
    rw [hsame]
    decide
  have hfield := fun key hkey => @field_judgmentPayload _ _ h key hkey
  unfold CarriesBallot
  refine exists_congr fun a => ?_
  exact (validateJuryObject_iff hlabels hkeys).trans
    ⟨carriedBy_congr fun key hkey => (hfield key hkey).symm, carriedBy_congr hfield⟩

/-! ### What the loader has checked -/

/-- The records of a payload. -/
def juryRecords (payload : Dict) : List Dict :=
  ((field payload (lit "jury_records")).dicts?).getD []

/-- The records are those of the payload, and they can be aggregated. -/
theorem readAdjudication_aggregate
    (h : readAdjudication rt config namespaceLock payload = .ok lock) :
    lock.records = juryRecords payload ∧
      ∃ aggregate, aggregateOf rt namespaceLock.mapping lock.records = .ok aggregate := by
  unfold readAdjudication at h
  simp only [bind, Except.bind] at h
  split at h
  · cases h
  split at h
  · cases h
  split at h
  · cases h
  split at h
  · cases h
  rename_i records hrecords
  split at h
  · cases h
  split at h
  · cases h
  split at h
  · cases h
  split at h
  · cases h
  split at h
  · rename_i aggregate haggregate
    cases h
    refine ⟨?_, aggregate, haggregate⟩
    unfold juryRecords
    rw [hrecords]
    rfl
  · split at h <;> cases h

/-- As many valid records as jurors of valid records. -/
theorem AdjudicationLock.Checked.length_valid (h : lock.Checked config) :
    (validJurors lock.records).length = (lock.records.filter isValidRecord).length := by
  unfold validJurors
  rw [List.length_filterMap_eq_countP, List.countP_eq_length]
  exact fun record hrecord => h.juror record (List.mem_filter.1 hrecord).1

/-- Each judgment is the payload of one record, in the same order. -/
theorem forall₂_judgmentsOf {records : List Dict} {judgments : List Json}
    (h : judgmentsOf records = .ok judgments) :
    List.Forall₂ (fun record entry => ∃ payload, judgmentPayload record = .ok payload ∧
      entry = .obj payload) records judgments := by
  unfold judgmentsOf at h
  induction records generalizing judgments with
  | nil =>
    cases h
    exact .nil
  | cons record records ih =>
    rw [List.mapM_cons] at h
    simp only [bind, Except.bind, pure, Except.pure] at h
    cases hp : judgmentPayload record with
    | error e =>
      rw [hp] at h
      cases h
    | ok payload =>
      rw [hp] at h
      dsimp only at h
      split at h
      · cases h
      rename_i rest hrest
      cases h
      exact .cons ⟨payload, hp, rfl⟩ (ih hrest)

/-- Entries are all accepted when none is refused. -/
theorem refusedReasons_eq_nil {entries : List Json} :
    refusedReasons rt labels entries = [] ↔
      ∀ entry ∈ entries, ∃ a, readEntry rt labels entry = .ok a := by
  unfold refusedReasons
  rw [List.filterMap_eq_nil_iff]
  refine forall₂_congr fun entry _ => ?_
  cases readEntry rt labels entry with
  | ok a => exact ⟨fun _ => ⟨a, rfl⟩, fun _ => rfl⟩
  | error e => exact ⟨nofun, fun ⟨_, h⟩ => nomatch h⟩

/-- Where every entry is read there are as many ballots as entries. -/
theorem length_acceptedBallots {entries : List Json}
    (h : ∀ entry ∈ entries, ∃ a, readEntry rt labels entry = .ok a) :
    (acceptedBallots rt labels entries).length = entries.length := by
  unfold acceptedBallots
  rw [List.length_filterMap_eq_countP, List.countP_eq_length]
  intro entry hentry
  obtain ⟨a, ha⟩ := h entry hentry
  rw [ha]
  rfl

/-- The judgments are all accepted when the records all carry a ballot. -/
theorem readEntry_judgments_iff {records : List Dict} {judgments : List Json}
    (hlabels : validatedLabels labels = .ok ()) (h : judgmentsOf records = .ok judgments) :
    (∀ entry ∈ judgments, ∃ a, readEntry rt labels entry = .ok a) ↔
      ∀ record ∈ records, CarriesBallot labels record := by
  have hall := forall₂_judgmentsOf h
  clear h
  induction hall with
  | nil => simp
  | cons hhead _ ih =>
    obtain ⟨payload, hpayload, rfl⟩ := hhead
    rw [List.forall_mem_cons, List.forall_mem_cons]
    exact and_congr (readEntry_judgment_iff hlabels hpayload) ih

/-- The invalid judgments of an aggregate: none when every valid record carries a ballot,
and then as many ballots are counted as valid as there are such records. -/
theorem aggregateOf_invalid_iff {mapping : Mapping} {records : List Dict} {aggregate : Aggregate}
    (h : aggregateOf rt mapping records = .ok aggregate) :
    (aggregate.invalidJudgments = 0 ∧
        aggregate.validJudgments = (records.filter isValidRecord).length) ↔
      ∀ record ∈ records, isValidRecord record = true → CarriesBallot mapping.providers record := by
  unfold aggregateOf at h
  simp only [bind, Except.bind] at h
  split at h
  · cases h
  rename_i judgments hjudgments
  have hlabels : validatedLabels mapping.providers = .ok () := by
    unfold aggregateJuries at h
    simp only [bind, Except.bind] at h
    split at h
    · cases h
    · assumption
  have hreadable : Readable rt mapping.providers judgments := by
    unfold aggregateJuries at h
    rw [hlabels] at h
    simp only [bind, Except.bind] at h
    split at h
    · cases h
    · rename_i c hc
      exact readable_of_countEntries hc
  obtain ⟨c, hc, hcounted⟩ := aggregateJuries_ok hlabels hreadable
  rw [hc] at h
  cases h
  have hinvalid : (c.finish rt (sortedByLabel rt mapping.providers)).invalidJudgments =
      (refusedReasons rt mapping.providers judgments).length :=
    congrArg List.length (hcounted.invalidReasons.trans (List.nil_append _))
  have hvalid : (c.finish rt (sortedByLabel rt mapping.providers)).validJudgments =
      (acceptedBallots rt mapping.providers judgments).length :=
    hcounted.validJudgments.trans (Nat.zero_add _)
  have hcarry : (∀ entry ∈ judgments, ∃ a, readEntry rt mapping.providers entry = .ok a) ↔
      ∀ record ∈ records, isValidRecord record = true →
        CarriesBallot mapping.providers record := by
    rw [readEntry_judgments_iff hlabels hjudgments]
    simp only [List.mem_filter, and_imp]
  rw [hinvalid, hvalid, List.length_eq_zero_iff, refusedReasons_eq_nil, ← hcarry]
  refine ⟨And.left, fun haccepted => ⟨haccepted, ?_⟩⟩
  rw [length_acceptedBallots haccepted, (forall₂_judgmentsOf hjudgments).length_eq]

/-! ### The lock -/

/-- The payload of an adjudication that has been loaded. -/
theorem loadAdjudicationLock_payload {events : List Event}
    (h : loadAdjudicationLock rt config (some namespaceLock) events = .ok (some lock)) :
    ∃ e, (events.filter fun e => e.type = .adjudicationLocked) = [e] ∧
      readAdjudication rt config namespaceLock e.payload = .ok lock := by
  unfold loadAdjudicationLock at h
  split at h
  · cases h
  · cases h
  · rename_i e lock' hevents hlock
    cases hlock
    cases hread : readAdjudication rt config namespaceLock e.payload with
    | error _ =>
      rw [hread] at h
      cases h
    | ok lock' =>
      rw [hread] at h
      cases h
      exact ⟨e, hevents, hread⟩
  · cases h

/-- **A locked vote counts** exactly when every record marked valid carries a ballot: its
aggregate, from which synthesis is built, then has no invalid judgment, and counts as many
valid ones as there are such records, at least the quorum. -/
theorem adjudicationLock_counts_iff {events : List Event}
    (h : loadAdjudicationLock rt config (some namespaceLock) events = .ok (some lock)) :
    (∃ aggregate, aggregateOf rt namespaceLock.mapping lock.records = .ok aggregate ∧
        aggregate.invalidJudgments = 0 ∧
        aggregate.validJudgments = (lock.records.filter isValidRecord).length ∧
        config.policy.juryQuorum ≤ aggregate.validJudgments) ↔
      ∀ e ∈ events, e.type = .adjudicationLocked → ∀ record ∈ juryRecords e.payload,
        isValidRecord record = true → CarriesBallot namespaceLock.mapping.providers record := by
  obtain ⟨e, hevents, hread⟩ := loadAdjudicationLock_payload h
  obtain ⟨hrecords, aggregate, haggregate⟩ := readAdjudication_aggregate hread
  have hchecked := readAdjudication_checked hread
  have hquorum : config.policy.juryQuorum ≤ ((lock.records.filter isValidRecord).length : ℤ) := by
    rw [← hchecked.length_valid]
    exact hchecked.quorum
  have hiff := aggregateOf_invalid_iff haggregate
  have hcondition : (∀ e ∈ events, e.type = .adjudicationLocked →
      ∀ record ∈ juryRecords e.payload, isValidRecord record = true →
        CarriesBallot namespaceLock.mapping.providers record) ↔
      ∀ record ∈ lock.records, isValidRecord record = true →
        CarriesBallot namespaceLock.mapping.providers record := by
    have honly : ∀ e', (e' ∈ events ∧ e'.type = .adjudicationLocked) ↔ e' = e := by
      intro e'
      have hmem : e' ∈ events.filter (fun e => e.type = .adjudicationLocked) ↔ e' ∈ [e] := by
        rw [hevents]
      simpa using hmem
    rw [hrecords]
    constructor
    · intro hall
      exact hall e ((honly e).2 rfl).1 ((honly e).2 rfl).2
    · intro hall e' he' htype
      obtain rfl := (honly e').1 ⟨he', htype⟩
      exact hall
  rw [hcondition, ← hiff]
  constructor
  · rintro ⟨aggregate', haggregate', hinvalid, hvalid, -⟩
    rw [haggregate] at haggregate'
    cases haggregate'
    exact ⟨hinvalid, hvalid⟩
  · rintro ⟨hinvalid, hvalid⟩
    exact ⟨aggregate, haggregate, hinvalid, hvalid, hvalid ▸ hquorum⟩

/-! ### A ballot that is locked and not counted -/

/-- The candidates of the example. -/
def soloLock : NamespaceLock := ⟨[(candidateLabel 0, lit "solo")], []⟩

/-- The record of a juror that ranks these, marked valid. -/
def soloRecord (ranking : List Str) : Dict :=
  [(lit "juror", .str (lit "solo")),
    (lit "mapping", .obj soloLock.mapping.toDict),
    (lit "presentation_order", .arr [.str (candidateLabel 0)]),
    (lit "valid", .bool true)] ++
    JuryArtifact.toDict ⟨⟨ranking.head?, ranking, .high, false⟩, lit "clear", [], []⟩

/-- The locks of a run in which this record is all there is of the vote. -/
def soloEvents (ranking : List Str) : List Event :=
  [⟨.candidateNamespaceLocked, namespacePayload soloLock.mapping []⟩,
    ⟨.adjudicationLocked, adjudicationPayload soloLock.mapping [soloRecord ranking] []⟩]

/-- A lock with the one record that ranks the one candidate: it is accepted, and the record
counts. -/
theorem adjudicationLock_counts_iff_example :
    (∃ aggregate, aggregateOf exampleRuntime soloLock.mapping [soloRecord [lit "solo"]] =
        .ok aggregate ∧ aggregate.invalidJudgments = 0 ∧
        aggregate.validJudgments =
          ([soloRecord [lit "solo"]].filter isValidRecord).length ∧
        exampleSpec.config.policy.juryQuorum ≤ aggregate.validJudgments) ↔
      ∀ e ∈ soloEvents [lit "solo"], e.type = .adjudicationLocked →
        ∀ record ∈ juryRecords e.payload, isValidRecord record = true →
          CarriesBallot soloLock.mapping.providers record :=
  @adjudicationLock_counts_iff exampleRuntime exampleSpec.config soloLock
    ⟨[soloRecord [lit "solo"]], []⟩ (soloEvents [lit "solo"]) rfl

/-- **A ranking of somebody else** is locked as the only ballot of a vote with a quorum of
one, and no ballot is counted. -/
theorem adjudicationLock_uncounted : ¬ ∀ (rt : Runtime) (config : RunConfig) (runId : Str)
    (events : List Event) (namespaceLock : NamespaceLock) (lock : AdjudicationLock),
    loadCandidateNamespaceLock rt config runId events = .ok (some namespaceLock) →
    loadAdjudicationLock rt config (some namespaceLock) events = .ok (some lock) →
    ∃ aggregate, aggregateOf rt namespaceLock.mapping lock.records = .ok aggregate ∧
      aggregate.invalidJudgments = 0 ∧ config.policy.juryQuorum ≤ aggregate.validJudgments := by
  intro hclaim
  obtain ⟨aggregate, haggregate, hinvalid, -⟩ := hclaim exampleRuntime exampleSpec.config
    exampleSpec.id (soloEvents [lit "nobody"]) soloLock ⟨[soloRecord [lit "nobody"]], []⟩ rfl rfl
  obtain ⟨c, hc, hone⟩ : ∃ a, aggregateOf exampleRuntime soloLock.mapping
      [soloRecord [lit "nobody"]] = .ok a ∧ a.invalidJudgments = 1 := ⟨_, rfl, rfl⟩
  rw [hc] at haggregate
  cases haggregate
  rw [hone] at hinvalid
  cases hinvalid

end CouncilLogic
