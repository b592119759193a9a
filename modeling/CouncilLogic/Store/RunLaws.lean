/-
# What the methods do to the table of runs

Each method either raises and leaves the tables as they were, or returns after one of a few
changes.  From these: ids and keys are unique, a row keeps its id, its digest and its key,
and after any history of calls the result of a run is that of its last `finish_run`.

The methods are those of `src/model_council/store.py` that `src/model_council/cli.py`,
`src/model_council/agent.py` and `src/model_council/service.py` call for whole runs.  A history is
a list of the calls that returned (`Event`), with what they returned; `Steps` relates it to the
tables, so that theorems about "the last call" or "the first call with that key" are about lists.
Calls that raise are not in the list, because they change nothing.
-/

import CouncilLogic.Json.Clean
import CouncilLogic.Lib.HashChain
import CouncilLogic.Lib.Rows
import CouncilLogic.Store.ColumnLaws
import CouncilLogic.Store.Runs

namespace CouncilLogic
namespace Runs

open Transaction Columns
open Protocol (field)

variable {rt : Runtime} {t t' : Tables} {c : CreateCall} {now : Stamp}
  {id runId status decision note : Str} {error : Option Dict} {result d : Dict}

/-! ### Returning -/

/-- How `create_run` returns an id. -/
inductive Created (rt : Runtime) (c : CreateCall) (t : Tables) : Str → Tables → Prop
  | named {r : Row} (hrow : t.run c.id = some r)
      (hsha : r.requestSha256 = rt.sha256 c.request.text) : Created rt c t r.id t
  | keyed {r : Row} (hunknown : t.run c.id = none)
      (hencodable : bindTexts c.idempotencyKey.toList = .ok ())
      (hrow : c.idempotencyKey.bind t.keyed = some r)
      (hsha : r.requestSha256 = rt.sha256 c.request.text)
      (hid : c.runId = none ∨ r.id = c.id) : Created rt c t r.id t
  | inserted (hunknown : t.run c.id = none)
      (hencodable : bindTexts c.idempotencyKey.toList = .ok ())
      (hfree : c.idempotencyKey.bind t.keyed = none) : Created rt c t c.id
        { t with runs := t.runs ++ [createdRow rt c.now c.id c.request c.idempotencyKey] }

/-- A request passes its checks if its texts are not empty, its columns name no credential and
it can be encoded. -/
theorem Request.checks_ok {r : Request} {value : Dict}
    (hquestion : Store.requiredText (lit "question") r.question = .ok ())
    (hid : Store.requiredText (lit "protocol_id") r.protocolId = .ok ())
    (hversion : Store.requiredText (lit "protocol_version") r.protocolVersion = .ok ())
    (hhash : Store.requiredText (lit "protocol_hash") r.protocolHash = .ok ())
    (hproviders : Json.assertNoCredentials rt (lit "$.provider_configs") (.arr r.providerConfigs) =
      .ok ())
    (hpolicy : Json.assertNoCredentials rt (lit "$.policy") (.obj r.policy) = .ok ())
    (hencode : Dict.encode r.value = .ok value) : r.checks rt = .ok () := by
  unfold Request.checks
  rw [hquestion, hid, hversion, hhash, hproviders, hpolicy, hencode]
  rfl

/-- The arguments pass the checks of `create_run`. -/
structure CreateCall.Valid (rt : Runtime) (c : CreateCall) : Prop where
  request : c.request.checks rt = .ok ()
  key : optionalText (lit "idempotency_key") c.idempotencyKey = .ok ()
  named : optionalText (lit "run_id") c.runId = .ok ()
  id : bindTexts [c.id] = .ok ()

/-- With an id that no run has, `create_run` returns the run of its key, or inserts one. -/
theorem createUnknown_ok_iff (hunknown : t.run c.id = none)
    (hencodable : bindTexts c.idempotencyKey.toList = .ok ()) :
    (createUnknown rt c).run t = (.ok id, t') ↔ Created rt c t id t' := by
  unfold createUnknown
  rw [bind_ok_iff]
  constructor
  · rintro ⟨t₀, t₁, hread, h⟩
    obtain ⟨rfl, rfl⟩ := read_ok_iff.1 hread
    cases hrow : c.idempotencyKey.bind t.keyed with
    | some r =>
      rw [hrow] at h
      obtain ⟨_, _, hstep, h⟩ := bind_ok_iff.1 h
      obtain ⟨hsha, rfl⟩ := refuse_ok_iff.1 hstep
      obtain ⟨_, _, hstep, h⟩ := bind_ok_iff.1 h
      obtain ⟨hid, rfl⟩ := refuse_ok_iff.1 hstep
      obtain ⟨rfl, rfl⟩ := pure_ok_iff.1 h
      refine .keyed hunknown hencodable hrow (not_not.1 hsha) ?_
      rcases not_and_or.1 hid with hid | hid
      · exact .inl (not_not.1 hid)
      · exact .inr (not_not.1 hid)
    | none =>
      rw [hrow] at h
      obtain ⟨_, _, hstep, h⟩ := bind_ok_iff.1 h
      obtain rfl := write_ok_iff.1 hstep
      obtain ⟨rfl, rfl⟩ := pure_ok_iff.1 h
      exact .inserted hunknown hencodable hrow
  · intro h
    refine ⟨t, t, read_ok_iff.2 ⟨rfl, rfl⟩, ?_⟩
    cases h with
    | named hrow =>
      rw [hunknown] at hrow
      cases hrow
    | keyed _ _ hrow hsha hid =>
      rw [hrow]
      refine bind_ok_iff.2 ⟨(), t, refuse_ok_iff.2 ⟨not_not.2 hsha, rfl⟩, bind_ok_iff.2
        ⟨(), t, refuse_ok_iff.2 ⟨?_, rfl⟩, pure_ok_iff.2 ⟨rfl, rfl⟩⟩⟩
      rintro ⟨hgiven, hother⟩
      rcases hid with hid | hid
      · exact hgiven hid
      · exact hother hid
    | inserted _ _ hfree =>
      rw [hfree]
      exact bind_ok_iff.2 ⟨(), _, write_ok_iff.2 rfl, pure_ok_iff.2 ⟨rfl, rfl⟩⟩

/-- **`create_run` returns** exactly when the arguments pass its checks, in three ways. -/
theorem createRun_ok_iff : (createRun rt c).run t = (.ok id, t') ↔
    c.Valid rt ∧ Created rt c t id t' := by
  unfold createRun
  constructor
  · intro h
    obtain ⟨_, _, hstep, h⟩ := bind_ok_iff.1 h
    obtain ⟨hrequest, rfl⟩ := check_ok_iff.1 hstep
    obtain ⟨_, _, hstep, h⟩ := bind_ok_iff.1 h
    obtain ⟨hkey, rfl⟩ := check_ok_iff.1 hstep
    obtain ⟨_, _, hstep, h⟩ := bind_ok_iff.1 h
    obtain ⟨hnamed, rfl⟩ := check_ok_iff.1 hstep
    obtain ⟨_, _, hstep, h⟩ := bind_ok_iff.1 (atomically_ok_iff.1 h)
    obtain ⟨hid, rfl⟩ := check_ok_iff.1 hstep
    refine ⟨⟨hrequest, hkey, hnamed, hid⟩, ?_⟩
    obtain ⟨_, _, hstep, h⟩ := bind_ok_iff.1 h
    obtain ⟨rfl, rfl⟩ := read_ok_iff.1 hstep
    cases hrow : t.run c.id with
    | some r =>
      rw [hrow] at h
      obtain ⟨_, _, hstep, h⟩ := bind_ok_iff.1 h
      obtain ⟨hsha, rfl⟩ := refuse_ok_iff.1 hstep
      obtain ⟨rfl, rfl⟩ := pure_ok_iff.1 h
      exact .named hrow (not_not.1 hsha)
    | none =>
      rw [hrow] at h
      obtain ⟨_, _, hstep, h⟩ := bind_ok_iff.1 h
      obtain ⟨hencodable, rfl⟩ := check_ok_iff.1 hstep
      exact (createUnknown_ok_iff hrow hencodable).1 h
  · rintro ⟨hvalid, h⟩
    refine bind_ok_iff.2 ⟨(), t, check_ok_iff.2 ⟨hvalid.request, rfl⟩, bind_ok_iff.2
      ⟨(), t, check_ok_iff.2 ⟨hvalid.key, rfl⟩, bind_ok_iff.2
      ⟨(), t, check_ok_iff.2 ⟨hvalid.named, rfl⟩, atomically_ok_iff.2 (bind_ok_iff.2
      ⟨(), t, check_ok_iff.2 ⟨hvalid.id, rfl⟩, bind_ok_iff.2
      ⟨t, t, read_ok_iff.2 ⟨rfl, rfl⟩, ?_⟩⟩)⟩⟩⟩
    have hunknown : t.run c.id = none → bindTexts c.idempotencyKey.toList = .ok () →
        (check (bindTexts c.idempotencyKey.toList) >>= fun _ => createUnknown rt c :
          Sql Str).run t =
          (.ok id, t') := fun hrow hencodable =>
      bind_ok_iff.2 ⟨(), t, check_ok_iff.2 ⟨hencodable, rfl⟩,
        (createUnknown_ok_iff hrow hencodable).2 h⟩
    cases h with
    | named hrow hsha =>
      rw [hrow]
      exact bind_ok_iff.2 ⟨(), t, refuse_ok_iff.2 ⟨not_not.2 hsha, rfl⟩,
        pure_ok_iff.2 ⟨rfl, rfl⟩⟩
    | keyed hrow hencodable =>
      rw [hrow]
      exact hunknown hrow hencodable
    | inserted hrow hencodable =>
      rw [hrow]
      exact hunknown hrow hencodable

/-- **`set_run_status` returns**: the row of the run has the status. -/
theorem setRunStatus_ok (h : (setRunStatus rt now runId status error).run t = (.ok (), t')) :
    ∃ r error', t.run runId = some r ∧ t' = t.updateRun runId (fun r => { r with
      status := status
      error := error'
      updatedAt := now
      finishedAt := if status ∈ terminalRunStatuses then some now else none }) := by
  unfold setRunStatus at h
  obtain ⟨_, _, hstep, h⟩ := bind_ok_iff.1 h
  obtain ⟨-, rfl⟩ := check_ok_iff.1 hstep
  obtain ⟨error', _, herror, h⟩ := bind_ok_iff.1 h
  obtain ⟨-, rfl⟩ := check_ok_iff.1 herror
  obtain ⟨_, _, hstep, h⟩ := bind_ok_iff.1 (atomically_ok_iff.1 h)
  obtain ⟨-, rfl⟩ := check_ok_iff.1 hstep
  obtain ⟨_, _, hstep, h⟩ := bind_ok_iff.1 h
  obtain ⟨rfl, rfl⟩ := read_ok_iff.1 hstep
  obtain ⟨_, _, hstep, h⟩ := bind_ok_iff.1 h
  obtain ⟨hknown, rfl⟩ := refuse_ok_iff.1 hstep
  obtain ⟨r, hr⟩ := Option.ne_none_iff_exists'.1 hknown
  exact ⟨r, error', hr, (write_ok_iff.1 h).symm⟩

/-- **`finish_run` returns**: the row of the run has the result and its status. -/
theorem finishRun_ok (h : (finishRun rt now runId result).run t = (.ok (), t')) :
    ∃ r status event, t.run runId = some r ∧ resultStatus result = .ok status ∧
      Dict.encode result = .ok result.canon ∧
      t' = { t.updateRun runId (fun r => { r with
          result := some result.canon
          resultSha256 := some (rt.sha256 (canonicalJson result.canon))
          status := status
          error := none
          updatedAt := now
          finishedAt := some now }) with
        events := t.events ++ [event]
        nextEventId := t.nextEventId + 1 } := by
  unfold finishRun at h
  obtain ⟨status, _, hstep, h⟩ := bind_ok_iff.1 h
  obtain ⟨hstatus, rfl⟩ := check_ok_iff.1 hstep
  obtain ⟨_, _, hstep, h⟩ := bind_ok_iff.1 h
  obtain ⟨-, rfl⟩ := check_ok_iff.1 hstep
  obtain ⟨_, _, hstep, h⟩ := bind_ok_iff.1 h
  obtain ⟨-, rfl⟩ := refuse_ok_iff.1 hstep
  obtain ⟨failures, _, hstep, h⟩ := bind_ok_iff.1 h
  obtain ⟨-, rfl⟩ := check_ok_iff.1 hstep
  obtain ⟨value, _, hstep, h⟩ := bind_ok_iff.1 (atomically_ok_iff.1 h)
  obtain ⟨hvalue, rfl⟩ := check_ok_iff.1 hstep
  obtain rfl := Dict.encode_ok hvalue
  obtain ⟨_, _, hstep, h⟩ := bind_ok_iff.1 h
  obtain ⟨-, rfl⟩ := check_ok_iff.1 hstep
  obtain ⟨_, _, hstep, h⟩ := bind_ok_iff.1 h
  obtain ⟨rfl, rfl⟩ := read_ok_iff.1 hstep
  obtain ⟨_, _, hstep, h⟩ := bind_ok_iff.1 h
  obtain ⟨hknown, rfl⟩ := refuse_ok_iff.1 hstep
  obtain ⟨r, hr⟩ := Option.ne_none_iff_exists'.1 hknown
  obtain ⟨_, _, hstep, h⟩ := bind_ok_iff.1 h
  obtain rfl := write_ok_iff.1 hstep
  exact ⟨r, status, _, hr, hstatus, hvalue, (write_ok_iff.1 h).symm⟩

/-- How `record_human_decision` appends a record to the ledger. -/
structure Decided (rt : Runtime) (now : Stamp) (runId decision note : Str) (t : Tables) (r : Row)
    (result aggregate record d : Dict) (t' : Tables) : Prop where
  row : t.run runId = some r
  hasResult : r.result = some result
  aggregated : aggregateField result = .ok aggregate
  recorded : record = decisionRecord rt now runId decision (Str.strip note) r.status result
    aggregate (t.lastRecordSha256 runId)
  returned : d = (lit "id", .int t.nextDecisionId) :: record ++
    [(lit "record_sha256", .str (rt.sha256 (canonicalJson record)))]
  appended : t' = { t with
    decisions := t.decisions ++ [decisionRow rt now t.nextDecisionId runId decision
      (Str.strip note) result aggregate record (t.lastRecordSha256 runId)]
    nextDecisionId := t.nextDecisionId + 1 }

/-- **`record_human_decision` returns**: the run has a result, and the record is appended. -/
theorem recordHumanDecision_ok
    (h : (recordHumanDecision rt now runId decision note).run t = (.ok d, t')) :
    ∃ r result aggregate record,
      Decided rt now runId decision note t r result aggregate record d t' := by
  unfold recordHumanDecision at h
  obtain ⟨_, _, hstep, h⟩ := bind_ok_iff.1 h
  obtain ⟨-, rfl⟩ := check_ok_iff.1 hstep
  obtain ⟨_, _, hstep, h⟩ := bind_ok_iff.1 (atomically_ok_iff.1 h)
  obtain ⟨-, rfl⟩ := check_ok_iff.1 hstep
  obtain ⟨_, _, hstep, h⟩ := bind_ok_iff.1 h
  obtain ⟨rfl, rfl⟩ := read_ok_iff.1 hstep
  split at h
  · obtain ⟨hfail, -⟩ := check_ok_iff.1 h
    cases hfail
  rename_i r hr
  split at h
  · obtain ⟨hfail, -⟩ := check_ok_iff.1 h
    cases hfail
  · obtain ⟨hfail, -⟩ := check_ok_iff.1 h
    cases hfail
  rename_i result _ hresult
  obtain ⟨aggregate, _, hstep, h⟩ := bind_ok_iff.1 h
  obtain ⟨haggregate, rfl⟩ := check_ok_iff.1 hstep
  obtain ⟨_, _, hstep, h⟩ := bind_ok_iff.1 h
  obtain ⟨-, rfl⟩ := check_ok_iff.1 hstep
  obtain ⟨_, _, hstep, h⟩ := bind_ok_iff.1 h
  obtain ⟨-, rfl⟩ := check_ok_iff.1 hstep
  obtain ⟨_, _, hstep, h⟩ := bind_ok_iff.1 h
  obtain ⟨-, rfl⟩ := check_ok_iff.1 hstep
  obtain ⟨_, _, hstep, h⟩ := bind_ok_iff.1 h
  obtain ⟨-, rfl⟩ := refuse_ok_iff.1 hstep
  obtain ⟨_, _, hstep, h⟩ := bind_ok_iff.1 h
  obtain rfl := write_ok_iff.1 hstep
  obtain ⟨rfl, rfl⟩ := pure_ok_iff.1 h
  exact ⟨r, result, aggregate, _, hr, hresult, haggregate, rfl, rfl, rfl⟩

/-! ### Raising -/

/-- `create_run` raises without a trace. -/
theorem createRun_allOrNothing : AllOrNothing (createRun rt c) := by
  refine AllOrNothing.bind (reads_check _) fun _ => AllOrNothing.bind (reads_check _) fun _ => ?_
  exact AllOrNothing.bind (reads_check _) fun _ => AllOrNothing.atomically _

/-- `set_run_status` raises without a trace. -/
theorem setRunStatus_allOrNothing : AllOrNothing (setRunStatus rt now runId status error) := by
  refine AllOrNothing.bind (reads_check _) fun _ => AllOrNothing.bind (reads_check _) fun _ => ?_
  exact AllOrNothing.atomically _

/-- `finish_run` raises without a trace. -/
theorem finishRun_allOrNothing : AllOrNothing (finishRun rt now runId result) := by
  refine AllOrNothing.bind (reads_check _) fun _ => AllOrNothing.bind (reads_check _) fun _ => ?_
  refine AllOrNothing.bind (reads_refuse _ _) fun _ => AllOrNothing.bind (reads_check _) fun _ => ?_
  exact AllOrNothing.atomically _

/-- `record_human_decision` raises without a trace. -/
theorem recordHumanDecision_allOrNothing :
    AllOrNothing (recordHumanDecision rt now runId decision note) :=
  AllOrNothing.bind (reads_check _) fun _ => AllOrNothing.atomically _

/-! ### Histories -/

/-- A call that has returned.  One that raises leaves the tables as they were. -/
inductive Event
  | created (c : CreateCall) (id : Str)
  | marked (now : Stamp) (runId status : Str) (error : Option Dict)
  | finished (now : Stamp) (runId : Str) (result : Dict)
  | decided (now : Stamp) (runId decision note : Str) (d : Dict)

/-- The call returns so from one state of the tables, and leaves another. -/
def Event.Happens (rt : Runtime) : Event → Tables → Tables → Prop
  | .created c id, t, t' => (createRun rt c).run t = (.ok id, t')
  | .marked now runId status error, t, t' =>
    (setRunStatus rt now runId status error).run t = (.ok (), t')
  | .finished now runId result, t, t' => (finishRun rt now runId result).run t = (.ok (), t')
  | .decided now runId decision note d, t, t' =>
    (recordHumanDecision rt now runId decision note).run t = (.ok d, t')

/-- Calls that return one after another. -/
inductive Steps (rt : Runtime) : Tables → List Event → Tables → Prop
  | nil {t : Tables} : Steps rt t [] t
  | cons {t t₁ t' : Tables} {e : Event} {events : List Event} (he : e.Happens rt t t₁)
      (h : Steps rt t₁ events t') : Steps rt t (e :: events) t'

variable {e : Event} {events past later : List Event}

/-- A history can be cut at each of its calls. -/
theorem Steps.split (h : Steps rt t (past ++ e :: later) t') :
    ∃ t₁ t₂, Steps rt t past t₁ ∧ e.Happens rt t₁ t₂ ∧ Steps rt t₂ later t' := by
  induction past generalizing t with
  | nil =>
    cases h with
    | cons he h => exact ⟨t, _, .nil, he, h⟩
  | cons first past ih =>
    cases h with
    | cons hfirst h =>
      obtain ⟨t₁, t₂, hpast, he, hlater⟩ := ih h
      exact ⟨t₁, t₂, .cons hfirst hpast, he, hlater⟩

/-- Histories can be put one behind the other. -/
theorem Steps.append {t₁ : Tables} (h : Steps rt t past t₁) (h' : Steps rt t₁ later t') :
    Steps rt t (past ++ later) t' := by
  induction h with
  | nil => exact h'
  | cons he _ ih => exact .cons he (ih h')

/-- **What every call keeps**, of the tables and the calls so far, holds after all of them. -/
theorem Steps.invariant {P : List Event → Tables → Prop}
    (hstep : ∀ {past e t t'}, P past t → e.Happens rt t t' → P (past ++ [e]) t')
    (h : Steps rt t events t') (hpast : P past t) : P (past ++ events) t' := by
  induction h generalizing past with
  | nil => rwa [List.append_nil]
  | @cons t t₁ t' e events he _ ih =>
    rw [List.append_cons]
    exact ih (hstep hpast he)

/-- The same from the start of a history. -/
theorem Steps.history {P : List Event → Tables → Prop}
    (hstep : ∀ {past e t t'}, P past t → e.Happens rt t t' → P (past ++ [e]) t')
    (h : Steps rt t events t') (hstart : P [] t) : P events t' := by
  have hall := h.invariant hstep hstart
  exact hall

/-! ### Identities -/

/-- What never changes about a run: its id, the digest of its request and its key. -/
structure Identity where
  id : Str
  requestSha256 : Str
  key : Option Str

def Row.identity (r : Row) : Identity := ⟨r.id, r.requestSha256, r.idempotencyKey⟩

def Tables.identities (t : Tables) : List Identity := t.runs.map Row.identity

/-- An update of other columns keeps the identities. -/
theorem identities_updateRun {f : Row → Row} (hf : ∀ r, (f r).identity = r.identity) :
    (t.updateRun runId f).identities = t.identities := by
  unfold Tables.identities Tables.updateRun Rows.change
  rw [List.map_map]
  refine List.map_congr_left fun r _ => ?_
  simp only [Function.comp_apply]
  split
  · exact hf r
  · rfl

/-- A call adds at most one identity: that of the run it inserts. -/
theorem Event.Happens.identities (h : e.Happens rt t t') : t'.identities = t.identities ∨
    ∃ c : CreateCall, c.Valid rt ∧ t.run c.id = none ∧ bindTexts c.idempotencyKey.toList = .ok () ∧
      c.idempotencyKey.bind t.keyed = none ∧ t'.identities = t.identities ++
        [⟨c.id, rt.sha256 c.request.text, c.idempotencyKey⟩] := by
  cases e with
  | created c id =>
    obtain ⟨hvalid, hcreated⟩ := createRun_ok_iff.1 h
    cases hcreated with
    | named => exact .inl rfl
    | keyed => exact .inl rfl
    | inserted hunknown hencodable hfree =>
      exact .inr ⟨c, hvalid, hunknown, hencodable, hfree, List.map_append⟩
  | marked now runId status error =>
    obtain ⟨_, _, -, rfl⟩ := setRunStatus_ok h
    exact .inl (identities_updateRun fun _ => rfl)
  | finished now runId result =>
    obtain ⟨_, _, _, -, -, -, rfl⟩ := finishRun_ok h
    exact .inl (identities_updateRun (t := t) fun _ => rfl)
  | decided now runId decision note d =>
    obtain ⟨_, _, _, _, hdecided⟩ := recordHumanDecision_ok h
    rw [hdecided.appended]
    exact .inl rfl

/-- **Identities stay**: calls only append to them. -/
theorem Steps.identities (h : Steps rt t events t') : t.identities <+: t'.identities := by
  induction h with
  | nil => exact List.prefix_rfl
  | cons he _ ih =>
    refine List.IsPrefix.trans ?_ ih
    rcases he.identities with heq | ⟨_, -, -, -, -, heq⟩
    · rw [heq]
    · rw [heq]
      exact List.prefix_append _ _

/-- Ids and keys are those of one run only, and can be given to a later call. -/
structure IdentityInv (l : List Identity) : Prop where
  ids : (l.map Identity.id).Nodup
  keys : l.Pairwise fun a b => a.key ≠ none → a.key ≠ b.key
  named : ∀ i ∈ l, Str.isBlank i.id = false ∧ Str.encodable i.id = true
  keyed : ∀ i ∈ l, bindTexts i.key.toList = .ok ()

/-- No two runs share a key. -/
theorem IdentityInv.key_inj {l : List Identity} (h : IdentityInv l) {a b : Identity} {key : Str}
    (ha : a ∈ l) (hb : b ∈ l) (hakey : a.key = some key) (hbkey : b.key = some key) : a = b := by
  by_contra hne
  have : Std.Symm fun a b : Identity => a.key ≠ none → a.key ≠ b.key :=
    ⟨fun a b hab hb heq => hab (heq ▸ hb) heq.symm⟩
  have hdiff := h.keys.forall ha hb hne
  rw [hakey, hbkey] at hdiff
  exact hdiff nofun rfl

/-- Ids of rows are ids of identities. -/
theorem unique_id_iff : Rows.Unique Row.id t.runs ↔ (t.identities.map Identity.id).Nodup := by
  unfold Rows.Unique Tables.identities
  rw [List.map_map]
  rfl

/-- A drawn id is a name that can be bound. -/
theorem Uuid.named (u : Uuid) : Str.isBlank u.text = false ∧ Str.encodable u.text = true := by
  obtain ⟨text, hnonempty, hhex⟩ := u
  constructor
  · obtain ⟨a, rest, rfl⟩ := List.exists_cons_of_ne_nil hnonempty
    have ha := hhex a (List.mem_cons_self)
    have hspace : Str.isSpace a = false := by
      unfold Str.isSpace
      simp only [Bool.or_eq_false_iff, Bool.and_eq_false_iff, decide_eq_false_iff_not,
        beq_eq_false_iff_ne]
      omega
    show (a :: rest).all Str.isSpace = false
    rw [List.all_cons, hspace]
    rfl
  · unfold Str.encodable
    rw [List.all_eq_true]
    intro a ha
    have := hhex a ha
    simp only [Bool.not_eq_true', Bool.and_eq_false_iff, decide_eq_false_iff_not]
    omega

/-- An argument passes when it is not blank. -/
theorem requiredText_ok_iff {name value : Str} :
    Store.requiredText name value = .ok () ↔ Str.isBlank value = false := by
  unfold Store.requiredText
  split <;> simp_all

/-- Texts are bound when all of them can be encoded. -/
theorem bindTexts_ok_iff {texts : List Str} :
    bindTexts texts = .ok () ↔ ∀ s ∈ texts, Str.encodable s = true := by
  unfold bindTexts
  split <;> simp_all

/-- The id of a valid call can be given to a later one. -/
theorem CreateCall.Valid.id_named (h : c.Valid rt) :
    Str.isBlank c.id = false ∧ Str.encodable c.id = true := by
  refine ⟨?_, bindTexts_ok_iff.1 h.id c.id (List.mem_singleton_self _)⟩
  have hnamed := h.named
  unfold CreateCall.id
  cases hid : c.runId with
  | none => exact c.uuid.named.1
  | some x =>
    rw [hid] at hnamed
    exact requiredText_ok_iff.1 hnamed

/-- Every call keeps ids and keys unique. -/
theorem IdentityInv.step (hinv : IdentityInv t.identities) (h : e.Happens rt t t') :
    IdentityInv t'.identities := by
  rcases h.identities with heq | ⟨c, hvalid, hunknown, hencodable, hfree, heq⟩
  · rw [heq]
    exact hinv
  · have hid : ∀ i ∈ t.identities, i.id ≠ c.id := by
      intro i hi hsame
      obtain ⟨r, hr, rfl⟩ := List.mem_map.1 hi
      exact Rows.find_eq_none.1 hunknown r hr hsame
    have hkey : ∀ i ∈ t.identities, i.key ≠ none → i.key ≠ c.idempotencyKey := by
      intro i hi hsome hsame
      obtain ⟨r, hr, rfl⟩ := List.mem_map.1 hi
      obtain ⟨key, hkey⟩ := Option.ne_none_iff_exists'.1 hsome
      rw [← hsame, hkey] at hfree
      exact Rows.find_eq_none.1 hfree r hr hkey
    rw [heq]
    refine ⟨?_, ?_, ?_, ?_⟩
    · rw [List.map_append, List.nodup_append]
      refine ⟨hinv.ids, List.nodup_singleton _, ?_⟩
      intro x hx y hy hxy
      obtain ⟨i, hi, rfl⟩ := List.mem_map.1 hx
      rw [List.map_singleton, List.mem_singleton] at hy
      exact hid i hi (hxy.trans hy)
    · rw [List.pairwise_append]
      refine ⟨hinv.keys, List.pairwise_singleton _ _, fun i hi j hj => ?_⟩
      rw [List.mem_singleton] at hj
      rw [hj]
      exact hkey i hi
    · intro i hi
      rcases List.mem_append.1 hi with hi | hi
      · exact hinv.named i hi
      · rw [List.mem_singleton] at hi
        rw [hi]
        exact hvalid.id_named
    · intro i hi
      rcases List.mem_append.1 hi with hi | hi
      · exact hinv.keyed i hi
      · rw [List.mem_singleton] at hi
        rw [hi]
        exact hencodable

/-- **Ids and keys are unique** after any history. -/
theorem Steps.identityInv (h : Steps rt {} events t) : IdentityInv t.identities :=
  h.history (P := fun _ t => IdentityInv t.identities) (fun hinv he => hinv.step he)
    ⟨List.nodup_nil, List.Pairwise.nil, nofun, nofun⟩

end Runs
end CouncilLogic
