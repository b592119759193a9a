/-
# What the methods do to a data directory

Each method raises and leaves the directory as it was, or returns after one change.  No change
undoes what was written of an approval, a request or the lock of a run (`Vault.Grows`).

One lemma for each method of `CouncilLogic.Agent.Vault`, so of `src/model_council/store.py`, says
all that the method can do; the programs of `CouncilLogic.Agent.Programs` are then checked against
these alone.
-/

import CouncilLogic.Agent.Programs
import CouncilLogic.Store.RunLaws

namespace CouncilLogic
namespace Agent

open Transaction
open Columns (Stamp bindTexts bindValue)

variable {K α : Type} {v v' v₀ : Vault K} {now : Stamp} {r : Except AgentErr α}
  {tokenSha256 planHash approvedBy requestId payload runId : Str} {maxCalls : ℤ} {rt : Runtime}

/-! ### Locked runs -/

/-- What never changes about a run: who it is and what it was created for. -/
structure Locked where
  identity : Runs.Identity
  question : Str
  protocolId : Str
  protocolHash : Str
  providerConfigs : Json
  policy : Dict

/-- The lock of a row. -/
def lockOf (row : Runs.Row) : Locked :=
  ⟨row.identity, row.question, row.protocolId, row.protocolHash, row.providerConfigs, row.policy⟩

/-- The locks of the runs, in the order of their creation. -/
def locks (t : Runs.Tables) : List Locked := t.runs.map lockOf

/-- A change that leaves the lock of a run alone leaves all locks as they are. -/
theorem locks_updateRun {t : Runs.Tables} {f : Runs.Row → Runs.Row}
    (hf : ∀ r, lockOf (f r) = lockOf r) : locks (t.updateRun runId f) = locks t := by
  unfold locks Runs.Tables.updateRun Rows.change
  rw [List.map_map]
  refine List.map_congr_left fun r _ => ?_
  simp only [Function.comp_apply]
  split
  · exact hf r
  · rfl

/-- A change that leaves the lock of a run alone takes no lock back. -/
theorem prefix_updateRun {t : Runs.Tables} {f : Runs.Row → Runs.Row}
    (hf : ∀ r, lockOf (f r) = lockOf r) : locks t <+: locks (t.updateRun runId f) := by
  rw [locks_updateRun hf]

/-! ### Growth -/

namespace ApprovalRow

/-- What becomes of an approval: it may be consumed once, and attached once. -/
structure Later (a b : ApprovalRow) : Prop where
  tokenSha256 : b.tokenSha256 = a.tokenSha256
  planHash : b.planHash = a.planHash
  approvedBy : b.approvedBy = a.approvedBy
  maxCalls : b.maxCalls = a.maxCalls
  approvedAt : b.approvedAt = a.approvedAt
  consumedAt : ∀ t, a.consumedAt = some t → b.consumedAt = some t
  runId : ∀ r, a.runId = some r → b.runId = some r
  call : b.call = a.call

/-- An approval is where it is. -/
theorem Later.refl (a : ApprovalRow) : a.Later a :=
  ⟨rfl, rfl, rfl, rfl, rfl, fun _ h => h, fun _ h => h, rfl⟩

/-- An approval goes forward step by step. -/
theorem Later.trans {a b c : ApprovalRow} (h : a.Later b) (h' : b.Later c) : a.Later c :=
  ⟨h'.tokenSha256.trans h.tokenSha256, h'.planHash.trans h.planHash,
    h'.approvedBy.trans h.approvedBy, h'.maxCalls.trans h.maxCalls,
    h'.approvedAt.trans h.approvedAt, fun t ht => h'.consumedAt t (h.consumedAt t ht),
    fun r hr => h'.runId r (h.runId r hr), h'.call.trans h.call⟩

end ApprovalRow

namespace Vault

/-- Nothing that was written is undone. -/
structure Grows (v v' : Vault K) : Prop where
  locks : locks v.tables <+: locks v'.tables
  approvals : ∀ t a, v.approval t = some a → ∃ b, v'.approval t = some b ∧ a.Later b
  requests : ∀ i q, v.request i = some q → v'.request i = some q
  resumed : v.resumed <+: v'.resumed
  calls : v.calls <+: v'.calls

/-- A directory has what it has. -/
theorem Grows.refl (v : Vault K) : v.Grows v :=
  ⟨List.prefix_refl _, fun _ a h => ⟨a, h, .refl a⟩, fun _ _ h => h, List.prefix_refl _,
    List.prefix_refl _⟩

/-- What is not taken back in two steps is not taken back in both. -/
theorem Grows.trans (h : v₀.Grows v) (h' : v.Grows v') : v₀.Grows v' := by
  refine ⟨h.locks.trans h'.locks, fun t a ha => ?_, fun i q hq => h'.requests i q
    (h.requests i q hq), h.resumed.trans h'.resumed, h.calls.trans h'.calls⟩
  obtain ⟨b, hb, hab⟩ := h.approvals t a ha
  obtain ⟨c, hc, hbc⟩ := h'.approvals t b hb
  exact ⟨c, hc, hab.trans hbc⟩

end Vault

/-! ### The methods -/

/-- What comes after a check that may raise is only reached when it passes. -/
theorem checkPy_bind_ok {β : Type} {x : Except PyErr β} {f : β → VaultM K α} {a : α}
    (h : (checkPy x >>= f).run v = (.ok a, v')) : ∃ b, x = .ok b ∧ (f b).run v = (.ok a, v') := by
  obtain ⟨b, v₁, hstep, h⟩ := bind_ok_iff.1 h
  obtain ⟨hb, rfl⟩ := check_ok_iff.1 hstep
  cases x with
  | error e => cases hb
  | ok b' =>
    obtain rfl := Except.ok.inj hb
    exact ⟨b', rfl, h⟩

/-- A method that is one transaction raises without a trace. -/
theorem atomically_cases {m : VaultM K α} (h : (atomically m).run v = (r, v')) :
    (∃ e, r = .error e ∧ v' = v) ∨ ∃ a, r = .ok a ∧ m.run v = (.ok a, v') := by
  cases r with
  | error e => exact .inl ⟨e, rfl, AllOrNothing.atomically m h⟩
  | ok a => exact .inr ⟨a, rfl, atomically_ok_iff.1 h⟩

/-- Recording an approval adds its row, under a digest that was free, or changes nothing. -/
theorem recordRunApproval_cases {call : ℕ} {r : Except AgentErr Unit}
    (h : (recordRunApproval now tokenSha256 planHash approvedBy maxCalls call).run v = (r, v')) :
    v' = v ∨ v.approval tokenSha256 = none ∧ v' = { v with approvals := v.approvals ++
      [⟨tokenSha256, planHash, approvedBy, maxCalls, now, none, none, call⟩] } := by
  unfold recordRunApproval at h
  rcases atomically_cases h with ⟨e, -, rfl⟩ | ⟨a, -, hrun⟩
  · exact .inl rfl
  obtain ⟨_, -, h⟩ := checkPy_bind_ok hrun
  obtain ⟨_, -, h⟩ := checkPy_bind_ok h
  obtain ⟨_, _, hstep, h⟩ := bind_ok_iff.1 h
  obtain ⟨rfl, rfl⟩ := read_ok_iff.1 hstep
  cases hrow : v.approval tokenSha256 with
  | some row =>
    rw [hrow] at h
    exact .inl (pure_ok_iff.1 h).2.symm
  | none =>
    rw [hrow] at h
    exact .inr ⟨rfl, (write_ok_iff.1 h).symm⟩

/-- Consuming an approval raises and changes nothing, or marks one row of this plan that was not
consumed. -/
theorem consumeRunApproval_cases {r : Except AgentErr Consumed}
    (h : (consumeRunApproval now tokenSha256 planHash).run v = (r, v')) :
    (∃ e, r = .error e ∧ v' = v) ∨ ∃ row, v.approval tokenSha256 = some row ∧
      row.planHash = planHash ∧ row.consumedAt = none ∧
      r = .ok ⟨row.approvedBy, row.planHash, row.maxCalls, row.approvedAt, now⟩ ∧
      v' = v.updateApproval tokenSha256 fun r => { r with consumedAt := some now } := by
  unfold consumeRunApproval at h
  rcases atomically_cases h with hraise | ⟨a, rfl, hrun⟩
  · exact .inl hraise
  obtain ⟨_, -, h⟩ := checkPy_bind_ok hrun
  obtain ⟨_, _, hstep, h⟩ := bind_ok_iff.1 h
  obtain ⟨rfl, rfl⟩ := read_ok_iff.1 hstep
  cases hrow : v.approval tokenSha256 with
  | none =>
    rw [hrow] at h
    cases (check_ok_iff.1 h).1
  | some row =>
    rw [hrow] at h
    dsimp only at h
    split at h
    · cases (check_ok_iff.1 h).1
    rename_i hplan
    split at h
    · cases (check_ok_iff.1 h).1
    rename_i hconsumed
    obtain ⟨_, _, hstep, h⟩ := bind_ok_iff.1 h
    obtain rfl := write_ok_iff.1 hstep
    obtain ⟨rfl, rfl⟩ := pure_ok_iff.1 h
    exact .inr ⟨row, rfl, not_not.1 hplan, not_not.1 hconsumed, rfl, rfl⟩

/-- Attaching an approval raises and changes nothing, or gives the row its run if it has none. -/
theorem attachRunApproval_cases {r : Except AgentErr Unit}
    (h : (attachRunApproval tokenSha256 runId).run v = (r, v')) :
    (∃ e, r = .error e ∧ v' = v) ∨ r = .ok () ∧ v' = v.updateApproval tokenSha256 fun r =>
      if r.runId = none then { r with runId := some runId } else r := by
  unfold attachRunApproval at h
  rcases atomically_cases h with hraise | ⟨a, rfl, hrun⟩
  · exact .inl hraise
  obtain ⟨_, -, h⟩ := checkPy_bind_ok hrun
  exact .inr ⟨rfl, (write_ok_iff.1 h).symm⟩

/-- A check that may raise raises and changes nothing, or passes. -/
theorem checkPy_bind_cases {β : Type} {x : Except PyErr β} {f : β → VaultM K α}
    (h : (checkPy x >>= f).run v = (r, v')) :
    (∃ e, r = .error e ∧ v' = v) ∨ ∃ b, x = .ok b ∧ (f b).run v = (r, v') := by
  cases x with
  | error e =>
    cases h
    exact .inl ⟨_, rfl, rfl⟩
  | ok b => exact .inr ⟨b, rfl, h⟩

/-- What is found for a run is a consumed approval that is attached to it. -/
theorem runApprovalFor_cases {r : Except AgentErr (Option ApprovalRow)}
    (h : (runApprovalFor runId).run v = (r, v')) : v' = v ∧
      ∀ row, r = .ok (some row) → row ∈ v.approvals ∧ row.runId = some runId ∧
        row.consumedAt ≠ none := by
  unfold runApprovalFor at h
  rcases checkPy_bind_cases h with ⟨e, rfl, rfl⟩ | ⟨_, -, hrun⟩
  · exact ⟨rfl, by rintro _ ⟨⟩⟩
  · cases hrun
    refine ⟨rfl, fun row hrow => ?_⟩
    have hmem := List.mem_of_mem_head? (Except.ok.inj hrow)
    rw [(List.perm_insertionSort _ _).mem_iff, List.mem_filter, Bool.and_eq_true,
      decide_eq_true_iff, Option.isSome_iff_ne_none] at hmem
    exact hmem

/-- What is read under an id is the request that is bound under it. -/
theorem getAgentRequest_cases {r : Except AgentErr (Option AgentRequestRow)}
    (h : (getAgentRequest requestId).run v = (r, v')) : v' = v ∧
      ∀ q, r = .ok q → v.request requestId = q := by
  unfold getAgentRequest at h
  rcases checkPy_bind_cases h with ⟨e, rfl, rfl⟩ | ⟨_, -, hrun⟩
  · exact ⟨rfl, by rintro _ ⟨⟩⟩
  · cases hrun
    exact ⟨rfl, fun q hq => Except.ok.inj hq⟩

/-- Binding a request raises and changes nothing, or adds its row for a run that is there. -/
theorem bindAgentRequest_cases {r : Except AgentErr Unit}
    (h : (bindAgentRequest now requestId payload runId).run v = (r, v')) :
    (∃ e, r = .error e ∧ v' = v) ∨ r = .ok () ∧ v.request requestId = none ∧
      v.tables.run runId ≠ none ∧
      v' = { v with requests := v.requests ++ [⟨requestId, payload, runId, now⟩] } := by
  unfold bindAgentRequest at h
  rcases atomically_cases h with hraise | ⟨a, rfl, hrun⟩
  · exact .inl hraise
  obtain ⟨_, -, h⟩ := checkPy_bind_ok hrun
  obtain ⟨_, _, hstep, h⟩ := bind_ok_iff.1 h
  obtain ⟨rfl, rfl⟩ := read_ok_iff.1 hstep
  obtain ⟨_, _, hstep, h⟩ := bind_ok_iff.1 h
  obtain ⟨hfree, rfl⟩ := refuse_ok_iff.1 hstep
  obtain ⟨_, _, hstep, h⟩ := bind_ok_iff.1 h
  obtain ⟨hknown, rfl⟩ := refuse_ok_iff.1 hstep
  exact .inr ⟨rfl, not_not.1 hfree, hknown, (write_ok_iff.1 h).symm⟩

/-- The engine is the one that the run was locked for. -/
structure Fits (rt : Runtime) (engine : AppConfig) (row : Runs.Row) : Prop where
  protocolId : row.protocolId = Protocol.protocolId
  protocolHash : row.protocolHash = rt.protocolHash
  providers : row.providerConfigs =
    Json.canon (.arr (runRequest rt engine row.question).providerConfigs)
  policy : row.policy = (runRequest rt engine row.question).policy.canon

/-- **`beginResume` returns**: the engine is that of the run's lock. -/
theorem beginResume_cases {engine : AppConfig} {r : Except AgentErr Unit}
    (h : (beginResume rt engine runId).run v = (r, v')) :
    (∃ e, r = .error e ∧ v' = v) ∨ r = .ok () ∧ ∃ row, v.tables.run runId = some row ∧
      Fits rt engine row ∧ v' = { v with resumed := v.resumed ++ [runId] } := by
  unfold beginResume at h
  rcases atomically_cases h with hraise | ⟨a, rfl, hrun⟩
  · exact .inl hraise
  obtain ⟨_, -, h⟩ := checkPy_bind_ok hrun
  obtain ⟨_, _, hstep, h⟩ := bind_ok_iff.1 h
  obtain ⟨rfl, rfl⟩ := read_ok_iff.1 hstep
  cases hrow : v.tables.run runId with
  | none =>
    rw [hrow] at h
    cases (check_ok_iff.1 h).1
  | some row =>
    rw [hrow] at h
    dsimp only at h
    obtain ⟨_, _, hstep, h⟩ := bind_ok_iff.1 h
    obtain ⟨hprotocol, rfl⟩ := refuse_ok_iff.1 hstep
    obtain ⟨_, _, hstep, h⟩ := bind_ok_iff.1 h
    obtain ⟨hhash, rfl⟩ := refuse_ok_iff.1 hstep
    obtain ⟨_, _, hstep, h⟩ := bind_ok_iff.1 h
    obtain ⟨hproviders, rfl⟩ := refuse_ok_iff.1 hstep
    obtain ⟨_, _, hstep, h⟩ := bind_ok_iff.1 h
    obtain ⟨hpolicy, rfl⟩ := refuse_ok_iff.1 hstep
    exact .inr ⟨rfl, row, rfl, ⟨not_not.1 hprotocol, not_not.1 hhash, not_not.1 hproviders,
      not_not.1 hpolicy⟩, (write_ok_iff.1 h).symm⟩

/-- Work on a run begins under the engine of its lock. -/
theorem beginResume_ok {engine : AppConfig} {row : Runs.Row}
    (hid : bindTexts [runId] = .ok ()) (hrow : v.tables.run runId = some row)
    (hfits : Fits rt engine row) :
    (beginResume rt engine runId).run v = (.ok (), { v with resumed := v.resumed ++ [runId] }) := by
  have hcheck : (checkPy (bindTexts [runId]) : VaultM K Unit).run v = (.ok (), v) := by
    rw [hid]
    rfl
  unfold beginResume
  refine atomically_ok_iff.2 (bind_ok_iff.2 ⟨(), v, hcheck, bind_ok_iff.2 ⟨v, v, rfl, ?_⟩⟩)
  rw [hrow]
  refine bind_ok_iff.2 ⟨(), v, refuse_ok_iff.2 ⟨not_not.2 hfits.protocolId, rfl⟩, ?_⟩
  refine bind_ok_iff.2 ⟨(), v, refuse_ok_iff.2 ⟨not_not.2 hfits.protocolHash, rfl⟩, ?_⟩
  refine bind_ok_iff.2 ⟨(), v, refuse_ok_iff.2 ⟨not_not.2 hfits.providers, rfl⟩, ?_⟩
  exact bind_ok_iff.2 ⟨(), v, refuse_ok_iff.2 ⟨not_not.2 hfits.policy, rfl⟩, rfl⟩

/-- Creating the key file leaves an empty one, or changes nothing because there is one. -/
theorem createKeyFile_cases {r : Except AgentErr Unit}
    (h : createKeyFile.run v = (r, v')) : v' = v ∨ v' = { v with key := some none } := by
  unfold createKeyFile at h
  rcases atomically_cases h with ⟨e, -, rfl⟩ | ⟨_, -, hrun⟩
  · exact .inl rfl
  obtain ⟨_, _, hstep, h⟩ := bind_ok_iff.1 hrun
  obtain ⟨rfl, rfl⟩ := read_ok_iff.1 hstep
  obtain ⟨_, _, hstep, h⟩ := bind_ok_iff.1 h
  obtain ⟨-, rfl⟩ := refuse_ok_iff.1 hstep
  exact .inr (write_ok_iff.1 h).symm

/-! ### The tables of the runs -/

/-- A method of the run tables changes those and nothing else. -/
theorem onTables_run {t : Runs.Sql α} {r : Except AgentErr α} (h : (onTables t).run v = (r, v')) :
    ∃ x tables, t.run v.tables = (x, tables) ∧ r = x.mapError .py ∧
      v' = { v with tables := tables } := by
  unfold onTables at h
  dsimp only at h
  rcases hrun : t.run v.tables with ⟨x, tables⟩
  rw [hrun] at h
  cases x with
  | ok a =>
    cases h
    exact ⟨_, _, rfl, rfl, rfl⟩
  | error e =>
    cases h
    exact ⟨_, _, rfl, rfl, rfl⟩

variable {t t' : Runs.Tables}

/-- A call that has returned appends at most one lock. -/
theorem locks_event {e : Runs.Event} (h : e.Happens rt t t') : locks t <+: locks t' := by
  cases e with
  | created c id =>
    obtain ⟨-, hcreated⟩ := Runs.createRun_ok_iff.1 h
    cases hcreated with
    | named => exact List.prefix_refl _
    | keyed => exact List.prefix_refl _
    | inserted =>
      unfold locks
      rw [List.map_append]
      exact List.prefix_append _ _
  | marked now runId status error =>
    obtain ⟨_, _, -, rfl⟩ := Runs.setRunStatus_ok h
    exact prefix_updateRun fun _ => rfl
  | finished now runId result =>
    obtain ⟨_, _, _, -, -, -, rfl⟩ := Runs.finishRun_ok h
    show locks t <+: locks (t.updateRun runId _)
    exact prefix_updateRun fun _ => rfl
  | decided now runId decision note d =>
    obtain ⟨_, _, _, _, hdecided⟩ := Runs.recordHumanDecision_ok h
    rw [hdecided.appended]
    exact List.prefix_refl _

/-- What a method does to the tables of the runs. -/
structure Keeps (t t' : Runs.Tables) : Prop where
  locks : locks t <+: locks t'
  identities : Runs.IdentityInv t.identities → Runs.IdentityInv t'.identities

/-- Tables keep the locks they have. -/
theorem Keeps.refl (t : Runs.Tables) : Keeps t t := ⟨List.prefix_refl _, id⟩

/-- Whatever happens to the tables of the runs, no lock is changed. -/
theorem Keeps.of_event {e : Runs.Event} (h : e.Happens rt t t') : Keeps t t' :=
  ⟨locks_event h, fun hinv => hinv.step h⟩

/-- An event that is appended changes no lock. -/
theorem appendEvent_keeps {type : Str} {d : Dict} {x : Except PyErr Unit}
    (h : (appendEvent rt now runId type d).run t = (x, t')) : Keeps t t' := by
  have hraise : AllOrNothing (appendEvent rt now runId type d) :=
    AllOrNothing.bind (reads_check _) fun _ => AllOrNothing.bind (reads_check _) fun _ =>
      AllOrNothing.atomically _
  cases x with
  | error e => exact hraise h ▸ .refl t
  | ok u =>
    unfold appendEvent at h
    obtain ⟨_, _, hstep, h⟩ := bind_ok_iff.1 h
    obtain ⟨-, rfl⟩ := check_ok_iff.1 hstep
    obtain ⟨_, _, hstep, h⟩ := bind_ok_iff.1 h
    obtain ⟨-, rfl⟩ := check_ok_iff.1 hstep
    obtain ⟨_, _, hstep, h⟩ := bind_ok_iff.1 (atomically_ok_iff.1 h)
    obtain ⟨-, rfl⟩ := check_ok_iff.1 hstep
    obtain ⟨_, _, hstep, h⟩ := bind_ok_iff.1 h
    obtain ⟨rfl, rfl⟩ := read_ok_iff.1 hstep
    obtain ⟨_, _, hstep, h⟩ := bind_ok_iff.1 h
    obtain ⟨-, rfl⟩ := refuse_ok_iff.1 hstep
    obtain rfl := write_ok_iff.1 h
    exact ⟨List.prefix_refl _, id⟩

/-- No method of the store changes the lock of a run. -/
theorem method_keeps {w : Write} {x : Except PyErr Unit} (h : (w.method rt).run t = (x, t')) :
    Keeps t t' := by
  cases w with
  | event now runId type payload => exact appendEvent_keeps h
  | setStatus now runId status error =>
    cases x with
    | error e => exact Runs.setRunStatus_allOrNothing h ▸ .refl t
    | ok u => exact @Keeps.of_event rt t t' (.marked now runId status error) h
  | finish now runId result =>
    cases x with
    | error e => exact Runs.finishRun_allOrNothing h ▸ .refl t
    | ok u => exact @Keeps.of_event rt t t' (.finished now runId result) h
  | decide now runId decision note =>
    cases x with
    | error e =>
      rcases bind_error_iff.1 h with h | ⟨_, _, -, h⟩
      · exact Runs.recordHumanDecision_allOrNothing h ▸ .refl t
      · cases h
    | ok u =>
      obtain ⟨d, t₁, hstep, h⟩ := bind_ok_iff.1 h
      obtain ⟨-, rfl⟩ := pure_ok_iff.1 h
      exact @Keeps.of_event rt t t₁ (.decided now runId decision note d) hstep

/-- **`create_run` returns** a run whose lock has the digest of the request. -/
theorem createRun_keeps {c : Runs.CreateCall} {x : Except PyErr Str}
    (h : (Runs.createRun rt c).run t = (x, t')) : Keeps t t' ∧
      ∀ id, x = .ok id → ∃ l ∈ locks t', l.identity.id = id ∧
        l.identity.requestSha256 = rt.sha256 c.request.text := by
  cases x with
  | error e => exact ⟨Runs.createRun_allOrNothing h ▸ .refl t, by rintro _ ⟨⟩⟩
  | ok id =>
    refine ⟨@Keeps.of_event rt t t' (.created c id) h, ?_⟩
    rintro _ ⟨⟩
    obtain ⟨-, hcreated⟩ := Runs.createRun_ok_iff.1 h
    cases hcreated with
    | @named row hrow hsha =>
      exact ⟨_, List.mem_map_of_mem (Rows.find_some hrow).1, rfl, hsha⟩
    | @keyed row _ _ hrow hsha =>
      obtain ⟨key, -, hkey⟩ := Option.bind_eq_some_iff.1 hrow
      exact ⟨_, List.mem_map_of_mem (Rows.find_some hkey).1, rfl, hsha⟩
    | inserted =>
      exact ⟨lockOf (Runs.createdRow rt c.now c.id c.request c.idempotencyKey),
        List.mem_map_of_mem (List.mem_append_right _ List.mem_cons_self), rfl, rfl⟩

end Agent
end CouncilLogic
