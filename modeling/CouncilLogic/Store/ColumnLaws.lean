/-
# What the columns say

One inversion lemma for every method of `Columns`, the invariant of the tables it keeps,
and what `_invocation_from_row` lets a release restore: all columns of a row that has
failed (`restored_invocationFromRow`).

A release is given a dictionary that was read at some earlier time, so a reachable state
carries the rows that have been there.

The method under test is `release_undispatched_invocation` of `src/model_council/store.py`: it
takes a started call back when its gate has refused it, and must leave the tables as they were
before the start.  The main result of the module is an equivalence
(`releaseUndispatchedInvocation_ok_iff`): it says when the release returns, and what the tables
are then.  `Tables.Inv` is what every reachable state satisfies, among other things that the retry
audits of a slot are those of its calls.
-/

import CouncilLogic.Engine.Recording
import CouncilLogic.Store.Columns

namespace CouncilLogic
namespace Columns

open Transaction
open Protocol (field)

variable {rt : Runtime} {t t' : Tables} {now : Stamp}

/-! ### Binding -/

/-- A time stamp can be encoded, since it is ASCII. -/
theorem Stamp.encodable (now : Stamp) : Str.encodable now.text = true := by
  unfold Str.encodable
  rw [List.all_eq_true]
  intro c hc
  have := now.ascii c hc
  simp only [Bool.not_eq_true', Bool.and_eq_false_iff, decide_eq_false_iff_not]
  omega

/-- Texts are bound when all of them can be encoded. -/
theorem bindTexts_ok_iff {texts : List Str} :
    bindTexts texts = .ok () ↔ ∀ s ∈ texts, Str.encodable s = true := by
  unfold bindTexts
  rw [← List.all_eq_true]
  split <;> simp_all

/-- A loop of checks passes when each of them does. -/
theorem forM_ok_iff {ε α : Type} {f : α → Except ε Unit} {l : List α} :
    l.forM f = .ok () ↔ ∀ a ∈ l, f a = .ok () := by
  induction l with
  | nil => exact ⟨fun _ _ h => (nomatch h), fun _ => rfl⟩
  | cons a l ih =>
    rw [List.forall_mem_cons, ← ih]
    show (f a >>= fun _ => l.forM f) = _ ↔ _
    cases f a with
    | ok u => exact ⟨fun h => ⟨rfl, h⟩, And.right⟩
    | error e => exact ⟨nofun, fun h => nomatch h.1⟩

/-! ### Failed rows -/

/-- A field of the canonical form is the canonical form of the field. -/
theorem field_canon (d : Dict) (key : Str) : field (Dict.canon d) key = (field d key).canon := by
  unfold field
  rw [Dict.get?_canon_eq]
  cases d.get? key <;> rfl

/-- A nullable text is read back as it was written. -/
theorem canon_optStr (s : Option Str) : Json.canon (optStr s) = optStr s := by
  cases s <;> rfl

/-- A nullable text is bound as it is. -/
theorem bound_optStr (s : Option Str) : bound (optStr s) = optStr s := by
  cases s <;> rfl

/-- A nullable integer is bound as it is. -/
theorem bound_optInt (n : Option ℤ) : bound (optInt n) = optInt n := by
  cases n <;> rfl

/-- A flag that was bound as an integer is read back as the flag. -/
theorem flag_int (b : Bool) : flag (.int (if b then 1 else 0)) = .bool b := by
  cases b <;> rfl

/-- What is known of a row: its texts can be bound again, and when it has failed its
columns are those of an error. -/
structure Row.WellFormed (r : Row) : Prop where
  texts : ∀ s ∈ [r.id, r.runId, r.stage, r.provider, r.model, r.lineage, r.promptSha256],
    Str.encodable s = true
  callCount : 1 ≤ r.callCount
  startedAt : ∃ at_ : Stamp, r.startedAt = .str at_.text
  updatedAt : ∃ at_ : Stamp, r.updatedAt = .str at_.text
  finishedAt : r.finishedAt = .null ∨ ∃ at_ : Stamp, r.finishedAt = .str at_.text
  failed : r.status = .failed → ∃ e : ProviderError, r.outcome = failureOutcome e ∧
    e.Encodes ∧ bindOutcome (failureOutcome e) = .ok ()

section Snapshot
variable {r : Row} {e : ProviderError}

/-- **The columns of an error survive** being read and written back. -/
theorem restoredOutcome_invocationFromRow (h : r.outcome = failureOutcome e) :
    restoredOutcome (invocationFromRow r) e.stored = failureOutcome e := by
  obtain ⟨id, runId, stage, provider, model, lineage, status, promptText, promptSha256, outcome,
    callCount, startedAt, updatedAt, finishedAt⟩ := r
  obtain rfl : outcome = failureOutcome e := h
  have hretryable : truthy (flag (.int (if e.retryable then 1 else 0))) = e.retryable := by
    rw [flag_int]
    rfl
  have hambiguous : truthy (flag (.int (if e.ambiguous then 1 else 0))) = e.ambiguous := by
    rw [flag_int]
    rfl
  have hstored : Dict.canon e.stored = e.stored := Dict.canon_canon e.toDict
  unfold restoredOutcome
  rw [hstored]
  show Outcome.mk .null .null none .null (bound (optStr e.requestId)) none .null
    (.int e.attempts) .null none (.str e.category.value) (.str e.message)
    (.int (if truthy (flag (.int (if e.retryable then 1 else 0))) then 1 else 0))
    (bound (optInt e.statusCode))
    (.int (if truthy (flag (.int (if e.ambiguous then 1 else 0))) then 1 else 0))
    (some (.obj e.stored)) = failureOutcome e
  rw [hretryable, hambiguous, bound_optStr, bound_optInt]
  rfl

/-- The error columns of a row agree with its error. -/
theorem failureConsistent_invocationFromRow (h : r.outcome = failureOutcome e) :
    failureConsistent (invocationFromRow r) e.stored = !e.ambiguous := by
  obtain ⟨id, runId, stage, provider, model, lineage, status, promptText, promptSha256, outcome,
    callCount, startedAt, updatedAt, finishedAt⟩ := r
  obtain rfl : outcome = failureOutcome e := h
  have hsame : ∀ (key : Str) (j : Json), Json.canon (field e.toDict key) = j.canon →
      Json.same j (field e.stored key) = true := by
    intro key j hj
    unfold Json.same ProviderError.stored
    rw [field_canon, Json.canon_canon, hj, beq_self_eq_true]
  have hall : ([(lit "error_message", lit "message"), (lit "error_category", lit "category"),
      (lit "error_retryable", lit "retryable"), (lit "error_status_code", lit "status_code"),
      (lit "request_id", lit "request_id"), (lit "attempts", lit "attempts")].all fun f =>
        Json.same (field (invocationFromRow ⟨id, runId, stage, provider, model, lineage, status,
          promptText, promptSha256, failureOutcome e, callCount, startedAt, updatedAt,
          finishedAt⟩) f.1) (field e.stored f.2)) = true := by
    rw [List.all_eq_true]
    simp only [List.forall_mem_cons]
    refine ⟨hsame _ _ rfl, hsame _ _ rfl, hsame _ _ ?_, hsame _ _ rfl, hsame _ _ rfl,
      hsame _ _ rfl, fun _ hf => nomatch hf⟩
    show Json.bool e.retryable = Json.canon (flag (.int (if e.retryable then 1 else 0)))
    rw [flag_int]
    rfl
  have hcolumn : field (invocationFromRow ⟨id, runId, stage, provider, model, lineage, status,
      promptText, promptSha256, failureOutcome e, callCount, startedAt, updatedAt, finishedAt⟩)
        (lit "error_ambiguous") = .bool e.ambiguous := flag_int e.ambiguous
  have hfield : field e.stored (lit "ambiguous") = .bool e.ambiguous := by
    unfold ProviderError.stored
    rw [field_canon]
    rfl
  unfold failureConsistent
  rw [hall, hcolumn, hfield]
  cases e.ambiguous <;> rfl

/-- The dictionary of a row names its slot. -/
theorem immutableFields_invocationFromRow {r' : Row} :
    (immutableFields r').any (fun f => decide (field (invocationFromRow r) f.1 ≠ f.2)) = false ↔
      immutableFields r = immutableFields r' := by
  rw [List.any_eq_false]
  simp only [immutableFields, List.forall_mem_cons, decide_eq_true_eq, not_not, List.cons.injEq,
    Prod.mk.injEq, true_and, and_true]
  exact ⟨fun ⟨h₁, h₂, h₃, h₄, h₅, h₆, h₇, h₈, _⟩ => ⟨h₁, h₂, h₃, h₄, h₅, h₆, h₇, h₈⟩,
    fun ⟨h₁, h₂, h₃, h₄, h₅, h₆, h₇, h₈⟩ =>
      ⟨h₁, h₂, h₃, h₄, h₅, h₆, h₇, h₈, fun _ hf => nomatch hf⟩⟩

/-- The checks of the dictionary of a row: it is the state just before the running one. -/
theorem checkPrior_invocationFromRow_iff {r' : Row} {p : Prior} :
    checkPrior rt t r' (invocationFromRow r) = .ok p ↔
      immutableFields r = immutableFields r' ∧ r.status = .failed ∧ 1 ≤ r.callCount ∧
      r.callCount + 1 = r'.callCount ∧ decodeJson r.outcome.errorJson .null = .obj p.failure ∧
      Json.assertNoCredentials rt (lit "$.prior_failure") (.obj p.failure) = .ok () ∧
      failureConsistent (invocationFromRow r) p.failure = true ∧
      retryAudit t r' p.failure = .ok (p.eventId, p.retryKind) ∧ p.callCount = r.callCount := by
  have hname : ∀ s : Status, s.name = Status.failed.name → s = .failed := by
    rintro (_ | _ | _) hs
    · exact absurd hs (by decide)
    · exact absurd hs (by decide)
    · rfl
  have hstatus : field (invocationFromRow r) (lit "status") = .str r.status.name := rfl
  have hcalls : field (invocationFromRow r) (lit "call_count") = .int r.callCount := rfl
  have herror : field (invocationFromRow r) (lit "error") =
      decodeJson r.outcome.errorJson .null := rfl
  unfold checkPrior
  rw [hstatus, hcalls, herror]
  simp only [bind, Except.bind]
  constructor
  · intro h
    split at h
    · cases h
    rename_i himmutable
    split at h
    · cases h
    rename_i hpreceding
    split at h
    case h_2 => cases h
    rename_i failure hfailure
    split at h
    · cases h
    rename_i hplain
    split at h
    · cases h
    rename_i hconsistent
    split at h
    · cases h
    rename_i audit haudit
    cases h
    simp only [not_or, not_not, not_lt, Json.str.injEq] at hpreceding
    refine ⟨immutableFields_invocationFromRow.1 (by simpa using himmutable),
      hname _ hpreceding.1, by omega, by omega, hfailure, hplain, by simpa using hconsistent,
      haudit, Int.toNat_natCast _⟩
  · rintro ⟨himmutable, hfailed, hone, hnext, hfailure, hplain, hconsistent, haudit, hcount⟩
    have hpreceding : ¬ (Json.str r.status.name ≠ .str Status.failed.name ∨
        (r.callCount : ℤ) < 1 ∨ (r.callCount : ℤ) + 1 ≠ r'.callCount) := by
      rw [hfailed]
      simp only [ne_eq, not_true_eq_false, false_or, not_or, not_not]
      omega
    rw [immutableFields_invocationFromRow.2 himmutable, hfailure]
    simp only [Bool.false_eq_true, if_false, if_neg hpreceding, hplain, hconsistent,
      Bool.true_eq_false, haudit, Int.toNat_natCast]
    rw [← hcount]

/-- **A row that has failed is restored** from its dictionary, whatever a new start has
made of its columns. -/
theorem restored_invocationFromRow {r' : Row} {p : Prior} (hwf : r.WellFormed)
    (hstatus : r.status = .failed) (ho : r.outcome = failureOutcome e)
    (himmutable : immutableFields r = immutableFields r') (hfailure : p.failure = e.stored)
    (hcount : p.callCount = r.callCount) :
    Row.restored (invocationFromRow r) p r' = r := by
  have hfinished : bound r.finishedAt = r.finishedAt := by
    rcases hwf.finishedAt with hnull | ⟨s, hs⟩
    · rw [hnull]
      rfl
    · rw [hs]
      rfl
  obtain ⟨started, hstarted⟩ := hwf.startedAt
  obtain ⟨updated, hupdated⟩ := hwf.updatedAt
  have houtcome := restoredOutcome_invocationFromRow ho
  obtain ⟨id, runId, stage, provider, model, lineage, status, promptText, promptSha256, outcome,
    callCount, startedAt, updatedAt, finishedAt⟩ := r
  obtain rfl : startedAt = .str started.text := hstarted
  obtain rfl : updatedAt = .str updated.text := hupdated
  obtain rfl : status = .failed := hstatus
  obtain rfl : outcome = failureOutcome e := ho
  simp only [immutableFields, List.cons.injEq, Prod.mk.injEq, true_and, and_true,
    Json.str.injEq] at himmutable
  obtain ⟨hid, hrun, hstage, hprovider, hmodel, hlineage, hprompt, hsha⟩ := himmutable
  unfold Row.restored
  rw [hfailure, houtcome, hcount, ← hid, ← hrun, ← hstage, ← hprovider, ← hmodel, ← hlineage,
    ← hprompt, ← hsha]
  exact congrArg (Row.mk id runId stage provider model lineage .failed promptText promptSha256
    (failureOutcome e) callCount (.str started.text) (.str updated.text)) hfinished

/-- The time stamps of a row can be bound again. -/
theorem bindTimes_invocationFromRow (h : r.WellFormed) :
    bindTimes (invocationFromRow r) = .ok () := by
  obtain ⟨started, hstarted⟩ := h.startedAt
  obtain ⟨updated, hupdated⟩ := h.updatedAt
  have hbind : ∀ s : Stamp, bindValue (.str s.text) = .ok () := fun s =>
    bindTexts_ok_iff.2 fun x hx => List.mem_singleton.1 hx ▸ s.encodable
  have hfinished : bindValue r.finishedAt = .ok () := by
    rcases h.finishedAt with hnull | ⟨s, hs⟩
    · rw [hnull]
      rfl
    · rw [hs]
      exact hbind s
  have hall : [r.startedAt, r.updatedAt, r.finishedAt].forM bindValue = .ok () := by
    rw [forM_ok_iff]
    simp only [List.forall_mem_cons]
    rw [hstarted, hupdated]
    exact ⟨hbind _, hbind _, hfinished, fun _ hj => nomatch hj⟩
  unfold bindTimes
  show (([r.startedAt, r.updatedAt, r.finishedAt].forM bindValue) >>= fun _ =>
    if r.startedAt = .null ∨ r.updatedAt = .null then _ else _) = _
  rw [hall, hstarted, hupdated]
  rfl

end Snapshot

/-! ### What the methods do -/

/-- A started slot is running or has succeeded, is started again, or is new. -/
theorem startInvocation_ok {uuid runId stage provider model lineage prompt id : Str}
    (h : (startInvocation rt now uuid runId stage provider model lineage prompt).run t =
      (.ok id, t')) :
    (∀ s ∈ [runId, stage, provider], Str.encodable s = true) ∧
    ((∃ r, t.slot runId stage provider = some r ∧ r.status ≠ .failed ∧ t' = t) ∨
      (∃ r event, t.slot runId stage provider = some r ∧ r.status = .failed ∧ r.id = id ∧
        retryEvent r = .ok event ∧
        t' = (t.insertEvent runId retryStarted event now).updateRow r.id (Row.restarted now)) ∨
      (t.slot runId stage provider = none ∧ uuid = id ∧
        (∀ s ∈ [uuid, model, lineage, rt.sha256 prompt], Str.encodable s = true) ∧
        (∀ r ∈ t.invocations, r.id ≠ uuid) ∧
        t' = { t with invocations := t.invocations ++
          [startedRow rt now uuid runId stage provider model lineage prompt] })) := by
  simp only [startInvocation, bind_ok_iff, check_ok_iff, atomically_ok_iff, read_ok_iff,
    refuse_ok_iff] at h
  obtain ⟨-, _, ⟨-, rfl⟩, -, _, ⟨-, rfl⟩, -, _, ⟨-, rfl⟩, -, _, ⟨-, rfl⟩, -, _, ⟨-, rfl⟩,
    -, _, ⟨-, rfl⟩, _, _, ⟨htexts, rfl⟩, _, _, ⟨rfl, rfl⟩, -, _, ⟨-, rfl⟩, h⟩ := h
  refine ⟨bindTexts_ok_iff.1 htexts, ?_⟩
  cases hslot : t.slot runId stage provider with
  | none =>
    rw [hslot] at h
    simp only [bind_ok_iff, check_ok_iff, refuse_ok_iff, write_ok_iff, pure_ok_iff] at h
    obtain ⟨_, _, ⟨hbind, rfl⟩, _, _, ⟨hfresh, rfl⟩, -, _, hwrite, rfl, rfl⟩ := h
    refine .inr (.inr ⟨rfl, rfl, bindTexts_ok_iff.1 hbind, fun r hr heq => hfresh ?_,
      hwrite.symm⟩)
    exact List.mem_map.2 ⟨r, hr, heq⟩
  | some r =>
    simp only [hslot, bind_ok_iff, refuse_ok_iff] at h
    obtain ⟨-, _, ⟨-, rfl⟩, h⟩ := h
    cases hstatus : r.status with
    | running =>
      rw [hstatus] at h
      obtain ⟨-, rfl⟩ := pure_ok_iff.1 h
      exact .inl ⟨r, rfl, by rw [hstatus]; exact nofun, rfl⟩
    | succeeded =>
      rw [hstatus] at h
      obtain ⟨-, rfl⟩ := pure_ok_iff.1 h
      exact .inl ⟨r, rfl, by rw [hstatus]; exact nofun, rfl⟩
    | failed =>
      rw [hstatus] at h
      simp only [bind_ok_iff, check_ok_iff, write_ok_iff, pure_ok_iff] at h
      obtain ⟨event, _, ⟨hevent, rfl⟩, -, _, rfl, -, _, rfl, rfl, rfl⟩ := h
      exact .inr (.inl ⟨r, event, rfl, hstatus, rfl, hevent, rfl⟩)

/-- A response is written to a running row, or it is the one that is there. -/
theorem finishInvocationSuccess_ok {id : Str} {response : ProviderResponse}
    (h : (finishInvocationSuccess rt now id response).run t = (.ok (), t')) :
    t' = t ∨ ∃ value, t' = t.updateRow id fun r => { r with
      status := .succeeded
      outcome := responseOutcome rt response value
      updatedAt := .str now.text
      finishedAt := .str now.text } := by
  simp only [finishInvocationSuccess, bind_ok_iff, check_ok_iff, atomically_ok_iff,
    read_ok_iff] at h
  obtain ⟨-, _, ⟨-, rfl⟩, value, _, ⟨-, rfl⟩, -, _, ⟨-, rfl⟩, _, _, ⟨rfl, rfl⟩, h⟩ := h
  cases hrow : t.invocation id with
  | none =>
    rw [hrow] at h
    exact absurd trivial (refuse_ok_iff.1 h).1
  | some r =>
    simp only [hrow] at h
    cases hstatus : r.status with
    | succeeded =>
      rw [hstatus] at h
      exact .inl (refuse_ok_iff.1 h).2.symm
    | failed =>
      rw [hstatus] at h
      exact absurd trivial (refuse_ok_iff.1 h).1
    | running =>
      rw [hstatus] at h
      simp only [bind_ok_iff, check_ok_iff, write_ok_iff] at h
      obtain ⟨-, _, ⟨-, rfl⟩, rfl⟩ := h
      exact .inr ⟨value, rfl⟩

/-! ### The columns and the JSON of the engine's store

`Store.finishInvocationSuccess` and `Store.finishInvocationFailure` keep the response or the
error of a row as one value, this model keeps the columns.  What a running row can be given
is the same in both: what `json.dumps` prints and SQLite's columns hold.
-/

/-- A JSON column is bound when its value can be printed and encoded. -/
theorem bindJson_ok_iff {value : Json} :
    bindJson value = .ok () ↔ Json.dumpable value = true ∧ Json.encodable value = true := by
  unfold bindJson
  cases Json.dumpable value
  · exact iff_of_false (fun h => by cases h) fun h => by cases h.1
  · cases Json.encodable value
    · exact iff_of_false (fun h => by cases h) fun h => by cases h.2
    · exact iff_of_true rfl ⟨rfl, rfl⟩

/-- A dictionary that can be printed and encoded is bound, its keys sorted. -/
theorem bindJson_canon {d : Dict} (hdumpable : Json.dumpableFields d = true)
    (hencodable : Json.encodableFields d = true) : bindJson (.obj d.canon) = .ok () := by
  refine bindJson_ok_iff.2 ⟨?_, ?_⟩
  · exact (Json.dumpable_canon (.obj d)).trans hdumpable
  · exact (Json.encodable_canon (.obj d)).trans hencodable

/-- An integer is bound when it fits 64 bits. -/
theorem bindValue_int {n : ℤ} : bindValue (.int n) = .ok () ↔ Store.HoldsInteger n := by
  show Store.bindInteger n = .ok () ↔ _
  unfold Store.bindInteger
  split
  · exact iff_of_true rfl ‹_›
  · exact iff_of_false nofun ‹_›

/-- A text is bound when it can be encoded. -/
theorem bindValue_str {s : Str} : bindValue (.str s) = .ok () ↔ Str.encodable s = true := by
  show bindTexts [s] = .ok () ↔ _
  rw [bindTexts_ok_iff]
  exact List.forall_mem_singleton

/-- NULL is bound. -/
theorem bindValue_null : bindValue .null = .ok () := rfl

/-- A flag is bound, being zero or one. -/
theorem bindValue_flag (b : Bool) : bindValue (.int (if b then 1 else 0)) = .ok () := by
  cases b <;> rfl

/-- A nullable integer is bound when it fits, if there is one. -/
theorem bindValue_optInt {n : Option ℤ} :
    bindValue (optInt n) = .ok () ↔ ∀ m ∈ n.toList, Store.HoldsInteger m := by
  cases n with
  | none => exact iff_of_true rfl nofun
  | some n => exact bindValue_int.trans List.forall_mem_singleton.symm

/-- A nullable text is bound when it can be encoded, if there is one. -/
theorem bindValue_optStr {s : Option Str} (h : Json.encodable (optStr s) = true) :
    bindValue (optStr s) = .ok () := by
  cases s with
  | none => rfl
  | some s => exact bindValue_str.2 h

/-- An outcome is bound when each of its columns is. -/
theorem bindOutcome_ok_iff {o : Outcome} : bindOutcome o = .ok () ↔
    (∀ value, some value ∈ [o.responseJson, o.usageJson, o.metadataJson, o.errorJson] →
      bindJson value = .ok ()) ∧
    ∀ value ∈ [o.responseText, o.responseSha256, o.resolvedModel, o.requestId, o.latencyMs,
      o.attempts, o.finishReason, o.errorCategory, o.errorMessage, o.errorRetryable,
      o.errorStatusCode, o.errorAmbiguous], bindValue value = .ok () := by
  unfold bindOutcome
  rw [Except.seq_ok_iff, forM_ok_iff, forM_ok_iff]
  refine and_congr_left' ⟨fun h value hvalue => h (some value) hvalue, ?_⟩
  rintro h (_ | value) hvalue
  · rfl
  · exact h value hvalue

/-- The columns of an error that can be written hold it when its integers fit. -/
theorem bindOutcome_failureOutcome_iff {error : ProviderError} (h : error.Encodes) :
    bindOutcome (failureOutcome error) = .ok () ↔ error.Binds := by
  obtain ⟨hdumpable, hencodable⟩ := ProviderError.encodes_iff.1 h
  have hstored : bindJson (.obj error.stored) = .ok () := bindJson_canon hdumpable hencodable
  rw [Json.encodableFields_eq_all, List.all_eq_true] at hencodable
  have htext : ∀ f ∈ error.toDict, Json.encodable f.2 = true := fun f hf =>
    ((Bool.and_eq_true _ _).mp (hencodable f hf)).2
  have hmessage : bindValue (.str error.message) = .ok () :=
    bindValue_str.2 (htext (lit "message", .str error.message) (by simp [ProviderError.toDict]))
  have hcategory : bindValue (.str error.category.value) = .ok () :=
    bindValue_str.2 (htext (lit "category", .str error.category.value)
      (by simp [ProviderError.toDict]))
  have hrequest : bindValue (optStr error.requestId) = .ok () :=
    bindValue_optStr (htext (lit "request_id", optStr error.requestId)
      (by simp [ProviderError.toDict]))
  rw [bindOutcome_ok_iff]
  constructor
  · rintro ⟨-, hcolumns⟩
    have hattempts := bindValue_int.1
      (hcolumns (.int error.attempts) (by simp [failureOutcome]))
    have hstatus := bindValue_optInt.1
      (hcolumns (optInt error.statusCode) (by simp [failureOutcome]))
    exact List.forall_mem_cons.2 ⟨hattempts, hstatus⟩
  · intro hbinds
    obtain ⟨hattempts, hstatus⟩ := List.forall_mem_cons.1 hbinds
    refine ⟨?_, ?_⟩
    · simp only [failureOutcome, List.mem_cons, List.not_mem_nil, or_false, Option.some.injEq,
        reduceCtorEq, false_or, forall_eq, hstored]
    · simp only [failureOutcome, List.forall_mem_cons, hmessage, hcategory, hrequest,
        bindValue_flag, bindValue_int.2 hattempts, bindValue_optInt.2 hstatus, bindValue_null,
        List.not_mem_nil, IsEmpty.forall_iff, implies_true, and_self]

/-- The columns of a response that can be written hold it when its integers fit. -/
theorem bindOutcome_responseOutcome_iff (hrt : rt.Standard) {response : ProviderResponse}
    {value : Dict} (h : Dict.encode response.toDict = .ok value) :
    bindOutcome (responseOutcome rt response value) = .ok () ↔
      ∀ n ∈ [response.latencyMs, response.attempts], Store.HoldsInteger n := by
  obtain rfl := Dict.encode_ok h
  have hdumpable := Dict.dumpable_of_encode h
  have hencodable := Dict.encodable_of_encode h
  have hvalue : bindJson (.obj response.toDict.canon) = .ok () :=
    bindJson_canon hdumpable hencodable
  rw [Json.dumpableFields_eq_all, List.all_eq_true] at hdumpable
  rw [Json.encodableFields_eq_all, List.all_eq_true] at hencodable
  have htext : ∀ f ∈ response.toDict, Json.encodable f.2 = true := fun f hf =>
    ((Bool.and_eq_true _ _).mp (hencodable f hf)).2
  have hcontent : Str.encodable response.content = true :=
    htext (lit "content", .str response.content) (by simp [ProviderResponse.toDict])
  have hdigest : bindValue (.str (rt.sha256 response.content)) = .ok () :=
    bindValue_str.2 (hrt.sha256 _ hcontent)
  have hmodel : bindValue (.str response.resolvedModel) = .ok () :=
    bindValue_str.2 (htext (lit "resolved_model", .str response.resolvedModel)
      (by simp [ProviderResponse.toDict]))
  have hrequest : bindValue (optStr response.requestId) = .ok () :=
    bindValue_optStr (htext (lit "request_id", optStr response.requestId)
      (by simp [ProviderResponse.toDict]))
  have hreason : bindValue (optStr response.finishReason) = .ok () :=
    bindValue_optStr (htext (lit "finish_reason", optStr response.finishReason)
      (by simp [ProviderResponse.toDict]))
  have husage : bindJson (.obj (Dict.canon response.usage.toDict)) = .ok () :=
    bindJson_canon (hdumpable (lit "usage", .obj response.usage.toDict)
      (by simp [ProviderResponse.toDict])) (htext (lit "usage", .obj response.usage.toDict)
      (by simp [ProviderResponse.toDict]))
  have hmetadata : bindJson (.obj (Dict.canon response.metadata)) = .ok () :=
    bindJson_canon (hdumpable (lit "metadata", .obj response.metadata)
      (by simp [ProviderResponse.toDict])) (htext (lit "metadata", .obj response.metadata)
      (by simp [ProviderResponse.toDict]))
  rw [bindOutcome_ok_iff]
  constructor
  · rintro ⟨-, hcolumns⟩ n hn
    refine bindValue_int.1 (hcolumns (.int n) ?_)
    rcases List.mem_pair.1 hn with rfl | rfl <;> simp [responseOutcome]
  · intro hbinds
    obtain ⟨hlatency, hattempts⟩ := List.forall_mem_cons.1 hbinds
    refine ⟨?_, ?_⟩
    · simp only [responseOutcome, List.mem_cons, List.not_mem_nil, or_false, Option.some.injEq,
        reduceCtorEq, forall_eq_or_imp, forall_eq, hvalue, husage, hmetadata, and_self]
    · simp only [responseOutcome, List.forall_mem_cons, bindValue_str.2 hcontent, hdigest, hmodel,
        hrequest, hreason, bindValue_int.2 hlatency,
        bindValue_int.2 (List.forall_mem_singleton.1 hattempts), bindValue_null,
        List.not_mem_nil, IsEmpty.forall_iff, implies_true, and_self]

/-- **Both models fail a running row with the same errors.** -/
theorem finishInvocationFailure_running_iff (hrt : rt.Standard) {id : Str} {r : Row}
    {error : ProviderError} (hid : Str.encodable id = true) (hrow : t.invocation id = some r)
    (hstatus : r.status = .running) {st : Store} {engineId : ℕ} {engineRow : Invocation}
    (hget : st.getInvocation engineId = some engineRow) (hrun : engineRow.state = .running) :
    (∃ t', (finishInvocationFailure rt now id error).run t = (.ok (), t')) ↔
      ∃ st', st.finishInvocationFailure rt engineId error = .ok st' := by
  rw [Store.finishInvocationFailure_fits_iff hrt hget hrun]
  simp only [finishInvocationFailure, bind_ok_iff, check_ok_iff, atomically_ok_iff, read_ok_iff]
  constructor
  · rintro ⟨t', value, _, ⟨hstore, rfl⟩, -, _, ⟨-, rfl⟩, _, _, ⟨rfl, rfl⟩, h⟩
    have hencodes : error.Encodes := Dict.encode_of_store hstore
    simp only [hrow, hstatus, bind_ok_iff, check_ok_iff, write_ok_iff] at h
    obtain ⟨_, _, ⟨hbind, rfl⟩, rfl⟩ := h
    exact ⟨hencodes, (bindOutcome_failureOutcome_iff hencodes).1 hbind⟩
  · rintro ⟨hencodes, hbinds⟩
    have hstore := Dict.store_ok (hencodes.storable hrt).1 (lit "$.provider_error")
    refine ⟨t.updateRow id fun r => { r with
        status := .failed
        outcome := failureOutcome error
        updatedAt := .str now.text
        finishedAt := .str now.text }, error.stored, t, ⟨hstore, rfl⟩, (), t,
      ⟨bindTexts_ok_iff.2 (List.forall_mem_singleton.2 hid), rfl⟩, t, t, ⟨rfl, rfl⟩, ?_⟩
    simp only [hrow, hstatus, bind_ok_iff, check_ok_iff, write_ok_iff]
    exact ⟨(), t, ⟨(bindOutcome_failureOutcome_iff hencodes).2 hbinds, rfl⟩, rfl⟩

/-- **Both models complete a running row with the same responses.** -/
theorem finishInvocationSuccess_running_iff (hrt : rt.Standard) {id : Str} {r : Row}
    {response : ProviderResponse} (hid : Str.encodable id = true)
    (hrow : t.invocation id = some r) (hstatus : r.status = .running) {st : Store}
    {engineId : ℕ} {engineRow : Invocation}
    (hget : st.getInvocation engineId = some engineRow) (hrun : engineRow.state = .running) :
    (∃ t', (finishInvocationSuccess rt now id response).run t = (.ok (), t')) ↔
      ∃ st', st.finishInvocationSuccess rt engineId response = .ok st' := by
  rw [Store.finishInvocationSuccess_stores_iff hget hrun]
  simp only [finishInvocationSuccess, bind_ok_iff, check_ok_iff, atomically_ok_iff, read_ok_iff]
  constructor
  · rintro ⟨t', ⟨⟩, _, ⟨hmetadata, rfl⟩, value, _, ⟨hencode, rfl⟩, -, _, ⟨-, rfl⟩, _, _,
      ⟨rfl, rfl⟩, h⟩
    simp only [hrow, hstatus, bind_ok_iff, check_ok_iff, write_ok_iff] at h
    obtain ⟨_, _, ⟨hbind, rfl⟩, rfl⟩ := h
    exact ⟨hmetadata, ⟨value, hencode⟩, (bindOutcome_responseOutcome_iff hrt hencode).1 hbind⟩
  · rintro ⟨hmetadata, ⟨value, hencode⟩, hbinds⟩
    refine ⟨t.updateRow id fun r => { r with
        status := .succeeded
        outcome := responseOutcome rt response value
        updatedAt := .str now.text
        finishedAt := .str now.text }, (), t, ⟨hmetadata, rfl⟩, value, t, ⟨hencode, rfl⟩, (), t,
      ⟨bindTexts_ok_iff.2 (List.forall_mem_singleton.2 hid), rfl⟩, t, t, ⟨rfl, rfl⟩, ?_⟩
    simp only [hrow, hstatus, bind_ok_iff, check_ok_iff, write_ok_iff]
    exact ⟨(), t, ⟨(bindOutcome_responseOutcome_iff hrt hencode).2 hbinds, rfl⟩, rfl⟩

/-- An error is written to a running row, or it is the one that is there. -/
theorem finishInvocationFailure_ok {id : Str} {error : ProviderError}
    (h : (finishInvocationFailure rt now id error).run t = (.ok (), t')) :
    t' = t ∨ error.Encodes ∧ bindOutcome (failureOutcome error) = .ok () ∧
      t' = t.updateRow id fun r => { r with
        status := .failed
        outcome := failureOutcome error
        updatedAt := .str now.text
        finishedAt := .str now.text } := by
  simp only [finishInvocationFailure, bind_ok_iff, check_ok_iff, atomically_ok_iff,
    read_ok_iff] at h
  obtain ⟨value, _, ⟨hstore, rfl⟩, -, _, ⟨-, rfl⟩, _, _, ⟨rfl, rfl⟩, h⟩ := h
  cases hrow : t.invocation id with
  | none =>
    rw [hrow] at h
    exact absurd trivial (refuse_ok_iff.1 h).1
  | some r =>
    simp only [hrow] at h
    cases hstatus : r.status with
    | succeeded =>
      rw [hstatus] at h
      exact absurd trivial (refuse_ok_iff.1 h).1
    | failed =>
      rw [hstatus] at h
      exact .inl (refuse_ok_iff.1 h).2.symm
    | running =>
      rw [hstatus] at h
      simp only [bind_ok_iff, check_ok_iff, write_ok_iff] at h
      obtain ⟨_, _, ⟨hbind, rfl⟩, rfl⟩ := h
      exact .inr ⟨Dict.encode_of_store hstore, hbind, rfl⟩

/-- An event that is appended is one row more, and nothing else changes. -/
theorem appendEvent_ok {runId type : Str} {payload : Dict}
    (h : (appendEvent rt now runId type payload).run t = (.ok (), t')) :
    ∃ payload, t' = t.insertEvent runId type payload now := by
  simp only [appendEvent, bind_ok_iff, check_ok_iff, atomically_ok_iff, read_ok_iff,
    refuse_ok_iff, write_ok_iff] at h
  obtain ⟨-, _, ⟨-, rfl⟩, payload, _, ⟨-, rfl⟩, -, _, ⟨-, rfl⟩, _, _, ⟨rfl, rfl⟩, -, _,
    ⟨-, rfl⟩, rfl⟩ := h
  exact ⟨payload, rfl⟩

/-- What a release makes of the tables, `r` being the running row. -/
inductive Released (rt : Runtime) (now : Stamp) (error : ProviderError) (n : ℤ) (t : Tables)
    (r : Row) : Option Dict → Tables → Prop
  /-- There was nothing before: the row goes. -/
  | deleted {event : Dict} (hcount : r.callCount = 1)
      (hevent : Dict.store rt (lit "$.undispatched_call") (notDispatchedEvent r error n none) =
        .ok event) :
      Released rt now error n t r none
        ((t.insertEvent r.runId callNotDispatched event now).deleteRow r.id)
  /-- The prior state is written back, and the audit of the retry goes. -/
  | restored {prior : Dict} {p : Prior} {event : Dict} (hprior : checkPrior rt t r prior = .ok p)
      (hevent : Dict.store rt (lit "$.undispatched_call")
        (notDispatchedEvent r error n (some p)) = .ok event)
      (houtcome : bindOutcome (restoredOutcome prior p.failure) = .ok ())
      (htimes : bindTimes prior = .ok ()) :
      Released rt now error n t r (some prior)
        (((t.insertEvent r.runId callNotDispatched event now).deleteEvent p.eventId).updateRow
          r.id (Row.restored prior p))

/-- **A release returns** for a running row and an error that is not ambiguous, and then it
has deleted or restored the row. -/
theorem releaseUndispatchedInvocation_ok_iff {id : Str} {error : ProviderError} {n : ℤ}
    {prior : Option Dict} :
    (releaseUndispatchedInvocation rt now id error n prior).run t = (.ok (), t') ↔
      error.ambiguous = false ∧ 1 ≤ n ∧
      Json.assertNoCredentials rt (lit "$.provider_error") (.obj error.toDict) = .ok () ∧
      Str.encodable id = true ∧ ∃ r, t.invocation id = some r ∧ r.status = .running ∧
        (r.callCount : ℤ) ≤ n ∧ Released rt now error n t r prior t' := by
  simp only [releaseUndispatchedInvocation, bind_ok_iff, check_ok_iff, atomically_ok_iff,
    read_ok_iff, refuse_ok_iff, Bool.not_eq_true, not_lt]
  constructor
  · rintro ⟨_, _, ⟨hambiguous, rfl⟩, _, _, ⟨hn, rfl⟩, _, _, ⟨herror, rfl⟩, _, _, ⟨hid, rfl⟩, _,
      _, ⟨rfl, rfl⟩, h⟩
    refine ⟨hambiguous, hn, herror, bindTexts_ok_iff.1 hid id (List.mem_singleton_self id), ?_⟩
    cases hrow : t.invocation id with
    | none =>
      simp only [hrow] at h
      exact absurd trivial (refuse_ok_iff.1 h).1
    | some r =>
      obtain rfl : r.id = id := (Rows.find_some hrow).2
      simp only [hrow, bind_ok_iff, refuse_ok_iff, not_not, not_lt] at h
      obtain ⟨_, _, ⟨hrunning, rfl⟩, _, _, ⟨hcount, rfl⟩, h⟩ := h
      refine ⟨r, rfl, hrunning, hcount, ?_⟩
      cases prior with
      | none =>
        simp only [bind_ok_iff, check_ok_iff, refuse_ok_iff, write_ok_iff, not_not] at h
        obtain ⟨_, _, ⟨hone, rfl⟩, event, _, ⟨hevent, rfl⟩, _, _, rfl, rfl⟩ := h
        exact .deleted hone hevent
      | some prior =>
        simp only [bind_ok_iff, check_ok_iff, write_ok_iff] at h
        obtain ⟨p, _, ⟨hprior, rfl⟩, event, _, ⟨hevent, rfl⟩, _, _, rfl, _, _, rfl, _, _,
          ⟨houtcome, rfl⟩, _, _, ⟨htimes, rfl⟩, rfl⟩ := h
        exact .restored hprior hevent houtcome htimes
  · rintro ⟨hambiguous, hn, herror, hid, r, hrow, hrunning, hcount, h⟩
    obtain rfl : r.id = id := (Rows.find_some hrow).2
    have htexts : bindTexts [r.id] = .ok () :=
      bindTexts_ok_iff.2 fun s hs => List.mem_singleton.1 hs ▸ hid
    refine ⟨(), t, ⟨hambiguous, rfl⟩, (), t, ⟨hn, rfl⟩, (), t, ⟨herror, rfl⟩, (), t,
      ⟨htexts, rfl⟩, t, t, ⟨rfl, rfl⟩, ?_⟩
    simp only [hrow, bind_ok_iff, refuse_ok_iff, not_not, not_lt]
    refine ⟨(), t, ⟨hrunning, rfl⟩, (), t, ⟨hcount, rfl⟩, ?_⟩
    cases h with
    | deleted hone hevent =>
      simp only [bind_ok_iff, check_ok_iff, refuse_ok_iff, write_ok_iff, not_not]
      exact ⟨(), t, ⟨hone, rfl⟩, _, t, ⟨hevent, rfl⟩, (), _, rfl, rfl⟩
    | restored hprior hevent houtcome htimes =>
      simp only [bind_ok_iff, check_ok_iff, write_ok_iff]
      exact ⟨_, t, ⟨hprior, rfl⟩, _, t, ⟨hevent, rfl⟩, (), _, rfl, (), _, rfl, (), _,
        ⟨houtcome, rfl⟩, (), _, ⟨htimes, rfl⟩, rfl⟩

/-- **A release that raises changes nothing.** -/
theorem releaseUndispatchedInvocation_allOrNothing (now : Stamp) (id : Str)
    (error : ProviderError) (n : ℤ) (prior : Option Dict) :
    AllOrNothing (releaseUndispatchedInvocation rt now id error n prior) := by
  unfold releaseUndispatchedInvocation
  exact AllOrNothing.bind (reads_refuse _ _) fun _ =>
    AllOrNothing.bind (reads_refuse _ _) fun _ =>
      AllOrNothing.bind (reads_check _) fun _ => AllOrNothing.atomically _

/-! ### Retry audits -/

/-- The audit of a retry is that of the slot's next call, and of no other. -/
theorem isRetryOf_retryEvent {r : Row} {event : Dict} (h : retryEvent r = .ok event)
    (eventId : ℕ) (runId stage provider : Str) (c : ℕ) :
    isRetryOf runId stage provider c ⟨eventId, r.runId, retryStarted, event, now⟩ =
      decide (r.slot = (runId, stage, provider) ∧ c = r.callCount + 1) := by
  unfold retryEvent at h
  split at h
  · rename_i failure hfailure
    have hencode : ∀ d : Dict, Dict.encode d = .ok event → event = d.canon := by
      intro d hd
      unfold Dict.encode at hd
      split at hd
      · cases hd
      split at hd
      · cases hd
      · cases hd
        rfl
    rw [hencode _ h]
    unfold isRetryOf
    simp only [Dict.get?_canon_eq]
    have hstage : (Dict.get? [(lit "stage", .str r.stage), (lit "provider", .str r.provider),
        (lit "retry_call_count", .int (r.callCount + 1 : ℕ)),
        (lit "retry_kind", .str (Store.retryKind (messageText (field failure (lit "message"))))),
        (lit "prior_failure", .obj failure)] (lit "stage")).map Json.canon =
          some (.str r.stage) := rfl
    have hprovider : (Dict.get? [(lit "stage", .str r.stage), (lit "provider", .str r.provider),
        (lit "retry_call_count", .int (r.callCount + 1 : ℕ)),
        (lit "retry_kind", .str (Store.retryKind (messageText (field failure (lit "message"))))),
        (lit "prior_failure", .obj failure)] (lit "provider")).map Json.canon =
          some (.str r.provider) := rfl
    have hcount : (Dict.get? [(lit "stage", .str r.stage), (lit "provider", .str r.provider),
        (lit "retry_call_count", .int (r.callCount + 1 : ℕ)),
        (lit "retry_kind", .str (Store.retryKind (messageText (field failure (lit "message"))))),
        (lit "prior_failure", .obj failure)] (lit "retry_call_count")).map Json.canon =
          some (.int (r.callCount + 1 : ℕ)) := rfl
    rw [hstage, hprovider, hcount]
    simp only [Row.slot, Prod.mk.injEq, decide_true, Bool.and_true, Option.some.injEq,
      Json.str.injEq, Json.int.injEq, Nat.cast_inj, ← Bool.decide_and, decide_eq_decide]
    constructor
    · rintro ⟨⟨⟨hrun, hst⟩, hpr⟩, hc⟩
      exact ⟨⟨hrun, hst, hpr⟩, hc.symm⟩
    · rintro ⟨⟨hrun, hst, hpr⟩, hc⟩
      exact ⟨⟨⟨hrun, hst⟩, hpr⟩, hc.symm⟩
  · cases h

/-- Only the audits of retries are audits of a retry. -/
theorem isRetryOf_of_type {e : EventRow} (h : e.type ≠ retryStarted)
    (runId stage provider : Str) (c : ℕ) : isRetryOf runId stage provider c e = false := by
  unfold isRetryOf
  rw [decide_eq_false h, Bool.and_false, Bool.false_and, Bool.false_and, Bool.false_and]

/-- An event audits one call. -/
theorem isRetryOf_eq {e : EventRow} {runId stage provider : Str} {c : ℕ}
    (h : isRetryOf runId stage provider c e = true) (runId' stage' provider' : Str) (c' : ℕ) :
    isRetryOf runId' stage' provider' c' e =
      decide ((runId, stage, provider) = (runId', stage', provider') ∧ c = c') := by
  unfold isRetryOf at h ⊢
  simp only [Bool.and_eq_true, decide_eq_true_eq] at h
  obtain ⟨⟨⟨⟨hrun, htype⟩, hstage⟩, hprovider⟩, hcount⟩ := h
  rw [hrun, htype, hstage, hprovider, hcount]
  simp only [Prod.mk.injEq, decide_true, Bool.and_true, Option.some.injEq, Json.str.injEq,
    Json.int.injEq, Nat.cast_inj, ← Bool.decide_and, and_assoc]

/-- The calls of a slot: the count of its row. -/
def Tables.callsOf (t : Tables) (runId stage provider : Str) : ℕ :=
  ((t.slot runId stage provider).map Row.callCount).getD 0

/-- What holds of all tables that are reached: ids and slots are unique, rows are well
formed, and every call of a slot after its first has one retry audit. -/
structure Tables.Inv (t : Tables) : Prop where
  ids : Rows.Unique Row.id t.invocations
  slots : Rows.Unique Row.slot t.invocations
  rows : ∀ r ∈ t.invocations, r.WellFormed
  eventIds : Rows.Unique EventRow.id t.events
  nextEvent : ∀ e ∈ t.events, e.id < t.nextEventId
  retries : ∀ runId stage provider c, t.events.countP (isRetryOf runId stage provider c) =
    if 2 ≤ c ∧ c ≤ t.callsOf runId stage provider then 1 else 0

namespace Tables.Inv

/-- What is found under a slot is a row of that slot. -/
theorem row_of_slot (h : t.Inv) {runId stage provider : Str} {r : Row}
    (hr : t.slot runId stage provider = some r) :
    r ∈ t.invocations ∧ r.slot = (runId, stage, provider) :=
  (Rows.find_eq_some h.slots).1 hr

/-- The calls of the slot of a row. -/
theorem callsOf_of_mem (h : t.Inv) {r : Row} (hr : r ∈ t.invocations)
    {runId stage provider : Str} (hslot : r.slot = (runId, stage, provider)) :
    t.callsOf runId stage provider = r.callCount := by
  unfold Tables.callsOf Tables.slot
  rw [← hslot, Rows.find_key h.slots hr]
  rfl

/-- An update of a row changes the calls of its own slot only. -/
theorem callsOf_updateRow (h : t.Inv) {r : Row} (hr : r ∈ t.invocations) {f : Row → Row}
    (hf : ∀ a, (f a).slot = a.slot) (runId stage provider : Str) :
    (t.updateRow r.id f).callsOf runId stage provider =
      if r.slot = (runId, stage, provider) then (f r).callCount
      else t.callsOf runId stage provider := by
  unfold Tables.callsOf Tables.slot Tables.updateRow
  rw [Rows.find_change h.slots h.ids hr hf]
  split <;> rfl

/-- An event that audits no retry. -/
theorem insertEvent (h : t.Inv) {runId type : Str} (payload : Dict)
    (htype : type ≠ retryStarted) : (t.insertEvent runId type payload now).Inv where
  ids := h.ids
  slots := h.slots
  rows := h.rows
  eventIds := h.eventIds.append fun e he => (h.nextEvent e he).ne
  nextEvent e he := by
    rcases List.mem_append.1 he with he | he
    · exact (h.nextEvent e he).trans (Nat.lt_succ_self _)
    · rw [List.mem_singleton.1 he]
      exact Nat.lt_succ_self _
  retries runId' stage provider c := by
    show (t.events ++ [_]).countP _ = _
    rw [List.countP_append, h.retries, List.countP_singleton, isRetryOf_of_type htype]
    rfl

/-- A change of rows that keeps ids, slots and call counts. -/
theorem updateRow (h : t.Inv) {id : Str} {f : Row → Row} (hid : ∀ r, (f r).id = r.id)
    (hslot : ∀ r, (f r).slot = r.slot) (hcount : ∀ r, (f r).callCount = r.callCount)
    (hrows : ∀ r ∈ t.invocations, (f r).WellFormed) : (t.updateRow id f).Inv where
  ids := h.ids.change hid
  slots := h.slots.change hslot
  rows r hr := by
    rcases Rows.mem_change.1 hr with ⟨a, ha, -, rfl⟩ | ⟨hr, -⟩
    · exact hrows a ha
    · exact h.rows r hr
  eventIds := h.eventIds
  nextEvent := h.nextEvent
  retries runId stage provider c := by
    have hcalls : (t.updateRow id f).callsOf runId stage provider =
        t.callsOf runId stage provider := by
      unfold Tables.callsOf Tables.slot Tables.updateRow
      rw [Rows.find_change_map hslot, Option.map_map]
      refine congrArg (fun g => ((Rows.find Row.slot t.invocations
        (runId, stage, provider)).map g).getD 0) (funext fun r => ?_)
      show (if r.id = id then f r else r).callCount = r.callCount
      split
      · exact hcount r
      · rfl
    rw [hcalls]
    exact h.retries runId stage provider c

/-- A failed row is started again. -/
theorem restart (h : t.Inv) {r : Row} {event : Dict} (hr : r ∈ t.invocations)
    (hevent : retryEvent r = .ok event) :
    ((t.insertEvent r.runId retryStarted event now).updateRow r.id (Row.restarted now)).Inv where
  ids := h.ids.change fun _ => rfl
  slots := h.slots.change fun _ => rfl
  rows r' hr' := by
    rcases Rows.mem_change.1 hr' with ⟨a, ha, -, rfl⟩ | ⟨hr', -⟩
    · exact ⟨(h.rows a ha).texts, Nat.le_add_left 1 _, ⟨now, rfl⟩, ⟨now, rfl⟩, .inl rfl, nofun⟩
    · exact h.rows r' hr'
  eventIds := h.eventIds.append fun e he => (h.nextEvent e he).ne
  nextEvent e he := by
    rcases List.mem_append.1 he with he | he
    · exact (h.nextEvent e he).trans (Nat.lt_succ_self _)
    · rw [List.mem_singleton.1 he]
      exact Nat.lt_succ_self _
  retries runId stage provider c := by
    have hone := (h.rows r hr).callCount
    have hcalls : ((t.insertEvent r.runId retryStarted event now).updateRow r.id
        (Row.restarted now)).callsOf runId stage provider =
          if r.slot = (runId, stage, provider) then r.callCount + 1
          else t.callsOf runId stage provider :=
      h.callsOf_updateRow hr (f := Row.restarted now) (fun _ => rfl) runId stage provider
    show (t.events ++ [_]).countP _ = _
    rw [List.countP_append, h.retries, List.countP_singleton, isRetryOf_retryEvent hevent, hcalls]
    by_cases hslot : r.slot = (runId, stage, provider)
    · rw [if_pos hslot, h.callsOf_of_mem hr hslot]
      simp only [hslot, true_and, decide_eq_true_eq]
      split_ifs <;> omega
    · rw [if_neg hslot]
      simp only [hslot, false_and, decide_false, Bool.false_eq_true, if_false, Nat.add_zero]

/-- A slot is started for the first time. -/
theorem start (h : t.Inv) {uuid runId stage provider model lineage prompt : Str}
    (hslot : t.slot runId stage provider = none) (hid : ∀ r ∈ t.invocations, r.id ≠ uuid)
    (htexts : ∀ s ∈ [uuid, runId, stage, provider, model, lineage, rt.sha256 prompt],
      Str.encodable s = true) :
    ({ t with invocations := t.invocations ++
      [startedRow rt now uuid runId stage provider model lineage prompt] } : Tables).Inv where
  ids := h.ids.append hid
  slots := h.slots.append (Rows.find_eq_none.1 hslot)
  rows r hr := by
    rcases List.mem_append.1 hr with hr | hr
    · exact h.rows r hr
    · rw [List.mem_singleton.1 hr]
      exact ⟨htexts, Nat.le_refl 1, ⟨now, rfl⟩, ⟨now, rfl⟩, .inl rfl, nofun⟩
  eventIds := h.eventIds
  nextEvent := h.nextEvent
  retries runId' stage' provider' c := by
    set row := startedRow rt now uuid runId stage provider model lineage prompt with hrow
    have hcalls : ({ t with invocations := t.invocations ++ [row] } : Tables).callsOf runId' stage'
        provider' = if row.slot = (runId', stage', provider') then 1
          else t.callsOf runId' stage' provider' := by
      have hfresh : ∀ a ∈ t.invocations, a.slot ≠ row.slot := Rows.find_eq_none.1 hslot
      unfold Tables.callsOf Tables.slot
      rw [Rows.find_append hfresh]
      split <;> rfl
    rw [hcalls, h.retries]
    by_cases heq : row.slot = (runId', stage', provider')
    · have hnone : t.callsOf runId' stage' provider' = 0 := by
        unfold Tables.callsOf Tables.slot
        rw [← heq]
        exact congrArg (fun r => (Option.map Row.callCount r).getD 0) hslot
      rw [if_pos heq, hnone]
      split_ifs <;> omega
    · rw [if_neg heq]

/-- A row of one call is deleted. -/
theorem deleteRow (h : t.Inv) {r : Row} (hr : r ∈ t.invocations) (hcount : r.callCount = 1) :
    (t.deleteRow r.id).Inv where
  ids := h.ids.filter _
  slots := h.slots.filter _
  rows r' hr' := h.rows r' (List.mem_filter.1 hr').1
  eventIds := h.eventIds
  nextEvent := h.nextEvent
  retries runId stage provider c := by
    have hcalls : (t.deleteRow r.id).callsOf runId stage provider =
        if r.slot = (runId, stage, provider) then 0 else t.callsOf runId stage provider := by
      unfold Tables.callsOf Tables.slot Tables.deleteRow
      rw [Rows.find_delete h.slots h.ids hr]
      split <;> rfl
    rw [hcalls]
    refine (h.retries runId stage provider c).trans ?_
    by_cases hslot : r.slot = (runId, stage, provider)
    · rw [if_pos hslot, h.callsOf_of_mem hr hslot, hcount]
      split_ifs <;> omega
    · rw [if_neg hslot]

/-- A row is given its prior state back, and the audit of its last call goes. -/
theorem restore (h : t.Inv) {r : Row} (hr : r ∈ t.invocations) {f : Row → Row}
    (hid : ∀ a, (f a).id = a.id) (hslot : ∀ a, (f a).slot = a.slot)
    (hwf : (f r).WellFormed) (hcount : (f r).callCount + 1 = r.callCount) {e : EventRow}
    (he : e ∈ t.events) (haudit : isRetryOf r.runId r.stage r.provider r.callCount e = true) :
    ((t.deleteEvent e.id).updateRow r.id f).Inv where
  ids := h.ids.change hid
  slots := h.slots.change hslot
  rows r' hr' := by
    rcases Rows.mem_change.1 hr' with ⟨a, ha, hsame, rfl⟩ | ⟨hr', -⟩
    · rw [h.ids.eq ha hr hsame]
      exact hwf
    · exact h.rows r' hr'
  eventIds := h.eventIds.filter _
  nextEvent e' he' := h.nextEvent e' (List.mem_filter.1 he').1
  retries runId stage provider c := by
    have hone := hwf.callCount
    have hcalls : ((t.deleteEvent e.id).updateRow r.id f).callsOf runId stage provider =
        if r.slot = (runId, stage, provider) then (f r).callCount
        else t.callsOf runId stage provider :=
      h.callsOf_updateRow hr hslot runId stage provider
    have hsplit := (h.eventIds.perm_delete he).countP_eq (isRetryOf runId stage provider c)
    rw [List.countP_cons, h.retries, isRetryOf_eq haudit] at hsplit
    show (t.events.filter fun a => a.id ≠ e.id).countP _ = _
    rw [hcalls]
    by_cases heq : r.slot = (runId, stage, provider)
    · have heq' : (r.runId, r.stage, r.provider) = (runId, stage, provider) := heq
      rw [h.callsOf_of_mem hr heq] at hsplit
      rw [if_pos heq]
      simp only [heq', true_and, decide_eq_true_eq] at hsplit
      split_ifs at hsplit ⊢ <;> omega
    · have heq' : (r.runId, r.stage, r.provider) ≠ (runId, stage, provider) := heq
      rw [if_neg heq]
      simp only [heq', false_and, decide_false, Bool.false_eq_true, if_false,
        Nat.add_zero] at hsplit
      exact hsplit.symm

end Tables.Inv

/-! ### Reachable tables -/

/-- The tables that calls of the methods lead to, with the rows that have been there.
Events are appended for other reasons than a retry, and what a release restores has been
read from the tables. -/
inductive Reachable (rt : Runtime) : Tables → List Row → Prop
  | empty : Reachable rt {} []
  | createRun {t : Tables} {seen : List Row} (runId : Str) :
      Reachable rt t seen → Reachable rt { t with runs := t.runs ++ [runId] } seen
  | start {t t' : Tables} {seen : List Row} {now : Stamp}
      {uuid runId stage provider model lineage prompt id : Str} : Reachable rt t seen →
      (startInvocation rt now uuid runId stage provider model lineage prompt).run t =
        (.ok id, t') → Reachable rt t' (t'.invocations ++ seen)
  | success {t t' : Tables} {seen : List Row} {now : Stamp} {id : Str}
      {response : ProviderResponse} : Reachable rt t seen →
      (finishInvocationSuccess rt now id response).run t = (.ok (), t') →
      Reachable rt t' (t'.invocations ++ seen)
  | failure {t t' : Tables} {seen : List Row} {now : Stamp} {id : Str} {error : ProviderError} :
      Reachable rt t seen → (finishInvocationFailure rt now id error).run t = (.ok (), t') →
      Reachable rt t' (t'.invocations ++ seen)
  | event {t t' : Tables} {seen : List Row} {now : Stamp} {runId type : Str} {payload : Dict} :
      Reachable rt t seen → type ≠ retryStarted →
      (appendEvent rt now runId type payload).run t = (.ok (), t') → Reachable rt t' seen
  | release {t t' : Tables} {seen : List Row} {now : Stamp} {id : Str} {error : ProviderError}
      {n : ℤ} {prior : Option Row} : Reachable rt t seen → (∀ r, prior = some r → r ∈ seen) →
      (releaseUndispatchedInvocation rt now id error n (prior.map invocationFromRow)).run t =
        (.ok (), t') → Reachable rt t' (t'.invocations ++ seen)

/-- The audit that a release has found. -/
theorem retryAudit_ok {r : Row} {failure : Dict} {eventId : ℕ} {kind : Str}
    (h : retryAudit t r failure = .ok (eventId, kind)) : ∃ e ∈ t.events, e.id = eventId ∧
      isRetryOf r.runId r.stage r.provider r.callCount e = true := by
  unfold retryAudit at h
  split at h
  · rename_i e hevents
    split at h
    · cases h
    split at h
    · split at h
      · cases h
        have he : e ∈ t.events.filter (isRetryOf r.runId r.stage r.provider r.callCount) := by
          rw [hevents]
          exact List.mem_singleton_self e
        exact ⟨e, (List.mem_filter.1 he).1, rfl, (List.mem_filter.1 he).2⟩
      · cases h
    · cases h
  · cases h

/-- The error of a row that has failed. -/
theorem decodeJson_failureOutcome (e : ProviderError) :
    decodeJson (failureOutcome e).errorJson .null = .obj e.stored := rfl

/-- A release keeps the invariant. -/
theorem Released.inv {error : ProviderError} {n : ℤ} {r : Row} {prior : Option Row}
    (h : Released rt now error n t r (prior.map invocationFromRow) t') (hinv : t.Inv)
    (hr : r ∈ t.invocations) (hprior : ∀ r, prior = some r → r.WellFormed) : t'.Inv := by
  have hinserted : ∀ event, (t.insertEvent r.runId callNotDispatched event now).Inv := fun event =>
    hinv.insertEvent event (by decide)
  generalize hd : prior.map invocationFromRow = d at h
  cases h with
  | deleted hone => exact (hinserted _).deleteRow hr hone
  | @restored dict p event hchecked =>
    obtain ⟨r₀, rfl, rfl⟩ := Option.map_eq_some_iff.1 hd
    have hwf := hprior r₀ rfl
    obtain ⟨himmutable, hfailed, -, hnext, hfailure, -, -, haudit, hcount⟩ :=
      checkPrior_invocationFromRow_iff.1 hchecked
    obtain ⟨e, houtcome, -, -⟩ := hwf.failed hfailed
    have hstored : p.failure = e.stored := by
      rw [houtcome, decodeJson_failureOutcome] at hfailure
      exact (Json.obj.inj hfailure).symm
    have hback := restored_invocationFromRow hwf hfailed houtcome himmutable hstored hcount
    obtain ⟨a, ha, haid, hmatch⟩ := retryAudit_ok haudit
    rw [← haid]
    refine (hinserted event).restore (f := Row.restored (invocationFromRow r₀) p) hr
      (fun _ => rfl) (fun _ => rfl) ?_ ?_ (List.mem_append_left _ ha) hmatch
    · rw [hback]
      exact hwf
    · rw [hback]
      exact hnext

/-- **The invariant holds of all reachable tables**, and all rows that have been there were
well formed. -/
theorem Reachable.inv {seen : List Row} (h : Reachable rt t seen) :
    t.Inv ∧ ∀ r ∈ seen, r.WellFormed := by
  induction h with
  | empty =>
    refine ⟨⟨List.nodup_nil, List.nodup_nil, fun _ h => (nomatch h), List.nodup_nil,
      fun _ h => (nomatch h), fun _ _ _ c => ?_⟩, fun _ h => (nomatch h)⟩
    show 0 = if 2 ≤ c ∧ c ≤ 0 then 1 else 0
    split_ifs <;> omega
  | createRun runId _ ih => exact ⟨⟨ih.1.ids, ih.1.slots, ih.1.rows, ih.1.eventIds,
      ih.1.nextEvent, ih.1.retries⟩, ih.2⟩
  | start _ hok ih =>
    obtain ⟨hinv, hseen⟩ := ih
    suffices hinv' : _ by
      exact ⟨hinv', fun r hr => (List.mem_append.1 hr).elim (hinv'.rows r) (hseen r)⟩
    obtain ⟨htexts, ⟨r, -, -, rfl⟩ | ⟨r, event, hslot, -, -, hevent, rfl⟩ |
      ⟨hslot, -, hnew, hfresh, rfl⟩⟩ := startInvocation_ok hok
    · exact hinv
    · obtain ⟨hr, hkey⟩ := hinv.row_of_slot hslot
      obtain rfl : r.runId = _ := congrArg Prod.fst hkey
      exact hinv.restart hr hevent
    · refine hinv.start hslot hfresh ?_
      simp only [List.forall_mem_cons] at htexts hnew ⊢
      exact ⟨hnew.1, htexts.1, htexts.2.1, htexts.2.2.1, hnew.2.1, hnew.2.2.1, hnew.2.2.2.1,
        fun _ h => nomatch h⟩
  | @success t t' seen now id response _ hok ih =>
    obtain ⟨hinv, hseen⟩ := ih
    suffices hinv' : _ by
      exact ⟨hinv', fun r hr => (List.mem_append.1 hr).elim (hinv'.rows r) (hseen r)⟩
    rcases finishInvocationSuccess_ok hok with rfl | ⟨value, rfl⟩
    · exact hinv
    · refine hinv.updateRow (fun _ => rfl) (fun _ => rfl) (fun _ => rfl) fun r hr => ?_
      have hwf := hinv.rows r hr
      exact ⟨hwf.texts, hwf.callCount, hwf.startedAt, ⟨now, rfl⟩, .inr ⟨now, rfl⟩, nofun⟩
  | @failure t t' seen now id error _ hok ih =>
    obtain ⟨hinv, hseen⟩ := ih
    suffices hinv' : _ by
      exact ⟨hinv', fun r hr => (List.mem_append.1 hr).elim (hinv'.rows r) (hseen r)⟩
    rcases finishInvocationFailure_ok hok with rfl | ⟨hencodes, hbind, rfl⟩
    · exact hinv
    · refine hinv.updateRow (fun _ => rfl) (fun _ => rfl) (fun _ => rfl) fun r hr => ?_
      have hwf := hinv.rows r hr
      exact ⟨hwf.texts, hwf.callCount, hwf.startedAt, ⟨now, rfl⟩, .inr ⟨now, rfl⟩,
        fun _ => ⟨error, rfl, hencodes, hbind⟩⟩
  | event _ htype hok ih =>
    obtain ⟨payload, rfl⟩ := appendEvent_ok hok
    exact ⟨ih.1.insertEvent payload htype, ih.2⟩
  | release _ hprior hok ih =>
    obtain ⟨hinv, hseen⟩ := ih
    suffices hinv' : _ by
      exact ⟨hinv', fun r hr => (List.mem_append.1 hr).elim (hinv'.rows r) (hseen r)⟩
    obtain ⟨-, -, -, -, r, hrow, -, -, hreleased⟩ := releaseUndispatchedInvocation_ok_iff.1 hok
    exact hreleased.inv hinv (Rows.find_some hrow).1 fun r hr => hseen r (hprior r hr)

end Columns
end CouncilLogic
