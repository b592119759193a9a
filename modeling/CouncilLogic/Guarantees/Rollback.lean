/-
# Releasing what was not dispatched

`start_invocation` clears sixteen columns of a failed row, counts a call and audits the
retry; `release_undispatched_invocation` takes all of it back from the dictionary the row
had been read as.  Nothing remains but the event that says so, and a release that raises
leaves nothing at all.

The two methods are in `src/model_council/store.py`; the engine calls the second one where its
gate refuses a call that has been started.
-/

import CouncilLogic.Engine.Creation
import CouncilLogic.Store.ColumnLaws

namespace CouncilLogic
namespace Columns

open Transaction
open Protocol (field)

variable {rt : Runtime} {t t₁ : Tables} {seen : List Row} {now now' : Stamp} {r : Row}
  {e error : ProviderError} {n : ℤ} {runId stage provider model lineage prompt uuid id : Str}

/-! ### The two audits -/

/-- The audit of a release can be written. -/
theorem notDispatchedEvent_stores (hrt : rt.Standard) (hr : r.WellFormed) (herror : error.Encodes)
    (hn : n < Json.intLimit) (hcount : (r.callCount : ℤ) ≤ n) (prior : Option Prior)
    (hrestored : ∀ p, prior = some p → p.callCount ≤ r.callCount)
    (hkind : ∀ p, prior = some p → Str.encodable p.retryKind = true)
    (hfailure : ∀ p, prior = some p → ∃ e : ProviderError, e.Encodes ∧ p.failure = e.stored) :
    ∃ event, Dict.store rt (lit "$.undispatched_call") (notDispatchedEvent r error n prior) =
      .ok event := by
  have htexts := hr.texts
  simp only [List.forall_mem_cons] at htexts
  obtain ⟨hid, -, hstage, hprovider, hmodel, hlineage, hsha, -⟩ := htexts
  have hprior : Json.storable rt ((prior.map fun p => Json.obj p.failure).getD .null) = true := by
    cases prior with
    | none => rfl
    | some p =>
      obtain ⟨e, he, hstored⟩ := hfailure p rfl
      show Json.storableFields rt p.failure = true
      rw [hstored]
      exact (he.storable hrt).2
  have hnumber : ∀ m : ℤ, 0 ≤ m → m ≤ n → Json.storable rt (.int m) = true := fun m hm hle =>
    decide_eq_true (by omega)
  have hprevious : (prior.map Prior.callCount).getD 0 ≤ r.callCount := by
    cases prior with
    | none => exact Nat.zero_le _
    | some p => exact hrestored p rfl
  have hone := hr.callCount
  have hretry : Json.storable rt (optStr (prior.map Prior.retryKind)) = true := by
    cases prior with
    | none => rfl
    | some p => exact hkind p rfl
  refine stores_record hrt (d := notDispatchedEvent r error n prior) ?_ ?_ _
  · show [lit "version", lit "invocation_id", lit "stage", lit "provider", lit "model",
      lit "lineage", lit "prompt_sha256", lit "reservation_attempt", lit "attempted_call_count",
      lit "restored_call_count", lit "retry_kind", lit "prior_failure", lit "error"] ⊆ stageFields
    decide
  · simp only [notDispatchedEvent, List.forall_mem_cons]
    exact ⟨hnumber 1 (by omega) (by omega), hid, hstage, hprovider, hmodel, hlineage, hsha,
      hnumber n (by omega) le_rfl, hnumber _ (by omega) hcount, hnumber _ (by omega) (by omega),
      hretry, hprior, (herror.storable hrt).1, fun _ hf => nomatch hf⟩

/-- The audit of a retry names the error of the row. -/
theorem retryEvent_failureOutcome {event : Dict} (ho : r.outcome = failureOutcome e)
    (h : retryEvent r = .ok event) : field event (lit "prior_failure") = .obj e.stored ∧
      ∃ kind, field event (lit "retry_kind") = .str kind ∧
        (kind = lit "application" ∨ kind = lit "truncation") := by
  unfold retryEvent priorFailure at h
  rw [ho] at h
  have hencode : ∀ d : Dict, Dict.encode d = .ok event → event = d.canon := by
    intro d hd
    unfold Dict.encode at hd
    split at hd
    · cases hd
    split at hd
    · cases hd
    · cases hd
      rfl
  rw [hencode _ h]
  simp only [field_canon]
  refine ⟨?_, _, rfl, ?_⟩
  · show Json.canon (.obj e.stored) = _
    rw [Dict.canon_obj]
    exact congrArg Json.obj (Dict.canon_canon e.toDict)
  · unfold Store.retryKind
    split
    · exact .inr rfl
    · exact .inl rfl

/-- The retry of a started slot has one audit. -/
theorem retryAudit_restarted {event : Dict} (h : t.Inv) (hr : r ∈ t.invocations)
    (ho : r.outcome = failureOutcome e) (hevent : retryEvent r = .ok event) :
    ∃ kind, (kind = lit "application" ∨ kind = lit "truncation") ∧
      retryAudit ((t.insertEvent r.runId retryStarted event now).updateRow r.id
        (Row.restarted now)) (r.restarted now) e.stored = .ok (t.nextEventId, kind) := by
  obtain ⟨hfailure, kind, hkind, hkinds⟩ := retryEvent_failureOutcome ho hevent
  refine ⟨kind, hkinds, ?_⟩
  have hnone : t.events.filter (isRetryOf r.runId r.stage r.provider (r.callCount + 1)) = [] := by
    rw [← List.length_eq_zero_iff, ← List.countP_eq_length_filter, h.retries,
      h.callsOf_of_mem hr rfl, if_neg (by omega)]
  set audit : EventRow := ⟨t.nextEventId, r.runId, retryStarted, event, now⟩ with haudit
  have hone : (t.events ++ [audit]).filter
      (isRetryOf r.runId r.stage r.provider (r.callCount + 1)) = [audit] := by
    rw [List.filter_append, hnone, List.nil_append, List.filter_cons, haudit,
      isRetryOf_retryEvent hevent]
    exact if_pos (decide_eq_true ⟨rfl, rfl⟩)
  have hsame : Json.same (field event (lit "prior_failure")) (.obj e.stored) = true := by
    rw [hfailure]
    exact beq_self_eq_true _
  have hmatching : ((t.insertEvent r.runId retryStarted event now).updateRow r.id
      (Row.restarted now)).events.filter (isRetryOf (r.restarted now).runId
        (r.restarted now).stage (r.restarted now).provider (r.restarted now).callCount) =
        [audit] := hone
  unfold retryAudit
  rw [hmatching, haudit]
  simp only [hsame, Bool.true_eq_false, if_false, hkind, if_pos hkinds]

/-! ### There and back -/

/-- What a release leaves of the tables before the start: everything, and one event. -/
def RestoredBy (runId : Str) (now : Stamp) (t t₂ : Tables) : Prop :=
  t₂.runs = t.runs ∧ t₂.invocations = t.invocations ∧
    (∃ eventId event, t₂.events = t.events ++
      [⟨eventId, runId, callNotDispatched, event, now⟩]) ∧
    ∀ run, t₂.countCalls run = t.countCalls run

/-- A slot that was not there is not there again. -/
theorem release_started (hrt : rt.Standard)
    (hslot : t.slot runId stage provider = none)
    (hstart : (startInvocation rt now uuid runId stage provider model lineage prompt).run t =
      (.ok id, t₁)) :
    (∃ r₁, t₁.invocation id = some r₁ ∧ r₁.callCount = 1) ∧
      ∀ {now' : Stamp} {error : ProviderError} {n : ℤ}, error.ambiguous = false →
        error.Encodes → 1 ≤ n → n < Json.intLimit →
        ∃ t₂, (releaseUndispatchedInvocation rt now' id error n none).run t₁ = (.ok (), t₂) ∧
          RestoredBy runId now' t t₂ := by
  obtain ⟨htexts, ⟨r, hr, -⟩ | ⟨r, -, hr, -⟩ | ⟨-, rfl, hnew, hfresh, rfl⟩⟩ :=
    startInvocation_ok hstart
  · rw [hslot] at hr
    cases hr
  · rw [hslot] at hr
    cases hr
  set row := startedRow rt now uuid runId stage provider model lineage prompt with hrow
  have hrowWf : row.WellFormed := by
    refine ⟨?_, Nat.le_refl 1, ⟨now, rfl⟩, ⟨now, rfl⟩, .inl rfl, nofun⟩
    simp only [List.forall_mem_cons] at htexts hnew ⊢
    exact ⟨hnew.1, htexts.1, htexts.2.1, htexts.2.2.1, hnew.2.1, hnew.2.2.1, hnew.2.2.2.1,
      fun _ h => nomatch h⟩
  have hfind : ({ t with invocations := t.invocations ++ [row] } : Tables).invocation uuid =
      some row := by
    unfold Tables.invocation
    rw [Rows.find_append hfresh]
    exact if_pos rfl
  refine ⟨⟨row, hfind, rfl⟩, fun {now' error n} hambiguous hencodes hn hprinted => ?_⟩
  obtain ⟨event, hevent⟩ := notDispatchedEvent_stores hrt hrowWf hencodes hprinted hn none nofun
    nofun nofun
  have hback : (t.invocations ++ [row]).filter (fun r => r.id ≠ uuid) = t.invocations := by
    rw [List.filter_append, List.filter_eq_self.2 fun r hr => decide_eq_true (hfresh r hr)]
    have hlast : [row].filter (fun r => r.id ≠ uuid) = [] := by simp [hrow, startedRow]
    rw [hlast, List.append_nil]
  refine ⟨_, releaseUndispatchedInvocation_ok_iff.2 ⟨hambiguous, hn,
    Json.assertNoCredentials_of_storable (.obj error.toDict) _ (hencodes.storable hrt).1,
    hnew uuid List.mem_cons_self, row, hfind, rfl, hn, .deleted rfl hevent⟩, rfl, hback,
    ⟨t.nextEventId, event, rfl⟩, fun run => ?_⟩
  show (((((t.invocations ++ [row]).filter fun r => r.id ≠ uuid).filter _).map _).sum) = _
  rw [hback]
  rfl

/-- A slot that had failed has failed again, with the columns it had. -/
theorem release_restarted (hrt : rt.Standard) (hinv : t.Inv)
    (hslot : t.slot runId stage provider = some r) (hfailed : r.status = .failed)
    (hclear : r.outcome.errorAmbiguous = .int 0)
    (hstart : (startInvocation rt now uuid runId stage provider model lineage prompt).run t =
      (.ok id, t₁)) :
    (∃ r₁, t₁.invocation id = some r₁ ∧ r₁.callCount = r.callCount + 1) ∧
      ∀ {now' : Stamp} {error : ProviderError} {n : ℤ}, error.ambiguous = false →
        error.Encodes → (r.callCount + 1 : ℕ) ≤ n → n < Json.intLimit →
        ∃ t₂, (releaseUndispatchedInvocation rt now' id error n
          (some (invocationFromRow r))).run t₁ = (.ok (), t₂) ∧ RestoredBy runId now' t t₂ := by
  obtain ⟨-, ⟨r', hr', hstatus, -⟩ | ⟨r', event, hr', -, rfl, hevent, rfl⟩ | ⟨hnone, -⟩⟩ :=
    startInvocation_ok hstart
  · rw [hslot] at hr'
    cases hr'
    exact absurd hfailed hstatus
  · rw [hslot] at hr'
    cases hr'
    obtain ⟨hr, hkey⟩ := hinv.row_of_slot hslot
    obtain rfl : r.runId = runId := congrArg Prod.fst hkey
    have hwf := hinv.rows r hr
    obtain ⟨e, houtcome, he, hbind⟩ := hwf.failed hfailed
    have hcertain : e.ambiguous = false := by
      rw [houtcome] at hclear
      cases hb : e.ambiguous with
      | false => rfl
      | true =>
        unfold failureOutcome at hclear
        rw [hb] at hclear
        cases hclear
    obtain ⟨kind, hkinds, haudit⟩ := @retryAudit_restarted t now r e event hinv hr houtcome hevent
    obtain ⟨p, hp⟩ : ∃ p : Prior, p = ⟨t.nextEventId, kind, e.stored, r.callCount⟩ := ⟨_, rfl⟩
    have hstored : p.failure = e.stored := by rw [hp]
    have hcounted : p.callCount = r.callCount := by rw [hp]
    have haudited : p.eventId = t.nextEventId := by rw [hp]
    have hkinded : p.retryKind = kind := by rw [hp]
    have himmutable : immutableFields r = immutableFields (r.restarted now) := rfl
    have hchecked : checkPrior rt ((t.insertEvent r.runId retryStarted event now).updateRow r.id
        (Row.restarted now)) (r.restarted now) (invocationFromRow r) = .ok p := by
      refine checkPrior_invocationFromRow_iff.2 ⟨himmutable, hfailed, hwf.callCount, rfl, ?_,
        ?_, ?_, ?_, hcounted⟩
      · rw [houtcome, decodeJson_failureOutcome, hstored]
      · rw [hstored]
        exact Json.assertNoCredentials_of_storable (.obj e.stored) _ (he.storable hrt).2
      · rw [hstored, failureConsistent_invocationFromRow houtcome, hcertain]
        rfl
      · rw [hstored, haudited, hkinded]
        exact haudit
    have hkindText : Str.encodable kind = true := by
      rcases hkinds with rfl | rfl <;> decide
    have hrunning : (r.restarted now).WellFormed :=
      ⟨hwf.texts, Nat.le_add_left 1 _, ⟨now, rfl⟩, ⟨now, rfl⟩, .inl rfl, nofun⟩
    have hfind : ((t.insertEvent r.runId retryStarted event now).updateRow r.id
        (Row.restarted now)).invocation r.id = some (r.restarted now) := by
      have hkeep : ∀ a : Row, a.id = r.id → (a.restarted now).id = r.id := fun _ h => h
      show Rows.find Row.id (Rows.change Row.id t.invocations r.id (Row.restarted now)) r.id = _
      rw [Rows.find_change_key hkeep, if_pos rfl, Rows.find_key hinv.ids hr]
      rfl
    refine ⟨⟨_, hfind, rfl⟩, fun {now' error n} hambiguous hencodes hn hprinted => ?_⟩
    obtain ⟨record, hrecord⟩ := notDispatchedEvent_stores hrt hrunning hencodes hprinted hn (some p)
      (fun _ h => Option.some.inj h ▸ hcounted.trans_le (Nat.le_succ _))
      (fun _ h => Option.some.inj h ▸ hkinded ▸ hkindText)
      fun _ h => ⟨e, he, Option.some.inj h ▸ hstored⟩
    have hrestored : Row.restored (invocationFromRow r) p (r.restarted now) = r :=
      restored_invocationFromRow hwf hfailed houtcome himmutable hstored hcounted
    have hrows : Rows.change Row.id (Rows.change Row.id t.invocations r.id (Row.restarted now))
        r.id (Row.restored (invocationFromRow r) p) = t.invocations :=
      hinv.ids.change_change hr (fun _ => rfl) hrestored
    obtain ⟨audit, haudit⟩ : ∃ a : EventRow,
      a = ⟨t.nextEventId, r.runId, retryStarted, event, now⟩ := ⟨_, rfl⟩
    obtain ⟨released, hreleased⟩ : ∃ a : EventRow,
      a = ⟨t.nextEventId + 1, r.runId, callNotDispatched, record, now'⟩ := ⟨_, rfl⟩
    have hevents : (t.events ++ [audit] ++ [released]).filter (fun a => a.id ≠ p.eventId) =
        t.events ++ [released] := by
      rw [haudited, List.append_assoc, List.filter_append, List.filter_eq_self.2 fun a ha =>
        decide_eq_true (hinv.nextEvent a ha).ne]
      simp [haudit, hreleased]
    rw [haudit, hreleased] at hevents
    have hid := hwf.texts r.id List.mem_cons_self
    refine ⟨_, releaseUndispatchedInvocation_ok_iff.2 ⟨hambiguous, by omega,
      Json.assertNoCredentials_of_storable (.obj error.toDict) _ (hencodes.storable hrt).1, hid,
      r.restarted now, hfind, rfl, hn, .restored hchecked hrecord ?_
        (bindTimes_invocationFromRow hwf)⟩, rfl, hrows, ⟨t.nextEventId + 1, record, hevents⟩,
      fun run => ?_⟩
    · rw [hstored, restoredOutcome_invocationFromRow houtcome]
      exact hbind
    · show ((((Rows.change Row.id (Rows.change Row.id t.invocations r.id (Row.restarted now))
        r.id (Row.restored (invocationFromRow r) p)).filter _).map _).sum) = _
      rw [hrows]
      rfl
  · rw [hslot] at hnone
    cases hnone

/-! ### The rollback -/

/-- The error of a release that returns has been written, and so has its number. -/
theorem encodes_of_released {prior : Option Dict} {t₂ : Tables}
    (h : Released rt now error n t r prior t₂) : error.Encodes ∧ n < Json.intLimit := by
  have hfields : ∀ {p event}, Dict.store rt (lit "$.undispatched_call")
      (notDispatchedEvent r error n p) = .ok event → error.Encodes ∧ n < Json.intLimit := by
    intro p event hstore
    have hall := Dict.encodable_of_encode (Dict.encode_of_store hstore)
    have hdumps := Dict.dumpable_of_encode (Dict.encode_of_store hstore)
    rw [Json.encodableFields_eq_all, List.all_eq_true] at hall
    rw [Json.dumpableFields_eq_all, List.all_eq_true] at hdumps
    have herror := hall (lit "error", .obj error.toDict) (by simp [notDispatchedEvent])
    have hprinted := hdumps (lit "error", .obj error.toDict) (by simp [notDispatchedEvent])
    have hnumber : n.natAbs < Json.intLimit := of_decide_eq_true
      (hdumps (lit "reservation_attempt", .int n) (by simp [notDispatchedEvent]))
    exact ⟨ProviderError.encodes_iff.2 ⟨hprinted, (Bool.and_eq_true_iff.1 herror).2⟩, by omega⟩
  cases h with
  | deleted _ hevent => exact hfields hevent
  | restored _ hevent _ _ => exact hfields hevent

/-- **A call that is not dispatched leaves no trace but its audit**: started in a slot that
is absent or has failed for certain and released with what the slot was read as, it gives
back every column of the row, the audits of the retries and the number of calls.  A release
returns exactly when its error is certain and can be written and its reservation counts the
call and can be printed, and one that raises changes nothing. -/
theorem undispatched_rollback (hrt : rt.Standard) (h : Reachable rt t seen)
    (hslot : ∀ r, t.slot runId stage provider = some r →
      r.status = .failed ∧ r.outcome.errorAmbiguous = .int 0)
    (hstart : (startInvocation rt now uuid runId stage provider model lineage prompt).run t =
      (.ok id, t₁)) :
    (∀ (now' : Stamp) (error : ProviderError) (n : ℤ),
      let released := (releaseUndispatchedInvocation rt now' id error n
        ((t.slot runId stage provider).map invocationFromRow)).run t₁
      ((∃ t₂, released = (.ok (), t₂)) ↔ error.ambiguous = false ∧ error.Encodes ∧
        (t.callsOf runId stage provider + 1 : ℕ) ≤ n ∧ n < Json.intLimit) ∧
      ∀ t₂, released = (.ok (), t₂) → RestoredBy runId now' t t₂) ∧
    ∀ (t t' : Tables) (now : Stamp) (id : Str) (error : ProviderError) (n : ℤ)
      (prior : Option Dict) (e : PyErr),
      (releaseUndispatchedInvocation rt now id error n prior).run t = (.error e, t') →
        t' = t := by
  obtain ⟨hinv, -⟩ := h.inv
  refine ⟨fun now' error n => ?_, fun t t' now id error n prior e hraise =>
    releaseUndispatchedInvocation_allOrNothing now id error n prior hraise⟩
  obtain ⟨⟨r₁, hr₁, hcalls⟩, hreturns⟩ :
      (∃ r₁, t₁.invocation id = some r₁ ∧
        r₁.callCount = t.callsOf runId stage provider + 1) ∧
      (error.ambiguous = false → error.Encodes → (t.callsOf runId stage provider + 1 : ℕ) ≤ n →
        n < Json.intLimit →
        ∃ t₂, (releaseUndispatchedInvocation rt now' id error n
          ((t.slot runId stage provider).map invocationFromRow)).run t₁ = (.ok (), t₂) ∧
          RestoredBy runId now' t t₂) := by
    cases hs : t.slot runId stage provider with
    | none =>
      have hzero : t.callsOf runId stage provider = 0 := by
        unfold Tables.callsOf
        rw [hs]
        rfl
      rw [hzero]
      obtain ⟨hrow, hreturns⟩ := release_started hrt hs hstart
      exact ⟨hrow, fun hambiguous hencodes hn hprinted =>
        hreturns hambiguous hencodes hn hprinted⟩
    | some r =>
      obtain ⟨hr, hkey⟩ := hinv.row_of_slot hs
      obtain ⟨hfailed, hclear⟩ := hslot r hs
      rw [hinv.callsOf_of_mem hr hkey]
      obtain ⟨hrow, hreturns⟩ := release_restarted hrt hinv hs hfailed hclear hstart
      exact ⟨hrow, fun hambiguous hencodes hn hprinted =>
        hreturns hambiguous hencodes hn hprinted⟩
  have hconditions : ∀ t₂, (releaseUndispatchedInvocation rt now' id error n
      ((t.slot runId stage provider).map invocationFromRow)).run t₁ = (.ok (), t₂) →
      error.ambiguous = false ∧ error.Encodes ∧
        (t.callsOf runId stage provider + 1 : ℕ) ≤ n ∧ n < Json.intLimit := by
    intro t₂ hok
    obtain ⟨hambiguous, -, -, -, r, hr, -, hn, hreleased⟩ :=
      releaseUndispatchedInvocation_ok_iff.1 hok
    rw [hr₁] at hr
    cases hr
    rw [← hcalls]
    obtain ⟨hencodes, hprinted⟩ := encodes_of_released hreleased
    exact ⟨hambiguous, hencodes, hn, hprinted⟩
  refine ⟨⟨fun ⟨t₂, hok⟩ => hconditions t₂ hok, fun ⟨hambiguous, hencodes, hn, hprinted⟩ => ?_⟩,
    fun t₂ hok => ?_⟩
  · obtain ⟨t₂, hok, -⟩ := hreturns hambiguous hencodes hn hprinted
    exact ⟨t₂, hok⟩
  · obtain ⟨hambiguous, hencodes, hn, hprinted⟩ := hconditions t₂ hok
    obtain ⟨t₃, hok', hback⟩ := hreturns hambiguous hencodes hn hprinted
    rw [hok] at hok'
    cases hok'
    exact hback

/-! ### An example -/

def exampleStamp : Stamp := ⟨lit "2026-01-01T00:00:00.000000Z", by decide⟩

/-- A provider that was not available. -/
def exampleFailure : ProviderError where
  message := lit "busy"
  category := .providerServer
  retryable := true
  statusCode := some 503

/-- The start of the only slot of the example. -/
def exampleStart : Sql Str :=
  startInvocation exampleRuntime exampleStamp (lit "u") (lit "run") (lit "proposal") (lit "solo")
    (lit "m") (lit "l") (lit "Why?")

/-- Its first call has failed. -/
def exampleTables : Tables :=
  ((finishInvocationFailure exampleRuntime exampleStamp (lit "u") exampleFailure).run
    (exampleStart.run { runs := [lit "run"] }).2).2

/-- The tables of the example are reached by calls of the store. -/
theorem exampleTables_reachable : ∃ seen, Reachable exampleRuntime exampleTables seen := by
  have hok : exampleStart.run { runs := [lit "run"] } =
      (.ok (lit "u"), (exampleStart.run { runs := [lit "run"] }).2) := rfl
  have hstarted := Reachable.start (.createRun (lit "run") .empty) hok
  have hfailed : (finishInvocationFailure exampleRuntime exampleStamp (lit "u")
      exampleFailure).run (exampleStart.run { runs := [lit "run"] }).2 =
        (.ok (), exampleTables) := rfl
  exact ⟨_, .failure hstarted hfailed⟩

/-- A retry is started and released: the tables are as before, but for the event that says so. -/
theorem undispatched_rollback_example : ∃ t₁,
    exampleStart.run exampleTables = (.ok (lit "u"), t₁) ∧
      ∃ t₂, (releaseUndispatchedInvocation exampleRuntime exampleStamp (lit "u") exampleFailure 2
        ((exampleTables.slot (lit "run") (lit "proposal") (lit "solo")).map
          invocationFromRow)).run t₁ = (.ok (), t₂) ∧
        RestoredBy (lit "run") exampleStamp exampleTables t₂ := by
  obtain ⟨seen, hreach⟩ := exampleTables_reachable
  have hrt : exampleRuntime.Standard := ⟨fun _ _ => rfl, fun _ h => h⟩
  obtain ⟨t₁, hstart⟩ : ∃ t₁, exampleStart.run exampleTables = (.ok (lit "u"), t₁) := ⟨_, rfl⟩
  have hslot : ∀ r, exampleTables.slot (lit "run") (lit "proposal") (lit "solo") = some r →
      r.status = .failed ∧ r.outcome.errorAmbiguous = .int 0 := by
    intro r hr
    cases hr
    exact ⟨rfl, rfl⟩
  have hback := (undispatched_rollback hrt hreach hslot hstart).1 exampleStamp exampleFailure 2
  obtain ⟨t₂, hok⟩ := hback.1.2 ⟨rfl, ProviderError.encodes_iff.2 (by decide), by decide, by decide⟩
  exact ⟨t₁, hstart, t₂, hok, hback.2 t₂ hok⟩

end Columns
end CouncilLogic
