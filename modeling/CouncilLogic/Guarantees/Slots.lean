/-
# The slots of a run

Every (stage, provider) slot has at most one row, whose call count and audits agree, and
what has succeeded is final.  After a truncated response a slot is called again at most
as often as the policy allows, whatever happens in between.

The rows are those of the table `invocations` in `src/model_council/store.py`; the limit is
`truncation_retries` of `_run_parallel_stage` in `src/model_council/engine.py`.
-/

import CouncilLogic.Engine.DispatchLaws
import CouncilLogic.Engine.RetryLaws
import CouncilLogic.Engine.Twice
import CouncilLogic.Guarantees.Suppression

namespace CouncilLogic

open Protocol

variable {rt : Runtime} {spec : RunSpec} {w w' : World} {stage : Stage} {provider : Str}
  {v v' : SlotView}

/-! ### Truncation retries -/

/-- The truncation retries a slot may have. -/
def RunPolicy.truncationLimit (policy : RunPolicy) (stage : Stage) : ℕ :=
  if stage = .juryRepair then 0 else policy.truncationRetries.toNat

/-- Every move keeps the truncation retries of a slot within the policy. -/
theorem SlotMove.truncations_le (h : SlotMove rt spec stage provider w v v')
    (hview : v = w.view stage provider) (hs : v.Sound stage provider)
    (hv : v.truncations stage provider ≤ spec.config.policy.truncationLimit stage) :
    v'.truncations stage provider ≤ spec.config.policy.truncationLimit stage := by
  cases h with
  | same | act | first | succeed | fail | cancel => exact hv
  | again call config r e hslot hconfig ok hrow hstate hsame =>
    rw [Call.slot, Prod.mk.injEq] at hslot
    obtain ⟨rfl, rfl⟩ := hslot
    have hrow' : w.store.slot call.stage call.provider = some r := by
      rw [hview] at hrow
      exact hrow
    show (v.retries ++ [Store.retryAudit r e]).countP _ ≤ _
    rw [List.countP_append, List.countP_singleton, isTruncationRetry_audit (hs.slot r hrow) e]
    unfold SlotView.truncations at hv
    by_cases hsuffix : Store.lengthSuffix <:+ e.message
    · -- the row was truncated, so the policy was asked for one more retry
      have hquiet := (ok.quiet _ r hrow').2
      have hambiguous : e.ambiguous = false := by
        simpa [Invocation.failedAmbiguous, hstate] using hquiet
      have hlength : isLengthFailure (w.store.slot call.stage call.provider) = true := by
        rw [hrow', isLengthFailure_eq hstate, hambiguous, decide_eq_true hsuffix]
        rfl
      have hlimit := ok.retry.truncation hlength
      rw [truncationRetryCount_view, ← hview] at hlimit
      have hno : call.stage ≠ .juryRepair := by
        intro hrepair
        have hnone := ok.retry.repair hrepair
        rw [hrow'] at hnone
        cases hnone
      unfold SlotView.truncations at hlimit
      rw [decide_eq_true hsuffix, if_pos rfl, RunPolicy.truncationLimit, if_neg hno]
      omega
    · rw [decide_eq_false hsuffix, if_neg Bool.false_ne_true]
      omega
  | restore r e callCount hrow hrun hlive hphase hpos hcount hprior =>
    exact (List.Sublist.countP_le List.filter_sublist).trans hv

/-- A slot is called again after a truncated response at most as often as the policy allows. -/
theorem Run.truncations_le (h : Run rt spec w) (stage : Stage) (provider : Str) :
    (w.view stage provider).truncations stage provider ≤
      spec.config.policy.truncationLimit stage :=
  h.view_induction stage provider (Nat.zero_le _)
    fun _ _ _ hrun hview hmove hv =>
      hmove.truncations_le hview (hview ▸ hrun.sound stage provider) hv

/-- A response that was cut off is stored as a failure that counts as truncated. -/
theorem isLengthFailure_of_length {response : ProviderResponse} {e : ProviderError}
    {r : Invocation} (hlength : response.finishReason = some (lit "length"))
    (he : completionError (some response) = some e) (hstate : r.state = .failed e) :
    isLengthFailure (some r) = true := by
  have hany : ((some response).any fun r => decide (r.finishReason = some (lit "length"))) =
      true := by simp [hlength]
  rw [isLengthFailure_eq hstate, completionError_ambiguous he,
    decide_eq_true (completionError_length hany he)]
  rfl

/-- **The truncation retry bound.**  A failed row is truncated if it was left by a response
that was cut off.  Over the whole life of a run, the calls of a slot that were started on a
truncated row are at most `truncation_retries`, and none in the repair stage. -/
theorem truncation_retry_bound {c : Prog.Config World PyErr Question Answer Dict}
    (h : Reachable rt spec c) (stage : Stage) (provider : Str) :
    (c.state.dispatchesOf stage provider).countP isTruncated ≤
        (if stage = .juryRepair then 0 else spec.config.policy.truncationRetries.toNat) ∧
      ∀ response e r, response.finishReason = some (lit "length") →
        completionError (some response) = some e → r.state = .failed e →
          isLengthFailure (some r) = true := by
  refine ⟨?_, fun response e r hlength he hstate => isLengthFailure_of_length hlength he hstate⟩
  have hpaid := (h.run.paid stage provider).truncations
  have hle := h.run.truncations_le stage provider
  exact (Nat.le_add_right _ _).trans (hpaid.trans hle)

/-- The run that makes its call twice has used up its truncation retry. -/
theorem truncation_retry_bound_example : ∃ prompts events,
    ((madeTwice none prompts events).dispatchesOf .proposal (lit "solo")).countP isTruncated = 1 ∧
      1 ≤ (soloSpec 50 none).config.policy.truncationRetries.toNat ∧
      isLengthFailure (some (cutRow prompts)) = true := by
  obtain ⟨prompts, plan, events, p, h, hreach⟩ := soloRun_madeTwice none
  have hbound := truncation_retry_bound hreach .proposal (lit "solo")
  have hlimit : ((madeTwice none prompts events).dispatchesOf .proposal (lit "solo")).countP
      isTruncated ≤ (soloSpec 50 none).config.policy.truncationRetries.toNat := hbound.1
  have hcount : ((madeTwice none prompts events).dispatchesOf .proposal (lit "solo")).countP
      isTruncated = 1 := by
    rw [h.dispatchesOf_madeTwice, List.countP_cons, List.countP_singleton,
      h.isTruncated_secondCall]
    rfl
  rw [hcount] at hlimit
  exact ⟨prompts, events, hcount, hlimit, hbound.2 cutResponse cutError _ rfl rfl rfl⟩

/-! ### The state machine of a slot -/

/-- The call counts that the audits of a slot's retries carry, in order. -/
def Store.retryCounts (st : Store) (stage : Stage) (provider : Str) : List (Option Json) :=
  (st.events.filter (isRetry stage provider)).map fun e =>
    e.payload.get? (lit "retry_call_count")

/-- The call count of a slot: that of its row. -/
def Store.callCountOf (st : Store) (stage : Stage) (provider : Str) : ℕ :=
  ((st.slot stage provider).map Invocation.callCount).getD 0

/-- The audit of a retry carries the number of its call. -/
theorem retryCount_retryAuditOf (n : ℕ) (prior : ProviderError) :
    (retryAuditOf stage provider n prior).payload.get? (lit "retry_call_count") =
      some (.int n) := by
  unfold retryAuditOf
  rw [Dict.get?_canon (keys_retryEvent_nodup stage provider n prior)]
  simp [Store.retryEvent, Dict.get?_cons, Json.canon]

/-- The audits of a slot count its calls from the second on. -/
theorem retryCounts_retryAudits (priors : List ProviderError) :
    (retryAudits stage provider priors).map
        (fun e => e.payload.get? (lit "retry_call_count")) =
      (List.range' 2 priors.length).map fun n : ℕ => some (.int (n : ℤ)) := by
  refine List.ext_getElem (by simp [retryAudits]) fun i h₁ h₂ => ?_
  simp only [retryAudits, List.getElem_map, List.getElem_mapIdx, List.getElem_range',
    retryCount_retryAuditOf, one_mul]
  rw [Nat.add_comm]

/-- The audits of a slot's retries count its calls from the second on. -/
theorem Run.retryCounts_eq (h : Run rt spec w) (stage : Stage) (provider : Str) :
    w.store.retryCounts stage provider =
      (List.range' 2 (w.store.callCountOf stage provider - 1)).map
        fun n : ℕ => some (.int (n : ℤ)) := by
  obtain ⟨priors, heq, hlen⟩ := (h.sound stage provider).retries
  have hcalls : (w.view stage provider).calls = w.store.callCountOf stage provider := rfl
  have hcounts : w.store.retryCounts stage provider =
      (retryAudits stage provider priors).map fun e => e.payload.get? (lit "retry_call_count") := by
    rw [← heq]
    rfl
  rw [hcounts, retryCounts_retryAudits, hlen, hcalls]

/-- **The state machine of a slot.**  In every state of a run a slot has at most one row,
and one that has succeeded stays as it is in every later state; the audits of its retries
carry the call counts `2, …, call_count`; the calls that are counted are the starts that
were not released; and reading the retries back never fails. -/
theorem slot_state_machine {c : Prog.Config World PyErr Question Answer Dict}
    (h : Reachable rt spec c) :
    (c.state.store.invocations.map fun r => (r.stage, r.provider)).Nodup ∧
      (∀ c', Prog.Reach (Resumes rt) World.lose c c' →
        ∀ r ∈ c.state.store.invocations, ∀ response, r.state = .succeeded response →
          r ∈ c'.state.store.invocations) ∧
      (∀ stage provider, c.state.store.retryCounts stage provider =
        (List.range' 2 (c.state.store.callCountOf stage provider - 1)).map
          fun n : ℕ => some (.int (n : ℤ))) ∧
      c.state.trace.countP Action.isStart =
        c.state.store.countCalls +
          c.state.store.events.countP (fun e => e.type = .providerCallNotDispatched) ∧
      ∃ recoveries, providerRetryRecoveries spec.config c.state.store = .ok recoveries := by
  have hwf := h.run.inv.wellFormed
  refine ⟨hwf.slots, ?_, h.run.retryCounts_eq, h.run.counted, h.run.providerRetryRecoveries_ok⟩
  intro c' hlater r hr response hstate
  have hrow := hwf.slot_of_mem hr
  have hrow' := h.run.succeeded_row (h.later hlater) hrow hstate
  exact ((h.run.trans (h.later hlater)).inv.wellFormed.slot_eq_some.1 hrow').1

/-- In the run that makes its call twice the slot has one row, its second call is on record,
and the two starts are counted. -/
theorem slot_state_machine_example : ∃ prompts events,
    (madeTwice none prompts events).store.invocations.length = 1 ∧
      (madeTwice none prompts events).store.retryCounts .proposal (lit "solo") = [some (.int 2)] ∧
      (madeTwice none prompts events).trace.countP Action.isStart = 2 ∧
      ∃ recoveries, providerRetryRecoveries (soloSpec 50 none).config
        (madeTwice none prompts events).store = .ok recoveries := by
  obtain ⟨prompts, plan, events, p, h, hreach⟩ := soloRun_madeTwice none
  obtain ⟨-, -, hretries, hstarts, hrecoveries⟩ := slot_state_machine hreach
  obtain ⟨marker, started, preflight, -, -, -, rfl⟩ := h.written
  exact ⟨prompts, _, rfl, hretries .proposal (lit "solo"), hstarts, hrecoveries⟩

end CouncilLogic
