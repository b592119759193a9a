/-
# Leases

Under a durable gate every start of a slot asks for a reservation of its own, and the
lease that is granted is settled at most once, as the call was made or not.  What is left
reserved belongs to a call that is still running, was abandoned, or is ambiguous.

The gate is `DurableCallGate` of `src/model_council/service.py`; the engine of
`src/model_council/engine.py` settles a lease in `_execute_provider_call` or after it, and
`docs/PORTABLE-SERVICE.md` says what becomes of the rows.
-/

import CouncilLogic.Engine.Follow
import CouncilLogic.Guarantees.ServiceBudget
import CouncilLogic.Service.Ledger

namespace CouncilLogic

open Protocol Service

variable {rt : Runtime} {spec : RunSpec} {w : World} {stage : Stage} {provider : Str}

/-! ### The fate of a lease -/

/-- What has become of the lease of the `n`-th start of a slot: the state of its
reservation, by what was done for the slot and by its row.  An ambiguous failure that was
not written for a process that ended, nor for a reconciliation that failed, is the outcome
of the call itself. -/
structure LeaseFate (actions : List Action) (row : Option Invocation) (n : ℕ)
    (state : Option ReservationState) : Prop where
  fate : state = some .reserved ∨ state = some .released ∧ ¬ Dispatched actions n ∨
    state = some (.reconciled 1) ∧ Dispatched actions n
  kept : state = some .reserved → n = countStarts actions ∧
    ∃ r, row = some r ∧ (r.state = .running ∨ r.failedAmbiguous = true)
  unasked : ¬ AskedToSettle actions n → state = some .reserved
  ambiguous : n = countStarts actions → ∀ r e, row = some r → r.state = .failed e →
    e.ambiguous = true → e ≠ priorAmbiguousError → (∀ typeName, e ≠ reconcileError typeName) →
      ¬ AskedToSettle actions n ∧ state = some .reserved

/-- **The fate of every lease.** -/
theorem Run.leaseFate (h : Run rt spec w) {gate : DurableCallGate} {st : ServiceStore}
    (hfull : NoCollision gate rt spec w.trace) (hserved : Served gate rt spec w.trace st)
    {n : ℕ} (hn : n ∈ grantsOf (w.actionsOf stage provider)) :
    LeaseFate (w.actionsOf stage provider) (w.store.slot stage provider) n
      (st.stateOf (gate.reservationId rt spec.id (stage, provider) n)) := by
  have hledger := hserved.ledger hfull (fun _ ha => ha) fun slot => h.legal slot.1 slot.2
  have hlegal := h.legal stage provider
  have hended := h.ended stage provider
  obtain ⟨hpos, hle, phase, hphase, hlease⟩ := hlegal.hasLease hn
  -- a lease was granted for an attempt that was asked for
  have hasked : n ∈ attemptsOf (w.actionsOf stage provider) := by
    obtain ⟨a, ha, hgrant⟩ := List.mem_filterMap.1 hn
    obtain ⟨before, after, hsplit⟩ := List.append_of_mem ha
    have hnext := hlegal before a after hsplit
    cases a with
    | granted call attempt =>
      cases hgrant
      obtain ⟨hbefore, hattempt⟩ := hnext
      have hinit : Legal before := by
        rw [hsplit] at hlegal
        exact hlegal.left
      have hlast := hinit.getLast?_attemptsOf (by rw [hbefore]; trivial)
      rw [← hattempt] at hlast
      have hmem := List.mem_of_getLast? hlast
      rw [hsplit]
      unfold attemptsOf at hmem ⊢
      rw [List.filterMap_append]
      exact List.mem_append_left _ hmem
    | attempt | started | generate | reserved | released | reconciled | settled | enter
    | overLimit | adjudicated => cases hgrant
  obtain ⟨phase', hphase', hbooks⟩ := hledger.asked (stage, provider) n hasked
  have hsame : phase' = phase := by
    have heq : (livesOf (w.actionsOf stage provider))[n - 1]? = some phase' := hphase'
    rw [hphase, Option.some.injEq] at heq
    exact heq.symm
  subst hsame
  have hunasked : ¬ AskedToSettle (w.actionsOf stage provider) n →
      st.stateOf (gate.reservationId rt spec.id (stage, provider) n) = some .reserved := fun hno =>
    hbooks.unasked hlease ((hlegal.askedToSettle_iff hpos hphase).not.2 hno)
  have hcurrent : n = countStarts (w.actionsOf stage provider) →
      phase' = phaseOf (w.actionsOf stage provider) := by
    intro hlast
    have hlife := livesOf_last (hlast ▸ hpos)
    rw [← hlast, hphase, Option.some.injEq] at hlife
    exact hlife
  refine ⟨hbooks.fate hlease (hlegal.dispatched_iff hpos hphase), fun hreserved => ?kept, hunasked,
    fun hlast r e hrow hstate hambiguous hprior hreconcile => ?ambiguous⟩
  case ambiguous =>
    have hrowEnded : EndedAs phase' r.state := hcurrent hlast ▸ hended.row r hrow
    rw [hstate, EndedAs, if_pos hambiguous] at hrowEnded
    have hopen : ¬ phase'.IsSettled := by
      rcases hrowEnded with heq | hopen | ⟨-, typeName, heq⟩
      · exact absurd heq hprior
      · exact hopen
      · exact absurd heq (hreconcile typeName)
    have hno := (hlegal.askedToSettle_iff hpos hphase).not.1 hopen
    exact ⟨hno, hunasked hno⟩
  case kept =>
    have hopen : ¬ phase'.Closed := fun hclosed => hbooks.ne_reserved hlease hclosed hreserved
    have hlast : n = countStarts (w.actionsOf stage provider) := by
      by_contra hne
      refine hopen (hended.closed phase' ?_)
      have hlt : n - 1 < countStarts (w.actionsOf stage provider) - 1 := by omega
      rw [List.mem_iff_getElem?]
      refine ⟨n - 1, ?_⟩
      rw [List.getElem?_dropLast]
      show (if n - 1 < (livesOf (w.actionsOf stage provider)).length - 1 then _ else none) = _
      rw [length_livesOf, if_pos hlt]
      exact hphase
    have hnow := hcurrent hlast
    refine ⟨hlast, ?_⟩
    cases hrow : w.store.slot stage provider with
    | none =>
      rcases hended.absent hrow with hzero | hunsent
      · have hzero' : countStarts (w.actionsOf stage provider) = 0 := hzero
        omega
      · exact absurd (.inr (hnow ▸ hunsent)) hopen
    | some r =>
      refine ⟨r, rfl, ?_⟩
      have hrowEnded : EndedAs phase' r.state := hnow ▸ hended.row r hrow
      cases hstate : r.state with
      | running => exact .inl rfl
      | succeeded response =>
        rw [hstate] at hrowEnded
        exact absurd (.inl hrowEnded) hopen
      | failed e =>
        right
        rw [hstate] at hrowEnded
        by_contra hno
        have hambiguous : e.ambiguous = false := by
          simpa [Invocation.failedAmbiguous, hstate] using hno
        have hclosed : if e.ambiguous then _ else phase'.Closed := hrowEnded
        rw [hambiguous, if_neg Bool.false_ne_true] at hclosed
        exact hopen hclosed

/-- **Leases.**  The gate is asked for a slot with the number of its starts so far, so the
attempts are strictly increasing, and the service never answers that the reservation exists
already.  A lease is released only if its call was not made, and reconciled with one unit
only if it was; what is left reserved is the lease of the last start, whose row is running
or has failed as ambiguous.  Nothing is settled unless the gate is asked to, and it is not
asked about a call whose outcome was ambiguous: that lease stays reserved. -/
theorem lease_settlement {c : Prog.Config World PyErr Question Answer Dict}
    (h : Reachable rt spec c) (gate : DurableCallGate)
    (hsha : ∀ call n call' n', .reserved call n ∈ c.state.trace →
      .reserved call' n' ∈ c.state.trace →
      rt.sha256 (gate.material spec.id call.slot n) =
          rt.sha256 (gate.material spec.id call'.slot n') →
        gate.material spec.id call.slot n = gate.material spec.id call'.slot n') :
    (∀ pre call n post, c.state.trace = pre ++ .reserved call n :: post →
      n = countStarts (slotActions pre call.slot) ∧
        ∀ st, Served gate rt spec pre st → ∀ now,
          (st.reserveCall (gate.request rt spec call n) now).2.code ≠ .replay) ∧
      (∀ slot, (attemptsOf (slotActions c.state.trace slot)).Pairwise (· < ·)) ∧
      ∀ st, Served gate rt spec c.state.trace st → ∀ stage provider,
        ∀ n ∈ grantsOf (c.state.actionsOf stage provider),
          LeaseFate (c.state.actionsOf stage provider) (c.state.store.slot stage provider) n
            (st.stateOf (gate.reservationId rt spec.id (stage, provider) n)) := by
  have hfull := noCollision_of_sha256 hsha
  refine ⟨fun pre call n post hsplit => ?_,
    fun slot => (h.run.legal slot.1 slot.2).ascending.sorted,
    fun st hserved stage provider n hn => h.run.leaseFate hfull hserved hn⟩
  have hearlier : ∀ slot, Legal (slotActions (pre ++ [.reserved call n]) slot) := by
    intro slot
    have hslot := h.run.legal slot.1 slot.2
    have heq : c.state.actionsOf slot.1 slot.2 =
        slotActions (pre ++ [.reserved call n]) slot ++ slotActions post slot := by
      show slotActions c.state.trace slot = _
      rw [hsplit]
      unfold slotActions
      rw [← List.filter_append, List.append_assoc]
      rfl
    rw [heq] at hslot
    exact hslot.left
  have hown := hearlier call.slot
  have hof : (Action.reserved call n).isOf call.slot.1 call.slot.2 = true := by
    rw [isOf_iff rfl]
    exact decide_eq_true rfl
  rw [slotActions_own hof] at hown
  obtain ⟨hbefore, hphase, hcount⟩ := legal_snoc.1 hown
  refine ⟨hcount, fun st hserved now => ?_⟩
  have hlegal : ∀ slot, Legal (slotActions pre slot) := by
    intro slot
    have hslot := hearlier slot
    rw [slotActions_snoc] at hslot
    exact hslot.left
  have hledger := hserved.ledger hfull
    (fun a ha => by rw [hsplit]; exact List.mem_append_left _ ha) hlegal
  have hnone := hledger.unasked call n (by rw [hsplit]; simp) fun hold => by
    have := hbefore.ascending.fresh hphase n hold
    omega
  exact ServiceStore.reserveCall_ne_replay (Option.map_eq_none_iff.1 hnone)

/-! ### A process that ends after settling -/

/-- A response of the example. -/
def exampleResponse : ProviderResponse where
  content := lit "Because."
  resolvedModel := lit "m"
  finishReason := some (lit "stop")

/-- The example when the lease of its call has been reconciled. -/
def exampleReconciled (prompts : PromptPair) (events : List Event) : World where
  store := (exampleStarted prompts events).store
  live := [0]
  trace := (exampleStarted prompts events).trace ++
    [.reserved (exampleCall prompts 1800) 1, .granted (exampleCall prompts 1800) 1,
      .generate (exampleCall prompts 1800) (exampleStarted prompts events).store,
      .reconciled (exampleCall prompts 1800), .settled (exampleCall prompts 1800)]

/-- A run of the example in which a lease is granted, the call is made and the lease is
reconciled. -/
theorem exampleRun_reconciled : ∃ prompts events,
    Reachable exampleRuntime exampleSpec (.idle (exampleReconciled prompts events).lose) := by
  obtain ⟨prompts, hprompts⟩ := exists_examplePrompts
  obtain ⟨plan, events, h⟩ := exampleRun_opening true
  have hstart := ends_exampleStart hprompts events
  rw [h.notDispatchedCount] at hstart
  let leased := ((exampleStarted prompts events).record
    (.reserved (exampleCall prompts 1800) 1)).record (.granted (exampleCall prompts 1800) 1)
  have hnow : (leased.now : ℤ) < (exampleArgs prompts).deadline := by
    show ((0 : ℕ) : ℤ) < 900
    omega
  obtain ⟨p, hp⟩ := exampleRun_pool hprompts h (w := exampleReconciled prompts events) (by
    refine passes_runPool (i := 0) rfl (hstart.seq (Prog.ends_pure _ _)) ?_
    refine passes_runPool (i := 0) rfl
      ((ends_reserveTask_lease _ _ _ _).seq (Prog.ends_pure _ _)) ?_
    refine passes_runPool (i := 0) rfl
      ((ends_dispatchTask (w := leased) hnow).seq (Prog.ends_pure _ _)) ?_
    refine passes_runPool (i := 0) rfl
      ((ends_returnTask _ _ _ _ exampleResponse _).seq (Prog.ends_pure _ _)) ?_
    exact passes_movePool (i := 0) rfl ((passes_settle exampleResponse _).catching.left _))
  obtain ⟨eng, draws, question, st, hcreate, hspec, hreach⟩ := hp.created
  exact ⟨prompts, events, eng, draws, question, st, hcreate, hspec, hreach.tail (.stop _ _)⟩

def exampleGate : DurableCallGate := ⟨lit "agent", .personal, lit "policy"⟩

/-- The service serves the example. -/
theorem exampleRun_served (prompts : PromptPair) (events : List Event) : ∃ st,
    Served exampleGate exampleRuntime exampleSpec (exampleReconciled prompts events).trace st ∧
      st.stateOf (exampleGate.reservationId exampleRuntime exampleSpec.id
        (.proposal, lit "solo") 1) = some (.reconciled 1) := by
  let call := exampleCall prompts 1800
  let now : DateTime := ⟨2026, 7, 1, 0⟩
  let started := [Action.enter .proposal [(lit "solo", prompts)] (.opened exampleSpec events),
    .attempt call (.opened exampleSpec events), .started call (.opened exampleSpec events)]
  let sent := [Action.reserved call 1, .granted call 1,
    .generate call (exampleStarted prompts events).store, .reconciled call]
  have hfresh : Served exampleGate exampleRuntime exampleSpec [] exampleStore :=
    .fresh _ List.nodup_nil fun _ _ => rfl
  have hstarted : Served exampleGate exampleRuntime exampleSpec started exampleStore :=
    .act _ _ (.act _ _ (.act _ _ hfresh _ rfl) _ rfl) _ rfl
  have hgranted := Served.granted _ _ (.act _ _ hstarted (.reserved call 1) rfl) call 1 now rfl
    rfl rfl
  have hsent : Served exampleGate exampleRuntime exampleSpec (started ++ sent) _ := .act _ _
    (.act _ _ hgranted (.generate call (exampleStarted prompts events).store) rfl)
    (.reconciled call) rfl
  have hsettled := Served.reconciled _ _ hsent call 1 now rfl rfl _ rfl rfl
  exact ⟨_, hsettled, rfl⟩

/-- The lease of that run: reconciled, with the one call that was made. -/
theorem lease_settlement_example : ∃ prompts events state,
    LeaseFate ((exampleReconciled prompts events).actionsOf .proposal (lit "solo"))
      (some (exampleRow (combinedPrompt prompts))) 1 state ∧ state = some (.reconciled 1) := by
  obtain ⟨prompts, events, h⟩ := exampleRun_reconciled
  obtain ⟨st, hserved, hstate⟩ := exampleRun_served prompts events
  have hall := lease_settlement h exampleGate fun _ _ _ _ _ _ heq => heq
  exact ⟨prompts, events, _, hall.2.2 st hserved .proposal (lit "solo") 1
    (List.mem_singleton.2 rfl), hstate⟩

/-- A process that ends after its lease was reconciled, and before the row is finished,
leaves no reservation behind. -/
theorem settled_before_crash :
    ¬ ∀ rt spec w stage provider r gate st n, Reachable rt spec (.idle w) →
      w.store.slot stage provider = some r → r.state = .running →
      Served gate rt spec w.trace st → n ∈ grantsOf (w.actionsOf stage provider) →
      n = countStarts (w.actionsOf stage provider) →
        st.stateOf (gate.reservationId rt spec.id (stage, provider) n) = some .reserved := by
  intro hclaim
  obtain ⟨prompts, events, h⟩ := exampleRun_reconciled
  obtain ⟨st, hserved, hstate⟩ := exampleRun_served prompts events
  have hrow : (exampleReconciled prompts events).lose.store.slot .proposal (lit "solo") =
      some (exampleRow (combinedPrompt prompts)) := rfl
  have hkept := hclaim _ _ _ .proposal (lit "solo") _ exampleGate st 1 h hrow rfl hserved
    (List.mem_singleton.2 rfl) rfl
  rw [hstate] at hkept
  cases hkept

end CouncilLogic
