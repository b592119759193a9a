/-
# The engine and the service keep the same books

Each attempt for which the gate was asked has at most one reservation, and its state is
determined by how far the call has got (`Books`), whatever the gate did unseen and
whatever others do with the service in between (`Served.ledger`).

On the one side stand the actions of `src/model_council/engine.py`, on the other the rows that
`src/model_council/service_store.py` keeps; between them the gate of
`src/model_council/service.py`.  Nothing is assumed of the gate's timing: an answer may be lost
after the row was written.
-/

import CouncilLogic.Service.Gate

namespace CouncilLogic
namespace Service

variable {gate : DurableCallGate} {rt : Runtime} {spec : RunSpec} {st st' : ServiceStore}
  {full tr tr' : List Action}

/-! ### Books -/

/-- The state of a call's reservation, by how far the call has got. -/
def Books : CallPhase → Option ReservationState → Prop
  | .asked, state => state = none ∨ state = some .reserved
  | .leased, state => state = some .reserved
  | .called true, state => state = some .reserved
  | .releasing, state => state = some .reserved ∨ state = some .released
  | .released, state => state = some .released
  | .reconciling, state => state = some .reserved ∨ state = some (.reconciled 1)
  | .reconciled, state => state = some (.reconciled 1)
  | .idle, _ | .started, _ | .called false, _ => False

/-- What the run does without an answer of the gate keeps the books as they are. -/
theorem Books.next {actions : List Action} {a : Action} {state : Option ReservationState}
    (h : Books (phaseOf actions) state) (hlegal : LegalNext actions a) (ha : isAnswer a = false)
    (hstart : a.start? = none) : Books ((phaseOf actions).next a) state := by
  cases a with
  | attempt | enter | overLimit | adjudicated => exact h
  | started => cases hstart
  | granted | settled => cases ha
  | reserved call attempt =>
    rw [hlegal.1] at h
    exact h.elim
  | generate call before =>
    rcases hlegal with hphase | hphase
    · rw [hphase] at h
      exact h.elim
    · rw [hphase] at h ⊢
      exact h
  | released call =>
    rw [show phaseOf actions = .leased from hlegal] at h
    exact .inl h
  | reconciled call =>
    rw [show phaseOf actions = .called true from hlegal] at h
    exact .inl h

/-- The fate of a lease is in the books. -/
theorem Books.fate {actions : List Action} {n : ℕ} {phase : CallPhase}
    {state : Option ReservationState} (h : Books phase state) (hlease : phase.HasLease)
    (hsent : phase.IsSent ↔ Dispatched actions n) :
    state = some .reserved ∨ state = some .released ∧ ¬ Dispatched actions n ∨
      state = some (.reconciled 1) ∧ Dispatched actions n := by
  rw [← hsent]
  rcases phase with _ | _ | _ | _ | (_ | _) | _ | _ | _ | _ <;>
    simp_all [Books, CallPhase.HasLease, CallPhase.IsSent]

/-- A lease that nobody asked to settle is still reserved. -/
theorem Books.unasked {phase : CallPhase} {state : Option ReservationState}
    (h : Books phase state) (hlease : phase.HasLease) (hsettled : ¬ phase.IsSettled) :
    state = some .reserved := by
  rcases phase with _ | _ | _ | _ | (_ | _) | _ | _ | _ | _ <;>
    simp_all [Books, CallPhase.HasLease, CallPhase.IsSettled]

/-- The lease of a call that is over has been settled. -/
theorem Books.ne_reserved {phase : CallPhase} {state : Option ReservationState}
    (h : Books phase state) (hlease : phase.HasLease) (hclosed : phase.Closed) :
    state ≠ some .reserved := by
  unfold CallPhase.Closed CallPhase.Done CallPhase.Unsent at hclosed
  rcases hclosed with (rfl | rfl) | rfl | rfl | rfl
  · exact hlease.elim
  · rw [show state = some (.reconciled 1) from h]
    simp
  · exact hlease.elim
  · exact hlease.elim
  · rw [show state = some .released from h]
    simp

/-! ### Slots of a trace -/

/-- One more action is one more action of its own slot. -/
theorem slotActions_snoc (tr : List Action) (a : Action) (slot : Stage × Str) :
    slotActions (tr ++ [a]) slot =
      slotActions tr slot ++ if a.isOf slot.1 slot.2 then [a] else [] := by
  unfold slotActions
  rw [List.filter_append]
  by_cases h : a.isOf slot.1 slot.2 = true <;> simp [h]

/-- An action for another slot does not change the actions of this one. -/
theorem slotActions_other {a : Action} {slot : Stage × Str} (h : a.isOf slot.1 slot.2 = false) :
    slotActions (tr ++ [a]) slot = slotActions tr slot := by
  rw [slotActions_snoc, h]
  simp

/-- An action for a slot is added to the actions of the slot. -/
theorem slotActions_own {a : Action} {slot : Stage × Str} (h : a.isOf slot.1 slot.2 = true) :
    slotActions (tr ++ [a]) slot = slotActions tr slot ++ [a] := by
  rw [slotActions_snoc, if_pos h]

/-- An action belongs to the slot of its call. -/
theorem isOf_iff {a : Action} {call : Call} (ha : a.call? = some call) (slot : Stage × Str) :
    a.isOf slot.1 slot.2 = decide (call.slot = slot) := by
  unfold Action.isOf
  rw [ha]
  rfl

/-- An attempt that was asked for is in the trace. -/
theorem mem_attemptsOf {slot : Stage × Str} {n : ℕ} :
    n ∈ attemptsOf (slotActions tr slot) ↔
      ∃ call, call.slot = slot ∧ .reserved call n ∈ tr := by
  unfold attemptsOf slotActions
  rw [List.mem_filterMap]
  constructor
  · rintro ⟨a, ha, hn⟩
    obtain ⟨hmem, hof⟩ := List.mem_filter.1 ha
    cases a with
    | reserved call attempt =>
      cases hn
      refine ⟨call, ?_, hmem⟩
      rw [isOf_iff rfl] at hof
      exact of_decide_eq_true hof
    | attempt | started | generate | granted | released | reconciled | settled | enter
    | overLimit | adjudicated => cases hn
  · rintro ⟨call, rfl, hmem⟩
    refine ⟨.reserved call n, List.mem_filter.2 ⟨hmem, ?_⟩, rfl⟩
    rw [isOf_iff rfl]
    exact decide_eq_true rfl

/-! ### The ledger -/

/-- Distinct attempts of a trace have distinct reservations. -/
def NoCollision (gate : DurableCallGate) (rt : Runtime) (spec : RunSpec) (tr : List Action) :
    Prop :=
  ∀ call n call' n', .reserved call n ∈ tr → .reserved call' n' ∈ tr →
    gate.reservationId rt spec.id call.slot n = gate.reservationId rt spec.id call'.slot n' →
      call.slot = call'.slot ∧ n = n'

/-- The digests of the attempts that were asked for are told apart. -/
theorem noCollision_of_sha256
    (h : ∀ call n call' n', .reserved call n ∈ tr → .reserved call' n' ∈ tr →
      rt.sha256 (gate.material spec.id call.slot n) =
          rt.sha256 (gate.material spec.id call'.slot n') →
        gate.material spec.id call.slot n = gate.material spec.id call'.slot n') :
    NoCollision gate rt spec tr := by
  intro call n call' n' hmem hmem' heq
  exact material_inj (h call n call' n' hmem hmem' (List.append_cancel_left heq))

/-- The books of a run that is on its way to `full`: nothing is reserved for an attempt
that was not asked for, and the others are as their calls are. -/
structure Ledger (gate : DurableCallGate) (rt : Runtime) (spec : RunSpec)
    (full tr : List Action) (st : ServiceStore) : Prop where
  keyed : st.Keyed
  unasked : ∀ call n, .reserved call n ∈ full → n ∉ attemptsOf (slotActions tr call.slot) →
    st.stateOf (gate.reservationId rt spec.id call.slot n) = none
  asked : ∀ slot, ∀ n ∈ attemptsOf (slotActions tr slot), ∃ phase,
    (livesOf (slotActions tr slot))[n - 1]? = some phase ∧
      Books phase (st.stateOf (gate.reservationId rt spec.id slot n))

/-- The ledger after the reservation of one attempt has changed, and its call has gone on
with it. -/
theorem Ledger.update (h : Ledger gate rt spec full tr st) (hfull : NoCollision gate rt spec full)
    (hsub : ∀ a ∈ tr, a ∈ full) {slot : Stage × Str} {n : ℕ} (hkey : st'.Keyed)
    (hn : n ∈ attemptsOf (slotActions tr slot))
    (hother : ∀ id, gate.reservationId rt spec.id slot n ≠ id → st'.stateOf id = st.stateOf id)
    (hacts : ∀ slot', slot' ≠ slot → slotActions tr' slot' = slotActions tr slot')
    (hattempts : attemptsOf (slotActions tr' slot) = attemptsOf (slotActions tr slot))
    (hlives : ∀ m ∈ attemptsOf (slotActions tr slot), m ≠ n →
      (livesOf (slotActions tr' slot))[m - 1]? = (livesOf (slotActions tr slot))[m - 1]?)
    (hlife : ∃ phase, (livesOf (slotActions tr' slot))[n - 1]? = some phase ∧
      Books phase (st'.stateOf (gate.reservationId rt spec.id slot n))) :
    Ledger gate rt spec full tr' st' := by
  obtain ⟨call, rfl, hcall⟩ := mem_attemptsOf.1 hn
  have hattempts' : ∀ slot', attemptsOf (slotActions tr' slot') =
      attemptsOf (slotActions tr slot') := by
    intro slot'
    by_cases heq : slot' = call.slot
    · rw [heq]
      exact hattempts
    · rw [hacts slot' heq]
  refine ⟨hkey, fun call' m hmem hm => ?_, fun slot' m hm => ?_⟩
  · rw [hattempts'] at hm
    rw [hother, h.unasked call' m hmem hm]
    intro heq
    obtain ⟨hslot, rfl⟩ := hfull call n call' m (hsub _ hcall) hmem heq
    exact hm (hslot ▸ hn)
  · rw [hattempts'] at hm
    obtain ⟨call', rfl, hcall'⟩ := mem_attemptsOf.1 hm
    by_cases heq : gate.reservationId rt spec.id call.slot n =
        gate.reservationId rt spec.id call'.slot m
    · obtain ⟨hslot, rfl⟩ := hfull call n call' m (hsub _ hcall) (hsub _ hcall') heq
      rw [← hslot]
      exact hlife
    · obtain ⟨phase, hphase, hbooks⟩ := h.asked call'.slot m hm
      rw [hother _ heq]
      refine ⟨phase, ?_, hbooks⟩
      by_cases hslot : call'.slot = call.slot
      · rw [hslot] at hm hphase ⊢
        rw [hlives m hm (fun hmn => heq (by rw [hslot, hmn])), hphase]
      · rw [hacts _ hslot]
        exact hphase

/-- The ledger of a run goes on when others use the service. -/
theorem Ledger.others (h : Ledger gate rt spec full tr st)
    (hmove : ServiceMove (Foreign gate rt spec) st st') : Ledger gate rt spec full tr st' := by
  have hsame : ∀ slot n, st'.stateOf (gate.reservationId rt spec.id slot n) =
      st.stateOf (gate.reservationId rt spec.id slot n) := by
    intro slot n
    cases hmove with
    | call op hforeign => exact op.stateOf_other h.keyed (hforeign slot n)
    | tables => rfl
  refine ⟨hmove.keyed h.keyed, fun call n hmem hn => ?_, fun slot n hn => ?_⟩
  · rw [hsame]
    exact h.unasked call n hmem hn
  · rw [hsame]
    exact h.asked slot n hn

/-- The last attempt of a slot that waits for the gate, and its life. -/
theorem last_attempt {slot : Stage × Str} {n : ℕ} (hlegal : Legal (slotActions tr slot))
    (hasked : (phaseOf (slotActions tr slot)).IsAsked)
    (hattempt : (attemptsOf (slotActions tr slot)).getLast? = some n) :
    n ∈ attemptsOf (slotActions tr slot) ∧ n = countStarts (slotActions tr slot) ∧ 0 < n ∧
      (livesOf (slotActions tr slot))[n - 1]? = some (phaseOf (slotActions tr slot)) := by
  have hlast := hlegal.getLast?_attemptsOf hasked
  rw [hattempt, Option.some.injEq] at hlast
  have hmem := List.mem_of_getLast? hattempt
  have hpos := hlegal.ascending.pos n hmem
  refine ⟨hmem, hlast, hpos, ?_⟩
  rw [hlast]
  exact livesOf_last (hlast ▸ hpos)

/-- A life that is no longer the last goes on as it is. -/
theorem livesOf_snoc_lt {actions : List Action} {a : Action} {n : ℕ} (hpos : 0 < n)
    (h : n < countStarts actions) :
    (livesOf (actions ++ [a]))[n - 1]? = (livesOf actions)[n - 1]? :=
  livesOf_snoc_old a (by omega)

/-- The ledger after the run has done something that needs no answer. -/
theorem Ledger.act (h : Ledger gate rt spec full tr st) {a : Action}
    (hsub : ∀ b ∈ tr ++ [a], b ∈ full) (ha : isAnswer a = false)
    (hlegal : ∀ slot, Legal (slotActions (tr ++ [a]) slot)) :
    Ledger gate rt spec full (tr ++ [a]) st := by
  refine ⟨h.keyed, fun call n hmem hn => ?_, fun slot n hn => ?_⟩
  · refine h.unasked call n hmem fun hold => hn ?_
    obtain ⟨call', hslot, hcall'⟩ := mem_attemptsOf.1 hold
    exact mem_attemptsOf.2 ⟨call', hslot, List.mem_append_left _ hcall'⟩
  · by_cases hof : a.isOf slot.1 slot.2 = true
    · have hlegal' := hlegal slot
      rw [slotActions_own hof] at hn hlegal' ⊢
      obtain ⟨hbefore, hnext⟩ := legal_snoc.1 hlegal'
      have hascending := hbefore.ascending
      by_cases hres : ∃ call m, a = .reserved call m
      · -- the gate is asked for the attempt of the last start
        obtain ⟨call, m, rfl⟩ := hres
        obtain ⟨hphase, rfl⟩ := hnext
        rw [attemptsOf_snoc_reserved, List.mem_append, List.mem_singleton] at hn
        have hslot : call.slot = slot := by
          rw [isOf_iff rfl] at hof
          exact of_decide_eq_true hof
        rcases hn with hn | rfl
        · have hlt := hascending.fresh hphase n hn
          rw [livesOf_snoc_lt (hascending.pos n hn) hlt]
          exact h.asked slot n hn
        · subst hslot
          have hpos := countStarts_pos hphase
          have hnone := h.unasked call _ (hsub _ (by simp)) fun hold =>
            (hascending.fresh hphase _ hold).false
          refine ⟨.asked, ?_, .inl hnone⟩
          have hcount : countStarts (slotActions tr call.slot ++
              [.reserved call (countStarts (slotActions tr call.slot))]) =
                countStarts (slotActions tr call.slot) := by
            rw [countStarts_snoc]
            rfl
          have hlast := livesOf_last (hcount.symm ▸ hpos)
          rw [hcount, phaseOf_snoc] at hlast
          exact hlast
      · rw [attemptsOf_snoc _ fun call m heq => hres ⟨call, m, heq⟩] at hn
        obtain ⟨phase, hphase, hbooks⟩ := h.asked slot n hn
        have hpos := hascending.pos n hn
        have hle := hascending.le n hn
        cases hstart : a.start? with
        | some start =>
          refine ⟨phase, ?_, hbooks⟩
          rw [livesOf_snoc_start (by simp [hstart]) (by omega), hphase]
        | none =>
          rcases Nat.lt_or_ge n (countStarts (slotActions tr slot)) with hlt | hge
          · rw [livesOf_snoc_lt hpos hlt]
            exact ⟨phase, hphase, hbooks⟩
          · have heq : n = countStarts (slotActions tr slot) := by omega
            have hstarts : 0 < countStarts (slotActions tr slot) := by omega
            have hlast := livesOf_last hstarts
            rw [← heq, hphase, Option.some.injEq] at hlast
            rw [hlast] at hbooks
            have hcount : countStarts (slotActions tr slot ++ [a]) = n := by
              rw [countStarts_snoc, hstart, heq]
              rfl
            have hnow := livesOf_last (hcount.symm ▸ hpos)
            rw [hcount, phaseOf_snoc] at hnow
            exact ⟨_, hnow, hbooks.next hnext ha hstart⟩
    · rw [slotActions_other (by simpa using hof)] at hn ⊢
      exact h.asked slot n hn

/-- The ledger after the gate has done what it was asked for, unseen. -/
theorem Ledger.lost (h : Ledger gate rt spec full tr st) (hfull : NoCollision gate rt spec full)
    (hsub : ∀ b ∈ tr, b ∈ full) (hlegal : ∀ slot, Legal (slotActions tr slot)) {op : ServiceOp}
    (hop : GateOp gate rt spec tr op) : Ledger gate rt spec full tr (op.apply st) := by
  have hkey := (op.effect h.keyed).keyed h.keyed
  cases hop with
  | reserve call n now hphase hattempt =>
    obtain ⟨hn, -, -, hlife⟩ := last_attempt (hlegal call.slot) (by rw [hphase]; trivial) hattempt
    obtain ⟨phase, hphase', hbooks⟩ := h.asked call.slot n hn
    rw [hlife, Option.some.injEq] at hphase'
    rw [← hphase', hphase] at hbooks
    refine h.update hfull hsub hkey hn (fun id hne => ServiceOp.stateOf_other h.keyed hne)
      (fun _ _ => rfl) rfl (fun _ _ _ => rfl) ⟨_, hlife, ?_⟩
    rw [hphase]
    have hstate := st.stateOf_reserveCall (gate.request rt spec call n) now
    show Books .asked ((st.reserveCall (gate.request rt spec call n) now).1.stateOf
      (gate.request rt spec call n).reservationId)
    rw [hstate]
    split
    · exact .inr rfl
    · exact hbooks
  | release call n hphase hattempt =>
    obtain ⟨hn, -, -, hlife⟩ := last_attempt (hlegal call.slot) (by rw [hphase]; trivial) hattempt
    obtain ⟨phase, hphase', hbooks⟩ := h.asked call.slot n hn
    rw [hlife, Option.some.injEq] at hphase'
    rw [← hphase', hphase] at hbooks
    refine h.update hfull hsub hkey hn (fun id hne => ServiceOp.stateOf_other h.keyed hne)
      (fun _ _ => rfl) rfl (fun _ _ _ => rfl) ⟨_, hlife, ?_⟩
    rw [hphase]
    rcases ServiceStore.stateOf_releaseCall h.keyed
      (gate.reservationId rt spec.id call.slot n) gate.principalId with
      ⟨-, heq⟩ | ⟨-, -, hnow⟩
    · show Books .releasing ((st.releaseCall _ _).1.stateOf _)
      rw [heq]
      exact hbooks
    · exact .inr hnow
  | reconcile call n now hphase hattempt =>
    obtain ⟨hn, -, -, hlife⟩ := last_attempt (hlegal call.slot) (by rw [hphase]; trivial) hattempt
    obtain ⟨phase, hphase', hbooks⟩ := h.asked call.slot n hn
    rw [hlife, Option.some.injEq] at hphase'
    rw [← hphase', hphase] at hbooks
    refine h.update hfull hsub hkey hn (fun id hne => ServiceOp.stateOf_other h.keyed hne)
      (fun _ _ => rfl) rfl (fun _ _ _ => rfl) ⟨_, hlife, ?_⟩
    rw [hphase]
    rcases ServiceStore.stateOf_reconcileCall h.keyed
      (gate.reservationId rt spec.id call.slot n) gate.principalId 1 now with
      ⟨heq, -⟩ | ⟨-, hnow⟩
    · show Books .reconciling ((st.reconcileCall _ _ _ _).1.stateOf _)
      rw [heq]
      exact hbooks
    · exact .inr hnow

/-- The ledger after the gate has answered for the last attempt of a slot. -/
theorem Ledger.answer (h : Ledger gate rt spec full tr st)
    (hfull : NoCollision gate rt spec full) {a : Action} (hsub : ∀ b ∈ tr ++ [a], b ∈ full)
    {call : Call} (hcall : a.call? = some call) (ha : isAnswer a = true) {n : ℕ}
    (hlegal : Legal (slotActions tr call.slot))
    (hasked : (phaseOf (slotActions tr call.slot)).IsAsked)
    (hattempt : (attemptsOf (slotActions tr call.slot)).getLast? = some n) (hkey : st'.Keyed)
    (hother : ∀ id, gate.reservationId rt spec.id call.slot n ≠ id →
      st'.stateOf id = st.stateOf id)
    (hbooks : Books ((phaseOf (slotActions tr call.slot)).next a)
      (st'.stateOf (gate.reservationId rt spec.id call.slot n))) :
    Ledger gate rt spec full (tr ++ [a]) st' := by
  obtain ⟨hn, heq, hpos, -⟩ := last_attempt hlegal hasked hattempt
  have hof : a.isOf call.slot.1 call.slot.2 = true := by
    rw [isOf_iff hcall]
    exact decide_eq_true rfl
  have hstart : a.start? = none := by
    cases a <;> first | rfl | cases ha
  have hcount : countStarts (slotActions tr call.slot ++ [a]) = n := by
    rw [countStarts_snoc, hstart, heq]
    rfl
  have hle := hlegal.ascending.le
  refine h.update hfull (fun b hb => hsub b (List.mem_append_left _ hb)) hkey hn hother ?_ ?_ ?_ ?_
  · intro slot' hne
    refine slotActions_other ?_
    rw [isOf_iff hcall]
    exact decide_eq_false fun heq => hne heq.symm
  · rw [slotActions_own hof]
    refine attemptsOf_snoc _ fun _ _ heq => ?_
    rw [heq] at ha
    cases ha
  · intro m hm hne
    rw [slotActions_own hof]
    have hle' := hle m hm
    exact livesOf_snoc_lt (hlegal.ascending.pos m hm) (by omega)
  · rw [slotActions_own hof]
    have hlast := livesOf_last (hcount.symm ▸ hpos)
    rw [hcount, phaseOf_snoc] at hlast
    exact ⟨_, hlast, hbooks⟩

/-- **The engine and the service keep the same books.** -/
theorem Served.ledger (h : Served gate rt spec tr st) (hfull : NoCollision gate rt spec full)
    (hsub : ∀ a ∈ tr, a ∈ full) (hlegal : ∀ slot, Legal (slotActions tr slot)) :
    Ledger gate rt spec full tr st := by
  have hinit : ∀ {tr : List Action} {a : Action}, (∀ slot, Legal (slotActions (tr ++ [a]) slot)) →
      ∀ slot, Legal (slotActions tr slot) := by
    intro tr a hlegal slot
    have hslot := hlegal slot
    rw [slotActions_snoc] at hslot
    split at hslot
    · exact (legal_snoc.1 hslot).1
    · rwa [List.append_nil] at hslot
  induction h with
  | fresh st hkey hfresh =>
    refine ⟨hkey, fun call n _ _ => ?_, fun slot n hn => by cases hn⟩
    unfold ServiceStore.stateOf
    rw [hfresh]
    rfl
  | others tr st st' _ hmove ih => exact (ih hsub hlegal).others hmove
  | act tr st _ a ha ih =>
    exact (ih (fun b hb => hsub b (List.mem_append_left _ hb)) (hinit hlegal)).act hsub ha hlegal
  | lost tr st _ op hop ih => exact (ih hsub hlegal).lost hfull hsub hlegal hop
  | granted tr st _ call n now hphase hattempt hcode ih =>
    have hledger := ih (fun b hb => hsub b (List.mem_append_left _ hb)) (hinit hlegal)
    let op := ServiceOp.reserve (gate.request rt spec call n) now
    refine hledger.answer hfull hsub (show (Action.granted call n).call? = some call from rfl)
      rfl (hinit hlegal call.slot)
      (by rw [hphase]; trivial) hattempt ((op.effect hledger.keyed).keyed hledger.keyed)
      (fun id hne => op.stateOf_other hledger.keyed hne) ?_
    rw [hphase]
    have hstate := st.stateOf_reserveCall (gate.request rt spec call n) now
    rw [if_pos hcode] at hstate
    exact hstate
  | released tr st _ call n hphase hattempt hanswer ih =>
    have hledger := ih (fun b hb => hsub b (List.mem_append_left _ hb)) (hinit hlegal)
    let op := ServiceOp.release (gate.reservationId rt spec.id call.slot n) gate.principalId
    refine hledger.answer hfull hsub (show (Action.settled call).call? = some call from rfl)
      rfl (hinit hlegal call.slot)
      (by rw [hphase]; trivial) hattempt ((op.effect hledger.keyed).keyed hledger.keyed)
      (fun id hne => op.stateOf_other hledger.keyed hne) ?_
    rw [hphase]
    rcases ServiceStore.stateOf_releaseCall hledger.keyed
      (gate.reservationId rt spec.id call.slot n) gate.principalId with
      ⟨hno, -⟩ | ⟨-, -, hnow⟩
    · rw [hanswer] at hno
      cases hno
    · exact hnow
  | reconciled tr st _ call n now hphase hattempt result hanswer haccepted ih =>
    have hledger := ih (fun b hb => hsub b (List.mem_append_left _ hb)) (hinit hlegal)
    let op := ServiceOp.reconcile (gate.reservationId rt spec.id call.slot n) gate.principalId 1
      now
    refine hledger.answer hfull hsub (show (Action.settled call).call? = some call from rfl)
      rfl (hinit hlegal call.slot)
      (by rw [hphase]; trivial) hattempt ((op.effect hledger.keyed).keyed hledger.keyed)
      (fun id hne => op.stateOf_other hledger.keyed hne) ?_
    rw [hphase]
    exact ServiceStore.reconcileCall_accepted hledger.keyed hanswer haccepted

end Service
end CouncilLogic
