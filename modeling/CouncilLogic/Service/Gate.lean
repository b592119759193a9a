/-
# The durable call gate

A gate turns the calls of a run into reservations of one principal.  A reservation id is
the digest of the principal, the run, the slot and the attempt, so distinct attempts have
distinct reservations as far as the digest keeps them apart.

`Served` relates what a run has done to the tables of the service: the gate commits what
it is asked for, whether or not the process that asked lives to see the answer, and others
use the same tables for reservations of their own.

The gate is `DurableCallGate` with its `_DurableCallLease` in `src/model_council/service.py`; the
id of a reservation is `_call_reservation_id`.  The four parts of the id are joined with NULs,
which occur in none of them, so the joined text determines the parts.
-/

import CouncilLogic.Engine.Leases
import CouncilLogic.Protocol.Ballots
import CouncilLogic.Service.Laws

namespace CouncilLogic
namespace Service

variable {rt : Runtime} {spec : RunSpec} {st st' : ServiceStore} {tr : List Action}

/-! ### Reservation ids -/

/-- `DurableCallGate`: a principal and the policy it calls under. -/
structure DurableCallGate where
  principalId : Str
  tenant : Tenant
  policyId : Str

namespace DurableCallGate

/-- The text that a reservation id is the digest of. -/
def material (gate : DurableCallGate) (runId : Str) (slot : Stage × Str) (attempt : ℕ) : Str :=
  Str.join [0] [gate.principalId, runId, slot.1.name, slot.2, Str.ofNat attempt]

/-- `_call_reservation_id`. -/
def reservationId (gate : DurableCallGate) (rt : Runtime) (runId : Str) (slot : Stage × Str)
    (attempt : ℕ) : Str :=
  lit "call-" ++ rt.sha256 (gate.material runId slot attempt)

/-- The request of `DurableCallGate.reserve`. -/
def request (gate : DurableCallGate) (rt : Runtime) (spec : RunSpec) (call : Call)
    (attempt : ℕ) : CallReservationRequest where
  reservationId := gate.reservationId rt spec.id call.slot attempt
  policyId := gate.policyId
  principalId := gate.principalId
  tenant := gate.tenant
  runId := spec.id
  action := lit "provider:invoke"
  provider := call.provider
  model := ((spec.config.config? call.provider).map ProviderConfig.model).getD []
  units_pos := Nat.one_pos

end DurableCallGate

/-- Two texts around the first separator. -/
theorem split_first {x : ℕ} : ∀ {a a' b b' : Str}, x ∉ a → x ∉ a' →
    a ++ x :: b = a' ++ x :: b' → a = a' ∧ b = b'
  | [], [], _, _, _, _, h => ⟨rfl, (List.cons.inj h).2⟩
  | [], c :: a', _, _, _, ha', h => by
    obtain ⟨rfl, -⟩ := List.cons.inj h
    exact absurd (List.mem_cons_self ..) ha'
  | c :: a, [], _, _, ha, _, h => by
    obtain ⟨rfl, -⟩ := List.cons.inj h
    exact absurd (List.mem_cons_self ..) ha
  | c :: a, c' :: a', b, b', ha, ha', h => by
    obtain ⟨rfl, htail⟩ := List.cons.inj h
    obtain ⟨rfl, rfl⟩ := split_first (fun hm => ha (List.mem_cons_of_mem _ hm))
      (fun hm => ha' (List.mem_cons_of_mem _ hm)) htail
    exact ⟨rfl, rfl⟩

/-- Two texts around the last separator. -/
theorem split_last {x : ℕ} {a a' b b' : Str} (hb : x ∉ b) (hb' : x ∉ b')
    (h : a ++ x :: b = a' ++ x :: b') : a = a' ∧ b = b' := by
  have hrev := congrArg List.reverse h
  simp only [List.reverse_append, List.reverse_cons, List.append_assoc, List.singleton_append]
    at hrev
  obtain ⟨hb, ha⟩ := split_first (by simpa using hb) (by simpa using hb') hrev
  exact ⟨List.reverse_injective ha, List.reverse_injective hb⟩

/-- A number is written in digits. -/
theorem zero_notMem_ofNat (n : ℕ) : 0 ∉ Str.ofNat n := by
  unfold Str.ofNat
  split
  · decide
  · simp

/-- The name of a stage contains no NUL. -/
theorem zero_notMem_name (stage : Stage) : 0 ∉ stage.name := by
  cases stage <;> decide +kernel

/-- The text of a reservation names its slot and its attempt. -/
theorem material_inj {gate : DurableCallGate} {runId : Str} {slot slot' : Stage × Str} {n n' : ℕ}
    (h : gate.material runId slot n = gate.material runId slot' n') : slot = slot' ∧ n = n' := by
  obtain ⟨stage, provider⟩ := slot
  obtain ⟨stage', provider'⟩ := slot'
  unfold DurableCallGate.material Str.join at h
  simp only [List.intercalate, List.intersperse, List.flatten_cons, List.flatten_nil,
    List.append_nil, List.append_cancel_left_eq, List.singleton_append, List.cons.injEq,
    true_and] at h
  obtain ⟨hstage, hrest⟩ := split_first (zero_notMem_name stage) (zero_notMem_name stage') h
  obtain ⟨rfl, hn⟩ := split_last (zero_notMem_ofNat n) (zero_notMem_ofNat n') hrest
  rw [Stage.name_inj] at hstage
  exact ⟨by rw [hstage], Protocol.ofNat_injective hn⟩

/-! ### Serving a run -/

/-- What was done for a slot, in order. -/
def slotActions (tr : List Action) (slot : Stage × Str) : List Action :=
  tr.filter (Action.isOf slot.1 slot.2)

/-- The operations the gate has been asked for and has not answered: the slot is waiting
for it, and the lease it holds is that of the attempt it asked for last. -/
inductive GateOp (gate : DurableCallGate) (rt : Runtime) (spec : RunSpec) (tr : List Action) :
    ServiceOp → Prop
  /-- `reserve`. -/
  | reserve (call : Call) (attempt : ℕ) (now : DateTime)
      (hphase : phaseOf (slotActions tr call.slot) = .asked)
      (hattempt : (attemptsOf (slotActions tr call.slot)).getLast? = some attempt) :
      GateOp gate rt spec tr (.reserve (gate.request rt spec call attempt) now)
  /-- `lease.release()`. -/
  | release (call : Call) (attempt : ℕ)
      (hphase : phaseOf (slotActions tr call.slot) = .releasing)
      (hattempt : (attemptsOf (slotActions tr call.slot)).getLast? = some attempt) :
      GateOp gate rt spec tr
        (.release (gate.reservationId rt spec.id call.slot attempt) gate.principalId)
  /-- `lease.reconcile(1)`. -/
  | reconcile (call : Call) (attempt : ℕ) (now : DateTime)
      (hphase : phaseOf (slotActions tr call.slot) = .reconciling)
      (hattempt : (attemptsOf (slotActions tr call.slot)).getLast? = some attempt) :
      GateOp gate rt spec tr
        (.reconcile (gate.reservationId rt spec.id call.slot attempt) gate.principalId 1 now)

/-- An operation of others: it is about no reservation of the run. -/
def Foreign (gate : DurableCallGate) (rt : Runtime) (spec : RunSpec) (_ : ServiceStore)
    (op : ServiceOp) : Prop :=
  ∀ slot attempt, op.reservationId ≠ gate.reservationId rt spec.id slot attempt

/-- The action says that the gate has answered. -/
def isAnswer : Action → Bool
  | .granted .. | .settled _ => true
  | .attempt .. | .started .. | .generate .. | .reserved .. | .released _ | .reconciled _
  | .enter .. | .overLimit .. | .adjudicated .. => false

/-- What the service makes of what a run has done. -/
inductive Served (gate : DurableCallGate) (rt : Runtime) (spec : RunSpec) :
    List Action → ServiceStore → Prop
  /-- The run has no reservation yet. -/
  | fresh (st : ServiceStore) (hkey : st.Keyed)
      (hfresh : ∀ slot attempt,
        st.reservation? (gate.reservationId rt spec.id slot attempt) = none) :
      Served gate rt spec [] st
  /-- Others use the service. -/
  | others (tr : List Action) (st st' : ServiceStore) (h : Served gate rt spec tr st)
      (hmove : ServiceMove (Foreign gate rt spec) st st') : Served gate rt spec tr st'
  /-- The run does something that needs no answer of the gate. -/
  | act (tr : List Action) (st : ServiceStore) (h : Served gate rt spec tr st) (a : Action)
      (ha : isAnswer a = false) : Served gate rt spec (tr ++ [a]) st
  /-- The gate does what it was asked for, and nobody learns of it. -/
  | lost (tr : List Action) (st : ServiceStore) (h : Served gate rt spec tr st) (op : ServiceOp)
      (hop : GateOp gate rt spec tr op) : Served gate rt spec tr (op.apply st)
  /-- `reserve` returns a lease. -/
  | granted (tr : List Action) (st : ServiceStore) (h : Served gate rt spec tr st) (call : Call)
      (attempt : ℕ) (now : DateTime) (hphase : phaseOf (slotActions tr call.slot) = .asked)
      (hattempt : (attemptsOf (slotActions tr call.slot)).getLast? = some attempt)
      (hcode : (st.reserveCall (gate.request rt spec call attempt) now).2.code = .reserved) :
      Served gate rt spec (tr ++ [.granted call attempt])
        (st.reserveCall (gate.request rt spec call attempt) now).1
  /-- `release` returns. -/
  | released (tr : List Action) (st : ServiceStore) (h : Served gate rt spec tr st) (call : Call)
      (attempt : ℕ) (hphase : phaseOf (slotActions tr call.slot) = .releasing)
      (hattempt : (attemptsOf (slotActions tr call.slot)).getLast? = some attempt)
      (hanswer : (st.releaseCall (gate.reservationId rt spec.id call.slot attempt)
        gate.principalId).2 = true) :
      Served gate rt spec (tr ++ [.settled call])
        (st.releaseCall (gate.reservationId rt spec.id call.slot attempt) gate.principalId).1
  /-- `reconcile` returns. -/
  | reconciled (tr : List Action) (st : ServiceStore) (h : Served gate rt spec tr st)
      (call : Call) (attempt : ℕ) (now : DateTime)
      (hphase : phaseOf (slotActions tr call.slot) = .reconciling)
      (hattempt : (attemptsOf (slotActions tr call.slot)).getLast? = some attempt)
      (result : CallReconciliationResult)
      (hanswer : (st.reconcileCall (gate.reservationId rt spec.id call.slot attempt)
        gate.principalId 1 now).2 = .ok result) (haccepted : result.accepted = true) :
      Served gate rt spec (tr ++ [.settled call])
        (st.reconcileCall (gate.reservationId rt spec.id call.slot attempt) gate.principalId 1
          now).1

end Service
end CouncilLogic
