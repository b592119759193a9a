/-
# The budget of a principal

Whatever the order of reservations, reconciliations and releases, a principal stays within
limits that bound every policy it was admitted under, on each day and in each month; and
a reservation is settled at most once.

The store is `ServiceStore` of `src/model_council/service_store.py`, and the operations are
`reserve_call`, `reconcile_call` and `release_call` by any number of processes, each a
transaction.
-/

import CouncilLogic.Service.Laws
import Mathlib.Logic.Relation

namespace CouncilLogic
namespace Service

variable {st st' : ServiceStore} {principalId : Str}

/-! ### Limits -/

/-- Calls in flight, units per day and units per month. -/
structure Limits where
  inflight : ℕ
  daily : ℕ
  monthly : ℕ

/-- A policy asks for no more than the limits. -/
structure Limits.Bounds (limits : Limits) (policy : ServicePolicy) : Prop where
  inflight : policy.maxInflight ≤ limits.inflight
  daily : policy.dailyCallUnits ≤ limits.daily
  monthly : policy.monthlyCallUnits ≤ limits.monthly

/-- The principal is admitted under policies within the limits, and a reconciliation of its
reservations reports at most the reserved units. -/
def Limits.Allows (limits : Limits) (principalId : Str) (st : ServiceStore) : ServiceOp → Prop
  | .reserve request now =>
    request.principalId = principalId → (st.reserveCall request now).2.code = .reserved →
      ∀ policy, st.policy? request.policyId = some policy → limits.Bounds policy
  | .reconcile reservationId _ actualUnits _ =>
    ∀ r ∈ st.reservations, r.reservationId = reservationId → r.principalId = principalId →
      actualUnits ≤ r.reservedUnits
  | .release .. => True

/-- The principal stays within the limits. -/
structure Limits.Holds (limits : Limits) (principalId : Str) (st : ServiceStore) : Prop where
  inflight : st.inflight principalId ≤ limits.inflight
  daily : ∀ day, st.daily principalId day ≤ limits.daily
  monthly : ∀ month, st.monthly principalId month ≤ limits.monthly

/-- Settling a row that is reserved frees it and charges no more. -/
theorem Limits.Holds.setState {limits : Limits} (h : limits.Holds principalId st)
    (hkey : st.Keyed) {r : Reservation} (hr : r ∈ st.reservations) {state : ReservationState}
    (hfree : state ≠ .reserved)
    (hcharge : r.principalId = principalId →
      Reservation.charge { r with state := state } ≤ r.charge) :
    limits.Holds principalId (st.setState r.reservationId state) where
  inflight := by
    refine le_trans (ServiceStore.total_setState_le hkey hr fun _ => ?_) h.inflight
    show (if state = .reserved then 1 else 0) ≤ _
    rw [if_neg hfree]
    exact Nat.zero_le _
  daily day := by
    refine le_trans (ServiceStore.total_setState_le hkey hr fun hp => ?_) (h.daily day)
    show (if r.budgetDay = day then _ else 0) ≤ if r.budgetDay = day then _ else 0
    split
    · exact hcharge hp
    · exact le_rfl
  monthly month := by
    refine le_trans (ServiceStore.total_setState_le hkey hr fun hp => ?_) (h.monthly month)
    show (if r.budgetMonth = month then _ else 0) ≤ if r.budgetMonth = month then _ else 0
    split
    · exact hcharge hp
    · exact le_rfl

/-- A reservation that was admitted fits. -/
theorem Limits.Holds.reserve {limits : Limits} (h : limits.Holds principalId st)
    {request : CallReservationRequest} {now : DateTime} {policy : ServicePolicy}
    (hadmits : st.Admits request now policy)
    (hbounds : request.principalId = principalId → limits.Bounds policy) :
    limits.Holds principalId
      { st with reservations := st.reservations ++ [ServiceStore.newReservation request now] } := by
  by_cases hp : request.principalId = principalId
  · have hbound := hbounds hp
    have hinflight := hadmits.inflight
    have hdaily := hadmits.daily
    have hmonthly := hadmits.monthly
    rw [hp] at hinflight hdaily hmonthly
    exact {
      inflight := by
        unfold ServiceStore.inflight
        rw [ServiceStore.total_append, ServiceStore.share]
        unfold ServiceStore.inflight at hinflight
        show _ + (if request.principalId = principalId then 1 else 0) ≤ _
        rw [if_pos hp]
        exact (Nat.succ_le_of_lt hinflight).trans hbound.inflight
      daily := fun day => by
        have hday := h.daily day
        unfold ServiceStore.daily at hday hdaily ⊢
        rw [ServiceStore.total_append, ServiceStore.share]
        show _ + (if request.principalId = principalId then
          (if now.budgetDay = day then request.units else 0) else 0) ≤ _
        rw [if_pos hp]
        split
        · rename_i heq
          rw [heq] at hdaily
          exact hdaily.trans hbound.daily
        · exact hday
      monthly := fun month => by
        have hmonth := h.monthly month
        unfold ServiceStore.monthly at hmonth hmonthly ⊢
        rw [ServiceStore.total_append, ServiceStore.share]
        show _ + (if request.principalId = principalId then
          (if now.budgetMonth = month then request.units else 0) else 0) ≤ _
        rw [if_pos hp]
        split
        · rename_i heq
          rw [heq] at hmonthly
          exact hmonthly.trans hbound.monthly
        · exact hmonth }
  · have hzero : ∀ units, ServiceStore.share principalId units
        (ServiceStore.newReservation request now) = 0 := fun units => if_neg hp
    exact {
      inflight := by
        unfold ServiceStore.inflight
        rw [ServiceStore.total_append, hzero]
        exact h.inflight
      daily := fun day => by
        unfold ServiceStore.daily
        rw [ServiceStore.total_append, hzero]
        exact h.daily day
      monthly := fun month => by
        unfold ServiceStore.monthly
        rw [ServiceStore.total_append, hzero]
        exact h.monthly month }

/-- Every move keeps a principal within its limits. -/
theorem Limits.Holds.move {limits : Limits} (h : limits.Holds principalId st) (hkey : st.Keyed)
    (hmove : ServiceMove (limits.Allows principalId) st st') : limits.Holds principalId st' := by
  cases hmove with
  | tables => exact ⟨h.inflight, h.daily, h.monthly⟩
  | call op hop =>
    have heffect := op.effect hkey
    generalize op.apply st = st'' at heffect ⊢
    cases heffect with
    | none => exact h
    | reserve request now policy hcode hadmits =>
      exact h.reserve hadmits fun hp => hop hp hcode policy hadmits.found
    | reconcile r actualUnits now hr hstate =>
      refine h.setState hkey hr (by simp) fun hp => ?_
      have hunits := hop r hr rfl hp
      unfold Reservation.charge
      rw [hstate]
      exact hunits
    | release r hr hstate =>
      exact h.setState hkey hr (by simp) fun _ => Nat.zero_le _

/-! ### Settling -/

/-- The reservations go on: each is still there, and what is settled stays as it is. -/
def GoesOn (st st' : ServiceStore) : Prop :=
  ∀ r ∈ st.reservations, ∃ r' ∈ st'.reservations, r'.reservationId = r.reservationId ∧
    (r.state ≠ .reserved → r'.state = r.state)

/-- Reservations go on step by step. -/
theorem GoesOn.trans {st'' : ServiceStore} (h : GoesOn st st') (h' : GoesOn st' st'') :
    GoesOn st st'' := by
  intro r hr
  obtain ⟨r', hr', hid, hstate⟩ := h r hr
  obtain ⟨r'', hr'', hid', hstate'⟩ := h' r' hr'
  refine ⟨r'', hr'', hid'.trans hid, fun hne => ?_⟩
  have hsame := hstate hne
  rw [hstate' (hsame ▸ hne), hsame]

/-- Settling a row that is reserved settles no other. -/
theorem goesOn_setState (hkey : st.Keyed) {a : Reservation} (ha : a ∈ st.reservations)
    (hreserved : a.state = .reserved) (state : ReservationState) :
    GoesOn st (st.setState a.reservationId state) := by
  intro r hr
  by_cases hid : r.reservationId = a.reservationId
  · have heq : r = a := hkey.eq hr ha hid
    subst heq
    refine ⟨{ r with state := state }, ?_, rfl, fun hne => absurd hreserved hne⟩
    exact ServiceStore.mem_setState.2 (.inl ⟨r, hr, rfl, rfl⟩)
  · exact ⟨r, ServiceStore.mem_setState.2 (.inr ⟨hr, hid⟩), rfl, fun _ => rfl⟩

/-- Every move takes the reservations on: what is settled stays settled. -/
theorem ServiceMove.goesOn {ok : ServiceStore → ServiceOp → Prop} (h : ServiceMove ok st st')
    (hkey : st.Keyed) : GoesOn st st' := by
  cases h with
  | tables => exact fun r hr => ⟨r, hr, rfl, fun _ => rfl⟩
  | call op hop =>
    have heffect := op.effect hkey
    generalize op.apply st = st'' at heffect ⊢
    cases heffect with
    | none => exact fun r hr => ⟨r, hr, rfl, fun _ => rfl⟩
    | reserve request now policy hcode hadmits =>
      exact fun r hr => ⟨r, List.mem_append_left _ hr, rfl, fun _ => rfl⟩
    | reconcile r actualUnits now hr hstate => exact goesOn_setState hkey hr hstate _
    | release r hr hstate => exact goesOn_setState hkey hr hstate _

/-- Whatever is done with the store, what is settled stays settled. -/
theorem goesOn_moves {ok : ServiceStore → ServiceOp → Prop} (hkey : st.Keyed)
    (h : Relation.ReflTransGen (ServiceMove ok) st st') : st'.Keyed ∧ GoesOn st st' := by
  induction h with
  | refl => exact ⟨hkey, fun r hr => ⟨r, hr, rfl, fun _ => rfl⟩⟩
  | tail _ hlast ih => exact ⟨hlast.keyed ih.1, ih.2.trans (hlast.goesOn ih.1)⟩

/-! ### Runs -/

/-- Every run from an empty table keeps the principal within its limits. -/
theorem Limits.holds_moves {limits : Limits} {st₀ : ServiceStore} (hinit : st₀.reservations = [])
    (h : Relation.ReflTransGen (ServiceMove (limits.Allows principalId)) st₀ st) :
    st.Keyed ∧ limits.Holds principalId st := by
  induction h with
  | refl =>
    have htotal : ∀ units, st₀.total principalId units = 0 := by
      intro units
      rw [ServiceStore.total_eq, hinit]
      rfl
    refine ⟨?_, ?_, fun day => ?_, fun month => ?_⟩
    · unfold ServiceStore.Keyed
      rw [hinit]
      exact List.nodup_nil
    · exact (htotal _).trans_le (Nat.zero_le _)
    · exact (htotal _).trans_le (Nat.zero_le _)
    · exact (htotal _).trans_le (Nat.zero_le _)
  | tail _ hlast ih => exact ⟨hlast.keyed ih.1, ih.2.move ih.1 hlast⟩

/-- **The budget of a principal.**  In every state that reservations, reconciliations and
releases can lead to, a principal has no more calls in flight, and no more units charged to
any day or any month, than the limits of the policies it was admitted under; and from there
on every reservation is settled at most once. -/
theorem service_budget (limits : Limits) (principalId : Str) {st₀ st : ServiceStore}
    (hinit : st₀.reservations = [])
    (h : Relation.ReflTransGen (ServiceMove (limits.Allows principalId)) st₀ st) :
    st.inflight principalId ≤ limits.inflight ∧
      (∀ day, st.daily principalId day ≤ limits.daily) ∧
      (∀ month, st.monthly principalId month ≤ limits.monthly) ∧
      (st.reservations.map Reservation.reservationId).Nodup ∧
      ∀ st', Relation.ReflTransGen (ServiceMove fun _ _ => True) st st' →
        ∀ r ∈ st.reservations, ∃ r' ∈ st'.reservations, r'.reservationId = r.reservationId ∧
          (r.state ≠ .reserved → r'.state = r.state) := by
  obtain ⟨hkey, hholds⟩ := Limits.holds_moves hinit h
  exact ⟨hholds.inflight, hholds.daily, hholds.monthly, hkey,
    fun st' hlater => (goesOn_moves hkey hlater).2⟩

/-- A store with one principal, one policy and one run. -/
def exampleStore : ServiceStore where
  principals := [⟨lit "agent", .personal, true⟩]
  policies := [{
    policyId := lit "policy"
    principalId := lit "agent"
    tenant := .personal
    allowedActions := [lit "provider:invoke"]
    allowedProviders := [lit "solo"]
    allowedModels := [lit "m"]
    maxInflight := 1
    dailyCallUnits := 2
    monthlyCallUnits := 3
    issuedAt := ⟨2020, 1, 1, 0⟩
    expiresAt := ⟨2100, 1, 1, 0⟩
    inflight_pos := le_rfl
    daily_pos := by decide
    monthly_pos := by decide }]
  bindings := [⟨lit "run", lit "agent"⟩]

def exampleRequest : CallReservationRequest where
  reservationId := lit "call-1"
  policyId := lit "policy"
  principalId := lit "agent"
  tenant := .personal
  runId := lit "run"
  action := lit "provider:invoke"
  provider := lit "solo"
  model := lit "m"

/-- A first call, reserved. -/
def reservedFirst : ServiceStore :=
  ServiceOp.apply exampleStore (.reserve exampleRequest ⟨2026, 7, 1, 0⟩)

/-- The first call is reconciled. -/
def reconciledFirst : ServiceStore :=
  ServiceOp.apply reservedFirst (.reconcile (lit "call-1") (lit "agent") 1 ⟨2026, 7, 1, 1⟩)

/-- A second call is reserved, and given back. -/
def releasedSecond : ServiceStore :=
  ServiceOp.apply (ServiceOp.apply reconciledFirst
    (.reserve { exampleRequest with reservationId := lit "call-2" } ⟨2026, 7, 1, 2⟩))
    (.release (lit "call-2") (lit "agent"))

/-- A third call is reserved. -/
def reservedThird : ServiceStore :=
  ServiceOp.apply releasedSecond
    (.reserve { exampleRequest with reservationId := lit "call-3" } ⟨2026, 7, 1, 3⟩)

/-- Every reservation under the policy of the example is within its limits. -/
theorem allows_reserve {st : ServiceStore} (hpolicies : st.policies = exampleStore.policies)
    (request : CallReservationRequest) (now : DateTime) :
    Limits.Allows ⟨1, 2, 3⟩ (lit "agent") st (.reserve request now) := by
  intro _ _ policy hpolicy
  have hmem : policy ∈ st.policies := List.mem_of_find?_eq_some hpolicy
  rw [hpolicies] at hmem
  rw [List.mem_singleton.1 hmem]
  exact ⟨le_rfl, le_rfl, le_rfl⟩

/-- The run of the example: three reservations, one of them reconciled and one released in
between, all within the limits. -/
theorem reservedThird_reached :
    Relation.ReflTransGen (ServiceMove (Limits.Allows ⟨1, 2, 3⟩ (lit "agent"))) exampleStore
      reservedThird := by
  have hreconcile : Limits.Allows ⟨1, 2, 3⟩ (lit "agent") reservedFirst
      (.reconcile (lit "call-1") (lit "agent") 1 ⟨2026, 7, 1, 1⟩) := by
    have hunits : ∀ r ∈ reservedFirst.reservations, 1 ≤ r.reservedUnits := by decide +kernel
    exact fun r hr _ _ => hunits r hr
  have hfirst : reservedFirst.policies = exampleStore.policies := (ServiceOp.principals_eq _).2
  have hsecond : reconciledFirst.policies = exampleStore.policies :=
    (ServiceOp.principals_eq _).2.trans hfirst
  have hthird : releasedSecond.policies = exampleStore.policies :=
    (ServiceOp.principals_eq _).2.trans ((ServiceOp.principals_eq _).2.trans hsecond)
  have hreserved := Relation.ReflTransGen.single (ServiceMove.call exampleStore
    (.reserve exampleRequest ⟨2026, 7, 1, 0⟩) (allows_reserve rfl _ _))
  have hreconciled := hreserved.tail (.call reservedFirst _ hreconcile)
  have hagain := hreconciled.tail (.call reconciledFirst
    (.reserve { exampleRequest with reservationId := lit "call-2" } ⟨2026, 7, 1, 2⟩)
    (allows_reserve hsecond _ _))
  have hreleased := hagain.tail (.call _ (.release (lit "call-2") (lit "agent")) trivial)
  exact hreleased.tail (.call releasedSecond _ (allows_reserve hthird _ _))

/-- Two units of the day are charged, the limit, and the first call stays reconciled. -/
theorem service_budget_example :
    (reservedThird.inflight (lit "agent") = 1 ∧
      reservedThird.daily (lit "agent") (DateTime.budgetDay ⟨2026, 7, 1, 3⟩) = 2 ∧
      reservedThird.reservations.map Reservation.state =
        [.reconciled 1, .released, .reserved]) ∧
    reservedThird.inflight (lit "agent") ≤ 1 ∧
      (∀ day, reservedThird.daily (lit "agent") day ≤ 2) ∧
      (∀ month, reservedThird.monthly (lit "agent") month ≤ 3) ∧
      (reservedThird.reservations.map Reservation.reservationId).Nodup ∧
      ∀ st', Relation.ReflTransGen (ServiceMove fun _ _ => True) reservedThird st' →
        ∀ r ∈ reservedThird.reservations, ∃ r' ∈ st'.reservations,
          r'.reservationId = r.reservationId ∧ (r.state ≠ .reserved → r'.state = r.state) :=
  ⟨by decide +kernel, service_budget ⟨1, 2, 3⟩ (lit "agent")
    (show exampleStore.reservations = [] from rfl) reservedThird_reached⟩

end Service
end CouncilLogic
