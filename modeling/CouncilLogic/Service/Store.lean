/-
# The call reservations of the service

The budget of a principal is kept as one row for each reserved call.  Every operation is
one transaction, so it is a function of the store; `reserve_call` derives what is already
committed from all rows of the principal, under the day and the month of its own clock.

The store is `ServiceStore` of `src/model_council/service_store.py`; `_usage` there adds up the
rows as `inflight`, `daily` and `monthly` do here.  Amounts are bound as 64-bit integers, and one
that does not fit is an `OverflowError` before anything is written.
-/

import CouncilLogic.Lib.Rows
import CouncilLogic.Text
import Mathlib.Data.Prod.Lex

namespace CouncilLogic
namespace Service

/-! ### Values -/

/-- `Tenant`. -/
inductive Tenant
  | personal
  | work
  deriving DecidableEq

/-- A `datetime` in UTC. -/
structure DateTime where
  year : ℕ
  month : ℕ
  day : ℕ
  /-- Microseconds since midnight. -/
  time : ℕ
  deriving DecidableEq

namespace DateTime

/-- The fields from the most significant one on. -/
def key (t : DateTime) : ℕ ×ₗ ℕ ×ₗ ℕ ×ₗ ℕ :=
  toLex (t.year, toLex (t.month, toLex (t.day, t.time)))

/-- `a < b`. -/
def before (a b : DateTime) : Bool := decide (a.key < b.key)

/-- A number with leading zeros. -/
def padded (width n : ℕ) : Str :=
  List.replicate (width - (Str.ofNat n).length) 48 ++ Str.ofNat n

/-- `f"{now.year:04d}-{now.month:02d}"`. -/
def budgetMonth (t : DateTime) : Str := padded 4 t.year ++ lit "-" ++ padded 2 t.month

/-- `now.date().isoformat()`. -/
def budgetDay (t : DateTime) : Str := t.budgetMonth ++ lit "-" ++ padded 2 t.day

end DateTime

/-- The columns of a principal that are read. -/
structure PrincipalRow where
  principalId : Str
  tenant : Tenant
  enabled : Bool

/-- `ServicePolicy`. -/
structure ServicePolicy where
  policyId : Str
  principalId : Str
  tenant : Tenant
  allowedActions : List Str
  allowedProviders : List Str
  allowedModels : List Str
  maxInflight : ℕ
  dailyCallUnits : ℕ
  monthlyCallUnits : ℕ
  issuedAt : DateTime
  expiresAt : DateTime
  revokedAt : Option DateTime := none
  inflight_pos : 1 ≤ maxInflight
  daily_pos : 1 ≤ dailyCallUnits
  monthly_pos : 1 ≤ monthlyCallUnits

/-- The columns of a run binding that are read. -/
structure BindingRow where
  runId : Str
  principalId : Str

/-- `state` and `actual_units`, which only a reconciled reservation has. -/
inductive ReservationState
  | reserved
  | reconciled (actualUnits : ℕ)
  | released
  deriving DecidableEq

/-- A row of `service_call_reservations`. -/
structure Reservation where
  reservationId : Str
  policyId : Str
  principalId : Str
  runId : Str
  action : Str
  provider : Str
  model : Str
  reservedUnits : ℕ
  state : ReservationState
  budgetDay : Str
  budgetMonth : Str
  deriving DecidableEq

/-- `CallReservationRequest`. -/
structure CallReservationRequest where
  reservationId : Str
  policyId : Str
  principalId : Str
  tenant : Tenant
  runId : Str
  action : Str
  provider : Str
  model : Str
  units : ℕ := 1
  units_pos : 1 ≤ units := by decide

/-- `CallReservationCode`. -/
inductive CallReservationCode
  | reserved
  | replay
  | reservationConflict
  | unknownPrincipal
  | principalDisabled
  | tenantMismatch
  | runNotOwned
  | unknownPolicy
  | policyRevoked
  | policyNotActive
  | policyExpired
  | actionDenied
  | providerDenied
  | modelDenied
  | maxInflightExceeded
  | dailyLimitExceeded
  | monthlyLimitExceeded
  deriving DecidableEq

/-- What a principal has committed: calls in flight, and units of a day and of a month. -/
structure Usage where
  inflight : ℕ := 0
  daily : ℕ := 0
  monthly : ℕ := 0
  deriving DecidableEq

/-- `CallReservationResult`, without the fields it repeats from the request. -/
structure CallReservationResult where
  allowed : Bool
  code : CallReservationCode
  usage : Usage := {}
  deriving DecidableEq

/-- `CallReconciliationCode`. -/
inductive CallReconciliationCode
  | reconciled
  | idempotent
  | notFound
  | released
  | conflict
  deriving DecidableEq

/-- `CallReconciliationResult`, without the fields it repeats from the arguments. -/
structure CallReconciliationResult where
  accepted : Bool
  code : CallReconciliationCode
  exceededReservation : Bool := false
  exceededDailyLimit : Bool := false
  exceededMonthlyLimit : Bool := false
  deriving DecidableEq

/-- What SQLite raises for a number that its 64-bit integers cannot hold. -/
inductive SqliteError
  /-- `OverflowError`, for a parameter of a statement. -/
  | parameter
  /-- `sqlite3.OperationalError`, for a `SUM`. -/
  | sum
  deriving DecidableEq

/-- The largest integer of SQLite. -/
def maxInteger : ℕ := 2 ^ 63 - 1

/-- The tables of the service that a reservation depends on. -/
structure ServiceStore where
  principals : List PrincipalRow := []
  policies : List ServicePolicy := []
  bindings : List BindingRow := []
  reservations : List Reservation := []

/-! ### Usage -/

namespace Reservation

/-- The units a reservation is charged. -/
def charge (r : Reservation) : ℕ :=
  match r.state with
  | .reserved => r.reservedUnits
  | .reconciled actualUnits => actualUnits
  | .released => 0

/-- One for a reservation in flight. -/
def inflight (r : Reservation) : ℕ := if r.state = .reserved then 1 else 0

/-- `_reservation_matches`. -/
def isFor (r : Reservation) (request : CallReservationRequest) : Bool :=
  decide (r.policyId = request.policyId) && decide (r.principalId = request.principalId) &&
    decide (r.runId = request.runId) && decide (r.action = request.action) &&
    decide (r.provider = request.provider) && decide (r.model = request.model) &&
    decide (r.reservedUnits = request.units)

end Reservation

namespace ServiceStore

/-- A sum over the rows of a principal. -/
def total (st : ServiceStore) (principalId : Str) (units : Reservation → ℕ) : ℕ :=
  ((st.reservations.filter fun r => r.principalId = principalId).map units).sum

/-- The calls of a principal that are in flight. -/
def inflight (st : ServiceStore) (principalId : Str) : ℕ :=
  st.total principalId Reservation.inflight

/-- The units a principal is charged on a day. -/
def daily (st : ServiceStore) (principalId day : Str) : ℕ :=
  st.total principalId fun r => if r.budgetDay = day then r.charge else 0

/-- The units a principal is charged in a month. -/
def monthly (st : ServiceStore) (principalId month : Str) : ℕ :=
  st.total principalId fun r => if r.budgetMonth = month then r.charge else 0

/-- `_usage`. -/
def usage (st : ServiceStore) (principalId : Str) (now : DateTime) : Usage where
  inflight := st.inflight principalId
  daily := st.daily principalId now.budgetDay
  monthly := st.monthly principalId now.budgetMonth

/-! ### Operations -/

/-- The reservation with an id. -/
def reservation? (st : ServiceStore) (reservationId : Str) : Option Reservation :=
  Rows.find Reservation.reservationId st.reservations reservationId

/-- The policy with an id. -/
def policy? (st : ServiceStore) (policyId : Str) : Option ServicePolicy :=
  Rows.find ServicePolicy.policyId st.policies policyId

/-- The row that a reservation inserts. -/
def newReservation (request : CallReservationRequest) (now : DateTime) : Reservation where
  reservationId := request.reservationId
  policyId := request.policyId
  principalId := request.principalId
  runId := request.runId
  action := request.action
  provider := request.provider
  model := request.model
  reservedUnits := request.units
  state := .reserved
  budgetDay := now.budgetDay
  budgetMonth := now.budgetMonth

/-- What a policy says about a request, before its limits. -/
def policyDenies (policy : ServicePolicy) (request : CallReservationRequest) (now : DateTime) :
    Option CallReservationCode :=
  if policy.tenant ≠ request.tenant then some .tenantMismatch
  else if policy.revokedAt.any fun revoked => !now.before revoked then some .policyRevoked
  else if now.before policy.issuedAt then some .policyNotActive
  else if !now.before policy.expiresAt then some .policyExpired
  else if request.action ∉ policy.allowedActions then some .actionDenied
  else if request.provider ∉ policy.allowedProviders then some .providerDenied
  else if request.model ∉ policy.allowedModels then some .modelDenied
  else none

/-- What the principal and the run of a request say, or the policy it names. -/
def authorize (st : ServiceStore) (request : CallReservationRequest) :
    Except CallReservationCode ServicePolicy :=
  match Rows.find PrincipalRow.principalId st.principals request.principalId with
  | none => .error .unknownPrincipal
  | some principal =>
    if principal.enabled = false then .error .principalDisabled
    else if principal.tenant ≠ request.tenant then .error .tenantMismatch
    else if (Rows.find BindingRow.runId st.bindings request.runId).any
        (fun owner => owner.principalId = request.principalId) = false then .error .runNotOwned
    else
      match st.policy? request.policyId with
      | none => .error .unknownPolicy
      | some policy =>
        if policy.principalId ≠ request.principalId then .error .unknownPolicy else .ok policy

/-- `reserve_call`.  Sums of `_usage` that SQLite cannot hold are over every limit it can
hold; the source raises there and reserves nothing. -/
def reserveCall (st : ServiceStore) (request : CallReservationRequest) (now : DateTime) :
    ServiceStore × CallReservationResult :=
  match st.reservation? request.reservationId with
  | some existing =>
    if existing.isFor request then (st, ⟨true, .replay, st.usage request.principalId now⟩)
    else (st, ⟨false, .reservationConflict, {}⟩)
  | none =>
    match st.authorize request with
    | .error code => (st, ⟨false, code, {}⟩)
    | .ok policy =>
      match policyDenies policy request now with
      | some code => (st, ⟨false, code, {}⟩)
      | none =>
        let used := st.usage request.principalId now
        if policy.maxInflight ≤ used.inflight then (st, ⟨false, .maxInflightExceeded, used⟩)
        else if policy.dailyCallUnits < used.daily + request.units then
          (st, ⟨false, .dailyLimitExceeded, used⟩)
        else if policy.monthlyCallUnits < used.monthly + request.units then
          (st, ⟨false, .monthlyLimitExceeded, used⟩)
        else
          ({ st with reservations := st.reservations ++ [newReservation request now] },
            ⟨true, .reserved,
              ⟨used.inflight + 1, used.daily + request.units, used.monthly + request.units⟩⟩)

/-- The store with a reservation in another state. -/
def setState (st : ServiceStore) (reservationId : Str) (state : ReservationState) :
    ServiceStore where
  principals := st.principals
  policies := st.policies
  bindings := st.bindings
  reservations := Rows.change Reservation.reservationId st.reservations reservationId fun r =>
    { r with state := state }

/-- `reconcile_call`; negative units are refused before the store is read.  Units that SQLite
cannot hold, or that make a sum of `_usage` too large for it, are raised, and nothing is
written. -/
def reconcileCall (st : ServiceStore) (reservationId principalId : Str) (actualUnits : ℕ)
    (now : DateTime) : ServiceStore × Except SqliteError CallReconciliationResult :=
  match st.reservation? reservationId with
  | none => (st, .ok ⟨false, .notFound, false, false, false⟩)
  | some r =>
    match st.policy? r.policyId with
    | none => (st, .ok ⟨false, .notFound, false, false, false⟩)
    | some policy =>
      if r.principalId ≠ principalId then (st, .ok ⟨false, .notFound, false, false, false⟩)
      else
        match r.state with
        | .released => (st, .ok ⟨false, .released, false, false, false⟩)
        | .reconciled units =>
          if units ≠ actualUnits then (st, .ok ⟨false, .conflict, false, false, false⟩)
          else (st, accepted st policy .idempotent r)
        | .reserved =>
          if maxInteger < actualUnits then (st, .error .parameter)
          else
            let st' := st.setState reservationId (.reconciled actualUnits)
            match accepted st' policy .reconciled r with
            | .ok result => (st', .ok result)
            | .error e => (st, .error e)
where
  /-- The result of a reconciliation that stands. -/
  accepted (st : ServiceStore) (policy : ServicePolicy) (code : CallReconciliationCode)
      (r : Reservation) : Except SqliteError CallReconciliationResult :=
    let used := st.usage principalId now
    if maxInteger < used.daily ∨ maxInteger < used.monthly then .error .sum
    else .ok ⟨true, code, decide (r.reservedUnits < actualUnits),
      decide (policy.dailyCallUnits < used.daily), decide (policy.monthlyCallUnits < used.monthly)⟩

/-- `release_call`. -/
def releaseCall (st : ServiceStore) (reservationId principalId : Str) : ServiceStore × Bool :=
  match st.reservation? reservationId with
  | none => (st, false)
  | some r =>
    if r.principalId = principalId ∧ r.state = .reserved then
      (st.setState reservationId .released, true)
    else (st, false)

end ServiceStore
end Service
end CouncilLogic
