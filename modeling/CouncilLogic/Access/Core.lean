/-
# The policy core

`PolicyCore` of `access_policy.py`: mandates, and the reservations made under them, in
memory.  Money is decimal; what is already committed is added up anew for every decision, in
the decimal context of the interpreter, and a sum beyond its range is raised as an overflow.

The source is `src/model_council/access_policy.py`.  The decimal context is the one that Python
starts with, 28 digits and exponents up to 999999; `CouncilLogic.Lib.Decimal` has its addition and
comparison.
-/

import CouncilLogic.Lib.Decimal
import CouncilLogic.Service.Store

namespace CouncilLogic
namespace Access

open Service (Tenant DateTime)

/-! ### Values -/

/-- `PrincipalKind`. -/
inductive PrincipalKind
  | human
  | agent
  deriving DecidableEq

/-- `Principal`. -/
structure Principal where
  principalId : Str
  tenant : Tenant
  kind : PrincipalKind
  enabled : Bool := true

/-- `Mandate`; the allowlists are sets. -/
structure Mandate where
  mandateId : Str
  ownerPrincipalId : Str
  principalId : Str
  tenant : Tenant
  allowedActions : List Str
  allowedProviders : List Str
  allowedModels : List Str
  perRunLimit : Decimal
  dailyLimit : Decimal
  monthlyLimit : Decimal
  issuedAt : DateTime
  expiresAt : DateTime
  revokedAt : Option DateTime := none
  period : issuedAt.before expiresAt = true

/-- Two allowlists have the same members. -/
def sameSet (a b : List Str) : Bool := decide (a ⊆ b) && decide (b ⊆ a)

/-- `a == b` of mandates: amounts are compared as numbers. -/
def Mandate.same (a b : Mandate) : Bool :=
  decide (a.mandateId = b.mandateId) && decide (a.ownerPrincipalId = b.ownerPrincipalId) &&
    decide (a.principalId = b.principalId) && decide (a.tenant = b.tenant) &&
    sameSet a.allowedActions b.allowedActions && sameSet a.allowedProviders b.allowedProviders &&
    sameSet a.allowedModels b.allowedModels && a.perRunLimit.same b.perRunLimit &&
    a.dailyLimit.same b.dailyLimit && a.monthlyLimit.same b.monthlyLimit &&
    decide (a.issuedAt = b.issuedAt) && decide (a.expiresAt = b.expiresAt) &&
    decide (a.revokedAt = b.revokedAt)

/-- `AuthorizationRequest`. -/
structure AuthorizationRequest where
  principalId : Str
  tenant : Tenant
  mandateId : Str
  action : Str
  runId : Str
  reservationId : Str
  provider : Option Str := none
  model : Option Str := none
  maximumCost : Decimal := .zero

/-- `a == b` of requests. -/
def AuthorizationRequest.same (a b : AuthorizationRequest) : Bool :=
  decide (a.principalId = b.principalId) && decide (a.tenant = b.tenant) &&
    decide (a.mandateId = b.mandateId) && decide (a.action = b.action) &&
    decide (a.runId = b.runId) && decide (a.reservationId = b.reservationId) &&
    decide (a.provider = b.provider) && decide (a.model = b.model) &&
    a.maximumCost.same b.maximumCost

/-- `DecisionCode`; an invalid amount is refused before there is a request. -/
inductive DecisionCode
  | allowed
  | unknownPrincipal
  | principalDisabled
  | unknownMandate
  | mandateRevoked
  | mandateNotActive
  | mandateExpired
  | tenantMismatch
  | subjectMismatch
  | ownerInvalid
  | actionDenied
  | providerRequired
  | providerDenied
  | modelRequired
  | modelDenied
  | reservationConflict
  | reservationSettled
  | perRunLimitExceeded
  | dailyLimitExceeded
  | monthlyLimitExceeded
  deriving DecidableEq

/-- The amounts of a `BudgetSnapshot`. -/
structure BudgetSnapshot where
  runActual : Decimal
  runReserved : Decimal
  dailyActual : Decimal
  dailyReserved : Decimal
  monthlyActual : Decimal
  monthlyReserved : Decimal
  perRunLimit : Decimal
  dailyLimit : Decimal
  monthlyLimit : Decimal

/-- `AuthorizationDecision`, without the fields it repeats from the request. -/
structure AuthorizationDecision where
  code : DecisionCode
  budget : Option BudgetSnapshot := none

/-- `AuthorizationDecision.allowed`. -/
def AuthorizationDecision.allowed (d : AuthorizationDecision) : Bool := decide (d.code = .allowed)

/-- `_ReservationState` and `actual_cost`. -/
inductive ReservationState
  | reserved
  | reconciled (actualCost : Decimal)
  | released

/-- `_Reservation`. -/
structure Reservation where
  request : AuthorizationRequest
  reservedAt : DateTime
  decision : AuthorizationDecision
  state : ReservationState := .reserved

/-- The id of a reservation. -/
def Reservation.id (r : Reservation) : Str := r.request.reservationId

/-- `ReconciliationRequest`. -/
structure ReconciliationRequest where
  reservationId : Str
  principalId : Str
  tenant : Tenant
  actualCost : Decimal

/-- `ReconciliationCode`. -/
inductive ReconciliationCode
  | reconciled
  | idempotent
  | reservationNotFound
  | reservationReleased
  | reconciliationConflict
  deriving DecidableEq

/-- `ReconciliationResult`, without the fields it repeats from the request. -/
structure ReconciliationResult where
  accepted : Bool
  code : ReconciliationCode
  exceededReservation : Bool := false
  exceededLimit : Bool := false

/-- What an operation may raise. -/
inductive CoreError
  | valueError (message : Str)
  | keyError (key : Str)
  /-- `decimal.Overflow`. -/
  | overflow
  deriving DecidableEq

/-- `PolicyCore`. -/
structure PolicyCore where
  principals : List Principal
  mandates : List Mandate := []
  reservations : List Reservation := []

/-- What an operation leaves and returns. -/
abbrev Outcome (α : Type) := PolicyCore × Except CoreError α

/-! ### Arithmetic -/

/-- `decimal.DefaultContext`. -/
def context : Decimal.Context where
  prec := 28
  emax := 999999
  emin := -999999
  prec_pos := by decide

/-- `a + b`. -/
def plus (a b : Decimal) : Except CoreError Decimal :=
  match context.add a b with
  | some s => .ok s
  | none => .error .overflow

/-- Amounts added up from zero. -/
def total (amounts : List Decimal) : Except CoreError Decimal :=
  match context.sum .zero amounts with
  | some s => .ok s
  | none => .error .overflow

namespace Reservation

/-- `actual or Decimal("0")`. -/
def actual (r : Reservation) : Decimal :=
  match r.state with
  | .reconciled actualCost => if actualCost.coefficient = 0 then .zero else actualCost
  | .reserved | .released => .zero

/-- `reserved or Decimal("0")`. -/
def reserved (r : Reservation) : Decimal :=
  match r.state with
  | .reserved => if r.request.maximumCost.coefficient = 0 then .zero else r.request.maximumCost
  | .reconciled _ | .released => .zero

/-- The reservation counts for the principal of a request. -/
def countsFor (r : Reservation) (request : AuthorizationRequest) : Bool :=
  decide (r.request.principalId = request.principalId) &&
    decide (r.request.tenant = request.tenant) &&
    match r.state with
    | .released => false
    | .reserved | .reconciled _ => true

end Reservation

/-- The date of a time, and its month. -/
def dateOf (t : DateTime) : ℕ × ℕ × ℕ := (t.year, t.month, t.day)
def monthOf (t : DateTime) : ℕ × ℕ := (t.year, t.month)

namespace PolicyCore

/-! ### Snapshots -/

/-- The reservations that count for the principal, of the run of a request, of a day and of
a month. -/
def counted (core : PolicyCore) (request : AuthorizationRequest) : List Reservation :=
  core.reservations.filter fun r => r.countsFor request

def runRows (core : PolicyCore) (request : AuthorizationRequest) : List Reservation :=
  (core.counted request).filter fun r => r.request.runId = request.runId

def dayRows (core : PolicyCore) (request : AuthorizationRequest) (now : DateTime) :
    List Reservation :=
  (core.counted request).filter fun r => dateOf r.reservedAt = dateOf now

def monthRows (core : PolicyCore) (request : AuthorizationRequest) (now : DateTime) :
    List Reservation :=
  (core.counted request).filter fun r => monthOf r.reservedAt = monthOf now

/-- `self._mandates.get(mandate_id)`. -/
def mandate? (core : PolicyCore) (mandateId : Str) : Option Mandate :=
  Rows.find Mandate.mandateId core.mandates mandateId

/-- `self._principals.get(principal_id)`. -/
def principal? (core : PolicyCore) (principalId : Str) : Option Principal :=
  Rows.find Principal.principalId core.principals principalId

/-- `self._reservations.get(reservation_id)`. -/
def reservation? (core : PolicyCore) (reservationId : Str) : Option Reservation :=
  Rows.find Reservation.id core.reservations reservationId

/-- `_snapshot_locked`. -/
def snapshot (core : PolicyCore) (request : AuthorizationRequest) (now : DateTime) :
    Except CoreError BudgetSnapshot :=
  match core.mandate? request.mandateId with
  | none => .error (.keyError request.mandateId)
  | some mandate => do
    let runActual ← total ((core.runRows request).map Reservation.actual)
    let runReserved ← total ((core.runRows request).map Reservation.reserved)
    let dailyActual ← total ((core.dayRows request now).map Reservation.actual)
    let dailyReserved ← total ((core.dayRows request now).map Reservation.reserved)
    let monthlyActual ← total ((core.monthRows request now).map Reservation.actual)
    let monthlyReserved ← total ((core.monthRows request now).map Reservation.reserved)
    .ok ⟨runActual, runReserved, dailyActual, dailyReserved, monthlyActual, monthlyReserved,
      mandate.perRunLimit, mandate.dailyLimit, mandate.monthlyLimit⟩

/-- `committed + maximum_cost > limit`. -/
def exceeds (actual reserved maximumCost limit : Decimal) : Except CoreError Bool := do
  let committed ← plus actual reserved
  let projected ← plus committed maximumCost
  .ok (limit.lt projected)

/-- `_exceeded`. -/
def exceeded (s : BudgetSnapshot) : Except CoreError Bool := do
  let run ← plus s.runActual s.runReserved
  if s.perRunLimit.lt run then return true
  let daily ← plus s.dailyActual s.dailyReserved
  if s.dailyLimit.lt daily then return true
  let monthly ← plus s.monthlyActual s.monthlyReserved
  return s.monthlyLimit.lt monthly

/-! ### Decisions -/

/-- What a mandate says about a request, before its limits. -/
def mandateDenies (mandate : Mandate) (owner : Option Principal) (request : AuthorizationRequest)
    (now : DateTime) : Option DecisionCode :=
  if mandate.principalId ≠ request.principalId then some .subjectMismatch
  else if mandate.tenant ≠ request.tenant then some .tenantMismatch
  else if (owner.any fun o => decide (o.kind = .human) && o.enabled &&
      decide (o.tenant = request.tenant)) = false then some .ownerInvalid
  else if mandate.revokedAt.any fun revoked => !now.before revoked then some .mandateRevoked
  else if now.before mandate.issuedAt then some .mandateNotActive
  else if !now.before mandate.expiresAt then some .mandateExpired
  else if request.action ∉ mandate.allowedActions then some .actionDenied
  else if request.action = lit "provider:invoke" ∧ request.provider = none then
    some .providerRequired
  else if request.action = lit "provider:invoke" ∧ request.model = none then some .modelRequired
  else if request.provider.any fun p => decide (p ∉ mandate.allowedProviders) then
    some .providerDenied
  else if request.model.any fun m => decide (m ∉ mandate.allowedModels) then some .modelDenied
  else none

/-- What the principal and the mandate of a request say, before the limits. -/
def denies (core : PolicyCore) (request : AuthorizationRequest) (now : DateTime) :
    Except DecisionCode Mandate :=
  match core.principal? request.principalId with
  | none => .error .unknownPrincipal
  | some principal =>
    if principal.enabled = false then .error .principalDisabled
    else if principal.tenant ≠ request.tenant then .error .tenantMismatch
    else
      match core.mandate? request.mandateId with
      | none => .error .unknownMandate
      | some mandate =>
        match mandateDenies mandate (core.principal? mandate.ownerPrincipalId) request now with
        | some code => .error code
        | none => .ok mandate

/-- `_evaluate_locked`. -/
def evaluate (core : PolicyCore) (request : AuthorizationRequest) (now : DateTime) :
    Except CoreError AuthorizationDecision :=
  match core.denies request now with
  | .error code => .ok ⟨code, none⟩
  | .ok mandate => do
    let s ← core.snapshot request now
    if ← exceeds s.runActual s.runReserved request.maximumCost mandate.perRunLimit then
      return ⟨.perRunLimitExceeded, some s⟩
    if ← exceeds s.dailyActual s.dailyReserved request.maximumCost mandate.dailyLimit then
      return ⟨.dailyLimitExceeded, some s⟩
    if ← exceeds s.monthlyActual s.monthlyReserved request.maximumCost mandate.monthlyLimit then
      return ⟨.monthlyLimitExceeded, some s⟩
    let runReserved ← plus s.runReserved request.maximumCost
    let dailyReserved ← plus s.dailyReserved request.maximumCost
    let monthlyReserved ← plus s.monthlyReserved request.maximumCost
    return ⟨.allowed, some { s with
      runReserved := runReserved
      dailyReserved := dailyReserved
      monthlyReserved := monthlyReserved }⟩

/-! ### Operations -/

/-- `set_principal_enabled`. -/
def setPrincipalEnabled (core : PolicyCore) (principalId : Str) (enabled : Bool) : Outcome Unit :=
  match core.principal? principalId with
  | none => (core, .error (.keyError principalId))
  | some _ =>
    ({ core with
        principals := Rows.change Principal.principalId core.principals principalId
          (fun p => { p with enabled := enabled }) }, .ok ())

/-- The mandates with one more, or with one in the place of the one with its id. -/
def putMandate (core : PolicyCore) (mandate : Mandate) : PolicyCore where
  principals := core.principals
  mandates := match core.mandate? mandate.mandateId with
    | none => core.mandates ++ [mandate]
    | some _ => Rows.change Mandate.mandateId core.mandates mandate.mandateId fun _ => mandate
  reservations := core.reservations

/-- `register_mandate`. -/
def registerMandate (core : PolicyCore) (mandate : Mandate) : Outcome Unit :=
  match core.principal? mandate.principalId with
  | none => (core, .error (.valueError (lit "mandate subject is not a configured principal")))
  | some subject =>
    match core.principal? mandate.ownerPrincipalId with
    | none => (core, .error (.valueError (lit "mandate owner must be a configured human")))
    | some owner =>
      if owner.kind ≠ .human then
        (core, .error (.valueError (lit "mandate owner must be a configured human")))
      else if owner.tenant ≠ mandate.tenant then
        (core, .error (.valueError (lit "mandate owner tenant does not match mandate")))
      else if subject.tenant ≠ mandate.tenant then
        (core, .error (.valueError (lit "mandate subject tenant does not match mandate")))
      else if (core.mandate? mandate.mandateId).any fun existing => !existing.same mandate then
        (core, .error (.valueError (lit "mandate_id is already registered")))
      else (core.putMandate mandate, .ok ())

/-- `revoke_mandate(mandate_id, at=now)`. -/
def revokeMandate (core : PolicyCore) (mandateId : Str) (now : DateTime) : Outcome Mandate :=
  match core.mandate? mandateId with
  | none => (core, .error (.keyError mandateId))
  | some mandate =>
    if mandate.revokedAt.isSome then (core, .ok mandate)
    else (core.putMandate { mandate with revokedAt := some now },
      .ok { mandate with revokedAt := some now })

/-- `check(request, at=now)`. -/
def check (core : PolicyCore) (request : AuthorizationRequest) (now : DateTime) :
    Outcome AuthorizationDecision := (core, core.evaluate request now)

/-- `authorize_and_reserve(request, at=now)`. -/
def authorizeAndReserve (core : PolicyCore) (request : AuthorizationRequest) (now : DateTime) :
    Outcome AuthorizationDecision :=
  match core.reservation? request.reservationId with
  | some existing =>
    if existing.request.same request then
      match existing.state with
      | .reserved => (core, .ok existing.decision)
      | .reconciled _ | .released => (core, .ok ⟨.reservationSettled, none⟩)
    else (core, .ok ⟨.reservationConflict, none⟩)
  | none =>
    match core.evaluate request now with
    | .error e => (core, .error e)
    | .ok decision =>
      if decision.allowed = false then (core, .ok decision)
      else
        ({ core with reservations := core.reservations ++ [⟨request, now, decision, .reserved⟩] },
          .ok decision)

/-- The core with a reservation in another state. -/
def setState (core : PolicyCore) (reservationId : Str) (state : ReservationState) : PolicyCore where
  principals := core.principals
  mandates := core.mandates
  reservations := Rows.change Reservation.id core.reservations reservationId fun r =>
    { r with state := state }

/-- The result of a reconciliation that stands. -/
def accepted (core : PolicyCore) (code : ReconciliationCode) (r : Reservation)
    (request : ReconciliationRequest) (now : DateTime) : Except CoreError ReconciliationResult := do
  let s ← core.snapshot r.request now
  let isExceeded ← exceeded s
  .ok ⟨true, code, r.request.maximumCost.lt request.actualCost, isExceeded⟩

/-- `reconcile(request, at=now)`. -/
def reconcile (core : PolicyCore) (request : ReconciliationRequest) (now : DateTime) :
    Outcome ReconciliationResult :=
  match core.reservation? request.reservationId with
  | none => (core, .ok ⟨false, .reservationNotFound, false, false⟩)
  | some r =>
    if r.request.principalId ≠ request.principalId ∨ r.request.tenant ≠ request.tenant then
      (core, .ok ⟨false, .reservationNotFound, false, false⟩)
    else
      match r.state with
      | .released => (core, .ok ⟨false, .reservationReleased, false, false⟩)
      | .reconciled actualCost =>
        if actualCost.same request.actualCost then (core, core.accepted .idempotent r request now)
        else (core, .ok ⟨false, .reconciliationConflict, false, false⟩)
      | .reserved =>
        let core' := core.setState request.reservationId (.reconciled request.actualCost)
        (core', core'.accepted .reconciled r request now)

/-- `release_reservation`. -/
def releaseReservation (core : PolicyCore) (reservationId principalId : Str) (tenant : Tenant) :
    Outcome Bool :=
  match core.reservation? reservationId with
  | none => (core, .ok false)
  | some r =>
    match r.state with
    | .reserved =>
      if r.request.principalId = principalId ∧ r.request.tenant = tenant then
        (core.setState reservationId .released, .ok true)
      else (core, .ok false)
    | .reconciled _ | .released => (core, .ok false)

end PolicyCore
end Access
end CouncilLogic
