/-
# Overruns that a reconciliation flags

A reservation is charged to the day and the month in which it was made.  `reconcile_call` and
`PolicyCore.reconcile` compare with the limits what the day and the month of the
reconciliation have been charged.  Within one period that is the same; across the end of a
day or of a month, what overruns the period of the reservation is flagged only where the new
period is over its limit too (`overrunFlags_iff`).

The methods are `reconcile_call` of `src/model_council/service_store.py` and
`PolicyCore.reconcile` of `src/model_council/access_policy.py`; the flag is `exceeded_limit` of
their results.
-/

import CouncilLogic.Guarantees.Revocation
import CouncilLogic.Guarantees.ServiceBudget
import CouncilLogic.Guarantees.SpendingCeiling

namespace CouncilLogic

open Service (StoreMove DateTime ServiceStore ServicePolicy)

namespace Service

variable {st st' : ServiceStore} {r : Reservation} {policy : ServicePolicy} {now : DateTime}
  {reservationId principalId : Str} {actualUnits limit : ℕ}

/-! ### The service store -/

/-- The flags of a result say when the period of the reservation has been charged more than
its limit. -/
structure CallReconciliationResult.Truthful (result : CallReconciliationResult)
    (st : ServiceStore) (policy : ServicePolicy) (r : Reservation) : Prop where
  daily : policy.dailyCallUnits < st.daily r.principalId r.budgetDay →
    result.exceededDailyLimit = true
  monthly : policy.monthlyCallUnits < st.monthly r.principalId r.budgetMonth →
    result.exceededMonthlyLimit = true

/-- The units that a principal is charged in a period. -/
def ServiceStore.chargedIn (st : ServiceStore) (principalId : Str) (period : Reservation → Str)
    (k : Str) : ℕ :=
  st.total principalId fun r => if period r = k then r.charge else 0

/-- What a reconciliation that stands makes of the store. -/
def Settles (st : ServiceStore) (r : Reservation) (actualUnits : ℕ) (st' : ServiceStore) : Prop :=
  (r.state = .reconciled actualUnits ∧ st' = st) ∨
    (r.state = .reserved ∧ st' = st.setState r.reservationId (.reconciled actualUnits))

/-- **A reconciliation that stands** replaces the charge of its period, and of no other. -/
theorem Settles.chargedIn (h : Settles st r actualUnits st') (hkey : st.Keyed)
    (hr : r ∈ st.reservations) {period : Reservation → Str}
    (hperiod : ∀ a state, period { a with state := state } = period a) (k : Str) :
    r.charge ≤ st.chargedIn r.principalId period (period r) ∧
      st'.chargedIn r.principalId period k = if period r = k then
        st.chargedIn r.principalId period (period r) - r.charge + actualUnits
      else st.chargedIn r.principalId period k := by
  have hsettle : ∀ state k, (st.setState r.reservationId state).chargedIn r.principalId period k +
      (if period r = k then r.charge else 0) = st.chargedIn r.principalId period k +
        if period r = k then ({ r with state := state } : Reservation).charge else 0 := by
    intro state k
    have hsum := ServiceStore.total_setState hkey hr state r.principalId
      fun a => if period a = k then a.charge else 0
    unfold ServiceStore.share at hsum
    rw [if_pos rfl, if_pos rfl] at hsum
    dsimp only at hsum
    rw [hperiod r state] at hsum
    exact hsum
  have hreleased := hsettle .released (period r)
  rw [if_pos rfl, if_pos rfl] at hreleased
  have hzero : ({ r with state := .released } : Reservation).charge = 0 := rfl
  refine ⟨by omega, ?_⟩
  rcases h with ⟨hstate, rfl⟩ | ⟨-, rfl⟩
  · have hcharge : r.charge = actualUnits := by
      unfold Reservation.charge
      rw [hstate]
    split
    · rename_i hk
      rw [← hk]
      omega
    · rfl
  · have hactual := hsettle (.reconciled actualUnits) k
    have hcharge : ({ r with state := .reconciled actualUnits } : Reservation).charge =
        actualUnits := rfl
    split
    · rename_i hk
      subst hk
      rw [if_pos rfl, if_pos rfl] at hactual
      omega
    · rename_i hk
      rw [if_neg hk, if_neg hk] at hactual
      exact hactual

/-- A flag that is taken from the period of the reconciliation says what the period of the
reservation has been charged. -/
theorem Settles.flag_iff (h : Settles st r actualUnits st') (hkey : st.Keyed)
    (hr : r ∈ st.reservations) {period : Reservation → Str}
    (hperiod : ∀ a state, period { a with state := state } = period a) (k : Str) :
    (limit < st'.chargedIn r.principalId period (period r) →
        limit < st'.chargedIn r.principalId period k) ↔
      (k = period r ∨
        st.chargedIn r.principalId period (period r) - r.charge + actualUnits ≤ limit ∨
        limit < st.chargedIn r.principalId period k) := by
  have hown := (h.chargedIn hkey hr hperiod (period r)).2
  have hnow := (h.chargedIn hkey hr hperiod k).2
  rw [if_pos rfl] at hown
  rw [hown]
  by_cases hk : k = period r
  · subst hk
    rw [hown]
    exact ⟨fun _ => .inl rfl, fun _ hlt => hlt⟩
  · rw [if_neg (Ne.symm hk)] at hnow
    rw [hnow]
    constructor
    · intro himp
      by_cases hover : limit < st.chargedIn r.principalId period (period r) - r.charge + actualUnits
      · exact .inr (.inr (himp hover))
      · exact .inr (.inl (not_lt.1 hover))
    · rintro (hsame | hfits | hover) hlt
      · exact absurd hsame hk
      · omega
      · exact hover

/-- The flags of a reconciliation that stands are those of its own period. -/
theorem accepted_flags {code : CallReconciliationCode} {result : CallReconciliationResult}
    (h : ServiceStore.reconcileCall.accepted principalId actualUnits now st policy code r =
      .ok result) :
    result.exceededDailyLimit =
        decide (policy.dailyCallUnits < st.daily principalId now.budgetDay) ∧
      result.exceededMonthlyLimit =
        decide (policy.monthlyCallUnits < st.monthly principalId now.budgetMonth) := by
  unfold ServiceStore.reconcileCall.accepted at h
  dsimp only at h
  split at h
  · cases h
  · cases h
    exact ⟨rfl, rfl⟩

/-- A reconciliation that is accepted stands, and its flags are those of its own period. -/
theorem reconcileCall_accepted_settles {result : CallReconciliationResult} (hkey : st.Keyed)
    (hr : st.reservation? reservationId = some r) (hpolicy : st.policy? r.policyId = some policy)
    (hresult : (st.reconcileCall reservationId principalId actualUnits now).2 = .ok result)
    (haccepted : result.accepted = true) :
    let st' := (st.reconcileCall reservationId principalId actualUnits now).1
    Settles st r actualUnits st' ∧
      result.exceededDailyLimit =
        decide (policy.dailyCallUnits < st'.daily r.principalId now.budgetDay) ∧
      result.exceededMonthlyLimit =
        decide (policy.monthlyCallUnits < st'.monthly r.principalId now.budgetMonth) := by
  obtain ⟨-, hid⟩ := (ServiceStore.reservation?_eq_some hkey).1 hr
  unfold ServiceStore.reconcileCall at hresult ⊢
  simp only [hr, hpolicy] at hresult ⊢
  by_cases hprincipal : r.principalId = principalId
  · subst hprincipal
    simp only [ne_eq, not_true_eq_false, if_false] at hresult ⊢
    cases hstate : r.state with
    | released =>
      rw [hstate] at hresult
      cases hresult
      cases haccepted
    | reconciled units =>
      simp only [hstate] at hresult ⊢
      by_cases hunits : units = actualUnits
      · subst hunits
        simp only [not_true_eq_false, if_false] at hresult ⊢
        exact ⟨.inl ⟨hstate, rfl⟩, accepted_flags hresult⟩
      · simp only [hunits, not_false_eq_true, if_true] at hresult
        cases hresult
        cases haccepted
    | reserved =>
      simp only [hstate] at hresult ⊢
      by_cases hlarge : maxInteger < actualUnits
      · rw [if_pos hlarge] at hresult
        cases hresult
      rw [if_neg hlarge] at hresult ⊢
      cases hwritten : ServiceStore.reconcileCall.accepted r.principalId actualUnits now
          (st.setState reservationId (.reconciled actualUnits)) policy .reconciled r with
      | error e =>
        rw [hwritten] at hresult
        cases hresult
      | ok result' =>
        rw [hwritten] at hresult
        cases hresult
        refine ⟨.inr ⟨hstate, ?_⟩, accepted_flags hwritten⟩
        rw [hid]
  · simp only [ne_eq, hprincipal, not_false_eq_true, if_true] at hresult
    cases hresult
    cases haccepted

/-- **The flags of `reconcile_call` are truthful** exactly when, for the day and for the month,
the reconciliation falls in the period of the reservation, or that period stays within its
limit, or the period of the reconciliation is over its limit as well. -/
theorem reconcileCall_flags_iff {result : CallReconciliationResult} (hkey : st.Keyed)
    (hr : st.reservation? reservationId = some r) (hpolicy : st.policy? r.policyId = some policy)
    (hresult : (st.reconcileCall reservationId principalId actualUnits now).2 = .ok result)
    (haccepted : result.accepted = true) :
    result.Truthful (st.reconcileCall reservationId principalId actualUnits now).1 policy r ↔
      (now.budgetDay = r.budgetDay ∨
          st.daily r.principalId r.budgetDay - r.charge + actualUnits ≤ policy.dailyCallUnits ∨
          policy.dailyCallUnits < st.daily r.principalId now.budgetDay) ∧
        (now.budgetMonth = r.budgetMonth ∨
          st.monthly r.principalId r.budgetMonth - r.charge + actualUnits ≤
            policy.monthlyCallUnits ∨
          policy.monthlyCallUnits < st.monthly r.principalId now.budgetMonth) := by
  obtain ⟨hsettles, hday, hmonth⟩ :=
    reconcileCall_accepted_settles hkey hr hpolicy hresult haccepted
  have hmem := ((ServiceStore.reservation?_eq_some hkey).1 hr).1
  have hdaily := @Settles.flag_iff _ _ _ _ policy.dailyCallUnits hsettles hkey hmem
    Reservation.budgetDay (fun _ _ => rfl) now.budgetDay
  have hmonthly := @Settles.flag_iff _ _ _ _ policy.monthlyCallUnits hsettles hkey hmem
    Reservation.budgetMonth (fun _ _ => rfl) now.budgetMonth
  constructor
  · intro h
    refine ⟨hdaily.1 fun hover => ?_, hmonthly.1 fun hover => ?_⟩
    · exact of_decide_eq_true (hday.symm.trans (h.daily hover))
    · exact of_decide_eq_true (hmonth.symm.trans (h.monthly hover))
  · rintro ⟨hd, hm⟩
    refine ⟨fun hover => ?_, fun hover => ?_⟩
    · exact hday.trans (decide_eq_true (hdaily.2 hd hover))
    · exact hmonth.trans (decide_eq_true (hmonthly.2 hm hover))

end Service

namespace Access

variable {core : PolicyCore} {r : Reservation} {mandate : Mandate} {now : DateTime}
  {request : ReconciliationRequest}

/-! ### The policy core -/

/-- A reconciliation that is not refused. -/
structure Reservation.Stands (r : Reservation) (request : ReconciliationRequest) : Prop where
  principal : r.request.principalId = request.principalId
  tenant : r.request.tenant = request.tenant
  unreleased : r.state ≠ .released
  agrees : ∀ actualCost, r.state = .reconciled actualCost →
    actualCost.same request.actualCost = true

/-- What the day and the month of a reservation have been charged is within the limits. -/
def PolicyCore.WithinPeriod (core : PolicyCore) (mandate : Mandate) (r : Reservation) : Prop :=
  spentBy (core.dayRows r.request r.reservedAt) ≤ mandate.dailyLimit.value ∧
    spentBy (core.monthRows r.request r.reservedAt) ≤ mandate.monthlyLimit.value

/-- The flag of a reconciliation says when the day or the month of the reservation has been
charged more than its limit. -/
def PolicyCore.Truthful (core : PolicyCore) (outcome : Except CoreError ReconciliationResult)
    (mandate : Mandate) (r : Reservation) : Prop :=
  ¬ core.WithinPeriod mandate r → ∃ result, outcome = .ok result ∧ result.exceededLimit = true

/-! ### The condition, before the reconciliation -/

/-- What some reservations commit when the cost of one of them takes the place of what it
holds. -/
def replaced (rows : List Reservation) (r : Reservation) (cost : Decimal) : ℚ :=
  spentBy rows - r.spent + cost.value

/-- What the run, the day and the month of a time are charged once a reservation costs
`cost`.  The reservation is one of its run, and one of the day and of the month in which it
was made. -/
def PolicyCore.runCharge (core : PolicyCore) (r : Reservation) (cost : Decimal) : ℚ :=
  replaced (core.runRows r.request) r cost

def PolicyCore.dayCharge (core : PolicyCore) (r : Reservation) (cost : Decimal) (now : DateTime) :
    ℚ :=
  if dateOf r.reservedAt = dateOf now then replaced (core.dayRows r.request now) r cost
  else spentBy (core.dayRows r.request now)

def PolicyCore.monthCharge (core : PolicyCore) (r : Reservation) (cost : Decimal)
    (now : DateTime) : ℚ :=
  if monthOf r.reservedAt = monthOf now then replaced (core.monthRows r.request now) r cost
  else spentBy (core.monthRows r.request now)

/-- At that cost, the day and the month of the reservation stay within their limits. -/
def PolicyCore.FitsPeriod (core : PolicyCore) (mandate : Mandate) (r : Reservation)
    (cost : Decimal) : Prop :=
  core.dayCharge r cost r.reservedAt ≤ mandate.dailyLimit.value ∧
    core.monthCharge r cost r.reservedAt ≤ mandate.monthlyLimit.value

/-- At that cost, the run, or the day or the month of a time, is over its limit. -/
def PolicyCore.OverAt (core : PolicyCore) (mandate : Mandate) (r : Reservation) (cost : Decimal)
    (now : DateTime) : Prop :=
  mandate.perRunLimit.value < core.runCharge r cost ∨
    mandate.dailyLimit.value < core.dayCharge r cost now ∨
    mandate.monthlyLimit.value < core.monthCharge r cost now

/-- The ledger with the actual cost in the place of what an open reservation holds. -/
def PolicyCore.atCost (core : PolicyCore) (r : Reservation) (request : ReconciliationRequest) :
    PolicyCore :=
  match r.state with
  | .reserved => core.setState request.reservationId (.reconciled request.actualCost)
  | .reconciled _ | .released => core

/-- The decimal context adds up what some reservations have spent, and what they hold. -/
def AddsUp (rows : List Reservation) : Prop :=
  (∃ actual, total (rows.map Reservation.actual) = .ok actual) ∧
    ∃ reserved, total (rows.map Reservation.reserved) = .ok reserved

/-- What some reservations commit, by the sums as the decimal context rounds them. -/
def RoundsTo (rows : List Reservation) (committed : Decimal) : Prop :=
  ∃ actual reserved, total (rows.map Reservation.actual) = .ok actual ∧
    total (rows.map Reservation.reserved) = .ok reserved ∧ plus actual reserved = .ok committed

/-- The rounded sum is over a limit, or it is within the limit and `rest` holds. -/
def RoundsOver (rows : List Reservation) (limit : Decimal) (rest : Prop) : Prop :=
  ∃ committed, RoundsTo rows committed ∧ (limit.value < committed.value ∨ rest)

/-- No total is out of the range of the context, and the run, or else the day, or else the
month of a time is over its limit by the rounded sums. -/
def PolicyCore.RoundedOverAt (core : PolicyCore) (mandate : Mandate)
    (request : AuthorizationRequest) (now : DateTime) : Prop :=
  AddsUp (core.runRows request) ∧ AddsUp (core.dayRows request now) ∧
    AddsUp (core.monthRows request now) ∧
      RoundsOver (core.runRows request) mandate.perRunLimit
        (RoundsOver (core.dayRows request now) mandate.dailyLimit
          (RoundsOver (core.monthRows request now) mandate.monthlyLimit False))

/-! ### The flag -/

/-- The sum of a snapshot is compared with its limit. -/
theorem roundsOver_iff {rows : List Reservation} {actual reserved limit : Decimal} {rest : Prop}
    (hactual : total (rows.map Reservation.actual) = .ok actual)
    (hreserved : total (rows.map Reservation.reserved) = .ok reserved) :
    RoundsOver rows limit rest ↔
      ∃ committed, plus actual reserved = .ok committed ∧
        (limit.value < committed.value ∨ rest) := by
  refine exists_congr fun committed => and_congr_left fun _ =>
    ⟨?_, fun h => ⟨_, _, hactual, hreserved, h⟩⟩
  rintro ⟨actual', reserved', ha, hr, hplus⟩
  rw [hactual] at ha
  rw [hreserved] at hr
  cases ha
  cases hr
  exact hplus

/-- One comparison of `_exceeded`, and what comes after it. -/
theorem exceeds_step {actual reserved limit : Decimal} {rest : Except CoreError Bool} :
    (do
      let committed ← plus actual reserved
      if limit.lt committed then return true
      rest : Except CoreError Bool) = .ok true ↔
      ∃ committed, plus actual reserved = .ok committed ∧
        (limit.value < committed.value ∨ rest = .ok true) := by
  cases hplus : plus actual reserved with
  | error e => exact ⟨fun h => (nomatch h), fun ⟨_, h, _⟩ => (nomatch h)⟩
  | ok committed =>
    rw [ok_bind]
    constructor
    · intro h
      refine ⟨committed, rfl, ?_⟩
      by_cases hover : limit.lt committed = true
      · exact .inl (Decimal.lt_iff.1 hover)
      · rw [if_neg hover] at h
        exact .inr h
    · rintro ⟨_, ⟨⟩, hover⟩
      by_cases hlt : limit.lt committed = true
      · rw [if_pos hlt]
        rfl
      · rw [if_neg hlt]
        exact hover.resolve_left fun h => hlt (Decimal.lt_iff.2 h)

/-- The last comparison of `_exceeded`. -/
theorem exceeds_last {actual reserved limit : Decimal} :
    (do
      let committed ← plus actual reserved
      return limit.lt committed : Except CoreError Bool) = .ok true ↔
      ∃ committed, plus actual reserved = .ok committed ∧
        (limit.value < committed.value ∨ False) := by
  cases hplus : plus actual reserved with
  | error e => exact ⟨fun h => (nomatch h), fun ⟨_, h, _⟩ => (nomatch h)⟩
  | ok committed =>
    rw [ok_bind]
    constructor
    · intro h
      exact ⟨committed, rfl, .inl (Decimal.lt_iff.1 (Except.ok.inj h))⟩
    · rintro ⟨_, ⟨⟩, hover⟩
      exact congrArg Except.ok (Decimal.lt_iff.2 (hover.resolve_right id))

/-- The totals of a snapshot. -/
theorem snapshot_ok {request : AuthorizationRequest} {s : BudgetSnapshot}
    (hmandate : core.mandate? request.mandateId = some mandate)
    (h : core.snapshot request now = .ok s) :
    AddsUp (core.runRows request) ∧ AddsUp (core.dayRows request now) ∧
      AddsUp (core.monthRows request now) := by
  unfold PolicyCore.snapshot at h
  rw [hmandate] at h
  dsimp only at h
  obtain ⟨runActual, hra, h⟩ := Except.bind_ok_iff.1 h
  obtain ⟨runReserved, hrr, h⟩ := Except.bind_ok_iff.1 h
  obtain ⟨dailyActual, hda, h⟩ := Except.bind_ok_iff.1 h
  obtain ⟨dailyReserved, hdr, h⟩ := Except.bind_ok_iff.1 h
  obtain ⟨monthlyActual, hma, h⟩ := Except.bind_ok_iff.1 h
  obtain ⟨monthlyReserved, hmr, -⟩ := Except.bind_ok_iff.1 h
  exact ⟨⟨⟨_, hra⟩, _, hrr⟩, ⟨⟨_, hda⟩, _, hdr⟩, ⟨_, hma⟩, _, hmr⟩

/-- **`_exceeded`** says of a snapshot that the run, the day or the month is over its limit, by
the sums as they are rounded. -/
theorem snapshot_exceeded_iff {request : AuthorizationRequest}
    (hmandate : core.mandate? request.mandateId = some mandate) :
    (∃ s, core.snapshot request now = .ok s ∧ PolicyCore.exceeded s = .ok true) ↔
      core.RoundedOverAt mandate request now := by
  by_cases hadds : AddsUp (core.runRows request) ∧ AddsUp (core.dayRows request now) ∧
      AddsUp (core.monthRows request now)
  · obtain ⟨⟨⟨ra, hra⟩, rr, hrr⟩, ⟨⟨da, hda⟩, dr, hdr⟩, ⟨ma, hma⟩, mr, hmr⟩ := hadds
    have hsnapshot : core.snapshot request now = .ok ⟨ra, rr, da, dr, ma, mr,
        mandate.perRunLimit, mandate.dailyLimit, mandate.monthlyLimit⟩ := by
      unfold PolicyCore.snapshot
      rw [hmandate]
      simp only [hra, hrr, hda, hdr, hma, hmr, ok_bind]
    have hexceeded : PolicyCore.exceeded ⟨ra, rr, da, dr, ma, mr, mandate.perRunLimit,
        mandate.dailyLimit, mandate.monthlyLimit⟩ = .ok true ↔
          RoundsOver (core.runRows request) mandate.perRunLimit
            (RoundsOver (core.dayRows request now) mandate.dailyLimit
              (RoundsOver (core.monthRows request now) mandate.monthlyLimit False)) := by
      rw [roundsOver_iff hra hrr, roundsOver_iff hda hdr, roundsOver_iff hma hmr]
      unfold PolicyCore.exceeded
      refine exceeds_step.trans (exists_congr fun _ => and_congr_right fun _ => or_congr_right ?_)
      refine exceeds_step.trans (exists_congr fun _ => and_congr_right fun _ => or_congr_right ?_)
      exact exceeds_last
    unfold PolicyCore.RoundedOverAt
    rw [hsnapshot]
    constructor
    · rintro ⟨s, ⟨⟩, h⟩
      exact ⟨⟨⟨_, hra⟩, _, hrr⟩, ⟨⟨_, hda⟩, _, hdr⟩, ⟨⟨_, hma⟩, _, hmr⟩, hexceeded.1 h⟩
    · rintro ⟨-, -, -, h⟩
      exact ⟨_, rfl, hexceeded.2 h⟩
  · refine iff_of_false (fun ⟨s, hs, _⟩ => hadds (snapshot_ok hmandate hs)) fun h => ?_
    exact hadds ⟨h.1, h.2.1, h.2.2.1⟩

/-- **Sums that can be written** are compared exactly. -/
theorem SettleWritten.roundedOverAt_iff {request : AuthorizationRequest}
    (h : SettleWritten core request now)
    (hmandate : core.mandate? request.mandateId = some mandate) :
    core.RoundedOverAt mandate request now ↔
      mandate.perRunLimit.value < spentBy (core.runRows request) ∨
        mandate.dailyLimit.value < spentBy (core.dayRows request now) ∨
        mandate.monthlyLimit.value < spentBy (core.monthRows request now) := by
  obtain ⟨hsnapshot, hrun, hday⟩ := h mandate hmandate
  have hover : ∀ {rows : List Reservation} {limit : Decimal} {rest : Prop}, SumsWritten rows →
      context.Writes (spentBy rows) →
        (RoundsOver rows limit rest ↔ limit.value < spentBy rows ∨ rest) := by
    intro rows limit rest hsums hwrites
    obtain ⟨actual, reserved, hactual, hreserved, hspent, -⟩ := hsums.totals
    rw [← hspent] at hwrites ⊢
    obtain ⟨committed, hplus, hvalue⟩ := plus_exact hwrites
    rw [roundsOver_iff hactual hreserved, ← hvalue]
    refine ⟨?_, fun h => ⟨committed, hplus, h⟩⟩
    rintro ⟨committed', hplus', h⟩
    rw [hplus] at hplus'
    cases hplus'
    exact h
  have hadds : ∀ {rows : List Reservation}, SumsWritten rows → AddsUp rows := fun hsums => by
    obtain ⟨actual, reserved, hactual, hreserved, -⟩ := hsums.totals
    exact ⟨⟨actual, hactual⟩, reserved, hreserved⟩
  unfold PolicyCore.RoundedOverAt
  rw [hover hsnapshot.run hrun]
  by_cases hrunOver : mandate.perRunLimit.value < spentBy (core.runRows request)
  · exact iff_of_true ⟨hadds hsnapshot.run, hadds hsnapshot.day, hadds hsnapshot.month,
      .inl hrunOver⟩ (.inl hrunOver)
  obtain ⟨hdayWrites, hmonth⟩ := hday (not_lt.1 hrunOver)
  rw [hover hsnapshot.day hdayWrites, or_iff_right hrunOver, or_iff_right hrunOver]
  by_cases hdayOver : mandate.dailyLimit.value < spentBy (core.dayRows request now)
  · exact iff_of_true ⟨hadds hsnapshot.run, hadds hsnapshot.day, hadds hsnapshot.month,
      .inl hdayOver⟩ (.inl hdayOver)
  rw [hover hsnapshot.month (hmonth (not_lt.1 hdayOver)), or_iff_right hdayOver,
    or_iff_right hdayOver, or_false]
  exact ⟨fun h => h.2.2.2, fun h =>
    ⟨hadds hsnapshot.run, hadds hsnapshot.day, hadds hsnapshot.month, h⟩⟩

/-! ### What the reconciliation leaves -/

/-- A reconciliation that is not refused puts the actual cost into the ledger, and returns what
is read off that ledger. -/
theorem reconcile_stands (now : DateTime) (hr : core.reservation? request.reservationId = some r)
    (hstands : r.Stands request) : (core.reconcile request now).1 = core.atCost r request ∧
      ∃ code, (core.reconcile request now).2 =
        (core.atCost r request).accepted code r request now := by
  unfold PolicyCore.reconcile PolicyCore.atCost
  rw [hr]
  dsimp only
  rw [if_neg (not_or.2 ⟨not_not.2 hstands.principal, not_not.2 hstands.tenant⟩)]
  cases hstate : r.state with
  | released => exact absurd hstate hstands.unreleased
  | reconciled actualCost =>
    dsimp only
    rw [if_pos (hstands.agrees actualCost hstate)]
    exact ⟨rfl, .idempotent, rfl⟩
  | reserved => exact ⟨rfl, .reconciled, rfl⟩

/-- **The actual cost takes the place of what was held**, among the rows that the reservation
belongs to. -/
theorem spentBy_atCost (hkey : Rows.Unique Reservation.id core.reservations)
    (hr : core.reservation? request.reservationId = some r) (hstands : r.Stands request)
    {p : Reservation → Bool} (hp : ∀ a state, p { a with state := state } = p a) :
    spentBy (((core.atCost r request).counted r.request).filter p) =
      if p r = true then replaced ((core.counted r.request).filter p) r request.actualCost
      else spentBy ((core.counted r.request).filter p) := by
  obtain ⟨hmem, hid⟩ := Rows.find_some hr
  unfold PolicyCore.atCost
  cases hstate : r.state with
  | released => exact absurd hstate hstands.unreleased
  | reconciled actualCost =>
    -- the cost is in the ledger already
    have hsame : r.spent = request.actualCost.value := by
      have hle := hstands.agrees actualCost hstate
      unfold Decimal.same at hle
      rw [Bool.and_eq_true, Decimal.le_iff, Decimal.le_iff] at hle
      unfold Reservation.spent
      rw [hstate]
      exact le_antisymm hle.1 hle.2
    unfold replaced
    rw [hsame, sub_add_cancel, ite_self]
  | reserved =>
    have hcounts : ∀ state, state ≠ .released →
        Reservation.countsFor { r with state := state } r.request = true := by
      intro state hne
      cases state with
      | released => exact absurd rfl hne
      | reserved => simp [Reservation.countsFor]
      | reconciled => simp [Reservation.countsFor]
    have hown : r.countsFor r.request = true := by
      have h := hcounts .reserved (by rintro ⟨⟩)
      rw [← hstate] at h
      exact h
    have hcounted : ∀ rows : List Reservation,
        spentBy ((rows.filter fun a => a.countsFor r.request).filter p) =
          (rows.map fun a => if (p a && a.countsFor r.request) = true then a.spent else 0).sum :=
      fun rows => by rw [List.filter_filter, spentBy_filter_eq]
    have hsum := Rows.sum_change hkey hmem
      (fun a => { a with state := .reconciled request.actualCost })
      fun a => if (p a && a.countsFor r.request) = true then a.spent else 0
    rw [hown, hp r (.reconciled request.actualCost),
      hcounts (.reconciled request.actualCost) (by rintro ⟨⟩), Bool.and_true] at hsum
    show spentBy (((core.setState request.reservationId
      (.reconciled request.actualCost)).counted r.request).filter p) = _
    unfold replaced PolicyCore.counted PolicyCore.setState
    rw [hcounted, hcounted, ← hid]
    by_cases hpr : p r = true
    · rw [if_pos hpr, if_pos hpr] at hsum
      rw [if_pos hpr, eq_sub_of_add_eq hsum, add_sub_right_comm]
      rfl
    · rw [if_neg hpr, if_neg hpr, add_zero, add_zero] at hsum
      rw [if_neg hpr]
      exact hsum

/-- What the run, and the day and the month of a time, are charged afterwards. -/
theorem charges_atCost (hkey : Rows.Unique Reservation.id core.reservations)
    (hr : core.reservation? request.reservationId = some r) (hstands : r.Stands request)
    (at_ : DateTime) :
    spentBy ((core.atCost r request).runRows r.request) = core.runCharge r request.actualCost ∧
      spentBy ((core.atCost r request).dayRows r.request at_) =
        core.dayCharge r request.actualCost at_ ∧
      spentBy ((core.atCost r request).monthRows r.request at_) =
        core.monthCharge r request.actualCost at_ := by
  refine ⟨?_, ?_, ?_⟩
  · have h := spentBy_atCost hkey hr hstands
      (p := fun a => decide (a.request.runId = r.request.runId)) fun _ _ => rfl
    rw [if_pos (decide_eq_true rfl)] at h
    exact h
  · have h := spentBy_atCost hkey hr hstands
      (p := fun a => decide (dateOf a.reservedAt = dateOf at_)) fun _ _ => rfl
    simp only [decide_eq_true_eq] at h
    exact h
  · have h := spentBy_atCost hkey hr hstands
      (p := fun a => decide (monthOf a.reservedAt = monthOf at_)) fun _ _ => rfl
    simp only [decide_eq_true_eq] at h
    exact h

/-- **The flag of `reconcile` is truthful** exactly when, at the actual cost, the day and the
month of the reservation stay within their limits, or the run, or the day or the month of the
reconciliation, is over its limit; where a sum cannot be written, by the rounded sums. -/
theorem reconcile_flag_iff (hkey : Rows.Unique Reservation.id core.reservations)
    (hr : core.reservation? request.reservationId = some r)
    (hmandate : core.mandate? r.request.mandateId = some mandate) (hstands : r.Stands request) :
    (core.reconcile request now).1.Truthful (core.reconcile request now).2 mandate r ↔
      core.FitsPeriod mandate r request.actualCost ∨
        (SettleWritten (core.atCost r request) r.request now →
          core.OverAt mandate r request.actualCost now) ∧
        (¬ SettleWritten (core.atCost r request) r.request now →
          (core.atCost r request).RoundedOverAt mandate r.request now) := by
  obtain ⟨hleft, code, hresult⟩ := reconcile_stands now hr hstands
  have hkept : (core.atCost r request).mandate? r.request.mandateId = some mandate := by
    rw [← hleft]
    unfold PolicyCore.mandate?
    rw [(PolicyCore.reconcile_mandates core request now).1]
    exact hmandate
  have hflag : (∃ result, (core.atCost r request).accepted code r request now = .ok result ∧
      result.exceededLimit = true) ↔
        (core.atCost r request).RoundedOverAt mandate r.request now := by
    rw [← snapshot_exceeded_iff hkept]
    unfold PolicyCore.accepted
    constructor
    · rintro ⟨result, h, htrue⟩
      obtain ⟨s, hs, h⟩ := Except.bind_ok_iff.1 h
      obtain ⟨isExceeded, hexceeded, h⟩ := Except.bind_ok_iff.1 h
      cases h
      exact ⟨s, hs, hexceeded.trans (congrArg Except.ok htrue)⟩
    · rintro ⟨s, hs, hexceeded⟩
      rw [hs, ok_bind, hexceeded, ok_bind]
      exact ⟨_, rfl, rfl⟩
  have hwithin : (core.atCost r request).WithinPeriod mandate r ↔
      core.FitsPeriod mandate r request.actualCost := by
    obtain ⟨-, hday, hmonth⟩ := charges_atCost hkey hr hstands r.reservedAt
    unfold PolicyCore.WithinPeriod PolicyCore.FitsPeriod
    rw [hday, hmonth]
  rw [hleft, hresult]
  unfold PolicyCore.Truthful
  rw [hflag, ← or_iff_not_imp_left, hwithin]
  refine or_congr_right ?_
  by_cases hwritten : SettleWritten (core.atCost r request) r.request now
  · obtain ⟨hrun, hday, hmonth⟩ := charges_atCost hkey hr hstands now
    rw [hwritten.roundedOverAt_iff hkept, hrun, hday, hmonth]
    exact ⟨fun h => ⟨fun _ => h, fun hnot => absurd hwritten hnot⟩, fun h => h.1 hwritten⟩
  · exact ⟨fun h => ⟨fun hw => absurd hw hwritten, fun _ => h⟩, fun h => h.2 hwritten⟩

/-- Within one day and one month, sums that can be written are flagged. -/
theorem reconcile_truthful (hkey : Rows.Unique Reservation.id core.reservations)
    (hr : core.reservation? request.reservationId = some r)
    (hmandate : core.mandate? r.request.mandateId = some mandate) (hstands : r.Stands request)
    (hday : dateOf now = dateOf r.reservedAt) (hmonth : monthOf now = monthOf r.reservedAt)
    (hwritten : SettleWritten (core.atCost r request) r.request now) :
    (core.reconcile request now).1.Truthful (core.reconcile request now).2 mandate r := by
  refine (reconcile_flag_iff hkey hr hmandate hstands).2 ?_
  by_cases hfits : core.FitsPeriod mandate r request.actualCost
  · exact .inl hfits
  refine .inr ⟨fun _ => .inr ?_, fun hnot => absurd hwritten hnot⟩
  unfold PolicyCore.FitsPeriod at hfits
  unfold PolicyCore.dayCharge PolicyCore.monthCharge PolicyCore.dayRows PolicyCore.monthRows
    at hfits ⊢
  rw [hday, hmonth]
  rcases not_and_or.1 hfits with hover | hover
  · exact .inl (not_le.1 hover)
  · exact .inr (not_le.1 hover)

end Access


/-- **Overrun flags.**  In both implementations a reconciliation that is not refused flags what
has been charged to the day and the month of its reservation if and only if these are the
period of the reconciliation, or are within their limits at the actual cost, or the period of
the reconciliation is over its limit too. -/
theorem overrunFlags_iff {st : ServiceStore} {policy : ServicePolicy} {row : Service.Reservation}
    {reservationId principalId : Str} {actualUnits : ℕ} {at_ : DateTime}
    {result : Service.CallReconciliationResult}
    (hst : Relation.ReflTransGen StoreMove ⟨[], [], [], []⟩ st)
    (hrow : st.reservation? reservationId = some row)
    (hpolicy : st.policy? row.policyId = some policy)
    (hresult : (st.reconcileCall reservationId principalId actualUnits at_).2 = .ok result)
    (haccepted : result.accepted = true)
    {core : Access.PolicyCore} {r : Access.Reservation} {mandate : Access.Mandate}
    {request : Access.ReconciliationRequest} {now : DateTime} (hcore : core.Reached)
    (hr : core.reservation? request.reservationId = some r)
    (hmandate : core.mandate? r.request.mandateId = some mandate) (hstands : r.Stands request) :
    (result.Truthful (st.reconcileCall reservationId principalId actualUnits at_).1 policy row ↔
      (at_.budgetDay = row.budgetDay ∨
          st.daily row.principalId row.budgetDay - row.charge + actualUnits ≤
            policy.dailyCallUnits ∨
          policy.dailyCallUnits < st.daily row.principalId at_.budgetDay) ∧
        (at_.budgetMonth = row.budgetMonth ∨
          st.monthly row.principalId row.budgetMonth - row.charge + actualUnits ≤
            policy.monthlyCallUnits ∨
          policy.monthlyCallUnits < st.monthly row.principalId at_.budgetMonth)) ∧
    ((core.reconcile request now).1.Truthful (core.reconcile request now).2 mandate r ↔
      core.FitsPeriod mandate r request.actualCost ∨
        (Access.SettleWritten (core.atCost r request) r.request now →
          core.OverAt mandate r request.actualCost now) ∧
        (¬ Access.SettleWritten (core.atCost r request) r.request now →
          (core.atCost r request).RoundedOverAt mandate r.request now)) := by
  have hkey : st.Keyed := by
    clear hrow hpolicy hresult
    induction hst with
    | refl => exact List.nodup_nil
    | tail _ hlast ih => exact hlast.keyed ih
  exact ⟨Service.reconcileCall_flags_iff hkey hrow hpolicy hresult haccepted,
    Access.reconcile_flag_iff hcore.unique hr hmandate hstands⟩

/-! ### Examples -/

open Service (exampleStore exampleRequest) in
/-- A call is reserved on the first of July. -/
def julyStore : ServiceStore := (exampleStore.reserveCall exampleRequest ⟨2026, 7, 1, 0⟩).1

/-- The store of the example is reached: a principal, a policy and a reservation in July. -/
theorem julyStore_reached : Relation.ReflTransGen StoreMove ⟨[], [], [], []⟩ julyStore := by
  have hpolicy : ∃ policy, Service.exampleStore =
      { (ServiceStore.putPolicy ⟨[⟨lit "agent", .personal, true⟩], [], [], []⟩ policy).1 with
        bindings := [⟨lit "run", lit "agent"⟩] } :=
    ⟨Service.exampleStore.policies.get ⟨0, by decide⟩, rfl⟩
  obtain ⟨policy, heq⟩ := hpolicy
  have hprincipal : Relation.ReflTransGen StoreMove ⟨[], [], [], []⟩
      ⟨[⟨lit "agent", .personal, true⟩], [], [], []⟩ :=
    .single (.putPrincipal _ ⟨lit "agent", .personal, true⟩ rfl)
  refine .tail ?_ (.call Service.exampleStore (.reserve Service.exampleRequest ⟨2026, 7, 1, 0⟩))
  rw [heq]
  exact .tail (.tail hprincipal (.putPolicy _ policy)) (.bindings _ _)

/-- A mandate of 1 a day and a month, and 10 a run. -/
def dailyMandate : Access.Mandate :=
  { Access.limitedTo ⟨10, 0⟩ with
    dailyLimit := ⟨1, 0⟩
    monthlyLimit := ⟨1, 0⟩ }

open Access (CoreOp costing) in
/-- An amount of 1 is reserved on the first of July. -/
def julyCore : Access.PolicyCore :=
  CoreOp.apply (CoreOp.apply ⟨Access.examplePrincipals, [], []⟩ (.register dailyMandate))
    (.authorize (costing ⟨1, 0⟩ "first") ⟨2026, 7, 1, 0⟩)

/-- The core of the example is reached: a mandate and a reservation in July. -/
theorem julyCore_reached : julyCore.Reached :=
  ⟨Access.examplePrincipals, show List.Nodup _ by decide +kernel,
    .tail (.single (.call _ (.register dailyMandate) trivial))
      (.call _ (.authorize (Access.costing ⟨1, 0⟩ "first") ⟨2026, 7, 1, 0⟩) trivial)⟩

/-- The actual cost of the reservation. -/
def costingFive : Access.ReconciliationRequest := ⟨lit "first", lit "agent", .personal, ⟨5, 0⟩⟩

/-- Reconciled in August, neither overrun is flagged. -/
theorem overrun_unflagged :
    (∃ row policy result, julyStore.reservation? (lit "call-1") = some row ∧
      julyStore.policy? row.policyId = some policy ∧
      (julyStore.reconcileCall (lit "call-1") (lit "agent") 5 ⟨2026, 8, 1, 0⟩).2 = .ok result ∧
      result.accepted = true ∧ ¬ result.Truthful
        (julyStore.reconcileCall (lit "call-1") (lit "agent") 5 ⟨2026, 8, 1, 0⟩).1 policy row) ∧
    ∃ r mandate, julyCore.reservation? (lit "first") = some r ∧
      julyCore.mandate? r.request.mandateId = some mandate ∧ r.Stands costingFive ∧
      ¬ (julyCore.reconcile costingFive ⟨2026, 8, 1, 0⟩).1.Truthful
        (julyCore.reconcile costingFive ⟨2026, 8, 1, 0⟩).2 mandate r := by
  constructor
  · refine ⟨_, _, ⟨true, .reconciled, true, false, false⟩, rfl, rfl, by decide +kernel, rfl,
      fun h => ?_⟩
    have hflag := h.daily (by decide +kernel)
    cases hflag
  · obtain ⟨r, mandate, hr, hmandate, hprincipal, htenant, hstate, hlimit, hrows, result, hok,
        hflag⟩ : ∃ r mandate, julyCore.reservation? (lit "first") = some r ∧
          julyCore.mandate? r.request.mandateId = some mandate ∧
          r.request.principalId = lit "agent" ∧ r.request.tenant = .personal ∧
          r.state = .reserved ∧ mandate.dailyLimit = ⟨1, 0⟩ ∧
          ((julyCore.reconcile costingFive ⟨2026, 8, 1, 0⟩).1.dayRows r.request r.reservedAt).map
            Access.Reservation.state = [.reconciled ⟨5, 0⟩] ∧
          ∃ result, (julyCore.reconcile costingFive ⟨2026, 8, 1, 0⟩).2 = .ok result ∧
            result.exceededLimit = false :=
      ⟨_, _, rfl, rfl, rfl, rfl, rfl, rfl, rfl, _, rfl, rfl⟩
    refine ⟨r, mandate, hr, hmandate, ⟨hprincipal, htenant, ?_, ?_⟩, fun h => ?_⟩
    · rw [hstate]
      rintro ⟨⟩
    · rw [hstate]
      rintro _ ⟨⟩
    obtain ⟨row, hrow, hspent⟩ := List.map_eq_singleton_iff.1 hrows
    have hover : ¬ (julyCore.reconcile costingFive ⟨2026, 8, 1, 0⟩).1.WithinPeriod mandate r := by
      intro hwithin
      have hday := hwithin.1
      rw [hrow, hlimit] at hday
      unfold Access.spentBy Access.Reservation.spent at hday
      norm_num [hspent, Decimal.value] at hday
    obtain ⟨result', hok', hflag'⟩ := h hover
    obtain rfl : result = result' := Except.ok.inj (hok.symm.trans hok')
    exact absurd (hflag.symm.trans hflag') (by decide)

/-- Reconciled on the same day, both overruns are flagged. -/
theorem overrunFlags_iff_example :
    (∃ result, (julyStore.reconcileCall (lit "call-1") (lit "agent") 5 ⟨2026, 7, 1, 9⟩).2 =
        .ok result ∧ result.exceededDailyLimit = true) ∧
      ∃ r mandate, julyCore.reservation? (lit "first") = some r ∧
        julyCore.mandate? r.request.mandateId = some mandate ∧
        ((julyCore.reconcile costingFive ⟨2026, 7, 1, 9⟩).1.Truthful
            (julyCore.reconcile costingFive ⟨2026, 7, 1, 9⟩).2 mandate r ↔
          julyCore.FitsPeriod mandate r ⟨5, 0⟩ ∨
            (Access.SettleWritten (julyCore.atCost r costingFive) r.request ⟨2026, 7, 1, 9⟩ →
              julyCore.OverAt mandate r ⟨5, 0⟩ ⟨2026, 7, 1, 9⟩) ∧
            (¬ Access.SettleWritten (julyCore.atCost r costingFive) r.request ⟨2026, 7, 1, 9⟩ →
              (julyCore.atCost r costingFive).RoundedOverAt mandate r.request
                ⟨2026, 7, 1, 9⟩)) := by
  obtain ⟨r, mandate, hr, hmandate, hprincipal, htenant, hstate⟩ :
      ∃ r mandate, julyCore.reservation? costingFive.reservationId = some r ∧
        julyCore.mandate? r.request.mandateId = some mandate ∧
        r.request.principalId = lit "agent" ∧ r.request.tenant = .personal ∧
        r.state = .reserved := ⟨_, _, rfl, rfl, rfl, rfl, rfl⟩
  have hstands : r.Stands costingFive := by
    refine ⟨hprincipal, htenant, ?_, ?_⟩ <;> rw [hstate]
    · rintro ⟨⟩
    · rintro _ ⟨⟩
  obtain ⟨row, policy, hrow, hpolicy, hday, hlimit, hown⟩ :
      ∃ row policy, julyStore.reservation? (lit "call-1") = some row ∧
        julyStore.policy? row.policyId = some policy ∧
        row.budgetDay = (⟨2026, 7, 1, 9⟩ : DateTime).budgetDay ∧
        row.budgetMonth = (⟨2026, 7, 1, 9⟩ : DateTime).budgetMonth ∧
        decide (policy.dailyCallUnits < (julyStore.reconcileCall (lit "call-1") (lit "agent") 5
          ⟨2026, 7, 1, 9⟩).1.daily row.principalId row.budgetDay) = true :=
    ⟨_, _, rfl, rfl, by decide +kernel, by decide +kernel, by decide +kernel⟩
  have hresult : (julyStore.reconcileCall (lit "call-1") (lit "agent") 5 ⟨2026, 7, 1, 9⟩).2 =
      .ok ⟨true, .reconciled, true, true, true⟩ := by decide +kernel
  have hiff := @overrunFlags_iff _ _ _ _ _ _ _ _ julyStore_reached hrow hpolicy hresult rfl
    _ _ _ _ ⟨2026, 7, 1, 9⟩ julyCore_reached hr hmandate hstands
  exact ⟨⟨_, hresult, (hiff.1.2 ⟨.inl hday.symm, .inl hlimit.symm⟩).daily (of_decide_eq_true hown)⟩,
    r, mandate, hr, hmandate, hiff.2⟩

end CouncilLogic
