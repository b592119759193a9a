/-
# What a principal has spent

The exact amount that the reservations of a principal commit, in a run, on a day or in a
month, and the sums the policy core forms of them.  Where every partial sum can be written
in the decimal context, the core adds up exactly, raises nothing and compares the exact
amounts with the limits.

The sums are those of `PolicyCore._snapshot_locked` in `src/model_council/access_policy.py`.  The
condition that every partial sum can be written is about the amounts alone; without it a sum is
rounded to 28 digits, and a limit may be passed by what was rounded away.
-/

import CouncilLogic.Access.Moves
import Mathlib.Algebra.Order.BigOperators.Group.List

namespace CouncilLogic
namespace Access

open Service (Tenant DateTime)

variable {core core' : PolicyCore} {mandate : Mandate} {request : AuthorizationRequest}
  {now : DateTime}

/-! ### Exact amounts -/

/-- The amount a reservation commits. -/
def Reservation.spent (r : Reservation) : ℚ :=
  match r.state with
  | .reserved => r.request.maximumCost.value
  | .reconciled actualCost => actualCost.value
  | .released => 0

/-- The amount some reservations commit. -/
def spentBy (rows : List Reservation) : ℚ := (rows.map Reservation.spent).sum

/-- The amount some reservations have reserved and not spent. -/
def reservedBy (rows : List Reservation) : ℚ := (rows.map fun r => r.reserved.value).sum

/-- The reservations of a principal that `rows` picks out. -/
def PolicyCore.rowsOf (core : PolicyCore) (principalId : Str) (rows : Reservation → Bool) :
    List Reservation :=
  core.reservations.filter fun r => decide (r.request.principalId = principalId) && rows r

/-- The amount a principal has committed in the reservations that `rows` picks out. -/
def PolicyCore.committed (core : PolicyCore) (principalId : Str) (rows : Reservation → Bool) : ℚ :=
  spentBy (core.rowsOf principalId rows)

/-- The reservations of a run, of a day and of a month. -/
def ofRun (runId : Str) (r : Reservation) : Bool := decide (r.request.runId = runId)
def ofDay (day : ℕ × ℕ × ℕ) (r : Reservation) : Bool := decide (dateOf r.reservedAt = day)
def ofMonth (month : ℕ × ℕ) (r : Reservation) : Bool := decide (monthOf r.reservedAt = month)

/-- No reservation commits less than nothing. -/
theorem Reservation.spent_nonneg (r : Reservation) : 0 ≤ r.spent := by
  unfold spent
  split
  · exact Decimal.value_nonneg _
  · exact Decimal.value_nonneg _
  · exact le_rfl

/-- A zero is worth nothing, whatever its exponent. -/
theorem value_orZero (a : Decimal) : (if a.coefficient = 0 then .zero else a : Decimal).value =
    a.value := by
  split
  · rename_i h
    rw [Decimal.value_zero, Decimal.value_eq_zero.2 h]
  · rfl

/-- What a reservation commits is what it has spent and what it holds reserved. -/
theorem Reservation.spent_eq (r : Reservation) : r.spent = r.actual.value + r.reserved.value := by
  unfold spent actual reserved
  cases r.state with
  | reserved =>
    show _ = Decimal.zero.value + (if _ then _ else _ : Decimal).value
    rw [value_orZero, Decimal.value_zero, zero_add]
  | reconciled actualCost =>
    show _ = (if _ then _ else _ : Decimal).value + Decimal.zero.value
    rw [value_orZero, Decimal.value_zero, add_zero]
  | released => simp

/-- What is spent is what has been paid and what is still reserved. -/
theorem spentBy_eq (rows : List Reservation) :
    spentBy rows = (rows.map fun r => r.actual.value).sum + reservedBy rows := by
  unfold spentBy reservedBy
  rw [← List.sum_map_add]
  exact congrArg List.sum (List.map_congr_left fun r _ => r.spent_eq)

/-- One reservation more adds what it commits. -/
theorem spentBy_cons (r : Reservation) (rows : List Reservation) :
    spentBy (r :: rows) = r.spent + spentBy rows := by
  unfold spentBy
  rw [List.map_cons, List.sum_cons]

/-- Leaving out reservations is counting them as nothing. -/
theorem spentBy_filter_eq (p : Reservation → Bool) (rows : List Reservation) :
    spentBy (rows.filter p) = (rows.map fun r => if p r = true then r.spent else 0).sum := by
  induction rows with
  | nil => rfl
  | cons r rows ih =>
    rw [List.map_cons, List.sum_cons, ← ih, List.filter_cons]
    by_cases hp : p r = true
    · rw [if_pos hp, if_pos hp, spentBy_cons]
    · rw [if_neg hp, if_neg hp, zero_add]

/-- Leaving out reservations that commit nothing. -/
theorem spentBy_filter {p q : Reservation → Bool} {rows : List Reservation}
    (hpq : ∀ r ∈ rows, p r = true → q r = true)
    (hzero : ∀ r ∈ rows, q r = true → p r = false → r.spent = 0) :
    spentBy (rows.filter p) = spentBy (rows.filter q) := by
  rw [spentBy_filter_eq, spentBy_filter_eq]
  refine congrArg List.sum (List.map_congr_left fun r hr => ?_)
  by_cases hp : p r = true
  · rw [if_pos hp, if_pos (hpq r hr hp)]
  · rw [if_neg hp]
    by_cases hq : q r = true
    · rw [if_pos hq, hzero r hr hq (by simpa using hp)]
    · rw [if_neg hq]

/-- **What the core counts for a request** is what the principal has committed, where all
its reservations are of the tenant of the request. -/
theorem spentBy_counted (rows : Reservation → Bool)
    (htenant : ∀ r ∈ core.reservations, r.request.principalId = request.principalId →
      r.request.tenant = request.tenant) :
    spentBy ((core.counted request).filter rows) = core.committed request.principalId rows := by
  unfold PolicyCore.counted PolicyCore.committed PolicyCore.rowsOf
  rw [List.filter_filter]
  refine spentBy_filter (fun r hr h => ?_) fun r hr hq hp => ?_
  · simp only [Reservation.countsFor, Bool.and_eq_true, decide_eq_true_eq] at h
    simp [h.1, h.2.1.1]
  · simp only [Bool.and_eq_true, decide_eq_true_eq] at hq
    have ht := htenant r hr hq.1
    cases hstate : r.state with
    | reserved => simp [Reservation.countsFor, hq, ht, hstate] at hp
    | reconciled => simp [Reservation.countsFor, hq, ht, hstate] at hp
    | released => simp [Reservation.spent, hstate]

/-! ### Sums that can be written -/

/-- The partial sums of some reservations can be written. -/
structure SumsWritten (rows : List Reservation) : Prop where
  actual : context.WritesSums 0 (rows.map Reservation.actual)
  reserved : context.WritesSums 0 (rows.map Reservation.reserved)

/-- The sums of a snapshot can be written. -/
structure SnapshotWritten (core : PolicyCore) (request : AuthorizationRequest) (now : DateTime) :
    Prop where
  run : SumsWritten (core.runRows request)
  day : SumsWritten (core.dayRows request now)
  month : SumsWritten (core.monthRows request now)

/-- What is committed can be written, and so can the cost on top of it; and `rest`, if this is
within the limit. -/
def FitsWritten (rows : List Reservation) (cost limit : Decimal) (rest : Prop) : Prop :=
  context.Writes (spentBy rows) ∧ context.Writes (spentBy rows + cost.value) ∧
    (spentBy rows + cost.value ≤ limit.value → rest)

/-- The sums that `_evaluate_locked` forms can be written. -/
def EvaluateWritten (core : PolicyCore) (request : AuthorizationRequest) (now : DateTime) : Prop :=
  ∀ mandate, core.denies request now = .ok mandate → SnapshotWritten core request now ∧
    FitsWritten (core.runRows request) request.maximumCost mandate.perRunLimit
      (FitsWritten (core.dayRows request now) request.maximumCost mandate.dailyLimit
        (FitsWritten (core.monthRows request now) request.maximumCost mandate.monthlyLimit
          (context.Writes (reservedBy (core.runRows request) + request.maximumCost.value) ∧
            context.Writes (reservedBy (core.dayRows request now) + request.maximumCost.value) ∧
            context.Writes (reservedBy (core.monthRows request now) +
              request.maximumCost.value))))

/-- The sums that are formed when a reconciliation stands can be written. -/
def SettleWritten (core : PolicyCore) (request : AuthorizationRequest) (now : DateTime) : Prop :=
  ∀ mandate, core.mandate? request.mandateId = some mandate → SnapshotWritten core request now ∧
    context.Writes (spentBy (core.runRows request)) ∧
      (spentBy (core.runRows request) ≤ mandate.perRunLimit.value →
        context.Writes (spentBy (core.dayRows request now)) ∧
          (spentBy (core.dayRows request now) ≤ mandate.dailyLimit.value →
            context.Writes (spentBy (core.monthRows request now))))

/-- The sums that `reconcile` forms can be written. -/
def ReconcileWritten (core : PolicyCore) (request : ReconciliationRequest) (now : DateTime) :
    Prop :=
  ∀ r, core.reservation? request.reservationId = some r →
    match r.state with
    | .released => True
    | .reconciled actualCost =>
      actualCost.same request.actualCost = true → SettleWritten core r.request now
    | .reserved =>
      SettleWritten (core.setState request.reservationId (.reconciled request.actualCost))
        r.request now

/-! ### Exact sums -/

/-- A sum that can be written is exact. -/
theorem plus_exact {a b : Decimal} (h : context.Writes (a.value + b.value)) :
    ∃ s, plus a b = .ok s ∧ s.value = a.value + b.value := by
  obtain ⟨s, hs, hvalue⟩ := Decimal.Context.add_exact h
  refine ⟨s, ?_, hvalue⟩
  unfold plus
  rw [hs]

/-- A total all of whose partial sums can be written is exact. -/
theorem total_exact {amounts : List Decimal} (h : context.WritesSums 0 amounts) :
    ∃ s, total amounts = .ok s ∧ s.value = (amounts.map Decimal.value).sum := by
  rw [← Decimal.value_zero] at h
  obtain ⟨s, hs, hvalue⟩ := Decimal.Context.sum_exact h
  refine ⟨s, ?_, by rw [hvalue, Decimal.value_zero, zero_add]⟩
  unfold total
  rw [hs]

/-- A snapshot holds exact amounts. -/
structure BudgetSnapshot.Sums (s : BudgetSnapshot) (runRows dayRows monthRows : List Reservation)
    (mandate : Mandate) : Prop where
  run : s.runActual.value + s.runReserved.value = spentBy runRows
  day : s.dailyActual.value + s.dailyReserved.value = spentBy dayRows
  month : s.monthlyActual.value + s.monthlyReserved.value = spentBy monthRows
  runReserved : s.runReserved.value = reservedBy runRows
  dayReserved : s.dailyReserved.value = reservedBy dayRows
  monthReserved : s.monthlyReserved.value = reservedBy monthRows
  perRunLimit : s.perRunLimit = mandate.perRunLimit
  dailyLimit : s.dailyLimit = mandate.dailyLimit
  monthlyLimit : s.monthlyLimit = mandate.monthlyLimit

/-- The two totals of some reservations. -/
theorem SumsWritten.totals {rows : List Reservation} (h : SumsWritten rows) :
    ∃ a r, total (rows.map Reservation.actual) = .ok a ∧
      total (rows.map Reservation.reserved) = .ok r ∧ a.value + r.value = spentBy rows ∧
        r.value = reservedBy rows := by
  obtain ⟨a, ha, hactual⟩ := total_exact h.actual
  obtain ⟨r, hr, hreserved⟩ := total_exact h.reserved
  rw [List.map_map] at hactual hreserved
  refine ⟨a, r, ha, hr, ?_, hreserved⟩
  rw [spentBy_eq, hactual, hreserved]
  rfl

/-- **A snapshot is exact** where its sums can be written. -/
theorem SnapshotWritten.exact (h : SnapshotWritten core request now)
    (hmandate : core.mandate? request.mandateId = some mandate) :
    ∃ s, core.snapshot request now = .ok s ∧
      s.Sums (core.runRows request) (core.dayRows request now) (core.monthRows request now)
        mandate := by
  obtain ⟨ra, rr, hra, hrr, hrun, hrunReserved⟩ := h.run.totals
  obtain ⟨da, dr, hda, hdr, hday, hdayReserved⟩ := h.day.totals
  obtain ⟨ma, mr, hma, hmr, hmonth, hmonthReserved⟩ := h.month.totals
  refine ⟨⟨ra, rr, da, dr, ma, mr, mandate.perRunLimit, mandate.dailyLimit,
    mandate.monthlyLimit⟩, ?_, ?_⟩
  · unfold PolicyCore.snapshot
    rw [hmandate]
    simp only [hra, hrr, hda, hdr, hma, hmr, ok_bind]
  · exact ⟨hrun, hday, hmonth, hrunReserved, hdayReserved, hmonthReserved, rfl, rfl, rfl⟩

/-- A comparison with a limit is exact. -/
theorem FitsWritten.exact {rows : List Reservation} {actual reserved cost limit : Decimal}
    {rest : Prop} (h : FitsWritten rows cost limit rest)
    (hspent : actual.value + reserved.value = spentBy rows) :
    PolicyCore.exceeds actual reserved cost limit =
      .ok (decide (limit.value < spentBy rows + cost.value)) := by
  obtain ⟨hcommitted, hprojected, -⟩ := h
  rw [← hspent] at hcommitted hprojected ⊢
  obtain ⟨c, hc, hvalue⟩ := plus_exact hcommitted
  rw [← hvalue] at hprojected ⊢
  obtain ⟨p, hp, hpvalue⟩ := plus_exact hprojected
  have hlt : limit.lt p = decide (limit.value < c.value + cost.value) := by
    rw [← hpvalue, ← Bool.coe_iff_coe, Decimal.lt_iff, decide_eq_true_iff]
  unfold PolicyCore.exceeds
  simp only [hc, hp, ok_bind, hlt]

/-- The limits a request fits. -/
structure WithinLimits (core : PolicyCore) (request : AuthorizationRequest) (now : DateTime)
    (mandate : Mandate) : Prop where
  run : spentBy (core.runRows request) + request.maximumCost.value ≤ mandate.perRunLimit.value
  day : spentBy (core.dayRows request now) + request.maximumCost.value ≤ mandate.dailyLimit.value
  month : spentBy (core.monthRows request now) + request.maximumCost.value ≤
    mandate.monthlyLimit.value

/-- **A decision is exact** where the sums it forms can be written: nothing is raised, and
what is allowed fits the limits. -/
theorem EvaluateWritten.exact (h : EvaluateWritten core request now) :
    ∃ decision, core.evaluate request now = .ok decision ∧
      (decision.allowed = true → ∃ mandate, core.denies request now = .ok mandate ∧
        WithinLimits core request now mandate) := by
  unfold PolicyCore.evaluate
  cases hdenies : core.denies request now with
  | error code =>
    refine ⟨_, rfl, fun hallowed => ?_⟩
    exact absurd (by simpa [AuthorizationDecision.allowed] using hallowed)
      (PolicyCore.denies_ne_allowed hdenies)
  | ok mandate =>
    obtain ⟨hsnapshot, hrun⟩ := h mandate hdenies
    obtain ⟨-, -, -, hmandate, -⟩ := PolicyCore.denies_ok hdenies
    obtain ⟨s, hs, hsums⟩ := hsnapshot.exact hmandate
    dsimp only
    rw [hs]
    simp only [ok_bind, hrun.exact hsums.run]
    by_cases hrunOver : mandate.perRunLimit.value <
        spentBy (core.runRows request) + request.maximumCost.value
    · rw [if_pos (decide_eq_true hrunOver)]
      exact ⟨_, rfl, fun h => by cases h⟩
    have hday := hrun.2.2 (not_lt.1 hrunOver)
    rw [if_neg (by simpa using hrunOver), hday.exact hsums.day]
    simp only [ok_bind]
    by_cases hdayOver : mandate.dailyLimit.value <
        spentBy (core.dayRows request now) + request.maximumCost.value
    · rw [if_pos (decide_eq_true hdayOver)]
      exact ⟨_, rfl, fun h => by cases h⟩
    have hmonth := hday.2.2 (not_lt.1 hdayOver)
    rw [if_neg (by simpa using hdayOver), hmonth.exact hsums.month]
    simp only [ok_bind]
    by_cases hmonthOver : mandate.monthlyLimit.value <
        spentBy (core.monthRows request now) + request.maximumCost.value
    · rw [if_pos (decide_eq_true hmonthOver)]
      exact ⟨_, rfl, fun h => by cases h⟩
    obtain ⟨hwrun, hwday, hwmonth⟩ := hmonth.2.2 (not_lt.1 hmonthOver)
    rw [← hsums.runReserved] at hwrun
    rw [← hsums.dayReserved] at hwday
    rw [← hsums.monthReserved] at hwmonth
    obtain ⟨run, hrunSum, -⟩ := plus_exact hwrun
    obtain ⟨day, hdaySum, -⟩ := plus_exact hwday
    obtain ⟨month, hmonthSum, -⟩ := plus_exact hwmonth
    rw [if_neg (by simpa using hmonthOver), hrunSum, ok_bind, hdaySum, ok_bind, hmonthSum, ok_bind]
    exact ⟨_, rfl, fun _ => ⟨mandate, rfl,
      not_lt.1 hrunOver, not_lt.1 hdayOver, not_lt.1 hmonthOver⟩⟩

/-- A reconciliation that stands raises nothing where its sums can be written. -/
theorem SettleWritten.exact {r : Reservation} (h : SettleWritten core r.request now)
    (hmandate : core.mandate? r.request.mandateId = some mandate) (code : ReconciliationCode)
    (reconciliation : ReconciliationRequest) :
    ∃ result, core.accepted code r reconciliation now = .ok result := by
  obtain ⟨hsnapshot, hrun, hday⟩ := h mandate hmandate
  obtain ⟨s, hs, hsums⟩ := hsnapshot.exact hmandate
  rw [← hsums.run] at hrun hday
  rw [← hsums.day] at hday
  rw [← hsums.month] at hday
  obtain ⟨run, hrunSum, hrunValue⟩ := plus_exact hrun
  have hexceeded : ∃ result, PolicyCore.exceeded s = .ok result := by
    unfold PolicyCore.exceeded
    rw [hrunSum, ok_bind]
    by_cases hrunOver : s.perRunLimit.lt run = true
    · rw [if_pos hrunOver]
      exact ⟨_, rfl⟩
    rw [Decimal.lt_iff, not_lt, hrunValue, hsums.perRunLimit] at hrunOver
    obtain ⟨hday, hmonth⟩ := hday hrunOver
    obtain ⟨day, hdaySum, hdayValue⟩ := plus_exact hday
    rw [if_neg (by rwa [Decimal.lt_iff, not_lt, hrunValue, hsums.perRunLimit]), hdaySum, ok_bind]
    by_cases hdayOver : s.dailyLimit.lt day = true
    · rw [if_pos hdayOver]
      exact ⟨_, rfl⟩
    rw [Decimal.lt_iff, not_lt, hdayValue, hsums.dailyLimit] at hdayOver
    obtain ⟨month, hmonthSum, -⟩ := plus_exact (hmonth hdayOver)
    rw [if_neg (by rwa [Decimal.lt_iff, not_lt, hdayValue, hsums.dailyLimit]), hmonthSum, ok_bind]
    exact ⟨_, rfl⟩
  obtain ⟨result, hresult⟩ := hexceeded
  unfold PolicyCore.accepted
  rw [hs, ok_bind, hresult, ok_bind]
  exact ⟨_, rfl⟩

/-! ### Rows that change -/

/-- The part of a reservation in what a principal has committed. -/
def share (principalId : Str) (rows : Reservation → Bool) (r : Reservation) : ℚ :=
  if (decide (r.request.principalId = principalId) && rows r) = true then r.spent else 0

/-- What is committed adds up the share of each reservation. -/
theorem committed_eq (core : PolicyCore) (principalId : Str) (rows : Reservation → Bool) :
    core.committed principalId rows = (core.reservations.map (share principalId rows)).sum :=
  spentBy_filter_eq _ _

/-- A reservation that is appended adds its own share. -/
theorem committed_append (core : PolicyCore) (r : Reservation) (principalId : Str)
    (rows : Reservation → Bool) :
    ({ core with reservations := core.reservations ++ [r] } : PolicyCore).committed principalId
      rows = core.committed principalId rows + share principalId rows r := by
  rw [committed_eq, committed_eq, List.map_append, List.sum_append]
  simp

/-- **Settling a reservation for no more than it held** lets no amount grow. -/
theorem committed_setState_le {r : Reservation} {state : ReservationState} {id : Str}
    (hkey : Rows.Unique Reservation.id core.reservations) (hr : core.reservation? id = some r)
    (hspent : Reservation.spent { r with state := state } ≤ r.spent) (principalId : Str)
    {rows : Reservation → Bool} (hrows : rows { r with state := state } = rows r) :
    (core.setState id state).committed principalId rows ≤ core.committed principalId rows := by
  rw [committed_eq, committed_eq]
  unfold PolicyCore.setState Rows.change
  rw [List.map_map]
  refine List.sum_le_sum fun a ha => ?_
  simp only [Function.comp]
  split
  · rename_i hid
    obtain ⟨hmem, hrid⟩ := Rows.find_some hr
    obtain rfl : a = r := hkey.eq ha hmem (hid.trans hrid.symm)
    unfold share
    rw [hrows]
    split
    · exact hspent
    · exact le_rfl
  · exact le_rfl

end Access
end CouncilLogic
