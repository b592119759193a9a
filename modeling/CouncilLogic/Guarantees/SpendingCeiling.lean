/-
# The spending ceilings of a principal

The policy core adds amounts in a decimal context of 28 digits.  While every sum it forms can
be written there, the exact amounts a principal has committed stay within the ceilings of its
mandates, and no operation raises; a sum that is rounded lets more through than the limit,
and one beyond the exponents of the context raises.

The core is `PolicyCore` of `src/model_council/access_policy.py`, and the ceilings are the three
limits of a mandate: for a run, a day and a month.
-/

import CouncilLogic.Access.Spending
import Mathlib.Logic.Relation

namespace CouncilLogic
namespace Access

open Service (Tenant DateTime)

variable {core core' : PolicyCore} {principalId : Str}

/-! ### Conditions -/

/-- What a principal may commit in a run, on a day and in a month. -/
structure Ceilings where
  run : Decimal
  day : Decimal
  month : Decimal

/-- A mandate asks for no more than the ceilings. -/
structure Ceilings.Bounds (ceilings : Ceilings) (mandate : Mandate) : Prop where
  run : mandate.perRunLimit.value ≤ ceilings.run.value
  day : mandate.dailyLimit.value ≤ ceilings.day.value
  month : mandate.monthlyLimit.value ≤ ceilings.month.value

/-- The mandates of the principal are within the ceilings, and a reconciliation reports at most
the reserved maximum. -/
def Ceilings.Allows (ceilings : Ceilings) (principalId : Str) (core : PolicyCore) : CoreOp → Prop
  | .register mandate => mandate.principalId = principalId → ceilings.Bounds mandate
  | .reconcile request _ => ∀ r, core.reservation? request.reservationId = some r →
    request.actualCost.value ≤ r.request.maximumCost.value
  | .setEnabled .. | .revoke .. | .check .. | .authorize .. | .release .. => True

/-- What `register_mandate` asks of a mandate. -/
def Registrable (core : PolicyCore) (mandate : Mandate) : Prop :=
  ∃ subject owner, core.principal? mandate.principalId = some subject ∧
    core.principal? mandate.ownerPrincipalId = some owner ∧ owner.kind = .human ∧
      owner.tenant = mandate.tenant ∧ subject.tenant = mandate.tenant ∧
        ∀ existing, core.mandate? mandate.mandateId = some existing → existing.same mandate = true

/-- The operation is not one that is refused with an error of its own: what it names is there,
and a mandate can be registered. -/
def CoreOp.Accepted (core : PolicyCore) : CoreOp → Prop
  | .setEnabled principalId _ => core.principal? principalId ≠ none
  | .register mandate => Registrable core mandate
  | .revoke mandateId _ => core.mandate? mandateId ≠ none
  | .check .. | .authorize .. | .reconcile .. | .release .. => True

/-- Every sum that the operation forms can be written in the context. -/
def CoreOp.Written (core : PolicyCore) : CoreOp → Prop
  | .check request now => EvaluateWritten core request now
  | .authorize request now =>
    core.reservation? request.reservationId = none → EvaluateWritten core request now
  | .reconcile request now => ReconcileWritten core request now
  | .setEnabled .. | .register .. | .revoke .. | .release .. => True

/-- An operation of a run that meets the conditions. -/
structure Ceilings.Admits (ceilings : Ceilings) (principalId : Str) (core : PolicyCore)
    (op : CoreOp) : Prop where
  allows : ceilings.Allows principalId core op
  accepted : op.Accepted core
  written : op.Written core

/-- The operation raises. -/
def CoreOp.raises (core : PolicyCore) : CoreOp → Bool
  | .setEnabled principalId enabled => isError (core.setPrincipalEnabled principalId enabled).2
  | .register mandate => isError (core.registerMandate mandate).2
  | .revoke mandateId now => isError (core.revokeMandate mandateId now).2
  | .check request now => isError (core.check request now).2
  | .authorize request now => isError (core.authorizeAndReserve request now).2
  | .reconcile request now => isError (core.reconcile request now).2
  | .release reservationId principalId tenant =>
    isError (core.releaseReservation reservationId principalId tenant).2
where
  isError {α : Type} : Except CoreError α → Bool
    | .ok _ => false
    | .error _ => true

/-! ### The invariant -/

/-- The reservations of a core have ids, principals and mandates of their own. -/
structure PolicyCore.WellFormed (core : PolicyCore) : Prop where
  unique : Rows.Unique Reservation.id core.reservations
  owned : ∀ r ∈ core.reservations, ∃ principal,
    core.principal? r.request.principalId = some principal ∧ principal.tenant = r.request.tenant
  backed : ∀ r ∈ core.reservations, core.mandate? r.request.mandateId ≠ none

/-- The principal is within its ceilings, and so are its mandates. -/
structure Ceilings.Holds (ceilings : Ceilings) (principalId : Str) (core : PolicyCore) : Prop where
  bounded : ∀ id mandate, core.mandate? id = some mandate → mandate.principalId = principalId →
    ceilings.Bounds mandate
  run : ∀ runId, core.committed principalId (ofRun runId) ≤ ceilings.run.value
  day : ∀ day, core.committed principalId (ofDay day) ≤ ceilings.day.value
  month : ∀ month, core.committed principalId (ofMonth month) ≤ ceilings.month.value

/-- Settling a reservation for no more than it held keeps the invariant. -/
theorem PolicyCore.WellFormed.setState (h : core.WellFormed) (id : Str)
    (state : ReservationState) : (core.setState id state).WellFormed where
  unique := Rows.Unique.change h.unique fun _ => rfl
  owned r hr := by
    rcases Rows.mem_change.1 hr with ⟨a, ha, -, rfl⟩ | ⟨hr, -⟩
    · exact h.owned a ha
    · exact h.owned r hr
  backed r hr := by
    rcases Rows.mem_change.1 hr with ⟨a, ha, -, rfl⟩ | ⟨hr, -⟩
    · exact h.backed a ha
    · exact h.backed r hr

/-- A reservation that is settled for no more than it reserved stays below the ceilings. -/
theorem Ceilings.Holds.setState {ceilings : Ceilings} (h : ceilings.Holds principalId core)
    (hwf : core.WellFormed) {id : Str} {r : Reservation} {state : ReservationState}
    (hr : core.reservation? id = some r)
    (hspent : Reservation.spent { r with state := state } ≤ r.spent) :
    ceilings.Holds principalId (core.setState id state) where
  bounded := h.bounded
  run runId := (committed_setState_le hwf.unique hr hspent principalId rfl).trans (h.run runId)
  day day := (committed_setState_le hwf.unique hr hspent principalId rfl).trans (h.day day)
  month month := (committed_setState_le hwf.unique hr hspent principalId rfl).trans (h.month month)

/-- The row of a request that was allowed. -/
theorem PolicyCore.WellFormed.append {mandate : Mandate} {request : AuthorizationRequest}
    {now : DateTime} {decision : AuthorizationDecision} (h : core.WellFormed)
    (hfresh : core.reservation? request.reservationId = none)
    (hdenies : core.denies request now = .ok mandate) :
    ({ core with reservations := core.reservations ++ [⟨request, now, decision, .reserved⟩] } :
      PolicyCore).WellFormed where
  unique := Rows.Unique.append h.unique (Rows.find_eq_none.1 hfresh)
  owned r hr := by
    rcases List.mem_append.1 hr with hr | hr
    · exact h.owned r hr
    · obtain rfl := List.mem_singleton.1 hr
      obtain ⟨principal, hprincipal, htenant, -⟩ := PolicyCore.denies_ok hdenies
      exact ⟨principal, hprincipal, htenant⟩
  backed r hr := by
    rcases List.mem_append.1 hr with hr | hr
    · exact h.backed r hr
    · obtain rfl := List.mem_singleton.1 hr
      obtain ⟨-, -, -, hmandate, -⟩ := PolicyCore.denies_ok hdenies
      exact fun hnone => by cases hmandate.symm.trans hnone

/-- A reservation that was not denied stays below the ceilings. -/
theorem Ceilings.Holds.append {ceilings : Ceilings} {mandate : Mandate}
    {request : AuthorizationRequest} {now : DateTime} {decision : AuthorizationDecision}
    (h : ceilings.Holds principalId core) (hwf : core.WellFormed)
    (hdenies : core.denies request now = .ok mandate)
    (hwithin : WithinLimits core request now mandate) :
    ceilings.Holds principalId
      { core with reservations := core.reservations ++ [⟨request, now, decision, .reserved⟩] } := by
  obtain ⟨principal, hprincipal, htenant, hmandate, hnone⟩ := PolicyCore.denies_ok hdenies
  have hsubject : mandate.principalId = request.principalId :=
    not_not.1 (not_denied (by unfold PolicyCore.mandateDenies at hnone; exact hnone)).1
  have htenants : ∀ r ∈ core.reservations, r.request.principalId = request.principalId →
      r.request.tenant = request.tenant := by
    intro r hr hp
    obtain ⟨owner, howner, hsame⟩ := hwf.owned r hr
    rw [hp, hprincipal] at howner
    cases howner
    rw [← hsame, htenant]
  -- only the run, the day and the month of the new reservation grow
  have hgrows : ∀ (rows : Reservation → Bool) (limit ceiling : ℚ),
      core.committed principalId rows ≤ ceiling →
        (request.principalId = principalId → rows ⟨request, now, decision, .reserved⟩ = true →
          core.committed request.principalId rows + request.maximumCost.value ≤ limit ∧
            limit ≤ ceiling) →
          core.committed principalId rows + share principalId rows ⟨request, now, decision,
            .reserved⟩ ≤ ceiling := by
    intro rows limit ceiling hle hnew
    unfold share
    split
    · rename_i hrow
      simp only [Bool.and_eq_true, decide_eq_true_eq] at hrow
      obtain ⟨hlimit, hceiling⟩ := hnew hrow.1 hrow.2
      rw [hrow.1] at hlimit
      exact hlimit.trans hceiling
    · rwa [add_zero]
  have hrun := hwithin.run
  have hday := hwithin.day
  have hmonth := hwithin.month
  unfold PolicyCore.runRows at hrun
  unfold PolicyCore.dayRows at hday
  unfold PolicyCore.monthRows at hmonth
  rw [spentBy_counted _ htenants] at hrun hday hmonth
  refine ⟨h.bounded, fun runId => ?_, fun day => ?_, fun month => ?_⟩
  · rw [committed_append]
    refine hgrows _ mandate.perRunLimit.value _ (h.run runId) fun hp hrow => ⟨?_, ?_⟩
    · obtain rfl : request.runId = runId := of_decide_eq_true hrow
      exact hrun
    · exact (h.bounded _ _ hmandate (hsubject.trans hp)).run
  · rw [committed_append]
    refine hgrows _ mandate.dailyLimit.value _ (h.day day) fun hp hrow => ⟨?_, ?_⟩
    · obtain rfl : dateOf now = day := of_decide_eq_true hrow
      exact hday
    · exact (h.bounded _ _ hmandate (hsubject.trans hp)).day
  · rw [committed_append]
    refine hgrows _ mandate.monthlyLimit.value _ (h.month month) fun hp hrow => ⟨?_, ?_⟩
    · obtain rfl : monthOf now = month := of_decide_eq_true hrow
      exact hmonth
    · exact (h.bounded _ _ hmandate (hsubject.trans hp)).month

/-- A mandate that is put keeps the invariant when it is within the ceilings. -/
theorem PolicyCore.WellFormed.putMandate (h : core.WellFormed) (mandate : Mandate) :
    (core.putMandate mandate).WellFormed where
  unique := h.unique
  owned := h.owned
  backed r hr := by
    rw [PolicyCore.putMandate_mandate?]
    split
    · exact Option.some_ne_none _
    · exact h.backed r hr

/-- A mandate within the ceilings keeps them. -/
theorem Ceilings.Holds.putMandate {ceilings : Ceilings} (h : ceilings.Holds principalId core)
    {mandate : Mandate} (hbounds : mandate.principalId = principalId → ceilings.Bounds mandate) :
    ceilings.Holds principalId (core.putMandate mandate) where
  bounded id found hfound hp := by
    rw [PolicyCore.putMandate_mandate?] at hfound
    split at hfound
    · cases hfound
      exact hbounds hp
    · exact h.bounded id found hfound hp
  run := h.run
  day := h.day
  month := h.month

/-- Enabling or disabling a principal keeps the core well formed. -/
theorem PolicyCore.WellFormed.setEnabled (h : core.WellFormed) (id : Str) (enabled : Bool) :
    (core.setPrincipalEnabled id enabled).1.WellFormed := by
  unfold PolicyCore.setPrincipalEnabled
  split
  · exact h
  · refine ⟨h.unique, fun r hr => ?_, h.backed⟩
    obtain ⟨principal, hprincipal, htenant⟩ := h.owned r hr
    have hkey : ∀ p : Principal, p.principalId = id →
        ({ p with enabled := enabled } : Principal).principalId = id := fun _ h => h
    have hfind : Rows.find Principal.principalId (Rows.change Principal.principalId core.principals
        id fun p => { p with enabled := enabled }) r.request.principalId = _ :=
      Rows.find_change_key hkey r.request.principalId
    split at hfind
    · rename_i hid
      rw [show Rows.find _ core.principals id = some principal from hid ▸ hprincipal] at hfind
      exact ⟨{ principal with enabled := enabled }, hfind, htenant⟩
    · exact ⟨principal, hfind.trans hprincipal, htenant⟩

/-- **Every operation keeps a principal within its ceilings.** -/
theorem Ceilings.Holds.apply {ceilings : Ceilings} {op : CoreOp}
    (h : ceilings.Holds principalId core) (hwf : core.WellFormed)
    (hop : ceilings.Admits principalId core op) :
    (op.apply core).WellFormed ∧ ceilings.Holds principalId (op.apply core) := by
  cases op with
  | setEnabled id enabled =>
    refine ⟨hwf.setEnabled id enabled, ?_⟩
    simp only [CoreOp.apply]
    unfold PolicyCore.setPrincipalEnabled
    split
    · exact h
    · exact ⟨h.bounded, h.run, h.day, h.month⟩
  | register mandate =>
    simp only [CoreOp.apply]
    unfold PolicyCore.registerMandate
    repeat' split
    all_goals try exact ⟨hwf, h⟩
    exact ⟨hwf.putMandate mandate, h.putMandate hop.allows⟩
  | revoke mandateId now =>
    simp only [CoreOp.apply]
    unfold PolicyCore.revokeMandate
    split
    · exact ⟨hwf, h⟩
    · rename_i mandate hmandate
      split
      · exact ⟨hwf, h⟩
      · refine ⟨hwf.putMandate _, h.putMandate fun hp => ?_⟩
        obtain ⟨hrun, hday, hmonth⟩ := h.bounded _ _ hmandate hp
        exact ⟨hrun, hday, hmonth⟩
  | check request now => exact ⟨hwf, h⟩
  | authorize request now =>
    simp only [CoreOp.apply]
    unfold PolicyCore.authorizeAndReserve
    cases hfresh : core.reservation? request.reservationId with
    | some existing =>
      dsimp only
      repeat' split
      all_goals exact ⟨hwf, h⟩
    | none =>
      obtain ⟨decision, hdecision, hallowed⟩ := (hop.written hfresh).exact
      dsimp only
      rw [hdecision]
      dsimp only
      split
      · exact ⟨hwf, h⟩
      · rename_i hnot
        obtain ⟨mandate, hdenies, hwithin⟩ := hallowed (by simpa using hnot)
        exact ⟨hwf.append hfresh hdenies, h.append hwf hdenies hwithin⟩
  | reconcile request now =>
    simp only [CoreOp.apply]
    unfold PolicyCore.reconcile
    cases hr : core.reservation? request.reservationId with
    | none => exact ⟨hwf, h⟩
    | some r =>
      dsimp only
      split
      · exact ⟨hwf, h⟩
      · cases hstate : r.state with
        | released => exact ⟨hwf, h⟩
        | reconciled actualCost =>
          dsimp only
          split <;> exact ⟨hwf, h⟩
        | reserved =>
          refine ⟨hwf.setState _ _, h.setState hwf hr ?_⟩
          have hle := hop.allows r hr
          unfold Reservation.spent
          rw [hstate]
          exact hle
  | release reservationId id tenant =>
    simp only [CoreOp.apply]
    unfold PolicyCore.releaseReservation
    cases hr : core.reservation? reservationId with
    | none => exact ⟨hwf, h⟩
    | some r =>
      dsimp only
      cases hstate : r.state with
      | reconciled actualCost => exact ⟨hwf, h⟩
      | released => exact ⟨hwf, h⟩
      | reserved =>
        dsimp only
        split
        · exact ⟨hwf.setState _ _, h.setState hwf hr r.spent_nonneg⟩
        · exact ⟨hwf, h⟩

/-! ### What raises -/

/-- **An operation that is accepted and whose sums can be written raises nothing.** -/
theorem CoreOp.not_raises {op : CoreOp} (hwf : core.WellFormed) (haccepted : op.Accepted core)
    (hwritten : op.Written core) : op.raises core = false := by
  cases op with
  | setEnabled id enabled =>
    obtain ⟨principal, hprincipal⟩ := Option.ne_none_iff_exists'.1 haccepted
    simp only [raises]
    unfold PolicyCore.setPrincipalEnabled
    rw [hprincipal]
    rfl
  | register mandate =>
    obtain ⟨subject, owner, hsubject, howner, hhuman, htenant, hsubjectTenant, hsame⟩ := haccepted
    have hnone : (core.mandate? mandate.mandateId).any (fun existing => !existing.same mandate) =
        false := by
      cases hexisting : core.mandate? mandate.mandateId with
      | none => rfl
      | some existing => simp [hsame existing hexisting]
    simp only [raises]
    unfold PolicyCore.registerMandate
    simp only [hsubject, howner]
    rw [if_neg (not_not.2 hhuman), if_neg (not_not.2 htenant), if_neg (not_not.2 hsubjectTenant),
      if_neg (ne_true_of_eq_false hnone)]
    rfl
  | revoke mandateId now =>
    obtain ⟨mandate, hmandate⟩ := Option.ne_none_iff_exists'.1 haccepted
    simp only [raises]
    unfold PolicyCore.revokeMandate
    rw [hmandate]
    dsimp only
    split <;> rfl
  | check request now =>
    obtain ⟨decision, hdecision, -⟩ := EvaluateWritten.exact hwritten
    simp only [raises]
    unfold PolicyCore.check
    rw [hdecision]
    rfl
  | authorize request now =>
    simp only [raises]
    unfold PolicyCore.authorizeAndReserve
    cases hfresh : core.reservation? request.reservationId with
    | some existing =>
      dsimp only
      repeat' split
      all_goals rfl
    | none =>
      obtain ⟨decision, hdecision, -⟩ := EvaluateWritten.exact (hwritten hfresh)
      dsimp only
      rw [hdecision]
      dsimp only
      split <;> rfl
  | reconcile request now =>
    simp only [raises]
    unfold PolicyCore.reconcile
    cases hr : core.reservation? request.reservationId with
    | none => rfl
    | some r =>
      have hwritten := hwritten r hr
      obtain ⟨mandate, hmandate⟩ := Option.ne_none_iff_exists'.1
        (hwf.backed r (Rows.find_some hr).1)
      dsimp only
      split
      · rfl
      · cases hstate : r.state with
        | released => rfl
        | reconciled actualCost =>
          rw [hstate] at hwritten
          dsimp only
          split
          · rename_i hsame
            obtain ⟨result, hresult⟩ := SettleWritten.exact (hwritten hsame) hmandate .idempotent
              request
            dsimp only
            rw [hresult]
            rfl
          · rfl
        | reserved =>
          rw [hstate] at hwritten
          obtain ⟨result, hresult⟩ := SettleWritten.exact hwritten hmandate .reconciled request
          dsimp only
          rw [hresult]
          rfl
  | release reservationId id tenant =>
    simp only [raises]
    unfold PolicyCore.releaseReservation
    repeat' split
    all_goals rfl

/-- **The spending ceilings.**  In every state that operations can lead to whose sums can all be
written, what a principal has committed is within the ceilings of its mandates, exactly, in
every run, on every day and in every month; and no such operation raises. -/
theorem spending_ceiling (ceilings : Ceilings) (principalId : Str) {principals : List Principal}
    (h : Relation.ReflTransGen (CoreMove (ceilings.Admits principalId)) ⟨principals, [], []⟩
      core) :
    (∀ runId, core.committed principalId (ofRun runId) ≤ ceilings.run.value) ∧
      (∀ day, core.committed principalId (ofDay day) ≤ ceilings.day.value) ∧
      (∀ month, core.committed principalId (ofMonth month) ≤ ceilings.month.value) ∧
      ∀ op : CoreOp, op.Accepted core → op.Written core → op.raises core = false := by
  have hinv : core.WellFormed ∧ ceilings.Holds principalId core := by
    induction h with
    | refl =>
      refine ⟨⟨List.nodup_nil, fun r hr => absurd hr List.not_mem_nil,
        fun r hr => absurd hr List.not_mem_nil⟩, fun id mandate h => (by cases h), fun _ => ?_,
        fun _ => ?_, fun _ => ?_⟩
      · exact ceilings.run.value_nonneg
      · exact ceilings.day.value_nonneg
      · exact ceilings.month.value_nonneg
    | tail _ hlast ih =>
      obtain ⟨op, hop⟩ := hlast
      exact ih.2.apply ih.1 hop
  exact ⟨hinv.2.run, hinv.2.day, hinv.2.month, fun op => CoreOp.not_raises hinv.1⟩

/-! ### Small whole amounts

The arithmetic of the context is exact as long as the amounts are whole numbers of a modest
size: every sum that is formed of them has far fewer than 28 digits. -/

/-- A whole number of at most a thousand. -/
def Small (a : Decimal) : Prop := ∃ k : ℕ, k ≤ 1000 ∧ a.value = k

/-- At most a thousand reservations, of small amounts. -/
structure PolicyCore.Small (core : PolicyCore) : Prop where
  amounts : ∀ r ∈ core.reservations, Access.Small r.actual ∧ Access.Small r.reserved
  few : core.reservations.length ≤ 1000

/-- A whole number with at most 28 digits can be written. -/
theorem writes_natCast {n : ℕ} (h : n < 10 ^ 28) : context.Writes n :=
  ⟨⟨n, 0⟩, by simp [Decimal.value], h, show context.etiny ≤ 0 by decide,
    show 0 ≤ context.etop by decide⟩

/-- The sum of small amounts is a small number. -/
theorem sum_small {l : List Decimal} (h : ∀ a ∈ l, Small a) :
    ∃ n : ℕ, n ≤ 1000 * l.length ∧ (l.map Decimal.value).sum = n := by
  induction l with
  | nil => exact ⟨0, Nat.zero_le _, by simp⟩
  | cons a l ih =>
    obtain ⟨k, hk, hvalue⟩ := h a List.mem_cons_self
    obtain ⟨n, hn, hsum⟩ := ih fun b hb => h b (List.mem_cons_of_mem _ hb)
    refine ⟨k + n, ?_, ?_⟩
    · rw [List.length_cons]
      omega
    · rw [List.map_cons, List.sum_cons, hvalue, hsum]
      push_cast
      rfl

/-- The partial sums of small amounts can be written. -/
theorem writesSums_small {l : List Decimal} : ∀ {n : ℕ}, n + 1000 * l.length < 10 ^ 28 →
    (∀ a ∈ l, Small a) → context.WritesSums n l := by
  induction l with
  | nil => exact fun _ _ => trivial
  | cons a l ih =>
    intro n hn h
    obtain ⟨k, hk, hvalue⟩ := h a List.mem_cons_self
    rw [List.length_cons] at hn
    have hnext : (n : ℚ) + a.value = ((n + k : ℕ) : ℚ) := by
      rw [hvalue]
      push_cast
      rfl
    unfold Decimal.Context.WritesSums
    rw [hnext]
    exact ⟨writes_natCast (by omega),
      ih (by omega) fun b hb => h b (List.mem_cons_of_mem _ hb)⟩

section SmallRows
variable {rows : List Reservation} (hrows : ∀ r ∈ rows, Small r.actual ∧ Small r.reserved)
  (hfew : rows.length ≤ 1000)
include hrows hfew

/-- The sums of small amounts can be written. -/
theorem sumsWritten_small : SumsWritten rows := by
  have hsum : ∀ f : Reservation → Decimal, (∀ r ∈ rows, Small (f r)) →
      context.WritesSums 0 (rows.map f) := by
    intro f hf
    have hlength : 0 + 1000 * (rows.map f).length < 10 ^ 28 := by
      rw [List.length_map]
      omega
    exact_mod_cast writesSums_small hlength fun a ha => by
      obtain ⟨r, hr, rfl⟩ := List.mem_map.1 ha
      exact hf r hr
  exact ⟨hsum _ fun r hr => (hrows r hr).1, hsum _ fun r hr => (hrows r hr).2⟩

/-- What small reservations commit and reserve are small sums. -/
theorem small_totals : ∃ spent reserved : ℕ, spentBy rows = spent ∧ spent ≤ 2000000 ∧
    reservedBy rows = reserved ∧ reserved ≤ 1000000 := by
  obtain ⟨actual, hactual, hsum⟩ := sum_small (l := rows.map Reservation.actual) fun a ha => by
    obtain ⟨r, hr, rfl⟩ := List.mem_map.1 ha
    exact (hrows r hr).1
  obtain ⟨reserved, hreserved, hsum'⟩ := sum_small (l := rows.map Reservation.reserved)
    fun a ha => by
      obtain ⟨r, hr, rfl⟩ := List.mem_map.1 ha
      exact (hrows r hr).2
  rw [List.length_map] at hactual hreserved
  rw [List.map_map] at hsum hsum'
  have hboth : reservedBy rows = reserved := hsum'
  refine ⟨actual + reserved, reserved, ?_, by omega, hboth, by omega⟩
  rw [spentBy_eq, hboth]
  push_cast
  exact congrArg (· + (reserved : ℚ)) hsum

/-- A cost that is added to small amounts can be written. -/
theorem fitsWritten_small {cost limit : Decimal} {rest : Prop} (hcost : Small cost)
    (hrest : rest) : FitsWritten rows cost limit rest := by
  obtain ⟨spent, reserved, hspent, hle, -, -⟩ := small_totals hrows hfew
  obtain ⟨k, hk, hvalue⟩ := hcost
  unfold FitsWritten
  rw [hspent, hvalue]
  exact ⟨writes_natCast (by omega), by exact_mod_cast writes_natCast (n := spent + k) (by omega),
    fun _ => hrest⟩

end SmallRows

/-- The reservations of a small core are small, and so are any of them. -/
theorem PolicyCore.Small.rows (h : core.Small) {rows : List Reservation}
    (hsub : rows.Sublist core.reservations) :
    (∀ r ∈ rows, Access.Small r.actual ∧ Access.Small r.reserved) ∧ rows.length ≤ 1000 :=
  ⟨fun r hr => h.amounts r (hsub.subset hr), hsub.length_le.trans h.few⟩

/-- **Small amounts are added up exactly**: every sum of a decision can be written. -/
theorem PolicyCore.Small.evaluateWritten (h : core.Small) {request : AuthorizationRequest}
    (hcost : Access.Small request.maximumCost) (now : DateTime) :
    EvaluateWritten core request now := by
  have hcounted : (core.counted request).Sublist core.reservations := List.filter_sublist
  obtain ⟨hrun, hrun'⟩ := h.rows ((List.filter_sublist (p := _)).trans hcounted :
    (core.runRows request).Sublist _)
  obtain ⟨hday, hday'⟩ := h.rows ((List.filter_sublist (p := _)).trans hcounted :
    (core.dayRows request now).Sublist _)
  obtain ⟨hmonth, hmonth'⟩ := h.rows ((List.filter_sublist (p := _)).trans hcounted :
    (core.monthRows request now).Sublist _)
  have hreserved : ∀ {rows : List Reservation},
      (∀ r ∈ rows, Access.Small r.actual ∧ Access.Small r.reserved) → rows.length ≤ 1000 →
        context.Writes (reservedBy rows + request.maximumCost.value) := by
    intro rows hrows hfew
    obtain ⟨-, reserved, -, -, heq, hle⟩ := small_totals hrows hfew
    obtain ⟨k, hk, hvalue⟩ := hcost
    rw [heq, hvalue]
    exact_mod_cast writes_natCast (n := reserved + k) (by omega)
  intro mandate _
  exact ⟨⟨sumsWritten_small hrun hrun', sumsWritten_small hday hday',
    sumsWritten_small hmonth hmonth'⟩, fitsWritten_small hrun hrun' hcost
      (fitsWritten_small hday hday' hcost (fitsWritten_small hmonth hmonth' hcost
        ⟨hreserved hrun hrun', hreserved hday hday', hreserved hmonth hmonth'⟩))⟩

/-- What a small core compares when it settles can be written. -/
theorem PolicyCore.Small.settleWritten (h : core.Small) (request : AuthorizationRequest)
    (now : DateTime) : SettleWritten core request now := by
  have hcounted : (core.counted request).Sublist core.reservations := List.filter_sublist
  obtain ⟨hrun, hrun'⟩ := h.rows ((List.filter_sublist (p := _)).trans hcounted :
    (core.runRows request).Sublist _)
  obtain ⟨hday, hday'⟩ := h.rows ((List.filter_sublist (p := _)).trans hcounted :
    (core.dayRows request now).Sublist _)
  obtain ⟨hmonth, hmonth'⟩ := h.rows ((List.filter_sublist (p := _)).trans hcounted :
    (core.monthRows request now).Sublist _)
  have hspent : ∀ {rows : List Reservation},
      (∀ r ∈ rows, Access.Small r.actual ∧ Access.Small r.reserved) → rows.length ≤ 1000 →
        context.Writes (spentBy rows) := by
    intro rows hrows hfew
    obtain ⟨spent, -, heq, hle, -, -⟩ := small_totals hrows hfew
    rw [heq]
    exact writes_natCast (by omega)
  intro mandate _
  exact ⟨⟨sumsWritten_small hrun hrun', sumsWritten_small hday hday',
    sumsWritten_small hmonth hmonth'⟩, hspent hrun hrun', fun _ => ⟨hspent hday hday',
      fun _ => hspent hmonth hmonth'⟩⟩

/-- A mandate with one limit. -/
def limitedTo (limit : Decimal) : Mandate where
  mandateId := lit "mandate"
  ownerPrincipalId := lit "human"
  principalId := lit "agent"
  tenant := .personal
  allowedActions := [lit "run:create"]
  allowedProviders := []
  allowedModels := []
  perRunLimit := limit
  dailyLimit := limit
  monthlyLimit := limit
  issuedAt := ⟨2020, 1, 1, 0⟩
  expiresAt := ⟨2100, 1, 1, 0⟩
  period := by decide

/-- A request of an amount under it. -/
def costing (cost : Decimal) (reservationId : String) : AuthorizationRequest where
  principalId := lit "agent"
  tenant := .personal
  mandateId := lit "mandate"
  action := lit "run:create"
  runId := lit "run"
  reservationId := lit reservationId
  maximumCost := cost

def examplePrincipals : List Principal :=
  [⟨lit "agent", .personal, .agent, true⟩, ⟨lit "human", .personal, .human, true⟩]

/-- A core in which two amounts were asked for under a mandate. -/
def askedTwice (limit a b : Decimal) : PolicyCore :=
  CoreOp.apply
    (CoreOp.apply (CoreOp.apply ⟨examplePrincipals, [], []⟩ (.register (limitedTo limit)))
      (.authorize (costing a "first") ⟨2026, 7, 1, 0⟩))
    (.authorize (costing b "second") ⟨2026, 7, 1, 0⟩)

/-- Ceilings that are one limit. -/
def Ceilings.of (limit : Decimal) : Ceilings := ⟨limit, limit, limit⟩

/-- The core in which one call has been asked for is reached. -/
theorem askedOnce_reached (limit a : Decimal) :
    Relation.ReflTransGen (CoreMove ((Ceilings.of limit).Allows (lit "agent")))
      ⟨examplePrincipals, [], []⟩
      (CoreOp.apply (CoreOp.apply ⟨examplePrincipals, [], []⟩ (.register (limitedTo limit)))
        (.authorize (costing a "first") ⟨2026, 7, 1, 0⟩)) :=
  .tail (.single (.call _ (.register (limitedTo limit)) fun _ => ⟨le_rfl, le_rfl, le_rfl⟩))
    (.call _ (.authorize (costing a "first") ⟨2026, 7, 1, 0⟩) trivial)

/-- A reconciliation of the first of the two. -/
def costingOne : ReconciliationRequest where
  reservationId := lit "first"
  principalId := lit "agent"
  tenant := .personal
  actualCost := ⟨1, 0⟩

/-- A core with a limit of ten in which two were asked for and one was spent. -/
def spentOne : PolicyCore :=
  CoreOp.apply
    (CoreOp.apply (CoreOp.apply ⟨examplePrincipals, [], []⟩ (.register (limitedTo ⟨10, 0⟩)))
      (.authorize (costing ⟨2, 0⟩ "first") ⟨2026, 7, 1, 0⟩))
    (.reconcile costingOne ⟨2026, 7, 2, 0⟩)

/-- A number up to a thousand is small. -/
theorem small_natCast {n : ℕ} (h : n ≤ 1000) : Small ⟨n, 0⟩ := ⟨n, h, by simp [Decimal.value]⟩

/-- Two is reserved, one of it is spent, and three more are reserved: the run, the day and the
month have committed four of ten, and the next request does not raise either. -/
theorem spending_ceiling_example : ∃ core,
    core = CoreOp.apply spentOne (.authorize (costing ⟨3, 0⟩ "second") ⟨2026, 7, 2, 0⟩) ∧
      core.committed (lit "agent") (ofRun (lit "run")) = 4 ∧
      core.committed (lit "agent") (ofRun (lit "run")) ≤ (Ceilings.of ⟨10, 0⟩).run.value ∧
      core.committed (lit "agent") (ofMonth (2026, 7)) ≤ (Ceilings.of ⟨10, 0⟩).month.value ∧
      CoreOp.raises core (.authorize (costing ⟨9, 0⟩ "third") ⟨2026, 7, 2, 0⟩) = false := by
  let ceilings := Ceilings.of ⟨10, 0⟩
  let ok := ceilings.Admits (lit "agent")
  let registered := CoreOp.apply ⟨examplePrincipals, [], []⟩ (.register (limitedTo ⟨10, 0⟩))
  let asked := CoreOp.apply registered (.authorize (costing ⟨2, 0⟩ "first") ⟨2026, 7, 1, 0⟩)
  let core := CoreOp.apply spentOne (.authorize (costing ⟨3, 0⟩ "second") ⟨2026, 7, 2, 0⟩)
  have hzero : Small .zero := ⟨0, Nat.zero_le _, by simp⟩
  obtain ⟨first, hasked⟩ : ∃ first, asked.reservations =
      [⟨costing ⟨2, 0⟩ "first", ⟨2026, 7, 1, 0⟩, first, .reserved⟩] := ⟨_, rfl⟩
  obtain ⟨decision, hspent⟩ : ∃ decision, spentOne.reservations =
      [⟨costing ⟨2, 0⟩ "first", ⟨2026, 7, 1, 0⟩, decision, .reconciled ⟨1, 0⟩⟩] := ⟨_, rfl⟩
  obtain ⟨second, hcore⟩ : ∃ second, core.reservations = spentOne.reservations ++
      [⟨costing ⟨3, 0⟩ "second", ⟨2026, 7, 2, 0⟩, second, .reserved⟩] := ⟨_, rfl⟩
  have hregistered : registered.Small := ⟨fun r hr => absurd hr List.not_mem_nil, Nat.zero_le _⟩
  have hspentSmall : spentOne.Small := by
    refine ⟨fun r hr => ?_, by rw [hspent]; exact Nat.le_add_left 1 999⟩
    rw [hspent] at hr
    obtain rfl := List.mem_singleton.1 hr
    exact ⟨small_natCast (n := 1) (by decide), hzero⟩
  have hcoreSmall : core.Small := by
    refine ⟨fun r hr => ?_, by rw [hcore, hspent]; exact Nat.le_add_left 2 998⟩
    rw [hcore] at hr
    rcases List.mem_append.1 hr with hr | hr
    · exact hspentSmall.amounts r hr
    · obtain rfl := List.mem_singleton.1 hr
      exact ⟨hzero, small_natCast (n := 3) (by decide)⟩
  have hrun : Relation.ReflTransGen (CoreMove ok) ⟨examplePrincipals, [], []⟩ core := by
    refine .tail (.tail (.tail (.single (.call _ (.register (limitedTo ⟨10, 0⟩)) ?_))
      (.call _ (.authorize (costing ⟨2, 0⟩ "first") ⟨2026, 7, 1, 0⟩) ?_))
      (.call _ (.reconcile costingOne ⟨2026, 7, 2, 0⟩) ?_))
      (.call _ (.authorize (costing ⟨3, 0⟩ "second") ⟨2026, 7, 2, 0⟩) ?_)
    · exact ⟨fun _ => ⟨le_rfl, le_rfl, le_rfl⟩, ⟨_, _, rfl, rfl, rfl, rfl, rfl,
        fun existing h => by cases h⟩, trivial⟩
    · exact ⟨trivial, trivial,
        fun _ => hregistered.evaluateWritten (small_natCast (n := 2) (by decide)) _⟩
    · refine ⟨fun r hr => ?_, trivial, fun r hr => ?_⟩
      · have hfirst := (Rows.find_some hr).1
        rw [hasked] at hfirst
        obtain rfl := List.mem_singleton.1 hfirst
        norm_num [costingOne, costing, Decimal.value]
      · have hfirst := (Rows.find_some hr).1
        rw [hasked] at hfirst
        obtain rfl := List.mem_singleton.1 hfirst
        exact hspentSmall.settleWritten _ _
    · exact ⟨trivial, trivial,
        fun _ => hspentSmall.evaluateWritten (small_natCast (n := 3) (by decide)) _⟩
  have hall := spending_ceiling ceilings (lit "agent") hrun
  have hfour : core.committed (lit "agent") (ofRun (lit "run")) = 4 := by
    unfold PolicyCore.committed PolicyCore.rowsOf
    rw [hcore, hspent]
    show spentBy [_, _] = 4
    norm_num [spentBy, Reservation.spent, costing, Decimal.value]
  exact ⟨core, rfl, hfour, hall.1 _, hall.2.2.1 _, hall.2.2.2 _ trivial
    fun _ => hcoreSmall.evaluateWritten (small_natCast (n := 9) (by decide)) _⟩

/-- With a limit of 1, the amounts 1 and 1E-30 are both reserved. -/
theorem ceiling_rounded_away :
    ¬ ∀ core, Relation.ReflTransGen (CoreMove ((Ceilings.of ⟨1, 0⟩).Allows (lit "agent")))
      ⟨examplePrincipals, [], []⟩ core →
        core.committed (lit "agent") (ofRun (lit "run")) ≤ (Ceilings.of ⟨1, 0⟩).run.value := by
  intro hall
  have hle := hall (askedTwice ⟨1, 0⟩ ⟨1, 0⟩ ⟨1, -30⟩) (.tail (askedOnce_reached _ _)
    (.call _ (.authorize (costing ⟨1, -30⟩ "second") ⟨2026, 7, 1, 0⟩) trivial))
  obtain ⟨first, second, hrows⟩ : ∃ first second,
      (askedTwice ⟨1, 0⟩ ⟨1, 0⟩ ⟨1, -30⟩).rowsOf (lit "agent") (ofRun (lit "run")) =
        [⟨costing ⟨1, 0⟩ "first", ⟨2026, 7, 1, 0⟩, first, .reserved⟩,
          ⟨costing ⟨1, -30⟩ "second", ⟨2026, 7, 1, 0⟩, second, .reserved⟩] :=
    ⟨_, _, rfl⟩
  unfold PolicyCore.committed at hle
  rw [hrows] at hle
  norm_num [spentBy, Reservation.spent, costing, Decimal.value, Ceilings.of] at hle

end Access
end CouncilLogic
