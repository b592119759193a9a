/-
# What the reservation operations do

`reserve_call` either leaves the store alone or appends one row that fits the limits of
the policy it was asked under.  `reconcile_call` and `release_call` settle a row that is
reserved, and no other.  Totals follow the one row that was changed.

The operations are `reserve_call`, `reconcile_call` and `release_call` of
`src/model_council/service_store.py`.  What each of them can do is listed once (`OpEffect`), and
the invariants of the store follow from the list.
-/

import CouncilLogic.Service.Store

namespace CouncilLogic
namespace Service

variable {st st' : ServiceStore} {request : CallReservationRequest} {now : DateTime}
  {principalId id : Str}

namespace ServiceStore

/-- No reservation id occurs twice. -/
def Keyed (st : ServiceStore) : Prop := Rows.Unique Reservation.reservationId st.reservations

/-- What is found under an id is the one row with that id. -/
theorem reservation?_eq_some (h : st.Keyed) {r : Reservation} :
    st.reservation? id = some r ↔ r ∈ st.reservations ∧ r.reservationId = id :=
  Rows.find_eq_some h

/-! ### Totals -/

/-- The part of a row in a total of a principal. -/
def share (principalId : Str) (units : Reservation → ℕ) (r : Reservation) : ℕ :=
  if r.principalId = principalId then units r else 0

/-- A total adds up the share of each row. -/
theorem total_eq (st : ServiceStore) (principalId : Str) (units : Reservation → ℕ) :
    st.total principalId units = (st.reservations.map (share principalId units)).sum := by
  unfold total
  induction st.reservations with
  | nil => rfl
  | cons r rows ih =>
    rw [List.map_cons, List.sum_cons, ← ih, share]
    by_cases h : r.principalId = principalId
    · rw [List.filter_cons_of_pos (by simpa using h), if_pos h, List.map_cons, List.sum_cons]
    · rw [List.filter_cons_of_neg (by simpa using h), if_neg h, zero_add]

/-- A row that is appended adds its own share. -/
theorem total_append (st : ServiceStore) (r : Reservation) (principalId : Str)
    (units : Reservation → ℕ) :
    ({ st with reservations := st.reservations ++ [r] } : ServiceStore).total principalId units =
      st.total principalId units + share principalId units r := by
  rw [total_eq, total_eq, List.map_append, List.sum_append]
  rfl

/-- A total after one row has been settled. -/
theorem total_setState (h : st.Keyed) {r : Reservation} (hr : r ∈ st.reservations)
    (state : ReservationState) (principalId : Str) (units : Reservation → ℕ) :
    (st.setState r.reservationId state).total principalId units + share principalId units r =
      st.total principalId units + share principalId units { r with state := state } := by
  rw [total_eq, total_eq]
  exact Rows.sum_change h hr _ _

/-- A row whose units do not grow lets no total grow. -/
theorem total_setState_le (h : st.Keyed) {r : Reservation} (hr : r ∈ st.reservations)
    {state : ReservationState} {units : Reservation → ℕ}
    (hunits : r.principalId = principalId → units { r with state := state } ≤ units r) :
    (st.setState r.reservationId state).total principalId units ≤
      st.total principalId units := by
  have hsum := total_setState h hr state principalId units
  have hshare : share principalId units { r with state := state } ≤
      share principalId units r := by
    unfold share
    by_cases hp : r.principalId = principalId
    · rw [if_pos hp, if_pos hp]
      exact hunits hp
    · rw [if_neg hp, if_neg hp]
  omega

/-! ### Operations -/

/-- What `reserve_call` has found when it reserves. -/
structure Admits (st : ServiceStore) (request : CallReservationRequest) (now : DateTime)
    (policy : ServicePolicy) : Prop where
  fresh : st.reservation? request.reservationId = none
  found : st.policy? request.policyId = some policy
  owner : policy.principalId = request.principalId
  inflight : st.inflight request.principalId < policy.maxInflight
  daily : st.daily request.principalId now.budgetDay + request.units ≤ policy.dailyCallUnits
  monthly : st.monthly request.principalId now.budgetMonth + request.units ≤
    policy.monthlyCallUnits

/-- A request that is authorized is made under a registered policy of its own principal. -/
theorem authorize_ok {policy : ServicePolicy} (h : st.authorize request = .ok policy) :
    st.policy? request.policyId = some policy ∧ policy.principalId = request.principalId := by
  unfold authorize at h
  split at h
  · cases h
  · split_ifs at h
    split at h
    · cases h
    · rename_i policy' hpolicy
      split_ifs at h with hne
      cases h
      exact ⟨hpolicy, not_not.1 hne⟩

/-- A refused authorization is neither a reservation nor a replay. -/
theorem authorize_ne_reserved {code : CallReservationCode}
    (h : st.authorize request = .error code) :
    code ≠ .reserved ∧ code ≠ .replay := by
  unfold authorize at h
  split at h
  · cases h
    exact ⟨by decide, by decide⟩
  · split_ifs at h <;> try (cases h; exact ⟨by decide, by decide⟩)
    split at h
    · cases h
      exact ⟨by decide, by decide⟩
    · split_ifs at h
      cases h
      exact ⟨by decide, by decide⟩

/-- A denial is neither a reservation nor a replay. -/
theorem policyDenies_ne_reserved {policy : ServicePolicy} {code : CallReservationCode}
    (h : policyDenies policy request now = some code) : code ≠ .reserved ∧ code ≠ .replay := by
  unfold policyDenies at h
  split_ifs at h <;> cases h <;> exact ⟨by decide, by decide⟩

/-- **`reserve_call`** leaves the store alone, or appends a row that fits the limits. -/
theorem reserveCall_cases (st : ServiceStore) (request : CallReservationRequest)
    (now : DateTime) :
    ((st.reserveCall request now).2.code ≠ .reserved ∧ (st.reserveCall request now).1 = st) ∨
      (st.reserveCall request now).2.code = .reserved ∧
        (∃ policy, st.Admits request now policy) ∧
        (st.reserveCall request now).1 =
          { st with reservations := st.reservations ++ [newReservation request now] } := by
  unfold reserveCall
  cases hfresh : st.reservation? request.reservationId with
  | some existing =>
    left
    dsimp only
    split <;> exact ⟨by simp, rfl⟩
  | none =>
    dsimp only
    cases hauth : st.authorize request with
    | error code => exact .inl ⟨(authorize_ne_reserved hauth).1, rfl⟩
    | ok policy =>
      obtain ⟨hpolicy, howner⟩ := authorize_ok hauth
      dsimp only
      cases hdeny : policyDenies policy request now with
      | some code => exact .inl ⟨(policyDenies_ne_reserved hdeny).1, rfl⟩
      | none =>
        dsimp only
        split_ifs with hinflight hdaily hmonthly
        · exact .inl ⟨by simp, rfl⟩
        · exact .inl ⟨by simp, rfl⟩
        · exact .inl ⟨by simp, rfl⟩
        · refine .inr ⟨rfl, ⟨policy, ?_⟩, rfl⟩
          exact ⟨hfresh, hpolicy, howner, not_le.1 hinflight, not_lt.1 hdaily,
            not_lt.1 hmonthly⟩

/-- **A reservation is replayed** only when its id is taken. -/
theorem reserveCall_ne_replay (h : st.reservation? request.reservationId = none) :
    (st.reserveCall request now).2.code ≠ .replay := by
  unfold reserveCall
  rw [h]
  dsimp only
  cases hauth : st.authorize request with
  | error code => exact (authorize_ne_reserved hauth).2
  | ok policy =>
    dsimp only
    cases hdeny : policyDenies policy request now with
    | some code => exact (policyDenies_ne_reserved hdeny).2
    | none =>
      dsimp only
      split_ifs <;> simp

/-- **`reconcile_call`** leaves the store alone, or settles a row of the principal that is
reserved. -/
theorem reconcileCall_cases (h : st.Keyed) (reservationId principalId : Str) (actualUnits : ℕ)
    (now : DateTime) :
    ((st.reconcileCall reservationId principalId actualUnits now).1 = st ∧
        ∀ result, (st.reconcileCall reservationId principalId actualUnits now).2 = .ok result →
          result.accepted = true → ∃ r ∈ st.reservations, r.reservationId = reservationId ∧
            r.state = .reconciled actualUnits) ∨
      ∃ r ∈ st.reservations, r.reservationId = reservationId ∧ r.principalId = principalId ∧
        r.state = .reserved ∧ (st.reconcileCall reservationId principalId actualUnits now).1 =
          st.setState r.reservationId (.reconciled actualUnits) := by
  have hrefused : ∀ code (result : CallReconciliationResult),
      (Except.ok (ε := SqliteError) ⟨false, code, false, false, false⟩) = .ok result →
        result.accepted ≠ true := by
    rintro code result ⟨⟩ ⟨⟩
  unfold reconcileCall
  cases hr : st.reservation? reservationId with
  | none => exact .inl ⟨rfl, fun result hok h => absurd h (hrefused _ _ hok)⟩
  | some r =>
    obtain ⟨hmem, hid⟩ := (reservation?_eq_some h).1 hr
    dsimp only
    cases hpolicy : st.policy? r.policyId with
    | none => exact .inl ⟨rfl, fun result hok h => absurd h (hrefused _ _ hok)⟩
    | some policy =>
      dsimp only
      by_cases hp : r.principalId ≠ principalId
      · rw [if_pos hp]
        exact .inl ⟨rfl, fun result hok h => absurd h (hrefused _ _ hok)⟩
      rw [if_neg hp]
      cases hstate : r.state with
      | released => exact .inl ⟨rfl, fun result hok h => absurd h (hrefused _ _ hok)⟩
      | reconciled units =>
        dsimp only
        by_cases hunits : units ≠ actualUnits
        · rw [if_pos hunits]
          exact .inl ⟨rfl, fun result hok h => absurd h (hrefused _ _ hok)⟩
        · rw [if_neg hunits]
          refine .inl ⟨rfl, fun _ _ _ => ⟨r, hmem, hid, ?_⟩⟩
          rw [hstate, not_not.1 hunits]
      | reserved =>
        dsimp only
        by_cases hlarge : maxInteger < actualUnits
        · rw [if_pos hlarge]
          exact .inl ⟨rfl, fun result hok => by cases hok⟩
        rw [if_neg hlarge]
        -- the sums are formed over the rows that have been written
        cases haccepted : reconcileCall.accepted principalId actualUnits now
            (st.setState reservationId (.reconciled actualUnits)) policy .reconciled r with
        | error e => exact .inl ⟨rfl, fun result hok => by cases hok⟩
        | ok result =>
          refine .inr ⟨r, hmem, hid, not_not.1 hp, hstate, ?_⟩
          rw [hid]

/-- **`release_call`** settles a row of the principal that is reserved, or reports that
there is none. -/
theorem releaseCall_cases (h : st.Keyed) (reservationId principalId : Str) :
    st.releaseCall reservationId principalId = (st, false) ∨
      ∃ r ∈ st.reservations, r.reservationId = reservationId ∧ r.principalId = principalId ∧
        r.state = .reserved ∧ st.releaseCall reservationId principalId =
          (st.setState r.reservationId .released, true) := by
  unfold releaseCall
  cases hr : st.reservation? reservationId with
  | none => exact .inl rfl
  | some r =>
    obtain ⟨hmem, hid⟩ := (reservation?_eq_some h).1 hr
    dsimp only
    split_ifs with hp
    · refine .inr ⟨r, hmem, hid, hp.1, hp.2, ?_⟩
      rw [hid]
    · exact .inl rfl

/-! ### Keys -/

/-- A row with a fresh id keeps the ids distinct. -/
theorem Keyed.append (h : st.Keyed) {r : Reservation}
    (hr : st.reservation? r.reservationId = none) :
    ({ st with reservations := st.reservations ++ [r] } : ServiceStore).Keyed :=
  Rows.Unique.append h (Rows.find_eq_none.1 hr)

/-- A change of a state keeps the ids distinct. -/
theorem Keyed.setState (h : st.Keyed) (reservationId : Str) (state : ReservationState) :
    (st.setState reservationId state).Keyed :=
  Rows.Unique.change h fun _ => rfl

/-- A row after another one, or it itself, has been settled. -/
theorem mem_setState {r : Reservation} {state : ReservationState} :
    r ∈ (st.setState reservationId state).reservations ↔
      (∃ a ∈ st.reservations, a.reservationId = reservationId ∧ { a with state := state } = r) ∨
        (r ∈ st.reservations ∧ r.reservationId ≠ reservationId) :=
  Rows.mem_change

end ServiceStore

/-! ### Moves -/

/-- A call of one of the three operations. -/
inductive ServiceOp
  | reserve (request : CallReservationRequest) (now : DateTime)
  | reconcile (reservationId principalId : Str) (actualUnits : ℕ) (now : DateTime)
  | release (reservationId principalId : Str)

/-- What an operation makes of the store. -/
def ServiceOp.apply (st : ServiceStore) : ServiceOp → ServiceStore
  | .reserve request now => (st.reserveCall request now).1
  | .reconcile reservationId principalId actualUnits now =>
    (st.reconcileCall reservationId principalId actualUnits now).1
  | .release reservationId principalId => (st.releaseCall reservationId principalId).1

/-- What happens to the store, in any order: the operations, and changes of the principals,
the policies and the run bindings. -/
inductive ServiceMove (ok : ServiceStore → ServiceOp → Prop) : ServiceStore → ServiceStore → Prop
  | call (st : ServiceStore) (op : ServiceOp) (h : ok st op) : ServiceMove ok st (op.apply st)
  | tables (st : ServiceStore) (principals : List PrincipalRow) (policies : List ServicePolicy)
      (bindings : List BindingRow) :
      ServiceMove ok st ⟨principals, policies, bindings, st.reservations⟩

/-- An operation appends a row, settles a row that is reserved, or changes nothing. -/
inductive OpEffect (st : ServiceStore) : ServiceOp → ServiceStore → Prop
  | none (op : ServiceOp) : OpEffect st op st
  | reserve (request : CallReservationRequest) (now : DateTime) (policy : ServicePolicy)
      (hcode : (st.reserveCall request now).2.code = .reserved)
      (h : st.Admits request now policy) :
      OpEffect st (.reserve request now)
        { st with reservations := st.reservations ++ [ServiceStore.newReservation request now] }
  | reconcile (r : Reservation) (actualUnits : ℕ) (now : DateTime) (hr : r ∈ st.reservations)
      (hstate : r.state = .reserved) :
      OpEffect st (.reconcile r.reservationId r.principalId actualUnits now)
        (st.setState r.reservationId (.reconciled actualUnits))
  | release (r : Reservation) (hr : r ∈ st.reservations) (hstate : r.state = .reserved) :
      OpEffect st (.release r.reservationId r.principalId)
        (st.setState r.reservationId .released)

/-- **What an operation does.** -/
theorem ServiceOp.effect (h : st.Keyed) (op : ServiceOp) : OpEffect st op (op.apply st) := by
  cases op with
  | reserve request now =>
    show OpEffect st _ (st.reserveCall request now).1
    rcases st.reserveCall_cases request now with ⟨-, heq⟩ | ⟨hcode, ⟨policy, hadmits⟩, heq⟩
    · rw [heq]
      exact .none _
    · rw [heq]
      exact .reserve request now policy hcode hadmits
  | reconcile reservationId principalId actualUnits now =>
    show OpEffect st _ (st.reconcileCall reservationId principalId actualUnits now).1
    rcases ServiceStore.reconcileCall_cases h reservationId principalId actualUnits now with
      ⟨heq, -⟩ | ⟨r, hr, rfl, rfl, hstate, heq⟩
    · rw [heq]
      exact .none _
    · rw [heq]
      exact .reconcile r actualUnits now hr hstate
  | release reservationId principalId =>
    show OpEffect st _ (st.releaseCall reservationId principalId).1
    rcases ServiceStore.releaseCall_cases h reservationId principalId with
      heq | ⟨r, hr, rfl, rfl, hstate, heq⟩
    · rw [heq]
      exact .none _
    · rw [heq]
      exact .release r hr hstate

/-- The operations on reservations leave the principals and the policies as they are. -/
theorem ServiceOp.principals_eq (op : ServiceOp) :
    (op.apply st).principals = st.principals ∧ (op.apply st).policies = st.policies := by
  cases op with
  | reserve request now =>
    simp only [ServiceOp.apply]
    rcases st.reserveCall_cases request now with ⟨-, heq⟩ | ⟨-, -, heq⟩ <;> rw [heq] <;>
      exact ⟨rfl, rfl⟩
  | reconcile reservationId principalId actualUnits now =>
    simp only [ServiceOp.apply]
    unfold ServiceStore.reconcileCall
    repeat' (first | split | exact ⟨rfl, rfl⟩ | dsimp only)
  | release reservationId principalId =>
    simp only [ServiceOp.apply]
    unfold ServiceStore.releaseCall
    repeat' (first | split | exact ⟨rfl, rfl⟩)

/-- Every operation keeps the ids distinct. -/
theorem OpEffect.keyed {op : ServiceOp} (h : OpEffect st op st') (hkey : st.Keyed) : st'.Keyed := by
  cases h with
  | none => exact hkey
  | reserve request now policy hcode hadmits => exact hkey.append hadmits.fresh
  | reconcile r actualUnits now hr hstate => exact hkey.setState _ _
  | release r hr hstate => exact hkey.setState _ _

/-- Every move of the service keeps the ids distinct. -/
theorem ServiceMove.keyed {ok : ServiceStore → ServiceOp → Prop} (h : ServiceMove ok st st')
    (hkey : st.Keyed) : st'.Keyed := by
  cases h with
  | call op hop => exact (op.effect hkey).keyed hkey
  | tables => exact hkey

/-! ### The state of one reservation -/

/-- The reservation an operation is about. -/
def ServiceOp.reservationId : ServiceOp → Str
  | .reserve request _ => request.reservationId
  | .reconcile reservationId _ _ _ => reservationId
  | .release reservationId _ => reservationId

/-- The state of a reservation. -/
def ServiceStore.stateOf (st : ServiceStore) (reservationId : Str) : Option ReservationState :=
  (st.reservation? reservationId).map Reservation.state

namespace ServiceStore

/-- A new row gives its own id a state, and no other. -/
theorem stateOf_append {r : Reservation} (hfresh : st.reservation? r.reservationId = none)
    (id : Str) :
    ({ st with reservations := st.reservations ++ [r] } : ServiceStore).stateOf id =
      if r.reservationId = id then some r.state else st.stateOf id := by
  unfold stateOf reservation?
  rw [Rows.find_append (Rows.find_eq_none.1 hfresh)]
  split <;> rfl

/-- A change of a row changes the state under its own id, and no other. -/
theorem stateOf_setState (hkey : st.Keyed) {r : Reservation} (hr : r ∈ st.reservations)
    (state : ReservationState) (id : Str) :
    (st.setState r.reservationId state).stateOf id =
      if r.reservationId = id then some state else st.stateOf id := by
  have hfind : (st.setState r.reservationId state).reservation? id =
      if r.reservationId = id then some { r with state := state } else st.reservation? id :=
    Rows.find_change (f := fun a => { a with state := state }) hkey hkey hr (fun _ => rfl) id
  unfold stateOf
  rw [hfind]
  split <;> rfl

/-- The state under the id of a row is that of the row. -/
theorem stateOf_of_mem (hkey : st.Keyed) {r : Reservation} (hr : r ∈ st.reservations) :
    st.stateOf r.reservationId = some r.state := by
  unfold stateOf
  rw [(reservation?_eq_some hkey).2 ⟨hr, rfl⟩]
  rfl

/-- `reserve_call` on its own reservation. -/
theorem stateOf_reserveCall (st : ServiceStore) (request : CallReservationRequest)
    (now : DateTime) :
    (st.reserveCall request now).1.stateOf request.reservationId =
      if (st.reserveCall request now).2.code = .reserved then some .reserved
      else st.stateOf request.reservationId := by
  rcases st.reserveCall_cases request now with ⟨hcode, heq⟩ | ⟨hcode, ⟨policy, hadmits⟩, heq⟩
  · rw [heq, if_neg hcode]
  · have hfresh : st.reservation? (newReservation request now).reservationId = none :=
      hadmits.fresh
    rw [heq, if_pos hcode, stateOf_append hfresh]
    exact if_pos rfl

/-- `release_call` on its own reservation. -/
theorem stateOf_releaseCall (hkey : st.Keyed) (reservationId principalId : Str) :
    ((st.releaseCall reservationId principalId).2 = false ∧
        (st.releaseCall reservationId principalId).1 = st) ∨
      (st.releaseCall reservationId principalId).2 = true ∧
        st.stateOf reservationId = some .reserved ∧
        (st.releaseCall reservationId principalId).1.stateOf reservationId = some .released := by
  rcases releaseCall_cases hkey reservationId principalId with heq | ⟨r, hr, rfl, -, hstate, heq⟩
  · rw [heq]
    exact .inl ⟨rfl, rfl⟩
  · rw [heq, stateOf_of_mem hkey hr, hstate]
    refine .inr ⟨rfl, rfl, ?_⟩
    show (st.setState r.reservationId .released).stateOf r.reservationId = _
    rw [stateOf_setState hkey hr, if_pos rfl]

/-- `reconcile_call` on its own reservation. -/
theorem stateOf_reconcileCall (hkey : st.Keyed) (reservationId principalId : Str)
    (actualUnits : ℕ) (now : DateTime) :
    ((st.reconcileCall reservationId principalId actualUnits now).1 = st ∧
        ∀ result, (st.reconcileCall reservationId principalId actualUnits now).2 = .ok result →
          result.accepted = true → st.stateOf reservationId = some (.reconciled actualUnits)) ∨
      st.stateOf reservationId = some .reserved ∧
        (st.reconcileCall reservationId principalId actualUnits now).1.stateOf reservationId =
          some (.reconciled actualUnits) := by
  rcases reconcileCall_cases hkey reservationId principalId actualUnits now with
    ⟨heq, haccepted⟩ | ⟨r, hr, rfl, -, hstate, heq⟩
  · refine .inl ⟨heq, fun result hok h => ?_⟩
    obtain ⟨r, hr, rfl, hstate⟩ := haccepted result hok h
    rw [stateOf_of_mem hkey hr, hstate]
  · rw [heq, stateOf_of_mem hkey hr, hstate, stateOf_setState hkey hr, if_pos rfl]
    exact .inr ⟨rfl, rfl⟩

/-- What is accepted is reconciled. -/
theorem reconcileCall_accepted (hkey : st.Keyed) {reservationId : Str} {actualUnits : ℕ}
    {result : CallReconciliationResult}
    (hok : (st.reconcileCall reservationId principalId actualUnits now).2 = .ok result)
    (h : result.accepted = true) :
    (st.reconcileCall reservationId principalId actualUnits now).1.stateOf reservationId =
      some (.reconciled actualUnits) := by
  rcases stateOf_reconcileCall hkey reservationId principalId actualUnits now with
    ⟨heq, haccepted⟩ | ⟨-, hstate⟩
  · rw [heq]
    exact haccepted result hok h
  · exact hstate

end ServiceStore

/-- **An operation is about one reservation** and leaves every other as it is. -/
theorem OpEffect.stateOf_other {op : ServiceOp} (h : OpEffect st op st') (hkey : st.Keyed)
    (hne : op.reservationId ≠ id) : st'.stateOf id = st.stateOf id := by
  cases h with
  | none => rfl
  | reserve request now policy hcode hadmits =>
    rw [ServiceStore.stateOf_append (r := ServiceStore.newReservation request now) hadmits.fresh]
    exact if_neg hne
  | reconcile r actualUnits now hr hstate =>
    rw [ServiceStore.stateOf_setState hkey hr]
    exact if_neg hne
  | release r hr hstate =>
    rw [ServiceStore.stateOf_setState hkey hr]
    exact if_neg hne

/-- An operation changes the state of the reservation it names, and of no other. -/
theorem ServiceOp.stateOf_other (hkey : st.Keyed) {op : ServiceOp}
    (hne : op.reservationId ≠ id) : (op.apply st).stateOf id = st.stateOf id :=
  (op.effect hkey).stateOf_other hkey hne

end Service
end CouncilLogic
