/-
# The policies of the service

`put_policy`, `authorize_action` and `revoke_policy`.  A policy is registered once: what is
put again under its id has to agree with it, apart from the revocation, and leaves the row
alone.  `revoke_policy` writes a timestamp where there is none.

The methods are those of `ServiceStore` in `src/model_council/service_store.py`.  A policy belongs
to one principal for good, which is the invariant `PoliciesOwned`.
-/

import CouncilLogic.Access.Core
import CouncilLogic.Service.Laws
import Mathlib.Logic.Relation

namespace CouncilLogic
namespace Service

/-- `replace(a, revoked_at=None) == replace(b, revoked_at=None)`. -/
def ServicePolicy.same (a b : ServicePolicy) : Bool :=
  decide (a.policyId = b.policyId) && decide (a.principalId = b.principalId) &&
    decide (a.tenant = b.tenant) && Access.sameSet a.allowedActions b.allowedActions &&
    Access.sameSet a.allowedProviders b.allowedProviders &&
    Access.sameSet a.allowedModels b.allowedModels && decide (a.maxInflight = b.maxInflight) &&
    decide (a.dailyCallUnits = b.dailyCallUnits) &&
    decide (a.monthlyCallUnits = b.monthlyCallUnits) && decide (a.issuedAt = b.issuedAt) &&
    decide (a.expiresAt = b.expiresAt)

/-- `ActionAuthorizationResult`, without the fields it repeats from the arguments. -/
structure ActionAuthorizationResult where
  allowed : Bool
  code : CallReservationCode
  deriving DecidableEq

namespace ServiceStore

variable {st : ServiceStore}

/-- The principal with an id. -/
def principal? (st : ServiceStore) (principalId : Str) : Option PrincipalRow :=
  Rows.find PrincipalRow.principalId st.principals principalId

/-- `put_policy`; a `ValueError` rolls back. -/
def putPolicy (st : ServiceStore) (policy : ServicePolicy) :
    ServiceStore × Except Str ServicePolicy :=
  match st.principal? policy.principalId with
  | none => (st, .error (lit "policy principal is not configured"))
  | some principal =>
    if principal.tenant ≠ policy.tenant then
      (st, .error (lit "policy tenant does not match principal"))
    else
      match st.policy? policy.policyId with
      | some existing =>
        if existing.same policy then (st, .ok existing)
        else (st, .error (lit "policy_id is already registered"))
      | none => ({ st with policies := st.policies ++ [policy] }, .ok policy)

/-- What a policy says about an action. -/
def actionDenies (policy : ServicePolicy) (tenant : Tenant) (action : Str) (now : DateTime) :
    CallReservationCode :=
  if policy.tenant ≠ tenant then .tenantMismatch
  else if policy.revokedAt.any fun revoked => !now.before revoked then .policyRevoked
  else if now.before policy.issuedAt then .policyNotActive
  else if !now.before policy.expiresAt then .policyExpired
  else if action ∉ policy.allowedActions then .actionDenied
  else .reserved

/-- The code of `authorize_action`. -/
def actionCode (st : ServiceStore) (policyId principalId : Str) (tenant : Tenant) (action : Str)
    (now : DateTime) : CallReservationCode :=
  match st.principal? principalId with
  | none => .unknownPrincipal
  | some principal =>
    if principal.enabled = false then .principalDisabled
    else if principal.tenant ≠ tenant then .tenantMismatch
    else
      match st.policy? policyId with
      | none => .unknownPolicy
      | some policy =>
        if policy.principalId ≠ principalId then .unknownPolicy
        else actionDenies policy tenant action now

/-- `authorize_action`, which changes nothing. -/
def authorizeAction (st : ServiceStore) (policyId principalId : Str) (tenant : Tenant)
    (action : Str) (now : DateTime) : ActionAuthorizationResult :=
  let code := st.actionCode policyId principalId tenant action now
  ⟨decide (code = .reserved), code⟩

/-- `COALESCE(revoked_at, now)`. -/
def revoked (policy : ServicePolicy) (now : DateTime) : ServicePolicy :=
  { policy with revokedAt := some (policy.revokedAt.getD now) }

/-- `revoke_policy`; it raises a `KeyError` where there is no policy. -/
def revokePolicy (st : ServiceStore) (policyId : Str) (now : DateTime) :
    ServiceStore × Option ServicePolicy :=
  match st.policy? policyId with
  | none => (st, none)
  | some policy =>
    ({ st with
        policies := Rows.change ServicePolicy.policyId st.policies policyId fun p =>
          revoked p now }, some (revoked policy now))

/-- `set_principal_enabled`; it raises a `KeyError` where there is no principal. -/
def setPrincipalEnabled (st : ServiceStore) (principalId : Str) (enabled : Bool) :
    ServiceStore where
  principals := Rows.change PrincipalRow.principalId st.principals principalId fun p =>
    { p with enabled := enabled }
  policies := st.policies
  bindings := st.bindings
  reservations := st.reservations

end ServiceStore

/-- What happens to the service store, in any order.  `put_principals` adds principals with
new ids; the bindings of runs are what `bind_run` and `abandon_run_binding` make of them. -/
inductive StoreMove : ServiceStore → ServiceStore → Prop
  | call (st : ServiceStore) (op : ServiceOp) : StoreMove st (op.apply st)
  | putPolicy (st : ServiceStore) (policy : ServicePolicy) : StoreMove st (st.putPolicy policy).1
  | revokePolicy (st : ServiceStore) (policyId : Str) (now : DateTime) :
      StoreMove st (st.revokePolicy policyId now).1
  | setEnabled (st : ServiceStore) (principalId : Str) (enabled : Bool) :
      StoreMove st (st.setPrincipalEnabled principalId enabled)
  | putPrincipal (st : ServiceStore) (principal : PrincipalRow)
      (hnew : st.principal? principal.principalId = none) :
      StoreMove st { st with principals := st.principals ++ [principal] }
  | bindings (st : ServiceStore) (bindings : List BindingRow) :
      StoreMove st { st with bindings := bindings }

/-! ### Policies over runs -/

variable {st st' : ServiceStore} {policyId : Str} {policy : ServicePolicy}

/-- Reservations keep their ids apart. -/
theorem StoreMove.keyed {st st' : ServiceStore} (h : StoreMove st st') (hkey : st.Keyed) :
    st'.Keyed := by
  cases h with
  | call op => exact (op.effect hkey).keyed hkey
  | putPolicy policy =>
    unfold ServiceStore.putPolicy
    repeat' (first | split | exact hkey)
  | revokePolicy policyId now =>
    unfold ServiceStore.revokePolicy
    repeat' (first | split | exact hkey)
  | setEnabled principalId enabled => exact hkey
  | putPrincipal principal hnew => exact hkey
  | bindings bindings => exact hkey

/-- What `revoke_policy` leaves under an id. -/
theorem revokePolicy_policy? (now : DateTime) (id : Str) :
    (st.revokePolicy policyId now).1.policy? id =
      if id = policyId then (st.policy? id).map fun p => ServiceStore.revoked p now
      else st.policy? id := by
  unfold ServiceStore.revokePolicy
  cases hpolicy : st.policy? policyId with
  | none =>
    dsimp only
    split
    · rename_i hid
      rw [hid, hpolicy]
      rfl
    · rfl
  | some p =>
    show Rows.find ServicePolicy.policyId (Rows.change _ st.policies policyId _) id = _
    have hkey : ∀ p, p.policyId = policyId → (ServiceStore.revoked p now).policyId = policyId :=
      fun _ h => h
    rw [Rows.find_change_key hkey]
    split
    · rename_i hid
      rw [hid]
      rfl
    · rfl

/-- Enabling or disabling a principal changes that one row. -/
theorem setPrincipalEnabled_principal? (principalId : Str) (enabled : Bool) (id : Str) :
    (st.setPrincipalEnabled principalId enabled).principal? id =
      if id = principalId then (st.principal? id).map fun p => { p with enabled := enabled }
      else st.principal? id := by
  have hkey : ∀ p : PrincipalRow, p.principalId = principalId →
      ({ p with enabled := enabled } : PrincipalRow).principalId = principalId := fun _ h => h
  show Rows.find PrincipalRow.principalId (Rows.change _ st.principals principalId _) id = _
  rw [Rows.find_change_key hkey]
  split
  · rename_i hid
    rw [hid]
    rfl
  · rfl

/-- `put_policy` leaves a registered policy alone. -/
theorem putPolicy_policy? (new : ServicePolicy) (h : st.policy? policyId = some policy) :
    (st.putPolicy new).1.policy? policyId = some policy := by
  unfold ServiceStore.putPolicy
  split
  · exact h
  · split
    · exact h
    · split
      · split <;> exact h
      · rename_i hnone
        show Rows.find ServicePolicy.policyId (st.policies ++ [new]) policyId = _
        rw [Rows.find_append (Rows.find_eq_none.1 hnone), if_neg]
        · exact h
        · rintro rfl
          rw [h] at hnone
          cases hnone

/-- **A revoked policy stays as it is.** -/
theorem StoreMove.policy? (h : StoreMove st st') (hpolicy : st.policy? policyId = some policy)
    (hrevoked : policy.revokedAt ≠ none) : st'.policy? policyId = some policy := by
  cases h with
  | call op =>
    unfold ServiceStore.policy?
    rw [op.principals_eq.2]
    exact hpolicy
  | putPolicy new => exact putPolicy_policy? new hpolicy
  | revokePolicy id now =>
    rw [revokePolicy_policy?, hpolicy]
    split
    · obtain ⟨t, ht⟩ := Option.ne_none_iff_exists'.1 hrevoked
      rw [Option.map_some, ServiceStore.revoked, ht, Option.getD_some, ← ht]
    · rfl
  | setEnabled => exact hpolicy
  | putPrincipal => exact hpolicy
  | bindings => exact hpolicy

/-- Every policy belongs to a principal of its tenant. -/
def ServiceStore.PoliciesOwned (st : ServiceStore) : Prop :=
  ∀ policyId policy, st.policy? policyId = some policy → ∃ principal,
    st.principal? policy.principalId = some principal ∧ principal.tenant = policy.tenant

/-- Every move of the store keeps the owners of the policies. -/
theorem StoreMove.policiesOwned (h : StoreMove st st') (hst : st.PoliciesOwned) :
    st'.PoliciesOwned := by
  intro policyId policy hpolicy
  cases h with
  | call op =>
    unfold ServiceStore.policy? at hpolicy
    rw [op.principals_eq.2] at hpolicy
    unfold ServiceStore.principal?
    rw [op.principals_eq.1]
    exact hst policyId policy hpolicy
  | putPolicy new =>
    unfold ServiceStore.putPolicy at hpolicy ⊢
    cases hprincipal : st.principal? new.principalId with
    | none =>
      rw [hprincipal] at hpolicy
      exact hst policyId policy hpolicy
    | some principal =>
      rw [hprincipal] at hpolicy
      dsimp only at hpolicy ⊢
      split_ifs at hpolicy ⊢ with htenant
      · exact hst policyId policy hpolicy
      · cases hexisting : st.policy? new.policyId with
        | some existing =>
          rw [hexisting] at hpolicy
          dsimp only at hpolicy ⊢
          split_ifs at hpolicy ⊢ <;> exact hst policyId policy hpolicy
        | none =>
          rw [hexisting] at hpolicy
          dsimp only at hpolicy ⊢
          rw [ServiceStore.policy?, Rows.find_append (Rows.find_eq_none.1 hexisting)] at hpolicy
          split_ifs at hpolicy with hid
          · cases hpolicy
            exact ⟨principal, hprincipal, not_not.1 htenant⟩
          · exact hst policyId policy hpolicy
  | revokePolicy id now =>
    have hprincipals : (st.revokePolicy id now).1.principals = st.principals := by
      unfold ServiceStore.revokePolicy
      split <;> rfl
    unfold ServiceStore.principal?
    rw [hprincipals]
    rw [revokePolicy_policy?] at hpolicy
    split_ifs at hpolicy with hid
    · obtain ⟨old, hold, rfl⟩ := Option.map_eq_some_iff.1 hpolicy
      exact hst policyId old hold
    · exact hst policyId policy hpolicy
  | setEnabled id enabled =>
    obtain ⟨principal, hprincipal, htenant⟩ := hst policyId policy hpolicy
    rw [setPrincipalEnabled_principal?]
    split
    · exact ⟨{ principal with enabled := enabled }, by rw [hprincipal]; rfl, htenant⟩
    · exact ⟨principal, hprincipal, htenant⟩
  | putPrincipal new hnew =>
    obtain ⟨principal, hprincipal, htenant⟩ := hst policyId policy hpolicy
    refine ⟨principal, ?_, htenant⟩
    show Rows.find PrincipalRow.principalId (st.principals ++ [new]) policy.principalId = _
    rw [Rows.find_append (Rows.find_eq_none.1 hnew), if_neg]
    · exact hprincipal
    · intro hid
      rw [hid, hprincipal] at hnew
      cases hnew
  | bindings => exact hst policyId policy hpolicy

/-- In a store that began empty every policy has its owner. -/
theorem policiesOwned_moves (h : Relation.ReflTransGen StoreMove ⟨[], [], [], []⟩ st) :
    st.PoliciesOwned := by
  induction h with
  | refl => exact fun _ _ h => by cases h
  | tail _ hlast ih => exact hlast.policiesOwned ih

end Service
end CouncilLogic
