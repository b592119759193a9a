/-
# What a revocation takes effect on

`revoke_policy` and `revoke_mandate` keep a revocation timestamp that is there already, also
one that lies after their own.  From the time of the call on nothing is allowed under the
policy, unless such a timestamp leaves it in force for a while.

The two methods are in `src/model_council/service_store.py` (`revoke_policy`) and in
`src/model_council/access_policy.py` (`revoke_mandate`); `docs/SECURITY.md` says that a revoked
mandate fails closed.
-/

import CouncilLogic.Access.Moves
import CouncilLogic.Service.Policies
import Mathlib.Logic.Relation

namespace CouncilLogic

open Service (DateTime ServiceStore ServicePolicy StoreMove CallReservationRequest Tenant)
open Access (PolicyCore Mandate CoreMove AuthorizationRequest)

/-- At some time from `at_` on, the dates put a mandate in force that carries a revocation
timestamp already. -/
def Outlives (revokedAt : Option DateTime) (issuedAt expiresAt at_ : DateTime) : Prop :=
  ∃ revoked now : DateTime, revokedAt = some revoked ∧ now.before at_ = false ∧
    now.before revoked = true ∧ now.before issuedAt = false ∧ now.before expiresAt = true

/-! ### Policies -/

namespace Service

variable {st st' : ServiceStore} {policyId : Str} {policy : ServicePolicy} {at_ now : DateTime}

/-- Nothing is allowed under the policy from `at_` on, whatever happens to the store. -/
def ServiceStore.RevokedFrom (st : ServiceStore) (policyId : Str) (at_ : DateTime) : Prop :=
  ∀ st', Relation.ReflTransGen StoreMove st st' → ∀ now, now.before at_ = false →
    (∀ principalId tenant action,
      (st'.authorizeAction policyId principalId tenant action now).allowed = false) ∧
    ∀ request : CallReservationRequest, request.policyId = policyId →
      st'.reservation? request.reservationId = none →
        (st'.reserveCall request now).2.allowed = false

/-- The policy lets some action pass at a time. -/
structure ServicePolicy.InForce (policy : ServicePolicy) (now : DateTime) : Prop where
  revoked : ∀ revoked, policy.revokedAt = some revoked → now.before revoked = true
  issued : now.before policy.issuedAt = false
  expires : now.before policy.expiresAt = true
  action : policy.allowedActions ≠ []

/-- An action is allowed under a policy in force only. -/
theorem inForce_of_actionDenies {tenant : Tenant} {action : Str}
    (h : ServiceStore.actionDenies policy tenant action now = .reserved) : policy.InForce now := by
  unfold ServiceStore.actionDenies at h
  split_ifs at h with htenant hrevoked hissued hexpires haction
  refine ⟨fun revoked hsome => ?_, by simpa using hissued, by simpa using hexpires, ?_⟩
  · simpa [hsome] using hrevoked
  · exact List.ne_nil_of_mem haction

/-- A call is allowed under a policy in force only. -/
theorem inForce_of_policyDenies {request : CallReservationRequest}
    (h : ServiceStore.policyDenies policy request now = none) : policy.InForce now := by
  unfold ServiceStore.policyDenies at h
  split_ifs at h with htenant hrevoked hissued hexpires haction
  refine ⟨fun revoked hsome => ?_, by simpa using hissued, by simpa using hexpires, ?_⟩
  · simpa [hsome] using hrevoked
  · exact List.ne_nil_of_mem haction

/-- What is allowed is allowed by the policy. -/
theorem inForce_of_action {principalId action : Str} {tenant : Tenant}
    (hpolicy : st.policy? policyId = some policy)
    (h : (st.authorizeAction policyId principalId tenant action now).allowed = true) :
    policy.InForce now := by
  have hcode : st.actionCode policyId principalId tenant action now = .reserved := by
    simpa [ServiceStore.authorizeAction] using h
  unfold ServiceStore.actionCode at hcode
  rw [hpolicy] at hcode
  split at hcode
  · cases hcode
  · dsimp only at hcode
    split_ifs at hcode
    exact inForce_of_actionDenies hcode

/-- A reservation that is new and allowed was made under a policy in force. -/
theorem inForce_of_reserve {request : CallReservationRequest}
    (hpolicy : st.policy? request.policyId = some policy)
    (hfresh : st.reservation? request.reservationId = none)
    (h : (st.reserveCall request now).2.allowed = true) : policy.InForce now := by
  unfold ServiceStore.reserveCall at h
  rw [hfresh] at h
  dsimp only at h
  split at h
  · cases h
  · rename_i found hauth
    obtain rfl : policy = found := by
      have hfound := (ServiceStore.authorize_ok hauth).1
      rw [hpolicy] at hfound
      exact Option.some.inj hfound
    split at h
    · cases h
    · exact inForce_of_policyDenies (by assumption)

/-- **A revoked policy that cannot be in force any more** allows nothing. -/
theorem revokedFrom_of_not_inForce (hpolicy : st.policy? policyId = some policy)
    (hrevoked : policy.revokedAt ≠ none)
    (hdead : ∀ now, now.before at_ = false → ¬ policy.InForce now) :
    st.RevokedFrom policyId at_ := by
  intro st' hlater now hnow
  have hkept : st'.policy? policyId = some policy := by
    induction hlater with
    | refl => exact hpolicy
    | tail _ hlast ih => exact hlast.policy? ih hrevoked
  constructor
  · intro principalId tenant action
    by_contra hallowed
    exact hdead now hnow (inForce_of_action hkept (by simpa using hallowed))
  · rintro request rfl hfresh
    by_contra hallowed
    exact hdead now hnow (inForce_of_reserve hkept hfresh (by simpa using hallowed))

/-- A policy in force lets its actions pass. -/
theorem ServicePolicy.InForce.authorizes {principal : PrincipalRow} (h : policy.InForce now)
    (hpolicy : st.policy? policyId = some policy)
    (hprincipal : st.principal? policy.principalId = some principal)
    (henabled : principal.enabled = true) (htenant : principal.tenant = policy.tenant)
    {action : Str} (haction : action ∈ policy.allowedActions) :
    (st.authorizeAction policyId policy.principalId policy.tenant action now).allowed = true := by
  have hrevoked : (policy.revokedAt.any fun revoked => !now.before revoked) = false := by
    cases hsome : policy.revokedAt with
    | none => rfl
    | some revoked => simp [h.revoked revoked hsome]
  have hdenies : ServiceStore.actionDenies policy policy.tenant action now = .reserved := by
    unfold ServiceStore.actionDenies
    simp [hrevoked, h.issued, h.expires, haction]
  have hcode : st.actionCode policyId policy.principalId policy.tenant action now = .reserved := by
    unfold ServiceStore.actionCode
    simp [hprincipal, henabled, htenant, hpolicy, hdenies]
  simp [ServiceStore.authorizeAction, hcode]

/-- **A revocation of a policy** takes effect if and only if no timestamp that is there already
leaves the policy in force. -/
theorem revokePolicy_effective (hst : Relation.ReflTransGen StoreMove ⟨[], [], [], []⟩ st)
    (hpolicy : st.policy? policyId = some policy) :
    (st.revokePolicy policyId at_).1.RevokedFrom policyId at_ ↔
      ¬ (policy.allowedActions ≠ [] ∧
        Outlives policy.revokedAt policy.issuedAt policy.expiresAt at_) := by
  have howned : st.PoliciesOwned := policiesOwned_moves hst
  have hrevoked : (st.revokePolicy policyId at_).1.policy? policyId =
      some (ServiceStore.revoked policy at_) := by
    rw [revokePolicy_policy?, if_pos rfl, hpolicy]
    rfl
  constructor
  · rintro hnothing ⟨hactions, revoked, now, hsome, hnow, hbefore, hissued, hexpires⟩
    obtain ⟨action, haction⟩ := List.exists_mem_of_ne_nil _ hactions
    obtain ⟨principal, hprincipal, htenant⟩ :=
      (StoreMove.revokePolicy st policyId at_).policiesOwned howned policyId _ hrevoked
    have hforce : (ServiceStore.revoked policy at_).InForce now := by
      refine ⟨fun r hr => ?_, hissued, hexpires, hactions⟩
      rw [ServiceStore.revoked, hsome] at hr
      cases hr
      exact hbefore
    have hprincipal' : ((st.revokePolicy policyId at_).1.setPrincipalEnabled policy.principalId
        true).principal? policy.principalId = some { principal with enabled := true } := by
      rw [setPrincipalEnabled_principal?, if_pos rfl]
      exact congrArg (Option.map _) hprincipal
    have hpolicy' : ((st.revokePolicy policyId at_).1.setPrincipalEnabled policy.principalId
        true).policy? policyId = some (ServiceStore.revoked policy at_) := hrevoked
    have hallowed : (((st.revokePolicy policyId at_).1.setPrincipalEnabled policy.principalId
        true).authorizeAction policyId policy.principalId policy.tenant action now).allowed =
          true :=
      hforce.authorizes hpolicy' hprincipal' rfl htenant haction
    have hdenied := (hnothing _ (.single (.setEnabled _ policy.principalId true)) now hnow).1
      policy.principalId policy.tenant action
    rw [hdenied] at hallowed
    cases hallowed
  · intro hnot
    refine revokedFrom_of_not_inForce hrevoked (by simp [ServiceStore.revoked]) ?_
    intro now hnow hforce
    cases hsome : policy.revokedAt with
    | none =>
      have hbefore := hforce.revoked at_ (by simp [ServiceStore.revoked, hsome])
      rw [hnow] at hbefore
      cases hbefore
    | some revoked =>
      refine hnot ⟨hforce.action, revoked, now, hsome, hnow, ?_, hforce.issued, hforce.expires⟩
      exact hforce.revoked revoked (by simp [ServiceStore.revoked, hsome])

end Service

/-! ### Mandates -/

namespace Access

variable {core core' : PolicyCore} {mandate mandate' : Mandate} {mandateId : Str}
  {request : AuthorizationRequest} {at_ now : DateTime}

/-- Nothing is allowed or reserved under the mandate from `at_` on, whatever is called. -/
def PolicyCore.RevokedFrom (core : PolicyCore) (mandateId : Str) (at_ : DateTime) : Prop :=
  ∀ core', Relation.ReflTransGen (CoreMove fun _ _ => True) core core' →
    ∀ now, now.before at_ = false → ∀ request : AuthorizationRequest,
      request.mandateId = mandateId →
        (∀ decision, (core'.check request now).2 = .ok decision → decision.allowed = false) ∧
        (core'.reservation? request.reservationId = none →
          ∀ decision, (core'.authorizeAndReserve request now).2 = .ok decision →
            decision.allowed = false) ∧
        (core'.authorizeAndReserve request now).1 = core'

/-- Some request is within the allowlists of the mandate. -/
def Mandate.Usable (mandate : Mandate) : Prop :=
  ∃ action ∈ mandate.allowedActions, action = lit "provider:invoke" →
    mandate.allowedProviders ≠ [] ∧ mandate.allowedModels ≠ []

/-- The mandate lets some request pass at a time. -/
structure Mandate.InForce (mandate : Mandate) (now : DateTime) : Prop where
  revoked : ∀ revoked, mandate.revokedAt = some revoked → now.before revoked = true
  issued : now.before mandate.issuedAt = false
  expires : now.before mandate.expiresAt = true
  usable : mandate.Usable

/-- A mandate that does not deny is in force. -/
theorem inForce_of_mandateDenies {owner : Option Principal}
    (h : PolicyCore.mandateDenies mandate owner request now = none) : mandate.InForce now := by
  unfold PolicyCore.mandateDenies at h
  obtain ⟨-, h⟩ := not_denied h
  obtain ⟨-, h⟩ := not_denied h
  obtain ⟨-, h⟩ := not_denied h
  obtain ⟨hrevoked, h⟩ := not_denied h
  obtain ⟨hissued, h⟩ := not_denied h
  obtain ⟨hexpires, h⟩ := not_denied h
  obtain ⟨haction, h⟩ := not_denied h
  obtain ⟨hprovider, h⟩ := not_denied h
  obtain ⟨hmodel, h⟩ := not_denied h
  obtain ⟨hproviders, h⟩ := not_denied h
  obtain ⟨hmodels, -⟩ := not_denied h
  refine ⟨fun revoked hsome => ?_, by simpa using hissued, by simpa using hexpires,
    request.action, not_not.1 haction, fun hinvoke => ⟨?_, ?_⟩⟩
  · rw [hsome] at hrevoked
    simpa using hrevoked
  · obtain ⟨p, hp⟩ := Option.ne_none_iff_exists'.1 fun hnone => hprovider ⟨hinvoke, hnone⟩
    rw [hp, Option.any_some, decide_eq_true_iff, not_not] at hproviders
    exact List.ne_nil_of_mem hproviders
  · obtain ⟨m, hm⟩ := Option.ne_none_iff_exists'.1 fun hnone => hmodel ⟨hinvoke, hnone⟩
    rw [hm, Option.any_some, decide_eq_true_iff, not_not] at hmodels
    exact List.ne_nil_of_mem hmodels

/-- What is allowed is allowed by the mandate. -/
theorem inForce_of_evaluate {decision : AuthorizationDecision}
    (hmandate : core.mandate? request.mandateId = some mandate)
    (h : core.evaluate request now = .ok decision) (hallowed : decision.allowed = true) :
    mandate.InForce now := by
  unfold PolicyCore.evaluate at h
  cases hdenies : core.denies request now with
  | error code =>
    rw [hdenies] at h
    cases h
    exact absurd (by simpa [AuthorizationDecision.allowed] using hallowed)
      (PolicyCore.denies_ne_allowed hdenies)
  | ok found =>
    obtain ⟨-, -, -, hfound, hnone⟩ := PolicyCore.denies_ok hdenies
    obtain rfl : mandate = found := by
      rw [hmandate] at hfound
      exact Option.some.inj hfound
    exact inForce_of_mandateDenies hnone

/-- An equal mandate is in force at the same times. -/
theorem Mandate.InForce.of_same (hsame : mandate.same mandate' = true)
    (h : mandate'.InForce now) : mandate.InForce now := by
  unfold Mandate.same sameSet at hsame
  simp only [Bool.and_eq_true, decide_eq_true_eq] at hsame
  obtain ⟨⟨⟨⟨⟨⟨⟨⟨⟨-, -, hactions⟩, -, hproviders⟩, -, hmodels⟩, -⟩, -⟩, -⟩, hissued⟩, hexpires⟩,
    hrevoked⟩ := hsame
  obtain ⟨action, haction, hinvoke⟩ := h.usable
  refine ⟨fun revoked hsome => h.revoked revoked (hrevoked ▸ hsome), hissued ▸ h.issued,
    hexpires ▸ h.expires, action, hactions haction, fun h => ?_⟩
  exact ⟨fun hnil => (hinvoke h).1 (List.subset_nil.1 (hnil ▸ hproviders)),
    fun hnil => (hinvoke h).2 (List.subset_nil.1 (hnil ▸ hmodels))⟩

/-- **A revoked mandate that cannot be in force any more** allows nothing. -/
theorem revokedFrom_of_not_inForce (hmandate : core.mandate? mandateId = some mandate)
    (hrevoked : mandate.revokedAt ≠ none)
    (hdead : ∀ now, now.before at_ = false → ¬ mandate.InForce now) :
    core.RevokedFrom mandateId at_ := by
  intro core' hlater now hnow request hid
  have hkept : ∃ mandate', core'.mandate? mandateId = some mandate' ∧
      mandate'.revokedAt ≠ none ∧ (mandate'.InForce now → mandate.InForce now) := by
    induction hlater with
    | refl => exact ⟨mandate, hmandate, hrevoked, fun h => h⟩
    | tail _ hlast ih =>
      obtain ⟨old, hold, holdRevoked, hforce⟩ := ih
      obtain ⟨op, -⟩ := hlast
      obtain ⟨new, hnew, rfl | hsame⟩ := PolicyCore.apply_mandate? op hold holdRevoked
      · exact ⟨new, hnew, holdRevoked, hforce⟩
      · refine ⟨new, hnew, ?_, fun h => hforce (h.of_same hsame)⟩
        rw [← PolicyCore.same_revokedAt hsame]
        exact holdRevoked
  obtain ⟨mandate', hmandate', -, hforce⟩ := hkept
  rw [← hid] at hmandate'
  have hnever : ∀ decision, core'.evaluate request now = .ok decision →
    decision.allowed = false := by
    intro decision hdecision
    by_contra hallowed
    exact hdead now hnow
      (hforce (inForce_of_evaluate hmandate' hdecision (by simpa using hallowed)))
  refine ⟨hnever, fun hfresh decision hdecision => ?_, ?_⟩
  · unfold PolicyCore.authorizeAndReserve at hdecision
    rw [hfresh] at hdecision
    dsimp only at hdecision
    split at hdecision
    · cases hdecision
    · rename_i found hfound
      rw [if_pos (hnever found hfound)] at hdecision
      cases hdecision
      exact hnever _ hfound
  · unfold PolicyCore.authorizeAndReserve
    repeat' split
    all_goals try rfl
    rename_i found hfound hallowed
    exact absurd (hnever found hfound) hallowed

/-! A mandate in force, and what it allows when nothing has been spent. -/

/-- The principals of a mandate. -/
def Mandate.principals (mandate : Mandate) : List Principal :=
  if mandate.principalId = mandate.ownerPrincipalId then
    [⟨mandate.ownerPrincipalId, mandate.tenant, .human, true⟩]
  else [⟨mandate.principalId, mandate.tenant, .human, true⟩,
    ⟨mandate.ownerPrincipalId, mandate.tenant, .human, true⟩]

/-- The two principals of the example are found under their own ids. -/
theorem Mandate.principals_unique (mandate : Mandate) :
    Rows.Unique Principal.principalId mandate.principals := by
  unfold principals
  split
  · exact List.nodup_singleton _
  · simpa [Rows.Unique] using by assumption

/-- The principal and the owner of a mandate are enabled humans of its tenant. -/
theorem Mandate.principals_find {id : Str}
    (h : id = mandate.principalId ∨ id = mandate.ownerPrincipalId) :
    Rows.find Principal.principalId mandate.principals id =
      some ⟨id, mandate.tenant, .human, true⟩ := by
  unfold principals Rows.find
  by_cases hsame : mandate.principalId = mandate.ownerPrincipalId
  · obtain rfl : id = mandate.ownerPrincipalId := by
      rcases h with rfl | rfl
      · exact hsame
      · rfl
    simp [hsame]
  · rcases h with rfl | rfl
    · simp [hsame]
    · simp [hsame]

/-- A request of nothing under a mandate. -/
def Mandate.freeRequest (mandate : Mandate) (action : Str) : AuthorizationRequest where
  principalId := mandate.principalId
  tenant := mandate.tenant
  mandateId := mandate.mandateId
  action := action
  runId := lit "run"
  reservationId := lit "reservation"
  provider := mandate.allowedProviders.head?
  model := mandate.allowedModels.head?

/-- A check that does not deny leaves it to the rest. -/
theorem allowed_of {c : Prop} [Decidable c] {code : DecisionCode} {rest : Option DecisionCode}
    (hc : ¬ c) (h : rest = none) : (if c then some code else rest) = none := by
  rw [if_neg hc]
  exact h

/-- What stands first in a list is in the list. -/
theorem head_allowed (l : List Str) :
    (l.head?.any fun a => decide (a ∉ l)) = false := by
  cases l with
  | nil => rfl
  | cons a l => simp

/-- A mandate in force denies no request within its allowlists. -/
theorem Mandate.InForce.not_denies (h : mandate.InForce now) :
    ∃ action, PolicyCore.mandateDenies mandate
      (some ⟨mandate.ownerPrincipalId, mandate.tenant, .human, true⟩) (mandate.freeRequest action)
      now = none := by
  obtain ⟨action, haction, hinvoke⟩ := h.usable
  have hrevoked : (mandate.revokedAt.any fun revoked => !now.before revoked) = false := by
    cases hsome : mandate.revokedAt with
    | none => rfl
    | some revoked => simp [h.revoked revoked hsome]
  refine ⟨action, ?_⟩
  unfold PolicyCore.mandateDenies
  refine allowed_of (by simp [freeRequest]) <| allowed_of (by simp [freeRequest]) <|
    allowed_of (by simp [freeRequest]) <| allowed_of (by simp [hrevoked]) <|
    allowed_of (by simp [h.issued]) <| allowed_of (by simp [h.expires]) <|
    allowed_of (not_not.2 haction) <| allowed_of ?_ <| allowed_of ?_ <|
    allowed_of (ne_true_of_eq_false (head_allowed _)) <|
    allowed_of (ne_true_of_eq_false (head_allowed _)) rfl
  · rintro ⟨hname, hnone⟩
    exact (hinvoke hname).1 (List.head?_eq_none_iff.1 hnone)
  · rintro ⟨hname, hnone⟩
    exact (hinvoke hname).2 (List.head?_eq_none_iff.1 hnone)

/-- Nothing and nothing is nothing. -/
theorem plus_zero : plus .zero .zero = .ok .zero := by decide

/-- Nothing exceeds no limit. -/
theorem exceeds_zero (limit : Decimal) :
    PolicyCore.exceeds .zero .zero .zero limit = .ok false := by
  have hlt : limit.lt .zero = false := by
    rw [← Bool.not_eq_true, Decimal.lt_iff, Decimal.value_zero, not_lt]
    exact limit.value_nonneg
  unfold PolicyCore.exceeds
  simp only [plus_zero, ok_bind, hlt]

/-- Where nothing is reserved, a request of nothing is allowed. -/
theorem evaluate_free (hmandate : core.mandate? request.mandateId = some mandate)
    (hprincipal : ∃ principal, core.principal? request.principalId = some principal ∧
      principal.enabled = true ∧ principal.tenant = request.tenant)
    (hnone : PolicyCore.mandateDenies mandate (core.principal? mandate.ownerPrincipalId) request
      now = none)
    (hempty : core.reservations = []) (hcost : request.maximumCost = .zero) :
    ∃ decision, core.evaluate request now = .ok decision ∧ decision.allowed = true := by
  obtain ⟨principal, hprincipal, henabled, htenant⟩ := hprincipal
  have hdenies : core.denies request now = .ok mandate := by
    unfold PolicyCore.denies
    rw [hprincipal]
    dsimp only
    rw [if_neg (by simp [henabled]), if_neg (by simp [htenant]), hmandate]
    dsimp only
    rw [hnone]
  have hsnapshot : core.snapshot request now = .ok ⟨.zero, .zero, .zero, .zero, .zero, .zero,
      mandate.perRunLimit, mandate.dailyLimit, mandate.monthlyLimit⟩ := by
    unfold PolicyCore.snapshot PolicyCore.runRows PolicyCore.dayRows PolicyCore.monthRows
      PolicyCore.counted
    rw [hmandate, hempty]
    rfl
  unfold PolicyCore.evaluate
  rw [hdenies]
  dsimp only
  rw [hsnapshot, hcost]
  simp only [ok_bind, exceeds_zero, plus_zero]
  exact ⟨_, rfl, rfl⟩

/-- A core that calls lead to from one that was just made. -/
def PolicyCore.Reached (core : PolicyCore) : Prop :=
  ∃ principals, Rows.Unique Principal.principalId principals ∧
    Relation.ReflTransGen (CoreMove fun _ _ => True) ⟨principals, [], []⟩ core

/-- In a core that is reached the reservations have different ids. -/
theorem PolicyCore.Reached.unique {core : PolicyCore} (h : core.Reached) :
    Rows.Unique Reservation.id core.reservations := by
  obtain ⟨principals, -, hmoves⟩ := h
  induction hmoves with
  | refl => exact List.nodup_nil
  | tail _ hlast ih =>
    obtain ⟨op, -⟩ := hlast
    exact PolicyCore.apply_unique op ih

/-- A core in which a mandate was registered. -/
def Mandate.registered (mandate : Mandate) : PolicyCore := ⟨mandate.principals, [mandate], []⟩

/-- A core in which a mandate is registered is reached. -/
theorem Mandate.registered_reached (mandate : Mandate) : mandate.registered.Reached := by
  refine ⟨mandate.principals, mandate.principals_unique, .single ?_⟩
  have hregister : mandate.registered =
      CoreOp.apply ⟨mandate.principals, [], []⟩ (.register mandate) := by
    have hsubject := mandate.principals_find (.inl rfl)
    have howner := mandate.principals_find (.inr rfl)
    simp only [CoreOp.apply, PolicyCore.registerMandate, PolicyCore.principal?, hsubject, howner]
    rw [if_neg (fun h => h rfl), if_neg (fun h => h rfl), if_neg (fun h => h rfl)]
    rfl
  rw [hregister]
  exact .call _ _ trivial

/-- A mandate that is registered is found under its id. -/
theorem Mandate.registered_mandate? (mandate : Mandate) :
    mandate.registered.mandate? mandate.mandateId = some mandate := by
  simp [registered, PolicyCore.mandate?, Rows.find]

/-- **A revocation of a mandate** takes effect in every core if and only if no timestamp that is
there already leaves the mandate in force. -/
theorem revokeMandate_effective (mandate : Mandate) (at_ : DateTime) :
    (∀ core : PolicyCore, core.Reached → core.mandate? mandate.mandateId = some mandate →
      (core.revokeMandate mandate.mandateId at_).1.RevokedFrom mandate.mandateId at_) ↔
        ¬ (mandate.Usable ∧
          Outlives mandate.revokedAt mandate.issuedAt mandate.expiresAt at_) := by
  constructor
  · rintro hnothing ⟨husable, revoked, now, hsome, hnow, hbefore, hissued, hexpires⟩
    have hforce : mandate.InForce now := by
      refine ⟨fun r hr => ?_, hissued, hexpires, husable⟩
      rw [hsome] at hr
      cases hr
      exact hbefore
    obtain ⟨action, hnone⟩ := hforce.not_denies
    have hkept : (mandate.registered.revokeMandate mandate.mandateId at_).1 =
        mandate.registered := by
      unfold PolicyCore.revokeMandate
      rw [mandate.registered_mandate?]
      dsimp only
      rw [if_pos (by rw [hsome]; rfl)]
    have howner : mandate.registered.principal? mandate.ownerPrincipalId = _ :=
      mandate.principals_find (.inr rfl)
    obtain ⟨decision, hdecision, hallowed⟩ :
        ∃ decision, mandate.registered.evaluate (mandate.freeRequest action) now = .ok decision ∧
          decision.allowed = true :=
      evaluate_free mandate.registered_mandate?
        ⟨_, mandate.principals_find (.inl rfl), rfl, rfl⟩ (howner ▸ hnone) rfl rfl
    have hdenied := (hnothing _ mandate.registered_reached mandate.registered_mandate?
      _ .refl now hnow (mandate.freeRequest action) rfl).1 decision
    rw [hkept] at hdenied
    rw [hdenied hdecision] at hallowed
    cases hallowed
  · intro hnot core _ hmandate
    unfold PolicyCore.revokeMandate
    rw [hmandate]
    dsimp only
    split
    · rename_i hsome
      obtain ⟨revoked, hrevoked⟩ := Option.isSome_iff_exists.1 hsome
      refine revokedFrom_of_not_inForce hmandate (by rw [hrevoked]; simp) fun now hnow hforce => ?_
      exact hnot ⟨hforce.usable, revoked, now, hrevoked, hnow, hforce.revoked revoked hrevoked,
        hforce.issued, hforce.expires⟩
    · have hput := PolicyCore.putMandate_mandate? core { mandate with revokedAt := some at_ }
        mandate.mandateId
      rw [if_pos rfl] at hput
      refine revokedFrom_of_not_inForce hput (by simp) fun now hnow hforce => ?_
      have hbefore := hforce.revoked at_ rfl
      rw [hnow] at hbefore
      cases hbefore

end Access

/-- **A revocation takes effect** on everything that is asked for from its time on, in the
service store and in the policy core, if and only if no revocation timestamp that is there
already leaves the policy in force from then on. -/
theorem revocation_effective {st : ServiceStore} {policyId : Str} {policy : ServicePolicy}
    (hst : Relation.ReflTransGen StoreMove ⟨[], [], [], []⟩ st)
    (hpolicy : st.policy? policyId = some policy) (mandate : Mandate) (at_ : DateTime) :
    ((st.revokePolicy policyId at_).1.RevokedFrom policyId at_ ↔
      ¬ (policy.allowedActions ≠ [] ∧
        Outlives policy.revokedAt policy.issuedAt policy.expiresAt at_)) ∧
    ((∀ core : PolicyCore, core.Reached → core.mandate? mandate.mandateId = some mandate →
      (core.revokeMandate mandate.mandateId at_).1.RevokedFrom mandate.mandateId at_) ↔
        ¬ (mandate.Usable ∧
          Outlives mandate.revokedAt mandate.issuedAt mandate.expiresAt at_)) :=
  ⟨Service.revokePolicy_effective hst hpolicy, Access.revokeMandate_effective mandate at_⟩

/-- A policy that is registered with a revocation to come. -/
def presetPolicy : ServicePolicy where
  policyId := lit "policy"
  principalId := lit "agent"
  tenant := .personal
  allowedActions := [lit "run:create"]
  allowedProviders := []
  allowedModels := []
  maxInflight := 1
  dailyCallUnits := 1
  monthlyCallUnits := 1
  issuedAt := ⟨2020, 1, 1, 0⟩
  expiresAt := ⟨2100, 1, 1, 0⟩
  revokedAt := some ⟨2050, 1, 1, 0⟩
  inflight_pos := Nat.one_pos
  daily_pos := Nat.one_pos
  monthly_pos := Nat.one_pos

def presetStore : ServiceStore := ⟨[⟨lit "agent", .personal, true⟩], [presetPolicy], [], []⟩

/-- The store of the example: a policy with a revocation that lies in the future. -/
theorem presetStore_reached : Relation.ReflTransGen StoreMove ⟨[], [], [], []⟩ presetStore :=
  .tail (.single (.putPrincipal _ ⟨lit "agent", .personal, true⟩ rfl))
    (.putPolicy _ presetPolicy)

/-- A mandate that is registered with a revocation to come. -/
def presetMandate : Mandate where
  mandateId := lit "mandate"
  ownerPrincipalId := lit "human"
  principalId := lit "agent"
  tenant := .personal
  allowedActions := [lit "run:create"]
  allowedProviders := []
  allowedModels := []
  perRunLimit := .ofNat 1
  dailyLimit := .ofNat 1
  monthlyLimit := .ofNat 1
  issuedAt := ⟨2020, 1, 1, 0⟩
  expiresAt := ⟨2100, 1, 1, 0⟩
  revokedAt := some ⟨2050, 1, 1, 0⟩
  period := rfl

/-- A revocation in 2060 of a policy that is revoked from 2050 on: from then on the policy is not
in force, so the revocation is effective. -/
theorem revocation_effective_example :
    (presetStore.revokePolicy (lit "policy") ⟨2060, 1, 1, 0⟩).1.RevokedFrom (lit "policy")
        ⟨2060, 1, 1, 0⟩ ↔
      ¬ (presetPolicy.allowedActions ≠ [] ∧ Outlives presetPolicy.revokedAt presetPolicy.issuedAt
        presetPolicy.expiresAt ⟨2060, 1, 1, 0⟩) :=
  (revocation_effective presetStore_reached (show presetStore.policy? (lit "policy") =
    some presetPolicy from rfl) presetMandate ⟨2060, 1, 1, 0⟩).1

/-- Revoked in 2026, the policy and the mandate let an action pass in 2027. -/
theorem revocation_postponed :
    ¬ (presetStore.revokePolicy (lit "policy") ⟨2026, 7, 1, 0⟩).1.RevokedFrom (lit "policy")
        ⟨2026, 7, 1, 0⟩ ∧
      ¬ (presetMandate.registered.revokeMandate (lit "mandate") ⟨2026, 7, 1, 0⟩).1.RevokedFrom
        (lit "mandate") ⟨2026, 7, 1, 0⟩ := by
  constructor
  · intro h
    have hdenied := (h _ .refl ⟨2027, 1, 1, 0⟩ rfl).1 (lit "agent") .personal (lit "run:create")
    revert hdenied
    decide +kernel
  · intro h
    have hdenied := (h _ .refl ⟨2027, 1, 1, 0⟩ rfl
      (presetMandate.freeRequest (lit "run:create")) rfl).1 _ rfl
    revert hdenied
    decide +kernel

end CouncilLogic
