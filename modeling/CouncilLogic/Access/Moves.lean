/-
# What the operations of the policy core change

A mandate is written under its id by `register_mandate`, which accepts only what equals a
mandate that is there, and by `revoke_mandate`.  A reservation is appended, and settled once.

The operations are the methods of `PolicyCore` in `src/model_council/access_policy.py`.  Every one
of them is a single step under the lock of the core, so a history of the core is a sequence of
them.
-/

import CouncilLogic.Access.Core
import CouncilLogic.Lib.Transaction

namespace CouncilLogic
namespace Access

open Service (Tenant DateTime)

variable {core core' : PolicyCore} {mandate : Mandate} {mandateId id : Str} {now : DateTime}

/-- A call of an operation of the core. -/
inductive CoreOp
  | setEnabled (principalId : Str) (enabled : Bool)
  | register (mandate : Mandate)
  | revoke (mandateId : Str) (now : DateTime)
  | check (request : AuthorizationRequest) (now : DateTime)
  | authorize (request : AuthorizationRequest) (now : DateTime)
  | reconcile (request : ReconciliationRequest) (now : DateTime)
  | release (reservationId principalId : Str) (tenant : Tenant)

/-- What an operation makes of the core. -/
def CoreOp.apply (core : PolicyCore) : CoreOp → PolicyCore
  | .setEnabled principalId enabled => (core.setPrincipalEnabled principalId enabled).1
  | .register mandate => (core.registerMandate mandate).1
  | .revoke mandateId now => (core.revokeMandate mandateId now).1
  | .check request now => (core.check request now).1
  | .authorize request now => (core.authorizeAndReserve request now).1
  | .reconcile request now => (core.reconcile request now).1
  | .release reservationId principalId tenant =>
    (core.releaseReservation reservationId principalId tenant).1

/-- A move of the core that `ok` admits. -/
inductive CoreMove (ok : PolicyCore → CoreOp → Prop) : PolicyCore → PolicyCore → Prop
  | call (core : PolicyCore) (op : CoreOp) (h : ok core op) : CoreMove ok core (op.apply core)

/-! ### Decisions -/

/-- A step that returns is followed by the rest. -/
theorem ok_bind {α β : Type} (a : α) (f : α → Except CoreError β) : (Except.ok a >>= f) = f a := rfl

/-- One check of a list of checks. -/
theorem not_denied {c : Prop} [Decidable c] {code : DecisionCode} {rest : Option DecisionCode}
    (h : (if c then some code else rest) = none) : ¬ c ∧ rest = none := by
  by_cases hc : c
  · rw [if_pos hc] at h
    cases h
  · rw [if_neg hc] at h
    exact ⟨hc, h⟩

/-- A check that denies does not allow. -/
theorem denied_ne {c : Prop} [Decidable c] {code : DecisionCode} {rest : Option DecisionCode}
    (hcode : code ≠ .allowed) (hrest : rest ≠ some .allowed) :
    (if c then some code else rest) ≠ some .allowed := by
  by_cases hc : c
  · rw [if_pos hc]
    exact fun h => hcode (Option.some.inj h)
  · rw [if_neg hc]
    exact hrest

namespace PolicyCore

variable {request : AuthorizationRequest}

/-- A mandate denies with a code of its own. -/
theorem mandateDenies_ne_allowed (owner : Option Principal) :
    mandateDenies mandate owner request now ≠ some .allowed := by
  unfold mandateDenies
  refine denied_ne (by decide) <| denied_ne (by decide) <| denied_ne (by decide) <|
    denied_ne (by decide) <| denied_ne (by decide) <| denied_ne (by decide) <|
    denied_ne (by decide) <| denied_ne (by decide) <| denied_ne (by decide) <|
    denied_ne (by decide) <| denied_ne (by decide) ?_
  exact fun h => by cases h

/-- A denial is not an allowance. -/
theorem denies_ne_allowed {code : DecisionCode} (h : core.denies request now = .error code) :
    code ≠ .allowed := by
  unfold denies at h
  split at h
  · cases h
    decide
  · split_ifs at h
    · cases h
      decide
    · cases h
      decide
    · split at h
      · cases h
        decide
      · split at h
        · rename_i hsome
          cases h
          rintro rfl
          exact mandateDenies_ne_allowed _ hsome
        · cases h

/-- What is not denied has a principal of its tenant and a mandate. -/
theorem denies_ok (h : core.denies request now = .ok mandate) :
    ∃ principal, core.principal? request.principalId = some principal ∧
      principal.tenant = request.tenant ∧ core.mandate? request.mandateId = some mandate ∧
        mandateDenies mandate (core.principal? mandate.ownerPrincipalId) request now = none := by
  unfold denies at h
  split at h
  · cases h
  · rename_i principal hprincipal
    split_ifs at h with henabled htenant
    split at h
    · cases h
    · rename_i found hfound
      split at h
      · cases h
      · rename_i hnone
        cases h
        exact ⟨principal, hprincipal, not_not.1 htenant, hfound, hnone⟩

/-! ### Mandates -/

/-- What is found after a mandate has been put. -/
theorem putMandate_mandate? (core : PolicyCore) (mandate : Mandate) (id : Str) :
    (core.putMandate mandate).mandate? id =
      if id = mandate.mandateId then some mandate else core.mandate? id := by
  unfold putMandate
  cases hfound : core.mandate? mandate.mandateId with
  | none =>
    show Rows.find Mandate.mandateId (core.mandates ++ [mandate]) id = _
    rw [Rows.find_append (Rows.find_eq_none.1 hfound)]
    exact if_congr eq_comm rfl rfl
  | some old =>
    show Rows.find Mandate.mandateId
      (Rows.change Mandate.mandateId core.mandates mandate.mandateId fun _ => mandate) id = _
    rw [Rows.find_change_key (f := fun _ => mandate) fun _ _ => rfl]
    split
    · rw [show Rows.find _ core.mandates mandate.mandateId = some old from hfound]
      rfl
    · rfl

/-- Mandates that count as the same were revoked at the same time, or both not at all. -/
theorem same_revokedAt {mandate' : Mandate} (h : mandate.same mandate' = true) :
    mandate.revokedAt = mandate'.revokedAt := by
  unfold Mandate.same at h
  simp only [Bool.and_eq_true, decide_eq_true_eq] at h
  exact h.2

/-- A registered mandate takes the place of an equal one. -/
theorem registerMandate_mandate? (core : PolicyCore) (new : Mandate)
    (h : core.mandate? mandateId = some mandate) :
    ∃ mandate', (core.registerMandate new).1.mandate? mandateId = some mandate' ∧
      (mandate' = mandate ∨ mandate.same mandate' = true) := by
  unfold registerMandate
  repeat' split
  all_goals try exact ⟨mandate, h, .inl rfl⟩
  rename_i hsame
  rw [putMandate_mandate?]
  split
  · rename_i hid
    rw [← hid, h] at hsame
    exact ⟨new, rfl, .inr (by simpa using hsame)⟩
  · exact ⟨mandate, h, .inl rfl⟩

/-- A mandate that is revoked already is left alone. -/
theorem revokeMandate_mandate? (h : core.mandate? mandateId = some mandate)
    (hrevoked : mandate.revokedAt ≠ none) (other : Str) :
    (core.revokeMandate other now).1.mandate? mandateId = some mandate := by
  unfold revokeMandate
  split
  · exact h
  · rename_i found hfound
    split
    · exact h
    · rename_i hnot
      rw [putMandate_mandate?, if_neg]
      · exact h
      · intro hid
        have hother : found.mandateId = other := (Rows.find_some hfound).2
        rw [hid, hother, hfound] at h
        cases h
        exact hnot (Option.isSome_iff_ne_none.2 hrevoked)

/-- No operation makes two reservations with one id. -/
theorem apply_unique (op : CoreOp) (h : Rows.Unique Reservation.id core.reservations) :
    Rows.Unique Reservation.id (op.apply core).reservations := by
  have hset : ∀ id state, Rows.Unique Reservation.id (core.setState id state).reservations :=
    fun _ _ => h.change fun _ => rfl
  cases op with
  | setEnabled principalId enabled =>
    simp only [CoreOp.apply]
    unfold setPrincipalEnabled
    split <;> exact h
  | register mandate =>
    simp only [CoreOp.apply]
    unfold registerMandate
    repeat' (first | split | exact h)
  | revoke mandateId now =>
    simp only [CoreOp.apply]
    unfold revokeMandate
    repeat' (first | split | exact h)
  | check request now => exact h
  | authorize request now =>
    simp only [CoreOp.apply]
    unfold authorizeAndReserve
    cases hfresh : core.reservation? request.reservationId with
    | some existing =>
      dsimp only
      repeat' (first | split | exact h)
    | none =>
      dsimp only
      repeat' (first | split | exact h)
      exact h.append (Rows.find_eq_none.1 hfresh)
  | reconcile request now =>
    simp only [CoreOp.apply]
    unfold reconcile
    repeat' (first | split | exact h | exact hset _ _)
  | release reservationId principalId tenant =>
    simp only [CoreOp.apply]
    unfold releaseReservation
    repeat' (first | split | exact h | exact hset _ _)

/-- Settling a reservation leaves the mandates and the principals alone. -/
theorem reconcile_mandates (core : PolicyCore) (request : ReconciliationRequest) (now : DateTime) :
    (core.reconcile request now).1.mandates = core.mandates ∧
      (core.reconcile request now).1.principals = core.principals := by
  unfold reconcile
  repeat' (first | split | exact ⟨rfl, rfl⟩)

/-- A release leaves the mandates and the principals alone. -/
theorem releaseReservation_mandates (core : PolicyCore) (reservationId principalId : Str)
    (tenant : Tenant) :
    (core.releaseReservation reservationId principalId tenant).1.mandates = core.mandates ∧
      (core.releaseReservation reservationId principalId tenant).1.principals =
        core.principals := by
  unfold releaseReservation
  repeat' (first | split | exact ⟨rfl, rfl⟩)

/-- An authorization leaves the mandates and the principals alone. -/
theorem authorizeAndReserve_mandates (core : PolicyCore) (request : AuthorizationRequest)
    (now : DateTime) :
    (core.authorizeAndReserve request now).1.mandates = core.mandates ∧
      (core.authorizeAndReserve request now).1.principals = core.principals := by
  unfold authorizeAndReserve
  repeat' (first | split | exact ⟨rfl, rfl⟩)

/-- Enabling or disabling a principal leaves the mandates alone. -/
theorem setPrincipalEnabled_mandates (core : PolicyCore) (principalId : Str) (enabled : Bool) :
    (core.setPrincipalEnabled principalId enabled).1.mandates = core.mandates := by
  unfold setPrincipalEnabled
  split <;> rfl

/-- **A revoked mandate stays as it is**, up to equality. -/
theorem apply_mandate? (op : CoreOp) (h : core.mandate? mandateId = some mandate)
    (hrevoked : mandate.revokedAt ≠ none) :
    ∃ mandate', (op.apply core).mandate? mandateId = some mandate' ∧
      (mandate' = mandate ∨ mandate.same mandate' = true) := by
  have hkept : ∀ core' : PolicyCore, core'.mandates = core.mandates →
      ∃ mandate', core'.mandate? mandateId = some mandate' ∧
        (mandate' = mandate ∨ mandate.same mandate' = true) := by
    intro core' heq
    refine ⟨mandate, ?_, .inl rfl⟩
    unfold mandate?
    rw [heq]
    exact h
  cases op with
  | setEnabled principalId enabled => exact hkept _ (setPrincipalEnabled_mandates core _ _)
  | register new => exact registerMandate_mandate? core new h
  | revoke other now => exact ⟨mandate, revokeMandate_mandate? h hrevoked other, .inl rfl⟩
  | check request now => exact ⟨mandate, h, .inl rfl⟩
  | authorize request now => exact hkept _ (core.authorizeAndReserve_mandates request now).1
  | reconcile request now => exact hkept _ (core.reconcile_mandates request now).1
  | release reservationId principalId tenant =>
    exact hkept _ (core.releaseReservation_mandates reservationId principalId tenant).1

end PolicyCore
end Access
end CouncilLogic
