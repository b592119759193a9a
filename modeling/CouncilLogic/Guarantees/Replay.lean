/-
# What a replayed reservation authorizes

A reservation that is asked for again is answered from its row, before any check is made.
`authorize_and_reserve` looks at the state of the row and refuses a settled one;
`reserve_call` does not, and allows it.  Everything else it allows is reserved and counted.

The two methods are `PolicyCore.authorize_and_reserve` of `src/model_council/access_policy.py` and
`reserve_call` of `src/model_council/service_store.py`; `docs/PORTABLE-SERVICE.md` says that
settled reservations cannot be replayed as fresh authorization.
-/

import CouncilLogic.Access.Core
import CouncilLogic.Guarantees.ServiceBudget
import Mathlib.Algebra.Order.BigOperators.Group.List

namespace CouncilLogic
namespace Service

variable {st st' : ServiceStore} {request : CallReservationRequest} {now : DateTime}

/-- A row of a principal is part of its totals. -/
theorem ServiceStore.le_total {r : Reservation} (hr : r ∈ st.reservations)
    (units : Reservation → ℕ) : units r ≤ st.total r.principalId units := by
  unfold total
  refine List.single_le_sum (fun _ _ => Nat.zero_le _) _ (List.mem_map_of_mem ?_)
  exact List.mem_filter.2 ⟨hr, by simp⟩

/-- The request names a reservation that has been settled. -/
def ServiceStore.Settled (st : ServiceStore) (request : CallReservationRequest) : Prop :=
  ∃ r, st.reservation? request.reservationId = some r ∧ r.isFor request = true ∧
    r.state ≠ .reserved

/-- A settled reservation is allowed again. -/
theorem ServiceStore.Settled.allowed (h : st.Settled request) :
    (st.reserveCall request now).2.allowed = true ∧ (st.reserveCall request now).1 = st := by
  obtain ⟨r, hr, hfor, -⟩ := h
  unfold ServiceStore.reserveCall
  rw [hr]
  dsimp only
  rw [if_pos hfor]
  exact ⟨rfl, rfl⟩

/-- `authorize_and_reserve` is asked again for a reservation it has settled. -/
def ReplaysSettled (core : Access.PolicyCore) (request : Access.AuthorizationRequest) : Prop :=
  ∃ r, core.reservation? request.reservationId = some r ∧ r.request.same request = true ∧
    ∀ e, r.state = e → e ≠ .reserved

/-- `authorize_and_reserve` allows a request. -/
def CoreAllows (core : Access.PolicyCore) (request : Access.AuthorizationRequest)
    (at_ : DateTime) : Bool :=
  match (core.authorizeAndReserve request at_).2 with
  | .ok decision => decision.allowed
  | .error _ => false

/-- The policy core refuses a settled reservation. -/
theorem ReplaysSettled.refused {core : Access.PolicyCore} {request : Access.AuthorizationRequest}
    (h : ReplaysSettled core request) (at_ : DateTime) : CoreAllows core request at_ = false := by
  obtain ⟨r, hr, hsame, hstate⟩ := h
  unfold CoreAllows Access.PolicyCore.authorizeAndReserve
  rw [hr]
  dsimp only
  rw [if_pos hsame]
  cases hs : r.state with
  | reserved => exact absurd rfl (hstate _ hs)
  | reconciled => rfl
  | released => rfl

end Service
end CouncilLogic
