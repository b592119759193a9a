/-
# The life of a call

What was done for one slot is a list of actions of the trace.  It determines how far
the slot's last call has got (`World.phase`): started, asked for, leased, sent, and its
lease given back or reconciled.  Steps for other slots leave it alone.

The phases follow `_execute_provider_call` of `src/model_council/engine.py`.  They are computed
from the trace and not kept in the store, so they do not survive a crash: a slot that was left
running is found by the next resume in the phase it had, and is failed as ambiguous without being
called (`CouncilLogic.Guarantees.Suppression`).
-/

import CouncilLogic.Engine.Expected

namespace CouncilLogic

/-! ### Actions of a slot -/

/-- The stage and the provider of a call. -/
def Call.slot (call : Call) : Stage × Str := (call.stage, call.provider)

/-- The call an action is about. -/
def Action.call? : Action → Option Call
  | .attempt call _ | .started call _ | .generate call _ | .reserved call _ | .granted call _
  | .released call | .reconciled call | .settled call => some call
  | .enter .. | .overLimit .. | .adjudicated .. => none

/-- The action is one for a slot. -/
def Action.isOf (stage : Stage) (provider : Str) (a : Action) : Bool :=
  a.call?.any fun call => decide (call.slot = (stage, provider))

/-- What was done for a slot, in order. -/
def World.actionsOf (w : World) (stage : Stage) (provider : Str) : List Action :=
  w.trace.filter (Action.isOf stage provider)

/-- The start an action is. -/
def Action.start? : Action → Option (Call × Store)
  | .started call before => some (call, before)
  | .attempt .. | .generate .. | .reserved .. | .granted .. | .released _ | .reconciled _
  | .settled _ | .enter .. | .overLimit .. | .adjudicated .. => none

/-- The starts of a slot. -/
def World.startsOf (w : World) (stage : Stage) (provider : Str) : List (Call × Store) :=
  (w.actionsOf stage provider).filterMap Action.start?

/-! ### Phases -/

/-- How far the last call of a slot has got. -/
inductive CallPhase
  | idle
  | started
  | asked
  | leased
  | called (lease : Bool)
  | releasing
  | released
  | reconciling
  | reconciled
  deriving DecidableEq

namespace CallPhase

/-- The phase after one more action for the slot. -/
def next (phase : CallPhase) : Action → CallPhase
  | .started .. => .started
  | .reserved .. => .asked
  | .granted .. => .leased
  | .generate .. => .called (decide (phase = .leased))
  | .released _ => .releasing
  | .reconciled _ => .reconciling
  | .settled _ =>
    match phase with
    | .releasing => .released
    | .reconciling => .reconciled
    | .idle | .started | .asked | .leased | .called _ | .released | .reconciled => phase
  | .attempt .. | .enter .. | .overLimit .. | .adjudicated .. => phase

/-- The provider may be called. -/
def Ready (phase : CallPhase) : Prop := phase = .started ∨ phase = .leased

/-- The provider was not called, and nothing is owed to the gate. -/
def Unsent (phase : CallPhase) : Prop := phase = .started ∨ phase = .asked ∨ phase = .released

/-- The provider was called, and nothing is owed to the gate. -/
def Done (phase : CallPhase) : Prop := phase = .called false ∨ phase = .reconciled

/-- A lease is given back or reconciled. -/
def Settling (phase : CallPhase) : Prop := phase = .releasing ∨ phase = .reconciling

/-- The gate was asked to settle the lease. -/
def IsSettled : CallPhase → Prop
  | .releasing | .released | .reconciling | .reconciled => True
  | .idle | .started | .asked | .leased | .called _ => False

/-- The slot may be failed with an error: for good when the call is done, and ambiguously
while the gate was not asked to settle its lease, or has failed to reconcile it. -/
def Closes (error : ProviderError) (phase : CallPhase) : Prop :=
  if error.ambiguous then
    ¬ phase.IsSettled ∨ phase = .reconciling ∧ ∃ typeName, error = reconcileError typeName
  else phase.Done

end CallPhase

/-- How far the last call of a slot has got. -/
def World.phase (w : World) (stage : Stage) (provider : Str) : CallPhase :=
  (w.actionsOf stage provider).foldl CallPhase.next .idle

/-! ### One more action -/

section Record
variable {w : World} {a : Action} {stage : Stage} {provider : Str}

/-- The actions of a slot are those there were and the new one, if it is for this slot. -/
theorem actionsOf_record (w : World) (a : Action) (stage : Stage) (provider : Str) :
    (w.record a).actionsOf stage provider =
      w.actionsOf stage provider ++ if a.isOf stage provider then [a] else [] := by
  unfold World.actionsOf
  rw [World.record_trace, List.filter_append]
  by_cases h : a.isOf stage provider = true <;> simp [h]

/-- An action for another slot does not change the actions of this one. -/
theorem actionsOf_record_of_not (h : a.isOf stage provider = false) :
    (w.record a).actionsOf stage provider = w.actionsOf stage provider := by
  rw [actionsOf_record, h]
  simp

/-- An action is one of a slot when it is part of a call of that slot. -/
theorem isOf_eq_true : a.isOf stage provider = true ↔
    ∃ call, a.call? = some call ∧ call.stage = stage ∧ call.provider = provider := by
  unfold Action.isOf Call.slot
  cases a.call? <;> simp

/-- An action of a slot's call takes its phase one step on. -/
theorem phase_record (h : a.isOf stage provider = true) :
    (w.record a).phase stage provider = (w.phase stage provider).next a := by
  unfold World.phase
  rw [actionsOf_record, h, if_pos rfl, List.foldl_append]
  rfl

/-- A start adds to the starts of its slot, and nothing else does. -/
theorem startsOf_record (h : a.isOf stage provider = true) :
    (w.record a).startsOf stage provider = w.startsOf stage provider ++ a.start?.toList := by
  unfold World.startsOf
  rw [actionsOf_record, h, if_pos rfl, List.filterMap_append]
  rfl

end Record

/-- The actions of a slot determine its phase and its starts. -/
theorem phase_congr {w w' : World} {stage : Stage} {provider : Str}
    (h : w'.actionsOf stage provider = w.actionsOf stage provider) :
    w'.phase stage provider = w.phase stage provider := by
  unfold World.phase
  rw [h]

/-- The starts of a slot are read off its actions. -/
theorem startsOf_congr {w w' : World} {stage : Stage} {provider : Str}
    (h : w'.actionsOf stage provider = w.actionsOf stage provider) :
    w'.startsOf stage provider = w.startsOf stage provider := by
  unfold World.startsOf
  rw [h]

/-! ### Calls in progress -/

/-- A call is in progress: its slot is running, started by this resume and for this
call, and has got as far as a phase. -/
structure InCall (w : World) (call : Call) (phase : CallPhase → Prop) : Prop where
  running : ∃ r, w.store.slot call.stage call.provider = some r ∧ r.state = .running ∧
    r.id ∈ w.live
  last : ∃ before, (w.startsOf call.stage call.provider).getLast? = some (call, before)
  phase : phase (w.phase call.stage call.provider)

/-- The number a gate is given for a call: how often its slot was started. -/
def Store.reservationAttempt (st : Store) (r : Invocation) : ℕ :=
  r.callCount + st.notDispatchedCount r.stage r.provider

/-- When the gate may be asked, and may have answered. -/
structure ReserveOk (w : World) (call : Call) (phase : CallPhase → Prop) (attempt : ℕ) : Prop
    extends InCall w call phase where
  attempt : ∀ r, w.store.slot call.stage call.provider = some r →
    attempt = w.store.reservationAttempt r

end CouncilLogic
