/-
# What the store's methods do

One inversion lemma for each method that touches an invocation, and the laws of the
three changes they come down to: a row is inserted, a row is updated, a row is
deleted.  A change is seen through three readings: the row of a slot, the number of
calls, and whether a provider is ambiguous.

The methods are those of `CouncilStore` in `src/model_council/store.py`, for one run; their
inversion lemmas list everything that a method can do, guards included, and are what every later
module cites in place of the definitions.  The last part of the module is about raising: which
errors and responses `finish_invocation_failure` and `finish_invocation_success` can write at all.
-/

import CouncilLogic.Engine.Stage
import CouncilLogic.Json.Storable
import Mathlib.Algebra.Order.BigOperators.Group.List

namespace CouncilLogic
namespace Store

variable {rt : Runtime} {st st' : Store}

/-- What every reachable store satisfies: ids and slots are unique, and the next id is
fresh. -/
structure WellFormed (st : Store) : Prop where
  ids : Rows.Unique Invocation.id st.invocations
  slots : Rows.Unique Invocation.slot st.invocations
  fresh : ∀ r ∈ st.invocations, r.id < st.nextId

/-- **The row of a slot** is the one row with its stage and its provider. -/
theorem WellFormed.slot_eq_some (h : st.WellFormed) {stage : Stage} {provider : Str}
    {r : Invocation} :
    st.slot stage provider = some r ↔
      r ∈ st.invocations ∧ r.stage = stage ∧ r.provider = provider := by
  unfold slot
  rw [Rows.find_eq_some h.slots]
  simp [Invocation.slot]

/-- Every row is the row of its slot. -/
theorem WellFormed.slot_of_mem (h : st.WellFormed) {r : Invocation} (hr : r ∈ st.invocations) :
    st.slot r.stage r.provider = some r :=
  h.slot_eq_some.2 ⟨hr, rfl, rfl⟩

/-- The row of a slot is a row of the store. -/
theorem mem_of_slot {stage : Stage} {provider : Str} {r : Invocation}
    (h : st.slot stage provider = some r) : r ∈ st.invocations :=
  List.mem_of_find?_eq_some h

/-- The row of a slot has its stage and its provider. -/
theorem slot_fields {stage : Stage} {provider : Str} {r : Invocation}
    (h : st.slot stage provider = some r) : r.stage = stage ∧ r.provider = provider := by
  have := List.find?_some h
  simpa [Invocation.slot] using this

/-- The row of an id is the one row that has it. -/
theorem WellFormed.getInvocation_eq_some (h : st.WellFormed) {id : ℕ} {r : Invocation} :
    st.getInvocation id = some r ↔ r ∈ st.invocations ∧ r.id = id :=
  Rows.find_eq_some h.ids

/-- The row of an id is a row of the store, and has the id. -/
theorem mem_of_getInvocation {id : ℕ} {r : Invocation} (h : st.getInvocation id = some r) :
    r ∈ st.invocations ∧ r.id = id := by
  refine ⟨List.mem_of_find?_eq_some h, ?_⟩
  simpa using List.find?_some h

/-- A slot has succeeded when its row has. -/
theorem successful_eq_some {stage : Stage} {provider : Str} {response : ProviderResponse} :
    st.successful stage provider = some response ↔
      ∃ r, st.slot stage provider = some r ∧ r.state = .succeeded response := by
  unfold successful
  cases st.slot stage provider with
  | none => simp
  | some r => cases hs : r.state <;> simp [hs]

/-- A provider is ambiguous when one of its slots is running or has failed
ambiguously. -/
theorem WellFormed.isAmbiguous_iff (h : st.WellFormed) {provider : Str} :
    st.isAmbiguous provider = true ↔
      ∃ stage r, st.slot stage provider = some r ∧
        (r.state = .running ∨ r.failedAmbiguous = true) := by
  unfold isAmbiguous
  rw [List.any_eq_true]
  constructor
  · rintro ⟨r, hr, hrp⟩
    simp only [Bool.and_eq_true, decide_eq_true_eq, Bool.or_eq_true] at hrp
    exact ⟨r.stage, r, h.slot_eq_some.2 ⟨hr, rfl, hrp.1⟩, hrp.2⟩
  · rintro ⟨stage, r, hslot, hrp⟩
    obtain ⟨hr, -, hp⟩ := h.slot_eq_some.1 hslot
    exact ⟨r, hr, by simp [hp, hrp]⟩

/-! ### Changes of one row -/

/-- A new running row. -/
def insertRow (st : Store) (r : Invocation) : Store :=
  { st with invocations := st.invocations ++ [r], nextId := st.nextId + 1 }

/-- The rows without an id. -/
def deleteRow (st : Store) (id : ℕ) : Store :=
  { st with invocations := st.invocations.filter fun r => r.id ≠ id }

/-- The store with other events. -/
def withEvents (st : Store) (events : List Event) : Store := { st with events := events }

@[simp] theorem withEvents_invocations (events : List Event) :
    (st.withEvents events).invocations = st.invocations := rfl
@[simp] theorem withEvents_events (events : List Event) :
    (st.withEvents events).events = events := rfl
@[simp] theorem withEvents_run (events : List Event) : (st.withEvents events).run = st.run := rfl
@[simp] theorem withEvents_nextId (events : List Event) :
    (st.withEvents events).nextId = st.nextId := rfl
/-- Other events leave the rows as they are. -/
@[simp] theorem slot_withEvents (events : List Event) (stage : Stage) (provider : Str) :
    (st.withEvents events).slot stage provider = st.slot stage provider := rfl
/-- Other events leave the number of calls as it is. -/
@[simp] theorem countCalls_withEvents (events : List Event) :
    (st.withEvents events).countCalls = st.countCalls := rfl
/-- Other events leave the ambiguous providers as they are. -/
@[simp] theorem isAmbiguous_withEvents (events : List Event) (provider : Str) :
    (st.withEvents events).isAmbiguous provider = st.isAmbiguous provider := rfl
/-- Other events leave the rows of the ids as they are. -/
@[simp] theorem getInvocation_withEvents (events : List Event) (id : ℕ) :
    (st.withEvents events).getInvocation id = st.getInvocation id := rfl

@[simp] theorem insertRow_events (r : Invocation) : (st.insertRow r).events = st.events := rfl
@[simp] theorem insertRow_run (r : Invocation) : (st.insertRow r).run = st.run := rfl
@[simp] theorem deleteRow_events (id : ℕ) : (st.deleteRow id).events = st.events := rfl
@[simp] theorem deleteRow_run (id : ℕ) : (st.deleteRow id).run = st.run := rfl
@[simp] theorem deleteRow_nextId (id : ℕ) : (st.deleteRow id).nextId = st.nextId := rfl
@[simp] theorem updateInvocation_events (id : ℕ) (f : Invocation → Invocation) :
    (st.updateInvocation id f).events = st.events := rfl
@[simp] theorem updateInvocation_run (id : ℕ) (f : Invocation → Invocation) :
    (st.updateInvocation id f).run = st.run := rfl
@[simp] theorem updateInvocation_nextId (id : ℕ) (f : Invocation → Invocation) :
    (st.updateInvocation id f).nextId = st.nextId := rfl

/-- Other events leave the store well formed. -/
theorem WellFormed.withEvents (h : st.WellFormed) (events : List Event) :
    (st.withEvents events).WellFormed :=
  ⟨h.ids, h.slots, h.fresh⟩

/-- A row of a new slot with the next id. -/
theorem WellFormed.insertRow (h : st.WellFormed) {r : Invocation} (hid : r.id = st.nextId)
    (hslot : st.slot r.stage r.provider = none) : (st.insertRow r).WellFormed where
  ids := h.ids.append fun a ha => by
    have := h.fresh a ha
    omega
  slots := h.slots.append fun a ha => Rows.find_eq_none.1 hslot a ha
  fresh := by
    intro a ha
    have hnext : (st.insertRow r).nextId = st.nextId + 1 := rfl
    rcases List.mem_append.1 ha with ha | ha
    · have := h.fresh a ha
      omega
    · rw [List.mem_singleton] at ha
      subst ha
      omega

/-- A row that is inserted is the row of its slot; other slots keep theirs. -/
theorem slot_insertRow {r : Invocation} (hslot : st.slot r.stage r.provider = none)
    (stage : Stage) (provider : Str) :
    (st.insertRow r).slot stage provider =
      if r.slot = (stage, provider) then some r else st.slot stage provider :=
  Rows.find_append (fun a ha => Rows.find_eq_none.1 hslot a ha) _

/-- A row that is inserted adds its calls. -/
theorem countCalls_insertRow (r : Invocation) :
    (st.insertRow r).countCalls = st.countCalls + r.callCount := by
  simp [countCalls, insertRow]

/-- A change of a row that keeps its id and its slot. -/
structure KeepsKeys (f : Invocation → Invocation) : Prop where
  id : ∀ r, (f r).id = r.id
  slot : ∀ r, (f r).slot = r.slot

/-- An update that keeps ids and slots leaves the store well formed. -/
theorem WellFormed.updateInvocation (h : st.WellFormed) {f : Invocation → Invocation}
    (hf : KeepsKeys f) (id : ℕ) : (st.updateInvocation id f).WellFormed where
  ids := h.ids.change hf.id
  slots := h.slots.change hf.slot
  fresh := by
    intro r hr
    rcases Rows.mem_change.1 hr with ⟨a, ha, -, rfl⟩ | ⟨ha, -⟩
    · rw [hf.id]
      exact h.fresh a ha
    · exact h.fresh r ha

/-- An updated row is the row of its slot; other slots keep theirs. -/
theorem WellFormed.slot_update (h : st.WellFormed) {f : Invocation → Invocation}
    (hf : KeepsKeys f) {r : Invocation} (hr : r ∈ st.invocations) (stage : Stage)
    (provider : Str) :
    (st.updateInvocation r.id f).slot stage provider =
      if r.slot = (stage, provider) then some (f r) else st.slot stage provider :=
  Rows.find_change h.slots h.ids hr hf.slot _

/-- An updated row is the row of its id; other ids keep theirs. -/
theorem WellFormed.getInvocation_update (h : st.WellFormed) {f : Invocation → Invocation}
    (hf : KeepsKeys f) {r : Invocation} (hr : r ∈ st.invocations) (id : ℕ) :
    (st.updateInvocation r.id f).getInvocation id =
      if r.id = id then some (f r) else st.getInvocation id :=
  Rows.find_change h.ids h.ids hr hf.id _

/-- An update exchanges the calls of its row. -/
theorem WellFormed.countCalls_update (h : st.WellFormed) {f : Invocation → Invocation}
    {r : Invocation} (hr : r ∈ st.invocations) :
    (st.updateInvocation r.id f).countCalls + r.callCount = st.countCalls + (f r).callCount :=
  Rows.sum_change h.ids hr f _

/-- Deleting a row leaves the store well formed. -/
theorem WellFormed.deleteRow (h : st.WellFormed) (id : ℕ) : (st.deleteRow id).WellFormed where
  ids := h.ids.filter _
  slots := h.slots.filter _
  fresh := fun r hr => h.fresh r (List.mem_filter.1 hr).1

/-- The slot of a deleted row has none; other slots keep theirs. -/
theorem WellFormed.slot_delete (h : st.WellFormed) {r : Invocation} (hr : r ∈ st.invocations)
    (stage : Stage) (provider : Str) :
    (st.deleteRow r.id).slot stage provider =
      if r.slot = (stage, provider) then none else st.slot stage provider :=
  Rows.find_delete h.slots h.ids hr _

/-- A deleted row takes its calls with it. -/
theorem WellFormed.countCalls_delete (h : st.WellFormed) {r : Invocation}
    (hr : r ∈ st.invocations) :
    (st.deleteRow r.id).countCalls + r.callCount = st.countCalls :=
  Rows.sum_delete h.ids hr _

/-! ### Inversion of the methods -/

/-- The row with another state. -/
def setState (state : InvocationState) (r : Invocation) : Invocation := { r with state := state }

/-- Finishing a row keeps its id and its slot. -/
theorem keepsKeys_setState (state : InvocationState) : KeepsKeys (setState state) :=
  ⟨fun _ => rfl, fun _ => rfl⟩

/-- A failed row that is called again. -/
def restart (r : Invocation) : Invocation :=
  { r with state := .running, callCount := r.callCount + 1 }

/-- Starting a row again keeps its id and its slot. -/
theorem keepsKeys_restart : KeepsKeys restart := ⟨fun _ => rfl, fun _ => rfl⟩

/-- A row that was called once more, back in its prior state. -/
def restore (e : ProviderError) (callCount : ℕ) (r : Invocation) : Invocation :=
  { r with state := .failed e, callCount := callCount }

/-- Restoring a row keeps its id and its slot. -/
theorem keepsKeys_restore (e : ProviderError) (callCount : ℕ) : KeepsKeys (restore e callCount) :=
  ⟨fun _ => rfl, fun _ => rfl⟩

/-- The row `start_invocation` makes for a slot without one. -/
def newRow (rt : Runtime) (st : Store) (stage : Stage) (provider model lineage prompt : Str) :
    Invocation :=
  ⟨st.nextId, stage, provider, model, lineage, prompt, rt.sha256 prompt, .running, 1⟩

/-- The audit of a retry. -/
def retryAudit (r : Invocation) (prior : ProviderError) : Event :=
  ⟨.providerRetryStarted, Dict.canon (retryEvent r.stage r.provider (r.callCount + 1) prior)⟩

/-- **A start** inserts a first row, returns the id of one that is running or has succeeded, or
starts one again that has failed, with an audit of the retry. -/
theorem startInvocation_ok {stage : Stage} {provider model lineage prompt : Str} {id : ℕ}
    (h : st.startInvocation rt stage provider model lineage prompt = .ok (id, st')) :
    (st.slot stage provider = none ∧ id = st.nextId ∧
        st' = st.insertRow (newRow rt st stage provider model lineage prompt)) ∨
      ∃ r, st.slot stage provider = some r ∧ id = r.id ∧
        r.model = model ∧ r.lineage = lineage ∧ r.promptSha256 = rt.sha256 prompt ∧
        ((∃ e, r.state = .failed e ∧
            st' = (st.updateInvocation r.id restart).withEvents
              (st.events ++ [retryAudit r e])) ∨
          ((∀ e, r.state ≠ .failed e) ∧ st' = st)) := by
  unfold startInvocation at h
  simp only [bind, Except.bind] at h
  split at h
  · cases h
  split at h
  · cases h
  split at h
  · cases h
  split at h
  · cases h
  split at h
  · cases h
  split at h
  case h_1 hslot =>
    cases h
    exact .inl ⟨hslot, rfl, rfl⟩
  case h_2 r hslot =>
    obtain ⟨hstage, hprovider⟩ := slot_fields hslot
    refine .inr ⟨r, hslot, ?_⟩
    split at h
    · cases h
    rename_i hsame
    push Not at hsame
    split at h
    · cases h
      exact ⟨rfl, hsame.1, hsame.2.1, hsame.2.2, .inr ⟨by simp_all, rfl⟩⟩
    · cases h
      exact ⟨rfl, hsame.1, hsame.2.1, hsame.2.2, .inr ⟨by simp_all, rfl⟩⟩
    · rename_i prior hstate
      cases h
      refine ⟨rfl, hsame.1, hsame.2.1, hsame.2.2, .inl ⟨prior, hstate, ?_⟩⟩
      simp only [retryAudit, hstage, hprovider]
      rfl

/-- A blank argument is refused by its name. -/
theorem requiredText_error {name value : Str} {e : PyErr}
    (h : requiredText name value = .error e) :
    e = .valueError (name ++ lit " must be a non-empty string") := by
  unfold requiredText at h
  split at h <;> cases h
  rfl

/-- What `start_invocation` raises for a slot with another input. -/
def differsError : PyErr :=
  .valueError (lit "stage/provider invocation already exists with different input")

/-- It is raised only when the model, the lineage or the digest of the prompt
differs. -/
theorem startInvocation_ne_differs {stage : Stage} {provider model lineage prompt : Str}
    (hslot : ∀ r, st.slot stage provider = some r →
      r.model = model ∧ r.lineage = lineage ∧ r.promptSha256 = rt.sha256 prompt) :
    st.startInvocation rt stage provider model lineage prompt ≠ .error differsError := by
  intro h
  have htext : ∀ name value : Str, requiredText name value = .error differsError →
      name.head? = some 115 ∨ name = [] := by
    intro name value hr
    have he := requiredText_error hr
    rw [differsError, PyErr.valueError, PyErr.valueError, PyErr.mk.injEq] at he
    cases name with
    | nil => exact .inr rfl
    | cons c name =>
      left
      have := congrArg List.head? he.2
      simpa [lit_eq] using this.symm
  unfold startInvocation at h
  simp only [bind, Except.bind] at h
  split at h
  · rename_i hr
    cases h
    exact absurd (htext _ _ hr) (by decide)
  split at h
  · rename_i hr
    cases h
    exact absurd (htext _ _ hr) (by decide)
  split at h
  · rename_i hr
    cases h
    exact absurd (htext _ _ hr) (by decide)
  split at h
  · rename_i hr
    cases h
    exact absurd (htext _ _ hr) (by decide)
  split at h
  · cases h
  split at h
  · cases h
  rename_i r hr
  rw [if_neg (by simpa using hslot r hr)] at h
  split at h <;> cases h

/-- What is stored is the canonical form. -/
theorem dictStore_ok {path : Str} {value value' : Dict}
    (h : Dict.store rt path value = .ok value') : value' = value.canon := by
  unfold Dict.store Dict.encode at h
  simp only [bind, Except.bind] at h
  split at h
  · cases h
  split at h
  · cases h
  split at h <;> cases h
  rfl

/-- An event is appended with its payload's canonical form, and nothing else changes. -/
theorem appendEvent_ok {type : EventType} {payload : Dict}
    (h : st.appendEvent rt type payload = .ok st') :
    st' = st.withEvents (st.events ++ [⟨type, payload.canon⟩]) := by
  unfold appendEvent at h
  simp only [bind, Except.bind] at h
  split at h
  · cases h
  · rename_i hs
    cases h
    rw [dictStore_ok hs]
    rfl

/-- The numbers of an event are printed. -/
theorem appendEvent_dumpable {type : EventType} {payload : Dict}
    (h : st.appendEvent rt type payload = .ok st') :
    Json.dumpableFields payload.canon = true := by
  unfold appendEvent at h
  simp only [bind, Except.bind] at h
  split at h
  · cases h
  · rename_i hs
    exact (Json.dumpable_canon (.obj payload)).trans
      (Dict.dumpable_of_encode (Dict.encode_of_store hs))

/-- **A success** is recorded for a running row, or is the one that the row has already. -/
theorem finishInvocationSuccess_ok {id : ℕ} {response : ProviderResponse}
    (h : st.finishInvocationSuccess rt id response = .ok st') :
    ∃ r, st.getInvocation id = some r ∧
      ((r.state = .running ∧
          st' = st.updateInvocation id (setState (.succeeded (storedResponse response)))) ∨
        ∃ prior, r.state = .succeeded prior ∧ st' = st) := by
  unfold finishInvocationSuccess at h
  simp only [bind, Except.bind] at h
  split at h
  · cases h
  split at h
  · cases h
  split at h
  · cases h
  · rename_i r hr
    refine ⟨r, hr, ?_⟩
    split at h
    · rename_i prior hstate
      split at h <;> cases h
      exact .inr ⟨prior, hstate, rfl⟩
    · cases h
    · rename_i hstate
      split at h <;> cases h
      exact .inl ⟨hstate, rfl⟩

/-- **A failure** is recorded for a running row, or is the one that the row has already. -/
theorem finishInvocationFailure_ok {id : ℕ} {error : ProviderError}
    (h : st.finishInvocationFailure rt id error = .ok st') :
    ∃ r, st.getInvocation id = some r ∧
      ((r.state = .running ∧ st' = st.updateInvocation id (setState (.failed error))) ∨
        ∃ prior, r.state = .failed prior ∧ prior.stored = error.stored ∧ st' = st) := by
  unfold finishInvocationFailure at h
  simp only [bind, Except.bind] at h
  split at h
  · cases h
  rename_i value hvalue
  split at h
  · cases h
  · rename_i r hr
    refine ⟨r, hr, ?_⟩
    split at h
    · rename_i prior hstate
      split at h
      · cases h
      rename_i hsame
      cases h
      refine .inr ⟨prior, hstate, ?_, rfl⟩
      rw [not_not] at hsame
      rw [hsame, dictStore_ok hvalue]
      rfl
    · cases h
    · rename_i hstate
      split at h <;> cases h
      exact .inl ⟨hstate, rfl⟩

/-- The snapshot that a release accepts is one of the same row, one call earlier, when it had
failed unambiguously. -/
theorem priorOfRelease_ok {r prior : Invocation} {callCount : ℕ} {kind : Str}
    {e : ProviderError} (h : st.priorOfRelease r prior = .ok (callCount, kind, e)) :
    prior.id = r.id ∧ prior.slot = r.slot ∧ prior.state = .failed e ∧ e.ambiguous = false ∧
      prior.callCount = callCount ∧ callCount + 1 = r.callCount ∧ 1 ≤ callCount ∧
      (∃ event, st.events.filter (isRetryOf r.stage r.provider r.callCount) = [event] ∧
        event.payload.get? (lit "prior_failure") = some (.obj e.stored)) ∧
      prior.promptText = r.promptText ∧ prior.model = r.model ∧ prior.lineage = r.lineage ∧
      prior.promptSha256 = r.promptSha256 := by
  unfold priorOfRelease at h
  split at h
  · cases h
  rename_i hsame
  push Not at hsame
  obtain ⟨hid, hstage, hprovider, hmodel, hlineage, htext, hsha⟩ := hsame
  split at h
  · cases h
  · cases h
  · rename_i e' hstate
    split at h
    · cases h
    rename_i hcount
    split at h
    · cases h
    rename_i hamb
    have key : callCount = prior.callCount ∧ e = e' ∧
        ∃ event, st.events.filter (isRetryOf r.stage r.provider r.callCount) = [event] ∧
          event.payload.get? (lit "prior_failure") = some (.obj e'.stored) := by
      split at h
      · rename_i event hevent
        split at h
        · cases h
        · rename_i hprior
          split at h
          · split at h <;> cases h
            exact ⟨rfl, rfl, event, hevent, not_not.1 hprior⟩
          · cases h
      · cases h
    obtain ⟨rfl, rfl, haudit⟩ := key
    refine ⟨hid, ?_, hstate, by simpa using hamb, rfl, by omega, by omega, haudit, htext, hmodel,
      hlineage, hsha⟩
    simp [Invocation.slot, hstage, hprovider]

/-- The events after a retry that was not made: its audit is gone, the refusal is
recorded. -/
def releasedEvents (st : Store) (r : Invocation) (payload : Dict) : List Event :=
  (st.events.filter fun e => !isRetryOf r.stage r.provider r.callCount e) ++
    [⟨.providerCallNotDispatched, payload⟩]

/-- The payload of a release names the slot. -/
structure IsRelease (r : Invocation) (payload : Dict) : Prop where
  stage : payload.get? (lit "stage") = some (.str r.stage.name)
  provider : payload.get? (lit "provider") = some (.str r.provider)

/-- The record of a release names the row it was made for. -/
theorem isRelease_notDispatchedEvent (r : Invocation) (error : ProviderError) (attempt : ℤ)
    (prior : Option (ℕ × Str × ProviderError)) :
    IsRelease r (Dict.canon (notDispatchedEvent r error attempt prior)) := by
  have hnd : (Dict.keys (notDispatchedEvent r error attempt prior)).Nodup := by
    simp [Dict.keys, notDispatchedEvent]
  constructor <;> rw [Dict.get?_canon hnd] <;>
    simp [notDispatchedEvent, Dict.get?_cons, Json.canon]

/-- **A release** takes back a first call, with its row, or a retry, with its audit; it is made
for a running row and an unambiguous error only, and leaves its own record. -/
theorem releaseUndispatchedInvocation_ok {id : ℕ} {error : ProviderError} {attempt : ℤ}
    {prior : Option Invocation}
    (h : st.releaseUndispatchedInvocation rt id error attempt prior = .ok st') :
    error.ambiguous = false ∧ ∃ r, st.getInvocation id = some r ∧ r.state = .running ∧
      ((prior = none ∧ r.callCount = 1 ∧ ∃ payload, IsRelease r payload ∧
          st' = (st.deleteRow id).withEvents
            (st.events ++ [⟨.providerCallNotDispatched, payload⟩])) ∨
        ∃ p e payload, prior = some p ∧ p.id = r.id ∧ p.slot = r.slot ∧ p.state = .failed e ∧
          e.ambiguous = false ∧ p.callCount + 1 = r.callCount ∧ 1 ≤ p.callCount ∧
          (∃ event, st.events.filter (isRetryOf r.stage r.provider r.callCount) = [event] ∧
            event.payload.get? (lit "prior_failure") = some (.obj e.stored)) ∧
          IsRelease r payload ∧ st' = (st.updateInvocation id (restore e p.callCount)).withEvents
            (releasedEvents st r payload)) := by
  unfold releaseUndispatchedInvocation at h
  split at h
  · cases h
  rename_i hamb
  split at h
  · cases h
  split at h
  · cases h
  rename_i r hr
  refine ⟨by simpa using hamb, r, hr, ?_⟩
  split at h
  · cases h
  rename_i hrun
  rw [not_not] at hrun
  refine ⟨hrun, ?_⟩
  split at h
  · cases h
  cases prior with
  | none =>
    left
    dsimp only at h
    split at h
    · cases h
    rename_i hcount
    simp only [bind, Except.bind] at h
    split at h
    · cases h
    · rename_i payload hpayload
      cases h
      exact ⟨rfl, not_not.1 hcount, payload,
        dictStore_ok hpayload ▸ isRelease_notDispatchedEvent r error attempt none, rfl⟩
  | some p =>
    right
    dsimp only at h
    simp only [bind, Except.bind] at h
    split at h
    · cases h
    · rename_i v hv
      obtain ⟨callCount, kind, e⟩ := v
      obtain ⟨hid, hslot, hstate, he, hcount, hsucc, hpos, haudit, -⟩ := priorOfRelease_ok hv
      split at h
      · cases h
      · rename_i payload hpayload
        cases h
        refine ⟨p, e, payload, rfl, hid, hslot, hstate, he, by omega, by omega, haudit,
          dictStore_ok hpayload ▸ isRelease_notDispatchedEvent r error attempt _, ?_⟩
        subst hcount
        rfl

/-! ### Errors that can be written -/

end Store

/-- The error can be written to a JSON column. -/
def ProviderError.Encodes (e : ProviderError) : Prop := Dict.encode e.toDict = .ok e.stored

/-- What can keep an error from being written is a text that is not UTF-8, or an integer of
more digits than Python prints. -/
theorem ProviderError.encodes_iff {e : ProviderError} :
    e.Encodes ↔ Json.dumpableFields e.toDict = true ∧ Json.encodableFields e.toDict = true :=
  ⟨fun h => ⟨Dict.dumpable_of_encode h, Dict.encodable_of_encode h⟩,
    fun h => Dict.encode_eq_ok h.1 h.2⟩

/-- The integers of an error fit the columns they are bound to. -/
def ProviderError.Binds (e : ProviderError) : Prop :=
  ∀ n ∈ e.attempts :: e.statusCode.toList, Store.HoldsInteger n

instance (e : ProviderError) : Decidable e.Binds := inferInstanceAs (Decidable (∀ n ∈ _, _))

/-- A row can be failed with the error. -/
structure ProviderError.Fits (e : ProviderError) : Prop where
  encodes : e.Encodes
  binds : e.Binds

namespace Store

variable {rt : Runtime} {st st' : Store}

/-- Integers are bound when each of them fits its column. -/
theorem forM_bindInteger_ok_iff {ns : List ℤ} :
    ns.forM bindInteger = .ok () ↔ ∀ n ∈ ns, HoldsInteger n := by
  induction ns with
  | nil => exact iff_of_true rfl nofun
  | cons n ns ih =>
    rw [List.forall_mem_cons, ← ih]
    show (bindInteger n >>= fun _ => ns.forM bindInteger) = .ok () ↔ _
    unfold bindInteger
    by_cases hn : HoldsInteger n
    · rw [if_pos hn]
      exact (and_iff_right hn).symm
    · rw [if_neg hn]
      exact iff_of_false nofun fun h => hn h.1

/-- A failure is written with its error. -/
theorem finishInvocationFailure_encodes {id : ℕ} {error : ProviderError}
    (h : st.finishInvocationFailure rt id error = .ok st') : error.Encodes := by
  unfold finishInvocationFailure at h
  simp only [bind, Except.bind] at h
  split at h
  · cases h
  · rename_i hvalue
    exact Dict.encode_of_store hvalue

/-- The record of a call that was not made is written with its errors. -/
theorem notDispatchedEvent_encodes {r : Invocation} {error : ProviderError} {attempt : ℤ}
    {prior : Option (ℕ × Str × ProviderError)} {path : Str} {v : Dict}
    (h : Dict.store rt path (notDispatchedEvent r error attempt prior) = .ok v) :
    error.Encodes ∧ ∀ p ∈ prior, p.2.2.Encodes := by
  have hall := Dict.encodable_of_encode (Dict.encode_of_store h)
  have hdumps := Dict.dumpable_of_encode (Dict.encode_of_store h)
  rw [Json.encodableFields_eq_all, List.all_eq_true] at hall
  rw [Json.dumpableFields_eq_all, List.all_eq_true] at hdumps
  constructor
  · have herror := hall (lit "error", .obj error.toDict) (by simp [notDispatchedEvent])
    have hdump := hdumps (lit "error", .obj error.toDict) (by simp [notDispatchedEvent])
    exact ProviderError.encodes_iff.2 ⟨hdump, (Bool.and_eq_true_iff.1 herror).2⟩
  · rintro p rfl
    have hprior := hall (lit "prior_failure", .obj p.2.2.stored) (by simp [notDispatchedEvent])
    have hdump := hdumps (lit "prior_failure", .obj p.2.2.stored) (by simp [notDispatchedEvent])
    exact ProviderError.encodes_iff.2
      ⟨(Json.dumpable_canon (.obj p.2.2.toDict)).symm.trans hdump,
        (Json.encodable_canon (.obj p.2.2.toDict)).symm.trans (Bool.and_eq_true_iff.1 hprior).2⟩

/-- A call is taken back with the refusal, and with the error its row is restored to. -/
theorem releaseUndispatchedInvocation_encodes {id : ℕ} {error : ProviderError} {attempt : ℤ}
    {prior : Option Invocation}
    (h : st.releaseUndispatchedInvocation rt id error attempt prior = .ok st') :
    error.Encodes ∧ ∀ p e, prior = some p → p.state = .failed e → e.Encodes := by
  unfold releaseUndispatchedInvocation at h
  split at h
  · cases h
  split at h
  · cases h
  split at h
  · cases h
  rename_i r hr
  split at h
  · cases h
  split at h
  · cases h
  cases prior with
  | none =>
    dsimp only at h
    split at h
    · cases h
    simp only [bind, Except.bind] at h
    split at h
    · cases h
    · rename_i hpayload
      have hencodes := notDispatchedEvent_encodes hpayload
      refine ⟨hencodes.1, ?_⟩
      rintro p e ⟨⟩
  | some prior =>
    simp only [bind, Except.bind] at h
    split at h
    · cases h
    rename_i v hv
    obtain ⟨callCount, kind, e'⟩ := v
    obtain ⟨-, -, hstate', -⟩ := priorOfRelease_ok hv
    split at h
    · cases h
    · rename_i hpayload
      obtain ⟨herror, hprior⟩ := notDispatchedEvent_encodes hpayload
      refine ⟨herror, ?_⟩
      rintro p e ⟨⟩ hstate
      rw [hstate'] at hstate
      obtain rfl := InvocationState.failed.inj hstate
      exact hprior _ rfl

/-- Finishing a run writes its status and its result, and one event. -/
theorem finishRun_ok {status : RunStatus} {failureCount : ℕ} {result : Dict}
    (h : st.finishRun rt status failureCount result = .ok st') :
    ∃ event : Dict, st' = { st with
      run := { st.run with status := status, result := some result.canon }
      events := st.events ++ [⟨.runFinished, event⟩] } := by
  unfold finishRun at h
  simp only [bind, Except.bind] at h
  split at h
  · cases h
  · rename_i hs
    cases h
    rw [dictStore_ok hs]
    exact ⟨_, rfl⟩

end Store
end CouncilLogic
