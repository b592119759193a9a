/-
# A repair never changes a vote

A juror's response states one decision, whichever way it is read.  The ballots that a locked
vote counts have the decisions that the jurors' own first responses state, and the repair of a
response that does not parse is sent to its juror once in the life of a run at most.

The two ways are those of `_parse_and_repair_juries` in `src/model_council/engine.py`: by
`parse_jury`, or by `jury_repair_prompts` of `src/model_council/protocol.py` where that raises and
only the prose is wrong.
-/

import CouncilLogic.Engine.DispatchLaws
import CouncilLogic.Guarantees.Quorum
import CouncilLogic.Protocol.Extract

namespace CouncilLogic

open Protocol

variable {rt : Runtime} {spec : RunSpec} {w : World}

/-! ### The decision of a text -/

/-- The decision that a text states about the labels. -/
def statedDecision (rt : Runtime) (labels : List Str) (text : Str) : Except PyErr JuryDecision := do
  let value ← Decode.extractJsonObject rt (lit "jury response") text
  checkKeys juryKeys value
  validateJuryDecision value labels

/-- The object found in a text does not depend on the blanks around it, nor on what the text
is called. -/
theorem extractJsonObject_congr {name name' text text' : Str} {value : Dict}
    (hstrip : Str.strip text' = Str.strip text)
    (h : Decode.extractJsonObject rt name text = .ok value) :
    Decode.extractJsonObject rt name' text' = .ok value := by
  rw [Decode.extractJsonObject_iff] at h ⊢
  cases h with
  | whole hwhole => exact .whole (by rwa [hstrip])
  | sole hsearch hcandidates hsole =>
    exact .sole (by rwa [hstrip]) (by rwa [hstrip]) hsole

/-- **A text states one decision at most.** -/
theorem decides_iff {labels : List Str} {text : Str} {decision : JuryDecision} :
    Decides rt labels text decision ↔ statedDecision rt labels text = .ok decision := by
  unfold statedDecision
  constructor
  · rintro ⟨name, cleaned, value, hcleaned, hvalue, hkeys, hdecision⟩
    have hstrip : Str.strip text = Str.strip cleaned := by
      rcases hcleaned with rfl | rfl
      · rfl
      · rw [Str.strip_strip]
    rw [extractJsonObject_congr hstrip hvalue]
    simp only [bind, Except.bind, hkeys, hdecision]
  · intro h
    simp only [bind, Except.bind] at h
    split at h
    · cases h
    rename_i value hvalue
    split at h
    · cases h
    rename_i hkeys
    exact ⟨_, text, value, .inl rfl, hvalue, hkeys, h⟩

/-! ### One repair -/

/-- A repair is called once at most: a slot that has failed is not started again. -/
theorem SlotMove.repair_calls {provider : Str} {v' : SlotView}
    (h : SlotMove rt spec .juryRepair provider w (w.view .juryRepair provider) v')
    (hv : (w.view .juryRepair provider).calls ≤ 1) : v'.calls ≤ 1 := by
  cases h with
  | same => exact hv
  | act => exact hv
  | first => exact le_rfl
  | again call config r e hslot hconfig ok hrow hstate =>
    rw [Call.slot, Prod.mk.injEq] at hslot
    have hfree := ok.retry.repair hslot.1
    rw [hslot.1, hslot.2] at hfree
    exact absurd (hrow.symm.trans hfree) (by simp)
  | succeed r response hrow =>
    rw [SlotView.calls_of_row hrow] at hv
    exact hv
  | fail r error hrow =>
    rw [SlotView.calls_of_row hrow] at hv
    exact hv
  | cancel => exact Nat.zero_le 1
  | restore r e callCount hrow hrun hlive hphase hpos hcount =>
    rw [SlotView.calls_of_row hrow] at hv
    omega

/-- The repair of a ballot is one call at most, whatever ends the processes. -/
theorem Run.repair_calls (h : Run rt spec w) (provider : Str) :
    (w.view .juryRepair provider).calls ≤ 1 :=
  h.view_induction (P := fun v => v.calls ≤ 1) .juryRepair provider (Nat.zero_le 1)
    fun _ _ _ _ hview hmove hv => by
      subst hview
      exact hmove.repair_calls hv

/-- **A repair is sent once at most.** -/
theorem Run.repair_sent (h : Run rt spec w) (provider : Str) :
    w.dispatched.countP (fun call => call.slot = (.juryRepair, provider)) ≤ 1 := by
  rw [List.countP_eq_length_filter, filter_dispatched, h.generated_eq, List.length_map]
  exact (Nat.le_add_right _ _).trans
    ((h.paid .juryRepair provider).calls.trans (h.repair_calls provider))

/-- The response that a repair is sent for, and what has to be kept of it. -/
structure Repairs (rt : Runtime) (spec : RunSpec) (st : Store) (call : Call)
    (lock : NamespaceLock) (response : ProviderResponse) (decision : JuryDecision) : Prop where
  named : st.namespace? rt spec = some lock
  voted : st.successful .jury call.provider = some response
  rejected : ∃ e, parseJury rt response.content lock.mapping.labels = .error e
  stated : statedDecision rt lock.mapping.labels response.content = .ok decision

/-- The prompts of a repair are those of a response that does not parse and states a
decision. -/
theorem repairs_of_prompts {st : Store} {call : Call} (hstage : call.stage = .juryRepair)
    (h : st.expectedPrompts rt spec call.stage call.provider = some call.prompts) :
    ∃ lock response decision, Repairs rt spec st call lock response decision := by
  rw [hstage] at h
  unfold Store.expectedPrompts at h
  simp only [Option.bind_eq_bind, Option.bind_eq_some_iff] at h
  obtain ⟨marker, -, lock, hlock, response, hresponse, h⟩ := h
  split at h
  · cases h
  · rename_i e hparse
    cases hprompts : juryRepairPrompts rt response.content e.message lock.mapping.labels marker with
    | error e' =>
      rw [hprompts] at h
      cases h
    | ok r =>
      obtain ⟨prompts, decision⟩ := r
      exact ⟨lock, response, decision, hlock, hresponse, ⟨e, hparse⟩,
        decides_iff.1 (decides_of_juryRepairPrompts hprompts)⟩

/-- A repair that was asked for stays one of the ballot it was asked for. -/
theorem Repairs.extends_ {st st' : Store} {call : Call} {lock : NamespaceLock}
    {response : ProviderResponse} {decision : JuryDecision}
    (h : Repairs rt spec st call lock response decision) (hext : Extends rt spec st st') :
    Repairs rt spec st' call lock response decision where
  named := hext.candidateNamespace _ h.named
  voted := hext.successful _ _ _ h.voted
  rejected := h.rejected
  stated := h.stated

/-- A repair that was sent is one of a stored response that does not parse. -/
theorem Run.repairs (h : Run rt spec w) {call : Call} (hcall : call ∈ w.dispatched)
    (hstage : call.stage = .juryRepair) :
    ∃ lock response decision, Repairs rt spec w.store call lock response decision := by
  obtain ⟨before, hstart, -⟩ := h.dispatched_started hcall
  obtain ⟨a, ha, hstarted⟩ := List.mem_filterMap.1 (mem_dispatchesOf hstart)
  cases a with
  | started call' before' =>
    cases hstarted
    obtain ⟨w₀, hw₀⟩ := h.happened (List.mem_filter.1 ha).1
    obtain ⟨lock, response, decision, hrepairs⟩ :=
      repairs_of_prompts hstage hw₀.started.2.prompts
    exact ⟨lock, response, decision, hrepairs.extends_ (hw₀.run.extends_ hw₀.later)⟩
  | attempt | generate | reserved | granted | released | reconciled | settled | enter | overLimit
  | adjudicated => cases hstarted

/-- **A repair never changes a vote.**  Over all resumes and ends of processes, a repair is sent
to its juror once at most, and only for a stored first response that is rejected but states a
decision; and every valid ballot of the locked vote has the decision that the juror's own first
response states. -/
theorem own_vote {c : Prog.Config World PyErr Question Answer Dict} (h : Reachable rt spec c) :
    (∀ provider,
      c.state.dispatched.countP (fun call => call.slot = (.juryRepair, provider)) ≤ 1) ∧
    (∀ call ∈ c.state.dispatched, call.stage = .juryRepair →
      ∃ lock response decision, Repairs rt spec c.state.store call lock response decision) ∧
    ∀ lock adjudication, c.state.store.namespace? rt spec = some lock →
      c.state.store.adjudication? rt spec = some adjudication →
        ∀ record ∈ adjudication.records, isValidRecord record = true →
          ∃ juror response order artifact,
            c.state.store.successful .jury juror = some response ∧
            statedDecision rt lock.mapping.labels response.content = .ok artifact.decision ∧
            record = Dict.canon (validJuryRecord juror response lock.mapping order artifact) := by
  refine ⟨h.run.repair_sent, fun call hcall hstage => h.run.repairs hcall hstage, ?_⟩
  intro lock adjudication hlock hadjudication record hrecord hvalid
  obtain ⟨juror, response, order, artifact, hvoted, hdecides, heq⟩ :=
    h.run.voteBacked.backed lock adjudication hlock hadjudication record hrecord hvalid
  exact ⟨juror, response, order, artifact, hvoted, decides_iff.1 hdecides, heq⟩

/-- In the council one ballot states no rationale and is repaired: its repair is sent once, for
the stored first response, and both locked ballots have the decisions that the jurors' own
first responses state. -/
theorem own_vote_example : ∃ c : Prog.Config World PyErr Question Answer Dict,
    Reachable exampleRuntime councilSpec c ∧
      c.state.dispatched.countP (fun call => call.slot = (.juryRepair, lit "solo")) = 1 ∧
      (∃ call ∈ c.state.dispatched, call.stage = .juryRepair ∧
        ∃ lock response decision,
          Repairs exampleRuntime councilSpec c.state.store call lock response decision) ∧
      ∀ record ∈ councilRecords.map Dict.canon, isValidRecord record = true →
        ∃ juror response order artifact,
          c.state.store.successful .jury juror = some response ∧
          statedDecision exampleRuntime councilMapping.labels response.content =
            .ok artifact.decision ∧
          record = Dict.canon (validJuryRecord juror response councilMapping order artifact) := by
  obtain ⟨council⟩ := exists_council
  obtain ⟨p, hreach⟩ := council.reachable_adjudicated
  obtain ⟨hsent, hrepairs, hvotes⟩ := own_vote hreach
  obtain ⟨before, hgenerated⟩ := council.repair_sent_adjudicated
  have hcall : councilCall .juryRepair .jury (lit "solo") council.repair ∈
      council.adjudicated.dispatched := List.mem_filterMap.2 ⟨_, hgenerated, rfl⟩
  have hnamespace := toOption_join.2 council.locked_namespace
  have hadjudication : council.adjudicated.store.adjudication? exampleRuntime councilSpec =
      some ⟨councilRecords.map Dict.canon, []⟩ := by
    have hread := toOption_join.2 council.locked_adjudication
    rw [← hnamespace] at hread
    exact hread
  refine ⟨_, hreach, (hsent (lit "solo")).antisymm ?_, ⟨_, hcall, rfl, hrepairs _ hcall rfl⟩,
    hvotes _ _ hnamespace hadjudication⟩
  exact List.countP_pos_iff.2 ⟨_, hcall, decide_eq_true rfl⟩

end CouncilLogic
