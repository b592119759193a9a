/-
# The synthesis chain never goes back

The transitions of a run only grow, whatever ends its processes.  A slot that a transition
left is not called again, at most the current slot has succeeded, and the transitions the
engine wrote pass the engine's own check on every later resume.

The transitions are the events that `_persist_synthesis_fallback_event` of
`src/model_council/engine.py` writes, and the check is `_load_synthesis_fallback_state`, which
every resume makes.
-/

import CouncilLogic.Engine.Follow
import CouncilLogic.Guarantees.Quorum

namespace CouncilLogic

open Protocol

variable {rt : Runtime} {spec : RunSpec} {st : Store} {w w' : World}

/-! ### The transitions only grow -/

/-- The transitions of two logs are those of the one and then those of the other. -/
theorem fallbackEvents_append (events more : List Event) :
    fallbackEvents (events ++ more) = fallbackEvents events ++ fallbackEvents more :=
  List.filter_append ..

/-- One move adds a transition at the end, or none. -/
theorem RunMove.fallbackEvents_prefix (h : RunMove rt spec w w') (hwf : w.store.WellFormed) :
    fallbackEvents w.store.events <+: fallbackEvents w'.store.events := by
  have happend : ∀ more, fallbackEvents w.store.events <+:
      fallbackEvents (w.store.events ++ more) := fun more => by
    rw [fallbackEvents_append]
    exact List.prefix_append _ _
  rcases h with h | rfl
  · cases h with
    | stage _ s names hs => rw [fallbackEvents_congr (hs.keeps hwf).locks]
    | audit => exact happend _
    | status => exact List.prefix_rfl
    | marker => exact happend _
    | lockNamespace => exact happend _
    | lockAdjudication => exact happend _
    | adjudicate => exact List.prefix_rfl
    | advance => exact happend _
    | finish => exact happend _
  · exact List.prefix_rfl

/-- Transitions are added and never taken away. -/
theorem Run.fallbackEvents_prefix (h : Run rt spec w)
    (hsteps : Relation.ReflTransGen (RunMove rt spec) w w') :
    fallbackEvents w.store.events <+: fallbackEvents w'.store.events := by
  induction hsteps with
  | refl => exact List.prefix_rfl
  | tail hinit hlast ih =>
    exact ih.trans (hlast.fallbackEvents_prefix (h.trans hinit).inv.wellFormed)

/-! ### One slot at a time -/

/-- A slot the chain has left is not the slot it has come to. -/
theorem current_ne_left (hacc : spec.config.Accepted) {n i : ℕ} {name : Str} (hi : i < n)
    (hleft : spec.config.synthesisProviders[i]? = some name) :
    spec.config.synthesisProviders[n]? ≠ some name := by
  intro hcurrent
  have := getElem?_inj_of_nodup hacc.synthesis_nodup hleft hcurrent
  omega

/-- The actions that start an invocation or call its provider. -/
def Action.calls (name : Str) : Action → Prop
  | .started call _ => call.stage = .synthesis ∧ call.provider = name
  | .generate call _ => call.stage = .synthesis ∧ call.provider = name
  | _ => False

/-- A synthesis slot that has not failed is the current one. -/
theorem Store.Chain.current (h : st.Chain rt spec) {name : Str} {r : Invocation}
    (hslot : st.slot .synthesis name = some r) (hstate : ∀ e, r.state ≠ .failed e) :
    spec.config.synthesisProviders[(fallbackEvents st.events).length]? = some name := by
  obtain ⟨i, hi⟩ := List.mem_iff_getElem?.1 (h.reached name r hslot).2
  rw [List.getElem?_take] at hi
  split at hi
  · rename_i hlt
    rcases Nat.lt_succ_iff_lt_or_eq.1 hlt with hleft | rfl
    · obtain ⟨e, he⟩ : ∃ e, (fallbackEvents st.events)[i]? = some e :=
        ⟨_, List.getElem?_eq_getElem hleft⟩
      obtain ⟨fromProvider, toProvider, error, hfrom, -, -, hfailed⟩ := h.transitions i e he
      rw [hi, Option.some.injEq] at hfrom
      subst hfrom
      exact absurd (hfailed r hslot) (hstate error)
    · exact hi
  · cases hi

/-- **Only the current slot is called.** -/
theorem Happened.synthesis_current {name : Str} {a : Action} {w₀ : World}
    (h : Happened rt spec a w₀ w) (ha : a.calls name) :
    spec.config.synthesisProviders[(fallbackEvents w₀.store.events).length]? = some name := by
  cases a with
  | started call before =>
    obtain ⟨hstage, rfl⟩ := ha
    have hphase := h.started.2.phase
    rw [hstage] at hphase
    exact hphase.2
  | generate call before =>
    obtain ⟨hstage, rfl⟩ := ha
    obtain ⟨r, hslot, hrunning, -⟩ := h.generated.2.running
    rw [hstage] at hslot
    exact h.run.inv.chain.current hslot fun e he => by rw [hrunning] at he; cases he
  | _ => exact ha.elim

/-! ### The check of the transitions -/

/-- The error a transition carries is read back as it was stored. -/
theorem readTransitionError_canon (position : ℕ) (fromProvider toProvider : Str)
    (error : ProviderError) :
    readTransitionError (Dict.canon (fallbackPayload position fromProvider toProvider
      (failureOf .synthesis fromProvider error.toDict))) = .ok error.stored := by
  have hfailure : field (Dict.canon (fallbackPayload position fromProvider toProvider
      (failureOf .synthesis fromProvider error.toDict))) (lit "failure") =
      .obj error.stored := by
    unfold field
    rw [Dict.get?_canon_eq]
    simp only [fallbackPayload, Dict.get?_cons, lit_inj, String.reduceEq, if_false, if_true,
      Option.map_some, Option.getD_some, errorOfFailure_failureOf (reports_self error),
      Dict.canon_obj, ProviderError.stored]
  have hkeys : Dict.hasKeys error.stored providerErrorFields = true := by
    rw [ProviderError.stored, hasKeys_canon, ← ProviderError.keys_toDict error]
    exact hasKeys_self _
  have hget : ∀ key, Dict.get? error.stored key = (Dict.get? error.toDict key).map Json.canon :=
    fun key => Dict.get?_canon_eq _ _
  unfold readTransitionError
  rw [hfailure]
  dsimp only
  rw [hget, hget, hget]
  simp only [ProviderError.toDict, Dict.get?_cons, lit_inj, String.reduceEq, if_false, if_true,
    Option.map_some, Json.canon]
  rw [if_neg]
  rw [hkeys, hget, Dict.get?_canon_eq, Dict.get?_canon_eq]
  simp [ProviderError.toDict, fallbackPayload, Dict.get?_cons, field, failureOf, Json.canon]

/-- A transition the slot accounts for passes the check. -/
theorem checkTransition_ok {i : ℕ} {fromProvider toProvider : Str} {error : ProviderError}
    (hfrom : spec.config.synthesisProviders[i]? = some fromProvider)
    (hto : spec.config.synthesisProviders[i + 1]? = some toProvider)
    (hslot : ∀ r, st.slot .synthesis fromProvider = some r → r.state = .failed error) :
    ∃ failure, checkTransition spec.config st (i + 1)
      (Dict.canon (fallbackPayload (i + 1) fromProvider toProvider
        (failureOf .synthesis fromProvider error.toDict))) = .ok failure := by
  have hkeys : Dict.hasKeys (Dict.canon (fallbackPayload (i + 1) fromProvider toProvider
      (failureOf .synthesis fromProvider error.toDict))) fallbackKeys = true := by
    rw [hasKeys_canon]
    exact hasKeys_self _
  have hsame : Json.same (.obj error.toDict) (.obj error.stored) = true := by
    unfold Json.same
    rw [Dict.canon_obj, Dict.canon_obj, ProviderError.stored, Dict.canon_canon]
    exact beq_self_eq_true _
  have hcategory : (some (Json.str error.category.value)) ∈
      ErrorCategory.all.map (fun c => some (Json.str c.value)) :=
    List.mem_map.2 ⟨error.category, error.category.mem_all, rfl⟩
  unfold checkTransition
  rw [if_neg (by rw [hkeys]; simp), Nat.add_sub_cancel, hfrom, hto]
  dsimp only
  rw [if_neg, if_neg, readTransitionError_canon]
  · cases hrow : st.slot .synthesis fromProvider with
    | none => exact ⟨_, rfl⟩
    | some r =>
      refine ⟨failureOf .synthesis fromProvider error.stored, ?_⟩
      simp only [hslot r hrow, bind, Except.bind]
      exact if_pos hsame
  · rw [Dict.get?_canon_eq]
    simpa [fallbackPayload, Dict.get?_cons, field, failureOf, ProviderError.toDict, Json.canon]
      using hcategory
  · simp only [Dict.get?_canon_eq]
    simp [fallbackPayload, Dict.get?_cons, field, failureOf, ProviderError.toDict, Json.canon,
      Json.isOne]

/-- The transitions of a chain pass the check, each at its own position. -/
theorem checkTransitions_ok (events : List Event) :
    ∀ position, (∀ i e, events[i]? = some e →
      ∃ failure, checkTransition spec.config st (position + i) e.payload = .ok failure) →
    ∃ failures, checkTransitions spec.config st position events = .ok failures ∧
      failures.length = events.length := by
  induction events with
  | nil => exact fun _ _ => ⟨[], rfl, rfl⟩
  | cons e events ih =>
    intro position h
    obtain ⟨failure, hfailure⟩ := h 0 e rfl
    obtain ⟨failures, hfailures, hlength⟩ := ih (position + 1) fun i e' he' => by
      rw [Nat.add_right_comm, Nat.add_assoc]
      exact h (i + 1) e' he'
    rw [Nat.add_zero] at hfailure
    refine ⟨failure :: failures, ?_, by rw [List.length_cons, hlength, List.length_cons]⟩
    unfold checkTransitions
    rw [hfailure, hfailures]
    rfl

/-- The transitions of a chain pass the check, one failure for each. -/
theorem Store.Chain.checkTransitions_ok (h : st.Chain rt spec) :
    ∃ failures, checkTransitions spec.config st 1 (fallbackEvents st.events) = .ok failures ∧
      failures.length = (fallbackEvents st.events).length := by
  refine CouncilLogic.checkTransitions_ok _ 1 fun i e he => ?_
  obtain ⟨fromProvider, toProvider, error, hfrom, hto, hpayload, hslot⟩ := h.transitions i e he
  rw [hpayload, Nat.add_comm]
  exact checkTransition_ok hfrom hto hslot

/-- The position of a slot of the chain that has succeeded is the current one. -/
theorem Store.Chain.successfulPositions_cases (h : st.Chain rt spec) (hwf : st.WellFormed)
    (hacc : spec.config.Accepted) :
    successfulPositions spec.config st = [] ∨
      successfulPositions spec.config st = [(fallbackEvents st.events).length + 1] := by
  unfold successfulPositions
  generalize hrows : st.invocations.filter _ = rows
  have hcurrent : ∀ r ∈ rows, r.stage = .synthesis ∧
      spec.config.synthesisProviders[(fallbackEvents st.events).length]? = some r.provider := by
    intro r hr
    simp only [← hrows, List.mem_filter, Bool.and_eq_true, decide_eq_true_eq] at hr
    obtain ⟨hmem, ⟨hstage, -⟩, hsucceeded⟩ := hr
    have hslot := hwf.slot_of_mem hmem
    rw [hstage] at hslot
    refine ⟨hstage, h.current hslot fun e he => ?_⟩
    rw [he] at hsucceeded
    cases hsucceeded
  have hunique : Rows.Unique Invocation.slot rows := by
    rw [← hrows]
    exact (List.filter_sublist.map _).nodup hwf.slots
  rcases rows with _ | ⟨r, _ | ⟨r', rows⟩⟩
  · exact .inl rfl
  · obtain ⟨-, hr⟩ := hcurrent r List.mem_cons_self
    obtain ⟨hlt, hr⟩ := List.getElem?_eq_some_iff.1 hr
    refine .inr ?_
    rw [List.map_singleton, ← hr, List.Nodup.idxOf_getElem hacc.synthesis_nodup]
  · obtain ⟨hs, hp⟩ := hcurrent r List.mem_cons_self
    obtain ⟨hs', hp'⟩ := hcurrent r' (List.mem_cons_of_mem _ List.mem_cons_self)
    rw [hp, Option.some.injEq] at hp'
    exact absurd (by simp [Invocation.slot, hs, hs', hp'])
      (List.nodup_cons.1 hunique).1

/-- **The engine's own transitions pass its check.** -/
theorem Store.Chain.loadSynthesisFallbackState_ok (h : st.Chain rt spec) (hwf : st.WellFormed)
    (hacc : spec.config.Accepted) :
    ∃ failures, loadSynthesisFallbackState spec.config st st.events =
        .ok ((fallbackEvents st.events).length + 1, failures) ∧
      failures.length = (fallbackEvents st.events).length := by
  obtain ⟨failures, hfailures, hlength⟩ := h.checkTransitions_ok
  refine ⟨failures, ?_, hlength⟩
  unfold loadSynthesisFallbackState
  simp only [hfailures, bind, Except.bind]
  rcases h.successfulPositions_cases hwf hacc with hp | hp
  · rw [hp]
  · rw [hp]
    exact if_pos rfl

/-! ### The answer -/

/-- A stored result that says `completed` answers with the response of the current slot,
and names its provider. -/
def Store.AnswerBacked (st : Store) : Prop :=
  ∀ result, st.run.result = some result →
    result.get? (lit "status") = some (.str (lit "completed")) →
      ∃ name response summary, st.successful .synthesis name = some response ∧
        result.get? (lit "answer") = some (.str response.content) ∧
        result.get? (lit "synthesis") = some (.obj summary) ∧
        Dict.get? summary (lit "selected_provider") = some (.str name)

/-- The summary selects the slot of the chain that has succeeded. -/
theorem Store.Chain.synthesisSummary_selected (h : st.Chain rt spec) {name : Str}
    (hmem : name ∈ spec.config.synthesisProviders) {response : ProviderResponse}
    (hs : st.successful .synthesis name = some response) (failures : List Dict) :
    (synthesisSummary spec.config st failures).selectedProvider = some name := by
  have hcurrent : ∀ other, (st.successful .synthesis other).isSome = true →
      spec.config.synthesisProviders[(fallbackEvents st.events).length]? = some other := by
    intro other hother
    obtain ⟨response', hs'⟩ := Option.isSome_iff_exists.1 hother
    obtain ⟨r, hslot, hstate⟩ := Store.successful_eq_some.1 hs'
    exact h.current hslot fun e he => by rw [hstate] at he; cases he
  show spec.config.synthesisProviders.find? (fun other =>
    (st.successful .synthesis other).isSome) = _
  cases hfind : spec.config.synthesisProviders.find? fun other =>
      (st.successful .synthesis other).isSome with
  | none =>
    have := List.find?_eq_none.1 hfind name hmem
    rw [hs] at this
    exact absurd rfl this
  | some other =>
    have hsucceeded := List.find?_some hfind
    have hother := hcurrent other hsucceeded
    rw [hcurrent name (by rw [hs]; rfl)] at hother
    exact hother.symm

/-- The answer of a result and its summary of the synthesis are those of its parts. -/
theorem buildResult_answer {p : ResultParts} {result : Dict}
    (h : buildResult rt spec.config spec st p = .ok result) :
    result.get? (lit "answer") = some (optStr p.answer) ∧
      result.get? (lit "synthesis") =
        some (.obj (synthesisSummary spec.config st p.failures).toDict) := by
  unfold buildResult at h
  simp only [bind, Except.bind] at h
  split at h
  · cases h
  split at h
  · cases h
    exact ⟨rfl, rfl⟩
  · split at h
    · cases h
    cases h
    exact ⟨rfl, rfl⟩

/-- A completed result is answered when it is stored. -/
theorem FinishOk.answerBacked {p : ResultParts} {result : Dict}
    (h : FinishOk rt spec st p result) (hchain : st.Chain rt spec)
    (hstatus : p.status = .completed) :
    ∃ name response summary, st.successful .synthesis name = some response ∧
      result.canon.get? (lit "answer") = some (.str response.content) ∧
      result.canon.get? (lit "synthesis") = some (.obj summary) ∧
      Dict.get? summary (lit "selected_provider") = some (.str name) := by
  obtain ⟨name, response, hmem, hs, hanswer⟩ := (h.completed hstatus).answered
  have hselected := hchain.synthesisSummary_selected hmem hs p.failures
  refine ⟨name, response, Dict.canon (synthesisSummary spec.config st p.failures).toDict, hs,
    ?_, ?_, ?_⟩
  · rw [Dict.get?_canon_eq, (buildResult_answer h.built).1, hanswer]
    rfl
  · rw [Dict.get?_canon_eq, (buildResult_answer h.built).2]
    exact congrArg some (Dict.canon_obj _)
  · rw [Dict.get?_canon_eq]
    simp only [SynthesisSummary.toDict, hselected, Dict.get?_cons, lit_inj, String.reduceEq,
      if_false, if_true, Option.map_some]
    rfl

/-- Every step keeps completed results answered. -/
theorem EngineStep.answerBacked (h : EngineStep rt spec w w') (hinv : Inv rt spec w)
    (hw : w.store.AnswerBacked) : w'.store.AnswerBacked := by
  have hext : Extends rt spec w.store w'.store := (h.keeps hinv).2
  have hkept : w'.store.run.result = w.store.run.result → w'.store.AnswerBacked := by
    intro hsame result hresult hstatus
    obtain ⟨name, response, summary, hs, hrest⟩ := hw result (hsame ▸ hresult) hstatus
    exact ⟨name, response, summary, hext.successful _ _ _ hs, hrest⟩
  cases h with
  | finish p result' event hopen ok =>
    intro result hresult hstatus
    cases hresult
    rw [Dict.get?_canon_eq, (buildResult_fields ok.built).status] at hstatus
    have hname : p.status.name = lit "completed" := by
      simpa [Json.canon] using hstatus
    exact ok.answerBacked hinv.chain (completed_name hname)
  | stage _ s names hs => exact hkept (by rw [(hs.keeps hinv.wellFormed).run])
  | audit => exact hkept rfl
  | status => exact hkept rfl
  | marker => exact hkept rfl
  | lockNamespace => exact hkept rfl
  | lockAdjudication => exact hkept rfl
  | adjudicate => exact hkept rfl
  | advance => exact hkept rfl

/-- In every state of a run a stored answer is the response of its synthesis slot. -/
theorem Run.answerBacked (h : Run rt spec w) : w.store.AnswerBacked := by
  refine h.induction (P := fun w => w.store.AnswerBacked) ?_ ?_
  · intro eng draws question st hcreate _ result hresult
    obtain ⟨rfl, -⟩ := createRun_ok hcreate
    cases hresult
  · intro w w' _ hinv hmove hw
    rcases hmove with hmove | rfl
    · exact hmove.answerBacked hinv hw
    · exact hw

/-- **The synthesis chain only goes forward.**  From every state of a run on, whatever is
resumed and wherever the processes end, the transitions only grow and a slot that one of
them left is neither started nor called again.  A synthesis that has succeeded is the one
of the current slot, a completed result answers with it and names its provider, and the
engine accepts the transitions it wrote. -/
theorem synthesis_chain {c : Prog.Config World PyErr Question Answer Dict}
    (h : Reachable rt spec c) :
    (∀ c', Prog.Reach (Resumes rt) World.lose c c' →
      fallbackEvents c.state.store.events <+: fallbackEvents c'.state.store.events ∧
      ∀ i name, i < (fallbackEvents c.state.store.events).length →
        spec.config.synthesisProviders[i]? = some name →
        ∀ a ∈ c'.state.trace.drop c.state.trace.length, ¬ a.calls name) ∧
    (∀ name response, c.state.store.successful .synthesis name = some response →
      spec.config.synthesisProviders[(fallbackEvents c.state.store.events).length]? =
        some name) ∧
    c.state.store.AnswerBacked ∧
    ∃ failures, loadSynthesisFallbackState spec.config c.state.store c.state.store.events =
      .ok ((fallbackEvents c.state.store.events).length + 1, failures) := by
  have hinv := h.run.inv
  refine ⟨fun c' hreach => ?_, fun name response hs => ?_, h.run.answerBacked, ?_⟩
  · have hsteps := h.later hreach
    refine ⟨h.run.fallbackEvents_prefix hsteps, fun i name hi hleft a ha hcalls => ?_⟩
    obtain ⟨w₀, hsince, hhappened⟩ := h.run.happened_since hsteps ha
    have hgrown := (h.run.fallbackEvents_prefix hsince).length_le
    exact current_ne_left hinv.accepted (hi.trans_le hgrown) hleft
      (hhappened.synthesis_current hcalls)
  · obtain ⟨r, hslot, hstate⟩ := Store.successful_eq_some.1 hs
    exact hinv.chain.current hslot fun e he => by rw [hstate] at he; cases he
  · obtain ⟨failures, hloaded, -⟩ :=
      hinv.chain.loadSynthesisFallbackState_ok hinv.wellFormed hinv.accepted
    exact ⟨failures, hloaded⟩

/-- In the completed council the provider in front has filtered its answer, so the chain has
advanced once: the provider in front is never called again, the answer is the one of the
fallback provider, the result is answered with it, and the transition is accepted. -/
theorem synthesis_chain_example : ∃ c : Prog.Config World PyErr Question Answer Dict,
    Reachable exampleRuntime councilSpec c ∧
      (fallbackEvents c.state.store.events).length = 1 ∧
      (∀ c', Prog.Reach (Resumes exampleRuntime) World.lose c c' →
        ∀ a ∈ c'.state.trace.drop c.state.trace.length, ¬ a.calls (lit "solo")) ∧
      (∃ response, c.state.store.successful .synthesis (lit "duo") = some response) ∧
      (∀ name response, c.state.store.successful .synthesis name = some response →
        name = lit "duo") ∧
      (∃ result, c.state.store.run.result = some result ∧
        ∃ name response summary, c.state.store.successful .synthesis name = some response ∧
          result.get? (lit "answer") = some (.str response.content) ∧
          result.get? (lit "synthesis") = some (.obj summary) ∧
          Dict.get? summary (lit "selected_provider") = some (.str name)) ∧
      ∃ failures, loadSynthesisFallbackState councilSpec.config c.state.store
        c.state.store.events = .ok (2, failures) := by
  obtain ⟨council⟩ := exists_council
  obtain ⟨result, p, hbuilt, hreach⟩ := council.reachable_finished
  obtain ⟨hforward, hcurrent, hanswer, failures, hloaded⟩ := synthesis_chain hreach
  have hadvanced : (fallbackEvents (council.finished result).store.events).length = 1 := by
    rw [council.finished_store]
    rfl
  have hfallback : (council.finished result).store.successful .synthesis (lit "duo") =
      some (answeredBy Council.answerText) := by
    rw [council.finished_store]
    rfl
  have hbuilt : buildResult exampleRuntime councilSpec.config councilSpec council.answered.store
      council.parts = .ok result := hbuilt
  have hfields := buildResult_fields hbuilt
  have hstatus : result.canon.get? (lit "status") = some (.str (lit "completed")) := by
    rw [Dict.get?_canon_eq, hfields.status]
    rfl
  have hresult : (council.finished result).store.run.result = some result.canon := rfl
  -- nothing else of this world is needed, and unfolding it is long
  generalize council.finished result = w at *
  refine ⟨_, hreach, hadvanced, fun c' hc' => ?_, ⟨_, hfallback⟩, fun name response hs => ?_,
    ⟨_, hresult, hanswer _ hresult hstatus⟩, failures, ?_⟩
  · refine (hforward c' hc').2 0 (lit "solo") ?_ rfl
    show 0 < (fallbackEvents w.store.events).length
    rw [hadvanced]
    exact one_pos
  · have hname : councilSpec.config.synthesisProviders[(fallbackEvents w.store.events).length]? =
        some name := hcurrent name response hs
    rw [hadvanced] at hname
    exact (Option.some.inj hname).symm
  · have hloaded : loadSynthesisFallbackState councilSpec.config w.store w.store.events =
        .ok ((fallbackEvents w.store.events).length + 1, failures) := hloaded
    rw [hadvanced] at hloaded
    exact hloaded

end CouncilLogic
