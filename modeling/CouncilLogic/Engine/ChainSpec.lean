/-
# The synthesis chain of a resume

A resume walks the synthesis chain from the slot the transitions have come to.  Each
slot it leaves is left by the next transition, with the error that its row has stored;
or the deadline has passed, and nothing is called any more.

The chain is `_run_synthesis_with_fallback` of `src/model_council/engine.py`; its slots are the
configured synthesis providers, in their order.  A transition is persisted before the next
provider is asked, and the position to go on from after a crash is read off the transitions alone.
The proof follows the list of the providers that are left; `Synthesizing` is what a resume has
established before it synthesizes, and every write of the chain keeps it.
-/

import CouncilLogic.Engine.VoteSpec

namespace CouncilLogic

open Protocol

variable {rt : Runtime} {spec : RunSpec} {w w' : World} {marker : Str} {lock : NamespaceLock}
  {adjudication : AdjudicationLock}

/-! ### Transitions -/

/-- A failure has the fields of the error, apart from the stage and the provider that it names. -/
theorem field_failureOf {stage : Stage} {provider key : Str} {error : Dict}
    (hs : key ≠ lit "stage") (hp : key ≠ lit "provider") :
    field (failureOf stage provider error) key = field error key := by
  unfold field failureOf
  rw [Dict.get?_cons, if_neg hs, Dict.get?_cons, if_neg hp]

/-- The error of a failure is read back out of it. -/
theorem errorOfFailure_failureOf {stage : Stage} {provider : Str} {error : Dict}
    {e : ProviderError} (h : Reports error e) :
    errorOfFailure (failureOf stage provider error) = error := by
  obtain ⟨-, hs, hp⟩ := keys_reports h
  unfold errorOfFailure failureOf
  rw [List.filter_cons_of_neg (by simp), List.filter_cons_of_neg (by simp)]
  refine List.filter_eq_self.2 fun f hf => ?_
  have hmem := List.mem_map_of_mem (f := Prod.fst) hf
  simp only [ne_eq, decide_eq_true_eq]
  exact ⟨fun heq => hs (heq ▸ hmem), fun heq => hp (heq ▸ hmem)⟩

/-- A transition is stored alike for an error as it was raised and as it is stored. -/
theorem fallbackPayload_canon {position : ℕ} {fromProvider toProvider : Str} {error : Dict}
    {e : ProviderError} (h : Reports error e) :
    Dict.canon (fallbackPayload position fromProvider toProvider
        (failureOf .synthesis fromProvider error)) =
      Dict.canon (fallbackPayload position fromProvider toProvider
        (failureOf .synthesis fromProvider e.toDict)) := by
  have hnd : (Dict.keys e.toDict).Nodup := by
    rw [ProviderError.keys_toDict]
    simp [providerErrorFields]
  have hfield : ∀ key, (field error key).canon = (field e.toDict key).canon := by
    intro key
    rcases h with rfl | rfl
    · rfl
    · unfold field ProviderError.stored
      rw [Dict.get?_canon hnd]
      cases Dict.get? e.toDict key with
      | none => rfl
      | some v => exact Json.canon_canon v
  have hobj : Json.canon (.obj error) = Json.canon (.obj e.toDict) := by
    rcases h with rfl | rfl
    · rfl
    · rw [Dict.canon_obj, Dict.canon_obj, ProviderError.stored, Dict.canon_canon]
  unfold Dict.canon
  congr 1
  simp only [fallbackPayload, Json.canonFields, errorOfFailure_failureOf h,
    errorOfFailure_failureOf (reports_self e), hobj]
  rw [field_failureOf (by simp) (by simp), field_failureOf (by simp) (by simp),
    field_failureOf (by simp) (by simp), field_failureOf (by simp) (by simp), hfield, hfield]

/-- The payload of a transition has distinct keys. -/
theorem nodup_keys_fallbackPayload (position : ℕ) (fromProvider toProvider : Str)
    (failure : Dict) :
    (Dict.keys (fallbackPayload position fromProvider toProvider failure)).Nodup := by
  have hkeys : Dict.keys (fallbackPayload position fromProvider toProvider failure) =
      fallbackKeys := rfl
  rw [hkeys]
  simp [fallbackKeys]

/-- The transitions of a chain leave the positions before the current one. -/
theorem Store.Chain.from_position {st : Store} (h : st.Chain rt spec) {e : Event}
    (he : e ∈ fallbackEvents st.events) {position : ℕ}
    (hp : e.payload.get? (lit "from_position") = some (.int position)) :
    position ≤ (fallbackEvents st.events).length := by
  obtain ⟨i, hi⟩ := List.mem_iff_getElem?.1 he
  obtain ⟨a, b, error, -, -, hpayload, -⟩ := h.transitions i e hi
  rw [hpayload, Dict.get?_canon (nodup_keys_fallbackPayload _ _ _ _)] at hp
  simp only [fallbackPayload, Dict.get?_cons, lit_inj, String.reduceEq, if_false, if_true,
    Option.map_some, Json.canon, Option.some.injEq, Json.int.injEq] at hp
  have := (List.getElem?_eq_some_iff.1 hi).1
  omega

/-- **Leaving a slot of the chain**: one transition, the next one. -/
theorem persistSynthesisFallbackEvent_spec (hinv : Inv rt spec w) {position : ℕ}
    (hposition : (fallbackEvents w.store.events).length + 1 = position) {name : Str}
    (hname : spec.config.synthesisProviders[position - 1]? = some name) {error : Dict}
    {e : ProviderError} (he : Reports error e)
    (hslot : ∀ r, w.store.slot .synthesis name = some r → r.state = .failed e) :
    Prog.wp (engineRules rt spec)
      (fun _ w' => Inv rt spec w' ∧
        ∃ payload, w' = w.withStore (w.store.addEvent .synthesisFallbackAdvanced payload))
      (fun _ _ => True)
      (persistSynthesisFallbackEvent rt spec.config position (failureOf .synthesis name error))
      w := by
  unfold persistSynthesisFallbackEvent
  rw [hname]
  cases hto : spec.config.synthesisProviders[position]? with
  | none => trivial
  | some toProvider =>
    dsimp only
    split
    · trivial
    split
    · trivial
    rw [Prog.wp_bind, wp_getStore]
    split
    · rw [Prog.wp_bind, wp_transact]
      refine ⟨fun st hst => ?_, fun _ _ => trivial⟩
      obtain rfl := Store.appendEvent_ok hst
      rw [fallbackPayload_canon he]
      have hstep : EngineStep rt spec w (w.withStore (w.store.addEvent
          .synthesisFallbackAdvanced (Dict.canon (fallbackPayload position name toProvider
            (failureOf .synthesis name e.toDict))))) :=
        .advance w position name toProvider e ⟨hposition.symm, hname, hto, hslot⟩
      refine ⟨hstep, ?_⟩
      rw [Prog.wp_bind, wp_getStore, Prog.wp_bind, Prog.wp_ofExcept]
      exact ⟨fun _ _ => ⟨(hstep.keeps hinv).1, _, rfl⟩, fun _ _ => trivial⟩
    · -- the transition would have been made before
      rename_i event hfilter
      have hevent := List.mem_filter.1 (hfilter ▸ List.mem_singleton_self event)
      have := hinv.chain.from_position hevent.1 (by simpa using hevent.2)
      omega
    · trivial

/-! ### The chain -/

/-- A resume that synthesizes. -/
structure Synthesizing (rt : Runtime) (spec : RunSpec) (marker : Str) (lock : NamespaceLock)
    (adjudication : AdjudicationLock) (prompts : PromptPair) (w : World) : Prop extends
    At rt spec marker w where
  locked : w.store.namespace? rt spec = some lock
  voted : w.store.adjudication? rt spec = some adjudication
  prompts : (lockedSynthesisPrompts rt spec.question marker lock.mapping
    (w.store.candidates rt lock.mapping lock.mapping.labels) adjudication.records) = .ok prompts

/-- During the synthesis every provider of the chain is asked the same prompts, those of the
locked vote. -/
theorem Synthesizing.expected {prompts : PromptPair}
    (h : Synthesizing rt spec marker lock adjudication prompts w) (name : Str) :
    w.store.expectedPrompts rt spec .synthesis name = some prompts := by
  show (w.store.marker? >>= _) = _
  rw [h.marked]
  show (w.store.namespace? rt spec >>= _) = _
  rw [h.locked]
  show (w.store.adjudication? rt spec >>= _) = _
  rw [h.voted]
  show (lockedSynthesisPrompts rt spec.question marker lock.mapping _
    adjudication.records).toOption = _
  rw [h.prompts]
  rfl

/-- What is final stays final: so does what a synthesis is built on. -/
theorem Synthesizing.extends_ {prompts : PromptPair}
    (h : Synthesizing rt spec marker lock adjudication prompts w) (hinv : Inv rt spec w')
    (hext : Extends rt spec w.store w'.store) (hrun : w'.store.run = w.store.run) :
    Synthesizing rt spec marker lock adjudication prompts w' where
  inv := hinv
  marked := hext.marker _ h.marked
  running := by
    unfold Store.Completed
    rw [hrun]
    exact h.running
  locked := hext.candidateNamespace _ h.locked
  voted := hext.adjudication _ h.voted
  prompts := by
    rw [hext.candidates fun label hl =>
      h.inv.complete lock h.locked _ (Mapping.provider_mem hl)]
    exact h.prompts

/-- What an answer is. -/
def Answered (spec : RunSpec) (st : Store) (answer : Option (Str × Str)) : Prop :=
  ∀ name content, answer = some (name, content) → name ∈ spec.config.synthesisProviders ∧
    ∃ response, st.successful .synthesis name = some response ∧ response.content = content

/-- What a part of the chain comes to, from a store on. -/
structure ChainEnds (rt : Runtime) (spec : RunSpec) (marker : Str) (lock : NamespaceLock)
    (adjudication : AdjudicationLock) (prompts : PromptPair) (st : Store) (x : SynthesisResult)
    (w : World) : Prop where
  synthesizing : Synthesizing rt spec marker lock adjudication prompts w
  extends_ : Extends rt spec st w.store
  answered : Answered spec w.store x.answer

/-- Nothing is called any more. -/
theorem Synthesizing.ends {prompts : PromptPair}
    (h : Synthesizing rt spec marker lock adjudication prompts w) :
    ChainEnds rt spec marker lock adjudication prompts w.store {} w :=
  ⟨h, .refl _, fun _ _ hx => by cases hx⟩

/-- The slot the transitions have come to is called with the prompts of the record. -/
theorem Synthesizing.stagePre {prompts : PromptPair} {name : Str} {position : ℕ}
    (h : Synthesizing rt spec marker lock adjudication prompts w)
    (hname : spec.config.synthesisProviders[position - 1]? = some name)
    (hfb : (fallbackEvents w.store.events).length + 1 = position) (deadline : ℤ)
    (retry : Bool) : StagePre rt spec (synthesisArgs deadline name prompts retry) w := by
  have hentry : ∀ e ∈ (synthesisArgs deadline name prompts retry).prompts,
      e = (name, prompts) := fun e he => List.mem_singleton.1 he
  refine ⟨h.inv, List.nodup_singleton _, ?_, ?_, ?_, rfl, nofun, nofun⟩
  · intro e he
    rw [hentry e he]
    exact h.inv.accepted.synthesis_available (List.mem_of_getElem? hname)
  · intro e he
    rw [hentry e he]
    exact h.expected name
  · intro e he _
    rw [hentry e he]
    refine ⟨by rw [h.voted]; rfl, ?_⟩
    rw [← hname, ← hfb, Nat.add_sub_cancel]

/-- A slot is left by one transition more. -/
theorem Synthesizing.leaves {prompts : PromptPair} {name : Str} {position : ℕ} {error : Dict}
    {e : ProviderError} (h : Synthesizing rt spec marker lock adjudication prompts w)
    (hname : spec.config.synthesisProviders[position - 1]? = some name)
    (hfb : (fallbackEvents w.store.events).length + 1 = position) (he : Reports error e)
    (hslot : ∀ r, w.store.slot .synthesis name = some r → r.state = .failed e) :
    Prog.wp (engineRules rt spec)
      (fun _ w' => Synthesizing rt spec marker lock adjudication prompts w' ∧
        Extends rt spec w.store w'.store ∧
        (fallbackEvents w'.store.events).length + 1 = position + 1)
      (fun _ _ => True)
      (persistSynthesisFallbackEvent rt spec.config position (failureOf .synthesis name error))
      w := by
  refine Prog.wp_mono ?_ (fun _ _ h => h)
    (persistSynthesisFallbackEvent_spec h.inv hfb hname he hslot)
  rintro _ w' ⟨hinv, payload, rfl⟩
  have hext : Extends rt spec w.store (w.store.addEvent .synthesisFallbackAdvanced payload) :=
    extends_addEvent (by simp) (by simp)
  refine ⟨h.extends_ hinv hext rfl, hext, ?_⟩
  have hevents : fallbackEvents (w.store.addEvent .synthesisFallbackAdvanced payload).events =
      fallbackEvents w.store.events ++ [⟨.synthesisFallbackAdvanced, payload⟩] := by
    simp [fallbackEvents, List.filter_append]
  show (fallbackEvents (w.store.addEvent .synthesisFallbackAdvanced payload).events).length
    + 1 = position + 1
  rw [hevents, List.length_append, List.length_singleton, hfb]

/-- The failure of a slot that is not tried again is the one that its row has stored. -/
theorem stored_failure {deadline : ℤ} {name : Str} {prompts : PromptPair} {result : StageResult}
    {retry : Bool} {strict : Prop} (hstrict : strict)
    (hdone : Done (synthesisArgs deadline name prompts retry) strict [name] result [] w)
    {failure : Dict} (hfailure : failure ∈ result.failureDicts .synthesis) :
    ∃ error e, failure = failureOf .synthesis name error ∧ Reports error e ∧
      ∀ r, w.store.slot .synthesis name = some r → r.state = .failed e := by
  obtain ⟨f, hf, rfl⟩ := List.mem_map.1 hfailure
  have hfname : f.1 = name := by
    have := hdone.providers.subset
      (List.mem_append_left _ (List.mem_append_right _ (List.mem_map_of_mem hf)))
    exact List.mem_singleton.1 this
  obtain ⟨-, e, he, hslot⟩ := hdone.result.failures f hf
  rw [hfname] at hslot ⊢
  exact ⟨f.2, e, rfl, he, hslot hstrict⟩

/-- What the rest of the chain answers is the answer, and its failures come after. -/
theorem ChainEnds.others {prompts : PromptPair} {st : Store}
    (hext : Extends rt spec st w.store) {rest : M SynthesisResult}
    (hrest : Prog.wp (engineRules rt spec)
      (ChainEnds rt spec marker lock adjudication prompts w.store) (fun _ _ => True) rest w)
    (failures recoveries : List Dict) :
    Prog.wp (engineRules rt spec) (ChainEnds rt spec marker lock adjudication prompts st)
      (fun _ _ => True) (do
        let others ← rest
        pure ⟨others.answer, failures ++ others.failures, recoveries ++ others.recoveries⟩) w :=
  Prog.wp_seq hrest fun _ _ hx => ⟨hx.synthesizing, hext.trans hx.extends_, hx.answered⟩

/-- **The chain of a resume.**  At each slot the transitions have come to it, or the
deadline has passed. -/
theorem synthesisChain_spec {eng : CouncilEngine} (heng : eng.toRunConfig = spec.config)
    {prompts : PromptPair} {deadline : ℤ} {current : ℕ} (names : List Str) :
    ∀ position w, 1 ≤ position →
      names = spec.config.synthesisProviders.drop (position - 1) →
      Synthesizing rt spec marker lock adjudication prompts w →
      ((fallbackEvents w.store.events).length + 1 = position ∨ deadline ≤ w.now) →
      Prog.wp (engineRules rt spec) (ChainEnds rt spec marker lock adjudication prompts w.store)
        (fun _ _ => True) (synthesisChain rt eng deadline prompts current position names) w := by
  have hchain : eng.synthesisProviders = spec.config.synthesisProviders :=
    congrArg RunConfig.synthesisProviders heng
  induction names with
  | nil =>
    intro position w _ _ h _
    exact h.ends
  | cons name rest ih =>
    intro position w hpos hnames h hstate
    have hlt : position - 1 < spec.config.synthesisProviders.length := by
      by_contra hge
      rw [List.drop_eq_nil_of_le (not_lt.1 hge)] at hnames
      cases hnames
    have hname : spec.config.synthesisProviders[position - 1]? = some name := by
      rw [← List.head?_drop, ← hnames]
      rfl
    have hrest : rest = spec.config.synthesisProviders.drop (position + 1 - 1) := by
      have htail := congrArg List.tail hnames
      rw [List.tail_cons, List.tail_drop] at htail
      rw [htail]
      congr 1
      omega
    unfold synthesisChain
    rw [Prog.wp_bind]
    refine wp_monotonic fun elapsed => ?_
    have htick : EngineStep rt spec w (w.tick elapsed) :=
      .stage _ _ .synthesis [] (.tick w elapsed)
    refine ⟨htick, ?_⟩
    have h₀ : Synthesizing rt spec marker lock adjudication prompts (w.tick elapsed) :=
      h.extends_ (htick.keeps h.inv).1 (.refl _) rfl
    by_cases hdead : deadline ≤ (w.tick elapsed).now
    · rw [if_pos hdead]
      exact h₀.ends
    rw [if_neg hdead]
    have hfb : (fallbackEvents w.store.events).length + 1 = position := by
      rcases hstate with hfb | hpast
      · exact hfb
      · have : ((w.tick elapsed).now : ℤ) = w.now + elapsed := Nat.cast_add _ _
        omega
    dsimp only
    set retry := decide (position = current) &&
      decide (position = eng.synthesisProviders.length) with hretry
    refine Prog.wp_seq (runStage_spec heng (h₀.stagePre hname hfb deadline retry)) ?_
    rintro result w₁ ⟨⟨hinv₁, hk₁⟩, hdone⟩
    have hext₁ : Extends rt spec w.store w₁.store := hk₁.extends_
    have h₁ := h₀.extends_ hinv₁ hk₁.extends_ hk₁.run
    have hfb₁ : (fallbackEvents w₁.store.events).length + 1 = position := by
      rw [fallbackEvents_congr hk₁.locks]
      exact hfb
    cases hlookup : result.successes.lookup name with
    | some response =>
      refine ⟨h₁, hext₁, fun n content hx => ?_⟩
      cases hx
      obtain ⟨r, hr, hcontent, -⟩ := (hdone.result.successes _ (mem_of_lookup hlookup)).fields
      exact ⟨List.mem_of_getElem? hname, r, hr, hcontent⟩
    | none =>
      dsimp only
      by_cases hlast : position < eng.synthesisProviders.length
      · rw [if_pos hlast, Prog.wp_bind]
        refine wp_monotonic fun later => ?_
        have htick₁ : EngineStep rt spec w₁ (w₁.tick later) :=
          .stage _ _ .synthesis [] (.tick w₁ later)
        have h₂ := h₁.extends_ (htick₁.keeps hinv₁).1 (.refl _) rfl
        refine ⟨htick₁, ?_⟩
        by_cases hlate : (w₁.tick later).now < deadline
        · rw [if_pos (by exact_mod_cast hlate)]
          split
          · trivial
          rename_i failure hfind
          have hfailure := List.mem_reverse.1 (List.mem_of_find?_eq_some hfind)
          have hnoretry : retry = false := by
            rw [hretry, decide_eq_false hlast.ne, Bool.and_false]
          obtain ⟨error, e, heq, he, hslot⟩ := stored_failure hnoretry hdone hfailure
          rw [heng, heq]
          refine Prog.wp_seq (h₂.leaves hname hfb₁ he hslot) ?_
          rintro _ w₃ ⟨h₃, hext₃, hfb₃⟩
          exact ChainEnds.others (hext₁.trans hext₃) (ih _ w₃ (by omega) hrest h₃ (.inl hfb₃)) _ _
        · rw [if_neg (by exact_mod_cast hlate)]
          exact ChainEnds.others (w := w₁.tick later) hext₁
            (ih _ (w₁.tick later) (by omega) hrest h₂ (.inr (not_lt.1 hlate))) _ _
      · -- the last slot: nothing comes after it
        have hnil : rest = [] := by
          rw [hrest, List.drop_eq_nil_of_le (by rw [← hchain]; omega)]
        have hends : Prog.wp (engineRules rt spec)
            (ChainEnds rt spec marker lock adjudication prompts w₁.store) (fun _ _ => True)
            (synthesisChain rt eng deadline prompts current (position + 1) []) w₁ := h₁.ends
        rw [if_neg hlast, hnil]
        exact ChainEnds.others hext₁ hends _ _

end CouncilLogic
