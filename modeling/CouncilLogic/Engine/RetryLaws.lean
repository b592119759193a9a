/-
# The audit of retries is complete

In every state of a run the audits of the retries are exactly those of the rows: of each
row, one for each call after the first, in order.  So reading them back for the result
never fails (`Run.providerRetryRecoveries_ok`).

The reader is `_provider_retry_recoveries` of `src/model_council/engine.py`, which raises when an
audit is missing, is there twice or does not fit its row.  The writer is `start_invocation` of
`src/model_council/store.py`, in the transaction in which it counts the call; so the two can only
disagree when something else changes the rows, and nothing does.
-/

import CouncilLogic.Engine.SlotLaws

namespace CouncilLogic

open Protocol

variable {rt : Runtime} {spec : RunSpec} {w w' : World} {config : RunConfig}

/-! ### The events -/

/-- Every retry is audited as one of a slot of a provider of the run. -/
def Store.RetriesAudited (config : RunConfig) (st : Store) : Prop :=
  ∀ e ∈ st.events, e.type = .providerRetryStarted → ∃ stage provider n prior,
    e = retryAuditOf stage provider n prior ∧ provider ∈ config.names ∧ 2 ≤ n

/-- More events that are no audits of retries leave the audits complete. -/
theorem retriesAudited_append {st : Store} {events : List Event} (h : st.RetriesAudited config)
    (hevents : ∀ e ∈ events, e ∈ st.events ∨ e.type ≠ .providerRetryStarted) :
    (st.withEvents events).RetriesAudited config := by
  intro e he ht
  rcases hevents e he with hmem | hne
  · exact h e hmem ht
  · exact absurd ht hne

/-- An event that is no audit of a retry leaves the audits complete. -/
theorem retriesAudited_addEvent {st : Store} {type : EventType} (payload : Dict)
    (h : st.RetriesAudited config) (ht : type ≠ .providerRetryStarted) :
    (st.addEvent type payload).RetriesAudited config := by
  refine retriesAudited_append h fun e he => ?_
  rw [List.mem_append, List.mem_singleton] at he
  rcases he with he | rfl
  · exact .inl he
  · exact .inr ht

/-- Every step of a stage keeps the audits of retries complete: a call that is counted is audited
in the same transaction, and one that is taken back loses its audit in the same transaction. -/
theorem StageStep.retriesAudited {stage : Stage} {names : List Str}
    (h : StageStep rt spec stage names w w') (hwf : w.store.WellFormed)
    (hw : w.store.RetriesAudited spec.config)
    (hpos : ∀ s p r, w.store.slot s p = some r → 1 ≤ r.callCount) :
    w'.store.RetriesAudited spec.config := by
  cases h with
  | tick elapsed => exact hw
  | act a ok hname => exact hw
  | audit type payload ht => exact retriesAudited_addEvent payload hw (by rintro rfl; cases ht)
  | start call config id st hname hstage hconfig ok h =>
    obtain ⟨r, hs⟩ := started_of_ok hwf ok.free h
    obtain ⟨audits, he, ht⟩ := hs.events
    intro e hmem htype
    dsimp only at hmem
    rw [he, List.mem_append] at hmem
    rcases hmem with hmem | hmem
    · exact hw e hmem htype
    · obtain ⟨old, prior, hold, -, rfl⟩ := ht e hmem
      obtain ⟨hs', hp'⟩ := Store.slot_fields hold
      have hslot : old.slot = (call.stage, call.provider) := by
        rw [Invocation.slot, hs', hp']
      have hcount := hpos _ _ _ hold
      exact ⟨call.stage, call.provider, old.callCount + 1, prior, retryAudit_eq hslot prior,
        ok.provider, by omega⟩
  | succeed r response hr hname hstage hrun hlive hphase hstop => exact hw
  | fail r error hr hname hstage hrun hlive => exact hw
  | cancel r payload hr hname hstage hrun hlive hphase hcount hpayload =>
    exact (retriesAudited_addEvent payload hw (by simp) :
      ((w.store.deleteRow r.id).addEvent .providerCallNotDispatched payload).RetriesAudited _)
  | restore r e callCount payload hr hname hstage hrun hlive hphase hpos' hcount hprior haudit
      hpayload =>
    refine retriesAudited_append hw fun e' he' => ?_
    rw [Store.releasedEvents, List.mem_append, List.mem_singleton] at he'
    rcases he' with he' | rfl
    · exact .inl (List.mem_filter.1 he').1
    · exact .inr (by simp)

/-- **Every retry of a run is audited for its slot.** -/
theorem Run.retriesAudited (h : Run rt spec w) : w.store.RetriesAudited spec.config := by
  refine h.induction (P := fun w => w.store.RetriesAudited spec.config) ?_ ?_
  · intro eng draws question st hcreate _
    obtain ⟨rfl, -⟩ := createRun_ok hcreate
    intro e he
    cases he
  · intro w w' hrun hinv hmove hw
    have hpos : ∀ s p r, w.store.slot s p = some r → 1 ≤ r.callCount :=
      fun s p => (hrun.sound s p).positive
    rcases hmove with hmove | rfl
    · cases hmove with
      | stage _ _ _ hs => exact hs.retriesAudited hinv.wellFormed hw hpos
      | adjudicate => exact hw
      | status => exact hw
      | audit type payload ht => exact retriesAudited_addEvent payload hw (by rintro rfl; cases ht)
      | marker | lockNamespace | lockAdjudication | advance =>
        exact retriesAudited_addEvent _ hw (by simp)
      | finish p result event hopen ok =>
        have hadd : (w.store.addEvent .runFinished event).RetriesAudited spec.config :=
          retriesAudited_addEvent event hw (by simp)
        exact hadd
    · exact hw

/-! ### Reading them back -/

/-- What is read of the audit of a retry. -/
def retryOf (stage : Stage) (provider : Str) (n : ℕ) (prior : ProviderError) : RetryEvent :=
  ⟨stage.name, provider, n, decide (Store.lengthSuffix <:+ prior.message), prior.stored.canon⟩

/-- The audit of a retry passes its checks. -/
theorem readRetryEvent_retryAuditOf {stage : Stage} {provider : Str} {n : ℕ}
    (prior : ProviderError) (hprovider : provider ∈ config.names) (hn : 2 ≤ n) :
    readRetryEvent config (retryAuditOf stage provider n prior).payload =
      .ok (retryOf stage provider n prior) := by
  have hnd := keys_retryEvent_nodup stage provider n prior
  have hkeys : Dict.hasKeys (Dict.canon (Store.retryEvent stage provider n prior))
      [lit "stage", lit "provider", lit "retry_call_count", lit "retry_kind",
        lit "prior_failure"] = true := by
    rw [hasKeys_canon]
    exact hasKeys_self _
  have hcount : ¬ (n : ℤ) < 2 := by omega
  have hkind : ¬ (Store.retryKind prior.message ≠ lit "application" ∧
      Store.retryKind prior.message ≠ lit "truncation") := by
    unfold Store.retryKind
    split <;> simp
  have htrunc : decide (Store.retryKind prior.message = lit "truncation") =
      decide (Store.lengthSuffix <:+ prior.message) := by
    unfold Store.retryKind
    by_cases hs : Store.lengthSuffix <:+ prior.message
    · simp [hs]
    · simp [hs]
  unfold readRetryEvent retryAuditOf
  rw [hkeys]
  simp only [field, Dict.get?_canon hnd]
  simp only [Store.retryEvent, Dict.get?_cons, lit_inj, String.reduceEq, if_true, if_false,
    Option.map_some, Json.canon, Option.getD_some, Bool.true_eq_false]
  rw [if_neg]
  · rw [htrunc]
    rfl
  · rintro (h | h | h)
    · exact h hprovider
    · exact hcount h
    · exact hkind h

/-- What is read of an event. -/
def parseRetry (config : RunConfig) (e : Event) : RetryEvent :=
  match readRetryEvent config e.payload with
  | .ok retry => retry
  | .error _ => ⟨[], [], 0, false, []⟩

/-- The audit of a retry is read back as the retry it was written for. -/
theorem parseRetry_retryAuditOf (stage : Stage) {provider : Str} {n : ℕ} (prior : ProviderError)
    (hprovider : provider ∈ config.names) (hn : 2 ≤ n) :
    parseRetry config (retryAuditOf stage provider n prior) = retryOf stage provider n prior := by
  unfold parseRetry
  rw [readRetryEvent_retryAuditOf prior hprovider hn]

/-- What is read of the audits of a slot. -/
theorem map_parseRetry_retryAudits {stage : Stage} {provider : Str} (priors : List ProviderError)
    (hprovider : provider ∈ config.names) :
    (retryAudits stage provider priors).map (parseRetry config) =
      priors.mapIdx fun i prior => retryOf stage provider (i + 2) prior := by
  refine List.ext_getElem? fun i => ?_
  unfold retryAudits
  rw [List.getElem?_map, List.getElem?_mapIdx, List.getElem?_mapIdx, Option.map_map]
  refine congrArg (Option.map · _) (funext fun prior => ?_)
  exact parseRetry_retryAuditOf _ prior hprovider (by omega)

/-- The counts of a slot's retries. -/
theorem counts_retryOf (stage : Stage) (provider : Str) (priors : List ProviderError) :
    (priors.mapIdx fun i prior => retryOf stage provider (i + 2) prior).map
        RetryEvent.retryCallCount =
      (List.range priors.length).map fun i : ℕ => (i : ℤ) + 2 := by
  refine List.ext_getElem (by simp) fun i _ _ => ?_
  simp [retryOf]

/-- Events that are all different are read one after the other. -/
theorem readRetryEvents_ok (events : List Event) (seen : List RetryEvent)
    (hread : ∀ e ∈ events, readRetryEvent config e.payload = .ok (parseRetry config e))
    (hnodup : (seen ++ events.map (parseRetry config)).Pairwise fun a b =>
      ¬ (a.slot = b.slot ∧ a.retryCallCount = b.retryCallCount)) :
    readRetryEvents config events seen = .ok (seen ++ events.map (parseRetry config)) := by
  induction events generalizing seen with
  | nil => simp [readRetryEvents]
  | cons e events ih =>
    have hany : (seen.any fun r => decide (r.slot = (parseRetry config e).slot ∧
        r.retryCallCount = (parseRetry config e).retryCallCount)) = false := by
      rw [List.any_eq_false]
      intro r hr
      rw [List.pairwise_append] at hnodup
      simpa using hnodup.2.2 r hr (parseRetry config e) (by simp)
    have hrest := ih (seen ++ [parseRetry config e])
      (fun e' he' => hread e' (List.mem_cons_of_mem _ he')) (by simpa using hnodup)
    unfold readRetryEvents
    rw [hread e List.mem_cons_self]
    simp only [bind, Except.bind, hany, Bool.false_eq_true, if_false, hrest]
    simp

/-! ### The retries of a slot -/

/-- The events of a slot's retries are retry events. -/
theorem filter_isRetry_eventsOf (st : Store) (stage : Stage) (provider : Str) :
    (st.eventsOf .providerRetryStarted).filter (isRetry stage provider) =
      st.events.filter (isRetry stage provider) := by
  unfold Store.eventsOf
  rw [List.filter_filter]
  refine List.filter_congr fun e _ => ?_
  by_cases he : e.type = .providerRetryStarted
  · simp [he]
  · simp [isRetry_of_type he]

/-- The row of a slot, found by its names. -/
theorem find_slotName (st : Store) (stage : Stage) (provider : Str) :
    (st.invocations.find? fun r => r.slotName = (stage.name, provider)) =
      st.slot stage provider := by
  unfold Store.slot Rows.find
  refine congrArg (List.find? · _) (funext fun r => ?_)
  simp [Invocation.slotName, Invocation.slot]

section Complete
variable (h : Run rt spec w)
include h

/-- Every retry event of a run can be read. -/
theorem Run.parsed {e : Event} (he : e ∈ w.store.eventsOf .providerRetryStarted) :
    ∃ stage provider n prior, e = retryAuditOf stage provider n prior ∧
      provider ∈ spec.config.names ∧ 2 ≤ n := by
  have hmem := List.mem_filter.1 he
  exact h.retriesAudited e hmem.1 (by simpa using hmem.2)

/-- In a run, every audit of a retry can be read back. -/
theorem Run.readRetryEvent_ok {e : Event} (he : e ∈ w.store.eventsOf .providerRetryStarted) :
    readRetryEvent spec.config e.payload = .ok (parseRetry spec.config e) := by
  obtain ⟨stage, provider, n, prior, rfl, hprovider, hn⟩ := h.parsed he
  rw [readRetryEvent_retryAuditOf prior hprovider hn, parseRetry_retryAuditOf _ prior hprovider hn]

/-- The retries that are read for a slot are those of its calls, in order. -/
theorem Run.retries_of_slot (stage : Stage) {provider : Str}
    (hprovider : provider ∈ spec.config.names) :
    ∃ priors : List ProviderError, priors.length = (w.view stage provider).calls - 1 ∧
      (((w.store.eventsOf .providerRetryStarted).map (parseRetry spec.config)).filter
        fun r => r.slot = (stage.name, provider)) =
        priors.mapIdx fun i prior => retryOf stage provider (i + 2) prior := by
  obtain ⟨priors, heq, hlen⟩ := (h.sound stage provider).retries
  refine ⟨priors, hlen, ?_⟩
  have hslot : ∀ e ∈ w.store.eventsOf .providerRetryStarted,
      decide ((parseRetry spec.config e).slot = (stage.name, provider)) =
        isRetry stage provider e := by
    intro e he
    obtain ⟨s, p, n, prior, rfl, hp, hn⟩ := h.parsed he
    have hnd := keys_retryEvent_nodup s p n prior
    rw [parseRetry_retryAuditOf _ prior hp hn]
    unfold isRetry Store.eventOfSlot retryAuditOf
    simp only [Dict.get?_canon hnd]
    simp [Store.retryEvent, Dict.get?_cons, Json.canon, retryOf, RetryEvent.slot]
  rw [List.filter_map, ← map_parseRetry_retryAudits priors hprovider, ← heq]
  refine congrArg (List.map _) ?_
  show _ = w.store.events.filter (isRetry stage provider)
  rw [← filter_isRetry_eventsOf]
  exact List.filter_congr hslot

/-- No two retries that are read are of the same slot and count. -/
theorem Run.retries_distinct :
    ((w.store.eventsOf .providerRetryStarted).map (parseRetry spec.config)).Pairwise fun a b =>
      ¬ (a.slot = b.slot ∧ a.retryCallCount = b.retryCallCount) := by
  rw [List.pairwise_iff_forall_sublist]
  rintro a b hsub ⟨hslot, hcount⟩
  obtain ⟨e, he, rfl⟩ := List.mem_map.1 (hsub.subset (by simp : a ∈ [a, b]))
  obtain ⟨s, p, n, prior, rfl, hp, hn⟩ := h.parsed he
  obtain ⟨priors, -, heq⟩ := h.retries_of_slot s hp
  have hparse := parseRetry_retryAuditOf s prior hp hn
  have hself : (parseRetry spec.config (retryAuditOf s p n prior)).slot = (s.name, p) := by
    rw [hparse]
    rfl
  have hfilter := hsub.filter fun r => decide (r.slot = (s.name, p))
  rw [heq] at hfilter
  have hboth : [parseRetry spec.config (retryAuditOf s p n prior), b].filter
      (fun r => decide (r.slot = (s.name, p))) =
      [parseRetry spec.config (retryAuditOf s p n prior), b] := by
    simp [hself, ← hslot]
  rw [hboth] at hfilter
  have hcounts := hfilter.map RetryEvent.retryCallCount
  rw [counts_retryOf] at hcounts
  have hsorted : ((List.range priors.length).map fun i : ℕ => (i : ℤ) + 2).Pairwise (· < ·) := by
    rw [List.pairwise_map]
    exact List.pairwise_lt_range.imp (by intro a b hab; omega)
  have hlt := hsorted.sublist hcounts
  simp only [List.map_cons, List.map_nil, List.pairwise_cons, List.mem_singleton] at hlt
  have := hlt.1 _ rfl
  omega

/-- The recoveries of slots that have retries are found. -/
theorem Run.recoveriesOfSlots_ok (slots : List (Str × Str))
    (hslots : ∀ slot ∈ slots, slot ∈ ((w.store.eventsOf .providerRetryStarted).map
      (parseRetry spec.config)).map RetryEvent.slot) :
    ∃ recoveries, recoveriesOfSlots w.store ((w.store.eventsOf .providerRetryStarted).map
      (parseRetry spec.config)) slots = .ok recoveries := by
  induction slots with
  | nil => exact ⟨[], rfl⟩
  | cons slot slots ih =>
    obtain ⟨rest, hrest⟩ := ih fun s hs => hslots s (List.mem_cons_of_mem _ hs)
    obtain ⟨r, hr, rfl⟩ := List.mem_map.1 (hslots slot List.mem_cons_self)
    obtain ⟨e, he, rfl⟩ := List.mem_map.1 hr
    obtain ⟨s, p, n, prior, rfl, hp, hn⟩ := h.parsed he
    have hself : (parseRetry spec.config (retryAuditOf s p n prior)).slot = (s.name, p) := by
      rw [parseRetry_retryAuditOf _ prior hp hn]
      rfl
    obtain ⟨priors, hlen, heq⟩ := h.retries_of_slot s hp
    have hne : priors ≠ [] := by
      rintro rfl
      have hmem : parseRetry spec.config (retryAuditOf s p n prior) ∈
          ((w.store.eventsOf .providerRetryStarted).map (parseRetry spec.config)).filter
            fun r => r.slot = (s.name, p) := List.mem_filter.2 ⟨hr, decide_eq_true hself⟩
      rw [heq] at hmem
      cases hmem
    have hcalls : (w.view s p).calls = priors.length + 1 := by
      have := List.length_pos_of_ne_nil hne
      omega
    obtain ⟨row, hrow⟩ : ∃ row, w.store.slot s p = some row := by
      cases hrow : w.store.slot s p with
      | some row => exact ⟨row, rfl⟩
      | none =>
        have hzero : (w.view s p).calls = 0 := by
          unfold SlotView.calls
          show ((w.store.slot s p).map _).getD 0 = 0
          rw [hrow]
          rfl
        omega
    have hcount : row.callCount - 1 = priors.length := by
      have := SlotView.calls_of_row (v := w.view s p) hrow
      omega
    have hsorted : (priors.mapIdx fun i prior => retryOf s p (i + 2) prior).Pairwise
        fun a b => a.retryCallCount ≤ b.retryCallCount := by
      rw [← List.pairwise_map (f := RetryEvent.retryCallCount) (R := (· ≤ ·)), counts_retryOf,
        List.pairwise_map]
      exact List.pairwise_lt_range.imp (by intro a b hab; omega)
    have horder : orderRetries (priors.mapIdx fun i prior => retryOf s p (i + 2) prior) =
        priors.mapIdx fun i prior => retryOf s p (i + 2) prior := hsorted.insertionSort_eq
    unfold recoveriesOfSlots
    rw [hself, find_slotName, hrow]
    dsimp only
    rw [heq, horder, counts_retryOf, hcount, if_neg (not_not.2 rfl)]
    simp only [bind, Except.bind, hrest]
    exact ⟨_, rfl⟩

/-- **Reading the retries back never fails.** -/
theorem Run.providerRetryRecoveries_ok :
    ∃ recoveries, providerRetryRecoveries spec.config w.store = .ok recoveries := by
  have hread := readRetryEvents_ok (w.store.eventsOf .providerRetryStarted) []
    (fun e he => h.readRetryEvent_ok he) h.retries_distinct
  have hrows : (w.store.invocations.any fun r => decide (1 < r.callCount) &&
      decide (r.slotName ∉ ((w.store.eventsOf .providerRetryStarted).map
        (parseRetry spec.config)).map RetryEvent.slot)) = false := by
    rw [List.any_eq_false]
    intro r hr
    rw [Bool.and_eq_true, decide_eq_true_eq, decide_eq_true_eq]
    rintro ⟨hcount, hmissing⟩
    have hslot := h.inv.wellFormed.slot_of_mem hr
    obtain ⟨priors, hlen, heq⟩ := h.retries_of_slot r.stage (h.row_provider hslot)
    have hcalls := SlotView.calls_of_row (v := w.view r.stage r.provider) hslot
    have hpos : 0 < priors.length := by omega
    have hmem : retryOf r.stage r.provider 2 priors[0] ∈
        priors.mapIdx fun i prior => retryOf r.stage r.provider (i + 2) prior :=
      List.mem_mapIdx.2 ⟨0, hpos, rfl⟩
    rw [← heq] at hmem
    refine hmissing (List.mem_map.2 ⟨_, (List.mem_filter.1 hmem).1, rfl⟩)
  obtain ⟨recoveries, hrecoveries⟩ := h.recoveriesOfSlots_ok _
    fun slot hslot => List.mem_eraseDups.1 hslot
  refine ⟨recoveries, ?_⟩
  unfold providerRetryRecoveries
  rw [hread]
  simp only [bind, Except.bind, List.nil_append, hrows, Bool.false_eq_true, if_false]
  exact hrecoveries

end Complete

end CouncilLogic
