/-
# A lock that is written can be read

The loaders of the candidate namespace and of the adjudication check everything the
engine has put into the event against everything else it knows.  Both events go
through the store, which sorts the keys of every object; `readNamespace_canon` and
`readAdjudication_canon` say that what is read is what was written.

It is a round trip through the store of `src/model_council/store.py`: what
`_lock_candidate_namespace` and `_lock_adjudication` of `src/model_council/engine.py` write is
dumped with sorted keys, and read by another process.  So the checks of the loaders have to be
insensitive to the order of keys, wherever they compare dictionaries, and the counted votes have
to give the same aggregate.  Without this the first resume after a lock would refuse its own run.
-/

import CouncilLogic.Engine.Expected
import CouncilLogic.Json.Laws
import CouncilLogic.Protocol.Ballots

namespace CouncilLogic

open Protocol

variable {rt : Runtime} {config : RunConfig}

/-! ### Lists of strings and of dictionaries -/

/-- Two lists have the same members when each is contained in the other. -/
theorem sameMembers_iff {a b : List Str} : sameMembers a b = true ↔ a ⊆ b ∧ b ⊆ a := by
  simp [sameMembers]

/-- Rearranged lists have the same members. -/
theorem sameMembers_of_perm {a b : List Str} (h : a.Perm b) : sameMembers a b = true :=
  sameMembers_iff.2 ⟨h.subset, h.symm.subset⟩

/-- A list of labels is read back from its JSON. -/
theorem rankingLabels_map (l : List Str) : rankingLabels (l.map .str) = some l := by
  induction l with
  | nil => rfl
  | cons s l ih => rw [List.map_cons, rankingLabels, ih, Option.map_some]

/-- A loop over a list succeeds when each of its steps does. -/
theorem mapM_option_eq_some {α β : Type} {f : α → Option β} {g : α → β} {l : List α}
    (h : ∀ a ∈ l, f a = some (g a)) : l.mapM f = some (l.map g) := by
  induction l with
  | nil => rfl
  | cons a l ih =>
    rw [List.mapM_cons, h a List.mem_cons_self, ih fun b hb => h b (List.mem_cons_of_mem _ hb)]
    rfl

/-- A loop over a list is determined by its steps. -/
theorem mapM_except_congr {ε α β : Type} {f g : α → Except ε β} {l : List α}
    (h : ∀ a ∈ l, f a = g a) : l.mapM f = l.mapM g := by
  induction l with
  | nil => rfl
  | cons a l ih =>
    rw [List.mapM_cons, List.mapM_cons, h a List.mem_cons_self,
      ih fun b hb => h b (List.mem_cons_of_mem _ hb)]

/-- A list of dictionaries is read back from its JSON. -/
theorem dicts?_arr (l : List Dict) : Json.dicts? (.arr (l.map .obj)) = some l := by
  unfold Json.dicts?
  simp only [List.mapM_map]
  have h := mapM_option_eq_some (f := fun d : Dict => some d) (g := id) (l := l) (fun _ _ => rfl)
  rwa [List.map_id] at h

/-- An array of dictionaries is stored as the array of the stored dictionaries. -/
theorem canon_dicts (l : List Dict) :
    Json.canon (.arr (l.map .obj)) = .arr ((l.map Dict.canon).map .obj) := by
  rw [Json.canon, Json.canonItems_eq_map, List.map_map, List.map_map]
  rfl

/-- A list of strings is stored as it is. -/
theorem canon_strings (l : List Str) : Json.canon (.arr (l.map .str)) = .arr (l.map .str) := by
  rw [Json.canon, Json.canonItems_eq_map, List.map_map]
  rfl

/-- Sorting the keys changes none of them. -/
theorem hasKeys_canon {d : Dict} {expected : List Str} :
    d.canon.hasKeys expected = d.hasKeys expected := by
  simp only [Dict.hasKeys, List.subset_def, Dict.mem_keys_canon]

/-- A dictionary has the keys it has. -/
theorem hasKeys_self (d : Dict) : d.hasKeys d.keys = true := by
  simp [Dict.hasKeys]

/-! ### Mappings -/

/-- Looking up a key that occurs once. -/
theorem lookup_iff {α : Type} {l : List (Str × α)} (h : (l.map Prod.fst).Nodup) {k : Str} {v : α} :
    l.lookup k = some v ↔ (k, v) ∈ l := by
  induction l with
  | nil => simp
  | cons e l ih =>
    obtain ⟨k', v'⟩ := e
    rw [List.map_cons, List.nodup_cons] at h
    rw [List.lookup_cons, List.mem_cons, Prod.mk.injEq]
    by_cases hk : k = k'
    · subst hk
      have hnot : (k, v) ∉ l := fun hm => h.1 (List.mem_map.2 ⟨_, hm, rfl⟩)
      simp [hnot, eq_comm]
    · have hb : (k == k') = false := by simpa using hk
      simp [hb, hk, ih h.2]

/-- Lookup does not depend on the order where no key is repeated. -/
theorem lookup_perm {α : Type} {l l' : List (Str × α)} (hp : l.Perm l')
    (h : (l.map Prod.fst).Nodup) (k : Str) : l.lookup k = l'.lookup k := by
  apply Option.ext
  intro v
  rw [lookup_iff h, lookup_iff ((hp.map _).nodup_iff.1 h), hp.mem_iff]

/-- Looking up all the keys in order gives the list back. -/
theorem filterMap_lookup_self {l : List (Str × Str)} (h : (l.map Prod.fst).Nodup) :
    (l.map Prod.fst).filterMap (fun k => (l.lookup k).map fun v => (k, v)) = l := by
  rw [List.filterMap_map]
  have hsome : ∀ e ∈ l, ((fun k => (l.lookup k).map fun v => (k, v)) ∘ Prod.fst) e = some e := by
    intro e he
    show (l.lookup e.1).map (fun v => (e.1, v)) = some e
    rw [(lookup_iff h).2 he, Option.map_some]
  rw [List.filterMap_congr hsome, List.filterMap_some]

/-- The entry of a mapping that a label and a stored text stand for. -/
def mappingEntry (f : Str × Json) : Str × Str :=
  (f.1, match f.2 with
    | .str p => p
    | _ => [])

/-- **A mapping is read back**: its labels are the first ones, in order. -/
theorem readMapping_canon {mapping : Mapping} (hne : mapping ≠ [])
    (hlabels : mapping.labels = Workload.labelsOf mapping.length) :
    readMapping (.obj (Dict.canon mapping.toDict)) = .ok mapping := by
  set fields := Dict.canon mapping.toDict with hfields
  have hperm : fields.Perm (mapping.map fun e => (e.1, Json.str e.2)) := by
    refine (Dict.canon_perm mapping.toDict).trans (.of_eq ?_)
    unfold Mapping.toDict
    rw [List.map_map]
    rfl
  have hstrings : ∀ f ∈ fields, ∃ k p, f = (k, Json.str p) := by
    intro f hf
    obtain ⟨e, -, rfl⟩ := List.mem_map.1 (hperm.mem_iff.1 hf)
    exact ⟨_, _, rfl⟩
  have hpairs : (fields.map mappingEntry).Perm mapping := by
    refine (hperm.map mappingEntry).trans (.of_eq ?_)
    rw [List.map_map]
    exact List.map_id _
  have hlen : (fields.map mappingEntry).length = mapping.length := hpairs.length_eq
  have hnd : (mapping.map Prod.fst).Nodup := by
    have := labelsOf_nodup mapping.length
    rwa [← hlabels] at this
  have hnil : fields ≠ [] := by
    intro h
    rw [h] at hpairs
    exact hne hpairs.symm.eq_nil
  unfold readMapping
  dsimp only
  rw [if_neg hnil]
  rw [@mapM_option_eq_some _ _ _ mappingEntry fields fun f hf => by
    obtain ⟨k, p, rfl⟩ := hstrings f hf
    rfl]
  dsimp only
  rw [hlen, ← hlabels]
  have hsame : sameMembers ((fields.map mappingEntry).map Prod.fst) mapping.labels = true :=
    sameMembers_of_perm (hpairs.map Prod.fst)
  rw [hsame, if_neg (by simp)]
  congr 1
  refine .trans (List.filterMap_congr fun label _ => ?_) (filterMap_lookup_self hnd)
  rw [lookup_perm hpairs ((hpairs.map _).nodup_iff.2 hnd)]

/-- The mapping gives the labels, in order, to the providers in a drawn order. -/
theorem candidateMapping_eq_zip (rt : Runtime) (runId : Str) (names : List Str) :
    ∃ shuffled : List Str,
    shuffled.Perm names ∧ candidateMapping rt runId names =
      (Workload.labelsOf shuffled.length).zip shuffled :=
  ⟨_, (rt.shuffled_perm _ _).trans (Str.sorted_perm names), rfl⟩

/-- The labels of a mapping are as many as there are candidates. -/
theorem candidateMapping_labels (rt : Runtime) (runId : Str) (names : List Str) :
    (candidateMapping rt runId names).labels = Workload.labelsOf names.length := by
  obtain ⟨shuffled, hp, h⟩ := candidateMapping_eq_zip rt runId names
  rw [h, Mapping.labels, List.map_fst_zip (by simp), hp.length_eq]

/-- The providers of a mapping are the candidates, in another order. -/
theorem candidateMapping_providers (rt : Runtime) (runId : Str) (names : List Str) :
    (candidateMapping rt runId names).providers.Perm names := by
  obtain ⟨shuffled, hp, h⟩ := candidateMapping_eq_zip rt runId names
  rwa [h, Mapping.providers, List.map_snd_zip (by simp)]

/-- A mapping has one entry for each candidate. -/
theorem candidateMapping_length (rt : Runtime) (runId : Str) (names : List Str) :
    (candidateMapping rt runId names).length = names.length := by
  have h := congrArg List.length (candidateMapping_labels rt runId names)
  rwa [Mapping.labels, List.length_map, length_labelsOf] at h

/-- The names are sorted before they are shuffled. -/
theorem candidateMapping_perm {runId : Str} {names names' : List Str} (h : names.Perm names') :
    candidateMapping rt runId names = candidateMapping rt runId names' := by
  unfold candidateMapping
  rw [Str.sorted_eq_of_perm h]

/-- The number of lineages does not depend on the order of the providers. -/
theorem lineages_perm {names names' : List Str} (h : names.Perm names') :
    (config.lineages names).length = (config.lineages names').length :=
  ((h.filterMap _).dedup).length_eq

/-! ### Failures -/

/-- A failure of a stage and a provider, as the engine keeps it. -/
structure FailureFor (stage : Stage) (provider : Str) (failure : Dict) : Prop where
  nodup : failure.keys.Nodup
  stage : failure.get? (lit "stage") = some (.str stage.name)
  provider : failure.get? (lit "provider") = some (.str provider)

/-- A failure that was stored is still that provider's failure. -/
theorem FailureFor.canon {stage : Stage} {provider : Str} {failure : Dict}
    (h : FailureFor stage provider failure) : FailureFor stage provider failure.canon where
  nodup := Dict.nodup_keys_canon h.nodup
  stage := by
    rw [Dict.get?_canon h.nodup, h.stage]
    rfl
  provider := by
    rw [Dict.get?_canon h.nodup, h.provider]
    rfl

/-- The providers of the failures are the failed ones, in their order. -/
theorem failedProviders_eq {stage : Stage} {failed : List Str} {failures : List Dict}
    (h : List.Forall₂ (FailureFor stage) failed failures) : failedProviders failures = failed := by
  induction h with
  | nil => rfl
  | cons hf _ ih =>
    unfold failedProviders at ih ⊢
    rw [List.filterMap_cons, hf.provider, ih]

/-- Failures of configured providers belong to the run. -/
theorem failuresBelong_eq {stage : Stage} {failed : List Str} {failures : List Dict}
    (h : List.Forall₂ (FailureFor stage) failed failures) (hsub : failed ⊆ config.names) :
    failuresBelong config stage failures = true := by
  induction h with
  | nil => rfl
  | cons hf _ ih =>
    rw [List.cons_subset] at hsub
    have := ih hsub.2
    unfold failuresBelong at this ⊢
    rw [List.all_cons, this, hf.stage, hf.provider]
    simp [hsub.1]

/-- Stored failures are failures of the same providers. -/
theorem forall_canon {stage : Stage} {failed : List Str} {failures : List Dict}
    (h : List.Forall₂ (FailureFor stage) failed failures) :
    List.Forall₂ (FailureFor stage) failed (failures.map Dict.canon) :=
  List.forall₂_map_right_iff.2 (h.imp fun _ _ hf => hf.canon)

/-! ### The candidate namespace -/

/-- The keys of a candidate lock. -/
theorem keys_namespacePayload (mapping : Mapping) (failures : List Dict) :
    Dict.keys (namespacePayload mapping failures) =
      [lit "version", lit "candidate_label_mapping", lit "proposal_failures"] := rfl

/-- A candidate lock repeats no key. -/
theorem nodup_keys_namespacePayload (mapping : Mapping) (failures : List Dict) :
    (Dict.keys (namespacePayload mapping failures)).Nodup := by
  simp [keys_namespacePayload]

/-- What the engine has when it names the candidates: the providers fall into those
with a proposal, enough of them, and those with a failure. -/
structure Partition (config : RunConfig) (names failed : List Str) : Prop where
  perm : (names ++ failed).Perm config.names
  nodup : config.names.Nodup
  quorum : ¬ (names.length : ℤ) < config.policy.proposalQuorum
  diverse : ¬ ((config.lineages names).length : ℤ) < config.policy.minLineages

/-- **A candidate namespace is read back.** -/
theorem readNamespace_canon {runId : Str} {names failed : List Str} {failures : List Dict}
    (hpart : Partition config names failed)
    (hf : List.Forall₂ (FailureFor .proposal) failed failures) (hne : names ≠ []) :
    readNamespace rt config runId
        (Dict.canon (namespacePayload (candidateMapping rt runId names) failures)) =
      .ok ⟨candidateMapping rt runId names, failures.map Dict.canon⟩ := by
  set mapping := candidateMapping rt runId names with hmapping
  have hproviders := candidateMapping_providers rt runId names
  rw [← hmapping] at hproviders
  have hnd := hpart.perm.nodup_iff.2 hpart.nodup
  have hkeys := nodup_keys_namespacePayload mapping failures
  have hget : ∀ key, Dict.get? (Dict.canon (namespacePayload mapping failures)) key =
      (Dict.get? (namespacePayload mapping failures) key).map Json.canon := fun key =>
    Dict.get?_canon hkeys
  have hread : readMapping (field (Dict.canon (namespacePayload mapping failures))
      (lit "candidate_label_mapping")) = .ok mapping := by
    unfold field
    rw [hget]
    refine readMapping_canon ?_ ?_
    · intro h
      have hlen := candidateMapping_length rt runId names
      rw [← hmapping, h] at hlen
      exact hne (List.length_eq_zero_iff.1 hlen.symm)
    · rw [hmapping, candidateMapping_labels, candidateMapping_length]
  have hdicts : (field (Dict.canon (namespacePayload mapping failures))
      (lit "proposal_failures")).dicts? = some (failures.map Dict.canon) := by
    unfold field
    rw [hget]
    show (Json.canon (.arr (failures.map .obj))).dicts? = _
    rw [canon_dicts, dicts?_arr]
  have hfailed := failedProviders_eq (forall_canon hf)
  have hsub : names ⊆ config.names := fun n hn =>
    hpart.perm.subset (List.mem_append_left _ hn)
  have hsub' : failed ⊆ config.names := fun n hn =>
    hpart.perm.subset (List.mem_append_right _ hn)
  have hdisj : ∀ n ∈ failed, n ∉ mapping.providers := fun n hn hm =>
    (List.nodup_append.1 hnd).2.2 n (hproviders.subset hm) n hn rfl
  have hrest : sameMembers failed (config.names.filter (· ∉ mapping.providers)) = true := by
    rw [sameMembers_iff]
    constructor
    · exact fun n hn => List.mem_filter.2 ⟨hsub' hn, by simpa using hdisj n hn⟩
    · intro n hn
      rw [List.mem_filter, decide_eq_true_iff] at hn
      rcases List.mem_append.1 (hpart.perm.symm.subset hn.1) with h | h
      · exact absurd (hproviders.symm.subset h) hn.2
      · exact h
  unfold readNamespace
  rw [hasKeys_canon, ← keys_namespacePayload mapping failures, hasKeys_self, hread, hdicts, hget]
  have hversion : Dict.get? (namespacePayload mapping failures) (lit "version") =
      some (.int 1) := rfl
  have hok : ¬ (¬ mapping.providers.Nodup ∨ ¬ mapping.providers ⊆ config.names ∨
      mapping ≠ candidateMapping rt runId mapping.providers) := by
    rw [candidateMapping_perm hproviders, ← hmapping]
    simp only [ne_eq, not_true_eq_false, or_false, not_or, not_not]
    exact ⟨hproviders.nodup_iff.2 (List.nodup_append.1 hnd).1,
      fun n hn => hsub (hproviders.subset hn)⟩
  have hquorum : ¬ ((mapping.providers.length : ℤ) < config.policy.proposalQuorum ∨
      ((config.lineages mapping.providers).length : ℤ) < config.policy.minLineages) := by
    rw [hproviders.length_eq, lineages_perm hproviders]
    exact not_or.2 ⟨hpart.quorum, hpart.diverse⟩
  have hmembers : ¬ (failed.any (· ∈ mapping.providers) = true ∨
      sameMembers failed (config.names.filter (· ∉ mapping.providers)) = false) := by
    rw [hrest]
    simpa using hdisj
  have hone : (some (Json.int 1)).any Json.isOne = true := rfl
  rw [hversion, Option.map_some, Json.canon, hone]
  simp only [bind, Except.bind, if_false, ne_eq, hok, hquorum,
    failuresBelong_eq (forall_canon hf) hsub', hfailed, hmembers, Bool.true_eq_false]

/-- Without a proposal nothing is read. -/
theorem readNamespace_nil {runId : Str} {failures : List Dict} {lock : NamespaceLock} :
    readNamespace rt config runId (Dict.canon (namespacePayload [] failures)) ≠ .ok lock := by
  have hget : Dict.get? (Dict.canon (namespacePayload [] failures))
      (lit "candidate_label_mapping") = some (.obj []) := by
    rw [Dict.get?_canon (nodup_keys_namespacePayload [] failures)]
    rfl
  unfold readNamespace field
  rw [hget]
  simp only [bind, Except.bind]
  intro h
  split at h
  · cases h
  · split at h
    · cases h
    · split at h
      · cases h
      · rename_i hread
        cases hread

/-! ### Jury records -/

/-- A record of a juror over a mapping.  Its judgment, if it has one, is stored as it
is: it contains no object. -/
structure RecordFor (mapping : Mapping) (juror : Str) (record : Dict) : Prop where
  nodup : record.keys.Nodup
  juror : record.get? (lit "juror") = some (.str juror)
  candidates : ∃ m, record.get? (lit "mapping") = some m ∧
    Json.same (.obj mapping.toDict) m = true
  order : ∃ order : List Str, record.get? (lit "presentation_order") =
    some (.arr (order.map .str)) ∧
    order.Perm mapping.labels
  valid : record.get? (lit "valid") = some (.bool true) ∨
    record.get? (lit "valid") = some (.bool false)
  plain : ∀ key ∈ judgmentKeys, ∀ value, record.get? key = some value → value.canon = value

section
variable {mapping : Mapping} {juror : Str} {record : Dict} (h : RecordFor mapping juror record)
include h

/-- A stored record is found under the same keys. -/
theorem RecordFor.get?_canon (key : Str) :
    record.canon.get? key = (record.get? key).map Json.canon := Dict.get?_canon h.nodup

/-- The fields of a judgment are stored as they are, being texts, flags and lists of texts. -/
theorem RecordFor.get?_judgment {key : Str} (hk : key ∈ judgmentKeys) :
    record.canon.get? key = record.get? key := by
  rw [h.get?_canon]
  cases hv : record.get? key with
  | none => rfl
  | some value => rw [Option.map_some, h.plain key hk value hv]

/-- A stored record is as valid as it was. -/
theorem RecordFor.isValidRecord_canon : isValidRecord record.canon = isValidRecord record := by
  unfold isValidRecord
  rw [h.get?_canon]
  rcases h.valid with hv | hv <;> rw [hv] <;> rfl

/-- The juror of a record is the one it was made for. -/
theorem RecordFor.jurorOf_eq : jurorOf record = some juror := by
  unfold jurorOf
  rw [h.juror]

/-- What is stored of a record is a record. -/
theorem RecordFor.canon : RecordFor mapping juror record.canon where
  nodup := Dict.nodup_keys_canon h.nodup
  juror := by
    rw [h.get?_canon, h.juror]
    rfl
  candidates := by
    obtain ⟨m, hm, hsame⟩ := h.candidates
    refine ⟨m.canon, by rw [h.get?_canon, hm, Option.map_some], ?_⟩
    unfold Json.same at hsame ⊢
    rwa [Json.canon_canon]
  order := by
    obtain ⟨order, ho, hp⟩ := h.order
    exact ⟨order, by rw [h.get?_canon, ho, Option.map_some, canon_strings], hp⟩
  valid := by
    rw [h.get?_canon]
    exact h.valid.imp (fun hv => by rw [hv]; rfl) fun hv => by rw [hv]; rfl
  plain key hk value hv := h.plain key hk value (by rwa [← h.get?_judgment hk])

/-- A stored record states the same judgment. -/
theorem RecordFor.judgmentPayload_canon :
    judgmentPayload record.canon = judgmentPayload record := by
  unfold judgmentPayload
  refine mapM_except_congr fun key hk => ?_
  rw [h.get?_judgment hk]

/-- A stored record is anonymized alike. -/
theorem RecordFor.anonymizeJury_canon :
    anonymizeJury mapping record.canon = anonymizeJury mapping record := by
  unfold anonymizeJury field
  rw [h.judgmentPayload_canon, h.get?_judgment (by simp [judgmentKeys]),
    h.get?_judgment (by simp [judgmentKeys])]

end

/-- The records of jurors; those that have no failure are valid. -/
def Recorded (mapping : Mapping) (failed jurors : List Str) (records : List Dict) : Prop :=
  List.Forall₂ (fun juror record => RecordFor mapping juror record ∧
    (isValidRecord record = true ↔ juror ∉ failed)) jurors records

section
variable {mapping : Mapping} {failed jurors : List Str} {records : List Dict}

/-- Stored records are records of the same jurors. -/
theorem Recorded.canon (h : Recorded mapping failed jurors records) :
    Recorded mapping failed jurors (records.map Dict.canon) :=
  List.forall₂_map_right_iff.2 (h.imp fun _ _ hr =>
    ⟨hr.1.canon, by rw [hr.1.isValidRecord_canon]; exact hr.2⟩)

/-- Only the failures of the jurors matter. -/
theorem Recorded.congr (h : Recorded mapping failed jurors records) {failed' : List Str}
    (hf : ∀ j ∈ jurors, j ∈ failed' ↔ j ∈ failed) : Recorded mapping failed' jurors records := by
  induction h with
  | nil => exact .nil
  | cons hr _ ih =>
    obtain ⟨hfirst, hrest⟩ := List.forall_mem_cons.1 hf
    exact .cons ⟨hr.1, hr.2.trans (not_congr hfirst.symm)⟩ (ih hrest)

/-- The valid ones among stored records are what is stored of the valid ones. -/
theorem Recorded.filter_canon (h : Recorded mapping failed jurors records) :
    (records.map Dict.canon).filter isValidRecord =
      (records.filter isValidRecord).map Dict.canon := by
  induction h with
  | nil => rfl
  | @cons juror record jurors records hr _ ih =>
    rw [List.map_cons, List.filter_cons, List.filter_cons, hr.1.isValidRecord_canon, ih]
    split <;> rfl

/-- Every record is one of a juror. -/
theorem Recorded.mem (h : Recorded mapping failed jurors records) {record : Dict}
    (hr : record ∈ records) : ∃ juror ∈ jurors, RecordFor mapping juror record := by
  induction h with
  | nil => cases hr
  | @cons juror record' jurors records hr' _ ih =>
    rcases List.mem_cons.1 hr with rfl | hr
    · exact ⟨juror, List.mem_cons_self, hr'.1⟩
    · obtain ⟨j, hj, hrec⟩ := ih hr
      exact ⟨j, List.mem_cons_of_mem _ hj, hrec⟩

/-- The jurors of the records are the jurors, in their order. -/
theorem Recorded.jurors_eq (h : Recorded mapping failed jurors records) :
    records.filterMap jurorOf = jurors := by
  induction h with
  | nil => rfl
  | cons hr _ ih => rw [List.filterMap_cons, hr.1.jurorOf_eq, ih]

/-- The jurors of the valid records are those that have not failed. -/
theorem Recorded.valid_eq (h : Recorded mapping failed jurors records) :
    (records.filter isValidRecord).filterMap jurorOf = jurors.filter (· ∉ failed) := by
  induction h with
  | nil => rfl
  | @cons juror record jurors records hr _ ih =>
    by_cases hv : isValidRecord record = true
    · rw [List.filter_cons_of_pos hv, List.filterMap_cons, hr.1.jurorOf_eq,
        List.filter_cons_of_pos (by simpa using hr.2.1 hv), ih]
    · have hf : juror ∈ failed := by
        by_contra hn
        exact hv (hr.2.2 hn)
      rw [List.filter_cons_of_neg hv, List.filter_cons_of_neg (by simpa using hf), ih]

/-- There are as many valid records as jurors that have not failed. -/
theorem Recorded.length_valid (h : Recorded mapping failed jurors records) :
    (records.filter isValidRecord).length = (jurors.filter (· ∉ failed)).length := by
  induction h with
  | nil => rfl
  | @cons juror record jurors records hr _ ih =>
    by_cases hv : isValidRecord record = true
    · rw [List.filter_cons_of_pos hv, List.filter_cons_of_pos (by simpa using hr.2.1 hv),
        List.length_cons, List.length_cons, ih]
    · have hf : juror ∈ failed := by
        by_contra hn
        exact hv (hr.2.2 hn)
      rw [List.filter_cons_of_neg hv, List.filter_cons_of_neg (by simpa using hf), ih]

/-- Stored records give the same judgments to the count. -/
theorem Recorded.judgmentsOf_canon (h : Recorded mapping failed jurors records) :
    judgmentsOf ((records.map Dict.canon).filter isValidRecord) =
      judgmentsOf (records.filter isValidRecord) := by
  unfold judgmentsOf
  rw [h.filter_canon, List.mapM_map]
  refine mapM_except_congr fun record hr => ?_
  obtain ⟨juror, -, hrec⟩ := h.mem (List.mem_filter.1 hr).1
  rw [Function.comp_apply, hrec.judgmentPayload_canon]

/-- **Stored records have the aggregate of the records that were stored.** -/
theorem Recorded.aggregateOf_canon (h : Recorded mapping failed jurors records) :
    aggregateOf rt mapping (records.map Dict.canon) = aggregateOf rt mapping records := by
  unfold aggregateOf
  rw [h.judgmentsOf_canon]

/-- **Stored records make the prompts of the records that were stored.** -/
theorem Recorded.lockedSynthesisPrompts_canon (h : Recorded mapping failed jurors records)
    {question marker : Str} {candidates : Dict} :
    lockedSynthesisPrompts rt question marker mapping candidates (records.map Dict.canon) =
      lockedSynthesisPrompts rt question marker mapping candidates records := by
  unfold lockedSynthesisPrompts synthesisStagePrompts
  rw [h.aggregateOf_canon, h.filter_canon, List.mapM_map]
  have hjury : (records.filter isValidRecord).mapM (anonymizeJury mapping ∘ Dict.canon) =
      (records.filter isValidRecord).mapM (anonymizeJury mapping) := by
    refine mapM_except_congr fun record hr => ?_
    obtain ⟨juror, -, hrec⟩ := h.mem (List.mem_filter.1 hr).1
    exact hrec.anonymizeJury_canon
  rw [hjury]

end

/-! ### The adjudication -/

/-- The keys of a locked vote. -/
theorem keys_adjudicationPayload (mapping : Mapping) (records failures : List Dict) :
    Dict.keys (adjudicationPayload mapping records failures) =
      [lit "version", lit "candidate_label_mapping", lit "jury_records",
        lit "jury_failures"] := rfl

/-- Every record of different jurors passes. -/
theorem checkJuryRecords_ok {mapping : Mapping} {failed jurors : List Str} {records : List Dict}
    (h : Recorded mapping failed jurors records) (hsub : jurors ⊆ config.names) :
    ∀ seen, jurors.Nodup → (∀ j ∈ jurors, j ∉ seen) →
      checkJuryRecords config mapping seen records = .ok () := by
  induction h with
  | nil => exact fun _ _ _ => rfl
  | @cons juror record jurors records hr _ ih =>
    intro seen hnd hseen
    rw [List.cons_subset] at hsub
    rw [List.nodup_cons] at hnd
    obtain ⟨m, hm, hsame⟩ := hr.1.candidates
    obtain ⟨order, ho, hperm⟩ := hr.1.order
    have hnext := ih hsub.2 (juror :: seen) hnd.2 fun j hj => by
      rw [List.mem_cons, not_or]
      exact ⟨fun heq => hnd.1 (heq ▸ hj), hseen j (List.mem_cons_of_mem _ hj)⟩
    have horder : (record.get? (lit "presentation_order")).bind Json.strings? = some order := by
      rw [ho]
      exact rankingLabels_map order
    have hvalid : ¬ (record.get? (lit "valid") ≠ some (.bool true) ∧
        record.get? (lit "valid") ≠ some (.bool false)) := by
      rcases hr.1.valid with hv | hv <;> rw [hv] <;> simp
    have hlen : order.length = mapping.length := by
      rw [hperm.length_eq, Mapping.labels, List.length_map]
    unfold checkJuryRecords
    rw [hr.1.jurorOf_eq, horder]
    dsimp only
    rw [if_neg, hnext]
    rintro (h | h | h | h | h | h)
    · exact h hsub.1
    · exact hseen juror List.mem_cons_self h
    · rw [hm, Option.map_some, hsame] at h
      exact h rfl
    · exact h hlen
    · rw [sameMembers_of_perm hperm] at h
      cases h
    · exact hvalid h

/-- What the engine has when the ballots are in: every provider has a record or a
failure. -/
structure Counted (config : RunConfig) (mapping : Mapping) (jurors failed : List Str)
    (records failures : List Dict) : Prop where
  recorded : Recorded mapping failed jurors records
  nodup : jurors.Nodup
  failedAre : List.Forall₂ (FailureFor .jury) failed failures
  known : jurors ⊆ config.names ∧ failed ⊆ config.names
  all : config.names ⊆ jurors ++ failed

/-- What the engine has when it decides the vote. -/
structure Decided (rt : Runtime) (config : RunConfig) (mapping : Mapping)
    (jurors failed : List Str) (records failures : List Dict) : Prop extends
    Counted config mapping jurors failed records failures where
  quorum : ¬ ((records.filter isValidRecord).length : ℤ) < config.policy.juryQuorum
  aggregate : ∃ aggregate, aggregateOf rt mapping records = .ok aggregate

/-- **An adjudication is read back.** -/
theorem readAdjudication_canon {lock : NamespaceLock} {jurors failed : List Str}
    {records failures : List Dict}
    (h : Decided rt config lock.mapping jurors failed records failures) :
    readAdjudication rt config lock
        (Dict.canon (adjudicationPayload lock.mapping records failures)) =
      .ok ⟨records.map Dict.canon, failures.map Dict.canon⟩ := by
  set payload := adjudicationPayload lock.mapping records failures with hpayload
  have hget : ∀ key, Dict.get? (Dict.canon payload) key = (Dict.get? payload key).map Json.canon :=
    fun key => Dict.get?_canon (by simp [hpayload, keys_adjudicationPayload])
  have hmapping : Json.same (field (Dict.canon payload) (lit "candidate_label_mapping"))
      (.obj lock.mapping.toDict) = true := by
    unfold field Json.same
    rw [hget]
    show (Json.canon (Json.canon (.obj lock.mapping.toDict)) == _) = true
    rw [Json.canon_canon, beq_self_eq_true]
  have hrecords : (field (Dict.canon payload) (lit "jury_records")).dicts? =
      some (records.map Dict.canon) := by
    unfold field
    rw [hget]
    show (Json.canon (.arr (records.map .obj))).dicts? = _
    rw [canon_dicts, dicts?_arr]
  have hfailures : (field (Dict.canon payload) (lit "jury_failures")).dicts? =
      some (failures.map Dict.canon) := by
    unfold field
    rw [hget]
    show (Json.canon (.arr (failures.map .obj))).dicts? = _
    rw [canon_dicts, dicts?_arr]
  have hversion : (Dict.get? (Dict.canon payload) (lit "version")).any Json.isOne = true := by
    rw [hget]
    rfl
  obtain ⟨aggregate, hagg⟩ := h.aggregate
  rw [← h.recorded.aggregateOf_canon] at hagg
  have hcheck := checkJuryRecords_ok h.recorded.canon h.known.1 [] h.nodup (by simp)
  have hmembers : ¬ ((jurors.filter (· ∉ failed)).any (· ∈ failed) = true ∨
      (jurors.filter (· ∉ jurors.filter (· ∉ failed))).any (· ∉ failed) = true ∨
      sameMembers (jurors ++ failed) config.names = false ∨
      ((jurors.filter (· ∉ failed)).length : ℤ) < config.policy.juryQuorum) := by
    have hsame : sameMembers (jurors ++ failed) config.names = true :=
      sameMembers_iff.2 ⟨List.append_subset.2 h.known, h.all⟩
    rw [hsame, ← h.recorded.length_valid]
    rintro (hv | hi | hs | hq)
    · simp at hv
    · simp only [List.any_filter, List.any_eq_true, List.mem_filter, decide_eq_true_eq,
        Bool.and_eq_true, not_and, not_not] at hi
      obtain ⟨j, hj, hnot, hn⟩ := hi
      exact hn (hnot hj)
    · cases hs
    · exact h.quorum hq
  simp only [aggregateOf, bind, Except.bind] at hagg
  unfold readAdjudication
  rw [hasKeys_canon, ← keys_adjudicationPayload lock.mapping records failures, ← hpayload,
    hasKeys_self, hversion]
  simp only [bind, Except.bind, Bool.true_eq_false, if_false, hmapping, hrecords, hfailures,
    hcheck, failuresBelong_eq (forall_canon h.failedAre) h.known.2,
    failedProviders_eq (forall_canon h.failedAre), h.recorded.canon.jurors_eq,
    h.recorded.canon.valid_eq, hmembers, hagg]

end CouncilLogic
