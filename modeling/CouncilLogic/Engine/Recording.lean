/-
# What the store takes of an answer

The main thread records what comes of every call.  A record is written when its text is
UTF-8, its numbers can be printed and bound, and its fields name no credential; for the
records the engine makes itself this follows from its inputs, so what is left are the texts
and the numbers that providers and gates return.

The methods that write are `finish_invocation_success`, `finish_invocation_failure` and
`append_event` of `src/model_council/store.py`, and those that make the records are
`_execute_provider_call` and the settling loop of `_run_parallel_stage` in
`src/model_council/engine.py`.  The last step before SQLite is `json.dumps`, which is where a lone
surrogate and an integer of more than 4300 digits fail.
-/

import CouncilLogic.Protocol.PromptLaws
import CouncilLogic.Engine.PoolSpec
import CouncilLogic.Engine.RowLaws

namespace CouncilLogic

open Protocol

variable {rt : Runtime} {st : Store} {stage : Stage} {provider : Str}

/-! ### The interpreter -/

/-- What is known of the interpreter: `str.lower` leaves lower-case letters, digits and
underscores as they are, and the digest of a UTF-8 text can be written. -/
structure Runtime.Standard (rt : Runtime) : Prop where
  lower : ∀ s : Str, (∀ c ∈ s, 97 ≤ c ∧ c ≤ 122 ∨ 48 ≤ c ∧ c ≤ 57 ∨ c = 95) → rt.lower s = s
  sha256 : ∀ s, Str.encodable s = true → Str.encodable (rt.sha256 s) = true

/-- The fields of the records a stage writes. -/
def stageFields : List Str :=
  providerErrorFields ++
    [lit "version", lit "invocation_id", lit "stage", lit "provider", lit "model", lit "lineage",
      lit "prompt_sha256", lit "reservation_attempt", lit "attempted_call_count",
      lit "restored_call_count", lit "retry_kind", lit "prior_failure", lit "error",
      lit "status", lit "reason", lit "initial_finish_reason", lit "initial_max_output_tokens",
      lit "recovery_max_output_tokens", lit "final_failure_recorded"]

/-- None of them names a credential. -/
theorem plainKey_of_mem (hrt : rt.Standard) {key : Str} (h : key ∈ stageFields) :
    Json.plainKey rt key = true := by
  have hall : stageFields.all (fun key => decide (Str.strip key = key) &&
      key.all (fun c => decide (97 ≤ c ∧ c ≤ 122 ∨ 48 ≤ c ∧ c ≤ 57 ∨ c = 95)) &&
      decide ((key.map fun c => if c = 45 ∨ c = 32 then 95 else c) ∉ Json.rawCredentialKeys) &&
      decide ((key.map fun c => if c = 45 ∨ c = 32 then 95 else c) ≠ lit "endpoint") &&
      Str.encodable key) = true := by decide
  have hkey := List.all_eq_true.1 hall key h
  simp only [Bool.and_eq_true, decide_eq_true_eq, List.all_eq_true] at hkey
  obtain ⟨⟨⟨⟨hstrip, hlower⟩, hcredential⟩, hendpoint⟩, hencodable⟩ := hkey
  have hnormal : Json.normalizedKey rt key =
      key.map fun c => if c = 45 ∨ c = 32 then 95 else c := by
    unfold Json.normalizedKey
    rw [hstrip, hrt.lower key hlower]
  unfold Json.plainKey
  rw [hnormal, decide_eq_true hcredential, decide_eq_true hendpoint, hencodable]
  rfl

/-- A record of such fields is storable when its values are. -/
theorem storable_record (hrt : rt.Standard) {d : Dict} (hkeys : Dict.keys d ⊆ stageFields)
    (hvalues : ∀ f ∈ d, Json.storable rt f.2 = true) : Json.storableFields rt d = true := by
  induction d with
  | nil => rfl
  | cons f d ih =>
    obtain ⟨key, value⟩ := f
    obtain ⟨hkey, hkeys⟩ := List.cons_subset.1 hkeys
    obtain ⟨hvalue, hvalues⟩ := List.forall_mem_cons.1 hvalues
    rw [Json.storableFields, plainKey_of_mem hrt hkey, hvalue, ih hkeys hvalues]
    rfl

/-! ### Errors -/

/-- The values of an error's fields have no parts. -/
theorem atoms_toDict (rt : Runtime) (e : ProviderError) : ∀ f ∈ e.toDict,
    Json.canon f.2 = f.2 ∧
      Json.storable rt f.2 = (Json.dumpable f.2 && Json.encodable f.2) := by
  have hstr : ∀ s : Option Str, Json.canon (optStr s) = optStr s ∧
      Json.storable rt (optStr s) =
        (Json.dumpable (optStr s) && Json.encodable (optStr s)) := by
    rintro (_ | s) <;> exact ⟨rfl, rfl⟩
  have hint : ∀ n : Option ℤ, Json.canon (optInt n) = optInt n ∧
      Json.storable rt (optInt n) =
        (Json.dumpable (optInt n) && Json.encodable (optInt n)) := by
    rintro (_ | n)
    · exact ⟨rfl, rfl⟩
    · exact ⟨rfl, (Bool.and_true _).symm⟩
  simp [ProviderError.toDict, hstr, hint, Json.canon, Json.storable, Json.dumpable,
    Json.encodable]

/-- An error is recorded under the fields of a stage failure. -/
theorem keys_toDict_subset (e : ProviderError) : Dict.keys e.toDict ⊆ stageFields :=
  List.subset_append_left _ _

/-- An error that can be written is storable, as it was raised and as it is read back. -/
theorem ProviderError.Encodes.storable (hrt : rt.Standard) {e : ProviderError} (h : e.Encodes) :
    Json.storableFields rt e.toDict = true ∧ Json.storableFields rt e.stored = true := by
  have hvalue : ∀ f ∈ e.toDict, Json.storable rt f.2 = true := by
    intro f hf
    obtain ⟨hdumps, hall⟩ := ProviderError.encodes_iff.1 h
    rw [Json.dumpableFields_eq_all, List.all_eq_true] at hdumps
    rw [Json.encodableFields_eq_all, List.all_eq_true] at hall
    rw [(atoms_toDict rt e f hf).2, hdumps f hf, (Bool.and_eq_true_iff.1 (hall f hf)).2]
    rfl
  refine ⟨storable_record hrt (keys_toDict_subset e) hvalue, storable_record hrt ?_ ?_⟩
  · intro key hkey
    exact keys_toDict_subset e (Dict.mem_keys_canon.1 hkey)
  · intro f hf
    obtain ⟨g, hg, rfl⟩ := List.mem_map.1 ((Dict.canon_perm e.toDict).mem_iff.1 hf)
    dsimp only
    rw [(atoms_toDict rt e g hg).1]
    exact hvalue g hg

/-! ### Methods of the store -/

/-- The dictionary can be written to a JSON column. -/
def Dict.Stores (rt : Runtime) (path : Str) (d : Dict) : Prop := ∃ v, Dict.store rt path d = .ok v

/-- The response can be written: its metadata names no credential, its text is UTF-8, its
numbers can be printed, and its latency and attempts fit their columns. -/
structure ProviderResponse.Stores (rt : Runtime) (response : ProviderResponse) : Prop where
  metadata : Json.assertNoCredentials rt (lit "$.response.metadata") (.obj response.metadata) =
    .ok ()
  encodes : ∃ v, Dict.encode response.toDict = .ok v
  binds : ∀ n ∈ [response.latencyMs, response.attempts], Store.HoldsInteger n

/-- A record with the engine's own field names is stored as soon as its values can be printed. -/
theorem stores_record (hrt : rt.Standard) {d : Dict} (hkeys : Dict.keys d ⊆ stageFields)
    (hvalues : ∀ f ∈ d, Json.storable rt f.2 = true) (path : Str) : Dict.Stores rt path d :=
  ⟨_, Dict.store_ok (storable_record hrt hkeys hvalues) path⟩

namespace Store

/-- A running row is failed when its error can be written. -/
theorem finishInvocationFailure_fits_iff (hrt : rt.Standard) {id : ℕ} {error : ProviderError}
    {r : Invocation} (hget : st.getInvocation id = some r) (hrun : r.state = .running) :
    (∃ st', st.finishInvocationFailure rt id error = .ok st') ↔ error.Fits := by
  constructor
  · rintro ⟨st', h⟩
    refine ⟨finishInvocationFailure_encodes h, forM_bindInteger_ok_iff.1 ?_⟩
    unfold finishInvocationFailure at h
    simp only [bind, Except.bind, hget, hrun] at h
    split at h
    · cases h
    split at h
    · cases h
    · assumption
  · rintro ⟨hencodes, hbinds⟩
    have hstore := Dict.store_ok (hencodes.storable hrt).1 (lit "$.provider_error")
    unfold finishInvocationFailure
    simp only [bind, Except.bind, hstore, hget, hrun, forM_bindInteger_ok_iff.2 hbinds]
    exact ⟨_, rfl⟩

/-- A running row succeeds when its response can be written. -/
theorem finishInvocationSuccess_stores_iff {id : ℕ} {response : ProviderResponse}
    {r : Invocation} (hget : st.getInvocation id = some r) (hrun : r.state = .running) :
    (∃ st', st.finishInvocationSuccess rt id response = .ok st') ↔ response.Stores rt := by
  unfold finishInvocationSuccess
  constructor
  · rintro ⟨st', h⟩
    simp only [bind, Except.bind] at h
    split at h
    · cases h
    rename_i hmetadata
    split at h
    · cases h
    rename_i v hencode
    simp only [hget, hrun] at h
    split at h
    · cases h
    rename_i hbinds
    exact ⟨hmetadata, ⟨v, hencode⟩, forM_bindInteger_ok_iff.1 hbinds⟩
  · rintro ⟨hmetadata, ⟨v, hencode⟩, hbinds⟩
    simp only [bind, Except.bind, hmetadata, hencode, hget, hrun,
      forM_bindInteger_ok_iff.2 hbinds]
    exact ⟨_, rfl⟩

end Store

/-- How a running row was started: for a first call, or again after a failure, which is
audited. -/
inductive StartedFrom (st : Store) (r : Invocation) : Option Invocation → Prop
  | first (hcount : r.callCount = 1) : StartedFrom st r none
  | again (p : Invocation) (e : ProviderError) (hrow : r = Store.restart p)
      (hstate : p.state = .failed e)
      (haudit : Store.retryAudit p e ∈ st.events.filter (isRetry r.stage r.provider)) :
      StartedFrom st r (some p)

/-- The texts of a row can be written. -/
structure Invocation.Encodes (r : Invocation) : Prop where
  provider : Str.encodable r.provider = true
  model : Str.encodable r.model = true
  lineage : Str.encodable r.lineage = true
  promptSha256 : Str.encodable r.promptSha256 = true

end CouncilLogic
