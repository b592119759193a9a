/-
# Idempotency keys of runs

`create_run` looks for its run by id before it looks by key, and returns a run that it finds
by id without a look at the key.  A call that names a run made without its key is answered
with that run, and leaves the key free: a later call with the key makes another run.  Where
no call does so, keys are functional (`runKeys_functional`).

The method is `create_run` of `src/model_council/store.py`, with the arguments `run_id` and
`idempotency_key`; the commands of `src/model_council/cli.py` and the requests of an agent pass a
key, and the service passes an id.
-/

import CouncilLogic.Engine.Creation
import CouncilLogic.Store.RunLaws

namespace CouncilLogic
namespace Runs

open Transaction Columns

variable {rt : Runtime} {t t₀ t₁ t' : Tables} {c first later : CreateCall} {r key : Str}
  {before between : List Event}

/-! ### Requests -/

/-- The same arguments, whatever the order of the keys in them. -/
def Request.Same (a b : Request) : Prop := Json.canon (.obj a.value) = Json.canon (.obj b.value)

/-- Requests that are the same up to the order of their keys have the same text. -/
theorem Request.Same.text {a b : Request} (h : a.Same b) : a.text = b.text :=
  congrArg Json.dumpsCompact h

/-- The canonical form of a request, field by field. -/
theorem Request.canon_value (a : Request) : Json.canon (.obj a.value) = .obj
    [(lit "policy", Json.canon (.obj a.policy)), (lit "protocol_hash", .str a.protocolHash),
      (lit "protocol_id", .str a.protocolId), (lit "protocol_version", .str a.protocolVersion),
      (lit "provider_configs", Json.canon (.arr a.providerConfigs)),
      (lit "question", .str a.question)] := rfl

/-- What `create_run` asks of a request. -/
structure Request.Accepted (rt : Runtime) (a : Request) : Prop where
  question : Str.isBlank a.question = false
  protocolId : Str.isBlank a.protocolId = false
  protocolVersion : Str.isBlank a.protocolVersion = false
  protocolHash : Str.isBlank a.protocolHash = false
  providerConfigs : Json.clean rt (.arr a.providerConfigs) = true
  policy : Json.clean rt (.obj a.policy) = true
  dumpable : Json.dumpable (.obj a.value) = true
  encodable : Json.encodable (.obj a.value) = true

/-- A record is written when it can be printed and encoded. -/
theorem encode_ok_iff {d : Dict} : Dict.encode d = .ok d.canon ↔
    Json.dumpable (.obj d) = true ∧ Json.encodable (.obj d) = true := by
  show _ ↔ Json.dumpableFields d = true ∧ Json.encodableFields d = true
  unfold Dict.encode
  cases Json.dumpableFields d <;> cases Json.encodableFields d <;> simp

/-- A request passes the checks of the store when it is accepted. -/
theorem Request.checks_ok_iff {a : Request} : a.checks rt = .ok () ↔ a.Accepted rt := by
  have hencode : (do let _ ← Dict.encode a.value; .ok () : Except PyErr Unit) = .ok () ↔
      Dict.encode a.value = .ok a.value.canon := by
    cases h : Dict.encode a.value with
    | ok value => exact ⟨fun _ => congrArg Except.ok (Dict.encode_ok h), fun _ => rfl⟩
    | error e => exact ⟨nofun, nofun⟩
  unfold Request.checks
  rw [Except.seq_ok_iff, Except.seq_ok_iff, Except.seq_ok_iff,
    Except.seq_ok_iff, Except.seq_ok_iff, Except.seq_ok_iff, hencode,
    encode_ok_iff, requiredText_ok_iff, requiredText_ok_iff, requiredText_ok_iff,
    requiredText_ok_iff, Json.assertNoCredentials_ok_iff, Json.assertNoCredentials_ok_iff]
  constructor
  · rintro ⟨h₁, h₂, h₃, h₄, h₅, h₆, h₇, h₈⟩
    exact ⟨h₁, h₂, h₃, h₄, h₅, h₆, h₇, h₈⟩
  · intro h
    exact ⟨h.question, h.protocolId, h.protocolVersion, h.protocolHash, h.providerConfigs,
      h.policy, h.dumpable, h.encodable⟩

/-- The checks do not depend on the order of keys. -/
theorem Request.Same.accepted {a b : Request} (h : a.Same b) (ha : a.Accepted rt) :
    b.Accepted rt := by
  have hdumpable := ha.dumpable
  have hencodable := ha.encodable
  rw [← Json.dumpable_canon, h, Json.dumpable_canon] at hdumpable
  rw [← Json.encodable_canon, h, Json.encodable_canon] at hencodable
  unfold Request.Same at h
  rw [a.canon_value, b.canon_value] at h
  injection h with h
  injection h with hpolicy h
  injection h with hhash h
  injection h with hid h
  injection h with hversion h
  injection h with hconfigs h
  injection h with hquestion _
  injection hpolicy with _ hpolicy
  injection hhash with _ hhash
  injection hid with _ hid
  injection hversion with _ hversion
  injection hconfigs with _ hconfigs
  injection hquestion with _ hquestion
  injection hhash with hhash
  injection hid with hid
  injection hversion with hversion
  injection hquestion with hquestion
  refine ⟨hquestion ▸ ha.question, hid ▸ ha.protocolId, hversion ▸ ha.protocolVersion,
    hhash ▸ ha.protocolHash, ?_, ?_, hdumpable, hencodable⟩
  · rw [← Json.clean_canon, ← hconfigs, Json.clean_canon]
    exact ha.providerConfigs
  · rw [← Json.clean_canon, ← hpolicy, Json.clean_canon]
    exact ha.policy

/-! ### Bound keys -/

/-- A call with a key that draws the id of a run, or names a run of its request, names a run
of its key. -/
def CreateCall.Bound (rt : Runtime) (c : CreateCall) (t : Tables) : Prop :=
  ∀ row, t.run c.id = some row → (c.runId = none ∨ row.requestSha256 = rt.sha256 c.request.text) →
    row.idempotencyKey = c.idempotencyKey

/-- A key that is honoured: with it, the same request is answered with the same run, unless
the call names another run, and another request is refused. -/
structure Honoured (first later : CreateCall) (r : Str) (outcome : Except PyErr Str) : Prop where
  same : first.request.Same later.request → later.runId = none ∨ later.runId = some r →
    outcome = .ok r
  returned : ∀ r', outcome = .ok r' → r' = r
  elsewhere : ∀ x, later.runId = some x → x ≠ r → ∃ e, outcome = .error e
  different : first.request.text ≠ later.request.text → ∃ e, outcome = .error e

/-- The key stands on the row of the run that is returned. -/
theorem Created.bound (h : Created rt c t r t') (hkey : c.idempotencyKey = some key)
    (hbound : c.Bound rt t) : ⟨r, rt.sha256 c.request.text, some key⟩ ∈ t'.identities := by
  cases h with
  | @named row hrow hsha =>
    have hrowKey := hbound row hrow (.inr hsha)
    rw [← hsha, ← hkey, ← hrowKey]
    exact List.mem_map_of_mem (f := Row.identity) (Rows.find_some hrow).1
  | @keyed row _ _ hrow hsha =>
    rw [hkey] at hrow
    obtain ⟨hmem, hrowKey⟩ := Rows.find_some (k := some key) hrow
    rw [← hsha, ← hrowKey]
    exact List.mem_map_of_mem (f := Row.identity) hmem
  | inserted =>
    unfold Tables.identities
    rw [List.map_append, ← hkey]
    exact List.mem_append_right _ (List.mem_singleton_self _)

/-- What a later call with the key returns. -/
theorem Created.eq_of_mem {r' sha : Str} (h : Created rt later t r' t')
    (hkey : later.idempotencyKey = some key) (hinv : IdentityInv t.identities)
    (hmem : ⟨r, sha, some key⟩ ∈ t.identities) (hbound : later.Bound rt t) :
    r' = r ∧ rt.sha256 later.request.text = sha ∧
      (∀ x, later.runId = some x → x = r) := by
  have hrow : ∀ row ∈ t.runs, row.idempotencyKey = some key → row.id = r ∧
      row.requestSha256 = sha := by
    intro row hrow hrowKey
    have heq := hinv.key_inj (List.mem_map_of_mem (f := Row.identity) hrow) hmem hrowKey rfl
    injection heq with hid hsha _
    exact ⟨hid, hsha⟩
  have hgiven : ∀ x, later.runId = some x → later.id = x := by
    intro x hx
    unfold CreateCall.id
    rw [hx]
    rfl
  cases h with
  | @named row hfind hsha =>
    obtain ⟨hid, hrowSha⟩ := hrow row (Rows.find_some hfind).1
      ((hbound row hfind (.inr hsha)).trans hkey)
    refine ⟨hid, hsha.symm.trans hrowSha, fun x hx => ?_⟩
    rw [← hid, (Rows.find_some hfind).2, hgiven x hx]
  | @keyed row _ _ hfind hsha hlater =>
    rw [hkey] at hfind
    obtain ⟨hrowMem, hrowKey⟩ := Rows.find_some (k := some key) hfind
    obtain ⟨hid, hrowSha⟩ := hrow row hrowMem hrowKey
    refine ⟨hid, hsha.symm.trans hrowSha, fun x hx => ?_⟩
    rcases hlater with hnone | hsame
    · rw [hx] at hnone
      cases hnone
    · rw [← hgiven x hx, ← hsame, hid]
  | inserted _ _ hfree =>
    rw [hkey] at hfree
    obtain ⟨row, hrowMem, hidentity⟩ := List.mem_map.1 hmem
    injection hidentity with _ _ hrowKey
    exact absurd hrowKey (Rows.find_eq_none.1 hfree row hrowMem)

/-- The call with the key and the same request returns. -/
theorem createRun_same (hinv : IdentityInv t.identities) (hvalid : first.Valid rt)
    (hfirstKey : first.idempotencyKey = some key) (hkey : later.idempotencyKey = some key)
    (hsame : first.request.Same later.request) (hrunId : later.runId = none ∨ later.runId = some r)
    (hmem : ⟨r, rt.sha256 first.request.text, some key⟩ ∈ t.identities)
    (hbound : later.Bound rt t) : (createRun rt later).run t = (.ok r, t) := by
  have hlater : later.Valid rt := by
    refine ⟨Request.checks_ok_iff.2 (hsame.accepted (Request.checks_ok_iff.1 hvalid.request)), ?_,
      ?_, ?_⟩
    · rw [hkey, ← hfirstKey]
      exact hvalid.key
    · rcases hrunId with hnone | hgiven
      · rw [hnone]
        rfl
      · rw [hgiven]
        exact requiredText_ok_iff.2 (hinv.named _ hmem).1
    · rw [bindTexts_ok_iff]
      intro s hs
      obtain rfl := List.mem_singleton.1 hs
      unfold CreateCall.id
      rcases hrunId with hnone | hgiven
      · rw [hnone]
        exact later.uuid.named.2
      · rw [hgiven]
        exact (hinv.named _ hmem).2
  have hfound : ∃ r', Created rt later t r' t := by
    obtain ⟨row, hrow, hidentity⟩ := List.mem_map.1 hmem
    injection hidentity with hid hsha hrowKey
    have hunique := unique_id_iff.2 hinv.ids
    rw [hsame.text] at hsha
    cases hfind : t.run later.id with
    | some row' =>
      refine ⟨_, .named hfind ?_⟩
      rcases hrunId with hnone | hgiven
      · have hrowKey' := (hbound row' hfind (.inl hnone)).trans hkey
        have heq := hinv.key_inj
          (List.mem_map_of_mem (f := Row.identity) (Rows.find_some hfind).1) hmem hrowKey' rfl
        injection heq with _ hsha' _
        rw [hsha', hsame.text]
      · have hlaterId : later.id = r := by
          unfold CreateCall.id
          rw [hgiven]
          rfl
        obtain ⟨hmem', hid'⟩ := Rows.find_some hfind
        obtain rfl : row' = row := hunique.eq hmem' hrow (by rw [hid', hlaterId, hid])
        exact hsha
    | none =>
      have hrunNone : later.runId = none := by
        rcases hrunId with hnone | hgiven
        · exact hnone
        · have hlaterId : later.id = r := by
            unfold CreateCall.id
            rw [hgiven]
            rfl
          exact absurd (hid.trans hlaterId.symm) (Rows.find_eq_none.1 hfind row hrow)
      have hencodable : bindTexts later.idempotencyKey.toList = .ok () := by
        rw [hkey]
        exact hinv.keyed _ hmem
      cases hkeyed : t.keyed key with
      | none => exact absurd hrowKey (Rows.find_eq_none.1 hkeyed row hrow)
      | some row' =>
        obtain ⟨hmem', hrowKey'⟩ := Rows.find_some hkeyed
        have heq := hinv.key_inj (List.mem_map_of_mem (f := Row.identity) hmem') hmem hrowKey' rfl
        injection heq with _ hsha' _
        refine ⟨_, .keyed hfind hencodable ?_ (by rw [hsha', hsame.text]) (.inl hrunNone)⟩
        rw [hkey]
        exact hkeyed
  obtain ⟨r', hcreated⟩ := hfound
  obtain ⟨rfl, -, -⟩ := hcreated.eq_of_mem hkey hinv hmem hbound
  exact createRun_ok_iff.2 ⟨hlater, hcreated⟩

/-- **Keys of runs are functional** in every history, between calls that name no run of
another key: the later call is answered with the run of the first, or refused; and no two
runs have one key. -/
theorem runKeys_functional
    (hcollision : rt.sha256 later.request.text = rt.sha256 first.request.text →
      later.request.text = first.request.text)
    (hbefore : Steps rt {} before t₀) (hfirst : (createRun rt first).run t₀ = (.ok r, t₁))
    (hbetween : Steps rt t₁ between t)
    (hfirstKey : first.idempotencyKey = some key) (hlaterKey : later.idempotencyKey = some key)
    (hfirstBound : first.Bound rt t₀) (hlaterBound : later.Bound rt t) :
    Honoured first later r ((createRun rt later).run t).1 ∧
      ∀ a ∈ t.runs, ∀ b ∈ t.runs, a.idempotencyKey = some key → b.idempotencyKey = some key →
        a = b := by
  obtain ⟨hvalid, hcreated⟩ := createRun_ok_iff.1 hfirst
  have hinv : IdentityInv t.identities :=
    (hbefore.append (.cons (e := .created first r) hfirst hbetween)).identityInv
  have hmem := hbetween.identities.subset (hcreated.bound hfirstKey hfirstBound)
  have hreturned : ∀ r', ((createRun rt later).run t).1 = .ok r' → r' = r ∧
      rt.sha256 later.request.text = rt.sha256 first.request.text ∧
      ∀ x, later.runId = some x → x = r := by
    intro r' hok
    have hrun : (createRun rt later).run t = (.ok r', ((createRun rt later).run t).2) :=
      Prod.ext hok rfl
    exact (createRun_ok_iff.1 hrun).2.eq_of_mem hlaterKey hinv hmem hlaterBound
  refine ⟨⟨fun hsame hrunId => ?_, fun r' hok => (hreturned r' hok).1, ?_, ?_⟩, ?_⟩
  · rw [createRun_same hinv hvalid hfirstKey hlaterKey hsame hrunId hmem hlaterBound]
  · intro x hx hne
    cases hrun : ((createRun rt later).run t).1 with
    | ok r' => exact absurd ((hreturned r' hrun).2.2 x hx) hne
    | error e => exact ⟨e, rfl⟩
  · intro hdiff
    cases hrun : ((createRun rt later).run t).1 with
    | ok r' => exact absurd (hcollision (hreturned r' hrun).2.1).symm hdiff
    | error e => exact ⟨e, rfl⟩
  · intro a ha b hb hakey hbkey
    have heq := hinv.key_inj (List.mem_map_of_mem (f := Row.identity) ha)
      (List.mem_map_of_mem (f := Row.identity) hb) hakey hbkey
    injection heq with hid _ _
    exact (unique_id_iff.2 hinv.ids).eq ha hb hid

/-! ### Examples -/

/-- A time stamp is ASCII. -/
theorem ascii_exampleStamp : ∀ c ∈ lit "2026-01-01T00:00:00.000000Z", c < 128 := by decide

def exampleStamp : Stamp := ⟨lit "2026-01-01T00:00:00.000000Z", ascii_exampleStamp⟩

def exampleRequest : Request where
  question := lit "Why?"
  protocolId := lit "council"
  protocolVersion := lit "1"
  protocolHash := lit "hash"
  providerConfigs := []
  policy := []

/-- A call of the example, which draws `b`. -/
def exampleCall (key runId : Option Str) : CreateCall where
  now := exampleStamp
  uuid := ⟨lit "b", by decide, by decide⟩
  request := exampleRequest
  idempotencyKey := key
  runId := runId

/-- The tables after the run `a` has been made, with a key or without. -/
def exampleCreated (key : Option Str) : Tables :=
  ((createRun exampleRuntime (exampleCall key (some (lit "a")))).run {}).2

/-- A run is made without a key; the key is given with its id, and the run is returned; the
key alone, with the same request, makes another run. -/
theorem runKeys_unbound :
    (createRun exampleRuntime (exampleCall none (some (lit "a")))).run {} =
        (.ok (lit "a"), exampleCreated none) ∧
      (createRun exampleRuntime (exampleCall (some (lit "k")) (some (lit "a")))).run
        (exampleCreated none) = (.ok (lit "a"), exampleCreated none) ∧
      ¬ Honoured (exampleCall (some (lit "k")) (some (lit "a"))) (exampleCall (some (lit "k")) none)
        (lit "a") ((createRun exampleRuntime (exampleCall (some (lit "k")) none)).run
          (exampleCreated none)).1 := by
  have hother : ((createRun exampleRuntime (exampleCall (some (lit "k")) none)).run
      (exampleCreated none)).1 = .ok (lit "b") := rfl
  refine ⟨rfl, rfl, fun h => ?_⟩
  have heq := h.returned _ hother
  exact absurd heq (by decide)

/-- A run is made with a key and marked; the key is honoured. -/
theorem runKeys_functional_example : ∃ t,
    (setRunStatus exampleRuntime exampleStamp (lit "a") (lit "running") none).run
      (exampleCreated (some (lit "k"))) = (.ok (), t) ∧
    Honoured (exampleCall (some (lit "k")) (some (lit "a"))) (exampleCall (some (lit "k")) none)
      (lit "a") ((createRun exampleRuntime (exampleCall (some (lit "k")) none)).run t).1 := by
  have hfirst : (createRun exampleRuntime (exampleCall (some (lit "k")) (some (lit "a")))).run {} =
      (.ok (lit "a"), exampleCreated (some (lit "k"))) := rfl
  have hkey : (exampleCall (some (lit "k")) (some (lit "a"))).idempotencyKey = some (lit "k") := rfl
  obtain ⟨t, ht⟩ : ∃ t, t = ((setRunStatus exampleRuntime exampleStamp (lit "a") (lit "running")
      none).run (exampleCreated (some (lit "k")))).2 := ⟨_, rfl⟩
  have hmarked : (setRunStatus exampleRuntime exampleStamp (lit "a") (lit "running") none).run
      (exampleCreated (some (lit "k"))) = (.ok (), t) := by
    rw [ht]
    rfl
  refine ⟨t, hmarked, (runKeys_functional (fun h => h) .nil hfirst
    (.cons (e := .marked exampleStamp (lit "a") (lit "running") none) hmarked .nil) hkey rfl ?_
    ?_).1⟩
  · intro row hrow
    have hempty : ({} : Tables).run (lit "a") = none := rfl
    exact absurd (hempty.symm.trans hrow) nofun
  · intro row hrow
    have hunknown : t.run (lit "b") = none := by
      rw [ht]
      rfl
    exact absurd (hunknown.symm.trans hrow) nofun

end Runs
end CouncilLogic
