/-
# What a run stands for

`create_run` compares digests where it finds a run already.  Whatever happens in between, two
calls that return the same id were made for the same arguments, unless their texts collide
(`runs_same`).

The method is `create_run` of `src/model_council/store.py`; the digest is `request_sha256`, over
the canonical JSON of the question, the providers, the policy and the protocol.
-/

import CouncilLogic.Guarantees.RunKeys
import CouncilLogic.Json.Regular

namespace CouncilLogic
namespace Runs

variable {rt : Runtime} {t t' : Tables} {c first later : CreateCall} {r : Str}
  {events : List Event}

/-- A returned id is that of a run with the digest of the request. -/
theorem Created.identity (h : Created rt c t r t') :
    ∃ key, ⟨r, rt.sha256 c.request.text, key⟩ ∈ t'.identities := by
  cases h with
  | @named row hrow hsha =>
    rw [← hsha]
    exact ⟨_, List.mem_map_of_mem (f := Row.identity) (Rows.find_some hrow).1⟩
  | @keyed row _ _ hrow hsha =>
    obtain ⟨key, -, hkeyed⟩ := Option.bind_eq_some_iff.1 hrow
    rw [← hsha]
    exact ⟨_, List.mem_map_of_mem (f := Row.identity) (Rows.find_some hkeyed).1⟩
  | inserted =>
    refine ⟨c.idempotencyKey, ?_⟩
    unfold Tables.identities
    rw [List.map_append]
    exact List.mem_append_right _ (List.mem_singleton_self _)

/-- The digest stays with the run. -/
theorem Steps.identity_of_created (h : Steps rt t events t') (hc : .created c r ∈ events) :
    ∃ key, ⟨r, rt.sha256 c.request.text, key⟩ ∈ t'.identities := by
  obtain ⟨past, rest, rfl⟩ := List.mem_iff_append.1 hc
  obtain ⟨_, _, -, hcreated, hrest⟩ := h.split
  obtain ⟨key, hmem⟩ := (createRun_ok_iff.1 hcreated).2.identity
  exact ⟨key, hrest.identities.subset hmem⟩

/-- An id is the id of one identity. -/
theorem IdentityInv.id_inj {l : List Identity} (h : IdentityInv l) {a b : Identity} (ha : a ∈ l)
    (hb : b ∈ l) (hid : a.id = b.id) : a = b :=
  List.inj_on_of_nodup_map h.ids ha hb hid

/-- The text of a request determines it, up to the order of keys. -/
theorem Request.same_of_text {a b : Request} (ha : Json.regular (.obj a.value) = true)
    (hb : Json.regular (.obj b.value) = true) (h : a.text = b.text) : a.Same b := by
  have ha' : Json.regular (Json.canon (.obj a.value)) = true := (Json.allAtoms_canon _ _).trans ha
  have hb' : Json.regular (Json.canon (.obj b.value)) = true := (Json.allAtoms_canon _ _).trans hb
  exact Json.dumpsCompact_inj ha' hb' h

/-- **A run stands for one request**: two calls that return the same id, at any time and with
whatever keys, were made for the same arguments, or the texts of their requests collide. -/
theorem runs_same (h : Steps rt {} events t) (hfirst : .created first r ∈ events)
    (hlater : .created later r ∈ events) (hregular : Json.regular (.obj first.request.value) = true)
    (hregular' : Json.regular (.obj later.request.value) = true) :
    first.request.Same later.request ∨
      first.request.text ≠ later.request.text ∧
        rt.sha256 first.request.text = rt.sha256 later.request.text := by
  obtain ⟨key, hmem⟩ := h.identity_of_created hfirst
  obtain ⟨key', hmem'⟩ := h.identity_of_created hlater
  have hdigest : rt.sha256 first.request.text = rt.sha256 later.request.text :=
    congrArg Identity.requestSha256 (h.identityInv.id_inj hmem hmem' rfl)
  by_cases htext : first.request.text = later.request.text
  · exact .inl (Request.same_of_text hregular hregular' htext)
  · exact .inr ⟨htext, hdigest⟩

/-- A call of the example with a policy, which names the run `a`. -/
def exampleOrdered (policy : Dict) : CreateCall :=
  { exampleCall none (some (lit "a")) with request := { exampleRequest with policy := policy } }

/-- A policy, and the same with its keys in another order. -/
def examplePolicies : Dict × Dict :=
  ([(lit "mode", .str (lit "mock")), (lit "calls", .int 9)],
    [(lit "calls", .int 9), (lit "mode", .str (lit "mock"))])

/-- The run `a` is made, and returned to a call with the keys of its policy in another order. -/
theorem runs_same_example : ∃ t,
    Steps exampleRuntime {} [.created (exampleOrdered examplePolicies.1) (lit "a"),
      .created (exampleOrdered examplePolicies.2) (lit "a")] t ∧
    ((exampleOrdered examplePolicies.1).request.Same (exampleOrdered examplePolicies.2).request ∨
      (exampleOrdered examplePolicies.1).request.text ≠
          (exampleOrdered examplePolicies.2).request.text ∧
        exampleRuntime.sha256 (exampleOrdered examplePolicies.1).request.text =
          exampleRuntime.sha256 (exampleOrdered examplePolicies.2).request.text) := by
  obtain ⟨t, hfirst⟩ : ∃ t, (createRun exampleRuntime (exampleOrdered examplePolicies.1)).run {} =
      (.ok (lit "a"), t) := ⟨_, rfl⟩
  have hlater : (createRun exampleRuntime (exampleOrdered examplePolicies.2)).run t =
      (.ok (lit "a"), t) := by
    cases hfirst
    rfl
  have hsteps : Steps exampleRuntime {} [.created (exampleOrdered examplePolicies.1) (lit "a"),
      .created (exampleOrdered examplePolicies.2) (lit "a")] t :=
    .cons hfirst (.cons hlater .nil)
  exact ⟨t, hsteps, runs_same hsteps List.mem_cons_self
    (List.mem_cons_of_mem _ List.mem_cons_self) (by decide) (by decide)⟩

end Runs
end CouncilLogic
