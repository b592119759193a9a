/-
# Hash chains

Each record names the digest of the one before it, the first of them a fixed origin.  When
records with one digest name one predecessor, the digest of the last record of a chain says
all digests before it: of two chains, the one whose last digest occurs in the other is an
initial segment of it.

The ledger of human decisions in `src/model_council/store.py` is such a chain for every run: each
record carries `previous_record_sha256`.  Nothing is assumed of the digest but what a theorem
says, since the records of the ledger are told apart by it and a collision would be one between
two records that were really written.
-/

import Mathlib.Data.List.Induction

namespace HashChain

variable {α β δ : Type} (digest : α → δ) (previous : α → δ)

/-- Each record names the digest of the one before it, the first of them `origin`. -/
def Linked : δ → List α → Prop
  | _, [] => True
  | origin, a :: l => previous a = origin ∧ Linked (digest a) l

instance decidableLinked [DecidableEq δ] : ∀ (origin : δ) (l : List α),
    Decidable (Linked digest previous origin l)
  | _, [] => .isTrue trivial
  | origin, a :: l =>
    have := decidableLinked (digest a) l
    inferInstanceAs (Decidable (previous a = origin ∧ Linked digest previous (digest a) l))

/-- The digest that a record appended to a chain has to name. -/
def tip : δ → List α → δ
  | origin, [] => origin
  | _, a :: l => tip (digest a) l

variable {digest previous} {origin : δ} {l l' : List α} {a b : α}

/-- The tip of a chain is the digest of its last record. -/
theorem tip_concat : tip digest origin (l ++ [a]) = digest a := by
  induction l generalizing origin with
  | nil => rfl
  | cons c l ih => exact ih

/-- A chain is extended by a record that names its tip, and by no other one. -/
theorem linked_concat : Linked digest previous origin (l ++ [a]) ↔
    Linked digest previous origin l ∧ previous a = tip digest origin l := by
  induction l generalizing origin with
  | nil => exact and_comm
  | cons c l ih =>
    rw [List.cons_append, Linked, Linked, tip, ih, and_assoc]

/-- An initial segment of a chain is a chain. -/
theorem Linked.of_append (h : Linked digest previous origin (l ++ l')) :
    Linked digest previous origin l := by
  induction l generalizing origin with
  | nil => trivial
  | cons c l ih => exact ⟨h.1, ih h.2⟩

/-- **The last digest commits to the chain**: two chains with one last digest have the same
digests, when records with one digest name one predecessor and none has the origin for its
digest. -/
theorem Linked.map_digest_eq (h : Linked digest previous origin l)
    (h' : Linked digest previous origin l')
    (hprevious : ∀ a ∈ l, ∀ b ∈ l', digest a = digest b → previous a = previous b)
    (horigin : ∀ a ∈ l ++ l', digest a ≠ origin)
    (htip : tip digest origin l = tip digest origin l') :
    l.map digest = l'.map digest := by
  induction l using List.reverseRecOn generalizing l' with
  | nil =>
    cases l' using List.reverseRecOn with
    | nil => rfl
    | append_singleton l' b =>
      rw [tip_concat] at htip
      exact absurd htip.symm (horigin b (by simp))
  | append_singleton l a ih =>
    cases l' using List.reverseRecOn with
    | nil =>
      rw [tip_concat] at htip
      exact absurd htip (horigin a (by simp))
    | append_singleton l' b =>
      rw [tip_concat, tip_concat] at htip
      obtain ⟨hl, ha⟩ := linked_concat.1 h
      obtain ⟨hl', hb⟩ := linked_concat.1 h'
      have hstep : tip digest origin l = tip digest origin l' := by
        rw [← ha, ← hb]
        exact hprevious a (by simp) b (by simp) htip
      have hrest := ih hl hl'
        (fun a ha b hb => hprevious a (List.mem_append_left _ ha) b (List.mem_append_left _ hb))
        (fun c hc => horigin c (by
          rcases List.mem_append.1 hc with hc | hc
          · exact List.mem_append_left _ (List.mem_append_left _ hc)
          · exact List.mem_append_right _ (List.mem_append_left _ hc)))
        hstep
      rw [List.map_append, List.map_append, hrest, List.map_singleton, List.map_singleton, htip]

/-- A chain that ends in a record of another is an initial segment of it. -/
theorem Linked.isPrefix (h : Linked digest previous origin (l ++ [a]))
    (h' : Linked digest previous origin l')
    (hprevious : ∀ x ∈ l ++ [a], ∀ y ∈ l', digest x = digest y → previous x = previous y)
    (horigin : ∀ x ∈ l ++ [a] ++ l', digest x ≠ origin) (hmem : digest a ∈ l'.map digest) :
    (l ++ [a]).map digest <+: l'.map digest := by
  obtain ⟨b, hb, hab⟩ := List.mem_map.1 hmem
  obtain ⟨l₁, l₂, rfl⟩ := List.append_of_mem hb
  rw [List.append_cons l₁ b l₂] at h' hprevious horigin ⊢
  have heq := h.map_digest_eq h'.of_append
    (fun a ha b hb => hprevious a ha b (List.mem_append_left _ hb))
    (fun c hc => horigin c (by
      rcases List.mem_append.1 hc with hc | hc
      · exact List.mem_append_left _ hc
      · exact List.mem_append_right _ (List.mem_append_left _ hc)))
    (by rw [tip_concat, tip_concat, hab])
  rw [heq]
  exact (List.prefix_append _ _).map digest

end HashChain
