/-
# Processes that run programs one after the other

`Reach` abandons every program in the end.  A process instead lives from program to
program: what it holds in memory is there for the next one, until it crashes, between two
programs or inside one.

The application of `src/model_council/service.py` lives that way: its slots, its queue and its
futures are in memory, its bindings and runs in stores.  `Life.guarantee` is the rule for it, as
`Reach.guarantee` is the rule for a command that starts from its store each time.

`Keeps` is for the many small programs of such an application that all preserve one relation: the
relation is composed along sequences, so that a program is checked by walking through its text.
-/

import CouncilLogic.Lib.Prog

namespace Prog

variable {σ ε Q : Type} {A : Q → Type} {α β : Type} {R : Rules σ Q A}

/-- A program of the family starts, moves, ends or raises; or the process crashes. -/
inductive Turn (progs : Prog σ ε Q A α → Prop) (lose : σ → σ) :
    Config σ ε Q A α → Config σ ε Q A α → Prop
  | start (p : Prog σ ε Q A α) (s : σ) (hp : progs p) : Turn progs lose (.idle s) (.active p s)
  | step (p p' : Prog σ ε Q A α) (s s' : σ) (h : Step (p, s) (p', s')) :
      Turn progs lose (.active p s) (.active p' s')
  | finish (a : α) (s : σ) : Turn progs lose (.active (.pure a) s) (.idle s)
  | fail (e : ε) (s : σ) : Turn progs lose (.active (.raise e) s) (.idle s)
  | crash (c : Config σ ε Q A α) : Turn progs lose c (.idle (lose c.state))

/-- Any number of programs and crashes. -/
abbrev Life (progs : Prog σ ε Q A α → Prop) (lose : σ → σ) :
    Config σ ε Q A α → Config σ ε Q A α → Prop :=
  Relation.ReflTransGen (Turn progs lose)

/-- **Every state of a life is reached by guaranteed writes and losses.**  `inv` is what a
program may assume when it starts; every write and every loss preserves it. -/
theorem Life.guarantee {progs : Prog σ ε Q A α → Prop} {lose : σ → σ} {inv : σ → Prop}
    (henv : ∀ q a, R.env q a)
    (hwp : ∀ p, progs p → ∀ s, inv s → wp R (fun _ _ => True) (fun _ _ => True) p s)
    (hinv : ∀ s s', R.Moves lose s s' → inv s → inv s') {c c' : Config σ ε Q A α}
    (h : Life progs lose c c') (hc : inv c.state) (hs : c.Safe R) :
    Relation.ReflTransGen (R.Moves lose) c.state c'.state ∧ inv c'.state ∧ c'.Safe R := by
  have hinv' : ∀ s s', Relation.ReflTransGen (R.Moves lose) s s' → inv s → inv s' := by
    intro s s' hss hi
    induction hss with
    | refl => exact hi
    | tail _ hlast ih => exact hinv _ _ hlast ih
  induction h with
  | refl => exact ⟨.refl, hc, hs⟩
  | tail _ hlast ih =>
    obtain ⟨hreach, hi, hsafe⟩ := ih
    cases hlast with
    | start p s hp => exact ⟨hreach, hi, hwp p hp s hi⟩
    | step p p' s s' hstep =>
      obtain ⟨hss, hw⟩ := wp_step henv hstep hsafe
      have hss' := Relation.ReflTransGen.mono (p := R.Moves lose) (fun _ _ => Or.inl) _ _ hss
      exact ⟨hreach.trans hss', hinv' _ _ hss' hi, hw⟩
    | finish a s => exact ⟨hreach, hi, trivial⟩
    | fail e s => exact ⟨hreach, hi, trivial⟩
    | crash => exact ⟨hreach.tail (.inr rfl), hinv _ _ (.inr rfl) hi, trivial⟩

/-- A program of the family that runs to its end. -/
theorem life_run {progs : Prog σ ε Q A α → Prop} {lose : σ → σ} {p : Prog σ ε Q A α}
    (hp : progs p) (oracle : ℕ → (q : Q) → A q) (n : ℕ) (s : σ) :
    Life progs lose (.idle s) (.idle (p.run oracle n s).2) := by
  have hactive : Life progs lose (.active p s) (.idle (p.run oracle n s).2) := by
    clear hp
    induction p generalizing n s with
    | pure a => exact .single (.finish a s)
    | raise e => exact .single (.fail e s)
    | get k ih => exact (ih s n s).head (.step _ _ _ _ (.get k s))
    | put s' k ih => exact (ih n s').head (.step _ _ _ _ (.put s s' k))
    | ask q k ih => exact (ih _ (n + 1) s).head (.step _ _ _ _ (.ask q k _ s))
  exact hactive.head (.start p s hp)

/-- A program satisfies trivial postconditions where its writes need no guarantee. -/
theorem wp_trivial (hguar : ∀ s s', R.guar s s') {p : Prog σ ε Q A α} {s : σ} :
    wp R (fun _ _ => True) (fun _ _ => True) p s := by
  induction p generalizing s with
  | pure a => trivial
  | raise e => trivial
  | get k ih => exact ih s
  | put s' k ih => exact ⟨hguar s s', ih⟩
  | ask q k ih => exact fun a _ => ih a

/-! ## Programs that keep a relation -/

/-- Every write of the program is guaranteed, and its end is related to its beginning. -/
def Keeps (R : Rules σ Q A) (keep : σ → σ → Prop) (p : Prog σ ε Q A α) : Prop :=
  ∀ s, wp R (fun _ s' => keep s s') (fun _ s' => keep s s') p s

section Keeps
variable {keep : σ → σ → Prop} {p : Prog σ ε Q A α}

/-- A program that returns at once keeps every reflexive relation. -/
theorem keeps_pure (hrefl : ∀ s, keep s s) (a : α) : Keeps R keep (pure a : Prog σ ε Q A α) :=
  fun s => hrefl s

/-- A program that raises at once keeps every reflexive relation. -/
theorem keeps_raise (hrefl : ∀ s, keep s s) (e : ε) : Keeps R keep (.raise e : Prog σ ε Q A α) :=
  fun s => hrefl s

/-- A question changes nothing, whatever is answered. -/
theorem keeps_query (hrefl : ∀ s, keep s s) (q : Q) :
    Keeps R keep (query q : Prog σ ε Q A (A q)) :=
  fun s _ _ => hrefl s

/-- Along a sequence a transitive relation is kept if both parts keep it. -/
theorem Keeps.bind (htrans : ∀ {a b c}, keep a b → keep b c → keep a c) (hp : Keeps R keep p)
    {f : α → Prog σ ε Q A β} (hf : ∀ a, Keeps R keep (f a)) : Keeps R keep (p >>= f) := by
  intro s
  refine wp_bind.2 (wp_mono (fun a s' h => ?_) (fun _ _ h => h) (hp s))
  exact wp_mono (fun _ _ h' => htrans h h') (fun _ _ h' => htrans h h') (hf a s')

/-- A program whose exception is caught keeps what it keeps when it raises. -/
theorem Keeps.catching (hp : Keeps R keep p) : Keeps R keep p.catching :=
  fun s => wp_catching.2 (hp s)

/-- Reading the state, and going on with it. -/
theorem keeps_read {f : σ → Prog σ ε Q A β}
    (hf : ∀ s, wp R (fun _ s' => keep s s') (fun _ s' => keep s s') (f s) s) :
    Keeps R keep (read >>= f) :=
  fun s => wp_bind.2 (hf s)

end Keeps

end Prog
