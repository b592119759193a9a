/-
# Programs over a shared state that may stop at any point

A `Prog` reads and writes a state, asks its environment questions and may raise.
Nothing is known about the answers: a clock, a scheduler, a remote party and a
random source are all questions.  A program that is abandoned half-way leaves
behind the state of its last write, so *crash safety* is a statement about every
state that is reachable, not about the final one.

`wp` is the weakest precondition of a program for a guarantee `guar` on every
single write, an assumption `env` on the answers, and postconditions for normal
and exceptional ends.  `Reach` runs programs one after the other on one state,
each of them abandoned anywhere; `lose` says what of the state was only in memory.
`Reach.guarantee` is the rule that turns one `wp` proof per program into a fact
about all reachable states: the state moves by guaranteed writes and losses only,
whatever is asked, answered, raised or abandoned.

Everything asynchronous or external about `src/model_council/engine.py` and
`src/model_council/service.py` is modelled with it: a completed future, a gate, the clock, a
provider and a crash are all answers or abandonments.  A proof never chooses a schedule; it is an
obligation for each answer.

For the runs on fixed inputs that show a theorem's hypotheses to be satisfiable there are `run`,
against an oracle, and `Ends`, which follows one run step by step.
-/

import Mathlib.Data.Nat.Notation
import Mathlib.Logic.Relation

/-- A program on state `σ` with exceptions `ε` that asks questions `q : Q`
answered in `A q`. -/
inductive Prog (σ ε Q : Type) (A : Q → Type) (α : Type) : Type
  | pure (a : α)
  | raise (e : ε)
  | get (k : σ → Prog σ ε Q A α)
  | put (s : σ) (k : Prog σ ε Q A α)
  | ask (q : Q) (k : A q → Prog σ ε Q A α)

namespace Prog

variable {σ ε Q : Type} {A : Q → Type} {α β γ : Type}

/-- Sequencing: `f` takes over where `p` ends normally. -/
def bind : Prog σ ε Q A α → (α → Prog σ ε Q A β) → Prog σ ε Q A β
  | .pure a, f => f a
  | .raise e, _ => .raise e
  | .get k, f => .get fun s => (k s).bind f
  | .put s k, f => .put s (k.bind f)
  | .ask q k, f => .ask q fun a => (k a).bind f

instance : Monad (Prog σ ε Q A) where
  pure := .pure
  bind := .bind

/-- The sequence of the monad is the function `bind`, by which it is defined. -/
theorem bind_eq (p : Prog σ ε Q A α) (f : α → Prog σ ε Q A β) : p >>= f = p.bind f := rfl

/-- A program after which nothing is done is the program. -/
theorem bind_pure_right (p : Prog σ ε Q A α) : p.bind .pure = p := by
  induction p with
  | pure a => rfl
  | raise e => rfl
  | get k ih => simp only [bind, ih]
  | put s k ih => simp only [bind, ih]
  | ask q k ih => simp only [bind, ih]

/-- Sequences may be bracketed either way. -/
theorem bind_assoc (p : Prog σ ε Q A α) (f : α → Prog σ ε Q A β) (g : β → Prog σ ε Q A γ) :
    (p.bind f).bind g = p.bind fun a => (f a).bind g := by
  induction p with
  | pure a => rfl
  | raise e => rfl
  | get k ih => simp only [bind, ih]
  | put s k ih => simp only [bind, ih]
  | ask q k ih => simp only [bind, ih]

instance : LawfulMonad (Prog σ ε Q A) :=
  LawfulMonad.mk' _ bind_pure_right (fun _ _ => rfl) bind_assoc

/-- The current state. -/
def read : Prog σ ε Q A σ := .get .pure

/-- Replace the state. -/
def write (s : σ) : Prog σ ε Q A Unit := .put s (.pure ())

/-- Ask the environment. -/
def query (q : Q) : Prog σ ε Q A (A q) := .ask q .pure

/-- The end of a fallible computation. -/
def ofExcept : Except ε α → Prog σ ε Q A α
  | .ok a => .pure a
  | .error e => .raise e

/-- Catch what a program raises. -/
def catching : Prog σ ε Q A α → Prog σ ε Q A (Except ε α)
  | .pure a => .pure (.ok a)
  | .raise e => .pure (.error e)
  | .get k => .get fun s => (k s).catching
  | .put s k => .put s k.catching
  | .ask q k => .ask q fun a => (k a).catching

/-- Run to the end, asking `oracle` for the `n`-th answer. -/
def run (oracle : ℕ → (q : Q) → A q) : Prog σ ε Q A α → ℕ → σ → Except ε α × σ
  | .pure a, _, s => (.ok a, s)
  | .raise e, _, s => (.error e, s)
  | .get k, n, s => (k s).run oracle n s
  | .put s k, n, _ => k.run oracle n s
  | .ask q k, n, s => (k (oracle n q)).run oracle (n + 1) s

/-! ## Weakest preconditions -/

/-- What a proof may assume of the answers and must show of the writes. -/
structure Rules (σ Q : Type) (A : Q → Type) where
  env : (q : Q) → A q → Prop
  guar : σ → σ → Prop

variable {R : Rules σ Q A} {post post' : α → σ → Prop} {exc exc' : ε → σ → Prop}

/-- From state `s`, every write of `p` is guaranteed, a normal end satisfies
`post` and an exceptional one `exc`, for all admissible answers. -/
def wp (R : Rules σ Q A) (post : α → σ → Prop) (exc : ε → σ → Prop) :
    Prog σ ε Q A α → σ → Prop
  | .pure a, s => post a s
  | .raise e, s => exc e s
  | .get k, s => wp R post exc (k s) s
  | .put s' k, s => R.guar s s' ∧ wp R post exc k s'
  | .ask q k, s => ∀ a, R.env q a → wp R post exc (k a) s

/-- A program that returns at once needs its postcondition at the state it starts in. -/
@[simp] theorem wp_pure (a : α) (s : σ) :
    wp R post exc (pure a : Prog σ ε Q A α) s ↔ post a s := Iff.rfl

/-- A program that raises at once needs its exceptional postcondition at the state it starts in.
-/
@[simp] theorem wp_raise (e : ε) (s : σ) :
    wp R post exc (.raise e : Prog σ ε Q A α) s ↔ exc e s := Iff.rfl

/-- Reading returns the state and leaves it. -/
@[simp] theorem wp_read {post : σ → σ → Prop} (s : σ) :
    wp R post exc (read : Prog σ ε Q A σ) s ↔ post s s := Iff.rfl

/-- Writing is where a guarantee is owed: from the state before to the state that is written. -/
@[simp] theorem wp_write {post : Unit → σ → Prop} (s s' : σ) :
    wp R post exc (write s' : Prog σ ε Q A Unit) s ↔ R.guar s s' ∧ post () s' := Iff.rfl

/-- A question may be answered in every way that the environment allows, and the state stays. -/
@[simp] theorem wp_query (q : Q) {post : A q → σ → Prop} (s : σ) :
    wp R post exc (query q : Prog σ ε Q A (A q)) s ↔ ∀ a, R.env q a → post a s := Iff.rfl

/-- A pure part that may raise needs the postcondition for its value, or the exceptional one for
its error. -/
theorem wp_ofExcept (x : Except ε α) (s : σ) :
    wp R post exc (ofExcept x : Prog σ ε Q A α) s ↔
      (∀ a, x = .ok a → post a s) ∧ ∀ e, x = .error e → exc e s := by
  cases x <;> simp [ofExcept]

/-- The sequencing rule. -/
theorem wp_bind {p : Prog σ ε Q A α} {f : α → Prog σ ε Q A β} {post : β → σ → Prop} {s : σ} :
    wp R post exc (p >>= f) s ↔ wp R (fun a s => wp R post exc (f a) s) exc p s := by
  rw [bind_eq]
  induction p generalizing s with
  | pure a => rfl
  | raise e => rfl
  | get k ih => simp only [bind, wp, ih]
  | put s' k ih => simp only [bind, wp, ih]
  | ask q k ih => simp only [bind, wp, ih]

/-- The rule for caught exceptions. -/
theorem wp_catching {p : Prog σ ε Q A α} {post : Except ε α → σ → Prop} {s : σ} :
    wp R post exc p.catching s ↔
      wp R (fun a s => post (.ok a) s) (fun e s => post (.error e) s) p s := by
  induction p generalizing s with
  | pure a => rfl
  | raise e => rfl
  | get k ih => simp only [catching, wp, ih]
  | put s' k ih => simp only [catching, wp, ih]
  | ask q k ih => simp only [catching, wp, ih]

/-- The rule of consequence. -/
theorem wp_mono {p : Prog σ ε Q A α} {s : σ} (hp : ∀ a s, post a s → post' a s)
    (he : ∀ e s, exc e s → exc' e s) (h : wp R post exc p s) : wp R post' exc' p s := by
  induction p generalizing s with
  | pure a => exact hp a s h
  | raise e => exact he e s h
  | get k ih => exact ih s h
  | put s' k ih => exact ⟨h.1, ih h.2⟩
  | ask q k ih => exact fun a ha => ih a (h a ha)

/-- The sequencing rule with an intermediate assertion. -/
theorem wp_seq {p : Prog σ ε Q A α} {f : α → Prog σ ε Q A β} {mid : α → σ → Prop}
    {post : β → σ → Prop} {s : σ} (hp : wp R mid exc p s)
    (hf : ∀ a s, mid a s → wp R post exc (f a) s) : wp R post exc (p >>= f) s :=
  wp_bind.2 (wp_mono hf (fun _ _ h => h) hp)

/-- Ends are reached through guaranteed writes: both postconditions may remember
the state the program began in. -/
theorem wp_remember {p : Prog σ ε Q A α} {s : σ} (h : wp R post exc p s) :
    wp R (fun a s' => Relation.ReflTransGen R.guar s s' ∧ post a s')
      (fun e s' => Relation.ReflTransGen R.guar s s' ∧ exc e s') p s := by
  suffices H : ∀ s₀, Relation.ReflTransGen R.guar s₀ s →
      wp R (fun a s' => Relation.ReflTransGen R.guar s₀ s' ∧ post a s')
        (fun e s' => Relation.ReflTransGen R.guar s₀ s' ∧ exc e s') p s from H s .refl
  induction p generalizing s with
  | pure a => exact fun s₀ hs => ⟨hs, h⟩
  | raise e => exact fun s₀ hs => ⟨hs, h⟩
  | get k ih => exact fun s₀ hs => ih s h s₀ hs
  | put s' k ih => exact fun s₀ hs => ⟨h.1, ih h.2 s₀ (hs.tail h.1)⟩
  | ask q k ih => exact fun s₀ hs a ha => ih a (h a ha) s₀ hs

/-- A stronger assumption on the answers and a weaker guarantee on the writes. -/
theorem wp_rules {R' : Rules σ Q A} {p : Prog σ ε Q A α} {s : σ}
    (henv : ∀ q a, R'.env q a → R.env q a) (hguar : ∀ s s', R.guar s s' → R'.guar s s')
    (h : wp R post exc p s) : wp R' post exc p s := by
  induction p generalizing s with
  | pure a => exact h
  | raise e => exact h
  | get k ih => exact ih s h
  | put s' k ih => exact ⟨hguar _ _ h.1, ih h.2⟩
  | ask q k ih => exact fun a ha => ih a (h a (henv q a ha))

/-- `wp` is sound for complete runs. -/
theorem wp_run {oracle : ℕ → (q : Q) → A q} (henv : ∀ n q, R.env q (oracle n q))
    {p : Prog σ ε Q A α} {n : ℕ} {s s' : σ} {r : Except ε α} (h : wp R post exc p s)
    (hr : p.run oracle n s = (r, s')) :
    (∀ a, r = .ok a → post a s') ∧ ∀ e, r = .error e → exc e s' := by
  induction p generalizing n s with
  | pure a =>
    cases hr
    exact ⟨fun _ ha => Except.ok.inj ha ▸ h, fun _ he => nomatch he⟩
  | raise e =>
    cases hr
    exact ⟨fun _ ha => (nomatch ha), fun _ he => Except.error.inj he ▸ h⟩
  | get k ih => exact ih s h hr
  | put s₁ k ih => exact ih h.2 hr
  | ask q k ih => exact ih _ (h _ (henv n q)) hr

/-! ## Abandoned and repeated programs -/

/-- One step of a running program. -/
inductive Step : Prog σ ε Q A α × σ → Prog σ ε Q A α × σ → Prop
  | get (k : σ → Prog σ ε Q A α) (s : σ) : Step (.get k, s) (k s, s)
  | put (s s' : σ) (k : Prog σ ε Q A α) : Step (.put s' k, s) (k, s')
  | ask (q : Q) (k : A q → Prog σ ε Q A α) (a : A q) (s : σ) : Step (.ask q k, s) (k a, s)

/-- Between two programs, or inside one. -/
inductive Config (σ ε Q : Type) (A : Q → Type) (α : Type) : Type
  | idle (s : σ)
  | active (p : Prog σ ε Q A α) (s : σ)

/-- The state of a configuration. -/
def Config.state : Config σ ε Q A α → σ
  | .idle s => s
  | .active _ s => s

/-- A program of the family starts, moves, or stops: at its end, or because it is
abandoned there.  What a program held in memory is lost when it stops. -/
inductive Move (progs : Prog σ ε Q A α → Prop) (lose : σ → σ) :
    Config σ ε Q A α → Config σ ε Q A α → Prop
  | start (p : Prog σ ε Q A α) (s : σ) (hp : progs p) : Move progs lose (.idle s) (.active p s)
  | step (p p' : Prog σ ε Q A α) (s s' : σ) (h : Step (p, s) (p', s')) :
      Move progs lose (.active p s) (.active p' s')
  | stop (p : Prog σ ε Q A α) (s : σ) : Move progs lose (.active p s) (.idle (lose s))

/-- Any number of programs of the family, one after the other, each abandoned
anywhere. -/
abbrev Reach (progs : Prog σ ε Q A α → Prop) (lose : σ → σ) :
    Config σ ε Q A α → Config σ ε Q A α → Prop :=
  Relation.ReflTransGen (Move progs lose)

/-- **One step of a run keeps the obligation**: what was proved of a program is proved of what is
left of it, and the state moved by guaranteed writes. -/
theorem wp_step {p p' : Prog σ ε Q A α} {s s' : σ} (henv : ∀ q a, R.env q a)
    (h : Step (p, s) (p', s')) (hw : wp R post exc p s) :
    Relation.ReflTransGen R.guar s s' ∧ wp R post exc p' s' := by
  cases h with
  | get k => exact ⟨.refl, hw⟩
  | put => exact ⟨.single hw.1, hw.2⟩
  | ask q k a => exact ⟨.refl, hw a (henv q a)⟩

/-- The part of a configuration that is carried from step to step: a running
program still satisfies its `wp`. -/
def Config.Safe (R : Rules σ Q A) : Config σ ε Q A α → Prop
  | .idle _ => True
  | .active p s => wp R (fun _ _ => True) (fun _ _ => True) p s

/-- How a state moves: by a guaranteed write, or by losing what was in memory. -/
def Rules.Moves (R : Rules σ Q A) (lose : σ → σ) (s s' : σ) : Prop := R.guar s s' ∨ s' = lose s

/-- **Every reachable state is reached by guaranteed writes and losses.**  `inv` is
what a program may assume when it starts; every write and every loss preserves
it. -/
theorem Reach.guarantee {progs : Prog σ ε Q A α → Prop} {lose : σ → σ} {inv : σ → Prop}
    (henv : ∀ q a, R.env q a)
    (hwp : ∀ p, progs p → ∀ s, inv s → wp R (fun _ _ => True) (fun _ _ => True) p s)
    (hinv : ∀ s s', R.Moves lose s s' → inv s → inv s') {c c' : Config σ ε Q A α}
    (h : Reach progs lose c c') (hc : inv c.state) (hs : c.Safe R) :
    Relation.ReflTransGen (R.Moves lose) c.state c'.state ∧ inv c'.state ∧ c'.Safe R := by
  have hinv' : ∀ s s', Relation.ReflTransGen (R.Moves lose) s s' → inv s → inv s' := by
    intro s s' hss hi
    induction hss with
    | refl => exact hi
    | tail _ hlast ih => exact hinv _ _ hlast ih
  induction h with
  | refl => exact ⟨.refl, hc, hs⟩
  | tail _ hlast ih =>
    obtain ⟨hreach, hi, hsafe⟩ := ih
    cases hlast with
    | start p s hp => exact ⟨hreach, hi, hwp p hp s hi⟩
    | step p p' s s' hstep =>
      obtain ⟨hss, hw⟩ := wp_step henv hstep hsafe
      have hss' := Relation.ReflTransGen.mono (p := R.Moves lose) (fun _ _ => Or.inl) _ _ hss
      exact ⟨hreach.trans hss', hinv' _ _ hss' hi, hw⟩
    | stop p s =>
      have hl : Relation.ReflTransGen (R.Moves lose) s (lose s) := .single (.inr rfl)
      exact ⟨hreach.trans hl, hinv' _ _ hl hi, trivial⟩

/-- Nothing is in memory between two programs. -/
theorem Reach.idle_lost {progs : Prog σ ε Q A α → Prop} {lose : σ → σ}
    (hlose : ∀ s, lose (lose s) = lose s) {s : σ} {c : Config σ ε Q A α}
    (h : Reach progs lose (.idle (lose s)) c) {t : σ} (hc : c = .idle t) : lose t = t := by
  induction h generalizing t with
  | refl =>
    cases hc
    exact hlose s
  | tail _ hlast _ =>
    cases hlast with
    | start => cases hc
    | step => cases hc
    | stop p s =>
      cases hc
      exact hlose s

/-! ## Following one run -/

/-- From `s`, for some answers, `p` ends normally with `a` in `s'`. -/
def Ends (p : Prog σ ε Q A α) (s : σ) (a : α) (s' : σ) : Prop :=
  Relation.ReflTransGen Step (p, s) (.pure a, s')

/-- From `s`, for some answers, `p` comes through `s'`. -/
def Passes (p : Prog σ ε Q A α) (s s' : σ) : Prop :=
  ∃ p', Relation.ReflTransGen Step (p, s) (p', s')

/-- From `s`, for some answers, `p` comes to `p'` in `s'`. -/
def Leads (p : Prog σ ε Q A α) (s : σ) (p' : Prog σ ε Q A α) (s' : σ) : Prop :=
  Relation.ReflTransGen Step (p, s) (p', s')

section Follow
variable {p p' : Prog σ ε Q A α} {f : α → Prog σ ε Q A β} {q : Prog σ ε Q A β} {a : α} {b : β}
  {e : ε} {s s' s'' : σ}

/-- The first part of a sequence steps as it does alone. -/
theorem Step.bind {p p' : Prog σ ε Q A α} {s s' : σ} (h : Step (p, s) (p', s'))
    (f : α → Prog σ ε Q A β) : Step (p.bind f, s) (p'.bind f, s') := by
  cases h with
  | get => exact .get _ _
  | put => exact .put _ _ _
  | ask q k a => exact .ask q _ a _

/-- A program whose exception is caught steps as it does without. -/
theorem Step.catching {p p' : Prog σ ε Q A α} {s s' : σ} (h : Step (p, s) (p', s')) :
    Step (p.catching, s) (p'.catching, s') := by
  cases h with
  | get => exact .get _ _
  | put => exact .put _ _ _
  | ask q k a => exact .ask q _ a _

/-- A program that returns at once has ended. -/
theorem ends_pure (a : α) (s : σ) : Ends (pure a : Prog σ ε Q A α) s a s := .refl

/-- Reading ends with the state. -/
theorem ends_read (s : σ) : Ends (read : Prog σ ε Q A σ) s s s := .single (.get _ s)

/-- Writing ends in the state that is written. -/
theorem ends_write (s s' : σ) : Ends (write s' : Prog σ ε Q A Unit) s () s' := .single (.put s s' _)

/-- A question ends with each of its answers. -/
theorem ends_query (q : Q) (a : A q) (s : σ) : Ends (query q : Prog σ ε Q A (A q)) s a s :=
  .single (.ask q _ a s)

/-- A pure part that returns a value ends with it. -/
theorem ends_ofExcept {x : Except ε α} (h : x = .ok a) (s : σ) :
    Ends (ofExcept x : Prog σ ε Q A α) s a s := by
  subst h
  exact .refl

/-- Steps of the first part of a sequence are steps of the sequence. -/
theorem steps_bind {c c' : Prog σ ε Q A α × σ} (h : Relation.ReflTransGen Step c c')
    (f : α → Prog σ ε Q A β) :
    Relation.ReflTransGen Step (c.1.bind f, c.2) (c'.1.bind f, c'.2) := by
  induction h with
  | refl => exact .refl
  | tail _ hlast ih => exact ih.tail (hlast.bind f)

/-- A whole run of a program is one of the program whose exception is caught. -/
theorem steps_catching {c c' : Prog σ ε Q A α × σ} (h : Relation.ReflTransGen Step c c') :
    Relation.ReflTransGen Step (c.1.catching, c.2) (c'.1.catching, c'.2) := by
  induction h with
  | refl => exact .refl
  | tail _ hlast ih => exact ih.tail hlast.catching

/-- A sequence ends where its second part ends, started where the first has ended. -/
theorem Ends.seq (h : Ends p s a s') (h' : Ends (f a) s' b s'') : Ends (p >>= f) s b s'' :=
  (steps_bind h f).trans h'

/-- A program that ends is not changed by catching exceptions. -/
theorem Ends.catching (h : Ends p s a s') : Ends p.catching s (.ok a) s' := steps_catching h

/-- A program that ends has passed through its last state. -/
theorem Ends.passes (h : Ends p s a s') : Passes p s s' := ⟨_, h⟩

/-- Catching exceptions changes nothing about the states on the way. -/
theorem Passes.catching (h : Passes p s s') : Passes p.catching s s' := by
  obtain ⟨p', hp⟩ := h
  exact ⟨p'.catching, steps_catching hp⟩

/-- Every program passes through the state it starts in. -/
theorem Passes.refl (p : Prog σ ε Q A α) (s : σ) : Passes p s s := ⟨p, .refl⟩

/-- A sequence passes through the states of its first part. -/
theorem Passes.left (h : Passes p s s') (f : α → Prog σ ε Q A β) : Passes (p >>= f) s s' := by
  obtain ⟨p', hp⟩ := h
  exact ⟨p'.bind f, steps_bind hp f⟩

/-- A sequence passes through the states of its second part. -/
theorem Ends.seq_passes (h : Ends p s a s') (h' : Passes (f a) s' s'') :
    Passes (p >>= f) s s'' := by
  obtain ⟨p', hp⟩ := h'
  exact ⟨p', (steps_bind h f).trans hp⟩

/-- A sequence comes to what its second part comes to. -/
theorem Ends.seq_leads (h : Ends p s a s') (h' : Leads (f a) s' q s'') : Leads (p >>= f) s q s'' :=
  (steps_bind h f).trans h'

/-- A program leads to itself before its first step. -/
theorem Leads.refl (p : Prog σ ε Q A α) (s : σ) : Leads p s p s := Relation.ReflTransGen.refl

/-- What a program leads to ends as the program does. -/
theorem Leads.ends (h : Leads p s p' s') (h' : Ends p' s' a s'') : Ends p s a s'' := h.trans h'

/-- What a program leads to passes through states of the program. -/
theorem Leads.passes (h : Leads p s p' s') (h' : Passes p' s' s'') : Passes p s s'' := by
  obtain ⟨p'', hp⟩ := h'
  exact ⟨p'', h.trans hp⟩

/-- The states a program passes through are reachable once it has started. -/
theorem Passes.reach {progs : Prog σ ε Q A α → Prop} {lose : σ → σ} (h : Passes p s s')
    (hp : progs p) : ∃ p', Reach progs lose (.idle s) (.active p' s') := by
  obtain ⟨p', hsteps⟩ := h
  refine ⟨p', .head (.start p s hp) ?_⟩
  have hmoves : ∀ c c' : Prog σ ε Q A α × σ, Relation.ReflTransGen Step c c' →
      Reach progs lose (.active c.1 c.2) (.active c'.1 c'.2) := by
    intro c c' hc
    induction hc with
    | refl => exact .refl
    | tail _ hlast ih => exact ih.tail (.step _ _ _ _ hlast)
  exact hmoves _ _ hsteps

end Follow

end Prog
