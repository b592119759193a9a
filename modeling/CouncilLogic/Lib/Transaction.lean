/-
# Transactions

A transaction reads and writes a state and may raise in between.  `atomically` undoes what
was written when it does: either all of its writes remain, or none.  The laws say when a
sequence of steps returns, and that a method made of checks and one transaction raises
without a trace.

A method of a store is written as `with self._connect() as connection:` around reads and writes,
with checks of its arguments before; here it is `check …; atomically …`.  The inversion laws are
equivalences and meant as rewriting rules: `simp only` with them turns "the method returned" into
the list of what was read, checked and written on the way.
-/

import Mathlib.Init

/-- **What comes after a step that may raise** is only reached when the step returns. -/
theorem Except.bind_ok_iff {ε α β : Type} {x : Except ε α} {f : α → Except ε β} {b : β} :
    (x >>= f) = .ok b ↔ ∃ a, x = .ok a ∧ f a = .ok b := by
  cases x with
  | error e => exact iff_of_false (by rintro ⟨⟩) (by rintro ⟨a, ⟨⟩, -⟩)
  | ok a =>
    constructor
    · intro h
      exact ⟨a, rfl, h⟩
    · rintro ⟨a', ha, h⟩
      cases ha
      exact h

/-- Two checks one after the other pass when each of them does. -/
theorem Except.seq_ok_iff {ε : Type} {p q : Except ε Unit} :
    (do p; q) = .ok () ↔ p = .ok () ∧ q = .ok () := by
  cases p with
  | ok u => exact (and_iff_right rfl).symm
  | error e => exact iff_of_false (by rintro ⟨⟩) (by rintro ⟨⟨⟩, -⟩)

/-- A computation that reads and writes a state; what has been written stays when it
raises. -/
structure Transaction (σ ε α : Type) where
  run : σ → Except ε α × σ

namespace Transaction

variable {σ ε α β : Type}

instance : Monad (Transaction σ ε) where
  pure a := ⟨fun s => (.ok a, s)⟩
  bind p f := ⟨fun s =>
    match p.run s with
    | (.ok a, s') => (f a).run s'
    | (.error e, s') => (.error e, s')⟩

/-- What has been computed, or its exception. -/
def check (x : Except ε α) : Transaction σ ε α := ⟨fun s => (x, s)⟩

/-- Raise under a condition. -/
def refuse (c : Prop) [Decidable c] (e : ε) : Transaction σ ε Unit :=
  check (if c then .error e else .ok ())

/-- The read of the state. -/
def read : Transaction σ ε σ := ⟨fun s => (.ok s, s)⟩

/-- A write to the state. -/
def write (f : σ → σ) : Transaction σ ε Unit := ⟨fun s => (.ok (), f s)⟩

/-- A transaction: rolled back when its body raises. -/
def atomically (body : Transaction σ ε α) : Transaction σ ε α := ⟨fun s =>
  match body.run s with
  | (.ok a, s') => (.ok a, s')
  | (.error e, _) => (.error e, s)⟩

/-! ### Returning -/

/-- A sequence runs its second part on the state and the value of the first, and stops where the
first raises. -/
theorem run_bind (p : Transaction σ ε α) (f : α → Transaction σ ε β) (s : σ) :
    (p >>= f).run s = match p.run s with
      | (.ok a, s') => (f a).run s'
      | (.error e, s') => (.error e, s') := rfl

/-- **A sequence returns** when its first part returns and its second part then does. -/
theorem bind_ok_iff {p : Transaction σ ε α} {f : α → Transaction σ ε β} {s s' : σ} {b : β} :
    (p >>= f).run s = (.ok b, s') ↔
      ∃ a s₁, p.run s = (.ok a, s₁) ∧ (f a).run s₁ = (.ok b, s') := by
  rw [run_bind]
  rcases p.run s with ⟨x, s₁⟩
  cases x with
  | ok a =>
    constructor
    · intro hf
      exact ⟨a, s₁, rfl, hf⟩
    · rintro ⟨a', s', heq, hf⟩
      cases heq
      exact hf
  | error e => exact ⟨nofun, fun ⟨_, _, heq, _⟩ => nomatch heq⟩

/-- A sequence raises in its first part, or in its second part after the first has returned. -/
theorem bind_error_iff {p : Transaction σ ε α} {f : α → Transaction σ ε β} {s s' : σ} {e : ε} :
    (p >>= f).run s = (.error e, s') ↔ p.run s = (.error e, s') ∨
      ∃ a s₁, p.run s = (.ok a, s₁) ∧ (f a).run s₁ = (.error e, s') := by
  rw [run_bind]
  rcases p.run s with ⟨x, s₁⟩
  cases x with
  | ok a =>
    constructor
    · intro hf
      exact .inr ⟨a, s₁, rfl, hf⟩
    · rintro (heq | ⟨a', s', heq, hf⟩)
      · cases heq
      · cases heq
        exact hf
  | error e =>
    constructor
    · intro heq
      cases heq
      exact .inl rfl
    · rintro (heq | ⟨_, _, heq, -⟩)
      · cases heq
        rfl
      · cases heq

/-- A value is returned, and nothing else happens. -/
theorem pure_ok_iff {s s' : σ} {a b : α} :
    (pure a : Transaction σ ε α).run s = (.ok b, s') ↔ a = b ∧ s = s' := by
  show ((.ok a, s) : Except ε α × σ) = _ ↔ _
  rw [Prod.mk.injEq, Except.ok.injEq]

/-- A check returns when its argument is a value, and changes nothing. -/
theorem check_ok_iff {x : Except ε α} {s s' : σ} {a : α} :
    (check x).run s = (.ok a, s') ↔ x = .ok a ∧ s = s' := Prod.mk.injEq .. ▸ Iff.rfl

/-- A refusal returns when its condition fails, and changes nothing. -/
theorem refuse_ok_iff {c : Prop} [Decidable c] {e : ε} {s s' : σ} {u : Unit} :
    (refuse c e).run s = (.ok u, s') ↔ ¬ c ∧ s = s' := by
  unfold refuse
  rw [check_ok_iff]
  refine and_congr_left fun _ => ?_
  split <;> simp [*]

/-- Reading returns the state, and changes nothing. -/
theorem read_ok_iff {s s' a : σ} :
    (read : Transaction σ ε σ).run s = (.ok a, s') ↔ s = a ∧ s = s' := by
  show ((.ok s, s) : Except ε σ × σ) = _ ↔ _
  rw [Prod.mk.injEq, Except.ok.injEq]

/-- Writing always returns. -/
theorem write_ok_iff {f : σ → σ} {s s' : σ} {u : Unit} :
    (write f : Transaction σ ε Unit).run s = (.ok u, s') ↔ f s = s' := by
  show ((.ok (), f s) : Except ε Unit × σ) = _ ↔ _
  rw [Prod.mk.injEq]
  exact and_iff_right rfl

/-- A transaction that returns has done what its body does: nothing is undone. -/
theorem atomically_ok_iff {body : Transaction σ ε α} {s s' : σ} {a : α} :
    (atomically body).run s = (.ok a, s') ↔ body.run s = (.ok a, s') := by
  unfold atomically
  dsimp only
  rcases body.run s with ⟨x, s₁⟩
  cases x with
  | ok b => rfl
  | error e => exact ⟨nofun, nofun⟩

/-! ### Raising -/

/-- It only reads. -/
def Reads (p : Transaction σ ε α) : Prop := ∀ s, (p.run s).2 = s

/-- What it raises leaves no trace. -/
def AllOrNothing (p : Transaction σ ε α) : Prop :=
  ∀ {s e s'}, p.run s = (.error e, s') → s' = s

/-- A check writes nothing, whether it raises or not. -/
theorem reads_check (x : Except ε α) : Reads (check x : Transaction σ ε α) := fun _ => rfl

/-- A refusal writes nothing, whether it raises or not. -/
theorem reads_refuse (c : Prop) [Decidable c] (e : ε) :
    Reads (refuse c e : Transaction σ ε Unit) := fun _ => rfl

/-- **A transaction raises without a trace**: the state is the one it began with. -/
theorem AllOrNothing.atomically (body : Transaction σ ε α) :
    AllOrNothing (atomically body) := by
  intro s e s' h
  unfold Transaction.atomically at h
  dsimp only at h
  split at h
  · cases h
  · cases h
    rfl

/-- Checks before it leave no trace either. -/
theorem AllOrNothing.bind {p : Transaction σ ε α} {f : α → Transaction σ ε β} (hp : Reads p)
    (hf : ∀ a, AllOrNothing (f a)) : AllOrNothing (p >>= f) := by
  intro s e s' h
  have hs := hp s
  rcases bind_error_iff.1 h with hraise | ⟨a, s₁, ha, hraise⟩
  · rw [hraise] at hs
    exact hs
  · rw [ha] at hs
    obtain rfl : s₁ = s := hs
    exact hf a hraise

end Transaction
