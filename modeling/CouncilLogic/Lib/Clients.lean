/-
# Clients of a shared state

A client is a program whose steps are transactions on one shared state.  Any number of
clients run at once: between two steps of one of them the others move, and each may stop
anywhere, at its end or because its process dies.

A proof about clients gives each of them a permission.  `Discipline` says what a client that
holds a permission may do (`may`), what it sees of the steps of others (`sees`) and which
permissions exclude each other (`apart`); `Sound` checks one client against it, whatever the
others do.  `Disciplined.turns` turns one proof per client into a fact about every state that
any interleaving reaches: all of its steps are permitted ones, and every answer satisfies its
postcondition.

The development uses it for the programs of `src/model_council/agent.py` and
`src/model_council/cli.py` that share one data directory: several processes, each of them a
sequence of SQLite transactions and of operations on files, may be alive at once.
`CouncilLogic.Agent.Custody` is the discipline they keep, and `CouncilLogic.Agent.ProgramLaws`
checks each program against it once.
-/

import Mathlib.Logic.Relation
import CouncilLogic.Lib.Transaction

/-- A program of transactions on `σ`: it is done, or its next step replaces the state. -/
inductive Client (σ ε α : Type) : Type
  | done (r : Except ε α)
  | call (next : σ → Client σ ε α) (write : σ → σ)

namespace Client

variable {σ ε α β P : Type}

/-- Sequencing: `f` takes over where a client is done. -/
def bind : Client σ ε α → (α → Client σ ε β) → Client σ ε β
  | .done (.ok a), f => f a
  | .done (.error e), _ => .done (.error e)
  | .call next write, f => .call (fun s => (next s).bind f) write

instance : Monad (Client σ ε) where
  pure a := .done (.ok a)
  bind := Client.bind

/-- The end of a computation that needs no state. -/
def ofExcept (r : Except ε α) : Client σ ε α := .done r

/-- One transaction. -/
def perform (t : Transaction σ ε α) : Client σ ε α :=
  .call (fun s => .done (t.run s).1) fun s => (t.run s).2

/-- A client that runs alone, to its end. -/
def alone : Client σ ε α → σ → Except ε α × σ
  | .done r, s => (r, s)
  | .call next write, s => (next s).alone (write s)

/-- A client that is one transaction and runs alone does what the transaction does. -/
theorem alone_perform (t : Transaction σ ε α) (s : σ) : (perform t).alone s = t.run s := rfl

/-- A client that runs alone goes on from where its first part has returned: nobody else moved in
between. -/
theorem alone_bind_ok {c : Client σ ε β} {f : β → Client σ ε α} {s s' : σ} {b : β}
    (h : c.alone s = (.ok b, s')) : (c >>= f).alone s = (f b).alone s' := by
  induction c generalizing s with
  | done r =>
    cases h
    rfl
  | call next write ih => exact ih s h

/-! ### Interleavings -/

/-- A client starts, makes a step, or stops. -/
inductive Turn (clients : Client σ ε α → Prop) :
    σ × List (Client σ ε α) → σ × List (Client σ ε α) → Prop
  | start (s : σ) (cs : List (Client σ ε α)) (c : Client σ ε α) (hc : clients c) :
      Turn clients (s, cs) (s, c :: cs)
  | step (s : σ) (before after : List (Client σ ε α)) (next : σ → Client σ ε α)
      (write : σ → σ) : Turn clients (s, before ++ .call next write :: after)
        (write s, before ++ next s :: after)
  | stop (s : σ) (before after : List (Client σ ε α)) (c : Client σ ε α) :
      Turn clients (s, before ++ c :: after) (s, before ++ after)

/-- Any number of turns, of any number of clients. -/
abbrev Turns (clients : Client σ ε α → Prop) :
    σ × List (Client σ ε α) → σ × List (Client σ ε α) → Prop :=
  Relation.ReflTransGen (Turn clients)

/-- A client that runs alone beside others that wait. -/
theorem turns_alone {clients : Client σ ε α → Prop} (c : Client σ ε α) (s : σ)
    (cs : List (Client σ ε α)) :
    Turns clients (s, c :: cs) ((c.alone s).2, .done (c.alone s).1 :: cs) := by
  induction c generalizing s with
  | done r => exact .refl
  | call next write ih => exact (ih s (write s)).head (.step s [] cs next write)

/-! ### Permissions -/

/-- The rules that clients keep. -/
structure Discipline (σ P : Type) where
  /-- What always holds of the state. -/
  inv : σ → Prop
  /-- What holds of the state while a permission is held. -/
  valid : P → σ → Prop
  /-- The steps of a client, with the permissions it holds before and after. -/
  may : P → P → σ → σ → Prop
  /-- The steps of the others, while a permission is held. -/
  sees : P → σ → σ → Prop
  apart : P → P → Prop
  /-- What every client begins with. -/
  start : P
  symm : ∀ {p q}, apart p q → apart q p
  apart_start : ∀ {p}, apart start p
  valid_start : ∀ {s}, inv s → valid start s
  keeps : ∀ {p p' s s'}, inv s → valid p s → may p p' s s' → inv s' ∧ valid p' s'
  frames : ∀ {p p' q s s'}, inv s → valid p s → valid q s → apart p q → may p p' s s' →
    sees q s s' ∧ valid q s' ∧ apart p' q

variable {D : Discipline σ P} {post post' : Except ε α → P → σ → Prop}

namespace Discipline

/-- What others may have done since. -/
abbrev Sees (D : Discipline σ P) (p : P) : σ → σ → Prop := Relation.ReflTransGen (D.sees p)

/-- A step of some client. -/
def Moves (D : Discipline σ P) (s s' : σ) : Prop :=
  D.inv s ∧ ∃ p p', D.valid p s ∧ D.may p p' s s'

/-- Every move of the discipline keeps the shared invariant, whoever makes it. -/
theorem Moves.inv {s s' : σ} (h : D.Moves s s') : D.inv s' := by
  obtain ⟨hinv, p, p', hvalid, hmay⟩ := h
  exact (D.keeps hinv hvalid hmay).1

end Discipline

/-- Whatever the others do, the client makes permitted steps only, and is done as `post`
says. -/
def Sound (D : Discipline σ P) (post : Except ε α → P → σ → Prop) :
    Client σ ε α → P → σ → Prop
  | .done r, p, s => post r p s
  | .call next write, p, s => ∀ s₁, D.Sees p s s₁ → D.inv s₁ → D.valid p s₁ →
      ∃ p', D.may p p' s₁ (write s₁) ∧ Sound D post (next s₁) p' (write s₁)

/-- A client that is sound for a postcondition is sound for every weaker one; the permissions it
holds and the steps it takes are the same. -/
theorem Sound.mono (hpost : ∀ r p s, post r p s → post' r p s) {c : Client σ ε α} {p : P} {s : σ}
    (h : c.Sound D post p s) : c.Sound D post' p s := by
  induction c generalizing p s with
  | done r => exact hpost r p s h
  | call next write ih =>
    intro s₁ hsees hinv hvalid
    obtain ⟨p', hmay, hnext⟩ := h s₁ hsees hinv hvalid
    exact ⟨p', hmay, ih s₁ hnext⟩

/-- The sequencing rule. -/
theorem Sound.bind {mid : Except ε β → P → σ → Prop} {c : Client σ ε β}
    {f : β → Client σ ε α} {p : P} {s : σ} (hc : c.Sound D mid p s)
    (hok : ∀ b p s, mid (.ok b) p s → (f b).Sound D post p s)
    (herror : ∀ e p s, mid (.error e) p s → post (.error e) p s) :
    (c >>= f).Sound D post p s := by
  induction c generalizing p s with
  | done r =>
    cases r with
    | ok b => exact hok b p s hc
    | error e => exact herror e p s hc
  | call next write ih =>
    intro s₁ hsees hinv hvalid
    obtain ⟨p', hmay, hnext⟩ := hc s₁ hsees hinv hvalid
    exact ⟨p', hmay, ih s₁ hnext⟩

/-- The rule of a transaction. -/
theorem sound_perform {t : Transaction σ ε α} {p : P} {s : σ}
    (h : ∀ s₁ r s₂, D.Sees p s s₁ → D.inv s₁ → D.valid p s₁ → t.run s₁ = (r, s₂) →
      ∃ p', D.may p p' s₁ s₂ ∧ post r p' s₂) : (perform t).Sound D post p s :=
  fun s₁ hsees hinv hvalid => h s₁ _ _ hsees hinv hvalid rfl

/-- The rule of a transaction and what follows it. -/
theorem sound_perform_bind {t : Transaction σ ε β} {f : β → Client σ ε α} {p : P} {s : σ}
    (h : ∀ s₁ r s₂, D.Sees p s s₁ → D.inv s₁ → D.valid p s₁ → t.run s₁ = (r, s₂) →
      ∃ p', D.may p p' s₁ s₂ ∧ (∀ b, r = .ok b → (f b).Sound D post p' s₂) ∧
        ∀ e, r = .error e → post (.error e) p' s₂) : (perform t >>= f).Sound D post p s := by
  intro s₁ hsees hinv hvalid
  obtain ⟨p', hmay, hok, herror⟩ := h s₁ _ _ hsees hinv hvalid rfl
  refine ⟨p', hmay, ?_⟩
  show Sound D post (Client.bind (.done (t.run s₁).1) f) p' (t.run s₁).2
  cases hr : (t.run s₁).1 with
  | ok b => exact hok b hr
  | error e => exact herror e hr

/-- The rule of a computation and what follows it. -/
theorem sound_ofExcept_bind {r : Except ε β} {f : β → Client σ ε α} {p : P} {s : σ}
    (hok : ∀ b, r = .ok b → (f b).Sound D post p s)
    (herror : ∀ e, r = .error e → post (.error e) p s) :
    (ofExcept r >>= f).Sound D post p s := by
  cases r with
  | ok b => exact hok b rfl
  | error e => exact herror e rfl

/-! ### Every interleaving -/

/-- A client with the permission it holds. -/
def Stands (D : Discipline σ P) (post : Except ε α → P → σ → Prop) (s : σ)
    (e : Client σ ε α × P) : Prop :=
  D.valid e.2 s ∧ ∃ s₀, D.Sees e.2 s₀ s ∧ e.1.Sound D post e.2 s₀

/-- The clients have permissions that exclude each other. -/
def Disciplined (D : Discipline σ P) (post : Except ε α → P → σ → Prop)
    (x : σ × List (Client σ ε α)) : Prop :=
  D.inv x.1 ∧ ∃ es : List (Client σ ε α × P), es.map Prod.fst = x.2 ∧
    (∀ e ∈ es, Stands D post x.1 e) ∧ es.Pairwise fun e e' => D.apart e.2 e'.2

/-- **What others do does not hurt a client that stands.**  If another client moves within its own
permission, and the two permissions exclude each other, then what is proved of this client's
future still holds, and the permissions still exclude each other. -/
theorem Stands.frame {s s' : σ} {e : Client σ ε α × P} {p p' : P} (h : Stands D post s e)
    (hinv : D.inv s) (hvalid : D.valid p s) (hapart : D.apart p e.2) (hmay : D.may p p' s s') :
    Stands D post s' e ∧ D.apart p' e.2 := by
  obtain ⟨hsees, hvalid', hapart'⟩ := D.frames hinv hvalid h.1 hapart hmay
  obtain ⟨s₀, hseen, hsound⟩ := h.2
  exact ⟨⟨hvalid', s₀, hseen.tail hsees, hsound⟩, hapart'⟩

/-- **One turn of the whole system** keeps every client disciplined, and moves the shared state by
moves of the discipline only: the step lemma of `Disciplined.turns`. -/
theorem Disciplined.turn {clients : Client σ ε α → Prop}
    (hclients : ∀ c, clients c → ∀ s, D.inv s → c.Sound D post D.start s)
    {x y : σ × List (Client σ ε α)} (h : Turn clients x y) (hx : Disciplined D post x) :
    Disciplined D post y ∧ Relation.ReflTransGen D.Moves x.1 y.1 := by
  obtain ⟨hinv, es, hes, hstands, hapart⟩ := hx
  cases h with
  | start s cs c hc =>
    refine ⟨⟨hinv, (c, D.start) :: es, congrArg (c :: ·) hes, ?_, ?_⟩, .refl⟩
    · rintro e (_ | ⟨_, he⟩)
      · exact ⟨D.valid_start hinv, s, .refl, hclients c hc s hinv⟩
      · exact hstands e he
    · exact List.pairwise_cons.2 ⟨fun _ _ => D.apart_start, hapart⟩
  | step s before after next write =>
    obtain ⟨es₁, es', rfl, rfl, hes'⟩ := List.map_eq_append_iff.1 hes
    obtain ⟨⟨c, p⟩, es₂, rfl, rfl, rfl⟩ := List.map_eq_cons_iff.1 hes'
    obtain ⟨hvalid, s₀, hseen, hsound⟩ := hstands _ (List.mem_append_right _ List.mem_cons_self)
    obtain ⟨p', hmay, hnext⟩ := hsound s hseen hinv hvalid
    obtain ⟨hinv', hvalid'⟩ := D.keeps hinv hvalid hmay
    obtain ⟨hapart₁, hapart₂, hbetween⟩ := List.pairwise_append.1 hapart
    obtain ⟨hafter, hapart₂⟩ := List.pairwise_cons.1 hapart₂
    have hleft : ∀ e ∈ es₁, Stands D post (write s) e ∧ D.apart p' e.2 := fun e he =>
      (hstands e (List.mem_append_left _ he)).frame hinv hvalid
        (D.symm (hbetween e he _ List.mem_cons_self)) hmay
    have hright : ∀ e ∈ es₂, Stands D post (write s) e ∧ D.apart p' e.2 := fun e he =>
      (hstands e (List.mem_append_right _ (List.mem_cons_of_mem _ he))).frame hinv hvalid
        (hafter e he) hmay
    refine ⟨⟨hinv', es₁ ++ (next s, p') :: es₂, by simp, ?_, ?_⟩,
      .single ⟨hinv, p, p', hvalid, hmay⟩⟩
    · intro e he
      rcases List.mem_append.1 he with he | he
      · exact (hleft e he).1
      · rcases List.mem_cons.1 he with rfl | he
        · exact ⟨hvalid', write s, .refl, hnext⟩
        · exact (hright e he).1
    · refine List.pairwise_append.2 ⟨hapart₁, List.pairwise_cons.2
        ⟨fun e he => (hright e he).2, hapart₂⟩, fun e he e' he' => ?_⟩
      rcases List.mem_cons.1 he' with rfl | he'
      · exact D.symm (hleft e he).2
      · exact hbetween e he e' (List.mem_cons_of_mem _ he')
  | stop s before after c =>
    obtain ⟨es₁, es', rfl, rfl, hes'⟩ := List.map_eq_append_iff.1 hes
    obtain ⟨e, es₂, rfl, rfl, rfl⟩ := List.map_eq_cons_iff.1 hes'
    have hsub : (es₁ ++ es₂).Sublist (es₁ ++ e :: es₂) :=
      (List.sublist_cons_self e es₂).append_left es₁
    exact ⟨⟨hinv, es₁ ++ es₂, by simp, fun e' he' => hstands e' (hsub.subset he'),
      hapart.sublist hsub⟩, .refl⟩

/-- **Every interleaving of sound clients is disciplined**: it makes permitted steps only. -/
theorem Disciplined.turns {clients : Client σ ε α → Prop}
    (hclients : ∀ c, clients c → ∀ s, D.inv s → c.Sound D post D.start s)
    {x y : σ × List (Client σ ε α)} (h : Turns clients x y) (hx : Disciplined D post x) :
    Disciplined D post y ∧ Relation.ReflTransGen D.Moves x.1 y.1 := by
  induction h with
  | refl => exact ⟨hx, .refl⟩
  | tail _ hturn ih =>
    obtain ⟨hy, hmoves⟩ := ih
    obtain ⟨hz, hmoves'⟩ := hy.turn hclients hturn
    exact ⟨hz, hmoves.trans hmoves'⟩

/-- Nobody runs yet: any state that satisfies the invariant is a disciplined beginning. -/
theorem disciplined_start {s : σ} (h : D.inv s) : Disciplined D post (s, []) :=
  ⟨h, [], rfl, by rintro e ⟨⟩, .nil⟩

/-- What a client in an interleaving has answered satisfies its postcondition, at a state
from which others may have moved on. -/
theorem Disciplined.answer {s : σ} {cs : List (Client σ ε α)} {r : Except ε α}
    (h : Disciplined D post (s, cs)) (hr : .done r ∈ cs) :
    ∃ p s₀, D.Sees p s₀ s ∧ post r p s₀ := by
  obtain ⟨-, es, rfl, hstands, -⟩ := h
  obtain ⟨⟨c, p⟩, he, rfl⟩ := List.mem_map.1 hr
  obtain ⟨-, s₀, hsees, hsound⟩ := hstands _ he
  exact ⟨p, s₀, hsees, hsound⟩

/-- The permissions with which two clients were done exclude each other. -/
theorem Disciplined.answers_pairwise {s : σ} {cs : List (Client σ ε α)}
    (h : Disciplined D post (s, cs)) :
    cs.Pairwise fun c c' => ∀ r r', c = .done r → c' = .done r' →
      ∃ p s₀ p' s₀', D.apart p p' ∧ post r p s₀ ∧ post r' p' s₀' := by
  obtain ⟨-, es, rfl, hstands, hapart⟩ := h
  rw [List.pairwise_map]
  refine hapart.imp_of_mem fun {e e'} he he' hpp' r r' hr hr' => ?_
  obtain ⟨-, s₀, -, hsound⟩ := hstands e he
  obtain ⟨-, s₀', -, hsound'⟩ := hstands e' he'
  rw [hr] at hsound
  rw [hr'] at hsound'
  exact ⟨e.2, s₀, e'.2, s₀', hpp', hsound, hsound'⟩

end Client
