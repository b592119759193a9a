/-
# The life of every call

The actions of a slot fall into the lives of its calls, one for each start.  What is done
in a life follows its phases (`LegalNext`): the gate is asked once, for the attempt whose
number is that of the start; a lease is given back only if the provider was not called,
and reconciled only if it was.  A life is over when the slot is started again, and what
the row of the slot says bounds how the last life can have ended (`SlotView.Ended`).

The gate is the object that `src/model_council/service.py` hands to the engine: `reserve` before a
call, `reconcile` after it, `release` when it is not made.  All orders are judged by the trace of
a slot: which of the actions were taken, and in which life.  That the rules are kept in every run
is one invariant of views (`Run.legal`), proved move by move; what a finished life can have ended
in is a second one (`Run.ended`).
-/

import CouncilLogic.Engine.DispatchLaws

namespace CouncilLogic

open Protocol

variable {rt : Runtime} {spec : RunSpec} {w w' : World} {stage : Stage} {provider : Str}
  {v v' : SlotView}

/-! ### Lives -/

/-- One more action: a start begins a life, and any other action goes on with the last. -/
def livesNext (lives : List CallPhase) (a : Action) : List CallPhase :=
  if a.start?.isSome then lives ++ [.started]
  else lives.dropLast ++ (lives.getLast?.map fun phase => phase.next a).toList

/-- How far each call has got, in the order of their starts. -/
def livesOf (actions : List Action) : List CallPhase := actions.foldl livesNext []

/-- The phase of the last call. -/
def phaseOf (actions : List Action) : CallPhase := actions.foldl CallPhase.next .idle

/-- The starts. -/
def countStarts (actions : List Action) : ℕ := (actions.filterMap Action.start?).length

/-- One action more goes on with the lives so far. -/
theorem livesOf_snoc (actions : List Action) (a : Action) :
    livesOf (actions ++ [a]) = livesNext (livesOf actions) a := by
  unfold livesOf
  rw [List.foldl_append]
  rfl

/-- One action more moves the phase of the last call on. -/
theorem phaseOf_snoc (actions : List Action) (a : Action) :
    phaseOf (actions ++ [a]) = (phaseOf actions).next a := by
  unfold phaseOf
  rw [List.foldl_append]
  rfl

/-- One action more counts as a start if it is one. -/
theorem countStarts_snoc (actions : List Action) (a : Action) :
    countStarts (actions ++ [a]) = countStarts actions + a.start?.toList.length := by
  unfold countStarts
  rw [List.filterMap_append, List.length_append]
  cases h : a.start? <;> simp [h]

/-- A start begins another life. -/
theorem livesNext_start {a : Action} (h : a.start?.isSome = true) (lives : List CallPhase) :
    livesNext lives a = lives ++ [.started] := if_pos h

/-- Another action goes on with the last life. -/
theorem livesNext_other {a : Action} (h : a.start? = none) (lives : List CallPhase) :
    livesNext lives a =
      lives.dropLast ++ (lives.getLast?.map fun phase => phase.next a).toList :=
  if_neg (by simp [h])

/-- There is one life for each start. -/
theorem length_livesOf (actions : List Action) :
    (livesOf actions).length = countStarts actions := by
  induction actions using List.reverseRecOn with
  | nil => rfl
  | append_singleton actions a ih =>
    rw [livesOf_snoc, countStarts_snoc]
    cases h : a.start? with
    | some start =>
      rw [livesNext_start (by simp [h]), List.length_append, ih]
      rfl
    | none =>
      rw [livesNext_other h]
      rcases List.eq_nil_or_concat (livesOf actions) with hnil | ⟨init, last, hconcat⟩
      · rw [hnil] at ih ⊢
        exact ih
      · rw [hconcat, List.concat_eq_append] at ih ⊢
        rw [List.dropLast_concat, List.getLast?_concat]
        simpa using ih

/-- The last life has got as far as the phase. -/
theorem getLast?_livesOf (actions : List Action) :
    (livesOf actions).getLast? =
      if countStarts actions = 0 then none else some (phaseOf actions) := by
  induction actions using List.reverseRecOn with
  | nil => rfl
  | append_singleton actions a ih =>
    rw [livesOf_snoc, countStarts_snoc, phaseOf_snoc]
    cases h : a.start? with
    | some start =>
      rw [livesNext_start (by simp [h]), List.getLast?_concat, if_neg (by simp)]
      cases a <;> first | rfl | cases h
    | none =>
      rw [livesNext_other h]
      have hlength := length_livesOf actions
      rcases List.eq_nil_or_concat (livesOf actions) with hnil | ⟨init, last, hconcat⟩
      · rw [hnil] at hlength ⊢
        have hzero : countStarts actions = 0 := hlength.symm
        rw [hzero, Option.toList_none, List.length_nil, if_pos rfl]
        rfl
      · rw [hconcat, List.concat_eq_append] at ih hlength ⊢
        rw [List.getLast?_concat] at ih
        rw [List.length_append, List.length_singleton] at hlength
        rw [if_neg (by omega)] at ih
        rw [if_neg (by simp; omega), List.dropLast_concat, List.getLast?_concat,
          Option.map_some, Option.toList_some, List.getLast?_concat, Option.some.inj ih]

/-! ### Legal actions -/

/-- When an action may follow others of its slot. -/
def LegalNext (before : List Action) : Action → Prop
  | .reserved _ attempt => phaseOf before = .started ∧ attempt = countStarts before
  | .granted _ attempt => phaseOf before = .asked ∧ attempt = countStarts before
  | .generate .. => (phaseOf before).Ready
  | .released _ => phaseOf before = .leased
  | .reconciled _ => phaseOf before = .called true
  | .settled _ => (phaseOf before).Settling
  | .attempt .. | .started .. | .enter .. | .overLimit .. | .adjudicated .. => True

/-- Every action may follow those before it. -/
def Legal (actions : List Action) : Prop :=
  ∀ before a after, actions = before ++ a :: after → LegalNext before a

/-- Doing nothing is legal. -/
theorem legal_nil : Legal [] := by
  intro before a after h
  simp at h

/-- **A legal list** is one whose beginning is legal and whose last action was legal then. -/
theorem legal_snoc {actions : List Action} {a : Action} :
    Legal (actions ++ [a]) ↔ Legal actions ∧ LegalNext actions a := by
  constructor
  · intro h
    refine ⟨fun before b after heq => ?_, h actions a [] rfl⟩
    refine h before b (after ++ [a]) ?_
    rw [heq, List.append_assoc]
    rfl
  · rintro ⟨h, ha⟩ before b after heq
    rcases List.eq_nil_or_concat after with rfl | ⟨init, last, rfl⟩
    · obtain ⟨rfl, hab⟩ := List.append_inj' heq rfl
      cases hab
      exact ha
    · rw [List.concat_eq_append, ← List.cons_append, ← List.append_assoc] at heq
      obtain ⟨rfl, -⟩ := List.append_inj' heq rfl
      exact h before b init rfl

/-- What comes later does not make a beginning illegal. -/
theorem Legal.left {actions later : List Action} (h : Legal (actions ++ later)) :
    Legal actions := by
  intro before a after heq
  refine h before a (after ++ later) ?_
  rw [heq, List.append_assoc]
  rfl

/-- The attempts for which the gate was asked. -/
def attemptsOf (actions : List Action) : List ℕ :=
  actions.filterMap fun
    | .reserved _ attempt => some attempt
    | _ => none

/-- A reservation adds its attempt. -/
theorem attemptsOf_snoc_reserved (actions : List Action) (call : Call) (attempt : ℕ) :
    attemptsOf (actions ++ [.reserved call attempt]) = attemptsOf actions ++ [attempt] := by
  unfold attemptsOf
  rw [List.filterMap_append]
  rfl

/-- Every other action adds no attempt. -/
theorem attemptsOf_snoc {a : Action} (actions : List Action)
    (h : ∀ call attempt, a ≠ .reserved call attempt) :
    attemptsOf (actions ++ [a]) = attemptsOf actions := by
  unfold attemptsOf
  rw [List.filterMap_append]
  cases a <;> first | exact absurd rfl (h _ _) | simp

/-- Only a start leads to the phase after a start. -/
theorem CallPhase.of_next_started {phase : CallPhase} {a : Action} (ha : a.start? = none)
    (h : phase.next a = .started) : phase = .started := by
  cases a with
  | attempt | enter | overLimit | adjudicated => exact h
  | started => cases ha
  | generate | reserved | granted | released | reconciled => cases h
  | settled => cases phase <;> first | rfl | cases h

/-- A call that was started has a start. -/
theorem countStarts_pos {actions : List Action} (h : phaseOf actions = .started) :
    0 < countStarts actions := by
  induction actions using List.reverseRecOn with
  | nil => cases h
  | append_singleton actions a ih =>
    rw [countStarts_snoc]
    rw [phaseOf_snoc] at h
    cases hstart : a.start? with
    | some start =>
      rw [Option.toList_some, List.length_singleton]
      omega
    | none =>
      have := ih (CallPhase.of_next_started hstart h)
      omega

/-- The attempts count up with the starts, and the last start was asked for at most once. -/
structure Ascending (actions : List Action) : Prop where
  sorted : (attemptsOf actions).Pairwise (· < ·)
  pos : ∀ n ∈ attemptsOf actions, 0 < n
  le : ∀ n ∈ attemptsOf actions, n ≤ countStarts actions
  fresh : phaseOf actions = .started → ∀ n ∈ attemptsOf actions, n < countStarts actions

/-- **The attempts of a slot are strictly increasing.** -/
theorem Legal.ascending {actions : List Action} (h : Legal actions) : Ascending actions := by
  induction actions using List.reverseRecOn with
  | nil => exact ⟨List.Pairwise.nil, by simp [attemptsOf], by simp [attemptsOf],
      by simp [attemptsOf]⟩
  | append_singleton actions a ih =>
    obtain ⟨hinit, hnext⟩ := legal_snoc.1 h
    obtain ⟨hsorted, hpos, hle, hfresh⟩ := ih hinit
    by_cases hres : ∃ call attempt, a = .reserved call attempt
    · obtain ⟨call, attempt, rfl⟩ := hres
      obtain ⟨hphase, rfl⟩ := hnext
      have hlt := hfresh hphase
      refine ⟨?_, fun n hn => ?_, fun n hn => ?_, fun hstarted => ?_⟩
      · rw [attemptsOf_snoc_reserved, List.pairwise_append]
        refine ⟨hsorted, List.pairwise_singleton _ _, fun x hx y hy => ?_⟩
        rw [List.mem_singleton] at hy
        rw [hy]
        exact hlt x hx
      · rw [attemptsOf_snoc_reserved, List.mem_append, List.mem_singleton] at hn
        rcases hn with hn | rfl
        · exact hpos n hn
        · exact countStarts_pos hphase
      · rw [attemptsOf_snoc_reserved, List.mem_append, List.mem_singleton] at hn
        rw [countStarts_snoc]
        rcases hn with hn | rfl
        · exact (hle n hn).trans (Nat.le_add_right _ _)
        · exact Nat.le_add_right _ _
      · rw [phaseOf_snoc] at hstarted
        cases hstarted
    · have hother : ∀ call attempt, a ≠ .reserved call attempt := fun call attempt heq =>
        hres ⟨call, attempt, heq⟩
      refine ⟨?_, fun n hn => ?_, fun n hn => ?_, fun hstarted n hn => ?_⟩
      · rw [attemptsOf_snoc actions hother]
        exact hsorted
      · rw [attemptsOf_snoc actions hother] at hn
        exact hpos n hn
      · rw [attemptsOf_snoc actions hother] at hn
        rw [countStarts_snoc]
        exact (hle n hn).trans (Nat.le_add_right _ _)
      · rw [attemptsOf_snoc actions hother] at hn
        rw [countStarts_snoc]
        rw [phaseOf_snoc] at hstarted
        cases hstart : a.start? with
        | some start =>
          have := hle n hn
          simp only [Option.toList_some, List.length_singleton]
          omega
        | none => exact hfresh (CallPhase.of_next_started hstart hstarted) n hn

/-- The gate has been asked for the last call. -/
def CallPhase.IsAsked : CallPhase → Prop
  | .asked | .leased | .called true | .releasing | .released | .reconciling | .reconciled => True
  | .idle | .started | .called false => False

/-- **The gate was asked last for the last start.** -/
theorem Legal.getLast?_attemptsOf {actions : List Action} (h : Legal actions)
    (hasked : (phaseOf actions).IsAsked) :
    (attemptsOf actions).getLast? = some (countStarts actions) := by
  induction actions using List.reverseRecOn with
  | nil => exact hasked.elim
  | append_singleton actions a ih =>
    obtain ⟨hinit, hnext⟩ := legal_snoc.1 h
    rw [phaseOf_snoc] at hasked
    cases a with
    | reserved call attempt =>
      obtain ⟨-, rfl⟩ := hnext
      rw [attemptsOf_snoc_reserved, List.getLast?_concat, countStarts_snoc]
      rfl
    | started => exact hasked.elim
    | attempt | granted | generate | released | reconciled | settled | enter | overLimit
    | adjudicated =>
      rw [attemptsOf_snoc actions (fun _ _ h => by cases h), countStarts_snoc]
      refine ih hinit ?_
      revert hasked hnext
      unfold LegalNext CallPhase.next CallPhase.Ready CallPhase.Settling
      rcases phaseOf actions with _ | _ | _ | _ | (_ | _) | _ | _ | _ | _ <;>
        simp [CallPhase.IsAsked]

/-! ### The lives by number -/

/-- The last life, by the number of its start. -/
theorem livesOf_last {actions : List Action} (h : 0 < countStarts actions) :
    (livesOf actions)[countStarts actions - 1]? = some (phaseOf actions) := by
  rw [← length_livesOf, ← List.getLast?_eq_getElem?, getLast?_livesOf, if_neg h.ne']

/-- The earlier lives do not change. -/
theorem livesOf_snoc_old {actions : List Action} {n : ℕ} (a : Action)
    (h : n + 1 < countStarts actions) :
    (livesOf (actions ++ [a]))[n]? = (livesOf actions)[n]? := by
  rw [← length_livesOf] at h
  rw [livesOf_snoc]
  cases hstart : a.start? with
  | some start =>
    rw [livesNext_start (by simp [hstart]), List.getElem?_append_left (by omega)]
  | none =>
    rw [livesNext_other hstart, List.getElem?_append_left (by rw [List.length_dropLast]; omega),
      List.getElem?_dropLast, if_pos (by omega)]

/-- A start changes no life. -/
theorem livesOf_snoc_start {actions : List Action} {n : ℕ} {a : Action}
    (ha : a.start?.isSome = true) (h : n < countStarts actions) :
    (livesOf (actions ++ [a]))[n]? = (livesOf actions)[n]? := by
  rw [← length_livesOf] at h
  rw [livesOf_snoc, livesNext_start ha, List.getElem?_append_left h]

/-! ### Leases -/

/-- The attempts for which a lease was granted. -/
def grantsOf (actions : List Action) : List ℕ :=
  actions.filterMap fun
    | .granted _ attempt => some attempt
    | _ => none

/-- The call has, or had, a lease. -/
def CallPhase.HasLease : CallPhase → Prop
  | .leased | .called true | .releasing | .released | .reconciling | .reconciled => True
  | .idle | .started | .asked | .called false => False

/-- What follows in a life with a lease leaves it one. -/
theorem CallPhase.HasLease.next {actions : List Action} {a : Action}
    (h : (phaseOf actions).HasLease) (hlegal : LegalNext actions a) (hstart : a.start? = none) :
    ((phaseOf actions).next a).HasLease := by
  revert h hlegal
  unfold LegalNext CallPhase.next CallPhase.Ready CallPhase.Settling
  cases a with
  | started => cases hstart
  | attempt | reserved | granted | generate | released | reconciled | settled | enter
  | overLimit | adjudicated =>
    rcases phaseOf actions with _ | _ | _ | _ | (_ | _) | _ | _ | _ | _ <;>
      simp [CallPhase.HasLease]

/-- **A call for which a lease was granted has one**, or has settled it. -/
theorem Legal.hasLease {actions : List Action} (h : Legal actions) {n : ℕ}
    (hn : n ∈ grantsOf actions) : 0 < n ∧ n ≤ countStarts actions ∧
      ∃ phase, (livesOf actions)[n - 1]? = some phase ∧ phase.HasLease := by
  induction actions using List.reverseRecOn with
  | nil => cases hn
  | append_singleton actions a ih =>
    obtain ⟨hinit, hnext⟩ := legal_snoc.1 h
    by_cases hgrant : ∃ call, a = .granted call n
    · obtain ⟨call, rfl⟩ := hgrant
      obtain ⟨hphase, hattempt⟩ := hnext
      have hasked : (phaseOf actions).IsAsked := by
        rw [hphase]
        trivial
      have hmem := List.mem_of_getLast? (hinit.getLast?_attemptsOf hasked)
      have hpos := hinit.ascending.pos _ hmem
      have hcount : countStarts (actions ++ [.granted call n]) = n := by
        rw [countStarts_snoc, hattempt]
        rfl
      rw [← hattempt] at hpos
      have hlast := livesOf_last (hcount.symm ▸ hpos)
      rw [hcount] at hlast ⊢
      refine ⟨hpos, le_rfl, _, hlast, ?_⟩
      rw [phaseOf_snoc, hphase]
      trivial
    · have hold : n ∈ grantsOf actions := by
        unfold grantsOf at hn ⊢
        rw [List.filterMap_append, List.mem_append] at hn
        refine hn.resolve_right fun hlast => hgrant ?_
        cases a <;> simp at hlast
        exact ⟨_, by rw [hlast]⟩
      obtain ⟨hpos, hle, phase, hphase, hlease⟩ := ih hinit hold
      refine ⟨hpos, ?_, ?_⟩
      · rw [countStarts_snoc]
        omega
      · cases hstart : a.start? with
        | some start =>
          refine ⟨phase, ?_, hlease⟩
          rw [livesOf_snoc_start (by simp [hstart]) (by omega), hphase]
        | none =>
          rcases Nat.lt_or_ge n (countStarts actions) with hlt | hge
          · refine ⟨phase, ?_, hlease⟩
            rw [livesOf_snoc_old a (by omega), hphase]
          · have heq : n = countStarts actions := by omega
            have hstarts : 0 < countStarts actions := by omega
            have hlast := livesOf_last hstarts
            rw [← heq, hphase, Option.some.injEq] at hlast
            rw [hlast] at hlease
            have hcount : countStarts (actions ++ [a]) = n := by
              rw [countStarts_snoc, hstart, heq]
              rfl
            have hnow := livesOf_last (hcount.symm ▸ hpos)
            rw [hcount, phaseOf_snoc] at hnow
            exact ⟨_, hnow, hlease.next hnext hstart⟩

/-! ### What was done in a life -/

/-- Something was done in the `n`-th life. -/
def DoneIn (p : Action → Prop) (actions : List Action) (n : ℕ) : Prop :=
  ∃ before a after, actions = before ++ a :: after ∧ countStarts before = n ∧ p a

/-- The provider was called in the `n`-th life. -/
def Dispatched (actions : List Action) (n : ℕ) : Prop :=
  DoneIn (fun a => ∃ call before, a = .generate call before) actions n

/-- The gate was asked to settle the lease of the `n`-th life. -/
def AskedToSettle (actions : List Action) (n : ℕ) : Prop :=
  DoneIn (fun a => (∃ call, a = .released call) ∨ ∃ call, a = .reconciled call) actions n

/-- What was done in a life was done before, or is the last action in the last life. -/
theorem doneIn_snoc {p : Action → Prop} {actions : List Action} {a : Action} {n : ℕ} :
    DoneIn p (actions ++ [a]) n ↔ DoneIn p actions n ∨ countStarts actions = n ∧ p a := by
  constructor
  · rintro ⟨before, b, after, heq, hcount, hp⟩
    rcases List.eq_nil_or_concat after with rfl | ⟨init, last, rfl⟩
    · obtain ⟨rfl, hab⟩ := List.append_inj' heq rfl
      cases hab
      exact .inr ⟨hcount, hp⟩
    · rw [List.concat_eq_append, ← List.cons_append, ← List.append_assoc] at heq
      obtain ⟨rfl, -⟩ := List.append_inj' heq rfl
      exact .inl ⟨before, b, init, rfl, hcount, hp⟩
  · rintro (⟨before, b, after, rfl, hcount, hp⟩ | ⟨hcount, hp⟩)
    · exact ⟨before, b, after ++ [a], by simp, hcount, hp⟩
    · exact ⟨actions, a, [], rfl, hcount, hp⟩

/-- Something can only be done in a life that was begun. -/
theorem DoneIn.le {p : Action → Prop} {actions : List Action} {n : ℕ} (h : DoneIn p actions n) :
    n ≤ countStarts actions := by
  obtain ⟨before, a, after, rfl, rfl, -⟩ := h
  unfold countStarts
  rw [List.filterMap_append, List.length_append]
  exact Nat.le_add_right _ _

/-- **The phase of a life tells what was done in it**, if each action that may follow does. -/
theorem Legal.doneIn_iff {p : Action → Prop} {P : CallPhase → Prop} (hstart : ¬ P .started)
    (hnone : ∀ a : Action, a.start?.isSome = true → ¬ p a)
    (hnext : ∀ actions a, LegalNext actions a → a.start? = none →
      (P ((phaseOf actions).next a) ↔ P (phaseOf actions) ∨ p a))
    {actions : List Action} (h : Legal actions) {n : ℕ} {phase : CallPhase} (hpos : 0 < n)
    (hphase : (livesOf actions)[n - 1]? = some phase) : P phase ↔ DoneIn p actions n := by
  induction actions using List.reverseRecOn generalizing phase with
  | nil => cases hphase
  | append_singleton actions a ih =>
    obtain ⟨hinit, hlegal⟩ := legal_snoc.1 h
    have hlt : n - 1 < (livesOf (actions ++ [a])).length :=
      (List.getElem?_eq_some_iff.1 hphase).1
    rw [length_livesOf, countStarts_snoc] at hlt
    rw [doneIn_snoc]
    cases hcase : a.start? with
    | some start =>
      have hsome : a.start?.isSome = true := by simp [hcase]
      have hno : ¬ (countStarts actions = n ∧ p a) := fun hp => hnone a hsome hp.2
      rw [hcase, Option.toList_some, List.length_singleton] at hlt
      rcases Nat.lt_or_ge (n - 1) (countStarts actions) with hold | hnew
      · rw [livesOf_snoc_start hsome hold] at hphase
        rw [ih hinit hphase]
        exact (or_iff_left hno).symm
      · have heq : n - 1 = (livesOf actions).length := by
          rw [length_livesOf]
          omega
        rw [livesOf_snoc, livesNext_start hsome, heq, List.getElem?_concat_length,
          Option.some.injEq] at hphase
        subst hphase
        refine iff_of_false hstart (not_or.2 ⟨fun hdone => ?_, hno⟩)
        have := hdone.le
        omega
    | none =>
      rw [hcase, Option.toList_none, List.length_nil, Nat.add_zero] at hlt
      rcases Nat.lt_or_ge n (countStarts actions) with hold | hnew
      · rw [livesOf_snoc_old a (by omega)] at hphase
        rw [ih hinit hphase]
        exact (or_iff_left fun hp => by omega).symm
      · have heq : n = countStarts actions := by omega
        have hlast := livesOf_last (heq ▸ hpos)
        have hcount : countStarts (actions ++ [a]) = n := by
          rw [countStarts_snoc, hcase, heq]
          rfl
        have hnow := livesOf_last (hcount.symm ▸ hpos)
        rw [hcount, phaseOf_snoc, hphase, Option.some.injEq] at hnow
        rw [← heq] at hlast
        rw [hnow, hnext actions a hlegal hcase, ih hinit hlast]
        exact or_congr_right ⟨fun hp => ⟨heq.symm, hp⟩, And.right⟩

/-- The provider was called. -/
def CallPhase.IsSent : CallPhase → Prop
  | .called _ | .reconciling | .reconciled => True
  | .idle | .started | .asked | .leased | .releasing | .released => False

/-- A life has reached the phase of a sent call exactly when the provider was called in it. -/
theorem Legal.dispatched_iff {actions : List Action} (h : Legal actions) {n : ℕ}
    {phase : CallPhase} (hpos : 0 < n) (hphase : (livesOf actions)[n - 1]? = some phase) :
    phase.IsSent ↔ Dispatched actions n := by
  refine h.doneIn_iff (fun hs => hs) ?_ ?_ hpos hphase
  · rintro a ha ⟨call, before, rfl⟩
    cases ha
  · intro actions a hlegal hstart
    revert hlegal
    unfold LegalNext CallPhase.next CallPhase.Ready CallPhase.Settling
    cases a with
    | started => cases hstart
    | attempt | reserved | granted | generate | released | reconciled | settled | enter
    | overLimit | adjudicated =>
      rcases phaseOf actions with _ | _ | _ | _ | (_ | _) | _ | _ | _ | _ <;>
        simp [CallPhase.IsSent]

/-- A life has reached a phase of settling exactly when the gate was asked to settle in it. -/
theorem Legal.askedToSettle_iff {actions : List Action} (h : Legal actions) {n : ℕ}
    {phase : CallPhase} (hpos : 0 < n) (hphase : (livesOf actions)[n - 1]? = some phase) :
    phase.IsSettled ↔ AskedToSettle actions n := by
  refine h.doneIn_iff (fun hs => hs) ?_ ?_ hpos hphase
  · rintro a ha (⟨call, rfl⟩ | ⟨call, rfl⟩) <;> cases ha
  · intro actions a hlegal hstart
    revert hlegal
    unfold LegalNext CallPhase.next CallPhase.Ready CallPhase.Settling
    cases a with
    | started => cases hstart
    | attempt | reserved | granted | generate | released | reconciled | settled | enter
    | overLimit | adjudicated =>
      rcases phaseOf actions with _ | _ | _ | _ | (_ | _) | _ | _ | _ | _ <;>
        simp [CallPhase.IsSettled]

/-! ### The slots of a run -/

/-- **Every action of a slot is legal.** -/
theorem SlotMove.legal (h : SlotMove rt spec stage provider w v v')
    (hview : v = w.view stage provider) (hs : v.Sound stage provider) (hv : Legal v.actions) :
    Legal v'.actions := by
  cases h with
  | same | succeed | fail | cancel | restore => exact hv
  | first | again => exact legal_snoc.2 ⟨hv, trivial⟩
  | act a hof hstart done =>
    refine legal_snoc.2 ⟨hv, ?_⟩
    have hattempt : ∀ {r : Invocation}, v.row = some r →
        w.store.reservationAttempt r = countStarts v.actions := by
      intro r hrow
      have hstarts := hs.starts
      have hslot := hs.slot r hrow
      rw [SlotView.calls_of_row hrow] at hstarts
      rw [Invocation.slot, Prod.mk.injEq] at hslot
      unfold Store.reservationAttempt
      rw [hslot.1, hslot.2]
      have hreleased : v.released = w.store.notDispatchedCount stage provider := by
        rw [hview]
        rfl
      rw [← hreleased]
      exact hstarts.symm
    subst hview
    cases a with
    | started => cases hstart
    | attempt | enter | overLimit | adjudicated => trivial
    | generate call before =>
      obtain ⟨-, -, hphase⟩ := done.2.2.toInCall.view (isOf_slot hof rfl)
      exact hphase
    | reserved call attempt =>
      obtain ⟨⟨r, hrow, -, -⟩, -, hphase⟩ := done.2.toInCall.view (isOf_slot hof rfl)
      refine ⟨hphase, ?_⟩
      have hslot := isOf_slot hof rfl
      rw [Call.slot, Prod.mk.injEq] at hslot
      have hrow' : w.store.slot call.stage call.provider = some r := by
        rw [hslot.1, hslot.2]
        exact hrow
      rw [done.2.attempt r hrow', hattempt hrow]
    | granted call attempt =>
      obtain ⟨⟨r, hrow, -, -⟩, -, hphase⟩ := done.2.toInCall.view (isOf_slot hof rfl)
      refine ⟨hphase, ?_⟩
      have hslot := isOf_slot hof rfl
      rw [Call.slot, Prod.mk.injEq] at hslot
      have hrow' : w.store.slot call.stage call.provider = some r := by
        rw [hslot.1, hslot.2]
        exact hrow
      rw [done.2.attempt r hrow', hattempt hrow]
    | released call =>
      obtain ⟨-, -, hphase⟩ := done.2.view (isOf_slot hof rfl)
      exact hphase
    | reconciled call =>
      obtain ⟨-, -, hphase⟩ := done.2.view (isOf_slot hof rfl)
      exact hphase
    | settled call =>
      obtain ⟨-, -, hphase⟩ := done.2.view (isOf_slot hof rfl)
      exact hphase

/-- **In every run the actions of every slot are legal.** -/
theorem Run.legal (h : Run rt spec w) (stage : Stage) (provider : Str) :
    Legal (w.actionsOf stage provider) :=
  h.view_induction (P := fun v => Legal v.actions) stage provider legal_nil
    fun _ _ _ hrun hview hmove hv => hmove.legal hview (hview ▸ hrun.sound stage provider) hv

/-! ### Ended lives -/

/-- The call is over, and nothing is owed to the gate. -/
def CallPhase.Closed (phase : CallPhase) : Prop := phase.Done ∨ phase.Unsent

/-- How the last call can have ended, by the state of its row.  The gate was asked about an
ambiguous call only if the process ended before its row was finished, or if reconciling
its lease is what has failed. -/
def EndedAs (phase : CallPhase) : InvocationState → Prop
  | .running => True
  | .succeeded _ => phase.Done
  | .failed e =>
    if e.ambiguous then
      e = priorAmbiguousError ∨ ¬ phase.IsSettled ∨
        phase = .reconciling ∧ ∃ typeName, e = reconcileError typeName
    else phase.Closed

/-- Every life but the last is over, and the row says how the last one has ended. -/
structure SlotView.Ended (v : SlotView) : Prop where
  closed : ∀ phase ∈ (livesOf v.actions).dropLast, phase.Closed
  absent : v.row = none → countStarts v.actions = 0 ∨ (phaseOf v.actions).Unsent
  row : ∀ r, v.row = some r → EndedAs (phaseOf v.actions) r.state

/-- Nothing was done yet: no life has ended. -/
theorem SlotView.ended_empty : SlotView.Ended {} where
  closed phase hphase := by cases hphase
  absent _ := .inl rfl
  row r hr := by cases hr

/-- Once the last life is over, all are. -/
theorem closed_of_last {actions : List Action}
    (hinit : ∀ phase ∈ (livesOf actions).dropLast, phase.Closed)
    (hlast : countStarts actions = 0 ∨ (phaseOf actions).Closed) :
    ∀ phase ∈ livesOf actions, phase.Closed := by
  intro phase hphase
  have hget := getLast?_livesOf actions
  rcases List.eq_nil_or_concat (livesOf actions) with hnil | ⟨init, last, hconcat⟩
  · rw [hnil] at hphase
    cases hphase
  · have hlength := length_livesOf actions
    rw [hconcat, List.concat_eq_append] at hphase hget hinit hlength
    rw [List.length_append, List.length_singleton] at hlength
    rw [List.getLast?_concat, if_neg (by omega)] at hget
    rw [List.dropLast_concat] at hinit
    rw [List.mem_append, List.mem_singleton] at hphase
    rcases hphase with hphase | rfl
    · exact hinit phase hphase
    · rw [Option.some.inj hget]
      exact hlast.resolve_left (by omega)

/-- A new start leaves only lives that are over behind. -/
theorem SlotView.Ended.start (hv : v.Ended)
    (hlast : countStarts v.actions = 0 ∨ (phaseOf v.actions).Closed) {call : Call} {before : Store}
    {r : Invocation} (hrun : r.state = .running) (retries : List Event) (released : ℕ) :
    SlotView.Ended ⟨some r, retries, released, v.actions ++ [.started call before]⟩ where
  closed := by
    rw [livesOf_snoc, livesNext_start rfl, List.dropLast_concat]
    exact closed_of_last hv.closed hlast
  absent h := by cases h
  row x hx := by
    cases hx
    rw [hrun]
    trivial

/-- Another action leaves the earlier lives as they are. -/
theorem dropLast_livesOf_snoc {a : Action} (h : a.start? = none) (actions : List Action) :
    (livesOf (actions ++ [a])).dropLast = (livesOf actions).dropLast := by
  rw [livesOf_snoc, livesNext_other h]
  rcases List.eq_nil_or_concat (livesOf actions) with hnil | ⟨init, last, hconcat⟩
  · rw [hnil]
    rfl
  · rw [hconcat, List.concat_eq_append, List.getLast?_concat, Option.map_some,
      Option.toList_some, List.dropLast_concat, List.dropLast_concat]

/-- **Every move keeps the lives of a slot ended as its row says.** -/
theorem SlotMove.ended (h : SlotMove rt spec stage provider w v v')
    (hview : v = w.view stage provider) (hv : v.Ended) : v'.Ended := by
  cases h with
  | same => exact hv
  | first call config hslot hconfig ok hrow =>
    exact hv.start ((hv.absent hrow).imp_right .inr) rfl _ _
  | again call config r e hslot hconfig ok hrow hstate hsame =>
    have hrow' : w.store.slot call.stage call.provider = some r := by
      rw [Call.slot, Prod.mk.injEq] at hslot
      rw [hslot.1, hslot.2]
      rw [hview] at hrow
      exact hrow
    have hquiet := (ok.quiet _ r hrow').2
    have hambiguous : e.ambiguous = false := by
      simpa [Invocation.failedAmbiguous, hstate] using hquiet
    have hended := hv.row r hrow
    rw [hstate, EndedAs, hambiguous, if_neg Bool.false_ne_true] at hended
    exact hv.start (.inr hended) rfl _ _
  | act a hof hstart done =>
    have hclosed : ∀ phase ∈ (livesOf (v.actions ++ [a])).dropLast, phase.Closed := by
      rw [dropLast_livesOf_snoc hstart]
      exact hv.closed
    have hcount : countStarts (v.actions ++ [a]) = countStarts v.actions := by
      rw [countStarts_snoc, hstart]
      rfl
    have hphase := phaseOf_snoc v.actions a
    -- all but the attempt to start it are done while the row is running
    by_cases hattempt : ∃ call before, a = .attempt call before
    · obtain ⟨call, before, rfl⟩ := hattempt
      have hsame : phaseOf (v.actions ++ [.attempt call before]) = phaseOf v.actions := hphase
      exact ⟨hclosed, fun hnone => by rw [hcount, hsame]; exact hv.absent hnone,
        fun r hr => by rw [hsame]; exact hv.row r hr⟩
    · have hrunning : ∃ r, v.row = some r ∧ r.state = .running := by
        subst hview
        cases a with
        | started => cases hstart
        | attempt call before => exact absurd ⟨call, before, rfl⟩ hattempt
        | enter | overLimit | adjudicated => cases hof
        | generate call before =>
          obtain ⟨⟨r, hrow, hrun, -⟩, -⟩ := done.2.2.toInCall.view (isOf_slot hof rfl)
          exact ⟨r, hrow, hrun⟩
        | reserved call attempt =>
          obtain ⟨⟨r, hrow, hrun, -⟩, -⟩ := done.2.toInCall.view (isOf_slot hof rfl)
          exact ⟨r, hrow, hrun⟩
        | granted call attempt =>
          obtain ⟨⟨r, hrow, hrun, -⟩, -⟩ := done.2.toInCall.view (isOf_slot hof rfl)
          exact ⟨r, hrow, hrun⟩
        | released call =>
          obtain ⟨⟨r, hrow, hrun, -⟩, -⟩ := done.2.view (isOf_slot hof rfl)
          exact ⟨r, hrow, hrun⟩
        | reconciled call =>
          obtain ⟨⟨r, hrow, hrun, -⟩, -⟩ := done.2.view (isOf_slot hof rfl)
          exact ⟨r, hrow, hrun⟩
        | settled call =>
          obtain ⟨⟨r, hrow, hrun, -⟩, -⟩ := done.2.view (isOf_slot hof rfl)
          exact ⟨r, hrow, hrun⟩
      obtain ⟨r, hrow, hrun⟩ := hrunning
      refine ⟨hclosed, fun hnone => ?_, fun x hx => ?_⟩
      · have hnone' : v.row = none := hnone
        rw [hrow] at hnone'
        cases hnone'
      · have hx' : v.row = some x := hx
        rw [hrow] at hx'
        cases hx'
        rw [hrun]
        trivial
  | succeed r response hrow hrun hlive hphase hstop =>
    refine ⟨hv.closed, fun hnone => (by cases hnone), fun x hx => ?_⟩
    cases hx
    exact hphase
  | fail r error hrow hrun hlive =>
    refine ⟨hv.closed, fun hnone => (by cases hnone), fun x hx => ?_⟩
    cases hx
    rcases hlive with ⟨-, hcloses⟩ | rfl
    · unfold CallPhase.Closes at hcloses
      show if error.ambiguous then _ else (phaseOf v.actions).Closed
      by_cases hambiguous : error.ambiguous = true
      · rw [if_pos hambiguous] at hcloses ⊢
        exact .inr hcloses
      · rw [if_neg hambiguous] at hcloses ⊢
        exact .inl hcloses
    · exact .inl rfl
  | cancel r hrow hrun hlive hphase hcount =>
    exact ⟨hv.closed, fun _ => .inr hphase, fun x hx => by cases hx⟩
  | restore r e callCount hrow hrun hlive hphase hpos hcount hprior =>
    refine ⟨hv.closed, fun hnone => (by cases hnone), fun x hx => ?_⟩
    cases hx
    show if e.ambiguous then _ else (phaseOf v.actions).Closed
    rw [hprior, if_neg Bool.false_ne_true]
    exact .inr hphase

/-- **In every run the last lives have ended as their rows say.** -/
theorem Run.ended (h : Run rt spec w) (stage : Stage) (provider : Str) :
    (w.view stage provider).Ended :=
  h.view_induction stage provider SlotView.ended_empty
    fun _ _ _ _ hview hmove hv => hmove.ended hview hv

end CouncilLogic
