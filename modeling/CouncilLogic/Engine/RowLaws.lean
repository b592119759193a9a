/-
# What a run knows of its rows

A row is made for the prompts, the model and the lineage its slot is given, and it stays a
row of that input.  The error of a row that has failed was written to a JSON column, so it
can be written again.

The checks are those of `start_invocation` in `src/model_council/store.py`: a second start of a
slot is refused when the prompt hash, the model or the lineage differs from the row.  What this
gives for a whole run is `CouncilLogic.Guarantees.PromptStability`.
-/

import CouncilLogic.Engine.SlotLaws

namespace CouncilLogic

open Protocol

variable {rt : Runtime} {spec : RunSpec} {w w' : World} {stage : Stage} {provider : Str}
  {v v' : SlotView}

/-! ### Inputs -/

/-- The prompts of a slot stay as they are. -/
theorem Run.expectedPrompts_later (h : Run rt spec w)
    (hsteps : Relation.ReflTransGen (RunMove rt spec) w w') {prompts : PromptPair}
    (hp : w.store.expectedPrompts rt spec stage provider = some prompts) :
    w'.store.expectedPrompts rt spec stage provider = some prompts :=
  (h.extends_ hsteps).expectedPrompts h.inv.complete hp

/-- The input of a row is the one its slot is given. -/
structure SameInput (rt : Runtime) (spec : RunSpec) (st : Store) (stage : Stage) (provider : Str)
    (r : Invocation) : Prop where
  config : ∃ config, spec.config.config? provider = some config ∧ r.model = config.model ∧
    r.lineage = config.lineage
  prompts : ∃ prompts, st.expectedPrompts rt spec stage provider = some prompts ∧
    r.promptSha256 = rt.sha256 (combinedPrompt prompts)

/-- Every move keeps the input of the row of a slot. -/
theorem SlotMove.sameInput (h : SlotMove rt spec stage provider w v v')
    (hprompts : ∀ prompts, w.store.expectedPrompts rt spec stage provider = some prompts →
      w'.store.expectedPrompts rt spec stage provider = some prompts)
    (hv : ∀ r, v.row = some r → SameInput rt spec w.store stage provider r) :
    ∀ r, v'.row = some r → SameInput rt spec w'.store stage provider r := by
  have hkept : ∀ r, v.row = some r → SameInput rt spec w'.store stage provider r := by
    intro r hr
    obtain ⟨prompts, hp, hsha⟩ := (hv r hr).prompts
    exact ⟨(hv r hr).config, prompts, hprompts _ hp, hsha⟩
  cases h with
  | same | act => exact hkept
  | first call config hslot hconfig ok hrow =>
    intro r hr
    cases hr
    rw [Call.slot, Prod.mk.injEq] at hslot
    have hp := ok.prompts
    rw [hslot.1, hslot.2] at hp
    exact ⟨⟨config, hconfig, rfl, rfl⟩, call.prompts, hprompts _ hp, rfl⟩
  | again call config r e hslot hconfig ok hrow =>
    intro r' hr'
    cases hr'
    exact ⟨(hkept r hrow).config, (hkept r hrow).prompts⟩
  | succeed r response hrow =>
    intro r' hr'
    cases hr'
    exact ⟨(hkept r hrow).config, (hkept r hrow).prompts⟩
  | fail r error hrow =>
    intro r' hr'
    cases hr'
    exact ⟨(hkept r hrow).config, (hkept r hrow).prompts⟩
  | cancel =>
    intro r' hr'
    cases hr'
  | restore r e callCount hrow =>
    intro r' hr'
    cases hr'
    exact ⟨(hkept r hrow).config, (hkept r hrow).prompts⟩

/-- **The rows of a run have the input their slots are given.** -/
theorem Run.sameInput (h : Run rt spec w) {r : Invocation}
    (hr : w.store.slot stage provider = some r) :
    SameInput rt spec w.store stage provider r := by
  refine h.induction (P := fun w => ∀ r, (w.view stage provider).row = some r →
    SameInput rt spec w.store stage provider r) ?_ ?_ r hr
  · intro eng draws question st hcreate _ r hr
    obtain ⟨rfl, -⟩ := createRun_ok hcreate
    cases hr
  · intro w w' hrun hinv hmove hw
    exact (hmove.view hinv.wellFormed stage provider).sameInput
      (fun _ hp => hrun.expectedPrompts_later (.single hmove) hp) hw

/-! ### Errors -/

/-- Every move keeps the error of a row one that was written. -/
theorem SlotMove.encodes (h : SlotMove rt spec stage provider w v v')
    (hv : ∀ r e, v.row = some r → r.state = .failed e → e.Encodes) :
    ∀ r e, v'.row = some r → r.state = .failed e → e.Encodes := by
  cases h with
  | same | act => exact hv
  | first =>
    rintro r e ⟨⟩ ⟨⟩
  | again =>
    rintro r e ⟨⟩ ⟨⟩
  | succeed =>
    rintro r e ⟨⟩ ⟨⟩
  | fail r error hrow hrun hlive hencodes =>
    rintro r e ⟨⟩ ⟨⟩
    exact hencodes
  | cancel =>
    rintro r e ⟨⟩
  | restore r e callCount hrow hrun hlive hphase hpos hcount hprior hencodes =>
    rintro r e ⟨⟩ ⟨⟩
    exact hencodes

/-- **The errors of a run's rows can be written.** -/
theorem Run.encodes (h : Run rt spec w) {r : Invocation} {e : ProviderError}
    (hr : w.store.slot stage provider = some r) (hstate : r.state = .failed e) : e.Encodes :=
  h.view_induction (P := fun v => ∀ r e, v.row = some r → r.state = .failed e → e.Encodes)
    stage provider (by rintro r e ⟨⟩) (fun _ _ _ _ _ hmove hv => hmove.encodes hv) r e hr hstate

end CouncilLogic
