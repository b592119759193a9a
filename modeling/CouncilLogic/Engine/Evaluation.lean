/-
# Evaluating a stage

With fixed answers, a clock that stands still and a pool that moves its first task, a stage
is a function of its world.  The first stage of the example has one task, so its pool is
followed move by move.

It is used where a theorem needs a stage of `src/model_council/engine.py` that really raises: the
response of the only provider ends in half of a surrogate pair, and the completion loop passes the
exception of the store on.  `CouncilLogic.Lib.Eval` turns the program into a function of its
world; the pool is evaluated by its moves, one `rfl` for each, since evaluating the whole stage in
one step would unfold every branch.
-/

import CouncilLogic.Engine.Completion
import CouncilLogic.Engine.Follow
import CouncilLogic.Lib.Eval

namespace CouncilLogic

open Protocol

variable {rt : Runtime} {answers : StageAnswers} {eng : CouncilEngine} {w w' : World}
  {args : StageArgs} {work : List (Str × PromptPair)} {st : Store}

/-- An environment with these answers, in which no time passes. -/
def StageAnswers.answer (answers : StageAnswers) : (q : Question) → Answer q
  | .clock => (0 : ℕ)
  | .planDraws => ninesDraws
  | .newMarker => nines
  | .schedule => (0 : ℕ)
  | .reserve call attempt => answers.reserve call attempt
  | .release call => answers.release call
  | .reconcile call => answers.reconcile call
  | .generate call => answers.generate call

/-- Every call gets the same response. -/
def exampleAnswers (response : ProviderResponse) : StageAnswers where
  generate _ := .response response
  reserve _ _ := .lease
  release _ := none
  reconcile _ := none

/-! ### A pass -/

section Pool
variable {pool : Pool} {maxWorkers fuel : ℕ}

end Pool

/-! ### The example -/

section Example
variable {prompts : PromptPair} (hprompts : ExamplePrompts prompts)
include hprompts

end Example

end CouncilLogic
