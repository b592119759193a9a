/-
# Programs whose questions have one answer each

Where an environment gives a question the same answer whenever it is asked, a program is
a function of its state.  `eval` computes it, a sequence part by part, and complete runs
are its values.

A program that asks its environment can be run against an oracle, question by question
(`Prog.run`), which is the right notion for theorems over every environment.  For a run on a fixed
input the oracle's counter is in the way: the value of a part would depend on how many questions
came before it.  With one answer for each question it does not, so that a long run can be
evaluated part by part and each part by its own lemma (`CouncilLogic.Engine.CouncilRun` follows a
whole council that way).
-/

import CouncilLogic.Lib.Prog

namespace Prog

variable {σ ε Q : Type} {A : Q → Type} {α β : Type} {answer : (q : Q) → A q}

/-- Run to the end, asking `answer`. -/
def eval (answer : (q : Q) → A q) : Prog σ ε Q A α → σ → Except ε α × σ
  | .pure a, s => (.ok a, s)
  | .raise e, s => (.error e, s)
  | .get k, s => (k s).eval answer s
  | .put s k, _ => k.eval answer s
  | .ask q k, s => (k (answer q)).eval answer s

/-- What the second part of a sequence makes of the first one. -/
def resume (answer : (q : Q) → A q) (f : α → Prog σ ε Q A β) :
    Except ε α × σ → Except ε β × σ
  | (.ok a, s) => (f a).eval answer s
  | (.error e, s) => (.error e, s)

end Prog
