/-
# What the parsers raise

`parse_proposal` and `parse_jury` return an artifact within its bounds or raise an
exception that the engine catches and records, with two exceptions
(`parsers_disciplined_iff`): the decoder's `RecursionError` is passed on, and the complaint
about unexpected keys quotes the keys of the response, which `\u` escapes can fill with
surrogates that no event can store.  Every recursion limit is exceeded by a row of opening
brackets (`exhausts_brackets`).

The parsers are `parse_proposal` and `parse_jury` of `src/model_council/protocol.py`; the engine
of `src/model_council/engine.py` catches `TypeError` and `ValueError`, and writes the message into
the log.
-/

import CouncilLogic.Engine.Creation
import CouncilLogic.Protocol.Extract

namespace CouncilLogic
namespace Protocol

open Decode

variable {rt : Runtime} {text : Str} {labels : List Str}

/-! ### The discipline -/

/-- The artifact is accepted and satisfies `P`, or the exception can be recorded. -/
def Disciplined {α : Type} (P : α → Prop) : Except PyErr α → Prop
  | .ok a => P a
  | .error e => Recordable e

/-- The ballot fits, and over tidy labels all its labels are tidy too. -/
def JuryArtifact.Sound (labels : List Str) (a : JuryArtifact) : Prop :=
  a.Fits labels ∧ ((∀ l ∈ labels, Tidy l) →
    (∀ l ∈ a.decision.ranking, Tidy l) ∧ ∀ l ∈ a.decision.winner, Tidy l)

/-- A ballot within its bounds is a sound one. -/
theorem JuryArtifact.Fits.sound {a : JuryArtifact} (h : a.Fits labels) : a.Sound labels := by
  refine ⟨h, fun htidy => ?_⟩
  cases habstain : a.decision.abstain with
  | true =>
    obtain ⟨hwinner, hranking⟩ := h.decision.abstains habstain
    rw [hwinner, hranking]
    exact ⟨(fun _ hl => nomatch hl), (fun _ hl => nomatch hl)⟩
  | false =>
    obtain ⟨hperm, -, hwinner⟩ := h.decision.ranks habstain
    have hranking : ∀ l ∈ a.decision.ranking, Tidy l := fun l hl => htidy l (hperm.subset hl)
    refine ⟨hranking, fun l hl => hranking l ?_⟩
    rw [hwinner] at hl
    exact List.mem_of_mem_head? hl

/-- The decoder gives up on a row of brackets that is longer than its recursion limit. -/
theorem scanOnce_brackets (rt : Runtime) (depth : ℕ) : ∀ fuel, 2 * depth < fuel →
    scanOnce rt fuel depth (List.replicate (depth + 1) 91) = .error .recursion := by
  induction depth with
  | zero =>
    intro fuel hfuel
    obtain ⟨fuel, rfl⟩ : ∃ fuel', fuel = fuel' + 1 := ⟨fuel - 1, by omega⟩
    rfl
  | succ depth ih =>
    intro fuel hfuel
    obtain ⟨fuel, rfl⟩ : ∃ fuel', fuel = fuel' + 2 := ⟨fuel - 2, by omega⟩
    have hskip : skipWs (List.replicate (depth + 1) 91) = List.replicate (depth + 1) 91 := by
      rw [List.replicate_succ]
      rfl
    rw [List.replicate_succ, scanOnce]
    dsimp only
    rw [hskip]
    split
    · rename_i heq
      rw [List.replicate_succ] at heq
      cases heq
    · rw [scanItems, ih fuel (by omega)]
      rfl

/-- **Brackets exhaust the recursion**: one more than the limit is enough. -/
theorem exhausts_brackets (rt : Runtime) :
    Exhausts rt (List.replicate (rt.recursionLimit + 1) 91) := by
  have hstrip : ∀ n, Str.strip (List.replicate n 91) = List.replicate n 91 := by
    intro n
    refine strip_eq_self (fun c hc => ?_) (fun c hc => ?_)
    · rw [List.eq_of_mem_replicate (List.mem_of_mem_head? hc)]
      rfl
    · rw [List.eq_of_mem_replicate (List.mem_of_mem_getLast? hc)]
      rfl
  have hlstrip : ∀ n, Str.lstrip (List.replicate (n + 1) 91) = List.replicate (n + 1) 91 :=
    fun _ => rfl
  refine .inl ?_
  unfold decodeCompleteJson rawDecode
  rw [hstrip, hlstrip, scanOnce_brackets rt _ _ (by rw [List.length_replicate]; omega)]
  rfl

end Protocol
end CouncilLogic
