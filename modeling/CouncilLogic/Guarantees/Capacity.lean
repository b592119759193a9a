/-
# The capacity for plain text

A plan reports how long a plain question may be, and how much plain text may still be put
behind its question.  Both numbers are extrapolated from three sample projections.  They
are exact: the projections grow by one for each plain character in the stages that show the
question, and the repair stage, which does not, is measured as it is.

The drawn markers are assumed not to occur in the printed question nor in the rest of the
record; `estimate_workload` raises when one does.

The two numbers are `effective_plain_question_max_chars` and `plain_question_headroom_chars` in
the plan of `estimate_workload` in `src/model_council/workload.py`, and the extrapolation is
`_plain_question_capacity`.
-/

import CouncilLogic.Engine.Projection

namespace CouncilLogic
namespace Workload

open Protocol

variable {rt : Runtime} {policy : RunPolicy} {question : Str} {providers : List Str}

/-- A plan's question is within limits when it can be encoded and its frame fits. -/
theorem withinLimits_iff {plan : Plan} {f : Frame} {width : ℕ}
    (hchars : plan.stagePromptChars = f.chars width)
    (hexceeded : plan.promptLimitExceededStages =
      (plan.stagePromptChars.toList.filter fun c =>
        decide (policy.maxStagePromptChars < c.2)).map Prod.fst)
    (hmax : plan.maxQuestionChars = policy.maxQuestionChars) :
    plan.withinLimits = true ↔
      plan.questionUtf8Valid = true ∧ f.Fits policy plan.questionChars width := by
  have hempty : plan.promptLimitExceededStages.isEmpty = true ↔
      ∀ c ∈ (f.chars width).toList, (c.2 : ℤ) ≤ policy.maxStagePromptChars := by
    rw [hexceeded, hchars, List.isEmpty_iff, List.map_eq_nil_iff, List.filter_eq_nil_iff]
    simp only [decide_eq_true_eq, not_lt]
  unfold Plan.withinLimits
  rw [Bool.and_eq_true, Bool.and_eq_true, hempty, decide_eq_true_eq, hmax, Frame.fits_iff,
    and_assoc]
  obtain ⟨p, j, s, r⟩ := f
  cases r with
  | none => simp [Frame.chars, StageChars.toList]
  | some r => simp [Frame.chars, StageChars.toList]

/-- **A plan** is returned, with the exact capacity of its question. -/
theorem estimateWorkload_frame {f : Frame}
    (hframe : ∀ (draws : MarkerDraws) (question : Str), Str.isBlank question = false →
      Clear draws providers.length question →
      stagePromptChars rt draws question providers.length policy =
        .ok (f.chars (Str.width question)))
    {draws : PlanDraws} (hblank : Str.isBlank question = false)
    (hapart : draws.Apart providers.length question) (synthesisProviders : List Str) :
    ∃ plan maximum headroom,
      estimateWorkload rt draws question providers policy synthesisProviders = .ok plan ∧
      plan.capacity.effectiveMaximum = some maximum ∧
      plan.capacity.headroom = some headroom ∧
      f.Capacity policy question.length (Str.width question) maximum headroom ∧
      (plan.withinLimits = true ↔
        Str.encodable question = true ∧ f.Fits policy question.length (Str.width question)) := by
  have hchars := hframe draws.current question hblank
    (clear_of_apart fun stage => (hapart stage).1)
  obtain ⟨maximum, headroom, limiting, hcapacity, hexact⟩ :=
    plainQuestionCapacity_frame hframe hblank hapart
  unfold estimateWorkload
  simp only [bind, Except.bind, hchars, hcapacity]
  exact ⟨_, maximum, headroom, rfl, rfl, rfl, hexact, withinLimits_iff rfl rfl rfl⟩

/-- **The capacity for plain text is exact.**  The plan of any question, fitting or not, is
returned, and a plain question is within limits exactly up to its reported maximum; when
the question itself is within limits, plain text behind it stays within limits exactly up to
its reported headroom. -/
theorem plainCapacity_exact (hproviders : providers ≠ [])
    (hlimit : policy.juryRepairAttempts ≠ 0 → 2 ≤ rt.recursionLimit)
    (hblank : Str.isBlank question = false) (synthesisProviders : List Str)
    (draws : PlanDraws) (hapart : draws.Apart providers.length question) :
    ∃ plan maximum headroom,
      estimateWorkload rt draws question providers policy synthesisProviders = .ok plan ∧
      plan.capacity.effectiveMaximum = some maximum ∧
      plan.capacity.headroom = some headroom ∧
      (∀ (t : Str) (draws' : PlanDraws), Plain t → Str.isBlank t = false →
        draws'.Apart providers.length t →
        ∃ plan', estimateWorkload rt draws' t providers policy synthesisProviders = .ok plan' ∧
          (plan'.withinLimits = true ↔ (t.length : ℤ) ≤ maximum)) ∧
      (plan.withinLimits = true → ∀ (t : Str) (draws' : PlanDraws), Plain t →
        draws'.Apart providers.length (question ++ t) →
        ∃ plan', estimateWorkload rt draws' (question ++ t) providers policy
            synthesisProviders = .ok plan' ∧
          (plan'.withinLimits = true ↔ (t.length : ℤ) ≤ headroom)) := by
  have hn : providers.length ≠ 0 := fun h => hproviders (List.length_eq_zero_iff.1 h)
  obtain ⟨f, hframe⟩ := stagePromptChars_frame hn hlimit
  obtain ⟨plan, maximum, headroom, hplan, hmaximum, hheadroom, hexact, hwithin⟩ :=
    estimateWorkload_frame hframe hblank hapart synthesisProviders
  refine ⟨plan, maximum, headroom, hplan, hmaximum, hheadroom, ?_, ?_⟩
  · intro t draws' hplain hblank' hapart'
    obtain ⟨plan', -, -, hplan', -, -, -, hwithin'⟩ :=
      estimateWorkload_frame hframe hblank' hapart' synthesisProviders
    have hpos : 1 ≤ (t.length : ℤ) := by
      cases t with
      | nil => cases hblank'
      | cons c t => exact_mod_cast Nat.succ_le_succ (Nat.zero_le _)
    refine ⟨plan', hplan', ?_⟩
    rw [hwithin', hexact.maximum _ hpos, width_plain hplain, Nat.cast_add]
    exact and_iff_right (encodable_plain hplain)
  · intro hfits t draws' hplain hapart'
    have hblank' : Str.isBlank (question ++ t) = false := by
      unfold Str.isBlank at hblank ⊢
      rw [List.all_append, hblank, Bool.false_and]
    obtain ⟨plan', -, -, hplan', -, -, -, hwithin'⟩ :=
      estimateWorkload_frame hframe hblank' hapart' synthesisProviders
    obtain ⟨hencodable, hfits⟩ := hwithin.1 hfits
    refine ⟨plan', hplan', ?_⟩
    rw [hwithin', hexact.headroom hfits _ (Int.natCast_nonneg _), width_append_plain _ hplain,
      List.length_append, Nat.cast_add, Nat.cast_add]
    refine and_iff_right ?_
    rw [encodable_append, hencodable, encodable_plain hplain]
    rfl

/-- A plan of one provider: what fits behind its question, and from the start. -/
theorem plainCapacity_exact_solo :
    ∃ plan maximum headroom,
      estimateWorkload exampleRuntime ninesDraws (lit "Why?") [lit "solo"]
        exampleEngine.policy [lit "solo"] = .ok plan ∧
      plan.capacity.effectiveMaximum = some maximum ∧
      plan.capacity.headroom = some headroom ∧
      (∃ plan', estimateWorkload exampleRuntime ninesDraws (lit "So?") [lit "solo"]
          exampleEngine.policy [lit "solo"] = .ok plan' ∧
        (plan'.withinLimits = true ↔ ((lit "So?").length : ℤ) ≤ maximum)) ∧
      (plan.withinLimits = true →
        ∃ plan', estimateWorkload exampleRuntime ninesDraws (lit "Why?" ++ lit " So?")
            [lit "solo"] exampleEngine.policy [lit "solo"] = .ok plan' ∧
          (plan'.withinLimits = true ↔ ((lit " So?").length : ℤ) ≤ headroom)) := by
  have hapart : ∀ {question : Str}, 57 ∉ Json.dumpsStr question →
      ninesDraws.Apart 1 question := apart_ninesDraws unshown_one
  obtain ⟨plan, maximum, headroom, hplan, hmaximum, hheadroom, hplain, hbehind⟩ :=
    @plainCapacity_exact exampleRuntime exampleEngine.policy (lit "Why?") [lit "solo"]
      (List.cons_ne_nil (lit "solo") []) (fun _ => by decide)
      (by decide) [lit "solo"] ninesDraws
      (hapart (by decide))
  exact ⟨plan, maximum, headroom, hplan, hmaximum, hheadroom,
    hplain (lit "So?") ninesDraws (by unfold Plain; decide) (by decide) (hapart (by decide)),
    fun hfits => hbehind hfits (lit " So?") ninesDraws (by unfold Plain; decide)
      (hapart (by decide))⟩

end Workload
end CouncilLogic
