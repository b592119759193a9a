/-
# Consistency and monotonicity of the tie-broken count

Two laws of social choice that relate different runs of `aggregate_juries`.  Who wins in
two ballot lists wins in both together; and a winner that is raised in one ballot, the
other candidates keeping their order, still wins.

The function is `aggregate_juries` of `src/model_council/protocol.py`.  The laws themselves are
proved of the rule in `CouncilLogic.Lib.Borda`; what is shown here is that the code inherits them.
-/

import CouncilLogic.Guarantees.BordaRule

namespace CouncilLogic

open Protocol

variable {rt : Runtime} {labels : List Str} {entries : List Json}

/-- An aggregate is one of distinct labels and readable entries. -/
theorem aggregateJuries_inputs {a : Aggregate} (h : aggregateJuries rt entries labels = .ok a) :
    validatedLabels labels = .ok () ∧ Readable rt labels entries := by
  unfold aggregateJuries at h
  simp only [bind, Except.bind] at h
  split at h
  · cases h
  rename_i hlabels
  split at h
  · cases h
  rename_i c hc
  exact ⟨hlabels, readable_of_countEntries hc⟩

/-- The winner of an aggregate is that of its profile. -/
theorem winner_iff {a : Aggregate} (h : aggregateJuries rt entries labels = .ok a) {w : Str} :
    a.winner = some w ↔
      profile rt labels entries ≠ [] ∧ Borda.IsWinner (profile rt labels entries) labels w := by
  obtain ⟨hlabels, hreadable⟩ := aggregateJuries_inputs h
  obtain ⟨a', ha', helects⟩ := aggregateJuries_elects hlabels hreadable
  rw [h] at ha'
  cases ha'
  exact helects.winner w

/-- A winning profile elects its winner. -/
theorem exists_winner (hlabels : validatedLabels labels = .ok ()) (h : Readable rt labels entries)
    {w : Str} (hne : profile rt labels entries ≠ [])
    (hw : Borda.IsWinner (profile rt labels entries) labels w) :
    ∃ a, aggregateJuries rt entries labels = .ok a ∧ a.winner = some w := by
  obtain ⟨a, ha, helects⟩ := aggregateJuries_elects hlabels h
  exact ⟨a, ha, (helects.winner w).2 ⟨hne, hw⟩⟩

/-- A ballot that is counted is one ranking more. -/
theorem profile_cons {entry : Json} {b : JuryArtifact} (h : readEntry rt labels entry = .ok b)
    (habstain : b.decision.abstain = false) (entries : List Json) :
    profile rt labels (entry :: entries) = b.decision.ranking :: profile rt labels entries := by
  unfold profile acceptedBallots
  rw [List.filterMap_cons, h]
  simp only [Except.toOption, rankingsOf_cons, habstain]
  rfl

/-- A ballot that ranks a candidate does not abstain. -/
theorem abstain_of_mem_ranking {entry : Json} {b : JuryArtifact}
    (h : readEntry rt labels entry = .ok b) {w : Str} (hw : w ∈ b.decision.ranking) :
    b.decision.abstain = false := by
  rw [← Bool.not_eq_true]
  intro habstain
  rw [((readEntry_over h).abstains habstain).2] at hw
  cases hw

/-- **Consistency and monotonicity.**  If `w` wins with the ballots `J₁` and with the
ballots `J₂`, then it wins with both lists together; and if it wins and one ballot is
replaced by one that ranks `w` higher and the other labels in the same order, then it
still wins. -/
theorem aggregateJuries_socialChoice (rt : Runtime) (labels : List Str) (w : Str) :
    (∀ J₁ J₂ a₁ a₂, aggregateJuries rt J₁ labels = .ok a₁ → a₁.winner = some w →
      aggregateJuries rt J₂ labels = .ok a₂ → a₂.winner = some w →
      ∃ a, aggregateJuries rt (J₁ ++ J₂) labels = .ok a ∧ a.winner = some w) ∧
    ∀ above below ballot ballot' b b' a, readEntry rt labels ballot = .ok b →
      readEntry rt labels ballot' = .ok b' →
      Borda.Raises w b.decision.ranking b'.decision.ranking →
      aggregateJuries rt (above ++ ballot :: below) labels = .ok a → a.winner = some w →
      ∃ a', aggregateJuries rt (above ++ ballot' :: below) labels = .ok a' ∧
        a'.winner = some w := by
  constructor
  · intro J₁ J₂ a₁ a₂ h₁ hw₁ h₂ hw₂
    obtain ⟨hlabels, hreadable₁⟩ := aggregateJuries_inputs h₁
    obtain ⟨-, hreadable₂⟩ := aggregateJuries_inputs h₂
    obtain ⟨hne, hwins₁⟩ := (winner_iff h₁).1 hw₁
    obtain ⟨-, hwins₂⟩ := (winner_iff h₂).1 hw₂
    refine exists_winner hlabels ?_ ?_ ?_
    · exact fun entry hentry => (List.mem_append.1 hentry).elim (hreadable₁ entry)
        (hreadable₂ entry)
    · rw [profile_append]
      exact List.append_ne_nil_of_left_ne_nil hne _
    · rw [profile_append]
      exact hwins₁.append hwins₂
  · intro above below ballot ballot' b b' a hread hread' hraises ha hw
    obtain ⟨hlabels, hreadable⟩ := aggregateJuries_inputs ha
    obtain ⟨-, hwins⟩ := (winner_iff ha).1 hw
    have habstain : b.decision.abstain = false := by
      obtain ⟨_, _, _, hr, -⟩ := hraises
      exact abstain_of_mem_ranking hread (hr ▸ List.mem_append_right _ List.mem_cons_self)
    have habstain' : b'.decision.abstain = false := by
      obtain ⟨_, _, _, -, hr⟩ := hraises
      exact abstain_of_mem_ranking hread' (hr ▸ List.mem_append_right _ List.mem_cons_self)
    rw [profile_append, profile_cons hread habstain] at hwins
    refine exists_winner hlabels ?_ ?_ ?_
    · intro entry hentry e he
      rcases List.mem_append.1 hentry with hin | hin
      · exact hreadable entry (List.mem_append_left _ hin) e he
      rcases List.mem_cons.1 hin with rfl | hin
      · rw [hread'] at he
        cases he
      · exact hreadable entry (List.mem_append_right _ (List.mem_cons_of_mem _ hin)) e he
    · rw [profile_append, profile_cons hread' habstain']
      exact List.append_ne_nil_of_right_ne_nil _ (List.cons_ne_nil _ _)
    · rw [profile_append, profile_cons hread' habstain']
      exact hwins.raise hraises (((readEntry_over hread).ranks habstain).2.1)

/-- Three candidates: `B` wins twice, and once more where it is raised to the top. -/
theorem aggregateJuries_socialChoice_example :
    (∃ a, aggregateJuries exampleRuntime
        ([exampleBallot [lit "B", lit "A", lit "C"]] ++
          [exampleBallot [lit "B", lit "C", lit "A"]]) [lit "A", lit "B", lit "C"] = .ok a ∧
      a.winner = some (lit "B")) ∧
    ∃ a, aggregateJuries exampleRuntime
        ([exampleBallot [lit "B", lit "A", lit "C"]] ++
          exampleBallot [lit "B", lit "C", lit "A"] :: []) [lit "A", lit "B", lit "C"] = .ok a ∧
      a.winner = some (lit "B") :=
  ⟨(aggregateJuries_socialChoice exampleRuntime [lit "A", lit "B", lit "C"] (lit "B")).1
      [exampleBallot [lit "B", lit "A", lit "C"]] [exampleBallot [lit "B", lit "C", lit "A"]]
      _ _ rfl (by decide) rfl (by decide),
    (aggregateJuries_socialChoice exampleRuntime [lit "A", lit "B", lit "C"] (lit "B")).2
      [exampleBallot [lit "B", lit "A", lit "C"]] []
      (exampleBallot [lit "C", lit "B", lit "A"]) (exampleBallot [lit "B", lit "C", lit "A"])
      _ _ _ rfl rfl ⟨[], [lit "C"], [lit "A"], rfl, rfl⟩ rfl (by decide)⟩

end CouncilLogic
