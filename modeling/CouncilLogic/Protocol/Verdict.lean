/-
# The verdict of a count

Both aggregations of `protocol.py` end the same way: the labels are ordered by points,
first places and name, and the leaders are one winner or a tie.  A `Verdict` is what they
report of it.  It is a function of the tally of the counted rankings (`verdict_congr`),
and it names the leaders of that tally (`verdict_elects`).

Theorems about the aggregation of `src/model_council/protocol.py` can then be stated of the
verdict and proved of the rule: which table the code prints, how it sorts and which of the two
aggregations it is no longer matter.  `profile` is the profile that is counted, the rankings of
the accepted ballots that do not abstain.
-/

import CouncilLogic.Protocol.Check
import CouncilLogic.Protocol.Counting

namespace CouncilLogic
namespace Protocol

variable {rt : Runtime} {labels : List Str} {c c' : Count} {P Q : List (List Str)}

/-! ### Leaders of a count -/

/-- The points and first places of a count are the tally of a profile. -/
structure Count.Tallies (c : Count) (P : List (List Str)) : Prop where
  points : ∀ l, c.points l = (ofLex (Borda.tally P l)).1
  wins : ∀ l, c.wins l = (ofLex (Borda.tally P l)).2

/-- A count of a profile has its tally for every label, also for those nobody ranked. -/
theorem Count.Tallies.tally_eq (h : c.Tallies P) (l : Str) : c.tally l = Borda.tally P l := by
  unfold Count.tally
  rw [h.points, h.wins]
  rfl

/-- The labels that lead in finished totals. -/
def Count.leaders (rt : Runtime) (c : Count) (labels : List Str) : List Str :=
  leadersOf rt c (c.ordered rt labels)

/-- No label leads twice. -/
theorem nodup_leaders (h : labels.Nodup) : (c.leaders rt labels).Nodup := by
  unfold Count.leaders leadersOf
  cases (c.ordered rt labels).head? with
  | none => exact List.nodup_nil
  | some first =>
    refine (sortedByLabel_perm rt _).nodup_iff.2 (List.Nodup.filter _ (List.Nodup.filter _ ?_))
    exact (ordered_perm rt c labels).nodup_iff.2 h

/-- **The leaders of a count** are the leaders of its profile. -/
theorem mem_leaders (rt : Runtime) (h : c.Tallies P) {l : Str} :
    l ∈ c.leaders rt labels ↔ Borda.IsLeader P labels l := by
  unfold Count.leaders
  rw [mem_leadersOf]
  simp only [h.tally_eq]
  rfl

/-- The only leader is the winner. -/
theorem leaders_eq_singleton (h : c.Tallies P) (hnd : labels.Nodup) {w : Str} :
    c.leaders rt labels = [w] ↔ Borda.IsWinner P labels w := by
  rw [Borda.isWinner_iff]
  constructor
  · intro heq
    have hmem : ∀ x, Borda.IsLeader P labels x ↔ x = w := fun x => by
      rw [← mem_leaders rt h, heq, List.mem_singleton]
    exact ⟨(hmem w).2 rfl, fun x => (hmem x).1⟩
  · rintro ⟨hw, hunique⟩
    have hperm : (c.leaders rt labels).Perm [w] :=
      (List.perm_ext_iff_of_nodup (nodup_leaders hnd) (List.nodup_singleton w)).2 fun x => by
        rw [mem_leaders rt h, List.mem_singleton]
        exact ⟨hunique x, fun hx => hx ▸ hw⟩
    exact List.perm_singleton.1 hperm

/-! ### Verdicts -/

/-- What an aggregation reports of its count. -/
structure Verdict where
  winner : Option Str
  tie : Bool
  tiedCandidates : List Str
  ranking : List Str
  bordaPoints : List (Str × ℕ)
  winCounts : List (Str × ℕ)
  countedJudgments : ℕ

def Aggregate.verdict (a : Aggregate) : Verdict :=
  ⟨a.winner, a.tie, a.tiedCandidates, a.ranking, a.bordaPoints, a.winCounts, a.countedJudgments⟩

def OthersAggregate.verdict (a : OthersAggregate) : Verdict :=
  ⟨a.winner, a.tie, a.tiedCandidates, a.ranking, a.bordaPoints, a.winCounts, a.countedJudgments⟩

/-- The leaders, if anything was counted. -/
def Count.tied (rt : Runtime) (labels : List Str) (counted : ℕ) (c : Count) : List Str :=
  if counted = 0 then [] else c.leaders rt (sortedByLabel rt labels)

/-- The verdict of finished totals in which `counted` rankings were counted. -/
def Count.verdict (rt : Runtime) (labels : List Str) (counted : ℕ) (c : Count) : Verdict :=
  let canonicalLabels := sortedByLabel rt labels
  let tied := c.tied rt labels counted
  { winner := if tied.length = 1 then tied.head? else none
    tie := decide (1 < tied.length)
    tiedCandidates := if 1 < tied.length then tied else []
    ranking := c.ordered rt canonicalLabels
    bordaPoints := canonicalLabels.map fun label => (label, c.points label)
    winCounts := canonicalLabels.map fun label => (label, c.wins label)
    countedJudgments := counted }

/-- What a verdict says of a profile. -/
structure Verdict.Elects (v : Verdict) (P : List (List Str)) (labels : List Str) : Prop where
  winner : ∀ w, v.winner = some w ↔ P ≠ [] ∧ Borda.IsWinner P labels w
  tie : v.tie = true ↔
    P ≠ [] ∧ ∃ x y, x ≠ y ∧ Borda.IsLeader P labels x ∧ Borda.IsLeader P labels y
  tied : ∀ l, l ∈ v.tiedCandidates ↔ v.tie = true ∧ Borda.IsLeader P labels l
  nodup : v.tiedCandidates.Nodup
  points : v.bordaPoints.Perm (labels.map fun l => (l, (ofLex (Borda.tally P l)).1))
  wins : v.winCounts.Perm (labels.map fun l => (l, (ofLex (Borda.tally P l)).2))
  counted : v.countedJudgments = P.length
  ranking : v.ranking.Perm labels
  sorted : v.ranking.Pairwise fun a b => Borda.tally P b ≤ Borda.tally P a

/-- Equal tallies have equal verdicts. -/
theorem verdict_congr (h : c.Tallies P) (h' : c'.Tallies Q)
    (htally : ∀ l, Borda.tally P l = Borda.tally Q l) (counted : ℕ) :
    c.verdict rt labels counted = c'.verdict rt labels counted := by
  have hpoints : c.points = c'.points := funext fun l => by rw [h.points, h'.points, htally]
  have hwins : c.wins = c'.wins := funext fun l => by rw [h.wins, h'.wins, htally]
  obtain ⟨points, wins, _, _, _, _, _⟩ := c
  obtain ⟨points', wins', _, _, _, _, _⟩ := c'
  obtain rfl : points = points' := hpoints
  obtain rfl : wins = wins' := hwins
  rfl

/-- A list without repetitions has more than one element when two of them differ. -/
theorem one_lt_length_iff {l : List Str} (h : l.Nodup) :
    1 < l.length ↔ ∃ x y, x ≠ y ∧ x ∈ l ∧ y ∈ l := by
  rw [← List.toFinset_card_of_nodup h, Finset.one_lt_card_iff]
  simp only [List.mem_toFinset]
  constructor
  · rintro ⟨x, y, hx, hy, hxy⟩
    exact ⟨x, y, hxy, hx, hy⟩
  · rintro ⟨x, y, hxy, hx, hy⟩
    exact ⟨x, y, hx, hy, hxy⟩

/-- No label is tied twice. -/
theorem nodup_tied (hnd : labels.Nodup) {counted : ℕ} : (c.tied rt labels counted).Nodup := by
  unfold Count.tied
  split
  · exact List.nodup_nil
  · exact nodup_leaders ((sortedByLabel_perm rt labels).nodup_iff.2 hnd)

section Tied
variable (rt) (h : c.Tallies P) (hnd : labels.Nodup)
include h

/-- The tied labels are the leaders, if anything was counted. -/
theorem mem_tied {l : Str} :
    l ∈ c.tied rt labels P.length ↔ P ≠ [] ∧ Borda.IsLeader P labels l := by
  unfold Count.tied
  split
  · rename_i hP
    exact ⟨nofun, fun hl => absurd (List.length_eq_zero_iff.1 hP) hl.1⟩
  · rename_i hP
    rw [mem_leaders rt h]
    unfold Borda.IsLeader
    simp only [(sortedByLabel_perm rt labels).mem_iff]
    exact ⟨fun hl => ⟨fun hnil => hP (List.length_eq_zero_iff.2 hnil), hl⟩, And.right⟩

include hnd

/-- One label is left when it is the winner of the profile. -/
theorem tied_eq_singleton {w : Str} :
    c.tied rt labels P.length = [w] ↔ P ≠ [] ∧ Borda.IsWinner P labels w := by
  unfold Count.tied
  split
  · rename_i hP
    exact ⟨nofun, fun hl => absurd (List.length_eq_zero_iff.1 hP) hl.1⟩
  · rename_i hP
    rw [leaders_eq_singleton h ((sortedByLabel_perm rt labels).nodup_iff.2 hnd)]
    unfold Borda.IsWinner
    simp only [(sortedByLabel_perm rt labels).mem_iff]
    exact ⟨fun hl => ⟨fun hnil => hP (List.length_eq_zero_iff.2 hnil), hl⟩, And.right⟩

/-- More than one label is left when two of them lead. -/
theorem one_lt_length_tied : 1 < (c.tied rt labels P.length).length ↔
    P ≠ [] ∧ ∃ x y, x ≠ y ∧ Borda.IsLeader P labels x ∧ Borda.IsLeader P labels y := by
  rw [one_lt_length_iff (nodup_tied hnd)]
  simp only [mem_tied rt h]
  constructor
  · rintro ⟨x, y, hxy, ⟨hP, hx⟩, -, hy⟩
    exact ⟨hP, x, y, hxy, hx, hy⟩
  · rintro ⟨hP, x, y, hxy, hx, hy⟩
    exact ⟨x, y, hxy, ⟨hP, hx⟩, hP, hy⟩

/-- **The verdict names the leaders** of its profile. -/
theorem verdict_elects : (c.verdict rt labels P.length).Elects P labels := by
  have hsorted : (sortedByLabel rt labels).Perm labels := sortedByLabel_perm rt labels
  refine ⟨fun w => ?_, ?_, fun l => ?_, ?_, ?_, ?_, rfl, ?_, ?_⟩
  · rw [← tied_eq_singleton rt h hnd]
    unfold Count.verdict
    dsimp only
    split
    · rename_i hone
      obtain ⟨x, hx⟩ := List.length_eq_one_iff.1 hone
      rw [hx]
      simp
    · rename_i hone
      exact ⟨nofun, fun heq => absurd (by rw [heq]; rfl) hone⟩
  · rw [← one_lt_length_tied rt h hnd]
    exact decide_eq_true_iff
  · unfold Count.verdict
    dsimp only
    rw [decide_eq_true_eq]
    split
    · rename_i hlength
      rw [mem_tied rt h]
      exact ⟨fun hl => ⟨hlength, hl.2⟩,
        fun hl => ⟨((one_lt_length_tied rt h hnd).1 hlength).1, hl.2⟩⟩
    · rename_i hlength
      exact ⟨nofun, fun hl => absurd hl.1 hlength⟩
  · unfold Count.verdict
    dsimp only
    split
    · exact nodup_tied hnd
    · exact List.nodup_nil
  · rw [← funext fun l => congrArg (Prod.mk l) (h.points l)]
    exact hsorted.map _
  · rw [← funext fun l => congrArg (Prod.mk l) (h.wins l)]
    exact hsorted.map _
  · exact (ordered_perm rt c _).trans hsorted
  · exact (ordered_pairwise rt c _).imp fun hle => by rwa [← h.tally_eq, ← h.tally_eq]

end Tied

/-! ### The aggregate of a ballot list -/

variable {entries : List Json} {ballots : List JuryArtifact} {reasons : List Str}

/-- The counted rankings of a list of entries. -/
def profile (rt : Runtime) (labels : List Str) (entries : List Json) : List (List Str) :=
  rankingsOf (acceptedBallots rt labels entries)

/-- Every accepted ballot has a ranking or abstains. -/
theorem length_rankingsOf (ballots : List JuryArtifact) :
    (rankingsOf ballots).length + ballots.countP (fun b => b.decision.abstain) =
      ballots.length := by
  unfold rankingsOf
  rw [List.length_map, ← List.countP_eq_length_filter, Nat.add_comm]
  simpa using (List.length_eq_countP_add_countP (fun b : JuryArtifact => b.decision.abstain)).symm

/-- What was counted from nothing is the tally of the rankings. -/
theorem Counted.tallies (h : Counted labels ballots reasons .zero c) :
    c.Tallies (rankingsOf ballots) :=
  ⟨fun l => (h.points l).trans (Nat.zero_add _), fun l => (h.wins l).trans (Nat.zero_add _)⟩

/-- The number of judgments that are counted is that of the rankings. -/
theorem Counted.counted (h : Counted labels ballots reasons .zero c) :
    c.validJudgments - c.abstentions = (rankingsOf ballots).length := by
  have hvalid : c.validJudgments = ballots.length := h.validJudgments.trans (Nat.zero_add _)
  have habstentions : c.abstentions = ballots.countP fun b => b.decision.abstain :=
    h.abstentions.trans (Nat.zero_add _)
  have hlength := length_rankingsOf ballots
  omega

/-- The verdict of the finished record. -/
theorem Counted.finish_verdict (h : Counted labels ballots reasons .zero c) (hne : labels ≠ []) :
    (c.finish rt (sortedByLabel rt labels)).verdict =
      c.verdict rt labels (rankingsOf ballots).length := by
  have hlength : ∀ counted, counted ≠ 0 → 0 < (c.tied rt labels counted).length := by
    intro counted hcounted
    obtain ⟨w, hw⟩ := Borda.exists_isLeader (rankingsOf ballots) (L := sortedByLabel rt labels)
      fun hnil => hne (hnil ▸ sortedByLabel_perm rt labels).nil_eq.symm
    unfold Count.tied
    rw [if_neg hcounted]
    exact List.length_pos_of_mem ((mem_leaders rt h.tallies).2 hw)
  have htie : ∀ counted, (counted ≠ 0 ∧ (c.tied rt labels counted).length ≠ 1) ↔
      1 < (c.tied rt labels counted).length := by
    intro counted
    constructor
    · rintro ⟨hcounted, hone⟩
      have hpos := hlength counted hcounted
      omega
    · intro hlt
      refine ⟨fun hcounted => ?_, by omega⟩
      rw [hcounted] at hlt
      exact absurd hlt (Nat.not_lt_zero 1)
  rw [← h.counted]
  unfold Aggregate.verdict Count.verdict
  dsimp only
  simp only [← htie]
  unfold Count.finish
  simp only [decide_eq_true_eq]
  rfl

/-- Accepted rankings list the labels. -/
theorem perm_of_mem_profile {r : List Str} (h : r ∈ profile rt labels entries) :
    r.Perm labels := by
  obtain ⟨b, hb, rfl⟩ := List.mem_map.1 h
  obtain ⟨hb, habstain⟩ := List.mem_filter.1 hb
  obtain ⟨entry, -, hread⟩ := List.mem_filterMap.1 hb
  cases hr : readEntry rt labels entry with
  | ok b' =>
    rw [hr] at hread
    obtain rfl : b' = b := Option.some.inj hread
    exact ((readEntry_over hr).ranks (by simpa using habstain)).1
  | error e =>
    rw [hr] at hread
    cases hread

/-- The record of a list of entries is that of its count. -/
theorem aggregateJuries_ok (hlabels : validatedLabels labels = .ok ())
    (h : Readable rt labels entries) : ∃ c,
    aggregateJuries rt entries labels = .ok (c.finish rt (sortedByLabel rt labels)) ∧
      Counted labels (acceptedBallots rt labels entries) (refusedReasons rt labels entries)
        .zero c := by
  obtain ⟨c, hc, hcounted⟩ := countEntries_eq h .zero
  refine ⟨c, ?_, hcounted⟩
  unfold aggregateJuries
  rw [hlabels, hc]
  rfl

/-- **The aggregate elects** from the counted rankings. -/
theorem aggregateJuries_elects (hlabels : validatedLabels labels = .ok ())
    (h : Readable rt labels entries) : ∃ a, aggregateJuries rt entries labels = .ok a ∧
      a.verdict.Elects (profile rt labels entries) labels := by
  obtain ⟨c, hc, hcounted⟩ := aggregateJuries_ok hlabels h
  obtain ⟨hne, -, hnd⟩ := validatedLabels_ok hlabels
  refine ⟨_, hc, ?_⟩
  rw [hcounted.finish_verdict hne]
  exact verdict_elects rt hcounted.tallies hnd

end Protocol
end CouncilLogic
