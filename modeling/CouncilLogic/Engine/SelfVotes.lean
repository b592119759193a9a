/-
# Counting without self votes

`aggregate_excluding_self_votes` drops every juror's own candidate from its ranking and
counts what is left.  Over valid records its verdict is that of the reduced rankings
(`aggregateExcludingSelfVotes_ok`), and these are the same wherever the own candidate
stood in its juror's ranking.

`aggregate_excluding_self_votes` is a function of `src/model_council/protocol.py` that
`_build_result` of `src/model_council/engine.py` calls for the diagnostics of a result.  It never
decides the vote: what is locked is the count of all ballots as they are.
-/

import CouncilLogic.Engine.Result
import CouncilLogic.Protocol.Verdict

namespace CouncilLogic
namespace Protocol

variable {rt : Runtime} {labels : List Str} {record : Dict} {records : List Dict}

/-! ### Valid records -/

/-- A jury record of a juror whose judgment is accepted for the labels. -/
structure RecordOf (labels : List Str) (record : Dict) (juror : Str) (b : JuryArtifact) : Prop where
  juror : jurorOf record = some juror
  judgment : ∃ payload, judgmentPayload record = .ok payload ∧
    validateJuryObject payload labels = .ok b

/-- A jury record whose judgment is accepted for the labels. -/
def ValidRecord (labels : List Str) (record : Dict) : Prop :=
  ∃ juror b, RecordOf labels record juror b

/-- The payload of a judgment has the fields of the record it was made from. -/
theorem get?_judgmentPayload {payload : Dict} (h : judgmentPayload record = .ok payload) :
    ∀ key ∈ judgmentKeys, payload.get? key = record.get? key := by
  unfold judgmentPayload at h
  generalize judgmentKeys = keys at h ⊢
  induction keys generalizing payload with
  | nil => exact fun key hkey => nomatch hkey
  | cons k keys ih =>
    rw [List.mapM_cons] at h
    simp only [bind, Except.bind, pure, Except.pure] at h
    cases hk : record.get? k with
    | none =>
      rw [hk] at h
      cases h
    | some v =>
      rw [hk] at h
      dsimp only at h
      split at h
      · cases h
      rename_i rest hrest
      cases h
      refine List.forall_mem_cons.2 ⟨?_, fun key hkey => ?_⟩
      · rw [Dict.get?_cons, if_pos rfl, hk]
      · rw [Dict.get?_cons]
        split
        · rename_i heq
          rw [heq, hk]
        · exact ih hrest key hkey

/-- A field that is read as something other than null is there. -/
theorem get?_of_field {value : Dict} {key : Str} {j : Json} (h : field value key = j)
    (hj : j ≠ .null) : value.get? key = some j := by
  unfold field at h
  cases hget : value.get? key with
  | none =>
    rw [hget] at h
    exact absurd h.symm hj
  | some v =>
    rw [hget] at h
    exact congrArg some h

/-- The vote of a valid record. -/
theorem RecordOf.voteOf_eq {juror : Str} {b : JuryArtifact} (h : RecordOf labels record juror b) :
    voteOf record = ⟨juror, b.decision.winner, b.decision.ranking, b.decision.abstain⟩ := by
  obtain ⟨payload, hpayload, hb⟩ := h.judgment
  obtain ⟨-, -, hread⟩ := validateJuryObject_ok hb
  have hget := get?_judgmentPayload hpayload
  have hranking : record.get? (lit "ranking") = some (.arr (b.decision.ranking.map .str)) := by
    rw [← hget _ (by decide)]
    exact get?_of_field hread.ranking (by rintro ⟨⟩)
  have habstain : record.get? (lit "abstain") = some (.bool b.decision.abstain) := by
    rw [← hget _ (by decide)]
    exact get?_of_field hread.abstain (by rintro ⟨⟩)
  have hwinner : (voteOf record).winner = b.decision.winner := by
    unfold voteOf
    dsimp only
    rw [← hget _ (by decide)]
    have hfield := hread.winner
    cases hw : b.decision.winner with
    | none =>
      rw [hw] at hfield
      unfold field at hfield
      cases hp : payload.get? (lit "winner") with
      | none => rfl
      | some v =>
        rw [hp] at hfield
        obtain rfl : v = .null := hfield
        rfl
    | some w =>
      rw [hw] at hfield
      rw [get?_of_field hfield (by rintro ⟨⟩)]
      rfl
  have hstrings : (Json.arr (b.decision.ranking.map .str)).strings? = some b.decision.ranking :=
    rankingLabels_eq_some.2 rfl
  rw [← hwinner]
  unfold voteOf
  rw [h.juror, hranking, habstain, Option.bind_some, hstrings]
  cases b.decision.abstain <;> rfl

/-! ### Reduced rankings -/

/-- The ranking of a vote without the juror's own candidate. -/
def Vote.others (labels : List Str) (vote : Vote) : List Str :=
  vote.ranking.filter fun label => decide (label ∈ labels) && decide (label ≠ vote.juror)

/-- The rankings counted without self votes. -/
def othersProfile (labels : List Str) (votes : List Vote) : List (List Str) :=
  ((votes.filter fun v => !v.abstain).map (Vote.others labels)).filter fun r => r ≠ []

/-- The other candidates of a vote do not depend on the order of the labels. -/
theorem Vote.others_perm {labels' : List Str} (h : labels.Perm labels') (vote : Vote) :
    vote.others labels = vote.others labels' := by
  unfold Vote.others
  simp only [h.mem_iff]

/-- One vote adds its reduced ranking. -/
theorem addOthersBallot_tallies (labels : List Str) {c : Count} {P : List (List Str)}
    (h : c.Tallies P)
    (hcounted : c.validJudgments = P.length) {vote : Vote} (hnd : vote.ranking.Nodup) :
    (c.addOthersBallot labels vote).Tallies (P ++ othersProfile labels [vote]) ∧
      (c.addOthersBallot labels vote).validJudgments =
        (P ++ othersProfile labels [vote]).length := by
  have hothers : (vote.others labels).Nodup := hnd.filter _
  have hfilter : (vote.ranking.filter fun label =>
      decide (label ∈ labels) && decide (label ≠ vote.juror)) = vote.others labels := rfl
  unfold Count.addOthersBallot
  dsimp only
  rw [hfilter]
  cases habstain : vote.abstain with
  | true =>
    have hprofile : othersProfile labels [vote] = [] := by simp [othersProfile, habstain]
    rw [hprofile, List.append_nil]
    cases vote.others labels with
    | nil => exact ⟨h, hcounted⟩
    | cons first rest => exact ⟨h, hcounted⟩
  | false =>
    cases hranking : vote.others labels with
    | nil =>
      have hprofile : othersProfile labels [vote] = [] := by
        simp [othersProfile, habstain, hranking]
      rw [hprofile, List.append_nil]
      exact ⟨h, hcounted⟩
    | cons first rest =>
      have hprofile : othersProfile labels [vote] = [first :: rest] := by
        simp [othersProfile, habstain, hranking]
      rw [hranking] at hothers
      rw [hprofile]
      refine ⟨⟨fun l => ?_, fun l => ?_⟩, ?_⟩
      · have hpoints := addBorda_eq hothers 0 c.points l
        rw [Nat.zero_add, h.points] at hpoints
        rw [Borda.tally_append, Borda.tally_cons, Borda.tally_nil, add_zero]
        exact hpoints
      · have hwins : bump c.wins first 1 l = c.wins l + Borda.firsts (first :: rest) l := by
          unfold bump Borda.firsts
          rw [List.head?_cons]
          by_cases hl : l = first
          · rw [if_pos hl, if_pos (congrArg some hl.symm)]
          · rw [if_neg hl, if_neg fun heq => hl (Option.some.inj heq).symm]
            rfl
        rw [h.wins] at hwins
        rw [Borda.tally_append, Borda.tally_cons, Borda.tally_nil, add_zero]
        exact hwins
      · rw [List.length_append, ← hcounted]
        rfl

/-- The profile without self votes of two lists of votes is that of the one and then that of the
other. -/
theorem othersProfile_append (labels : List Str) (votes votes' : List Vote) :
    othersProfile labels (votes ++ votes') =
      othersProfile labels votes ++ othersProfile labels votes' := by
  simp [othersProfile]

/-- The loop counts the reduced rankings. -/
theorem foldl_addOthersBallot (labels : List Str) {votes : List Vote}
    (hnd : ∀ v ∈ votes, v.ranking.Nodup)
    {c : Count} {P : List (List Str)} (h : c.Tallies P) (hcounted : c.validJudgments = P.length) :
    (votes.foldl (Count.addOthersBallot labels) c).Tallies (P ++ othersProfile labels votes) ∧
      (votes.foldl (Count.addOthersBallot labels) c).validJudgments =
        (P ++ othersProfile labels votes).length := by
  induction votes generalizing c P with
  | nil =>
    have hprofile : P ++ othersProfile labels [] = P := List.append_nil P
    rw [hprofile]
    exact ⟨h, hcounted⟩
  | cons vote votes ih =>
    obtain ⟨hvote, hvotes⟩ := List.forall_mem_cons.1 hnd
    obtain ⟨htallies, hvalid⟩ := addOthersBallot_tallies labels h hcounted hvote
    have hcons : othersProfile labels (vote :: votes) =
        othersProfile labels [vote] ++ othersProfile labels votes :=
      othersProfile_append labels [vote] votes
    rw [hcons, ← List.append_assoc]
    exact ih hvotes htallies hvalid

/-- The profile without self votes does not depend on the order of the labels. -/
theorem othersProfile_perm {labels' : List Str} (h : labels.Perm labels') (votes : List Vote) :
    othersProfile labels votes = othersProfile labels' votes := by
  unfold othersProfile
  rw [show Vote.others labels = Vote.others labels' from funext fun v => v.others_perm h]

/-- **The verdict without self votes** is that of the reduced rankings. -/
theorem aggregateExcludingSelfVotes_ok (rt : Runtime) {votes : List Vote}
    (hlabels : validatedLabels labels = .ok ()) (hnd : ∀ v ∈ votes, v.ranking.Nodup) :
    ∃ (a : OthersAggregate) (c : Count),
      aggregateExcludingSelfVotes rt votes labels = .ok a ∧
      c.Tallies (othersProfile labels votes) ∧
      a.verdict = c.verdict rt labels (othersProfile labels votes).length := by
  have hzero : Count.zero.Tallies [] := ⟨fun _ => rfl, fun _ => rfl⟩
  obtain ⟨htallies, hcounted⟩ := foldl_addOthersBallot (sortedByLabel rt labels) hnd
    hzero rfl
  rw [List.nil_append, othersProfile_perm (sortedByLabel_perm rt labels)] at htallies hcounted
  cases hagg : aggregateExcludingSelfVotes rt votes labels with
  | error e =>
    unfold aggregateExcludingSelfVotes at hagg
    rw [hlabels] at hagg
    cases hagg
  | ok a =>
    unfold aggregateExcludingSelfVotes at hagg
    rw [hlabels] at hagg
    cases hagg
    refine ⟨_, _, rfl, htallies, ?_⟩
    rw [← hcounted]
    unfold OthersAggregate.verdict
    simp only [decide_eq_true_eq]
    rfl

end Protocol
end CouncilLogic
