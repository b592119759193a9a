/-
# Self votes

The second aggregation is not influenced by where a juror places its own candidate, and
where no juror has a candidate it agrees with the first (`selfVotes_noninterference`).
The report compares the two by winner and tie flag only.  So it names every change of the
leading candidates but one: from one tie to another (`selfVotes_reported_iff`).

The functions are `aggregate_juries` and `aggregate_excluding_self_votes` of
`src/model_council/protocol.py`, and the report is the one that `_build_result` of
`src/model_council/engine.py` puts into the diagnostics.
-/

import CouncilLogic.Engine.SelfVotes
import CouncilLogic.Guarantees.BordaRule

namespace CouncilLogic

open Protocol

variable {rt : Runtime} {labels : List Str} {record : Dict} {records : List Dict}

/-! ### The two profiles of valid records -/

/-- The rankings of votes. -/
def votesProfile (votes : List Vote) : List (List Str) :=
  (votes.filter fun v => !v.abstain).map Vote.ranking

/-- A valid vote abstains or ranks every label once. -/
structure ValidVote (labels : List Str) (vote : Vote) : Prop where
  nodup : vote.ranking.Nodup
  ranks : vote.abstain = false → vote.ranking.Perm labels

/-- The decision of a record is over the labels. -/
theorem Protocol.RecordOf.over {juror : Str} {b : JuryArtifact}
    (h : RecordOf labels record juror b) : b.decision.Over labels := by
  obtain ⟨payload, -, hb⟩ := h.judgment
  exact (validateJuryObject_ok hb).2.1

/-- The vote of a record is valid. -/
theorem Protocol.RecordOf.validVote {juror : Str} {b : JuryArtifact}
    (h : RecordOf labels record juror b) : ValidVote labels (voteOf record) := by
  rw [h.voteOf_eq]
  refine ⟨?_, fun habstain => (h.over.ranks habstain).1⟩
  cases habstain : b.decision.abstain with
  | true =>
    rw [(h.over.abstains habstain).2]
    exact List.nodup_nil
  | false => exact (h.over.ranks habstain).2.1

/-- The votes of valid records are valid. -/
theorem validVotes (h : ∀ record ∈ records, ValidRecord labels record) :
    ∀ v ∈ records.map voteOf, ValidVote labels v := by
  intro v hv
  obtain ⟨record, hrecord, rfl⟩ := List.mem_map.1 hv
  obtain ⟨juror, b, hof⟩ := h record hrecord
  exact hof.validVote

/-- **The judgments of valid records** are ballots with the rankings of their votes. -/
theorem judgmentsOf_valid (rt : Runtime) (h : ∀ record ∈ records, ValidRecord labels record) :
    ∃ judgments, judgmentsOf records = .ok judgments ∧ Readable rt labels judgments ∧
      profile rt labels judgments = votesProfile (records.map voteOf) := by
  induction records with
  | nil => exact ⟨[], rfl, (fun _ hentry => nomatch hentry), rfl⟩
  | cons record records ih =>
    obtain ⟨⟨juror, b, hof⟩, hrecords⟩ := List.forall_mem_cons.1 h
    obtain ⟨judgments, hjudgments, hreadable, hprofile⟩ := ih hrecords
    obtain ⟨payload, hpayload, hb⟩ := hof.judgment
    have hread : readEntry rt labels (.obj payload) = .ok b := hb
    refine ⟨.obj payload :: judgments, ?_, ?_, ?_⟩
    · unfold judgmentsOf at hjudgments ⊢
      rw [List.mapM_cons, hpayload]
      simp only [bind, Except.bind] at hjudgments ⊢
      rw [hjudgments]
      rfl
    · refine List.forall_mem_cons.2 ⟨fun e he => ?_, hreadable⟩
      rw [hread] at he
      cases he
    · have hcons : profile rt labels (.obj payload :: judgments) =
          rankingsOf [b] ++ profile rt labels judgments := by
        refine (profile_append rt labels [.obj payload] judgments).trans ?_
        congr 1
        unfold profile acceptedBallots
        rw [List.filterMap_cons, hread]
        rfl
      rw [hcons, hprofile, List.map_cons, hof.voteOf_eq]
      unfold votesProfile rankingsOf
      cases habstain : b.decision.abstain <;> simp [habstain]

/-- Where no juror has a candidate nothing is left out. -/
theorem othersProfile_of_notMem {votes : List Vote} (hne : labels ≠ [])
    (h : ∀ v ∈ votes, ValidVote labels v) (hjuror : ∀ v ∈ votes, v.juror ∉ labels) :
    othersProfile labels votes = votesProfile votes := by
  have hothers : ∀ v ∈ votes.filter fun v => !v.abstain,
      v.others labels = v.ranking ∧ v.ranking ≠ [] := by
    intro v hv
    obtain ⟨hv, habstain⟩ := List.mem_filter.1 hv
    have hperm := (h v hv).ranks (by simpa using habstain)
    refine ⟨List.filter_eq_self.2 fun l hl => ?_, fun hnil => hne (hnil ▸ hperm).nil_eq.symm⟩
    have hlabel : l ∈ labels := hperm.mem_iff.1 hl
    have hother : l ≠ v.juror := fun heq => hjuror v hv (heq ▸ hlabel)
    simp [hlabel, hother]
  unfold othersProfile votesProfile
  rw [List.map_congr_left fun v hv => (hothers v hv).1]
  refine List.filter_eq_self.2 fun r hr => ?_
  obtain ⟨v, hv, rfl⟩ := List.mem_map.1 hr
  exact decide_eq_true (hothers v hv).2

/-! ### Noninterference -/

/-- The second ranking has `x` at another place, and the others in the same order. -/
def Moves (x : Str) (r r' : List Str) : Prop :=
  ∃ above below above' below', r = above ++ x :: below ∧ r' = above' ++ x :: below' ∧
    above ++ below = above' ++ below'

/-- The reduced ranking does not tell where the own candidate was. -/
theorem Moves.others_eq {v v' : Vote} (hjuror : v'.juror = v.juror)
    (h : Moves v.juror v.ranking v'.ranking) : v'.others labels = v.others labels := by
  obtain ⟨above, below, above', below', hr, hr', heq⟩ := h
  have hdrop : ∀ above below : List Str, (above ++ v.juror :: below).filter
      (fun label => decide (label ∈ labels) && decide (label ≠ v.juror)) =
      (above ++ below).filter fun label => decide (label ∈ labels) && decide (label ≠ v.juror) := by
    intro above below
    rw [List.filter_append, List.filter_cons_of_neg (by simp), ← List.filter_append]
  unfold Vote.others
  rw [hjuror, hr, hr', hdrop, hdrop, heq]

/-- A ballot counts the same without its self vote, wherever its own candidate stood. -/
theorem addOthersBallot_moves {v v' : Vote} (c : Count) (hjuror : v'.juror = v.juror)
    (habstain : v'.abstain = v.abstain) (h : Moves v.juror v.ranking v'.ranking) :
    c.addOthersBallot labels v' = c.addOthersBallot labels v := by
  have hothers : v'.others labels = v.others labels := h.others_eq hjuror
  unfold Vote.others at hothers
  unfold Count.addOthersBallot
  simp only [hothers, habstain]

/-- **Self votes do not interfere.**  Moving a juror's own candidate within that juror's
ranking leaves the aggregate without self votes unchanged; and where no juror is one of
the labels, its whole verdict is that of `aggregate_juries` on the same judgments. -/
theorem selfVotes_noninterference (rt : Runtime) (labels : List Str) :
    (∀ above below record record' juror b b', RecordOf labels record juror b →
      RecordOf labels record' juror b' → Moves juror b.decision.ranking b'.decision.ranking →
      aggregateExcludingSelfVotes rt ((above ++ record' :: below).map voteOf) labels =
        aggregateExcludingSelfVotes rt ((above ++ record :: below).map voteOf) labels) ∧
    ∀ records, validatedLabels labels = .ok () →
      (∀ record ∈ records, ValidRecord labels record) →
      (∀ record ∈ records, ∀ juror, jurorOf record = some juror → juror ∉ labels) →
      ∃ judgments a others, judgmentsOf records = .ok judgments ∧
        aggregateJuries rt judgments labels = .ok a ∧
        aggregateExcludingSelfVotes rt (records.map voteOf) labels = .ok others ∧
        others.verdict = a.verdict := by
  constructor
  · intro above below record record' juror b b' hof hof' hmoves
    have habstain : ∀ {record : Dict} {b : JuryArtifact}, RecordOf labels record juror b →
        juror ∈ b.decision.ranking → b.decision.abstain = false := by
      intro record b hof hmem
      rw [← Bool.not_eq_true]
      intro habstain
      rw [(hof.over.abstains habstain).2] at hmem
      cases hmem
    obtain ⟨_, _, _, _, hr, hr', -⟩ := id hmoves
    have hnot := habstain hof (hr ▸ List.mem_append_right _ List.mem_cons_self)
    have hnot' := habstain hof' (hr' ▸ List.mem_append_right _ List.mem_cons_self)
    have hvote : ∀ c : Count, c.addOthersBallot (sortedByLabel rt labels) (voteOf record') =
        c.addOthersBallot (sortedByLabel rt labels) (voteOf record) := by
      intro c
      rw [hof.voteOf_eq, hof'.voteOf_eq]
      exact addOthersBallot_moves c rfl (hnot'.trans hnot.symm) hmoves
    unfold aggregateExcludingSelfVotes
    simp only [List.map_append, List.map_cons, List.foldl_append, List.foldl_cons, hvote]
  · intro records hlabels hvalid hjurors
    obtain ⟨hne, -, -⟩ := validatedLabels_ok hlabels
    obtain ⟨judgments, hjudgments, hreadable, hprofile⟩ := judgmentsOf_valid rt hvalid
    obtain ⟨c, hc, hcounted⟩ := aggregateJuries_ok hlabels hreadable
    have hvotes := validVotes hvalid
    obtain ⟨others, c', hothers, htallies, hverdict⟩ := aggregateExcludingSelfVotes_ok rt
      hlabels fun v hv => (hvotes v hv).nodup
    have hsame : othersProfile labels (records.map voteOf) = profile rt labels judgments := by
      rw [hprofile]
      refine othersProfile_of_notMem hne hvotes fun v hv => ?_
      obtain ⟨record, hrecord, rfl⟩ := List.mem_map.1 hv
      obtain ⟨juror, b, hof⟩ := hvalid record hrecord
      rw [hof.voteOf_eq]
      exact hjurors record hrecord juror hof.juror
    rw [hsame] at htallies hverdict
    refine ⟨judgments, _, others, hjudgments, hc, hothers, ?_⟩
    rw [hverdict, hcounted.finish_verdict hne]
    exact verdict_congr htallies hcounted.tallies (fun _ => rfl) _

/-- A record of this juror with this ranking. -/
def exampleRecord (juror : Str) (ranking : List Str) : Dict :=
  (lit "juror", .str juror) ::
    JuryArtifact.toDict ⟨⟨ranking.head?, ranking, .high, false⟩, lit "clear", [], []⟩

/-- A ballot of the example makes a valid record. -/
theorem exampleRecord_of (labels : List Str) (juror : Str) (ranking : List Str)
    (h : ∃ b, validateJuryObject
      (JuryArtifact.toDict ⟨⟨ranking.head?, ranking, .high, false⟩, lit "clear", [], []⟩) labels =
        .ok b ∧ b.decision.ranking = ranking) :
    ∃ b, RecordOf labels (exampleRecord juror ranking) juror b ∧ b.decision.ranking = ranking := by
  obtain ⟨b, hb, hranking⟩ := h
  exact ⟨b, ⟨rfl, _, rfl, hb⟩, hranking⟩

/-- A juror moves its own candidate down; and a juror without a candidate votes. -/
theorem selfVotes_noninterference_example :
    aggregateExcludingSelfVotes exampleRuntime
        (([] ++ exampleRecord (lit "A") [lit "B", lit "A"] :: []).map voteOf)
        [lit "A", lit "B"] =
      aggregateExcludingSelfVotes exampleRuntime
        (([] ++ exampleRecord (lit "A") [lit "A", lit "B"] :: []).map voteOf)
        [lit "A", lit "B"] ∧
    ∃ judgments a others,
      judgmentsOf [exampleRecord (lit "X") [lit "B", lit "A"]] = .ok judgments ∧
        aggregateJuries exampleRuntime judgments [lit "A", lit "B"] = .ok a ∧
        aggregateExcludingSelfVotes exampleRuntime
          ([exampleRecord (lit "X") [lit "B", lit "A"]].map voteOf) [lit "A", lit "B"] =
            .ok others ∧
        others.verdict = a.verdict := by
  obtain ⟨b, hof, hb⟩ :=
    exampleRecord_of [lit "A", lit "B"] (lit "A") [lit "A", lit "B"] ⟨_, rfl, rfl⟩
  obtain ⟨b', hof', hb'⟩ :=
    exampleRecord_of [lit "A", lit "B"] (lit "A") [lit "B", lit "A"] ⟨_, rfl, rfl⟩
  obtain ⟨b'', hof'', -⟩ :=
    exampleRecord_of [lit "A", lit "B"] (lit "X") [lit "B", lit "A"] ⟨_, rfl, rfl⟩
  refine ⟨(selfVotes_noninterference exampleRuntime [lit "A", lit "B"]).1 [] [] _ _ _ b b' hof
      hof' ?_,
    (selfVotes_noninterference exampleRuntime [lit "A", lit "B"]).2 _ rfl ?_ ?_⟩
  · rw [hb, hb']
    exact ⟨[], [lit "B"], [lit "B"], [], rfl, rfl, rfl⟩
  · exact fun record hrecord => List.mem_singleton.1 hrecord ▸ ⟨_, _, hof''⟩
  · intro record hrecord juror hjuror
    rw [List.mem_singleton.1 hrecord] at hjuror
    cases hjuror
    decide

/-! ### What the report names -/

/-- The winner, or the tied candidates, or none. -/
def Protocol.Verdict.leading (v : Verdict) : List Str := v.winner.toList ++ v.tiedCandidates

/-- Two labels lead in a profile. -/
def Ties (P : List (List Str)) (labels : List Str) : Prop :=
  P ≠ [] ∧ ∃ x y, x ≠ y ∧ Borda.IsLeader P labels x ∧ Borda.IsLeader P labels y

/-- Where there is a tie nobody wins. -/
theorem Ties.not_isWinner {P : List (List Str)} (h : Ties P labels) (w : Str) :
    ¬ Borda.IsWinner P labels w := by
  obtain ⟨-, x, y, hxy, hx, hy⟩ := h
  intro hw
  obtain ⟨-, hunique⟩ := Borda.isWinner_iff.1 hw
  exact hxy ((hunique x hx).trans (hunique y hy).symm)

/-- A verdict on a tie names no winner. -/
theorem Protocol.Verdict.Elects.winner_of_ties {v : Verdict} {P : List (List Str)}
    (h : v.Elects P labels) (hties : Ties P labels) : v.winner = none :=
  Option.eq_none_iff_forall_ne_some.2 fun w hw => hties.not_isWinner w ((h.winner w).1 hw).2

/-- A verdict without a tie names nobody as tied. -/
theorem Protocol.Verdict.Elects.tied_of_not {v : Verdict} {P : List (List Str)}
    (h : v.Elects P labels) (htie : v.tie = false) : v.tiedCandidates = [] := by
  refine List.eq_nil_iff_forall_not_mem.2 fun l hl => ?_
  rw [((h.tied l).1 hl).1] at htie
  cases htie

/-- The report sees no change exactly when the winner and the tie flag are the same. -/
theorem outcomeChanges_eq_false {r : SelfVoteReport} : r.outcomeChanges = false ↔
    r.withSelfVotes.winner = r.excludingSelfVotes.winner ∧
      r.withSelfVotes.tie = r.excludingSelfVotes.tie := by
  unfold SelfVoteReport.outcomeChanges
  rw [Bool.or_eq_false_iff, decide_eq_false_iff_not, not_not, bne_eq_false_iff_eq]

/-- **Which changes are reported.**  For valid records, an unset flag means the same
leading candidates unless the rankings tie with self votes, tie without them, and some
label leads in one of the two counts only. -/
theorem selfVotes_reported_iff (hlabels : validatedLabels labels = .ok ())
    (hvalid : ∀ record ∈ records, ValidRecord labels record) :
    ∃ judgments a report, judgmentsOf records = .ok judgments ∧
      aggregateJuries rt judgments labels = .ok a ∧
      selfVoteReport rt (records.map voteOf) labels a = .ok report ∧
      ((report.outcomeChanges = false → ∀ l,
          l ∈ report.withSelfVotes.verdict.leading ↔
            l ∈ report.excludingSelfVotes.verdict.leading) ↔
        ¬ (Ties (votesProfile (records.map voteOf)) labels ∧
          Ties (othersProfile labels (records.map voteOf)) labels ∧
          ∃ l, ¬ (Borda.IsLeader (votesProfile (records.map voteOf)) labels l ↔
            Borda.IsLeader (othersProfile labels (records.map voteOf)) labels l))) := by
  obtain ⟨-, -, hnd⟩ := validatedLabels_ok hlabels
  obtain ⟨judgments, hjudgments, hreadable, hprofile⟩ := judgmentsOf_valid rt hvalid
  obtain ⟨a, ha, helects⟩ := aggregateJuries_elects hlabels hreadable
  obtain ⟨others, c, hothers, htallies, hverdict⟩ := aggregateExcludingSelfVotes_ok rt
    hlabels fun v hv => (validVotes hvalid v hv).nodup
  have helects' := verdict_elects rt htallies hnd
  rw [hprofile] at helects
  rw [← hverdict] at helects'
  generalize votesProfile (records.map voteOf) = P at helects ⊢
  generalize othersProfile labels (records.map voteOf) = P' at helects' ⊢
  have hreport : ∃ self ranked, selfVoteReport rt (records.map voteOf) labels a =
      .ok ⟨self, ranked, a, others⟩ := by
    unfold selfVoteReport
    rw [hlabels, hothers]
    exact ⟨_, _, rfl⟩
  obtain ⟨self, ranked, hreport⟩ := hreport
  refine ⟨judgments, a, _, hjudgments, ha, hreport, ?_⟩
  rw [outcomeChanges_eq_false]
  have hwinner : a.winner = a.verdict.winner := rfl
  have htie : a.tie = a.verdict.tie := rfl
  have hwinner' : others.winner = others.verdict.winner := rfl
  have htie' : others.tie = others.verdict.tie := rfl
  dsimp only
  rw [hwinner, htie, hwinner', htie']
  generalize a.verdict = v at helects ⊢
  generalize others.verdict = v' at helects' ⊢
  have hleading : ∀ {v : Verdict} {P : List (List Str)}, v.Elects P labels → Ties P labels →
      ∀ l, l ∈ v.leading ↔ Borda.IsLeader P labels l := by
    intro v P h hties l
    unfold Verdict.leading
    rw [h.winner_of_ties hties, Option.toList_none, List.nil_append, h.tied]
    exact ⟨And.right, fun hl => ⟨h.tie.2 hties, hl⟩⟩
  constructor
  · rintro hsame ⟨hties, hties', l, hl⟩
    refine hl ?_
    rw [← hleading helects hties, ← hleading helects' hties']
    refine hsame ⟨?_, ?_⟩ l
    · rw [helects.winner_of_ties hties, helects'.winner_of_ties hties']
    · rw [helects.tie.2 hties, helects'.tie.2 hties']
  · rintro hnot ⟨heq, hflag⟩ l
    cases hv : v.tie with
    | true =>
      have hties : Ties P labels := helects.tie.1 hv
      have hties' : Ties P' labels := helects'.tie.1 (hflag ▸ hv)
      rw [hleading helects hties, hleading helects' hties']
      by_contra hl
      exact hnot ⟨hties, hties', l, hl⟩
    | false =>
      unfold Verdict.leading
      rw [heq, helects.tied_of_not hv, helects'.tied_of_not (hflag ▸ hv)]

/-! ### From one tie to another -/

/-- Four candidates that judge each other. -/
def exampleRecords : List Dict :=
  [exampleRecord (lit "A") [lit "A", lit "B", lit "C", lit "D"],
    exampleRecord (lit "B") [lit "A", lit "B", lit "C", lit "D"],
    exampleRecord (lit "C") [lit "D", lit "C", lit "B", lit "A"],
    exampleRecord (lit "D") [lit "D", lit "C", lit "B", lit "A"]]

/-- The records of the example are valid. -/
theorem exampleRecords_valid : ∀ record ∈ exampleRecords,
    ValidRecord [lit "A", lit "B", lit "C", lit "D"] record := by
  have hvalid : ∀ (juror : Str) (ranking : List Str), (∃ b, validateJuryObject
      (JuryArtifact.toDict ⟨⟨ranking.head?, ranking, .high, false⟩, lit "clear", [], []⟩)
        [lit "A", lit "B", lit "C", lit "D"] = .ok b ∧ b.decision.ranking = ranking) →
      ValidRecord [lit "A", lit "B", lit "C", lit "D"] (exampleRecord juror ranking) := by
    intro juror ranking h
    obtain ⟨b, hof, -⟩ := exampleRecord_of _ juror ranking h
    exact ⟨_, _, hof⟩
  intro record hrecord
  simp only [exampleRecords, List.mem_cons, List.not_mem_nil, or_false] at hrecord
  rcases hrecord with rfl | rfl | rfl | rfl <;> exact hvalid _ _ ⟨_, rfl, rfl⟩

/-- With self votes `A` and `D` tie, without them `B` and `C`: nothing is reported. -/
theorem selfVotes_unreported : ∃ judgments a report,
    (∀ record ∈ exampleRecords, ValidRecord [lit "A", lit "B", lit "C", lit "D"] record) ∧
    judgmentsOf exampleRecords = .ok judgments ∧
      aggregateJuries exampleRuntime judgments [lit "A", lit "B", lit "C", lit "D"] = .ok a ∧
      selfVoteReport exampleRuntime (exampleRecords.map voteOf)
        [lit "A", lit "B", lit "C", lit "D"] a = .ok report ∧
      report.outcomeChanges = false ∧
      report.withSelfVotes.verdict.leading = [lit "A", lit "D"] ∧
      report.excludingSelfVotes.verdict.leading = [lit "B", lit "C"] :=
  ⟨_, _, _, exampleRecords_valid, rfl, rfl, rfl, by decide, by decide, by decide⟩

/-- A juror that ranks itself first, and alone decides: a change that is reported. -/
theorem selfVotes_reported_iff_example : ∃ judgments a report,
    judgmentsOf [exampleRecord (lit "A") [lit "A", lit "B"]] = .ok judgments ∧
      aggregateJuries exampleRuntime judgments [lit "A", lit "B"] = .ok a ∧
      selfVoteReport exampleRuntime
        ([exampleRecord (lit "A") [lit "A", lit "B"]].map voteOf) [lit "A", lit "B"] a =
          .ok report ∧
      (report.outcomeChanges = false → ∀ l, l ∈ report.withSelfVotes.verdict.leading ↔
        l ∈ report.excludingSelfVotes.verdict.leading) := by
  obtain ⟨b, hof, -⟩ :=
    exampleRecord_of [lit "A", lit "B"] (lit "A") [lit "A", lit "B"] ⟨_, rfl, rfl⟩
  obtain ⟨judgments, a, report, hjudgments, ha, hreport, hiff⟩ :=
    @selfVotes_reported_iff exampleRuntime [lit "A", lit "B"]
      [exampleRecord (lit "A") [lit "A", lit "B"]] rfl
      fun record hrecord => List.mem_singleton.1 hrecord ▸ ⟨_, _, hof⟩
  refine ⟨judgments, a, report, hjudgments, ha, hreport, hiff.2 ?_⟩
  rintro ⟨⟨-, x, y, hxy, hx, hy⟩, -⟩
  have hlead : ∀ z, Borda.IsLeader
      (votesProfile ([exampleRecord (lit "A") [lit "A", lit "B"]].map voteOf))
      [lit "A", lit "B"] z → z = lit "A" := by
    intro z hz
    have hle := hz.2 (lit "A") (by decide)
    rcases List.mem_pair.1 hz.1 with rfl | rfl
    · rfl
    · exact absurd hle (by decide)
  exact hxy ((hlead x hx).trans (hlead y hy).symm)

end CouncilLogic
