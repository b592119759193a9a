/-
# The Borda rule with first places as the tie-break

`aggregate_juries` sorts, filters the leaders by points and then by first places.  For
every list of ballots this names the maxima of the lexicographic order on points and first
places, provided a ranking was counted at all: where every entry abstains or is invalid,
there is neither a winner nor a tie (`noBallots_noTie`).  The result is symmetric in the
ballots and in the candidates, and only counted rankings have a part in it.

The function is `aggregate_juries` of `src/model_council/protocol.py`, and the rule it is compared
with is the one of `CouncilLogic.Lib.Borda`, which knows of rankings and candidates only.
-/

import CouncilLogic.Engine.Creation
import CouncilLogic.Protocol.Renaming

namespace CouncilLogic

open Protocol

variable {rt : Runtime} {labels : List Str} {entries : List Json}

/-! ### Order and padding of the ballot list -/

/-- The candidates that are kept do not depend on the order in which they are given. -/
theorem stableUnique_perm (rt : Runtime) {values values' : List Str} (h : values.Perm values') :
    stableUnique rt values = stableUnique rt values' := by
  unfold stableUnique
  exact sortedByLabel_eq_of_perm (((h.filter _).map _).dedup)

/-- Whether all entries can be read does not depend on their order. -/
theorem Protocol.Readable.perm {entries' : List Json} (h : Readable rt labels entries)
    (hperm : entries'.Perm entries) : Readable rt labels entries' :=
  fun entry hentry => h entry (hperm.mem_iff.1 hentry)

/-- **The order of the ballots does not matter.** -/
theorem aggregateJuries_perm_entries {entries' : List Json}
    (hlabels : validatedLabels labels = .ok ()) (h : Readable rt labels entries)
    (hperm : entries'.Perm entries) :
    aggregateJuries rt entries' labels = aggregateJuries rt entries labels := by
  obtain ⟨c, hc, hcounted⟩ := aggregateJuries_ok hlabels h
  obtain ⟨c', hc', hcounted'⟩ := aggregateJuries_ok hlabels (h.perm hperm)
  have haccepted : (acceptedBallots rt labels entries').Perm (acceptedBallots rt labels entries) :=
    hperm.filterMap _
  have hrefused : (refusedReasons rt labels entries').Perm (refusedReasons rt labels entries) :=
    hperm.filterMap _
  have hrankings : (rankingsOf (acceptedBallots rt labels entries')).Perm
      (rankingsOf (acceptedBallots rt labels entries)) := (haccepted.filter _).map _
  have hpoints : c'.points = c.points := funext fun l => by
    rw [hcounted.points, hcounted'.points, Borda.tally_perm hrankings]
  have hwins : c'.wins = c.wins := funext fun l => by
    rw [hcounted.wins, hcounted'.wins, Borda.tally_perm hrankings]
  have hvalid : c'.validJudgments = c.validJudgments := by
    rw [hcounted.validJudgments, hcounted'.validJudgments, haccepted.length_eq]
  have habstentions : c'.abstentions = c.abstentions := by
    rw [hcounted.abstentions, hcounted'.abstentions, haccepted.countP_eq]
  have hreasons : c'.invalidReasons.Perm c.invalidReasons := by
    rw [hcounted.invalidReasons, hcounted'.invalidReasons]
    exact hrefused.append_left _
  have hdisagreements : c'.disagreements.Perm c.disagreements := by
    rw [hcounted.disagreements, hcounted'.disagreements]
    exact (haccepted.flatMap_right _).append_left _
  have hverification : c'.verification.Perm c.verification := by
    rw [hcounted.verification, hcounted'.verification]
    exact (haccepted.flatMap_right _).append_left _
  rw [hc, hc']
  obtain ⟨points, wins, abstentions, validJudgments, reasons, disagreements, verification⟩ := c
  obtain ⟨points', wins', abstentions', validJudgments', reasons', disagreements',
    verification'⟩ := c'
  obtain rfl : points' = points := hpoints
  obtain rfl : wins' = wins := hwins
  obtain rfl : validJudgments' = validJudgments := hvalid
  obtain rfl : abstentions' = abstentions := habstentions
  unfold Count.finish
  simp only [hreasons.length_eq, stableUnique_perm rt hreasons,
    stableUnique_perm rt hdisagreements, stableUnique_perm rt hverification]
  rfl

/-- An entry that is not counted: an abstention, or an invalid one. -/
def Uncounted (rt : Runtime) (labels : List Str) (entry : Json) : Prop :=
  match readEntry rt labels entry with
  | .ok b => b.decision.abstain = true
  | .error e => e.isValueOrType = true

/-- The profile of two lists of entries is that of the one and then that of the other. -/
theorem profile_append (rt : Runtime) (labels : List Str) (entries extra : List Json) :
    profile rt labels (entries ++ extra) =
      profile rt labels entries ++ profile rt labels extra := by
  simp [profile, acceptedBallots, rankingsOf]

/-- Entries that are not counted can be read. -/
theorem readable_of_uncounted {extra : List Json} (h : ∀ entry ∈ extra, Uncounted rt labels entry) :
    Readable rt labels extra := by
  intro entry hentry e he
  have hun := h entry hentry
  unfold Uncounted at hun
  rw [he] at hun
  exact hun

/-- Uncounted entries add no ranking. -/
theorem profile_of_uncounted {extra : List Json} (h : ∀ entry ∈ extra, Uncounted rt labels entry) :
    profile rt labels extra = [] := by
  unfold profile
  induction extra with
  | nil => rfl
  | cons entry extra ih =>
    obtain ⟨hentry, hextra⟩ := List.forall_mem_cons.1 h
    unfold Uncounted at hentry
    unfold acceptedBallots at ih ⊢
    rw [List.filterMap_cons]
    cases hread : readEntry rt labels entry with
    | error e => exact ih hextra
    | ok b =>
      rw [hread] at hentry
      simp only [Except.toOption, rankingsOf_cons]
      rw [if_pos hentry]
      exact ih hextra

/-- The verdict is that of the profile. -/
theorem aggregateJuries_verdict {entries' : List Json} {a a' : Aggregate}
    (hlabels : validatedLabels labels = .ok ()) (h : Readable rt labels entries)
    (h' : Readable rt labels entries')
    (hprofile : profile rt labels entries' = profile rt labels entries)
    (ha : aggregateJuries rt entries labels = .ok a)
    (ha' : aggregateJuries rt entries' labels = .ok a') : a'.verdict = a.verdict := by
  obtain ⟨c, hc, hcounted⟩ := aggregateJuries_ok hlabels h
  obtain ⟨c', hc', hcounted'⟩ := aggregateJuries_ok hlabels h'
  obtain ⟨hne, -, -⟩ := validatedLabels_ok hlabels
  rw [hc] at ha
  rw [hc'] at ha'
  cases ha
  cases ha'
  unfold profile at hprofile
  rw [hcounted.finish_verdict hne, hcounted'.finish_verdict hne, hprofile]
  exact verdict_congr hcounted'.tallies hcounted.tallies (fun l => by rw [hprofile]) _

/-- **Abstentions and invalid entries change nothing.** -/
theorem aggregateJuries_uncounted {extra entries' : List Json} {a : Aggregate}
    (hlabels : validatedLabels labels = .ok ()) (h : Readable rt labels entries)
    (hextra : ∀ entry ∈ extra, Uncounted rt labels entry)
    (hperm : entries'.Perm (entries ++ extra))
    (ha : aggregateJuries rt entries labels = .ok a) :
    ∃ a', aggregateJuries rt entries' labels = .ok a' ∧ a'.verdict = a.verdict := by
  have hall : Readable rt labels (entries ++ extra) := by
    intro entry hentry
    rcases List.mem_append.1 hentry with hin | hin
    · exact h entry hin
    · exact readable_of_uncounted hextra entry hin
  obtain ⟨c, hc, -⟩ := aggregateJuries_ok hlabels hall
  rw [aggregateJuries_perm_entries hlabels hall hperm]
  refine ⟨_, hc, aggregateJuries_verdict hlabels h hall ?_ ha hc⟩
  rw [profile_append, profile_of_uncounted hextra, List.append_nil]

/-! ### Renamed candidates -/

/-- The verdict over renamed labels. -/
structure Protocol.Verdict.RenamedTo (v v' : Verdict) (σ : Str → Str) : Prop where
  winner : v'.winner = v.winner.map σ
  tie : v'.tie = v.tie
  tied : v'.tiedCandidates.Perm (v.tiedCandidates.map σ)
  points : v'.bordaPoints.Perm (v.bordaPoints.map (Prod.map σ id))
  wins : v'.winCounts.Perm (v.winCounts.map (Prod.map σ id))

/-- What a renamed profile elects. -/
theorem Protocol.Verdict.Elects.rename {v v' : Verdict} {P : List (List Str)} {σ : Str → Str}
    (hσ : Function.Injective σ) (h : v.Elects P labels)
    (h' : v'.Elects (P.map (List.map σ)) (labels.map σ)) : v.RenamedTo v' σ := by
  have hnil : P.map (List.map σ) ≠ [] ↔ P ≠ [] := not_congr List.map_eq_nil_iff
  have htie : v'.tie = v.tie := by
    rw [Bool.eq_iff_iff, h.tie, h'.tie, hnil]
    simp only [Borda.isLeader_map hσ]
    constructor
    · rintro ⟨hP, _, _, hxy, ⟨x, hx, rfl⟩, ⟨y, hy, rfl⟩⟩
      exact ⟨hP, x, y, fun heq => hxy (heq ▸ rfl), hx, hy⟩
    · rintro ⟨hP, x, y, hxy, hx, hy⟩
      exact ⟨hP, σ x, σ y, hσ.ne hxy, ⟨x, hx, rfl⟩, ⟨y, hy, rfl⟩⟩
  refine ⟨Option.ext fun w' => ?_, htie, ?_, ?_, ?_⟩
  · rw [h'.winner, hnil, Option.map_eq_some_iff, Borda.isWinner_iff]
    simp only [h.winner, Borda.isWinner_iff, Borda.isLeader_map hσ]
    constructor
    · rintro ⟨hP, ⟨w, hw, rfl⟩, hunique⟩
      exact ⟨w, ⟨hP, hw, fun x hx => hσ (hunique (σ x) ⟨x, hx, rfl⟩)⟩, rfl⟩
    · rintro ⟨w, ⟨hP, hw, hunique⟩, rfl⟩
      refine ⟨hP, ⟨w, hw, rfl⟩, ?_⟩
      rintro _ ⟨x, hx, rfl⟩
      exact congrArg σ (hunique x hx)
  · refine (List.perm_ext_iff_of_nodup h'.nodup (h.nodup.map hσ)).2 fun l => ?_
    rw [h'.tied, htie, Borda.isLeader_map hσ, List.mem_map]
    simp only [h.tied]
    constructor
    · rintro ⟨ht, x, hx, rfl⟩
      exact ⟨x, ⟨ht, hx⟩, rfl⟩
    · rintro ⟨x, ⟨ht, hx⟩, rfl⟩
      exact ⟨ht, x, hx, rfl⟩
  · refine h'.points.trans (.trans (.of_eq ?_) (h.points.map (Prod.map σ id)).symm)
    rw [List.map_map, List.map_map]
    refine List.map_congr_left fun l _ => ?_
    simp only [Function.comp_apply, Prod.map_apply, id_eq, Borda.tally_map hσ]
  · refine h'.wins.trans (.trans (.of_eq ?_) (h.wins.map (Prod.map σ id)).symm)
    rw [List.map_map, List.map_map]
    refine List.map_congr_left fun l _ => ?_
    simp only [Function.comp_apply, Prod.map_apply, id_eq, Borda.tally_map hσ]

/-! ### The rule -/

/-- The points of all candidates, and their first places. -/
theorem Protocol.Verdict.Elects.sums {v : Verdict} {P : List (List Str)} (h : v.Elects P labels)
    (hnd : labels.Nodup) (hne : labels ≠ []) (hP : ∀ r ∈ P, r.Perm labels) :
    (v.bordaPoints.map Prod.snd).sum =
        v.countedJudgments * labels.length * (labels.length - 1) / 2 ∧
      (v.winCounts.map Prod.snd).sum = v.countedJudgments := by
  have hpoints := Borda.sum_fst_tally hnd hP
  rw [(h.points.map Prod.snd).sum_eq, (h.wins.map Prod.snd).sum_eq, h.counted]
  constructor
  · rw [List.map_map, Nat.mul_assoc, ← hpoints, Nat.mul_div_cancel_left _ Nat.two_pos]
    rfl
  · rw [List.map_map]
    exact Borda.sum_snd_tally hnd hne hP

/-- **The Borda rule.**  For distinct labels and a list of rankings, abstentions and
invalid entries there is an aggregate.  If a ranking was counted, its winner is the unique
maximum of points and first places in lexicographic order, and it reports a tie of exactly
the maxima where there are two or more; if none was counted, it has neither.  Its tables
are the tally of the counted rankings, which add up to `counted * n * (n - 1) / 2` and
`counted`, and its ranking does not increase.  The order of ballots and of labels does not
matter, added abstentions and invalid entries change no part of the verdict, and renamed
labels have the renamed verdict. -/
theorem aggregateJuries_bordaRule (hlabels : validatedLabels labels = .ok ())
    (h : Readable rt labels entries) : ∃ a, aggregateJuries rt entries labels = .ok a ∧
      a.verdict.Elects (profile rt labels entries) labels ∧
      (a.bordaPoints.map Prod.snd).sum =
        a.countedJudgments * labels.length * (labels.length - 1) / 2 ∧
      (a.winCounts.map Prod.snd).sum = a.countedJudgments ∧
      (∀ entries' labels', entries'.Perm entries → labels'.Perm labels →
        aggregateJuries rt entries' labels' = .ok a) ∧
      (∀ extra entries', (∀ entry ∈ extra, Uncounted rt labels entry) →
        entries'.Perm (entries ++ extra) →
        ∃ a', aggregateJuries rt entries' labels = .ok a' ∧ a'.verdict = a.verdict) ∧
      ∀ σ : Str → Str, Function.Injective σ → validatedLabels (labels.map σ) = .ok () →
        ∀ entries', List.Forall₂ (Renamed rt σ) entries entries' →
          ∃ a', aggregateJuries rt entries' (labels.map σ) = .ok a' ∧
            a.verdict.RenamedTo a'.verdict σ := by
  obtain ⟨hne, -, hnd⟩ := validatedLabels_ok hlabels
  obtain ⟨a, ha, helects⟩ := aggregateJuries_elects hlabels h
  obtain ⟨hpoints, hwins⟩ := helects.sums hnd hne fun r hr => perm_of_mem_profile hr
  refine ⟨a, ha, helects, hpoints, hwins, ?_, ?_, ?_⟩
  · intro entries' labels' hentries hlabels'
    rw [aggregateJuries_perm _ hlabels', aggregateJuries_perm_entries hlabels h hentries, ha]
  · intro extra entries' hextra hperm
    exact aggregateJuries_uncounted hlabels h hextra hperm ha
  · intro σ hσ hrenamed entries' hentries
    obtain ⟨a', ha', helects'⟩ := aggregateJuries_elects hrenamed
      (readable_rename hσ hlabels hrenamed hentries h)
    rw [profile_rename hσ hlabels hrenamed hentries] at helects'
    exact ⟨a', ha', helects.rename hσ helects'⟩

/-- A ballot with this ranking. -/
def exampleBallot (ranking : List Str) : Json :=
  .obj (JuryArtifact.toDict ⟨⟨ranking.head?, ranking, .high, false⟩, lit "clear", [], []⟩)

/-- One ballot and something else: the ballot decides. -/
theorem aggregateJuries_bordaRule_example : ∃ a,
    aggregateJuries exampleRuntime [exampleBallot [lit "B", lit "A"], .null] [lit "A", lit "B"] =
      .ok a ∧ a.winner = some (lit "B") := by
  have hreadable : Readable exampleRuntime [lit "A", lit "B"]
      [exampleBallot [lit "B", lit "A"], .null] := by
    intro entry hentry e he
    simp only [List.mem_cons, List.not_mem_nil, or_false] at hentry
    rcases hentry with rfl | rfl <;> cases he
    rfl
  obtain ⟨a, ha, helects, -⟩ := aggregateJuries_bordaRule (by decide) hreadable
  refine ⟨a, ha, (helects.winner _).2 ⟨by decide, by decide, ?_⟩⟩
  decide

/-! ### Nothing counted -/

/-- Without ballots all labels have the most points, and there is no tie. -/
theorem noBallots_noTie : ∃ a, aggregateJuries exampleRuntime [] [lit "A", lit "B"] = .ok a ∧
    a.bordaPoints = [(lit "A", 0), (lit "B", 0)] ∧ a.winCounts = [(lit "A", 0), (lit "B", 0)] ∧
    a.winner = none ∧ a.tie = false ∧ a.tiedCandidates = [] :=
  ⟨_, rfl, by decide, by decide, by decide, by decide, by decide⟩

end CouncilLogic
