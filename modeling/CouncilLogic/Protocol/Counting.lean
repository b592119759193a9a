/-
# What the count of the ballots is

The counting loop of `aggregate_juries` adds up the rankings of the accepted ballots
(`countEntries_eq`): its points and first places are the tally of a profile, and its
finished record names the leaders of that profile (`mem_leadersOf`).  An entry that is
not accepted, or that abstains, adds no ranking.

It is the bridge between the code and `CouncilLogic.Lib.Borda`: on one side the loop over the
ballot list with its three dictionaries, on the other a profile of rankings and its tally.  What
the sorted table of the code calls the leaders are the candidates of the greatest tally, since the
table is sorted by points and first places, and the names of labels only order equals.
-/

import CouncilLogic.Lib.Borda
import CouncilLogic.Protocol.Ballots

namespace CouncilLogic
namespace Protocol

variable {rt : Runtime} {labels : List Str} {entries : List Json} {value : Dict} {c c' : Count}

/-! ### Accepted decisions -/

/-- A decision over labels: an abstention, or all labels in an order. -/
structure JuryDecision.Over (d : JuryDecision) (labels : List Str) : Prop where
  abstains : d.abstain = true → d.winner = none ∧ d.ranking = []
  ranks : d.abstain = false → d.ranking.Perm labels ∧ d.ranking.Nodup ∧
    d.winner = d.ranking.head?

/-- The decision is what the fields of the dictionary say. -/
structure JuryDecision.ReadFrom (d : JuryDecision) (value : Dict) : Prop where
  abstain : field value (lit "abstain") = .bool d.abstain
  confidence : field value (lit "confidence") = .str d.confidence.name
  ranking : field value (lit "ranking") = .arr (d.ranking.map .str)
  winner : field value (lit "winner") = (d.winner.map Json.str).getD .null

/-- A ranking is read when all of its items are texts, and then it is these. -/
theorem rankingLabels_eq_some {items : List Json} {ranking : List Str} :
    rankingLabels items = some ranking ↔ items = ranking.map .str := by
  induction items generalizing ranking with
  | nil => cases ranking <;> simp [rankingLabels]
  | cons item items ih =>
    cases item with
    | str s =>
      rw [rankingLabels, Option.map_eq_some_iff]
      constructor
      · rintro ⟨r, hr, rfl⟩
        rw [ih.1 hr]
        rfl
      · intro heq
        cases ranking with
        | nil => cases heq
        | cons l ranking =>
          rw [List.map_cons, List.cons.injEq, Json.str.injEq] at heq
          obtain ⟨rfl, heq⟩ := heq
          exact ⟨ranking, ih.2 heq, rfl⟩
    | _ => cases ranking <;> simp [rankingLabels]

/-- A confidence that is read is one of the three names. -/
theorem readConfidence_ok {j : Json} {confidence : Confidence}
    (h : readConfidence j = .ok confidence) : j = .str confidence.name := by
  unfold readConfidence at h
  split at h
  · split_ifs at h <;> cases h <;> subst_vars <;> rfl
  all_goals cases h

/-- Labels that are accepted are some, none of them blank, and distinct. -/
theorem validatedLabels_ok (h : validatedLabels labels = .ok ()) :
    labels ≠ [] ∧ (∀ l ∈ labels, Str.isBlank l = false) ∧ labels.Nodup := by
  unfold validatedLabels at h
  split_ifs at h with hnil hblank hnd
  refine ⟨hnil, fun l hl => ?_, hnd⟩
  rw [← Bool.not_eq_true]
  exact fun hb => hblank (List.any_eq_true.2 ⟨l, hl, hb⟩)

/-- **Accepted decisions** abstain or rank every label once, as their fields say. -/
theorem validateJuryDecision_ok {d : JuryDecision} (hnd : labels.Nodup)
    (h : validateJuryDecision value labels = .ok d) : d.Over labels ∧ d.ReadFrom value := by
  unfold validateJuryDecision at h
  simp only [bind, Except.bind] at h
  split at h
  case h_2 => cases h
  rename_i abstain habstain
  split at h
  · cases h
  rename_i confidence hconfidence
  split at h
  case h_2 => cases h
  rename_i items hitems
  split at h
  case h_2 => cases h
  rename_i ranking hranking
  rw [rankingLabels_eq_some.1 hranking] at hitems
  replace hconfidence := readConfidence_ok hconfidence
  cases abstain with
  | true =>
    simp only [if_true] at h
    split at h
    · cases h
    rename_i hwinner
    split at h
    · cases h
    rename_i hnil
    cases h
    rw [not_not] at hwinner hnil
    exact ⟨⟨fun _ => ⟨rfl, hnil⟩, by rintro ⟨⟩⟩, habstain, hconfidence, hitems, hwinner⟩
  | false =>
    simp only [Bool.false_eq_true, if_false] at h
    split at h
    case h_2 => cases h
    rename_i w hwinner
    split at h
    · cases h
    split at h
    · cases h
    rename_i hsub
    split at h
    · cases h
    rename_i hrnd
    split at h
    · cases h
    rename_i hhead
    cases h
    rw [not_or, not_not, not_not] at hsub
    rw [not_not] at hrnd hhead
    have hperm : ranking.Perm labels := (List.perm_ext_iff_of_nodup hrnd hnd).2 fun l =>
      ⟨fun hl => hsub.2.1 hl, fun hl => hsub.2.2 hl⟩
    exact ⟨⟨by rintro ⟨⟩, fun _ => ⟨hperm, hrnd, hhead.symm⟩⟩, habstain, hconfidence, hitems,
      hwinner⟩

/-- An accepted object is one of accepted decision, over valid labels. -/
theorem validateJuryObject_ok {b : JuryArtifact} (h : validateJuryObject value labels = .ok b) :
    validatedLabels labels = .ok () ∧ b.decision.Over labels ∧ b.decision.ReadFrom value := by
  unfold validateJuryObject at h
  simp only [bind, Except.bind] at h
  split at h
  · cases h
  rename_i hlabels
  split at h
  · cases h
  split at h
  · cases h
  rename_i decision hdecision
  split at h
  · cases h
  split at h
  · cases h
  split at h
  · cases h
  cases h
  exact ⟨hlabels, validateJuryDecision_ok (validatedLabels_ok hlabels).2.2 hdecision⟩

/-- Accepted entries decide over the labels. -/
theorem readEntry_over {entry : Json} {b : JuryArtifact} (h : readEntry rt labels entry = .ok b) :
    b.decision.Over labels := by
  unfold readEntry at h
  split at h
  · unfold parseJury at h
    simp only [bind, Except.bind] at h
    split at h
    · cases h
    split at h
    · cases h
    exact (validateJuryObject_ok h).2.1
  · exact (validateJuryObject_ok h).2.1
  · cases h

/-! ### The counting loop -/

/-- The accepted ballots of a list of entries. -/
def acceptedBallots (rt : Runtime) (labels : List Str) (entries : List Json) :
    List JuryArtifact :=
  entries.filterMap fun entry => (readEntry rt labels entry).toOption

/-- The reasons for which entries are not accepted. -/
def refusedReasons (rt : Runtime) (labels : List Str) (entries : List Json) : List Str :=
  entries.filterMap fun entry =>
    match readEntry rt labels entry with
    | .ok _ => none
    | .error e => some e.message

/-- The rankings of ballots that do not abstain. -/
def rankingsOf (ballots : List JuryArtifact) : List (List Str) :=
  (ballots.filter fun b => !b.decision.abstain).map fun b => b.decision.ranking

/-- Every entry is accepted, or invalid. -/
def Readable (rt : Runtime) (labels : List Str) (entries : List Json) : Prop :=
  ∀ entry ∈ entries, ∀ e, readEntry rt labels entry = .error e → e.isValueOrType = true

/-- A ballot adds its ranking, unless it abstains. -/
theorem rankingsOf_cons (b : JuryArtifact) (ballots : List JuryArtifact) :
    rankingsOf (b :: ballots) =
      (if b.decision.abstain then [] else [b.decision.ranking]) ++ rankingsOf ballots := by
  unfold rankingsOf
  rw [List.filter_cons]
  cases b.decision.abstain <;> rfl

/-- Adding up a ranking. -/
theorem addBorda_eq {ranking : List Str} (hnd : ranking.Nodup) (index : ℕ) (f : Str → ℕ) (l : Str) :
    addBorda (index + ranking.length) index ranking f l = f l + Borda.points ranking l := by
  induction ranking generalizing index f with
  | nil => rfl
  | cons a r ih =>
    rw [List.nodup_cons] at hnd
    rw [addBorda, List.length_cons, show index + (r.length + 1) = index + 1 + r.length by omega,
      ih hnd.2, Borda.points, bump]
    by_cases h : l = a
    · subst h
      rw [if_pos rfl, if_pos rfl, Borda.points_of_not_mem hnd.1]
      omega
    · rw [if_neg h, if_neg (Ne.symm h)]

/-- What ballots add to the running totals. -/
structure Counted (labels : List Str) (ballots : List JuryArtifact) (reasons : List Str)
    (c c' : Count) : Prop where
  points : ∀ l, c'.points l = c.points l + (ofLex (Borda.tally (rankingsOf ballots) l)).1
  wins : ∀ l, c'.wins l = c.wins l + (ofLex (Borda.tally (rankingsOf ballots) l)).2
  validJudgments : c'.validJudgments = c.validJudgments + ballots.length
  abstentions : c'.abstentions = c.abstentions + (ballots.countP fun b => b.decision.abstain)
  invalidReasons : c'.invalidReasons = c.invalidReasons ++ reasons
  disagreements : c'.disagreements = c.disagreements ++
    ballots.flatMap fun b => b.materialDisagreements
  verification : c'.verification = c.verification ++ ballots.flatMap fun b => b.verificationNeeded

/-- One accepted ballot. -/
theorem counted_addBallot {b : JuryArtifact} (hb : b.decision.Over labels) (c : Count) :
    Counted labels [b] [] c (c.addBallot labels.length b) := by
  unfold Count.addBallot
  cases habstain : b.decision.abstain with
  | true =>
    simp only [if_true]
    exact ⟨fun l => by simp [habstain, rankingsOf],
      fun l => by simp [habstain, rankingsOf], rfl, by simp [habstain],
      by simp, by simp, by simp⟩
  | false =>
    obtain ⟨hperm, hnd, -⟩ := hb.ranks habstain
    have hrankings : rankingsOf [b] = [b.decision.ranking] := by
      simp [habstain, rankingsOf]
    simp only [Bool.false_eq_true, if_false]
    refine ⟨fun l => ?_, fun l => ?_, rfl, by simp [habstain], by simp, by simp, by simp⟩
    · rw [hrankings, Borda.fst_tally, List.map_singleton, List.sum_singleton]
      have hadd := addBorda_eq hnd 0 c.points l
      rw [Nat.zero_add, hperm.length_eq] at hadd
      exact hadd
    · rw [hrankings, Borda.snd_tally, List.map_singleton, List.sum_singleton]
      unfold Borda.firsts
      cases b.decision.ranking with
      | nil => rfl
      | cons a r =>
        simp only [List.head?_cons, bump, Option.some.injEq]
        by_cases h : l = a
        · rw [if_pos h, if_pos h.symm]
        · rw [if_neg h, if_neg (Ne.symm h)]
          rfl

/-- **Counting goes on**: what two parts of the ballot list add is what the whole of it adds. -/
theorem Counted.trans {ballots ballots' : List JuryArtifact} {reasons reasons' : List Str}
    {c'' : Count} (h : Counted labels ballots reasons c c')
    (h' : Counted labels ballots' reasons' c' c'') :
    Counted labels (ballots ++ ballots') (reasons ++ reasons') c c'' := by
  have hrankings :
    rankingsOf (ballots ++ ballots') = rankingsOf ballots ++ rankingsOf ballots' := by
    simp [rankingsOf]
  refine ⟨fun l => ?_, fun l => ?_, ?_, ?_, ?_, ?_, ?_⟩
  · rw [h'.points, h.points, hrankings, Borda.tally_append, Nat.add_assoc]
    rfl
  · rw [h'.wins, h.wins, hrankings, Borda.tally_append, Nat.add_assoc]
    rfl
  · rw [h'.validJudgments, h.validJudgments, List.length_append, Nat.add_assoc]
  · rw [h'.abstentions, h.abstentions, List.countP_append, Nat.add_assoc]
  · rw [h'.invalidReasons, h.invalidReasons, List.append_assoc]
  · rw [h'.disagreements, h.disagreements, List.flatMap_append, List.append_assoc]
  · rw [h'.verification, h.verification, List.flatMap_append, List.append_assoc]

/-- **The loop counts the accepted ballots** and collects the reasons of the others. -/
theorem countEntries_eq (h : Readable rt labels entries) : ∀ c,
    ∃ c', countEntries rt labels entries c = .ok c' ∧
      Counted labels (acceptedBallots rt labels entries) (refusedReasons rt labels entries) c
        c' := by
  induction entries with
  | nil =>
    exact fun c => ⟨c, rfl, fun _ => rfl, fun _ => rfl, rfl, rfl, (List.append_nil _).symm,
      (List.append_nil _).symm, (List.append_nil _).symm⟩
  | cons entry entries ih =>
    obtain ⟨hentry, hentries⟩ := List.forall_mem_cons.1 h
    intro c
    unfold countEntries
    cases hread : readEntry rt labels entry with
    | ok b =>
      obtain ⟨c', hc', hcounted⟩ := ih hentries (c.addBallot labels.length b)
      refine ⟨c', hc', ?_⟩
      have haccepted : acceptedBallots rt labels (entry :: entries) =
          [b] ++ acceptedBallots rt labels entries := by
        simp [acceptedBallots, hread, Except.toOption]
      have hrefused : refusedReasons rt labels (entry :: entries) =
          [] ++ refusedReasons rt labels entries := by
        simp [refusedReasons, hread]
      rw [haccepted, hrefused]
      exact (counted_addBallot (readEntry_over hread) c).trans hcounted
    | error e =>
      obtain ⟨c', hc', hcounted⟩ := ih hentries
        { c with invalidReasons := c.invalidReasons ++ [e.message] }
      dsimp only
      rw [if_pos (hentry e hread)]
      refine ⟨c', hc', ?_⟩
      have haccepted : acceptedBallots rt labels (entry :: entries) =
          [] ++ acceptedBallots rt labels entries := by
        simp [acceptedBallots, hread, Except.toOption]
      have hrefused : refusedReasons rt labels (entry :: entries) =
          [e.message] ++ refusedReasons rt labels entries := by
        simp [refusedReasons, hread]
      rw [haccepted, hrefused]
      have hrefuse : Counted labels [] [e.message] c
          { c with invalidReasons := c.invalidReasons ++ [e.message] } :=
        ⟨fun _ => rfl, fun _ => rfl, rfl, rfl, rfl, (List.append_nil _).symm,
          (List.append_nil _).symm⟩
      exact hrefuse.trans hcounted

/-- An entry that is neither accepted nor invalid stops the loop. -/
theorem readable_of_countEntries {c c' : Count} (h : countEntries rt labels entries c = .ok c') :
    Readable rt labels entries := by
  induction entries generalizing c with
  | nil => exact fun _ hentry => nomatch hentry
  | cons entry entries ih =>
    unfold countEntries at h
    cases hread : readEntry rt labels entry with
    | ok b =>
      rw [hread] at h
      refine List.forall_mem_cons.2 ⟨fun e he => ?_, ih h⟩
      rw [hread] at he
      cases he
    | error e =>
      rw [hread] at h
      dsimp only at h
      split at h
      · rename_i hvalue
        refine List.forall_mem_cons.2 ⟨fun e' he => ?_, ih h⟩
        rw [hread] at he
        cases he
        exact hvalue
      · cases h

/-! ### Leaders -/

/-- The score of a label in finished totals. -/
def Count.tally (c : Count) (l : Str) : ℕ ×ₗ ℕ := toLex (c.points l, c.wins l)

/-- The order of the ranking: more first. -/
theorem tally_le_of_rankLe {a b : Str} (h : rankLe rt c a b = true) : c.tally b ≤ c.tally a := by
  unfold rankLe at h
  refine Prod.Lex.toLex_le_toLex.2 ?_
  dsimp only
  split_ifs at h with hp hw
  · exact .inl (of_decide_eq_true h)
  · exact .inr ⟨(not_not.1 hp).symm, (of_decide_eq_true h).le⟩
  · exact .inr ⟨(not_not.1 hp).symm, (not_not.1 hw).ge⟩

/-- Any two labels can be ordered by their points, first places and names. -/
theorem rankLe_total (a b : Str) : rankLe rt c a b = true ∨ rankLe rt c b a = true := by
  unfold rankLe
  rcases Nat.lt_trichotomy (c.points a) (c.points b) with h | h | h
  · exact .inr (by rw [if_pos (by omega), decide_eq_true h])
  · rw [if_neg (not_not.2 h), if_neg (not_not.2 h.symm)]
    rcases Nat.lt_trichotomy (c.wins a) (c.wins b) with h' | h' | h'
    · exact .inr (by rw [if_pos (by omega), decide_eq_true h'])
    · rw [if_neg (not_not.2 h'), if_neg (not_not.2 h'.symm)]
      exact labelLe_total a b
    · exact .inl (by rw [if_pos (by omega), decide_eq_true h'])
  · exact .inl (by rw [if_pos (by omega), decide_eq_true h])

/-- The order of the table is that of the tallies, greater first, and of the labels among equals.
-/
theorem rankLe_iff {a b : Str} : rankLe rt c a b = true ↔
    c.tally b < c.tally a ∨ c.tally b = c.tally a ∧ labelLe rt a b = true := by
  have hlt : c.tally b < c.tally a ↔
      c.points b < c.points a ∨ c.points b = c.points a ∧ c.wins b < c.wins a :=
    Prod.Lex.toLex_lt_toLex
  have heq : c.tally b = c.tally a ↔ c.points b = c.points a ∧ c.wins b = c.wins a := by
    unfold Count.tally
    rw [toLex_inj, Prod.mk.injEq]
  unfold rankLe
  rw [hlt, heq]
  split_ifs with hp hw
  · rw [decide_eq_true_eq]
    constructor
    · exact fun h => .inl (.inl h)
    · rintro ((h | ⟨h, -⟩) | ⟨⟨h, -⟩, -⟩)
      · exact h
      · exact absurd h.symm hp
      · exact absurd h.symm hp
  · rw [decide_eq_true_eq]
    rw [not_not] at hp
    constructor
    · exact fun h => .inl (.inr ⟨hp.symm, h⟩)
    · rintro ((h | ⟨-, h⟩) | ⟨⟨-, h⟩, -⟩)
      · omega
      · exact h
      · exact absurd h.symm hw
  · rw [not_not] at hp hw
    constructor
    · exact fun h => .inr ⟨⟨hp.symm, hw.symm⟩, h⟩
    · rintro ((h | ⟨-, h⟩) | ⟨-, h⟩)
      · omega
      · omega
      · exact h

/-- The order of the table is transitive. -/
theorem rankLe_trans {a b d : Str} (h : rankLe rt c a b = true) (h' : rankLe rt c b d = true) :
    rankLe rt c a d = true := by
  rw [rankLe_iff] at h h' ⊢
  rcases h with h | ⟨h, hl⟩
  · rcases h' with h' | ⟨h', -⟩
    · exact .inl (h'.trans h)
    · exact .inl (h' ▸ h)
  · rcases h' with h' | ⟨h', hl'⟩
    · exact .inl (h ▸ h')
    · exact .inr ⟨h'.trans h, labelLe_trans hl hl'⟩

/-- No two labels share a place of the table. -/
theorem rankLe_antisymm {a b : Str} (h : rankLe rt c a b = true) (h' : rankLe rt c b a = true) :
    a = b := by
  rw [rankLe_iff] at h h'
  rcases h with h | ⟨h, hl⟩
  · rcases h' with h' | ⟨h', -⟩
    · exact absurd h' h.asymm
    · exact absurd h' h.ne'
  · rcases h' with h' | ⟨-, hl'⟩
    · exact absurd h h'.ne'
    · exact labelLe_antisymm hl hl'

instance (rt : Runtime) (c : Count) : Std.Total (fun a b : Str => rankLe rt c a b = true) :=
  ⟨rankLe_total⟩
instance (rt : Runtime) (c : Count) : IsTrans Str (fun a b => rankLe rt c a b = true) :=
  ⟨fun _ _ _ => rankLe_trans⟩
instance (rt : Runtime) (c : Count) : Std.Antisymm (fun a b : Str => rankLe rt c a b = true) :=
  ⟨fun _ _ => rankLe_antisymm⟩

/-- `ordered` of finished totals. -/
def Count.ordered (rt : Runtime) (c : Count) (labels : List Str) : List Str :=
  labels.insertionSort fun a b => rankLe rt c a b = true

/-- The table has every label once. -/
theorem ordered_perm (rt : Runtime) (c : Count) (labels : List Str) :
    (c.ordered rt labels).Perm labels :=
  List.perm_insertionSort _ _

/-- The ranking does not increase. -/
theorem ordered_pairwise (rt : Runtime) (c : Count) (labels : List Str) :
    (c.ordered rt labels).Pairwise fun a b => c.tally b ≤ c.tally a :=
  (List.pairwise_insertionSort _ _).imp fun h => tally_le_of_rankLe h

/-- No leader by points has more first places than the best. -/
theorem bestWins_ge {leaders : List Str} {l : Str} (h : l ∈ leaders) :
    c.wins l ≤ bestWins c leaders := by
  unfold bestWins
  suffices H : ∀ (ns : List ℕ) (m : ℕ), (∀ n ∈ ns, n ≤ ns.foldl max m) ∧ m ≤ ns.foldl max m from
    (H _ 0).1 _ (List.mem_map_of_mem h)
  intro ns
  induction ns with
  | nil => simp
  | cons n ns ih =>
    intro m
    obtain ⟨hall, hm⟩ := ih (max m n)
    exact ⟨List.forall_mem_cons.2 ⟨(le_max_right _ _).trans hm, hall⟩, (le_max_left _ _).trans hm⟩

/-- Some leader by points has as many first places as the best. -/
theorem bestWins_mem {leaders : List Str} (h : leaders ≠ []) :
    ∃ l ∈ leaders, c.wins l = bestWins c leaders := by
  unfold bestWins
  have hfold : ∀ (ns : List ℕ) (m : ℕ), ns.foldl max m = m ∨ ns.foldl max m ∈ ns := by
    intro ns
    induction ns with
    | nil => exact fun m => .inl rfl
    | cons n ns ih =>
      intro m
      rcases ih (max m n) with heq | hmem
      · rw [List.foldl_cons, heq]
        rcases le_total m n with hle | hle
        · exact .inr (by rw [max_eq_right hle]; exact List.mem_cons_self)
        · exact .inl (max_eq_left hle)
      · exact .inr (List.mem_cons_of_mem _ hmem)
  obtain ⟨l, leaders, rfl⟩ := List.exists_cons_of_ne_nil h
  rcases hfold ((l :: leaders).map c.wins) 0 with heq | hmem
  · refine ⟨l, List.mem_cons_self, ?_⟩
    rw [heq]
    have hle : c.wins l ≤ bestWins c (l :: leaders) := bestWins_ge List.mem_cons_self
    unfold bestWins at hle
    omega
  · obtain ⟨x, hx, heq⟩ := List.mem_map.1 hmem
    exact ⟨x, hx, heq⟩

/-- **Who leads**: the labels with the most points and, among these, the most first
places are the maxima of the lexicographic order. -/
theorem mem_leadersOf {l : Str} : l ∈ leadersOf rt c (c.ordered rt labels) ↔
    l ∈ labels ∧ ∀ x ∈ labels, c.tally x ≤ c.tally l := by
  unfold leadersOf
  have hmem : ∀ x, x ∈ c.ordered rt labels ↔ x ∈ labels := fun x =>
    (ordered_perm rt c labels).mem_iff
  cases hordered : c.ordered rt labels with
  | nil =>
    rw [hordered] at hmem
    simp [fun x => (hmem x).symm]
  | cons first rest =>
    have hpairwise := ordered_pairwise rt c labels
    rw [hordered] at hmem hpairwise
    have hfirst : ∀ x ∈ labels, c.points x ≤ c.points first := by
      intro x hx
      rcases List.mem_cons.1 ((hmem x).2 hx) with rfl | hrest
      · exact le_rfl
      · exact (Prod.Lex.toLex_le_toLex'.1 (List.rel_of_pairwise_cons hpairwise hrest)).1
    dsimp only [List.head?_cons]
    rw [(sortedByLabel_perm rt _).mem_iff, List.mem_filter, List.mem_filter, decide_eq_true_eq,
      decide_eq_true_eq, hmem]
    generalize hleaders : (first :: rest).filter (fun x => decide (c.points x = c.points first)) =
      leaders
    have hin : ∀ x, x ∈ leaders ↔ x ∈ labels ∧ c.points x = c.points first := by
      intro x
      rw [← hleaders, List.mem_filter, decide_eq_true_eq, hmem]
    constructor
    · rintro ⟨⟨hl, hpoints⟩, hwins⟩
      refine ⟨hl, fun x hx => Prod.Lex.toLex_le_toLex'.2 ⟨?_, fun heq => ?_⟩⟩
      · exact hpoints ▸ hfirst x hx
      · rw [hwins]
        exact bestWins_ge ((hin x).2 ⟨hx, heq.trans hpoints⟩)
    · rintro ⟨hl, hmax⟩
      have hin_first : first ∈ labels := (hmem first).1 List.mem_cons_self
      have hpoints : c.points l = c.points first :=
        le_antisymm (hfirst l hl) (Prod.Lex.toLex_le_toLex'.1 (hmax first hin_first)).1
      refine ⟨⟨hl, hpoints⟩, le_antisymm (bestWins_ge ((hin l).2 ⟨hl, hpoints⟩)) ?_⟩
      obtain ⟨x, hx, heq⟩ := bestWins_mem (c := c) (List.ne_nil_of_mem ((hin l).2 ⟨hl, hpoints⟩))
      rw [← heq]
      obtain ⟨hxl, hxp⟩ := (hin x).1 hx
      exact (Prod.Lex.toLex_le_toLex'.1 (hmax x hxl)).2 (hxp.trans hpoints.symm)

end Protocol
end CouncilLogic
