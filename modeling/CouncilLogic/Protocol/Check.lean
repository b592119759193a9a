/-
# Reports on a finished aggregate

`check_synthesis_outcome` compares the Outcome section of a synthesis with the
aggregate it was given; `self_vote_report` counts the ballots that rank their own
author and aggregates again without these entries.  Neither changes the result:
the first can degrade its quality, the second is only reported.

The Outcome section is found by its heading, with `#` marks, bold marks and a colon allowed;
inside it the labels are found by the regular expression of the source, whose word boundaries are
those of Python's `re` (`Runtime.isWord`).  `claimsTie` and `claimsNoWinner` are the other two
searches, for words of a tie and for the absence of a winner.  The report compares the labels that
are named with the leaders of the aggregate.

`self_vote_report` is a second aggregation in which every ballot loses the entry of its own
author; the points of the places below move up, as in the source, which recomputes them from the
shortened ranking.
-/

import CouncilLogic.Protocol.Aggregate

namespace CouncilLogic
namespace Protocol

/-! ### Sections of a synthesis -/

/-- The lines of a text. -/
def lines : Str → List Str
  | [] => [[]]
  | c :: rest =>
    match lines rest with
    | [] => [[c]]
    | line :: more => if c = 10 then [] :: line :: more else (c :: line) :: more

/-- A blank or a tab. -/
def isBlankOrTab (c : ℕ) : Bool := c == 32 || c == 9

/-- `_SECTION_RE` on one line: the first group.  A heading of at least two blanks
and nothing else still matches, with one of its blanks as the group. -/
def sectionHeading : Str → Option Str
  | 35 :: 35 :: rest =>
    let blanks := rest.takeWhile isBlankOrTab
    let title := (rest.drop blanks.length).rdropWhile isBlankOrTab
    if blanks = [] then none
    else if title ≠ [] then some title
    else if 2 ≤ blanks.length then some (blanks.drop (blanks.length - 1))
    else none
  | _ => none

/-- `m.group(1).strip().casefold()`. -/
def headingKey (rt : Runtime) (heading : Str) : Str := rt.casefold (Str.strip heading)

/-- `SYNTHESIS_SECTIONS`. -/
def synthesisSections : List Str :=
  [lit "## Outcome", lit "## Consensus", lit "## Dissent", lit "## Verification needed"]

/-- The text of the first Outcome section. -/
def outcomeText (rt : Runtime) (answer : Str) : Str :=
  let fromOutcome := (lines answer).dropWhile fun line =>
    (sectionHeading line).map (headingKey rt) != some (lit "outcome")
  let body := fromOutcome.tail.takeWhile fun line => (sectionHeading line).isNone
  Str.strip (Str.join [10] body)

/-! ### Words of the Outcome section -/

/-- `[A-Z0-9]`. -/
def isLabelChar (c : ℕ) : Bool := (65 ≤ c && c ≤ 90) || (48 ≤ c && c ≤ 57)

/-- `_LABEL_RE.findall`. -/
def namedLabels : ℕ → Str → List Str
  | 0, _ => []
  | _, [] => []
  | fuel + 1, c :: rest =>
    let s := c :: rest
    let tail := (s.drop candidateLabelPrefix.length).takeWhile isLabelChar
    if candidateLabelPrefix <+: s ∧ tail ≠ [] then
      (candidateLabelPrefix ++ tail) ::
        namedLabels fuel (s.drop (candidateLabelPrefix.length + tail.length))
    else namedLabels fuel rest

/-- A pattern letter under `re.IGNORECASE`: its upper case, and the three letters
outside ASCII the expression engine identifies with `i`, `s` and `k`. -/
def foldsTo (p c : ℕ) : Bool :=
  c == p || (97 ≤ p && p ≤ 122 && c == p - 32) ||
    (p == 105 && (c == 0x130 || c == 0x131)) || (p == 115 && c == 0x17F) ||
    (p == 107 && c == 0x212A)

/-- The text after a word of the pattern, when it stands at the beginning. -/
def dropWord : Str → Str → Option Str
  | [], s => some s
  | _ :: _, [] => none
  | p :: ps, c :: s => if foldsTo p c then dropWord ps s else none

/-- A word boundary between the character before and the text after. -/
def isBoundary (rt : Runtime) (before : Option ℕ) (after : Str) : Bool :=
  (before.any rt.isWord) != (after.head?.any rt.isWord)

/-- `re.search` of `\b(word)\b`; after a word with `open_` any further word
characters may follow. -/
def searchWord (rt : Runtime) (open_ : Bool) (word : Str) : Option ℕ → Str → Bool
  | before, s =>
    (isBoundary rt before s &&
      match dropWord word s with
      | some rest =>
        let rest := if open_ then rest.dropWhile rt.isWord else rest
        let last := (s.take (s.length - rest.length)).getLast?
        isBoundary rt last rest
      | none => false) ||
    match s with
    | [] => false
    | c :: rest => searchWord rt open_ word (some c) rest

/-- `_TIE_RE.search`. -/
def claimsTie (rt : Runtime) (text : Str) : Bool :=
  [lit "tie", lit "tied", lit "ties"].any fun word => searchWord rt false word none text

/-- `_NO_WINNER_RE.search`. -/
def claimsNoWinner (rt : Runtime) (text : Str) : Bool :=
  searchWord rt true (lit "abstain") none text ||
    [lit "no winner", lit "no candidate", lit "invalid", lit "not selected", lit "no outcome",
      lit "none"].any fun word => searchWord rt false word none text

/-- What `check_synthesis_outcome` returns. -/
structure SynthesisCheck where
  expectedOutcome : Str
  expectedWinner : Option Str
  outcomeLabels : Option (List Str) := none
  consistent : Bool
  reason : Str
  deriving DecidableEq

def SynthesisCheck.toDict (c : SynthesisCheck) : Dict :=
  [(lit "expected_outcome", .str c.expectedOutcome),
    (lit "expected_winner", (c.expectedWinner.map Json.str).getD .null)] ++
    (c.outcomeLabels.map fun labels =>
      (lit "outcome_labels", Json.arr (labels.map .str))).toList ++
    [(lit "consistent", .bool c.consistent), (lit "reason", .str c.reason)]

/-- The verdict on the Outcome section. -/
def checkOutcome (rt : Runtime) (aggregate : Aggregate) (text : Str) (named : List Str) :
    Bool × Str :=
  match aggregate.outcome with
  | .winner =>
    match named.head? with
    | none => (false, lit "Outcome does not name the aggregate winner")
    | some first =>
      if some first ≠ aggregate.winner then
        (false, lit "Outcome leads with " ++ first ++ lit ", aggregate winner is " ++
          aggregate.winner.getD (lit "None"))
      else if claimsTie rt text then
        (false, lit "Outcome claims a tie but the aggregate has a winner")
      else (true, lit "matches winner")
  | .tie =>
    if claimsTie rt text = false then (false, lit "Outcome does not state the aggregate tie")
    else if named.any fun label => label ∉ aggregate.tiedCandidates then
      (false, lit "Outcome names a candidate outside the tie")
    else (true, lit "matches tie")
  | .abstained | .invalid =>
    if claimsNoWinner rt text = false then
      (false, lit "Outcome does not state that no winner was selected")
    else if named ≠ [] then
      (false, lit "Outcome names a candidate although no winner was selected")
    else (true, lit "matches no-winner")

/-- `check_synthesis_outcome(answer, aggregate)`. -/
def checkSynthesisOutcome (rt : Runtime) (answer : Str) (aggregate : Aggregate) :
    SynthesisCheck :=
  let headings := ((lines answer).filterMap sectionHeading).map (headingKey rt)
  let missing := synthesisSections.filter fun s => rt.casefold (s.drop 3) ∉ headings
  let text := outcomeText rt answer
  let named := namedLabels text.length text
  if Str.isBlank answer then
    ⟨aggregate.outcome.name, aggregate.winner, none, false, lit "empty synthesis"⟩
  else if missing ≠ [] then
    ⟨aggregate.outcome.name, aggregate.winner, none, false,
      lit "missing sections: " ++ Str.join (lit ", ") missing⟩
  else
    let verdict := checkOutcome rt aggregate text named
    ⟨aggregate.outcome.name, aggregate.winner, some (stableUnique rt named), verdict.1,
      verdict.2⟩

/-! ### Self votes -/

/-- The fields of a jury record the self-vote count reads. -/
structure Vote where
  juror : Str
  winner : Option Str
  ranking : List Str
  abstain : Bool
  deriving DecidableEq

/-- A ranking without the juror's own candidate, scored over what is left. -/
def Count.addOthersBallot (canonicalLabels : List Str) (c : Count) (vote : Vote) : Count :=
  let ranking := vote.ranking.filter fun label =>
    decide (label ∈ canonicalLabels) && decide (label ≠ vote.juror)
  match ranking with
  | [] => c
  | first :: _ =>
    if vote.abstain then c
    else
      { c with
        validJudgments := c.validJudgments + 1
        points := addBorda ranking.length 0 ranking c.points
        wins := bump c.wins first 1 }

/-- What `aggregate_excluding_self_votes` returns. -/
structure OthersAggregate where
  winner : Option Str
  tie : Bool
  tiedCandidates : List Str
  ranking : List Str
  bordaPoints : List (Str × ℕ)
  winCounts : List (Str × ℕ)
  countedJudgments : ℕ
  deriving DecidableEq

/-- `outcome` of an aggregate without self votes. -/
def OthersAggregate.outcome (a : OthersAggregate) : Str :=
  if a.winner.any (· ≠ []) then lit "winner"
  else if a.tie then lit "tie"
  else lit "no_counted_judgments"

/-- `aggregate_excluding_self_votes(juries, candidate_labels)`. -/
def aggregateExcludingSelfVotes (rt : Runtime) (votes : List Vote) (labels : List Str) :
    Except PyErr OthersAggregate := do
  validatedLabels labels
  let canonicalLabels := sortedByLabel rt labels
  let c := votes.foldl (Count.addOthersBallot canonicalLabels) .zero
  let ordered := canonicalLabels.insertionSort fun a b => rankLe rt c a b = true
  let tied := if c.validJudgments = 0 then [] else leadersOf rt c ordered
  let tie := decide (1 < tied.length)
  .ok {
    winner := if tied.length = 1 then tied.head? else none
    tie := tie
    tiedCandidates := if tie then tied else []
    ranking := ordered
    bordaPoints := canonicalLabels.map fun label => (label, c.points label)
    winCounts := canonicalLabels.map fun label => (label, c.wins label)
    countedJudgments := c.validJudgments }

def OthersAggregate.toDict (a : OthersAggregate) : Dict :=
  [(lit "winner", (a.winner.map Json.str).getD .null),
    (lit "outcome", .str a.outcome),
    (lit "tie", .bool a.tie),
    (lit "tied_candidates", .arr (a.tiedCandidates.map .str)),
    (lit "ranking", .arr (a.ranking.map .str)),
    (lit "borda_points", .obj (tableDict a.bordaPoints)),
    (lit "win_counts", .obj (tableDict a.winCounts)),
    (lit "counted_judgments", .int a.countedJudgments)]

/-- What `self_vote_report` returns. -/
structure SelfVoteReport where
  selfVotes : List Str
  jurorsRankingOwnCandidate : List Str
  withSelfVotes : Aggregate
  excludingSelfVotes : OthersAggregate

/-- `outcome_changes_without_self_votes`. -/
def SelfVoteReport.outcomeChanges (r : SelfVoteReport) : Bool :=
  decide (r.withSelfVotes.winner ≠ r.excludingSelfVotes.winner) ||
    r.withSelfVotes.tie != r.excludingSelfVotes.tie

/-- `self_vote_report(juries, candidate_labels, aggregate)`. -/
def selfVoteReport (rt : Runtime) (votes : List Vote) (labels : List Str)
    (aggregate : Aggregate) : Except PyErr SelfVoteReport := do
  validatedLabels labels
  let ranked := votes.filter fun v => !v.abstain && decide (v.juror ∈ labels)
  let first := ranked.filter fun v => v.winner = some v.juror
  let excluding ← aggregateExcludingSelfVotes rt votes labels
  .ok ⟨Str.sorted (first.map Vote.juror), Str.sorted (ranked.map Vote.juror), aggregate,
    excluding⟩

def SelfVoteReport.toDict (r : SelfVoteReport) : Dict :=
  [(lit "self_votes", .arr (r.selfVotes.map .str)),
    (lit "self_vote_count", .int r.selfVotes.length),
    (lit "jurors_ranking_own_candidate", .arr (r.jurorsRankingOwnCandidate.map .str)),
    (lit "with_self_votes", .obj
      [(lit "winner", (r.withSelfVotes.winner.map Json.str).getD .null),
        (lit "outcome", .str r.withSelfVotes.outcome.name),
        (lit "tie", .bool r.withSelfVotes.tie),
        (lit "tied_candidates", .arr (r.withSelfVotes.tiedCandidates.map .str))]),
    (lit "excluding_self_votes", .obj r.excludingSelfVotes.toDict),
    (lit "outcome_changes_without_self_votes", .bool r.outcomeChanges)]

end Protocol
end CouncilLogic
