/-
# Aggregating the ballots

`aggregate_juries` of `protocol.py`: Borda points, then first places, then a tie
without a winner.  Every ballot is validated again against the labels it is
counted for; invalid ones are counted and reported, not scored.

The loop of the source mutates three dictionaries; here they are the fields of `Count`, and one
ballot is one `Count.addBallot`.  The points of a place are written as the source computes them,
`len(labels) - 1 - index`, and the table is sorted by the key `(-points, -first_place_votes,
label)`.  Labels are ordered by their case-folded text first (`labelLe`), as `sorted(labels,
key=…)` does.

The record that is returned keeps everything the source's has: the counts, the reasons of the
refused ballots, the table, the winner, the tie and the consensus.
-/

import CouncilLogic.Protocol.Parse

namespace CouncilLogic
namespace Protocol

/-- `(a.casefold(), a) <= (b.casefold(), b)`. -/
def labelLe (rt : Runtime) (a b : Str) : Bool :=
  if rt.casefold a = rt.casefold b then Str.le a b else Str.le (rt.casefold a) (rt.casefold b)

/-- `sorted(values, key=lambda value: (value.casefold(), value))`. -/
def sortedByLabel (rt : Runtime) (values : List Str) : List Str :=
  values.insertionSort fun a b => labelLe rt a b = true

/-- `_stable_unique`. -/
def stableUnique (rt : Runtime) (values : List Str) : List Str :=
  sortedByLabel rt ((values.filter fun v => !Str.isBlank v).map Str.strip).dedup

/-- `points[label] += amount`. -/
def bump (table : Str → ℕ) (label : Str) (amount : ℕ) : Str → ℕ :=
  fun l => if l = label then table l + amount else table l

/-- The points of a ranking: `places - index - 1` for the label at `index`. -/
def addBorda (places : ℕ) : ℕ → List Str → (Str → ℕ) → Str → ℕ
  | _, [], points => points
  | index, label :: ranking, points =>
    addBorda places (index + 1) ranking (bump points label (places - index - 1))

/-- The running totals of the counting loop. -/
structure Count where
  points : Str → ℕ
  wins : Str → ℕ
  abstentions : ℕ
  validJudgments : ℕ
  invalidReasons : List Str
  disagreements : List Str
  verification : List Str

/-- Before the first ballot. -/
def Count.zero : Count := ⟨fun _ => 0, fun _ => 0, 0, 0, [], [], []⟩

/-- One entry of the ballot list: JSON text, a dictionary, or something else. -/
def readEntry (rt : Runtime) (labels : List Str) : Json → Except PyErr JuryArtifact
  | .str text => parseJury rt text labels
  | .obj value => validateJuryObject value labels
  | _ => .error (.valueError (lit "judgment must be a mapping or JSON text"))

/-- A valid ballot: abstentions are counted, rankings scored. -/
def Count.addBallot (places : ℕ) (c : Count) (judgment : JuryArtifact) : Count :=
  let c := { c with
    validJudgments := c.validJudgments + 1
    disagreements := c.disagreements ++ judgment.materialDisagreements
    verification := c.verification ++ judgment.verificationNeeded }
  if judgment.decision.abstain then { c with abstentions := c.abstentions + 1 }
  else
    { c with
      points := addBorda places 0 judgment.decision.ranking c.points
      wins := match judgment.decision.ranking.head? with
        | some first => bump c.wins first 1
        | none => c.wins }

/-- The counting loop.  Only a `ValueError` or a `TypeError` makes an entry an
invalid judgment. -/
def countEntries (rt : Runtime) (labels : List Str) : List Json → Count → Except PyErr Count
  | [], c => .ok c
  | entry :: entries, c =>
    match readEntry rt labels entry with
    | .ok judgment => countEntries rt labels entries (c.addBallot labels.length judgment)
    | .error e =>
      if e.isValueOrType then
        countEntries rt labels entries { c with invalidReasons := c.invalidReasons ++ [e.message] }
      else .error e

/-- `outcome` of an aggregate. -/
inductive Outcome
  | winner
  | tie
  | abstained
  | invalid
  deriving DecidableEq, Repr

def Outcome.name : Outcome → Str
  | .winner => lit "winner"
  | .tie => lit "tie"
  | .abstained => lit "abstained"
  | .invalid => lit "invalid"

/-- `consensus` of an aggregate. -/
inductive Consensus
  | none
  | tie
  | unanimous
  | divided
  deriving DecidableEq, Repr

def Consensus.name : Consensus → Str
  | .none => lit "none"
  | .tie => lit "tie"
  | .unanimous => lit "unanimous"
  | .divided => lit "divided"

/-- The adjudication record. -/
structure Aggregate where
  winner : Option Str
  outcome : Outcome
  consensus : Consensus
  ranking : List Str
  bordaPoints : List (Str × ℕ)
  winCounts : List (Str × ℕ)
  tie : Bool
  tiedCandidates : List Str
  validJudgments : ℕ
  countedJudgments : ℕ
  abstentions : ℕ
  invalidJudgments : ℕ
  invalidJudgmentReasons : List Str
  hasMaterialDisagreement : Bool
  materialDisagreements : List Str
  verificationNeeded : List Str
  deriving DecidableEq

/-- A table of counts as a dictionary. -/
def tableDict (table : List (Str × ℕ)) : Dict := table.map fun e => (e.1, .int e.2)

/-- The record as the dictionary `aggregate_juries` returns, `protocol_id` and
`protocol_version` given. -/
def Aggregate.toDict (id version : Str) (a : Aggregate) : Dict :=
  [(lit "protocol_id", .str id),
    (lit "protocol_version", .str version),
    (lit "winner", (a.winner.map Json.str).getD .null),
    (lit "outcome", .str a.outcome.name),
    (lit "consensus", .str a.consensus.name),
    (lit "ranking", .arr (a.ranking.map .str)),
    (lit "borda_points", .obj (tableDict a.bordaPoints)),
    (lit "win_counts", .obj (tableDict a.winCounts)),
    (lit "tie", .bool a.tie),
    (lit "tied_candidates", .arr (a.tiedCandidates.map .str)),
    (lit "valid_judgments", .int a.validJudgments),
    (lit "counted_judgments", .int a.countedJudgments),
    (lit "abstentions", .int a.abstentions),
    (lit "invalid_judgments", .int a.invalidJudgments),
    (lit "invalid_judgment_reasons", .arr (a.invalidJudgmentReasons.map .str)),
    (lit "has_material_disagreement", .bool a.hasMaterialDisagreement),
    (lit "material_disagreements", .arr (a.materialDisagreements.map .str)),
    (lit "verification_needed", .arr (a.verificationNeeded.map .str))]

/-- `(-points, -wins, casefold, label)` in order. -/
def rankLe (rt : Runtime) (c : Count) (a b : Str) : Bool :=
  if c.points a ≠ c.points b then decide (c.points b < c.points a)
  else if c.wins a ≠ c.wins b then decide (c.wins b < c.wins a)
  else labelLe rt a b

/-- `max(wins[label] for label in leaders)`. -/
def bestWins (c : Count) (leaders : List Str) : ℕ := (leaders.map c.wins).foldl max 0

/-- The candidates with the most points and, among these, the most first places,
in label order. -/
def leadersOf (rt : Runtime) (c : Count) (ordered : List Str) : List Str :=
  match ordered.head? with
  | none => []
  | some first =>
    let pointLeaders := ordered.filter fun label => c.points label = c.points first
    sortedByLabel rt
      (pointLeaders.filter fun label => c.wins label = bestWins c pointLeaders)

/-- The record of finished totals over the canonically ordered labels. -/
def Count.finish (rt : Runtime) (canonicalLabels : List Str) (c : Count) : Aggregate :=
  let counted := c.validJudgments - c.abstentions
  let ordered := canonicalLabels.insertionSort fun a b => rankLe rt c a b = true
  let tied := if counted = 0 then [] else leadersOf rt c ordered
  let winner := if tied.length = 1 then tied.head? else none
  let tie := decide (counted ≠ 0 ∧ tied.length ≠ 1)
  let firstPlaceChoices := (canonicalLabels.filter fun label => c.wins label ≠ 0).length
  let disagreements := stableUnique rt c.disagreements
  { winner := winner
    outcome :=
      if counted = 0 then (if c.validJudgments ≠ 0 then .abstained else .invalid)
      else if tie then .tie
      else .winner
    consensus :=
      if counted = 0 then .none
      else if tie then .tie
      else if winner.any (fun w => c.wins w = counted) then .unanimous
      else .divided
    ranking := ordered
    bordaPoints := canonicalLabels.map fun label => (label, c.points label)
    winCounts := canonicalLabels.map fun label => (label, c.wins label)
    tie := tie
    tiedCandidates := if tie then tied else []
    validJudgments := c.validJudgments
    countedJudgments := counted
    abstentions := c.abstentions
    invalidJudgments := c.invalidReasons.length
    invalidJudgmentReasons := stableUnique rt c.invalidReasons
    hasMaterialDisagreement := !disagreements.isEmpty || tie || decide (1 < firstPlaceChoices)
    materialDisagreements := disagreements
    verificationNeeded := stableUnique rt c.verification }

/-- `aggregate_juries(juries, candidate_labels)` of a list of ballots. -/
def aggregateJuries (rt : Runtime) (juries : List Json) (labels : List Str) :
    Except PyErr Aggregate := do
  validatedLabels labels
  let c ← countEntries rt labels juries .zero
  .ok (c.finish rt (sortedByLabel rt labels))

end Protocol
end CouncilLogic
