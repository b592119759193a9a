/-
# Proposals, ballots and their validation

`parse_proposal`, `parse_jury` and the validators of `protocol.py`.  A validator
reads a decoded dictionary and returns the normalized artifact, or raises; the
artifact's strings are stripped, non-empty and bounded in the characters
`json.dumps` would write for them.

Every limit and every message is the source's, `src/model_council/protocol.py`, and the checks are
made in its order, since a response is refused with the first of them that fails.
`parse_proposal` and `parse_jury` are the extraction of an object and its validation; a ballot is
also validated on its own when it is counted, and its decision alone when a repair is considered
(`validateJuryDecision`).
-/

import CouncilLogic.Protocol.Decode

namespace CouncilLogic
namespace Protocol

/-! ### Labels and limits -/

/-- `CANDIDATE_LABEL_PREFIX`. -/
def candidateLabelPrefix : Str := lit "CANDIDATE_"

/-- `candidate_label(index)`. -/
def candidateLabel (index : ℕ) : Str := candidateLabelPrefix ++ Str.ofNat02 (index + 1)

def proposalOutcomeMaxChars : ℕ := 600
def proposalReasonMaxItems : ℕ := 4
def proposalReasonMaxChars : ℕ := 350
def proposalUncertaintyMaxItems : ℕ := 3
def proposalUncertaintyMaxChars : ℕ := 280
def proposalVerificationMaxItems : ℕ := 4
def proposalVerificationMaxChars : ℕ := 280
def juryRationaleMaxChars : ℕ := 1000
def juryListMaxItems : ℕ := 4
def juryListItemMaxChars : ℕ := 280

/-- `_validated_labels`. -/
def validatedLabels (labels : List Str) : Except PyErr Unit :=
  if labels = [] then .error (.valueError (lit "candidate_labels must not be empty"))
  else if labels.any Str.isBlank then
    .error (.valueError (lit "candidate labels must be non-empty strings"))
  else if labels.Nodup then .ok ()
  else .error (.valueError (lit "candidate labels must be unique"))

/-! ### Fields -/

/-- `_serialized_string_chars`. -/
def serializedStringChars (value : Str) : Except PyErr ℕ :=
  if Str.encodable value then .ok ((Json.dumpsStr value).length - 2)
  else .error (.valueError (lit "text must not contain unpaired Unicode surrogates"))

/-- `_bounded_string(value, field_name, max_chars)`. -/
def boundedString (value : Json) (fieldName : Str) (maxChars : ℕ) : Except PyErr Str :=
  match value with
  | .str s =>
    if Str.isBlank s then .error (.valueError (fieldName ++ lit " must be a non-empty string"))
    else
      let normalized := Str.strip s
      if maxChars < normalized.length then
        .error (.valueError
          (fieldName ++ lit " must be at most " ++ Str.ofNat maxChars ++ lit " characters"))
      else do
        let chars ← serializedStringChars normalized
        if maxChars < chars then
          .error (.valueError (fieldName ++ lit " must fit within " ++ Str.ofNat maxChars ++
            lit " serialized JSON characters"))
        else .ok normalized
  | _ => .error (.valueError (fieldName ++ lit " must be a non-empty string"))

/-- The items of a list of non-blank strings, stripped. -/
def stripItems : List Json → Option (List Str)
  | [] => some []
  | .str s :: items => if Str.isBlank s then none else (stripItems items).map (Str.strip s :: ·)
  | _ :: _ => none

/-- `any(_serialized_string_chars(item) > max_chars for item in normalized)`: it
stops at the first item that is too long, and raises at a surrogate before it. -/
def anyTooLong (maxChars : ℕ) : List Str → Except PyErr Bool
  | [] => .ok false
  | item :: items => do
    let chars ← serializedStringChars item
    if maxChars < chars then .ok true else anyTooLong maxChars items

/-- `_string_list(value, field_name, max_items=…, max_chars=…)`. -/
def stringList (value : Json) (fieldName : Str) (maxItems maxChars : ℕ) :
    Except PyErr (List Str) :=
  match value with
  | .arr items =>
    match stripItems items with
    | none => .error (.valueError (fieldName ++ lit " must contain only non-empty strings"))
    | some normalized =>
      if maxItems < normalized.length then
        .error (.valueError
          (fieldName ++ lit " must contain at most " ++ Str.ofNat maxItems ++ lit " items"))
      else if normalized.any (fun item => maxChars < item.length) then
        .error (.valueError
          (fieldName ++ lit " items must be at most " ++ Str.ofNat maxChars ++
            lit " characters"))
      else do
        let tooLong ← anyTooLong maxChars normalized
        if tooLong then
          .error (.valueError (fieldName ++ lit " items must fit within " ++
            Str.ofNat maxChars ++ lit " serialized JSON characters"))
        else if normalized.Nodup then .ok normalized
        else .error (.valueError (fieldName ++ lit " must not contain duplicates"))
  | _ => .error (.valueError (fieldName ++ lit " must be a JSON array"))

/-- The complaint of the validators about the keys of an object, if there is one. -/
def checkKeys (expected : List Str) (value : Dict) : Except PyErr Unit :=
  let missing := Str.sorted (expected.filter fun k => k ∉ value.keys)
  let extra := Str.sorted (value.keys.filter fun k => k ∉ expected)
  let details :=
    (if missing = [] then [] else [lit "missing keys: " ++ Str.join (lit ", ") missing]) ++
      (if extra = [] then [] else [lit "unexpected keys: " ++ Str.join (lit ", ") extra])
  if missing = [] ∧ extra = [] then .ok ()
  else .error (.valueError (Str.join (lit "; ") details))

/-- `value[key]` of a dictionary whose keys have been checked. -/
def field (value : Dict) (key : Str) : Json := (value.get? key).getD .null

/-! ### Proposals -/

/-- `_PROPOSAL_KEYS`. -/
def proposalKeys : List Str :=
  [lit "outcome", lit "evidence_and_reasoning", lit "uncertainty", lit "verification_needed"]

/-- An accepted proposal. -/
structure ProposalArtifact where
  outcome : Str
  evidenceAndReasoning : List Str
  uncertainty : List Str
  verificationNeeded : List Str
  deriving DecidableEq

/-- The artifact as the dictionary the program keeps and prints. -/
def ProposalArtifact.toDict (a : ProposalArtifact) : Dict :=
  [(lit "outcome", .str a.outcome),
    (lit "evidence_and_reasoning", .arr (a.evidenceAndReasoning.map .str)),
    (lit "uncertainty", .arr (a.uncertainty.map .str)),
    (lit "verification_needed", .arr (a.verificationNeeded.map .str))]

/-- `_validate_proposal_object`. -/
def validateProposalObject (value : Dict) : Except PyErr ProposalArtifact := do
  checkKeys proposalKeys value
  let outcome ← boundedString (field value (lit "outcome")) (lit "outcome")
    proposalOutcomeMaxChars
  let evidence ← stringList (field value (lit "evidence_and_reasoning"))
    (lit "evidence_and_reasoning") proposalReasonMaxItems proposalReasonMaxChars
  let uncertainty ← stringList (field value (lit "uncertainty")) (lit "uncertainty")
    proposalUncertaintyMaxItems proposalUncertaintyMaxChars
  let verification ← stringList (field value (lit "verification_needed"))
    (lit "verification_needed") proposalVerificationMaxItems proposalVerificationMaxChars
  .ok ⟨outcome, evidence, uncertainty, verification⟩

/-- `parse_proposal`. -/
def parseProposal (rt : Runtime) (text : Str) : Except PyErr ProposalArtifact := do
  let value ← Decode.extractJsonObject rt (lit "proposal response") text
  validateProposalObject value

/-! ### Ballots -/

/-- `_JURY_KEYS`. -/
def juryKeys : List Str :=
  [lit "winner", lit "ranking", lit "confidence", lit "abstain", lit "rationale",
    lit "material_disagreements", lit "verification_needed"]

/-- `confidence` of a ballot. -/
inductive Confidence
  | low
  | medium
  | high
  deriving DecidableEq, Repr

def Confidence.name : Confidence → Str
  | .low => lit "low"
  | .medium => lit "medium"
  | .high => lit "high"

/-- The decision of a ballot: an abstention, or a ranking whose first label is
the winner. -/
structure JuryDecision where
  winner : Option Str
  ranking : List Str
  confidence : Confidence
  abstain : Bool
  deriving DecidableEq

/-- The decision as a dictionary. -/
def JuryDecision.toDict (d : JuryDecision) : Dict :=
  [(lit "winner", (d.winner.map Json.str).getD .null),
    (lit "ranking", .arr (d.ranking.map .str)),
    (lit "confidence", .str d.confidence.name),
    (lit "abstain", .bool d.abstain)]

/-- A validated ballot. -/
structure JuryArtifact where
  decision : JuryDecision
  rationale : Str
  materialDisagreements : List Str
  verificationNeeded : List Str
  deriving DecidableEq

/-- The ballot as a dictionary. -/
def JuryArtifact.toDict (a : JuryArtifact) : Dict :=
  a.decision.toDict ++
    [(lit "rationale", .str a.rationale),
      (lit "material_disagreements", .arr (a.materialDisagreements.map .str)),
      (lit "verification_needed", .arr (a.verificationNeeded.map .str))]

/-- The labels of a ranking, when it contains only strings. -/
def rankingLabels : List Json → Option (List Str)
  | [] => some []
  | .str s :: items => (rankingLabels items).map (s :: ·)
  | _ :: _ => none

/-- `confidence in _CONFIDENCE_VALUES`; a list or a dictionary is not hashable. -/
def readConfidence : Json → Except PyErr Confidence
  | .str s =>
    if s = lit "low" then .ok .low
    else if s = lit "medium" then .ok .medium
    else if s = lit "high" then .ok .high
    else .error (.valueError (lit "confidence must be \"low\", \"medium\", or \"high\""))
  | .arr _ => .error (.typeError (lit "unhashable type: 'list'"))
  | .obj _ => .error (.typeError (lit "unhashable type: 'dict'"))
  | _ => .error (.valueError (lit "confidence must be \"low\", \"medium\", or \"high\""))

/-- `_validate_jury_decision(value, labels)`. -/
def validateJuryDecision (value : Dict) (labels : List Str) : Except PyErr JuryDecision := do
  let abstain ← match field value (lit "abstain") with
    | .bool b => .ok b
    | _ => .error (.valueError (lit "abstain must be a JSON boolean"))
  let confidence ← readConfidence (field value (lit "confidence"))
  let ranking ← match field value (lit "ranking") with
    | .arr items =>
      match rankingLabels items with
      | some ranking => .ok ranking
      | none => .error (.valueError (lit "ranking must contain only candidate labels"))
    | _ => .error (.valueError (lit "ranking must be a JSON array"))
  let winner := field value (lit "winner")
  if abstain then
    if winner ≠ .null then
      .error (.valueError (lit "winner must be null when abstain is true"))
    else if ranking ≠ [] then
      .error (.valueError (lit "ranking must be empty when abstain is true"))
    else .ok ⟨none, ranking, confidence, abstain⟩
  else
    match winner with
    | .str w =>
      if w ∉ labels then
        .error (.valueError (lit "winner must be an allowed candidate label"))
      else if ranking.length ≠ labels.length ∨ ¬ (ranking ⊆ labels ∧ labels ⊆ ranking) then
        .error (.valueError
          (lit "ranking must contain every allowed candidate label exactly once"))
      else if ¬ ranking.Nodup then
        .error (.valueError (lit "ranking must not contain duplicate labels"))
      else if ranking.head? ≠ some w then
        .error (.valueError (lit "winner must equal the first ranked candidate"))
      else .ok ⟨some w, ranking, confidence, abstain⟩
    | _ => .error (.valueError (lit "winner must be an allowed candidate label"))

/-- `_validate_jury_object(value, candidate_labels)`. -/
def validateJuryObject (value : Dict) (labels : List Str) : Except PyErr JuryArtifact := do
  validatedLabels labels
  checkKeys juryKeys value
  let decision ← validateJuryDecision value labels
  let rationale ← boundedString (field value (lit "rationale")) (lit "rationale")
    juryRationaleMaxChars
  let disagreements ← stringList (field value (lit "material_disagreements"))
    (lit "material_disagreements") juryListMaxItems juryListItemMaxChars
  let verification ← stringList (field value (lit "verification_needed"))
    (lit "verification_needed") juryListMaxItems juryListItemMaxChars
  .ok ⟨decision, rationale, disagreements, verification⟩

/-- `parse_jury(text, candidate_labels)`. -/
def parseJury (rt : Runtime) (text : Str) (labels : List Str) : Except PyErr JuryArtifact := do
  validatedLabels labels
  let value ← Decode.extractJsonObject rt (lit "jury response") text
  validateJuryObject value labels

end Protocol
end CouncilLogic
