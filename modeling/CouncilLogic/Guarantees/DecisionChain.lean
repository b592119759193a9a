/-
# The ledger of decisions

`record_human_decision` writes into each record the digest of the record before it.
`list_human_decisions` checks the digest of each record and shows the link, but does not
follow it: a ledger whose first records are gone is listed as verified.  What the listing
shows is evidence when its reader follows the links: deleting, reordering or inserting
records breaks a digest or a link, except at the end (`decisionListing_evidence`).

The methods are in `src/model_council/store.py`; `docs/AGENT-INTERFACE.md` says that the hash
chain makes tampering detectable, which it does for a reader who follows it.
-/

import CouncilLogic.Guarantees.Decisions

namespace CouncilLogic
namespace Runs

open Transaction Columns
open Protocol (field)

variable {rt : Runtime} {loads : Str → Except PyErr Json} {runId : Str} {t t' : Tables}
  {rows : List DecisionRow} {entries entries' : List Dict} {row : DecisionRow} {e : Dict}

/-! ### What a listing shows -/

/-- Every record is listed as verified. -/
def Verified (entries : List Dict) : Prop :=
  ∀ e ∈ entries, field e (lit "hash_verified") = .bool true

instance (entries : List Dict) : Decidable (Verified entries) :=
  inferInstanceAs (Decidable (∀ e ∈ entries, _))

/-- The first record has no predecessor, and each names the digest of the one before it. -/
def Unbroken (entries : List Dict) : Prop :=
  HashChain.Linked (fun e => field e (lit "record_sha256"))
    (fun e => field e (lit "previous_record_sha256")) .null entries

instance (entries : List Dict) : Decidable (Unbroken entries) :=
  HashChain.decidableLinked _ _ _ _

/-- The digest that the text of a record names. -/
def link (loads : Str → Except PyErr Json) (text : Str) : Json :=
  match loads text with
  | .ok (.obj record) => field (Dict.update [] record) (lit "previous_record_sha256")
  | _ => .null

/-- A field after an update depends on the field before and on the update. -/
theorem get?_update_congr {d d' other : Dict} {key : Str} (h : d.get? key = d'.get? key) :
    (Dict.update d other).get? key = (Dict.update d' other).get? key := by
  unfold Dict.update
  induction other generalizing d d' with
  | nil => exact h
  | cons f other ih =>
    refine ih ?_
    rw [Dict.get?_set, Dict.get?_set, h]

/-- An entry shows the digest of the row, whether it fits the text, and the link in it. -/
theorem decisionFromRow_ok (h : decisionFromRow rt loads row = .ok e) :
    field e (lit "record_sha256") = .str row.recordSha256 ∧
      field e (lit "hash_verified") =
        .bool (decide (rt.sha256 row.recordJson = row.recordSha256)) ∧
      field e (lit "previous_record_sha256") = link loads row.recordJson := by
  unfold decisionFromRow at h
  unfold link
  cases hloads : loads row.recordJson with
  | error err =>
    rw [hloads] at h
    cases h
  | ok value =>
    rw [hloads] at h
    cases value with
    | obj record =>
      cases h
      have hprevious : (Dict.update [(lit "id", .int row.id)] record).get?
          (lit "previous_record_sha256") =
            (Dict.update [] record).get? (lit "previous_record_sha256") :=
        get?_update_congr rfl
      refine ⟨?_, ?_, ?_⟩
      · unfold field
        rw [Dict.get?_set, if_neg (by decide), Dict.get?_set, if_pos rfl]
        rfl
      · unfold field
        rw [Dict.get?_set, if_pos rfl]
        rfl
      · unfold field
        rw [Dict.get?_set, if_neg (by decide), Dict.get?_set, if_neg (by decide), hprevious]
    | null | bool _ | int _ | float _ | str _ | arr _ => cases h

/-- What is mapped in a monad is mapped entry by entry. -/
theorem forall₂_of_mapM {ε α β : Type} {f : α → Except ε β} {l : List α} {l' : List β}
    (h : l.mapM f = .ok l') : List.Forall₂ (fun a b => f a = .ok b) l l' := by
  induction l generalizing l' with
  | nil =>
    cases h
    exact .nil
  | cons a l ih =>
    rw [List.mapM_cons] at h
    simp only [bind, Except.bind, pure, Except.pure] at h
    split at h
    · cases h
    rename_i b hb
    split at h
    · cases h
    rename_i rest hrest
    cases h
    exact .cons hb (ih hrest)

/-- The entries of a listing are those of the rows, in their order. -/
theorem listHumanDecisions_ok (h : (listHumanDecisions rt loads runId).run t = (.ok entries, t')) :
    List.Forall₂ (fun row e => decisionFromRow rt loads row = .ok e) (t.decisionsOf runId)
      entries := by
  unfold listHumanDecisions at h
  obtain ⟨_, _, hstep, h⟩ := bind_ok_iff.1 h
  obtain ⟨-, rfl⟩ := check_ok_iff.1 hstep
  obtain ⟨_, _, hstep, h⟩ := bind_ok_iff.1 h
  obtain ⟨rfl, rfl⟩ := read_ok_iff.1 hstep
  exact forall₂_of_mapM (check_ok_iff.1 h).1

/-- `hash_verified` is listed for each row. -/
theorem flags_of_listed
    (h : List.Forall₂ (fun row e => decisionFromRow rt loads row = .ok e) rows entries) :
    entries.map (fun e => field e (lit "hash_verified")) =
      rows.map fun row => .bool (decide (rt.sha256 row.recordJson = row.recordSha256)) := by
  induction h with
  | nil => rfl
  | cons he _ ih => exact congrArg₂ List.cons (decisionFromRow_ok he).2.1 ih

/-- The rows of a listing in which all records are verified and the links are unbroken are a
chain by their texts. -/
theorem linked_of_listed {origin : Json}
    (h : List.Forall₂ (fun row e => decisionFromRow rt loads row = .ok e) rows entries)
    (hverified : Verified entries)
    (hlinked : HashChain.Linked (fun e => field e (lit "record_sha256"))
      (fun e => field e (lit "previous_record_sha256")) origin entries) :
    HashChain.Linked (fun text => Json.str (rt.sha256 text)) (link loads) origin
      (rows.map DecisionRow.recordJson) := by
  induction h generalizing origin with
  | nil => trivial
  | @cons row e rows entries he _ ih =>
    obtain ⟨hdigest, hflag, hprevious⟩ := decisionFromRow_ok he
    obtain ⟨hlink, hrest⟩ := hlinked
    have hfits : rt.sha256 row.recordJson = row.recordSha256 := by
      have hshown := hflag.symm.trans (hverified e List.mem_cons_self)
      injection hshown with hshown
      exact of_decide_eq_true hshown
    refine ⟨hprevious.symm.trans hlink,
      ih (fun e' he' => hverified e' (List.mem_cons_of_mem _ he')) ?_⟩
    have hstep : field e (lit "record_sha256") = .str (rt.sha256 row.recordJson) := by
      rw [hdigest, hfits]
    show HashChain.Linked _ _ (Json.str (rt.sha256 row.recordJson)) entries
    rw [← hstep]
    exact hrest

/-- **What a listing is evidence of.**  `hash_verified` says that the digest of a record fits
its text.  When that and the links are as they should be in two listings, and the records of
the first are among those of the second, the first is an initial segment of the second. -/
theorem decisionListing_evidence (hcollision : Function.Injective rt.sha256) {t₁ t₂ : Tables}
    (hlist : (listHumanDecisions rt loads runId).run t = (.ok entries, t₁))
    (hlist' : (listHumanDecisions rt loads runId).run t' = (.ok entries', t₂)) :
    entries.map (fun e => field e (lit "hash_verified")) = (t.decisionsOf runId).map
        (fun row => .bool (decide (rt.sha256 row.recordJson = row.recordSha256))) ∧
      (Verified entries → Unbroken entries → Verified entries' → Unbroken entries' →
        (t.decisionsOf runId).map DecisionRow.recordJson ⊆
          (t'.decisionsOf runId).map DecisionRow.recordJson →
        (t.decisionsOf runId).map DecisionRow.recordJson <+:
          (t'.decisionsOf runId).map DecisionRow.recordJson) := by
  have hlisted := listHumanDecisions_ok hlist
  have hlisted' := listHumanDecisions_ok hlist'
  constructor
  · exact flags_of_listed hlisted
  · intro hverified hunbroken hverified' hunbroken' hsubset
    have hchain := linked_of_listed hlisted hverified hunbroken
    have hchain' := linked_of_listed hlisted' hverified' hunbroken'
    generalize (t.decisionsOf runId).map DecisionRow.recordJson = texts at *
    generalize (t'.decisionsOf runId).map DecisionRow.recordJson = texts' at *
    cases texts using List.reverseRecOn with
    | nil => exact List.nil_prefix
    | append_singleton texts text =>
      have hinjective : Function.Injective fun text => Json.str (rt.sha256 text) :=
        fun a b hab => hcollision (Json.str.inj hab)
      have hprefix := hchain.isPrefix hchain'
        (fun x _ y _ hxy => congrArg (link loads) (hinjective hxy)) (fun _ _ => nofun)
        (List.mem_map_of_mem (hsubset (by simp)))
      exact (List.prefix_map_iff_of_injective hinjective).1 hprefix

/-! ### The ledger as it is written -/

/-- The row as `record_human_decision` writes it. -/
structure Written (rt : Runtime) (row : DecisionRow) : Prop where
  digest : rt.sha256 row.recordJson = row.recordSha256
  text : ∃ record : Dict, row.recordJson = canonicalJson record ∧ record.keys.Nodup ∧
    record.get? (lit "previous_record_sha256") = some (optStr row.previousRecordSha256)

/-- Every row of the ledger is as it is written, and those of a run are a chain. -/
structure LedgerInv (rt : Runtime) (t : Tables) : Prop where
  written : ∀ row ∈ t.decisions, Written rt row
  chained : ∀ runId, HashChain.Linked (fun row : DecisionRow => some row.recordSha256)
    DecisionRow.previousRecordSha256 none (t.decisionsOf runId)

/-- The tip of a ledger is the digest of its last record. -/
theorem tip_decisions (rows : List DecisionRow) :
    HashChain.tip (fun row : DecisionRow => some row.recordSha256) none rows =
      rows.getLast?.map DecisionRow.recordSha256 := by
  induction rows using List.reverseRecOn with
  | nil => rfl
  | append_singleton rows row => rw [HashChain.tip_concat, List.getLast?_concat, Option.map_some]

/-- A decision that is added is a decision of its own run. -/
theorem decisionsOf_append (row : DecisionRow) (n : ℕ) (x : Str) :
    Tables.decisionsOf { t with decisions := t.decisions ++ [row], nextDecisionId := n } x =
      if row.runId = x then t.decisionsOf x ++ [row] else t.decisionsOf x := by
  unfold Tables.decisionsOf
  rw [List.filter_append]
  by_cases hx : row.runId = x
  · rw [if_pos hx, List.filter_cons_of_pos (by simpa using hx), List.filter_nil]
  · rw [if_neg hx, List.filter_cons_of_neg (by simpa using hx), List.filter_nil, List.append_nil]

/-- Every event keeps the ledger a chain. -/
theorem LedgerInv.step {e : Event} (hinv : LedgerInv rt t) (h : e.Happens rt t t') :
    LedgerInv rt t' := by
  cases e with
  | created c id =>
    cases (createRun_ok_iff.1 h).2 with
    | named => exact hinv
    | keyed => exact hinv
    | inserted => exact ⟨hinv.written, hinv.chained⟩
  | marked now runId status error =>
    obtain ⟨_, _, -, rfl⟩ := setRunStatus_ok h
    exact ⟨hinv.written, hinv.chained⟩
  | finished now runId result =>
    obtain ⟨_, _, _, -, -, -, rfl⟩ := finishRun_ok h
    exact ⟨hinv.written, hinv.chained⟩
  | decided now runId decision note d =>
    obtain ⟨r, result, aggregate, record, hdecided⟩ := recordHumanDecision_ok h
    rw [hdecided.appended]
    constructor
    · intro row hrow
      rcases List.mem_append.1 hrow with hrow | hrow
      · exact hinv.written row hrow
      · obtain rfl := List.mem_singleton.1 hrow
        refine ⟨rfl, record, rfl, ?_, ?_⟩
        · rw [hdecided.recorded]
          have hkeys : (decisionRecord rt now runId decision (Str.strip note) r.status result
            aggregate (t.lastRecordSha256 runId)).keys = [lit "run_id", lit "decision", lit "note",
              lit "run_status", lit "completion_quality", lit "aggregate_outcome",
              lit "aggregate_winner", lit "result_sha256", lit "previous_record_sha256",
              lit "decided_at"] := rfl
          rw [hkeys]
          decide
        · rw [hdecided.recorded]
          rfl
    · intro x
      rw [decisionsOf_append]
      split
      · rename_i hx
        obtain rfl : runId = x := hx
        rw [HashChain.linked_concat, tip_decisions]
        exact ⟨hinv.chained runId, rfl⟩
      · exact hinv.chained x

/-- **In every run of the store the ledger is a chain**: each record carries its own digest and
the digest of the one before. -/
theorem Steps.ledgerInv {events : List Event} (h : Steps rt {} events t) : LedgerInv rt t :=
  h.history (P := fun _ t => LedgerInv rt t) (fun hinv he => hinv.step he)
    ⟨nofun, fun _ => trivial⟩

/-- A key of the update has the value that the update gives it. -/
theorem get?_update_of_mem {d other : Dict} {key : Str} (hnodup : other.keys.Nodup)
    (hmem : key ∈ other.keys) : (Dict.update d other).get? key = other.get? key := by
  induction other generalizing d with
  | nil => cases hmem
  | cons f other ih =>
    obtain ⟨k, v⟩ := f
    obtain ⟨hk, hnodup⟩ := List.nodup_cons.1 hnodup
    rw [Dict.get?_cons]
    by_cases hkey : key = k
    · subst hkey
      rw [if_pos rfl]
      show (Dict.update (Dict.set d key v) other).get? key = some v
      rw [Dict.get?_update_of_notMem hk, Dict.get?_set, if_pos rfl]
    · rw [if_neg hkey]
      exact ih hnodup ((List.mem_cons.1 hmem).resolve_left hkey)

/-- The link in the text of a record, when `json.loads` reads back what `json.dumps` prints. -/
theorem Written.link (h : Written rt row) (hloads : ∀ record : Dict,
    row.recordJson = canonicalJson record → loads row.recordJson = .ok (.obj record.canon)) :
    link loads row.recordJson = optStr row.previousRecordSha256 := by
  obtain ⟨record, htext, hnodup, hprevious⟩ := h.text
  have hcanon : record.canon.get? (lit "previous_record_sha256") =
      some (optStr row.previousRecordSha256) := by
    rw [Dict.get?_canon hnodup, hprevious]
    cases row.previousRecordSha256 <;> rfl
  have hmem : lit "previous_record_sha256" ∈ record.canon.keys := by
    by_contra hnot
    rw [Dict.get?_eq_none.2 hnot] at hcanon
    cases hcanon
  unfold Runs.link field
  rw [hloads record htext]
  dsimp only
  rw [get?_update_of_mem (Dict.nodup_keys_canon hnodup) hmem, hcanon]
  rfl

/-- **The listing of an untouched ledger** is verified, and its links are unbroken. -/
theorem untouched_listing {events : List Event} {t₁ : Tables} (h : Steps rt {} events t)
    (hloads : ∀ record : Dict, canonicalJson record ∈ t.decisions.map DecisionRow.recordJson →
      loads (canonicalJson record) = .ok (.obj record.canon))
    (hlist : (listHumanDecisions rt loads runId).run t = (.ok entries, t₁)) :
    Verified entries ∧ Unbroken entries := by
  have hinv := h.ledgerInv
  have hchain := hinv.chained runId
  have hwritten : ∀ row ∈ t.decisionsOf runId, Written rt row ∧
      link loads row.recordJson = optStr row.previousRecordSha256 := by
    intro row hrow
    have hmem : row ∈ t.decisions := (List.mem_filter.1 hrow).1
    refine ⟨hinv.written row hmem, (hinv.written row hmem).link fun record htext => ?_⟩
    rw [htext]
    exact hloads record (htext ▸ List.mem_map_of_mem hmem)
  have hlisted := listHumanDecisions_ok hlist
  clear hlist
  have hnull : Json.null = optStr none := rfl
  unfold Verified Unbroken
  rw [hnull]
  generalize t.decisionsOf runId = rows at hchain hwritten hlisted
  generalize (none : Option Str) = origin at hchain ⊢
  induction hlisted generalizing origin with
  | nil => exact ⟨nofun, trivial⟩
  | @cons row e rows entries he _ ih =>
    obtain ⟨hdigest, hflag, hprevious⟩ := decisionFromRow_ok he
    obtain ⟨hlink, hrest⟩ := hchain
    obtain ⟨hrow, hrowLink⟩ := hwritten row List.mem_cons_self
    obtain ⟨hverified, hunbroken⟩ :=
      ih (fun row' hrow' => hwritten row' (List.mem_cons_of_mem _ hrow')) _ hrest
    constructor
    · intro e' he'
      rcases List.mem_cons.1 he' with rfl | he'
      · rw [hflag, decide_eq_true hrow.digest]
      · exact hverified e' he'
    · refine ⟨?_, ?_⟩
      · show field e (lit "previous_record_sha256") = optStr origin
        rw [hprevious, hrowLink, hlink]
      · show HashChain.Linked _ _ (field e (lit "record_sha256")) entries
        rw [hdigest]
        exact hunbroken

/-! ### Examples -/

/-- `json.loads` on the texts of the example, which have no key twice. -/
def exampleLoads (text : Str) : Except PyErr Json :=
  match Decode.decodeCompleteJson exampleRuntime text with
  | .ok value => .ok value
  | .error _ => .error (.valueError (lit "Expecting value"))

/-- The tables after two decisions on the run of the example. -/
def exampleDecided : Tables :=
  (exampleDecide.run ((recordHumanDecision exampleRuntime exampleStamp (lit "a") (lit "defer")
    (lit "wait")).run exampleFinished).2).2

/-- Their ledger, tampered with. -/
def tampered (decisions : List DecisionRow) : Tables :=
  { exampleDecided with decisions := decisions }

/-- The listing of a tampered ledger has a property. -/
def exampleListing (p : List Dict → Prop) [DecidablePred p] (decisions : List DecisionRow) : Bool :=
  match ((listHumanDecisions exampleRuntime exampleLoads (lit "a")).run (tampered decisions)).1 with
  | .ok entries => decide (p entries)
  | .error _ => false

/-- A listing of the example that was evaluated is a listing. -/
theorem exists_of_exampleListing (p : List Dict → Prop) [DecidablePred p]
    (decisions : List DecisionRow) (h : exampleListing p decisions = true) :
    ∃ entries t, (listHumanDecisions exampleRuntime exampleLoads (lit "a")).run
      (tampered decisions) = (.ok entries, t) ∧ p entries := by
  unfold exampleListing at h
  split at h
  · rename_i entries hentries
    exact ⟨entries, _, Prod.ext hentries rfl, of_decide_eq_true h⟩
  · cases h

/-- The first of two decisions is deleted: what is left is verified, and no chain.  The last
of them is deleted: what is left is verified, and a chain. -/
theorem brokenChain_verified :
    (∃ entries t, (listHumanDecisions exampleRuntime exampleLoads (lit "a")).run
        (tampered exampleDecided.decisions.tail) = (.ok entries, t) ∧
      Verified entries ∧ ¬ Unbroken entries) ∧
    ∃ entries t, (listHumanDecisions exampleRuntime exampleLoads (lit "a")).run
        (tampered (exampleDecided.decisions.take 1)) = (.ok entries, t) ∧
      Verified entries ∧ Unbroken entries := by
  constructor
  · exact exists_of_exampleListing (fun entries => Verified entries ∧ ¬ Unbroken entries) _
      (by decide +kernel)
  · exact exists_of_exampleListing (fun entries => Verified entries ∧ Unbroken entries) _
      (by decide +kernel)

/-- The records that are left are records that were there. -/
theorem tampered_take_subset (decisions : List DecisionRow) :
    ((tampered (decisions.take 1)).decisionsOf (lit "a")).map DecisionRow.recordJson ⊆
      ((tampered decisions).decisionsOf (lit "a")).map DecisionRow.recordJson :=
  (((List.take_sublist 1 decisions).filter _).map _).subset

/-- The last of two decisions is deleted. -/
theorem decisionListing_evidence_example :
    ((tampered (exampleDecided.decisions.take 1)).decisionsOf (lit "a")).map
        DecisionRow.recordJson <+:
      ((tampered exampleDecided.decisions).decisionsOf (lit "a")).map DecisionRow.recordJson := by
  obtain ⟨entries, _, hlist, hverified, hunbroken⟩ := exists_of_exampleListing
    (fun entries => Verified entries ∧ Unbroken entries) (exampleDecided.decisions.take 1)
    (by decide +kernel)
  obtain ⟨entries', _, hlist', hverified', hunbroken'⟩ := exists_of_exampleListing
    (fun entries => Verified entries ∧ Unbroken entries) exampleDecided.decisions
    (by decide +kernel)
  exact (decisionListing_evidence (fun _ _ h => h) hlist hlist').2 hverified hunbroken hverified'
    hunbroken' (tampered_take_subset _)

end Runs
end CouncilLogic
