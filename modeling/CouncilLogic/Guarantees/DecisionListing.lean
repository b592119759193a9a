/-
# The listing of decisions

What `list_human_decisions` reads back is what `record_human_decision` returned, in the same
order and with `hash_verified` set (`decisions_listed`).  The text of a record is read back as
the record when `json.loads` takes back what the results carry: their numbers are printable and
they are nested no deeper than the decoder goes.

Both methods are in `src/model_council/store.py`.  The condition is about `json.loads` alone: what
`json.dumps` has printed into the record is read back by it unless a number has more than 4300
digits or the nesting is deeper than the decoder goes.
-/

import CouncilLogic.Guarantees.DecisionChain
import CouncilLogic.Json.Compact

namespace CouncilLogic
namespace Runs

open Transaction Columns
open Protocol (field)
open Decode (depthFields distinctFields_eq_all)

variable {rt : Runtime} {t t' : Tables} {now : Stamp} {runId decision note status : Str}
  {result aggregate record d e : Dict} {row : DecisionRow} {previous : Option Str} {n : ℕ}
  {past events : List Event} {reader : Str → Except PyErr Json}

/-! ### Values that are read back -/

/-- `json.loads` takes back what `json.dumps` prints, with `n` levels of nesting. -/
structure Legible (rt : Runtime) (n : ℕ) (j : Json) : Prop where
  printable : Json.printable rt j = true
  distinct : Decode.distinct j = true
  depth : Decode.depth j ≤ n

/-- A text is read back. -/
theorem legible_str {s : Str} : Legible rt n (.str s) := ⟨rfl, rfl, Nat.zero_le n⟩

/-- Null is read back. -/
theorem legible_null : Legible rt n .null := ⟨rfl, rfl, Nat.zero_le n⟩

/-- A nullable text is read back. -/
theorem legible_optStr {s : Option Str} : Legible rt n (optStr s) := by
  cases s with
  | none => exact legible_null
  | some s => exact legible_str

/-- What is read back in one order of the keys is read back in every order. -/
theorem legible_canon {j : Json} : Legible rt n j.canon ↔ Legible rt n j := by
  have hprintable : Json.printable rt j.canon = Json.printable rt j := Json.allAtoms_canon _ j
  constructor
  · intro h
    exact ⟨hprintable ▸ h.printable, Decode.distinct_canon j ▸ h.distinct,
      Decode.depth_canon j ▸ h.depth⟩
  · intro h
    exact ⟨hprintable.symm ▸ h.printable, (Decode.distinct_canon j).symm ▸ h.distinct,
      (Decode.depth_canon j).symm ▸ h.depth⟩

/-- The fields are no deeper than a bound when each of them is not. -/
theorem depthFields_le {fields : Dict} : depthFields fields ≤ n ↔ ∀ f ∈ fields,
    Decode.depth f.2 ≤ n := by
  induction fields with
  | nil => exact iff_of_true (Nat.zero_le n) (by simp)
  | cons f fields ih => rw [depthFields, Nat.max_le, ih, List.forall_mem_cons]

/-- An object is legible when its keys differ and its values are, with a level less. -/
theorem legible_obj : Legible rt n (.obj d) ↔
    d.keys.Nodup ∧ ∃ m, n = m + 1 ∧ ∀ f ∈ d, Legible rt m f.2 := by
  have hprintable : Json.printable rt (.obj d) = true ↔
      ∀ f ∈ d, Json.printable rt f.2 = true := by
    rw [Json.printable, Json.allAtoms, Json.allAtomsFields_eq_all, List.all_eq_true]
  have hdistinct : Decode.distinct (.obj d) = true ↔
      d.keys.Nodup ∧ ∀ f ∈ d, Decode.distinct f.2 = true := by
    rw [Decode.distinct, Bool.and_eq_true, decide_eq_true_iff, distinctFields_eq_all,
      List.all_eq_true]
    rfl
  constructor
  · intro h
    have hdepth := h.depth
    rw [Decode.depth] at hdepth
    obtain ⟨m, rfl⟩ := Nat.exists_eq_add_of_le' (Nat.le_of_add_left_le hdepth)
    have hfields := depthFields_le.1 (Nat.le_of_add_le_add_right hdepth)
    refine ⟨(hdistinct.1 h.distinct).1, m, rfl, fun f hf => ?_⟩
    exact ⟨hprintable.1 h.printable f hf, (hdistinct.1 h.distinct).2 f hf, hfields f hf⟩
  · rintro ⟨hkeys, m, rfl, hfields⟩
    refine ⟨hprintable.2 fun f hf => (hfields f hf).printable,
      hdistinct.2 ⟨hkeys, fun f hf => (hfields f hf).distinct⟩, ?_⟩
    rw [Decode.depth]
    exact Nat.succ_le_succ (depthFields_le.2 fun f hf => (hfields f hf).depth)

/-- A field of a record that is read back is read back. -/
theorem legible_field (h : ∀ f ∈ d, Legible rt n f.2) (key : Str) :
    Legible rt n (field d key) := by
  unfold field
  cases hget : d.get? key with
  | none => exact legible_null
  | some value => exact h (key, value) (Dict.mem_of_get? hget)

/-- The text of a legible dictionary is read back as the dictionary, with its keys sorted. -/
theorem loads_canonicalJson (h : Legible rt rt.recursionLimit (.obj d)) :
    loads rt (canonicalJson d) = .ok (.obj d.canon) := by
  have hcanon : Legible rt rt.recursionLimit (Json.canon (.obj d)) := legible_canon.2 h
  exact loads_dumpsCompact hcanon.printable hcanon.distinct hcanon.depth

/-! ### Records -/

/-- The keys of a record. -/
def recordKeys : List Str :=
  [lit "run_id", lit "decision", lit "note", lit "run_status", lit "completion_quality",
    lit "aggregate_outcome", lit "aggregate_winner", lit "result_sha256",
    lit "previous_record_sha256", lit "decided_at"]

/-- The record of a decision on a legible result is legible. -/
theorem legible_record (h : Legible rt n (.obj result))
    (haggregate : aggregateField result = .ok aggregate) :
    Legible rt n (.obj (decisionRecord rt now runId decision note status result aggregate
      previous)) := by
  obtain ⟨-, m, rfl, hfields⟩ := legible_obj.1 h
  have hvalue : ∀ key, Legible rt m (field aggregate key) := by
    intro key
    have hfield := legible_field hfields (lit "aggregate")
    unfold aggregateField at haggregate
    split at haggregate
    · rename_i fields heq
      cases haggregate
      rw [heq] at hfield
      obtain ⟨-, k, rfl, hinner⟩ := legible_obj.1 hfield
      have hle := legible_field hinner key
      exact ⟨hle.printable, hle.distinct, hle.depth.trans (Nat.le_succ k)⟩
    · split at haggregate
      · cases haggregate
      · cases haggregate
        exact legible_null
  refine legible_obj.2 ⟨(by decide : recordKeys.Nodup), m, rfl, ?_⟩
  unfold decisionRecord
  simp only [List.forall_mem_cons]
  exact ⟨legible_str, legible_str, legible_str, legible_str, legible_field hfields _, hvalue _,
    hvalue _, legible_str, legible_optStr, legible_str, fun _ h => absurd h List.not_mem_nil⟩

/-! ### What was returned -/

/-- What `record_human_decision` has returned for a run, in the order of the calls. -/
def returned (runId : Str) : List Event → List Dict :=
  List.filterMap fun e =>
    match e with
    | .decided _ x _ _ d => if x = runId then some d else none
    | .created .. | .marked .. | .finished .. => none

/-- The row is that of a call that has returned `d`. -/
structure RowOf (rt : Runtime) (d : Dict) (row : DecisionRow) : Prop where
  digest : rt.sha256 row.recordJson = row.recordSha256
  record : ∃ record : Dict, row.recordJson = canonicalJson record ∧ record.keys = recordKeys ∧
    Legible rt rt.recursionLimit (.obj record) ∧
      d = (lit "id", .int row.id) :: record ++ [(lit "record_sha256", .str row.recordSha256)]

/-- What the calls of a run have returned, with one call more. -/
theorem returned_append (e : Event) (x : Str) :
    returned x (past ++ [e]) = returned x past ++ returned x [e] := List.filterMap_append

/-- The result of the last execution is one that the run was finished with. -/
theorem lastResult_mem {stored : Dict} (h : lastResult runId events = some stored) :
    ∃ now result, Event.finished now runId result ∈ events ∧ stored = result.canon := by
  induction events using List.reverseRecOn with
  | nil => cases h
  | append_singleton past e ih =>
    unfold lastResult at h
    rw [List.foldl_concat] at h
    have hpast : lastResult runId past = some stored →
        ∃ now result, Event.finished now runId result ∈ past ++ [e] ∧ stored = result.canon := by
      intro h
      obtain ⟨now, result, hmem, heq⟩ := ih h
      exact ⟨now, result, List.mem_append_left _ hmem, heq⟩
    cases e with
    | created c id => exact hpast h
    | marked now x status error => exact hpast h
    | decided now x decision note d => exact hpast h
    | finished now x result =>
      dsimp only at h
      by_cases hx : x = runId
      · rw [if_pos hx] at h
        cases h
        exact ⟨now, result, by rw [hx]; simp, rfl⟩
      · rw [if_neg hx] at h
        exact hpast h

/-- Every result that a run was finished with is legible. -/
def ResultsLegible (rt : Runtime) (events : List Event) : Prop :=
  ∀ now runId result, Event.finished now runId result ∈ events →
    Legible rt rt.recursionLimit (.obj result)

/-- **A call that returns keeps the ledger**: its rows are those of what was returned. -/
theorem rows_step {e : Event} (hfollows : ∀ x, Follows past t x)
    (hlegible : ResultsLegible rt past) (h : e.Happens rt t t')
    (hrows : ∀ x, List.Forall₂ (RowOf rt) (returned x past) (t.decisionsOf x)) (x : Str) :
    List.Forall₂ (RowOf rt) (returned x (past ++ [e])) (t'.decisionsOf x) := by
  rw [returned_append]
  cases e with
  | created c id =>
    rw [show returned x [.created c id] = [] from rfl, List.append_nil]
    cases (createRun_ok_iff.1 h).2 with
    | named => exact hrows x
    | keyed => exact hrows x
    | inserted => exact hrows x
  | marked now runId status error =>
    rw [show returned x [.marked now runId status error] = [] from rfl, List.append_nil]
    obtain ⟨_, _, -, rfl⟩ := setRunStatus_ok h
    exact hrows x
  | finished now runId result =>
    rw [show returned x [.finished now runId result] = [] from rfl, List.append_nil]
    obtain ⟨_, _, _, -, -, -, rfl⟩ := finishRun_ok h
    exact hrows x
  | decided now runId decision note d =>
    obtain ⟨r, result, aggregate, record, hdecided⟩ := recordHumanDecision_ok h
    have hreturned : returned x [.decided now runId decision note d] =
        if runId = x then [d] else [] := by
      by_cases hx : runId = x <;> simp [returned, hx]
    rw [hreturned, hdecided.appended, decisionsOf_append]
    show List.Forall₂ (RowOf rt) (returned x past ++ if runId = x then [d] else [])
      (if runId = x then t.decisionsOf x ++ [_] else t.decisionsOf x)
    by_cases hx : runId = x
    · have hlast : lastResult runId past = some result := by
        rw [← (hfollows runId).result, hdecided.row]
        exact hdecided.hasResult
      obtain ⟨_, stored, hmem, rfl⟩ := lastResult_mem hlast
      have hresult : Legible rt rt.recursionLimit (.obj stored.canon) :=
        legible_canon.2 (hlegible _ _ _ hmem)
      rw [if_pos hx, if_pos hx]
      refine List.rel_append (hrows x) (.cons ⟨rfl, record, rfl, ?_, ?_, hdecided.returned⟩ .nil)
      · rw [hdecided.recorded]
        rfl
      · rw [hdecided.recorded]
        exact legible_record hresult hdecided.aggregated
    · rw [if_neg hx, if_neg hx, List.append_nil]
      exact hrows x

/-- **The rows of a run** are those of what was returned for it. -/
theorem Steps.rows (h : Steps rt {} events t) (hlegible : ResultsLegible rt events) (x : Str) :
    List.Forall₂ (RowOf rt) (returned x events) (t.decisionsOf x) := by
  have hrows := h.history (P := fun past t => (∀ x, Follows past t x) ∧
      (ResultsLegible rt past →
        ∀ x, List.Forall₂ (RowOf rt) (returned x past) (t.decisionsOf x)))
    (fun hpast he => ⟨Follows.step hpast.1 he, fun hlegible => by
      have hbefore : ResultsLegible rt _ := fun now runId result hmem =>
        hlegible now runId result (List.mem_append_left _ hmem)
      exact rows_step hpast.1 hbefore he (hpast.2 hbefore)⟩)
    ⟨fun _ => ⟨rfl, fun _ _ hr => nomatch hr⟩, fun _ _ => .nil⟩
  exact hrows.2 hlegible x

/-! ### What is listed -/

/-- The entry is what was returned, with `hash_verified` set. -/
def Listed (d e : Dict) : Prop :=
  ∀ key, e.get? key =
    if key = lit "hash_verified" then some (.bool true) else (d.get? key).map Json.canon

/-- A row that was written for a record is listed as the record, with its digest verified. -/
theorem decisionFromRow_listed (h : RowOf rt d row)
    (hreader : ∀ text j, loads rt text = .ok j → reader text = .ok j) :
    ∃ e, decisionFromRow rt reader row = .ok e ∧ Listed d e := by
  obtain ⟨record, htext, hkeys, hlegible, rfl⟩ := h.record
  have hread : reader row.recordJson = .ok (.obj record.canon) := by
    rw [htext]
    exact hreader _ _ (loads_canonicalJson hlegible)
  unfold decisionFromRow
  rw [hread]
  refine ⟨_, rfl, fun key => ?_⟩
  rw [Dict.get?_set, decide_eq_true h.digest, Dict.get?_set]
  by_cases hverified : key = lit "hash_verified"
  · rw [if_pos hverified, if_pos hverified]
  rw [if_neg hverified, if_neg hverified, List.cons_append, Dict.get?_cons, Dict.get?_append]
  by_cases hmem : key ∈ record.keys
  · have hnodup : record.canon.keys.Nodup :=
      Dict.nodup_keys_canon (legible_obj.1 hlegible).1
    obtain ⟨value, hvalue⟩ := Option.ne_none_iff_exists'.1 (mt Dict.get?_eq_none.1 (not_not.2 hmem))
    have hother : ∀ k, k ∉ recordKeys → key ≠ k := by
      rintro k hk rfl
      exact hk (hkeys ▸ hmem)
    rw [if_neg (hother _ (by decide)), if_neg (hother _ (by decide)),
      get?_update_of_mem hnodup (Dict.mem_keys_canon.2 hmem), Dict.get?_canon_eq, hvalue]
    rfl
  · rw [Dict.get?_update_of_notMem (mt Dict.mem_keys_canon.1 hmem), Dict.get?_eq_none.2 hmem,
      Option.none_or, Dict.get?_cons, Dict.get?_cons]
    by_cases hid : key = lit "id"
    · rw [hid, if_neg (by decide), if_pos rfl, if_pos rfl]
      rfl
    · rw [if_neg hid, if_neg hid]
      split <;> rfl

/-- A ledger is listed record by record. -/
theorem mapM_listed {ds : List Dict} {rows : List DecisionRow}
    (h : List.Forall₂ (RowOf rt) ds rows)
    (hreader : ∀ text j, loads rt text = .ok j → reader text = .ok j) :
    ∃ entries, rows.mapM (decisionFromRow rt reader) = .ok entries ∧
      List.Forall₂ Listed ds entries := by
  induction h with
  | nil => exact ⟨[], rfl, .nil⟩
  | cons hrow _ ih =>
    obtain ⟨e, he, hlisted⟩ := decisionFromRow_listed hrow hreader
    obtain ⟨entries, hentries, hall⟩ := ih
    refine ⟨e :: entries, ?_, .cons hlisted hall⟩
    rw [List.mapM_cons, he, hentries]
    rfl

/-- **What was decided is what is listed**: after any calls, `list_human_decisions` returns for
a run what `record_human_decision` has returned for it, in the same order and verified. -/
theorem decisions_listed (h : Steps rt {} events t) (hlegible : ResultsLegible rt events)
    (hreader : ∀ text j, loads rt text = .ok j → reader text = .ok j)
    (hrun : runId.encodable = true) :
    ∃ entries, (listHumanDecisions rt reader runId).run t = (.ok entries, t) ∧
      List.Forall₂ Listed (returned runId events) entries := by
  obtain ⟨entries, hentries, hall⟩ := mapM_listed (h.rows hlegible runId) hreader
  have hbind : bindTexts [runId] = .ok () := by
    unfold bindTexts
    rw [List.all_cons, hrun]
    rfl
  refine ⟨entries, ?_, hall⟩
  unfold listHumanDecisions
  rw [bind_ok_iff]
  refine ⟨(), t, check_ok_iff.2 ⟨hbind, rfl⟩, ?_⟩
  rw [bind_ok_iff]
  exact ⟨t, t, read_ok_iff.2 ⟨rfl, rfl⟩, check_ok_iff.2 ⟨hentries, rfl⟩⟩

/-- `json.loads` of the example. -/
def exampleReader (text : Str) : Except PyErr Json :=
  match loads exampleRuntime text with
  | .ok j => .ok j
  | .error _ => .error (.valueError (lit "Expecting value"))

/-- A first decision on the run of the example. -/
def exampleDefer : Sql Dict :=
  recordHumanDecision exampleRuntime exampleStamp (lit "a") (lit "defer") (lit "wait")

/-- What returns, returns something. -/
theorem run_of_isOk {p : Sql Dict} (h : (p.run t).1.isOk = true) :
    ∃ d, p.run t = (.ok d, (p.run t).2) := by
  cases hd : (p.run t).1 with
  | ok d => exact ⟨d, Prod.ext hd rfl⟩
  | error e =>
    rw [hd] at h
    cases h

/-- A run is deferred and then accepted, and both decisions are listed in that order. -/
theorem decisions_listed_example :
    ∃ d t d' t' entries, exampleDefer.run exampleFinished = (.ok d, t) ∧
      exampleDecide.run t = (.ok d', t') ∧
      (listHumanDecisions exampleRuntime exampleReader (lit "a")).run t' = (.ok entries, t') ∧
      List.Forall₂ Listed [d, d'] entries := by
  obtain ⟨d, hdefer⟩ := run_of_isOk (by decide +kernel :
    (exampleDefer.run exampleFinished).1.isOk = true)
  obtain ⟨d', hdecide⟩ := run_of_isOk (by decide +kernel :
    (exampleDecide.run (exampleDefer.run exampleFinished).2).1.isOk = true)
  generalize (exampleDefer.run exampleFinished).2 = t at hdefer hdecide
  generalize (exampleDecide.run t).2 = t' at hdecide
  have hsteps : Steps exampleRuntime {} (exampleEvents ++
      [.decided exampleStamp (lit "a") (lit "defer") (lit "wait") d,
        .decided exampleStamp (lit "a") (lit "accept") (lit "go") d']) t' :=
    exampleFinished_steps.append (.cons hdefer (.cons hdecide .nil))
  have hlegible : ResultsLegible exampleRuntime (exampleEvents ++
      [.decided exampleStamp (lit "a") (lit "defer") (lit "wait") d,
        .decided exampleStamp (lit "a") (lit "accept") (lit "go") d']) := by
    intro now runId result hmem
    simp only [exampleEvents, List.cons_append, List.nil_append, List.mem_cons,
      List.not_mem_nil, or_false, Event.finished.injEq, reduceCtorEq, false_or] at hmem
    obtain ⟨-, -, rfl⟩ := hmem
    exact ⟨by decide, by decide, by decide⟩
  have hreader : ∀ text j, loads exampleRuntime text = .ok j → exampleReader text = .ok j := by
    intro text j h
    unfold exampleReader
    rw [h]
  obtain ⟨entries, hlist, hall⟩ := decisions_listed hsteps hlegible hreader
    (rfl : (lit "a").encodable = true)
  exact ⟨d, t, d', t', entries, hdefer, hdecide, hlist, hall⟩

end Runs
end CouncilLogic
