/-
# Decisions on finished runs

`record_human_decision` asks for a result, not for a status.  What it records of the result is
always that of the last `finish_run` (`decided_lastResult`).  The status it records is whatever
the row has: `set_run_status` keeps the result of an earlier execution, so that a run that is
resumed, or whose resume crashed, takes a decision.  Where every decision is made with no
`set_run_status` since the last `finish_run` of its run, all of them are decisions on finished
runs (`decisions_onFinished`).

The method is `record_human_decision` of `src/model_council/store.py`, whose docstring speaks of a
finished run; the status it stores is `run_status` of the record.
-/

import CouncilLogic.Guarantees.RunKeys

namespace CouncilLogic
namespace Runs

open Transaction Columns
open Protocol (field)

variable {rt : Runtime} {t t' : Tables} {now : Stamp} {runId decision note : Str}
  {result d : Dict} {past events : List Event} {e : Event}

/-! ### What a history says of a run -/

/-- The result of the last completed execution of a run, as it is stored. -/
def lastResult (runId : Str) : List Event → Option Dict :=
  List.foldl (fun last e =>
    match e with
    | .finished _ x result => if x = runId then some result.canon else last
    | .created .. | .marked .. | .decided .. => last) none

/-- The statuses that a run has been given since its last completed execution. -/
def markedSince (runId : Str) : List Event → List Str :=
  List.foldl (fun marks e =>
    match e with
    | .finished _ x _ => if x = runId then [] else marks
    | .marked _ x status _ => if x = runId then marks ++ [status] else marks
    | .created .. | .decided .. => marks) []

/-- The row agrees with the history: its result is that of the last completed execution, and
so is its status unless it has been marked since. -/
structure Follows (past : List Event) (t : Tables) (runId : Str) : Prop where
  result : (t.run runId).bind Row.result = lastResult runId past
  status : ∀ r result, t.run runId = some r → lastResult runId past = some result →
    markedSince runId past = [] →
      r.status ∈ terminalRunStatuses ∧ field result (lit "status") = .str r.status

/-- Only the row of a run says whether it follows the history. -/
theorem Follows.congr (h : Follows past t runId) (hrun : t'.run runId = t.run runId)
    (hresult : lastResult runId events = lastResult runId past)
    (hmarks : markedSince runId events = markedSince runId past) : Follows events t' runId where
  result := by rw [hrun, hresult, h.result]
  status := by
    rw [hrun, hresult, hmarks]
    exact h.status

/-- A result that can be finished with has a terminal status. -/
theorem resultStatus_ok {status : Str} (h : resultStatus result = .ok status) :
    status ∈ terminalRunStatuses ∧ field result.canon (lit "status") = .str status := by
  unfold resultStatus at h
  split at h
  · rename_i s hs
    simp only [bind, Except.bind] at h
    split at h
    · cases h
    split at h
    · rename_i hterminal
      cases h
      refine ⟨hterminal, ?_⟩
      unfold field at hs ⊢
      rw [Dict.get?_canon_eq]
      cases hget : result.get? (lit "status") with
      | none =>
        rw [hget] at hs
        cases hs
      | some value =>
        rw [hget] at hs
        obtain rfl : value = .str status := hs
        rfl
    · cases h
  all_goals cases h

/-- An update changes the one row. -/
theorem run_updateRun (t : Tables) (runId : Str) {f : Row → Row} (hf : ∀ r, (f r).id = r.id)
    (x : Str) :
    (t.updateRun runId f).run x = if x = runId then (t.run runId).map f else t.run x :=
  Rows.find_change_key (fun r hr => (hf r).trans hr) x

/-- **Every call keeps the rows as the history says.** -/
theorem Follows.step (hfollows : ∀ x, Follows past t x) (h : e.Happens rt t t') (x : Str) :
    Follows (past ++ [e]) t' x := by
  have hresult : ∀ e : Event, lastResult x (past ++ [e]) = match e with
      | .finished _ y result => if y = x then some result.canon else lastResult x past
      | .created .. | .marked .. | .decided .. => lastResult x past := by
    intro e
    unfold lastResult
    rw [List.foldl_concat]
  have hmarks : ∀ e : Event, markedSince x (past ++ [e]) = match e with
      | .finished _ y _ => if y = x then [] else markedSince x past
      | .marked _ y status _ =>
        if y = x then markedSince x past ++ [status] else markedSince x past
      | .created .. | .decided .. => markedSince x past := by
    intro e
    unfold markedSince
    rw [List.foldl_concat]
  cases e with
  | created c id =>
    obtain ⟨-, hcreated⟩ := createRun_ok_iff.1 h
    have hsame := fun hrun : t'.run x = t.run x => (hfollows x).congr hrun (hresult (.created c id))
      (hmarks (.created c id))
    cases hcreated with
    | named => exact hsame rfl
    | keyed => exact hsame rfl
    | inserted hunknown =>
      have hfresh : ∀ a ∈ t.runs, Row.id a ≠
          Row.id (createdRow rt c.now c.id c.request c.idempotencyKey) :=
        fun a ha => Rows.find_eq_none.1 hunknown a ha
      have hfind := Rows.find_append hfresh x
      by_cases hx : c.id = x
      · have hlast := (hfollows x).result
        rw [← hx, hunknown] at hlast
        have hfound : Tables.run { t with runs := t.runs ++ [createdRow rt c.now c.id c.request
            c.idempotencyKey] } x = some (createdRow rt c.now c.id c.request c.idempotencyKey) :=
          hfind.trans (if_pos hx)
        constructor
        · rw [hfound, hresult, ← hx, ← hlast]
          rfl
        · intro r result hr hlast'
          rw [hresult, ← hx, ← hlast] at hlast'
          cases hlast'
      · exact hsame (hfind.trans (if_neg hx))
  | marked now y status error =>
    obtain ⟨r, error', hr, rfl⟩ := setRunStatus_ok h
    have hfind := run_updateRun t y (f := fun r => { r with
      status := status
      error := error'
      updatedAt := now
      finishedAt := if status ∈ terminalRunStatuses then some now else none }) (fun _ => rfl) x
    by_cases hx : x = y
    · subst hx
      rw [if_pos rfl, hr] at hfind
      constructor
      · have hlast := (hfollows x).result
        rw [hr] at hlast
        rw [hfind, hresult, ← hlast]
        rfl
      · intro r' result _ _ hnone
        rw [hmarks] at hnone
        simp only [if_true] at hnone
        exact absurd hnone (List.append_ne_nil_of_right_ne_nil _ nofun)
    · refine (hfollows x).congr (hfind.trans (if_neg hx)) (hresult _) ((hmarks _).trans ?_)
      exact if_neg (Ne.symm hx)
  | finished now y result =>
    obtain ⟨r, status, event, hr, hstatus, -, rfl⟩ := finishRun_ok h
    have hfind := run_updateRun t y (f := fun r => { r with
      result := some result.canon
      resultSha256 := some (rt.sha256 (canonicalJson result.canon))
      status := status
      error := none
      updatedAt := now
      finishedAt := some now }) (fun _ => rfl) x
    by_cases hx : x = y
    · subst hx
      rw [if_pos rfl, hr] at hfind
      have hlast : lastResult x (past ++ [.finished now x result]) = some result.canon := by
        rw [hresult]
        exact if_pos rfl
      constructor
      · rw [hlast]
        exact congrArg (fun found : Option Row => found.bind Row.result) hfind
      · intro r' result' hr' hresult' _
        cases hfind.symm.trans hr'
        cases hlast.symm.trans hresult'
        exact resultStatus_ok hstatus
    · refine (hfollows x).congr (hfind.trans (if_neg hx)) ((hresult _).trans ?_)
        ((hmarks _).trans ?_)
      · exact if_neg (Ne.symm hx)
      · exact if_neg (Ne.symm hx)
  | decided now y decision note d =>
    obtain ⟨_, _, _, _, hdecided⟩ := recordHumanDecision_ok h
    rw [hdecided.appended]
    exact (hfollows x).congr rfl (hresult _) (hmarks _)

/-- What the row of a run has is what the events of the run have written to it. -/
theorem Steps.follows (h : Steps rt {} events t) (x : Str) : Follows events t x :=
  h.history (P := fun past t => ∀ x, Follows past t x)
    (fun hfollows he => Follows.step hfollows he)
    (fun _ => ⟨rfl, fun _ _ hr => nomatch hr⟩) x

/-! ### What is recorded -/

/-- The record is about the result of the last completed execution. -/
structure OnLastResult (rt : Runtime) (runId : Str) (past : List Event) (d : Dict) : Prop where
  recorded : ∃ result aggregate, lastResult runId past = some result ∧
    aggregateField result = .ok aggregate ∧
    field d (lit "result_sha256") = .str (rt.sha256 (canonicalJson result)) ∧
    field d (lit "aggregate_outcome") = field aggregate (lit "outcome") ∧
    field d (lit "completion_quality") = field result (lit "completion_quality")

/-- The record is about a finished run: its status is terminal, the result that of the last
completed execution, and none has been started since. -/
structure OnFinished (rt : Runtime) (runId : Str) (past : List Event) (d : Dict) : Prop
    extends OnLastResult rt runId past d where
  terminal : ∃ status ∈ terminalRunStatuses, field d (lit "run_status") = .str status
  notResumed : lit "running" ∉ markedSince runId past

/-- **What is recorded of a result** is what the last completed execution has. -/
theorem decided_lastResult (h : Steps rt {} past t)
    (hdecide : (recordHumanDecision rt now runId decision note).run t = (.ok d, t')) :
    OnLastResult rt runId past d := by
  obtain ⟨r, result, aggregate, record, hdecided⟩ := recordHumanDecision_ok hdecide
  have hlast := (h.follows runId).result
  rw [hdecided.row] at hlast
  refine ⟨result, aggregate, hlast.symm.trans hdecided.hasResult, hdecided.aggregated, ?_⟩
  rw [hdecided.returned, hdecided.recorded]
  exact ⟨rfl, rfl, rfl⟩

/-- A decision with no status set since the last completed execution. -/
theorem decided_onFinished (h : Steps rt {} past t)
    (hdecide : (recordHumanDecision rt now runId decision note).run t = (.ok d, t'))
    (hmarks : markedSince runId past = []) : OnFinished rt runId past d := by
  have hlast := decided_lastResult h hdecide
  obtain ⟨result, _, hresult, -⟩ := hlast.recorded
  obtain ⟨r, _, _, record, hdecided⟩ := recordHumanDecision_ok hdecide
  have hstatus := ((h.follows runId).status r result hdecided.row hresult hmarks).1
  refine ⟨hlast, ⟨r.status, hstatus, ?_⟩, ?_⟩
  · rw [hdecided.returned, hdecided.recorded]
    rfl
  · rw [hmarks]
    exact List.not_mem_nil

/-- **Decisions on finished runs**, in every history whose decisions are made with no status
set since the last completed execution of their run. -/
theorem decisions_onFinished (h : Steps rt {} events t)
    (hmarks : ∀ before now runId decision note d later,
      events = before ++ .decided now runId decision note d :: later →
        markedSince runId before = []) :
    ∀ before now runId decision note d later,
      events = before ++ .decided now runId decision note d :: later →
        OnFinished rt runId before d := by
  intro before now runId decision note d later hevents
  have hmark := hmarks before now runId decision note d later hevents
  rw [hevents] at h
  obtain ⟨t₁, t₂, hbefore, hdecide, -⟩ := h.split
  exact decided_onFinished hbefore hdecide hmark

/-! ### Examples -/

/-- A result in which a council has settled on `A`, short of a provider. -/
def partialResult : Dict :=
  [(lit "status", .str (lit "partial")), (lit "completion_quality", .str (lit "degraded")),
    (lit "aggregate",
      .obj [(lit "outcome", .str (lit "winner")), (lit "winner", .str (lit "A"))])]

/-- The tables after the run `a` has been made and finished. -/
def exampleFinished : Tables :=
  ((finishRun exampleRuntime exampleStamp (lit "a") partialResult).run (exampleCreated none)).2

/-- The tables after it has been resumed. -/
def exampleResumed : Tables :=
  ((setRunStatus exampleRuntime exampleStamp (lit "a") (lit "running") none).run
    exampleFinished).2

/-- A decision on the run of the example. -/
def exampleDecide : Sql Dict :=
  recordHumanDecision exampleRuntime exampleStamp (lit "a") (lit "accept") (lit "go")

def exampleEvents : List Event :=
  [.created (exampleCall none (some (lit "a"))) (lit "a"),
    .finished exampleStamp (lit "a") partialResult]

/-- The example run of the store: created, finished, taken up again and decided on. -/
theorem exampleFinished_steps : Steps exampleRuntime {} exampleEvents exampleFinished := by
  have hcreated : (createRun exampleRuntime (exampleCall none (some (lit "a")))).run {} =
      (.ok (lit "a"), exampleCreated none) := rfl
  have hfinished : (finishRun exampleRuntime exampleStamp (lit "a") partialResult).run
      (exampleCreated none) = (.ok (), exampleFinished) := rfl
  exact .cons hcreated (.cons hfinished .nil)

/-- A run that is resumed takes a decision on the result it had before. -/
theorem decision_whileResumed :
    Steps exampleRuntime {} (exampleEvents ++
      [.marked exampleStamp (lit "a") (lit "running") none]) exampleResumed ∧
    ∃ d t', exampleDecide.run exampleResumed = (.ok d, t') ∧
      ¬ OnFinished exampleRuntime (lit "a") (exampleEvents ++
        [.marked exampleStamp (lit "a") (lit "running") none]) d := by
  have hmarked : (setRunStatus exampleRuntime exampleStamp (lit "a") (lit "running") none).run
      exampleFinished = (.ok (), exampleResumed) := rfl
  obtain ⟨d, t', hdecide, hstatus⟩ : ∃ d t', exampleDecide.run exampleResumed = (.ok d, t') ∧
      field d (lit "run_status") = .str (lit "running") := ⟨_, _, rfl, rfl⟩
  refine ⟨exampleFinished_steps.append (.cons hmarked .nil), d, t', hdecide, fun h => ?_⟩
  obtain ⟨status, hterminal, heq⟩ := h.terminal
  obtain rfl : lit "running" = status := Json.str.inj (hstatus.symm.trans heq)
  exact absurd hterminal (by decide)

/-- A run that is finished takes a decision on its result. -/
theorem decisions_onFinished_example :
    ∃ d, OnFinished exampleRuntime (lit "a") exampleEvents d := by
  obtain ⟨d, t', hdecide⟩ : ∃ d t', exampleDecide.run exampleFinished = (.ok d, t') :=
    ⟨_, _, rfl⟩
  have hsteps := exampleFinished_steps.append (.cons
    (e := .decided exampleStamp (lit "a") (lit "accept") (lit "go") d) hdecide .nil)
  refine ⟨d, decisions_onFinished hsteps ?_ exampleEvents exampleStamp (lit "a") (lit "accept")
    (lit "go") d [] rfl⟩
  intro before now runId decision note d' later hevents
  rcases before with _ | ⟨first, _ | ⟨second, _ | ⟨third, rest⟩⟩⟩
  · cases hevents
  · cases hevents
  · cases hevents
    rfl
  · injection hevents with _ hevents
    injection hevents with _ hevents
    injection hevents with _ hevents
    exact absurd hevents.symm (List.append_ne_nil_of_right_ne_nil _ nofun)

end Runs
end CouncilLogic
