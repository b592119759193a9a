/-
# One run for a key, one owner for a run

Whatever requests arrive and wherever the process crashes: a pair of a principal and an
idempotency key has at most one run, and a run has an owner as long as it is there.

The methods are `CouncilApplication.create_run` of `src/model_council/service.py` and `bind_run`
and `run_owner` of `src/model_council/service_store.py`.  The ids come from `uuid4`; that one
drawn now was not drawn before is a hypothesis of the results.
-/

import CouncilLogic.Engine.Creation
import CouncilLogic.Json.Quoting
import CouncilLogic.Service.Ownership

namespace CouncilLogic
namespace Service

open Prog (wp)

variable {rt : Runtime} {app : CouncilApplication} {b : RunBinding}

/-- SHA-256 tells two questions apart. -/
def ToldApart (rt : Runtime) (question question' : Str) : Prop :=
  rt.sha256 (requestText question) = rt.sha256 (requestText question') →
    requestText question = requestText question'

/-- The hash of a request determines its question. -/
theorem question_eq {question question' : Str} (h : ToldApart rt question question')
    (heq : requestHash rt question = requestHash rt question') : question = question' := by
  have htext := h heq
  simp only [requestText, Json.dumpsCompact, Json.dumpsAtom, Json.dumpsCompactFields,
    List.append_nil] at htext
  exact Json.dumpsStr_injective (List.append_cancel_left (List.append_cancel_right htext))

/-! ### Repeats -/

/-- Anything may be answered and written. -/
def anyRules : Prog.Rules CouncilApplication AppQuestion AppAnswer where
  env := fun _ _ => True
  guar := fun _ _ => True

/-- `_public_run` answers the id it is given. -/
theorem publicRun_runId (runId : Str) :
    wp anyRules (fun result _ => result.runId = runId) (fun _ _ => True) (publicRun runId) app := by
  refine Prog.wp_seq (Prog.wp_trivial fun _ _ => trivial) fun run _ _ => ?_
  cases run with
  | none => trivial
  | some run => rfl

/-- A replay answers with the run of its binding. -/
theorem replayRun_runId (question : Str) (b : RunBinding) :
    wp anyRules (fun result _ => result.runId = b.runId) (fun _ _ => True)
      (replayRun question b) app := by
  refine Prog.wp_seq (Prog.wp_trivial fun _ _ => trivial) fun existing _ _ => ?_
  cases existing with
  | some run => exact Prog.wp_seq (Prog.wp_trivial fun _ _ => trivial) fun _ _ _ =>
      publicRun_runId b.runId
  | none =>
    refine Prog.wp_seq (Prog.wp_trivial fun _ _ => trivial) fun acquired _ _ => ?_
    cases acquired with
    | false => trivial
    | true => exact Prog.wp_seq (Prog.wp_trivial fun _ _ => trivial) fun _ _ _ => rfl

/-- A repeat of the payload that a pair is bound with is answered with the run it is bound to. -/
theorem createRun_repeat {principalId question key cleanKey : Str}
    (hk : validateIdempotencyKey key = .ok cleanKey)
    (hb : app.binding? principalId cleanKey = some b) :
    wp anyRules (fun result _ => result.runId = b.runId) (fun _ _ => True)
      (createRun rt principalId question key) app := by
  refine wp_createRun (fun _ => trivial) ?_ ?_
  · intro _ cleanKey' b' _ hk' _ hb' _
    obtain rfl := Except.ok.inj (hk.symm.trans hk')
    obtain rfl := Option.some.inj (hb.symm.trans hb')
    exact replayRun_runId _ b
  · intro _ cleanKey' _ hk' _ hnone _
    obtain rfl := Except.ok.inj (hk.symm.trans hk')
    exact absurd (hb.symm.trans hnone) (by simp)

/-- Another payload for a pair that is bound is rejected, and nothing changes. -/
theorem createRun_conflict {principalId question key cleanQuestion cleanKey : Str}
    (hq : validateQuestion question = .ok cleanQuestion)
    (hk : validateIdempotencyKey key = .ok cleanKey)
    (hb : app.binding? principalId cleanKey = some b)
    (hne : requestHash rt cleanQuestion ≠ b.payloadHash) :
    wp anyRules (fun _ _ => False) (fun _ s => s = app)
      (createRun rt principalId question key) app := by
  refine wp_createRun (fun _ => rfl) ?_ ?_
  · intro cleanQuestion' cleanKey' b' hq' hk' _ hb' hhash
    obtain rfl := Except.ok.inj (hq.symm.trans hq')
    obtain rfl := Except.ok.inj (hk.symm.trans hk')
    obtain rfl := Option.some.inj (hb.symm.trans hb')
    exact absurd hhash.symm hne
  · intro _ cleanKey' _ hk' _ hnone _
    obtain rfl := Except.ok.inj (hk.symm.trans hk')
    exact absurd (hb.symm.trans hnone) (by simp)

/-! ### The guarantee -/

/-- A pair never has two runs: of all the bindings it ever had, one was for a run that exists. -/
theorem Ownership.one_run (ho : Ownership rt app) (hfresh : app.drawn.Nodup) {b b' : RunBinding}
    (hb : b ∈ app.bound) (hb' : b' ∈ app.bound) (hpair : b.pair = b'.pair)
    (hrun : app.run? b.runId ≠ none) (hrun' : app.run? b'.runId ≠ none) : b = b' := by
  have hids : Rows.Unique RunBinding.runId app.bound := ho.drawn.nodup hfresh
  have hcreated : ∀ b ∈ app.bound, app.run? b.runId ≠ none → b ∈ app.created := by
    intro b hb hrun
    obtain ⟨r, hr, hid⟩ : ∃ r ∈ app.runs.map CouncilRun.request, r.1 = b.runId := by
      by_contra hnone
      exact hrun (run?_eq_none.2 fun r hr hid => hnone ⟨r, hr, hid⟩)
    obtain ⟨a, ha, hid', -⟩ := ho.owner r hr
    obtain rfl := hids.eq (ho.bound a (ho.created a ha)) hb (hid'.trans hid)
    exact ha
  exact ho.once.eq (hcreated b hb hrun) (hcreated b' hb' hrun') hpair

/-- What a request answers to a pair that is bound: the run of the binding to the same payload,
and to another payload an error, which changes nothing. -/
def AnswersBinding (rt : Runtime) (app : CouncilApplication) : Prop :=
  ∀ principalId question key cleanQuestion cleanKey b,
    validateQuestion question = .ok cleanQuestion →
    validateIdempotencyKey key = .ok cleanKey →
    app.binding? principalId cleanKey = some b →
    ∀ oracle n,
      (∀ result app', (createRun rt principalId question key).run oracle n app =
          (.ok result, app') →
        requestHash rt cleanQuestion = b.payloadHash ∧ result.runId = b.runId) ∧
      (requestHash rt cleanQuestion ≠ b.payloadHash →
        ∃ e, (createRun rt principalId question key).run oracle n app = (.error e, app))

/-- A request whose key is bound is answered from the binding, as a replay or as a conflict. -/
theorem answersBinding (rt : Runtime) (app : CouncilApplication) : AnswersBinding rt app := by
  intro principalId question key cleanQuestion cleanKey b hq hk hb oracle n
  have hconflict : requestHash rt cleanQuestion ≠ b.payloadHash →
      ∃ e, (createRun rt principalId question key).run oracle n app = (.error e, app) := by
    intro hne
    rcases hrun : (createRun rt principalId question key).run oracle n app with ⟨result, app'⟩
    have hsound := Prog.wp_run (fun _ _ => trivial) (createRun_conflict hq hk hb hne) hrun
    cases result with
    | ok result => exact (hsound.1 result rfl).elim
    | error e => exact ⟨e, by rw [hsound.2 e rfl]⟩
  refine ⟨fun result app' hrun => ⟨?_, ?_⟩, hconflict⟩
  · by_contra hne
    obtain ⟨e, herror⟩ := hconflict hne
    rw [hrun] at herror
    cases herror
  · exact (Prog.wp_run (fun _ _ => trivial) (createRun_repeat hk hb) hrun).1 result rfl

/-- **A key has one run, and a run has one owner.**  At every point of every life of the
process, crashes included: each pair has had at most one run created; every run has a binding,
whose payload is its question; no run has two bindings; a request for a pair that is bound is
answered with its run, or rejected; and if no id is drawn twice, no run id was ever bound twice
and of all the bindings of a pair one at most has a run. -/
theorem one_run_one_owner (rt : Runtime) {c : AppConfig} (h : AppLife rt (.idle {}) c) :
    (c.state.created.map RunBinding.pair).Nodup ∧
      (∀ r ∈ c.state.runs, ∃ b ∈ c.state.created, b ∈ c.state.bindings ∧ b.runId = r.runId ∧
        b.payloadHash = requestHash rt r.question ∧
        ∀ question, b.payloadHash = requestHash rt question → ToldApart rt question r.question →
          question = r.question) ∧
      (∀ b ∈ c.state.bindings, ∀ b' ∈ c.state.bindings, b.runId = b'.runId → b = b') ∧
      (∀ b ∈ c.state.bindings, ∀ b' ∈ c.state.bindings, b.pair = b'.pair → b = b') ∧
      AnswersBinding rt c.state ∧
      (∀ c', AppLife rt c c' → Grows c.state c'.state) ∧
      (c.state.drawn.Nodup → (c.state.bound.map RunBinding.runId).Nodup ∧
        ∀ b ∈ c.state.bound, ∀ b' ∈ c.state.bound, b.pair = b'.pair →
          c.state.run? b.runId ≠ none → c.state.run? b'.runId ≠ none → b = b') := by
  obtain ⟨-, ho, hsafe⟩ := AppLife.ownership h ownership_empty trivial
  refine ⟨ho.once, fun r hr => ?_, fun b hb b' hb' => ho.ids.eq hb hb',
    fun b hb b' hb' => ho.pairs.eq hb hb', answersBinding rt c.state,
    fun c' hlater => (AppLife.ownership hlater ho hsafe).1, fun hfresh =>
      ⟨ho.drawn.nodup hfresh, fun b hb b' hb' => ho.one_run hfresh hb hb'⟩⟩
  obtain ⟨b, hb, hid, hhash⟩ := ho.owner _ (List.mem_map_of_mem hr)
  exact ⟨b, hb, ho.created b hb, hid, hhash, fun question heq happart =>
    question_eq happart (heq.symm.trans hhash)⟩

/-! ### An application that served a request -/

/-- An environment in which nothing fails, no policy denies, and every id is `run`. -/
def smoothAnswers (q : AppQuestion) : AppAnswer q :=
  match q with
  | .authorize _ => none
  | .enabled _ => true
  | .uuid4 => lit "run"
  | .transaction => none
  | .refuses _ => none
  | .sameRequest _ _ => true
  | .reservationExists _ => false
  | .submit => none
  | .workers => []

/-- An application of two slots that has served one request. -/
def servedOnce (rt : Runtime) : CouncilApplication :=
  ((AppOp.createRun (lit "mini-a-agent") (lit "why") (lit "key")).program rt |>.run
    (fun _ => smoothAnswers) 0
    ((do openApplication 1 1; pure none : AppM (Option CreateRunResult)).run
      (fun _ => smoothAnswers) 0 {}).2).2

/-- The life in which the first request is served. -/
theorem servedOnce_reached (rt : Runtime) : AppLife rt (.idle {}) (.idle (servedOnce rt)) :=
  (Prog.life_run (@AppPrograms.construct rt 1 1) _ 0 {}).trans
    (Prog.life_run (AppPrograms.call _) _ 0 _)

/-- The environment of `smoothAnswers`, drawing the id `run-2`. -/
def laterAnswers (q : AppQuestion) : AppAnswer q :=
  match q with
  | .uuid4 => lit "run-2"
  | q => smoothAnswers q

/-- A request is served. -/
def served (rt : Runtime) (principalId question key : Str) (app : CouncilApplication) :
    Except AppError (Option CreateRunResult) × CouncilApplication :=
  ((AppOp.createRun principalId question key).program rt).run (fun _ => laterAnswers) 0 app

/-- The request of `servedOnce` comes again, and then another question under its key. -/
def servedRepeats (rt : Runtime) : CouncilApplication :=
  (served rt (lit "mini-a-agent") (lit "else") (lit "key")
    (served rt (lit "mini-a-agent") (lit "why") (lit "key") (servedOnce rt)).2).2

/-- The process crashes, and an application is made that takes up the run. -/
def reopened (rt : Runtime) : CouncilApplication :=
  ((do openApplication 1 1; pure none : AppM (Option CreateRunResult)).run
    (fun _ => laterAnswers) 0 (servedRepeats rt).lose).2

/-- The first request comes once more, and the same key of another principal. -/
def servedTwo (rt : Runtime) : CouncilApplication :=
  (served rt (lit "mini-b-agent") (lit "why") (lit "key")
    (served rt (lit "mini-a-agent") (lit "why") (lit "key") (reopened rt)).2).2

/-- The life in which the request is repeated, another one conflicts with it, the process crashes
and a second principal asks. -/
theorem servedTwo_reached (rt : Runtime) : AppLife rt (.idle {}) (.idle (servedTwo rt)) := by
  have hcall : ∀ principalId question key app, AppLife rt (.idle app)
      (.idle (served rt principalId question key app).2) := fun principalId question key app =>
    Prog.life_run (AppPrograms.call (.createRun principalId question key)) _ 0 app
  have hrepeats : AppLife rt (.idle (servedOnce rt)) (.idle (servedRepeats rt)) :=
    (hcall _ _ _ _).trans (hcall _ _ _ _)
  have hcrash : AppLife rt (.idle (servedRepeats rt)) (.idle (servedRepeats rt).lose) :=
    .single (.crash _)
  have hopen : AppLife rt (.idle (servedRepeats rt).lose) (.idle (reopened rt)) :=
    Prog.life_run (@AppPrograms.construct rt 1 1) _ 0 _
  have htwo : AppLife rt (.idle (reopened rt)) (.idle (servedTwo rt)) :=
    (hcall _ _ _ _).trans (hcall _ _ _ _)
  exact (servedOnce_reached rt).trans (hrepeats.trans (hcrash.trans (hopen.trans htwo)))

/-- The repeat is answered with the run, the other question is a conflict, and after the crash
the pair still has its run; another principal's key is another pair. -/
theorem one_run_one_owner_example :
    ((served exampleRuntime (lit "mini-a-agent") (lit "why") (lit "key")
        (servedOnce exampleRuntime)).1 =
          .ok (some ⟨200, lit "run", lit "queued", true⟩) ∧
      (served exampleRuntime (lit "mini-a-agent") (lit "else") (lit "key")
        (servedOnce exampleRuntime)).1 = .error idempotencyConflict ∧
      (servedTwo exampleRuntime).runs.map CouncilRun.runId = [lit "run", lit "run-2"] ∧
      (servedTwo exampleRuntime).scheduledRunIds = [lit "run", lit "run-2"]) ∧
    ((servedTwo exampleRuntime).created.map RunBinding.pair).Nodup ∧
      (∀ r ∈ (servedTwo exampleRuntime).runs, ∃ b ∈ (servedTwo exampleRuntime).created,
        b ∈ (servedTwo exampleRuntime).bindings ∧ b.runId = r.runId) ∧
      (∀ b ∈ (servedTwo exampleRuntime).bound, ∀ b' ∈ (servedTwo exampleRuntime).bound,
        b.pair = b'.pair → (servedTwo exampleRuntime).run? b.runId ≠ none →
        (servedTwo exampleRuntime).run? b'.runId ≠ none → b = b') := by
  have hfresh : (servedTwo exampleRuntime).drawn.Nodup := by decide +kernel
  obtain ⟨honce, howner, -, -, -, -, hids⟩ :=
    one_run_one_owner exampleRuntime (servedTwo_reached exampleRuntime)
  refine ⟨by decide +kernel, honce, fun r hr => ?_, (hids hfresh).2⟩
  obtain ⟨b, hcreated, hbound, hid, -⟩ := howner r hr
  exact ⟨b, hcreated, hbound, hid⟩

end Service
end CouncilLogic
