/-
# When a stage comes to its end

A stage calls its providers at the same time and records what comes of each call.  It owes
every one of them exactly one result and a closed record.  It pays when all that it is
answered can be written; one answer that cannot be written, such as a text with half of a
surrogate pair, a number of too many digits to be printed or a latency that is no 64-bit
integer, makes it raise, and the calls that were not recorded yet stay running.

The stage is `_run_parallel_stage` of `src/model_council/engine.py`.  Its settling loop owes a
result to every provider; what can prevent that is only what raises while an answer is written, in
`json.dumps`, in the encoding to UTF-8 or in SQLite.
-/

import CouncilLogic.Engine.Evaluation

namespace CouncilLogic

open Protocol

variable {rt : Runtime} {spec : RunSpec} {answers : StageAnswers} {eng : CouncilEngine}
  {args : StageArgs} {w w' : World}

/-- What a stage owes its providers: each has exactly one result, and no call of theirs is
left running. -/
structure StageResult.Settles (args : StageArgs) (st : Store) (x : StageResult) : Prop where
  results : x.providers.Perm (args.prompts.map Prod.fst)
  once : x.providers.Nodup
  closed : ∀ e ∈ args.prompts, ∀ r, st.slot args.stage e.1 = some r → r.state ≠ .running

/-- What is reported for every provider closes every record. -/
theorem Done.settles {strict : Prop} {x : StageResult} (hnd : (args.prompts.map Prod.fst).Nodup)
    (h : Done args strict (args.prompts.map Prod.fst) x [] w) : x.Settles args w.store := by
  have hperm := h.providers
  rw [List.append_nil] at hperm
  refine ⟨hperm, hperm.nodup_iff.2 hnd, fun e he r hr hrun => ?_⟩
  have hmem := hperm.mem_iff.2 (List.mem_map_of_mem he)
  rcases List.mem_append.1 hmem with hmem | hmem
  · obtain ⟨s, hs, hname⟩ := List.mem_map.1 hmem
    obtain ⟨⟨response, hsucc, -⟩, -⟩ := h.result.successes s hs
    obtain ⟨r', hr', hstate⟩ := Store.successful_eq_some.1 hsucc
    rw [hname, hr] at hr'
    cases hr'
    rw [hrun] at hstate
    cases hstate
  · obtain ⟨f, hf, hname⟩ := List.mem_map.1 hmem
    obtain ⟨error, herror⟩ := (h.result.failures f hf).closed r (hname ▸ hr)
    rw [hrun] at herror
    cases herror

/-- What SQLite can hold: it counts the calls of a row and numbers the events with integers of
64 bits. -/
structure Store.Held (st : Store) : Prop where
  calls : ∀ r ∈ st.invocations, Store.HoldsInteger r.callCount
  events : Store.HoldsInteger st.events.length

end CouncilLogic
