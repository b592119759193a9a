/-
# The thread pool

The pool moves one task at a time, in any order.  Its invariant says of every task what
the task itself assumes (`PoolBase`) and, while the main thread has not raised, that the
tasks are exactly the settled ones, those that may be asked for again and those still
open (`PoolResults`).  Every move takes one task closer to its end, and a pool in which
nothing can move has settled all its tasks, or has raised.

In `src/model_council/engine.py` this is the `with ThreadPoolExecutor(...)` block of
`_run_parallel_stage`.  That a move never leaves the pool without a possible move while a task is
open is what makes the fuel of `runPool` enough: every move lowers `Pool.left`, and no task needs
more than six.
-/

import CouncilLogic.Engine.TaskSpec

namespace CouncilLogic

open Protocol

variable {rt : Runtime} {spec : RunSpec} {w w' : World} {args : StageArgs} {st : Store}
  {tasks : List Task} {reserve : ℕ} {strict : Prop} {pool pool' : Pool}
  {before after : List (Task × TaskState)} {task : Task} {state state' : TaskState}

/-! ### The invariant -/

/-- The providers of tasks that are not settled. -/
def openProviders (tasks : List (Task × TaskState)) : List Str :=
  (tasks.filter fun t => 0 < t.2.movesLeft).map fun t => t.1.call.provider

/-- What is known of a task and its slot. -/
structure TaskOk (rt : Runtime) (spec : RunSpec) (args : StageArgs) (st : Store) (w : World)
    (task : Task) (state : TaskState) : Prop where
  ready : TaskReady rt spec args st w task
  slot : StateOk spec.config.policy args st w task state
  retries : RetriesOk args st w task

/-- What holds of a pool whatever has happened. -/
structure PoolBase (rt : Runtime) (spec : RunSpec) (args : StageArgs) (st : Store)
    (tasks : List Task) (reserve : ℕ) (pool : Pool) (w : World) : Prop where
  inv : Inv rt spec w
  tasks_eq : pool.tasks.map Prod.fst = tasks
  each : ∀ t ∈ pool.tasks, TaskOk rt spec args st w t.1 t.2
  budget : (w.store.countCalls : ℤ) + pool.tasks.countP (fun t => t.2.isQueued) + reserve ≤
    spec.config.policy.maxCalls

/-- What holds of a pool whose main thread has not raised. -/
structure PoolResults (spec : RunSpec) (args : StageArgs) (strict : Prop) (pool : Pool)
    (w : World) : Prop where
  providers : (pool.result.providers ++ pool.recoverable.map Recoverable.provider ++
    openProviders pool.tasks).Perm (pool.tasks.map fun t => t.1.call.provider)
  result : ResultOk args.stage strict w.store pool.result
  recoverable : ∀ r ∈ pool.recoverable, ∃ t ∈ pool.tasks,
    RecoverableOk spec.config.policy args w t.1 r

/-- The invariant of a pool. -/
structure PoolInv (rt : Runtime) (spec : RunSpec) (args : StageArgs) (st : Store)
    (tasks : List Task) (reserve : ℕ) (strict : Prop) (pool : Pool) (w : World) : Prop where
  base : PoolBase rt spec args st tasks reserve pool w
  results : pool.raised = none → PoolResults spec args strict pool w

/-- What a stage's pool is given. -/
structure PoolArgs (spec : RunSpec) (args : StageArgs) (tasks : List Task) (reserve : ℕ) :
    Prop where
  nodup : (tasks.map fun task => task.call.provider).Nodup
  reserve : ∀ task ∈ tasks, callReserve spec.config args.stage task.call.provider ≤ reserve

/-! ### One task moves -/

/-- The entry that is changed stands right after the first part of the list. -/
theorem modify_length {α : Type} (before after : List α) (a : α) (f : α → α) :
    (before ++ a :: after).modify before.length f = before ++ f a :: after := by
  induction before with
  | nil => rfl
  | cons b before ih => simp [ih]

/-- The list around an index. -/
theorem split_at {α : Type} {l : List α} {i : ℕ} {a : α} (h : l[i]? = some a) :
    ∃ before after, l = before ++ a :: after ∧ before.length = i := by
  obtain ⟨hi, rfl⟩ := List.getElem?_eq_some_iff.1 h
  refine ⟨l.take i, l.drop (i + 1), ?_, List.length_take_of_le hi.le⟩
  rw [List.cons_getElem_drop_succ, List.take_append_drop]

/-- A task that gets further keeps its place among the tasks. -/
theorem setState_tasks {i : ℕ} (state' : TaskState)
    (htasks : pool.tasks = before ++ (task, state) :: after)
    (hi : before.length = i) :
    (pool.setState i state').tasks = before ++ (task, state') :: after := by
  unfold Pool.setState
  dsimp only
  rw [htasks, ← hi, modify_length]

/-- The open providers of two lists of tasks are those of the one and then those of the other. -/
theorem openProviders_append (before after : List (Task × TaskState)) :
    openProviders (before ++ after) = openProviders before ++ openProviders after := by
  simp [openProviders]

/-- A task that has moves left is open. -/
theorem openProviders_open (h : 0 < state.movesLeft) (after : List (Task × TaskState)) :
    openProviders ((task, state) :: after) = task.call.provider :: openProviders after := by
  simp [openProviders, h]

/-- A task without moves left is not open. -/
theorem openProviders_settled (h : state.movesLeft = 0) (after : List (Task × TaskState)) :
    openProviders ((task, state) :: after) = openProviders after := by
  simp [openProviders, h]

section Move
variable (hargs : PoolArgs spec args tasks reserve)
  (htasks : pool.tasks = before ++ (task, state) :: after)
  (htasks' : pool'.tasks = before ++ (task, state') :: after)

include htasks in
/-- A task of the pool is one of the tasks that it was started with. -/
theorem PoolBase.mem (h : PoolBase rt spec args st tasks reserve pool w) : task ∈ tasks := by
  rw [← h.tasks_eq, htasks]
  simp

include hargs htasks in
/-- No other task has the same provider. -/
theorem PoolBase.others (h : PoolBase rt spec args st tasks reserve pool w)
    {t : Task × TaskState} (ht : t ∈ before ++ after) : t.1.call.provider ≠ task.call.provider := by
  have hnd := hargs.nodup
  rw [← h.tasks_eq, htasks] at hnd
  simp only [List.map_append, List.map_cons] at hnd
  have hnd' := List.nodup_middle.1 hnd
  rw [List.nodup_cons, ← List.map_append, ← List.map_append] at hnd'
  intro heq
  refine hnd'.1 ?_
  rw [← heq]
  exact List.mem_map_of_mem (List.mem_map_of_mem ht)

include hargs htasks in
/-- What a move may assume. -/
theorem PoolBase.pre (h : PoolBase rt spec args st tasks reserve pool w) :
    TaskPre rt spec args st w task state := by
  have hmem : (task, state) ∈ pool.tasks := by rw [htasks]; simp
  have ht := h.each _ hmem
  refine ⟨h.inv, ht.ready, ht.slot, ht.retries, ?_⟩
  have hbudget := h.budget
  have hreserve := hargs.reserve task (h.mem htasks)
  rw [htasks, List.countP_append, List.countP_cons] at hbudget
  by_cases hq : state.isQueued = true
  · simp only [hq, if_true] at hbudget ⊢
    push_cast at hbudget
    have : (0 : ℤ) ≤ before.countP (fun t => t.2.isQueued) := Int.natCast_nonneg _
    have : (0 : ℤ) ≤ after.countP (fun t => t.2.isQueued) := Int.natCast_nonneg _
    omega
  · simp only [hq, if_false, Bool.false_eq_true] at hbudget ⊢
    push_cast at hbudget
    omega

include hargs htasks htasks' in
/-- **A move of one task** leaves what is known of all others. -/
theorem PoolBase.move (h : PoolBase rt spec args st tasks reserve pool w)
    (hinv : Inv rt spec w') (hk : StageKeeps args.stage [task.call.provider] w w')
    (hslot : StateOk spec.config.policy args st w' task state')
    (hretries : RetriesOk args st w' task)
    (hcalls : w'.store.countCalls ≤ w.store.countCalls + if state.isQueued then 1 else 0)
    (hqueued : state'.isQueued = false) :
    PoolBase rt spec args st tasks reserve pool' w' where
  inv := hinv
  tasks_eq := by
    rw [htasks', ← h.tasks_eq, htasks]
    simp
  each t ht := by
    rw [htasks', List.mem_append, List.mem_cons] at ht
    have hother : ∀ t ∈ before ++ after, TaskOk rt spec args st w' t.1 t.2 := by
      intro t ht
      have hok := h.each t (by
        rw [htasks]
        simp only [List.mem_append, List.mem_cons] at ht ⊢
        exact ht.imp_right .inr)
      have hne : t.1.call.provider ∉ [task.call.provider] := by
        rw [List.mem_singleton]
        exact h.others hargs htasks ht
      exact ⟨hok.ready.keeps h.inv hk, hok.slot.keeps hk hne, hok.retries.keeps hk hne⟩
    rcases ht with ht | rfl | ht
    · exact hother t (List.mem_append_left _ ht)
    · have hok := h.each (task, state) (by rw [htasks]; simp)
      exact ⟨hok.ready.keeps h.inv hk, hslot, hretries⟩
    · exact hother t (List.mem_append_right _ ht)
  budget := by
    have hbudget := h.budget
    rw [htasks, List.countP_append, List.countP_cons] at hbudget
    rw [htasks', List.countP_append, List.countP_cons]
    simp only [hqueued, if_false, Bool.false_eq_true]
    by_cases hq : state.isQueued = true
    · simp only [hq, if_true] at hbudget hcalls
      push_cast at hbudget ⊢
      omega
    · simp only [hq, if_false, Bool.false_eq_true] at hbudget hcalls
      push_cast at hbudget ⊢
      omega

/-- The move takes the pool closer to its end. -/
def Pool.left (pool : Pool) : ℕ := (pool.tasks.map fun t => t.2.movesLeft).sum

include htasks htasks' in
/-- A move that brings its task closer to its end brings the pool closer to its end, since the
other tasks stay where they are. -/
theorem Pool.left_lt (hlt : state'.movesLeft < state.movesLeft) : pool'.left < pool.left := by
  unfold Pool.left
  rw [htasks, htasks']
  simp only [List.map_append, List.map_cons, List.sum_append, List.sum_cons]
  omega

section Results
variable (hbase : PoolBase rt spec args st tasks reserve pool w)
include hargs htasks hbase

/-- An open task has no result yet. -/
theorem PoolResults.fresh (h : PoolResults spec args strict pool w)
    (hopen : 0 < state.movesLeft) :
    task.call.provider ∉ pool.result.providers ∧
      task.call.provider ∉ pool.recoverable.map Recoverable.provider := by
  have hnd : (pool.tasks.map fun t => t.1.call.provider).Nodup := by
    have := hargs.nodup
    rw [← hbase.tasks_eq, List.map_map] at this
    exact this
  have hnd' := h.providers.nodup_iff.2 hnd
  rw [List.nodup_append, List.nodup_append] at hnd'
  obtain ⟨-, -, hdisj⟩ := hnd'
  have hmem : task.call.provider ∈ openProviders pool.tasks := by
    rw [htasks, openProviders_append, openProviders_open hopen]
    simp
  exact ⟨fun hr => hdisj _ (List.mem_append_left _ hr) _ hmem rfl,
    fun hr => hdisj _ (List.mem_append_right _ hr) _ hmem rfl⟩

/-- What has been settled stays while an open task moves. -/
theorem PoolResults.kept (h : PoolResults spec args strict pool w)
    (hopen : 0 < state.movesLeft) (hk : StageKeeps args.stage [task.call.provider] w w') :
    ResultOk args.stage strict w'.store pool.result ∧
      ∀ r ∈ pool.recoverable, ∃ t ∈ before ++ (task, state') :: after,
        RecoverableOk spec.config.policy args w' t.1 r := by
  obtain ⟨hresult, hrec⟩ := h.fresh hargs htasks hbase hopen
  refine ⟨h.result.keeps hk fun f hf hn => hresult ?_, fun r hr => ?_⟩
  · rw [List.mem_singleton] at hn
    rw [← hn]
    exact List.mem_append_right _ (List.mem_map_of_mem hf)
  · obtain ⟨t, ht, hok⟩ := h.recoverable r hr
    have hne : r.provider ∉ [task.call.provider] := by
      rw [List.mem_singleton]
      rintro heq
      exact hrec (heq ▸ List.mem_map_of_mem hr)
    have ht' : t ∈ before ++ (task, state') :: after := by
      rw [htasks, List.mem_append, List.mem_cons] at ht
      rw [List.mem_append, List.mem_cons]
      rcases ht with ht | rfl | ht
      · exact .inl ht
      · exact absurd (by rw [hok.provider]; simp) hne
      · exact .inr (.inr ht)
    refine ⟨t, ht', hok.provider, hok.prompts, ?_, ?_, hok.limit, ?_, hok.allowed⟩
    · rw [hk.slots _ _ (.inr hne)]
      exact hok.failed
    · rw [hk.slots _ _ (.inr hne)]
      exact hok.truncated
    · exact (Int.ofNat_le.2 (hk.retries _ _ (.inr hne))).trans_lt hok.retries

include htasks'

/-- A worker's move. -/
theorem PoolResults.worker (h : PoolResults spec args strict pool w)
    (hopen : 0 < state.movesLeft) (hopen' : 0 < state'.movesLeft)
    (hk : StageKeeps args.stage [task.call.provider] w w') (hr : pool'.result = pool.result)
    (hrec : pool'.recoverable = pool.recoverable) : PoolResults spec args strict pool' w' := by
  obtain ⟨hresult, hrecoverable⟩ := h.kept hargs htasks hbase hopen hk
  refine ⟨?_, by rw [hr]; exact hresult, by rw [hrec, htasks']; exact hrecoverable⟩
  have hp := h.providers
  rw [htasks, openProviders_append, openProviders_open hopen] at hp
  rw [hr, hrec, htasks', openProviders_append, openProviders_open hopen']
  simpa using hp

/-- The main thread settles a task, with a result or as recoverable. -/
theorem PoolResults.settle (h : PoolResults spec args strict pool w)
    (hopen : 0 < state.movesLeft) (hsettled : state'.movesLeft = 0)
    (hk : StageKeeps args.stage [task.call.provider] w w') {more : StageResult}
    {moreRecoverable : List Recoverable} (hr : pool'.result = pool.result.append more)
    (hrec : pool'.recoverable = pool.recoverable ++ moreRecoverable)
    (hmore : more.providers ++ moreRecoverable.map Recoverable.provider = [task.call.provider])
    (hok : ResultOk args.stage strict w'.store more)
    (hrok : ∀ r ∈ moreRecoverable, RecoverableOk spec.config.policy args w' task r) :
    PoolResults spec args strict pool' w' := by
  obtain ⟨hresult, hrecoverable⟩ := h.kept hargs htasks hbase hopen hk
  refine ⟨?_, by rw [hr]; exact hresult.append hok, ?_⟩
  · have hp := h.providers
    rw [htasks, openProviders_append, openProviders_open hopen] at hp
    rw [hr, hrec, htasks', openProviders_append, openProviders_settled hsettled, List.map_append]
    refine .trans ?_ (hp.trans (by simp))
    refine .trans (.append_right _ (.append_right _ (StageResult.providers_append _ _))) ?_
    rw [List.perm_iff_count]
    intro a
    have hcount := congrArg (List.count a) hmore
    simp only [List.count_append, List.count_cons, List.count_nil] at hcount ⊢
    omega
  · rw [hrec, htasks']
    intro r hr
    rcases List.mem_append.1 hr with hr | hr
    · exact hrecoverable r hr
    · exact ⟨(task, state'), by simp, hrok r hr⟩

end Results
end Move

/-! ### Moves -/

/-- **A task has six moves at most**: it is started, admitted, dispatched, answered, and then
settled in one transaction or two. -/
theorem movesLeft_le (state : TaskState) : state.movesLeft ≤ 6 := by
  cases state <;> simp [TaskState.movesLeft]

/-- A task that has moved is no longer queued. -/
theorem isQueued_of_lt (h : state.movesLeft < 6) : state.isQueued = false := by
  cases state <;> simp_all [TaskState.movesLeft, TaskState.isQueued]

/-- The end of a move: the invariant holds, and the pool is closer to its end. -/
def Advanced (rt : Runtime) (spec : RunSpec) (args : StageArgs) (st : Store)
    (tasks : List Task) (reserve : ℕ) (strict : Prop) (pool pool' : Pool) (w' : World) : Prop :=
  PoolInv rt spec args st tasks reserve strict pool' w' ∧ pool'.left < pool.left

/-- How many moves a task that was settled has left. -/
def Settlement.movesLeft : Settlement → ℕ
  | .success _ | .failure _ => 0
  | .preserved .. => 1

section Step
variable {i : ℕ} (hargs : PoolArgs spec args tasks reserve)
  (htasks : pool.tasks = before ++ (task, state) :: after) (hi : before.length = i)
  (h : PoolInv rt spec args st tasks reserve strict pool w)
include htasks h

include hargs hi

/-- A worker has moved. -/
theorem PoolInv.worker (hopen : 0 < state.movesLeft)
    (hk : Inv rt spec w' ∧ StageKeeps args.stage [task.call.provider] w w')
    (hm : Moved spec.config.policy args st task state w state' w') :
    Advanced rt spec args st tasks reserve strict pool (pool.setState i state') w' := by
  have htasks' := setState_tasks state' htasks hi
  have hq := isQueued_of_lt (hm.left.2.trans_le (movesLeft_le state))
  exact ⟨⟨h.base.move hargs htasks htasks' hk.1 hk.2 hm.slot hm.retries hm.calls hq,
    fun hr => (h.results hr).worker hargs htasks htasks' h.base hopen hm.left.1 hk.2 rfl rfl⟩,
    Pool.left_lt htasks htasks' hm.left.2⟩

/-- The main thread has raised. -/
theorem PoolInv.fail (hopen : 0 < state.movesLeft)
    (hk : Inv rt spec w' ∧ StageKeeps args.stage [task.call.provider] w w')
    (hst : w'.store = w.store) (e : PyErr) :
    Advanced rt spec args st tasks reserve strict pool (pool.fail i e) w' := by
  have htasks' : (pool.fail i e).tasks = before ++ (task, .settled) :: after :=
    setState_tasks _ htasks hi
  have hretries : RetriesOk args st w' task := by
    have := (h.base.pre hargs htasks).retries
    unfold RetriesOk at this ⊢
    rwa [hst]
  refine ⟨⟨h.base.move hargs htasks htasks' hk.1 hk.2 trivial hretries ?_ rfl, fun hr => ?_⟩,
    Pool.left_lt htasks htasks' hopen⟩
  · rw [hst]
    exact Nat.le_add_right _ _
  · cases hr

/-- The main thread has settled a task. -/
theorem PoolInv.settle
    (hk : Inv rt spec w' ∧ StageKeeps args.stage [task.call.provider] w w')
    {settlement : Settlement} (hlt : settlement.movesLeft < state.movesLeft)
    (hs : Settles spec.config.policy args strict st task w settlement w') :
    Advanced rt spec args st tasks reserve strict pool
      (pool.settle i task.call.provider settlement) w' := by
  have hcalls : w'.store.countCalls ≤ w.store.countCalls + if state.isQueued then 1 else 0 :=
    hs.calls.trans (Nat.le_add_right _ _)
  have hopen : 0 < state.movesLeft := (Nat.zero_le _).trans_lt hlt
  cases settlement with
  | success response =>
    have htasks' : (pool.settle i task.call.provider (.success response)).tasks =
        before ++ (task, .settled) :: after := setState_tasks _ htasks hi
    refine ⟨⟨h.base.move hargs htasks htasks' hk.1 hk.2 trivial hs.retries hcalls rfl,
      fun hr => (h.results hr).settle hargs htasks htasks' h.base hopen rfl hk.2 rfl
        (List.append_nil _).symm rfl ⟨?_, by simp⟩ (by simp)⟩, Pool.left_lt htasks htasks' hopen⟩
    rw [List.forall_mem_singleton]
    exact hs.ok
  | failure error =>
    have htasks' : (pool.settle i task.call.provider (.failure error)).tasks =
        before ++ (task, .settled) :: after := setState_tasks _ htasks hi
    refine ⟨⟨h.base.move hargs htasks htasks' hk.1 hk.2 trivial hs.retries hcalls rfl,
      fun hr => (h.results hr).settle hargs htasks htasks' h.base hopen rfl hk.2 rfl
        (List.append_nil _).symm rfl ⟨by simp, ?_⟩ (by simp)⟩, Pool.left_lt htasks htasks' hopen⟩
    rw [List.forall_mem_singleton]
    exact hs.ok
  | preserved id response error recover =>
    have htasks' : (pool.settle i task.call.provider (.preserved id response error recover)).tasks =
        before ++ (task, .preserved id response error recover) :: after :=
      setState_tasks _ htasks hi
    exact ⟨⟨h.base.move hargs htasks htasks' hk.1 hk.2 hs.ok hs.retries hcalls rfl,
      fun hr => (h.results hr).worker hargs htasks htasks' h.base hopen
        (by simp [TaskState.movesLeft]) hk.2 rfl rfl⟩, Pool.left_lt htasks htasks' hlt⟩

/-- A response that may be asked for again has been failed. -/
theorem PoolInv.recover (hopen : 0 < state.movesLeft)
    (hk : Inv rt spec w' ∧ StageKeeps args.stage [task.call.provider] w w')
    {error : ProviderError} {r : Recoverable}
    (hf : Failed spec.config.policy args strict st task true error w r w') :
    Advanced rt spec args st tasks reserve strict pool
      { pool.setState i .settled with recoverable := pool.recoverable ++ [r] } w' := by
  have htasks' : ({ pool.setState i .settled with
      recoverable := pool.recoverable ++ [r] } : Pool).tasks =
      before ++ (task, .settled) :: after := setState_tasks _ htasks hi
  have hr := hf.recoverable rfl
  have happend : pool.result.append {} = pool.result := by simp [StageResult.append]
  refine ⟨⟨h.base.move hargs htasks htasks' hk.1 hk.2 trivial hf.settles.retries
    (hf.settles.calls.trans (Nat.le_add_right _ _)) rfl, fun hraised =>
      (h.results hraised).settle hargs htasks htasks' h.base hopen rfl hk.2 happend.symm rfl ?_
        .empty (by simpa using hr)⟩, Pool.left_lt htasks htasks' hopen⟩
  simp [StageResult.providers, hr.provider]

end Step

/-- **A move of the pool** keeps its invariant and takes it closer to its end; it is over
the slot of one task. -/
theorem movePool_spec {eng : CouncilEngine} (heng : eng.toRunConfig = spec.config)
    (hargs : PoolArgs spec args tasks reserve)
    (h : PoolInv rt spec args st tasks reserve strict pool w) {i : ℕ}
    (hi : pool.tasks[i]? = some (task, state)) (hopen : 0 < state.movesLeft) :
    Prog.wp (stageRules rt spec args.stage [task.call.provider])
      (fun pool' w' => Advanced rt spec args st tasks reserve strict pool pool' w')
      (fun _ _ => False) (movePool rt eng args st pool i) w := by
  obtain ⟨before, after, htasks, hlen⟩ := split_at hi
  have hpre := h.base.pre hargs htasks
  -- a worker's move, whatever it is
  have hworker : ∀ {p : M TaskState},
      Prog.wp (stageRules rt spec args.stage [task.call.provider])
        (fun state' w' => Moved spec.config.policy args st task state w state' w')
        (fun _ _ => False) p w →
      Prog.wp (stageRules rt spec args.stage [task.call.provider])
        (fun pool' w' => Advanced rt spec args st tasks reserve strict pool pool' w')
        (fun _ _ => False) (p >>= fun state' => pure (pool.setState i state')) w := fun hp =>
    Prog.wp_seq (Prog.wp_mono (fun _ _ h => h) (fun _ _ h => h.2) (wp_frame h.base.inv hp))
      fun _ _ hm => h.worker hargs htasks hlen hopen hm.1 hm.2
  unfold movePool
  simp only [hi]
  cases state with
  | queued =>
    dsimp only
    rw [heng]
    exact hworker (startTask_spec hpre)
  | started id attempt => exact hworker (reserveTask_spec hpre)
  | admitted id attempt lease => exact hworker (dispatchTask_spec hpre)
  | calling id attempt lease => exact hworker (returnTask_spec hpre)
  | finished outcome =>
    cases outcome with
    | error e =>
      exact h.fail hargs htasks hlen hopen ⟨h.base.inv, .refl h.base.inv.wellFormed⟩ rfl e
    | ok o =>
      dsimp only
      have hsettle : Prog.wp (stageRules rt spec args.stage [task.call.provider])
          (fun s w' => Settles spec.config.policy args strict st task w s w')
          (fun _ w' => w'.store = w.store)
          (if o.dispatched then settleDispatched rt eng.policy args st task o
            else settleUndispatched rt task o) w := by
        by_cases hd : o.dispatched = true
        · rw [if_pos hd, heng]
          exact settleDispatched_spec hpre hd
        · rw [if_neg hd]
          exact settleUndispatched_spec hpre (by simpa using hd)
      rw [Prog.wp_bind, Prog.wp_catching]
      refine Prog.wp_mono (fun s w' hs => ?_) (fun e w' he => ?_) (wp_frame h.base.inv hsettle)
      · refine h.settle hargs htasks hlen hs.1 ?_ hs.2
        cases s <;> simp [Settlement.movesLeft, TaskState.movesLeft]
      · exact h.fail hargs htasks hlen hopen he.1 he.2 e
  | preserved id response error recover =>
    dsimp only
    have hfail : Prog.wp (stageRules rt spec args.stage [task.call.provider])
        (fun r w' => Failed spec.config.policy args strict st task recover error w r w')
        (fun _ w' => w'.store = w.store) (failPreserved rt task id response error) w :=
      failPreserved_spec hpre
    rw [Prog.wp_bind, Prog.wp_catching]
    refine Prog.wp_mono (fun r w' hr => ?_) (fun e w' he => ?_) (wp_frame h.base.inv hfail)
    · cases recover with
      | true => exact h.recover hargs htasks hlen hopen hr.1 hr.2
      | false => exact h.settle hargs htasks hlen hr.1 (by exact hopen) hr.2.settles
    · exact h.fail hargs htasks hlen hopen he.1 he.2 e
  | settled => simp [TaskState.movesLeft] at hopen

/-! ### Until nothing moves -/

/-- Whether a task may move depends on its state and on the workers that are free. -/
theorem canMove_eq {maxWorkers i : ℕ} (hi : pool.tasks[i]? = some (task, state)) :
    pool.canMove maxWorkers i = pool.mayMove maxWorkers i state := by
  unfold Pool.canMove
  rw [hi]
  rfl

/-- What can move is an open task. -/
theorem open_of_mem_moves {maxWorkers i : ℕ} (h : i ∈ pool.moves maxWorkers) :
    ∃ task state, pool.tasks[i]? = some (task, state) ∧ 0 < state.movesLeft := by
  obtain ⟨hi, hmove⟩ := List.mem_filter.1 h
  obtain ⟨⟨task, state⟩, hget⟩ : ∃ t, pool.tasks[i]? = some t :=
    ⟨_, List.getElem?_eq_getElem (List.mem_range.1 hi)⟩
  rw [canMove_eq hget] at hmove
  refine ⟨task, state, hget, Nat.pos_of_ne_zero fun hzero => ?_⟩
  cases state <;> simp_all [TaskState.movesLeft, Pool.mayMove]

/-- The first queued task. -/
theorem exists_first {l : List (Task × TaskState)} {t : Task × TaskState} (ht : t ∈ l)
    (hq : t.2.isQueued = true) : ∃ first before after, l = before ++ first :: after ∧
      first.2.isQueued = true ∧ ∀ b ∈ before, b.2.isQueued = false := by
  induction l with
  | nil => simp at ht
  | cons a l ih =>
    by_cases ha : a.2.isQueued = true
    · exact ⟨a, [], l, rfl, ha, by simp⟩
    · have hl : t ∈ l := (List.mem_cons.1 ht).resolve_left fun heq => ha (heq ▸ hq)
      obtain ⟨first, before, after, rfl, hfirst, hbefore⟩ := ih hl
      exact ⟨first, a :: before, after, rfl, hfirst,
        List.forall_mem_cons.2 ⟨by simpa using ha, hbefore⟩⟩

/-- **No deadlock**: a pool in which nothing can move has settled its tasks, or has
raised. -/
theorem settled_of_moves_nil {maxWorkers : ℕ} (hpos : 0 < maxWorkers)
    (hmoves : pool.moves maxWorkers = []) (hraised : pool.raised = none) :
    ∀ t ∈ pool.tasks, t.2.movesLeft = 0 := by
  have hnot : ∀ {i : ℕ} {task : Task} {state : TaskState},
      pool.tasks[i]? = some (task, state) → pool.canMove maxWorkers i = false := by
    intro i task state hi
    have := List.filter_eq_nil_iff.1 hmoves i
      (List.mem_range.2 (List.getElem?_eq_some_iff.1 hi).1)
    simpa using this
  have hpreserved : ∀ t ∈ pool.tasks, t.2.isPreserved = false := by
    rintro ⟨task, state⟩ ht
    obtain ⟨i, hi⟩ := List.getElem?_of_mem ht
    have := hnot hi
    rw [canMove_eq hi] at this
    cases state <;> simp_all [TaskState.isPreserved, Pool.mayMove]
  have hactive : ∀ t ∈ pool.tasks, t.2.isActive = false := by
    rintro ⟨task, state⟩ ht
    obtain ⟨i, hi⟩ := List.getElem?_of_mem ht
    have := hnot hi
    rw [canMove_eq hi] at this
    cases state <;> simp_all [TaskState.isActive, Pool.mayMove]
  have hcount : pool.tasks.countP (fun t => t.2.isActive) = 0 :=
    List.countP_eq_zero.2 fun t ht => by simp [hactive t ht]
  have hqueued : ∀ t ∈ pool.tasks, t.2.isQueued = false := by
    intro t ht
    by_contra hq
    rw [Bool.not_eq_false] at hq
    -- the first queued task can start
    obtain ⟨first, before, after, htasks, hfirst, hbefore⟩ := exists_first ht hq
    have hget : pool.tasks[before.length]? = some first := by simp [htasks]
    have hno := hnot hget
    have htake : pool.tasks.take before.length = before := by simp [htasks]
    rw [canMove_eq hget] at hno
    obtain ⟨task, state⟩ := first
    cases state with
    | queued =>
      simp only [Pool.mayMove, htake, hcount, hpos, decide_true, Bool.and_true] at hno
      rw [List.all_eq_false] at hno
      obtain ⟨b, hb, hbq⟩ := hno
      simp [hbefore b hb] at hbq
    | started id attempt => cases hfirst
    | admitted id attempt lease => cases hfirst
    | calling id attempt lease => cases hfirst
    | finished outcome => cases hfirst
    | preserved id response error recover => cases hfirst
    | settled => cases hfirst
  rintro ⟨task, state⟩ ht
  obtain ⟨i, hi⟩ := List.getElem?_of_mem ht
  have hno := hnot hi
  rw [canMove_eq hi] at hno
  have h₁ := hpreserved _ ht
  have h₂ := hactive _ ht
  have h₃ := hqueued _ ht
  cases state with
  | settled => rfl
  | queued => cases h₃
  | started id attempt => cases h₂
  | admitted id attempt lease => cases h₂
  | calling id attempt lease => cases h₂
  | preserved id response error recover => cases h₁
  | finished outcome =>
    have hany : (pool.tasks.any fun t => t.2.isPreserved) = false := by
      rw [List.any_eq_false]
      intro t ht
      simp [hpreserved t ht]
    simp [Pool.mayMove, hraised, hany] at hno

/-- Nothing is open when no task has moves left. -/
theorem openProviders_eq_nil {tasks : List (Task × TaskState)}
    (h : ∀ t ∈ tasks, t.2.movesLeft = 0) : openProviders tasks = [] := by
  unfold openProviders
  rw [List.map_eq_nil_iff, List.filter_eq_nil_iff]
  intro t ht
  simp [h t ht]

/-- **A run of the pool** ends with all tasks settled, or with an exception. -/
theorem runPool_spec {eng : CouncilEngine} (heng : eng.toRunConfig = spec.config)
    (hargs : PoolArgs spec args tasks reserve) {maxWorkers : ℕ} (hpos : 0 < maxWorkers)
    (fuel : ℕ) : ∀ pool w, PoolInv rt spec args st tasks reserve strict pool w →
      pool.left ≤ fuel →
      Prog.wp (stageRules rt spec args.stage (tasks.map fun task => task.call.provider))
        (fun pool' w' => PoolInv rt spec args st tasks reserve strict pool' w' ∧
          (pool'.raised = none → openProviders pool'.tasks = []))
        (fun _ _ => False) (runPool rt eng args st maxWorkers fuel pool) w := by
  induction fuel with
  | zero =>
    intro pool w h hleft
    refine ⟨h, fun _ => openProviders_eq_nil fun t ht => ?_⟩
    have := List.sum_eq_zero_iff.1 (Nat.le_zero.1 hleft) _
      (List.mem_map_of_mem (f := fun t => t.2.movesLeft) ht)
    exact this
  | succ fuel ih =>
    intro pool w h hleft
    unfold runPool
    cases hmoves : pool.moves maxWorkers with
    | nil => exact ⟨h, fun hr => openProviders_eq_nil (settled_of_moves_nil hpos hmoves hr)⟩
    | cons move moves =>
      refine fun (k : ℕ) _ => ?_
      change Prog.wp _ _ _ (movePool rt eng args st pool ((move :: moves).getD
        (k % (moves.length + 1)) move) >>= fun pool =>
          runPool rt eng args st maxWorkers fuel pool) w
      have hmem : (move :: moves).getD (k % (moves.length + 1)) move ∈ pool.moves maxWorkers := by
        rw [hmoves, List.getD_eq_getElem?_getD, List.getElem?_eq_getElem (by
          rw [List.length_cons]
          exact Nat.mod_lt _ (Nat.succ_pos _))]
        exact List.getElem_mem _
      obtain ⟨task, state, hi, hopen⟩ := open_of_mem_moves hmem
      have hname : [task.call.provider] ⊆ tasks.map fun task => task.call.provider := by
        simp only [List.cons_subset, List.nil_subset, and_true]
        rw [← h.base.tasks_eq]
        exact List.mem_map_of_mem (List.mem_map_of_mem (List.mem_of_getElem? hi))
      refine Prog.wp_seq (wp_names hname (movePool_spec heng hargs h hi hopen)) ?_
      intro pool' w' hadv
      exact ih pool' w' hadv.1 (by
        have := hadv.2
        omega)

/-! ### The executor -/

/-- Work that is admitted: `st` is the store at the entry of the stage. -/
structure Admitted (rt : Runtime) (spec : RunSpec) (args : StageArgs) (st : Store) (w : World)
    (e : Str × PromptPair) : Prop where
  work : WorkSlot spec.config.policy args st e.1
  limit : LimitOk spec.config st ⟨args.stage, args.providerStage, e.1, e.2,
    outputLimitOf spec.config args (st.slot args.stage e.1) e.1⟩
  settings : args.providerStage = args.stage.providerStage
  repair : args.stage = .juryRepair → args.retryFailedInvocations = false
  same : SameSlots st w.store e.1
  known : e.1 ∈ spec.config.names
  prompts : w.store.expectedPrompts rt spec args.stage e.1 = some e.2
  phase : w.store.InPhase rt spec args.stage e.1

/-- What is known of a recoverable response when its stage has ended. -/
structure MayRetry (config : RunConfig) (args : StageArgs) (w : World)
    (allowed : List (Str × PromptPair)) (r : Recoverable) : Prop where
  admitted : (r.provider, r.prompts) ∈ allowed
  failed : ∃ row e, w.store.slot args.stage r.provider = some row ∧ row.state = .failed e ∧
    completionError r.response = some e
  truncated : isLengthFailure (w.store.slot args.stage r.provider) = true
  limit : r.outputLimit = configuredLimit config args r.provider
  retries : w.store.truncationRetryCount args.stage r.provider < config.policy.truncationRetries
  allowed : args.allowTruncationRecovery = true

/-- What the executor returns. -/
structure Executed (spec : RunSpec) (args : StageArgs) (strict : Prop)
    (allowed : List (Str × PromptPair)) (result : StageResult) (recoverable : List Recoverable)
    (w : World) : Prop where
  providers : (result.providers ++ recoverable.map Recoverable.provider).Perm
    (allowed.map Prod.fst)
  result : ResultOk args.stage strict w.store result
  recoverable : ∀ r ∈ recoverable, MayRetry spec.config args w allowed r

/-- There is one task for each admitted slot, in the order of the slots. -/
theorem tasksOf_provider (config : RunConfig) (args : StageArgs) (st : Store)
    (allowed : List (Str × PromptPair)) :
    ((tasksOf config args st allowed).map fun task => task.call.provider) =
      allowed.map Prod.fst := by
  simp [tasksOf]

/-- The pool the executor starts with. -/
theorem poolInv_start (hinv : Inv rt spec w) {allowed : List (Str × PromptPair)}
    (hadm : ∀ e ∈ allowed, Admitted rt spec args st w e)
    (hbudget : (w.store.countCalls : ℤ) + allowed.length + reserve ≤
      spec.config.policy.maxCalls) :
    PoolInv rt spec args st (tasksOf spec.config args st allowed) reserve strict
      { tasks := (tasksOf spec.config args st allowed).map fun task => (task, .queued) } w where
  base := {
    inv := hinv
    tasks_eq := by
      rw [List.map_map]
      exact List.map_id _
    each := by
      intro t ht
      obtain ⟨task, htask, rfl⟩ := List.mem_map.1 ht
      obtain ⟨e, he, rfl⟩ := List.mem_map.1 htask
      have h := hadm e he
      exact ⟨⟨rfl, rfl, h.work, h.limit, h.settings, h.repair, h.known, h.prompts, h.phase,
        fun s _ => h.same.slot s⟩, ⟨h.same.slot _, h.same.retries _⟩, fun _ => h.same.retries _⟩
    budget := by
      have hcount : ((tasksOf spec.config args st allowed).map fun task =>
          (task, TaskState.queued)).countP (fun t => t.2.isQueued) = allowed.length := by
        rw [List.countP_eq_length.2]
        · simp [tasksOf]
        · intro t ht
          obtain ⟨task, -, rfl⟩ := List.mem_map.1 ht
          rfl
      rw [hcount]
      exact hbudget }
  results _ := {
    providers := by
      have hopen : openProviders ((tasksOf spec.config args st allowed).map fun task =>
          (task, TaskState.queued)) =
          ((tasksOf spec.config args st allowed).map fun task =>
            (task, TaskState.queued)).map fun t => t.1.call.provider := by
        unfold openProviders
        rw [List.filter_eq_self.2]
        intro t ht
        obtain ⟨task, -, rfl⟩ := List.mem_map.1 ht
        simp [TaskState.movesLeft]
      rw [hopen]
      exact List.Perm.refl _
    result := .empty
    recoverable := by simp }

/-- **The executor** settles all admitted calls, or raises. -/
theorem executeCalls_spec {eng : CouncilEngine} (heng : eng.toRunConfig = spec.config)
    (strict : Prop) (hinv : Inv rt spec w) {allowed : List (Str × PromptPair)}
    (hnd : (allowed.map Prod.fst).Nodup) (hadm : ∀ e ∈ allowed, Admitted rt spec args st w e)
    (hreserve : ∀ e ∈ allowed, callReserve spec.config args.stage e.1 ≤ reserve)
    (hbudget : (w.store.countCalls : ℤ) + allowed.length + reserve ≤
      spec.config.policy.maxCalls) :
    Prog.wp (stageRules rt spec args.stage (allowed.map Prod.fst))
      (fun x w' => Executed spec args strict allowed x.1 x.2 w')
      (fun _ _ => True) (executeCalls rt eng args st allowed) w := by
  have hargs : PoolArgs spec args (tasksOf spec.config args st allowed) reserve := by
    refine ⟨by rw [tasksOf_provider]; exact hnd, fun task htask => ?_⟩
    obtain ⟨e, he, rfl⟩ := List.mem_map.1 htask
    exact hreserve e he
  unfold executeCalls
  rw [heng]
  dsimp only
  by_cases hworkers : min spec.config.policy.maxParallelCalls
      ((tasksOf spec.config args st allowed).length : ℤ) ≤ 0
  · rw [if_pos hworkers]
    trivial
  rw [if_neg hworkers]
  have hleft : ({ tasks := (tasksOf spec.config args st allowed).map fun task =>
      (task, TaskState.queued) } : Pool).left ≤
      6 * (tasksOf spec.config args st allowed).length := by
    simp [Pool.left, TaskState.movesLeft, Function.comp_def, Nat.mul_comm]
  have hpos : 0 < (min spec.config.policy.maxParallelCalls
      ((tasksOf spec.config args st allowed).length : ℤ)).toNat := by omega
  have hstart : PoolInv rt spec args st (tasksOf spec.config args st allowed) reserve strict _ w :=
    poolInv_start hinv hadm hbudget
  have hrun := runPool_spec heng hargs hpos _ _ w hstart hleft
  rw [tasksOf_provider] at hrun
  refine Prog.wp_seq (Prog.wp_mono (fun _ _ h => h) (fun _ _ _ => trivial) hrun) ?_
  rintro pool w' ⟨h, hdone⟩
  cases hraised : pool.raised with
  | some e => trivial
  | none =>
    have hres := h.results hraised
    have hproviders := hres.providers
    have htasks : (pool.tasks.map fun t => t.1.call.provider) = allowed.map Prod.fst := by
      rw [← tasksOf_provider spec.config args st, ← h.base.tasks_eq, List.map_map]
      rfl
    rw [hdone hraised, List.append_nil, htasks] at hproviders
    refine ⟨hproviders, hres.result, fun r hr => ?_⟩
    obtain ⟨t, ht, hok⟩ := hres.recoverable r hr
    have hmem : t.1 ∈ tasksOf spec.config args st allowed := by
      rw [← h.base.tasks_eq]
      exact List.mem_map_of_mem ht
    obtain ⟨e, he, heq⟩ := List.mem_map.1 hmem
    refine ⟨?_, hok.failed, hok.truncated, ?_, hok.retries, hok.allowed⟩
    · rw [hok.provider, hok.prompts, ← heq]
      exact he
    · -- a slot that had not been truncated before was called with the configured limit
      obtain ⟨hlimit, hprior⟩ := hok.limit
      have hready := (h.base.each t ht).ready
      rw [hlimit, hok.provider]
      rcases hready.limit with hstage | ⟨hlen, -⟩
      · rw [hstage]
        unfold stageLimit configuredLimit
        rw [← heq]
      · rw [hready.prior, ← hready.stage, hlen] at hprior
        cases hprior

end CouncilLogic
