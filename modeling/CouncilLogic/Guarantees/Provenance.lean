/-
# Paid work has a human's approval

However the programs on a data directory interleave, and wherever each of them stops, an
approval is consumed at most once and attached to one run at most, the work on a run of paid
providers is begun or taken up again only when an approval is attached to it that a human gave,
at a terminal, for a plan of the run's own request, and a request of an agent is answered with
one run.

The programs are the commands of `src/model_council/cli.py` and the requests of
`src/model_council/agent.py`; the rules they have to keep are those of `docs/AGENT-INTERFACE.md`.
The assumptions are that digests do not collide and that no two approvals carry the same token.
-/

import CouncilLogic.Agent.ProgramLaws
import CouncilLogic.Engine.Follow
import CouncilLogic.Guarantees.ApprovalTokens
import CouncilLogic.Guarantees.Configuration

namespace CouncilLogic
namespace Agent

open Client
open Columns (Stamp)

variable {K : Type} {pf : Platform K} {v : Vault K} {cs : List (Program K Answer)}
  {x y : Vault K × List (Program K Answer)} {tokenSha256 : Str} {a : ApprovalRow}

/-! ### A life -/

/-- A digest of sixty-four hexadecimal digits. -/
def exampleDigest : Str := List.replicate 64 97

def examplePlatform : Platform ℕ where
  toRuntime := { exampleRuntime with sha256 := fun _ => exampleDigest }
  urlparse := Config.exampleUrlparse
  hmac := exampleHmac
  emptyKey := 0

/-- The configuration of one paid provider. -/
def exampleConfig : AppConfig := { exampleEngine.toRunConfig with deadline := lit "900.0" }

def exampleStamp : Stamp := ⟨lit "2026", by decide⟩

def exampleUuid : Runs.Uuid := ⟨lit "1", by decide, by decide⟩

def exampleEnv : Env where
  plan := ninesDraws
  run := ninesDraws
  deployment := ⟨fun _ => .ok (some (lit "key")), fun _ _ => .ok ()⟩
  consumedAt := exampleStamp
  createdAt := exampleStamp
  boundAt := exampleStamp
  recordedAt := exampleStamp
  draw _ := exampleUuid
  lock := .ok ()

/-- The stage names of a plan can be encoded. -/
theorem writable_workload {rt : Runtime} {draws : Workload.PlanDraws} {question : Str}
    {names chain : List Str} {policy : RunPolicy} {plan : Workload.Plan}
    (h : Workload.estimateWorkload rt draws question names policy chain = .ok plan)
    (hnames : names.all Str.encodable = true) (hchain : chain.all Str.encodable = true) :
    Json.fieldsWritable plan.toDict = true := by
  unfold Workload.estimateWorkload at h
  simp only [Bind.bind, Except.bind] at h
  split at h
  · cases h
  rename_i chars hchars
  split at h
  · cases h
  rename_i capacity hcapacity
  have hstrs : ∀ l : List Str, Json.itemsWritable (l.map .str) = l.all Str.encodable := by
    intro l
    induction l with
    | nil => rfl
    | cons s l ih =>
      rw [List.map_cons, Json.itemsWritable, ih]
      rfl
  have hlimiting : capacity.limitingStages.all Str.encodable = true := by
    rw [List.all_eq_true]
    intro name hname
    obtain ⟨stage, rfl⟩ := limitingStages_names hcapacity name hname
    exact encodable_stageName stage
  have hstages : ∀ stages : List Stage,
      (Str.sorted (stages.map Stage.name)).all Str.encodable = true := by
    intro stages
    rw [List.all_eq_true]
    intro name hname
    rw [Str.mem_sorted, List.mem_map] at hname
    obtain ⟨stage, -, rfl⟩ := hname
    exact encodable_stageName stage
  have hchars : ∀ l : List (Stage × ℕ),
      Json.fieldsWritable (l.map fun c => (c.1.name, Json.int c.2)) = true := by
    intro l
    induction l with
    | nil => rfl
    | cons c l ih =>
      rw [List.map_cons, Json.fieldsWritable, ih, encodable_stageName]
      rfl
  have hhead : Json.writable (optStr chain.head?) = true := by
    cases chain with
    | nil => rfl
    | cons name rest =>
      rw [List.all_cons, Bool.and_eq_true] at hchain
      exact hchain.1
  have hint : ∀ n : Option ℤ, Json.writable (optInt n) = true := by
    rintro (_ | n) <;> rfl
  cases h
  simp only [Workload.Plan.toDict, Json.fieldsWritable, Json.writable, hstrs, hnames, hchain,
    hlimiting, hstages, hchars, hhead, hint, Bool.and_true]
  decide

/-- Without repairs the runtime does not matter to a workload. -/
theorem estimateWorkload_eq (rt rt' : Runtime) {draws : Workload.PlanDraws} {question : Str}
    {names chain : List Str} {policy : RunPolicy} (h : policy.juryRepairAttempts = 0) :
    Workload.estimateWorkload rt draws question names policy chain =
      Workload.estimateWorkload rt' draws question names policy chain := by
  unfold Workload.estimateWorkload Workload.plainQuestionCapacity Workload.stagePromptChars
  simp only [h, ne_eq, not_true_eq_false, if_false]

/-- The calls of a workload. -/
theorem estimateWorkload_calls {rt : Runtime} {draws : Workload.PlanDraws} {question : Str}
    {names chain : List Str} {policy : RunPolicy} {plan : Workload.Plan}
    (h : Workload.estimateWorkload rt draws question names policy chain = .ok plan) :
    plan.mandatoryCalls = names.length * 2 + chain.length ∧
      plan.recoveryCallCapacity = max 0 (policy.maxCalls - names.length * 2 - chain.length) := by
  unfold Workload.estimateWorkload at h
  simp only [Bind.bind, Except.bind] at h
  split at h
  · cases h
  split at h
  · cases h
  obtain rfl := Except.ok.inj h
  exact ⟨rfl, rfl⟩

/-- The workload of the example is within its limits. -/
theorem example_workload : ∃ w, Workload.estimateWorkload examplePlatform.toRuntime ninesDraws
    (lit "Why?") exampleConfig.names exampleConfig.policy exampleConfig.synthesisProviders =
      .ok w ∧ Workload.requireWorkloadWithinLimits w = .ok () := by
  obtain ⟨-, -, w, hw, hlimits⟩ := createRun_ok exampleRun_created
  have hstrip : Str.strip (lit "Why?") = lit "Why?" := by decide
  rw [hstrip] at hw
  exact ⟨w, (estimateWorkload_eq _ exampleRuntime rfl).trans hw, hlimits⟩

/-- The prompts of a workload within limits that are no trouble for a float are not too large. -/
theorem not_tooLarge {config : RunConfig} {w : Workload.Plan} (hcalls : 0 ≤ config.policy.maxCalls)
    (hsmall : config.policy.maxCalls * w.maxStagePromptChars < 2 ^ 53)
    (hplanned : 0 ≤ w.mandatoryCalls + w.recoveryCallCapacity)
    (hlargest : (((w.stagePromptChars.toList.map Prod.snd).foldl max 0 : ℕ) : ℤ) ≤
      w.maxStagePromptChars) :
    Approval.tooLarge (Approval.promptChars config w) = false := by
  have hmin : 0 ≤ min config.policy.maxCalls (w.mandatoryCalls + w.recoveryCallCapacity) :=
    le_min hcalls hplanned
  have hnonneg : 0 ≤ (((w.stagePromptChars.toList.map Prod.snd).foldl max 0 : ℕ) : ℤ) :=
    Int.natCast_nonneg _
  refine Approval.tooLarge_of_lt (mul_nonneg hmin hnonneg) (lt_of_le_of_lt ?_ hsmall)
  exact mul_le_mul (min_le_left _ _) hlargest hnonneg hcalls

/-- The largest prompt of a workload within its limits. -/
theorem largestPrompt_le {rt : Runtime} {draws : Workload.PlanDraws} {question : Str}
    {names chain : List Str} {policy : RunPolicy} {w : Workload.Plan}
    (hw : Workload.estimateWorkload rt draws question names policy chain = .ok w)
    (hlimits : Workload.requireWorkloadWithinLimits w = .ok ())
    (hpos : 0 ≤ policy.maxStagePromptChars) : w.maxStagePromptChars = policy.maxStagePromptChars ∧
      (((w.stagePromptChars.toList.map Prod.snd).foldl max 0 : ℕ) : ℤ) ≤
        w.maxStagePromptChars := by
  unfold Workload.estimateWorkload at hw
  obtain ⟨chars, -, hw⟩ := Except.bind_ok_iff.1 hw
  obtain ⟨capacity, -, hw⟩ := Except.bind_ok_iff.1 hw
  obtain rfl := Except.ok.inj hw
  refine ⟨rfl, ?_⟩
  unfold Workload.requireWorkloadWithinLimits at hlimits
  dsimp only at hlimits ⊢
  split at hlimits
  · cases hlimits
  split at hlimits
  · cases hlimits
  split at hlimits
  · rename_i hwithin
    have hall : ∀ c ∈ chars.toList, (c.2 : ℤ) ≤ policy.maxStagePromptChars := by
      intro c hc
      by_contra hlarge
      have hmem : c.1 ∈ (chars.toList.filter fun c =>
          decide (policy.maxStagePromptChars < c.2)).map Prod.fst :=
        List.mem_map_of_mem (List.mem_filter.2 ⟨hc, decide_eq_true (not_le.1 hlarge)⟩)
      rw [hwithin] at hmem
      cases hmem
    have hfold : ∀ (l : List ℕ) (m : ℕ), (m : ℤ) ≤ policy.maxStagePromptChars →
        (∀ n ∈ l, (n : ℤ) ≤ policy.maxStagePromptChars) →
          ((l.foldl max m : ℕ) : ℤ) ≤ policy.maxStagePromptChars := by
      intro l
      induction l with
      | nil => exact fun m hm _ => hm
      | cons n l ih =>
        intro m hm hl
        obtain ⟨hn, hl⟩ := List.forall_mem_cons.1 hl
        refine ih (max m n) ?_ hl
        rcases max_choice m n with h | h
        · rw [h]; exact hm
        · rw [h]; exact hn
    refine hfold _ 0 hpos fun n hn => ?_
    obtain ⟨c, hc, rfl⟩ := List.mem_map.1 hn
    exact hall c hc
  · cases hlimits

/-- The plan of the example, for which sixteen calls are to be approved. -/
theorem example_plan : ∃ plan, planRecord examplePlatform.toRuntime examplePlatform.urlparse
    ninesDraws exampleConfig (lit "Why?") = .ok plan ∧ plan.planHash = exampleDigest ∧
      plan.approvalRequired = true ∧ plan.estimate.maxCalls = 16 := by
  obtain ⟨w, hw, hlimits⟩ := example_workload
  obtain ⟨hmandatory, hrecovery⟩ := estimateWorkload_calls hw
  obtain ⟨hmax, hlargest⟩ := largestPrompt_le hw hlimits exampleMaxChars_nonneg
  have hchars : Approval.tooLarge (Approval.promptChars exampleConfig.toRunConfig w) = false := by
    refine not_tooLarge (by decide) ?_ ?_ hlargest
    · rw [hmax]
      show 16 * exampleMaxChars < 2 ^ 53
      have hsmall := exampleMaxChars_lt
      omega
    · rw [hmandatory, hrecovery]
      decide
  have hdiversity : Config.lineageReport examplePlatform.toRuntime examplePlatform.urlparse
      exampleConfig.providers = .ok (Config.Lineages.toDict
        { seen := [(lit "solo/m", lit "solo")], lineages := [lit "l"] }) := by decide +kernel
  have hmaterial : Json.fieldsWritable (planMaterial examplePlatform.toRuntime
      exampleConfig (lit "Why?") w (Config.Lineages.toDict
        { seen := [(lit "solo/m", lit "solo")], lineages := [lit "l"] })) = true := by
    have hworkload := writable_workload hw (by decide) (by decide)
    have hestimate : Json.fieldsWritable
        (Approval.costEstimate exampleConfig.toRunConfig w).toDict = true := by
      have hproviders : (Approval.costEstimate exampleConfig.toRunConfig w).providers =
          [(lit "solo", lit "m")] := rfl
      unfold Approval.CostEstimate.toDict
      simp only [hproviders, List.map_cons, List.map_nil, Json.fieldsWritable, Json.writable,
        Json.itemsWritable, encodable_lit, Bool.and_true]
    simp only [planMaterial, Json.fieldsWritable, Json.writable, hworkload, hestimate,
      Bool.and_true]
    decide
  refine ⟨_, planRecord_ok hw hchars (by decide) hdiversity hmaterial, ?_, ?_, ?_⟩
  · rfl
  · rfl
  · show min 16 (w.mandatoryCalls + w.recoveryCallCapacity) = 16
    rw [hmandatory, hrecovery]
    decide

def exampleNonce : Str := List.replicate 16 48

/-- The token that the human is given. -/
def exampleToken : Str :=
  tokenPrefix ++ exampleNonce ++ 46 ::
    exampleHmac 7 (macMessage ⟨exampleDigest, 16⟩ (lit "Ada") exampleNonce)

/-- The row of the approval. -/
def exampleApproval (consumedAt : Option Stamp) (runId : Option Str) : ApprovalRow :=
  ⟨exampleDigest, exampleDigest, lit "Ada", 16, exampleStamp, consumedAt, runId, 0⟩

def exampleApproveArgs : ApproveArgs ℕ where
  config := exampleConfig
  question := lit "Why?"
  planHash := exampleDigest
  approvedBy := lit "Ada"
  isatty := true
  typed := exampleDigest.take 12
  newKey := 7
  nonce := exampleNonce

/-- The directory after the approval. -/
def approvedVault : Vault ℕ where
  approvals := [exampleApproval none none]
  key := some (some 7)
  calls := [exampleApproveArgs]

/-- A computed value, where no other program runs. -/
theorem alone_computed {α : Type} {x : Except PyErr α} {b : α} (h : x = .ok b) :
    (computed x).alone v = (.ok b, v) := by
  rw [h]
  rfl

/-- A value that is there, where no other program runs. -/
theorem alone_ofExcept {α : Type} {x : Except AgentErr α} {b : α} (h : x = .ok b) :
    (ofExcept x : Program K α).alone v = (.ok b, v) := by
  rw [h]
  rfl

/-- The human of the example approves: the key is created, and the token is recorded. -/
theorem example_approve : (approve examplePlatform exampleEnv exampleApproveArgs).alone {} =
    (.ok (.token exampleToken), approvedVault) := by
  obtain ⟨plan, hplan, hhash, hrequired, hcalls⟩ := example_plan
  have happroved : plan.approved = ⟨exampleDigest, 16⟩ := by
    unfold PlanRecord.approved
    rw [hhash, hcalls]
  have htoken : issueToken examplePlatform.hmac 7 (⟨exampleDigest, 16⟩ : Approved) (lit "Ada")
      exampleNonce = .ok exampleToken := by decide +kernel
  have hstrip : ¬ exampleDigest ≠ Str.strip exampleApproveArgs.planHash := by decide
  have htyped : ¬ Str.strip exampleApproveArgs.typed ≠ exampleDigest.take 12 := by decide
  have hatty : ¬ exampleApproveArgs.isatty = false := by decide
  have hcalled : (perform (beginApprove exampleApproveArgs)).alone ({} : Vault ℕ) =
      (.ok 0, { calls := [exampleApproveArgs] }) := rfl
  have hkey : (loadKey examplePlatform exampleApproveArgs.newKey).alone
      ({ calls := [exampleApproveArgs] } : Vault ℕ) =
        (.ok 7, { key := some (some 7), calls := [exampleApproveArgs] }) := rfl
  have hrecorded : (perform (recordRunApproval exampleEnv.recordedAt
      (examplePlatform.sha256 exampleToken) exampleDigest (Str.strip exampleApproveArgs.approvedBy)
      16 0)).alone ({ key := some (some 7), calls := [exampleApproveArgs] } : Vault ℕ) =
        (.ok (), approvedVault) := rfl
  unfold approve
  refine (alone_bind_ok hcalled).trans ((alone_bind_ok (alone_computed hplan)).trans ?_)
  rw [hrequired, hhash, happroved, hcalls, if_neg Bool.true_eq_false.mp, if_neg hstrip,
    if_neg hatty, if_neg htyped]
  refine (alone_bind_ok hkey).trans ((alone_bind_ok (alone_ofExcept htoken)).trans ?_)
  exact (alone_bind_ok hrecorded).trans rfl

/-- An agent's request for the approved work. -/
def exampleRequest : AgentRequest where
  start := false
  requestId := some (lit "q")
  payloadSha256 := exampleDigest
  selection := .ok (exampleConfig, lit "Why?")
  approvedBy := some (lit "Ada")
  approvalToken := some exampleToken

def exampleCreate : CreateArgs where
  config := exampleConfig
  question := lit "Why?"
  approvedBy := some (lit "Ada")
  approvalToken := some exampleToken
  idempotencyKey := some (lit "agent:q")
  requestId := some (lit "q")
  requestPayloadSha256 := some exampleDigest

/-- The row of the run. -/
def exampleRow : Runs.Row :=
  Runs.createdRow examplePlatform.toRuntime exampleStamp (lit "1")
    (runRequest examplePlatform.toRuntime exampleConfig (lit "Why?")) (some (lit "agent:q"))

/-- What is consumed. -/
def exampleConsumed : Consumed := ⟨lit "Ada", exampleDigest, 16, exampleStamp, exampleStamp⟩

/-- The directory with the run. -/
def createdVault : Vault ℕ where
  tables := { runs := [exampleRow] }
  approvals := [exampleApproval (some exampleStamp) none]
  key := some (some 7)
  calls := [exampleApproveArgs]

/-- The directory with the run, its approval and its request. -/
def attachedVault : Vault ℕ where
  tables := {
    runs := [exampleRow]
    events := [⟨1, lit "1", lit "human_run_approval",
      (approvalPayload exampleDigest exampleConsumed).canon, exampleStamp⟩]
    nextEventId := 2 }
  approvals := [exampleApproval (some exampleStamp) (some (lit "1"))]
  requests := [⟨lit "q", exampleDigest, lit "1", exampleStamp⟩]
  key := some (some 7)
  calls := [exampleApproveArgs]

/-- A method of the run tables, where no other program runs. -/
theorem alone_onTables {α : Type} {t : Runs.Sql α} {tables tables' : Runs.Tables} {b : α}
    (h : t.run tables = (.ok b, tables')) (hv : v.tables = tables) :
    (perform (onTables t)).alone v = (.ok b, { v with tables := tables' }) := by
  subst hv
  rw [alone_perform]
  unfold onTables
  simp only [h]

/-- The approval of the example is claimed and consumed. -/
theorem example_claim {plan : PlanRecord} (hrequired : plan.approvalRequired = true)
    (hhash : plan.planHash = exampleDigest) (hcalls : plan.estimate.maxCalls = 16) :
    (claimApproval examplePlatform exampleEnv exampleCreate plan).alone approvedVault =
      (.ok (some (exampleDigest, exampleConsumed)), { approvedVault with
        approvals := [exampleApproval (some exampleStamp) none] }) := by
  have happroved : plan.approved = ⟨exampleDigest, 16⟩ := by
    unfold PlanRecord.approved
    rw [hhash, hcalls]
  have hkey : (look (Vault.storedKey examplePlatform.emptyKey)).alone approvedVault =
      (.ok (some 7), approvedVault) := rfl
  have hverified : verifyToken examplePlatform.hmac examplePlatform.sha256 (some 7)
      (⟨exampleDigest, 16⟩ : Approved) exampleCreate.approvedBy exampleCreate.approvalToken =
        .ok exampleDigest := by decide +kernel
  have hconsumed : (perform (consumeRunApproval exampleEnv.consumedAt exampleDigest
      exampleDigest)).alone approvedVault = (.ok exampleConsumed, { approvedVault with
        approvals := [exampleApproval (some exampleStamp) none] }) := rfl
  unfold claimApproval
  rw [if_pos hrequired, happroved, hhash]
  refine (alone_bind_ok hkey).trans ((alone_bind_ok (alone_ofExcept hverified)).trans ?_)
  exact (alone_bind_ok hconsumed).trans rfl

/-- The request of a run is encoded if its seats and its policy can be printed. -/
theorem runRequest_encodes {rt : Runtime} {config : AppConfig} {question : Str}
    (hproviders : Json.dumpableItems (runRequest rt config question).providerConfigs = true)
    (hpolicy : Json.dumpableFields (config.policy.toDict config.deadline) = true)
    (hchain : Json.dumpableItems (config.synthesisFallbacks.map .str) = true)
    (hencodable : Json.encodableFields (runRequest rt config question).value = true) :
    Dict.encode (runRequest rt config question).value =
      .ok (runRequest rt config question).value.canon := by
  refine Dict.encode_eq_ok ?_ hencodable
  have hall : Json.dumpableFields (runRequest rt config question).policy = true := by
    rw [Json.dumpableFields_eq_all] at hpolicy
    unfold runRequest
    rw [Json.dumpableFields_eq_all, List.all_append, hpolicy, Bool.true_and]
    simp only [List.all_cons, List.all_nil, Json.dumpable, hchain, Bool.and_true]
  unfold Runs.Request.value
  simp only [Json.dumpableFields, Json.dumpable, hproviders, hall, Bool.and_true]

/-- The numbers of the policy are printed. -/
theorem example_policy_dumpable :
    Json.dumpableFields (exampleEngine.policy.toDict (lit "900.0")) = true := by
  have hlimit : Json.dumpable (.int exampleMaxChars) = true := by
    have hnonneg := exampleMaxChars_nonneg
    have hlt := exampleMaxChars_lt
    exact dumpable_small (by omega)
  show Json.dumpableFields [_, _, _, _, _, _, _, _, (_, Json.int exampleMaxChars), _, _, _] = true
  simp only [Json.dumpableFields, hlimit]
  decide

/-- The request of the run is accepted. -/
theorem example_checks : (runRequest examplePlatform.toRuntime exampleConfig (lit "Why?")).checks
    examplePlatform.toRuntime = .ok () :=
  Runs.Request.checks_ok (by decide) (by decide) (by decide) (by decide) (by decide +kernel)
    (by decide +kernel)
    (runRequest_encodes (by decide) example_policy_dumpable rfl (by decide +kernel))

/-- The run of the example is created. -/
theorem example_createRun : (createRun examplePlatform exampleEnv exampleConfig (lit "Why?")
    (some (lit "agent:q"))).alone { approvedVault with
      approvals := [exampleApproval (some exampleStamp) none] } =
        (.ok (lit "1"), createdVault) := by
  obtain ⟨w, hw, hlimits⟩ := example_workload
  have hstrip : Str.strip (lit "Why?") = lit "Why?" := by decide
  have hchecked : checkRun examplePlatform.toRuntime exampleEnv.run exampleConfig (lit "Why?") =
      .ok () := checkRun_ok (by decide) (hstrip.symm ▸ hw) hlimits
  have hcreated : (Runs.createRun examplePlatform.toRuntime
      { now := exampleStamp
        uuid := exampleUuid
        request := runRequest examplePlatform.toRuntime exampleConfig (lit "Why?")
        idempotencyKey := some (lit "agent:q") }).run {} =
          (.ok (lit "1"), { runs := [exampleRow] }) :=
    Runs.createRun_ok_iff.2 ⟨⟨example_checks, by decide, by decide, by decide⟩,
      .inserted rfl (by decide) rfl⟩
  have huuid : (look fun v => exampleEnv.draw v.tables).alone ({ approvedVault with
      approvals := [exampleApproval (some exampleStamp) none] } : Vault ℕ) =
        (.ok exampleUuid, _) := rfl
  unfold createRun
  refine (alone_bind_ok (alone_computed hchecked)).trans ((alone_bind_ok huuid).trans ?_)
  refine (alone_onTables (v := { approvedVault with
      approvals := [exampleApproval (some exampleStamp) none] }) hcreated rfl).trans ?_
  rfl

/-- The engine of the example can be built. -/
theorem example_engine : Config.engineOf exampleEnv.deployment exampleConfig =
    .ok exampleConfig := rfl

/-- The approval of the example is attached to its run. -/
theorem example_attach : (attach examplePlatform exampleEnv (lit "1")
    (some (exampleDigest, exampleConsumed))).alone ({ createdVault with
      requests := [⟨lit "q", exampleDigest, lit "1", exampleStamp⟩] } : Vault ℕ) =
        (.ok (), attachedVault) := by
  have hattached : (perform (attachRunApproval exampleDigest (lit "1"))).alone ({ createdVault with
      requests := [⟨lit "q", exampleDigest, lit "1", exampleStamp⟩] } : Vault ℕ) =
        (.ok (), { createdVault with
          approvals := [exampleApproval (some exampleStamp) (some (lit "1"))]
          requests := [⟨lit "q", exampleDigest, lit "1", exampleStamp⟩] }) := rfl
  have hstored : Dict.store examplePlatform.toRuntime (lit "$.event")
      (approvalPayload exampleDigest exampleConsumed) =
        .ok (approvalPayload exampleDigest exampleConsumed).canon := Dict.store_ok (by decide) _
  have hevent : (appendEvent examplePlatform.toRuntime exampleStamp (lit "1")
      (lit "human_run_approval") (approvalPayload exampleDigest exampleConsumed)).run
        { runs := [exampleRow] } = (.ok (), attachedVault.tables) := by
    unfold appendEvent
    rw [hstored]
    rfl
  exact (alone_bind_ok hattached).trans (alone_onTables hevent rfl)

/-- The guarded creation of the example, from the claim to the attachment. -/
theorem example_create : (guardedCreate examplePlatform exampleEnv exampleCreate).alone
    approvedVault = (.ok (exampleConfig, lit "1"), attachedVault) := by
  obtain ⟨plan, hplan, hhash, hrequired, hcalls⟩ := example_plan
  have hbound : (bindRequest exampleEnv exampleCreate (lit "1")).alone createdVault =
      (.ok (), { createdVault with
        requests := [⟨lit "q", exampleDigest, lit "1", exampleStamp⟩] }) := rfl
  unfold guardedCreate
  refine (alone_bind_ok (alone_computed hplan)).trans ?_
  refine (alone_bind_ok (example_claim hrequired hhash hcalls)).trans ?_
  refine (alone_bind_ok (alone_computed example_engine)).trans ?_
  refine (alone_bind_ok example_createRun).trans ((alone_bind_ok hbound).trans ?_)
  exact (alone_bind_ok example_attach).trans rfl

/-- The directory after the work. -/
def workedVault : Vault ℕ := { attachedVault with resumed := [lit "1"] }

/-- The work on the example's run is begun. -/
theorem example_resume : (resume examplePlatform exampleConfig (lit "1")).alone attachedVault =
    (.ok (), workedVault) := by
  have hrow : attachedVault.tables.run (lit "1") = some exampleRow := rfl
  have hproviders : exampleRow.providerConfigs = Json.canon (.arr (runRequest
      examplePlatform.toRuntime exampleConfig exampleRow.question).providerConfigs) := by
    unfold exampleRow Runs.createdRow runRequest
    rfl
  have hpolicy : exampleRow.policy = (runRequest examplePlatform.toRuntime exampleConfig
      exampleRow.question).policy.canon := by
    unfold exampleRow Runs.createdRow runRequest
    rfl
  have hprotocol : exampleRow.protocolId = Protocol.protocolId := by
    unfold exampleRow Runs.createdRow runRequest
    rfl
  have hhash : exampleRow.protocolHash = examplePlatform.protocolHash := by
    unfold exampleRow Runs.createdRow runRequest
    rfl
  have hrun := beginResume_ok (by decide) hrow ⟨hprotocol, hhash, hproviders, hpolicy⟩
  have hworked : workedVault = { attachedVault with
    resumed := attachedVault.resumed ++ [lit "1"] } := rfl
  rw [hworked]
  exact (alone_perform _ _).trans hrun

/-- The request of the example is answered with its run. -/
theorem example_handle : (handleRun examplePlatform exampleEnv exampleRequest).alone
    approvedVault = (.ok (.reply exampleRequest (lit "1") false), workedVault) := by
  have hnew : (perform (getAgentRequest (lit "q"))).alone approvedVault =
      (.ok none, approvedVault) := rfl
  have hlock : (ofExcept exampleEnv.lock : Program ℕ Unit).alone approvedVault =
      (.ok (), approvedVault) := rfl
  have hselected : (ofExcept exampleRequest.selection : Program ℕ _).alone approvedVault =
      (.ok (exampleConfig, lit "Why?"), approvedVault) := rfl
  refine (alone_bind_ok hnew).trans ?_
  unfold handleNew
  refine (alone_bind_ok hselected).trans ((alone_bind_ok hlock).trans ?_)
  refine (alone_bind_ok example_create).trans ?_
  exact (alone_bind_ok example_resume).trans rfl

/-- The request is repeated, as a `start` and without the token, which its payload leaves out. -/
def exampleRepeated : AgentRequest :=
  { exampleRequest with start := true, approvedBy := none, approvalToken := none }

/-- The repeated request is answered with the same run. -/
theorem example_replay : (handleRun examplePlatform exampleEnv exampleRepeated).alone
    workedVault = (.ok (.reply exampleRepeated (lit "1") true), workedVault) := rfl

/-- A program that runs alone to its end is a life of the directory. -/
theorem lives_task {K : Type} {pf : Platform K} {v v' : Vault K} {cs : List (Program K Answer)}
    {r : Except AgentErr Answer} (task : Task K) (h : (task.program pf).alone v = (r, v')) :
    Lives pf (v, cs) (v', .done r :: cs) := by
  have hturns := @turns_alone _ _ _ (fun c => ∃ task : Task K, task.program pf = c)
    (task.program pf) v cs
  rw [h] at hturns
  exact hturns.head (.start v cs _ ⟨task, rfl⟩)

/-- What the programs of the example have answered after the work. -/
def exampleAnswers : List (Program ℕ Answer) :=
  [.done (.ok (.reply exampleRequest (lit "1") false)), .done (.ok (.token exampleToken))]

/-- **A life**: a human approves, and an agent asks for the approved work. -/
theorem example_lives : Lives examplePlatform ({}, []) (workedVault, exampleAnswers) :=
  (lives_task (.approve exampleEnv exampleApproveArgs) example_approve).trans
    (lives_task (.handle exampleEnv exampleRequest) example_handle)

/-- The agent asks again. -/
theorem example_asks : Lives examplePlatform (workedVault, exampleAnswers) (workedVault,
    .done (.ok (.reply exampleRepeated (lit "1") true)) :: exampleAnswers) :=
  lives_task (.handle exampleEnv exampleRepeated) example_replay

/-! ### Every life -/

/-- **An approval is used once.**  It was recorded by a call of `council approve` that a human made
at a terminal.  From any point of a life on, its row is kept; what it was consumed at and the run
it was attached to never change again, and once it is consumed no program consumes it. -/
theorem approval_used_once (hx : Lives pf ({}, []) x) (hy : Lives pf x y)
    (ha : x.1.approval tokenSha256 = some a) : HumanApproved pf x.1.calls a ∧
      (∃ b, y.1.approval tokenSha256 = some b ∧ a.Later b) ∧
      (a.consumedAt ≠ none → ∀ now planHash, ∃ e,
        (consumeRunApproval now tokenSha256 planHash).run y.1 = (.error e, y.1)) := by
  have hdisciplined := lives_disciplined hx
  obtain ⟨-, hgrows⟩ := lives_turns hy hdisciplined
  obtain ⟨b, hb, hlater⟩ := hgrows.approvals tokenSha256 a ha
  refine ⟨hdisciplined.1.approved a (Rows.find_some ha).1, ⟨b, hb, hlater⟩,
    fun hconsumed now planHash => ?_⟩
  rcases hrun : (consumeRunApproval now tokenSha256 planHash).run y.1 with ⟨r, v'⟩
  rcases consumeRunApproval_cases hrun with ⟨e, rfl, rfl⟩ | ⟨row, hrow, -, hfresh, -, -⟩
  · exact ⟨e, rfl⟩
  · rw [hb] at hrow
    obtain rfl := Option.some.inj hrow
    obtain ⟨t, ht⟩ := Option.ne_none_iff_exists'.1 hconsumed
    rw [hlater.consumedAt t ht] at hfresh
    cases hfresh

/-- The approval of the example, in a life that goes on with a repeated request: consumed once,
and attached to the one run. -/
theorem approval_used_once_example :
    (Lives examplePlatform ({}, []) (workedVault, exampleAnswers) ∧
      Lives examplePlatform (workedVault, exampleAnswers) (workedVault,
        .done (.ok (.reply exampleRepeated (lit "1") true)) :: exampleAnswers) ∧
      workedVault.approval exampleDigest =
        some (exampleApproval (some exampleStamp) (some (lit "1")))) ∧
    HumanApproved examplePlatform [exampleApproveArgs]
        (exampleApproval (some exampleStamp) (some (lit "1"))) ∧
      ∃ e, (consumeRunApproval exampleStamp exampleDigest exampleDigest).run workedVault =
        (.error e, workedVault) := by
  have hrow : workedVault.approval exampleDigest =
      some (exampleApproval (some exampleStamp) (some (lit "1"))) := rfl
  obtain ⟨happroved, -, hused⟩ := approval_used_once example_lives example_asks hrow
  exact ⟨⟨example_lives, example_asks, hrow⟩, happroved, hused (by rintro ⟨⟩) _ _⟩

/-- **Paid work has a human's approval**, and as many runs as there is work on have as many
calls of `council approve`, each made by a human at a terminal. -/
theorem paid_work_approved (h : Lives pf ({}, []) (v, cs)) :
    (∀ r ∈ v.resumed, ∃ l ∈ locks v.tables, l.identity.id = r ∧
      (paid l.providerConfigs = true → ∃ a ∈ v.approvals, a.runId = some r ∧
        a.consumedAt ≠ none ∧ HumanApproved pf v.calls a ∧
          PlannedFor pf a.planHash l.identity.requestSha256)) ∧
      ∀ runs : List Str, runs.Nodup →
        (∀ r ∈ runs, r ∈ v.resumed ∧
          ∀ l ∈ locks v.tables, l.identity.id = r → paid l.providerConfigs = true) →
        ∃ given : List ℕ, given.Nodup ∧ runs.length ≤ given.length ∧
          ∀ n ∈ given, ∃ args record, v.calls[n]? = some args ∧ args.Confirms pf record := by
  obtain ⟨hinv, -⟩ := lives_disciplined h
  have hwork : ∀ r ∈ v.resumed, ∃ l ∈ locks v.tables, l.identity.id = r ∧
      (paid l.providerConfigs = true → ∃ a ∈ v.approvals, a.runId = some r ∧
        a.consumedAt ≠ none ∧ HumanApproved pf v.calls a ∧
          PlannedFor pf a.planHash l.identity.requestSha256) := by
    intro r hr
    obtain ⟨l, hl, hid, hpaid⟩ := hinv.resumed r hr
    refine ⟨l, hl, hid, fun hp => ?_⟩
    obtain ⟨a, ha, hrun⟩ := hpaid hp
    obtain ⟨hconsumed, l', hl', hid', hplanned⟩ := hinv.attached a ha r hrun
    obtain rfl := hinv.lock_inj hl' hl (hid'.trans hid.symm)
    exact ⟨a, ha, hrun, hconsumed, hinv.approved a ha, hplanned⟩
  refine ⟨hwork, fun runs hnodup hpaid => ?_⟩
  have hsub : runs ⊆ v.approvals.filterMap ApprovalRow.runId := by
    intro r hr
    obtain ⟨hresumed, hlocks⟩ := hpaid r hr
    obtain ⟨l, hl, hid, happroved⟩ := hwork r hresumed
    obtain ⟨a, ha, hrun, -⟩ := happroved (hlocks l hl hid)
    exact List.mem_filterMap.2 ⟨a, ha, hrun⟩
  -- every approval was recorded by a call of its own
  refine ⟨v.approvals.map ApprovalRow.call, hinv.calls, ?_, fun n hn => ?_⟩
  · rw [List.length_map]
    exact (hnodup.subperm hsub).length_le.trans (List.length_filterMap_le _ _)
  · obtain ⟨a, ha, rfl⟩ := List.mem_map.1 hn
    obtain ⟨args, record, hcall, hconfirms, -⟩ := hinv.approved a ha
    exact ⟨args, record, hcall, hconfirms⟩

/-- The work on the paid run of the example was begun, with an approval that the call of `council
approve` gave. -/
theorem paid_work_approved_example :
    Lives examplePlatform ({}, []) (workedVault, exampleAnswers) ∧
      (∃ a ∈ workedVault.approvals, a.runId = some (lit "1") ∧ a.consumedAt ≠ none ∧
        HumanApproved examplePlatform [exampleApproveArgs] a) ∧
      ∃ given : List ℕ, given.Nodup ∧ 1 ≤ given.length ∧ ∀ n ∈ given, ∃ args record,
        workedVault.calls[n]? = some args ∧ args.Confirms examplePlatform record := by
  obtain ⟨hwork, hcalls⟩ := paid_work_approved example_lives
  obtain ⟨l, hl, -, happroved⟩ := hwork (lit "1") List.mem_cons_self
  have hall : ∀ l ∈ locks workedVault.tables, paid l.providerConfigs = true := by
    intro l hl
    obtain rfl := List.mem_singleton.1 hl
    exact paid_canon exampleConfig
  obtain ⟨a, ha, hrun, hconsumed, hhuman, -⟩ := happroved (hall l hl)
  refine ⟨example_lives, ⟨a, ha, hrun, hconsumed, hhuman⟩,
    hcalls [lit "1"] (List.nodup_singleton _) fun r hr => ?_⟩
  rw [List.mem_singleton.1 hr]
  exact ⟨List.mem_cons_self, fun l hl _ => hall l hl⟩

/-- **A request is answered with one run**: the replies to requests of one id are to payloads of
one digest and name one run, and one of them at most is not a replay. -/
theorem request_answered_once (h : Lives pf ({}, []) (v, cs)) :
    (∀ q q' r r' b b' id, .done (.ok (.reply q r b)) ∈ cs → .done (.ok (.reply q' r' b')) ∈ cs →
      q.requestId = some id → q'.requestId = some id →
        q.payloadSha256 = q'.payloadSha256 ∧ r = r') ∧
      cs.Pairwise fun c c' => ∀ q q' r r' id, c = .done (.ok (.reply q r false)) →
        c' = .done (.ok (.reply q' r' false)) → q.requestId = some id →
          q'.requestId ≠ some id := by
  have hdisciplined := lives_disciplined h
  refine ⟨fun q q' r r' b b' id hc hc' hid hid' => ?_, ?_⟩
  · obtain ⟨p, v₀, hsees, hpost⟩ := hdisciplined.answer hc
    obtain ⟨p', v₀', hsees', hpost'⟩ := hdisciplined.answer hc'
    obtain ⟨row, hrow, hpayload, hrun⟩ := (hpost id hid).1.grows (seen_grows hsees)
    obtain ⟨row', hrow', hpayload', hrun'⟩ := (hpost' id hid').1.grows (seen_grows hsees')
    obtain rfl := Option.some.inj (hrow.symm.trans hrow')
    exact ⟨hpayload.symm.trans hpayload', hrun.symm.trans hrun'⟩
  · refine hdisciplined.answers_pairwise.imp fun hapart q q' r r' id hc hc' hid hid' => ?_
    obtain ⟨p, v₀, p', v₀', hpapart, hpost, hpost'⟩ := hapart _ _ hc hc'
    exact hpapart.bound id ((hpost id hid).2 rfl) ((hpost' id hid').2 rfl)

/-- Two requests with the same id in one life, the second a repetition: both are answered with the
same run. -/
theorem request_answered_once_example :
    Lives examplePlatform ({}, []) (workedVault,
        .done (.ok (.reply exampleRepeated (lit "1") true)) :: exampleAnswers) ∧
      ∀ q r b, .done (.ok (.reply q r b)) ∈ exampleAnswers → q.requestId = some (lit "q") →
        q.payloadSha256 = exampleRepeated.payloadSha256 ∧ r = lit "1" := by
  have hlives := example_lives.trans example_asks
  refine ⟨hlives, fun q r b hq hid => ?_⟩
  exact (request_answered_once hlives).1 q exampleRepeated r (lit "1") b true (lit "q")
    (List.mem_cons_of_mem _ hq) List.mem_cons_self hid rfl

end Agent
end CouncilLogic
