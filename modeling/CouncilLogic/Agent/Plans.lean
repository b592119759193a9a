/-
# Plans that a human approves

`plan_record` of `approval.py`: the digest of everything that a run would be executed with.
The fields of a provider, its credential's name among them, are those of its dictionary.

The digest is over the canonical JSON of the plan, in `src/model_council/approval.py`; a human who
approves it approves the question, every seat and every limit.  The estimate that is shown beside
it is in `CouncilLogic.Approval`.
-/

import CouncilLogic.Agent.Tokens
import CouncilLogic.Config
import CouncilLogic.Json.Writable
import CouncilLogic.Store.Runs

namespace CouncilLogic
namespace Agent

open Protocol (protocolId protocolVersion)

variable (rt : Runtime) (urlparse : Str → Except PyErr Url)

/-- What `plan_record` returns. -/
structure PlanRecord where
  planHash : Str
  questionSha256 : Str
  estimate : Approval.CostEstimate
  workload : Workload.Plan
  protocolHash : Str
  diversity : Dict

/-- `approval_required` of a plan. -/
def PlanRecord.approvalRequired (p : PlanRecord) : Bool := p.estimate.paid

/-- What an approval of the plan is given for. -/
def PlanRecord.approved (p : PlanRecord) : Approved := ⟨p.planHash, p.estimate.maxCalls⟩

/-- The material of which a plan's hash is the digest. -/
def planMaterial (config : AppConfig) (question : Str) (workload : Workload.Plan)
    (diversity : Dict) : Dict :=
  [(lit "question_sha256", .str (rt.sha256 question)),
    (lit "providers", .arr (config.providers.map fun p => .obj p.toDict)),
    (lit "protocol_hash", .str rt.protocolHash),
    (lit "diversity", .obj diversity),
    (lit "synthesis_providers", .arr (config.synthesisProviders.map .str)),
    (lit "policy", .obj (config.policy.toDict config.deadline)),
    (lit "workload", .obj workload.toDict),
    (lit "estimate", .obj (Approval.costEstimate config.toRunConfig workload).toDict)]

/-- `plan_record`. -/
def planRecord (draws : Workload.PlanDraws) (config : AppConfig) (question : Str) :
    Except PyErr PlanRecord := do
  let workload ← Workload.estimateWorkload rt draws question config.names config.policy
    config.synthesisProviders
  if Approval.tooLarge (Approval.promptChars config.toRunConfig workload) then
    throw ⟨.overflowError, lit "integer division result too large for a float"⟩
  if Str.encodable question = false then
    throw ⟨.unicodeEncodeError, lit "surrogates not allowed"⟩
  let diversity ← Config.lineageReport rt urlparse config.providers
  let material := Runs.canonicalJson (planMaterial rt config question workload diversity)
  if Str.encodable material = false then
    throw ⟨.unicodeEncodeError, lit "surrogates not allowed"⟩
  pure
    { planHash := rt.sha256 material
      questionSha256 := rt.sha256 question
      estimate := Approval.costEstimate config.toRunConfig workload
      workload := workload
      protocolHash := rt.protocolHash
      diversity := diversity }

variable {rt urlparse} in
/-- **`plan_record` returns** where the workload is estimated, the prompts are not too large, the
endpoints can be parsed and every text of the plan can be encoded. -/
theorem planRecord_ok {draws : Workload.PlanDraws} {config : AppConfig} {question : Str}
    {workload : Workload.Plan} {diversity : Dict}
    (hworkload : Workload.estimateWorkload rt draws question
      config.names config.policy config.synthesisProviders = .ok workload)
    (hchars : Approval.tooLarge (Approval.promptChars config.toRunConfig workload) = false)
    (hquestion : Str.encodable question = true)
    (hdiversity : Config.lineageReport rt urlparse config.providers = .ok diversity)
    (hmaterial :
      Json.fieldsWritable (planMaterial rt config question workload diversity) = true) :
    planRecord rt urlparse draws config question = .ok
      { planHash := rt.sha256
          (Runs.canonicalJson (planMaterial rt config question workload diversity))
        questionSha256 := rt.sha256 question
        estimate := Approval.costEstimate config.toRunConfig workload
        workload := workload
        protocolHash := rt.protocolHash
        diversity := diversity } := by
  have hencodable : Str.encodable
      (Runs.canonicalJson (planMaterial rt config question workload diversity)) = true :=
    Json.encodable_dumpsCompact _ ((Json.writable_canon _).trans hmaterial)
  unfold planRecord
  simp only [bind, Except.bind, hworkload, hchars, hquestion, hdiversity, hencodable,
    Bool.true_eq_false, Bool.false_eq_true, if_false]
  rfl

/-- What a run of the configuration is created for. -/
def runRequest (config : AppConfig) (question : Str) : Runs.Request where
  question := Str.strip question
  protocolId := protocolId
  protocolVersion := protocolVersion
  protocolHash := rt.protocolHash
  providerConfigs := config.providers.map fun p => .obj p.toDict
  policy := config.policy.toDict config.deadline ++
    [(lit "synthesis_provider", .str config.synthesisProvider),
      (lit "synthesis_fallbacks", .arr (config.synthesisFallbacks.map .str))]

/-- `CouncilEngine.create_run`, up to the call of the store. -/
def checkRun (draws : Workload.PlanDraws) (config : AppConfig) (question : Str) :
    Except PyErr Unit := do
  let cleanQuestion := Str.strip question
  if cleanQuestion = [] then throw (.valueError (lit "Question cannot be empty"))
  let plan ← Workload.estimateWorkload rt draws cleanQuestion config.names config.policy
    config.synthesisProviders
  Workload.requireWorkloadWithinLimits plan

variable {rt} in
/-- A run whose workload fits its limits has a plan. -/
theorem checkRun_ok {draws : Workload.PlanDraws} {config : AppConfig} {question : Str}
    {workload : Workload.Plan} (hquestion : Str.strip question ≠ [])
    (hworkload : Workload.estimateWorkload rt draws (Str.strip question) config.names
      config.policy config.synthesisProviders = .ok workload)
    (hlimits : Workload.requireWorkloadWithinLimits workload = .ok ()) :
    checkRun rt draws config question = .ok () := by
  unfold checkRun
  simp only [bind, Except.bind, hquestion, if_false, hworkload, hlimits]

end Agent
end CouncilLogic
