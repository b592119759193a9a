/-
# The programs keep the discipline

Whatever the others do, each program on a data directory touches only the approvals that it
holds, attaches one only to a run of the plan that it was consumed for, and begins the work on a
run of paid providers only when the run has an approval.

The programs are those of `src/model_council/agent.py`, `src/model_council/approval.py` and
`src/model_council/cli.py`, modelled in `CouncilLogic.Agent.Programs`.  For each one there is a
`_sound` lemma about what it holds before and after; `lives_disciplined` puts them together for
every interleaving of any number of programs.
-/

import CouncilLogic.Agent.Custody
import CouncilLogic.ConfigLaws

namespace CouncilLogic
namespace Agent

open Client
open Columns (Stamp)

variable {K α : Type} {pf : Platform K} {v v' : Vault K} {p p' : Grip}
  {tokenSha256 planHash runId sha : Str} {post : Except AgentErr α → Grip → Vault K → Prop}

/-! ### Paid runs -/

/-- Whether a seat is paid is read off the lock as off the configuration. -/
theorem paidSeat_canon (c : ProviderConfig) :
    paidSeat (Json.canon (.obj c.toDict)) = !Config.isMock c := by
  have hname : Dict.get? (Dict.canon c.toDict) (lit "name") = some (.str c.name) := by
    rw [Dict.get?_canon_eq]
    rfl
  have hobj : Json.canon (.obj c.toDict) = .obj (Dict.canon c.toDict) := rfl
  rw [hobj]
  simp only [paidSeat, hname]
  rfl

/-- The lock of a run names paid providers where its configuration does. -/
theorem paid_canon (config : AppConfig) :
    paid (Json.canon (.arr (config.providers.map fun c => .obj c.toDict))) =
      Approval.isPaid config.toRunConfig := by
  have hall : ∀ l : List ProviderConfig,
      (Json.canonItems (l.map fun c => .obj c.toDict)).any paidSeat =
        l.any fun c => !Config.isMock c := by
    intro l
    induction l with
    | nil => rfl
    | cons c l ih =>
      rw [List.map_cons, Json.canonItems, List.any_cons, List.any_cons, ih, paidSeat_canon]
  exact hall config.providers

/-- An engine has the paid providers of its configuration. -/
theorem isPaid_engine {d : Config.Deployment} {config engine : AppConfig}
    (h : Config.engineOf d config = .ok engine) :
    Approval.isPaid engine.toRunConfig = Approval.isPaid config.toRunConfig := by
  have hnames : ∀ l l' : List ProviderConfig,
      (∀ name, name ∈ l.map ProviderConfig.name ↔ name ∈ l'.map ProviderConfig.name) →
      (l.any fun c => !Config.isMock c) = true → (l'.any fun c => !Config.isMock c) = true := by
    intro l l' hiff hany
    obtain ⟨c, hc, hmock⟩ := List.any_eq_true.1 hany
    obtain ⟨c', hc', hname⟩ := List.mem_map.1 ((hiff c.name).1 (List.mem_map_of_mem hc))
    refine List.any_eq_true.2 ⟨c', hc', ?_⟩
    unfold Config.isMock at hmock ⊢
    rw [hname]
    exact hmock
  unfold Config.engineOf at h
  cases hproviders : Config.providersOf d config.providers with
  | error e =>
    rw [hproviders] at h
    cases h
  | ok built =>
    obtain ⟨-, rfl⟩ := Config.providersOf_ok_iff.1 hproviders
    obtain ⟨-, hmem⟩ := @Config.names_foldl_put config.providers [] List.nodup_nil
    simp only [List.map_nil, List.not_mem_nil, false_or] at hmem
    rw [hproviders] at h
    simp only [Bind.bind, Except.bind] at h
    split at h
    · cases h
    · obtain rfl := Except.ok.inj h
      rw [Bool.eq_iff_iff]
      exact ⟨hnames _ _ hmem, hnames _ _ fun name => (hmem name).symm⟩

/-- An approval is attached to the run. -/
def Backed (v : Vault K) (runId : Str) : Prop :=
  ∃ t a, v.approval t = some a ∧ a.runId = some runId

/-- A run that has an approval keeps it. -/
theorem Backed.grows (h : Backed v runId) (hgrows : v.Grows v') : Backed v' runId := by
  obtain ⟨t, a, ha, hrun⟩ := h
  obtain ⟨b, hb, hlater⟩ := hgrows.approvals t a ha
  exact ⟨t, b, hb, hlater.runId runId hrun⟩

/-! ### Steps -/

/-- A program may change the tables of the runs, as long as the locks stay. -/
theorem acts_tables {t : Runs.Tables} (h : Inv pf v) (hp : p.Valid v)
    (hkeeps : Keeps v.tables t) : Acts pf p p v { v with tables := t } :=
  .keep (grows_onTables hkeeps.locks) (h.onTables hkeeps.locks (hkeeps.identities h.identities))
    hp rfl

/-- A program may create the key of the directory or read it. -/
theorem acts_key (h : Inv pf v) (hp : p.Valid v) (key : Option (Option K)) :
    Acts pf p p v { v with key := key } :=
  .keep ⟨List.prefix_refl _, fun _ a ha => ⟨a, ha, .refl a⟩, fun _ _ hq => hq, List.prefix_refl _,
    List.prefix_refl _⟩ ⟨h.identities, h.tokens, h.calls, h.approved, h.attached, h.resumed⟩ hp rfl

/-- A call of `council approve` holds its number. -/
theorem acts_approve (args : ApproveArgs K) (h : Inv pf v) (hp : p.Valid v) :
    Acts pf p { p with call := some v.calls.length } v { v with calls := v.calls ++ [args] } := by
  have hgrows : v.Grows { v with calls := v.calls ++ [args] } :=
    ⟨List.prefix_refl _, fun _ a ha => ⟨a, ha, .refl a⟩, fun _ _ hq => hq, List.prefix_refl _,
      List.prefix_append _ _⟩
  refine ⟨hgrows, h.called args, fun _ _ ha => .inl ha, fun _ ht => .inl ht, fun _ hi => .inl hi,
    ?_, fun b hb => .inl ⟨b, hb, rfl⟩, hp.token, hp.bound, ?_⟩
  · rintro _ ⟨⟩
    exact .inr le_rfl
  · rintro _ ⟨⟩
    refine ⟨by simp, fun b hb hcall => ?_⟩
    -- a recorded call is one that was made before
    obtain ⟨_, _, hfound, -⟩ := h.approved b hb
    obtain ⟨hlt, -⟩ := List.getElem?_eq_some_iff.1 hfound
    rw [hcall] at hlt
    exact absurd hlt (lt_irrefl _)

/-- A bound request is found under its own id, and the others as before. -/
theorem request_bind {q : AgentRequestRow} (hfree : v.request q.requestId = none) (i : Str) :
    ({ v with requests := v.requests ++ [q] } : Vault K).request i =
      if q.requestId = i then some q else v.request i :=
  Rows.find_append (fun b hb => Rows.find_eq_none.1 hfree b hb) i

/-- A program may bind a request that is not bound, and is then the one that has bound it. -/
theorem acts_bind {q : AgentRequestRow} (h : Inv pf v) (hp : p.Valid v)
    (hfree : v.request q.requestId = none) :
    Acts pf p { p with bound := some q.requestId } v { v with requests := v.requests ++ [q] } := by
  have hgrows : v.Grows { v with requests := v.requests ++ [q] } := by
    refine ⟨List.prefix_refl _, fun _ a ha => ⟨a, ha, .refl a⟩, fun i q' hq' => ?_,
      List.prefix_refl _, List.prefix_refl _⟩
    rw [request_bind hfree, if_neg]
    · exact hq'
    · rintro rfl
      rw [hfree] at hq'
      cases hq'
  have hinv : Inv pf { v with requests := v.requests ++ [q] } :=
    ⟨h.identities, h.tokens, h.calls, h.approved, h.attached, h.resumed⟩
  refine ⟨hgrows, hinv, fun _ _ ha => .inl ha, fun _ ht => .inl ht, ?_, fun _ hn => .inl hn,
    fun b hb => .inl ⟨b, hb, rfl⟩, hp.token, ?_, hp.call⟩
  · rintro _ ⟨⟩
    exact .inr hfree
  · rintro _ ⟨⟩
    rw [request_bind hfree, if_pos rfl]
    rintro ⟨⟩

/-- The approval of a call is recorded once. -/
theorem acts_record {a : ApprovalRow} (h : Inv pf v) (hp : p.Valid v)
    (hcall : p.call = some a.call) (hfree : v.approval a.tokenSha256 = none)
    (happroved : HumanApproved pf v.calls a) (hfresh : a.runId = none) :
    Acts pf p { p with call := none } v { v with approvals := v.approvals ++ [a] } := by
  have hkept : ∀ t b, v.approval t = some b →
      ({ v with approvals := v.approvals ++ [a] } : Vault K).approval t = some b := by
    intro t b hb
    rw [approval_record hfree, if_neg]
    · exact hb
    · rintro rfl
      rw [hfree] at hb
      cases hb
  refine ⟨grows_record hfree, h.record hfree (hp.call _ hcall).2 happroved hfresh,
    fun t b hb => .inl (hkept t b hb), fun _ ht => .inl ht, fun _ hi => .inl hi,
    by rintro n ⟨⟩, fun b hb => ?_, fun t ht => ?_, hp.bound, by rintro n ⟨⟩⟩
  · rcases List.mem_append.1 hb with hb | hb
    · exact .inl ⟨b, hb, rfl⟩
    · exact .inr (List.mem_singleton.1 hb ▸ hcall)
  · obtain ⟨b, hb, hrest⟩ := hp.token t ht
    exact ⟨b, hkept t b hb, hrest⟩

/-- A program may consume an approval that is not consumed, and holds it from then on. -/
theorem acts_consume {a : ApprovalRow} (now : Stamp) (h : Inv pf v) (hp : p.Valid v)
    (ha : v.approval tokenSha256 = some a) (hfresh : a.consumedAt = none) :
    Acts pf p { p with token := some tokenSha256 } v
      (v.updateApproval tokenSha256 (consumed now)) := by
  have hunattached : a.runId = none := by
    cases hrun : a.runId with
    | none => rfl
    | some r => exact absurd hfresh (h.attached a (Rows.find_some ha).1 r hrun).1
  have hlater : ∀ b, v.approval tokenSha256 = some b → b.Later (consumed now b) := by
    intro b hb
    rw [ha] at hb
    exact later_consumed (Option.some.inj hb ▸ hfresh)
  refine ⟨grows_update (changes_consumed now) hlater,
    h.update (changes_consumed now) hlater fun b hb r hr => .inl hr, fun t b hb => ?_, ?_,
    fun _ hi => .inl hi, fun _ hn => .inl hn,
    fun b hb => .inl (recorded_update (changes_consumed now) b hb), ?_, hp.bound,
    hp.call_update (changes_consumed now)⟩
  · rw [approval_update (changes_consumed now)]
    by_cases ht : t = tokenSha256
    · rw [ht, ha] at hb
      exact .inr (.inr ⟨congrArg some ht.symm, Option.some.inj hb ▸ hfresh⟩)
    · rw [if_neg ht]
      exact .inl hb
  · rintro _ ⟨⟩
    exact .inr ⟨a, ha, hfresh⟩
  · rintro _ ⟨⟩
    refine ⟨consumed now a, ?_, by rintro ⟨⟩, hunattached⟩
    rw [approval_update (changes_consumed now), if_pos rfl, ha]
    rfl

/-- A program may attach the approval it holds to a run of the plan the approval is for, and lets
go of it. -/
theorem acts_attach (h : Inv pf v) (hp : p.Valid v) (htoken : p.token = some tokenSha256)
    (hplanned : ∀ a, v.approval tokenSha256 = some a →
      ∃ l ∈ locks v.tables, l.identity.id = runId ∧
        PlannedFor pf a.planHash l.identity.requestSha256) :
    Acts pf p { p with token := none } v (v.updateApproval tokenSha256 (attachedTo runId)) ∧
      Backed (v.updateApproval tokenSha256 (attachedTo runId)) runId := by
  obtain ⟨a, ha, hconsumed, hnone⟩ := hp.token tokenSha256 htoken
  have hinv : Inv pf (v.updateApproval tokenSha256 (attachedTo runId)) := by
    refine h.update (changes_attachedTo runId) (fun b _ => later_attachedTo) fun b hb r hr => ?_
    rcases runId_attachedTo hr with hold | ⟨-, rfl⟩
    · exact .inl hold
    · rw [ha] at hb
      obtain rfl := Option.some.inj hb
      exact .inr ⟨hconsumed, hplanned a ha⟩
  refine ⟨⟨grows_update (changes_attachedTo runId) fun b _ => later_attachedTo, hinv,
    fun t b hb => ?_, by rintro t ⟨⟩, fun _ hi => .inl hi, fun _ hn => .inl hn,
    fun b hb => .inl (recorded_update (changes_attachedTo runId) b hb), by rintro t ⟨⟩, hp.bound,
    hp.call_update (changes_attachedTo runId)⟩,
    tokenSha256, attachedTo runId a, ?_, ?_⟩
  · rw [approval_update (changes_attachedTo runId)]
    by_cases ht : t = tokenSha256
    · exact .inr (.inl (ht ▸ htoken))
    · rw [if_neg ht]
      exact .inl hb
  · rw [approval_update (changes_attachedTo runId), if_pos rfl, ha]
    rfl
  · unfold attachedTo
    rw [if_pos hnone]

/-- A program may begin the work on a run when the run needs no approval, or has one. -/
theorem acts_resumed {row : Runs.Row} (h : Inv pf v) (hp : p.Valid v)
    (hrow : v.tables.run runId = some row) (hpaid : paid row.providerConfigs = true →
      Backed v runId) : Acts pf p p v { v with resumed := v.resumed ++ [runId] } := by
  refine .keep ⟨List.prefix_refl _, fun _ a ha => ⟨a, ha, .refl a⟩, fun _ _ hq => hq,
    List.prefix_append _ _, List.prefix_refl _⟩
    ⟨h.identities, h.tokens, h.calls, h.approved, h.attached, fun r hr => ?_⟩ hp rfl
  rcases List.mem_append.1 hr with hr | hr
  · exact h.resumed r hr
  · rw [List.mem_singleton.1 hr]
    refine ⟨lockOf row, List.mem_map_of_mem (Rows.find_some hrow).1, (Rows.find_some hrow).2,
      fun hpaid' => ?_⟩
    obtain ⟨t, a, ha, hrun⟩ := hpaid hpaid'
    exact ⟨a, (Rows.find_some ha).1, hrun⟩

/-! ### Programs -/

/-- The rule of a read and what follows it. -/
theorem sound_look_bind {β : Type} {f : Vault K → β} {g : β → Program K α}
    (h : ∀ v₁, v.Grows v₁ → Inv pf v₁ → (g (f v₁)).Sound (custody pf) post p v₁) :
    (look f >>= g).Sound (custody pf) post p v := by
  refine sound_perform_bind fun v₁ r v₂ hsees hinv hvalid hrun => ?_
  cases hrun
  refine ⟨p, Acts.refl hinv hvalid, ?_, by rintro e ⟨⟩⟩
  rintro _ ⟨⟩
  exact h v₁ (seen_grows hsees) hinv

/-- The rule of a method on the tables of the runs and what follows it. -/
theorem sound_onTables_bind {β : Type} {t : Runs.Sql β} {f : β → Program K α}
    (hkeeps : ∀ tables x tables', t.run tables = (x, tables') → Keeps tables tables')
    (hok : ∀ v₁ b tables', v.Grows v₁ → t.run v₁.tables = (.ok b, tables') →
      (f b).Sound (custody pf) post p { v₁ with tables := tables' })
    (herror : ∀ e v₁, v.Grows v₁ → post (.error e) p v₁) :
    (perform (onTables t) >>= f).Sound (custody pf) post p v := by
  refine sound_perform_bind fun v₁ r v₂ hsees hinv hvalid hrun => ?_
  obtain ⟨x, tables', htables, rfl, rfl⟩ := onTables_run hrun
  have hkept := hkeeps _ _ _ htables
  refine ⟨p, acts_tables hinv hvalid hkept, fun b hb => ?_, fun e _ => ?_⟩
  · cases x with
    | error e => cases hb
    | ok b' =>
      obtain rfl := Except.ok.inj hb
      exact hok v₁ b' tables' (seen_grows hsees) htables
  · exact herror e _ ((seen_grows hsees).trans (grows_onTables hkept.locks))

/-- What `claimApproval` leaves: it holds the approval that it has consumed. -/
def Claimed (plan : PlanRecord) :
    Except AgentErr (Option (Str × Consumed)) → Grip → Vault K → Prop
  | .ok none, p, _ => p.token = none ∧ plan.approvalRequired = false
  | .ok (some (token, _)), p, v =>
    p.token = some token ∧ ∃ a, v.approval token = some a ∧ a.planHash = plan.planHash
  | .error _, _, _ => True

/-- Claiming an approval for a plan consumes one of that plan, or raises. -/
theorem claimApproval_sound (env : Env) (args : CreateArgs) (plan : PlanRecord) :
    (claimApproval pf env args plan).Sound (custody pf) (Claimed plan) {} v := by
  unfold claimApproval
  split
  · refine sound_look_bind fun v₁ _ _ => sound_ofExcept_bind (fun token _ => ?_)
      fun _ _ => trivial
    refine sound_perform_bind fun v₂ r v₃ _ hinv hvalid hrun => ?_
    rcases consumeRunApproval_cases hrun with ⟨e, rfl, rfl⟩ | ⟨row, hrow, hplan, hfresh, rfl, rfl⟩
    · exact ⟨{}, Acts.refl hinv hvalid, by rintro _ ⟨⟩, fun _ _ => trivial⟩
    · refine ⟨_, acts_consume env.consumedAt hinv hvalid hrow hfresh, ?_, by rintro _ ⟨⟩⟩
      rintro _ ⟨⟩
      refine ⟨rfl, consumed env.consumedAt row, ?_, hplan⟩
      exact (approval_update (changes_consumed _) token).trans
        ((if_pos rfl).trans (congrArg (Option.map (consumed env.consumedAt)) hrow))
  · rename_i hfree
    exact ⟨rfl, Bool.eq_false_iff.2 hfree⟩

/-- What `createRun` leaves: a run with the digest of the request. -/
def CreatedFor (pf : Platform K) (engine : AppConfig) (question : Str) (v₀ : Vault K)
    (p₀ : Grip) (r : Except AgentErr Str) (p : Grip) (v : Vault K) : Prop :=
  p = p₀ ∧ v₀.Grows v ∧ ∀ id, r = .ok id → ∃ l ∈ locks v.tables, l.identity.id = id ∧
    l.identity.requestSha256 = pf.sha256 (runRequest pf.toRuntime engine question).text

/-- A run that is created has the lock of the plan it was created from. -/
theorem createRun_sound (env : Env) (engine : AppConfig) (question : Str) (key : Option Str) :
    (createRun pf env engine question key).Sound (custody pf)
      (CreatedFor pf engine question v p) p v := by
  refine sound_ofExcept_bind (fun _ _ => ?_) fun e _ => ⟨rfl, .refl v, by rintro _ ⟨⟩⟩
  refine sound_look_bind fun v₁ hgrows _ => ?_
  refine sound_perform fun v₂ r v₃ hsees hinv hvalid hrun => ?_
  obtain ⟨x, tables', htables, rfl, rfl⟩ := onTables_run hrun
  obtain ⟨hkeeps, hcreated⟩ := createRun_keeps htables
  refine ⟨p, acts_tables hinv hvalid hkeeps, rfl,
    (hgrows.trans (seen_grows hsees)).trans (grows_onTables hkeeps.locks), fun id hid => ?_⟩
  cases x with
  | error e => cases hid
  | ok id' => exact hcreated id (congrArg Except.ok (Except.ok.inj hid))

/-- The row of a request names its run. -/
def Bound (v : Vault K) (requestId payloadSha256 runId : Str) : Prop :=
  ∃ q, v.request requestId = some q ∧ q.payloadSha256 = payloadSha256 ∧ q.runId = runId

/-- A request stays bound to its run. -/
theorem Bound.grows {requestId payload : Str} (h : Bound v requestId payload runId)
    (hgrows : v.Grows v') : Bound v' requestId payload runId := by
  obtain ⟨q, hq, hrest⟩ := h
  exact ⟨q, hgrows.requests _ q hq, hrest⟩

/-- What `bindRequest` leaves: the request, when it has an id, is bound to the run. -/
def BoundTo (args : CreateArgs) (runId : Str) (v₀ : Vault K) (p₀ : Grip)
    (r : Except AgentErr Unit) (p : Grip) (v : Vault K) : Prop :=
  p.token = p₀.token ∧ v₀.Grows v ∧ (r = .ok () → ∀ requestId payload,
    args.requestId = some requestId → args.requestPayloadSha256 = some payload →
      p.bound = some requestId ∧ Bound v requestId payload runId)

/-- A request is bound to the new run, or it was bound before and the program raises. -/
theorem bindRequest_sound (env : Env) (args : CreateArgs) :
    (bindRequest env args runId).Sound (custody pf) (BoundTo args runId v p) p v := by
  unfold bindRequest
  split
  · rename_i requestId payload hid hpayload
    refine sound_perform fun v₁ r v₂ hsees hinv hvalid hrun => ?_
    rcases bindAgentRequest_cases hrun with ⟨e, rfl, rfl⟩ | ⟨rfl, hfree, -, rfl⟩
    · exact ⟨p, Acts.refl hinv hvalid, rfl, seen_grows hsees, by rintro ⟨⟩⟩
    · have hacts := @acts_bind _ _ _ _ ⟨requestId, payload, runId, env.boundAt⟩ hinv hvalid hfree
      refine ⟨_, hacts, rfl, (seen_grows hsees).trans hacts.grows, ?_⟩
      rintro - id payload' hid' hpayload'
      obtain rfl := Option.some.inj (hid.symm.trans hid')
      obtain rfl := Option.some.inj (hpayload.symm.trans hpayload')
      exact ⟨rfl, _, (request_bind hfree _).trans (if_pos rfl), rfl, rfl⟩
  · rename_i hnone
    exact ⟨rfl, .refl v, fun _ id payload hid hpayload => absurd hpayload (hnone id payload hid)⟩

/-- What `attach` leaves: the run has an approval, when one was needed. -/
def AttachedTo (approval : Option (Str × Consumed)) (runId : Str) (v₀ : Vault K)
    (p₀ : Grip) (r : Except AgentErr Unit) (p : Grip) (v : Vault K) : Prop :=
  p.bound = p₀.bound ∧ v₀.Grows v ∧ (r = .ok () → approval ≠ none → Backed v runId)

/-- An approval that was claimed is attached to the run, and the run is backed. -/
theorem attach_sound (env : Env) (approval : Option (Str × Consumed))
    (hp : p.token = approval.map Prod.fst)
    (hplanned : ∀ t c, approval = some (t, c) → ∃ a, v.approval t = some a ∧
      ∃ l ∈ locks v.tables, l.identity.id = runId ∧
        PlannedFor pf a.planHash l.identity.requestSha256) :
    (attach pf env runId approval).Sound (custody pf) (AttachedTo approval runId v p) p v := by
  cases approval with
  | none => exact ⟨rfl, .refl v, fun _ h => absurd rfl h⟩
  | some pair =>
    obtain ⟨token, approval⟩ := pair
    refine sound_perform_bind fun v₁ r v₂ hsees hinv hvalid hrun => ?_
    have hgrows := seen_grows hsees
    rcases attachRunApproval_cases hrun with ⟨e, rfl, rfl⟩ | ⟨rfl, rfl⟩
    · exact ⟨p, Acts.refl hinv hvalid, by rintro _ ⟨⟩, fun _ _ => ⟨rfl, hgrows, by rintro ⟨⟩⟩⟩
    · have hplanned₁ : ∀ a, v₁.approval token = some a → ∃ l ∈ locks v₁.tables,
          l.identity.id = runId ∧ PlannedFor pf a.planHash l.identity.requestSha256 := by
        intro a ha
        obtain ⟨a₀, ha₀, l, hl, hrest⟩ := hplanned token approval rfl
        obtain rfl := Option.some.inj ((ha.symm.trans (seen_kept hp hsees)).trans ha₀)
        exact ⟨l, hgrows.locks.subset hl, hrest⟩
      obtain ⟨hacts, hbacked⟩ := acts_attach hinv hvalid hp hplanned₁
      refine ⟨_, hacts, ?_, by rintro _ ⟨⟩⟩
      rintro _ ⟨⟩
      refine sound_perform fun v₃ r v₄ hsees' hinv' hvalid' hrun' => ?_
      obtain ⟨x, tables', htables, rfl, rfl⟩ := onTables_run hrun'
      have hkeeps := appendEvent_keeps htables
      have hlater := (seen_grows hsees').trans (grows_onTables hkeeps.locks)
      exact ⟨_, acts_tables hinv' hvalid' hkeeps, rfl, (hgrows.trans hacts.grows).trans hlater,
        fun _ _ => hbacked.grows hlater⟩

/-- What `guardedCreate` leaves. -/
structure Guarded (args : CreateArgs) (d : Config.Deployment) (p : Grip) (v : Vault K)
    (engine : AppConfig) (runId : Str) : Prop where
  engine : Config.engineOf d args.config = .ok engine
  backed : Approval.isPaid args.config.toRunConfig = true → Backed v runId
  bound : ∀ requestId payload, args.requestId = some requestId →
    args.requestPayloadSha256 = some payload →
      p.bound = some requestId ∧ Bound v requestId payload runId

/-- A plan requires an approval exactly when one of its seats is paid. -/
theorem approvalRequired_planRecord {draws : Workload.PlanDraws} {config : AppConfig}
    {question : Str} {plan : PlanRecord}
    (h : planRecord pf.toRuntime pf.urlparse draws config question = .ok plan) :
    plan.approvalRequired = Approval.isPaid config.toRunConfig := by
  unfold planRecord at h
  obtain ⟨workload, -, h⟩ := Except.bind_ok_iff.1 h
  simp only [Bind.bind, Except.bind] at h
  split at h
  · cases h
  split at h
  · cases h
  split at h
  · cases h
  split at h
  · cases h
  obtain rfl := Except.ok.inj h
  rfl

/-- A value that is computed, or an exception, and what follows it. -/
theorem sound_computed_bind {β : Type} {x : Except PyErr β} {f : β → Program K α}
    (hok : ∀ b, x = .ok b → (f b).Sound (custody pf) post p v)
    (herror : ∀ e, post (.error e) p v) :
    (computed x >>= f).Sound (custody pf) post p v := by
  refine sound_ofExcept_bind (fun b hb => ?_) fun e _ => herror e
  cases x with
  | error e => cases hb
  | ok b' => exact hok b (congrArg Except.ok (Except.ok.inj hb))

/-- What `guarded_create` leaves where it returns. -/
def GuardedAs (args : CreateArgs) (d : Config.Deployment) (r : Except AgentErr (AppConfig × Str))
    (p : Grip) (v : Vault K) : Prop :=
  ∀ engine runId, r = .ok (engine, runId) → Guarded args d p v engine runId

/-- **A guarded creation keeps the discipline**: it claims an approval where one is needed,
creates the run, binds the request and attaches the approval to the run. -/
theorem guardedCreate_sound (env : Env) (args : CreateArgs) :
    (guardedCreate pf env args).Sound (custody pf) (GuardedAs args env.deployment) {} v := by
  have herror : ∀ (e : AgentErr) (p : Grip) (v : Vault K),
      GuardedAs args env.deployment (.error e) p v := by
    rintro e p v engine runId ⟨⟩
  refine sound_computed_bind (fun plan hplan => ?_) fun e => herror e _ _
  refine (claimApproval_sound env args plan).bind (fun approval p v₁ hclaimed => ?_)
    fun e p v _ => herror e p v
  refine sound_computed_bind (fun engine hengine => ?_) fun e => herror e _ _
  refine (createRun_sound env engine args.question args.idempotencyKey).bind
    (fun runId p' v₂ hcreated => ?_) fun e p v _ => herror e p v
  obtain ⟨rfl, hgrows₂, hlock⟩ := hcreated
  obtain ⟨l, hl, hid, hsha⟩ := hlock runId rfl
  refine (bindRequest_sound env args).bind (fun _ p'' v₃ hbound => ?_) fun e p v _ => herror e p v
  obtain ⟨htoken, hgrows₃, hbound⟩ := hbound
  have hp : p''.token = approval.map Prod.fst := by
    rw [htoken]
    cases approval with
    | none => exact hclaimed.1
    | some pair => exact hclaimed.1
  have hgrows : v₁.Grows v₃ := hgrows₂.trans hgrows₃
  refine (attach_sound env approval hp ?_).bind (fun _ p''' v₄ hattached => ?_)
    fun e p v _ => herror e p v
  · rintro t c rfl
    obtain ⟨-, a, ha, hash⟩ := hclaimed
    obtain ⟨b, hb, hlater⟩ := hgrows.approvals t a ha
    refine ⟨b, hb, l, hgrows₃.locks.subset hl, hid, ?_⟩
    exact ⟨env.plan, env.deployment, args.config, args.question, plan, engine, hplan,
      hash.symm.trans hlater.planHash.symm, hengine, hsha⟩
  · obtain ⟨hsame, hgrows₄, hbacked⟩ := hattached
    intro engine' runId' hr
    obtain ⟨rfl, rfl⟩ := Prod.mk.inj (Except.ok.inj hr)
    refine ⟨hengine, fun hpaid => hbacked rfl ?_,
      fun requestId payload hid hpayload => ?_⟩
    · rintro rfl
      have hfree := hclaimed.2
      rw [approvalRequired_planRecord hplan, hpaid] at hfree
      cases hfree
    · obtain ⟨hown, hrow⟩ := hbound rfl _ _ hid hpayload
      exact ⟨hsame.trans hown, hrow.grows hgrows₄⟩

/-- What `resume` leaves: the work on the run was begun. -/
def ResumedAs (runId : Str) (v₀ : Vault K) (p₀ : Grip) (r : Except AgentErr Unit) (p : Grip)
    (v : Vault K) : Prop :=
  p = p₀ ∧ v₀.Grows v ∧ (r = .ok () → runId ∈ v.resumed)

/-- A resume begins the work on its run, which has an approval where it is paid for. -/
theorem resume_sound {d : Config.Deployment} {config engine : AppConfig}
    (hengine : Config.engineOf d config = .ok engine)
    (hpaid : Approval.isPaid config.toRunConfig = true → Backed v runId) :
    (resume pf engine runId).Sound (custody pf) (ResumedAs runId v p) p v := by
  refine sound_perform fun v₁ r v₂ hsees hinv hvalid hrun => ?_
  have hgrows := seen_grows hsees
  rcases beginResume_cases hrun with ⟨e, rfl, rfl⟩ | ⟨rfl, row, hrow, hfits, rfl⟩
  · exact ⟨p, Acts.refl hinv hvalid, rfl, hgrows, by rintro ⟨⟩⟩
  · have hproviders : row.providerConfigs =
        Json.canon (.arr (engine.providers.map fun p => .obj p.toDict)) := hfits.providers
    have hbacked : paid row.providerConfigs = true → Backed v₁ runId := by
      intro h
      rw [hproviders, paid_canon, isPaid_engine hengine] at h
      exact (hpaid h).grows hgrows
    have hacts := acts_resumed hinv hvalid hrow hbacked
    exact ⟨p, hacts, rfl, hgrows.trans hacts.grows,
      fun _ => List.mem_append_right _ List.mem_cons_self⟩

/-! ### Tasks -/

/-- What holds when a task is done. -/
def Answered : Except AgentErr Answer → Grip → Vault K → Prop
  | .ok (.ran runId), _, v => runId ∈ v.resumed
  | .ok (.reply request runId replayed), p, v =>
    ∀ requestId, request.requestId = some requestId →
      Bound v requestId request.payloadSha256 runId ∧ (replayed = false → p.bound = some requestId)
  | _, _, _ => True

/-- Loading the key creates it where there is none, and takes nothing back. -/
theorem loadKey_sound (newKey : K) :
    (loadKey pf newKey).Sound (custody pf) (fun _ p' v' => p' = p ∧ v.Grows v') p v := by
  refine sound_look_bind fun v₁ hgrows _ => ?_
  cases v₁.storedKey pf.emptyKey with
  | some key => exact ⟨rfl, hgrows⟩
  | none =>
    refine sound_perform_bind fun v₂ r v₃ hsees hinv hvalid hrun => ?_
    have hacts : Acts pf p p v₂ v₃ := by
      rcases createKeyFile_cases hrun with rfl | rfl
      · exact Acts.refl hinv hvalid
      · exact acts_key hinv hvalid _
    have hcreated := (hgrows.trans (seen_grows hsees)).trans hacts.grows
    refine ⟨p, hacts, fun _ _ => ?_, fun _ _ => ⟨rfl, hcreated⟩⟩
    refine sound_perform_bind fun v₄ r' v₅ hsees' hinv' hvalid' hrun' => ?_
    cases hrun'
    have hwritten := acts_key hinv' hvalid' (some (some newKey))
    have hlater := (hcreated.trans (seen_grows hsees')).trans hwritten.grows
    exact ⟨p, hwritten, fun _ _ => ⟨rfl, hlater⟩, fun _ _ => ⟨rfl, hlater⟩⟩

/-- **`council approve` keeps the discipline**: it records one approval at most, for the plan it
was shown. -/
theorem approve_sound (env : Env) (args : ApproveArgs K) :
    (approve pf env args).Sound (custody pf) Answered {} v := by
  refine sound_perform_bind fun v₀ r v₁ _ hinv hvalid hrun => ?_
  cases hrun
  refine ⟨_, acts_approve args hinv hvalid, fun call hcall => ?_, fun _ _ => trivial⟩
  obtain rfl := Except.ok.inj hcall
  refine sound_computed_bind (fun record hrecord => ?_) fun _ => trivial
  split
  · exact trivial
  rename_i hrequired
  split
  · exact trivial
  rename_i hhash
  split
  · exact trivial
  rename_i hatty
  split
  · exact trivial
  rename_i htyped
  have hconfirms : args.Confirms pf record :=
    ⟨⟨env.plan, hrecord⟩, by simpa using hrequired, (not_not.1 hhash).symm, by simpa using hatty,
      not_not.1 htyped⟩
  refine (loadKey_sound args.newKey).bind (fun key p v₂ hkey => ?_) fun _ _ _ _ => trivial
  obtain ⟨rfl, hgrows⟩ := hkey
  refine sound_ofExcept_bind (fun token _ => ?_) fun _ _ => trivial
  refine sound_perform_bind fun v₃ r v₄ hsees hinv' hvalid' hrun => ?_
  rcases recordRunApproval_cases hrun with rfl | ⟨hfree, rfl⟩
  · exact ⟨_, Acts.refl hinv' hvalid', fun _ _ => trivial, fun _ _ => trivial⟩
  · -- the call has kept its number
    have hlogged : (v₀.calls ++ [args]) <+: v₃.calls := (hgrows.trans (seen_grows hsees)).calls
    have hnumber : (v₀.calls ++ [args])[v₀.calls.length]? = some args := by simp
    have happroved : HumanApproved pf v₃.calls ⟨pf.sha256 token, record.planHash,
        Str.strip args.approvedBy, record.estimate.maxCalls, env.recordedAt, none, none,
        v₀.calls.length⟩ := by
      have hfirst : HumanApproved pf (v₀.calls ++ [args]) ⟨pf.sha256 token, record.planHash,
          Str.strip args.approvedBy, record.estimate.maxCalls, env.recordedAt, none, none,
          v₀.calls.length⟩ := ⟨args, record, hnumber, hconfirms, rfl, rfl, rfl⟩
      exact hfirst.grows hlogged
    exact ⟨_, acts_record hinv' hvalid' rfl hfree happroved rfl, fun _ _ => trivial,
      fun _ _ => trivial⟩

/-- A guarded run keeps the discipline. -/
theorem guardedRun_sound (env : Env) (unneeded : Workload.PlanDraws) (args : CreateArgs) :
    (guardedRun pf env unneeded args).Sound (custody pf) Answered {} v := by
  refine sound_computed_bind (fun plan hplan => ?_) fun _ => trivial
  split
  · refine (guardedCreate_sound env { args with
      requestId := none
      requestPayloadSha256 := none }).bind (fun x p v₁ hguarded => ?_) fun _ _ _ _ => trivial
    have hguarded := hguarded x.1 x.2 rfl
    refine (resume_sound hguarded.engine hguarded.backed).bind (fun _ p' v₂ hresumed => ?_)
      fun _ _ _ _ => trivial
    exact hresumed.2.2 rfl
  rename_i hfree
  rw [approvalRequired_planRecord hplan] at hfree
  refine sound_computed_bind (fun engine hengine => ?_) fun _ => trivial
  refine (createRun_sound env engine args.question args.idempotencyKey).bind
    (fun runId p v₁ _ => ?_) fun _ _ _ _ => trivial
  refine (resume_sound hengine fun hpaid => absurd hpaid hfree).bind (fun _ p' v₂ hresumed => ?_)
    fun _ _ _ _ => trivial
  exact hresumed.2.2 rfl

/-- A run that needs an approval and is let through has one. -/
theorem neededApproval_sound (config : AppConfig) :
    (neededApproval config runId).Sound (custody pf)
      (fun r (_ : Grip) v => ∀ a, r = .ok (some a) → Backed v runId) p v := by
  unfold neededApproval
  split
  · refine sound_perform fun v₁ r v₂ _ hinv hvalid hrun => ?_
    obtain ⟨rfl, hrows⟩ := runApprovalFor_cases hrun
    refine ⟨p, Acts.refl hinv hvalid, fun a ha => ?_⟩
    obtain ⟨hmem, hrun, -⟩ := hrows a ha
    exact ⟨_, a, approval_of_mem hinv hmem, hrun⟩
  · rintro a ⟨⟩

/-- `council resume` keeps the discipline: it begins the work on a paid run only when the run has
an approval. -/
theorem resumeCommand_sound (env : Env) (locked : Runs.Row → Except PyErr AppConfig) :
    (resumeCommand pf env locked runId).Sound (custody pf) Answered {} v := by
  refine sound_look_bind fun v₁ _ _ => ?_
  cases v₁.tables.run runId with
  | none => exact trivial
  | some row =>
    refine sound_computed_bind (fun config _ => ?_) fun _ => trivial
    refine (neededApproval_sound config).bind (fun approval p v₂ hbacked => ?_)
      fun _ _ _ _ => trivial
    split
    · exact trivial
    rename_i hallowed
    refine sound_computed_bind (fun engine hengine => ?_) fun _ => trivial
    refine (resume_sound hengine fun hpaid => ?_).bind (fun _ p' v₃ hresumed => ?_)
      fun _ _ _ _ => trivial
    · cases approval with
      | none => exact absurd ⟨hpaid, rfl⟩ hallowed
      | some a => exact hbacked a rfl
    · exact hresumed.2.2 rfl

/-- Asking for the status of a run changes nothing. -/
theorem runStatus_sound (v₀ : Vault K) :
    (runStatus runId).Sound (custody pf) (fun _ p' v => p' = p ∧ v₀.Grows v) p v₀ := by
  refine sound_look_bind fun v₁ hgrows _ => ?_
  cases v₁.tables.run runId with
  | none => exact ⟨rfl, hgrows⟩
  | some row => exact ⟨rfl, hgrows⟩

/-- An agent's request that is new keeps the discipline. -/
theorem handleNew_sound (env : Env) (request : AgentRequest) :
    (handleNew pf env request).Sound (custody pf) Answered {} v := by
  refine sound_ofExcept_bind (fun selected _ => ?_) fun _ _ => trivial
  refine sound_ofExcept_bind (fun _ _ => ?_) fun _ _ => trivial
  refine (guardedCreate_sound env _).bind (fun x p v₁ hguarded => ?_) fun _ _ _ _ => trivial
  have hguarded := hguarded x.1 x.2 rfl
  have hreply : ∀ v₂, v₁.Grows v₂ → Answered (.ok (.reply request x.2 false)) p v₂ := by
    intro v₂ hgrows requestId hid
    obtain ⟨hown, hbound⟩ := hguarded.bound requestId request.payloadSha256 hid rfl
    exact ⟨hbound.grows hgrows, fun _ => hown⟩
  dsimp only
  split
  · refine (runStatus_sound v₁).bind (fun _ p' v₂ hstatus => ?_) fun _ _ _ _ => trivial
    obtain ⟨rfl, hgrows⟩ := hstatus
    exact hreply v₂ hgrows
  · refine (resume_sound hguarded.engine hguarded.backed).bind (fun _ p' v₂ hresumed => ?_)
      fun _ _ _ _ => trivial
    obtain ⟨rfl, hgrows, -⟩ := hresumed
    exact hreply v₂ hgrows

/-- An agent's request for a run keeps the discipline, whether it is new or was answered before.
-/
theorem handleRun_sound (env : Env) (request : AgentRequest) :
    (handleRun pf env request).Sound (custody pf) Answered {} v := by
  unfold handleRun
  cases hid : request.requestId with
  | none => exact handleNew_sound env request
  | some requestId =>
    refine sound_perform_bind fun v₁ r v₂ _ hinv hvalid hrun => ?_
    obtain ⟨rfl, hfound⟩ := getAgentRequest_cases hrun
    refine ⟨{}, Acts.refl hinv hvalid, fun q hq => ?_, fun _ _ => trivial⟩
    cases q with
    | none => exact handleNew_sound env request
    | some existing =>
      dsimp only
      split
      · exact trivial
      rename_i hsame
      refine (runStatus_sound v₂).bind (fun _ p v₃ hstatus => ?_) fun _ _ _ _ => trivial
      intro id hid'
      obtain rfl := Option.some.inj (hid.symm.trans hid')
      exact ⟨⟨existing, hstatus.2.requests _ _ (hfound _ hq), not_not.1 hsame, rfl⟩, by rintro ⟨⟩⟩

/-- **Every task keeps the discipline**, whatever the others do. -/
theorem task_sound (task : Task K) : (task.program pf).Sound (custody pf) Answered {} v := by
  cases task with
  | approve env args => exact approve_sound env args
  | run env unneeded args => exact guardedRun_sound env unneeded args
  | resume env locked runId => exact resumeCommand_sound env locked
  | handle env request => exact handleRun_sound env request
  | write w =>
    exact sound_onTables_bind (fun _ _ _ h => method_keeps h) (fun _ _ _ _ _ => trivial)
      fun _ _ _ => trivial

/-! ### Lives -/

/-- The life of a data directory: tasks start, make their steps in any order, and stop. -/
abbrev Lives (pf : Platform K) :
    Vault K × List (Program K Answer) → Vault K × List (Program K Answer) → Prop :=
  Turns fun c => ∃ task : Task K, task.program pf = c

variable {x y : Vault K × List (Program K Answer)}

/-- The discipline is kept while the programs take turns. -/
theorem lives_turns (h : Lives pf x y) (hx : Disciplined (custody pf) Answered x) :
    Disciplined (custody pf) Answered y ∧ x.1.Grows y.1 := by
  have hclients : ∀ c : Program K Answer, (∃ task : Task K, task.program pf = c) →
      ∀ v, Inv pf v → c.Sound (custody pf) Answered {} v := by
    rintro _ ⟨task, rfl⟩ v -
    exact task_sound task
  have hgrows : ∀ {v v'}, Relation.ReflTransGen (custody pf).Moves v v' → v.Grows v' := by
    intro v v' hmoves
    induction hmoves with
    | refl => exact .refl v
    | tail _ hmove ih =>
      obtain ⟨-, p, p', -, hacts⟩ := hmove
      exact ih.trans hacts.grows
  obtain ⟨hy, hmoves⟩ := hx.turns hclients h
  exact ⟨hy, hgrows hmoves⟩

/-- **In every life of a data directory the discipline holds**, whatever programs have been
started on it and wherever they have stopped. -/
theorem lives_disciplined (h : Lives pf ({}, []) x) : Disciplined (custody pf) Answered x :=
  (lives_turns h (disciplined_start inv_empty)).1

end Agent
end CouncilLogic
