/-
# Who holds an approval

A program that has consumed an approval holds it until it attaches it to a run, and no other
program touches its row in between: it is neither consumed nor attached by anyone else.  A
program that has bound a request is the only one that did, and a call of `council approve` records
one approval at most.  Under that discipline every attached approval is one of the plan of its
run, and every run of paid providers whose work was begun has one.

The rows are those of the tables `run_approvals` and `agent_requests` in
`src/model_council/store.py`.  The discipline is an assumption about the other programs and a
promise of each, in the manner of rely and guarantee; `CouncilLogic.Agent.ProgramLaws` shows that
every program keeps it, and `CouncilLogic.Lib.Clients` that it then holds of them all together.
-/

import CouncilLogic.Agent.VaultLaws

namespace CouncilLogic
namespace Agent

open Transaction
open Columns (Stamp)

variable {K α : Type} {pf : Platform K} {v v' : Vault K} {a : ApprovalRow}
  {tokenSha256 planHash runId sha : Str}

/-! ### What approvals are for -/

/-- A seat whose calls are paid for, in the lock of a run. -/
def paidSeat : Json → Bool
  | .obj seat =>
    match Dict.get? seat (lit "name") with
    | some (.str name) => !(lit "mock").isPrefixOf name
    | _ => false
  | _ => false

/-- The lock of a run names a provider whose calls are paid for. -/
def paid : Json → Bool
  | .arr seats => seats.any paidSeat
  | _ => false

/-- The hash is that of a plan for a run with that digest of its request. -/
def PlannedFor (pf : Platform K) (planHash sha : Str) : Prop :=
  ∃ draws d config question plan engine,
    planRecord pf.toRuntime pf.urlparse draws config question = .ok plan ∧
      plan.planHash = planHash ∧ Config.engineOf d config = .ok engine ∧
      sha = pf.sha256 (runRequest pf.toRuntime engine question).text

/-- The call was made at a terminal, by a human who gave the hash of a plan of paid calls and typed
its beginning. -/
structure ApproveArgs.Confirms (pf : Platform K) (args : ApproveArgs K) (record : PlanRecord) :
    Prop where
  planned : ∃ draws, planRecord pf.toRuntime pf.urlparse draws args.config args.question =
    .ok record
  required : record.approvalRequired = true
  planHash : Str.strip args.planHash = record.planHash
  isatty : args.isatty = true
  typed : Str.strip args.typed = record.planHash.take 12

/-- The row was recorded by a call that a human made at a terminal, for the plan and the ceiling
of that call and in the name that it gives. -/
def HumanApproved (pf : Platform K) (calls : List (ApproveArgs K)) (a : ApprovalRow) : Prop :=
  ∃ args record, calls[a.call]? = some args ∧ args.Confirms pf record ∧
    a.planHash = record.planHash ∧ a.maxCalls = record.estimate.maxCalls ∧
    a.approvedBy = Str.strip args.approvedBy

/-- An approval that a human has given stays given by that call. -/
theorem HumanApproved.grows {calls calls' : List (ApproveArgs K)}
    (h : HumanApproved pf calls a) (hcalls : calls <+: calls') : HumanApproved pf calls' a := by
  obtain ⟨args, record, hcall, hrest⟩ := h
  obtain ⟨hlt, -⟩ := List.getElem?_eq_some_iff.1 hcall
  obtain ⟨later, rfl⟩ := hcalls
  exact ⟨args, record, (List.getElem?_append_left hlt).trans hcall, hrest⟩

/-- What always holds of a data directory. -/
structure Inv (pf : Platform K) (v : Vault K) : Prop where
  identities : Runs.IdentityInv v.tables.identities
  tokens : Rows.Unique ApprovalRow.tokenSha256 v.approvals
  calls : Rows.Unique ApprovalRow.call v.approvals
  approved : ∀ a ∈ v.approvals, HumanApproved pf v.calls a
  attached : ∀ a ∈ v.approvals, ∀ r, a.runId = some r → a.consumedAt ≠ none ∧
    ∃ l ∈ locks v.tables, l.identity.id = r ∧ PlannedFor pf a.planHash l.identity.requestSha256
  resumed : ∀ r ∈ v.resumed, ∃ l ∈ locks v.tables, l.identity.id = r ∧
    (paid l.providerConfigs = true → ∃ a ∈ v.approvals, a.runId = some r)

/-- In an empty directory there is nothing to keep. -/
theorem inv_empty : Inv pf ({} : Vault K) where
  identities := ⟨.nil, .nil, by rintro _ ⟨⟩, by rintro _ ⟨⟩⟩
  tokens := .nil
  calls := .nil
  approved := by rintro _ ⟨⟩
  attached := by rintro _ ⟨⟩
  resumed := by rintro _ ⟨⟩

/-- An approval is found under the digest of its token. -/
theorem approval_of_mem (h : Inv pf v) (ha : a ∈ v.approvals) :
    v.approval a.tokenSha256 = some a := Rows.find_key h.tokens ha

/-- A run has one lock. -/
theorem Inv.lock_inj (h : Inv pf v) {l l' : Locked} (hl : l ∈ locks v.tables)
    (hl' : l' ∈ locks v.tables) (hid : l.identity.id = l'.identity.id) : l = l' := by
  obtain ⟨row, hrow, rfl⟩ := List.mem_map.1 hl
  obtain ⟨row', hrow', rfl⟩ := List.mem_map.1 hl'
  exact congrArg lockOf ((Runs.unique_id_iff.2 h.identities.ids).eq hrow hrow' hid)

/-! ### Changes of the tables -/

/-- A change of the tables that keeps the locks of the runs. -/
theorem Inv.onTables {t : Runs.Tables} (h : Inv pf v) (hlocks : locks v.tables <+: locks t)
    (hids : Runs.IdentityInv t.identities) : Inv pf { v with tables := t } where
  identities := hids
  tokens := h.tokens
  calls := h.calls
  approved := h.approved
  attached a ha r hr := by
    obtain ⟨hconsumed, l, hl, hrest⟩ := h.attached a ha r hr
    exact ⟨hconsumed, l, hlocks.subset hl, hrest⟩
  resumed r hr := by
    obtain ⟨l, hl, hrest⟩ := h.resumed r hr
    exact ⟨l, hlocks.subset hl, hrest⟩

/-- Tables that only gain locks take nothing back. -/
theorem grows_onTables {t : Runs.Tables} (hlocks : locks v.tables <+: locks t) :
    v.Grows { v with tables := t } :=
  ⟨hlocks, fun _ a h => ⟨a, h, .refl a⟩, fun _ _ h => h, List.prefix_refl _, List.prefix_refl _⟩

/-! ### Changes of the approvals -/

/-- Another call of `council approve`. -/
theorem Inv.called (h : Inv pf v) (args : ApproveArgs K) :
    Inv pf { v with calls := v.calls ++ [args] } where
  identities := h.identities
  tokens := h.tokens
  calls := h.calls
  approved b hb := (h.approved b hb).grows (List.prefix_append _ _)
  attached := h.attached
  resumed := h.resumed

/-- A new approval of a human. -/
theorem Inv.record (h : Inv pf v) (hfree : v.approval a.tokenSha256 = none)
    (hcall : ∀ b ∈ v.approvals, b.call ≠ a.call) (happroved : HumanApproved pf v.calls a)
    (hfresh : a.runId = none) : Inv pf { v with approvals := v.approvals ++ [a] } where
  identities := h.identities
  tokens := h.tokens.append fun b hb => Rows.find_eq_none.1 hfree b hb
  calls := h.calls.append hcall
  approved b hb := by
    rcases List.mem_append.1 hb with hb | hb
    · exact h.approved b hb
    · exact List.mem_singleton.1 hb ▸ happroved
  attached b hb r hr := by
    rcases List.mem_append.1 hb with hb | hb
    · exact h.attached b hb r hr
    · rw [List.mem_singleton.1 hb, hfresh] at hr
      cases hr
  resumed r hr := by
    obtain ⟨l, hl, hid, hpaid⟩ := h.resumed r hr
    refine ⟨l, hl, hid, fun hp => ?_⟩
    obtain ⟨b, hb, hbr⟩ := hpaid hp
    exact ⟨b, List.mem_append_left _ hb, hbr⟩

/-- A recorded approval is found under its own digest, and the others as before. -/
theorem approval_record (hfree : v.approval a.tokenSha256 = none) (t : Str) :
    ({ v with approvals := v.approvals ++ [a] } : Vault K).approval t =
      if a.tokenSha256 = t then some a else v.approval t :=
  Rows.find_append (fun b hb => Rows.find_eq_none.1 hfree b hb) t

/-- Recording an approval takes nothing back. -/
theorem grows_record (hfree : v.approval a.tokenSha256 = none) :
    v.Grows { v with approvals := v.approvals ++ [a] } := by
  refine ⟨List.prefix_refl _, fun t b hb => ⟨b, ?_, .refl b⟩, fun _ _ h => h, List.prefix_refl _,
    List.prefix_refl _⟩
  rw [approval_record hfree, if_neg]
  · exact hb
  · rintro rfl
    rw [hfree] at hb
    cases hb

/-- A change of one approval. -/
structure Changes (f : ApprovalRow → ApprovalRow) : Prop where
  token : ∀ a, (f a).tokenSha256 = a.tokenSha256
  planHash : ∀ a, (f a).planHash = a.planHash
  approvedBy : ∀ a, (f a).approvedBy = a.approvedBy
  maxCalls : ∀ a, (f a).maxCalls = a.maxCalls
  approvedAt : ∀ a, (f a).approvedAt = a.approvedAt
  call : ∀ a, (f a).call = a.call

/-- An update changes the approval under one digest. -/
theorem approval_update {f : ApprovalRow → ApprovalRow} (hf : Changes f) (t : Str) :
    (v.updateApproval tokenSha256 f).approval t =
      if t = tokenSha256 then (v.approval tokenSha256).map f else v.approval t :=
  Rows.find_change_key (fun r hr => (hf.token r).trans hr) t

/-- An update that only goes forward takes nothing back. -/
theorem grows_update {f : ApprovalRow → ApprovalRow} (hf : Changes f)
    (hlater : ∀ b, v.approval tokenSha256 = some b → b.Later (f b)) :
    v.Grows (v.updateApproval tokenSha256 f) := by
  refine ⟨List.prefix_refl _, fun t b hb => ?_, fun _ _ h => h, List.prefix_refl _,
    List.prefix_refl _⟩
  rw [approval_update hf]
  by_cases ht : t = tokenSha256
  · rw [if_pos ht]
    rw [ht] at hb
    rw [hb]
    exact ⟨f b, rfl, hlater b hb⟩
  · rw [if_neg ht]
    exact ⟨b, hb, .refl b⟩

/-- What is kept when one approval changes. -/
theorem Inv.update {f : ApprovalRow → ApprovalRow} (h : Inv pf v) (hf : Changes f)
    (hlater : ∀ b, v.approval tokenSha256 = some b → b.Later (f b))
    (hattached : ∀ b, v.approval tokenSha256 = some b → ∀ r, (f b).runId = some r →
      b.runId = some r ∨ b.consumedAt ≠ none ∧ ∃ l ∈ locks v.tables, l.identity.id = r ∧
        PlannedFor pf b.planHash l.identity.requestSha256) :
    Inv pf (v.updateApproval tokenSha256 f) where
  identities := h.identities
  tokens := h.tokens.change hf.token
  calls := h.calls.change hf.call
  approved b hb := by
    rcases Rows.mem_change.1 hb with ⟨c, hc, -, rfl⟩ | ⟨hb, -⟩
    · obtain ⟨args, record, hcall, hconfirms, hplan, hcalls, hname⟩ := h.approved c hc
      exact ⟨args, record, (congrArg (fun n => v.calls[n]?) (hf.call c)).trans hcall, hconfirms,
        (hf.planHash c).trans hplan, (hf.maxCalls c).trans hcalls, (hf.approvedBy c).trans hname⟩
    · exact h.approved b hb
  attached b hb r hr := by
    rcases Rows.mem_change.1 hb with ⟨c, hc, htoken, rfl⟩ | ⟨hb, -⟩
    · have hfind : v.approval tokenSha256 = some c := htoken ▸ approval_of_mem h hc
      have hconsumed : c.consumedAt ≠ none → (f c).consumedAt ≠ none := by
        intro hne
        obtain ⟨t, ht⟩ := Option.ne_none_iff_exists'.1 hne
        rw [(hlater c hfind).consumedAt t ht]
        rintro ⟨⟩
      rw [hf.planHash]
      rcases hattached c hfind r hr with hold | ⟨hne, hnew⟩
      · obtain ⟨hne, hrest⟩ := h.attached c hc r hold
        exact ⟨hconsumed hne, hrest⟩
      · exact ⟨hconsumed hne, hnew⟩
    · exact h.attached b hb r hr
  resumed r hr := by
    obtain ⟨l, hl, hid, hpaid⟩ := h.resumed r hr
    refine ⟨l, hl, hid, fun hp => ?_⟩
    obtain ⟨b, hb, hbr⟩ := hpaid hp
    by_cases htoken : b.tokenSha256 = tokenSha256
    · have hfind : v.approval tokenSha256 = some b := htoken ▸ approval_of_mem h hb
      exact ⟨f b, Rows.mem_change.2 (.inl ⟨b, hb, htoken, rfl⟩), (hlater b hfind).runId r hbr⟩
    · exact ⟨b, Rows.mem_change.2 (.inr ⟨hb, htoken⟩), hbr⟩

/-- `SET consumed_at`. -/
def consumed (now : Stamp) (a : ApprovalRow) : ApprovalRow := { a with consumedAt := some now }

/-- `SET run_id … WHERE run_id IS NULL`. -/
def attachedTo (runId : Str) (a : ApprovalRow) : ApprovalRow :=
  if a.runId = none then { a with runId := some runId } else a

/-- Consuming changes when an approval was consumed and nothing else. -/
theorem changes_consumed (now : Stamp) : Changes (consumed now) :=
  ⟨fun _ => rfl, fun _ => rfl, fun _ => rfl, fun _ => rfl, fun _ => rfl, fun _ => rfl⟩

/-- Attaching changes the run of an approval and nothing else. -/
theorem changes_attachedTo (runId : Str) : Changes (attachedTo runId) := by
  constructor <;> intro a <;> unfold attachedTo <;> split <;> rfl

/-- An approval that is consumed has gone forward. -/
theorem later_consumed {now : Stamp} (h : a.consumedAt = none) : a.Later (consumed now a) :=
  ⟨rfl, rfl, rfl, rfl, rfl, fun t ht => absurd (h ▸ ht) (by rintro ⟨⟩), fun _ hr => hr, rfl⟩

/-- An approval that is attached has gone forward. -/
theorem later_attachedTo : a.Later (attachedTo runId a) := by
  unfold attachedTo
  split
  · rename_i h
    exact ⟨rfl, rfl, rfl, rfl, rfl, fun _ ht => ht, fun r hr => absurd (h ▸ hr) (by rintro ⟨⟩),
      rfl⟩
  · exact .refl a

/-- An attached approval keeps the run it has. -/
theorem runId_attachedTo {r : Str} (h : (attachedTo runId a).runId = some r) :
    a.runId = some r ∨ a.runId = none ∧ r = runId := by
  unfold attachedTo at h
  split at h
  · rename_i hnone
    exact .inr ⟨hnone, (Option.some.inj h).symm⟩
  · exact .inl h

/-! ### The discipline -/

/-- What a program holds: an approval that it has consumed and has yet to attach, a request that
it was the one to bind, and the call of `council approve` that it is, until it has recorded an
approval. -/
structure Grip where
  token : Option Str := none
  bound : Option Str := none
  call : Option ℕ := none

/-- The approval is consumed, and not yet attached. -/
def Held (v : Vault K) (tokenSha256 : Str) : Prop :=
  ∃ a, v.approval tokenSha256 = some a ∧ a.consumedAt ≠ none ∧ a.runId = none

/-- What is held is there. -/
structure Grip.Valid (p : Grip) (v : Vault K) : Prop where
  token : ∀ t, p.token = some t → Held v t
  bound : ∀ i, p.bound = some i → v.request i ≠ none
  call : ∀ n, p.call = some n → n < v.calls.length ∧ ∀ a ∈ v.approvals, a.call ≠ n

/-- What a program does that holds `p` before and `p'` after: the approvals it touches are
those that it holds or takes. -/
structure Acts (pf : Platform K) (p p' : Grip) (v v' : Vault K) : Prop where
  grows : v.Grows v'
  inv : Inv pf v'
  touched : ∀ t a, v.approval t = some a → v'.approval t = some a ∨ p.token = some t ∨
    p'.token = some t ∧ a.consumedAt = none
  taken : ∀ t, p'.token = some t → p.token = some t ∨
    ∃ a, v.approval t = some a ∧ a.consumedAt = none
  bound : ∀ i, p'.bound = some i → p.bound = some i ∨ v.request i = none
  called : ∀ n, p'.call = some n → p.call = some n ∨ v.calls.length ≤ n
  recorded : ∀ a ∈ v'.approvals, (∃ b ∈ v.approvals, b.call = a.call) ∨ p.call = some a.call
  valid : p'.Valid v'

/-- What others do to a program that holds `p`. -/
structure Others (p : Grip) (v v' : Vault K) : Prop where
  grows : v.Grows v'
  kept : ∀ t, p.token = some t → v'.approval t = v.approval t

/-- Nothing is held by both. -/
structure Grip.Apart (p q : Grip) : Prop where
  token : ∀ t, p.token = some t → q.token ≠ some t
  bound : ∀ i, p.bound = some i → q.bound ≠ some i
  call : ∀ n, p.call = some n → q.call ≠ some n

/-- What a program holds, it still holds when the others have left its approval alone. -/
theorem Grip.Valid.grows {p : Grip} (h : p.Valid v) (hgrows : v.Grows v')
    (hkept : ∀ t, p.token = some t → v'.approval t = v.approval t)
    (hrecorded : ∀ a ∈ v'.approvals,
      (∃ b ∈ v.approvals, b.call = a.call) ∨ p.call ≠ some a.call) : p.Valid v' where
  token t ht := by
    obtain ⟨a, ha, hrest⟩ := h.token t ht
    exact ⟨a, (hkept t ht).trans ha, hrest⟩
  bound i hi := by
    obtain ⟨q, hq⟩ := Option.ne_none_iff_exists'.1 (h.bound i hi)
    rw [hgrows.requests i q hq]
    rintro ⟨⟩
  call n hn := by
    obtain ⟨hlt, hfree⟩ := h.call n hn
    refine ⟨hlt.trans_le hgrows.calls.length_le, fun a ha => ?_⟩
    rcases hrecorded a ha with ⟨b, hb, hsame⟩ | hother
    · exact hsame ▸ hfree b hb
    · rintro rfl
      exact hother hn

/-- An approval is held by one program at most, and a request is bound by one. -/
def custody (pf : Platform K) : Client.Discipline (Vault K) Grip where
  inv := Inv pf
  valid := Grip.Valid
  may := Acts pf
  sees := Others
  apart := Grip.Apart
  start := {}
  symm h := ⟨fun t hq hp => h.token t hp hq, fun i hq hp => h.bound i hp hq,
    fun n hq hp => h.call n hp hq⟩
  apart_start := ⟨by rintro t ⟨⟩, by rintro i ⟨⟩, by rintro n ⟨⟩⟩
  valid_start _ := ⟨by rintro t ⟨⟩, by rintro i ⟨⟩, by rintro n ⟨⟩⟩
  keeps _ _ h := ⟨h.inv, h.valid⟩
  frames := by
    intro p p' q v v' hinv hp hq hapart h
    have hkept : ∀ t, q.token = some t → v'.approval t = v.approval t := by
      intro t ht
      obtain ⟨a, ha, hconsumed, -⟩ := hq.token t ht
      rcases h.touched t a ha with hsame | hmine | ⟨-, hnone⟩
      · rw [hsame, ha]
      · exact absurd ht (hapart.token t hmine)
      · exact absurd hnone hconsumed
    have hrecorded : ∀ a ∈ v'.approvals,
        (∃ b ∈ v.approvals, b.call = a.call) ∨ q.call ≠ some a.call := fun a ha =>
      (h.recorded a ha).imp_right fun hmine => hapart.call a.call hmine
    refine ⟨⟨h.grows, hkept⟩, hq.grows h.grows hkept hrecorded, fun t hp' ht => ?_,
      fun i hp' hi => ?_, fun n hp' hn => ?_⟩
    · rcases h.taken t hp' with hold | ⟨a, ha, hfresh⟩
      · exact hapart.token t hold ht
      · obtain ⟨b, hb, hconsumed, -⟩ := hq.token t ht
        rw [ha] at hb
        obtain rfl := Option.some.inj hb
        exact hconsumed hfresh
    · rcases h.bound i hp' with hold | hfree
      · exact hapart.bound i hold hi
      · exact hq.bound i hi hfree
    · rcases h.called n hp' with hold | hnew
      · exact hapart.call n hold hn
      · exact absurd (hq.call n hn).1 (not_lt.2 hnew)

/-- What is found under a digest depends on the approvals alone. -/
theorem approval_congr (h : v'.approvals = v.approvals) (t : Str) :
    v'.approval t = v.approval t := by
  unfold Vault.approval
  rw [h]

/-- A change that takes nothing and leaves the approvals as they are. -/
theorem Acts.keep {p : Grip} (hgrows : v.Grows v') (hinv : Inv pf v') (hp : p.Valid v)
    (happrovals : v'.approvals = v.approvals) : Acts pf p p v v' where
  grows := hgrows
  inv := hinv
  touched t _ ha := .inl ((approval_congr happrovals t).trans ha)
  taken _ ht := .inl ht
  bound _ hi := .inl hi
  called _ hn := .inl hn
  recorded b hb := .inl ⟨b, happrovals ▸ hb, rfl⟩
  valid := hp.grows hgrows (fun t _ => approval_congr happrovals t)
    fun b hb => .inl ⟨b, happrovals ▸ hb, rfl⟩

/-- Doing nothing keeps the discipline. -/
theorem Acts.refl {p : Grip} (h : Inv pf v) (hp : p.Valid v) : Acts pf p p v v :=
  .keep (.refl v) h hp rfl

/-- What a change of one approval leaves of the calls. -/
theorem recorded_update {f : ApprovalRow → ApprovalRow} (hf : Changes f) :
    ∀ b ∈ (v.updateApproval tokenSha256 f).approvals, ∃ c ∈ v.approvals, c.call = b.call := by
  intro b hb
  rcases Rows.mem_change.1 hb with ⟨c, hc, -, rfl⟩ | ⟨hb, -⟩
  · exact ⟨c, hc, (hf.call c).symm⟩
  · exact ⟨b, hb, rfl⟩

/-- The call of a program is still its own after a change of one approval. -/
theorem Grip.Valid.call_update {p : Grip} {f : ApprovalRow → ApprovalRow} (h : p.Valid v)
    (hf : Changes f) (n : ℕ) (hn : p.call = some n) :
    n < (v.updateApproval tokenSha256 f).calls.length ∧
      ∀ a ∈ (v.updateApproval tokenSha256 f).approvals, a.call ≠ n := by
  refine ⟨(h.call n hn).1, fun b hb => ?_⟩
  obtain ⟨c, hc, hsame⟩ := recorded_update hf b hb
  exact hsame ▸ (h.call n hn).2 c hc

/-- What others do is seen as growth. -/
theorem seen_grows {p : Grip} (h : (custody pf).Sees p v v') : v.Grows v' := by
  induction h with
  | refl => exact .refl v
  | tail _ hstep ih => exact ih.trans hstep.grows

/-- What the others do leaves the approval that a program holds as it is. -/
theorem seen_kept {p : Grip} {t : Str} (ht : p.token = some t) (h : (custody pf).Sees p v v') :
    v'.approval t = v.approval t := by
  induction h with
  | refl => rfl
  | tail _ hstep ih => exact (hstep.kept t ht).trans ih

end Agent
end CouncilLogic
