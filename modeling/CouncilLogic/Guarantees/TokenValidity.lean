/-
# The validity of a registered token

A token that `put_bearer_token` or `rotate_bearer_token` has taken is accepted in the period that
was asked for, as long as its principal is enabled, until the tokens of the principal change
again; unless the token was there already.  `put_bearer_token` then compares the two periods,
`rotate_bearer_token` does not, and goes on with the stored one.

The methods are in `src/model_council/service_store.py`, and so is `authenticate_bearer`, which
compares the two time stamps of the row with the clock.
-/

import CouncilLogic.Guarantees.RetiredTokens

namespace CouncilLogic
namespace Service

variable {δ : Type} [DecidableEq δ] {digest : Str → δ} {st st' : TokenStore δ}
  {request : TokenRequest} {now : DateTime}

/-! ### Periods -/

namespace DateTime

/-- A time is determined by its fields. -/
theorem key_injective : Function.Injective key := by
  rintro ⟨year, month, day, time⟩ ⟨year', month', day', time'⟩ h
  obtain ⟨rfl, h⟩ := Prod.mk.inj (toLex.injective h)
  obtain ⟨rfl, h⟩ := Prod.mk.inj (toLex.injective h)
  obtain ⟨rfl, rfl⟩ := Prod.mk.inj (toLex.injective h)
  rfl

/-- Times are compared field by field. -/
theorem before_iff {a b : DateTime} : a.before b = true ↔ a.key < b.key := decide_eq_true_iff

/-- A time that is not before another comes after it or is the same. -/
theorem not_before_iff {a b : DateTime} : a.before b = false ↔ b.key ≤ a.key := by
  rw [← Bool.not_eq_true, before_iff, not_lt]

/-- A period that is not empty is known from its moments. -/
theorem period_eq {a b c d : DateTime} (hab : a.before b = true)
    (h : ∀ t : DateTime, (t.before a = false ∧ t.before b = true) ↔
      (t.before c = false ∧ t.before d = true)) : c = a ∧ d = b := by
  simp only [before_iff, not_before_iff] at h hab
  obtain ⟨hca, had⟩ := (h a).1 ⟨le_rfl, hab⟩
  obtain ⟨hac, -⟩ := (h c).2 ⟨le_rfl, hca.trans_lt had⟩
  have hdb : d.key ≤ b.key := not_lt.1 fun hlt =>
    absurd ((h b).2 ⟨hca.trans hab.le, hlt⟩).2 (lt_irrefl _)
  have hbd : b.key ≤ d.key := not_lt.1 fun hlt =>
    absurd ((h d).1 ⟨had.le, hlt⟩).2 (lt_irrefl _)
  exact ⟨key_injective (le_antisymm hca hac), key_injective (le_antisymm hdb hbd)⟩

end DateTime

/-! ### Sound tables -/

/-- The tables are well-formed, and every token is one of a principal. -/
structure TokenStore.Sound (st : TokenStore δ) : Prop where
  wellFormed : st.WellFormed
  owners : ∀ row ∈ st.tokens, (st.principal? row.principalId).isSome = true

namespace TokenStore

omit [DecidableEq δ] in
/-- An empty store is sound. -/
theorem sound_empty : (⟨[], [], []⟩ : TokenStore δ).Sound := by
  refine ⟨⟨List.nodup_nil, List.nodup_nil, ?_⟩, ?_⟩
  · rintro hash ⟨t, ht, -⟩
    cases ht
  · intro row hrow
    cases hrow

/-- Operations on tokens leave the principals alone. -/
theorem call_principals (op : TokenOp) : (op.call digest st).1.principals = st.principals := by
  obtain ⟨rows, reason, retiredAt, heq | ⟨_, -, -, -, -, heq⟩⟩ := @call_cases δ _ st digest op <;>
    rw [heq] <;> rfl

/-- The tokens after a call are from before, or one of a known principal. -/
theorem call_owners (h : st.Sound) (op : TokenOp) :
    ∀ row ∈ (op.call digest st).1.tokens, (st.principal? row.principalId).isSome = true := by
  intro row hrow
  obtain ⟨rows, reason, retiredAt, heq | ⟨request, -, -, -, hknown, heq⟩⟩ :=
    @call_cases δ _ st digest op
  · rw [heq] at hrow
    exact h.owners row (List.mem_of_mem_filter hrow)
  · rw [heq] at hrow
    rcases List.mem_append.1 hrow with hrow | hrow
    · exact h.owners row (List.mem_of_mem_filter hrow)
    · rw [List.mem_singleton.1 hrow]
      exact hknown

end TokenStore

/-- A principal stays known. -/
theorem TokenMove.known (h : TokenMove digest st st') {principalId : Str}
    (hknown : (st.principal? principalId).isSome = true) :
    (st'.principal? principalId).isSome = true := by
  unfold TokenStore.principal? at hknown ⊢
  cases h with
  | call op => rwa [TokenStore.call_principals]
  | putPrincipal principal hnew =>
    dsimp only
    rw [Rows.find_append (Rows.find_eq_none.1 hnew)]
    split
    · rfl
    · exact hknown
  | setEnabled other enabled =>
    dsimp only
    rw [Rows.find_change_key]
    · split
      · rename_i heq
        rw [Option.isSome_map, ← heq]
        exact hknown
      · exact hknown
    · exact fun _ h => h

/-- **The tables stay sound**, whatever happens to them. -/
theorem TokenMove.sound (h : TokenMove digest st st') (hs : st.Sound) : st'.Sound := by
  refine ⟨(h.leadsTo hs.wellFormed).1, fun row hrow => h.known ?_⟩
  cases h with
  | call op => exact TokenStore.call_owners hs op row hrow
  | putPrincipal => exact hs.owners row hrow
  | setEnabled => exact hs.owners row hrow

/-- Whatever is done with the tokens, the store stays sound. -/
theorem moves_sound (h : Relation.ReflTransGen (TokenMove digest) st st') (hs : st.Sound) :
    st'.Sound := by
  induction h with
  | refl => exact hs
  | tail _ hlast ih => exact hlast.sound ih

/-! ### What is promised -/

/-- A later state; in the meantime the tokens of the principal were not changed. -/
def TokenStore.Later (digest : Str → δ) (principalId : Str) : TokenStore δ → TokenStore δ → Prop :=
  Relation.ReflTransGen fun st st' => TokenMove digest st st' ∧
    st'.tokens.filter (TokenStore.ofPrincipal principalId) =
      st.tokens.filter (TokenStore.ofPrincipal principalId)

/-- The token is accepted in the period that was asked for while the principal is enabled, at no
other time, and as a token of that principal. -/
def TokenRequest.ValidIn (digest : Str → δ) (request : TokenRequest) (st : TokenStore δ) : Prop :=
  ∀ now, ∃ answer, st.authenticateBearer digest request.bearerToken now = .ok answer ∧
    (answer.isSome = true ↔ now.before request.issuedAt = false ∧
      now.before request.expiresAt = true ∧
      ∃ principal, st.principal? request.principalId = some principal ∧
        principal.enabled = true) ∧
    ∀ p, answer = some p → p.principalId = request.principalId ∧
      (st.principal? request.principalId).map PrincipalRow.tenant = some p.tenant

/-- No other token of the principal is accepted. -/
def TokenRequest.OnlyIn (digest : Str → δ) (request : TokenRequest) (st : TokenStore δ) : Prop :=
  ∀ token now p, st.authenticateBearer digest token now = .ok (some p) →
    p.principalId = request.principalId → digest token = digest request.bearerToken

/-- The call registers the token. -/
def TokenOp.Registers (request : TokenRequest) (op : TokenOp) : Prop :=
  op = .put request ∨ ∃ now, op = .rotate request now

namespace TokenStore

/-- The row of the token that is registered: the stored one, if there is one. -/
theorem registered_row (hs : st.Sound) {op : TokenOp} (hop : op.Registers request)
    (hok : (op.call digest st).2 = .ok ()) :
    request.check = .ok () ∧ ∃ row ∈ (op.call digest st).1.tokens,
      row.tokenHash = digest request.bearerToken ∧ row.principalId = request.principalId ∧
        (st.byDigest (digest request.bearerToken) = some row ∨
          st.byDigest (digest request.bearerToken) = none ∧ row = newRow digest request) := by
  have hnone : ¬ st.Active (digest request.bearerToken) →
      st.byDigest (digest request.bearerToken) = none := fun hactive =>
    Rows.find_eq_none.2 fun row hrow hsame => hactive ⟨row, hrow, hsame⟩
  rcases hop with rfl | ⟨now, rfl⟩
  · obtain ⟨hcheck, ⟨row, hrow, hhash, hprincipal, -, -, heq⟩ | ⟨-, hactive, -, -, heq⟩⟩ :=
      put_cases hok
    · refine ⟨hcheck, row, ?_, hhash, hprincipal,
        .inl ((Rows.find_eq_some hs.wellFormed.digests).2 ⟨hrow, hhash⟩)⟩
      rw [TokenOp.call, heq]
      exact hrow
    · refine ⟨hcheck, newRow digest request, ?_, rfl, rfl, .inr ⟨hnone hactive, rfl⟩⟩
      rw [TokenOp.call, heq]
      exact List.mem_append_right _ (List.mem_singleton_self _)
  · obtain ⟨hcheck, -, ⟨row, reason, retiredAt, hrow, hprincipal, -, heq⟩ |
      ⟨reason, retiredAt, -, hactive, -, heq⟩⟩ := rotate_cases hok
    · obtain ⟨hmem, hhash⟩ := Rows.find_some hrow
      refine ⟨hcheck, row, ?_, hhash, hprincipal, .inl hrow⟩
      rw [TokenOp.call, heq]
      exact List.mem_filter.2 ⟨hmem, by simp⟩
    · refine ⟨hcheck, newRow digest request, ?_, rfl, rfl, .inr ⟨hnone hactive, rfl⟩⟩
      rw [TokenOp.call, heq]
      exact List.mem_append_right _ (List.mem_singleton_self _)

/-- **`authenticate_bearer`** answers with the row of the token. -/
theorem authenticate_row (hs : st.Sound) (hcheck : request.check = .ok ()) {row : TokenRow δ}
    (hrow : row ∈ st.tokens) (hhash : row.tokenHash = digest request.bearerToken)
    (now : DateTime) :
    ∃ principal, st.principal? row.principalId = some principal ∧
      st.authenticateBearer digest request.bearerToken now =
        .ok (if principal.enabled = true ∧ row.revokedAt = none ∧
            now.before row.issuedAt = false ∧ now.before row.expiresAt = true then
          some ⟨principal.principalId, principal.tenant, row.tokenId⟩ else none) := by
  obtain ⟨principal, hprincipal⟩ := Option.isSome_iff_exists.1 (hs.owners row hrow)
  refine ⟨principal, hprincipal, ?_⟩
  unfold TokenRequest.check at hcheck
  obtain ⟨_, -, hcheck⟩ := Except.bind_ok_iff.1 hcheck
  obtain ⟨_, -, hcheck⟩ := Except.bind_ok_iff.1 hcheck
  obtain ⟨_, htoken, hcheck⟩ := Except.bind_ok_iff.1 hcheck
  obtain ⟨-, hcheck⟩ := guard_ok hcheck
  obtain ⟨-, hcheck⟩ := guard_ok hcheck
  have hencodable : request.bearerToken.encodable = true := by
    by_contra hnot
    rw [if_pos (by simpa using hnot)] at hcheck
    cases hcheck
  have hfind : st.byDigest (digest request.bearerToken) = some row :=
    (Rows.find_eq_some hs.wellFormed.digests).2 ⟨hrow, hhash⟩
  unfold authenticateBearer
  rw [htoken, hencodable, hfind]
  simp only [bind, Except.bind, Bool.not_true, Bool.false_eq_true, if_false, hprincipal]
  cases principal.enabled <;> cases row.revokedAt <;> cases now.before row.issuedAt <;>
    cases now.before row.expiresAt <;> rfl

/-- The token of a row is valid as asked for if the row says so. -/
theorem validIn_row (hs : st.Sound) (hcheck : request.check = .ok ()) {row : TokenRow δ}
    (hrow : row ∈ st.tokens) (hhash : row.tokenHash = digest request.bearerToken)
    (hprincipal : row.principalId = request.principalId)
    (hissued : row.issuedAt = request.issuedAt) (hexpires : row.expiresAt = request.expiresAt)
    (hrevoked : row.revokedAt = none) : request.ValidIn digest st := by
  intro now
  obtain ⟨principal, hknown, hanswer⟩ := authenticate_row hs hcheck hrow hhash now
  rw [hprincipal] at hknown
  refine ⟨_, hanswer, ?_, ?_⟩
  · rw [hissued, hexpires]
    constructor
    · intro hsome
      split_ifs at hsome with hvalid
      · exact ⟨hvalid.2.2.1, hvalid.2.2.2, principal, hknown, hvalid.1⟩
      · cases hsome
    · rintro ⟨hfrom, huntil, other, hother, henabled⟩
      obtain rfl := Option.some.inj (hknown.symm.trans hother)
      rw [if_pos ⟨henabled, hrevoked, hfrom, huntil⟩]
      rfl
  · intro p hp
    split_ifs at hp with hvalid
    · cases hp
      exact ⟨(Rows.find_some hknown).2, by rw [hknown]; rfl⟩

/-- A token that is valid as asked for has a row that says so. -/
theorem row_of_validIn (hs : st.Sound) (hcheck : request.check = .ok ()) {row : TokenRow δ}
    (hrow : row ∈ st.tokens) (hhash : row.tokenHash = digest request.bearerToken)
    (hprincipal : row.principalId = request.principalId)
    (henabled : ∀ principal, st.principal? request.principalId = some principal →
      principal.enabled = true)
    (h : request.ValidIn digest st) :
    row.issuedAt = request.issuedAt ∧ row.expiresAt = request.expiresAt ∧ row.revokedAt = none := by
  have hperiod : request.issuedAt.before request.expiresAt = true := by
    unfold TokenRequest.check at hcheck
    obtain ⟨_, -, hcheck⟩ := Except.bind_ok_iff.1 hcheck
    obtain ⟨_, -, hcheck⟩ := Except.bind_ok_iff.1 hcheck
    obtain ⟨_, -, hcheck⟩ := Except.bind_ok_iff.1 hcheck
    obtain ⟨-, hcheck⟩ := guard_ok hcheck
    obtain ⟨hperiod, -⟩ := guard_ok hcheck
    simpa using hperiod
  have hiff : ∀ now : DateTime, (now.before request.issuedAt = false ∧
      now.before request.expiresAt = true) ↔ row.revokedAt = none ∧
        now.before row.issuedAt = false ∧ now.before row.expiresAt = true := by
    intro now
    obtain ⟨principal, hknown, hanswer⟩ := authenticate_row hs hcheck hrow hhash now
    obtain ⟨answer, hanswer', hsome, -⟩ := h now
    rw [hprincipal] at hknown
    rw [hanswer] at hanswer'
    obtain rfl := Except.ok.inj hanswer'
    have hprincipal := henabled principal hknown
    constructor
    · rintro ⟨hfrom, huntil⟩
      have hvalid := hsome.2 ⟨hfrom, huntil, principal, hknown, hprincipal⟩
      split_ifs at hvalid with hrow'
      · exact hrow'.2
      · cases hvalid
    · intro hrow'
      rw [if_pos ⟨hprincipal, hrow'⟩] at hsome
      obtain ⟨hfrom, huntil, -⟩ := hsome.1 rfl
      exact ⟨hfrom, huntil⟩
  have hrevoked := ((hiff request.issuedAt).1
    ⟨DateTime.not_before_iff.2 le_rfl, hperiod⟩).1
  obtain ⟨hissued, hexpires⟩ := DateTime.period_eq hperiod fun t =>
    (hiff t).trans (and_iff_right hrevoked)
  exact ⟨hissued, hexpires, hrevoked⟩

/-! ### Until the tokens change -/

omit [DecidableEq δ] in
/-- The tokens of a principal are the rows with its id. -/
theorem mem_ofPrincipal {principalId : Str} {row : TokenRow δ} :
    row ∈ st.tokens.filter (ofPrincipal principalId) ↔
      row ∈ st.tokens ∧ row.principalId = principalId := by
  rw [List.mem_filter, ofPrincipal, decide_eq_true_eq]

/-- Until they change, the tokens of a principal are the same. -/
theorem Later.tokens {principalId : Str} (h : st.Later digest principalId st') :
    st'.tokens.filter (ofPrincipal principalId) = st.tokens.filter (ofPrincipal principalId) := by
  induction h with
  | refl => rfl
  | tail _ hlast ih => exact hlast.2.trans ih

/-- What comes later comes by operations on tokens. -/
theorem Later.moves {principalId : Str} (h : st.Later digest principalId st') :
    Relation.ReflTransGen (TokenMove digest) st st' := by
  induction h with
  | refl => exact .refl
  | tail _ hlast ih => exact ih.tail hlast.1

/-- The principal may be enabled at once, which is no change of its tokens. -/
theorem later_enabled (st : TokenStore δ) (principalId : Str) :
    ∃ st', st.Later digest principalId st' ∧ st'.tokens = st.tokens ∧
      ∀ principal, st'.principal? principalId = some principal → principal.enabled = true := by
  refine ⟨_, .single ⟨.setEnabled st principalId true, rfl⟩, rfl, fun principal hprincipal => ?_⟩
  unfold principal? at hprincipal
  dsimp only at hprincipal
  rw [Rows.find_change_key] at hprincipal
  · rw [if_pos rfl] at hprincipal
    obtain ⟨other, -, rfl⟩ := Option.map_eq_some_iff.1 hprincipal
    rfl
  · exact fun _ h => h

/-- After a rotation only the tokens of one digest are accepted for the principal. -/
theorem onlyIn_rotate (hs : st.Sound)
    (hok : (st.rotateBearerToken digest request now).2 = .ok ())
    (hlater : (st.rotateBearerToken digest request now).1.Later digest request.principalId st') :
    request.OnlyIn digest st' := by
  intro token t p hanswer hprincipal
  obtain ⟨row, hone, hhash, -⟩ := rotate_one hs.wellFormed hok
  unfold authenticateBearer at hanswer
  obtain ⟨-, -, hanswer⟩ := Except.bind_ok_iff.1 hanswer
  dsimp only at hanswer
  obtain ⟨-, hanswer⟩ := guard_ok hanswer
  cases hrow : st'.byDigest (digest token) with
  | none =>
    rw [hrow] at hanswer
    cases hanswer
  | some matched =>
    rw [hrow] at hanswer
    dsimp only at hanswer
    obtain ⟨hmem, hdigest⟩ := Rows.find_some hrow
    cases hfind : st'.principal? matched.principalId with
    | none =>
      rw [hfind] at hanswer
      cases hanswer
    | some principal =>
      rw [hfind] at hanswer
      dsimp only at hanswer
      have howner := (Rows.find_some hfind).2
      have hp : p.principalId = principal.principalId := by
        split_ifs at hanswer <;> cases hanswer
        rfl
      have hmine := mem_ofPrincipal.2 ⟨hmem, howner.symm.trans (hp.symm.trans hprincipal)⟩
      rw [hlater.tokens, hone, List.mem_singleton] at hmine
      rw [← hdigest, hmine, hhash]

end TokenStore

/-- **Validity as asked for.**  A token that `put_bearer_token` or `rotate_bearer_token` has
taken is, until the tokens of its principal change again, accepted exactly in the period that
was asked for, and after a rotation no other token of the principal is, if and only if its
digest was not stored before, or was stored for that very period and not as revoked. -/
theorem validity_iff (digest : Str → δ) {st₀ st : TokenStore δ} (h₀ : st₀.Sound)
    (h : Relation.ReflTransGen (TokenMove digest) st₀ st) {request : TokenRequest} {op : TokenOp}
    (hop : op.Registers request) (hok : (op.call digest st).2 = .ok ()) :
    (∀ st', (op.call digest st).1.Later digest request.principalId st' →
        request.ValidIn digest st' ∧
          ((∃ now, op = .rotate request now) → request.OnlyIn digest st')) ↔
      ∀ stored, st.byDigest (digest request.bearerToken) = some stored →
        stored.issuedAt = request.issuedAt ∧ stored.expiresAt = request.expiresAt ∧
          stored.revokedAt = none := by
  have hs := moves_sound h h₀
  have hs₁ : (op.call digest st).1.Sound := (TokenMove.call st op).sound hs
  obtain ⟨hcheck, row, hrow, hhash, hprincipal, hstored⟩ :=
    TokenStore.registered_row hs hop hok
  have hkept : ∀ {st'}, (op.call digest st).1.Later digest request.principalId st' →
      row ∈ st'.tokens := by
    intro st' hlater
    have hmine := TokenStore.mem_ofPrincipal.2 ⟨hrow, hprincipal⟩
    rw [← hlater.tokens] at hmine
    exact (TokenStore.mem_ofPrincipal.1 hmine).1
  have hasked : (∀ stored, st.byDigest (digest request.bearerToken) = some stored →
      stored.issuedAt = request.issuedAt ∧ stored.expiresAt = request.expiresAt ∧
        stored.revokedAt = none) ↔ row.issuedAt = request.issuedAt ∧
          row.expiresAt = request.expiresAt ∧ row.revokedAt = none := by
    rcases hstored with hstored | ⟨hstored, rfl⟩
    · rw [hstored]
      exact ⟨fun h => h row rfl, fun h stored heq => Option.some.inj heq ▸ h⟩
    · rw [hstored]
      exact ⟨fun _ => ⟨rfl, rfl, rfl⟩, fun _ _ heq => by cases heq⟩
  rw [hasked]
  constructor
  · intro hvalid
    obtain ⟨st', hlater, -, henabled⟩ :=
      @TokenStore.later_enabled δ _ digest (op.call digest st).1 request.principalId
    exact TokenStore.row_of_validIn (moves_sound hlater.moves hs₁) hcheck (hkept hlater) hhash
      hprincipal henabled (hvalid st' hlater).1
  · rintro ⟨hissued, hexpires, hrevoked⟩ st' hlater
    refine ⟨TokenStore.validIn_row (moves_sound hlater.moves hs₁) hcheck (hkept hlater) hhash
      hprincipal hissued hexpires hrevoked, ?_⟩
    rintro ⟨now, rfl⟩
    exact TokenStore.onlyIn_rotate hs hok hlater

/-! ### An example -/

/-- A store with one principal, which has no token. -/
def agentStore : TokenStore Str := ⟨[⟨lit "agent", .personal, true⟩], [], []⟩

/-- The store of the example is reached: it has one principal and no token. -/
theorem agentStore_reached : Relation.ReflTransGen (TokenMove id) ⟨[], [], []⟩ agentStore :=
  .single (.putPrincipal _ ⟨lit "agent", .personal, true⟩ rfl)

/-- A token that is registered for the first time: it is valid in the period that was asked for.
-/
theorem validity_iff_example :
    (TokenOp.call id agentStore (.put (tokenOf 65))).2 = .ok () ∧
      ∀ st', (TokenOp.call id agentStore (.put (tokenOf 65))).1.Later id (lit "agent") st' →
        (tokenOf 65).ValidIn id st' := by
  have hput : (TokenOp.call id agentStore (.put (tokenOf 65))).2 = .ok () := by decide +kernel
  have hiff := validity_iff id TokenStore.sound_empty agentStore_reached (.inl rfl) hput
  exact ⟨hput, fun st' hlater => (hiff.2 (fun stored hstored => by cases hstored) st' hlater).1⟩

/-- The token again, to end half a century earlier. -/
def sooner : TokenRequest := { tokenOf 65 with expiresAt := ⟨2050, 1, 1, 0⟩ }

/-- **Rotating to a token that is there keeps its period**, whichever was asked for. -/
theorem rotate_keepsPeriod :
    Relation.ReflTransGen (TokenMove id) ⟨[], [], []⟩
        (TokenOp.call id agentStore (.put (tokenOf 65))).1 ∧
      (TokenOp.call id (TokenOp.call id agentStore (.put (tokenOf 65))).1
        (.rotate sooner ⟨2026, 7, 1, 0⟩)).2 = .ok () ∧
      ¬ ∀ st', (TokenOp.call id (TokenOp.call id agentStore (.put (tokenOf 65))).1
        (.rotate sooner ⟨2026, 7, 1, 0⟩)).1.Later id (lit "agent") st' → sooner.ValidIn id st' := by
  refine ⟨agentStore_reached.tail (.call _ _), by decide +kernel, fun hvalid => ?_⟩
  obtain ⟨answer, hanswer, hsome, -⟩ := hvalid _ .refl ⟨2060, 1, 1, 0⟩
  have haccepted : (TokenOp.call id (TokenOp.call id agentStore (.put (tokenOf 65))).1
      (.rotate sooner ⟨2026, 7, 1, 0⟩)).1.authenticateBearer id sooner.bearerToken
        ⟨2060, 1, 1, 0⟩ = .ok (some ⟨lit "agent", .personal, lit "token"⟩) := by decide +kernel
  rw [haccepted] at hanswer
  obtain rfl := Except.ok.inj hanswer
  have hover := (hsome.1 rfl).2.1
  revert hover
  decide +kernel

end Service
end CouncilLogic
