/-
# Retired tokens stay retired

Whatever is registered, rotated, revoked and reopened in whatever order, a digest that was
retired is never active again, and what is not active does not authenticate.

The tables are those of `src/model_council/service_store.py`.  A token is retired by a rotation,
by a revocation of its own or of its principal, and by opening a store with rows that an older
version had marked.
-/

import CouncilLogic.Service.Tokens

namespace CouncilLogic
namespace Service

variable {δ : Type} [DecidableEq δ] {digest : Str → δ} {st st' : TokenStore δ}

/-- What one state leaves retired or active for another. -/
structure TokenStore.LeadsTo (st st' : TokenStore δ) : Prop where
  retired : ∀ hash, st.Retired hash → st'.Retired hash
  active : ∀ hash, st.Active hash → st'.Active hash ∨ st'.Retired hash

namespace TokenStore

omit [DecidableEq δ] in
/-- A store leads to itself. -/
theorem LeadsTo.refl (st : TokenStore δ) : st.LeadsTo st := ⟨fun _ h => h, fun _ h => .inl h⟩

omit [DecidableEq δ] in
/-- What is retired stays retired over two steps. -/
theorem LeadsTo.trans {st'' : TokenStore δ} (h : st.LeadsTo st') (h' : st'.LeadsTo st'') :
    st.LeadsTo st'' where
  retired hash hold := h'.retired hash (h.retired hash hold)
  active hash hold := by
    rcases h.active hash hold with hnew | hnew
    · exact h'.active hash hnew
    · exact .inr (h'.retired hash hnew)

/-- **Every run of changes** keeps the tables apart and what is retired retired. -/
theorem changes_leadsTo (h : Relation.ReflTransGen Change st st') (hwf : st.WellFormed) :
    st'.WellFormed ∧ st.LeadsTo st' := by
  induction h with
  | refl => exact ⟨hwf, .refl st⟩
  | tail _ hlast ih =>
    exact ⟨hlast.wellFormed ih.1, ih.2.trans ⟨hlast.keeps.1, hlast.keeps.2⟩⟩

end TokenStore

/-- Every operation on the tokens keeps what is retired, and keeps the tables apart. -/
theorem TokenMove.leadsTo (h : TokenMove digest st st') (hwf : st.WellFormed) :
    st'.WellFormed ∧ st.LeadsTo st' := by
  cases h with
  | call op => exact TokenStore.changes_leadsTo (TokenStore.call_changes op) hwf
  | putPrincipal =>
    exact ⟨⟨hwf.ids, hwf.digests, hwf.disjoint⟩, fun _ h => h, fun _ h => .inl h⟩
  | setEnabled =>
    exact ⟨⟨hwf.ids, hwf.digests, hwf.disjoint⟩, fun _ h => h, fun _ h => .inl h⟩

/-- Whatever is done with the tokens, what is retired stays retired. -/
theorem moves_leadsTo (h : Relation.ReflTransGen (TokenMove digest) st st') (hwf : st.WellFormed) :
    st'.WellFormed ∧ st.LeadsTo st' := by
  induction h with
  | refl => exact ⟨hwf, .refl st⟩
  | tail _ hlast ih =>
    obtain ⟨hnew, hleads⟩ := hlast.leadsTo ih.1
    exact ⟨hnew, ih.2.trans hleads⟩

/-- Only an active digest authenticates. -/
theorem TokenStore.active_of_authenticate {token : Str} {now : DateTime}
    {principal : AuthenticatedPrincipal}
    (h : st.authenticateBearer digest token now = .ok (some principal)) :
    st.Active (digest token) := by
  unfold authenticateBearer at h
  obtain ⟨-, -, h⟩ := Except.bind_ok_iff.1 h
  dsimp only at h
  obtain ⟨-, h⟩ := guard_ok h
  cases hrow : st.byDigest (digest token) with
  | none =>
    rw [hrow] at h
    cases h
  | some row => exact ⟨row, Rows.find_some hrow⟩

/-- A principal has the one token it was rotated to. -/
theorem TokenStore.rotate_one (hwf : st.WellFormed) {request : TokenRequest} {now : DateTime}
    (hok : (st.rotateBearerToken digest request now).2 = .ok ()) :
    ∃ row, (st.rotateBearerToken digest request now).1.tokens.filter
        (ofPrincipal request.principalId) = [row] ∧
      row.tokenHash = digest request.bearerToken ∧ row.revokedAt = none := by
  rcases (rotate_cases hok).2.2 with
    ⟨matching, reason, retiredAt, hmatching, hprincipal, hrevoked, heq⟩ |
    ⟨reason, retiredAt, -, -, -, heq⟩
  · obtain ⟨hmem, hhash⟩ := Rows.find_some hmatching
    refine ⟨matching, ?_, hhash, hrevoked⟩
    rw [heq, retire, List.filter_filter, ← Rows.Unique.filter_key hwf.ids hmem]
    refine List.filter_congr fun row hrow => ?_
    by_cases hid : row.tokenId = matching.tokenId
    · obtain rfl := hwf.ids.eq hrow hmem hid
      simp [ofPrincipal, hprincipal]
    · simp [hid]
  · refine ⟨newRow digest request, ?_, rfl, rfl⟩
    rw [heq, retire, List.filter_append, List.filter_filter]
    simp [ofPrincipal, newRow]

/-- The rows that a call puts out of use when it succeeds: those of the token or of the
principal that is revoked, those of a principal that is rotated to another token, and those
that are marked as revoked when the store is opened. -/
def TokenOp.PutsOut (digest : Str → δ) (row : TokenRow δ) : TokenOp → Prop
  | .put _ => False
  | .rotate request _ =>
    row.principalId = request.principalId ∧ row.tokenHash ≠ digest request.bearerToken
  | .revoke tokenId _ => row.tokenId = tokenId
  | .revokePrincipal principalId _ => row.principalId = principalId
  | .reopen => row.revokedAt.isSome = true

/-- **What is rotated out or revoked is retired** by the call that does it. -/
theorem TokenStore.retired_of_putsOut (hwf : st.WellFormed) {op : TokenOp}
    (hok : (op.call digest st).2 = .ok ()) {row : TokenRow δ} (hrow : row ∈ st.tokens)
    (hout : op.PutsOut digest row) : (op.call digest st).1.Retired row.tokenHash := by
  cases op with
  | put request => exact hout.elim
  | rotate request now =>
    obtain ⟨hprincipal, hother⟩ := hout
    rcases (rotate_cases hok).2.2 with ⟨matching, reason, retiredAt, hmatching, -, -, heq⟩ |
      ⟨reason, retiredAt, -, -, -, heq⟩
    · obtain ⟨hmem, hhash⟩ := Rows.find_some hmatching
      have hid : row.tokenId ≠ matching.tokenId := by
        intro hsame
        obtain rfl := hwf.ids.eq hrow hmem hsame
        exact hother hhash
      show (st.rotateBearerToken digest request now).1.Retired _
      rw [heq]
      refine retired_retire.2 (.inr ⟨row, hrow, ?_, rfl⟩)
      rw [ofPrincipal, decide_eq_true hprincipal, decide_eq_true hid]
      rfl
    · show (st.rotateBearerToken digest request now).1.Retired _
      rw [heq]
      exact retired_retire.2 (.inr ⟨row, hrow, decide_eq_true hprincipal, rfl⟩)
  | revoke tokenId now =>
    show (st.revokeBearerToken tokenId now).1.Retired _
    obtain ⟨revoked, hrevoked⟩ : ∃ revoked, (st.revokeBearerToken tokenId now).2 = .ok revoked := by
      cases h : (st.revokeBearerToken tokenId now).2 with
      | error e => simp [TokenOp.call, h, Except.map] at hok
      | ok revoked => exact ⟨revoked, rfl⟩
    rw [revoke_eq hrevoked]
    exact retired_retire.2 (.inr ⟨row, hrow, decide_eq_true hout, rfl⟩)
  | revokePrincipal principalId now =>
    show (st.revokePrincipalTokens principalId now).1.Retired _
    obtain ⟨count, hcount⟩ : ∃ n, (st.revokePrincipalTokens principalId now).2 = .ok n := by
      cases h : (st.revokePrincipalTokens principalId now).2 with
      | error e => simp [TokenOp.call, h, Except.map] at hok
      | ok n => exact ⟨n, rfl⟩
    rw [revokePrincipal_eq hcount]
    exact retired_retire.2 (.inr ⟨row, hrow, decide_eq_true hout, rfl⟩)
  | reopen => exact retired_retire.2 (.inr ⟨row, hrow, hout, rfl⟩)

/-- **Retired tokens stay retired.**  In every state that can be reached, no digest is both
active and retired; later, what is retired is retired still and does not authenticate, and
what is not active any more is retired; a token that a successful call rotates out or revokes
is retired by it and authenticates in no later state; a rotation leaves the principal one
active token; and an operation that raises changes nothing. -/
theorem retired_for_good (digest : Str → δ) {st : TokenStore δ}
    (h : Relation.ReflTransGen (TokenMove digest) ⟨[], [], []⟩ st) :
    (∀ hash, st.Retired hash → ¬ st.Active hash) ∧
      (∀ st', Relation.ReflTransGen (TokenMove digest) st st' → st.LeadsTo st' ∧
        ∀ token, st.Retired (digest token) → ∀ now principal,
          st'.authenticateBearer digest token now ≠ .ok (some principal)) ∧
      (∀ op, (TokenOp.call digest st op).2 = .ok () →
        ∀ row ∈ st.tokens, op.PutsOut digest row →
          (TokenOp.call digest st op).1.Retired row.tokenHash ∧
            ∀ st', Relation.ReflTransGen (TokenMove digest) (TokenOp.call digest st op).1 st' →
              ∀ token, digest token = row.tokenHash → ∀ now principal,
                st'.authenticateBearer digest token now ≠ .ok (some principal)) ∧
      (∀ request now, (st.rotateBearerToken digest request now).2 = .ok () →
        ∃ row, (st.rotateBearerToken digest request now).1.tokens.filter
            (TokenStore.ofPrincipal request.principalId) = [row] ∧
          row.tokenHash = digest request.bearerToken ∧ row.revokedAt = none) ∧
      ∀ op e, (TokenOp.call digest st op).2 = .error e → (TokenOp.call digest st op).1 = st := by
  have hempty : (⟨[], [], []⟩ : TokenStore δ).WellFormed := by
    refine ⟨List.nodup_nil, List.nodup_nil, ?_⟩
    rintro hash ⟨t, ht, -⟩
    cases ht
  have hwf := (moves_leadsTo h hempty).1
  -- what is retired in one state authenticates in none that follows
  have hnever : ∀ {before st' : TokenStore δ}, before.WellFormed →
      Relation.ReflTransGen (TokenMove digest) before st' → ∀ token,
      before.Retired (digest token) → ∀ now principal,
        st'.authenticateBearer digest token now ≠ .ok (some principal) := by
    intro before st' hbefore hlater token hretired now principal hauthenticated
    have hend := moves_leadsTo hlater hbefore
    exact hend.1.disjoint _ (hend.2.retired _ hretired)
      (TokenStore.active_of_authenticate hauthenticated)
  refine ⟨hwf.disjoint, fun st' hlater => ⟨(moves_leadsTo hlater hwf).2, hnever hwf hlater⟩, ?_,
    fun request now => TokenStore.rotate_one hwf, fun op e => TokenStore.call_error⟩
  intro op hok row hrow hout
  have hretired := TokenStore.retired_of_putsOut hwf hok hrow hout
  refine ⟨hretired, fun st' hlater token htoken => ?_⟩
  rw [← htoken] at hretired
  exact hnever ((TokenMove.call st op).leadsTo hwf).1 hlater token hretired

/-- A token of 32 characters for the principal `agent`. -/
def tokenOf (character : ℕ) : TokenRequest where
  tokenId := lit "token"
  principalId := lit "agent"
  bearerToken := List.replicate 32 character
  issuedAt := ⟨2020, 1, 1, 0⟩
  expiresAt := ⟨2100, 1, 1, 0⟩

/-- A store in which the principal was rotated from one token to another; a token is its own
digest. -/
def rotatedStore : TokenStore Str :=
  (TokenOp.call id (TokenOp.call id ⟨[⟨lit "agent", .personal, true⟩], [], []⟩
    (.rotate (tokenOf 65) ⟨2026, 7, 1, 0⟩)).1 (.rotate (tokenOf 66) ⟨2026, 7, 2, 0⟩)).1

/-- The store of the example: a token is registered, rotated and its successor revoked. -/
theorem rotatedStore_reached :
    Relation.ReflTransGen (TokenMove id) ⟨[], [], []⟩ rotatedStore :=
  .tail (.tail (.single (.putPrincipal _ ⟨lit "agent", .personal, true⟩ rfl))
    (.call _ (.rotate (tokenOf 65) ⟨2026, 7, 1, 0⟩)))
    (.call _ (.rotate (tokenOf 66) ⟨2026, 7, 2, 0⟩))

/-- The store after its one token is revoked. -/
def revokedStore : TokenStore Str :=
  (TokenOp.call id rotatedStore (.revoke (lit "token") ⟨2026, 7, 3, 0⟩)).1

/-- The token that was rotated out is retired; the one in its place authenticates, is retired
when it is revoked, and does not authenticate after the store is opened again. -/
theorem retired_for_good_example :
    rotatedStore.Retired (tokenOf 65).bearerToken ∧
      ¬ rotatedStore.Active (tokenOf 65).bearerToken ∧
      rotatedStore.authenticateBearer id (tokenOf 66).bearerToken ⟨2026, 7, 3, 0⟩ =
        .ok (some ⟨lit "agent", .personal, lit "token"⟩) ∧
      revokedStore.Retired (tokenOf 66).bearerToken ∧
      ∀ now principal, revokedStore.reopen.authenticateBearer id (tokenOf 66).bearerToken now ≠
        .ok (some principal) := by
  have hretired : rotatedStore.Retired (tokenOf 65).bearerToken :=
    TokenStore.isRetired_iff.1 (by decide +kernel)
  have hgood := retired_for_good id rotatedStore_reached
  have hrow : ∃ row ∈ rotatedStore.tokens, row.tokenId = lit "token" ∧
      row.tokenHash = (tokenOf 66).bearerToken := by decide +kernel
  obtain ⟨row, hrow, hid, hhash⟩ := hrow
  have hok : (TokenOp.call id rotatedStore (.revoke (lit "token") ⟨2026, 7, 3, 0⟩)).2 = .ok () := by
    decide +kernel
  have hrevoked := hgood.2.2.1 _ hok row hrow hid
  rw [hhash] at hrevoked
  exact ⟨hretired, hgood.1 _ hretired, by decide +kernel, hrevoked.1,
    hrevoked.2 _ (.single (.call _ .reopen)) _ rfl⟩

end Service
end CouncilLogic
