/-
# The bearer tokens of the service

A token is stored as its digest.  Active digests are in one table and retired ones in
another; rotation and revocation move rows from the first to the second, and so does
opening a store that still has rows marked as revoked.  Every operation is a transaction, so
one that raises leaves both tables as they were.

The tables are `service_bearer_tokens` and `service_bearer_token_tombstones` of
`src/model_council/service_store.py`, and the operations `put_bearer_token`,
`rotate_bearer_token`, `revoke_bearer_token`, `revoke_principal_tokens` and
`authenticate_bearer`.  Nothing ever leaves the table of the retired digests.
-/

import CouncilLogic.Lib.Transaction
import CouncilLogic.Service.Policies

namespace CouncilLogic
namespace Service

variable {δ : Type} [DecidableEq δ]

/-! ### Tables -/

/-- A row of `service_bearer_tokens`. -/
structure TokenRow (δ : Type) where
  tokenId : Str
  principalId : Str
  tokenHash : δ
  issuedAt : DateTime
  expiresAt : DateTime
  revokedAt : Option DateTime := none

/-- The `reason` of a tombstone. -/
inductive RetireReason
  | revoked
  | rotated
  deriving DecidableEq

/-- A row of `service_bearer_token_tombstones`. -/
structure Tombstone (δ : Type) where
  tokenHash : δ
  principalId : Str
  tokenId : Str
  retiredAt : DateTime
  reason : RetireReason

/-- The tables that authentication depends on. -/
structure TokenStore (δ : Type) where
  principals : List PrincipalRow := []
  tokens : List (TokenRow δ) := []
  tombstones : List (Tombstone δ) := []

/-- What a token operation may raise. -/
inductive TokenError
  | valueError (message : Str)
  | keyError (key : Str)
  | unicodeEncodeError
  /-- `sqlite3.IntegrityError`. -/
  | integrityError
  deriving DecidableEq

/-- `AuthenticatedPrincipal`, without the kind of the principal. -/
structure AuthenticatedPrincipal where
  principalId : Str
  tenant : Tenant
  tokenId : Str
  deriving DecidableEq

/-- A token as `put_bearer_token` and `rotate_bearer_token` are given it. -/
structure TokenRequest where
  tokenId : Str
  principalId : Str
  bearerToken : Str
  issuedAt : DateTime
  expiresAt : DateTime

/-! ### Checks -/

/-- `_text`. -/
def checkText (value : Str) (name : String) : Except TokenError Unit :=
  if value = [] ∨ value ≠ value.strip then
    .error (.valueError (lit name ++ lit " must be a non-empty trimmed string"))
  else .ok ()

/-- The checks that both operations make before they read the store. -/
def TokenRequest.check (request : TokenRequest) : Except TokenError Unit := do
  checkText request.tokenId "token_id"
  checkText request.principalId "principal_id"
  checkText request.bearerToken "bearer_token"
  if request.bearerToken.length < 32 ∨ 512 < request.bearerToken.length ∨
      request.bearerToken.any Str.isSpace = true then
    throw (.valueError
      (lit "bearer_token must be a 32-512 character high-entropy non-whitespace value"))
  if !request.issuedAt.before request.expiresAt then
    throw (.valueError (lit "expires_at must be later than issued_at"))
  if !request.bearerToken.encodable then throw .unicodeEncodeError

namespace TokenStore

variable {st st' : TokenStore δ}

/-- The principal with an id. -/
def principal? (st : TokenStore δ) (principalId : Str) : Option PrincipalRow :=
  Rows.find PrincipalRow.principalId st.principals principalId

/-- `_token_is_retired`. -/
def isRetired (st : TokenStore δ) (digest : δ) : Bool :=
  (Rows.find Tombstone.tokenHash st.tombstones digest).isSome

/-- The row of a digest, which is unique. -/
def byDigest (st : TokenStore δ) (digest : δ) : Option (TokenRow δ) :=
  Rows.find TokenRow.tokenHash st.tokens digest

/-- The row of a token id. -/
def byId (st : TokenStore δ) (tokenId : Str) : Option (TokenRow δ) :=
  Rows.find TokenRow.tokenId st.tokens tokenId

/-! ### Changes -/

/-- `_retire_token_row`: `INSERT OR IGNORE`. -/
def retireRow (reason : TokenRow δ → RetireReason) (retiredAt : TokenRow δ → DateTime)
    (tombstones : List (Tombstone δ)) (row : TokenRow δ) : List (Tombstone δ) :=
  match Rows.find Tombstone.tokenHash tombstones row.tokenHash with
  | some _ => tombstones
  | none => tombstones ++
    [⟨row.tokenHash, row.principalId, row.tokenId, retiredAt row, reason row⟩]

/-- Some rows are retired, and deleted. -/
def retire (st : TokenStore δ) (rows : TokenRow δ → Bool) (reason : TokenRow δ → RetireReason)
    (retiredAt : TokenRow δ → DateTime) : TokenStore δ where
  principals := st.principals
  tokens := st.tokens.filter fun row => !rows row
  tombstones := (st.tokens.filter rows).foldl (retireRow reason retiredAt) st.tombstones

/-- `INSERT INTO service_bearer_tokens`, with the constraints of the table. -/
def insertToken (st : TokenStore δ) (row : TokenRow δ) : Except TokenError (TokenStore δ) :=
  if !(row.tokenId.encodable && row.principalId.encodable) then .error .unicodeEncodeError
  else if (st.byId row.tokenId).isSome ∨ (st.byDigest row.tokenHash).isSome ∨
      (st.principal? row.principalId).isNone then .error .integrityError
  else .ok { st with tokens := st.tokens ++ [row] }

/-! ### Operations -/

variable (digest : Str → δ)

/-- The row that a request asks for. -/
def newRow (request : TokenRequest) : TokenRow δ where
  tokenId := request.tokenId
  principalId := request.principalId
  tokenHash := digest request.bearerToken
  issuedAt := request.issuedAt
  expiresAt := request.expiresAt

/-- What an operation leaves and returns; one that raises rolls back. -/
def transaction {α : Type} (st : TokenStore δ) (result : Except TokenError (TokenStore δ × α)) :
    TokenStore δ × Except TokenError α :=
  match result with
  | .ok (st', a) => (st', .ok a)
  | .error e => (st, .error e)

/-- `put_bearer_token`. -/
def putBearerToken (st : TokenStore δ) (request : TokenRequest) :
    TokenStore δ × Except TokenError Unit :=
  st.transaction do
    request.check
    let hash := digest request.bearerToken
    if st.isRetired hash then
      throw (.valueError (lit "bearer token verifier is retired and cannot be reused"))
    if (st.byDigest hash).any fun owner =>
        decide (owner.tokenId ≠ request.tokenId ∨ owner.principalId ≠ request.principalId) then
      throw (.valueError (lit "bearer token verifier is already registered"))
    match st.byId request.tokenId with
    | some existing =>
      if existing.principalId ≠ request.principalId ∨ existing.tokenHash ≠ hash ∨
          existing.issuedAt ≠ request.issuedAt ∨ existing.expiresAt ≠ request.expiresAt then
        throw (.valueError (lit "token_id is already registered"))
      return (st, ())
    | none =>
      let st' ← st.insertToken (newRow digest request)
      return (st', ())

/-- `rotate_bearer_token`, at the time `now`. -/
def rotateBearerToken (st : TokenStore δ) (request : TokenRequest) (now : DateTime) :
    TokenStore δ × Except TokenError Unit :=
  st.transaction do
    request.check
    if !request.principalId.encodable then throw .unicodeEncodeError
    if (st.principal? request.principalId).isNone then throw (.keyError request.principalId)
    let hash := digest request.bearerToken
    if st.isRetired hash then
      throw (.valueError (lit "bearer token verifier is retired and cannot be reused"))
    match st.byDigest hash with
    | some matching =>
      if matching.principalId ≠ request.principalId ∨ matching.revokedAt.isSome then
        throw (.valueError (lit "bearer token verifier is already registered"))
      return (st.retire (fun row => decide (row.principalId = request.principalId) &&
          decide (row.tokenId ≠ matching.tokenId)) (fun _ => .rotated)
        (fun row => row.revokedAt.getD now), ())
    | none =>
      let st' := st.retire (fun row => decide (row.principalId = request.principalId))
        (fun row => if row.revokedAt.isSome then .revoked else .rotated)
        (fun row => row.revokedAt.getD now)
      let st'' ← st'.insertToken (newRow digest request)
      return (st'', ())

/-- `revoke_bearer_token`. -/
def revokeBearerToken (st : TokenStore δ) (tokenId : Str) (now : DateTime) :
    TokenStore δ × Except TokenError Bool :=
  st.transaction do
    if !tokenId.encodable then throw .unicodeEncodeError
    match st.byId tokenId with
    | none => return (st, false)
    | some _ =>
      return (st.retire (fun row => decide (row.tokenId = tokenId)) (fun _ => .revoked)
        (fun _ => now), true)

/-- `revoke_principal_tokens`. -/
def revokePrincipalTokens (st : TokenStore δ) (principalId : Str) (now : DateTime) :
    TokenStore δ × Except TokenError ℕ :=
  st.transaction do
    checkText principalId "principal_id"
    if !principalId.encodable then throw .unicodeEncodeError
    if (st.principal? principalId).isNone then throw (.keyError principalId)
    return (st.retire (fun row => decide (row.principalId = principalId)) (fun _ => .revoked)
      (fun _ => now), (st.tokens.filter fun row => decide (row.principalId = principalId)).length)

/-- Opening the store: `_migrate` retires the rows that are marked as revoked.  (A row that is
not marked is not retired, so its `retiredAt` does not matter.) -/
def reopen (st : TokenStore δ) : TokenStore δ :=
  st.retire (fun row => row.revokedAt.isSome) (fun _ => .revoked)
    (fun row => row.revokedAt.getD row.issuedAt)

/-- `authenticate_bearer`. -/
def authenticateBearer (st : TokenStore δ) (bearerToken : Str) (now : DateTime) :
    Except TokenError (Option AuthenticatedPrincipal) := do
  checkText bearerToken "bearer_token"
  if !bearerToken.encodable then throw .unicodeEncodeError
  match st.byDigest (digest bearerToken) with
  | none => return none
  | some matched =>
    match st.principal? matched.principalId with
    | none => return none
    | some principal =>
      if principal.enabled = false ∨ matched.revokedAt.isSome then return none
      if now.before matched.issuedAt then return none
      if !now.before matched.expiresAt then return none
      return some ⟨principal.principalId, principal.tenant, matched.tokenId⟩

/-! ### Calls -/

end TokenStore

/-- A call of an operation that changes the tables. -/
inductive TokenOp
  | put (request : TokenRequest)
  | rotate (request : TokenRequest) (now : DateTime)
  | revoke (tokenId : Str) (now : DateTime)
  | revokePrincipal (principalId : Str) (now : DateTime)
  | reopen

/-- What a call leaves, and whether it raised. -/
def TokenOp.call (digest : Str → δ) (st : TokenStore δ) :
    TokenOp → TokenStore δ × Except TokenError Unit
  | .put request => st.putBearerToken digest request
  | .rotate request now => st.rotateBearerToken digest request now
  | .revoke tokenId now =>
    ((st.revokeBearerToken tokenId now).1, (st.revokeBearerToken tokenId now).2.map fun _ => ())
  | .revokePrincipal principalId now =>
    ((st.revokePrincipalTokens principalId now).1,
      (st.revokePrincipalTokens principalId now).2.map fun _ => ())
  | .reopen => (st.reopen, .ok ())

/-- What happens to the tables, in any order: the calls, and changes of the principals. -/
inductive TokenMove (digest : Str → δ) : TokenStore δ → TokenStore δ → Prop
  | call (st : TokenStore δ) (op : TokenOp) : TokenMove digest st (op.call digest st).1
  | putPrincipal (st : TokenStore δ) (principal : PrincipalRow)
      (hnew : st.principal? principal.principalId = none) :
      TokenMove digest st { st with principals := st.principals ++ [principal] }
  | setEnabled (st : TokenStore δ) (principalId : Str) (enabled : Bool) :
      TokenMove digest st { st with
        principals := Rows.change PrincipalRow.principalId st.principals principalId fun p =>
          { p with enabled := enabled } }

namespace TokenStore

/-! ### Active and retired digests -/

variable {st st' : TokenStore δ} {hash : δ}

/-- The digest is in the table of tokens. -/
def Active (st : TokenStore δ) (hash : δ) : Prop := ∃ row ∈ st.tokens, row.tokenHash = hash

/-- The digest is in the table of tombstones. -/
def Retired (st : TokenStore δ) (hash : δ) : Prop := ∃ t ∈ st.tombstones, t.tokenHash = hash

/-- Ids and digests are unique, and no digest is active and retired. -/
structure WellFormed (st : TokenStore δ) : Prop where
  ids : Rows.Unique TokenRow.tokenId st.tokens
  digests : Rows.Unique TokenRow.tokenHash st.tokens
  disjoint : ∀ hash, st.Retired hash → ¬ st.Active hash

/-- A digest is retired when its tombstone is there. -/
theorem isRetired_iff : st.isRetired hash = true ↔ st.Retired hash := by
  unfold isRetired Retired
  rw [Option.isSome_iff_exists]
  constructor
  · rintro ⟨t, ht⟩
    exact ⟨t, Rows.find_some ht⟩
  · rintro ⟨t, ht, hash⟩
    rw [← Option.isSome_iff_exists, Option.isSome_iff_ne_none]
    exact fun hnone => Rows.find_eq_none.1 hnone t ht hash

/-- A row that is retired leaves its tombstone behind. -/
theorem mem_retireRow {reason : TokenRow δ → RetireReason} {retiredAt : TokenRow δ → DateTime}
    {tombstones : List (Tombstone δ)} {row : TokenRow δ} :
    (∃ t ∈ retireRow reason retiredAt tombstones row, t.tokenHash = hash) ↔
      (∃ t ∈ tombstones, t.tokenHash = hash) ∨ row.tokenHash = hash := by
  unfold retireRow
  cases hfind : Rows.find Tombstone.tokenHash tombstones row.tokenHash with
  | some t =>
    obtain ⟨ht, hhash⟩ := Rows.find_some hfind
    constructor
    · exact .inl
    · rintro (h | rfl)
      · exact h
      · exact ⟨t, ht, hhash⟩
  | none => simp [or_and_right, exists_or]

/-- Retired digests are those that were retired, and those of the rows that are retired. -/
theorem retired_retire {rows : TokenRow δ → Bool} {reason : TokenRow δ → RetireReason}
    {retiredAt : TokenRow δ → DateTime} :
    (st.retire rows reason retiredAt).Retired hash ↔
      st.Retired hash ∨ ∃ row ∈ st.tokens, rows row = true ∧ row.tokenHash = hash := by
  have hfold : ∀ (l : List (TokenRow δ)) (tombstones : List (Tombstone δ)),
      (∃ t ∈ l.foldl (retireRow reason retiredAt) tombstones, t.tokenHash = hash) ↔
        (∃ t ∈ tombstones, t.tokenHash = hash) ∨ ∃ row ∈ l, row.tokenHash = hash := by
    intro l
    induction l with
    | nil => simp
    | cons row l ih =>
      intro tombstones
      rw [List.foldl_cons, ih, mem_retireRow, or_assoc]
      simp
  unfold Retired retire
  rw [hfold]
  simp [List.mem_filter, and_assoc]

/-- What is still active after a retirement are the rows it has not picked. -/
theorem active_retire {rows : TokenRow δ → Bool} {reason : TokenRow δ → RetireReason}
    {retiredAt : TokenRow δ → DateTime} :
    (st.retire rows reason retiredAt).Active hash ↔
      ∃ row ∈ st.tokens, rows row = false ∧ row.tokenHash = hash := by
  unfold Active retire
  simp [List.mem_filter, and_assoc]

/-- A change of the two tables. -/
inductive Change : TokenStore δ → TokenStore δ → Prop
  | retire (st : TokenStore δ) (rows : TokenRow δ → Bool) (reason : TokenRow δ → RetireReason)
      (retiredAt : TokenRow δ → DateTime) : Change st (st.retire rows reason retiredAt)
  | insert (st : TokenStore δ) (row : TokenRow δ) (hretired : ¬ st.Retired row.tokenHash)
      (hactive : ¬ st.Active row.tokenHash) (hid : st.byId row.tokenId = none) :
      Change st { st with tokens := st.tokens ++ [row] }

omit [DecidableEq δ] in
/-- A row that is inserted makes its digest active. -/
theorem active_append {row : TokenRow δ} :
    ({ st with tokens := st.tokens ++ [row] } : TokenStore δ).Active hash ↔
      st.Active hash ∨ row.tokenHash = hash := by
  simp [Active, or_and_right, exists_or]

/-- **A change keeps the tables apart.** -/
theorem Change.wellFormed (h : Change st st') (hwf : st.WellFormed) : st'.WellFormed := by
  cases h with
  | retire rows reason retiredAt =>
    refine ⟨hwf.ids.filter _, hwf.digests.filter _, fun hash hretired hactive => ?_⟩
    obtain ⟨row, hrow, hkept, hhash⟩ := active_retire.1 hactive
    rcases retired_retire.1 hretired with hold | ⟨other, hother, hrows, hsame⟩
    · exact hwf.disjoint hash hold ⟨row, hrow, hhash⟩
    · obtain rfl := hwf.digests.eq hother hrow (hsame.trans hhash.symm)
      rw [hrows] at hkept
      cases hkept
  | insert row hretired hactive hid =>
    refine ⟨hwf.ids.append (Rows.find_eq_none.1 hid), hwf.digests.append ?_, ?_⟩
    · exact fun other hother hsame => hactive ⟨other, hother, hsame⟩
    · intro hash hold hnew
      rcases active_append.1 hnew with h | rfl
      · exact hwf.disjoint hash hold h
      · exact hretired hold

/-- **A digest that is retired stays retired**, and one that stops being active is retired. -/
theorem Change.keeps (h : Change st st') :
    (∀ hash, st.Retired hash → st'.Retired hash) ∧
      ∀ hash, st.Active hash → st'.Active hash ∨ st'.Retired hash := by
  cases h with
  | retire rows reason retiredAt =>
    refine ⟨fun hash hold => retired_retire.2 (.inl hold), fun hash hold => ?_⟩
    obtain ⟨row, hrow, hhash⟩ := hold
    cases hrows : rows row with
    | false => exact .inl (active_retire.2 ⟨row, hrow, hrows, hhash⟩)
    | true => exact .inr (retired_retire.2 (.inr ⟨row, hrow, hrows, hhash⟩))
  | insert row => exact ⟨fun _ h => h, fun _ h => .inl (active_append.2 (.inl h))⟩

/-! ### What the operations do -/

variable {digest : Str → δ} {request : TokenRequest} {now : DateTime}

/-- A row is inserted as it is. -/
theorem insertToken_ok {row : TokenRow δ} (h : st.insertToken row = .ok st') :
    st' = { st with tokens := st.tokens ++ [row] } ∧ ¬ st.Active row.tokenHash ∧
      st.byId row.tokenId = none ∧ (st.principal? row.principalId).isSome = true := by
  unfold insertToken at h
  split_ifs at h with hencodable htaken
  cases h
  simp only [not_or, Bool.not_eq_true, Option.isSome_eq_false_iff, Option.isNone_iff_eq_none]
    at htaken
  refine ⟨rfl, ?_, htaken.1, Option.isSome_iff_ne_none.2 htaken.2.2⟩
  rintro ⟨other, hother, hsame⟩
  exact Rows.find_eq_none.1 htaken.2.1 other hother hsame

omit [DecidableEq δ] in
/-- A transaction either raises and changes nothing, or commits what it computes. -/
theorem transaction_ok {α : Type} (st : TokenStore δ)
    {result : Except TokenError (TokenStore δ × α)} :
    ((st.transaction result).1 = st ∧ ∃ e, result = .error e ∧
      (st.transaction result).2 = .error e) ∨
      ∃ st' a, result = .ok (st', a) ∧ st.transaction result = (st', .ok a) := by
  cases result with
  | error e => exact .inl ⟨rfl, e, rfl, rfl⟩
  | ok p => exact .inr ⟨p.1, p.2, rfl, rfl⟩

/-- What comes after a check is only reached when the check passes. -/
theorem guard_ok {ε α : Type} {c : Prop} [Decidable c] {e : ε} {f : Unit → Except ε α}
    {rest : Except ε α} {a : α} (h : (if c then (throw e >>= f) else rest) = .ok a) :
    ¬ c ∧ rest = .ok a := by
  by_cases hc : c
  · rw [if_pos hc] at h
    cases h
  · rw [if_neg hc] at h
    exact ⟨hc, h⟩

/-- **`put_bearer_token`** leaves the tables alone, or inserts the row it was asked for. -/
theorem put_cases (hok : (st.putBearerToken digest request).2 = .ok ()) :
    request.check = .ok () ∧
      ((∃ row ∈ st.tokens, row.tokenHash = digest request.bearerToken ∧
          row.principalId = request.principalId ∧ row.issuedAt = request.issuedAt ∧
          row.expiresAt = request.expiresAt ∧ (st.putBearerToken digest request).1 = st) ∨
        ¬ st.Retired (digest request.bearerToken) ∧ ¬ st.Active (digest request.bearerToken) ∧
          st.byId request.tokenId = none ∧ (st.principal? request.principalId).isSome = true ∧
          (st.putBearerToken digest request).1 =
            { st with tokens := st.tokens ++ [newRow digest request] }) := by
  unfold putBearerToken at hok ⊢
  rcases transaction_ok st with ⟨-, e, -, he⟩ | ⟨st', a, hresult, htransaction⟩
  · rw [he] at hok
    cases hok
  · rw [htransaction]
    obtain ⟨_, hcheck, h⟩ := Except.bind_ok_iff.1 hresult
    refine ⟨hcheck, ?_⟩
    dsimp only at h
    obtain ⟨hretired, h⟩ := guard_ok h
    obtain ⟨-, h⟩ := guard_ok h
    cases hid : st.byId request.tokenId with
    | some existing =>
      rw [hid] at h
      obtain ⟨hsame, h⟩ := guard_ok h
      cases h
      rw [not_or, not_or, not_or, not_not, not_not, not_not, not_not] at hsame
      exact .inl ⟨existing, (Rows.find_some hid).1, hsame.2.1, hsame.1, hsame.2.2.1, hsame.2.2.2,
        rfl⟩
    | none =>
      rw [hid] at h
      obtain ⟨new, hnew, h⟩ := Except.bind_ok_iff.1 h
      cases h
      obtain ⟨heq, hactive, -, hprincipal⟩ := insertToken_ok hnew
      exact .inr ⟨fun h => hretired (isRetired_iff.2 h), hactive, rfl, hprincipal, heq⟩

/-- The rows of a principal. -/
def ofPrincipal (principalId : Str) (row : TokenRow δ) : Bool :=
  decide (row.principalId = principalId)

/-- **`rotate_bearer_token`** retires the other rows of the principal, and inserts the row it was
asked for unless the principal has one with that digest. -/
theorem rotate_cases (hok : (st.rotateBearerToken digest request now).2 = .ok ()) :
    request.check = .ok () ∧ (st.principal? request.principalId).isSome = true ∧
    ((∃ matching reason retiredAt, st.byDigest (digest request.bearerToken) = some matching ∧
      matching.principalId = request.principalId ∧ matching.revokedAt = none ∧
        (st.rotateBearerToken digest request now).1 =
          st.retire (fun row => ofPrincipal request.principalId row &&
            decide (row.tokenId ≠ matching.tokenId)) reason retiredAt) ∨
      ∃ reason retiredAt, ¬ st.Retired (digest request.bearerToken) ∧
        ¬ st.Active (digest request.bearerToken) ∧
        (st.retire (ofPrincipal request.principalId) reason retiredAt).byId request.tokenId =
          none ∧
        (st.rotateBearerToken digest request now).1 =
          { st.retire (ofPrincipal request.principalId) reason retiredAt with
            tokens := (st.retire (ofPrincipal request.principalId) reason retiredAt).tokens ++
              [newRow digest request] }) := by
  unfold rotateBearerToken at hok ⊢
  rcases transaction_ok st with ⟨-, e, -, he⟩ | ⟨st', a, hresult, htransaction⟩
  · rw [he] at hok
    cases hok
  · rw [htransaction]
    clear htransaction hok
    obtain ⟨_, hcheck, h⟩ := Except.bind_ok_iff.1 hresult
    dsimp only at h
    obtain ⟨-, h⟩ := guard_ok h
    obtain ⟨hprincipal, h⟩ := guard_ok h
    rw [Bool.not_eq_true, Option.isNone_eq_false_iff] at hprincipal
    refine ⟨hcheck, hprincipal, ?_⟩
    obtain ⟨hretired, h⟩ := guard_ok h
    cases hdigest : st.byDigest (digest request.bearerToken) with
    | some matching =>
      rw [hdigest] at h
      obtain ⟨hmatching, h⟩ := guard_ok h
      cases h
      rw [not_or, not_not, Bool.not_eq_true, Option.isSome_eq_false_iff,
        Option.isNone_iff_eq_none] at hmatching
      exact .inl ⟨matching, _, _, rfl, hmatching.1, hmatching.2, rfl⟩
    | none =>
      rw [hdigest] at h
      obtain ⟨new, hnew, h⟩ := Except.bind_ok_iff.1 h
      cases h
      obtain ⟨heq, -, hid, -⟩ := insertToken_ok hnew
      refine .inr ⟨_, _, fun h => hretired (isRetired_iff.2 h), ?_, hid, heq⟩
      rintro ⟨row, hrow, hsame⟩
      exact Rows.find_eq_none.1 hdigest row hrow hsame

/-- Without rows to retire nothing changes. -/
theorem retire_of_none {rows : TokenRow δ → Bool} {reason : TokenRow δ → RetireReason}
    {retiredAt : TokenRow δ → DateTime} (h : ∀ row ∈ st.tokens, rows row = false) :
    st.retire rows reason retiredAt = st := by
  have hkept : st.tokens.filter (fun row => !rows row) = st.tokens :=
    List.filter_eq_self.2 fun row hrow => by rw [h row hrow]; rfl
  have hgone : st.tokens.filter rows = [] :=
    List.filter_eq_nil_iff.2 fun row hrow => by rw [h row hrow]; exact Bool.false_ne_true
  unfold retire
  rw [hkept, hgone]
  rfl

/-- Retiring no row changes nothing. -/
theorem retire_none (reason : TokenRow δ → RetireReason)
    (retiredAt : TokenRow δ → DateTime) : st.retire (fun _ => false) reason retiredAt = st :=
  retire_of_none fun _ _ => rfl

/-- **`revoke_bearer_token`** that does not raise retires the rows with the id, if there are
any. -/
theorem revoke_eq {tokenId : Str} {revoked : Bool}
    (hok : (st.revokeBearerToken tokenId now).2 = .ok revoked) :
    (st.revokeBearerToken tokenId now).1 =
      st.retire (fun row => decide (row.tokenId = tokenId)) (fun _ => .revoked) (fun _ => now) := by
  unfold revokeBearerToken at hok ⊢
  rcases transaction_ok st with ⟨-, e, -, he⟩ | ⟨st', a, hresult, htransaction⟩
  · rw [he] at hok
    cases hok
  · rw [htransaction]
    obtain ⟨-, h⟩ := guard_ok hresult
    cases hid : st.byId tokenId with
    | some row =>
      rw [hid] at h
      cases h
      rfl
    | none =>
      rw [hid] at h
      cases h
      -- no row has the id, so there is nothing to retire
      exact (retire_of_none fun row hrow =>
        decide_eq_false (Rows.find_eq_none.1 hid row hrow)).symm

/-- **`revoke_principal_tokens`** that does not raise retires the rows of the principal. -/
theorem revokePrincipal_eq {principalId : Str} {n : ℕ}
    (hok : (st.revokePrincipalTokens principalId now).2 = .ok n) :
    (st.revokePrincipalTokens principalId now).1 =
      st.retire (fun row => decide (row.principalId = principalId)) (fun _ => .revoked)
        (fun _ => now) := by
  unfold revokePrincipalTokens at hok ⊢
  rcases transaction_ok st with ⟨-, e, -, he⟩ | ⟨st', a, hresult, htransaction⟩
  · rw [he] at hok
    cases hok
  · rw [htransaction]
    obtain ⟨-, -, h⟩ := Except.bind_ok_iff.1 hresult
    dsimp only at h
    obtain ⟨-, h⟩ := guard_ok h
    obtain ⟨-, h⟩ := guard_ok h
    cases h
    rfl

omit [DecidableEq δ] in
/-- A transaction that raises changes nothing. -/
theorem transaction_error {α β : Type} {result : Except TokenError (TokenStore δ × α)}
    {f : α → β} {e : TokenError} (h : (st.transaction result).2.map f = .error e) :
    (st.transaction result).1 = st := by
  cases result with
  | error e => rfl
  | ok p => cases h

/-- **A call that raises changes nothing.** -/
theorem call_error {op : TokenOp} {e : TokenError} (h : (op.call digest st).2 = .error e) :
    (op.call digest st).1 = st := by
  have hid : ∀ x : Except TokenError Unit, x.map id = x := fun x => by cases x <;> rfl
  cases op with
  | put request => exact transaction_error ((hid _).trans h)
  | rotate request now => exact transaction_error ((hid _).trans h)
  | revoke tokenId now => exact transaction_error h
  | revokePrincipal principalId now => exact transaction_error h
  | reopen => cases h

/-- **Every call** retires some rows, perhaps none, and may then insert the row of a request. -/
theorem call_cases (op : TokenOp) :
    ∃ rows reason retiredAt, (op.call digest st).1 = st.retire rows reason retiredAt ∨
      ∃ request, ¬ st.Retired (digest request.bearerToken) ∧
        ¬ st.Active (digest request.bearerToken) ∧
        (st.retire rows reason retiredAt).byId request.tokenId = none ∧
        (st.principal? request.principalId).isSome = true ∧
        (op.call digest st).1 = { st.retire rows reason retiredAt with
          tokens := (st.retire rows reason retiredAt).tokens ++ [newRow digest request] } := by
  have hnone : ∀ st' : TokenStore δ, st' = st → ∃ rows reason retiredAt,
      st' = st.retire rows reason retiredAt := fun st' heq =>
    ⟨fun _ => false, fun _ => .revoked, TokenRow.issuedAt, heq.trans (retire_none _ _).symm⟩
  cases hcall : (op.call digest st).2 with
  | error e =>
    obtain ⟨rows, reason, retiredAt, heq⟩ := hnone _ (call_error hcall)
    exact ⟨rows, reason, retiredAt, .inl heq⟩
  | ok u =>
    cases op with
    | put request =>
      rcases (put_cases hcall).2 with ⟨-, -, -, -, -, -, heq⟩ |
        ⟨hretired, hactive, hid, hknown, heq⟩
      · obtain ⟨rows, reason, retiredAt, heq⟩ := hnone _ heq
        exact ⟨rows, reason, retiredAt, .inl heq⟩
      · refine ⟨fun _ => false, fun _ => .revoked, TokenRow.issuedAt, .inr ⟨request, hretired,
          hactive, ?_, hknown, ?_⟩⟩
        · rw [retire_none]
          exact hid
        · rw [retire_none]
          exact heq
    | rotate request now =>
      obtain ⟨-, hknown, hcases⟩ := rotate_cases hcall
      rcases hcases with ⟨matching, reason, retiredAt, -, -, -, heq⟩ |
        ⟨reason, retiredAt, hretired, hactive, hid, heq⟩
      · exact ⟨_, reason, retiredAt, .inl heq⟩
      · exact ⟨_, reason, retiredAt, .inr ⟨request, hretired, hactive, hid, hknown, heq⟩⟩
    | revoke tokenId now =>
      cases hrevoked : (st.revokeBearerToken tokenId now).2 with
      | error e =>
        rw [TokenOp.call, hrevoked] at hcall
        cases hcall
      | ok revoked => exact ⟨_, _, _, .inl (revoke_eq hrevoked)⟩
    | revokePrincipal principalId now =>
      cases hrevoked : (st.revokePrincipalTokens principalId now).2 with
      | error e =>
        rw [TokenOp.call, hrevoked] at hcall
        cases hcall
      | ok n => exact ⟨_, _, _, .inl (revokePrincipal_eq hrevoked)⟩
    | reopen => exact ⟨_, _, _, .inl rfl⟩

/-- A call is a retirement that may be followed by an insertion. -/
theorem call_changes (op : TokenOp) :
    Relation.ReflTransGen Change st (op.call digest st).1 := by
  obtain ⟨rows, reason, retiredAt, heq | ⟨request, hretired, hactive, hid, -, heq⟩⟩ :=
    @call_cases δ _ st digest op
  · rw [heq]
    exact .single (.retire st _ _ _)
  · rw [heq]
    refine .tail (.single (.retire st rows reason retiredAt))
      (.insert _ (newRow digest request) ?_ ?_ hid)
    · rintro h
      rcases retired_retire.1 h with h | ⟨row, hrow, -, hsame⟩
      · exact hretired h
      · exact hactive ⟨row, hrow, hsame⟩
    · intro h
      obtain ⟨row, hrow, -, hsame⟩ := active_retire.1 h
      exact hactive ⟨row, hrow, hsame⟩

end TokenStore
end Service
end CouncilLogic
