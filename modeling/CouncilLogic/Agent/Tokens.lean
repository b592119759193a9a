/-
# Approval tokens

The tokens of `approval.py`: a human who approves a plan gets a text that authenticates the
hash of the plan, the approver's name and the ceiling of calls under the key of the data
directory.  A token carries a random nonce; older ones have none.

The keyed digest is a parameter of what follows.

The functions are `issue_token`, `verify_token`, `_mac` and `_clean_name` of
`src/model_council/approval.py`.  The parts of the authenticated text are joined with line
breaks, and a name with a line break is refused, so the text determines its parts.
-/

import CouncilLogic.Approval
import CouncilLogic.Service.Gate

namespace CouncilLogic
namespace Agent

/-- What the agent interface raises. -/
inductive AgentErr
  /-- `PermissionError`. -/
  | permission (message : Str)
  /-- `AgentRequestError`. -/
  | request (message code : Str)
  /-- Another `OSError`. -/
  | os (message : Str)
  | py (e : PyErr)
  deriving DecidableEq

/-- What an approval is given for. -/
structure Approved where
  planHash : Str
  maxCalls : ℤ
  deriving DecidableEq

/-- `TOKEN_PREFIX`. -/
def tokenPrefix : Str := lit "cla1."

/-- A character of `"0123456789abcdef"`. -/
def isHexDigit (c : ℕ) : Bool := (48 ≤ c && c ≤ 57) || (97 ≤ c && c ≤ 102)

/-- A nonce, as `secrets.token_hex(8)` draws it. -/
def isNonce (nonce : Str) : Bool := decide (nonce.length = 16) && nonce.all isHexDigit

/-- `_clean_name`. -/
def cleanName (approvedBy : Str) : Except AgentErr Str :=
  let name := Str.strip approvedBy
  if name = [] ∨ 120 < name.length ∨ 10 ∈ name then
    .error (.py (.valueError (lit "--approved-by must be a non-empty name (max 120 chars)")))
  else .ok name

/-- The text that `_mac` authenticates. -/
def macMessage (plan : Approved) (name nonce : Str) : Str :=
  plan.planHash ++ 10 :: name ++ 10 :: Str.ofInt plan.maxCalls ++
    (if nonce = [] then [] else 10 :: nonce)

section
variable {K : Type} (hmac : K → Str → Str)

/-- `_mac`. -/
def mac (key : K) (plan : Approved) (name nonce : Str) : Except AgentErr Str :=
  if Str.encodable (macMessage plan name nonce) = false then
    .error (.py ⟨.unicodeEncodeError, lit "surrogates not allowed"⟩)
  else .ok (hmac key (macMessage plan name nonce))

/-- `issue_token`, with the key of the data directory and the nonce that it draws. -/
def issueToken (key : K) (plan : Approved) (approvedBy nonce : Str) : Except AgentErr Str := do
  let name ← cleanName approvedBy
  let digest ← mac hmac key plan name nonce
  .ok (tokenPrefix ++ nonce ++ 46 :: digest)

/-- `s.rpartition(c)`, without the separator. -/
def rpartition (c : ℕ) (s : Str) : Str × Str :=
  if c ∈ s then
    (((s.reverse.dropWhile fun x => decide (x ≠ c)).tail).reverse,
      (s.reverse.takeWhile fun x => decide (x ≠ c)).reverse)
  else ([], s)

/-- `hmac.compare_digest` of texts: the first is a digest, so it is ASCII. -/
def compareDigest (expected given : Str) : Except AgentErr Bool :=
  if given.all (fun c => decide (c < 128)) = false then
    .error (.py (.typeError
      (lit "comparing strings with non-ASCII characters is not supported")))
  else .ok (decide (expected = given))

/-- The token is refused. -/
def notValidHere : AgentErr :=
  .permission (lit "Paid run refused: approval token is not valid here")

/-- `verify_token`, with the key of the data directory, if there is one. -/
def verifyToken (sha256 : Str → Str) (key : Option K) (plan : Approved)
    (approvedBy token : Option Str) : Except AgentErr Str := do
  let approvedBy := approvedBy.getD []
  let token := token.getD []
  if approvedBy = [] ∨ token = [] then
    throw (.permission (lit ("Paid run refused: human approval is required. Run " ++
      "`council plan --json`, have a human run `council approve` for " ++
      "that plan, then pass --approved-by NAME --approval-token TOKEN.")))
  let name ← cleanName approvedBy
  match key with
  | none => throw notValidHere
  | some key =>
    if tokenPrefix.isPrefixOf token = false then throw notValidHere
    let (nonce, given) := rpartition 46 (token.drop tokenPrefix.length)
    if nonce ≠ [] ∧ isNonce nonce = false then throw notValidHere
    let expected ← mac hmac key plan name nonce
    if (← compareDigest expected given) = false then
      throw (.permission (lit ("Paid run refused: approval token does not match this plan " ++
        "(question, providers, policy or estimate differ) or approver")))
    pure (sha256 token)

end

/-! ### Partitions -/

/-- A text is cut at the last separator. -/
theorem rpartition_append {c : ℕ} {s t : Str} (h : c ∉ t) :
    rpartition c (s ++ c :: t) = (s, t) := by
  have hrev : (s ++ c :: t).reverse = t.reverse ++ c :: s.reverse := by simp
  have hall : ∀ x ∈ t.reverse, decide (x ≠ c) = true := by
    intro x hx
    rw [decide_eq_true_iff]
    rintro rfl
    exact h (List.mem_reverse.1 hx)
  unfold rpartition
  rw [if_pos (List.mem_append_right _ List.mem_cons_self), hrev,
    List.dropWhile_append_of_pos hall, List.takeWhile_append_of_pos hall,
    List.dropWhile_cons_of_neg (by simp), List.takeWhile_cons_of_neg (by simp)]
  simp

/-! ### Messages -/

/-- A number is written in digits. -/
theorem newline_notMem_ofNat (n : ℕ) : 10 ∉ Str.ofNat n := by
  unfold Str.ofNat
  split
  · decide
  · intro h
    obtain ⟨d, -, hd⟩ := List.mem_map.1 h
    omega

/-- A number is written in digits, with a sign perhaps. -/
theorem newline_notMem_ofInt (n : ℤ) : 10 ∉ Str.ofInt n := by
  cases n with
  | ofNat n => exact newline_notMem_ofNat n
  | negSucc n =>
    intro h
    rcases List.mem_cons.1 h with h | h
    · exact absurd h (by decide)
    · exact newline_notMem_ofNat _ h

/-- A natural number begins with no sign. -/
theorem ofNat_head_digit (n : ℕ) : (Str.ofNat n).head? ≠ some 45 := by
  intro h
  have hmem := List.mem_of_mem_head? h
  unfold Str.ofNat at hmem
  split at hmem
  · exact absurd hmem (by decide)
  · obtain ⟨d, -, hd⟩ := List.mem_map.1 hmem
    omega

/-- A number can be read back from its digits. -/
theorem ofInt_injective : Function.Injective Str.ofInt := by
  intro m n h
  cases m with
  | ofNat m =>
    cases n with
    | ofNat n => exact congrArg Int.ofNat (Protocol.ofNat_injective h)
    | negSucc n =>
      have hhead : (Str.ofNat m).head? = some 45 := congrArg List.head? h
      exact absurd hhead (ofNat_head_digit m)
  | negSucc m =>
    cases n with
    | ofNat n =>
      have hhead : (Str.ofNat n).head? = some 45 := congrArg List.head? h.symm
      exact absurd hhead (ofNat_head_digit n)
    | negSucc n =>
      have htail := Protocol.ofNat_injective (List.cons.inj h).2
      rw [Nat.add_right_cancel htail]

/-- **A name is accepted** when, stripped, it is neither empty nor too long and has no line break.
-/
theorem cleanName_ok_iff {approvedBy name : Str} : cleanName approvedBy = .ok name ↔
    name = Str.strip approvedBy ∧ name ≠ [] ∧ name.length ≤ 120 ∧ 10 ∉ name := by
  unfold cleanName
  dsimp only
  split
  · rename_i h
    constructor
    · rintro ⟨⟩
    · rintro ⟨rfl, hne, hlength, hline⟩
      rcases h with h | h | h
      · exact absurd h hne
      · omega
      · exact absurd h hline
  · rename_i h
    rw [not_or, not_or, not_lt] at h
    constructor
    · intro hok
      obtain rfl := Except.ok.inj hok
      exact ⟨rfl, h⟩
    · rintro ⟨rfl, -⟩
      rfl

/-- **A message determines its parts.** -/
theorem macMessage_inj {plan plan' : Approved} {name name' nonce nonce' : Str}
    (hplan : 10 ∉ plan.planHash) (hplan' : 10 ∉ plan'.planHash) (hname : 10 ∉ name)
    (hname' : 10 ∉ name') (h : macMessage plan name nonce = macMessage plan' name' nonce') :
    plan = plan' ∧ name = name' ∧ nonce = nonce' := by
  unfold macMessage at h
  simp only [List.append_assoc, List.cons_append] at h
  obtain ⟨hhash, hrest⟩ := Service.split_first hplan hplan' h
  obtain ⟨rfl, hend⟩ := Service.split_first hname hname' hrest
  clear h hrest
  have hcalls : plan.maxCalls = plan'.maxCalls ∧ nonce = nonce' := by
    have hline := newline_notMem_ofInt plan.maxCalls
    have hline' := newline_notMem_ofInt plan'.maxCalls
    by_cases hn : nonce = [] <;> by_cases hn' : nonce' = []
    · rw [if_pos hn, if_pos hn', List.append_nil, List.append_nil] at hend
      exact ⟨ofInt_injective hend, hn.trans hn'.symm⟩
    · rw [if_pos hn, if_neg hn', List.append_nil] at hend
      exact absurd (hend ▸ List.mem_append_right _ List.mem_cons_self) hline
    · rw [if_neg hn, if_pos hn', List.append_nil] at hend
      exact absurd (hend ▸ List.mem_append_right _ List.mem_cons_self) hline'
    · rw [if_neg hn, if_neg hn'] at hend
      obtain ⟨hcalls, hnonce⟩ := Service.split_first hline hline' hend
      exact ⟨ofInt_injective hcalls, hnonce⟩
  obtain ⟨planHash, maxCalls⟩ := plan
  obtain ⟨planHash', maxCalls'⟩ := plan'
  obtain rfl : planHash = planHash' := hhash
  obtain rfl : maxCalls = maxCalls' := hcalls.1
  exact ⟨rfl, rfl, hcalls.2⟩

/-! ### Verification -/

section
variable {K : Type} {hmac : K → Str → Str} {sha256 : Str → Str} {plan : Approved}
  {key : Option K} {approvedBy token digest : Str}

/-- The text that is authenticated must be encodable, and its digest is taken under the key. -/
theorem mac_ok_iff {k : K} {name nonce : Str} : mac hmac k plan name nonce = .ok digest ↔
    Str.encodable (macMessage plan name nonce) = true ∧
      digest = hmac k (macMessage plan name nonce) := by
  unfold mac
  split
  · rename_i h
    rw [h]
    exact iff_of_false (by rintro ⟨⟩) (by rintro ⟨⟨⟩, -⟩)
  · rename_i h
    rw [Bool.not_eq_false] at h
    rw [Except.ok.injEq]
    exact ⟨fun heq => ⟨h, heq.symm⟩, fun heq => heq.2.symm⟩

/-- What the parts of an accepted token are. -/
structure Accepts (hmac : K → Str → Str) (key : Option K) (plan : Approved)
    (approvedBy token : Str) (k : K) (name nonce given : Str) : Prop where
  key_eq : key = some k
  name_eq : cleanName approvedBy = .ok name
  begins : tokenPrefix.isPrefixOf token = true
  parts : rpartition 46 (token.drop tokenPrefix.length) = (nonce, given)
  nonce_ok : nonce ≠ [] → isNonce nonce = true
  given_eq : mac hmac k plan name nonce = .ok given
  ascii : given.all (fun c => decide (c < 128)) = true

/-- Two texts are compared as equal when they are, and the given one is ASCII; otherwise
`compare_digest` raises. -/
theorem compareDigest_true_iff {expected given : Str} : compareDigest expected given = .ok true ↔
    expected = given ∧ given.all (fun c => decide (c < 128)) = true := by
  unfold compareDigest
  split
  · rename_i h
    rw [h]
    exact iff_of_false (by rintro ⟨⟩) (by rintro ⟨-, ⟨⟩⟩)
  · rename_i h
    rw [Bool.not_eq_false] at h
    rw [Except.ok.injEq, decide_eq_true_iff]
    exact ⟨fun heq => ⟨heq, h⟩, And.left⟩

/-- **`verify_token` accepts** a text exactly when its parts are right. -/
theorem verifyToken_ok_iff :
    verifyToken hmac sha256 key plan (some approvedBy) (some token) = .ok digest ↔
      digest = sha256 token ∧
        ∃ k name nonce given, Accepts hmac key plan approvedBy token k name nonce given := by
  unfold verifyToken
  simp only [Option.getD_some, bind, Except.bind, throw, throwThe, MonadExceptOf.throw, pure,
    Except.pure]
  constructor
  · intro h
    split at h
    · cases h
    split at h
    · cases h
    rename_i name hname
    split at h
    · cases h
    rename_i k
    split at h
    · cases h
    rename_i hbegins
    split at h
    · cases h
    rename_i hnonce
    split at h
    · cases h
    rename_i expected hexpected
    split at h
    · cases h
    rename_i same hsame
    cases same with
    | false => cases h
    | true =>
      obtain ⟨rfl, hascii⟩ := compareDigest_true_iff.1 hsame
      rw [not_and, Bool.not_eq_false] at hnonce
      exact ⟨(Except.ok.inj h).symm, k, name, _, _, rfl, hname, Bool.not_eq_false _ ▸ hbegins, rfl,
        hnonce, hexpected, hascii⟩
  · rintro ⟨rfl, k, name, nonce, given, rfl, hname, hbegins, hparts, hnonce, hgiven, hascii⟩
    have happroved : approvedBy ≠ [] := by
      rintro rfl
      obtain ⟨rfl, hne, -⟩ := cleanName_ok_iff.1 hname
      exact hne rfl
    have htoken : token ≠ [] := by
      rintro rfl
      exact absurd hbegins (by decide)
    rw [if_neg (by rw [not_or]; exact ⟨happroved, htoken⟩), hname]
    have hsame := compareDigest_true_iff.2 ⟨rfl, hascii⟩
    have hnonce' : ¬ (nonce ≠ [] ∧ isNonce nonce = false) := by
      rw [not_and, Bool.not_eq_false]
      exact hnonce
    simp only [hbegins, hparts, hgiven, hsame, if_neg hnonce', Bool.true_eq_false, if_false]

/-- What `issue_token` returns. -/
theorem issueToken_ok_iff {k : K} {nonce : Str} :
    issueToken hmac k plan approvedBy nonce = .ok token ↔
      ∃ name given, cleanName approvedBy = .ok name ∧ mac hmac k plan name nonce = .ok given ∧
        token = tokenPrefix ++ nonce ++ 46 :: given := by
  unfold issueToken
  simp only [bind, Except.bind]
  cases hname : cleanName approvedBy with
  | error e => exact iff_of_false (by rintro ⟨⟩) (by rintro ⟨_, _, ⟨⟩, -⟩)
  | ok name =>
    dsimp only
    cases hgiven : mac hmac k plan name nonce with
    | error e =>
      refine iff_of_false (by rintro ⟨⟩) ?_
      rintro ⟨_, _, ⟨⟩, h, -⟩
      rw [hgiven] at h
      cases h
    | ok given =>
      constructor
      · rintro ⟨⟩
        exact ⟨name, given, rfl, hgiven, rfl⟩
      · rintro ⟨_, _, ⟨⟩, h, rfl⟩
        rw [hgiven] at h
        cases h
        rfl

end

end Agent
end CouncilLogic
