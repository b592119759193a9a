/-
# A token is good for one plan and one approver

The parts of the text that `_mac` authenticates are separated by line breaks, and none of them
has one: a plan's hash is hexadecimal, a name with a line break is refused, and the rest are
digits.  So where the keyed digest does not collide, a token that was issued for a plan and a
name is accepted for that plan and that name only, in the data directory of its key only, and
there always.

The functions are `issue_token` and `verify_token` of `src/model_council/approval.py`.  A token of
the older form has no nonce, and one line less is authenticated for it, so the two forms cannot be
taken for one another.
-/

import CouncilLogic.Agent.Tokens

namespace CouncilLogic
namespace Agent

variable {K : Type} {hmac : K → Str → Str} {k : K} {plan : Approved}
  {approvedBy nonce token given : Str}

/-- A hexadecimal digit is ASCII and no dot. -/
theorem isHexDigit_ascii {c : ℕ} (h : isHexDigit c = true) : c < 128 ∧ c ≠ 46 := by
  unfold isHexDigit at h
  simp only [Bool.or_eq_true, Bool.and_eq_true, decide_eq_true_eq] at h
  omega

/-- A token is cut at the dot before its digest, wherever dots are in the nonce. -/
theorem rpartition_issued (hhex : given.all isHexDigit = true) :
    rpartition 46 ((tokenPrefix ++ nonce ++ 46 :: given).drop tokenPrefix.length) =
      (nonce, given) := by
  rw [List.append_assoc, List.drop_left]
  refine rpartition_append fun h => ?_
  exact (isHexDigit_ascii (List.all_eq_true.1 hhex _ h)).2 rfl

/-- **A token is good for one plan and one approver.**  A token that `issue_token` returned is
accepted by `verify_token` exactly for the plan hash and the ceiling of calls it was issued for,
for the same name up to surrounding white space, and in a data directory with the same key,
unless the keyed digest collides on the two texts. -/
theorem issued_accepted_iff (hhex : ∀ k message, (hmac k message).all isHexDigit = true)
    (hnonce : isNonce nonce = true) (hplan : 10 ∉ plan.planHash)
    (hissue : issueToken hmac k plan approvedBy nonce = .ok token) (sha256 : Str → Str)
    (key : Option K) {plan' : Approved} (hplan' : 10 ∉ plan'.planHash) (approvedBy' : Str)
    (hcollision : ∀ k', key = some k' →
      hmac k' (macMessage plan' (Str.strip approvedBy') nonce) =
        hmac k (macMessage plan (Str.strip approvedBy) nonce) →
      k' = k ∧ macMessage plan' (Str.strip approvedBy') nonce =
        macMessage plan (Str.strip approvedBy) nonce) :
    verifyToken hmac sha256 key plan' (some approvedBy') (some token) = .ok (sha256 token) ↔
      key = some k ∧ plan' = plan ∧ Str.strip approvedBy' = Str.strip approvedBy := by
  obtain ⟨name, given, hname, hgiven, rfl⟩ := issueToken_ok_iff.1 hissue
  obtain ⟨rfl, -, -, hline⟩ := cleanName_ok_iff.1 hname
  have hdigest := (mac_ok_iff.1 hgiven).2
  have hgivenHex : given.all isHexDigit = true := hdigest ▸ hhex _ _
  rw [verifyToken_ok_iff]
  constructor
  · rintro ⟨-, k', name', nonce', given', haccepts⟩
    obtain ⟨rfl, -, -, hline'⟩ := cleanName_ok_iff.1 haccepts.name_eq
    have hparts := haccepts.parts
    rw [rpartition_issued hgivenHex, Prod.mk.injEq] at hparts
    obtain ⟨rfl, rfl⟩ := hparts
    have hsame := (mac_ok_iff.1 haccepts.given_eq).2.symm.trans hdigest
    obtain ⟨rfl, hmessage⟩ := hcollision k' haccepts.key_eq hsame
    obtain ⟨heq, hnames, -⟩ := macMessage_inj hplan' hplan hline' hline hmessage
    exact ⟨haccepts.key_eq, heq, hnames⟩
  · rintro ⟨rfl, rfl, hnames⟩
    have hascii : given.all (fun c => decide (c < 128)) = true := by
      rw [List.all_eq_true] at hgivenHex ⊢
      exact fun c hc => decide_eq_true (isHexDigit_ascii (hgivenHex c hc)).1
    have hname' : cleanName approvedBy' = .ok (Str.strip approvedBy) := by
      rw [cleanName_ok_iff] at hname ⊢
      exact ⟨hnames.symm, hname.2⟩
    exact ⟨rfl, k, _, nonce, given, rfl, hname', by
      rw [List.append_assoc]
      exact List.isPrefixOf_iff_prefix.2 (List.prefix_append _ _),
      rpartition_issued hgivenHex, fun _ => hnonce, hgiven, hascii⟩

/-- A keyed digest that writes the key and the message in hexadecimal digits. -/
def exampleHmac (key : ℕ) (message : Str) : Str :=
  (key :: message).flatMap fun c => [97 + c / 64 % 6, 48 + c / 8 % 8, 48 + c % 8]

/-- The approval of a human for a plan of twenty calls. -/
def exampleApproved : Approved := ⟨List.replicate 64 97, 20⟩

/-- A token is issued to a name with blanks around it, and accepted for the plan and the stripped
name. -/
theorem issued_accepted_iff_example :
    issueToken exampleHmac 7 exampleApproved (lit " Ada ") (List.replicate 16 48) =
        .ok (tokenPrefix ++ List.replicate 16 48 ++ 46 :: exampleHmac 7
          (macMessage exampleApproved (lit "Ada") (List.replicate 16 48))) ∧
      (verifyToken exampleHmac id (some 7) exampleApproved (some (lit "Ada"))
        (some (tokenPrefix ++ List.replicate 16 48 ++ 46 :: exampleHmac 7
          (macMessage exampleApproved (lit "Ada") (List.replicate 16 48)))) =
        .ok (tokenPrefix ++ List.replicate 16 48 ++ 46 :: exampleHmac 7
          (macMessage exampleApproved (lit "Ada") (List.replicate 16 48)))) := by
  have hissue : issueToken exampleHmac 7 exampleApproved (lit " Ada ") (List.replicate 16 48) =
      .ok (tokenPrefix ++ List.replicate 16 48 ++ 46 :: exampleHmac 7
        (macMessage exampleApproved (lit "Ada") (List.replicate 16 48))) := by decide +kernel
  have hhex : ∀ k message, (exampleHmac k message).all isHexDigit = true := by
    intro k message
    rw [List.all_eq_true]
    intro c hc
    obtain ⟨n, -, hn⟩ := List.mem_flatMap.1 hc
    simp only [List.mem_cons, List.not_mem_nil, or_false] at hn
    unfold isHexDigit
    simp only [Bool.or_eq_true, Bool.and_eq_true, decide_eq_true_eq]
    omega
  refine ⟨hissue, (issued_accepted_iff hhex (by decide) (by decide) hissue id (some 7)
    (by decide) (lit "Ada") ?_).2 ⟨rfl, rfl, by decide⟩⟩
  rintro k' ⟨⟩ -
  exact ⟨rfl, by decide +kernel⟩

end Agent
end CouncilLogic
