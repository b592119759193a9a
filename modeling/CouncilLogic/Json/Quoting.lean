/-
# What is quoted can be read back

`json.dumps` of a string, with its escapes, is an injection: a digest of the text tells
strings apart unless the digest itself collides.

`src/model_council/service.py` binds an idempotency key to the digest of `{"question": …}`,
printed compactly.  The text of a request therefore determines its question
(`CouncilLogic.Guarantees.Idempotency`), and two questions with one digest are a collision of
SHA-256 and nothing else.  The proof reads the escapes back one by one; the quote that ends a
string is never the second character of an escape, so that two printed strings cannot begin alike
and go on differently.
-/

import Mathlib.Tactic.IntervalCases
import CouncilLogic.Json

namespace CouncilLogic
namespace Json

/-- The first character that was escaped, and what follows it. -/
def unescape : Str → Option (ℕ × Str)
  | 92 :: 117 :: _ :: _ :: high :: low :: s => some (16 * digit high + digit low, s)
  | 92 :: c :: s => some (short c, s)
  | c :: s => some (c, s)
  | [] => none
where
  /-- The value of a hexadecimal digit. -/
  digit (d : ℕ) : ℕ := if d < 58 then d - 48 else d - 87
  /-- The character that a letter after a backslash stands for. -/
  short (c : ℕ) : ℕ :=
    if c = 110 then 10 else if c = 114 then 13 else if c = 116 then 9
    else if c = 102 then 12 else if c = 98 then 8 else c

/-- Every control character that has no letter of its own. -/
theorem unescape_control : ∀ c < 32, ∀ s : Str,
    unescape (lit "\\u00" ++ [escape.hexDigit (c / 16), escape.hexDigit (c % 16)] ++ s) =
      some (c, s) := by
  intro c hc s
  interval_cases c <;> rfl

/-- **No escape begins another**: what was escaped is read off the front. -/
theorem unescape_escape (c : ℕ) (s : Str) : unescape (escape c ++ s) = some (c, s) := by
  unfold escape
  split_ifs with h1 h2 h3 h4 h5 h6 h7 h8
  · rw [h1]; rfl
  · rw [h2]; rfl
  · rw [h3]; rfl
  · rw [h4]; rfl
  · rw [h5]; rfl
  · rw [h6]; rfl
  · rw [h7]; rfl
  · exact unescape_control c h8 s
  · rw [List.singleton_append]
    -- an unescaped character is no backslash
    unfold unescape
    split <;> simp_all

/-- Different strings have different JSON. -/
theorem dumpsStr_injective : Function.Injective dumpsStr := by
  intro s s' h
  have hflat : s.flatMap escape = s'.flatMap escape :=
    List.append_cancel_right (List.cons.inj h).2
  clear h
  induction s generalizing s' with
  | nil =>
    cases s' with
    | nil => rfl
    | cons c' s' =>
      have := congrArg unescape hflat
      rw [List.flatMap_cons, unescape_escape] at this
      cases this
  | cons c s ih =>
    cases s' with
    | nil =>
      have := congrArg unescape hflat
      rw [List.flatMap_cons, unescape_escape] at this
      cases this
    | cons c' s' =>
      have hhead := congrArg unescape hflat
      rw [List.flatMap_cons, List.flatMap_cons, unescape_escape, unescape_escape] at hhead
      obtain ⟨rfl, hrest⟩ := Prod.mk.inj (Option.some.inj hhead)
      rw [ih hrest]

end Json
end CouncilLogic
