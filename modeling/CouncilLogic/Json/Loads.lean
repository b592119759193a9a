/-
# `json.loads` of a response body

The decoder of the standard library as the providers use it: without a hook, so that of a
repeated key the last value counts.  It raises `JSONDecodeError` for a malformed text, but a
plain `ValueError` for an integer with too many digits, and `RecursionError` for a text that is
nested too deeply.

`src/model_council/providers/http.py` decodes the body of a response as UTF-8 and then with
`json.loads`; `utf8Decode` is the strict decoder of Python, which refuses overlong forms,
surrogates and code points beyond the last one.  The scanner shares its atoms and strings with
`CouncilLogic.Protocol.Decode`; what differs is that an object is built as a dictionary from its
pairs, and that each kind of failure is kept apart, because the client of `http.py` catches only
one of them.
-/

import CouncilLogic.Protocol.Decode

namespace CouncilLogic

/-- What `json.loads` raises. -/
inductive LoadsErr
  /-- `json.JSONDecodeError`. -/
  | malformed
  /-- The `ValueError` of `int`. -/
  | digits
  | recursion
  deriving DecidableEq, Repr

/-! ### UTF-8 -/

/-- A byte that continues a character. -/
def isContinuation (b : UInt8) : Bool := 0x80 ≤ b && b ≤ 0xBF

/-- The bits that a continuation byte adds. -/
def continued (n : ℕ) (b : UInt8) : ℕ := n * 64 + (b.toNat - 0x80)

/-- The second byte that may follow the first one of three: no longer form than needed, and no
surrogate. -/
def isSecondOfThree (a b : UInt8) : Bool :=
  isContinuation b && !(a == 0xE0 && b < 0xA0) && !(a == 0xED && 0x9F < b)

/-- The second byte that may follow the first one of four: no longer form than needed, and
nothing above `0x10FFFF`. -/
def isSecondOfFour (a b : UInt8) : Bool :=
  isContinuation b && !(a == 0xF0 && b < 0x90) && !(a == 0xF4 && 0x8F < b)

/-- `bytes.decode("utf-8")`, `none` for `UnicodeDecodeError`. -/
def utf8Decode : List UInt8 → Option Str
  | [] => some []
  | a :: rest =>
    if a < 0x80 then (utf8Decode rest).map (a.toNat :: ·)
    else
      match rest with
      | [] => none
      | b :: rest =>
        if 0xC2 ≤ a ∧ a ≤ 0xDF ∧ isContinuation b = true then
          (utf8Decode rest).map (continued (a.toNat - 0xC0) b :: ·)
        else
          match rest with
          | [] => none
          | c :: rest =>
            if 0xE0 ≤ a ∧ a ≤ 0xEF ∧ isSecondOfThree a b = true ∧ isContinuation c = true then
              (utf8Decode rest).map (continued (continued (a.toNat - 0xE0) b) c :: ·)
            else
              match rest with
              | [] => none
              | d :: rest =>
                if 0xF0 ≤ a ∧ a ≤ 0xF4 ∧ isSecondOfFour a b = true ∧ isContinuation c = true ∧
                    isContinuation d = true then
                  (utf8Decode rest).map
                    (continued (continued (continued (a.toNat - 0xF0) b) c) d :: ·)
                else none

/-! ### The decoder -/

namespace Loads

open Decode (skipWs isDigit maxIntDigits)

/-- `scanstring`. -/
def scanString (s : Str) : Except LoadsErr (Str × Str) :=
  match Decode.scanString s with
  | .ok r => .ok r
  | .error _ => .error .malformed

/-- A literal, or a number.  A number without a fraction and an exponent is read by `int`. -/
def scanAtom (rt : Runtime) (s : Str) : Except LoadsErr (Json × Str) :=
  match Decode.scanAtom rt s with
  | .ok r => .ok r
  | .error _ =>
    let body := if s.head? = some 45 then s.tail else s
    if maxIntDigits < (body.takeWhile isDigit).length then .error .digits else .error .malformed

/-- `dict(pairs)`. -/
def dictOf (pairs : List (Str × Json)) : Dict := Dict.update [] pairs

mutual
/-- `scan_once`, with `depth` levels of nesting left before `RecursionError`.  The fuel bounds
the number of calls. -/
def scanOnce (rt : Runtime) : ℕ → ℕ → Str → Except LoadsErr (Json × Str)
  | 0, _, _ => .error .malformed
  | fuel + 1, depth, s =>
    match s with
    | 34 :: rest => do
      let (t, rest) ← scanString rest
      .ok (.str t, rest)
    | 123 :: rest =>
      match depth with
      | 0 => .error .recursion
      | depth + 1 =>
        match skipWs rest with
        | 125 :: rest => .ok (.obj [], rest)
        | rest => do
          let (pairs, rest) ← scanFields rt fuel depth rest
          .ok (.obj (dictOf pairs), rest)
    | 91 :: rest =>
      match depth with
      | 0 => .error .recursion
      | depth + 1 =>
        match skipWs rest with
        | 93 :: rest => .ok (.arr [], rest)
        | rest => do
          let (items, rest) ← scanItems rt fuel depth rest
          .ok (.arr items, rest)
    | s => scanAtom rt s

/-- The fields of an object, up to its closing brace. -/
def scanFields (rt : Runtime) : ℕ → ℕ → Str → Except LoadsErr (List (Str × Json) × Str)
  | 0, _, _ => .error .malformed
  | fuel + 1, depth, s =>
    match s with
    | 34 :: rest => do
      let (key, rest) ← scanString rest
      match skipWs rest with
      | 58 :: rest => do
        let (value, rest) ← scanOnce rt fuel depth (skipWs rest)
        match skipWs rest with
        | 125 :: rest => .ok ([(key, value)], rest)
        | 44 :: rest => do
          let (pairs, rest) ← scanFields rt fuel depth (skipWs rest)
          .ok ((key, value) :: pairs, rest)
        | _ => .error .malformed
      | _ => .error .malformed
    | _ => .error .malformed

/-- The items of an array, up to its closing bracket. -/
def scanItems (rt : Runtime) : ℕ → ℕ → Str → Except LoadsErr (List Json × Str)
  | 0, _, _ => .error .malformed
  | fuel + 1, depth, s => do
    let (value, rest) ← scanOnce rt fuel depth s
    match skipWs rest with
    | 93 :: rest => .ok ([value], rest)
    | 44 :: rest => do
      let (items, rest) ← scanItems rt fuel depth (skipWs rest)
      .ok (value :: items, rest)
    | _ => .error .malformed
end

end Loads

/-- `json.loads(text)`.  Every call of the scanner but the first is preceded by at least half a
consumed character, so twice the length is fuel enough. -/
def loads (rt : Runtime) (text : Str) : Except LoadsErr Json :=
  if text.head? = some 0xFEFF then .error .malformed
  else do
    let start := Decode.skipWs text
    let (value, rest) ← Loads.scanOnce rt (2 * start.length + 2) rt.recursionLimit start
    if Decode.skipWs rest = [] then .ok value else .error .malformed

end CouncilLogic
