/-
# Reading one JSON object out of a response

`json.JSONDecoder.raw_decode` with the duplicate-key hook of `protocol.py`, and
`_extract_json_object` on top of it: the whole text, or one fenced block, or one
object in prose.

The decoder works on the text that is left.  It recurses once per nested array
or object and raises `RecursionError` below `Runtime.recursionLimit`; every other
failure is a `ValueError`.  `_extract_json_object` catches the second kind and
lets the first one through.

The recursion of the decoder is bounded by a fuel, of which a text needs no more than twice its
length (`CouncilLogic.Protocol.Scan`), and by the depth, which is the recursion limit of the
interpreter: the two are kept apart, since running out of the first would be a flaw of the model
and running out of the second is something the source does.  Numbers follow the documented grammar
of the standard library, `NaN` and `Infinity` included, and integers of more than 4300 digits are
a `ValueError`.
-/

import CouncilLogic.Json

namespace CouncilLogic

/-- What the decoder raises: a `ValueError` (malformed text, a repeated key, an
over-long integer) or a `RecursionError`. -/
inductive DecodeErr
  | value
  | recursion
  deriving DecidableEq, Repr

namespace Decode

/-- White space between JSON tokens. -/
def isWs (c : ℕ) : Bool := c == 32 || c == 9 || c == 10 || c == 13

def skipWs (s : Str) : Str := s.dropWhile isWs

def isDigit (c : ℕ) : Bool := 48 ≤ c && c ≤ 57

/-- The value of a hexadecimal digit. -/
def hexValue (c : ℕ) : Option ℕ :=
  if 48 ≤ c ∧ c ≤ 57 then some (c - 48)
  else if 97 ≤ c ∧ c ≤ 102 then some (c - 87)
  else if 65 ≤ c ∧ c ≤ 70 then some (c - 55)
  else none

/-- Four hexadecimal digits. -/
def hex4 (a b c d : ℕ) : Option ℕ := do
  let a ← hexValue a
  let b ← hexValue b
  let c ← hexValue c
  let d ← hexValue d
  pure (((a * 16 + b) * 16 + c) * 16 + d)

/-- The character a one-letter escape stands for. -/
def unescape (c : ℕ) : Option ℕ :=
  if c = 34 then some 34
  else if c = 92 then some 92
  else if c = 47 then some 47
  else if c = 98 then some 8
  else if c = 102 then some 12
  else if c = 110 then some 10
  else if c = 114 then some 13
  else if c = 116 then some 9
  else none

def isHighSurrogate (c : ℕ) : Bool := 0xD800 ≤ c && c ≤ 0xDBFF
def isLowSurrogate (c : ℕ) : Bool := 0xDC00 ≤ c && c ≤ 0xDFFF

/-- `scanstring`, after the opening quote: the string and the text behind the
closing quote.  Two escapes that form a surrogate pair are joined, a lone
surrogate is kept as it is. -/
def scanString : Str → Except DecodeErr (Str × Str)
  | [] => .error .value
  | 34 :: rest => .ok ([], rest)
  | 92 :: 117 :: a :: b :: c :: d :: 92 :: 117 :: e :: f :: g :: h :: rest =>
    match hex4 a b c d with
    | none => .error .value
    | some u =>
      if isHighSurrogate u then
        match hex4 e f g h with
        | none => .error .value
        | some v =>
          if isLowSurrogate v then do
            let (s, rest) ← scanString rest
            .ok ((0x10000 + (u - 0xD800) * 0x400 + (v - 0xDC00)) :: s, rest)
          else do
            let (s, rest) ← scanString (92 :: 117 :: e :: f :: g :: h :: rest)
            .ok (u :: s, rest)
      else do
        let (s, rest) ← scanString (92 :: 117 :: e :: f :: g :: h :: rest)
        .ok (u :: s, rest)
  | 92 :: 117 :: a :: b :: c :: d :: rest =>
    match hex4 a b c d with
    | none => .error .value
    | some u => do
      let (s, rest) ← scanString rest
      .ok (u :: s, rest)
  | 92 :: c :: rest =>
    match unescape c with
    | none => .error .value
    | some u => do
      let (s, rest) ← scanString rest
      .ok (u :: s, rest)
  | c :: rest =>
    if c < 32 ∨ c = 92 then .error .value
    else do
      let (s, rest) ← scanString rest
      .ok (c :: s, rest)

/-- The decimal value of a run of digits. -/
def digitsValue (s : Str) : ℕ := s.foldl (fun n c => n * 10 + (c - 48)) 0

/-- `sys.int_info.default_max_str_digits`. -/
def maxIntDigits : ℕ := 4300

/-- `_match_number`: an optional sign, an integer part without leading zeros, then
as much of a fraction and of an exponent as is complete. -/
def scanNumber (rt : Runtime) (s : Str) : Except DecodeErr (Json × Str) :=
  let (sign, body) := match s with
    | 45 :: r => ([45], r)
    | _ => ([], s)
  let digits := match body with
    | 48 :: _ => [48]
    | _ => body.takeWhile isDigit
  if digits = [] then .error .value
  else
    let rest := body.drop digits.length
    let fraction := match rest with
      | 46 :: r => if (r.takeWhile isDigit) = [] then [] else 46 :: r.takeWhile isDigit
      | _ => []
    let rest := rest.drop fraction.length
    let exponent := match rest with
      | e :: r =>
        if e = 69 ∨ e = 101 then
          let (esign, r) := match r with
            | c :: r' => if c = 43 ∨ c = 45 then ([c], r') else ([], c :: r')
            | [] => ([], [])
          if (r.takeWhile isDigit) = [] then [] else e :: esign ++ r.takeWhile isDigit
        else []
      | [] => []
    let rest := rest.drop exponent.length
    if fraction = [] ∧ exponent = [] then
      if maxIntDigits < digits.length then .error .value
      else
        let n : ℤ := digitsValue digits
        .ok (.int (if sign = [] then n else -n), rest)
    else .ok (.float (rt.floatRepr (sign ++ digits ++ fraction ++ exponent)), rest)

/-- A literal, or a number. -/
def scanAtom (rt : Runtime) (s : Str) : Except DecodeErr (Json × Str) :=
  if lit "null" <+: s then .ok (.null, s.drop 4)
  else if lit "true" <+: s then .ok (.bool true, s.drop 4)
  else if lit "false" <+: s then .ok (.bool false, s.drop 5)
  else if lit "NaN" <+: s then .ok (.float (lit "NaN"), s.drop 3)
  else if lit "Infinity" <+: s then .ok (.float (lit "Infinity"), s.drop 8)
  else if lit "-Infinity" <+: s then .ok (.float (lit "-Infinity"), s.drop 9)
  else scanNumber rt s

/-- `_reject_duplicate_keys`. -/
def rejectDuplicateKeys (pairs : List (Str × Json)) : Except DecodeErr Json :=
  if (pairs.map Prod.fst).Nodup then .ok (.obj pairs) else .error .value

mutual
/-- `scan_once`: one value at the beginning of the text, with `depth` levels of
nesting left before `RecursionError`.  The fuel bounds the number of calls. -/
def scanOnce (rt : Runtime) : ℕ → ℕ → Str → Except DecodeErr (Json × Str)
  | 0, _, _ => .error .value
  | fuel + 1, depth, s =>
    match s with
    | 34 :: rest => do
      let (t, rest) ← scanString rest
      .ok (.str t, rest)
    | 123 :: rest =>
      match depth with
      | 0 => .error .recursion
      | depth + 1 =>
        match skipWs rest with
        | 125 :: rest => .ok (.obj [], rest)
        | rest => do
          let (pairs, rest) ← scanFields rt fuel depth rest
          let value ← rejectDuplicateKeys pairs
          .ok (value, rest)
    | 91 :: rest =>
      match depth with
      | 0 => .error .recursion
      | depth + 1 =>
        match skipWs rest with
        | 93 :: rest => .ok (.arr [], rest)
        | rest => do
          let (items, rest) ← scanItems rt fuel depth rest
          .ok (.arr items, rest)
    | s => scanAtom rt s

/-- The fields of an object, up to its closing brace. -/
def scanFields (rt : Runtime) : ℕ → ℕ → Str → Except DecodeErr (List (Str × Json) × Str)
  | 0, _, _ => .error .value
  | fuel + 1, depth, s =>
    match s with
    | 34 :: rest => do
      let (key, rest) ← scanString rest
      match skipWs rest with
      | 58 :: rest => do
        let (value, rest) ← scanOnce rt fuel depth (skipWs rest)
        match skipWs rest with
        | 125 :: rest => .ok ([(key, value)], rest)
        | 44 :: rest => do
          let (pairs, rest) ← scanFields rt fuel depth (skipWs rest)
          .ok ((key, value) :: pairs, rest)
        | _ => .error .value
      | _ => .error .value
    | _ => .error .value

/-- The items of an array, up to its closing bracket. -/
def scanItems (rt : Runtime) : ℕ → ℕ → Str → Except DecodeErr (List Json × Str)
  | 0, _, _ => .error .value
  | fuel + 1, depth, s => do
    let (value, rest) ← scanOnce rt fuel depth s
    match skipWs rest with
    | 93 :: rest => .ok ([value], rest)
    | 44 :: rest => do
      let (items, rest) ← scanItems rt fuel depth (skipWs rest)
      .ok (value :: items, rest)
    | _ => .error .value
end

/-- `_JSON_DECODER.raw_decode(s, 0)`: the value at the beginning of `s`, and the
text after it.  Every call of the scanner but the first is preceded by at least
half a consumed character, so twice the length is fuel enough. -/
def rawDecode (rt : Runtime) (s : Str) : Except DecodeErr (Json × Str) :=
  scanOnce rt (2 * s.length + 2) rt.recursionLimit s

/-- `_decode_complete_json`. -/
def decodeCompleteJson (rt : Runtime) (value : Str) : Except DecodeErr Json := do
  let (decoded, rest) ← rawDecode rt (Str.lstrip value)
  if Str.strip rest = [] then .ok decoded else .error .value

/-! ### Fenced blocks -/

/-- The text before the first occurrence of three backquotes, and the text after
them. -/
def splitFence : Str → Option (Str × Str)
  | 96 :: 96 :: 96 :: rest => some ([], rest)
  | c :: rest => (splitFence rest).map fun (body, after) => (c :: body, after)
  | [] => none

/-- `(?:json)?` under `re.IGNORECASE`, which also matches the long s. -/
def dropJsonTag : Str → Str
  | a :: b :: c :: d :: rest =>
    if (a = 106 ∨ a = 74) ∧ (b = 115 ∨ b = 83 ∨ b = 0x17F) ∧ (c = 111 ∨ c = 79) ∧
        (d = 110 ∨ d = 78) then rest
    else a :: b :: c :: d :: rest
  | s => s

/-- `_CODE_FENCE_RE.findall`: the bodies of the fenced blocks, left to right. -/
def fencedBlocks : ℕ → Str → List Str
  | 0, _ => []
  | fuel + 1, s =>
    match splitFence s with
    | none => []
    | some (_, inner) =>
      match splitFence (Str.lstrip (dropJsonTag inner)) with
      | none => []
      | some (body, rest) => body :: fencedBlocks fuel rest

/-! ### Objects in the text -/

/-- The objects of the fenced blocks; a block that does not decode is skipped. -/
def fencedObjects (rt : Runtime) : List Str → Except DecodeErr (List Dict)
  | [] => .ok []
  | fenced :: blocks =>
    match decodeCompleteJson rt (Str.strip fenced) with
    | .error .recursion => .error .recursion
    | .error .value => fencedObjects rt blocks
    | .ok (.obj d) => do
      let ds ← fencedObjects rt blocks
      .ok (d :: ds)
    | .ok _ => fencedObjects rt blocks

/-- The objects at the opening braces of the text, each search going on behind
the object before it. -/
def braceObjects (rt : Runtime) : ℕ → Str → Except DecodeErr (List Dict)
  | 0, _ => .ok []
  | fuel + 1, s =>
    match s.dropWhile (· != 123) with
    | [] => .ok []
    | start :: rest =>
      match rawDecode rt (start :: rest) with
      | .error .recursion => .error .recursion
      | .error .value => braceObjects rt fuel rest
      | .ok (.obj d, after) => do
        let ds ← braceObjects rt fuel after
        .ok (d :: ds)
      | .ok (_, after) =>
        braceObjects rt fuel after

/-- `unique[canonical] = candidate`, one entry for each canonical text. -/
def uniqueObjects : List Dict → List (Str × Dict)
  | [] => []
  | d :: ds =>
    let key := (Json.canon (.obj d)).dumpsCompact
    let rest := uniqueObjects ds
    if key ∈ rest.map Prod.fst then rest else (key, d) :: rest

/-- `_extract_json_object(text, artifact_name=…)`. -/
def extractJsonObject (rt : Runtime) (artifactName text : Str) : Except PyErr Dict :=
  let recursionError : PyErr := ⟨.recursionError, lit "maximum recursion depth exceeded"⟩
  if Str.isBlank text then .error (.valueError (artifactName ++ lit " must be non-empty text"))
  else
    let stripped := Str.strip text
    match decodeCompleteJson rt stripped with
    | .error .recursion => .error recursionError
    | .ok (.obj d) => .ok d
    | .ok .null | .error .value =>
      match fencedObjects rt (fencedBlocks stripped.length stripped) with
      | .error _ => .error recursionError
      | .ok fenced =>
        match if fenced = [] then braceObjects rt (stripped.length + 1) stripped
            else .ok fenced with
        | .error _ => .error recursionError
        | .ok candidates =>
          match uniqueObjects candidates with
          | [] => .error (.valueError (lit "no JSON object found in " ++ artifactName))
          | [(_, d)] => .ok d
          | _ :: _ :: _ =>
            .error (.valueError (lit "multiple distinct JSON objects found in " ++ artifactName))
    | .ok _ => .error (.valueError (artifactName ++ lit " JSON must be an object"))

end Decode

end CouncilLogic
