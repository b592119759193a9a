/-
# JSON values, and what the store makes of them

A value decoded by `json.loads`, or built by the program to be dumped: objects
keep their insertion order, as Python dictionaries do.  A number with a fraction
or an exponent is carried as the text `json.dumps` writes for it.

Three printers matter: `_payload` of `protocol.py` (indented, keys in order),
which builds the prompts; the compact one that compares decoded objects; and
`_canonical_json` of `store.py`, which sorts the keys of every object and thereby
loses the order.  A stored value is read back as its `canon`, and two
dictionaries are equal in Python exactly when their `canon` is the same.

What a column takes is here as well: `assertNoCredentials` is `_assert_no_credentials` of
`src/model_council/store.py`, `encodable` is the encoding as UTF-8 when SQLite binds the text, and
`dumpable` says that `json.dumps(…, allow_nan=False)` raises nothing, neither for a float that is
not finite nor for an integer of more than 4300 digits.
-/

import CouncilLogic.Text

namespace CouncilLogic

/-- A JSON value. -/
inductive Json where
  | null
  | bool (b : Bool)
  | int (n : ℤ)
  | float (token : Str)
  | str (s : Str)
  | arr (items : List Json)
  | obj (fields : List (Str × Json))

/-- A dictionary with string keys, in insertion order. -/
abbrev Dict := List (Str × Json)

namespace Json

/-! ### Equality -/

mutual
/-- Structural comparison. -/
def beq : Json → Json → Bool
  | .null, .null => true
  | .bool a, .bool b => a == b
  | .int a, .int b => a == b
  | .float a, .float b => a == b
  | .str a, .str b => a == b
  | .arr a, .arr b => beqItems a b
  | .obj a, .obj b => beqFields a b
  | _, _ => false

def beqItems : List Json → List Json → Bool
  | [], [] => true
  | a :: as, b :: bs => beq a b && beqItems as bs
  | _, _ => false

def beqFields : List (Str × Json) → List (Str × Json) → Bool
  | [], [] => true
  | (k, a) :: as, (l, b) :: bs => k == l && beq a b && beqFields as bs
  | _, _ => false
end

mutual
/-- The test of equality is equality. -/
theorem beq_iff : ∀ a b : Json, beq a b = true ↔ a = b
  | .null, b => by cases b <;> simp [beq]
  | .bool _, b => by cases b <;> simp [beq]
  | .int _, b => by cases b <;> simp [beq]
  | .float _, b => by cases b <;> simp [beq]
  | .str _, b => by cases b <;> simp [beq]
  | .arr a, b => by cases b <;> simp [beq, beqItems_iff]
  | .obj a, b => by cases b <;> simp [beq, beqFields_iff]

/-- The test of equality of two lists is equality. -/
theorem beqItems_iff : ∀ a b : List Json, beqItems a b = true ↔ a = b
  | [], b => by cases b <;> simp [beqItems]
  | a :: as, b => by cases b <;> simp [beqItems, beq_iff a, beqItems_iff as]

/-- The test of equality of two lists of fields is equality, their order included. -/
theorem beqFields_iff : ∀ a b : List (Str × Json), beqFields a b = true ↔ a = b
  | [], b => by cases b <;> simp [beqFields]
  | (k, a) :: as, b => by
    cases b <;> simp [beqFields, beq_iff a, beqFields_iff as, Prod.ext_iff, and_assoc]
end

instance : DecidableEq Json := fun a b => decidable_of_iff _ (beq_iff a b)

/-! ### Canonical form -/

/-- Sort the fields of an object by key. -/
def sortFields (fields : List (Str × Json)) : List (Str × Json) :=
  fields.insertionSort fun a b => Str.le a.1 b.1 = true

mutual
/-- `json.loads(_canonical_json(value))`: every object with its keys sorted. -/
def canon : Json → Json
  | .arr items => .arr (canonItems items)
  | .obj fields => .obj (sortFields (canonFields fields))
  | .null => .null
  | .bool b => .bool b
  | .int n => .int n
  | .float t => .float t
  | .str s => .str s

def canonItems : List Json → List Json
  | [] => []
  | j :: js => canon j :: canonItems js

def canonFields : List (Str × Json) → List (Str × Json)
  | [] => []
  | (k, j) :: fs => (k, canon j) :: canonFields fs
end

/-- `a == b` of two values built from dictionaries, lists, strings and numbers. -/
def same (a b : Json) : Bool := canon a == canon b

/-- `value == 1` in Python, which holds of `True` and of `1.0` as well. -/
def isOne : Json → Bool
  | .int n => n == 1
  | .bool b => b
  | .float token => token == lit "1.0"
  | .null | .str _ | .arr _ | .obj _ => false

/-! ### Printing -/

/-- A character inside a JSON string, `ensure_ascii=False`. -/
def escape (c : ℕ) : Str :=
  if c = 34 then [92, 34]
  else if c = 92 then [92, 92]
  else if c = 10 then lit "\\n"
  else if c = 13 then lit "\\r"
  else if c = 9 then lit "\\t"
  else if c = 12 then lit "\\f"
  else if c = 8 then lit "\\b"
  else if c < 32 then lit "\\u00" ++ [hexDigit (c / 16), hexDigit (c % 16)]
  else [c]
where
  /-- A lower-case hexadecimal digit. -/
  hexDigit (d : ℕ) : ℕ := if d < 10 then d + 48 else d + 87

/-- `json.dumps(s, ensure_ascii=False)` of a string. -/
def dumpsStr (s : Str) : Str := 34 :: (s.flatMap escape ++ [34])

/-- `json.dumps` of anything but a list or a dictionary. -/
def dumpsAtom : Json → Str
  | .null => lit "null"
  | .bool true => lit "true"
  | .bool false => lit "false"
  | .int n => Str.ofInt n
  | .float t => t
  | .str s => dumpsStr s
  | .arr _ => []
  | .obj _ => []

/-- A line break and the indentation of nesting depth `level`. -/
def newline (level : ℕ) : Str := 10 :: List.replicate (2 * level) 32

mutual
/-- `json.dumps(value, ensure_ascii=False, indent=2, separators=(",", ": "))` at
nesting depth `level`. -/
def dumpsIndent (level : ℕ) : Json → Str
  | .arr [] => lit "[]"
  | .arr (j :: js) =>
    lit "[" ++ newline (level + 1) ++ dumpsIndent (level + 1) j ++
      dumpsIndentItems (level + 1) js ++ newline level ++ lit "]"
  | .obj [] => lit "\x7b\x7d"
  | .obj ((k, j) :: fs) =>
    lit "\x7b" ++ newline (level + 1) ++ dumpsStr k ++ lit ": " ++ dumpsIndent (level + 1) j ++
      dumpsIndentFields (level + 1) fs ++ newline level ++ lit "\x7d"
  | .null => dumpsAtom .null
  | .bool b => dumpsAtom (.bool b)
  | .int n => dumpsAtom (.int n)
  | .float t => dumpsAtom (.float t)
  | .str s => dumpsAtom (.str s)

def dumpsIndentItems (level : ℕ) : List Json → Str
  | [] => []
  | j :: js => lit "," ++ newline level ++ dumpsIndent level j ++ dumpsIndentItems level js

def dumpsIndentFields (level : ℕ) : List (Str × Json) → Str
  | [] => []
  | (k, j) :: fs =>
    lit "," ++ newline level ++ dumpsStr k ++ lit ": " ++ dumpsIndent level j ++
      dumpsIndentFields level fs
end

mutual
/-- `json.dumps(value, ensure_ascii=False, separators=(",", ":"))`. -/
def dumpsCompact : Json → Str
  | .arr [] => lit "[]"
  | .arr (j :: js) => lit "[" ++ dumpsCompact j ++ dumpsCompactItems js ++ lit "]"
  | .obj [] => lit "\x7b\x7d"
  | .obj ((k, j) :: fs) =>
    lit "\x7b" ++ dumpsStr k ++ lit ":" ++ dumpsCompact j ++ dumpsCompactFields fs ++ lit "\x7d"
  | .null => dumpsAtom .null
  | .bool b => dumpsAtom (.bool b)
  | .int n => dumpsAtom (.int n)
  | .float t => dumpsAtom (.float t)
  | .str s => dumpsAtom (.str s)

def dumpsCompactItems : List Json → Str
  | [] => []
  | j :: js => lit "," ++ dumpsCompact j ++ dumpsCompactItems js

def dumpsCompactFields : List (Str × Json) → Str
  | [] => []
  | (k, j) :: fs => lit "," ++ dumpsStr k ++ lit ":" ++ dumpsCompact j ++ dumpsCompactFields fs
end

/-! ### What the store accepts -/

mutual
/-- Every key and string can be encoded as UTF-8, so that the digest of the
stored text exists. -/
def encodable : Json → Bool
  | .str s => Str.encodable s
  | .arr items => encodableItems items
  | .obj fields => encodableFields fields
  | .null => true
  | .bool _ => true
  | .int _ => true
  | .float _ => true

def encodableItems : List Json → Bool
  | [] => true
  | j :: js => encodable j && encodableItems js

def encodableFields : List (Str × Json) → Bool
  | [] => true
  | (k, j) :: fs => Str.encodable k && encodable j && encodableFields fs
end

mutual
/-- `allow_nan=False` finds nothing to refuse. -/
def finite : Json → Bool
  | .float t => !(t == lit "NaN" || t == lit "Infinity" || t == lit "-Infinity")
  | .arr items => finiteItems items
  | .obj fields => finiteFields fields
  | .null => true
  | .bool _ => true
  | .int _ => true
  | .str _ => true

def finiteItems : List Json → Bool
  | [] => true
  | j :: js => finite j && finiteItems js

def finiteFields : List (Str × Json) → Bool
  | [] => true
  | (_, j) :: fs => finite j && finiteFields fs
end

/-- Python prints an integer of up to 4300 digits. -/
def intLimit : ℕ := (10 ^ 100) ^ 43

mutual
/-- `json.dumps(value, allow_nan=False)` finds nothing to refuse: the floats are finite, and
the integers are short enough to be printed. -/
def dumpable : Json → Bool
  | .float t => finite (.float t)
  | .int n => decide (n.natAbs < intLimit)
  | .arr items => dumpableItems items
  | .obj fields => dumpableFields fields
  | .null => true
  | .bool _ => true
  | .str _ => true

def dumpableItems : List Json → Bool
  | [] => true
  | j :: js => dumpable j && dumpableItems js

def dumpableFields : List (Str × Json) → Bool
  | [] => true
  | (_, j) :: fs => dumpable j && dumpableFields fs
end

/-- What `json.dumps` says of a value that it refuses. -/
def dumpError (value : Json) : PyErr :=
  .valueError (if finite value = false then
    lit "Out of range float values are not JSON compliant"
  else lit "Exceeds the limit (4300 digits) for integer string conversion")

/-- `_RAW_CREDENTIAL_KEYS`. -/
def rawCredentialKeys : List Str :=
  [lit "api_key", lit "apikey", lit "access_token", lit "refresh_token",
    lit "bws_access_token", lit "authorization", lit "proxy_authorization", lit "password",
    lit "passwd", lit "client_secret", lit "private_key", lit "secret", lit "secret_value",
    lit "credential", lit "credentials", lit "bearer", lit "bearer_token"]

/-- `_normalized_key`. -/
def normalizedKey (rt : Runtime) (key : Str) : Str :=
  (rt.lower (Str.strip key)).map fun c => if c = 45 ∨ c = 32 then 95 else c

mutual
/-- `_assert_no_credentials(value, path)`. -/
def assertNoCredentials (rt : Runtime) (path : Str) : Json → Except PyErr Unit
  | .arr items => assertNoCredentialsItems rt path 0 items
  | .obj fields => assertNoCredentialsFields rt path fields
  | .null => .ok ()
  | .bool _ => .ok ()
  | .int _ => .ok ()
  | .float _ => .ok ()
  | .str _ => .ok ()

def assertNoCredentialsItems (rt : Runtime) (path : Str) (index : ℕ) :
    List Json → Except PyErr Unit
  | [] => .ok ()
  | j :: js => do
    assertNoCredentials rt (path ++ lit "[" ++ Str.ofNat index ++ lit "]") j
    assertNoCredentialsItems rt path (index + 1) js

def assertNoCredentialsFields (rt : Runtime) (path : Str) :
    List (Str × Json) → Except PyErr Unit
  | [] => .ok ()
  | (k, j) :: fs => do
    let childPath := path ++ lit "." ++ k
    if normalizedKey rt k ∈ rawCredentialKeys then
      .error (.valueError (lit "raw credential field is forbidden at " ++ childPath))
    match j with
    | .str s =>
      if normalizedKey rt k = lit "endpoint" ∧ rt.endpointRejected s = true then
        .error (.valueError (lit "raw credentials are forbidden at " ++ childPath))
    | .null | .bool _ | .int _ | .float _ | .arr _ | .obj _ => pure ()
    assertNoCredentials rt childPath j
    assertNoCredentialsFields rt path fs
end

end Json

namespace Dict

/-- `d.get(key)`, `none` when the key is absent. -/
def get? (d : Dict) (key : Str) : Option Json := d.lookup key

/-- `d.keys()`. -/
def keys (d : Dict) : List Str := d.map Prod.fst

/-- `d[key] = value`: in place, or at the end. -/
def set : Dict → Str → Json → Dict
  | [], key, value => [(key, value)]
  | (k, v) :: d, key, value => if k = key then (k, value) :: d else (k, v) :: set d key value

/-- `d.update(other)`. -/
def update (d other : Dict) : Dict := other.foldl (fun d f => set d f.1 f.2) d

/-- The dictionary read back from the store. -/
def canon (d : Dict) : Dict := Json.sortFields (Json.canonFields d)

/-- `_canonical_json(value)`, encoded for its digest or for its column: floats that are not
finite, integers of more than 4300 digits and unpaired surrogates are refused. -/
def encode (value : Dict) : Except PyErr Dict :=
  if Json.dumpableFields value = false then
    .error (Json.dumpError (.obj value))
  else if Json.encodableFields value = false then
    .error ⟨.unicodeEncodeError, lit "surrogates not allowed"⟩
  else .ok value.canon

/-- What a writer of a JSON column does: refuse credential fields, then encode. -/
def store (rt : Runtime) (path : Str) (value : Dict) : Except PyErr Dict := do
  Json.assertNoCredentials rt path (.obj value)
  value.encode

/-- The canonical form of an object is its fields' canonical forms, sorted by their keys. -/
theorem canon_obj (d : Dict) : Json.canon (.obj d) = .obj d.canon := rfl

end Dict

end CouncilLogic
