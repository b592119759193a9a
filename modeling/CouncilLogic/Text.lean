/-
# Text as the program sees it

A Python string is a sequence of code points, lone surrogates included: they come
out of `\ud800` escapes in JSON and cannot be encoded as UTF-8.  `Str` is that
sequence, `lit` turns a literal of this file's own text into one.

Everything of the interpreter and its standard library that is a table or a
generator rather than a definition is a field of `Runtime`; no theorem assumes
anything of these fields beyond what their types say.

`Url` is the record that `urllib.parse.urlparse` returns, as far as `src/model_council/config.py`
looks at it, and `PyErr` is an exception by its class and its message.  Sorting is Python's: by
code points, lexicographically.
-/

import CouncilLogic.Lib.Utf8
import Mathlib.Data.List.Infix
import Mathlib.Data.List.DropRight
import Mathlib.Data.List.Sort
import Mathlib.Data.Nat.Digits.Lemmas
import Mathlib.Logic.Equiv.Defs

namespace CouncilLogic

/-- `str`: a sequence of code points, surrogates allowed. -/
abbrev Str := List ℕ

/-- Membership among texts is decided by their equality. -/
instance : LawfulBEq Str := inferInstance

/-- A literal, read off its bytes. -/
def lit (s : String) : Str := Utf8.decode (Utf8.bytes s)

/-- A literal is the code points of its characters. -/
theorem lit_eq (s : String) : lit s = s.toList.map Char.toNat := Utf8.decode_bytes s

/-- A literal is as long as the string it stands for. -/
theorem length_lit (s : String) : (lit s).length = s.length := by
  rw [lit_eq, List.length_map, String.length_toList]

/-- Literals are equal only if they are written alike, so that field names can be compared by
their Lean strings. -/
@[simp] theorem lit_inj {a b : String} : lit a = lit b ↔ a = b := by
  constructor
  · intro h
    rw [lit_eq, lit_eq] at h
    have hi : Function.Injective Char.toNat := fun a b h => Char.toNat_inj.1 h
    exact String.toList_inj.1 (List.map_injective_iff.2 hi h)
  · rintro rfl
    rfl

/-- What the program takes from the interpreter as it finds it: `str.casefold`,
`str.lower`, the word characters of `re`, `sha256(…).hexdigest()`, the
permutation `random.Random(seed).shuffle` applies to `n` items, the nesting depth
at which the JSON decoder raises `RecursionError`, `repr(float(…))` of a number
token, whether the URL parser finds credentials in an endpoint, and the digest
`protocol_hash()` takes of the installed templates. -/
structure Runtime where
  casefold : Str → Str
  lower : Str → Str
  isWord : ℕ → Bool
  sha256 : Str → Str
  shuffle : Str → (n : ℕ) → Equiv.Perm (Fin n)
  recursionLimit : ℕ
  floatRepr : Str → Str
  endpointRejected : Str → Bool
  protocolHash : Str

/-! ### Exceptions -/

/-- The exception classes the modelled code raises. -/
inductive ErrKind
  | valueError
  | typeError
  | keyError
  | runtimeError
  | recursionError
  | unicodeEncodeError
  | assertionError
  | attributeError
  | overflowError
  | interfaceError
  | integrityError
  deriving DecidableEq, Repr

/-- A raised exception, with `str(exc)`. -/
structure PyErr where
  kind : ErrKind
  message : Str
  deriving DecidableEq, Repr

namespace PyErr

def valueError (message : Str) : PyErr := ⟨.valueError, message⟩
def typeError (message : Str) : PyErr := ⟨.typeError, message⟩
def runtimeError (message : Str) : PyErr := ⟨.runtimeError, message⟩

/-- `except (TypeError, ValueError)` catches it; `UnicodeEncodeError` is a
`ValueError`, `RecursionError` is neither. -/
def isValueOrType (e : PyErr) : Bool :=
  match e.kind with
  | .valueError | .typeError | .unicodeEncodeError => true
  | .keyError | .runtimeError | .recursionError | .assertionError | .attributeError
  | .overflowError | .interfaceError | .integrityError => false

end PyErr

/-! ### URLs -/

/-- What `urlparse` returns, as far as it is read. -/
structure Url where
  scheme : Str
  hostname : Option Str
  /-- `port` raises where the text is no port. -/
  port : Except PyErr (Option ℕ)
  username : Option Str
  password : Option Str
  query : Str
  fragment : Str

/-- `username or password`. -/
def Url.credentials (u : Url) : Bool :=
  decide (u.username.getD [] ≠ [] ∨ u.password.getD [] ≠ [])

/-! ### Strings -/

namespace Str

/-- `str.isspace` of one code point. -/
def isSpace (c : ℕ) : Bool :=
  (9 ≤ c && c ≤ 13) || (28 ≤ c && c ≤ 32) || c == 0x85 || c == 0xA0 || c == 0x1680 ||
    (0x2000 ≤ c && c ≤ 0x200A) || c == 0x2028 || c == 0x2029 || c == 0x202F || c == 0x205F ||
    c == 0x3000

/-- `str.lstrip()`. -/
def lstrip (s : Str) : Str := s.dropWhile isSpace

/-- `str.strip()`. -/
def strip (s : Str) : Str := (lstrip s).rdropWhile isSpace

/-- `not s.strip()`: empty or all white space. -/
def isBlank (s : Str) : Bool := s.all isSpace

/-- `s.encode("utf-8")` succeeds: there is no surrogate in `s`. -/
def encodable (s : Str) : Bool := s.all fun c => !(0xD800 ≤ c && c ≤ 0xDFFF)

/-- `sub in s`. -/
def contains (sub s : Str) : Bool := decide (sub <:+: s)

/-- `sep.join(parts)`. -/
def join (sep : Str) (parts : List Str) : Str := sep.intercalate parts

/-- `str(n)` of a natural number. -/
def ofNat (n : ℕ) : Str :=
  if n = 0 then [48] else (Nat.digits 10 n).reverse.map (· + 48)

/-- `str(n)` of an integer. -/
def ofInt : ℤ → Str
  | .ofNat n => ofNat n
  | .negSucc n => 45 :: ofNat (n + 1)

/-- `f"{n:02d}"`. -/
def ofNat02 (n : ℕ) : Str := if n < 10 then 48 :: ofNat n else ofNat n

/-- `a <= b` of strings, by code point. -/
def le : Str → Str → Bool
  | [], _ => true
  | _ :: _, [] => false
  | a :: s, b :: t => if a = b then le s t else decide (a < b)

/-- `sorted(…)` of strings. -/
def sorted (l : List Str) : List Str := l.insertionSort fun a b => le a b = true

/-! ### Stripping -/

/-- A text is blank when stripping leaves nothing of it: the test `not value.strip()`. -/
theorem isBlank_iff {s : Str} : isBlank s = true ↔ strip s = [] := by
  unfold isBlank strip lstrip
  rw [List.rdropWhile_eq_nil_iff, List.all_eq_true]
  constructor
  · intro h x hx
    exact h x ((List.dropWhile_sublist _).subset hx)
  · intro h x hx
    by_contra hn
    have hne : s.dropWhile isSpace ≠ [] := by
      intro he
      exact hn (List.dropWhile_eq_nil_iff.1 he x hx)
    have hhead := List.head_dropWhile_not isSpace hne
    rw [h _ (List.head_mem hne)] at hhead
    exact absurd hhead (by simp)

/-- Stripping only takes characters away. -/
theorem strip_sublist (s : Str) : (strip s).Sublist s :=
  ((List.rdropWhile_prefix _ _).sublist).trans (List.dropWhile_sublist _)

/-- Stripping twice is stripping once. -/
@[simp] theorem strip_strip (s : Str) : strip (strip s) = strip s := by
  unfold strip lstrip
  set t := s.dropWhile isSpace with ht
  have hl : (t.rdropWhile isSpace).dropWhile isSpace = t.rdropWhile isSpace := by
    rw [List.dropWhile_eq_self_iff]
    intro hpos
    have hpre := List.rdropWhile_prefix isSpace t
    have hne : t ≠ [] := by
      intro he
      simp [he] at hpos
    have hget : (t.rdropWhile isSpace)[0] = t.head hne := by
      rw [hpre.getElem hpos, List.head_eq_getElem]
    have hhead := List.head_dropWhile_not isSpace (l := s) hne
    rw [hget]
    simpa using hhead
  rw [hl, List.rdropWhile_idempotent]

/-! ### Order and sorting -/

/-- Any two texts are comparable. -/
theorem le_total : ∀ s t : Str, le s t = true ∨ le t s = true
  | [], _ => .inl rfl
  | _ :: _, [] => .inr rfl
  | a :: s, b :: t => by
    unfold le
    rcases lt_trichotomy a b with h | rfl | h
    · simp [h, h.ne, h.ne']
    · simpa using le_total s t
    · simp [h, h.ne, h.ne']

/-- Texts that are no greater than each other are equal. -/
theorem le_antisymm : ∀ {s t : Str}, le s t = true → le t s = true → s = t
  | [], [], _, _ => rfl
  | [], _ :: _, _, h => by simp [le] at h
  | _ :: _, [], h, _ => by simp [le] at h
  | a :: s, b :: t, h, h' => by
    unfold le at h h'
    by_cases hab : a = b
    · subst hab
      simp only [if_true] at h h'
      rw [le_antisymm h h']
    · rw [if_neg hab, decide_eq_true_iff] at h
      rw [if_neg (Ne.symm hab), decide_eq_true_iff] at h'
      omega

/-- The order of texts is transitive, as sorting needs it. -/
theorem le_trans : ∀ {s t u : Str}, le s t = true → le t u = true → le s u = true
  | [], _, _, _, _ => rfl
  | _ :: _, [], _, h, _ => by simp [le] at h
  | _ :: _, _ :: _, [], _, h => by simp [le] at h
  | a :: s, b :: t, c :: u, h, h' => by
    unfold le at h h' ⊢
    by_cases hab : a = b
    · by_cases hbc : b = c
      · rw [if_pos hab] at h
        rw [if_pos hbc] at h'
        rw [if_pos (hab.trans hbc)]
        exact le_trans h h'
      · rw [if_neg hbc] at h'
        rwa [if_neg (fun hac => hbc (hab.symm.trans hac)), hab]
    · rw [if_neg hab, decide_eq_true_iff] at h
      have hbc : b ≤ c := by
        by_cases hbc : b = c
        · exact hbc.le
        · rw [if_neg hbc, decide_eq_true_iff] at h'
          exact h'.le
      rw [if_neg (by omega), decide_eq_true_iff]
      omega

instance : Std.Antisymm (fun a b : Str => le a b = true) := ⟨fun _ _ => le_antisymm⟩
instance : Std.Total (fun a b : Str => le a b = true) := ⟨le_total⟩
instance : IsTrans Str (fun a b => le a b = true) := ⟨fun _ _ _ => le_trans⟩

/-- Sorting rearranges: nothing is lost and nothing is added. -/
theorem sorted_perm (l : List Str) : (sorted l).Perm l := List.perm_insertionSort _ l

/-- What is in a sorted list was in the list. -/
@[simp] theorem mem_sorted {l : List Str} {s : Str} : s ∈ sorted l ↔ s ∈ l :=
  (sorted_perm l).mem_iff

/-- Sorting keeps the length. -/
@[simp] theorem length_sorted (l : List Str) : (sorted l).length = l.length :=
  (sorted_perm l).length_eq

/-- Sorting forgets the order of its input. -/
theorem sorted_eq_of_perm {l l' : List Str} (h : l.Perm l') : sorted l = sorted l' := by
  refine List.Perm.eq_of_pairwise' (r := fun a b => le a b = true) ?_ ?_ ?_
  · exact List.pairwise_insertionSort _ _
  · exact List.pairwise_insertionSort _ _
  · exact ((sorted_perm l).trans h).trans (sorted_perm l').symm

end Str

/-! ### Encodable texts -/

/-- A literal of the program can be encoded as UTF-8, since Lean's strings hold no surrogates. -/
theorem encodable_lit (s : String) : Str.encodable (lit s) = true := by
  unfold Str.encodable
  rw [lit_eq]
  rw [List.all_eq_true]
  intro c hc
  obtain ⟨a, -, rfl⟩ := List.mem_map.1 hc
  have hvalid : a.toNat < 0xD800 ∨ 0xDFFF < a.toNat ∧ a.toNat < 0x110000 := a.valid
  simp only [Bool.not_eq_true', Bool.and_eq_false_iff, decide_eq_false_iff_not]
  omega

/-- A text can be encoded exactly when its parts can. -/
theorem encodable_append (s t : Str) :
    Str.encodable (s ++ t) = (Str.encodable s && Str.encodable t) := List.all_append

/-- A printed number can be encoded. -/
theorem encodable_ofNat (n : ℕ) : Str.encodable (Str.ofNat n) = true := by
  unfold Str.encodable Str.ofNat
  rw [List.all_eq_true]
  intro c hc
  have hdigit : c < 58 := by
    split at hc
    · rw [List.mem_singleton] at hc
      omega
    · obtain ⟨d, hd, rfl⟩ := List.mem_map.1 hc
      have := Nat.digits_lt_base (by omega : 1 < 10) (List.mem_reverse.1 hd)
      omega
  simp only [Bool.not_eq_true', Bool.and_eq_false_iff, decide_eq_false_iff_not]
  omega

end CouncilLogic
