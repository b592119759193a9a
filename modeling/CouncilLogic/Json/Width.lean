/-
# How long a printed value is

`json.dumps(value, indent=2)` puts every item of a list and every field of a dictionary
on a line of its own.  So its length is a sum over the items, and a character that is
in none of the value's strings and numbers, and is no punctuation, is nowhere in it.

The planner of `src/model_council/workload.py` computes the characters of prompts that do not
exist yet, and `src/model_council/protocol.py` refuses a payload that contains the run's marker.
Both ask the same of the printer of payloads: how many characters it writes, and which.  `width`
gives the number as a function of the value, without the text, and `avoids` the second.
-/

import CouncilLogic.Json.Laws

namespace CouncilLogic

/-- The length of a printed string. -/
def Str.width (s : Str) : ℕ := (s.map fun c => (Json.escape c).length).sum + 2

namespace Json

/-- A printed string is as long as its characters, escapes counted, and the two quotes. -/
theorem length_dumpsStr (s : Str) : (dumpsStr s).length = Str.width s := by
  simp [dumpsStr, Str.width, List.length_flatMap]

mutual
/-- The length of a value printed at nesting depth `level`. -/
def width (level : ℕ) : Json → ℕ
  | .arr [] => 2
  | .arr (j :: js) => itemsWidth (level + 1) (j :: js) + 2 * level + 2
  | .obj [] => 2
  | .obj (f :: fs) => fieldsWidth (level + 1) (f :: fs) + 2 * level + 2
  | .null => 4
  | .bool true => 4
  | .bool false => 5
  | .int n => (Str.ofInt n).length
  | .float t => t.length
  | .str s => Str.width s

/-- The length of the lines of a list. -/
def itemsWidth (level : ℕ) : List Json → ℕ
  | [] => 0
  | j :: js => 2 * level + 2 + width level j + itemsWidth level js

/-- The length of the lines of a dictionary. -/
def fieldsWidth (level : ℕ) : List (Str × Json) → ℕ
  | [] => 0
  | (k, j) :: fs => 2 * level + 4 + Str.width k + width level j + fieldsWidth level fs
end

/-- A line break and its indentation. -/
theorem length_newline (level : ℕ) : (newline level).length = 2 * level + 1 := by
  simp [newline]

mutual
/-- **The length of a printed value.** -/
theorem length_dumpsIndent (level : ℕ) : ∀ j : Json, (dumpsIndent level j).length = width level j
  | .arr [] => rfl
  | .arr (j :: js) => by
    have hhead := length_dumpsIndent (level + 1) j
    have htail := length_dumpsIndentItems (level + 1) js
    simp only [dumpsIndent, width, itemsWidth, List.length_append, length_newline, hhead, htail,
      length_lit]
    show 1 + _ + _ + _ + _ + 1 = _
    omega
  | .obj [] => rfl
  | .obj ((k, j) :: fs) => by
    have hhead := length_dumpsIndent (level + 1) j
    have htail := length_dumpsIndentFields (level + 1) fs
    simp only [dumpsIndent, width, fieldsWidth, List.length_append, length_newline, hhead, htail,
      length_dumpsStr, length_lit]
    show 1 + _ + _ + 2 + _ + _ + _ + 1 = _
    omega
  | .null => rfl
  | .bool true => rfl
  | .bool false => rfl
  | .int n => rfl
  | .float t => rfl
  | .str s => length_dumpsStr s

/-- The printed items of a list are as long as their widths say. -/
theorem length_dumpsIndentItems (level : ℕ) :
    ∀ js : List Json, (dumpsIndentItems level js).length = itemsWidth level js
  | [] => rfl
  | j :: js => by
    have hhead := length_dumpsIndent level j
    have htail := length_dumpsIndentItems level js
    simp only [dumpsIndentItems, itemsWidth, List.length_append, length_newline, hhead, htail,
      length_lit]
    show 1 + _ + _ + _ = _
    omega

/-- The printed fields of an object are as long as their widths say. -/
theorem length_dumpsIndentFields (level : ℕ) :
    ∀ fs : List (Str × Json), (dumpsIndentFields level fs).length = fieldsWidth level fs
  | [] => rfl
  | (k, j) :: fs => by
    have hhead := length_dumpsIndent level j
    have htail := length_dumpsIndentFields level fs
    simp only [dumpsIndentFields, fieldsWidth, List.length_append, length_newline, hhead, htail,
      length_dumpsStr, length_lit]
    show 1 + _ + _ + 2 + _ + _ = _
    omega
end

/-! ### Characters -/

mutual
/-- No string and no number of the value shows the character. -/
def avoids (c : ℕ) : Json → Bool
  | .arr items => itemsAvoid c items
  | .obj fields => fieldsAvoid c fields
  | .null => decide (c ∉ dumpsAtom .null)
  | .bool b => decide (c ∉ dumpsAtom (.bool b))
  | .int n => decide (c ∉ dumpsAtom (.int n))
  | .float t => decide (c ∉ dumpsAtom (.float t))
  | .str s => decide (c ∉ dumpsAtom (.str s))

def itemsAvoid (c : ℕ) : List Json → Bool
  | [] => true
  | j :: js => avoids c j && itemsAvoid c js

def fieldsAvoid (c : ℕ) : List (Str × Json) → Bool
  | [] => true
  | (k, j) :: fs => decide (c ∉ dumpsStr k) && avoids c j && fieldsAvoid c fs
end

/-- The punctuation of a printed value. -/
def punctuation : Str := lit "[]\x7b\x7d,: \n"

section Avoids
variable {c : ℕ} (hc : c ∉ punctuation)
include hc

/-- A character that is neither a line break nor a blank is in no line break. -/
theorem notMem_newline (level : ℕ) : c ∉ newline level := by
  have h10 : c ≠ 10 := fun h => hc (h ▸ by decide)
  have h32 : c ≠ 32 := fun h => hc (h ▸ by decide)
  simp [newline, List.mem_replicate, h10, h32]

/-- A text of punctuation only. -/
theorem notMem_of_subset {s : Str} (hs : s ⊆ punctuation) : c ∉ s := fun h => hc (hs h)

mutual
/-- **A character that a value avoids is not in its text.** -/
theorem notMem_dumpsIndent (level : ℕ) : ∀ j : Json, avoids c j = true → c ∉ dumpsIndent level j
  | .arr [], _ => notMem_of_subset hc (show lit "[]" ⊆ punctuation by decide)
  | .arr (j :: js), h => by
    rw [avoids, itemsAvoid, Bool.and_eq_true] at h
    have hhead := notMem_dumpsIndent (level + 1) j h.1
    have htail := notMem_dumpsIndentItems (level + 1) js h.2
    have hopen : c ∉ lit "[" := notMem_of_subset hc (by decide)
    have hclose : c ∉ lit "]" := notMem_of_subset hc (by decide)
    simp only [dumpsIndent, List.mem_append, not_or]
    exact ⟨⟨⟨⟨⟨hopen, notMem_newline hc _⟩, hhead⟩, htail⟩, notMem_newline hc _⟩, hclose⟩
  | .obj [], _ => notMem_of_subset hc (show lit "\x7b\x7d" ⊆ punctuation by decide)
  | .obj ((k, j) :: fs), h => by
    rw [avoids, fieldsAvoid, Bool.and_eq_true, Bool.and_eq_true, decide_eq_true_eq] at h
    have hhead := notMem_dumpsIndent (level + 1) j h.1.2
    have htail := notMem_dumpsIndentFields (level + 1) fs h.2
    have hopen : c ∉ lit "\x7b" := notMem_of_subset hc (by decide)
    have hcolon : c ∉ lit ": " := notMem_of_subset hc (by decide)
    have hclose : c ∉ lit "\x7d" := notMem_of_subset hc (by decide)
    simp only [dumpsIndent, List.mem_append, not_or]
    exact ⟨⟨⟨⟨⟨⟨⟨hopen, notMem_newline hc _⟩, h.1.1⟩, hcolon⟩, hhead⟩, htail⟩,
      notMem_newline hc _⟩, hclose⟩
  | .null, h => of_decide_eq_true h
  | .bool b, h => of_decide_eq_true h
  | .int n, h => of_decide_eq_true h
  | .float t, h => of_decide_eq_true h
  | .str s, h => of_decide_eq_true h

/-- A character that the items avoid is not in their text. -/
theorem notMem_dumpsIndentItems (level : ℕ) :
    ∀ js : List Json, itemsAvoid c js = true → c ∉ dumpsIndentItems level js
  | [], _ => List.not_mem_nil
  | j :: js, h => by
    rw [itemsAvoid, Bool.and_eq_true] at h
    have hhead := notMem_dumpsIndent level j h.1
    have htail := notMem_dumpsIndentItems level js h.2
    have hcomma : c ∉ lit "," := notMem_of_subset hc (by decide)
    simp only [dumpsIndentItems, List.mem_append, not_or]
    exact ⟨⟨⟨hcomma, notMem_newline hc _⟩, hhead⟩, htail⟩

/-- A character that the fields avoid is not in their text. -/
theorem notMem_dumpsIndentFields (level : ℕ) :
    ∀ fs : List (Str × Json), fieldsAvoid c fs = true → c ∉ dumpsIndentFields level fs
  | [], _ => List.not_mem_nil
  | (k, j) :: fs, h => by
    rw [fieldsAvoid, Bool.and_eq_true, Bool.and_eq_true, decide_eq_true_eq] at h
    have hhead := notMem_dumpsIndent level j h.1.2
    have htail := notMem_dumpsIndentFields level fs h.2
    have hcomma : c ∉ lit "," := notMem_of_subset hc (by decide)
    have hcolon : c ∉ lit ": " := notMem_of_subset hc (by decide)
    simp only [dumpsIndentFields, List.mem_append, not_or]
    exact ⟨⟨⟨⟨⟨hcomma, notMem_newline hc _⟩, h.1.1⟩, hcolon⟩, hhead⟩, htail⟩
end

end Avoids

end Json
end CouncilLogic
