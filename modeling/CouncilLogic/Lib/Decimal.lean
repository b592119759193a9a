/-
# Decimal numbers and a context of finite precision

A finite non-negative decimal number is a coefficient and a power of ten.  Comparisons are
exact; a sum is taken exactly and then rounded, half to even, to the precision of a
context, and a sum beyond its largest exponent is an overflow.  A sum that can be written
with the digits of the context is not changed by the rounding (`Context.round_exact`), so a
list of numbers whose partial sums can all be written is added up exactly
(`Context.sum_exact`).

It follows the documented behaviour of `decimal.Decimal` for finite non-negative numbers, the only
ones `src/model_council/access_policy.py` lets into its ledger, and knows nothing of budgets.
Values are compared as rational numbers, so that every law about order is a law of `ℚ`; the
coefficient and the exponent are kept apart only because the rounding of a context depends on how
many digits a number is written with.
-/

import Mathlib.Data.Nat.Digits.Lemmas
import Mathlib.Data.Rat.Lemmas
import Mathlib.Algebra.Order.Field.Power
import Mathlib.Tactic.Positivity
import Mathlib.Tactic.FieldSimp
import Mathlib.Tactic.Linarith

/-- `coefficient * 10 ^ exponent`. -/
structure Decimal where
  coefficient : ℕ
  exponent : ℤ
  deriving DecidableEq

namespace Decimal

/-- The number that is written. -/
def value (a : Decimal) : ℚ := a.coefficient * (10 : ℚ) ^ a.exponent

/-- Zero. -/
def zero : Decimal := ⟨0, 0⟩

/-- A whole number. -/
def ofNat (n : ℕ) : Decimal := ⟨n, 0⟩

/-- A decimal of this library has no sign: its value is never negative. -/
@[simp] theorem value_zero : zero.value = 0 := by simp [zero, value]

theorem value_nonneg (a : Decimal) : 0 ≤ a.value := by
  unfold value
  positivity

/-- A number is worth nothing exactly when its coefficient is zero. -/
theorem value_eq_zero {a : Decimal} : a.value = 0 ↔ a.coefficient = 0 := by
  have hpos : (0 : ℚ) < 10 ^ a.exponent := by positivity
  unfold value
  rw [mul_eq_zero, or_iff_left hpos.ne', Nat.cast_eq_zero]

/-- The coefficient over a smaller power of ten. -/
def scaled (a : Decimal) (exponent : ℤ) : ℕ := a.coefficient * 10 ^ (a.exponent - exponent).toNat

/-- Written with a smaller exponent a number keeps its value: the coefficient grows by as many
zeros. -/
theorem value_eq_scaled {a : Decimal} {exponent : ℤ} (h : exponent ≤ a.exponent) :
    a.value = a.scaled exponent * (10 : ℚ) ^ exponent := by
  have hexp : a.exponent = ((a.exponent - exponent).toNat : ℤ) + exponent := by omega
  unfold value scaled
  conv_lhs => rw [hexp]
  rw [zpow_add₀ (by norm_num : (10 : ℚ) ≠ 0), zpow_natCast]
  push_cast
  ring

/-- The smaller one of two exponents. -/
def commonExponent (a b : Decimal) : ℤ := min a.exponent b.exponent

/-- The common exponent of two numbers is no greater than that of the first. -/
theorem commonExponent_le_left (a b : Decimal) : commonExponent a b ≤ a.exponent :=
  min_le_left _ _

/-- The common exponent of two numbers is no greater than that of the second. -/
theorem commonExponent_le_right (a b : Decimal) : commonExponent a b ≤ b.exponent :=
  min_le_right _ _

/-- `a <= b`, exactly. -/
def le (a b : Decimal) : Bool :=
  decide (a.scaled (commonExponent a b) ≤ b.scaled (commonExponent a b))

/-- `a < b`, exactly. -/
def lt (a b : Decimal) : Bool := !le b a

/-- `a == b`, exactly. -/
def same (a b : Decimal) : Bool := le a b && le b a

/-- **The comparison is exact**: it compares the coefficients at a common exponent, and that is
the order of the values. -/
theorem le_iff {a b : Decimal} : le a b = true ↔ a.value ≤ b.value := by
  have ha := value_eq_scaled (commonExponent_le_left a b)
  have hb := value_eq_scaled (commonExponent_le_right a b)
  have hpos : (0 : ℚ) < 10 ^ commonExponent a b := by positivity
  unfold le
  rw [decide_eq_true_iff, ha, hb, mul_le_mul_iff_of_pos_right hpos, Nat.cast_le]

/-- The strict comparison is exact as well, being the negation of the other one. -/
theorem lt_iff {a b : Decimal} : lt a b = true ↔ a.value < b.value := by
  unfold lt
  rw [Bool.not_eq_true', ← not_le, ← le_iff, Bool.not_eq_true]

/-- The exact sum. -/
def exactAdd (a b : Decimal) : Decimal :=
  ⟨a.scaled (commonExponent a b) + b.scaled (commonExponent a b), commonExponent a b⟩

/-- The exact sum is worth what both numbers are worth together; rounding comes afterwards. -/
theorem value_exactAdd (a b : Decimal) : (exactAdd a b).value = a.value + b.value := by
  rw [value_eq_scaled (commonExponent_le_left a b),
    value_eq_scaled (commonExponent_le_right a b)]
  unfold exactAdd value
  push_cast
  ring

/-- The number of digits of a coefficient. -/
def digits (n : ℕ) : ℕ := (Nat.digits 10 n).length

/-- A factor of `10 ^ k` adds `k` digits to a number that is not zero. -/
theorem digits_mul_pow {n : ℕ} (hn : n ≠ 0) (k : ℕ) : digits (n * 10 ^ k) = digits n + k := by
  unfold digits
  rw [mul_comm, Nat.digits_base_pow_mul (by norm_num) (Nat.pos_of_ne_zero hn), List.length_append,
    List.length_replicate, Nat.add_comm]

/-- A number below `10 ^ k` is written with at most `k` digits. -/
theorem digits_le {n k : ℕ} (h : n < 10 ^ k) : digits n ≤ k :=
  (Nat.digits_length_le_iff (by norm_num) n).2 h

/-- Two ways to write one number have the same leading position. -/
theorem digits_add_exponent {a b : Decimal} (h : a.value = b.value) (ha : a.coefficient ≠ 0) :
    (digits a.coefficient : ℤ) + a.exponent = digits b.coefficient + b.exponent := by
  have hb : b.coefficient ≠ 0 := fun hb => ha (value_eq_zero.1 (h.trans (value_eq_zero.2 hb)))
  have hscaled : a.scaled (commonExponent a b) = b.scaled (commonExponent a b) := by
    have hpos : ((10 : ℚ) ^ commonExponent a b) ≠ 0 := by positivity
    rw [value_eq_scaled (commonExponent_le_left a b),
      value_eq_scaled (commonExponent_le_right a b)] at h
    exact_mod_cast mul_right_cancel₀ hpos h
  have hdigits := congrArg digits hscaled
  unfold scaled at hdigits
  rw [digits_mul_pow ha, digits_mul_pow hb] at hdigits
  have hle := commonExponent_le_left a b
  have hle' := commonExponent_le_right a b
  omega

/-! ### Contexts -/

/-- The precision and the exponents of a context. -/
structure Context where
  prec : ℕ
  emax : ℤ
  emin : ℤ
  prec_pos : 1 ≤ prec

namespace Context

variable {c : Context}

/-- The smallest exponent. -/
def etiny (c : Context) : ℤ := c.emin - c.prec + 1

/-- The largest exponent of a coefficient with all digits. -/
def etop (c : Context) : ℤ := c.emax - c.prec + 1

/-- `coefficient / 10 ^ shift`, rounded half to even. -/
def halfEven (coefficient shift : ℕ) : ℕ :=
  let q := coefficient / 10 ^ shift
  let r := coefficient % 10 ^ shift
  if 10 ^ shift < 2 * r ∨ (2 * r = 10 ^ shift ∧ q % 2 = 1) then q + 1 else q

/-- The exponent a coefficient is rounded to. -/
def target (c : Context) (a : Decimal) : ℤ :=
  max ((digits a.coefficient : ℤ) + a.exponent - c.prec) c.etiny

/-- A number with a coefficient of at most one digit too many, `none` for an overflow. -/
def carry (c : Context) (q : ℕ) (exponent : ℤ) : Option Decimal :=
  let b : Decimal := if c.prec < digits q then ⟨q / 10, exponent + 1⟩ else ⟨q, exponent⟩
  if c.etop < b.exponent then none else some b

/-- A number rounded to the context, `none` for an overflow. -/
def round (c : Context) (a : Decimal) : Option Decimal :=
  if a.coefficient = 0 then some ⟨0, max c.etiny (min a.exponent c.emax)⟩
  else if c.etop < (digits a.coefficient : ℤ) + a.exponent - c.prec then none
  else if a.exponent < c.target a then
    c.carry (halfEven a.coefficient (c.target a - a.exponent).toNat) (c.target a)
  else some a

/-- `a + b`. -/
def add (c : Context) (a b : Decimal) : Option Decimal := c.round (exactAdd a b)

/-- The number can be written with the digits and the exponents of the context. -/
def Writes (c : Context) (q : ℚ) : Prop :=
  ∃ b : Decimal, b.value = q ∧ b.coefficient < 10 ^ c.prec ∧ c.etiny ≤ b.exponent ∧
    b.exponent ≤ c.etop

/-- Nothing is rounded where only zeros are cut off: rounding half to even leaves the coefficient
as it is. -/
theorem halfEven_exact (n k : ℕ) : halfEven (n * 10 ^ k) k = n := by
  have hpos : 0 < 10 ^ k := by positivity
  unfold halfEven
  rw [Nat.mul_div_cancel _ hpos, Nat.mul_mod_left, if_neg]
  rintro (h | ⟨h, -⟩) <;> omega

/-- **Rounding changes nothing that can be written.** -/
theorem round_exact {a : Decimal} (h : c.Writes a.value) :
    ∃ b, c.round a = some b ∧ b.value = a.value := by
  obtain ⟨b, hvalue, hlt, htiny, htop⟩ := h
  unfold round
  by_cases hzero : a.coefficient = 0
  · rw [if_pos hzero]
    exact ⟨_, rfl, by rw [value_eq_zero.2 rfl, value_eq_zero.2 hzero]⟩
  have hlead := digits_add_exponent hvalue.symm hzero
  have hdigits := digits_le hlt
  have hle : c.target a ≤ b.exponent := max_le (by omega) htiny
  rw [if_neg hzero, if_neg (by omega)]
  by_cases hexp : a.exponent < c.target a
  · -- all digits that are dropped are zeros
    obtain ⟨k, hk⟩ := Int.eq_ofNat_of_zero_le (sub_nonneg.2 hexp.le)
    have hscaled : a.coefficient = b.scaled a.exponent := by
      have hpos : ((10 : ℚ) ^ a.exponent) ≠ 0 := by positivity
      rw [value_eq_scaled (show a.exponent ≤ b.exponent by omega)] at hvalue
      exact_mod_cast (mul_right_cancel₀ hpos hvalue).symm
    have hsplit : a.coefficient = b.scaled (c.target a) * 10 ^ k := by
      have hsum : (b.exponent - a.exponent).toNat = (b.exponent - c.target a).toNat + k := by omega
      rw [hscaled, scaled, scaled, hsum, pow_add, mul_assoc]
    have hq : halfEven a.coefficient (c.target a - a.exponent).toNat = b.scaled (c.target a) := by
      rw [hk, hsplit]
      exact halfEven_exact _ _
    have hb : b.coefficient ≠ 0 := fun hb =>
      hzero (value_eq_zero.1 (hvalue ▸ value_eq_zero.2 hb))
    have hcarry : ¬ c.prec < digits (b.scaled (c.target a)) := by
      have htarget : (digits a.coefficient : ℤ) + a.exponent - c.prec ≤ c.target a :=
        le_max_left _ _
      unfold scaled
      rw [digits_mul_pow hb]
      omega
    rw [if_pos hexp, hq]
    unfold carry
    rw [if_neg hcarry]
    dsimp only
    rw [if_neg (by omega)]
    exact ⟨_, rfl, by rw [← hvalue, value_eq_scaled hle]; rfl⟩
  · rw [if_neg hexp]
    exact ⟨a, rfl, rfl⟩

/-- **A sum that can be written is exact.** -/
theorem add_exact {a b : Decimal} (h : c.Writes (a.value + b.value)) :
    ∃ s, c.add a b = some s ∧ s.value = a.value + b.value := by
  rw [← value_exactAdd] at h ⊢
  exact round_exact h

/-- The numbers of a list added up one after the other. -/
def sum (c : Context) : Decimal → List Decimal → Option Decimal
  | s, [] => some s
  | s, a :: l => (c.add s a).bind fun s' => c.sum s' l

/-- All partial sums of a list can be written. -/
def WritesSums (c : Context) : ℚ → List Decimal → Prop
  | _, [] => True
  | q, a :: l => c.Writes (q + a.value) ∧ c.WritesSums (q + a.value) l

/-- **A list whose partial sums can be written is added up exactly.** -/
theorem sum_exact {l : List Decimal} : ∀ {s : Decimal}, c.WritesSums s.value l →
    ∃ t, c.sum s l = some t ∧ t.value = s.value + (l.map value).sum := by
  induction l with
  | nil => exact fun {s} _ => ⟨s, rfl, by simp⟩
  | cons a l ih =>
    intro s h
    obtain ⟨s', hs', hvalue⟩ := add_exact h.1
    have hrest := h.2
    rw [← hvalue] at hrest
    obtain ⟨t, ht, htvalue⟩ := ih hrest
    refine ⟨t, ?_, ?_⟩
    · unfold sum
      rw [hs']
      exact ht
    · rw [htvalue, hvalue, List.map_cons, List.sum_cons, add_assoc]

end Context
end Decimal
