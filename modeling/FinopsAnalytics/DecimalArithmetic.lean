import Mathlib.Algebra.Order.BigOperators.Group.List
import Mathlib.Data.Int.Log
import Mathlib.Data.Rat.Floor
import Mathlib.Tactic.NormNum

/-!
# Decimal arithmetic of limited precision

The result of an operation is the exact one rounded to 28 significant digits,
ties going to the even digit. Where the exact result has no more digits it is the
result.
-/

namespace FinopsAnalytics.DecimalArithmetic

/-- The nearest integer; halfway it is the even one. -/
def roundHalfEven (value : ℚ) : ℤ :=
  let low := ⌊value⌋
  if value - low < 1 / 2 then low
  else if 1 / 2 < value - low then low + 1
  else if low % 2 = 0 then low else low + 1

/-- The position of the last of 28 significant digits. -/
def lastPosition (value : ℚ) : ℤ := Int.log 10 |value| - 27

/-- A value rounded to 28 significant digits. -/
def rounded (value : ℚ) : ℚ :=
  if value = 0 then 0
  else roundHalfEven (value / 10 ^ lastPosition value) * 10 ^ lastPosition value

/-- An integer is its own nearest integer. -/
theorem roundHalfEven_intCast (number : ℤ) : roundHalfEven number = number := by
  simp [roundHalfEven]

/-- A value of at most 28 digits is not changed. -/
theorem rounded_of_digits {digits position : ℤ} (few : |digits| < 10 ^ 28) :
    rounded (digits * 10 ^ position) = digits * 10 ^ position := by
  by_cases zero : (digits : ℚ) * 10 ^ position = 0
  · rw [rounded, if_pos zero, zero]
  rw [rounded, if_neg zero]
  have ten : (0 : ℚ) < 10 := by norm_num
  have last : lastPosition (digits * 10 ^ position) ≤ position := by
    have below : |(digits : ℚ) * 10 ^ position| < ((10 : ℕ) : ℚ) ^ (28 + position) := by
      have bound : |(digits : ℚ)| < 10 ^ 28 := by exact_mod_cast few
      have power : |(10 : ℚ) ^ position| = 10 ^ position := abs_of_pos (zpow_pos ten position)
      rw [abs_mul, power, Nat.cast_ofNat, zpow_add₀ ten.ne']
      exact mul_lt_mul_of_pos_right bound (zpow_pos ten position)
    have exponent := (Int.lt_zpow_iff_log_lt (by norm_num) (abs_pos.mpr zero)).mp below
    unfold lastPosition
    omega
  obtain ⟨shift, split⟩ := Int.eq_ofNat_of_zero_le (sub_nonneg.mpr last)
  have scaled : (digits : ℚ) * 10 ^ position / 10 ^ lastPosition (digits * 10 ^ position) =
      ((digits * 10 ^ shift : ℤ) : ℚ) := by
    rw [mul_div_assoc, ← zpow_sub₀ ten.ne', split]
    push_cast
    rfl
  rw [scaled, roundHalfEven_intCast, ← scaled, div_mul_cancel₀]
  exact (zpow_pos ten _).ne'

/-- `a + b` -/
def add (left right : ℚ) : ℚ := rounded (left + right)

/-- `a - b` -/
def sub (left right : ℚ) : ℚ := rounded (left - right)

/-- `a * b` -/
def mul (left right : ℚ) : ℚ := rounded (left * right)

/-- `a / b`, of a divisor that is not zero. -/
def div (left right : ℚ) : ℚ := rounded (left / right)

/-- Amounts that have a common last position and together have no more digits than a
result: their sums are not rounded, in whatever order they are added. -/
def SumsExactly (amounts : List ℚ) : Prop :=
  ∃ position : ℤ, (∀ amount ∈ amounts, ∃ digits : ℤ, amount = digits * 10 ^ position) ∧
    (amounts.map abs).sum < 10 ^ (28 + position)

theorem SumsExactly.sublist {amounts chosen : List ℚ} (exact : SumsExactly amounts)
    (among : chosen.Sublist amounts) : SumsExactly chosen := by
  obtain ⟨position, digits, few⟩ := exact
  refine ⟨position, fun amount member => digits amount (among.subset member), ?_⟩
  have bounded : (chosen.map abs).sum ≤ (amounts.map abs).sum := by
    refine (among.map abs).sum_le_sum fun term member => ?_
    obtain ⟨amount, -, rfl⟩ := List.mem_map.mp member
    exact abs_nonneg amount
  exact bounded.trans_lt few

/-- Adding such amounts to one of the same position rounds nothing. -/
theorem foldl_add {position : ℤ} (amounts : List ℚ)
    (digits : ∀ amount ∈ amounts, ∃ digits : ℤ, amount = digits * 10 ^ position) (begun : ℤ)
    (few : |(begun : ℚ) * 10 ^ position| + (amounts.map abs).sum < 10 ^ (28 + position)) :
    amounts.foldl add (begun * 10 ^ position) = begun * 10 ^ position + amounts.sum := by
  induction amounts generalizing begun with
  | nil => simp
  | cons amount rest inductionHypothesis =>
    obtain ⟨number, rfl⟩ := digits amount (List.mem_cons_self ..)
    have ten : (0 : ℚ) < 10 ^ position := zpow_pos (by norm_num) position
    have joined : (begun : ℚ) * 10 ^ position + number * 10 ^ position =
        ((begun + number : ℤ) : ℚ) * 10 ^ position := by
      push_cast
      ring
    rw [List.map_cons, List.sum_cons, ← add_assoc] at few
    have fewer : |((begun + number : ℤ) : ℚ) * 10 ^ position| + (rest.map abs).sum <
        10 ^ (28 + position) := by
      rw [← joined]
      exact (add_le_add_left (abs_add_le _ _) _).trans_lt few
    have short : |begun + number| < 10 ^ 28 := by
      have nonneg : 0 ≤ (rest.map abs).sum := List.sum_nonneg fun term member => by
        obtain ⟨amount, -, rfl⟩ := List.mem_map.mp member
        exact abs_nonneg amount
      have below := (le_add_of_nonneg_right nonneg).trans_lt fewer
      rw [abs_mul, abs_of_pos ten, zpow_add₀ (by norm_num)] at below
      have bound : |((begun + number : ℤ) : ℚ)| < 10 ^ (28 : ℤ) := lt_of_mul_lt_mul_right below ten.le
      exact_mod_cast bound
    have exact : add (begun * 10 ^ position) (number * 10 ^ position) =
        ((begun + number : ℤ) : ℚ) * 10 ^ position := by
      rw [add, joined, rounded_of_digits short]
    rw [List.foldl_cons, exact,
      inductionHypothesis (fun other member => digits other (List.mem_cons_of_mem _ member)) _ fewer,
      List.sum_cons, ← joined, add_assoc]

/-- Amounts that sum exactly add up to their sum. -/
theorem SumsExactly.foldl_eq_sum {amounts : List ℚ} (exact : SumsExactly amounts) :
    amounts.foldl add 0 = amounts.sum := by
  obtain ⟨position, digits, few⟩ := exact
  have added := foldl_add amounts digits 0 (by simpa using few)
  simpa using added

example : div 1 3 = 3333333333333333333333333333 / 10 ^ 28 := by decide +kernel

end FinopsAnalytics.DecimalArithmetic
