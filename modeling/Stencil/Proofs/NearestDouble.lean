/-
This file proves that a decimal is read as a double that no other is nearer to, and that an integer
of at most 53 bits is read as itself.

Rounding takes the nearest multiple of the grid's unit. A double whose exponent is not below the one
of the grid is a multiple of the unit too, and so is the power of two at which the grid begins,
which lies between the number and every double of a smaller exponent; so no double is nearer than
the one that is taken.
-/

import Mathlib.Tactic.Linarith
import Mathlib.Tactic.Ring
import Stencil.Proofs.Rounding

namespace Stencil

/-- A number by its sign and its absolute value. -/
def signed (negative : Bool) (magnitude : ℚ) : ℚ :=
  if negative then -magnitude else magnitude

theorem abs_signed (negative : Bool) (magnitude : ℚ) :
    |signed negative magnitude| = |magnitude| := by
  cases negative with
  | false => rfl
  | true => exact abs_neg magnitude

theorem abs_signed_sub (negative : Bool) (first second : ℚ) :
    |signed negative first - signed negative second| = |first - second| := by
  cases negative with
  | false => rfl
  | true => rw [signed, signed, if_pos rfl, if_pos rfl, neg_sub_neg, abs_sub_comm]

theorem abs_signed_sub_of_ne {negative other : Bool} (differs : other ≠ negative)
    (first second : ℚ) :
    |signed negative first - signed other second| = |first + second| := by
  cases negative <;> cases other <;> simp only [ne_eq, not_true_eq_false] at differs
  · exact congrArg _ (sub_neg_eq_add first second)
  · exact (congrArg _ (neg_add' first second).symm).trans (abs_neg _)

theorem Decimal.value_nonneg (decimal : Decimal) : 0 ≤ decimal.value :=
  mul_nonneg (Nat.cast_nonneg _) (zpow_nonneg (by norm_num) _)

namespace Double

/-- The number that a double stands for. -/
def value (double : Double) : ℚ :=
  signed double.negative double.magnitude

theorem magnitude_nonneg (double : Double) : 0 ≤ double.magnitude :=
  mul_nonneg (Nat.cast_nonneg _) (zpow_nonneg (by norm_num) _)

/-! ### The nearest multiple -/

/-- No natural number is nearer to a quotient than the rounded one. -/
theorem roundDiv_nearest (numerator : Nat) {denominator : Nat} (positive : 0 < denominator)
    (other : Nat) :
    |(numerator : ℚ) / denominator - roundDiv numerator denominator| ≤
      |(numerator : ℚ) / denominator - other| := by
  have unit : (0 : ℚ) < denominator := Nat.cast_pos.mpr positive
  obtain ⟨part, partEq⟩ : ∃ part : ℚ, part = (numerator % denominator : Nat) / denominator :=
    ⟨_, rfl⟩
  have quotient : (numerator : ℚ) / denominator = (numerator / denominator : Nat) + part := by
    rw [partEq, div_eq_iff unit.ne', add_mul, div_mul_cancel₀ _ unit.ne']
    exact_mod_cast (Nat.div_add_mod' numerator denominator).symm
  have low : 0 ≤ part := by rw [partEq]; positivity
  have high : part < 1 := by
    rw [partEq, div_lt_one unit]
    exact_mod_cast Nat.mod_lt _ positive
  have half : roundDiv numerator denominator = numerator / denominator ∧ part ≤ 1 / 2 ∨
      roundDiv numerator denominator = numerator / denominator + 1 ∧ 1 / 2 ≤ part := by
    rw [partEq, div_le_div_iff₀ unit two_pos, div_le_div_iff₀ two_pos unit]
    unfold roundDiv
    dsimp only
    split
    · refine .inl ⟨rfl, ?_⟩
      exact_mod_cast (by omega : numerator % denominator * 2 ≤ 1 * denominator)
    · refine .inr ⟨rfl, ?_⟩
      exact_mod_cast (by omega : 1 * denominator ≤ numerator % denominator * 2)
  -- the other number is not above the quotient, or it is at least the next one
  have beyond : part ≤ |(numerator : ℚ) / denominator - other| ∨
      1 - part ≤ |(numerator : ℚ) / denominator - other| := by
    rw [quotient]
    rcases Nat.lt_or_ge (numerator / denominator) other with above | below
    · have above : ((numerator / denominator : Nat) : ℚ) + 1 ≤ other := by exact_mod_cast above
      exact .inr (le_abs.mpr (.inr (by linarith)))
    · have below : (other : ℚ) ≤ (numerator / denominator : Nat) := by exact_mod_cast below
      exact .inl (le_abs.mpr (.inl (by linarith)))
  rcases half with ⟨rounded, near⟩ | ⟨rounded, near⟩
  · have error : |(numerator : ℚ) / denominator - roundDiv numerator denominator| = part := by
      rw [rounded, quotient, add_sub_cancel_left, abs_of_nonneg low]
    rw [error]
    rcases beyond with least | least <;> linarith
  · have error : |(numerator : ℚ) / denominator - roundDiv numerator denominator| = 1 - part := by
      rw [rounded, quotient, Nat.cast_add_one, add_sub_add_left_eq_sub, abs_sub_comm,
        abs_of_nonneg (by linarith)]
    rw [error]
    rcases beyond with least | least <;> linarith

theorem ofParts?_eq_some {negative : Bool} {mantissa : Nat} {exponent : Int} {double : Double}
    (made : ofParts? negative mantissa exponent = some double) :
    double.negative = negative ∧ double.magnitude = mantissa * 2 ^ exponent := by
  unfold ofParts? at made
  split at made
  · cases made
    exact ⟨rfl, rfl⟩
  · cases made

/-- What a ratio is rounded to, in units of a grid. -/
def gridMantissa (numerator denominator : Nat) (exponent : Int) : Nat :=
  if 0 ≤ exponent then roundDiv numerator (denominator * 2 ^ exponent.toNat)
  else roundDiv (numerator * 2 ^ (-exponent).toNat) denominator

theorem gridMantissa_nearest (numerator : Nat) {denominator : Nat} (positive : 0 < denominator)
    (exponent : Int) (multiple : Nat) :
    |(numerator : ℚ) / denominator - gridMantissa numerator denominator exponent * 2 ^ exponent| ≤
      |(numerator : ℚ) / denominator - multiple * 2 ^ exponent| := by
  have unit : (0 : ℚ) < 2 ^ exponent := zpow_pos (by norm_num) _
  obtain ⟨quotient, same⟩ : ∃ quotient : ℚ, quotient * 2 ^ exponent = numerator / denominator :=
    ⟨numerator / denominator / 2 ^ exponent, div_mul_cancel₀ _ unit.ne'⟩
  have nearest : |quotient - gridMantissa numerator denominator exponent| ≤
      |quotient - multiple| := by
    rw [eq_div_of_mul_eq unit.ne' same, gridMantissa]
    split
    case isTrue nonnegative =>
      have scaled : (numerator : ℚ) / denominator / 2 ^ exponent =
          numerator / (denominator * 2 ^ exponent.toNat : Nat) := by
        rw [div_div, Nat.cast_mul, Nat.cast_pow, ← zpow_natCast, Int.toNat_of_nonneg nonnegative]
        rfl
      rw [scaled]
      exact roundDiv_nearest numerator (by positivity) multiple
    case isFalse negative =>
      have scaled : (numerator : ℚ) / denominator / 2 ^ exponent =
          (numerator * 2 ^ (-exponent).toNat : Nat) / denominator := by
        rw [div_right_comm, Nat.cast_mul, Nat.cast_pow, ← zpow_natCast,
          Int.toNat_of_nonneg (by omega), zpow_neg, ← div_eq_mul_inv]
        rfl
      rw [scaled]
      exact roundDiv_nearest _ positive multiple
  rw [← same, ← sub_mul, ← sub_mul, abs_mul, abs_mul]
  exact mul_le_mul_of_nonneg_right nearest (abs_nonneg _)

theorem ofRatio?_eq_some {negative : Bool} {numerator denominator : Nat} {double : Double}
    (read : ofRatio? negative numerator denominator = some double) :
    double.negative = negative ∧
      double.magnitude = gridMantissa numerator denominator (gridExponent numerator denominator) *
        2 ^ gridExponent numerator denominator := by
  unfold ofRatio? at read
  dsimp only at read
  rw [← gridMantissa] at read
  split at read
  · rename_i carried
    obtain ⟨sign, magnitude⟩ := ofParts?_eq_some read
    refine ⟨sign, ?_⟩
    rw [magnitude, carried, zpow_add_one₀ two_ne_zero]
    push_cast
    ring
  · exact ofParts?_eq_some read

/-- The grid's unit is such that a ratio has 53 bits, unless it is the least unit there is. -/
theorem ratio_on_grid {numerator denominator : Nat} (some : 0 < numerator)
    (positive : 0 < denominator) :
    (numerator : ℚ) / denominator < (2 ^ 53 : Nat) * 2 ^ gridExponent numerator denominator ∧
      (gridExponent numerator denominator = -1074 ∨
        (2 ^ 52 : Nat) * 2 ^ gridExponent numerator denominator ≤
          (numerator : ℚ) / denominator) := by
  have quotientPositive : (0 : ℚ) < (numerator : ℚ) / denominator :=
    div_pos (Nat.cast_pos.mpr some) (Nat.cast_pos.mpr positive)
  have scaled (power : Nat) (exponent : Int) :
      ((2 ^ power : Nat) : ℚ) * 2 ^ exponent = (2 : Nat) ^ ((power : Int) + exponent) := by
    rw [Nat.cast_ofNat, zpow_add₀ two_ne_zero, zpow_natCast, Nat.cast_pow, Nat.cast_ofNat]
  have grid := gridExponent_eq some positive
  rw [scaled, scaled, Int.lt_zpow_iff_log_lt (by decide) quotientPositive,
    Int.zpow_le_iff_le_log (by decide) quotientPositive]
  omega

/-- A double is a multiple of the unit of a grid, or it is not above the power of two at which the
grid begins. -/
theorem magnitude_on_grid (double : Double) {numerator denominator : Nat} (some : 0 < numerator)
    (positive : 0 < denominator) :
    (∃ multiple : Nat, double.magnitude = multiple * 2 ^ gridExponent numerator denominator) ∨
      double.magnitude ≤ (2 ^ 52 : Nat) * 2 ^ gridExponent numerator denominator ∧
        (2 ^ 52 : Nat) * 2 ^ gridExponent numerator denominator ≤
          (numerator : ℚ) / denominator := by
  rcases Int.lt_or_le double.exponent (gridExponent numerator denominator) with finer | coarser
  case inr =>
    obtain ⟨places, same⟩ := Int.le.dest coarser
    refine .inl ⟨double.mantissa * 2 ^ places, ?_⟩
    rw [magnitude, ← same, zpow_add₀ two_ne_zero, zpow_natCast]
    push_cast
    ring
  have range := double.exponent_mem
  refine .inr ⟨?_, (ratio_on_grid some positive).2.resolve_left (by omega)⟩
  calc double.magnitude
      ≤ (2 ^ 53 : Nat) * 2 ^ double.exponent :=
        mul_le_mul_of_nonneg_right (Nat.cast_le.mpr double.mantissa_lt.le)
          (zpow_nonneg (by norm_num) _)
    _ = (2 ^ 52 : Nat) * 2 ^ (double.exponent + 1) := by
        rw [zpow_add_one₀ two_ne_zero]
        push_cast
        ring
    _ ≤ (2 ^ 52 : Nat) * 2 ^ gridExponent numerator denominator :=
        mul_le_mul_of_nonneg_left (zpow_le_zpow_right₀ (by norm_num) finer) (Nat.cast_nonneg _)

/-! ### The nearest double -/

theorem magnitude_nearest {negative : Bool} {numerator denominator : Nat} {double : Double}
    (some : 0 < numerator) (positive : 0 < denominator)
    (read : ofRatio? negative numerator denominator = Option.some double) (other : Double) :
    |(numerator : ℚ) / denominator - double.magnitude| ≤
      |(numerator : ℚ) / denominator - other.magnitude| := by
  rw [(ofRatio?_eq_some read).2]
  have nearest := gridMantissa_nearest numerator positive (gridExponent numerator denominator)
  rcases other.magnitude_on_grid some positive with ⟨multiple, same⟩ | ⟨below, start⟩
  · rw [same]
    exact nearest multiple
  · refine (nearest (2 ^ 52)).trans ?_
    rw [abs_of_nonneg (sub_nonneg.mpr start), abs_of_nonneg (sub_nonneg.mpr (below.trans start))]
    exact sub_le_sub_left below _

/-- A number that is read as a double is not nearer to zero than to the double. -/
theorem magnitude_nearest_zero {negative : Bool} {numerator denominator : Nat} {double : Double}
    (positive : 0 < denominator)
    (read : ofRatio? negative numerator denominator = some double) :
    |(numerator : ℚ) / denominator - double.magnitude| ≤ (numerator : ℚ) / denominator := by
  rw [(ofRatio?_eq_some read).2]
  refine (gridMantissa_nearest numerator positive _ 0).trans (le_of_eq ?_)
  rw [Nat.cast_zero, zero_mul, sub_zero, abs_of_nonneg (by positivity)]

/-- No double is nearer to a decimal than the one it is read as. -/
theorem ofDecimal?_nearest {negative : Bool} {decimal : Decimal} {double : Double}
    (read : ofDecimal? negative decimal = some double) (other : Double) :
    |signed negative decimal.value - double.value| ≤
      |signed negative decimal.value - other.value| := by
  by_cases isZero : decimal.digits = 0
  · rw [ofDecimal?, if_pos isZero] at read
    cases read
    have exactly : signed negative decimal.value = (zero negative).value := by
      rw [decimal.value_eq_zero_iff.mpr isZero, value, magnitude]
      congr 1
      exact (zero_mul _).symm
    rw [exactly, sub_self, abs_zero]
    exact abs_nonneg _
  · rw [ofDecimal?_eq negative isZero] at read
    have digits : 0 < decimal.digits * 10 ^ decimal.exponent.toNat :=
      Nat.mul_pos (Nat.pos_of_ne_zero isZero) (by positivity)
    have scale : 0 < 10 ^ (-decimal.exponent).toNat := by positivity
    have sign := (ofRatio?_eq_some read).1
    rw [decimal.value_eq_div, value, sign, abs_signed_sub]
    by_cases sameSign : other.negative = negative
    · rw [value, sameSign, abs_signed_sub]
      exact magnitude_nearest digits scale read other
    · rw [value, abs_signed_sub_of_ne sameSign]
      refine (magnitude_nearest_zero scale read).trans ((le_add_of_nonneg_right
        other.magnitude_nonneg).trans (le_abs_self _))

/-! ### Integers -/

/-- A natural number of at most 53 bits is the absolute value of a double of either sign, and so is
the next one. -/
theorem exists_double_of_nat (negative : Bool) {integer : Nat} (bounded : integer ≤ 2 ^ 53) :
    ∃ double : Double, double.negative = negative ∧ double.magnitude = integer := by
  by_cases isZero : integer = 0
  · exact ⟨zero negative, rfl, by rw [isZero]; exact zero_mul _⟩
  rcases Nat.lt_or_eq_of_le bounded with below | rfl
  case inr =>
    refine ⟨⟨negative, 2 ^ 52, 1, by decide, by decide, .inr (Nat.le_refl _)⟩, rfl, ?_⟩
    rw [magnitude]
    norm_num
  have low := Nat.log2_self_le isZero
  have high := Nat.lt_log2_self (n := integer)
  have places : integer.log2 ≤ 52 := Nat.lt_succ_iff.mp ((Nat.log2_lt isZero).mpr below)
  have start : 2 ^ 52 = 2 ^ integer.log2 * 2 ^ (52 - integer.log2) := by
    rw [← Nat.pow_add, Nat.add_sub_cancel' places]
  have stop : 2 ^ 53 = 2 ^ (integer.log2 + 1) * 2 ^ (52 - integer.log2) := by
    rw [← Nat.pow_add]
    congr 1
    omega
  refine ⟨⟨negative, integer * 2 ^ (52 - integer.log2), -(52 - integer.log2 : Nat), ?_, by omega,
    .inr ?_⟩, rfl, ?_⟩
  · rw [stop]
    exact Nat.mul_lt_mul_of_pos_right high (by positivity)
  · rw [start]
    exact Nat.mul_le_mul_right _ low
  · rw [magnitude, zpow_neg, zpow_natCast]
    push_cast
    exact mul_inv_cancel_right₀ (by positivity) _

/-- A decimal that is such a number is read as it. -/
theorem ofDecimal?_integer (negative : Bool) {decimal : Decimal} {integer : Nat}
    (bounded : integer ≤ 2 ^ 53) (same : decimal.value = integer) :
    ∃ double : Double, ofDecimal? negative decimal = some double ∧
      double.value = signed negative decimal.value := by
  obtain ⟨double, rfl, magnitude⟩ := exists_double_of_nat negative bounded
  refine ⟨double, ?_, by rw [value, magnitude, same]⟩
  by_cases isZero : double.mantissa = 0
  · have noDigit : decimal.digits = 0 := by
      rw [← decimal.value_eq_zero_iff, same, ← magnitude, Double.magnitude, isZero]
      exact zero_mul _
    rw [ofDecimal?, if_pos noDigit, ← double.eq_zero_of_mantissa isZero]
  · rw [← double.ofDecimal?_toDecimal isZero]
    exact ofDecimal?_congr _ (by rw [toDecimal_value, magnitude, same])

end Double

end Stencil
