/-
This file proves that the double a decimal is read as depends only on the number that the decimal
stands for, and that the shortest decimal of a double reads back as the double.

Reading rounds a ratio of two natural numbers on the grid whose exponent gives the quotient 53 bits.
That exponent is a logarithm of the quotient, and rounding compares multiples of the two numbers; so
both are the same for ratios that are equal as fractions. The limits at which reading a decimal ends
early, for exponents that are far too large or too small, agree with what rounding would give. So a
zero may be moved between the digits of a decimal and its exponent, which is all that laying out the
digits of a number does.
-/

import Mathlib.Data.Int.Log
import Mathlib.Data.Rat.Floor
import Mathlib.Tactic.NormNum
import Stencil.Number.Shortest

namespace Stencil

namespace Double

/-! ### The grid of a ratio -/

section

variable {numerator denominator : Nat}

theorem zpow_le_div_iff (positive : 0 < denominator) (power : Int) :
    (2 : ℚ) ^ power ≤ (numerator : ℚ) / denominator ↔
      denominator * 2 ^ power.toNat ≤ numerator * 2 ^ (-power).toNat := by
  have split : (2 : ℚ) ^ power = (2 : ℚ) ^ power.toNat / (2 : ℚ) ^ (-power).toNat := by
    rw [← zpow_natCast, ← zpow_natCast, ← zpow_sub₀ (by norm_num : (2 : ℚ) ≠ 0),
      Int.toNat_sub_toNat_neg]
  rw [split, div_le_div_iff₀ (by positivity) (Nat.cast_pos.mpr positive), mul_comm]
  exact_mod_cast Iff.rfl

/-- The first bit of a quotient is told by the first bits of its two numbers, up to one place. -/
theorem log_quotient_bounds (some : 0 < numerator) (positive : 0 < denominator) :
    (numerator.log2 : Int) - denominator.log2 - 1 ≤ Int.log 2 ((numerator : ℚ) / denominator) ∧
      Int.log 2 ((numerator : ℚ) / denominator) ≤ (numerator.log2 : Int) - denominator.log2 := by
  have two : (2 : ℚ) ≠ 0 := by norm_num
  have quotientPositive : (0 : ℚ) < (numerator : ℚ) / denominator :=
    div_pos (Nat.cast_pos.mpr some) (Nat.cast_pos.mpr positive)
  have low (value : Nat) (positive : 0 < value) : (2 : ℚ) ^ (value.log2 : Int) ≤ value := by
    rw [zpow_natCast]
    exact_mod_cast Nat.log2_self_le positive.ne'
  have high (value : Nat) : (value : ℚ) < (2 : ℚ) ^ ((value.log2 : Int) + 1) := by
    exact_mod_cast Nat.lt_log2_self
  constructor
  · refine (Int.zpow_le_iff_le_log (by decide) quotientPositive).mp ?_
    rw [Nat.cast_ofNat, sub_sub, zpow_sub₀ two]
    exact div_le_div₀ (Nat.cast_nonneg _) (low _ some) (Nat.cast_pos.mpr positive) (high _).le
  · refine Int.lt_add_one_iff.mp
      ((Int.lt_zpow_iff_log_lt (by decide) quotientPositive).mp ?_)
    rw [Nat.cast_ofNat, sub_add_eq_add_sub, zpow_sub₀ two]
    exact div_lt_div₀ (high _) (low _ positive) (zpow_nonneg (by norm_num) _)
      (zpow_pos (by norm_num) _)

/-- The exponent of the grid is the one of the quotient's first bit, less the 52 bits behind it. -/
theorem gridExponent_eq (some : 0 < numerator) (positive : 0 < denominator) :
    gridExponent numerator denominator =
      max (-1074) (Int.log 2 ((numerator : ℚ) / denominator) - 52) := by
  have quotientPositive : (0 : ℚ) < (numerator : ℚ) / denominator :=
    div_pos (Nat.cast_pos.mpr some) (Nat.cast_pos.mpr positive)
  have reached_iff (power : Int) : denominator * 2 ^ power.toNat ≤ numerator * 2 ^ (-power).toNat ↔
      power ≤ Int.log 2 ((numerator : ℚ) / denominator) := by
    rw [← zpow_le_div_iff positive]
    exact Int.zpow_le_iff_le_log (by decide) quotientPositive
  have estimated_iff (power : Int) : (if 0 ≤ power then denominator * 2 ^ power.toNat ≤ numerator
      else denominator ≤ numerator * 2 ^ (-power).toNat) ↔
      power ≤ Int.log 2 ((numerator : ℚ) / denominator) := by
    rw [← reached_iff]
    split
    case isTrue nonnegative =>
      rw [Int.toNat_of_nonpos (Int.neg_nonpos_of_nonneg nonnegative), pow_zero, mul_one]
    case isFalse negative =>
      rw [Int.toNat_of_nonpos (Int.le_of_not_le negative), pow_zero, mul_one]
  obtain ⟨low, high⟩ := log_quotient_bounds some positive
  unfold gridExponent
  simp only [estimated_iff]
  split <;> congr 1 <;> omega

end

/-! ### Rounding -/

theorem roundDiv_mul_right (numerator denominator : Nat) {factor : Nat} (positive : 0 < factor) :
    roundDiv (numerator * factor) (denominator * factor) = roundDiv numerator denominator := by
  have lt_iff : 2 * (numerator % denominator * factor) < denominator * factor ↔
      2 * (numerator % denominator) < denominator := by
    rw [← Nat.mul_assoc, Nat.mul_lt_mul_right positive]
  have eq_iff : 2 * (numerator % denominator * factor) = denominator * factor ↔
      2 * (numerator % denominator) = denominator := by
    rw [← Nat.mul_assoc, Nat.mul_left_inj positive.ne']
  simp only [roundDiv, Nat.mul_div_mul_right _ _ positive, Nat.mul_mod_mul_right, lt_iff, eq_iff]

/-- Rounding a quotient depends on the quotient only. -/
theorem roundDiv_eq_of_mul_eq {numerator denominator numerator' denominator' : Nat}
    (same : numerator * denominator' = numerator' * denominator) (positive : 0 < denominator)
    (positive' : 0 < denominator') :
    roundDiv numerator denominator = roundDiv numerator' denominator' := by
  rw [← roundDiv_mul_right numerator denominator positive', same,
    Nat.mul_comm denominator denominator', roundDiv_mul_right _ _ positive]

theorem roundDiv_mul_self (quotient : Nat) {denominator : Nat} (positive : 0 < denominator) :
    roundDiv (quotient * denominator) denominator = quotient := by
  simp [roundDiv, Nat.mul_div_cancel _ positive, positive]

theorem roundDiv_eq_zero {numerator denominator : Nat} (small : 2 * numerator < denominator) :
    roundDiv numerator denominator = 0 := by
  have less : numerator < denominator := by omega
  simp [roundDiv, Nat.div_eq_of_lt less, Nat.mod_eq_of_lt less, small]

/-- Reading a ratio depends on the quotient only. -/
theorem ofRatio?_congr (negative : Bool) {numerator denominator numerator' denominator' : Nat}
    (some : 0 < numerator) (positive : 0 < denominator) (some' : 0 < numerator')
    (positive' : 0 < denominator')
    (same : (numerator : ℚ) / denominator = (numerator' : ℚ) / denominator') :
    ofRatio? negative numerator denominator = ofRatio? negative numerator' denominator' := by
  have cross : numerator * denominator' = numerator' * denominator := by
    rw [div_eq_div_iff (Nat.cast_ne_zero.mpr positive.ne') (Nat.cast_ne_zero.mpr positive'.ne')]
      at same
    exact_mod_cast same
  have grid : gridExponent numerator denominator = gridExponent numerator' denominator' := by
    rw [gridExponent_eq some positive, gridExponent_eq some' positive', same]
  have coarse (power : Nat) : roundDiv numerator (denominator * 2 ^ power) =
      roundDiv numerator' (denominator' * 2 ^ power) :=
    roundDiv_eq_of_mul_eq (by rw [← Nat.mul_assoc, cross, Nat.mul_assoc])
      (by positivity) (by positivity)
  have fine (power : Nat) : roundDiv (numerator * 2 ^ power) denominator =
      roundDiv (numerator' * 2 ^ power) denominator' :=
    roundDiv_eq_of_mul_eq (by rw [Nat.mul_right_comm, cross, Nat.mul_right_comm]) positive positive'
  simp only [ofRatio?, grid, coarse, fine]

theorem ofParts?_eq_none {negative : Bool} {mantissa : Nat} {exponent : Int}
    (large : 971 < exponent) : ofParts? negative mantissa exponent = none :=
  dif_neg fun valid => by omega

/-- A ratio beyond all doubles is none. -/
theorem ofRatio?_of_large (negative : Bool) {numerator denominator power : Nat}
    (positive : 0 < denominator) (far : 1024 < power)
    (large : denominator * 2 ^ power ≤ numerator) :
    ofRatio? negative numerator denominator = none := by
  have some : 0 < numerator := lt_of_lt_of_le (by positivity) large
  have quotientPositive : (0 : ℚ) < (numerator : ℚ) / denominator :=
    div_pos (Nat.cast_pos.mpr some) (Nat.cast_pos.mpr positive)
  have firstBit : (power : Int) ≤ Int.log 2 ((numerator : ℚ) / denominator) :=
    (Int.zpow_le_iff_le_log (by decide) quotientPositive).mp
      ((zpow_le_div_iff positive power).mpr (by simpa using large))
  have grid : 971 < gridExponent numerator denominator := by
    rw [gridExponent_eq some positive]
    omega
  have next : 971 < gridExponent numerator denominator + 1 := by omega
  simp only [ofRatio?, ofParts?_eq_none grid, ofParts?_eq_none next, ite_self]

/-- A ratio below half of the least double that is not zero is zero. -/
theorem ofRatio?_of_small (negative : Bool) {numerator denominator power : Nat}
    (positive : 0 < numerator) (far : 1074 < power) (small : numerator * 2 ^ power < denominator) :
    ofRatio? negative numerator denominator = some (zero negative) := by
  have denominatorPositive : 0 < denominator := lt_of_le_of_lt (Nat.zero_le _) small
  have quotientPositive : (0 : ℚ) < (numerator : ℚ) / denominator :=
    div_pos (Nat.cast_pos.mpr positive) (Nat.cast_pos.mpr denominatorPositive)
  have firstBit : ¬ -(power : Int) ≤ Int.log 2 ((numerator : ℚ) / denominator) := by
    rw [← Int.zpow_le_iff_le_log (by decide) quotientPositive]
    intro reached
    have reached := (zpow_le_div_iff denominatorPositive (-power)).mp reached
    exact absurd small (Nat.not_lt.mpr (by simpa using reached))
  have grid : gridExponent numerator denominator = -1074 := by
    rw [gridExponent_eq positive denominatorPositive]
    omega
  have half (places : Nat) (near : places < power) :
      2 * (numerator * 2 ^ places) < denominator :=
    calc 2 * (numerator * 2 ^ places) = numerator * 2 ^ (places + 1) := by
          rw [Nat.pow_succ, Nat.mul_comm 2, Nat.mul_assoc]
      _ ≤ numerator * 2 ^ power := Nat.mul_le_mul_left _ (Nat.pow_le_pow_right (by decide) near)
      _ < denominator := small
  simp only [ofRatio?, grid]
  simp only [show (-(-1074 : Int)).toNat = 1074 from rfl, roundDiv_eq_zero (half 1074 far)]
  rfl

/-! ### Decimals -/

end Double

/-- The number that a decimal stands for. -/
def Decimal.value (decimal : Decimal) : ℚ :=
  decimal.digits * 10 ^ decimal.exponent

namespace Decimal

theorem value_eq_div (decimal : Decimal) :
    decimal.value = ((decimal.digits * 10 ^ decimal.exponent.toNat : Nat) : ℚ) /
      ((10 ^ (-decimal.exponent).toNat : Nat) : ℚ) := by
  have split : (10 : ℚ) ^ decimal.exponent =
      10 ^ decimal.exponent.toNat / 10 ^ (-decimal.exponent).toNat := by
    rw [← zpow_natCast, ← zpow_natCast, ← zpow_sub₀ (by norm_num : (10 : ℚ) ≠ 0),
      Int.toNat_sub_toNat_neg]
  rw [value, split]
  push_cast
  rw [mul_div_assoc]

theorem value_eq_zero_iff (decimal : Decimal) : decimal.value = 0 ↔ decimal.digits = 0 := by
  rw [value, mul_eq_zero, Nat.cast_eq_zero]
  exact or_iff_left (zpow_ne_zero _ (by norm_num))

/-- A zero at the end of the digits may be moved into the exponent. -/
theorem value_mul_pow (digits : Nat) (exponent : Int) (places : Nat) :
    value ⟨digits * 10 ^ places, exponent⟩ = value ⟨digits, exponent + places⟩ := by
  have ten : (10 : ℚ) ≠ 0 := by norm_num
  simp only [value]
  push_cast
  rw [zpow_add₀ ten, zpow_natCast, mul_assoc, mul_comm (10 ^ places : ℚ)]

theorem value_stripZeros (fuel : Nat) (decimal : Decimal) :
    (stripZeros fuel decimal).value = decimal.value := by
  induction fuel generalizing decimal with
  | zero => rfl
  | succ fuel inductionHypothesis =>
    rw [stripZeros]
    split
    case isTrue divisible =>
      rw [inductionHypothesis, ← Nat.cast_one, ← value_mul_pow, pow_one,
        Nat.div_mul_cancel (Nat.dvd_of_mod_eq_zero divisible.1)]
    case isFalse => rfl

theorem value_normalize (decimal : Decimal) : decimal.normalize.value = decimal.value :=
  value_stripZeros _ _

end Decimal

namespace Double

theorem two_pow_le_ten_pow (places : Nat) : 2 ^ (3 * places) ≤ 10 ^ places := by
  rw [Nat.pow_mul]
  exact Nat.pow_le_pow_left (by decide) _

/-- The early ends of reading a decimal agree with rounding. -/
theorem ofDecimal?_eq (negative : Bool) {decimal : Decimal} (nonzero : decimal.digits ≠ 0) :
    ofDecimal? negative decimal = ofRatio? negative (decimal.digits * 10 ^ decimal.exponent.toNat)
      (10 ^ (-decimal.exponent).toNat) := by
  have positive : 0 < decimal.digits := Nat.pos_of_ne_zero nonzero
  unfold ofDecimal?
  rw [if_neg nonzero]
  split
  case isTrue large =>
    have noDenominator : (-decimal.exponent).toNat = 0 := by omega
    refine (ofRatio?_of_large negative (by positivity)
      (show 1024 < 3 * decimal.exponent.toNat by omega) ?_).symm
    calc 10 ^ (-decimal.exponent).toNat * 2 ^ (3 * decimal.exponent.toNat)
        = 2 ^ (3 * decimal.exponent.toNat) := by rw [noDenominator, pow_zero, one_mul]
      _ ≤ 10 ^ decimal.exponent.toNat := two_pow_le_ten_pow _
      _ ≤ decimal.digits * 10 ^ decimal.exponent.toNat := Nat.le_mul_of_pos_left _ positive
  case isFalse notLarge =>
    split
    case isTrue small =>
      have noFactor : decimal.exponent.toNat = 0 := by omega
      refine (ofRatio?_of_small negative (by positivity)
        (show 1074 < 3 * (-decimal.exponent).toNat - (decimal.digits.log2 + 1) by omega) ?_).symm
      calc decimal.digits * 10 ^ decimal.exponent.toNat *
            2 ^ (3 * (-decimal.exponent).toNat - (decimal.digits.log2 + 1))
          < 2 ^ (decimal.digits.log2 + 1) *
            2 ^ (3 * (-decimal.exponent).toNat - (decimal.digits.log2 + 1)) := by
            rw [noFactor, pow_zero, mul_one]
            exact Nat.mul_lt_mul_of_pos_right Nat.lt_log2_self (by positivity)
        _ = 2 ^ (3 * (-decimal.exponent).toNat) := by rw [← Nat.pow_add]; congr 1; omega
        _ ≤ 10 ^ (-decimal.exponent).toNat := two_pow_le_ten_pow _
    case isFalse notSmall =>
      split
      case isTrue nonnegative =>
        rw [Int.toNat_of_nonpos (Int.neg_nonpos_of_nonneg nonnegative), pow_zero]
      case isFalse negativeExponent =>
        rw [Int.toNat_of_nonpos (Int.le_of_not_le negativeExponent), pow_zero, mul_one]

/-- Reading a decimal depends on the number only that it stands for. -/
theorem ofDecimal?_congr (negative : Bool) {first second : Decimal}
    (same : first.value = second.value) :
    ofDecimal? negative first = ofDecimal? negative second := by
  by_cases zero : first.digits = 0
  · have zero' : second.digits = 0 := by
      rw [← Decimal.value_eq_zero_iff, ← same, Decimal.value_eq_zero_iff, zero]
    rw [ofDecimal?, ofDecimal?, if_pos zero, if_pos zero']
  · have nonzero : second.digits ≠ 0 := by
      rwa [Ne, ← Decimal.value_eq_zero_iff, ← same, Decimal.value_eq_zero_iff]
    rw [ofDecimal?_eq negative zero, ofDecimal?_eq negative nonzero]
    refine ofRatio?_congr negative ?_ (by positivity) ?_ (by positivity) ?_
    · exact Nat.mul_pos (Nat.pos_of_ne_zero zero) (by positivity)
    · exact Nat.mul_pos (Nat.pos_of_ne_zero nonzero) (by positivity)
    · rw [← Decimal.value_eq_div, ← Decimal.value_eq_div, same]

/-! ### Reading back -/

/-- The absolute value of a double. -/
def magnitude (double : Double) : ℚ :=
  double.mantissa * 2 ^ double.exponent

theorem ratio_eq_magnitude (double : Double) :
    (double.ratio.1 : ℚ) / double.ratio.2 = double.magnitude := by
  rw [ratio, magnitude]
  split
  case isTrue nonnegative =>
    push_cast
    rw [div_one, ← zpow_natCast, Int.toNat_of_nonneg nonnegative]
  case isFalse negative =>
    push_cast
    rw [← zpow_natCast, Int.toNat_of_nonneg (by omega), zpow_neg, div_inv_eq_mul]

theorem toDecimal_value (double : Double) : double.toDecimal.value = double.magnitude := by
  rw [toDecimal, magnitude]
  split
  case isTrue nonnegative =>
    simp only [Decimal.value]
    push_cast
    rw [mul_one, ← zpow_natCast, Int.toNat_of_nonneg nonnegative]
  case isFalse negative =>
    -- ten to a negative power is five and two to it, and the fives cancel
    have fives : (5 : ℚ) ^ (-double.exponent) * 5 ^ double.exponent = 1 := by
      rw [← zpow_add₀ (by norm_num), neg_add_cancel, zpow_zero]
    have tens : (10 : ℚ) ^ double.exponent = 5 ^ double.exponent * 2 ^ double.exponent := by
      rw [← mul_zpow]
      norm_num
    simp only [Decimal.value]
    push_cast
    rw [← zpow_natCast, Int.toNat_of_nonneg (by omega), tens, mul_assoc, ← mul_assoc (5 ^ _), fives,
      one_mul]

theorem ratio_positive (double : Double) (nonzero : double.mantissa ≠ 0) :
    0 < double.ratio.1 ∧ 0 < double.ratio.2 := by
  have positive : 0 < double.mantissa := Nat.pos_of_ne_zero nonzero
  rw [ratio]
  split
  · exact ⟨by positivity, Nat.one_pos⟩
  · exact ⟨positive, by positivity⟩

/-- Every double is on the grid on which its own value is rounded. -/
theorem gridExponent_ratio (double : Double) (nonzero : double.mantissa ≠ 0) :
    gridExponent double.ratio.1 double.ratio.2 = double.exponent := by
  have two : (2 : ℚ) ≠ 0 := by norm_num
  have unit : (0 : ℚ) < 2 ^ double.exponent := zpow_pos (by norm_num) _
  have positive : 0 < double.magnitude :=
    mul_pos (Nat.cast_pos.mpr (Nat.pos_of_ne_zero nonzero)) unit
  have scaled (power : Nat) : (2 : ℚ) ^ ((power : Int) + double.exponent) =
      (2 ^ power : Nat) * 2 ^ double.exponent := by
    rw [zpow_add₀ two, zpow_natCast, Nat.cast_pow, Nat.cast_ofNat]
  have upper : Int.log 2 double.magnitude < (53 : Nat) + double.exponent := by
    refine (Int.lt_zpow_iff_log_lt (by decide) positive).mp ?_
    rw [Nat.cast_ofNat, scaled]
    exact mul_lt_mul_of_pos_right (Nat.cast_lt.mpr double.mantissa_lt) unit
  have lower (normal : 2 ^ 52 ≤ double.mantissa) :
      (52 : Nat) + double.exponent ≤ Int.log 2 double.magnitude := by
    refine (Int.zpow_le_iff_le_log (by decide) positive).mp ?_
    rw [Nat.cast_ofNat, scaled]
    exact mul_le_mul_of_nonneg_right (Nat.cast_le.mpr normal) unit.le
  obtain ⟨numeratorPositive, denominatorPositive⟩ := double.ratio_positive nonzero
  have range := double.exponent_mem
  rw [gridExponent_eq numeratorPositive denominatorPositive, ratio_eq_magnitude]
  cases double.canonical with
  | inl least => omega
  | inr normal =>
    have lower := lower normal
    omega

/-- The exact value of a double is read as the double. -/
theorem ofRatio?_ratio (double : Double) (nonzero : double.mantissa ≠ 0) :
    ofRatio? double.negative double.ratio.1 double.ratio.2 = some double := by
  have exactly : (if 0 ≤ double.exponent then
        roundDiv double.ratio.1 (double.ratio.2 * 2 ^ double.exponent.toNat)
      else roundDiv (double.ratio.1 * 2 ^ (-double.exponent).toNat) double.ratio.2) =
      double.mantissa := by
    rw [ratio]
    split
    · rw [Nat.one_mul, roundDiv_mul_self _ (by positivity)]
    · rw [roundDiv_mul_self _ (by positivity)]
  simp only [ofRatio?, double.gridExponent_ratio nonzero, exactly]
  rw [if_neg double.mantissa_lt.ne]
  exact dif_pos ⟨double.mantissa_lt, double.exponent_mem, double.canonical⟩

theorem eq_zero_of_mantissa (double : Double) (isZero : double.mantissa = 0) :
    double = zero double.negative := by
  have least : double.exponent = -1074 := by
    have canonical := double.canonical
    omega
  cases double
  subst isZero least
  rfl

/-- Writing every digit of a double reads back. -/
theorem ofDecimal?_toDecimal (double : Double) (nonzero : double.mantissa ≠ 0) :
    ofDecimal? double.negative double.toDecimal = some double := by
  obtain ⟨numeratorPositive, denominatorPositive⟩ := double.ratio_positive nonzero
  have same : double.toDecimal.value = (double.ratio.1 : ℚ) / double.ratio.2 := by
    rw [toDecimal_value, ratio_eq_magnitude]
  have digits : double.toDecimal.digits ≠ 0 := by
    rw [Ne, ← Decimal.value_eq_zero_iff, same]
    exact (div_pos (Nat.cast_pos.mpr numeratorPositive)
      (Nat.cast_pos.mpr denominatorPositive)).ne'
  rw [ofDecimal?_eq _ digits, ← double.ofRatio?_ratio nonzero]
  refine ofRatio?_congr _ (Nat.mul_pos (Nat.pos_of_ne_zero digits) (by positivity))
    (by positivity) numeratorPositive denominatorPositive ?_
  rw [← Decimal.value_eq_div, same]

theorem readsBack_of_onGrid? {tie : TieRule} {double : Double} {power : Int} {decimal : Decimal}
    (found : double.onGrid? tie power = some decimal) : double.readsBack decimal = true := by
  unfold onGrid? at found
  grind

/-- The shortest decimal of a double reads back as the double. -/
theorem ofDecimal?_shortest (tie : TieRule) (double : Double) :
    ofDecimal? double.negative (double.shortest tie) = some double := by
  rw [shortest]
  split
  case isTrue isZero =>
    rw [ofDecimal?, if_pos rfl, ← double.eq_zero_of_mantissa isZero]
  case isFalse nonzero =>
    simp only
    rw [ofDecimal?_congr _ (Decimal.value_normalize _)]
    cases found : (List.range 17).findSome? fun (count : Nat) =>
        double.onGrid? tie (double.firstPower - count) with
    | none => exact double.ofDecimal?_toDecimal nonzero
    | some decimal =>
      obtain ⟨count, -, onGrid⟩ := List.exists_of_findSome?_eq_some found
      exact eq_of_beq (readsBack_of_onGrid? onGrid)

/-- Only zero is written without a digit other than zero. -/
theorem shortest_digits_eq_zero_iff (tie : TieRule) (double : Double) :
    (double.shortest tie).digits = 0 ↔ double.mantissa = 0 := by
  constructor
  · intro noDigit
    have back := double.ofDecimal?_shortest tie
    rw [ofDecimal?, if_pos noDigit] at back
    rw [← Option.some.inj back]
    rfl
  · intro isZero
    rw [shortest, if_pos isZero]

theorem shortest_exponent_of_digits {tie : TieRule} {double : Double}
    (noDigit : (double.shortest tie).digits = 0) : (double.shortest tie).exponent = 0 := by
  rw [shortest, if_pos ((double.shortest_digits_eq_zero_iff tie).mp noDigit)]

end Double

end Stencil
