/-
This file proves what a result of rounding is worth: no double is nearer to the exact number, the
result is finite unless the exact number is beyond the doubles, and where the exact number is not
too small the error is at most one part in `2 ^ 53`. All three hold for ratios, and so for decimals,
products and quotients.

The error is at most half of the grid's unit, and a number that is not too small is at least
`2 ^ 52` units. Of a result nothing more is used later than these facts, which `RoundsTo` gathers.
-/

import Stencil.Number.Arithmetic
import Stencil.Proofs.NearestDouble

namespace Stencil.Double

/-! ### Multiples of the grid's unit -/

section

variable {numerator denominator : Nat} {exponent : Int}

theorem gridMantissa_le (positive : 0 < denominator) {multiple : Nat}
    (below : (numerator : ℚ) / denominator ≤ multiple * 2 ^ exponent) :
    gridMantissa numerator denominator exponent ≤ multiple := by
  have unit : (0 : ℚ) < 2 ^ exponent := zpow_pos (by norm_num) _
  have nearest := gridMantissa_nearest numerator positive exponent multiple
  by_contra above
  have larger : (multiple : ℚ) * 2 ^ exponent <
      gridMantissa numerator denominator exponent * 2 ^ exponent :=
    mul_lt_mul_of_pos_right (Nat.cast_lt.mpr (Nat.lt_of_not_le above)) unit
  rw [abs_of_nonpos (by linarith), abs_of_nonpos (by linarith)] at nearest
  linarith

theorem le_gridMantissa (positive : 0 < denominator) {multiple : Nat}
    (above : multiple * 2 ^ exponent ≤ (numerator : ℚ) / denominator) :
    multiple ≤ gridMantissa numerator denominator exponent := by
  have unit : (0 : ℚ) < 2 ^ exponent := zpow_pos (by norm_num) _
  have nearest := gridMantissa_nearest numerator positive exponent multiple
  by_contra below
  have smaller : gridMantissa numerator denominator exponent * (2 : ℚ) ^ exponent <
      multiple * 2 ^ exponent :=
    mul_lt_mul_of_pos_right (Nat.cast_lt.mpr (Nat.lt_of_not_le below)) unit
  rw [abs_of_nonneg (by linarith), abs_of_nonneg (by linarith)] at nearest
  linarith

/-- Rounding moves a number by half of the unit at most. -/
theorem gridMantissa_error (positive : 0 < denominator) :
    |(numerator : ℚ) / denominator - gridMantissa numerator denominator exponent * 2 ^ exponent| ≤
      2 ^ exponent / 2 := by
  have unit : (0 : ℚ) < 2 ^ exponent := zpow_pos (by norm_num) _
  obtain ⟨quotient, same⟩ : ∃ quotient : ℚ, quotient * 2 ^ exponent = numerator / denominator :=
    ⟨numerator / denominator / 2 ^ exponent, div_mul_cancel₀ _ unit.ne'⟩
  have nonnegative : 0 ≤ quotient + 1 / 2 := by
    rw [eq_div_of_mul_eq unit.ne' same]
    positivity
  have low := Nat.floor_le nonnegative
  have high := Nat.lt_floor_add_one (quotient + 1 / 2)
  have half : |quotient - ⌊quotient + 1 / 2⌋₊| ≤ 1 / 2 :=
    abs_le.mpr ⟨by linarith, by linarith⟩
  refine (gridMantissa_nearest numerator positive exponent ⌊quotient + 1 / 2⌋₊).trans ?_
  rw [← same, ← sub_mul, abs_mul, abs_of_pos unit]
  exact (mul_le_mul_of_nonneg_right half unit.le).trans_eq (one_div_mul_eq_div _ _)

end

/-! ### Finite results -/

/-- The least number that is not rounded to a finite one: half a unit beyond the largest double. -/
def overflow : ℚ :=
  (2 ^ 53 - 1 / 2) * 2 ^ (971 : Int)

theorem magnitude_lt_overflow (double : Double) : double.magnitude < overflow := by
  have mantissa : (double.mantissa : ℚ) ≤ 2 ^ 53 - 1 := by
    rw [le_sub_iff_add_le]
    exact_mod_cast double.mantissa_lt
  calc double.magnitude
      ≤ (2 ^ 53 - 1) * 2 ^ (971 : Int) :=
        mul_le_mul mantissa (zpow_le_zpow_right₀ (by norm_num) double.exponent_mem.2)
          (zpow_nonneg (by norm_num) _) (by norm_num)
    _ < overflow := mul_lt_mul_of_pos_right (by norm_num) (zpow_pos (by norm_num) _)

/-- A ratio below the limit is read as a double. -/
theorem exists_ofRatio? (negative : Bool) {numerator denominator : Nat} (some : 0 < numerator)
    (positive : 0 < denominator) (finite : (numerator : ℚ) / denominator < overflow) :
    ∃ double, ofRatio? negative numerator denominator = Option.some double := by
  obtain ⟨fits, start⟩ := ratio_on_grid some positive
  have least : -1074 ≤ gridExponent numerator denominator := le_max_left _ _
  have bounded := gridMantissa_le positive fits.le
  obtain ⟨top, isTop⟩ : ∃ top : ℚ, top = 2 ^ (971 : Int) := ⟨_, rfl⟩
  have topPositive : 0 < top := isTop ▸ zpow_pos (by norm_num) _
  rw [overflow, ← isTop] at finite
  -- a coarser grid than that of the largest doubles begins beyond the limit
  have onGrid : gridExponent numerator denominator ≤ 971 := by
    by_contra coarse
    have start := start.resolve_left (by omega)
    have far : top * 2 ≤ 2 ^ gridExponent numerator denominator := by
      rw [isTop, ← zpow_add_one₀ two_ne_zero]
      exact zpow_le_zpow_right₀ (by norm_num) (by omega)
    rw [Nat.cast_pow, Nat.cast_ofNat] at start
    linarith only [start, far, finite, topPositive]
  -- on the grid of the largest doubles, nothing is rounded up to the next power of two
  have notCarried (largest : gridExponent numerator denominator = 971) :
      gridMantissa numerator denominator (gridExponent numerator denominator) < 2 ^ 53 := by
    refine lt_of_le_of_ne bounded fun carried => ?_
    have nearest := gridMantissa_nearest numerator positive
      (gridExponent numerator denominator) (2 ^ 53 - 1)
    rw [carried, largest, ← isTop, Nat.cast_pow, Nat.cast_ofNat] at nearest
    rw [largest, ← isTop, Nat.cast_pow, Nat.cast_ofNat] at fits
    rw [abs_of_nonpos (sub_nonpos.mpr fits.le), Nat.cast_sub (by decide), Nat.cast_pow,
      Nat.cast_ofNat, Nat.cast_one] at nearest
    rcases abs_cases ((numerator : ℚ) / denominator - (2 ^ 53 - 1) * top) with
      ⟨same, _⟩ | ⟨same, _⟩ <;> rw [same] at nearest <;>
      linarith only [nearest, finite, topPositive]
  have normal : gridExponent numerator denominator = -1074 ∨
      2 ^ 52 ≤ gridMantissa numerator denominator (gridExponent numerator denominator) :=
    start.imp_right (le_gridMantissa positive)
  unfold ofRatio?
  dsimp only
  rw [← gridMantissa]
  split
  case isTrue carried =>
    refine ⟨_, dif_pos ⟨by decide, ⟨by omega, ?_⟩, .inr (Nat.le_refl _)⟩⟩
    by_contra beyond
    exact absurd carried (notCarried (by omega)).ne
  case isFalse fresh =>
    exact ⟨_, dif_pos ⟨lt_of_le_of_ne bounded fresh, ⟨least, onGrid⟩, normal⟩⟩

/-! ### What is known of a result -/

/-- The double is what an exact number is rounded to, signs apart: none is nearer, and unless the
number is too small the error is at most one part in `2 ^ 53`. -/
structure RoundsTo (exact : ℚ) (double : Double) : Prop where
  nearest : ∀ other : Double, |exact - double.magnitude| ≤ |exact - other.magnitude|
  close : 2 ^ (-1022 : Int) ≤ exact → |exact - double.magnitude| ≤ exact / 2 ^ 53

theorem magnitude_zero (negative : Bool) : (zero negative).magnitude = 0 :=
  zero_mul _

theorem ofRatio?_roundsTo {negative : Bool} {numerator denominator : Nat} {double : Double}
    (some : 0 < numerator) (positive : 0 < denominator)
    (read : ofRatio? negative numerator denominator = Option.some double) :
    RoundsTo ((numerator : ℚ) / denominator) double := by
  refine ⟨magnitude_nearest some positive read, fun normal => ?_⟩
  rw [(ofRatio?_eq_some read).2]
  refine (gridMantissa_error positive).trans ?_
  have start : (2 ^ 52 : Nat) * (2 : ℚ) ^ gridExponent numerator denominator ≤
      numerator / denominator := by
    rcases (ratio_on_grid some positive).2 with least | start
    · rw [least]
      refine le_of_eq_of_le ?_ normal
      rw [Nat.cast_pow, Nat.cast_ofNat, ← zpow_natCast, ← zpow_add₀ two_ne_zero]
      rfl
    · exact start
  rw [Nat.cast_pow, Nat.cast_ofNat] at start
  linarith

namespace RoundsTo

variable {exact : ℚ} {double : Double}

/-- Rounding does not go beyond a double that is not below. -/
theorem le (rounds : RoundsTo exact double) {other : Double} (below : exact ≤ other.magnitude) :
    double.magnitude ≤ other.magnitude := by
  have nearest := rounds.nearest other
  rw [abs_of_nonpos (sub_nonpos.mpr below)] at nearest
  linarith [neg_abs_le (exact - double.magnitude)]

/-- Rounding does not go below a double that is not above. -/
theorem ge (rounds : RoundsTo exact double) {other : Double} (above : other.magnitude ≤ exact) :
    other.magnitude ≤ double.magnitude := by
  have nearest := rounds.nearest other
  rw [abs_of_nonneg (sub_nonneg.mpr above)] at nearest
  linarith [le_abs_self (exact - double.magnitude)]

/-- A double is rounded to itself. -/
theorem eq (rounds : RoundsTo exact double) {other : Double} (same : exact = other.magnitude) :
    double.magnitude = exact :=
  same ▸ le_antisymm (rounds.le same.le) (rounds.ge same.ge)

theorem eq_zero (rounds : RoundsTo exact double) (nothing : exact = 0) : double.magnitude = 0 :=
  (rounds.eq (nothing.trans (magnitude_zero false).symm)).trans nothing

/-- What is not below one is not rounded to something below one. -/
theorem one_le (rounds : RoundsTo exact double) (large : 1 ≤ exact) : 1 ≤ double.magnitude := by
  obtain ⟨one, _, isOne⟩ := exists_double_of_nat false (show 1 ≤ 2 ^ 53 by decide)
  rw [Nat.cast_one] at isOne
  rw [← isOne] at large ⊢
  exact rounds.ge large

theorem bounds (rounds : RoundsTo exact double) (normal : 2 ^ (-1022 : Int) ≤ exact) :
    exact * (1 - 1 / 2 ^ 53) ≤ double.magnitude ∧ double.magnitude ≤ exact * (1 + 1 / 2 ^ 53) := by
  obtain ⟨low, high⟩ := abs_le.mp (rounds.close normal)
  constructor <;> linarith

end RoundsTo

/-! ### Fractions and decimals -/

theorem roundsTo_zero (negative : Bool) : RoundsTo 0 (zero negative) where
  nearest other := by
    rw [magnitude_zero, sub_self, abs_zero]
    exact abs_nonneg _
  close normal := absurd normal (not_le.mpr (zpow_pos (by norm_num) _))

section

variable {negative : Bool} {numerator denominator : Nat} {decimal : Decimal} {double : Double}

theorem ofFraction?_of_pos (some : 0 < numerator) (positive : 0 < denominator) :
    ofFraction? negative numerator denominator = ofRatio? negative numerator denominator := by
  rw [ofFraction?, if_neg positive.ne', if_neg some.ne']

theorem ofFraction?_zero (positive : 0 < denominator) :
    ofFraction? negative 0 denominator = some (zero negative) := by
  rw [ofFraction?, if_neg positive.ne', if_pos rfl]

/-- Reading a decimal is reading the fraction that it is. -/
theorem ofDecimal?_eq_ofFraction? : ofDecimal? negative decimal =
    ofFraction? negative (decimal.digits * 10 ^ decimal.exponent.toNat)
      (10 ^ (-decimal.exponent).toNat) := by
  have scale : 0 < 10 ^ (-decimal.exponent).toNat := by positivity
  by_cases isZero : decimal.digits = 0
  · rw [ofDecimal?, if_pos isZero, isZero, Nat.zero_mul, ofFraction?_zero scale]
  · rw [ofDecimal?_eq negative isZero, ofFraction?_of_pos
      (Nat.mul_pos (Nat.pos_of_ne_zero isZero) (by positivity)) scale]

/-- A fraction is read like a decimal of the same value. -/
theorem ofFraction?_eq_ofDecimal? (positive : 0 < denominator)
    (same : (numerator : ℚ) / denominator = decimal.value) :
    ofFraction? negative numerator denominator = ofDecimal? negative decimal := by
  have unit : (denominator : ℚ) ≠ 0 := Nat.cast_ne_zero.mpr positive.ne'
  by_cases isZero : numerator = 0
  · have noDigit : decimal.digits = 0 := by
      rw [← decimal.value_eq_zero_iff, ← same, isZero, Nat.cast_zero, zero_div]
    rw [isZero, ofFraction?_zero positive, ofDecimal?, if_pos noDigit]
  · have digits : decimal.digits ≠ 0 := by
      rw [Ne, ← decimal.value_eq_zero_iff, ← same, div_eq_zero_iff, not_or, Nat.cast_eq_zero]
      exact ⟨isZero, unit⟩
    rw [ofFraction?_of_pos (Nat.pos_of_ne_zero isZero) positive, ofDecimal?_eq negative digits]
    exact ofRatio?_congr negative (Nat.pos_of_ne_zero isZero) positive
      (Nat.mul_pos (Nat.pos_of_ne_zero digits) (by positivity)) (by positivity)
      (same.trans decimal.value_eq_div)

theorem ofFraction?_roundsTo
    (read : ofFraction? negative numerator denominator = some double) :
    double.negative = negative ∧ RoundsTo ((numerator : ℚ) / denominator) double := by
  unfold ofFraction? at read
  split at read
  · cases read
  rename_i positive
  split at read
  · rename_i isZero
    cases read
    rw [isZero, Nat.cast_zero, zero_div]
    exact ⟨rfl, roundsTo_zero negative⟩
  · rename_i filled
    exact ⟨(ofRatio?_eq_some read).1,
      ofRatio?_roundsTo (Nat.pos_of_ne_zero filled) (Nat.pos_of_ne_zero positive) read⟩

theorem exists_ofFraction? (negative : Bool) (positive : 0 < denominator)
    (finite : (numerator : ℚ) / denominator < overflow) :
    ∃ double, ofFraction? negative numerator denominator = some double := by
  rcases Nat.eq_zero_or_pos numerator with rfl | filled
  · exact ⟨_, ofFraction?_zero positive⟩
  · rw [ofFraction?_of_pos filled positive]
    exact exists_ofRatio? negative filled positive finite

theorem ofDecimal?_roundsTo (read : ofDecimal? negative decimal = some double) :
    double.negative = negative ∧ RoundsTo decimal.value double := by
  rw [ofDecimal?_eq_ofFraction?] at read
  rw [decimal.value_eq_div]
  exact ofFraction?_roundsTo read

theorem exists_ofDecimal? (negative : Bool) (finite : decimal.value < overflow) :
    ∃ double, ofDecimal? negative decimal = some double := by
  rw [decimal.value_eq_div] at finite
  rw [ofDecimal?_eq_ofFraction?]
  exact exists_ofFraction? negative (by positivity) finite

/-- A decimal that is far too large is not read as a double. -/
theorem value_lt_of_ofDecimal? (nonzero : decimal.digits ≠ 0)
    (read : ofDecimal? negative decimal = some double) : decimal.value < 2 ^ (1025 : Int) := by
  by_contra large
  obtain ⟨power, isPower, far⟩ : ∃ power : Nat, (power : Int) = 1025 ∧ 1024 < power :=
    ⟨1025, rfl, by decide⟩
  have unit : (-(power : Int)).toNat = 0 := Int.toNat_of_nonpos (by omega)
  rw [not_lt, decimal.value_eq_div, zpow_le_div_iff (by positivity), ← isPower, Int.toNat_natCast,
    unit, Nat.pow_zero, Nat.mul_one] at large
  rw [ofDecimal?_eq negative nonzero, ofRatio?_of_large negative (by positivity) far large] at read
  cases read

end

/-! ### Products and quotients -/

theorem ratio_denominator_pos (double : Double) : 0 < double.ratio.2 := by
  rw [ratio]
  split
  · exact Nat.one_pos
  · exact Nat.two_pow_pos _

theorem ratio_numerator_pos {double : Double} (positive : 0 < double.magnitude) :
    0 < double.ratio.1 := by
  refine Nat.pos_of_ne_zero fun isZero => ?_
  rw [← ratio_eq_magnitude, isZero, Nat.cast_zero, zero_div] at positive
  exact lt_irrefl _ positive

section

variable {first second double : Double}

theorem mul?_fraction (first second : Double) :
    ((first.ratio.1 * second.ratio.1 : Nat) : ℚ) / (first.ratio.2 * second.ratio.2 : Nat) =
      first.magnitude * second.magnitude := by
  rw [← ratio_eq_magnitude, ← ratio_eq_magnitude, div_mul_div_comm, Nat.cast_mul, Nat.cast_mul]

theorem div?_fraction (first second : Double) :
    ((first.ratio.1 * second.ratio.2 : Nat) : ℚ) / (first.ratio.2 * second.ratio.1 : Nat) =
      first.magnitude / second.magnitude := by
  rw [← ratio_eq_magnitude, ← ratio_eq_magnitude, div_div_div_eq, Nat.cast_mul, Nat.cast_mul]

theorem mul?_roundsTo (read : first.mul? second = some double) :
    double.negative = (first.negative != second.negative) ∧
      RoundsTo (first.magnitude * second.magnitude) double := by
  rw [← mul?_fraction]
  exact ofFraction?_roundsTo read

theorem exists_mul? (finite : first.magnitude * second.magnitude < overflow) :
    ∃ double, first.mul? second = some double := by
  rw [← mul?_fraction] at finite
  exact exists_ofFraction? _
    (Nat.mul_pos first.ratio_denominator_pos second.ratio_denominator_pos) finite

theorem div?_roundsTo (read : first.div? second = some double) :
    double.negative = (first.negative != second.negative) ∧
      RoundsTo (first.magnitude / second.magnitude) double := by
  rw [← div?_fraction]
  exact ofFraction?_roundsTo read

theorem exists_div? (positive : 0 < second.magnitude)
    (finite : first.magnitude / second.magnitude < overflow) :
    ∃ double, first.div? second = some double := by
  rw [← div?_fraction] at finite
  exact exists_ofFraction? _
    (Nat.mul_pos first.ratio_denominator_pos (ratio_numerator_pos positive)) finite

/-- A product that is the value of a decimal is rounded like the decimal. -/
theorem mul?_eq_ofDecimal? {decimal : Decimal}
    (same : first.magnitude * second.magnitude = decimal.value) :
    first.mul? second = ofDecimal? (first.negative != second.negative) decimal :=
  ofFraction?_eq_ofDecimal?
    (Nat.mul_pos first.ratio_denominator_pos second.ratio_denominator_pos)
    ((mul?_fraction first second).trans same)

/-- A quotient that is the value of a decimal is rounded like the decimal. -/
theorem div?_eq_ofDecimal? {decimal : Decimal} (positive : 0 < second.magnitude)
    (same : first.magnitude / second.magnitude = decimal.value) :
    first.div? second = ofDecimal? (first.negative != second.negative) decimal :=
  ofFraction?_eq_ofDecimal?
    (Nat.mul_pos first.ratio_denominator_pos (ratio_numerator_pos positive))
    ((div?_fraction first second).trans same)

end

end Stencil.Double
