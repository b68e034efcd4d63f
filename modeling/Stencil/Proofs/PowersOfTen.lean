/-
This file proves what scaling a double by a power of ten gives. The table holds the powers up to the
308th and nothing beyond, and those up to the 22nd exactly. Within the table, scaling is one product
or one quotient; beyond it, a double that is not zero is too large, or it is divided by the last
power first and falls below one.
-/

import Stencil.Proofs.RoundingError

namespace Stencil.Double

/-! ### The table -/

theorem one_decimal_value (power : Nat) : Decimal.value ⟨1, power⟩ = 10 ^ power := by
  rw [Decimal.value, Nat.cast_one, one_mul, zpow_natCast]

theorem powerOfTen?_roundsTo {power : Nat} {factor : Double}
    (found : powerOfTen? power = some factor) :
    factor.negative = false ∧ RoundsTo (10 ^ power) factor := by
  rw [← one_decimal_value]
  exact ofDecimal?_roundsTo found

theorem exists_powerOfTen? {power : Nat} (inside : power ≤ lastPower) :
    ∃ factor, powerOfTen? power = some factor := by
  obtain ⟨places, isPlaces, last⟩ : ∃ places : Nat, (places : Int) = 971 ∧
      2 * 10 ^ lastPower + 2 ^ places < 2 ^ 54 * 2 ^ places := ⟨971, rfl, by decide +kernel⟩
  rw [← Nat.cast_lt (α := ℚ)] at last
  simp only [Nat.cast_add, Nat.cast_mul, Nat.cast_pow, Nat.cast_ofNat] at last
  refine exists_ofDecimal? false ?_
  rw [one_decimal_value, overflow, ← isPlaces, zpow_natCast]
  refine lt_of_le_of_lt (pow_le_pow_right₀ (by norm_num) inside) ?_
  linarith only [last]

theorem overflow_le_ten_pow {power : Nat} (beyond : lastPower < power) :
    overflow ≤ (10 : ℚ) ^ power := by
  obtain ⟨places, isPlaces, next⟩ : ∃ places : Nat, (places : Int) = 971 ∧
      2 ^ 53 * 2 ^ places ≤ 10 ^ (lastPower + 1) := ⟨971, rfl, by decide +kernel⟩
  rw [← Nat.cast_le (α := ℚ)] at next
  simp only [Nat.cast_mul, Nat.cast_pow, Nat.cast_ofNat] at next
  refine le_trans ?_ (pow_le_pow_right₀ (by norm_num) (show lastPower + 1 ≤ power from beyond))
  rw [overflow, ← isPlaces, zpow_natCast]
  have unit : (0 : ℚ) ≤ 2 ^ places := by positivity
  linarith only [next, unit]

/-- The table ends with the last power. -/
theorem powerOfTen?_eq_none_iff {power : Nat} : powerOfTen? power = none ↔ lastPower < power := by
  constructor
  · intro missing
    refine Nat.lt_of_not_le fun inside => ?_
    obtain ⟨factor, found⟩ := exists_powerOfTen? inside
    cases missing.symm.trans found
  · intro beyond
    obtain ⟨bits, far, first⟩ : ∃ bits, 1024 < bits ∧ 2 ^ bits ≤ 10 ^ (lastPower + 1) :=
      ⟨1025, by decide, by decide +kernel⟩
    have unit : 10 ^ (-(power : Int)).toNat = 1 := by
      rw [Int.toNat_of_nonpos (by omega), Nat.pow_zero]
    rw [powerOfTen?, ofDecimal?_eq false Nat.one_ne_zero]
    dsimp only
    rw [unit, Int.toNat_natCast]
    refine ofRatio?_of_large false Nat.one_pos far ?_
    rw [Nat.one_mul, Nat.one_mul]
    exact first.trans (Nat.pow_le_pow_right (by decide) beyond)

/-- The first powers are doubles. -/
theorem exists_powerOfTen?_eq {power : Nat} (short : power ≤ 22) :
    ∃ factor, powerOfTen? power = some factor ∧ factor.negative = false ∧
      factor.magnitude = 10 ^ power := by
  have table : ∀ power < 23, (powerOfTen? power).any (fun factor => factor.negative == false &&
      factor.ratio.1 == 10 ^ power * factor.ratio.2) = true := by decide +kernel
  have exactly := table power (Nat.lt_succ_of_le short)
  obtain ⟨factor, found⟩ := exists_powerOfTen? (short.trans (by decide))
  rw [found, Option.any_some, Bool.and_eq_true, beq_iff_eq, beq_iff_eq] at exactly
  refine ⟨factor, found, exactly.1, ?_⟩
  rw [← factor.ratio_eq_magnitude, exactly.2, Nat.cast_mul, Nat.cast_pow, Nat.cast_ofNat,
    mul_div_cancel_right₀ _ (Nat.cast_ne_zero.mpr factor.ratio_denominator_pos.ne')]

theorem one_le_powerOfTen? {power : Nat} {factor : Double}
    (found : powerOfTen? power = some factor) : 1 ≤ factor.magnitude :=
  (powerOfTen?_roundsTo found).2.one_le (one_le_pow₀ (by norm_num))

/-! ### Scaling -/

section

variable {steps : Nat} {double : Double} {power : Int}

theorem scale?_of_table {factor : Double} (found : powerOfTen? power.natAbs = some factor) :
    scale? steps double power = if 0 ≤ power then double.mul? factor else double.div? factor := by
  unfold scale?
  rw [found]

theorem scale?_of_zero (beyond : powerOfTen? power.natAbs = none) (isZero : double.mantissa = 0) :
    scale? steps double power = some double := by
  unfold scale?
  rw [beyond]
  exact if_pos isZero

theorem scale?_of_large (beyond : powerOfTen? power.natAbs = none) (filled : double.mantissa ≠ 0)
    (large : 0 ≤ power) : scale? steps double power = none := by
  unfold scale?
  rw [beyond]
  exact (if_neg filled).trans (if_pos large)

theorem scale?_of_small (beyond : powerOfTen? power.natAbs = none) (filled : double.mantissa ≠ 0)
    (small : power < 0) : scale? (steps + 1) double power =
      (powerOfTen? lastPower).bind fun last =>
        (double.div? last).bind fun quotient => scale? steps quotient (power + lastPower) := by
  rw [scale?, beyond]
  exact (if_neg filled).trans (if_neg (Int.not_le.mpr small))

/-- A number divided by a power of ten is a double that is not larger. -/
theorem exists_div?_powerOfTen? (double : Double) {places : Nat} {factor : Double}
    (found : powerOfTen? places = some factor) :
    ∃ quotient, double.div? factor = some quotient ∧ quotient.negative = double.negative ∧
      quotient.magnitude ≤ double.magnitude := by
  have one := one_le_powerOfTen? found
  have smaller : double.magnitude / factor.magnitude ≤ double.magnitude :=
    div_le_self double.magnitude_nonneg one
  obtain ⟨quotient, divided⟩ :=
    exists_div? (one_pos.trans_le one) (smaller.trans_lt double.magnitude_lt_overflow)
  obtain ⟨sign, rounds⟩ := div?_roundsTo divided
  refine ⟨quotient, divided, ?_, rounds.le smaller⟩
  rw [sign, (powerOfTen?_roundsTo found).1, Bool.bne_false]

/-- The steps suffice: scaling down ends with a double that is not larger. -/
theorem exists_scale?_of_neg (double : Double) (small : power < 0)
    (enough : power.natAbs ≤ lastPower * (steps + 1)) :
    ∃ scaled, scale? steps double power = some scaled ∧ scaled.negative = double.negative ∧
      scaled.magnitude ≤ double.magnitude := by
  induction steps generalizing double power with
  | zero =>
    obtain ⟨factor, found⟩ := exists_powerOfTen? (enough.trans_eq (Nat.mul_one _))
    rw [scale?_of_table found, if_neg (Int.not_le.mpr small)]
    exact exists_div?_powerOfTen? double found
  | succ steps inductionHypothesis =>
    cases found : powerOfTen? power.natAbs with
    | some factor =>
      rw [scale?_of_table found, if_neg (Int.not_le.mpr small)]
      exact exists_div?_powerOfTen? double found
    | none =>
      by_cases isZero : double.mantissa = 0
      · exact ⟨double, scale?_of_zero found isZero, rfl, le_rfl⟩
      · have beyond := powerOfTen?_eq_none_iff.mp found
        have rest : power + lastPower < 0 ∧
            (power + lastPower).natAbs ≤ lastPower * (steps + 1) := by
          rw [lastPower] at beyond enough ⊢
          omega
        obtain ⟨last, lastFound⟩ := exists_powerOfTen? (Nat.le_refl lastPower)
        obtain ⟨quotient, divided, sign, smaller⟩ := exists_div?_powerOfTen? double lastFound
        obtain ⟨scaled, scales, sameSign, least⟩ :=
          inductionHypothesis quotient rest.1 rest.2
        refine ⟨scaled, ?_, sameSign.trans sign, least.trans smaller⟩
        rw [scale?_of_small found isZero small, lastFound, Option.bind_some, divided,
          Option.bind_some, scales]

end

/-! ### Scaling within the table -/

section

variable {double scaled : Double} {places : Nat} {factor : Double}

theorem timesPowerOfTen?_of_nonneg (found : powerOfTen? places = some factor) :
    double.timesPowerOfTen? places = double.mul? factor := by
  rw [timesPowerOfTen?, scale?_of_table (by rwa [Int.natAbs_natCast]),
    if_pos (Int.natCast_nonneg _)]

theorem timesPowerOfTen?_of_neg (found : powerOfTen? places = some factor) (some : 0 < places) :
    double.timesPowerOfTen? (-places) = double.div? factor := by
  rw [timesPowerOfTen?, scale?_of_table (by rwa [Int.natAbs_neg, Int.natAbs_natCast]),
    if_neg (by omega)]

/-- A number is scaled by one product, by one quotient, or it is divided by the last power before and
ends below what that gives; zero stays as it is. -/
theorem timesPowerOfTen?_cases {power : Int} (scales : double.timesPowerOfTen? power = some scaled) :
    (∃ places factor, power = (places : Nat) ∧ powerOfTen? places = some factor ∧
      double.mul? factor = some scaled) ∨
    (∃ places factor, power = -(places : Nat) ∧ 0 < places ∧ powerOfTen? places = some factor ∧
      double.div? factor = some scaled) ∨
    double.mantissa = 0 ∧ scaled = double ∨
    power < -lastPower ∧ scaled.negative = double.negative ∧
      ∃ last quotient, powerOfTen? lastPower = some last ∧ double.div? last = some quotient ∧
        scaled.magnitude ≤ quotient.magnitude := by
  rw [timesPowerOfTen?] at scales
  cases found : powerOfTen? power.natAbs with
  | some factor =>
    rw [scale?_of_table found] at scales
    split at scales
    · exact .inl ⟨power.natAbs, factor, by omega, found, scales⟩
    · exact .inr (.inl ⟨power.natAbs, factor, by omega, by omega, found, scales⟩)
  | none =>
    refine .inr (.inr ?_)
    by_cases isZero : double.mantissa = 0
    · rw [scale?_of_zero found isZero] at scales
      exact .inl ⟨isZero, (Option.some.inj scales).symm⟩
    rcases Int.lt_or_le power 0 with small | large
    case inr =>
      rw [scale?_of_large found isZero large] at scales
      cases scales
    have beyond := powerOfTen?_eq_none_iff.mp found
    obtain ⟨steps, isSteps⟩ : ∃ steps, power.natAbs / lastPower = steps + 1 :=
      Nat.exists_eq_succ_of_ne_zero (Nat.div_pos beyond.le (by decide)).ne'
    have rest : power + lastPower < 0 ∧
        (power + lastPower).natAbs ≤ lastPower * (steps + 1) := by
      rw [lastPower] at beyond isSteps ⊢
      omega
    obtain ⟨last, lastFound⟩ := exists_powerOfTen? (Nat.le_refl lastPower)
    obtain ⟨quotient, divided, sign, _⟩ := exists_div?_powerOfTen? double lastFound
    obtain ⟨other, scalesOther, sameSign, least⟩ :=
      exists_scale?_of_neg quotient rest.1 rest.2
    rw [isSteps, scale?_of_small found isZero small, lastFound, Option.bind_some, divided,
      Option.bind_some, scalesOther, Option.some_inj] at scales
    subst scales
    exact .inr ⟨by omega, sameSign.trans sign, last, quotient, lastFound, divided, least⟩

theorem powerOfTen?_bounds (found : powerOfTen? places = some factor) :
    (10 : ℚ) ^ places * (1 - 1 / 2 ^ 53) ≤ factor.magnitude ∧
      factor.magnitude ≤ (10 : ℚ) ^ places * (1 + 1 / 2 ^ 53) := by
  refine (powerOfTen?_roundsTo found).2.bounds ?_
  exact (zpow_le_one_of_nonpos₀ (by norm_num) (by norm_num)).trans (one_le_pow₀ (by norm_num))

/-- A product with a power of the table is off by two roundings and what they add up to. -/
theorem mul?_powerOfTen?_bounds (found : powerOfTen? places = some factor)
    (scales : double.mul? factor = some scaled) (large : 1 ≤ double.magnitude) :
    double.magnitude * 10 ^ places * (1 - 2 / 2 ^ 53) ≤ scaled.magnitude ∧
      scaled.magnitude ≤ double.magnitude * 10 ^ places * (1 + 5 / 2 / 2 ^ 53) := by
  have positive : 0 < double.magnitude := one_pos.trans_le large
  obtain ⟨low, high⟩ := powerOfTen?_bounds found
  have product : 1 ≤ double.magnitude * factor.magnitude :=
    one_le_mul_of_one_le_of_one_le large (one_le_powerOfTen? found)
  obtain ⟨least, most⟩ := (mul?_roundsTo scales).2.bounds
    ((zpow_le_one_of_nonpos₀ (by norm_num) (by norm_num)).trans product)
  have unit : (0 : ℚ) < 10 ^ places := by positivity
  constructor
  · calc double.magnitude * 10 ^ places * (1 - 2 / 2 ^ 53)
        ≤ double.magnitude * 10 ^ places * ((1 - 1 / 2 ^ 53) * (1 - 1 / 2 ^ 53)) :=
          mul_le_mul_of_nonneg_left (by norm_num) (by positivity)
      _ = double.magnitude * (10 ^ places * (1 - 1 / 2 ^ 53)) * (1 - 1 / 2 ^ 53) := by ring
      _ ≤ double.magnitude * factor.magnitude * (1 - 1 / 2 ^ 53) :=
          mul_le_mul_of_nonneg_right (mul_le_mul_of_nonneg_left low positive.le) (by norm_num)
      _ ≤ scaled.magnitude := least
  · calc scaled.magnitude
        ≤ double.magnitude * factor.magnitude * (1 + 1 / 2 ^ 53) := most
      _ ≤ double.magnitude * (10 ^ places * (1 + 1 / 2 ^ 53)) * (1 + 1 / 2 ^ 53) :=
          mul_le_mul_of_nonneg_right (mul_le_mul_of_nonneg_left high positive.le) (by norm_num)
      _ = double.magnitude * 10 ^ places * ((1 + 1 / 2 ^ 53) * (1 + 1 / 2 ^ 53)) := by ring
      _ ≤ double.magnitude * 10 ^ places * (1 + 5 / 2 / 2 ^ 53) :=
          mul_le_mul_of_nonneg_left (by norm_num) (by positivity)

/-- A quotient by a power of the table is off by two roundings and what they add up to, unless it is
too small. -/
theorem div?_powerOfTen?_bounds (found : powerOfTen? places = some factor)
    (scales : double.div? factor = some scaled)
    (normal : 2 ^ (-1022 : Int) ≤ double.magnitude / factor.magnitude) :
    double.magnitude / 10 ^ places * (1 - 2 / 2 ^ 53) ≤ scaled.magnitude ∧
      scaled.magnitude ≤ double.magnitude / 10 ^ places * (1 + 5 / 2 / 2 ^ 53) := by
  have nonnegative := double.magnitude_nonneg
  obtain ⟨low, high⟩ := powerOfTen?_bounds found
  have one := one_le_powerOfTen? found
  obtain ⟨least, most⟩ := (div?_roundsTo scales).2.bounds normal
  have unit : (0 : ℚ) < 10 ^ places := by positivity
  constructor
  · calc double.magnitude / 10 ^ places * (1 - 2 / 2 ^ 53)
        ≤ double.magnitude / 10 ^ places * ((1 - 1 / 2 ^ 53) / (1 + 1 / 2 ^ 53)) :=
          mul_le_mul_of_nonneg_left (by norm_num) (by positivity)
      _ = double.magnitude / (10 ^ places * (1 + 1 / 2 ^ 53)) * (1 - 1 / 2 ^ 53) := by
          rw [← div_div]
          ring
      _ ≤ double.magnitude / factor.magnitude * (1 - 1 / 2 ^ 53) :=
          mul_le_mul_of_nonneg_right
            (div_le_div_of_nonneg_left nonnegative (one_pos.trans_le one) high) (by norm_num)
      _ ≤ scaled.magnitude := least
  · calc scaled.magnitude
        ≤ double.magnitude / factor.magnitude * (1 + 1 / 2 ^ 53) := most
      _ ≤ double.magnitude / (10 ^ places * (1 - 1 / 2 ^ 53)) * (1 + 1 / 2 ^ 53) :=
          mul_le_mul_of_nonneg_right (div_le_div_of_nonneg_left nonnegative
            (mul_pos unit (by norm_num)) low) (by norm_num)
      _ = double.magnitude / 10 ^ places * ((1 + 1 / 2 ^ 53) / (1 - 1 / 2 ^ 53)) := by
          rw [← div_div]
          ring
      _ ≤ double.magnitude / 10 ^ places * (1 + 5 / 2 / 2 ^ 53) :=
          mul_le_mul_of_nonneg_left (by norm_num) (by positivity)

/-! ### What scaling gives -/

theorem timesPowerOfTen?_sign {power : Int} (scales : double.timesPowerOfTen? power = some scaled) :
    scaled.negative = double.negative := by
  rcases timesPowerOfTen?_cases scales with ⟨_, _, _, found, product⟩ |
    ⟨_, _, _, _, found, quotient⟩ | ⟨_, rfl⟩ | ⟨_, sign, _⟩
  · rw [(mul?_roundsTo product).1, (powerOfTen?_roundsTo found).1, Bool.bne_false]
  · rw [(div?_roundsTo quotient).1, (powerOfTen?_roundsTo found).1, Bool.bne_false]
  · rfl
  · exact sign

/-- Zero is scaled to zero. -/
theorem timesPowerOfTen?_zero {power : Int} (scales : double.timesPowerOfTen? power = some scaled)
    (isZero : double.magnitude = 0) : scaled.magnitude = 0 := by
  rcases timesPowerOfTen?_cases scales with ⟨_, _, _, _, product⟩ | ⟨_, _, _, _, _, quotient⟩ |
    ⟨_, rfl⟩ | ⟨_, _, _, _, _, divided, least⟩
  · exact (mul?_roundsTo product).2.eq_zero (by rw [isZero, zero_mul])
  · exact (div?_roundsTo quotient).2.eq_zero (by rw [isZero, zero_div])
  · exact isZero
  · rw [(div?_roundsTo divided).2.eq_zero (by rw [isZero, zero_div])] at least
    exact le_antisymm least scaled.magnitude_nonneg

/-- Scaling gives a double if the result is not too large, even with a power rounded up. -/
theorem exists_timesPowerOfTen? {power : Int} (large : double.mantissa ≠ 0 → 1 ≤ double.magnitude)
    (finite : double.magnitude * 10 ^ power * (1 + 1 / 2 ^ 53) < overflow) :
    ∃ scaled, double.timesPowerOfTen? power = some scaled := by
  rcases Int.lt_or_le power 0 with small | nonnegative
  · have enough : power.natAbs ≤ lastPower * (power.natAbs / lastPower + 1) :=
      (Nat.lt_mul_div_succ _ (by decide)).le
    obtain ⟨scaled, scales, _⟩ := exists_scale?_of_neg double small enough
    exact ⟨scaled, scales⟩
  obtain ⟨places, rfl⟩ := Int.eq_ofNat_of_zero_le nonnegative
  rw [zpow_natCast] at finite
  cases found : powerOfTen? places with
  | some factor =>
    have product : double.magnitude * factor.magnitude < overflow := by
      refine lt_of_le_of_lt ?_ finite
      rw [mul_assoc]
      exact mul_le_mul_of_nonneg_left (powerOfTen?_bounds found).2 double.magnitude_nonneg
    rw [timesPowerOfTen?_of_nonneg found]
    exact exists_mul? product
  | none =>
    have same : powerOfTen? (places : Int).natAbs = none := by rwa [Int.natAbs_natCast]
    by_cases isZero : double.mantissa = 0
    · exact ⟨double, scale?_of_zero same isZero⟩
    · -- a power beyond the table is too large for a number that is not below one
      have beyond := powerOfTen?_eq_none_iff.mp found
      have unit : (0 : ℚ) < 10 ^ places := by positivity
      have least : (10 : ℚ) ^ places ≤ double.magnitude * 10 ^ places :=
        le_mul_of_one_le_left unit.le (large isZero)
      have far := overflow_le_ten_pow beyond
      linarith

/-- Where a result is not below one, scaling a number of a word is off by two roundings and what
they add up to. -/
theorem timesPowerOfTen?_bounds {power : Int}
    (scales : double.timesPowerOfTen? power = some scaled) (large : 1 ≤ double.magnitude)
    (word : double.magnitude ≤ 2 ^ 64) (result : 1 ≤ scaled.magnitude) :
    double.magnitude * 10 ^ power * (1 - 2 / 2 ^ 53) ≤ scaled.magnitude ∧
      scaled.magnitude ≤ double.magnitude * 10 ^ power * (1 + 5 / 2 / 2 ^ 53) := by
  rcases timesPowerOfTen?_cases scales with ⟨places, factor, rfl, found, product⟩ |
    ⟨places, factor, rfl, _, found, quotient⟩ | ⟨isZero, _⟩ |
    ⟨_, _, last, quotient, found, divided, least⟩
  · rw [zpow_natCast]
    exact mul?_powerOfTen?_bounds found product large
  · rw [zpow_neg, zpow_natCast, ← div_eq_mul_inv]
    refine div?_powerOfTen?_bounds found quotient ?_
    -- a quotient below the least normal double is rounded to nothing as large as one
    by_contra small
    have normal : magnitude ⟨false, 2 ^ 52, -1074, by decide, by decide, .inl rfl⟩ =
        2 ^ (-1022 : Int) := by
      rw [magnitude, Nat.cast_pow, Nat.cast_ofNat, ← zpow_natCast, ← zpow_add₀ two_ne_zero]
      rfl
    have below := (div?_roundsTo quotient).2.le ((not_le.mp small).le.trans_eq normal.symm)
    rw [normal] at below
    have one : (2 : ℚ) ^ (-1022 : Int) < 1 := zpow_lt_one_of_neg₀ (by norm_num) (by norm_num)
    exact absurd (result.trans below) (not_le.mpr one)
  · rw [magnitude, isZero, Nat.cast_zero, zero_mul] at large
    exact absurd large (by norm_num)
  · obtain ⟨half, _, isHalf⟩ : ∃ half : Double, half.negative = false ∧ half.magnitude = 1 / 2 :=
      ⟨⟨false, 2 ^ 52, -53, by decide, by decide, .inr (Nat.le_refl _)⟩, rfl, by
        rw [magnitude]
        norm_num⟩
    have divisor : (2 : ℚ) ^ 65 ≤ last.magnitude := by
      refine le_trans ?_ (powerOfTen?_bounds found).1
      have factor : (2 : ℚ) ^ 66 ≤ 10 ^ lastPower :=
        (by norm_num : (2 : ℚ) ^ 66 ≤ 10 ^ 20).trans (pow_le_pow_right₀ (by norm_num) (by decide))
      linarith only [factor]
    have below : quotient.magnitude ≤ half.magnitude := by
      refine (div?_roundsTo divided).2.le ?_
      rw [isHalf, div_le_iff₀ (lt_of_lt_of_le (by positivity) divisor)]
      linarith only [word, divisor]
    rw [isHalf] at below
    linarith

/-- A number that is not below one is scaled to zero by a power before the table only. -/
theorem power_lt_of_scaled_zero {power : Int}
    (scales : double.timesPowerOfTen? power = some scaled) (large : 1 ≤ double.magnitude)
    (nothing : scaled.magnitude = 0) : power < -lastPower := by
  rcases timesPowerOfTen?_cases scales with ⟨places, factor, _, found, product⟩ |
    ⟨places, factor, _, _, found, quotient⟩ | ⟨isZero, _⟩ | ⟨beyond, _⟩
  · have least := (mul?_roundsTo product).2.one_le
      (one_le_mul_of_one_le_of_one_le large (one_le_powerOfTen? found))
    rw [nothing] at least
    exact absurd least (by norm_num)
  · have one := one_le_powerOfTen? found
    have bounded : factor.magnitude ≤ (2 : ℚ) ^ (1024 : Int) := by
      refine factor.magnitude_lt_overflow.le.trans ?_
      rw [overflow, show (1024 : Int) = (53 : Nat) + 971 from rfl, zpow_add₀ two_ne_zero,
        zpow_natCast]
      exact mul_le_mul_of_nonneg_right (by norm_num) (zpow_nonneg (by norm_num) _)
    obtain ⟨tiny, isTiny⟩ : ∃ tiny : Double, tiny.magnitude = 2 ^ (-1074 : Int) :=
      ⟨⟨false, 1, -1074, by decide, by decide, .inl rfl⟩, (congrArg (· * _) Nat.cast_one).trans
        (one_mul _)⟩
    have above : tiny.magnitude ≤ double.magnitude / factor.magnitude := by
      rw [le_div_iff₀ (one_pos.trans_le one), isTiny]
      calc (2 : ℚ) ^ (-1074 : Int) * factor.magnitude
          ≤ 2 ^ (-1074 : Int) * 2 ^ (1024 : Int) :=
            mul_le_mul_of_nonneg_left bounded (zpow_nonneg (by norm_num) _)
        _ = 2 ^ (-50 : Int) := (zpow_add₀ two_ne_zero _ _).symm
        _ ≤ 1 := zpow_le_one_of_nonpos₀ (by norm_num) (by norm_num)
        _ ≤ double.magnitude := large
    have least := (div?_roundsTo quotient).2.ge above
    rw [nothing, isTiny] at least
    exact absurd least (not_le.mpr (zpow_pos (by norm_num) _))
  · rw [magnitude, isZero, Nat.cast_zero, zero_mul] at large
    exact absurd large (by norm_num)
  · exact beyond

end

end Stencil.Double
