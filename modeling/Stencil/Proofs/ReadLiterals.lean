/-
This file proves what the double that a literal is read as has to do with the literal.

The digits that are kept are never more than what the literal writes, and less by at most one part
in `2 ^ 60`: a digit is left over only where 64 bits are full. If the kept digits are all digits and
a double, and the power of ten is one that the table holds exactly, the literal is rounded once, to
the nearest double. In general the significand, the power and the result are each rounded, so the
result is off by at most one part in `2 ^ 51`, or it is zero and the literal all but zero. A literal
that is not beyond all doubles by that much is read as one.
-/

import Stencil.Json.Number
import Stencil.Proofs.PowersOfTen

namespace Stencil

namespace Decimal

/-- A row of digits behind a number is less than the next number with as many places. -/
theorem ofDigitChars_lt {digits : Text} (areDigits : ∀ digit ∈ digits, digit.isDigit = true)
    (number : Nat) : Nat.ofDigitChars 10 digits number < (number + 1) * 10 ^ digits.length := by
  induction digits generalizing number with
  | nil => simp
  | cons digit digits inductionHypothesis =>
    rw [List.forall_mem_cons] at areDigits
    have code : 48 ≤ digit.toNat ∧ digit.toNat ≤ 57 := Char.isDigit_iff_toNat.mp areDigits.1
    have zero : '0'.toNat = 48 := rfl
    rw [Nat.ofDigitChars_cons, List.length_cons]
    refine (inductionHypothesis areDigits.2 _).trans_le ?_
    rw [Nat.pow_succ, Nat.mul_comm (10 ^ _), ← Nat.mul_assoc]
    exact Nat.mul_le_mul_right _ (by omega)

theorem le_ofDigitChars (digits : Text) (number : Nat) :
    number * 10 ^ digits.length ≤ Nat.ofDigitChars 10 digits number := by
  rw [Nat.ofDigitChars_eq_ofDigitChars_zero, Nat.mul_comm]
  exact Nat.le_add_right _ _

end Decimal

namespace Json.Literal

/-! ### Gathering digits -/

section

variable (number : Nat) (digits : Text)

theorem gather_left_le : (gather number digits).2 ≤ digits.length := by
  fun_induction gather number digits with
  | case1 => exact Nat.le_refl _
  | case2 number digit digits longer fits inductionHypothesis =>
    exact inductionHypothesis.trans (Nat.le_succ _)
  | case3 => exact Nat.le_refl _

theorem gather_lt {number : Nat} (fits : number < 2 ^ 64) : (gather number digits).1 < 2 ^ 64 := by
  fun_induction gather number digits with
  | case1 => exact fits
  | case2 number digit digits longer longerFits inductionHypothesis =>
    exact inductionHypothesis longerFits
  | case3 => exact fits

/-- Either all digits are taken, or the word is full: one digit more goes beyond 64 bits. -/
theorem gather_spec : (gather number digits).2 = 0 ∧
      (gather number digits).1 = Nat.ofDigitChars 10 digits number ∨
    ∃ taken digit left, digits = taken ++ digit :: left ∧
      (gather number digits).1 = Nat.ofDigitChars 10 taken number ∧
      (gather number digits).2 = left.length + 1 ∧
      2 ^ 64 ≤ Nat.ofDigitChars 10 (taken ++ [digit]) number := by
  fun_induction gather number digits with
  | case1 => exact .inl ⟨rfl, rfl⟩
  | case2 number digit digits longer fits inductionHypothesis =>
    rcases inductionHypothesis with all | ⟨taken, next, left, rfl, kept, leftOver, full⟩
    · exact .inl all
    · exact .inr ⟨digit :: taken, next, left, rfl, kept, leftOver, full⟩
  | case3 number digit digits longer full =>
    exact .inr ⟨[], digit, digits, rfl, rfl, rfl, Nat.le_of_not_lt full⟩

theorem gather_of_all (nothing : (gather number digits).2 = 0) :
    (gather number digits).1 = Nat.ofDigitChars 10 digits number := by
  rcases gather_spec number digits with ⟨_, all⟩ | ⟨_, _, _, _, _, leftOver, _⟩
  · exact all
  · cases leftOver.symm.trans nothing

/-- What is kept, with zeros for what is left over, is not more than what is written. -/
theorem gather_le : (gather number digits).1 * 10 ^ (gather number digits).2 ≤
    Nat.ofDigitChars 10 digits number := by
  rcases gather_spec number digits with ⟨none, all⟩ | ⟨taken, digit, left, rfl, kept, leftOver, _⟩
  · rw [none, all, Nat.pow_zero, Nat.mul_one]
  · rw [kept, leftOver, Nat.ofDigitChars_append]
    exact Decimal.le_ofDigitChars (digit :: left) _

/-- One more in the last digit that is kept would be more than what is written. -/
theorem lt_gather (areDigits : ∀ digit ∈ digits, digit.isDigit = true) :
    Nat.ofDigitChars 10 digits number <
      ((gather number digits).1 + 1) * 10 ^ (gather number digits).2 := by
  rcases gather_spec number digits with ⟨none, all⟩ | ⟨taken, digit, left, rfl, kept, leftOver, _⟩
  · rw [none, all, Nat.pow_zero, Nat.mul_one]
    exact Nat.lt_succ_self _
  · rw [kept, leftOver, Nat.ofDigitChars_append]
    exact Decimal.ofDigitChars_lt (fun next member =>
      areDigits next (List.mem_append_right _ member)) _

/-- Nothing is left over of a number that fits 64 bits. -/
theorem full_le (leftOver : (gather number digits).2 ≠ 0) :
    2 ^ 64 * 10 ^ ((gather number digits).2 - 1) ≤ Nat.ofDigitChars 10 digits number := by
  rcases gather_spec number digits with ⟨none, _⟩ | ⟨taken, digit, left, rfl, _, count, full⟩
  · exact absurd none leftOver
  · rw [count, Nat.add_sub_cancel, ← List.singleton_append, ← List.append_assoc,
      Nat.ofDigitChars_append]
    exact (Nat.mul_le_mul_right _ full).trans (Decimal.le_ofDigitChars left _)

/-- Where digits are left over, 60 bits are kept. -/
theorem le_gather (areDigits : ∀ digit ∈ digits, digit.isDigit = true)
    (leftOver : (gather number digits).2 ≠ 0) : 2 ^ 60 ≤ (gather number digits).1 := by
  rcases gather_spec number digits with ⟨none, _⟩ | ⟨taken, digit, left, rfl, kept, _, full⟩
  · exact absurd none leftOver
  · have code : 48 ≤ digit.toNat ∧ digit.toNat ≤ 57 :=
      Char.isDigit_iff_toNat.mp (areDigits digit (by simp))
    have zero : '0'.toNat = 48 := rfl
    rw [Nat.ofDigitChars_append, Nat.ofDigitChars_cons, Nat.ofDigitChars_nil, ← kept] at full
    omega

/-- Each digit that is taken makes ten of one. -/
theorem gather_grows :
    number * 10 ^ (digits.length - (gather number digits).2) ≤ (gather number digits).1 := by
  rcases gather_spec number digits with ⟨none, all⟩ | ⟨taken, digit, left, rfl, kept, leftOver, _⟩
  · rw [none, all]
    exact Decimal.le_ofDigitChars digits number
  · have taken_length : (taken ++ digit :: left).length - (left.length + 1) = taken.length := by
      rw [List.length_append, List.length_cons, Nat.add_sub_cancel]
    rw [kept, leftOver, taken_length]
    exact Decimal.le_ofDigitChars taken number

theorem gather_of_left_eq (nothing : (gather number digits).2 = digits.length) :
    (gather number digits).1 = number := by
  rcases gather_spec number digits with ⟨none, all⟩ | ⟨taken, digit, left, rfl, kept, leftOver, _⟩
  · rw [all, List.eq_nil_of_length_eq_zero (nothing.symm.trans none), Nat.ofDigitChars_nil]
  · have taken_nil : taken = [] := by
      rw [leftOver, List.length_append, List.length_cons] at nothing
      exact List.eq_nil_of_length_eq_zero (by omega)
    rw [kept, taken_nil, Nat.ofDigitChars_nil]

end

/-! ### The digits that are kept -/

section

variable (literal : Literal)

/-- The places of the digits that are left over, before the point and behind it. -/
def leftOver : Nat :=
  let whole := gather 0 literal.whole
  whole.2 + (gather whole.1 (literal.fraction.getD [])).2

/-- The kept digits with the power of ten that the exponent gives them. -/
def scaled : Decimal :=
  ⟨literal.kept.digits, literal.kept.exponent + literal.exponent.getD 0⟩

theorem magnitude_digits : literal.magnitude.digits =
    Nat.ofDigitChars 10 (literal.fraction.getD []) (Nat.ofDigitChars 10 literal.whole 0) :=
  Nat.ofDigitChars_append _

theorem kept_le : literal.kept.digits * 10 ^ literal.leftOver ≤ literal.magnitude.digits := by
  rw [magnitude_digits, kept, leftOver]
  dsimp only
  obtain ⟨fraction, isFraction⟩ : ∃ fraction, fraction = literal.fraction.getD [] := ⟨_, rfl⟩
  rw [← isFraction]
  by_cases allWhole : (gather 0 literal.whole).2 = 0
  · rw [allWhole, Nat.zero_add, ← gather_of_all 0 literal.whole allWhole]
    exact gather_le _ fraction
  · have written : Nat.ofDigitChars 10 literal.whole 0 * 10 ^ fraction.length ≤
        Nat.ofDigitChars 10 fraction (Nat.ofDigitChars 10 literal.whole 0) :=
      Decimal.le_ofDigitChars fraction _
    refine le_trans ?_ written
    by_cases nothing : (gather (gather 0 literal.whole).1 fraction).2 = fraction.length
    · rw [gather_of_left_eq _ _ nothing, nothing, Nat.pow_add, ← Nat.mul_assoc]
      exact Nat.mul_le_mul_right _ (gather_le 0 literal.whole)
    · -- a digit of the fraction is taken where one before the point was not: it is smaller
      have less := gather_left_le (gather 0 literal.whole).1 fraction
      have fits := gather_lt fraction (gather_lt literal.whole (show 0 < 2 ^ 64 by decide))
      have full := full_le 0 literal.whole allWhole
      calc (gather (gather 0 literal.whole).1 fraction).1 *
            10 ^ ((gather 0 literal.whole).2 + (gather (gather 0 literal.whole).1 fraction).2)
          ≤ 2 ^ 64 * 10 ^ ((gather 0 literal.whole).2 - 1 + fraction.length) :=
            Nat.mul_le_mul fits.le (Nat.pow_le_pow_right (by decide) (by omega))
        _ = 2 ^ 64 * 10 ^ ((gather 0 literal.whole).2 - 1) * 10 ^ fraction.length := by
            rw [Nat.pow_add, Nat.mul_assoc]
        _ ≤ Nat.ofDigitChars 10 literal.whole 0 * 10 ^ fraction.length :=
            Nat.mul_le_mul_right _ full

/-- The literal is written in digits. -/
structure InDigits : Prop where
  whole : ∀ digit ∈ literal.whole, digit.isDigit = true
  fraction : ∀ digit ∈ literal.fraction.getD [], digit.isDigit = true

variable {literal}

theorem le_kept (inDigits : literal.InDigits) : 2 ^ 60 * literal.magnitude.digits ≤
    (2 ^ 60 + 1) * (literal.kept.digits * 10 ^ literal.leftOver) := by
  have areDigits := inDigits.fraction
  rw [magnitude_digits, kept, leftOver]
  dsimp only
  obtain ⟨fraction, isFraction⟩ : ∃ fraction, fraction = literal.fraction.getD [] := ⟨_, rfl⟩
  rw [← isFraction] at areDigits ⊢
  -- one more is one part in as many as are kept
  have oneMore {kept places written : Nat} (enough : 2 ^ 60 ≤ kept)
      (less : written < (kept + 1) * 10 ^ places) :
      2 ^ 60 * written ≤ (2 ^ 60 + 1) * (kept * 10 ^ places) :=
    calc 2 ^ 60 * written ≤ 2 ^ 60 * ((kept + 1) * 10 ^ places) := Nat.mul_le_mul_left _ less.le
      _ = (2 ^ 60 * kept + 2 ^ 60) * 10 ^ places := by ring
      _ ≤ (2 ^ 60 * kept + kept) * 10 ^ places :=
          Nat.mul_le_mul_right _ (Nat.add_le_add_left enough _)
      _ = (2 ^ 60 + 1) * (kept * 10 ^ places) := by ring
  by_cases allWhole : (gather 0 literal.whole).2 = 0
  · rw [allWhole, Nat.zero_add, ← gather_of_all 0 literal.whole allWhole]
    by_cases all : (gather (gather 0 literal.whole).1 fraction).2 = 0
    · rw [all, Nat.pow_zero, Nat.mul_one, gather_of_all _ fraction all]
      exact Nat.mul_le_mul_right _ (Nat.le_succ _)
    · exact oneMore (le_gather _ fraction areDigits all) (lt_gather _ fraction areDigits)
  · have less : Nat.ofDigitChars 10 fraction (Nat.ofDigitChars 10 literal.whole 0) <
        ((gather 0 literal.whole).1 + 1) * 10 ^ ((gather 0 literal.whole).2 + fraction.length) := by
      refine (Decimal.ofDigitChars_lt areDigits _).trans_le ?_
      rw [Nat.pow_add, ← Nat.mul_assoc]
      exact Nat.mul_le_mul_right _ (lt_gather 0 literal.whole inDigits.whole)
    refine (oneMore (le_gather 0 literal.whole inDigits.whole allWhole) less).trans
      (Nat.mul_le_mul_left _ ?_)
    have inside := gather_left_le (gather 0 literal.whole).1 fraction
    have places : (gather 0 literal.whole).2 + fraction.length =
        fraction.length - (gather (gather 0 literal.whole).1 fraction).2 +
          ((gather 0 literal.whole).2 + (gather (gather 0 literal.whole).1 fraction).2) := by omega
    rw [places, Nat.pow_add, ← Nat.mul_assoc]
    exact Nat.mul_le_mul_right _ (gather_grows _ fraction)

/-! ### Values -/

theorem scaled_value : literal.scaled.value =
    (literal.kept.digits * 10 ^ literal.leftOver : Nat) * 10 ^ literal.magnitude.exponent := by
  have inside := gather_left_le (gather 0 literal.whole).1 (literal.fraction.getD [])
  have exponent : literal.scaled.exponent = literal.leftOver + literal.magnitude.exponent := by
    rw [scaled, kept, leftOver, magnitude]
    dsimp only
    omega
  rw [Decimal.value, exponent, zpow_add₀ (by norm_num), zpow_natCast, Nat.cast_mul, Nat.cast_pow,
    Nat.cast_ofNat, mul_assoc]
  rfl

/-- What reading keeps is not more than what is written. -/
theorem scaled_value_le : literal.scaled.value ≤ literal.magnitude.value := by
  rw [scaled_value, Decimal.value]
  exact mul_le_mul_of_nonneg_right (Nat.cast_le.mpr literal.kept_le) (zpow_nonneg (by norm_num) _)

/-- What is written is more than what reading keeps by one part in `2 ^ 60` at most. -/
theorem value_le_scaled (inDigits : literal.InDigits) :
    literal.magnitude.value ≤ literal.scaled.value * (1 + 1 / 2 ^ 60) := by
  have kept := le_kept inDigits
  rw [← Nat.cast_le (α := ℚ), Nat.cast_mul, Nat.cast_mul] at kept
  norm_num at kept
  rw [scaled_value, Decimal.value, mul_right_comm]
  refine mul_le_mul_of_nonneg_right ?_ (zpow_nonneg (by norm_num) _)
  push_cast
  linarith only [kept]

end

/-! ### The double of a literal -/

section

variable {literal : Literal} {double : Double}

theorem kept_digits_lt (literal : Literal) : literal.kept.digits < 2 ^ 64 :=
  gather_lt _ (gather_lt _ (by decide))

/-- A literal with a short exponent is read by scaling the kept digits. -/
theorem double?_eq_some_iff (short : (literal.exponent.getD 0).natAbs < 2 ^ 31) :
    literal.double? = some double ↔
      ∃ significand, Double.ofDecimal? literal.negative ⟨literal.kept.digits, 0⟩ =
        some significand ∧ significand.timesPowerOfTen? literal.scaled.exponent = some double := by
  have fits : ¬ maxExponent < (literal.exponent.getD 0).natAbs := by
    rw [maxExponent]
    omega
  rw [double?, if_neg fits]
  exact Option.bind_eq_some_iff

theorem whole_decimal_value (digits : Nat) : Decimal.value ⟨digits, 0⟩ = digits := by
  rw [Decimal.value, zpow_zero, mul_one]

/-- The kept digits as a double: zero, or not below one and off by one rounding. -/
theorem significand_bounds {significand : Double}
    (read : Double.ofDecimal? literal.negative ⟨literal.kept.digits, 0⟩ = some significand) :
    literal.kept.digits = 0 ∧ significand.magnitude = 0 ∨
      1 ≤ significand.magnitude ∧ significand.magnitude ≤ 2 ^ 64 ∧
        literal.kept.digits * (1 - 1 / 2 ^ 53) ≤ significand.magnitude ∧
        significand.magnitude ≤ literal.kept.digits * (1 + 1 / 2 ^ 53) := by
  obtain ⟨_, rounds⟩ := Double.ofDecimal?_roundsTo read
  rw [whole_decimal_value] at rounds
  rcases Nat.eq_zero_or_pos literal.kept.digits with isZero | filled
  · exact .inl ⟨isZero, rounds.eq_zero (by rw [isZero, Nat.cast_zero])⟩
  · have filled : (1 : ℚ) ≤ literal.kept.digits := Nat.one_le_cast.mpr filled
    have word : (literal.kept.digits : ℚ) ≤ 2 ^ 64 := by exact_mod_cast literal.kept_digits_lt.le
    obtain ⟨most, isMost⟩ : ∃ most : Double, most.magnitude = 2 ^ 64 :=
      ⟨⟨false, 2 ^ 52, 12, by decide, by decide, .inr (Nat.le_refl _)⟩, by
        rw [Double.magnitude]
        norm_num⟩
    refine .inr ⟨rounds.one_le filled, ?_, rounds.bounds ?_⟩
    · rw [← isMost]
      exact rounds.le (word.trans_eq isMost.symm)
    · exact (zpow_le_one_of_nonpos₀ (by norm_num) (by norm_num)).trans filled

theorem double?_sign (short : (literal.exponent.getD 0).natAbs < 2 ^ 31)
    (read : literal.double? = some double) : double.negative = literal.negative := by
  obtain ⟨significand, reads, scales⟩ := (double?_eq_some_iff short).mp read
  exact (Double.timesPowerOfTen?_sign scales).trans (Double.ofDecimal?_roundsTo reads).1

/-- A literal that is not above the third but last double is read as a double. -/
theorem exists_double? (short : (literal.exponent.getD 0).natAbs < 2 ^ 31)
    (finite : literal.magnitude.value ≤ (2 ^ 53 - 3) * 2 ^ (971 : Int)) :
    ∃ double, literal.double? = some double := by
  obtain ⟨top, isTop⟩ : ∃ top : ℚ, top = 2 ^ (971 : Int) := ⟨_, rfl⟩
  have large : 2 ^ 20 ≤ top := by
    rw [isTop, ← zpow_natCast]
    exact zpow_le_zpow_right₀ (by norm_num) (by norm_num)
  have limit : Double.overflow = (2 ^ 53 - 1 / 2) * top := by
    rw [isTop]
    rfl
  rw [← isTop] at finite
  have word : (literal.kept.digits : ℚ) ≤ 2 ^ 64 := by exact_mod_cast literal.kept_digits_lt.le
  obtain ⟨significand, reads⟩ := Double.exists_ofDecimal? literal.negative
    (show Decimal.value ⟨literal.kept.digits, 0⟩ < Double.overflow by
      rw [whole_decimal_value, limit]
      linarith only [word, large])
  have product : significand.magnitude * 10 ^ literal.scaled.exponent * (1 + 1 / 2 ^ 53) <
      Double.overflow := by
    have unit : (0 : ℚ) ≤ 10 ^ literal.scaled.exponent := zpow_nonneg (by norm_num) _
    rw [limit]
    rcases significand_bounds reads with ⟨_, isZero⟩ | ⟨_, _, _, most⟩
    · rw [isZero]
      linarith only [large]
    · calc significand.magnitude * 10 ^ literal.scaled.exponent * (1 + 1 / 2 ^ 53)
          ≤ literal.kept.digits * (1 + 1 / 2 ^ 53) * 10 ^ literal.scaled.exponent *
              (1 + 1 / 2 ^ 53) :=
            mul_le_mul_of_nonneg_right (mul_le_mul_of_nonneg_right most unit) (by norm_num)
        _ = literal.scaled.value * ((1 + 1 / 2 ^ 53) * (1 + 1 / 2 ^ 53)) := by
            rw [Decimal.value, scaled]
            ring
        _ ≤ (2 ^ 53 - 3) * top * ((1 + 1 / 2 ^ 53) * (1 + 1 / 2 ^ 53)) :=
            mul_le_mul_of_nonneg_right (scaled_value_le.trans finite) (by norm_num)
        _ < (2 ^ 53 - 1 / 2) * top := by linarith only [large]
  have whole (filled : significand.mantissa ≠ 0) : 1 ≤ significand.magnitude := by
    rcases significand_bounds reads with ⟨_, isZero⟩ | ⟨least, _⟩
    · rw [Double.magnitude, mul_eq_zero, Nat.cast_eq_zero] at isZero
      exact absurd (isZero.resolve_right (zpow_ne_zero _ (by norm_num))) filled
    · exact least
  obtain ⟨double, scales⟩ := Double.exists_timesPowerOfTen? whole product
  exact ⟨double, (double?_eq_some_iff short).mpr ⟨significand, reads, scales⟩⟩

/-- A literal whose digits are few and whose power is small: reading it rounds it once. -/
structure RoundsOnce (literal : Literal) : Prop where
  digits : literal.magnitude.digits ≤ 2 ^ 53
  power : literal.magnitude.exponent.natAbs ≤ 22
  short : (literal.exponent.getD 0).natAbs < 2 ^ 31

theorem scaled_of_fits (fits : literal.magnitude.digits < 2 ^ 64) :
    literal.scaled = literal.magnitude := by
  have places (count : Nat) : 2 ^ 64 ≤ 2 ^ 64 * 10 ^ count :=
    Nat.le_mul_of_pos_right _ (by positivity)
  have digits := literal.magnitude_digits
  have allWhole : (gather 0 literal.whole).2 = 0 := by
    by_contra left
    have full := full_le 0 literal.whole left
    have longer := Decimal.le_ofDigitChars (literal.fraction.getD [])
      (Nat.ofDigitChars 10 literal.whole 0)
    have more := Nat.le_mul_of_pos_right (Nat.ofDigitChars 10 literal.whole 0)
      (show 0 < 10 ^ (literal.fraction.getD []).length by positivity)
    exact absurd ((places _).trans (full.trans (more.trans (longer.trans_eq digits.symm))))
      (Nat.not_le.mpr fits)
  have whole := gather_of_all 0 literal.whole allWhole
  have all : (gather (gather 0 literal.whole).1 (literal.fraction.getD [])).2 = 0 := by
    by_contra left
    have full := full_le _ _ left
    rw [whole] at full
    exact absurd ((places _).trans (full.trans_eq digits.symm)) (Nat.not_le.mpr fits)
  rw [scaled, kept, allWhole, all, gather_of_all _ _ all, whole, ← digits]
  simp only [magnitude]
  congr 1
  omega

/-- Where one rounding suffices, a literal is read as the double nearest to it. -/
theorem double?_of_roundsOnce (once : literal.RoundsOnce) :
    literal.double? = Double.ofDecimal? literal.negative literal.magnitude := by
  obtain ⟨few, small, short⟩ := once
  have scaled := scaled_of_fits (few.trans_lt (by decide : 2 ^ 53 < 2 ^ 64))
  have kept : literal.kept.digits = literal.magnitude.digits :=
    show literal.scaled.digits = literal.magnitude.digits by rw [scaled]
  obtain ⟨significand, reads, _⟩ := Double.ofDecimal?_integer literal.negative few
    (whole_decimal_value literal.magnitude.digits)
  obtain ⟨sign, rounds⟩ := Double.ofDecimal?_roundsTo reads
  obtain ⟨same, _, isSame⟩ := Double.exists_double_of_nat literal.negative few
  rw [whole_decimal_value] at rounds
  have exactly : significand.magnitude = literal.magnitude.digits := rounds.eq isSame.symm
  obtain ⟨factor, found, positive, isFactor⟩ := Double.exists_powerOfTen?_eq small
  have step : significand.timesPowerOfTen? literal.magnitude.exponent =
      Double.ofDecimal? literal.negative literal.magnitude := by
    have sign : (significand.negative != factor.negative) = literal.negative := by
      rw [sign, positive, Bool.bne_false]
    rcases Int.lt_or_le literal.magnitude.exponent 0 with below | above
    · have exponent : literal.magnitude.exponent = -(literal.magnitude.exponent.natAbs : Int) := by
        omega
      have value : significand.magnitude / factor.magnitude = literal.magnitude.value := by
        rw [exactly, isFactor, Decimal.value, exponent, Int.natAbs_neg, Int.natAbs_natCast,
          zpow_neg, zpow_natCast, div_eq_mul_inv]
      rw [exponent, Double.timesPowerOfTen?_of_neg found (by omega), Double.div?_eq_ofDecimal?
        (isFactor ▸ by positivity) value, sign]
    · have exponent : literal.magnitude.exponent = (literal.magnitude.exponent.natAbs : Int) := by
        omega
      have value : significand.magnitude * factor.magnitude = literal.magnitude.value := by
        rw [exactly, isFactor, Decimal.value, exponent, Int.natAbs_natCast, zpow_natCast]
      rw [exponent, Double.timesPowerOfTen?_of_nonneg found, Double.mul?_eq_ofDecimal? value, sign]
  refine Option.ext fun double => ?_
  rw [double?_eq_some_iff short, kept, scaled, ← step]
  constructor
  · rintro ⟨other, readsToo, scales⟩
    rwa [← Option.some.inj (reads.symm.trans readsToo)] at scales
  · exact fun scales => ⟨significand, reads, scales⟩

/-- With more digits two roundings may lead to the integer before. -/
example : Literal.double? ⟨false, "9007199254740991".toList, some ['0'], none⟩ =
    Double.ofDecimal? false ⟨9007199254740990, 0⟩ := by decide +kernel

/-! ### What reading a literal loses -/

/-- A double that is read and is not below one is off by one part in `2 ^ 51` at most. -/
theorem double?_error (inDigits : literal.InDigits) (read : literal.double? = some double)
    (large : 1 ≤ double.magnitude) :
    |literal.magnitude.value - double.magnitude| ≤ literal.magnitude.value / 2 ^ 51 := by
  have short : (literal.exponent.getD 0).natAbs < 2 ^ 31 := by
    by_contra long
    have beyond : maxExponent < (literal.exponent.getD 0).natAbs := by
      rw [maxExponent]
      omega
    rw [double?, if_pos beyond] at read
    split at read
    · cases read
    · cases read
      rw [Double.magnitude_zero] at large
      exact absurd large (by norm_num)
  obtain ⟨significand, reads, scales⟩ := (double?_eq_some_iff short).mp read
  rcases significand_bounds reads with ⟨_, isZero⟩ | ⟨least, word, low, high⟩
  · rw [Double.timesPowerOfTen?_zero scales isZero] at large
    exact absurd large (by norm_num)
  · have unit : (0 : ℚ) ≤ 10 ^ literal.scaled.exponent := zpow_nonneg (by norm_num) _
    have below : literal.scaled.value ≤ literal.magnitude.value := scaled_value_le
    have above := value_le_scaled inDigits
    obtain ⟨least, most⟩ := Double.timesPowerOfTen?_bounds scales least word large
    have kept : literal.scaled.value = literal.kept.digits * 10 ^ literal.scaled.exponent := rfl
    have low := mul_le_mul_of_nonneg_right low unit
    have high := mul_le_mul_of_nonneg_right high unit
    rw [abs_le]
    constructor <;> linarith

/-- Only what is all but zero is read as zero. -/
theorem value_lt_of_double?_zero (inDigits : literal.InDigits)
    (short : (literal.exponent.getD 0).natAbs < 2 ^ 31) (read : literal.double? = some double)
    (nothing : double.magnitude = 0) : literal.magnitude.value < 10 ^ (-280 : Int) := by
  obtain ⟨significand, reads, scales⟩ := (double?_eq_some_iff short).mp read
  have above := value_le_scaled inDigits
  have kept : literal.scaled.value = literal.kept.digits * 10 ^ literal.scaled.exponent := rfl
  rcases significand_bounds reads with ⟨isZero, _⟩ | ⟨least, _⟩
  · rw [kept, isZero, Nat.cast_zero, zero_mul, zero_mul] at above
    exact above.trans_lt (zpow_pos (by norm_num) _)
  · have power := Double.power_lt_of_scaled_zero scales least nothing
    have word : (literal.kept.digits : ℚ) ≤ 10 ^ (20 : Int) := by
      have fits : (literal.kept.digits : ℚ) ≤ 2 ^ 64 := by
        exact_mod_cast literal.kept_digits_lt.le
      exact fits.trans (by norm_num)
    calc literal.magnitude.value
        ≤ literal.kept.digits * 10 ^ literal.scaled.exponent * (1 + 1 / 2 ^ 60) := above
      _ ≤ 10 ^ (20 : Int) * 10 ^ (-309 : Int) * 10 ^ (1 : Int) := by
          have unit (power : Int) : (0 : ℚ) ≤ 10 ^ power := zpow_nonneg (by norm_num) _
          have small : (10 : ℚ) ^ literal.scaled.exponent ≤ 10 ^ (-309 : Int) := by
            rw [Double.lastPower] at power
            exact zpow_le_zpow_right₀ (by norm_num) (by omega)
          exact mul_le_mul (mul_le_mul word small (unit _) (unit _)) (by norm_num) (by norm_num)
            (mul_nonneg (unit _) (unit _))
      _ = 10 ^ (-288 : Int) := by
          rw [← zpow_add₀ (by norm_num), ← zpow_add₀ (by norm_num)]
          rfl
      _ < 10 ^ (-280 : Int) := zpow_lt_zpow_right₀ (by norm_num) (by norm_num)

end

end Json.Literal

end Stencil
