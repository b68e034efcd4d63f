/-
This file proves how the text of a number in a document is read, whatever follows it that does not
go on with a number: an integer comes back as it is, and a double as the double that its text is
rounded to.

A number is written as a literal: a sign, digits, and perhaps a fraction and an exponent. Reading
takes a written literal apart again, since none of its parts can start with what may end the part
before it. What the literal of an integer stands for is the integer; the literal of a double stands
for the shortest decimal of the double, laid out by position or in scientific form. That decimal is
not above the next double, so it is never too large to be read; and it comes back as the double if
its digits are few and its power is small.
-/

import Stencil.Json.Reader
import Stencil.Proofs.ReadLiterals

namespace Stencil

/-! ### Digits -/

namespace Decimal

theorem ofDigits_eq_ofDigitChars (digits : Text) : ofDigits digits = Nat.ofDigitChars 10 digits 0 :=
  rfl

theorem ofDigits_natText (value : Nat) : ofDigits (natText value) = value :=
  Nat.ofDigitChars_toDigits (by decide) (by decide)

theorem isDigit_of_mem_natText {value : Nat} {digit : Char} (member : digit ∈ natText value) :
    digit.isDigit = true :=
  Nat.isDigit_of_mem_toDigits (by decide) (by decide) member

theorem natText_ne_nil (value : Nat) : natText value ≠ [] :=
  Nat.toDigits_ne_nil

/-- Zeros behind digits multiply by a power of ten. -/
theorem ofDigits_append_zeros (digits : Text) (places : Nat) :
    ofDigits (digits ++ List.replicate places '0') = ofDigits digits * 10 ^ places := by
  rw [ofDigits_eq_ofDigitChars, Nat.ofDigitChars_append, Nat.ofDigitChars_replicate_zero,
    Nat.mul_comm, ofDigits_eq_ofDigitChars]

/-- Zeros before digits change nothing. -/
theorem ofDigits_zeros_append (digits : Text) (places : Nat) :
    ofDigits (List.replicate places '0' ++ digits) = ofDigits digits := by
  rw [ofDigits_eq_ofDigitChars, Nat.ofDigitChars_append, Nat.ofDigitChars_replicate_zero,
    Nat.mul_zero, ofDigits_eq_ofDigitChars]

/-- No number but zero is written with a zero in front. -/
theorem natText_head?_ne_zero {value : Nat} (nonzero : value ≠ 0) :
    (natText value).head? ≠ some '0' := by
  induction value using Nat.strongRecOn with
  | ind value inductionHypothesis =>
    by_cases single : value < 10
    · have first : ∀ digit < 10, digit ≠ 0 → Nat.digitChar digit ≠ '0' := by decide
      rw [natText, Nat.toDigits_of_lt_base single]
      simpa using first value single nonzero
    · have shorter : value / 10 < value := Nat.div_lt_self (by omega) (by decide)
      rw [natText, Nat.toDigits_of_base_le (by decide) (by omega),
        List.head?_append_of_ne_nil _ Nat.toDigits_ne_nil]
      exact inductionHypothesis _ shorter (by omega)

/-- Laying digits out by position keeps the number. -/
theorem positional_value (decimal : Decimal) :
    value ⟨ofDigits (decimal.positional.1 ++ decimal.positional.2),
      -(decimal.positional.2.length : Int)⟩ = decimal.value := by
  unfold positional
  simp only
  split
  case isTrue nonnegative =>
    rw [List.append_nil, ofDigits_append_zeros, ofDigits_natText, value_mul_pow,
      Int.toNat_of_nonneg nonnegative]
    simp
  case isFalse negative =>
    split
    case isTrue inside =>
      rw [List.take_append_drop, ofDigits_natText, List.length_drop]
      congr 2
      omega
    case isFalse before =>
      rw [List.singleton_append, ← List.cons_append, ← List.replicate_succ, ofDigits_zeros_append,
        ofDigits_natText, List.length_append, List.length_replicate]
      congr 2
      omega

theorem isDigit_of_mem_positional {decimal : Decimal} {digit : Char}
    (member : digit ∈ decimal.positional.1 ++ decimal.positional.2) : digit.isDigit = true := by
  unfold positional at member
  simp only at member
  have zeros {places : Nat} (member : digit ∈ List.replicate places '0') :
      digit.isDigit = true := by
    rw [List.eq_of_mem_replicate member]
    rfl
  split at member
  case isTrue =>
    rw [List.append_nil, List.mem_append] at member
    exact member.elim isDigit_of_mem_natText zeros
  case isFalse =>
    split at member
    case isTrue =>
      rw [List.take_append_drop] at member
      exact isDigit_of_mem_natText member
    case isFalse =>
      rw [List.singleton_append, ← List.cons_append, ← List.replicate_succ,
        List.mem_append] at member
      exact member.elim zeros isDigit_of_mem_natText

/-- The digits before the point are a single zero or do not start with one. -/
theorem positional_head? {decimal : Decimal} (zero : decimal.digits = 0 → decimal.exponent = 0) :
    decimal.positional.1 = ['0'] ∨
      decimal.positional.1 ≠ [] ∧ decimal.positional.1.head? ≠ some '0' := by
  by_cases isZero : decimal.digits = 0
  · refine .inl ?_
    simp [positional, isZero, zero isZero, natText]
  · have head := natText_head?_ne_zero isZero
    have some := natText_ne_nil decimal.digits
    unfold positional
    simp only
    split
    case isTrue =>
      refine .inr ⟨List.append_ne_nil_of_left_ne_nil some _, ?_⟩
      rwa [List.head?_append_of_ne_nil _ some]
    case isFalse =>
      split
      case isTrue inside =>
        refine .inr ⟨?_, ?_⟩
        · rw [Ne, List.take_eq_nil_iff, not_or]
          exact ⟨by omega, some⟩
        · rwa [List.head?_take, if_neg (by omega)]
      case isFalse => exact .inl rfl

end Decimal

namespace Json

/-! ### Literals -/

/-- Whether nothing that a text starts with goes on with a number. -/
def EndsNumber (text : Text) : Prop :=
  ∀ next ∈ text.head?, next.isDigit = false ∧ next ≠ '.' ∧ next ≠ 'e' ∧ next ≠ 'E'

namespace Literal

/-- The fraction of a literal, if there is one. -/
def fractionText : Option Text → Text
  | none => []
  | some digits => '.' :: digits

/-- The exponent of a literal, if there is one. -/
def exponentText : Option Int → Text
  | none => []
  | some power => 'e' :: (if power < 0 then '-' else '+') :: Decimal.natText power.natAbs

/-- A literal as it is written. -/
def text (literal : Literal) : Text :=
  (if literal.negative then ['-'] else []) ++
    (literal.whole ++ (fractionText literal.fraction ++ exponentText literal.exponent))

/-- What the digits of a literal are, so that a document may write it. -/
structure WellFormed (literal : Literal) : Prop where
  whole_isDigit : ∀ digit ∈ literal.whole, digit.isDigit = true
  whole_head? : literal.whole = ['0'] ∨ literal.whole ≠ [] ∧ literal.whole.head? ≠ some '0'
  fraction_isDigit : ∀ fraction ∈ literal.fraction,
    fraction ≠ [] ∧ ∀ digit ∈ fraction, digit.isDigit = true

end Literal

/-! ### Reading literals -/

section

variable {rest : Text}

theorem readDigits_append {digits : Text} (some : digits ≠ [])
    (areDigits : ∀ digit ∈ digits, digit.isDigit = true)
    (ends : ∀ next ∈ rest.head?, next.isDigit = false) :
    readDigits (digits ++ rest) = Option.some (digits, rest) := by
  have noDigit : rest.takeWhile Char.isDigit = [] ∧ rest.dropWhile Char.isDigit = rest := by
    cases rest with
    | nil => exact ⟨rfl, rfl⟩
    | cons next behind =>
      have notDigit : ¬ next.isDigit = true := by simp [ends next rfl]
      exact ⟨List.takeWhile_cons_of_neg notDigit, List.dropWhile_cons_of_neg notDigit⟩
  unfold readDigits
  rw [List.takeWhile_append_of_pos areDigits, List.dropWhile_append_of_pos areDigits, noDigit.1,
    noDigit.2, List.append_nil]
  cases digits with
  | nil => exact absurd rfl some
  | cons => rfl

theorem readWhole_append {whole : Text} (areDigits : ∀ digit ∈ whole, digit.isDigit = true)
    (first : whole = ['0'] ∨ whole ≠ [] ∧ whole.head? ≠ some '0')
    (ends : ∀ next ∈ rest.head?, next.isDigit = false) :
    readWhole (whole ++ rest) = some (whole, rest) := by
  cases first with
  | inl zero =>
    subst zero
    rfl
  | inr other =>
    rw [← readDigits_append other.1 areDigits ends]
    cases whole with
    | nil => exact absurd rfl other.1
    | cons digit digits =>
      have notZero : digit ≠ '0' := fun isZero => other.2 (by rw [isZero]; rfl)
      exact readWhole.eq_2 _ fun behind starts => notZero (List.cons.inj starts).1

theorem readFraction_append {fraction : Option Text}
    (areDigits : ∀ digits ∈ fraction, digits ≠ [] ∧ ∀ digit ∈ digits, digit.isDigit = true)
    (ends : ∀ next ∈ rest.head?, next.isDigit = false ∧ next ≠ '.') :
    readFraction (Literal.fractionText fraction ++ rest) = some (fraction, rest) := by
  cases fraction with
  | none =>
    refine readFraction.eq_2 _ fun behind starts => ?_
    exact (ends '.' (by rw [show rest = '.' :: behind from starts]; rfl)).2 rfl
  | some digits =>
    obtain ⟨some, areDigits⟩ := areDigits digits rfl
    change (readDigits (digits ++ rest)).map _ = _
    rw [readDigits_append some areDigits fun next starts => (ends next starts).1]
    rfl

theorem readPower_append (power : Int) (ends : ∀ next ∈ rest.head?, next.isDigit = false) :
    readPower ((if power < 0 then '-' else '+') :: Decimal.natText power.natAbs ++ rest) =
      some (power, rest) := by
  have digits : readDigits (Decimal.natText power.natAbs ++ rest) =
      some (Decimal.natText power.natAbs, rest) :=
    readDigits_append (Decimal.natText_ne_nil _) (fun _ => Decimal.isDigit_of_mem_natText) ends
  split
  case isTrue negative =>
    simp only [List.cons_append, readPower, digits, Option.map_some, Decimal.ofDigits_natText]
    rw [Int.ofNat_natAbs_of_nonpos negative.le, Int.neg_neg]
  case isFalse nonnegative =>
    simp only [List.cons_append, readPower, digits, Option.map_some, Decimal.ofDigits_natText]
    rw [Int.natAbs_of_nonneg (Int.not_lt.mp nonnegative)]

theorem readExponent_append (exponent : Option Int)
    (ends : ∀ next ∈ rest.head?, next.isDigit = false ∧ next ≠ 'e' ∧ next ≠ 'E') :
    readExponent (Literal.exponentText exponent ++ rest) = some (exponent, rest) := by
  cases exponent with
  | none =>
    refine readExponent.eq_3 _ (fun behind starts => ?_) fun behind starts => ?_
    · exact (ends 'e' (by rw [show rest = 'e' :: behind from starts]; rfl)).2.1 rfl
    · exact (ends 'E' (by rw [show rest = 'E' :: behind from starts]; rfl)).2.2 rfl
  | some power =>
    change (readPower ((if power < 0 then '-' else '+') :: Decimal.natText power.natAbs ++
      rest)).map _ = _
    rw [readPower_append power fun next starts => (ends next starts).1]
    rfl

/-- A written literal is read again, up to what does not go on with a number. -/
theorem readLiteral_append {literal : Literal} (wellFormed : literal.WellFormed)
    (ends : EndsNumber rest) : readLiteral (literal.text ++ rest) = some (literal, rest) := by
  obtain ⟨negative, whole, fraction, exponent⟩ := literal
  obtain ⟨wholeDigits, wholeHead, fractionDigits⟩ := wellFormed
  have atExponent : ∀ next ∈ (Literal.exponentText exponent ++ rest).head?,
      next.isDigit = false ∧ next ≠ '.' := by
    cases exponent with
    | none => exact fun next starts => ⟨(ends next starts).1, (ends next starts).2.1⟩
    | some power => rintro next ⟨⟩; exact ⟨rfl, by decide⟩
  have atFraction : ∀ next ∈ (Literal.fractionText fraction ++
      (Literal.exponentText exponent ++ rest)).head?, next.isDigit = false := by
    cases fraction with
    | none => exact fun next starts => (atExponent next starts).1
    | some digits => rintro next ⟨⟩; rfl
  have wholeRead := readWhole_append wholeDigits wholeHead atFraction
  have fractionRead := readFraction_append fractionDigits atExponent
  have exponentRead : readExponent (Literal.exponentText exponent ++ rest) =
      some (exponent, rest) :=
    readExponent_append exponent fun next starts =>
      ⟨(ends next starts).1, (ends next starts).2.2⟩
  cases negative with
  | true => simp [readLiteral, Literal.text, wholeRead, fractionRead, exponentRead]
  | false =>
    obtain ⟨first, others, rfl⟩ : ∃ first others, whole = first :: others := by
      cases whole with
      | nil => simp at wholeHead
      | cons first others => exact ⟨first, others, rfl⟩
    have notSign : first ≠ '-' := by
      rintro rfl
      exact absurd (wholeDigits '-' List.mem_cons_self) (by decide)
    rw [List.cons_append] at wholeRead
    simp [readLiteral, Literal.text, wholeRead, fractionRead, exponentRead, notSign]

end

/-! ### Decimals as literals -/

namespace Literal

/-- A decimal laid out by position, with at least one digit of fraction. -/
def byPosition (negative : Bool) (decimal : Decimal) : Literal :=
  ⟨negative, decimal.positional.1,
    some (if decimal.positional.2.isEmpty then ['0'] else decimal.positional.2), none⟩

/-- A decimal in scientific form, with one digit before the point. -/
def scientific (negative : Bool) (decimal : Decimal) : Literal :=
  let digits := Decimal.natText decimal.digits
  ⟨negative, digits.take 1, if digits.length = 1 then none else some (digits.drop 1),
    some decimal.magnitude⟩

theorem byPosition_wellFormed (negative : Bool) {decimal : Decimal}
    (zero : decimal.digits = 0 → decimal.exponent = 0) :
    (byPosition negative decimal).WellFormed := by
  refine ⟨fun digit member =>
    Decimal.isDigit_of_mem_positional (List.mem_append_left _ member),
    Decimal.positional_head? zero, ?_⟩
  rintro fraction ⟨⟩
  simp only [List.isEmpty_iff]
  split
  case isTrue => exact ⟨by simp, by simp⟩
  case isFalse some => exact ⟨some, fun digit member =>
    Decimal.isDigit_of_mem_positional (List.mem_append_right _ member)⟩

theorem scientific_wellFormed (negative : Bool) {decimal : Decimal}
    (nonzero : decimal.digits ≠ 0) : (scientific negative decimal).WellFormed := by
  have head := Decimal.natText_head?_ne_zero nonzero
  have some := Decimal.natText_ne_nil decimal.digits
  refine ⟨fun digit member => Decimal.isDigit_of_mem_natText (List.mem_of_mem_take member),
    .inr ⟨by simpa [scientific, List.take_eq_nil_iff] using some,
      by simpa [scientific, List.head?_take] using head⟩, ?_⟩
  intro fraction member
  simp only [scientific] at member
  split at member
  case isTrue => simp at member
  case isFalse several =>
    cases member
    refine ⟨?_, fun digit member => Decimal.isDigit_of_mem_natText (List.mem_of_mem_drop member)⟩
    have length := List.length_pos_of_ne_nil some
    rw [Ne, List.drop_eq_nil_iff]
    omega

theorem value_byPosition (negative : Bool) (decimal : Decimal) :
    (byPosition negative decimal).magnitude.value = decimal.value := by
  have positional := decimal.positional_value
  simp only [byPosition, magnitude, Option.getD_some, Option.getD_none, List.isEmpty_iff,
    Int.zero_sub]
  split
  case isTrue none =>
    -- the zero behind the point is a zero behind the digits
    have shifted := Decimal.value_mul_pow (Decimal.ofDigits decimal.positional.1) (-1) 1
    rw [none, List.append_nil] at positional
    rw [show ['0'] = List.replicate 1 '0' from rfl, Decimal.ofDigits_append_zeros,
      ← positional]
    exact shifted
  case isFalse => exact positional

theorem value_scientific (negative : Bool) (decimal : Decimal) :
    (scientific negative decimal).magnitude.value = decimal.value := by
  have fraction : ((scientific negative decimal).fraction.getD []) =
      (Decimal.natText decimal.digits).drop 1 := by
    simp only [scientific]
    split
    case isTrue single => simp [List.drop_eq_nil_of_le single.le]
    case isFalse => rfl
  have length := List.length_pos_of_ne_nil (Decimal.natText_ne_nil decimal.digits)
  have exponent : decimal.magnitude - ((Decimal.natText decimal.digits).drop 1).length =
      decimal.exponent := by
    rw [Decimal.magnitude, List.length_drop]
    omega
  simp only [magnitude, fraction]
  simp only [scientific, List.take_append_drop, Decimal.ofDigits_natText, Option.getD_some,
    exponent]

end Literal

/-! ### Numbers as literals -/

namespace Number

/-- The literal that a number is written as. -/
def literal : Number → Literal
  | .integer value _ => ⟨value < 0, Decimal.natText value.natAbs, none, none⟩
  | .double value =>
    let decimal := value.shortest .toEven
    if value.mantissa = 0 ∨ (-5 ≤ decimal.magnitude ∧ decimal.magnitude < 16) then
      Literal.byPosition value.negative decimal
    else
      Literal.scientific value.negative decimal

theorem text_eq_literal_text (number : Number) : number.text = number.literal.text := by
  cases number with
  | integer value bounded =>
    by_cases negative : value < 0 <;>
      simp [text, literal, Literal.text, Literal.fractionText, Literal.exponentText,
        Decimal.intText, negative]
  | double value =>
    simp only [text, doubleText, literal]
    split
    case isTrue =>
      simp [Literal.byPosition, Literal.text, Literal.fractionText, Literal.exponentText]
    case isFalse =>
      by_cases single : (Decimal.natText (value.shortest .toEven).digits).length = 1 <;>
        simp [Literal.scientific, Literal.text, Literal.fractionText, Literal.exponentText, single]

theorem literal_wellFormed (number : Number) : number.literal.WellFormed := by
  cases number with
  | integer value bounded =>
    refine ⟨fun _ => Decimal.isDigit_of_mem_natText, ?_, by simp [literal]⟩
    by_cases zero : value.natAbs = 0
    · exact .inl (by rw [literal, zero]; rfl)
    · exact .inr ⟨Decimal.natText_ne_nil _, Decimal.natText_head?_ne_zero zero⟩
  | double value =>
    simp only [literal]
    split
    case isTrue => exact Literal.byPosition_wellFormed _ Double.shortest_exponent_of_digits
    case isFalse outside =>
      refine Literal.scientific_wellFormed _ ?_
      rw [Ne, Double.shortest_digits_eq_zero_iff]
      exact fun zero => outside (.inl zero)

theorem ofInt?_eq {value : Int} (bounded : -2 ^ 63 ≤ value ∧ value < 2 ^ 64) :
    ofInt? value = some (.integer value bounded) :=
  dif_pos bounded

theorem ofLiteral?_of_not_isWhole {literal : Literal} (notWhole : literal.isWhole = false) :
    ofLiteral? literal = literal.double?.map .double := by
  simp [ofLiteral?, notWhole]

theorem literal_not_isWhole (double : Double) : (literal (.double double)).isWhole = false := by
  simp only [literal]
  split
  · rfl
  · simp [Literal.scientific, Literal.isWhole]

theorem literal_negative (double : Double) :
    (literal (.double double)).negative = double.negative := by
  simp only [literal]
  split <;> rfl

/-- The literal of a double stands for the shortest decimal of the double. -/
theorem literal_value (double : Double) :
    (literal (.double double)).magnitude.value = (double.shortest .toEven).value := by
  simp only [literal]
  split
  · exact Literal.value_byPosition _ _
  · exact Literal.value_scientific _ _

end Number

end Json

/-! ### Literals of doubles are read -/

theorem Decimal.value_bounds {decimal : Decimal} (nonzero : decimal.digits ≠ 0) :
    (10 : ℚ) ^ decimal.magnitude ≤ decimal.value ∧
      decimal.value < 10 ^ (decimal.magnitude + 1) := by
  have unit : (0 : ℚ) < 10 ^ decimal.exponent := zpow_pos (by norm_num) _
  have ten : (10 : ℚ) ≠ 0 := by norm_num
  obtain ⟨places, length⟩ : ∃ places, (natText decimal.digits).length = places + 1 :=
    Nat.exists_eq_succ_of_ne_zero (List.length_pos_of_ne_nil (natText_ne_nil _)).ne'
  have short (count : Nat) (some : 0 < count) :
      (natText decimal.digits).length ≤ count ↔ decimal.digits < 10 ^ count :=
    Nat.length_toDigits_le_iff (by decide) some
  have low : 10 ^ places ≤ decimal.digits := by
    rcases Nat.eq_zero_or_pos places with rfl | some
    · exact Nat.pos_of_ne_zero nonzero
    · refine Nat.le_of_not_lt fun less => ?_
      have shorter := (short places some).mpr less
      omega
  have high : decimal.digits < 10 ^ (places + 1) := (short _ (Nat.succ_pos _)).mp length.le
  have magnitude : decimal.magnitude = places + decimal.exponent := by
    rw [Decimal.magnitude, length]
    omega
  rw [magnitude, add_right_comm, zpow_add₀ ten, zpow_add₀ ten, value]
  constructor
  · exact mul_le_mul_of_nonneg_right (by exact_mod_cast low) unit.le
  · exact mul_lt_mul_of_pos_right (by exact_mod_cast high) unit

namespace Double

/-- The shortest decimal of a double has an exponent that a literal may have. -/
theorem shortest_magnitude_lt {double : Double} (nonzero : double.mantissa ≠ 0) :
    (double.shortest .toEven).magnitude.natAbs < 2 ^ 31 := by
  have read := double.ofDecimal?_shortest .toEven
  have digits : (double.shortest .toEven).digits ≠ 0 := by
    rwa [Ne, shortest_digits_eq_zero_iff]
  obtain ⟨low, high⟩ := Decimal.value_bounds digits
  have upper : (double.shortest .toEven).magnitude < 1025 := by
    rw [← zpow_lt_zpow_iff_right₀ (show (1 : ℚ) < 10 by norm_num)]
    refine low.trans_lt ((value_lt_of_ofDecimal? digits read).trans_le ?_)
    exact zpow_le_zpow_left₀ (by norm_num) (by norm_num) (by norm_num)
  have lower : -1075 < (double.shortest .toEven).magnitude + 1 := by
    rw [← zpow_lt_zpow_iff_right₀ (show (1 : ℚ) < 10 by norm_num)]
    refine lt_of_le_of_lt ?_ high
    -- the decimal is not nearer to zero than to the double
    have nearest := (ofDecimal?_roundsTo read).2.nearest (zero false)
    rw [magnitude_zero, sub_zero, abs_of_nonneg (Decimal.value_nonneg _)] at nearest
    have least : (2 : ℚ) ^ (-1074 : Int) ≤ double.magnitude := by
      rw [magnitude, ← one_mul ((2 : ℚ) ^ (-1074 : Int))]
      exact mul_le_mul (Nat.one_le_cast.mpr (Nat.pos_of_ne_zero nonzero))
        (zpow_le_zpow_right₀ (by norm_num) double.exponent_mem.1) (zpow_nonneg (by norm_num) _)
        (Nat.cast_nonneg _)
    have half : (2 : ℚ) ^ (-1074 : Int) = 2 ^ (-1075 : Int) * 2 :=
      (zpow_add_one₀ two_ne_zero (-1075))
    have ten : (10 : ℚ) ^ (-1075 : Int) ≤ 2 ^ (-1075 : Int) := by
      rw [zpow_neg, zpow_neg]
      exact inv_anti₀ (zpow_pos (by norm_num) _)
        (zpow_le_zpow_left₀ (by norm_num) (by norm_num) (by norm_num))
    obtain ⟨below, _⟩ := abs_le.mp nearest
    obtain ⟨_, above⟩ := abs_le.mp nearest
    linarith
  omega

/-- Only three doubles of either sign are not below the third but last. -/
theorem magnitude_lt_of_not_last {double : Double}
    (notLast : ¬ (double.exponent = 971 ∧ 2 ^ 53 - 3 ≤ double.mantissa)) :
    double.magnitude < (2 ^ 53 - 3) * 2 ^ (971 : Int) := by
  have range := double.exponent_mem
  have bound := double.mantissa_lt
  have unit : (0 : ℚ) < 2 ^ (970 : Int) := zpow_pos (by norm_num) _
  have next : (2 : ℚ) ^ (971 : Int) = 2 ^ (970 : Int) * 2 := zpow_add_one₀ two_ne_zero 970
  rw [magnitude]
  rcases Int.lt_or_le double.exponent 971 with small | large
  · calc (double.mantissa : ℚ) * 2 ^ double.exponent
        ≤ 2 ^ 53 * 2 ^ (970 : Int) :=
          mul_le_mul (by exact_mod_cast bound.le)
            (zpow_le_zpow_right₀ (by norm_num) (by omega)) (zpow_nonneg (by norm_num) _)
            (by norm_num)
      _ < (2 ^ 53 - 3) * 2 ^ (971 : Int) := by
          rw [next, ← mul_assoc, mul_right_comm]
          exact mul_lt_mul_of_pos_right (by norm_num) unit
  · have same : double.exponent = 971 := by omega
    have less : double.mantissa + 3 < 2 ^ 53 := by omega
    have less : (double.mantissa : ℚ) + 3 < 2 ^ 53 := by exact_mod_cast less
    rw [same]
    exact mul_lt_mul_of_pos_right (lt_sub_iff_add_lt.mpr less) (zpow_pos (by norm_num) _)

/-- The shortest decimal is not above the next double. -/
theorem shortest_value_le {double other : Double} (less : double.magnitude < other.magnitude) :
    (double.shortest .toEven).value ≤ other.magnitude := by
  obtain ⟨_, rounds⟩ := ofDecimal?_roundsTo (ofDecimal?_shortest .toEven double)
  by_contra beyond
  have beyond := not_le.mp beyond
  have nearest := rounds.nearest other
  rw [abs_of_pos (sub_pos.mpr (less.trans beyond)), abs_of_pos (sub_pos.mpr beyond)] at nearest
  linarith

end Double

namespace Json.Number

/-- The literal of every double is read as a double. -/
theorem exists_double?_literal (double : Double) :
    ∃ other, (literal (.double double)).double? = some other := by
  -- The three last doubles are looked up. Each of the others has its shortest decimal below them.
  have last : ∀ negative : Bool, ∀ less < 3,
      (Double.ofParts? negative (2 ^ 53 - 1 - less) 971).all (fun double =>
        (literal (.double double)).double?.isSome) = true := by decide +kernel
  by_cases isLast : double.exponent = 971 ∧ 2 ^ 53 - 3 ≤ double.mantissa
  · have bound := double.mantissa_lt
    have found := last double.negative (2 ^ 53 - 1 - double.mantissa) (by omega)
    have parts : Double.ofParts? double.negative (2 ^ 53 - 1 - (2 ^ 53 - 1 - double.mantissa)) 971 =
        some double := by
      have same : 2 ^ 53 - 1 - (2 ^ 53 - 1 - double.mantissa) = double.mantissa := by omega
      rw [same, ← isLast.1]
      exact dif_pos ⟨bound, double.exponent_mem, double.canonical⟩
    rw [parts, Option.all_some] at found
    exact Option.isSome_iff_exists.mp found
  · obtain ⟨third, isThird⟩ :
        ∃ third : Double, third.magnitude = (2 ^ 53 - 3) * 2 ^ (971 : Int) := by
      refine ⟨⟨false, 2 ^ 53 - 3, 971, by decide, by decide, by decide⟩, ?_⟩
      rw [Double.magnitude, Nat.cast_sub (by decide), Nat.cast_pow, Nat.cast_ofNat, Nat.cast_ofNat]
    have less : double.magnitude < third.magnitude := by
      rw [isThird]
      exact double.magnitude_lt_of_not_last isLast
    have short : ((literal (.double double)).exponent.getD 0).natAbs < 2 ^ 31 := by
      simp only [literal]
      split
      case isTrue => exact Nat.two_pow_pos 31
      case isFalse outside =>
        exact Double.shortest_magnitude_lt fun isZero => outside (.inl isZero)
    refine Literal.exists_double? short ?_
    rw [literal_value, ← isThird]
    exact Double.shortest_value_le less

/-- The number that the text of a number is read as: an integer is itself, a double is rounded. -/
def reread : Number → Number
  | .integer value bounded => .integer value bounded
  | .double value => .double ((literal (.double value)).double?.getD value)

theorem ofLiteral?_literal (number : Number) :
    ofLiteral? number.literal = some number.reread := by
  cases number with
  | integer value bounded =>
    have digits : (literal (.integer value bounded)).magnitude = ⟨value.natAbs, 0⟩ := by
      simp [literal, Literal.magnitude, Decimal.ofDigits_natText]
    simp only [ofLiteral?, digits, reread]
    by_cases negative : value < 0
    · have nonzero : value.natAbs ≠ 0 := by omega
      rw [Int.ofNat_natAbs_of_nonpos negative.le, Int.neg_neg, ofInt?_eq bounded]
      simp [literal, Literal.isWhole, negative, nonzero]
    · rw [Int.natAbs_of_nonneg (Int.not_lt.mp negative), ofInt?_eq bounded]
      simp [literal, Literal.isWhole, negative]
  | double value =>
    obtain ⟨other, read⟩ := exists_double?_literal value
    rw [ofLiteral?_of_not_isWhole (literal_not_isWhole value), reread, read]
    rfl

/-- A double whose literal has few digits and a small power is read as itself. -/
theorem reread_of_roundsOnce {double : Double} (once : (literal (.double double)).RoundsOnce) :
    reread (.double double) = .double double := by
  have read : (literal (.double double)).double? = some double := by
    rw [Literal.double?_of_roundsOnce once, literal_negative,
      Double.ofDecimal?_congr _ (literal_value double), Double.ofDecimal?_shortest]
  rw [reread, read, Option.getD_some]

end Json.Number

namespace Json

/-- The text of a number is read up to what does not go on with a number. -/
theorem readNumber_text_append (number : Number) {rest : Text} (ends : EndsNumber rest) :
    readNumber (number.text ++ rest) = some (number.reread, rest) := by
  rw [number.text_eq_literal_text, readNumber,
    readLiteral_append number.literal_wellFormed ends]
  simp [number.ofLiteral?_literal]

/-! ### The characters of numbers -/

/-- Whether a character may stand in a number. -/
def isNumberCharacter (character : Char) : Bool :=
  character.isDigit || ['-', '+', '.', 'e'].contains character

theorem isNumberCharacter_of_isDigit {character : Char} (digit : character.isDigit = true) :
    isNumberCharacter character = true := by
  rw [isNumberCharacter, digit, Bool.true_or]

namespace Literal

variable {literal : Literal}

theorem isNumberCharacter_of_mem_text (wellFormed : literal.WellFormed) {character : Char}
    (member : character ∈ literal.text) : isNumberCharacter character = true := by
  rw [text, List.mem_append, List.mem_append, List.mem_append] at member
  rcases member with sign | whole | fraction | exponent
  · split at sign
    case isTrue =>
      rw [List.mem_singleton.mp sign]
      rfl
    case isFalse => simp at sign
  · exact isNumberCharacter_of_isDigit (wellFormed.whole_isDigit character whole)
  · cases written : literal.fraction with
    | none => simp [written, fractionText] at fraction
    | some digits =>
      rw [written, fractionText, List.mem_cons] at fraction
      cases fraction with
      | inl point =>
        rw [point]
        rfl
      | inr digit =>
        have digits := (wellFormed.fraction_isDigit digits written).2
        exact isNumberCharacter_of_isDigit (digits character digit)
  · cases written : literal.exponent with
    | none => simp [written, exponentText] at exponent
    | some power =>
      rw [written, exponentText, List.mem_cons, List.mem_cons] at exponent
      rcases exponent with mark | sign | digit
      · rw [mark]
        rfl
      · rw [sign]
        split <;> rfl
      · exact isNumberCharacter_of_isDigit (Decimal.isDigit_of_mem_natText digit)

theorem text_starts (wellFormed : literal.WellFormed) :
    ∃ first others, literal.text = first :: others ∧ (first.isDigit = true ∨ first = '-') := by
  obtain ⟨negative, whole, fraction, exponent⟩ := literal
  cases negative with
  | true => exact ⟨'-', _, rfl, .inr rfl⟩
  | false =>
    cases whole with
    | nil => exact absurd wellFormed.whole_head? (by simp)
    | cons first others =>
      exact ⟨first, _, rfl, .inl (wellFormed.whole_isDigit first List.mem_cons_self)⟩

end Literal

namespace Number

theorem isNumberCharacter_of_mem_text {number : Number} {character : Char}
    (member : character ∈ number.text) : isNumberCharacter character = true := by
  rw [number.text_eq_literal_text] at member
  exact Literal.isNumberCharacter_of_mem_text number.literal_wellFormed member

theorem isNumberCharacter_of_mem_plainText {number : Number} {character : Char}
    (member : character ∈ number.plainText) : isNumberCharacter character = true := by
  cases number with
  | integer value bounded =>
    have same : plainText (.integer value bounded) = text (.integer value bounded) := rfl
    rw [same] at member
    exact isNumberCharacter_of_mem_text member
  | double value =>
    have digit (side : character ∈ (value.shortest .upward).positional.1 ++
        (value.shortest .upward).positional.2) : isNumberCharacter character = true :=
      isNumberCharacter_of_isDigit (Decimal.isDigit_of_mem_positional side)
    simp only [plainText, List.mem_append] at member
    rcases member with (sign | whole) | fraction
    · split at sign
      · rw [List.mem_singleton.mp sign]
        rfl
      · exact absurd sign List.not_mem_nil
    · exact digit (List.mem_append_left _ whole)
    · split at fraction
      · exact absurd fraction List.not_mem_nil
      · rcases List.mem_cons.mp fraction with rfl | behind
        · rfl
        · exact digit (List.mem_append_right _ behind)

/-- A number starts with a digit or a minus sign. -/
theorem text_starts (number : Number) :
    ∃ first others, number.text = first :: others ∧ (first.isDigit = true ∨ first = '-') := by
  rw [number.text_eq_literal_text]
  exact Literal.text_starts number.literal_wellFormed

end Number

end Json

end Stencil
