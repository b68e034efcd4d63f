/-
This file proves what the guard on numbers is worth. A text that becomes a number while big numbers
are refused is a literal, and the number is an integer that every reader of doubles holds exactly.
It is what the literal is read as, which is the literal up to one part in `2 ^ 51`. Where reading
rounds but once it is the nearest double, so it is the literal's own value if that is an integer,
and every safe integer that such a literal may stand for, however it is written, is accepted as it
is. All other literals stay the texts that they are.

The guard tests the number after it has been rounded. A literal that is no integer but that is read
as one is accepted as the integer.
-/

import Stencil.Proofs.BracketedText
import Stencil.Proofs.JsonGrammar
import Stencil.Proofs.NumberWords
import Stencil.Proofs.ReadLiterals

namespace Stencil

theorem Double.isIntegerWithin_iff (double : Double) (limit : Nat) :
    double.isIntegerWithin limit = true ↔
      ∃ integer : Nat, double.magnitude = integer ∧ integer ≤ limit := by
  have positive := double.ratio_denominator_pos
  have unit : (double.ratio.2 : ℚ) ≠ 0 := Nat.cast_ne_zero.mpr positive.ne'
  rw [isIntegerWithin, ← double.ratio_eq_magnitude, Bool.and_eq_true, beq_iff_eq,
    decide_eq_true_iff]
  constructor
  · rintro ⟨divides, within⟩
    refine ⟨_, ?_, within⟩
    rw [div_eq_iff unit]
    exact_mod_cast (Nat.div_mul_cancel (Nat.dvd_of_mod_eq_zero divides)).symm
  · rintro ⟨integer, same, within⟩
    rw [div_eq_iff unit] at same
    have same : double.ratio.1 = integer * double.ratio.2 := by exact_mod_cast same
    rw [same, Nat.mul_mod_left, Nat.mul_div_cancel _ positive]
    exact ⟨rfl, within⟩

namespace Json

/-! ### Values of literals and numbers -/

/-- The number that a literal stands for. -/
def Literal.value (literal : Literal) : ℚ :=
  signed literal.negative literal.magnitude.value

/-- The number that a number of a document stands for. -/
def Number.value : Number → ℚ
  | .integer value _ => value
  | .double value => value.value

/-- The literal that a text is, with nothing but blanks of documents around it. -/
def literal? (text : Text) : Option Literal :=
  match readLiteral (skipSpace text) with
  | some (literal, rest) => if (skipSpace rest).isEmpty then some literal else none
  | none => none

/-- An integer that every reader of doubles holds exactly. -/
def IsSafe (value : ℚ) : Prop :=
  ∃ integer : Int, value = integer ∧ integer.natAbs ≤ 2 ^ 53 - 1

theorem isSafe_signed_iff (negative : Bool) {magnitude : ℚ} (nonnegative : 0 ≤ magnitude) :
    IsSafe (signed negative magnitude) ↔
      ∃ integer : Nat, magnitude = integer ∧ integer ≤ 2 ^ 53 - 1 := by
  constructor
  · rintro ⟨integer, same, bounded⟩
    refine ⟨integer.natAbs, ?_, bounded⟩
    rw [← abs_of_nonneg nonnegative, ← abs_signed negative, same, Nat.cast_natAbs, Int.cast_abs]
  · rintro ⟨integer, rfl, bounded⟩
    cases negative with
    | false => exact ⟨integer, by simp [signed], by simpa using bounded⟩
    | true => exact ⟨-integer, by simp [signed], by simpa using bounded⟩

theorem IsSafe.abs_le {value : ℚ} (safe : IsSafe value) : |value| ≤ 2 ^ 53 - 1 := by
  obtain ⟨integer, same, within⟩ := safe
  rw [same, ← Int.cast_abs, ← Nat.cast_natAbs, le_sub_iff_add_le]
  exact_mod_cast (by omega : integer.natAbs + 1 ≤ 2 ^ 53)

/-- The guard accepts a number if and only if it is safe. -/
theorem Number.isSafeInteger_iff (number : Number) :
    number.isSafeInteger = true ↔ IsSafe number.value := by
  cases number with
  | integer value bounded =>
    rw [isSafeInteger_integer, decide_eq_true_iff, maxSafeInteger, Number.value]
    constructor
    · exact fun within => ⟨value, rfl, within⟩
    · rintro ⟨integer, same, within⟩
      rwa [Int.cast_injective same]
  | double value =>
    rw [Number.value, Double.value, isSafe_signed_iff _ value.magnitude_nonneg,
      isSafeInteger_double, value.isIntegerWithin_iff]
    rfl

/-! ### Documents that are numbers -/

theorem head_of_readLiteral {head : Char} {tail rest : Text} {literal : Literal}
    (done : readLiteral (head :: tail) = some (literal, rest)) :
    head = '-' ∨ head.isDigit = true := by
  obtain ⟨_, _, same, starts⟩ := exists_head_of_numeral (numeral_of_readLiteral done)
  rwa [(List.cons.inj same).1]

/-- A text that starts with a literal is read as the number that the literal stands for. -/
theorem readBody_of_readLiteral {depth : Nat} {text rest : Text} {literal : Literal}
    (done : readLiteral text = some (literal, rest)) :
    readBody depth text =
      (Number.ofLiteral? literal).map fun number => (Json.number number, rest) := by
  have number : readNumber text = (Number.ofLiteral? literal).map fun number => (number, rest) := by
    rw [readNumber, done, Option.bind_eq_bind, Option.bind_some]
    exact Option.map_eq_bind.symm
  cases text with
  | nil => cases done
  | cons head tail =>
    have starts := head_of_readLiteral done
    rw [readBody, number, Option.map_map]
    · rfl
    all_goals
      rintro _ same
      rw [(List.cons.inj same).1] at starts
      rcases starts with minus | digit
      · exact absurd minus (by decide)
      · exact absurd digit (by decide)

theorem parse?_of_literal? {text : Text} {literal : Literal}
    (found : literal? text = some literal) :
    parse? text = (Number.ofLiteral? literal).map Json.number := by
  unfold literal? at found
  split at found
  case h_2 => cases found
  rename_i whole rest done
  split at found
  case isFalse => cases found
  rename_i blank
  cases found
  rw [parse?, read?, readWithin?, readValue_eq, readBody_of_readLiteral done]
  cases Number.ofLiteral? literal with
  | none => rfl
  | some number =>
    dsimp only [Option.map_some]
    rw [if_pos blank]
    rfl

/-- Only a number is read as a number. -/
theorem readNumber_of_readBody {depth : Nat} {text rest : Text} {number : Number}
    (done : readBody depth text = some (.number number, rest)) :
    readNumber text = some (number, rest) := by
  have notComposite : (Json.number number).isComposite ≠ true := Bool.false_ne_true
  unfold readBody at done
  split at done
  · obtain ⟨_, _, same⟩ := Option.map_eq_some_iff.mp done
    cases same
  · split at done
    · cases done
    · exact absurd (isComposite_of_readArray done) notComposite
  · split at done
    · cases done
    · exact absurd (isComposite_of_readObject done) notComposite
  · obtain ⟨_, _, same⟩ := Option.map_eq_some_iff.mp done
    cases same
  · obtain ⟨_, _, same⟩ := Option.map_eq_some_iff.mp done
    cases same
  · obtain ⟨_, _, same⟩ := Option.map_eq_some_iff.mp done
    cases same
  · obtain ⟨_, reads, same⟩ := Option.map_eq_some_iff.mp done
    cases same
    exact reads

theorem literal?_of_parse? {text : Text} {number : Number}
    (parsed : parse? text = some (.number number)) :
    ∃ literal, literal? text = some literal ∧ Number.ofLiteral? literal = some number := by
  obtain ⟨written, read, same⟩ := Option.map_eq_some_iff.mp parsed
  cases written <;> cases same
  unfold read? readWithin? at read
  split at read
  case h_2 => cases read
  rename_i value rest done
  split at read
  case isFalse => cases read
  rename_i blank
  cases read
  rw [readValue_eq] at done
  obtain ⟨⟨literal, behind⟩, reads, made⟩ :=
    Option.bind_eq_some_iff.mp (readNumber_of_readBody done)
  obtain ⟨_, stands, same⟩ := Option.bind_eq_some_iff.mp made
  cases same
  refine ⟨literal, ?_, stands⟩
  rw [literal?, reads]
  exact if_pos blank

/-- The literal of a text is written in digits. -/
theorem inDigits_of_literal? {text : Text} {literal : Literal}
    (found : literal? text = some literal) : literal.InDigits := by
  unfold literal? at found
  split at found
  case h_2 => cases found
  rename_i _ rest done
  split at found
  case isFalse => cases found
  cases found
  cases numeral_of_readLiteral done with
  | parts sign front point power =>
    refine ⟨front.spelled.areDigits, ?_⟩
    cases point with
    | absent => exact List.forall_mem_nil _
    | point digits => exact digits.areDigits

/-! ### Numbers of literals -/

theorem Number.value_of_ofInt? {value : Int} {number : Number}
    (made : ofInt? value = some number) : number.value = value := by
  unfold ofInt? at made
  split at made
  · cases made
    rfl
  · cases made

theorem Literal.isWhole_iff {literal : Literal} :
    literal.isWhole = true ↔ literal.fraction = none ∧ literal.exponent = none := by
  rw [isWhole, Bool.and_eq_true, Option.isNone_iff_eq_none, Option.isNone_iff_eq_none]

theorem Literal.value_of_isWhole {literal : Literal} (whole : literal.isWhole = true) :
    literal.value = signed literal.negative literal.magnitude.digits := by
  obtain ⟨noFraction, noExponent⟩ := isWhole_iff.mp whole
  rw [value, Decimal.value, magnitude, noFraction, noExponent]
  exact congrArg _ (mul_one _)

/-- A literal is the integer that it writes or the double that it is read as. A whole literal is a
double only if it is zero or too large. -/
theorem Number.ofLiteral?_cases (literal : Literal) :
    (∃ number, ofLiteral? literal = some number ∧ number.value = literal.value) ∨
      ofLiteral? literal = literal.double?.map .double ∧
        (literal.isWhole = true →
          literal.magnitude.digits = 0 ∨ 2 ^ 63 ≤ literal.magnitude.digits) := by
  cases whole : literal.isWhole with
  | false => exact .inr ⟨ofLiteral?_of_not_isWhole whole, fun same => absurd same (by decide)⟩
  | true =>
    have value := Literal.value_of_isWhole whole
    unfold ofLiteral?
    rw [whole]
    dsimp only
    split
    case h_1 number made =>
      refine .inl ⟨number, rfl, ?_⟩
      rw [value]
      cases sign : literal.negative with
      | false =>
        simp only [sign, Bool.not_true, Bool.not_false, Bool.false_eq_true, if_false, if_true]
          at made
        rw [value_of_ofInt? made]
        exact Int.cast_natCast _
      | true =>
        simp only [sign, Bool.not_true, Bool.false_eq_true, if_false] at made
        split at made
        · cases made
        · rw [value_of_ofInt? made, Int.cast_neg, Int.cast_natCast]
          rfl
    case h_2 refused =>
      refine .inr ⟨rfl, fun _ => ?_⟩
      have unfit {integer : Int} (none : ofInt? integer = none) :
          ¬ (-2 ^ 63 ≤ integer ∧ integer < 2 ^ 64) := fun bounded => by
        rw [ofInt?_eq bounded] at none
        cases none
      cases sign : literal.negative with
      | false =>
        simp only [sign, Bool.not_true, Bool.not_false, Bool.false_eq_true, if_false, if_true]
          at refused
        have beyond := unfit refused
        omega
      | true =>
        simp only [sign, Bool.not_true, Bool.false_eq_true, if_false] at refused
        split at refused
        · exact .inl ‹_›
        · have beyond := unfit refused
          omega

/-- The double of a literal has the sign of the literal. -/
theorem Number.value_of_double? {literal : Literal} {double : Double}
    (short : (literal.exponent.getD 0).natAbs < 2 ^ 31) (read : literal.double? = some double) :
    (Number.double double).value = signed literal.negative double.magnitude := by
  rw [value, Double.value, Literal.double?_sign short read]

/-! ### Literals that are read exactly -/

section

variable {literal : Literal} {number : Number}

theorem Literal.short_of_isWhole (whole : literal.isWhole = true) :
    (literal.exponent.getD 0).natAbs < 2 ^ 31 := by
  rw [(isWhole_iff.mp whole).2]
  exact Nat.two_pow_pos 31

theorem Literal.roundsOnce_of_zero (whole : literal.isWhole = true)
    (isZero : literal.magnitude.digits = 0) : literal.RoundsOnce := by
  refine ⟨isZero.trans_le (Nat.zero_le _), ?_, short_of_isWhole whole⟩
  rw [magnitude, (isWhole_iff.mp whole).1, (isWhole_iff.mp whole).2]
  exact Nat.zero_le _

/-- A literal that is rounded once is its own value or the double that its decimal is read as. -/
theorem Number.ofLiteral?_of_roundsOnce (once : literal.RoundsOnce) :
    (∃ number, ofLiteral? literal = some number ∧ number.value = literal.value) ∨
      ofLiteral? literal = (Double.ofDecimal? literal.negative literal.magnitude).map .double := by
  rw [← Literal.double?_of_roundsOnce once]
  exact (ofLiteral?_cases literal).imp_right And.left

theorem Number.ofLiteral?_nearest (once : literal.RoundsOnce)
    (made : ofLiteral? literal = some number) (other : Double) :
    |literal.value - number.value| ≤ |literal.value - other.value| := by
  rcases ofLiteral?_of_roundsOnce once with ⟨exactly, same, value⟩ | rounded
  · obtain rfl := Option.some.inj (made.symm.trans same)
    rw [value, sub_self, abs_zero]
    exact abs_nonneg _
  · rw [rounded] at made
    obtain ⟨double, read, rfl⟩ := Option.map_eq_some_iff.mp made
    exact Double.ofDecimal?_nearest read other

theorem Number.ofLiteral?_safe_of_roundsOnce (once : literal.RoundsOnce)
    (safe : IsSafe literal.value) :
    ∃ number, ofLiteral? literal = some number ∧ number.value = literal.value := by
  rcases ofLiteral?_of_roundsOnce once with exactly | rounded
  · exact exactly
  · obtain ⟨integer, same, bounded⟩ :=
      (isSafe_signed_iff _ literal.magnitude.value_nonneg).mp safe
    obtain ⟨double, read, value⟩ :=
      Double.ofDecimal?_integer literal.negative (bounded.trans (Nat.sub_le _ _)) same
    exact ⟨.double double, by rw [rounded, read]; rfl, value⟩

/-- A literal that stands for an integer is not rounded to a safe one, unless it stands for it. -/
theorem Number.value_eq_of_integer (once : literal.RoundsOnce) {integer : Int}
    (made : ofLiteral? literal = some number) (safe : IsSafe number.value)
    (same : literal.value = integer) : number.value = literal.value := by
  by_cases bounded : integer.natAbs ≤ 2 ^ 53 - 1
  · obtain ⟨other, madeToo, value⟩ := ofLiteral?_safe_of_roundsOnce once ⟨integer, same, bounded⟩
    rwa [Option.some.inj (made.symm.trans madeToo)]
  · -- then the double one beyond the safe ones would be nearer
    obtain ⟨beyond, sign, magnitude⟩ :=
      Double.exists_double_of_nat literal.negative (Nat.le_refl (2 ^ 53))
    have nearest := ofLiteral?_nearest once made beyond
    have size : |literal.value| = (integer.natAbs : ℚ) := by
      rw [same, Nat.cast_natAbs, Int.cast_abs]
    have outer : (2 ^ 53 : ℚ) ≤ integer.natAbs := by
      exact_mod_cast (by omega : 2 ^ 53 ≤ integer.natAbs)
    have distance : |literal.value - beyond.value| = integer.natAbs - 2 ^ 53 := by
      rw [Literal.value, abs_signed, abs_of_nonneg literal.magnitude.value_nonneg] at size
      rw [Literal.value, Double.value, sign, abs_signed_sub, size, magnitude, Nat.cast_pow,
        Nat.cast_ofNat]
      exact abs_of_nonneg (sub_nonneg.mpr outer)
    have inner : |number.value| ≤ 2 ^ 53 - 1 := safe.abs_le
    have apart : |literal.value| - |number.value| ≤ |literal.value - number.value| :=
      abs_sub_abs_le_abs_sub _ _
    rw [distance] at nearest
    rw [size] at apart
    linarith

/-! ### What a safe number loses -/

/-- A safe number is the literal up to one part in `2 ^ 51`, or the literal is all but zero. -/
theorem Number.ofLiteral?_error (inDigits : literal.InDigits)
    (short : (literal.exponent.getD 0).natAbs < 2 ^ 31) (made : ofLiteral? literal = some number)
    (safe : IsSafe number.value) :
    |literal.value - number.value| ≤ max (|literal.value| / 2 ^ 51) (10 ^ (-280 : Int)) := by
  rcases ofLiteral?_cases literal with ⟨exactly, same, value⟩ | ⟨rounded, _⟩
  · obtain rfl := Option.some.inj (made.symm.trans same)
    rw [value, sub_self, abs_zero]
    exact le_max_of_le_right (zpow_nonneg (by norm_num) _)
  · rw [rounded] at made
    obtain ⟨double, read, rfl⟩ := Option.map_eq_some_iff.mp made
    have nonnegative := literal.magnitude.value_nonneg
    rw [value_of_double? short read] at safe ⊢
    rw [Literal.value, abs_signed_sub, abs_signed, abs_of_nonneg nonnegative]
    obtain ⟨integer, same, _⟩ := (isSafe_signed_iff _ double.magnitude_nonneg).mp safe
    rcases Nat.eq_zero_or_pos integer with rfl | positive
    · rw [Nat.cast_zero] at same
      have tiny := Literal.value_lt_of_double?_zero inDigits short read same
      rw [same, sub_zero, abs_of_nonneg nonnegative]
      exact le_max_of_le_right tiny.le
    · exact le_max_of_le_left (Literal.double?_error inDigits read
        (same ▸ Nat.one_le_cast.mpr positive))

/-- A whole literal is read as a safe number only if it is the number's value. -/
theorem Number.value_eq_of_isWhole (inDigits : literal.InDigits) (whole : literal.isWhole = true)
    (made : ofLiteral? literal = some number) (safe : IsSafe number.value) :
    number.value = literal.value := by
  rcases ofLiteral?_cases literal with ⟨exactly, same, value⟩ | ⟨_, zeroOrLarge⟩
  · rwa [Option.some.inj (made.symm.trans same)]
  have integral := Literal.value_of_isWhole whole
  rcases zeroOrLarge whole with isZero | large
  · have once := Literal.roundsOnce_of_zero whole isZero
    have isZero : literal.value = (0 : Int) := by
      rw [integral, isZero]
      cases literal.negative <;> simp [signed]
    exact value_eq_of_integer once made safe isZero
  · have size : (2 : ℚ) ^ 63 ≤ |literal.value| := by
      rw [integral, abs_signed, Nat.abs_cast]
      exact_mod_cast large
    have error := ofLiteral?_error inDigits (Literal.short_of_isWhole whole) made safe
    have tiny : (10 : ℚ) ^ (-280 : Int) ≤ |literal.value| / 2 ^ 51 :=
      (zpow_le_one_of_nonpos₀ (by norm_num) (by norm_num)).trans (by linarith)
    rw [max_eq_left tiny] at error
    have inner : |number.value| ≤ 2 ^ 53 - 1 := safe.abs_le
    have apart : |literal.value| - |number.value| ≤ |literal.value - number.value| :=
      abs_sub_abs_le_abs_sub _ _
    linarith

theorem Number.ofLiteral?_safe_of_isWhole (whole : literal.isWhole = true)
    (safe : IsSafe literal.value) :
    ∃ number, ofLiteral? literal = some number ∧ number.value = literal.value := by
  rcases ofLiteral?_cases literal with exactly | ⟨_, zeroOrLarge⟩
  · exact exactly
  rcases zeroOrLarge whole with isZero | large
  · exact ofLiteral?_safe_of_roundsOnce (Literal.roundsOnce_of_zero whole isZero) safe
  · have bounded : |literal.value| ≤ 2 ^ 53 - 1 := safe.abs_le
    rw [Literal.value_of_isWhole whole, abs_signed, Nat.abs_cast] at bounded
    have size : (2 : ℚ) ^ 63 ≤ literal.magnitude.digits := by exact_mod_cast large
    linarith

end

end Json

namespace Coercion

/-- A text that is a number is coerced to it if it is safe. -/
theorem coerce_of_parse? {text : Text} {number : Json.Number}
    (parsed : Json.parse? text = some (.number number)) :
    coerce true false text = if number.isSafeInteger then .number number else .string text := by
  have read : Json.parseGuarded text = .ok (.number number) := by
    rw [Json.parseGuarded, parsed]
    rfl
  rw [coerce, classify_of_read read, isBigNumber]
  cases number.isSafeInteger <;> rfl

theorem coerce_of_parse?_none {text : Text} (malformed : Json.parse? text = none) :
    coerce true false text = .string text := by
  have refused : Json.parseGuarded text = .error .malformed := by
    rw [Json.parseGuarded, malformed]
  rw [coerce, classify, refused]
  rfl

theorem parse?_of_parseGuarded {text : Text} {value : Json}
    (accepted : Json.parseGuarded text = .ok value) : Json.parse? text = some value := by
  unfold Json.parseGuarded at accepted
  split at accepted
  · cases accepted
  · split at accepted
    · cases accepted
    · cases accepted
      assumption

/-- Where big numbers are refused, a number comes out if the text is one that is safe. -/
theorem coerce_eq_number_iff {text : Text} {number : Json.Number} :
    coerce true false text = .number number ↔
      Json.parse? text = some (.number number) ∧ number.isSafeInteger = true := by
  constructor
  · intro accepted
    cases read : Json.parseGuarded text with
    | error refused =>
      rw [coerce, classify, read] at accepted
      cases accepted
    | ok value =>
      have parsed := parse?_of_parseGuarded read
      rw [coerce, classify_of_read read] at accepted
      cases big : isBigNumber value with
      | true =>
        rw [big] at accepted
        cases accepted
      | false =>
        rw [big] at accepted
        obtain rfl : value = .number number := accepted
        rw [isBigNumber, Bool.not_eq_false'] at big
        exact ⟨parsed, big⟩
  · rintro ⟨parsed, safe⟩
    rw [coerce_of_parse? parsed, if_pos safe]

/-- Where big numbers are refused, a text that becomes a number is a literal, and the number is what
the literal is read as: an integer that every reader of doubles holds exactly, and off from the
literal by one part in `2 ^ 51` at most, unless the literal is all but zero. If the literal is whole
or rounded only once, no double is nearer to it, so the number is the literal's value exactly if
that is an integer, and every such integer is accepted with this value. A literal that is not
accepted stays text. -/
theorem number_guard (text : Text) :
    (∀ number, coerce true false text = .number number →
      ∃ literal, Json.literal? text = some literal ∧
        Json.Number.ofLiteral? literal = some number ∧ Json.IsSafe number.value ∧
        ((literal.exponent.getD 0).natAbs < 2 ^ 31 →
          |literal.value - number.value| ≤ max (|literal.value| / 2 ^ 51) (10 ^ (-280 : Int))) ∧
        (literal.isWhole = true ∨ literal.RoundsOnce →
          (∀ other : Double, |literal.value - number.value| ≤ |literal.value - other.value|) ∧
          (number.value = literal.value ↔ ∃ integer : Int, literal.value = integer))) ∧
    ∀ literal, Json.literal? text = some literal →
      (literal.isWhole = true ∨ literal.RoundsOnce → Json.IsSafe literal.value →
        ∃ number, coerce true false text = .number number ∧ number.value = literal.value) ∧
      ((∀ number, coerce true false text ≠ .number number) →
        coerce true false text = .string text) := by
  constructor
  · intro number accepted
    obtain ⟨parsed, safe⟩ := coerce_eq_number_iff.mp accepted
    obtain ⟨literal, found, made⟩ := Json.literal?_of_parse? parsed
    have safe := number.isSafeInteger_iff.mp safe
    have inDigits := Json.inDigits_of_literal? found
    refine ⟨literal, found, made, safe, fun short => ?_, fun exactly => ⟨fun other => ?_, ?_, ?_⟩⟩
    · exact Json.Number.ofLiteral?_error inDigits short made safe
    · rcases exactly with whole | once
      · rw [Json.Number.value_eq_of_isWhole inDigits whole made safe, sub_self, abs_zero]
        exact abs_nonneg _
      · exact Json.Number.ofLiteral?_nearest once made other
    · intro same
      obtain ⟨integer, value, _⟩ := safe
      exact ⟨integer, same.symm.trans value⟩
    · rintro ⟨integer, same⟩
      rcases exactly with whole | once
      · exact Json.Number.value_eq_of_isWhole inDigits whole made safe
      · exact Json.Number.value_eq_of_integer once made safe same
  · intro literal found
    have parsed := Json.parse?_of_literal? found
    constructor
    · intro exactly safe
      obtain ⟨number, made, value⟩ := exactly.elim
        (Json.Number.ofLiteral?_safe_of_isWhole · safe)
        (Json.Number.ofLiteral?_safe_of_roundsOnce · safe)
      refine ⟨number, coerce_eq_number_iff.mpr ⟨?_, ?_⟩, value⟩
      · rw [parsed, made]
        rfl
      · rw [number.isSafeInteger_iff, value]
        exact safe
    · intro refused
      cases made : Json.Number.ofLiteral? literal with
      | none =>
        rw [made] at parsed
        exact coerce_of_parse?_none parsed
      | some number =>
        rw [made] at parsed
        refine (coerce_of_parse? parsed).trans (if_neg fun safe => ?_)
        exact refused number (coerce_eq_number_iff.mpr ⟨parsed, safe⟩)

/-- Nines behind the point are rounded up to the next integer before the guard sees the number, and
the text becomes a number that it does not stand for. -/
theorem number_guard_rounds :
    ¬ ∀ text number, coerce true false text = .number number →
      ∃ literal, Json.literal? text = some literal ∧ number.value = literal.value := by
  intro exactly
  have found : Json.literal? "0.99999999999999999999".toList =
      some ⟨false, ['0'], some "99999999999999999999".toList, none⟩ := by decide +kernel
  have made : Json.Number.ofLiteral? ⟨false, ['0'], some "99999999999999999999".toList, none⟩ =
      some (.double ⟨false, 2 ^ 52, -52, by decide, by decide, by decide⟩) := by decide +kernel
  have parsed := Json.parse?_of_literal? found
  rw [made] at parsed
  obtain ⟨literal, foundToo, same⟩ :=
    exactly _ _ (coerce_eq_number_iff.mpr ⟨parsed, by decide +kernel⟩)
  obtain rfl := Option.some.inj (found.symm.trans foundToo)
  have digits : Decimal.ofDigits "099999999999999999999".toList = 99999999999999999999 := by
    decide +kernel
  have same : (2 ^ 52 : Nat) * (2 : ℚ) ^ (-52 : Int) =
      (Decimal.ofDigits "099999999999999999999".toList : Nat) * (10 : ℚ) ^ (-20 : Int) := same
  rw [digits] at same
  norm_num at same

end Coercion

end Stencil
