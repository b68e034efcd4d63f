/-
Finite binary floating-point numbers of double precision, kept exactly: a sign, a mantissa of at
most 53 bits and a power of two. Each number has one representation, and reading a decimal rounds
the exact value once, to the nearest number, ties to the even mantissa.
-/

import Stencil.Number.Decimal

namespace Stencil

/-- The number `mantissa * 2 ^ exponent`, negated if `negative`. The mantissa has its top bit set
unless the exponent is the least one, so that no two representations are equal as numbers, save
for the two zeros. -/
structure Double where
  negative : Bool
  mantissa : Nat
  exponent : Int
  mantissa_lt : mantissa < 2 ^ 53
  exponent_mem : -1074 ≤ exponent ∧ exponent ≤ 971
  canonical : exponent = -1074 ∨ 2 ^ 52 ≤ mantissa
deriving DecidableEq

namespace Double

/-- Zero with the given sign. -/
def zero (negative : Bool) : Double :=
  ⟨negative, 0, -1074, by decide, by decide, .inl rfl⟩

/-- The number with the given parts, if they are canonical. -/
def ofParts? (negative : Bool) (mantissa : Nat) (exponent : Int) : Option Double :=
  if valid : mantissa < 2 ^ 53 ∧ (-1074 ≤ exponent ∧ exponent ≤ 971) ∧
      (exponent = -1074 ∨ 2 ^ 52 ≤ mantissa) then
    some ⟨negative, mantissa, exponent, valid.1, valid.2.1, valid.2.2⟩
  else
    none

/-- The natural number nearest to `numerator / denominator`, the even one of two. -/
def roundDiv (numerator denominator : Nat) : Nat :=
  let quotient := numerator / denominator
  let twice := 2 * (numerator % denominator)
  if twice < denominator ∨ (twice = denominator ∧ quotient % 2 = 0) then quotient
  else quotient + 1

/-- The exponent of the grid on which `numerator / denominator` is rounded: the one that gives the
quotient 53 bits, or the least there is. -/
def gridExponent (numerator denominator : Nat) : Int :=
  let estimate : Int := (numerator.log2 : Int) - denominator.log2
  let reached := if 0 ≤ estimate then denominator * 2 ^ estimate.toNat ≤ numerator
    else denominator ≤ numerator * 2 ^ (-estimate).toNat
  max (-1074) (if reached then estimate - 52 else estimate - 53)

/-- The number nearest to `numerator / denominator`, ties to even; none if it is too large to be
finite. -/
def ofRatio? (negative : Bool) (numerator denominator : Nat) : Option Double :=
  let exponent := gridExponent numerator denominator
  let mantissa :=
    if 0 ≤ exponent then roundDiv numerator (denominator * 2 ^ exponent.toNat)
    else roundDiv (numerator * 2 ^ (-exponent).toNat) denominator
  if mantissa = 2 ^ 53 then ofParts? negative (2 ^ 52) (exponent + 1)
  else ofParts? negative mantissa exponent

/-- The number nearest to a decimal, ties to even; none if it is too large to be finite. -/
def ofDecimal? (negative : Bool) (decimal : Decimal) : Option Double :=
  if decimal.digits = 0 then
    some (zero negative)
  else if 400 < decimal.exponent then
    none
  else if decimal.exponent < -(400 + (decimal.digits.log2 : Int)) then
    some (zero negative)
  else if 0 ≤ decimal.exponent then
    ofRatio? negative (decimal.digits * 10 ^ decimal.exponent.toNat) 1
  else
    ofRatio? negative decimal.digits (10 ^ (-decimal.exponent).toNat)

/-- The absolute value as a ratio of natural numbers. -/
def ratio (double : Double) : Nat × Nat :=
  if 0 ≤ double.exponent then (double.mantissa * 2 ^ double.exponent.toNat, 1)
  else (double.mantissa, 2 ^ (-double.exponent).toNat)

/-- Whether the number is an integer of absolute value at most `limit`. -/
def isIntegerWithin (limit : Nat) (double : Double) : Bool :=
  let (numerator, denominator) := double.ratio
  numerator % denominator == 0 && numerator / denominator ≤ limit

/-- Every digit of the absolute value. -/
def toDecimal (double : Double) : Decimal :=
  if 0 ≤ double.exponent then ⟨double.mantissa * 2 ^ double.exponent.toNat, 0⟩
  else ⟨double.mantissa * 5 ^ (-double.exponent).toNat, double.exponent⟩

end Double

end Stencil
