/-
Decimal numbers: a natural number of digits scaled by a power of ten. Literals are read into them
and shortest texts are laid out from them.
-/

import Stencil.Text.Basic

-- Powers of numbers are the core ones in every module, also where an algebra library is in scope.
attribute [instance (2000)] instPowNat instNatPowNat Int.instNatPow
attribute [default_instance 20000] instPowNat

namespace Stencil

/-- The number `digits * 10 ^ exponent`. -/
structure Decimal where
  digits : Nat
  exponent : Int
deriving DecidableEq, Repr

namespace Decimal

/-- The natural number that a row of decimal digits spells. -/
def ofDigits (digits : Text) : Nat :=
  digits.foldl (fun value digit => 10 * value + (digit.toNat - '0'.toNat)) 0

/-- The decimal digits of a natural number, `0` for zero. -/
def natText (value : Nat) : Text :=
  Nat.toDigits 10 value

/-- The decimal digits of an integer, a minus sign before a negative one. -/
def intText (value : Int) : Text :=
  if value < 0 then '-' :: natText value.natAbs else natText value.natAbs

/-- Moves zeros from the end of the digits into the exponent; `fuel` bounds how many. -/
def stripZeros : (fuel : Nat) → Decimal → Decimal
  | 0, decimal => decimal
  | fuel + 1, decimal =>
    if decimal.digits % 10 = 0 ∧ decimal.digits ≠ 0 then
      stripZeros fuel ⟨decimal.digits / 10, decimal.exponent + 1⟩
    else
      decimal

/-- The same number with no zero at the end of its digits. -/
def normalize (decimal : Decimal) : Decimal :=
  stripZeros decimal.digits.log2 decimal

/-! ### Layout -/

/-- The digits before and after the decimal point, at least one before it. -/
def positional (decimal : Decimal) : Text × Text :=
  let digits := natText decimal.digits
  if 0 ≤ decimal.exponent then
    (digits ++ List.replicate decimal.exponent.toNat '0', [])
  else
    let places := (-decimal.exponent).toNat
    if places < digits.length then
      (digits.take (digits.length - places), digits.drop (digits.length - places))
    else
      (['0'], List.replicate (places - digits.length) '0' ++ digits)

/-- The power of ten of the first digit. -/
def magnitude (decimal : Decimal) : Int :=
  decimal.exponent + (natText decimal.digits).length - 1

end Decimal

end Stencil
