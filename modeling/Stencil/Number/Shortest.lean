/-
The shortest decimal that reads back as a given number. For one digit, two digits and so on, the
two decimals next to the value on that grid are tried; the first grid on which one of them reads
back gives the answer, the nearer of two, and a tie goes the way the caller says. Seventeen digits
always suffice; the exact value stands last, so that reading back holds by construction.
-/

import Stencil.Number.Double

namespace Stencil

/-- Which of two equally near decimals is written. -/
inductive TieRule where
  | toEven
  | upward
deriving DecidableEq, Repr

namespace Double

/-- Whether `10 ^ power` is at most the ratio. -/
def powerReached (numerator denominator : Nat) (power : Int) : Bool :=
  if 0 ≤ power then denominator * 10 ^ power.toNat ≤ numerator
  else denominator ≤ numerator * 10 ^ (-power).toNat

/-- The power of ten of the first digit of a number that is not zero. -/
def firstPower (double : Double) : Int :=
  let (numerator, denominator) := double.ratio
  let bits : Int := (numerator.log2 : Int) - denominator.log2
  -- 1233 / 4096 is the logarithm of two to the precision needed here
  let estimate := (bits * 1233) / 4096
  if powerReached numerator denominator (estimate + 1) then estimate + 1
  else if powerReached numerator denominator estimate then estimate
  else estimate - 1

/-- The decimal of the given last power next to the value and not above it, the one not below it,
and how the distances to them compare. -/
def neighbours (double : Double) (power : Int) : Decimal × Decimal × Ordering :=
  let (numerator, denominator) := double.ratio
  let (top, bottom) :=
    if 0 ≤ power then (numerator, denominator * 10 ^ power.toNat)
    else (numerator * 10 ^ (-power).toNat, denominator)
  let low := top / bottom
  (⟨low, power⟩, ⟨low + 1, power⟩, compare (2 * (top % bottom)) bottom)

/-- Whether the decimal reads back as the number. -/
def readsBack (double : Double) (decimal : Decimal) : Bool :=
  ofDecimal? double.negative decimal == some double

/-- The nearest decimal with the given last power that reads back. -/
def onGrid? (tie : TieRule) (double : Double) (power : Int) : Option Decimal :=
  let (low, high, distance) := double.neighbours power
  match double.readsBack low, double.readsBack high with
  | false, false => none
  | true, false => some low
  | false, true => some high
  | true, true =>
    match distance with
    | .lt => some low
    | .gt => some high
    | .eq =>
      match tie with
      | .upward => some high
      | .toEven => some (if low.digits % 2 = 0 then low else high)

/-- The decimal with the fewest digits that reads back as the absolute value of the number. -/
def shortest (tie : TieRule) (double : Double) : Decimal :=
  if double.mantissa = 0 then ⟨0, 0⟩
  else
    let first := double.firstPower
    let found := (List.range 17).findSome? fun (count : Nat) => double.onGrid? tie (first - count)
    (found.getD double.toDecimal).normalize

end Double

end Stencil
