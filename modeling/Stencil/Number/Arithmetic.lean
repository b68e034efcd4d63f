/-
Products and quotients of doubles, each rounded once to the nearest number, and what is made of
them: a number times a power of ten. The powers come from a table. What is smaller than the table
reaches is divided by its last entry as often as it takes, so it is rounded more than once.
-/

import Stencil.Number.Double

namespace Stencil.Double

/-- The number nearest to a ratio, zero among them; none if the ratio is too large or its
denominator is zero. -/
def ofFraction? (negative : Bool) (numerator denominator : Nat) : Option Double :=
  if denominator = 0 then none
  else if numerator = 0 then some (zero negative)
  else ofRatio? negative numerator denominator

/-- The product, rounded; none if it is too large to be finite. -/
def mul? (first second : Double) : Option Double :=
  ofFraction? (first.negative != second.negative) (first.ratio.1 * second.ratio.1)
    (first.ratio.2 * second.ratio.2)

/-- The quotient, rounded; none if it is too large to be finite or the divisor is zero. -/
def div? (first second : Double) : Option Double :=
  ofFraction? (first.negative != second.negative) (first.ratio.1 * second.ratio.2)
    (first.ratio.2 * second.ratio.1)

/-- The table of the powers of ten, each rounded. It ends with the last that is finite. -/
def powerOfTen? (power : Nat) : Option Double :=
  ofDecimal? false ⟨1, power⟩

/-- The last power of ten of the table. -/
def lastPower : Nat :=
  308

/-- The number times a power of ten, divided by the last power of the table at most `steps` times
before: none if the result is too large to be finite. -/
def scale? : (steps : Nat) → Double → (power : Int) → Option Double
  | steps, double, power =>
    match powerOfTen? power.natAbs with
    | some factor => if 0 ≤ power then double.mul? factor else double.div? factor
    | none =>
      if double.mantissa = 0 then some double
      else if 0 ≤ power then none
      else
        match steps with
        | 0 => none
        | steps + 1 => do
          let last ← powerOfTen? lastPower
          let quotient ← double.div? last
          scale? steps quotient (power + lastPower)

/-- The number times a power of ten. -/
def timesPowerOfTen? (double : Double) (power : Int) : Option Double :=
  scale? (power.natAbs / lastPower) double power

end Stencil.Double
