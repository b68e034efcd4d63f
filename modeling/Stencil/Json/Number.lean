/-
Numbers of a JSON document: an integer where the literal is one and fits 64 bits with or without
sign, a double otherwise. The two are kept apart, so `1` and `1.0` are different numbers.

A literal that is no integer is read fast, not exactly: its digits are kept as far as they fit a
word, the word is taken as a double, and the double is scaled by a power of ten. The result need not
be the double that is nearest to the literal.
-/

import Stencil.Number.Arithmetic
import Stencil.Number.Shortest

namespace Stencil.Json

/-- A number of a JSON document. -/
inductive Number where
  | integer (value : Int) (bounded : -2 ^ 63 ≤ value ∧ value < 2 ^ 64)
  | double (value : Double)
deriving DecidableEq

/-- A number as a document writes it: a sign, digits, and perhaps a fraction and an exponent. -/
structure Literal where
  negative : Bool
  whole : Text
  fraction : Option Text
  exponent : Option Int
deriving DecidableEq

namespace Literal

/-- The absolute value as a decimal. -/
def magnitude (literal : Literal) : Decimal :=
  let fraction := literal.fraction.getD []
  ⟨Decimal.ofDigits (literal.whole ++ fraction), literal.exponent.getD 0 - fraction.length⟩

/-- Whether the literal has neither fraction nor exponent. -/
def isWhole (literal : Literal) : Bool :=
  literal.fraction.isNone && literal.exponent.isNone

/-- Takes digits behind a number as long as it fits a word of 64 bits, and tells how many digits are
left over. -/
def gather : (number : Nat) → Text → Nat × Nat
  | number, [] => (number, 0)
  | number, digit :: digits =>
    let longer := 10 * number + (digit.toNat - '0'.toNat)
    if longer < 2 ^ 64 then gather longer digits else (number, digits.length + 1)

/-- The digits that reading keeps, as a decimal without the exponent. A digit before the point that
is left over is a place of the number; one behind the point is dropped. -/
def kept (literal : Literal) : Decimal :=
  let fraction := literal.fraction.getD []
  let whole := gather 0 literal.whole
  let all := gather whole.1 fraction
  ⟨all.1, whole.2 - (fraction.length - all.2 : Nat)⟩

/-- The largest exponent that is read as a number. -/
def maxExponent : Nat :=
  2 ^ 31 - 1

/-- The double that a literal is read as: the digits that are kept, as a double, times a power of
ten; none if a result is too large to be finite. An exponent beyond the largest one makes any digits
too large, or zero. -/
def double? (literal : Literal) : Option Double :=
  let kept := literal.kept
  let exponent := literal.exponent.getD 0
  if maxExponent < exponent.natAbs then
    if 0 < exponent ∧ kept.digits ≠ 0 then none else some (.zero literal.negative)
  else do
    let significand ← Double.ofDecimal? literal.negative ⟨kept.digits, 0⟩
    significand.timesPowerOfTen? (kept.exponent + exponent)

end Literal

namespace Number

/-- An integer, if it fits. -/
def ofInt? (value : Int) : Option Number :=
  if bounded : -2 ^ 63 ≤ value ∧ value < 2 ^ 64 then some (.integer value bounded) else none

/-- The number a literal is read as. A whole literal is an integer if it fits and is not `-0`; every
other one is a double, and one beyond all doubles is no number. -/
def ofLiteral? (literal : Literal) : Option Number :=
  let decimal := literal.magnitude
  let whole :=
    if !literal.isWhole then none
    else if !literal.negative then ofInt? decimal.digits
    else if decimal.digits = 0 then none
    else ofInt? (-decimal.digits)
  match whole with
  | some number => some number
  | none => literal.double?.map .double

/-! ### Representations -/

/-- The number as a signed integer of 64 bits, if it is one. -/
def int64? : Number → Option Int64
  | .integer value _ => if value < 2 ^ 63 then some (Int64.ofInt value) else none
  | .double _ => none

/-- The number as an unsigned integer of 64 bits, if it is one. -/
def uint64? : Number → Option UInt64
  | .integer value _ => if 0 ≤ value then some (UInt64.ofNat value.toNat) else none
  | .double _ => none

/-- The number as a double, an integer rounded to the nearest one. -/
def double? : Number → Option Double
  | .integer value _ => Double.ofDecimal? (value < 0) ⟨value.natAbs, 0⟩
  | .double value => some value

/-- The largest integer up to which doubles hold every integer. -/
def maxSafeInteger : Nat :=
  2 ^ 53 - 1

/-- Whether the number is an integer that every reader of doubles holds exactly. The first of its
representations is asked: the absolute value of a signed integer, an unsigned integer, a double. -/
def isSafeInteger (number : Number) : Bool :=
  match number.int64? with
  | some value => value.abs.toUInt64 ≤ UInt64.ofNat maxSafeInteger
  | none =>
    match number.uint64? with
    | some value => value ≤ UInt64.ofNat maxSafeInteger
    | none =>
      match number.double? with
      | some value => value.isIntegerWithin maxSafeInteger
      | none => false

/-! ### Text -/

/-- The text of a double in a document: its shortest digits, ties to even, by position with at
least one digit of fraction from `1e-5` up to `1e16`, and in scientific form otherwise. -/
def doubleText (double : Double) : Text :=
  let decimal := double.shortest .toEven
  let sign := if double.negative then ['-'] else []
  let power := decimal.magnitude
  if double.mantissa = 0 ∨ (-5 ≤ power ∧ power < 16) then
    let (whole, fraction) := decimal.positional
    sign ++ whole ++ '.' :: (if fraction.isEmpty then ['0'] else fraction)
  else
    let digits := Decimal.natText decimal.digits
    let mantissa := digits.take 1 ++ (if digits.length = 1 then [] else '.' :: digits.drop 1)
    let exponent := (if power < 0 then '-' else '+') :: Decimal.natText power.natAbs
    sign ++ mantissa ++ 'e' :: exponent

/-- The text of a number in a document. -/
def text : Number → Text
  | .integer value _ => Decimal.intText value
  | .double value => doubleText value

/-- The text of a number on its own: the shortest digits, ties upward, always by position, and no
fraction where there is none. -/
def plainText : Number → Text
  | .integer value _ => Decimal.intText value
  | .double value =>
    let (whole, fraction) := (value.shortest .upward).positional
    (if value.negative then ['-'] else []) ++ whole ++
      (if fraction.isEmpty then [] else '.' :: fraction)

end Number

end Stencil.Json
