/-
What scalars mean. A plain scalar is nothing, a flag, a number or a text by the look of it; quoted
scalars and blocks are texts; and a tag of the core schema asks for one of the kinds.
-/

import Stencil.Number.Double
import Stencil.Unicode.Runs
import Stencil.Yaml.Node

namespace Stencil.Yaml

namespace ScalarText

/-- Whether a scalar spells nothing. -/
def isNull (text : Text) : Bool :=
  ["null", "Null", "NULL", "~"].any fun word => text == word.toList

/-- The flag that a scalar spells. -/
def flag? (text : Text) : Option Bool :=
  if ["true", "True", "TRUE"].any fun word => text == word.toList then some true
  else if ["false", "False", "FALSE"].any fun word => text == word.toList then some false
  else none

/-- The number that digits of a base spell. -/
def ofDigits? (base : Nat) (digits : Text) : Option Nat :=
  if digits.isEmpty then none
  else
    digits.foldl
      (fun value digit => do
        let value ← value
        let digit ← Unicode.hexDigit? digit
        if digit < base then some (value * base + digit) else none)
      (some 0)

/-- Whether a scalar has a zero before other digits, which makes it a text. -/
def hasLeadingZero (text : Text) : Bool :=
  let digits := match text with
    | '+' :: rest => rest
    | '-' :: rest => rest
    | _ => text
  1 < digits.length && digits.head? == some '0' && digits.all Char.isDigit

/-- The number that a scalar without sign spells: in base sixteen, eight or two after `0x`, `0o` or
`0b`, else in base ten. -/
def magnitude? : Text → Option Nat
  | '0' :: 'x' :: rest => ofDigits? 16 rest
  | '0' :: 'o' :: rest => ofDigits? 8 rest
  | '0' :: 'b' :: rest => ofDigits? 2 rest
  | text => if hasLeadingZero text then none else ofDigits? 10 text

/-- The count that a scalar spells, perhaps after a plus sign, if it is below a bound. -/
def count? (bound : Nat) (text : Text) : Option Nat :=
  let unsigned := match text with
    | '+' :: rest => rest
    | _ => text
  (magnitude? unsigned).filter (· < bound)

/-- Whether a scalar spells an integer of at most 128 bits. -/
def isInteger (text : Text) : Bool :=
  match text with
  | '-' :: rest => (magnitude? rest).any (· ≤ 2 ^ 127)
  | _ => (count? (2 ^ 128) text).isSome

/-- The decimal that a scalar without sign spells: digits with a point perhaps among them, and an
exponent perhaps. -/
def decimal? (text : Text) : Option Decimal := do
  let whole := text.takeWhile Char.isDigit
  let rest := text.dropWhile Char.isDigit
  let (fraction, rest) := match rest with
    | '.' :: rest => (rest.takeWhile Char.isDigit, rest.dropWhile Char.isDigit)
    | _ => ([], rest)
  if whole.isEmpty && fraction.isEmpty then none
  let exponent : Int ← match rest with
    | [] => some 0
    | mark :: rest =>
      if mark != 'e' && mark != 'E' then none
      else
        match rest with
        | '-' :: digits => (ofDigits? 10 digits).map fun power => -(power : Int)
        | '+' :: digits => (ofDigits? 10 digits).map fun power => (power : Int)
        | digits => (ofDigits? 10 digits).map fun power => (power : Int)
  return ⟨Decimal.ofDigits (whole ++ fraction), exponent - fraction.length⟩

/-- Whether a scalar spells a number with a fraction or an exponent, infinity or no number. -/
def isFraction (text : Text) : Bool :=
  let unsigned := match text with
    | '+' :: rest => rest
    | '-' :: rest => rest
    | _ => text
  [".inf", ".Inf", ".INF"].any (fun word => unsigned == word.toList) ||
    [".nan", ".NaN", ".NAN"].any (fun word => text == word.toList) ||
    ((decimal? unsigned).bind (Double.ofDecimal? false)).isSome

/-- Whether a plain scalar is a text, and neither nothing nor a flag nor a number. -/
def isText (text : Text) : Bool :=
  !text.isEmpty && !isNull text && (flag? text).isNone && !isInteger text &&
    (hasLeadingZero text || !isFraction text)

end ScalarText

/-! ### Tags -/

/-- The full name of a tag of the core schema. -/
def coreTag (name : String) : Text :=
  "tag:yaml.org,2002:".toList ++ name.toList

/-- Whether a tag is the author's own, which the kinds of values here do not know. -/
def isOwnTag (tag : Text) : Bool :=
  tag.head? == some '!'

namespace Node

/-- Whether the scalar may be read as something other than a text where `name` is asked for: it is
plain, or a literal block with that very tag. -/
def isReadable (name : String) (tag : Option Text) (style : ScalarStyle) : Bool :=
  style == .plain || (style == .literal && tag == some (coreTag name))

/-- A flag. -/
def flag? : Node → Option Bool
  | .scalar tag style text => if isReadable "bool" tag style then ScalarText.flag? text else none
  | _ => none

/-- A count of at most 64 bits. -/
def count? : Node → Option Nat
  | .scalar tag style text =>
    if isReadable "int" tag style then ScalarText.count? (2 ^ 64) text else none
  | _ => none

/-- A text: any scalar as it is written. -/
def text? : Node → Option Text
  | .scalar _ _ text => some text
  | _ => none

/-- A text where other kinds of values would be possible, so that the look of a scalar and its tag
count. -/
def looseText? : Node → Option Text
  | .scalar none .plain text => if ScalarText.isText text then some text else none
  | .scalar none _ text => some text
  | .scalar (some tag) _ text =>
    if isOwnTag tag || ["bool", "int", "float", "null"].any fun name => tag == coreTag name then
      none
    else some text
  | _ => none

end Node

end Stencil.Yaml
