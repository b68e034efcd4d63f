/-
Turning text back into values. The first stage reads the whole text as a document, where that is
asked for, and refuses numbers that not every reader holds exactly; the second stage reads text
that is bracketed like an object or an array. Text that is not read stays text.
-/

import Stencil.Json.Guard
import Stencil.Text.Blank

namespace Stencil.Coercion

/-- What the first stage makes of a text. -/
inductive Outcome where
  | parsed (value : Json)
  /-- The text is a number that is not accepted. -/
  | refused
  | text

/-- Whether a value is a number that only big numbers may be. -/
def isBigNumber : Json → Bool
  | .number value => !value.isSafeInteger
  | _ => false

/-- Reads a text as a document, where `parseStrings` asks for it; numbers that are no safe integers
are refused unless `bigNumbers` allows them. -/
def classify (parseStrings bigNumbers : Bool) (text : Text) : Outcome :=
  if !parseStrings then .text
  else
    match Json.parseGuarded text with
    | .error _ => .text
    | .ok value => if isBigNumber value && !bigNumbers then .refused else .parsed value

/-- The value of a text after the first stage. -/
def coerce (parseStrings bigNumbers : Bool) (text : Text) : Json :=
  match classify parseStrings bigNumbers text with
  | .parsed value => value
  | .refused | .text => .string text

/-- Whether a text starts and ends with brackets, or with braces. -/
def isBracketed (text : Text) : Bool :=
  (text.head? == some '{' && text.getLast? == some '}') ||
    (text.head? == some '[' && text.getLast? == some ']')

/-- The value after the second stage: a text bracketed like an object or an array is read, and
anything else stays. -/
def reparse (value : Json) : Json :=
  match value with
  | .string text =>
    let trimmed := text.trim
    if isBracketed trimmed then
      match Json.parseGuarded trimmed with
      | .ok parsed => parsed
      | .error _ => .string text
    else
      .string text
  | _ => value

/-- Whether a value is a number that is a safe integer. -/
def isSafeInteger : Json → Bool
  | .number value => value.isSafeInteger
  | _ => false

end Stencil.Coercion
