/-
Settings and patterns out of JSON documents. Settings are an object, or an array of values in
order; a pattern is a string, which is the source of its expression, or an object with a pair of
delimiters.
-/

import Stencil.Json.Reader
import Stencil.Settings.Loading

namespace Stencil

namespace Json

/-- A flag. -/
def flag? : Json → Option Bool
  | .bool value => some value
  | _ => none

/-- A count: an integer literal without sign. -/
def count? : Json → Option Nat
  | .number (.integer value _) => if 0 ≤ value then some value.toNat else none
  | _ => none

/-- A text. -/
def text? : Json → Option Text
  | .string value => some value
  | _ => none

/-- A pattern. -/
def pattern? : Json → Option Pattern
  | .string source => (Pattern.parse source).toOption
  | .object members => Pattern.ofMembers? text? members
  | _ => none

/-- How the values of a JSON document are understood. -/
def valueReader : ValueReader Json :=
  ⟨flag?, count?, text?, pattern?⟩

end Json

/-- The pattern that a JSON document describes. -/
def Pattern.ofJson? (text : Text) : Option Pattern :=
  (Json.read? text).bind Json.pattern?

/-- The settings that a JSON document gives, the others being as they are by default. -/
def Settings.ofJson? (text : Text) : Option Settings :=
  match Json.read? text with
  | some (.object members) =>
    (Given.putMembers? Json.valueReader {} members).map Given.settings
  | some (.array values) =>
    (Given.putValues? Json.valueReader {} SettingName.all values).map Given.settings
  | _ => none

end Stencil
