/-
The compact text of a JSON value: no blanks, members in their order, and only those characters
escaped that a document must escape.
-/

import Stencil.Json.Basic

namespace Stencil.Json

/-- A digit below sixteen in lower case. -/
def hexDigit (value : Nat) : Char :=
  Nat.digitChar value

/-- How a string writes one character. -/
def escapeCharacter (character : Char) : Text :=
  match character with
  | '"' => ['\\', '"']
  | '\\' => ['\\', '\\']
  | '\x08' => ['\\', 'b']
  | '\t' => ['\\', 't']
  | '\n' => ['\\', 'n']
  | '\x0c' => ['\\', 'f']
  | '\r' => ['\\', 'r']
  | _ =>
    if character.toNat < 0x20 then
      ['\\', 'u', '0', '0', hexDigit (character.toNat / 16), hexDigit (character.toNat % 16)]
    else
      [character]

/-- A string in its quotes. -/
def stringText (text : Text) : Text :=
  '"' :: text.flatMap escapeCharacter ++ ['"']

mutual

/-- The compact text of a value. -/
def text : Json → Text
  | .null => "null".toList
  | .bool true => "true".toList
  | .bool false => "false".toList
  | .number value => value.text
  | .string value => stringText value
  | .array [] => ['[', ']']
  | .array (item :: rest) => '[' :: (text item ++ itemsText rest) ++ [']']
  | .object [] => ['{', '}']
  | .object ((key, value) :: rest) =>
    '{' :: (stringText key ++ ':' :: text value ++ membersText rest) ++ ['}']

/-- Items after the first, each after a comma. -/
def itemsText : List Json → Text
  | [] => []
  | item :: rest => ',' :: text item ++ itemsText rest

/-- Members after the first, each after a comma. -/
def membersText : List (Text × Json) → Text
  | [] => []
  | (key, value) :: rest => ',' :: stringText key ++ ':' :: text value ++ membersText rest

end

end Stencil.Json
