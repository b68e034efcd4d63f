/-
Text on one line between double quotes, as descriptions of settings show it. Quotes, backslashes
and the usual controls are escaped with a backslash, other characters that do not show are written
by their code point, and everything else stands as it is.
-/

import Stencil.Unicode.Property

namespace Stencil.Text.Quoted

/-- Whether a character shows on its own: it is no control, format, separator other than the
space, private or unassigned code point. -/
def shows (character : Char) : Bool :=
  if character.toNat < 0x80 then
    0x20 ≤ character.toNat && character.toNat < 0x7F
  else
    let category := Unicode.Category.of character
    !category.isOther && !category.isSeparator

/-- How one character is written inside the quotes. Extending marks are written by code point, for
they would join the character before them. -/
def escapeCharacter (character : Char) : Text :=
  match character with
  | '"' => ['\\', '"']
  | '\\' => ['\\', '\\']
  | '\n' => ['\\', 'n']
  | '\t' => ['\\', 't']
  | '\r' => ['\\', 'r']
  | '\x00' => ['\\', '0']
  | _ =>
    if shows character && !Unicode.isGraphemeExtend character then [character]
    else ['\\', 'u', '{'] ++ Nat.toDigits 16 character.toNat ++ ['}']

/-- The text between double quotes. -/
def encode (text : Text) : Text :=
  '"' :: text.flatMap escapeCharacter ++ ['"']

end Stencil.Text.Quoted
