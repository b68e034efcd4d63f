/-
Blank characters: the Unicode property White_Space, and trimming by it.
-/

import Stencil.Text.Basic

namespace Stencil

/-- The 25 characters that have the property White_Space. -/
def isBlank (character : Char) : Bool :=
  let code := character.toNat
  (0x09 ≤ code && code ≤ 0x0D) || code == 0x20 || code == 0x85 || code == 0xA0 ||
    code == 0x1680 || (0x2000 ≤ code && code ≤ 0x200A) || code == 0x2028 || code == 0x2029 ||
    code == 0x202F || code == 0x205F || code == 0x3000

namespace Text

/-- Drops every character at the end that satisfies the test. -/
def dropEndWhile (test : Char → Bool) : Text → Text
  | [] => []
  | head :: tail =>
    match dropEndWhile test tail with
    | [] => if test head then [] else [head]
    | kept => head :: kept

/-- Drops from both ends the characters that satisfy the test. -/
def trimWhile (test : Char → Bool) (text : Text) : Text :=
  dropEndWhile test (text.dropWhile test)

/-- The text without the blanks at either end. -/
def trim (text : Text) : Text :=
  trimWhile isBlank text

end Text

end Stencil
