/-
Sets of characters that an expression matches one of, kept as tests.
-/

import Stencil.Text.Blank
import Stencil.Unicode.Folding
import Stencil.Unicode.PropertyName

namespace Stencil.Regex

/-- A set of characters, as its membership test. -/
abbrev CharSet := Char → Bool

namespace CharSet

/-- The set without members. -/
def none : CharSet :=
  fun _ => false

/-- The set of one character. -/
def single (character : Char) : CharSet :=
  fun candidate => candidate == character

/-- The characters from `first` to `last`. -/
def range (first last : Char) : CharSet :=
  fun candidate => first ≤ candidate && candidate ≤ last

/-- The characters that are not members. -/
def complement (set : CharSet) : CharSet :=
  fun candidate => !set candidate

/-- The members of either set. -/
def union (first second : CharSet) : CharSet :=
  fun candidate => first candidate || second candidate

/-- The set closed under case: under simple case folding, or for ASCII letters alone. -/
def ignoringCase (unicode : Bool) (set : CharSet) : CharSet :=
  fun candidate =>
    if unicode then (Unicode.Folding.orbit candidate).any set
    else set candidate || set candidate.toLower || set candidate.toUpper

/-- Whether every member among the first 256 characters is an ASCII character. -/
def isAscii (set : CharSet) : Bool :=
  (List.range 128).all fun offset => !set (Char.ofNat (128 + offset))

/-! ### Named sets -/

/-- Decimal digits. -/
def digit (unicode : Bool) : CharSet :=
  fun candidate => if unicode then Unicode.isDecimalDigit candidate else candidate.isDigit

/-- The ASCII blanks. -/
def asciiBlank : CharSet :=
  fun candidate => candidate == ' ' || (0x09 ≤ candidate.toNat && candidate.toNat ≤ 0x0D)

/-- Blanks. -/
def blank (unicode : Bool) : CharSet :=
  fun candidate => if unicode then isBlank candidate else asciiBlank candidate

/-- The ASCII letters and digits and the underscore. -/
def asciiWord : CharSet :=
  fun candidate => candidate.isAlphanum || candidate == '_'

/-- Characters of words. -/
def word (unicode : Bool) : CharSet :=
  fun candidate => if unicode then Unicode.isWord candidate else asciiWord candidate

/-- The set of ASCII characters with a bracketed name such as `alpha`. -/
def named? (name : Text) : Option CharSet :=
  match String.ofList name with
  | "alnum" => some fun candidate => candidate.isAlphanum
  | "alpha" => some fun candidate => candidate.isAlpha
  | "ascii" => some fun candidate => candidate.toNat < 0x80
  | "blank" => some fun candidate => candidate == ' ' || candidate == '\t'
  | "cntrl" => some fun candidate => candidate.toNat < 0x20 || candidate.toNat == 0x7F
  | "digit" => some fun candidate => candidate.isDigit
  | "graph" => some (range '!' '~')
  | "lower" => some fun candidate => candidate.isLower
  | "print" => some (range ' ' '~')
  | "punct" => some fun candidate => range '!' '~' candidate && !candidate.isAlphanum
  | "space" => some asciiBlank
  | "upper" => some fun candidate => candidate.isUpper
  | "word" => some asciiWord
  | "xdigit" => some fun candidate =>
      candidate.isDigit || range 'a' 'f' candidate || range 'A' 'F' candidate
  | _ => Option.none

end CharSet

end Stencil.Regex
