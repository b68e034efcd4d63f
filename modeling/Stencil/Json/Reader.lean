/-
Reading JSON documents, strictly: one value with nothing but blanks around it, no comments, no
trailing commas, no raw controls in strings, no surrogates that are not paired. Reading a part of
a text answers the value and the text after it. Values are read as written; `Json.parse?` gives
each key its one member.
-/

import Stencil.Json.Basic

namespace Stencil.Json

/-! ### Blanks and words -/

/-- The blanks of a document are the space, the tab, the line feed and the carriage return. -/
def isSpace (character : Char) : Bool :=
  character == ' ' || character == '\t' || character == '\n' || character == '\r'

/-- The text after its leading blanks. -/
def skipSpace (text : Text) : Text :=
  text.dropWhile isSpace

/-- The text after a word it starts with. -/
def after? : (word text : Text) → Option Text
  | [], text => some text
  | _ :: _, [] => none
  | expected :: word, head :: text => if expected = head then after? word text else none

/-! ### Numbers -/

/-- The digits at the start, at least one. -/
def readDigits (text : Text) : Option (Text × Text) :=
  match text.takeWhile Char.isDigit with
  | [] => none
  | digits => some (digits, text.dropWhile Char.isDigit)

/-- The digits before the point: a single zero, or digits that start with another. -/
def readWhole : Text → Option (Text × Text)
  | '0' :: rest => some (['0'], rest)
  | text => readDigits text

/-- A fraction, if a point is next. -/
def readFraction : Text → Option (Option Text × Text)
  | '.' :: rest => (readDigits rest).map fun (digits, rest) => (some digits, rest)
  | text => some (none, text)

/-- The exponent after its mark: digits, perhaps after a sign. -/
def readPower : Text → Option (Int × Text)
  | '-' :: rest => (readDigits rest).map fun (digits, rest) => (-Decimal.ofDigits digits, rest)
  | '+' :: rest => (readDigits rest).map fun (digits, rest) => (Decimal.ofDigits digits, rest)
  | text => (readDigits text).map fun (digits, rest) => (Decimal.ofDigits digits, rest)

/-- An exponent, if its mark is next. -/
def readExponent : Text → Option (Option Int × Text)
  | 'e' :: rest => (readPower rest).map fun (power, rest) => (some power, rest)
  | 'E' :: rest => (readPower rest).map fun (power, rest) => (some power, rest)
  | text => some (none, text)

/-- A number as it is written. -/
def readLiteral (text : Text) : Option (Literal × Text) := do
  let (negative, text) := match text with
    | '-' :: rest => (true, rest)
    | _ => (false, text)
  let (whole, text) ← readWhole text
  let (fraction, text) ← readFraction text
  let (exponent, text) ← readExponent text
  return (⟨negative, whole, fraction, exponent⟩, text)

/-- A number. -/
def readNumber (text : Text) : Option (Number × Text) := do
  let (literal, rest) ← readLiteral text
  let number ← Number.ofLiteral? literal
  return (number, rest)

/-! ### Strings -/

/-- Value of a hexadecimal digit in either case. -/
def hexValue? (character : Char) : Option Nat :=
  if '0' ≤ character ∧ character ≤ '9' then some (character.toNat - '0'.toNat)
  else if 'a' ≤ character ∧ character ≤ 'f' then some (character.toNat - 'a'.toNat + 10)
  else if 'A' ≤ character ∧ character ≤ 'F' then some (character.toNat - 'A'.toNat + 10)
  else none

/-- Four hexadecimal digits. -/
def readUnit : Text → Option (Nat × Text)
  | first :: second :: third :: fourth :: rest => do
    let first ← hexValue? first
    let second ← hexValue? second
    let third ← hexValue? third
    let fourth ← hexValue? fourth
    return (((first * 16 + second) * 16 + third) * 16 + fourth, rest)
  | _ => none

/-- A character by its code after a backslash and `u`; one beyond the first plane takes two such
escapes, a high surrogate and a low one. -/
def readCode (text : Text) : Option (Char × Text) := do
  let (unit, text) ← readUnit text
  if 0xD800 ≤ unit ∧ unit < 0xDC00 then
    match text with
    | '\\' :: 'u' :: text =>
      let (low, text) ← readUnit text
      if 0xDC00 ≤ low ∧ low < 0xE000 then
        return (Char.ofNat (0x10000 + (unit - 0xD800) * 0x400 + (low - 0xDC00)), text)
      else
        none
    | _ => none
  else if 0xDC00 ≤ unit ∧ unit < 0xE000 then
    none
  else
    return (Char.ofNat unit, text)

/-- The character that a single letter after a backslash stands for. -/
def shortEscape? : Char → Option Char
  | '"' => some '"'
  | '\\' => some '\\'
  | '/' => some '/'
  | 'b' => some '\x08'
  | 'f' => some '\x0c'
  | 'n' => some '\n'
  | 'r' => some '\r'
  | 't' => some '\t'
  | _ => none

/-- One character of a string, or its closing quote. -/
def readCharacter : Text → Option (Option Char × Text)
  | [] => none
  | '"' :: rest => some (none, rest)
  | '\\' :: 'u' :: rest => (readCode rest).map fun (character, rest) => (some character, rest)
  | '\\' :: letter :: rest => (shortEscape? letter).map fun character => (some character, rest)
  | '\\' :: [] => none
  | character :: rest => if character.toNat < 0x20 then none else some (some character, rest)

/-- The rest of a string after its opening quote. A string has no more characters than the text
that writes it, which `fuel` is. -/
def readCharacters : (fuel : Nat) → Text → Option (Text × Text)
  | 0, _ => none
  | fuel + 1, text =>
    match readCharacter text with
    | none => none
    | some (none, rest) => some ([], rest)
    | some (some character, rest) =>
      (readCharacters fuel rest).map fun (characters, rest) => (character :: characters, rest)

/-- A string after its opening quote. -/
def readString (text : Text) : Option (Text × Text) :=
  readCharacters text.length text

/-! ### Values -/

/-- Items after an opening bracket's first item, up to the closing bracket. -/
def readItems (read : Text → Option (Json × Text)) :
    (fuel : Nat) → Text → Option (List Json × Text)
  | 0, _ => none
  | fuel + 1, text =>
    match skipSpace text with
    | ']' :: rest => some ([], rest)
    | ',' :: rest => do
      let (item, rest) ← read rest
      let (items, rest) ← readItems read fuel rest
      return (item :: items, rest)
    | _ => none

/-- An array after its opening bracket. -/
def readArray (read : Text → Option (Json × Text)) (text : Text) : Option (Json × Text) :=
  match skipSpace text with
  | ']' :: rest => some (.array [], rest)
  | _ => do
    let (item, rest) ← read text
    let (items, rest) ← readItems read rest.length rest
    return (.array (item :: items), rest)

/-- A key, a colon and a value. -/
def readMember (read : Text → Option (Json × Text)) (text : Text) :
    Option ((Text × Json) × Text) :=
  match skipSpace text with
  | '"' :: rest => do
    let (key, rest) ← readString rest
    match skipSpace rest with
    | ':' :: rest =>
      let (value, rest) ← read rest
      return ((key, value), rest)
    | _ => none
  | _ => none

/-- Members after an opening brace's first member, up to the closing brace. -/
def readMembers (read : Text → Option (Json × Text)) :
    (fuel : Nat) → Text → Option (List (Text × Json) × Text)
  | 0, _ => none
  | fuel + 1, text =>
    match skipSpace text with
    | '}' :: rest => some ([], rest)
    | ',' :: rest => do
      let (member, rest) ← readMember read rest
      let (members, rest) ← readMembers read fuel rest
      return (member :: members, rest)
    | _ => none

/-- An object after its opening brace. -/
def readObject (read : Text → Option (Json × Text)) (text : Text) : Option (Json × Text) :=
  match skipSpace text with
  | '}' :: rest => some (.object [], rest)
  | _ => do
    let (member, rest) ← readMember read text
    let (members, rest) ← readMembers read rest.length rest
    return (.object (member :: members), rest)

/-- A value that nests arrays and objects at most `depth` deep. -/
def readValue : (depth : Nat) → Text → Option (Json × Text)
  | depth, text =>
    match skipSpace text with
    | '"' :: rest => (readString rest).map fun (value, rest) => (.string value, rest)
    | '[' :: rest =>
      match depth with
      | 0 => none
      | depth + 1 => readArray (readValue depth) rest
    | '{' :: rest =>
      match depth with
      | 0 => none
      | depth + 1 => readObject (readValue depth) rest
    | 'n' :: rest => (after? "ull".toList rest).map fun rest => (.null, rest)
    | 't' :: rest => (after? "rue".toList rest).map fun rest => (.bool true, rest)
    | 'f' :: rest => (after? "alse".toList rest).map fun rest => (.bool false, rest)
    | text => (readNumber text).map fun (value, rest) => (.number value, rest)

/-- The greatest nesting of arrays and objects that a document may have. -/
def maxDepth : Nat :=
  127

/-- The value of a document as it is written, nested at most `depth` deep. -/
def readWithin? (depth : Nat) (text : Text) : Option Json :=
  match readValue depth text with
  | some (value, rest) => if (skipSpace rest).isEmpty then some value else none
  | none => none

/-- The value of a document as it is written, repeated keys and all. -/
def read? (text : Text) : Option Json :=
  readWithin? maxDepth text

/-- The value of a document. -/
def parse? (text : Text) : Option Json :=
  (read? text).map collapse

end Stencil.Json
