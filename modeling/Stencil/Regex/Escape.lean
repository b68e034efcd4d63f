/-
Escapes of a regular expression's source: what a backslash and the characters after it stand for.
An escape is a literal character, a set of characters or an assertion.
-/

import Stencil.Regex.Basic

namespace Stencil.Regex

/-! ### Blanks that do not count -/

/-- The text after blanks and after comments, which run from `#` to the end of the line. -/
def skipIgnored : (inComment : Bool) → Text → Text
  | _, [] => []
  | true, head :: rest => skipIgnored (head != '\n') rest
  | false, head :: rest =>
    if isBlank head then skipIgnored false rest
    else if head == '#' then skipIgnored true rest
    else head :: rest

/-- The text from the next character that counts. -/
def Flags.skip (flags : Flags) (text : Text) : Text :=
  if flags.ignoreSpace then skipIgnored false text else text

/-- The set under the case flag. -/
def Flags.fold (flags : Flags) (set : CharSet) : CharSet :=
  if flags.ignoreCase then set.ignoringCase flags.unicode else set

/-! ### Escapes -/

/-- What an escape stands for. A literal written by two hexadecimal digits is a byte where the
source is not read as Unicode. -/
inductive Primitive where
  | literal (character : Char) (byte : Bool)
  | set (members : CharSet)
  | look (assertion : Look)

/-- Characters that mean something unescaped. -/
def isMeta (character : Char) : Bool :=
  ['\\', '.', '+', '*', '?', '(', ')', '|', '[', ']', '{', '}', '^', '$', '#', '&', '-',
    '~'].contains character

/-- The text with every character that means something escaped. -/
def escapeText (text : Text) : Text :=
  text.flatMap fun character => if isMeta character then ['\\', character] else [character]

/-- The character with a code written in hexadecimal. -/
def charOfHex? (digits : List Nat) : Option Char :=
  let code := digits.foldl (fun value digit => value * 16 + digit) 0
  if digits.isEmpty then none
  else if code < 0xD800 ∨ (0xDFFF < code ∧ code < 0x110000) then some (Char.ofNat code)
  else none

/-- A given number of hexadecimal digits. -/
def readHexDigits (flags : Flags) : (count : Nat) → Text → Option (List Nat × Text)
  | 0, text => some ([], text)
  | count + 1, text =>
    match flags.skip text with
    | [] => none
    | digit :: rest => do
      let value ← Unicode.hexDigit? digit
      let (values, rest) ← readHexDigits flags count rest
      return (value :: values, rest)

/-- Hexadecimal digits up to a closing brace. -/
def readBracedHex (flags : Flags) : (fuel : Nat) → Text → Option (List Nat × Text)
  | 0, _ => none
  | fuel + 1, text =>
    match flags.skip text with
    | [] => none
    | '}' :: rest => some ([], rest)
    | digit :: rest => do
      let value ← Unicode.hexDigit? digit
      let (values, rest) ← readBracedHex flags fuel rest
      return (value :: values, rest)

/-- A character by its code, after the letter that announces it. -/
def readHex (flags : Flags) (count : Nat) (text : Text) : Except SyntaxError (Primitive × Text) :=
  let (digits?, byte) := match flags.skip text with
    | '{' :: rest => (readBracedHex flags rest.length rest, false)
    | text => (readHexDigits flags count text, count == 2)
  match digits? with
  | none => .error .escape
  | some (digits, rest) =>
    match charOfHex? digits with
    | none => .error .escape
    | some character => .ok (.literal character byte, rest)

/-- The characters up to a closing brace and the text after it. -/
def readBraced (flags : Flags) : (fuel : Nat) → Text → Option (Text × Text)
  | 0, _ => none
  | fuel + 1, text =>
    match flags.skip text with
    | [] => none
    | '}' :: rest => some ([], rest)
    | character :: rest =>
      (readBraced flags fuel rest).map fun (characters, rest) => (character :: characters, rest)

/-- What stands before and after the first occurrence of a separator. -/
def splitAt? (separator : Text) : Text → Option (Text × Text)
  | [] => none
  | head :: rest =>
    if separator.isPrefixOf (head :: rest) then
      some ([], (head :: rest).drop separator.length)
    else
      (splitAt? separator rest).map fun (before, after) => (head :: before, after)

/-- The set of a property written between braces, and whether it is negated. -/
def propertyOf? (name : Text) : Option (CharSet × Bool) :=
  match splitAt? ['!', '='] name with
  | some (name, value) => (Unicode.Property.ofValue? name value).map (·, true)
  | none =>
    match (splitAt? [':'] name).or (splitAt? ['='] name) with
    | some (name, value) => (Unicode.Property.ofValue? name value).map (·, false)
    | none => (Unicode.Property.ofName? name).map (·, false)

/-- A property after its letter, negated if the letter is a capital. -/
def readProperty (flags : Flags) (negated : Bool) (text : Text) :
    Except SyntaxError (Primitive × Text) := do
  let (name, rest) ← match flags.skip text with
    | [] => throw .escape
    | '{' :: rest =>
      match readBraced flags rest.length rest with
      | none => throw .escape
      | some read => pure read
    | '\\' :: _ => throw .escape
    | letter :: rest => pure ([letter], flags.skip rest)
  if !flags.unicode then throw .notText
  match propertyOf? name with
  | none => throw .unknownProperty
  | some (members, inverted) =>
    let folded := flags.fold members
    return (.set (if negated != inverted then folded.complement else folded), rest)

/-- A set named by one letter, negated if the letter is a capital. Where the source is not read
as Unicode the complement of such a set would match parts of characters. -/
def readShorthand (flags : Flags) (set : CharSet) (negated : Bool) (rest : Text) :
    Except SyntaxError (Primitive × Text) :=
  if negated && !flags.unicode then .error .notText
  else .ok (.set (if negated then set.complement else set), rest)

/-- Whether a character may stand in the name of a boundary. -/
def isBoundaryNameCharacter (character : Char) : Bool :=
  character.isAlpha || character == '-'

/-- The name of a boundary, up to the first character that is none of a name. -/
def readBoundaryName (flags : Flags) : (fuel : Nat) → Text → Text × Text
  | 0, text => ([], text)
  | fuel + 1, text =>
    match text with
    | head :: rest =>
      if isBoundaryNameCharacter head then
        let (name, rest) := readBoundaryName flags fuel (flags.skip rest)
        (head :: name, rest)
      else
        ([], text)
    | [] => ([], [])

/-- A word boundary after its letter: plain, or with a name between braces. Braces that start
with no name are left for a counted repetition. -/
def readBoundary (flags : Flags) (text : Text) : Except SyntaxError (Primitive × Text) :=
  let plain : Except SyntaxError (Primitive × Text) :=
    .ok (.look (.wordBoundary flags.unicode), text)
  match text with
  | '{' :: rest =>
    match flags.skip rest with
    | [] => .error .escape
    | head :: tail =>
      if !isBoundaryNameCharacter head then plain
      else
        let (name, after) := readBoundaryName flags (tail.length + 1) (head :: tail)
        match String.ofList name, after with
        | "start", '}' :: rest => .ok (.look (.wordStart flags.unicode), rest)
        | "end", '}' :: rest => .ok (.look (.wordEnd flags.unicode), rest)
        | "start-half", '}' :: rest => .ok (.look (.wordStartHalf flags.unicode), rest)
        | "end-half", '}' :: rest => .ok (.look (.wordEndHalf flags.unicode), rest)
        | _, _ => .error .escape
  | _ => plain

/-- An escape after its backslash. -/
def readEscape (flags : Flags) : Text → Except SyntaxError (Primitive × Text)
  | [] => .error .escape
  | head :: rest =>
    if head.isDigit then .error .backreference
    else
      match head with
      | 'x' => readHex flags 2 rest
      | 'u' => readHex flags 4 rest
      | 'U' => readHex flags 8 rest
      | 'p' => readProperty flags false rest
      | 'P' => readProperty flags true rest
      | 'd' => readShorthand flags (CharSet.digit flags.unicode) false rest
      | 'D' => readShorthand flags (CharSet.digit flags.unicode) true rest
      | 's' => readShorthand flags (CharSet.blank flags.unicode) false rest
      | 'S' => readShorthand flags (CharSet.blank flags.unicode) true rest
      | 'w' => readShorthand flags (CharSet.word flags.unicode) false rest
      | 'W' => readShorthand flags (CharSet.word flags.unicode) true rest
      | 'a' => .ok (.literal '\x07' false, rest)
      | 'f' => .ok (.literal '\x0c' false, rest)
      | 't' => .ok (.literal '\t' false, rest)
      | 'n' => .ok (.literal '\n' false, rest)
      | 'r' => .ok (.literal '\r' false, rest)
      | 'v' => .ok (.literal '\x0b' false, rest)
      | 'A' => .ok (.look .textStart, rest)
      | 'z' => .ok (.look .textEnd, rest)
      | 'b' => readBoundary flags rest
      | 'B' => .ok (.look (.notWordBoundary flags.unicode), rest)
      | '<' => .ok (.look (.wordStart flags.unicode), rest)
      | '>' => .ok (.look (.wordEnd flags.unicode), rest)
      | _ =>
        if head.toNat < 0x80 && !head.isAlphanum then .ok (.literal head false, rest)
        else .error .escape

end Stencil.Regex
