/-
Tokens of a YAML document. The scanner keeps the indentation of the blocks that are open and, for
every level of brackets, the place where a simple key may have begun. When the colon after such a
key is met, a key token is put where the key began; so the sequence of tokens grows at its end and
takes insertions near it.
-/

import Stencil.Number.Decimal
import Stencil.Yaml.ScalarText

namespace Stencil.Yaml

/-- How a scalar is written, as far as its meaning depends on it. -/
inductive ScalarStyle where
  | plain
  | literal
  | other
deriving DecidableEq, Repr

/-- A token. Blocks start and end where the indentation says so. -/
inductive Token where
  | streamEnd
  | version (major minor : Nat)
  | tagDirective (handle leading : Text)
  | documentStart
  | documentEnd
  | blockSequenceStart
  | blockMappingStart
  | blockEnd
  | flowSequenceStart
  | flowSequenceEnd
  | flowMappingStart
  | flowMappingEnd
  | flowEntry
  | blockEntry
  | key
  | value
  | alias (name : Text)
  | anchor (name : Text)
  | tag (handle suffix : Text)
  | scalar (style : ScalarStyle) (text : Text)
deriving DecidableEq, Repr

/-- A place where a simple key may have begun: the number of tokens before it, and whether the
indentation demands that it is a key. -/
structure SimpleKey where
  place : Nat
  required : Bool
  cursor : Cursor

/-- What the scanner knows between two tokens. The keys that may have begun are listed from the
innermost level of brackets, the last entry being the one outside of all. -/
structure Scanner where
  cursor : Cursor
  tokens : Array Token := #[]
  indent : Int := -1
  indents : List Int := []
  keyAllowed : Bool := true
  keys : List (Option SimpleKey) := [none]

namespace Scanner

/-- Whether the position is inside brackets or braces. -/
def inFlow (scanner : Scanner) : Bool :=
  1 < scanner.keys.length

/-- Adds a token at the end. -/
def push (scanner : Scanner) (token : Token) : Scanner :=
  { scanner with tokens := scanner.tokens.push token }

/-- Puts a token at an earlier place. -/
def insert (scanner : Scanner) (place : Nat) (token : Token) : Scanner :=
  { scanner with tokens := scanner.tokens.insertIdxIfInBounds place token }

/-- Adds a token and moves on by as many characters as it takes. -/
def take (scanner : Scanner) (token : Token) (length : Nat) : Scanner :=
  { scanner.push token with cursor := scanner.cursor.advanceBy length }

/-! ### Simple keys -/

/-- Forgets a key that can be none any more: keys lie on one line and take at most 1024 characters. A
key that the indentation demands must not get lost. -/
def dropStale? (scanner : Scanner) : Option Scanner :=
  let stale := fun (key : SimpleKey) =>
    key.cursor.line < scanner.cursor.line || key.cursor.index + 1024 < scanner.cursor.index
  if scanner.keys.any fun key => key.any fun key => stale key && key.required then none
  else
    some { scanner with keys := scanner.keys.map fun key => key.filter fun key => !stale key }

/-- Forgets the key of the innermost level. -/
def dropKey? (scanner : Scanner) : Option Scanner :=
  match scanner.keys with
  | some key :: outer => if key.required then none else some { scanner with keys := none :: outer }
  | _ => some scanner

/-- Remembers that a key may begin here. -/
def saveKey? (scanner : Scanner) : Option Scanner :=
  if !scanner.keyAllowed then some scanner
  else
    scanner.dropKey?.map fun scanner =>
      let required := !scanner.inFlow && scanner.indent == scanner.cursor.column
      let key : SimpleKey := ⟨scanner.tokens.size, required, scanner.cursor⟩
      { scanner with keys := some key :: scanner.keys.drop 1 }

/-! ### Indentation -/

/-- Opens a block if the column lies beyond the indentation, its token going to the given place. -/
def openBlock (scanner : Scanner) (column : Nat) (place : Nat) (token : Token) : Scanner :=
  if scanner.inFlow || (column : Int) ≤ scanner.indent then scanner
  else
    { scanner.insert place token with
      indent := column, indents := scanner.indent :: scanner.indents }

/-- Ends the blocks that are indented beyond the column. -/
def closeBlocks (scanner : Scanner) (column : Int) : Scanner :=
  if scanner.inFlow then scanner
  else
    let rec close : Int → List Int → Scanner → Scanner
      | indent, [], scanner => { scanner with indent := indent, indents := [] }
      | indent, outer :: indents, scanner =>
        if column < indent then close outer indents (scanner.push .blockEnd)
        else { scanner with indent := indent, indents := outer :: indents }
    close scanner.indent scanner.indents scanner

/-! ### Between tokens -/

/-- The position of the next token: after blanks, comments and line ends. Outside brackets a line
end allows a key, and where a key is allowed a tab is no blank. -/
def toNextToken (inFlow : Bool) : (fuel : Nat) → (keyAllowed : Bool) → Cursor → Bool × Cursor
  | 0, keyAllowed, cursor => (keyAllowed, cursor)
  | fuel + 1, keyAllowed, cursor =>
    match cursor.rest with
    | [] => (keyAllowed, cursor)
    | head :: _ =>
      if head == ' ' || (head == '\t' && (inFlow || !keyAllowed)) ||
          (head == '\uFEFF' && cursor.index == 0) then
        toNextToken inFlow fuel keyAllowed cursor.advance
      else if head == '#' then
        toNextToken inFlow fuel keyAllowed cursor.toLineEnd
      else if isBreak head then
        toNextToken inFlow fuel (keyAllowed || !inFlow) cursor.readBreak.2
      else
        (keyAllowed, cursor)

/-! ### Tags and directives -/

/-- Characters of a tag; a tag between angles holds some more. -/
def isTagCharacter (verbatim : Bool) (character : Char) : Bool :=
  isNameCharacter character || ";/?:@&=+$.!~*'()%".toList.contains character ||
    (verbatim && (character == ',' || character == '[' || character == ']'))

/-- The text with every percent sign and the two hexadecimal digits after it read as one ASCII
character. -/
def unescapeTag? : Text → Option Text
  | [] => some []
  | '%' :: first :: second :: rest => do
    let high ← Unicode.hexDigit? first
    let low ← Unicode.hexDigit? second
    let decoded ← unescapeTag? rest
    if high < 8 then return Char.ofNat (high * 16 + low) :: decoded else none
  | '%' :: _ => none
  | head :: rest => (unescapeTag? rest).map (head :: ·)

/-- A tag from its exclamation mark. -/
def readTag? (inFlow : Bool) (cursor : Cursor) : Option (Token × Cursor) := do
  let opened := cursor.advance
  let (handle, suffix, next) ←
    match opened.rest with
    | '<' :: _ =>
      let (written, next) := opened.advance.readWhile (isTagCharacter true)
      if written.isEmpty || next.rest.head? != some '>' then none
      else some ([], written, next.advance)
    | _ =>
      let (name, named) := opened.readWhile isNameCharacter
      match named.rest with
      | '!' :: _ =>
        let (written, next) := named.advance.readWhile (isTagCharacter false)
        if written.isEmpty then none else some ('!' :: name ++ ['!'], written, next)
      | _ =>
        let (written, next) := named.readWhile (isTagCharacter false)
        let suffix := name ++ written
        if suffix.isEmpty then some ([], ['!'], next) else some (['!'], suffix, next)
  let suffix ← unescapeTag? suffix
  if atGap next.rest || (inFlow && next.rest.head? == some ',') then
    return (.tag handle suffix, next)
  else
    none

/-- A number of a version. -/
def readVersionPart? (cursor : Cursor) : Option (Nat × Cursor) :=
  let (digits, next) := cursor.readWhile Char.isDigit
  if digits.isEmpty || 9 < digits.length then none else some (Decimal.ofDigits digits, next)

/-- A directive from its percent sign, with the rest of its line. -/
def readDirective? (cursor : Cursor) : Option (Token × Cursor) := do
  let (name, next) := cursor.advance.readWhile isNameCharacter
  if !atGap next.rest then none
  let (_, next) := next.readWhile isGapBlank
  let (token, next) ←
    match String.ofList name with
    | "YAML" =>
      let (major, next) ← readVersionPart? next
      if next.rest.head? != some '.' then none
      let (minor, next) ← readVersionPart? next.advance
      pure (Token.version major minor, next)
    | "TAG" =>
      if next.rest.head? != some '!' then none
      let (name, next) := next.advance.readWhile isNameCharacter
      let (handle, next) ←
        if next.rest.head? == some '!' then pure ('!' :: name ++ ['!'], next.advance)
        else if name.isEmpty then pure (['!'], next)
        else none
      if !(next.rest.head?.any isGapBlank) then none
      let (_, next) := next.readWhile isGapBlank
      let (leading, next) := next.readWhile (isTagCharacter true)
      if leading.isEmpty || !atGap next.rest then none
      pure (Token.tagDirective handle leading, next)
    | _ => none
  let (_, next) := next.readWhile isGapBlank
  let next := if next.rest.head? == some '#' then next.toLineEnd else next
  if !(next.rest.head?.all isBreak) then none
  return (token, next.readBreak.2)

/-! ### Tokens -/

/-- The end of the stream, which ends all blocks. -/
def endStream? (scanner : Scanner) : Option Scanner :=
  ((scanner.closeBlocks (-1)).dropKey?).map fun scanner =>
    { scanner with keyAllowed := false }.push .streamEnd

/-- A mark between documents. -/
def documentMark? (scanner : Scanner) (token : Token) : Option Scanner :=
  ((scanner.closeBlocks (-1)).dropKey?).map fun scanner =>
    { scanner with keyAllowed := false }.take token 3

/-- A directive. -/
def directive? (scanner : Scanner) : Option Scanner := do
  let scanner ← (scanner.closeBlocks (-1)).dropKey?
  let (token, cursor) ← readDirective? scanner.cursor
  return { scanner with keyAllowed := false, cursor }.push token

/-- An opening bracket or brace. -/
def flowStart? (scanner : Scanner) (token : Token) : Option Scanner :=
  scanner.saveKey?.map fun scanner =>
    { scanner with keys := none :: scanner.keys, keyAllowed := true }.take token 1

/-- A closing bracket or brace. -/
def flowEnd? (scanner : Scanner) (token : Token) : Option Scanner :=
  scanner.dropKey?.map fun scanner =>
    { scanner with
      keys := if scanner.inFlow then scanner.keys.drop 1 else scanner.keys
      keyAllowed := false }.take token 1

/-- A comma between entries. -/
def flowEntry? (scanner : Scanner) : Option Scanner :=
  scanner.dropKey?.map fun scanner => { scanner with keyAllowed := true }.take .flowEntry 1

/-- A hyphen before an entry of a block. -/
def blockEntry? (scanner : Scanner) : Option Scanner :=
  if !scanner.inFlow && !scanner.keyAllowed then none
  else
    let opened := scanner.openBlock scanner.cursor.column scanner.tokens.size .blockSequenceStart
    opened.dropKey?.map fun scanner => { scanner with keyAllowed := true }.take .blockEntry 1

/-- A question mark before a key. -/
def key? (scanner : Scanner) : Option Scanner :=
  if !scanner.inFlow && !scanner.keyAllowed then none
  else
    let opened := scanner.openBlock scanner.cursor.column scanner.tokens.size .blockMappingStart
    opened.dropKey?.map fun scanner =>
      { scanner with keyAllowed := !scanner.inFlow }.take .key 1

/-- A colon before a value. The key before it, if one may have begun, is now known to be one. -/
def value? (scanner : Scanner) : Option Scanner :=
  match scanner.keys with
  | some key :: outer =>
    let keyed := scanner.insert key.place .key
    let opened := keyed.openBlock key.cursor.column key.place .blockMappingStart
    some ({ opened with keys := none :: outer, keyAllowed := false }.take .value 1)
  | _ =>
    if !scanner.inFlow && !scanner.keyAllowed then none
    else
      let opened := scanner.openBlock scanner.cursor.column scanner.tokens.size .blockMappingStart
      some ({ opened with keyAllowed := !opened.inFlow }.take .value 1)

/-- A name after an asterisk or an ampersand. -/
def named? (scanner : Scanner) (token : Text → Token) : Option Scanner := do
  let scanner ← scanner.saveKey?
  let (name, next) := scanner.cursor.advance.readWhile isNameCharacter
  let ended := atGap next.rest ||
    next.rest.head?.any fun head => "?:,]\x7d%@\x60".toList.contains head
  if name.isEmpty || !ended then none
  return { scanner with keyAllowed := false, cursor := next }.push (token name)

/-- A tag. -/
def tag? (scanner : Scanner) : Option Scanner := do
  let scanner ← scanner.saveKey?
  let (token, cursor) ← readTag? scanner.inFlow scanner.cursor
  return { scanner with keyAllowed := false, cursor }.push token

/-- A block scalar. -/
def blockScalar? (scanner : Scanner) (folding : Bool) : Option Scanner := do
  let scanner ← scanner.dropKey?
  let (text, cursor) ← ScalarText.block? folding scanner.indent scanner.cursor
  return { scanner with keyAllowed := true, cursor }.push
    (.scalar (if folding then .other else .literal) text)

/-- A quoted scalar. -/
def quotedScalar? (scanner : Scanner) (single : Bool) : Option Scanner := do
  let scanner ← scanner.saveKey?
  let (text, cursor) ← ScalarText.quoted? single scanner.cursor
  return { scanner with keyAllowed := false, cursor }.push (.scalar .other text)

/-- A plain scalar. One that ends on a later line than it began allows a key after it. -/
def plainScalar? (scanner : Scanner) : Option Scanner := do
  let scanner ← scanner.saveKey?
  let (text, crossed, cursor) ←
    ScalarText.plain? scanner.inFlow (scanner.indent + 1) scanner.cursor
  return { scanner with keyAllowed := crossed, cursor }.push (.scalar .plain text)

/-- The next token that is no mark and no directive, given the characters it starts with. -/
def content? (scanner : Scanner) (head : Char) (rest : Text) : Option Scanner :=
  let inFlow := scanner.inFlow
  if head == '[' then scanner.flowStart? .flowSequenceStart
  else if head == '\x7b' then scanner.flowStart? .flowMappingStart
  else if head == ']' then scanner.flowEnd? .flowSequenceEnd
  else if head == '\x7d' then scanner.flowEnd? .flowMappingEnd
  else if head == ',' then scanner.flowEntry?
  else if head == '-' && atGap rest then scanner.blockEntry?
  else if head == '?' && (inFlow || atGap rest) then scanner.key?
  else if head == ':' && (inFlow || atGap rest) then scanner.value?
  else if head == '*' then scanner.named? .alias
  else if head == '&' then scanner.named? .anchor
  else if head == '!' then scanner.tag?
  else if head == '|' && !inFlow then scanner.blockScalar? false
  else if head == '>' && !inFlow then scanner.blockScalar? true
  else if head == '\'' then scanner.quotedScalar? true
  else if head == '"' then scanner.quotedScalar? false
  else if isGapBlank head || "#|>%@\x60".toList.contains head then none
  else scanner.plainScalar?

/-- Goes on to the next token and adds it, with what comes before it. -/
def next? (scanner : Scanner) : Option Scanner := do
  let (keyAllowed, cursor) :=
    toNextToken scanner.inFlow (scanner.cursor.rest.length + 1) scanner.keyAllowed scanner.cursor
  let scanner ← { scanner with keyAllowed, cursor }.dropStale?
  let scanner := scanner.closeBlocks scanner.cursor.column
  match scanner.cursor.rest with
  | [] => scanner.endStream?
  | head :: rest =>
    if head == '%' && scanner.cursor.column == 0 then scanner.directive?
    else if scanner.cursor.atDocumentMark then
      scanner.documentMark? (if head == '-' then .documentStart else .documentEnd)
    else scanner.content? head rest

/-- Adds tokens up to the end of the stream. Every token but the last takes a character. -/
def toEnd? : (fuel : Nat) → Scanner → Option (Array Token)
  | 0, _ => none
  | fuel + 1, scanner =>
    match scanner.next? with
    | none => none
    | some scanner =>
      if scanner.tokens.back? == some .streamEnd then some scanner.tokens
      else toEnd? fuel scanner

end Scanner

/-- The tokens of a document, if it can be taken apart. -/
def Token.scan? (text : Text) : Option (List Token) :=
  if text.all isPrintable then
    (Scanner.toEnd? (text.length + 1) { cursor := { rest := text } }).map Array.toList
  else
    none

end Stencil.Yaml
