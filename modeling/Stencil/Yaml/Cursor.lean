/-
Positions in a YAML document, its classes of characters, and the gaps of blanks and line breaks
that fold inside scalars.
-/

import Stencil.Text.Basic

namespace Stencil.Yaml

/-! ### Characters -/

/-- Whether a character ends a line. -/
def isBreak (character : Char) : Bool :=
  character == '\n' || character == '\r' || character.toNat == 0x85 ||
    character.toNat == 0x2028 || character.toNat == 0x2029

/-- Whether a character is a space or a tab. -/
def isGapBlank (character : Char) : Bool :=
  character == ' ' || character == '\t'

/-- Whether a character is one of an anchor's name or a tag's handle. -/
def isNameCharacter (character : Char) : Bool :=
  character.isAlphanum || character == '_' || character == '-'

/-- Whether a document may hold a character. -/
def isPrintable (character : Char) : Bool :=
  let code := character.toNat
  code == 0x09 || code == 0x0A || code == 0x0D || (0x20 ≤ code && code ≤ 0x7E) || code == 0x85 ||
    (0xA0 ≤ code && code ≤ 0xD7FF) || (0xE000 ≤ code && code ≤ 0xFFFD) || 0x10000 ≤ code

/-- Whether a text is at its end or goes on with a blank or a line break. -/
def atGap : Text → Bool
  | [] => true
  | head :: _ => isGapBlank head || isBreak head

/-! ### Positions -/

/-- A position in a document: the text after it, the characters before it, its line and the
characters before it on the line. -/
structure Cursor where
  rest : Text
  index : Nat := 0
  line : Nat := 0
  column : Nat := 0

namespace Cursor

/-- The position one character on, on the same line. -/
def advance (cursor : Cursor) : Cursor :=
  { cursor with
    rest := cursor.rest.drop 1, index := cursor.index + 1, column := cursor.column + 1 }

/-- The position some characters on, on the same line. -/
def advanceBy (cursor : Cursor) (count : Nat) : Cursor :=
  { cursor with
    rest := cursor.rest.drop count, index := cursor.index + count
    column := cursor.column + count }

/-- The line break at a position as scalars keep it, and the position after it. At any other
position there is no break. -/
def readBreak (cursor : Cursor) : Text × Cursor :=
  let next := fun (count : Nat) => Cursor.mk (cursor.rest.drop count) (cursor.index + count)
    (cursor.line + 1) 0
  match cursor.rest with
  | '\r' :: '\n' :: _ => (['\n'], next 2)
  | head :: _ =>
    if !isBreak head then ([], cursor)
    else if head.toNat == 0x2028 || head.toNat == 0x2029 then ([head], next 1)
    else (['\n'], next 1)
  | [] => ([], cursor)

/-- The position after the characters that satisfy the test, and those characters. -/
def readWhile (cursor : Cursor) (test : Char → Bool) : Text × Cursor :=
  let read := cursor.rest.takeWhile test
  (read, cursor.advanceBy read.length)

/-- The position at the end of the line. -/
def toLineEnd (cursor : Cursor) : Cursor :=
  (cursor.readWhile fun character => !isBreak character).2

/-- Whether a mark between documents starts here. -/
def atDocumentMark (cursor : Cursor) : Bool :=
  cursor.column == 0 &&
    match cursor.rest with
    | '-' :: '-' :: '-' :: rest => atGap rest
    | '.' :: '.' :: '.' :: rest => atGap rest
    | _ => false

end Cursor

/-! ### Gaps -/

/-- Blanks and line breaks inside a scalar: the blanks, as long as no line has ended, the first
line break and the later ones. -/
structure Gap where
  crossed : Bool := false
  blanks : Text := []
  first : Text := []
  more : Text := []

namespace Gap

/-- What stands for a gap: its blanks on one line, a space for a single line break, and the breaks
after the first one otherwise. -/
def folded (gap : Gap) : Text :=
  if !gap.crossed then gap.blanks
  else if gap.first == ['\n'] then
    if gap.more.isEmpty then [' '] else gap.more
  else
    gap.first ++ gap.more

/-- Reads on through a gap. With an indentation given, a tab before it is refused on later
lines. -/
def read? (indent : Option Int) : (fuel : Nat) → Gap → Cursor → Option (Gap × Cursor)
  | 0, gap, cursor => some (gap, cursor)
  | fuel + 1, gap, cursor =>
    match cursor.rest with
    | [] => some (gap, cursor)
    | head :: _ =>
      if isGapBlank head then
        if !gap.crossed then
          read? indent fuel { gap with blanks := gap.blanks ++ [head] } cursor.advance
        else if head == '\t' && indent.any ((cursor.column : Int) < ·) then
          none
        else
          read? indent fuel gap cursor.advance
      else if isBreak head then
        let (ended, next) := cursor.readBreak
        if gap.crossed then read? indent fuel { gap with more := gap.more ++ ended } next
        else read? indent fuel { crossed := true, first := ended } next
      else
        some (gap, cursor)

end Gap

end Stencil.Yaml
