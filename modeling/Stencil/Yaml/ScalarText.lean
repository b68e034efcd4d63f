/-
The texts of scalars: plain ones, which end where something else must begin; quoted ones, with
escapes between double quotes; and blocks, whose lines are kept or folded. Each reader starts at
the scalar's first character and answers its text and the position after it.
-/

import Stencil.Unicode.Runs
import Stencil.Yaml.Cursor

namespace Stencil.Yaml.ScalarText

/-! ### Plain scalars -/

/-- Characters that end a plain scalar inside brackets or braces. -/
def isFlowIndicator (character : Char) : Bool :=
  character == ',' || character == '[' || character == ']' || character == '{' || character == '}'

/-- The characters of a plain scalar up to a blank or an indicator. Inside brackets or braces a
colon directly before an indicator is refused. -/
def plainRun? (inFlow : Bool) : Text → Option Text
  | [] => some []
  | head :: rest =>
    if isGapBlank head || isBreak head then some []
    else if inFlow && head == ':' &&
        (rest.head?.any fun next => isFlowIndicator next || next == '?') then none
    else if (head == ':' && atGap rest) || (inFlow && isFlowIndicator head) then some []
    else (plainRun? inFlow rest).map (head :: ·)

/-- Reads on in a plain scalar: the text so far, the gap after it, and where the gap ends. The answer
also says whether the scalar ended on a later line. -/
def plainFrom? (inFlow : Bool) (indent : Int) :
    (fuel : Nat) → Text → Gap → Cursor → Option (Text × Bool × Cursor)
  | 0, _, _, _ => none
  | fuel + 1, text, gap, cursor =>
    if cursor.atDocumentMark || cursor.rest.head? == some '#' then
      some (text, gap.crossed, cursor)
    else
      match plainRun? inFlow cursor.rest with
      | none => none
      | some run =>
        let text := if run.isEmpty then text else text ++ gap.folded ++ run
        let gap := if run.isEmpty then gap else {}
        let cursor := cursor.advanceBy run.length
        if cursor.rest.isEmpty || !atGap cursor.rest then
          some (text, gap.crossed, cursor)
        else
          match Gap.read? (some indent) cursor.rest.length gap cursor with
          | none => none
          | some (gap, cursor) =>
            if !inFlow && (cursor.column : Int) < indent then some (text, gap.crossed, cursor)
            else plainFrom? inFlow indent fuel text gap cursor

/-- A plain scalar. -/
def plain? (inFlow : Bool) (indent : Int) (cursor : Cursor) : Option (Text × Bool × Cursor) :=
  plainFrom? inFlow indent (cursor.rest.length + 1) [] {} cursor

/-! ### Quoted scalars -/

/-- The character that a letter stands for after a backslash. -/
def escape? : Char → Option Char
  | '0' => some '\x00'
  | 'a' => some '\x07'
  | 'b' => some '\x08'
  | 't' => some '\t'
  | '\t' => some '\t'
  | 'n' => some '\n'
  | 'v' => some '\x0b'
  | 'f' => some '\x0c'
  | 'r' => some '\r'
  | 'e' => some '\x1b'
  | ' ' => some ' '
  | '"' => some '"'
  | '/' => some '/'
  | '\\' => some '\\'
  | 'N' => some '\u0085'
  | '_' => some '\u00a0'
  | 'L' => some '\u2028'
  | 'P' => some '\u2029'
  | _ => none

/-- How many hexadecimal digits follow a letter after a backslash. -/
def codeLength? : Char → Option Nat
  | 'x' => some 2
  | 'u' => some 4
  | 'U' => some 8
  | _ => none

/-- The character of a code in hexadecimal digits. -/
def charOfCode? (digits : Text) : Option Char :=
  match digits.mapM Unicode.hexDigit? with
  | none => none
  | some values =>
    let code := values.foldl (fun value digit => value * 16 + digit) 0
    if code < 0xD800 ∨ (0xDFFF < code ∧ code < 0x110000) then some (Char.ofNat code) else none

/-- The character that an escape between double quotes stands for, and the characters that the
escape takes with its backslash. -/
def quotedEscape? (letter : Char) (rest : Text) : Option (Char × Nat) :=
  match codeLength? letter with
  | none => (escape? letter).map (·, 2)
  | some length =>
    if rest.length < length then none
    else (charOfCode? (rest.take length)).map (·, length + 2)

/-- Reads on in a quoted scalar. `gap` is what stands between the text so far and the position; a
line break after a backslash starts a gap that leaves no trace of the break. -/
def quotedFrom? (single : Bool) :
    (fuel : Nat) → Text → Cursor → Option (Text × Cursor)
  | 0, _, _ => none
  | fuel + 1, text, cursor =>
    if cursor.atDocumentMark then none
    else
      match cursor.rest with
      | [] => none
      | head :: rest =>
        if single && head == '\'' then
          match rest with
          | '\'' :: _ => quotedFrom? single fuel (text ++ ['\'']) (cursor.advanceBy 2)
          | _ => some (text, cursor.advance)
        else if !single && head == '"' then
          some (text, cursor.advance)
        else if !single && head == '\\' then
          match rest with
          | [] => none
          | letter :: more =>
            if isBreak letter then
              let (_, next) := cursor.advance.readBreak
              match Gap.read? none next.rest.length { crossed := true } next with
              | none => none
              | some (gap, next) => quotedFrom? single fuel (text ++ gap.folded) next
            else
              match quotedEscape? letter more with
              | none => none
              | some (character, length) =>
                quotedFrom? single fuel (text ++ [character]) (cursor.advanceBy length)
        else if isGapBlank head || isBreak head then
          match Gap.read? none cursor.rest.length {} cursor with
          | none => none
          | some (gap, next) => quotedFrom? single fuel (text ++ gap.folded) next
        else
          quotedFrom? single fuel (text ++ [head]) cursor.advance

/-- A quoted scalar, from its opening quote. -/
def quoted? (single : Bool) (cursor : Cursor) : Option (Text × Cursor) :=
  quotedFrom? single (cursor.rest.length + 1) [] cursor.advance

/-! ### Block scalars -/

/-- What becomes of the line breaks at the end of a block. -/
inductive Chomping where
  | strip
  | clip
  | keep
deriving DecidableEq, Repr

/-- The indicators after the one that starts a block: how its end is chomped and how far it is
indented, in either order. -/
def blockHeader? (cursor : Cursor) : Option (Chomping × Option Nat × Cursor) :=
  let chomping? : Char → Option Chomping := fun
    | '+' => some .keep
    | '-' => some .strip
    | _ => none
  match cursor.rest with
  | first :: rest =>
    match chomping? first with
    | some chomping =>
      match rest with
      | digit :: _ =>
        if digit == '0' then none
        else if digit.isDigit then
          some (chomping, some (digit.toNat - '0'.toNat), cursor.advanceBy 2)
        else some (chomping, none, cursor.advance)
      | [] => some (chomping, none, cursor.advance)
    | none =>
      if first == '0' then none
      else if first.isDigit then
        let indent := first.toNat - '0'.toNat
        match rest with
        | second :: _ =>
          match chomping? second with
          | some chomping => some (chomping, some indent, cursor.advanceBy 2)
          | none => some (.clip, some indent, cursor.advance)
        | [] => some (.clip, some indent, cursor.advance)
      else some (.clip, none, cursor)
  | [] => some (.clip, none, cursor)

/-- Reads through empty lines and the indentation of the next line that is not empty: the breaks,
the deepest indentation on the way, and where it ends. A tab inside the indentation is refused; so
long as no indentation is known, every space counts. -/
def blockBreaks? (indent : Option Nat) :
    (fuel : Nat) → Text → (deepest : Nat) → Cursor → Option (Text × Nat × Cursor)
  | 0, breaks, deepest, cursor => some (breaks, deepest, cursor)
  | fuel + 1, breaks, deepest, cursor =>
    let inside := indent.all (cursor.column < ·)
    match cursor.rest with
    | [] => some (breaks, deepest, cursor)
    | head :: _ =>
      if inside && head == ' ' then
        blockBreaks? indent fuel breaks (max deepest (cursor.column + 1)) cursor.advance
      else if inside && head == '\t' then none
      else if isBreak head then
        let (ended, next) := cursor.readBreak
        blockBreaks? indent fuel (breaks ++ ended) deepest next
      else some (breaks, deepest, cursor)

/-- Reads on at the start of a line of a block. `ended` is the break of the line before and `blank`
whether that line began with a blank. -/
def blockLines? (folding : Bool) (indent : Nat) :
    (fuel : Nat) → (text ended breaks : Text) → (blank : Bool) → Cursor →
      Option (Text × Text × Text × Cursor)
  | 0, text, ended, breaks, _, cursor => some (text, ended, breaks, cursor)
  | fuel + 1, text, ended, breaks, blank, cursor =>
    if cursor.column != indent || cursor.rest.isEmpty then some (text, ended, breaks, cursor)
    else
      let startsBlank := cursor.rest.head?.any isGapBlank
      let joined :=
        if folding && ended == ['\n'] && !blank && !startsBlank then
          if breaks.isEmpty then [' '] else breaks
        else ended ++ breaks
      let (line, cursor) := cursor.readWhile fun character => !isBreak character
      let (ended, cursor) := cursor.readBreak
      match blockBreaks? (some indent) (cursor.rest.length + 1) [] 0 cursor with
      | none => none
      | some (breaks, _, cursor) =>
        blockLines? folding indent fuel (text ++ joined ++ line) ended breaks startsBlank cursor

/-- A block scalar, from its indicator; `outer` is the indentation around it. -/
def block? (folding : Bool) (outer : Int) (cursor : Cursor) : Option (Text × Cursor) :=
  match blockHeader? cursor.advance with
  | none => none
  | some (chomping, increment, cursor) =>
    let (_, cursor) := cursor.readWhile isGapBlank
    let cursor := if cursor.rest.head? == some '#' then cursor.toLineEnd else cursor
    if !(cursor.rest.head?.all isBreak) then none
    else
      let (_, cursor) := cursor.readBreak
      let given := increment.map fun increment => (max outer 0).toNat + increment
      match blockBreaks? given (cursor.rest.length + 1) [] 0 cursor with
      | none => none
      | some (breaks, deepest, cursor) =>
        let indent := given.getD (max deepest (max (outer + 1).toNat 1))
        match blockLines? folding indent (cursor.rest.length + 1) [] [] breaks false cursor with
        | none => none
        | some (text, ended, breaks, cursor) =>
          match chomping with
          | .strip => some (text, cursor)
          | .clip => some (text ++ ended, cursor)
          | .keep => some (text ++ ended ++ breaks, cursor)

end Stencil.Yaml.ScalarText
