/-
Reading regular expressions. The source is read in one pass; groups that are still open form a
stack, and each level keeps the alternatives finished so far and the parts of the one being read.
A flag set inside a group holds to the end of the group, across its alternatives.
-/

import Stencil.Number.Decimal
import Stencil.Regex.Class

namespace Stencil.Regex

/-- A part of an alternative: the expression, how deep its syntax nests, and whether it can be
repeated. A directive that only sets flags cannot. -/
structure Part where
  expr : Expr
  depth : Nat := 0
  repeatable : Bool := true

/-- The part of an expression whose syntax does not nest. -/
def Part.flat (expr : Expr) : Part :=
  { expr }

/-- Parts in the order in which they were read, given the last one first. -/
def Part.concatenate (reversed : List Part) : Part :=
  match reversed with
  | [] => .flat .empty
  | [part] => { part with repeatable := true }
  | parts =>
    { expr := Expr.cats (parts.reverse.map (·.expr))
      depth := (parts.map (·.depth)).foldl max 0 + 1 }

/-- Alternatives in the order in which they were read, given the last one first. -/
def Part.alternate (reversed : List Part) : Part :=
  match reversed with
  | [part] => part
  | parts =>
    { expr := Expr.alts (parts.reverse.map (·.expr))
      depth := (parts.map (·.depth)).foldl max 0 + 1 }

/-- One level of groups: its finished alternatives and the parts of the one being read, each the
last one first. -/
structure Level where
  branches : List Part := []
  parts : List Part := []

/-- The expression of a level. -/
def Level.part (level : Level) : Part :=
  Part.alternate (Part.concatenate level.parts :: level.branches)

/-- A group that is open: the level around it, the flags that hold after it, and its number if it
captures. -/
structure OpenGroup where
  around : Level
  flags : Flags
  index : Option Nat

/-- What has been read so far. -/
structure Progress where
  flags : Flags := {}
  level : Level := {}
  groups : List OpenGroup := []
  captures : Nat := 0
  names : List Text := []

namespace Progress

/-- Adds a part to the alternative being read. -/
def push (progress : Progress) (part : Part) : Progress :=
  { progress with level := { progress.level with parts := part :: progress.level.parts } }

/-- Ends the alternative being read and starts the next. -/
def branch (progress : Progress) : Progress :=
  { progress with
    level := ⟨Part.concatenate progress.level.parts :: progress.level.branches, []⟩ }

/-- Opens a group, with the flags that hold inside it. -/
def openGroup (progress : Progress) (index : Option Nat) (flags : Flags) : Progress :=
  { progress with
    flags := flags
    level := {}
    groups := ⟨progress.level, progress.flags, index⟩ :: progress.groups
    captures := progress.captures + (if index.isSome then 1 else 0) }

/-- Closes the innermost group. -/
def closeGroup (progress : Progress) : Except SyntaxError Progress :=
  match progress.groups with
  | [] => .error .unopenedGroup
  | group :: groups =>
    let body := progress.level.part
    let expr := match group.index with
      | some index => .group index body.expr
      | none => body.expr
    .ok <| Progress.push
      { progress with flags := group.flags, level := group.around, groups := groups }
      { expr := expr, depth := body.depth + 1 }

/-- Repeats the last part. -/
def repeatLast (progress : Progress) (least : Nat) (most : Option Nat) (lazy : Bool) :
    Except SyntaxError Progress :=
  match progress.level.parts with
  | [] => .error .nothingToRepeat
  | part :: parts =>
    if part.repeatable then
      let greedy := progress.flags.swapGreed == lazy
      let repetition : Part :=
        { expr := part.expr.repeated least most greedy, depth := part.depth + 1 }
      .ok { progress with level := { progress.level with parts := repetition :: parts } }
    else
      .error .nothingToRepeat

end Progress

/-! ### Groups -/

/-- The flag of a letter, as a change of flags. -/
def flag? : Char → Option (Bool → Flags → Flags)
  | 'i' => some fun value flags => { flags with ignoreCase := value }
  | 'm' => some fun value flags => { flags with multiLine := value }
  | 's' => some fun value flags => { flags with dotAll := value }
  | 'U' => some fun value flags => { flags with swapGreed := value }
  | 'u' => some fun value flags => { flags with unicode := value }
  | 'R' => some fun value flags => { flags with carriageReturn := value }
  | 'x' => some fun value flags => { flags with ignoreSpace := value }
  | _ => none

/-- Letters of flags up to a colon or a closing parenthesis, each at most once and at least one
after a hyphen: the flags they make of the given ones, the letters, and the rest. -/
def readFlags (value : Bool) (seen : List Char) (flags : Flags) :
    Text → Except SyntaxError (Flags × List Char × Text)
  | [] => .error .flags
  | head :: rest =>
    if head == ':' || head == ')' then
      if seen.head? == some '-' then .error .flags else .ok (flags, seen, head :: rest)
    else if seen.contains head then .error .flags
    else if head == '-' then readFlags false (head :: seen) flags rest
    else
      match flag? head with
      | none => .error .flags
      | some change => readFlags value (head :: seen) (change value flags) rest

/-- Whether a character may stand in the name of a group. -/
def isGroupNameCharacter (first : Bool) (character : Char) : Bool :=
  if first then character == '_' || Unicode.isAlphabetic character
  else
    ['_', '.', '[', ']'].contains character || Unicode.isAlphabetic character ||
      (Unicode.Category.of character).isNumber

/-- Opens a group that captures under a name, after the angle that starts the name. -/
def openNamedGroup (progress : Progress) (text : Text) : Except SyntaxError (Progress × Text) :=
  let name := text.takeWhile (· != '>')
  match text.dropWhile (· != '>') with
  | [] => .error .groupName
  | _ :: rest =>
    match name with
    | [] => .error .groupName
    | first :: others =>
      if !(isGroupNameCharacter true first && others.all (isGroupNameCharacter false)) then
        .error .groupName
      else if progress.names.contains name then .error .duplicateGroupName
      else
        let named := { progress with names := name :: progress.names }
        .ok (named.openGroup (some (progress.captures + 1)) progress.flags, rest)

/-- Opens a group, or sets flags, after an opening parenthesis. -/
def readGroup (progress : Progress) (text : Text) : Except SyntaxError (Progress × Text) :=
  match progress.flags.skip text with
  | '?' :: '=' :: _ => .error .lookAround
  | '?' :: '!' :: _ => .error .lookAround
  | '?' :: '<' :: '=' :: _ => .error .lookAround
  | '?' :: '<' :: '!' :: _ => .error .lookAround
  | '?' :: 'P' :: '<' :: rest => openNamedGroup progress rest
  | '?' :: '<' :: rest => openNamedGroup progress rest
  | '?' :: rest => do
    let (flags, letters, rest) ← readFlags true [] progress.flags rest
    match rest with
    | ':' :: rest => return (progress.openGroup none flags, rest)
    | _ =>
      if letters.isEmpty then throw .nothingToRepeat
      let directive : Part := { expr := .empty, repeatable := false }
      return ({ progress.push directive with flags }, rest.drop 1)
  | text => .ok (progress.openGroup (some (progress.captures + 1)) progress.flags, text)

/-! ### Repetitions -/

/-- Digits of a count, with the blanks around them; a count has at most 32 bits. -/
def readCount (flags : Flags) (text : Text) : Except SyntaxError (Option Nat × Text) :=
  let rec digits : (fuel : Nat) → Text → Text × Text
    | 0, text => ([], text)
    | fuel + 1, text =>
      match text with
      | head :: rest =>
        if head.isDigit then
          let (more, rest) := digits fuel (flags.skip rest)
          (head :: more, rest)
        else
          ([], text)
      | [] => ([], [])
  let text := text.dropWhile isBlank
  let (count, text) := digits text.length text
  let text := flags.skip (text.dropWhile isBlank)
  if count.isEmpty then .ok (none, text)
  else
    let value := Decimal.ofDigits count
    if value < 2 ^ 32 then .ok (some value, text) else .error .repetitionCount

/-- Whether a question mark follows, which makes a repetition lazy. -/
def readLazy : Text → Bool × Text
  | '?' :: rest => (true, rest)
  | text => (false, text)

/-- A repetition with counts, after its opening brace. -/
def readCounted (progress : Progress) (text : Text) : Except SyntaxError (Progress × Text) := do
  let flags := progress.flags
  let (least?, text) ← readCount flags (flags.skip text)
  let some least := least? | throw .repetitionCount
  let (most, text) ← match text with
    | ',' :: rest =>
      match flags.skip rest with
      | '}' :: rest => pure (none, '}' :: rest)
      | rest =>
        let (most?, rest) ← readCount flags rest
        match most? with
        | some most => pure (some most, rest)
        | none => throw .repetitionCount
    | text => pure (some least, text)
  match text with
  | '}' :: rest =>
    let (lazy, rest) := readLazy (flags.skip rest)
    if most.all (least ≤ ·) then
      return (← progress.repeatLast least most lazy, rest)
    else
      throw .repetitionCount
  | _ => throw .repetitionCount

/-! ### Single characters -/

/-- The expression of a literal character. -/
def Flags.literal (flags : Flags) (character : Char) : Expr :=
  .set (flags.fold (.single character))

/-- The expression of the dot: any character that does not end a line. -/
def Flags.dot (flags : Flags) : Except SyntaxError Expr :=
  if !flags.unicode then .error .notText
  else if flags.dotAll then .ok (.set fun _ => true)
  else if flags.carriageReturn then
    .ok (.set fun candidate => candidate != '\n' && candidate != '\r')
  else .ok (.set fun candidate => candidate != '\n')

/-- The assertion of the caret. -/
def Flags.lineStart (flags : Flags) : Look :=
  if !flags.multiLine then .textStart
  else if flags.carriageReturn then .anyLineStart
  else .lineStart

/-- The assertion of the dollar sign. -/
def Flags.lineEnd (flags : Flags) : Look :=
  if !flags.multiLine then .textEnd
  else if flags.carriageReturn then .anyLineEnd
  else .lineEnd

/-- The expression of an escape outside a class. -/
def Primitive.expr (flags : Flags) : Primitive → Except SyntaxError Expr
  | .literal character byte =>
    if !flags.unicode && byte && 0x80 ≤ character.toNat then .error .notText
    else .ok (flags.literal character)
  | .set members => .ok (.set members)
  | .look assertion => .ok (.look assertion)

/-! ### Expressions -/

/-- Reads one piece of syntax that starts with the given character. -/
def readPiece (progress : Progress) (head : Char) (rest : Text) :
    Except SyntaxError (Progress × Text) :=
  let flags := progress.flags
  match head with
  | '(' => readGroup progress rest
  | ')' => progress.closeGroup.map (·, rest)
  | '|' => .ok (progress.branch, rest)
  | '[' => do
    let (members, depth, rest) ← readClass flags rest
    return (progress.push { expr := .set members, depth }, rest)
  | '?' =>
    let (lazy, rest) := readLazy rest
    (progress.repeatLast 0 (some 1) lazy).map (·, rest)
  | '*' =>
    let (lazy, rest) := readLazy rest
    (progress.repeatLast 0 none lazy).map (·, rest)
  | '+' =>
    let (lazy, rest) := readLazy rest
    (progress.repeatLast 1 none lazy).map (·, rest)
  | '{' => readCounted progress rest
  | '\\' => do
    let (primitive, rest) ← readEscape flags rest
    return (progress.push (.flat (← primitive.expr flags)), rest)
  | '.' => do return (progress.push (.flat (← flags.dot)), rest)
  | '^' => .ok (progress.push (.flat (.look flags.lineStart)), rest)
  | '$' => .ok (progress.push (.flat (.look flags.lineEnd)), rest)
  | _ => .ok (progress.push (.flat (flags.literal head)), rest)

/-- Reads to the end of the source. Every piece takes at least one character, so the length of the
source is fuel enough. -/
def readPieces : (fuel : Nat) → Progress → Text → Except SyntaxError Progress
  | 0, progress, _ => .ok progress
  | fuel + 1, progress, text =>
    match progress.flags.skip text with
    | [] => .ok progress
    | head :: rest => do
      let (progress, rest) ← readPiece progress head rest
      readPieces fuel progress rest

/-- The deepest nesting of syntax that is accepted. -/
def maxDepth : Nat :=
  250

/-- The largest size of a repetition with counts, once it is written out. -/
def maxCountedSize : Nat :=
  300000

/-- The expression of a source. -/
def read (source : Text) : Except SyntaxError Expr := do
  let progress ← readPieces source.length {} source
  if !progress.groups.isEmpty then throw .unclosedGroup
  let part := progress.level.part
  if maxDepth < part.depth then throw .tooDeep
  if maxCountedSize < part.expr.countedSize then throw .tooLarge
  return part.expr

end Stencil.Regex
