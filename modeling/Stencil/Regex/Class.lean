/-
Bracketed classes of a regular expression's source: characters, ranges, escapes, named sets and
classes in brackets of their own, gathered into a set; and operators between such gatherings,
which bind alike and to the left. Classes that are still open form a stack, the innermost first.
-/

import Stencil.Regex.Escape

namespace Stencil.Regex

/-- Operators between the parts of a class. -/
inductive ClassOperator where
  | intersection
  | difference
  | symmetricDifference
deriving DecidableEq, Repr

/-- The set an operator makes of two. -/
def ClassOperator.apply (operator : ClassOperator) (left right : CharSet) : CharSet :=
  fun candidate =>
    match operator with
    | .intersection => left candidate && right candidate
    | .difference => left candidate && !right candidate
    | .symmetricDifference => left candidate != right candidate

/-- Items gathered side by side: their union, their number and the deepest nesting among them. -/
structure Gathered where
  members : CharSet := CharSet.none
  count : Nat := 0
  depth : Nat := 0

/-- Adds an item. -/
def Gathered.add (gathered : Gathered) (members : CharSet) (depth : Nat) : Gathered :=
  ⟨gathered.members.union members, gathered.count + 1, max gathered.depth depth⟩

/-- How deep the gathering nests: several items count as one level. -/
def Gathered.height (gathered : Gathered) : Nat :=
  if gathered.count ≤ 1 then gathered.depth else gathered.depth + 1

/-- A class whose closing bracket has not been read. -/
structure OpenClass where
  negated : Bool
  /-- The operator that waits for its right side, with its left side and how deep that nests. -/
  pending : Option (ClassOperator × CharSet × Nat) := none
  gathered : Gathered := {}

namespace OpenClass

/-- Adds an item to the part being gathered. -/
def add (opened : OpenClass) (members : CharSet) (depth : Nat) : OpenClass :=
  { opened with gathered := opened.gathered.add members depth }

/-- The set read so far and how deep it nests. -/
def operand (flags : Flags) (opened : OpenClass) : CharSet × Nat :=
  let right := opened.gathered
  match opened.pending with
  | none => (right.members, right.height)
  | some (operator, left, depth) =>
    (operator.apply (flags.fold left) (flags.fold right.members), max depth right.height + 1)

/-- Makes the set read so far the left side of an operator. -/
def operator (flags : Flags) (opened : OpenClass) (operator : ClassOperator) : OpenClass :=
  let (left, depth) := opened.operand flags
  { opened with pending := some (operator, left, depth), gathered := {} }

/-- The set of the class and how deep it nests. Case is folded before the class is negated. -/
def close (flags : Flags) (opened : OpenClass) : Except SyntaxError (CharSet × Nat) :=
  let (members, depth) := opened.operand flags
  let folded := flags.fold members
  let closed := if opened.negated then folded.complement else folded
  if !flags.unicode && !closed.isAscii then .error .notText else .ok (closed, depth + 1)

end OpenClass

/-! ### Opening -/

/-- Adds the hyphens at the start of a class, which stand for themselves. -/
def readLeadingHyphens (flags : Flags) : (fuel : Nat) → OpenClass → Text → OpenClass × Text
  | 0, opened, text => (opened, text)
  | fuel + 1, opened, text =>
    match text with
    | '-' :: rest => readLeadingHyphens flags fuel (opened.add (.single '-') 0) (flags.skip rest)
    | _ => (opened, text)

/-- Opens a class after its bracket: perhaps negated, then leading hyphens, or a closing bracket
that stands for itself. -/
def openClass (flags : Flags) (text : Text) : OpenClass × Text :=
  let (negated, text) := match flags.skip text with
    | '^' :: rest => (true, flags.skip rest)
    | text => (false, text)
  let (opened, text) := readLeadingHyphens flags text.length { negated } text
  if opened.gathered.count == 0 then
    match text with
    | ']' :: rest => (opened.add (.single ']') 0, flags.skip rest)
    | _ => (opened, text)
  else
    (opened, text)

/-! ### Items -/

/-- A named set such as `[:alpha:]`, after its bracket. -/
def readNamedSet? (text : Text) : Option (CharSet × Bool × Text) :=
  match text with
  | ':' :: rest =>
    let (negated, rest) := match rest with
      | '^' :: rest => (true, rest)
      | _ => (false, rest)
    match rest.dropWhile (· != ':') with
    | ':' :: ']' :: after =>
      (CharSet.named? (rest.takeWhile (· != ':'))).map fun members => (members, negated, after)
    | _ => none
  | _ => none

/-- One character of a class, or an escape in its place. -/
def readClassPrimitive (flags : Flags) : Text → Except SyntaxError (Primitive × Text)
  | [] => .error .unclosedClass
  | '\\' :: rest => readEscape flags rest
  | character :: rest => .ok (.literal character false, rest)

/-- The character that an end of a range stands for. -/
def Primitive.character (flags : Flags) : Primitive → Except SyntaxError Char
  | .literal character byte =>
    if flags.unicode || byte || character.toNat < 0x80 then .ok character else .error .notText
  | _ => .error .classRange

/-- The set that an item stands for. -/
def Primitive.members (flags : Flags) : Primitive → Except SyntaxError CharSet
  | .literal character byte => do
    let character ← Primitive.character flags (.literal character byte)
    return .single character
  | .set members => .ok members
  | .look _ => .error .classEscape

/-- A character, an escape or a range. A hyphen before a closing bracket or another hyphen makes
no range. -/
def readClassItem (flags : Flags) (text : Text) : Except SyntaxError (CharSet × Text) := do
  let (first, text) ← readClassPrimitive flags text
  match flags.skip text with
  | [] => throw .unclosedClass
  | '-' :: rest =>
    match flags.skip rest with
    | [] => throw .unclosedClass
    | ']' :: _ => return (← first.members flags, '-' :: rest)
    | '-' :: _ => return (← first.members flags, '-' :: rest)
    | text =>
      let (last, text) ← readClassPrimitive flags text
      let first ← first.character flags
      let last ← last.character flags
      if first ≤ last then return (.range first last, text) else throw .classRange
  | text => return (← first.members flags, text)

/-! ### Classes -/

/-- Reads on inside an open class up to the bracket that closes the outermost one: the set, how
deep it nests, and the text after it. -/
def readClassFrom (flags : Flags) :
    (fuel : Nat) → OpenClass → List OpenClass → Text → Except SyntaxError (CharSet × Nat × Text)
  | 0, _, _, _ => .error .unclosedClass
  | fuel + 1, current, outer, text =>
    match flags.skip text with
    | [] => .error .unclosedClass
    | '[' :: rest =>
      match readNamedSet? rest with
      | some (members, negated, rest) => do
        let folded := flags.fold members
        let members := if negated then folded.complement else folded
        if !flags.unicode && !members.isAscii then throw .notText
        readClassFrom flags fuel (current.add members 0) outer rest
      | none =>
        let (inner, rest) := openClass flags rest
        readClassFrom flags fuel inner (current :: outer) rest
    | ']' :: rest => do
      let (members, depth) ← current.close flags
      match outer with
      | [] => return (members, depth, rest)
      | parent :: outer => readClassFrom flags fuel (parent.add members depth) outer rest
    | '&' :: '&' :: rest =>
      readClassFrom flags fuel (current.operator flags .intersection) outer rest
    | '-' :: '-' :: rest =>
      readClassFrom flags fuel (current.operator flags .difference) outer rest
    | '~' :: '~' :: rest =>
      readClassFrom flags fuel (current.operator flags .symmetricDifference) outer rest
    | text => do
      let (members, rest) ← readClassItem flags text
      readClassFrom flags fuel (current.add members 0) outer rest

/-- A class after its opening bracket. -/
def readClass (flags : Flags) (text : Text) : Except SyntaxError (CharSet × Nat × Text) :=
  let (opened, rest) := openClass flags text
  readClassFrom flags (rest.length + 1) opened [] rest

end Stencil.Regex
