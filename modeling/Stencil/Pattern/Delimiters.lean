/-
Delimiters read off the source of a regular expression. The opening delimiter is the run of fixed
characters before the first group, cut at the first thing that is none; the closing delimiter is
the run of fixed characters that ends the source after the last group. A side without any falls
back to the default.
-/

import Stencil.Text.Basic

namespace Stencil

/-- The opening delimiter where nothing else is said. -/
def defaultOpening : Text :=
  ['{', '{']

/-- The closing delimiter where nothing else is said. -/
def defaultClosing : Text :=
  ['}', '}']

namespace Delimiters

/-! ### Atoms -/

/-- A unit of a source, as far as delimiters go. -/
inductive Atom where
  /-- A fixed character. -/
  | literal (character : Char)
  | groupOpen
  | groupClose
  /-- An assertion, which takes no text. -/
  | anchor
  /-- A repetition whose subject may be missing. -/
  | optional
  /-- A repetition whose subject occurs at least once. -/
  | repeated
  /-- Text that is not fixed: a class, a dot, an alternative. -/
  | varying
deriving DecidableEq, Repr

/-- The text after the next closing brace. -/
def afterBrace (text : Text) : Text :=
  (text.dropWhile (· != '}')).drop 1

/-- The text after the argument of an escape that takes one: between braces, or of the width that
goes with the letter. -/
def afterArgument (letter : Char) (text : Text) : Text :=
  match text with
  | '{' :: _ => afterBrace text
  | _ =>
    match letter with
    | 'x' => text.drop 2
    | 'u' => text.drop 4
    | 'U' => text.drop 8
    | _ => text.drop 1

/-- The text after the bracket that closes a class, `depth` brackets being open. -/
def afterBrackets : (depth : Nat) → Text → Text
  | 0, text => text
  | _ + 1, [] => []
  | _ + 1, ['\\'] => []
  | depth + 1, '\\' :: _ :: rest => afterBrackets (depth + 1) rest
  | depth + 1, '[' :: rest => afterBrackets (depth + 2) rest
  | depth + 1, ']' :: rest => afterBrackets depth rest
  | depth + 1, _ :: rest => afterBrackets (depth + 1) rest

/-- The text without a given first character. -/
def dropFirst (character : Char) : Text → Text
  | [] => []
  | head :: rest => if head = character then rest else head :: rest

/-- The text after a class, whose opening bracket stands before the text. A closing bracket that
comes first stands for itself. -/
def afterClass (text : Text) : Text :=
  afterBrackets 1 (dropFirst ']' (dropFirst '^' text))

/-- The atom that an escape stands for, and the text after it. -/
def escapeAtom (letter : Char) (rest : Text) : Atom × Text :=
  match letter with
  | 'b' | 'B' | 'A' | 'z' => (.anchor, rest)
  | 'n' => (.literal '\n', rest)
  | 't' => (.literal '\t', rest)
  | 'r' => (.literal '\r', rest)
  | 'x' | 'u' | 'U' | 'p' | 'P' => (.varying, afterArgument letter rest)
  | _ => if letter.isAlphanum then (.varying, rest) else (.literal letter, rest)

/-- The first atom of a source and the text after it. -/
def nextAtom? : Text → Option (Atom × Text)
  | [] => none
  | ['\\'] => none
  | '\\' :: letter :: rest => some (escapeAtom letter rest)
  | head :: rest =>
    some <|
      match head with
      | '(' => (.groupOpen, rest)
      | ')' => (.groupClose, rest)
      | '^' | '$' => (.anchor, rest)
      | '*' | '?' => (.optional, rest)
      | '+' => (.repeated, rest)
      | '{' => (.optional, afterBrace rest)
      | '[' => (.varying, afterClass rest)
      | '.' | '|' => (.varying, rest)
      | _ => (.literal head, rest)

/-- The atoms of a source. Every atom takes at least one character. -/
def atomsWithin : (fuel : Nat) → Text → List Atom
  | 0, _ => []
  | fuel + 1, text =>
    match nextAtom? text with
    | none => []
    | some (atom, rest) => atom :: atomsWithin fuel rest

/-- The atoms of a source. -/
def atoms (source : Text) : List Atom :=
  atomsWithin source.length source

/-! ### Sides -/

/-- The fixed text before the first group and the atoms after its parenthesis, if there is a
group. Once the text is cut, nothing more is added to it. -/
def beforeGroup : (cut : Bool) → (fixed : Text) → List Atom → Option (Text × List Atom)
  | _, _, [] => none
  | cut, fixed, atom :: rest =>
    match atom with
    | .groupOpen => some (fixed, rest)
    | .literal character => beforeGroup cut (if cut then fixed else fixed ++ [character]) rest
    | .anchor | .repeated => beforeGroup cut fixed rest
    | .optional => beforeGroup true (if cut then fixed else fixed.dropLast) rest
    | .groupClose | .varying => beforeGroup true fixed rest

/-- The fixed text that ends the atoms, if they end outside the groups opened last. -/
def afterGroups : (closed : Bool) → (fixed : Text) → List Atom → Option Text
  | closed, fixed, [] => if closed then some fixed else none
  | closed, fixed, atom :: rest =>
    match atom with
    | .groupOpen => afterGroups false [] rest
    | .groupClose => afterGroups true [] rest
    | .literal character => afterGroups closed (if closed then fixed ++ [character] else fixed) rest
    | .optional | .varying => afterGroups closed [] rest
    | .anchor | .repeated => afterGroups closed fixed rest

/-- A delimiter, or the default where there is no fixed text. -/
def orDefault (fallback : Text) : Option Text → Text
  | none => fallback
  | some [] => fallback
  | some fixed => fixed

/-- The opening and the closing delimiter of a source. -/
def derive (source : Text) : Text × Text :=
  match beforeGroup false [] (atoms source) with
  | none => (defaultOpening, defaultClosing)
  | some (opening, rest) =>
    (orDefault defaultOpening (some opening), orDefault defaultClosing (afterGroups false [] rest))

end Delimiters

end Stencil
