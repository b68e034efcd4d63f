/-
Regular expressions as data. An expression is read from its source with all flags resolved: a
literal under the case flag is already the set of its variants, and an anchor is already the
assertion that the line flags make of it.
-/

import Stencil.Regex.CharSet

namespace Stencil.Regex

/-- Why a source is no regular expression. -/
inductive SyntaxError where
  | unclosedGroup
  | unopenedGroup
  | lookAround
  | groupName
  | duplicateGroupName
  | flags
  | nothingToRepeat
  | repetitionCount
  | escape
  | backreference
  | unknownProperty
  | unclosedClass
  | classRange
  | classEscape
  | notText
  | tooDeep
  | tooLarge
deriving DecidableEq, Repr

/-- Flags that decide how the source is read. -/
structure Flags where
  /-- Letters match in either case. -/
  ignoreCase : Bool := false
  /-- Anchors match at lines. -/
  multiLine : Bool := false
  /-- The dot matches line feeds. -/
  dotAll : Bool := false
  /-- Repetitions are lazy unless marked. -/
  swapGreed : Bool := false
  /-- Classes and case follow Unicode. -/
  unicode : Bool := true
  /-- A carriage return ends a line, too. -/
  carriageReturn : Bool := false
  /-- Blanks and comments in the source do not count. -/
  ignoreSpace : Bool := false
deriving DecidableEq, Repr

/-- Assertions: what they say of a position depends on the characters next to it. -/
inductive Look where
  | textStart
  | textEnd
  | lineStart
  | lineEnd
  | anyLineStart
  | anyLineEnd
  | wordBoundary (unicode : Bool)
  | notWordBoundary (unicode : Bool)
  | wordStart (unicode : Bool)
  | wordEnd (unicode : Bool)
  | wordStartHalf (unicode : Bool)
  | wordEndHalf (unicode : Bool)
deriving DecidableEq, Repr

/-- Whether an assertion holds between two neighbouring characters, either of which is missing at
an end of the text. -/
def Look.holds (look : Look) (before after : Option Char) : Bool :=
  let word := fun (unicode : Bool) (neighbour : Option Char) =>
    neighbour.any (CharSet.word unicode)
  match look with
  | .textStart => before.isNone
  | .textEnd => after.isNone
  | .lineStart => before.all (· == '\n')
  | .lineEnd => after.all (· == '\n')
  | .anyLineStart =>
    before.all fun character => character == '\n' || (character == '\r' && after != some '\n')
  | .anyLineEnd =>
    after.all fun character => character == '\r' || (character == '\n' && before != some '\r')
  | .wordBoundary unicode => word unicode before != word unicode after
  | .notWordBoundary unicode => word unicode before == word unicode after
  | .wordStart unicode => !word unicode before && word unicode after
  | .wordEnd unicode => word unicode before && !word unicode after
  | .wordStartHalf unicode => !word unicode before
  | .wordEndHalf unicode => !word unicode after

/-- A regular expression. Groups are numbered from one in the order of their opening. -/
inductive Expr where
  | empty
  | set (members : CharSet)
  | look (assertion : Look)
  | group (index : Nat) (body : Expr)
  | cat (first second : Expr)
  | alt (first second : Expr)
  | repetition (body : Expr) (least : Nat) (most : Option Nat) (greedy : Bool)

namespace Expr

/-- Expressions one after another. -/
def cats : List Expr → Expr
  | [] => empty
  | [only] => only
  | first :: rest => cat first (cats rest)

/-- The first of several expressions that matches. -/
def alts : List Expr → Expr
  | [] => empty
  | [only] => only
  | first :: rest => alt first (alts rest)

/-- Whether all that the expression can match is the empty text. -/
def matchesOnlyEmpty : Expr → Bool
  | empty => true
  | set _ => false
  | look _ => true
  | group _ body => body.matchesOnlyEmpty
  | cat first second => first.matchesOnlyEmpty && second.matchesOnlyEmpty
  | alt first second => first.matchesOnlyEmpty && second.matchesOnlyEmpty
  | repetition body _ most _ => most == some 0 || body.matchesOnlyEmpty

/-- A repetition in its simplest form: what matches only the empty text is repeated at most once,
no repetition is the empty expression, and exactly one is the body. -/
def repeated (body : Expr) (least : Nat) (most : Option Nat) (greedy : Bool) : Expr :=
  let (least, most) :=
    if body.matchesOnlyEmpty then (min least 1, some (min (most.getD 1) 1)) else (least, most)
  if most == some 0 then empty
  else if least == 1 && most == some 1 then body
  else repetition body least most greedy

/-- The number of the last group, zero without groups. -/
def lastGroup : Expr → Nat
  | group index body => max index body.lastGroup
  | cat first second => max first.lastGroup second.lastGroup
  | alt first second => max first.lastGroup second.lastGroup
  | repetition body _ _ _ => body.lastGroup
  | _ => 0

/-- How many steps the expression takes once its counted repetitions are written out. -/
def size : Expr → Nat
  | group _ body => body.size + 1
  | cat first second => first.size + second.size
  | alt first second => first.size + second.size + 1
  | repetition body least most _ => (max 1 (max least (most.getD 0))) * (body.size + 1)
  | _ => 1

/-- The size of the largest counted repetition, zero without any. -/
def countedSize : Expr → Nat
  | group _ body => body.countedSize
  | cat first second => max first.countedSize second.countedSize
  | alt first second => max first.countedSize second.countedSize
  | repetition body least most greedy =>
    if 1 < max least (most.getD 0) then (repetition body least most greedy).size
    else body.countedSize
  | _ => 0

end Expr

end Stencil.Regex
