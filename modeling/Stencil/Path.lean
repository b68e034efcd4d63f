/-
Paths into a tree of variables. A key equal to the whole path wins; otherwise the path is cut into
segments at dots and brackets, and the segments are walked one by one, through objects by key and
through arrays by index.
-/

import Stencil.Json.Basic
import Stencil.Text.Blank

namespace Stencil.Path

/-- Characters between segments. -/
def isSeparator (character : Char) : Bool :=
  character == '.' || character == '[' || character == ']'

/-- Quotes around a segment, which do not belong to it. -/
def isQuote (character : Char) : Bool :=
  character == '"' || character == '\''

/-- The texts between the characters that satisfy the test. -/
def splitOn (test : Char → Bool) : Text → List Text
  | [] => [[]]
  | head :: rest =>
    match splitOn test rest with
    | [] => [[head]]
    | first :: others => if test head then [] :: first :: others else (head :: first) :: others

/-- The segments of a path, without quotes and without empty ones. -/
def segments (path : Text) : List Text :=
  ((splitOn isSeparator path).map (Text.trimWhile isQuote)).filter (!·.isEmpty)

/-- The index that a segment spells: ASCII digits, at most one plus sign before them, of no more
than 64 bits. -/
def index? (segment : Text) : Option Nat :=
  let digits := match segment with
    | '+' :: rest => rest
    | _ => segment
  if digits.isEmpty || !digits.all Char.isDigit then none
  else
    let value := Decimal.ofDigits digits
    if value < 2 ^ 64 then some value else none

/-- Walks from a value along segments. -/
def walk : Json → List Text → Option Json
  | value, [] => some value
  | .object members, segment :: rest =>
    match Json.Members.get? members segment with
    | some value => walk value rest
    | none => none
  | .array items, segment :: rest =>
    match index? segment with
    | some index =>
      match items[index]? with
      | some value => walk value rest
      | none => none
    | none => none
  | _, _ :: _ => none

/-- Walks from the variables along the segments of a path; a path without segments leads nowhere. -/
def walkFrom (bindings : Json) (path : Text) : Option Json :=
  match segments path with
  | [] => none
  | steps => walk bindings steps

/-- The value at a path. -/
def lookup (bindings : Json) (path : Text) : Option Json :=
  match bindings with
  | .object members =>
    match Json.Members.get? members path with
    | some value => some value
    | none => walkFrom bindings path
  | _ => walkFrom bindings path

end Stencil.Path
