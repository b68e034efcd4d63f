/-
Values of JSON documents. The members of an object keep the order in which they were written.
A document may write a key twice; `collapse` gives such a key one member, at the place of the
first and with the value of the last.
-/

import Stencil.Json.Number

namespace Stencil

/-- A value of a JSON document. -/
inductive Json where
  | null
  | bool (value : Bool)
  | number (value : Json.Number)
  | string (value : Text)
  | array (items : List Json)
  | object (members : List (Text × Json))

namespace Json

/-- Members of an object, in order. -/
abbrev Members := List (Text × Json)

/-- The value of a key. -/
def Members.get? (members : Members) (key : Text) : Option Json :=
  members.lookup key

/-- Whether the key is there. -/
def Members.hasKey (members : Members) (key : Text) : Bool :=
  (Members.get? members key).isSome

/-- Gives a key a value: in its place if the key is there, as the last member otherwise. -/
def Members.put (key : Text) (value : Json) : Members → Members
  | [] => [(key, value)]
  | (other, kept) :: rest =>
    if other = key then (key, value) :: rest else (other, kept) :: Members.put key value rest

/-- The members with each key once, at its first place and with its last value. -/
def Members.ofPairs (pairs : Members) : Members :=
  pairs.foldl (fun members (key, value) => Members.put key value members) []

/-- Whether the value is an object or an array. -/
def isComposite : Json → Bool
  | .array _ | .object _ => true
  | _ => false

mutual

/-- The value with each key once in every object. -/
def collapse : Json → Json
  | .array items => .array (collapseItems items)
  | .object members => .object (Members.ofPairs (collapseMembers members))
  | value => value

/-- `collapse` of each item. -/
def collapseItems : List Json → List Json
  | [] => []
  | item :: rest => collapse item :: collapseItems rest

/-- `collapse` of each member's value. -/
def collapseMembers : List (Text × Json) → List (Text × Json)
  | [] => []
  | (key, value) :: rest => (key, collapse value) :: collapseMembers rest

end

end Json

end Stencil
