/-
Documents with keys that would reach the prototype of an object where every object has one. Such
a document is refused as a whole, naming the first offence: an object's own keys come before the
values of its members.
-/

import Stencil.Json.Reader

namespace Stencil.Json

/-- A key, or path of two keys, that no accepted document holds. -/
inductive ForbiddenKey where
  | proto
  | constructorPrototype
deriving DecidableEq, Repr

/-- The key as messages name it. -/
def ForbiddenKey.text : ForbiddenKey → String
  | .proto => "__proto__"
  | .constructorPrototype => "constructor.prototype"

/-- Why a text is not accepted as a document. -/
inductive ParseError where
  | malformed
  | forbidden (key : ForbiddenKey)
deriving DecidableEq, Repr

/-- The wording of a refused key. -/
def ForbiddenKey.message (key : ForbiddenKey) : String :=
  "forbidden key '" ++ key.text ++ "' in JSON input"

/-- The forbidden key among the keys of one object. -/
def Members.forbidden? (members : Members) : Option ForbiddenKey :=
  if Members.hasKey members "__proto__".toList then some .proto
  else
    match Members.get? members "constructor".toList with
    | some (.object inner) =>
      if Members.hasKey inner "prototype".toList then some .constructorPrototype else none
    | _ => none

mutual

/-- The first forbidden key of a value, in the order of the document. -/
def forbidden? : Json → Option ForbiddenKey
  | .array items => forbiddenItem? items
  | .object members => (Members.forbidden? members).or (forbiddenMember? members)
  | _ => none

/-- The first forbidden key of a list of items. -/
def forbiddenItem? : List Json → Option ForbiddenKey
  | [] => none
  | item :: rest => (forbidden? item).or (forbiddenItem? rest)

/-- The first forbidden key of the values of a list of members. -/
def forbiddenMember? : List (Text × Json) → Option ForbiddenKey
  | [] => none
  | (_, value) :: rest => (forbidden? value).or (forbiddenMember? rest)

end

/-- The value of a document without forbidden keys. -/
def parseGuarded (text : Text) : Except ParseError Json :=
  match parse? text with
  | none => .error .malformed
  | some value =>
    match forbidden? value with
    | some key => .error (.forbidden key)
    | none => .ok value

end Stencil.Json
