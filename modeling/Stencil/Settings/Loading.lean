/-
Settings out of documents. A document gives settings by name; each setting has one place, which may
be filled once, an unknown name refuses the document, and a value must be of the kind that its
setting asks for. What no member gives is taken from the settings by default. Which values are
flags, counts, texts and patterns is up to the kind of document.
-/

import Stencil.Settings.Basic

namespace Stencil

/-- The settings that a document can give. -/
inductive SettingName where
  | strict
  | keepUnresolved
  | finalComposites
  | parseStrings
  | bigNumbers
  | maxPasses
  | pattern
  | escape
deriving DecidableEq, Repr

namespace SettingName

/-- The settings in the order in which a document without names gives them. -/
def all : List SettingName :=
  [strict, keepUnresolved, finalComposites, parseStrings, bigNumbers, maxPasses, pattern, escape]

/-- The setting of a name in a document. Big numbers have an older name, too. -/
def ofText? (name : Text) : Option SettingName :=
  match String.ofList name with
  | "strict" => some strict
  | "preserveUndefined" => some keepUnresolved
  | "autoStringifyObjects" => some finalComposites
  | "parseStrings" => some parseStrings
  | "parseBigInts" => some bigNumbers
  | "parseBinInts" => some bigNumbers
  | "maxVariableDepth" => some maxPasses
  | "variablePattern" => some pattern
  | "escapeCharacter" => some escape
  | _ => none

end SettingName

/-- How the values of a kind of document are understood. -/
structure ValueReader (Value : Type) where
  flag? : Value → Option Bool
  count? : Value → Option Nat
  text? : Value → Option Text
  pattern? : Value → Option Pattern

/-- What a document has given so far, in a place for each setting. -/
structure Given where
  strict : Option Bool := none
  keepUnresolved : Option Bool := none
  finalComposites : Option Bool := none
  parseStrings : Option Bool := none
  bigNumbers : Option Bool := none
  maxPasses : Option Nat := none
  pattern : Option Pattern := none
  escape : Option Text := none

namespace Given

/-- Fills a place with what is read for it, unless it is filled. -/
def fill? {Kind : Type} (place read : Option Kind) : Option (Option Kind) :=
  if place.isSome then none else read.map some

/-- Puts a value into the place of a setting. -/
def put? {Value : Type} (reader : ValueReader Value) (given : Given) (value : Value) :
    SettingName → Option Given
  | .strict =>
    (fill? given.strict (reader.flag? value)).map fun place => { given with strict := place }
  | .keepUnresolved =>
    (fill? given.keepUnresolved (reader.flag? value)).map fun place =>
      { given with keepUnresolved := place }
  | .finalComposites =>
    (fill? given.finalComposites (reader.flag? value)).map fun place =>
      { given with finalComposites := place }
  | .parseStrings =>
    (fill? given.parseStrings (reader.flag? value)).map fun place =>
      { given with parseStrings := place }
  | .bigNumbers =>
    (fill? given.bigNumbers (reader.flag? value)).map fun place =>
      { given with bigNumbers := place }
  | .maxPasses =>
    (fill? given.maxPasses (reader.count? value)).map fun place => { given with maxPasses := place }
  | .pattern =>
    (fill? given.pattern (reader.pattern? value)).map fun place => { given with pattern := place }
  | .escape =>
    (fill? given.escape (reader.text? value)).map fun place => { given with escape := place }

/-- Puts the members of a document into the places that they name. -/
def putMembers? {Value : Type} (reader : ValueReader Value) :
    Given → List (Text × Value) → Option Given
  | given, [] => some given
  | given, (name, value) :: rest => do
    let name ← SettingName.ofText? name
    let given ← given.put? reader value name
    putMembers? reader given rest

/-- Puts values without names into the places that stand in the same order. -/
def putValues? {Value : Type} (reader : ValueReader Value) :
    Given → List SettingName → List Value → Option Given
  | given, _, [] => some given
  | _, [], _ :: _ => none
  | given, name :: names, value :: rest => do
    let given ← given.put? reader value name
    putValues? reader given names rest

/-- The settings that are given, the others being as they are by default. No document gives a
hook. -/
def settings (given : Given) : Settings :=
  let default : Settings := {}
  { strict := given.strict.getD default.strict
    keepUnresolved := given.keepUnresolved.getD default.keepUnresolved
    finalComposites := given.finalComposites.getD default.finalComposites
    parseStrings := given.parseStrings.getD default.parseStrings
    bigNumbers := given.bigNumbers.getD default.bigNumbers
    maxPasses := given.maxPasses.getD default.maxPasses
    pattern := given.pattern.getD default.pattern
    escape := given.escape.getD default.escape
    resolver := default.resolver
    transform := default.transform }

end Given

/-- The pattern of a pair of delimiters among the members of a document: each given once, as a
text, and anything else beside them. -/
def Pattern.ofMembers? {Value : Type} (text? : Value → Option Text)
    (members : List (Text × Value)) : Option Pattern :=
  let given := fun (name : String) => members.filter fun (key, _) => key == name.toList
  match given "open", given "close" with
  | [(_, opening)], [(_, closing)] =>
    match text? opening, text? closing with
    | some opening, some closing => (Pattern.ofDelimiters opening closing).toOption
    | _, _ => none
  | _, _ => none

end Stencil
