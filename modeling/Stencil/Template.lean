/-
Compiling templates: any value whose strings hold placeholders. Each string goes through the same
steps: escaped delimiters are marked, placeholders are substituted, marks are undone, the transform
is applied, and the text is turned back into a value where it reads as one. Arrays and objects
keep their shape and their keys; other values stay as they are.
-/

import Stencil.Coercion
import Stencil.Substitution

namespace Stencil.Template

/-- Gives a text to the transform, if there is one. -/
def transform (settings : Settings) (text : Text) : Run Text :=
  match settings.transform with
  | none => return text
  | some transform => do
    let history := (← get).transformed
    Run.note (.transformed text)
    match transform.reply history text with
    | .ok changed => return changed
    | .error message => throw (.transform message)

/-- Turns a text back into a value. -/
def coerce (settings : Settings) (text : Text) : Run Json := do
  match Coercion.classify settings.parseStrings settings.bigNumbers text with
  | .parsed value => return Coercion.reparse value
  | .refused =>
    Run.note (.numberKept text)
    return Coercion.reparse (.string text)
  | .text => return Coercion.reparse (.string text)

/-- Compiles a string. -/
def compileText (settings : Settings) (bindings : Json) (text : Text) : Run Json := do
  let marked := Escaping.mark settings.pattern settings.escape text
  let substituted ← Substitution.substitute settings bindings marked
  let transformed ← transform settings (Escaping.unmark settings.pattern substituted)
  coerce settings transformed

mutual

/-- Compiles a value. -/
def compile (settings : Settings) (bindings : Json) : Json → Run Json
  | .string text => compileText settings bindings text
  | .array items => do
    let items ← compileItems settings bindings items
    return .array items
  | .object members => do
    let members ← compileMembers settings bindings members
    return .object members
  | value => return value

/-- Compiles the items of an array, one after another. -/
def compileItems (settings : Settings) (bindings : Json) : List Json → Run (List Json)
  | [] => return []
  | item :: rest => do
    let item ← compile settings bindings item
    let rest ← compileItems settings bindings rest
    return item :: rest

/-- Compiles the values of an object's members, one after another. -/
def compileMembers (settings : Settings) (bindings : Json) :
    List (Text × Json) → Run (List (Text × Json))
  | [] => return []
  | (key, value) :: rest => do
    let value ← compile settings bindings value
    let rest ← compileMembers settings bindings rest
    return (key, value) :: rest

end

/-- The result of a run that starts from a journal, and the journal at its end. -/
def run {Result : Type} (part : Run Result) (journal : Journal) :
    Except Failure Result × Journal :=
  (ExceptT.run part).run journal

end Stencil.Template
