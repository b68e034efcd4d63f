/-
Substituting variables for placeholders. A pass replaces every placeholder of a text at once, from
left to right. Another pass follows while the last one brought in text that may hold placeholders
of its own and an opening delimiter is left, up to a cap; the pass with the number of the cap
resolves nothing any more.
-/

import Stencil.Journal
import Stencil.Json.Writer
import Stencil.Path
import Stencil.Settings.Basic

namespace Stencil

/-- Why a compilation has no result. -/
inductive Failure where
  /-- A path, as the placeholder writes it, led to nothing where that is not allowed. -/
  | missingVariable (path : Text)
  | resolver (message : Text)
  | transform (message : Text)
deriving DecidableEq, Repr

/-- The wording of a failure. What a hook says is passed on as it is. -/
def Failure.message : Failure → Text
  | missingVariable path => "Missing variable: ".toList ++ path
  | resolver message => message
  | transform message => message

/-- A part of a run: it goes on with the journal, and answers a value or fails. -/
abbrev Run := ExceptT Failure (StateM Journal)

namespace Run

/-- Adds an entry to the journal. -/
def note (entry : Entry) : Run Unit :=
  modify (· ++ [entry])

/-- Asks the resolver for a path. -/
def ask (resolver : Resolver) (path : Text) : Run (Option Json) := do
  let history := (← get).asked
  note (.asked path)
  match resolver.reply history path with
  | .ok value => return value
  | .error message => throw (.resolver message)

/-- Searches the variables for a path. -/
def search (bindings : Json) (path : Text) : Run (Option Json) := do
  note (.searched path)
  return Path.lookup bindings path

end Run

namespace Substitution

/-- The value of a path during a pass: nothing in the pass with the number of the cap, else what
the resolver finds, else what the variables hold. -/
def resolve (settings : Settings) (bindings : Json) (pass : Nat) (path : Text) :
    Run (Option Json) := do
  if settings.maxPasses ≤ pass then
    return none
  else
    match settings.resolver with
    | none => Run.search bindings path
    | some resolver =>
      match ← Run.ask resolver path with
      | some value => return some value
      | none => Run.search bindings path

/-- The text of a value in the place of a placeholder: a string as it is, a number on its own, and
anything else as a document writes it. -/
def render : Json → Text
  | .string text => text
  | .number value => value.plainText
  | value => value.text

/-- What takes the place of a placeholder, and whether it may hold placeholders of its own. -/
def expand (settings : Settings) (bindings : Json) (pass : Nat) (piece : Regex.Piece) :
    Run (Text × Bool) := do
  let path := piece.group.getD []
  match ← resolve settings bindings pass path.trim with
  | none =>
    if settings.strict then
      throw (.missingVariable path)
    else
      Run.note (.unresolved path.trim pass)
      return (if settings.keepUnresolved then piece.whole else [], false)
  | some value =>
    if value.isComposite && settings.finalComposites then
      return (value.text, false)
    else
      return (render value, true)

/-- The pieces of a text with every placeholder expanded. -/
def expandAll (settings : Settings) (bindings : Json) (pass : Nat) :
    List Regex.Piece → Run (Text × Bool)
  | [] => return ([], false)
  | piece :: later => do
    let (text, changed) ← expand settings bindings pass piece
    let (rest, laterChanged) ← expandAll settings bindings pass later
    return (piece.skipped ++ text ++ rest, changed || laterChanged)

/-- One pass over a text: the text after it, and whether it brought in text that may hold
placeholders. -/
def onePass (settings : Settings) (bindings : Json) (pass : Nat) (text : Text) :
    Run (Text × Bool) := do
  let cut := settings.pattern.regex.cut text
  let (expanded, changed) ← expandAll settings bindings pass cut.pieces
  return (expanded ++ cut.tail, changed)

/-- The passes from the given one on, `remaining` of which are allowed. -/
def passes (settings : Settings) (bindings : Json) :
    (remaining : Nat) → (pass : Nat) → Text → Run Text
  | 0, _, text => do
    Run.note (.stoppedAtCap settings.maxPasses)
    return text
  | remaining + 1, pass, text => do
    let (next, changed) ← onePass settings bindings pass text
    Run.note (.passComplete pass changed)
    if changed && Text.includes settings.pattern.opening next then
      passes settings bindings remaining (pass + 1) next
    else
      return next

/-- The text after all its passes. -/
def substitute (settings : Settings) (bindings : Json) (text : Text) : Run Text :=
  passes settings bindings settings.maxPasses 1 text

end Substitution

end Stencil
