/-
The journal of a run: everything that the run does to the world around it or reports, in order.
The histories of the hooks and the reported events are views of the one journal.
-/

import Stencil.Hooks

namespace Stencil

/-- Something that a run does. -/
inductive Entry where
  /-- The resolver was asked for a path. -/
  | asked (path : Text)
  /-- The variables were searched for a path. -/
  | searched (path : Text)
  /-- The transform was given a text. -/
  | transformed (text : Text)
  /-- A path led to nothing. -/
  | unresolved (path : Text) (pass : Nat)
  /-- A pass came to its end. -/
  | passComplete (pass : Nat) (changed : Bool)
  /-- A pass was due beyond the last one allowed. -/
  | stoppedAtCap (cap : Nat)
  /-- A number that not every reader holds exactly stayed text. -/
  | numberKept (text : Text)
deriving DecidableEq, Repr

/-- What a run has done so far, in order. -/
abbrev Journal := List Entry

namespace Journal

/-- The paths that the resolver was asked for. -/
def asked (journal : Journal) : List Text :=
  journal.filterMap fun
    | .asked path => some path
    | _ => none

/-- The paths that the variables were searched for. -/
def searched (journal : Journal) : List Text :=
  journal.filterMap fun
    | .searched path => some path
    | _ => none

/-- The texts that the transform was given. -/
def transformed (journal : Journal) : List Text :=
  journal.filterMap fun
    | .transformed text => some text
    | _ => none

end Journal

/-! ### Events -/

/-- How much an event matters to those who watch. -/
inductive EventLevel where
  | trace
  | debug
deriving DecidableEq, Repr

/-- An event as it is reported: a message and named fields. -/
structure Event where
  level : EventLevel
  message : String
  fields : List (String × Json)

/-- The name of a level. -/
def EventLevel.name : EventLevel → String
  | trace => "TRACE"
  | debug => "DEBUG"

/-- A count as a value; one beyond 64 bits is not told. -/
def Json.ofCount (count : Nat) : Json :=
  match Json.Number.ofInt? count with
  | some value => .number value
  | none => .null

/-- The event that an entry is reported as. Calls of hooks and searches are not reported. -/
def Entry.event? : Entry → Option Event
  | asked _ | searched _ | transformed _ => none
  | unresolved path pass => some
      ⟨.debug, "variable unresolved", [("path", .string path), ("pass", .ofCount pass)]⟩
  | passComplete pass changed => some
      ⟨.trace, "substitution pass complete", [("pass", .ofCount pass), ("changed", .bool changed)]⟩
  | stoppedAtCap cap => some
      ⟨.debug, "substitution stopped at pass cap", [("max_variable_depth", .ofCount cap)]⟩
  | numberKept text => some
      ⟨.trace, "keeping number outside safe-integer range as string", [("text", .string text)]⟩

/-- The events of a journal, in order. -/
def Journal.events (journal : Journal) : List Event :=
  journal.filterMap Entry.event?

end Stencil
