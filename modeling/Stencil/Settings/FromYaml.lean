/-
Settings out of YAML documents: a mapping by name. An empty document gives nothing. A pattern is a
text, which is the source of its expression, or a mapping with a pair of delimiters.
-/

import Stencil.Settings.Loading
import Stencil.Yaml.Value

namespace Stencil

namespace Yaml.Node

/-- The members of a mapping whose keys are texts where other kinds are possible. The first two
numbers stand for the delimiters in order, and further ones for nothing. -/
def looseMembers? : List (Node × Node) → Option (List (Text × Node))
  | [] => some []
  | (key, value) :: rest => do
    let name ←
      match key.looseText? with
      | some name => some name
      | none =>
        match key.count? with
        | some 0 => some "open".toList
        | some 1 => some "close".toList
        | some _ => some []
        | none => none
    let members ← looseMembers? rest
    return (name, value) :: members

/-- The members of a mapping whose keys are read as texts. -/
def members? : List (Node × Node) → Option (List (Text × Node))
  | [] => some []
  | (key, value) :: rest => do
    let name ← key.text?
    let members ← members? rest
    return (name, value) :: members

/-- A pattern. -/
def pattern? : Node → Option Pattern
  | .mapping tag entries =>
    if tag.any isOwnTag then none
    else (looseMembers? entries).bind (Pattern.ofMembers? looseText?)
  | node => node.looseText?.bind fun source => (Pattern.parse source).toOption

/-- How the values of a YAML document are understood. -/
def valueReader : ValueReader Node :=
  ⟨flag?, count?, text?, pattern?⟩

end Yaml.Node

/-- The settings that a YAML document gives, the others being as they are by default. -/
def Settings.ofYaml? (text : Text) : Option Settings :=
  match Yaml.Node.parse? text with
  | some .empty => some {}
  | some (.document (.mapping _ entries)) =>
    ((Yaml.Node.members? entries).bind (Given.putMembers? Yaml.Node.valueReader {})).map
      Given.settings
  | some (.document (.scalar _ .plain [])) => some {}
  | _ => none

end Stencil
