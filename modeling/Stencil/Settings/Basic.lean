/-
Settings of a compilation, and the single settings that are made one after another.
-/

import Stencil.Escaping
import Stencil.Hooks

namespace Stencil

/-- How a template is compiled. -/
structure Settings where
  /-- A path that leads to nothing ends the compilation. -/
  strict : Bool := false
  /-- A placeholder whose path leads to nothing stays as it is. -/
  keepUnresolved : Bool := false
  /-- Objects and arrays are final: placeholders inside them are not expanded. -/
  finalComposites : Bool := true
  /-- Texts are read as documents. -/
  parseStrings : Bool := true
  /-- Numbers are accepted that not every reader holds exactly. -/
  bigNumbers : Bool := false
  /-- How many passes are made over a text at most. The last of them resolves nothing. -/
  maxPasses : Nat := 10
  /-- What a placeholder looks like. -/
  pattern : Pattern := Pattern.default
  /-- The text that, directly before a delimiter, keeps it literal. -/
  escape : Text := Escaping.defaultEscape
  /-- What is asked ahead of the variables. -/
  resolver : Option Resolver := none
  /-- What changes each text before it is coerced. -/
  transform : Option Transform := none

/-- A single setting. -/
inductive Setting where
  | strict (value : Bool)
  | keepUnresolved (value : Bool)
  | finalComposites (value : Bool)
  | parseStrings (value : Bool)
  | bigNumbers (value : Bool)
  | maxPasses (value : Nat)
  | pattern (value : Pattern)
  | escape (value : Text)
  | resolver (value : Resolver)
  | transform (value : Transform)

namespace Settings

/-- The settings after one of them is made. -/
def apply (settings : Settings) : Setting → Settings
  | .strict value => { settings with strict := value }
  | .keepUnresolved value => { settings with keepUnresolved := value }
  | .finalComposites value => { settings with finalComposites := value }
  | .parseStrings value => { settings with parseStrings := value }
  | .bigNumbers value => { settings with bigNumbers := value }
  | .maxPasses value => { settings with maxPasses := value }
  | .pattern value => { settings with pattern := value }
  | .escape value => { settings with escape := value }
  | .resolver value => { settings with resolver := some value }
  | .transform value => { settings with transform := some value }

/-- The settings after several are made, one after another. -/
def applyAll (settings : Settings) (made : List Setting) : Settings :=
  made.foldl apply settings

end Settings

end Stencil
