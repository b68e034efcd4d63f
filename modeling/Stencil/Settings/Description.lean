/-
Settings described on one line. Hooks are told only to be there or not.
-/

import Stencil.Settings.Basic
import Stencil.Text.Quoted

namespace Stencil

/-- A name with its fields between braces. -/
def describeFields (name : String) (fields : List (String × Text)) : Text :=
  let described := fields.map fun (field, value) => field.toList ++ [':', ' '] ++ value
  name.toList ++ [' ', '{', ' '] ++ List.intercalate [',', ' '] described ++ [' ', '}']

/-- A flag in words. -/
def describeFlag (flag : Bool) : Text :=
  if flag then "true".toList else "false".toList

/-- The delimiters of a pattern and the source of its expression. -/
def Pattern.describe (pattern : Pattern) : Text :=
  describeFields "VariablePattern"
    [ ("open", Text.Quoted.encode pattern.opening),
      ("close", Text.Quoted.encode pattern.closing),
      ("regex", "Regex(".toList ++ Text.Quoted.encode pattern.regex.source ++ [')']) ]

/-- Every setting with its value. -/
def Settings.describe (settings : Settings) : Text :=
  describeFields "Options"
    [ ("strict", describeFlag settings.strict),
      ("preserve_undefined", describeFlag settings.keepUnresolved),
      ("auto_stringify_objects", describeFlag settings.finalComposites),
      ("parse_strings", describeFlag settings.parseStrings),
      ("parse_big_ints", describeFlag settings.bigNumbers),
      ("max_variable_depth", Decimal.natText settings.maxPasses),
      ("variable_pattern", settings.pattern.describe),
      ("escape_character", Text.Quoted.encode settings.escape),
      ("resolver", describeFlag settings.resolver.isSome),
      ("string_transform", describeFlag settings.transform.isSome) ]

/-- A compiler that owns its settings, described by them. -/
def Settings.describeOwner (settings : Settings) : Text :=
  describeFields "Interpolator" [("options", settings.describe)]

end Stencil
