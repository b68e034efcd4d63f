/-
Escaped delimiters. Before anything is substituted, each escape that stands directly before a
delimiter is replaced, together with the delimiter, by a mark that no delimiter holds; afterwards
the marks become bare delimiters, and the escapes are gone.
-/

import Stencil.Pattern.Basic

namespace Stencil.Escaping

/-- Stands for an escaped opening delimiter. -/
def openingMark : Char :=
  '\uE000'

/-- Stands for an escaped closing delimiter. -/
def closingMark : Char :=
  '\uE001'

/-- The escape character where nothing else is said. -/
def defaultEscape : Text :=
  ['\\']

/-- Replaces each escaped delimiter by its mark. An empty escape escapes nothing. -/
def mark (pattern : Pattern) (escape : Text) (text : Text) : Text :=
  if escape.isEmpty then text
  else
    Text.replaceAll (escape ++ pattern.closing) [closingMark]
      (Text.replaceAll (escape ++ pattern.opening) [openingMark] text)

/-- Replaces each mark by its delimiter. -/
def unmark (pattern : Pattern) (text : Text) : Text :=
  Text.replaceAll [closingMark] pattern.closing
    (Text.replaceAll [openingMark] pattern.opening text)

end Stencil.Escaping
