/-
Properties by name. Names match loosely: case, blanks, hyphens, underscores and a leading `is` do
not count. A name alone is looked for among the binary properties, then the general categories,
then the scripts; a name with a value asks one of the last two.
-/

import Stencil.Unicode.Property
import Stencil.Unicode.Script

namespace Stencil.Unicode.Property

/-- The form of a name that takes part in comparison. -/
def looseName (name : List Char) : String :=
  let led := (name.take 2).map Char.toLower == ['i', 's']
  let kept := (if led then name.drop 2 else name).filter fun character =>
    character.toNat < 0x80 && character != ' ' && character != '_' && character != '-'
  let loose := kept.map Char.toLower
  -- `isc` stays as it is, or it could not be told from the category `c`
  if led && loose == ['c'] then "isc" else String.ofList loose

/-- Whether a loose name stands for the name as the standard writes it. -/
def names (loose official : String) : Bool :=
  loose == looseName official.toList

/-- Binary properties that are derived, under their long and short names. -/
def derivedProperties : List (String × String × (Char → Bool)) :=
  [ ("Alphabetic", "Alpha", isAlphabetic), ("Lowercase", "Lower", isLowercase),
    ("Uppercase", "Upper", isUppercase), ("Cased", "Cased", isCased),
    ("White_Space", "WSpace", isBlank), ("Space", "Space", isBlank),
    ("Grapheme_Extend", "Gr_Ext", isGraphemeExtend),
    ("Grapheme_Base", "Gr_Base", isGraphemeBase), ("Math", "Math", isMath),
    ("Join_Control", "Join_C", isJoinControl), ("ID_Start", "IDS", isIdStart),
    ("ID_Continue", "IDC", isIdContinue), ("XID_Start", "XIDS", isXidStart),
    ("XID_Continue", "XIDC", isXidContinue) ]

/-- The binary property of the given loose name. -/
def binary? (loose : String) : Option (Char → Bool) :=
  match derivedProperties.find? fun (long, short, _) => names loose long || names loose short with
  | some (_, _, test) => some test
  | none =>
    match listedProperties.find? fun (long, short, _) => names loose long || names loose short with
    | some (_, _, codes) => some codes.contains
    | none => none

/-- Names of families of categories, with the test on a category. -/
def families : List (List String × (Category → Bool)) :=
  [ (["L", "Letter"], Category.isLetter),
    (["LC", "Cased_Letter"], Category.isCasedLetter),
    (["M", "Mark", "Combining_Mark"], Category.isMark),
    (["N", "Number"], Category.isNumber),
    (["P", "Punctuation", "punct"], Category.isPunctuation),
    (["S", "Symbol"], Category.isSymbol),
    (["Z", "Separator"], Category.isSeparator),
    (["C", "Other"], Category.isOther),
    (["cntrl"], (· == .control)),
    (["digit"], (· == .decimalNumber)) ]

/-- The general category, or family of categories, of the given loose name. No character is a
surrogate, so that category has no name here. -/
def category? (loose : String) : Option (Char → Bool) :=
  if loose == "any" then some fun _ => true
  else if loose == "assigned" then some fun character => Category.of character != .unassigned
  else if loose == "ascii" then some fun character => character.toNat < 0x80
  else
    match families.find? fun (official, _) => official.any (names loose) with
    | some (_, test) => some fun character => test (Category.of character)
    | none =>
      match Category.names.find? fun (short, long, _) => names loose short || names loose long with
      | some (_, _, .surrogate) => none
      | some (_, _, category) => some fun character => Category.of character == category
      | none => none

/-- The script of the given loose name. -/
def script? (loose : String) : Option (Char → Bool) :=
  let listed := Script.names.map fun (code, long) => (long, code)
  let known := Script.names.map (fun (code, _) => (code, code)) ++ listed ++ Script.aliases
  match known.find? fun (official, _) => names loose official with
  | some (_, code) => some fun character => Script.of character == code
  | none => none

/-- The property that a name alone stands for. -/
def ofName? (name : List Char) : Option (Char → Bool) :=
  let loose := looseName name
  -- these three are abbreviations of categories first
  let isCategory := loose == "cf" || loose == "sc" || loose == "lc"
  match if isCategory then none else binary? loose with
  | some test => some test
  | none =>
    match category? loose with
    | some test => some test
    | none => script? loose

/-- The property that a name and a value stand for together. -/
def ofValue? (name value : List Char) : Option (Char → Bool) :=
  let loose := looseName name
  if loose == "gc" || loose == "generalcategory" then category? (looseName value)
  else if loose == "sc" || loose == "script" then script? (looseName value)
  else none

end Stencil.Unicode.Property
