/-
Patterns of placeholders: the regular expression that finds them, whose first group is the path of
a variable, and the delimiters around them. A pattern is made of a pair of delimiters, or of a
regular expression from whose source the delimiters are read.
-/

import Stencil.Pattern.Delimiters
import Stencil.Regex.Pieces

namespace Stencil

/-- What a placeholder looks like. -/
structure Pattern where
  opening : Text
  closing : Text
  regex : Regex

/-- Why there is no such pattern. -/
inductive PatternError where
  | emptyDelimiter (opening closing : Text)
  | noGroup (source : Text)
  | malformed (cause : Regex.SyntaxError)
deriving DecidableEq, Repr

/-- The wording of an error that is the pattern's own; a malformed expression has none here. -/
def PatternError.message? : PatternError → Option String
  | emptyDelimiter opening closing =>
    some <| "invalid variable pattern '" ++ String.ofList opening ++ "…" ++
      String.ofList closing ++ "': delimiters must not be empty"
  | noGroup source =>
    some <| "invalid variable pattern '" ++ String.ofList source ++
      "': pattern needs a capturing group for the variable path"
  | malformed _ => none

namespace Pattern

/-! ### From delimiters -/

/-- The characters of a text, each once, in the order of their first occurrence. -/
def distinct (text : Text) : Text :=
  text.foldl
    (fun (kept : Text) character => if character ∈ kept then kept else kept ++ [character])
    []

/-- The source of the expression between two delimiters: the path is a run of characters that occur
in neither. -/
def sourceOf (opening closing : Text) : Text :=
  Regex.escapeText opening ++ ['(', '[', '^'] ++ Regex.escapeText (distinct (opening ++ closing)) ++
    [']', '+', ')'] ++ Regex.escapeText closing

/-- The pattern of a pair of delimiters. -/
def ofDelimiters (opening closing : Text) : Except PatternError Pattern :=
  if opening.isEmpty || closing.isEmpty then
    .error (.emptyDelimiter opening closing)
  else
    match Regex.compile (sourceOf opening closing) with
    | .ok regex => .ok ⟨opening, closing, regex⟩
    | .error cause => .error (.malformed cause)

/-! ### From expressions -/

/-- The pattern of an expression, with the delimiters read off `source`. -/
def withDerived (regex : Regex) (source : Text) : Except PatternError Pattern :=
  if regex.lastGroup = 0 then
    .error (.noGroup regex.source)
  else
    let (opening, closing) := Delimiters.derive source
    .ok ⟨opening, closing, regex⟩

/-- The pattern of the expression that a source is. -/
def ofSource (source : Text) : Except PatternError Pattern :=
  match Regex.compile source with
  | .ok regex => withDerived regex source
  | .error cause => .error (.malformed cause)

/-- The body and the flags of `/body/flags`, the flags being ASCII letters after the last slash. A
source of another form is all body. -/
def splitLiteral (source : Text) : Text × Text :=
  match source with
  | '/' :: rest =>
    match Text.splitLast? '/' rest with
    | some (body, flags) => if flags.all Char.isAlpha then (body, flags) else (source, [])
    | none => (source, [])
  | _ => (source, [])

/-- The flags of a literal that change what its expression matches. -/
def matchingFlags (flags : Text) : Text :=
  flags.filter fun flag => flag == 'i' || flag == 'm' || flag == 's'

/-- The pattern of an expression written plainly or between slashes. The delimiters are read off
the body, and flags other than `i`, `m` and `s` mean nothing. -/
def parse (source : Text) : Except PatternError Pattern :=
  let (body, flags) := splitLiteral source
  let inline := matchingFlags flags
  match Regex.compile (if inline.isEmpty then body else ['(', '?'] ++ inline ++ ')' :: body) with
  | .ok regex => withDerived regex body
  | .error cause => .error (.malformed cause)

/-! ### Patterns -/

/-- The pattern where nothing else is said: a path between doubled braces. -/
def default : Pattern :=
  (ofDelimiters defaultOpening defaultClosing).toOption.get (by decide +kernel)

/-- Whether two patterns have the same delimiters and the same source. -/
def same (first second : Pattern) : Bool :=
  first.opening == second.opening && first.closing == second.closing &&
    first.regex.source == second.regex.source

end Pattern

end Stencil
