/-
Text as the library handles it: a list of characters. Strings appear only where text enters or
leaves; everything between works on the list, so that taking text apart is pattern matching and
putting it together is `++`.

Beside the type stand the two operations every other module needs: looking for a needle and
replacing each occurrence of it, from the left and without overlap.
-/

namespace Stencil

/-- A piece of text, one entry for each Unicode scalar value. -/
abbrev Text := List Char

namespace Text

/-- Number of bytes the text takes in UTF-8. -/
def utf8Size : Text → Nat
  | [] => 0
  | head :: tail => head.utf8Size + utf8Size tail

/-! ### Searching -/

/-- Whether `needle` occurs anywhere in the text. -/
def includes (needle : Text) : Text → Bool
  | [] => needle.isEmpty
  | head :: tail => needle.isPrefixOf (head :: tail) || includes needle tail

/-- What stands before and after the last occurrence of a character. -/
def splitLast? (mark : Char) : Text → Option (Text × Text)
  | [] => none
  | head :: tail =>
    match splitLast? mark tail with
    | some (before, after) => some (head :: before, after)
    | none => if head = mark then some ([], tail) else none

/-! ### Replacing -/

/-- Replaces the occurrences of a needle that is not empty. The first `skip` characters belong to
an occurrence that has been replaced already. -/
def replaceFrom (needle replacement : Text) : Nat → Text → Text
  | _, [] => []
  | skip + 1, _ :: tail => replaceFrom needle replacement skip tail
  | 0, head :: tail =>
    if needle.isPrefixOf (head :: tail) then
      replacement ++ replaceFrom needle replacement (needle.length - 1) tail
    else
      head :: replaceFrom needle replacement 0 tail

/-- Replaces every occurrence of `needle`, found from the left, no two overlapping. An empty needle
occurs before every character and at the end. -/
def replaceAll (needle replacement text : Text) : Text :=
  if needle.isEmpty then
    text.foldr (fun character rest => replacement ++ character :: rest) replacement
  else
    replaceFrom needle replacement 0 text

end Text

end Stencil
