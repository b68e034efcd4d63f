/-
Compiled regular expressions and the pieces they cut a text into: matches that do not overlap, from
left to right, each with the text skipped before it. The pieces and the tail, one after another,
are the text.
-/

import Stencil.Regex.Reader
import Stencil.Regex.Search

namespace Stencil

/-- A regular expression: its source, its program, and the number of its last group. -/
structure Regex where
  source : Text
  program : Regex.Program
  lastGroup : Nat

namespace Regex

/-- Compiles a source. -/
def compile (source : Text) : Except SyntaxError Regex := do
  let expr ← read source
  return ⟨source, Program.ofExpr expr, expr.lastGroup⟩

/-- A match with the text before it, back to the previous match or the start. -/
structure Piece where
  skipped : Text
  whole : Text
  group : Option Text
deriving DecidableEq, Repr

/-- The pieces of a text and the tail after the last match. -/
structure Pieces where
  pieces : List Piece
  tail : Text
deriving DecidableEq, Repr

/-- The next match. Directly after another match an empty one does not count; the search then goes
on one character later. -/
def Program.next (program : Program) (afterMatch : Bool) (before : Option Char) (text : Text) :
    Option Found :=
  match program.find before text with
  | none => none
  | some found =>
    if afterMatch && found.skipped.isEmpty && found.whole.isEmpty then
      match text with
      | [] => none
      | head :: tail =>
        (program.find (some head) tail).map fun found =>
          { found with skipped := head :: found.skipped }
    else
      some found

/-- Cuts a text at its matches. There are at most as many as the text has positions, which is what
`fuel` counts. -/
def Program.cut (program : Program) :
    (fuel : Nat) → (afterMatch : Bool) → (before : Option Char) → Text → Pieces
  | 0, _, _, text => ⟨[], text⟩
  | fuel + 1, afterMatch, before, text =>
    match program.next afterMatch before text with
    | none => ⟨[], text⟩
    | some found =>
      let later := program.cut fuel true found.before found.rest
      ⟨⟨found.skipped, found.whole, found.group⟩ :: later.pieces, later.tail⟩

/-- Cuts a text at the matches of the expression. -/
def cut (regex : Regex) (text : Text) : Pieces :=
  regex.program.cut (text.length + 1) false none text

/-- The matches with their offsets in bytes of UTF-8, counted from `start`. -/
def Pieces.located (start : Nat) : List Piece → List (Nat × Text × Option Text)
  | [] => []
  | piece :: later =>
    let offset := start + piece.skipped.utf8Size
    (offset, piece.whole, piece.group) :: located (offset + piece.whole.utf8Size) later

end Regex

end Stencil
