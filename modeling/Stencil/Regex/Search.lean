/-
Searching: the leftmost match, and of the matches there the one that the order of alternatives and
the greed of repetitions prefer. A search tries one way after another and remembers the places it
has passed, each at the position where it did; a way that comes to a place a second time at the
same position is given up, for what lies behind it has been tried. So a search takes time
proportional to the size of the program and the length of the text, and an iteration that matches
nothing ends its loop.
-/

import Stencil.Regex.Program

namespace Stencil.Regex

/-- A position in a text: the character before it, the text after it, and how far it lies from the
start of the match. -/
structure Cursor where
  before : Option Char
  rest : Text
  position : Nat

/-- The position one character on. -/
def Cursor.advance (cursor : Cursor) (character : Char) (rest : Text) : Cursor :=
  ⟨some character, rest, cursor.position + 1⟩

/-- A match: where it ends and the text of the first group, if that took part. -/
structure Hit where
  stop : Cursor
  group : Option Text

/-- The places that have been passed, one bit for each place and position. -/
abbrev Passed := Nat

/-- What a part of a search answers: a match, or none, and the places passed by then. -/
abbrev Answer := Option Hit × Passed

/-- A way on from a position, given the text of the first group so far. -/
abbrev Way := Cursor → Option Text → Passed → Answer

namespace Way

/-- A match that ends here. -/
def done : Way :=
  fun cursor group passed => (some ⟨cursor, group⟩, passed)

/-- No way at all. -/
def closed : Way :=
  fun _ _ passed => (none, passed)

/-- The first way, or the second if the first finds nothing. -/
def orElse (first second : Way) : Way :=
  fun cursor group passed =>
    match first cursor group passed with
    | (some hit, passed) => (some hit, passed)
    | (none, passed) => second cursor group passed

/-- The way past a place, open once at each position. -/
def once (places place : Nat) (way : Way) : Way :=
  fun cursor group passed =>
    let bit := cursor.position * places + place
    if passed.testBit bit then (none, passed) else way cursor group (passed ||| 1 <<< bit)

/-- The way through one iteration of a loop or more, and out. An iteration that ends where the loop
was entered is the last one. `fuel` bounds the number of iterations. -/
def iterate (places turn : Nat) (greedy : Bool) (body : Way → Way) (out : Way) (entry : Nat) :
    (fuel : Nat) → Way
  | 0 => closed
  | fuel + 1 =>
    body <| once places turn fun cursor =>
      let again := if cursor.position = entry then closed
        else iterate places turn greedy body out entry fuel
      if greedy then orElse again out cursor else orElse out again cursor

end Way

/-- The way through a node and on. No loop of a search takes more than `fuel` iterations. -/
def Node.through (places fuel : Nat) : Node → Way → Way
  | .empty, way => way
  | .set members, way => fun cursor group passed =>
    match cursor.rest with
    | [] => (none, passed)
    | character :: rest =>
      if members character then way (cursor.advance character rest) group passed
      else (none, passed)
  | .look assertion, way => fun cursor group passed =>
    if assertion.holds cursor.before cursor.rest.head? then way cursor group passed
    else (none, passed)
  | .capture body, way => fun opening group passed =>
    through places fuel body
      (fun closing _ passed =>
        way closing (some (opening.rest.take (closing.position - opening.position))) passed)
      opening group passed
  | .cat first second, way => through places fuel first (through places fuel second way)
  | .choice join first second, way =>
    let onward := Way.once places join way
    Way.orElse (through places fuel first onward) (through places fuel second onward)
  | .loop turn body greedy, way => fun cursor =>
    Way.iterate places turn greedy (through places fuel body) way cursor.position fuel cursor

/-- The match that starts exactly at the start of the text, `before` being the character before
it. -/
def Program.matchAt (program : Program) (before : Option Char) (text : Text) : Option Hit :=
  (program.node.through program.places (text.length + 2) Way.done ⟨before, text, 0⟩ none 0).1

/-- A match inside a text, with what the search skipped. -/
structure Found where
  skipped : Text
  whole : Text
  group : Option Text
  before : Option Char
  rest : Text

/-- The leftmost match. -/
def Program.find (program : Program) (before : Option Char) : Text → Option Found
  | [] =>
    (program.matchAt before []).map fun hit => ⟨[], [], hit.group, before, []⟩
  | head :: tail =>
    match program.matchAt before (head :: tail) with
    | some hit =>
      some ⟨[], (head :: tail).take hit.stop.position, hit.group, hit.stop.before, hit.stop.rest⟩
    | none =>
      (program.find (some head) tail).map fun found =>
        { found with skipped := head :: found.skipped }

end Stencil.Regex
