/-
Tables over the code points, kept as runs: each run starts at a code point and gives one value to
all code points up to the next start. A table is written as one text and decoded once; looking a
code point up is a binary search.
-/

namespace Stencil.Unicode

/-- Runs in ascending order of their first code point, the first run starting at zero. -/
abbrev Runs (Value : Type) := Array (Nat × Value)

namespace Runs

/-- Narrows `[low, high)` to the last run that starts at or before `code`; `steps` halvings are
enough when the interval has at most `2 ^ steps` runs. -/
def search {Value : Type} (runs : Runs Value) (code : Nat) : (steps low high : Nat) → Nat
  | 0, low, _ => low
  | steps + 1, low, high =>
    let middle := (low + high) / 2
    match runs[middle]? with
    | none => low
    | some (start, _) =>
      if start ≤ code then search runs code steps middle high
      else search runs code steps low middle

/-- The value of the run that holds `code`. -/
def get? {Value : Type} (runs : Runs Value) (code : Nat) : Option Value :=
  (runs[search runs code (runs.size.log2 + 1) 0 runs.size]?).map (·.2)

/-- Reads a table written as a label followed by the decimal length of its run, run after run. No
run is broken between two lines. -/
def ofLengths {Value : Type} (value : String → Option Value) (lines : List String) :
    Runs (Option Value) :=
  let close := fun (start : Nat) (label : List Char) (runs : Runs (Option Value)) =>
    runs.push (start, value (String.ofList label.reverse))
  let step := fun (state : Nat × Nat × List Char × Runs (Option Value)) (character : Char) =>
    let (start, length, label, runs) := state
    if character.isDigit then
      (start, length * 10 + (character.toNat - '0'.toNat), label, runs)
    else if length = 0 then
      (start, 0, character :: label, runs)
    else
      (start + length, 0, [character], close start label runs)
  let (start, _, label, runs) := (lines.flatMap String.toList).foldl step (0, 0, [], #[])
  close start label runs

end Runs

/-- Value of a hexadecimal digit in either case. -/
def hexDigit? (character : Char) : Option Nat :=
  if '0' ≤ character ∧ character ≤ '9' then some (character.toNat - '0'.toNat)
  else if 'a' ≤ character ∧ character ≤ 'f' then some (character.toNat - 'a'.toNat + 10)
  else if 'A' ≤ character ∧ character ≤ 'F' then some (character.toNat - 'A'.toNat + 10)
  else none

/-- A set of code points as runs of membership. -/
abbrev CodeSet := Runs Bool

namespace CodeSet

/-- Reads a set written as hexadecimal ranges such as `41-5A 5F`, in ascending order. -/
def ofRanges (lines : List String) : CodeSet :=
  let close := fun (low : Option Nat) (code : Nat) (runs : CodeSet) =>
    (runs.push (low.getD code, true)).push (code + 1, false)
  let step := fun (state : Option Nat × Nat × CodeSet) (character : Char) =>
    let (low, code, runs) := state
    match hexDigit? character with
    | some digit => (low, code * 16 + digit, runs)
    | none =>
      if character = '-' then (some code, 0, runs)
      else (none, 0, close low code runs)
  let table := List.intercalate [' '] (lines.map String.toList)
  let (low, code, runs) := table.foldl step (none, 0, #[(0, false)])
  close low code runs

/-- Whether the character belongs to the set. -/
def contains (codes : CodeSet) (character : Char) : Bool :=
  (codes.get? character.toNat).getD false

end CodeSet

end Stencil.Unicode
