/-
Programs that a search runs: expressions with counted repetitions written out and with a number at
every place where two ways through the expression meet. Of the groups only the first is kept, for
it alone is asked for.
-/

import Stencil.Regex.Basic

namespace Stencil.Regex

/-- An expression ready to be searched for. `join` numbers the end of the two branches of a choice,
`turn` the end of one iteration of a loop. -/
inductive Node where
  | empty
  | set (members : CharSet)
  | look (assertion : Look)
  | capture (body : Node)
  | cat (first second : Node)
  | choice (join : Nat) (first second : Node)
  | loop (turn : Nat) (body : Node) (greedy : Bool)

namespace Node

/-- What numbers places: from the next free number to a node and the next free number after it. -/
abbrev Numbered := Nat → Node × Nat

/-- A body or nothing, whichever comes first. -/
def optional (join : Nat) (body : Node) (greedy : Bool) : Node :=
  if greedy then choice join body empty else choice join empty body

/-- A body a given number of times, then a last node. -/
def timesThen (body last : Numbered) : (count : Nat) → Numbered
  | 0, next => last next
  | count + 1, next =>
    let (first, next) := body next
    let (rest, next) := timesThen body last count next
    (cat first rest, next)

/-- A body at most a given number of times. -/
def atMost (body : Numbered) (greedy : Bool) : (count : Nat) → Numbered
  | 0, next => (empty, next)
  | count + 1, next =>
    let (first, after) := body (next + 1)
    let (rest, after) := atMost body greedy count after
    (optional next (cat first rest) greedy, after)

/-- A body at least once. -/
def atLeastOnce (body : Numbered) (greedy : Bool) : Numbered := fun next =>
  let (body, after) := body (next + 1)
  (loop next body greedy, after)

/-- A body any number of times. -/
def anyTimes (body : Numbered) (greedy : Bool) : Numbered := fun next =>
  let (body, after) := atLeastOnce body greedy (next + 1)
  (optional next body greedy, after)

/-- The node of an expression. -/
def ofExpr : Expr → Numbered
  | .empty => fun next => (empty, next)
  | .set members => fun next => (set members, next)
  | .look assertion => fun next => (look assertion, next)
  | .group index body => fun next =>
    let (body, after) := ofExpr body next
    (if index = 1 then capture body else body, after)
  | .cat first second => fun next =>
    let (first, after) := ofExpr first next
    let (second, after) := ofExpr second after
    (cat first second, after)
  | .alt first second => fun next =>
    let (first, after) := ofExpr first (next + 1)
    let (second, after) := ofExpr second after
    (choice next first second, after)
  | .repetition body least most greedy =>
    match least, most with
    | 0, none => anyTimes (ofExpr body) greedy
    | least + 1, none => timesThen (ofExpr body) (atLeastOnce (ofExpr body) greedy) least
    | least, some most => timesThen (ofExpr body) (atMost (ofExpr body) greedy (most - least)) least

end Node

/-- A node and how many numbers its places use. -/
structure Program where
  node : Node
  places : Nat

/-- The program of an expression. -/
def Program.ofExpr (expr : Expr) : Program :=
  let (node, places) := Node.ofExpr expr 0
  ⟨node, places⟩

end Stencil.Regex
