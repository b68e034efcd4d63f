/-
This file proves which parts of an expression stay while it is still being read. The reader keeps
the parts that it has read, the last one first, and takes back only that one, when a repetition
follows. So parts stay as they are once another one stands behind them, or once a group hides them:
they have settled, and the finished expression has alternatives or starts with them.
-/

import Stencil.Proofs.SpelledParts

namespace Stencil

namespace Regex

/-! ### Readings that succeed -/

section

variable {Error First Second : Type}

theorem ok_of_bind {part : Except Error First} {next : First → Except Error Second}
    {result : Second} (done : (part >>= next) = .ok result) :
    ∃ value, part = .ok value ∧ next value = .ok result := by
  cases part with
  | error cause => cases done
  | ok value => exact ⟨value, rfl, done⟩

theorem ok_of_map {part : Except Error First} {change : First → Second} {result : Second}
    (done : part.map change = .ok result) : ∃ value, part = .ok value ∧ change value = result := by
  cases part with
  | error cause => cases done
  | ok value => exact ⟨value, rfl, Except.ok.inj done⟩

end

/-! ### Parts that stay -/

/-- The level around all groups that are open. -/
def outermost : Level → List OpenGroup → Level
  | level, [] => level
  | _, group :: groups => outermost group.around groups

/-- The outermost level has alternatives, or the parts stand at its start. -/
def Keeps (kept : List Part) (progress : Progress) : Prop :=
  (outermost progress.level progress.groups).branches ≠ [] ∨
    kept <:+ (outermost progress.level progress.groups).parts

/-- The parts stand at the start of the outermost level, and another one stands behind them or is
being read: so a repetition no longer takes the last of them. -/
def Settles (kept : List Part) (progress : Progress) : Prop :=
  (outermost progress.level progress.groups).branches ≠ [] ∨
    ∃ later, (outermost progress.level progress.groups).parts = later ++ kept ∧
      (progress.groups = [] → later ≠ [])

section

variable {kept : List Part} {progress after : Progress}

theorem Settles.keeps (settles : Settles kept progress) : Keeps kept progress :=
  settles.imp_right fun ⟨later, same, _⟩ => ⟨later, same.symm⟩

theorem Keeps.push (keeps : Keeps kept progress) (part : Part) :
    Settles kept (progress.push part) := by
  obtain ⟨flags, level, groups, captures, names⟩ := progress
  cases groups with
  | nil =>
    refine keeps.imp_right ?_
    rintro ⟨later, same⟩
    exact ⟨part :: later, congrArg (part :: ·) same.symm, fun _ => List.cons_ne_nil _ _⟩
  | cons group groups =>
    refine keeps.imp_right ?_
    rintro ⟨later, same⟩
    exact ⟨later, same.symm, fun none => absurd none (List.cons_ne_nil _ _)⟩

theorem Keeps.branch (keeps : Keeps kept progress) : Settles kept progress.branch := by
  obtain ⟨flags, level, groups, captures, names⟩ := progress
  cases groups with
  | nil => exact Or.inl (List.cons_ne_nil _ _)
  | cons group groups =>
    refine keeps.imp_right ?_
    rintro ⟨later, same⟩
    exact ⟨later, same.symm, fun none => absurd none (List.cons_ne_nil _ _)⟩

theorem Keeps.openGroup (keeps : Keeps kept progress) (index : Option Nat) (flags : Flags) :
    Settles kept (progress.openGroup index flags) := by
  refine keeps.imp_right ?_
  rintro ⟨later, same⟩
  exact ⟨later, same.symm, fun none => absurd none (List.cons_ne_nil _ _)⟩

theorem Keeps.closeGroup (keeps : Keeps kept progress)
    (closed : progress.closeGroup = .ok after) : Settles kept after := by
  obtain ⟨flags, level, groups, captures, names⟩ := progress
  cases groups with
  | nil => cases closed
  | cons group groups =>
    cases closed
    have outside : Keeps kept ⟨group.flags, group.around, groups, captures, names⟩ := keeps
    exact outside.push _

theorem Settles.repeatLast (settles : Settles kept progress) {least : Nat} {most : Option Nat}
    {lazy : Bool} (done : progress.repeatLast least most lazy = .ok after) :
    Settles kept after := by
  obtain ⟨flags, ⟨branches, parts⟩, groups, captures, names⟩ := progress
  cases parts with
  | nil => cases done
  | cons part parts =>
    rw [Progress.repeatLast] at done
    dsimp only at done
    split at done
    · cases done
      cases groups with
      | nil =>
        refine settles.imp_right ?_
        rintro ⟨later, same, some⟩
        cases later with
        | nil => exact absurd rfl (some rfl)
        | cons last later =>
          exact ⟨_ :: later, congrArg (_ :: ·) (List.cons.inj same).2,
            fun _ => List.cons_ne_nil _ _⟩
      | cons group groups => exact settles
    · cases done

/-! ### What one piece does to them -/

theorem Keeps.openNamedGroup (keeps : Keeps kept progress) {text rest : Text}
    (opened : openNamedGroup progress text = .ok (after, rest)) : Settles kept after := by
  unfold Regex.openNamedGroup at opened
  dsimp only at opened
  split at opened
  · cases opened
  · split at opened
    · cases opened
    · split at opened
      · cases opened
      · split at opened
        · cases opened
        · cases opened
          exact keeps.openGroup _ progress.flags

theorem Keeps.readGroup (keeps : Keeps kept progress) {text rest : Text}
    (read : readGroup progress text = .ok (after, rest)) : Settles kept after := by
  unfold Regex.readGroup at read
  split at read
  · cases read
  · cases read
  · cases read
  · cases read
  · exact keeps.openNamedGroup read
  · exact keeps.openNamedGroup read
  · obtain ⟨⟨flags, letters, behind⟩, _, flagged⟩ := ok_of_bind read
    dsimp only at flagged
    split at flagged
    · cases flagged
      exact keeps.openGroup _ _
    · split at flagged
      · cases flagged
      · cases flagged
        exact keeps.push _
  · cases read
    exact keeps.openGroup _ _

theorem Settles.readCounted (settles : Settles kept progress) {text rest : Text}
    (read : readCounted progress text = .ok (after, rest)) : Settles kept after := by
  unfold Regex.readCounted at read
  obtain ⟨⟨found, behind⟩, _, read⟩ := ok_of_bind read
  obtain _ | least := found
  · cases read
  dsimp only at read
  split at read
  case' h_2 =>
    obtain ⟨pair, same, read⟩ := ok_of_bind read
    cases same
  case' h_1 =>
    split at read
    case' h_1 =>
      obtain ⟨pair, same, read⟩ := ok_of_bind read
      cases same
    case' h_2 =>
      obtain ⟨⟨most, behindMost⟩, _, read⟩ := ok_of_bind read
      obtain _ | most := most
      · cases read
      obtain ⟨pair, same, read⟩ := ok_of_bind read
      cases same
  -- whatever the second count is, only a closing brace behind it lets the last part be repeated
  all_goals
    dsimp only at read
    split at read
    · split at read
      · obtain ⟨repeated, done, read⟩ := ok_of_bind read
        cases read
        exact settles.repeatLast done
      · cases read
    · cases read

theorem Keeps.readPiece (keeps : Keeps kept progress) {head : Char} {text rest : Text}
    (settled : head ∈ ['?', '*', '+', '\x7b'] → Settles kept progress)
    (read : readPiece progress head text = .ok (after, rest)) : Settles kept after := by
  unfold Regex.readPiece at read
  split at read
  · exact keeps.readGroup read
  · obtain ⟨closed, done, same⟩ := ok_of_map read
    cases same
    exact keeps.closeGroup done
  · cases read
    exact keeps.branch
  · obtain ⟨⟨members, depth, behind⟩, _, done⟩ := ok_of_bind read
    cases done
    exact keeps.push _
  · obtain ⟨repeated, done, same⟩ := ok_of_map read
    cases same
    exact (settled (by decide)).repeatLast done
  · obtain ⟨repeated, done, same⟩ := ok_of_map read
    cases same
    exact (settled (by decide)).repeatLast done
  · obtain ⟨repeated, done, same⟩ := ok_of_map read
    cases same
    exact (settled (by decide)).repeatLast done
  · exact (settled (by decide)).readCounted read
  · obtain ⟨⟨primitive, behind⟩, _, done⟩ := ok_of_bind read
    obtain ⟨expr, _, done⟩ := ok_of_bind done
    cases done
    exact keeps.push _
  · obtain ⟨expr, _, done⟩ := ok_of_bind read
    cases done
    exact keeps.push _
  · cases read
    exact keeps.push _
  · cases read
    exact keeps.push _
  · cases read
    exact keeps.push _

/-- What has settled stays, whatever is read from there on. -/
theorem Settles.readPieces {fuel : Nat} {text : Text} (settles : Settles kept progress)
    (read : readPieces fuel progress text = .ok after) : Settles kept after := by
  induction fuel generalizing progress text with
  | zero =>
    cases read
    exact settles
  | succ fuel inductionHypothesis =>
    rw [Regex.readPieces] at read
    split at read
    · cases read
      exact settles
    · obtain ⟨⟨next, rest⟩, piece, read⟩ := ok_of_bind read
      exact inductionHypothesis (settles.keeps.readPiece (fun _ => settles) piece) read

/-! ### The finished expression -/

/-- Whether the expression has alternatives at its top. -/
def Expr.isAlternative : Expr → Bool
  | .alt _ _ => true
  | _ => false

/-- Several alternatives make an expression that has alternatives at its top. -/
theorem isAlternative_alternate (last before : Part) (earlier : List Part) :
    (Part.alternate (last :: before :: earlier)).expr.isAlternative = true := by
  have two : 2 ≤ ((last :: before :: earlier).reverse.map (·.expr)).length := by
    rw [List.length_map, List.length_reverse]
    exact Nat.le_add_left 2 earlier.length
  show (Expr.alts ((last :: before :: earlier).reverse.map (·.expr))).isAlternative = true
  generalize (last :: before :: earlier).reverse.map (·.expr) = exprs at two
  match exprs, two with
  | _ :: _ :: _, _ => rfl

/-- A level without alternatives is its parts, one after another. -/
theorem expr_part_of_single {level : Level} (single : level.part.expr.isAlternative = false) :
    level.branches = [] ∧ level.part.expr = Expr.cats (level.parts.map (·.expr)).reverse := by
  obtain ⟨branches, parts⟩ := level
  cases branches with
  | cons branch branches =>
    rw [Level.part, isAlternative_alternate] at single
    cases single
  | nil =>
    refine ⟨rfl, ?_⟩
    cases parts with
    | nil => rfl
    | cons last others =>
      cases others with
      | nil => rfl
      | cons before earlier =>
        rw [← List.map_reverse]
        rfl

/-- An expression without alternatives at its top starts with the parts that have settled. -/
theorem Settles.expr_eq (settles : Settles kept progress) (closed : progress.groups = [])
    (single : progress.level.part.expr.isAlternative = false) :
    ∃ others, progress.level.part.expr = Expr.cats ((kept.map (·.expr)).reverse ++ others) := by
  obtain ⟨noBranches, same⟩ := expr_part_of_single single
  rw [Settles, closed] at settles
  obtain filled | ⟨later, written, _⟩ := settles
  · exact absurd noBranches filled
  · have written : progress.level.parts = later ++ kept := written
    refine ⟨(later.map (·.expr)).reverse, ?_⟩
    rw [same, written, List.map_append, List.reverse_append]

end

/-- An expression is compiled when all of its pieces have been read and no group is left open. -/
theorem readPieces_of_compile {source : Text} {regex : Regex}
    (compiled : compile source = .ok regex) :
    regex.source = source ∧
      ∃ final : Progress, readPieces source.length {} source = .ok final ∧ final.groups = [] ∧
        read source = .ok final.level.part.expr ∧
        regex.program = Program.ofExpr final.level.part.expr := by
  obtain ⟨expr, parsed, made⟩ := ok_of_bind compiled
  cases made
  have parts := parsed
  rw [read] at parts
  obtain ⟨final, pieces, parts⟩ := ok_of_bind parts
  dsimp only at parts
  split at parts
  · cases parts
  · rename_i closed
    split at parts
    · cases parts
    · split at parts
      · cases parts
      · cases parts
        rw [Bool.not_eq_true, Bool.not_eq_false', List.isEmpty_iff] at closed
        exact ⟨rfl, final, pieces, closed, parsed, rfl⟩

end Regex

end Stencil
