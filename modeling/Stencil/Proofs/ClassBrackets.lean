/-
This file proves what counting brackets makes of a class. Inside a class a bracket opens or closes a
class, or it is a stray: it stands for itself, though no backslash says so. Counting is right as
long as there are no strays. An opening stray is one bracket too many to be closed, so that the
count goes on behind the class; at a closing stray it ends early, before the class does.
-/

import Stencil.Pattern.Delimiters
import Stencil.Proofs.PropertyNames

namespace Stencil.Delimiters

/-- Brackets close as many classes as are open, and behind the last of them another text stands. On
the way there are brackets that stand for themselves, the strays. -/
inductive ClosesBy : (depth : Nat) → (text strays behind : Text) → Prop
  | closed {behind : Text} : ClosesBy 0 behind [] behind
  | opening {depth : Nat} {rest strays behind : Text}
      (later : ClosesBy (depth + 2) rest strays behind) :
      ClosesBy (depth + 1) ('[' :: rest) strays behind
  | closing {depth : Nat} {rest strays behind : Text} (later : ClosesBy depth rest strays behind) :
      ClosesBy (depth + 1) (']' :: rest) strays behind
  | strayOpening {depth : Nat} {rest strays behind : Text}
      (later : ClosesBy (depth + 1) rest strays behind) :
      ClosesBy (depth + 1) ('[' :: rest) ('[' :: strays) behind
  | strayClosing {depth : Nat} {rest strays behind : Text}
      (later : ClosesBy (depth + 1) rest strays behind) :
      ClosesBy (depth + 1) (']' :: rest) (']' :: strays) behind
  | escaped {depth : Nat} {character : Char} {rest strays behind : Text}
      (later : ClosesBy (depth + 1) rest strays behind) :
      ClosesBy (depth + 1) ('\\' :: character :: rest) strays behind
  | plain {depth : Nat} {character : Char} {rest strays behind : Text}
      (noMark : isClassMark character = false) (later : ClosesBy (depth + 1) rest strays behind) :
      ClosesBy (depth + 1) (character :: rest) strays behind

section

variable {depth : Nat} {text strays behind : Text}

theorem ClosesBy.append {taken : Text} (noMark : HoldsNoMark taken)
    (closes : ClosesBy (depth + 1) text strays behind) :
    ClosesBy (depth + 1) (taken ++ text) strays behind := by
  induction taken with
  | nil => exact closes
  | cons character taken inductionHypothesis =>
    refine ClosesBy.plain (noMark character List.mem_cons_self) (inductionHypothesis ?_)
    exact fun later member => noMark later (List.mem_cons_of_mem character member)

/-- What stands behind a class stands behind a bracket. -/
theorem ClosesBy.ends (closes : ClosesBy depth text strays behind) (opened : 0 < depth) :
    ∃ taken, text = taken ++ ']' :: behind := by
  induction closes with
  | closed => exact absurd opened (Nat.lt_irrefl 0)
  | @closing depth rest strays behind later inductionHypothesis =>
    cases depth with
    | zero =>
      cases later
      exact ⟨[], rfl⟩
    | succ depth =>
      obtain ⟨taken, rfl⟩ := inductionHypothesis (Nat.succ_pos depth)
      exact ⟨']' :: taken, rfl⟩
  | opening _ inductionHypothesis =>
    obtain ⟨taken, rfl⟩ := inductionHypothesis (Nat.succ_pos _)
    exact ⟨'[' :: taken, rfl⟩
  | strayOpening _ inductionHypothesis =>
    obtain ⟨taken, rfl⟩ := inductionHypothesis (Nat.succ_pos _)
    exact ⟨'[' :: taken, rfl⟩
  | strayClosing _ inductionHypothesis =>
    obtain ⟨taken, rfl⟩ := inductionHypothesis (Nat.succ_pos _)
    exact ⟨']' :: taken, rfl⟩
  | @escaped _ character _ _ _ _ inductionHypothesis =>
    obtain ⟨taken, rfl⟩ := inductionHypothesis (Nat.succ_pos _)
    exact ⟨'\\' :: character :: taken, rfl⟩
  | @plain _ character _ _ _ _ _ inductionHypothesis =>
    obtain ⟨taken, rfl⟩ := inductionHypothesis (Nat.succ_pos _)
    exact ⟨character :: taken, rfl⟩

/-! ### Counting -/

theorem afterBrackets_plain {character : Char} (noMark : isClassMark character = false)
    (rest : Text) :
    afterBrackets (depth + 1) (character :: rest) = afterBrackets (depth + 1) rest := by
  have other : ¬ (character = '[' ∨ character = ']' ∨ character = '\\') := by
    rw [← isClassMark_iff, noMark]
    exact Bool.false_ne_true
  obtain ⟨noOpening, noClosing, noEscape⟩ := not_or.mp other |>.imp id not_or.mp
  rw [afterBrackets]
  · exact fun escape _ => noEscape escape
  · exact fun _ _ escape _ => noEscape escape
  · exact noOpening
  · exact noClosing

/-- Each opening stray leaves one more class to be closed behind the class. -/
theorem ClosesBy.afterBrackets_of_opening (closes : ClosesBy depth text strays behind)
    (opening : ∀ stray ∈ strays, stray = '[') (extra : Nat) :
    afterBrackets (extra + depth) text = afterBrackets (extra + strays.length) behind := by
  induction closes generalizing extra with
  | closed => rfl
  | opening _ inductionHypothesis => exact inductionHypothesis opening extra
  | closing _ inductionHypothesis => exact inductionHypothesis opening extra
  | @strayOpening depth rest strays _ _ inductionHypothesis =>
    have others := fun stray member => opening stray (List.mem_cons_of_mem _ member)
    have later := inductionHypothesis others (extra + 1)
    rw [Nat.add_right_comm extra 1 strays.length] at later
    refine Eq.trans ?_ later
    rw [Nat.add_right_comm extra 1]
    rfl
  | strayClosing => exact absurd (opening _ List.mem_cons_self) (by decide)
  | escaped _ inductionHypothesis => exact inductionHypothesis opening extra
  | plain noMark _ inductionHypothesis =>
    exact (afterBrackets_plain noMark _).trans (inductionHypothesis opening extra)

/-- Once nothing counts as open, counting has ended, and the rest of the class is ahead. -/
theorem ClosesBy.afterBrackets_zero (closes : ClosesBy (depth + 1) text strays behind) :
    ∃ missed, afterBrackets 0 text = missed ++ ']' :: behind := by
  obtain ⟨missed, rfl⟩ := closes.ends (Nat.succ_pos depth)
  exact ⟨missed, by rw [afterBrackets]⟩

/-- Where fewer classes count as open than are, or where strays close some, counting ends early: the
bracket that closes the last class is still ahead. -/
theorem ClosesBy.afterBrackets_of_closing (closes : ClosesBy depth text strays behind)
    (closing : ∀ stray ∈ strays, stray = ']') (counted : Nat) (atMost : counted ≤ depth)
    (fewer : counted < depth + strays.length) :
    ∃ missed, afterBrackets counted text = missed ++ ']' :: behind := by
  induction closes generalizing counted with
  | closed => exact absurd fewer (Nat.not_lt_zero counted)
  | opening later inductionHypothesis =>
    cases counted with
    | zero => exact (ClosesBy.opening later).afterBrackets_zero
    | succ counted => exact inductionHypothesis closing (counted + 2) (by omega) (by omega)
  | closing later inductionHypothesis =>
    cases counted with
    | zero => exact (ClosesBy.closing later).afterBrackets_zero
    | succ counted => exact inductionHypothesis closing counted (by omega) (by omega)
  | strayOpening => exact absurd (closing _ List.mem_cons_self) (by decide)
  | strayClosing later inductionHypothesis =>
    cases counted with
    | zero => exact (ClosesBy.strayClosing later).afterBrackets_zero
    | succ counted =>
      have others := fun stray member => closing stray (List.mem_cons_of_mem _ member)
      rw [List.length_cons] at fewer
      exact inductionHypothesis others counted (by omega) (by omega)
  | escaped later inductionHypothesis =>
    cases counted with
    | zero => exact (ClosesBy.escaped later).afterBrackets_zero
    | succ counted => exact inductionHypothesis closing _ atMost fewer
  | plain noMark later inductionHypothesis =>
    cases counted with
    | zero => exact (ClosesBy.plain noMark later).afterBrackets_zero
    | succ counted =>
      rw [afterBrackets_plain noMark]
      exact inductionHypothesis closing _ atMost fewer

end

end Stencil.Delimiters
