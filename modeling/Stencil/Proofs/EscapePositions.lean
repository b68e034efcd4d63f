/-
This file says of a text that is marked and unmarked, position by position, what is left of it. A
character is gone if it belongs to an escape that stands directly before a delimiter, and stays in
its place among the others if not. So an escape that stands before anything else stays as well.

Marking goes over a text from the left and would miss an escape that starts inside another one, or
inside a delimiter that has been marked with its escape. Neither can be: the first character of the
escape occurs only once in it and not in a delimiter. Hence the escapes taken away one after another
are all the escapes before a delimiter, and the positions tell them apart without any scan.
-/

import Mathlib.Data.Nat.Basic
import Stencil.Proofs.EscapedText

namespace Stencil

namespace Text

/-- The characters of a text at the positions that pass a test, in their order. -/
def atPositions (kept : Nat → Bool) (text : Text) : Text :=
  (text.zipIdx.filter fun entry => kept entry.2).map Prod.fst

theorem atPositions_cons (kept : Nat → Bool) (head : Char) (tail : Text) :
    atPositions kept (head :: tail) =
      (if kept 0 then [head] else []) ++
        atPositions (fun position => kept (position + 1)) tail := by
  have later : ((tail.zipIdx 1).filter fun entry => kept entry.2).map Prod.fst =
      atPositions (fun position => kept (position + 1)) tail := by
    rw [List.zipIdx_succ, List.filter_map, List.map_map]
    rfl
  rw [← later, atPositions, List.zipIdx_cons, List.filter_cons]
  split
  · rfl
  · rfl

end Text

namespace Escaping

open Text

/-- The character at a position belongs to an escape that stands directly before a delimiter. -/
def InEscape (pattern : Pattern) (escape text : Text) (position : Nat) : Prop :=
  ∃ start ≤ position, position < start + escape.length ∧
    escapesDelimiter pattern escape (text.drop start) = true

instance (pattern : Pattern) (escape text : Text) (position : Nat) :
    Decidable (InEscape pattern escape text position) :=
  inferInstanceAs (Decidable (∃ start ≤ position, _))

section

variable {pattern : Pattern} {escape : Text}

theorem inEscape_zero {text : Text} (filled : escape ≠ []) :
    InEscape pattern escape text 0 ↔ escapesDelimiter pattern escape text = true := by
  constructor
  · rintro ⟨start, atMost, _, escapes⟩
    rwa [Nat.le_zero.mp atMost] at escapes
  · intro escapes
    refine ⟨0, Nat.le_refl 0, ?_, escapes⟩
    rw [Nat.zero_add]
    exact List.length_pos_iff.mpr filled

/-- Behind the first character, a position is in an escape if it is in one of the tail's, or in the
one that the text starts with. -/
theorem inEscape_succ {head : Char} {tail : Text} {position : Nat} :
    InEscape pattern escape (head :: tail) (position + 1) ↔
      (escapesDelimiter pattern escape (head :: tail) = true ∧ position + 1 < escape.length) ∨
        InEscape pattern escape tail position := by
  constructor
  · rintro ⟨start, atMost, inside, escapes⟩
    cases start with
    | zero => exact Or.inl ⟨escapes, by rwa [Nat.zero_add] at inside⟩
    | succ start =>
      exact Or.inr ⟨start, Nat.le_of_succ_le_succ atMost, by omega, escapes⟩
  · rintro (⟨escapes, inside⟩ | ⟨start, atMost, inside, escapes⟩)
    · exact ⟨0, Nat.zero_le _, by rwa [Nat.zero_add], escapes⟩
    · exact ⟨start + 1, Nat.succ_le_succ atMost, by omega, escapes⟩

theorem inEscape_succ_of_not {head : Char} {tail : Text} {position : Nat}
    (not : ¬ escapesDelimiter pattern escape (head :: tail) = true) :
    InEscape pattern escape (head :: tail) (position + 1) ↔
      InEscape pattern escape tail position := by
  rw [inEscape_succ]
  exact ⟨fun either => either.resolve_left fun both => not both.1, Or.inr⟩

end

section

variable {pattern : Pattern} {first : Char} {others : Text}

/-- Behind the first character of an escape, a position is in it up to the escape's end. -/
theorem inEscape_succ_of_escapes {head : Char} {tail : Text} {position : Nat}
    (escapes : escapesDelimiter pattern (first :: others) (head :: tail) = true) :
    InEscape pattern (first :: others) (head :: tail) (position + 1) ↔
      position < others.length ∨ InEscape pattern (first :: others) tail position := by
  rw [inEscape_succ, List.length_cons, Nat.add_lt_add_iff_right]
  exact or_congr_left ⟨And.right, And.intro escapes⟩

/-- Behind the first character of an escape that stands before a delimiter, that character does not
occur before the escape's end. -/
theorem not_mem_take_of_escapes (alone : first ∉ others) {head : Char} {tail : Text}
    (escapes : escapesDelimiter pattern (first :: others) (head :: tail) = true) :
    first ∉ tail.take others.length := by
  have stands : first :: others <+: head :: tail := by
    rw [escapesDelimiter, Bool.or_eq_true, List.isPrefixOf_iff_prefix,
      List.isPrefixOf_iff_prefix] at escapes
    rcases escapes with opened | closed
    · exact (List.prefix_append _ _).trans opened
    · exact (List.prefix_append _ _).trans closed
  rwa [← List.prefix_iff_eq_take.mp (List.cons_prefix_cons.mp stands).2]

/-- The scan that takes escapes away leaves the characters that are in no escape. The characters
still to be skipped belong to an escape that began before, so that none begins at them. -/
theorem unescapeFrom_eq_atPositions (alone : first ∉ others) (skip : Nat) (text : Text)
    (inside : first ∉ text.take skip) :
    unescapeFrom pattern (first :: others) skip text =
      atPositions (fun position => decide (skip ≤ position ∧
        ¬ InEscape pattern (first :: others) text position)) text := by
  induction text generalizing skip with
  | nil =>
    cases skip with
    | zero => rfl
    | succ skip => rfl
  | cons head tail inductionHypothesis =>
    cases skip with
    | succ skip =>
      rw [List.take_succ_cons, List.mem_cons, not_or] at inside
      have not : ¬ escapesDelimiter pattern (first :: others) (head :: tail) = true :=
        not_escapesDelimiter_of_ne inside.1 tail
      rw [atPositions_cons, unescapeFrom, inductionHypothesis skip inside.2]
      simp only [inEscape_succ_of_not not, Nat.add_le_add_iff_right]
      rfl
    | zero =>
      rw [atPositions_cons, unescapeFrom]
      by_cases escapes : escapesDelimiter pattern (first :: others) (head :: tail) = true
      -- an escape that begins here is gone up to its end, and none begins inside it
      · rw [if_pos escapes, List.length_cons, Nat.add_sub_cancel,
          inductionHypothesis _ (not_mem_take_of_escapes alone escapes)]
        simp only [inEscape_succ_of_escapes escapes, inEscape_zero (List.cons_ne_nil first others),
          escapes, Nat.zero_le, not_or, Nat.not_lt, true_and]
        rfl
      · rw [if_neg escapes, inductionHypothesis 0 List.not_mem_nil]
        simp only [inEscape_succ_of_not escapes, inEscape_zero (List.cons_ne_nil first others),
          escapes, Nat.zero_le]
        rfl

end

/-- Marking and unmarking takes away exactly the characters of the escapes that stand directly
before a delimiter. All others stay, in their order, and so do the escapes before anything else. -/
theorem unmark_mark_at_positions {pattern : Pattern} {escape text : Text}
    (tellable : Tellable pattern escape) (unmarked : Unmarked text) :
    unmark pattern (mark pattern escape text) =
      atPositions (fun position => decide ¬ InEscape pattern escape text position) text := by
  rw [unmark_mark tellable unmarked]
  obtain ⟨first, others, rfl, alone, _, _⟩ := tellable.alone
  refine (unescapeFrom_eq_atPositions alone 0 text List.not_mem_nil).trans ?_
  simp only [Nat.zero_le, true_and]

/-- One delimiter starts with the other, one escape stands before another one, and one at the end
of the text. -/
theorem unmark_mark_at_positions_nested :
    Tellable Template.nestedPattern ['#', '!'] ∧ Unmarked "#!<b #!c #!<> #!#!< #!".toList ∧
      unmark Template.nestedPattern
          (mark Template.nestedPattern ['#', '!'] "#!<b #!c #!<> #!#!< #!".toList) =
        "<b #!c <> #!< #!".toList := by
  have tellable : Tellable Template.nestedPattern ['#', '!'] :=
    ⟨⟨'#', ['!'], rfl, by decide, by decide, by decide⟩, by decide, by decide, by decide⟩
  have unmarked : Unmarked "#!<b #!c #!<> #!#!< #!".toList := by decide
  refine ⟨tellable, unmarked, (unmark_mark_at_positions tellable unmarked).trans ?_⟩
  decide

end Escaping

end Stencil
