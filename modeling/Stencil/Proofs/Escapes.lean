/-
This file proves how a text is marked and unmarked. Marking makes two replacements, one after the
other: first the escaped opening delimiters, then the escaped closing ones. Where the first
character of the escape occurs neither later in the escape nor in a delimiter, the two do not get in
each other's way, and marking is one scan that asks at each position for the opening delimiter
first. Unmarking replaces single characters, each on its own. Replacing a mark by the escape and its
delimiter, instead of the delimiter alone, undoes marking, whatever the escape is.
-/

import Mathlib.Data.List.Basic
import Stencil.Escaping

namespace Stencil.Text

/-! ### Changing element by element -/

theorem flatMap_eq_self {change : Char → Text} {text : Text}
    (kept : ∀ character ∈ text, change character = [character]) : text.flatMap change = text :=
  (List.flatMap_congr kept).trans (List.flatMap_singleton' text)

/-! ### Replacing -/

variable {first : Char} {others replacement : Text}

theorem replaceFrom_skip (needle replacement : Text) (skip : Nat) (text : Text) :
    replaceFrom needle replacement skip text =
      replaceFrom needle replacement 0 (text.drop skip) := by
  induction text generalizing skip with
  | nil =>
    cases skip with
    | zero => rfl
    | succ skip => rfl
  | cons head tail inductionHypothesis =>
    cases skip with
    | zero => rfl
    | succ skip => exact inductionHypothesis skip

/-- Where the needle stands, it is replaced. -/
theorem replaceFrom_needle (rest : Text) :
    replaceFrom (first :: others) replacement 0 ((first :: others) ++ rest) =
      replacement ++ replaceFrom (first :: others) replacement 0 rest := by
  have stands : (first :: others).isPrefixOf (first :: (others ++ rest)) = true :=
    List.isPrefixOf_iff_prefix.mpr (List.prefix_append (first :: others) rest)
  rw [List.cons_append, replaceFrom, if_pos stands, replaceFrom_skip, List.length_cons,
    Nat.add_sub_cancel, List.drop_left]

/-- Where it does not stand, the next character stays. -/
theorem replaceFrom_of_absent {needle : Text} {head : Char} {tail : Text}
    (absent : ¬ needle.isPrefixOf (head :: tail) = true) :
    replaceFrom needle replacement 0 (head :: tail) =
      head :: replaceFrom needle replacement 0 tail := by
  rw [replaceFrom, if_neg absent]

theorem not_prefix_of_ne {head : Char} (different : first ≠ head) (tail : Text) :
    ¬ (first :: others).isPrefixOf (head :: tail) = true := by
  rw [List.isPrefixOf_cons_cons, beq_false_of_ne different, Bool.false_and]
  exact Bool.false_ne_true

/-- A stretch without the needle's first character stays. -/
theorem replaceFrom_append {stretch : Text} (absent : first ∉ stretch) (rest : Text) :
    replaceFrom (first :: others) replacement 0 (stretch ++ rest) =
      stretch ++ replaceFrom (first :: others) replacement 0 rest := by
  induction stretch with
  | nil => rfl
  | cons head stretch inductionHypothesis =>
    rw [List.mem_cons, not_or] at absent
    rw [List.cons_append, replaceFrom_of_absent (not_prefix_of_ne absent.1 _),
      inductionHypothesis absent.2, List.cons_append]

/-- What stands before a needle's first character was there before the replacing, unless it holds
characters that the replacing brought in. -/
theorem prefix_of_prefix_replaceFrom {mark : Char} {needle stretch : Text}
    (noMark : mark ∉ stretch) {text : Text}
    (stands : stretch <+: replaceFrom needle [mark] 0 text) : stretch <+: text := by
  induction stretch generalizing text with
  | nil => exact List.nil_prefix
  | cons head stretch inductionHypothesis =>
    rw [List.mem_cons, not_or] at noMark
    cases text with
    | nil => exact stands
    | cons next text =>
      by_cases replaced : needle.isPrefixOf (next :: text) = true
      · rw [replaceFrom, if_pos replaced, List.singleton_append, List.cons_prefix_cons] at stands
        exact absurd stands.1.symm noMark.1
      · rw [replaceFrom_of_absent replaced, List.cons_prefix_cons] at stands
        exact List.cons_prefix_cons.mpr ⟨stands.1, inductionHypothesis noMark.2 stands.2⟩

theorem replaceAll_single (mark : Char) (replacement text : Text) :
    replaceAll [mark] replacement text =
      text.flatMap fun character => if character = mark then replacement else [character] := by
  show replaceFrom [mark] replacement 0 text = _
  induction text with
  | nil => rfl
  | cons head tail inductionHypothesis =>
    rw [List.flatMap_cons, ← inductionHypothesis]
    by_cases same : head = mark
    · subst same
      rw [if_pos rfl]
      exact replaceFrom_needle tail
    · rw [if_neg same, replaceFrom_of_absent (not_prefix_of_ne (Ne.symm same) tail)]
      rfl

theorem mem_of_mem_replaceFrom {needle replacement text : Text} {skip : Nat} {character : Char}
    (member : character ∈ replaceFrom needle replacement skip text) :
    character ∈ replacement ∨ character ∈ text := by
  induction text generalizing skip with
  | nil =>
    cases skip with
    | zero => exact absurd member List.not_mem_nil
    | succ skip => exact absurd member List.not_mem_nil
  | cons head tail inductionHypothesis =>
    cases skip with
    | zero =>
      rw [replaceFrom] at member
      split at member
      · rcases List.mem_append.mp member with new | later
        · exact .inl new
        · exact (inductionHypothesis later).imp_right (List.mem_cons_of_mem head)
      · rcases List.mem_cons.mp member with same | later
        · exact .inr (same ▸ List.mem_cons_self)
        · exact (inductionHypothesis later).imp_right (List.mem_cons_of_mem head)
    | succ skip => exact (inductionHypothesis member).imp_right (List.mem_cons_of_mem head)

/-- Replacing a needle by a character that the text does not hold is undone by writing the needle
back. -/
theorem flatMap_replaceFrom {mark first : Char} {others text : Text} (fresh : mark ∉ text)
    (skip : Nat) :
    (replaceFrom (first :: others) [mark] skip text).flatMap
        (fun character => if character = mark then first :: others else [character]) =
      text.drop skip := by
  induction text generalizing skip with
  | nil => cases skip <;> rfl
  | cons head tail inductionHypothesis =>
    rw [List.mem_cons, not_or] at fresh
    cases skip with
    | zero =>
      rw [replaceFrom]
      split
      · rename_i stands
        have written := List.prefix_iff_eq_append.mp (List.isPrefixOf_iff_prefix.mp stands)
        rw [List.singleton_append, List.flatMap_cons, inductionHypothesis fresh.2, if_pos rfl]
        exact written
      · rw [List.flatMap_cons, inductionHypothesis fresh.2, if_neg (Ne.symm fresh.1)]
        rfl
    | succ skip => exact inductionHypothesis fresh.2 skip

end Stencil.Text

namespace Stencil.Escaping

open Text

/-! ### Marking as one scan -/

/-- No mark occurs in the text. -/
def Unmarked (text : Text) : Prop :=
  openingMark ∉ text ∧ closingMark ∉ text

instance (text : Text) : Decidable (Unmarked text) :=
  inferInstanceAs (Decidable (_ ∧ _))

/-- Marks a text in one scan, given the two delimiters with the escape before them; the first `skip`
characters belong to one of them that has been marked already. -/
def markFrom (opened closed : Text) : (skip : Nat) → Text → Text
  | _, [] => []
  | skip + 1, _ :: tail => markFrom opened closed skip tail
  | 0, head :: tail =>
    if opened.isPrefixOf (head :: tail) then
      openingMark :: markFrom opened closed (opened.length - 1) tail
    else if closed.isPrefixOf (head :: tail) then
      closingMark :: markFrom opened closed (closed.length - 1) tail
    else
      head :: markFrom opened closed 0 tail

theorem markFrom_skip (opened closed : Text) (skip : Nat) (text : Text) :
    markFrom opened closed skip text = markFrom opened closed 0 (text.drop skip) := by
  induction text generalizing skip with
  | nil =>
    cases skip with
    | zero => rfl
    | succ skip => rfl
  | cons head tail inductionHypothesis =>
    cases skip with
    | zero => rfl
    | succ skip => exact inductionHypothesis skip

section

variable {first : Char} {openedTail closedTail : Text}

/-- What the two replacements of marking make of a text, one after the other, is what the one scan
makes of it. -/
theorem replaceFrom_replaceFrom (alone : first ∉ closedTail) (notMark : first ≠ openingMark)
    (noMark : openingMark ∉ closedTail) (skip : Nat) (text : Text) :
    replaceFrom (first :: closedTail) [closingMark] 0
        (replaceFrom (first :: openedTail) [openingMark] 0 (text.drop skip)) =
      markFrom (first :: openedTail) (first :: closedTail) skip text := by
  induction text generalizing skip with
  | nil =>
    rw [List.drop_nil]
    cases skip with
    | zero => rfl
    | succ skip => rfl
  | cons head tail inductionHypothesis =>
    cases skip with
    | succ skip => exact inductionHypothesis skip
    | zero =>
      rw [List.drop_zero, markFrom]
      by_cases opened : (first :: openedTail).isPrefixOf (head :: tail) = true
      · rw [if_pos opened, replaceFrom, if_pos opened, replaceFrom_skip (first :: openedTail),
          List.singleton_append, replaceFrom_of_absent (not_prefix_of_ne notMark _),
          inductionHypothesis]
      · rw [if_neg opened, replaceFrom_of_absent opened]
        by_cases closed : (first :: closedTail).isPrefixOf (head :: tail) = true
        · obtain ⟨rest, same⟩ := List.isPrefixOf_iff_prefix.mp closed
          rw [List.cons_append, List.cons.injEq] at same
          obtain ⟨rfl, rfl⟩ := same
          have later := inductionHypothesis closedTail.length
          rw [List.drop_left] at later
          rw [if_pos closed, List.length_cons, Nat.add_sub_cancel, ← later,
            replaceFrom_append alone, ← List.cons_append, replaceFrom_needle]
          rfl
        · have stillNot : ¬ (first :: closedTail).isPrefixOf
              (head :: replaceFrom (first :: openedTail) [openingMark] 0 tail) = true := by
            intro stands
            rw [List.isPrefixOf_iff_prefix, List.cons_prefix_cons] at stands
            refine closed (List.isPrefixOf_iff_prefix.mpr (List.cons_prefix_cons.mpr ?_))
            exact ⟨stands.1, prefix_of_prefix_replaceFrom noMark stands.2⟩
          rw [if_neg closed, replaceFrom_of_absent stillNot]
          exact congrArg (head :: ·) (inductionHypothesis 0)

/-- A stretch without the escape's first character stays. -/
theorem markFrom_append {stretch : Text} (absent : first ∉ stretch) (rest : Text) :
    markFrom (first :: openedTail) (first :: closedTail) 0 (stretch ++ rest) =
      stretch ++ markFrom (first :: openedTail) (first :: closedTail) 0 rest := by
  induction stretch with
  | nil => rfl
  | cons head stretch inductionHypothesis =>
    rw [List.mem_cons, not_or] at absent
    rw [List.cons_append, markFrom, if_neg (not_prefix_of_ne absent.1 _),
      if_neg (not_prefix_of_ne absent.1 _), inductionHypothesis absent.2, List.cons_append]

theorem markFrom_opened (rest : Text) :
    markFrom (first :: openedTail) (first :: closedTail) 0 ((first :: openedTail) ++ rest) =
      openingMark :: markFrom (first :: openedTail) (first :: closedTail) 0 rest := by
  have opened : (first :: openedTail).isPrefixOf (first :: (openedTail ++ rest)) = true :=
    List.isPrefixOf_iff_prefix.mpr (List.prefix_append (first :: openedTail) rest)
  rw [List.cons_append, markFrom, if_pos opened, markFrom_skip, List.length_cons,
    Nat.add_sub_cancel, List.drop_left]

theorem markFrom_closed {rest : Text}
    (notOpened : ¬ (first :: openedTail).isPrefixOf ((first :: closedTail) ++ rest) = true) :
    markFrom (first :: openedTail) (first :: closedTail) 0 ((first :: closedTail) ++ rest) =
      closingMark :: markFrom (first :: openedTail) (first :: closedTail) 0 rest := by
  have closed : (first :: closedTail).isPrefixOf (first :: (closedTail ++ rest)) = true :=
    List.isPrefixOf_iff_prefix.mpr (List.prefix_append (first :: closedTail) rest)
  rw [List.cons_append] at notOpened
  rw [List.cons_append, markFrom, if_neg notOpened, if_pos closed, markFrom_skip, List.length_cons,
    Nat.add_sub_cancel, List.drop_left]

end

/-! ### Escapes -/

/-- An escape that can be told from what stands around it: its first character occurs neither later
in it nor in a delimiter, and there are no marks in any of them. -/
structure Tellable (pattern : Pattern) (escape : Text) : Prop where
  alone : ∃ first others, escape = first :: others ∧ first ∉ others ∧ first ∉ pattern.opening ∧
    first ∉ pattern.closing
  escapeUnmarked : Unmarked escape
  openingUnmarked : Unmarked pattern.opening
  closingUnmarked : Unmarked pattern.closing

section

variable {pattern : Pattern} {escape : Text}

/-- Marking is one scan. -/
theorem mark_eq_markFrom (tellable : Tellable pattern escape) (text : Text) :
    mark pattern escape text =
      markFrom (escape ++ pattern.opening) (escape ++ pattern.closing) 0 text := by
  obtain ⟨first, others, rfl, notInEscape, _, notInClosing⟩ := tellable.alone
  have unmarked := tellable.escapeUnmarked.1
  rw [List.mem_cons, not_or] at unmarked
  have alone : first ∉ others ++ pattern.closing := by
    rw [List.mem_append, not_or]
    exact ⟨notInEscape, notInClosing⟩
  have noMark : openingMark ∉ others ++ pattern.closing := by
    rw [List.mem_append, not_or]
    exact ⟨unmarked.2, tellable.closingUnmarked.1⟩
  exact replaceFrom_replaceFrom alone (Ne.symm unmarked.1) noMark 0 text

end

/-- A text without the first character of the escape is marked nowhere. -/
theorem mark_of_not_mem {pattern : Pattern} {first : Char} {others text : Text}
    (absent : first ∉ text) : mark pattern (first :: others) text = text := by
  have kept (delimiter : Text) (mark : Char) :
      Text.replaceAll (first :: others ++ delimiter) [mark] text = text := by
    have same : Text.replaceFrom (first :: (others ++ delimiter)) [mark] 0 (text ++ []) =
        text ++ [] := Text.replaceFrom_append absent []
    rwa [List.append_nil] at same
  rw [mark, kept, kept]
  rfl

/-! ### Unmarking -/

/-- What unmarking makes of a character. -/
def unmarkCharacter (pattern : Pattern) (character : Char) : Text :=
  if character = openingMark then pattern.opening
  else if character = closingMark then pattern.closing
  else [character]

theorem unmark_eq_flatMap {pattern : Pattern} (openingUnmarked : Unmarked pattern.opening)
    (text : Text) : unmark pattern text = text.flatMap (unmarkCharacter pattern) := by
  rw [unmark, replaceAll_single, replaceAll_single, List.flatMap_assoc]
  refine congrArg (List.flatMap · text) ?_
  funext character
  rw [unmarkCharacter]
  split
  · refine flatMap_eq_self fun character member => if_neg ?_
    rintro rfl
    exact openingUnmarked.2 member
  · exact List.flatMap_singleton _ _

/-- Unmarking leaves alone what holds no mark. -/
theorem flatMap_unmarkCharacter (pattern : Pattern) {text : Text} (unmarked : Unmarked text) :
    text.flatMap (unmarkCharacter pattern) = text := by
  refine flatMap_eq_self fun character member => ?_
  have notOpening : character ≠ openingMark := by
    rintro rfl
    exact unmarked.1 member
  have notClosing : character ≠ closingMark := by
    rintro rfl
    exact unmarked.2 member
  rw [unmarkCharacter, if_neg notOpening, if_neg notClosing]

/-! ### Unmarked texts -/

theorem Unmarked.append {first second : Text} (unmarked : Unmarked first)
    (unmarkedToo : Unmarked second) : Unmarked (first ++ second) := by
  constructor
  · exact fun member => (List.mem_append.mp member).elim unmarked.1 unmarkedToo.1
  · exact fun member => (List.mem_append.mp member).elim unmarked.2 unmarkedToo.2

theorem Unmarked.flatMap {Element : Type} {change : Element → Text} {list : List Element}
    (each : ∀ element ∈ list, Unmarked (change element)) : Unmarked (list.flatMap change) := by
  constructor
  · intro member
    obtain ⟨element, present, inside⟩ := List.mem_flatMap.mp member
    exact (each element present).1 inside
  · intro member
    obtain ⟨element, present, inside⟩ := List.mem_flatMap.mp member
    exact (each element present).2 inside

theorem Unmarked.part {part whole : Text} (unmarked : Unmarked whole)
    (inside : ∀ character ∈ part, character ∈ whole) : Unmarked part :=
  ⟨fun member => unmarked.1 (inside _ member), fun member => unmarked.2 (inside _ member)⟩

/-! ### Marks written back -/

/-- What a character of a marked text stands for: a mark stands for the escape and its delimiter. -/
def restoreCharacter (pattern : Pattern) (escape : Text) (character : Char) : Text :=
  if character = openingMark then escape ++ pattern.opening
  else if character = closingMark then escape ++ pattern.closing
  else [character]

/-- The text with every mark written back. -/
def restore (pattern : Pattern) (escape text : Text) : Text :=
  text.flatMap (restoreCharacter pattern escape)

theorem restore_of_unmarked (pattern : Pattern) (escape : Text) {text : Text}
    (unmarked : Unmarked text) : restore pattern escape text = text := by
  refine Text.flatMap_eq_self fun character member => ?_
  have notOpening : character ≠ openingMark := fun same => unmarked.1 (same ▸ member)
  have notClosing : character ≠ closingMark := fun same => unmarked.2 (same ▸ member)
  rw [restoreCharacter, if_neg notOpening, if_neg notClosing]

/-- Marking is undone by writing the marks back. -/
theorem restore_mark {pattern : Pattern} {escape text : Text} (escapeUnmarked : Unmarked escape)
    (closingUnmarked : Unmarked pattern.closing) (unmarked : Unmarked text) :
    restore pattern escape (mark pattern escape text) = text := by
  cases escape with
  | nil => exact restore_of_unmarked pattern [] unmarked
  | cons first others =>
    -- the closing marks are written back first, for they were made last
    have split : restoreCharacter pattern (first :: others) = fun character =>
        (if character = closingMark then first :: (others ++ pattern.closing)
          else [character]).flatMap fun character =>
            if character = openingMark then first :: (others ++ pattern.opening)
            else [character] := by
      funext character
      by_cases opening : character = openingMark
      · subst opening
        rw [restoreCharacter, if_pos rfl, if_neg (by decide), List.flatMap_singleton, if_pos rfl]
        rfl
      · by_cases closing : character = closingMark
        · rw [restoreCharacter, if_neg opening, if_pos closing, if_pos closing]
          refine (Text.flatMap_eq_self fun other member => if_neg ?_).symm
          rintro rfl
          exact (escapeUnmarked.append closingUnmarked).1 member
        · rw [restoreCharacter, if_neg opening, if_neg closing, if_neg closing,
            List.flatMap_singleton, if_neg opening]
    have fresh : closingMark ∉
        Text.replaceFrom (first :: (others ++ pattern.opening)) [openingMark] 0 text := by
      intro member
      rcases Text.mem_of_mem_replaceFrom member with new | old
      · exact absurd new (by decide)
      · exact unmarked.2 old
    show (Text.replaceFrom (first :: (others ++ pattern.closing)) [closingMark] 0
      (Text.replaceFrom (first :: (others ++ pattern.opening)) [openingMark] 0 text)).flatMap
        (restoreCharacter pattern (first :: others)) = text
    rw [split, ← List.flatMap_assoc, Text.flatMap_replaceFrom fresh, List.drop_zero,
      Text.flatMap_replaceFrom unmarked.1, List.drop_zero]

theorem isInfix_restore (pattern : Pattern) (escape : Text) {part text : Text}
    (inside : part <:+: text) :
    restore pattern escape part <:+: restore pattern escape text := by
  obtain ⟨before, after, rfl⟩ := inside
  refine ⟨restore pattern escape before, restore pattern escape after, ?_⟩
  simp only [restore, List.flatMap_append]

end Stencil.Escaping
