/-
This file proves what trimming leaves of a text: what stands between two runs of characters that are
dropped, if it neither starts nor ends with such a character, and nothing that was not there before.
-/

import Mathlib.Data.List.TakeWhile
import Stencil.Text.Blank

namespace Stencil.Text

section

variable {test : Char → Bool}

/-! ### The end of a text -/

theorem dropEndWhile_eq_nil {text : Text} (every : ∀ character ∈ text, test character = true) :
    dropEndWhile test text = [] := by
  induction text with
  | nil => rfl
  | cons head tail inductionHypothesis =>
    rw [dropEndWhile, inductionHypothesis fun _ later => every _ (List.mem_cons_of_mem _ later)]
    exact if_pos (every head List.mem_cons_self)

theorem dropEndWhile_append (front : Text) {back : Text}
    (every : ∀ character ∈ back, test character = true) :
    dropEndWhile test (front ++ back) = dropEndWhile test front := by
  induction front with
  | nil => exact dropEndWhile_eq_nil every
  | cons head tail inductionHypothesis =>
    rw [List.cons_append, dropEndWhile, inductionHypothesis, dropEndWhile]

theorem dropEndWhile_eq_self {text : Text}
    (last : ∀ character ∈ text.getLast?, test character = false) :
    dropEndWhile test text = text := by
  induction text with
  | nil => rfl
  | cons head tail inductionHypothesis =>
    cases tail with
    | nil =>
      rw [dropEndWhile, dropEndWhile, last head rfl]
      rfl
    | cons next rest => rw [dropEndWhile, inductionHypothesis last]

theorem dropEndWhile_prefix (test : Char → Bool) (text : Text) :
    dropEndWhile test text <+: text := by
  induction text with
  | nil => exact List.nil_prefix
  | cons head tail inductionHypothesis =>
    rw [dropEndWhile]
    split
    · split
      · exact List.nil_prefix
      · exact ⟨tail, rfl⟩
    · exact (List.prefix_cons_inj head).mpr inductionHypothesis

/-! ### Both ends of a text -/

/-- What stands between two runs of characters that are dropped is left, unless it starts or ends
with such a character itself. -/
theorem trimWhile_between (before text after : Text)
    (dropsBefore : ∀ character ∈ before, test character = true)
    (dropsAfter : ∀ character ∈ after, test character = true)
    (first : ∀ character ∈ text.head?, test character = false)
    (last : ∀ character ∈ text.getLast?, test character = false) :
    trimWhile test (before ++ (text ++ after)) = text := by
  have front : (before ++ (text ++ after)).dropWhile test = (text ++ after).dropWhile test :=
    List.dropWhile_append_of_pos dropsBefore
  rw [trimWhile, front]
  cases text with
  | nil =>
    rw [List.nil_append, List.dropWhile_eq_nil_iff.mpr dropsAfter]
    rfl
  | cons head tail =>
    have stays : ¬ test head = true := by
      rw [first head rfl]
      exact Bool.false_ne_true
    rw [List.cons_append, List.dropWhile_cons_of_neg stays, ← List.cons_append,
      dropEndWhile_append _ dropsAfter, dropEndWhile_eq_self last]

theorem mem_of_mem_trim {text : Text} {character : Char} (member : character ∈ text.trim) :
    character ∈ text := by
  have inside := dropEndWhile_prefix isBlank (text.dropWhile isBlank)
  exact List.dropWhile_subset _ (inside.subset member)

/-- A text that starts and ends with no blank is trimmed already. -/
theorem trim_eq_self {text : Text} (first : ∀ character ∈ text.head?, isBlank character = false)
    (last : ∀ character ∈ text.getLast?, isBlank character = false) : text.trim = text := by
  have between := trimWhile_between [] text []
    (fun _ member => absurd member List.not_mem_nil)
    (fun _ member => absurd member List.not_mem_nil) first last
  rwa [List.nil_append, List.append_nil] at between

end

end Stencil.Text
