/-
This file proves that marking leaves nothing to be marked: the marked text holds no escaped
delimiter, and marking it again changes nothing. Here the escape and the delimiters may be any text,
and overlap themselves and each other in any way.

Replacing puts a mark where it takes a needle away, and a mark is in no needle. So what stands in
the replaced text and holds no mark stood in the text before. If it is the needle, it would have
been replaced; and if it is the other delimiter with its escape, the first replacement has left none
of them for the second one to bring back.
-/

import Stencil.Proofs.Escapes
import Stencil.Proofs.PatternSource

namespace Stencil

namespace Text

variable {mark : Char} {needle : Text}

/-- What stands in a replaced text and does not hold the replacement stood in the text before. -/
theorem infix_of_infix_replaceFrom {stretch : Text} (noMark : mark ∉ stretch) {skip : Nat}
    {text : Text} (stands : stretch <:+: replaceFrom needle [mark] skip text) :
    stretch <:+: text := by
  induction text generalizing skip with
  | nil =>
    cases skip with
    | zero => exact stands
    | succ skip => exact stands
  | cons head tail inductionHypothesis =>
    cases skip with
    | succ skip => exact List.infix_cons (inductionHypothesis stands)
    | zero =>
      by_cases replaced : needle.isPrefixOf (head :: tail) = true
      · rw [replaceFrom, if_pos replaced, List.singleton_append, List.infix_cons_iff] at stands
        rcases stands with starts | later
        · cases stretch with
          | nil => exact List.nil_infix
          | cons first others =>
            obtain ⟨rfl, _⟩ := List.cons_prefix_cons.mp starts
            exact absurd List.mem_cons_self noMark
        · exact List.infix_cons (inductionHypothesis later)
      · by_cases starts : stretch <+: replaceFrom needle [mark] 0 (head :: tail)
        · exact (prefix_of_prefix_replaceFrom noMark starts).isInfix
        · rw [replaceFrom_of_absent replaced] at stands starts
          exact List.infix_cons
            (inductionHypothesis ((List.infix_cons_iff.mp stands).resolve_left starts))

/-- A needle that does not hold its replacement is found nowhere in the replaced text. -/
theorem not_infix_replaceFrom (noMark : mark ∉ needle) (filled : needle ≠ []) (skip : Nat)
    (text : Text) : ¬ needle <:+: replaceFrom needle [mark] skip text := by
  induction text generalizing skip with
  | nil =>
    cases skip with
    | zero => exact fun stands => filled (List.infix_nil.mp stands)
    | succ skip => exact fun stands => filled (List.infix_nil.mp stands)
  | cons head tail inductionHypothesis =>
    cases skip with
    | succ skip => exact inductionHypothesis skip
    | zero =>
      intro stands
      by_cases replaced : needle.isPrefixOf (head :: tail) = true
      · rw [replaceFrom, if_pos replaced, List.singleton_append, List.infix_cons_iff] at stands
        refine inductionHypothesis _ (stands.resolve_left fun starts => ?_)
        obtain ⟨first, others, rfl⟩ := List.exists_cons_of_ne_nil filled
        obtain ⟨rfl, _⟩ := List.cons_prefix_cons.mp starts
        exact noMark List.mem_cons_self
      · have notHere : ¬ needle <+: head :: replaceFrom needle [mark] 0 tail := by
          intro starts
          rw [← replaceFrom_of_absent replaced] at starts
          have before := prefix_of_prefix_replaceFrom noMark starts
          exact replaced (List.isPrefixOf_iff_prefix.mpr before)
        rw [replaceFrom_of_absent replaced] at stands
        exact inductionHypothesis 0 ((List.infix_cons_iff.mp stands).resolve_left notHere)

/-- Where the needle is not found, nothing is replaced. -/
theorem replaceFrom_of_not_infix {replacement text : Text} (absent : ¬ needle <:+: text) :
    replaceFrom needle replacement 0 text = text := by
  induction text with
  | nil => rfl
  | cons head tail inductionHypothesis =>
    rw [replaceFrom_of_absent fun starts =>
      absent (List.isPrefixOf_iff_prefix.mp starts).isInfix]
    exact congrArg (head :: ·) (inductionHypothesis fun later => absent (List.infix_cons later))

theorem replaceAll_of_not_infix {replacement text : Text} (filled : needle ≠ [])
    (absent : ¬ needle <:+: text) : replaceAll needle replacement text = text := by
  rw [replaceAll, if_neg (fun empty => filled (List.isEmpty_iff.mp empty))]
  exact replaceFrom_of_not_infix absent

end Text

namespace Escaping

open Text

section

variable {pattern : Pattern} {escape : Text}

/-- Marked text holds neither delimiter with the escape before it. -/
theorem not_infix_mark (filled : escape ≠ []) (escapeUnmarked : Unmarked escape)
    (openingUnmarked : Unmarked pattern.opening) (closingUnmarked : Unmarked pattern.closing)
    (text : Text) :
    ¬ escape ++ pattern.opening <:+: mark pattern escape text ∧
      ¬ escape ++ pattern.closing <:+: mark pattern escape text := by
  obtain ⟨first, others, rfl⟩ := List.exists_cons_of_ne_nil filled
  have opened := escapeUnmarked.append openingUnmarked
  have closed := escapeUnmarked.append closingUnmarked
  have opening := not_infix_replaceFrom opened.1 (List.cons_ne_nil _ _) 0 text
  constructor
  · exact fun stands => opening (infix_of_infix_replaceFrom opened.2 stands)
  · exact not_infix_replaceFrom closed.2 (List.cons_ne_nil _ _) 0 _

/-- Text that holds no escaped delimiter is marked nowhere. -/
theorem mark_of_not_infix {text : Text} (noOpening : ¬ escape ++ pattern.opening <:+: text)
    (noClosing : ¬ escape ++ pattern.closing <:+: text) : mark pattern escape text = text := by
  by_cases empty : escape.isEmpty = true
  · rw [mark, if_pos empty]
  · have filled : escape ≠ [] := fun nil => empty (List.isEmpty_iff.mpr nil)
    rw [mark, if_neg empty,
      replaceAll_of_not_infix (List.append_ne_nil_of_left_ne_nil filled _) noOpening,
      replaceAll_of_not_infix (List.append_ne_nil_of_left_ne_nil filled _) noClosing]

end

/-- Whatever the text is, marks of an earlier marking included, no escaped delimiter is left in the
marked text, and marking it once more changes nothing. The escape and the delimiters may overlap in
any way; they only hold no mark themselves. -/
theorem mark_leaves_nothing_escaped {pattern : Pattern} {escape : Text} (filled : escape ≠ [])
    (escapeUnmarked : Unmarked escape) (openingUnmarked : Unmarked pattern.opening)
    (closingUnmarked : Unmarked pattern.closing) (text : Text) :
    ¬ escape ++ pattern.opening <:+: mark pattern escape text ∧
      ¬ escape ++ pattern.closing <:+: mark pattern escape text ∧
      mark pattern escape (mark pattern escape text) = mark pattern escape text := by
  obtain ⟨noOpening, noClosing⟩ :=
    not_infix_mark filled escapeUnmarked openingUnmarked closingUnmarked text
  exact ⟨noOpening, noClosing, mark_of_not_infix noOpening noClosing⟩

/-- The escape is the opening delimiter as well and starts with the closing one, and there are marks
in the text already. -/
theorem mark_leaves_nothing_escaped_overlapping :
    ∃ pattern, Pattern.ofDelimiters ['a', 'b'] ['a'] = .ok pattern ∧
      mark pattern ['a', 'b'] "ab\uE000abababa\uE001ababab".toList =
        "ab\uE000\uE000\uE001\uE001\uE000ab".toList ∧
      ¬ ['a', 'b'] ++ pattern.opening <:+: "ab\uE000\uE000\uE001\uE001\uE000ab".toList ∧
      ¬ ['a', 'b'] ++ pattern.closing <:+: "ab\uE000\uE000\uE001\uE001\uE000ab".toList ∧
      mark pattern ['a', 'b'] "ab\uE000\uE000\uE001\uE001\uE000ab".toList =
        "ab\uE000\uE000\uE001\uE001\uE000ab".toList := by
  refine ⟨_, Pattern.ofDelimiters_eq (by decide) (by decide), rfl, ?_⟩
  exact mark_leaves_nothing_escaped (List.cons_ne_nil _ _) (by decide) (by decide) (by decide)
    "ab\uE000abababa\uE001ababab".toList

end Escaping

end Stencil
