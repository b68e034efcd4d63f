/-
This file proves that the guard on numbers is exact, and that no number gets around it. The guard
accepts a number, in whichever representation it is held, if and only if it is an integer that every
reader of doubles holds exactly. A string of a template becomes a number in the first stage of
coercion only: the second stage reads a text that is bracketed, and what it reads is an array or an
object. So where big numbers are refused, the guard has seen every number that a string becomes.
-/

import Stencil.Proofs.NumberGuard
import Stencil.Proofs.Runs

namespace Stencil

namespace Coercion

open Json

theorem isSafeInteger_iff (value : Json) :
    isSafeInteger value = true ↔ ∃ number, value = .number number ∧ IsSafe number.value := by
  cases value with
  | number number =>
    rw [isSafeInteger, number.isSafeInteger_iff]
    constructor
    · exact fun safe => ⟨number, rfl, safe⟩
    · rintro ⟨_, same, safe⟩
      cases same
      exact safe
  | _ =>
    constructor
    · exact fun never => absurd never Bool.false_ne_true
    · rintro ⟨_, same, _⟩
      cases same

/-- Bracketed text has no blanks around it. -/
theorem trim_of_isBracketed {text : Text} (bracketed : isBracketed text = true) :
    text.trim = text := by
  simp only [isBracketed, Bool.or_eq_true, Bool.and_eq_true, beq_iff_eq] at bracketed
  refine Text.trim_eq_self (fun character first => ?_) fun character last => ?_
  · rcases bracketed with ⟨brace, _⟩ | ⟨bracket, _⟩
    · cases first.symm.trans brace
      rfl
    · cases first.symm.trans bracket
      rfl
  · rcases bracketed with ⟨_, brace⟩ | ⟨_, bracket⟩
    · cases last.symm.trans brace
      rfl
    · cases last.symm.trans bracket
      rfl

/-- Where big numbers are refused, a number that the first stage reads is safe. -/
theorem isSafeInteger_of_classify {parseStrings : Bool} {text : Text} {number : Number}
    (parsed : classify parseStrings false text = .parsed (.number number)) :
    number.isSafeInteger = true := by
  cases parseStrings with
  | false => cases parsed
  | true =>
    have coerced : coerce true false text = .number number := by rw [coerce, parsed]
    exact (coerce_eq_number_iff.mp coerced).2

/-- What the second stage reads is no number. -/
theorem eq_number_of_reparse {value : Json} {number : Number}
    (same : reparse value = .number number) : value = .number number := by
  unfold reparse at same
  split at same
  · dsimp only at same
    split at same
    · rename_i text bracketed
      split at same
      · rename_i parsed accepted
        have trimmed := trim_of_isBracketed bracketed
        rw [← trimmed] at bracketed
        have composite := (parseGuarded_trim bracketed accepted).1
        rw [same] at composite
        cases composite
      · cases same
    · cases same
  · exact same

end Coercion

namespace Template

/-- Where big numbers are refused, a number that a text is coerced to has passed the guard. -/
theorem isSafeInteger_of_coerce {settings : Settings} {text : Text} {number : Json.Number}
    {journal reached : Journal} (refused : settings.bigNumbers = false)
    (ended : run (coerce settings text) journal = (.ok (.number number), reached)) :
    number.isSafeInteger = true := by
  have noText {other : Text} (same : Coercion.reparse (.string other) = .number number) : False :=
    nomatch Coercion.eq_number_of_reparse same
  rw [coerce, refused] at ended
  split at ended
  · rename_i value parsed
    have same : Coercion.reparse value = .number number := Except.ok.inj (Prod.mk.inj ended).1
    rw [Coercion.eq_number_of_reparse same] at parsed
    exact Coercion.isSafeInteger_of_classify parsed
  · exact (noText (Except.ok.inj (Prod.mk.inj ended).1)).elim
  · exact (noText (Except.ok.inj (Prod.mk.inj ended).1)).elim

/-- The guard accepts a number of a document, whether a signed or an unsigned word holds it or a
double, if and only if it is an integer of absolute value at most `2 ^ 53 - 1`; and it accepts
nothing else. Where big numbers are refused, a string of a template that becomes a number becomes
one that the guard accepts, whatever the variables hold and the hooks answer. -/
theorem safe_integer_test_exact :
    (∀ value : Json, Coercion.isSafeInteger value = true ↔
      ∃ number, value = .number number ∧
        ∃ integer : Int, number.value = integer ∧ integer.natAbs ≤ 2 ^ 53 - 1) ∧
    ∀ (settings : Settings) (bindings : Json) (text : Text) (journal reached : Journal)
      (number : Json.Number), settings.bigNumbers = false →
        run (compile settings bindings (.string text)) journal = (.ok (.number number), reached) →
          Coercion.isSafeInteger (.number number) = true := by
  refine ⟨Coercion.isSafeInteger_iff, ?_⟩
  intro settings bindings text journal reached number refused ended
  rw [compile, compileText_eq] at ended
  obtain ⟨substituted, between, _, finished⟩ := run_bind_ok ended
  obtain ⟨transformed, after, _, coerced⟩ := run_bind_ok finished
  exact isSafeInteger_of_coerce refused coerced

/-- The number that a value is, if it is one. -/
def number? : Json → Option Json.Number
  | .number number => some number
  | _ => none

/-- The largest safe integer, in halves. -/
def halvedVariables : Json :=
  .object [("a".toList, .number (.integer 90071992 (by decide))),
    ("b".toList, .string "54740991".toList)]

/-- The halves, with a sign before them and an exponent behind. -/
def halvedTemplate : Json :=
  .string "-{{a}}{{b}}e0".toList

/-- What they make: the largest safe integer as a double, with its sign. -/
def halvedNumber : Json.Number :=
  .double ⟨true, 2 ^ 53 - 1, 0, by decide, by decide, by decide⟩

/-- The halves are put together, and the guard is passed at its very edge; the least signed word and
the least positive double do not pass it, and the negative zero does. -/
theorem safe_integer_test_exact_halved :
    (∃ reached, run (compile {} halvedVariables halvedTemplate) [] =
        (.ok (.number halvedNumber), reached)) ∧
      Coercion.isSafeInteger (.number halvedNumber) = true ∧
      Coercion.isSafeInteger (.number (.integer (-2 ^ 63) (by decide))) = false ∧
      Coercion.isSafeInteger
        (.number (.double ⟨false, 1, -1074, by decide, by decide, by decide⟩)) = false ∧
      Coercion.isSafeInteger (.number (.double (Double.zero true))) = true := by
  have number : (run (compile {} halvedVariables halvedTemplate) []).1.toOption.bind number? =
      some halvedNumber := by
    decide +kernel
  obtain ⟨reached, ended⟩ : ∃ reached,
      run (compile {} halvedVariables halvedTemplate) [] =
        (.ok (.number halvedNumber), reached) := by
    rcases run_ends (compile {} halvedVariables halvedTemplate) [] with
      ⟨value, reached, ended⟩ | ⟨failure, reached, ended⟩
    · rw [ended] at number
      cases value with
      | number found =>
        cases number
        exact ⟨reached, ended⟩
      | _ => cases number
    · rw [ended] at number
      cases number
  exact ⟨⟨reached, ended⟩, safe_integer_test_exact.2 _ _ _ _ _ _ rfl ended, by decide +kernel,
    by decide +kernel, by decide +kernel⟩

end Template

end Stencil
