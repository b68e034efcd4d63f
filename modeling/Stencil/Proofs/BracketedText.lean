/-
This file proves that text which is bracketed like an object or an array is coerced alike, whether
texts are read and big numbers accepted or not. The first stage reads the text with the blanks of a
document around it, and the second stage reads it after all blanks around it are gone. What the
first stage accepts has only blanks of documents around it, and without them the same is read, for
reading is local and an array or an object ends with its bracket; and what the first stage does not
accept is left to the second.
-/

import Stencil.Proofs.JsonLocality
import Stencil.Proofs.SinglePlaceholder

namespace Stencil

namespace Json

/-! ### Blanks around a document -/

/-- Each blank of a document is a blank. -/
theorem isBlank_of_isSpace {character : Char} (space : isSpace character = true) :
    isBlank character = true := by
  rw [isSpace] at space
  simp only [Bool.or_eq_true, beq_iff_eq] at space
  rcases space with ((rfl | rfl) | rfl) | rfl <;> rfl

/-- No value starts with a blank. -/
theorem readBody_blank {head : Char} (blank : isBlank head = true) (depth : Nat) (rest : Text) :
    readBody depth (head :: rest) = none := by
  have visible {other : Char} (visible : isBlank other = false) : head ≠ other := by
    rintro rfl
    rw [visible] at blank
    cases blank
  have notDigit : head.isDigit = false := by
    rw [Bool.eq_false_iff]
    intro digit
    have code : 48 ≤ head.toNat ∧ head.toNat ≤ 57 := Char.isDigit_iff_toNat.mp digit
    simp only [isBlank, Bool.or_eq_true, Bool.and_eq_true, decide_eq_true_eq, beq_iff_eq] at blank
    omega
  have noDigits : readDigits (head :: rest) = none := by
    simp [readDigits, notDigit]
  have noLiteral : readLiteral (head :: rest) = none := by
    unfold readLiteral
    split
    rename_i negative text same
    split at same
    · exact absurd (List.cons.inj ‹_›).1 (visible rfl)
    · cases same
      rw [readWhole.eq_2 _ fun _ same => visible rfl (List.cons.inj same).1, noDigits]
      rfl
  rw [readBody, readNumber, noLiteral]
  · rfl
  all_goals
    intro _ same
    exact visible rfl (List.cons.inj same).1

/-- What is read of a text starts behind all of its blanks. -/
theorem skipSpace_of_read {depth : Nat} {text rest : Text} {value : Json}
    (done : readValue depth text = some (value, rest)) :
    skipSpace text = text.dropWhile isBlank := by
  have same : text.dropWhile isBlank = (skipSpace text).dropWhile isBlank := by
    have spaces : ∀ character ∈ text.takeWhile isSpace, isBlank character = true :=
      fun _ inside => isBlank_of_isSpace (List.mem_takeWhile_imp inside)
    calc text.dropWhile isBlank
        = (text.takeWhile isSpace ++ skipSpace text).dropWhile isBlank :=
          congrArg _ List.takeWhile_append_dropWhile.symm
      _ = (skipSpace text).dropWhile isBlank := by
          rw [List.dropWhile_append, List.dropWhile_eq_nil_iff.mpr spaces]
          rfl
  rw [same]
  cases start : skipSpace text with
  | nil => rfl
  | cons head behind =>
    rw [readValue_eq, start] at done
    refine (List.dropWhile_cons_of_neg fun blank => ?_).symm
    rw [readBody_blank blank] at done
    cases done

/-- An array or an object with blanks around it is read without them as well. -/
theorem readValue_trim {depth : Nat} {text rest : Text} {value : Json}
    (composite : value.isComposite = true) (done : readValue depth text = some (value, rest))
    (blank : skipSpace rest = []) : readValue depth text.trim = some (value, []) := by
  have start := skipSpace_of_read done
  rw [← (readsValues_readValue depth).skips] at done
  obtain ⟨closing, bracket, before, ends⟩ := exists_closing_of_readValue composite done
  have trimmed : text.trim = before ++ [closing] := by
    have spaces : ∀ character ∈ rest, isBlank character = true := fun character inside =>
      isBlank_of_isSpace (List.dropWhile_eq_nil_iff.mp blank character inside)
    rw [Text.trim, Text.trimWhile, ← start, ← ends, List.append_cons,
      Text.dropEndWhile_append _ spaces]
    refine Text.dropEndWhile_eq_self fun character last => ?_
    rw [List.getLast?_concat] at last
    cases last
    rcases bracket with rfl | rfl <;> rfl
  rw [trimmed]
  refine (readsValues_readValue depth).isLocal.cuts _ rest value [] ?_
  rw [List.append_assoc]
  rw [← ends] at done
  exact done

theorem isComposite_of_readArray {read : Text → Option (Json × Text)} {text rest : Text}
    {value : Json} (done : readArray read text = some (value, rest)) :
    value.isComposite = true := by
  rw [readArray] at done
  split at done
  · cases done
    rfl
  · obtain ⟨_, _, done⟩ := Option.bind_eq_some_iff.mp done
    obtain ⟨_, _, same⟩ := Option.bind_eq_some_iff.mp done
    cases same
    rfl

theorem isComposite_of_readObject {read : Text → Option (Json × Text)} {text rest : Text}
    {value : Json} (done : readObject read text = some (value, rest)) :
    value.isComposite = true := by
  rw [readObject] at done
  split at done
  · cases done
    rfl
  · obtain ⟨_, _, done⟩ := Option.bind_eq_some_iff.mp done
    obtain ⟨_, _, same⟩ := Option.bind_eq_some_iff.mp done
    cases same
    rfl

theorem isComposite_collapse (value : Json) : (collapse value).isComposite = value.isComposite := by
  cases value <;> rfl

/-- What is read of a text that starts with a bracket is an array or an object. -/
theorem isComposite_of_isBracketed {depth : Nat} {text rest : Text} {value : Json}
    (bracketed : Coercion.isBracketed text.trim = true)
    (done : readValue depth text = some (value, rest)) : value.isComposite = true := by
  have within : text.trim <+: skipSpace text := by
    rw [skipSpace_of_read done]
    exact Text.dropEndWhile_prefix isBlank _
  have starts {head : Char} (first : text.trim.head? = some head) :
      ∃ inside, skipSpace text = head :: inside := by
    obtain ⟨behind, same⟩ := List.head?_eq_some_iff.mp first
    obtain ⟨more, whole⟩ := within
    exact ⟨behind ++ more, by rw [← whole, same, List.cons_append]⟩
  rw [readValue_eq] at done
  rw [Coercion.isBracketed, Bool.or_eq_true, Bool.and_eq_true, Bool.and_eq_true] at bracketed
  rcases bracketed with ⟨brace, _⟩ | ⟨bracket, _⟩
  · obtain ⟨inside, opened⟩ := starts (beq_iff_eq.mp brace)
    rw [opened] at done
    cases depth with
    | zero => cases done
    | succ depth => exact isComposite_of_readObject done
  · obtain ⟨inside, opened⟩ := starts (beq_iff_eq.mp bracket)
    rw [opened] at done
    cases depth with
    | zero => cases done
    | succ depth => exact isComposite_of_readArray done

/-- A bracketed text that is accepted as a document is an array or an object, and it is accepted
without the blanks around it as the same. -/
theorem parseGuarded_trim {text : Text} {value : Json}
    (bracketed : Coercion.isBracketed text.trim = true) (accepted : parseGuarded text = .ok value) :
    value.isComposite = true ∧ parseGuarded text.trim = .ok value := by
  unfold parseGuarded at accepted
  split at accepted
  · cases accepted
  rename_i found parsed
  obtain ⟨written, read, rfl⟩ := Option.map_eq_some_iff.mp parsed
  unfold read? readWithin? at read
  split at read
  case h_2 => cases read
  rename_i whole rest done
  split at read
  case isFalse => cases read
  rename_i blank
  cases read
  have composite := isComposite_of_isBracketed bracketed done
  have trimmed := readValue_trim composite done (List.isEmpty_iff.mp blank)
  have parsed : parse? text.trim = some (collapse written) := by
    rw [parse?, read?, readWithin?, trimmed]
    rfl
  split at accepted
  · cases accepted
  rename_i allowed
  cases accepted
  refine ⟨(isComposite_collapse written).trans composite, ?_⟩
  unfold parseGuarded
  rw [parsed]
  dsimp only
  rw [allowed]

end Json

/-! ### Both settings -/

namespace Coercion

/-- Text that is not read by the first stage is read by the second one if it is bracketed. -/
theorem reparse_bracketed {text : Text} (bracketed : isBracketed text.trim = true) :
    reparse (.string text) = match Json.parseGuarded text.trim with
      | .ok value => value
      | .error _ => .string text := by
  cases read : Json.parseGuarded text.trim with
  | ok value => simp only [reparse, bracketed, if_true, read]
  | error refused => simp only [reparse, bracketed, if_true, read]

/-- Bracketed text is coerced alike by every setting: it becomes the document without the blanks
around it, or stays as it is if that is none. -/
theorem reparse_coerce_of_isBracketed (parseStrings bigNumbers : Bool) {text : Text}
    (bracketed : isBracketed text.trim = true) :
    reparse (coerce parseStrings bigNumbers text) =
      match Json.parseGuarded text.trim with
      | .ok value => value
      | .error _ => .string text := by
  cases parseStrings with
  | false => exact reparse_bracketed bracketed
  | true =>
    cases read : Json.parseGuarded text with
    | error refused =>
      rw [coerce, classify, read]
      exact reparse_bracketed bracketed
    | ok value =>
      obtain ⟨composite, trimmed⟩ := Json.parseGuarded_trim bracketed read
      have notBig : isBigNumber value = false := by
        cases value with
        | number value => cases composite
        | _ => rfl
      have notString (text : Text) : value ≠ .string text := by
        rintro rfl
        cases composite
      rw [coerce, classify_of_read read, notBig, trimmed]
      exact reparse_of_not_string notString

/-- A wide blank before a document hides it from the first stage only. -/
theorem reparse_coerce_of_isBracketed_wide :
    isBracketed (Text.trim "\u2003[\"a\"] ".toList) = true ∧
      ∀ parseStrings bigNumbers, reparse (coerce parseStrings bigNumbers "\u2003[\"a\"] ".toList) =
        .array [.string "a".toList] := by
  have bracketed : isBracketed (Text.trim "\u2003[\"a\"] ".toList) = true := by decide +kernel
  refine ⟨bracketed, fun parseStrings bigNumbers => ?_⟩
  rw [reparse_coerce_of_isBracketed parseStrings bigNumbers bracketed]
  rfl

end Coercion

end Stencil
