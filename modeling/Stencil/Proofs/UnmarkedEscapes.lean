/-
This file proves that escapes and named sets hold no bracket of their own. Whatever an escape reads
behind its letter, the digits of a code or the name of a property, holds neither a bracket nor a
backslash, and nor does the name of a set between its colons.
-/

import Stencil.Proofs.AtomsBeside
import Stencil.Proofs.ClassBrackets

namespace Stencil.Regex

open Delimiters

/-- What is read from the text up to what is behind it holds no bracket and no backslash. -/
def PassesNoMark (text behind : Text) : Prop :=
  ∃ taken, HoldsNoMark taken ∧ text = taken ++ behind

namespace PassesNoMark

variable {text behind : Text}

theorem refl (text : Text) : PassesNoMark text text :=
  ⟨[], fun _ member => absurd member List.not_mem_nil, rfl⟩

theorem append {taken : Text} (passes : PassesNoMark text behind) (noMark : HoldsNoMark taken) :
    PassesNoMark (taken ++ text) behind := by
  obtain ⟨later, others, rfl⟩ := passes
  exact ⟨taken ++ later, noMark.append others, (List.append_assoc _ _ _).symm⟩

theorem cons {head : Char} (passes : PassesNoMark text behind)
    (noMark : isClassMark head = false) : PassesNoMark (head :: text) behind := by
  have single : HoldsNoMark [head] := fun _ member => List.mem_singleton.mp member ▸ noMark
  exact passes.append single

theorem closesBy {depth : Nat} {strays after : Text} (passes : PassesNoMark text behind)
    (closes : ClosesBy (depth + 1) behind strays after) :
    ClosesBy (depth + 1) text strays after := by
  obtain ⟨taken, noMark, rfl⟩ := passes
  exact closes.append noMark

end PassesNoMark

section

variable {flags : Flags} {text behind : Text} {primitive : Primitive}

/-! ### Codes -/

theorem holdsNoMark_of_digits {digits : Text}
    (hexadecimal : ∀ digit ∈ digits, (Unicode.hexDigit? digit).isSome = true) :
    HoldsNoMark digits := by
  intro digit member
  rw [← Bool.not_eq_true, isClassMark_iff]
  rintro (rfl | rfl | rfl) <;> exact absurd (hexadecimal _ member) (by decide)

theorem passesNoMark_of_readHex (blanksCount : flags.ignoreSpace = false) {count : Nat}
    (read : readHex flags count text = .ok (primitive, behind)) : PassesNoMark text behind := by
  unfold readHex at read
  rw [skip_of_blanksCount blanksCount] at read
  split at read
  rename_i digits? byte same
  split at read
  · cases read
  · rename_i digits rest
    split at read
    · cases read
    · cases read
      split at same
      · have braced := (Prod.mk.inj same).1
        obtain ⟨digits, rfl, hexadecimal⟩ := digits_of_readBracedHex blanksCount braced
        have closed := (PassesNoMark.refl behind).cons (by decide : isClassMark '\x7d' = false)
        exact (closed.append (holdsNoMark_of_digits hexadecimal)).cons (by decide)
      · have plain := (Prod.mk.inj same).1
        obtain ⟨digits, rfl, _, hexadecimal⟩ := digits_of_readHexDigits blanksCount plain
        exact (PassesNoMark.refl behind).append (holdsNoMark_of_digits hexadecimal)

/-! ### Properties -/

theorem passesNoMark_of_readProperty (blanksCount : flags.ignoreSpace = false) {negated : Bool}
    (read : readProperty flags negated text = .ok (primitive, behind)) :
    PassesNoMark text behind := by
  unfold readProperty at read
  extract_lets finish at read
  -- a name is accepted if it is known, and then nothing more is read
  have known {name rest : Text} (done : finish (name, rest) = .ok (primitive, behind)) :
      HoldsNoMark name ∧ rest = behind := by
    unfold finish at done
    dsimp only at done
    split at done
    · cases done
    · split at done
      · cases done
      · rename_i found
        cases done
        exact ⟨holdsNoMark_of_propertyOf? found, rfl⟩
  rw [skip_of_blanksCount blanksCount] at read
  split at read
  · cases read
  · split at read
    · cases read
    · rename_i braced
      obtain ⟨⟨name, rest⟩, same, done⟩ := ok_of_bind read
      cases same
      obtain ⟨noMark, rfl⟩ := known done
      rw [(eq_of_readBraced blanksCount braced).1]
      exact (((PassesNoMark.refl rest).cons (by decide)).append noMark).cons (by decide)
  · cases read
  · obtain ⟨⟨name, rest⟩, same, done⟩ := ok_of_bind read
    cases same
    obtain ⟨noMark, rfl⟩ := known done
    rw [skip_of_blanksCount blanksCount]
    exact (PassesNoMark.refl _).cons (noMark _ List.mem_cons_self)

/-! ### Escapes -/

/-- What an escape reads behind its letter, unless it is an assertion. -/
theorem passesNoMark_of_readEscape (blanksCount : flags.ignoreSpace = false) {letter : Char}
    (noLook : ∀ assertion, primitive ≠ .look assertion)
    (read : readEscape flags (letter :: text) = .ok (primitive, behind)) :
    PassesNoMark text behind := by
  have boundary : letter ∉ ['b', 'B', 'A', 'z'] := fun member =>
    (readEscape_anchor member read).1.elim noLook
  unfold readEscape at read
  dsimp only at read
  split at read
  · cases read
  · split at read
    case h_24 =>
      split at read
      · cases read
        exact PassesNoMark.refl _
      · cases read
    all_goals first
      | exact passesNoMark_of_readHex blanksCount read
      | exact passesNoMark_of_readProperty blanksCount read
      | exact absurd (by decide) boundary
      | (rw [behind_of_readShorthand read]; exact PassesNoMark.refl _)
      | (cases read; exact absurd rfl (noLook _))
      | (cases read; exact PassesNoMark.refl _)

/-! ### Named sets -/

theorem holdsNoMark_of_named? {name : Text} {members : CharSet}
    (found : CharSet.named? name = some members) : HoldsNoMark name := by
  unfold CharSet.named? at found
  rw [← String.toList_ofList (l := name)]
  split at found
  case h_15 => cases found
  all_goals
    rename_i same
    rw [same]
    decide

/-- A named set ends with a bracket, the only one behind its opening. -/
theorem passesNoMark_of_readNamedSet? {members : CharSet} {negated : Bool}
    (read : readNamedSet? text = some (members, negated, behind)) :
    PassesNoMark text (']' :: behind) := by
  unfold readNamedSet? at read
  split at read
  · rename_i rest
    refine PassesNoMark.cons ?_ (by decide)
    split at read
    rename_i negation name negated
    split at read
    · rename_i after closes
      obtain ⟨members, found, same⟩ := Option.map_eq_some_iff.mp read
      cases same
      have named : PassesNoMark name (']' :: behind) := by
        rw [← List.takeWhile_append_dropWhile (p := (· != ':')) (l := name), closes]
        exact ((PassesNoMark.refl _).cons (by decide)).append (holdsNoMark_of_named? found)
      split at negated
      · cases negated
        exact named.cons (by decide)
      · cases negated
        exact named
    · cases read
  · cases read

end

end Stencil.Regex
