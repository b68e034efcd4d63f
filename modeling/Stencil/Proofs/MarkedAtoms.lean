/-
This file proves how far an atom of a source reaches. The scanner of atoms and the reader of
expressions know nothing of each other, but they take the same text where an escape has an argument
and where a repetition has counts: both go on behind the next closing brace, or behind as many
characters as the letter asks for.

An escape that is the edge of a word is taken for a character by the scanner; it is an atom all the
same, and marked here.
-/

import Stencil.Proofs.DerivedOpening

namespace Stencil.Delimiters

open Regex

/-! ### Atoms are cut off the source -/

theorem afterBrace_suffix (text : Text) : afterBrace text <:+ text :=
  (List.drop_suffix 1 _).trans (List.dropWhile_suffix _)

theorem afterArgument_suffix (letter : Char) (text : Text) :
    afterArgument letter text <:+ text := by
  unfold afterArgument
  split
  · exact afterBrace_suffix _
  · split <;> exact List.drop_suffix _ _

theorem dropFirst_suffix (character : Char) (text : Text) : dropFirst character text <:+ text := by
  cases text with
  | nil => exact List.suffix_refl _
  | cons head rest =>
    rw [dropFirst]
    split
    · exact List.suffix_cons head rest
    · exact List.suffix_refl _

theorem afterBrackets_suffix (depth : Nat) (text : Text) : afterBrackets depth text <:+ text := by
  fun_induction afterBrackets depth text with
  | case1 text => exact List.suffix_refl _
  | case2 => exact List.suffix_refl _
  | case3 => exact List.nil_suffix
  | case4 depth _ rest inductionHypothesis =>
    exact inductionHypothesis.trans ((List.suffix_cons _ _).trans (List.suffix_cons _ _))
  | case5 depth rest inductionHypothesis => exact inductionHypothesis.trans (List.suffix_cons _ _)
  | case6 depth rest inductionHypothesis => exact inductionHypothesis.trans (List.suffix_cons _ _)
  | case7 depth head rest _ _ _ _ inductionHypothesis =>
    exact inductionHypothesis.trans (List.suffix_cons _ _)

theorem afterClass_suffix (text : Text) : afterClass text <:+ text :=
  (afterBrackets_suffix 1 _).trans ((dropFirst_suffix _ _).trans (dropFirst_suffix _ _))

theorem escapeAtom_suffix (letter : Char) (rest : Text) : (escapeAtom letter rest).2 <:+ rest := by
  unfold escapeAtom
  split
  case h_13 =>
    split
    · exact List.suffix_refl _
    · exact List.suffix_refl _
  all_goals
    dsimp only
    first
      | exact List.suffix_refl _
      | exact afterArgument_suffix _ _

/-- Every atom takes at least one character. -/
theorem length_lt_of_nextAtom? {text rest : Text} {atom : Atom}
    (next : nextAtom? text = some (atom, rest)) : rest.length < text.length := by
  unfold nextAtom? at next
  split at next
  · cases next
  · cases next
  · rename_i letter behind
    have shorter : rest <:+ behind := by
      have ends := escapeAtom_suffix letter behind
      rw [Option.some.inj next] at ends
      exact ends
    exact Nat.lt_succ_of_le (Nat.le_succ_of_le shorter.length_le)
  · rename_i head behind _ _
    have shorter : rest <:+ behind := by
      have same := Option.some.inj next
      split at same
      all_goals
        cases same
        first
          | exact List.suffix_refl _
          | exact afterBrace_suffix _
          | exact afterClass_suffix _
    exact Nat.lt_succ_of_le shorter.length_le

/-! ### Marked atoms -/

/-- The atoms of a source, each with whether an expression reads it as the edge of a word. -/
def markedWithin : (fuel : Nat) → Text → List (Atom × Bool)
  | 0, _ => []
  | fuel + 1, text =>
    match nextAtom? text with
    | none => []
    | some (atom, rest) => (atom, isWordEdge text) :: markedWithin fuel rest

/-- The marked atoms of a source. -/
def marked (source : Text) : List (Atom × Bool) :=
  markedWithin source.length source

theorem map_fst_marked (source : Text) : (marked source).map Prod.fst = atoms source := by
  have general : ∀ fuel text, (markedWithin fuel text).map Prod.fst = atomsWithin fuel text := by
    intro fuel
    induction fuel with
    | zero => exact fun _ => rfl
    | succ fuel inductionHypothesis =>
      intro text
      rw [markedWithin, atomsWithin]
      cases nextAtom? text with
      | none => rfl
      | some next => exact congrArg (next.1 :: ·) (inductionHypothesis next.2)
  exact general source.length source

theorem markedWithin_eq {first second : Nat} {text : Text} (enough : text.length ≤ first)
    (enoughToo : text.length ≤ second) : markedWithin first text = markedWithin second text := by
  induction first generalizing second text with
  | zero =>
    have none : text = [] := List.length_eq_zero_iff.mp (Nat.le_zero.mp enough)
    subst none
    cases second with
    | zero => rfl
    | succ second => rfl
  | succ first inductionHypothesis =>
    cases second with
    | zero =>
      have none : text = [] := List.length_eq_zero_iff.mp (Nat.le_zero.mp enoughToo)
      subst none
      rfl
    | succ second =>
      rw [markedWithin, markedWithin]
      cases next : nextAtom? text with
      | none => rfl
      | some found =>
        have shorter := length_lt_of_nextAtom? next
        exact congrArg (_ :: ·) (inductionHypothesis (by omega) (by omega))

/-- The first atom, and then those of what is left. -/
theorem marked_eq_cons {text rest : Text} {atom : Atom}
    (next : nextAtom? text = some (atom, rest)) :
    marked text = (atom, isWordEdge text) :: marked rest := by
  have shorter := length_lt_of_nextAtom? next
  obtain ⟨fuel, length⟩ : ∃ fuel, text.length = fuel + 1 :=
    ⟨text.length - 1, by omega⟩
  rw [marked, length, markedWithin, next]
  exact congrArg (_ :: ·) (markedWithin_eq (by omega) (Nat.le_refl _))

/-- The scanner takes the marked atoms one after another, and then has come from the text to what is
behind them. -/
structure Passes (text : Text) (passed : List (Atom × Bool)) (behind : Text) : Prop where
  marked_eq : marked text = passed ++ marked behind
  length_lt : behind.length < text.length

theorem Passes.one {text rest : Text} {atom : Atom} (next : nextAtom? text = some (atom, rest)) :
    Passes text [(atom, isWordEdge text)] rest :=
  ⟨marked_eq_cons next, length_lt_of_nextAtom? next⟩

theorem Passes.trans {text between behind : Text} {first second : List (Atom × Bool)}
    (passes : Passes text first between) (later : Passes between second behind) :
    Passes text (first ++ second) behind := by
  refine ⟨?_, later.length_lt.trans passes.length_lt⟩
  rw [passes.marked_eq, later.marked_eq, List.append_assoc]

/-! ### Arguments in braces -/

/-- What the reader takes before it comes to a closing brace. -/
def PassesNoBrace (text behind : Text) : Prop :=
  ∃ taken, text = taken ++ behind ∧ ∀ character ∈ taken, character ≠ '\x7d'

namespace PassesNoBrace

variable {text between behind : Text}

theorem refl (text : Text) : PassesNoBrace text text :=
  ⟨[], rfl, fun _ member => absurd member List.not_mem_nil⟩

theorem cons {head : Char} (passes : PassesNoBrace text behind) (other : head ≠ '\x7d') :
    PassesNoBrace (head :: text) behind := by
  obtain ⟨taken, rfl, none⟩ := passes
  refine ⟨head :: taken, rfl, fun character member => ?_⟩
  rcases List.mem_cons.mp member with rfl | later
  · exact other
  · exact none character later

theorem trans (first : PassesNoBrace text between) (second : PassesNoBrace between behind) :
    PassesNoBrace text behind := by
  obtain ⟨taken, rfl, none⟩ := first
  obtain ⟨later, rfl, noneLater⟩ := second
  refine ⟨taken ++ later, (List.append_assoc _ _ _).symm, fun character member => ?_⟩
  rcases List.mem_append.mp member with member | member
  · exact none character member
  · exact noneLater character member

theorem dropWhile {holds : Char → Bool} (brace : holds '\x7d' = false) (text : Text) :
    PassesNoBrace text (text.dropWhile holds) := by
  refine ⟨text.takeWhile holds, (List.takeWhile_append_dropWhile).symm, ?_⟩
  rintro character member rfl
  rw [List.all_eq_true.mp (List.all_takeWhile) _ member] at brace
  cases brace

/-- Then the text after the next closing brace is what stands behind it. -/
theorem afterBrace_eq (passes : PassesNoBrace text ('\x7d' :: behind)) :
    afterBrace text = behind := by
  obtain ⟨taken, rfl, none⟩ := passes
  rw [afterBrace, List.dropWhile_append_of_pos]
  · rfl
  · exact fun character member => bne_iff_ne.mpr (none character member)

end PassesNoBrace

section

variable {text behind : Text} {primitive : Primitive}

/-- As many digits are read as there have to be. -/
theorem digits_of_readHexDigits {flags : Flags} (blanksCount : flags.ignoreSpace = false)
    {count : Nat} {values : List Nat}
    (read : readHexDigits flags count text = some (values, behind)) :
    ∃ digits, text = digits ++ behind ∧ digits.length = count ∧
      ∀ digit ∈ digits, (Unicode.hexDigit? digit).isSome = true := by
  induction count generalizing text values with
  | zero =>
    cases read
    exact ⟨[], rfl, rfl, fun _ member => absurd member List.not_mem_nil⟩
  | succ count inductionHypothesis =>
    rw [readHexDigits, skip_of_blanksCount blanksCount] at read
    split at read
    · cases read
    · rename_i digit rest
      obtain ⟨value, hexadecimal, read⟩ := Option.bind_eq_some_iff.mp read
      obtain ⟨⟨values, later⟩, readLater, done⟩ := Option.bind_eq_some_iff.mp read
      cases done
      obtain ⟨digits, rfl, rfl, others⟩ := inductionHypothesis readLater
      refine ⟨digit :: digits, rfl, rfl, List.forall_mem_cons.mpr ⟨?_, others⟩⟩
      rw [hexadecimal, Option.isSome_some]

/-- Digits are read up to the closing brace. -/
theorem digits_of_readBracedHex {flags : Flags} (blanksCount : flags.ignoreSpace = false)
    {fuel : Nat} {values : List Nat}
    (read : readBracedHex flags fuel text = some (values, behind)) :
    ∃ digits, text = digits ++ '\x7d' :: behind ∧
      ∀ digit ∈ digits, (Unicode.hexDigit? digit).isSome = true := by
  induction fuel generalizing text values with
  | zero => cases read
  | succ fuel inductionHypothesis =>
    rw [readBracedHex, skip_of_blanksCount blanksCount] at read
    split at read
    · cases read
    · cases read
      exact ⟨[], rfl, fun _ member => absurd member List.not_mem_nil⟩
    · rename_i digit rest _
      obtain ⟨value, hexadecimal, read⟩ := Option.bind_eq_some_iff.mp read
      obtain ⟨⟨values, later⟩, readLater, done⟩ := Option.bind_eq_some_iff.mp read
      cases done
      obtain ⟨digits, rfl, others⟩ := inductionHypothesis readLater
      refine ⟨digit :: digits, rfl, List.forall_mem_cons.mpr ⟨?_, others⟩⟩
      rw [hexadecimal, Option.isSome_some]

/-- The first closing brace ends what is read. -/
theorem eq_of_readBraced {flags : Flags} (blanksCount : flags.ignoreSpace = false) {fuel : Nat}
    {name : Text} (read : readBraced flags fuel text = some (name, behind)) :
    text = name ++ '\x7d' :: behind ∧ ∀ character ∈ name, character ≠ '\x7d' := by
  induction fuel generalizing text name with
  | zero => cases read
  | succ fuel inductionHypothesis =>
    rw [readBraced, skip_of_blanksCount blanksCount] at read
    split at read
    · cases read
    · cases read
      exact ⟨rfl, fun _ member => absurd member List.not_mem_nil⟩
    · rename_i character rest other
      obtain ⟨⟨characters, later⟩, readLater, done⟩ := Option.map_eq_some_iff.mp read
      cases done
      obtain ⟨rfl, others⟩ := inductionHypothesis readLater
      exact ⟨rfl, List.forall_mem_cons.mpr ⟨other, others⟩⟩

theorem afterArgument_of_readHex {letter : Char} {count : Nat}
    (width : (letter, count) ∈ [('x', 2), ('u', 4), ('U', 8)])
    (read : readHex {} count text = .ok (primitive, behind)) :
    afterArgument letter text = behind := by
  unfold readHex at read
  split at read
  rename_i digits? byte same
  split at read
  · cases read
  · rename_i digits rest
    split at read
    · cases read
    · cases read
      split at same
      · rename_i rest written
        have written : text = '\x7b' :: rest := written
        subst written
        obtain ⟨digits, rfl, hexadecimal⟩ := digits_of_readBracedHex rfl (Prod.mk.inj same).1
        have passes : PassesNoBrace (digits ++ '\x7d' :: behind) ('\x7d' :: behind) := by
          refine ⟨digits, rfl, ?_⟩
          rintro digit member rfl
          exact absurd (hexadecimal _ member) (by decide)
        exact (passes.cons (by decide : '\x7b' ≠ '\x7d')).afterBrace_eq
      · rename_i other
        have plain : readHexDigits {} count text = _ := (Prod.mk.inj same).1
        obtain ⟨digits, written, digitCount, _⟩ := digits_of_readHexDigits rfl plain
        have dropped : text.drop count = behind := by
          rw [written, ← digitCount, List.drop_left]
        rw [← dropped]
        unfold afterArgument
        split
        · rename_i rest
          exact absurd rfl (other rest)
        · simp only [List.mem_cons, List.not_mem_nil, or_false, Prod.mk.injEq] at width
          rcases width with ⟨rfl, rfl⟩ | ⟨rfl, rfl⟩ | ⟨rfl, rfl⟩
          · rfl
          · rfl
          · rfl

theorem afterArgument_of_readProperty {letter : Char} (property : letter = 'p' ∨ letter = 'P')
    {negated : Bool} (read : readProperty {} negated text = .ok (primitive, behind)) :
    afterArgument letter text = behind := by
  unfold readProperty at read
  dsimp only at read
  split at read
  · cases read
  · rename_i after written
    have written : text = '\x7b' :: after := written
    subst written
    split at read
    · cases read
    · rename_i found braced
      obtain ⟨⟨name, rest⟩, same, last⟩ := ok_of_bind read
      cases same
      have done : rest = behind := by
        split at last
        · cases last
        · split at last
          · cases last
          · cases last
            rfl
      subst done
      obtain ⟨rfl, noBrace⟩ := eq_of_readBraced rfl braced
      have passes : PassesNoBrace (name ++ '\x7d' :: rest) ('\x7d' :: rest) := ⟨name, rfl, noBrace⟩
      exact (passes.cons (by decide : '\x7b' ≠ '\x7d')).afterBrace_eq
  · cases read
  · rename_i head after noBrace _ written
    have written : text = head :: after := written
    subst written
    obtain ⟨⟨name, rest⟩, same, last⟩ := ok_of_bind read
    cases same
    have done : after = behind := by
      split at last
      · cases last
      · split at last
        · cases last
        · cases last
          rfl
    subst done
    unfold afterArgument
    split
    · rename_i same
      cases same
      exact absurd rfl noBrace
    · rcases property with rfl | rfl
      · rfl
      · rfl

theorem passesNoBrace_of_readBoundaryName (fuel : Nat) (text : Text) :
    PassesNoBrace text (readBoundaryName {} fuel text).2 := by
  induction fuel generalizing text with
  | zero => exact PassesNoBrace.refl text
  | succ fuel inductionHypothesis =>
    cases text with
    | nil => exact PassesNoBrace.refl []
    | cons head rest =>
      rw [readBoundaryName]
      split
      · rename_i named
        refine (inductionHypothesis rest).cons ?_
        rintro rfl
        exact absurd named (by decide)
      · exact PassesNoBrace.refl _

/-- Behind a word boundary, braces either hold its name or are left. -/
theorem behind_of_readBoundary (read : readBoundary {} ('\x7b' :: text) = .ok (primitive, behind)) :
    behind = '\x7b' :: text ∨ afterBrace text = behind := by
  unfold readBoundary at read
  split at read
  case h_2 =>
    rename_i other
    exact absurd rfl (other text)
  rename_i written
  cases written
  split at read
  · cases read
  · rename_i head tail same
    have same : text = head :: tail := same
    subst same
    split at read
    · cases read
      exact Or.inl rfl
    · have passes := passesNoBrace_of_readBoundaryName (tail.length + 1) (head :: tail)
      refine Or.inr ?_
      split at read
      rename_i named
      rw [named] at passes
      split at read
      case h_5 => cases read
      all_goals
        cases read
        exact passes.afterBrace_eq

theorem passesNoBrace_of_digits (fuel : Nat) (text : Text) :
    PassesNoBrace text (readCount.digits {} fuel text).2 := by
  induction fuel generalizing text with
  | zero => exact PassesNoBrace.refl text
  | succ fuel inductionHypothesis =>
    cases text with
    | nil => exact PassesNoBrace.refl []
    | cons head rest =>
      rw [readCount.digits]
      split
      · rename_i digit
        refine (inductionHypothesis rest).cons ?_
        rintro rfl
        exact absurd digit (by decide)
      · exact PassesNoBrace.refl _

theorem passesNoBrace_of_readCount {count : Option Nat}
    (read : readCount {} text = .ok (count, behind)) : PassesNoBrace text behind := by
  have blanks := PassesNoBrace.dropWhile (by decide : isBlank '\x7d' = false)
  have passes := ((blanks text).trans
    (passesNoBrace_of_digits (text.dropWhile isBlank).length _)).trans (blanks _)
  unfold readCount at read
  dsimp only at read
  split at read
  · cases read
    exact passes
  · split at read
    · cases read
      exact passes
    · cases read

/-- A repetition with counts ends with the next closing brace, and perhaps a question mark. -/
theorem repeatLast_of_readCounted {progress next : Progress} (plain : progress.flags = {})
    (read : readCounted progress text = .ok (next, behind)) :
    ∃ least most lazy, readLazy (afterBrace text) = (lazy, behind) ∧
      progress.repeatLast least most lazy = .ok next := by
  unfold Regex.readCounted at read
  rw [plain] at read
  obtain ⟨⟨found, after⟩, counted, read⟩ := ok_of_bind read
  have passes : PassesNoBrace text after := passesNoBrace_of_readCount counted
  obtain _ | least := found
  · cases read
  dsimp only at read
  split at read
  case' h_2 =>
    obtain ⟨pair, same, read⟩ := ok_of_bind read
    cases same
  case' h_1 =>
    rename_i afterComma
    have passes := passes.trans ((PassesNoBrace.refl afterComma).cons (by decide))
    split at read
    case' h_1 =>
      rename_i rest same
      have same : afterComma = '\x7d' :: rest := same
      obtain ⟨pair, done, read⟩ := ok_of_bind read
      cases done
      rw [← same] at read
    case' h_2 =>
      obtain ⟨⟨most, behindMost⟩, countedMost, read⟩ := ok_of_bind read
      have passes : PassesNoBrace text behindMost :=
        passes.trans (passesNoBrace_of_readCount countedMost)
      obtain _ | most := most
      · cases read
      obtain ⟨pair, same, read⟩ := ok_of_bind read
      cases same
  -- whatever the second count is, only a closing brace behind it lets the last part be repeated
  all_goals
    dsimp only at read
    split at read
    · split at read
      · obtain ⟨repeated, done, read⟩ := ok_of_bind read
        cases read
        rw [passes.afterBrace_eq]
        exact ⟨_, _, _, rfl, done⟩
      · cases read
    · cases read

end

end Stencil.Delimiters
