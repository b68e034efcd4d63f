/-
This file proves that the atoms of a source and the pieces of an expression go along with each
other: wherever the reader of the expression takes a piece, the atoms of what it takes are known,
and the scanner goes on where the reader does. A piece is one atom that says the same, or it is a
group's parenthesis with what belongs to it, or its last atom is none that is fixed.

The two part in three places, which are excluded here or marked. An edge of a word is taken for a
character. Flags change what the source means from there on. And a class may end elsewhere than its
brackets do, which a bracket in the name of a group does to the scanner as well.
-/

import Stencil.Proofs.MarkedAtoms

namespace Stencil.Delimiters

open Regex

/-! ### Pieces beside atoms -/

/-- The piece sets no flags: a question mark behind a parenthesis starts a name or a colon. -/
def setsNoFlags : Text → Bool
  | '(' :: '?' :: letter :: _ => letter == ':' || letter == '<' || letter == 'P'
  | _ => true

/-- Every atom that starts with the character ends with it. -/
def isSingle (character : Char) : Bool :=
  !(['\\', '[', '\x7b'].contains character)

/-- Both readers skip the same text: a class ends where its brackets do, and the name of a group
holds none. -/
def skipsAlike : Text → Bool
  | '[' :: rest => (readClass {} rest).toOption.all fun found => found.2.2 == afterClass rest
  | '(' :: '?' :: 'P' :: '<' :: rest => (rest.takeWhile (· != '>')).all isSingle
  | '(' :: '?' :: '<' :: rest => (rest.takeWhile (· != '>')).all isSingle
  | _ => true

/-- What a piece, from the text to what is behind it, does to the progress, and its atoms. -/
inductive Beside (progress : Progress) (text behind : Text) : Progress → Prop
  /-- A character that both take for itself. -/
  | literal (character : Char)
      (passes : Passes text [(.literal character, false)] behind) :
      Beside progress text behind (progress.push (.flat (.set (CharSet.single character))))
  /-- An edge of a word, taken for a character. -/
  | edge (character : Char) (assertion : Look)
      (passes : Passes text [(.literal character, true)] behind) :
      Beside progress text behind (progress.push (.flat (.look assertion)))
  | anchor (assertion : Look) (mark : Bool)
      (passes : Passes text [(.anchor, mark)] behind) :
      Beside progress text behind (progress.push (.flat (.look assertion)))
  | plus {next : Progress} (done : progress.repeatLast 1 none false = .ok next) (mark : Bool)
      (passes : Passes text [(.repeated, mark)] behind) : Beside progress text behind next
  | opened {next : Progress} (flags : next.flags = progress.flags)
      (groups : next.groups.map (·.flags) = progress.flags :: progress.groups.map (·.flags))
      (mark : Bool) (passed : List (Atom × Bool))
      (passes : Passes text ((.groupOpen, mark) :: passed) behind) :
      Beside progress text behind next
  | closed {next : Progress} (done : progress.closeGroup = .ok next) (mark : Bool)
      (passes : Passes text [(.groupClose, mark)] behind) :
      Beside progress text behind next
  /-- Text that is not fixed, or a repetition whose subject may be missing; what stands before it is
  neither a character nor a parenthesis. -/
  | cleared {next : Progress} (flags : next.flags = progress.flags)
      (groups : next.groups = progress.groups) (passed : List (Atom × Bool))
      (quiet : ∀ mark ∈ passed, mark.1 = .anchor ∨ mark.1 = .repeated ∨ mark.1 = .optional)
      (atom : Atom) (clears : atom = .optional ∨ atom = .varying) (mark : Bool)
      (passes : Passes text (passed ++ [(atom, mark)]) behind) :
      Beside progress text behind next

section

variable {progress next : Progress} {rest behind : Text} {primitive : Primitive}

theorem behind_of_readShorthand {flags : Flags} {set : CharSet} {negated : Bool}
    (read : readShorthand flags set negated rest = .ok (primitive, behind)) : rest = behind := by
  unfold readShorthand at read
  split at read
  · cases read
  · cases read
    rfl

theorem escapeAtom_punctuation {letter : Char} (punctuation : letter.isAlphanum = false)
    (rest : Text) : escapeAtom letter rest = (.literal letter, rest) := by
  unfold escapeAtom
  split
  case h_13 => rw [if_neg (Bool.eq_false_iff.mp punctuation)]
  all_goals exact absurd punctuation (by decide)

/-- Text that is not fixed is read on from where its atom ends. -/
theorem behind_of_varying {letter : Char} {left : Text}
    (varying : escapeAtom letter rest = (.varying, left))
    (read : readEscape {} (letter :: rest) = .ok (primitive, behind)) : left = behind := by
  unfold readEscape at read
  dsimp only at read
  split at read
  · cases read
  · split at read
    case h_24 =>
      split at read
      · rename_i other
        rw [Bool.and_eq_true, Bool.not_eq_true'] at other
        rw [escapeAtom_punctuation other.2] at varying
        cases varying
      · cases read
    all_goals
      cases varying
    all_goals first
      | exact afterArgument_of_readHex (by decide) read
      | exact afterArgument_of_readProperty (by decide) read
      | exact behind_of_readShorthand read
      | (cases read; rfl)

/-! ### Single pieces -/

theorem beside_of_cleared {text : Text} {atom : Atom} {mark : Bool}
    (clears : atom = .optional ∨ atom = .varying)
    (passes : Passes text [(atom, mark)] behind) (flags : next.flags = progress.flags)
    (groups : next.groups = progress.groups) : Beside progress text behind next :=
  Beside.cleared flags groups [] (fun _ member => absurd member List.not_mem_nil) atom clears mark
    passes

theorem passes_escape (letter : Char) (rest : Text) :
    Passes ('\\' :: letter :: rest)
      [((escapeAtom letter rest).1, isWordEdge ('\\' :: letter :: rest))]
      (escapeAtom letter rest).2 :=
  Passes.one rfl

theorem isWordEdge_of_ne {letter : Char} (noEdge : letter ≠ '<' ∧ letter ≠ '>') (rest : Text) :
    isWordEdge ('\\' :: letter :: rest) = false := by
  simp only [isWordEdge, List.isPrefixOf, Bool.or_eq_false_iff, Bool.and_eq_false_iff,
    beq_eq_false_iff_ne]
  exact ⟨Or.inr (Or.inl noEdge.1.symm), Or.inr (Or.inl noEdge.2.symm)⟩

/-- An escaped character, which may be the edge of a word. -/
theorem beside_of_escapedCharacter {letter character : Char} {expr : Expr}
    (atom : escapeAtom letter rest = (.literal character, rest))
    (which : (letter, character) ∈ [('n', '\n'), ('t', '\t'), ('r', '\r')] ∨
      letter = character ∧ letter.isAlphanum = false)
    (escape : readEscape {} (letter :: rest) = .ok (primitive, behind))
    (made : primitive.expr {} = .ok expr) :
    Beside progress ('\\' :: letter :: rest) behind (progress.push (.flat expr)) := by
  have passes := passes_escape letter rest
  rw [atom] at passes
  rcases which with member | ⟨rfl, punctuation⟩
  · simp only [List.mem_cons, List.not_mem_nil, or_false, Prod.mk.injEq] at member
    rcases member with ⟨rfl, rfl⟩ | ⟨rfl, rfl⟩ | ⟨rfl, rfl⟩
    all_goals
      cases escape
      cases made
      exact Beside.literal _ passes
  · by_cases start : letter = '<'
    · subst start
      cases escape
      cases made
      exact Beside.edge _ _ passes
    · by_cases stop : letter = '>'
      · subst stop
        cases escape
        cases made
        exact Beside.edge _ _ passes
      · obtain ⟨rfl, rfl⟩ := readEscape_punctuation punctuation ⟨start, stop⟩ escape
        cases made
        rw [isWordEdge_of_ne ⟨start, stop⟩] at passes
        exact Beside.literal _ passes

/-- An assertion, which may have a name in braces. -/
theorem beside_of_escapedAnchor {letter : Char} {expr : Expr}
    (member : letter ∈ ['b', 'B', 'A', 'z'])
    (escape : readEscape {} (letter :: rest) = .ok (primitive, behind))
    (made : primitive.expr {} = .ok expr) :
    Beside progress ('\\' :: letter :: rest) behind (progress.push (.flat expr)) := by
  have passes := passes_escape letter rest
  obtain ⟨⟨assertion, rfl⟩, _⟩ := readEscape_anchor member escape
  cases made
  simp only [List.mem_cons, List.not_mem_nil, or_false] at member
  rcases member with rfl | rfl | rfl | rfl
  case inl =>
    have bounded : readBoundary {} rest = .ok (.look assertion, behind) := escape
    by_cases whole : rest = behind
    · subst whole
      exact Beside.anchor assertion _ passes
    -- the scanner takes a name in braces for a repetition with counts
    · obtain ⟨_, same | ⟨more, rfl⟩⟩ := readEscape_anchor (by decide) escape
      · exact absurd same.symm whole
      · have ends := (behind_of_readBoundary bounded).resolve_left (Ne.symm whole)
        have name : Passes ('\x7b' :: more) [(.optional, false)] behind := by
          rw [← ends]
          exact Passes.one rfl
        refine Beside.cleared rfl rfl _ ?_ .optional (Or.inl rfl) false (passes.trans name)
        intro mark member
        rw [List.mem_singleton.mp member]
        exact Or.inl rfl
  all_goals
    cases escape
    exact Beside.anchor _ _ passes

/-- An escape beside its atom. -/
theorem beside_of_escape (plain : progress.flags = {})
    (piece : readPiece progress '\\' rest = .ok (next, behind)) :
    Beside progress ('\\' :: rest) behind next := by
  obtain ⟨⟨primitive, after⟩, escape, piece⟩ := ok_of_bind piece
  obtain ⟨expr, made, piece⟩ := ok_of_bind piece
  cases piece
  rw [plain] at escape made
  cases rest with
  | nil => cases escape
  | cons letter rest =>
    rcases escapeAtom_cases letter rest with
      ⟨member, _⟩ | ⟨character, atom, which⟩ | ⟨left, atom⟩
    · exact beside_of_escapedAnchor member escape made
    · exact beside_of_escapedCharacter atom which escape made
    · have passes := passes_escape letter rest
      rw [atom, behind_of_varying atom escape] at passes
      exact beside_of_cleared (Or.inr rfl) passes rfl rfl

theorem passes_plain {head : Char} (plain : ¬ isOperator head = true) (rest : Text) :
    Passes (head :: rest) [(.literal head, false)] rest := by
  have noEdge : isWordEdge (head :: rest) = false := by
    have noEscape : '\\' ≠ head := by
      rintro rfl
      exact plain rfl
    simp only [isWordEdge, List.isPrefixOf, Bool.or_eq_false_iff, Bool.and_eq_false_iff,
      beq_eq_false_iff_ne]
    exact ⟨Or.inl noEscape, Or.inl noEscape⟩
  have passes := Passes.one (nextAtom?_plain plain rest)
  rw [noEdge] at passes
  exact passes

theorem repeatLast_keeps {least : Nat} {most : Option Nat} {lazy : Bool}
    (done : progress.repeatLast least most lazy = .ok next) :
    next.flags = progress.flags ∧ next.groups = progress.groups := by
  rw [Progress.repeatLast] at done
  split at done
  · cases done
  · split at done
    · cases done
      exact ⟨rfl, rfl⟩
    · cases done

/-- A repetition, which a question mark behind it makes lazy. -/
theorem beside_of_repetition {text after : Text} {atom : Atom} {mark lazy : Bool} {least : Nat}
    {most : Option Nat} (passes : Passes text [(atom, mark)] after)
    (which : atom = .optional ∨ atom = .repeated ∧ least = 1 ∧ most = none)
    (laziness : readLazy after = (lazy, behind))
    (done : progress.repeatLast least most lazy = .ok next) : Beside progress text behind next := by
  obtain ⟨sameFlags, sameGroups⟩ := repeatLast_keeps done
  unfold readLazy at laziness
  split at laziness
  · rename_i rest
    cases laziness
    have question : Passes ('?' :: behind) [(.optional, false)] behind := Passes.one rfl
    refine Beside.cleared sameFlags sameGroups [(atom, mark)] ?_ .optional (Or.inl rfl) false
      (passes.trans question)
    intro mark member
    rw [List.mem_singleton.mp member]
    exact Or.inr (which.symm.imp And.left id)
  · cases laziness
    rcases which with rfl | ⟨rfl, rfl, rfl⟩
    · exact beside_of_cleared (Or.inl rfl) passes sameFlags sameGroups
    · exact Beside.plus done mark passes

/-! ### Groups -/

theorem nextAtom?_of_isSingle {head : Char} (single : isSingle head = true) (rest : Text) :
    ∃ atom, nextAtom? (head :: rest) = some (atom, rest) := by
  unfold nextAtom?
  split
  · rename_i none
    cases none
  · rename_i escape
    cases escape
    cases single
  · rename_i escape
    cases escape
    cases single
  · rename_i same
    cases same
    split
    all_goals first
      | exact ⟨_, rfl⟩
      | cases single

/-- The atoms of a name, whatever they are, end with it. -/
theorem passes_name {name : Text} (single : name.all isSingle = true) (behind : Text) :
    ∃ passed, Passes (name ++ '>' :: behind) passed behind := by
  induction name with
  | nil => exact ⟨_, Passes.one rfl⟩
  | cons head name inductionHypothesis =>
    rw [List.all_cons, Bool.and_eq_true] at single
    obtain ⟨passed, later⟩ := inductionHypothesis single.2
    obtain ⟨atom, next⟩ := nextAtom?_of_isSingle single.1 (name ++ '>' :: behind)
    exact ⟨_, (Passes.one next).trans later⟩

/-- A group with a name opens behind the angle that ends the name. -/
theorem opened_of_openNamedGroup {text : Text}
    (alike : (text.takeWhile (· != '>')).all isSingle = true)
    (opened : openNamedGroup progress text = .ok (next, behind)) :
    (∃ passed, Passes text passed behind) ∧ next.flags = progress.flags ∧
      next.groups.map (·.flags) = progress.flags :: progress.groups.map (·.flags) := by
  unfold openNamedGroup at opened
  dsimp only at opened
  split at opened
  · cases opened
  · rename_i angle rest closes
    split at opened
    · cases opened
    · rename_i first others named
      split at opened
      · cases opened
      · rename_i characters
        split at opened
        · cases opened
        · cases opened
          refine ⟨?_, rfl, rfl⟩
          have angleEnds : angle = '>' := by
            have stops := List.head?_dropWhile_not (· != '>') text
            rw [closes] at stops
            exact bne_eq_false_iff_eq.mp stops
          subst angleEnds
          have written : text = first :: others ++ '>' :: behind := by
            rw [← named, ← closes, List.takeWhile_append_dropWhile]
          rw [written]
          rw [named] at alike
          exact passes_name alike behind

/-- An opening parenthesis, with all that belongs to it. -/
theorem beside_of_readGroup (plain : progress.flags = {}) (sets : setsNoFlags ('(' :: rest) = true)
    (alike : skipsAlike ('(' :: rest) = true)
    (read : readGroup progress rest = .ok (next, behind)) :
    Beside progress ('(' :: rest) behind next := by
  have opens : Passes ('(' :: rest) [(.groupOpen, false)] rest := Passes.one rfl
  have question (text : Text) : Passes ('?' :: text) [(.optional, false)] text := Passes.one rfl
  unfold readGroup at read
  split at read
  · cases read
  · cases read
  · cases read
  · cases read
  · rename_i text same
    rw [plain] at same
    have same : rest = '?' :: 'P' :: '<' :: text := same
    subst same
    obtain ⟨⟨passed, named⟩, sameFlags, sameGroups⟩ := opened_of_openNamedGroup alike read
    have passes := (passes_plain (by decide : ¬ isOperator 'P' = true) _).trans
      ((passes_plain (by decide : ¬ isOperator '<' = true) _).trans named)
    exact Beside.opened sameFlags sameGroups false _ (opens.trans ((question _).trans passes))
  · rename_i text _ _ same
    rw [plain] at same
    have same : rest = '?' :: '<' :: text := same
    subst same
    obtain ⟨⟨passed, named⟩, sameFlags, sameGroups⟩ := opened_of_openNamedGroup alike read
    have passes := (passes_plain (by decide : ¬ isOperator '<' = true) _).trans named
    exact Beside.opened sameFlags sameGroups false _ (opens.trans ((question _).trans passes))
  · rename_i text _ _ _ _ _ noAngle same
    rw [plain] at same
    have same : rest = '?' :: text := same
    subst same
    obtain ⟨⟨flags, letters, after⟩, letterRead, flagged⟩ := ok_of_bind read
    cases text with
    | nil => cases letterRead
    | cons letter text =>
      have which : letter = ':' ∨ letter = '<' ∨ letter = 'P' := by
        have which : (letter == ':' || letter == '<' || letter == 'P') = true := sets
        rw [Bool.or_eq_true, Bool.or_eq_true, beq_iff_eq, beq_iff_eq, beq_iff_eq, or_assoc] at which
        exact which
      rcases which with rfl | rfl | rfl
      · cases letterRead
        cases flagged
        have passes := passes_plain (by decide : ¬ isOperator ':' = true) behind
        exact Beside.opened rfl rfl false _ (opens.trans ((question _).trans passes))
      · exact absurd rfl (noAngle text)
      · cases letterRead
  · have skip : progress.flags.skip rest = rest := by
      rw [plain]
      rfl
    rw [skip] at read
    cases read
    exact Beside.opened rfl rfl false [] opens

/-! ### All pieces -/

/-- Every piece of an expression stands beside its atoms. -/
theorem beside_of_readPiece {head : Char} (plain : progress.flags = {})
    (sets : setsNoFlags (head :: rest) = true) (alike : skipsAlike (head :: rest) = true)
    (piece : readPiece progress head rest = .ok (next, behind)) :
    Beside progress (head :: rest) behind next := by
  by_cases operator : isOperator head = true
  · have member : head ∈ ['\\', '.', '+', '*', '?', '(', ')', '|', '[', '\x7b', '^', '$'] :=
      List.contains_iff_mem.mp operator
    simp only [List.mem_cons, List.not_mem_nil, or_false] at member
    rcases member with rfl | rfl | rfl | rfl | rfl | rfl | rfl | rfl | rfl | rfl | rfl | rfl
    · exact beside_of_escape plain piece
    · obtain ⟨expr, _, done⟩ := ok_of_bind piece
      cases done
      exact beside_of_cleared (Or.inr rfl) (Passes.one rfl) rfl rfl
    · obtain ⟨repeated, done, same⟩ := ok_of_map piece
      cases same
      exact beside_of_repetition (Passes.one rfl) (Or.inr ⟨rfl, rfl, rfl⟩) rfl done
    · obtain ⟨repeated, done, same⟩ := ok_of_map piece
      cases same
      exact beside_of_repetition (Passes.one rfl) (Or.inl rfl) rfl done
    · obtain ⟨repeated, done, same⟩ := ok_of_map piece
      cases same
      exact beside_of_repetition (Passes.one rfl) (Or.inl rfl) rfl done
    · exact beside_of_readGroup plain sets alike piece
    · obtain ⟨closed, done, same⟩ := ok_of_map piece
      cases same
      exact Beside.closed done _ (Passes.one rfl)
    · cases piece
      exact beside_of_cleared (Or.inr rfl) (Passes.one rfl) rfl rfl
    · obtain ⟨⟨members, depth, after⟩, bracketed, done⟩ := ok_of_bind piece
      cases done
      rw [plain] at bracketed
      have ends : behind = afterClass rest := by
        have ends : ((readClass {} rest).toOption.all fun found => found.2.2 == afterClass rest) =
          true := alike
        rw [bracketed] at ends
        exact beq_iff_eq.mp ends
      subst ends
      exact beside_of_cleared (Or.inr rfl) (Passes.one rfl) rfl rfl
    · obtain ⟨least, most, lazy, laziness, done⟩ := repeatLast_of_readCounted plain piece
      exact beside_of_repetition (Passes.one rfl) (Or.inl rfl) laziness done
    · cases piece
      exact Beside.anchor _ _ (Passes.one rfl)
    · cases piece
      exact Beside.anchor _ _ (Passes.one rfl)
  · rw [readPiece_of_not_isOperator progress operator] at piece
    cases piece
    rw [plain]
    exact Beside.literal head (passes_plain operator _)

end

end Stencil.Delimiters
