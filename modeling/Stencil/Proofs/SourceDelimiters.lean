/-
This file proves that reading the delimiters off a source undoes making the source of them. The two
sides share no code: the source is made by escaping characters one by one, outside a class and
inside it, and it is read atom by atom by a scanner that knows escapes, classes and repetitions only
as far as delimiters go. They agree because every escaped character is neither a letter nor a digit,
so that the scanner takes it for itself, and because an unescaped one means nothing to the scanner.
In the class no bracket stands without a backslash before it, so the scanner leaves the class where
it ends, whatever characters are excluded.

A source that is written between slashes is read without them. That is the one way in which the
source of two delimiters can be taken for another one, and it takes an opening delimiter that starts
with a slash.
-/

import Stencil.Proofs.ClassBrackets
import Stencil.Proofs.DerivedOpening

namespace Stencil

namespace Delimiters

open Regex Pattern

/-! ### Escaped text -/

theorem not_isAlphanum_of_isMeta {character : Char} (meaning : isMeta character = true) :
    ¬ character.isAlphanum = true := by
  have each : ['\\', '.', '+', '*', '?', '(', ')', '|', '[', ']', '{', '}', '^', '$', '#', '&',
      '-', '~'].all (fun other => !other.isAlphanum) = true := by decide
  have alone := List.all_eq_true.mp each character (List.contains_iff_mem.mp meaning)
  exact Bool.eq_false_iff.mp ((Bool.not_eq_true' _).mp alone)

/-- After a backslash, a character that means something is taken for itself. -/
theorem escapeAtom_of_isMeta {character : Char} (meaning : isMeta character = true) (rest : Text) :
    escapeAtom character rest = (.literal character, rest) := by
  unfold escapeAtom
  split
  all_goals first
    | exact absurd meaning (by decide)
    | exact if_neg (not_isAlphanum_of_isMeta meaning)

theorem not_isOperator_of_not_isMeta {character : Char} (plain : ¬ isMeta character = true) :
    ¬ isOperator character = true := by
  have each : ['\\', '.', '+', '*', '?', '(', ')', '|', '[', '\x7b', '^', '$'].all isMeta = true :=
    by decide
  exact fun operator =>
    plain (List.all_eq_true.mp each character (List.contains_iff_mem.mp operator))

/-- The first atom of escaped text is its first character. -/
theorem nextAtom?_escapeText (character : Char) (text after : Text) :
    nextAtom? (escapeText (character :: text) ++ after) =
      some (.literal character, escapeText text ++ after) := by
  rw [escapeText_cons, List.append_assoc]
  by_cases meaning : isMeta character = true
  · rw [if_pos meaning]
    exact congrArg some (escapeAtom_of_isMeta meaning _)
  · rw [if_neg meaning]
    exact nextAtom?_plain (not_isOperator_of_not_isMeta meaning) _

/-- The atoms of escaped text are its characters. -/
theorem atomsWithin_escapeText (text after : Text) (fuel : Nat) :
    atomsWithin (text.length + fuel) (escapeText text ++ after) =
      text.map Atom.literal ++ atomsWithin fuel after := by
  induction text with
  | nil =>
    rw [List.length_nil, Nat.zero_add]
    rfl
  | cons character text inductionHypothesis =>
    rw [List.length_cons, Nat.add_right_comm, atomsWithin, nextAtom?_escapeText]
    exact congrArg (Atom.literal character :: ·) inductionHypothesis

/-! ### Escaped text in a class -/

theorem isClassMark_of_not_isMeta {character : Char} (plain : ¬ isMeta character = true) :
    isClassMark character = false := by
  rw [← Bool.not_eq_true, isClassMark_iff]
  rintro (rfl | rfl | rfl) <;> exact plain rfl

/-- No bracket of escaped text closes a class, or opens another one inside it. -/
theorem afterBrackets_escapeText (text after : Text) :
    afterBrackets 1 (escapeText text ++ ']' :: after) = after := by
  induction text with
  | nil =>
    show afterBrackets 1 (']' :: after) = after
    rw [afterBrackets, afterBrackets]
  | cons character text inductionHypothesis =>
    rw [escapeText_cons, List.append_assoc]
    by_cases meaning : isMeta character = true
    · rw [if_pos meaning]
      show afterBrackets 1 ('\\' :: character :: (escapeText text ++ ']' :: after)) = after
      rw [afterBrackets, inductionHypothesis]
    · rw [if_neg meaning]
      exact (afterBrackets_plain (isClassMark_of_not_isMeta meaning) _).trans inductionHypothesis

/-- The class of all characters but those of a text ends at its closing bracket. -/
theorem afterClass_escapeText {text : Text} (some : text ≠ []) (after : Text) :
    afterClass ('^' :: (escapeText text ++ ']' :: after)) = after := by
  obtain ⟨character, others, rfl⟩ := List.exists_cons_of_ne_nil some
  obtain ⟨head, rest, same, plain⟩ := escapeText_head character others (']' :: after)
  have kept : dropFirst ']' (head :: rest) = head :: rest :=
    if_neg (plain ']' (by decide) (by decide))
  show afterBrackets 1 (dropFirst ']' (escapeText (character :: others) ++ ']' :: after)) = after
  rw [same, kept, ← same, afterBrackets_escapeText]

/-! ### The source of two delimiters -/

/-- The atoms between the opening and the closing delimiter: the group around a class that is
repeated. -/
def groupAtoms : List Atom :=
  [.groupOpen, .varying, .repeated, .groupClose]

theorem atomsWithin_group {text : Text} (some : text ≠ []) (after : Text) (fuel : Nat) :
    atomsWithin (fuel + 4)
        ('(' :: '[' :: '^' :: (escapeText text ++ ']' :: '+' :: ')' :: after)) =
      groupAtoms ++ atomsWithin fuel after := by
  show Atom.groupOpen :: Atom.varying ::
    atomsWithin (fuel + 2) (afterClass ('^' :: (escapeText text ++ ']' :: '+' :: ')' :: after))) = _
  rw [afterClass_escapeText some]
  rfl

/-- The atoms of the source are the characters of the opening delimiter, the group, and the
characters of the closing delimiter. -/
theorem atoms_sourceOf {opening : Text} (some : opening ≠ []) (closing : Text) :
    atoms (sourceOf opening closing) =
      opening.map Atom.literal ++ (groupAtoms ++ closing.map Atom.literal) := by
  obtain ⟨spare, length⟩ := length_sourceOf opening closing
  have ended : atomsWithin spare [] = [] := by
    cases spare with
    | zero => rfl
    | succ _ => rfl
  rw [atoms, length, sourceOf_eq, atomsWithin_escapeText,
    atomsWithin_group (distinct_append_ne_nil some closing), atomsWithin_escapeText, ended,
    List.append_nil]

theorem beforeGroup_literals (fixed text : Text) (others : List Atom) :
    beforeGroup false fixed (text.map Atom.literal ++ .groupOpen :: others) =
      some (fixed ++ text, others) := by
  induction text generalizing fixed with
  | nil =>
    rw [List.append_nil]
    rfl
  | cons character text inductionHypothesis =>
    show beforeGroup false (fixed ++ [character])
      (text.map Atom.literal ++ .groupOpen :: others) = _
    rw [inductionHypothesis, List.append_assoc, List.singleton_append]

theorem afterGroups_literals (fixed text : Text) :
    afterGroups true fixed (text.map Atom.literal) = some (fixed ++ text) := by
  induction text generalizing fixed with
  | nil =>
    rw [List.append_nil]
    rfl
  | cons character text inductionHypothesis =>
    show afterGroups true (fixed ++ [character]) (text.map Atom.literal) = _
    rw [inductionHypothesis, List.append_assoc, List.singleton_append]

theorem orDefault_of_ne_nil (fallback : Text) {fixed : Text} (filled : fixed ≠ []) :
    orDefault fallback (some fixed) = fixed := by
  obtain ⟨head, rest, rfl⟩ := List.exists_cons_of_ne_nil filled
  rfl

/-- The delimiters that are read off a source are the two that it was made of. -/
theorem derive_sourceOf {opening closing : Text} (openingSome : opening ≠ [])
    (closingSome : closing ≠ []) : derive (sourceOf opening closing) = (opening, closing) := by
  have before : beforeGroup false [] (atoms (sourceOf opening closing)) =
      some (opening, [.varying, .repeated, .groupClose] ++ closing.map Atom.literal) := by
    rw [atoms_sourceOf openingSome]
    exact beforeGroup_literals [] opening _
  have after : afterGroups false []
      ([.varying, .repeated, .groupClose] ++ closing.map Atom.literal) = some closing :=
    afterGroups_literals [] closing
  rw [derive, before]
  dsimp only
  rw [after, orDefault_of_ne_nil _ openingSome, orDefault_of_ne_nil _ closingSome]

end Delimiters

namespace Pattern

open Regex Delimiters

/-! ### Patterns made again from their sources -/

theorem lastGroup_le_cats {expr : Expr} {exprs : List Expr} (member : expr ∈ exprs) :
    expr.lastGroup ≤ (Expr.cats exprs).lastGroup := by
  induction exprs with
  | nil => exact absurd member List.not_mem_nil
  | cons first rest inductionHypothesis =>
    cases rest with
    | nil => exact Nat.le_of_eq (congrArg Expr.lastGroup (List.mem_singleton.mp member))
    | cons second rest =>
      show expr.lastGroup ≤ max first.lastGroup (Expr.cats (second :: rest)).lastGroup
      rcases List.mem_cons.mp member with rfl | later
      · exact Nat.le_max_left _ _
      · exact Nat.le_trans (inductionHypothesis later) (Nat.le_max_right _ _)

/-- The expression of a placeholder has a group. -/
theorem lastGroup_placeholderExpr (opening closing : Text) :
    (placeholderExpr opening closing).lastGroup ≠ 0 := by
  have member : pathGroup opening closing ∈
      opening.map fixed ++ pathGroup opening closing :: closing.map fixed :=
    List.mem_append_right _ List.mem_cons_self
  exact Nat.ne_of_gt (lastGroup_le_cats member)

/-- The pattern of two delimiters is also the one that the source of its expression makes. -/
theorem ofSource_sourceOf {opening closing : Text} {pattern : Pattern}
    (made : ofDelimiters opening closing = .ok pattern) :
    pattern.regex.source = sourceOf opening closing ∧
      ofSource (sourceOf opening closing) = .ok pattern := by
  obtain ⟨openingSome, closingSome, _⟩ := ofDelimiters_ok made
  have compiled := compile_sourceOf openingSome closing
  rw [ofDelimiters_eq openingSome closingSome] at made
  cases made
  refine ⟨rfl, ?_⟩
  rw [ofSource, compiled]
  dsimp only
  rw [withDerived, if_neg (lastGroup_placeholderExpr opening closing),
    derive_sourceOf openingSome closingSome]

/-- A source that does not start with a slash is no literal. -/
theorem parse_of_head?_ne {source : Text} (noSlash : source.head? ≠ some '/') :
    parse source = ofSource source := by
  have whole : splitLiteral source = (source, []) := by
    unfold splitLiteral
    split
    · exact absurd rfl noSlash
    · rfl
  rw [parse, whole]
  rfl

/-- The source starts with a slash only if the opening delimiter does, for a slash is not
escaped. -/
theorem head?_sourceOf {opening : Text} (filled : opening ≠ []) (closing : Text)
    (noSlash : opening.head? ≠ some '/') : (sourceOf opening closing).head? ≠ some '/' := by
  obtain ⟨character, others, rfl⟩ := List.exists_cons_of_ne_nil filled
  rw [sourceOf_eq, escapeText_cons, List.append_assoc]
  by_cases meaning : isMeta character = true
  · rw [if_pos meaning]
    show some '\\' ≠ some '/'
    decide
  · rw [if_neg meaning]
    exact noSlash

/-- Reading the delimiters off a source undoes making the source of them. Two delimiters that are
not empty make a pattern; the expression that is compiled from its source makes the same pattern,
with both delimiters read off the source, and so does the source as a literal, unless the opening
delimiter starts with a slash. -/
theorem derivation_undoes_construction (opening closing : Text) (openingSome : opening ≠ [])
    (closingSome : closing ≠ []) :
    ∃ pattern, ofDelimiters opening closing = .ok pattern ∧
      pattern.opening = opening ∧ pattern.closing = closing ∧
      ofSource pattern.regex.source = .ok pattern ∧
      (opening.head? ≠ some '/' → parse pattern.regex.source = .ok pattern) := by
  have made := ofDelimiters_eq openingSome closingSome
  obtain ⟨source, again⟩ := ofSource_sourceOf made
  refine ⟨_, made, rfl, rfl, ?_, fun noSlash => ?_⟩
  · rw [source, again]
  · rw [source, parse_of_head?_ne (head?_sourceOf openingSome closing noSlash), again]

/-- Delimiters of characters that mean something in an expression, and more so in a class. -/
theorem derivation_undoes_construction_metacharacters :
    ∃ pattern, ofDelimiters "]^".toList "-&&[/".toList = .ok pattern ∧
      pattern.regex.source = "\\]\\^([^\\]\\^\\-\\&\\[/]+)\\-\\&\\&\\[/".toList ∧
      ofSource pattern.regex.source = .ok pattern ∧ parse pattern.regex.source = .ok pattern := by
  obtain ⟨pattern, made, _, _, again, parsed⟩ :=
    derivation_undoes_construction "]^".toList "-&&[/".toList (by decide) (by decide)
  have source : pattern.regex.source =
      "\\]\\^([^\\]\\^\\-\\&\\[/]+)\\-\\&\\&\\[/".toList := by
    rw [(ofSource_sourceOf made).1]
    decide
  exact ⟨pattern, made, source, again, parsed (by decide)⟩

/-- The source of two delimiters that start with slashes is read as a literal, which leaves nothing
of them. -/
example : (parse (sourceOf ['/'] ['/', 'g'])).toOption.map
    (fun pattern => (pattern.opening, pattern.closing)) =
      some (defaultOpening, defaultClosing) := by
  decide +kernel

end Pattern

end Stencil
