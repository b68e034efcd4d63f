/-
This file proves that an opening delimiter which is read off the source of an expression occurs
wherever the expression matches. The delimiter is read off atom by atom, and the expression piece by
piece; the two readers know nothing of each other, and they part where the syntax does: one takes a
word edge for a character, a plus sign inside the delimiter repeats a character that the delimiter
holds once, and an alternative at the top, or letters in either case, match what the delimiter does
not name. Elsewhere the two go along with each other until the delimiter is complete, and from there
on the parts that spell it have settled.
-/

import Stencil.Proofs.Caseless
import Stencil.Proofs.DirectScan
import Stencil.Proofs.SettledParts

namespace Stencil

/-! ### Atoms and pieces -/

namespace Delimiters

open Regex Unicode.Folding

/-- Whether the text starts with an escape that an expression reads as the edge of a word. -/
def isWordEdge (text : Text) : Bool :=
  ['\\', '<'].isPrefixOf text || ['\\', '>'].isPrefixOf text

/-- Whether the expression means by the atoms of the opening delimiter what the delimiter says,
`fixed` having been read: none of its characters is the edge of a word, and a plus sign repeats only
the first or the last of them. -/
def spellsOpening (opening : Text) : (fuel : Nat) → (fixed : Text) → Text → Bool
  | 0, _, _ => true
  | fuel + 1, fixed, text =>
    match nextAtom? text with
    | some (.literal character, rest) =>
      (opening.length ≤ fixed.length || !isWordEdge text) &&
        spellsOpening opening fuel (fixed ++ [character]) rest
    | some (.anchor, rest) => spellsOpening opening fuel fixed rest
    | some (.repeated, rest) =>
      (fixed.length ≤ 1 || opening.length ≤ fixed.length) &&
        spellsOpening opening fuel fixed rest
    | _ => true

/-- Characters that are no literals outside classes. -/
def isOperator (character : Char) : Bool :=
  ['\\', '.', '+', '*', '?', '(', ')', '|', '[', '\x7b', '^', '$'].contains character

theorem nextAtom?_plain {head : Char} (plain : ¬ isOperator head = true) (rest : Text) :
    nextAtom? (head :: rest) = some (.literal head, rest) := by
  unfold nextAtom?
  split
  · rename_i none
    cases none
  · rename_i escape
    cases escape
    exact absurd rfl plain
  · rename_i escape
    cases escape
    exact absurd rfl plain
  · rename_i same
    cases same
    split
    all_goals first
      | exact absurd rfl plain
      | rfl

theorem readPiece_of_not_isOperator (progress : Progress) {head : Char}
    (plain : ¬ isOperator head = true) (rest : Text) :
    readPiece progress head rest =
      .ok (progress.push (.flat (progress.flags.literal head)), rest) := by
  unfold readPiece
  split
  all_goals first
    | exact absurd rfl plain
    | rfl

/-- What an escape is taken for: an assertion, a character, or text that is not fixed. -/
theorem escapeAtom_cases (letter : Char) (rest : Text) :
    (letter ∈ ['b', 'B', 'A', 'z'] ∧ escapeAtom letter rest = (.anchor, rest)) ∨
      (∃ character, escapeAtom letter rest = (.literal character, rest) ∧
        ((letter, character) ∈ [('n', '\n'), ('t', '\t'), ('r', '\r')] ∨
          letter = character ∧ letter.isAlphanum = false)) ∨
      ∃ left, escapeAtom letter rest = (.varying, left) := by
  unfold escapeAtom
  split
  · exact Or.inl ⟨by decide, rfl⟩
  · exact Or.inl ⟨by decide, rfl⟩
  · exact Or.inl ⟨by decide, rfl⟩
  · exact Or.inl ⟨by decide, rfl⟩
  · exact Or.inr (Or.inl ⟨_, rfl, Or.inl (by decide)⟩)
  · exact Or.inr (Or.inl ⟨_, rfl, Or.inl (by decide)⟩)
  · exact Or.inr (Or.inl ⟨_, rfl, Or.inl (by decide)⟩)
  · exact Or.inr (Or.inr ⟨_, rfl⟩)
  · exact Or.inr (Or.inr ⟨_, rfl⟩)
  · exact Or.inr (Or.inr ⟨_, rfl⟩)
  · exact Or.inr (Or.inr ⟨_, rfl⟩)
  · exact Or.inr (Or.inr ⟨_, rfl⟩)
  · by_cases alphanumeric : letter.isAlphanum = true
    · rw [if_pos alphanumeric]
      exact Or.inr (Or.inr ⟨_, rfl⟩)
    · rw [if_neg alphanumeric]
      exact Or.inr (Or.inl ⟨_, rfl, Or.inr ⟨rfl, Bool.eq_false_iff.mpr alphanumeric⟩⟩)

/-- An escape that is neither a letter nor a digit reads as its character, word edges apart. -/
theorem readEscape_punctuation {letter : Char} (punctuation : letter.isAlphanum = false)
    (noEdge : letter ≠ '<' ∧ letter ≠ '>') {flags : Flags} {rest behind : Text}
    {primitive : Primitive} (read : readEscape flags (letter :: rest) = .ok (primitive, behind)) :
    primitive = .literal letter false ∧ behind = rest := by
  have noDigit : ¬ letter.isDigit = true := by
    intro digit
    rw [Char.isAlphanum, digit, Bool.or_true] at punctuation
    cases punctuation
  unfold readEscape at read
  dsimp only at read
  rw [if_neg noDigit] at read
  split at read
  all_goals first
    | exact absurd punctuation (by decide)
    | exact absurd rfl noEdge.1
    | exact absurd rfl noEdge.2
    | skip
  split at read
  · cases read
    exact ⟨rfl, rfl⟩
  · cases read

/-- An escape taken for an assertion reads as one, and nothing more is read unless a brace
follows. -/
theorem readEscape_anchor {letter : Char} (member : letter ∈ ['b', 'B', 'A', 'z']) {flags : Flags}
    {rest behind : Text} {primitive : Primitive}
    (read : readEscape flags (letter :: rest) = .ok (primitive, behind)) :
    (∃ assertion, primitive = .look assertion) ∧
      (behind = rest ∨ ∃ more, rest = '\x7b' :: more) := by
  simp only [List.mem_cons, List.not_mem_nil, or_false] at member
  rcases member with rfl | rfl | rfl | rfl
  · have bounded : readBoundary flags rest = .ok (primitive, behind) := read
    unfold readBoundary at bounded
    dsimp only at bounded
    split at bounded
    · refine ⟨?_, Or.inr ⟨_, rfl⟩⟩
      split at bounded
      · cases bounded
      · split at bounded
        · cases bounded
          exact ⟨_, rfl⟩
        · split at bounded
          all_goals first
            | (cases bounded; exact ⟨_, rfl⟩)
            | cases bounded
    · cases bounded
      exact ⟨⟨_, rfl⟩, Or.inl rfl⟩
  · cases read
    exact ⟨⟨_, rfl⟩, Or.inl rfl⟩
  · cases read
    exact ⟨⟨_, rfl⟩, Or.inl rfl⟩
  · cases read
    exact ⟨⟨_, rfl⟩, Or.inl rfl⟩

/-! ### Delimiters as they grow -/

/-- Once the text is cut, nothing more is added to it. -/
theorem beforeGroup_cut {fixed opening : Text} {atoms others : List Atom}
    (derived : beforeGroup true fixed atoms = some (opening, others)) : opening = fixed := by
  induction atoms with
  | nil => cases derived
  | cons atom atoms inductionHypothesis =>
    cases atom with
    | groupOpen =>
      cases derived
      rfl
    | _ => exact inductionHypothesis derived

/-- What has been read of a delimiter stands at its start, but for a last character that is
dropped. -/
theorem prefix_of_beforeGroup {fixed opening : Text} {atoms others : List Atom}
    (derived : beforeGroup false fixed atoms = some (opening, others)) :
    fixed <+: opening ∨ opening = fixed.dropLast := by
  induction atoms generalizing fixed with
  | nil => cases derived
  | cons atom atoms inductionHypothesis =>
    cases atom with
    | groupOpen =>
      cases derived
      exact Or.inl (List.prefix_refl _)
    | literal character =>
      have later : beforeGroup false (fixed ++ [character]) atoms = some (opening, others) :=
        derived
      rcases inductionHypothesis later with longer | dropped
      · exact Or.inl ((List.prefix_append fixed [character]).trans longer)
      · rw [dropped, List.dropLast_concat]
        exact Or.inl (List.prefix_refl _)
    | anchor => exact inductionHypothesis derived
    | repeated => exact inductionHypothesis derived
    | optional => exact Or.inr (beforeGroup_cut derived)
    | groupClose => exact Or.inl (beforeGroup_cut derived ▸ List.prefix_refl _)
    | varying => exact Or.inl (beforeGroup_cut derived ▸ List.prefix_refl _)

/-- A delimiter of the length of what has been read is what has been read. -/
theorem eq_of_beforeGroup {fixed opening : Text} {atoms others : List Atom} (some : opening ≠ [])
    (derived : beforeGroup false fixed atoms = Option.some (opening, others))
    (length : opening.length = fixed.length) : fixed = opening := by
  rcases prefix_of_beforeGroup derived with longer | dropped
  · exact longer.eq_of_length length.symm
  · have positive := List.length_pos_iff.mpr some
    rw [dropped, List.length_dropLast] at length
    rw [dropped, List.length_dropLast] at positive
    omega

/-! ### The two readers side by side -/

/-- The expressions of the parts read so far, the last one first. -/
def exprs (progress : Progress) : List Expr :=
  progress.level.parts.map (·.expr)

/-- No group is open, blanks count, and the characters of the delimiter match only themselves. -/
structure IsPlain (opening : Text) (progress : Progress) : Prop where
  noGroup : progress.groups = []
  blanksCount : progress.flags.ignoreSpace = false
  asWritten : ∀ character ∈ opening,
    progress.flags.literal character = .set (CharSet.single character)

section

variable {opening : Text} {progress : Progress}

theorem IsPlain.push (plain : IsPlain opening progress) (part : Part) :
    IsPlain opening (progress.push part) :=
  ⟨plain.noGroup, plain.blanksCount, plain.asWritten⟩

theorem IsPlain.skip (plain : IsPlain opening progress) (text : Text) :
    progress.flags.skip text = text :=
  skip_of_blanksCount plain.blanksCount text

/-- A plus sign repeats the last part, and all before it stay. -/
theorem repeatLast_plus {after : Progress} {lazy : Bool}
    (done : progress.repeatLast 1 none lazy = .ok after) :
    ∃ last before greedy, exprs progress = last :: before ∧
      exprs after = last.repeated 1 none greedy :: before ∧
      (IsPlain opening progress → IsPlain opening after) := by
  obtain ⟨flags, ⟨branches, parts⟩, groups, captures, names⟩ := progress
  cases parts with
  | nil => cases done
  | cons part parts =>
    rw [Progress.repeatLast] at done
    dsimp only at done
    split at done
    · cases done
      exact ⟨part.expr, parts.map (·.expr), _, rfl, rfl,
        fun plain => ⟨plain.noGroup, plain.blanksCount, plain.asWritten⟩⟩
    · cases done

end

section

variable {opening : Text} {count fuel : Nat} {progress final : Progress} {text : Text}
  {others : List Atom}

/-- A repetition whose subject may be missing drops the last character. -/
theorem dropLast_of_optional {fixed : Text} {head : Char} (optional : head ∈ ['?', '*', '\x7b'])
    (derived : beforeGroup false fixed (atomsWithin count (head :: text)) =
      some (opening, others)) : opening = fixed.dropLast := by
  cases count with
  | zero => cases derived
  | succ count =>
    simp only [List.mem_cons, List.not_mem_nil, or_false] at optional
    rcases optional with rfl | rfl | rfl
    · exact beforeGroup_cut derived
    · exact beforeGroup_cut derived
    · exact beforeGroup_cut derived

/-- Where no character is dropped, a plus sign reads alone, and not with a question mark. -/
theorem readPiece_plus {fixed behind : Text} {next : Progress}
    (derived : beforeGroup false fixed (atomsWithin count text) = some (opening, others))
    (kept : opening ≠ fixed.dropLast) (piece : readPiece progress '+' text = .ok (next, behind)) :
    behind = text ∧ progress.repeatLast 1 none false = .ok next := by
  have piece : (progress.repeatLast 1 none (readLazy text).1).map (·, (readLazy text).2) =
      .ok (next, behind) := piece
  have alone : readLazy text = (false, text) := by
    unfold readLazy
    split
    · exact absurd (dropLast_of_optional (by decide) derived) kept
    · rfl
  rw [alone] at piece
  obtain ⟨repeated, done, same⟩ := ok_of_map piece
  cases same
  exact ⟨rfl, done⟩

/-- Parts have settled of whose expressions something holds. -/
def SettlesAs (good : List Expr → Prop) (final : Progress) : Prop :=
  ∃ kept, good (kept.map (·.expr)) ∧ Settles kept final

/-- The outcome of both readers: parts that spell the delimiter have settled. -/
def SettlesOn (opening : Text) (final : Progress) : Prop :=
  ∃ kept, SpellsRun (kept.map (·.expr)) opening ∧ Settles kept final

/-- Once the delimiter is complete, its parts settle with whatever is read next: only a plus sign
can still repeat the last of them, since any other repetition would have shortened the delimiter. -/
theorem settlesAs_of_complete {good : List Expr → Prop}
    (stays : ∀ last before greedy, good (last :: before) →
      good (last.repeated 1 none greedy :: before))
    (some : opening ≠ []) (plain : IsPlain opening progress) (holds : good (exprs progress))
    (enough : text.length ≤ fuel)
    (derived : beforeGroup false opening (atomsWithin count text) = Option.some (opening, others))
    (read : readPieces fuel progress text = .ok final) : SettlesAs good final := by
  induction count generalizing fuel progress text with
  | zero => cases derived
  | succ count inductionHypothesis =>
    have notShorter : opening ≠ opening.dropLast := by
      intro same
      have positive := List.length_pos_iff.mpr some
      have length := congrArg List.length same
      rw [List.length_dropLast] at length
      omega
    cases text with
    | nil => cases derived
    | cons head rest =>
      obtain ⟨fuel, rfl⟩ : ∃ fewer, fuel = fewer + 1 :=
        ⟨fuel - 1, (Nat.sub_add_cancel (Nat.lt_of_lt_of_le (Nat.succ_pos _) enough)).symm⟩
      rw [readPieces, plain.skip] at read
      obtain ⟨⟨next, behind⟩, piece, readLater⟩ := ok_of_bind read
      dsimp only at readLater
      by_cases repeats : head ∈ ['?', '*', '+', '\x7b']
      · by_cases plus : head = '+'
        · subst plus
          have derivedLater : beforeGroup false opening (atomsWithin count rest) =
            Option.some (opening, others) := derived
          obtain ⟨rfl, done⟩ := readPiece_plus derivedLater notShorter piece
          obtain ⟨last, before, greedy, same, sameAfter, plainAfter⟩ := repeatLast_plus done
          rw [same] at holds
          have holdsAfter := stays last before greedy holds
          rw [← sameAfter] at holdsAfter
          exact inductionHypothesis (plainAfter plain) holdsAfter (Nat.le_of_succ_le_succ enough)
            derivedLater readLater
        · have optional : head ∈ ['?', '*', '\x7b'] := by
            simp only [List.mem_cons, List.not_mem_nil, or_false] at repeats ⊢
            tauto
          exact absurd (dropLast_of_optional optional derived) notShorter
      · have keeps : Keeps progress.level.parts progress := by
          refine Or.inr ?_
          rw [plain.noGroup]
          exact List.suffix_refl _
        refine ⟨progress.level.parts, holds, ?_⟩
        exact (keeps.readPiece (fun member => absurd member repeats) piece).readPieces readLater

theorem settlesOn_of_spellsRun (some : opening ≠ []) (plain : IsPlain opening progress)
    (spells : SpellsRun (exprs progress) opening) (enough : text.length ≤ fuel)
    (derived : beforeGroup false opening (atomsWithin count text) = Option.some (opening, others))
    (read : readPieces fuel progress text = .ok final) : SettlesOn opening final :=
  show SettlesAs (fun exprs => SpellsRun exprs opening) final from
    settlesAs_of_complete (fun _ _ greedy spells => spells.repeated greedy) some plain spells
      enough derived read

/-- What both readers do at once while the delimiter grows: they take a character, pass an
assertion, or let a plus sign repeat the first character. -/
inductive StepsTo (progress : Progress) (fixed : Text) : Progress → Text → Prop
  | literal (character : Char) :
      StepsTo progress fixed (progress.push (.flat (progress.flags.literal character)))
        (fixed ++ [character])
  | anchor (assertion : Look) :
      StepsTo progress fixed (progress.push (.flat (.look assertion))) fixed
  | plus {next : Progress} (short : fixed.length ≤ 1)
      (done : progress.repeatLast 1 none false = .ok next) : StepsTo progress fixed next fixed

/-- Both readers have come to the same place, with what is read of the delimiter there. -/
def SideBySide (opening : Text) (others : List Atom) (count : Nat) (fixed text : Text) : Prop :=
  beforeGroup false fixed (atomsWithin count text) = some (opening, others) ∧
    spellsOpening opening count fixed text = true

variable {fixed rest behind : Text} {next : Progress}

theorem expr_literal {flags : Flags} {character : Char} {expr : Expr}
    (made : (Primitive.literal character false).expr flags = .ok expr) :
    expr = flags.literal character := by
  rw [Primitive.expr, Bool.and_false, Bool.false_and, if_neg Bool.false_ne_true] at made
  cases made
  rfl

/-- Both readers step alike over an escape. -/
theorem steps_beside_escape {letter : Char} (shorter : fixed.length < opening.length)
    (sideBySide : SideBySide opening others (count + 1) fixed ('\\' :: letter :: rest))
    (piece : readPiece progress '\\' (letter :: rest) = .ok (next, behind)) :
    ∃ fixedNext, StepsTo progress fixed next fixedNext ∧ behind.length ≤ rest.length ∧
      SideBySide opening others count fixedNext behind := by
  obtain ⟨derived, spelled⟩ := sideBySide
  obtain ⟨⟨primitive, after⟩, escape, piece⟩ := ok_of_bind piece
  obtain ⟨expr, made, piece⟩ := ok_of_bind piece
  cases piece
  have atoms : atomsWithin (count + 1) ('\\' :: letter :: rest) =
      (escapeAtom letter rest).1 :: atomsWithin count (escapeAtom letter rest).2 := rfl
  have next : nextAtom? ('\\' :: letter :: rest) = some (escapeAtom letter rest) := rfl
  rw [atoms] at derived
  rw [spellsOpening, next] at spelled
  rcases escapeAtom_cases letter rest with
    ⟨member, atom⟩ | ⟨character, atom, which⟩ | ⟨skipped, atom⟩
  · rw [atom] at derived spelled
    obtain ⟨⟨assertion, rfl⟩, rfl | ⟨more, rfl⟩⟩ := readEscape_anchor member escape
    · cases made
      exact ⟨fixed, StepsTo.anchor assertion, Nat.le_refl _, derived, spelled⟩
    · have dropped := dropLast_of_optional (by decide) derived
      rw [dropped, List.length_dropLast] at shorter
      omega
  · rw [atom] at derived spelled
    dsimp only at spelled
    rw [Bool.and_eq_true_iff, Bool.or_eq_true_iff, decide_eq_true_eq] at spelled
    have read : primitive = .literal character false ∧ behind = rest := by
      rcases which with member | ⟨rfl, punctuation⟩
      · simp only [List.mem_cons, List.not_mem_nil, or_false, Prod.mk.injEq] at member
        rcases member with ⟨rfl, rfl⟩ | ⟨rfl, rfl⟩ | ⟨rfl, rfl⟩
        · cases escape
          exact ⟨rfl, rfl⟩
        · cases escape
          exact ⟨rfl, rfl⟩
        · cases escape
          exact ⟨rfl, rfl⟩
      · refine readEscape_punctuation punctuation ?_ escape
        have noEdge := spelled.1.resolve_left (Nat.not_le.mpr shorter)
        constructor
        · rintro rfl
          cases noEdge
        · rintro rfl
          cases noEdge
    obtain ⟨rfl, rfl⟩ := read
    rw [expr_literal made]
    exact ⟨fixed ++ [character], StepsTo.literal character, Nat.le_refl _, derived, spelled.2⟩
  · rw [atom] at derived
    rw [beforeGroup_cut derived] at shorter
    exact absurd shorter (Nat.lt_irrefl _)

/-- Both readers step alike while the delimiter grows. -/
theorem steps_beside {head : Char} (shorter : fixed.length < opening.length)
    (sideBySide : SideBySide opening others (count + 1) fixed (head :: rest))
    (piece : readPiece progress head rest = .ok (next, behind)) :
    ∃ fixedNext, StepsTo progress fixed next fixedNext ∧ behind.length ≤ rest.length ∧
      SideBySide opening others count fixedNext behind := by
  have notCut : opening ≠ fixed := by
    rintro rfl
    exact Nat.lt_irrefl _ shorter
  have notDropped : opening ≠ fixed.dropLast := by
    rintro rfl
    rw [List.length_dropLast] at shorter
    omega
  obtain ⟨derived, spelled⟩ := sideBySide
  by_cases operator : isOperator head = true
  · have member : head ∈ ['\\', '.', '+', '*', '?', '(', ')', '|', '[', '\x7b', '^', '$'] :=
      List.contains_iff_mem.mp operator
    simp only [List.mem_cons, List.not_mem_nil, or_false] at member
    -- what cuts the delimiter, or drops its last character, leaves it no longer than it is so far
    rcases member with rfl | rfl | rfl | rfl | rfl | rfl | rfl | rfl | rfl | rfl | rfl | rfl
    case inl =>
      cases rest with
      | nil => cases derived
      | cons letter rest =>
        obtain ⟨fixedNext, steps, short, beside⟩ :=
          steps_beside_escape shorter ⟨derived, spelled⟩ piece
        exact ⟨fixedNext, steps, Nat.le_succ_of_le short, beside⟩
    · exact absurd (beforeGroup_cut derived) notCut
    · have derivedLater : beforeGroup false fixed (atomsWithin count rest) =
        some (opening, others) := derived
      obtain ⟨rfl, done⟩ := readPiece_plus derivedLater notDropped piece
      have plus : ((fixed.length ≤ 1 || opening.length ≤ fixed.length) &&
        spellsOpening opening count fixed behind) = true := spelled
      rw [Bool.and_eq_true_iff, Bool.or_eq_true_iff, decide_eq_true_eq, decide_eq_true_eq] at plus
      have short := plus.1.resolve_right (Nat.not_le.mpr shorter)
      exact ⟨fixed, StepsTo.plus short done, Nat.le_refl _, derivedLater, plus.2⟩
    · exact absurd (beforeGroup_cut derived) notDropped
    · exact absurd (beforeGroup_cut derived) notDropped
    · cases derived
      exact absurd rfl notCut
    · exact absurd (beforeGroup_cut derived) notCut
    · exact absurd (beforeGroup_cut derived) notCut
    · exact absurd (beforeGroup_cut derived) notCut
    · exact absurd (beforeGroup_cut derived) notDropped
    · cases piece
      exact ⟨fixed, StepsTo.anchor _, Nat.le_refl _, derived, spelled⟩
    · cases piece
      exact ⟨fixed, StepsTo.anchor _, Nat.le_refl _, derived, spelled⟩
  · rw [readPiece_of_not_isOperator progress operator] at piece
    rw [atomsWithin, nextAtom?_plain operator] at derived
    rw [spellsOpening, nextAtom?_plain operator] at spelled
    cases piece
    exact ⟨fixed ++ [head], StepsTo.literal head, Nat.le_refl _, derived,
      (Bool.and_eq_true_iff.mp spelled).2⟩

/-- As long as the delimiter is longer than what has been read of it, the parts spell what has been
read; then they settle. -/
theorem settlesOn_of_spells (plain : IsPlain opening progress)
    (spells : Spells (exprs progress) fixed) (shorter : fixed.length < opening.length)
    (enough : text.length ≤ fuel) (sideBySide : SideBySide opening others count fixed text)
    (read : readPieces fuel progress text = .ok final) : SettlesOn opening final := by
  induction count generalizing fuel progress text fixed with
  | zero => cases sideBySide.1
  | succ count inductionHypothesis =>
    cases text with
    | nil => cases sideBySide.1
    | cons head rest =>
      obtain ⟨fuel, rfl⟩ : ∃ fewer, fuel = fewer + 1 :=
        ⟨fuel - 1, (Nat.sub_add_cancel (Nat.lt_of_lt_of_le (Nat.succ_pos _) enough)).symm⟩
      rw [readPieces, plain.skip] at read
      obtain ⟨⟨next, behind⟩, piece, readLater⟩ := ok_of_bind read
      dsimp only at readLater
      obtain ⟨fixedNext, steps, short, beside⟩ := steps_beside shorter sideBySide piece
      have enoughLater := Nat.le_trans short (Nat.le_of_succ_le_succ enough)
      cases steps with
      | literal character =>
        have member : character ∈ opening := by
          rcases prefix_of_beforeGroup beside.1 with longer | dropped
          · exact longer.subset (List.mem_append_right fixed List.mem_cons_self)
          · rw [dropped, List.dropLast_concat] at shorter
            exact absurd shorter (Nat.lt_irrefl _)
        rw [plain.asWritten character member] at readLater
        have plainNext := plain.push (.flat (.set (CharSet.single character)))
        by_cases stillShorter : (fixed ++ [character]).length < opening.length
        · have spellsNext : Spells
              (exprs (progress.push (.flat (.set (CharSet.single character)))))
              (fixed ++ [character]) := Spells.one character spells
          exact inductionHypothesis plainNext spellsNext stillShorter enoughLater beside readLater
        · have some : opening ≠ [] := List.ne_nil_of_length_pos (Nat.zero_lt_of_lt shorter)
          have complete : fixed ++ [character] = opening := by
            refine eq_of_beforeGroup some beside.1 ?_
            rw [List.length_append, List.length_singleton] at stillShorter ⊢
            omega
          have spellsRun : SpellsRun
              (exprs (progress.push (.flat (.set (CharSet.single character))))) opening :=
            ⟨_, _, fixed, character, rfl, Expr.IsRun.one, spells, complete.symm⟩
          have derived := beside.1
          rw [complete] at derived
          exact settlesOn_of_spellsRun some plainNext spellsRun enoughLater derived readLater
      | anchor assertion =>
        have spellsNext : Spells (exprs (progress.push (.flat (.look assertion)))) fixed :=
          Spells.nothing trivial spells
        exact inductionHypothesis (plain.push _) spellsNext shorter enoughLater beside readLater
      | plus short done =>
        obtain ⟨last, before, greedy, same, sameNext, plainNext⟩ := repeatLast_plus done
        rw [same] at spells
        have spellsNext := spells.repeated short greedy
        rw [← sameNext] at spellsNext
        exact inductionHypothesis (plainNext plain) spellsNext shorter enoughLater beside readLater

/-- Where parts that spell the delimiter have settled, an expression without alternatives at its top
leads on only from text that holds the delimiter. -/
theorem SettlesOn.infix_of_leads (settles : SettlesOn opening final) (closed : final.groups = [])
    (single : final.level.part.expr.isAlternative = false) {start stop : Cursor}
    (leads : (Node.ofExpr final.level.part.expr 0).1.Leads start stop) :
    opening <:+: start.rest := by
  obtain ⟨kept, spells, settled⟩ := settles
  obtain ⟨others, same⟩ := settled.expr_eq closed single
  rw [same] at leads
  exact spells.infix_of_leads leads

end

/-! ### Flags before the body -/

section

variable {inline body : Text}

/-- A letter of a flag that a literal may have: it leaves blanks as they were, and case unless it is
the one for case. -/
theorem flag?_inline {flag : Char} (only : flag = 'i' ∨ flag = 'm' ∨ flag = 's') :
    ∃ change, flag? flag = some change ∧ ∀ flags : Flags,
      (change true flags).ignoreSpace = flags.ignoreSpace ∧
        (change true flags).unicode = flags.unicode ∧
        (flag ≠ 'i' → (change true flags).ignoreCase = flags.ignoreCase) := by
  rcases only with rfl | rfl | rfl
  · exact ⟨_, rfl, fun _ => ⟨rfl, rfl, fun other => absurd rfl other⟩⟩
  · exact ⟨_, rfl, fun _ => ⟨rfl, rfl, fun _ => rfl⟩⟩
  · exact ⟨_, rfl, fun _ => ⟨rfl, rfl, fun _ => rfl⟩⟩

/-- So do all of its letters together. -/
theorem readFlags_inline (only : ∀ flag ∈ inline, flag = 'i' ∨ flag = 'm' ∨ flag = 's')
    {seen letters : List Char} {flags after : Flags} {behind : Text}
    (read : readFlags true seen flags (inline ++ ')' :: body) = .ok (after, letters, behind)) :
    behind = ')' :: body ∧ after.ignoreSpace = flags.ignoreSpace ∧ after.unicode = flags.unicode ∧
      ('i' ∉ inline → after.ignoreCase = flags.ignoreCase) := by
  induction inline generalizing seen flags with
  | nil =>
    rw [List.nil_append, readFlags] at read
    split at read
    · split at read
      · cases read
      · cases read
        exact ⟨rfl, rfl, rfl, fun _ => rfl⟩
    · exact absurd rfl ‹_›
  | cons flag inline inductionHypothesis =>
    have first := only flag List.mem_cons_self
    have others := fun other member => only other (List.mem_cons_of_mem flag member)
    have letter : ¬ (flag == ':' || flag == ')') = true ∧ ¬ (flag == '-') = true := by
      rcases first with rfl | rfl | rfl
      · decide
      · decide
      · decide
    obtain ⟨change, named, changes⟩ := flag?_inline first
    rw [List.cons_append, readFlags, if_neg letter.1] at read
    split at read
    · cases read
    · rw [if_neg letter.2, named] at read
      obtain ⟨blanks, unicode, caseMatters⟩ := changes flags
      obtain ⟨rest, blanksLater, unicodeLater, caseMattersLater⟩ := inductionHypothesis others read
      refine ⟨rest, blanksLater.trans blanks, unicodeLater.trans unicode, fun absent => ?_⟩
      rw [List.mem_cons, not_or] at absent
      exact (caseMattersLater absent.2).trans (caseMatters (Ne.symm absent.1))

/-- A group of flags is a directive, and the flags hold behind it. -/
theorem readPiece_inline (some : inline ≠ [])
    (only : ∀ flag ∈ inline, flag = 'i' ∨ flag = 'm' ∨ flag = 's') {progress : Progress}
    {behind : Text}
    (piece : readPiece {} '(' ('?' :: (inline ++ ')' :: body)) = .ok (progress, behind)) :
    ∃ flags letters,
      readFlags true [] {} (inline ++ ')' :: body) = .ok (flags, letters, ')' :: body) ∧
        behind = body ∧
        progress = { Progress.push {} { expr := .empty, repeatable := false } with flags } := by
  obtain ⟨flag, others, rfl⟩ := List.exists_cons_of_ne_nil some
  have known := only flag List.mem_cons_self
  rcases known with rfl | rfl | rfl
  all_goals
    obtain ⟨⟨flags, letters, rest⟩, letterRead, flagged⟩ :=
      @ok_of_bind _ _ _ (readFlags true [] {} _) _ _ piece
    obtain ⟨rfl, _⟩ := readFlags_inline only letterRead
    dsimp only at flagged
    by_cases none : letters.isEmpty = true
    · rw [if_pos none] at flagged
      cases flagged
    · rw [if_neg none] at flagged
      cases flagged
      exact ⟨flags, letters, letterRead, rfl, rfl⟩

/-- The flags before a body are a part that takes no text. -/
theorem readPieces_inline (some : inline ≠ [])
    (only : ∀ flag ∈ inline, flag = 'i' ∨ flag = 'm' ∨ flag = 's') {opening : Text}
    (caseless : 'i' ∈ inline → ∀ character ∈ opening, IsCaseless character) {fuel : Nat}
    {final : Progress}
    (read : readPieces (fuel + 1) {} (['(', '?'] ++ inline ++ ')' :: body) = .ok final) :
    ∃ progress, IsPlain opening progress ∧ exprs progress = [.empty] ∧
      readPieces fuel progress body = .ok final := by
  obtain ⟨⟨progress, behind⟩, piece, readLater⟩ := ok_of_bind read
  obtain ⟨flags, letters, letterRead, rfl, rfl⟩ := readPiece_inline some only piece
  obtain ⟨_, blanksCount, unicode, caseMatters⟩ := readFlags_inline only letterRead
  have asWritten : ∀ character ∈ opening,
      flags.literal character = .set (CharSet.single character) := by
    intro character member
    by_cases folds : 'i' ∈ inline
    · exact literal_of_isCaseless (caseless folds character member) unicode
    · rw [Flags.literal, Flags.fold, caseMatters folds]
      rfl
  exact ⟨_, ⟨rfl, blanksCount, asWritten⟩, rfl, readLater⟩

end

end Delimiters

/-! ### Patterns that begin as they are written -/

namespace Pattern

open Regex Delimiters Unicode.Folding

/-- The opening delimiter was read off the body, before its first group; the expression means by it
what the delimiter says, and has no alternatives at its top. -/
structure OpensAsWritten (pattern : Pattern) (body : Text) : Prop where
  derived : (beforeGroup false [] (atoms body)).map Prod.fst = some pattern.opening
  spelled : spellsOpening pattern.opening body.length [] body = true
  single : (Regex.read pattern.regex.source).toOption.any Expr.isAlternative = false

instance (pattern : Pattern) (body : Text) : Decidable (pattern.OpensAsWritten body) :=
  decidable_of_iff
    ((beforeGroup false [] (atoms body)).map Prod.fst = some pattern.opening ∧
      spellsOpening pattern.opening body.length [] body = true ∧
      (Regex.read pattern.regex.source).toOption.any Expr.isAlternative = false)
    ⟨fun ⟨derived, spelled, single⟩ => ⟨derived, spelled, single⟩,
      fun opens => ⟨opens.derived, opens.spelled, opens.single⟩⟩

/-- The pattern was made of two delimiters, or of an expression that begins with its opening
delimiter as it is written; if case is folded, the delimiter has none. -/
inductive BeginsFixed (pattern : Pattern) : Prop
  | delimited {opening closing : Text} (made : ofDelimiters opening closing = .ok pattern)
  | source {source : Text} (made : ofSource source = .ok pattern)
      (opens : pattern.OpensAsWritten source)
  | parsed {source : Text} (made : parse source = .ok pattern)
      (caseless : 'i' ∈ (splitLiteral source).2 →
        ∀ character ∈ pattern.opening, IsCaseless character)
      (opens : pattern.OpensAsWritten (splitLiteral source).1)

variable {pattern : Pattern}

theorem withDerived_ok {regex : Regex} {body : Text} (made : withDerived regex body = .ok pattern) :
    pattern.opening = (derive body).1 ∧ pattern.regex = regex := by
  unfold withDerived at made
  split at made
  · cases made
  · cases made
    exact ⟨rfl, rfl⟩

theorem orDefault_ne_nil {fallback : Text} (filled : fallback ≠ []) (fixed : Option Text) :
    orDefault fallback fixed ≠ [] := by
  rcases fixed with _ | _ | ⟨head, rest⟩
  · exact filled
  · exact filled
  · exact List.cons_ne_nil _ _

/-- Delimiters that are read off a source are not empty. -/
theorem derive_ne_nil (body : Text) : (derive body).1 ≠ [] ∧ (derive body).2 ≠ [] := by
  unfold derive
  split
  · exact ⟨List.cons_ne_nil _ _, List.cons_ne_nil _ _⟩
  · exact ⟨orDefault_ne_nil (List.cons_ne_nil _ _) _, orDefault_ne_nil (List.cons_ne_nil _ _) _⟩

theorem isPlain_start (opening : Text) : IsPlain opening {} :=
  ⟨rfl, rfl, fun _ _ => rfl⟩

/-- What the body of a pattern reads as when nothing before it takes text. -/
theorem OpensAsWritten.settlesOn {body : Text} (opens : pattern.OpensAsWritten body)
    (some : pattern.opening ≠ []) {progress final : Progress}
    (plain : IsPlain pattern.opening progress) (spells : Spells (exprs progress) []) {fuel : Nat}
    (enough : body.length ≤ fuel) (read : readPieces fuel progress body = .ok final) :
    SettlesOn pattern.opening final := by
  obtain ⟨⟨_, others⟩, derived, rfl⟩ := Option.map_eq_some_iff.mp opens.derived
  exact settlesOn_of_spells plain spells (List.length_pos_iff.mpr some) enough
    ⟨derived, opens.spelled⟩ read

theorem mem_matchingFlags {flags : Text} {flag : Char} (member : flag ∈ matchingFlags flags) :
    flag ∈ flags ∧ (flag = 'i' ∨ flag = 'm' ∨ flag = 's') := by
  obtain ⟨among, matching⟩ := List.mem_filter.mp member
  rw [Bool.or_eq_true, Bool.or_eq_true, beq_iff_eq, beq_iff_eq, beq_iff_eq, or_assoc] at matching
  exact ⟨among, matching⟩

/-- What the body of a pattern reads as behind the flags of a literal. -/
theorem OpensAsWritten.settlesOn_flagged {body flags : Text} (opens : pattern.OpensAsWritten body)
    (some : pattern.opening ≠ []) (filled : matchingFlags flags ≠ [])
    (caseless : 'i' ∈ flags → ∀ character ∈ pattern.opening, IsCaseless character)
    {final : Progress}
    (read : readPieces (['(', '?'] ++ matchingFlags flags ++ ')' :: body).length {}
      (['(', '?'] ++ matchingFlags flags ++ ')' :: body) = .ok final) :
    SettlesOn pattern.opening final := by
  have length : (['(', '?'] ++ matchingFlags flags ++ ')' :: body).length =
      (matchingFlags flags).length + body.length + 2 + 1 := by
    simp only [List.length_append, List.length_cons, List.length_nil]
    omega
  rw [length] at read
  obtain ⟨progress, plain, start, readBody⟩ := readPieces_inline filled
    (fun _ member => (mem_matchingFlags member).2)
    (fun folds => caseless (mem_matchingFlags folds).1) read
  have spells : Spells (exprs progress) [] := by
    rw [start]
    exact Spells.nothing trivial Spells.nil
  exact opens.settlesOn some plain spells (by omega) readBody

/-- An expression that begins with the opening delimiter matches only in text that holds it. -/
theorem OpensAsWritten.infix_of_cut {body source : Text} (opens : pattern.OpensAsWritten body)
    (compiled : Regex.compile source = .ok pattern.regex)
    (settles : ∀ final, readPieces source.length {} source = .ok final →
      SettlesOn pattern.opening final) {text : Text}
    (cut : (pattern.regex.cut text).pieces ≠ []) : pattern.opening <:+: text := by
  obtain ⟨sameSource, final, pieces, closed, parsed, program⟩ := readPieces_of_compile compiled
  obtain ⟨piece, member⟩ := List.exists_mem_of_ne_nil _ cut
  obtain ⟨start, stop, leads, ends, _⟩ := leadsOver_of_mem_cut member
  have single : final.level.part.expr.isAlternative = false := by
    have single := opens.single
    rw [sameSource, parsed] at single
    exact single
  rw [program] at leads
  exact ((settles final pieces).infix_of_leads closed single leads).trans ends.isInfix

/-- A pattern that begins as it is written matches only in text that holds its opening
delimiter. -/
theorem BeginsFixed.infix_of_cut (begins : pattern.BeginsFixed) {text : Text}
    (cut : (pattern.regex.cut text).pieces ≠ []) : pattern.opening <:+: text := by
  cases begins with
  | delimited made =>
    obtain ⟨_, _, rfl, rfl, _⟩ := ofDelimiters_ok made
    by_contra absent
    rw [cut_of_absent made absent] at cut
    exact cut rfl
  | @source body made opens =>
    unfold ofSource at made
    split at made
    · rename_i regex compiled
      obtain ⟨sameOpening, rfl⟩ := withDerived_ok made
      have some : pattern.opening ≠ [] := sameOpening ▸ (derive_ne_nil body).1
      exact opens.infix_of_cut compiled (fun final read =>
        opens.settlesOn some (isPlain_start _) Spells.nil (Nat.le_refl _) read) cut
    · cases made
  | @parsed source made caseless opens =>
    unfold parse at made
    dsimp only at made
    split at made
    · rename_i regex compiled
      obtain ⟨sameOpening, rfl⟩ := withDerived_ok made
      have some : pattern.opening ≠ [] := sameOpening ▸ (derive_ne_nil _).1
      refine opens.infix_of_cut compiled (fun final read => ?_) cut
      split at read
      · exact opens.settlesOn some (isPlain_start _) Spells.nil (Nat.le_refl _) read
      · rename_i filled
        rw [List.isEmpty_iff] at filled
        exact opens.settlesOn_flagged some filled caseless read
    · cases made

/-- Whether a source has a pattern with a given property. -/
instance decidableExistsParse {source : Text} {holds : Pattern → Prop} [DecidablePred holds] :
    Decidable (∃ pattern, parse source = .ok pattern ∧ holds pattern) :=
  match made : parse source with
  | .error _ => .isFalse fun ⟨_, same, _⟩ => by cases same
  | .ok pattern =>
    if found : holds pattern then .isTrue ⟨pattern, rfl, found⟩
    else .isFalse fun ⟨_, same, holdsOther⟩ => by
      cases same
      exact found holdsOther

end Pattern

end Stencil
