/-
This file proves what the source made of two delimiters reads as. Escaped text reads as the
characters it was made of, one after another, outside a class and inside one: outside each of them
becomes a part that matches it, inside it becomes an item of the class. So the source between any
two delimiters that are not empty reads as the opening one, a group around a run of characters that
occur in neither, and the closing one; it is always a regular expression, with one group.
-/

import Stencil.Pattern.Basic

namespace Stencil.Regex

/-! ### Escaped characters -/

/-- How a character stands in escaped text. -/
theorem escapeText_cons (character : Char) (text : Text) :
    escapeText (character :: text) =
      (if isMeta character then ['\\', character] else [character]) ++ escapeText text :=
  List.flatMap_cons

/-- After a backslash, a character that means something reads as itself. -/
theorem readEscape_of_isMeta (flags : Flags) {character : Char} (meaning : isMeta character = true)
    (rest : Text) :
    readEscape flags (character :: rest) = .ok (.literal character false, rest) := by
  have member : character ∈ ['\\', '.', '+', '*', '?', '(', ')', '|', '[', ']', '{', '}', '^', '$',
      '#', '&', '-', '~'] := List.contains_iff_mem.mp meaning
  simp only [List.mem_cons, List.not_mem_nil, or_false] at member
  rcases member with rfl | rfl | rfl | rfl | rfl | rfl | rfl | rfl | rfl | rfl | rfl | rfl | rfl |
    rfl | rfl | rfl | rfl | rfl <;> rfl

/-- A character that means nothing is none of those that do. -/
theorem ne_of_not_isMeta {character other : Char} (plain : ¬ isMeta character = true)
    (meaning : isMeta other = true) : character ≠ other := by
  rintro rfl
  exact plain meaning

/-- Escaped text starts with a backslash, or with a character that means nothing. -/
theorem escapeText_head (character : Char) (text after : Text) :
    ∃ head rest, escapeText (character :: text) ++ after = head :: rest ∧
      ∀ other, isMeta other = true → other ≠ '\\' → head ≠ other := by
  rw [escapeText_cons]
  by_cases meaning : isMeta character = true
  · rw [if_pos meaning]
    exact ⟨'\\', _, rfl, fun _ _ different => different.symm⟩
  · rw [if_neg meaning]
    exact ⟨character, _, rfl, fun _ means _ => ne_of_not_isMeta meaning means⟩

theorem length_le_length_escapeText (text : Text) : text.length ≤ (escapeText text).length := by
  induction text with
  | nil => exact Nat.le_refl _
  | cons character text inductionHypothesis =>
    rw [escapeText_cons, List.length_append, List.length_cons]
    split
    · simp only [List.length_cons, List.length_nil]
      omega
    · simp only [List.length_cons, List.length_nil]
      omega

/-! ### Escaped text outside classes -/

namespace Progress

/-- The parts of a text are read, one for each character. -/
def pushText (progress : Progress) (text : Text) : Progress :=
  text.foldl (fun progress character => progress.push (.flat (progress.flags.literal character)))
    progress

theorem pushText_eq (progress : Progress) (text : Text) :
    progress.pushText text =
      { progress with
        level := { progress.level with
          parts :=
            (text.map fun character => Part.flat (progress.flags.literal character)).reverse ++
              progress.level.parts } } := by
  induction text generalizing progress with
  | nil => rfl
  | cons character text inductionHypothesis =>
    show (progress.push _).pushText text = _
    rw [inductionHypothesis, List.map_cons, List.reverse_cons, List.append_assoc]
    rfl

end Progress

/-- Where blanks count, none are skipped. -/
theorem skip_of_blanksCount {flags : Flags} (blanksCount : flags.ignoreSpace = false)
    (text : Text) : flags.skip text = text := by
  rw [Flags.skip, if_neg (Bool.eq_false_iff.mp blanksCount)]

theorem readPiece_plain (progress : Progress) {character : Char}
    (plain : ¬ isMeta character = true) (rest : Text) :
    readPiece progress character rest =
      .ok (progress.push (.flat (progress.flags.literal character)), rest) := by
  unfold readPiece
  split
  all_goals first
    | exact absurd rfl plain
    | rfl

theorem readPiece_escaped (progress : Progress) (unicode : progress.flags.unicode = true)
    {character : Char} (meaning : isMeta character = true) (rest : Text) :
    readPiece progress '\\' (character :: rest) =
      .ok (progress.push (.flat (progress.flags.literal character)), rest) := by
  have literal : (Primitive.literal character false).expr progress.flags =
      .ok (progress.flags.literal character) := by
    rw [Primitive.expr, unicode]
    rfl
  show (readEscape progress.flags (character :: rest) >>= _) = _
  rw [readEscape_of_isMeta progress.flags meaning]
  show ((Primitive.literal character false).expr progress.flags >>= _) = _
  rw [literal]
  rfl

/-- Escaped text reads as its characters. -/
theorem readPieces_escapeText (text rest : Text) (fuel : Nat) {progress : Progress}
    (unicode : progress.flags.unicode = true) (blanksCount : progress.flags.ignoreSpace = false) :
    readPieces (text.length + fuel) progress (escapeText text ++ rest) =
      readPieces fuel (progress.pushText text) rest := by
  induction text generalizing progress with
  | nil =>
    rw [List.length_nil, Nat.zero_add]
    rfl
  | cons character text inductionHypothesis =>
    have next : readPieces (text.length + 1 + fuel) progress
          (escapeText (character :: text) ++ rest) =
        readPieces (text.length + fuel)
          (progress.push (.flat (progress.flags.literal character))) (escapeText text ++ rest) := by
      rw [Nat.add_right_comm, readPieces, skip_of_blanksCount blanksCount, escapeText_cons]
      by_cases meaning : isMeta character = true
      · rw [if_pos meaning]
        show (readPiece progress '\\' (character :: (escapeText text ++ rest)) >>= _) = _
        rw [readPiece_escaped progress unicode meaning]
        rfl
      · rw [if_neg meaning]
        show (readPiece progress character (escapeText text ++ rest) >>= _) = _
        rw [readPiece_plain progress meaning]
        rfl
    rw [List.length_cons, next]
    exact inductionHypothesis unicode blanksCount

/-! ### Escaped text inside classes -/

namespace OpenClass

/-- The items of a text are gathered, one for each character. -/
def addText (opened : OpenClass) (text : Text) : OpenClass :=
  text.foldl (fun opened character => opened.add (.single character) 0) opened

theorem addText_cons (opened : OpenClass) (character : Char) (text : Text) :
    opened.addText (character :: text) = (opened.add (.single character) 0).addText text := rfl

theorem negated_addText (opened : OpenClass) (text : Text) :
    (opened.addText text).negated = opened.negated := by
  induction text generalizing opened with
  | nil => rfl
  | cons character text inductionHypothesis =>
    rw [addText_cons, inductionHypothesis]
    rfl

theorem pending_addText (opened : OpenClass) (text : Text) :
    (opened.addText text).pending = opened.pending := by
  induction text generalizing opened with
  | nil => rfl
  | cons character text inductionHypothesis =>
    rw [addText_cons, inductionHypothesis]
    rfl

theorem members_addText (opened : OpenClass) (text : Text) (candidate : Char) :
    (opened.addText text).gathered.members candidate =
      (opened.gathered.members candidate || text.contains candidate) := by
  induction text generalizing opened with
  | nil => exact (Bool.or_false _).symm
  | cons character text inductionHypothesis =>
    rw [addText_cons, inductionHypothesis, List.contains_cons, ← Bool.or_assoc]
    rfl

theorem depth_addText (opened : OpenClass) (text : Text) :
    (opened.addText text).gathered.depth = opened.gathered.depth := by
  induction text generalizing opened with
  | nil => rfl
  | cons character text inductionHypothesis =>
    rw [addText_cons, inductionHypothesis]
    exact Nat.max_zero _

/-- A negated class of the characters of a text is the class of all others. -/
theorem close_addText (text : Text) :
    ∃ depth, depth ≤ 2 ∧ (OpenClass.addText { negated := true } text).close {} =
      .ok (fun candidate => !text.contains candidate, depth) := by
  have height : (OpenClass.addText { negated := true } text).gathered.height ≤ 1 := by
    rw [Gathered.height, depth_addText]
    split <;> decide
  have members : (OpenClass.addText { negated := true } text).gathered.members =
      fun candidate => text.contains candidate := by
    funext candidate
    rw [members_addText]
    exact Bool.false_or _
  refine ⟨_, Nat.succ_le_succ height, ?_⟩
  rw [close, operand, pending_addText, negated_addText]
  dsimp only
  rw [members]
  rfl

end OpenClass

/-- What stands between a class and its closing bracket starts with no hyphen. -/
theorem escapeText_bracket_cons (text after : Text) :
    ∃ head rest, escapeText text ++ ']' :: after = head :: rest ∧ head ≠ '-' := by
  cases text with
  | nil => exact ⟨']', after, rfl, by decide⟩
  | cons character text =>
    obtain ⟨head, rest, same, plain⟩ := escapeText_head character text (']' :: after)
    exact ⟨head, rest, same, plain '-' (by decide) (by decide)⟩

/-- Before anything but a hyphen, a character of a class is an item of its own. -/
theorem readClassItem_of_literal {text rest : Text} {character head : Char}
    (read : readClassPrimitive {} text = .ok (.literal character false, head :: rest))
    (noHyphen : head ≠ '-') :
    readClassItem {} text = .ok (.single character, head :: rest) := by
  rw [readClassItem, read]
  show (match head :: rest with
    | [] => _
    | '-' :: rest => _
    | text => _ : Except SyntaxError (CharSet × Text)) = _
  split
  · contradiction
  · rename_i same
    exact absurd (List.cons.inj same).1 noHyphen
  · rfl

/-- Text that starts neither with a bracket nor with an operator starts with an item. -/
theorem readClassFrom_of_item {opened : OpenClass} {outer : List OpenClass} {head : Char}
    {rest after : Text} {members : CharSet} (fuel : Nat)
    (ordinary : head ≠ '[' ∧ head ≠ ']' ∧ head ≠ '&' ∧ head ≠ '-' ∧ head ≠ '~')
    (item : readClassItem {} (head :: rest) = .ok (members, after)) :
    readClassFrom {} (fuel + 1) opened outer (head :: rest) =
      readClassFrom {} fuel (opened.add members 0) outer after := by
  obtain ⟨notOpening, notClosing, noConjunction, noHyphen, noTilde⟩ := ordinary
  have skip : Flags.skip {} (head :: rest) = head :: rest := rfl
  rw [readClassFrom, skip]
  split
  · contradiction
  · rename_i same
    exact absurd (List.cons.inj same).1 notOpening
  · rename_i same
    exact absurd (List.cons.inj same).1 notClosing
  · rename_i same
    exact absurd (List.cons.inj same).1 noConjunction
  · rename_i same
    exact absurd (List.cons.inj same).1 noHyphen
  · rename_i same
    exact absurd (List.cons.inj same).1 noTilde
  · rw [item]
    rfl

/-- Inside a class, escaped text reads as its characters. -/
theorem readClassFrom_escapeText (text after : Text) (fuel : Nat) (opened : OpenClass)
    (outer : List OpenClass) :
    readClassFrom {} (text.length + fuel) opened outer (escapeText text ++ ']' :: after) =
      readClassFrom {} fuel (opened.addText text) outer (']' :: after) := by
  induction text generalizing opened with
  | nil =>
    rw [List.length_nil, Nat.zero_add]
    rfl
  | cons character text inductionHypothesis =>
    obtain ⟨head, rest, next, noHyphen⟩ := escapeText_bracket_cons text after
    rw [List.length_cons, Nat.add_right_comm, escapeText_cons, List.append_assoc]
    by_cases meaning : isMeta character = true
    · have read : readClassPrimitive {} ('\\' :: character :: (escapeText text ++ ']' :: after)) =
          .ok (.literal character false, head :: rest) := by
        rw [next]
        exact readEscape_of_isMeta {} meaning _
      rw [if_pos meaning]
      refine (readClassFrom_of_item _ (by decide)
        (readClassItem_of_literal read noHyphen)).trans ?_
      rw [← next]
      exact inductionHypothesis _
    · have read : readClassPrimitive {} (character :: (escapeText text ++ ']' :: after)) =
          .ok (.literal character false, head :: rest) := by
        rw [next, readClassPrimitive]
        rintro rfl
        exact meaning (by decide)
      have ordinary : character ≠ '[' ∧ character ≠ ']' ∧ character ≠ '&' ∧ character ≠ '-' ∧
          character ≠ '~' := by
        refine ⟨?_, ?_, ?_, ?_, ?_⟩
        all_goals exact ne_of_not_isMeta meaning (by decide)
      rw [if_neg meaning]
      refine (readClassFrom_of_item _ ordinary (readClassItem_of_literal read noHyphen)).trans ?_
      rw [← next]
      exact inductionHypothesis _

/-- The class of all characters but those of a text. -/
theorem readClass_escapeText {text : Text} (some : text ≠ []) (after : Text) :
    ∃ depth, depth ≤ 2 ∧ readClass {} ('^' :: (escapeText text ++ ']' :: after)) =
      .ok (fun candidate => !text.contains candidate, depth, after) := by
  obtain ⟨depth, shallow, closed⟩ := OpenClass.close_addText text
  refine ⟨depth, shallow, ?_⟩
  have opened : openClass {} ('^' :: (escapeText text ++ ']' :: after)) =
      ({ negated := true }, escapeText text ++ ']' :: after) := by
    obtain ⟨character, others, rfl⟩ := List.exists_cons_of_ne_nil some
    obtain ⟨head, rest, same, plain⟩ := escapeText_head character others (']' :: after)
    have noHyphen := plain '-' (by decide) (by decide)
    have noBracket := plain ']' (by decide) (by decide)
    have hyphens : readLeadingHyphens {} (head :: rest).length { negated := true } (head :: rest) =
        ({ negated := true }, head :: rest) := by
      rw [List.length_cons, readLeadingHyphens]
      intro tail same
      exact noHyphen (List.cons.inj same).1
    have skip : ∀ text, Flags.skip {} text = text := fun _ => rfl
    rw [same]
    simp only [openClass, skip]
    rw [hyphens]
    refine (if_pos rfl).trans ?_
    dsimp only
    split
    · rename_i same
      exact absurd (List.cons.inj same).1 noBracket
    · rfl
  have fuel : (escapeText text ++ ']' :: after).length + 1 =
      text.length + ((escapeText text).length - text.length + after.length + 1 + 1) := by
    have longer := length_le_length_escapeText text
    rw [List.length_append, List.length_cons]
    omega
  rw [readClass, opened]
  dsimp only
  rw [fuel, readClassFrom_escapeText]
  show (OpenClass.close {} _ >>= _) = _
  rw [closed]
  rfl

end Stencil.Regex

namespace Stencil.Pattern

open Regex

/-! ### The source between two delimiters -/

/-- The set of the characters that may stand in a path: those of neither delimiter. -/
def pathSet (opening closing : Text) : CharSet :=
  fun candidate => !(opening ++ closing).contains candidate

/-- The expression that matches one fixed character. -/
def fixed (character : Char) : Expr :=
  .set (.single character)

/-- The expression of the group around a path. -/
def pathGroup (opening closing : Text) : Expr :=
  .group 1 (.repetition (.set (pathSet opening closing)) 1 none true)

/-- The expression of a placeholder: the opening delimiter, a path, the closing delimiter. -/
def placeholderExpr (opening closing : Text) : Expr :=
  Expr.cats (opening.map fixed ++ pathGroup opening closing :: closing.map fixed)

theorem mem_distinct (text : Text) (character : Char) :
    character ∈ distinct text ↔ character ∈ text := by
  have general : ∀ kept : Text, character ∈ text.foldl
      (fun (kept : Text) character => if character ∈ kept then kept else kept ++ [character])
      kept ↔ character ∈ kept ∨ character ∈ text := by
    induction text with
    | nil =>
      intro kept
      simp only [List.foldl_nil, List.not_mem_nil, or_false]
    | cons head text inductionHypothesis =>
      intro kept
      rw [List.foldl_cons, inductionHypothesis, List.mem_cons]
      split
      · rename_i known
        constructor
        · rintro (old | later)
          · exact Or.inl old
          · exact Or.inr (Or.inr later)
        · rintro (old | rfl | later)
          · exact Or.inl old
          · exact Or.inl known
          · exact Or.inr later
      · rw [List.mem_append, List.mem_singleton, or_assoc]
  have whole := general []
  simp only [List.not_mem_nil, false_or] at whole
  exact whole

theorem contains_distinct (text : Text) (character : Char) :
    (distinct text).contains character = text.contains character := by
  rw [Bool.eq_iff_iff, List.contains_iff_mem, List.contains_iff_mem, mem_distinct]

/-- The group in the middle of the source. -/
theorem readPieces_group {text : Text} (some : text ≠ []) (after : Text) (fuel : Nat)
    (progress : Progress) (flags : progress.flags = {}) :
    ∃ depth, depth ≤ 4 ∧
      readPieces (fuel + 4) progress
          ('(' :: '[' :: '^' :: (escapeText text ++ ']' :: '+' :: ')' :: after)) =
        readPieces fuel
          (Progress.push { progress with captures := progress.captures + 1 }
            { expr := .group (progress.captures + 1)
                (.repetition (.set fun candidate => !text.contains candidate) 1 none true)
              depth := depth })
          after := by
  obtain ⟨depth, shallow, classRead⟩ := readClass_escapeText some ('+' :: ')' :: after)
  refine ⟨depth + 2, Nat.add_le_add_right shallow 2, ?_⟩
  obtain ⟨_, level, groups, captures, names⟩ := progress
  cases flags
  show (readClass {} ('^' :: (escapeText text ++ ']' :: '+' :: ')' :: after)) >>= _) >>= _ = _
  rw [classRead]
  rfl

/-- The parts of a placeholder's source, in order. -/
def placeholderParts (opening closing : Text) (group : Part) : List Part :=
  opening.map (fun character => Part.flat (fixed character)) ++
    group :: closing.map fun character => Part.flat (fixed character)

theorem two_le_length_placeholderParts {opening : Text} (some : opening ≠ []) (closing : Text)
    (group : Part) : 2 ≤ (placeholderParts opening closing group).reverse.length := by
  have positive := List.length_pos_iff.mpr some
  simp only [placeholderParts, List.length_reverse, List.length_append, List.length_map,
    List.length_cons]
  omega

theorem concatenate_of_two {reversed : List Part} (two : 2 ≤ reversed.length) :
    Part.concatenate reversed =
      { expr := Expr.cats (reversed.reverse.map (·.expr))
        depth := (reversed.map (·.depth)).foldl max 0 + 1 } := by
  cases reversed with
  | nil => contradiction
  | cons last others =>
    cases others with
    | nil => contradiction
    | cons _ _ => rfl

theorem foldl_max_le {depths : List Nat} {bound start : Nat} (first : start ≤ bound)
    (each : ∀ depth ∈ depths, depth ≤ bound) : depths.foldl max start ≤ bound := by
  induction depths generalizing start with
  | nil => exact first
  | cons depth depths inductionHypothesis =>
    rw [List.foldl_cons]
    exact inductionHypothesis (Nat.max_le.mpr ⟨first, each depth List.mem_cons_self⟩)
      fun other member => each other (List.mem_cons_of_mem _ member)

theorem countedSize_cats {exprs : List Expr} (each : ∀ expr ∈ exprs, expr.countedSize = 0) :
    (Expr.cats exprs).countedSize = 0 := by
  induction exprs with
  | nil => rfl
  | cons expr exprs inductionHypothesis =>
    have first := each expr List.mem_cons_self
    have rest := inductionHypothesis fun other member => each other (List.mem_cons_of_mem _ member)
    cases exprs with
    | nil => exact first
    | cons second exprs =>
      rw [Expr.cats, Expr.countedSize, first, rest]
      · rfl
      · exact List.cons_ne_nil _ _

theorem distinct_append_ne_nil {opening : Text} (some : opening ≠ []) (closing : Text) :
    distinct (opening ++ closing) ≠ [] := by
  obtain ⟨head, rest, rfl⟩ := List.exists_cons_of_ne_nil some
  exact List.ne_nil_of_mem ((mem_distinct _ head).mpr List.mem_cons_self)

/-- The source, each stretch of it with all that comes behind. -/
theorem sourceOf_eq (opening closing : Text) :
    sourceOf opening closing = escapeText opening ++
      '(' :: '[' :: '^' :: (escapeText (distinct (opening ++ closing)) ++ ']' ::
        '+' :: ')' :: (escapeText closing ++ [])) := by
  simp only [sourceOf, List.append_assoc, List.cons_append, List.nil_append, List.append_nil]

/-- The source has room for its two delimiters and the four pieces of its group. -/
theorem length_sourceOf (opening closing : Text) :
    ∃ spare, (sourceOf opening closing).length =
      opening.length + (closing.length + spare + 4) := by
  have openingLonger := length_le_length_escapeText opening
  have closingLonger := length_le_length_escapeText closing
  refine ⟨(sourceOf opening closing).length - (opening.length + closing.length + 4), ?_⟩
  rw [sourceOf_eq]
  simp only [List.length_append, List.length_cons]
  omega

/-- The pieces of the source are those of the opening delimiter, the group, and those of the
closing delimiter. -/
theorem readPieces_sourceOf {opening : Text} (some : opening ≠ []) (closing : Text) :
    ∃ depth, depth ≤ 4 ∧
      readPieces (sourceOf opening closing).length {} (sourceOf opening closing) =
        .ok { captures := 1
              level := { parts := (placeholderParts opening closing
                { expr := pathGroup opening closing, depth := depth }).reverse } } := by
  have sameSet : (fun candidate => !(distinct (opening ++ closing)).contains candidate) =
      pathSet opening closing := by
    funext candidate
    rw [contains_distinct]
    rfl
  obtain ⟨spare, fuel⟩ := length_sourceOf opening closing
  obtain ⟨depth, shallow, groupRead⟩ := readPieces_group (distinct_append_ne_nil some closing)
    (escapeText closing ++ []) (closing.length + spare) (Progress.pushText {} opening)
    (by rw [Progress.pushText_eq])
  refine ⟨depth, shallow, ?_⟩
  have captures : (Progress.pushText {} opening).captures = 0 := by rw [Progress.pushText_eq]
  rw [sameSet, captures] at groupRead
  have parts (group : Part) :
      (closing.map fun character => Part.flat (Flags.literal {} character)).reverse ++
        group :: ((opening.map fun character => Part.flat (Flags.literal {} character)).reverse ++
          []) = (placeholderParts opening closing group).reverse := by
    simp only [placeholderParts, List.reverse_append, List.reverse_cons, List.append_assoc,
      List.append_nil, List.cons_append, List.nil_append]
    rfl
  rw [fuel, sourceOf_eq, readPieces_escapeText _ _ _ rfl rfl, groupRead, Progress.pushText_eq,
    readPieces_escapeText _ _ _ rfl rfl, Progress.pushText_eq, ← parts]
  cases spare with
  | zero => rfl
  | succ _ => rfl

/-- The parts of the source make one part: the expression of a placeholder. -/
theorem part_placeholderParts {opening : Text} (some : opening ≠ []) (closing : Text) {depth : Nat}
    (shallow : depth ≤ 4) :
    ∃ height, height ≤ 5 ∧
      Level.part { parts := (placeholderParts opening closing
          { expr := pathGroup opening closing, depth := depth }).reverse } =
        { expr := placeholderExpr opening closing, depth := height } := by
  have exprs : (placeholderParts opening closing
        { expr := pathGroup opening closing, depth := depth }).map (·.expr) =
      opening.map fixed ++ pathGroup opening closing :: closing.map fixed := by
    simp only [placeholderParts, List.map_append, List.map_cons, List.map_map]
    rfl
  have depths : ((placeholderParts opening closing
      { expr := pathGroup opening closing, depth := depth }).reverse.map (·.depth)).foldl max 0 ≤
        4 := by
    refine foldl_max_le (Nat.zero_le 4) fun other member => ?_
    simp only [placeholderParts, List.map_reverse, List.mem_reverse, List.map_append, List.map_map,
      List.map_cons, List.mem_append, List.mem_cons, List.mem_map] at member
    rcases member with ⟨_, _, rfl⟩ | rfl | ⟨_, _, rfl⟩
    · exact Nat.zero_le 4
    · exact shallow
    · exact Nat.zero_le 4
  refine ⟨_, Nat.succ_le_succ depths, ?_⟩
  show Part.concatenate _ = _
  rw [concatenate_of_two (two_le_length_placeholderParts some closing _), List.reverse_reverse,
    exprs]
  rfl

theorem countedSize_placeholderExpr (opening closing : Text) :
    (placeholderExpr opening closing).countedSize = 0 := by
  refine countedSize_cats fun expr member => ?_
  simp only [List.mem_append, List.mem_cons, List.mem_map] at member
  rcases member with ⟨_, _, rfl⟩ | rfl | ⟨_, _, rfl⟩
  · rfl
  · rfl
  · rfl

/-- The source between two delimiters reads as the expression of their placeholders. -/
theorem read_sourceOf {opening : Text} (some : opening ≠ []) (closing : Text) :
    Regex.read (sourceOf opening closing) = .ok (placeholderExpr opening closing) := by
  obtain ⟨depth, shallow, pieces⟩ := readPieces_sourceOf some closing
  obtain ⟨height, low, part⟩ := part_placeholderParts some closing shallow
  have shallowEnough : ¬ maxDepth < height := Nat.not_lt.mpr (Nat.le_trans low (by decide))
  have smallEnough : ¬ maxCountedSize < (placeholderExpr opening closing).countedSize := by
    rw [countedSize_placeholderExpr]
    exact Nat.not_lt_zero _
  generalize (placeholderParts opening closing
    { expr := pathGroup opening closing, depth := depth }).reverse = parts at pieces part
  unfold Regex.read
  rw [pieces]
  show (do
    if maxDepth < (Level.part { parts }).depth then throw SyntaxError.tooDeep
    if maxCountedSize < (Level.part { parts }).expr.countedSize then throw SyntaxError.tooLarge
    return (Level.part { parts }).expr) = _
  rw [part, if_neg shallowEnough, if_neg smallEnough]
  rfl

theorem compile_sourceOf {opening : Text} (some : opening ≠ []) (closing : Text) :
    Regex.compile (sourceOf opening closing) =
      .ok ⟨sourceOf opening closing, Program.ofExpr (placeholderExpr opening closing),
        (placeholderExpr opening closing).lastGroup⟩ := by
  rw [Regex.compile, read_sourceOf some]
  rfl

/-- Two delimiters that are not empty make a pattern. -/
theorem ofDelimiters_eq {opening closing : Text} (openingSome : opening ≠ [])
    (closingSome : closing ≠ []) :
    ofDelimiters opening closing =
      .ok ⟨opening, closing, sourceOf opening closing,
        Program.ofExpr (placeholderExpr opening closing),
        (placeholderExpr opening closing).lastGroup⟩ := by
  have both : ¬ (opening.isEmpty || closing.isEmpty) = true := by
    rw [Bool.or_eq_true, List.isEmpty_iff, List.isEmpty_iff]
    exact not_or.mpr ⟨openingSome, closingSome⟩
  rw [ofDelimiters, if_neg both, compile_sourceOf openingSome]

/-- The default pattern is the one of the default delimiters. -/
theorem ofDelimiters_default : ofDelimiters defaultOpening defaultClosing = .ok default := by
  have made := @ofDelimiters_eq defaultOpening defaultClosing (by decide) (by decide)
  rw [made, default]
  refine congrArg Except.ok ?_
  simp only [made]
  rfl

/-- What a pattern of two delimiters consists of. -/
theorem ofDelimiters_ok {opening closing : Text} {pattern : Pattern}
    (made : ofDelimiters opening closing = .ok pattern) :
    opening ≠ [] ∧ closing ≠ [] ∧ pattern.opening = opening ∧ pattern.closing = closing ∧
      pattern.regex.program = Program.ofExpr (placeholderExpr opening closing) := by
  by_cases openingSome : opening = []
  · rw [openingSome] at made
    cases made
  by_cases closingSome : closing = []
  · rw [closingSome, ofDelimiters, List.isEmpty_nil, Bool.or_true] at made
    cases made
  rw [ofDelimiters_eq openingSome closingSome] at made
  cases made
  exact ⟨openingSome, closingSome, rfl, rfl, rfl⟩

end Stencil.Pattern
