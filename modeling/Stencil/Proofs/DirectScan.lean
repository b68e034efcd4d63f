/-
This file proves that a pattern of two delimiters finds what a direct scan finds. The scan goes over
a text once: where the opening delimiter, a run of path characters and the closing delimiter stand,
it takes the whole as a placeholder, and elsewhere it takes one character.

The search goes through fixed text in one way only, so the delimiters are compared character by
character. The loop in between is greedy. It could leave the run of path characters early, but then
a path character is next, and the closing delimiter starts with none. So of all the ways out of the
loop only the one at the end of the run can lead on; and since every way out is at a position of its
own, the search never gives a way up for having passed it.
-/

import Stencil.Proofs.PatternSource

namespace Stencil.Regex

/-! ### Positions -/

namespace Cursor

/-- The position behind a text that stands next. -/
def past : Cursor → Text → Cursor
  | cursor, [] => cursor
  | cursor, character :: text => past (cursor.advance character cursor.rest.tail) text

theorem past_append (cursor : Cursor) (first second : Text) :
    cursor.past (first ++ second) = (cursor.past first).past second := by
  induction first generalizing cursor with
  | nil => rfl
  | cons character first inductionHypothesis => exact inductionHypothesis _

theorem position_past (cursor : Cursor) (text : Text) :
    (cursor.past text).position = cursor.position + text.length := by
  induction text generalizing cursor with
  | nil => rfl
  | cons character text inductionHypothesis =>
    rw [past, inductionHypothesis, List.length_cons]
    show cursor.position + 1 + text.length = _
    omega

theorem rest_past (cursor : Cursor) (text : Text) :
    (cursor.past text).rest = cursor.rest.drop text.length := by
  induction text generalizing cursor with
  | nil => rfl
  | cons character text inductionHypothesis =>
    rw [past, inductionHypothesis, List.length_cons]
    exact List.drop_tail

end Cursor

/-! ### The way through fixed text -/

/-- The way through a text that must stand next. -/
def Way.text (text : Text) (way : Way) : Way := fun cursor group passed =>
  if text.isPrefixOf cursor.rest then way (cursor.past text) group passed else (none, passed)

section

variable (places fuel : Nat)

theorem through_cats_cons (expr : Expr) (rest : List Expr) (next : Nat) (way : Way) :
    (Node.ofExpr (Expr.cats (expr :: rest)) next).1.through places fuel way =
      (Node.ofExpr expr next).1.through places fuel
        ((Node.ofExpr (Expr.cats rest) (Node.ofExpr expr next).2).1.through places fuel way) := by
  cases rest with
  | nil => rfl
  | cons second rest => rfl

theorem places_cats_cons (expr : Expr) (rest : List Expr) (next : Nat) :
    (Node.ofExpr (Expr.cats (expr :: rest)) next).2 =
      (Node.ofExpr (Expr.cats rest) (Node.ofExpr expr next).2).2 := by
  cases rest with
  | nil => rfl
  | cons second rest => rfl

theorem through_fixed (text : Text) (rest : List Expr) (next : Nat) (way : Way) :
    (Node.ofExpr (Expr.cats (text.map Pattern.fixed ++ rest)) next).1.through places fuel way =
      Way.text text ((Node.ofExpr (Expr.cats rest) next).1.through places fuel way) := by
  induction text with
  | nil => rfl
  | cons character text inductionHypothesis =>
    rw [List.map_cons, List.cons_append, through_cats_cons]
    funext cursor group passed
    obtain ⟨before, rest, position⟩ := cursor
    cases rest with
    | nil => rfl
    | cons head rest =>
      show (if (head == character) = true then
        (Node.ofExpr (Expr.cats (text.map Pattern.fixed ++ _)) next).1.through places fuel way
          ⟨some head, rest, position + 1⟩ group passed else _) = _
      rw [inductionHypothesis, Way.text, Way.text, List.isPrefixOf_cons_cons]
      by_cases same : head = character
      · subst same
        rw [beq_self_eq_true, if_pos rfl, Bool.true_and]
        rfl
      · have different : (head == character) = false := beq_false_of_ne same
        have differentToo : (character == head) = false := beq_false_of_ne (Ne.symm same)
        rw [different, differentToo, if_neg Bool.false_ne_true, Bool.false_and,
          if_neg Bool.false_ne_true]

theorem places_fixed (text : Text) (rest : List Expr) (next : Nat) :
    (Node.ofExpr (Expr.cats (text.map Pattern.fixed ++ rest)) next).2 =
      (Node.ofExpr (Expr.cats rest) next).2 := by
  induction text with
  | nil => rfl
  | cons character text inductionHypothesis =>
    rw [List.map_cons, List.cons_append, places_cats_cons]
    exact inductionHypothesis

end

/-! ### The loop over path characters -/

theorem orElse_fst (first second : Way) (cursor : Cursor) (group : Option Text)
    (passed : Passed) :
    (Way.orElse first second cursor group passed).1 =
      (first cursor group passed).1.or
        (second cursor group (first cursor group passed).2).1 := by
  rw [Way.orElse]
  split
  · rename_i ended
    rw [ended]
    rfl
  · rename_i ended
    rw [ended]
    rfl

/-- A way past a place is open where the place has not been passed at the position or beyond. -/
theorem once_fst {way : Way} {cursor : Cursor} {group : Option Text} {passed : Passed}
    (unpassed : passed.testBit cursor.position = false) :
    Way.once 1 0 way cursor group passed = way cursor group (passed ||| 1 <<< cursor.position) := by
  rw [Way.once, Nat.mul_one, Nat.add_zero, unpassed, if_neg Bool.false_ne_true]

theorem testBit_passed {passed : Passed} {position later : Nat}
    (unpassed : passed.testBit later = false) (after : position < later) :
    (passed ||| 1 <<< position).testBit later = false := by
  rw [Nat.testBit_or, unpassed, Bool.false_or, Nat.one_shiftLeft, Nat.testBit_two_pow_of_ne]
  omega

/-- The loop takes the whole run of members that stands next, and its way out goes on behind it.
Before a member no way out leads on. -/
theorem iterate_fst {members : CharSet} {out : Way} {onward : Cursor → Option Hit}
    (leads : ∀ cursor group passed, (out cursor group passed).1 = onward cursor)
    (blocked : ∀ cursor head rest, cursor.rest = head :: rest → members head = true →
      onward cursor = none)
    (places total entry : Nat) {fuel : Nat} {cursor : Cursor} (group : Option Text)
    {passed : Passed} (enough : cursor.rest.length < fuel) (inside : entry ≤ cursor.position)
    (unpassed : ∀ later, cursor.position < later → passed.testBit later = false) :
    (Way.iterate 1 0 true ((Node.set members).through places total) out entry fuel cursor group
        passed).1 =
      if cursor.rest.takeWhile members = [] then none
      else onward (cursor.past (cursor.rest.takeWhile members)) := by
  obtain ⟨before, rest, position⟩ := cursor
  induction rest generalizing before position fuel group passed with
  | nil =>
    cases fuel with
    | zero => contradiction
    | succ fuel => rfl
  | cons head rest inductionHypothesis =>
    cases fuel with
    | zero => contradiction
    | succ fuel =>
      by_cases member : members head = true
      · -- One iteration takes the head; behind it the loop goes on, or out.
        have first : passed.testBit (position + 1) = false := unpassed _ (Nat.lt_succ_self _)
        have later : ¬ position + 1 = entry := Nat.ne_of_gt (Nat.lt_succ_of_le inside)
        have others : ∀ other, position + 1 < other →
            (passed ||| 1 <<< (position + 1)).testBit other = false := fun other after =>
          testBit_passed (unpassed other (Nat.lt_trans (Nat.lt_succ_self _) after)) after
        have again := inductionHypothesis group (some head) (position + 1)
          (Nat.lt_of_succ_lt_succ enough) (Nat.le_succ_of_le inside) others
        rw [List.takeWhile_cons_of_pos member, if_neg (List.cons_ne_nil _ _)]
        show (if members head = true then
          Way.once 1 0 _ ⟨some head, rest, position + 1⟩ group passed else _).1 = _
        rw [if_pos member, once_fst first]
        dsimp only
        rw [if_neg later, if_pos rfl, orElse_fst, leads, again]
        by_cases ends : rest.takeWhile members = []
        · rw [if_pos ends, ends]
          rfl
        · rw [if_neg ends]
          show (onward (Cursor.past ⟨some head, rest, position + 1⟩ _)).or _ =
            onward (Cursor.past ⟨some head, rest, position + 1⟩ _)
          cases onward (Cursor.past ⟨some head, rest, position + 1⟩ (rest.takeWhile members)) with
          | some hit => rfl
          | none =>
            cases rest with
            | nil => exact absurd rfl ends
            | cons second rest =>
              refine blocked _ second rest rfl ?_
              by_cases memberToo : members second = true
              · exact memberToo
              · exact absurd (List.takeWhile_cons_of_neg memberToo) ends
      · rw [List.takeWhile_cons_of_neg member, if_pos rfl]
        show (if members head = true then _ else (none, passed)).1 = _
        rw [if_neg member]

end Stencil.Regex

namespace Stencil.Pattern

open Regex

/-! ### Placeholders -/

/-- The path of the placeholder that a text starts with. -/
def placeholderAt? (opening closing : Text) (text : Text) : Option Text :=
  if opening.isPrefixOf text then
    let rest := text.drop opening.length
    let path := rest.takeWhile (pathSet opening closing)
    if path = [] then none
    else if closing.isPrefixOf (rest.drop path.length) then some path
    else none
  else
    none

theorem take_takeWhile (test : Char → Bool) (text : Text) :
    text.take (text.takeWhile test).length = text.takeWhile test :=
  (List.prefix_iff_eq_take.mp (List.takeWhile_prefix test)).symm

theorem drop_takeWhile (test : Char → Bool) (text : Text) :
    text.drop (text.takeWhile test).length = text.dropWhile test := by
  have whole := @List.takeWhile_append_dropWhile _ test text
  exact (congrArg (List.drop _) whole.symm).trans List.drop_left

variable {opening closing : Text}

/-- No character of a delimiter may stand in a path. -/
theorem pathSet_iff {character : Char} :
    pathSet opening closing character = true ↔ character ∉ opening ∧ character ∉ closing := by
  rw [pathSet, Bool.not_eq_true', ← Bool.not_eq_true, List.contains_iff_mem, List.mem_append,
    not_or]

/-- A path character cannot start the closing delimiter. -/
theorem not_closing_of_path (some : closing ≠ []) {head : Char} {rest : Text}
    (path : pathSet opening closing head = true) : closing.isPrefixOf (head :: rest) = false := by
  obtain ⟨first, others, rfl⟩ := List.exists_cons_of_ne_nil some
  have different : (first == head) = false := by
    refine beq_false_of_ne ?_
    rintro rfl
    exact (pathSet_iff.mp path).2 List.mem_cons_self
  rw [List.isPrefixOf_cons_cons, different, Bool.false_and]

/-- The way through the group and the closing delimiter, once the opening one is behind. -/
theorem through_pathGroup (some : closing ≠ []) (fuel : Nat) (start : Cursor)
    (enough : start.rest.length < fuel) :
    ((Node.ofExpr (pathGroup opening closing) 0).1.through 1 fuel
        (Way.text closing Way.done) start none 0).1 =
      let path := start.rest.takeWhile (pathSet opening closing)
      if path = [] then none
      else if closing.isPrefixOf (start.rest.drop path.length) then
        Option.some ⟨(start.past path).past closing, Option.some path⟩
      else none := by
  have leads : ∀ (cursor : Cursor) (group : Option Text) (passed : Passed),
      ((fun (stop : Cursor) (_ : Option Text) (passed : Passed) =>
        Way.text closing Way.done stop
          (Option.some (start.rest.take (stop.position - start.position))) passed)
        cursor group passed).1 =
      if closing.isPrefixOf cursor.rest then
        Option.some ⟨cursor.past closing,
          Option.some (start.rest.take (cursor.position - start.position))⟩
      else none := by
    intro cursor group passed
    dsimp only [Way.text]
    split
    · rfl
    · rfl
  have blocked : ∀ (cursor : Cursor) (head : Char) (rest : Text), cursor.rest = head :: rest →
      pathSet opening closing head = true →
      (if closing.isPrefixOf cursor.rest then
        Option.some (⟨cursor.past closing,
          Option.some (start.rest.take (cursor.position - start.position))⟩ : Hit)
      else none) = none := by
    intro cursor head rest same path
    rw [same, not_closing_of_path some path, if_neg Bool.false_ne_true]
  refine (iterate_fst leads blocked 1 fuel start.position none enough (Nat.le_refl _)
    fun _ _ => Nat.zero_testBit _).trans ?_
  dsimp only
  rw [Cursor.rest_past, Cursor.position_past, Nat.add_sub_cancel_left, take_takeWhile]

/-- The search matches where the direct scan sees a placeholder. -/
theorem matchAt_eq (some : closing ≠ []) (before : Option Char) (text : Text) :
    (Program.ofExpr (placeholderExpr opening closing)).matchAt before text =
      (placeholderAt? opening closing text).map fun path =>
        ⟨Cursor.past ⟨before, text, 0⟩ (opening ++ (path ++ closing)), Option.some path⟩ := by
  have last (fuel : Nat) := through_fixed 1 fuel closing [] 1 Way.done
  have places : (Program.ofExpr (placeholderExpr opening closing)).places = 1 := by
    refine (places_fixed opening _ 0).trans ((places_cats_cons _ _ 0).trans ?_)
    have rest := places_fixed closing [] 1
    rw [List.append_nil] at rest
    exact rest
  rw [Program.matchAt, places]
  show ((Node.ofExpr (Expr.cats (opening.map fixed ++ pathGroup opening closing ::
    closing.map fixed)) 0).1.through 1 _ Way.done ⟨before, text, 0⟩ none 0).1 = _
  rw [List.append_nil] at last
  rw [through_fixed, through_cats_cons]
  show (Way.text opening ((Node.ofExpr (pathGroup opening closing) 0).1.through 1 _
    ((Node.ofExpr (Expr.cats (closing.map fixed)) 1).1.through 1 _ Way.done))
      ⟨before, text, 0⟩ none 0).1 = _
  rw [last]
  show (Way.text opening ((Node.ofExpr (pathGroup opening closing) 0).1.through 1 _
    (Way.text closing Way.done)) ⟨before, text, 0⟩ none 0).1 = _
  have shorter : (Cursor.past ⟨before, text, 0⟩ opening).rest.length < text.length + 2 := by
    rw [Cursor.rest_past, List.length_drop]
    show text.length - opening.length < text.length + 2
    omega
  rw [Way.text, placeholderAt?]
  dsimp only
  by_cases opened : opening.isPrefixOf text = true
  · rw [if_pos opened, if_pos opened, through_pathGroup some _ _ shorter, Cursor.rest_past]
    dsimp only
    split
    · rfl
    · split
      · rw [Option.map_some, Cursor.past_append, Cursor.past_append]
      · rfl
  · rw [if_neg opened, if_neg opened]
    rfl

/-! ### The scan -/

theorem placeholderAt?_nil (some : opening ≠ []) : placeholderAt? opening closing [] = none := by
  obtain ⟨head, rest, rfl⟩ := List.exists_cons_of_ne_nil some
  rfl

theorem placeholderAt?_of_not_mem (some : opening ≠ []) {head : Char} {tail : Text}
    (absent : head ∉ opening) : placeholderAt? opening closing (head :: tail) = none := by
  obtain ⟨first, others, rfl⟩ := List.exists_cons_of_ne_nil some
  have different : (first == head) = false := by
    refine beq_false_of_ne ?_
    rintro rfl
    exact absent List.mem_cons_self
  have notOpened : ¬ (first :: others).isPrefixOf (head :: tail) = true := by
    rw [List.isPrefixOf_cons_cons, different, Bool.false_and]
    exact Bool.false_ne_true
  rw [placeholderAt?, if_neg notOpened]

/-- A path between the delimiters: at least one character, none of them a delimiter's. -/
def IsPath (opening closing : Text) (path : Text) : Prop :=
  path ≠ [] ∧ ∀ character ∈ path, character ∉ opening ∧ character ∉ closing

theorem placeholderAt?_some {text path : Text}
    (found : placeholderAt? opening closing text = some path) :
    IsPath opening closing path ∧ ∃ rest, text = opening ++ (path ++ (closing ++ rest)) := by
  rw [placeholderAt?] at found
  split at found
  · rename_i opened
    dsimp only at found
    split at found
    · contradiction
    · rename_i filled
      split at found
      · rename_i closed
        obtain ⟨afterOpening, rfl⟩ := List.isPrefixOf_iff_prefix.mp opened
        rw [List.drop_left] at found filled closed
        obtain ⟨rest, same⟩ := List.isPrefixOf_iff_prefix.mp closed
        rw [drop_takeWhile] at same
        cases found
        refine ⟨⟨filled, fun character member => ?_⟩, rest, ?_⟩
        · exact pathSet_iff.mp (List.all_eq_true.mp List.all_takeWhile character member)
        · rw [same, List.takeWhile_append_dropWhile]
      · contradiction
  · contradiction

theorem placeholderAt?_of_isPath (some : closing ≠ []) {path : Text}
    (isPath : IsPath opening closing path) (rest : Text) :
    placeholderAt? opening closing (opening ++ (path ++ (closing ++ rest))) = Option.some path := by
  have run : (path ++ (closing ++ rest)).takeWhile (pathSet opening closing) = path := by
    obtain ⟨first, others, rfl⟩ := List.exists_cons_of_ne_nil some
    have stops : ¬ pathSet opening (first :: others) first = true := fun path =>
      (pathSet_iff.mp path).2 List.mem_cons_self
    rw [List.takeWhile_append_of_pos fun character member =>
      pathSet_iff.mpr (isPath.2 character member)]
    rw [List.cons_append, List.takeWhile_cons_of_neg stops, List.append_nil]
  have opened : opening.isPrefixOf (opening ++ (path ++ (closing ++ rest))) = true :=
    List.isPrefixOf_iff_prefix.mpr (List.prefix_append _ _)
  have closed : closing.isPrefixOf (closing ++ rest) = true :=
    List.isPrefixOf_iff_prefix.mpr (List.prefix_append _ _)
  rw [placeholderAt?, if_pos opened, List.drop_left]
  dsimp only
  rw [run, if_neg isPath.1, List.drop_left, if_pos closed]

/-- What the scan takes at once: a character, or a placeholder with its path. -/
inductive Token where
  | literal (character : Char)
  | placeholder (path : Text)
deriving DecidableEq, Repr

/-- The text of a token. -/
def Token.written (opening closing : Text) : Token → Text
  | literal character => [character]
  | placeholder path => opening ++ (path ++ closing)

/-- What a token holds beside the delimiters. -/
def Token.text : Token → Text
  | literal character => [character]
  | placeholder path => path

/-- A token as a text can be written with: no character of a delimiter stands outside the delimiters
of a placeholder. -/
def Token.WellFormed (opening closing : Text) : Token → Prop
  | literal character => character ∉ opening ∧ character ∉ closing
  | placeholder path => IsPath opening closing path

instance (opening closing : Text) (token : Token) : Decidable (token.WellFormed opening closing) :=
  match token with
  | .literal _ => inferInstanceAs (Decidable (_ ∧ _))
  | .placeholder path => @instDecidableAnd _ _ inferInstance (List.decidableBAll _ path)

/-- The tokens of a text, the first `skip` characters of which belong to a placeholder that has been
taken already. -/
def scanFrom (opening closing : Text) : (skip : Nat) → Text → List Token
  | _, [] => []
  | skip + 1, _ :: tail => scanFrom opening closing skip tail
  | 0, head :: tail =>
    match placeholderAt? opening closing (head :: tail) with
    | some path => .placeholder path ::
        scanFrom opening closing (opening.length + (path.length + closing.length) - 1) tail
    | none => .literal head :: scanFrom opening closing 0 tail

/-- The tokens of a text. -/
def scan (opening closing : Text) (text : Text) : List Token :=
  scanFrom opening closing 0 text

theorem scanFrom_eq (skip : Nat) (text : Text) :
    scanFrom opening closing skip text = scan opening closing (text.drop skip) := by
  induction text generalizing skip with
  | nil =>
    rw [List.drop_nil]
    cases skip with
    | zero => rfl
    | succ skip => rfl
  | cons head tail inductionHypothesis =>
    cases skip with
    | zero => rfl
    | succ skip => exact inductionHypothesis skip

theorem scan_of_none {head : Char} {tail : Text}
    (absent : placeholderAt? opening closing (head :: tail) = none) :
    scan opening closing (head :: tail) = .literal head :: scan opening closing tail := by
  rw [scan, scanFrom, absent]
  rfl

theorem scan_of_isPath (openingSome : opening ≠ []) (closingSome : closing ≠ []) {path : Text}
    (isPath : IsPath opening closing path) (rest : Text) :
    scan opening closing (opening ++ (path ++ (closing ++ rest))) =
      .placeholder path :: scan opening closing rest := by
  have found := placeholderAt?_of_isPath closingSome isPath rest
  obtain ⟨head, tail, rfl⟩ := List.exists_cons_of_ne_nil openingSome
  rw [List.cons_append] at found
  rw [List.cons_append, scan, scanFrom, found]
  dsimp only
  rw [scanFrom_eq]
  have length : (head :: tail).length + (path.length + closing.length) - 1 =
      (tail ++ (path ++ closing)).length := by
    simp only [List.length_append, List.length_cons]
    omega
  have behind : tail ++ (path ++ (closing ++ rest)) = (tail ++ (path ++ closing)) ++ rest := by
    simp only [List.append_assoc]
  rw [length, behind, List.drop_left]

/-- A text is taken apart into the tokens that it was written with. -/
theorem scan_written (openingSome : opening ≠ []) (closingSome : closing ≠ []) {tokens : List Token}
    (wellFormed : ∀ token ∈ tokens, token.WellFormed opening closing) :
    scan opening closing (tokens.flatMap (Token.written opening closing)) = tokens := by
  induction tokens with
  | nil => rfl
  | cons token later inductionHypothesis =>
    have first := wellFormed token List.mem_cons_self
    have rest := inductionHypothesis fun other member =>
      wellFormed other (List.mem_cons_of_mem _ member)
    rw [List.flatMap_cons]
    cases token with
    | literal character =>
      show scan opening closing (character :: later.flatMap (Token.written opening closing)) = _
      rw [scan_of_none (placeholderAt?_of_not_mem openingSome first.1), rest]
    | placeholder path =>
      show scan opening closing ((opening ++ (path ++ closing)) ++ _) = _
      rw [List.append_assoc, List.append_assoc, scan_of_isPath openingSome closingSome first, rest]

/-! ### The pieces of a search -/

/-- Puts a character before the first piece, or before the tail if there is none. -/
def Pieces.put (character : Char) : Pieces → Pieces
  | ⟨[], tail⟩ => ⟨[], character :: tail⟩
  | ⟨piece :: later, tail⟩ => ⟨{ piece with skipped := character :: piece.skipped } :: later, tail⟩

/-- The pieces that tokens make: every placeholder, with the characters before it. -/
def gather (opening closing : Text) : List Token → Pieces
  | [] => ⟨[], []⟩
  | .literal character :: later => Pieces.put character (gather opening closing later)
  | .placeholder path :: later =>
    ⟨⟨[], opening ++ (path ++ closing), some path⟩ :: (gather opening closing later).pieces,
      (gather opening closing later).tail⟩

theorem find_spec (openingSome : opening ≠ []) (closingSome : closing ≠ []) (before : Option Char)
    (text : Text) :
    ((Program.ofExpr (placeholderExpr opening closing)).find before text = none ∧
        gather opening closing (scan opening closing text) = ⟨[], text⟩) ∨
      ∃ found, (Program.ofExpr (placeholderExpr opening closing)).find before text = some found ∧
        found.whole ≠ [] ∧ found.rest.length < text.length ∧
        gather opening closing (scan opening closing text) =
          ⟨⟨found.skipped, found.whole, found.group⟩ ::
            (gather opening closing (scan opening closing found.rest)).pieces,
            (gather opening closing (scan opening closing found.rest)).tail⟩ := by
  induction text generalizing before with
  | nil =>
    refine Or.inl ⟨?_, rfl⟩
    rw [Program.find, matchAt_eq closingSome, placeholderAt?_nil openingSome]
    rfl
  | cons head tail inductionHypothesis =>
    rw [Program.find, matchAt_eq closingSome]
    cases found : placeholderAt? opening closing (head :: tail) with
    | some path =>
      right
      obtain ⟨isPath, rest, same⟩ := placeholderAt?_some found
      have whole : head :: tail = (opening ++ (path ++ closing)) ++ rest := by
        rw [same]
        simp only [List.append_assoc]
      have stop : (Cursor.past ⟨before, head :: tail, 0⟩ (opening ++ (path ++ closing))).rest =
          rest := by
        rw [Cursor.rest_past, whole, List.drop_left]
      have taken : (head :: tail).take (Cursor.past ⟨before, head :: tail, 0⟩
          (opening ++ (path ++ closing))).position = opening ++ (path ++ closing) := by
        rw [Cursor.position_past, whole, Nat.zero_add, List.take_left]
      rw [Option.map_some]
      generalize Cursor.past ⟨before, head :: tail, 0⟩ (opening ++ (path ++ closing)) = cursor
        at stop taken
      refine ⟨_, rfl, ?_, ?_, ?_⟩
      · show (head :: tail).take cursor.position ≠ []
        rw [taken]
        exact List.append_ne_nil_of_left_ne_nil openingSome _
      · show cursor.rest.length < (head :: tail).length
        have positive := List.length_pos_iff.mpr openingSome
        rw [stop, whole, List.length_append, List.length_append]
        omega
      · dsimp only
        rw [taken, stop, same, scan_of_isPath openingSome closingSome isPath]
        rfl
    | none =>
      rw [scan_of_none found, gather]
      rcases inductionHypothesis (some head) with ⟨absent, gathered⟩ | 
        ⟨later, present, filled, shorter, gathered⟩
      · left
        rw [gathered, Option.map_none, absent]
        exact ⟨rfl, rfl⟩
      · right
        refine ⟨{ later with skipped := head :: later.skipped }, ?_, filled,
          Nat.lt_succ_of_lt shorter, ?_⟩
        · rw [Option.map_none, present]
          rfl
        · rw [gathered]
          rfl

/-- A text without the opening delimiter holds no placeholder. -/
theorem gather_scan_of_absent {text : Text} (absent : ¬ opening <:+: text) :
    gather opening closing (scan opening closing text) = ⟨[], text⟩ := by
  induction text with
  | nil => rfl
  | cons head tail inductionHypothesis =>
    have none : placeholderAt? opening closing (head :: tail) = none := by
      refine Option.eq_none_iff_forall_ne_some.mpr fun path found => absent ?_
      obtain ⟨_, rest, same⟩ := placeholderAt?_some found
      rw [same]
      exact (List.prefix_append opening _).isInfix
    rw [scan_of_none none, gather,
      inductionHypothesis fun later => absent (List.infix_cons later), Pieces.put]

theorem next_of_none {program : Program} {before : Option Char} {text : Text}
    (absent : program.find before text = none) (afterMatch : Bool) :
    program.next afterMatch before text = none := by
  unfold Program.next
  rw [absent]

/-- A match that is not empty counts even directly after another one. -/
theorem next_of_filled {program : Program} {before : Option Char} {text : Text} {found : Found}
    (present : program.find before text = some found) (filled : found.whole ≠ [])
    (afterMatch : Bool) : program.next afterMatch before text = some found := by
  have counts : ¬ (afterMatch && found.skipped.isEmpty && found.whole.isEmpty) = true := by
    rw [Bool.and_eq_true, List.isEmpty_iff]
    exact fun both => filled both.2
  unfold Program.next
  rw [present]
  exact if_neg counts

theorem programCut_eq (openingSome : opening ≠ []) (closingSome : closing ≠ []) {fuel : Nat}
    (afterMatch : Bool) (before : Option Char) {text : Text} (enough : text.length < fuel) :
    (Program.ofExpr (placeholderExpr opening closing)).cut fuel afterMatch before text =
      gather opening closing (scan opening closing text) := by
  induction fuel generalizing afterMatch before text with
  | zero => exact absurd enough (Nat.not_lt_zero _)
  | succ fuel inductionHypothesis =>
    rcases find_spec openingSome closingSome before text with ⟨absent, gathered⟩ |
      ⟨found, present, filled, shorter, gathered⟩
    · rw [Program.cut, next_of_none absent, gathered]
    · have rest := inductionHypothesis true found.before
        (Nat.lt_of_lt_of_le shorter (Nat.le_of_lt_succ enough))
      rw [Program.cut, next_of_filled present filled, gathered]
      dsimp only
      rw [rest]

/-! ### The tokens of a pattern -/

/-- The tokens that the direct scan takes from a text. -/
def tokensOf (pattern : Pattern) (text : Text) : List Token :=
  scan pattern.opening pattern.closing text

/-- The text that tokens are written with. -/
def textOf (pattern : Pattern) (tokens : List Token) : Text :=
  tokens.flatMap (Token.written pattern.opening pattern.closing)

/-- The pattern is the one of its two delimiters. -/
def IsDelimited (pattern : Pattern) : Prop :=
  ofDelimiters pattern.opening pattern.closing = .ok pattern

variable {pattern : Pattern}

theorem IsDelimited.some (delimited : pattern.IsDelimited) :
    pattern.opening ≠ [] ∧ pattern.closing ≠ [] := by
  obtain ⟨openingSome, closingSome, _⟩ := ofDelimiters_ok delimited
  exact ⟨openingSome, closingSome⟩

theorem tokensOf_textOf (delimited : pattern.IsDelimited) {tokens : List Token}
    (wellFormed : ∀ token ∈ tokens, token.WellFormed pattern.opening pattern.closing) :
    pattern.tokensOf (pattern.textOf tokens) = tokens :=
  scan_written delimited.some.1 delimited.some.2 wellFormed

/-- A pattern of two delimiters cuts a text at the placeholders that the direct scan takes. -/
theorem cut_eq_gather (delimited : pattern.IsDelimited) (text : Text) :
    pattern.regex.cut text = gather pattern.opening pattern.closing (pattern.tokensOf text) := by
  obtain ⟨openingSome, closingSome, _, _, program⟩ := ofDelimiters_ok delimited
  rw [Regex.cut, program]
  exact programCut_eq openingSome closingSome false none (Nat.lt_succ_self _)

theorem cut_of_absent (delimited : pattern.IsDelimited) {text : Text}
    (absent : ¬ pattern.opening <:+: text) : pattern.regex.cut text = ⟨[], text⟩ := by
  rw [cut_eq_gather delimited, tokensOf, gather_scan_of_absent absent]

end Stencil.Pattern
