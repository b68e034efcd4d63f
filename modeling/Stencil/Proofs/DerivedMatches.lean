/-
This file proves that the delimiters which are read off the source of an expression bound what the
expression matches: a match begins with the opening delimiter and ends with the closing one. Either
has to come from the source, and not from the defaults, and the expression may have no alternatives
at its top, for then what is read off belongs to one of them.

The opening delimiter is followed from the start of the source until it is complete, the closing one
to the end of the source. At every piece the parts read so far begin with, or end with, what has
been read of the delimiter; a plus sign keeps this if it stands where it pushes nothing else away.
-/

import Stencil.Proofs.AtomsBeside

namespace Stencil

namespace Delimiters

open Regex

/-! ### What the expression means by the delimiters -/

/-- Whether the expression means by the atoms of the opening delimiter what the delimiter says,
`fixed` having been read and `again` telling whether a plus sign does no harm here: none of its
characters is the edge of a word, and none is repeated before another one. -/
def beginsAsMeant (opening : Text) : (fixed : Text) → (again : Bool) → List (Atom × Bool) → Bool
  | _, _, [] => true
  | fixed, again, (atom, edge) :: rest =>
    match atom with
    | .literal character =>
      (opening.length ≤ fixed.length || !edge) &&
        beginsAsMeant opening (fixed ++ [character]) (fillsRest opening fixed character) rest
    | .anchor => beginsAsMeant opening fixed true rest
    | .repeated => again && beginsAsMeant opening fixed again rest
    | _ => true

/-- What has been read of the closing delimiter. -/
structure Tail where
  /-- Whether the last parenthesis has closed a group. -/
  closed : Bool := false
  /-- The fixed text behind it. -/
  fixed : Text := []
  /-- Whether a plus sign does no harm here: it would repeat no character behind another one. -/
  again : Bool := true
  /-- Whether the expression means by the text what it says. -/
  asMeant : Bool := true

/-- Reads another atom. -/
def Tail.pass (tail : Tail) (mark : Atom × Bool) : Tail :=
  match mark.1 with
  | .groupOpen => {}
  | .groupClose => { closed := true }
  | .literal character =>
    if tail.closed then
      { tail with
        fixed := tail.fixed ++ [character]
        again := fillsStart tail.fixed character
        asMeant := tail.asMeant && !mark.2 }
    else {}
  | .anchor => { tail with again := true }
  | .repeated => { tail with asMeant := tail.asMeant && tail.again }
  | .optional | .varying => { closed := tail.closed }

/-- Whether something holds of every piece that the reader comes to, together with all behind it. -/
def everyPieceFrom (holds : Text → Bool) : (fuel : Nat) → Progress → Text → Bool
  | 0, _, _ => true
  | fuel + 1, progress, text =>
    match progress.flags.skip text with
    | [] => true
    | head :: rest =>
      holds (head :: rest) &&
        (readPiece progress head rest).toOption.all fun found =>
          everyPieceFrom holds fuel found.1 found.2

/-- Whether something holds of every piece of a source, together with all behind it. -/
def everyPiece (holds : Text → Bool) (source : Text) : Bool :=
  everyPieceFrom holds source.length {} source

/-! ### Beginnings -/

section

variable {opening fixed : Text} {again : Bool} {fuel : Nat} {progress next final : Progress}
  {text behind : Text} {others : List Atom}

theorem setsNoFlags_of_ne {head : Char} (other : head ≠ '(') (rest : Text) :
    setsNoFlags (head :: rest) = true := by
  unfold setsNoFlags
  split
  · rename_i same
    cases same
    exact absurd rfl other
  · rfl

theorem skipsAlike_of_ne {head : Char} (noGroup : head ≠ '(') (noClass : head ≠ '[') (rest : Text) :
    skipsAlike (head :: rest) = true := by
  unfold skipsAlike
  split
  · rename_i same
    cases same
    exact absurd rfl noClass
  · rename_i same
    cases same
    exact absurd rfl noGroup
  · rename_i same
    cases same
    exact absurd rfl noGroup
  · rfl

theorem atoms_of_passes {passed : List (Atom × Bool)} (passes : Passes text passed behind) :
    atoms text = passed.map Prod.fst ++ atoms behind := by
  rw [← map_fst_marked, passes.marked_eq, List.map_append, map_fst_marked]

/-- An atom that clears the text leaves no delimiter that is longer than what has been read. -/
theorem length_le_of_clears {passed : List (Atom × Bool)}
    (quiet : ∀ mark ∈ passed, mark.1 = .anchor ∨ mark.1 = .repeated ∨ mark.1 = .optional)
    {atom : Atom} (clears : atom = .optional ∨ atom = .varying) {later : List Atom}
    (derived : beforeGroup false fixed (passed.map Prod.fst ++ atom :: later) =
      some (opening, others)) : opening.length ≤ fixed.length := by
  have dropped : fixed.dropLast.length ≤ fixed.length := by
    rw [List.length_dropLast]
    exact Nat.sub_le _ _
  induction passed with
  | nil =>
    rcases clears with rfl | rfl
    · rw [beforeGroup_cut derived]
      exact dropped
    · rw [beforeGroup_cut derived]
  | cons mark passed inductionHypothesis =>
    have quietLater := fun other member => quiet other (List.mem_cons_of_mem mark member)
    obtain ⟨first, edge⟩ := mark
    rcases quiet _ List.mem_cons_self with rfl | rfl | rfl
    · exact inductionHypothesis quietLater derived
    · exact inductionHypothesis quietLater derived
    · rw [beforeGroup_cut derived]
      exact dropped

/-- The readers are outside all groups, and the parts begin with what has been read of the
delimiter. -/
structure OpensWith (opening fixed : Text) (again : Bool) (progress : Progress) : Prop where
  noGroup : progress.groups = []
  plain : progress.flags = {}
  begins : BeginsWith opening (exprs progress) fixed again

theorem OpensWith.isPlain (opens : OpensWith opening fixed again progress) :
    IsPlain opening progress := by
  refine ⟨opens.noGroup, ?_, fun character _ => ?_⟩
  · rw [opens.plain]
  · rw [opens.plain]
    rfl

/-- A part is added. -/
theorem OpensWith.push {fixedNext : Text} {againNext : Bool} {expr : Expr}
    (opens : OpensWith opening fixed again progress)
    (begins : BeginsWith opening (expr :: exprs progress) fixedNext againNext) :
    OpensWith opening fixedNext againNext (progress.push (.flat expr)) :=
  ⟨opens.noGroup, opens.plain, begins⟩

/-- Both readers go on while the delimiter grows, and once it is complete a plus sign does no
harm. -/
theorem OpensWith.step (opens : OpensWith opening fixed again progress)
    (shorter : fixed.length < opening.length) (beside : Beside progress text behind next)
    (derived : beforeGroup false fixed (atoms text) = some (opening, others))
    (meant : beginsAsMeant opening fixed again (marked text) = true) :
    behind.length < text.length ∧ ∃ fixedNext againNext,
      OpensWith opening fixedNext againNext next ∧
        beforeGroup false fixedNext (atoms behind) = some (opening, others) ∧
        beginsAsMeant opening fixedNext againNext (marked behind) = true ∧
        fixedNext.length ≤ fixed.length + 1 ∧
        (opening.length ≤ fixedNext.length → againNext = true) := by
  have growing : ¬ opening.length ≤ fixed.length := Nat.not_le.mpr shorter
  cases beside with
  | literal character passes =>
    rw [atoms_of_passes passes] at derived
    rw [passes.marked_eq] at meant
    refine ⟨passes.length_lt, _, _, opens.push (Spelled.one character opens.begins), derived,
      (Bool.and_eq_true_iff.mp meant).2, by rw [List.length_append]; rfl, fun complete => ?_⟩
    rw [List.length_append, List.length_singleton] at complete
    rw [fillsRest, List.drop_eq_nil_of_le complete]
    rfl
  | edge character assertion passes =>
    rw [passes.marked_eq] at meant
    have allowed := (Bool.and_eq_true_iff.mp meant).1
    rw [Bool.not_true, Bool.or_false, decide_eq_true_eq] at allowed
    exact absurd allowed growing
  | anchor assertion mark passes =>
    rw [atoms_of_passes passes] at derived
    rw [passes.marked_eq] at meant
    exact ⟨passes.length_lt, _, _, opens.push (Spelled.nothing trivial opens.begins), derived,
      meant, Nat.le_succ _, fun complete => absurd complete growing⟩
  | plus done mark passes =>
    rw [atoms_of_passes passes] at derived
    rw [passes.marked_eq] at meant
    obtain ⟨harmless, meantLater⟩ := Bool.and_eq_true_iff.mp meant
    subst harmless
    obtain ⟨last, before, greedy, same, sameNext, _⟩ := @repeatLast_plus opening _ _ _ done
    obtain ⟨sameFlags, sameGroups⟩ := repeatLast_keeps done
    have begins := opens.begins
    rw [same] at begins
    have beginsNext := begins.repeated greedy
    rw [← sameNext] at beginsNext
    exact ⟨passes.length_lt, _, _, ⟨sameGroups.trans opens.noGroup, sameFlags.trans opens.plain,
      beginsNext⟩, derived, meantLater, Nat.le_succ _, fun complete => absurd complete growing⟩
  | opened flags groups mark passed passes =>
    rw [atoms_of_passes passes] at derived
    cases derived
    exact absurd (Nat.le_refl _) growing
  | closed done mark passes =>
    rw [atoms_of_passes passes] at derived
    rw [beforeGroup_cut derived] at growing
    exact absurd (Nat.le_refl _) growing
  | cleared flags groups passed quiet atom clears mark passes =>
    rw [atoms_of_passes passes, List.map_append, List.append_assoc] at derived
    exact absurd (length_le_of_clears quiet clears derived) growing

/-- As long as the delimiter is longer than what has been read of it, the parts begin with what has
been read; then they settle. -/
theorem OpensWith.settlesAs (opens : OpensWith opening fixed again progress)
    (shorter : fixed.length < opening.length) (enough : text.length ≤ fuel)
    (derived : beforeGroup false fixed (atoms text) = some (opening, others))
    (meant : beginsAsMeant opening fixed again (marked text) = true)
    (read : readPieces fuel progress text = .ok final) :
    SettlesAs (fun exprs => BeginsWith opening exprs opening true) final := by
  induction fuel generalizing progress text fixed again with
  | zero =>
    rw [List.length_eq_zero_iff.mp (Nat.le_zero.mp enough)] at derived
    cases derived
  | succ fuel inductionHypothesis =>
    cases text with
    | nil => cases derived
    | cons head rest =>
      rw [readPieces, opens.isPlain.skip] at read
      obtain ⟨⟨next, behind⟩, piece, readLater⟩ := ok_of_bind read
      dsimp only at readLater
      -- a group or a class would end the delimiter, so flags and brackets are no matter here
      have notGroup : head ≠ '(' := by
        rintro rfl
        cases derived
        exact absurd shorter (Nat.lt_irrefl _)
      have notClass : head ≠ '[' := by
        rintro rfl
        rw [beforeGroup_cut derived] at shorter
        exact absurd shorter (Nat.lt_irrefl _)
      have beside := beside_of_readPiece opens.plain (setsNoFlags_of_ne notGroup rest)
        (skipsAlike_of_ne notGroup notClass rest) piece
      obtain ⟨less, fixedNext, againNext, opensNext, derivedLater, meantLater, short,
        harmless⟩ :=
        opens.step shorter beside derived meant
      have enoughLater := Nat.le_of_lt_succ (Nat.lt_of_lt_of_le less enough)
      by_cases stillShorter : fixedNext.length < opening.length
      · exact inductionHypothesis opensNext stillShorter enoughLater derivedLater meantLater
          readLater
      · have some : opening ≠ [] := List.ne_nil_of_length_pos (Nat.zero_lt_of_lt shorter)
        have length : opening.length = fixedNext.length := by omega
        have complete := eq_of_beforeGroup some derivedLater length
        have may := harmless length.le
        subst complete may
        exact settlesAs_of_complete (fun _ _ greedy begins => begins.repeated greedy) some
          opensNext.isPlain opensNext.begins enoughLater derivedLater readLater

/-- Where such parts have settled, an expression without alternatives at its top leads only over
text that begins with the delimiter. -/
theorem prefix_of_settlesAs
    (settles : SettlesAs (fun exprs => BeginsWith opening exprs opening true) final)
    (closed : final.groups = []) (single : final.level.part.expr.isAlternative = false)
    {start stop : Cursor} (leads : (Node.ofExpr final.level.part.expr 0).1.Leads start stop)
    {whole : Text} (written : start.rest = whole ++ stop.rest) : opening <+: whole := by
  obtain ⟨kept, begins, settled⟩ := settles
  obtain ⟨others, same⟩ := settled.expr_eq closed single
  rw [same] at leads
  obtain ⟨between, along, alongLater⟩ := (leadsAlong_of_cats leads).of_append
  obtain ⟨taken, rest, front⟩ := begins.leads_over (List.prefix_refl _) along
  obtain ⟨more, later⟩ := alongLater.suffix
  rw [written, ← later, ← List.append_assoc, List.append_cancel_right_eq] at rest
  rw [List.drop_length, List.append_nil] at front
  rw [rest]
  exact front.trans (List.prefix_append taken more)

end

/-! ### Ends -/

section

variable {progress next final : Progress} {tail : Tail} {text behind : Text} {fuel : Nat}

/-- The closing delimiter is what the tail holds behind all atoms. -/
theorem afterGroups_marked (marks : List (Atom × Bool)) (tail : Tail) (fixed : Text)
    (same : tail.closed = true → fixed = tail.fixed) :
    afterGroups tail.closed fixed (marks.map Prod.fst) =
      if (marks.foldl Tail.pass tail).closed then some (marks.foldl Tail.pass tail).fixed
      else none := by
  induction marks generalizing tail fixed with
  | nil =>
    show (if tail.closed then some fixed else none) = _
    by_cases closed : tail.closed = true
    · rw [same closed]
      rfl
    · rw [if_neg closed]
      exact (if_neg closed).symm
  | cons mark marks inductionHypothesis =>
    obtain ⟨atom, edge⟩ := mark
    obtain ⟨closed, read, again, asMeant⟩ := tail
    cases atom with
    | literal character =>
      cases closed with
      | true =>
        cases same rfl
        exact inductionHypothesis ⟨true, read ++ [character], _, _⟩ _ fun _ => rfl
      | false => exact inductionHypothesis {} _ fun never => absurd never Bool.false_ne_true
    | groupOpen => exact inductionHypothesis {} _ fun _ => rfl
    | groupClose => exact inductionHypothesis { closed := true } _ fun _ => rfl
    | anchor => exact inductionHypothesis ⟨closed, read, true, asMeant⟩ _ same
    | repeated => exact inductionHypothesis ⟨closed, read, again, asMeant && again⟩ _ same
    | optional => exact inductionHypothesis { closed } _ fun _ => rfl
    | varying => exact inductionHypothesis { closed } _ fun _ => rfl

/-- Nothing before the first group belongs to the closing delimiter. -/
theorem afterGroups_of_beforeGroup {cut closed : Bool} {fixed read opening : Text}
    {atoms others : List Atom} (derived : beforeGroup cut fixed atoms = some (opening, others)) :
    afterGroups closed read atoms = afterGroups false [] others := by
  induction atoms generalizing cut closed fixed read with
  | nil => cases derived
  | cons atom atoms inductionHypothesis =>
    cases atom with
    | groupOpen =>
      cases derived
      rfl
    | _ => exact inductionHypothesis derived

/-- Outside all groups, the parts end with the tail. -/
def ClosesWith (tail : Tail) (progress : Progress) : Prop :=
  progress.groups = [] → tail.asMeant = true → EndsWith (exprs progress) tail.fixed tail.again

/-- No flags are set, neither here nor behind the groups that are open. -/
structure IsUnflagged (progress : Progress) : Prop where
  here : progress.flags = {}
  behind : ∀ flags ∈ progress.groups.map (·.flags), flags = {}

theorem closesWith_of_fixed_nil {closed : Bool} (progress : Progress) :
    ClosesWith { closed } progress :=
  fun _ _ => Spelled.start trivial

/-- Without flags before a piece, there are none behind it. -/
theorem IsUnflagged.step (unflagged : IsUnflagged progress)
    (beside : Beside progress text behind next) : IsUnflagged next := by
  cases beside with
  | literal _ _ => exact ⟨unflagged.here, unflagged.behind⟩
  | edge _ _ _ => exact ⟨unflagged.here, unflagged.behind⟩
  | anchor _ _ _ => exact ⟨unflagged.here, unflagged.behind⟩
  | plus done _ _ =>
    obtain ⟨flags, groups⟩ := repeatLast_keeps done
    exact ⟨flags.trans unflagged.here, groups ▸ unflagged.behind⟩
  | opened flags groups _ _ _ =>
    refine ⟨flags.trans unflagged.here, ?_⟩
    rw [groups, unflagged.here]
    exact List.forall_mem_cons.mpr ⟨rfl, unflagged.behind⟩
  | closed done _ _ =>
    obtain ⟨flags, level, groups, captures, names⟩ := progress
    cases groups with
    | nil => cases done
    | cons group groups =>
      cases done
      obtain ⟨first, later⟩ := List.forall_mem_cons.mp unflagged.behind
      exact ⟨first, later⟩
  | cleared flags groups _ _ _ _ _ _ =>
    exact ⟨flags.trans unflagged.here, groups ▸ unflagged.behind⟩

/-- Both readers go on, and what the parts end with is the tail behind the atoms passed. -/
theorem ClosesWith.step (closes : ClosesWith tail progress)
    (beside : Beside progress text behind next) :
    ∃ passed, Passes text passed behind ∧ ClosesWith (passed.foldl Tail.pass tail) next := by
  cases beside with
  | literal character passes =>
    refine ⟨_, passes, ?_⟩
    obtain ⟨closed, fixed, again, asMeant⟩ := tail
    cases closed with
    | true =>
      intro outside meant
      exact Spelled.one character (closes outside (Bool.and_eq_true_iff.mp meant).1)
    | false => exact closesWith_of_fixed_nil _
  | edge character assertion passes =>
    refine ⟨_, passes, ?_⟩
    obtain ⟨closed, fixed, again, asMeant⟩ := tail
    cases closed with
    | true =>
      intro outside meant
      exact absurd (Bool.and_eq_true_iff.mp meant).2 Bool.false_ne_true
    | false => exact closesWith_of_fixed_nil _
  | anchor assertion mark passes =>
    exact ⟨_, passes, fun outside meant => Spelled.nothing trivial (closes outside meant)⟩
  | plus done mark passes =>
    refine ⟨_, passes, fun outside meant => ?_⟩
    obtain ⟨_, sameGroups⟩ := repeatLast_keeps done
    obtain ⟨last, before, greedy, same, sameNext, _⟩ := @repeatLast_plus [] _ _ _ done
    obtain ⟨meantBefore, harmless⟩ := Bool.and_eq_true_iff.mp meant
    have ends := closes (sameGroups ▸ outside) meantBefore
    rw [same, harmless] at ends
    show EndsWith (exprs next) tail.fixed tail.again
    rw [sameNext, harmless]
    exact ends.repeated greedy
  | opened flags groups mark passed passes =>
    -- inside a group nothing is said of the parts; its end clears the tail
    refine ⟨_, passes, fun outside => ?_⟩
    rw [outside] at groups
    cases groups
  | closed done mark passes => exact ⟨_, passes, closesWith_of_fixed_nil next⟩
  | cleared flags groups passed quiet atom clears mark passes =>
    refine ⟨_, passes, ?_⟩
    rw [List.foldl_append]
    rcases clears with rfl | rfl
    · exact closesWith_of_fixed_nil next
    · exact closesWith_of_fixed_nil next

/-- The reading of both to the end. -/
theorem ClosesWith.readPieces (closes : ClosesWith tail progress)
    (unflagged : IsUnflagged progress) (enough : text.length ≤ fuel)
    (sets : everyPieceFrom setsNoFlags fuel progress text = true)
    (alike : everyPieceFrom skipsAlike fuel progress text = true)
    (read : readPieces fuel progress text = .ok final) :
    ClosesWith ((marked text).foldl Tail.pass tail) final := by
  induction fuel generalizing progress text tail with
  | zero =>
    rw [List.length_eq_zero_iff.mp (Nat.le_zero.mp enough)]
    cases read
    exact closes
  | succ fuel inductionHypothesis =>
    have skip : progress.flags.skip text = text := by
      rw [unflagged.here]
      rfl
    rw [Regex.readPieces, skip] at read
    rw [everyPieceFrom, skip] at sets alike
    cases text with
    | nil =>
      cases read
      exact closes
    | cons head rest =>
      obtain ⟨⟨next, behind⟩, piece, readLater⟩ := ok_of_bind read
      dsimp only at sets alike
      rw [piece] at sets alike
      obtain ⟨setsHere, setsLater⟩ := Bool.and_eq_true_iff.mp sets
      obtain ⟨alikeHere, alikeLater⟩ := Bool.and_eq_true_iff.mp alike
      have beside := beside_of_readPiece unflagged.here setsHere alikeHere piece
      obtain ⟨passed, passes, closesNext⟩ := closes.step beside
      rw [passes.marked_eq, List.foldl_append]
      exact inductionHypothesis closesNext (unflagged.step beside)
        (Nat.le_of_lt_succ (Nat.lt_of_lt_of_le passes.length_lt enough)) setsLater alikeLater
        readLater

/-- An expression without alternatives at its top leads only over text that ends with the tail. -/
theorem suffix_of_closesWith (closes : ClosesWith tail final) (meant : tail.asMeant = true)
    (closed : final.groups = []) (single : final.level.part.expr.isAlternative = false)
    {start stop : Cursor} (leads : (Node.ofExpr final.level.part.expr 0).1.Leads start stop)
    {whole : Text} (written : start.rest = whole ++ stop.rest) : tail.fixed <:+ whole := by
  rw [(expr_part_of_single single).2] at leads
  obtain ⟨taken, rest, ends⟩ := (closes closed meant).leads_over (leadsAlong_of_cats leads)
  rw [written, List.append_cancel_right_eq] at rest
  rw [rest]
  exact ends

end

end Delimiters

/-! ### Matches between their delimiters -/

namespace Pattern

open Regex Delimiters

/-- The opening delimiter is the text before the first group of the source, and not the default. -/
def DerivesOpening (pattern : Pattern) (source : Text) : Prop :=
  (beforeGroup false [] (atoms source)).map Prod.fst = some pattern.opening

/-- The closing delimiter is the text behind the last group of the source, and not the default. -/
def DerivesClosing (pattern : Pattern) (source : Text) : Prop :=
  ((beforeGroup false [] (atoms source)).bind fun found => afterGroups false [] found.2) =
    some pattern.closing

/-- The opening delimiter is read off the source, and the expression means by it what it says. -/
structure BeginsAsMeant (pattern : Pattern) (source : Text) : Prop where
  derived : pattern.DerivesOpening source
  meant : beginsAsMeant pattern.opening [] true (marked source) = true

/-- The closing delimiter is read off the source, where classes and names end as the scanner takes
them to, and the expression means by it what it says. -/
structure EndsAsMeant (pattern : Pattern) (source : Text) : Prop where
  derived : pattern.DerivesClosing source
  alike : everyPiece skipsAlike source = true
  meant : ((marked source).foldl Tail.pass {}).asMeant = true

instance (pattern : Pattern) (source : Text) : Decidable (pattern.DerivesOpening source) :=
  inferInstanceAs (Decidable (_ = _))

instance (pattern : Pattern) (source : Text) : Decidable (pattern.DerivesClosing source) :=
  inferInstanceAs (Decidable (_ = _))

instance (pattern : Pattern) (source : Text) : Decidable (pattern.BeginsAsMeant source) :=
  decidable_of_iff
    (pattern.DerivesOpening source ∧
      beginsAsMeant pattern.opening [] true (marked source) = true)
    ⟨fun ⟨derived, meant⟩ => ⟨derived, meant⟩, fun begins => ⟨begins.derived, begins.meant⟩⟩

instance (pattern : Pattern) (source : Text) : Decidable (pattern.EndsAsMeant source) :=
  decidable_of_iff
    (pattern.DerivesClosing source ∧ everyPiece skipsAlike source = true ∧
      ((marked source).foldl Tail.pass {}).asMeant = true)
    ⟨fun ⟨derived, alike, meant⟩ => ⟨derived, alike, meant⟩,
      fun ends => ⟨ends.derived, ends.alike, ends.meant⟩⟩

section

variable {pattern : Pattern} {source : Text} {final : Progress} {start stop : Cursor} {whole : Text}

theorem BeginsAsMeant.prefix_of_leads (begins : pattern.BeginsAsMeant source)
    (some : pattern.opening ≠ []) (pieces : readPieces source.length {} source = .ok final)
    (closed : final.groups = []) (single : final.level.part.expr.isAlternative = false)
    (leads : (Node.ofExpr final.level.part.expr 0).1.Leads start stop)
    (written : start.rest = whole ++ stop.rest) : pattern.opening <+: whole := by
  obtain ⟨⟨_, others⟩, derived, rfl⟩ := Option.map_eq_some_iff.mp begins.derived
  have opens : OpensWith pattern.opening [] true {} := ⟨rfl, rfl, Spelled.start rfl⟩
  have settles := opens.settlesAs (List.length_pos_iff.mpr some) (Nat.le_refl _) derived
    begins.meant pieces
  exact prefix_of_settlesAs settles closed single leads written

theorem EndsAsMeant.suffix_of_leads (ends : pattern.EndsAsMeant source)
    (noFlags : everyPiece setsNoFlags source = true)
    (pieces : readPieces source.length {} source = .ok final)
    (closed : final.groups = []) (single : final.level.part.expr.isAlternative = false)
    (leads : (Node.ofExpr final.level.part.expr 0).1.Leads start stop)
    (written : start.rest = whole ++ stop.rest) : pattern.closing <:+ whole := by
  obtain ⟨⟨opening, others⟩, found, derived⟩ := Option.bind_eq_some_iff.mp ends.derived
  have unflagged : IsUnflagged {} := ⟨rfl, fun _ member => absurd member List.not_mem_nil⟩
  have starts : ClosesWith {} {} := closesWith_of_fixed_nil {}
  have closes := starts.readPieces unflagged (Nat.le_refl _) noFlags ends.alike pieces
  have read := afterGroups_marked (marked source) {} [] fun _ => rfl
  rw [map_fst_marked, afterGroups_of_beforeGroup found, derived] at read
  split at read
  · rw [Option.some.inj read]
    exact suffix_of_closesWith closes ends.meant closed single leads written
  · cases read

end

/-- The delimiters that are read off a source bound the matches of its expression. Let a pattern be
made of a source that sets no flags and has no alternatives at its top. Every match in every text
begins with the opening delimiter, if the expression means by it what it says, and ends with the
closing delimiter, if it does so by that one. -/
theorem derived_delimiters_bound_matches {source : Text} {pattern : Pattern}
    (made : ofSource source = .ok pattern) (noFlags : everyPiece setsNoFlags source = true)
    (single : (Regex.read source).toOption.any Expr.isAlternative = false) {text : Text}
    {piece : Piece} (member : piece ∈ (pattern.regex.cut text).pieces) :
    (pattern.BeginsAsMeant source → pattern.opening <+: piece.whole) ∧
      (pattern.EndsAsMeant source → pattern.closing <:+ piece.whole) := by
  unfold ofSource at made
  split at made
  · rename_i regex compiled
    obtain ⟨sameOpening, rfl⟩ := withDerived_ok made
    obtain ⟨_, final, pieces, closed, parsed, program⟩ := readPieces_of_compile compiled
    obtain ⟨start, stop, leads, _, written⟩ := leadsOver_of_mem_cut member
    rw [program] at leads
    rw [parsed] at single
    have some : pattern.opening ≠ [] := sameOpening ▸ (derive_ne_nil source).1
    exact ⟨fun begins => begins.prefix_of_leads some pieces closed single leads written,
      fun ends => ends.suffix_of_leads noFlags pieces closed single leads written⟩
  · cases made

/-- Whether a source has a pattern with a given property. -/
instance decidableExistsOfSource {source : Text} {holds : Pattern → Prop} [DecidablePred holds] :
    Decidable (∃ pattern, ofSource source = .ok pattern ∧ holds pattern) :=
  decidable_of_iff (∃ pattern ∈ (ofSource source).toOption, holds pattern) <| by
    cases ofSource source with
    | error cause =>
      constructor
      · rintro ⟨_, member, _⟩
        cases member
      · rintro ⟨_, same, _⟩
        cases same
    | ok made =>
      constructor
      · rintro ⟨_, member, found⟩
        cases member
        exact ⟨made, rfl, found⟩
      · rintro ⟨_, same, found⟩
        cases same
        exact ⟨made, rfl, found⟩

/-- Angles around a path, each side of which may have more of them than two. -/
def anglesSource : Text :=
  "<+<([a-z]+)\\s*>>+".toList

/-- The match takes all of the angles, and so begins and ends with the two of its delimiters. -/
theorem derived_delimiters_bound_matches_angles :
    ∃ pattern, ofSource anglesSource = .ok pattern ∧
      everyPiece setsNoFlags anglesSource = true ∧
      (Regex.read anglesSource).toOption.any Expr.isAlternative = false ∧
      pattern.BeginsAsMeant anglesSource ∧ pattern.EndsAsMeant anglesSource ∧
      ∃ piece ∈ (pattern.regex.cut "a <<<b >>>> c".toList).pieces,
        piece.whole = "<<<b >>>>".toList ∧ pattern.opening <+: piece.whole ∧
          pattern.closing <:+ piece.whole := by
  have noFlags : everyPiece setsNoFlags anglesSource = true := by decide +kernel
  have single : (Regex.read anglesSource).toOption.any Expr.isAlternative = false := by
    decide +kernel
  obtain ⟨pattern, made, begins, ends, piece, member, whole⟩ :
      ∃ pattern, ofSource anglesSource = .ok pattern ∧ pattern.BeginsAsMeant anglesSource ∧
        pattern.EndsAsMeant anglesSource ∧
        ∃ piece ∈ (pattern.regex.cut "a <<<b >>>> c".toList).pieces,
          piece.whole = "<<<b >>>>".toList :=
    by decide +kernel
  have bounds := derived_delimiters_bound_matches made noFlags single member
  exact ⟨pattern, made, noFlags, single, begins, ends, piece, member, whole, bounds.1 begins,
    bounds.2 ends⟩

/-- The opening delimiter is read off the source, but a match in the text does not begin with it. -/
def OpensElsewhere (source text : String) : Prop :=
  ∃ pattern, ofSource source.toList = .ok pattern ∧ everyPiece setsNoFlags source.toList = true ∧
    pattern.DerivesOpening source.toList ∧
    ∃ piece ∈ (pattern.regex.cut text.toList).pieces, ¬ pattern.opening <+: piece.whole

/-- The closing delimiter is read off the source, but a match in the text does not end with it. -/
def ClosesElsewhere (source text : String) : Prop :=
  ∃ pattern, ofSource source.toList = .ok pattern ∧ everyPiece setsNoFlags source.toList = true ∧
    pattern.DerivesClosing source.toList ∧
    ∃ piece ∈ (pattern.regex.cut text.toList).pieces, ¬ pattern.closing <:+ piece.whole

instance (source text : String) : Decidable (OpensElsewhere source text) :=
  inferInstanceAs (Decidable (∃ _, _ ∧ _))

instance (source text : String) : Decidable (ClosesElsewhere source text) :=
  inferInstanceAs (Decidable (∃ _, _ ∧ _))

/-- In turn, the delimiter belongs to another alternative than the match, and holds a character once
that the expression repeats next to a different one. -/
theorem derived_delimiters_miss_matches :
    OpensElsewhere "<(a)|b" "b" ∧ ClosesElsewhere "(a)>|b" "a>" ∧
      OpensElsewhere "a+b([a-z])" "aabc" ∧ ClosesElsewhere "([a-z])bc+" "abcc" := by
  decide +kernel

end Pattern

end Stencil
