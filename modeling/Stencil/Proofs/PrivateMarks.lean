/-
This file proves which paths a run tells of: the ones it asks the resolver for, searches the
variables for, reports as unresolved or fails for.

A placeholder may hold an escaped delimiter, and then its path holds the mark of it; for marks are
undone only when a text has been substituted. What can be said in every case is that such a path,
with each mark written back as the escape and the delimiter it stands for, is a part of the string
of the template, if the first pass meets it. Where no string of the template holds an escaped
delimiter, nothing brings in a mark: a pass takes paths out of its text and puts values into it, and
a value is written without marks if its strings hold none. Then no path holds a mark.
-/

import Stencil.Proofs.CutPieces
import Stencil.Proofs.JsonText
import Stencil.Proofs.Leaves
import Stencil.Proofs.Trimming

namespace Stencil

/-! ### Paths and values -/

namespace Substitution

open Json (EveryText)
open Escaping (Unmarked)

/-- A value is shown without marks if its strings and keys hold none. -/
theorem unmarked_render {value : Json} (unmarked : EveryText Unmarked value) :
    Unmarked (render value) := by
  cases value with
  | string text => exact Json.everyText_string.mp unmarked
  | number number =>
    exact Json.unmarked_of_isNumberCharacter fun _ => Json.Number.isNumberCharacter_of_mem_plainText
  | null => exact Json.unmarked_text _ unmarked
  | bool flag => exact Json.unmarked_text _ unmarked
  | array items => exact Json.unmarked_text _ unmarked
  | object members => exact Json.unmarked_text _ unmarked

end Substitution

namespace Template

open Json (EveryText)
open Escaping (Unmarked)
open Substitution

/-! ### Paths that a run tells of -/

/-- No path that the journal tells of holds a mark. -/
def PathsUnmarked (journal : Journal) : Prop :=
  ∀ entry ∈ journal, ∀ path ∈ pathOf? entry, Unmarked path

/-- A resolver that has been asked without marks answers without marks. -/
def AnswersUnmarked (resolver : Resolver) : Prop :=
  ∀ history path value, (∀ earlier ∈ history, Unmarked earlier) → Unmarked path →
    resolver.reply history path = .ok (some value) → EveryText Unmarked value

/-- Started where no path holds a mark, the part tells of none that does, fails for none, and what
it answers is good. -/
def KeepsPrivate {Result : Type} (good : Result → Prop) (part : Run Result) : Prop :=
  ∀ journal, PathsUnmarked journal → PathsUnmarked (run part journal).2 ∧
    (∀ value, (run part journal).1 = .ok value → good value) ∧
      ∀ path, (run part journal).1 = .error (.missingVariable path) → Unmarked path

theorem PathsUnmarked.append {journal added : Journal} (start : PathsUnmarked journal)
    (more : PathsUnmarked added) : PathsUnmarked (journal ++ added) :=
  fun entry member => (List.mem_append.mp member).elim (start entry) (more entry)

theorem PathsUnmarked.one {entry : Entry} (unmarked : ∀ path ∈ pathOf? entry, Unmarked path) :
    PathsUnmarked [entry] := by
  intro other member
  rw [List.mem_singleton.mp member]
  exact unmarked

theorem PathsUnmarked.asked {journal : Journal} (start : PathsUnmarked journal) :
    ∀ path ∈ journal.asked, Unmarked path := by
  intro path member
  obtain ⟨entry, present, told⟩ := List.mem_filterMap.mp member
  cases entry with
  | asked other =>
    cases told
    exact start _ present path rfl
  | _ => cases told

namespace KeepsPrivate

variable {First Second : Type} {good : First → Prop} {goodToo : Second → Prop}

theorem pure {value : First} (holds : good value) : KeepsPrivate good (Pure.pure value) := by
  refine fun journal start => ⟨start, ?_, ?_⟩
  · rintro other ⟨⟩
    exact holds
  · rintro path ⟨⟩

theorem throw {failure : Failure}
    (holds : ∀ path, failure = .missingVariable path → Unmarked path) :
    KeepsPrivate good (MonadExcept.throw failure) := by
  refine fun journal start => ⟨start, ?_, ?_⟩
  · rintro other ⟨⟩
  · intro path same
    exact holds path (Except.error.inj same)

theorem note {entry : Entry} (holds : ∀ path ∈ pathOf? entry, Unmarked path) :
    KeepsPrivate (fun _ => True) (Run.note entry) :=
  fun journal start => ⟨start.append (PathsUnmarked.one holds), fun _ _ => trivial,
    fun path failed => by cases failed⟩

theorem bind {part : Run First} {next : First → Run Second} (first : KeepsPrivate good part)
    (second : ∀ value, good value → KeepsPrivate goodToo (next value)) :
    KeepsPrivate goodToo (part >>= next) := by
  intro journal start
  obtain ⟨unmarked, answers, fails⟩ := first journal start
  rcases run_ends part journal with ⟨value, reached, ended⟩ | ⟨failure, reached, ended⟩
  · rw [run_bind_of_ok next ended]
    rw [ended] at unmarked answers
    exact second value (answers value rfl) reached unmarked
  · rw [run_bind_of_error next ended]
    rw [ended] at unmarked fails
    refine ⟨unmarked, ?_, ?_⟩
    · rintro value ⟨⟩
    · intro path same
      exact fails path (congrArg Except.error (Except.error.inj same))

end KeepsPrivate

section

variable {settings : Settings} {bindings : Json}

/-! ### Passes -/

section

variable (bound : EveryText Unmarked bindings)
  (replies : ∀ resolver ∈ settings.resolver, AnswersUnmarked resolver)

include bound in
theorem search_keepsPrivate {path : Text} (unmarked : Unmarked path) :
    KeepsPrivate (fun answer => ∀ value ∈ answer, EveryText Unmarked value)
      (Run.search bindings path) := by
  refine KeepsPrivate.bind (KeepsPrivate.note ?_) fun _ _ => KeepsPrivate.pure ?_
  · rintro other ⟨⟩
    exact unmarked
  · exact fun value found => bound.inside (Path.inside_of_lookup found)

theorem ask_keepsPrivate {resolver : Resolver} (answers : AnswersUnmarked resolver) {path : Text}
    (unmarked : Unmarked path) :
    KeepsPrivate (fun answer => ∀ value ∈ answer, EveryText Unmarked value)
      (Run.ask resolver path) := by
  intro journal start
  rw [Run.ask, run_get_bind]
  refine KeepsPrivate.bind (KeepsPrivate.note ?_) (fun _ _ => ?_) journal start
  · rintro other ⟨⟩
    exact unmarked
  · split
    · rename_i answer replied
      refine KeepsPrivate.pure ?_
      rintro value ⟨⟩
      exact answers _ path value start.asked unmarked replied
    · exact KeepsPrivate.throw fun path same => by cases same

include bound replies in
theorem resolve_keepsPrivate (pass : Nat) {path : Text} (unmarked : Unmarked path) :
    KeepsPrivate (fun answer => ∀ value ∈ answer, EveryText Unmarked value)
      (resolve settings bindings pass path) := by
  unfold resolve
  split
  · exact KeepsPrivate.pure fun value found => by cases found
  · split
    · exact search_keepsPrivate bound unmarked
    · rename_i resolver configured
      refine KeepsPrivate.bind (ask_keepsPrivate (replies resolver configured) unmarked)
        fun answer good => ?_
      cases answer with
      | some value => exact KeepsPrivate.pure good
      | none => exact search_keepsPrivate bound unmarked

include bound replies in
theorem expand_keepsPrivate (pass : Nat) {piece : Regex.Piece} (whole : Unmarked piece.whole)
    (group : Unmarked (piece.group.getD [])) :
    KeepsPrivate (fun outcome => Unmarked outcome.1) (expand settings bindings pass piece) := by
  have trimmed : Unmarked (piece.group.getD []).trim :=
    group.part fun _ => Text.mem_of_mem_trim
  refine KeepsPrivate.bind (resolve_keepsPrivate bound replies pass trimmed)
    fun answer good => ?_
  cases answer with
  | none =>
    dsimp only
    split
    · refine KeepsPrivate.throw ?_
      rintro path ⟨⟩
      exact group
    · refine KeepsPrivate.bind (KeepsPrivate.note ?_) fun _ _ => KeepsPrivate.pure ?_
      · rintro path ⟨⟩
        exact trimmed
      · dsimp only
        split
        · exact whole
        · decide
  | some value =>
    have unmarked := good value rfl
    dsimp only
    split
    · exact KeepsPrivate.pure (Json.unmarked_text value unmarked)
    · exact KeepsPrivate.pure (unmarked_render unmarked)

include bound replies in
theorem expandAll_keepsPrivate (pass : Nat) {pieces : List Regex.Piece}
    (unmarked : ∀ piece ∈ pieces, Unmarked piece.skipped ∧ Unmarked piece.whole ∧
      Unmarked (piece.group.getD [])) :
    KeepsPrivate (fun outcome => Unmarked outcome.1) (expandAll settings bindings pass pieces) := by
  induction pieces with
  | nil => exact KeepsPrivate.pure (by decide)
  | cons piece later inductionHypothesis =>
    obtain ⟨skipped, whole, group⟩ := unmarked piece List.mem_cons_self
    have others := inductionHypothesis fun other member =>
      unmarked other (List.mem_cons_of_mem _ member)
    refine KeepsPrivate.bind (expand_keepsPrivate bound replies pass whole group)
      fun expanded good => KeepsPrivate.bind others fun rest goodRest => KeepsPrivate.pure ?_
    exact (skipped.append good).append goodRest

include bound replies in
theorem onePass_keepsPrivate (pass : Nat) {text : Text} (unmarked : Unmarked text) :
    KeepsPrivate (fun outcome => Unmarked outcome.1) (onePass settings bindings pass text) := by
  have written := unmarked
  rw [← settings.pattern.regex.cut_written text] at written
  have tail : Unmarked (settings.pattern.regex.cut text).tail :=
    written.part fun _ member => List.mem_append_right _ member
  refine KeepsPrivate.bind (expandAll_keepsPrivate bound replies pass ?_)
    fun expanded good => KeepsPrivate.pure (good.append tail)
  intro piece member
  have inside : Unmarked (piece.skipped ++ piece.whole) :=
    written.part fun _ part => List.mem_append_left _ (List.mem_flatMap.mpr ⟨piece, member, part⟩)
  refine ⟨inside.part fun _ => List.mem_append_left _,
    inside.part fun _ => List.mem_append_right _, ?_⟩
  cases took : piece.group with
  | none => decide
  | some group =>
    have stands := settings.pattern.regex.group_infix_cut member took
    exact unmarked.part fun _ part => stands.subset part

include bound replies in
theorem passes_keepsPrivate {remaining pass : Nat} {text : Text} (unmarked : Unmarked text) :
    KeepsPrivate Unmarked (passes settings bindings remaining pass text) := by
  induction remaining generalizing pass text with
  | zero =>
    refine KeepsPrivate.bind (KeepsPrivate.note fun path told => by cases told)
      fun _ _ => KeepsPrivate.pure unmarked
  | succ remaining inductionHypothesis =>
    refine KeepsPrivate.bind (onePass_keepsPrivate bound replies pass unmarked)
      fun outcome good => KeepsPrivate.bind (KeepsPrivate.note fun path told => by cases told)
        fun _ _ => ?_
    split
    · exact inductionHypothesis good
    · exact KeepsPrivate.pure good

/-! ### Templates -/

theorem finish_keepsPrivate (text : Text) :
    KeepsPrivate (fun _ => True) (finish settings text) := by
  intro journal start
  obtain ⟨added, grown, kinds⟩ := finish_adds settings text journal
  refine ⟨?_, fun _ _ => trivial, ?_⟩
  · rw [grown]
    refine start.append fun entry member path told => ?_
    rw [pathOf?_of_isFinish (kinds entry member)] at told
    cases told
  · intro path failed
    obtain ⟨message, other⟩ := finish_error settings (Prod.ext failed rfl)
    cases other

include bound replies in
/-- A string without marks and without escaped delimiters is compiled without telling of a path
that holds a mark. -/
theorem compileText_keepsPrivate {text : Text} (unmarked : Unmarked text)
    (bare : Escaping.mark settings.pattern settings.escape text = text) :
    KeepsPrivate (fun _ => True) (compileText settings bindings text) := by
  rw [compileText_eq, bare]
  exact KeepsPrivate.bind (passes_keepsPrivate bound replies unmarked)
    fun substituted _ => finish_keepsPrivate _

include bound replies in
theorem inTurn_keepsPrivate {texts : List Text}
    (bare : ∀ text ∈ texts, Unmarked text ∧
      Escaping.mark settings.pattern settings.escape text = text) :
    KeepsPrivate (fun _ => True) (inTurn settings bindings texts) := by
  induction texts with
  | nil => exact KeepsPrivate.pure trivial
  | cons text rest inductionHypothesis =>
    obtain ⟨unmarked, same⟩ := bare text List.mem_cons_self
    have others := inductionHypothesis fun other member =>
      bare other (List.mem_cons_of_mem _ member)
    exact KeepsPrivate.bind (compileText_keepsPrivate bound replies unmarked same)
      fun _ _ => KeepsPrivate.bind others fun _ _ => KeepsPrivate.pure trivial

end

/-! ### Paths that lead to nothing on the first pass -/

theorem resolve_error {pass : Nat} {path : Text} {failure : Failure} {journal reached : Journal}
    (ended : run (resolve settings bindings pass path) journal = (.error failure, reached)) :
    ∃ message, failure = .resolver message := by
  unfold resolve at ended
  split at ended
  · cases ended
  · split at ended
    · cases ended
    · rename_i resolver _
      rcases run_bind_error ended with asking | ⟨answer, between, _, searching⟩
      · rw [Run.ask, run_get_bind, run_note_bind] at asking
        split at asking
        · cases asking
        · cases asking
          exact ⟨_, rfl⟩
      · cases answer with
        | some value => cases searching
        | none => cases searching

/-- The path of a missing variable is the group of a piece. -/
theorem expandAll_missing {pass : Nat} {pieces : List Regex.Piece} {path : Text}
    {journal reached : Journal}
    (ended : run (expandAll settings bindings pass pieces) journal =
      (.error (.missingVariable path), reached)) :
    ∃ piece ∈ pieces, path = piece.group.getD [] := by
  induction pieces generalizing journal with
  | nil => cases ended
  | cons piece later inductionHypothesis =>
    rcases run_bind_error ended with expanding | ⟨expanded, between, _, others⟩
    · refine ⟨piece, List.mem_cons_self, ?_⟩
      rcases run_bind_error expanding with resolving | ⟨answer, after, _, answered⟩
      · obtain ⟨message, other⟩ := resolve_error resolving
        cases other
      · cases answer with
        | none =>
          dsimp only at answered
          split at answered
          · cases answered
            rfl
          · cases answered
        | some value =>
          dsimp only at answered
          split at answered <;> cases answered
    · rcases run_bind_error others with failing | ⟨rest, after, _, done⟩
      · obtain ⟨other, member, same⟩ := inductionHypothesis failing
        exact ⟨other, List.mem_cons_of_mem _ member, same⟩
      · cases done

/-- The path of a missing variable stands in the text of the pass. -/
theorem onePass_missing {pass : Nat} {text path : Text} {journal reached : Journal}
    (ended : run (onePass settings bindings pass text) journal =
      (.error (.missingVariable path), reached)) : path <:+: text := by
  rcases run_bind_error ended with expanding | ⟨expanded, between, _, done⟩
  · obtain ⟨piece, member, rfl⟩ := expandAll_missing expanding
    cases took : piece.group with
    | none => exact List.nil_infix
    | some group => exact settings.pattern.regex.group_infix_cut member took
  · cases done

/-- If a string fails for a missing variable before any pass has come to its end, then its first
pass fails. -/
theorem compileText_missing {text path : Text} {journal added : Journal}
    (ended : run (compileText settings bindings text) journal =
      (.error (.missingVariable path), journal ++ added))
    (first : ∀ pass changed, Entry.passComplete pass changed ∉ added) :
    run (onePass settings bindings 1 (Escaping.mark settings.pattern settings.escape text))
      journal = (.error (.missingVariable path), journal ++ added) := by
  rw [compileText_eq] at ended
  rcases run_bind_error ended with substituting | ⟨substituted, between, _, finishing⟩
  · rw [substitute] at substituting
    cases cap : settings.maxPasses with
    | zero =>
      rw [cap] at substituting
      cases substituting
    | succ remaining =>
      rw [cap] at substituting
      rcases run_ends (onePass settings bindings 1
          (Escaping.mark settings.pattern settings.escape text)) journal with
        ⟨⟨next, changed⟩, reached, once⟩ | ⟨failure, reached, once⟩
      · by_cases again : (changed && Text.includes settings.pattern.opening next) = true
        · -- the pass has come to its end, and its entry stays in the journal
          obtain ⟨before, grown, _⟩ := onePass_adds settings bindings 1
            (Escaping.mark settings.pattern settings.escape text) journal
          obtain ⟨after, grownAgain, _⟩ := passes_adds settings bindings remaining (1 + 1) next
            (reached ++ [.passComplete 1 changed])
          rw [once] at grown
          rw [run_passes_of_again once again] at substituting
          rw [substituting] at grownAgain
          dsimp only at grown grownAgain
          rw [grown, List.append_assoc, List.append_assoc, List.append_cancel_left_eq]
            at grownAgain
          refine absurd ?_ (first 1 changed)
          rw [grownAgain]
          exact List.mem_append_right _ (List.mem_append_left _ List.mem_cons_self)
        · rw [run_passes_of_stop once again] at substituting
          cases substituting
      · rw [run_passes_of_error once] at substituting
        cases substituting
        exact once
  · obtain ⟨message, other⟩ := finish_error settings finishing
    cases other

/-! ### Whole templates -/

theorem compileText_grows (settings : Settings) (bindings : Json) (text : Text)
    (journal : Journal) :
    ∃ added, (run (compileText settings bindings text) journal).2 = journal ++ added := by
  have grows : Adds (fun _ => True) (compileText settings bindings text) :=
    Adds.bind ((substitute_adds settings bindings _).mono fun _ _ => trivial) fun _ =>
      (finish_adds settings _).mono fun _ _ => trivial
  obtain ⟨added, grown, _⟩ := grows journal
  exact ⟨added, grown⟩

/-- A template fails for a missing variable where one of its strings does. -/
theorem compile_missing {template : Json} {path : Text} {journal reached : Journal}
    (ended : run (compile settings bindings template) journal =
      (.error (.missingVariable path), reached)) :
    ∃ text ∈ template.leaves, ∃ between,
      run (compileText settings bindings text) between =
        (.error (.missingVariable path), reached) := by
  have byLeaf := compile_leafByLeaf settings bindings template
  rcases run_ends (inTurn settings bindings template.leaves) journal with
    ⟨values, last, inOrder⟩ | ⟨failure, last, inOrder⟩
  · rw [byLeaf.value inOrder] at ended
    cases ended
  · rw [byLeaf.failure inOrder] at ended
    cases ended
    obtain ⟨before, text, later, values, between, split, _, fails⟩ := inTurn_failure inOrder
    refine ⟨text, ?_, between, fails⟩
    rw [split]
    exact List.mem_append_right _ List.mem_cons_self

/-- A template whose strings hold neither marks nor escaped delimiters is compiled without telling
of a path that holds a mark. -/
theorem compile_keepsPrivate (bound : EveryText Unmarked bindings)
    (replies : ∀ resolver ∈ settings.resolver, AnswersUnmarked resolver) {template : Json}
    (bare : ∀ text ∈ template.leaves, Unmarked text ∧
      Escaping.mark settings.pattern settings.escape text = text) :
    KeepsPrivate (fun _ => True) (compile settings bindings template) := by
  intro journal start
  have inTurn := inTurn_keepsPrivate bound replies bare journal start
  have byLeaf := compile_leafByLeaf settings bindings template
  rcases run_ends (Template.inTurn settings bindings template.leaves) journal with
    ⟨values, last, inOrder⟩ | ⟨failure, last, inOrder⟩
  · rw [inOrder] at inTurn
    rw [byLeaf.value inOrder]
    exact ⟨inTurn.1, fun _ _ => trivial, fun path failed => by cases failed⟩
  · rw [inOrder] at inTurn
    rw [byLeaf.failure inOrder]
    exact ⟨inTurn.1, fun _ _ => trivial, fun path failed =>
      inTurn.2.2 path (congrArg Except.error (Except.error.inj failed))⟩

/-- If a template fails for a missing variable, one of its strings does; and if that is so before
any pass over the string has come to its end, the path, with its marks written back, is a part of
the string. Where no string of the template holds an escaped delimiter, there is nothing to be
written back: no path that the run asks or searches for, reports or fails for holds a mark. -/
theorem missing_path_as_written (settings : Settings) (bindings template : Json)
    (journal : Journal) (escape : Unmarked settings.escape)
    (closing : Unmarked settings.pattern.closing)
    (unmarked : ∀ text ∈ template.leaves, Unmarked text) (bound : EveryText Unmarked bindings)
    (replies : ∀ resolver ∈ settings.resolver, AnswersUnmarked resolver)
    (start : PathsUnmarked journal) :
    (∀ path reached, run (compile settings bindings template) journal =
        (.error (.missingVariable path), reached) →
      ∃ text ∈ template.leaves, ∃ between added, reached = between ++ added ∧
        run (compileText settings bindings text) between =
          (.error (.missingVariable path), reached) ∧
        ((∀ pass changed, Entry.passComplete pass changed ∉ added) →
          Escaping.restore settings.pattern settings.escape path <:+: text)) ∧
      ((∀ text ∈ template.leaves, Escaping.mark settings.pattern settings.escape text = text) →
        PathsUnmarked (run (compile settings bindings template) journal).2 ∧
          ∀ path, (run (compile settings bindings template) journal).1 =
            .error (.missingVariable path) → Unmarked path ∧
              Escaping.restore settings.pattern settings.escape path = path) := by
  constructor
  · intro path reached ended
    obtain ⟨text, member, between, fails⟩ := compile_missing ended
    obtain ⟨added, grown⟩ := compileText_grows settings bindings text between
    rw [fails] at grown
    dsimp only at grown
    subst grown
    refine ⟨text, member, between, added, rfl, fails, fun first => ?_⟩
    have inside := Escaping.isInfix_restore settings.pattern settings.escape
      (onePass_missing (compileText_missing fails first))
    rw [Escaping.restore_mark escape closing (unmarked text member)] at inside
    exact inside
  · intro bare
    obtain ⟨paths, _, failed⟩ := compile_keepsPrivate bound replies
      (fun text member => ⟨unmarked text member, bare text member⟩) journal start
    exact ⟨paths, fun path missing => ⟨failed path missing,
      Escaping.restore_of_unmarked _ _ (failed path missing)⟩⟩

/-- Strict settings with a resolver that repeats its path, unless that holds a blank. -/
def repeatingSettings : Settings :=
  { strict := true,
    resolver := some ⟨fun _ path =>
      .ok (if ' ' ∈ path then none else some (.string path))⟩ }

/-- A template whose second placeholder leads to nothing. -/
def twoPlaceholders : Json :=
  .array [.bool true, .string "a\\b {{ c }} {{ d e }}".toList]

/-- The failure and the journal of a run, if it fails. -/
def failed? {Result : Type} (outcome : Except Failure Result × Journal) :
    Option (Failure × Journal) :=
  match outcome with
  | (.error failure, journal) => some (failure, journal)
  | (.ok _, _) => none

theorem eq_of_failed? {Result : Type} {outcome : Except Failure Result × Journal}
    {failure : Failure} {journal : Journal} (failed : failed? outcome = some (failure, journal)) :
    outcome = (.error failure, journal) := by
  obtain ⟨result, reached⟩ := outcome
  cases result with
  | ok value => cases failed
  | error other =>
    cases failed
    rfl

/-- The failing path is told as it is written, with the blanks around it. -/
theorem missing_path_as_written_blanks :
    run (compile repeatingSettings .null twoPlaceholders) [] =
        (.error (.missingVariable " d e ".toList),
          [.asked "c".toList, .asked "d e".toList, .searched "d e".toList]) ∧
      PathsUnmarked (run (compile repeatingSettings .null twoPlaceholders) []).2 ∧
      ∃ text ∈ twoPlaceholders.leaves, " d e ".toList <:+: text := by
  have fails : run (compile repeatingSettings .null twoPlaceholders) [] =
      (.error (.missingVariable " d e ".toList),
        [.asked "c".toList, .asked "d e".toList, .searched "d e".toList]) :=
    eq_of_failed? (by decide +kernel)
  have replies : ∀ resolver ∈ repeatingSettings.resolver, AnswersUnmarked resolver := by
    rintro resolver ⟨⟩ history path value _ unmarked replied
    dsimp only at replied
    split at replied
    · cases replied
    · cases replied
      exact Json.everyText_string.mpr unmarked
  obtain ⟨written, unmarked⟩ := missing_path_as_written repeatingSettings .null twoPlaceholders []
    (by decide) (by decide +kernel) (by decide +kernel)
    (Json.everyText_of_scalar rfl fun _ same => by cases same) replies
    (fun _ member => absurd member List.not_mem_nil)
  obtain ⟨journalUnmarked, told⟩ := unmarked (by decide +kernel)
  obtain ⟨text, member, between, added, reached, _, firstPass⟩ := written _ _ fails
  refine ⟨fails, journalUnmarked, text, member, ?_⟩
  have inside := firstPass fun pass changed inside => by
    have present : Entry.passComplete pass changed ∈
        [.asked "c".toList, .asked "d e".toList, .searched "d e".toList] := by
      rw [reached]
      exact List.mem_append_right _ inside
    simp at present
  rwa [(told " d e ".toList (by rw [fails])).2] at inside

/-- A placeholder that holds an escaped delimiter is told with the mark of it. -/
theorem missing_path_holds_mark :
    run (compile { strict := true } .null
        (.string "\x7b\x7ba\\\x7d\x7db\x7d\x7d".toList)) [] =
      (.error (.missingVariable ['a', Escaping.closingMark, 'b']),
        [.searched ['a', Escaping.closingMark, 'b']]) :=
  eq_of_failed? (by decide +kernel)

end

end Template

end Stencil
