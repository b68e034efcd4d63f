/-
This file proves that a pass is an exact splice. The matches of the expression are resolved from
left to right, each of them once; what stands between them is kept, once and in order; and in the
place of each match stands the text of its value, or where there is none the match itself or
nothing. A pass that fails has resolved the matches up to the one at which it fails, and no other.

The answers and the journal that carries them from match to match are one relation on the pieces of
the text, and what the loop over the pieces does follows from what it does with one of them.
-/

import Stencil.Proofs.CutPieces
import Stencil.Proofs.OnePass

namespace Stencil.Template

open Substitution

section

variable (settings : Settings) (bindings : Json) (pass : Nat)

/-! ### Answers and texts -/

/-- The path of a match: the text of its first group, or none if the group took no part. -/
def pathOf (piece : Regex.Piece) : Text :=
  piece.group.getD []

/-- A path is resolved without the blanks around it. -/
def resolveMatch (piece : Regex.Piece) : Run (Option Json) :=
  resolve settings bindings pass (pathOf piece).trim

/-- The entries for an answer: a path that led to nothing is reported. -/
def reportOf (piece : Regex.Piece) : Option Json → Journal
  | none => [.unresolved (pathOf piece).trim pass]
  | some _ => []

/-- The matches have been resolved one after another, each of them once, with these answers, and
none of the answers ends the pass. -/
inductive Resolved : List Regex.Piece → Journal → List (Option Json) → Journal → Prop
  | nil (journal : Journal) : Resolved [] journal [] journal
  | cons {piece : Regex.Piece} {later : List Regex.Piece} {journal between reached : Journal}
      {answer : Option Json} {answers : List (Option Json)}
      (first : run (resolveMatch settings bindings pass piece) journal = (.ok answer, between))
      (goesOn : answer = none → settings.strict = false)
      (rest : Resolved later (between ++ reportOf pass piece answer) answers reached) :
      Resolved (piece :: later) journal (answer :: answers) reached

/-- What stands in the place of a match. -/
def replacement (piece : Regex.Piece) : Option Json → Text
  | none => if settings.keepUnresolved then piece.whole else []
  | some value => render value

/-- The pieces with the matches replaced. -/
def spliced (pieces : List Regex.Piece) (answers : List (Option Json)) : Text :=
  (pieces.zipWith (fun piece answer => piece.skipped ++ replacement settings piece answer)
    answers).flatten

/-- Whether an answer counts as progress: it is a value that is not final. -/
def isProgress : Option Json → Bool
  | none => false
  | some value => !isFinal settings value

/-- The match at which a pass fails: resolving it fails, or it leads to nothing in a strict run. -/
def FailsAt (piece : Regex.Piece) (journal : Journal) (failure : Failure)
    (reached : Journal) : Prop :=
  run (resolveMatch settings bindings pass piece) journal = (.error failure, reached) ∨
    (run (resolveMatch settings bindings pass piece) journal = (.ok none, reached) ∧
      settings.strict = true ∧ failure = .missingVariable (pathOf piece))

end

section

variable {settings : Settings} {bindings : Json} {pass : Nat}

/-! ### One match -/

theorem run_expand_of_some {piece : Regex.Piece} {journal between : Journal} {value : Json}
    (resolved : run (resolveMatch settings bindings pass piece) journal =
      (.ok (some value), between)) :
    run (expand settings bindings pass piece) journal =
      (.ok (render value, !isFinal settings value), between) := by
  refine (run_bind_of_ok _ resolved).trans ?_
  dsimp only
  rw [← isFinal]
  cases final : isFinal settings value with
  | true => rw [render_of_isFinal final]; rfl
  | false => rfl

theorem run_expand_of_none {piece : Regex.Piece} {journal between : Journal}
    (lenient : settings.strict = false)
    (resolved : run (resolveMatch settings bindings pass piece) journal = (.ok none, between)) :
    run (expand settings bindings pass piece) journal =
      (.ok (replacement settings piece none, false), between ++ reportOf pass piece none) := by
  refine (run_bind_of_ok _ resolved).trans ?_
  dsimp only
  rw [lenient, if_neg Bool.false_ne_true, run_note_bind]
  rfl

theorem run_expand_of_failsAt {piece : Regex.Piece} {journal reached : Journal} {failure : Failure}
    (fails : FailsAt settings bindings pass piece journal failure reached) :
    run (expand settings bindings pass piece) journal = (.error failure, reached) := by
  rcases fails with failed | ⟨resolved, strict, rfl⟩
  · exact run_bind_of_error _ failed
  · refine (run_bind_of_ok _ resolved).trans ?_
    dsimp only
    rw [strict, if_pos rfl]
    rfl

/-- A match whose answer does not end the pass is replaced. -/
theorem run_expand_of_answer {piece : Regex.Piece} {journal between : Journal}
    {answer : Option Json}
    (resolved : run (resolveMatch settings bindings pass piece) journal = (.ok answer, between))
    (goesOn : answer = none → settings.strict = false) :
    run (expand settings bindings pass piece) journal =
      (.ok (replacement settings piece answer, isProgress settings answer),
        between ++ reportOf pass piece answer) := by
  cases answer with
  | none => exact run_expand_of_none (goesOn rfl) resolved
  | some value =>
    rw [run_expand_of_some resolved, reportOf, List.append_nil]
    rfl

/-! ### All matches -/

/-- Either all matches are resolved, or those before one at which the pass fails. -/
theorem resolved_or_failsAt (pieces : List Regex.Piece) (journal : Journal) :
    (∃ answers reached, Resolved settings bindings pass pieces journal answers reached) ∨
      ∃ done failing later answers between failure reached, pieces = done ++ failing :: later ∧
        Resolved settings bindings pass done journal answers between ∧
        FailsAt settings bindings pass failing between failure reached := by
  induction pieces generalizing journal with
  | nil => exact .inl ⟨[], journal, .nil journal⟩
  | cons piece later inductionHypothesis =>
    rcases run_ends (resolveMatch settings bindings pass piece) journal with
      ⟨answer, between, resolved⟩ | ⟨failure, reached, failed⟩
    case inr =>
      exact .inr ⟨[], piece, later, [], journal, failure, reached, rfl, .nil journal, .inl failed⟩
    by_cases goesOn : answer = none → settings.strict = false
    case neg =>
      obtain ⟨rfl, strict⟩ := Classical.not_imp.mp goesOn
      exact .inr ⟨[], piece, later, [], journal, _, between, rfl, .nil journal,
        .inr ⟨resolved, eq_true_of_ne_false strict, rfl⟩⟩
    rcases inductionHypothesis (between ++ reportOf pass piece answer) with
      ⟨answers, reached, rest⟩ |
      ⟨done, failing, more, answers, stop, failure, reached, rfl, rest, fails⟩
    · exact .inl ⟨answer :: answers, reached, .cons resolved goesOn rest⟩
    · exact .inr ⟨piece :: done, failing, more, answer :: answers, stop, failure, reached, rfl,
        .cons resolved goesOn rest, fails⟩

/-- Resolved matches are replaced, and what they are skipped to reach is kept. -/
theorem run_expandAll_of_resolved {pieces : List Regex.Piece} {journal reached : Journal}
    {answers : List (Option Json)}
    (resolved : Resolved settings bindings pass pieces journal answers reached) :
    run (expandAll settings bindings pass pieces) journal =
      (.ok (spliced settings pieces answers, answers.any (isProgress settings)), reached) := by
  induction resolved with
  | nil journal => rfl
  | cons first goesOn rest inductionHypothesis =>
    rw [expandAll, run_bind_of_ok _ (run_expand_of_answer first goesOn)]
    dsimp only
    rw [run_bind_of_ok _ inductionHypothesis]
    rfl

/-- A match at which the pass fails ends it, and the matches behind are not resolved. -/
theorem run_expandAll_of_failsAt {done later : List Regex.Piece} {failing : Regex.Piece}
    {journal between reached : Journal} {answers : List (Option Json)} {failure : Failure}
    (resolved : Resolved settings bindings pass done journal answers between)
    (fails : FailsAt settings bindings pass failing between failure reached) :
    run (expandAll settings bindings pass (done ++ failing :: later)) journal =
      (.error failure, reached) := by
  induction resolved with
  | nil journal => exact run_bind_of_error _ (run_expand_of_failsAt fails)
  | cons first goesOn rest inductionHypothesis =>
    rw [List.cons_append, expandAll, run_bind_of_ok _ (run_expand_of_answer first goesOn)]
    exact run_bind_of_error _ (inductionHypothesis fails)

/-- Where nothing resolves and unresolved matches are kept, the pieces are what they were. -/
theorem spliced_of_unresolved (keeps : settings.keepUnresolved = true)
    {pieces : List Regex.Piece} {journal reached : Journal} {answers : List (Option Json)}
    (resolved : Resolved settings bindings pass pieces journal answers reached)
    (nothing : ∀ answer ∈ answers, answer = none) :
    spliced settings pieces answers =
        pieces.flatMap (fun piece => piece.skipped ++ piece.whole) ∧
      answers.any (isProgress settings) = false := by
  induction resolved with
  | nil journal => exact ⟨rfl, rfl⟩
  | cons first goesOn rest inductionHypothesis =>
    obtain ⟨same, noProgress⟩ := inductionHypothesis fun answer later =>
      nothing answer (List.mem_cons_of_mem _ later)
    obtain rfl := nothing _ List.mem_cons_self
    rw [List.any_cons, noProgress]
    refine ⟨?_, rfl⟩
    rw [List.flatMap_cons, ← same, spliced, List.zipWith_cons_cons, replacement, if_pos keeps]
    rfl

/-- Some answer counts as progress if and only if it is a scalar, or an object or array that is not
final. -/
theorem any_isProgress_iff {answers : List (Option Json)} :
    answers.any (isProgress settings) = true ↔ ∃ value, some value ∈ answers ∧
      (value.isComposite = false ∨ settings.finalComposites = false) := by
  rw [List.any_eq_true]
  constructor
  · rintro ⟨answer, member, progress⟩
    cases answer with
    | none => cases progress
    | some value =>
      refine ⟨value, member, ?_⟩
      rwa [isProgress, isFinal, Bool.not_and, Bool.or_eq_true, Bool.not_eq_true',
        Bool.not_eq_true'] at progress
  · rintro ⟨value, member, notFinal⟩
    refine ⟨some value, member, ?_⟩
    rwa [isProgress, isFinal, Bool.not_and, Bool.or_eq_true, Bool.not_eq_true', Bool.not_eq_true']

/-! ### Passes -/

theorem run_onePass_of_ok {text expanded : Text} {changed : Bool} {journal reached : Journal}
    (ended : run (expandAll settings bindings pass (settings.pattern.regex.cut text).pieces)
      journal = (.ok (expanded, changed), reached)) :
    run (onePass settings bindings pass text) journal =
      (.ok (expanded ++ (settings.pattern.regex.cut text).tail, changed), reached) := by
  rw [onePass, run_bind_of_ok _ ended]
  rfl

/-- The matches of a text and the text between them are the text. A pass resolves the matches from
left to right, each of them once, up to one at which it fails, or all of them: then each match is
replaced and the rest is kept, and the pass reports a change exactly if a value came in that is not
final. A pass without strictness in which nothing resolves gives back a text whose unresolved
matches are kept. -/
theorem onePass_exact_splice (settings : Settings) (bindings : Json) (pass : Nat) (text : Text)
    (journal : Journal) :
    (settings.pattern.regex.cut text).written = text ∧
      ((∃ answers reached output changed,
          Resolved settings bindings pass (settings.pattern.regex.cut text).pieces journal answers
            reached ∧
          run (onePass settings bindings pass text) journal = (.ok (output, changed), reached) ∧
          output = spliced settings (settings.pattern.regex.cut text).pieces answers ++
            (settings.pattern.regex.cut text).tail ∧
          (changed = true ↔ ∃ value, some value ∈ answers ∧
            (value.isComposite = false ∨ settings.finalComposites = false)) ∧
          (settings.keepUnresolved = true → (∀ answer ∈ answers, answer = none) →
            output = text ∧ changed = false)) ∨
        ∃ done failing later answers between failure reached,
          (settings.pattern.regex.cut text).pieces = done ++ failing :: later ∧
          Resolved settings bindings pass done journal answers between ∧
          FailsAt settings bindings pass failing between failure reached ∧
          run (onePass settings bindings pass text) journal = (.error failure, reached)) := by
  refine ⟨settings.pattern.regex.cut_written text, ?_⟩
  rcases resolved_or_failsAt (settings.pattern.regex.cut text).pieces journal with
    ⟨answers, reached, resolved⟩ |
    ⟨done, failing, later, answers, between, failure, reached, same, resolved, fails⟩
  · refine .inl ⟨answers, reached, _, _, resolved,
      run_onePass_of_ok (run_expandAll_of_resolved resolved), rfl, any_isProgress_iff, ?_⟩
    intro keeps nothing
    obtain ⟨unchanged, noProgress⟩ := spliced_of_unresolved keeps resolved nothing
    exact ⟨by rw [unchanged, ← Regex.Pieces.written, settings.pattern.regex.cut_written],
      noProgress⟩
  · refine .inr ⟨done, failing, later, answers, between, failure, reached, same, resolved, fails,
      ?_⟩
    rw [onePass, same]
    exact run_bind_of_error _ (run_expandAll_of_failsAt resolved fails)

end

end Stencil.Template
