/-
This file proves that variables which a run does not search for have no influence on it. Which paths
are searched for comes out only while the run goes on: the placeholders of a pass stand in the text
that earlier values and the replies of the resolver have left, and those of a string come after all
the strings before it.

So two runs, over two trees of variables, are compared from one journal. As long as the trees agree
on the paths that the first run has searched for, the second one has the same journal, and the next
part of it starts where the next part of the first one does. One search is the only step with an
argument of its own.
-/

import Stencil.Proofs.Runs

namespace Stencil.Template

/-- Two trees of variables hold the same at each path that the journal tells of a search for. -/
def AgreeOn (bindings others : Json) (journal : Journal) : Prop :=
  ∀ path ∈ journal.searched, Path.lookup bindings path = Path.lookup others path

/-- The other part ends as the part does, and with the same journal, if the two trees of variables
agree on what the part searches for. -/
def GoesAlike (bindings others : Json) {Result : Type} (part other : Run Result) : Prop :=
  ∀ journal, ∃ added, (run part journal).2 = journal ++ added ∧
    (AgreeOn bindings others added → run other journal = run part journal)

section

variable {bindings others : Json}

theorem AgreeOn.of_append {first second : Journal}
    (agree : AgreeOn bindings others (first ++ second)) :
    AgreeOn bindings others first ∧ AgreeOn bindings others second := by
  have searched : (first ++ second).searched = first.searched ++ second.searched :=
    List.filterMap_append
  rw [AgreeOn, searched] at agree
  exact ⟨fun path member => agree path (List.mem_append_left _ member),
    fun path member => agree path (List.mem_append_right _ member)⟩

/-! ### Parts put together -/

namespace GoesAlike

variable {First Second Result : Type}

/-- A part that knows of no variables goes as it does. -/
theorem of_adds {kind : Entry → Prop} {part : Run Result} (adds : Adds kind part) :
    GoesAlike bindings others part part := by
  intro journal
  obtain ⟨added, grown, _⟩ := adds journal
  exact ⟨added, grown, fun _ => rfl⟩

theorem pure (value : Result) :
    GoesAlike bindings others (Pure.pure value : Run Result) (Pure.pure value) :=
  of_adds (Adds.pure value : Adds IsQuestion _)

theorem throw (failure : Failure) :
    GoesAlike bindings others (MonadExcept.throw failure : Run Result)
      (MonadExcept.throw failure) :=
  of_adds (Adds.throw failure : Adds IsQuestion _)

theorem note (entry : Entry) : GoesAlike bindings others (Run.note entry) (Run.note entry) :=
  of_adds (Adds.note rfl : Adds (· = entry) _)

theorem bind {part other : Run First} {next otherNext : First → Run Second}
    (first : GoesAlike bindings others part other)
    (second : ∀ value, GoesAlike bindings others (next value) (otherNext value)) :
    GoesAlike bindings others (part >>= next) (other >>= otherNext) := by
  intro journal
  obtain ⟨added, grown, same⟩ := first journal
  rcases run_ends part journal with ⟨value, reached, ended⟩ | ⟨failure, reached, ended⟩
  · rw [ended] at grown same
    obtain ⟨more, grownAgain, sameAgain⟩ := second value reached
    refine ⟨added ++ more, ?_, ?_⟩
    · rw [run_bind_of_ok next ended, grownAgain, ← List.append_assoc]
      exact congrArg (· ++ more) grown
    · intro agree
      obtain ⟨agreeFirst, agreeSecond⟩ := agree.of_append
      rw [run_bind_of_ok next ended, run_bind_of_ok otherNext (same agreeFirst)]
      exact sameAgain agreeSecond
  · rw [ended] at grown same
    refine ⟨added, ?_, ?_⟩
    · rw [run_bind_of_error next ended]
      exact grown
    · intro agree
      rw [run_bind_of_error next ended, run_bind_of_error otherNext (same agree)]

theorem ite {condition : Prop} [Decidable condition] {part other partElse otherElse : Run Result}
    (whenTrue : GoesAlike bindings others part other)
    (whenFalse : GoesAlike bindings others partElse otherElse) :
    GoesAlike bindings others (if condition then part else partElse)
      (if condition then other else otherElse) := by
  by_cases holds : condition
  · rw [if_pos holds, if_pos holds]
    exact whenTrue
  · rw [if_neg holds, if_neg holds]
    exact whenFalse

end GoesAlike

/-! ### The parts of a compilation -/

section

variable (bindings others) (settings : Settings)

/-- The one step that looks at the variables: the path searched for is one of those on which the two
trees agree. -/
theorem search_goesAlike (path : Text) :
    GoesAlike bindings others (Run.search bindings path) (Run.search others path) := by
  intro journal
  refine ⟨[.searched path], rfl, fun agree => ?_⟩
  have same : Path.lookup bindings path = Path.lookup others path :=
    agree path List.mem_cons_self
  rw [Run.search, Run.search, same]

theorem resolve_goesAlike (pass : Nat) (path : Text) :
    GoesAlike bindings others (Substitution.resolve settings bindings pass path)
      (Substitution.resolve settings others pass path) := by
  refine GoesAlike.ite (GoesAlike.pure none) ?_
  cases settings.resolver with
  | none => exact search_goesAlike bindings others path
  | some resolver =>
    refine GoesAlike.bind (GoesAlike.of_adds (ask_adds resolver path)) fun answer => ?_
    cases answer with
    | some value => exact GoesAlike.pure _
    | none => exact search_goesAlike bindings others path

theorem expand_goesAlike (pass : Nat) (piece : Regex.Piece) :
    GoesAlike bindings others (Substitution.expand settings bindings pass piece)
      (Substitution.expand settings others pass piece) := by
  refine GoesAlike.bind (resolve_goesAlike bindings others settings pass _) fun answer => ?_
  cases answer with
  | none =>
    exact GoesAlike.ite (GoesAlike.throw _)
      (GoesAlike.bind (GoesAlike.note _) fun _ => GoesAlike.pure _)
  | some value => exact GoesAlike.ite (GoesAlike.pure _) (GoesAlike.pure _)

theorem expandAll_goesAlike (pass : Nat) (pieces : List Regex.Piece) :
    GoesAlike bindings others (Substitution.expandAll settings bindings pass pieces)
      (Substitution.expandAll settings others pass pieces) := by
  induction pieces with
  | nil => exact GoesAlike.pure _
  | cons piece later inductionHypothesis =>
    exact GoesAlike.bind (expand_goesAlike bindings others settings pass piece) fun _ =>
      GoesAlike.bind inductionHypothesis fun _ => GoesAlike.pure _

/-- The passes of a text go alike: where the two runs have the same text after a pass, the next pass
finds the same placeholders. -/
theorem passes_goesAlike (remaining pass : Nat) (text : Text) :
    GoesAlike bindings others (Substitution.passes settings bindings remaining pass text)
      (Substitution.passes settings others remaining pass text) := by
  induction remaining generalizing pass text with
  | zero => exact GoesAlike.bind (GoesAlike.note _) fun _ => GoesAlike.pure _
  | succ remaining inductionHypothesis =>
    have onePass : GoesAlike bindings others
        (Substitution.onePass settings bindings pass text)
        (Substitution.onePass settings others pass text) :=
      GoesAlike.bind (expandAll_goesAlike bindings others settings pass _) fun _ =>
        GoesAlike.pure _
    refine GoesAlike.bind onePass fun outcome => ?_
    refine GoesAlike.bind (GoesAlike.note _) fun _ => ?_
    exact GoesAlike.ite (inductionHypothesis (pass + 1) outcome.1) (GoesAlike.pure _)

theorem compileText_goesAlike (text : Text) :
    GoesAlike bindings others (compileText settings bindings text)
      (compileText settings others text) :=
  GoesAlike.bind (passes_goesAlike bindings others settings settings.maxPasses 1 _) fun _ =>
    GoesAlike.of_adds (finish_adds settings _)

mutual

theorem compile_goesAlike : (template : Json) →
    GoesAlike bindings others (compile settings bindings template)
      (compile settings others template)
  | .string text => compileText_goesAlike bindings others settings text
  | .array items => GoesAlike.bind (compileItems_goesAlike items) fun _ => GoesAlike.pure _
  | .object members => GoesAlike.bind (compileMembers_goesAlike members) fun _ => GoesAlike.pure _
  | .null | .bool _ | .number _ => GoesAlike.pure _

theorem compileItems_goesAlike : (items : List Json) →
    GoesAlike bindings others (compileItems settings bindings items)
      (compileItems settings others items)
  | [] => GoesAlike.pure _
  | item :: rest => GoesAlike.bind (compile_goesAlike item) fun _ =>
      GoesAlike.bind (compileItems_goesAlike rest) fun _ => GoesAlike.pure _

theorem compileMembers_goesAlike : (members : List (Text × Json)) →
    GoesAlike bindings others (compileMembers settings bindings members)
      (compileMembers settings others members)
  | [] => GoesAlike.pure _
  | (_, value) :: rest => GoesAlike.bind (compile_goesAlike value) fun _ =>
      GoesAlike.bind (compileMembers_goesAlike rest) fun _ => GoesAlike.pure _

end

end

/-- Variables that a run does not search for have no influence on it. Where two trees of variables
hold the same at each path that the run over the first one searches for, the run over the second one
ends with the same value or the same failure, and with the same journal: so the hooks are asked the
same questions and the same events are reported. -/
theorem unsearched_variables_irrelevant (settings : Settings) (bindings others template : Json)
    (earlier : Journal) :
    ∃ added, (run (compile settings bindings template) earlier).2 = earlier ++ added ∧
      ((∀ path ∈ Journal.searched added, Path.lookup bindings path = Path.lookup others path) →
        run (compile settings others template) earlier =
          run (compile settings bindings template) earlier) :=
  compile_goesAlike bindings others settings template earlier

/-- Variables that lead from one path to another, and hold a secret at a third. -/
def variablesWithSecret (secret : Text) : Json :=
  .object [("a".toList, .string "{{b}}{{c}}".toList), ("b".toList, .string ['x']),
    ("secret".toList, .string secret)]

/-- The path `c` is searched for, too, and leads nowhere in either tree. -/
theorem unsearched_variables_irrelevant_secret :
    run (compile {} (variablesWithSecret "{{a}}".toList) (.string "{{a}}".toList)) [] =
      run (compile {} (variablesWithSecret []) (.string "{{a}}".toList)) [] := by
  obtain ⟨added, grown, same⟩ := unsearched_variables_irrelevant {} (variablesWithSecret [])
    (variablesWithSecret "{{a}}".toList) (.string "{{a}}".toList) []
  have searched : Journal.searched added = ["a".toList, "b".toList, "c".toList] := by
    rw [← List.nil_append added, ← grown]
    decide +kernel
  refine same fun path member => ?_
  rw [searched] at member
  simp only [List.mem_cons, List.not_mem_nil, or_false] at member
  rcases member with rfl | rfl | rfl
  · rfl
  · rfl
  · rfl

end

end Stencil.Template
