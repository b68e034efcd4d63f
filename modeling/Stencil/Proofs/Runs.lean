/-
This file gives the laws of runs that the later proofs rest on. A run is a part of a compilation
that is started from a journal; it ends with a value or a failure, and with the journal it has
reached. Parts are put together with binds only, so two facts carry everything else: how a bind
ends, and that a bind adds to the journal what its two parts add. The second one is stated for a
test on entries, since a proof mostly asks not only that the journal grows but by which entries.
-/

import Stencil.Template

namespace Stencil.Template

/-! ### How runs end -/

section

variable {First Second Result : Type}

theorem run_pure (value : Result) (journal : Journal) :
    run (pure value) journal = (.ok value, journal) := rfl

theorem run_throw (failure : Failure) (journal : Journal) :
    run (throw failure : Run Result) journal = (.error failure, journal) := rfl

theorem run_note (entry : Entry) (journal : Journal) :
    run (Run.note entry) journal = (.ok (), journal ++ [entry]) := rfl

theorem run_get (journal : Journal) :
    run (get : Run Journal) journal = (.ok journal, journal) := rfl

/-- A run ends with a value or with a failure. -/
theorem run_ends (part : Run Result) (journal : Journal) :
    (∃ value reached, run part journal = (.ok value, reached)) ∨
      ∃ failure reached, run part journal = (.error failure, reached) := by
  cases outcome : run part journal with
  | mk result reached =>
    cases result with
    | ok value => exact Or.inl ⟨value, reached, rfl⟩
    | error failure => exact Or.inr ⟨failure, reached, rfl⟩

theorem run_bind_of_ok {part : Run First} {journal reached : Journal} {value : First}
    (next : First → Run Second) (ended : run part journal = (.ok value, reached)) :
    run (part >>= next) journal = run (next value) reached := by
  show (ExceptT.bindCont next (run part journal).1).run (run part journal).2 = _
  rw [ended]
  rfl

theorem run_bind_of_error {part : Run First} {journal reached : Journal} {failure : Failure}
    (next : First → Run Second) (ended : run part journal = (.error failure, reached)) :
    run (part >>= next) journal = (.error failure, reached) := by
  show (ExceptT.bindCont next (run part journal).1).run (run part journal).2 = _
  rw [ended]
  rfl

theorem run_bind_congr {part other : Run First} {journal : Journal} {next : First → Run Second}
    (same : run part journal = run other journal) :
    run (part >>= next) journal = run (other >>= next) journal := by
  rcases run_ends other journal with ⟨value, reached, ended⟩ | ⟨failure, reached, ended⟩
  · rw [run_bind_of_ok next ended, run_bind_of_ok next (same.trans ended)]
  · rw [run_bind_of_error next ended, run_bind_of_error next (same.trans ended)]

theorem run_note_bind (entry : Entry) (next : Unit → Run Second) (journal : Journal) :
    run (Run.note entry >>= next) journal = run (next ()) (journal ++ [entry]) :=
  run_bind_of_ok next (run_note entry journal)

theorem run_get_bind (next : Journal → Run Second) (journal : Journal) :
    run (get >>= next) journal = run (next journal) journal :=
  run_bind_of_ok next (run_get journal)

/-- If a bind ends with a value, so does its first part. -/
theorem run_bind_ok {part : Run First} {next : First → Run Second} {journal reached : Journal}
    {result : Second} (ended : run (part >>= next) journal = (.ok result, reached)) :
    ∃ value between, run part journal = (.ok value, between) ∧
      run (next value) between = (.ok result, reached) := by
  rcases run_ends part journal with ⟨value, between, first⟩ | ⟨failure, between, first⟩
  · rw [run_bind_of_ok next first] at ended
    exact ⟨value, between, first, ended⟩
  · rw [run_bind_of_error next first] at ended
    cases ended

/-- If a bind fails, its first part fails, or its second one does. -/
theorem run_bind_error {part : Run First} {next : First → Run Second} {journal reached : Journal}
    {failure : Failure} (ended : run (part >>= next) journal = (.error failure, reached)) :
    run part journal = (.error failure, reached) ∨
      ∃ value between, run part journal = (.ok value, between) ∧
        run (next value) between = (.error failure, reached) := by
  rcases run_ends part journal with ⟨value, between, first⟩ | ⟨firstFailure, between, first⟩
  · rw [run_bind_of_ok next first] at ended
    exact Or.inr ⟨value, between, first, ended⟩
  · rw [run_bind_of_error next first] at ended
    cases ended
    exact Or.inl first

end

/-! ### Parts that end with a value -/

/-- Whatever the journal it starts from, the part ends with the value. -/
def Returns {Result : Type} (part : Run Result) (value : Result) : Prop :=
  ∀ journal, ∃ reached, run part journal = (.ok value, reached)

namespace Returns

variable {First Second Result : Type}

theorem pure (value : Result) : Returns (Pure.pure value) value :=
  fun journal => ⟨journal, rfl⟩

theorem note (entry : Entry) : Returns (Run.note entry) () :=
  fun journal => ⟨journal ++ [entry], rfl⟩

theorem bind {part : Run First} {next : First → Run Second} {value : First} {result : Second}
    (first : Returns part value) (second : Returns (next value) result) :
    Returns (part >>= next) result := by
  intro journal
  obtain ⟨between, ended⟩ := first journal
  obtain ⟨reached, endedToo⟩ := second between
  exact ⟨reached, by rw [run_bind_of_ok next ended, endedToo]⟩

end Returns

/-! ### What runs add to the journal -/

/-- Whatever journal the part starts from, it keeps it and adds only entries of the given kind. -/
def Adds {Result : Type} (kind : Entry → Prop) (part : Run Result) : Prop :=
  ∀ journal, ∃ added, (run part journal).2 = journal ++ added ∧ ∀ entry ∈ added, kind entry

namespace Adds

variable {First Second Result : Type} {kind : Entry → Prop}

theorem pure (value : Result) : Adds kind (Pure.pure value : Run Result) := by
  intro journal
  exact ⟨[], (List.append_nil journal).symm, fun _ member => absurd member List.not_mem_nil⟩

theorem throw (failure : Failure) : Adds kind (MonadExcept.throw failure : Run Result) := by
  intro journal
  exact ⟨[], (List.append_nil journal).symm, fun _ member => absurd member List.not_mem_nil⟩

theorem get : Adds kind (MonadState.get : Run Journal) := by
  intro journal
  exact ⟨[], (List.append_nil journal).symm, fun _ member => absurd member List.not_mem_nil⟩

theorem note {entry : Entry} (holds : kind entry) : Adds kind (Run.note entry) := by
  intro journal
  refine ⟨[entry], rfl, ?_⟩
  intro other member
  rw [List.mem_singleton.mp member]
  exact holds

/-- Whatever a part has added, what comes after it adds to that. -/
theorem after {part : Run First} {next : First → Run Second} {journal added : Journal}
    (grown : (run part journal).2 = journal ++ added) (second : ∀ value, Adds kind (next value)) :
    ∃ more, (run (part >>= next) journal).2 = journal ++ added ++ more ∧
      ∀ entry ∈ more, kind entry := by
  rcases run_ends part journal with ⟨value, reached, ended⟩ | ⟨failure, reached, ended⟩
  · rw [run_bind_of_ok next ended, ← grown, ended]
    exact second value reached
  · rw [run_bind_of_error next ended, ← grown, ended]
    exact ⟨[], (List.append_nil reached).symm, fun _ member => absurd member List.not_mem_nil⟩

theorem bind {part : Run First} {next : First → Run Second} (first : Adds kind part)
    (second : ∀ value, Adds kind (next value)) : Adds kind (part >>= next) := by
  intro journal
  obtain ⟨added, grown, holds⟩ := first journal
  obtain ⟨more, grownAgain, holdsAgain⟩ := after grown second
  refine ⟨added ++ more, grownAgain.trans (List.append_assoc _ _ _), ?_⟩
  intro entry member
  exact (List.mem_append.mp member).elim (holds entry) (holdsAgain entry)

theorem mono {wider : Entry → Prop} {part : Run Result} (adds : Adds kind part)
    (implied : ∀ entry, kind entry → wider entry) : Adds wider part := by
  intro journal
  obtain ⟨added, grown, holds⟩ := adds journal
  exact ⟨added, grown, fun entry member => implied entry (holds entry member)⟩

end Adds

/-! ### The entries of each part -/

/-- The entries that finding the value of a path makes. -/
def IsQuestion : Entry → Prop
  | .asked _ | .searched _ => True
  | _ => False

/-- The entries that substituting makes. -/
def IsSubstitution : Entry → Prop
  | .transformed _ | .numberKept _ => False
  | _ => True

/-- The entries that a text makes after it has been substituted. -/
def IsFinish : Entry → Prop
  | .transformed _ | .numberKept _ => True
  | _ => False

/-- The path that an entry tells of: one that was asked or searched for, or that led to nothing. -/
def pathOf? : Entry → Option Text
  | .asked path | .searched path | .unresolved path _ => some path
  | _ => none

theorem IsQuestion.isSubstitution (entry : Entry) (question : IsQuestion entry) :
    IsSubstitution entry := by
  cases entry with
  | transformed _ => exact question.elim
  | numberKept _ => exact question.elim
  | _ => trivial

section

variable (settings : Settings) (bindings : Json)

theorem ask_adds (resolver : Resolver) (path : Text) :
    Adds IsQuestion (Run.ask resolver path) := by
  refine Adds.bind Adds.get fun journal => Adds.bind (Adds.note trivial) fun _ => ?_
  cases resolver.reply journal.asked path with
  | ok value => exact Adds.pure value
  | error message => exact Adds.throw _

theorem search_adds (path : Text) : Adds IsQuestion (Run.search bindings path) :=
  Adds.bind (Adds.note trivial) fun _ => Adds.pure _

theorem resolve_adds (pass : Nat) (path : Text) :
    Adds IsQuestion (Substitution.resolve settings bindings pass path) := by
  unfold Substitution.resolve
  split
  · exact Adds.pure none
  · split
    · exact search_adds bindings path
    · refine Adds.bind (ask_adds _ path) fun answer => ?_
      cases answer with
      | some value => exact Adds.pure _
      | none => exact search_adds bindings path

section

variable {kind : Entry → Prop} {pass : Nat}
  (resolves : ∀ path, Adds kind (Substitution.resolve settings bindings pass path))
  (reports : ∀ path, kind (.unresolved path pass))

include resolves reports

theorem expand_adds_of (piece : Regex.Piece) :
    Adds kind (Substitution.expand settings bindings pass piece) := by
  refine Adds.bind (resolves _) fun answer => ?_
  cases answer with
  | none =>
    dsimp only
    split
    · exact Adds.throw _
    · exact Adds.bind (Adds.note (reports _)) fun _ => Adds.pure _
  | some value =>
    dsimp only
    split
    · exact Adds.pure _
    · exact Adds.pure _

theorem expandAll_adds_of (pieces : List Regex.Piece) :
    Adds kind (Substitution.expandAll settings bindings pass pieces) := by
  induction pieces with
  | nil => exact Adds.pure _
  | cons piece later inductionHypothesis =>
    exact Adds.bind (expand_adds_of settings bindings resolves reports piece) fun _ =>
      Adds.bind inductionHypothesis fun _ => Adds.pure _

/-- A pass adds what resolving paths adds, and reports of paths that lead to nothing. -/
theorem onePass_adds_of (text : Text) :
    Adds kind (Substitution.onePass settings bindings pass text) :=
  Adds.bind (expandAll_adds_of settings bindings resolves reports _) fun _ => Adds.pure _

end

theorem onePass_adds (pass : Nat) (text : Text) :
    Adds IsSubstitution (Substitution.onePass settings bindings pass text) :=
  onePass_adds_of settings bindings
    (fun path => (resolve_adds settings bindings pass path).mono IsQuestion.isSubstitution)
    (fun _ => trivial) text

theorem passes_adds (remaining pass : Nat) (text : Text) :
    Adds IsSubstitution (Substitution.passes settings bindings remaining pass text) := by
  induction remaining generalizing pass text with
  | zero => exact Adds.bind (Adds.note trivial) fun _ => Adds.pure _
  | succ remaining inductionHypothesis =>
    refine Adds.bind (onePass_adds settings bindings pass text) fun outcome => ?_
    refine Adds.bind (Adds.note trivial) fun _ => ?_
    split
    · exact inductionHypothesis (pass + 1) outcome.1
    · exact Adds.pure _

theorem substitute_adds (text : Text) :
    Adds IsSubstitution (Substitution.substitute settings bindings text) :=
  passes_adds settings bindings settings.maxPasses 1 text

/-- What is done with a text after its placeholders have been substituted and its marks undone. -/
def finish (text : Text) : Run Json := do
  let transformed ← transform settings text
  coerce settings transformed

theorem compileText_eq (text : Text) :
    compileText settings bindings text = (do
      let substituted ← Substitution.substitute settings bindings
        (Escaping.mark settings.pattern settings.escape text)
      finish settings (Escaping.unmark settings.pattern substituted)) := rfl

theorem transform_adds (text : Text) : Adds IsFinish (transform settings text) := by
  unfold transform
  split
  · exact Adds.pure text
  · refine Adds.bind Adds.get fun journal => Adds.bind (Adds.note trivial) fun _ => ?_
    split
    · exact Adds.pure _
    · exact Adds.throw _

theorem coerce_adds (text : Text) : Adds IsFinish (coerce settings text) := by
  unfold coerce
  split
  · exact Adds.pure _
  · exact Adds.bind (Adds.note trivial) fun _ => Adds.pure _
  · exact Adds.pure _

theorem finish_adds (text : Text) : Adds IsFinish (finish settings text) :=
  Adds.bind (transform_adds settings text) fun _ => coerce_adds settings _

theorem pathOf?_of_isFinish {entry : Entry} (finish : IsFinish entry) : pathOf? entry = none := by
  cases entry with
  | transformed text => rfl
  | numberKept text => rfl
  | _ => exact finish.elim

/-- After the substitution only the transform fails. -/
theorem finish_error {text : Text} {journal reached : Journal} {failure : Failure}
    (ended : run (finish settings text) journal = (.error failure, reached)) :
    ∃ message, failure = .transform message := by
  rcases run_bind_error ended with transforming | ⟨transformed, between, _, coercing⟩
  · unfold transform at transforming
    split at transforming
    · cases transforming
    · rename_i hook _
      rw [run_get_bind, run_note_bind] at transforming
      split at transforming
      · cases transforming
      · cases transforming
        exact ⟨_, rfl⟩
  · rw [coerce] at coercing
    split at coercing
    · cases coercing
    · rw [run_note_bind] at coercing
      cases coercing
    · cases coercing

/-! ### The loop over passes -/

variable {settings bindings}

/-- After a pass that brought in text, while an opening delimiter is left, the next pass follows. -/
theorem run_passes_of_again {remaining pass : Nat} {text next : Text} {changed : Bool}
    {journal reached : Journal}
    (ended : run (Substitution.onePass settings bindings pass text) journal =
      (.ok (next, changed), reached))
    (again : (changed && Text.includes settings.pattern.opening next) = true) :
    run (Substitution.passes settings bindings (remaining + 1) pass text) journal =
      run (Substitution.passes settings bindings remaining (pass + 1) next)
        (reached ++ [.passComplete pass changed]) := by
  rw [Substitution.passes, run_bind_of_ok _ ended]
  dsimp only
  rw [run_note_bind, if_pos again]

/-- After any other pass the text is final. -/
theorem run_passes_of_stop {remaining pass : Nat} {text next : Text} {changed : Bool}
    {journal reached : Journal}
    (ended : run (Substitution.onePass settings bindings pass text) journal =
      (.ok (next, changed), reached))
    (stop : ¬ (changed && Text.includes settings.pattern.opening next) = true) :
    run (Substitution.passes settings bindings (remaining + 1) pass text) journal =
      (.ok next, reached ++ [.passComplete pass changed]) := by
  rw [Substitution.passes, run_bind_of_ok _ ended]
  dsimp only
  rw [run_note_bind, if_neg stop]
  rfl

theorem run_passes_of_error {remaining pass : Nat} {text : Text} {failure : Failure}
    {journal reached : Journal}
    (ended : run (Substitution.onePass settings bindings pass text) journal =
      (.error failure, reached)) :
    run (Substitution.passes settings bindings (remaining + 1) pass text) journal =
      (.error failure, reached) := by
  rw [Substitution.passes, run_bind_of_error _ ended]

theorem passes_returns_of_again {remaining pass : Nat} {text next result : Text} {changed : Bool}
    (once : Returns (Substitution.onePass settings bindings pass text) (next, changed))
    (again : (changed && Text.includes settings.pattern.opening next) = true)
    (later : Returns (Substitution.passes settings bindings remaining (pass + 1) next) result) :
    Returns (Substitution.passes settings bindings (remaining + 1) pass text) result := by
  intro journal
  obtain ⟨between, ended⟩ := once journal
  obtain ⟨reached, laterEnded⟩ := later (between ++ [.passComplete pass changed])
  exact ⟨reached, by rw [run_passes_of_again ended again, laterEnded]⟩

theorem passes_returns_of_stop {remaining pass : Nat} {text next : Text} {changed : Bool}
    (once : Returns (Substitution.onePass settings bindings pass text) (next, changed))
    (stop : ¬ (changed && Text.includes settings.pattern.opening next) = true) :
    Returns (Substitution.passes settings bindings (remaining + 1) pass text) next := by
  intro journal
  obtain ⟨between, ended⟩ := once journal
  exact ⟨_, run_passes_of_stop ended stop⟩

end

end Stencil.Template
