/-
This file proves that strictness only turns the first unresolved path into a failure. A strict and
a lenient run of the same template are compared from the same journal. They go on alike until the
lenient one reports a path that leads to nothing; there the strict one ends, with a failure that
names the path and with the journal that both have reached.

The relation `Beside` says this of two outcomes, and it is kept by binds: once the strict run has
ended, all that the lenient one does is to add to its journal. So the parts of a compilation are
gone through once, and `expand`, the only one that asks whether the settings are strict, is the
only one with an argument of its own.
-/

import Stencil.Proofs.Runs

namespace Stencil.Template

/-- The entry that reports a path that leads to nothing. -/
def IsUnresolved : Entry → Prop
  | .unresolved _ _ => True
  | _ => False

/-- An outcome of a strict run and an outcome of a lenient run, both from the journal `earlier`. -/
inductive Beside {Result : Type} (earlier : Journal) :
    Except Failure Result × Journal → Except Failure Result × Journal → Prop
  /-- The lenient run has not met an unresolved path: the two have done the same. -/
  | alike (result : Except Failure Result) (added : Journal)
      (resolved : ∀ entry ∈ added, ¬ IsUnresolved entry) :
      Beside earlier (result, earlier ++ added) (result, earlier ++ added)
  /-- The lenient run has met an unresolved path: there the strict run has ended. -/
  | ended (written : Text) (pass : Nat) (result : Except Failure Result) (before after : Journal)
      (resolved : ∀ entry ∈ before, ¬ IsUnresolved entry) :
      Beside earlier (.error (.missingVariable written), earlier ++ before)
        (result, earlier ++ (before ++ .unresolved written.trim pass :: after))

/-- A part of a strict run and the same part of a lenient run. -/
def GoBeside {Result : Type} (strict lenient : Run Result) : Prop :=
  ∀ journal, Beside journal (run strict journal) (run lenient journal)

/-! ### Parts put together -/

theorem Beside.grows {Result : Type} {earlier : Journal}
    {strict lenient : Except Failure Result × Journal} (beside : Beside earlier strict lenient) :
    ∃ added, lenient.2 = earlier ++ added := by
  cases beside with
  | alike result added _ => exact ⟨added, rfl⟩
  | ended written pass result before after _ => exact ⟨_, rfl⟩

theorem Beside.alike_of_eq {Result : Type} {earlier added : Journal}
    {outcome : Except Failure Result × Journal} (reached : outcome.2 = earlier ++ added)
    (resolved : ∀ entry ∈ added, ¬ IsUnresolved entry) : Beside earlier outcome outcome := by
  obtain ⟨result, journal⟩ := outcome
  subst reached
  exact Beside.alike result added resolved

theorem Beside.ended_of_eq {Result : Type} {earlier before after : Journal} {written : Text}
    {pass : Nat} {lenient : Except Failure Result × Journal}
    (reached : lenient.2 = earlier ++ (before ++ .unresolved written.trim pass :: after))
    (resolved : ∀ entry ∈ before, ¬ IsUnresolved entry) :
    Beside earlier (.error (.missingVariable written), earlier ++ before) lenient := by
  obtain ⟨result, journal⟩ := lenient
  subst reached
  exact Beside.ended written pass result before after resolved

/-- What happened before both runs can be counted as part of them. -/
theorem Beside.after {Result : Type} {earlier added : Journal}
    {strict lenient : Except Failure Result × Journal}
    (resolved : ∀ entry ∈ added, ¬ IsUnresolved entry)
    (beside : Beside (earlier ++ added) strict lenient) : Beside earlier strict lenient := by
  have together {more : Journal} (resolvedToo : ∀ entry ∈ more, ¬ IsUnresolved entry) :
      ∀ entry ∈ added ++ more, ¬ IsUnresolved entry := by
    intro entry member
    exact (List.mem_append.mp member).elim (resolved entry) (resolvedToo entry)
  cases beside with
  | alike result more resolvedToo =>
    rw [List.append_assoc]
    exact Beside.alike result (added ++ more) (together resolvedToo)
  | ended written pass result before after resolvedToo =>
    rw [List.append_assoc, List.append_assoc, ← List.append_assoc added]
    exact Beside.ended written pass result (added ++ before) after (together resolvedToo)

/-- A part that reports no unresolved path goes beside itself. -/
theorem GoBeside.of_adds {Result : Type} {part : Run Result}
    (adds : Adds (fun entry => ¬ IsUnresolved entry) part) : GoBeside part part := by
  intro journal
  obtain ⟨added, grown, resolved⟩ := adds journal
  exact Beside.alike_of_eq grown resolved

theorem GoBeside.pure {Result : Type} (value : Result) :
    GoBeside (Pure.pure value : Run Result) (Pure.pure value) :=
  GoBeside.of_adds (Adds.pure value)

theorem GoBeside.bind {First Second : Type} {strict lenient : Run First}
    {strictNext lenientNext : First → Run Second} (first : GoBeside strict lenient)
    (second : ∀ value, GoBeside (strictNext value) (lenientNext value)) :
    GoBeside (strict >>= strictNext) (lenient >>= lenientNext) := by
  intro journal
  have beside := first journal
  generalize strictEnd : run strict journal = strictOutcome at beside
  generalize lenientEnd : run lenient journal = lenientOutcome at beside
  cases beside with
  | alike result added resolved =>
    cases result with
    | ok value =>
      rw [run_bind_of_ok strictNext strictEnd, run_bind_of_ok lenientNext lenientEnd]
      exact Beside.after resolved (second value (journal ++ added))
    | error failure =>
      rw [run_bind_of_error strictNext strictEnd, run_bind_of_error lenientNext lenientEnd]
      exact Beside.alike _ added resolved
  | ended written pass result before after resolved =>
    rw [run_bind_of_error strictNext strictEnd]
    cases result with
    | ok value =>
      rw [run_bind_of_ok lenientNext lenientEnd]
      obtain ⟨more, grown⟩ :=
        (second value (journal ++ (before ++ .unresolved written.trim pass :: after))).grows
      have reached : (run (lenientNext value)
          (journal ++ (before ++ .unresolved written.trim pass :: after))).2 =
          journal ++ (before ++ .unresolved written.trim pass :: (after ++ more)) := by
        rw [grown, List.append_assoc, List.append_assoc, List.cons_append]
      exact Beside.ended_of_eq reached resolved
    | error failure =>
      rw [run_bind_of_error lenientNext lenientEnd]
      exact Beside.ended written pass _ before after resolved

/-- To fail for a path stands beside reporting it. -/
theorem GoBeside.missing {Result : Type} (written : Text) (pass : Nat) (value : Result) :
    GoBeside (throw (.missingVariable written))
      (Run.note (.unresolved written.trim pass) >>= fun _ => Pure.pure value) := by
  intro journal
  rw [run_throw, run_note_bind, run_pure]
  have ended : Beside journal (.error (.missingVariable written), journal ++ [])
      (.ok value, journal ++ ([] ++ .unresolved written.trim pass :: [])) :=
    Beside.ended written pass _ [] [] fun _ member => absurd member List.not_mem_nil
  rwa [List.append_nil, List.nil_append] at ended

theorem GoBeside.ite {Result : Type} {condition : Prop} [Decidable condition]
    {strict lenient strictElse lenientElse : Run Result} (whenTrue : GoBeside strict lenient)
    (whenFalse : GoBeside strictElse lenientElse) :
    GoBeside (if condition then strict else strictElse)
      (if condition then lenient else lenientElse) := by
  by_cases holds : condition
  · rw [if_pos holds, if_pos holds]
    exact whenTrue
  · rw [if_neg holds, if_neg holds]
    exact whenFalse

/-! ### The parts of a compilation -/

section

variable (settings : Settings) (bindings : Json)

/-- The settings with strictness as given. -/
def withStrict (strict : Bool) : Settings :=
  { settings with strict }

/-- No entry of a kind that takes no report reports an unresolved path. -/
theorem not_isUnresolved_of {kind : Entry → Prop}
    (never : ∀ path pass, ¬ kind (.unresolved path pass)) (entry : Entry) (holds : kind entry) :
    ¬ IsUnresolved entry := by
  intro unresolved
  cases entry with
  | unresolved path pass => exact never path pass holds
  | _ => exact unresolved

theorem resolve_goBeside (pass : Nat) (path : Text) :
    GoBeside (Substitution.resolve (withStrict settings true) bindings pass path)
      (Substitution.resolve (withStrict settings false) bindings pass path) :=
  GoBeside.of_adds
    ((resolve_adds settings bindings pass path).mono (not_isUnresolved_of fun _ _ => id))

/-- The one step that asks for strictness: where the path of the piece leads to nothing, the strict
run ends and the lenient run reports it. -/
theorem expand_goBeside (pass : Nat) (piece : Regex.Piece) :
    GoBeside (Substitution.expand (withStrict settings true) bindings pass piece)
      (Substitution.expand (withStrict settings false) bindings pass piece) := by
  refine GoBeside.bind (resolve_goBeside settings bindings pass _) fun answer => ?_
  cases answer with
  | some value => exact GoBeside.ite (GoBeside.pure _) (GoBeside.pure _)
  | none => exact GoBeside.missing (piece.group.getD []) pass _

theorem expandAll_goBeside (pass : Nat) (pieces : List Regex.Piece) :
    GoBeside (Substitution.expandAll (withStrict settings true) bindings pass pieces)
      (Substitution.expandAll (withStrict settings false) bindings pass pieces) := by
  induction pieces with
  | nil => exact GoBeside.pure _
  | cons piece later inductionHypothesis =>
    exact GoBeside.bind (expand_goBeside settings bindings pass piece) fun _ =>
      GoBeside.bind inductionHypothesis fun _ => GoBeside.pure _

theorem passes_goBeside (remaining pass : Nat) (text : Text) :
    GoBeside (Substitution.passes (withStrict settings true) bindings remaining pass text)
      (Substitution.passes (withStrict settings false) bindings remaining pass text) := by
  induction remaining generalizing pass text with
  | zero => exact GoBeside.of_adds (Adds.bind (Adds.note id) fun _ => Adds.pure _)
  | succ remaining inductionHypothesis =>
    have onePass : GoBeside
        (Substitution.onePass (withStrict settings true) bindings pass text)
        (Substitution.onePass (withStrict settings false) bindings pass text) :=
      GoBeside.bind (expandAll_goBeside settings bindings pass _) fun _ => GoBeside.pure _
    refine GoBeside.bind onePass fun outcome => ?_
    refine GoBeside.bind (GoBeside.of_adds (Adds.note id)) fun _ => ?_
    exact GoBeside.ite (inductionHypothesis (pass + 1) outcome.1) (GoBeside.pure _)

theorem compileText_goBeside (text : Text) :
    GoBeside (compileText (withStrict settings true) bindings text)
      (compileText (withStrict settings false) bindings text) := by
  refine GoBeside.bind (passes_goBeside settings bindings settings.maxPasses 1 _) fun _ => ?_
  exact GoBeside.of_adds ((finish_adds settings _).mono (not_isUnresolved_of fun _ _ => id))

mutual

theorem compile_goBeside : (template : Json) →
    GoBeside (compile (withStrict settings true) bindings template)
      (compile (withStrict settings false) bindings template)
  | .string text => compileText_goBeside settings bindings text
  | .array items => GoBeside.bind (compileItems_goBeside items) fun _ => GoBeside.pure _
  | .object members => GoBeside.bind (compileMembers_goBeside members) fun _ => GoBeside.pure _
  | .null | .bool _ | .number _ => GoBeside.pure _

theorem compileItems_goBeside : (items : List Json) →
    GoBeside (compileItems (withStrict settings true) bindings items)
      (compileItems (withStrict settings false) bindings items)
  | [] => GoBeside.pure _
  | item :: rest => GoBeside.bind (compile_goBeside item) fun _ =>
      GoBeside.bind (compileItems_goBeside rest) fun _ => GoBeside.pure _

theorem compileMembers_goBeside : (members : List (Text × Json)) →
    GoBeside (compileMembers (withStrict settings true) bindings members)
      (compileMembers (withStrict settings false) bindings members)
  | [] => GoBeside.pure _
  | (_, value) :: rest => GoBeside.bind (compile_goBeside value) fun _ =>
      GoBeside.bind (compileMembers_goBeside rest) fun _ => GoBeside.pure _

end

/-! ### The first unresolved path -/

/-- The first unresolved path of a journal, and what stands before it, are unique. -/
theorem first_unresolved_unique {before before' after after' : Journal} {path path' : Text}
    {pass pass' : Nat} (resolved : ∀ entry ∈ before, ¬ IsUnresolved entry)
    (resolved' : ∀ entry ∈ before', ¬ IsUnresolved entry)
    (same : before ++ .unresolved path pass :: after =
      before' ++ .unresolved path' pass' :: after') :
    before = before' ∧ path = path' := by
  induction before generalizing before' with
  | nil =>
    cases before' with
    | nil => exact ⟨rfl, (Entry.unresolved.inj (List.cons.inj same).1).1⟩
    | cons head' rest' =>
      have clear := resolved' head' List.mem_cons_self
      rw [← (List.cons.inj same).1] at clear
      exact absurd trivial clear
  | cons head rest inductionHypothesis =>
    cases before' with
    | nil =>
      have clear := resolved head List.mem_cons_self
      rw [(List.cons.inj same).1] at clear
      exact absurd trivial clear
    | cons head' rest' =>
      obtain ⟨headEq, restEq⟩ := List.cons.inj same
      obtain ⟨beforeEq, pathEq⟩ := inductionHypothesis
        (fun entry member => resolved entry (List.mem_cons_of_mem _ member))
        (fun entry member => resolved' entry (List.mem_cons_of_mem _ member)) restEq
      exact ⟨by rw [headEq, beforeEq], pathEq⟩

/-- A strict run is the lenient run up to the first path that leads to nothing. Where the lenient
run reports no such path, the two end alike and with the same journal. Where it reports one, the
strict run fails for it: with the path as the placeholder writes it, and with the journal as it was
before the report, so that the hooks have been called as often and with the same questions. -/
theorem strict_run_until_unresolved (template : Json) (earlier : Journal) :
    ∃ added,
      (run (compile { settings with strict := false } bindings template) earlier).2 =
          earlier ++ added ∧
        ((∀ entry ∈ added, ¬ IsUnresolved entry) →
          run (compile { settings with strict := true } bindings template) earlier =
            run (compile { settings with strict := false } bindings template) earlier) ∧
        ∀ before path pass after, added = before ++ .unresolved path pass :: after →
          (∀ entry ∈ before, ¬ IsUnresolved entry) →
          ∃ written : Text, written.trim = path ∧
            run (compile { settings with strict := true } bindings template) earlier =
              (.error (.missingVariable written), earlier ++ before) := by
  have beside := compile_goBeside settings bindings template earlier
  simp only [withStrict] at beside
  generalize run (compile { settings with strict := true } bindings template) earlier = strict
    at beside ⊢
  generalize run (compile { settings with strict := false } bindings template) earlier = lenient
    at beside ⊢
  cases beside with
  | alike result added resolved =>
    refine ⟨added, rfl, fun _ => rfl, ?_⟩
    intro before path pass after split _
    have member : .unresolved path pass ∈ added := by
      rw [split]
      exact List.mem_append_right before List.mem_cons_self
    exact absurd trivial (resolved _ member)
  | ended written pass result before after resolved =>
    refine ⟨before ++ .unresolved written.trim pass :: after, rfl, ?_, ?_⟩
    · intro none
      exact absurd trivial (none _ (List.mem_append_right before List.mem_cons_self))
    · intro before' path pass' after' split resolved'
      obtain ⟨beforeEq, pathEq⟩ := first_unresolved_unique resolved resolved' split
      exact ⟨written, pathEq, by rw [beforeEq]⟩

end

end Stencil.Template
