/-
This file proves that compiling a tree is compiling its string leaves one after another, in the
order of the document. Arrays and objects have no effects of their own: a run over a tree is the
run over the list of its leaves, and the result is the tree with the values of that run in the
places of the leaves.

The correspondence is stated for a part of a run, a list of leaves and the way in which the part
puts their values together, because then one lemma about two parts in a row serves items and
members alike.
-/

import Stencil.Proofs.Runs

namespace Stencil

namespace Json

/-! ### Leaves and what takes their places -/

mutual

/-- The strings of a value, in the order of the document. -/
def leaves : Json → List Text
  | .string text => [text]
  | .array items => leavesOfItems items
  | .object members => leavesOfMembers members
  | _ => []

/-- The strings of a list of items. -/
def leavesOfItems : List Json → List Text
  | [] => []
  | item :: rest => leaves item ++ leavesOfItems rest

/-- The strings of the values of a list of members. -/
def leavesOfMembers : List (Text × Json) → List Text
  | [] => []
  | (_, value) :: rest => leaves value ++ leavesOfMembers rest

end

mutual

/-- The value with others in the places of its strings. -/
def refill : Json → List Json → Json
  | .string _, values => values.headD .null
  | .array items, values => .array (refillItems items values)
  | .object members, values => .object (refillMembers members values)
  | value, _ => value

/-- The items with others in the places of their strings. -/
def refillItems : List Json → List Json → List Json
  | [], _ => []
  | item :: rest, values =>
    refill item (values.take item.leaves.length) ::
      refillItems rest (values.drop item.leaves.length)

/-- The members, under their keys, with others in the places of their strings. -/
def refillMembers : List (Text × Json) → List Json → List (Text × Json)
  | [], _ => []
  | (key, value) :: rest, values =>
    (key, refill value (values.take value.leaves.length)) ::
      refillMembers rest (values.drop value.leaves.length)

end

mutual

/-- One value is another with the listed values, each once and in order, in the places of its
strings. Nothing else differs. -/
inductive Filled : Json → List Json → Json → Prop
  | null : Filled .null [] .null
  | bool (flag : Bool) : Filled (.bool flag) [] (.bool flag)
  | number (value : Json.Number) : Filled (.number value) [] (.number value)
  | string (text : Text) (value : Json) : Filled (.string text) [value] value
  | array {items values results : List Json} (filled : FilledItems items values results) :
      Filled (.array items) values (.array results)
  | object {members results : List (Text × Json)} {values : List Json}
      (filled : FilledMembers members values results) :
      Filled (.object members) values (.object results)

/-- `Filled` of each item. -/
inductive FilledItems : List Json → List Json → List Json → Prop
  | nil : FilledItems [] [] []
  | cons {item result : Json} {values rest others results : List Json}
      (filled : Filled item values result) (filledRest : FilledItems rest others results) :
      FilledItems (item :: rest) (values ++ others) (result :: results)

/-- `Filled` of the value of each member, under the same key. -/
inductive FilledMembers : List (Text × Json) → List Json → List (Text × Json) → Prop
  | nil : FilledMembers [] [] []
  | cons {value result : Json} {values others : List Json} {rest results : List (Text × Json)}
      (key : Text) (filled : Filled value values result)
      (filledRest : FilledMembers rest others results) :
      FilledMembers ((key, value) :: rest) (values ++ others) ((key, result) :: results)

end

mutual

/-- With one value for each string, refilling fills. -/
theorem filled_refill : (value : Json) → (values : List Json) →
    values.length = value.leaves.length → Filled value values (value.refill values)
  | .null, [], _ => Filled.null
  | .bool flag, [], _ => Filled.bool flag
  | .number value, [], _ => Filled.number value
  | .string text, [value], _ => Filled.string text value
  | .array items, values, enough => Filled.array (filled_refillItems items values enough)
  | .object members, values, enough => Filled.object (filled_refillMembers members values enough)

theorem filled_refillItems : (items values : List Json) →
    values.length = (leavesOfItems items).length →
    FilledItems items values (refillItems items values)
  | [], [], _ => FilledItems.nil
  | item :: rest, values, enough => by
    rw [leavesOfItems, List.length_append] at enough
    have filled := filled_refill item (values.take item.leaves.length)
      (by rw [List.length_take]; omega)
    have filledRest := filled_refillItems rest (values.drop item.leaves.length)
      (by rw [List.length_drop]; omega)
    have both := FilledItems.cons filled filledRest
    rwa [List.take_append_drop] at both

theorem filled_refillMembers : (members : List (Text × Json)) → (values : List Json) →
    values.length = (leavesOfMembers members).length →
    FilledMembers members values (refillMembers members values)
  | [], [], _ => FilledMembers.nil
  | (key, value) :: rest, values, enough => by
    rw [leavesOfMembers, List.length_append] at enough
    have filled := filled_refill value (values.take value.leaves.length)
      (by rw [List.length_take]; omega)
    have filledRest := filled_refillMembers rest (values.drop value.leaves.length)
      (by rw [List.length_drop]; omega)
    have both := FilledMembers.cons key filled filledRest
    rwa [List.take_append_drop] at both

end

end Json

namespace Template

open Substitution

/-! ### Leaves in turn -/

section

variable (settings : Settings) (bindings : Json)

/-- Compiles texts one after another. -/
def inTurn : List Text → Run (List Json)
  | [] => return []
  | text :: rest => do
    let value ← compileText settings bindings text
    let values ← inTurn rest
    return value :: values

/-- A part of a run does what compiling the leaves in turn does, and puts their values together
with `fill`. -/
structure LeafByLeaf {Result : Type} (part : Run Result) (leaves : List Text)
    (fill : List Json → Result) : Prop where
  value : ∀ {journal reached : Journal} {values : List Json},
    run (inTurn settings bindings leaves) journal = (.ok values, reached) →
      run part journal = (.ok (fill values), reached)
  failure : ∀ {journal reached : Journal} {failure : Failure},
    run (inTurn settings bindings leaves) journal = (.error failure, reached) →
      run part journal = (.error failure, reached)

variable {settings bindings}

theorem inTurn_append (first second : List Text) :
    inTurn settings bindings (first ++ second) = (do
      let values ← inTurn settings bindings first
      let others ← inTurn settings bindings second
      return values ++ others) := by
  induction first with
  | nil => simp only [List.nil_append, inTurn, pure_bind, bind_pure]
  | cons text rest inductionHypothesis =>
    simp only [List.cons_append, inTurn, inductionHypothesis, bind_assoc, pure_bind]

theorem inTurn_length {texts : List Text} {journal reached : Journal} {values : List Json}
    (ended : run (inTurn settings bindings texts) journal = (.ok values, reached)) :
    values.length = texts.length := by
  induction texts generalizing journal values with
  | nil =>
    cases ended
    rfl
  | cons text rest inductionHypothesis =>
    obtain ⟨value, between, _, restEnded⟩ := run_bind_ok ended
    obtain ⟨others, last, tail, done⟩ := run_bind_ok restEnded
    cases done
    rw [List.length_cons, List.length_cons, inductionHypothesis tail]

/-- Where texts in turn fail, one of them does, after all the texts before it. -/
theorem inTurn_failure {texts : List Text} {journal reached : Journal} {failure : Failure}
    (ended : run (inTurn settings bindings texts) journal = (.error failure, reached)) :
    ∃ before text later values between, texts = before ++ text :: later ∧
      run (inTurn settings bindings before) journal = (.ok values, between) ∧
      run (compileText settings bindings text) between = (.error failure, reached) := by
  induction texts generalizing journal with
  | nil => cases ended
  | cons text rest inductionHypothesis =>
    rcases run_bind_error ended with first | ⟨value, between, first, restEnded⟩
    · exact ⟨[], text, rest, [], journal, rfl, rfl, first⟩
    · rcases run_bind_error restEnded with second | ⟨values, after, _, done⟩
      · obtain ⟨before, failed, later, values, last, split, earlier, fails⟩ :=
          inductionHypothesis second
        refine ⟨text :: before, failed, later, value :: values, last, ?_, ?_, fails⟩
        · rw [split, List.cons_append]
        · show run (inTurn settings bindings (text :: before)) journal = _
          rw [inTurn, run_bind_of_ok _ first, run_bind_of_ok _ earlier]
          rfl
      · cases done

/-! ### Trees leaf by leaf -/

theorem LeafByLeaf.none {Result : Type} (result : Result) :
    LeafByLeaf settings bindings (pure result) [] fun _ => result where
  value ended := by
    cases ended
    rfl
  failure ended := by cases ended

theorem LeafByLeaf.one (text : Text) :
    LeafByLeaf settings bindings (compileText settings bindings text) [text]
      fun values => values.headD .null where
  value ended := by
    obtain ⟨value, between, first, rest⟩ := run_bind_ok ended
    cases rest
    exact first
  failure ended := by
    rcases run_bind_error ended with first | ⟨value, between, _, rest⟩
    · exact first
    · cases rest

theorem LeafByLeaf.map {First Second : Type} {part : Run First} {leaves : List Text}
    {fill : List Json → First} (byLeaf : LeafByLeaf settings bindings part leaves fill)
    (wrap : First → Second) :
    LeafByLeaf settings bindings (part >>= fun result => pure (wrap result)) leaves
      fun values => wrap (fill values) where
  value ended := run_bind_of_ok _ (byLeaf.value ended)
  failure ended := run_bind_of_error _ (byLeaf.failure ended)

/-- Two parts in a row: the leaves of the first one come first, and so do their values. -/
theorem LeafByLeaf.both {First Second Third : Type} {first : Run First} {second : Run Second}
    {leaves others : List Text} {fill : List Json → First} {fillOthers : List Json → Second}
    (byLeaf : LeafByLeaf settings bindings first leaves fill)
    (byOthers : LeafByLeaf settings bindings second others fillOthers)
    (combine : First → Second → Third) :
    LeafByLeaf settings bindings
      (first >>= fun one => second >>= fun two => pure (combine one two)) (leaves ++ others)
      fun values => combine (fill (values.take leaves.length))
        (fillOthers (values.drop leaves.length)) where
  value ended := by
    rw [inTurn_append] at ended
    obtain ⟨values, between, firstEnded, rest⟩ := run_bind_ok ended
    obtain ⟨more, last, secondEnded, done⟩ := run_bind_ok rest
    cases done
    rw [run_bind_of_ok _ (byLeaf.value firstEnded), run_bind_of_ok _ (byOthers.value secondEnded),
      ← inTurn_length firstEnded, List.take_left, List.drop_left]
    rfl
  failure ended := by
    rw [inTurn_append] at ended
    rcases run_bind_error ended with firstFails | ⟨values, between, firstEnded, rest⟩
    · exact run_bind_of_error _ (byLeaf.failure firstFails)
    · rw [run_bind_of_ok _ (byLeaf.value firstEnded)]
      rcases run_bind_error rest with secondFails | ⟨more, last, _, done⟩
      · exact run_bind_of_error _ (byOthers.failure secondFails)
      · cases done

variable (settings bindings)

mutual

theorem compile_leafByLeaf : (template : Json) →
    LeafByLeaf settings bindings (compile settings bindings template) template.leaves
      template.refill
  | .string text => LeafByLeaf.one text
  | .array items => (compileItems_leafByLeaf items).map Json.array
  | .object members => (compileMembers_leafByLeaf members).map Json.object
  | .null => LeafByLeaf.none Json.null
  | .bool flag => LeafByLeaf.none (Json.bool flag)
  | .number value => LeafByLeaf.none (Json.number value)

theorem compileItems_leafByLeaf : (items : List Json) →
    LeafByLeaf settings bindings (compileItems settings bindings items)
      (Json.leavesOfItems items) (Json.refillItems items)
  | [] => LeafByLeaf.none []
  | item :: rest => (compile_leafByLeaf item).both (compileItems_leafByLeaf rest) List.cons

theorem compileMembers_leafByLeaf : (members : List (Text × Json)) →
    LeafByLeaf settings bindings (compileMembers settings bindings members)
      (Json.leavesOfMembers members) (Json.refillMembers members)
  | [] => LeafByLeaf.none []
  | (key, value) :: rest =>
    (compile_leafByLeaf value).both (compileMembers_leafByLeaf rest) fun result results =>
      (key, result) :: results

end

variable {settings bindings}

/-- Two runs over a template are the same if the two runs over its strings in turn are. -/
theorem run_compile_congr {other : Settings} {otherVariables template : Json} {journal : Journal}
    (same : run (inTurn other otherVariables template.leaves) journal =
      run (inTurn settings bindings template.leaves) journal) :
    run (compile other otherVariables template) journal =
      run (compile settings bindings template) journal := by
  have byLeaf := compile_leafByLeaf settings bindings template
  have byOther := compile_leafByLeaf other otherVariables template
  rcases run_ends (inTurn settings bindings template.leaves) journal with
    ⟨values, reached, ended⟩ | ⟨failure, reached, ended⟩
  · rw [byLeaf.value ended, byOther.value (same.trans ended)]
  · rw [byLeaf.failure ended, byOther.failure (same.trans ended)]

/-! ### Calls of the transform -/

theorem transformed_append (first second : Journal) :
    (first ++ second).transformed = first.transformed ++ second.transformed :=
  List.filterMap_append

theorem transformed_of_none {added : Journal} (none : ∀ entry ∈ added, IsSubstitution entry) :
    added.transformed = [] := by
  refine List.filterMap_eq_nil_iff.mpr fun entry member => ?_
  have substitution := none entry member
  cases entry with
  | transformed text => exact substitution.elim
  | _ => rfl

/-- The number of calls of the transform that one text needs. -/
def callsPerText (settings : Settings) : Nat :=
  if settings.transform.isSome then 1 else 0

theorem transform_calls {text changed : Text} {journal reached : Journal}
    (ended : run (transform settings text) journal = (.ok changed, reached)) :
    reached.transformed.length = journal.transformed.length + callsPerText settings := by
  unfold callsPerText
  cases given : settings.transform with
  | none =>
    simp only [transform, given] at ended
    cases ended
    rfl
  | some hook =>
    simp only [transform, given, run_get_bind, run_note_bind] at ended
    have called : (journal ++ [Entry.transformed text]).transformed.length =
        journal.transformed.length + 1 := by
      rw [transformed_append, List.length_append]
      rfl
    cases answer : hook.reply journal.transformed text with
    | ok value =>
      rw [answer] at ended
      cases ended
      exact called
    | error message =>
      rw [answer] at ended
      cases ended

theorem coerce_calls {text : Text} {value : Json} {journal reached : Journal}
    (ended : run (coerce settings text) journal = (.ok value, reached)) :
    reached.transformed = journal.transformed := by
  unfold coerce at ended
  split at ended
  · cases ended
    rfl
  · rw [run_note_bind] at ended
    cases ended
    rw [transformed_append]
    exact List.append_nil _
  · cases ended
    rfl

theorem compileText_calls {text : Text} {value : Json} {journal reached : Journal}
    (ended : run (compileText settings bindings text) journal = (.ok value, reached)) :
    reached.transformed.length = journal.transformed.length + callsPerText settings := by
  rw [compileText_eq] at ended
  obtain ⟨substituted, between, first, rest⟩ := run_bind_ok ended
  obtain ⟨changed, after, second, third⟩ := run_bind_ok rest
  obtain ⟨added, grown, substitution⟩ := substitute_adds settings bindings _ journal
  have kept : between.transformed = journal.transformed := by
    rw [first] at grown
    rw [show between = journal ++ added from grown, transformed_append,
      transformed_of_none substitution, List.append_nil]
  rw [coerce_calls third, transform_calls second, kept]

theorem inTurn_calls {texts : List Text} {values : List Json} {journal reached : Journal}
    (ended : run (inTurn settings bindings texts) journal = (.ok values, reached)) :
    reached.transformed.length =
      journal.transformed.length + texts.length * callsPerText settings := by
  induction texts generalizing journal values with
  | nil =>
    cases ended
    rw [List.length_nil, Nat.zero_mul, Nat.add_zero]
  | cons text rest inductionHypothesis =>
    obtain ⟨value, between, first, restEnded⟩ := run_bind_ok ended
    obtain ⟨others, last, tail, done⟩ := run_bind_ok restEnded
    cases done
    rw [inductionHypothesis tail, compileText_calls first, List.length_cons, Nat.succ_mul]
    omega

/-! ### The whole tree -/

/-- Compiling a template is compiling its strings in turn, in the order of the document. Either
every string has a value: then the result is the template with these values in the places of its
strings, and the transform has been called once for each string. Or some string fails: then the
strings before the first one that does have values, and the failure and the journal of that string
are those of the whole. -/
theorem compile_leaf_by_leaf (settings : Settings) (bindings template : Json)
    (journal : Journal) :
    (∃ values result reached,
        run (inTurn settings bindings template.leaves) journal = (.ok values, reached) ∧
          run (compile settings bindings template) journal = (.ok result, reached) ∧
          template.Filled values result ∧
          reached.transformed.length = journal.transformed.length +
            if settings.transform.isSome then template.leaves.length else 0) ∨
      ∃ before text later values between failure reached,
        template.leaves = before ++ text :: later ∧
          run (inTurn settings bindings before) journal = (.ok values, between) ∧
          run (compileText settings bindings text) between = (.error failure, reached) ∧
          run (compile settings bindings template) journal = (.error failure, reached) := by
  have byLeaf := compile_leafByLeaf settings bindings template
  rcases run_ends (inTurn settings bindings template.leaves) journal with
    ⟨values, reached, ended⟩ | ⟨failure, reached, ended⟩
  · refine Or.inl ⟨values, template.refill values, reached, ended, byLeaf.value ended, ?_, ?_⟩
    · exact Json.filled_refill template values (inTurn_length ended)
    · rw [inTurn_calls ended, callsPerText]
      split
      · rw [Nat.mul_one]
      · rw [Nat.mul_zero]
  · obtain ⟨before, text, later, values, between, split, earlier, fails⟩ := inTurn_failure ended
    exact Or.inr ⟨before, text, later, values, between, failure, reached, split, earlier, fails,
      byLeaf.failure ended⟩

end

end Template

end Stencil
