/-
This file proves that compiling a template string expands it. A template string is written with
literals, placeholders and escaped delimiters. Marking turns the escaped delimiters into literals of
their own, which no pass takes for delimiters; the passes expand the rest; and unmarking turns them
into bare delimiters. So what is handed to the transform and coerced is the expansion of the
segments, one after another.
-/

import Stencil.Proofs.Expansion

namespace Stencil.Template

open Pattern

/-! ### Segments -/

/-- What a template string is written with. -/
inductive Segment where
  | plain (token : Token)
  | escapedOpening
  | escapedClosing

namespace Segment

/-- The text of a segment. -/
def written (pattern : Pattern) (escape : Text) : Segment → Text
  | plain token => token.written pattern.opening pattern.closing
  | escapedOpening => escape ++ pattern.opening
  | escapedClosing => escape ++ pattern.closing

/-- A segment as a template string can be written with. Neither a mark nor the character that the
escape starts with stands in a literal or in a path. -/
def WellFormed (pattern : Pattern) (escape : Text) : Segment → Prop
  | plain token => token.WellFormed pattern.opening pattern.closing ∧
      Escaping.Unmarked token.text ∧ ∀ first ∈ escape.head?, first ∉ token.text
  | escapedOpening => True
  | escapedClosing => True

instance (pattern : Pattern) (escape : Text) (segment : Segment) :
    Decidable (segment.WellFormed pattern escape) :=
  match segment with
  | plain _ => @instDecidableAnd _ _ inferInstance
      (@instDecidableAnd _ _ inferInstance (Option.decidableForallMem escape.head?))
  | escapedOpening => inferInstanceAs (Decidable True)
  | escapedClosing => inferInstanceAs (Decidable True)

/-- The expansion of a segment. An escaped delimiter is the delimiter. -/
def expansion (settings : Settings) (value : Text → Option Json) (left : Nat) : Segment → Text
  | plain token => Template.expansion settings value left token
  | escapedOpening => settings.pattern.opening
  | escapedClosing => settings.pattern.closing

/-! ### Marked segments -/

/-- The token that marking makes of a segment. Where the delimiters are equal, an escaped closing
delimiter is marked as an opening one. -/
def marked (pattern : Pattern) : Segment → Token
  | plain token => token
  | escapedOpening => .literal Escaping.openingMark
  | escapedClosing => .literal
      (if pattern.opening = pattern.closing then Escaping.openingMark else Escaping.closingMark)

/-- A character that stands neither in a delimiter nor in the text of a token does not stand in what
is written with it. -/
theorem not_mem_written {opening closing : Text} {character : Char} {token : Token}
    (notInOpening : character ∉ opening) (notInClosing : character ∉ closing)
    (notInText : character ∉ token.text) : character ∉ token.written opening closing := by
  cases token with
  | literal _ => exact notInText
  | placeholder path =>
    simp only [Token.written, List.mem_append, not_or]
    exact ⟨notInOpening, notInText, notInClosing⟩

/-- Where the delimiters differ, no escaped opening delimiter stands where an escaped closing one
does. -/
theorem not_opened_of_ne {opening closing : Text} (different : opening ≠ closing)
    (noPrefix : opening <+: closing ∨ closing <+: opening → opening = closing)
    (escape rest : Text) :
    ¬ (escape ++ opening).isPrefixOf ((escape ++ closing) ++ rest) = true := by
  intro stands
  rw [List.isPrefixOf_iff_prefix, List.append_assoc, List.prefix_append_right_inj] at stands
  exact different (noPrefix (List.prefix_or_prefix_of_prefix stands (List.prefix_append _ _)))

/-- Marking a template string marks its escaped delimiters. -/
theorem mark_written {pattern : Pattern} {escape : Text}
    (tellable : Escaping.Tellable pattern escape)
    (noPrefix : pattern.opening <+: pattern.closing ∨ pattern.closing <+: pattern.opening →
      pattern.opening = pattern.closing)
    {segments : List Segment}
    (wellFormed : ∀ segment ∈ segments, segment.WellFormed pattern escape) :
    Escaping.mark pattern escape (segments.flatMap (written pattern escape)) =
      pattern.textOf (segments.map (marked pattern)) := by
  rw [Escaping.mark_eq_markFrom tellable, textOf]
  obtain ⟨first, others, rfl, _, notInOpening, notInClosing⟩ := tellable.alone
  induction segments with
  | nil => rfl
  | cons segment later inductionHypothesis =>
    have rest := inductionHypothesis fun other member =>
      wellFormed other (List.mem_cons_of_mem _ member)
    rw [List.flatMap_cons, List.map_cons, List.flatMap_cons, ← rest]
    cases segment with
    | plain token =>
      have notInText := (wellFormed _ List.mem_cons_self).2.2 first rfl
      exact Escaping.markFrom_append (not_mem_written notInOpening notInClosing notInText) _
    | escapedOpening => exact Escaping.markFrom_opened _
    | escapedClosing =>
      show Escaping.markFrom _ _ 0 ((first :: others ++ pattern.closing) ++ _) = _
      rw [marked]
      by_cases same : pattern.opening = pattern.closing
      · rw [if_pos same, ← same]
        exact Escaping.markFrom_opened _
      · rw [if_neg same]
        exact Escaping.markFrom_closed (not_opened_of_ne same noPrefix (first :: others) _)

end Segment

section

variable {settings : Settings} {value : Text → Option Json} {left : Nat}
  (tellable : Escaping.Tellable settings.pattern settings.escape)

include tellable

/-- The token of a marked segment is sound where the segment is well formed. -/
theorem sound_marked {segments : List Segment}
    (wellFormed : ∀ segment ∈ segments, segment.WellFormed settings.pattern settings.escape)
    (renders : ∀ path found, .plain (.placeholder path) ∈ segments →
      Reached settings value left path found → RendersWellFormed settings found) :
    ∀ segment ∈ segments, Sound settings value left (segment.marked settings.pattern) := by
  have openingUnmarked := tellable.openingUnmarked
  have closingUnmarked := tellable.closingUnmarked
  intro segment member
  cases segment with
  | plain token =>
    refine ⟨(wellFormed _ member).1, fun path found same reached => ?_⟩
    cases same
    exact renders path found member reached
  | escapedOpening =>
    exact ⟨⟨openingUnmarked.1, closingUnmarked.1⟩, fun _ _ same => Token.noConfusion same⟩
  | escapedClosing =>
    refine ⟨?_, fun _ _ same => Token.noConfusion same⟩
    rw [Segment.marked]
    split
    · exact ⟨openingUnmarked.1, closingUnmarked.1⟩
    · exact ⟨openingUnmarked.2, closingUnmarked.2⟩

/-- Unmarking the expansion of a marked segment gives the expansion of the segment. -/
theorem unmark_expansion (delimited : settings.pattern.IsDelimited) {segment : Segment}
    (wellFormed : segment.WellFormed settings.pattern settings.escape)
    (sound : Sound settings value left (segment.marked settings.pattern)) :
    (expansion settings value left (segment.marked settings.pattern)).flatMap
        (Escaping.unmarkCharacter settings.pattern) =
      segment.expansion settings value left := by
  cases segment with
  | plain token =>
    exact Escaping.flatMap_unmarkCharacter settings.pattern (unmarked_expansion delimited
      tellable.openingUnmarked tellable.closingUnmarked sound wellFormed.2.1)
  | escapedOpening =>
    rw [Segment.marked, expansion, List.flatMap_singleton]
    rfl
  | escapedClosing =>
    rw [Segment.marked, expansion, List.flatMap_singleton, Segment.expansion]
    by_cases same : settings.pattern.opening = settings.pattern.closing
    · rw [if_pos same, ← same]
      rfl
    · rw [if_neg same]
      rfl

end

/-! ### Compiling template strings -/

/-- Compiling a template string expands it: what is handed to the transform and then coerced is the
expansion of its segments, in which as many passes resolve as are allowed before the last one. The
pattern is made of two delimiters, neither of them the start of the other unless they are equal; the
run is not strict; the reply of the resolver depends on the path alone; and the values that the
expansion reads, which may refer to each other in a circle, have well-formed texts. -/
theorem compile_expands (settings : Settings) (bindings : Json) (replies : Text → Option Json)
    (segments : List Segment) (journal : Journal) (delimited : settings.pattern.IsDelimited)
    (noPrefix : settings.pattern.opening <+: settings.pattern.closing ∨
      settings.pattern.closing <+: settings.pattern.opening →
        settings.pattern.opening = settings.pattern.closing)
    (tellable : Escaping.Tellable settings.pattern settings.escape)
    (capped : 1 ≤ settings.maxPasses) (lenient : settings.strict = false)
    (byPath : RepliesByPath settings replies)
    (wellFormed : ∀ segment ∈ segments, segment.WellFormed settings.pattern settings.escape)
    (renders : ∀ path found, .plain (.placeholder path) ∈ segments →
      Reached settings (valueOf replies bindings) (settings.maxPasses - 1) path found →
        RendersWellFormed settings found) :
    ∃ added, (∀ entry ∈ added, IsSubstitution entry) ∧
      run (compile settings bindings
          (.string (segments.flatMap (Segment.written settings.pattern settings.escape)))) journal =
        run (finish settings (segments.flatMap
          (Segment.expansion settings (valueOf replies bindings) (settings.maxPasses - 1))))
          (journal ++ added) := by
  have sound := sound_marked tellable wellFormed renders
  have substituted := passes_returns delimited lenient
    (fun pass path below => resolve_returns byPath below path)
    (Nat.add_sub_of_le capped) (List.forall_mem_map.mpr sound)
  rw [Nat.sub_add_cancel capped, ← Segment.mark_written tellable noPrefix wellFormed]
    at substituted
  obtain ⟨reached, ended⟩ := substituted journal
  obtain ⟨added, grown, kinds⟩ := substitute_adds settings bindings
    (Escaping.mark settings.pattern settings.escape
      (segments.flatMap (Segment.written settings.pattern settings.escape))) journal
  rw [Substitution.substitute, ended] at grown
  dsimp only at grown
  have unmarked : Escaping.unmark settings.pattern
      ((segments.map (Segment.marked settings.pattern)).flatMap
        (expansion settings (valueOf replies bindings) (settings.maxPasses - 1))) =
      segments.flatMap
        (Segment.expansion settings (valueOf replies bindings) (settings.maxPasses - 1)) := by
    rw [Escaping.unmark_eq_flatMap tellable.openingUnmarked, List.flatMap_assoc, List.flatMap_map]
    exact List.flatMap_congr fun segment member =>
      unmark_expansion tellable delimited (wellFormed segment member) (sound segment member)
  refine ⟨added, kinds, ?_⟩
  rw [compile, compileText_eq, Substitution.substitute, run_bind_of_ok _ ended, unmarked, grown]

/-- Variables that refer to each other. -/
def cyclicVariables : Json :=
  .object [(['x'], .string "a{{y}}".toList), (['y'], .string "{{x}}b".toList)]

/-- Placeholders without a value stay, and the fourth pass resolves nothing. -/
def cyclicSettings : Settings :=
  { maxPasses := 4, keepUnresolved := true }

/-- An escaped placeholder, and a placeholder whose value never comes to an end. -/
def cyclicTemplate : List Segment :=
  [.escapedOpening, .plain (.literal 'x'), .escapedClosing, .plain (.literal '='),
    .plain (.placeholder ['x'])]

/-- From either of the variables, no other value is reached than theirs. -/
theorem cyclicVariables_reached {left : Nat} {path : Text} {found : Json}
    (start : path = ['x'] ∨ path = ['y'])
    (reached : Reached cyclicSettings (valueOf (fun _ => none) cyclicVariables) left path found) :
    found = .string "a{{y}}".toList ∨ found = .string "{{x}}b".toList := by
  have x : valueOf (fun _ => none) cyclicVariables ['x'] = some (.string "a{{y}}".toList) := rfl
  have y : valueOf (fun _ => none) cyclicVariables ['y'] = some (.string "{{x}}b".toList) := rfl
  induction reached with
  | here leads =>
    rcases start with rfl | rfl
    · rw [x] at leads
      exact Or.inl (Option.some.inj leads).symm
    · rw [y] at leads
      exact Or.inr (Option.some.inj leads).symm
  | within leads scanned member later inductionHypothesis =>
    refine inductionHypothesis ?_
    rcases start with rfl | rfl
    · have tokens : cyclicSettings.pattern.tokensOf (Substitution.render
          (.string "a{{y}}".toList)) = [.literal 'a', .placeholder ['y']] := by decide +kernel
      rw [x] at leads
      rw [← Option.some.inj leads, tokens] at member
      simp only [List.mem_cons, reduceCtorEq, Token.placeholder.injEq, List.not_mem_nil, or_false,
        false_or] at member
      exact Or.inr member
    · have tokens : cyclicSettings.pattern.tokensOf (Substitution.render
          (.string "{{x}}b".toList)) = [.placeholder ['x'], .literal 'b'] := by decide +kernel
      rw [y] at leads
      rw [← Option.some.inj leads, tokens] at member
      simp only [List.mem_cons, reduceCtorEq, Token.placeholder.injEq, List.not_mem_nil, or_false]
        at member
      exact Or.inl member

/-- Three passes resolve, so the circle is gone through once and a half. -/
theorem compile_expands_cyclic :
    ∃ added, (∀ entry ∈ added, IsSubstitution entry) ∧
      run (compile cyclicSettings cyclicVariables (.string (cyclicTemplate.flatMap
          (Segment.written cyclicSettings.pattern cyclicSettings.escape)))) [] =
        run (finish cyclicSettings "{{x}}=aa{{y}}b".toList) added := by
  have expanded : cyclicTemplate.flatMap (Segment.expansion cyclicSettings
      (valueOf (fun _ => none) cyclicVariables) (cyclicSettings.maxPasses - 1)) =
        "{{x}}=aa{{y}}b".toList := by decide +kernel
  have tellable : Escaping.Tellable cyclicSettings.pattern cyclicSettings.escape :=
    ⟨⟨'\\', [], by decide +kernel, by decide, by decide +kernel, by decide +kernel⟩,
      by decide +kernel, by decide +kernel, by decide +kernel⟩
  have renders : ∀ path found, .plain (.placeholder path) ∈ cyclicTemplate →
      Reached cyclicSettings (valueOf (fun _ => none) cyclicVariables)
        (cyclicSettings.maxPasses - 1) path found → RendersWellFormed cyclicSettings found := by
    intro path found member reached
    simp only [cyclicTemplate, List.mem_cons, reduceCtorEq, Segment.plain.injEq,
      Token.placeholder.injEq, List.not_mem_nil, or_false, false_or] at member
    rcases cyclicVariables_reached (Or.inl member) reached with rfl | rfl
    · exact ⟨by decide +kernel, [.literal 'a', .placeholder ['y']], by decide +kernel,
        by decide +kernel, fun final => absurd final (by decide +kernel)⟩
    · exact ⟨by decide +kernel, [.placeholder ['x'], .literal 'b'], by decide +kernel,
        by decide +kernel, fun final => absurd final (by decide +kernel)⟩
  have ended := compile_expands cyclicSettings cyclicVariables (fun _ => none) cyclicTemplate []
    ofDelimiters_default (by decide +kernel) tellable (by decide) rfl (fun _ => rfl)
    (by decide +kernel) renders
  rw [expanded] at ended
  exact ended

end Stencil.Template
