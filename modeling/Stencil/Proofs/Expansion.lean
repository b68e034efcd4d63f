/-
This file proves that the passes over a text compute its expansion. The loop rewrites one flat text
again and again: a pass replaces all placeholders at once, and the next pass finds the placeholders
that the values have brought in. The expansion goes the other way: it takes each placeholder of the
text, reads its value, and expands that value's text before it goes on to the next placeholder. It
stops where the loop does, at the cap, so it ends on values that refer to each other as well.

One step connects the two: expanding the tokens that a pass leaves, with one pass fewer to come, is
expanding the tokens it started from. The loop also ends early, after a pass that has brought in no
text to scan again, or has left no opening delimiter. Then no placeholder is left that would expand
to anything but what already stands there.
-/

import Stencil.Proofs.Escapes
import Stencil.Proofs.OnePass

namespace Stencil.Template

open Pattern Substitution

/-! ### The expansion -/

section

variable (settings : Settings) (value : Text → Option Json)

/-- The expansion of a token, `left` being the number of passes that still resolve. A placeholder
takes one of them, and the text of its value is expanded with the others. -/
def expansion : (left : Nat) → Token → Text
  | _, .literal character => [character]
  | 0, .placeholder path => unresolvedText settings path
  | left + 1, .placeholder path =>
    match value path with
    | none => unresolvedText settings path
    | some found =>
      if isFinal settings found then found.text
      else (settings.pattern.tokensOf (render found)).flatMap (expansion left)

/-- A value that the expansion of a placeholder reads. -/
inductive Reached : (left : Nat) → (path : Text) → Json → Prop where
  | here {left : Nat} {path : Text} {found : Json} (leads : value path = some found) :
    Reached (left + 1) path found
  | within {left : Nat} {path next : Text} {found other : Json} (leads : value path = some found)
    (scanned : isFinal settings found = false)
    (member : Token.placeholder next ∈ settings.pattern.tokensOf (render found))
    (later : Reached left next other) : Reached (left + 1) path other

/-- The text of a value is written with well-formed tokens, and holds no mark. A value whose text is
not scanned again holds no placeholders. -/
def RendersWellFormed (found : Json) : Prop :=
  Escaping.Unmarked (render found) ∧
    ∃ tokens : List Token, render found = settings.pattern.textOf tokens ∧
      (∀ token ∈ tokens, token.WellFormed settings.pattern.opening settings.pattern.closing) ∧
      (isFinal settings found = true → ∀ path, Token.placeholder path ∉ tokens)

/-- A token is well formed, and so is all that its expansion reads. -/
def Sound (left : Nat) (token : Token) : Prop :=
  token.WellFormed settings.pattern.opening settings.pattern.closing ∧
    ∀ path found, token = .placeholder path → Reached settings value left path found →
      RendersWellFormed settings found

/-- The tokens that a pass leaves in the place of one. -/
def tokensAfter : Token → List Token
  | .literal character => [.literal character]
  | .placeholder path =>
    match value path with
    | none => if settings.keepUnresolved then [.placeholder path] else []
    | some found => settings.pattern.tokensOf (render found)

end

section

variable {settings : Settings} {bindings : Json} {value : Text → Option Json}

theorem expansion_of_none {path : Text} (absent : value path = none) (left : Nat) :
    expansion settings value left (.placeholder path) = unresolvedText settings path := by
  cases left with
  | zero => rfl
  | succ left => rw [expansion, absent]

/-- Without placeholders nothing is expanded. -/
theorem flatMap_expansion_of_literals {tokens : List Token}
    (literals : ∀ path, Token.placeholder path ∉ tokens) (left : Nat) :
    tokens.flatMap (expansion settings value left) = settings.pattern.textOf tokens := by
  refine List.flatMap_congr fun token member => ?_
  cases token with
  | literal character =>
    rw [expansion]
    rfl
  | placeholder path => exact absurd member (literals path)

/-- Where a pass brings in no text to scan again, it has expanded all there is to expand. -/
theorem afterPass_of_not_bringsText {token : Token}
    (settled : bringsText settings value token = false) (left : Nat) :
    afterPass settings value token = expansion settings value (left + 1) token := by
  cases token with
  | literal character => rw [afterPass, expansion]
  | placeholder path =>
    rw [bringsText] at settled
    rw [afterPass, expansion]
    cases leads : value path with
    | none => rfl
    | some found =>
      rw [leads] at settled
      have final : isFinal settings found = true := Bool.not_eq_eq_eq_not.mp settled
      dsimp only
      rw [if_pos final, render_of_isFinal final]

theorem includes_append (needle front back : Text) :
    Text.includes needle (front ++ (needle ++ back)) = true := by
  induction front with
  | nil =>
    have stands : needle.isPrefixOf (needle ++ back) = true :=
      List.isPrefixOf_iff_prefix.mpr (List.prefix_append needle back)
    rw [List.nil_append]
    cases same : needle ++ back with
    | nil => rw [Text.includes, (List.append_eq_nil_iff.mp same).1, List.isEmpty_nil]
    | cons head tail => rw [Text.includes, ← same, stands, Bool.true_or]
  | cons head front inductionHypothesis =>
    rw [List.cons_append, Text.includes, inductionHypothesis, Bool.or_true]

/-- A text without the opening delimiter is written without placeholders. -/
theorem literals_of_not_includes {pattern : Pattern} {tokens : List Token}
    (absent : ¬ Text.includes pattern.opening (pattern.textOf tokens) = true) (path : Text) :
    Token.placeholder path ∉ tokens := by
  intro member
  obtain ⟨front, back, rfl⟩ := List.append_of_mem member
  refine absent ?_
  rw [textOf, List.flatMap_append, List.flatMap_cons, Token.written, List.append_assoc]
  exact includes_append _ _ _

theorem text_subset_written (opening closing : Text) (token : Token) :
    ∀ character ∈ token.text, character ∈ token.written opening closing := by
  intro character member
  cases token with
  | literal _ => exact member
  | placeholder path => exact List.mem_append_right _ (List.mem_append_left _ member)

theorem unmarked_unresolvedText (openingUnmarked : Escaping.Unmarked settings.pattern.opening)
    (closingUnmarked : Escaping.Unmarked settings.pattern.closing) {path : Text}
    (unmarked : Escaping.Unmarked path) : Escaping.Unmarked (unresolvedText settings path) := by
  rw [unresolvedText]
  split
  · exact openingUnmarked.append (unmarked.append closingUnmarked)
  · exact ⟨List.not_mem_nil, List.not_mem_nil⟩

/-! ### One token -/

variable (delimited : settings.pattern.IsDelimited)

include delimited

theorem RendersWellFormed.tokens {found : Json} (renders : RendersWellFormed settings found) :
    ∃ tokens, settings.pattern.tokensOf (render found) = tokens ∧
      render found = settings.pattern.textOf tokens ∧
      (∀ token ∈ tokens, token.WellFormed settings.pattern.opening settings.pattern.closing) ∧
      (isFinal settings found = true → ∀ path, Token.placeholder path ∉ tokens) := by
  obtain ⟨_, tokens, written, wellFormed, literals⟩ := renders
  refine ⟨tokens, ?_, written, wellFormed, literals⟩
  rw [written, tokensOf_textOf delimited wellFormed]

theorem Sound.after {left : Nat} {token : Token} (sound : Sound settings value (left + 1) token) :
    ∀ next ∈ tokensAfter settings value token, Sound settings value left next := by
  intro next member
  cases token with
  | literal character =>
    rw [List.mem_singleton.mp member]
    exact ⟨sound.1, fun _ _ same => Token.noConfusion same⟩
  | placeholder path =>
    rw [tokensAfter] at member
    cases leads : value path with
    | none =>
      rw [leads] at member
      dsimp only at member
      split at member
      · rw [List.mem_singleton.mp member]
        refine ⟨sound.1, fun path found same reached => ?_⟩
        cases same
        cases reached with
        | here leadsToo =>
          rw [leads] at leadsToo
          cases leadsToo
        | within leadsToo _ _ _ =>
          rw [leads] at leadsToo
          cases leadsToo
      · exact absurd member List.not_mem_nil
    | some found =>
      rw [leads] at member
      dsimp only at member
      obtain ⟨tokens, scanned, _, wellFormed, literals⟩ :=
        (sound.2 path found rfl (Reached.here leads)).tokens delimited
      rw [scanned] at member
      refine ⟨wellFormed next member, fun nextPath other same reached => ?_⟩
      subst same
      by_cases final : isFinal settings found = true
      · exact absurd member (literals final nextPath)
      · rw [← scanned] at member
        exact sound.2 path other rfl
          (Reached.within leads (Bool.eq_false_iff.mpr final) member reached)

/-- The tokens that a pass leaves are written with the text that it leaves. -/
theorem textOf_tokensAfter {left : Nat} {token : Token}
    (sound : Sound settings value (left + 1) token) :
    settings.pattern.textOf (tokensAfter settings value token) =
      afterPass settings value token := by
  cases token with
  | literal character => rfl
  | placeholder path =>
    rw [tokensAfter, afterPass]
    cases leads : value path with
    | none =>
      dsimp only
      rw [unresolvedText]
      split
      · exact List.flatMap_singleton _ _
      · rfl
    | some found =>
      obtain ⟨tokens, scanned, written, _⟩ :=
        (sound.2 path found rfl (Reached.here leads)).tokens delimited
      dsimp only
      rw [scanned, written]

/-- Expanding what a pass leaves of a token, with one pass fewer to come, is expanding the token. -/
theorem expansion_tokensAfter {left : Nat} {token : Token}
    (sound : Sound settings value (left + 1) token) :
    (tokensAfter settings value token).flatMap (expansion settings value left) =
      expansion settings value (left + 1) token := by
  cases token with
  | literal character =>
    rw [tokensAfter, List.flatMap_singleton, expansion, expansion]
  | placeholder path =>
    rw [tokensAfter, expansion]
    cases leads : value path with
    | none =>
      dsimp only
      by_cases keep : settings.keepUnresolved = true
      · rw [if_pos keep, List.flatMap_singleton, expansion_of_none leads]
      · rw [if_neg keep, unresolvedText, if_neg keep]
        rfl
    | some found =>
      dsimp only
      by_cases final : isFinal settings found = true
      · obtain ⟨tokens, scanned, written, _, literals⟩ :=
          (sound.2 path found rfl (Reached.here leads)).tokens delimited
        rw [if_pos final, scanned, flatMap_expansion_of_literals (literals final), ← written,
          render_of_isFinal final]
      · rw [if_neg final]

/-! ### One pass -/

/-- The tokens that a pass leaves of several are written with the text that it leaves. -/
theorem textOf_flatMap_tokensAfter {left : Nat} {tokens : List Token}
    (sound : ∀ token ∈ tokens, Sound settings value (left + 1) token) :
    settings.pattern.textOf (tokens.flatMap (tokensAfter settings value)) =
      tokens.flatMap (afterPass settings value) := by
  rw [textOf, List.flatMap_assoc]
  exact List.flatMap_congr fun token member => textOf_tokensAfter delimited (sound token member)

/-- Expanding what a pass leaves of tokens, with one pass fewer to come, is expanding the tokens. -/
theorem expansion_flatMap_tokensAfter {left : Nat} {tokens : List Token}
    (sound : ∀ token ∈ tokens, Sound settings value (left + 1) token) :
    (tokens.flatMap (tokensAfter settings value)).flatMap (expansion settings value left) =
      tokens.flatMap (expansion settings value (left + 1)) := by
  rw [List.flatMap_assoc]
  exact List.flatMap_congr fun token member => expansion_tokensAfter delimited (sound token member)

/-- Where the loop ends early, what the pass leaves is the expansion: either it has brought in no
text to scan again, so every token has its expansion already, or no placeholder is left. -/
theorem textOf_tokensAfter_of_stop {left : Nat} {tokens : List Token}
    (sound : ∀ token ∈ tokens, Sound settings value (left + 1) token)
    (stop : ¬ (tokens.any (bringsText settings value) &&
      Text.includes settings.pattern.opening
        (settings.pattern.textOf (tokens.flatMap (tokensAfter settings value)))) = true) :
    settings.pattern.textOf (tokens.flatMap (tokensAfter settings value)) =
      tokens.flatMap (expansion settings value (left + 1)) := by
  rcases Bool.and_eq_false_iff.mp (Bool.eq_false_iff.mpr stop) with settled | absent
  · rw [textOf_flatMap_tokensAfter delimited sound]
    exact List.flatMap_congr fun token member => afterPass_of_not_bringsText
      (Bool.eq_false_iff.mpr (List.any_eq_false.mp settled token member)) left
  · rw [← expansion_flatMap_tokensAfter delimited sound, flatMap_expansion_of_literals
      (literals_of_not_includes (Bool.eq_false_iff.mp absent))]

/-! ### Marks in expansions -/

/-- No expansion holds a mark. -/
theorem unmarked_expansion (openingUnmarked : Escaping.Unmarked settings.pattern.opening)
    (closingUnmarked : Escaping.Unmarked settings.pattern.closing) {left : Nat} {token : Token}
    (sound : Sound settings value left token) (unmarked : Escaping.Unmarked token.text) :
    Escaping.Unmarked (expansion settings value left token) := by
  induction left generalizing token with
  | zero =>
    cases token with
    | literal character => exact unmarked
    | placeholder path => exact unmarked_unresolvedText openingUnmarked closingUnmarked unmarked
  | succ left inductionHypothesis =>
    cases token with
    | literal character =>
      rw [expansion]
      exact unmarked
    | placeholder path =>
      cases leads : value path with
      | none =>
        rw [expansion_of_none leads]
        exact unmarked_unresolvedText openingUnmarked closingUnmarked unmarked
      | some found =>
        have renders := sound.2 path found rfl (Reached.here leads)
        obtain ⟨tokens, scanned, written, _⟩ := renders.tokens delimited
        rw [← expansion_tokensAfter delimited sound]
        refine Escaping.Unmarked.flatMap fun next member =>
          inductionHypothesis (sound.after delimited next member) ?_
        rw [tokensAfter, leads] at member
        dsimp only at member
        rw [scanned] at member
        refine renders.1.part fun character inside => ?_
        rw [written]
        exact List.mem_flatMap.mpr ⟨next, member, text_subset_written _ _ next character inside⟩

/-! ### The loop -/

variable (lenient : settings.strict = false)

include lenient

/-- The pass with the number of the cap resolves nothing, so it brings in nothing, and the loop ends
with it. -/
theorem passes_returns_at_cap {pass : Nat} (cap : pass = settings.maxPasses) {tokens : List Token}
    (sound : ∀ token ∈ tokens, Sound settings value 0 token) :
    Returns (passes settings bindings 1 pass (settings.pattern.textOf tokens))
      (tokens.flatMap (expansion settings value 0)) := by
  have once : Returns (onePass settings bindings pass (settings.pattern.textOf tokens)) _ :=
    onePass_returns delimited lenient (fun path => resolve_returns_at_cap cap path.trim) _
  rw [tokensOf_textOf delimited fun token member => (sound token member).1] at once
  have settled : tokens.any (bringsText settings fun _ => none) = false := by
    refine List.any_eq_false.mpr fun token _ => ?_
    cases token with
    | literal character => exact Bool.false_ne_true
    | placeholder path => exact Bool.false_ne_true
  have expanded : tokens.flatMap (afterPass settings fun _ => none) =
      tokens.flatMap (expansion settings value 0) := by
    refine List.flatMap_congr fun token _ => ?_
    cases token with
    | literal character => rw [afterPass, expansion]
    | placeholder path => rw [afterPass, expansion]
  rw [settled, expanded] at once
  exact passes_returns_of_stop once Bool.false_ne_true

/-- The passes that are left expand the placeholders of a text as far as they go. -/
theorem passes_returns
    (resolves : ∀ pass path, pass < settings.maxPasses →
      Returns (resolve settings bindings pass path.trim) (value path))
    {left pass : Nat} (cap : pass + left = settings.maxPasses) {tokens : List Token}
    (sound : ∀ token ∈ tokens, Sound settings value left token) :
    Returns (passes settings bindings (left + 1) pass (settings.pattern.textOf tokens))
      (tokens.flatMap (expansion settings value left)) := by
  induction left generalizing pass tokens with
  | zero => exact passes_returns_at_cap delimited lenient cap sound
  | succ left inductionHypothesis =>
    have once := onePass_returns delimited lenient (fun path => resolves pass path (by omega))
      (settings.pattern.textOf tokens)
    rw [tokensOf_textOf delimited fun token member => (sound token member).1,
      ← textOf_flatMap_tokensAfter delimited sound] at once
    by_cases again : (tokens.any (bringsText settings value) &&
        Text.includes settings.pattern.opening (settings.pattern.textOf
          (tokens.flatMap (tokensAfter settings value)))) = true
    · have soundNext : ∀ token ∈ tokens.flatMap (tokensAfter settings value),
          Sound settings value left token := by
        intro token member
        obtain ⟨earlier, present, produced⟩ := List.mem_flatMap.mp member
        exact (sound earlier present).after delimited token produced
      rw [← expansion_flatMap_tokensAfter delimited sound]
      exact passes_returns_of_again once again (inductionHypothesis (by omega) soundNext)
    · rw [← textOf_tokensAfter_of_stop delimited sound again]
      exact passes_returns_of_stop once again

end

end Stencil.Template
