/-
This file proves what one pass makes of a text, where no path is an error. Resolving a path has a
fixed value in each pass: nothing in the pass with the number of the cap, and below it what the
resolver replies or the variables hold, as long as the reply depends on the path alone. Given these
values, a pass replaces the tokens of the text one by one.
-/

import Stencil.Proofs.DirectScan
import Stencil.Proofs.Runs

namespace Stencil.Template

open Pattern Substitution

/-! ### Resolving -/

/-- The reply of the resolver, if there is one, depends on the path alone. -/
def RepliesByPath (settings : Settings) (replies : Text → Option Json) : Prop :=
  match settings.resolver with
  | none => ∀ path, replies path = none
  | some resolver => ∀ history path, resolver.reply history path = .ok (replies path)

/-- The value that the path of a placeholder leads to: what the resolver replies, else what the
variables hold. -/
def valueOf (replies : Text → Option Json) (bindings : Json) (path : Text) : Option Json :=
  (replies path.trim).or (Path.lookup bindings path.trim)

section

variable {settings : Settings} {bindings : Json}

theorem ask_returns {replies : Text → Option Json} {resolver : Resolver}
    (byPath : ∀ history path, resolver.reply history path = .ok (replies path)) (path : Text) :
    Returns (Run.ask resolver path) (replies path) := by
  intro journal
  refine ⟨journal ++ [.asked path], ?_⟩
  rw [Run.ask, run_get_bind, run_note_bind, byPath]
  rfl

/-- Below the cap a path resolves to what the resolver replies, else to what the variables hold. -/
theorem resolve_returns {replies : Text → Option Json} (byPath : RepliesByPath settings replies)
    {pass : Nat} (below : pass < settings.maxPasses) (path : Text) :
    Returns (resolve settings bindings pass path.trim) (valueOf replies bindings path) := by
  rw [resolve, if_neg (Nat.not_le.mpr below), valueOf]
  rw [RepliesByPath] at byPath
  cases resolver : settings.resolver with
  | none =>
    rw [resolver] at byPath
    dsimp only at byPath ⊢
    rw [byPath]
    exact Returns.bind (Returns.note _) (Returns.pure _)
  | some resolver =>
    rw [resolver] at byPath
    refine Returns.bind (ask_returns byPath path.trim) ?_
    cases replies path.trim with
    | some found => exact Returns.pure _
    | none => exact Returns.bind (Returns.note _) (Returns.pure _)

/-- In the pass with the number of the cap nothing resolves. -/
theorem resolve_returns_at_cap {pass : Nat} (cap : pass = settings.maxPasses) (path : Text) :
    Returns (resolve settings bindings pass path) none := by
  rw [resolve, if_pos (Nat.le_of_eq cap.symm)]
  exact Returns.pure _

end

/-! ### Tokens after a pass -/

/-- A value whose text is not scanned again. -/
def isFinal (settings : Settings) (found : Json) : Bool :=
  found.isComposite && settings.finalComposites

/-- What a placeholder that leads to nothing leaves behind. -/
def unresolvedText (settings : Settings) (path : Text) : Text :=
  if settings.keepUnresolved then
    (Token.placeholder path).written settings.pattern.opening settings.pattern.closing
  else
    []

/-- What a pass puts in the place of a token. -/
def afterPass (settings : Settings) (value : Text → Option Json) : Token → Text
  | .literal character => [character]
  | .placeholder path =>
    match value path with
    | none => unresolvedText settings path
    | some found => render found

/-- Whether a token brings in text that may hold placeholders. -/
def bringsText (settings : Settings) (value : Text → Option Json) : Token → Bool
  | .literal _ => false
  | .placeholder path =>
    match value path with
    | none => false
    | some found => !isFinal settings found

section

variable {settings : Settings} {bindings : Json} {value : Text → Option Json} {pass : Nat}

theorem render_of_isFinal {found : Json} (final : isFinal settings found = true) :
    render found = found.text := by
  rw [isFinal, Bool.and_eq_true] at final
  cases found with
  | array items => rfl
  | object members => rfl
  | null => cases final.1
  | bool value => cases final.1
  | number value => cases final.1
  | string text => cases final.1

variable (lenient : settings.strict = false)
  (resolves : ∀ path, Returns (resolve settings bindings pass path.trim) (value path))

include lenient resolves

theorem expand_returns (skipped path : Text) :
    Returns (expand settings bindings pass
        ⟨skipped, (Token.placeholder path).written settings.pattern.opening
          settings.pattern.closing, some path⟩)
      (afterPass settings value (.placeholder path),
        bringsText settings value (.placeholder path)) := by
  refine Returns.bind (resolves path) ?_
  rw [afterPass, bringsText]
  cases value path with
  | none =>
    dsimp only
    rw [lenient, if_neg Bool.false_ne_true]
    exact Returns.bind (Returns.note _) (Returns.pure _)
  | some found =>
    show Returns (if isFinal settings found = true then Pure.pure (found.text, false)
      else Pure.pure (render found, true)) (render found, !isFinal settings found)
    by_cases final : isFinal settings found = true
    · rw [if_pos final, final, render_of_isFinal final]
      exact Returns.pure _
    · rw [if_neg final, Bool.eq_false_iff.mpr final]
      exact Returns.pure _

/-- All pieces are expanded, each a match of the pattern with its path. -/
theorem expandAll_returns {pieces : List Regex.Piece}
    (matched : ∀ piece ∈ pieces, ∃ path, piece.group = some path ∧
      piece.whole =
        (Token.placeholder path).written settings.pattern.opening settings.pattern.closing) :
    Returns (expandAll settings bindings pass pieces)
      (pieces.flatMap fun piece =>
          piece.skipped ++ afterPass settings value (.placeholder (piece.group.getD [])),
        pieces.any fun piece =>
          bringsText settings value (.placeholder (piece.group.getD []))) := by
  induction pieces with
  | nil => exact Returns.pure _
  | cons piece later inductionHypothesis =>
    obtain ⟨skipped, whole, group⟩ := piece
    obtain ⟨path, sameGroup, sameWhole⟩ := matched _ List.mem_cons_self
    dsimp only at sameWhole sameGroup
    subst sameWhole sameGroup
    refine Returns.bind (expand_returns lenient resolves skipped path) ?_
    refine Returns.bind (inductionHypothesis fun other member => ?_) (Returns.pure _)
    exact matched other (List.mem_cons_of_mem _ member)

end

/-! ### Pieces and tokens -/

section

variable (opening closing : Text) (tokens : List Token)

theorem gather_matched :
    ∀ piece ∈ (gather opening closing tokens).pieces, ∃ path, piece.group = some path ∧
      piece.whole = (Token.placeholder path).written opening closing := by
  induction tokens with
  | nil =>
    intro piece member
    exact absurd member List.not_mem_nil
  | cons token later inductionHypothesis =>
    cases token with
    | placeholder path =>
      intro piece member
      rcases List.mem_cons.mp member with rfl | behind
      · exact ⟨path, rfl, rfl⟩
      · exact inductionHypothesis piece behind
    | literal character =>
      rw [gather]
      revert inductionHypothesis
      obtain ⟨pieces, tail⟩ := gather opening closing later
      intro matched piece member
      cases pieces with
      | nil => exact absurd member List.not_mem_nil
      | cons first others =>
        rcases List.mem_cons.mp member with rfl | behind
        · exact matched first List.mem_cons_self
        · exact matched piece (List.mem_cons_of_mem _ behind)

variable (settings : Settings) (value : Text → Option Json)

/-- Replacing the placeholders among the pieces is replacing those among the tokens. -/
theorem gather_flatMap :
    ((gather opening closing tokens).pieces.flatMap fun piece =>
          piece.skipped ++ afterPass settings value (.placeholder (piece.group.getD []))) ++
        (gather opening closing tokens).tail =
      tokens.flatMap (afterPass settings value) := by
  induction tokens with
  | nil => rfl
  | cons token later inductionHypothesis =>
    rw [List.flatMap_cons, ← inductionHypothesis]
    cases token with
    | placeholder path => exact List.append_assoc _ _ _
    | literal character =>
      rw [gather]
      obtain ⟨pieces, tail⟩ := gather opening closing later
      cases pieces with
      | nil => rfl
      | cons first others => rfl

theorem gather_any :
    ((gather opening closing tokens).pieces.any fun piece =>
        bringsText settings value (.placeholder (piece.group.getD []))) =
      tokens.any (bringsText settings value) := by
  induction tokens with
  | nil => rfl
  | cons token later inductionHypothesis =>
    rw [List.any_cons, ← inductionHypothesis]
    cases token with
    | placeholder path => rfl
    | literal character =>
      rw [gather]
      obtain ⟨pieces, tail⟩ := gather opening closing later
      cases pieces with
      | nil => rfl
      | cons first others => rfl

end

/-- A pass replaces the tokens of a text. -/
theorem onePass_returns {settings : Settings} {bindings : Json} {value : Text → Option Json}
    {pass : Nat} (delimited : settings.pattern.IsDelimited) (lenient : settings.strict = false)
    (resolves : ∀ path, Returns (resolve settings bindings pass path.trim) (value path))
    (text : Text) :
    Returns (onePass settings bindings pass text)
      ((settings.pattern.tokensOf text).flatMap (afterPass settings value),
        (settings.pattern.tokensOf text).any (bringsText settings value)) := by
  dsimp only [onePass]
  rw [cut_eq_gather delimited,
    ← gather_flatMap settings.pattern.opening settings.pattern.closing,
    ← gather_any settings.pattern.opening settings.pattern.closing]
  exact Returns.bind (expandAll_returns lenient resolves (gather_matched _ _ _)) (Returns.pure _)

end Stencil.Template
