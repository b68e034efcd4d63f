/-
This file proves what the slashes around a source mean. A source that starts with a slash and ends
with another one and ASCII letters is a body with flags: the last slash parts them, whatever slashes
the body holds. The letters that change what is matched are put before the body and nothing else
is; the delimiters are read off the body alone, so that no flag gets into a delimiter. Every other
source is taken whole.
-/

import Stencil.Proofs.DerivedOpening

namespace Stencil

/-! ### The last slash -/

namespace Text

theorem splitLast?_eq_none_iff {mark : Char} {text : Text} :
    splitLast? mark text = none ↔ mark ∉ text := by
  induction text with
  | nil => exact ⟨fun _ => List.not_mem_nil, fun _ => rfl⟩
  | cons head tail inductionHypothesis =>
    rw [splitLast?, List.mem_cons, not_or]
    split
    · rename_i split
      rw [split] at inductionHypothesis
      constructor
      · exact fun none => nomatch none
      · exact fun absent => absurd (inductionHypothesis.mpr absent.2) (Option.some_ne_none _)
    · rename_i split
      rw [ite_eq_right_iff]
      constructor
      · exact fun other => ⟨fun same => (nomatch other same.symm), inductionHypothesis.mp split⟩
      · exact fun absent same => absurd same.symm absent.1

/-- A text is split at a character behind which there is no other one like it. -/
theorem splitLast?_append_cons {mark : Char} (before : Text) {after : Text}
    (absent : mark ∉ after) : splitLast? mark (before ++ mark :: after) = some (before, after) := by
  induction before with
  | nil =>
    rw [List.nil_append, splitLast?, splitLast?_eq_none_iff.mpr absent]
    exact if_pos rfl
  | cons head before inductionHypothesis =>
    rw [List.cons_append, splitLast?, inductionHypothesis]

theorem eq_of_splitLast? {mark : Char} {text before after : Text}
    (split : splitLast? mark text = some (before, after)) : text = before ++ mark :: after := by
  induction text generalizing before with
  | nil => cases split
  | cons head tail inductionHypothesis =>
    rw [splitLast?] at split
    split at split
    · rename_i inner
      cases split
      rw [inductionHypothesis inner, List.cons_append]
    · split at split
      · rename_i same
        cases split
        rw [same, List.nil_append]
      · cases split

end Text

namespace Pattern

/-! ### Bodies and flags -/

/-- A body between slashes, with flags behind the second. -/
def slashed (body flags : Text) : Text :=
  '/' :: (body ++ '/' :: flags)

/-- Flags are ASCII letters. -/
def AreFlags (flags : Text) : Prop :=
  ∀ flag ∈ flags, flag.isAlpha = true

/-- The flags that change what is matched, in their order. -/
def kept (flags : Text) : Text :=
  flags.filter fun flag => flag ∈ ['i', 'm', 's']

/-- The source that a body with flags is compiled from. -/
def flaggedSource (body flags : Text) : Text :=
  if kept flags = [] then body else '(' :: '?' :: (kept flags ++ ')' :: body)

theorem matchingFlags_eq_kept (flags : Text) : matchingFlags flags = kept flags :=
  List.filter_congr fun flag _ => by
    simp only [List.mem_cons, List.not_mem_nil, or_false, Bool.decide_or, Bool.or_assoc]
    rfl

theorem splitLiteral_slashed (body : Text) {flags : Text} (areFlags : AreFlags flags) :
    splitLiteral (slashed body flags) = (body, flags) := by
  have noSlash : '/' ∉ flags := fun member => absurd (areFlags _ member) (by decide)
  simp only [splitLiteral, slashed, Text.splitLast?_append_cons body noSlash]
  exact if_pos (List.all_eq_true.mpr areFlags)

/-- What is not between slashes is all body. -/
theorem splitLiteral_of_not_slashed {source : Text}
    (whole : ∀ body flags, AreFlags flags → source ≠ slashed body flags) :
    splitLiteral source = (source, []) := by
  unfold splitLiteral
  split
  · rename_i rest
    split
    · rename_i body flags split
      refine if_neg fun letters => whole body flags (List.all_eq_true.mp letters) ?_
      rw [slashed, Text.eq_of_splitLast? split]
    · rfl
  · rfl

/-! ### Delimiters of a body, expression of a source -/

/-- The pattern of a source, with the delimiters read off a body. -/
def ofSourceAndBody (source body : Text) : Except PatternError Pattern :=
  match Regex.compile source with
  | .ok regex => withDerived regex body
  | .error cause => .error (.malformed cause)

theorem parse_eq {source body flags : Text} (split : splitLiteral source = (body, flags)) :
    parse source = ofSourceAndBody (flaggedSource body flags) body := by
  have same : (if (matchingFlags flags).isEmpty then body
      else ['(', '?'] ++ matchingFlags flags ++ ')' :: body) = flaggedSource body flags := by
    rw [matchingFlags_eq_kept, flaggedSource]
    simp only [List.isEmpty_iff, List.cons_append, List.nil_append]
  rw [parse, split]
  dsimp only
  rw [same]
  rfl

theorem parse_slashed (body : Text) {flags : Text} (areFlags : AreFlags flags) :
    parse (slashed body flags) = ofSourceAndBody (flaggedSource body flags) body :=
  parse_eq (splitLiteral_slashed body areFlags)

/-- Without slashes around it, a source is read like any expression. -/
theorem parse_of_not_slashed {source : Text}
    (whole : ∀ body flags, AreFlags flags → source ≠ slashed body flags) :
    parse source = ofSource source :=
  parse_eq (splitLiteral_of_not_slashed whole)

section

variable {source body : Text}

theorem ofSourceAndBody_malformed {cause : Regex.SyntaxError} :
    ofSourceAndBody source body = .error (.malformed cause) ↔
      Regex.compile source = .error cause := by
  rw [ofSourceAndBody]
  cases Regex.compile source with
  | error other => simp only [Except.error.injEq, PatternError.malformed.injEq]
  | ok regex =>
    dsimp only
    rw [withDerived]
    split <;> simp only [reduceCtorEq, Except.error.injEq]

theorem ofSourceAndBody_noGroup {named : Text} :
    ofSourceAndBody source body = .error (.noGroup named) ↔
      named = source ∧ ∃ regex, Regex.compile source = .ok regex ∧ regex.lastGroup = 0 := by
  rw [ofSourceAndBody]
  cases compiled : Regex.compile source with
  | error cause => simp only [reduceCtorEq, Except.error.injEq, false_and, exists_false, and_false]
  | ok regex =>
    have same := (Regex.readPieces_of_compile compiled).1
    simp only [withDerived, Except.ok.injEq, exists_eq_left']
    split
    · rename_i groupless
      rw [Except.error.injEq, PatternError.noGroup.injEq, same, and_iff_left groupless]
      exact eq_comm
    · rename_i grouped
      simp only [reduceCtorEq, grouped, and_false]

theorem ofSourceAndBody_ok {pattern : Pattern} :
    ofSourceAndBody source body = .ok pattern ↔
      Regex.compile source = .ok pattern.regex ∧ pattern.regex.lastGroup ≠ 0 ∧
        Delimiters.derive body = (pattern.opening, pattern.closing) := by
  rw [ofSourceAndBody]
  cases Regex.compile source with
  | error cause => simp only [reduceCtorEq, false_and]
  | ok regex =>
    simp only [withDerived, Except.ok.injEq]
    split
    · rename_i groupless
      refine ⟨(fun made => nomatch made), ?_⟩
      rintro ⟨rfl, grouped, _⟩
      exact absurd groupless grouped
    · rename_i grouped
      rw [Except.ok.injEq]
      constructor
      · rintro rfl
        exact ⟨rfl, grouped, rfl⟩
      · rintro ⟨rfl, _, delimiters⟩
        rw [delimiters]

theorem ofSourceAndBody_filled {pattern : Pattern}
    (made : ofSourceAndBody source body = .ok pattern) :
    pattern.opening ≠ [] ∧ pattern.closing ≠ [] := by
  have filled := derive_ne_nil body
  rwa [(ofSourceAndBody_ok.mp made).2.2] at filled

end

/-! ### Sources between slashes and others -/

/-- A source between slashes with ASCII letters behind them is compiled from its body, with those
of the letters `i`, `m` and `s` before it that are among its flags. It is malformed exactly if that
is no expression, lacks a group exactly if that is an expression without groups, and has a pattern
otherwise, whose delimiters are the ones that are read off the body: the ones of the body alone, if
the body alone has a pattern. The other flags have no effect. Every source of another form is read
as a whole, and the delimiters of a pattern are never empty. -/
theorem parse_between_slashes :
    (∀ body flags, AreFlags flags →
      (∀ cause, parse (slashed body flags) = .error (.malformed cause) ↔
        Regex.compile (flaggedSource body flags) = .error cause) ∧
      (∀ source, parse (slashed body flags) = .error (.noGroup source) ↔
        source = flaggedSource body flags ∧
          ∃ regex, Regex.compile (flaggedSource body flags) = .ok regex ∧ regex.lastGroup = 0) ∧
      (∀ pattern, parse (slashed body flags) = .ok pattern ↔
        Regex.compile (flaggedSource body flags) = .ok pattern.regex ∧
          pattern.regex.lastGroup ≠ 0 ∧
          Delimiters.derive body = (pattern.opening, pattern.closing)) ∧
      (∀ pattern plain, parse (slashed body flags) = .ok pattern → ofSource body = .ok plain →
        pattern.opening = plain.opening ∧ pattern.closing = plain.closing) ∧
      ∀ others, AreFlags others → kept others = kept flags →
        parse (slashed body others) = parse (slashed body flags)) ∧
    (∀ source, (∀ body flags, AreFlags flags → source ≠ slashed body flags) →
      parse source = ofSource source) ∧
    ∀ source pattern, parse source = .ok pattern → pattern.opening ≠ [] ∧ pattern.closing ≠ [] := by
  refine ⟨fun body flags areFlags => ?_, fun source => parse_of_not_slashed,
    fun source pattern made => ?_⟩
  · rw [parse_slashed body areFlags]
    refine ⟨fun cause => ofSourceAndBody_malformed, fun source => ofSourceAndBody_noGroup,
      fun pattern => ofSourceAndBody_ok, fun pattern plain made madePlain => ?_,
      fun others areOthers same => ?_⟩
    · have madePlain : ofSourceAndBody body body = .ok plain := madePlain
      have delimiters := (ofSourceAndBody_ok.mp made).2.2
      rw [(ofSourceAndBody_ok.mp madePlain).2.2] at delimiters
      exact ⟨(Prod.ext_iff.mp delimiters).1.symm, (Prod.ext_iff.mp delimiters).2.symm⟩
    · rw [parse_slashed body areOthers, flaggedSource, flaggedSource, same]
  · rw [parse_eq rfl] at made
    exact ofSourceAndBody_filled made

/-- A body with slashes of its own, and flags of which one has no effect. -/
theorem parse_between_slashes_flagged :
    AreFlags "gis".toList ∧
      ∃ pattern, parse (slashed "</([a-z]+)/>".toList "gis".toList) = .ok pattern ∧
        pattern.opening = "</".toList ∧ pattern.closing = "/>".toList ∧
        pattern.regex.source = "(?is)</([a-z]+)/>".toList := by
  have areFlags : AreFlags "gis".toList := List.all_eq_true.mp (by decide +kernel)
  have source : flaggedSource "</([a-z]+)/>".toList "gis".toList =
      "(?is)</([a-z]+)/>".toList := by decide +kernel
  have derived : Delimiters.derive "</([a-z]+)/>".toList = ("</".toList, "/>".toList) := by
    decide +kernel
  obtain ⟨pattern, made, _⟩ : ∃ pattern,
      parse (slashed "</([a-z]+)/>".toList "gis".toList) = .ok pattern ∧ True := by decide +kernel
  obtain ⟨compiled, _, delimiters⟩ :=
    ((parse_between_slashes.1 _ _ areFlags).2.2.1 pattern).mp made
  rw [derived] at delimiters
  rw [source] at compiled
  exact ⟨areFlags, pattern, made, (Prod.ext_iff.mp delimiters).1.symm,
    (Prod.ext_iff.mp delimiters).2.symm, (Regex.readPieces_of_compile compiled).1⟩

end Pattern

end Stencil
