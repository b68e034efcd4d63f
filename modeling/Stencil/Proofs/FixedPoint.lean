/-
This file proves what is left when the loop over passes stops before the cap although its last pass
has brought in text: the opening delimiter is not, for nothing else ends the loop there. Whether
the expression of the pattern finds something all the same is a question about the pattern and not
about the loop. It does not if the pattern begins with its opening delimiter as it is written, and
then the text is a fixed point. Other patterns match text without the delimiter, and with them the
loop stops short of one.
-/

import Stencil.Proofs.DerivedOpening
import Stencil.Proofs.Expansion

namespace Stencil

namespace Template

open Substitution

section

variable {settings : Settings} {bindings : Json}

/-- If the last thing that the passes report is a pass that brought in text, no opening delimiter is
left. -/
theorem absent_of_passes {remaining pass number : Nat} {text final : Text}
    {journal earlier : Journal}
    (stopped : run (passes settings bindings remaining pass text) journal =
      (.ok final, earlier ++ [.passComplete number true])) :
    ¬ Text.includes settings.pattern.opening final = true := by
  induction remaining generalizing pass text journal with
  | zero =>
    cases (List.append_inj' (congrArg Prod.snd stopped) rfl).2
  | succ remaining inductionHypothesis =>
    rcases run_ends (onePass settings bindings pass text) journal with
      ⟨⟨next, changed⟩, reached, ended⟩ | ⟨failure, reached, ended⟩
    · by_cases again : (changed && Text.includes settings.pattern.opening next) = true
      · rw [run_passes_of_again ended again] at stopped
        exact inductionHypothesis stopped
      · rw [run_passes_of_stop ended again] at stopped
        obtain ⟨sameText, grown⟩ := Prod.ext_iff.mp stopped
        cases sameText
        cases (List.append_inj' grown rfl).2
        exact again
    · rw [run_passes_of_error ended] at stopped
      cases stopped

/-- When the loop stops after a pass that has brought in text, and not at the cap, the text holds no
opening delimiter. If the pattern begins with its opening delimiter as it is written, its expression
finds nothing in the text: all placeholders that values brought in have been expanded. -/
theorem stops_without_opening (settings : Settings) (bindings : Json) {text final : Text}
    {journal earlier : Journal} {number : Nat}
    (stopped : run (substitute settings bindings text) journal =
      (.ok final, earlier ++ [.passComplete number true])) :
    ¬ settings.pattern.opening <:+: final ∧
      (settings.pattern.BeginsFixed → (settings.pattern.regex.cut final).pieces = []) := by
  have absent : ¬ settings.pattern.opening <:+: final := by
    rintro ⟨front, back, rfl⟩
    rw [List.append_assoc] at stopped
    exact absent_of_passes stopped (includes_append _ front back)
  refine ⟨absent, fun begins => ?_⟩
  by_contra found
  exact absent (begins.infix_of_cut found)

/-- Variables one of which may hold a placeholder of the other one. -/
def relayingVariables (value : Text) : Json :=
  .object [(['a'], .string value), (['b'], .string ['x'])]

/-- An expression with blanks around the path; case is folded, but its delimiter has none. -/
def tolerantSource : Text :=
  "/\\\x7b\\\x7b\\s*([\\w.]+)\\s*\\\x7d\\\x7d/gi".toList

/-- The placeholder that the first pass brings in is expanded by the second, although it is written
with blanks. -/
theorem stops_without_opening_tolerant :
    ∃ pattern, Pattern.parse tolerantSource = .ok pattern ∧ pattern.BeginsFixed ∧
      run (substitute { pattern } (relayingVariables "{{ b }}".toList) "{{a}}".toList) [] =
        (.ok ['x'], [.searched ['a'], .passComplete 1 true, .searched ['b'],
          .passComplete 2 true]) ∧
      (pattern.regex.cut ['x']).pieces = [] := by
  obtain ⟨pattern, made, opens, opening, stopped⟩ :
      ∃ pattern, Pattern.parse tolerantSource = .ok pattern ∧
        pattern.OpensAsWritten (Pattern.splitLiteral tolerantSource).1 ∧
        pattern.opening = defaultOpening ∧
        run (substitute { pattern } (relayingVariables "{{ b }}".toList) "{{a}}".toList) [] =
          (.ok ['x'], [.searched ['a'], .passComplete 1 true, .searched ['b']] ++
            [.passComplete 2 true]) :=
    by decide +kernel
  have caseless : ∀ character ∈ defaultOpening, Unicode.Folding.IsCaseless character :=
    fun character member => Unicode.Folding.isCaseless_of_standsAlone
      (List.all_eq_true.mp (by decide +kernel : defaultOpening.all _ = true) character member)
  have begins := Pattern.BeginsFixed.parsed made (fun _ => opening ▸ caseless) opens
  exact ⟨pattern, made, begins, stopped, (stops_without_opening { pattern } _ stopped).2 begins⟩

/-- With the pattern of the source the loop stops at the value that is put in the place of the
text's placeholder, long before the cap, although the expression finds a placeholder in the value
and the path there leads to another value. -/
def StopsShort (source text value : String) : Prop :=
  ∃ pattern, Pattern.parse source.toList = .ok pattern ∧
    run (substitute { pattern } (relayingVariables value.toList) text.toList) [] =
      (.ok value.toList, [.searched ['a'], .passComplete 1 true]) ∧
    (pattern.regex.cut value.toList).pieces.map (·.group) = [some ['b']]

instance (source text value : String) : Decidable (StopsShort source text value) :=
  inferInstanceAs (Decidable (∃ _, _ ∧ _))

/-- In turn, the delimiter is the default one because the source gives none, stands in another case,
belongs to one of two alternatives, is the edge of a word, and holds a character once that the
expression repeats. -/
theorem stops_short_of_fixed_point :
    StopsShort "([a-z]+)!" "a!" "b!" ∧ StopsShort "/VAR\\(([a-z]+)\\)/i" "VAR(a)" "var(b)" ∧
      StopsShort "<|%([a-z]+)" "%a" "%b" ∧ StopsShort "\\<([a-z]+)\\>" "a" "b" ∧
      StopsShort "ab+c([a-z])" "abca" "abbcb" := by
  decide +kernel

end

end Template

end Stencil
