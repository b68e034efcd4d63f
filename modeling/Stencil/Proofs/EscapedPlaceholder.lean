/-
This file proves what an escape directly before a placeholder does when the pattern is made of an
expression. An escape stands before a delimiter and takes it out of the text that is searched, and
all the rest of the placeholder stays in. So the placeholder is literal if it starts with the
opening delimiter and the expression finds nothing behind it. For a pattern that begins with its
opening delimiter as it is written this is so as soon as the delimiter does not occur again.

Neither can be left out. An expression may match a delimiter more than once, or one in another case
than that of the escaped text, and then the escape protects less than a placeholder or nothing.
-/

import Stencil.Proofs.DerivedOpening
import Stencil.Proofs.EscapedText

namespace Stencil

namespace Escaping

section

variable {pattern : Pattern}

/-- An escaped opening delimiter is marked, and nothing else behind it. -/
theorem mark_escaped {first : Char} {others rest : Text} (notMark : first ≠ openingMark)
    (absent : first ∉ rest) :
    mark pattern (first :: others) (first :: others ++ (pattern.opening ++ rest)) =
      openingMark :: rest := by
  have absentBehind : first ∉ openingMark :: rest := by
    rw [List.mem_cons, not_or]
    exact ⟨notMark, absent⟩
  have opened : Text.replaceAll (first :: others ++ pattern.opening) [openingMark]
      (first :: others ++ (pattern.opening ++ rest)) = openingMark :: rest := by
    have kept : Text.replaceFrom (first :: (others ++ pattern.opening)) [openingMark] 0
        (rest ++ []) = rest ++ [] := Text.replaceFrom_append absent []
    rw [List.append_nil] at kept
    rw [← List.append_assoc, List.cons_append]
    show Text.replaceFrom _ [openingMark] 0 _ = _
    rw [Text.replaceFrom_needle, kept]
    rfl
  have closed : Text.replaceFrom (first :: (others ++ pattern.closing)) [closingMark] 0
      ((openingMark :: rest) ++ []) = (openingMark :: rest) ++ [] :=
    Text.replaceFrom_append absentBehind []
  rw [List.append_nil] at closed
  rw [mark, opened]
  exact closed

/-- The mark of the opening delimiter becomes the delimiter. -/
theorem unmark_escaped {rest : Text} (unmarked : Unmarked (pattern.opening ++ rest)) :
    unmark pattern (openingMark :: rest) = pattern.opening ++ rest := by
  have opening := unmarked.part fun _ => List.mem_append_left rest
  have behind := unmarked.part fun _ => List.mem_append_right pattern.opening
  rw [unmark_eq_flatMap opening, List.flatMap_cons, flatMap_unmarkCharacter pattern behind]
  rfl

/-- If the opening delimiter does not occur behind its mark, a pattern that begins with it finds
nothing there. -/
theorem pieces_eq_nil_of_absent (begins : pattern.BeginsFixed) {rest : Text}
    (unmarked : openingMark ∉ pattern.opening) (absent : ¬ pattern.opening <:+: rest) :
    (pattern.regex.cut (openingMark :: rest)).pieces = [] := by
  by_contra found
  rcases List.infix_cons_iff.mp (begins.infix_of_cut found) with starts | later
  · cases opening : pattern.opening with
    | nil => exact absent (opening ▸ List.nil_infix)
    | cons head others =>
      rw [opening] at starts unmarked
      exact unmarked ((List.cons_prefix_cons.mp starts).1 ▸ List.mem_cons_self)
  · exact absent later

end

end Escaping

namespace Template

open Substitution

section

variable {settings : Settings} {bindings : Json}

/-- A run that does nothing but finish with a text neither asks nor searches for a path, reports
none, and does not fail for one. -/
theorem no_path_of_finish {part : Run Json} {text : Text} {journal : Journal}
    (same : run part journal = run (finish settings text) (journal ++ [onlyEntry settings])) :
    (∃ added, (run part journal).2 = journal ++ added ∧ ∀ entry ∈ added, pathOf? entry = none) ∧
      ∀ path, (run part journal).1 ≠ .error (.missingVariable path) := by
  obtain ⟨added, grown, kinds⟩ := finish_adds settings text (journal ++ [onlyEntry settings])
  refine ⟨⟨onlyEntry settings :: added, ?_, fun entry member => ?_⟩, fun path fails => ?_⟩
  · rw [same, grown, List.append_assoc, List.singleton_append]
  · rcases List.mem_cons.mp member with rfl | later
    · rw [onlyEntry]
      split
      · rfl
      · rfl
    · exact pathOf?_of_isFinish (kinds entry later)
  · rw [same] at fails
    obtain ⟨message, other⟩ := finish_error settings (Prod.ext fails rfl)
    cases other

/-- An escape before a text that starts with the opening delimiter keeps the text literal, if the
expression finds nothing behind the marked delimiter; so it does for a pattern that begins with the
delimiter as it is written, where the delimiter does not occur a second time. The run finishes with
the text as it is without the escape. No path is asked or searched for and none is reported. -/
theorem escaped_placeholder_literal (settings : Settings) (bindings : Json) (rest : Text)
    (journal : Journal) (escape : settings.escape = Escaping.defaultEscape)
    (noEscape : '\\' ∉ settings.pattern.opening ++ rest)
    (unmarked : Escaping.Unmarked (settings.pattern.opening ++ rest))
    (alone : (settings.pattern.regex.cut (Escaping.openingMark :: rest)).pieces = [] ∨
      settings.pattern.BeginsFixed ∧ ¬ settings.pattern.opening <:+: rest) :
    run (compile settings bindings (.string ('\\' :: (settings.pattern.opening ++ rest))))
          journal =
        run (finish settings (settings.pattern.opening ++ rest))
          (journal ++ [onlyEntry settings]) ∧
      (∃ added, (run (compile settings bindings
          (.string ('\\' :: (settings.pattern.opening ++ rest)))) journal).2 = journal ++ added ∧
        ∀ entry ∈ added, pathOf? entry = none) ∧
      ∀ path, (run (compile settings bindings
          (.string ('\\' :: (settings.pattern.opening ++ rest)))) journal).1 ≠
        .error (.missingVariable path) := by
  have none : (settings.pattern.regex.cut (Escaping.openingMark :: rest)).pieces = [] :=
    alone.elim id fun ⟨begins, absent⟩ => Escaping.pieces_eq_nil_of_absent begins
      (fun member => unmarked.1 (List.mem_append_left rest member)) absent
  have marked : Escaping.mark settings.pattern settings.escape
      ('\\' :: (settings.pattern.opening ++ rest)) = Escaping.openingMark :: rest := by
    rw [escape]
    exact Escaping.mark_escaped (by decide) fun member =>
      noEscape (List.mem_append_right settings.pattern.opening member)
  have same : run (compile settings bindings
        (.string ('\\' :: (settings.pattern.opening ++ rest)))) journal =
      run (finish settings (settings.pattern.opening ++ rest))
        (journal ++ [onlyEntry settings]) := by
    rw [compile, compileText_eq, marked, run_bind_of_ok _ (run_substitute_of_nil none journal),
      Escaping.unmark_escaped unmarked]
  exact ⟨same, no_path_of_finish same⟩

/-- The blanks belong to the placeholder, and the strict run does not miss the variable. -/
theorem escaped_placeholder_literal_blanks :
    ∃ pattern, Pattern.parse "<\\s*([a-z]+)\\s*>".toList = .ok pattern ∧
      run (compile { pattern, strict := true } .null (.string "\\< a >".toList)) [] =
        run (finish { pattern, strict := true } "< a >".toList) [.passComplete 1 false] := by
  obtain ⟨pattern, made, opens, opening⟩ :
      ∃ pattern, Pattern.parse "<\\s*([a-z]+)\\s*>".toList = .ok pattern ∧
        pattern.OpensAsWritten "<\\s*([a-z]+)\\s*>".toList ∧ pattern.opening = ['<'] :=
    by decide +kernel
  have begins := Pattern.BeginsFixed.parsed made (fun folds => absurd folds (by decide)) opens
  have literal := escaped_placeholder_literal { pattern, strict := true } .null " a >".toList [] rfl
  simp only [opening] at literal
  exact ⟨pattern, made, (literal (by decide) (by decide) (Or.inr ⟨begins, by decide⟩)).1⟩

/-- With the pattern of the source, which has an opening delimiter of its own, the expression
matches the whole of the text, and nevertheless the path is searched for when the escaped text is
compiled. -/
def ExpandsEscaped (source text path : String) : Prop :=
  ∃ pattern, Pattern.parse source.toList = .ok pattern ∧
    (Delimiters.beforeGroup false [] (Delimiters.atoms (Pattern.splitLiteral source.toList).1)).map
      Prod.fst = some pattern.opening ∧
    '\\' ∉ text.toList ∧ Escaping.Unmarked text.toList ∧
    (pattern.regex.cut text.toList).pieces.map (·.whole) = [text.toList] ∧
    .searched path.toList ∈ (run (compile { pattern } .null (.string ('\\' :: text.toList))) []).2

instance (source text path : String) : Decidable (ExpandsEscaped source text path) :=
  inferInstanceAs (Decidable (∃ _, _ ∧ _))

/-- In turn, the text holds the delimiter twice, as the expression allows and as its group allows;
it starts with the delimiter in another case, or with what the expression takes for the edge of a
word; and behind the delimiter stands one in another case, another alternative, or one with a
character repeated. -/
theorem escaped_placeholder_expanded :
    ExpandsEscaped "%+([a-z]+)%+" "%%a%" "a" ∧ ExpandsEscaped "<(.+)>" "<a<b>" "b" ∧
      ExpandsEscaped "/VAR\\(([a-z]+)\\)/i" "var(a)" "a" ∧ ExpandsEscaped "\\<x([a-z]+)" "xa" "a" ∧
      ExpandsEscaped "/v([a-z]+)/i" "vaVb" "b" ∧ ExpandsEscaped "<(.+)|%(?:a)" "<%a" "" ∧
      ExpandsEscaped "ab+c(.+)" "abcabbca" "a" := by
  decide +kernel

end

end Template

end Stencil
