/-
This file proves that escaped text is inert: a template string in which every opening delimiter is
escaped holds no placeholder, and all that compiling does to it is to take the escapes away.

Marking is one scan, and where it takes a character or a marked delimiter, the text behind is again
one in which every opening delimiter is escaped: an escape that began before would have its first
character inside an escaped delimiter. So no opening delimiter is left at any position of the marked
text, the search cuts it nowhere, and the first pass is the last one. Unmarking then gives the text
without the escapes, since a mark becomes the delimiter behind the escape.
-/

import Mathlib.Data.List.Infix
import Stencil.Proofs.CutPieces
import Stencil.Proofs.DirectScan
import Stencil.Proofs.Escapes
import Stencil.Proofs.PassCap

namespace Stencil

namespace Escaping

open Text

/-! ### Text without its escapes -/

/-- Whether the text starts with an escape that stands directly before a delimiter. -/
def escapesDelimiter (pattern : Pattern) (escape text : Text) : Bool :=
  (escape ++ pattern.opening).isPrefixOf text || (escape ++ pattern.closing).isPrefixOf text

/-- The text without each escape that stands directly before a delimiter; the first `skip`
characters belong to such an escape. -/
def unescapeFrom (pattern : Pattern) (escape : Text) : (skip : Nat) → Text → Text
  | _, [] => []
  | skip + 1, _ :: tail => unescapeFrom pattern escape skip tail
  | 0, head :: tail =>
    if escapesDelimiter pattern escape (head :: tail) then
      unescapeFrom pattern escape (escape.length - 1) tail
    else
      head :: unescapeFrom pattern escape 0 tail

/-- The text with every escape taken away that stands directly before a delimiter. -/
def unescape (pattern : Pattern) (escape text : Text) : Text :=
  unescapeFrom pattern escape 0 text

theorem unescapeFrom_skip (pattern : Pattern) (escape : Text) (skip : Nat) (text : Text) :
    unescapeFrom pattern escape skip text = unescape pattern escape (text.drop skip) := by
  induction text generalizing skip with
  | nil =>
    cases skip with
    | zero => rfl
    | succ skip => rfl
  | cons head tail inductionHypothesis =>
    cases skip with
    | zero => rfl
    | succ skip => exact inductionHypothesis skip

section

variable {pattern : Pattern} {first : Char} {others : Text}

theorem eq_append_of_isPrefixOf {delimiter : Text} {head : Char} {tail : Text}
    (stands : (first :: others ++ delimiter).isPrefixOf (head :: tail) = true) :
    head :: tail = first :: others ++ delimiter ++
      tail.drop ((first :: others ++ delimiter).length - 1) :=
  (List.prefix_iff_eq_append.mp (List.isPrefixOf_iff_prefix.mp stands)).symm

theorem unescape_of_not_escapes {escape : Text} {head : Char} {tail : Text}
    (not : ¬ escapesDelimiter pattern escape (head :: tail) = true) :
    unescape pattern escape (head :: tail) = head :: unescape pattern escape tail := by
  rw [unescape, unescapeFrom, if_neg not]
  rfl

/-- An escape directly before a delimiter is taken away. -/
theorem unescape_of_escapes {rest : Text}
    (escapes : escapesDelimiter pattern (first :: others) ((first :: others) ++ rest) = true) :
    unescape pattern (first :: others) ((first :: others) ++ rest) =
      unescape pattern (first :: others) rest := by
  rw [List.cons_append] at escapes
  rw [List.cons_append, unescape, unescapeFrom, if_pos escapes, unescapeFrom_skip,
    List.length_cons, Nat.add_sub_cancel, List.drop_left]

/-- An escape stands only where its first character does. -/
theorem not_escapesDelimiter_of_ne {head : Char} (different : first ≠ head) (tail : Text) :
    ¬ escapesDelimiter pattern (first :: others) (head :: tail) = true := by
  rw [escapesDelimiter, Bool.or_eq_true]
  exact not_or.mpr ⟨not_prefix_of_ne different _, not_prefix_of_ne different _⟩

/-- A stretch without the escape's first character stays. -/
theorem unescape_append {stretch : Text} (absent : first ∉ stretch) (rest : Text) :
    unescape pattern (first :: others) (stretch ++ rest) =
      stretch ++ unescape pattern (first :: others) rest := by
  induction stretch with
  | nil => rfl
  | cons head stretch inductionHypothesis =>
    rw [List.mem_cons, not_or] at absent
    rw [List.cons_append, unescape_of_not_escapes (not_escapesDelimiter_of_ne absent.1 _),
      inductionHypothesis absent.2, List.cons_append]

/-- An escaped delimiter becomes the delimiter. -/
theorem unescape_of_prefix {delimiter : Text} {head : Char} {tail : Text}
    (absent : first ∉ delimiter)
    (escapes : escapesDelimiter pattern (first :: others) (head :: tail) = true)
    (stands : (first :: others ++ delimiter).isPrefixOf (head :: tail) = true) :
    unescape pattern (first :: others) (head :: tail) =
      delimiter ++ unescape pattern (first :: others)
        (tail.drop ((first :: others ++ delimiter).length - 1)) := by
  have same := eq_append_of_isPrefixOf stands
  rw [same, List.append_assoc] at escapes
  rw [same, List.append_assoc, unescape_of_escapes escapes, unescape_append absent]

/-- What unmarking makes of a marked text is the text without its escapes. -/
theorem flatMap_markFrom (notInOpening : first ∉ pattern.opening)
    (notInClosing : first ∉ pattern.closing) (skip : Nat) {text : Text} (unmarked : Unmarked text) :
    (markFrom (first :: others ++ pattern.opening) (first :: others ++ pattern.closing) skip
        text).flatMap (unmarkCharacter pattern) =
      unescape pattern (first :: others) (text.drop skip) := by
  induction text generalizing skip with
  | nil =>
    rw [List.drop_nil]
    cases skip with
    | zero => rfl
    | succ skip => rfl
  | cons head tail inductionHypothesis =>
    have tailUnmarked : Unmarked tail := unmarked.part fun _ => List.mem_cons_of_mem head
    cases skip with
    | succ skip => exact inductionHypothesis skip tailUnmarked
    | zero =>
      have headUnmarked : Unmarked [head] := unmarked.part fun _ member =>
        List.mem_singleton.mp member ▸ List.mem_cons_self
      rw [List.drop_zero, markFrom]
      by_cases opened : (first :: others ++ pattern.opening).isPrefixOf (head :: tail) = true
      · have escapes : escapesDelimiter pattern (first :: others) (head :: tail) = true := by
          rw [escapesDelimiter, opened, Bool.true_or]
        rw [if_pos opened, List.flatMap_cons, inductionHypothesis _ tailUnmarked,
          unescape_of_prefix notInOpening escapes opened]
        rfl
      · rw [if_neg opened]
        by_cases closed : (first :: others ++ pattern.closing).isPrefixOf (head :: tail) = true
        · have escapes : escapesDelimiter pattern (first :: others) (head :: tail) = true := by
            rw [escapesDelimiter, closed, Bool.or_true]
          rw [if_pos closed, List.flatMap_cons, inductionHypothesis _ tailUnmarked,
            unescape_of_prefix notInClosing escapes closed]
          rfl
        · have not : ¬ escapesDelimiter pattern (first :: others) (head :: tail) = true := by
            rw [escapesDelimiter, Bool.or_eq_true]
            exact not_or.mpr ⟨opened, closed⟩
          have kept : unmarkCharacter pattern head = [head] :=
            (List.flatMap_singleton _ _).symm.trans (flatMap_unmarkCharacter pattern headUnmarked)
          rw [if_neg closed, List.flatMap_cons, inductionHypothesis _ tailUnmarked, kept,
            unescape_of_not_escapes not]
          rfl

end

/-- Marking and unmarking takes away the escapes that stand directly before a delimiter, and changes
nothing else. -/
theorem unmark_mark {pattern : Pattern} {escape text : Text} (tellable : Tellable pattern escape)
    (unmarked : Unmarked text) :
    unmark pattern (mark pattern escape text) = unescape pattern escape text := by
  rw [mark_eq_markFrom tellable, unmark_eq_flatMap tellable.openingUnmarked]
  obtain ⟨first, others, rfl, _, notInOpening, notInClosing⟩ := tellable.alone
  exact flatMap_markFrom notInOpening notInClosing 0 unmarked

/-! ### Texts in which every opening delimiter is escaped -/

/-- The escape stands directly before each opening delimiter of the text. -/
def OpeningsEscaped (pattern : Pattern) (escape text : Text) : Prop :=
  ∀ before after, text = before ++ (pattern.opening ++ after) → escape <:+ before

theorem openingsEscaped_iff {pattern : Pattern} {escape text : Text} :
    OpeningsEscaped pattern escape text ↔
      ∀ before ∈ text.inits, before ++ pattern.opening <+: text → escape <:+ before := by
  constructor
  · rintro escaped before _ ⟨after, same⟩
    exact escaped before after (by rw [← same, List.append_assoc])
  · rintro escaped before after rfl
    refine escaped before ((List.mem_inits _ _).mpr (List.prefix_append _ _)) ?_
    rw [← List.append_assoc]
    exact List.prefix_append _ _

instance (pattern : Pattern) (escape text : Text) :
    Decidable (OpeningsEscaped pattern escape text) :=
  decidable_of_iff' _ openingsEscaped_iff

/-- What stands before a stretch without marks in a marked text stands there in the text. -/
theorem prefix_of_prefix_markFrom {opened closed stretch : Text} (unmarked : Unmarked stretch)
    {text : Text} (stands : stretch <+: markFrom opened closed 0 text) : stretch <+: text := by
  induction stretch generalizing text with
  | nil => exact List.nil_prefix
  | cons head stretch inductionHypothesis =>
    have notOpeningMark : head ≠ openingMark := by
      rintro rfl
      exact unmarked.1 List.mem_cons_self
    have notClosingMark : head ≠ closingMark := by
      rintro rfl
      exact unmarked.2 List.mem_cons_self
    cases text with
    | nil => exact stands
    | cons next text =>
      rw [markFrom] at stands
      split at stands
      · exact absurd (List.cons_prefix_cons.mp stands).1 notOpeningMark
      · split at stands
        · exact absurd (List.cons_prefix_cons.mp stands).1 notClosingMark
        · obtain ⟨same, later⟩ := List.cons_prefix_cons.mp stands
          refine List.cons_prefix_cons.mpr ⟨same, inductionHypothesis ?_ later⟩
          exact unmarked.part fun _ => List.mem_cons_of_mem head

section

variable {pattern : Pattern} {first : Char} {others : Text}

/-- An escape that ends behind a stretch without its first character has begun behind it. -/
theorem suffix_of_suffix_append {stretch before : Text} (absent : first ∉ stretch)
    (stands : first :: others <:+ stretch ++ before) : first :: others <:+ before := by
  induction stretch with
  | nil => exact stands
  | cons head stretch inductionHypothesis =>
    rw [List.mem_cons, not_or] at absent
    rw [List.cons_append, List.suffix_cons_iff] at stands
    rcases stands with same | later
    · exact absurd (List.cons.inj same).1 absent.1
    · exact inductionHypothesis absent.2 later

theorem OpeningsEscaped.behind_delimiter {delimiter rest : Text} (alone : first ∉ others)
    (absent : first ∉ delimiter) (some : delimiter ≠ [])
    (escaped : OpeningsEscaped pattern (first :: others) (first :: others ++ delimiter ++ rest)) :
    OpeningsEscaped pattern (first :: others) rest := by
  rintro before after rfl
  have stands := escaped (first :: others ++ delimiter ++ before) after
    (List.append_assoc _ _ _).symm
  rw [List.append_assoc, List.cons_append, List.suffix_cons_iff] at stands
  rcases stands with same | later
  · have length := congrArg List.length (List.cons.inj same).2
    have positive := List.length_pos_iff.mpr some
    simp only [List.length_append] at length
    omega
  · rw [← List.append_assoc] at later
    refine suffix_of_suffix_append ?_ later
    rw [List.mem_append, not_or]
    exact ⟨alone, absent⟩

theorem OpeningsEscaped.tail {escape : Text} {head : Char} {tail : Text}
    (escaped : OpeningsEscaped pattern escape (head :: tail))
    (notOpened : ¬ (escape ++ pattern.opening).isPrefixOf (head :: tail) = true) :
    OpeningsEscaped pattern escape tail := by
  rintro before after rfl
  rcases List.suffix_cons_iff.mp (escaped (head :: before) after rfl) with same | later
  · refine absurd (List.isPrefixOf_iff_prefix.mpr ?_) notOpened
    rw [same, List.cons_append, ← List.append_assoc]
    exact List.prefix_append (head :: (before ++ pattern.opening)) after
  · exact later

/-- Where every opening delimiter is escaped, none is left by marking. -/
theorem not_infix_markFrom (alone : first ∉ others) (notInOpening : first ∉ pattern.opening)
    (notInClosing : first ∉ pattern.closing) (openingSome : pattern.opening ≠ [])
    (closingSome : pattern.closing ≠ []) (openingUnmarked : Unmarked pattern.opening) (skip : Nat)
    {text : Text} (escaped : OpeningsEscaped pattern (first :: others) (text.drop skip)) :
    ¬ pattern.opening <:+: markFrom (first :: others ++ pattern.opening)
      (first :: others ++ pattern.closing) skip text := by
  induction text generalizing skip with
  | nil =>
    intro stands
    cases skip with
    | zero => exact openingSome (List.infix_nil.mp stands)
    | succ skip => exact openingSome (List.infix_nil.mp stands)
  | cons head tail inductionHypothesis =>
    cases skip with
    | succ skip => exact inductionHypothesis skip escaped
    | zero =>
      -- an opening delimiter at the very start has no room for the escape before it
      have notHere : ¬ pattern.opening <+: markFrom (first :: others ++ pattern.opening)
          (first :: others ++ pattern.closing) 0 (head :: tail) := by
        intro stands
        obtain ⟨after, same⟩ := prefix_of_prefix_markFrom openingUnmarked stands
        exact List.cons_ne_nil _ _ (List.suffix_nil.mp (escaped [] after same.symm))
      intro stands
      rw [markFrom] at stands notHere
      rw [List.drop_zero] at escaped
      by_cases opened : (first :: others ++ pattern.opening).isPrefixOf (head :: tail) = true
      · rw [if_pos opened] at stands notHere
        rw [eq_append_of_isPrefixOf opened] at escaped
        exact inductionHypothesis _ (escaped.behind_delimiter alone notInOpening openingSome)
          ((List.infix_cons_iff.mp stands).resolve_left notHere)
      · rw [if_neg opened] at stands notHere
        by_cases closed : (first :: others ++ pattern.closing).isPrefixOf (head :: tail) = true
        · rw [if_pos closed] at stands notHere
          rw [eq_append_of_isPrefixOf closed] at escaped
          exact inductionHypothesis _ (escaped.behind_delimiter alone notInClosing closingSome)
            ((List.infix_cons_iff.mp stands).resolve_left notHere)
        · rw [if_neg closed] at stands notHere
          exact inductionHypothesis 0 (escaped.tail opened)
            ((List.infix_cons_iff.mp stands).resolve_left notHere)

end

end Escaping

namespace Template

open Substitution

/-! ### Compiling escaped text -/

section

variable {settings : Settings} {bindings : Json} {text : Text}

/-- What the one pass over a text without placeholders writes into the journal, or the cap if not
even that pass is allowed. -/
def onlyEntry (settings : Settings) : Entry :=
  if settings.maxPasses = 0 then .stoppedAtCap 0 else .passComplete 1 false

/-- A text in which the expression finds nothing is left as it is. -/
theorem run_substitute_of_nil (none : (settings.pattern.regex.cut text).pieces = [])
    (journal : Journal) :
    run (substitute settings bindings text) journal =
      (.ok text, journal ++ [onlyEntry settings]) := by
  have uncut : (settings.pattern.regex.cut text).tail = text := by
    have written := settings.pattern.regex.cut_written text
    rw [Regex.Pieces.written, none] at written
    exact written
  rw [substitute, onlyEntry]
  cases cap : settings.maxPasses with
  | zero =>
    rw [passes, run_note_bind, run_pure, cap]
    rfl
  | succ remaining =>
    rw [run_passes_of_nil none, uncut]
    rfl

/-- A text without an opening delimiter is left as it is. -/
theorem run_substitute_of_absent (delimited : settings.pattern.IsDelimited)
    (absent : ¬ settings.pattern.opening <:+: text) (journal : Journal) :
    run (substitute settings bindings text) journal =
      (.ok text, journal ++ [onlyEntry settings]) :=
  run_substitute_of_nil
    (congrArg Regex.Pieces.pieces (Pattern.cut_of_absent delimited absent)) journal

/-- Where every opening delimiter is escaped, compiling a string only takes the escapes away that
stand directly before a delimiter, and then finishes with the text so made. No path is asked or
searched for and none is reported; so the run does not fail for one either, even if it is strict. -/
theorem escaped_text_inert (settings : Settings) (bindings : Json) (text : Text)
    (journal : Journal) (delimited : settings.pattern.IsDelimited)
    (tellable : Escaping.Tellable settings.pattern settings.escape)
    (unmarked : Escaping.Unmarked text)
    (escaped : Escaping.OpeningsEscaped settings.pattern settings.escape text) :
    run (compile settings bindings (.string text)) journal =
        run (finish settings (Escaping.unescape settings.pattern settings.escape text))
          (journal ++ [onlyEntry settings]) ∧
      (∃ added, (run (compile settings bindings (.string text)) journal).2 = journal ++ added ∧
        ∀ entry ∈ added, pathOf? entry = none) ∧
      ∀ path, (run (compile settings bindings (.string text)) journal).1 ≠
        .error (.missingVariable path) := by
  have absent : ¬ settings.pattern.opening <:+:
      Escaping.mark settings.pattern settings.escape text := by
    rw [Escaping.mark_eq_markFrom tellable]
    obtain ⟨first, others, escape, alone, notInOpening, notInClosing⟩ := tellable.alone
    rw [escape] at escaped ⊢
    exact Escaping.not_infix_markFrom alone notInOpening notInClosing delimited.some.1
      delimited.some.2 tellable.openingUnmarked 0 escaped
  have same : run (compile settings bindings (.string text)) journal =
      run (finish settings (Escaping.unescape settings.pattern settings.escape text))
        (journal ++ [onlyEntry settings]) := by
    rw [compile, compileText_eq,
      run_bind_of_ok _ (run_substitute_of_absent delimited absent journal),
      Escaping.unmark_mark tellable unmarked]
  obtain ⟨added, grown, kinds⟩ := finish_adds settings
    (Escaping.unescape settings.pattern settings.escape text) (journal ++ [onlyEntry settings])
  refine ⟨same, ⟨onlyEntry settings :: added, ?_, ?_⟩, ?_⟩
  · rw [same, grown, List.append_assoc, List.singleton_append]
  · intro entry member
    rcases List.mem_cons.mp member with rfl | later
    · rw [onlyEntry]
      split
      · rfl
      · rfl
    · exact pathOf?_of_isFinish (kinds entry later)
  · intro path fails
    rw [same] at fails
    obtain ⟨message, other⟩ := finish_error settings (Prod.ext fails rfl)
    cases other

/-- A pattern whose closing delimiter starts with the opening one. -/
def nestedPattern : Pattern :=
  ⟨['<'], ['<', '>'], Pattern.sourceOf ['<'] ['<', '>'],
    Regex.Program.ofExpr (Pattern.placeholderExpr ['<'] ['<', '>']),
    (Pattern.placeholderExpr ['<'] ['<', '>']).lastGroup⟩

/-- Strict settings with a resolver that fails whenever it is asked. -/
def refusingSettings : Settings :=
  { strict := true, pattern := nestedPattern, escape := ['#', '!'],
    resolver := some ⟨fun _ path => .error path⟩ }

/-- The last `#!` stands before no delimiter and stays. -/
theorem escaped_text_inert_nested :
    run (compile refusingSettings .null (.string "a #!<b#!<> #!".toList)) [] =
        run (finish refusingSettings "a <b<> #!".toList) [.passComplete 1 false] ∧
      ∀ path, (run (compile refusingSettings .null (.string "a #!<b#!<> #!".toList)) []).1 ≠
        .error (.missingVariable path) := by
  have tellable : Escaping.Tellable refusingSettings.pattern refusingSettings.escape :=
    ⟨⟨'#', ['!'], by decide, by decide, by decide, by decide⟩, by decide, by decide, by decide⟩
  have inert := escaped_text_inert refusingSettings .null "a #!<b#!<> #!".toList []
    (Pattern.ofDelimiters_eq (by decide) (by decide)) tellable (by decide) (by decide)
  have unescaped : Escaping.unescape refusingSettings.pattern refusingSettings.escape
      "a #!<b#!<> #!".toList = "a <b<> #!".toList := by decide
  rw [unescaped] at inert
  exact ⟨inert.1, inert.2.2⟩

end

end Template

end Stencil
