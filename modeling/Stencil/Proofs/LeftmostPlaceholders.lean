/-
This file states what the pattern of two delimiters matches without a word about expressions. From
where it stands, the scan looks for the first position at which a placeholder starts, takes the
placeholder as a whole, and goes on behind it. A text is cut in this way into exactly one list of
pieces, and it is the one that the search for the pattern's expression cuts it into.

Whether a placeholder starts at a position is decided there and then: the opening delimiter, the
longest run of characters that occur in neither delimiter, at least one of them, and the closing
delimiter. That the search never has to give characters of the run back is proved with the tokens of
the direct scan; here the tokens are gathered into pieces, and the positions counted.
-/

import Stencil.Proofs.DirectScan

namespace Stencil.Pattern

open Regex

/-- What a text is cut into by looking for placeholders from the left. Where none starts at any
position, the whole text is the tail. Otherwise the first position at which one starts counts: what
stands before it is skipped, its path is the group, and the pieces behind it are those of the text
that is left. -/
inductive ScansInto (opening closing : Text) : Text → Pieces → Prop
  | ends {text : Text}
      (nowhere : ∀ start, placeholderAt? opening closing (text.drop start) = none) :
      ScansInto opening closing text ⟨[], text⟩
  | goesOn {text path : Text} {start : Nat} {later : Pieces}
      (earlier : ∀ before < start, placeholderAt? opening closing (text.drop before) = none)
      (here : placeholderAt? opening closing (text.drop start) = some path)
      (behind : ScansInto opening closing
        (text.drop (start + (opening ++ (path ++ closing)).length)) later) :
      ScansInto opening closing text
        ⟨⟨text.take start, opening ++ (path ++ closing), some path⟩ :: later.pieces, later.tail⟩

namespace ScansInto

variable {opening closing : Text}

/-- No text is cut in two ways. -/
theorem unique {text : Text} {first second : Pieces}
    (scanned : ScansInto opening closing text first)
    (scannedToo : ScansInto opening closing text second) : first = second := by
  induction scanned generalizing second with
  | ends nowhere =>
    cases scannedToo with
    | ends => rfl
    | @goesOn _ path start _ _ here _ =>
      rw [nowhere start] at here
      cases here
  | @goesOn text path start later earlier here behind inductionHypothesis =>
    cases scannedToo with
    | ends nowhere =>
      rw [nowhere start] at here
      cases here
    | @goesOn _ other place rest earlierToo hereToo behindToo =>
      have same : start = place := by
        rcases Nat.lt_trichotomy start place with before | same | after
        · rw [earlierToo start before] at here
          cases here
        · exact same
        · rw [earlier place after] at hereToo
          cases hereToo
      subst same
      obtain rfl : path = other := Option.some_inj.mp (here.symm.trans hereToo)
      rw [inductionHypothesis behindToo]

/-- Before a character at which no placeholder starts, the first piece only skips more. -/
theorem cons {head : Char} {tail : Text} {pieces : Pieces}
    (absent : placeholderAt? opening closing (head :: tail) = none)
    (scanned : ScansInto opening closing tail pieces) :
    ScansInto opening closing (head :: tail) (Pieces.put head pieces) := by
  cases scanned with
  | ends nowhere =>
    refine ends fun start => ?_
    cases start with
    | zero => exact absent
    | succ start => exact nowhere start
  | @goesOn _ path start later earlier here behind =>
    refine @goesOn _ _ _ _ (start + 1) _ (fun before lower => ?_) here ?_
    · cases before with
      | zero => exact absent
      | succ before => exact earlier before (Nat.lt_of_succ_lt_succ lower)
    · rw [Nat.add_right_comm]
      exact behind

/-- The tokens of the direct scan gather into such pieces, also from the middle of a placeholder
on. -/
theorem of_scanFrom (closing : Text) (openingSome : opening ≠ []) (skip : Nat) (text : Text) :
    ScansInto opening closing (text.drop skip)
      (gather opening closing (scanFrom opening closing skip text)) := by
  induction text generalizing skip with
  | nil =>
    have nothing : scanFrom opening closing skip [] = [] := by
      cases skip with
      | zero => rfl
      | succ skip => rfl
    rw [nothing, List.drop_nil]
    exact ends fun start => by rw [List.drop_nil, placeholderAt?_nil openingSome]
  | cons head tail inductionHypothesis =>
    cases skip with
    | succ skip => exact inductionHypothesis skip
    | zero =>
      rw [List.drop_zero, scanFrom]
      cases found : placeholderAt? opening closing (head :: tail) with
      | none => exact cons found (inductionHypothesis 0)
      | some path =>
        refine @goesOn _ _ _ _ 0 _ (fun before lower => absurd lower (Nat.not_lt_zero before))
          found ?_
        have positive := List.length_pos_iff.mpr openingSome
        have length : 0 + (opening ++ (path ++ closing)).length =
            opening.length + (path.length + closing.length) - 1 + 1 := by
          simp only [List.length_append]
          omega
        rw [length, List.drop_succ_cons]
        exact inductionHypothesis _

end ScansInto

theorem ofDelimiters_of_empty {opening closing : Text} (empty : opening = [] ∨ closing = []) :
    ofDelimiters opening closing = .error (.emptyDelimiter opening closing) := by
  have either : (opening.isEmpty || closing.isEmpty) = true := by
    rw [Bool.or_eq_true, List.isEmpty_iff, List.isEmpty_iff]
    exact empty
  rw [ofDelimiters, if_pos either]

/-- A pair of delimiters fails to make a pattern exactly if one of them is empty, and for that
reason. Otherwise the pattern cuts every text as the direct scan for placeholders does: at the first
position at which the opening delimiter, the longest run of characters of neither delimiter and the
closing delimiter stand, with the run as the group, and so on behind it. -/
theorem ofDelimiters_scans (opening closing : Text) :
    (∀ error, ofDelimiters opening closing = .error error ↔
        (opening = [] ∨ closing = []) ∧ error = .emptyDelimiter opening closing) ∧
      (opening ≠ [] → closing ≠ [] →
        ∃ pattern, ofDelimiters opening closing = .ok pattern ∧
          ∀ text pieces, pattern.regex.cut text = pieces ↔
            ScansInto opening closing text pieces) := by
  refine ⟨fun error => ⟨fun fails => ?_, ?_⟩, fun openingSome closingSome => ?_⟩
  · by_cases empty : opening = [] ∨ closing = []
    · rw [ofDelimiters_of_empty empty] at fails
      exact ⟨empty, (Except.error.inj fails).symm⟩
    · obtain ⟨openingSome, closingSome⟩ := not_or.mp empty
      rw [ofDelimiters_eq openingSome closingSome] at fails
      cases fails
  · rintro ⟨empty, rfl⟩
    exact ofDelimiters_of_empty empty
  · obtain ⟨pattern, made, rfl, rfl⟩ : ∃ pattern, ofDelimiters opening closing = .ok pattern ∧
        pattern.opening = opening ∧ pattern.closing = closing :=
      ⟨_, ofDelimiters_eq openingSome closingSome, rfl, rfl⟩
    refine ⟨pattern, made, fun text pieces => ?_⟩
    have scanned := ScansInto.of_scanFrom pattern.closing openingSome 0 text
    rw [cut_eq_gather made]
    exact ⟨fun same => same ▸ scanned, scanned.unique⟩

/-- The opening delimiter stands at the start, too, but no path follows there; and the text behind
the last placeholder starts in the middle of what could be another one. -/
theorem ofDelimiters_scans_overlapping :
    ∃ pattern, ofDelimiters ['<', '<'] ['<'] = .ok pattern ∧
      pattern.regex.cut "<<<a<b<<c<<d<".toList =
        ⟨[⟨['<'], "<<a<".toList, some ['a']⟩, ⟨['b'], "<<c<".toList, some ['c']⟩],
          "<d<".toList⟩ := by
  obtain ⟨pattern, made, scans⟩ := (ofDelimiters_scans ['<', '<'] ['<']).2 (by decide) (by decide)
  have nowhere : ∀ start, placeholderAt? ['<', '<'] ['<'] (['<', 'd', '<'].drop start) = none := by
    intro start
    rcases Nat.lt_or_ge start 3 with inside | beyond
    · have each : ∀ start < 3,
          placeholderAt? ['<', '<'] ['<'] (['<', 'd', '<'].drop start) = none := by decide
      exact each start inside
    · rw [List.drop_eq_nil_of_le beyond]
      rfl
  have second : ScansInto ['<', '<'] ['<'] "b<<c<<d<".toList
      ⟨[⟨['b'], "<<c<".toList, some ['c']⟩], "<d<".toList⟩ :=
    @ScansInto.goesOn ['<', '<'] ['<'] "b<<c<<d<".toList ['c'] 1 ⟨[], "<d<".toList⟩ (by decide)
      (by decide) (.ends nowhere)
  have first : ScansInto ['<', '<'] ['<'] "<<<a<b<<c<<d<".toList
      ⟨[⟨['<'], "<<a<".toList, some ['a']⟩, ⟨['b'], "<<c<".toList, some ['c']⟩], "<d<".toList⟩ :=
    @ScansInto.goesOn ['<', '<'] ['<'] "<<<a<b<<c<<d<".toList ['a'] 1
      ⟨[⟨['b'], "<<c<".toList, some ['c']⟩], "<d<".toList⟩ (by decide) (by decide) second
  exact ⟨pattern, made, (scans _ _).mpr first⟩

end Stencil.Pattern
