/-
This file proves what a run reports where the cap has cut its text short. The loop over passes has
an entry of its own for being stopped at the cap. But nothing resolves in the pass with the number
of the cap, so this pass reports no change, the loop ends with it, and no pass is ever due beyond
it. That entry is made only where the cap is zero and the loop has no pass at all.

What tells of a text cut short are the paths. Under two caps a text goes through the same passes up
to the one with the number of the smaller cap. If the texts come out different, that pass has
started with a placeholder; and a lenient run enters the path of each placeholder that this pass
starts with, together with the number of the pass.
-/

import Mathlib.Data.List.Basic
import Stencil.Proofs.PassBound
import Stencil.Proofs.PassCap

namespace Stencil.Template

open Substitution

/-- Makes of a string the text that is handed to the coercion. -/
def textToCoerce (settings : Settings) (bindings : Json) (text : Text) : Run Text := do
  let substituted ← substitute settings bindings
    (Escaping.mark settings.pattern settings.escape text)
  transform settings (Escaping.unmark settings.pattern substituted)

theorem compileText_eq_coerce (settings : Settings) (bindings : Json) (text : Text) :
    compileText settings bindings text =
      textToCoerce settings bindings text >>= coerce settings :=
  (bind_assoc _ _ _).symm

section

variable {settings : Settings} {bindings : Json}

/-! ### The pass with the number of the cap -/

/-- The reports that a pass makes of placeholders none of which resolves. -/
def unresolvedEntries (pass : Nat) (pieces : List Regex.Piece) : Journal :=
  pieces.map fun piece => .unresolved (pathOfPiece piece) pass

section

variable (lenient : settings.strict = false)

include lenient

theorem run_expand_at_cap (piece : Regex.Piece) (journal : Journal) :
    ∃ left, run (expand settings bindings settings.maxPasses piece) journal =
      (.ok (left, false), journal ++ unresolvedEntries settings.maxPasses [piece]) := by
  rw [expand, resolve, if_pos (Nat.le_refl _), pure_bind]
  dsimp only
  rw [lenient, if_neg Bool.false_ne_true, run_note_bind]
  exact ⟨_, rfl⟩

theorem run_expandAll_at_cap (pieces : List Regex.Piece) (journal : Journal) :
    ∃ left, run (expandAll settings bindings settings.maxPasses pieces) journal =
      (.ok (left, false), journal ++ unresolvedEntries settings.maxPasses pieces) := by
  induction pieces generalizing journal with
  | nil => exact ⟨[], by rw [unresolvedEntries, List.map_nil, List.append_nil]; rfl⟩
  | cons piece later inductionHypothesis =>
    obtain ⟨first, expanded⟩ := run_expand_at_cap lenient piece journal
    obtain ⟨rest, expandedLater⟩ := inductionHypothesis
      (journal ++ unresolvedEntries settings.maxPasses [piece])
    refine ⟨piece.skipped ++ first ++ rest, ?_⟩
    dsimp only [expandAll]
    rw [run_bind_of_ok _ expanded]
    dsimp only
    rw [run_bind_of_ok _ expandedLater, List.append_assoc journal]
    rfl

/-- A lenient pass with the number of the cap comes to its end, reports no change, and enters the
path of every placeholder of its text. -/
theorem run_onePass_lenient_at_cap (text : Text) (journal : Journal) :
    ∃ next, run (onePass settings bindings settings.maxPasses text) journal =
      (.ok (next, false), journal ++
        unresolvedEntries settings.maxPasses (settings.pattern.regex.cut text).pieces) := by
  obtain ⟨left, expanded⟩ := run_expandAll_at_cap lenient
    (settings.pattern.regex.cut text).pieces journal
  refine ⟨left ++ (settings.pattern.regex.cut text).tail, ?_⟩
  dsimp only [onePass]
  rw [run_bind_of_ok _ expanded]
  rfl

/-- Where a pass with the number of the cap starts, the run enters the placeholders of its text. -/
theorem passes_add_unresolved {remaining pass : Nat} {text : Text} {journal : Journal}
    {start : Nat × Text}
    (starts : start ∈ passStarts settings bindings remaining pass text journal)
    (atCap : start.1 = settings.maxPasses) :
    ∃ added, (run (passes settings bindings remaining pass text) journal).2 = journal ++ added ∧
      unresolvedEntries settings.maxPasses (settings.pattern.regex.cut start.2).pieces ⊆ added := by
  induction remaining generalizing pass text journal with
  | zero => exact absurd starts List.not_mem_nil
  | succ remaining inductionHypothesis =>
    -- a pass with the number of the cap is the last one
    have here : pass = settings.maxPasses → ∃ added,
        (run (passes settings bindings (remaining + 1) pass text) journal).2 = journal ++ added ∧
        unresolvedEntries settings.maxPasses (settings.pattern.regex.cut text).pieces ⊆ added := by
      rintro rfl
      obtain ⟨next, ended⟩ := run_onePass_lenient_at_cap lenient text journal
      rw [run_passes_of_stop ended Bool.false_ne_true, List.append_assoc]
      exact ⟨_, rfl, List.subset_append_left _ _⟩
    rcases mem_passStarts_succ starts with rfl | ⟨next, reached, ended, includes, later⟩
    · exact here atCap
    · obtain ⟨body, grown, _⟩ := onePass_adds settings bindings pass text journal
      rw [ended] at grown
      obtain rfl : reached = journal ++ body := grown
      obtain ⟨added, grownLater, reported⟩ := inductionHypothesis later
      refine ⟨body ++ ([.passComplete pass true] ++ added), ?_, fun entry member => ?_⟩
      · rw [run_passes_of_again ended includes, grownLater, List.append_assoc, List.append_assoc]
      · exact List.mem_append_right _ (List.mem_append_right _ (reported member))

end

/-! ### Stopping at the cap -/

/-- A pass says nothing of being stopped. -/
theorem not_stopped_of_onePass {number cap : Nat} {text : Text} {journal body : Journal}
    {result : Except Failure (Text × Bool)}
    (ended : run (onePass settings bindings number text) journal = (result, journal ++ body)) :
    .stoppedAtCap cap ∉ body := by
  have made : PassRecord.Made settings bindings
      ⟨number, text, body, (result.map Prod.snd).toOption⟩ := ⟨journal, result, ended, rfl⟩
  exact fun member => made.ofPass _ member

theorem PassesThrough.not_stopped {text : Text} {journal : Journal} {log : List PassRecord}
    {outcome : Except Failure Text × Journal}
    (through : PassesThrough settings bindings text journal log outcome) :
    ∃ added, outcome.2 = journal ++ added ∧ ∀ cap, .stoppedAtCap cap ∉ added := by
  induction through with
  | fails ended => exact ⟨_, rfl, fun _ => not_stopped_of_onePass ended⟩
  | @ends number text next changed journal body ended =>
    refine ⟨body ++ [.passComplete number changed], List.append_assoc _ _ _, fun cap member => ?_⟩
    rcases List.mem_append.mp member with inBody | last
    · exact not_stopped_of_onePass ended inBody
    · cases List.mem_singleton.mp last
  | @goesOn number text next changed journal body later outcome ended through inductionHypothesis =>
    obtain ⟨added, grown, none⟩ := inductionHypothesis
    refine ⟨body ++ ([.passComplete number changed] ++ added), ?_, fun cap member => ?_⟩
    · rw [grown, List.append_assoc, List.append_assoc]
    · rcases List.mem_append.mp member with inBody | behind
      · exact not_stopped_of_onePass ended inBody
      · rcases List.mem_append.mp behind with next | rest
        · cases List.mem_singleton.mp next
        · exact none cap rest

/-- The loop says that it was stopped only where the cap lets it make no pass at all. -/
theorem substitute_stopped (settings : Settings) (bindings : Json) (text : Text)
    (journal : Journal) :
    ∃ added, (run (substitute settings bindings text) journal).2 = journal ++ added ∧
      ∀ cap, .stoppedAtCap cap ∈ added ↔ settings.maxPasses = 0 ∧ cap = 0 := by
  rw [substitute]
  cases allowed : settings.maxPasses with
  | zero =>
    refine ⟨[.stoppedAtCap 0], ?_, fun cap => ?_⟩
    · rw [passes, run_note_bind, allowed]
      rfl
    · rw [List.mem_singleton, Entry.stoppedAtCap.injEq]
      exact ⟨fun same => ⟨rfl, same⟩, And.right⟩
  | succ remaining =>
    obtain ⟨log, through, _⟩ :=
      passes_through ((Nat.add_comm 1 remaining).trans allowed.symm) text journal
    obtain ⟨added, grown, none⟩ := through.not_stopped
    refine ⟨added, grown, fun cap => ⟨fun member => absurd member (none cap), ?_⟩⟩
    exact fun both => absurd both.1 (Nat.succ_ne_zero remaining)

/-! ### Texts cut short -/

/-- Runs with different texts for the coercion part at the smaller cap, with a placeholder left. -/
theorem exists_start_at_cap {cap larger : Nat} {text : Text} {journal : Journal}
    (positive : 0 < cap) (atLeast : cap ≤ larger)
    (truncated : (run (textToCoerce (withCap settings cap) bindings text) journal).1 ≠
      (run (textToCoerce (withCap settings larger) bindings text) journal).1) :
    ∃ start ∈ passStarts (withCap settings cap) bindings cap 1
        (Escaping.mark settings.pattern settings.escape text) journal,
      start.1 = cap ∧ (settings.pattern.regex.cut start.2).pieces ≠ [] := by
  refine Classical.byContradiction fun without => truncated ?_
  have untouched : ∀ start ∈ passStarts (withCap settings cap) bindings cap 1
      (Escaping.mark settings.pattern settings.escape text) journal,
      start.1 = cap → (settings.pattern.regex.cut start.2).pieces = [] := by
    intro start member atCap
    exact Decidable.byContradiction fun some => without ⟨start, member, atCap, some⟩
  have same := run_passes_withCap atLeast (Nat.add_comm 1 cap) (Nat.add_comm 1 larger) positive
    (Escaping.mark settings.pattern settings.escape text) journal untouched
  exact congrArg Prod.fst (run_bind_congr same).symm

/-- After the substitution a string makes only the entries of its transform and its coercion. -/
theorem compileText_adds {text : Text} {journal added : Journal}
    (grown : (run (substitute settings bindings
      (Escaping.mark settings.pattern settings.escape text)) journal).2 = journal ++ added) :
    ∃ more, (run (compileText settings bindings text) journal).2 = journal ++ (added ++ more) ∧
      ∀ entry ∈ more, IsFinish entry := by
  obtain ⟨transformed, transforms, finishes⟩ := Adds.after grown fun substituted =>
    transform_adds settings (Escaping.unmark settings.pattern substituted)
  rw [List.append_assoc] at transforms
  obtain ⟨coerced, coerces, finishesToo⟩ := Adds.after transforms (coerce_adds settings)
  refine ⟨transformed ++ coerced, ?_, fun entry member => ?_⟩
  · rw [compileText_eq_coerce, ← List.append_assoc added, ← List.append_assoc]
    exact coerces
  · exact (List.mem_append.mp member).elim (finishes entry) (finishesToo entry)

/-- Where the cap cuts a text short, a lenient run reports it by the paths that it leaves. If a
larger cap makes another text for the coercion of the same string, the pass with the number of the
smaller cap has started with a placeholder, and the run under the smaller cap enters its path as
unresolved in that pass. The entry for being stopped at the cap is made only where the cap is
zero. -/
theorem truncation_reported (settings : Settings) (bindings : Json) (text : Text)
    (journal : Journal) {cap larger : Nat} (lenient : settings.strict = false)
    (atLeast : cap ≤ larger)
    (truncated : (run (textToCoerce { settings with maxPasses := cap } bindings text) journal).1 ≠
      (run (textToCoerce { settings with maxPasses := larger } bindings text) journal).1) :
    ∃ added, (run (compile { settings with maxPasses := cap } bindings (.string text)) journal).2 =
        journal ++ added ∧
      (∀ number, .stoppedAtCap number ∈ added ↔ cap = 0 ∧ number = 0) ∧
      (0 < cap → ∃ path, .unresolved path cap ∈ added) := by
  obtain ⟨added, grown, stopped⟩ := substitute_stopped (withCap settings cap) bindings
    (Escaping.mark settings.pattern settings.escape text) journal
  obtain ⟨more, compiled, finishes⟩ := compileText_adds grown
  refine ⟨added ++ more, compiled, fun number => ?_, fun positive => ?_⟩
  · rw [List.mem_append]
    exact (or_iff_left fun last => finishes (.stoppedAtCap number) last).trans (stopped number)
  · obtain ⟨start, starts, atCap, some⟩ := exists_start_at_cap positive atLeast truncated
    obtain ⟨piece, member⟩ := List.exists_mem_of_ne_nil _ some
    have lenientToo : (withCap settings cap).strict = false := lenient
    obtain ⟨entries, grownToo, reported⟩ := passes_add_unresolved lenientToo starts atCap
    obtain rfl := List.append_cancel_left (grown.symm.trans grownToo)
    exact ⟨pathOfPiece piece, List.mem_append_left _ (reported (List.mem_map_of_mem member))⟩

/-- A variable whose value holds its own placeholder. -/
def loopingVariables : Json :=
  .object [("loop".toList, .string "again {{loop}}".toList)]

/-- The fourth pass, in which nothing resolves, takes the last placeholder away. -/
theorem truncation_reported_looping :
    (run (textToCoerce { maxPasses := 4 } loopingVariables "{{loop}}".toList) []).1 ≠
        (run (textToCoerce { maxPasses := 5 } loopingVariables "{{loop}}".toList) []).1 ∧
      ∃ path, .unresolved path 4 ∈
        (run (compile { maxPasses := 4 } loopingVariables (.string "{{loop}}".toList)) []).2 := by
  have truncated : (run (textToCoerce { maxPasses := 4 } loopingVariables
        "{{loop}}".toList) []).1 ≠
      (run (textToCoerce { maxPasses := 5 } loopingVariables "{{loop}}".toList) []).1 := by
    decide +kernel
  obtain ⟨added, grown, _, reported⟩ := truncation_reported {} loopingVariables "{{loop}}".toList []
    rfl (by decide : 4 ≤ 5) truncated
  refine ⟨truncated, ?_⟩
  rw [grown]
  exact reported (by decide)

/-- A text that the cap has cut short without a word about the cap. -/
theorem truncation_without_stop :
    (run (textToCoerce { maxPasses := 4 } loopingVariables "{{loop}}".toList) []).1 =
        .ok "again again again ".toList ∧
      (run (textToCoerce { maxPasses := 5 } loopingVariables "{{loop}}".toList) []).1 =
        .ok "again again again again ".toList ∧
      ∀ event ∈ Journal.events (run (compile { maxPasses := 4 } loopingVariables
          (.string "{{loop}}".toList)) []).2,
        event.message ≠ "substitution stopped at pass cap" := by
  decide +kernel

end

end Stencil.Template
