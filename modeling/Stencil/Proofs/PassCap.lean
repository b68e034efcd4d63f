/-
This file proves that the cap on passes matters only to runs that touch it. The cap is read twice:
the loop makes no pass beyond it, and the pass with its number resolves nothing. A run touches the
cap where that pass starts with a placeholder in its text; a run that does not is the same under
every larger cap.

Below the cap a pass is the same program under both caps. At the cap a pass without placeholders
changes nothing, and the loop ends with it. So the comparison goes down the passes of one text, then
through the texts of a template in turn.
-/

import Stencil.Proofs.Leaves

namespace Stencil.Template

open Substitution

/-! ### Where passes start -/

section

variable (settings : Settings) (bindings : Json)

/-- The passes that a text goes through, each with its number and the text it starts with. -/
def passStarts : (remaining pass : Nat) → Text → Journal → List (Nat × Text)
  | 0, _, _, _ => []
  | remaining + 1, pass, text, journal =>
    (pass, text) ::
      match run (onePass settings bindings pass text) journal with
      | (.ok (next, true), reached) =>
        if Text.includes settings.pattern.opening next then
          passStarts remaining (pass + 1) next (reached ++ [.passComplete pass true])
        else
          []
      | _ => []

/-- The texts that are compiled in turn, up to the first that fails, each with the journal that it
starts from. -/
def reachedTexts : List Text → Journal → List (Text × Journal)
  | [], _ => []
  | text :: rest, journal =>
    (text, journal) ::
      match run (compileText settings bindings text) journal with
      | (.ok _, reached) => reachedTexts rest reached
      | (.error _, _) => []

/-- A text does not reach the pass with the number of the cap with a placeholder in it. -/
def TextStaysBelowCap (text : Text) (journal : Journal) : Prop :=
  ∀ start ∈ passStarts settings bindings settings.maxPasses 1
      (Escaping.mark settings.pattern settings.escape text) journal,
    start.1 = settings.maxPasses → (settings.pattern.regex.cut start.2).pieces = []

/-- No string of the template reaches the pass with the number of the cap with a placeholder in
it. -/
def StaysBelowCap (template : Json) (journal : Journal) : Prop :=
  ∀ reached ∈ reachedTexts settings bindings template.leaves journal,
    TextStaysBelowCap settings bindings reached.1 reached.2

instance (text : Text) (journal : Journal) :
    Decidable (TextStaysBelowCap settings bindings text journal) :=
  inferInstanceAs (Decidable (∀ start ∈ passStarts settings bindings settings.maxPasses 1
      (Escaping.mark settings.pattern settings.escape text) journal,
    start.1 = settings.maxPasses → (settings.pattern.regex.cut start.2).pieces = []))

instance (template : Json) (journal : Journal) :
    Decidable (StaysBelowCap settings bindings template journal) :=
  inferInstanceAs (Decidable (∀ reached ∈ reachedTexts settings bindings template.leaves journal,
    TextStaysBelowCap settings bindings reached.1 reached.2))

end

section

variable (settings : Settings) (bindings : Json)

/-- The settings with another cap. -/
def withCap (cap : Nat) : Settings :=
  { settings with maxPasses := cap }

/-! ### Below the cap -/

theorem resolve_withCap {cap larger pass : Nat} (below : pass < cap) (belowLarger : pass < larger)
    (path : Text) :
    resolve (withCap settings larger) bindings pass path =
      resolve (withCap settings cap) bindings pass path := by
  unfold resolve
  rw [if_neg (Nat.not_le.mpr belowLarger : ¬ (withCap settings larger).maxPasses ≤ pass),
    if_neg (Nat.not_le.mpr below : ¬ (withCap settings cap).maxPasses ≤ pass)]
  rfl

theorem expandAll_withCap {cap larger pass : Nat} (below : pass < cap) (belowLarger : pass < larger)
    (pieces : List Regex.Piece) :
    expandAll (withCap settings larger) bindings pass pieces =
      expandAll (withCap settings cap) bindings pass pieces := by
  induction pieces with
  | nil => rfl
  | cons piece later inductionHypothesis =>
    have same : expand (withCap settings larger) bindings pass piece =
        expand (withCap settings cap) bindings pass piece := by
      dsimp only [expand]
      rw [resolve_withCap settings bindings below belowLarger]
      rfl
    rw [expandAll, expandAll, same, inductionHypothesis]

theorem onePass_withCap {cap larger pass : Nat} (below : pass < cap) (belowLarger : pass < larger)
    (text : Text) :
    onePass (withCap settings larger) bindings pass text =
      onePass (withCap settings cap) bindings pass text := by
  dsimp only [onePass]
  rw [expandAll_withCap settings bindings below belowLarger]
  rfl

/-! ### At the cap -/

variable {settings bindings}

theorem run_onePass_of_nil {text : Text} (none : (settings.pattern.regex.cut text).pieces = [])
    (pass : Nat) (journal : Journal) :
    run (onePass settings bindings pass text) journal =
      (.ok ((settings.pattern.regex.cut text).tail, false), journal) := by
  dsimp only [onePass]
  rw [none]
  rfl

/-- A pass that changes nothing is the last one, whatever the cap is. -/
theorem run_passes_of_nil {text : Text} (none : (settings.pattern.regex.cut text).pieces = [])
    (remaining pass : Nat) (journal : Journal) :
    run (passes settings bindings (remaining + 1) pass text) journal =
      (.ok (settings.pattern.regex.cut text).tail, journal ++ [.passComplete pass false]) := by
  exact run_passes_of_stop (run_onePass_of_nil none pass journal) Bool.false_ne_true

/-! ### Down the passes of a text -/

theorem passStarts_of_again {remaining pass : Nat} {text next : Text} {changed : Bool}
    {journal reached : Journal}
    (ended : run (onePass settings bindings pass text) journal = (.ok (next, changed), reached))
    (again : (changed && Text.includes settings.pattern.opening next) = true) :
    passStarts settings bindings (remaining + 1) pass text journal =
      (pass, text) :: passStarts settings bindings remaining (pass + 1) next
        (reached ++ [.passComplete pass changed]) := by
  obtain ⟨changedTrue, includes⟩ := Bool.and_eq_true_iff.mp again
  subst changedTrue
  rw [passStarts, ended]
  dsimp only
  rw [if_pos includes]

/-- A pass starts at the given text, or behind it after a pass that brought in text. -/
theorem mem_passStarts_succ {remaining pass : Nat} {text : Text} {journal : Journal}
    {start : Nat × Text}
    (starts : start ∈ passStarts settings bindings (remaining + 1) pass text journal) :
    start = (pass, text) ∨ ∃ next reached,
      run (onePass settings bindings pass text) journal = (.ok (next, true), reached) ∧
        Text.includes settings.pattern.opening next = true ∧
        start ∈ passStarts settings bindings remaining (pass + 1) next
          (reached ++ [.passComplete pass true]) := by
  rw [passStarts, List.mem_cons] at starts
  refine starts.imp_right fun later => ?_
  split at later
  · rename_i next reached ended
    split at later
    · exact ⟨next, reached, ended, ‹_›, later⟩
    · exact absurd later List.not_mem_nil
  · exact absurd later List.not_mem_nil

/-- The passes of a run that does not touch the cap are the same under a larger cap. Since the pass
at hand counts from one and `remaining` down from the cap, the two together stay one above it. -/
theorem run_passes_withCap {cap larger remaining further pass : Nat} (atLeast : cap ≤ larger)
    (counted : pass + remaining = cap + 1) (countedLarger : pass + further = larger + 1)
    (due : pass ≤ cap) (text : Text) (journal : Journal)
    (untouched : ∀ start ∈ passStarts (withCap settings cap) bindings remaining pass text journal,
      start.1 = cap → (settings.pattern.regex.cut start.2).pieces = []) :
    run (passes (withCap settings larger) bindings further pass text) journal =
      run (passes (withCap settings cap) bindings remaining pass text) journal := by
  induction remaining generalizing further pass text journal with
  | zero => omega
  | succ remaining inductionHypothesis =>
    obtain ⟨further, rfl⟩ : ∃ fewer, further = fewer + 1 := ⟨further - 1, by omega⟩
    rcases Nat.lt_or_eq_of_le due with below | atCap
    · have same : onePass (withCap settings larger) bindings pass text =
          onePass (withCap settings cap) bindings pass text :=
        onePass_withCap settings bindings below (by omega) text
      rcases run_ends (onePass (withCap settings cap) bindings pass text) journal with
        ⟨⟨next, changed⟩, reached, ended⟩ | ⟨failure, reached, ended⟩
      · have endedLarger : run (onePass (withCap settings larger) bindings pass text) journal =
            (.ok (next, changed), reached) := by rw [same, ended]
        by_cases again : (changed && Text.includes settings.pattern.opening next) = true
        · rw [run_passes_of_again ended again, run_passes_of_again endedLarger again]
          refine inductionHypothesis (by omega) (by omega) (by omega) next _ ?_
          intro start member
          refine untouched start ?_
          rw [passStarts_of_again ended again]
          exact List.mem_cons_of_mem _ member
        · rw [run_passes_of_stop ended again, run_passes_of_stop endedLarger again]
      · have endedLarger : run (onePass (withCap settings larger) bindings pass text) journal =
            (.error failure, reached) := by rw [same, ended]
        rw [run_passes_of_error ended, run_passes_of_error endedLarger]
    · have none : ((withCap settings cap).pattern.regex.cut text).pieces = [] :=
        untouched (pass, text) List.mem_cons_self atCap
      have noneLarger : ((withCap settings larger).pattern.regex.cut text).pieces = [] := none
      rw [run_passes_of_nil none, run_passes_of_nil noneLarger]
      rfl

/-! ### Through a template -/

theorem run_compileText_withCap {cap larger : Nat} (positive : 1 ≤ cap) (atLeast : cap ≤ larger)
    {text : Text} {journal : Journal}
    (below : TextStaysBelowCap (withCap settings cap) bindings text journal) :
    run (compileText (withCap settings larger) bindings text) journal =
      run (compileText (withCap settings cap) bindings text) journal :=
  run_bind_congr (run_passes_withCap atLeast (Nat.add_comm 1 cap) (Nat.add_comm 1 larger) positive
    _ journal below)

theorem run_inTurn_withCap {cap larger : Nat} (positive : 1 ≤ cap) (atLeast : cap ≤ larger)
    {texts : List Text} {journal : Journal}
    (below : ∀ reached ∈ reachedTexts (withCap settings cap) bindings texts journal,
      TextStaysBelowCap (withCap settings cap) bindings reached.1 reached.2) :
    run (inTurn (withCap settings larger) bindings texts) journal =
      run (inTurn (withCap settings cap) bindings texts) journal := by
  induction texts generalizing journal with
  | nil => rfl
  | cons text rest inductionHypothesis =>
    have same := run_compileText_withCap positive atLeast (below (text, journal) List.mem_cons_self)
    rcases run_ends (compileText (withCap settings cap) bindings text) journal with
      ⟨value, reached, ended⟩ | ⟨failure, reached, ended⟩
    · have belowRest : ∀ later ∈ reachedTexts (withCap settings cap) bindings rest reached,
          TextStaysBelowCap (withCap settings cap) bindings later.1 later.2 := by
        intro later member
        refine below later ?_
        rw [reachedTexts, ended]
        exact List.mem_cons_of_mem _ member
      rw [inTurn, inTurn, run_bind_of_ok _ ended, run_bind_of_ok _ (same.trans ended)]
      exact run_bind_congr (inductionHypothesis belowRest)
    · rw [inTurn, inTurn, run_bind_of_error _ ended, run_bind_of_error _ (same.trans ended)]

theorem run_compile_withCap {cap larger : Nat} (positive : 1 ≤ cap) (atLeast : cap ≤ larger)
    {template : Json} {journal : Journal}
    (below : StaysBelowCap (withCap settings cap) bindings template journal) :
    run (compile (withCap settings larger) bindings template) journal =
      run (compile (withCap settings cap) bindings template) journal :=
  run_compile_congr (run_inTurn_withCap positive atLeast below)

/-! ### Strict runs -/

/-- In the pass with the number of the cap nothing resolves, so a strict pass over a placeholder
fails. -/
theorem run_onePass_at_cap (strict : settings.strict = true) {text : Text}
    (some : (settings.pattern.regex.cut text).pieces ≠ []) (journal : Journal) :
    ∃ failure, run (onePass settings bindings settings.maxPasses text) journal =
      (.error failure, journal) := by
  cases found : (settings.pattern.regex.cut text).pieces with
  | nil => exact absurd found some
  | cons piece later =>
    have refused : run (expand settings bindings settings.maxPasses piece) journal =
        (.error (.missingVariable (piece.group.getD [])), journal) := by
      dsimp only [expand]
      rw [resolve, if_pos (Nat.le_refl _), pure_bind]
      dsimp only
      rw [if_pos strict]
      rfl
    refine ⟨.missingVariable (piece.group.getD []), ?_⟩
    dsimp only [onePass]
    rw [found, expandAll]
    exact run_bind_of_error _ (run_bind_of_error _ refused)

theorem untouched_of_strict (strict : settings.strict = true) {remaining pass : Nat}
    {text final : Text} {journal reached : Journal}
    (ended : run (passes settings bindings remaining pass text) journal = (.ok final, reached)) :
    ∀ start ∈ passStarts settings bindings remaining pass text journal,
      start.1 = settings.maxPasses → (settings.pattern.regex.cut start.2).pieces = [] := by
  induction remaining generalizing pass text journal with
  | zero =>
    intro start member
    exact absurd member List.not_mem_nil
  | succ remaining inductionHypothesis =>
    intro start member atCap
    rcases mem_passStarts_succ member with rfl | ⟨next, between, passEnded, includes, later⟩
    · refine Decidable.byContradiction fun some => ?_
      obtain ⟨failure, fails⟩ := run_onePass_at_cap strict some journal
      rw [← show pass = settings.maxPasses from atCap] at fails
      rw [run_passes_of_error fails] at ended
      cases ended
    · rw [run_passes_of_again passEnded includes] at ended
      exact inductionHypothesis ended start later atCap

theorem reachedTexts_ended {texts : List Text} {values : List Json} {journal final : Journal}
    (ended : run (inTurn settings bindings texts) journal = (.ok values, final)) :
    ∀ reached ∈ reachedTexts settings bindings texts journal, ∃ value after,
      run (compileText settings bindings reached.1) reached.2 = (.ok value, after) := by
  induction texts generalizing journal final values with
  | nil =>
    intro reached member
    exact absurd member List.not_mem_nil
  | cons text rest inductionHypothesis =>
    intro reached member
    obtain ⟨value, between, first, restEnded⟩ := run_bind_ok ended
    obtain ⟨others, last, tail, _⟩ := run_bind_ok restEnded
    rw [reachedTexts, first] at member
    rcases List.mem_cons.mp member with rfl | later
    · exact ⟨value, between, first⟩
    · exact inductionHypothesis tail reached later

/-- A strict run that ends with a value has not touched the cap. -/
theorem staysBelowCap_of_strict (strict : settings.strict = true) {template value : Json}
    {journal final : Journal}
    (ended : run (compile settings bindings template) journal = (.ok value, final)) :
    StaysBelowCap settings bindings template journal := by
  have byLeaf := compile_leafByLeaf settings bindings template
  rcases run_ends (inTurn settings bindings template.leaves) journal with
    ⟨values, reached, leavesEnded⟩ | ⟨failure, reached, leavesFail⟩
  · intro leaf member
    obtain ⟨leafValue, after, leafEnded⟩ := reachedTexts_ended leavesEnded leaf member
    obtain ⟨substituted, between, passesEnded, _⟩ := run_bind_ok leafEnded
    exact untouched_of_strict strict passesEnded
  · rw [byLeaf.failure leavesFail] at ended
    cases ended

/-- The cap on passes matters only to runs that touch it. Where no string of a template reaches the
pass with the number of the cap with a placeholder still in it, the run under a larger cap ends
alike and with the same journal. A strict run that ends with a value is such a run. -/
theorem larger_cap_irrelevant (settings : Settings) (bindings template : Json)
    (journal : Journal) (cap larger : Nat) (positive : 1 ≤ cap) (atLeast : cap ≤ larger) :
    (StaysBelowCap { settings with maxPasses := cap } bindings template journal →
        run (compile { settings with maxPasses := larger } bindings template) journal =
          run (compile { settings with maxPasses := cap } bindings template) journal) ∧
      (settings.strict = true → ∀ value reached,
        run (compile { settings with maxPasses := cap } bindings template) journal =
            (.ok value, reached) →
          run (compile { settings with maxPasses := larger } bindings template) journal =
            (.ok value, reached)) := by
  refine ⟨run_compile_withCap positive atLeast, ?_⟩
  intro strict value reached ended
  have strictToo : (withCap settings cap).strict = true := strict
  have below := staysBelowCap_of_strict strictToo ended
  exact (run_compile_withCap positive atLeast below).trans ended

/-- Answers with a placeholder of its own when it is asked first, and with plain text later. -/
def relayingResolver : Resolver where
  reply history _ := .ok (some (.string (if history.isEmpty then "{{b}}".toList else ['x'])))

/-- A template whose strings need two passes at most, with a placeholder that is escaped. -/
def relayedTemplate : Json :=
  .array [.string "a {{p}}".toList, .string "\\{{q}} {{r}}".toList]

/-- The third pass, which a cap of three would refuse, is not needed. -/
theorem larger_cap_irrelevant_relayed :
    StaysBelowCap { resolver := some relayingResolver, maxPasses := 3 } .null relayedTemplate [] ∧
      run (compile { resolver := some relayingResolver, maxPasses := 7 } .null relayedTemplate) [] =
        run (compile { resolver := some relayingResolver, maxPasses := 3 } .null relayedTemplate)
          [] := by
  have below : StaysBelowCap { resolver := some relayingResolver, maxPasses := 3 } .null
      relayedTemplate [] := by decide +kernel
  exact ⟨below, (larger_cap_irrelevant { resolver := some relayingResolver } .null
    relayedTemplate [] 3 7 (by decide) (by decide)).1 below⟩

end

end Stencil.Template
