/-
This file proves that the loop over passes is bounded by the cap and that it refuses exactly the
pass with the number of the cap. No measure on the text would do, since a resolver may answer every
path with another placeholder: the bound is that of the counter alone, and what ends the loop is
that the last pass brings no text in.

A run is taken apart into its passes, each of which is a pass of the loop over the text and from the
journal that the one before has left. What a single pass may do follows from its number: below the
cap every placeholder has its path asked or searched for, and at the cap none has, so that the pass
reports no change. The numbers and the reports of change follow by going down the passes.
-/

import Stencil.Proofs.Runs

namespace Stencil.Template

open Substitution

/-- A pass of a run: its number, the text that it starts with, what it adds to the journal, and, if
it comes to its end, whether it brought in text that may hold placeholders. -/
structure PassRecord where
  number : Nat
  text : Text
  body : Journal
  ending : Option Bool

section

variable (settings : Settings) (bindings : Json)

/-- What starts from a text and a journal and ends with the outcome is made of the recorded passes,
one after another. Only the last of them can fail. -/
inductive PassesThrough : Text → Journal → List PassRecord → Except Failure Text × Journal → Prop
  | fails {number : Nat} {text : Text} {journal body : Journal} {failure : Failure}
      (ended : run (onePass settings bindings number text) journal =
        (.error failure, journal ++ body)) :
      PassesThrough text journal [⟨number, text, body, none⟩] (.error failure, journal ++ body)
  | ends {number : Nat} {text next : Text} {changed : Bool} {journal body : Journal}
      (ended : run (onePass settings bindings number text) journal =
        (.ok (next, changed), journal ++ body)) :
      PassesThrough text journal [⟨number, text, body, some changed⟩]
        (.ok next, journal ++ body ++ [.passComplete number changed])
  | goesOn {number : Nat} {text next : Text} {changed : Bool} {journal body : Journal}
      {later : List PassRecord} {outcome : Except Failure Text × Journal}
      (ended : run (onePass settings bindings number text) journal =
        (.ok (next, changed), journal ++ body))
      (through : PassesThrough next (journal ++ body ++ [.passComplete number changed]) later
        outcome) :
      PassesThrough text journal (⟨number, text, body, some changed⟩ :: later) outcome

/-- The record is of a pass over its text, made from some journal. -/
def PassRecord.Made (record : PassRecord) : Prop :=
  ∃ journal result, run (onePass settings bindings record.number record.text) journal =
      (result, journal ++ record.body) ∧ record.ending = (result.map Prod.snd).toOption

/-- The entries that a pass with the given number may make: questions only below the cap, and
reports of paths that led to nothing in this very pass. -/
def OfPass (number : Nat) : Entry → Prop
  | .asked _ | .searched _ => number < settings.maxPasses
  | .unresolved _ pass => pass = number
  | _ => False

/-- A part that comes to its end has asked or searched for each of the paths. -/
def Consults {Result : Type} (paths : List Text) (part : Run Result) : Prop :=
  ∀ journal value reached, run part journal = (.ok value, reached) →
    ∃ added, reached = journal ++ added ∧
      ∀ path ∈ paths, .asked path ∈ added ∨ .searched path ∈ added

variable {settings bindings}

theorem PassesThrough.ne_nil {text : Text} {journal : Journal} {log : List PassRecord}
    {outcome : Except Failure Text × Journal}
    (through : PassesThrough settings bindings text journal log outcome) : log ≠ [] := by
  cases through with
  | fails ended => exact List.cons_ne_nil _ _
  | ends ended => exact List.cons_ne_nil _ _
  | goesOn ended through => exact List.cons_ne_nil _ _

theorem PassesThrough.made {text : Text} {journal : Journal} {log : List PassRecord}
    {outcome : Except Failure Text × Journal}
    (through : PassesThrough settings bindings text journal log outcome) :
    ∀ record ∈ log, record.Made settings bindings := by
  induction through with
  | fails ended =>
    intro record member
    rw [List.mem_singleton.mp member]
    exact ⟨_, _, ended, rfl⟩
  | ends ended =>
    intro record member
    rw [List.mem_singleton.mp member]
    exact ⟨_, _, ended, rfl⟩
  | goesOn ended through inductionHypothesis =>
    intro record member
    rcases List.mem_cons.mp member with rfl | later
    · exact ⟨_, _, ended, rfl⟩
    · exact inductionHypothesis record later

/-! ### What a pass adds -/

theorem resolve_adds_ofPass (pass : Nat) (path : Text) :
    Adds (OfPass settings pass) (resolve settings bindings pass path) := by
  by_cases below : pass < settings.maxPasses
  · refine (resolve_adds settings bindings pass path).mono fun entry question => ?_
    cases entry with
    | asked _ => exact below
    | searched _ => exact below
    | _ => exact question.elim
  · rw [resolve, if_pos (Nat.not_lt.mp below)]
    exact Adds.pure none

theorem PassRecord.Made.ofPass {record : PassRecord} (made : record.Made settings bindings) :
    ∀ entry ∈ record.body, OfPass settings record.number entry := by
  obtain ⟨journal, result, ended, _⟩ := made
  obtain ⟨added, grown, holds⟩ :=
    onePass_adds_of settings bindings (resolve_adds_ofPass record.number) (fun _ => rfl)
      record.text journal
  rw [ended] at grown
  rwa [List.append_cancel_left grown]

/-! ### At the cap -/

/-- Where nothing resolves, no placeholder brings text in. -/
theorem expand_at_cap {pass : Nat} (cap : settings.maxPasses ≤ pass) {piece : Regex.Piece}
    {text : Text} {changed : Bool} {journal reached : Journal}
    (ended : run (expand settings bindings pass piece) journal = (.ok (text, changed), reached)) :
    changed = false := by
  rw [expand, resolve, if_pos cap, pure_bind] at ended
  dsimp only at ended
  split at ended
  · cases ended
  · rw [run_note_bind] at ended
    cases ended
    rfl

theorem expandAll_at_cap {pass : Nat} (cap : settings.maxPasses ≤ pass)
    {pieces : List Regex.Piece} {text : Text} {changed : Bool} {journal reached : Journal}
    (ended : run (expandAll settings bindings pass pieces) journal =
      (.ok (text, changed), reached)) : changed = false := by
  induction pieces generalizing text changed journal with
  | nil =>
    cases ended
    rfl
  | cons piece later inductionHypothesis =>
    obtain ⟨⟨first, firstChanged⟩, between, expanded, rest⟩ := run_bind_ok ended
    obtain ⟨⟨others, othersChanged⟩, last, expandedLater, done⟩ := run_bind_ok rest
    cases done
    rw [expand_at_cap cap expanded, inductionHypothesis expandedLater]
    rfl

/-- The pass with the number of the cap reports no change. -/
theorem onePass_at_cap {pass : Nat} (cap : settings.maxPasses ≤ pass) {text next : Text}
    {changed : Bool} {journal reached : Journal}
    (ended : run (onePass settings bindings pass text) journal =
      (.ok (next, changed), reached)) : changed = false := by
  obtain ⟨⟨expanded, expandedChanged⟩, between, all, done⟩ := run_bind_ok ended
  cases done
  exact expandAll_at_cap cap all

theorem PassRecord.Made.at_cap {record : PassRecord} (made : record.Made settings bindings)
    (cap : record.number = settings.maxPasses) : ∀ changed ∈ record.ending, changed = false := by
  obtain ⟨journal, result, ended, ending⟩ := made
  intro changed member
  rw [ending] at member
  cases result with
  | error failure => cases member
  | ok result =>
    cases member
    exact onePass_at_cap (Nat.le_of_eq cap.symm) ended

/-! ### Below the cap -/

namespace Consults

variable {First Second : Type}

theorem pure (value : First) : Consults [] (Pure.pure value : Run First) := by
  intro journal result reached ended
  cases ended
  exact ⟨[], (List.append_nil journal).symm, fun _ member => absurd member List.not_mem_nil⟩

theorem bind {paths more : List Text} {part : Run First} {next : First → Run Second}
    (first : Consults paths part) (second : ∀ value, Consults more (next value)) :
    Consults (paths ++ more) (part >>= next) := by
  intro journal result reached ended
  obtain ⟨value, between, partEnded, nextEnded⟩ := run_bind_ok ended
  obtain ⟨added, rfl, consulted⟩ := first journal value between partEnded
  obtain ⟨addedLater, rfl, consultedLater⟩ := second value _ result reached nextEnded
  refine ⟨added ++ addedLater, List.append_assoc _ _ _, fun path member => ?_⟩
  rcases List.mem_append.mp member with here | there
  · exact (consulted path here).imp (List.mem_append_left _) (List.mem_append_left _)
  · exact (consultedLater path there).imp (List.mem_append_right _) (List.mem_append_right _)

theorem of_adds {kind : Entry → Prop} {part : Run First} (adds : Adds kind part) :
    Consults [] part := by
  intro journal value reached ended
  obtain ⟨added, grown, _⟩ := adds journal
  rw [ended] at grown
  exact ⟨added, grown, fun _ member => absurd member List.not_mem_nil⟩

/-- What comes after the questions does not take them back. -/
theorem followed {kind : Entry → Prop} {paths : List Text} {part : Run First}
    {next : First → Run Second} (first : Consults paths part)
    (adds : ∀ value, Adds kind (next value)) : Consults paths (part >>= next) := by
  have both := bind first fun value => of_adds (adds value)
  rwa [List.append_nil] at both

end Consults

theorem search_consults (path : Text) : Consults [path] (Run.search bindings path) := by
  intro journal value reached ended
  cases ended
  refine ⟨[.searched path], rfl, fun other member => ?_⟩
  rw [List.mem_singleton.mp member]
  exact Or.inr List.mem_cons_self

theorem ask_consults (resolver : Resolver) (path : Text) :
    Consults [path] (Run.ask resolver path) := by
  intro journal value reached ended
  rw [Run.ask, run_get_bind, run_note_bind] at ended
  refine ⟨[.asked path], ?_, fun other member => ?_⟩
  · cases reply : resolver.reply journal.asked path with
    | ok answer =>
      rw [reply] at ended
      cases ended
      rfl
    | error message =>
      rw [reply] at ended
      cases ended
  · rw [List.mem_singleton.mp member]
    exact Or.inl List.mem_cons_self

/-- Below the cap a path is asked for where there is a resolver, and searched for where not. -/
theorem resolve_consults {pass : Nat} (below : pass < settings.maxPasses) (path : Text) :
    Consults [path] (resolve settings bindings pass path) := by
  rw [resolve, if_neg (Nat.not_le.mpr below)]
  cases settings.resolver with
  | none => exact search_consults path
  | some resolver =>
    refine Consults.followed (ask_consults resolver path)
      fun answer => (?_ : Adds IsQuestion _)
    cases answer with
    | some value => exact Adds.pure _
    | none => exact search_adds bindings path

/-- The path of a piece, as it is looked up. -/
def pathOfPiece (piece : Regex.Piece) : Text :=
  (piece.group.getD []).trim

theorem expand_consults {pass : Nat} (below : pass < settings.maxPasses) (piece : Regex.Piece) :
    Consults [pathOfPiece piece] (expand settings bindings pass piece) := by
  refine Consults.followed (resolve_consults below _)
    fun answer => (?_ : Adds IsSubstitution _)
  cases answer with
  | none =>
    dsimp only
    split
    · exact Adds.throw _
    · exact Adds.bind (Adds.note trivial) fun _ => Adds.pure _
  | some value =>
    dsimp only
    split
    · exact Adds.pure _
    · exact Adds.pure _

theorem expandAll_consults {pass : Nat} (below : pass < settings.maxPasses)
    (pieces : List Regex.Piece) :
    Consults (pieces.map pathOfPiece) (expandAll settings bindings pass pieces) := by
  induction pieces with
  | nil => exact Consults.pure _
  | cons piece later inductionHypothesis =>
    refine Consults.bind (expand_consults below piece) fun first => ?_
    exact Consults.followed inductionHypothesis fun others =>
      (Adds.pure _ : Adds IsQuestion _)

/-- A pass below the cap that comes to its end has asked or searched for the path of every
placeholder of its text. -/
theorem PassRecord.Made.consulted {record : PassRecord} (made : record.Made settings bindings)
    (below : record.number < settings.maxPasses) (ended : record.ending.isSome = true) :
    ∀ piece ∈ (settings.pattern.regex.cut record.text).pieces,
      .asked (pathOfPiece piece) ∈ record.body ∨ .searched (pathOfPiece piece) ∈ record.body := by
  obtain ⟨journal, result, passEnded, ending⟩ := made
  intro piece member
  rw [ending] at ended
  cases result with
  | error failure => cases ended
  | ok result =>
    obtain ⟨outcome, between, expanded, done⟩ := run_bind_ok passEnded
    cases done
    obtain ⟨added, grown, consulted⟩ := expandAll_consults below _ _ _ _ expanded
    rw [List.append_cancel_left grown]
    exact consulted _ (List.mem_map_of_mem member)

/-! ### From pass to pass -/

/-- A pass is the last one, or it has brought text in, its number is below the cap, and the next
pass follows. -/
theorem passes_step (remaining pass : Nat) (text : Text) (journal : Journal) :
    (∃ record : PassRecord, record.number = pass ∧
        PassesThrough settings bindings text journal [record]
          (run (passes settings bindings (remaining + 1) pass text) journal)) ∨
      pass < settings.maxPasses ∧ ∃ next body,
        run (onePass settings bindings pass text) journal =
            (.ok (next, true), journal ++ body) ∧
          run (passes settings bindings (remaining + 1) pass text) journal =
            run (passes settings bindings remaining (pass + 1) next)
              (journal ++ body ++ [.passComplete pass true]) := by
  obtain ⟨body, grown, _⟩ := onePass_adds settings bindings pass text journal
  rcases run_ends (onePass settings bindings pass text) journal with
    ⟨⟨next, changed⟩, reached, ended⟩ | ⟨failure, reached, ended⟩
  · rw [ended] at grown
    cases grown
    by_cases again : (changed && Text.includes settings.pattern.opening next) = true
    · obtain ⟨rfl, _⟩ := Bool.and_eq_true_iff.mp again
      refine Or.inr ⟨?_, next, body, ended, run_passes_of_again ended again⟩
      refine Nat.lt_of_not_le fun cap => ?_
      cases onePass_at_cap cap ended
    · refine Or.inl ⟨⟨pass, text, body, some changed⟩, rfl, ?_⟩
      rw [run_passes_of_stop ended again]
      exact PassesThrough.ends ended
  · rw [ended] at grown
    cases grown
    refine Or.inl ⟨⟨pass, text, body, none⟩, rfl, ?_⟩
    rw [run_passes_of_error ended]
    exact PassesThrough.fails ended

/-- The passes from the given one on, of which no more are allowed than up to the cap. -/
theorem passes_through {remaining pass : Nat} (counted : pass + remaining = settings.maxPasses)
    (text : Text) (journal : Journal) :
    ∃ log, PassesThrough settings bindings text journal log
        (run (passes settings bindings (remaining + 1) pass text) journal) ∧
      log.length ≤ remaining + 1 ∧
      log.map PassRecord.number = List.range' pass log.length ∧
      ∀ record ∈ log.dropLast, record.ending = some true := by
  induction remaining generalizing pass text journal with
  | zero =>
    rcases passes_step 0 pass text journal with ⟨record, numbered, through⟩ | ⟨below, _⟩
    · exact ⟨[record], through, Nat.le_refl 1, congrArg (fun number => [number]) numbered,
        fun _ member => absurd member List.not_mem_nil⟩
    · exact absurd counted (Nat.ne_of_lt below)
  | succ remaining inductionHypothesis =>
    rcases passes_step (remaining + 1) pass text journal with
      ⟨record, numbered, through⟩ | ⟨_, next, body, ended, goesOn⟩
    · exact ⟨[record], through, Nat.le_add_left 1 _, congrArg (fun number => [number]) numbered,
        fun _ member => absurd member List.not_mem_nil⟩
    · obtain ⟨later, through, short, numbered, changed⟩ := inductionHypothesis
        (show pass + 1 + remaining = settings.maxPasses by omega) next
        (journal ++ body ++ [.passComplete pass true])
      rw [← goesOn] at through
      refine ⟨⟨pass, text, body, some true⟩ :: later, PassesThrough.goesOn ended through,
        Nat.succ_le_succ short, ?_, ?_⟩
      · rw [List.map_cons, numbered, List.length_cons, List.range'_succ]
      · rw [List.dropLast_cons_of_ne_nil through.ne_nil]
        intro record member
        rcases List.mem_cons.mp member with rfl | behind
        · rfl
        · exact changed record behind

/-- The loop over passes is bounded by the cap, and it refuses exactly the last pass. With a cap of
zero a text is returned as it is and nothing is consulted. With any other cap the run is made of at
most as many passes as the cap says, numbered from one on without a gap. Every pass before the last
one comes to its end and reports change. A pass asks the resolver and searches the variables only if
its number is below the cap; if it is and the pass comes to its end, it has done so for every
placeholder. The pass with the number of the cap reports no change if it comes to its end. -/
theorem substitute_in_passes (settings : Settings) (bindings : Json) (text : Text)
    (journal : Journal) :
    (settings.maxPasses = 0 →
        run (substitute settings bindings text) journal =
          (.ok text, journal ++ [.stoppedAtCap 0])) ∧
      (0 < settings.maxPasses → ∃ log,
        PassesThrough settings bindings text journal log
            (run (substitute settings bindings text) journal) ∧
          log.length ≤ settings.maxPasses ∧
          log.map PassRecord.number = List.range' 1 log.length ∧
          (∀ record ∈ log.dropLast, record.ending = some true) ∧
          ∀ record ∈ log,
            (∀ entry ∈ record.body, OfPass settings record.number entry) ∧
              (record.number < settings.maxPasses → record.ending.isSome = true →
                ∀ piece ∈ (settings.pattern.regex.cut record.text).pieces,
                  .asked (pathOfPiece piece) ∈ record.body ∨
                    .searched (pathOfPiece piece) ∈ record.body) ∧
              (record.number = settings.maxPasses →
                ∀ changed ∈ record.ending, changed = false)) := by
  constructor
  · intro none
    rw [substitute, none, passes, run_note_bind, none]
    rfl
  · intro positive
    obtain ⟨remaining, cap⟩ : ∃ remaining, settings.maxPasses = remaining + 1 :=
      ⟨settings.maxPasses - 1, (Nat.sub_add_cancel positive).symm⟩
    obtain ⟨log, through, short, numbered, changed⟩ :=
      passes_through ((Nat.add_comm 1 remaining).trans cap.symm) text journal
    rw [← cap] at through short
    refine ⟨log, through, short, numbered, changed, fun record member => ?_⟩
    have made := through.made record member
    exact ⟨made.ofPass, made.consulted, made.at_cap⟩

/-- Answers every path with another placeholder. -/
def endlessResolver : Resolver where
  reply _ path := .ok (some (.string (defaultOpening ++ path ++ ['n'] ++ defaultClosing)))

example :
    (run (substitute { resolver := some endlessResolver, maxPasses := 3 } .null
        "{{n}}".toList) []).2 =
      [.asked "n".toList, .passComplete 1 true, .asked "nn".toList, .passComplete 2 true,
        .unresolved "nnn".toList 3, .passComplete 3 false] := by
  decide +kernel

end

end Stencil.Template
