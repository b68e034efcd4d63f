/-
This file proves what the parts of an expression say of the text that they lead over. Parts that
each match one character spell a text; an assertion between them takes no text, and a plus sign
repeats a character that the text holds once. Repeated, the character pushes away what stands on its
one side. So what the parts lead over still begins with the text if all that comes behind the
character is that character again, and it still ends with the text if all that comes before it is.

Beginnings and ends are one relation between the parts and the text that they spell. It says besides
whether the last part may be repeated, and is asked what may come before the text: nothing, or
anything. Where a text is only to occur, its last character may be repeated in any case, and is kept
apart.
-/

import Stencil.Proofs.SearchSound

namespace Stencil.Regex

/-! ### Single parts -/

/-- The expression matches one character, or that character several times. -/
inductive Expr.IsRun (character : Char) : Expr → Prop
  | one : IsRun character (.set (CharSet.single character))
  | more {body : Expr} {greedy : Bool} (run : IsRun character body) :
      IsRun character (.repetition body 1 none greedy)

/-- The expression takes no text. -/
def Expr.TakesNothing : Expr → Prop
  | .empty | .look _ => True
  | _ => False

theorem Expr.TakesNothing.repeated {expr : Expr} (takes : expr.TakesNothing) (greedy : Bool) :
    expr.repeated 1 none greedy = expr := by
  cases expr with
  | empty => rfl
  | look assertion => rfl
  | _ => exact takes.elim

theorem Expr.IsRun.repeated {character : Char} {expr : Expr} (run : expr.IsRun character)
    (greedy : Bool) : (expr.repeated 1 none greedy).IsRun character := by
  have takesText : expr.matchesOnlyEmpty = false := by
    induction run with
    | one => rfl
    | more run inductionHypothesis => exact inductionHypothesis
  rw [Expr.repeated, takesText]
  exact IsRun.more run

theorem Expr.TakesNothing.stays {expr : Expr} (takes : expr.TakesNothing) {next : Nat}
    {start stop : Cursor} (leads : (Node.ofExpr expr next).1.Leads start stop) : start = stop := by
  cases expr with
  | empty =>
    cases leads
    rfl
  | look assertion =>
    cases leads
    rfl
  | _ => exact takes.elim

theorem Expr.IsRun.leads_over {character : Char} {expr : Expr} (run : expr.IsRun character)
    {next : Nat} {start stop : Cursor} (leads : (Node.ofExpr expr next).1.Leads start stop) :
    ∃ times, start.rest = List.replicate (times + 1) character ++ stop.rest := by
  induction run generalizing next start stop with
  | one =>
    cases leads with
    | set ahead member =>
      rw [ahead, beq_iff_eq.mp member]
      exact ⟨0, rfl⟩
  | more run inductionHypothesis =>
    rename_i body greedy
    have loop : (Node.ofExpr (.repetition body 1 none greedy) next).1 =
        .loop next (Node.ofExpr body (next + 1)).1 greedy := rfl
    rw [loop] at leads
    generalize turning : Node.loop next (Node.ofExpr body (next + 1)).1 greedy = node at leads
    induction leads with
    | lastTurn leads =>
      cases turning
      exact inductionHypothesis leads
    | nextTurn leads leadsOn _ laterTurns =>
      obtain ⟨later, restLater⟩ := laterTurns turning
      cases turning
      obtain ⟨times, rest⟩ := inductionHypothesis leads
      refine ⟨times + 1 + later, ?_⟩
      rw [rest, restLater, ← List.append_assoc, List.replicate_append_replicate]
      rfl
    | _ => cases turning

/-! ### Parts in a row -/

/-- Expressions one after another lead from one position to another. -/
inductive LeadsAlong : List Expr → Cursor → Cursor → Prop
  | nil {cursor : Cursor} : LeadsAlong [] cursor cursor
  | cons {expr : Expr} {rest : List Expr} {next : Nat} {start between stop : Cursor}
      (leads : (Node.ofExpr expr next).1.Leads start between)
      (leadsOn : LeadsAlong rest between stop) : LeadsAlong (expr :: rest) start stop

theorem LeadsAlong.of_append {first second : List Expr} {start stop : Cursor}
    (leads : LeadsAlong (first ++ second) start stop) :
    ∃ between, LeadsAlong first start between ∧ LeadsAlong second between stop := by
  induction first generalizing start with
  | nil => exact ⟨start, LeadsAlong.nil, leads⟩
  | cons expr first inductionHypothesis =>
    cases leads with
    | cons leads leadsOn =>
      obtain ⟨between, along, behind⟩ := inductionHypothesis leadsOn
      exact ⟨between, LeadsAlong.cons leads along, behind⟩

theorem LeadsAlong.of_concat {expr : Expr} {before : List Expr} {start stop : Cursor}
    (leads : LeadsAlong (expr :: before).reverse start stop) :
    ∃ between next, LeadsAlong before.reverse start between ∧
      (Node.ofExpr expr next).1.Leads between stop := by
  rw [List.reverse_cons] at leads
  obtain ⟨between, along, last⟩ := leads.of_append
  cases last with
  | cons leads done =>
    cases done
    exact ⟨between, _, along, leads⟩

/-- A sequence of expressions leads along them. -/
theorem leadsAlong_of_cats {exprs : List Expr} {next : Nat} {start stop : Cursor}
    (leads : (Node.ofExpr (Expr.cats exprs) next).1.Leads start stop) :
    LeadsAlong exprs start stop := by
  induction exprs generalizing next start with
  | nil =>
    cases leads
    exact LeadsAlong.nil
  | cons expr exprs inductionHypothesis =>
    cases exprs with
    | nil => exact LeadsAlong.cons leads LeadsAlong.nil
    | cons second rest =>
      cases leads with
      | cat leads leadsOn => exact LeadsAlong.cons leads (inductionHypothesis leadsOn)

/-- A program leads over text that stands where it starts. -/
theorem Node.Leads.suffix {node : Node} {start stop : Cursor} (leads : node.Leads start stop) :
    stop.rest <:+ start.rest := by
  induction leads with
  | empty => exact List.suffix_refl _
  | set next _ =>
    rw [next]
    exact List.suffix_cons _ _
  | look _ => exact List.suffix_refl _
  | capture _ inductionHypothesis => exact inductionHypothesis
  | cat _ _ first second => exact second.trans first
  | choiceFirst _ inductionHypothesis => exact inductionHypothesis
  | choiceSecond _ inductionHypothesis => exact inductionHypothesis
  | lastTurn _ inductionHypothesis => exact inductionHypothesis
  | nextTurn _ _ turn later => exact later.trans turn

theorem LeadsAlong.suffix {exprs : List Expr} {start stop : Cursor}
    (along : LeadsAlong exprs start stop) : stop.rest <:+ start.rest := by
  induction along with
  | nil => exact List.suffix_refl _
  | cons leads _ inductionHypothesis => exact inductionHypothesis.trans leads.suffix

/-! ### Parts that spell a text at an end -/

/-- Expressions, the last one first, that spell a text behind others, which are `free`; and whether
the last of them may be repeated. A character is repeated where that is `harmless` to the text
before it. -/
inductive Spelled (free : List Expr → Prop) (harmless : Text → Char → Bool) :
    List Expr → Text → Bool → Prop
  | start {exprs : List Expr} (others : free exprs) : Spelled free harmless exprs [] true
  | nothing {expr : Expr} {before : List Expr} {text : Text} {again : Bool}
      (takes : expr.TakesNothing) (spelled : Spelled free harmless before text again) :
      Spelled free harmless (expr :: before) text true
  | one {before : List Expr} {text : Text} {again : Bool} (character : Char)
      (spelled : Spelled free harmless before text again) :
      Spelled free harmless (.set (CharSet.single character) :: before) (text ++ [character])
        (harmless text character)
  | run {expr : Expr} {before : List Expr} {text : Text} {again : Bool} {character : Char}
      (run : expr.IsRun character) (allowed : harmless text character = true)
      (spelled : Spelled free harmless before text again) :
      Spelled free harmless (expr :: before) (text ++ [character]) true

/-- The character and nothing else stands in the opening delimiter behind a text and it. -/
def fillsRest (opening text : Text) (character : Char) : Bool :=
  (opening.drop (text.length + 1)).all (· == character)

/-- The character and nothing else stands in the text before it. -/
def fillsStart (text : Text) (character : Char) : Bool :=
  text.all (· == character)

/-- Expressions that lead over what the opening delimiter begins with, from their start on. -/
abbrev BeginsWith (opening : Text) : List Expr → Text → Bool → Prop :=
  Spelled (· = []) (fillsRest opening)

/-- Expressions that lead over a text at their end. -/
abbrev EndsWith : List Expr → Text → Bool → Prop :=
  Spelled (fun _ => True) fillsStart

/-- A plus sign behind a part that may be repeated. -/
theorem Spelled.repeated {free : List Expr → Prop} {harmless : Text → Char → Bool} {last : Expr}
    {before : List Expr} {text : Text} {again greedy : Bool}
    (stays : free (last :: before) → free (last.repeated 1 none greedy :: before))
    (spelled : Spelled free harmless (last :: before) text again) (may : again = true) :
    Spelled free harmless (last.repeated 1 none greedy :: before) text true := by
  cases spelled with
  | start others => exact start (stays others)
  | nothing takes spelled =>
    rw [takes.repeated]
    exact nothing takes spelled
  | one character spelled => exact run (Expr.IsRun.one.repeated greedy) may spelled
  | run isRun allowed spelled => exact run (isRun.repeated greedy) allowed spelled

theorem BeginsWith.repeated {opening text : Text} {last : Expr} {before : List Expr}
    (begins : BeginsWith opening (last :: before) text true) (greedy : Bool) :
    BeginsWith opening (last.repeated 1 none greedy :: before) text true :=
  Spelled.repeated (fun none => absurd none (List.cons_ne_nil _ _)) begins rfl

theorem EndsWith.repeated {text : Text} {last : Expr} {before : List Expr}
    (ends : EndsWith (last :: before) text true) (greedy : Bool) :
    EndsWith (last.repeated 1 none greedy :: before) text true :=
  Spelled.repeated (fun _ => trivial) ends rfl

/-! ### What such parts lead over -/

section

variable {exprs : List Expr} {text : Text} {again : Bool} {start stop : Cursor}

theorem eq_replicate_of_all {character : Char} (fills : text.all (· == character) = true) :
    text = List.replicate text.length character :=
  List.eq_replicate_of_mem fun _ member => beq_iff_eq.mp (List.all_eq_true.mp fills _ member)

/-- What the parts lead over begins with the delimiter, once the rest of it is read as well. -/
theorem BeginsWith.leads_over {opening : Text} (begins : BeginsWith opening exprs text again)
    (written : text <+: opening) (along : LeadsAlong exprs.reverse start stop) :
    ∃ taken, start.rest = taken ++ stop.rest ∧ opening <+: taken ++ opening.drop text.length := by
  induction begins generalizing stop with
  | start none =>
    subst none
    cases along
    exact ⟨[], rfl, List.prefix_refl _⟩
  | nothing takes _ inductionHypothesis =>
    obtain ⟨between, _, along, leads⟩ := along.of_concat
    rw [← takes.stays leads]
    exact inductionHypothesis written along
  | @one before text again character _ inductionHypothesis =>
    obtain ⟨between, _, along, leads⟩ := along.of_concat
    obtain ⟨taken, rest, front⟩ := inductionHypothesis
      ((List.prefix_append text [character]).trans written) along
    obtain ⟨later, rfl⟩ := written
    cases leads with
    | set ahead member =>
      rw [ahead, beq_iff_eq.mp member] at rest
      refine ⟨taken ++ [character], ?_, ?_⟩
      · rw [rest, List.append_assoc]
        rfl
      · rw [List.append_assoc text, List.drop_left] at front
        rw [List.drop_left, List.append_assoc taken, List.append_assoc text]
        exact front
  | @run expr before text again character isRun allowed _ inductionHypothesis =>
    obtain ⟨between, _, along, leads⟩ := along.of_concat
    obtain ⟨taken, rest, front⟩ := inductionHypothesis
      ((List.prefix_append text [character]).trans written) along
    obtain ⟨later, rfl⟩ := written
    obtain ⟨times, behind⟩ := isRun.leads_over leads
    refine ⟨taken ++ List.replicate (times + 1) character, ?_, ?_⟩
    · rw [rest, behind, List.append_assoc]
    · have fills : later = List.replicate later.length character := by
        refine eq_replicate_of_all ?_
        rw [fillsRest, ← List.length_singleton (a := character), ← List.length_append,
          List.drop_left] at allowed
        exact allowed
      rw [List.append_assoc text, List.drop_left] at front
      rw [List.drop_left, List.append_assoc text]
      refine front.trans ?_
      -- however often the character stands there, one of it and the rest are no longer
      refine ⟨List.replicate times character, ?_⟩
      rw [fills, List.append_assoc taken, List.append_assoc taken, ← List.replicate_one,
        List.replicate_append_replicate, List.replicate_append_replicate,
        List.replicate_append_replicate]
      congr 2
      omega

/-- What the parts lead over ends with the text that they spell at their end. -/
theorem EndsWith.leads_over (ends : EndsWith exprs text again)
    (along : LeadsAlong exprs.reverse start stop) :
    ∃ taken, start.rest = taken ++ stop.rest ∧ text <:+ taken := by
  induction ends generalizing stop with
  | start _ =>
    obtain ⟨taken, rest⟩ := along.suffix
    exact ⟨taken, rest.symm, List.nil_suffix⟩
  | nothing takes _ inductionHypothesis =>
    obtain ⟨between, _, along, leads⟩ := along.of_concat
    rw [← takes.stays leads]
    exact inductionHypothesis along
  | one character _ inductionHypothesis =>
    obtain ⟨between, _, along, leads⟩ := along.of_concat
    obtain ⟨taken, rest, before, rfl⟩ := inductionHypothesis along
    cases leads with
    | set ahead member =>
      rw [ahead, beq_iff_eq.mp member] at rest
      refine ⟨before ++ _ ++ [character], ?_, before, (List.append_assoc _ _ _).symm⟩
      rw [rest, List.append_assoc _ [character]]
      rfl
  | @run expr before text again character isRun allowed _ inductionHypothesis =>
    obtain ⟨between, _, along, leads⟩ := along.of_concat
    obtain ⟨taken, rest, front, rfl⟩ := inductionHypothesis along
    obtain ⟨times, behind⟩ := isRun.leads_over leads
    refine ⟨front ++ text ++ List.replicate (times + 1) character, ?_,
      front ++ List.replicate times character, ?_⟩
    · rw [rest, behind, List.append_assoc (front ++ text)]
    · have fills := eq_replicate_of_all allowed
      rw [fills, List.append_assoc front, List.append_assoc front, ← List.replicate_one,
        List.replicate_append_replicate, List.replicate_append_replicate,
        List.replicate_append_replicate]
      congr 2
      omega

end

/-! ### Parts that spell a text somewhere -/

/-- Expressions, the last one first, that together match only what ends with the text. -/
inductive Spells : List Expr → Text → Prop
  | nil : Spells [] []
  | nothing {expr : Expr} {before : List Expr} {text : Text} (takes : expr.TakesNothing)
      (spells : Spells before text) : Spells (expr :: before) text
  | one {before : List Expr} {text : Text} (character : Char) (spells : Spells before text) :
      Spells (.set (CharSet.single character) :: before) (text ++ [character])
  | run {expr : Expr} {before : List Expr} {character : Char} (run : expr.IsRun character)
      (spells : Spells before []) : Spells (expr :: before) [character]

/-- Expressions, the last one first, that spell all of a text but its last character, and then match
this character, perhaps several times. -/
def SpellsRun (exprs : List Expr) (text : Text) : Prop :=
  ∃ expr before start character, exprs = expr :: before ∧ expr.IsRun character ∧
    Spells before start ∧ text = start ++ [character]

/-- A plus sign behind the first character, or before it, does no harm. -/
theorem Spells.repeated {last : Expr} {before : List Expr} {text : Text}
    (spells : Spells (last :: before) text) (short : text.length ≤ 1) (greedy : Bool) :
    Spells (last.repeated 1 none greedy :: before) text := by
  cases spells with
  | nothing takes spells =>
    rw [takes.repeated]
    exact nothing takes spells
  | one character spells =>
    rename_i text
    rw [List.length_append, List.length_singleton] at short
    have none : text = [] := List.length_eq_zero_iff.mp (by omega)
    subst none
    exact run (Expr.IsRun.one.repeated greedy) spells
  | run runs spells => exact run (runs.repeated greedy) spells

theorem SpellsRun.repeated {last : Expr} {before : List Expr} {text : Text}
    (spells : SpellsRun (last :: before) text) (greedy : Bool) :
    SpellsRun (last.repeated 1 none greedy :: before) text := by
  obtain ⟨expr, earlier, start, character, same, run, spellsBefore, written⟩ := spells
  cases same
  exact ⟨_, _, start, character, rfl, run.repeated greedy, spellsBefore, written⟩

/-- A text that expressions spell is one that they end with. -/
theorem Spells.endsWith {exprs : List Expr} {text : Text} (spells : Spells exprs text) :
    ∃ again, EndsWith exprs text again := by
  induction spells with
  | nil => exact ⟨true, Spelled.start trivial⟩
  | nothing takes _ inductionHypothesis =>
    obtain ⟨again, ends⟩ := inductionHypothesis
    exact ⟨true, Spelled.nothing takes ends⟩
  | one character _ inductionHypothesis =>
    obtain ⟨again, ends⟩ := inductionHypothesis
    exact ⟨_, Spelled.one character ends⟩
  | run isRun _ inductionHypothesis =>
    obtain ⟨again, ends⟩ := inductionHypothesis
    exact ⟨true, Spelled.run isRun rfl ends⟩

/-- A text that expressions spell, perhaps with its last character several times, occurs where they
lead on. -/
theorem SpellsRun.infix_of_leads {exprs others : List Expr} {text : Text}
    (spells : SpellsRun exprs text) {next : Nat} {start stop : Cursor}
    (leads : (Node.ofExpr (Expr.cats (exprs.reverse ++ others)) next).1.Leads start stop) :
    text <:+: start.rest := by
  obtain ⟨expr, before, spelled, character, rfl, run, spellsBefore, rfl⟩ := spells
  obtain ⟨reached, along, _⟩ := (leadsAlong_of_cats leads).of_append
  obtain ⟨between, _, alongBefore, leadsRun⟩ := along.of_concat
  obtain ⟨again, ends⟩ := spellsBefore.endsWith
  obtain ⟨taken, rest, front, rfl⟩ := ends.leads_over alongBefore
  obtain ⟨times, behind⟩ := run.leads_over leadsRun
  refine ⟨front, List.replicate times character ++ reached.rest, ?_⟩
  rw [rest, behind, List.replicate_succ]
  simp only [List.append_assoc, List.cons_append, List.nil_append]

end Stencil.Regex
