/-
This file proves that a search finds only what its program says: where a search finds a match, the
program leads from the place where the match starts to the place where it ends. The relation `Leads`
says so without the order in which ways are tried, without the places that a search has passed and
without a bound on the turns of a loop. A search may miss a way that leads on, since it gives up a
way that comes to a place a second time; so there is no converse here.

A node is asked with any way behind it, because then the statement goes through nodes in a row: if
the way through a node finds a match, the node leads somewhere from where the way behind it finds
that match. Behind the whole program stands the way that ends a match where it is, so the program
leads to where the match ends.
-/

import Stencil.Proofs.CutPieces

namespace Stencil.Regex

/-! ### Where a program leads -/

/-- The node leads from one position in a text to another. -/
inductive Node.Leads : Node → Cursor → Cursor → Prop
  | empty {cursor : Cursor} : Leads .empty cursor cursor
  | set {members : CharSet} {cursor : Cursor} {character : Char} {rest : Text}
      (next : cursor.rest = character :: rest) (member : members character = true) :
      Leads (.set members) cursor (cursor.advance character rest)
  | look {assertion : Look} {cursor : Cursor}
      (holds : assertion.holds cursor.before cursor.rest.head? = true) :
      Leads (.look assertion) cursor cursor
  | capture {body : Node} {start stop : Cursor} (leads : Leads body start stop) :
      Leads (.capture body) start stop
  | cat {first second : Node} {start between stop : Cursor} (leads : Leads first start between)
      (leadsOn : Leads second between stop) : Leads (.cat first second) start stop
  | choiceFirst {join : Nat} {first second : Node} {start stop : Cursor}
      (leads : Leads first start stop) : Leads (.choice join first second) start stop
  | choiceSecond {join : Nat} {first second : Node} {start stop : Cursor}
      (leads : Leads second start stop) : Leads (.choice join first second) start stop
  | lastTurn {turn : Nat} {body : Node} {greedy : Bool} {start stop : Cursor}
      (leads : Leads body start stop) : Leads (.loop turn body greedy) start stop
  | nextTurn {turn : Nat} {body : Node} {greedy : Bool} {start between stop : Cursor}
      (leads : Leads body start between)
      (leadsOn : Leads (.loop turn body greedy) between stop) :
      Leads (.loop turn body greedy) start stop

/-! ### Ways that find a match -/

/-- The way finds the match from the position, for some group and some places passed before. -/
def Way.FindsFrom (way : Way) (cursor : Cursor) (hit : Hit) : Prop :=
  ∃ group passed, (way cursor group passed).1 = some hit

namespace Way

variable {hit : Hit}

theorem not_findsFrom_closed (cursor : Cursor) : ¬ closed.FindsFrom cursor hit := by
  rintro ⟨group, passed, found⟩
  cases found

theorem FindsFrom.of_orElse {first second : Way} {cursor : Cursor}
    (finds : (orElse first second).FindsFrom cursor hit) :
    first.FindsFrom cursor hit ∨ second.FindsFrom cursor hit := by
  obtain ⟨group, passed, found⟩ := finds
  rw [orElse] at found
  split at found
  · rename_i ended
    exact Or.inl ⟨group, passed, by rw [ended]; exact found⟩
  · exact Or.inr ⟨group, _, found⟩

theorem FindsFrom.of_once {way : Way} {places place : Nat} {cursor : Cursor}
    (finds : (once places place way).FindsFrom cursor hit) : way.FindsFrom cursor hit := by
  obtain ⟨group, passed, found⟩ := finds
  rw [once] at found
  split at found
  · cases found
  · exact ⟨group, _, found⟩

/-- After an iteration the way goes around the loop again or out of it. -/
theorem findsFrom_of_turn {again out : Way} {greedy : Bool} {cursor : Cursor}
    {group : Option Text} {passed : Passed}
    (found : ((if greedy = true then orElse again out cursor else orElse out again cursor) group
      passed).1 = some hit) : again.FindsFrom cursor hit ∨ out.FindsFrom cursor hit := by
  cases greedy with
  | true => exact FindsFrom.of_orElse ⟨group, passed, found⟩
  | false => exact (FindsFrom.of_orElse ⟨group, passed, found⟩).symm

end Way

/-! ### Searches are sound -/

namespace Node

variable {places fuel : Nat} {hit : Hit}

/-- If the way through a loop finds a match, the loop leads to where the way out of it does. -/
theorem leads_of_iterate {turn : Nat} {body : Node} {greedy : Bool} {out : Way}
    (sound : ∀ way cursor, (body.through places fuel way).FindsFrom cursor hit →
      ∃ stop, body.Leads cursor stop ∧ way.FindsFrom stop hit) (entry turns : Nat)
    (cursor : Cursor)
    (finds : (Way.iterate places turn greedy (body.through places fuel) out entry turns).FindsFrom
      cursor hit) :
    ∃ stop, (Node.loop turn body greedy).Leads cursor stop ∧ out.FindsFrom stop hit := by
  induction turns generalizing cursor with
  | zero => exact absurd finds (Way.not_findsFrom_closed cursor)
  | succ turns inductionHypothesis =>
    obtain ⟨between, leads, onward⟩ := sound _ cursor finds
    obtain ⟨group, passed, found⟩ := onward.of_once
    rcases Way.findsFrom_of_turn found with again | ended
    · split at again
      · exact absurd again (Way.not_findsFrom_closed between)
      · obtain ⟨stop, leadsOn, finds⟩ := inductionHypothesis between again
        exact ⟨stop, Leads.nextTurn leads leadsOn, finds⟩
    · exact ⟨between, Leads.lastTurn leads, ended⟩

/-- If the way through a node finds a match, the node leads to where the way behind it does. -/
theorem leads_of_through (node : Node) (way : Way) (cursor : Cursor)
    (finds : (node.through places fuel way).FindsFrom cursor hit) :
    ∃ stop, node.Leads cursor stop ∧ way.FindsFrom stop hit := by
  induction node generalizing way cursor with
  | empty => exact ⟨cursor, Leads.empty, finds⟩
  | set members =>
    obtain ⟨group, passed, found⟩ := finds
    rw [through] at found
    dsimp only at found
    split at found
    · cases found
    · rename_i character rest next
      split at found
      · rename_i member
        exact ⟨_, Leads.set next member, group, passed, found⟩
      · cases found
  | look assertion =>
    obtain ⟨group, passed, found⟩ := finds
    rw [through] at found
    dsimp only at found
    split at found
    · rename_i holds
      exact ⟨cursor, Leads.look holds, group, passed, found⟩
    · cases found
  | capture body inductionHypothesis =>
    obtain ⟨group, passed, found⟩ := finds
    obtain ⟨stop, leads, _, passedLater, foundLater⟩ :=
      inductionHypothesis _ cursor ⟨group, passed, found⟩
    exact ⟨stop, Leads.capture leads, _, passedLater, foundLater⟩
  | cat first second firstSound secondSound =>
    obtain ⟨between, leads, finds⟩ := firstSound _ cursor finds
    obtain ⟨stop, leadsOn, finds⟩ := secondSound _ between finds
    exact ⟨stop, Leads.cat leads leadsOn, finds⟩
  | choice join first second firstSound secondSound =>
    rcases Way.FindsFrom.of_orElse finds with findsFirst | findsSecond
    · obtain ⟨stop, leads, finds⟩ := firstSound _ cursor findsFirst
      exact ⟨stop, Leads.choiceFirst leads, finds.of_once⟩
    · obtain ⟨stop, leads, finds⟩ := secondSound _ cursor findsSecond
      exact ⟨stop, Leads.choiceSecond leads, finds.of_once⟩
  | loop turn body greedy sound =>
    obtain ⟨group, passed, found⟩ := finds
    exact leads_of_iterate sound cursor.position fuel cursor ⟨group, passed, found⟩

end Node

/-! ### Cuts -/

namespace Program

variable {program : Program}

/-- The program leads over the text from some position of a text. -/
def LeadsOver (program : Program) (whole text : Text) : Prop :=
  ∃ start stop, program.node.Leads start stop ∧ start.rest <:+ text ∧
    start.rest = whole ++ stop.rest

theorem LeadsOver.trans {whole text longer : Text} (leadsOver : program.LeadsOver whole text)
    (ends : text <:+ longer) : program.LeadsOver whole longer := by
  obtain ⟨start, stop, leads, inside, rest⟩ := leadsOver
  exact ⟨start, stop, leads, inside.trans ends, rest⟩

/-- A match at the start of a text is what the program leads over there. -/
theorem leadsOver_of_matchAt {before : Option Char} {text : Text} {hit : Hit}
    (matched : program.matchAt before text = some hit) :
    program.LeadsOver (text.take hit.stop.position) text := by
  obtain ⟨stop, leads, _, _, ended⟩ := Node.leads_of_through _ _ _ ⟨none, 0, matched⟩
  cases ended
  refine ⟨⟨before, text, 0⟩, stop, leads, List.suffix_refl text, ?_⟩
  rw [(program.matchAt_liesIn matched).1.rest_eq, List.take_append_drop]

theorem leadsOver_of_find {before : Option Char} {text : Text} {found : Found}
    (finds : program.find before text = some found) : program.LeadsOver found.whole text := by
  induction text generalizing before found with
  | nil =>
    obtain ⟨hit, matched, rfl⟩ := Option.map_eq_some_iff.mp finds
    have leadsOver := leadsOver_of_matchAt matched
    rw [List.take_nil] at leadsOver
    exact leadsOver
  | cons head tail inductionHypothesis =>
    rw [find] at finds
    split at finds
    · rename_i hit matched
      cases finds
      exact leadsOver_of_matchAt matched
    · obtain ⟨later, findsLater, rfl⟩ := Option.map_eq_some_iff.mp finds
      exact (inductionHypothesis findsLater).trans (List.suffix_cons head tail)

theorem leadsOver_of_next {afterMatch : Bool} {before : Option Char} {text : Text}
    {found : Found} (finds : program.next afterMatch before text = some found) :
    program.LeadsOver found.whole text := by
  unfold next at finds
  split at finds
  · cases finds
  · rename_i first findsFirst
    split at finds
    · cases text with
      | nil => cases finds
      | cons head tail =>
        obtain ⟨later, findsLater, rfl⟩ := Option.map_eq_some_iff.mp finds
        exact (leadsOver_of_find findsLater).trans (List.suffix_cons head tail)
    · cases finds
      exact leadsOver_of_find findsFirst

/-- The program leads over every piece that it cuts out of a text. -/
theorem leadsOver_of_mem_cut {fuel : Nat} {afterMatch : Bool} {before : Option Char} {text : Text}
    {piece : Piece} (member : piece ∈ (program.cut fuel afterMatch before text).pieces) :
    program.LeadsOver piece.whole text := by
  induction fuel generalizing afterMatch before text with
  | zero => exact absurd member List.not_mem_nil
  | succ fuel inductionHypothesis =>
    rw [cut] at member
    split at member
    · exact absurd member List.not_mem_nil
    · rename_i found finds
      rcases List.mem_cons.mp member with rfl | later
      · exact leadsOver_of_next finds
      · exact (inductionHypothesis later).trans ⟨_, (program.next_written finds).1⟩

end Program

/-- Every piece of a text is one that the program leads over. -/
theorem leadsOver_of_mem_cut {regex : Regex} {text : Text} {piece : Piece}
    (member : piece ∈ (regex.cut text).pieces) : regex.program.LeadsOver piece.whole text :=
  Program.leadsOver_of_mem_cut member

end Stencil.Regex
