/-
This file proves that the pieces which an expression cuts a text into, and the tail, one after
another, are the text, and that the text of a group stands in the text as it is.

A search only moves on in its text: wherever it comes to, what it has before it is the text without
as many characters as it has passed. This holds of every way that a node leads through if it holds
of the way on, whatever places have been passed already; so it holds where a match ends.
-/

import Mathlib.Data.List.Infix
import Stencil.Regex.Pieces

namespace Stencil.Regex

/-! ### Positions in a text -/

/-- The position lies in the text, and the rest of the text stands behind it. -/
structure Cursor.LiesIn (cursor : Cursor) (text : Text) : Prop where
  position_le : cursor.position ≤ text.length
  rest_eq : cursor.rest = text.drop cursor.position

/-- The text of a group, if it took part, stands in the text. -/
def StandsIn (group : Option Text) (text : Text) : Prop :=
  ∀ part ∈ group, part <:+: text

theorem standsIn_none (text : Text) : StandsIn none text :=
  fun _ member => by cases member

theorem Cursor.LiesIn.advance {cursor : Cursor} {text : Text} (lies : cursor.LiesIn text)
    {character : Char} {rest : Text} (next : cursor.rest = character :: rest) :
    (cursor.advance character rest).LiesIn text := by
  have behind : text.drop cursor.position = character :: rest := lies.rest_eq.symm.trans next
  have inside : cursor.position < text.length := by
    rw [← Nat.not_le, ← List.drop_eq_nil_iff, behind]
    exact List.cons_ne_nil _ _
  refine ⟨inside, ?_⟩
  show rest = text.drop (cursor.position + 1)
  rw [← List.tail_drop, behind]
  rfl

/-! ### Ways stay in the text -/

/-- Every match that the way leads to from inside the text ends inside it, and its group stands in
it. -/
def Way.StaysIn (way : Way) (text : Text) : Prop :=
  ∀ cursor group passed hit, Cursor.LiesIn cursor text → StandsIn group text →
    (way cursor group passed).1 = some hit → hit.stop.LiesIn text ∧ StandsIn hit.group text

namespace Way.StaysIn

variable {text : Text} {first second way out : Way}

theorem done : Way.StaysIn Way.done text := by
  intro cursor group passed hit lies stands found
  cases found
  exact ⟨lies, stands⟩

theorem closed : Way.StaysIn Way.closed text :=
  fun _ _ _ _ _ _ found => by cases found

theorem orElse (firstStays : first.StaysIn text) (secondStays : second.StaysIn text) :
    (Way.orElse first second).StaysIn text := by
  intro cursor group passed hit lies stands found
  rw [Way.orElse] at found
  split at found
  · rename_i ended
    exact firstStays cursor group passed hit lies stands (by rw [ended]; exact found)
  · exact secondStays cursor group _ hit lies stands found

theorem once (stays : way.StaysIn text) (places place : Nat) :
    (Way.once places place way).StaysIn text := by
  intro cursor group passed hit lies stands found
  rw [Way.once] at found
  split at found
  · cases found
  · exact stays cursor group _ hit lies stands found

/-- The ways out of a loop and around it stay in the text if one iteration does. -/
theorem iterate {body : Way → Way} (bodyStays : ∀ way, way.StaysIn text → (body way).StaysIn text)
    (outStays : out.StaysIn text) (places turn : Nat) (greedy : Bool) (entry fuel : Nat) :
    (Way.iterate places turn greedy body out entry fuel).StaysIn text := by
  induction fuel with
  | zero => exact closed
  | succ fuel inductionHypothesis =>
    refine bodyStays _ (once ?_ places turn)
    intro cursor group passed hit lies stands found
    have again : (if cursor.position = entry then Way.closed
        else Way.iterate places turn greedy body out entry fuel).StaysIn text := by
      split
      · exact closed
      · exact inductionHypothesis
    dsimp only at found
    split at found
    · exact orElse again outStays cursor group passed hit lies stands found
    · exact orElse outStays again cursor group passed hit lies stands found

end Way.StaysIn

/-- The way through a node stays in the text if the way on does. -/
theorem Node.through_staysIn {text : Text} (places fuel : Nat) (node : Node) :
    ∀ way, Way.StaysIn way text → (node.through places fuel way).StaysIn text := by
  induction node with
  | empty => exact fun way stays => stays
  | set members =>
    intro way stays cursor group passed hit lies stands found
    rw [through] at found
    dsimp only at found
    split at found
    · cases found
    · rename_i next
      split at found
      · exact stays _ group passed hit (lies.advance next) stands found
      · cases found
  | look assertion =>
    intro way stays cursor group passed hit lies stands found
    rw [through] at found
    dsimp only at found
    split at found
    · exact stays cursor group passed hit lies stands found
    · cases found
  | capture body inductionHypothesis =>
    intro way stays opening group passed hit lies stands found
    refine inductionHypothesis _ ?_ opening group passed hit lies stands found
    intro closing _ passed hit liesToo _ found
    refine stays closing _ passed hit liesToo ?_ found
    rintro part ⟨⟩
    have taken := List.take_prefix (closing.position - opening.position) opening.rest
    have behind := List.drop_suffix opening.position text
    rw [← lies.rest_eq] at behind
    exact taken.isInfix.trans behind.isInfix
  | cat first second firstStays secondStays =>
    exact fun way stays => firstStays _ (secondStays _ stays)
  | choice join first second firstStays secondStays =>
    intro way stays
    exact Way.StaysIn.orElse (firstStays _ (stays.once places join))
      (secondStays _ (stays.once places join))
  | loop turn body greedy inductionHypothesis =>
    intro way stays cursor group passed hit lies stands found
    exact Way.StaysIn.iterate inductionHypothesis stays places turn greedy cursor.position fuel
      cursor group passed hit lies stands found

/-! ### Matches -/

namespace Program

variable (program : Program)

theorem matchAt_liesIn {before : Option Char} {text : Text} {hit : Hit}
    (found : program.matchAt before text = some hit) :
    hit.stop.LiesIn text ∧ StandsIn hit.group text :=
  program.node.through_staysIn program.places _ Way.done Way.StaysIn.done _ none 0 hit
    ⟨Nat.zero_le _, rfl⟩ (standsIn_none text) found

/-- What a search skips, what it matches and what is left are the text. -/
theorem find_written {before : Option Char} {text : Text} {found : Found}
    (finds : program.find before text = some found) :
    found.skipped ++ found.whole ++ found.rest = text ∧ StandsIn found.group text := by
  induction text generalizing before found with
  | nil =>
    obtain ⟨hit, matched, rfl⟩ := Option.map_eq_some_iff.mp finds
    exact ⟨rfl, (program.matchAt_liesIn matched).2⟩
  | cons head tail inductionHypothesis =>
    rw [find] at finds
    split at finds
    · rename_i hit matched
      cases finds
      obtain ⟨lies, stands⟩ := program.matchAt_liesIn matched
      refine ⟨?_, stands⟩
      show [] ++ (head :: tail).take hit.stop.position ++ hit.stop.rest = head :: tail
      rw [lies.rest_eq, List.nil_append, List.take_append_drop]
    · obtain ⟨later, findsLater, rfl⟩ := Option.map_eq_some_iff.mp finds
      obtain ⟨written, stands⟩ := inductionHypothesis findsLater
      refine ⟨congrArg (head :: ·) written, fun part member => ?_⟩
      exact (stands part member).trans (List.suffix_cons head tail).isInfix

theorem next_written {afterMatch : Bool} {before : Option Char} {text : Text} {found : Found}
    (finds : program.next afterMatch before text = some found) :
    found.skipped ++ found.whole ++ found.rest = text ∧ StandsIn found.group text := by
  unfold next at finds
  split at finds
  · cases finds
  · rename_i first findsFirst
    split at finds
    · cases text with
      | nil => cases finds
      | cons head tail =>
        obtain ⟨later, findsLater, rfl⟩ := Option.map_eq_some_iff.mp finds
        obtain ⟨written, stands⟩ := program.find_written findsLater
        refine ⟨congrArg (head :: ·) written, fun part member => ?_⟩
        exact (stands part member).trans (List.suffix_cons head tail).isInfix
    · cases finds
      exact program.find_written findsFirst

end Program

/-! ### Pieces -/

/-- The text that pieces and a tail were cut from. -/
def Pieces.written (cut : Pieces) : Text :=
  cut.pieces.flatMap (fun piece => piece.skipped ++ piece.whole) ++ cut.tail

theorem Program.cut_written (program : Program) (fuel : Nat) (afterMatch : Bool)
    (before : Option Char) (text : Text) :
    (program.cut fuel afterMatch before text).written = text ∧
      ∀ piece ∈ (program.cut fuel afterMatch before text).pieces, StandsIn piece.group text := by
  induction fuel generalizing afterMatch before text with
  | zero => exact ⟨rfl, fun _ member => absurd member List.not_mem_nil⟩
  | succ fuel inductionHypothesis =>
    rw [cut]
    split
    · exact ⟨rfl, fun _ member => absurd member List.not_mem_nil⟩
    · rename_i found finds
      obtain ⟨written, stands⟩ := program.next_written finds
      obtain ⟨writtenLater, standLater⟩ := inductionHypothesis true found.before found.rest
      constructor
      · rw [← written]
        conv_rhs => rw [← writtenLater]
        simp only [Pieces.written, List.flatMap_cons, List.append_assoc]
      · intro piece member
        rcases List.mem_cons.mp member with rfl | later
        · exact stands
        · intro part inside
          refine (standLater piece later part inside).trans ?_
          rw [← written]
          exact (List.suffix_append _ _).isInfix

/-- The pieces and the tail, one after another, are the text. -/
theorem cut_written (regex : Regex) (text : Text) : (regex.cut text).written = text :=
  (regex.program.cut_written _ false none text).1

/-- The group of a piece stands in the text. -/
theorem group_infix_cut (regex : Regex) {text : Text} {piece : Piece}
    (member : piece ∈ (regex.cut text).pieces) {group : Text} (took : piece.group = some group) :
    group <:+: text :=
  (regex.program.cut_written _ false none text).2 piece member group took

end Stencil.Regex
