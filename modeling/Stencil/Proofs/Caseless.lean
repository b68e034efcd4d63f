/-
This file proves which characters match only themselves even where case is folded. The tables of
simple case folding are asked for the orbit of the character that a text holds, not for that of the
character which the expression names; so a character is known to have no case once it is known to
be a partner in no run of pairs and a member of no larger orbit.
-/

import Stencil.Regex.Reader

namespace Stencil

namespace Unicode.Folding

/-- No other character folds to the same character. -/
def IsCaseless (character : Char) : Prop :=
  ∀ other, character ∈ orbit other → other = character

/-- Whether a character stands in no orbit that is listed. -/
def standsAlone (character : Char) : Bool :=
  character.toNat != 0 && largerOrbits.all (!·.contains character.toNat) &&
    pairRuns.all (·.partner? character.toNat == none)

/-- What is the partner of some character has a partner. -/
theorem partner?_of_partner? {run : PairRun} {code partner : Nat}
    (paired : run.partner? code = some partner) : run.partner? partner ≠ none := by
  unfold PairRun.partner? at paired
  split at paired
  · rename_i first
    cases paired
    have second : run.first + run.distance ≤ code + run.distance ∧
        code + run.distance ≤ run.last + run.distance ∧
          (code + run.distance - run.distance - run.first) % run.step = 0 := by
      rw [Nat.add_sub_cancel]
      exact ⟨Nat.add_le_add_right first.1 _, Nat.add_le_add_right first.2.1 _, first.2.2⟩
    unfold PairRun.partner?
    rw [if_pos second]
    split
    · exact Option.some_ne_none _
    · exact Option.some_ne_none _
  · split at paired
    · rename_i second
      cases paired
      have first : run.first ≤ code - run.distance ∧ code - run.distance ≤ run.last ∧
          (code - run.distance - run.first) % run.step = 0 :=
        ⟨by omega, by omega, second.2.2⟩
      unfold PairRun.partner?
      rw [if_pos first]
      exact Option.some_ne_none _
    · cases paired

/-- A character that stands in no orbit has no case. -/
theorem isCaseless_of_standsAlone {character : Char} (alone : standsAlone character = true) :
    IsCaseless character := by
  intro other member
  rw [standsAlone, Bool.and_eq_true_iff, Bool.and_eq_true_iff, bne_iff_ne, List.all_eq_true,
    List.all_eq_true] at alone
  obtain ⟨⟨notNull, notListed⟩, notPaired⟩ := alone
  unfold orbit at member
  dsimp only at member
  rcases List.mem_cons.mp member with same | variant
  · exact same.symm
  · exfalso
    obtain ⟨code, among, rfl⟩ := List.mem_map.mp variant
    have same : (Char.ofNat code).toNat = code := by
      by_cases valid : code.isValidChar
      · rw [Char.ofNat, dif_pos valid]
        rfl
      · rw [Char.ofNat, dif_neg valid] at notNull
        exact absurd rfl notNull
    rw [same] at notListed notPaired
    cases listed : largerOrbits.find? (·.contains other.toNat) with
    | some members =>
      rw [listed] at among
      have contained := List.contains_iff_mem.mpr (List.mem_filter.mp among).1
      have apart := notListed members (List.mem_of_find?_eq_some listed)
      rw [contained] at apart
      cases apart
    | none =>
      rw [listed] at among
      obtain ⟨run, stands, paired⟩ :=
        List.exists_of_findSome?_eq_some (Option.mem_toList.mp among)
      exact partner?_of_partner? paired (beq_iff_eq.mp (notPaired run stands))

end Unicode.Folding

namespace Regex

/-- A character without case matches only itself, whether or not case is folded. -/
theorem literal_of_isCaseless {character : Char}
    (caseless : Unicode.Folding.IsCaseless character) {flags : Flags}
    (unicode : flags.unicode = true) :
    flags.literal character = .set (CharSet.single character) := by
  rw [Flags.literal, Flags.fold]
  split
  · refine congrArg Expr.set ?_
    funext candidate
    rw [CharSet.ignoringCase, unicode, if_pos rfl, Bool.eq_iff_iff, List.any_eq_true]
    constructor
    · rintro ⟨variant, among, same⟩
      rw [beq_iff_eq.mp same] at among
      exact beq_iff_eq.mpr (caseless candidate among)
    · intro same
      exact ⟨candidate, List.mem_cons_self, same⟩
  · rfl

end Regex

end Stencil
