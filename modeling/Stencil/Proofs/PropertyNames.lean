/-
This file proves that no set of characters has a name with a bracket or a backslash in it. Names of
properties are compared loosely, but only blanks, hyphens, underscores and what is not ASCII do not
count; so such a character would have to stand in a name of the standard, and there is none.
-/

import Stencil.Regex.Escape

namespace Stencil

/-- Whether a character leads through a class: a bracket, or the backslash that makes it literal. -/
def isClassMark (character : Char) : Bool :=
  ['[', ']', '\\'].contains character

theorem isClassMark_iff {character : Char} :
    isClassMark character = true ↔ character = '[' ∨ character = ']' ∨ character = '\\' := by
  rw [isClassMark, List.contains_iff_mem]
  simp only [List.mem_cons, List.not_mem_nil, or_false]

/-- No bracket and no backslash stands in the text. -/
def HoldsNoMark (text : List Char) : Prop :=
  ∀ character ∈ text, isClassMark character = false

instance (text : List Char) : Decidable (HoldsNoMark text) :=
  List.decidableBAll _ text

theorem HoldsNoMark.append {first second : List Char} (noMark : HoldsNoMark first)
    (later : HoldsNoMark second) : HoldsNoMark (first ++ second) := by
  intro character member
  exact (List.mem_append.mp member).elim (noMark character) (later character)

/-- Only capitals change in lower case, and they become letters. -/
theorem toLower_eq_iff_of_isClassMark {character mark : Char} (isMark : isClassMark mark = true) :
    character.toLower = mark ↔ character = mark := by
  have lower : mark.toLower = mark ∧ mark.toNat < 97 := by
    rcases isClassMark_iff.mp isMark with rfl | rfl | rfl <;> decide
  refine ⟨fun same => ?_, fun same => same ▸ lower.1⟩
  unfold Char.toLower at same
  split at same
  · rename_i capital
    have raised : 97 ≤ (character.val + ('a'.val - 'A'.val)).toNat := by
      have least : 65 ≤ character.val.toNat := capital.1
      have most : character.val.toNat ≤ 90 := capital.2
      have step : ('a'.val - 'A'.val).toNat = 32 := rfl
      rw [UInt32.toNat_add, step]
      omega
    rw [← same] at lower
    exact absurd lower.2 (Nat.not_lt.mpr raised)
  · exact same

namespace Unicode.Property

/-- Brackets and backslashes count when names are compared. -/
theorem mem_looseName_iff {name : List Char} {mark : Char} (isMark : isClassMark mark = true) :
    mark ∈ (looseName name).toList ↔ mark ∈ name := by
  have counts : mark ∉ ['i', 's', 'c'] ∧
      (mark.toNat < 0x80 && mark != ' ' && mark != '_' && mark != '-') = true := by
    rcases isClassMark_iff.mp isMark with rfl | rfl | rfl <;> decide
  obtain ⟨noLetter, counts⟩ := counts
  have noLead (led : ((name.take 2).map Char.toLower == ['i', 's']) = true) (member : mark ∈ name) :
      mark ∈ name.drop 2 := by
    rw [← List.take_append_drop 2 name, List.mem_append] at member
    refine member.resolve_left fun first => noLetter ?_
    have lower := List.mem_map_of_mem (f := Char.toLower) first
    rw [beq_iff_eq.mp led, (toLower_eq_iff_of_isClassMark isMark).mpr rfl] at lower
    exact List.mem_append_left ['c'] lower
  have kept : mark ∈ (((if ((name.take 2).map Char.toLower == ['i', 's']) = true
      then name.drop 2 else name).filter fun character =>
        character.toNat < 0x80 && character != ' ' && character != '_' && character != '-').map
          Char.toLower) ↔ mark ∈ name := by
    simp only [List.mem_map, toLower_eq_iff_of_isClassMark isMark, exists_eq_right, List.mem_filter,
      counts, and_true]
    split
    · exact ⟨List.mem_of_mem_drop, noLead ‹_›⟩
    · exact Iff.rfl
  unfold looseName
  dsimp only
  generalize List.map Char.toLower (List.filter _ _) = loose at kept
  split
  · rename_i isc
    rw [beq_iff_eq.mp (Bool.and_eq_true_iff.mp isc).2] at kept
    rw [← kept]
    refine ⟨fun member => absurd member noLetter, fun member => ?_⟩
    exact absurd (List.mem_append_right ['i', 's'] member) noLetter
  · rw [String.toList_ofList]
    exact kept

theorem holdsNoMark_looseName_iff {name : List Char} :
    HoldsNoMark (looseName name).toList ↔ HoldsNoMark name := by
  refine forall_congr' fun character => ?_
  cases mark : isClassMark character with
  | false => simp only [implies_true]
  | true => rw [mem_looseName_iff mark]

/-! ### Names of the standard -/

theorem holdsNoMark_of_names {loose official : String}
    (plain : HoldsNoMark official.toList) (same : names loose official = true) :
    HoldsNoMark loose.toList := by
  rwa [beq_iff_eq.mp same, holdsNoMark_looseName_iff]

/-- What is found in a table by its names, all of which are plain, is found by a plain name. -/
theorem holdsNoMark_of_find? {Entry : Type} {table : List Entry} {test : Entry → Bool}
    {loose : String} {entry : Entry} {officials : Entry → List String}
    (plain : ∀ official ∈ table.flatMap officials, HoldsNoMark official.toList)
    (tested : ∀ entry, test entry = (officials entry).any (names loose))
    (found : table.find? test = some entry) : HoldsNoMark loose.toList := by
  have test := List.find?_some found
  rw [tested, List.any_eq_true] at test
  obtain ⟨official, member, same⟩ := test
  exact holdsNoMark_of_names
    (plain _ (List.mem_flatMap.mpr ⟨entry, List.mem_of_find?_eq_some found, member⟩)) same

/-- The two names of an entry. -/
def bothNames {Value : Type} (entry : String × String × Value) : List String :=
  [entry.1, entry.2.1]

theorem any_bothNames {Value : Type} (loose : String) (entry : String × String × Value) :
    (names loose entry.1 || names loose entry.2.1) = (bothNames entry).any (names loose) := by
  rw [bothNames, List.any_cons, List.any_cons, List.any_nil, Bool.or_false]

theorem holdsNoMark_of_binary? {loose : String} {test : Char → Bool}
    (found : binary? loose = some test) : HoldsNoMark loose.toList := by
  have derived : ∀ official ∈ derivedProperties.flatMap bothNames,
      HoldsNoMark official.toList := by decide +kernel
  have listed : ∀ official ∈ listedProperties.flatMap bothNames,
      HoldsNoMark official.toList := by decide +kernel
  unfold binary? at found
  split at found
  · exact holdsNoMark_of_find? derived (any_bothNames loose) ‹_›
  · split at found
    · exact holdsNoMark_of_find? listed (any_bothNames loose) ‹_›
    · cases found

theorem holdsNoMark_of_category? {loose : String} {test : Char → Bool}
    (found : category? loose = some test) : HoldsNoMark loose.toList := by
  have family : ∀ official ∈ families.flatMap Prod.fst,
      HoldsNoMark official.toList := by decide +kernel
  have single : ∀ official ∈ Category.names.flatMap bothNames,
      HoldsNoMark official.toList := by decide +kernel
  unfold category? at found
  split at found
  · rename_i same
    rw [beq_iff_eq.mp same]
    decide
  split at found
  · rename_i same
    rw [beq_iff_eq.mp same]
    decide
  split at found
  · rename_i same
    rw [beq_iff_eq.mp same]
    decide
  split at found
  · exact holdsNoMark_of_find? family (fun _ => rfl) ‹_›
  · split at found
    · cases found
    · exact holdsNoMark_of_find? single (any_bothNames loose) ‹_›
    · cases found

theorem holdsNoMark_of_script? {loose : String} {test : Char → Bool}
    (found : script? loose = some test) : HoldsNoMark loose.toList := by
  have plain : ∀ official ∈ (Script.names.map (fun entry => (entry.1, entry.1)) ++
      Script.names.map (fun entry => (entry.2, entry.1)) ++ Script.aliases).flatMap
        (fun entry => [entry.1]), HoldsNoMark official.toList := by
    decide +kernel
  unfold script? at found
  dsimp only at found
  split at found
  · refine holdsNoMark_of_find? plain (fun entry => ?_) ‹_›
    exact (Bool.or_false _).symm
  · cases found

/-- A property has a plain name. -/
theorem holdsNoMark_of_ofName? {name : List Char} {test : Char → Bool}
    (found : ofName? name = some test) : HoldsNoMark name := by
  refine holdsNoMark_looseName_iff.mp ?_
  unfold ofName? at found
  dsimp only at found
  split at found
  · rename_i binary
    split at binary
    · cases binary
    · exact holdsNoMark_of_binary? binary
  · split at found
    · exact holdsNoMark_of_category? ‹_›
    · exact holdsNoMark_of_script? found

/-- A property with a value has a plain name, and a plain name for the value. -/
theorem holdsNoMark_of_ofValue? {name value : List Char} {test : Char → Bool}
    (found : ofValue? name value = some test) : HoldsNoMark name ∧ HoldsNoMark value := by
  have plain {official : String} (plain : HoldsNoMark official.toList)
      (same : (looseName name == official) = true) : HoldsNoMark name :=
    holdsNoMark_looseName_iff.mp (beq_iff_eq.mp same ▸ plain)
  unfold ofValue? at found
  dsimp only at found
  split at found
  · rename_i same
    refine ⟨?_, holdsNoMark_looseName_iff.mp (holdsNoMark_of_category? found)⟩
    rcases Bool.or_eq_true_iff.mp same with same | same
    · exact plain (by decide) same
    · exact plain (by decide) same
  · split at found
    · rename_i same
      refine ⟨?_, holdsNoMark_looseName_iff.mp (holdsNoMark_of_script? found)⟩
      rcases Bool.or_eq_true_iff.mp same with same | same
      · exact plain (by decide) same
      · exact plain (by decide) same
    · cases found

end Unicode.Property

namespace Regex

open Unicode.Property

/-- A text is made of what stands before and after a separator, and of the separator. -/
theorem eq_of_splitAt? {separator text before after : Text}
    (split : splitAt? separator text = some (before, after)) :
    text = before ++ separator ++ after := by
  induction text generalizing before with
  | nil => cases split
  | cons head rest inductionHypothesis =>
    rw [splitAt?] at split
    split at split
    · rename_i stands
      cases split
      exact (List.prefix_iff_eq_append.mp (List.isPrefixOf_iff_prefix.mp stands)).symm
    · obtain ⟨⟨first, second⟩, later, same⟩ := Option.map_eq_some_iff.mp split
      cases same
      rw [inductionHypothesis later]
      rfl

/-- What stands between the braces of a property holds no bracket and no backslash. -/
theorem holdsNoMark_of_propertyOf? {name : Text} {property : CharSet × Bool}
    (found : propertyOf? name = some property) : HoldsNoMark name := by
  have value {separator before after : Text} (plain : HoldsNoMark separator)
      (split : splitAt? separator name = some (before, after)) {inverted : Bool}
      (found : (ofValue? before after).map (·, inverted) = some property) : HoldsNoMark name := by
    obtain ⟨test, found, _⟩ := Option.map_eq_some_iff.mp found
    obtain ⟨first, second⟩ := holdsNoMark_of_ofValue? found
    rw [eq_of_splitAt? split]
    exact (first.append plain).append second
  unfold propertyOf? at found
  split at found
  · rename_i split
    exact value (show HoldsNoMark ['!', '='] by decide) split found
  · split at found
    · rename_i split
      rcases Option.or_eq_some_iff.mp split with split | ⟨_, split⟩
      · exact value (show HoldsNoMark [':'] by decide) split found
      · exact value (show HoldsNoMark ['='] by decide) split found
    · obtain ⟨test, found, _⟩ := Option.map_eq_some_iff.mp found
      exact holdsNoMark_of_ofName? found

end Regex

end Stencil
