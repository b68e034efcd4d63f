/-
This file proves that reading a document gives back the value that was written, its doubles rounded
as their texts are, if the value nests no deeper than documents may and holds no key of an object
twice.

Each part of a document is read up to the text behind it: a string ends at its closing quote, a
number before what does not go on with it, and an item or a member before a comma or a bracket. A
value is read by the same recursion that writes it, so the proof goes along the value; the items of
an array are read one by one, for which the length of their text suffices as fuel.
-/

import Stencil.Proofs.Escapes
import Stencil.Proofs.JsonParts
import Stencil.Proofs.NumberText
import Stencil.Json.Writer

namespace Stencil.Json

/-! ### Strings -/

section

variable {rest : Text}

theorem hexValue?_hexDigit : ∀ value < 16, hexValue? (hexDigit value) = some value := by
  decide

/-- The code of a control is read again. -/
theorem readCode_of_lt {code : Nat} (control : code < 0x20) :
    readCode ('0' :: '0' :: hexDigit (code / 16) :: hexDigit (code % 16) :: rest) =
      some (Char.ofNat code, rest) := by
  have zero : hexValue? '0' = some 0 := rfl
  have unit : readUnit ('0' :: '0' :: hexDigit (code / 16) :: hexDigit (code % 16) :: rest) =
      some (code, rest) := by
    have digits : ((0 * 16 + 0) * 16 + code / 16) * 16 + code % 16 = code := by omega
    simp only [readUnit, zero, hexValue?_hexDigit _ (show code / 16 < 16 by omega),
      hexValue?_hexDigit _ (show code % 16 < 16 by omega), Option.bind_eq_bind, Option.bind_some,
      Option.pure_def, digits]
  have noHigh : ¬ (0xD800 ≤ code ∧ code < 0xDC00) := by omega
  have noLow : ¬ (0xDC00 ≤ code ∧ code < 0xE000) := by omega
  simp only [readCode, unit, Option.bind_eq_bind, Option.bind_some, if_neg noHigh, if_neg noLow,
    Option.pure_def]

/-- A character of a string is read again, escaped or not. -/
theorem readCharacter_escapeCharacter (character : Char) :
    readCharacter (escapeCharacter character ++ rest) = some (some character, rest) := by
  unfold escapeCharacter
  split
  case h_8 notQuote notBackslash _ _ _ _ _ =>
    split
    case isTrue control =>
      change (readCode ('0' :: '0' :: hexDigit (character.toNat / 16) ::
        hexDigit (character.toNat % 16) :: rest)).map _ = _
      rw [readCode_of_lt control, Char.ofNat_toNat]
      rfl
    case isFalse printable =>
      rw [List.singleton_append]
      unfold readCharacter
      split <;> grind
  all_goals rfl

theorem readCharacters_append {fuel : Nat} {text : Text} (enough : text.length < fuel) :
    readCharacters fuel (text.flatMap escapeCharacter ++ '"' :: rest) = some (text, rest) := by
  induction text generalizing fuel with
  | nil =>
    cases fuel with
    | zero => exact absurd enough (Nat.not_lt_zero _)
    | succ fuel => rfl
  | cons character text inductionHypothesis =>
    cases fuel with
    | zero => exact absurd enough (Nat.not_lt_zero _)
    | succ fuel =>
      rw [List.flatMap_cons, List.append_assoc, readCharacters, readCharacter_escapeCharacter]
      simp only [inductionHypothesis (Nat.lt_of_succ_lt_succ enough), Option.map_some]

theorem escapeCharacter_ne_nil (character : Char) : escapeCharacter character ≠ [] := by
  unfold escapeCharacter
  split
  case h_8 => split <;> exact List.cons_ne_nil _ _
  all_goals exact List.cons_ne_nil _ _

theorem length_le_flatMap_escapeCharacter (text : Text) :
    text.length ≤ (text.flatMap escapeCharacter).length := by
  induction text with
  | nil => exact Nat.le_refl _
  | cons character text inductionHypothesis =>
    have some := List.length_pos_of_ne_nil (escapeCharacter_ne_nil character)
    rw [List.flatMap_cons, List.length_append, List.length_cons]
    omega

/-- A string is read up to its closing quote. -/
theorem readString_append (text : Text) :
    readString (text.flatMap escapeCharacter ++ '"' :: rest) = some (text, rest) := by
  refine readCharacters_append ?_
  have length := length_le_flatMap_escapeCharacter text
  rw [List.length_append, List.length_cons]
  omega

/-! ### Items and members -/

theorem skipSpace_cons {head : Char} (notSpace : isSpace head = false) (tail : Text) :
    skipSpace (head :: tail) = head :: tail :=
  List.dropWhile_cons_of_neg (by rw [notSpace]; exact Bool.false_ne_true)

/-- A value starts with a character that is no blank and does not close an array. -/
theorem text_starts (value : Json) :
    ∃ first others, value.text = first :: others ∧ isSpace first = false ∧ first ≠ ']' := by
  cases value with
  | null => exact ⟨_, _, rfl, rfl, by decide⟩
  | bool value => cases value <;> exact ⟨_, _, rfl, rfl, by decide⟩
  | number value =>
    obtain ⟨first, others, starts, kind⟩ := value.text_starts
    refine ⟨first, others, by rw [text, starts], ?_⟩
    rcases kind with digit | rfl
    · constructor
      · simp only [isSpace, Bool.or_eq_false_iff, beq_eq_false_iff_ne]
        refine ⟨⟨⟨?_, ?_⟩, ?_⟩, ?_⟩ <;> rintro rfl <;> exact absurd digit (by decide)
      · rintro rfl
        exact absurd digit (by decide)
    · exact ⟨rfl, by decide⟩
  | string value => exact ⟨_, _, rfl, rfl, by decide⟩
  | array items => cases items <;> exact ⟨_, _, rfl, rfl, by decide⟩
  | object members =>
    rcases members with _ | ⟨⟨key, value⟩, rest⟩ <;> exact ⟨_, _, rfl, rfl, by decide⟩

theorem skipSpace_text_append (value : Json) (rest : Text) :
    skipSpace (value.text ++ rest) = value.text ++ rest := by
  obtain ⟨first, others, starts, notSpace, _⟩ := value.text_starts
  rw [starts]
  exact skipSpace_cons notSpace _

mutual

/-- The value that the text of a value is read as: each number as its text is read, and the rest as
it is. -/
def reread : Json → Json
  | .number value => .number value.reread
  | .array items => .array (rereadItems items)
  | .object members => .object (rereadMembers members)
  | value => value

/-- `reread` of each item. -/
def rereadItems : List Json → List Json
  | [] => []
  | item :: rest => reread item :: rereadItems rest

/-- `reread` of each member's value. -/
def rereadMembers : Members → Members
  | [] => []
  | (key, value) :: rest => (key, reread value) :: rereadMembers rest

end

/-- A reader reads the text of a value, up to what does not go on with a number. -/
def ReadsBack (read : Text → Option (Json × Text)) (value : Json) : Prop :=
  ∀ rest, EndsNumber rest → read (value.text ++ rest) = some (reread value, rest)

theorem endsNumber_itemsText (items : List Json) (rest : Text) :
    EndsNumber (itemsText items ++ ']' :: rest) := by
  cases items <;> rintro next ⟨⟩ <;> decide

theorem endsNumber_membersText (members : Members) (rest : Text) :
    EndsNumber (membersText members ++ '}' :: rest) := by
  cases members <;> rintro next ⟨⟩ <;> decide

theorem readItems_append (rest : Text) {read : Text → Option (Json × Text)} {fuel : Nat}
    {items : List Json} (each : ∀ item ∈ items, ReadsBack read item)
    (enough : items.length < fuel) :
    readItems read fuel (itemsText items ++ ']' :: rest) = some (rereadItems items, rest) := by
  induction items generalizing fuel with
  | nil =>
    cases fuel with
    | zero => exact absurd enough (Nat.not_lt_zero _)
    | succ fuel => rfl
  | cons item items inductionHypothesis =>
    cases fuel with
    | zero => exact absurd enough (Nat.not_lt_zero _)
    | succ fuel =>
      have first := each item List.mem_cons_self _ (endsNumber_itemsText items rest)
      have later := inductionHypothesis
        (fun item member => each item (List.mem_cons_of_mem _ member))
        (Nat.lt_of_succ_lt_succ enough)
      simp only [itemsText, List.cons_append, List.append_assoc, readItems,
        skipSpace_cons (show isSpace ',' = false from rfl), first, later, Option.bind_eq_bind,
        Option.bind_some, Option.pure_def, rereadItems]

theorem length_le_itemsText (items : List Json) : items.length ≤ (itemsText items).length := by
  induction items with
  | nil => exact Nat.le_refl _
  | cons item items inductionHypothesis =>
    rw [itemsText, List.cons_append, List.length_cons, List.length_cons, List.length_append]
    omega

theorem readArray_append {read : Text → Option (Json × Text)} {item : Json} {items : List Json}
    (each : ∀ other ∈ item :: items, ReadsBack read other) :
    readArray read (item.text ++ (itemsText items ++ ']' :: rest)) =
      some (reread (.array (item :: items)), rest) := by
  have first := each item List.mem_cons_self _ (endsNumber_itemsText items rest)
  have enough : items.length < (itemsText items ++ ']' :: rest).length := by
    have length := length_le_itemsText items
    rw [List.length_append, List.length_cons]
    omega
  have later := readItems_append rest
    (fun other member => each other (List.mem_cons_of_mem _ member)) enough
  unfold readArray
  rw [skipSpace_text_append]
  obtain ⟨head, others, starts, _, notClosing⟩ := item.text_starts
  split
  · rename_i closing
    rw [starts, List.cons_append, List.cons.injEq] at closing
    exact absurd closing.1 notClosing
  · simp only [first, later, Option.bind_eq_bind, Option.bind_some, Option.pure_def, reread,
      rereadItems]

theorem readMember_append {read : Text → Option (Json × Text)} (key : Text) {value : Json}
    (readsBack : ReadsBack read value) (ends : EndsNumber rest) :
    readMember read (stringText key ++ ':' :: (value.text ++ rest)) =
      some ((key, reread value), rest) := by
  rw [stringText]
  simp only [List.cons_append, List.append_assoc, List.nil_append, readMember,
    skipSpace_cons (show isSpace '"' = false from rfl), readString_append,
    skipSpace_cons (show isSpace ':' = false from rfl), readsBack rest ends,
    Option.bind_eq_bind, Option.bind_some, Option.pure_def]

theorem readMembers_append (rest : Text) {read : Text → Option (Json × Text)} {fuel : Nat}
    {members : Members} (each : ∀ member ∈ members, ReadsBack read member.2)
    (enough : members.length < fuel) :
    readMembers read fuel (membersText members ++ '}' :: rest) =
      some (rereadMembers members, rest) := by
  induction members generalizing fuel with
  | nil =>
    cases fuel with
    | zero => exact absurd enough (Nat.not_lt_zero _)
    | succ fuel => rfl
  | cons member members inductionHypothesis =>
    cases fuel with
    | zero => exact absurd enough (Nat.not_lt_zero _)
    | succ fuel =>
      have first := readMember_append member.1 (each member List.mem_cons_self)
        (endsNumber_membersText members rest)
      have later := inductionHypothesis
        (fun member present => each member (List.mem_cons_of_mem _ present))
        (Nat.lt_of_succ_lt_succ enough)
      simp only [membersText, List.cons_append, List.append_assoc, readMembers,
        skipSpace_cons (show isSpace ',' = false from rfl), first, later, Option.bind_eq_bind,
        Option.bind_some, Option.pure_def, rereadMembers]

theorem length_le_membersText (members : Members) :
    members.length ≤ (membersText members).length := by
  induction members with
  | nil => exact Nat.le_refl _
  | cons member members inductionHypothesis =>
    simp only [membersText, List.cons_append, List.length_cons, List.length_append]
    omega

theorem readObject_append {read : Text → Option (Json × Text)} {key : Text} {value : Json}
    {members : Members} (each : ∀ member ∈ (key, value) :: members, ReadsBack read member.2) :
    readObject read
        (stringText key ++ ':' :: (value.text ++ (membersText members ++ '}' :: rest))) =
      some (reread (.object ((key, value) :: members)), rest) := by
  have first := readMember_append key (each (key, value) List.mem_cons_self)
    (endsNumber_membersText members rest)
  have enough : members.length < (membersText members ++ '}' :: rest).length := by
    have length := length_le_membersText members
    rw [List.length_append, List.length_cons]
    omega
  have later := readMembers_append rest
    (fun other member => each other (List.mem_cons_of_mem _ member)) enough
  have quote (behind : Text) : skipSpace (stringText key ++ behind) = stringText key ++ behind :=
    skipSpace_cons rfl _
  unfold readObject
  rw [quote]
  split
  · rename_i closing
    cases closing
  · simp only [first, later, Option.bind_eq_bind, Option.bind_some, Option.pure_def, reread,
      rereadMembers]

/-! ### Values -/

mutual

/-- How deep arrays and objects are nested in a value. -/
def nesting : Json → Nat
  | .array items => nestingOfItems items + 1
  | .object members => nestingOfMembers members + 1
  | _ => 0

/-- The greatest nesting of a list of items. -/
def nestingOfItems : List Json → Nat
  | [] => 0
  | item :: rest => max (nesting item) (nestingOfItems rest)

/-- The greatest nesting of the values of a list of members. -/
def nestingOfMembers : List (Text × Json) → Nat
  | [] => 0
  | (_, value) :: rest => max (nesting value) (nestingOfMembers rest)

end

/-- What begins none of the other values is read as a number. -/
theorem readValue_number {depth : Nat} {number : Number} (ends : EndsNumber rest) :
    readValue depth (number.text ++ rest) = some (.number number.reread, rest) := by
  have read := readNumber_text_append number ends
  obtain ⟨first, others, starts, kind⟩ := number.text_starts
  have other : first ≠ '"' ∧ first ≠ '[' ∧ first ≠ '\x7b' ∧ first ≠ 'n' ∧ first ≠ 't' ∧
      first ≠ 'f' := by
    rcases kind with digit | rfl
    · refine ⟨?_, ?_, ?_, ?_, ?_, ?_⟩ <;> rintro rfl <;> exact absurd digit (by decide)
    · decide
  have unspaced := skipSpace_text_append (.number number) rest
  rw [text, starts, List.cons_append] at unspaced
  rw [starts, List.cons_append] at read ⊢
  rw [readValue, unspaced]
  split
  · exact absurd (List.cons.inj ‹_›).1 other.1
  · exact absurd (List.cons.inj ‹_›).1 other.2.1
  · exact absurd (List.cons.inj ‹_›).1 other.2.2.1
  · exact absurd (List.cons.inj ‹_›).1 other.2.2.2.1
  · exact absurd (List.cons.inj ‹_›).1 other.2.2.2.2.1
  · exact absurd (List.cons.inj ‹_›).1 other.2.2.2.2.2
  · rw [read]
    rfl

mutual

/-- The text of a value is read as deep as the value is nested. -/
theorem readsBack_readValue : (value : Json) → {depth : Nat} → nesting value ≤ depth →
    ReadsBack (readValue depth) value
  | .null, depth, _ => fun rest _ => by
    rw [text, readValue]
    rfl
  | .bool value, depth, _ => fun rest _ => by
    cases value <;> rw [text, readValue] <;> rfl
  | .number _, _, _ => fun _ ends => readValue_number ends
  | .string value, depth, _ => fun rest _ => by
    rw [text, stringText, List.append_assoc, List.cons_append, readValue, skipSpace_cons rfl]
    simp only [List.cons_append, List.nil_append, readString_append, Option.map_some, reread]
  | .array [], depth + 1, _ => fun _ _ => rfl
  | .array (item :: items), depth + 1, shallow => fun rest _ => by
    have each := readsBack_items (item :: items) (Nat.le_of_succ_le_succ shallow)
    rw [text, readValue]
    simp only [List.cons_append, List.append_assoc, List.nil_append,
      skipSpace_cons (show isSpace '[' = false from rfl)]
    exact readArray_append each
  | .object [], depth + 1, _ => fun _ _ => rfl
  | .object ((key, value) :: members), depth + 1, shallow => fun rest _ => by
    have each := readsBack_members ((key, value) :: members) (Nat.le_of_succ_le_succ shallow)
    rw [text, readValue]
    simp only [List.cons_append, List.append_assoc, List.nil_append,
      skipSpace_cons (show isSpace '\x7b' = false from rfl)]
    exact readObject_append each

theorem readsBack_items : (items : List Json) → {depth : Nat} → nestingOfItems items ≤ depth →
    ∀ item ∈ items, ReadsBack (readValue depth) item
  | [], _, _, _, member => absurd member List.not_mem_nil
  | first :: rest, depth, shallow, item, member => by
    rcases List.mem_cons.mp member with same | later
    · rw [same]
      exact readsBack_readValue first (le_trans (Nat.le_max_left _ _) shallow)
    · exact readsBack_items rest (le_trans (Nat.le_max_right _ _) shallow) item later

theorem readsBack_members : (members : Members) → {depth : Nat} →
    nestingOfMembers members ≤ depth → ∀ member ∈ members, ReadsBack (readValue depth) member.2
  | [], _, _, _, present => absurd present List.not_mem_nil
  | (key, value) :: rest, depth, shallow, member, present => by
    rcases List.mem_cons.mp present with same | later
    · rw [same]
      exact readsBack_readValue value (le_trans (Nat.le_max_left _ _) shallow)
    · exact readsBack_members rest (le_trans (Nat.le_max_right _ _) shallow) member later

end

end

/-! ### Documents -/

/-- A value is read as it was written, except for the rounding. -/
theorem read?_text {value : Json} (shallow : nesting value ≤ maxDepth) :
    read? value.text = some (reread value) := by
  have whole := readsBack_readValue value shallow [] (fun next starts => by cases starts)
  rw [List.append_nil] at whole
  rw [read?, readWithin?, whole]
  rfl

theorem Members.put_of_not_mem {members : Members} {key : Text}
    (fresh : key ∉ members.map Prod.fst) (value : Json) :
    Members.put key value members = members ++ [(key, value)] := by
  induction members with
  | nil => rfl
  | cons member members inductionHypothesis =>
    rw [List.map_cons, List.mem_cons, not_or] at fresh
    rw [Members.put, if_neg (Ne.symm fresh.1), inductionHypothesis fresh.2]
    rfl

theorem Members.foldl_put_of_nodup {pairs : Members} :
    (start : Members) → ((start ++ pairs).map Prod.fst).Nodup →
      pairs.foldl (fun members pair => Members.put pair.1 pair.2 members) start =
        start ++ pairs := by
  induction pairs with
  | nil => exact fun start _ => (List.append_nil start).symm
  | cons pair pairs inductionHypothesis =>
    intro start distinct
    obtain ⟨key, value⟩ := pair
    have fresh : key ∉ start.map Prod.fst := by
      rw [List.map_append, List.nodup_append] at distinct
      intro member
      exact distinct.2.2 key member key List.mem_cons_self rfl
    have added : start ++ (key, value) :: pairs = start ++ [(key, value)] ++ pairs := by
      rw [List.append_assoc, List.singleton_append]
    rw [added] at distinct ⊢
    simp only [List.foldl_cons, Members.put_of_not_mem fresh]
    exact inductionHypothesis _ distinct

theorem Members.ofPairs_of_nodup {members : Members} (distinct : (members.map Prod.fst).Nodup) :
    Members.ofPairs members = members :=
  Members.foldl_put_of_nodup [] distinct

mutual

/-- A value that holds each key once stays as it is. -/
theorem collapse_of_distinctKeys : (value : Json) → DistinctKeys value → collapse value = value
  | .array items, distinct => by
    rw [collapse, collapseItems_of_distinctKeys items (everyObject_array.mp distinct)]
  | .object members, distinct => by
    obtain ⟨own, inside⟩ := everyObject_object.mp distinct
    rw [collapse, collapseMembers_of_distinctKeys members inside, Members.ofPairs_of_nodup own]
  | .null, _ | .bool _, _ | .number _, _ | .string _, _ => rfl

theorem collapseItems_of_distinctKeys : (items : List Json) →
    (∀ item ∈ items, DistinctKeys item) → collapseItems items = items
  | [], _ => rfl
  | item :: rest, distinct => by
    rw [collapseItems, collapse_of_distinctKeys item (distinct item List.mem_cons_self),
      collapseItems_of_distinctKeys rest
        fun other member => distinct other (List.mem_cons_of_mem _ member)]

theorem collapseMembers_of_distinctKeys : (members : Members) →
    (∀ member ∈ members, DistinctKeys member.2) → collapseMembers members = members
  | [], _ => rfl
  | (key, value) :: rest, distinct => by
    rw [collapseMembers, collapse_of_distinctKeys value (distinct (key, value) List.mem_cons_self),
      collapseMembers_of_distinctKeys rest
        fun other member => distinct other (List.mem_cons_of_mem _ member)]

end

theorem rereadItems_eq_map (items : List Json) : rereadItems items = items.map reread := by
  induction items with
  | nil => rfl
  | cons item items inductionHypothesis => rw [rereadItems, inductionHypothesis, List.map_cons]

theorem rereadMembers_eq_map (members : Members) :
    rereadMembers members = members.map fun member => (member.1, reread member.2) := by
  induction members with
  | nil => rfl
  | cons member members inductionHypothesis => rw [rereadMembers, inductionHypothesis, List.map_cons]

theorem rereadMembers_keys (members : Members) :
    (rereadMembers members).map Prod.fst = members.map Prod.fst := by
  rw [rereadMembers_eq_map, List.map_map]
  rfl

theorem isComposite_reread (value : Json) : (reread value).isComposite = value.isComposite := by
  cases value <;> rfl

mutual

/-- What rounding keeps of the members of an object, it keeps of every object inside a value. -/
theorem everyObject_reread {property : Members → Prop}
    (keeps : ∀ members, property members → property (rereadMembers members)) :
    (value : Json) → EveryObject property value → EveryObject property (reread value)
  | .array items, every => by
    rw [reread, everyObject_array, rereadItems_eq_map, List.forall_mem_map]
    exact everyObject_rereadItems keeps items (everyObject_array.mp every)
  | .object members, every => by
    obtain ⟨own, inside⟩ := everyObject_object.mp every
    rw [reread, everyObject_object]
    refine ⟨keeps members own, ?_⟩
    rw [rereadMembers_eq_map, List.forall_mem_map]
    exact everyObject_rereadMembers keeps members inside
  | .null, _ | .bool _, _ | .number _, _ | .string _, _ => everyObject_of_scalar rfl

theorem everyObject_rereadItems {property : Members → Prop}
    (keeps : ∀ members, property members → property (rereadMembers members)) :
    (items : List Json) → (∀ item ∈ items, EveryObject property item) →
      ∀ item ∈ items, EveryObject property (reread item)
  | [], _, _, member => absurd member List.not_mem_nil
  | first :: rest, every, item, member => by
    rw [List.forall_mem_cons] at every
    rcases List.mem_cons.mp member with same | later
    · rw [same]
      exact everyObject_reread keeps first every.1
    · exact everyObject_rereadItems keeps rest every.2 item later

theorem everyObject_rereadMembers {property : Members → Prop}
    (keeps : ∀ members, property members → property (rereadMembers members)) :
    (members : Members) → (∀ member ∈ members, EveryObject property member.2) →
      ∀ member ∈ members, EveryObject property (reread member.2)
  | [], _, _, present => absurd present List.not_mem_nil
  | (key, value) :: rest, every, member, present => by
    rw [List.forall_mem_cons] at every
    rcases List.mem_cons.mp present with same | later
    · rw [same]
      exact everyObject_reread keeps value every.1
    · exact everyObject_rereadMembers keeps rest every.2 member later

end

theorem distinctKeys_reread {value : Json} (distinct : DistinctKeys value) :
    DistinctKeys (reread value) := by
  refine everyObject_reread (fun members once => ?_) value distinct
  rwa [rereadMembers_keys]

mutual

/-- A value stays as it is if its numbers do. -/
theorem reread_eq_self : (value : Json) →
    (∀ number, Inside (.number number) value → number.reread = number) → reread value = value
  | .number value, same => by rw [reread, same value .whole]
  | .array items, same => by
    rw [reread, rereadItems_eq_self items fun item member number inside =>
      same number (.item member inside)]
  | .object members, same => by
    rw [reread, rereadMembers_eq_self members fun member present number inside =>
      same number (.value present inside)]
  | .null, _ | .bool _, _ | .string _, _ => rfl

theorem rereadItems_eq_self : (items : List Json) →
    (∀ item ∈ items, ∀ number, Inside (.number number) item → number.reread = number) →
      rereadItems items = items
  | [], _ => rfl
  | item :: rest, same => by
    rw [List.forall_mem_cons] at same
    rw [rereadItems, reread_eq_self item same.1, rereadItems_eq_self rest same.2]

theorem rereadMembers_eq_self : (members : Members) →
    (∀ member ∈ members, ∀ number, Inside (.number number) member.2 → number.reread = number) →
      rereadMembers members = members
  | [], _ => rfl
  | (key, value) :: rest, same => by
    rw [List.forall_mem_cons] at same
    rw [rereadMembers, reread_eq_self value same.1, rereadMembers_eq_self rest same.2]

end

/-- The value of a written document is the value that was written, except for the rounding. -/
theorem parse?_text {value : Json} (shallow : nesting value ≤ maxDepth)
    (distinct : DistinctKeys value) : parse? value.text = some (reread value) := by
  rw [parse?, read?_text shallow, Option.map_some,
    collapse_of_distinctKeys _ (distinctKeys_reread distinct)]

/-! ### Marks in texts -/

open Escaping (Unmarked openingMark closingMark)

theorem unmarked_of_isNumberCharacter {text : Text}
    (each : ∀ character ∈ text, isNumberCharacter character = true) : Unmarked text :=
  ⟨fun member => absurd (each _ member) (by decide),
    fun member => absurd (each _ member) (by decide)⟩

theorem unmarked_escapeCharacter {character : Char} (unmarked : Unmarked [character]) :
    Unmarked (escapeCharacter character) := by
  unfold escapeCharacter
  split
  case h_8 =>
    split
    case isTrue control =>
      have digit : ∀ value < 16, Unmarked [hexDigit value] := by decide
      have letters : Unmarked ['\\', 'u', '0', '0'] := by decide
      exact (letters.append (digit _ (by omega))).append (digit _ (by omega))
    case isFalse => exact unmarked
  all_goals decide

/-- A string is written without marks if it holds none. -/
theorem unmarked_stringText {text : Text} (unmarked : Unmarked text) :
    Unmarked (stringText text) := by
  have quote : Unmarked ['"'] := by decide
  have inside : Unmarked (text.flatMap escapeCharacter) :=
    Unmarked.flatMap fun character member =>
      unmarked_escapeCharacter (unmarked.part fun other same => List.mem_singleton.mp same ▸ member)
  exact (quote.append inside).append quote

mutual

/-- A value is written without marks if its strings and keys hold none. -/
theorem unmarked_text : (value : Json) → EveryText Unmarked value → Unmarked value.text
  | .null, _ => by decide
  | .bool value, _ => by cases value <;> decide
  | .number _, _ => unmarked_of_isNumberCharacter fun _ => Number.isNumberCharacter_of_mem_text
  | .string _, every => unmarked_stringText (everyText_string.mp every)
  | .array [], _ => by decide
  | .array (item :: items), every => by
    have opening : Unmarked ['['] := by decide
    have closing : Unmarked [']'] := by decide
    have each := everyText_array.mp every
    have first := unmarked_text item (each item List.mem_cons_self)
    have later := unmarked_itemsText items fun other member =>
      each other (List.mem_cons_of_mem _ member)
    exact (opening.append (first.append later)).append closing
  | .object [], _ => by decide
  | .object ((key, value) :: members), every => by
    have opening : Unmarked ['\x7b'] := by decide
    have colon : Unmarked [':'] := by decide
    have closing : Unmarked ['\x7d'] := by decide
    have each := everyText_object.mp every
    have named := unmarked_stringText (each (key, value) List.mem_cons_self).1
    have first := unmarked_text value (each (key, value) List.mem_cons_self).2
    have later := unmarked_membersText members fun other member =>
      each other (List.mem_cons_of_mem _ member)
    exact (opening.append ((named.append (colon.append first)).append later)).append closing

/-- Items are written without marks if their strings and keys hold none. -/
theorem unmarked_itemsText : (items : List Json) → (∀ item ∈ items, EveryText Unmarked item) →
    Unmarked (itemsText items)
  | [], _ => by decide
  | item :: rest, every => by
    have comma : Unmarked [','] := by decide
    have first := unmarked_text item (every item List.mem_cons_self)
    have later := unmarked_itemsText rest fun other member =>
      every other (List.mem_cons_of_mem _ member)
    exact (comma.append first).append later

/-- Members are written without marks if their strings and keys hold none. -/
theorem unmarked_membersText : (members : Members) →
    (∀ member ∈ members, Unmarked member.1 ∧ EveryText Unmarked member.2) →
      Unmarked (membersText members)
  | [], _ => by decide
  | (key, value) :: rest, every => by
    have comma : Unmarked [','] := by decide
    have colon : Unmarked [':'] := by decide
    obtain ⟨keyUnmarked, inside⟩ := every (key, value) List.mem_cons_self
    have named := comma.append (unmarked_stringText keyUnmarked)
    have first := unmarked_text value inside
    have later := unmarked_membersText rest fun other member =>
      every other (List.mem_cons_of_mem _ member)
    exact (named.append (colon.append first)).append later

end

end Stencil.Json
