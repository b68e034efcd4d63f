/-
This file proves which texts the guarded reader takes and which it refuses, and for what.

A text is taken with its value if it is a document whose value holds no key that would reach the
prototype of an object. It is malformed if it is no document, whatever keys it holds, and otherwise
the refusal names the first offence. The value of a document gives a repeated key one member, at
the place of the first and with the last value. The order of the offences is that of the objects
inside the value, each before the objects inside its members.

Arrays and objects of a document that is taken nest only so deep; a document with one array more
than that is malformed for the reader.
-/

import Mathlib.Data.List.Forall2
import Stencil.Proofs.ForbiddenKeys
import Stencil.Proofs.JsonReading

namespace Stencil.Json

/-! ### Values of documents -/

/-- The members give each key of the pairs its last value, in the order in which the keys come
first. -/
structure KeepsLast (pairs members : Members) : Prop where
  keys : members.map Prod.fst = (pairs.map Prod.fst).eraseDups
  last : ∀ member ∈ members, pairs.reverse.lookup member.1 = some member.2

/-- The value of what is written: each object, at any depth, keeps the last value of a key. -/
inductive Settles : (written value : Json) → Prop where
  | scalar {value : Json} (scalar : value.isComposite = false) : Settles value value
  | array {items values : List Json} (each : List.Forall₂ Settles items values) :
      Settles (.array items) (.array values)
  | object {written pairs members : Members} (keys : written.map Prod.fst = pairs.map Prod.fst)
      (each : List.Forall₂ Settles (written.map Prod.snd) (pairs.map Prod.snd))
      (keeps : KeepsLast pairs members) : Settles (.object written) (.object members)

/-- The text is a document with the value, its arrays and objects nested at most `depth` deep. -/
def HasValueWithin (depth : Nat) (text : Text) (value : Json) : Prop :=
  ∃ written, Grammar.IsDocumentWithin depth text written ∧ Settles written value

/-- The text is a document with the value, however deep. -/
def HasValue (text : Text) (value : Json) : Prop :=
  ∃ depth, HasValueWithin depth text value

namespace Members

theorem get?_put (key : Text) (value : Json) (members : Members) (other : Text) :
    get? (put key value members) other = if other = key then some value else get? members other := by
  induction members with
  | nil =>
    split
    · rename_i same
      rw [same]
      exact get?_cons_self key value []
    · rename_i different
      exact get?_cons_of_ne different value []
  | cons first rest inductionHypothesis =>
    obtain ⟨present, kept⟩ := first
    rw [put]
    by_cases found : other = present
    · subst found
      split
      · rename_i same
        rw [same, get?_cons_self]
      · rename_i different
        rw [get?_cons_self, get?_cons_self]
    · split
      · rename_i same
        subst same
        rw [get?_cons_of_ne found, get?_cons_of_ne found, if_neg found]
      · rw [get?_cons_of_ne found, get?_cons_of_ne found, inductionHypothesis]

theorem ofPairs_append (pairs : Members) (pair : Text × Json) :
    ofPairs (pairs ++ [pair]) = put pair.1 pair.2 (ofPairs pairs) := by
  rw [ofPairs, List.foldl_append]
  rfl

theorem get?_ofPairs (pairs : Members) (key : Text) :
    get? (ofPairs pairs) key = pairs.reverse.lookup key := by
  induction pairs using List.reverseRecOn with
  | nil => rfl
  | append_singleton pairs pair inductionHypothesis =>
    rw [ofPairs_append, get?_put, inductionHypothesis, List.reverse_append, List.reverse_singleton,
      List.singleton_append, List.lookup_cons]
    by_cases same : key = pair.1
    · rw [if_pos same, beq_iff_eq.mpr same]
    · rw [if_neg same, beq_false_of_ne same]

theorem keys_ofPairs (pairs : Members) :
    (ofPairs pairs).map Prod.fst = (pairs.map Prod.fst).eraseDups := by
  induction pairs using List.reverseRecOn with
  | nil => rfl
  | append_singleton pairs pair inductionHypothesis =>
    rw [ofPairs_append, keys_put, inductionHypothesis, List.map_append, List.map_singleton,
      List.eraseDups_append]
    split
    · rename_i member
      rw [List.mem_eraseDups] at member
      simp [List.removeAll, member]
    · rename_i absent
      rw [List.mem_eraseDups] at absent
      simp [List.removeAll, absent, List.eraseDups_cons]

theorem keepsLast_ofPairs (pairs : Members) : KeepsLast pairs (ofPairs pairs) := by
  refine ⟨keys_ofPairs pairs, fun member inside => ?_⟩
  rw [← get?_ofPairs]
  exact (get?_eq_some_iff (nodup_keys_ofPairs pairs)).mpr inside

/-- Members with the same keys and values that depend on the key alone are the same. -/
theorem eq_of_keys {first second : Members} (value? : Text → Option Json)
    (keys : first.map Prod.fst = second.map Prod.fst)
    (firstValues : ∀ member ∈ first, value? member.1 = some member.2)
    (secondValues : ∀ member ∈ second, value? member.1 = some member.2) : first = second := by
  induction first generalizing second with
  | nil => exact (List.map_eq_nil_iff.mp keys.symm).symm
  | cons member rest inductionHypothesis =>
    obtain ⟨other, others, rfl, sameKey, sameKeys⟩ := List.map_eq_cons_iff.mp keys.symm
    rw [List.forall_mem_cons] at firstValues secondValues
    rw [inductionHypothesis sameKeys.symm firstValues.2 secondValues.2]
    have same := firstValues.1
    rw [← sameKey, secondValues.1] at same
    rw [Prod.ext sameKey (Option.some.inj same)]

theorem keepsLast_iff {pairs members : Members} :
    KeepsLast pairs members ↔ members = ofPairs pairs := by
  constructor
  · intro keeps
    exact eq_of_keys (fun key => pairs.reverse.lookup key)
      (keeps.keys.trans (keys_ofPairs pairs).symm) keeps.last (keepsLast_ofPairs pairs).last
  · rintro rfl
    exact keepsLast_ofPairs pairs

end Members

mutual

theorem settles_iff : (written : Json) → {value : Json} →
    (Settles written value ↔ value = collapse written)
  | .array items, value => by
    constructor
    · rintro (scalar | each)
      · cases scalar
      · rw [collapse, (settleItems_iff items).mp each]
    · rintro rfl
      exact .array ((settleItems_iff items).mpr rfl)
  | .object written, value => by
    constructor
    · rintro (scalar | _ | ⟨keys, each, keeps⟩)
      · cases scalar
      · rw [collapse, ← (settleMembers_iff written).mp ⟨keys, each⟩,
          Members.keepsLast_iff.mp keeps]
    · rintro rfl
      obtain ⟨keys, each⟩ := (settleMembers_iff written).mpr rfl
      exact .object keys each (Members.keepsLast_ofPairs _)
  | .null, _ | .bool _, _ | .number _, _ | .string _, _ => by
    constructor
    · rintro (_ | _ | _)
      rfl
    · rintro rfl
      exact .scalar rfl

theorem settleItems_iff : (items : List Json) → {values : List Json} →
    (List.Forall₂ Settles items values ↔ values = collapseItems items)
  | [], values => List.forall₂_nil_left_iff
  | item :: items, values => by
    rw [List.forall₂_cons_left_iff, collapseItems]
    constructor
    · rintro ⟨value, others, settles, later, rfl⟩
      rw [(settles_iff item).mp settles, (settleItems_iff items).mp later]
    · rintro rfl
      exact ⟨_, _, (settles_iff item).mpr rfl, (settleItems_iff items).mpr rfl, rfl⟩

theorem settleMembers_iff : (written : Members) → {pairs : Members} →
    ((written.map Prod.fst = pairs.map Prod.fst ∧
      List.Forall₂ Settles (written.map Prod.snd) (pairs.map Prod.snd)) ↔
        pairs = collapseMembers written)
  | [], pairs => by
    constructor
    · exact fun both => List.map_eq_nil_iff.mp both.1.symm
    · rintro rfl
      exact ⟨rfl, .nil⟩
  | (key, item) :: written, pairs => by
    constructor
    · rintro ⟨keys, each⟩
      obtain ⟨⟨_, value⟩, others, rfl, rfl, sameKeys⟩ := List.map_eq_cons_iff.mp keys.symm
      obtain ⟨settles, later⟩ := List.forall₂_cons.mp each
      have settles : value = collapse item := (settles_iff item).mp settles
      rw [collapseMembers, ← (settleMembers_iff written).mp ⟨sameKeys.symm, later⟩, settles]
    · rintro rfl
      obtain ⟨keys, each⟩ := (settleMembers_iff written).mpr rfl
      exact ⟨congrArg (key :: ·) keys, .cons ((settles_iff item).mpr rfl) each⟩

end

theorem parse?_eq_some_iff {text : Text} {value : Json} :
    parse? text = some value ↔ HasValueWithin maxDepth text value := by
  rw [parse?, read?, Option.map_eq_some_iff]
  refine exists_congr fun written => ?_
  rw [readWithin?_eq_some_iff, settles_iff, eq_comm]

/-! ### The first offence -/

mutual

/-- The members of every object inside a value, in the order of the document: an object before the
objects inside its members. -/
def objects : Json → List Members
  | .array items => objectsOfItems items
  | .object members => members :: objectsOfMembers members
  | _ => []

/-- `objects` of each item. -/
def objectsOfItems : List Json → List Members
  | [] => []
  | item :: rest => objects item ++ objectsOfItems rest

/-- `objects` of each member's value. -/
def objectsOfMembers : Members → List Members
  | [] => []
  | (_, value) :: rest => objects value ++ objectsOfMembers rest

end

/-- The members hold the key, or the path of two keys. -/
def Members.Hold (members : Members) : ForbiddenKey → Prop
  | .proto => "__proto__".toList ∈ members.map Prod.fst
  | .constructorPrototype => ∃ inner, ("constructor".toList, .object inner) ∈ members ∧
      "prototype".toList ∈ inner.map Prod.fst

/-- The forbidden key is the first one in the order of the document. -/
def FirstOffence (value : Json) (key : ForbiddenKey) : Prop :=
  ∃ before members after, objects value = before ++ members :: after ∧
    (members.Hold key ∧ (key = .constructorPrototype → ¬ members.Hold .proto)) ∧
      ∀ earlier ∈ before, ¬ Members.ReachPrototype earlier

mutual

/-- The objects in the order of the document are all the objects inside the value. -/
theorem mem_objects_iff : (value : Json) → {members : Members} →
    (members ∈ objects value ↔ Inside (.object members) value)
  | .array items, members => by
    rw [objects, mem_objectsOfItems_iff items]
    constructor
    · rintro ⟨item, member, inside⟩
      exact .item member inside
    · rintro (_ | ⟨member, inside⟩)
      exact ⟨_, member, inside⟩
  | .object inner, members => by
    rw [objects, List.mem_cons, mem_objectsOfMembers_iff inner]
    constructor
    · rintro (rfl | ⟨pair, member, inside⟩)
      · exact .whole
      · exact .value member inside
    · rintro (_ | _ | ⟨member, inside⟩)
      · exact .inl rfl
      · exact .inr ⟨_, member, inside⟩
  | .null, _ | .bool _, _ | .number _, _ | .string _, _ =>
    ⟨fun member => absurd member List.not_mem_nil, fun inside => by cases inside⟩

theorem mem_objectsOfItems_iff : (items : List Json) → {members : Members} →
    (members ∈ objectsOfItems items ↔ ∃ item ∈ items, Inside (.object members) item)
  | [], _ => by simp [objectsOfItems]
  | item :: rest, members => by
    rw [objectsOfItems, List.mem_append, mem_objects_iff item, mem_objectsOfItems_iff rest,
      List.exists_mem_cons_iff]

theorem mem_objectsOfMembers_iff : (pairs : Members) → {members : Members} →
    (members ∈ objectsOfMembers pairs ↔ ∃ pair ∈ pairs, Inside (.object members) pair.2)
  | [], _ => by simp [objectsOfMembers]
  | (_, value) :: rest, members => by
    rw [objectsOfMembers, List.mem_append, mem_objects_iff value, mem_objectsOfMembers_iff rest,
      List.exists_mem_cons_iff]

end

mutual

/-- The guard searches the objects in the order of the document. -/
theorem forbidden?_eq_findSome? : (value : Json) →
    forbidden? value = (objects value).findSome? Members.forbidden?
  | .array items => by rw [forbidden?, objects, forbiddenItem?_eq_findSome? items]
  | .object members => by
    rw [forbidden?, objects, List.findSome?_cons, forbiddenMember?_eq_findSome? members]
    cases Members.forbidden? members <;> rfl
  | .null | .bool _ | .number _ | .string _ => rfl

theorem forbiddenItem?_eq_findSome? : (items : List Json) →
    forbiddenItem? items = (objectsOfItems items).findSome? Members.forbidden?
  | [] => rfl
  | item :: rest => by
    rw [forbiddenItem?, objectsOfItems, List.findSome?_append, forbidden?_eq_findSome? item,
      forbiddenItem?_eq_findSome? rest]

theorem forbiddenMember?_eq_findSome? : (members : Members) →
    forbiddenMember? members = (objectsOfMembers members).findSome? Members.forbidden?
  | [] => rfl
  | (_, value) :: rest => by
    rw [forbiddenMember?, objectsOfMembers, List.findSome?_append, forbidden?_eq_findSome? value,
      forbiddenMember?_eq_findSome? rest]

end

theorem Members.forbidden?_eq_some_iff {members : Members}
    (distinct : (members.map Prod.fst).Nodup) {key : ForbiddenKey} :
    Members.forbidden? members = some key ↔
      members.Hold key ∧ (key = .constructorPrototype → ¬ members.Hold .proto) := by
  rw [Members.forbidden?]
  split
  · rename_i proto
    rw [hasKey_iff] at proto
    constructor
    · rintro ⟨⟩
      exact ⟨proto, fun same => by cases same⟩
    · rintro ⟨_, first⟩
      cases key with
      | proto => rfl
      | constructorPrototype => exact absurd proto (first rfl)
  · rename_i absent
    rw [hasKey_iff] at absent
    constructor
    · intro found
      split at found
      · rename_i inner constructed
        split at found
        · rename_i held
          cases found
          exact ⟨⟨inner, (get?_eq_some_iff distinct).mp constructed, hasKey_iff.mp held⟩,
            fun _ => absent⟩
        · cases found
      · cases found
    · rintro ⟨holds, _⟩
      cases key with
      | proto => exact absurd holds absent
      | constructorPrototype =>
        obtain ⟨inner, member, held⟩ := holds
        rw [(get?_eq_some_iff distinct).mpr member]
        exact if_pos (hasKey_iff.mpr held)

/-- What the guard finds is the first offence, if each key is there once. -/
theorem forbidden?_eq_some_iff {value : Json} (distinct : DistinctKeys value) {key : ForbiddenKey} :
    forbidden? value = some key ↔ FirstOffence value key := by
  rw [forbidden?_eq_findSome?, List.findSome?_eq_some_iff]
  refine exists_congr fun before => exists_congr fun members => exists_congr fun after =>
    and_congr_right fun same => ?_
  -- The keys of one object are looked up, which finds each of them only where it is there once.
  have each {members : Members} (member : members ∈ objects value) :
      (members.map Prod.fst).Nodup :=
    distinct members ((mem_objects_iff value).mp member)
  rw [Members.forbidden?_eq_some_iff (each (by simp [same]))]
  refine and_congr_right fun _ => forall_congr' fun earlier => forall_congr' fun member => ?_
  exact Members.forbidden?_eq_none_iff (each (by simp [same, member]))

/-! ### The guarded reader -/

/-- Exactly the documents without forbidden keys are taken, each with its value. A text is refused
as malformed if it is no document, whatever keys it holds, and otherwise for the first offence. -/
theorem parseGuarded_iff (text : Text) :
    (∀ value, parseGuarded text = .ok value ↔
      HasValueWithin maxDepth text value ∧ FreeOfPrototypes value) ∧
    (parseGuarded text = .error .malformed ↔ ¬ ∃ value, HasValueWithin maxDepth text value) ∧
    ∀ key, parseGuarded text = .error (.forbidden key) ↔
      ∃ value, HasValueWithin maxDepth text value ∧ FirstOffence value key := by
  simp only [← parse?_eq_some_iff]
  cases read : parse? text with
  | none => simp [parseGuarded, read]
  | some value =>
    have distinct := distinctKeys_of_parse read
    have offence (key : ForbiddenKey) := @forbidden?_eq_some_iff _ distinct key
    cases found : forbidden? value with
    | none =>
      have accepted : parseGuarded text = .ok value := by simp [parseGuarded, read, found]
      have free := (forbidden?_eq_none_iff value distinct).mp found
      have noOffence (key : ForbiddenKey) : ¬ FirstOffence value key := by
        simp [← offence, found]
      simp [accepted, free, noOffence]
    | some first =>
      have refused : parseGuarded text = .error (.forbidden first) := by
        simp [parseGuarded, read, found]
      have notFree : ¬ FreeOfPrototypes value := by
        simp [← forbidden?_eq_none_iff value distinct, found]
      have onlyOffence (key : ForbiddenKey) : FirstOffence value key ↔ first = key := by
        simp [← offence, found]
      simp [refused, notFree, onlyOffence]

/-! ### Documents that nest too deep -/

/-- Arrays inside one another, as many as there are brackets. -/
def brackets (count : Nat) : Text :=
  List.replicate count '[' ++ List.replicate count ']'

/-- An array with so many arrays inside one another. -/
def nested : Nat → Json
  | 0 => .array []
  | depth + 1 => .array [nested depth]

theorem brackets_succ (count : Nat) (rest : Text) :
    brackets (count + 1) ++ rest = '[' :: (brackets count ++ ']' :: rest) := by
  rw [brackets, List.replicate_succ, List.replicate_succ' (n := count) (a := ']')]
  simp [brackets]

theorem value_nested (depth : Nat) (rest : Text) :
    Grammar.Value (depth + 1) (brackets (depth + 1) ++ rest) (nested depth) rest := by
  have here (text : Text) : Grammar.Blanks text text := ⟨[], fun _ member => absurd member List.not_mem_nil, rfl⟩
  induction depth generalizing rest with
  | zero => exact ⟨_, here _, .inr (.array (.empty (here _)))⟩
  | succ depth inductionHypothesis =>
    rw [brackets_succ]
    exact ⟨_, here _, .inr (.array (.filled (inductionHypothesis _) (.done (here _))))⟩

theorem collapse_nested (depth : Nat) : collapse (nested depth) = nested depth := by
  induction depth with
  | zero => rfl
  | succ depth inductionHypothesis =>
    rw [nested, collapse, collapseItems, inductionHypothesis, collapseItems]

theorem freeOfPrototypes_nested (depth : Nat) : FreeOfPrototypes (nested depth) := by
  induction depth with
  | zero => exact everyObject_array.mpr fun _ member => absurd member List.not_mem_nil
  | succ depth inductionHypothesis =>
    exact everyObject_array.mpr (List.forall_mem_singleton.mpr inductionHypothesis)

/-- One bracket too many is never read, whatever stands behind it. -/
theorem readValue_of_brackets (depth : Nat) (rest : Text) :
    readValue depth (List.replicate (depth + 1) '[' ++ rest) = none := by
  induction depth with
  | zero => rfl
  | succ depth inductionHypothesis =>
    have inside : readArray (readValue depth) (List.replicate (depth + 1) '[' ++ rest) = none := by
      rw [readArray_eq, readListed, if_neg, inductionHypothesis]
      · rfl
      · intro closed
        cases closed
    exact inside

/-- A document that nests one array more than is read is malformed. -/
theorem parseGuarded_brackets :
    (∃ value, HasValue (brackets (maxDepth + 1)) value ∧ FreeOfPrototypes value) ∧
      parseGuarded (brackets (maxDepth + 1)) = .error .malformed := by
  constructor
  · refine ⟨nested maxDepth, ⟨maxDepth + 1, nested maxDepth, ⟨[], ?_, ?_⟩, ?_⟩,
      freeOfPrototypes_nested maxDepth⟩
    · have value := value_nested maxDepth []
      rwa [List.append_nil] at value
    · exact ⟨[], fun _ member => absurd member List.not_mem_nil, rfl⟩
    · exact (settles_iff _).mpr (collapse_nested maxDepth).symm
  · rw [parseGuarded, parse?, read?, readWithin?, brackets, readValue_of_brackets]
    rfl

end Stencil.Json
