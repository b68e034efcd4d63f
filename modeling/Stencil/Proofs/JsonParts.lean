/-
This file says what it means for one value to stand inside another, at any depth, and proves that a
document that has been read holds each key of an object once, wherever the object stands. A property
of all the objects inside a value is proved along the value: an object has it if its own members do
and all the objects inside their values. What a path leads to stands inside the variables.
-/

import Mathlib.Data.List.Nodup
import Stencil.Json.Reader
import Stencil.Path

namespace Stencil.Json

/-! ### Values inside values -/

/-- One value stands inside another, at any depth. Every value stands inside itself. -/
inductive Inside (part : Json) : Json → Prop where
  | whole : Inside part part
  | item {items : List Json} {item : Json} (member : item ∈ items) (inside : Inside part item) :
      Inside part (.array items)
  | value {members : Members} {key : Text} {value : Json} (member : (key, value) ∈ members)
      (inside : Inside part value) : Inside part (.object members)

/-- The members of every object inside a value have a property. -/
def EveryObject (property : Members → Prop) (value : Json) : Prop :=
  ∀ members, Inside (.object members) value → property members

/-- Every string inside a value has a property, and so has every key. -/
def EveryText (property : Text → Prop) (value : Json) : Prop :=
  (∀ text, Inside (.string text) value → property text) ∧
    EveryObject (fun members => ∀ member ∈ members, property member.1) value

/-- No object inside a value has a key twice. -/
def DistinctKeys (value : Json) : Prop :=
  EveryObject (fun members => (members.map Prod.fst).Nodup) value

section

variable {property : Members → Prop}

theorem everyObject_array {items : List Json} :
    EveryObject property (.array items) ↔ ∀ item ∈ items, EveryObject property item := by
  constructor
  · intro every item member members inside
    exact every members (.item member inside)
  · intro every members inside
    cases inside with
    | item member inside => exact every _ member members inside

theorem everyObject_object {members : Members} :
    EveryObject property (.object members) ↔
      property members ∧ ∀ member ∈ members, EveryObject property member.2 := by
  constructor
  · intro every
    exact ⟨every members .whole, fun member present others inside =>
      every others (.value present inside)⟩
  · rintro ⟨own, every⟩ others inside
    cases inside with
    | whole => exact own
    | value member inside => exact every _ member others inside

theorem everyObject_of_scalar {value : Json} (scalar : value.isComposite = false) :
    EveryObject property value := by
  intro members inside
  cases inside with
  | whole => cases scalar
  | item member inside => cases scalar
  | value member inside => cases scalar

end

section

variable {property : Text → Prop}

theorem everyText_string {text : Text} :
    EveryText property (.string text) ↔ property text := by
  constructor
  · intro every
    exact every.1 text .whole
  · intro holds
    refine ⟨fun other inside => ?_, everyObject_of_scalar rfl⟩
    cases inside with
    | whole => exact holds

theorem everyText_array {items : List Json} :
    EveryText property (.array items) ↔ ∀ item ∈ items, EveryText property item := by
  constructor
  · rintro ⟨strings, keys⟩ item member
    exact ⟨fun text inside => strings text (.item member inside),
      everyObject_array.mp keys item member⟩
  · intro every
    refine ⟨fun text inside => ?_, everyObject_array.mpr fun item member => (every item member).2⟩
    cases inside with
    | item member inside => exact (every _ member).1 text inside

theorem everyText_object {members : Members} :
    EveryText property (.object members) ↔
      ∀ member ∈ members, property member.1 ∧ EveryText property member.2 := by
  constructor
  · rintro ⟨strings, keys⟩ member present
    obtain ⟨own, below⟩ := everyObject_object.mp keys
    exact ⟨own member present, fun text inside => strings text (.value present inside),
      below member present⟩
  · intro every
    refine ⟨fun text inside => ?_, everyObject_object.mpr
      ⟨fun member present => (every member present).1,
        fun member present => (every member present).2.2⟩⟩
    cases inside with
    | value member inside => exact (every _ member).2.1 text inside

theorem everyText_of_scalar {value : Json} (scalar : value.isComposite = false)
    (notString : ∀ text, value ≠ .string text) : EveryText property value := by
  refine ⟨fun text inside => ?_, everyObject_of_scalar scalar⟩
  cases inside with
  | whole => exact absurd rfl (notString text)
  | item member inside => cases scalar
  | value member inside => cases scalar

end

/-! ### Deeper values -/

theorem Inside.trans {first second third : Json} (inside : Inside first second)
    (around : Inside second third) : Inside first third := by
  induction around with
  | whole => exact inside
  | item member _ inductionHypothesis => exact .item member inductionHypothesis
  | value member _ inductionHypothesis => exact .value member inductionHypothesis

theorem EveryText.inside {property : Text → Prop} {part whole : Json}
    (every : EveryText property whole) (inside : Inside part whole) : EveryText property part :=
  ⟨fun text deeper => every.1 text (deeper.trans inside),
    fun members deeper => every.2 members (deeper.trans inside)⟩

/-! ### Members with distinct keys -/

namespace Members

theorem mem_put {key : Text} {value : Json} {members : Members} {member : Text × Json}
    (inside : member ∈ put key value members) : member = (key, value) ∨ member ∈ members := by
  induction members with
  | nil => exact Or.inl (List.mem_singleton.mp inside)
  | cons first rest inductionHypothesis =>
    obtain ⟨other, kept⟩ := first
    rw [put] at inside
    split at inside
    · exact (List.mem_cons.mp inside).imp_right (List.mem_cons_of_mem _)
    · rcases List.mem_cons.mp inside with rfl | later
      · exact Or.inr List.mem_cons_self
      · exact (inductionHypothesis later).imp_right (List.mem_cons_of_mem _)

/-- To put a value under a key that is there keeps the keys as they are; under another one it adds
the key as the last. -/
theorem keys_put (key : Text) (value : Json) (members : Members) :
    (put key value members).map Prod.fst =
      if key ∈ members.map Prod.fst then members.map Prod.fst
      else members.map Prod.fst ++ [key] := by
  induction members with
  | nil => rfl
  | cons first rest inductionHypothesis =>
    obtain ⟨other, kept⟩ := first
    rw [put, List.map_cons]
    by_cases same : other = key
    · rw [if_pos same, List.map_cons, if_pos (same ▸ List.mem_cons_self), same]
    · rw [if_neg same, List.map_cons, inductionHypothesis]
      by_cases member : key ∈ rest.map Prod.fst
      · rw [if_pos member, if_pos (List.mem_cons_of_mem _ member)]
      · have absent : key ∉ other :: rest.map Prod.fst := by
          rw [List.mem_cons, not_or]
          exact ⟨Ne.symm same, member⟩
        rw [if_neg member, if_neg absent]
        rfl

theorem nodup_keys_put {members : Members} (distinct : (members.map Prod.fst).Nodup) (key : Text)
    (value : Json) : ((put key value members).map Prod.fst).Nodup := by
  rw [keys_put]
  split
  · exact distinct
  · rename_i absent
    rw [← List.concat_eq_append]
    exact distinct.concat absent

theorem nodup_keys_ofPairs (pairs : Members) : ((ofPairs pairs).map Prod.fst).Nodup := by
  have keeps (start : Members) (distinct : (start.map Prod.fst).Nodup) :
      ((pairs.foldl (fun members pair => put pair.1 pair.2 members) start).map
        Prod.fst).Nodup := by
    induction pairs generalizing start with
    | nil => exact distinct
    | cons pair rest inductionHypothesis =>
      exact inductionHypothesis _ (nodup_keys_put distinct pair.1 pair.2)
  exact keeps [] List.nodup_nil

theorem mem_of_mem_foldl_put {pairs start : Members} {member : Text × Json}
    (inside : member ∈
      pairs.foldl (fun members pair => put pair.1 pair.2 members) start) :
    member ∈ start ∨ member ∈ pairs := by
  induction pairs generalizing start with
  | nil => exact Or.inl inside
  | cons pair rest inductionHypothesis =>
    rcases inductionHypothesis inside with before | later
    · rcases mem_put before with rfl | earlier
      · exact Or.inr List.mem_cons_self
      · exact Or.inl earlier
    · exact Or.inr (List.mem_cons_of_mem _ later)

theorem mem_of_mem_ofPairs {pairs : Members} {member : Text × Json}
    (inside : member ∈ ofPairs pairs) : member ∈ pairs :=
  (mem_of_mem_foldl_put inside).resolve_left List.not_mem_nil

theorem get?_cons_self (key : Text) (value : Json) (rest : Members) :
    get? ((key, value) :: rest) key = some value := by
  rw [get?, List.lookup_cons, beq_self_eq_true]

theorem get?_cons_of_ne {key other : Text} (different : key ≠ other) (value : Json)
    (rest : Members) : get? ((other, value) :: rest) key = get? rest key := by
  rw [get?, List.lookup_cons, beq_false_of_ne different]
  rfl

/-- Where each key is there once, finding the value of a key is finding its member. -/
theorem get?_eq_some_iff {members : Members} (distinct : (members.map Prod.fst).Nodup) {key : Text}
    {value : Json} : get? members key = some value ↔ (key, value) ∈ members := by
  induction members with
  | nil =>
    constructor
    · exact fun found => nomatch found
    · exact fun member => absurd member List.not_mem_nil
  | cons first rest inductionHypothesis =>
    obtain ⟨other, kept⟩ := first
    rw [List.map_cons, List.nodup_cons] at distinct
    rw [List.mem_cons, Prod.mk.injEq]
    by_cases same : key = other
    · subst same
      rw [get?_cons_self, Option.some.injEq]
      constructor
      · exact fun equal => Or.inl ⟨rfl, equal.symm⟩
      · rintro (⟨_, equal⟩ | later)
        · exact equal.symm
        · exact absurd (List.mem_map_of_mem later) distinct.1
    · rw [get?_cons_of_ne same, inductionHypothesis distinct.2]
      exact ⟨Or.inr, fun either => either.resolve_left fun both => same both.1⟩

theorem hasKey_iff {members : Members} {key : Text} :
    hasKey members key = true ↔ key ∈ members.map Prod.fst := by
  induction members with
  | nil =>
    constructor
    · exact fun found => nomatch found
    · exact fun member => absurd member List.not_mem_nil
  | cons first rest inductionHypothesis =>
    obtain ⟨other, kept⟩ := first
    rw [hasKey, List.map_cons, List.mem_cons]
    by_cases same : key = other
    · rw [same, get?_cons_self]
      exact ⟨fun _ => Or.inl rfl, fun _ => rfl⟩
    · rw [get?_cons_of_ne same]
      exact inductionHypothesis.trans ⟨Or.inr, fun either => either.resolve_left same⟩

end Members

/-! ### Values that have been read -/

mutual

theorem distinctKeys_collapse : (value : Json) → DistinctKeys (collapse value)
  | .array items => everyObject_array.mpr (distinctKeys_collapseItems items)
  | .object members => everyObject_object.mpr ⟨Members.nodup_keys_ofPairs _,
      fun member inside => distinctKeys_collapseMembers members member
        (Members.mem_of_mem_ofPairs inside)⟩
  | .null | .bool _ | .number _ | .string _ => everyObject_of_scalar rfl

theorem distinctKeys_collapseItems : (items : List Json) →
    ∀ item ∈ collapseItems items, DistinctKeys item
  | [], _, member => absurd member List.not_mem_nil
  | first :: rest, item, member => by
    rcases List.mem_cons.mp member with rfl | later
    · exact distinctKeys_collapse first
    · exact distinctKeys_collapseItems rest item later

theorem distinctKeys_collapseMembers : (members : Members) →
    ∀ member ∈ collapseMembers members, DistinctKeys member.2
  | [], _, inside => absurd inside List.not_mem_nil
  | (key, value) :: rest, member, inside => by
    rcases List.mem_cons.mp inside with rfl | later
    · exact distinctKeys_collapse value
    · exact distinctKeys_collapseMembers rest member later

end

/-- Every key of an object is there once in a value that has been read. -/
theorem distinctKeys_of_parse {text : Text} {value : Json} (read : parse? text = some value) :
    DistinctKeys value := by
  obtain ⟨written, _, rfl⟩ := Option.map_eq_some_iff.mp read
  exact distinctKeys_collapse written

/-! ### Values at paths -/

theorem Members.mem_of_get? {members : Members} {key : Text} {value : Json}
    (found : Members.get? members key = some value) : (key, value) ∈ members := by
  induction members with
  | nil => cases found
  | cons member members inductionHypothesis =>
    obtain ⟨other, kept⟩ := member
    by_cases same : key = other
    · subst same
      rw [get?_cons_self] at found
      rw [Option.some.inj found]
      exact List.mem_cons_self
    · rw [get?_cons_of_ne same] at found
      exact List.mem_cons_of_mem _ (inductionHypothesis found)

end Stencil.Json

namespace Stencil.Path

open Json

theorem inside_of_walk {steps : List Text} {whole part : Json}
    (found : walk whole steps = some part) : Inside part whole := by
  induction steps generalizing whole with
  | nil =>
    rw [walk] at found
    rw [Option.some.inj found]
    exact .whole
  | cons segment rest inductionHypothesis =>
    cases whole with
    | object members =>
      rw [walk] at found
      split at found
      · rename_i next got
        exact .value (Members.mem_of_get? got) (inductionHypothesis found)
      · cases found
    | array items =>
      rw [walk] at found
      split at found
      · split at found
        · rename_i next got
          exact .item (List.mem_of_getElem? got) (inductionHypothesis found)
        · cases found
      · cases found
    | null => cases found
    | bool flag => cases found
    | number number => cases found
    | string text => cases found

theorem inside_of_walkFrom {bindings value : Json} {path : Text}
    (found : walkFrom bindings path = some value) : Inside value bindings := by
  cases steps : segments path with
  | nil =>
    rw [walkFrom, steps] at found
    cases found
  | cons first rest =>
    rw [walkFrom, steps] at found
    exact inside_of_walk found

/-- What a path leads to stands inside the variables. -/
theorem inside_of_lookup {bindings value : Json} {path : Text}
    (found : lookup bindings path = some value) : Inside value bindings := by
  unfold lookup at found
  split at found
  · split at found
    · rename_i whole
      rw [← Option.some.inj found]
      exact .value (Members.mem_of_get? whole) .whole
    · exact inside_of_walkFrom found
  · exact inside_of_walkFrom found

end Stencil.Path
