/-
This file proves that coercion never brings in a document with keys that would reach the prototype
of an object. The guard looks for such keys from the outside in: at each object first among its own
keys, then in the values of its members. Since a document that has been read holds each key of an
object once, the value that the guard finds under a key is the only one there, so what passes the
guard holds none of these keys at any depth. Both stages of coercion take their values from the
guard, and what they do not take from it stays text.
-/

import Stencil.Proofs.JsonParts
import Stencil.Proofs.Runs

namespace Stencil

namespace Json

/-! ### What the guard refuses -/

/-- Among the members is the key `__proto__`, or the key `constructor` with an object that has the
key `prototype`. -/
def Members.ReachPrototype (members : Members) : Prop :=
  "__proto__".toList ∈ members.map Prod.fst ∨
    ∃ inner, ("constructor".toList, .object inner) ∈ members ∧
      "prototype".toList ∈ inner.map Prod.fst

/-- No object inside the value, at any depth, has keys that reach a prototype. -/
def FreeOfPrototypes (value : Json) : Prop :=
  EveryObject (fun members => ¬ Members.ReachPrototype members) value

theorem Members.forbidden?_eq_none_iff {members : Members}
    (distinct : (members.map Prod.fst).Nodup) :
    Members.forbidden? members = none ↔ ¬ members.ReachPrototype := by
  rw [Members.forbidden?, ReachPrototype, not_or]
  by_cases proto : Members.hasKey members "__proto__".toList = true
  · rw [if_pos proto]
    constructor
    · exact fun none => nomatch none
    · exact fun absent => absurd (hasKey_iff.mp proto) absent.1
  · rw [if_neg proto, ← hasKey_iff, and_iff_right proto]
    constructor
    · rintro none ⟨inner, member, key⟩
      rw [(get?_eq_some_iff distinct).mpr member] at none
      dsimp only at none
      rw [if_pos (hasKey_iff.mpr key)] at none
      cases none
    · intro absent
      split
      · rename_i inner found
        refine if_neg fun key => absent ⟨inner, ?_, hasKey_iff.mp key⟩
        exact (get?_eq_some_iff distinct).mp found
      · rfl

mutual

/-- The guard finds nothing exactly where there is nothing to find, if each key is there once. -/
theorem forbidden?_eq_none_iff : (value : Json) → DistinctKeys value →
    (forbidden? value = none ↔ FreeOfPrototypes value)
  | .array items, distinct => by
    rw [forbidden?, FreeOfPrototypes, everyObject_array]
    exact forbiddenItem?_eq_none_iff items (everyObject_array.mp distinct)
  | .object members, distinct => by
    obtain ⟨own, inner⟩ := everyObject_object.mp distinct
    rw [forbidden?, Option.or_eq_none_iff, FreeOfPrototypes, everyObject_object,
      Members.forbidden?_eq_none_iff own, forbiddenMember?_eq_none_iff members inner]
    rfl
  | .null, _ | .bool _, _ | .number _, _ | .string _, _ =>
    ⟨fun _ => everyObject_of_scalar rfl, fun _ => rfl⟩

theorem forbiddenItem?_eq_none_iff : (items : List Json) → (∀ item ∈ items, DistinctKeys item) →
    (forbiddenItem? items = none ↔ ∀ item ∈ items, FreeOfPrototypes item)
  | [], _ => ⟨fun _ _ member => absurd member List.not_mem_nil, fun _ => rfl⟩
  | first :: rest, distinct => by
    rw [List.forall_mem_cons] at distinct
    rw [forbiddenItem?, Option.or_eq_none_iff, List.forall_mem_cons,
      forbidden?_eq_none_iff first distinct.1, forbiddenItem?_eq_none_iff rest distinct.2]

theorem forbiddenMember?_eq_none_iff : (members : Members) →
    (∀ member ∈ members, DistinctKeys member.2) →
    (forbiddenMember? members = none ↔ ∀ member ∈ members, FreeOfPrototypes member.2)
  | [], _ => ⟨fun _ _ member => absurd member List.not_mem_nil, fun _ => rfl⟩
  | (key, value) :: rest, distinct => by
    rw [List.forall_mem_cons] at distinct
    rw [forbiddenMember?, Option.or_eq_none_iff, List.forall_mem_cons,
      forbidden?_eq_none_iff value distinct.1, forbiddenMember?_eq_none_iff rest distinct.2]

end

/-- A document that passes the guard is free of keys that reach a prototype. -/
theorem freeOfPrototypes_of_parseGuarded {text : Text} {value : Json}
    (accepted : parseGuarded text = .ok value) : FreeOfPrototypes value := by
  rw [parseGuarded] at accepted
  split at accepted
  · cases accepted
  · rename_i read
    split at accepted
    · cases accepted
    · rename_i none
      cases accepted
      exact (forbidden?_eq_none_iff value (distinctKeys_of_parse read)).mp none

end Json

namespace Coercion

open Json

/-! ### The two stages -/

theorem freeOfPrototypes_of_classify {parseStrings bigNumbers : Bool} {text : Text} {value : Json}
    (parsed : classify parseStrings bigNumbers text = .parsed value) : FreeOfPrototypes value := by
  rw [classify] at parsed
  split at parsed
  · cases parsed
  · split at parsed
    · cases parsed
    · rename_i accepted
      split at parsed
      · cases parsed
      · cases parsed
        exact freeOfPrototypes_of_parseGuarded accepted

/-- The second stage keeps what the first one has made, or reads a document of its own. -/
theorem freeOfPrototypes_reparse {value : Json} (free : FreeOfPrototypes value) :
    FreeOfPrototypes (reparse value) := by
  unfold reparse
  split
  · dsimp only
    split
    · split
      · rename_i accepted
        exact freeOfPrototypes_of_parseGuarded accepted
      · exact free
    · exact free
  · exact free

end Coercion

namespace Template

open Json

/-! ### Strings of a template -/

/-- Whatever the text is, coercing it gives a value free of keys that reach a prototype. -/
theorem freeOfPrototypes_of_coerce {settings : Settings} {text : Text} {value : Json}
    {journal reached : Journal}
    (ended : run (coerce settings text) journal = (.ok value, reached)) :
    FreeOfPrototypes value := by
  have text_free : FreeOfPrototypes (.string text) := everyObject_of_scalar rfl
  rw [coerce] at ended
  split at ended
  · rename_i parsed
    cases ended
    exact Coercion.freeOfPrototypes_reparse (Coercion.freeOfPrototypes_of_classify parsed)
  · cases ended
    exact Coercion.freeOfPrototypes_reparse text_free
  · cases ended
    exact Coercion.freeOfPrototypes_reparse text_free

/-- What a string of a template is compiled to holds no object, at any depth, with the key
`__proto__`, and none with an object under `constructor` that has the key `prototype`. This is so
whatever the variables hold and the hooks answer. -/
theorem compiled_string_freeOfPrototypes (settings : Settings) (bindings : Json) (text : Text)
    (journal reached : Journal) (value : Json)
    (ended : run (compile settings bindings (.string text)) journal = (.ok value, reached)) :
    FreeOfPrototypes value := by
  rw [compile, compileText_eq] at ended
  obtain ⟨substituted, between, _, finished⟩ := run_bind_ok ended
  obtain ⟨transformed, after, _, coerced⟩ := run_bind_ok finished
  exact freeOfPrototypes_of_coerce coerced

/-- An object in which the key `prototype` is not directly below `constructor`. -/
def nearMiss : Json :=
  .object [("constructor".toList, .array [.object [("prototype".toList, .bool true)]]),
    ("proto".toList, .null)]

/-- Variables that hold a key which no document may have. -/
def nearMissVariables : Json :=
  .object [("v".toList, nearMiss), ("__proto__".toList, .string "w".toList)]

/-- The document is read, for the array stands between the two keys. -/
theorem compiled_string_freeOfPrototypes_near_miss :
    ∃ value reached,
      run (compile {} nearMissVariables (.string "[{{v}},\"{{__proto__}}\"]".toList)) [] =
          (.ok value, reached) ∧
        value.text = (Json.array [nearMiss, .string "w".toList]).text ∧
        FreeOfPrototypes value := by
  have written : (run (compile {} nearMissVariables
      (.string "[{{v}},\"{{__proto__}}\"]".toList)) []).1.toOption.map Json.text =
        some (Json.array [nearMiss, .string "w".toList]).text := by decide +kernel
  rcases run_ends (compile {} nearMissVariables
      (.string "[{{v}},\"{{__proto__}}\"]".toList)) [] with
    ⟨value, reached, ended⟩ | ⟨failure, reached, ended⟩
  · rw [ended] at written
    exact ⟨value, reached, ended, Option.some.inj written,
      compiled_string_freeOfPrototypes _ _ _ _ _ _ ended⟩
  · rw [ended] at written
    cases written

end Template

end Stencil
