/-
This file proves that a template which is a single placeholder keeps the type of the value it
stands for. An object or an array is written as a document, which no later pass changes, and read
again; so it comes back as it was, whatever its strings look like, and only its doubles are rounded
as reading their texts does. A scalar is written as it would stand in a document and comes back
where texts are read, except for an integer that not every reader holds exactly: that one stays the
text of its digits unless big numbers are allowed.
-/

import Stencil.Proofs.DirectScan
import Stencil.Proofs.ForbiddenKeys
import Stencil.Proofs.JsonText
import Stencil.Proofs.NumberWords
import Stencil.Proofs.Trimming

namespace Stencil

/-! ### Searching -/

namespace Text

theorem includes_of_not_mem {first : Char} {others text : Text} (absent : first ∉ text) :
    includes (first :: others) text = false := by
  induction text with
  | nil => rfl
  | cons head tail inductionHypothesis =>
    rw [List.mem_cons, not_or] at absent
    rw [includes, inductionHypothesis absent.2, Bool.or_false, Bool.eq_false_iff]
    exact not_prefix_of_ne absent.1 tail

end Text

namespace Json

/-- Rounding numbers brings in no keys that reach a prototype. -/
theorem freeOfPrototypes_reread {value : Json} (free : FreeOfPrototypes value) :
    FreeOfPrototypes (reread value) := by
  refine everyObject_reread (fun members absent => ?_) value free
  rintro (proto | ⟨inner, member, prototype⟩)
  · rw [rereadMembers_keys] at proto
    exact absent (.inl proto)
  · rw [rereadMembers_eq_map] at member
    obtain ⟨⟨key, value⟩, present, same⟩ := List.mem_map.mp member
    obtain ⟨rfl, isObject⟩ := Prod.mk.inj same
    cases value <;> cases isObject
    rw [rereadMembers_keys] at prototype
    exact absent (.inr ⟨_, present, prototype⟩)

end Json

namespace Coercion

open Json

/-! ### Coercing values that were written -/

theorem parseGuarded_text {value : Json} (shallow : nesting value ≤ maxDepth)
    (distinct : DistinctKeys value) (free : FreeOfPrototypes value) :
    parseGuarded value.text = .ok (reread value) := by
  have none : forbidden? (reread value) = none :=
    (forbidden?_eq_none_iff _ (distinctKeys_reread distinct)).mpr (freeOfPrototypes_reread free)
  rw [parseGuarded, parse?_text shallow distinct]
  simp only [none]

/-- An object or an array is written between brackets. -/
theorem text_bracketed {value : Json} (composite : value.isComposite = true) :
    ∃ opening inside closing, value.text = opening :: (inside ++ [closing]) ∧
      (opening = '\x7b' ∧ closing = '\x7d' ∨ opening = '[' ∧ closing = ']') := by
  cases value with
  | array items =>
    cases items with
    | nil => exact ⟨'[', [], ']', rfl, .inr ⟨rfl, rfl⟩⟩
    | cons item items => exact ⟨'[', _, ']', rfl, .inr ⟨rfl, rfl⟩⟩
  | object members =>
    rcases members with _ | ⟨⟨key, value⟩, members⟩
    · exact ⟨_, [], _, rfl, .inl ⟨rfl, rfl⟩⟩
    · exact ⟨_, _, _, rfl, .inl ⟨rfl, rfl⟩⟩
  | _ => cases composite

/-- The second stage reads an object or an array that was written. -/
theorem reparse_text {value : Json} (composite : value.isComposite = true)
    (read : parseGuarded value.text = .ok (reread value)) :
    reparse (.string value.text) = reread value := by
  obtain ⟨opening, inside, closing, written, brackets⟩ := text_bracketed composite
  have trimmed : value.text.trim = value.text := by
    refine Text.trim_eq_self ?_ ?_ <;> rw [written]
    · rintro character ⟨⟩
      rcases brackets with ⟨rfl, rfl⟩ | ⟨rfl, rfl⟩ <;> rfl
    · rw [← List.cons_append, List.getLast?_concat]
      rintro character ⟨⟩
      rcases brackets with ⟨rfl, rfl⟩ | ⟨rfl, rfl⟩ <;> rfl
  have bracketed : isBracketed value.text = true := by
    rw [written, ← List.cons_append, isBracketed, List.getLast?_concat]
    rcases brackets with ⟨rfl, rfl⟩ | ⟨rfl, rfl⟩ <;> rfl
  simp only [reparse, trimmed, bracketed, if_true, read]

theorem classify_of_read {value : Json} {text : Text} (read : parseGuarded text = .ok value)
    (bigNumbers : Bool) : classify true bigNumbers text =
      if isBigNumber value && !bigNumbers then .refused else .parsed value := by
  simp only [classify, read, Bool.not_true, Bool.false_eq_true, if_false]

/-- Text that is not bracketed is not read by the second stage. -/
theorem reparse_of_not_isBracketed {text : Text} (plain : isBracketed text.trim = false) :
    reparse (.string text) = .string text := by
  simp only [reparse, plain, Bool.false_eq_true, if_false]

/-- A number is not bracketed, and no blank stands around it. -/
theorem reparse_numberText (number : Number) :
    reparse (.string number.text) = .string number.text := by
  have notBlank {character : Char} (inside : isNumberCharacter character = true) :
      isBlank character = false := by
    have range : 0x21 ≤ character.toNat ∧ character.toNat < 0x80 := by
      rw [isNumberCharacter, Bool.or_eq_true] at inside
      rcases inside with digit | sign
      · have code : 48 ≤ character.toNat ∧ character.toNat ≤ 57 := Char.isDigit_iff_toNat.mp digit
        omega
      · rw [List.contains_eq_mem, decide_eq_true_iff] at sign
        have signs : ∀ other ∈ ['-', '+', '.', 'e'], 0x21 ≤ other.toNat ∧ other.toNat < 0x80 := by
          simp
        exact signs character sign
    simp only [isBlank, Bool.or_eq_false_iff, Bool.and_eq_false_iff, decide_eq_false_iff_not,
      beq_eq_false_iff_ne]
    omega
  have trimmed : number.text.trim = number.text :=
    Text.trim_eq_self
      (fun character first => notBlank
        (Number.isNumberCharacter_of_mem_text (List.mem_of_mem_head? first)))
      (fun character last => notBlank
        (Number.isNumberCharacter_of_mem_text (List.mem_of_mem_getLast? last)))
  refine reparse_of_not_isBracketed ?_
  rw [trimmed]
  obtain ⟨first, others, starts, kind⟩ := number.text_starts
  have notBracket : first ≠ '\x7b' ∧ first ≠ '[' := by
    rcases kind with digit | rfl
    · constructor <;> rintro rfl <;> exact absurd digit (by decide)
    · decide
  rw [starts, isBracketed]
  simp [notBracket]

theorem reparse_of_not_string {value : Json} (other : ∀ text, value ≠ .string text) :
    reparse value = value := by
  cases value with
  | string text => exact absurd rfl (other text)
  | _ => rfl

end Coercion

namespace Template

variable {settings : Settings} {bindings : Json}

theorem run_coerce_of_parsed {text : Text} {value : Json}
    (parsed : Coercion.classify settings.parseStrings settings.bigNumbers text = .parsed value)
    (journal : Journal) :
    run (coerce settings text) journal = (.ok (Coercion.reparse value), journal) := by
  rw [coerce, parsed]
  rfl

theorem run_coerce_of_refused {text : Text}
    (refused : Coercion.classify settings.parseStrings settings.bigNumbers text = .refused)
    (journal : Journal) : run (coerce settings text) journal =
      (.ok (Coercion.reparse (.string text)), journal ++ [.numberKept text]) := by
  rw [coerce, refused]
  rfl

theorem run_coerce_of_text {text : Text}
    (kept : Coercion.classify settings.parseStrings settings.bigNumbers text = .text)
    (journal : Journal) : run (coerce settings text) journal =
      (.ok (Coercion.reparse (.string text)), journal) := by
  rw [coerce, kept]
  rfl

/-- Coercing the text of an object or an array gives it back, through either stage. -/
theorem coerce_text_of_composite {value : Json} (composite : value.isComposite = true)
    (read : Json.parseGuarded value.text = .ok (Json.reread value)) (journal : Journal) :
    (run (coerce settings value.text) journal).1 = .ok (Json.reread value) := by
  have compositeToo : (Json.reread value).isComposite = true := by
    rwa [Json.isComposite_reread]
  have notString (text : Text) : Json.reread value ≠ .string text := fun same =>
    Bool.false_ne_true ((congrArg Json.isComposite same).symm.trans compositeToo)
  have notBig : Coercion.isBigNumber (Json.reread value) = false := by
    cases same : Json.reread value with
    | number number =>
      rw [same] at compositeToo
      cases compositeToo
    | _ => rfl
  cases parsing : settings.parseStrings with
  | true =>
    have parsed : Coercion.classify settings.parseStrings settings.bigNumbers value.text =
        .parsed (Json.reread value) := by
      rw [parsing, Coercion.classify_of_read read, notBig]
      rfl
    rw [run_coerce_of_parsed parsed, Coercion.reparse_of_not_string notString]
  | false =>
    have kept : Coercion.classify settings.parseStrings settings.bigNumbers value.text =
        .text := by
      rw [parsing]
      rfl
    rw [run_coerce_of_text kept, Coercion.reparse_text composite read]

/-- Coercing the text of a scalar that is no big number gives it back where texts are read. -/
theorem coerce_text_of_scalar {value : Json} (parsing : settings.parseStrings = true)
    (read : Json.parseGuarded value.text = .ok value) (notString : ∀ text, value ≠ .string text)
    (accepted : Coercion.isBigNumber value = false ∨ settings.bigNumbers = true)
    (journal : Journal) : (run (coerce settings value.text) journal).1 = .ok value := by
  have parsed : Coercion.classify settings.parseStrings settings.bigNumbers value.text =
      .parsed value := by
    rw [parsing, Coercion.classify_of_read read]
    rcases accepted with small | allowed
    · rw [small]
      rfl
    · rw [allowed, Bool.not_true, Bool.and_false]
      rfl
  rw [run_coerce_of_parsed parsed, Coercion.reparse_of_not_string notString]

/-- Coercing the text of an integer that is too big leaves the text. -/
theorem coerce_text_of_big {number : Json.Number} (parsing : settings.parseStrings = true)
    (read : Json.parseGuarded (Json.number number).text = .ok (.number number))
    (unsafeInteger : number.isSafeInteger = false) (refused : settings.bigNumbers = false)
    (journal : Journal) :
    (run (coerce settings number.text) journal).1 = .ok (.string number.text) := by
  have big : Coercion.classify settings.parseStrings settings.bigNumbers number.text =
      .refused := by
    rw [parsing, refused]
    refine (Coercion.classify_of_read read false).trans ?_
    rw [Coercion.isBigNumber, unsafeInteger]
    rfl
  rw [run_coerce_of_refused big, Coercion.reparse_numberText]

/-! ### One placeholder -/

/-- What a pass puts in the place of a value, and whether that may hold placeholders. -/
def shown (value : Json) : Text × Bool :=
  if value.isComposite then (value.text, false) else (Substitution.render value, true)

/-- The text of a template that is a placeholder. -/
def placeholderText (path : Text) : Text :=
  defaultOpening ++ (path ++ defaultClosing)

/-- A path that can stand between the default delimiters, with no escape in it. -/
def IsPlainPath (path : Text) : Prop :=
  path ≠ [] ∧ ∀ character ∈ path, character ≠ '\x7b' ∧ character ≠ '\x7d' ∧ character ≠ '\\'

/-- The default delimiters and escape, final objects and arrays, no hooks, and a pass that
resolves. -/
structure KeepsTypes (settings : Settings) : Prop where
  pattern : settings.pattern = Pattern.default
  escape : settings.escape = Escaping.defaultEscape
  finalComposites : settings.finalComposites = true
  resolver : settings.resolver = none
  transform : settings.transform = none
  maxPasses : 2 ≤ settings.maxPasses

theorem default_delimiters :
    Pattern.default.opening = defaultOpening ∧ Pattern.default.closing = defaultClosing := by
  obtain ⟨_, _, opening, closing, _⟩ := Pattern.ofDelimiters_ok Pattern.ofDelimiters_default
  exact ⟨opening, closing⟩

theorem default_isDelimited : Pattern.default.IsDelimited := by
  rw [Pattern.IsDelimited, default_delimiters.1, default_delimiters.2]
  exact Pattern.ofDelimiters_default

theorem mark_placeholderText {path : Text} (plain : IsPlainPath path) :
    Escaping.mark Pattern.default Escaping.defaultEscape (placeholderText path) =
      placeholderText path := by
  have absent : '\\' ∉ placeholderText path := by
    rw [placeholderText, List.mem_append, List.mem_append]
    rintro (opening | inside | closing)
    · exact absurd opening (by decide)
    · exact (plain.2 _ inside).2.2 rfl
    · exact absurd closing (by decide)
  exact Escaping.mark_of_not_mem absent

theorem cut_placeholderText {path : Text} (plain : IsPlainPath path) :
    Pattern.default.regex.cut (placeholderText path) =
      ⟨[⟨[], placeholderText path, some path⟩], []⟩ := by
  have isPath : Pattern.IsPath defaultOpening defaultClosing path := by
    refine ⟨plain.1, fun character member => ?_⟩
    simp [defaultOpening, defaultClosing, plain.2 character member]
  have scanned := Pattern.scan_of_isPath (by decide) (by decide) isPath []
  rw [List.append_nil] at scanned
  rw [Pattern.cut_eq_gather default_isDelimited, Pattern.tokensOf, default_delimiters.1,
    default_delimiters.2, placeholderText, scanned]
  rfl

theorem run_onePass_placeholderText (keeps : KeepsTypes settings) {path : Text} {value : Json}
    (plain : IsPlainPath path) (found : Path.lookup bindings path.trim = some value)
    (journal : Journal) :
    run (Substitution.onePass settings bindings 1 (placeholderText path)) journal =
      (.ok (shown value), journal ++ [.searched path.trim]) := by
  have resolved : run (Substitution.resolve settings bindings 1 path.trim) journal =
      (.ok (some value), journal ++ [.searched path.trim]) := by
    rw [Substitution.resolve, if_neg (by have := keeps.maxPasses; omega), keeps.resolver,
      ← found]
    rfl
  have expanded : run (Substitution.expand settings bindings 1
      ⟨[], placeholderText path, some path⟩) journal =
      (.ok (shown value), journal ++ [.searched path.trim]) := by
    rw [Substitution.expand]
    refine (run_bind_of_ok _ resolved).trans ?_
    dsimp only
    rw [keeps.finalComposites, Bool.and_true, shown]
    split <;> rfl
  have all : run (Substitution.expandAll settings bindings 1
      [⟨[], placeholderText path, some path⟩]) journal =
      (.ok ((shown value).1 ++ [], (shown value).2 || false),
        journal ++ [.searched path.trim]) := by
    rw [Substitution.expandAll, run_bind_of_ok _ expanded]
    rfl
  have cut := cut_placeholderText plain
  rw [← keeps.pattern] at cut
  rw [Substitution.onePass, cut, run_bind_of_ok _ all, Bool.or_false, List.append_nil]
  show (Except.ok ((shown value).1 ++ [], (shown value).2), _) = _
  rw [List.append_nil]

/-- A single placeholder is compiled by coercing what its value is shown as. -/
theorem run_compile_placeholderText (keeps : KeepsTypes settings) {path : Text} {value : Json}
    (plain : IsPlainPath path) (found : Path.lookup bindings path.trim = some value)
    (settled : ((shown value).2 && Text.includes defaultOpening (shown value).1) = false)
    (unmarked : Escaping.Unmarked (shown value).1) (journal : Journal) :
    run (compile settings bindings (.string (placeholderText path))) journal =
      run (coerce settings (shown value).1)
        (journal ++ [.searched path.trim, .passComplete 1 (shown value).2]) := by
  have once := run_onePass_placeholderText keeps plain found journal
  have stops : ¬ ((shown value).2 &&
      Text.includes settings.pattern.opening (shown value).1) = true := by
    rw [keeps.pattern, default_delimiters.1, settled]
    exact Bool.false_ne_true
  obtain ⟨remaining, cap⟩ : ∃ remaining, settings.maxPasses = remaining + 1 :=
    ⟨settings.maxPasses - 1, by have := keeps.maxPasses; omega⟩
  have substituted : run (Substitution.passes settings bindings (remaining + 1) 1
      (placeholderText path)) journal = (.ok (shown value).1,
        journal ++ [.searched path.trim] ++ [.passComplete 1 (shown value).2]) :=
    run_passes_of_stop once stops
  have unmarking : Escaping.unmark settings.pattern (shown value).1 = (shown value).1 := by
    have openingUnmarked : Escaping.Unmarked settings.pattern.opening := by
      rw [keeps.pattern, default_delimiters.1]
      decide
    rw [Escaping.unmark_eq_flatMap openingUnmarked, Escaping.flatMap_unmarkCharacter _ unmarked]
  rw [compile, compileText_eq, keeps.pattern, keeps.escape, mark_placeholderText plain,
    Substitution.substitute, cap, run_bind_of_ok _ substituted, ← keeps.pattern, unmarking, finish,
    transform, keeps.transform, List.append_assoc]
  rfl

/-! ### Values of every type -/

/-- A scalar that is shown as in a document is coerced from its text. -/
theorem run_compile_scalar (keeps : KeepsTypes settings) {path : Text} {value : Json}
    (plain : IsPlainPath path) (found : Path.lookup bindings path.trim = some value)
    (scalar : value.isComposite = false) (rendered : Substitution.render value = value.text)
    (noBrace : '\x7b' ∉ value.text) (unmarked : Json.EveryText Escaping.Unmarked value)
    (journal : Journal) :
    run (compile settings bindings (.string (placeholderText path))) journal =
      run (coerce settings value.text)
        (journal ++ [.searched path.trim, .passComplete 1 true]) := by
  have shows : shown value = (value.text, true) := by
    rw [shown, scalar, rendered]
    rfl
  have settled : ((shown value).2 && Text.includes defaultOpening (shown value).1) = false := by
    rw [shows]
    exact Text.includes_of_not_mem noBrace
  rw [run_compile_placeholderText keeps plain found settled
    (by rw [shows]; exact Json.unmarked_text value unmarked), shows]

/-- A template that is one placeholder is compiled to the value that its path leads to: to an object
or an array that a document may hold, whatever is asked for and whatever its strings look like; and,
where texts are read, to `null`, a boolean or an integer. A double inside an object or an array is
rounded as reading its text does, which changes nothing if its digits are few and its power is
small. An integer too big for every reader to hold exactly stays the text of its digits, unless big
numbers are allowed. Every object of the value has its keys once, as in all values that have been
read. -/
theorem single_placeholder_keeps_type (settings : Settings) (bindings : Json) (path : Text)
    (value : Json) (journal : Journal) (keeps : KeepsTypes settings) (plain : IsPlainPath path)
    (found : Path.lookup bindings path.trim = some value)
    (unmarked : Json.EveryText Escaping.Unmarked value) (distinct : Json.DistinctKeys value) :
    (value.isComposite = true → Json.nesting value ≤ 127 → Json.FreeOfPrototypes value →
        (run (compile settings bindings (.string (placeholderText path))) journal).1 =
            .ok (Json.reread value) ∧
          ((∀ double, Json.Inside (.number (.double double)) value →
              (Json.Number.literal (.double double)).RoundsOnce) →
            (run (compile settings bindings (.string (placeholderText path))) journal).1 =
              .ok value)) ∧
      (settings.parseStrings = true → (value = .null ∨ ∃ truth, value = .bool truth) →
        (run (compile settings bindings (.string (placeholderText path))) journal).1 =
          .ok value) ∧
      (settings.parseStrings = true → ∀ integer bounded,
        value = .number (.integer integer bounded) →
          (run (compile settings bindings (.string (placeholderText path))) journal).1 =
            .ok (if integer.natAbs ≤ 2 ^ 53 - 1 ∨ settings.bigNumbers = true then value
              else .string (Decimal.intText integer))) := by
  refine ⟨?_, ?_, ?_⟩
  · intro composite shallow free
    have shows : shown value = (value.text, false) := by rw [shown, if_pos composite]
    have read := Coercion.parseGuarded_text shallow distinct free
    have compiled : (run (compile settings bindings (.string (placeholderText path))) journal).1 =
        .ok (Json.reread value) := by
      rw [run_compile_placeholderText keeps plain found (by rw [shows]; rfl)
        (by rw [shows]; exact Json.unmarked_text value unmarked), shows]
      exact coerce_text_of_composite composite read _
    refine ⟨compiled, fun once => ?_⟩
    rw [compiled, Json.reread_eq_self value fun number inside => ?_]
    cases number with
    | integer => rfl
    | double double => exact Json.Number.reread_of_roundsOnce (once double inside)
  · intro parsing constant
    have written : Substitution.render value = value.text ∧ '\x7b' ∉ value.text ∧
        value.isComposite = false ∧ Json.nesting value = 0 ∧
        Coercion.isBigNumber value = false ∧ ∀ text, value ≠ .string text := by
      rcases constant with rfl | ⟨truth, rfl⟩
      · exact ⟨rfl, by decide, rfl, rfl, rfl, fun _ same => by cases same⟩
      · exact ⟨rfl, by cases truth <;> decide, rfl, rfl, rfl, fun _ same => by cases same⟩
    obtain ⟨rendered, noBrace, scalar, flat, small, notString⟩ := written
    have same : Json.reread value = value := by
      rcases constant with rfl | ⟨truth, rfl⟩ <;> rfl
    have read := Coercion.parseGuarded_text (flat.trans_le (Nat.zero_le _)) distinct
      (Json.everyObject_of_scalar scalar)
    rw [same] at read
    rw [run_compile_scalar keeps plain found scalar rendered noBrace unmarked]
    exact coerce_text_of_scalar parsing read notString (.inl small) _
  · rintro parsing integer bounded rfl
    have noBrace : '\x7b' ∉ (Json.Number.integer integer bounded).text := fun member =>
      absurd (Json.Number.isNumberCharacter_of_mem_text member) (by decide)
    have read : Json.parseGuarded (Json.number (.integer integer bounded)).text =
        .ok (.number (.integer integer bounded)) :=
      Coercion.parseGuarded_text (Nat.zero_le _) distinct (Json.everyObject_of_scalar rfl)
    rw [run_compile_scalar keeps plain found rfl rfl noBrace unmarked]
    split
    case isTrue accepted =>
      refine coerce_text_of_scalar parsing read (fun _ same => by cases same) ?_ _
      refine accepted.imp_left fun small => ?_
      rw [Coercion.isBigNumber, Json.Number.isSafeInteger_integer, Json.Number.maxSafeInteger,
        decide_eq_true small]
      rfl
    case isFalse refused =>
      rw [not_or] at refused
      refine coerce_text_of_big parsing read ?_ (Bool.eq_false_iff.mpr refused.2) _
      rw [Json.Number.isSafeInteger_integer]
      exact decide_eq_false refused.1

/-- The double nearest to a tenth, negated. -/
def minusTenth : Double :=
  ⟨true, 7205759403792794, -56, by decide, by decide, by decide⟩

/-- The half of an integer of 53 bits. -/
def halfDouble (integer : Nat) (large : 2 ^ 52 ≤ integer ∧ integer < 2 ^ 53) : Double :=
  ⟨false, integer, -1, large.2, by decide, .inr large.1⟩

/-- A document whose keys and strings look like placeholders and hold brackets and quotes. -/
def lookalikes (double : Double) : Json :=
  .object
    [("{{v}}".toList, .array [.string "]{{w}}\\\"".toList, .number (.double minusTenth),
      .number (.double double)]), ("n".toList, .null)]

/-- Variables with such a document and with the least integer that not every reader holds. -/
def lookalikeVariables : Json :=
  .object [("v".toList, lookalikes (halfDouble (2 ^ 53 - 1) (by decide))),
    ("n".toList, .number (.integer (2 ^ 53) (by decide)))]

/-- The document comes back from a strict run that does not read texts, with the one double that its
text does not give again rounded; the integer comes back as text. -/
theorem single_placeholder_keeps_type_lookalikes :
    (run (compile { strict := true, parseStrings := false } lookalikeVariables
        (.string (placeholderText " v ".toList))) []).1 =
          .ok (lookalikes (halfDouble (2 ^ 53 - 2) (by decide))) ∧
      (run (compile {} lookalikeVariables (.string (placeholderText "n".toList))) []).1 =
        .ok (.string "9007199254740992".toList) := by
  have noText {value : Json} (scalar : value.isComposite = false)
      (notString : ∀ text, value ≠ .string text) : Json.EveryText Escaping.Unmarked value :=
    Json.everyText_of_scalar scalar notString
  have free (double : Double) : Json.EveryText Escaping.Unmarked (lookalikes double) ∧
      Json.DistinctKeys (lookalikes double) ∧ Json.FreeOfPrototypes (lookalikes double) := by
    have keys : ["{{v}}".toList, "n".toList].Nodup := by decide
    have distinct : Json.DistinctKeys (lookalikes double) := by
      simp only [lookalikes, Json.DistinctKeys, Json.everyObject_object, Json.everyObject_array,
        List.forall_mem_cons]
      exact ⟨keys, ⟨Json.everyObject_of_scalar rfl, Json.everyObject_of_scalar rfl,
        Json.everyObject_of_scalar rfl, by simp⟩, Json.everyObject_of_scalar rfl, by simp⟩
    refine ⟨?_, distinct, (Json.forbidden?_eq_none_iff _ distinct).mp rfl⟩
    simp only [lookalikes, Json.everyText_object, Json.everyText_array, List.forall_mem_cons,
      Json.everyText_string]
    exact ⟨⟨by decide, by decide, noText rfl fun _ same => (by cases same),
      noText rfl fun _ same => (by cases same), by simp⟩,
      ⟨by decide, noText rfl fun _ same => by cases same⟩, by simp⟩
  have rounded : Json.reread (lookalikes (halfDouble (2 ^ 53 - 1) (by decide))) =
      lookalikes (halfDouble (2 ^ 53 - 2) (by decide)) := by
    have same : (Json.Number.double minusTenth).reread = .double minusTenth := by decide +kernel
    have other : (Json.Number.double (halfDouble (2 ^ 53 - 1) (by decide))).reread =
        .double (halfDouble (2 ^ 53 - 2) (by decide)) := by decide +kernel
    simp only [lookalikes, Json.reread, Json.rereadMembers, Json.rereadItems, same, other]
  obtain ⟨unmarked, distinct, noPrototypes⟩ := free (halfDouble (2 ^ 53 - 1) (by decide))
  have document := single_placeholder_keeps_type { strict := true, parseStrings := false }
    lookalikeVariables " v ".toList _ [] ⟨rfl, rfl, rfl, rfl, rfl, by decide⟩
    ⟨by decide, by simp⟩ rfl unmarked distinct
  have integer := single_placeholder_keeps_type {} lookalikeVariables "n".toList
    (.number (.integer (2 ^ 53) (by decide))) [] ⟨rfl, rfl, rfl, rfl, rfl, by decide⟩
    ⟨by decide, by simp⟩ rfl (noText rfl fun _ same => by cases same)
    (Json.everyObject_of_scalar rfl)
  refine ⟨?_, integer.2.2 rfl _ _ rfl⟩
  rw [(document.1 rfl (by decide) noPrototypes).1, rounded]

end Template

end Stencil
