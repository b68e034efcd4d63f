/-
This file proves that an object of settings is the settings that its members list, made one after
another in any order.

Each member lists one setting, by a name and a value of the kind that the setting asks for; a
pattern is a source or a pair of delimiters. An object is refused if one of its members lists
nothing or if two of them list the same setting, by whichever of its names. A member that is read
fills the place of its setting and leaves the other places as they are, which is what making the
setting does to the settings that are taken from the places. Settings of different names are made in
either order, so the order of the members does not matter.
-/

import Mathlib.Data.List.Forall2
import Mathlib.Data.List.Nodup
import Mathlib.Data.List.Perm.Basic
import Stencil.Proofs.JsonReading
import Stencil.Proofs.PatternSource
import Stencil.Settings.FromJson

namespace Stencil

/-! ### Settings in any order -/

/-- The name by which a document can give the setting. -/
def Setting.name? : Setting → Option SettingName
  | .strict _ => some .strict
  | .keepUnresolved _ => some .keepUnresolved
  | .finalComposites _ => some .finalComposites
  | .parseStrings _ => some .parseStrings
  | .bigNumbers _ => some .bigNumbers
  | .maxPasses _ => some .maxPasses
  | .pattern _ => some .pattern
  | .escape _ => some .escape
  | .resolver _ => none
  | .transform _ => none

namespace Settings

theorem apply_comm {first second : Setting} (different : first.name? ≠ second.name?)
    (settings : Settings) :
    (settings.apply first).apply second = (settings.apply second).apply first := by
  cases first <;> cases second <;> first | rfl | exact absurd rfl different

/-- Settings of different names are made in any order. -/
theorem applyAll_perm {made order : List Setting} (once : (made.map Setting.name?).Nodup)
    (reordered : order.Perm made) (settings : Settings) :
    settings.applyAll order = settings.applyAll made := by
  refine (reordered.symm.foldl_eq' (fun first firstMade second secondMade settings => ?_) _).symm
  -- Two of the settings that share a name are the same one.
  by_cases same : first.name? = second.name?
  · rw [List.inj_on_of_nodup_map once firstMade secondMade same]
  · exact apply_comm same settings

end Settings

/-! ### Places -/

namespace Given

/-- Nothing is in the place of the setting. -/
def Lacks (given : Given) : SettingName → Prop
  | .strict => given.strict = none
  | .keepUnresolved => given.keepUnresolved = none
  | .finalComposites => given.finalComposites = none
  | .parseStrings => given.parseStrings = none
  | .bigNumbers => given.bigNumbers = none
  | .maxPasses => given.maxPasses = none
  | .pattern => given.pattern = none
  | .escape => given.escape = none

/-- What is given with the setting in its place. A hook has none. -/
def record (given : Given) : Setting → Given
  | .strict value => { given with strict := some value }
  | .keepUnresolved value => { given with keepUnresolved := some value }
  | .finalComposites value => { given with finalComposites := some value }
  | .parseStrings value => { given with parseStrings := some value }
  | .bigNumbers value => { given with bigNumbers := some value }
  | .maxPasses value => { given with maxPasses := some value }
  | .pattern value => { given with pattern := some value }
  | .escape value => { given with escape := some value }
  | .resolver _ => given
  | .transform _ => given

variable {given : Given} {setting : Setting} {name : SettingName}

theorem lacks_empty (name : SettingName) : Lacks {} name := by
  cases name <;> rfl

/-- A setting fills its own place and no other one. -/
theorem lacks_record_iff (named : setting.name? = some name) {other : SettingName} :
    (given.record setting).Lacks other ↔ other ≠ name ∧ given.Lacks other := by
  cases setting <;> cases named <;> cases other <;> simp [Lacks, record]

/-- The settings taken from the places follow the setting that is put into its place. -/
theorem settings_record (named : setting.name? = some name) :
    (given.record setting).settings = given.settings.apply setting := by
  cases setting <;> first | rfl | cases named

theorem settings_foldl_record {made : List Setting}
    (named : ∀ setting ∈ made, ∃ name, setting.name? = some name) :
    (made.foldl record given).settings = given.settings.applyAll made := by
  induction made generalizing given with
  | nil => rfl
  | cons setting made inductionHypothesis =>
    rw [List.forall_mem_cons] at named
    obtain ⟨⟨name, first⟩, others⟩ := named
    rw [List.foldl_cons, inductionHypothesis others, settings_record first]
    rfl

end Given

/-! ### Members by name -/

section

variable {Value : Type} {reader : ValueReader Value}

/-- The setting that a value makes. -/
def SettingName.setting? (reader : ValueReader Value) (value : Value) :
    SettingName → Option Setting
  | strict => (reader.flag? value).map .strict
  | keepUnresolved => (reader.flag? value).map .keepUnresolved
  | finalComposites => (reader.flag? value).map .finalComposites
  | parseStrings => (reader.flag? value).map .parseStrings
  | bigNumbers => (reader.flag? value).map .bigNumbers
  | maxPasses => (reader.count? value).map .maxPasses
  | pattern => (reader.pattern? value).map .pattern
  | escape => (reader.text? value).map .escape

/-- The member's name and value make the setting. -/
def Gives (reader : ValueReader Value) (member : Text × Value) (setting : Setting) : Prop :=
  ∃ name, SettingName.ofText? member.1 = some name ∧
    name.setting? reader member.2 = some setting

theorem SettingName.name?_of_setting? {name : SettingName} {value : Value} {setting : Setting}
    (made : name.setting? reader value = some setting) : setting.name? = some name := by
  cases name <;> obtain ⟨_, _, rfl⟩ := Option.map_eq_some_iff.mp made <;> rfl

theorem exists_name_of_gives {members : List (Text × Value)} {made : List Setting}
    (gives : List.Forall₂ (Gives reader) members made) :
    ∀ setting ∈ made, ∃ name, setting.name? = some name := by
  induction gives with
  | nil => exact fun _ isMade => absurd isMade List.not_mem_nil
  | cons first _ others =>
    obtain ⟨name, _, makes⟩ := first
    exact List.forall_mem_cons.mpr ⟨⟨name, SettingName.name?_of_setting? makes⟩, others⟩

namespace Given

theorem fill?_eq_some_iff {Kind : Type} {place read filled : Option Kind} :
    fill? place read = some filled ↔ place = none ∧ ∃ value, read = some value ∧
      filled = some value := by
  cases place <;> cases read <;> simp [fill?, eq_comm]

/-- A value is put into a place if the place is empty and the value makes the setting. -/
theorem put?_eq_some_iff {given after : Given} {value : Value} {name : SettingName} :
    given.put? reader value name = some after ↔ given.Lacks name ∧
      ∃ setting, name.setting? reader value = some setting ∧ after = given.record setting := by
  have step {Kind : Type} {place read : Option Kind} {store : Option Kind → Given}
      {wrap : Kind → Setting} (same : ∀ value, given.record (wrap value) = store (some value)) :
      (fill? place read).map store = some after ↔ place = none ∧
        ∃ setting, read.map wrap = some setting ∧ after = given.record setting := by
    simp only [Option.map_eq_some_iff, fill?_eq_some_iff]
    constructor
    · rintro ⟨_, ⟨empty, value, read, rfl⟩, rfl⟩
      exact ⟨empty, wrap value, ⟨value, read, rfl⟩, (same value).symm⟩
    · rintro ⟨empty, _, ⟨value, read, rfl⟩, rfl⟩
      exact ⟨some value, ⟨empty, value, read, rfl⟩, (same value).symm⟩
  cases name <;> exact step fun _ => rfl

theorem putMembers?_cons_eq_some_iff {given after : Given} {member : Text × Value}
    {rest : List (Text × Value)} :
    putMembers? reader given (member :: rest) = some after ↔
      ∃ name setting, SettingName.ofText? member.1 = some name ∧ given.Lacks name ∧
        name.setting? reader member.2 = some setting ∧
        putMembers? reader (given.record setting) rest = some after := by
  rw [putMembers?]
  simp only [Option.bind_eq_bind, Option.bind_eq_some_iff, put?_eq_some_iff]
  constructor
  · rintro ⟨name, named, _, ⟨empty, setting, makes, rfl⟩, later⟩
    exact ⟨name, setting, named, empty, makes, later⟩
  · rintro ⟨name, setting, named, empty, makes, later⟩
    exact ⟨name, named, _, ⟨empty, setting, makes, rfl⟩, later⟩

/-- Members are read if each of them gives a setting, none twice and none whose place is filled. -/
theorem putMembers?_eq_some_iff {given after : Given} {members : List (Text × Value)} :
    putMembers? reader given members = some after ↔ ∃ made,
      List.Forall₂ (Gives reader) members made ∧ (made.map Setting.name?).Nodup ∧
        (∀ name, some name ∈ made.map Setting.name? → given.Lacks name) ∧
        after = made.foldl record given := by
  induction members generalizing given with
  | nil =>
    simp only [putMembers?, Option.some_inj, List.forall₂_nil_left_iff, exists_eq_left]
    simp [eq_comm]
  | cons member rest inductionHypothesis =>
    rw [putMembers?_cons_eq_some_iff]
    constructor
    · rintro ⟨name, setting, named, empty, makes, later⟩
      obtain ⟨others, each, once, apart, rfl⟩ := inductionHypothesis.mp later
      have isNamed := SettingName.name?_of_setting? makes
      refine ⟨setting :: others, .cons ⟨name, named, makes⟩ each, ?_, fun other isMade => ?_, rfl⟩
      · -- a member that gives the setting again finds its place filled
        rw [List.map_cons, isNamed, List.nodup_cons]
        exact ⟨fun again => ((lacks_record_iff isNamed).mp (apart name again)).1 rfl, once⟩
      · rw [List.map_cons, isNamed, List.mem_cons] at isMade
        rcases isMade with same | isMade
        · rwa [Option.some.inj same]
        · exact ((lacks_record_iff isNamed).mp (apart other isMade)).2
    · rintro ⟨made, gives, once, apart, rfl⟩
      obtain ⟨setting, others, ⟨name, named, makes⟩, each, rfl⟩ :=
        List.forall₂_cons_left_iff.mp gives
      have isNamed := SettingName.name?_of_setting? makes
      rw [List.map_cons, isNamed] at once apart
      rw [List.nodup_cons] at once
      refine ⟨name, setting, named, apart name List.mem_cons_self, makes,
        inductionHypothesis.mpr ⟨others, each, once.2, fun other isMade => ?_, rfl⟩⟩
      refine (lacks_record_iff isNamed).mpr ⟨?_, apart other (List.mem_cons_of_mem _ isMade)⟩
      rintro rfl
      exact once.1 isMade

/-- The settings of a document are those that its members give, made one after another. -/
theorem settings_putMembers?_eq_some_iff {members : List (Text × Value)} {settings : Settings} :
    (putMembers? reader {} members).map Given.settings = some settings ↔ ∃ made,
      List.Forall₂ (Gives reader) members made ∧ (made.map Setting.name?).Nodup ∧
        settings = Settings.applyAll {} made := by
  have folded {made : List Setting} (gives : List.Forall₂ (Gives reader) members made) :
      (made.foldl record {}).settings = Settings.applyAll {} made :=
    settings_foldl_record (exists_name_of_gives gives)
  simp only [Option.map_eq_some_iff, putMembers?_eq_some_iff]
  constructor
  · rintro ⟨_, ⟨made, gives, once, _, rfl⟩, rfl⟩
    exact ⟨made, gives, once, folded gives⟩
  · rintro ⟨made, gives, once, rfl⟩
    exact ⟨_, ⟨made, gives, once, fun name _ => lacks_empty name, rfl⟩, folded gives⟩

end Given

end

/-! ### Values of each kind -/

namespace Json

/-- The key is there once, with the value. -/
def GivenOnce (members : Members) (key : Text) (value : Json) : Prop :=
  ∃ before after, members = before ++ (key, value) :: after ∧
    key ∉ before.map Prod.fst ∧ key ∉ after.map Prod.fst

/-- A pattern in a document: the source of its expression, or an object with the two delimiters and
perhaps more. -/
inductive Describes : Json → Pattern → Prop where
  | source {source : Text} {pattern : Pattern} (parsed : Pattern.parse source = .ok pattern) :
      Describes (.string source) pattern
  | delimiters {members : Members} {opening closing : Text} {pattern : Pattern}
      (opens : GivenOnce members "open".toList (.string opening))
      (closes : GivenOnce members "close".toList (.string closing))
      (made : Pattern.ofDelimiters opening closing = .ok pattern) :
      Describes (.object members) pattern

/-- A member of an object of settings, with the setting that it lists. A pattern nests only so deep
that an object around it can be read. -/
inductive Makes : Text × Json → Setting → Prop where
  | strict (flag : Bool) : Makes ("strict".toList, .bool flag) (.strict flag)
  | keepUnresolved (flag : Bool) :
      Makes ("preserveUndefined".toList, .bool flag) (.keepUnresolved flag)
  | finalComposites (flag : Bool) :
      Makes ("autoStringifyObjects".toList, .bool flag) (.finalComposites flag)
  | parseStrings (flag : Bool) : Makes ("parseStrings".toList, .bool flag) (.parseStrings flag)
  | bigNumbers (flag : Bool) : Makes ("parseBigInts".toList, .bool flag) (.bigNumbers flag)
  | oldBigNumbers (flag : Bool) : Makes ("parseBinInts".toList, .bool flag) (.bigNumbers flag)
  | maxPasses (count : Nat) (bounded : -2 ^ 63 ≤ (count : Int) ∧ (count : Int) < 2 ^ 64) :
      Makes ("maxVariableDepth".toList, .number (.integer count bounded)) (.maxPasses count)
  | pattern {value : Json} {pattern : Pattern} (described : Describes value pattern)
      (fits : nesting value < maxDepth) :
      Makes ("variablePattern".toList, value) (.pattern pattern)
  | escape (escape : Text) : Makes ("escapeCharacter".toList, .string escape) (.escape escape)

/-- The members list the settings, none of them twice. -/
structure Lists (members : Members) (made : List Setting) : Prop where
  each : List.Forall₂ Makes members made
  once : (made.map Setting.name?).Nodup

theorem toOption_eq_some_iff {made : Except PatternError Pattern} {pattern : Pattern} :
    made.toOption = some pattern ↔ made = .ok pattern := by
  cases made <;> simp [Except.toOption]

theorem flag?_eq_some_iff {value : Json} {flag : Bool} :
    value.flag? = some flag ↔ value = .bool flag := by
  cases value <;> simp [flag?]

theorem text?_eq_some_iff {value : Json} {text : Text} :
    value.text? = some text ↔ value = .string text := by
  cases value <;> simp [text?]

theorem count?_eq_some_iff {value : Json} {count : Nat} :
    value.count? = some count ↔ ∃ bounded, value = .number (.integer count bounded) := by
  constructor
  · intro counted
    unfold count? at counted
    split at counted
    · rename_i integer bounded
      split at counted
      · rename_i unsigned
        cases counted
        have same : (integer.toNat : Int) = integer := Int.toNat_of_nonneg unsigned
        refine ⟨same.symm ▸ bounded, ?_⟩
        congr
        exact same.symm
      · cases counted
    · cases counted
  · rintro ⟨bounded, rfl⟩
    rw [count?, if_pos (Int.natCast_nonneg count)]
    rfl

theorem givenOnce_iff {members : Members} {key : Text} {value : Json} :
    GivenOnce members key value ↔
      ∃ first, members.filter (fun member => member.1 == key) = [(first, value)] := by
  have absent {others : Members} : key ∉ others.map Prod.fst ↔
      ∀ member ∈ others, ¬ (member.1 == key) = true := by
    simp only [List.mem_map, beq_iff_eq, not_exists, not_and]
  constructor
  · rintro ⟨before, after, rfl, notBefore, notAfter⟩
    refine ⟨key, ?_⟩
    rw [List.filter_append, List.filter_cons, if_pos (beq_iff_eq.mpr rfl),
      List.filter_eq_nil_iff.mpr (absent.mp notBefore),
      List.filter_eq_nil_iff.mpr (absent.mp notAfter)]
    rfl
  · rintro ⟨first, only⟩
    obtain ⟨before, after, rfl, notBefore, same, later⟩ := List.filter_eq_cons_iff.mp only
    obtain rfl : first = key := beq_iff_eq.mp same
    exact ⟨before, after, rfl, absent.mpr notBefore, absent.mpr (List.filter_eq_nil_iff.mp later)⟩

theorem ofMembers?_eq_some_iff {members : Members} {pattern : Pattern} :
    Pattern.ofMembers? text? members = some pattern ↔ ∃ opening closing,
      GivenOnce members "open".toList (.string opening) ∧
      GivenOnce members "close".toList (.string closing) ∧
      Pattern.ofDelimiters opening closing = .ok pattern := by
  simp only [givenOnce_iff]
  constructor
  · intro read
    unfold Pattern.ofMembers? at read
    dsimp only at read
    split at read
    · rename_i opens closes
      split at read
      · rename_i isOpening isClosing
        rw [text?_eq_some_iff] at isOpening isClosing
        subst isOpening isClosing
        exact ⟨_, _, ⟨_, opens⟩, ⟨_, closes⟩, toOption_eq_some_iff.mp read⟩
      · cases read
    · cases read
  · rintro ⟨opening, closing, ⟨_, opens⟩, ⟨_, closes⟩, made⟩
    simp only [Pattern.ofMembers?, opens, closes, text?, made]
    rfl

theorem pattern?_eq_some_iff {value : Json} {pattern : Pattern} :
    value.pattern? = some pattern ↔ Describes value pattern := by
  constructor
  · intro read
    unfold pattern? at read
    split at read
    · exact .source (toOption_eq_some_iff.mp read)
    · obtain ⟨opening, closing, opens, closes, made⟩ := ofMembers?_eq_some_iff.mp read
      exact .delimiters opens closes made
    · cases read
  · rintro (parsed | ⟨opens, closes, made⟩)
    · exact toOption_eq_some_iff.mpr parsed
    · exact ofMembers?_eq_some_iff.mpr ⟨_, _, opens, closes, made⟩

theorem makes_of_gives {key : Text} {value : Json} {setting : Setting}
    (fits : nesting value < maxDepth) (gives : Gives valueReader (key, value) setting) :
    Makes (key, value) setting := by
  obtain ⟨name, named, made⟩ := gives
  have spelled {word : String} (same : String.ofList key = word) : key = word.toList := by
    rw [← same, String.toList_ofList]
  have flagged {wrap : Bool → Setting} (made : value.flag?.map wrap = some setting) :
      ∃ flag, value = .bool flag ∧ setting = wrap flag := by
    obtain ⟨flag, isFlag, rfl⟩ := Option.map_eq_some_iff.mp made
    exact ⟨flag, flag?_eq_some_iff.mp isFlag, rfl⟩
  dsimp only at named
  unfold SettingName.ofText? at named
  split at named
  case h_10 => cases named
  all_goals
    rename_i same
    obtain rfl := spelled same
    cases named
  case h_1 =>
    obtain ⟨flag, rfl, rfl⟩ := flagged made
    exact .strict flag
  case h_2 =>
    obtain ⟨flag, rfl, rfl⟩ := flagged made
    exact .keepUnresolved flag
  case h_3 =>
    obtain ⟨flag, rfl, rfl⟩ := flagged made
    exact .finalComposites flag
  case h_4 =>
    obtain ⟨flag, rfl, rfl⟩ := flagged made
    exact .parseStrings flag
  case h_5 =>
    obtain ⟨flag, rfl, rfl⟩ := flagged made
    exact .bigNumbers flag
  case h_6 =>
    obtain ⟨flag, rfl, rfl⟩ := flagged made
    exact .oldBigNumbers flag
  case h_7 =>
    obtain ⟨count, isCount, rfl⟩ := Option.map_eq_some_iff.mp made
    obtain ⟨bounded, isNumber⟩ := count?_eq_some_iff.mp isCount
    obtain rfl : value = _ := isNumber
    exact .maxPasses count bounded
  case h_8 =>
    obtain ⟨pattern, isPattern, rfl⟩ := Option.map_eq_some_iff.mp made
    exact .pattern (pattern?_eq_some_iff.mp isPattern) fits
  case h_9 =>
    obtain ⟨escape, isText, rfl⟩ := Option.map_eq_some_iff.mp made
    obtain rfl : value = _ := text?_eq_some_iff.mp isText
    exact .escape escape

theorem gives_of_makes {member : Text × Json} {setting : Setting} (makes : Makes member setting) :
    nesting member.2 < maxDepth ∧ Gives valueReader member setting := by
  have shallow : 0 < maxDepth := by decide
  cases makes with
  | strict => exact ⟨shallow, .strict, rfl, rfl⟩
  | keepUnresolved => exact ⟨shallow, .keepUnresolved, rfl, rfl⟩
  | finalComposites => exact ⟨shallow, .finalComposites, rfl, rfl⟩
  | parseStrings => exact ⟨shallow, .parseStrings, rfl, rfl⟩
  | bigNumbers => exact ⟨shallow, .bigNumbers, rfl, rfl⟩
  | oldBigNumbers => exact ⟨shallow, .bigNumbers, rfl, rfl⟩
  | maxPasses count bounded =>
    exact ⟨shallow, .maxPasses, rfl,
      Option.map_eq_some_iff.mpr ⟨count, count?_eq_some_iff.mpr ⟨bounded, rfl⟩, rfl⟩⟩
  | pattern described fits =>
    exact ⟨fits, .pattern, rfl,
      Option.map_eq_some_iff.mpr ⟨_, pattern?_eq_some_iff.mpr described, rfl⟩⟩
  | escape => exact ⟨shallow, .escape, rfl, rfl⟩

/-- The members that list a setting are those that give one and nest only so deep. -/
theorem makes_iff {member : Text × Json} {setting : Setting} :
    Makes member setting ↔ nesting member.2 < maxDepth ∧ Gives valueReader member setting :=
  ⟨gives_of_makes, fun ⟨fits, gives⟩ => makes_of_gives fits gives⟩

theorem nesting_object_le_iff {members : Members} :
    nesting (.object members) ≤ maxDepth ↔ ∀ member ∈ members, nesting member.2 < maxDepth := by
  rw [nesting, maxDepth, Nat.succ_le_succ_iff, nestingOfMembers_le_iff]
  simp only [Nat.lt_succ_iff]

/-- What the members list is what is read from them, in an object that nests only so deep. -/
theorem exists_lists_iff {members : Members} {settings : Settings} :
    (∃ made, Lists members made ∧ settings = Settings.applyAll {} made) ↔
      nesting (.object members) ≤ maxDepth ∧
        (Given.putMembers? valueReader {} members).map Given.settings = some settings := by
  have each {made : List Setting} : List.Forall₂ Makes members made ↔
      (∀ member ∈ members, nesting member.2 < maxDepth) ∧
        List.Forall₂ (Gives valueReader) members made := by
    rw [← List.forall₂_and_left]
    exact ⟨.imp fun _ _ => makes_iff.mp, .imp fun _ _ => makes_iff.mpr⟩
  rw [nesting_object_le_iff, Given.settings_putMembers?_eq_some_iff]
  constructor
  · rintro ⟨made, ⟨makes, once⟩, rfl⟩
    obtain ⟨fits, gives⟩ := each.mp makes
    exact ⟨fits, made, gives, once, rfl⟩
  · rintro ⟨fits, made, gives, once, rfl⟩
    exact ⟨made, ⟨each.mpr ⟨fits, gives⟩, once⟩, rfl⟩

/-- Members in another order list the same settings in another order. -/
theorem Lists.perm {members others : Members} {made : List Setting} (lists : Lists members made)
    (reordered : others.Perm members) : ∃ order, Lists others order ∧ order.Perm made := by
  obtain ⟨order, each, same⟩ := List.perm_comp_forall₂ reordered lists.each
  exact ⟨order, ⟨each, (same.map Setting.name?).nodup_iff.mpr lists.once⟩, same⟩

end Json

namespace Settings

open Json

theorem ofJson?_eq_some_iff {text : Text} {members : Members}
    (isObject : Grammar.IsDocument text (.object members)) {settings : Settings} :
    ofJson? text = some settings ↔ ∃ made, Lists members made ∧ settings = applyAll {} made := by
  by_cases fits : nesting (.object members) ≤ maxDepth
  · have read : read? text = some (.object members) :=
      readWithin?_eq_some_iff.mpr (isDocumentWithin_iff.mpr ⟨isObject, fits⟩)
    rw [exists_lists_iff, and_iff_right fits, ofJson?, read]
  · -- An object that nests too deep is not read, and one of its members lists nothing either.
    have unread : read? text = none := by
      refine Option.eq_none_iff_forall_ne_some.mpr fun written read => fits ?_
      obtain ⟨isDocument, shallow⟩ := isDocumentWithin_iff.mp (readWithin?_eq_some_iff.mp read)
      rwa [isDocument_unique isDocument isObject] at shallow
    rw [exists_lists_iff, ofJson?, unread]
    exact iff_of_false (Option.some_ne_none _).symm (fits ·.1)

/-- A document sets no hook. -/
theorem hooks_of_ofJson? {text : Text} {settings : Settings}
    (found : ofJson? text = some settings) :
    settings.resolver = none ∧ settings.transform = none := by
  unfold ofJson? at found
  split at found
  case h_3 => cases found
  all_goals
    obtain ⟨given, _, rfl⟩ := Option.map_eq_some_iff.mp found
    exact ⟨rfl, rfl⟩

/-- An object of settings is the settings that its members list, made in any order; it is refused
if the members do not list settings. It sets no hook, and the order of the members does not
matter. -/
theorem ofJson?_of_members {text : Text} {members : Members}
    (isObject : Grammar.IsDocument text (.object members)) :
    (∀ made, Lists members made → ∀ order, order.Perm made →
      ofJson? text = some (applyAll {} order)) ∧
    ((¬ ∃ made, Lists members made) → ofJson? text = none) ∧
    (∀ settings, ofJson? text = some settings →
      settings.resolver = none ∧ settings.transform = none) ∧
    ∀ other others, Grammar.IsDocument other (.object others) → others.Perm members →
      ofJson? other = ofJson? text := by
  refine ⟨fun made lists order reordered => ?_, fun none => ?_, fun settings found => ?_,
    fun other others isOther reordered => ?_⟩
  · exact (ofJson?_eq_some_iff isObject).mpr
      ⟨made, lists, applyAll_perm lists.once reordered {}⟩
  · refine Option.eq_none_iff_forall_ne_some.mpr fun settings found => none ?_
    obtain ⟨made, lists, _⟩ := (ofJson?_eq_some_iff isObject).mp found
    exact ⟨made, lists⟩
  · exact hooks_of_ofJson? found
  · have moved {first second : Members} (reordered : second.Perm first) {settings : Settings} :
        (∃ made, Lists first made ∧ settings = applyAll {} made) →
          ∃ made, Lists second made ∧ settings = applyAll {} made := by
      rintro ⟨made, lists, rfl⟩
      obtain ⟨order, listsOrder, same⟩ := lists.perm reordered
      exact ⟨order, listsOrder, (applyAll_perm lists.once same {}).symm⟩
    refine Option.ext fun settings => ?_
    rw [ofJson?_eq_some_iff isOther, ofJson?_eq_some_iff isObject]
    exact ⟨moved reordered.symm, moved reordered⟩

/-- A document that gives a bound, a pair of delimiters and, by its older name, a flag. -/
def sampleText : Text :=
  "\x7b\"maxVariableDepth\": 4, \"variablePattern\": ".toList ++
    "\x7b\"close\": \"\x7d\x7d\", \"open\": \"\x7b\x7b\"\x7d, ".toList ++
    "\"parseBinInts\": true\x7d".toList

/-- The pair of delimiters in `sampleText`. -/
def sampleDelimiters : Members :=
  [("close".toList, .string defaultClosing),
    ("open".toList, .string defaultOpening)]

/-- The members of `sampleText`. -/
def sampleMembers : Members :=
  [("maxVariableDepth".toList, .number (.integer 4 (by decide))),
    ("variablePattern".toList, .object sampleDelimiters), ("parseBinInts".toList, .bool true)]

theorem ofJson?_of_members_reversed :
    Grammar.IsDocument sampleText (.object sampleMembers) ∧ ofJson? sampleText =
      some (applyAll {} [.bigNumbers true, .pattern .default, .maxPasses 4]) := by
  have isObject : Grammar.IsDocument sampleText (.object sampleMembers) :=
    ⟨maxDepth, readWithin?_eq_some_iff.mp rfl⟩
  have opens : GivenOnce sampleDelimiters "open".toList (.string defaultOpening) :=
    ⟨[("close".toList, .string defaultClosing)], [], rfl, by decide, by decide⟩
  have closes : GivenOnce sampleDelimiters "close".toList (.string defaultClosing) :=
    ⟨[], [("open".toList, .string defaultOpening)], rfl, by decide, by decide⟩
  have described := Describes.delimiters opens closes Pattern.ofDelimiters_default
  have lists : Lists sampleMembers [.maxPasses 4, .pattern .default, .bigNumbers true] :=
    ⟨.cons (.maxPasses 4 _) (.cons (.pattern described (by decide))
      (.cons (.oldBigNumbers true) .nil)), by decide⟩
  have reversed := List.reverse_perm [Setting.maxPasses 4, .pattern .default, .bigNumbers true]
  exact ⟨isObject, (ofJson?_of_members isObject).1 _ lists _ reversed⟩

end Settings

end Stencil
