/-
This file proves that reading a document is local: what a reader leaves is the end of the text that
it is given, and no part at the very end of what it leaves has a say in what it reads. So a text
that has been read up to some place is read the same if it is cut off there.

A reader that looks ahead is local all the same if the end of the text stops it like a character
that does not go on, and all readers of documents are of that kind. Each of them is put together
from readers of one character, and locality goes through the ways in which they are put together. A
bound on the turns of a reader is never met, for each turn takes a character.
-/

import Mathlib.Data.List.DropRight
import Mathlib.Data.List.Infix
import Mathlib.Data.List.TakeWhile
import Stencil.Proofs.NumberText

namespace Stencil.Json

/-! ### Local readers -/

/-- What the reader leaves is the end of the text, and it reads the same without an end of what it
leaves. -/
structure IsLocal {Value : Type} (read : Text → Option (Value × Text)) : Prop where
  leaves : ∀ text value rest, read text = some (value, rest) → rest <:+ text
  cuts : ∀ text tail value rest, read (text ++ tail) = some (value, rest ++ tail) →
    read text = some (value, rest)

/-- What the reader leaves is shorter than the text. -/
def TakesText {Value : Type} (read : Text → Option (Value × Text)) : Prop :=
  ∀ text value rest, read text = some (value, rest) → rest.length < text.length

section

variable {First Second Value : Type}

/-- A text that ends with more than a tail is one before the tail. -/
theorem eq_append_of_suffix {text rest tail : Text} (ends : rest ++ tail <:+ text) :
    ∃ front, text = front ++ tail ∧ rest <:+ front := by
  obtain ⟨before, rfl⟩ := ends
  exact ⟨before ++ rest, (List.append_assoc _ _ _).symm, List.suffix_append before rest⟩

theorem not_suffix_of_shorter {text rest tail : Text} (shorter : text.length < tail.length) :
    ¬ rest ++ tail <:+ text := by
  intro ends
  have length := ends.length_le
  rw [List.length_append] at length
  omega

theorem IsLocal.congr {read other : Text → Option (Value × Text)} (otherLocal : IsLocal other)
    (same : ∀ text, read text = other text) : IsLocal read :=
  (funext same : read = other) ▸ otherLocal

theorem isLocal_none : IsLocal fun _ => (none : Option (Value × Text)) :=
  ⟨fun _ _ _ read => (by cases read), fun _ _ _ _ read => by cases read⟩

theorem isLocal_some (value : Value) : IsLocal fun text => some (value, text) := by
  refine ⟨fun _ _ _ read => ?_, fun _ _ _ _ read => ?_⟩
  · cases read
    exact List.suffix_refl _
  · obtain ⟨same, sameText⟩ := Prod.mk.injEq .. ▸ Option.some.inj read
    rw [same, List.append_cancel_right sameText]

theorem IsLocal.bind {first : Text → Option (First × Text)}
    {second : First → Text → Option (Second × Text)} (firstLocal : IsLocal first)
    (secondLocal : ∀ value, IsLocal (second value)) :
    IsLocal fun text => (first text).bind fun (value, rest) => second value rest := by
  refine ⟨fun text _ rest read => ?_, fun text tail _ rest read => ?_⟩
  · obtain ⟨⟨value, between⟩, readFirst, readSecond⟩ := Option.bind_eq_some_iff.mp read
    exact ((secondLocal value).leaves _ _ _ readSecond).trans (firstLocal.leaves _ _ _ readFirst)
  · obtain ⟨⟨value, between⟩, readFirst, readSecond⟩ := Option.bind_eq_some_iff.mp read
    obtain ⟨front, rfl, _⟩ := eq_append_of_suffix ((secondLocal value).leaves _ _ _ readSecond)
    exact Option.bind_eq_some_iff.mpr
      ⟨⟨value, front⟩, firstLocal.cuts _ _ _ _ readFirst,
        (secondLocal value).cuts _ _ _ _ readSecond⟩

theorem IsLocal.map {read : Text → Option (First × Text)} (readLocal : IsLocal read)
    (change : First → Second) :
    IsLocal fun text => (read text).map fun (value, rest) => (change value, rest) := by
  refine ⟨fun _ _ _ found => ?_, fun _ _ _ _ found => ?_⟩
  · obtain ⟨⟨value, rest⟩, done, same⟩ := Option.map_eq_some_iff.mp found
    cases same
    exact readLocal.leaves _ _ _ done
  · obtain ⟨⟨value, rest⟩, done, same⟩ := Option.map_eq_some_iff.mp found
    cases same
    exact Option.map_eq_some_iff.mpr ⟨_, readLocal.cuts _ _ _ _ done, rfl⟩

/-- A reader that takes the first character and goes on with a local reader is local. -/
theorem isLocal_of_cons {read : Text → Option (Value × Text)} (none : read [] = none)
    (behind : ∀ head, IsLocal fun rest => read (head :: rest)) : IsLocal read := by
  refine ⟨fun text value rest found => ?_, fun text tail value rest found => ?_⟩
  · cases text with
    | nil =>
      rw [none] at found
      cases found
    | cons head text =>
      exact ((behind head).leaves _ _ _ found).trans (List.suffix_cons head text)
  · cases text with
    | cons head text => exact (behind head).cuts _ _ _ _ found
    | nil =>
      cases tail with
      | nil =>
        rw [List.append_nil] at found
        rw [List.append_nil, none] at found
        cases found
      | cons head tail =>
        exact absurd ((behind head).leaves _ _ _ found) (not_suffix_of_shorter (Nat.lt_succ_self _))

/-- A reader that takes the first character takes text. -/
theorem takesText_of_cons {read : Text → Option (Value × Text)} (none : read [] = none)
    (behind : ∀ head, IsLocal fun rest => read (head :: rest)) : TakesText read := by
  intro text value rest found
  cases text with
  | nil =>
    rw [none] at found
    cases found
  | cons head text => exact Nat.lt_succ_of_le ((behind head).leaves _ _ _ found).length_le

/-- A reader of texts that start with a character, local behind it, is local and takes text. -/
theorem isLocal_of_expected {read : Text → Option (Value × Text)} (expected : Char)
    (behind : IsLocal fun rest => read (expected :: rest))
    (other : ∀ text, (∀ rest, text ≠ expected :: rest) → read text = none) :
    IsLocal read ∧ TakesText read := by
  have atEnd : read [] = none := other [] fun _ => (List.cons_ne_nil _ _).symm
  have each (head : Char) : IsLocal fun rest => read (head :: rest) := by
    by_cases same : head = expected
    · rw [same]
      exact behind
    · exact isLocal_none.congr fun rest => other _ fun _ found => same (List.cons.inj found).1
  exact ⟨isLocal_of_cons atEnd each, takesText_of_cons atEnd each⟩

/-- A reader that takes the first character and goes on with a local reader, or takes nothing, as it
does at the end of the text, is local. -/
theorem isLocal_of_optional {read : Text → Option (Value × Text)} {absent : Value}
    (atEnd : read [] = some (absent, []))
    (behind : ∀ head, (IsLocal fun rest => read (head :: rest)) ∨
      ∀ rest, read (head :: rest) = some (absent, head :: rest)) : IsLocal read := by
  refine ⟨fun text value rest found => ?_, fun text tail value rest found => ?_⟩
  · cases text with
    | nil =>
      rw [atEnd] at found
      cases found
      exact List.suffix_refl []
    | cons head text =>
      rcases behind head with takes | stops
      · exact (takes.leaves _ _ _ found).trans (List.suffix_cons head text)
      · rw [stops] at found
        cases found
        exact List.suffix_refl _
  · have stopped {text : Text} (stops : read text = some (absent, text)) {tail : Text}
        (found : some (absent, text ++ tail) = some (value, rest ++ tail)) :
        read text = some (value, rest) := by
      obtain ⟨rfl, sameText⟩ := Prod.mk.injEq .. ▸ Option.some.inj found
      rw [stops, List.append_cancel_right sameText]
    cases text with
    | cons head text =>
      rcases behind head with takes | stops
      · exact takes.cuts _ _ _ _ found
      · rw [List.cons_append, stops] at found
        exact stopped (stops text) found
    | nil =>
      cases tail with
      | nil =>
        rw [List.append_nil] at found
        rw [found, List.append_nil]
      | cons head tail =>
        rcases behind head with takes | stops
        · exact absurd (takes.leaves _ _ _ found) (not_suffix_of_shorter (Nat.lt_succ_self _))
        · rw [List.nil_append, stops] at found
          exact stopped atEnd found

/-- A local reader that takes text is local behind any first character. -/
theorem IsLocal.behind {read : Text → Option (Value × Text)} (readLocal : IsLocal read)
    (takes : TakesText read) (head : Char) : IsLocal fun rest => read (head :: rest) := by
  refine ⟨fun text value rest found => ?_, fun text tail value rest found =>
    readLocal.cuts (head :: text) tail value rest found⟩
  rcases List.suffix_cons_iff.mp (readLocal.leaves _ _ _ found) with whole | behind
  · have shorter := takes _ _ _ found
    rw [whole] at shorter
    exact absurd shorter (Nat.lt_irrefl _)
  · exact behind

/-- A reader that skips blanks first is local. -/
theorem IsLocal.skipSpace {read : Text → Option (Value × Text)} (readLocal : IsLocal read) :
    IsLocal fun text => read (skipSpace text) := by
  refine ⟨fun text value rest found =>
    (readLocal.leaves _ _ _ found).trans (List.dropWhile_suffix _),
    fun text tail value rest found => ?_⟩
  have found : read ((text ++ tail).dropWhile isSpace) = some (value, rest ++ tail) := found
  have ends := readLocal.leaves _ _ _ found
  rw [List.dropWhile_append] at found ends
  split at found
  case isFalse => exact readLocal.cuts _ _ _ _ found
  case isTrue blank =>
    -- all of the text is blank, so nothing of the tail is taken either
    rw [if_pos blank] at ends
    have length := ends.length_le
    have shorter := (List.dropWhile_suffix isSpace (l := tail)).length_le
    rw [List.length_append] at length
    obtain rfl : rest = [] := List.length_eq_zero_iff.mp (by omega)
    rw [(List.dropWhile_suffix isSpace).eq_of_length (by omega)] at found
    rw [Json.skipSpace, List.isEmpty_iff.mp blank]
    exact readLocal.cuts [] tail value [] found

theorem IsLocal.of_option {found : Option First} {second : First → Text → Option (Second × Text)}
    (secondLocal : ∀ value, IsLocal (second value)) :
    IsLocal fun text => found.bind fun value => second value text := by
  cases found with
  | none => exact isLocal_none
  | some value => exact secondLocal value

theorem TakesText.bind {first : Text → Option (First × Text)}
    {second : First → Text → Option (Second × Text)} (takes : TakesText first)
    (secondLocal : ∀ value, IsLocal (second value)) :
    TakesText fun text => (first text).bind fun (value, rest) => second value rest := by
  intro text value rest read
  obtain ⟨⟨value, between⟩, readFirst, readSecond⟩ := Option.bind_eq_some_iff.mp read
  exact Nat.lt_of_le_of_lt ((secondLocal value).leaves _ _ _ readSecond).length_le
    (takes _ _ _ readFirst)

theorem TakesText.map {read : Text → Option (First × Text)} (takes : TakesText read)
    (change : First → Second) :
    TakesText fun text => (read text).map fun (value, rest) => (change value, rest) := by
  intro text value rest found
  obtain ⟨⟨value, rest⟩, done, same⟩ := Option.map_eq_some_iff.mp found
  cases same
  exact takes _ _ _ done

end

/-! ### Numbers -/

theorem readDigits_spelled {text digits rest : Text}
    (read : readDigits text = some (digits, rest)) :
    text = digits ++ rest ∧ digits ≠ [] ∧ (∀ digit ∈ digits, digit.isDigit = true) ∧
      ∀ next ∈ rest.head?, next.isDigit = false := by
  unfold readDigits at read
  split at read
  · cases read
  · rename_i filled
    cases read
    refine ⟨List.takeWhile_append_dropWhile.symm, filled, fun _ => List.mem_takeWhile_imp, ?_⟩
    intro next first
    have stopped := List.head?_dropWhile_not Char.isDigit text
    rw [first] at stopped
    exact stopped

theorem isLocal_readDigits : IsLocal readDigits := by
  refine ⟨fun text digits rest read => ?_, fun text tail digits rest read => ?_⟩
  · obtain ⟨rfl, _⟩ := readDigits_spelled read
    exact List.suffix_append _ _
  · obtain ⟨same, filled, areDigits, ends⟩ := readDigits_spelled read
    rw [← List.append_assoc] at same
    rw [List.append_cancel_right same]
    refine readDigits_append filled areDigits fun next first => ends next ?_
    rw [List.head?_append, first]
    rfl

theorem takesText_readDigits : TakesText readDigits := by
  intro text digits rest read
  obtain ⟨rfl, filled, _⟩ := readDigits_spelled read
  rw [List.length_append]
  exact Nat.lt_add_of_pos_left (List.length_pos_iff.mpr filled)

theorem isLocal_readWhole_cons (head : Char) : IsLocal fun rest => readWhole (head :: rest) := by
  by_cases zero : head = '0'
  · subst zero
    exact isLocal_some ['0']
  · have digits : (fun rest => readWhole (head :: rest)) = fun rest => readDigits (head :: rest) :=
      funext fun rest => readWhole.eq_2 _ fun _ same => zero (List.cons.inj same).1
    rw [digits]
    exact isLocal_readDigits.behind takesText_readDigits head

theorem isLocal_readFraction : IsLocal readFraction := by
  refine isLocal_of_optional rfl fun head => ?_
  by_cases point : head = '.'
  · subst point
    exact Or.inl (isLocal_readDigits.map some)
  · exact Or.inr fun rest => readFraction.eq_2 _ fun _ same => point (List.cons.inj same).1

theorem isLocal_readPower : IsLocal readPower := by
  refine isLocal_of_cons rfl fun head => ?_
  by_cases minus : head = '-'
  · subst minus
    exact isLocal_readDigits.map fun digits => -(Decimal.ofDigits digits : Int)
  · by_cases plus : head = '+'
    · subst plus
      exact isLocal_readDigits.map fun digits => (Decimal.ofDigits digits : Int)
    · let power (digits : Text) : Int := Decimal.ofDigits digits
      exact ((isLocal_readDigits.map power).behind (takesText_readDigits.map power) head).congr
        fun rest => readPower.eq_3 _ (fun _ same => minus (List.cons.inj same).1)
          fun _ same => plus (List.cons.inj same).1

theorem isLocal_readExponent : IsLocal readExponent := by
  refine isLocal_of_optional rfl fun head => ?_
  by_cases small : head = 'e'
  · subst small
    exact Or.inl (isLocal_readPower.map some)
  · by_cases capital : head = 'E'
    · subst capital
      exact Or.inl (isLocal_readPower.map some)
    · exact Or.inr fun rest => readExponent.eq_3 _ (fun _ same => small (List.cons.inj same).1)
        fun _ same => capital (List.cons.inj same).1

/-- A literal behind its sign. -/
def readUnsigned (negative : Bool) (text : Text) : Option (Literal × Text) := do
  let (whole, text) ← readWhole text
  let (fraction, text) ← readFraction text
  let (exponent, text) ← readExponent text
  return (⟨negative, whole, fraction, exponent⟩, text)

theorem isLocal_readUnsigned (negative : Bool) :
    IsLocal (readUnsigned negative) ∧ TakesText (readUnsigned negative) := by
  have behind (whole : Text) : IsLocal fun text => do
      let (fraction, text) ← readFraction text
      let (exponent, text) ← readExponent text
      return ((⟨negative, whole, fraction, exponent⟩ : Literal), text) :=
    isLocal_readFraction.bind fun fraction => isLocal_readExponent.bind fun exponent =>
      isLocal_some _
  exact ⟨(isLocal_of_cons rfl isLocal_readWhole_cons).bind behind,
    (takesText_of_cons rfl isLocal_readWhole_cons).bind behind⟩

/-- Only a minus sign is a sign. -/
theorem readLiteral_of_unsigned {head : Char} (unsigned : head ≠ '-') (rest : Text) :
    readLiteral (head :: rest) = readUnsigned false (head :: rest) := by
  unfold readLiteral
  split
  rename_i negative text same
  split at same
  · exact absurd (List.cons.inj ‹_›).1 unsigned
  · cases same
    rfl

theorem isLocal_readLiteral_cons (head : Char) :
    IsLocal fun rest => readLiteral (head :: rest) := by
  by_cases minus : head = '-'
  · subst minus
    exact (isLocal_readUnsigned true).1
  · rw [funext (readLiteral_of_unsigned minus)]
    exact (isLocal_readUnsigned false).1.behind (isLocal_readUnsigned false).2 head

theorem isLocal_readLiteral : IsLocal readLiteral :=
  isLocal_of_cons rfl isLocal_readLiteral_cons

theorem isLocal_readNumber : IsLocal readNumber ∧ TakesText readNumber := by
  have behind (literal : Literal) : IsLocal fun text => do
      let number ← Number.ofLiteral? literal
      return (number, text) :=
    IsLocal.of_option fun number => isLocal_some number
  exact ⟨isLocal_readLiteral.bind behind,
    (takesText_of_cons rfl isLocal_readLiteral_cons).bind behind⟩

/-! ### Readers that take turns -/

/-- Values read one after another, up to a turn that reads none. -/
def readTurns {Value : Type} (turn : Text → Option (Option Value × Text)) :
    (fuel : Nat) → Text → Option (List Value × Text)
  | 0, _ => none
  | fuel + 1, text =>
    match turn text with
    | none => none
    | some (none, rest) => some ([], rest)
    | some (some value, rest) =>
      (readTurns turn fuel rest).map fun (values, rest) => (value :: values, rest)

section

variable {Value : Type} {turn : Text → Option (Option Value × Text)}

/-- What takes the same turns reads the same. -/
theorem eq_readTurns {read : (fuel : Nat) → Text → Option (List Value × Text)}
    (none : ∀ text, read 0 text = none)
    (step : ∀ fuel text, read (fuel + 1) text = match turn text with
      | .none => .none
      | some (.none, rest) => some ([], rest)
      | some (some value, rest) =>
        (read fuel rest).map fun (values, rest) => (value :: values, rest))
    (fuel : Nat) (text : Text) : read fuel text = readTurns turn fuel text := by
  induction fuel generalizing text with
  | zero => exact none text
  | succ fuel inductionHypothesis =>
    rw [step, readTurns]
    rcases turn text with _ | ⟨_ | value, rest⟩
    · rfl
    · rfl
    · dsimp only
      rw [inductionHypothesis]

/-- The last turn is the one that ends the reading. -/
theorem exists_last_turn {fuel : Nat} {text rest : Text} {values : List Value}
    (turnLocal : IsLocal turn) (read : readTurns turn fuel text = some (values, rest)) :
    ∃ last, last <:+ text ∧ turn last = some (none, rest) := by
  induction fuel generalizing text values with
  | zero => cases read
  | succ fuel inductionHypothesis =>
    rw [readTurns] at read
    split at read
    · cases read
    · rename_i ended
      cases read
      exact ⟨text, List.suffix_refl _, ended⟩
    · rename_i value between turned
      obtain ⟨⟨later, rest⟩, readLater, same⟩ := Option.map_eq_some_iff.mp read
      cases same
      obtain ⟨last, ends, ended⟩ := inductionHypothesis readLater
      exact ⟨last, ends.trans (turnLocal.leaves _ _ _ turned), ended⟩

/-- Each turn takes text, so as many turns as there are characters are enough. -/
theorem readTurns_cuts (turnLocal : IsLocal turn) (takes : TakesText turn) {fuel enough : Nat}
    {text tail rest : Text} {values : List Value}
    (read : readTurns turn fuel (text ++ tail) = some (values, rest ++ tail))
    (length : text.length ≤ enough) : readTurns turn enough text = some (values, rest) := by
  induction fuel generalizing enough text values with
  | zero => cases read
  | succ fuel inductionHypothesis =>
    rw [readTurns] at read
    split at read
    · cases read
    · rename_i ended
      cases read
      have ended := turnLocal.cuts _ _ _ _ ended
      have shorter := Nat.lt_of_lt_of_le (takes _ _ _ ended) length
      obtain ⟨spare, rfl⟩ : ∃ spare, enough = spare + 1 :=
        Nat.exists_eq_add_one.mpr (Nat.zero_lt_of_lt shorter)
      rw [readTurns, ended]
    · rename_i value between turned
      obtain ⟨⟨later, rest⟩, readLater, same⟩ := Option.map_eq_some_iff.mp read
      cases same
      obtain ⟨last, ends, ended⟩ := exists_last_turn turnLocal readLater
      obtain ⟨front, rfl, _⟩ :=
        eq_append_of_suffix ((turnLocal.leaves _ _ _ ended).trans ends)
      have turned := turnLocal.cuts _ _ _ _ turned
      have shorter := Nat.lt_of_lt_of_le (takes _ _ _ turned) length
      obtain ⟨spare, rfl⟩ : ∃ spare, enough = spare + 1 :=
        Nat.exists_eq_add_one.mpr (Nat.zero_lt_of_lt shorter)
      rw [readTurns, turned]
      dsimp only
      rw [inductionHypothesis readLater (Nat.le_of_lt_succ shorter)]
      rfl

theorem isLocal_readTurns (turnLocal : IsLocal turn) (takes : TakesText turn) :
    IsLocal fun text => readTurns turn text.length text := by
  refine ⟨fun text values rest read => ?_, fun text tail values rest read =>
    readTurns_cuts turnLocal takes read (Nat.le_refl _)⟩
  obtain ⟨last, ends, ended⟩ := exists_last_turn turnLocal read
  exact (turnLocal.leaves _ _ _ ended).trans ends

end

/-! ### Strings -/

theorem isLocal_readUnit : IsLocal readUnit := by
  refine isLocal_of_cons rfl fun first => isLocal_of_cons rfl fun second =>
    isLocal_of_cons rfl fun third => isLocal_of_cons rfl fun fourth => ?_
  exact IsLocal.of_option fun _ => IsLocal.of_option fun _ => IsLocal.of_option fun _ =>
    IsLocal.of_option fun _ => isLocal_some _

/-- What follows the first unit of a code: nothing, or the low surrogate that a high one needs. -/
def readLow (unit : Nat) (text : Text) : Option (Char × Text) :=
  if 0xD800 ≤ unit ∧ unit < 0xDC00 then
    match text with
    | '\\' :: 'u' :: text => do
      let (low, text) ← readUnit text
      if 0xDC00 ≤ low ∧ low < 0xE000 then
        return (Char.ofNat (0x10000 + (unit - 0xD800) * 0x400 + (low - 0xDC00)), text)
      else
        none
    | _ => none
  else if 0xDC00 ≤ unit ∧ unit < 0xE000 then
    none
  else
    return (Char.ofNat unit, text)

theorem isLocal_readLow (unit : Nat) : IsLocal (readLow unit) := by
  unfold readLow
  split
  case isFalse =>
    split
    · exact isLocal_none
    · exact isLocal_some _
  case isTrue high =>
    have behind (low : Nat) : IsLocal fun text =>
        if 0xDC00 ≤ low ∧ low < 0xE000 then
          some (Char.ofNat (0x10000 + (unit - 0xD800) * 0x400 + (low - 0xDC00)), text)
        else none := by
      split
      · exact isLocal_some _
      · exact isLocal_none
    refine (isLocal_of_expected '\\' (isLocal_of_expected 'u' (isLocal_readUnit.bind behind)
      fun text other => ?_).1 fun text other => ?_).1
    · split
      · exact absurd (List.cons.inj ‹_›).2 (other _)
      · rfl
    · split
      · exact absurd rfl (other _)
      · rfl

theorem isLocal_readCode : IsLocal readCode :=
  isLocal_readUnit.bind isLocal_readLow

theorem isLocal_readCharacter_cons (head : Char) :
    IsLocal fun rest => readCharacter (head :: rest) := by
  by_cases quote : head = '"'
  · subst quote
    exact isLocal_some none
  by_cases backslash : head = '\\'
  case neg =>
    by_cases control : head.toNat < 0x20
    · refine isLocal_none.congr fun rest => ?_
      rw [readCharacter]
      · exact if_pos control
      all_goals simp_all
    · refine (isLocal_some (some head)).congr fun rest => ?_
      rw [readCharacter]
      · exact if_neg control
      all_goals simp_all
  subst backslash
  refine isLocal_of_cons rfl fun letter => ?_
  by_cases code : letter = 'u'
  · subst code
    exact isLocal_readCode.map some
  · have escaped : IsLocal fun rest =>
        (shortEscape? letter).bind fun character => some (some character, rest) :=
      IsLocal.of_option fun character => isLocal_some (some character)
    refine escaped.congr fun rest => ?_
    rw [readCharacter]
    · cases shortEscape? letter <;> rfl
    all_goals simp_all

theorem readString_eq (text : Text) :
    readString text = readTurns readCharacter text.length text := by
  refine eq_readTurns (fun _ => rfl) (fun fuel text => ?_) text.length text
  rw [readCharacters]
  rcases readCharacter text with _ | ⟨_ | character, rest⟩ <;> rfl

theorem isLocal_readString : IsLocal readString :=
  (isLocal_readTurns (isLocal_of_cons rfl isLocal_readCharacter_cons)
    (takesText_of_cons rfl isLocal_readCharacter_cons)).congr readString_eq

/-! ### Values -/

theorem skipSpace_skipSpace (text : Text) : skipSpace (skipSpace text) = skipSpace text :=
  List.dropWhile_idempotent isSpace text

/-- A turn behind a value: the closing bracket, or one more value behind a comma. -/
def nextBehindComma {Value : Type} (closing : Char) (read : Text → Option (Value × Text)) :
    Text → Option (Option Value × Text)
  | [] => none
  | head :: rest =>
    if head = closing then some (none, rest)
    else if head = ',' then (read rest).map fun (value, rest) => (some value, rest)
    else none

section

variable {Value : Type}

theorem TakesText.nil {read : Text → Option (Value × Text)} (takes : TakesText read) :
    read [] = none := by
  refine Option.eq_none_iff_forall_ne_some.mpr fun (value, rest) found => ?_
  exact Nat.not_lt_zero _ (takes _ _ _ found)

theorem TakesText.skipSpace {read : Text → Option (Value × Text)} (takes : TakesText read) :
    TakesText fun text => read (skipSpace text) :=
  fun _ _ _ found =>
    Nat.lt_of_lt_of_le (takes _ _ _ found) (List.dropWhile_suffix isSpace).length_le

/-- The text behind a closing bracket, or what is read instead of it. -/
def closedOr {Value : Type} (closing : Char) (empty : Value)
    (filled : Text → Option (Value × Text)) : Text → Option (Value × Text)
  | [] => none
  | head :: rest => if head = closing then some (empty, rest) else filled (head :: rest)

/-- A reader of what may be closed at once, and is read by another reader if it is not, is local. -/
theorem isLocal_of_closing {read filled : Text → Option (Value × Text)} (closing : Char)
    (empty : Value) (filledLocal : IsLocal filled) (takes : TakesText filled)
    (closed : ∀ text rest, skipSpace text = closing :: rest → read text = some (empty, rest))
    (other : ∀ text, (∀ rest, skipSpace text ≠ closing :: rest) →
      read text = filled (skipSpace text)) : IsLocal read := by
  have skipped : IsLocal fun text => closedOr closing empty filled (skipSpace text) := by
    refine (isLocal_of_cons rfl fun head => ?_).skipSpace
    by_cases closes : head = closing
    · exact (isLocal_some empty).congr fun _ => if_pos closes
    · exact (filledLocal.behind takes head).congr fun _ => if_neg closes
  refine skipped.congr fun text => ?_
  cases start : skipSpace text with
  | nil =>
    rw [other text (by simp [start]), start, takes.nil]
    rfl
  | cons head rest =>
    rw [closedOr]
    split
    · rename_i closes
      exact closed text rest (closes ▸ start)
    · rename_i opens
      rw [other text (by simp [start, opens]), start]

theorem isLocal_nextBehindComma_cons {closing : Char} {read : Text → Option (Value × Text)}
    (readLocal : IsLocal read) (head : Char) :
    IsLocal fun rest => nextBehindComma closing read (head :: rest) := by
  by_cases closes : head = closing
  · exact (isLocal_some none).congr fun _ => if_pos closes
  · by_cases comma : head = ','
    · exact (readLocal.map some).congr fun _ => (if_neg closes).trans (if_pos comma)
    · exact isLocal_none.congr fun _ => (if_neg closes).trans (if_neg comma)

theorem isLocal_nextBehindComma (closing : Char) {read : Text → Option (Value × Text)}
    (readLocal : IsLocal read) :
    (IsLocal fun text => nextBehindComma closing read (skipSpace text)) ∧
      TakesText fun text => nextBehindComma closing read (skipSpace text) :=
  ⟨(isLocal_of_cons rfl (isLocal_nextBehindComma_cons readLocal)).skipSpace,
    (takesText_of_cons rfl (isLocal_nextBehindComma_cons readLocal)).skipSpace⟩

end

section

variable {read : Text → Option (Json × Text)}

theorem readItems_eq : readItems read =
    readTurns fun text => nextBehindComma ']' read (skipSpace text) := by
  refine funext fun fuel => funext fun text => eq_readTurns (fun _ => rfl) (fun fuel text => ?_) ..
  rw [readItems]
  cases skipSpace text with
  | nil => rfl
  | cons head rest =>
    split
    · rename_i closing
      cases closing
      rfl
    · rename_i comma
      cases comma
      rw [nextBehindComma, if_neg (by decide), if_pos rfl]
      cases read rest with
      | none => rfl
      | some found => exact Option.map_eq_bind.symm
    · simp_all [nextBehindComma]

theorem readMembers_eq : readMembers read =
    readTurns fun text => nextBehindComma '\x7d' (readMember read) (skipSpace text) := by
  refine funext fun fuel => funext fun text => eq_readTurns (fun _ => rfl) (fun fuel text => ?_) ..
  rw [readMembers]
  cases skipSpace text with
  | nil => rfl
  | cons head rest =>
    split
    · rename_i closing
      cases closing
      rfl
    · rename_i comma
      cases comma
      rw [nextBehindComma, if_neg (by decide), if_pos rfl]
      cases readMember read rest with
      | none => rfl
      | some found => exact Option.map_eq_bind.symm
    · simp_all [nextBehindComma]

/-- What the readers of arrays and objects need of the reader of the values inside. -/
structure ReadsValues (read : Text → Option (Json × Text)) : Prop where
  isLocal : IsLocal read
  takesText : TakesText read
  skips : ∀ text, read (skipSpace text) = read text

theorem isLocal_readItems (inner : ReadsValues read) :
    IsLocal fun text => readItems read text.length text := by
  have turns := isLocal_nextBehindComma ']' inner.isLocal
  rw [readItems_eq]
  exact isLocal_readTurns turns.1 turns.2

theorem isLocal_readArray (inner : ReadsValues read) : IsLocal (readArray read) := by
  have items (item : Json) :=
    (isLocal_readItems inner).bind fun items => isLocal_some (Json.array (item :: items))
  refine isLocal_of_closing ']' (.array []) (inner.isLocal.bind items)
    (inner.takesText.bind items) (fun text rest start => ?_) fun text opens => ?_
  · rw [readArray, start]
    rfl
  · rw [inner.skips, readArray]
    split
    · exact absurd ‹_› (opens _)
    · rfl

/-- What follows a key: a colon and the value. -/
def readColon (read : Text → Option (Json × Text)) (key : Text) :
    Text → Option ((Text × Json) × Text)
  | ':' :: rest => do
    let (value, rest) ← read rest
    return ((key, value), rest)
  | _ => none

/-- A member, from its opening quote. -/
def readQuoted (read : Text → Option (Json × Text)) : Text → Option ((Text × Json) × Text)
  | '"' :: rest => do
    let (key, rest) ← readString rest
    readColon read key (skipSpace rest)
  | _ => none

theorem readMember_eq (text : Text) : readMember read text = readQuoted read (skipSpace text) :=
  rfl

theorem isLocal_readQuoted (inner : ReadsValues read) :
    IsLocal (readQuoted read) ∧ TakesText (readQuoted read) := by
  have colon (key : Text) : IsLocal (readColon read key) :=
    (isLocal_of_expected ':' (inner.isLocal.bind fun value => isLocal_some (key, value))
      fun text other => readColon.eq_2 _ _ _ other).1
  exact isLocal_of_expected '"' (isLocal_readString.bind fun key => (colon key).skipSpace)
    fun text other => readQuoted.eq_2 _ _ other

theorem isLocal_readMember (inner : ReadsValues read) :
    IsLocal (readMember read) ∧ TakesText (readMember read) :=
  ⟨(isLocal_readQuoted inner).1.skipSpace, (isLocal_readQuoted inner).2.skipSpace⟩

theorem isLocal_readMembers (inner : ReadsValues read) :
    IsLocal fun text => readMembers read text.length text := by
  have turns := isLocal_nextBehindComma '\x7d' (isLocal_readMember inner).1
  rw [readMembers_eq]
  exact isLocal_readTurns turns.1 turns.2

theorem isLocal_readObject (inner : ReadsValues read) : IsLocal (readObject read) := by
  have members (member : Text × Json) :=
    (isLocal_readMembers inner).bind fun members => isLocal_some (Json.object (member :: members))
  have member := isLocal_readMember inner
  refine isLocal_of_closing '\x7d' (.object []) (member.1.bind members) (member.2.bind members)
    (fun text rest start => ?_) fun text opens => ?_
  · rw [readObject, start]
    rfl
  · rw [readMember_eq, skipSpace_skipSpace, ← readMember_eq, readObject]
    split
    · exact absurd ‹_› (opens _)
    · rfl

end

/-- A value, from its first character. -/
def readBody (depth : Nat) : Text → Option (Json × Text)
  | '"' :: rest => (readString rest).map fun (value, rest) => (.string value, rest)
  | '[' :: rest =>
    match depth with
    | 0 => none
    | depth + 1 => readArray (readValue depth) rest
  | '\x7b' :: rest =>
    match depth with
    | 0 => none
    | depth + 1 => readObject (readValue depth) rest
  | 'n' :: rest => (after? "ull".toList rest).map fun rest => (.null, rest)
  | 't' :: rest => (after? "rue".toList rest).map fun rest => (.bool true, rest)
  | 'f' :: rest => (after? "alse".toList rest).map fun rest => (.bool false, rest)
  | text => (readNumber text).map fun (value, rest) => (.number value, rest)

theorem readValue_eq (depth : Nat) (text : Text) :
    readValue depth text = readBody depth (skipSpace text) := by
  rw [readValue]
  rfl

theorem isLocal_after {Value : Type} (word : Text) (value : Value) :
    IsLocal fun text => (after? word text).map fun rest => (value, rest) := by
  induction word with
  | nil => exact isLocal_some value
  | cons expected word inductionHypothesis =>
    refine (isLocal_of_expected expected (inductionHypothesis.congr fun rest => ?_)
      fun text other => ?_).1
    · rw [after?, if_pos rfl]
    · cases text with
      | nil => rfl
      | cons head rest =>
        rw [after?, if_neg fun same => other rest (by rw [same])]
        rfl

theorem isLocal_readBody_cons {depth : Nat}
    (inner : ∀ less, depth = less + 1 → ReadsValues (readValue less)) (head : Char) :
    IsLocal fun rest => readBody depth (head :: rest) := by
  by_cases quote : head = '"'
  · subst quote
    exact isLocal_readString.map Json.string
  by_cases bracket : head = '['
  · subst bracket
    cases depth with
    | zero => exact isLocal_none
    | succ less => exact isLocal_readArray (inner less rfl)
  by_cases brace : head = '\x7b'
  · subst brace
    cases depth with
    | zero => exact isLocal_none
    | succ less => exact isLocal_readObject (inner less rfl)
  by_cases null : head = 'n'
  · subst null
    exact isLocal_after "ull".toList Json.null
  by_cases yes : head = 't'
  · subst yes
    exact isLocal_after "rue".toList (Json.bool true)
  by_cases no : head = 'f'
  · subst no
    exact isLocal_after "alse".toList (Json.bool false)
  refine ((isLocal_readNumber.1.map Json.number).behind (isLocal_readNumber.2.map _) head).congr
    fun rest => ?_
  rw [readBody]
  all_goals simp_all

theorem readsValues_readValue (depth : Nat) : ReadsValues (readValue depth) := by
  induction depth using Nat.strongRecOn with
  | ind depth inductionHypothesis =>
    have behind : ∀ head, IsLocal fun rest => readBody depth (head :: rest) :=
      isLocal_readBody_cons fun less same =>
        inductionHypothesis less (same ▸ Nat.lt_succ_self less)
    have same : readValue depth = fun text => readBody depth (skipSpace text) :=
      funext (readValue_eq depth)
    rw [same]
    exact ⟨(isLocal_of_cons rfl behind).skipSpace, (takesText_of_cons rfl behind).skipSpace,
      fun text => by rw [skipSpace_skipSpace]⟩

/-! ### The end of an array or an object -/

theorem eq_of_nextBehindComma {Value : Type} {closing : Char}
    {read : Text → Option (Value × Text)} {text rest : Text}
    (ended : nextBehindComma closing read text = some (none, rest)) : text = closing :: rest := by
  cases text with
  | nil => cases ended
  | cons head text =>
    rw [nextBehindComma] at ended
    split at ended
    · cases ended
      congr
    · split at ended
      · obtain ⟨found, _, same⟩ := Option.map_eq_some_iff.mp ended
        cases same
      · cases ended

section

variable {read : Text → Option (Json × Text)}

theorem suffix_of_readItems (inner : ReadsValues read) {fuel : Nat} {text rest : Text}
    {items : List Json} (done : readItems read fuel text = some (items, rest)) :
    ']' :: rest <:+ text := by
  rw [readItems_eq] at done
  obtain ⟨last, ends, ended⟩ := exists_last_turn (isLocal_nextBehindComma ']' inner.isLocal).1 done
  rw [← eq_of_nextBehindComma ended]
  exact (List.dropWhile_suffix _).trans ends

theorem suffix_of_readMembers (inner : ReadsValues read) {fuel : Nat} {text rest : Text}
    {members : List (Text × Json)} (done : readMembers read fuel text = some (members, rest)) :
    '\x7d' :: rest <:+ text := by
  rw [readMembers_eq] at done
  obtain ⟨last, ends, ended⟩ :=
    exists_last_turn (isLocal_nextBehindComma '\x7d' (isLocal_readMember inner).1).1 done
  rw [← eq_of_nextBehindComma ended]
  exact (List.dropWhile_suffix _).trans ends

theorem suffix_of_readArray (inner : ReadsValues read) {text rest : Text} {value : Json}
    (done : readArray read text = some (value, rest)) : ']' :: rest <:+ text := by
  rw [readArray] at done
  split at done
  · rename_i closed
    cases done
    rw [← closed]
    exact List.dropWhile_suffix _
  · obtain ⟨⟨item, between⟩, readItem, done⟩ := Option.bind_eq_some_iff.mp done
    obtain ⟨⟨items, rest⟩, readLater, same⟩ := Option.bind_eq_some_iff.mp done
    cases same
    exact (suffix_of_readItems inner readLater).trans (inner.isLocal.leaves _ _ _ readItem)

theorem suffix_of_readObject (inner : ReadsValues read) {text rest : Text} {value : Json}
    (done : readObject read text = some (value, rest)) : '\x7d' :: rest <:+ text := by
  rw [readObject] at done
  split at done
  · rename_i closed
    cases done
    rw [← closed]
    exact List.dropWhile_suffix _
  · obtain ⟨⟨member, between⟩, read, done⟩ := Option.bind_eq_some_iff.mp done
    obtain ⟨⟨members, rest⟩, readLater, same⟩ := Option.bind_eq_some_iff.mp done
    cases same
    exact (suffix_of_readMembers inner readLater).trans
      ((isLocal_readMember inner).1.leaves _ _ _ read)

end

/-- The last character that an array or an object takes is its closing bracket. -/
theorem exists_closing_of_readValue {depth : Nat} {text rest : Text} {value : Json}
    (composite : value.isComposite = true) (done : readValue depth text = some (value, rest)) :
    ∃ closing, (closing = ']' ∨ closing = '\x7d') ∧ closing :: rest <:+ text := by
  rw [readValue_eq] at done
  have scalar {Part : Type} {read : Option (Part × Text)} {change : Part → Json}
      (done : read.map (fun (part, rest) => (change part, rest)) = some (value, rest))
      (kind : ∀ part, (change part).isComposite = false) : False := by
    obtain ⟨⟨part, between⟩, _, same⟩ := Option.map_eq_some_iff.mp done
    cases same
    exact absurd composite (by rw [kind]; exact Bool.false_ne_true)
  have word {after : Option Text} {constant : Json}
      (done : after.map (fun rest => (constant, rest)) = some (value, rest))
      (kind : constant.isComposite = false) : False := by
    obtain ⟨between, _, same⟩ := Option.map_eq_some_iff.mp done
    cases same
    exact absurd composite (by rw [kind]; exact Bool.false_ne_true)
  have behind {head : Char} {inside : Text} (opened : skipSpace text = head :: inside) :
      inside <:+ text :=
    (List.suffix_cons head inside).trans (opened ▸ List.dropWhile_suffix _)
  unfold readBody at done
  split at done
  · exact (scalar done fun _ => rfl).elim
  · rename_i opened
    split at done
    · cases done
    · have closed := suffix_of_readArray (readsValues_readValue _) done
      exact ⟨_, .inl rfl, closed.trans (behind opened)⟩
  · rename_i opened
    split at done
    · cases done
    · have closed := suffix_of_readObject (readsValues_readValue _) done
      exact ⟨_, .inr rfl, closed.trans (behind opened)⟩
  · exact (word done rfl).elim
  · exact (word done rfl).elim
  · exact (word done rfl).elim
  · exact (scalar done fun _ => rfl).elim

end Stencil.Json
