/-
This file writes down the grammar of JSON documents and proves that the readers of numbers and of
the characters of strings take what the grammar derives.

Each rule of the grammar relates a text to what is written at its start and to the rest of the text.
Blanks may stand before every token and at the end. Numbers and strings are written as usual; a
literal must stand for a number. The reader lets arrays and objects nest only so deep, which is why
values are ranked by their depth.

What a reader takes, the grammar derives, with the rest that the reader leaves. The other way, the
grammar alone does not say where a number ends, so a number is read to its end only if nothing
stands behind it that would go on with it.
-/

import Stencil.Proofs.JsonLocality

namespace Stencil.Json

namespace Grammar

/-! ### Blanks and tokens -/

/-- The rest behind blanks, if any. -/
def Blanks (text rest : Text) : Prop :=
  ∃ blanks, (∀ blank ∈ blanks, isSpace blank = true) ∧ text = blanks ++ rest

/-- A token behind blanks. -/
def Token (token : Char) (text rest : Text) : Prop :=
  Blanks text (token :: rest)

/-! ### Numbers -/

/-- At least one digit. -/
structure Digits (text digits rest : Text) : Prop where
  same : text = digits ++ rest
  filled : digits ≠ []
  areDigits : ∀ digit ∈ digits, digit.isDigit = true

inductive Sign : Text → Bool → Text → Prop where
  | absent {text : Text} : Sign text false text
  | minus {rest : Text} : Sign ('-' :: rest) true rest

/-- The digits before the point: a single zero, or digits that start with another. -/
structure Whole (text digits rest : Text) : Prop where
  spelled : Digits text digits rest
  zero : digits = ['0'] ∨ digits.head? ≠ some '0'

inductive Fraction : Text → Option Text → Text → Prop where
  | absent {text : Text} : Fraction text none text
  | point {text digits rest : Text} (spelled : Digits text digits rest) :
      Fraction ('.' :: text) (some digits) rest

inductive Power : Text → Int → Text → Prop where
  | unsigned {text digits rest : Text} (spelled : Digits text digits rest) :
      Power text (Decimal.ofDigits digits) rest
  | plus {text digits rest : Text} (spelled : Digits text digits rest) :
      Power ('+' :: text) (Decimal.ofDigits digits) rest
  | minus {text digits rest : Text} (spelled : Digits text digits rest) :
      Power ('-' :: text) (-Decimal.ofDigits digits) rest

inductive Exponent : Text → Option Int → Text → Prop where
  | absent {text : Text} : Exponent text none text
  | small {text rest : Text} {power : Int} (spelled : Power text power rest) :
      Exponent ('e' :: text) (some power) rest
  | capital {text rest : Text} {power : Int} (spelled : Power text power rest) :
      Exponent ('E' :: text) (some power) rest

inductive Numeral : Text → Literal → Text → Prop where
  | parts {text unsigned behind further rest whole : Text} {negative : Bool}
      {fraction : Option Text} {exponent : Option Int} (sign : Sign text negative unsigned)
      (front : Whole unsigned whole behind) (point : Fraction behind fraction further)
      (power : Exponent further exponent rest) :
      Numeral text ⟨negative, whole, fraction, exponent⟩ rest

/-! ### Strings -/

/-- The number of four hexadecimal digits. -/
inductive Hexadecimal : Text → Nat → Text → Prop where
  | four {first second third fourth : Char} {one two three four : Nat} {rest : Text}
      (firstDigit : hexValue? first = some one) (secondDigit : hexValue? second = some two)
      (thirdDigit : hexValue? third = some three) (fourthDigit : hexValue? fourth = some four) :
      Hexadecimal (first :: second :: third :: fourth :: rest)
        (((one * 16 + two) * 16 + three) * 16 + four) rest

/-- A character by its code: of the first plane by itself, and of another one by a high surrogate
and a low one. -/
inductive Code : Text → Char → Text → Prop where
  | single {text rest : Text} {unit : Nat} (code : Hexadecimal text unit rest)
      (scalar : unit < 0xD800 ∨ 0xE000 ≤ unit) : Code text (Char.ofNat unit) rest
  | pair {text between rest : Text} {high low : Nat}
      (first : Hexadecimal text high ('\\' :: 'u' :: between))
      (isHigh : 0xD800 ≤ high ∧ high < 0xDC00) (second : Hexadecimal between low rest)
      (isLow : 0xDC00 ≤ low ∧ low < 0xE000) :
      Code text (Char.ofNat (0x10000 + (high - 0xD800) * 0x400 + (low - 0xDC00))) rest

/-- The letters that may stand behind a backslash, with what they stand for. -/
def shortEscapes : List (Char × Char) :=
  [('"', '"'), ('\\', '\\'), ('/', '/'), ('b', '\x08'), ('f', '\x0c'), ('n', '\n'), ('r', '\r'),
    ('t', '\t')]

/-- A character of a string: as it is, or escaped. -/
inductive Letter : Text → Char → Text → Prop where
  | plain {character : Char} {rest : Text} (shows : 0x20 ≤ character.toNat)
      (notQuote : character ≠ '"') (notBackslash : character ≠ '\\') :
      Letter (character :: rest) character rest
  | short {letter character : Char} {rest : Text} (stands : (letter, character) ∈ shortEscapes) :
      Letter ('\\' :: letter :: rest) character rest
  | code {text rest : Text} {character : Char} (code : Code text character rest) :
      Letter ('\\' :: 'u' :: text) character rest

/-! ### Lists of parts -/

section

variable {Part : Type}

/-- Parts one after another, up to an end. -/
inductive Parts (part : Text → Part → Text → Prop) (ends : Text → Text → Prop) :
    Text → List Part → Text → Prop where
  | done {text rest : Text} (ended : ends text rest) : Parts part ends text [] rest
  | next {text between rest : Text} {first : Part} {others : List Part}
      (leads : part text first between) (follow : Parts part ends between others rest) :
      Parts part ends text (first :: others) rest

/-- A part behind a comma. -/
def BehindComma (part : Text → Part → Text → Prop) (text : Text) (value : Part) (rest : Text) :
    Prop :=
  ∃ behind, Token ',' text behind ∧ part behind value rest

/-- Parts with commas between them, from behind an opening bracket to behind the closing one. -/
inductive Listed (closing : Char) (part : Text → Part → Text → Prop) :
    Text → List Part → Text → Prop where
  | empty {text rest : Text} (closes : Token closing text rest) : Listed closing part text [] rest
  | filled {text between rest : Text} {first : Part} {others : List Part}
      (leads : part text first between)
      (follow : Parts (BehindComma part) (Token closing) between others rest) :
      Listed closing part text (first :: others) rest

end

/-- The characters of a string, from behind its opening quote to behind the closing one. -/
def Quoted : Text → Text → Text → Prop :=
  Parts Letter fun text rest => text = '"' :: rest

/-! ### Values -/

/-- A value that holds no other values. -/
inductive Scalar : Text → Json → Text → Prop where
  | null {rest : Text} : Scalar ('n' :: 'u' :: 'l' :: 'l' :: rest) .null rest
  | yes {rest : Text} : Scalar ('t' :: 'r' :: 'u' :: 'e' :: rest) (.bool true) rest
  | no {rest : Text} : Scalar ('f' :: 'a' :: 'l' :: 's' :: 'e' :: rest) (.bool false) rest
  | number {text rest : Text} {literal : Literal} {number : Number}
      (numeral : Numeral text literal rest) (stands : Number.ofLiteral? literal = some number) :
      Scalar text (.number number) rest
  | string {text characters rest : Text} (quoted : Quoted text characters rest) :
      Scalar ('"' :: text) (.string characters) rest

/-- A member of an object: a string, a colon and a value. -/
inductive Member (value : Text → Json → Text → Prop) : Text → Text × Json → Text → Prop where
  | pair {text start key behind colon rest : Text} {inner : Json} (opens : Token '"' text start)
      (quoted : Quoted start key behind) (separates : Token ':' behind colon)
      (holds : value colon inner rest) : Member value text (key, inner) rest

/-- An array or an object, given the values that may stand inside. -/
inductive Composite (value : Text → Json → Text → Prop) : Text → Json → Text → Prop where
  | array {text rest : Text} {items : List Json} (listed : Listed ']' value text items rest) :
      Composite value ('[' :: text) (.array items) rest
  | object {text rest : Text} {members : Members}
      (listed : Listed '\x7d' (Member value) text members rest) :
      Composite value ('\x7b' :: text) (.object members) rest

/-- A value behind blanks, with arrays and objects nested at most `depth` deep. -/
def Value : (depth : Nat) → Text → Json → Text → Prop
  | 0 => fun text value rest => ∃ start, Blanks text start ∧ Scalar start value rest
  | depth + 1 => fun text value rest =>
    ∃ start, Blanks text start ∧
      (Scalar start value rest ∨ Composite (Value depth) start value rest)

/-- The text is a document that writes the value, repeated keys and all, with arrays and objects
nested at most `depth` deep: there is nothing but blanks behind the value. -/
def IsDocumentWithin (depth : Nat) (text : Text) (written : Json) : Prop :=
  ∃ rest, Value depth text written rest ∧ Blanks rest []

/-- The text is a document that writes the value, however deep. -/
def IsDocument (text : Text) (written : Json) : Prop :=
  ∃ depth, IsDocumentWithin depth text written

end Grammar

open Grammar

/-! ### Reading blanks and tokens -/

theorem blanks_skipSpace (text : Text) : Blanks text (skipSpace text) :=
  ⟨text.takeWhile isSpace, fun _ => List.mem_takeWhile_imp, List.takeWhile_append_dropWhile.symm⟩

theorem skipSpace_of_blanks {text rest : Text} (blanks : Blanks text rest) :
    skipSpace text = skipSpace rest := by
  obtain ⟨spaces, areSpaces, rfl⟩ := blanks
  exact List.dropWhile_append_of_pos areSpaces

theorem token_iff {token : Char} (visible : isSpace token = false) {text rest : Text} :
    Token token text rest ↔ skipSpace text = token :: rest := by
  constructor
  · intro written
    rw [skipSpace_of_blanks written]
    exact List.dropWhile_cons_of_neg (by rw [visible]; exact Bool.false_ne_true)
  · intro skipped
    have blanks := blanks_skipSpace text
    rwa [skipped] at blanks

/-- No number goes on with the character. -/
def EndsNumberWith (character : Char) : Prop :=
  character.isDigit = false ∧ character ≠ '.' ∧ character ≠ 'e' ∧ character ≠ 'E'

theorem endsNumberWith_of_isSpace {character : Char} (space : isSpace character = true) :
    EndsNumberWith character := by
  rw [isSpace] at space
  simp only [Bool.or_eq_true, beq_iff_eq] at space
  rcases space with ((rfl | rfl) | rfl) | rfl <;> exact ⟨rfl, by decide, by decide, by decide⟩

theorem endsNumber_of_blanks {text rest : Text} (blanks : Blanks text rest)
    (ends : EndsNumber rest) : EndsNumber text := by
  obtain ⟨spaces, areSpaces, rfl⟩ := blanks
  cases spaces with
  | nil => exact ends
  | cons space spaces =>
    rintro next ⟨⟩
    exact endsNumberWith_of_isSpace (areSpaces _ List.mem_cons_self)

theorem endsNumber_of_token {token : Char} {text rest : Text} (written : Token token text rest)
    (ends : EndsNumberWith token) : EndsNumber text :=
  endsNumber_of_blanks written fun next first => by cases first; exact ends

/-! ### Reading numbers -/

section

variable {text rest : Text}

theorem digits_of_readDigits {digits : Text} (read : readDigits text = some (digits, rest)) :
    Digits text digits rest := by
  obtain ⟨same, filled, areDigits, _⟩ := readDigits_spelled read
  exact ⟨same, filled, areDigits⟩

theorem readDigits_of_digits {digits : Text} (written : Digits text digits rest)
    (ends : ∀ next ∈ rest.head?, next.isDigit = false) : readDigits text = some (digits, rest) := by
  obtain ⟨rfl, filled, areDigits⟩ := written
  exact readDigits_append filled areDigits ends

theorem Grammar.Digits.exists_head {digits : Text} (written : Digits text digits rest) :
    ∃ first behind, text = first :: behind ∧ first.isDigit = true := by
  obtain ⟨rfl, filled, areDigits⟩ := written
  obtain ⟨first, others, rfl⟩ := List.exists_cons_of_ne_nil filled
  exact ⟨first, others ++ rest, rfl, areDigits first List.mem_cons_self⟩

theorem whole_of_readWhole {whole : Text} (read : readWhole text = some (whole, rest)) :
    Whole text whole rest := by
  unfold readWhole at read
  split at read
  · cases read
    exact ⟨⟨rfl, List.cons_ne_nil _ _, List.forall_mem_singleton.mpr rfl⟩, .inl rfl⟩
  · rename_i notZero
    have spelled := digits_of_readDigits read
    refine ⟨spelled, .inr fun zero => ?_⟩
    obtain ⟨others, rfl⟩ := List.head?_eq_some_iff.mp zero
    exact notZero _ spelled.same

theorem readWhole_of_whole {whole : Text} (written : Whole text whole rest)
    (ends : ∀ next ∈ rest.head?, next.isDigit = false) : readWhole text = some (whole, rest) := by
  obtain ⟨⟨rfl, filled, areDigits⟩, zero⟩ := written
  exact readWhole_append areDigits (zero.imp_right fun other => ⟨filled, other⟩) ends

theorem fraction_of_readFraction {fraction : Option Text}
    (read : readFraction text = some (fraction, rest)) : Fraction text fraction rest := by
  unfold readFraction at read
  split at read
  · obtain ⟨⟨digits, behind⟩, done, same⟩ := Option.map_eq_some_iff.mp read
    cases same
    exact .point (digits_of_readDigits done)
  · cases read
    exact .absent

theorem readFraction_of_fraction {fraction : Option Text} (written : Fraction text fraction rest)
    (ends : ∀ next ∈ rest.head?, next.isDigit = false ∧ next ≠ '.') :
    readFraction text = some (fraction, rest) := by
  cases written with
  | absent => exact @readFraction_append _ none (fun _ none => nomatch none) ends
  | @point _ digits _ spelled =>
    obtain ⟨rfl, filled, areDigits⟩ := spelled
    refine @readFraction_append _ (some digits) ?_ ends
    rintro _ ⟨⟩
    exact ⟨filled, areDigits⟩

theorem power_of_readPower {power : Int} (read : readPower text = some (power, rest)) :
    Power text power rest := by
  unfold readPower at read
  split at read
  all_goals
    obtain ⟨⟨digits, behind⟩, done, same⟩ := Option.map_eq_some_iff.mp read
    cases same
    have spelled := digits_of_readDigits done
  · exact .minus spelled
  · exact .plus spelled
  · exact .unsigned spelled

theorem readPower_of_power {power : Int} (written : Power text power rest)
    (ends : ∀ next ∈ rest.head?, next.isDigit = false) : readPower text = some (power, rest) := by
  cases written with
  | plus spelled => rw [readPower, readDigits_of_digits spelled ends]; rfl
  | minus spelled => rw [readPower, readDigits_of_digits spelled ends]; rfl
  | @unsigned _ digits _ spelled =>
    -- An exponent of digits alone does not start with what would be read as its sign.
    have notSigned (sign : Char) (isSign : sign.isDigit = false) (behind : Text) :
        text ≠ sign :: behind := by
      rintro rfl
      obtain ⟨first, others, same, isDigit⟩ := spelled.exists_head
      rw [(List.cons.inj same).1, isDigit] at isSign
      cases isSign
    rw [readPower.eq_3 _ (notSigned '-' rfl) (notSigned '+' rfl), readDigits_of_digits spelled ends]
    rfl

theorem exponent_of_readExponent {exponent : Option Int}
    (read : readExponent text = some (exponent, rest)) : Exponent text exponent rest := by
  unfold readExponent at read
  split at read
  · obtain ⟨⟨power, behind⟩, done, same⟩ := Option.map_eq_some_iff.mp read
    cases same
    exact .small (power_of_readPower done)
  · obtain ⟨⟨power, behind⟩, done, same⟩ := Option.map_eq_some_iff.mp read
    cases same
    exact .capital (power_of_readPower done)
  · cases read
    exact .absent

theorem readExponent_of_exponent {exponent : Option Int} (written : Exponent text exponent rest)
    (ends : ∀ next ∈ rest.head?, next.isDigit = false ∧ next ≠ 'e' ∧ next ≠ 'E') :
    readExponent text = some (exponent, rest) := by
  cases written with
  | absent => exact readExponent_append none ends
  | small spelled =>
    rw [readExponent, readPower_of_power spelled fun next first => (ends next first).1]
    rfl
  | capital spelled =>
    rw [readExponent, readPower_of_power spelled fun next first => (ends next first).1]
    rfl

theorem numeral_of_readLiteral {literal : Literal}
    (read : readLiteral text = some (literal, rest)) : Numeral text literal rest := by
  unfold readLiteral at read
  split at read
  rename_i negative unsigned signed
  obtain ⟨⟨whole, behind⟩, readsWhole, read⟩ := Option.bind_eq_some_iff.mp read
  obtain ⟨⟨fraction, further⟩, readsFraction, read⟩ := Option.bind_eq_some_iff.mp read
  obtain ⟨⟨exponent, last⟩, readsExponent, same⟩ := Option.bind_eq_some_iff.mp read
  cases same
  have sign : Sign text negative unsigned := by
    split at signed
    · cases signed
      exact .minus
    · cases signed
      exact .absent
  exact .parts sign (whole_of_readWhole readsWhole) (fraction_of_readFraction readsFraction)
    (exponent_of_readExponent readsExponent)

theorem readLiteral_of_numeral {literal : Literal} (written : Numeral text literal rest)
    (ends : EndsNumber rest) : readLiteral text = some (literal, rest) := by
  cases written with
  | @parts unsigned behind further _ whole _ fraction exponent sign front point power =>
    have atExponent : ∀ next ∈ further.head?, next.isDigit = false ∧ next ≠ '.' := by
      cases power with
      | absent => exact fun next first => ⟨(ends next first).1, (ends next first).2.1⟩
      | small => rintro next ⟨⟩; exact ⟨rfl, by decide⟩
      | capital => rintro next ⟨⟩; exact ⟨rfl, by decide⟩
    have atFraction : ∀ next ∈ behind.head?, next.isDigit = false := by
      cases point with
      | absent => exact fun next first => (atExponent next first).1
      | point => rintro next ⟨⟩; rfl
    have done (negative : Bool) : readUnsigned negative unsigned =
        some (⟨negative, whole, fraction, exponent⟩, rest) := by
      simp only [readUnsigned, readWhole_of_whole front atFraction,
        readFraction_of_fraction point atExponent, readExponent_of_exponent power
          fun next first => ⟨(ends next first).1, (ends next first).2.2⟩,
        Option.bind_eq_bind, Option.bind_some, Option.pure_def]
    cases sign with
    | minus => exact done true
    | absent =>
      obtain ⟨first, others, same, isDigit⟩ := front.spelled.exists_head
      have unsigned : first ≠ '-' := by
        rintro rfl
        exact absurd isDigit (by decide)
      rw [← done false, same]
      exact readLiteral_of_unsigned unsigned _

theorem readNumber_eq (text : Text) : readNumber text =
    (readLiteral text).bind fun (literal, rest) =>
      (Number.ofLiteral? literal).map fun number => (number, rest) := by
  rw [readNumber]
  cases readLiteral text with
  | none => rfl
  | some read => exact Option.map_eq_bind.symm

theorem exists_numeral_of_readNumber {number : Number}
    (read : readNumber text = some (number, rest)) :
    ∃ literal, Numeral text literal rest ∧ Number.ofLiteral? literal = some number := by
  rw [readNumber_eq] at read
  obtain ⟨⟨literal, behind⟩, readsLiteral, read⟩ := Option.bind_eq_some_iff.mp read
  obtain ⟨value, stands, same⟩ := Option.map_eq_some_iff.mp read
  cases same
  exact ⟨literal, numeral_of_readLiteral readsLiteral, stands⟩

theorem readNumber_of_numeral {literal : Literal} {number : Number}
    (written : Numeral text literal rest) (stands : Number.ofLiteral? literal = some number)
    (ends : EndsNumber rest) : readNumber text = some (number, rest) := by
  rw [readNumber_eq, readLiteral_of_numeral written ends]
  exact Option.map_eq_some_iff.mpr ⟨number, stands, rfl⟩

/-- A number starts with a digit or a minus sign. -/
theorem exists_head_of_numeral {literal : Literal} (written : Numeral text literal rest) :
    ∃ head behind, text = head :: behind ∧ (head = '-' ∨ head.isDigit = true) := by
  cases written with
  | parts sign front point power =>
    cases sign with
    | minus => exact ⟨'-', _, rfl, .inl rfl⟩
    | absent =>
      obtain ⟨first, others, same, isDigit⟩ := front.spelled.exists_head
      exact ⟨first, others, same, .inr isDigit⟩

end

/-! ### Reading strings -/

section

variable {text rest : Text}

theorem readUnit_eq_some_iff {unit : Nat} :
    readUnit text = some (unit, rest) ↔ Hexadecimal text unit rest := by
  constructor
  · intro read
    unfold readUnit at read
    split at read
    · obtain ⟨one, firstDigit, read⟩ := Option.bind_eq_some_iff.mp read
      obtain ⟨two, secondDigit, read⟩ := Option.bind_eq_some_iff.mp read
      obtain ⟨three, thirdDigit, read⟩ := Option.bind_eq_some_iff.mp read
      obtain ⟨four, fourthDigit, same⟩ := Option.bind_eq_some_iff.mp read
      cases same
      exact .four firstDigit secondDigit thirdDigit fourthDigit
    · cases read
  · rintro ⟨firstDigit, secondDigit, thirdDigit, fourthDigit⟩
    rw [readUnit, firstDigit, secondDigit, thirdDigit, fourthDigit]
    rfl

theorem code_of_readCode {character : Char} (read : readCode text = some (character, rest)) :
    Code text character rest := by
  obtain ⟨⟨unit, between⟩, first, read⟩ := Option.bind_eq_some_iff.mp read
  have first := readUnit_eq_some_iff.mp first
  dsimp only at read
  split at read
  · rename_i isHigh
    split at read
    · obtain ⟨⟨low, behind⟩, second, read⟩ := Option.bind_eq_some_iff.mp read
      have second := readUnit_eq_some_iff.mp second
      dsimp only at read
      split at read
      · rename_i isLow
        obtain ⟨rfl, rfl⟩ := Prod.mk.inj (Option.some.inj read)
        exact .pair first isHigh second isLow
      · cases read
    · cases read
  · rename_i notHigh
    split at read
    · cases read
    · rename_i notLow
      cases read
      exact .single first (by omega)

theorem readCode_of_code {character : Char} (written : Code text character rest) :
    readCode text = some (character, rest) := by
  cases written with
  | single code scalar =>
    refine Option.bind_eq_some_iff.mpr ⟨_, readUnit_eq_some_iff.mpr code, ?_⟩
    dsimp only
    rw [if_neg (by omega), if_neg (by omega)]
    rfl
  | pair first isHigh second isLow =>
    refine Option.bind_eq_some_iff.mpr ⟨_, readUnit_eq_some_iff.mpr first, ?_⟩
    dsimp only
    rw [if_pos isHigh]
    exact Option.bind_eq_some_iff.mpr ⟨_, readUnit_eq_some_iff.mpr second, if_pos isLow⟩

theorem shortEscape?_eq_some_iff {letter character : Char} :
    shortEscape? letter = some character ↔ (letter, character) ∈ shortEscapes := by
  constructor
  · intro stands
    unfold shortEscape? at stands
    split at stands <;> cases stands <;> decide
  · intro member
    simp only [shortEscapes, List.mem_cons, Prod.mk.injEq, List.not_mem_nil, or_false] at member
    rcases member with ⟨rfl, rfl⟩ | ⟨rfl, rfl⟩ | ⟨rfl, rfl⟩ | ⟨rfl, rfl⟩ | ⟨rfl, rfl⟩ | ⟨rfl, rfl⟩ |
      ⟨rfl, rfl⟩ | ⟨rfl, rfl⟩ <;> rfl

theorem readCharacter_eq_none_iff :
    readCharacter text = some (none, rest) ↔ text = '"' :: rest := by
  constructor
  · intro read
    unfold readCharacter at read
    split at read
    · cases read
    · cases read
      rfl
    · obtain ⟨found, _, same⟩ := Option.map_eq_some_iff.mp read
      cases same
    · obtain ⟨found, _, same⟩ := Option.map_eq_some_iff.mp read
      cases same
    · cases read
    · split at read <;> cases read
  · rintro rfl
    rfl

theorem letter_of_readCharacter {character : Char}
    (read : readCharacter text = some (some character, rest)) : Letter text character rest := by
  unfold readCharacter at read
  split at read
  · cases read
  · cases read
  · obtain ⟨⟨found, behind⟩, code, same⟩ := Option.map_eq_some_iff.mp read
    cases same
    exact .code (code_of_readCode code)
  · obtain ⟨found, stands, same⟩ := Option.map_eq_some_iff.mp read
    cases same
    exact .short (shortEscape?_eq_some_iff.mp stands)
  · cases read
  · rename_i notQuote _ notEscape notAlone
    split at read
    · cases read
    · rename_i shows
      cases read
      refine .plain (Nat.not_lt.mp shows) notQuote fun backslash => ?_
      cases rest with
      | nil => exact notAlone backslash rfl
      | cons letter behind => exact notEscape letter behind backslash rfl

theorem readCharacter_of_letter {character : Char} (written : Letter text character rest) :
    readCharacter text = some (some character, rest) := by
  cases written with
  | plain shows notQuote notBackslash =>
    rw [readCharacter]
    · exact if_neg (Nat.not_lt.mpr shows)
    all_goals simp_all
  | @short letter _ _ stands =>
    rw [readCharacter]
    · rw [shortEscape?_eq_some_iff.mpr stands]
      rfl
    · rintro rfl
      cases shortEscape?_eq_some_iff.mpr stands
  | code code => exact Option.map_eq_some_iff.mpr ⟨_, readCode_of_code code, rfl⟩

end

end Stencil.Json
