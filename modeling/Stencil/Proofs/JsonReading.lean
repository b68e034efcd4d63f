/-
This file proves that the reader of documents takes exactly the texts of the grammar, each with the
value that the grammar gives it, and that a document writes only one value.

Lists of parts are dealt with once, for the characters of a string, the items of an array and the
members of an object. What may stand behind a value, a comma, a closing bracket, blanks or nothing,
does not go on with a number, so each part ends where the derivation says. How deep a value must be
ranked is how deep its arrays and objects nest.
-/

import Stencil.Proofs.JsonGrammar
import Stencil.Proofs.JsonText

namespace Stencil.Json

open Grammar

/-! ### Reading lists of parts -/

section

variable {Part : Type} {part : Text → Part → Text → Prop} {ends : Text → Text → Prop}
  {turn : Text → Option (Option Part × Text)} {text rest : Text} {parts : List Part}

theorem parts_of_readTurns
    (stops : ∀ {text rest}, turn text = some (none, rest) → ends text rest)
    (continues : ∀ {text value rest}, turn text = some (some value, rest) → part text value rest)
    {fuel : Nat} (read : readTurns turn fuel text = some (parts, rest)) :
    Parts part ends text parts rest := by
  induction fuel generalizing text parts with
  | zero => cases read
  | succ fuel inductionHypothesis =>
    rw [readTurns] at read
    split at read
    · cases read
    · rename_i ended
      cases read
      exact .done (stops ended)
    · rename_i turned
      obtain ⟨⟨others, rest⟩, readOthers, same⟩ := Option.map_eq_some_iff.mp read
      cases same
      exact .next (continues turned) (inductionHypothesis readOthers)

/-- Each turn takes text, so as many turns as there are characters are enough. -/
theorem readTurns_of_parts (takes : TakesText turn)
    (stops : ∀ {text rest}, ends text rest → turn text = some (none, rest))
    (continues : ∀ {text value between others rest}, part text value between →
      Parts part ends between others rest → turn text = some (some value, between))
    (written : Parts part ends text parts rest) {fuel : Nat} (enough : text.length ≤ fuel) :
    readTurns turn fuel text = some (parts, rest) := by
  have spare {text between : Text} {value : Option Part}
      (turned : turn text = some (value, between)) {fuel : Nat} (enough : text.length ≤ fuel) :
      ∃ less, fuel = less + 1 ∧ between.length ≤ less := by
    have shorter := Nat.lt_of_lt_of_le (takes _ _ _ turned) enough
    exact ⟨fuel - 1, by omega, by omega⟩
  induction written generalizing fuel with
  | done ended =>
    obtain ⟨less, rfl, _⟩ := spare (stops ended) enough
    rw [readTurns, stops ended]
  | next leads follow inductionHypothesis =>
    have turned := continues leads follow
    obtain ⟨less, rfl, length⟩ := spare turned enough
    rw [readTurns, turned]
    dsimp only
    rw [inductionHypothesis length]
    rfl

end

theorem readString_eq_some_iff {text characters rest : Text} :
    readString text = some (characters, rest) ↔ Quoted text characters rest := by
  rw [readString_eq]
  constructor
  · exact parts_of_readTurns readCharacter_eq_none_iff.mp letter_of_readCharacter
  · exact fun written => readTurns_of_parts (takesText_of_cons rfl isLocal_readCharacter_cons)
      readCharacter_eq_none_iff.mpr (fun letter _ => readCharacter_of_letter letter) written
      (Nat.le_refl _)

/-- The reader takes what the rule derives: all that it takes is derived, and what is derived is
taken where no number goes on behind it. -/
structure Reads {Part : Type} (read : Text → Option (Part × Text))
    (part : Text → Part → Text → Prop) : Prop where
  derived : ∀ {text value rest}, read text = some (value, rest) → part text value rest
  taken : ∀ {text value rest}, part text value rest → EndsNumber rest →
    read text = some (value, rest)

section

variable {Part : Type} {closing : Char} {read : Text → Option (Part × Text)}
  {part : Text → Part → Text → Prop} {text rest : Text}

theorem nextBehindComma_eq_none_iff :
    nextBehindComma closing read text = some (none, rest) ↔ text = closing :: rest := by
  refine ⟨eq_of_nextBehindComma, ?_⟩
  rintro rfl
  exact if_pos rfl

theorem nextBehindComma_eq_some_iff (notComma : closing ≠ ',') {value : Part} :
    nextBehindComma closing read text = some (some value, rest) ↔
      ∃ behind, text = ',' :: behind ∧ read behind = some (value, rest) := by
  constructor
  · intro turned
    cases text with
    | nil => cases turned
    | cons head text =>
      rw [nextBehindComma] at turned
      split at turned
      · cases turned
      · split at turned
        · rename_i comma
          obtain ⟨⟨value, rest⟩, found, same⟩ := Option.map_eq_some_iff.mp turned
          cases same
          exact ⟨text, by rw [comma], found⟩
        · cases turned
  · rintro ⟨behind, rfl, found⟩
    rw [nextBehindComma, if_neg notComma.symm, if_pos rfl, found]
    rfl

/-- Parts with commas between them, from behind an opening bracket. -/
def readListed (closing : Char) (read : Text → Option (Part × Text)) (text : Text) :
    Option (List Part × Text) :=
  if (skipSpace text).head? = some closing then
    some ([], (skipSpace text).tail)
  else do
    let (first, rest) ← read text
    let (others, rest) ← readTurns (fun text => nextBehindComma closing read (skipSpace text))
      rest.length rest
    return (first :: others, rest)

/-- What is closed at once, or else reads parts with commas between them, is read from a list. -/
theorem eq_map_readListed {Whole : Type} {whole : Text → Option (Whole × Text)}
    (wrap : List Part → Whole)
    (closed : ∀ text rest, skipSpace text = closing :: rest → whole text = some (wrap [], rest))
    (opens : ∀ text, (∀ rest, skipSpace text ≠ closing :: rest) →
      whole text = (read text).bind fun (first, rest) =>
        (readTurns (fun text => nextBehindComma closing read (skipSpace text))
          rest.length rest).bind fun (others, rest) => some (wrap (first :: others), rest))
    (text : Text) :
    whole text = (readListed closing read text).map fun (parts, rest) => (wrap parts, rest) := by
  rw [readListed]
  split
  · rename_i first
    obtain ⟨behind, start⟩ := List.head?_eq_some_iff.mp first
    rw [closed text behind start, start]
    rfl
  · rename_i first
    rw [opens text fun behind start => first (by rw [start]; rfl)]
    rcases read text with _ | ⟨first, rest⟩
    · rfl
    · dsimp only [Option.bind_some, Option.bind_eq_bind]
      cases readTurns _ rest.length rest <;> rfl

/-- A closing bracket goes on with no number, and is no comma. -/
structure Closes (closing : Char) : Prop where
  visible : isSpace closing = false
  notComma : closing ≠ ','
  endsNumber : EndsNumberWith closing

theorem listed_of_readListed (reads : Reads read part) (closes : Closes closing)
    {parts : List Part} (found : readListed closing read text = some (parts, rest)) :
    Listed closing part text parts rest := by
  rw [readListed] at found
  split at found
  · rename_i closed
    obtain ⟨behind, start⟩ := List.head?_eq_some_iff.mp closed
    rw [start] at found
    cases found
    exact .empty ((token_iff closes.visible).mpr start)
  · obtain ⟨⟨first, between⟩, readsFirst, found⟩ := Option.bind_eq_some_iff.mp found
    obtain ⟨⟨others, rest⟩, readsOthers, same⟩ := Option.bind_eq_some_iff.mp found
    cases same
    refine .filled (reads.derived readsFirst) (parts_of_readTurns ?_ ?_ readsOthers)
    · exact fun ended => (token_iff closes.visible).mpr (nextBehindComma_eq_none_iff.mp ended)
    · intro text value rest turned
      obtain ⟨behind, start, readsNext⟩ := (nextBehindComma_eq_some_iff closes.notComma).mp turned
      exact ⟨behind, (token_iff rfl).mpr start, reads.derived readsNext⟩

theorem endsNumber_of_parts {others : List Part} (closes : Closes closing)
    (written : Parts (BehindComma part) (Token closing) text others rest) : EndsNumber text := by
  cases written with
  | done ended => exact endsNumber_of_token ended closes.endsNumber
  | next leads follow =>
    obtain ⟨behind, comma, _⟩ := leads
    exact endsNumber_of_token comma ⟨rfl, by decide, by decide, by decide⟩

theorem readListed_of_listed (reads : Reads read part) (readLocal : IsLocal read)
    (closes : Closes closing)
    (refuses : ∀ {text behind}, skipSpace text = closing :: behind → read text = none)
    {parts : List Part} (written : Listed closing part text parts rest) :
    readListed closing read text = some (parts, rest) := by
  cases written with
  | empty closed =>
    have start := (token_iff closes.visible).mp closed
    rw [readListed, start]
    exact if_pos rfl
  | filled leads follow =>
    have first := reads.taken leads (endsNumber_of_parts closes follow)
    -- What the grammar takes for a first part is not closed at once, for it is read.
    have opens : (skipSpace text).head? ≠ some closing := by
      intro closed
      obtain ⟨behind, start⟩ := List.head?_eq_some_iff.mp closed
      rw [refuses start] at first
      cases first
    have others := readTurns_of_parts (isLocal_nextBehindComma closing readLocal).2
      (fun ended => nextBehindComma_eq_none_iff.mpr ((token_iff closes.visible).mp ended))
      (fun ⟨behind, comma, next⟩ follow =>
        (nextBehindComma_eq_some_iff closes.notComma).mpr ⟨behind, (token_iff rfl).mp comma,
          reads.taken next (endsNumber_of_parts closes follow)⟩)
      follow (Nat.le_refl _)
    rw [readListed, if_neg opens]
    exact Option.bind_eq_some_iff.mpr ⟨_, first, Option.bind_eq_some_iff.mpr ⟨_, others, rfl⟩⟩

end

/-! ### Reading values -/

section

variable {read : Text → Option (Json × Text)}

theorem readArray_eq (text : Text) : readArray read text =
    (readListed ']' read text).map fun (items, rest) => (.array items, rest) := by
  refine eq_map_readListed Json.array (fun text rest closed => ?_) (fun text opens => ?_) text
  · rw [readArray, closed]
    rfl
  · rw [readArray, readItems_eq]
    split
    · exact absurd ‹_› (opens _)
    · rfl

theorem readObject_eq (text : Text) : readObject read text =
    (readListed '\x7d' (readMember read) text).map fun (members, rest) =>
      (.object members, rest) := by
  refine eq_map_readListed Json.object (fun text rest closed => ?_) (fun text opens => ?_) text
  · rw [readObject, closed]
    rfl
  · rw [readObject, readMembers_eq]
    split
    · exact absurd ‹_› (opens _)
    · rfl

theorem reads_readMember {value : Text → Json → Text → Prop} (reads : Reads read value) :
    Reads (readMember read) (Member value) := by
  constructor
  · intro text member rest found
    rw [readMember_eq] at found
    unfold readQuoted at found
    split at found
    · rename_i opens
      obtain ⟨⟨key, behind⟩, quoted, found⟩ := Option.bind_eq_some_iff.mp found
      dsimp only at found
      unfold readColon at found
      split at found
      · rename_i separates
        obtain ⟨⟨inner, rest⟩, holds, same⟩ := Option.bind_eq_some_iff.mp found
        cases same
        exact .pair ((token_iff rfl).mpr opens) (readString_eq_some_iff.mp quoted)
          ((token_iff rfl).mpr separates) (reads.derived holds)
      · cases found
    · cases found
  · rintro text member rest ⟨opens, quoted, separates, holds⟩ ends
    rw [readMember_eq, (token_iff rfl).mp opens]
    refine Option.bind_eq_some_iff.mpr ⟨_, readString_eq_some_iff.mpr quoted, ?_⟩
    dsimp only
    rw [(token_iff rfl).mp separates]
    exact Option.bind_eq_some_iff.mpr ⟨_, reads.taken holds ends, rfl⟩

end

theorem after?_eq_some_iff {word text rest : Text} :
    after? word text = some rest ↔ text = word ++ rest := by
  induction word generalizing text with
  | nil => exact Option.some_inj
  | cons expected word inductionHypothesis =>
    cases text with
    | nil => simp [after?]
    | cons head text =>
      rw [after?, List.cons_append, List.cons.injEq]
      split
      · rename_i same
        exact inductionHypothesis.trans ⟨fun later => ⟨same.symm, later⟩, And.right⟩
      · rename_i different
        constructor
        · exact fun none => by cases none
        · exact fun both => absurd both.1.symm different

theorem closes_bracket : Closes ']' :=
  ⟨rfl, by decide, rfl, by decide, by decide, by decide⟩

theorem closes_brace : Closes '\x7d' :=
  ⟨rfl, by decide, rfl, by decide, by decide, by decide⟩

theorem readValue_of_closing {depth : Nat} {text behind : Text}
    (closed : skipSpace text = ']' :: behind) : readValue depth text = none := by
  rw [readValue_eq, closed]
  rfl

theorem readMember_of_closing {read : Text → Option (Json × Text)} {text behind : Text}
    (closed : skipSpace text = '\x7d' :: behind) : readMember read text = none := by
  rw [readMember_eq, closed]
  rfl

theorem readBody_of_scalar {depth : Nat} {text rest : Text} {value : Json}
    (scalar : Scalar text value rest) (ends : EndsNumber rest) :
    skipSpace text = text ∧ readBody depth text = some (value, rest) := by
  cases scalar with
  | null => exact ⟨rfl, rfl⟩
  | yes => exact ⟨rfl, rfl⟩
  | no => exact ⟨rfl, rfl⟩
  | string quoted =>
    exact ⟨rfl, Option.map_eq_some_iff.mpr ⟨_, readString_eq_some_iff.mpr quoted, rfl⟩⟩
  | number numeral stands =>
    obtain ⟨head, behind, rfl, starts⟩ := exists_head_of_numeral numeral
    have other {character : Char} (notMinus : character ≠ '-')
        (notDigit : character.isDigit = false) : head ≠ character := by
      rintro rfl
      rcases starts with minus | digit
      · exact notMinus minus
      · rw [notDigit] at digit
        cases digit
    have visible : ¬ isSpace head = true := by
      intro space
      rcases starts with rfl | digit
      · cases space
      · rw [(endsNumberWith_of_isSpace space).1] at digit
        cases digit
    refine ⟨List.dropWhile_cons_of_neg visible, ?_⟩
    rw [readBody, readNumber_of_numeral numeral stands ends]
    · rfl
    all_goals exact fun _ same => other (by decide) rfl (List.cons.inj same).1

theorem readBody_of_composite {depth : Nat} (reads : Reads (readValue depth) (Value depth))
    {text rest : Text} {value : Json} (composite : Composite (Value depth) text value rest) :
    skipSpace text = text ∧ readBody (depth + 1) text = some (value, rest) := by
  have inner := readsValues_readValue depth
  cases composite with
  | array listed =>
    refine ⟨rfl, ?_⟩
    rw [readBody, readArray_eq, readListed_of_listed reads inner.isLocal closes_bracket
      readValue_of_closing listed]
    rfl
  | object listed =>
    refine ⟨rfl, ?_⟩
    rw [readBody, readObject_eq, readListed_of_listed (reads_readMember reads)
      (isLocal_readMember inner).1 closes_brace readMember_of_closing listed]
    rfl

theorem scalar_or_composite_of_readBody {depth : Nat}
    (reads : ∀ less, depth = less + 1 → Reads (readValue less) (Value less))
    {text rest : Text} {value : Json} (found : readBody depth text = some (value, rest)) :
    Scalar text value rest ∨
      ∃ less, depth = less + 1 ∧ Composite (Value less) text value rest := by
  unfold readBody at found
  split at found
  · obtain ⟨⟨characters, behind⟩, quoted, same⟩ := Option.map_eq_some_iff.mp found
    cases same
    exact .inl (.string (readString_eq_some_iff.mp quoted))
  · split at found
    · cases found
    · rename_i less
      rw [readArray_eq] at found
      obtain ⟨⟨items, behind⟩, listed, same⟩ := Option.map_eq_some_iff.mp found
      cases same
      exact .inr ⟨less, rfl, .array (listed_of_readListed (reads less rfl) closes_bracket listed)⟩
  · split at found
    · cases found
    · rename_i less
      rw [readObject_eq] at found
      obtain ⟨⟨members, behind⟩, listed, same⟩ := Option.map_eq_some_iff.mp found
      cases same
      exact .inr ⟨less, rfl, .object
        (listed_of_readListed (reads_readMember (reads less rfl)) closes_brace listed)⟩
  · obtain ⟨behind, word, same⟩ := Option.map_eq_some_iff.mp found
    cases same
    rw [after?_eq_some_iff.mp word]
    exact .inl .null
  · obtain ⟨behind, word, same⟩ := Option.map_eq_some_iff.mp found
    cases same
    rw [after?_eq_some_iff.mp word]
    exact .inl .yes
  · obtain ⟨behind, word, same⟩ := Option.map_eq_some_iff.mp found
    cases same
    rw [after?_eq_some_iff.mp word]
    exact .inl .no
  · obtain ⟨⟨number, behind⟩, found, same⟩ := Option.map_eq_some_iff.mp found
    cases same
    obtain ⟨literal, numeral, stands⟩ := exists_numeral_of_readNumber found
    exact .inl (.number numeral stands)

theorem value_iff {depth : Nat} {text rest : Text} {value : Json} :
    Value depth text value rest ↔ ∃ start, Blanks text start ∧
      (Scalar start value rest ∨
        ∃ less, depth = less + 1 ∧ Composite (Value less) start value rest) := by
  cases depth with
  | zero => simp [Value]
  | succ depth => simp [Value]

/-- The reader of values takes the values of the grammar. -/
theorem reads_readValue (depth : Nat) : Reads (readValue depth) (Value depth) := by
  induction depth using Nat.strongRecOn with
  | ind depth inductionHypothesis =>
    have inner (less : Nat) (same : depth = less + 1) : Reads (readValue less) (Value less) :=
      inductionHypothesis less (same ▸ Nat.lt_succ_self less)
    constructor
    · intro text value rest found
      rw [readValue_eq] at found
      exact value_iff.mpr
        ⟨_, blanks_skipSpace text, scalar_or_composite_of_readBody inner found⟩
    · intro text value rest written ends
      obtain ⟨start, blanks, kind⟩ := value_iff.mp written
      rw [readValue_eq, skipSpace_of_blanks blanks]
      rcases kind with scalar | ⟨less, rfl, composite⟩
      · obtain ⟨visible, read⟩ := readBody_of_scalar scalar ends
        rw [visible, read]
      · obtain ⟨visible, read⟩ := readBody_of_composite (inner less rfl) composite
        rw [visible, read]

theorem skipSpace_eq_nil_iff {text : Text} : skipSpace text = [] ↔ Blanks text [] := by
  constructor
  · intro blank
    have blanks := blanks_skipSpace text
    rwa [blank] at blanks
  · exact skipSpace_of_blanks

/-- The texts that are read are the documents, and what is read is what they write. -/
theorem readWithin?_eq_some_iff {depth : Nat} {text : Text} {written : Json} :
    readWithin? depth text = some written ↔ IsDocumentWithin depth text written := by
  constructor
  · intro read
    unfold readWithin? at read
    split at read
    · rename_i found
      split at read
      · rename_i blank
        cases read
        exact ⟨_, (reads_readValue depth).derived found,
          skipSpace_eq_nil_iff.mp (List.isEmpty_iff.mp blank)⟩
      · cases read
    · cases read
  · rintro ⟨rest, value, blanks⟩
    have found := (reads_readValue depth).taken value (endsNumber_of_blanks blanks fun _ first => by cases first)
    rw [readWithin?, found]
    exact if_pos (List.isEmpty_iff.mpr (skipSpace_eq_nil_iff.mpr blanks))

/-! ### Nesting -/

theorem nestingOfItems_le_iff {items : List Json} {depth : Nat} :
    nestingOfItems items ≤ depth ↔ ∀ item ∈ items, nesting item ≤ depth := by
  induction items with
  | nil => simp [nestingOfItems]
  | cons item items inductionHypothesis =>
    rw [nestingOfItems, Nat.max_le, inductionHypothesis, List.forall_mem_cons]

theorem nestingOfMembers_le_iff {members : Members} {depth : Nat} :
    nestingOfMembers members ≤ depth ↔ ∀ member ∈ members, nesting member.2 ≤ depth := by
  induction members with
  | nil => simp [nestingOfMembers]
  | cons member members inductionHypothesis =>
    rw [nestingOfMembers, Nat.max_le, inductionHypothesis, List.forall_mem_cons]

section

variable {Part : Type} {part other : Text → Part → Text → Prop} {text rest : Text}
  {parts : List Part}

theorem parts_imp {ends : Text → Text → Prop} (written : Parts part ends text parts rest)
    (implies : ∀ value ∈ parts, ∀ text rest, part text value rest → other text value rest) :
    Parts other ends text parts rest := by
  induction written with
  | done ended => exact .done ended
  | next leads _ inductionHypothesis =>
    obtain ⟨first, later⟩ := List.forall_mem_cons.mp implies
    exact .next (first _ _ leads) (inductionHypothesis later)

theorem exists_of_mem_parts {ends : Text → Text → Prop} (written : Parts part ends text parts rest)
    {value : Part} (member : value ∈ parts) : ∃ start behind, part start value behind := by
  induction written with
  | done => cases member
  | next leads _ inductionHypothesis =>
    rcases List.mem_cons.mp member with rfl | later
    · exact ⟨_, _, leads⟩
    · exact inductionHypothesis later

theorem listed_imp {closing : Char} (written : Listed closing part text parts rest)
    (implies : ∀ value ∈ parts, ∀ text rest, part text value rest → other text value rest) :
    Listed closing other text parts rest := by
  cases written with
  | empty closes => exact .empty closes
  | filled leads follow =>
    obtain ⟨first, later⟩ := List.forall_mem_cons.mp implies
    refine .filled (first _ _ leads) (parts_imp follow ?_)
    rintro value member text rest ⟨behind, comma, next⟩
    exact ⟨behind, comma, later value member _ _ next⟩

theorem exists_of_mem_listed {closing : Char} (written : Listed closing part text parts rest)
    {value : Part} (member : value ∈ parts) : ∃ start behind, part start value behind := by
  cases written with
  | empty => cases member
  | filled leads follow =>
    rcases List.mem_cons.mp member with rfl | later
    · exact ⟨_, _, leads⟩
    · obtain ⟨start, rest, behind, _, next⟩ := exists_of_mem_parts follow later
      exact ⟨behind, rest, next⟩

end

theorem nesting_of_scalar {text rest : Text} {value : Json} (scalar : Scalar text value rest) :
    nesting value = 0 := by
  cases scalar <;> rfl

theorem nesting_le_of_value {depth : Nat} {text rest : Text} {value : Json}
    (written : Value depth text value rest) : nesting value ≤ depth := by
  induction depth using Nat.strongRecOn generalizing text value rest with
  | ind depth inductionHypothesis =>
    obtain ⟨start, _, scalar | ⟨less, rfl, composite⟩⟩ := value_iff.mp written
    · rw [nesting_of_scalar scalar]
      exact Nat.zero_le depth
    · cases composite with
      | array listed =>
        refine Nat.succ_le_succ (nestingOfItems_le_iff.mpr fun item member => ?_)
        obtain ⟨_, _, inside⟩ := exists_of_mem_listed listed member
        exact inductionHypothesis less (Nat.lt_succ_self less) inside
      | object listed =>
        refine Nat.succ_le_succ (nestingOfMembers_le_iff.mpr fun member present => ?_)
        obtain ⟨_, _, ⟨_, _, _, inside⟩⟩ := exists_of_mem_listed listed present
        exact inductionHypothesis less (Nat.lt_succ_self less) inside

/-- A value is of every rank that its nesting fits in. -/
theorem value_of_nesting {depth enough : Nat} {text rest : Text} {value : Json}
    (written : Value depth text value rest) (fits : nesting value ≤ enough) :
    Value enough text value rest := by
  induction depth using Nat.strongRecOn generalizing enough text value rest with
  | ind depth inductionHypothesis =>
    obtain ⟨start, blanks, scalar | ⟨less, rfl, composite⟩⟩ := value_iff.mp written
    · exact value_iff.mpr ⟨start, blanks, .inl scalar⟩
    · have inside {text rest : Text} {value : Json} {enough : Nat}
          (written : Value less text value rest) (fits : nesting value ≤ enough) :
          Value enough text value rest :=
        inductionHypothesis less (Nat.lt_succ_self less) written fits
      have room {inner : Nat} (fits : inner + 1 ≤ enough) :
          ∃ below, enough = below + 1 ∧ inner ≤ below :=
        ⟨enough - 1, by omega, by omega⟩
      cases composite with
      | array listed =>
        obtain ⟨below, rfl, fitsInside⟩ := room fits
        have each := nestingOfItems_le_iff.mp fitsInside
        exact value_iff.mpr ⟨_, blanks, .inr ⟨below, rfl, .array (listed_imp listed
          fun item member _ _ written => inside written (each item member))⟩⟩
      | object listed =>
        obtain ⟨below, rfl, fitsInside⟩ := room fits
        have each := nestingOfMembers_le_iff.mp fitsInside
        refine value_iff.mpr ⟨_, blanks, .inr ⟨below, rfl, .object (listed_imp listed ?_)⟩⟩
        rintro member present text rest ⟨opens, quoted, separates, holds⟩
        exact .pair opens quoted separates (inside holds (each _ present))

theorem isDocumentWithin_iff {depth : Nat} {text : Text} {written : Json} :
    IsDocumentWithin depth text written ↔ IsDocument text written ∧ nesting written ≤ depth := by
  constructor
  · rintro ⟨rest, value, blanks⟩
    exact ⟨⟨depth, rest, value, blanks⟩, nesting_le_of_value value⟩
  · rintro ⟨⟨_, rest, value, blanks⟩, fits⟩
    exact ⟨rest, value_of_nesting value fits, blanks⟩

/-- A document writes one value. -/
theorem isDocument_unique {text : Text} {first second : Json} (one : IsDocument text first)
    (other : IsDocument text second) : first = second := by
  have firstRead := readWithin?_eq_some_iff.mpr
    (isDocumentWithin_iff.mpr ⟨one, Nat.le_max_left (nesting first) (nesting second)⟩)
  have secondRead := readWithin?_eq_some_iff.mpr
    (isDocumentWithin_iff.mpr ⟨other, Nat.le_max_right (nesting first) (nesting second)⟩)
  exact Option.some.inj (firstRead.symm.trans secondRead)

end Stencil.Json
