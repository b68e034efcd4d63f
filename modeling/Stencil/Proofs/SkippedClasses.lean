/-
This file proves where the scanner goes on behind a class. The scanner counts brackets; the reader
of expressions knows which of them open and close classes. A bracket that does neither although no
backslash stands before it is a stray, and there are two kinds that the scanner does not know: a
closing bracket at the start of a class inside another, and an opening bracket that ends a range.
A class without strays is skipped exactly, however its classes nest.
-/

import Stencil.Proofs.UnmarkedEscapes

namespace Stencil.Delimiters

open Regex

/-! ### Strays -/

/-- A closing bracket that stands for itself at the start of a class. -/
def leadingStray (text : Text) : Text :=
  if (dropFirst '^' text).head? = some ']' then [']'] else []

/-- An opening bracket that stands for itself at the end of a range. -/
def rangeStray (flags : Flags) (text : Text) : Text :=
  match readClassPrimitive flags text with
  | .ok (_, '-' :: '[' :: _) => ['[']
  | _ => []

/-- The strays up to the bracket that closes the outermost class, where as many classes are open
around the innermost one as `outer` says. -/
def straysFrom (flags : Flags) : (fuel outer : Nat) → Text → Text
  | 0, _, _ => []
  | fuel + 1, outer, text =>
    match text with
    | [] => []
    | '[' :: rest =>
      match readNamedSet? rest with
      | some (_, _, rest) => straysFrom flags fuel outer rest
      | none => leadingStray rest ++ straysFrom flags fuel (outer + 1) (openClass flags rest).2
    | ']' :: rest =>
      match outer with
      | 0 => []
      | outer + 1 => straysFrom flags fuel outer rest
    | '&' :: '&' :: rest => straysFrom flags fuel outer rest
    | '-' :: '-' :: rest => straysFrom flags fuel outer rest
    | '~' :: '~' :: rest => straysFrom flags fuel outer rest
    | text =>
      match readClassItem flags text with
      | .ok (_, rest) => rangeStray flags text ++ straysFrom flags fuel outer rest
      | .error _ => []

/-- The strays of a class, whose opening bracket stands before the text. -/
def strays (flags : Flags) (text : Text) : Text :=
  let rest := (openClass flags text).2
  straysFrom flags (rest.length + 1) 0 rest

section

variable {flags : Flags} {text rest behind strays : Text} {depth : Nat}

/-! ### The start of a class -/

/-- Hyphens at the start of a class are items of it. -/
theorem passesNoMark_of_readLeadingHyphens (blanksCount : flags.ignoreSpace = false) (fuel : Nat)
    (opened : OpenClass) (text : Text) :
    PassesNoMark text (readLeadingHyphens flags fuel opened text).2 ∧
      opened.gathered.count ≤ (readLeadingHyphens flags fuel opened text).1.gathered.count := by
  induction fuel generalizing opened text with
  | zero => exact ⟨PassesNoMark.refl text, Nat.le_refl _⟩
  | succ fuel inductionHypothesis =>
    unfold readLeadingHyphens
    split
    · rename_i rest
      rw [skip_of_blanksCount blanksCount]
      obtain ⟨passes, more⟩ := inductionHypothesis (opened.add (.single '-') 0) rest
      exact ⟨passes.cons (by decide), Nat.le_of_succ_le more⟩
    · exact ⟨PassesNoMark.refl text, Nat.le_refl _⟩

theorem readLeadingHyphens_of_ne (fuel : Nat) (opened : OpenClass)
    (noHyphen : text.head? ≠ some '-') :
    readLeadingHyphens flags fuel opened text = (opened, text) := by
  cases fuel with
  | zero => rfl
  | succ fuel =>
    unfold readLeadingHyphens
    split
    · exact absurd rfl noHyphen
    · rfl

theorem dropFirst_cases (character : Char) (text : Text) :
    (∃ rest, text = character :: rest ∧ dropFirst character text = rest) ∨
      (text.head? ≠ some character ∧ dropFirst character text = text) := by
  cases text with
  | nil => exact Or.inr ⟨nofun, rfl⟩
  | cons head rest =>
    rw [dropFirst]
    split
    · rename_i same
      exact Or.inl ⟨rest, same ▸ rfl, rfl⟩
    · rename_i other
      exact Or.inr ⟨fun same => other (Option.some.inj same), rfl⟩

/-- A closing bracket right at the start of a class is an item of it, and it is the only bracket
before the next item. -/
theorem passesNoMark_of_openClass (blanksCount : flags.ignoreSpace = false) (text : Text) :
    PassesNoMark (dropFirst ']' (dropFirst '^' text)) (openClass flags text).2 := by
  unfold openClass
  split
  rename_i negated inside negation
  have starts : dropFirst '^' text = inside := by
    rw [skip_of_blanksCount blanksCount] at negation
    split at negation
    · cases negation
      rw [skip_of_blanksCount blanksCount]
      rfl
    · rename_i other
      cases negation
      rcases dropFirst_cases '^' text with ⟨rest, same, _⟩ | ⟨_, same⟩
      · exact absurd same (other rest)
      · exact same
  rw [starts]
  dsimp only
  by_cases hyphen : inside.head? = some '-'
  · obtain ⟨rest, rfl⟩ := List.head?_eq_some_iff.mp hyphen
    obtain ⟨passes, more⟩ := passesNoMark_of_readLeadingHyphens blanksCount rest.length
      (OpenClass.add { negated } (.single '-') 0) rest
    rw [List.length_cons, readLeadingHyphens, skip_of_blanksCount blanksCount, if_neg]
    · exact passes.cons (by decide)
    · rw [beq_iff_eq]
      exact (Nat.lt_of_lt_of_le Nat.zero_lt_one more).ne'
  · rw [readLeadingHyphens_of_ne _ _ hyphen, if_pos (by rfl)]
    dsimp only
    rcases dropFirst_cases ']' inside with ⟨rest, rfl, same⟩ | ⟨other, same⟩
    · rw [same]
      change PassesNoMark rest (flags.skip rest)
      rw [skip_of_blanksCount blanksCount]
      exact PassesNoMark.refl rest
    · rw [same]
      split
      · exact absurd rfl other
      · exact PassesNoMark.refl inside

/-- A class inside another starts with a stray, unless it starts as the scanner would have it. -/
theorem ClosesBy.leading
    (closes : ClosesBy (depth + 1) (dropFirst ']' (dropFirst '^' text)) strays behind) :
    ClosesBy (depth + 1) text (leadingStray text ++ strays) behind := by
  have negated :
      ClosesBy (depth + 1) (dropFirst '^' text) (leadingStray text ++ strays) behind := by
    unfold leadingStray
    rcases dropFirst_cases ']' (dropFirst '^' text) with ⟨rest, starts, same⟩ | ⟨other, same⟩
    · rw [same] at closes
      rw [starts, if_pos (by rfl)]
      exact closes.strayClosing
    · rw [same] at closes
      rw [if_neg other]
      exact closes
  rcases dropFirst_cases '^' text with ⟨rest, rfl, same⟩ | ⟨_, same⟩
  · rw [same] at negated
    exact ClosesBy.plain (by decide) negated
  · rw [same] at negated
    exact negated

/-! ### Items -/

/-- The text starts with no bracket. -/
def StartsUnbracketed (text : Text) : Prop :=
  text.head? ≠ some '[' ∧ text.head? ≠ some ']'

theorem ClosesBy.primitive (blanksCount : flags.ignoreSpace = false) {primitive : Primitive}
    (noLook : ∀ assertion, primitive ≠ .look assertion) (noBracket : StartsUnbracketed text)
    (read : readClassPrimitive flags text = .ok (primitive, rest))
    (closes : ClosesBy (depth + 1) rest strays behind) :
    ClosesBy (depth + 1) text strays behind := by
  unfold readClassPrimitive at read
  split at read
  · cases read
  · rename_i escape
    cases escape with
    | nil => cases read
    | cons letter after =>
      exact ClosesBy.escaped ((passesNoMark_of_readEscape blanksCount noLook read).closesBy closes)
  · rename_i character after noEscape
    cases read
    refine ClosesBy.plain ?_ closes
    rw [← Bool.not_eq_true, isClassMark_iff]
    rintro (rfl | rfl | rfl)
    · exact noBracket.1 rfl
    · exact noBracket.2 rfl
    · exact noEscape rfl

theorem ne_look_of_members {primitive : Primitive} {members : CharSet}
    (made : primitive.members flags = .ok members) (assertion : Look) :
    primitive ≠ .look assertion := by
  rintro rfl
  cases made

theorem ne_look_of_character {primitive : Primitive} {character : Char}
    (made : primitive.character flags = .ok character) (assertion : Look) :
    primitive ≠ .look assertion := by
  rintro rfl
  cases made

theorem rangeStray_eq_nil {first : Primitive}
    (read : readClassPrimitive flags text = .ok (first, rest))
    (noRange : ∀ after, rest ≠ '-' :: '[' :: after) : rangeStray flags text = [] := by
  rw [rangeStray, read]
  split
  · rename_i same
    cases same
    exact absurd rfl (noRange _)
  · rfl

theorem ClosesBy.item (blanksCount : flags.ignoreSpace = false) {members : CharSet}
    (noBracket : StartsUnbracketed text) (read : readClassItem flags text = .ok (members, rest))
    (closes : ClosesBy (depth + 1) rest strays behind) :
    ClosesBy (depth + 1) text (rangeStray flags text ++ strays) behind := by
  obtain ⟨⟨first, more⟩, firstRead, read⟩ := ok_of_bind read
  dsimp only at read
  have single (noRange : ∀ after, more ≠ '-' :: '[' :: after)
      (done : (first.members flags >>= fun members => pure (members, more)) = .ok (members, rest)) :
      ClosesBy (depth + 1) text (rangeStray flags text ++ strays) behind := by
    obtain ⟨set, made, done⟩ := ok_of_bind done
    cases done
    rw [rangeStray_eq_nil firstRead noRange]
    exact closes.primitive blanksCount (ne_look_of_members made) noBracket firstRead
  rw [skip_of_blanksCount blanksCount] at read
  split at read
  · cases read
  · rename_i ahead
    rw [skip_of_blanksCount blanksCount] at read
    split at read
    · cases read
    · refine single (fun after same => ?_) read
      cases same
    · refine single (fun after same => ?_) read
      cases same
    · rename_i noClosing _
      obtain ⟨⟨last, after⟩, lastRead, read⟩ := ok_of_bind read
      obtain ⟨low, lowMade, read⟩ := ok_of_bind read
      obtain ⟨high, highMade, read⟩ := ok_of_bind read
      split at read
      · cases read
        refine ClosesBy.primitive blanksCount (ne_look_of_character lowMade) noBracket firstRead
          (ClosesBy.plain (by decide) ?_)
        cases ahead with
        | nil => cases lastRead
        | cons head tail =>
          by_cases bracket : head = '['
          · subst bracket
            cases lastRead
            have stray : rangeStray flags text = ['['] := by simp only [rangeStray, firstRead]
            rw [stray]
            exact closes.strayOpening
          · rw [rangeStray_eq_nil firstRead]
            · refine closes.primitive blanksCount (ne_look_of_character highMade) ⟨?_, ?_⟩ lastRead
              · exact fun same => bracket (Option.some.inj same)
              · rintro same
                cases same
                exact noClosing _ rfl
            · intro after same
              cases same
              exact bracket rfl
      · cases read
  · rename_i noHyphen
    exact single (fun after same => noHyphen _ same) read

/-! ### Classes -/

/-- The reader closes the classes that are open, and passes no strays but those. -/
theorem closesBy_of_readClassFrom (blanksCount : flags.ignoreSpace = false) {fuel : Nat}
    {current : OpenClass} {outer : List OpenClass} {members : CharSet} {height : Nat}
    (read : readClassFrom flags fuel current outer text = .ok (members, height, behind)) :
    ClosesBy (outer.length + 1) text (straysFrom flags fuel outer.length text) behind := by
  induction fuel generalizing current outer text with
  | zero => cases read
  | succ fuel inductionHypothesis =>
    rw [readClassFrom, skip_of_blanksCount blanksCount] at read
    split at read
    · cases read
    · rename_i rest
      split at read
      · rename_i set negated after named
        extract_lets folded set finish at read
        split at read
        · cases read
        · have passed := passesNoMark_of_readNamedSet? named
          simp only [straysFrom, named]
          exact ClosesBy.opening (passed.closesBy (ClosesBy.closing (inductionHypothesis read)))
      · rename_i unnamed
        simp only [straysFrom, unnamed]
        refine ClosesBy.opening (ClosesBy.leading ?_)
        exact (passesNoMark_of_openClass blanksCount rest).closesBy (inductionHypothesis read)
    · obtain ⟨⟨set, inner⟩, _, read⟩ := ok_of_bind read
      cases outer with
      | nil =>
        cases read
        exact ClosesBy.closing ClosesBy.closed
      | cons parent outer => exact ClosesBy.closing (inductionHypothesis read)
    · exact ClosesBy.plain (by decide) (ClosesBy.plain (by decide) (inductionHypothesis read))
    · exact ClosesBy.plain (by decide) (ClosesBy.plain (by decide) (inductionHypothesis read))
    · exact ClosesBy.plain (by decide) (ClosesBy.plain (by decide) (inductionHypothesis read))
    · rename_i noOpening noClosing _ _ _
      obtain ⟨⟨set, rest⟩, item, read⟩ := ok_of_bind read
      have unbracketed : StartsUnbracketed text := by
        constructor
        · intro starts
          obtain ⟨rest, same⟩ := List.head?_eq_some_iff.mp starts
          exact noOpening rest same
        · intro starts
          obtain ⟨rest, same⟩ := List.head?_eq_some_iff.mp starts
          exact noClosing rest same
      rw [straysFrom, item]
      · exact (inductionHypothesis read).item blanksCount unbracketed item
      all_goals assumption

/-- A class that is read closes by its brackets. -/
theorem closesBy_of_readClass (blanksCount : flags.ignoreSpace = false) {members : CharSet}
    {height : Nat} (read : readClass flags text = .ok (members, height, behind)) :
    ClosesBy 1 (dropFirst ']' (dropFirst '^' text)) (Delimiters.strays flags text) behind :=
  (passesNoMark_of_openClass blanksCount text).closesBy (closesBy_of_readClassFrom blanksCount read)

end

/-! ### The classes of a source -/

/-- The text behind a class, whose opening bracket stands before the text. -/
def classEnd? (flags : Flags) (text : Text) : Option Text :=
  (readClass flags text).toOption.map fun (_, _, behind) => behind

/-- The classes that the reader comes to, each with the flags that hold there and the text behind
its opening bracket. -/
def classesFrom : (fuel : Nat) → Progress → Text → List (Flags × Text)
  | 0, _, _ => []
  | fuel + 1, progress, text =>
    match progress.flags.skip text with
    | [] => []
    | head :: rest =>
      let later := match readPiece progress head rest with
        | .ok (progress, rest) => classesFrom fuel progress rest
        | .error _ => []
      if head = '[' then (progress.flags, rest) :: later else later

/-- The classes of a source, without those inside others. -/
def classes (source : Text) : List (Flags × Text) :=
  classesFrom source.length {} source

/-- Where a source is read to its end, so are its classes. -/
theorem readClass_of_mem_classesFrom {fuel : Nat} {progress final : Progress} {text inside : Text}
    {flags : Flags} (read : readPieces fuel progress text = .ok final)
    (member : (flags, inside) ∈ classesFrom fuel progress text) :
    ∃ found, readClass flags inside = .ok found := by
  induction fuel generalizing progress text with
  | zero => cases member
  | succ fuel inductionHypothesis =>
    rw [readPieces] at read
    rw [classesFrom] at member
    split at read
    · rename_i none
      rw [none] at member
      cases member
    · rename_i head rest starts
      rw [starts] at member
      obtain ⟨⟨next, behind⟩, piece, readLater⟩ := ok_of_bind read
      dsimp only at member
      rw [piece] at member
      have later := inductionHypothesis readLater
      split at member
      · rename_i bracket
        subst bracket
        rcases List.mem_cons.mp member with same | member
        · cases same
          obtain ⟨found, done, _⟩ := ok_of_bind piece
          exact ⟨found, done⟩
        · exact later member
      · exact later member

/-- A class without strays is skipped up to its end. Behind opening strays as many classes are still
to be closed, and at closing strays skipping stops early. -/
theorem class_skipped_up_to_strays {source inside : Text} {regex : Regex} {flags : Flags}
    (compiled : compile source = .ok regex) (member : (flags, inside) ∈ classes source)
    (blanksCount : flags.ignoreSpace = false) :
    ∃ behind, classEnd? flags inside = some behind ∧
      (strays flags inside = [] → nextAtom? ('[' :: inside) = some (.varying, behind)) ∧
      ((∀ stray ∈ strays flags inside, stray = '[') →
        nextAtom? ('[' :: inside) =
          some (.varying, afterBrackets (strays flags inside).length behind)) ∧
      (strays flags inside ≠ [] → (∀ stray ∈ strays flags inside, stray = ']') →
        ∃ missed, nextAtom? ('[' :: inside) = some (.varying, missed ++ ']' :: behind)) := by
  obtain ⟨_, final, pieces, _⟩ := readPieces_of_compile compiled
  obtain ⟨⟨members, height, behind⟩, read⟩ := readClass_of_mem_classesFrom pieces member
  have closes := closesBy_of_readClass blanksCount read
  have next : nextAtom? ('[' :: inside) = some (.varying, afterClass inside) := rfl
  have opening (each : ∀ stray ∈ strays flags inside, stray = '[') :
      afterClass inside = afterBrackets (strays flags inside).length behind := by
    have counted := closes.afterBrackets_of_opening each 0
    rwa [Nat.zero_add, Nat.zero_add] at counted
  rw [next]
  refine ⟨behind, by rw [classEnd?, read]; rfl, fun none => ?_, fun each => ?_, fun some each => ?_⟩
  · rw [opening (none ▸ fun _ member => absurd member List.not_mem_nil), none, List.length_nil,
      afterBrackets]
  · rw [opening each]
  · obtain ⟨missed, ends⟩ := closes.afterBrackets_of_closing each 1 (Nat.le_refl 1)
      (Nat.lt_add_of_pos_right (List.length_pos_iff.mpr some))
    exact ⟨missed, by rw [afterClass, ends]⟩

/-- A class that starts with a closing bracket and holds escapes, a named set, classes inside one
another, a property and an operator. -/
def nestedClass : Text :=
  "^]\\]x[:alpha:][^a-z&&[^\\[x]]\\p{Alphabetic}--y])>".toList

def nestedSource : Text :=
  "<([".toList ++ nestedClass

theorem class_skipped_up_to_strays_nested :
    ∃ regex, compile nestedSource = .ok regex ∧ ({}, nestedClass) ∈ classes nestedSource ∧
      ({} : Flags).ignoreSpace = false ∧ strays {} nestedClass = [] ∧
      ∃ behind, classEnd? {} nestedClass = some behind ∧ behind = [')', '>'] ∧
        nextAtom? ('[' :: nestedClass) = some (.varying, behind) := by
  have member : ({}, nestedClass) ∈ classes nestedSource := by decide +kernel
  have noStrays : strays {} nestedClass = [] := by decide +kernel
  have ends : classEnd? {} nestedClass = some [')', '>'] := by decide +kernel
  have accepted : (compile nestedSource).toOption.isSome = true := by decide +kernel
  cases compiled : compile nestedSource with
  | error cause =>
    rw [compiled] at accepted
    cases accepted
  | ok regex =>
    obtain ⟨behind, found, skipped, _⟩ := class_skipped_up_to_strays compiled member rfl
    obtain rfl := Option.some.inj (ends.symm.trans found)
    exact ⟨regex, rfl, member, rfl, noStrays, _, found, rfl, skipped noStrays⟩

/-- The scanner goes on elsewhere than the reader does behind a class of the source. -/
def MissesEnd (source : String) : Prop :=
  (compile source.toList).toOption.isSome = true ∧
    ∃ place ∈ classes source.toList, place.1.ignoreSpace = false ∧
      nextAtom? ('[' :: place.2) ≠ (classEnd? place.1 place.2).map (Atom.varying, ·)

instance (source : String) : Decidable (MissesEnd source) :=
  inferInstanceAs (Decidable (_ ∧ _))

/-- In turn, a class inside another starts with a closing bracket, so that a bracket of a class ends
up in a delimiter; and a range ends with an opening bracket, behind which no delimiter is found. -/
theorem class_ends_missed :
    MissesEnd "([a-z]+)[[]a]]x" ∧ (derive "([a-z]+)[[]a]]x".toList).2 = [']', 'x'] ∧
      MissesEnd "<[!-[]([a-z]+)>" ∧
      derive "<[!-[]([a-z]+)>".toList = (defaultOpening, defaultClosing) := by
  decide +kernel

end Stencil.Delimiters
