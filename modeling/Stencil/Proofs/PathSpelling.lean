/-
This file proves that all spellings of a path mean the same walk. A path writes segments with
separators around them, at least one between two, and quotes around a segment do not belong to it;
so a segment may stand bare behind a dot, between brackets, or in quotes between brackets.

To cut a path at a separator is to cut its list of segments in two, and what stands between two
separators is a segment in its quotes, or nothing but quotes. So the segments that a path writes are
the ones that the look-up walks, however they are written. Where a walk leads is said apart from the
function, by a relation with one rule for a step into an object and one for a step into an array.
-/

import Stencil.Path
import Stencil.Proofs.Trimming

namespace Stencil.Path

/-! ### What a path writes -/

/-- What a segment of a path may be. -/
structure IsSegment (segment : Text) : Prop where
  filled : segment ≠ []
  whole : ∀ character ∈ segment, isSeparator character = false
  starts : ∀ character ∈ segment.head?, isQuote character = false
  ends : ∀ character ∈ segment.getLast?, isQuote character = false

instance (segment : Text) : Decidable (IsSegment segment) :=
  decidable_of_iff
    (segment ≠ [] ∧ segment.all (!isSeparator ·) = true ∧ segment.head?.all (!isQuote ·) = true ∧
      segment.getLast?.all (!isQuote ·) = true) <| by
    simp only [List.all_eq_true, Option.all_eq_true, Bool.not_eq_true']
    exact ⟨fun ⟨filled, whole, starts, ends⟩ => ⟨filled, whole, starts, ends⟩,
      fun proper => ⟨proper.filled, proper.whole, proper.starts, proper.ends⟩⟩

/-- The text is at its end or goes on with a separator. -/
def StartsApart (text : Text) : Prop :=
  ∀ character ∈ text.head?, isSeparator character = true

instance (text : Text) : Decidable (StartsApart text) :=
  decidable_of_iff (text.head?.all isSeparator = true) (Option.all_eq_true ..)

/-- A path writes segments: one after another, each perhaps in quotes, with separators before,
between and behind them. Quotes with nothing inside count for nothing. -/
inductive Writes : List Text → Text → Prop where
  | nothing : Writes [] []
  | separator {mark : Char} {segments : List Text} {rest : Text}
      (separates : isSeparator mark = true) (others : Writes segments rest) :
      Writes segments (mark :: rest)
  | quotes {quotes : Text} {segments : List Text} {rest : Text}
      (quoting : ∀ quote ∈ quotes, isQuote quote = true) (apart : StartsApart rest)
      (others : Writes segments rest) : Writes segments (quotes ++ rest)
  | segment {before segment after : Text} {segments : List Text} {rest : Text}
      (proper : IsSegment segment) (quotesBefore : ∀ quote ∈ before, isQuote quote = true)
      (quotesAfter : ∀ quote ∈ after, isQuote quote = true) (apart : StartsApart rest)
      (others : Writes segments rest) :
      Writes (segment :: segments) (before ++ (segment ++ after) ++ rest)

namespace Writes

variable {segment : Text} {segments : List Text} {rest : Text}

/-- A segment may stand bare, behind a dot or another separator. -/
theorem bare (proper : IsSegment segment) (apart : StartsApart rest)
    (others : Writes segments rest) : Writes (segment :: segments) (segment ++ rest) := by
  have written := @Writes.segment [] segment [] segments rest proper
    (fun _ member => absurd member List.not_mem_nil)
    (fun _ member => absurd member List.not_mem_nil) apart others
  rwa [List.nil_append, List.append_nil] at written

/-- A segment may stand between brackets. -/
theorem bracketed (proper : IsSegment segment) (others : Writes segments rest) :
    Writes (segment :: segments) ('[' :: (segment ++ ']' :: rest)) := by
  refine separator rfl (bare proper ?_ (separator rfl others))
  rintro _ ⟨⟩
  rfl

/-- A segment may stand in quotes between brackets. -/
theorem quoted {quote : Char} (quotes : isQuote quote = true) (proper : IsSegment segment)
    (others : Writes segments rest) :
    Writes (segment :: segments) ('[' :: quote :: (segment ++ quote :: ']' :: rest)) := by
  have each : ∀ other ∈ [quote], isQuote other = true := List.forall_mem_singleton.mpr quotes
  have apart : StartsApart (']' :: rest) := by
    rintro _ ⟨⟩
    rfl
  have written := Writes.segment proper each each apart (separator rfl others)
  rw [List.append_assoc, List.append_assoc] at written
  exact separator rfl written

end Writes

/-! ### Cutting a path -/

theorem splitOn_ne_nil (test : Char → Bool) (text : Text) : splitOn test text ≠ [] := by
  cases text with
  | nil => exact List.cons_ne_nil _ _
  | cons head rest =>
    rw [splitOn]
    split
    · exact List.cons_ne_nil _ _
    · split <;> exact List.cons_ne_nil _ _

theorem splitOn_cons {test : Char → Bool} {rest first : Text} {others : List Text}
    (cut : splitOn test rest = first :: others) (head : Char) :
    splitOn test (head :: rest) =
      if test head then [] :: first :: others else (head :: first) :: others := by
  rw [splitOn, cut]

/-- A text without separators is not cut. -/
theorem splitOn_of_whole {test : Char → Bool} {text : Text}
    (whole : ∀ character ∈ text, test character = false) : splitOn test text = [text] := by
  induction text with
  | nil => rfl
  | cons head rest inductionHypothesis =>
    rw [List.forall_mem_cons] at whole
    rw [splitOn_cons (inductionHypothesis whole.2), whole.1]
    rfl

/-- A text is cut at each separator. -/
theorem splitOn_append_cons {test : Char → Bool} {mark : Char} (separates : test mark = true)
    (front back : Text) :
    splitOn test (front ++ mark :: back) = splitOn test front ++ splitOn test back := by
  induction front with
  | nil =>
    obtain ⟨first, others, cut⟩ := List.exists_cons_of_ne_nil (splitOn_ne_nil test back)
    rw [List.nil_append, splitOn_cons cut, if_pos separates, cut]
    rfl
  | cons head front inductionHypothesis =>
    obtain ⟨first, others, cut⟩ := List.exists_cons_of_ne_nil (splitOn_ne_nil test front)
    rw [cut, List.cons_append] at inductionHypothesis
    rw [List.cons_append, splitOn_cons inductionHypothesis, splitOn_cons cut]
    split <;> rfl

theorem segments_append_cons {mark : Char} (separates : isSeparator mark = true)
    (front back : Text) : segments (front ++ mark :: back) = segments front ++ segments back := by
  rw [segments, splitOn_append_cons separates, List.map_append, List.filter_append]
  rfl

/-- A separator at the start adds nothing. -/
theorem segments_cons {mark : Char} (separates : isSeparator mark = true) (rest : Text) :
    segments (mark :: rest) = segments rest :=
  segments_append_cons separates [] rest

/-- What ends before a separator has segments of its own. -/
theorem segments_append {rest : Text} (apart : StartsApart rest) (front : Text) :
    segments (front ++ rest) = segments front ++ segments rest := by
  cases rest with
  | nil => rw [List.append_nil, show segments [] = [] from rfl, List.append_nil]
  | cons mark rest =>
    have separates : isSeparator mark = true := apart mark rfl
    rw [segments_append_cons separates, segments_cons separates]

/-- What stands between two separators is the segment in its quotes, if there is one. -/
theorem segments_of_whole {text : Text}
    (whole : ∀ character ∈ text, isSeparator character = false) :
    segments text =
      if Text.trimWhile isQuote text = [] then [] else [Text.trimWhile isQuote text] := by
  rw [segments, splitOn_of_whole whole]
  simp only [List.map_cons, List.map_nil]
  cases Text.trimWhile isQuote text <;> rfl

/-! ### The segments that are written -/

theorem isSeparator_of_isQuote {character : Char} (quotes : isQuote character = true) :
    isSeparator character = false := by
  rw [isQuote, Bool.or_eq_true, beq_iff_eq, beq_iff_eq] at quotes
  rcases quotes with rfl | rfl <;> rfl

/-- Quotes with nothing inside are trimmed away. -/
theorem trimWhile_quotes {quotes : Text} (quoting : ∀ quote ∈ quotes, isQuote quote = true) :
    Text.trimWhile isQuote quotes = [] := by
  have between := Text.trimWhile_between quotes [] [] quoting
    (fun _ member => absurd member List.not_mem_nil) (fun _ first => nomatch first)
    fun _ last => nomatch last
  rwa [List.nil_append, List.append_nil] at between

theorem Writes.segments_eq {written : List Text} {path : Text} (writes : Writes written path) :
    segments path = written := by
  induction writes with
  | nothing => rfl
  | separator separates _ inductionHypothesis =>
    rw [segments_cons separates, inductionHypothesis]
  | quotes quoting apart _ inductionHypothesis =>
    rw [segments_append apart, inductionHypothesis,
      segments_of_whole fun _ member => isSeparator_of_isQuote (quoting _ member),
      if_pos (trimWhile_quotes quoting), List.nil_append]
  | @segment before segment after _ _ proper quotesBefore quotesAfter apart _
      inductionHypothesis =>
    have whole : ∀ character ∈ before ++ (segment ++ after), isSeparator character = false := by
      intro character member
      rw [List.mem_append, List.mem_append] at member
      rcases member with quote | inside | quote
      · exact isSeparator_of_isQuote (quotesBefore _ quote)
      · exact proper.whole _ inside
      · exact isSeparator_of_isQuote (quotesAfter _ quote)
    rw [segments_append apart, inductionHypothesis, segments_of_whole whole,
      Text.trimWhile_between _ _ _ quotesBefore quotesAfter proper.starts proper.ends,
      if_neg proper.filled, List.singleton_append]

/-! ### Where a walk leads -/

/-- A segment spells an index: in ASCII digits, with at most one plus sign before them, and of no
more than 64 bits. -/
def SpellsIndex (segment : Text) (index : Nat) : Prop :=
  ∃ digits, (segment = digits ∨ segment = '+' :: digits) ∧ digits ≠ [] ∧
    (∀ digit ∈ digits, digit.isDigit = true) ∧ Decimal.ofDigits digits = index ∧ index < 2 ^ 64

/-- The value is an object in which the key has this value. -/
def Holds (whole : Json) (key : Text) (value : Json) : Prop :=
  ∃ members, whole = .object members ∧ Json.Members.get? members key = some value

/-- Segments lead from one value to another: each step goes into an object by the key that equals
the segment, or into an array by the index that the segment spells. -/
inductive Leads : List Text → Json → Json → Prop where
  | here {value : Json} : Leads [] value value
  | key {segment : Text} {further : List Text} {members : Json.Members} {inner value : Json}
      (found : Json.Members.get? members segment = some inner)
      (leads : Leads further inner value) : Leads (segment :: further) (.object members) value
  | index {segment : Text} {further : List Text} {items : List Json} {index : Nat}
      {inner value : Json} (spelled : SpellsIndex segment index)
      (found : items[index]? = some inner) (leads : Leads further inner value) :
      Leads (segment :: further) (.array items) value

theorem index?_eq_some_iff {segment : Text} {index : Nat} :
    index? segment = some index ↔ SpellsIndex segment index := by
  have read (digits : Text) :
      (if digits.isEmpty || !digits.all Char.isDigit then none
        else
          let value := Decimal.ofDigits digits
          if value < 2 ^ 64 then some value else none) = some index ↔
        digits ≠ [] ∧ (∀ digit ∈ digits, digit.isDigit = true) ∧
          Decimal.ofDigits digits = index ∧ index < 2 ^ 64 := by
    grind
  unfold index?
  split
  · rename_i rest
    rw [read, SpellsIndex]
    constructor
    · exact fun spelled => ⟨rest, .inr rfl, spelled⟩
    · rintro ⟨digits, rfl | same, filled, areDigits, rest⟩
      · exact absurd (areDigits '+' List.mem_cons_self) (by decide)
      · rw [(List.cons.inj same).2]
        exact ⟨filled, areDigits, rest⟩
  · rename_i unsigned
    rw [read, SpellsIndex]
    constructor
    · exact fun spelled => ⟨segment, .inl rfl, spelled⟩
    · rintro ⟨digits, same | same, spelled⟩
      · rwa [same]
      · exact absurd same (unsigned digits)

theorem walk_eq_some_iff {steps : List Text} {whole part : Json} :
    walk whole steps = some part ↔ Leads steps whole part := by
  constructor
  · intro walked
    induction steps generalizing whole with
    | nil =>
      rw [walk] at walked
      rw [Option.some.inj walked]
      exact .here
    | cons segment rest inductionHypothesis =>
      cases whole with
      | object members =>
        rw [walk] at walked
        split at walked
        · rename_i inner found
          exact .key found (inductionHypothesis walked)
        · cases walked
      | array items =>
        rw [walk] at walked
        split at walked
        · rename_i index spelled
          split at walked
          · rename_i inner found
            exact .index (index?_eq_some_iff.mp spelled) found (inductionHypothesis walked)
          · cases walked
        · cases walked
      | null => cases walked
      | bool flag => cases walked
      | number number => cases walked
      | string text => cases walked
  · intro leads
    induction leads with
    | here => rw [walk]
    | key found _ inductionHypothesis => simp only [walk, found, inductionHypothesis]
    | index spelled found _ inductionHypothesis =>
      simp only [walk, index?_eq_some_iff.mpr spelled, found, inductionHypothesis]

theorem walkFrom_eq_some_iff {bindings value : Json} {path : Text} :
    walkFrom bindings path = some value ↔
      segments path ≠ [] ∧ Leads (segments path) bindings value := by
  rw [walkFrom]
  split
  · rename_i nowhere
    rw [nowhere]
    exact ⟨(fun found => nomatch found), fun found => absurd rfl found.1⟩
  · rename_i steps somewhere
    rw [walk_eq_some_iff]
    exact ⟨fun leads => ⟨somewhere, leads⟩, And.right⟩

/-! ### What a path stands for -/

/-- A path stands for the value of the key that equals it as it is written, if the variables are an
object with that key. Otherwise it stands for the value to which the segments lead that it writes,
however it writes them; and for none if it writes no segment or they lead nowhere. -/
theorem lookup_of_writes {written : List Text} {path : Text} (writes : Writes written path)
    (bindings value : Json) :
    lookup bindings path = some value ↔
      Holds bindings path value ∨
        (∀ own, ¬ Holds bindings path own) ∧ written ≠ [] ∧ Leads written bindings value := by
  have walked := @walkFrom_eq_some_iff bindings value path
  rw [writes.segments_eq] at walked
  have walkedOnly (keyless : ∀ own, ¬ Holds bindings path own)
      (same : lookup bindings path = walkFrom bindings path) :
      lookup bindings path = some value ↔
        Holds bindings path value ∨
          (∀ own, ¬ Holds bindings path own) ∧ written ≠ [] ∧ Leads written bindings value := by
    rw [same, walked, or_iff_right (keyless value), and_iff_right keyless]
  cases bindings with
  | object members =>
    have holds_iff (own : Json) : Holds (.object members) path own ↔
        Json.Members.get? members path = some own := by
      constructor
      · rintro ⟨others, same, found⟩
        cases same
        exact found
      · exact fun found => ⟨members, rfl, found⟩
    cases found : Json.Members.get? members path with
    | none =>
      refine walkedOnly (fun own holds => ?_) ?_
      · rw [holds_iff, found] at holds
        cases holds
      · rw [lookup, found]
    | some own =>
      have direct : lookup (.object members) path = some own := by rw [lookup, found]
      rw [direct, holds_iff, found]
      refine ⟨Or.inl, fun either => either.resolve_right fun absent => ?_⟩
      exact absent.1 own ((holds_iff own).mpr found)
  | _ =>
    refine walkedOnly (fun own holds => ?_) rfl
    obtain ⟨members, same, _⟩ := holds
    cases same

/-- Variables in which the same digit is an index in one place and a key in another. -/
def nestedVariables : Json :=
  .object [(['a'], .array [.object [(['x', ' ', 'y'], .object [(['0'], .bool true)])]])]

/-- The path `..a[+0]["x y"].0]`. -/
def mixedSpelling : Text :=
  ['.', '.', 'a', '[', '+', '0', ']', '[', '"', 'x', ' ', 'y', '"', ']', '.', '0', ']']

/-- Four segments, each written in another way: bare, between brackets, in quotes between brackets,
and behind a dot, with separators to spare. -/
theorem lookup_of_writes_mixed :
    Writes [['a'], ['+', '0'], ['x', ' ', 'y'], ['0']] mixedSpelling ∧
      lookup nestedVariables mixedSpelling = some (.bool true) := by
  have writes : Writes [['a'], ['+', '0'], ['x', ' ', 'y'], ['0']] mixedSpelling := by
    refine .separator rfl (.separator rfl (.bare ?_ ?_ (.bracketed ?_ (.quoted rfl ?_
      (.separator rfl (.bare ?_ ?_ (.separator rfl .nothing)))))))
    all_goals decide
  refine ⟨writes, (lookup_of_writes writes _ _).mpr (.inr ⟨?_, List.cons_ne_nil _ _, ?_⟩)⟩
  · rintro own ⟨members, same, found⟩
    cases same
    cases found
  · have zero : SpellsIndex ['+', '0'] 0 :=
      ⟨['0'], .inr rfl, List.cons_ne_nil _ _, List.forall_mem_singleton.mpr rfl, rfl, by decide⟩
    exact .key rfl (.index zero rfl (.key rfl (.key rfl .here)))

end Stencil.Path
