/-
This file proves that the guard on numbers may be read off an integer itself, whatever word holds
it. An integer of a document fits a signed word or, if not, an unsigned one; so none is rounded to a
double before it is tested. The absolute value of a signed word is taken without a sign, and is
right for the least of them as well, whose absolute value fits no signed word.
-/

import Stencil.Json.Number

namespace Stencil.Json.Number

theorem toNat_abs_toUInt64 (word : Int64) : word.abs.toUInt64.toNat = word.toInt.natAbs := by
  show word.abs.toBitVec.toNat = word.toBitVec.toInt.natAbs
  rw [Int64.toBitVec_abs, BitVec.toNat_abs, BitVec.toInt_eq_msb_cond]
  have small := word.toBitVec.isLt
  split
  · omega
  · omega

theorem le_maxSafeInteger_iff (word : UInt64) :
    word ≤ UInt64.ofNat maxSafeInteger ↔ word.toNat ≤ maxSafeInteger := by
  rw [UInt64.le_iff_toNat_le, UInt64.toNat_ofNat_of_lt' (by decide)]

section

variable {value : Int} (bounded : -2 ^ 63 ≤ value ∧ value < 2 ^ 64)

/-- An integer below the sign bit is held as a signed word. -/
theorem int64?_integer (small : value < 2 ^ 63) :
    ∃ word : Int64, (integer value bounded).int64? = some word ∧ word.toInt = value :=
  ⟨_, if_pos small, Int64.toInt_ofInt_of_le bounded.1 small⟩

/-- Any other integer is held as an unsigned word alone. -/
theorem uint64?_integer (large : ¬ value < 2 ^ 63) :
    (integer value bounded).int64? = none ∧
      ∃ word : UInt64,
        (integer value bounded).uint64? = some word ∧ (word.toNat : Int) = value := by
  have natural : 0 ≤ value := by omega
  refine ⟨if_neg large, _, if_pos natural, ?_⟩
  rw [UInt64.toNat_ofNat_of_lt' (show value.toNat < 2 ^ 64 by omega), Int.toNat_of_nonneg natural]

/-- The test of an integer, in whichever word it is made, is on its absolute value. -/
theorem isSafeInteger_integer :
    (integer value bounded).isSafeInteger = decide (value.natAbs ≤ maxSafeInteger) := by
  by_cases small : value < 2 ^ 63
  · obtain ⟨word, held, same⟩ := int64?_integer bounded small
    rw [isSafeInteger, held]
    refine decide_eq_decide.mpr ((le_maxSafeInteger_iff _).trans ?_)
    rw [toNat_abs_toUInt64, same]
  · obtain ⟨unsigned, word, held, same⟩ := uint64?_integer bounded small
    rw [isSafeInteger, unsigned, held]
    refine decide_eq_decide.mpr ((le_maxSafeInteger_iff word).trans ?_)
    rw [← Int.natAbs_natCast word.toNat, same]

end

/-- A double is held as nothing else. -/
theorem isSafeInteger_double (value : Double) :
    (double value).isSafeInteger = value.isIntegerWithin maxSafeInteger := rfl

end Stencil.Json.Number
