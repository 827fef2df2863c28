import Mathlib.Data.Int.Order.Basic

/-!
Signed numbers of 32 bits: their conversion to unsigned ones, and their successor.
-/

namespace Sdm.Lib

/-- A number that is not negative, as an unsigned one. -/
theorem toNat_toUInt32_of_nonneg {x : Int32} (nonneg : 0 ≤ x.toInt) :
    (x.toUInt32.toNat : Int) = x.toInt := by
  have bits : x.toInt = x.toBitVec.toInt := rfl
  have same : x.toUInt32.toNat = x.toBitVec.toNat := rfl
  rw [bits, BitVec.toInt_eq_toNat_cond] at nonneg ⊢
  rw [same]
  split at nonneg <;> omega

/-- A negative number, as an unsigned one. -/
theorem le_toNat_toUInt32_of_neg {x : Int32} (neg : x.toInt < 0) :
    2147483648 ≤ x.toUInt32.toNat := by
  have bits : x.toInt = x.toBitVec.toInt := rfl
  have same : x.toUInt32.toNat = x.toBitVec.toNat := rfl
  rw [bits, BitVec.toInt_eq_toNat_cond] at neg
  rw [same]
  split at neg <;> omega

/-- The number after one that is not the largest. -/
theorem toInt_succ {x : Int32} (room : x ≠ Int32.maxValue) : (x + 1).toInt = x.toInt + 1 := by
  have low := Int32.le_toInt x
  have high := Int32.toInt_le x
  have top : Int32.maxValue.toInt = 2147483647 := rfl
  have ne : x.toInt ≠ 2147483647 := by
    intro h
    exact room (Int32.toInt_inj.mp (h.trans top.symm))
  rw [Int32.toInt_add]
  show (x.toInt + 1).bmod (2 ^ 32) = x.toInt + 1
  exact Int.bmod_eq_of_le (by omega) (by omega)

end Sdm.Lib
