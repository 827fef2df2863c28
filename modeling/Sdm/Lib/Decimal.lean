import Mathlib.Data.Nat.Digits.Lemmas
import Sdm.Lib.CString

/-!
Numbers as decimal text.

* `atoi_decimal`: a printed number is read back, so that `decimal` is injective.
* `length_decimal_le`: how long the text of a small number is.
-/

namespace Sdm.Lib

/-- The digits of a number, the first one first. -/
def digitBytes (n : Nat) : List UInt8 :=
  if n = 0 then [48] else (Nat.digits 10 n).reverse.map fun d => 48 + UInt8.ofNat d

theorem toNat_digit {d : Nat} (lt : d < 10) : (48 + UInt8.ofNat d).toNat = 48 + d := by
  rw [UInt8.toNat_add, UInt8.toNat_ofNat_of_lt' (by simp [UInt8.size]; omega)]
  simp
  omega

theorem digit_of_mem_digitBytes {n : Nat} {b : UInt8} (mem : b ∈ digitBytes n) :
    48 ≤ b ∧ b ≤ 57 := by
  unfold digitBytes at mem
  split at mem
  · rw [List.mem_singleton.mp mem]
    decide
  · obtain ⟨d, inDigits, rfl⟩ := List.mem_map.mp mem
    have lt : d < 10 := Nat.digits_lt_base (by decide) (List.mem_reverse.mp inDigits)
    have value := toNat_digit lt
    constructor
    · rw [UInt8.le_iff_toNat_le, value]
      exact Nat.le_add_right _ _
    · rw [UInt8.le_iff_toNat_le, value, show (57 : UInt8).toNat = 57 from rfl]
      omega

/-- `printf` of a number with `%d`. -/
def decimal (i : Int) : CString where
  bytes := if i < 0 then 45 :: digitBytes i.natAbs else digitBytes i.natAbs
  nul_notMem := by
    have noNul : ∀ n, (0 : UInt8) ∉ digitBytes n := fun n mem =>
      absurd (digit_of_mem_digitBytes mem).1 (by decide)
    split
    · exact fun mem => (List.mem_cons.mp mem).elim (by decide) (noNul _)
    · exact noNul _

/-- A text, filled with spaces up to a width. -/
def CString.padRight (width : Nat) (s : CString) : CString where
  bytes := s.bytes ++ List.replicate (width - s.length) 32
  nul_notMem := fun mem => (List.mem_append.mp mem).elim s.nul_notMem fun space =>
    absurd (List.eq_of_mem_replicate space) (by decide)

/-- The digits have the value of the number, whatever follows that is no digit. -/
theorem digitsValue_digitBytes (n : Nat) : digitsValue (digitBytes n) = n := by
  have all : (digitBytes n).takeWhile (fun b => 48 ≤ b ∧ b ≤ 57) = digitBytes n :=
    List.takeWhile_eq_self_iff.mpr fun b mem => by simpa using digit_of_mem_digitBytes mem
  rw [digitsValue, all]
  unfold digitBytes
  split
  · rename_i zero
    rw [zero]
    rfl
  · rw [List.foldl_map, List.foldl_reverse]
    have value := Nat.ofDigits_digits 10 n
    rw [Nat.ofDigits_eq_foldr] at value
    have lt : ∀ d ∈ Nat.digits 10 n, d < 10 := fun d mem => Nat.digits_lt_base (by omega) mem
    refine Eq.trans ?_ value
    refine List.foldr_ext _ _ _ fun d mem acc => ?_
    rw [toNat_digit (lt d mem), Nat.cast_id]
    omega

theorem exists_digitBytes (n : Nat) : ∃ b rest, digitBytes n = b :: rest ∧ 48 ≤ b ∧ b ≤ 57 := by
  cases h : digitBytes n with
  | nil =>
      unfold digitBytes at h
      split at h
      · cases h
      · rename_i pos
        simp [Nat.digits_ne_nil_iff_ne_zero.mpr pos] at h
  | cons b rest =>
      exact ⟨b, rest, rfl, digit_of_mem_digitBytes (h ▸ List.mem_cons_self)⟩

/-- **A printed number is read back.** -/
theorem atoi_decimal (i : Int) : atoi (decimal i) = i := by
  obtain ⟨b, rest, eq, low, high⟩ := exists_digitBytes i.natAbs
  have value := digitsValue_digitBytes i.natAbs
  have notSpace : ¬ (b = 32 ∨ (9 ≤ b ∧ b ≤ 13)) := by
    rw [UInt8.le_iff_toNat_le] at low high
    rintro (rfl | ⟨-, le⟩)
    · exact absurd low (by decide)
    · rw [UInt8.le_iff_toNat_le] at le
      have h48 : (48 : UInt8).toNat = 48 := rfl
      have h13 : (13 : UInt8).toNat = 13 := rfl
      omega
  have notSign : b ≠ 45 ∧ b ≠ 43 := by
    constructor <;>
      · rintro rfl
        exact absurd low (by decide)
  unfold atoi decimal
  by_cases neg : i < 0
  · simp [neg, value, abs_of_neg neg]
  · simp only [neg, if_false, eq, List.dropWhile_cons, notSpace, decide_false, Bool.false_eq_true,
      notSign.1, notSign.2]
    rw [← eq, value]
    omega

/-- So is one that fits an `int`. -/
theorem toInt_decimal {i : Int} (low : -2147483648 ≤ i) (high : i ≤ 2147483647) :
    toInt (decimal i) = i := by
  rw [toInt, atoi_decimal, min_eq_right high, max_eq_right low]

theorem decimal_injective : Function.Injective decimal := fun i j same => by
  rw [← atoi_decimal i, same, atoi_decimal]

/-- The text of a number has `k` characters at most, and one for the sign, exactly below the power
of ten. -/
theorem length_decimal_le_iff {i : Int} {k : Nat} (pos : 0 < k) :
    (decimal i).length ≤ (if i < 0 then 1 else 0) + k ↔ i.natAbs < 10 ^ k := by
  have digits : (digitBytes i.natAbs).length ≤ k ↔ i.natAbs < 10 ^ k := by
    unfold digitBytes
    split
    · rename_i zero
      rw [zero]
      exact iff_of_true pos (Nat.pow_pos (by decide))
    · rw [List.length_map, List.length_reverse]
      exact Nat.digits_length_le_iff (by omega) _
  rw [← digits]
  by_cases neg : i < 0
  · simp only [CString.length, decimal, neg, if_true, List.length_cons]
    omega
  · simp only [CString.length, decimal, neg, if_false]
    omega

theorem length_decimal_le {i : Int} {k : Nat} (pos : 0 < k) (lt : i.natAbs < 10 ^ k) :
    (decimal i).length ≤ (if i < 0 then 1 else 0) + k :=
  (length_decimal_le_iff pos).mpr lt

end Sdm.Lib
