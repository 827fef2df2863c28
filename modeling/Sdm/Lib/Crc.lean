import Mathlib.Data.List.GetD

/-!
Remainders of a cyclic redundancy check.

A register of `w` bits is shifted to the left, and takes the polynomial where a bit falls out. A
bit that is fed is added at the top before the shift. Both are linear in the register, and a shift
loses nothing when the polynomial has its lowest bit.

* `feed_eq_shifts`: up to `w` bits may be added at once.
* `feed_xor`: the register of a sum is the sum of the registers.
* `feed_burst_ne_zero`: a burst of at most `w` bits leaves a remainder, whatever zeros stand around
  it.
-/

namespace Sdm.Lib.Crc

variable {w : Nat} {g r s : BitVec w} {b : Bool} {l l' bits : List Bool} {i n : Nat}

/-- The register is shifted by one bit. -/
def shift (g r : BitVec w) : BitVec w := if r.msb then (r <<< 1) ^^^ g else r <<< 1

/-- `n` shifts. -/
def shifts (g : BitVec w) : Nat → BitVec w → BitVec w
  | 0, r => r
  | n + 1, r => shifts g n (shift g r)

/-- A bit at the top of a register. -/
def topBit (w : Nat) (b : Bool) : BitVec w := if b then BitVec.twoPow w (w - 1) else 0#w

/-- Bits at the top of a register, the first one topmost. -/
def top (w : Nat) : List Bool → BitVec w
  | [] => 0#w
  | b :: bits => topBit w b ^^^ (top w bits >>> 1)

/-- A bit is fed: it is added at the top, and the register is shifted. -/
def feedBit (g r : BitVec w) (b : Bool) : BitVec w := shift g (r ^^^ topBit w b)

/-- Bits are fed one after another. -/
def feed (g r : BitVec w) (bits : List Bool) : BitVec w := bits.foldl (feedBit g) r

/-! ### Shifts -/

@[simp]
theorem shift_zero : shift g 0 = 0 := by
  simp [shift]

theorem shift_of_clear (clear : r.msb = false) : shift g r = r <<< 1 := by
  rw [shift, clear, if_neg Bool.false_ne_true]

theorem shift_xor : shift g (r ^^^ s) = shift g r ^^^ shift g s := by
  simp only [shift, BitVec.msb_xor, BitVec.shiftLeft_xor_distrib]
  cases r.msb <;> cases s.msb
  · rfl
  · exact BitVec.xor_assoc _ _ _
  · simp only [Bool.xor_false, if_true, Bool.false_eq_true, if_false]
    rw [BitVec.xor_assoc, BitVec.xor_comm (s <<< 1), ← BitVec.xor_assoc]
  · simp only [Bool.xor_self, Bool.false_eq_true, if_false, if_true]
    rw [BitVec.xor_assoc, BitVec.xor_comm (s <<< 1), ← BitVec.xor_assoc g, BitVec.xor_self,
      BitVec.zero_xor]

/-- A shift loses nothing. -/
theorem eq_zero_of_shift (odd : g.getLsbD 0 = true) (zero : shift g r = 0) : r = 0 := by
  rw [shift] at zero
  split at zero
  · have low := congrArg (BitVec.getLsbD · 0) zero
    simp [odd] at low
  · rename_i clear
    apply BitVec.eq_of_getLsbD_eq
    intro i lt
    rcases Nat.lt_or_ge (i + 1) w with inside | outside
    · have moved := congrArg (BitVec.getLsbD · (i + 1)) zero
      simp only [BitVec.getLsbD_shiftLeft, inside, decide_true, Nat.not_lt.mpr (Nat.le_add_left 1 i),
        decide_false, Bool.not_false, Bool.true_and, Nat.add_sub_cancel, BitVec.ofNat_eq_ofNat,
        BitVec.getLsbD_zero] at moved
      rw [moved, BitVec.ofNat_eq_ofNat, BitVec.getLsbD_zero]
    · have last : i = w - 1 := by omega
      rw [BitVec.msb_eq_getLsbD_last] at clear
      rw [last, BitVec.ofNat_eq_ofNat, BitVec.getLsbD_zero]
      exact Bool.eq_false_iff.mpr clear

@[simp]
theorem shifts_zero : shifts g n (0 : BitVec w) = 0 := by
  induction n with
  | zero => rfl
  | succ n ih => rw [shifts, shift_zero, ih]

/-- The last shift. -/
theorem shifts_succ : shifts g (n + 1) r = shift g (shifts g n r) := by
  induction n generalizing r with
  | zero => rfl
  | succ n ih => rw [shifts, ih, shifts]

theorem shifts_xor : shifts g n (r ^^^ s) = shifts g n r ^^^ shifts g n s := by
  induction n generalizing r s with
  | zero => rfl
  | succ n ih => rw [shifts, shift_xor, ih, shifts, shifts]

theorem eq_zero_of_shifts (odd : g.getLsbD 0 = true) (zero : shifts g n r = 0) : r = 0 := by
  induction n generalizing r with
  | zero => exact zero
  | succ n ih => exact eq_zero_of_shift odd (ih zero)

theorem shifts_inj (odd : g.getLsbD 0 = true) : shifts g n r = shifts g n s ↔ r = s := by
  constructor
  · intro equal
    have none : shifts g n (r ^^^ s) = 0#w := by rw [shifts_xor, equal, BitVec.xor_self]
    exact BitVec.xor_eq_zero_iff.mp (eq_zero_of_shifts odd none)
  · rintro rfl
    rfl

/-! ### Feeding bits -/

theorem getMsbD_topBit : (topBit w b).getMsbD i = (decide (i < w) && (decide (i = 0) && b)) := by
  cases b with
  | false => simp [topBit]
  | true =>
      rw [topBit, if_pos rfl, BitVec.getMsbD_twoPow, Bool.and_true, ← Bool.decide_and,
        ← Bool.decide_and, decide_eq_decide]
      omega

theorem topBit_xor {c : Bool} : topBit w (Bool.xor b c) = topBit w b ^^^ topBit w c := by
  cases b <;> cases c <;> simp [topBit]

theorem getMsbD_top : (top w bits).getMsbD i = (decide (i < w) && bits.getD i false) := by
  induction bits generalizing i with
  | nil => simp [top]
  | cons b bits ih =>
      rw [top, BitVec.getMsbD_xor, getMsbD_topBit, BitVec.getMsbD_ushiftRight, ih]
      cases i with
      | zero => simp
      | succ i =>
          by_cases inside : i + 1 < w
          · simp [inside, Nat.lt_of_succ_lt inside]
          · simp [inside]

/-- Bits of which one is set are not lost at the top. -/
theorem top_ne_zero (short : bits.length ≤ w) (set : true ∈ bits) : top w bits ≠ 0 := by
  intro zero
  obtain ⟨i, lt, here⟩ := List.getElem_of_mem set
  have bit : (top w bits).getMsbD i = true := by
    rw [getMsbD_top, List.getD_eq_getElem _ _ lt, here, decide_eq_true (by omega), Bool.true_and]
  rw [zero, BitVec.ofNat_eq_ofNat, BitVec.getMsbD_zero] at bit
  exact Bool.false_ne_true bit

/-- The bits that wait behind the first one come to the top with the shift. -/
theorem shift_top (short : bits.length < w) : shift g (top w bits >>> 1) = top w bits := by
  have clear : (top w bits >>> 1).msb = false := by
    rw [BitVec.msb, BitVec.getMsbD_ushiftRight]
    simp
  rw [shift_of_clear clear]
  apply BitVec.eq_of_getMsbD_eq
  intro i lt
  rw [BitVec.getMsbD_shiftLeft, BitVec.getMsbD_ushiftRight, getMsbD_top, getMsbD_top]
  by_cases inside : i + 1 < w
  · simp [inside, lt]
  · have last : bits.length ≤ i := by omega
    rw [List.getD_eq_default _ _ last]
    simp [inside]

@[simp]
theorem feed_nil : feed g r [] = r := rfl

@[simp]
theorem feed_cons : feed g r (b :: bits) = feed g (feedBit g r b) bits := rfl

theorem feed_append : feed g r (l ++ l') = feed g (feed g r l) l' := List.foldl_append

/-- **Bits at once**: a register takes up to `w` bits in one sum before the shifts. -/
theorem feed_eq_shifts (short : bits.length ≤ w) :
    feed g r bits = shifts g bits.length (r ^^^ top w bits) := by
  induction bits generalizing r with
  | nil =>
      rw [feed_nil, List.length_nil, shifts, top, BitVec.xor_zero]
  | cons b bits ih =>
      rw [List.length_cons] at short
      rw [feed_cons, ih (Nat.le_of_succ_le short), List.length_cons, shifts, top,
        ← BitVec.xor_assoc, shift_xor, shift_top short, feedBit]

theorem feed_zeros : feed g r (List.replicate n false) = shifts g n r := by
  induction n generalizing r with
  | zero => rfl
  | succ n ih =>
      rw [List.replicate_succ, feed_cons, ih, shifts, feedBit, topBit, if_neg Bool.false_ne_true,
        BitVec.xor_zero]

/-- **The register of a sum** is the sum of the registers. -/
theorem feed_xor (same : l.length = l'.length) :
    feed g (r ^^^ s) (List.zipWith Bool.xor l l') = feed g r l ^^^ feed g s l' := by
  induction l generalizing l' r s with
  | nil =>
      rw [List.eq_nil_of_length_eq_zero same.symm]
      rfl
  | cons b l ih =>
      cases l' with
      | nil => cases same
      | cons c l' =>
          have bits : feedBit g (r ^^^ s) (Bool.xor b c) = feedBit g r b ^^^ feedBit g s c := by
            rw [feedBit, feedBit, feedBit, ← shift_xor, topBit_xor]
            congr 1
            rw [BitVec.xor_assoc, BitVec.xor_assoc, ← BitVec.xor_assoc s, BitVec.xor_comm s,
              BitVec.xor_assoc]
          rw [List.zipWith_cons_cons, feed_cons, feed_cons, feed_cons, bits]
          exact ih (Nat.succ.inj same)

/-- Bits that stand together, of which one is set, between zeros. -/
structure Burst (n : Nat) (bits : List Bool) : Prop where
  split : ∃ before burst after, burst.length ≤ n ∧ true ∈ burst ∧
    bits = List.replicate before false ++ burst ++ List.replicate after false

/-- **A burst** of at most `w` bits leaves a remainder, whatever zeros stand around it. -/
theorem feed_burst_ne_zero (odd : g.getLsbD 0 = true) (burst : Burst w bits) :
    feed g 0 bits ≠ 0 := by
  obtain ⟨before, burst, after, short, set, rfl⟩ := burst.split
  rw [feed_append, feed_append, feed_zeros, feed_zeros, shifts_zero, feed_eq_shifts short]
  intro zero
  have none := eq_zero_of_shifts odd (eq_zero_of_shifts odd zero)
  rw [BitVec.ofNat_eq_ofNat, BitVec.zero_xor] at none
  exact top_ne_zero short set none

/-- **Two messages apart by a burst** leave different registers. -/
theorem feed_ne_of_burst (odd : g.getLsbD 0 = true) (same : l.length = l'.length)
    (burst : Burst w (List.zipWith Bool.xor l l')) : feed g r l ≠ feed g r l' := by
  intro equal
  apply feed_burst_ne_zero odd burst
  have sum := feed_xor (g := g) (r := r) (s := r) same
  rwa [equal, BitVec.xor_self, BitVec.xor_self] at sum

end Sdm.Lib.Crc
