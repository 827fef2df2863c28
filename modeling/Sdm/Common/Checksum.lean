import Mathlib.Data.List.Basic
import Sdm.Lib.Crc
import Sdm.Lib.Memory

/-!
The checksum of a code segment (`checksum.c`, `crcmodel.c`).

A register of `cm_width` bits is kept in an `unsigned long` of `W` bits, on which the arithmetic
wraps. A byte may be reflected on its way in, so that its lowest bit comes first, and the register
on its way out.

* `setWidth_cm_nxt`: a byte in the register is eight bits that are fed.
* `toBitVec_checksum`: the checksum is the reflected complement of what is left of the message.
* `checksum_eq_iff_residue`: a message with its own checksum behind it leaves one fixed residue.
* `valid_iff_residue`: which is what makes a message valid.
* `checksum_ne_of_burst`: a burst in a message and its checksum is found.
-/

namespace Sdm

open Lib Lib.Crc Memory

/-! ### The model algorithm -/

section

variable {W : Nat}

/-- `BITMASK`. -/
def BITMASK (x : Nat) : BitVec W := 1#W <<< x

/-- One round of the loop in `reflect`, over the number and what is left of its copy. -/
def reflectRound (b : Nat) (state : BitVec W × BitVec W) (i : Nat) : BitVec W × BitVec W :=
  let (v, t) := state
  (if t &&& 1#W ≠ 0#W then v ||| BITMASK (b - 1 - i) else v &&& ~~~BITMASK (b - 1 - i), t >>> 1)

/-- `reflect`: the lowest `b` bits in the other order. -/
def reflect (v : BitVec W) (b : Nat) : BitVec W :=
  ((List.range b).foldl (reflectRound b) (v, v)).1

/-- `cm_t`: the parameters and the register. -/
structure cm_t (W : Nat) where
  cm_width : Nat
  cm_poly : BitVec W
  cm_init : BitVec W
  cm_refin : Bool
  cm_refot : Bool
  cm_xorot : BitVec W
  cm_reg : BitVec W

/-- `widmask`. -/
def widmask (p_cm : cm_t W) : BitVec W :=
  (((1#W <<< (p_cm.cm_width - 1)) - 1#W) <<< 1) ||| 1#W

/-- `cm_ini`. -/
def cm_ini (p_cm : cm_t W) : cm_t W := { p_cm with cm_reg := p_cm.cm_init }

/-- One round of the loop in `cm_nxt`. -/
def cm_round (p_cm : cm_t W) : cm_t W :=
  let topbit : BitVec W := BITMASK (p_cm.cm_width - 1)
  let reg := if p_cm.cm_reg &&& topbit ≠ 0#W then (p_cm.cm_reg <<< 1) ^^^ p_cm.cm_poly
    else p_cm.cm_reg <<< 1
  { p_cm with cm_reg := reg &&& widmask p_cm }

/-- `cm_nxt`. A negative `ch` is extended by ones. -/
def cm_nxt (p_cm : cm_t W) (ch : Int32) : cm_t W :=
  let uch : BitVec W := ch.toBitVec.signExtend W
  let uch := if p_cm.cm_refin then reflect uch 8 else uch
  (List.range 8).foldl (fun p_cm _ => cm_round p_cm)
    { p_cm with cm_reg := p_cm.cm_reg ^^^ (uch <<< (p_cm.cm_width - 8)) }

/-- `cm_crc`. -/
def cm_crc (p_cm : cm_t W) : BitVec W :=
  if p_cm.cm_refot then p_cm.cm_xorot ^^^ reflect p_cm.cm_reg p_cm.cm_width
  else p_cm.cm_xorot ^^^ p_cm.cm_reg

end

/-- The model that `checksum` sets up. -/
def crc32 (W : Nat) : cm_t W where
  cm_width := 32
  cm_poly := 0x04C11DB7#W
  cm_init := 0xFFFFFFFF#W
  cm_refin := true
  cm_refot := true
  cm_xorot := 0xFFFFFFFF#W
  cm_reg := 0#W

/-- `checksum` of these bytes, each of which is a signed `char`. -/
def checksum (W : Nat) (msg : List UInt8) : Int32 :=
  let p_cm := (msg.map fun c => c.toInt8.toInt32).foldl cm_nxt (cm_ini (crc32 W))
  Int32.ofBitVec ((cm_crc p_cm).setWidth 32)

example : checksum 64 [49, 50, 51, 52, 53, 54, 55, 56, 57] = 0xCBF43926 := by decide +kernel

/-- `valid`: the last four bytes are the checksum of those before them. -/
def valid (W : Nat) (msg : Memory) (len : Nat) : Bool :=
  checksum W (msg.read 0 (len - 4)) = (msg.load32 (len - 4)).toInt32

/-! ### Bits of the model -/

section

variable {W w i b : Nat} {v r : BitVec W} {p_cm : cm_t W} {ch : Int32}

theorem getLsbD_BITMASK : (BITMASK b : BitVec W).getLsbD i = (decide (i < W) && decide (i = b)) := by
  rw [BITMASK, ← BitVec.twoPow_eq, BitVec.getLsbD_twoPow]
  by_cases same : b = i
  · simp [same]
  · simp [same, Ne.symm same]

/-- A bit is tested with its mask. -/
theorem and_BITMASK_ne_zero (lt : b < W) : v &&& BITMASK b ≠ 0#W ↔ v.getLsbD b = true := by
  constructor
  · intro some
    by_contra clear
    apply some
    apply BitVec.eq_of_getLsbD_eq
    intro i _
    rw [BitVec.getLsbD_and, getLsbD_BITMASK, BitVec.getLsbD_zero]
    by_cases same : i = b
    · simp [same, Bool.eq_false_iff.mpr clear]
    · simp [same]
  · intro set none
    have bit : (v &&& BITMASK b).getLsbD b = true := by
      rw [BitVec.getLsbD_and, getLsbD_BITMASK, set]
      simp [lt]
    rw [none, BitVec.getLsbD_zero] at bit
    exact Bool.false_ne_true bit

/-- A bit is set or cleared with its mask. -/
theorem getLsbD_or_BITMASK (lt : b < W) :
    (v ||| BITMASK b).getLsbD i = if i = b then true else v.getLsbD i := by
  rw [BitVec.getLsbD_or, getLsbD_BITMASK]
  by_cases same : i = b
  · simp [same, lt]
  · simp [same]

theorem getLsbD_and_not_BITMASK :
    (v &&& ~~~BITMASK b).getLsbD i = if i = b then false else v.getLsbD i := by
  rw [BitVec.getLsbD_and, BitVec.getLsbD_not, getLsbD_BITMASK]
  by_cases inside : i < W
  · by_cases same : i = b <;> simp [same, inside]
  · simp [BitVec.getLsbD_of_ge v i (Nat.le_of_not_lt inside)]

/-- What the loop in `reflect` has done after some rounds. -/
theorem reflect_loop (n : Nat) (le : n ≤ b) (narrow : b ≤ W) :
    ((List.range n).foldl (reflectRound b) (v, v)).2 = v >>> n ∧
      ∀ i, ((List.range n).foldl (reflectRound b) (v, v)).1.getLsbD i =
        if b - n ≤ i ∧ i < b then v.getLsbD (b - 1 - i) else v.getLsbD i := by
  induction n with
  | zero =>
      refine ⟨by simp, fun i => ?_⟩
      rw [if_neg (by omega)]
      rfl
  | succ n ih =>
      obtain ⟨rest, done⟩ := ih (Nat.le_of_succ_le le)
      rw [List.range_succ, List.foldl_append, List.foldl_cons, List.foldl_nil]
      generalize (List.range n).foldl (reflectRound b) (v, v) = state at rest done
      have first : state.2 &&& 1#W ≠ 0#W ↔ v.getLsbD n = true := by
        have mask : (1#W : BitVec W) = BITMASK 0 := by simp [BITMASK]
        rw [mask, and_BITMASK_ne_zero (by omega), rest, BitVec.getLsbD_ushiftRight, Nat.add_zero]
      refine ⟨?_, fun i => ?_⟩
      · rw [reflectRound, rest, ← BitVec.shiftRight_add]
      · have step : (reflectRound b state n).1.getLsbD i =
            if i = b - 1 - n then v.getLsbD n else state.1.getLsbD i := by
          rw [reflectRound]
          by_cases set : v.getLsbD n = true
          · simp only [if_pos (first.mpr set)]
            rw [getLsbD_or_BITMASK (by omega), set]
          · simp only [if_neg (mt first.mp set)]
            rw [getLsbD_and_not_BITMASK, Bool.eq_false_iff.mpr set]
        rw [step, done i]
        by_cases here : i = b - 1 - n
        · have back : b - 1 - i = n := by omega
          rw [if_pos here, if_pos (by omega), back]
        · have rounds : (b - (n + 1) ≤ i ∧ i < b) ↔ (b - n ≤ i ∧ i < b) := by omega
          rw [if_neg here, if_congr rounds rfl rfl]

theorem getLsbD_reflect (narrow : b ≤ W) :
    (reflect v b).getLsbD i = if i < b then v.getLsbD (b - 1 - i) else v.getLsbD i := by
  rw [reflect, (reflect_loop b (Nat.le_refl b) narrow).2 i]
  simp

/-- The mask has the bits of the register. -/
theorem getLsbD_widmask (positive : 0 < p_cm.cm_width) (narrow : p_cm.cm_width ≤ W) :
    (widmask p_cm).getLsbD i = decide (i < p_cm.cm_width) := by
  obtain ⟨k, width⟩ := Nat.exists_eq_succ_of_ne_zero (Nat.ne_of_gt positive)
  rw [width] at narrow
  have ones : (1#W <<< k) - 1#W = BitVec.ofNat W (2 ^ k - 1) := by
    have less : 2 ^ k < 2 ^ W := Nat.pow_lt_pow_right (by decide) narrow
    have some : 0 < 2 ^ k := Nat.two_pow_pos k
    apply BitVec.eq_of_toNat_eq
    rw [BitVec.toNat_sub, ← BitVec.twoPow_eq, BitVec.toNat_twoPow, BitVec.toNat_ofNat,
      BitVec.toNat_ofNat, Nat.mod_eq_of_lt less, Nat.mod_eq_of_lt (by omega : 1 < 2 ^ W),
      Nat.mod_eq_of_lt (by omega : 2 ^ k - 1 < 2 ^ W)]
    have split : 2 ^ W - 1 + 2 ^ k = 2 ^ W + (2 ^ k - 1) := by omega
    rw [split, Nat.add_mod_left, Nat.mod_eq_of_lt (by omega)]
  rw [widmask, width, Nat.succ_sub_one, ones, BitVec.getLsbD_or, BitVec.getLsbD_shiftLeft,
    BitVec.getLsbD_ofNat, Nat.testBit_two_pow_sub_one, BitVec.getLsbD_one]
  cases i with
  | zero => simp [Nat.zero_lt_of_lt narrow]
  | succ i =>
      rw [← Bool.decide_and, Bool.eq_iff_iff]
      simp
      omega

/-- A round shifts the register. -/
theorem setWidth_cm_round (p_cm : cm_t W) (positive : 0 < p_cm.cm_width) (narrow : p_cm.cm_width ≤ W) :
    (cm_round p_cm).cm_reg.setWidth p_cm.cm_width =
      shift (p_cm.cm_poly.setWidth p_cm.cm_width) (p_cm.cm_reg.setWidth p_cm.cm_width) := by
  have masked : ∀ v : BitVec W, (v &&& widmask p_cm).setWidth p_cm.cm_width =
      v.setWidth p_cm.cm_width := by
    intro v
    apply BitVec.eq_of_getLsbD_eq
    intro i lt
    simp [getLsbD_widmask positive narrow, lt]
  have moved : (p_cm.cm_reg <<< 1).setWidth p_cm.cm_width =
      (p_cm.cm_reg.setWidth p_cm.cm_width) <<< 1 := by
    apply BitVec.eq_of_getLsbD_eq
    intro i lt
    have inside : i < W := Nat.lt_of_lt_of_le lt narrow
    rw [BitVec.getLsbD_setWidth, BitVec.getLsbD_shiftLeft, BitVec.getLsbD_shiftLeft,
      BitVec.getLsbD_setWidth]
    simp only [lt, inside, decide_true, Bool.true_and, Nat.lt_of_le_of_lt (Nat.sub_le i 1) lt]
  have first : (p_cm.cm_reg.setWidth p_cm.cm_width).msb =
      p_cm.cm_reg.getLsbD (p_cm.cm_width - 1) := by
    rw [BitVec.msb_eq_getLsbD_last, BitVec.getLsbD_setWidth, decide_eq_true (by omega),
      Bool.true_and]
  rw [cm_round, shift, first]
  simp only [masked]
  by_cases set : p_cm.cm_reg.getLsbD (p_cm.cm_width - 1) = true
  · rw [if_pos ((and_BITMASK_ne_zero (by omega)).mpr set), if_pos set, BitVec.setWidth_xor, moved]
  · rw [if_neg (mt (and_BITMASK_ne_zero (by omega)).mp set), if_neg set, moved]

@[simp]
theorem cm_round_width : (cm_round p_cm).cm_width = p_cm.cm_width := rfl

@[simp]
theorem cm_round_poly : (cm_round p_cm).cm_poly = p_cm.cm_poly := rfl

/-- Rounds change the register alone, and shift it. -/
theorem rounds (p_cm : cm_t W) (n : Nat) (positive : 0 < p_cm.cm_width) (narrow : p_cm.cm_width ≤ W) :
    ∃ reg, (List.range n).foldl (fun p_cm _ => cm_round p_cm) p_cm = { p_cm with cm_reg := reg } ∧
      reg.setWidth p_cm.cm_width =
        shifts (p_cm.cm_poly.setWidth p_cm.cm_width) n (p_cm.cm_reg.setWidth p_cm.cm_width) := by
  induction n with
  | zero => exact ⟨p_cm.cm_reg, rfl, rfl⟩
  | succ n ih =>
      obtain ⟨reg, done, left⟩ := ih
      rw [List.range_succ, List.foldl_append, done]
      have step := setWidth_cm_round { p_cm with cm_reg := reg } positive narrow
      refine ⟨(cm_round { p_cm with cm_reg := reg }).cm_reg, rfl, step.trans ?_⟩
      rw [left, shifts_succ]

/-! ### Bytes -/

/-- The bits of a byte, as they are fed to a register that takes them reflected. -/
def wire (c : UInt8) : List Bool := (List.range 8).map c.toBitVec.getLsbD

/-- The bits of a message. -/
def wires (bytes : List UInt8) : List Bool := bytes.flatMap wire

/-- The bits of a number that are fed. -/
def fed (p_cm : cm_t W) (ch : Int32) : List Bool :=
  if p_cm.cm_refin then wire ch.toInt8.toUInt8 else (wire ch.toInt8.toUInt8).reverse

theorem length_wire {c : UInt8} : (wire c).length = 8 := by
  rw [wire, List.length_map, List.length_range]

theorem length_fed : (fed p_cm ch).length = 8 := by
  rw [fed]
  split
  · exact length_wire
  · rw [List.length_reverse, length_wire]

theorem getD_wire {c : UInt8} : (wire c).getD i false = c.toBitVec.getLsbD i := by
  rw [wire]
  by_cases inside : i < 8
  · rw [List.getD_eq_getElem _ _ (by simpa using inside), List.getElem_map, List.getElem_range]
  · rw [List.getD_eq_default _ _ (by simpa using inside),
      BitVec.getLsbD_of_ge _ _ (Nat.le_of_not_lt inside)]

/-- The byte stands at the top of the register. -/
theorem setWidth_fed (wide : 8 ≤ p_cm.cm_width) (narrow : p_cm.cm_width ≤ W) :
    ((if p_cm.cm_refin then reflect (ch.toBitVec.signExtend W) 8 else ch.toBitVec.signExtend W) <<<
      (p_cm.cm_width - 8)).setWidth p_cm.cm_width = top p_cm.cm_width (fed p_cm ch) := by
  have low : ∀ j < 8, (ch.toBitVec.signExtend W).getLsbD j =
      ch.toInt8.toUInt8.toBitVec.getLsbD j := by
    intro j lt
    show _ = (ch.toBitVec.signExtend 8).getLsbD j
    rw [BitVec.getLsbD_signExtend, BitVec.getLsbD_signExtend, if_pos (by omega),
      decide_eq_true (by omega : j < W), decide_eq_true lt]
  apply BitVec.eq_of_getMsbD_eq
  intro i lt
  rw [getMsbD_top, BitVec.getMsbD_eq_getLsbD, BitVec.getLsbD_setWidth, BitVec.getLsbD_shiftLeft,
    decide_eq_true (by omega : p_cm.cm_width - 1 - i < W),
    decide_eq_true (by omega : p_cm.cm_width - 1 - i < p_cm.cm_width), decide_eq_true lt]
  simp only [Bool.true_and]
  rcases Nat.lt_or_ge i 8 with first | later
  · have here : p_cm.cm_width - 1 - i - (p_cm.cm_width - 8) = 7 - i := by omega
    have back : 8 - 1 - (7 - i) = i := by omega
    rw [decide_eq_false (by omega : ¬ p_cm.cm_width - 1 - i < p_cm.cm_width - 8), here, fed]
    cases p_cm.cm_refin with
    | true =>
        rw [if_pos rfl, if_pos rfl, getLsbD_reflect (by omega), if_pos (by omega), back, low i first,
          getD_wire]
        rfl
    | false =>
        rw [if_neg Bool.false_ne_true, if_neg Bool.false_ne_true, low _ (by omega)]
        have mirrored : (wire ch.toInt8.toUInt8).reverse.getD i false =
            (wire ch.toInt8.toUInt8).getD (7 - i) false := by
          rw [List.getD_eq_getElem?_getD, List.getElem?_reverse (by rwa [length_wire]), length_wire,
            ← List.getD_eq_getElem?_getD]
        rw [mirrored, getD_wire]
        rfl
  · have eight : (fed p_cm ch).length = 8 := length_fed
    rw [decide_eq_true (by omega : p_cm.cm_width - 1 - i < p_cm.cm_width - 8),
      List.getD_eq_default _ _ (by omega)]
    rfl

/-- **A number that is taken** changes the register alone: eight bits of it are fed. -/
theorem cm_nxt_eq (p_cm : cm_t W) (ch : Int32) (wide : 8 ≤ p_cm.cm_width) (narrow : p_cm.cm_width ≤ W) :
    ∃ reg, cm_nxt p_cm ch = { p_cm with cm_reg := reg } ∧
      reg.setWidth p_cm.cm_width =
        feed (p_cm.cm_poly.setWidth p_cm.cm_width) (p_cm.cm_reg.setWidth p_cm.cm_width)
          (fed p_cm ch) := by
  have positive : 0 < p_cm.cm_width := Nat.lt_of_lt_of_le (by decide) wide
  obtain ⟨reg, done, left⟩ := rounds { p_cm with cm_reg := p_cm.cm_reg ^^^
    ((if p_cm.cm_refin then reflect (ch.toBitVec.signExtend W) 8 else ch.toBitVec.signExtend W) <<<
      (p_cm.cm_width - 8)) } 8 positive narrow
  refine ⟨reg, done, left.trans ?_⟩
  have eight : (fed p_cm ch).length = 8 := length_fed
  rw [feed_eq_shifts (by omega), eight, BitVec.setWidth_xor]
  congr 2
  exact setWidth_fed wide narrow

/-- Numbers that are taken one after another. -/
theorem foldl_cm_nxt (p_cm : cm_t W) (chs : List Int32) (wide : 8 ≤ p_cm.cm_width)
    (narrow : p_cm.cm_width ≤ W) :
    ∃ reg, chs.foldl cm_nxt p_cm = { p_cm with cm_reg := reg } ∧
      reg.setWidth p_cm.cm_width =
        feed (p_cm.cm_poly.setWidth p_cm.cm_width) (p_cm.cm_reg.setWidth p_cm.cm_width)
          (chs.flatMap (fed p_cm)) := by
  induction chs generalizing p_cm with
  | nil => exact ⟨p_cm.cm_reg, rfl, rfl⟩
  | cons ch chs ih =>
      obtain ⟨reg, taken, left⟩ := cm_nxt_eq p_cm ch wide narrow
      obtain ⟨reg', done, left'⟩ := ih { p_cm with cm_reg := reg } wide narrow
      refine ⟨reg', ?_, left'.trans ?_⟩
      · rw [List.foldl_cons, taken, done]
      · rw [List.flatMap_cons, feed_append, ← left]
        rfl

/-! ### The checksum -/

/-- The polynomial of the checksum. -/
def polynomial : BitVec 32 := 0x04C11DB7#32

/-- The register after these bits. -/
def remainder (bits : List Bool) : BitVec 32 := feed polynomial (BitVec.allOnes 32) bits

/-- What a message with its own checksum behind it leaves. -/
def residue : BitVec 32 := shifts polynomial 32 (BitVec.allOnes 32)

theorem wires_append {bytes rest : List UInt8} : wires (bytes ++ rest) = wires bytes ++ wires rest :=
  List.flatMap_append

theorem length_wires {bytes : List UInt8} : (wires bytes).length = 8 * bytes.length := by
  induction bytes with
  | nil => rfl
  | cons c bytes ih =>
      rw [wires, List.flatMap_cons, List.length_append, length_wire, ← wires, ih, List.length_cons]
      omega

theorem setWidth_reflect (wide : 32 ≤ W) : (reflect v 32).setWidth 32 = (v.setWidth 32).reverse := by
  apply BitVec.eq_of_getLsbD_eq
  intro i lt
  rw [BitVec.getLsbD_setWidth, getLsbD_reflect wide, if_pos lt, BitVec.getLsbD_reverse,
    BitVec.getMsbD_eq_getLsbD, BitVec.getLsbD_setWidth, decide_eq_true lt,
    decide_eq_true (by omega : 32 - 1 - i < 32)]
  rfl

/-- **The checksum** is the reflected complement of what is left of the message. -/
theorem toBitVec_checksum (wide : 32 ≤ W) (msg : List UInt8) :
    (checksum W msg).toBitVec = ~~~(remainder (wires msg)).reverse := by
  have eight : 8 ≤ (cm_ini (crc32 W)).cm_width := Nat.le_of_ble_eq_true rfl
  obtain ⟨reg, done, left⟩ := foldl_cm_nxt (cm_ini (crc32 W))
    (msg.map fun c => c.toInt8.toInt32) eight wide
  have same : reg.setWidth 32 = remainder (wires msg) := by
    refine left.trans ?_
    have poly : (0x04C11DB7#W).setWidth 32 = polynomial := BitVec.setWidth_ofNat_of_le wide _
    have ones : (0xFFFFFFFF#W).setWidth 32 = BitVec.allOnes 32 :=
      BitVec.setWidth_ofNat_of_le wide _
    have bits : (msg.map fun c => c.toInt8.toInt32).flatMap (fed (cm_ini (crc32 W))) =
        wires msg := by
      rw [List.flatMap_map, wires]
      congr 1
      funext c
      show wire c.toInt8.toInt32.toInt8.toUInt8 = wire c
      rw [Int8.toInt8_toInt32, UInt8.toUInt8_toInt8]
    rw [bits]
    show feed ((0x04C11DB7#W).setWidth 32) ((0xFFFFFFFF#W).setWidth 32) _ = _
    rw [poly, ones, remainder]
  have flip : (0xFFFFFFFF#W).setWidth 32 = BitVec.allOnes 32 := BitVec.setWidth_ofNat_of_le wide _
  rw [checksum, done]
  show ((0xFFFFFFFF#W) ^^^ reflect reg 32).setWidth 32 = _
  rw [BitVec.setWidth_xor, flip, setWidth_reflect wide, same, BitVec.allOnes_xor]

/-- The four bytes of a number have its bits, the lowest one first. -/
theorem wires_bytes32 (x : UInt32) :
    wires (bytes32 x) = (List.range 32).map x.toBitVec.getLsbD := by
  have byte : ∀ k, wire (UInt8.ofNat (x.toNat / 2 ^ k)) =
      ((List.range 8).map (k + ·)).map x.toBitVec.getLsbD := by
    intro k
    rw [wire, List.map_map]
    refine List.map_congr_left fun j mem => ?_
    have lt := List.mem_range.mp mem
    show (BitVec.ofNat 8 (x.toNat / 2 ^ k)).getLsbD j = x.toBitVec.getLsbD (k + j)
    rw [BitVec.getLsbD_ofNat, decide_eq_true lt, Bool.true_and, Nat.testBit_div_two_pow, Nat.add_comm]
    rfl
  have split : List.range 32 = (List.range 8).map (0 + ·) ++ ((List.range 8).map (8 + ·) ++
    ((List.range 8).map (16 + ·) ++ (List.range 8).map (24 + ·))) := by decide
  rw [split, List.map_append, List.map_append, List.map_append, ← byte 0, ← byte 8, ← byte 16,
    ← byte 24]
  simp [wires, bytes32]

/-- Four bytes are those of a number. -/
theorem exists_bytes32 {four : List UInt8} (length : four.length = 4) :
    ∃ x : UInt32, four = bytes32 x := by
  obtain ⟨a, b, c, d, rfl⟩ := List.length_eq_four.mp length
  have la := a.toNat_lt
  have lb := b.toNat_lt
  have lc := c.toNat_lt
  have ld := d.toNat_lt
  refine ⟨UInt32.ofNat (a.toNat + 256 * b.toNat + 65536 * c.toNat + 16777216 * d.toNat), ?_⟩
  simp only [bytes32, List.cons.injEq, and_true, ← UInt8.toNat_inj, UInt8.toNat_ofNat',
    UInt32.toNat_ofNat']
  omega

theorem top_wires_bytes32 (x : UInt32) : top 32 (wires (bytes32 x)) = x.toBitVec.reverse := by
  apply BitVec.eq_of_getMsbD_eq
  intro i lt
  rw [getMsbD_top, wires_bytes32, BitVec.getMsbD_reverse, decide_eq_true lt,
    List.getD_eq_getElem _ _ (by simpa using lt)]
  simp

theorem reverse_not_reverse {x : BitVec w} : (~~~x.reverse).reverse = ~~~x := by
  apply BitVec.eq_of_getLsbD_eq
  intro i lt
  rw [BitVec.getLsbD_reverse, BitVec.getMsbD_not, BitVec.getMsbD_reverse, BitVec.getLsbD_not]

theorem reverse_inj {x y : BitVec w} (same : x.reverse = y.reverse) : x = y := by
  apply BitVec.eq_of_getMsbD_eq
  intro i _
  rw [← BitVec.getLsbD_reverse, same, BitVec.getLsbD_reverse]

theorem not_reverse_eq_iff {x y : BitVec w} :
    ~~~x.reverse = y ↔ x ^^^ y.reverse = BitVec.allOnes w := by
  constructor
  · rintro rfl
    rw [reverse_not_reverse, ← BitVec.not_xor_right, BitVec.xor_self, BitVec.not_zero]
  · intro sum
    apply reverse_inj
    rw [reverse_not_reverse, ← BitVec.xor_allOnes, ← sum, ← BitVec.xor_assoc, BitVec.xor_self,
      BitVec.zero_xor]

/-- **A message with its own checksum behind it** leaves one fixed residue, and no other does. -/
theorem checksum_eq_iff_residue (wide : 32 ≤ W) {msg : List UInt8} {c_sum : Int32} :
    checksum W msg = c_sum ↔ remainder (wires (msg ++ bytes32 c_sum.toUInt32)) = residue := by
  have odd : polynomial.getLsbD 0 = true := by decide
  have length : (wires (bytes32 c_sum.toUInt32)).length = 32 := length_wires
  rw [wires_append, remainder, feed_append, ← remainder, feed_eq_shifts (by omega), length,
    top_wires_bytes32, residue, shifts_inj odd, ← Int32.toBitVec_inj, toBitVec_checksum wide]
  exact not_reverse_eq_iff

/-- **A burst** of at most 32 bits in a message and its checksum is found. -/
theorem checksum_ne_of_burst (wide : 32 ≤ W) {msg msg' : List UInt8} {c_sum : Int32}
    (same : msg.length = msg'.length)
    (burst : Burst 32 (List.zipWith Bool.xor (wires (msg ++ bytes32 (checksum W msg).toUInt32))
      (wires (msg' ++ bytes32 c_sum.toUInt32)))) : checksum W msg' ≠ c_sum := by
  intro found
  have odd : polynomial.getLsbD 0 = true := by decide
  have lengths : (wires (msg ++ bytes32 (checksum W msg).toUInt32)).length =
      (wires (msg' ++ bytes32 c_sum.toUInt32)).length := by
    rw [length_wires, length_wires, List.length_append, List.length_append, same, length_bytes32,
      length_bytes32]
  apply feed_ne_of_burst odd lengths burst (r := BitVec.allOnes 32)
  have own := (checksum_eq_iff_residue wide).mp (rfl : checksum W msg = checksum W msg)
  exact own.trans ((checksum_eq_iff_residue wide).mp found).symm

/-- A message is valid when its bits leave the residue. -/
theorem valid_iff_residue (wide : 32 ≤ W) {msg : Memory} {len : Nat} (checked : 4 ≤ len) :
    valid W msg len = true ↔ remainder (wires (msg.read 0 len)) = residue := by
  have four : msg.read (len - 4) 4 = bytes32 (msg.load32 (len - 4)) := by
    have length : (msg.read (len - 4) 4).length = 4 := length_read
    obtain ⟨x, same⟩ := exists_bytes32 length
    rw [same, load32_eq same]
  have split : msg.read 0 len = msg.read 0 (len - 4) ++ bytes32 (msg.load32 (len - 4)) := by
    rw [← four]
    have whole : len = len - 4 + 4 := by omega
    rw [whole, read_add, Nat.zero_add, Nat.add_sub_cancel]
  rw [valid, decide_eq_true_iff, checksum_eq_iff_residue wide, split]
  rfl

end

end Sdm
