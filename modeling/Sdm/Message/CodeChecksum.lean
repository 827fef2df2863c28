import Sdm.Common.Checksum
import Sdm.Message.RoundTrip

/-!
The checksum of a code message (`SDMCode.cpp`).

`Marshal` puts the checksum behind the code, and `isCorrupt` compares it with that of the code that
was received.

* `body_eq_ok_iff`: the bytes of a code message, whatever computes the checksum.
* `isCorrupt_iff_altered`: what the line does to the code and its checksum is found.
-/

namespace Sdm

open Lib Lib.Crc Checked Memory

namespace SDMCode

/-- `SDMCode::isCorrupt`. -/
def Received.isCorrupt (W : Nat) (o : Received) : Bool := checksum W o.code ≠ o.c_sum

variable {W : Nat} {sent : Received} {body rest : List UInt8} {sum : List UInt8 → Int32}

/-- The bytes in front of the code. -/
def front (o : SDMCode) : List UInt8 :=
  bytes16 o.seq_num ++ (bytes16 o.num_segments ++ (o.filename.bytes ++ [0]))

/-- The bytes of a code message. -/
theorem body_eq_ok_iff : (codec sum).body sent = .ok body ↔
    sent.filename.length < MAX_FILENAME_SIZE ∧
      sent.code.length ≤ BUFSIZE - MAX_FILENAME_SIZE - 21 ∧
      body = front sent.toSDMCode ++ (sent.code ++ bytes32 (sum sent.code).toUInt32) := by
  constructor
  · intro marshalled
    obtain ⟨name, field, same⟩ := bind_eq_ok.mp marshalled
    obtain ⟨shortName, rfl⟩ := textField_eq_ok.mp field
    obtain ⟨code, field, same⟩ := bind_eq_ok.mp same
    obtain ⟨shortCode, rfl⟩ := dataField_eq_ok.mp field
    refine ⟨shortName, shortCode, (pure_eq_ok.mp same).trans ?_⟩
    simp only [front, List.append_assoc]
  · rintro ⟨shortName, shortCode, rfl⟩
    refine bind_eq_ok.mpr ⟨_, textField_eq_ok.mpr ⟨shortName, rfl⟩, ?_⟩
    refine bind_eq_ok.mpr ⟨_, dataField_eq_ok.mpr ⟨shortCode, rfl⟩, pure_eq_ok.mpr ?_⟩
    simp only [front, List.append_assoc]

/-- Code and checksum as they arrive. -/
theorem exists_code_of_length {n : Nat} (length : rest.length = n + 4) :
    ∃ code x, code.length = n ∧ rest = code ++ bytes32 x := by
  have short : (rest.drop n).length = 4 := by
    rw [List.length_drop, length, Nat.add_sub_cancel_left]
  obtain ⟨x, four⟩ := exists_bytes32 short
  refine ⟨rest.take n, x, ?_, ?_⟩
  · rw [List.length_take, length, Nat.min_eq_left (Nat.le_add_right n 4)]
  · rw [← four, List.take_append_drop]

/-- **The line is checked**: code and checksum arrive as they were sent, or with a burst of at most
32 bits in them. The message is decoded, and is found to be corrupt exactly in the second case. -/
theorem isCorrupt_iff_altered (wide : 32 ≤ W)
    (marshalled : (codec (checksum W)).body sent = .ok body)
    (length : (front sent.toSDMCode ++ rest).length = body.length)
    (line : front sent.toSDMCode ++ rest = body ∨
      Burst 32 (List.zipWith Bool.xor (wires (sent.code ++ bytes32 (checksum W sent.code).toUInt32))
        (wires rest)))
    {buf : Memory} {sec subsec : UInt32}
    (here : buf.Has 0 ((codec (checksum W)).bytes sec subsec (front sent.toSDMCode ++ rest))) :
    ∃ got : Received, Unmarshal buf =
        .ok (.message (HEADER_SIZE + body.length) ⟨sec, subsec, Int16.ofNat body.length⟩ got) ∧
      got.seq_num = sent.seq_num ∧ got.num_segments = sent.num_segments ∧
      got.filename = sent.filename ∧
      (got.isCorrupt W = true ↔ front sent.toSDMCode ++ rest ≠ body) := by
  obtain ⟨shortName, shortCode, rfl⟩ := body_eq_ok_iff.mp marshalled
  have size : rest.length = sent.code.length + 4 := by
    rw [List.length_append, List.length_append, Nat.add_left_cancel_iff] at length
    rw [length, List.length_append, length_bytes32]
  obtain ⟨code, x, same, rfl⟩ := exists_code_of_length size
  -- the bytes are those of a message whose checksum is what arrives
  have arrived : (codec fun _ => x.toInt32).body { sent with code } =
      .ok (front sent.toSDMCode ++ (code ++ bytes32 x)) :=
    body_eq_ok_iff.mpr ⟨shortName, same ▸ shortCode, rfl⟩
  have lawful := lawful fun _ => x.toInt32
  obtain ⟨got, decoded, rfl, -⟩ := lawful.decode _ _ arrived ((lawful.fits _ _ arrived).mpr trivial)
    sent buf sec subsec here
  rw [length] at decoded
  refine ⟨_, decoded, rfl, rfl, rfl, ?_⟩
  have corrupt : Received.isCorrupt W { sent with code, c_sum := x.toInt32 } = true ↔
      checksum W code ≠ x.toInt32 := decide_eq_true_iff
  refine corrupt.trans (not_congr ⟨fun agree => ?_, fun intact => ?_⟩)
  · rcases line with intact | burst
    · exact intact
    · exact absurd agree (checksum_ne_of_burst wide same.symm burst)
  · obtain ⟨rfl, four⟩ := List.append_inj (List.append_cancel_left intact) same
    have number := (@load32_store (fun _ => 0) 0 x).symm
    rw [four, load32_store] at number
    rw [number, Int32.toInt32_toUInt32]

/-- A segment of one byte. -/
def someCode : Received where
  filename := .ofString "a"
  seq_num := 1
  num_segments := 1
  code := [65]
  c_sum := 0

/-- Behind its front, with its checksum. -/
def someRest : List UInt8 := [65] ++ bytes32 (checksum 32 [65]).toUInt32

/-- The same after the line changed two bits that stand together. -/
def alteredRest : List UInt8 := [71] ++ bytes32 (checksum 32 [65]).toUInt32

theorem isCorrupt_altered :
    ∃ got : Received, Unmarshal ((Memory.store (fun _ => 0) 0 ((codec (checksum 32)).bytes 5 6
        (front someCode.toSDMCode ++ alteredRest)))) =
        .ok (.message (HEADER_SIZE + (front someCode.toSDMCode ++ someRest).length) ⟨5, 6,
          Int16.ofNat (front someCode.toSDMCode ++ someRest).length⟩ got) ∧
      got.seq_num = someCode.seq_num ∧ got.num_segments = someCode.num_segments ∧
      got.filename = someCode.filename ∧
      (got.isCorrupt 32 = true ↔
        front someCode.toSDMCode ++ alteredRest ≠ front someCode.toSDMCode ++ someRest) :=
  @isCorrupt_iff_altered 32 someCode (front someCode.toSDMCode ++ someRest) alteredRest (by decide)
    rfl rfl (.inr ⟨1, [true, true], 37, by decide, by decide, by decide +kernel⟩)
    _ 5 6 has_store

end SDMCode

end Sdm
