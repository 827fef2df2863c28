import Sdm.Lib.Memory
import Sdm.Message.ComponentID

/-!
Component identifiers as bytes, on a 32-bit little-endian target, and the size of a message.

The numbers of a message are little-endian there. The address of an identifier is kept
in network byte order and swapped on its way into a message and out of it.
-/

namespace Sdm

open Sdm.Lib

/-- `BUFSIZE`: no message is longer. -/
def BUFSIZE : Nat := 24288

/-- `HEADER_SIZE`. -/
def HEADER_SIZE : Nat := 11

/-- `bswap_32`: the four bytes of the number in the other order. -/
def bswap_32 (x : UInt32) : UInt32 :=
  UInt32.ofNat (x.toNat % 256 * 16777216 + x.toNat / 256 % 256 * 65536 +
    x.toNat / 65536 % 256 * 256 + x.toNat / 16777216)

/-- The swapped number from the bytes of the number. -/
theorem toNat_bswap_32 {x : UInt32} {a b c d : Nat} (la : a < 256) (lb : b < 256) (lc : c < 256)
    (ld : d < 256) (bytes : x.toNat = a + 256 * b + 65536 * c + 16777216 * d) :
    (bswap_32 x).toNat = d + 256 * c + 65536 * b + 16777216 * a := by
  have a' : x.toNat % 256 = a := by omega
  have b' : x.toNat / 256 % 256 = b := by omega
  have c' : x.toNat / 65536 % 256 = c := by omega
  have d' : x.toNat / 16777216 = d := by omega
  rw [bswap_32, UInt32.toNat_ofNat', a', b', c', d']
  omega

@[simp]
theorem bswap_32_bswap_32 (x : UInt32) : bswap_32 (bswap_32 x) = x := by
  have bound := x.toNat_lt
  obtain ⟨a, b, c, d, la, lb, lc, ld, bytes⟩ : ∃ a b c d, a < 256 ∧ b < 256 ∧ c < 256 ∧ d < 256 ∧
      x.toNat = a + 256 * b + 65536 * c + 16777216 * d :=
    ⟨x.toNat % 256, x.toNat / 256 % 256, x.toNat / 65536 % 256, x.toNat / 16777216,
      by omega, by omega, by omega, by omega, by omega⟩
  apply UInt32.toNat_inj.mp
  rw [toNat_bswap_32 ld lc lb la (toNat_bswap_32 la lb lc ld bytes), bytes]

namespace SDMComponentID

/-- The bytes that `SDMComponent_ID::Marshal` writes. -/
def marshal (id : SDMComponentID) : List UInt8 :=
  Memory.bytes32 (bswap_32 id.address) ++ (Memory.bytes16 id.port ++ Memory.bytes32 id.sensorID)

/-- `SDMComponent_ID::Unmarshal`. -/
def unmarshal (buf : Memory) (start : Nat) : SDMComponentID where
  address := bswap_32 (buf.load32 start)
  port := buf.load16 (start + 4)
  sensorID := buf.load32 (start + 6)

@[simp]
theorem length_marshal (id : SDMComponentID) : id.marshal.length = 10 := rfl

/-- An identifier is read back from its bytes. -/
theorem unmarshal_eq {buf : Memory} {start : Nat} {id : SDMComponentID}
    (here : buf.read start 10 = id.marshal) : unmarshal buf start = id := by
  have split : buf.read start 10 =
      buf.read start 4 ++ (buf.read (start + 4) 2 ++ buf.read (start + 6) 4) := by
    rw [← Memory.read_add, ← Memory.read_add]
  obtain ⟨address, rest⟩ := List.append_inj (split.symm.trans here) Memory.length_read
  obtain ⟨port, sensorID⟩ := List.append_inj rest Memory.length_read
  rw [unmarshal, Memory.load32_eq address, Memory.load16_eq port, Memory.load32_eq sensorID,
    bswap_32_bswap_32]

end SDMComponentID

end Sdm
