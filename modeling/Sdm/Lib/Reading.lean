import Sdm.Lib.Checked

/-!
Reads from a file descriptor into a buffer.

What a read brings is up to the device: an error, or bytes, of which it takes as many as were asked
for. What is asked for has to fit in the buffer behind the offset.

* `receive_eq_ok`: when a read stays in its buffer, and what it leaves there.
* `Answer.full_iff`: a read that brings all that was asked for.
-/

namespace Sdm.Lib

/-- What a device has for a read: an error number, or bytes. -/
inductive Answer where
  | failed (errno : Nat)
  | bytes (there : List UInt8)
  deriving DecidableEq

namespace Answer

variable {n : Nat} {a : Answer}

/-- The bytes that a read of `n` bytes at most takes. -/
def got (n : Nat) : Answer → List UInt8
  | failed _ => []
  | bytes there => there.take n

/-- What the read returns. -/
def count (n : Nat) : Answer → Int
  | failed _ => -1
  | bytes there => (there.take n).length

/-- The read brings all that was asked for. -/
def Full (n : Nat) (a : Answer) : Prop := a.count n = n

theorem length_got_le : (a.got n).length ≤ n := by
  cases a with
  | failed errno => exact Nat.zero_le _
  | bytes there => exact List.length_take_le _ _

theorem count_cases : (a.count n = -1 ∧ a.got n = [] ∧ ∃ errno, a = failed errno) ∨
    (a.count n = (a.got n).length ∧ ∃ there, a = bytes there) := by
  cases a with
  | failed errno => exact .inl ⟨rfl, rfl, errno, rfl⟩
  | bytes there => exact .inr ⟨rfl, there, rfl⟩

theorem Full.length_got (full : a.Full n) : (a.got n).length = n := by
  rcases count_cases (a := a) (n := n) with ⟨count, -, -⟩ | ⟨count, -⟩
  · rw [Full, count] at full
    omega
  · rw [Full, count] at full
    exact Int.ofNat_inj.mp full

end Answer

namespace Buffer

open Checked Memory

variable {b : Buffer} {off : Nat} {n : Int} {a : Answer}

/-- Ask for `n` bytes at the offset. As a size, a negative number is larger than every object. -/
def request (b : Buffer) (off : Nat) (n : Int) : Access :=
  ⟨b.size, off, if n < 0 then b.size + 1 else n.toNat⟩

/-- `read`: the buffer afterwards, and what is returned. -/
def receive (b : Buffer) (off : Nat) (n : Int) (a : Answer) : Checked (Buffer × Int) := do
  access (b.request off n)
  return ({ b with bytes := b.bytes.store off (a.got n.toNat) }, a.count n.toNat)

theorem request_inside_iff : (b.request off n).Inside ↔ 0 ≤ n ∧ off + n ≤ b.size := by
  rw [request, Access.Inside]
  split <;> dsimp only <;> omega

theorem receive_eq_ok {result : Buffer × Int} : b.receive off n a = .ok result ↔
    (0 ≤ n ∧ off + n ≤ b.size) ∧
      result = ({ b with bytes := b.bytes.store off (a.got n.toNat) }, a.count n.toNat) := by
  rw [receive, bind_eq_ok, ← request_inside_iff]
  simp only [access_eq_ok, pure_eq_ok, exists_const]

end Buffer

end Sdm.Lib
