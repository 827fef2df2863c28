import Sdm.Message.Marshalling
import Sdm.Message.TaskMessages

/-!
`SDMPostTask` as bytes, on a 32-bit little-endian target.

* `unmarshal_marshal`: a message is decoded from its own bytes, with the file name cut to
  what its array takes.
-/

namespace Sdm

open Lib Memory

/-- `SDM_PostTask`. -/
def SDM_PostTask : UInt8 := 'i'.toUInt8

namespace SDMPostTask

/-- The `total_length` of an `SDMPostTask`: no message is shorter. -/
def total_length : Int16 := 16

/-- The body of the message. -/
def body (msg : SDMPostTask) : List UInt8 :=
  bytes16 msg.resources ++ (msg.priority.toUInt8 :: (bytes32 msg.sched_interval.toUInt32 ++
    (bytes32 msg.mode.toUInt32 ++ (bytes32 msg.version.toUInt32 ++ (msg.filename.bytes ++ [0])))))

/-- The bytes that `SDMPostTask::Marshal` writes at this time. -/
def Marshal (msg : SDMPostTask) (sec subsec : UInt32) : List UInt8 :=
  SDM_PostTask :: (bytes32 sec ++ (bytes32 subsec ++
    (bytes16 (UInt16.ofNat msg.body.length) ++ msg.body)))

/-- `SDMPostTask::Unmarshal`, from a buffer of this size. -/
def Unmarshal (buf : Memory) (size : Nat) : Option SDMPostTask :=
  if buf 0 ≠ SDM_PostTask ∨ (buf.load16 9).toInt16 < total_length then none
  else
    (buf.text (HEADER_SIZE + 15) size).map fun filename =>
      { resources := buf.load16 HEADER_SIZE
        priority := (buf (HEADER_SIZE + 2)).toInt8
        sched_interval := (buf.load32 (HEADER_SIZE + 3)).toInt32
        mode := (buf.load32 (HEADER_SIZE + 7)).toInt32
        version := (buf.load32 (HEADER_SIZE + 11)).toInt32
        filename := .ofBytes (filename.bytes.take (MAX_FILENAME_SIZE - 1)) }

section RoundTrip

variable {msg : SDMPostTask} {sec subsec : UInt32} {buf : Memory} {size : Nat}

theorem length_body : msg.body.length = 16 + msg.filename.length := by
  simp [body, CString.length]
  omega

/-- A message is decoded from its own bytes. -/
theorem unmarshal_marshal (name : msg.filename.length < MAX_FILENAME_SIZE)
    (within : HEADER_SIZE + 15 + msg.filename.length < size) :
    Unmarshal (buf.store 0 (msg.Marshal sec subsec)) size = some msg := by
  have here : (buf.store 0 (msg.Marshal sec subsec)).Has 0 (msg.Marshal sec subsec) := has_store
  generalize buf.store 0 (msg.Marshal sec subsec) = m at here ⊢
  obtain ⟨first, rest⟩ := has_cons.mp here
  obtain ⟨_, rest⟩ := has_append.mp rest
  obtain ⟨_, rest⟩ := has_append.mp rest
  obtain ⟨length, rest⟩ := has_append.mp rest
  obtain ⟨resources, rest⟩ := has_append.mp rest
  obtain ⟨priority, rest⟩ := has_cons.mp rest
  obtain ⟨sched_interval, rest⟩ := has_append.mp rest
  obtain ⟨mode, rest⟩ := has_append.mp rest
  obtain ⟨version, filename⟩ := has_append.mp rest
  have size_read : m.load16 9 = UInt16.ofNat msg.body.length := length.load16
  have long_enough : ¬ (m 0 ≠ SDM_PostTask ∨ (m.load16 9).toInt16 < total_length) := by
    rintro (other | short)
    · exact other first
    · have bound : msg.filename.length < 128 := name
      have small : msg.body.length < 2 ^ 15 := by
        rw [length_body]
        omega
      rw [size_read, Int16.lt_iff_toInt_lt, UInt16.toInt16_ofNat',
        Int16.toInt_ofNat_of_lt small, length_body] at short
      exact absurd short (Int.not_lt.mpr (Int.ofNat_le.mpr (Nat.le_add_right 16 _)))
  have resources_read : m.load16 HEADER_SIZE = msg.resources := resources.load16
  have priority_read : m (HEADER_SIZE + 2) = msg.priority.toUInt8 := priority
  have interval_read : m.load32 (HEADER_SIZE + 3) = msg.sched_interval.toUInt32 :=
    sched_interval.load32
  have mode_read : m.load32 (HEADER_SIZE + 7) = msg.mode.toUInt32 := mode.load32
  have version_read : m.load32 (HEADER_SIZE + 11) = msg.version.toUInt32 := version.load32
  have name_read : m.text (HEADER_SIZE + 15) size = some msg.filename := filename.text within
  have cut : msg.filename.bytes.take (MAX_FILENAME_SIZE - 1) = msg.filename.bytes :=
    List.take_of_length_le (Nat.le_sub_one_of_lt name)
  rw [Unmarshal, if_neg long_enough, name_read, Option.map_some, resources_read, priority_read,
    interval_read, mode_read, version_read, cut, CString.ofBytes_bytes]
  rfl

end RoundTrip

end SDMPostTask

end Sdm
