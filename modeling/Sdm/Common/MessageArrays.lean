import Sdm.Common.MessageManipulator

/-!
`getArray` and `setArray` of a `MessageManipulator`: the arrays of a message by their names.

An array is a variable with a length. `setArray` copies a buffer to its place, and of this buffer at
most as many bytes as the array has values.

* `setArray_declared`: the bytes that are copied are at the place that `getArray` returns, and all
  other variables and arrays keep their bytes.
* `setArray_whole_iff`: which arrays are copied as a whole.
-/

namespace Sdm

open Lib Memory MessageDefinition

/-! ### Arrays of a message -/

/-- `getArray` of a variable: where its bytes begin, and its length. -/
def arrayOf (Variable : Option Var) : Option (Nat × Int) :=
  Variable.map fun v => (v.start, v.length)

/-- `setArray` of a variable in an array of this size, from a buffer of which `length` bytes are
meant; none where `memcpy` leaves one of them. -/
def setArrayIn (size : Nat) (Buffer : Memory) (Variable : Option Var) (buffer : List UInt8)
    (length : Int) : Option (Bool × Memory) :=
  match Variable with
  | none => some (false, Buffer)
  | some v =>
      let MinLength := if length < v.length then length else v.length
      if MinLength ≤ v.length then
        if 0 ≤ MinLength ∧ MinLength ≤ buffer.length ∧ v.start + MinLength ≤ size then
          some (true, Buffer.store v.start (buffer.take MinLength.toNat))
        else none
      else some (true, Buffer)

/-- `getArray` of an `SDMData`. -/
def Msg.getArrayData (m : Msg) (name : CString) : MsgType → Option (Nat × Int)
  | .DATAMSG => arrayOf (m.data.bind fun node => find name node.list)
  | .FAULTMSG => arrayOf (m.fault.bind fun node => find name node.list)
  | .COMMANDMSG => arrayOf none

/-- `setArray` of an `SDMData`. -/
def Msg.setArrayData (m : Msg) (name : CString) (msg : Memory) (buffer : List UInt8)
    (length : Int) : MsgType → Option (Bool × Memory)
  | .DATAMSG =>
      match m.data with
      | none => some (false, msg)
      | some node => setArrayIn (BUFSIZE - 29) msg (find name node.list) buffer length
  | .FAULTMSG =>
      match m.fault with
      | none => some (false, msg)
      | some node => setArrayIn (BUFSIZE - 29) msg (find name node.list) buffer length
  | .COMMANDMSG => some (false, msg)

/-- `getArray` of an `SDMService`, and of an `SDMCommand`. -/
def Msg.getArrayService (m : Msg) (name : CString) : Option (Nat × Int) :=
  arrayOf (m.command.bind fun node => find name node.list)

/-- `setArray` of an `SDMService`, and of an `SDMCommand`. -/
def Msg.setArrayService (m : Msg) (name : CString) (data : Memory) (buffer : List UInt8)
    (length : Int) : Option (Bool × Memory) :=
  match m.command with
  | none => some (false, data)
  | some node => setArrayIn (BUFSIZE - 35) data (find name node.list) buffer length

/-- The messages with arrays. -/
inductive ArrayMessage where
  | SDMData (type : MsgType)
  | SDMService

namespace ArrayMessage

/-- The part of a definition that declares the arrays. -/
def part (info : Info) : ArrayMessage → Option Part
  | SDMData .DATAMSG => info.data
  | SDMData .FAULTMSG => info.fault
  | SDMData .COMMANDMSG => none
  | SDMService => info.command

/-- The size of the array with all of them. -/
def size : ArrayMessage → Nat
  | SDMData _ => BUFSIZE - 29
  | SDMService => BUFSIZE - 35

def getArray (m : Msg) (name : CString) : ArrayMessage → Option (Nat × Int)
  | SDMData type => m.getArrayData name type
  | SDMService => m.getArrayService name

def setArray (m : Msg) (name : CString) (Buffer : Memory) (buffer : List UInt8) (length : Int) :
    ArrayMessage → Option (Bool × Memory)
  | SDMData type => m.setArrayData name Buffer buffer length type
  | SDMService => m.setArrayService name Buffer buffer length

end ArrayMessage

/-- `getMsgID`. -/
def Msg.getMsgID (m : Msg) : MsgType → SDMMessageID
  | .COMMANDMSG => m.command.elim .zero fun node => .ofInt node.id
  | .DATAMSG => m.data.elim .zero fun node => .ofInt node.id
  | .FAULTMSG => m.fault.elim .zero fun node => .ofInt node.id

/-! ### Their places -/

/-- How many bytes all values of a variable take. -/
def Var.extent (v : Var) : Nat := v.length * v.type.size

/-- The values of two variables lie in different bytes. -/
def Var.Separate (v w : Var) : Prop := v.start + v.extent ≤ w.start ∨ w.start + w.extent ≤ v.start

instance (v w : Var) : Decidable (v.Separate w) := inferInstanceAs (Decidable (_ ∨ _))

instance : Std.Symm Var.Separate := ⟨fun _ _ => Or.symm⟩

/-- All values of the variables that are declared lie in different bytes of the array. -/
structure ArraysPlaced (size : Nat) (declared : List Var) : Prop where
  names : (declared.map Var.name).Nodup
  types : ∀ v ∈ declared, v.type ≠ .EMPTY
  separate : declared.Pairwise Var.Separate
  inside : ∀ v ∈ declared, v.start + v.extent ≤ size

section Arrays

variable {size : Nat} {info : Info} {c : ArrayMessage} {part : Part} {v w : Var} {Buffer : Memory}
  {buffer : List UInt8}

/-- Every value takes a byte at least. -/
theorem size_pos {type : ValueType} (some : type ≠ .EMPTY) : 0 < type.size := by
  cases type with
  | EMPTY => exact absurd rfl some
  | _ => decide

theorem Var.length_le_extent (some : v.type ≠ .EMPTY) : v.length ≤ v.extent :=
  Nat.le_mul_of_pos_right _ (size_pos some)

/-- Variables that have values are placed as single values are. -/
theorem ArraysPlaced.wellPlaced {declared : List Var} (placed : ArraysPlaced size declared)
    (some : ∀ v ∈ declared, 0 < v.length) : WellPlaced size declared := by
  have le (v : Var) (mem : v ∈ declared) : v.type.size ≤ v.extent :=
    Nat.le_mul_of_pos_left _ (some v mem)
  refine ⟨placed.names, placed.separate.imp_of_mem fun {v w} left right separate => ?_,
    fun v mem => ?_⟩
  · have here := le v left
    have there := le w right
    rcases separate with before | behind
    · exact .inl (by omega)
    · exact .inr (by omega)
  · have here := le v mem
    have inside := placed.inside v mem
    exact (by omega : v.start + v.type.size ≤ size)

/-- How many bytes are copied. -/
def Var.copied (v : Var) (buffer : List UInt8) : Nat := min buffer.length v.length

/-- `setArray` of a whole buffer, inside of the array. -/
theorem setArrayIn_some (inside : v.start + v.length ≤ size) :
    setArrayIn size Buffer (some v) buffer buffer.length =
      some (true, Buffer.store v.start (buffer.take (v.copied buffer))) := by
  have least : (if (buffer.length : Int) < v.length then (buffer.length : Int) else v.length) =
      (v.copied buffer : Nat) := by
    rw [Var.copied]
    split <;> omega
  have few : v.copied buffer ≤ buffer.length ∧ v.copied buffer ≤ v.length :=
    ⟨Nat.min_le_left _ _, Nat.min_le_right _ _⟩
  rw [setArrayIn, least, if_pos (by omega), if_pos (by omega), Int.toNat_natCast]

theorem ArraysPlaced.inside_length {declared : List Var} (placed : ArraysPlaced size declared)
    (mem : v ∈ declared) : v.start + v.length ≤ size :=
  (Nat.add_le_add_left (Var.length_le_extent (placed.types v mem)) _).trans (placed.inside v mem)

/-- Every message finds the arrays of its part. -/
theorem getArray_declared (here : c.part info = some part)
    (placed : ArraysPlaced c.size part.declared) (mem : v ∈ part.declared) :
    c.getArray info.message v.name = some (v.start, (v.length : Int)) := by
  have found := find_declared placed.names mem
  cases c with
  | SDMData type =>
      cases type with
      | COMMANDMSG => cases here
      | DATAMSG =>
          have here : info.data = some part := here
          simp only [ArrayMessage.getArray, Msg.getArrayData, Info.message_data, here,
            Option.map_some, Option.bind_some, found, arrayOf]
      | FAULTMSG =>
          have here : info.fault = some part := here
          simp only [ArrayMessage.getArray, Msg.getArrayData, Info.message_fault, here,
            Option.map_some, Option.bind_some, found, arrayOf]
  | SDMService =>
      have here : info.command = some part := here
      simp only [ArrayMessage.getArray, Msg.getArrayService, Info.message_command, here,
        Option.map_some, Option.bind_some, found, arrayOf]

/-- Every message copies to the arrays of its part. -/
theorem setArray_declared (here : c.part info = some part)
    (placed : ArraysPlaced c.size part.declared) (mem : v ∈ part.declared) :
    c.setArray info.message v.name Buffer buffer buffer.length =
      some (true, Buffer.store v.start (buffer.take (v.copied buffer))) := by
  have found := find_declared placed.names mem
  have set := @setArrayIn_some c.size v Buffer buffer (placed.inside_length mem)
  cases c with
  | SDMData type =>
      cases type with
      | COMMANDMSG => cases here
      | DATAMSG =>
          have here : info.data = some part := here
          simp only [ArrayMessage.setArray, Msg.setArrayData, Info.message_data, here,
            Option.map_some, found]
          exact set
      | FAULTMSG =>
          have here : info.fault = some part := here
          simp only [ArrayMessage.setArray, Msg.setArrayData, Info.message_fault, here,
            Option.map_some, found]
          exact set
  | SDMService =>
      have here : info.command = some part := here
      simp only [ArrayMessage.setArray, Msg.setArrayService, Info.message_command, here,
        Option.map_some, found]
      exact set

/-! ### What is copied -/

theorem length_copied : (buffer.take (v.copied buffer)).length = v.copied buffer := by
  rw [List.length_take]
  exact Nat.min_eq_left (Nat.min_le_left _ _)

/-- What is stored at the beginning of a row of bytes. -/
theorem read_store_front {bytes : List UInt8} {start n : Nat} (le : bytes.length ≤ n) :
    (Buffer.store start bytes).read start n =
      bytes ++ Buffer.read (start + bytes.length) (n - bytes.length) := by
  obtain ⟨k, rfl⟩ := Nat.exists_eq_add_of_le le
  rw [read_add, read_store, Nat.add_sub_cancel_left,
    read_store_of_apart (.inr (Nat.le_refl (start + bytes.length)))]

/-- **Arrays are accessed by name.** In every message that is declared with different names and in
different bytes, `setArray` puts the first bytes of a buffer, as many as the array has values at
most, where `getArray` finds them, and leaves the bytes behind them and all other variables. -/
theorem array_access (here : c.part info = some part)
    (placed : ArraysPlaced c.size part.declared) (mem : v ∈ part.declared) (Buffer : Memory)
    (buffer : List UInt8) :
    ∃ Buffer', c.setArray info.message v.name Buffer buffer buffer.length = some (true, Buffer') ∧
      (∀ n, v.copied buffer ≤ n → (c.getArray info.message v.name).map
        (fun found => Buffer'.read found.1 n) =
          some (buffer.take v.length ++
            Buffer.read (v.start + v.copied buffer) (n - v.copied buffer))) ∧
      ∀ w ∈ part.declared, w ≠ v →
        (c.getArray info.message w.name).map (fun found => Buffer'.read found.1 w.extent) =
          some (Buffer.read w.start w.extent) := by
  refine ⟨_, setArray_declared here placed mem, fun n le => ?_, fun w there other => ?_⟩
  · have taken : buffer.take v.length = buffer.take (v.copied buffer) := by
      rw [Var.copied, Nat.min_comm]
      exact List.take_eq_take_min
    rw [getArray_declared here placed mem, Option.map_some,
      read_store_front (by rwa [length_copied]), length_copied, taken]
  · rw [getArray_declared here placed there, Option.map_some]
    have separate : w.Separate v := placed.separate.forall there mem other
    have extent := Var.length_le_extent (placed.types v mem)
    have few : v.copied buffer ≤ v.length := Nat.min_le_right _ _
    refine congrArg some (read_store_of_apart ?_)
    rw [length_copied]
    rcases separate with before | behind
    · exact .inl before
    · exact .inr (by omega)

/-- The notification of a buffer and its address. -/
def bufferMessage : Part where
  type := .DATAMSG
  name := .ofString "Buffer"
  id := .ofString "258"
  declared := [{ scalar "Bytes" 0 .UINT08 with length := 4 },
    { scalar "Words" 4 .UINT16 with length := 2 }]
  length := .ofString "8"

theorem placed_bufferMessage : ArraysPlaced (BUFSIZE - 29) bufferMessage.declared :=
  ⟨by decide, by decide, by decide, by decide⟩

/-- Five bytes into an array of four. -/
theorem array_access_four : ∃ Buffer', ArrayMessage.setArray
    (Info.message ⟨none, some bufferMessage, none⟩) (.ofString "Bytes") (fun _ => 0) [1, 2, 3, 4, 5]
      5 (.SDMData .DATAMSG) = some (true, Buffer') ∧ Buffer'.read 4 4 = [0, 0, 0, 0] := by
  obtain ⟨Buffer', set, -, others⟩ := @array_access ⟨none, some bufferMessage, none⟩
    (.SDMData .DATAMSG) bufferMessage { scalar "Bytes" 0 .UINT08 with length := 4 } rfl
    placed_bufferMessage List.mem_cons_self (fun _ => 0) [1, 2, 3, 4, 5]
  have words := others { scalar "Words" 4 .UINT16 with length := 2 } (by simp [bufferMessage])
    (by decide)
  exact ⟨Buffer', set, Option.some.inj words⟩

/-- **Which arrays are copied as a whole**: those of one-byte values. -/
theorem setArray_whole_iff (here : c.part info = some part)
    (placed : ArraysPlaced c.size part.declared) (mem : v ∈ part.declared) :
    (∀ (Buffer : Memory) (buffer : List UInt8), buffer.length = v.extent →
      ∃ Buffer', c.setArray info.message v.name Buffer buffer buffer.length = some (true, Buffer') ∧
        Buffer'.read v.start v.extent = buffer) ↔ v.length = 0 ∨ v.type.size = 1 := by
  have pos := size_pos (placed.types v mem)
  constructor
  · intro whole
    by_contra wide
    rw [not_or] at wide
    obtain ⟨some, wide⟩ := wide
    have more : v.length < v.extent :=
      (Nat.lt_mul_iff_one_lt_right (Nat.pos_of_ne_zero some)).mpr
        (Nat.lt_of_le_of_ne pos (Ne.symm wide))
    obtain ⟨Buffer', set, read⟩ := whole (fun _ => 0) (List.replicate v.extent 1)
      List.length_replicate
    rw [setArray_declared here placed mem] at set
    cases set
    -- The byte behind those that are copied is still zero.
    have zero : (0 : UInt8) ∈ List.replicate v.extent (1 : UInt8) := by
      rw [← read, mem_read]
      refine ⟨v.length, more, store_of_outside (.inr ?_)⟩
      rw [length_copied]
      exact Nat.add_le_add_left (Nat.min_le_right _ _) _
    exact absurd (List.eq_of_mem_replicate zero) (by decide)
  · intro narrow Buffer buffer length
    have extent : v.extent = v.length := by
      rw [Var.extent]
      rcases narrow with none | one
      · rw [none, Nat.zero_mul]
      · rw [one, Nat.mul_one]
    refine ⟨_, setArray_declared here placed mem, ?_⟩
    have all : buffer.take (v.copied buffer) = buffer := by
      rw [Var.copied, length, extent, Nat.min_self, ← extent, ← length, List.take_length]
    rw [all, ← length]
    exact read_store

/-- Two words are not. -/
theorem setArray_not_whole : ¬ ∀ (Buffer : Memory) (buffer : List UInt8), buffer.length = 4 →
    ∃ Buffer', ArrayMessage.setArray (Info.message ⟨none, some bufferMessage, none⟩)
      (.ofString "Words") Buffer buffer buffer.length (.SDMData .DATAMSG) = some (true, Buffer') ∧
        Buffer'.read 4 4 = buffer := by
  have whole := @setArray_whole_iff ⟨none, some bufferMessage, none⟩ (.SDMData .DATAMSG)
    bufferMessage { scalar "Words" 4 .UINT16 with length := 2 } rfl placed_bufferMessage
    (by simp [bufferMessage])
  exact fun all => absurd (whole.mp all) (by decide)

end Arrays

end Sdm
