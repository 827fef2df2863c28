import Mathlib.Data.List.Pairwise
import Mathlib.Data.List.Nodup
import Sdm.Common.MessageDefinition
import Sdm.Message.Marshalling

/-!
`MessageManipulator`: the variables of a message by their names, on a 32-bit little-endian
target.

* `cast_of_type`, `get_store`: a value of the type of a variable is stored and read as it is.
* `getValue_setValue_of_apart`: the variables that lie elsewhere keep their values.
* `field_access`: both for every declared message.
-/

namespace Sdm

open Lib Memory MessageDefinition

/-! ### Values in a message -/

/-- How many bytes a value of the type takes. -/
def ValueType.size : ValueType → Nat
  | EMPTY => 0
  | UINT08 | INT08 => 1
  | UINT16 | INT16 => 2
  | UINT32 | INT32 | FLOAT32 => 4
  | FLOAT64 => 8

/-- The types of integers. -/
def ValueType.IsInteger (type : ValueType) : Prop :=
  type ≠ EMPTY ∧ type ≠ FLOAT32 ∧ type ≠ FLOAT64

instance (type : ValueType) : Decidable type.IsInteger := inferInstanceAs (Decidable (_ ∧ _))

namespace Value

/-- The integer that is the value. -/
def toInt? : Value → Option Int
  | UINT08 x => some x.toNat
  | INT08 x => some x.toInt
  | UINT16 x => some x.toNat
  | INT16 x => some x.toInt
  | UINT32 x => some x.toNat
  | INT32 x => some x.toInt
  | FLOAT32 _ | FLOAT64 _ | EMPTY => none

/-- The bytes that the macro of the type writes (`PUT_UCHAR` to `PUT_DOUBLE`). -/
def bytes : Value → List UInt8
  | EMPTY => []
  | UINT08 x => [x]
  | INT08 x => [x.toUInt8]
  | UINT16 x => bytes16 x
  | INT16 x => bytes16 x.toUInt16
  | UINT32 x => bytes32 x
  | INT32 x => bytes32 x.toUInt32
  | FLOAT32 bits => bytes32 bits
  | FLOAT64 bits => bytes64 bits

/-- The value that the macro of the type reads (`GET_UCHAR` to `GET_DOUBLE`). -/
def get (Buffer : Memory) (start : Nat) : ValueType → Value
  | .EMPTY => EMPTY
  | .UINT08 => UINT08 (Buffer start)
  | .INT08 => INT08 (Buffer start).toInt8
  | .UINT16 => UINT16 (Buffer.load16 start)
  | .INT16 => INT16 (Buffer.load16 start).toInt16
  | .UINT32 => UINT32 (Buffer.load32 start)
  | .INT32 => INT32 (Buffer.load32 start).toInt32
  | .FLOAT32 => FLOAT32 (Buffer.load32 start)
  | .FLOAT64 => FLOAT64 (Buffer.load64 start)

@[simp]
theorem length_bytes (val : Value) : val.bytes.length = val.type.size := by
  cases val <;> rfl

/-- **An integer** is read back from where it was stored. -/
theorem get_store {Buffer : Memory} {start : Nat} {val : Value} (integer : val.type.IsInteger) :
    get (Buffer.store start val.bytes) start val.type = val := by
  obtain ⟨notEmpty, notFloat, notDouble⟩ := integer
  cases val with
  | EMPTY => exact absurd rfl notEmpty
  | UINT08 x => simp [get, type, bytes]
  | INT08 x => simp [get, type, bytes]
  | UINT16 x => simp [get, type, bytes]
  | INT16 x => simp [get, type, bytes]
  | UINT32 x => simp [get, type, bytes]
  | INT32 x => simp [get, type, bytes]
  | FLOAT32 bits => exact absurd rfl notFloat
  | FLOAT64 bits => exact absurd rfl notDouble

/-- A value is determined by its bytes. -/
theorem get_congr {m m' : Memory} {start : Nat} {type : ValueType}
    (same : ∀ j < type.size, m' (start + j) = m (start + j)) :
    get m' start type = get m start type := by
  cases type with
  | EMPTY => rfl
  | UINT08 => rw [get, get, show m' start = m start from same 0 Nat.one_pos]
  | INT08 => rw [get, get, show m' start = m start from same 0 Nat.one_pos]
  | UINT16 => rw [get, get, load16_congr same]
  | INT16 => rw [get, get, load16_congr same]
  | UINT32 => rw [get, get, load32_congr same]
  | INT32 => rw [get, get, load32_congr same]
  | FLOAT32 => rw [get, get, load32_congr same]
  | FLOAT64 => rw [get, get, load64_congr same]

end Value

/-- `cast`, which leaves the field of another type alone when there is no value. -/
def cast [FloatingPoint] (val : Value) (val_type : ValueType) : Value :=
  if val.type = val_type ∨ val.type = .EMPTY ∨ val_type = .EMPTY then val
  else
    match val.toInt? with
    | some i => if val_type.IsInteger then .ofInt val_type i else FloatingPoint.convert val val_type
    | none => FloatingPoint.convert val val_type

@[simp]
theorem cast_of_type [FloatingPoint] (val : Value) : cast val val.type = val := if_pos (Or.inl rfl)

/-! ### Variables in a message -/

/-- Whether two values of one type are equal, as `getValue` compares them: of an `_INT16` it
compares the field `int08`, the low byte. -/
def sameValue [FloatingPoint] : Value → Value → Bool
  | .UINT08 a, .UINT08 b => a = b
  | .INT08 a, .INT08 b => a = b
  | .UINT16 a, .UINT16 b => a = b
  | .INT16 a, .INT16 b => a.toUInt16.toUInt8 = b.toUInt16.toUInt8
  | .UINT32 a, .UINT32 b => a = b
  | .INT32 a, .INT32 b => a = b
  | .FLOAT32 a, .FLOAT32 b => FloatingPoint.equal (.FLOAT32 a) (.FLOAT32 b)
  | .FLOAT64 a, .FLOAT64 b => FloatingPoint.equal (.FLOAT64 a) (.FLOAT64 b)
  | _, _ => false

/-- `getValue` of a variable, with what it sets `*IsValid` to. -/
def getValue [FloatingPoint] (scaled : Bool) (Buffer : Memory) (Variable : Option Var)
    (IsValid : Bool) : Value × Bool :=
  match Variable with
  | none => (.EMPTY, IsValid)
  | some v =>
      let val := Value.get Buffer v.start v.type
      (if scaled ∧ v.type ≠ .EMPTY then FloatingPoint.scale val v.scale_factor else val,
        !(v.invalid_data.type ≠ .EMPTY && sameValue val v.invalid_data))

/-- `setValue` of a variable. -/
def setValue [FloatingPoint] (Buffer : Memory) (Variable : Option Var) (val : Value) :
    Bool × Memory :=
  match Variable with
  | none => (false, Buffer)
  | some v => (true, Buffer.store v.start (cast val v.type).bytes)

/-- The first value of the variable lies in an array of this size. -/
def Var.Inside (size : Nat) (v : Var) : Prop := v.start + v.type.size ≤ size

/-- The bytes of the two variables are not the same. -/
def Var.Apart (v w : Var) : Prop :=
  v.start + v.type.size ≤ w.start ∨ w.start + w.type.size ≤ v.start

instance (size : Nat) (v : Var) : Decidable (v.Inside size) := inferInstanceAs (Decidable (_ ≤ _))

instance (v w : Var) : Decidable (v.Apart w) := inferInstanceAs (Decidable (_ ∨ _))

instance : Std.Symm Var.Apart := ⟨fun _ _ => Or.symm⟩

/-- The variables that are declared have different names and lie in different bytes of the
array. -/
structure WellPlaced (size : Nat) (declared : List Var) : Prop where
  names : (declared.map Var.name).Nodup
  apart : declared.Pairwise Var.Apart
  inside : ∀ v ∈ declared, v.Inside size

/-! ### Messages -/

section Manipulator

variable [FloatingPoint]

/-- `getValue` in an array of this size; none where it reads behind the array. -/
def getIn (size : Nat) (scaled : Bool) (Buffer : Memory) (Variable : Option Var) (IsValid : Bool) :
    Option (Value × Bool) :=
  if ∀ v ∈ Variable, v.Inside size then some (getValue scaled Buffer Variable IsValid) else none

/-- `setValue` in an array of this size; none where it writes behind the array. -/
def setIn (size : Nat) (Buffer : Memory) (Variable : Option Var) (val : Value) :
    Option (Bool × Memory) :=
  if ∀ v ∈ Variable, v.Inside size then some (setValue Buffer Variable val) else none

/-- `getValue` of an `SDMData`; none through a part that is `NULL`. -/
def Msg.getData (m : Msg) (scaled : Bool) (name : CString) (msg : Memory) (type : MsgType)
    (IsValid : Bool) : Option (Value × Bool) :=
  (if type = .DATAMSG then m.data else m.fault).bind fun node =>
    getIn (BUFSIZE - 29) scaled msg (find name node.list) IsValid

/-- `setValue` of an `SDMData`. -/
def Msg.setData (m : Msg) (name : CString) (msg : Memory) (val : Value) (type : MsgType) :
    Option (Bool × Memory) :=
  match type with
  | .DATAMSG =>
      match m.data with
      | none => some (false, msg)
      | some node => setIn (BUFSIZE - 29) msg (find name node.list) val
  | .FAULTMSG =>
      match m.fault with
      | none => some (false, msg)
      | some node => setIn (BUFSIZE - 29) msg (find name node.list) val
  | .COMMANDMSG => some (false, msg)

/-- `getValue` of an `SDMCommand`. -/
def Msg.getCommand (m : Msg) (scaled : Bool) (name : CString) (data : Memory) (IsValid : Bool) :
    Option (Value × Bool) :=
  m.command.bind fun node => getIn (BUFSIZE - 35) scaled data (find name node.list) IsValid

/-- `setValue` of an `SDMCommand`. -/
def Msg.setCommand (m : Msg) (name : CString) (data : Memory) (val : Value) :
    Option (Bool × Memory) :=
  if m.type = .NOTIFICATION then some (false, data)
  else m.command.bind fun node => setIn (BUFSIZE - 35) data (find name node.list) val

/-- `getValue` of an `SDMSerreqst`. -/
def Msg.getSerreqst (m : Msg) (scaled : Bool) (name : CString) (data : Memory) (IsValid : Bool) :
    Option (Value × Bool) :=
  m.command.bind fun node => getIn (BUFSIZE - 39) scaled data (find name node.list) IsValid

/-- `setValue` of an `SDMService`. -/
def Msg.setService (m : Msg) (name : CString) (data : Memory) (val : Value) :
    Option (Bool × Memory) :=
  if m.type ≠ .REQUEST then some (false, data)
  else m.command.bind fun node => setIn (BUFSIZE - 35) data (find name node.list) val

/-- The messages whose variables are accessed by name: an `SDMData` with its data or its fault
message, an `SDMCommand`, and a request that is set as an `SDMService` and read as an
`SDMSerreqst`. -/
inductive MessageClass where
  | SDMData (type : MsgType)
  | SDMCommand
  | SDMService
  deriving DecidableEq

namespace MessageClass

/-- The part of a definition that declares the variables. -/
def part (info : Info) : MessageClass → Option Part
  | SDMData .DATAMSG => info.data
  | SDMData .FAULTMSG => info.fault
  | SDMData .COMMANDMSG => none
  | SDMCommand => info.command
  | SDMService => if info.data.isSome then info.command else none

/-- The size of the array with the variables, of the smaller one where there are two. -/
def size : MessageClass → Nat
  | SDMData _ => BUFSIZE - 29
  | SDMCommand => BUFSIZE - 35
  | SDMService => BUFSIZE - 39

def getValue (m : Msg) (scaled : Bool) (name : CString) (Buffer : Memory) (IsValid : Bool) :
    MessageClass → Option (Value × Bool)
  | SDMData type => m.getData scaled name Buffer type IsValid
  | SDMCommand => m.getCommand scaled name Buffer IsValid
  | SDMService => m.getSerreqst scaled name Buffer IsValid

def setValue (m : Msg) (name : CString) (Buffer : Memory) (val : Value) :
    MessageClass → Option (Bool × Memory)
  | SDMData type => m.setData name Buffer val type
  | SDMCommand => m.setCommand name Buffer val
  | SDMService => m.setService name Buffer val

end MessageClass

/-! ### The access of a variable -/

variable {size : Nat} {info : Info} {c : MessageClass} {part : Part} {v w : Var} {scaled : Bool}
  {Buffer : Memory} {val : Value} {IsValid : Bool}

omit [FloatingPoint] in
/-- **A name finds its declaration**, whatever the order of the declarations. -/
theorem find_declared (names : (part.declared.map Var.name).Nodup) (mem : v ∈ part.declared) :
    find v.name part.newNode.list = some v := by
  rw [part.find_newNode]
  cases found : part.declared.find? fun w => w.name = v.name with
  | none => exact absurd found (by simpa using ⟨v, mem, rfl⟩)
  | some w =>
      have same : w.name = v.name := by simpa using List.find?_some found
      exact congrArg some
        (List.inj_on_of_nodup_map names (List.mem_of_find?_eq_some found) mem same)

/-- A variable that is declared inside the array is read there. -/
theorem getIn_declared (names : (part.declared.map Var.name).Nodup) (mem : v ∈ part.declared)
    (inside : v.Inside size) :
    getIn size scaled Buffer (find v.name part.newNode.list) IsValid =
      some (getValue scaled Buffer (some v) IsValid) := by
  rw [find_declared names mem, getIn, if_pos (by simpa using inside)]

/-- A variable that is declared inside the array is written there. -/
theorem setIn_declared (names : (part.declared.map Var.name).Nodup) (mem : v ∈ part.declared)
    (inside : v.Inside size) :
    setIn size Buffer (find v.name part.newNode.list) val =
      some (setValue Buffer (some v) val) := by
  rw [find_declared names mem, setIn, if_pos (by simpa using inside)]

omit [FloatingPoint] in
/-- The part of a request is its command. -/
theorem part_of_service (here : MessageClass.SDMService.part info = some part) :
    info.command = some part ∧ info.data.isSome := by
  rw [MessageClass.part] at here
  split at here
  · rename_i data
    exact ⟨here, data⟩
  · cases here

/-- Every message class reads the variables of its part. -/
theorem getValue_declared (here : c.part info = some part)
    (placed : WellPlaced c.size part.declared) (mem : v ∈ part.declared) :
    c.getValue info.message scaled v.name Buffer IsValid =
      some (getValue scaled Buffer (some v) IsValid) := by
  cases c with
  | SDMData type =>
      cases type with
      | COMMANDMSG => cases here
      | DATAMSG =>
          have here : info.data = some part := here
          rw [MessageClass.getValue, Msg.getData, if_pos rfl, Info.message_data, here]
          exact getIn_declared placed.names mem (placed.inside v mem)
      | FAULTMSG =>
          have here : info.fault = some part := here
          rw [MessageClass.getValue, Msg.getData, if_neg (by decide), Info.message_fault, here]
          exact getIn_declared placed.names mem (placed.inside v mem)
  | SDMCommand =>
      have here : info.command = some part := here
      rw [MessageClass.getValue, Msg.getCommand, Info.message_command, here]
      exact getIn_declared placed.names mem (placed.inside v mem)
  | SDMService =>
      obtain ⟨here, -⟩ := part_of_service here
      rw [MessageClass.getValue, Msg.getSerreqst, Info.message_command, here]
      exact getIn_declared placed.names mem (placed.inside v mem)

/-- Every message class writes the variables of its part. -/
theorem setValue_declared (here : c.part info = some part)
    (placed : WellPlaced c.size part.declared) (mem : v ∈ part.declared) :
    c.setValue info.message v.name Buffer val = some (setValue Buffer (some v) val) := by
  cases c with
  | SDMData type =>
      cases type with
      | COMMANDMSG => cases here
      | DATAMSG =>
          have here : info.data = some part := here
          simp only [MessageClass.setValue, Msg.setData, Info.message_data, here, Option.map_some]
          exact setIn_declared placed.names mem (placed.inside v mem)
      | FAULTMSG =>
          have here : info.fault = some part := here
          simp only [MessageClass.setValue, Msg.setData, Info.message_fault, here, Option.map_some]
          exact setIn_declared placed.names mem (placed.inside v mem)
  | SDMCommand =>
      have here : info.command = some part := here
      rw [MessageClass.setValue, Msg.setCommand, if_neg (Info.type_of_command here),
        Info.message_command, here]
      exact setIn_declared placed.names mem (placed.inside v mem)
  | SDMService =>
      obtain ⟨here, both⟩ := part_of_service here
      rw [MessageClass.setValue, Msg.setService, if_neg (not_not.mpr (Info.type_of_both here both)),
        Info.message_command, here]
      have inside : v.Inside (BUFSIZE - 35) := Nat.le_trans (placed.inside v mem) (by decide)
      exact setIn_declared placed.names mem inside

/-- A value of the type of a variable is read back. -/
theorem getValue_setValue (typed : val.type = v.type) (integer : v.type.IsInteger) :
    (getValue false (setValue Buffer (some v) val).2 (some v) IsValid).1 = val := by
  simp only [getValue, setValue, ← typed, cast_of_type]
  exact Value.get_store (typed ▸ integer)

/-- A variable in other bytes is not changed. -/
theorem getValue_setValue_of_apart (typed : val.type = v.type) (apart : v.Apart w) :
    getValue scaled (setValue Buffer (some v) val).2 (some w) IsValid =
      getValue scaled Buffer (some w) IsValid := by
  have same : Value.get (setValue Buffer (some v) val).2 w.start w.type =
      Value.get Buffer w.start w.type := by
    apply Value.get_congr
    intro j lt
    simp only [setValue, ← typed, cast_of_type]
    have apart : v.start + v.type.size ≤ w.start ∨ w.start + w.type.size ≤ v.start := apart
    exact store_of_outside (by rw [Value.length_bytes, typed]; omega)
  simp only [getValue, same]

/-- **The variables of a message are accessed by name.** In every message that is declared with
different names in different bytes, a name finds its declaration, a value of the type of an
integer variable is read back as it was set, and all other variables stay as they are. -/
theorem field_access (msg_def : CString) (info : Info) :
    parse msg_def = some info → ∀ (c : MessageClass) (part : Part), c.part info = some part →
      WellPlaced c.size part.declared →
      (∀ v ∈ part.declared, find v.name part.newNode.list = some v) ∧
      ∀ v ∈ part.declared, v.type.IsInteger → ∀ x : Value, x.type = v.type → ∀ Buffer : Memory,
        ∃ Buffer', c.setValue info.message v.name Buffer x = some (true, Buffer') ∧
          (∀ IsValid,
            (c.getValue info.message false v.name Buffer' IsValid).map Prod.fst = some x) ∧
          ∀ w ∈ part.declared, w ≠ v → ∀ scaled IsValid,
            c.getValue info.message scaled w.name Buffer' IsValid =
              c.getValue info.message scaled w.name Buffer IsValid := by
  intro _ c part here placed
  refine ⟨fun v mem => find_declared placed.names mem, fun v mem integer x typed Buffer => ?_⟩
  refine ⟨(setValue Buffer (some v) x).2, setValue_declared here placed mem, fun IsValid => ?_,
    fun w mem' other scaled IsValid => ?_⟩
  · rw [getValue_declared here placed mem, Option.map_some, getValue_setValue typed integer]
  · have apart : v.Apart w := placed.apart.forall mem mem' other.symm
    rw [getValue_declared here placed mem', getValue_declared here placed mem',
      getValue_setValue_of_apart typed apart]

end Manipulator

/-- The arithmetic of a message without floating-point numbers. -/
abbrev noFloats : FloatingPoint where
  atof _ type := .ofInt type 0
  convert val _ := val
  scale val _ := val
  equal _ _ := false

/-- A variable of one value, which is not scaled. -/
def scalar (name : String) (start : Nat) (type : ValueType) : Var where
  name := .ofString name
  start := start
  length := 1
  type := type
  scale_factor := .ofString "1.0"
  invalid_data := .EMPTY

/-- The command that points an antenna. -/
def point : Part where
  type := .COMMANDMSG
  name := .ofString "Point"
  id := .ofString "257"
  declared := [scalar "Elevation" 0 .UINT16, scalar "Azimuth" 2 .INT08]
  length := .ofString "3"

theorem access_of_two :
    ∃ Buffer', @MessageClass.setValue noFloats (Info.message ⟨some point, none, none⟩)
        (.ofString "Azimuth") (fun _ => 0) (.INT08 (-3)) .SDMCommand = some (true, Buffer') ∧
      (@MessageClass.getValue noFloats (Info.message ⟨some point, none, none⟩) false
        (.ofString "Azimuth") Buffer' true .SDMCommand).map Prod.fst = some (.INT08 (-3)) ∧
      @MessageClass.getValue noFloats (Info.message ⟨some point, none, none⟩) false
          (.ofString "Elevation") Buffer' true .SDMCommand =
        @MessageClass.getValue noFloats (Info.message ⟨some point, none, none⟩) false
          (.ofString "Elevation") (fun _ => 0) true .SDMCommand := by
  have accepted : @parse noFloats (.ofString ("<Command><CommandMsg name=\"Point\" id=\"257\" " ++
      "Variable:0:1:1.0:NS:UINT16=\"Elevation\" Variable:2:1:1.0:NS:INT08=\"Azimuth\" " ++
      "length=\"3\"/></Command>")) = some ⟨some point, none, none⟩ := by
    decide +kernel
  have placed : WellPlaced (MessageClass.size .SDMCommand) point.declared :=
    ⟨by decide, by decide, by decide⟩
  obtain ⟨-, access⟩ := @field_access noFloats _ _ accepted .SDMCommand point rfl placed
  obtain ⟨Buffer', set, read, others⟩ := access (scalar "Azimuth" 2 .INT08) (by decide) (by decide)
    (.INT08 (-3)) rfl (fun _ => 0)
  exact ⟨Buffer', set, read true, others (scalar "Elevation" 0 .UINT16) (by decide) (by decide)
    false true⟩

end Sdm
