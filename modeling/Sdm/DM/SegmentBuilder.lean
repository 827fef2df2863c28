import Sdm.Lib.Machine
import Sdm.Lib.Memory
import Sdm.Message.ComponentID

/-!
Reassembly of documents that arrive in segments (`xTEDSSegmentBuilder.cpp`, and the
stage of `xTEDS` in `DM.cpp` that uses it).

`ApplySegment` appends with `strncpy` where `strlen` finds the end of the buffer, and
does not look at what is left of it. What a segment that is too long does then depends
on the memory behind the buffer, so the model of `NodeList` is its bytes, in the layout
of a 32-bit target: a node is `NODE_SIZE` bytes, with two bytes of padding before
`NumSegments` and two after the port of `xTEDSID`.

* `applySegment`, `checkIsFinished`, `getFullxTEDS` are the three calls of `xTEDS`.
* `receiveSegment` makes them for one message, and `segmentBuilder` is the machine of it.
-/

namespace Sdm

open Lib

def MAX_NUMBER_SEGMENTS : Nat := 4
def SEGMENT_MAX_XTEDS_SIZE : Nat := 8070
def MAX_SEGMENT_NODES : Nat := 5
def MAX_XTEDS_SEQUENCE_VALUE : Nat := 15
def MAX_XTEDS_SIZE : Nat := 24183

/-- An `SDMxTEDS` as it is received. The first two bytes of the document stand apart,
since those of a segment are numbers. -/
structure SDMxTEDS where
  source : SDMComponentID
  active : UInt8
  pid : UInt32
  SPA_node : CString
  first : UInt8
  second : UInt8
  /-- The text at `xTEDS + 2`. -/
  rest : CString
  rest_fits : rest.length + 3 ≤ MAX_XTEDS_SIZE
  deriving DecidableEq, Repr

namespace SDMxTEDS

/-- The zero-based number of a segment. -/
def sequenceNumber (msg : SDMxTEDS) : Nat := msg.first.toNat

/-- The number of segments that a segment announces. -/
def totalSegments (msg : SDMxTEDS) : Nat := msg.second.toNat

/-- The document of a message that is no segment. -/
def document (msg : SDMxTEDS) : CString where
  bytes := (msg.first :: msg.second :: msg.rest.bytes).takeWhile (· ≠ 0)
  nul_notMem := fun mem => by simpa using List.mem_takeWhile_imp mem

/-- `IsSegmentedxTEDS`. -/
def IsSegmented (msg : SDMxTEDS) : Prop :=
  msg.sequenceNumber ≤ MAX_XTEDS_SEQUENCE_VALUE ∧ msg.totalSegments ≤ MAX_XTEDS_SEQUENCE_VALUE ∧
    0 < msg.totalSegments

instance (msg : SDMxTEDS) : Decidable msg.IsSegmented := inferInstanceAs (Decidable (_ ∧ _))

/-- The segment passes the first checks of `ApplySegment`. -/
def InRange (msg : SDMxTEDS) : Prop :=
  ¬(msg.totalSegments < msg.sequenceNumber + 1 ∨ MAX_XTEDS_SEQUENCE_VALUE < msg.sequenceNumber ∨
    MAX_XTEDS_SEQUENCE_VALUE < msg.totalSegments)

instance (msg : SDMxTEDS) : Decidable msg.InRange := inferInstanceAs (Decidable (¬_))

end SDMxTEDS

namespace SegmentBuilder

/-! ### The layout of `NodeList` -/

/-- The size of `xTEDSBuffer`. -/
def BUFFER_SIZE : Nat := MAX_NUMBER_SEGMENTS * SEGMENT_MAX_XTEDS_SIZE

/-- The size of `SegmentsReceived`. -/
def FLAGS_SIZE : Nat := 16

/-- The size of an `xTEDSSegmentNode`. -/
def NODE_SIZE : Nat := 32316

/-- The size of `NodeList`. -/
def POOL_SIZE : Nat := MAX_SEGMENT_NODES * NODE_SIZE

/-- The offset of a node, where `IsInUse` stands. -/
def nodeAt (i : Nat) : Nat := i * NODE_SIZE

def bufferAt (i : Nat) : Nat := nodeAt i + 1

def numSegmentsAt (i : Nat) : Nat := nodeAt i + 32282

def flagsAt (i : Nat) : Nat := nodeAt i + 32284

def xTEDSIDAt (i : Nat) : Nat := nodeAt i + 32300

variable {m m' : Memory} {msg : SDMxTEDS} {id : SDMComponentID} {i j : Nat}

def isInUse (m : Memory) (i : Nat) : Bool := m (nodeAt i) ≠ 0

def numSegments (m : Memory) (i : Nat) : UInt16 := m.load16 (numSegmentsAt i)

def xTEDSID (m : Memory) (i : Nat) : SDMComponentID :=
  ⟨m.load32 (xTEDSIDAt i), m.load32 (xTEDSIDAt i + 4), m.load16 (xTEDSIDAt i + 8)⟩

def setInUse (m : Memory) (i : Nat) (b : UInt8) : Memory := m.store (nodeAt i) [b]

def clearBuffer (m : Memory) (i : Nat) : Memory := m.fill (bufferAt i) BUFFER_SIZE 0

def setNumSegments (m : Memory) (i : Nat) (n : UInt16) : Memory :=
  m.store (numSegmentsAt i) (Memory.bytes16 n)

def setxTEDSID (m : Memory) (i : Nat) (id : SDMComponentID) : Memory :=
  ((m.store (xTEDSIDAt i) (Memory.bytes32 id.sensorID)).store (xTEDSIDAt i + 4)
    (Memory.bytes32 id.address)).store (xTEDSIDAt i + 8) (Memory.bytes16 id.port)

/-- The list as constructed: everything is zero except `NextIndex`, which is -1. -/
def start : Memory := fun a =>
  if a < POOL_SIZE ∧ 32312 ≤ a % NODE_SIZE then 255 else 0

/-! ### The private operations -/

/-- `FindNodeEntry`: it looks at the first `MAX_NUMBER_SEGMENTS` nodes, not at all
`MAX_SEGMENT_NODES`. -/
def findNodeEntry (m : Memory) (id : SDMComponentID) : Option Nat :=
  (List.range MAX_NUMBER_SEGMENTS).find? fun i => isInUse m i ∧ xTEDSID m i = id

/-- The node is cleared of what remains in it, and in use. -/
def resetNode (m : Memory) (i : Nat) : Memory :=
  let m := clearBuffer m i
  let m := setNumSegments m i 0
  let m := m.fill (flagsAt i) FLAGS_SIZE 0
  let m := setxTEDSID m i .zero
  setInUse m i 1

/-- `AddSegmentNode`: the first node that is not in use. -/
def addSegmentNode (m : Memory) : Option (Memory × Nat) :=
  ((List.range MAX_SEGMENT_NODES).find? fun i => !isInUse m i).map fun i => (resetNode m i, i)

/-- The number of segments and the provider of a new node. -/
def labelNode (m : Memory) (i : Nat) (msg : SDMxTEDS) : Memory :=
  setxTEDSID (setNumSegments m i (UInt16.ofNat msg.totalSegments)) i msg.source

/-- `DeleteNode`. -/
def deleteNode (m : Memory) (id : SDMComponentID) : Memory :=
  match findNodeEntry m id with
  | none => m
  | some i => setInUse m i 0

/-- `AlreadyReceived`. -/
def alreadyReceived (m : Memory) (i n : Nat) : Bool :=
  if FLAGS_SIZE ≤ n then false else m (flagsAt i + n) = 1

/-- `SentInOrder`: the flags before the number are set and those from it on are not. -/
def sentInOrder (m : Memory) (i n : Nat) : Bool :=
  (List.range FLAGS_SIZE).all fun j =>
    !(j < n && m (flagsAt i + j) == 0) && !(n ≤ j && m (flagsAt i + j) == 1)

/-- The payload of a segment behind the first `length` bytes of the buffer, and its flag. -/
def putSegment (m : Memory) (i length : Nat) (msg : SDMxTEDS) : Memory :=
  (m.store (bufferAt i + length) msg.rest.bytes).store (flagsAt i + msg.sequenceNumber) [1]

/-- The end of `ApplySegment`: the payload goes to the end of the text in the buffer.
There is no result when the copy would leave the list. -/
def appendSegment (m : Memory) (i : Nat) (msg : SDMxTEDS) : Option Memory :=
  (m.text (bufferAt i) POOL_SIZE).bind fun text =>
    if bufferAt i + text.length + msg.rest.length ≤ POOL_SIZE then
      some (putSegment m i text.length msg)
    else none

/-! ### The calls that `xTEDS` makes -/

/-- `ApplySegment` for a provider that has no node: a node is created for its first
segment. -/
def createNode (m : Memory) (msg : SDMxTEDS) : Option (Memory × Bool) :=
  if msg.sequenceNumber ≠ 0 then some (m, false)
  else
    match addSegmentNode m with
    | none => some (m, false)
    | some (m, i) =>
        let m := labelNode m i msg
        if BUFFER_SIZE < msg.totalSegments * SEGMENT_MAX_XTEDS_SIZE then
          some (deleteNode m msg.source, false)
        else (appendSegment (clearBuffer m i) i msg).map fun m => (m, true)

/-- `ApplySegment`. -/
def applySegment (m : Memory) (msg : SDMxTEDS) : Option (Memory × Bool) :=
  if ¬msg.IsSegmented then some (m, false)
  else if ¬msg.InRange then some (m, false)
  else
    match findNodeEntry m msg.source with
    | none => createNode m msg
    | some i =>
        if alreadyReceived m i msg.sequenceNumber then some (m, true)
        else if ¬sentInOrder m i msg.sequenceNumber then some (m, false)
        else (appendSegment m i msg).map fun m => (m, true)

/-- `CheckIsFinished`: the loop runs over `NumSegments` flags, however many there are. -/
def checkIsFinished (m : Memory) (id : SDMComponentID) : Option Bool :=
  match findNodeEntry m id with
  | none => some false
  | some i =>
      let n := (numSegments m i).toNat
      if 0 ∈ m.read (flagsAt i) (min n (POOL_SIZE - flagsAt i)) then some false
      else if flagsAt i + n ≤ POOL_SIZE then some true
      else none

/-- `GetFullxTEDS`. -/
def getFullxTEDS (m : Memory) (id : SDMComponentID) (maxSize : Nat) :
    Option (Memory × Option CString) :=
  (checkIsFinished m id).bind fun finished =>
    if finished then
      match findNodeEntry m id with
      | none => some (m, none)
      | some i =>
          (m.text (bufferAt i) POOL_SIZE).map fun text =>
            (deleteNode m id, if maxSize < text.length then none else some text)
    else some (m, none)

/-- What the segment stage of `xTEDS` comes to: the message is no segment, the segment
is not stored, it is acknowledged, or it is acknowledged and the document is complete. -/
inductive Received where
  | unsegmented
  | refused
  | accepted
  | complete (text : CString)
  deriving DecidableEq, Repr

/-- The stage of `xTEDS` after `ApplySegment` has succeeded. -/
def collect (m : Memory) (id : SDMComponentID) : Option (Memory × Received) :=
  (checkIsFinished m id).bind fun finished =>
    if finished then
      (getFullxTEDS m id MAX_XTEDS_SIZE).map fun full =>
        match full with
        | (m, some text) => (m, .complete text)
        | (m, none) => (m, .accepted)
    else some (m, .accepted)

/-- The segment stage of `xTEDS`. -/
def receiveSegment (m : Memory) (msg : SDMxTEDS) : Option (Memory × Received) :=
  if msg.IsSegmented then
    (applySegment m msg).bind fun applied =>
      match applied with
      | (m, true) => collect m msg.source
      | (m, false) => some (m, .refused)
  else some (m, .unsegmented)

/-- The segment builder takes the messages in the order in which they are handled. -/
def segmentBuilder : Machine Memory SDMxTEDS Received := ⟨receiveSegment⟩

end SegmentBuilder

end Sdm
