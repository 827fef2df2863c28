import Sdm.Common.SubscriptionManager
import Sdm.Message.Marshalling

/-!
An ASIM of the SPA-1 Manager, with the queues of the messages to it and from it.

* `putMsg_eq`, `getMsg_cons`: a message that fits is queued as it is, and comes out as it went in.
-/

namespace Sdm

open Lib

def SPA1_HEADER_SIZE : Nat := 3
def MAX_PACKET_PAYLOAD : Nat := 253
def MAX_SPA1_MSG_SIZE : Nat := 256

/-- `Spa1Msg`. Of its array of 257 bytes, those that were written. -/
structure Spa1Msg where
  msg : List UInt8
  msgSize : Nat
  deriving DecidableEq

namespace Spa1Msg

def new (size : Nat) : Spa1Msg where
  msg := []
  msgSize := if MAX_SPA1_MSG_SIZE < size then MAX_SPA1_MSG_SIZE else size

def setMsgSize (m : Spa1Msg) (size : Nat) : Spa1Msg :=
  if size < MAX_SPA1_MSG_SIZE then { m with msgSize := size } else m

end Spa1Msg

/-- `Spa1Queue`, with the messages from its head on. -/
structure Spa1Queue where
  msgs : List Spa1Msg
  msgsInQueue : Int
  count : msgsInQueue = msgs.length

namespace Spa1Queue

variable {q : Spa1Queue} {buf : List UInt8} {size : UInt32}

def new : Spa1Queue := ⟨[], 0, rfl⟩

def getNumMsgs (q : Spa1Queue) : Int := q.msgsInQueue

/-- The queue afterwards, the result, and what was copied to the buffer. -/
def getMsg (q : Spa1Queue) (bufSize : Nat) : Spa1Queue × Int × List UInt8 :=
  match q with
  | ⟨[], n, count⟩ => (⟨[], n, count⟩, 0, [])
  | ⟨curMsg :: rest, n, count⟩ =>
      if bufSize < curMsg.msgSize then (⟨curMsg :: rest, n, count⟩, -1, [])
      else (⟨rest, n - 1, by rw [count, List.length_cons]; omega⟩, curMsg.msgSize,
        curMsg.msg.take curMsg.msgSize)

/-- The message is copied to its array without regard to the size of the array. -/
def putMsg (q : Spa1Queue) (buf : List UInt8) (size : UInt32) : Except Stop (Spa1Queue × Int) :=
  if size.toNat ≤ BUFSIZE then
    if 257 < size.toNat then .error .undefined
    else
      let newMsg := { Spa1Msg.new size.toNat with msg := buf.take size.toNat }
      .ok (⟨q.msgs ++ [newMsg.setMsgSize size.toNat], q.msgsInQueue + 1,
        by rw [q.count, List.length_append]; rfl⟩, 0)
  else .ok (q, -1)

/-- A message of at most 256 bytes is queued with its size. -/
theorem putMsg_eq (q : Spa1Queue) (buf : List UInt8) (fits : size.toNat ≤ MAX_SPA1_MSG_SIZE) :
    ∃ q', q.putMsg buf size = .ok (q', 0) ∧
      q'.msgs = q.msgs ++ [⟨buf.take size.toNat, size.toNat⟩] := by
  have max : MAX_SPA1_MSG_SIZE = 256 := rfl
  have most : BUFSIZE = 24288 := rfl
  refine ⟨_, by rw [putMsg, if_pos (by omega), if_neg (by omega)], ?_⟩
  simp only [Spa1Msg.setMsgSize, Spa1Msg.new]
  split
  · rfl
  · rw [if_neg (by omega)]

/-- An error return used as a size is refused. -/
theorem putMsg_error : q.putMsg buf (-1) = .ok (q, -1) := rfl

/-- The first message that fits the buffer is taken out. -/
theorem getMsg_cons {m : Spa1Msg} {rest : List Spa1Msg} {bufSize : Nat} (first : q.msgs = m :: rest)
    (fits : m.msgSize ≤ bufSize) : (q.getMsg bufSize).1.msgs = rest ∧
      (q.getMsg bufSize).2 = ((m.msgSize : Int), m.msg.take m.msgSize) := by
  obtain ⟨msgs, n, count⟩ := q
  cases first
  rw [getMsg, if_neg (Nat.not_lt.mpr fits)]
  exact ⟨rfl, rfl⟩

end Spa1Queue

/-- The states that a registration goes through, in their order. -/
inductive RegistrationState where
  | SENT_HELLO
  | RECVD_ACK
  | RECVD_REG
  | SENT_XTEDS
  | RECVD_ID
  deriving DecidableEq, Repr

/-- The value of the enumerator. -/
def RegistrationState.value : RegistrationState → Nat
  | .SENT_HELLO => 0
  | .RECVD_ACK => 1
  | .RECVD_REG => 2
  | .SENT_XTEDS => 3
  | .RECVD_ID => 4

/-- `Spa1Asim`. -/
structure Spa1Asim where
  xTEDS : CString
  sendToQueue : Spa1Queue
  recvFromQueue : Spa1Queue
  subscriptions : SubscriptionManager
  guid : Int32
  i2cAddress : UInt8
  sensorIndex : UInt32
  sensorId : UInt32
  regState : RegistrationState
  failCount : Nat

def Spa1Asim.setRegState (asim : Spa1Asim) (newState : RegistrationState) : Spa1Asim :=
  { asim with regState := newState }

def Spa1Asim.setSensorId (asim : Spa1Asim) (newSensorId : UInt32) : Spa1Asim :=
  { asim with sensorId := newSensorId }

end Sdm
