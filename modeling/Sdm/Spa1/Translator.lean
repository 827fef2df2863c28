import Sdm.Message.Encoders
import Sdm.Spa1.AsimTable

/-!
Translation between SDM messages and packets for ASIMs, on a 32-bit little-endian target.

A packet is a type, the length of what follows, an interface id, a message id and data.
`checkMsgsFromAsim` publishes as many bytes of data as the length says, which counts the two ids.

* `package_eq`: what the routines that build packets write.
* `sdmListener_queues`: what is queued for an ASIM.
* `checkMsgs_sends`: what is published, which is more than the data.
* `translation_iff`: translation is faithful when nobody has subscribed to the data.
-/

namespace Sdm

open Lib Checked Memory

def SECONDARY_HEADER_LEN : Nat := 2
def SPA1_ASIM_COMMAND : UInt8 := 'V'.toUInt8
def SPA1_ASIM_DATAREQ : UInt8 := 'M'.toUInt8
def SPA1_ASIM_DATA : UInt8 := 'D'.toUInt8
def SPA1_ASIM_CANCEL_DATA : UInt8 := 'C'.toUInt8

def SDMSubreqst.kind : MessageKind := ⟨'u'.toUInt8, 24, false, positive_request⟩

/-- `SDMSubreqst::Unmarshal`. -/
def SDMSubreqst.Unmarshal (buf : Memory) : Checked (Decoded SDMSubreqst) := do
  match ← UnmarshalHeader SDMSubreqst.kind.MsgName buf with
  | none => pure (.error SDM_INVALID_MESSAGE)
  | some header =>
      if SDMSubreqst.kind.total_length ≠ header.msg_length then
        pure (.error SDM_INVALID_MESSAGE)
      else
        let cur := HEADER_SIZE
        let source ← loadComponent buf cur
        let cur := cur + 10
        let destination ← loadComponent buf cur
        let cur := cur + 10
        let msg_id ← loadMessageID buf cur
        let cur := cur + 2
        let fault_id ← loadMessageID buf cur
        let cur := cur + 2
        pure (.message cur header { source, destination, msg_id, fault_id })

namespace Spa1Translator

/-- The stores of a packet. -/
def pack (outBuf : Memory) (type : UInt8) (msgSize : UInt16) (id : SDMMessageID)
    (data : List UInt8) : Memory :=
  ((((outBuf.store 0 [type]).store 1 (bytes16 msgSize)).store 3 [id.interface]).store 4
    [id.message]).store 5 data

/-- What the routines that build packets share: the buffer afterwards, and the size of the packet or
-1. `SDM_htons` leaves the length as it is. -/
def package (type : UInt8) (id : SDMMessageID) (data : List UInt8) (outBuf : Memory)
    (outBufSize : Nat) : Checked (Memory × Int) := do
  let totalSize := SPA1_HEADER_SIZE + SECONDARY_HEADER_LEN + data.length
  let msgSize : UInt16 := .ofNat (totalSize - SPA1_HEADER_SIZE)
  if outBufSize < totalSize then pure (outBuf, -1)
  else
    access ⟨outBufSize, 0, 5⟩
    access ⟨outBufSize, 5, data.length⟩
    pure (pack outBuf type msgSize id data, totalSize)

/-- A packet: its type, the length of what follows, the ids and the data. -/
def packet (type : UInt8) (id : SDMMessageID) (data : List UInt8) : List UInt8 :=
  type :: (bytes16 (.ofNat (2 + data.length)) ++ (id.marshal ++ data))

section Packets

variable {type : UInt8} {id : SDMMessageID} {data : List UInt8} {m : Memory} {outBufSize : Nat}

theorem length_packet : (packet type id data).length = 5 + data.length := by
  simp only [packet, SDMMessageID.marshal, List.length_cons, List.length_append, length_bytes16,
    List.length_nil]
  omega

theorem pack_eq {msgSize : UInt16} : pack m type msgSize id data =
    m.store 0 ([type] ++ bytes16 msgSize ++ [id.interface] ++ [id.message] ++ data) := by
  simp only [store_append]
  rfl

theorem take_packet : (packet type id data).take (5 + data.length) = packet type id data :=
  List.take_of_length_le (Nat.le_of_eq length_packet)

/-- A packet that fits the buffer stands in it, and its size is returned. -/
theorem package_eq (type : UInt8) (id : SDMMessageID) (m : Memory)
    (fits : 5 + data.length ≤ outBufSize) :
    ∃ m', package type id data m outBufSize = .ok (m', (5 + data.length : Nat)) ∧
      m'.Has 0 (packet type id data) := by
  have total : SPA1_HEADER_SIZE + SECONDARY_HEADER_LEN + data.length = 5 + data.length := rfl
  have length : 5 + data.length - SPA1_HEADER_SIZE = 2 + data.length := by
    rw [SPA1_HEADER_SIZE]
    omega
  have header : access ⟨outBufSize, 0, 5⟩ = .ok () :=
    access_eq_ok.mpr (show 0 + 5 ≤ outBufSize by omega)
  have payload : access ⟨outBufSize, 5, data.length⟩ = .ok () := access_eq_ok.mpr fits
  refine ⟨pack m type (.ofNat (2 + data.length)) id data, ?_, ?_⟩
  · simp only [package, total, length]
    rw [if_neg (Nat.not_lt.mpr fits), header, payload]
    rfl
  · rw [pack_eq]
    exact has_store

theorem package_long (long : outBufSize < 5 + data.length) :
    package type id data m outBufSize = .ok (m, -1) := if_pos long

end Packets

/-- `Unmarshal` in a routine that does not look at its result. A message that is not decoded leaves
the fields of the new object as they are. -/
def unmarshalled {α : Type} (decoded : Decoded α) (new : α) : α :=
  match decoded with
  | .error _ => new
  | .message _ _ msg => msg

def translateSerreqst (inBuf outBuf : Memory) (outBufSize : Nat) : Checked (Memory × Int) := do
  let decoded ← SDMSerreqst.Unmarshal inBuf
  let serReqstMsg := unmarshalled decoded ⟨.zero, .zero, ⟨0, 0⟩, ⟨0, 0⟩, ⟨0, 0⟩, 0, []⟩
  package SPA1_ASIM_COMMAND serReqstMsg.command_id serReqstMsg.data outBuf outBufSize

def translateCommand (inBuf outBuf : Memory) (outBufSize : Nat) : Checked (Memory × Int) := do
  let decoded ← SDMCommand.Unmarshal inBuf
  let commandMsg := unmarshalled decoded ⟨.zero, .zero, ⟨0, 0⟩, ⟨0, 0⟩, []⟩
  package SPA1_ASIM_COMMAND commandMsg.command_id commandMsg.data outBuf outBufSize

def translateSubreqst (inBuf outBuf : Memory) (outBufSize : Nat) : Checked (Memory × Int) := do
  let decoded ← SDMSubreqst.Unmarshal inBuf
  let subReqstMsg := unmarshalled decoded ⟨.zero, .zero, ⟨0, 0⟩, ⟨0, 0⟩⟩
  package SPA1_ASIM_DATAREQ subReqstMsg.msg_id [] outBuf outBufSize

def packageCancelData (intId msgId : UInt8) (outBuf : Memory) (outBufSize : Nat) :
    Checked (Memory × Int) :=
  package SPA1_ASIM_CANCEL_DATA ⟨intId, msgId⟩ [] outBuf outBufSize

/-- An SDMTat is not translated. -/
def translateTat (outBuf : Memory) : Checked (Memory × Int) := pure (outBuf, 0)

def translateToSpa1 (inBuf outBuf : Memory) (outBufSize : Nat) : Checked (Memory × Int) :=
  if inBuf 0 = 'y'.toUInt8 then translateSerreqst inBuf outBuf outBufSize
  else if inBuf 0 = 'z'.toUInt8 then translateCommand inBuf outBuf outBufSize
  else if inBuf 0 = 'u'.toUInt8 then translateSubreqst inBuf outBuf outBufSize
  else if inBuf 0 = 'H'.toUInt8 then translateTat outBuf
  else pure (outBuf, 0)

end Spa1Translator

open Spa1Translator

/-- An access outside its object ends the handler. -/
def Lib.Checked.toStop {α : Type} : Checked α → Except Stop α
  | .error _ => .error .undefined
  | .ok a => .ok a

namespace Spa1AsimTable

/-! ### From the SDM to an ASIM -/

/-- `asim->sendToQueue.putMsg(msgBuf, msgSize)`. -/
def enqueue (t : Spa1AsimTable) (asim : Nat) (msgBuf : Memory) (msgSize : Int) :
    Except Stop Spa1AsimTable := do
  let node ← t.heap.read asim
  let (queue, _) ← node.value.sendToQueue.putMsg (msgBuf.read 0 MAX_SPA1_MSG_SIZE) (.ofInt msgSize)
  t.modify asim fun asim => { asim with sendToQueue := queue }

/-- The part of the handlers for a message that is destined for an ASIM. A message for the SPA-1
Manager itself leaves the table as it is. -/
def forAsim (t : Spa1AsimTable) (source : SDMComponentID)
    (handle : Nat → Except Stop Spa1AsimTable) : Except Stop Spa1AsimTable :=
  if source.sensorID &&& 0x0ff ≠ 1 then do
    match ← t.getAsimBySensorId source.sensorID with
    | none => .ok t
    | some asim => handle asim
  else .ok t

/-- `msgBuf` is the array of the handler. -/
def handleSerreqstMsg (t : Spa1AsimTable) (msgBuf buf : Memory) : Except Stop Spa1AsimTable := do
  match ← (SDMSerreqst.Unmarshal buf).toStop with
  | .error _ => .ok t
  | .message _ _ serReqstMsg =>
      t.forAsim serReqstMsg.source fun asim => do
        let (msgBuf, msgSize) ← (translateToSpa1 buf msgBuf MAX_SPA1_MSG_SIZE).toStop
        t.enqueue asim msgBuf msgSize

def handleCommandMsg (t : Spa1AsimTable) (msgBuf buf : Memory) : Except Stop Spa1AsimTable := do
  match ← (SDMCommand.Unmarshal buf).toStop with
  | .error _ => .ok t
  | .message _ _ commandMsg =>
      t.forAsim commandMsg.source fun asim => do
        let (msgBuf, msgSize) ← (translateToSpa1 buf msgBuf MAX_SPA1_MSG_SIZE).toStop
        t.enqueue asim msgBuf msgSize

/-- `new` is the address of a new subscription. -/
def handleSubreqstMsg (t : Spa1AsimTable) (rounds new : Nat) (msgBuf buf : Memory) :
    Except Stop Spa1AsimTable := do
  match ← (SDMSubreqst.Unmarshal buf).toStop with
  | .error _ => .ok t
  | .message _ _ subReqstMsg =>
      t.forAsim subReqstMsg.source fun asim => do
        let (msgBuf, msgSize) ← (translateToSpa1 buf msgBuf MAX_SPA1_MSG_SIZE).toStop
        let node ← t.heap.read asim
        let (subscriptions, _) ← node.value.subscriptions.AddSubscription rounds new subReqstMsg
        let t ← t.modify asim fun asim => { asim with subscriptions := subscriptions }
        t.enqueue asim msgBuf msgSize

/-- `sdmListener` with a message of these kinds. -/
def sdmListener (t : Spa1AsimTable) (rounds new : Nat) (msgBuf buf : Memory) :
    Except Stop Spa1AsimTable :=
  if buf 0 = 'y'.toUInt8 then t.handleSerreqstMsg msgBuf buf
  else if buf 0 = 'z'.toUInt8 then t.handleCommandMsg msgBuf buf
  else if buf 0 = 'u'.toUInt8 then t.handleSubreqstMsg rounds new msgBuf buf
  else .ok t

/-! ### From an ASIM to its subscribers -/

/-- The case of a data message in `checkMsgsFromAsim`, with its array `buf`. `served` bounds the
rounds of `Publish`, and `result` gives the results of the sends. -/
def publishData (served : Nat) (result : Nat → Int) (cur : Nat) (asim : Spa1Asim) (buf : Memory)
    (t : Spa1AsimTable) : Except Stop (Memory × Spa1AsimTable) := do
  let msgSize := size_t (buf.load16 1).toInt16.toInt
  (access ⟨MAX_ASIM_MSG_SIZE, 5, msgSize⟩).toStop
  let (subscriptions, published) ←
    asim.subscriptions.Publish served ⟨buf 3, buf 4⟩ (buf.read 5 msgSize) result
  let t ← t.modify cur fun asim => { asim with subscriptions := subscriptions }
  if published then .ok (buf, t)
  else
    let (buf, msgSize) ← (packageCancelData (buf 3) (buf 4) buf MAX_ASIM_MSG_SIZE).toStop
    .ok (buf, { t with written := t.written ++ [(asim.i2cAddress, buf.read 0 msgSize.toNat)] })

/-- The turn of an ASIM in `checkMsgsFromAsim`. -/
def checkMsg (served : Nat) (result : Nat → Int) (cur : Nat) (buf : Memory) (t : Spa1AsimTable) :
    Except Stop (Memory × Spa1AsimTable) := do
  let node ← t.heap.read cur
  let asim := node.value
  if 0 < asim.recvFromQueue.getNumMsgs then
    let (queue, _, msg) := asim.recvFromQueue.getMsg MAX_ASIM_MSG_SIZE
    let buf := buf.store 0 msg
    let t ← t.modify cur fun asim => { asim with recvFromQueue := queue }
    if buf 0 = SPA1_ASIM_DATA then publishData served result cur asim buf t else .ok (buf, t)
  else .ok (buf, t)

/-- The loop of `checkMsgsFromAsim` from the ASIM at `cur` on. -/
def checkMsgs (served : Nat) (result : Nat → Int) : Nat → Option Nat → Memory → Spa1AsimTable →
    Except Stop Spa1AsimTable
  | _, none, _, t => .ok t
  | 0, some _, _, _ => .error .unfinished
  | rounds + 1, some cur, buf, t => do
      let (buf, t) ← checkMsg served result cur buf t
      let node ← t.heap.read cur
      checkMsgs served result rounds node.next buf t

def checkMsgsFromAsim (served : Nat) (result : Nat → Int) (buf : Memory) (t : Spa1AsimTable) :
    Except Stop Spa1AsimTable :=
  checkMsgs served result t.rounds t.head buf t

end Spa1AsimTable

/-! ### What is queued -/

/-- A message for an ASIM. -/
inductive Outgoing where
  | serreqst (msg : SDMSerreqst)
  | command (msg : SDMCommand)
  | subreqst (msg : SDMSubreqst)

namespace Outgoing

def source : Outgoing → SDMComponentID
  | serreqst msg => msg.source
  | command msg => msg.source
  | subreqst msg => msg.source

/-- The packet for the ASIM. -/
def packet : Outgoing → List UInt8
  | serreqst msg => Spa1Translator.packet SPA1_ASIM_COMMAND msg.command_id msg.data
  | command msg => Spa1Translator.packet SPA1_ASIM_COMMAND msg.command_id msg.data
  | subreqst msg => Spa1Translator.packet SPA1_ASIM_DATAREQ msg.msg_id []

/-- The buffer is decoded as the message. -/
def In (buf : Memory) : Outgoing → Prop
  | serreqst msg => ∃ cur header, SDMSerreqst.Unmarshal buf = .ok (.message cur header msg)
  | command msg => ∃ cur header, SDMCommand.Unmarshal buf = .ok (.message cur header msg)
  | subreqst msg => ∃ cur header, SDMSubreqst.Unmarshal buf = .ok (.message cur header msg)

end Outgoing

/-- What is queued for a packet: nothing, when it is too long. -/
def queued (packet : List UInt8) : List Spa1Msg :=
  if packet.length ≤ MAX_SPA1_MSG_SIZE then [⟨packet, packet.length⟩] else []

section Queued

variable {buf m : Memory} {type : UInt8} {id : SDMMessageID} {data : List UInt8}

/-- A decoded message has the name of its class. -/
theorem MessageKind.name_of_unmarshal {α : Type} {kind : MessageKind}
    {body : Header → Checked (Int × α)} {cur : Int} {header : Header} {msg : α}
    (done : kind.unmarshal buf body = .ok (.message cur header msg)) : buf 0 = kind.MsgName := by
  by_contra other
  rw [MessageKind.unmarshal, UnmarshalHeader_eq, if_neg other] at done
  cases done

theorem SDMSubreqst.name_of_unmarshal {cur : Int} {header : Header} {msg : SDMSubreqst}
    (done : SDMSubreqst.Unmarshal buf = .ok (.message cur header msg)) :
    buf 0 = SDMSubreqst.kind.MsgName := by
  by_contra other
  rw [SDMSubreqst.Unmarshal, UnmarshalHeader_eq, if_neg other] at done
  cases done

/-- A queue takes what a routine has put into the buffer. -/
theorem Spa1Queue.putMsg_package (q : Spa1Queue) (type : UInt8) (id : SDMMessageID)
    (data : List UInt8) (m : Memory) :
    ∃ m' size q' result, package type id data m MAX_SPA1_MSG_SIZE = .ok (m', size) ∧
      q.putMsg (m'.read 0 MAX_SPA1_MSG_SIZE) (.ofInt size) = .ok (q', result) ∧
      q'.msgs = q.msgs ++ queued (Spa1Translator.packet type id data) := by
  by_cases fits : 5 + data.length ≤ MAX_SPA1_MSG_SIZE
  · obtain ⟨m', packed, here⟩ := package_eq type id m fits
    have most : MAX_SPA1_MSG_SIZE = 256 := rfl
    have size : (UInt32.ofInt (5 + data.length : Nat)).toNat = 5 + data.length := by
      rw [UInt32.ofInt, UInt32.toNat_ofNat']
      omega
    obtain ⟨q', put, msgs⟩ := q.putMsg_eq (m'.read 0 MAX_SPA1_MSG_SIZE) (size.trans_le fits)
    refine ⟨m', _, q', 0, packed, put, ?_⟩
    have start : (m'.read 0 MAX_SPA1_MSG_SIZE).take (5 + data.length) =
        Spa1Translator.packet type id data := by
      obtain ⟨rest, split⟩ := Nat.exists_eq_add_of_le fits
      rw [Has, length_packet] at here
      rw [split, read_add, List.take_left' length_read]
      exact here
    rw [msgs, size, start, queued, length_packet, if_pos fits]
  · refine ⟨m, -1, q, -1, package_long (Nat.lt_of_not_le fits), putMsg_error, ?_⟩
    rw [queued, length_packet, if_neg fits, List.append_nil]

theorem Outgoing.translate_eq {msg : Outgoing} (here : msg.In buf) : ∃ type id data,
    msg.packet = Spa1Translator.packet type id data ∧
      ∀ m size, translateToSpa1 buf m size = package type id data m size := by
  cases msg with
  | serreqst msg =>
      obtain ⟨cur, header, done⟩ := here
      have name : buf 0 = 'y'.toUInt8 := MessageKind.name_of_unmarshal done
      refine ⟨_, _, _, rfl, fun m size => ?_⟩
      rw [translateToSpa1, if_pos name, translateSerreqst, done]
      rfl
  | command msg =>
      obtain ⟨cur, header, done⟩ := here
      have name : buf 0 = 'z'.toUInt8 := MessageKind.name_of_unmarshal done
      refine ⟨_, _, _, rfl, fun m size => ?_⟩
      rw [translateToSpa1, name, if_neg (by decide), if_pos rfl, translateCommand, done]
      rfl
  | subreqst msg =>
      obtain ⟨cur, header, done⟩ := here
      have name : buf 0 = 'u'.toUInt8 := SDMSubreqst.name_of_unmarshal done
      refine ⟨_, _, _, rfl, fun m size => ?_⟩
      rw [translateToSpa1, name, if_neg (by decide), if_neg (by decide), if_pos rfl,
        translateSubreqst, done]
      rfl

end Queued

namespace Spa1AsimTable

variable {t : Spa1AsimTable} {front back : List (Nat × Spa1Asim)} {a : Nat} {v : Spa1Asim}
  {buf : Memory}

/-- A packet is queued for its ASIM. -/
theorem enqueue_package (wf : t.WellFormed (front ++ (a, v) :: back)) (type : UInt8)
    (id : SDMMessageID) (data : List UInt8) (m : Memory) : ∃ m' size t' queue,
      package type id data m MAX_SPA1_MSG_SIZE = .ok (m', size) ∧ t.enqueue a m' size = .ok t' ∧
      queue.msgs = v.sendToQueue.msgs ++ queued (packet type id data) ∧
      t'.WellFormed (front ++ (a, { v with sendToQueue := queue }) :: back) := by
  obtain ⟨m', size, queue, result, packed, put, msgs⟩ :=
    v.sendToQueue.putMsg_package type id data m
  obtain ⟨t', done, -, -, wf'⟩ := wf.modify
    (f := fun asim => { asim with sendToQueue := queue }) rfl
  obtain ⟨next, here, -⟩ := wf.next
  refine ⟨m', size, t', queue, packed, ?_, msgs, wf'⟩
  rw [enqueue, here]
  simp only [bind, Except.bind, put]
  exact done

/-- Behind the checks of a handler. -/
theorem forAsim_eq {source : SDMComponentID} {handle : Nat → Except Stop Spa1AsimTable}
    (destined : source.sensorID &&& 0x0ff ≠ 1)
    (found : t.getAsimBySensorId source.sensorID = .ok (some a)) :
    t.forAsim source handle = handle a := by
  rw [forAsim, if_pos destined, found]
  rfl

/-- **What is queued for an ASIM** is the packet of the message, or nothing. -/
theorem sdmListener_queues (wf : t.WellFormed (front ++ (a, v) :: back)) {msg : Outgoing}
    (here : msg.In buf) (destined : msg.source.sensorID &&& 0x0ff ≠ 1)
    (found : t.getAsimBySensorId msg.source.sensorID = .ok (some a))
    {l : List (Nat × SubscriptionManager.Subscription)}
    (holds : v.subscriptions.heap.Holds v.subscriptions.sub_list l) {rounds new : Nat}
    (enough : l.length < rounds) (free : v.subscriptions.heap new = none) (msgBuf : Memory) :
    ∃ t' w, t.sdmListener rounds new msgBuf buf = .ok t' ∧
      t'.WellFormed (front ++ (a, w) :: back) ∧
      w.sendToQueue.msgs = v.sendToQueue.msgs ++ queued msg.packet := by
  obtain ⟨type, id, data, same, translated⟩ := Outgoing.translate_eq here
  rw [same]
  cases msg with
  | serreqst msg =>
      obtain ⟨cur, header, done⟩ := here
      have name : buf 0 = 'y'.toUInt8 := MessageKind.name_of_unmarshal done
      obtain ⟨m', size, t', queue, packed, put, msgs, wf'⟩ := enqueue_package wf type id data msgBuf
      refine ⟨t', _, ?_, wf', msgs⟩
      rw [sdmListener, if_pos name, handleSerreqstMsg, done]
      refine (forAsim_eq destined found).trans ?_
      rw [translated, packed]
      exact put
  | command msg =>
      obtain ⟨cur, header, done⟩ := here
      have name : buf 0 = 'z'.toUInt8 := MessageKind.name_of_unmarshal done
      obtain ⟨m', size, t', queue, packed, put, msgs, wf'⟩ := enqueue_package wf type id data msgBuf
      refine ⟨t', _, ?_, wf', msgs⟩
      rw [sdmListener, name, if_neg (by decide), if_pos rfl, handleCommandMsg, done]
      refine (forAsim_eq destined found).trans ?_
      rw [translated, packed]
      exact put
  | subreqst msg =>
      obtain ⟨cur, header, done⟩ := here
      have name : buf 0 = 'u'.toUInt8 := SDMSubreqst.name_of_unmarshal done
      -- The subscription is added before the packet is queued.
      obtain ⟨subscriptions, added, -⟩ := SubscriptionManager.add_holds
        ⟨msg.destination, msg.msg_id, msg.fault_id, false⟩ msg.source holds free enough
      obtain ⟨t₁, subscribed, -, -, wf₁⟩ := wf.modify
        (f := fun asim => { asim with subscriptions := subscriptions }) rfl
      obtain ⟨m', size, t', queue, packed, put, msgs, wf'⟩ :=
        enqueue_package wf₁ type id data msgBuf
      obtain ⟨next, there, -⟩ := wf.next
      refine ⟨t', _, ?_, wf', msgs⟩
      rw [sdmListener, name, if_neg (by decide), if_neg (by decide), if_pos rfl,
        handleSubreqstMsg, done]
      refine (forAsim_eq destined found).trans ?_
      rw [translated, packed, there]
      simp only [bind, Except.bind, Lib.Checked.toStop, SubscriptionManager.AddSubscription, added,
        subscribed]
      exact put

/-! ### What is published -/

variable {served : Nat} {result : Nat → Int} {w : Spa1Asim} {id : SDMMessageID}
  {data : List UInt8} {msg : Spa1Msg} {rest : List Spa1Msg}

theorem checkMsg_nil (wf : t.WellFormed (front ++ (a, v) :: back))
    (empty : v.recvFromQueue.msgs = []) : checkMsg served result a buf t = .ok (buf, t) := by
  obtain ⟨next, here, -⟩ := wf.next
  have none : ¬ 0 < v.recvFromQueue.getNumMsgs := by
    rw [Spa1Queue.getNumMsgs, v.recvFromQueue.count, empty]
    decide
  rw [checkMsg, here]
  exact if_neg none

/-- An ASIM with a message in its queue. -/
theorem checkMsg_cons (wf : t.WellFormed (front ++ (a, v) :: back))
    (first : v.recvFromQueue.msgs = msg :: rest) (fits : msg.msgSize ≤ MAX_ASIM_MSG_SIZE) :
    ∃ t' queue, t'.WellFormed (front ++ (a, { v with recvFromQueue := queue }) :: back) ∧
      checkMsg served result a buf t =
        if buf.store 0 (msg.msg.take msg.msgSize) 0 = SPA1_ASIM_DATA then
          publishData served result a v (buf.store 0 (msg.msg.take msg.msgSize)) t'
        else .ok (buf.store 0 (msg.msg.take msg.msgSize), t') := by
  obtain ⟨next, here, -⟩ := wf.next
  have some : 0 < v.recvFromQueue.getNumMsgs := by
    rw [Spa1Queue.getNumMsgs, v.recvFromQueue.count, first, List.length_cons]
    omega
  obtain ⟨-, got⟩ := Spa1Queue.getMsg_cons first fits
  obtain ⟨t', done, -, -, wf'⟩ := wf.modify
    (f := fun asim => { asim with
      recvFromQueue := (v.recvFromQueue.getMsg MAX_ASIM_MSG_SIZE).1 }) rfl
  refine ⟨t', _, wf', ?_⟩
  rw [checkMsg, here]
  simp only [bind, Except.bind, if_pos some, got, done]

/-- What a data message makes of the buffer. -/
theorem load_packet (here : buf.Has 0 (packet SPA1_ASIM_DATA id data))
    (fits : 5 + data.length ≤ MAX_SPA1_MSG_SIZE) :
    size_t (buf.load16 1).toInt16.toInt = 2 + data.length ∧ (⟨buf 3, buf 4⟩ : SDMMessageID) = id ∧
      buf.read 5 (2 + data.length) = data ++ buf.read (5 + data.length) 2 := by
  have most : MAX_SPA1_MSG_SIZE = 256 := rfl
  obtain ⟨-, behind⟩ := has_cons.mp here
  obtain ⟨length, behind⟩ := has_append.mp behind
  obtain ⟨ids, payload⟩ := has_append.mp behind
  obtain ⟨first, ids⟩ := has_cons.mp ids
  have interface : buf 3 = id.interface := first
  have message : buf 4 = id.message := (has_cons.mp ids).1
  refine ⟨?_, by rw [interface, message], ?_⟩
  · rw [length.load16, UInt16.toInt16_ofNat', Int16.toInt_ofNat_of_lt (by omega), size_t]
    omega
  · have bytes : buf.read 5 data.length = data := payload
    rw [Nat.add_comm 2, read_add, bytes]

/-- `Publish` is given the data and what stands behind it in the buffer, when that is inside. -/
theorem publishData_eq (here : buf.Has 0 (packet SPA1_ASIM_DATA id data))
    (fits : 5 + data.length ≤ MAX_SPA1_MSG_SIZE) :
    publishData served result a v buf t =
      if 7 + data.length ≤ MAX_ASIM_MSG_SIZE then
        (v.subscriptions.Publish served id (data ++ buf.read (5 + data.length) 2) result).bind
          fun r => (t.modify a fun asim => { asim with subscriptions := r.1 }).bind fun t =>
            if r.2 then .ok (buf, t)
            else (packageCancelData id.interface id.message buf MAX_ASIM_MSG_SIZE).toStop.bind
              fun s => .ok (s.1, { t with
                written := t.written ++ [(v.i2cAddress, s.1.read 0 s.2.toNat)] })
      else .error .undefined := by
  have most : MAX_ASIM_MSG_SIZE = 256 := rfl
  obtain ⟨size, ids, bytes⟩ := load_packet here fits
  rw [publishData]
  simp only [size, bytes, ids]
  split
  case isTrue room =>
    have inside : access ⟨MAX_ASIM_MSG_SIZE, 5, 2 + data.length⟩ = .ok () :=
      access_eq_ok.mpr (show 5 + (2 + data.length) ≤ MAX_ASIM_MSG_SIZE by omega)
    rw [inside, ← ids]
    rfl
  case isFalse long =>
    have outside : ¬ (⟨MAX_ASIM_MSG_SIZE, 5, 2 + data.length⟩ : Access).Inside :=
      show ¬ 5 + (2 + data.length) ≤ MAX_ASIM_MSG_SIZE by omega
    rw [access, dif_neg outside]
    rfl

end Spa1AsimTable

namespace Spa1Asim

/-- What an ASIM has sent, when it is a data packet that is first in the queue. -/
inductive Arrived (asim : Spa1Asim) : Option (SDMMessageID × List UInt8) → Prop
  | nothing (empty : asim.recvFromQueue.msgs = []) : asim.Arrived none
  | other {msg : Spa1Msg} {rest : List Spa1Msg} {type : UInt8} {bytes : List UInt8}
      (first : asim.recvFromQueue.msgs = msg :: rest) (fits : msg.msgSize ≤ MAX_ASIM_MSG_SIZE)
      (begins : msg.msg.take msg.msgSize = type :: bytes) (not : type ≠ SPA1_ASIM_DATA) :
      asim.Arrived none
  | data {id : SDMMessageID} {data : List UInt8} {rest : List Spa1Msg}
      (first : asim.recvFromQueue.msgs =
        ⟨packet SPA1_ASIM_DATA id data, 5 + data.length⟩ :: rest)
      (fits : 5 + data.length ≤ MAX_SPA1_MSG_SIZE) : asim.Arrived (some (id, data))

/-- The data went once to each subscriber of the message. -/
def Delivers (v w : Spa1Asim) (id : SDMMessageID) (data : List UInt8) : Prop :=
  ∀ l, v.subscriptions.heap.Holds v.subscriptions.sub_list l →
    w.subscriptions.sent = v.subscriptions.sent ++
      (l.filter fun c => SubscriptionManager.isDue id c.2).map
        fun c => (c.2.component_id, v.subscriptions.message id data)

/-- The message of a data packet has no subscriber, and there are two bytes behind the packet. -/
def Quiet (v : Spa1Asim) : Prop :=
  ∀ id data, v.Arrived (some (id, data)) → 7 + data.length ≤ MAX_ASIM_MSG_SIZE ∧
    ∀ l, v.subscriptions.heap.Holds v.subscriptions.sub_list l →
      ∀ c ∈ l, SubscriptionManager.isDue id c.2 = false

/-- What a turn sends: the data and the two bytes behind it. -/
def Sends (v w : Spa1Asim) : Prop :=
  ∀ id data, v.Arrived (some (id, data)) → 7 + data.length ≤ MAX_ASIM_MSG_SIZE ∧
    ∃ behind, behind.length = 2 ∧ v.Delivers w id (data ++ behind)

/-- A queue that begins with a packet or is empty, and subscriptions for which there are enough
rounds. -/
structure Prepared (served : Nat) (asim : Spa1Asim) : Prop where
  arrived : ∃ first, asim.Arrived first
  subscribers : ∃ l, asim.subscriptions.heap.Holds asim.subscriptions.sub_list l ∧
    l.length ≤ served

theorem packet_inj {type : UInt8} {id id' : SDMMessageID} {data data' : List UInt8}
    (same : packet type id data = packet type id' data') : id = id' ∧ data = data' := by
  obtain ⟨i, m⟩ := id
  obtain ⟨i', m'⟩ := id'
  simp only [packet, SDMMessageID.marshal, bytes16, List.cons_append, List.nil_append,
    List.cons.injEq, true_and] at same
  exact ⟨by rw [same.2.2.1, same.2.2.2.1], same.2.2.2.2⟩

/-- A queue begins with one packet. -/
theorem Arrived.unique {v : Spa1Asim} {first first' : Option (SDMMessageID × List UInt8)}
    (arrived : v.Arrived first) (arrived' : v.Arrived first') : first = first' := by
  cases arrived with
  | nothing empty =>
      cases arrived' with
      | nothing _ => rfl
      | other _ _ _ _ => rfl
      | data there _ =>
          rw [empty] at there
          cases there
  | other there _ begins not =>
      cases arrived' with
      | nothing _ => rfl
      | other _ _ _ _ => rfl
      | data there' _ =>
          rw [there] at there'
          cases there'
          rw [take_packet] at begins
          cases begins
          exact absurd rfl not
  | data there _ =>
      cases arrived' with
      | nothing empty =>
          rw [empty] at there
          cases there
      | other there' _ begins not =>
          rw [there] at there'
          cases there'
          rw [take_packet] at begins
          cases begins
          exact absurd rfl not
      | data there' _ =>
          rw [there] at there'
          obtain ⟨rfl, rfl⟩ := packet_inj (Spa1Msg.mk.inj (List.cons.inj there').1).1
          rfl

/-- Two bytes more are not the data, so that nothing may be sent. -/
theorem Sends.quiet {v w : Spa1Asim} (sends : v.Sends w)
    (delivers : ∀ id data, v.Arrived (some (id, data)) → v.Delivers w id data) : v.Quiet := by
  intro id data arrived
  obtain ⟨room, behind, two, sent⟩ := sends id data arrived
  refine ⟨room, fun l holds c mem => Bool.eq_false_iff.mpr fun due => ?_⟩
  have same := (sent l holds).symm.trans (delivers id data arrived l holds)
  have first := List.map_inj_left.mp (List.append_cancel_left same) c
    (List.mem_filter.mpr ⟨mem, due⟩)
  have longer := congrArg List.length (congrArg SDMData.msg (Prod.mk.inj first).2)
  simp only [SubscriptionManager.message, List.length_append, two] at longer
  omega

theorem Sends.delivers {v w : Spa1Asim} (sends : v.Sends w) (quiet : v.Quiet) (id : SDMMessageID)
    (data : List UInt8) (arrived : v.Arrived (some (id, data))) : v.Delivers w id data := by
  intro l holds
  obtain ⟨-, behind, -, sent⟩ := sends id data arrived
  have nobody : (l.filter fun c => SubscriptionManager.isDue id c.2) = [] :=
    List.filter_eq_nil_iff.mpr fun c mem =>
      Bool.eq_false_iff.mp ((quiet id data arrived).2 l holds c mem)
  rw [sent l holds, nobody]
  rfl

end Spa1Asim

namespace Spa1AsimTable

open Spa1Asim

variable {t t' : Spa1AsimTable} {front back : List (Nat × Spa1Asim)} {a served : Nat}
  {v : Spa1Asim} {buf buf' : Memory} {result : Nat → Int} {id : SDMMessageID} {data : List UInt8}

/-- The turn of an ASIM without a data packet. -/
theorem checkMsg_none (wf : t.WellFormed (front ++ (a, v) :: back)) (arrived : v.Arrived none)
    (served : Nat) (result : Nat → Int) (buf : Memory) :
    ∃ (buf' : Memory) (t' : Spa1AsimTable) (w : Spa1Asim),
      checkMsg served result a buf t = .ok (buf', t') ∧
      t'.WellFormed (front ++ (a, w) :: back) := by
  cases arrived with
  | nothing empty => exact ⟨buf, t, v, checkMsg_nil wf empty, wf⟩
  | @other msg rest type bytes first fits begins not =>
      obtain ⟨t', queue, wf', turn⟩ := checkMsg_cons (t := t) wf first fits
      have type : buf.store 0 (type :: bytes) 0 ≠ SPA1_ASIM_DATA :=
        (has_cons.mp (has_store (m := buf))).1.trans_ne not
      rw [begins, if_neg type] at turn
      exact ⟨_, t', _, turn, wf'⟩

/-- The turn of an ASIM with a data packet. -/
theorem checkMsg_data (wf : t.WellFormed (front ++ (a, v) :: back))
    (arrived : v.Arrived (some (id, data))) (served : Nat) (result : Nat → Int) (buf : Memory) :
    ∃ (t' : Spa1AsimTable) (queue : Spa1Queue) (behind : List UInt8) (buf' : Memory),
      t'.WellFormed (front ++ (a, { v with recvFromQueue := queue }) :: back) ∧
      behind.length = 2 ∧ checkMsg served result a buf t =
        if 7 + data.length ≤ MAX_ASIM_MSG_SIZE then
          (v.subscriptions.Publish served id (data ++ behind) result).bind fun r =>
            (t'.modify a fun asim => { asim with subscriptions := r.1 }).bind fun t =>
              if r.2 then .ok (buf', t)
              else (packageCancelData id.interface id.message buf' MAX_ASIM_MSG_SIZE).toStop.bind
                fun s => .ok (s.1, { t with
                  written := t.written ++ [(v.i2cAddress, s.1.read 0 s.2.toNat)] })
        else .error .undefined := by
  cases arrived with
  | data first fits =>
      obtain ⟨t', queue, wf', turn⟩ := checkMsg_cons (t := t) wf first fits
      rw [take_packet] at turn
      have here : (buf.store 0 (packet SPA1_ASIM_DATA id data)).Has 0
        (packet SPA1_ASIM_DATA id data) := has_store
      refine ⟨t', queue, (buf.store 0 (packet SPA1_ASIM_DATA id data)).read (5 + data.length) 2,
        buf.store 0 (packet SPA1_ASIM_DATA id data), wf', length_read, ?_⟩
      rw [turn, if_pos (has_cons.mp here).1, publishData_eq here fits]

/-- **What a turn sends**, when it comes to its end. -/
theorem checkMsg_sends (wf : t.WellFormed (front ++ (a, v) :: back))
    (prepared : v.Prepared served) (done : checkMsg served result a buf t = .ok (buf', t')) :
    ∃ w, t'.WellFormed (front ++ (a, w) :: back) ∧ v.Sends w := by
  obtain ⟨⟨first, arrived⟩, l, holds, enough⟩ := prepared
  cases first with
  | none =>
      obtain ⟨buf'', t'', w, turn, wf''⟩ := checkMsg_none wf arrived served result buf
      rw [turn] at done
      cases done
      exact ⟨w, wf'', fun id data here => nomatch here.unique arrived⟩
  | some packet =>
      obtain ⟨id, data⟩ := packet
      obtain ⟨t₁, queue, behind, buf₁, wf₁, two, turn⟩ := checkMsg_data wf arrived served
        result buf
      rw [turn] at done
      split at done
      case isFalse => cases done
      case isTrue room =>
        cases published : v.subscriptions.Publish served id (data ++ behind) result with
        | error stop =>
            rw [published] at done
            cases done
        | ok r =>
            obtain ⟨t₂, modified, -, -, wf₂⟩ := wf₁.modify
              (f := fun asim => { asim with subscriptions := r.1 }) rfl
            have sends : v.Sends { v with recvFromQueue := queue, subscriptions := r.1 } := by
              intro id' data' arrived'
              cases arrived.unique arrived'
              refine ⟨room, behind, two, fun l' holds' => ?_⟩
              exact SubscriptionManager.publish_sent holds' published
            rw [published] at done
            simp only [Except.bind, modified] at done
            refine ⟨_, ?_, sends⟩
            split at done
            · cases done
              exact wf₂
            · split at done
              · cases done
              · cases done
                exact wf₂.congr ⟨rfl, rfl, rfl, rfl, rfl⟩ wf₂.holds rfl

/-- A turn comes to its end when there is nobody to send to. -/
theorem checkMsg_quiet (wf : t.WellFormed (front ++ (a, v) :: back))
    (prepared : v.Prepared served) (quiet : v.Quiet) (result : Nat → Int) (buf : Memory) :
    ∃ buf' t', checkMsg served result a buf t = .ok (buf', t') := by
  obtain ⟨⟨first, arrived⟩, l, holds, enough⟩ := prepared
  cases first with
  | none =>
      obtain ⟨buf', t', w, turn, -⟩ := checkMsg_none wf arrived served result buf
      exact ⟨buf', t', turn⟩
  | some packet =>
      obtain ⟨id, data⟩ := packet
      obtain ⟨room, nobody⟩ := quiet id data arrived
      obtain ⟨t₁, queue, behind, buf₁, wf₁, two, turn⟩ := checkMsg_data wf arrived served
        result buf
      have fits : (data ++ behind).length ≤ DATA_SIZE := by
        have most : MAX_ASIM_MSG_SIZE = 256 := rfl
        rw [List.length_append, two]
        show data.length + 2 ≤ 24288 - 29
        omega
      obtain ⟨unsent, published⟩ : ∃ unsent,
          v.subscriptions.Publish served id (data ++ behind) result = .ok (unsent, false) :=
        SubscriptionManager.publish_quiet fits holds (nobody l holds) enough
      obtain ⟨t₂, modified, -, -, -⟩ := wf₁.modify
        (f := fun asim => { asim with subscriptions := unsent }) rfl
      obtain ⟨buf₂, cancel, -⟩ := package_eq SPA1_ASIM_CANCEL_DATA ⟨id.interface, id.message⟩ buf₁
        (show 5 + ([] : List UInt8).length ≤ MAX_ASIM_MSG_SIZE by decide)
      rw [turn, if_pos room, published]
      simp only [Except.bind, modified, packageCancelData, cancel]
      exact ⟨_, _, rfl⟩

/-! ### All turns -/

variable {rest : List (Nat × Spa1Asim)} {cur : Option Nat} {rounds : Nat}

/-- The loop, when the turn of the first ASIM has come to its end. -/
theorem checkMsgs_cons {w : Spa1Asim} {t₁ : Spa1AsimTable}
    (turn : checkMsg served result a buf t = .ok (buf', t₁))
    (wf : t₁.WellFormed (front ++ (a, w) :: back)) (rounds : Nat) :
    ∃ next, t₁.heap.Chain next back none ∧
      checkMsgs served result (rounds + 1) (some a) buf t =
        checkMsgs served result rounds next buf' t₁ := by
  obtain ⟨next, here, chain⟩ := wf.next
  refine ⟨next, chain, ?_⟩
  rw [checkMsgs, turn]
  simp only [bind, Except.bind, here]

/-- **What the loop sends**, when it comes to its end. -/
theorem checkMsgs_sends (front : List (Nat × Spa1Asim)) (wf : t.WellFormed (front ++ rest))
    (chain : t.heap.Chain cur rest none) (prepared : ∀ c ∈ rest, c.2.Prepared served)
    (done : checkMsgs served result rounds cur buf t = .ok t') :
    ∃ rest', t'.WellFormed (front ++ rest') ∧
      List.Forall₂ (fun c d => c.1 = d.1 ∧ c.2.Sends d.2) rest rest' := by
  induction rest generalizing front cur buf t rounds with
  | nil =>
      obtain rfl : cur = none := chain
      have same : t = t' := by
        cases rounds <;> cases done <;> rfl
      exact ⟨[], same ▸ wf, .nil⟩
  | cons c back ih =>
      obtain ⟨a, v⟩ := c
      obtain ⟨rfl, -⟩ := chain
      cases rounds with
      | zero => cases done
      | succ rounds =>
          cases turn : checkMsg served result a buf t with
          | error stop =>
              rw [checkMsgs, turn] at done
              cases done
          | ok r =>
              obtain ⟨buf', t₁⟩ := r
              obtain ⟨w, wf₁, sends⟩ := checkMsg_sends wf (prepared _ List.mem_cons_self) turn
              obtain ⟨next, chain, onward⟩ := checkMsgs_cons turn wf₁ rounds
              rw [onward] at done
              obtain ⟨rest', wf', others⟩ := ih (front ++ [(a, w)])
                (by rwa [List.append_assoc]) chain
                (fun d mem => prepared d (List.mem_cons_of_mem _ mem)) done
              refine ⟨(a, w) :: rest', ?_, .cons ⟨rfl, sends⟩ others⟩
              rwa [List.append_assoc] at wf'

/-- The loop comes to its end when there is nobody to send to. -/
theorem checkMsgs_quiet (front : List (Nat × Spa1Asim)) (wf : t.WellFormed (front ++ rest))
    (chain : t.heap.Chain cur rest none) (enough : rest.length ≤ rounds)
    (prepared : ∀ c ∈ rest, c.2.Prepared served) (quiet : ∀ c ∈ rest, c.2.Quiet)
    (result : Nat → Int) (buf : Memory) :
    ∃ t', checkMsgs served result rounds cur buf t = .ok t' := by
  induction rest generalizing front cur buf t rounds with
  | nil =>
      obtain rfl : cur = none := chain
      refine ⟨t, ?_⟩
      cases rounds <;> rfl
  | cons c back ih =>
      obtain ⟨a, v⟩ := c
      obtain ⟨rfl, -⟩ := chain
      obtain ⟨rounds, rfl⟩ := Nat.exists_eq_succ_of_ne_zero
        (Nat.ne_of_gt (Nat.zero_lt_of_lt enough))
      have first := prepared _ List.mem_cons_self
      obtain ⟨buf', t₁, turn⟩ := checkMsg_quiet wf first (quiet _ List.mem_cons_self) result buf
      obtain ⟨w, wf₁, -⟩ := checkMsg_sends wf first turn
      obtain ⟨next, chain, onward⟩ := checkMsgs_cons turn wf₁ rounds
      rw [onward]
      exact ih (front ++ [(a, w)]) (by rwa [List.append_assoc]) chain
        (Nat.le_of_succ_le_succ enough) (fun d mem => prepared d (List.mem_cons_of_mem _ mem))
        (fun d mem => quiet d (List.mem_cons_of_mem _ mem)) buf'

/-! ### Both directions -/

variable {asims : List (Nat × Spa1Asim)}

/-- For a message that is destined for an ASIM of the table, its packet is queued, or nothing. -/
def QueuesPackets (t : Spa1AsimTable) (asims : List (Nat × Spa1Asim)) (served : Nat) : Prop :=
  ∀ (front back : List (Nat × Spa1Asim)) (a : Nat) (v : Spa1Asim) (buf msgBuf : Memory)
    (msg : Outgoing) (new : Nat), asims = front ++ (a, v) :: back → msg.In buf →
    msg.source.sensorID &&& 0x0ff ≠ 1 →
    t.getAsimBySensorId msg.source.sensorID = .ok (some a) → v.subscriptions.heap new = none →
    ∃ t' w, t.sdmListener (served + 1) new msgBuf buf = .ok t' ∧
      t'.WellFormed (front ++ (a, w) :: back) ∧
      w.sendToQueue.msgs = v.sendToQueue.msgs ++ queued msg.packet

/-- `checkMsgsFromAsim` comes to its end, and has published the data of each data packet. -/
def PublishesData (t : Spa1AsimTable) (asims : List (Nat × Spa1Asim)) (served : Nat)
    (result : Nat → Int) (buf : Memory) : Prop :=
  ∃ t' asims', t.checkMsgsFromAsim served result buf = .ok t' ∧ t'.WellFormed asims' ∧
    List.Forall₂ (fun c d => c.1 = d.1 ∧ ∀ id data, c.2.Arrived (some (id, data)) →
      c.2.Delivers d.2 id data) asims asims'

theorem queuesPackets (wf : t.WellFormed asims) (prepared : ∀ c ∈ asims, c.2.Prepared served) :
    t.QueuesPackets asims served := by
  rintro front back a v buf msgBuf msg new rfl here destined found free
  obtain ⟨-, l, holds, enough⟩ := prepared (a, v) (List.mem_append_right _ List.mem_cons_self)
  exact sdmListener_queues wf here destined found holds (Nat.lt_succ_of_le enough) free msgBuf

theorem publishesData_iff (wf : t.WellFormed asims) (prepared : ∀ c ∈ asims, c.2.Prepared served) :
    t.PublishesData asims served result buf ↔ ∀ c ∈ asims, c.2.Quiet := by
  constructor
  · rintro ⟨t', asims', done, wf', delivers⟩
    obtain ⟨rest, wf'', sends⟩ := checkMsgs_sends [] wf wf.holds.chain prepared done
    rw [List.nil_append] at wf''
    obtain rfl := wf'.holds.unique wf''.holds
    have both : List.Forall₂ (fun c _ => c.2.Quiet ∧ True) asims asims' :=
      List.Forall₂.mp (fun c d sent delivered => ⟨sent.2.quiet delivered.2, trivial⟩) sends delivers
    exact ((List.forall₂_and_left _ _).mp both).1
  · intro quiet
    have enough : asims.length ≤ t.rounds := by
      rw [wf.rounds_eq]
      omega
    obtain ⟨t', done⟩ := checkMsgs_quiet [] wf wf.holds.chain enough prepared quiet result buf
    obtain ⟨asims', wf', sends⟩ := checkMsgs_sends [] wf wf.holds.chain prepared done
    exact ⟨t', asims', done, wf', ((List.forall₂_and_left _ _).mpr ⟨quiet, sends⟩).imp
      fun c d both => ⟨both.2.1, both.2.2.delivers both.1⟩⟩

/-- **Translation is faithful in both directions exactly when no data that has arrived has a
subscriber**, and is short enough for the two bytes that are read behind it. What is queued for an
ASIM is always right. -/
theorem translation_iff (wf : t.WellFormed asims) (prepared : ∀ c ∈ asims, c.2.Prepared served)
    (result : Nat → Int) (buf : Memory) :
    (t.QueuesPackets asims served ∧ t.PublishesData asims served result buf) ↔
      ∀ c ∈ asims, c.2.Quiet := by
  rw [publishesData_iff wf prepared]
  exact and_iff_right (queuesPackets wf prepared)

/-! ### One ASIM -/

/-- An ASIM that has sent a byte for the message (1, 7), with these subscriptions. -/
def sender (subscriptions : SubscriptionManager) : Spa1Asim :=
  { Spa1Asim.new 0x12 7 .empty ⟨2, 2, .RECVD_ID⟩ with
    recvFromQueue := ⟨[⟨packet SPA1_ASIM_DATA ⟨1, 7⟩ [5], 6⟩], 1, rfl⟩
    subscriptions }

/-- A table with one ASIM. -/
def oneAsim (asim : Spa1Asim) : Spa1AsimTable :=
  { Spa1AsimTable.new with
    head := some 0
    tail := some 0
    addressSpace := Function.update Spa1AsimTable.new.addressSpace asim.i2cAddress true
    asimCount := 1
    heap := Function.update (fun _ => none) 0 (some ⟨asim, none⟩) }

theorem wellFormed_oneAsim (asim : Spa1Asim) : (oneAsim asim).WellFormed [(0, asim)] where
  holds := ⟨⟨rfl, none, rfl, rfl⟩, List.nodup_singleton _⟩
  tail := by
    rintro c ⟨⟩
    rfl
  count := rfl
  nodup := List.nodup_singleton _
  used address low high := used_append 0 asim (wellFormed_new.used address low high)

theorem arrived_sender (subscriptions : SubscriptionManager) :
    (sender subscriptions).Arrived (some (⟨1, 7⟩, [5])) :=
  .data rfl (by decide)

theorem prepared_sender {subscriptions : SubscriptionManager}
    {l : List (Nat × SubscriptionManager.Subscription)}
    (holds : subscriptions.heap.Holds subscriptions.sub_list l) :
    ∀ c ∈ [(0, sender subscriptions)], c.2.Prepared l.length := by
  intro c mem
  cases List.mem_singleton.mp mem
  exact ⟨⟨_, arrived_sender _⟩, l, holds, le_rfl⟩

/-- Without a subscriber. -/
theorem translation_unheard :
    let asim := sender (Spa1Asim.new 0x12 7 .empty ⟨2, 2, .RECVD_ID⟩).subscriptions
    (oneAsim asim).QueuesPackets [(0, asim)] 0 ∧
      (oneAsim asim).PublishesData [(0, asim)] 0 (fun _ => 0) (fun _ => 0) := by
  refine (translation_iff (wellFormed_oneAsim _) (prepared_sender (Heap.holds_nil.mpr rfl)) _
    _).mpr fun c mem id data arrived => ?_
  cases List.mem_singleton.mp mem
  cases (arrived_sender _).unique arrived
  refine ⟨by decide, fun l holds d there => ?_⟩
  rw [(holds.unique (Heap.holds_nil.mpr rfl) : l = [])] at there
  cases there

/-- A subscriber of the message gets three bytes for the one that was sent. -/
theorem not_translation_faithful : ¬ ∀ (t : Spa1AsimTable) (asims : List (Nat × Spa1Asim))
    (served : Nat) (result : Nat → Int) (buf : Memory), t.WellFormed asims →
    (∀ c ∈ asims, c.2.Prepared served) →
      t.QueuesPackets asims served ∧ t.PublishesData asims served result buf := by
  intro faithful
  have holds := SubscriptionManager.holds_single false
  obtain ⟨-, published⟩ := faithful (oneAsim (sender (.single false))) _ _ (fun _ => 0)
    (fun _ => 0) (wellFormed_oneAsim _) (prepared_sender holds)
  have quiet := (publishesData_iff (wellFormed_oneAsim _) (prepared_sender holds)).mp published _
    List.mem_cons_self _ _ (arrived_sender _)
  exact absurd (quiet.2 _ holds _ List.mem_cons_self) (by decide)

end Spa1AsimTable

end Sdm
