import Mathlib.Data.List.Basic
import Sdm.Lib.Fifo
import Sdm.Lib.Machine
import Sdm.Message.Marshalling

/-!
The hand-off of messages from the listeners to `ChildFunctionCallProcess`.

A listener pushes the id of the sender, the size and the message into a stream socket,
and one byte into the alert pipe. The process waits for an alert and collects the three
parts, each in a loop around `TCPrecv`, which may return any part of what it was asked
for. Only the first loop computes the place of the rest in bytes: the others add
`BytesSoFar` to a pointer to a larger object.

* `hand_off_lossless_iff`: as long as the size and the message come in one piece each, the
  process dispatches what was pushed, in its order and once, and writes only into its
  buffers; after the first piece that is short it does not.
* `size_in_two_pieces`: a size of which three bytes come first.
-/

namespace Sdm

open Sdm.Lib

/-- The handlers that `ChildFunctionCallProcess` calls. -/
inductive Handler where
  | Consume | Cancel | ReqReg | Service | Serreqst | ReqxTEDS | Command | Ready | TAT
  | Search | VarReq | TaskError
  deriving DecidableEq, Repr

/-- The handler of a command byte; no handler for an invalid command. -/
def handlerFor (command : UInt8) : Option Handler :=
  if command = 'l'.toUInt8 then some .Consume
  else if command = 'm'.toUInt8 then some .Cancel
  else if command = 'n'.toUInt8 then some .ReqReg
  else if command = 'x'.toUInt8 then some .Service
  else if command = 'y'.toUInt8 then some .Serreqst
  else if command = 'A'.toUInt8 then some .ReqxTEDS
  else if command = 'z'.toUInt8 then some .Command
  else if command = 'D'.toUInt8 then some .Ready
  else if command = 'H'.toUInt8 then some .TAT
  else if command = 'I'.toUInt8 then some .Search
  else if command = 'N'.toUInt8 then some .VarReq
  else if command = 'T'.toUInt8 then some .TaskError
  else none

/-- A message as it is pushed, and as it is dispatched. -/
structure HandedOver where
  sender : SDMComponentID
  size : Int
  message : List UInt8
  deriving DecidableEq

namespace HandedOver

/-- A message that a listener has received in its buffer. -/
def ofListener (sender : SDMComponentID) (message : List UInt8) : HandedOver :=
  ⟨sender, message.length, message⟩

/-- What a listener sends into the socket. -/
def encode (h : HandedOver) : List UInt8 :=
  h.sender.marshal ++ (Memory.bytes32 (UInt32.ofNat h.message.length) ++ h.message)

/-- A message from the buffer of a listener. -/
def Sendable (h : HandedOver) : Prop := h.size = h.message.length ∧ h.message.length ≤ BUFSIZE

end HandedOver

/-- The three loops around `TCPrecv`. -/
inductive ReadLoop where
  | senderId
  | size
  | message
  deriving DecidableEq

/-- `ChildFunctionCallProcess` with its socket and its alert pipe. -/
structure ChildProcess where
  /-- The loop that the process is in; it waits for an alert when in none. -/
  phase : Option ReadLoop
  BytesSoFar : Int
  SenderIdBuf : Memory
  size : Memory
  buf : Memory
  SenderId : SDMComponentID
  /-- The bytes in the socket. -/
  stream : List UInt8
  /-- The number of bytes in the alert pipe. -/
  alerts : Nat

/-- Write into an array of this length; undefined where a byte lies outside. -/
def writeArray (length : Nat) (m : Memory) (off : Int) (bytes : List UInt8) : Option Memory :=
  if bytes = [] then some m
  else if 0 ≤ off ∧ off + bytes.length ≤ length then some (m.store off.toNat bytes)
  else none

/-- What the switch of the process gets to. -/
structure Dispatched where
  handler : Option Handler
  content : HandedOver

namespace ChildProcess

variable {s s' : ChildProcess} {l : ReadLoop} {n : Nat}

/-- The value of the variable `size`. -/
def sizeValue (s : ChildProcess) : Int := (s.size.load32 0).toBitVec.toInt

/-- The bound that the loop compares `BytesSoFar` with. -/
def wanted (s : ChildProcess) : ReadLoop → Int
  | .senderId => 10
  | .size => 4
  | .message => s.sizeValue

/-- `TCPrecv(MsgRxSock, SenderIdBuf + BytesSoFar, …)`, `&size + BytesSoFar` and
`&buf + BytesSoFar`, where `&size` points to an `int` and `&buf` to the whole array. -/
def receive (s : ChildProcess) (bytes : List UInt8) : ReadLoop → Option ChildProcess
  | .senderId => (writeArray 10 s.SenderIdBuf s.BytesSoFar bytes).map fun m =>
      { s with SenderIdBuf := m }
  | .size => (writeArray 4 s.size (4 * s.BytesSoFar) bytes).map fun m => { s with size := m }
  | .message => (writeArray BUFSIZE s.buf (BUFSIZE * s.BytesSoFar) bytes).map fun m =>
      { s with buf := m }

/-- The switch at the end: the handler is chosen by the first byte of the buffer and gets
the buffer, the size and the sender. -/
def dispatch (s : ChildProcess) : ChildProcess × Option Dispatched :=
  ({ s with phase := none },
    some ⟨handlerFor (s.buf 0), ⟨s.SenderId, s.sizeValue, s.buf.read 0 s.sizeValue.toNat⟩⟩)

/-- The end of a round of the loop: it goes on, or the next part of the message begins. -/
def proceed (s : ChildProcess) (l : ReadLoop) : ChildProcess × Option Dispatched :=
  if s.BytesSoFar < s.wanted l then (s, none)
  else match l with
    | .senderId => ({ s with SenderId := .unmarshal s.SenderIdBuf 0, phase := some .size,
                             BytesSoFar := 0 }, none)
    | .size =>
        if 0 < s.sizeValue then ({ s with phase := some .message, BytesSoFar := 0 }, none)
        else s.dispatch
    | .message => s.dispatch

/-- One round of the loop that the process is in, with the result of its `TCPrecv`. -/
def round (s : ChildProcess) (l : ReadLoop) (iStatus : Int) :
    Option (ChildProcess × Option Dispatched) :=
  if iStatus < -1 ∨ iStatus = 0 then some ({ s with phase := none }, none)
  else (s.receive (s.stream.take iStatus.toNat) l).map fun s' =>
    proceed { s' with BytesSoFar := s.BytesSoFar + iStatus,
                      stream := s.stream.drop iStatus.toNat } l

/-- What happens next. -/
inductive Move where
  /-- A listener pushes a message, under `writeSem`. -/
  | push (sender : SDMComponentID) (message : List UInt8)
  /-- The process reads a byte from the alert pipe. -/
  | alert
  /-- `TCPrecv` returns. -/
  | recv (iStatus : Int)

/-- One move. A move that is not possible changes nothing. -/
def step (s : ChildProcess) : Move → Option (ChildProcess × Option Dispatched)
  | .push sender message =>
      some ({ s with stream := s.stream ++ (HandedOver.ofListener sender message).encode,
                     alerts := s.alerts + 1 }, none)
  | .alert =>
      if s.phase = none ∧ 0 < s.alerts then
        some ({ s with phase := some .senderId, BytesSoFar := 0, alerts := s.alerts - 1 }, none)
      else some (s, none)
  | .recv iStatus => match s.phase with
      | none => some (s, none)
      | some l => s.round l iStatus

/-- The moves that are possible when the socket stays open: `TCPrecv` returns at least one
byte, and no more than it was asked for and there are in the socket. -/
def Possible (s : ChildProcess) : Move → Prop
  | .push _ message => message.length ≤ BUFSIZE
  | .alert => s.phase = none ∧ 0 < s.alerts
  | .recv iStatus => ∃ l, s.phase = some l ∧ 1 ≤ iStatus ∧
      iStatus ≤ s.wanted l - s.BytesSoFar ∧ iStatus ≤ s.stream.length

instance (s : ChildProcess) : (a : Move) → Decidable (Possible s a)
  | .push _ _ => Nat.decLe _ _
  | .alert => instDecidableAnd
  | .recv _ => inferInstanceAs (Decidable (∃ l ∈ s.phase, _ ∧ _ ∧ _))

/-- The moves of the process itself. -/
def Move.OfProcess : Move → Prop
  | .push _ _ => False
  | _ => True

/-- The hand-off as a machine. -/
def machine : Machine ChildProcess Move (Option Dispatched) := ⟨step⟩

/-- The log of what was pushed and what was dispatched. -/
def record (log : Log HandedOver) (_ : ChildProcess) (a : Move) (out : Option Dispatched) :
    Log HandedOver :=
  match a with
  | .push sender message => log.accept (.ofListener sender message)
  | _ => match out with
    | none => log
    | some d => log.deliver d.content

/-- The process as it begins to wait for messages, with anything in its arrays. -/
def start (SenderIdBuf buf : Memory) : ChildProcess where
  phase := none
  BytesSoFar := 0
  SenderIdBuf := SenderIdBuf
  size := fun _ => 0
  buf := buf
  SenderId := .zero
  stream := []
  alerts := 0

/-- Nothing was lost, doubled or reordered, the process goes on until everything was
dispatched, and whatever happens next it writes only into its buffers. -/
structure Lossless (s : ChildProcess) (log : Log HandedOver) : Prop where
  inOrder : log.InOrder
  goes_on : log.delivered = log.accepted ∨ ∃ a, a.OfProcess ∧ Possible s a
  inside : ∀ a, Possible s a → (step s a).isSome

/-- A size or a message comes in one piece. -/
def Whole (s : ChildProcess) : Move → Prop
  | .recv iStatus => ∀ l, s.phase = some l → l ≠ .senderId → iStatus = s.wanted l
  | _ => True

instance (s : ChildProcess) : (a : Move) → Decidable (Whole s a)
  | .recv _ => inferInstanceAs (Decidable (∀ l ∈ s.phase, l ≠ .senderId → _ = _))
  | .push _ _ | .alert => instDecidableTrue

/-! ### Where the process stands in the stream -/

/-- The bytes of messages that were pushed. -/
def streamOf (messages : List HandedOver) : List UInt8 := (messages.map HandedOver.encode).flatten

/-- What is in the socket, and in the arrays, while these messages are pending. -/
inductive Parsing (s : ChildProcess) : List HandedOver → Prop where
  | waiting {pending : List HandedOver} : s.phase = none → s.alerts = pending.length →
      s.stream = streamOf pending → Parsing s pending
  | senderId {h : HandedOver} {rest : List HandedOver} {n : Nat} : s.phase = some .senderId →
      s.alerts = rest.length → s.BytesSoFar = n → n < 10 →
      s.SenderIdBuf.read 0 n ++ s.stream = h.encode ++ streamOf rest → Parsing s (h :: rest)
  | size {h : HandedOver} {rest : List HandedOver} : s.phase = some .size →
      s.alerts = rest.length → s.BytesSoFar = 0 → s.SenderId = h.sender →
      s.stream = Memory.bytes32 (UInt32.ofNat h.message.length) ++ (h.message ++ streamOf rest) →
      Parsing s (h :: rest)
  | message {h : HandedOver} {rest : List HandedOver} : s.phase = some .message →
      s.alerts = rest.length → s.BytesSoFar = 0 → s.SenderId = h.sender →
      s.sizeValue = h.message.length → 0 < h.message.length →
      s.stream = h.message ++ streamOf rest → Parsing s (h :: rest)

variable {h : HandedOver} {rest pending : List HandedOver} {bytes : List UInt8} {a : Move}
  {log : Log HandedOver} {out : Option Dispatched} {iStatus : Int}

theorem sizeValue_eq {n : Nat} (le : n ≤ BUFSIZE)
    (here : s.size.read 0 4 = Memory.bytes32 (UInt32.ofNat n)) : s.sizeValue = n := by
  have small : n < 2147483648 := Nat.lt_of_le_of_lt le (by decide)
  have value : (BitVec.ofNat 32 n).toNat = n := by
    rw [BitVec.toNat_ofNat]
    omega
  rw [sizeValue, Memory.load32_eq here, UInt32.toBitVec_ofNat',
    BitVec.toInt_eq_toNat_of_lt (by omega), value]

theorem writeArray_of_inside {length off : Nat} {m : Memory} (some : bytes ≠ [])
    (inside : off + bytes.length ≤ length) :
    writeArray length m off bytes = .some (m.store off bytes) := by
  rw [writeArray, if_neg some, if_pos ⟨Int.natCast_nonneg off, by omega⟩]
  rfl

/-- A write that begins behind the first byte of an `int` or of the whole array. -/
theorem writeArray_of_outside {length : Nat} {m : Memory} {off : Int} (some : bytes ≠ [])
    (outside : (length : Int) ≤ off) : writeArray length m off bytes = none := by
  have length_pos := List.length_pos_iff.mpr some
  rw [writeArray, if_neg some, if_neg (by omega)]

/-- A round in which `TCPrecv` returned bytes. -/
theorem round_of_bytes {k : Nat} (one : 1 ≤ k) :
    s.round l k = (s.receive (s.stream.take k) l).map fun s' =>
      proceed { s' with BytesSoFar := s.BytesSoFar + k, stream := s.stream.drop k } l := by
  rw [round, if_neg (by omega), Int.toNat_natCast]

theorem length_take_stream {k : Nat} (there : k ≤ s.stream.length) :
    (s.stream.take k).length = k :=
  List.length_take_of_le there

theorem take_stream_ne_nil {k : Nat} (one : 1 ≤ k) (there : k ≤ s.stream.length) :
    s.stream.take k ≠ [] :=
  List.ne_nil_of_length_pos (by rw [length_take_stream there]; exact one)

/-- One or more bytes of the sender's id arrive. -/
theorem round_senderId {k : Nat} (phase : s.phase = some .senderId)
    (alerts : s.alerts = rest.length) (soFar : s.BytesSoFar = n) (one : 1 ≤ k)
    (fits : n + k ≤ 10) (there : k ≤ s.stream.length)
    (content : s.SenderIdBuf.read 0 n ++ s.stream = h.encode ++ streamOf rest) :
    ∃ s', s.round .senderId k = some (s', none) ∧ Parsing s' (h :: rest) := by
  have length := length_take_stream there
  have written : s.receive (s.stream.take k) .senderId =
      some { s with SenderIdBuf := s.SenderIdBuf.store n (s.stream.take k) } := by
    rw [receive, soFar, writeArray_of_inside (take_stream_ne_nil one there) (by omega)]
    rfl
  have read : (s.SenderIdBuf.store n (s.stream.take k)).read 0 (n + k) =
      s.SenderIdBuf.read 0 n ++ s.stream.take k := by
    have all : (s.SenderIdBuf.store (0 + n) (s.stream.take k)).read 0
        (n + (s.stream.take k).length) = s.SenderIdBuf.read 0 n ++ s.stream.take k :=
      Memory.read_store_append
    rwa [Nat.zero_add, length] at all
  have split : (s.SenderIdBuf.store n (s.stream.take k)).read 0 (n + k) ++ s.stream.drop k =
      h.encode ++ streamOf rest := by
    rw [read, List.append_assoc, List.take_append_drop, content]
  rw [round_of_bytes one, written, Option.map_some, soFar]
  by_cases more : n + k < 10
  · refine ⟨_, congrArg some (if_pos (show ((n : Int) + k < 10) by omega)), ?_⟩
    exact .senderId phase alerts (n := n + k) rfl more split
  · have whole : n + k = 10 := by omega
    refine ⟨_, congrArg some (if_neg (show ¬ ((n : Int) + k < 10) by omega)), ?_⟩
    rw [whole, HandedOver.encode, List.append_assoc, List.append_assoc] at split
    obtain ⟨sender, others⟩ := List.append_inj split Memory.length_read
    exact .size rfl alerts rfl (SDMComponentID.unmarshal_eq sender) others

/-- Dispatching the message that the arrays hold. -/
theorem dispatch_eq (sender : s.SenderId = h.sender) (size : s.sizeValue = h.message.length)
    (sendable : h.Sendable) (content : s.buf.read 0 h.message.length = h.message) :
    s.dispatch = ({ s with phase := none }, some ⟨handlerFor (s.buf 0), h⟩) := by
  rw [dispatch, sender, size, Int.toNat_natCast, content, ← sendable.1]

/-- The state in which a round that wrote a piece goes on. -/
theorem round_of_written {t : ChildProcess} {k : Nat} (one : 1 ≤ k) (soFar : s.BytesSoFar = 0)
    (written : s.receive (s.stream.take k) l = some t) :
    ∃ u, s.round l k = some (proceed u l) ∧ u.BytesSoFar = k ∧ u.stream = s.stream.drop k ∧
      u.size = t.size ∧ u.buf = t.buf ∧ u.SenderId = t.SenderId ∧ u.alerts = t.alerts := by
  refine ⟨{ t with BytesSoFar := s.BytesSoFar + k, stream := s.stream.drop k }, ?_, ?_, rfl, rfl,
    rfl, rfl, rfl⟩
  · rw [round_of_bytes one, written, Option.map_some]
  · show s.BytesSoFar + k = k
    rw [soFar, Int.zero_add]

/-- The size arrives in one piece. -/
theorem round_size (alerts : s.alerts = rest.length) (soFar : s.BytesSoFar = 0)
    (sender : s.SenderId = h.sender) (sendable : h.Sendable)
    (content : s.stream =
      Memory.bytes32 (UInt32.ofNat h.message.length) ++ (h.message ++ streamOf rest)) :
    ∃ s' out, s.round .size (4 : Nat) = some (s', out) ∧
      ((out = none ∧ Parsing s' (h :: rest)) ∨
        ∃ d, out = some d ∧ d.content = h ∧ Parsing s' rest) := by
  have written : s.receive (s.stream.take 4) .size =
      some { s with size := s.size.store 0 (Memory.bytes32 (UInt32.ofNat h.message.length)) } := by
    rw [receive, soFar, content, List.take_left' (Memory.length_bytes32 _)]
    rfl
  obtain ⟨u, resumed, count, stream, size, _, sender', alerts'⟩ :=
    round_of_written (by decide) soFar written
  rw [content, List.drop_left' (Memory.length_bytes32 _)] at stream
  have value : u.sizeValue = h.message.length :=
    sizeValue_eq sendable.2 (size ▸ Memory.read_store)
  have done : ¬ u.BytesSoFar < u.wanted .size := by
    rw [count]
    exact Int.lt_irrefl 4
  rw [resumed, proceed, if_neg done]
  by_cases nonempty : 0 < h.message.length
  · refine ⟨_, none, congrArg some (if_pos (by omega)), .inl ⟨rfl, ?_⟩⟩
    exact .message rfl (alerts'.trans alerts) rfl (sender'.trans sender) value nonempty stream
  · have nil : h.message = [] :=
      List.length_eq_zero_iff.mp (Nat.eq_zero_of_not_pos nonempty)
    have sent := dispatch_eq (sender'.trans sender) value sendable (by rw [nil]; rfl)
    refine ⟨_, some _, congrArg some ((if_neg (by omega)).trans sent), .inr ⟨_, rfl, rfl, ?_⟩⟩
    rw [nil] at stream
    exact .waiting rfl (alerts'.trans alerts) stream

/-- The message arrives in one piece. -/
theorem round_message (alerts : s.alerts = rest.length) (soFar : s.BytesSoFar = 0)
    (sender : s.SenderId = h.sender) (size : s.sizeValue = h.message.length)
    (nonempty : 0 < h.message.length) (sendable : h.Sendable)
    (content : s.stream = h.message ++ streamOf rest) :
    ∃ s' d, s.round .message h.message.length = some (s', some d) ∧ d.content = h ∧
      Parsing s' rest := by
  have inside : writeArray BUFSIZE s.buf ((0 : Nat) : Int) h.message =
      some (s.buf.store 0 h.message) :=
    writeArray_of_inside (List.ne_nil_of_length_pos nonempty)
      ((Nat.zero_add _).trans_le sendable.2)
  have written : s.receive (s.stream.take h.message.length) .message =
      some { s with buf := s.buf.store 0 h.message } := by
    rw [receive, soFar, Int.mul_zero, content, List.take_left]
    exact congrArg (Option.map _) inside
  obtain ⟨u, resumed, count, stream, size', buf, sender', alerts'⟩ :=
    round_of_written nonempty soFar written
  have value : u.sizeValue = h.message.length := by
    rw [sizeValue, size']
    exact size
  have done : ¬ u.BytesSoFar < u.wanted .message := by
    rw [count, wanted, value]
    exact Int.lt_irrefl _
  have sent := dispatch_eq (sender'.trans sender) value sendable (buf ▸ Memory.read_store)
  refine ⟨_, _, resumed.trans (congrArg some ((if_neg done).trans sent)), rfl, ?_⟩
  rw [content, List.drop_left] at stream
  exact .waiting rfl (alerts'.trans alerts) stream

/-! ### Runs -/

/-- The log is in order, and the process stands where its pending messages put it. -/
structure HandingOver (s : ChildProcess) (log : Log HandedOver) : Prop where
  inOrder : log.InOrder
  sendable : ∀ h ∈ log.pending, h.Sendable
  parsing : Parsing s log.pending

theorem streamOf_append (h : HandedOver) :
    streamOf (pending ++ [h]) = streamOf pending ++ h.encode := by
  simp only [streamOf, List.map_append, List.map_cons, List.map_nil, List.flatten_append,
    List.flatten_singleton]

/-- A listener pushes a message while the process does anything. -/
theorem Parsing.push (parsing : Parsing s pending) (h : HandedOver) :
    Parsing { s with stream := s.stream ++ h.encode, alerts := s.alerts + 1 } (pending ++ [h]) := by
  have counted {messages : List HandedOver} (alerts : s.alerts = messages.length) :
      s.alerts + 1 = (messages ++ [h]).length := by
    rw [alerts, List.length_append]
    rfl
  cases parsing with
  | waiting phase alerts stream =>
      refine .waiting phase (counted alerts) ?_
      show s.stream ++ h.encode = _
      rw [stream, streamOf_append]
  | senderId phase alerts soFar lt content =>
      rw [List.cons_append]
      refine .senderId phase (counted alerts) soFar lt ?_
      show s.SenderIdBuf.read 0 _ ++ (s.stream ++ h.encode) = _
      rw [← List.append_assoc, content, List.append_assoc, streamOf_append]
  | size phase alerts soFar sender content =>
      rw [List.cons_append]
      refine .size phase (counted alerts) soFar sender ?_
      show s.stream ++ h.encode = _
      rw [content, List.append_assoc, List.append_assoc, streamOf_append]
  | message phase alerts soFar sender value nonempty content =>
      rw [List.cons_append]
      refine .message phase (counted alerts) soFar sender value nonempty ?_
      show s.stream ++ h.encode = _
      rw [content, List.append_assoc, streamOf_append]

/-- A possible and whole round: the message in work is taken further or dispatched. -/
theorem Parsing.round (parsing : Parsing s pending) (sendable : ∀ h ∈ pending, h.Sendable)
    (phase : s.phase = some l) {k : Nat} (one : 1 ≤ k)
    (asked : (k : Int) ≤ s.wanted l - s.BytesSoFar)
    (there : k ≤ s.stream.length) (whole : l ≠ .senderId → (k : Int) = s.wanted l) :
    ∃ s' out, s.round l k = some (s', out) ∧
      ((out = none ∧ Parsing s' pending) ∨
        ∃ d rest, out = some d ∧ pending = d.content :: rest ∧ Parsing s' rest) := by
  cases parsing with
  | waiting idle => exact absurd (phase.symm.trans idle) (by simp)
  | senderId here alerts soFar lt content =>
      cases Option.some.inj (phase.symm.trans here)
      rw [soFar] at asked
      have fits : (k : Int) ≤ 10 - _ := asked
      obtain ⟨s', taken, after⟩ :=
        round_senderId here alerts soFar one (by omega) there content
      exact ⟨s', none, taken, .inl ⟨rfl, after⟩⟩
  | size here alerts soFar sender content =>
      cases Option.some.inj (phase.symm.trans here)
      have four : k = 4 := Int.ofNat_inj.mp (whole (by simp))
      rw [four]
      obtain ⟨s', out, taken, after⟩ :=
        round_size alerts soFar sender (sendable _ List.mem_cons_self) content
      refine ⟨s', out, taken, after.imp_right ?_⟩
      rintro ⟨d, some, same, after⟩
      exact ⟨d, _, some, by rw [same], after⟩
  | message here alerts soFar sender value nonempty content =>
      cases Option.some.inj (phase.symm.trans here)
      have all : k = _ := Int.ofNat_inj.mp ((whole (by simp)).trans value)
      rw [all]
      obtain ⟨s', d, taken, same, after⟩ :=
        round_message alerts soFar sender value nonempty (sendable _ List.mem_cons_self) content
      exact ⟨s', some d, taken, .inr ⟨d, _, rfl, by rw [same], after⟩⟩

theorem HandingOver.accept (handing : HandingOver s log) {sender : SDMComponentID}
    {message : List UInt8} (le : message.length ≤ BUFSIZE) :
    HandingOver { s with stream := s.stream ++ (HandedOver.ofListener sender message).encode,
                         alerts := s.alerts + 1 } (log.accept (.ofListener sender message)) where
  inOrder := handing.inOrder.accept
  sendable := by
    rw [Log.pending_accept handing.inOrder]
    intro h mem
    rcases List.mem_append.mp mem with before | last
    · exact handing.sendable h before
    · rw [List.mem_singleton.mp last]
      exact ⟨rfl, le⟩
  parsing := by
    rw [Log.pending_accept handing.inOrder]
    exact handing.parsing.push _

/-- One possible and whole move. -/
theorem HandingOver.step (handing : HandingOver s log) (possible : Possible s a)
    (whole : Whole s a) :
    ∃ s' out, s.step a = some (s', out) ∧ HandingOver s' (record log s a out) := by
  cases a with
  | push sender message => exact ⟨_, none, rfl, handing.accept possible⟩
  | alert =>
      refine ⟨_, none, if_pos possible, handing.inOrder, handing.sendable, ?_⟩
      have parsing := handing.parsing
      show Parsing _ log.pending
      generalize log.pending = pending at parsing
      cases parsing with
      | waiting phase alerts stream =>
          cases pending with
          | nil => exact absurd possible.2 (by rw [alerts]; exact Nat.lt_irrefl 0)
          | cons h rest =>
              refine .senderId (n := 0) rfl ?_ rfl (by decide) stream
              exact congrArg (· - 1) alerts
      | senderId phase => exact absurd (phase.symm.trans possible.1) (by simp)
      | size phase => exact absurd (phase.symm.trans possible.1) (by simp)
      | message phase => exact absurd (phase.symm.trans possible.1) (by simp)
  | recv iStatus =>
      obtain ⟨l, phase, one, asked, there⟩ := possible
      obtain ⟨k, rfl⟩ := Int.eq_ofNat_of_zero_le (Int.le_trans Int.one_nonneg one)
      obtain ⟨s', out, taken, after⟩ := handing.parsing.round handing.sendable phase
        (Int.ofNat_le.mp one) asked (Int.ofNat_le.mp there) (whole l phase)
      refine ⟨s', out, ?_, ?_⟩
      · rw [ChildProcess.step, phase]
        exact taken
      · rcases after with ⟨rfl, parsing⟩ | ⟨d, rest, rfl, next, parsing⟩
        · exact ⟨handing.inOrder, handing.sendable, parsing⟩
        · refine ⟨handing.inOrder.deliver next, ?_, ?_⟩
          · show ∀ h ∈ (log.deliver d.content).pending, h.Sendable
            rw [Log.pending_deliver handing.inOrder next]
            intro h mem
            exact handing.sendable h (next ▸ List.mem_cons_of_mem _ mem)
          · show Parsing s' (log.deliver d.content).pending
            rw [Log.pending_deliver handing.inOrder next]
            exact parsing

theorem handingOver_start (SenderIdBuf buf : Memory) :
    HandingOver (start SenderIdBuf buf) Log.empty :=
  ⟨Log.inOrder_empty, fun _ mem => absurd mem List.not_mem_nil, .waiting rfl rfl rfl⟩

/-- What a loop still asks for is in the socket. -/
structure Reading (s : ChildProcess) (l : ReadLoop) : Prop where
  asks : 1 ≤ s.wanted l - s.BytesSoFar
  there : s.wanted l - s.BytesSoFar ≤ s.stream.length
  soFar : 0 ≤ s.BytesSoFar
  begins : l ≠ .senderId → s.BytesSoFar = 0
  fits : l = .message → s.wanted l ≤ BUFSIZE

theorem Parsing.reading (parsing : Parsing s pending) (sendable : ∀ h ∈ pending, h.Sendable)
    (phase : s.phase = some l) : Reading s l := by
  cases parsing with
  | waiting idle => exact absurd (phase.symm.trans idle) (by simp)
  | senderId here alerts soFar lt content =>
      cases Option.some.inj (phase.symm.trans here)
      have lengths := congrArg List.length content
      simp only [List.length_append, HandedOver.encode, Memory.length_read,
        SDMComponentID.length_marshal] at lengths
      refine ⟨?_, ?_, ?_, fun not => absurd rfl not, nofun⟩ <;>
        simp only [wanted, soFar] <;> omega
  | size here alerts soFar sender content =>
      cases Option.some.inj (phase.symm.trans here)
      have lengths := congrArg List.length content
      simp only [List.length_append, Memory.length_bytes32] at lengths
      refine ⟨?_, ?_, ?_, fun _ => soFar, nofun⟩ <;>
        simp only [wanted, soFar] <;> omega
  | message here alerts soFar sender value nonempty content =>
      cases Option.some.inj (phase.symm.trans here)
      have lengths := congrArg List.length content
      have le := (sendable _ List.mem_cons_self).2
      simp only [List.length_append] at lengths
      refine ⟨?_, ?_, ?_, fun _ => soFar, fun _ => ?_⟩ <;>
        simp only [wanted, soFar, value] <;> omega

/-- While a message is pending the process goes on. -/
theorem Parsing.possible (parsing : Parsing s pending) (sendable : ∀ h ∈ pending, h.Sendable) :
    pending = [] ∨ ∃ a, a.OfProcess ∧ Possible s a := by
  cases phase : s.phase with
  | some l =>
      have reading := parsing.reading sendable phase
      exact .inr ⟨.recv 1, trivial, l, phase, Int.le_refl 1, reading.asks,
        Int.le_trans reading.asks reading.there⟩
  | none =>
      cases parsing with
      | waiting _ alerts stream =>
          cases pending with
          | nil => exact .inl rfl
          | cons h rest => exact .inr ⟨.alert, trivial, phase, alerts ▸ Nat.succ_pos _⟩
      | senderId here => exact absurd (phase.symm.trans here) (by simp)
      | size here => exact absurd (phase.symm.trans here) (by simp)
      | message here => exact absurd (phase.symm.trans here) (by simp)

/-- A possible piece fits into its array. -/
theorem Reading.receive (reading : Reading s l) {k : Nat} (one : 1 ≤ k)
    (asked : (k : Int) ≤ s.wanted l - s.BytesSoFar) (there : k ≤ s.stream.length) :
    (s.receive (s.stream.take k) l).isSome := by
  have length := length_take_stream there
  have some := take_stream_ne_nil one there
  obtain ⟨n, soFar⟩ := Int.eq_ofNat_of_zero_le reading.soFar
  cases l with
  | senderId =>
      change (k : Int) ≤ 10 - s.BytesSoFar at asked
      rw [ChildProcess.receive, soFar, writeArray_of_inside some (by omega)]
      rfl
  | size =>
      change (k : Int) ≤ 4 - s.BytesSoFar at asked
      rw [reading.begins (by simp)] at asked
      have inside : writeArray 4 s.size ((0 : Nat) : Int) (s.stream.take k) = _ :=
        writeArray_of_inside some (by omega)
      rw [ChildProcess.receive, reading.begins (by simp), Int.mul_zero, Option.isSome_map]
      exact Option.isSome_of_eq_some inside
  | message =>
      have fits := reading.fits rfl
      rw [reading.begins (by simp)] at asked
      have inside : writeArray BUFSIZE s.buf ((0 : Nat) : Int) (s.stream.take k) = _ :=
        writeArray_of_inside some (by omega)
      rw [ChildProcess.receive, reading.begins (by simp), Int.mul_zero, Option.isSome_map]
      exact Option.isSome_of_eq_some inside

theorem Parsing.inside (parsing : Parsing s pending) (sendable : ∀ h ∈ pending, h.Sendable)
    (possible : Possible s a) : (s.step a).isSome := by
  cases a with
  | push sender message => rfl
  | alert => exact Option.isSome_of_eq_some (if_pos possible)
  | recv iStatus =>
      obtain ⟨l, phase, one, asked, there⟩ := possible
      obtain ⟨k, rfl⟩ := Int.eq_ofNat_of_zero_le (Int.le_trans Int.one_nonneg one)
      have written := (parsing.reading sendable phase).receive (Int.ofNat_le.mp one) asked
        (Int.ofNat_le.mp there)
      rw [ChildProcess.step, phase]
      show (s.round l k).isSome
      rw [round_of_bytes (Int.ofNat_le.mp one), Option.isSome_map]
      exact written

/-- In a run whose pieces are whole nothing is lost. -/
theorem HandingOver.lossless (handing : HandingOver s log) : Lossless s log where
  inOrder := handing.inOrder
  goes_on := (handing.parsing.possible handing.sendable).imp_left
    (Log.pending_eq_nil_iff handing.inOrder).mp
  inside _ possible := handing.parsing.inside handing.sendable possible

theorem receive_frame {t : ChildProcess} (written : s.receive bytes l = some t) :
    t.phase = s.phase ∧ t.wanted l = s.wanted l := by
  cases l with
  | senderId =>
      obtain ⟨m, _, rfl⟩ := Option.map_eq_some_iff.mp written
      exact ⟨rfl, rfl⟩
  | size =>
      obtain ⟨m, _, rfl⟩ := Option.map_eq_some_iff.mp written
      exact ⟨rfl, rfl⟩
  | message =>
      obtain ⟨m, _, rfl⟩ := Option.map_eq_some_iff.mp written
      exact ⟨rfl, rfl⟩

/-- The rest of a size or of a message is written behind its array. -/
theorem receive_rest (later : l ≠ .senderId) (begun : 1 ≤ s.BytesSoFar) (some : bytes ≠ []) :
    s.receive bytes l = none := by
  cases l with
  | senderId => exact absurd rfl later
  | size =>
      have behind : ((4 : Nat) : Int) ≤ 4 * s.BytesSoFar := by omega
      rw [receive, writeArray_of_outside some behind]
      rfl
  | message =>
      have behind := Int.mul_le_mul_of_nonneg_left begun (Int.natCast_nonneg BUFSIZE)
      rw [Int.mul_one] at behind
      rw [receive, writeArray_of_outside some behind]
      rfl

/-- A loop of which a piece has come that is short goes on. -/
theorem round_short {t : ChildProcess} {k : Nat} (one : 1 ≤ k) (begun : s.BytesSoFar = 0)
    (more : (k : Int) < s.wanted l) (written : s.receive (s.stream.take k) l = some t) :
    ∃ u, s.round l k = some (u, none) ∧ u.phase = s.phase ∧ u.BytesSoFar = k ∧
      u.wanted l = s.wanted l ∧ u.stream = s.stream.drop k := by
  obtain ⟨phase, wanted⟩ := receive_frame written
  refine ⟨{ t with BytesSoFar := k, stream := s.stream.drop k }, ?_, phase, rfl, ?_, rfl⟩
  · rw [round_of_bytes one, written, Option.map_some, begun, Int.zero_add]
    exact congrArg some (if_pos (more.trans_eq wanted.symm))
  · exact wanted

/-- After a piece that is short the process does not stay in its arrays. -/
theorem HandingOver.not_inside (handing : HandingOver s log) (possible : Possible s a)
    (short : ¬ Whole s a) (taken : s.step a = some (s', out)) :
    ∃ b, Possible s' b ∧ s'.step b = none := by
  cases a with
  | push sender message => exact absurd trivial short
  | alert => exact absurd trivial short
  | recv iStatus =>
      obtain ⟨l, phase, one, asked, there⟩ := possible
      obtain ⟨k, rfl⟩ := Int.eq_ofNat_of_zero_le (Int.le_trans Int.one_nonneg one)
      have reading := handing.parsing.reading handing.sendable phase
      obtain ⟨later, less⟩ : l ≠ .senderId ∧ (k : Int) ≠ s.wanted l := by
        simp only [Whole, phase, Option.some.injEq, forall_eq', Classical.not_imp] at short
        exact short
      have begun := reading.begins later
      have left := reading.there
      rw [begun, Int.sub_zero] at left
      have more : (k : Int) < s.wanted l := by omega
      obtain ⟨t, written⟩ := Option.isSome_iff_exists.mp
        (reading.receive (Int.ofNat_le.mp one) asked (Int.ofNat_le.mp there))
      obtain ⟨u, here, phase', soFar, wanted, stream⟩ :=
        round_short (Int.ofNat_le.mp one) begun more written
      have same : u = s' := by
        rw [ChildProcess.step, phase] at taken
        exact congrArg Prod.fst (Option.some.inj (here.symm.trans taken))
      rw [← same]
      have length : (u.stream.length : Int) = s.stream.length - k := by
        rw [stream, List.length_drop]
        omega
      refine ⟨.recv (1 : Nat), ⟨l, phase'.trans phase, Int.le_refl 1, ?_, ?_⟩, ?_⟩
      · rw [soFar, wanted]
        omega
      · rw [length]
        omega
      · have rest : u.receive (u.stream.take 1) l = none := by
          refine receive_rest later (soFar ▸ one) (take_stream_ne_nil (Nat.le_refl 1) ?_)
          omega
        rw [ChildProcess.step, phase'.trans phase]
        show u.round l (1 : Nat) = none
        rw [round_of_bytes (Nat.le_refl 1), rest]
        rfl

/-- The bytes and alerts that the process has not taken yet. -/
def work (s : ChildProcess) : Nat := s.stream.length + s.alerts

theorem receive_work {t : ChildProcess} (written : s.receive bytes l = some t) :
    t.alerts = s.alerts := by
  cases l with
  | senderId =>
      obtain ⟨m, _, rfl⟩ := Option.map_eq_some_iff.mp written
      rfl
  | size =>
      obtain ⟨m, _, rfl⟩ := Option.map_eq_some_iff.mp written
      rfl
  | message =>
      obtain ⟨m, _, rfl⟩ := Option.map_eq_some_iff.mp written
      rfl

theorem work_proceed : (proceed s l).1.work = s.work := by
  cases l <;> simp only [proceed] <;> split_ifs <;> rfl

/-- Each move of the process takes something, so it is done after finitely many. -/
theorem work_lt (own : a.OfProcess) (possible : Possible s a)
    (taken : s.step a = some (s', out)) : s'.work < s.work := by
  cases a with
  | push sender message => exact absurd own id
  | alert =>
      have waits : s.phase = none ∧ 0 < s.alerts := possible
      rw [ChildProcess.step, if_pos waits] at taken
      cases taken
      exact Nat.add_lt_add_left (Nat.sub_lt waits.2 Nat.one_pos) _
  | recv iStatus =>
      obtain ⟨l, phase, one, asked, there⟩ := possible
      obtain ⟨k, rfl⟩ := Int.eq_ofNat_of_zero_le (Int.le_trans Int.one_nonneg one)
      rw [ChildProcess.step, phase] at taken
      replace taken : s.round l k = some (s', out) := taken
      rw [round_of_bytes (Int.ofNat_le.mp one)] at taken
      obtain ⟨t, written, after⟩ := Option.map_eq_some_iff.mp taken
      have same := congrArg (fun p => work p.1) after
      simp only [work_proceed] at same
      rw [← same, work, work, receive_work written, List.length_drop]
      omega

/-- **The hand-off is lossless as long as sizes and messages come in one piece**: in every
run of such pieces what was pushed is dispatched in its order, each message once, the
process writes only into its arrays and it is not done, but will be after finitely many
moves, while something is pending; with the next piece this stays so exactly when that
piece is whole, too. -/
theorem hand_off_lossless_iff {SenderIdBuf buf : Memory}
    (run : (machine.withGhost record).Reaches
      (fun q a => Possible q.1 a ∧ Whole q.1 a) (start SenderIdBuf buf, Log.empty) (s, log)) :
    Lossless s log ∧
      ∀ a s' out, Possible s a → s.step a = some (s', out) →
        (a.OfProcess → s'.work < s.work) ∧ (Lossless s' (record log s a out) ↔ Whole s a) := by
  have handing : HandingOver s log :=
    run.invariant (I := fun q => HandingOver q.1 q.2) (handingOver_start SenderIdBuf buf) (by
      rintro ⟨s, log⟩ a ⟨s', log'⟩ out handing ⟨possible, whole⟩ taken
      obtain ⟨here, rfl⟩ := Machine.withGhost_step_eq_some.mp taken
      obtain ⟨s₁, out₁, step, kept⟩ := handing.step possible whole
      cases Option.some.inj (step.symm.trans here)
      exact kept)
  refine ⟨handing.lossless, fun a s' out possible taken =>
    ⟨fun own => work_lt own possible taken, ?_, ?_⟩⟩
  · intro lossless
    by_contra short
    obtain ⟨b, possible', undefined⟩ := handing.not_inside possible short taken
    have defined := lossless.inside b possible'
    rw [undefined] at defined
    exact absurd defined (by simp)
  · intro whole
    obtain ⟨s₁, out₁, step, kept⟩ := handing.step possible whole
    cases Option.some.inj (step.symm.trans taken)
    exact kept.lossless

/-! ### A message of one byte -/

/-- A listener has pushed an `SDMConsume` of one byte. -/
def pushed : ChildProcess :=
  { start (fun _ => 0) (fun _ => 0) with
    stream := (HandedOver.ofListener ⟨1, 1, 5000⟩ [108]).encode, alerts := 1 }

/-- The process has read the alert. -/
def alerted : ChildProcess := { pushed with phase := some .senderId, alerts := 0 }

/-- The process has read the id of the sender. -/
def senderRead : ChildProcess :=
  { alerted with
    phase := some .size
    SenderIdBuf := alerted.SenderIdBuf.store 0 (alerted.stream.take 10)
    SenderId := .unmarshal (alerted.SenderIdBuf.store 0 (alerted.stream.take 10)) 0
    stream := alerted.stream.drop 10 }

/-- The process has read three bytes of the size. -/
def threeRead : ChildProcess :=
  { senderRead with
    BytesSoFar := 3
    size := senderRead.size.store 0 (senderRead.stream.take 3)
    stream := senderRead.stream.drop 3 }

theorem reaches_pushed {G : ChildProcess × Log HandedOver → Move → Prop}
    (guard : ∀ q, G q (.push ⟨1, 1, 5000⟩ [108])) :
    (machine.withGhost record).Reaches G (start (fun _ => 0) (fun _ => 0), Log.empty)
      (pushed, Log.empty.accept (.ofListener ⟨1, 1, 5000⟩ [108])) :=
  .step .start (guard _) (Machine.withGhost_step_eq_some.mpr ⟨rfl, rfl⟩)

/-- Two messages: the first is dispatched after its sender came in two pieces, the second has
been read up to its size. -/
def firstDispatched : List Move :=
  [.push ⟨1, 1, 5000⟩ [108], .alert, .recv 4, .push ⟨2, 1, 5000⟩ [109, 7], .recv 6, .recv 4,
    .recv 1, .alert, .recv 10, .recv 4]

/-- After `firstDispatched` nothing is lost, and the first byte of the second message alone would
put its second byte behind the buffer. -/
theorem hand_off_lossless_of_two :
    ∃ s log, (machine.withGhost record).execGuarded (fun q a => Possible q.1 a ∧ Whole q.1 a)
        (start (fun _ => 0) (fun _ => 0), Log.empty) firstDispatched = some (s, log) ∧
      log.delivered = [.ofListener ⟨1, 1, 5000⟩ [108]] ∧ Lossless s log ∧
      ∀ s' out, s.step (.recv 1) = some (s', out) →
        ¬ Lossless s' (record log s (.recv 1) out) := by
  have ran : ((machine.withGhost record).execGuarded (fun q a => Possible q.1 a ∧ Whole q.1 a)
      (start (fun _ => 0) (fun _ => 0), Log.empty) firstDispatched).map (fun q =>
        decide (q.2.delivered = [.ofListener ⟨1, 1, 5000⟩ [108]] ∧ Possible q.1 (.recv 1) ∧
          ¬ Whole q.1 (.recv 1))) = some true := by
    decide +kernel
  obtain ⟨⟨s, log⟩, done, reached⟩ := Option.map_eq_some_iff.mp ran
  obtain ⟨delivered, possible, short⟩ := of_decide_eq_true reached
  obtain ⟨lossless, next⟩ := hand_off_lossless_iff (.execGuarded .start done)
  exact ⟨s, log, done, delivered, lossless, fun s' out taken lossless' =>
    short ((next _ s' out possible taken).2.mp lossless')⟩

/-- Three bytes of the size come first: the last one is written twelve bytes further on. -/
theorem size_in_two_pieces :
    ∃ s log, (machine.withGhost record).Reaches (fun q a => Possible q.1 a)
      (start (fun _ => 0) (fun _ => 0), Log.empty) (s, log) ∧ ¬ Lossless s log := by
  have fits : [(108 : UInt8)].length ≤ BUFSIZE := by decide
  have zero : Possible pushed .alert := ⟨rfl, Nat.one_pos⟩
  have ten : Possible alerted (.recv 10) := ⟨.senderId, rfl, by decide, by decide, by decide⟩
  have three : Possible senderRead (.recv 3) := ⟨.size, rfl, by decide, by decide, by decide⟩
  have one : Possible threeRead (.recv 1) := ⟨.size, rfl, by decide, by decide, by decide⟩
  have alertRead : machine.step pushed .alert = some (alerted, none) := rfl
  have idRead : machine.step alerted (.recv 10) = some (senderRead, none) := rfl
  have part : machine.step senderRead (.recv 3) = some (threeRead, none) := rfl
  have run := (((reaches_pushed (G := fun q a => Possible q.1 a) fun _ => fits).withGhost_step
    zero alertRead).withGhost_step ten idRead).withGhost_step three part
  exact ⟨_, _, run, fun lossless => Bool.false_ne_true (lossless.inside _ one)⟩

end ChildProcess

end Sdm
