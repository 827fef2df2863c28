import Sdm.Lib.Reading
import Sdm.Spa1.Asim

/-!
What an ASIM of the SPA-1 Manager receives over its bus.

A packet is a header of three bytes, a type and a length, and as many bytes. The header is read
first, and then what its length says. A header of three `0xff` says that there is nothing to read.

* `readPacketHeader_ne_fault`: the header is read into a buffer that holds three bytes.
* `bounded_iff`: when a reception is bounded.
* `awaitHeader_ends`: a read that is late ends also the loop that waits for a header.
-/

namespace Sdm

open Lib

/-- A read of the bus, and whether the time-out has passed behind it. -/
structure Poll where
  answer : Answer
  late : Bool

/-- Why a function has not returned: an access outside its object, an object that cannot be
allocated, or a read that has not come back. -/
inductive Halt where
  | fault (f : Fault)
  | thrown
  | waiting

/-- What the bus brings is read into a buffer, with the reads that are to come. -/
def readBus (buf : Buffer) (off : Nat) (n : Int) :
    List Poll → Except Halt (Buffer × Int × Poll × List Poll)
  | [] =>
      match Checked.access (buf.request off n) with
      | .error f => .error (.fault f)
      | .ok () => .error .waiting
  | p :: rest =>
      match buf.receive off n p.answer with
      | .error f => .error (.fault f)
      | .ok (buf, bytesRead) => .ok (buf, bytesRead, p, rest)

namespace Spa1Asim

/-- `0xff` in all of the header. -/
def isIdle (buf : Buffer) : Bool :=
  buf.bytes 0 == 0xff && buf.bytes 1 == 0xff && buf.bytes 2 == 0xff

/-- What `readPacketHeader` leaves: the buffer, what it returns, the bytes of the last read, and the
reads that are to come. -/
structure Header where
  buf : Buffer
  bytesRead : Int
  got : List UInt8
  rest : List Poll

/-- The loop of `readPacketHeader` when it is to block. -/
def awaitHeader (buf : Buffer) : List Poll → Except Halt Header
  | [] => do
      let _ ← readBus buf 0 SPA1_HEADER_SIZE []
      .error .waiting
  | p :: rest => do
      let (buf, bytesRead, _, _) ← readBus buf 0 SPA1_HEADER_SIZE [p]
      let got := p.answer.got SPA1_HEADER_SIZE
      if bytesRead = -1 then return ⟨buf, bytesRead, got, rest⟩
      else if p.late then return ⟨buf, -1, got, rest⟩
      else if isIdle buf then awaitHeader buf rest
      else return ⟨buf, bytesRead, got, rest⟩

def readPacketHeader (buf : Buffer) (doBlocking : Bool) (polls : List Poll) :
    Except Halt Header :=
  if doBlocking then awaitHeader buf polls
  else do
    let (buf, bytesRead, p, rest) ← readBus buf 0 SPA1_HEADER_SIZE polls
    let got := p.answer.got SPA1_HEADER_SIZE
    if bytesRead = -1 then return ⟨buf, bytesRead, got, rest⟩
    else if isIdle buf then return ⟨buf, 0, got, rest⟩
    else return ⟨buf, bytesRead, got, rest⟩

/-- `memcpy(&length, &buf[1], 2)`. -/
def lengthOf (buf : Buffer) : Int16 := (buf.bytes.load16 1).toInt16

/-- The length does not fit, as far as the code looks: the sum is taken as an `unsigned short`. -/
def refuses (buf : Buffer) : Bool :=
  buf.size < (((lengthOf buf).toInt + SPA1_HEADER_SIZE) % 65536).toNat ||
    MAX_PACKET_PAYLOAD < (lengthOf buf).toInt

/-- What `recvFromAsim` leaves: the buffer, what it returns, the bytes of the header, and the second
read, where there was one. -/
structure Reception where
  buf : Buffer
  bytesRead : Int
  header : List UInt8
  second : Option Answer

def recvFromAsim (buf : Buffer) (blocking : Bool) (polls : List Poll) : Except Halt Reception := do
  let h ← readPacketHeader buf blocking polls
  if h.bytesRead = 0 then return ⟨h.buf, 0, h.got, none⟩
  else if h.bytesRead = -1 then return ⟨h.buf, h.bytesRead, h.got, none⟩
  else if refuses h.buf then return ⟨h.buf, -1, h.got, none⟩
  else
    let (buf, bytesRead, p, _) ← readBus h.buf 3 (lengthOf h.buf).toInt h.rest
    return ⟨buf, h.bytesRead + bytesRead, h.got, some p.answer⟩

/-! ### The header -/

section Header

variable {buf : Buffer} {polls : List Poll} {p : Poll} {rest : List Poll} {off : Nat} {n : Int}
  {doBlocking : Bool} {h : Header}

theorem readBus_cons (inside : 0 ≤ n ∧ off + n ≤ buf.size) : readBus buf off n (p :: rest) =
    pure ({ buf with bytes := buf.bytes.store off (p.answer.got n.toNat) },
      p.answer.count n.toNat, p, rest) := by
  rw [readBus, Buffer.receive_eq_ok.mpr ⟨inside, rfl⟩]
  rfl

/-- A read that does not fit is a fault, whether it comes back or not. -/
theorem readBus_outside (buf : Buffer) (off : Nat) (n : Int) (polls : List Poll)
    (outside : ¬ (0 ≤ n ∧ off + n ≤ buf.size)) :
    ∃ f, readBus buf off n polls = .error (.fault f) := by
  cases polls with
  | nil =>
      rw [readBus]
      cases made : Checked.access (buf.request off n) with
      | error f => exact ⟨f, rfl⟩
      | ok u => exact absurd (Buffer.request_inside_iff.mp (Checked.access_eq_ok.mp made)) outside
  | cons p rest =>
      rw [readBus]
      cases made : buf.receive off n p.answer with
      | error f => exact ⟨f, rfl⟩
      | ok result => exact absurd (Buffer.receive_eq_ok.mp made).1 outside

theorem readBus_nil (inside : 0 ≤ n ∧ off + n ≤ buf.size) :
    readBus buf off n [] = .error .waiting := by
  rw [readBus, Checked.access_eq_ok (u := ()) |>.mpr (Buffer.request_inside_iff.mpr inside)]

/-- What the header read leaves: its bytes are in the buffer, and it returns their number, none, or
an error. -/
structure Header.Read (buf : Buffer) (h : Header) : Prop where
  size : h.buf.size = buf.size
  got : h.buf.bytes.Has 0 h.got
  le : h.got.length ≤ SPA1_HEADER_SIZE
  bytesRead : h.bytesRead = -1 ∨ h.bytesRead = 0 ∨ h.bytesRead = h.got.length

/-- A read of the header, whatever is made of its result. -/
theorem Header.read_of {bytesRead : Int} (result : bytesRead = -1 ∨ bytesRead = 0 ∨
      bytesRead = p.answer.count SPA1_HEADER_SIZE) :
    Header.Read buf ⟨{ buf with bytes := buf.bytes.store 0 (p.answer.got SPA1_HEADER_SIZE) },
      bytesRead, p.answer.got SPA1_HEADER_SIZE, rest⟩ where
  size := rfl
  got := Memory.has_store
  le := Answer.length_got_le
  bytesRead := by
    rcases result with failed | none | count
    · exact .inl failed
    · exact .inr (.inl none)
    · rcases Answer.count_cases (a := p.answer) (n := SPA1_HEADER_SIZE) with
        ⟨minus, -, -⟩ | ⟨length, -⟩
      · exact .inl (count.trans minus)
      · exact .inr (.inr (count.trans length))

theorem header_inside (room : SPA1_HEADER_SIZE ≤ buf.size) :
    0 ≤ (SPA1_HEADER_SIZE : Int) ∧ ((0 : Nat) : Int) + SPA1_HEADER_SIZE ≤ buf.size := by
  omega

theorem awaitHeader_read (room : SPA1_HEADER_SIZE ≤ buf.size) :
    awaitHeader buf polls = .error .waiting ∨
      ∃ h, awaitHeader buf polls = .ok h ∧ h.Read buf := by
  induction polls generalizing buf with
  | nil =>
      rw [awaitHeader, readBus_nil (header_inside room)]
      exact .inl rfl
  | cons p rest ih =>
      rw [awaitHeader, readBus_cons (header_inside room), pure_bind]
      dsimp only
      split
      · rename_i failed
        exact .inr ⟨_, rfl, Header.read_of (.inl failed)⟩
      split
      · exact .inr ⟨_, rfl, Header.read_of (.inl rfl)⟩
      split
      · rcases @ih { buf with bytes := buf.bytes.store 0 (p.answer.got 3) } room with
          waiting | ⟨h, returned, read⟩
        · exact .inl waiting
        · exact .inr ⟨h, returned, read.size, read.got, read.le, read.bytesRead⟩
      · exact .inr ⟨_, rfl, Header.read_of (.inr (.inr rfl))⟩

/-- **The header** is read into a buffer that holds its three bytes, or the read has not come
back. -/
theorem readPacketHeader_read (buf : Buffer) (doBlocking : Bool) (polls : List Poll)
    (room : SPA1_HEADER_SIZE ≤ buf.size) :
    readPacketHeader buf doBlocking polls = .error .waiting ∨
      ∃ h, readPacketHeader buf doBlocking polls = .ok h ∧ h.Read buf := by
  rw [readPacketHeader]
  split
  · exact awaitHeader_read room
  cases polls with
  | nil =>
      rw [readBus_nil (header_inside room)]
      exact .inl rfl
  | cons p rest =>
      rw [readBus_cons (header_inside room), pure_bind]
      dsimp only
      split
      · rename_i failed
        exact .inr ⟨_, rfl, Header.read_of (.inl failed)⟩
      split
      · exact .inr ⟨_, rfl, Header.read_of (.inr (.inl rfl))⟩
      · exact .inr ⟨_, rfl, Header.read_of (.inr (.inr rfl))⟩

/-- A loop that blocks ends with the first read that is late. -/
theorem awaitHeader_ends (room : SPA1_HEADER_SIZE ≤ buf.size) (mem : p ∈ polls)
    (late : p.late) : ∃ h, awaitHeader buf polls = .ok h := by
  induction polls generalizing buf with
  | nil => exact absurd mem List.not_mem_nil
  | cons q rest ih =>
      rw [awaitHeader, readBus_cons (header_inside room), pure_bind]
      dsimp only
      split
      · exact ⟨_, rfl⟩
      split
      · exact ⟨_, rfl⟩
      split
      · rename_i notLate _
        have later : p ∈ rest := by
          rcases List.mem_cons.mp mem with rfl | later
          · exact absurd late notLate
          · exact later
        exact ih room later
      · exact ⟨_, rfl⟩

end Header

/-! ### The packet -/

/-- The whole packet is in the buffer: its header, and behind that as many bytes as the header
says. -/
def Reception.Whole (r : Reception) : Prop :=
  ∃ payload : List UInt8, r.header.length = SPA1_HEADER_SIZE ∧
    (payload.length : Int) = (lengthOf r.buf).toInt ∧
    r.buf.bytes.Has 0 (r.header ++ payload) ∧
    r.second.map (Answer.got payload.length) = some payload ∧
    r.bytesRead = SPA1_HEADER_SIZE + payload.length

/-- What a reception may come to: it leaves no object and asks for nothing that does not fit. It
returns -1, 0 or the size of a whole packet, and -1 where the second read fails. -/
def Bounded (buf : Buffer) (blocking : Bool) (polls : List Poll) : Prop :=
  (∀ f, recvFromAsim buf blocking polls ≠ .error (.fault f)) ∧
    ∀ r, recvFromAsim buf blocking polls = .ok r →
      (r.bytesRead = -1 ∨ r.bytesRead = 0 ∨ r.Whole) ∧
        ∀ errno, r.second = some (.failed errno) → r.bytesRead = -1

/-- What a reception has to find: nothing, a header that is refused, or one with a length that is
not negative. Its three bytes were read, and the second read brings as many as it says. -/
def Proper (buf : Buffer) (blocking : Bool) (polls : List Poll) : Prop :=
  ∀ h, readPacketHeader buf blocking polls = .ok h → h.bytesRead ≠ 0 → h.bytesRead ≠ -1 →
    refuses h.buf = false → 0 ≤ (lengthOf h.buf).toInt ∧
      ∀ p ∈ h.rest.head?, h.got.length = SPA1_HEADER_SIZE ∧
        p.answer.Full (lengthOf h.buf).toInt.toNat

section Packet

variable {buf : Buffer} {blocking : Bool} {polls : List Poll} {h : Header} {p : Poll}
  {rest : List Poll}

/-- A length that is not refused, and not negative, fits. -/
theorem le_of_not_refuses (accepted : refuses buf = false) :
    (lengthOf buf).toInt ≤ MAX_PACKET_PAYLOAD := by
  rw [refuses, Bool.or_eq_false_iff, decide_eq_false_iff_not, decide_eq_false_iff_not] at accepted
  exact Int.not_lt.mp accepted.2

/-- The second read does not touch the length. -/
theorem lengthOf_store {payload : List UInt8} :
    lengthOf { buf with bytes := buf.bytes.store 3 payload } = lengthOf buf := by
  have same : (buf.bytes.store 3 payload).load16 1 = buf.bytes.load16 1 :=
    Memory.load16_congr fun j lt => Memory.store_of_outside (.inl (by omega))
  rw [lengthOf, lengthOf, same]

/-- A payload that was read is whole exactly where the header and the payload are. -/
theorem whole_iff (read : h.Read buf) (nonneg : 0 ≤ (lengthOf h.buf).toInt) :
    let got := p.answer.got (lengthOf h.buf).toInt.toNat
    let count := p.answer.count (lengthOf h.buf).toInt.toNat
    Reception.Whole ⟨{ h.buf with bytes := h.buf.bytes.store 3 got }, h.got.length + count, h.got,
        some p.answer⟩ ↔
      h.got.length = SPA1_HEADER_SIZE ∧ p.answer.Full (lengthOf h.buf).toInt.toNat := by
  intro got count
  constructor
  · rintro ⟨payload, header, length, -, -, bytesRead⟩
    rw [lengthOf_store] at length
    refine ⟨header, ?_⟩
    dsimp only at bytesRead
    rw [header, length] at bytesRead
    rw [Answer.Full, Int.toNat_of_nonneg nonneg]
    exact Int.add_left_cancel bytesRead
  · rintro ⟨header, full⟩
    refine ⟨got, header, ?_, ?_, ?_, ?_⟩
    · rw [lengthOf_store, full.length_got]
      exact Int.toNat_of_nonneg nonneg
    · rw [Memory.has_append, header]
      refine ⟨read.got.store (.inl ?_), Memory.has_store⟩
      rw [header]
      rfl
    · rw [Option.map_some, full.length_got]
    · rw [header]
      show (SPA1_HEADER_SIZE : Int) + count = SPA1_HEADER_SIZE + got.length
      rw [full.length_got]
      exact congrArg _ full

/-- The second read, behind a header that is accepted. -/
theorem bounded_payload_iff (read : h.Read buf) (large : 256 ≤ buf.size)
    (isLength : h.bytesRead = h.got.length) (nonempty : h.got ≠ [])
    (accepted : refuses h.buf = false)
    (ran : recvFromAsim buf blocking polls =
      (readBus h.buf 3 (lengthOf h.buf).toInt h.rest).bind fun result =>
        .ok ⟨result.1, h.bytesRead + result.2.1, h.got, some result.2.2.1.answer⟩) :
    Bounded buf blocking polls ↔ 0 ≤ (lengthOf h.buf).toInt ∧
      ∀ p ∈ h.rest.head?, h.got.length = SPA1_HEADER_SIZE ∧
        p.answer.Full (lengthOf h.buf).toInt.toNat := by
  have le := le_of_not_refuses accepted
  have most : MAX_PACKET_PAYLOAD = 253 := rfl
  have size := read.size
  rw [Bounded, ran]
  by_cases nonneg : 0 ≤ (lengthOf h.buf).toInt
  · have inside : 0 ≤ (lengthOf h.buf).toInt ∧
        ((3 : Nat) : Int) + (lengthOf h.buf).toInt ≤ h.buf.size := ⟨nonneg, by omega⟩
    rw [and_iff_right nonneg]
    cases h.rest with
    | nil =>
        rw [readBus_nil inside]
        exact iff_of_true ⟨nofun, nofun⟩ nofun
    | cons p rest =>
        rw [readBus_cons inside]
        have positive := List.length_pos_iff.mpr nonempty
        have whole := whole_iff (p := p) read nonneg
        dsimp only at whole
        rw [isLength]
        simp only [List.head?_cons, Option.mem_some_iff, forall_eq']
        rw [← whole]
        constructor
        · rintro ⟨-, returns⟩
          obtain ⟨result, failed⟩ := returns _ rfl
          dsimp only at result failed
          rcases Answer.count_cases (a := p.answer) (n := (lengthOf h.buf).toInt.toNat) with
            ⟨count, -, errno, isFailed⟩ | ⟨count, -⟩
          · have minus := failed errno (congrArg some isFailed)
            omega
          · exact (result.resolve_left (by omega)).resolve_left (by omega)
        · intro isWhole
          refine ⟨nofun, fun r same => ?_⟩
          cases same
          refine ⟨.inr (.inr isWhole), fun errno same => ?_⟩
          have full := (whole.mp isWhole).2
          rw [Option.some.inj same, Answer.Full, Answer.count] at full
          omega
  · obtain ⟨f, fault⟩ := readBus_outside h.buf 3 _ h.rest fun inside => nonneg inside.1
    rw [fault]
    exact iff_of_false (fun bounded => bounded.1 f rfl) fun proper => nonneg proper.1

/-- **A reception is bounded** exactly where it finds a proper header and payload. -/
theorem bounded_iff (large : 256 ≤ buf.size) :
    Bounded buf blocking polls ↔ Proper buf blocking polls := by
  rcases readPacketHeader_read buf blocking polls (by rw [SPA1_HEADER_SIZE]; omega) with
    waiting | ⟨h, returned, read⟩
  · have isWaiting : recvFromAsim buf blocking polls = .error .waiting := by
      rw [recvFromAsim, waiting]
      rfl
    rw [Bounded, Proper, isWaiting, waiting]
    exact iff_of_true ⟨nofun, nofun⟩ nofun
  have returns {bytesRead : Int} (isResult : bytesRead = -1 ∨ bytesRead = 0)
      (ran : recvFromAsim buf blocking polls = .ok ⟨h.buf, bytesRead, h.got, none⟩) :
      Bounded buf blocking polls := by
    rw [Bounded, ran]
    refine ⟨nofun, fun r same => ?_⟩
    cases same
    exact ⟨isResult.elim .inl fun none => .inr (.inl none), nofun⟩
  have proper_iff : Proper buf blocking polls ↔ (h.bytesRead ≠ 0 → h.bytesRead ≠ -1 →
      refuses h.buf = false → 0 ≤ (lengthOf h.buf).toInt ∧
        ∀ p ∈ h.rest.head?, h.got.length = SPA1_HEADER_SIZE ∧
          p.answer.Full (lengthOf h.buf).toInt.toNat) := by
    rw [Proper, returned]
    exact ⟨fun all => all h rfl, fun proper h' same => Except.ok.inj same ▸ proper⟩
  rw [proper_iff]
  by_cases none : h.bytesRead = 0
  · refine iff_of_true (returns (.inr rfl) ?_) fun some => absurd none some
    rw [recvFromAsim, returned]
    exact if_pos none
  by_cases failed : h.bytesRead = -1
  · refine iff_of_true (returns (.inl failed) ?_) fun _ ok => absurd failed ok
    rw [recvFromAsim, returned]
    exact (if_neg none).trans (if_pos failed)
  cases refused : refuses h.buf with
  | true =>
      refine iff_of_true (returns (.inl rfl) ?_) nofun
      rw [recvFromAsim, returned]
      exact ((if_neg none).trans (if_neg failed)).trans (if_pos refused)
  | false =>
      have ran : recvFromAsim buf blocking polls =
          (readBus h.buf 3 (lengthOf h.buf).toInt h.rest).bind fun result =>
            .ok ⟨result.1, h.bytesRead + result.2.1, h.got, some result.2.2.1.answer⟩ := by
        rw [recvFromAsim, returned]
        exact ((if_neg none).trans (if_neg failed)).trans
          (if_neg (Bool.not_eq_true _ ▸ refused))
      have isLength := (read.bytesRead.resolve_left failed).resolve_left none
      have nonempty : h.got ≠ [] := by
        intro empty
        rw [isLength, empty] at none
        exact none rfl
      rw [bounded_payload_iff read large isLength nonempty refused ran]
      exact ⟨fun proper _ _ _ => proper, fun proper => proper none failed rfl⟩

/-- A packet of four bytes, the last of which is its payload. -/
theorem bounded_sample : Bounded ⟨fun _ => 0, 256⟩ false
    [⟨.bytes [68, 1, 0], false⟩, ⟨.bytes [7], false⟩] := by
  rw [bounded_iff (by decide)]
  intro h returned _ _ _
  cases returned
  exact ⟨by decide, fun p mem => by cases mem; exact ⟨rfl, rfl⟩⟩

/-- A header whose length is -3 passes both tests, and as many bytes are asked for. -/
theorem not_bounded : ¬ Bounded ⟨fun _ => 0, 256⟩ false [⟨.bytes [68, 253, 255], false⟩] := by
  rintro ⟨noFault, -⟩
  exact noFault _ rfl

end Packet

end Spa1Asim

end Sdm
