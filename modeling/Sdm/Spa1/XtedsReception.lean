import Sdm.Spa1.Reception

/-!
The xTEDS of an ASIM, which comes in packets.

The first header has the length of the whole text. Behind it comes the first payload, and each
later payload has a header of its own. A text that fits one packet is read to an offset behind its
own array.

* `awaitHeader_announced`: a header is found behind the answers that say that nothing is there.
* `recvRest_follows`: the payloads behind the first are put together.
* `reassembles_iff`: which texts are received.
-/

namespace Sdm

open Lib

namespace Spa1Asim

/-! ### The code -/

/-- The locals of `recvXtedsFromAsim`, with the reads that are to come. -/
structure Reassembly where
  headerBuf : Buffer
  xTEDS : Buffer
  bytesRead : Int
  index : Nat
  rest : List Poll

/-- A header and the payload behind it. -/
def recvPacket (size : Nat) (s : Reassembly) : Except Halt Reassembly := do
  let h ← awaitHeader s.headerBuf s.rest
  let (xTEDS, bytesRead, _, rest) ← readBus s.xTEDS s.index size h.rest
  return ⟨h.buf, xTEDS, s.bytesRead + bytesRead, s.index + size, rest⟩

/-- The loop over the packets that are full. -/
def recvPackets : Nat → Reassembly → Except Halt Reassembly
  | 0, s => return s
  | packets + 1, s => do recvPackets packets (← recvPacket MAX_PACKET_PAYLOAD s)

/-- The packets behind the first: those that are full, and the last one. -/
def recvRest (packets lastPacketLength : Nat) (s : Reassembly) : Except Halt Reassembly := do
  let s ← recvPackets packets s
  if lastPacketLength > 0 then recvPacket lastPacketLength s else return s

/-- `new char[n]`, and the `memset`. -/
def newArray (n : Int) : Except Halt Buffer :=
  if n < 0 then .error .thrown else .ok ⟨fun _ => 0, n.toNat⟩

def recvXtedsFromAsim (headerBuf : Buffer) (polls : List Poll) : Except Halt Reassembly := do
  let h ← awaitHeader headerBuf polls
  let length := (lengthOf h.buf).toInt
  let xTEDS ← newArray (length + 1)
  if length ≤ MAX_PACKET_PAYLOAD then
    let (xTEDS, bytesRead, _, rest) ← readBus xTEDS 3 length h.rest
    return ⟨h.buf, xTEDS, bytesRead, 0, rest⟩
  else
    let numberPackets := length.toNat / MAX_PACKET_PAYLOAD
    let lastPacketLength := length.toNat % MAX_PACKET_PAYLOAD
    let (xTEDS, bytesRead, _, rest) ← readBus xTEDS 0 MAX_PACKET_PAYLOAD h.rest
    recvRest (numberPackets - 1) lastPacketLength
      ⟨h.buf, xTEDS, bytesRead, MAX_PACKET_PAYLOAD, rest⟩

/-! ### What an ASIM sends -/

/-- The reads of a header: some that say that nothing is there, and the header. -/
structure Announces (header : List UInt8) (polls : List Poll) : Prop where
  length : header.length = SPA1_HEADER_SIZE
  ne : header ≠ [0xff, 0xff, 0xff]
  polls : ∃ idles, polls =
    List.replicate idles ⟨.bytes [0xff, 0xff, 0xff], false⟩ ++ [⟨.bytes header, false⟩]

/-- The reads of the packets behind the first. Each payload is full, or the last one. -/
inductive Follows : List UInt8 → List Poll → Prop where
  | nil : Follows [] []
  | packet {header chunk text : List UInt8} {announced polls : List Poll} {late : Bool} :
      Announces header announced → chunk ≠ [] →
      chunk.length = min MAX_PACKET_PAYLOAD (chunk ++ text).length → Follows text polls →
      Follows (chunk ++ text) (announced ++ ⟨.bytes chunk, late⟩ :: polls)

/-- The reads of a text: a header with its length, and its payloads. -/
inductive SendsText : List UInt8 → List Poll → Prop where
  | first {type : UInt8} {chunk text : List UInt8} {announced polls : List Poll} {late : Bool} :
      Announces (type :: Memory.bytes16 (.ofNat (chunk ++ text).length)) announced →
      chunk.length = min MAX_PACKET_PAYLOAD (chunk ++ text).length → Follows text polls →
      SendsText (chunk ++ text) (announced ++ ⟨.bytes chunk, late⟩ :: polls)

/-- A text is received: its length is returned, and it is stored with a terminator in an array that
it fills. -/
def Reassembles (text : List UInt8) : Prop :=
  ∀ headerBuf : Buffer, headerBuf.size = SPA1_HEADER_SIZE → ∀ polls, SendsText text polls →
    ∃ s, recvXtedsFromAsim headerBuf polls = .ok s ∧ s.bytesRead = text.length ∧
      s.xTEDS.size = text.length + 1 ∧ s.xTEDS.bytes.Has 0 (text ++ [0])

section Receiving

variable {header chunk text received : List UInt8} {announced polls : List Poll} {buf : Buffer}
  {s : Reassembly} {total : Nat}

theorem isIdle_eq (here : buf.bytes.Has 0 header) (length : header.length = SPA1_HEADER_SIZE) :
    isIdle buf = decide (header = [0xff, 0xff, 0xff]) := by
  obtain ⟨a, b, c, rfl⟩ : ∃ a b c, header = [a, b, c] := List.length_eq_three.mp length
  simp only [Memory.has_cons] at here
  obtain ⟨rfl, rfl, rfl, -⟩ := here
  rw [isIdle, Bool.eq_iff_iff]
  simp [and_assoc]

/-- A read of three bytes in time. -/
theorem awaitHeader_cons (three : header.length = SPA1_HEADER_SIZE)
    (size : buf.size = SPA1_HEADER_SIZE) :
    let buf' : Buffer := { buf with bytes := buf.bytes.store 0 header }
    awaitHeader buf (⟨.bytes header, false⟩ :: polls) =
      if header = [0xff, 0xff, 0xff] then awaitHeader buf' polls
      else .ok ⟨buf', 3, header, polls⟩ := by
  intro buf'
  have got : (Answer.bytes header).got SPA1_HEADER_SIZE = header :=
    List.take_of_length_le three.le
  have count : (Answer.bytes header).count SPA1_HEADER_SIZE = 3 := by
    rw [Answer.count, List.take_of_length_le three.le, three]
    rfl
  rw [awaitHeader, readBus_cons (header_inside size.ge), pure_bind]
  simp only [Int.toNat_natCast, got, count, Bool.false_eq_true, if_false]
  have stored : buf'.bytes.Has 0 header := Memory.has_store
  rw [if_neg (by decide), isIdle_eq stored three]
  simp only [decide_eq_true_eq]
  rfl

/-- A header is found behind the answers that say that nothing is there. -/
theorem awaitHeader_announced (polls : List Poll) (announces : Announces header announced)
    (size : buf.size = SPA1_HEADER_SIZE) :
    ∃ h, awaitHeader buf (announced ++ polls) = .ok h ∧ h.buf.size = SPA1_HEADER_SIZE ∧
      h.buf.bytes.Has 0 header ∧ h.rest = polls := by
  obtain ⟨length, ne, idles, rfl⟩ := announces
  induction idles generalizing buf with
  | zero =>
      rw [List.replicate_zero, List.nil_append, List.singleton_append, awaitHeader_cons length size,
        if_neg ne]
      exact ⟨_, rfl, size, Memory.has_store, rfl⟩
  | succ idles ih =>
      rw [List.replicate_succ, List.cons_append, List.cons_append, awaitHeader_cons rfl size,
        if_pos rfl]
      exact @ih { buf with bytes := buf.bytes.store 0 [0xff, 0xff, 0xff] } size

/-- What is put together so far: the array holds it, and the index and the count are its length. -/
structure Received (total : Nat) (received : List UInt8) (polls : List Poll) (s : Reassembly) :
    Prop where
  headerBuf : s.headerBuf.size = SPA1_HEADER_SIZE
  xTEDS : s.xTEDS = ⟨Memory.store (fun _ => 0) 0 received, total + 1⟩
  bytesRead : s.bytesRead = received.length
  index : s.index = received.length
  rest : s.rest = polls

/-- **A packet** is put behind what was received. -/
theorem recvPacket_received {late : Bool} (announces : Announces header announced)
    (room : received.length + chunk.length ≤ total)
    (so : Received total received (announced ++ ⟨.bytes chunk, late⟩ :: polls) s) :
    ∃ s', recvPacket chunk.length s = .ok s' ∧ Received total (received ++ chunk) polls s' := by
  obtain ⟨h, found, size, -, rest⟩ := awaitHeader_announced (⟨.bytes chunk, late⟩ :: polls)
    announces so.headerBuf
  have inside : 0 ≤ (chunk.length : Int) ∧ (s.index : Int) + chunk.length ≤ s.xTEDS.size := by
    rw [so.index, so.xTEDS]
    dsimp only
    omega
  have got : (Answer.bytes chunk).got chunk.length = chunk := List.take_length
  have count : (Answer.bytes chunk).count chunk.length = chunk.length := by
    rw [Answer.count, List.take_length]
  have ran : recvPacket chunk.length s = .ok ⟨h.buf,
      { s.xTEDS with bytes := s.xTEDS.bytes.store s.index chunk }, s.bytesRead + chunk.length,
      s.index + chunk.length, polls⟩ := by
    rw [recvPacket, so.rest, found]
    show (readBus s.xTEDS s.index chunk.length h.rest >>= _) = _
    rw [rest, readBus_cons inside, pure_bind]
    simp only [Int.toNat_natCast, got, count]
    rfl
  refine ⟨_, ran, size, ?_, ?_, ?_, rfl⟩
  · dsimp only
    rw [so.xTEDS, so.index, Memory.store_append, Nat.zero_add]
  · dsimp only
    rw [so.bytesRead, List.length_append]
    rfl
  · dsimp only
    rw [so.index, List.length_append]

theorem Follows.eq_nil (follows : Follows text polls) (empty : text = []) : polls = [] := by
  cases follows with
  | nil => rfl
  | packet _ ne => exact absurd (List.append_eq_nil_iff.mp empty).1 ne

/-- **The packets behind the first** are put together, whatever their number. -/
theorem recvRest_follows (follows : Follows text polls)
    (room : received.length + text.length ≤ total)
    (so : Received total received polls s) :
    ∃ s', recvRest (text.length / MAX_PACKET_PAYLOAD) (text.length % MAX_PACKET_PAYLOAD) s = .ok s' ∧
      Received total (received ++ text) [] s' := by
  induction follows generalizing received s with
  | nil => exact ⟨s, rfl, by rwa [List.append_nil]⟩
  | @packet header chunk text announced polls late announces ne length follows ih =>
      rw [List.length_append] at room length
      obtain ⟨s', ran, so'⟩ := recvPacket_received announces (by omega) so
      by_cases full : chunk.length = MAX_PACKET_PAYLOAD
      · obtain ⟨s'', rest, so''⟩ := ih (by
          rw [List.length_append]
          omega) so'
        refine ⟨s'', ?_, by rwa [← List.append_assoc]⟩
        have number : (chunk ++ text).length / MAX_PACKET_PAYLOAD =
            text.length / MAX_PACKET_PAYLOAD + 1 := by
          rw [List.length_append, full, Nat.add_comm, Nat.add_div_right _ (by decide)]
        have last : (chunk ++ text).length % MAX_PACKET_PAYLOAD =
            text.length % MAX_PACKET_PAYLOAD := by
          rw [List.length_append, full, Nat.add_mod_left]
        rw [number, last, recvRest, recvPackets, ← full, ran]
        exact full ▸ rest
      · have short : chunk.length < MAX_PACKET_PAYLOAD := by omega
        have empty : text = [] := List.eq_nil_of_length_eq_zero (by omega)
        subst empty
        cases follows.eq_nil rfl
        rw [List.append_nil, Nat.div_eq_of_lt short, Nat.mod_eq_of_lt short, recvRest, recvPackets,
          pure_bind, if_pos (List.length_pos_iff.mpr ne), ran]
        exact ⟨s', rfl, so'⟩

/-- The length that a header announces. -/
theorem lengthOf_announced {type : UInt8} (le : text.length ≤ 32767)
    (here : buf.bytes.Has 0 (type :: Memory.bytes16 (.ofNat text.length))) :
    (lengthOf buf).toInt = text.length := by
  have isLength : buf.bytes.load16 1 = .ofNat text.length := (Memory.has_cons.mp here).2.load16
  have isNat : (UInt16.ofNat text.length).toNat = text.length := by
    rw [UInt16.toNat_ofNat']
    omega
  rw [lengthOf, isLength]
  show (UInt16.ofNat text.length).toBitVec.toInt = text.length
  rw [BitVec.toInt_eq_toNat_of_lt]
  · exact congrArg Nat.cast isNat
  · show 2 * (UInt16.ofNat text.length).toNat < 2 ^ 16
    omega

/-- The array of a text that was announced. -/
theorem recvXtedsFromAsim_eq {h : Header} (found : awaitHeader buf polls = .ok h)
    (length : (lengthOf h.buf).toInt = text.length) :
    let array : Buffer := ⟨fun _ => 0, text.length + 1⟩
    recvXtedsFromAsim buf polls =
      (if text.length ≤ MAX_PACKET_PAYLOAD then do
        let (xTEDS, bytesRead, _, rest) ← readBus array 3 text.length h.rest
        return ⟨h.buf, xTEDS, bytesRead, 0, rest⟩
      else do
        let (xTEDS, bytesRead, _, rest) ← readBus array 0 MAX_PACKET_PAYLOAD h.rest
        recvRest (text.length / MAX_PACKET_PAYLOAD - 1) (text.length % MAX_PACKET_PAYLOAD)
          ⟨h.buf, xTEDS, bytesRead, MAX_PACKET_PAYLOAD, rest⟩) := by
  intro array
  have new : newArray ((text.length : Int) + 1) = pure array := if_neg (by omega)
  rw [recvXtedsFromAsim, found]
  show (newArray _ >>= _) = _
  rw [length, new, pure_bind]
  simp only [Int.ofNat_le, Int.toNat_natCast]

/-- A text of more than one packet is received. -/
theorem reassembles_of_long (le : text.length ≤ 32767) (long : MAX_PACKET_PAYLOAD < text.length) :
    Reassembles text := by
  intro headerBuf size polls sends
  cases sends with
  | @first type chunk rest announced polls late announces isFirst follows =>
      obtain ⟨h, found, size', here, isRest⟩ := awaitHeader_announced
        (⟨.bytes chunk, late⟩ :: polls) announces size
      have full : chunk.length = MAX_PACKET_PAYLOAD := by omega
      have total : (chunk ++ rest).length = chunk.length + rest.length := List.length_append
      have inside : 0 ≤ (MAX_PACKET_PAYLOAD : Int) ∧
          ((0 : Nat) : Int) + MAX_PACKET_PAYLOAD ≤ ((chunk ++ rest).length + 1 : Nat) := by
        omega
      have got : (Answer.bytes chunk).got MAX_PACKET_PAYLOAD = chunk :=
        List.take_of_length_le full.le
      have count : (Answer.bytes chunk).count MAX_PACKET_PAYLOAD = chunk.length := by
        rw [Answer.count, List.take_of_length_le full.le]
      have number : (chunk ++ rest).length / MAX_PACKET_PAYLOAD - 1 =
          rest.length / MAX_PACKET_PAYLOAD := by
        rw [total, full, Nat.add_comm, Nat.add_div_right _ (by decide), Nat.add_sub_cancel]
      have last : (chunk ++ rest).length % MAX_PACKET_PAYLOAD =
          rest.length % MAX_PACKET_PAYLOAD := by
        rw [total, full, Nat.add_mod_left]
      have so : Received (chunk ++ rest).length chunk polls
          ⟨h.buf, ⟨Memory.store (fun _ => 0) 0 chunk, (chunk ++ rest).length + 1⟩, chunk.length,
            MAX_PACKET_PAYLOAD, polls⟩ := ⟨size', rfl, rfl, full.symm, rfl⟩
      obtain ⟨s, ran, received⟩ := recvRest_follows follows total.ge so
      refine ⟨s, ?_, received.bytesRead, by rw [received.xTEDS], ?_⟩
      · rw [recvXtedsFromAsim_eq found (lengthOf_announced le here), if_neg (Nat.not_le.mpr long),
          isRest, readBus_cons inside, pure_bind, number, last]
        simp only [Int.toNat_natCast, got, count]
        exact ran
      · rw [received.xTEDS, Memory.has_append, Nat.zero_add, Memory.has_cons]
        have nul : Memory.store (fun _ => 0) 0 (chunk ++ rest) (chunk ++ rest).length = 0 :=
          Memory.store_of_outside (.inr (Nat.zero_add _).le)
        exact ⟨Memory.has_store, nul, rfl⟩

/-- A text of one packet is read to behind its array. -/
theorem not_reassembles_of_short (short : text.length ≤ MAX_PACKET_PAYLOAD) :
    ¬ Reassembles text := by
  intro all
  have announces : Announces (74 :: Memory.bytes16 (.ofNat (text ++ []).length))
      [⟨.bytes (74 :: Memory.bytes16 (.ofNat (text ++ []).length)), false⟩] :=
    ⟨rfl, by simp, 0, rfl⟩
  have sends : SendsText (text ++ []) (_ ++ ⟨.bytes text, false⟩ :: []) :=
    .first announces (by rw [List.append_nil]; omega) .nil
  rw [List.append_nil] at announces sends
  obtain ⟨s, ran, -⟩ := all ⟨fun _ => 0, SPA1_HEADER_SIZE⟩ rfl _ sends
  have most : MAX_PACKET_PAYLOAD = 253 := rfl
  obtain ⟨h, found, -, here, -⟩ := @awaitHeader_announced _ _
    ⟨fun _ => 0, SPA1_HEADER_SIZE⟩ [⟨.bytes text, false⟩] announces rfl
  obtain ⟨f, fault⟩ := readBus_outside ⟨fun _ => 0, text.length + 1⟩ 3 text.length h.rest
    fun inside => by
      have fits : ((3 : Nat) : Int) + text.length ≤ (text.length + 1 : Nat) := inside.2
      omega
  rw [recvXtedsFromAsim_eq found (lengthOf_announced (by omega) here), if_pos short, fault] at ran
  cases ran

/-- **A text is received** exactly where it does not fit one packet. -/
theorem reassembles_iff (le : text.length ≤ 32767) :
    Reassembles text ↔ MAX_PACKET_PAYLOAD < text.length := by
  constructor
  · intro all
    by_contra short
    exact not_reassembles_of_short (Nat.not_lt.mp short) all
  · exact reassembles_of_long le

/-- A text of two packets, the second one of one byte. -/
theorem reassembles_two_packets : Reassembles (List.replicate 254 65) := by
  have length : (List.replicate 254 (65 : UInt8)).length = 254 := List.length_replicate
  exact (reassembles_iff (by omega)).mpr (by rw [length]; decide)

/-- A text of one byte is read to behind its array of two. -/
theorem not_reassembles : ¬ Reassembles [60] := not_reassembles_of_short (by decide)

end Receiving

end Spa1Asim

end Sdm
