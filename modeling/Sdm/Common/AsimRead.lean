import Sdm.Spa1.Reception

/-!
`ASIM::Read`: a message of a device, from what its driver gives for the reads.

A message is a type, a length of two bytes and as many bytes of data. The order of the length bytes
depends on the version of the device, which is in the first byte of a version message. The first
reads go on until there is a header, and may bring data. The others ask for as much as `msg` holds,
and are copied behind the data as they come.

* `readHeader_pieces`, `readData_pieces`: a message that comes in pieces.
* `readData_noFault_iff`, `read_noFault_iff`: when nothing is written behind the data.
* `reads_messages_iff`: which messages are read, and when all writes stay inside.
-/

namespace Sdm

open Lib Checked

def ASIM_STATUS : UInt8 := 'S'.toUInt8
def ASIM_XTEDS : UInt8 := 'X'.toUInt8
def ASIM_XTEDS_ID_PAIR : UInt8 := 'Y'.toUInt8
def ASIM_DATA : UInt8 := 'D'.toUInt8
def ASIM_VERSION : UInt8 := 'V'.toUInt8
def ASIM_TIME_AT_TONE : UInt8 := 'O'.toUInt8
def ASIM_ERROR : UInt8 := 'e'.toUInt8
def ASIM_TIMEOUT : UInt8 := 't'.toUInt8
def ASIM_MAX_OUT : Nat := 64

/-- The version before a device has told its own. -/
def NO_VERSION : UInt8 := 0xFF

/-- The error number of a read that timed out. -/
def TIMED_OUT : Nat := 110

/-- `ASIM`: its handle and its version. -/
structure ASIM where
  handle : Int
  version : UInt8

namespace ASIM

/-- An access that leaves its object ends the function. -/
def checked {α : Type} : Checked α → Except Halt α
  | .ok a => .ok a
  | .error f => .error (.fault f)

/-- `errno` after a read. -/
def errnoAfter (errno : Nat) : Answer → Nat
  | .failed e => e
  | .bytes _ => errno

/-- The loop that reads at least a header: a status to return, or the number of bytes in `msg`. With
the reads that are to come. `errno` is what it was before. -/
def readHeader (errno : Nat) :
    Buffer → Nat → List Answer → Except Halt (Except UInt8 (Buffer × Nat) × List Answer)
  | msg, bytes_received, [] =>
      if 3 ≤ bytes_received then .ok (.ok (msg, bytes_received), []) else .error .waiting
  | msg, bytes_received, a :: reads =>
      if 3 ≤ bytes_received then .ok (.ok (msg, bytes_received), a :: reads)
      else do
        let (msg, result) ←
          checked (msg.receive bytes_received ((ASIM_MAX_OUT : Int) - bytes_received) a)
        if result ≤ 0 then
          if result = 0 ∨ errnoAfter errno a = TIMED_OUT then return (.error ASIM_TIMEOUT, reads)
          else return (.error ASIM_ERROR, reads)
        else readHeader errno msg (bytes_received + result.toNat) reads

/-- The loop that reads on, up to the length: a status to return, if any, and the data. -/
def readData (errno length : Nat) :
    Buffer → Buffer → Nat → List Answer → Except Halt (Option UInt8 × Buffer × List Answer)
  | _, data, bytes_so_far, [] =>
      if bytes_so_far < length then .error .waiting else .ok (none, data, [])
  | msg, data, bytes_so_far, a :: reads =>
      if bytes_so_far < length then do
        let (msg, result) ← checked (msg.receive 0 ASIM_MAX_OUT a)
        if result ≤ 0 then
          if errnoAfter errno a = TIMED_OUT then return (some ASIM_TIMEOUT, data, reads)
          else if result = 0 then readData errno length msg data bytes_so_far reads
          else return (some ASIM_ERROR, data, reads)
        else
          let bytes ← checked (msg.memcpy data.size bytes_so_far 0 result.toNat)
          readData errno length msg { data with bytes := data.bytes.store bytes_so_far bytes }
            (bytes_so_far + result.toNat) reads
      else .ok (none, data, a :: reads)

/-- What `Read` leaves: the members of the object, its result, the length, the data, and the reads
that are to come. -/
structure ReadResult where
  asim : ASIM
  result : UInt8
  length : Nat
  data : Buffer
  reads : List Answer

/-- The length bytes, in the order of the version. -/
def lengthBytes (version : UInt8) (msg : Memory) : Nat :=
  if version ≠ NO_VERSION then (msg 2).toNat + (msg 1).toNat * 256
  else (msg 1).toNat + (msg 2).toNat * 256

/-- The version that is known when the length is read. -/
def versionOf (version : UInt8) (msg : Memory) : UInt8 :=
  if msg 0 = ASIM_VERSION then msg 3 else version

/-- What `Read` takes for the length. -/
def lengthOf (version : UInt8) (msg : Memory) : Nat :=
  if msg 0 = ASIM_STATUS then 1 else lengthBytes (versionOf version msg) msg

/-- `Read` from the header on. -/
def readBehind (asim : ASIM) (errno : Nat) (data msg : Buffer) (bytes_received : Nat)
    (reads : List Answer) : Except Halt ReadResult := do
  let version := versionOf asim.version msg.bytes
  let length := lengthOf asim.version msg.bytes
  let bytes ← checked (msg.memcpy data.size 0 3 (bytes_received - 3))
  let data := { data with bytes := data.bytes.store 0 bytes }
  if data.size < length then return ⟨{ asim with version }, ASIM_ERROR, length, data, reads⟩
  let (status, data, reads) ← readData errno length msg data (bytes_received - 3) reads
  return ⟨{ asim with version }, status.getD (msg.bytes 0), length, data, reads⟩

/-- `Read` behind its first loop. -/
def readOn (asim : ASIM) (errno : Nat) (data : Buffer) :
    Except UInt8 (Buffer × Nat) × List Answer → Except Halt ReadResult
  | (.error status, reads) => .ok ⟨asim, status, 0, data, reads⟩
  | (.ok (msg, bytes_received), reads) => readBehind asim errno data msg bytes_received reads

/-- `ASIM::Read`: `data` is the buffer of `buflength` bytes. -/
def Read (asim : ASIM) (errno : Nat) (data : Buffer) (reads : List Answer) :
    Except Halt ReadResult := do
  if asim.handle < 0 then return ⟨asim, ASIM_ERROR, 0, data, reads⟩
  readOn asim errno data (← readHeader errno ⟨fun _ => 0, ASIM_MAX_OUT⟩ 0 reads)

/-! ### What a device sends -/

/-- A message of a device. -/
structure DeviceMessage where
  type : UInt8
  data : List UInt8
  length_lt : data.length < 65536

namespace DeviceMessage

/-- The version that the message is in. A version message says it itself. -/
def version (m : DeviceMessage) (known : UInt8) : UInt8 :=
  if m.type = ASIM_VERSION then m.data.headD 0 else known

/-- The bytes of the message, the length in the order of the version. -/
def bytes (m : DeviceMessage) (known : UInt8) : List UInt8 :=
  let low := UInt8.ofNat m.data.length
  let high := UInt8.ofNat (m.data.length / 256)
  m.type :: (if m.version known ≠ NO_VERSION then [high, low] else [low, high]) ++ m.data

end DeviceMessage

/-- Results of reads of at least one byte, after `received` bytes. None is longer than asked for. -/
def Delivers : Nat → List (List UInt8) → Prop
  | _, [] => True
  | received, p :: pieces =>
      p ≠ [] ∧ p.length ≤ (if received < 3 then ASIM_MAX_OUT - received else ASIM_MAX_OUT) ∧
        Delivers (received + p.length) pieces

/-- The message is read from these pieces. -/
def Reassembles (asim : ASIM) (errno : Nat) (data : Buffer) (m : DeviceMessage)
    (pieces : List (List UInt8)) : Prop :=
  ∃ r, asim.Read errno data (pieces.map .bytes) = .ok r ∧ r.result = m.type ∧
    r.length = m.data.length ∧ r.data = { data with bytes := data.bytes.store 0 m.data } ∧
    (m.type = ASIM_VERSION → ∀ b, m.data.head? = some b → r.asim.version = b) ∧
    (m.type ≠ ASIM_VERSION → r.asim.version = asim.version)

/-- No access has left its object. -/
def NoFault {α : Type} (c : Except Halt α) : Prop := ∀ f, c ≠ .error (.fault f)

/-- What is read up to the length fits behind the data that there is. -/
def FitsData (errno size length : Nat) : Nat → List Answer → Prop
  | _, [] => True
  | _, .failed _ :: _ => True
  | so_far, .bytes l :: reads =>
      so_far < length →
        if l = [] then errno ≠ TIMED_OUT → FitsData errno size length so_far reads
        else so_far + (l.take ASIM_MAX_OUT).length ≤ size ∧
          FitsData errno size length (so_far + (l.take ASIM_MAX_OUT).length) reads

/-- With these bytes up to the header and behind it, the data fits. -/
def FitsBehind (errno : Nat) (version : UInt8) (size : Nat) (got : List UInt8)
    (reads : List Answer) : Prop :=
  let length := lengthOf version (Memory.store (fun _ => 0) 0 got)
  got.length - 3 ≤ size ∧ (length ≤ size → FitsData errno size length (got.length - 3) reads)

/-- The reads that are taken fit: what those up to the header bring behind it, and those up to the
length. -/
def FitsHeader (errno : Nat) (version : UInt8) (size : Nat) : List UInt8 → List Answer → Prop
  | got, [] => 3 ≤ got.length → FitsBehind errno version size got []
  | got, .failed e :: reads =>
      3 ≤ got.length → FitsBehind errno version size got (.failed e :: reads)
  | got, .bytes l :: reads =>
      if 3 ≤ got.length then FitsBehind errno version size got (.bytes l :: reads)
      else l = [] ∨ FitsHeader errno version size (got ++ l.take (ASIM_MAX_OUT - got.length)) reads

section Reads

variable {errno length so_far : Nat} {version : UInt8} {got l : List UInt8} {msg data : Buffer}
  {reads : List Answer} {a : Answer} {asim : ASIM}

/-- `msg` with these bytes in it. -/
def held (got : List UInt8) : Buffer := ⟨Memory.store (fun _ => 0) 0 got, ASIM_MAX_OUT⟩

theorem held_nil : held [] = ⟨fun _ => 0, ASIM_MAX_OUT⟩ := by
  have same : Memory.store (fun _ => 0) 0 [] = fun _ => 0 := by
    funext a
    exact Memory.store_of_outside (by rw [List.length_nil]; omega)
  rw [held, same]

/-! ### The loop up to the header -/

theorem receive_held (a : Answer) (short : got.length < 3) :
    (held got).receive got.length ((ASIM_MAX_OUT : Int) - got.length) a =
      .ok (held (got ++ a.got (ASIM_MAX_OUT - got.length)), a.count (ASIM_MAX_OUT - got.length)) := by
  have size : (held got).size = 64 := rfl
  have asked : ((ASIM_MAX_OUT : Int) - got.length).toNat = ASIM_MAX_OUT - got.length := by
    unfold ASIM_MAX_OUT
    omega
  refine Buffer.receive_eq_ok.mpr ⟨?_, ?_⟩
  · rw [size]
    unfold ASIM_MAX_OUT
    omega
  · rw [asked, held, held, Memory.store_append, Nat.zero_add]

theorem count_nil (n : Nat) : (Answer.bytes []).count n = 0 := by
  rw [Answer.count, List.take_nil]
  rfl

theorem readHeader_full (full : 3 ≤ got.length) :
    readHeader errno msg got.length reads = .ok (.ok (msg, got.length), reads) := by
  cases reads with
  | nil => rw [readHeader, if_pos full]
  | cons a reads => rw [readHeader, if_pos full]

theorem readHeader_failed (errno : Nat) (reads : List Answer) (short : got.length < 3) (e : Nat) :
    ∃ status,
    readHeader errno (held got) got.length (.failed e :: reads) = .ok (.error status, reads) := by
  rw [readHeader, if_neg (Nat.not_le.mpr short), receive_held _ short]
  by_cases timeout : e = TIMED_OUT
  · exact ⟨ASIM_TIMEOUT, if_pos (.inr timeout)⟩
  · exact ⟨ASIM_ERROR, if_neg (not_or.mpr ⟨nofun, timeout⟩)⟩

theorem readHeader_empty (short : got.length < 3) :
    readHeader errno (held got) got.length (.bytes [] :: reads) =
      .ok (.error ASIM_TIMEOUT, reads) := by
  rw [readHeader, if_neg (Nat.not_le.mpr short), receive_held _ short, count_nil]
  rfl

theorem readHeader_bytes (errno : Nat) (reads : List Answer) (short : got.length < 3)
    (some : l ≠ []) :
    readHeader errno (held got) got.length (.bytes l :: reads) =
      readHeader errno (held (got ++ l.take (ASIM_MAX_OUT - got.length)))
        (got ++ l.take (ASIM_MAX_OUT - got.length)).length reads := by
  have pos : 0 < (l.take (ASIM_MAX_OUT - got.length)).length := by
    have := List.length_pos_of_ne_nil some
    rw [List.length_take]
    unfold ASIM_MAX_OUT
    omega
  rw [readHeader, if_neg (Nat.not_le.mpr short), receive_held _ short]
  refine Eq.trans (pure_bind (held (got ++ l.take (ASIM_MAX_OUT - got.length)),
    ((l.take (ASIM_MAX_OUT - got.length)).length : Int)) _) ?_
  dsimp only
  rw [if_neg (by omega), Int.toNat_natCast, List.length_append]

/-! ### The loop up to the length -/

theorem receive_msg (size : msg.size = ASIM_MAX_OUT) (a : Answer) :
    msg.receive 0 ASIM_MAX_OUT a =
      .ok ({ msg with bytes := msg.bytes.store 0 (a.got ASIM_MAX_OUT) }, a.count ASIM_MAX_OUT) :=
  Buffer.receive_eq_ok.mpr ⟨⟨Int.natCast_nonneg _, by rw [size]; exact Int.le_refl _⟩, rfl⟩

theorem memcpy_of_inside {b : Buffer} {arraySize off src n : Nat} (inside : src + n ≤ b.size) :
    b.memcpy arraySize off src n =
      (access ⟨arraySize, off, n⟩).map fun _ => b.bytes.read src n := by
  have reads : access ⟨b.size, src, n⟩ = .ok () := access_eq_ok.mpr inside
  rw [Buffer.memcpy, reads]
  cases access ⟨arraySize, off, n⟩ with
  | ok u => rfl
  | error f => rfl

theorem readData_full (full : length ≤ so_far) :
    readData errno length msg data so_far reads = .ok (none, data, reads) := by
  cases reads with
  | nil => rw [readData, if_neg (Nat.not_lt.mpr full)]
  | cons a reads => rw [readData, if_neg (Nat.not_lt.mpr full)]

theorem readData_failed (errno : Nat) (data : Buffer) (reads : List Answer)
    (size : msg.size = ASIM_MAX_OUT) (short : so_far < length) (e : Nat) :
    ∃ status, readData errno length msg data so_far (.failed e :: reads) =
      .ok (some status, data, reads) := by
  rw [readData, if_pos short, receive_msg size]
  by_cases timeout : e = TIMED_OUT
  · exact ⟨ASIM_TIMEOUT, if_pos timeout⟩
  · exact ⟨ASIM_ERROR, if_neg timeout⟩

theorem readData_empty (errno : Nat) (data : Buffer) (reads : List Answer)
    (size : msg.size = ASIM_MAX_OUT) (short : so_far < length) :
    ∃ msg' : Buffer, msg'.size = ASIM_MAX_OUT ∧
      readData errno length msg data so_far (.bytes [] :: reads) =
        if errno = TIMED_OUT then .ok (some ASIM_TIMEOUT, data, reads)
        else readData errno length msg' data so_far reads := by
  refine ⟨{ msg with bytes := msg.bytes.store 0 [] }, size, ?_⟩
  rw [readData, if_pos short, receive_msg size, count_nil, Answer.got, List.take_nil]
  rfl

/-- What a read brings is copied behind the data, whether it fits or not. -/
theorem readData_bytes (errno : Nat) (data : Buffer) (reads : List Answer)
    (size : msg.size = ASIM_MAX_OUT) (short : so_far < length) (some : l ≠ []) :
    ∃ msg' : Buffer, msg'.size = ASIM_MAX_OUT ∧
      readData errno length msg data so_far (.bytes l :: reads) =
        (checked (access ⟨data.size, so_far, (l.take ASIM_MAX_OUT).length⟩)).bind fun _ =>
          readData errno length msg'
            { data with bytes := data.bytes.store so_far (l.take ASIM_MAX_OUT) }
            (so_far + (l.take ASIM_MAX_OUT).length) reads := by
  have pos : 0 < (l.take ASIM_MAX_OUT).length := by
    have := List.length_pos_of_ne_nil some
    rw [List.length_take]
    unfold ASIM_MAX_OUT
    omega
  have le : (l.take ASIM_MAX_OUT).length ≤ ASIM_MAX_OUT := List.length_take_le _ _
  refine ⟨{ msg with bytes := msg.bytes.store 0 (l.take ASIM_MAX_OUT) }, size, ?_⟩
  rw [readData, if_pos short, receive_msg size]
  refine Eq.trans (pure_bind (({ msg with bytes := msg.bytes.store 0 (l.take ASIM_MAX_OUT) } : Buffer),
    ((l.take ASIM_MAX_OUT).length : Int)) _) ?_
  dsimp only
  rw [if_neg (by omega), Int.toNat_natCast, memcpy_of_inside (by rw [size]; omega),
    Memory.read_store]
  cases access ⟨data.size, so_far, (l.take ASIM_MAX_OUT).length⟩ with
  | ok u => rfl
  | error f => rfl

/-! ### A message that comes in pieces -/

/-- The first loop takes the pieces up to the one that completes the header. -/
theorem readHeader_pieces (errno : Nat) (got : List UInt8) {pieces : List (List UInt8)}
    (delivers : Delivers got.length pieces)
    (enough : 3 ≤ got.length + pieces.flatten.length) (within : got.length ≤ ASIM_MAX_OUT) :
    ∃ front back, pieces = front ++ back ∧
      readHeader errno (held got) got.length (pieces.map .bytes) =
        .ok (.ok (held (got ++ front.flatten), (got ++ front.flatten).length), back.map .bytes) ∧
      3 ≤ (got ++ front.flatten).length ∧ (got ++ front.flatten).length ≤ ASIM_MAX_OUT ∧
      Delivers (got ++ front.flatten).length back ∧
      ((∃ front' back', pieces = front' ++ back' ∧ got.length + front'.flatten.length = 3) →
        (got ++ front.flatten).length = 3) := by
  induction pieces generalizing got with
  | nil =>
      rw [List.flatten_nil, List.length_nil, Nat.add_zero] at enough
      refine ⟨[], [], rfl, ?_, ?_, ?_, trivial, ?_⟩
      all_goals rw [List.flatten_nil, List.append_nil]
      · exact readHeader_full enough
      · exact enough
      · exact within
      · rintro ⟨front, back, -, three⟩
        omega
  | cons p pieces ih =>
      by_cases full : 3 ≤ got.length
      · refine ⟨[], p :: pieces, rfl, ?_, ?_, ?_, ?_, ?_⟩
        all_goals rw [List.flatten_nil, List.append_nil]
        · exact readHeader_full full
        · exact full
        · exact within
        · exact delivers
        · rintro ⟨front, back, -, three⟩
          omega
      · have short := Nat.not_le.mp full
        obtain ⟨some, le, delivers⟩ := delivers
        rw [if_pos short] at le
        have step := readHeader_bytes errno (pieces.map .bytes) short some
        rw [List.take_of_length_le le] at step
        rw [← List.length_append] at delivers
        rw [List.flatten_cons, List.length_append, ← Nat.add_assoc, ← List.length_append] at enough
        obtain ⟨front, back, whole, ran, three, within', delivers', first⟩ := ih _ delivers enough (by
          rw [List.length_append]
          omega)
        refine ⟨p :: front, back, by rw [whole]; rfl, ?_, ?_, ?_, ?_, ?_⟩
        all_goals rw [List.flatten_cons, ← List.append_assoc]
        · rw [List.map_cons, step, ran]
        · exact three
        · exact within'
        · exact delivers'
        · rintro ⟨front', back', split, isThree⟩
          refine first ?_
          cases front' with
          | nil =>
              rw [List.flatten_nil, List.length_nil] at isThree
              omega
          | cons p' front' =>
              obtain ⟨rfl, rest⟩ := List.cons.inj split
              rw [List.flatten_cons, List.length_append, ← Nat.add_assoc, ← List.length_append]
                at isThree
              exact ⟨front', back', rest, isThree⟩

/-- The second loop takes the pieces as they are. -/
theorem readData_pieces (errno : Nat) {pieces : List (List UInt8)} (size : msg.size = ASIM_MAX_OUT)
    (delivers : Delivers (so_far + 3) pieces) (total : so_far + pieces.flatten.length = length)
    (room : length ≤ data.size) :
    readData errno length msg data so_far (pieces.map .bytes) =
      .ok (none, { data with bytes := data.bytes.store so_far pieces.flatten }, []) := by
  induction pieces generalizing msg data so_far with
  | nil =>
      rw [List.flatten_nil, List.length_nil] at total
      have same : data.bytes.store so_far [] = data.bytes := by
        funext a
        exact Memory.store_of_outside (by rw [List.length_nil]; omega)
      rw [List.map_nil, readData_full (by omega), List.flatten_nil, same]
  | cons p pieces ih =>
      obtain ⟨some, le, delivers⟩ := delivers
      rw [if_neg (by omega)] at le
      have pos := List.length_pos_of_ne_nil some
      rw [List.flatten_cons, List.length_append] at total
      obtain ⟨msg', size', step⟩ := readData_bytes errno data (pieces.map .bytes) size
        (show so_far < length by omega) some
      rw [List.take_of_length_le le] at step
      have inside : access ⟨data.size, so_far, p.length⟩ = .ok () :=
        access_eq_ok.mpr (show so_far + p.length ≤ data.size by omega)
      rw [Nat.add_right_comm] at delivers
      rw [List.map_cons, step, inside, List.flatten_cons, Memory.store_append]
      exact @ih (so_far + p.length) msg' { data with bytes := data.bytes.store so_far p } size'
        delivers (by omega) room

end Reads

/-! ### Messages -/

section Message

variable {errno : Nat} {data msg : Buffer} {reads : List Answer} {asim : ASIM} {n : Nat}
  {m : DeviceMessage} {pieces : List (List UInt8)} {known : UInt8} {got rest : List UInt8}

theorem held_bytes (k : Nat) : (held got).bytes k = got.getD k 0 := by
  show Memory.store (fun _ => 0) 0 got k = _
  by_cases inside : k < got.length
  · rw [Memory.store_of_inside ⟨Nat.zero_le k, by omega⟩, Nat.sub_zero]
  · rw [Memory.store_of_outside (by omega), List.getD_eq_default _ _ (Nat.not_lt.mp inside)]

/-- The length bytes of a message, in the order of its version. -/
theorem lengthBytes_eq {bytes : Memory} (length_lt : n < 65536)
    (first : bytes 1 = if known ≠ NO_VERSION then UInt8.ofNat (n / 256) else UInt8.ofNat n)
    (second : bytes 2 = if known ≠ NO_VERSION then UInt8.ofNat n else UInt8.ofNat (n / 256)) :
    lengthBytes known bytes = n := by
  rw [lengthBytes, first, second]
  split
  · simp only [UInt8.toNat_ofNat']
    omega
  · simp only [UInt8.toNat_ofNat']
    omega

/-- The header, and what comes with it. -/
theorem bytes_eq (whole : m.bytes known = got ++ rest) (enough : 3 ≤ got.length) :
    ∃ b c front, got = m.type :: b :: c :: front ∧ m.data = front ++ rest ∧
      (b = if m.version known ≠ NO_VERSION then UInt8.ofNat (m.data.length / 256)
        else UInt8.ofNat m.data.length) ∧
      (c = if m.version known ≠ NO_VERSION then UInt8.ofNat m.data.length
        else UInt8.ofNat (m.data.length / 256)) := by
  match got, enough with
  | a :: b :: c :: front, _ =>
      rw [DeviceMessage.bytes] at whole
      by_cases order : m.version known ≠ NO_VERSION
      · rw [if_pos order] at whole
        simp only [List.cons_append, List.nil_append, List.cons.injEq] at whole
        obtain ⟨rfl, rfl, rfl, data⟩ := whole
        exact ⟨_, _, front, rfl, data, (if_pos order).symm, (if_pos order).symm⟩
      · rw [if_neg order] at whole
        simp only [List.cons_append, List.nil_append, List.cons.injEq] at whole
        obtain ⟨rfl, rfl, rfl, data⟩ := whole
        exact ⟨_, _, front, rfl, data, (if_neg order).symm, (if_neg order).symm⟩

/-- **The header** says the length to a reader that has the version. That has every reader but one
that gets the header of a version message without the byte behind it. -/
theorem header_held (whole : m.bytes known = got ++ rest) (enough : 3 ≤ got.length) :
    (held got).bytes 0 = m.type ∧
      lengthBytes (m.version known) (held got).bytes = m.data.length ∧
      (versionOf known (held got).bytes = m.version known ↔
        (m.type = ASIM_VERSION → got.length = 3 → m.data.headD 0 = 0)) := by
  obtain ⟨b, c, front, rfl, data, first, second⟩ := bytes_eq whole enough
  have type : (held (m.type :: b :: c :: front)).bytes 0 = m.type := held_bytes 0
  refine ⟨type, lengthBytes_eq m.length_lt ((held_bytes 1).trans first)
    ((held_bytes 2).trans second), ?_⟩
  have fourth : (held (m.type :: b :: c :: front)).bytes 3 = front.headD 0 := by
    rw [held_bytes]
    cases front with
    | nil => rfl
    | cons d front => rfl
  rw [versionOf, type, DeviceMessage.version, fourth]
  by_cases isVersion : m.type = ASIM_VERSION
  · rw [if_pos isVersion, if_pos isVersion, data]
    cases front with
    | nil => exact ⟨fun same _ _ => same.symm, fun zero => (zero isVersion rfl).symm⟩
    | cons d front => exact iff_of_true rfl fun _ three => absurd three (by simp)
  · rw [if_neg isVersion, if_neg isVersion]
    exact iff_of_true rfl fun yes => absurd yes isVersion

theorem halt_bind_eq_ok {α β : Type} {c : Except Halt α} {f : α → Except Halt β} {b : β} :
    (c >>= f) = .ok b ↔ ∃ a, c = .ok a ∧ f a = .ok b := by
  cases c with
  | error halt =>
      constructor
      · nofun
      · rintro ⟨a, same, -⟩
        cases same
  | ok a =>
      constructor
      · exact fun done => ⟨a, rfl, done⟩
      · rintro ⟨a', same, done⟩
        cases same
        exact done

theorem readBehind_ok {r : ReadResult} (done : readBehind asim errno data msg n reads = .ok r) :
    r.length = lengthOf asim.version msg.bytes ∧
      r.asim.version = versionOf asim.version msg.bytes := by
  rw [readBehind] at done
  obtain ⟨bytes, -, done⟩ := halt_bind_eq_ok.mp done
  dsimp only at done
  split at done
  · cases done
    exact ⟨rfl, rfl⟩
  · obtain ⟨⟨status, data, reads⟩, -, done⟩ := halt_bind_eq_ok.mp done
    cases done
    exact ⟨rfl, rfl⟩

theorem read_held {a b c : UInt8} {front : List UInt8} :
    (held (a :: b :: c :: front)).bytes.read 3 front.length = front :=
  Memory.read_eq fun j _ => by
    rw [held_bytes, Nat.add_comm]
    rfl

/-- **A message is read** from its pieces, whatever they are: where its status has one byte, and
where a version message is not cut behind its header. -/
theorem reassembles_message_iff (opened : 0 ≤ asim.handle) (delivers : Delivers 0 pieces)
    (whole : pieces.flatten = m.bytes asim.version) (room : m.data.length ≤ data.size) :
    asim.Reassembles errno data m pieces ↔ (m.type = ASIM_STATUS → m.data.length = 1) ∧
      (m.type = ASIM_VERSION → m.data.headD 0 ≠ 0 →
        ∀ front back, pieces = front ++ back → front.flatten.length ≠ 3) := by
  have enough : 3 ≤ ([] : List UInt8).length + pieces.flatten.length := by
    rw [whole, DeviceMessage.bytes]
    split
    all_goals
      simp only [List.cons_append, List.nil_append, List.length_cons, List.length_nil]
      omega
  obtain ⟨front, back, split, ran, three, within, delivers', first⟩ :=
    readHeader_pieces errno [] delivers enough (Nat.zero_le _)
  rw [List.nil_append] at ran three within delivers' first
  have read : asim.Read errno data (pieces.map .bytes) =
      readBehind asim errno data (held front.flatten) front.flatten.length (back.map .bytes) := by
    rw [Read, if_neg (Int.not_lt.mpr opened), ← held_nil]
    show (readHeader errno (held []) ([] : List UInt8).length (pieces.map .bytes)).bind _ = _
    rw [ran]
    rfl
  have isWhole : m.bytes asim.version = front.flatten ++ back.flatten := by
    rw [← whole, split, List.flatten_append]
  obtain ⟨type, length, versionIff⟩ := header_held isWhole three
  obtain ⟨b, c, start, isFront, isData, -⟩ := bytes_eq isWhole three
  constructor
  · rintro ⟨r, done, -, isLength, -, isVersion, -⟩
    rw [read] at done
    obtain ⟨lengthEq, versionEq⟩ := readBehind_ok done
    rw [lengthOf, type] at lengthEq
    refine ⟨fun status => ?_, fun version some front' back' split' three' => ?_⟩
    · rw [← isLength, lengthEq, if_pos status]
    · have isThree := first ⟨front', back', split', by rwa [List.length_nil, Nat.zero_add]⟩
      obtain ⟨d, rest, head⟩ : ∃ d rest, m.data = d :: rest := by
        cases data' : m.data with
        | nil =>
            rw [data'] at some
            exact absurd rfl some
        | cons d rest => exact ⟨d, rest, rfl⟩
      have known := isVersion version d (by rw [head]; rfl)
      refine some (versionIff.mp ?_ version isThree)
      rw [← versionEq, known, DeviceMessage.version, if_pos version, head]
      rfl
  · rintro ⟨status, version⟩
    have isVersion := versionIff.mpr fun isVersion isThree => by
      by_contra some
      exact version isVersion some front back split isThree
    have isLength : lengthOf asim.version (held front.flatten).bytes = m.data.length := by
      rw [lengthOf, type, isVersion, length]
      split
      · rename_i isStatus
        exact (status isStatus).symm
      · rfl
    have lengths : m.data.length = start.length + back.flatten.length := by
      rw [isData, List.length_append]
    have startLength : front.flatten.length - 3 = start.length := by
      rw [isFront]
      rfl
    have copied : checked ((held front.flatten).memcpy data.size 0 3 (front.flatten.length - 3)) =
        .ok start := by
      have inside : (access ⟨data.size, 0, start.length⟩ : Checked Unit) = .ok () :=
        access_eq_ok.mpr (show 0 + start.length ≤ data.size by omega)
      rw [memcpy_of_inside (show 3 + (front.flatten.length - 3) ≤ ASIM_MAX_OUT by omega),
        startLength, inside, isFront, read_held]
      rfl
    have delivers : Delivers (start.length + 3) back := by
      rw [isFront] at delivers'
      exact delivers'
    have goesOn := readData_pieces errno
      (show (held front.flatten).size = ASIM_MAX_OUT from rfl) delivers lengths.symm
      (show m.data.length ≤ ({ data with bytes := data.bytes.store 0 start } : Buffer).size from room)
    have stored : (data.bytes.store 0 start).store start.length back.flatten =
        data.bytes.store 0 m.data := by
      rw [isData, Memory.store_append, Nat.zero_add]
    have done : readBehind asim errno data (held front.flatten) front.flatten.length
        (back.map .bytes) = .ok ⟨{ asim with version := m.version asim.version }, m.type,
          m.data.length, { data with bytes := data.bytes.store 0 m.data }, []⟩ := by
      rw [readBehind, copied]
      refine Eq.trans (pure_bind start _) ?_
      dsimp only
      rw [isLength, isVersion, if_neg (Nat.not_lt.mpr room), startLength, goesOn, type, stored]
      rfl
    refine ⟨_, read.trans done, rfl, rfl, rfl, fun version' d head => ?_, fun other => ?_⟩
    · show m.version asim.version = d
      rw [DeviceMessage.version, if_pos version', List.headD_eq_head?_getD, head]
      rfl
    · exact if_neg other

end Message

/-! ### Where is written -/

section Faults

variable {errno length so_far : Nat} {got : List UInt8} {msg data : Buffer} {reads : List Answer}
  {asim : ASIM} {α β : Type}

theorem noFault_ok (a : α) : NoFault (.ok a : Except Halt α) := nofun

theorem noFault_access_bind {touched : Access} {f : Unit → Except Halt β} :
    NoFault ((checked (access touched)).bind f) ↔ touched.Inside ∧ NoFault (f ()) := by
  rw [access]
  split
  · rename_i inside
    exact (and_iff_right inside).symm
  · rename_i outside
    exact iff_of_false (fun noFault => noFault _ rfl) fun both => outside both.1

/-- **The reads up to the length** write inside the data exactly where they fit. -/
theorem readData_noFault_iff (size : msg.size = ASIM_MAX_OUT) :
    NoFault (readData errno length msg data so_far reads) ↔
      FitsData errno data.size length so_far reads := by
  induction reads generalizing msg data so_far with
  | nil =>
      refine iff_of_true ?_ trivial
      rw [readData]
      split
      all_goals nofun
  | cons a reads ih =>
      by_cases short : so_far < length
      · cases a with
        | failed e =>
            obtain ⟨status, step⟩ := readData_failed errno data reads size short e
            rw [step]
            exact iff_of_true (noFault_ok _) trivial
        | bytes l =>
            rw [FitsData]
            by_cases empty : l = []
            · subst empty
              obtain ⟨msg', size', step⟩ := readData_empty errno data reads size short
              rw [step, if_pos rfl]
              by_cases timeout : errno = TIMED_OUT
              · rw [if_pos timeout]
                exact iff_of_true (noFault_ok _) fun _ not => absurd timeout not
              · rw [if_neg timeout, ih size']
                exact ⟨fun fits _ _ => fits, fun fits => fits short timeout⟩
            · obtain ⟨msg', size', step⟩ := readData_bytes errno data reads size short empty
              rw [step, noFault_access_bind, ih size', if_neg empty]
              exact ⟨fun fits _ => fits, fun fits => fits short⟩
      · rw [readData_full (Nat.not_lt.mp short)]
        refine iff_of_true (noFault_ok _) ?_
        cases a with
        | failed e => trivial
        | bytes l => exact fun here => absurd here short

theorem checked_map_bind {touched : Access} (a : α) (f : α → Except Halt β) :
    (checked ((access touched).map fun _ => a)).bind f =
      (checked (access touched)).bind fun _ => f a := by
  cases access touched with
  | ok u => rfl
  | error fault => rfl

/-- What is returned at the end makes no access. -/
theorem noFault_bind_ok {c : Except Halt α} {f : α → β} :
    NoFault (c.bind fun a => .ok (f a)) ↔ NoFault c := by
  cases c with
  | ok a => exact iff_of_true (noFault_ok _) (noFault_ok _)
  | error halt =>
      refine forall_congr' fun fault => not_congr ⟨fun same => ?_, fun same => ?_⟩
      all_goals
        cases same
        rfl

theorem readBehind_noFault_iff (within : got.length ≤ ASIM_MAX_OUT) (enough : 3 ≤ got.length) :
    NoFault (readBehind asim errno data (held got) got.length reads) ↔
      FitsBehind errno asim.version data.size got reads := by
  have inside : 3 + (got.length - 3) ≤ (held got).size := by
    show _ ≤ ASIM_MAX_OUT
    omega
  rw [readBehind, FitsBehind, memcpy_of_inside inside]
  show NoFault ((checked ((access ⟨data.size, 0, got.length - 3⟩).map fun _ => _)).bind _) ↔ _
  rw [checked_map_bind, noFault_access_bind]
  refine and_congr (show 0 + (got.length - 3) ≤ data.size ↔ _ by rw [Nat.zero_add]) ?_
  dsimp only
  show NoFault (if data.size < lengthOf asim.version (held got).bytes then _ else _) ↔ _
  split
  · rename_i long
    exact iff_of_true (noFault_ok _) fun le => absurd long (Nat.not_lt.mpr le)
  · rename_i fits
    refine (noFault_bind_ok.trans (readData_noFault_iff rfl)).trans ?_
    exact ⟨fun here _ => here, fun here => here (Nat.not_lt.mp fits)⟩

/-- **The reads up to the header,** and what follows. -/
theorem readOn_noFault_iff (within : got.length ≤ ASIM_MAX_OUT) :
    NoFault ((readHeader errno (held got) got.length reads).bind (readOn asim errno data)) ↔
      FitsHeader errno asim.version data.size got reads := by
  induction reads generalizing got with
  | nil =>
      rw [FitsHeader]
      by_cases full : 3 ≤ got.length
      · rw [readHeader_full full]
        exact (readBehind_noFault_iff within full).trans ⟨fun fits _ => fits, fun fits => fits full⟩
      · rw [readHeader, if_neg full]
        exact iff_of_true nofun fun here => absurd here full
  | cons a reads ih =>
      by_cases full : 3 ≤ got.length
      · rw [readHeader_full full]
        refine (readBehind_noFault_iff within full).trans ?_
        cases a with
        | failed e => exact ⟨fun fits _ => fits, fun fits => fits full⟩
        | bytes l => rw [FitsHeader, if_pos full]
      · have short := Nat.not_le.mp full
        cases a with
        | failed e =>
            obtain ⟨status, step⟩ := readHeader_failed errno reads short e
            rw [step]
            exact iff_of_true (noFault_ok _) fun here => absurd here full
        | bytes l =>
            rw [FitsHeader, if_neg full]
            by_cases empty : l = []
            · subst empty
              rw [readHeader_empty short]
              exact iff_of_true (noFault_ok _) (.inl rfl)
            · rw [readHeader_bytes errno reads short empty, ih ?_, or_iff_right empty]
              have le : (l.take (ASIM_MAX_OUT - got.length)).length ≤ ASIM_MAX_OUT - got.length :=
                List.length_take_le _ _
              rw [List.length_append]
              omega

/-- **Everything is written inside** exactly where the reads that are taken fit the data. -/
theorem read_noFault_iff (opened : 0 ≤ asim.handle) :
    NoFault (asim.Read errno data reads) ↔ FitsHeader errno asim.version data.size [] reads := by
  rw [Read, if_neg (Int.not_lt.mpr opened), ← held_nil]
  exact readOn_noFault_iff (Nat.zero_le _)

end Faults

/-- **A message is read from its pieces** exactly where its status has one byte, and where a version
message is not cut behind its header. And **all is written inside the data** exactly where the reads
that are taken fit. -/
theorem reads_messages_iff (asim : ASIM) (opened : 0 ≤ asim.handle) (errno : Nat) (data : Buffer) :
    (∀ (m : DeviceMessage) (pieces : List (List UInt8)), Delivers 0 pieces →
      pieces.flatten = m.bytes asim.version → m.data.length ≤ data.size →
        (asim.Reassembles errno data m pieces ↔ (m.type = ASIM_STATUS → m.data.length = 1) ∧
          (m.type = ASIM_VERSION → m.data.headD 0 ≠ 0 →
            ∀ front back, pieces = front ++ back → front.flatten.length ≠ 3))) ∧
      ∀ reads, NoFault (asim.Read errno data reads) ↔
        FitsHeader errno asim.version data.size [] reads :=
  ⟨fun _ _ delivers whole room => reassembles_message_iff opened delivers whole room,
    fun _ => read_noFault_iff opened⟩

/-- A message with a byte of data, in one piece. -/
theorem reads_messages_sample : (0 : Int) ≤ 3 ∧
    ASIM.Reassembles ⟨3, NO_VERSION⟩ 0 ⟨fun _ => 0, 4⟩ ⟨ASIM_DATA, [7], by decide⟩
      [[ASIM_DATA, 1, 0, 7]] ∧
    NoFault (ASIM.Read ⟨3, NO_VERSION⟩ 0 ⟨fun _ => 0, 4⟩ [.bytes [ASIM_DATA, 1, 0, 7]]) := by
  have opened : (0 : Int) ≤ 3 := by decide
  have both := reads_messages_iff ⟨3, NO_VERSION⟩ opened 0 ⟨fun _ => 0, 4⟩
  refine ⟨opened, (both.1 ⟨ASIM_DATA, [7], by decide⟩ _ ?_ (by decide) (by decide)).mpr ⟨?_, ?_⟩,
    (both.2 _).mpr ?_⟩
  · exact ⟨nofun, by decide, trivial⟩
  · exact fun status => absurd status (by decide)
  · exact fun version => absurd version (by decide)
  · rw [FitsHeader, if_neg (by decide)]
    exact .inr fun _ => ⟨by decide, fun _ => trivial⟩

/-- A version message is cut behind its header. And a read brings three bytes of data for a buffer of
one. -/
theorem not_reads_messages :
    (¬ ASIM.Reassembles ⟨3, NO_VERSION⟩ 0 ⟨fun _ => 0, 4⟩ ⟨ASIM_VERSION, [5], by decide⟩
      [[ASIM_VERSION, 0, 1], [5]]) ∧
    ¬ NoFault (ASIM.Read ⟨3, NO_VERSION⟩ 0 ⟨fun _ => 0, 1⟩ [.bytes [ASIM_DATA, 1, 0, 7, 7, 7]]) := by
  have opened : (0 : Int) ≤ 3 := by decide
  constructor
  · have delivers : Delivers 0 [[ASIM_VERSION, 0, 1], [5]] :=
      ⟨nofun, by decide, nofun, by decide, trivial⟩
    rw [reassembles_message_iff opened delivers (by decide) (by decide)]
    exact fun both => both.2 rfl (by decide) [[ASIM_VERSION, 0, 1]] [[5]] rfl rfl
  · rw [read_noFault_iff opened, FitsHeader, if_neg (by decide)]
    rintro (empty | fits)
    · cases empty
    · exact absurd (fits (by decide)).1 (by decide)

end ASIM

end Sdm
