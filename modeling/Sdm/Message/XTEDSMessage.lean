import Sdm.DM.SegmentBuilder
import Sdm.Message.Marshalling

/-!
`SDMxTEDS` as bytes.

`Marshal` finds the end of the document from its third byte on, since a segment of a
document may begin with a zero. `Unmarshal` does so only where the first three bytes look
like those of a segment.

* `Marshal_document`, `Marshal_path`, `Marshal_behind`: where the two texts stand.
* `documentLength_of_seen`, `documentLength_of_hidden`: where the decoder ends the document.
* `agreeUpTo_copyText_iff`: when the copy of one text is another one.
* `round_trip_iff`: the messages that are decoded from their own bytes.
-/

namespace Sdm

open Lib Memory

/-- `MAX_USB_PATH_SIZE`. -/
def MAX_USB_PATH_SIZE : Nat := 80

/-- `LARGE_MSG_BUFSIZE`: the size of a message buffer. -/
def LARGE_MSG_BUFSIZE : Nat := BUFSIZE

/-- `SDM_xTEDS`. -/
def SDM_xTEDS : UInt8 := 'q'.toUInt8

/-- The `total_length` of an `SDMxTEDS`: no message is shorter. -/
def total_length : Int16 := 17

/-- An `SDMxTEDS` with its arrays, which are longer than what they hold. -/
structure XTEDSMessage where
  sec : UInt32
  subsec : UInt32
  source : SDMComponentID
  active : UInt8
  pid : UInt32
  /-- `MAX_XTEDS_SIZE` bytes. -/
  xTEDS : Memory
  /-- `MAX_USB_PATH_SIZE` bytes. -/
  SPA_node : Memory

namespace XTEDSMessage

/-! ### `Marshal` -/

/-- The first loop: the index of the last byte of the document that is copied. -/
def lastByte (xTEDS : Memory) : Nat :=
  let i := ((xTEDS.strlen 2 MAX_XTEDS_SIZE).map (2 + ·)).getD MAX_XTEDS_SIZE
  if MAX_XTEDS_SIZE - 1 ≤ i then MAX_XTEDS_SIZE - 2 else i

/-- The second loop: how many bytes of the path are copied. -/
def pathBytes (SPA_node : Memory) : Nat :=
  let j := (SPA_node.strlen 0 MAX_USB_PATH_SIZE).getD MAX_USB_PATH_SIZE
  if j < MAX_USB_PATH_SIZE - 1 then j + 1 else j

/-- Where the document begins in the message. -/
def DOCUMENT : Nat := HEADER_SIZE + 15

/-- The length of the marshalled message. -/
def size (msg : XTEDSMessage) : Nat :=
  DOCUMENT + (lastByte msg.xTEDS + 1) + pathBytes msg.SPA_node

/-- `SDMxTEDS::Marshal` into a buffer, at this time: `MarshalHeader` stamps every message. -/
def Marshal (msg : XTEDSMessage) (sec subsec : UInt32) (buf : Memory) : Memory :=
  let i := lastByte msg.xTEDS
  let buf := buf.store HEADER_SIZE msg.source.marshal
  let buf := buf.store (HEADER_SIZE + 10) [msg.active]
  let buf := buf.store (HEADER_SIZE + 11) (bytes32 msg.pid)
  let buf := buf.store DOCUMENT (msg.xTEDS.read 0 (i + 1))
  let buf := buf.store (DOCUMENT + (i + 1)) (msg.SPA_node.read 0 (pathBytes msg.SPA_node))
  let buf := buf.store 0 [SDM_xTEDS]
  let buf := buf.store 1 (bytes32 sec)
  let buf := buf.store 5 (bytes32 subsec)
  buf.store 9 (bytes16 (UInt16.ofNat (size msg - HEADER_SIZE)))

/-! ### `Unmarshal` -/

/-- The value of a `char`, which is signed on some targets. -/
def charValue (signed : Bool) (b : UInt8) : Int := if signed then b.toInt8.toInt else b.toNat

/-- The test for a segment, on three bytes. -/
def LooksSegmented (signed : Bool) (m : Memory) (off : Nat) : Prop :=
  charValue signed (m off) ≤ MAX_XTEDS_SEQUENCE_VALUE ∧
  charValue signed (m (off + 1)) ≤ MAX_XTEDS_SEQUENCE_VALUE + 1 ∧
  MAX_XTEDS_SEQUENCE_VALUE < charValue signed (m (off + 2))

instance (signed : Bool) (m : Memory) (off : Nat) : Decidable (LooksSegmented signed m off) :=
  inferInstanceAs (Decidable (_ ∧ _))

/-- The length of the document in a message. -/
def documentLength (signed : Bool) (buf : Memory) (cur : Nat) : Option Nat :=
  if LooksSegmented signed buf cur then (buf.strlen (cur + 2) LARGE_MSG_BUFSIZE).map (· + 2)
  else buf.strlen cur LARGE_MSG_BUFSIZE

/-- Copy a text of this length into an array. -/
def copyText (array buf : Memory) (cur length arraySize : Nat) : Memory :=
  if arraySize - 1 ≤ length then
    (array.store 0 (buf.strncpy cur arraySize)).store (arraySize - 1) [0]
  else array.store 0 (buf.read cur (length + 1))

/-- How `Unmarshal` ends. -/
inductive Unmarshalled where
  | undefined
  /-- `SDM_INVALID_MESSAGE`. -/
  | invalid
  | accepted (msg : XTEDSMessage)

/-- `SDMxTEDS::Unmarshal` into an object, from a buffer. It is undefined where a `strlen`
leaves the buffer. -/
def Unmarshal (signed : Bool) (old : XTEDSMessage) (buf : Memory) : Unmarshalled :=
  if buf 0 ≠ SDM_xTEDS ∨ (buf.load16 9).toInt16 < total_length then .invalid
  else
    match documentLength signed buf DOCUMENT with
    | none => .undefined
    | some xteds_length =>
        let cur := DOCUMENT + (xteds_length + 1)
        match buf.strlen cur LARGE_MSG_BUFSIZE with
        | none => .undefined
        | some usb_length => .accepted
            { sec := buf.load32 1
              subsec := buf.load32 5
              source := .unmarshal buf HEADER_SIZE
              active := buf (HEADER_SIZE + 10)
              pid := buf.load32 (HEADER_SIZE + 11)
              xTEDS := copyText old.xTEDS buf DOCUMENT xteds_length MAX_XTEDS_SIZE
              SPA_node := copyText old.SPA_node buf cur usb_length MAX_USB_PATH_SIZE }

/-! ### The round trip -/

/-- The array holds a text of this length. -/
def HoldsText (m : Memory) (n : Nat) : Prop := (∀ k < n, m k ≠ 0) ∧ m n = 0

/-- The array holds a segment that ends at this index: a sequence number, a total from 1 to
15, and a text that begins with a byte above 15. -/
def HoldsSegment (m : Memory) (n : Nat) : Prop :=
  0 < m 1 ∧ m 1 ≤ 15 ∧ 15 < m 2 ∧ (∀ k, 2 ≤ k → k < n → m k ≠ 0) ∧ m n = 0 ∧ 2 < n

/-- The arrays agree up to an index. -/
def AgreeUpTo (n : Nat) (m m' : Memory) : Prop := ∀ k ≤ n, m' k = m k

/-- The message is decoded from its own bytes, whatever the buffer and the object held before:
it is accepted, and the fields and the two texts are the same. -/
def RoundTrips (signed : Bool) (msg : XTEDSMessage) (n p : Nat) : Prop :=
  ∀ (sec subsec : UInt32) (buf : Memory) (old : XTEDSMessage), ∃ got,
    Unmarshal signed old (Marshal msg sec subsec buf) = .accepted got ∧
    got.source = msg.source ∧ got.active = msg.active ∧ got.pid = msg.pid ∧
    AgreeUpTo n msg.xTEDS got.xTEDS ∧ AgreeUpTo p msg.SPA_node got.SPA_node

/-- The decoder sees the whole document that was encoded. -/
def SeenWhole (signed : Bool) (m : Memory) : Prop :=
  LooksSegmented signed m 0 ∨ m 0 ≠ 0 ∧ m 1 ≠ 0

instance (signed : Bool) (m : Memory) : Decidable (SeenWhole signed m) :=
  inferInstanceAs (Decidable (_ ∨ _))

/-- The path is what stands behind the terminator of a text of one byte or none, cut to the
size of the path. -/
def PathBehind (msg : XTEDSMessage) (n p : Nat) : Prop :=
  ∃ q, n + 1 + q ≤ MAX_XTEDS_SIZE - 2 ∧ (∀ k < q, msg.xTEDS (n + 1 + k) ≠ 0) ∧
    msg.xTEDS (n + 1 + q) = 0 ∧ p = min q (MAX_USB_PATH_SIZE - 1) ∧
    ∀ k < p, msg.SPA_node k = msg.xTEDS (n + 1 + k)

/-- What a message must meet to be decoded from its own bytes. -/
def Survives (signed : Bool) (msg : XTEDSMessage) (n p : Nat) : Prop :=
  if SeenWhole signed msg.xTEDS then
    p ≤ MAX_USB_PATH_SIZE - 2 ∧ ∃ e, 2 ≤ e ∧ e ≤ MAX_XTEDS_SIZE - 2 ∧ msg.xTEDS e = 0
  else n ≤ 1 ∧ PathBehind msg n p

/-! ### What `Marshal` writes -/

section Encoder

variable {m : Memory} {e p : Nat}

/-- The last byte that is copied is always a byte of the array, and not its last one. -/
theorem lastByte_le (m : Memory) : lastByte m ≤ MAX_XTEDS_SIZE - 2 := by
  rw [lastByte]
  split
  · exact le_rfl
  · rename_i early
    exact Nat.le_sub_one_of_lt (Nat.lt_of_not_le early)

/-- At least three bytes are copied. -/
theorem two_le_lastByte (m : Memory) : 2 ≤ lastByte m := by
  rw [lastByte]
  split
  · decide
  · cases m.strlen 2 MAX_XTEDS_SIZE with
    | none => decide
    | some l => exact Nat.le_add_right 2 l

/-- Nothing is copied behind a terminator that follows the second byte. -/
theorem lastByte_le_of_nul (low : 2 ≤ e) (nul : m e = 0) : lastByte m ≤ e := by
  have bound := lastByte_le m
  cases found : m.strlen 2 MAX_XTEDS_SIZE with
  | none =>
      have late : MAX_XTEDS_SIZE ≤ e := Nat.le_of_not_lt fun early =>
        strlen_eq_none_iff.mp found e low early nul
      omega
  | some l =>
      obtain ⟨clear, -, -⟩ := strlen_eq_some_iff.mp found
      have le : 2 + l ≤ e := Nat.le_of_not_lt fun lt =>
        clear (e - 2) (by omega) (by rw [Nat.add_sub_cancel' low]; exact nul)
      simp only [lastByte, found, Option.map_some, Option.getD_some]
      split <;> omega

/-- The last byte that is copied is a terminator where one is in reach. -/
theorem lastByte_nul (low : 2 ≤ e) (high : e ≤ MAX_XTEDS_SIZE - 2) (nul : m e = 0) :
    m (lastByte m) = 0 := by
  have within : e < MAX_XTEDS_SIZE - 1 := Nat.lt_of_le_of_lt high (by decide)
  cases found : m.strlen 2 MAX_XTEDS_SIZE with
  | none => exact absurd nul (strlen_eq_none_iff.mp found e low (by omega))
  | some l =>
      obtain ⟨clear, zero, -⟩ := strlen_eq_some_iff.mp found
      have le : 2 + l ≤ e := Nat.le_of_not_lt fun lt =>
        clear (e - 2) (by omega) (by rw [Nat.add_sub_cancel' low]; exact nul)
      simp only [lastByte, found, Option.map_some, Option.getD_some]
      rwa [if_neg (by omega)]

/-- The path is copied with its terminator where that is not the last byte of the array. -/
theorem pathBytes_eq (path : HoldsText m p) (short : p ≤ MAX_USB_PATH_SIZE - 1) :
    pathBytes m = if p ≤ MAX_USB_PATH_SIZE - 2 then p + 1 else p := by
  simp only [MAX_USB_PATH_SIZE] at short
  have length : m.strlen 0 MAX_USB_PATH_SIZE = some p := by
    rw [strlen_eq_some_iff]
    refine ⟨fun j lt => ?_, ?_, ?_⟩
    · rw [Nat.zero_add]
      exact path.1 j lt
    · rw [Nat.zero_add]
      exact path.2
    · simp only [MAX_USB_PATH_SIZE]
      omega
  simp only [pathBytes, length, Option.getD_some]
  by_cases fits : p ≤ MAX_USB_PATH_SIZE - 2
  · rw [if_pos fits, if_pos (by simp only [MAX_USB_PATH_SIZE] at fits ⊢; omega)]
  · rw [if_neg fits, if_neg (by simp only [MAX_USB_PATH_SIZE] at fits ⊢; omega)]

end Encoder

section Bytes

variable {msg : XTEDSMessage} {sec subsec : UInt32} {buf : Memory} {k a : Nat}

theorem Marshal_name : Marshal msg sec subsec buf 0 = SDM_xTEDS := by
  simp only [Marshal]
  rw [store_of_outside (by simp), store_of_outside (by simp), store_of_outside (by simp),
    store_singleton]

theorem Marshal_length :
    (Marshal msg sec subsec buf).load16 9 = UInt16.ofNat (size msg - HEADER_SIZE) := by
  simp only [Marshal, load16_store]

theorem Marshal_source : (Marshal msg sec subsec buf).read HEADER_SIZE 10 = msg.source.marshal := by
  simp only [Marshal, HEADER_SIZE, DOCUMENT]
  rw [read_store_of_apart (by simp), read_store_of_apart (by simp), read_store_of_apart (by simp),
    read_store_of_apart (by simp), read_store_of_apart (by omega),
    read_store_of_apart (by simp), read_store_of_apart (by simp), read_store_of_apart (by simp)]
  exact read_store

theorem Marshal_active : Marshal msg sec subsec buf (HEADER_SIZE + 10) = msg.active := by
  simp only [Marshal, HEADER_SIZE, DOCUMENT]
  rw [store_of_outside (by simp), store_of_outside (by simp), store_of_outside (by simp),
    store_of_outside (by simp), store_of_outside (by simp; omega), store_of_outside (by simp),
    store_of_outside (by simp), store_singleton]

theorem Marshal_pid : (Marshal msg sec subsec buf).load32 (HEADER_SIZE + 11) = msg.pid := by
  simp only [Marshal, HEADER_SIZE, DOCUMENT]
  rw [load32_store_of_apart (by simp), load32_store_of_apart (by simp),
    load32_store_of_apart (by simp), load32_store_of_apart (by simp),
    load32_store_of_apart (by omega), load32_store_of_apart (by simp), load32_store]

/-- The document stands behind the fields. -/
theorem Marshal_document (within : k ≤ lastByte msg.xTEDS) :
    Marshal msg sec subsec buf (DOCUMENT + k) = msg.xTEDS k := by
  simp only [Marshal, HEADER_SIZE, DOCUMENT]
  rw [store_of_outside (by simp; omega), store_of_outside (by simp; omega),
    store_of_outside (by simp; omega), store_of_outside (by simp; omega),
    store_of_outside (by omega), store_add (by rw [length_read]; omega), getD_read (by omega),
    Nat.zero_add]

/-- The path stands behind the document. -/
theorem Marshal_path (within : k < pathBytes msg.SPA_node) :
    Marshal msg sec subsec buf (DOCUMENT + (lastByte msg.xTEDS + 1) + k) = msg.SPA_node k := by
  simp only [Marshal, HEADER_SIZE, DOCUMENT]
  rw [store_of_outside (by simp; omega), store_of_outside (by simp; omega),
    store_of_outside (by simp; omega), store_of_outside (by simp; omega),
    store_add (by rwa [length_read]), getD_read within, Nat.zero_add]

/-- Nothing is written behind the path. -/
theorem Marshal_behind (behind : size msg ≤ a) : Marshal msg sec subsec buf a = buf a := by
  simp only [size, DOCUMENT, HEADER_SIZE] at behind
  simp only [Marshal, HEADER_SIZE, DOCUMENT]
  rw [store_of_outside (by simp; omega), store_of_outside (by simp; omega),
    store_of_outside (by simp; omega), store_of_outside (by simp; omega),
    store_of_outside (by rw [length_read]; omega), store_of_outside (by rw [length_read]; omega),
    store_of_outside (by simp; omega), store_of_outside (by simp; omega),
    store_of_outside (by simp; omega)]

/-- The length field is that of the message. -/
theorem total_length_le (short : pathBytes msg.SPA_node ≤ MAX_USB_PATH_SIZE) :
    ¬ ((Marshal msg sec subsec buf).load16 9).toInt16 < total_length := by
  have document := lastByte_le msg.xTEDS
  have three := two_le_lastByte msg.xTEDS
  simp only [MAX_USB_PATH_SIZE, MAX_XTEDS_SIZE] at short document
  have bound : size msg - HEADER_SIZE < 2 ^ 15 := by
    simp only [size, DOCUMENT, HEADER_SIZE]
    omega
  rw [Marshal_length, Int16.lt_iff_toInt_lt, UInt16.toInt16_ofNat', Int16.toInt_ofNat_of_lt bound]
  have enough : 17 ≤ size msg - HEADER_SIZE := by
    simp only [size, DOCUMENT, HEADER_SIZE]
    omega
  exact Int.not_lt.mpr (Int.ofNat_le.mpr enough)

end Bytes

/-! ### What `Unmarshal` reads -/

section Copies

variable {array buf m : Memory} {cur length arraySize k n : Nat}

/-- A text that fits is copied with its terminator. -/
theorem copyText_of_short (fits : length < arraySize - 1) (within : k ≤ length) :
    copyText array buf cur length arraySize k = buf (cur + k) := by
  rw [copyText, if_neg (by omega), store_of_inside (by rw [length_read]; omega), Nat.sub_zero,
    getD_read (by omega)]

/-- Nothing behind the terminator is written. -/
theorem copyText_behind (fits : length < arraySize - 1) (behind : length < k) :
    copyText array buf cur length arraySize k = array k := by
  rw [copyText, if_neg (by omega), store_of_outside (by rw [length_read]; omega)]

/-- The bytes of a text are copied as far as the array goes. -/
theorem copyText_of_lt (clear : ∀ j < length, buf (cur + j) ≠ 0) (within : k < length)
    (fits : k < arraySize - 1) : copyText array buf cur length arraySize k = buf (cur + k) := by
  by_cases long : arraySize - 1 ≤ length
  · rw [copyText, if_pos long, store_of_outside (by omega),
      store_of_inside (by rw [length_strncpy]; omega), Nat.sub_zero,
      getD_strncpy (by omega) fun j lt => clear j (by omega)]
  · exact copyText_of_short (by omega) (by omega)

/-- The copy ends with the text, or where the array does. -/
theorem copyText_end (nul : buf (cur + length) = 0) :
    copyText array buf cur length arraySize (min length (arraySize - 1)) = 0 := by
  by_cases long : arraySize - 1 ≤ length
  · rw [copyText, if_pos long, Nat.min_eq_right long, store_singleton]
  · rw [Nat.min_eq_left (by omega), copyText_of_short (by omega) le_rfl, nul]

/-- A copy that goes at least so far is the text. -/
theorem agreeUpTo_copyText (fits : length < arraySize - 1) (within : n ≤ length)
    (same : ∀ k ≤ n, buf (cur + k) = m k) :
    AgreeUpTo n m (copyText array buf cur length arraySize) := by
  intro k le
  rw [copyText_of_short fits (by omega), same k le]

/-- A text is copied as another one exactly when they are the same up to the size of the
array. -/
theorem agreeUpTo_copyText_iff (text : HoldsText m n)
    (clear : ∀ j < length, buf (cur + j) ≠ 0) (nul : buf (cur + length) = 0) :
    AgreeUpTo n m (copyText array buf cur length arraySize) ↔
      n = min length (arraySize - 1) ∧ ∀ k < n, m k = buf (cur + k) := by
  constructor
  · intro agree
    have stop : n = min length (arraySize - 1) := by
      rcases Nat.lt_trichotomy n (min length (arraySize - 1)) with lt | eq | gt
      · have copied := agree n le_rfl
        rw [text.2, copyText_of_lt clear (by omega) (by omega)] at copied
        exact absurd copied (clear n (by omega))
      · exact eq
      · have copied := agree _ (Nat.le_of_lt gt)
        rw [copyText_end nul] at copied
        exact absurd copied.symm (text.1 _ gt)
    refine ⟨stop, fun k lt => ?_⟩
    rw [← agree k (Nat.le_of_lt lt), copyText_of_lt clear (by omega) (by omega)]
  · rintro ⟨stop, same⟩ k le
    rcases Nat.lt_or_eq_of_le le with lt | rfl
    · rw [copyText_of_lt clear (by omega) (by omega), same k lt]
    · rw [text.2]
      subst stop
      exact copyText_end nul

end Copies

section Decoder

variable {signed : Bool} {msg old : XTEDSMessage} {sec subsec : UInt32} {buf : Memory}
  {a d e n p : Nat}

/-- **What `Unmarshal` depends on.** The fields are always read back, so that a message
survives exactly when both lengths are found and both copies agree. -/
theorem roundTrips_iff (short : pathBytes msg.SPA_node ≤ MAX_USB_PATH_SIZE) :
    RoundTrips signed msg n p ↔ ∀ (sec subsec : UInt32) (buf : Memory) (old : XTEDSMessage),
      ∃ d q, documentLength signed (Marshal msg sec subsec buf) DOCUMENT = some d ∧
        (Marshal msg sec subsec buf).strlen (DOCUMENT + (d + 1)) LARGE_MSG_BUFSIZE = some q ∧
        AgreeUpTo n msg.xTEDS
          (copyText old.xTEDS (Marshal msg sec subsec buf) DOCUMENT d MAX_XTEDS_SIZE) ∧
        AgreeUpTo p msg.SPA_node (copyText old.SPA_node (Marshal msg sec subsec buf)
          (DOCUMENT + (d + 1)) q MAX_USB_PATH_SIZE) := by
  refine forall_congr' fun sec => forall_congr' fun subsec => forall_congr' fun buf =>
    forall_congr' fun old => ?_
  have valid : ¬ (Marshal msg sec subsec buf 0 ≠ SDM_xTEDS ∨
      ((Marshal msg sec subsec buf).load16 9).toInt16 < total_length) :=
    not_or.mpr ⟨not_not.mpr Marshal_name, total_length_le short⟩
  have source : SDMComponentID.unmarshal (Marshal msg sec subsec buf) HEADER_SIZE = msg.source :=
    SDMComponentID.unmarshal_eq Marshal_source
  rw [Unmarshal, if_neg valid]
  cases document : documentLength signed (Marshal msg sec subsec buf) DOCUMENT with
  | none => simp
  | some d =>
      cases path : (Marshal msg sec subsec buf).strlen (DOCUMENT + (d + 1)) LARGE_MSG_BUFSIZE with
      | none => simp [path]
      | some q => simp [path, source, Marshal_active, Marshal_pid]

/-- The decoder's test for a segment is on the bytes of the document. -/
theorem looksSegmented_Marshal :
    LooksSegmented signed (Marshal msg sec subsec buf) DOCUMENT ↔
      LooksSegmented signed msg.xTEDS 0 := by
  have three := two_le_lastByte msg.xTEDS
  simp only [LooksSegmented, Nat.zero_add]
  rw [← Nat.add_zero DOCUMENT, Marshal_document (by omega), Nat.add_zero,
    Marshal_document (by omega), Marshal_document three]

/-- A document that is seen whole ends where the encoder found its end. -/
theorem documentLength_of_seen (seen : SeenWhole signed msg.xTEDS)
    (nul : msg.xTEDS (lastByte msg.xTEDS) = 0) :
    documentLength signed (Marshal msg sec subsec buf) DOCUMENT = some (lastByte msg.xTEDS) := by
  have low := two_le_lastByte msg.xTEDS
  have high := lastByte_le msg.xTEDS
  have clear : ∀ k, 2 ≤ k → k < lastByte msg.xTEDS → msg.xTEDS k ≠ 0 := fun k le lt zero =>
    absurd (lastByte_le_of_nul le zero) (Nat.not_le.mpr lt)
  have inside : DOCUMENT + lastByte msg.xTEDS < LARGE_MSG_BUFSIZE := by
    simp only [MAX_XTEDS_SIZE] at high
    simp only [DOCUMENT, HEADER_SIZE, LARGE_MSG_BUFSIZE, BUFSIZE]
    omega
  rw [documentLength]
  by_cases segmented : LooksSegmented signed msg.xTEDS 0
  · rw [if_pos (looksSegmented_Marshal.mpr segmented), Option.map_eq_some_iff]
    refine ⟨lastByte msg.xTEDS - 2, strlen_eq_some_iff.mpr ⟨fun j lt => ?_, ?_, by omega⟩,
      by omega⟩
    · rw [Nat.add_assoc, Marshal_document (by omega)]
      exact clear (2 + j) (by omega) (by omega)
    · rw [Nat.add_assoc, Nat.add_sub_cancel' low, Marshal_document le_rfl, nul]
  · rw [if_neg (mt looksSegmented_Marshal.mp segmented)]
    obtain ⟨first, second⟩ := seen.resolve_left segmented
    refine strlen_eq_some_iff.mpr ⟨fun j lt => ?_, ?_, inside⟩
    · rw [Marshal_document (by omega)]
      match j with
      | 0 => exact first
      | 1 => exact second
      | j + 2 => exact clear (j + 2) (by omega) lt
    · rw [Marshal_document le_rfl, nul]

/-- A document that is not seen whole ends with its first or second byte. -/
theorem documentLength_of_hidden (hidden : ¬ SeenWhole signed msg.xTEDS)
    (text : HoldsText msg.xTEDS d) (short : d ≤ 1) :
    documentLength signed (Marshal msg sec subsec buf) DOCUMENT = some d := by
  have three := two_le_lastByte msg.xTEDS
  rw [documentLength, if_neg (mt looksSegmented_Marshal.mp fun segmented =>
    hidden (.inl segmented))]
  refine strlen_eq_some_iff.mpr ⟨fun j lt => ?_, ?_, ?_⟩
  · rw [Marshal_document (by omega)]
    exact text.1 j lt
  · rw [Marshal_document (by omega)]
    exact text.2
  · simp only [DOCUMENT, HEADER_SIZE, LARGE_MSG_BUFSIZE, BUFSIZE]
    omega

/-- Behind the fields of a message in a buffer of ones there are only the zeros of the document
and the terminator of the path. -/
theorem zero_of_ones (path : HoldsText msg.SPA_node p) (short : p ≤ MAX_USB_PATH_SIZE - 1)
    (low : DOCUMENT ≤ a) (zero : Marshal msg sec subsec (fun _ => 1) a = 0) :
    (∃ k, k ≤ lastByte msg.xTEDS ∧ a = DOCUMENT + k ∧ msg.xTEDS k = 0) ∨
      a = DOCUMENT + (lastByte msg.xTEDS + 1) + p ∧ p ≤ MAX_USB_PATH_SIZE - 2 := by
  by_cases document : a ≤ DOCUMENT + lastByte msg.xTEDS
  · obtain ⟨k, rfl⟩ := Nat.exists_eq_add_of_le low
    refine Or.inl ⟨k, by omega, rfl, ?_⟩
    rwa [Marshal_document (by omega)] at zero
  · obtain ⟨k, rfl⟩ : ∃ k, a = DOCUMENT + (lastByte msg.xTEDS + 1) + k :=
      ⟨a - (DOCUMENT + (lastByte msg.xTEDS + 1)), by omega⟩
    by_cases within : k < pathBytes msg.SPA_node
    · rw [Marshal_path within] at zero
      have stop : p ≤ k := Nat.le_of_not_lt fun early => path.1 k early zero
      rw [pathBytes_eq path short] at within
      split at within
      · rename_i fits
        exact Or.inr ⟨by omega, fits⟩
      · omega
    · rw [Marshal_behind (by simp only [size]; omega)] at zero
      exact absurd zero (by decide)

end Decoder

/-! ### Which messages survive -/

section RoundTrip

variable {signed : Bool} {msg : XTEDSMessage} {n p : Nat}

theorem pathBytes_le (path : HoldsText msg.SPA_node p) (short : p ≤ MAX_USB_PATH_SIZE - 1) :
    pathBytes msg.SPA_node ≤ MAX_USB_PATH_SIZE := by
  rw [pathBytes_eq path short]
  split
  · rename_i fits
    exact Nat.le_trans (Nat.succ_le_succ fits) (by decide)
  · exact Nat.le_trans short (by decide)

/-- The content ends no later than any zero behind its second byte. -/
theorem content_le {m : Memory} {e : Nat} (content : HoldsText m n ∨ HoldsSegment m n)
    (low : 2 ≤ e) (nul : m e = 0) : n ≤ e := by
  rcases content with text | segment
  · exact Nat.le_of_not_lt fun early => text.1 e early nul
  · obtain ⟨-, -, -, clear, -, -⟩ := segment
    exact Nat.le_of_not_lt fun early => clear e low early nul

/-- A document that is seen whole, terminated inside what is copied, comes back with a path
that leaves room for its terminator. -/
theorem roundTrips_of_seen (content : HoldsText msg.xTEDS n ∨ HoldsSegment msg.xTEDS n)
    (path : HoldsText msg.SPA_node p) (short : p ≤ MAX_USB_PATH_SIZE - 2)
    (seen : SeenWhole signed msg.xTEDS)
    (closed : ∃ e, 2 ≤ e ∧ e ≤ MAX_XTEDS_SIZE - 2 ∧ msg.xTEDS e = 0) :
    RoundTrips signed msg n p := by
  obtain ⟨e, low, high, zero⟩ := closed
  have nul := lastByte_nul low high zero
  have last := lastByte_le msg.xTEDS
  have bytes : pathBytes msg.SPA_node = p + 1 := by
    rw [pathBytes_eq path (by omega), if_pos short]
  have spa : ∀ {sec subsec buf}, ∀ k ≤ p, Marshal msg sec subsec buf
      (DOCUMENT + (lastByte msg.xTEDS + 1) + k) = msg.SPA_node k := fun k le =>
    Marshal_path (by omega)
  rw [roundTrips_iff (pathBytes_le path (by omega))]
  intro sec subsec buf old
  refine ⟨lastByte msg.xTEDS, p, documentLength_of_seen seen nul, ?_, ?_, ?_⟩
  · refine strlen_eq_some_iff.mpr ⟨fun j lt => ?_, ?_, ?_⟩
    · rw [spa j (Nat.le_of_lt lt)]
      exact path.1 j lt
    · rw [spa p le_rfl, path.2]
    · simp only [MAX_XTEDS_SIZE, MAX_USB_PATH_SIZE] at last short
      simp only [DOCUMENT, HEADER_SIZE, LARGE_MSG_BUFSIZE, BUFSIZE]
      omega
  · exact agreeUpTo_copyText (Nat.lt_of_le_of_lt last (by decide))
      (content_le content (two_le_lastByte msg.xTEDS) nul) fun k within =>
      Marshal_document (Nat.le_trans within
        (content_le content (two_le_lastByte msg.xTEDS) nul))
  · exact agreeUpTo_copyText (Nat.lt_of_le_of_lt short (by decide)) le_rfl spa

/-- A document that is seen whole comes back only so. -/
theorem of_roundTrips_of_seen (path : HoldsText msg.SPA_node p)
    (short : p ≤ MAX_USB_PATH_SIZE - 1) (seen : SeenWhole signed msg.xTEDS)
    (trip : RoundTrips signed msg n p) :
    p ≤ MAX_USB_PATH_SIZE - 2 ∧ ∃ e, 2 ≤ e ∧ e ≤ MAX_XTEDS_SIZE - 2 ∧ msg.xTEDS e = 0 := by
  have three := two_le_lastByte msg.xTEDS
  obtain ⟨d, q, document, behind, -, -⟩ :=
    (roundTrips_iff (pathBytes_le path short)).mp trip 0 0 (fun _ => 1) msg
  obtain ⟨-, zero', -⟩ := strlen_eq_some_iff.mp behind
  -- The document ends behind its second byte.
  obtain ⟨late, zero⟩ : 2 ≤ d ∧ Marshal msg 0 0 (fun _ => 1) (DOCUMENT + d) = 0 := by
    rw [documentLength] at document
    split at document
    · obtain ⟨l, found, rfl⟩ := Option.map_eq_some_iff.mp document
      obtain ⟨-, zero, -⟩ := strlen_eq_some_iff.mp found
      refine ⟨by omega, ?_⟩
      rw [Nat.add_comm l 2, ← Nat.add_assoc]
      exact zero
    · rename_i plain
      obtain ⟨first, second⟩ := seen.resolve_left (mt looksSegmented_Marshal.mpr plain)
      obtain ⟨-, zero, -⟩ := strlen_eq_some_iff.mp document
      refine ⟨Nat.le_of_not_lt fun early => ?_, zero⟩
      rw [Marshal_document (by omega)] at zero
      rcases Nat.le_one_iff_eq_zero_or_eq_one.mp (Nat.le_of_lt_succ early) with rfl | rfl
      · exact first zero
      · exact second zero
  have found := zero_of_ones path short (Nat.le_add_right _ _) zero
  have found' := zero_of_ones path short (by rw [Nat.add_assoc]; exact Nat.le_add_right _ _) zero'
  rcases found with ⟨k, le, here, nul⟩ | ⟨here, -⟩
  · obtain rfl : d = k := Nat.add_left_cancel here
    have last := lastByte_le_of_nul late nul
    rcases found' with ⟨k', le', here', -⟩ | ⟨-, fits⟩
    · -- The document is copied up to this zero only.
      exact absurd le' (by omega)
    · exact ⟨fits, d, late, Nat.le_trans le (lastByte_le msg.xTEDS), nul⟩
  · rcases found' with ⟨k', le', here', -⟩ | ⟨here', -⟩
    · exact absurd le' (by omega)
    · exact absurd here' (by omega)

/-- A text that is cut behind its first or second byte comes back only with the path that
stands there. -/
theorem roundTrips_of_hidden (text : HoldsText msg.xTEDS n) (path : HoldsText msg.SPA_node p)
    (short : p ≤ MAX_USB_PATH_SIZE - 1) (hidden : ¬ SeenWhole signed msg.xTEDS) (few : n ≤ 1) :
    RoundTrips signed msg n p ↔ PathBehind msg n p := by
  have three := two_le_lastByte msg.xTEDS
  have last := lastByte_le msg.xTEDS
  rw [roundTrips_iff (pathBytes_le path short)]
  constructor
  · intro trip
    obtain ⟨d, q, document, behind, -, agree⟩ := trip 0 0 (fun _ => 1) msg
    obtain rfl : n = d :=
      Option.some.inj ((documentLength_of_hidden hidden text few).symm.trans document)
    obtain ⟨clear, zero, -⟩ := strlen_eq_some_iff.mp behind
    obtain ⟨stop, same⟩ := (agreeUpTo_copyText_iff path clear zero).mp agree
    have found := zero_of_ones path short (by rw [Nat.add_assoc]; exact Nat.le_add_right _ _) zero
    rcases found with ⟨k, le, here, nul⟩ | ⟨here, fits⟩
    · obtain rfl : k = n + 1 + q := by omega
      have document : ∀ j ≤ q, Marshal msg 0 0 (fun _ => 1) (DOCUMENT + (n + 1) + j) =
          msg.xTEDS (n + 1 + j) := fun j le' => by
        rw [Nat.add_assoc, Marshal_document (by omega)]
      refine ⟨q, by omega, fun j lt => ?_, nul, stop, fun j lt => ?_⟩
      · rw [← document j (by omega)]
        exact clear j lt
      · rw [same j lt, document j (by omega)]
    · have room : 2 ≤ MAX_USB_PATH_SIZE := by decide
      exact absurd stop (by omega)
  · rintro ⟨q, high, clear, nul, stop, same⟩ sec subsec buf old
    -- What stands behind the text is copied with its terminator.
    have within : n + 1 + q ≤ lastByte msg.xTEDS := by
      by_contra early
      have late : 2 ≤ n + 1 + q := by omega
      have zero := lastByte_nul late high nul
      refine clear (lastByte msg.xTEDS - (n + 1)) (by omega) ?_
      rwa [Nat.add_sub_cancel' (by omega)]
    have document : ∀ j ≤ q, Marshal msg sec subsec buf (DOCUMENT + (n + 1) + j) =
        msg.xTEDS (n + 1 + j) := fun j le' => by
      rw [Nat.add_assoc, Marshal_document (by omega)]
    have clear' : ∀ j < q, Marshal msg sec subsec buf (DOCUMENT + (n + 1) + j) ≠ 0 :=
      fun j lt => by
        rw [document j (Nat.le_of_lt lt)]
        exact clear j lt
    have nul' : Marshal msg sec subsec buf (DOCUMENT + (n + 1) + q) = 0 := by
      rw [document q le_rfl, nul]
    refine ⟨n, q, documentLength_of_hidden hidden text few,
      strlen_eq_some_iff.mpr ⟨clear', nul', ?_⟩, ?_, ?_⟩
    · simp only [MAX_XTEDS_SIZE] at high
      simp only [DOCUMENT, HEADER_SIZE, LARGE_MSG_BUFSIZE, BUFSIZE]
      omega
    · exact agreeUpTo_copyText (Nat.lt_of_le_of_lt few (by decide)) le_rfl fun k le =>
        Marshal_document (by omega)
    · refine (agreeUpTo_copyText_iff path clear' nul').mpr ⟨stop, fun j lt => ?_⟩
      rw [same j lt, document j (by omega)]

/-- A segment whose text begins with a negative `char` does not come back: only its first byte
is copied. -/
theorem not_roundTrips_of_hidden (segment : HoldsSegment msg.xTEDS n)
    (path : HoldsText msg.SPA_node p) (short : p ≤ MAX_USB_PATH_SIZE - 1)
    (hidden : ¬ SeenWhole signed msg.xTEDS) : ¬ RoundTrips signed msg n p := by
  obtain ⟨total, -, -, -, -, long⟩ := segment
  have second : msg.xTEDS 1 ≠ 0 := by
    rintro zero
    rw [zero] at total
    exact absurd total (by decide)
  have first : msg.xTEDS 0 = 0 := by
    by_contra nonzero
    exact hidden (.inr ⟨nonzero, second⟩)
  rw [roundTrips_iff (pathBytes_le path short)]
  intro trip
  obtain ⟨d, q, document, -, agree, -⟩ := trip 0 0 (fun _ => 1)
    { msg with xTEDS := fun _ => msg.xTEDS 1 + 1 }
  obtain rfl : 0 = d := Option.some.inj
    ((documentLength_of_hidden hidden ⟨fun k lt => absurd lt (Nat.not_lt_zero k), first⟩
      (Nat.zero_le 1)).symm.trans document)
  have copied := agree 1 (by omega)
  rw [copyText_behind (by decide) Nat.one_pos] at copied
  simp at copied

/-- **A message is decoded from its own bytes** exactly when its document is terminated inside
what `Marshal` copies and its path is shorter than `MAX_USB_PATH_SIZE - 1`; a text that
`Unmarshal` cuts, which has at most one byte, comes back only with the path behind it. -/
theorem round_trip_iff (signed : Bool) (msg : XTEDSMessage) (n p : Nat)
    (content : (HoldsText msg.xTEDS n ∧ n ≤ MAX_XTEDS_SIZE - 1) ∨ HoldsSegment msg.xTEDS n)
    (path : HoldsText msg.SPA_node p) (short : p ≤ MAX_USB_PATH_SIZE - 1) :
    RoundTrips signed msg n p ↔ Survives signed msg n p := by
  have held : HoldsText msg.xTEDS n ∨ HoldsSegment msg.xTEDS n := content.imp_left And.left
  by_cases seen : SeenWhole signed msg.xTEDS
  · rw [Survives, if_pos seen]
    constructor
    · exact of_roundTrips_of_seen path short seen
    · rintro ⟨fits, closed⟩
      exact roundTrips_of_seen held path fits seen closed
  · rw [Survives, if_neg seen]
    rcases content with ⟨text, -⟩ | segment
    · have few : n ≤ 1 := by
        by_contra many
        exact seen (.inr ⟨text.1 0 (by omega), text.1 1 (by omega)⟩)
      rw [roundTrips_of_hidden text path short seen few]
      exact ⟨fun behind => ⟨few, behind⟩, fun survives => survives.2⟩
    · have lost := not_roundTrips_of_hidden segment path short seen
      obtain ⟨-, -, -, -, -, long⟩ := segment
      exact ⟨fun trip => absurd trip lost, fun survives => absurd survives.1 (by omega)⟩

/-- A message with this document and this path, from the first component of the node. -/
def ofTexts (xTEDS SPA_node : List UInt8) : XTEDSMessage where
  sec := 0
  subsec := 0
  source := ⟨1, 1, 4000⟩
  active := 1
  pid := 300
  xTEDS := fun k => xTEDS.getD k 0
  SPA_node := fun k => SPA_node.getD k 0

/-- A document of three characters, with a path. -/
theorem round_trip_of_short : RoundTrips true (ofTexts [60, 120, 62] [117, 115, 98]) 3 3 := by
  refine (round_trip_iff true _ 3 3 (.inl ⟨⟨by decide, rfl⟩, by decide⟩) ⟨by decide, rfl⟩
    (by decide)).mpr ?_
  rw [Survives, if_pos (by decide)]
  exact ⟨by decide, 3, by decide, by decide, rfl⟩

/-- **The path behind an empty document is lost**: three bytes of the document are sent, and the
path is looked for behind the first of them. -/
theorem path_of_empty_document :
    HoldsText (ofTexts [] [117, 115, 98]).xTEDS 0 ∧
      HoldsText (ofTexts [] [117, 115, 98]).SPA_node 3 ∧
      ¬ RoundTrips true (ofTexts [] [117, 115, 98]) 0 3 ∧
      ¬ RoundTrips false (ofTexts [] [117, 115, 98]) 0 3 := by
  have text : HoldsText (ofTexts [] [117, 115, 98]).xTEDS 0 := ⟨by decide, rfl⟩
  have path : HoldsText (ofTexts [] [117, 115, 98]).SPA_node 3 := ⟨by decide, rfl⟩
  have behind : ¬ PathBehind (ofTexts [] [117, 115, 98]) 0 3 := by
    rintro ⟨q, -, clear, -, stop, -⟩
    exact clear 0 (by omega) rfl
  refine ⟨text, path, fun trip => behind ?_, fun trip => behind ?_⟩
  · exact (roundTrips_of_hidden text path (by decide) (by decide) (Nat.zero_le 1)).mp trip
  · exact (roundTrips_of_hidden text path (by decide) (by decide) (Nat.zero_le 1)).mp trip

end RoundTrip

end XTEDSMessage

end Sdm
