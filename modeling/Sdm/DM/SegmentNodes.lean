import Sdm.DM.SegmentBuilder

/-!
What a node of the segment builder holds.

`Holds m i n` says that the bytes of node `i` are those of the node `n`, with room left
behind its text. It does not depend on the bytes of other nodes (`Holds.congr`), and the
writes of `ApplySegment` keep to their node (`ChangesOnly`).

* `holds_cleared`: a node that has just been set up holds no segment.
* `Holds.append`: a segment that fits is appended, and its flag is set.
* `Holds.sentInOrder_iff`, `Holds.alreadyReceived_iff`: the flags say how many
  segments were received.
-/

namespace Sdm

open Lib

namespace SegmentBuilder

/-- The content of an `xTEDSSegmentNode` in use: the first `received` of its flags are
set. -/
structure SegmentNode where
  xTEDSID : SDMComponentID
  numSegments : Nat
  received : Nat
  text : CString

/-- The node with one more segment. -/
def SegmentNode.append (n : SegmentNode) (payload : CString) : SegmentNode :=
  { n with received := n.received + 1, text := n.text.append payload }

/-- Node `i` of the list is in use and holds `n`. -/
structure Holds (m : Memory) (i : Nat) (n : SegmentNode) : Prop where
  inUse : m (nodeAt i) = 1
  xTEDSID : xTEDSID m i = n.xTEDSID
  numSegments : numSegments m i = UInt16.ofNat n.numSegments
  flags : ∀ j < FLAGS_SIZE, m (flagsAt i + j) = if j < n.received then 1 else 0
  buffer : ∀ j < BUFFER_SIZE, m (bufferAt i + j) = n.text.bytes.getD j 0
  fits : n.text.length < BUFFER_SIZE

/-- Only bytes of node `i` change. -/
def ChangesOnly (i : Nat) (m m' : Memory) : Prop :=
  ∀ a, a < nodeAt i ∨ nodeAt i + NODE_SIZE ≤ a → m' a = m a

variable {m m' m'' : Memory} {msg : SDMxTEDS} {id : SDMComponentID} {i j k : Nat}
  {n : SegmentNode} {bytes : List UInt8} {off : Nat}

/-! ### Where the nodes are -/

theorem nodeAt_apart (ne : i ≠ j) :
    nodeAt i + NODE_SIZE ≤ nodeAt j ∨ nodeAt j + NODE_SIZE ≤ nodeAt i := by
  unfold nodeAt NODE_SIZE
  omega

theorem node_in_pool (lt : i < MAX_SEGMENT_NODES) : nodeAt i + NODE_SIZE ≤ POOL_SIZE := by
  unfold nodeAt POOL_SIZE NODE_SIZE
  unfold MAX_SEGMENT_NODES at *
  omega

theorem ChangesOnly.trans (first : ChangesOnly i m m') (second : ChangesOnly i m' m'') :
    ChangesOnly i m m'' := fun a outside => (second a outside).trans (first a outside)

theorem changesOnly_store (inside : nodeAt i ≤ off ∧ off + bytes.length ≤ nodeAt i + NODE_SIZE) :
    ChangesOnly i m (m.store off bytes) := fun a outside =>
  Memory.store_of_outside (by omega)

/-- The bytes of another node are as they were. -/
theorem ChangesOnly.other (changes : ChangesOnly j m m') (ne : i ≠ j) (k : Nat)
    (lt : k < NODE_SIZE) :
    m' (nodeAt i + k) = m (nodeAt i + k) :=
  changes _ (by have := nodeAt_apart ne; omega)

/-! ### A node depends on its own bytes -/

theorem nodeAt_congr (same : ∀ k < NODE_SIZE, m' (nodeAt i + k) = m (nodeAt i + k)) :
    m' (nodeAt i) = m (nodeAt i) := by
  have first := same 0 (Nat.succ_pos _)
  rwa [Nat.add_zero] at first

theorem isInUse_congr (same : ∀ k < NODE_SIZE, m' (nodeAt i + k) = m (nodeAt i + k)) :
    isInUse m' i = isInUse m i := by
  rw [isInUse, isInUse, nodeAt_congr same]

theorem xTEDSID_of_bytes (same : ∀ c < 10, m' (xTEDSIDAt i + c) = m (xTEDSIDAt i + c)) :
    xTEDSID m' i = xTEDSID m i := by
  have sensorID : m'.load32 (xTEDSIDAt i) = m.load32 (xTEDSIDAt i) :=
    Memory.load32_congr fun j lt => same j (by omega)
  have address : m'.load32 (xTEDSIDAt i + 4) = m.load32 (xTEDSIDAt i + 4) :=
    Memory.load32_congr fun j lt => by
      rw [Nat.add_assoc]
      exact same (4 + j) (by omega)
  have port : m'.load16 (xTEDSIDAt i + 8) = m.load16 (xTEDSIDAt i + 8) :=
    Memory.load16_congr fun j lt => by
      rw [Nat.add_assoc]
      exact same (8 + j) (by omega)
  rw [xTEDSID, xTEDSID, sensorID, address, port]

theorem xTEDSID_congr (same : ∀ k < NODE_SIZE, m' (nodeAt i + k) = m (nodeAt i + k)) :
    xTEDSID m' i = xTEDSID m i :=
  xTEDSID_of_bytes fun c lt => by
    rw [xTEDSIDAt, Nat.add_assoc]
    exact same _ (by unfold NODE_SIZE; omega)

theorem numSegments_congr (same : ∀ k < NODE_SIZE, m' (nodeAt i + k) = m (nodeAt i + k)) :
    numSegments m' i = numSegments m i :=
  Memory.load16_congr fun j lt => by
    rw [numSegmentsAt, Nat.add_assoc]
    exact same _ (by unfold NODE_SIZE; omega)

theorem Holds.congr (holds : Holds m i n)
    (same : ∀ k < NODE_SIZE, m' (nodeAt i + k) = m (nodeAt i + k)) : Holds m' i n where
  inUse := (nodeAt_congr same).trans holds.inUse
  xTEDSID := (xTEDSID_congr same).trans holds.xTEDSID
  numSegments := (numSegments_congr same).trans holds.numSegments
  flags j lt := by
    rw [← holds.flags j lt, flagsAt, Nat.add_assoc]
    exact same _ (by unfold FLAGS_SIZE at lt; unfold NODE_SIZE; omega)
  buffer j lt := by
    rw [← holds.buffer j lt, bufferAt, Nat.add_assoc]
    refine same _ ?_
    unfold BUFFER_SIZE MAX_NUMBER_SEGMENTS SEGMENT_MAX_XTEDS_SIZE at lt
    unfold NODE_SIZE
    omega
  fits := holds.fits

theorem Holds.other (holds : Holds m i n) (changes : ChangesOnly j m m') (ne : i ≠ j) :
    Holds m' i n := holds.congr (changes.other ne)

theorem Holds.isInUse (holds : Holds m i n) : isInUse m i = true := by
  rw [SegmentBuilder.isInUse, holds.inUse]
  rfl

/-! ### The buffer -/

/-- `strlen` and `strcpy` find the text of the node. -/
theorem Holds.text (holds : Holds m i n) (lt : i < MAX_SEGMENT_NODES) :
    m.text (bufferAt i) POOL_SIZE = some n.text := by
  have fits := holds.fits
  refine Memory.text_eq (fun j here => holds.buffer j (by omega)) ?_ ?_
  · rw [holds.buffer _ fits]
    exact List.getD_eq_default _ _ (Nat.le_refl _)
  · have pool := node_in_pool lt
    unfold BUFFER_SIZE MAX_NUMBER_SEGMENTS SEGMENT_MAX_XTEDS_SIZE at fits
    unfold NODE_SIZE at pool
    unfold bufferAt
    omega

/-! ### The flags -/

theorem Holds.alreadyReceived_iff (holds : Holds m i n) (lt : k < FLAGS_SIZE) :
    alreadyReceived m i k = true ↔ k < n.received := by
  rw [alreadyReceived, if_neg (by omega), holds.flags k lt, decide_eq_true_iff]
  split <;> simp_all

/-- The next segment in order is the one whose number is the count of those received. -/
theorem Holds.sentInOrder_iff (holds : Holds m i n) (lt : k < FLAGS_SIZE) :
    sentInOrder m i k = true ↔ k = n.received := by
  have flag (j : Nat) (here : j < FLAGS_SIZE) :
      (!(j < k && m (flagsAt i + j) == 0) && !(k ≤ j && m (flagsAt i + j) == 1)) = true ↔
        (j < k → j < n.received) ∧ (k ≤ j → ¬j < n.received) := by
    rw [holds.flags j here]
    by_cases set : j < n.received <;> simp [set]
  simp only [sentInOrder, List.all_eq_true, List.mem_range]
  constructor
  · intro ordered
    have upper := ((flag k lt).mp (ordered k lt)).2 (Nat.le_refl k)
    by_contra ne
    have here : n.received < FLAGS_SIZE := by omega
    have lower := ((flag n.received here).mp (ordered n.received here)).1 (by omega)
    omega
  · rintro rfl j here
    exact (flag j here).mpr ⟨id, fun le => Nat.not_lt.mpr le⟩

/-! ### Writing a segment -/

theorem bufferSize : BUFFER_SIZE = 32280 := rfl

theorem flagsSize : FLAGS_SIZE = 16 := rfl

theorem nodeSize : NODE_SIZE = 32316 := rfl

/-- The payload and its flag are all that changes. -/
theorem putSegment_of_outside {a length : Nat}
    (payload : a < bufferAt i + length ∨ bufferAt i + length + msg.rest.length ≤ a)
    (flag : a ≠ flagsAt i + msg.sequenceNumber) : putSegment m i length msg a = m a := by
  rw [putSegment, Memory.store_of_outside (by simp only [List.length_singleton]; omega),
    Memory.store_of_outside payload]

/-- The text in the buffer is followed by the payload. -/
theorem buffer_putSegment {text : CString}
    (before : ∀ j < BUFFER_SIZE, m (bufferAt i + j) = text.bytes.getD j 0) (lt : j < BUFFER_SIZE) :
    putSegment m i text.length msg (bufferAt i + j) = (text.append msg.rest).bytes.getD j 0 := by
  have size := bufferSize
  have length : msg.rest.bytes.length = msg.rest.length := rfl
  rw [putSegment, Memory.store_of_outside
    (by simp only [List.length_singleton]; unfold bufferAt flagsAt; omega), CString.append]
  by_cases old : j < text.length
  · rw [Memory.store_of_outside (by omega), before j lt]
    exact (List.getD_append _ _ _ _ old).symm
  · have past : text.bytes.length ≤ j := Nat.le_of_not_lt old
    obtain ⟨d, rfl⟩ := Nat.exists_eq_add_of_le past
    rw [List.getD_append_right _ _ _ _ past, Nat.add_sub_cancel_left]
    by_cases new : d < msg.rest.length
    · rw [← Nat.add_assoc]
      exact Memory.store_add new
    · rw [Memory.store_of_outside (Or.inr ?_), before _ lt, List.getD_eq_default _ _ past,
        List.getD_eq_default _ _ (Nat.le_of_not_lt new)]
      show bufferAt i + text.length + msg.rest.length ≤ bufferAt i + (text.length + d)
      omega

theorem changesOnly_putSegment {length : Nat} (fits : length + msg.rest.length < BUFFER_SIZE)
    (flag : msg.sequenceNumber < FLAGS_SIZE) : ChangesOnly i m (putSegment m i length msg) := by
  have size := bufferSize
  have flags := flagsSize
  have node := nodeSize
  intro a outside
  apply putSegment_of_outside
  · unfold bufferAt
    omega
  · unfold flagsAt
    omega

/-- **A segment that fits is appended**: the node then holds one more. -/
theorem Holds.putSegment (holds : Holds m i n) (next : msg.sequenceNumber = n.received)
    (flag : n.received < FLAGS_SIZE) (fits : n.text.length + msg.rest.length < BUFFER_SIZE) :
    Holds (putSegment m i n.text.length msg) i (n.append msg.rest) := by
  have size := bufferSize
  have flags := flagsSize
  have behind (a : Nat) (header : a = nodeAt i ∨ numSegmentsAt i ≤ a)
      (mark : a ≠ flagsAt i + msg.sequenceNumber) :
      SegmentBuilder.putSegment m i n.text.length msg a = m a := by
    refine putSegment_of_outside ?_ mark
    unfold bufferAt
    unfold numSegmentsAt at header
    omega
  have number (j : Nat) (lt : j < 2) : SegmentBuilder.putSegment m i n.text.length msg
      (numSegmentsAt i + j) = m (numSegmentsAt i + j) :=
    behind _ (.inr (by omega)) (by unfold numSegmentsAt flagsAt; omega)
  have id (c : Nat) : SegmentBuilder.putSegment m i n.text.length msg
      (xTEDSIDAt i + c) = m (xTEDSIDAt i + c) :=
    behind _ (.inr (by unfold numSegmentsAt xTEDSIDAt; omega))
      (by unfold xTEDSIDAt flagsAt; omega)
  refine ⟨?_, ?_, ?_, ?_, fun j lt => buffer_putSegment holds.buffer lt, ?_⟩
  · rw [behind _ (.inl rfl) (by unfold flagsAt; omega), holds.inUse]
  · exact (xTEDSID_of_bytes fun c _ => id c).trans holds.xTEDSID
  · exact (Memory.load16_congr number).trans holds.numSegments
  · intro j lt
    by_cases this : j = n.received
    · rw [this, ← next, SegmentBuilder.putSegment, Memory.store_singleton, if_pos]
      rw [next]
      exact Nat.lt_succ_self _
    · rw [behind _ (.inr (by unfold numSegmentsAt flagsAt; omega)) (by omega),
        holds.flags j lt]
      exact if_congr (show j < n.received ↔ j < n.received + 1 by omega) rfl rfl
  · rw [SegmentNode.append, CString.length_append]
    exact fits

theorem appendSegment_of_text {text : CString} (read : m.text (bufferAt i) POOL_SIZE = some text)
    (inside : bufferAt i + text.length + msg.rest.length ≤ POOL_SIZE) :
    appendSegment m i msg = some (putSegment m i text.length msg) := by
  rw [appendSegment, read, Option.bind_some, if_pos inside]

/-- `ApplySegment` can write a segment that fits. -/
theorem Holds.appendSegment (holds : Holds m i n) (lt : i < MAX_SEGMENT_NODES)
    (fits : n.text.length + msg.rest.length < BUFFER_SIZE) :
    appendSegment m i msg = some (SegmentBuilder.putSegment m i n.text.length msg) := by
  have pool := node_in_pool lt
  have size := bufferSize
  have node := nodeSize
  refine appendSegment_of_text (holds.text lt) ?_
  unfold bufferAt
  omega

/-! ### Setting up a node -/

theorem setxTEDSID_of_outside {a : Nat} (outside : a < xTEDSIDAt i ∨ xTEDSIDAt i + 10 ≤ a) :
    setxTEDSID m i id a = m a := by
  rw [setxTEDSID, Memory.store_of_outside (by rw [Memory.length_bytes16]; omega),
    Memory.store_of_outside (by rw [Memory.length_bytes32]; omega),
    Memory.store_of_outside (by rw [Memory.length_bytes32]; omega)]

theorem setNumSegments_of_outside {a : Nat} {x : UInt16}
    (outside : a < numSegmentsAt i ∨ numSegmentsAt i + 2 ≤ a) : setNumSegments m i x a = m a :=
  Memory.store_of_outside (by rwa [Memory.length_bytes16])

theorem xTEDSID_setxTEDSID : xTEDSID (setxTEDSID m i id) i = id := by
  have sensorID : (setxTEDSID m i id).load32 (xTEDSIDAt i) = id.sensorID := by
    rw [setxTEDSID, Memory.load32_store_of_apart (by omega),
      Memory.load32_store_of_apart (.inl (Nat.le_refl _)), Memory.load32_store]
  have address : (setxTEDSID m i id).load32 (xTEDSIDAt i + 4) = id.address := by
    rw [setxTEDSID, Memory.load32_store_of_apart (by omega), Memory.load32_store]
  have port : (setxTEDSID m i id).load16 (xTEDSIDAt i + 8) = id.port := Memory.load16_store _
  rw [xTEDSID, sensorID, address, port]

theorem isInUse_setInUse_zero : isInUse (setInUse m i 0) i = false := by
  have zero : setInUse m i 0 (nodeAt i) = 0 := Memory.store_singleton
  rw [isInUse, zero]
  rfl

theorem isInUse_resetNode : resetNode m i (nodeAt i) = 1 := Memory.store_singleton

theorem isInUse_labelNode : labelNode (resetNode m i) i msg (nodeAt i) = 1 := by
  rw [labelNode, setxTEDSID_of_outside (by unfold xTEDSIDAt; omega),
    setNumSegments_of_outside (by unfold numSegmentsAt; omega), isInUse_resetNode]

theorem changesOnly_clearBuffer : ChangesOnly i m (clearBuffer m i) := by
  refine changesOnly_store ?_
  rw [List.length_replicate, bufferSize, nodeSize]
  unfold bufferAt
  omega

theorem changesOnly_setInUse {b : UInt8} : ChangesOnly i m (setInUse m i b) := by
  refine changesOnly_store ?_
  rw [List.length_singleton, nodeSize]
  omega

theorem changesOnly_setxTEDSID : ChangesOnly i m (setxTEDSID m i id) := fun a outside =>
  setxTEDSID_of_outside (by
    have node := nodeSize
    unfold xTEDSIDAt
    omega)

theorem changesOnly_setNumSegments {x : UInt16} : ChangesOnly i m (setNumSegments m i x) :=
  fun a outside => setNumSegments_of_outside (by
    have node := nodeSize
    unfold numSegmentsAt
    omega)

theorem changesOnly_resetNode : ChangesOnly i m (resetNode m i) := by
  have flags : ChangesOnly i (setNumSegments (clearBuffer m i) i 0)
      ((setNumSegments (clearBuffer m i) i 0).fill (flagsAt i) FLAGS_SIZE 0) := by
    refine changesOnly_store ?_
    rw [List.length_replicate, flagsSize, nodeSize]
    unfold flagsAt
    omega
  exact ((changesOnly_clearBuffer.trans changesOnly_setNumSegments).trans flags).trans
    (changesOnly_setxTEDSID.trans changesOnly_setInUse)

theorem changesOnly_labelNode : ChangesOnly i m (labelNode (resetNode m i) i msg) :=
  (changesOnly_resetNode.trans changesOnly_setNumSegments).trans changesOnly_setxTEDSID

theorem changesOnly_cleared :
    ChangesOnly i m (clearBuffer (labelNode (resetNode m i) i msg) i) :=
  changesOnly_labelNode.trans changesOnly_clearBuffer

/-- A node that has just been set up holds no segment. -/
theorem holds_cleared :
    Holds (clearBuffer (labelNode (resetNode m i) i msg) i) i
      ⟨msg.source, msg.totalSegments, 0, .empty⟩ := by
  have size := bufferSize
  have flags := flagsSize
  have behind (a : Nat) (outside : a < bufferAt i ∨ numSegmentsAt i ≤ a) :
      clearBuffer (labelNode (resetNode m i) i msg) i a = labelNode (resetNode m i) i msg a :=
    Memory.fill_of_outside (by unfold numSegmentsAt at outside; unfold bufferAt at *; omega)
  refine ⟨?_, ?_, ?_, fun j lt => ?_, fun j lt => ?_, ?_⟩
  · rw [behind _ (by unfold bufferAt; omega), isInUse_labelNode]
  · exact (xTEDSID_of_bytes fun c _ => behind _ (by unfold xTEDSIDAt numSegmentsAt; omega)).trans
      xTEDSID_setxTEDSID
  · rw [numSegments, Memory.load16_congr fun j _ => behind _ (.inr (by omega)), labelNode,
      Memory.load16_congr fun j _ =>
        setxTEDSID_of_outside (by unfold xTEDSIDAt numSegmentsAt; omega)]
    exact Memory.load16_store _
  · rw [behind _ (by unfold flagsAt numSegmentsAt; omega), labelNode,
      setxTEDSID_of_outside (by unfold xTEDSIDAt flagsAt; omega),
      setNumSegments_of_outside (by unfold numSegmentsAt flagsAt; omega), resetNode, setInUse,
      Memory.store_of_outside (by rw [List.length_singleton]; unfold flagsAt; omega),
      setxTEDSID_of_outside (by unfold xTEDSIDAt flagsAt; omega),
      Memory.fill_of_inside (by omega), if_neg (Nat.not_lt_zero j)]
  · exact Memory.fill_of_inside (by omega)
  · rw [CString.length_empty, size]
    omega

end SegmentBuilder

end Sdm
