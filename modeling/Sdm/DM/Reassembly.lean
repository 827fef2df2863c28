import Mathlib.Logic.Function.Basic
import Sdm.DM.SegmentNodes

/-!
Every run of the segment builder in which the segments fit their buffers reassembles
what was sent.

An `Assembly` is what the builder is for: the segments accepted from one provider, in
the order of their numbers. `record` keeps the accepted segments of every provider as a
history, and `PoolHolds` ties the history to the nodes: a node in use holds the assembly
of its provider, and no provider has two nodes.

* `applySegment_applied`, `collect_collected`: what the calls of `xTEDS` do to such a list.
* `PoolHolds.reaches`, `exists_poolHolds`: it holds in every run whose steps meet `Fits`.
* `complete_text_of_fits`: what such a run stores for a provider is the concatenation of
  the segments accepted from it.
* `overflow_reaches_next_node`: without `Fits` a provider's segment lands in the text of
  another provider.
-/

namespace Sdm

open Lib

namespace SegmentBuilder

/-! ### What is reassembled -/

/-- The payloads of the segments, one after the other. -/
def payload (segments : List SDMxTEDS) : CString where
  bytes := segments.flatMap fun s => s.rest.bytes
  nul_notMem := fun mem => by
    obtain ⟨s, _, mem⟩ := List.mem_flatMap.mp mem
    exact s.rest.nul_notMem mem

/-- The segments accepted from one provider since its node was created. -/
structure Assembly where
  source : SDMComponentID
  /-- The number of segments that the first one announced. -/
  total : Nat
  segments : List SDMxTEDS
  sources : ∀ s ∈ segments, s.source = source
  numbered : segments.map SDMxTEDS.sequenceNumber = List.range segments.length
  announced : segments.head?.map SDMxTEDS.totalSegments = some total
  within : segments.length ≤ total
  total_le : total ≤ MAX_NUMBER_SEGMENTS

namespace Assembly

variable {msg : SDMxTEDS}

/-- The assembly that a first segment begins. -/
def begin (msg : SDMxTEDS) (first : msg.sequenceNumber = 0) (some : 0 < msg.totalSegments)
    (few : msg.totalSegments ≤ MAX_NUMBER_SEGMENTS) : Assembly where
  source := msg.source
  total := msg.totalSegments
  segments := [msg]
  sources s mem := by rw [List.mem_singleton.mp mem]
  numbered := congrArg (fun n => [n]) first
  announced := rfl
  within := some
  total_le := few

/-- The assembly with its next segment. -/
def add (a : Assembly) (msg : SDMxTEDS) (source : msg.source = a.source)
    (next : msg.sequenceNumber = a.segments.length) (more : a.segments.length < a.total) :
    Assembly where
  source := a.source
  total := a.total
  segments := a.segments ++ [msg]
  sources s mem := by
    rcases List.mem_append.mp mem with old | new
    · exact a.sources s old
    · rw [List.mem_singleton.mp new, source]
  numbered := by
    rw [List.map_append, a.numbered, List.length_append, List.length_singleton, List.range_succ]
    exact congrArg (fun n => List.range a.segments.length ++ [n]) next
  announced := by
    obtain ⟨s, first, _⟩ := Option.map_eq_some_iff.mp a.announced
    rw [List.head?_append, first, Option.some_or, ← first, a.announced]
  within := by
    rw [List.length_append, List.length_singleton]
    exact more
  total_le := a.total_le

/-- The node that holds the assembly. -/
def node (a : Assembly) : SegmentNode :=
  ⟨a.source, a.total, a.segments.length, payload a.segments⟩

theorem node_begin (first : msg.sequenceNumber = 0) (some : 0 < msg.totalSegments)
    (few : msg.totalSegments ≤ MAX_NUMBER_SEGMENTS) :
    (begin msg first some few).node =
      SegmentNode.append ⟨msg.source, msg.totalSegments, 0, .empty⟩ msg.rest := by
  have text : payload [msg] = CString.empty.append msg.rest :=
    CString.ext (List.append_nil msg.rest.bytes)
  exact congrArg (SegmentNode.mk msg.source msg.totalSegments 1) text

theorem node_add (a : Assembly) (source : msg.source = a.source)
    (next : msg.sequenceNumber = a.segments.length) (more : a.segments.length < a.total) :
    (a.add msg source next more).node = a.node.append msg.rest := by
  have text : payload (a.segments ++ [msg]) = (payload a.segments).append msg.rest := by
    apply CString.ext
    simp only [payload, CString.append, List.flatMap_append, List.flatMap_singleton]
  have length : (a.segments ++ [msg]).length = a.segments.length + 1 := by
    rw [List.length_append, List.length_singleton]
  simp only [node, add, SegmentNode.append, text, length]

theorem announced_append (a : Assembly) (msg : SDMxTEDS) :
    (a.segments ++ [msg]).head?.map SDMxTEDS.totalSegments = some a.total := by
  obtain ⟨s, first, _⟩ := Option.map_eq_some_iff.mp a.announced
  rw [List.head?_append, first, Option.some_or, ← first, a.announced]

/-- The number of segments is announced by the first of them. -/
theorem total_congr {a b : Assembly} (same : a.segments = b.segments) : a.total = b.total := by
  have announced := a.announced
  rw [same, b.announced] at announced
  exact (Option.some.inj announced).symm

theorem total_append {a b : Assembly} (same : a.segments = b.segments ++ [msg]) :
    a.total = b.total := by
  have announced := a.announced
  rw [same, b.announced_append] at announced
  exact (Option.some.inj announced).symm

theorem length_payload_append (segments : List SDMxTEDS) (msg : SDMxTEDS) :
    (payload (segments ++ [msg])).length = (payload segments).length + msg.rest.length := by
  simp only [payload, CString.length, List.flatMap_append, List.length_append,
    List.flatMap_singleton]

end Assembly

variable {m m' : Memory} {msg : SDMxTEDS} {id : SDMComponentID} {i j : Nat} {n : SegmentNode}

/-! ### Finding a node -/

/-- The node is in use for the provider. -/
def Matches (m : Memory) (id : SDMComponentID) (i : Nat) : Prop :=
  isInUse m i = true ∧ xTEDSID m i = id

theorem findNodeEntry_eq_none_iff :
    findNodeEntry m id = none ↔ ∀ i < MAX_NUMBER_SEGMENTS, ¬Matches m id i := by
  simp only [findNodeEntry, List.find?_range_eq_none, Bool.not_eq_true', decide_eq_false_iff_not]
  rfl

theorem findNodeEntry_eq_some_iff :
    findNodeEntry m id = some i ↔
      i < MAX_NUMBER_SEGMENTS ∧ Matches m id i ∧ ∀ j < i, ¬Matches m id j := by
  simp only [findNodeEntry, List.find?_range_eq_some, Bool.not_eq_true', decide_eq_false_iff_not,
    decide_eq_true_eq, List.mem_range]
  exact ⟨fun ⟨here, lt, before⟩ => ⟨lt, here, before⟩, fun ⟨lt, here, before⟩ => ⟨here, lt, before⟩⟩

theorem Holds.matches (holds : Holds m i n) : Matches m n.xTEDSID i :=
  ⟨holds.isInUse, holds.xTEDSID⟩

theorem matches_congr (same : ∀ k < NODE_SIZE, m' (nodeAt i + k) = m (nodeAt i + k)) :
    Matches m' id i ↔ Matches m id i := by
  rw [Matches, Matches, isInUse_congr same, xTEDSID_congr same]

/-- Looking for a provider that had no node finds the node that it was given. -/
theorem findNodeEntry_of_new (new : findNodeEntry m id = none) (changes : ChangesOnly i m m')
    (here : Matches m' id i) :
    findNodeEntry m' id = if i < MAX_NUMBER_SEGMENTS then some i else none := by
  have other (j : Nat) (lt : j < MAX_NUMBER_SEGMENTS) (ne : j ≠ i) : ¬Matches m' id j := by
    rw [matches_congr (changes.other ne)]
    exact findNodeEntry_eq_none_iff.mp new j lt
  split
  · rename_i lt
    exact findNodeEntry_eq_some_iff.mpr
      ⟨lt, here, fun j before => other j (Nat.lt_trans before lt) (Nat.ne_of_lt before)⟩
  · rename_i ge
    exact findNodeEntry_eq_none_iff.mpr fun j lt => other j lt (by omega)

/-- A node that is found is found again after it has been written. -/
theorem findNodeEntry_of_found (found : findNodeEntry m id = some i) (changes : ChangesOnly i m m')
    (here : Matches m' id i) : findNodeEntry m' id = some i := by
  obtain ⟨lt, _, before⟩ := findNodeEntry_eq_some_iff.mp found
  refine findNodeEntry_eq_some_iff.mpr ⟨lt, here, fun j less => ?_⟩
  rw [matches_congr (changes.other (Nat.ne_of_lt less))]
  exact before j less

/-! ### Completing a document -/

/-- The flags of a node tell whether all of its segments were received. -/
theorem Holds.checkIsFinished (holds : Holds m i n) (found : findNodeEntry m id = some i)
    (few : n.numSegments ≤ MAX_NUMBER_SEGMENTS) :
    checkIsFinished m id = some (decide (n.numSegments ≤ n.received)) := by
  have lt : i < MAX_NUMBER_SEGMENTS := (findNodeEntry_eq_some_iff.mp found).1
  unfold MAX_NUMBER_SEGMENTS at lt few
  have pool := node_in_pool (show i < MAX_SEGMENT_NODES by unfold MAX_SEGMENT_NODES; omega)
  have size := nodeSize
  have flags := flagsSize
  have total : (SegmentBuilder.numSegments m i).toNat = n.numSegments := by
    rw [holds.numSegments, UInt16.toNat_ofNat']
    omega
  have inside : flagsAt i + n.numSegments ≤ POOL_SIZE := by
    unfold flagsAt
    omega
  have missing : 0 ∈ m.read (flagsAt i) n.numSegments ↔ n.received < n.numSegments := by
    rw [Memory.mem_read]
    constructor
    · rintro ⟨j, before, unset⟩
      rw [holds.flags j (by omega)] at unset
      split at unset
      · exact absurd unset (by decide)
      · omega
    · intro fewer
      exact ⟨n.received, fewer, by rw [holds.flags _ (by omega), if_neg (Nat.lt_irrefl _)]⟩
  rw [SegmentBuilder.checkIsFinished, found]
  simp only [total, Nat.min_eq_left (show n.numSegments ≤ POOL_SIZE - flagsAt i by omega), missing,
    if_pos inside]
  split
  · rw [decide_eq_false (by omega)]
  · rw [decide_eq_true (by omega)]

/-- Nothing more happens for a node that still waits for segments. -/
theorem Holds.collect_waiting (holds : Holds m i n) (found : findNodeEntry m id = some i)
    (few : n.numSegments ≤ MAX_NUMBER_SEGMENTS) (waiting : n.received < n.numSegments) :
    collect m id = some (m, .accepted) := by
  rw [collect, holds.checkIsFinished found few, decide_eq_false (Nat.not_le.mpr waiting)]
  rfl

/-- A node with all of its segments is freed, and its text is stored when it is not too
long. -/
theorem Holds.collect_full (holds : Holds m i n) (found : findNodeEntry m id = some i)
    (few : n.numSegments ≤ MAX_NUMBER_SEGMENTS) (full : n.numSegments ≤ n.received) :
    collect m id = some (setInUse m i 0,
      if MAX_XTEDS_SIZE < n.text.length then .accepted else .complete n.text) := by
  have lt : i < MAX_SEGMENT_NODES :=
    Nat.lt_trans (findNodeEntry_eq_some_iff.mp found).1 (by decide)
  rw [collect, getFullxTEDS, holds.checkIsFinished found few, decide_eq_true full]
  simp only [Option.bind_some, if_true, found, holds.text lt, Option.map_some, deleteNode]
  by_cases long : MAX_XTEDS_SIZE < n.text.length
  · simp only [if_pos long]
  · simp only [if_neg long]

/-! ### Applying a segment -/

theorem applySegment_of_new (segmented : msg.IsSegmented) (range : msg.InRange)
    (new : findNodeEntry m msg.source = none) : applySegment m msg = createNode m msg := by
  rw [applySegment, if_neg (not_not.mpr segmented), if_neg (not_not.mpr range), new]

theorem receiveSegment_of_applied (segmented : msg.IsSegmented)
    (applied : applySegment m msg = some (m', true)) :
    receiveSegment m msg = collect m' msg.source := by
  rw [receiveSegment, if_pos segmented, applied]
  rfl

theorem receiveSegment_of_refused (segmented : msg.IsSegmented)
    (refused : applySegment m msg = some (m', false)) :
    receiveSegment m msg = some (m', .refused) := by
  rw [receiveSegment, if_pos segmented, refused]
  rfl

/-- The first segment of a provider goes to the first free node. -/
theorem createNode_first (first : msg.sequenceNumber = 0)
    (few : msg.totalSegments ≤ MAX_NUMBER_SEGMENTS)
    (free : addSegmentNode m = some (resetNode m i, i)) (lt : i < MAX_SEGMENT_NODES) :
    ∃ m', createNode m msg = some (m', true) ∧ ChangesOnly i m m' ∧
      Holds m' i (SegmentNode.append ⟨msg.source, msg.totalSegments, 0, .empty⟩ msg.rest) := by
  have small := msg.rest_fits
  have size := bufferSize
  have fits : CString.empty.length + msg.rest.length < BUFFER_SIZE := by
    unfold MAX_XTEDS_SIZE at small
    rw [CString.length_empty]
    omega
  have blank : Holds (clearBuffer (labelNode (resetNode m i) i msg) i) i
      ⟨msg.source, msg.totalSegments, 0, .empty⟩ := holds_cleared
  have room : ¬BUFFER_SIZE < msg.totalSegments * SEGMENT_MAX_XTEDS_SIZE := by
    unfold MAX_NUMBER_SEGMENTS at few
    unfold SEGMENT_MAX_XTEDS_SIZE
    omega
  refine ⟨_, ?_, ?_, blank.putSegment first (Nat.succ_pos _) fits⟩
  · rw [createNode, if_neg (not_not.mpr first), free]
    simp only [if_neg room, blank.appendSegment lt fits, Option.map_some]
  · refine ChangesOnly.trans changesOnly_cleared (changesOnly_putSegment fits ?_)
    rw [first]
    exact Nat.succ_pos _

/-- A further segment goes to the node of its provider, when it is the next in order. -/
theorem Holds.applySegment (holds : Holds m i n) (segmented : msg.IsSegmented)
    (range : msg.InRange) (found : findNodeEntry m msg.source = some i) :
    applySegment m msg =
      if msg.sequenceNumber < n.received then some (m, true)
      else if msg.sequenceNumber ≠ n.received then some (m, false)
      else (SegmentBuilder.appendSegment m i msg).map fun m => (m, true) := by
  have lt : msg.sequenceNumber < FLAGS_SIZE := by
    have le := segmented.1
    unfold MAX_XTEDS_SEQUENCE_VALUE at le
    unfold FLAGS_SIZE
    omega
  rw [SegmentBuilder.applySegment, if_neg (not_not.mpr segmented), if_neg (not_not.mpr range),
    found]
  simp only [holds.alreadyReceived_iff lt, holds.sentInOrder_iff lt, ne_eq]

/-! ### The history of accepted segments -/

/-- The segments accepted from every provider since its node was created. -/
abbrev History := SDMComponentID → List SDMxTEDS

/-- A segment that is accepted begins the history of its provider or continues it; one
that had been received before does neither. -/
def accept (h : History) (m : Memory) (msg : SDMxTEDS) : History :=
  match findNodeEntry m msg.source with
  | none => Function.update h msg.source [msg]
  | some i =>
      if alreadyReceived m i msg.sequenceNumber then h
      else Function.update h msg.source (h msg.source ++ [msg])

theorem accept_of_new {h : History} (new : findNodeEntry m msg.source = none) :
    accept h m msg = Function.update h msg.source [msg] := by
  rw [accept, new]

theorem accept_of_found {h : History} (found : findNodeEntry m msg.source = some i)
    (notYet : alreadyReceived m i msg.sequenceNumber = false) :
    accept h m msg = Function.update h msg.source (h msg.source ++ [msg]) := by
  rw [accept, found]
  exact if_neg (Bool.eq_false_iff.mp notYet)

/-- The history after a message. -/
def record (h : History) (m : Memory) (msg : SDMxTEDS) : Received → History
  | .unsegmented | .refused => h
  | .accepted | .complete _ => accept h m msg

/-- Every node that can be found holds the assembly of its provider, and no provider has
two. Only the node of `full` may have all of its segments. -/
structure PoolHolds (m : Memory) (h : History) (full : Option SDMComponentID) : Prop where
  node : ∀ i < MAX_NUMBER_SEGMENTS, isInUse m i = true →
    ∃ a : Assembly, Holds m i a.node ∧ h a.source = a.segments ∧
      (a.segments.length = a.total → full = some a.source)
  unique : ∀ i < MAX_NUMBER_SEGMENTS, ∀ j < MAX_NUMBER_SEGMENTS, isInUse m i = true →
    isInUse m j = true → xTEDSID m i = xTEDSID m j → i = j

variable {h : History} {full : Option SDMComponentID} {a : Assembly}

/-- No node is in use at the start. -/
theorem isInUse_start : ∀ i < MAX_SEGMENT_NODES, isInUse start i = false := by decide

/-- No provider has a node at the start. -/
theorem findNodeEntry_start (id : SDMComponentID) : findNodeEntry start id = none :=
  findNodeEntry_eq_none_iff.mpr fun i lt here => by
    rw [Matches, isInUse_start i (Nat.lt_trans lt (by decide))] at here
    exact Bool.false_ne_true here.1

theorem poolHolds_start : PoolHolds start (fun _ => []) none := by
  constructor
  · intro i lt used
    rw [isInUse_start i (Nat.lt_trans lt (by decide))] at used
    exact absurd used Bool.false_ne_true
  · intro i lt _ _ used
    rw [isInUse_start i (Nat.lt_trans lt (by decide))] at used
    exact absurd used Bool.false_ne_true

/-- The node that is found holds what was accepted. -/
theorem PoolHolds.found (holds : PoolHolds m h full) (found : findNodeEntry m id = some i) :
    ∃ a : Assembly, a.source = id ∧ Holds m i a.node ∧ h id = a.segments ∧
      (a.segments.length = a.total → full = some id) := by
  obtain ⟨lt, here, _⟩ := findNodeEntry_eq_some_iff.mp found
  obtain ⟨a, held, history, done⟩ := holds.node i lt here.1
  have source : a.source = id := held.xTEDSID.symm.trans here.2
  exact ⟨a, source, held, source ▸ history, source ▸ done⟩

/-- Writing the assembly of a provider that has no other node. -/
theorem PoolHolds.write (holds : PoolHolds m h none) (changes : ChangesOnly i m m')
    (alone : ∀ j < MAX_NUMBER_SEGMENTS, j ≠ i → ¬Matches m a.source j)
    (held : Holds m' i a.node) :
    PoolHolds m' (Function.update h a.source a.segments) (some a.source) := by
  have used (j : Nat) (ne : j ≠ i) : isInUse m' j = isInUse m j := isInUse_congr (changes.other ne)
  have owner (j : Nat) (ne : j ≠ i) : xTEDSID m' j = xTEDSID m j := xTEDSID_congr (changes.other ne)
  have apart (j : Nat) (lt : j < MAX_NUMBER_SEGMENTS) (ne : j ≠ i) (inUse : isInUse m' j = true) :
      xTEDSID m' j ≠ a.source := by
    rw [owner j ne]
    exact fun same => alone j lt ne ⟨(used j ne).symm.trans inUse, same⟩
  constructor
  · intro j lt inUse
    by_cases own : j = i
    · subst own
      exact ⟨a, held, Function.update_self .., fun _ => rfl⟩
    · obtain ⟨b, other, history, done⟩ := holds.node j lt ((used j own).symm.trans inUse)
      have ne : b.source ≠ a.source := by
        have differs := apart j lt own inUse
        rwa [owner j own, other.xTEDSID] at differs
      refine ⟨b, other.other changes own, ?_, fun last => ?_⟩
      · rw [Function.update_of_ne ne, history]
      · exact absurd (done last) (Option.some_ne_none _).symm
  · intro j ltj k ltk usedj usedk same
    by_cases atj : j = i
    · by_cases atk : k = i
      · rw [atj, atk]
      · refine absurd (same.symm.trans ?_) (apart k ltk atk usedk)
        rw [atj]
        exact held.xTEDSID
    · by_cases atk : k = i
      · refine absurd (same.trans ?_) (apart j ltj atj usedj)
        rw [atk]
        exact held.xTEDSID
      · refine holds.unique j ltj k ltk ((used j atj).symm.trans usedj)
          ((used k atk).symm.trans usedk) ?_
        rwa [owner j atj, owner k atk] at same

/-- Freeing a node, or writing one that is never found, when no other node is full. -/
theorem PoolHolds.release (holds : PoolHolds m h full) (changes : ChangesOnly i m m')
    (free : isInUse m' i = false ∨ MAX_NUMBER_SEGMENTS ≤ i)
    (alone : ∀ j < MAX_NUMBER_SEGMENTS, j ≠ i → ∀ id, full = some id → ¬Matches m id j) :
    PoolHolds m' h none := by
  have other (j : Nat) (lt : j < MAX_NUMBER_SEGMENTS) (inUse : isInUse m' j = true) :
      j ≠ i ∧ isInUse m j = true := by
    have ne : j ≠ i := by
      rintro rfl
      rcases free with unused | ge
      · rw [unused] at inUse
        exact Bool.false_ne_true inUse
      · omega
    exact ⟨ne, (isInUse_congr (changes.other ne)).symm.trans inUse⟩
  constructor
  · intro j lt inUse
    obtain ⟨ne, used⟩ := other j lt inUse
    obtain ⟨b, held, history, done⟩ := holds.node j lt used
    exact ⟨b, held.other changes ne, history, fun last =>
      absurd held.matches (alone j lt ne _ (done last))⟩
  · intro j ltj k ltk usedj usedk same
    obtain ⟨nej, usedj⟩ := other j ltj usedj
    obtain ⟨nek, usedk⟩ := other k ltk usedk
    rw [xTEDSID_congr (changes.other nej), xTEDSID_congr (changes.other nek)] at same
    exact holds.unique j ltj k ltk usedj usedk same

theorem PoolHolds.mono (holds : PoolHolds m h none) : PoolHolds m h full where
  node i lt used := by
    obtain ⟨a, held, history, done⟩ := holds.node i lt used
    exact ⟨a, held, history, fun last => absurd (done last) (Option.some_ne_none _).symm⟩
  unique := holds.unique

theorem PoolHolds.alone (holds : PoolHolds m h full) (found : findNodeEntry m id = some i) :
    ∀ j < MAX_NUMBER_SEGMENTS, j ≠ i → ¬Matches m id j := by
  obtain ⟨lt, here, _⟩ := findNodeEntry_eq_some_iff.mp found
  intro j ltj ne other
  exact ne (holds.unique j ltj i lt other.1 here.1 (other.2.trans here.2.symm))

/-! ### Runs in which the segments fit -/

/-- The segment is one that `ApplySegment` appends to the text of node `i`. -/
def Appends (m : Memory) (msg : SDMxTEDS) (i : Nat) : Prop :=
  msg.IsSegmented ∧ msg.InRange ∧ findNodeEntry m msg.source = some i ∧
    alreadyReceived m i msg.sequenceNumber = false ∧ sentInOrder m i msg.sequenceNumber = true

/-- A segment that is appended leaves room for the terminator of the text. -/
def Fits (m : Memory) (msg : SDMxTEDS) : Prop :=
  ∀ i text, Appends m msg i → m.text (bufferAt i) POOL_SIZE = some text →
    text.length + msg.rest.length < BUFFER_SIZE

/-- The first segment of a provider fits into any buffer. -/
theorem Fits.of_new (new : findNodeEntry m msg.source = none) : Fits m msg := by
  rintro i text ⟨_, _, found, _⟩
  rw [new] at found
  exact absurd found (Option.some_ne_none i).symm

/-- The first node that is not in use. -/
structure FirstFree (m : Memory) (i : Nat) : Prop where
  lt : i < MAX_SEGMENT_NODES
  free : isInUse m i = false
  before : ∀ j < i, isInUse m j = true

theorem addSegmentNode_eq_some_iff {p : Memory × Nat} :
    addSegmentNode m = some p ↔ p = (resetNode m p.2, p.2) ∧ FirstFree m p.2 := by
  simp only [addSegmentNode, Option.map_eq_some_iff, List.find?_range_eq_some, List.mem_range,
    Bool.not_eq_true', Bool.not_eq_false']
  constructor
  · rintro ⟨i, ⟨free, lt, before⟩, rfl⟩
    exact ⟨rfl, lt, free, before⟩
  · rintro ⟨reset, lt, free, before⟩
    exact ⟨p.2, ⟨free, lt, before⟩, reset.symm⟩

theorem FirstFree.added (first : FirstFree m i) : addSegmentNode m = some (resetNode m i, i) :=
  addSegmentNode_eq_some_iff.mpr ⟨rfl, first⟩

/-! ### What one call does -/

/-- The message is the first segment of a provider that has no node. -/
structure Opens (m : Memory) (msg : SDMxTEDS) : Prop where
  segmented : msg.IsSegmented
  range : msg.InRange
  new : findNodeEntry m msg.source = none
  first : msg.sequenceNumber = 0

/-- Why `ApplySegment` leaves everything as it was. -/
inductive Refusal (m : Memory) (h : History) (msg : SDMxTEDS) : Prop where
  | outOfRange (range : ¬msg.InRange) : Refusal m h msg
  | notFirst (new : findNodeEntry m msg.source = none) (later : msg.sequenceNumber ≠ 0) :
      Refusal m h msg
  | noNode (new : findNodeEntry m msg.source = none) (none : addSegmentNode m = none) :
      Refusal m h msg
  | outOfOrder {i : Nat} (found : findNodeEntry m msg.source = some i)
      (early : (h msg.source).length < msg.sequenceNumber) : Refusal m h msg

/-- What `ApplySegment` does in a list that holds the assemblies of `h`. -/
inductive Applied (m : Memory) (h : History) (msg : SDMxTEDS) : Memory → Bool → Prop where
  | refused (why : Refusal m h msg) : Applied m h msg m false
  | tooMany {i : Nat} (opens : Opens m msg) (free : FirstFree m i)
      (many : MAX_NUMBER_SEGMENTS < msg.totalSegments) :
      Applied m h msg (deleteNode (labelNode (resetNode m i) i msg) msg.source) false
  | repeated {i : Nat} (found : findNodeEntry m msg.source = some i)
      (before : msg.sequenceNumber < (h msg.source).length) (same : accept h m msg = h) :
      Applied m h msg m true
  | begun {i : Nat} {m' : Memory} {a : Assembly} (opens : Opens m msg) (free : FirstFree m i)
      (source : a.source = msg.source) (segments : a.segments = [msg])
      (changes : ChangesOnly i m m') (held : Holds m' i a.node) : Applied m h msg m' true
  | continued {i : Nat} {m' : Memory} {a b : Assembly} (appends : Appends m msg i)
      (old : Holds m i a.node) (history : h msg.source = a.segments)
      (source : b.source = msg.source) (segments : b.segments = a.segments ++ [msg])
      (total : b.total = a.total) (changes : ChangesOnly i m m') (held : Holds m' i b.node) :
      Applied m h msg m' true

theorem applied_of_new (segmented : msg.IsSegmented) (range : msg.InRange)
    (new : findNodeEntry m msg.source = none) :
    ∃ m' applied, applySegment m msg = some (m', applied) ∧ Applied m h msg m' applied := by
  have start := applySegment_of_new segmented range new
  by_cases first : msg.sequenceNumber = 0
  swap
  · exact ⟨m, false, start.trans (if_pos first), .refused (.notFirst new first)⟩
  cases added : addSegmentNode m with
  | none =>
      refine ⟨m, false, ?_, .refused (.noNode new added)⟩
      rw [start, createNode, if_neg (not_not.mpr first), added]
  | some p =>
      obtain ⟨reset, free⟩ := addSegmentNode_eq_some_iff.mp added
      by_cases few : msg.totalSegments ≤ MAX_NUMBER_SEGMENTS
      · obtain ⟨m', created, changes, held⟩ := createNode_first first few free.added free.lt
        rw [← Assembly.node_begin first segmented.2.2 few] at held
        exact ⟨m', true, start.trans created,
          .begun ⟨segmented, range, new, first⟩ free rfl rfl changes held⟩
      · refine ⟨_, false, ?_,
          .tooMany ⟨segmented, range, new, first⟩ free (Nat.lt_of_not_le few)⟩
        rw [start, createNode, if_neg (not_not.mpr first), added, reset]
        refine if_pos ?_
        unfold BUFFER_SIZE SEGMENT_MAX_XTEDS_SIZE
        omega

theorem applied_of_found (holds : PoolHolds m h none) (segmented : msg.IsSegmented)
    (range : msg.InRange) (found : findNodeEntry m msg.source = some i) (fits : Fits m msg) :
    ∃ m' applied, applySegment m msg = some (m', applied) ∧ Applied m h msg m' applied := by
  obtain ⟨a, source, held, history, done⟩ := holds.found found
  have waiting : a.segments.length < a.total :=
    Nat.lt_of_le_of_ne a.within fun last => absurd (done last) (Option.some_ne_none _).symm
  have number : msg.sequenceNumber < FLAGS_SIZE := Nat.lt_succ_of_le segmented.1
  have step : applySegment m msg =
      if msg.sequenceNumber < a.segments.length then some (m, true)
      else if msg.sequenceNumber ≠ a.segments.length then some (m, false)
      else (SegmentBuilder.appendSegment m i msg).map fun m => (m, true) :=
    held.applySegment segmented range found
  have received := held.alreadyReceived_iff number
  by_cases before : msg.sequenceNumber < a.segments.length
  · have same : accept h m msg = h := by
      rw [accept, found]
      exact if_pos (received.mpr before)
    exact ⟨m, true, step.trans (if_pos before), .repeated found (by rwa [history]) same⟩
  rw [if_neg before] at step
  by_cases next : msg.sequenceNumber = a.segments.length
  swap
  · refine ⟨m, false, step.trans (if_pos next), .refused (.outOfOrder found ?_)⟩
    rw [history]
    exact Nat.lt_of_le_of_ne (Nat.le_of_not_lt before) (Ne.symm next)
  rw [if_neg (not_not.mpr next)] at step
  have lt : i < MAX_SEGMENT_NODES := Nat.lt_trans (findNodeEntry_eq_some_iff.mp found).1 (by decide)
  have notYet : alreadyReceived m i msg.sequenceNumber = false :=
    Bool.eq_false_iff.mpr fun already => before (received.mp already)
  have appends : Appends m msg i :=
    ⟨segmented, range, found, notYet, (held.sentInOrder_iff number).mpr next⟩
  have room := fits i _ appends (held.text lt)
  have written := held.putSegment next (next.symm.trans_lt number) room
  rw [← a.node_add source.symm next waiting] at written
  rw [held.appendSegment lt room] at step
  refine ⟨_, true, step, ?_⟩
  exact Applied.continued (b := a.add msg source.symm next waiting) appends held history source
    rfl rfl (changesOnly_putSegment room number) written

/-- **`ApplySegment` refuses a segment or stores it** in the node of its provider, and has
a result whenever the segment fits. -/
theorem applySegment_applied (holds : PoolHolds m h none) (segmented : msg.IsSegmented)
    (fits : Fits m msg) :
    ∃ m' applied, applySegment m msg = some (m', applied) ∧ Applied m h msg m' applied := by
  by_cases range : msg.InRange
  · cases found : findNodeEntry m msg.source with
    | none => exact applied_of_new segmented range found
    | some i => exact applied_of_found holds segmented range found fits
  · refine ⟨m, false, ?_, .refused (.outOfRange range)⟩
    rw [applySegment, if_neg (not_not.mpr segmented), if_pos range]

theorem matches_labelNode : Matches (labelNode (resetNode m i) i msg) msg.source i := by
  refine ⟨?_, xTEDSID_setxTEDSID⟩
  rw [isInUse, isInUse_labelNode]
  rfl

/-- A first segment that announces too many segments leaves no node behind that is found. -/
theorem deleteNode_labelNode (new : findNodeEntry m msg.source = none) :
    deleteNode (labelNode (resetNode m i) i msg) msg.source =
      if i < MAX_NUMBER_SEGMENTS then setInUse (labelNode (resetNode m i) i msg) i 0
      else labelNode (resetNode m i) i msg := by
  have found : findNodeEntry (labelNode (resetNode m i) i msg) msg.source =
      if i < MAX_NUMBER_SEGMENTS then some i else none :=
    findNodeEntry_of_new new changesOnly_labelNode matches_labelNode
  rw [deleteNode, found]
  by_cases lt : i < MAX_NUMBER_SEGMENTS
  · simp only [if_pos lt]
  · simp only [if_neg lt]

theorem changesOnly_deleteNode_labelNode (new : findNodeEntry m msg.source = none) :
    ChangesOnly i m (deleteNode (labelNode (resetNode m i) i msg) msg.source) := by
  rw [deleteNode_labelNode new]
  split
  · exact changesOnly_labelNode.trans changesOnly_setInUse
  · exact changesOnly_labelNode

/-- A refused segment leaves the assemblies as they were. -/
theorem Applied.refused_poolHolds (applied : Applied m h msg m' false)
    (holds : PoolHolds m h none) : PoolHolds m' h none := by
  cases applied with
  | refused => exact holds
  | @tooMany i opens =>
      refine holds.release (changesOnly_deleteNode_labelNode opens.new) ?_
        fun _ _ _ _ none => absurd none (Option.some_ne_none _).symm
      rw [deleteNode_labelNode opens.new]
      by_cases lt : i < MAX_NUMBER_SEGMENTS
      · rw [if_pos lt]
        exact .inl isInUse_setInUse_zero
      · exact .inr (Nat.le_of_not_lt lt)

/-- **A stored segment becomes the last of its provider's**, and no other assembly
changes. -/
theorem Applied.stored_poolHolds (applied : Applied m h msg m' true)
    (holds : PoolHolds m h none) : PoolHolds m' (accept h m msg) (some msg.source) := by
  cases applied with
  | repeated _ _ same =>
      rw [same]
      exact holds.mono
  | begun opens free source segments changes held =>
      rw [accept_of_new opens.new, ← segments, ← source]
      exact holds.write changes
        (fun j lt _ => source ▸ findNodeEntry_eq_none_iff.mp opens.new j lt) held
  | continued appends old history source segments total changes held =>
      obtain ⟨_, _, found, notYet, _⟩ := appends
      rw [accept_of_found found notYet, history, ← segments, ← source]
      refine holds.write changes (fun j lt ne => ?_) held
      rw [source]
      exact holds.alone found j lt ne

/-- What the stage after `ApplySegment` does in a list that holds the assemblies of `h`. -/
inductive Collected (m : Memory) (h : History) (id : SDMComponentID) :
    Memory → Received → Prop where
  | hidden (lost : findNodeEntry m id = none) : Collected m h id m .accepted
  | waiting {i : Nat} {a : Assembly} (found : findNodeEntry m id = some i) (source : a.source = id)
      (history : h id = a.segments) (more : a.segments.length < a.total) :
      Collected m h id m .accepted
  | tooLong {i : Nat} {a : Assembly} (found : findNodeEntry m id = some i) (source : a.source = id)
      (history : h id = a.segments) (last : a.segments.length = a.total)
      (long : MAX_XTEDS_SIZE < (payload a.segments).length) :
      Collected m h id (setInUse m i 0) .accepted
  | complete {i : Nat} {a : Assembly} (found : findNodeEntry m id = some i) (source : a.source = id)
      (history : h id = a.segments) (last : a.segments.length = a.total)
      (short : (payload a.segments).length ≤ MAX_XTEDS_SIZE) :
      Collected m h id (setInUse m i 0) (.complete (payload a.segments))

theorem collect_collected (holds : PoolHolds m h full) :
    ∃ m' out, collect m id = some (m', out) ∧ Collected m h id m' out := by
  cases found : findNodeEntry m id with
  | none =>
      refine ⟨m, .accepted, ?_, .hidden found⟩
      rw [collect, checkIsFinished, found]
      rfl
  | some i =>
      obtain ⟨a, source, held, history, _⟩ := holds.found found
      by_cases more : a.segments.length < a.total
      · exact ⟨m, .accepted, held.collect_waiting found a.total_le more,
          .waiting found source history more⟩
      have last : a.segments.length = a.total := Nat.le_antisymm a.within (Nat.le_of_not_lt more)
      refine ⟨_, _, held.collect_full found a.total_le last.ge, ?_⟩
      by_cases long : MAX_XTEDS_SIZE < (payload a.segments).length
      · have outcome : (if MAX_XTEDS_SIZE < a.node.text.length then Received.accepted
            else .complete a.node.text) = .accepted := if_pos long
        rw [outcome]
        exact .tooLong found source history last long
      · have outcome : (if MAX_XTEDS_SIZE < a.node.text.length then Received.accepted
            else .complete a.node.text) = .complete (payload a.segments) := if_neg long
        rw [outcome]
        exact .complete found source history last (Nat.le_of_not_lt long)

/-- A node in use whose assembly has all of its segments is the one that is looked for. -/
theorem PoolHolds.rest (holds : PoolHolds m h (some id))
    (waiting : ∀ a : Assembly, a.source = id → h id = a.segments → ∀ i < MAX_NUMBER_SEGMENTS,
      Holds m i a.node → a.segments.length < a.total) : PoolHolds m h none where
  node i lt used := by
    obtain ⟨a, held, history, done⟩ := holds.node i lt used
    refine ⟨a, held, history, fun last => ?_⟩
    have source : a.source = id := (Option.some.inj (done last)).symm
    exact absurd last (Nat.ne_of_lt (waiting a source (source ▸ history) i lt held))
  unique := holds.unique

theorem PoolHolds.freed (holds : PoolHolds m h (some id)) (found : findNodeEntry m id = some i) :
    PoolHolds (setInUse m i 0) h none := by
  refine holds.release changesOnly_setInUse (.inl isInUse_setInUse_zero)
    fun j lt ne other same => ?_
  rw [← Option.some.inj same]
  exact holds.alone found j lt ne

/-- **What is collected is no longer in the list.** -/
theorem Collected.poolHolds {out : Received} (collected : Collected m h id m' out)
    (holds : PoolHolds m h (some id)) : PoolHolds m' h none := by
  cases collected with
  | hidden lost =>
      apply holds.rest
      intro a source _ i lt held
      exact absurd (source ▸ held.matches) (findNodeEntry_eq_none_iff.mp lost i lt)
  | @waiting _ a _ _ history more =>
      apply holds.rest
      intro b _ log _ _ _
      have segments : b.segments = a.segments := log.symm.trans history
      rw [segments, Assembly.total_congr segments]
      exact more
  | tooLong found => exact holds.freed found
  | complete found => exact holds.freed found

/-- **One message keeps the assemblies**, and a text that it completes is that of an
assembly with all of its segments. -/
theorem receiveSegment_spec (holds : PoolHolds m h none) (fits : Fits m msg) :
    ∃ m' out, receiveSegment m msg = some (m', out) ∧ PoolHolds m' (record h m msg out) none ∧
      ∀ text, out = .complete text → ∃ a : Assembly, a.source = msg.source ∧
        record h m msg out msg.source = a.segments ∧ a.segments.length = a.total ∧
        text = payload a.segments := by
  by_cases segmented : msg.IsSegmented
  swap
  · exact ⟨m, .unsegmented, if_neg segmented, holds, nofun⟩
  obtain ⟨m₁, applied, applying, outcome⟩ := applySegment_applied holds segmented fits
  cases applied with
  | false =>
      exact ⟨m₁, .refused, receiveSegment_of_refused segmented applying,
        outcome.refused_poolHolds holds, nofun⟩
  | true =>
      have stored := outcome.stored_poolHolds holds
      obtain ⟨m₂, out, collecting, collected⟩ := collect_collected stored
      refine ⟨m₂, out, (receiveSegment_of_applied segmented applying).trans collecting, ?_⟩
      have kept := collected.poolHolds stored
      cases collected with
      | hidden => exact ⟨kept, nofun⟩
      | waiting => exact ⟨kept, nofun⟩
      | tooLong => exact ⟨kept, nofun⟩
      | @complete _ a _ source history last short =>
          refine ⟨kept, fun text same => ⟨a, source, history, last, ?_⟩⟩
          exact (Received.complete.inj same).symm

/-- The assemblies are kept in every run in which the segments fit. -/
theorem PoolHolds.reaches
    (run : (segmentBuilder.withGhost record).Reaches (fun q msg => Fits q.1 msg)
      (start, fun _ => []) (m, h)) : PoolHolds m h none := by
  refine run.invariant (I := fun q => PoolHolds q.1 q.2 none) poolHolds_start ?_
  rintro ⟨m, h⟩ msg ⟨m', h'⟩ out holds fits taken
  obtain ⟨here, rfl⟩ := Machine.withGhost_step_eq_some.mp taken
  obtain ⟨m₁, out₁, step, kept, _⟩ := receiveSegment_spec holds fits
  cases Option.some.inj (step.symm.trans here)
  exact kept

/-- What the builder holds after such a run are the assemblies of some history. -/
theorem exists_poolHolds (run : segmentBuilder.Reaches Fits start m) :
    ∃ h, PoolHolds m h none := by
  obtain ⟨h, run⟩ := run.exists_ghost record fun _ => []
  exact ⟨h, PoolHolds.reaches run⟩

/-- **Segments that fit are reassembled.** In every run in which the appended segments fit
their buffers, the next message whose segment fits is handled, and a text that it completes
is the concatenation, in the order 0, 1, ... of their numbers, of the segments accepted
from its provider since the provider's node was created. They are as many as the first one
announced. -/
theorem complete_text_of_fits
    (run : (segmentBuilder.withGhost record).Reaches (fun q msg => Fits q.1 msg)
      (start, fun _ => []) (m, h))
    (fits : Fits m msg) :
    ∃ m' out, receiveSegment m msg = some (m', out) ∧ ∀ text, out = .complete text →
      (∀ s ∈ record h m msg out msg.source, s.source = msg.source) ∧
      (record h m msg out msg.source).map SDMxTEDS.sequenceNumber =
        List.range (record h m msg out msg.source).length ∧
      (record h m msg out msg.source).head?.map SDMxTEDS.totalSegments =
        some (record h m msg out msg.source).length ∧
      text.bytes = (record h m msg out msg.source).flatMap fun s => s.rest.bytes := by
  obtain ⟨m', out, step, _, complete⟩ := receiveSegment_spec (PoolHolds.reaches run) fits
  refine ⟨m', out, step, fun text same => ?_⟩
  obtain ⟨a, source, history, last, rfl⟩ := complete text same
  rw [history]
  refine ⟨?_, a.numbered, ?_, rfl⟩
  · rw [← source]
    exact a.sources
  · rw [a.announced, last]

theorem ghost_step_accepted (step : receiveSegment m msg = some (m', .accepted)) :
    (segmentBuilder.withGhost record).step (m, h) msg =
      some ((m', accept h m msg), .accepted) :=
  Machine.withGhost_step_eq_some.mpr ⟨step, rfl⟩

/-! ### Two providers -/

/-- The message is the first of two segments. -/
def BeginsTwo (msg : SDMxTEDS) : Prop := msg.sequenceNumber = 0 ∧ msg.totalSegments = 2

theorem BeginsTwo.segmented (begins : BeginsTwo msg) : msg.IsSegmented := by
  rw [SDMxTEDS.IsSegmented, begins.1, begins.2]
  decide

theorem BeginsTwo.inRange (begins : BeginsTwo msg) : msg.InRange := by
  rw [SDMxTEDS.InRange, begins.1, begins.2]
  decide

/-- The node of a provider whose first segment of two was accepted. -/
abbrev firstOfTwo (msg : SDMxTEDS) : SegmentNode :=
  SegmentNode.append ⟨msg.source, 2, 0, .empty⟩ msg.rest

/-- A provider that begins gets the first free node. -/
theorem BeginsTwo.step (begins : BeginsTwo msg) (new : findNodeEntry m msg.source = none)
    (lt : i < MAX_NUMBER_SEGMENTS) (free : isInUse m i = false)
    (before : ∀ j < i, isInUse m j = true) :
    ∃ m', receiveSegment m msg = some (m', .accepted) ∧ ChangesOnly i m m' ∧
      Holds m' i (firstOfTwo msg) := by
  have place : i < MAX_SEGMENT_NODES := Nat.lt_trans lt (by decide)
  obtain ⟨m', created, changes, held⟩ := createNode_first begins.1 (by rw [begins.2]; decide)
    (FirstFree.added ⟨place, free, before⟩) place
  rw [begins.2] at held
  have found : findNodeEntry m' msg.source = some i :=
    (findNodeEntry_of_new new changes held.matches).trans (if_pos lt)
  have applied := (applySegment_of_new begins.segmented begins.inRange new).trans created
  refine ⟨m', ?_, changes, held⟩
  rw [receiveSegment_of_applied begins.segmented applied]
  exact held.collect_waiting found (by decide : 2 ≤ MAX_NUMBER_SEGMENTS) (Nat.lt_succ_self 1)

/-- Two providers begin, one after the other. -/
theorem two_begun {a b : SDMxTEDS} (beginsA : BeginsTwo a) (beginsB : BeginsTwo b)
    (ne : a.source ≠ b.source) :
    ∃ m, (segmentBuilder.withGhost record).Reaches (fun q msg => Fits q.1 msg)
        (start, fun _ => [])
        (m, Function.update (Function.update (fun _ => []) a.source [a]) b.source [b]) ∧
      Holds m 0 (firstOfTwo a) ∧ Holds m 1 (firstOfTwo b) ∧ isInUse m 2 = false ∧
      isInUse m 3 = false := by
  have newA := findNodeEntry_start a.source
  obtain ⟨m₁, step₁, changes₁, held₁⟩ := beginsA.step newA (by decide) (isInUse_start 0 (by decide))
    fun j lt => absurd lt (Nat.not_lt_zero j)
  have unused (j : Nat) (lt : j < MAX_NUMBER_SEGMENTS) (ne : j ≠ 0) : isInUse m₁ j = false :=
    (isInUse_congr (changes₁.other ne)).trans (isInUse_start j (Nat.lt_trans lt (by decide)))
  have newB : findNodeEntry m₁ b.source = none := by
    apply findNodeEntry_eq_none_iff.mpr
    intro i lt here
    by_cases zero : i = 0
    · rw [zero] at here
      exact ne (held₁.xTEDSID.symm.trans here.2)
    · rw [Matches, unused i lt zero] at here
      exact Bool.false_ne_true here.1
  obtain ⟨m₂, step₂, changes₂, held₂⟩ := beginsB.step newB (by decide)
    (unused 1 (by decide) (by decide))
    fun j lt => by rw [Nat.lt_one_iff.mp lt]; exact held₁.isInUse
  have run₁ : (segmentBuilder.withGhost record).Reaches (fun q msg => Fits q.1 msg)
      (start, fun _ => []) (m₁, Function.update (fun _ => []) a.source [a]) := by
    rw [← accept_of_new newA]
    exact .step .start (Fits.of_new newA) (ghost_step_accepted step₁)
  refine ⟨m₂, ?_, held₁.other changes₂ (by decide), held₂, ?_, ?_⟩
  · rw [← accept_of_new newB]
    exact .step run₁ (Fits.of_new newB) (ghost_step_accepted step₂)
  · rw [isInUse_congr (changes₂.other (by decide))]
    exact unused 2 (by decide) (by decide)
  · rw [isInUse_congr (changes₂.other (by decide))]
    exact unused 3 (by decide) (by decide)

/-- The second of two segments completes the document of its provider. -/
theorem Holds.complete_second {text : CString} (held : Holds m i ⟨msg.source, 2, 1, text⟩)
    (number : msg.sequenceNumber = 1) (total : msg.totalSegments = 2)
    (found : findNodeEntry m msg.source = some i)
    (short : text.length + msg.rest.length ≤ MAX_XTEDS_SIZE) :
    ∃ m', receiveSegment m msg = some (m', .complete (text.append msg.rest)) := by
  have segmented : msg.IsSegmented := by
    rw [SDMxTEDS.IsSegmented, number, total]
    decide
  have range : msg.InRange := by
    rw [SDMxTEDS.InRange, number, total]
    decide
  have room : text.length + msg.rest.length < BUFFER_SIZE := Nat.lt_of_le_of_lt short (by decide)
  have place : i < MAX_SEGMENT_NODES :=
    Nat.lt_trans (findNodeEntry_eq_some_iff.mp found).1 (by decide)
  have written := held.putSegment number (show 1 < FLAGS_SIZE by decide) room
  have stillFound : findNodeEntry (SegmentBuilder.putSegment m i text.length msg) msg.source =
      some i :=
    findNodeEntry_of_found found (changesOnly_putSegment room (by rw [number]; decide))
      written.matches
  have applied : SegmentBuilder.applySegment m msg =
      some (SegmentBuilder.putSegment m i text.length msg, true) := by
    rw [held.applySegment segmented range found, number, held.appendSegment place room]
    rfl
  have collected : collect (SegmentBuilder.putSegment m i text.length msg) msg.source =
      some (setInUse (SegmentBuilder.putSegment m i text.length msg) i 0,
        if MAX_XTEDS_SIZE < (text.append msg.rest).length then .accepted
        else .complete (text.append msg.rest)) :=
    written.collect_full stillFound (show 2 ≤ MAX_NUMBER_SEGMENTS by decide) (Nat.le_refl 2)
  have long : ¬MAX_XTEDS_SIZE < (text.append msg.rest).length := by
    rw [Nat.not_lt, CString.length_append]
    exact short
  refine ⟨setInUse (SegmentBuilder.putSegment m i text.length msg) i 0, ?_⟩
  rw [receiveSegment_of_applied segmented applied, collected, if_neg long]

/-- A segment of the provider with `n` and `total` in its first two bytes. -/
def segmentOf (source : SDMComponentID) (n total : UInt8) (rest : CString)
    (fits : rest.length + 3 ≤ MAX_XTEDS_SIZE) : SDMxTEDS where
  source := source
  active := 1
  pid := 0
  SPA_node := .empty
  first := n
  second := total
  rest := rest
  rest_fits := fits

/-- A payload of one bracket. -/
theorem opening_noNul : (0 : UInt8) ∉ [(60 : UInt8)] := by decide

theorem closing_noNul : (0 : UInt8) ∉ [(62 : UInt8)] := by decide

theorem opening_fits : (⟨[60], opening_noNul⟩ : CString).length + 3 ≤ MAX_XTEDS_SIZE := by decide

theorem closing_fits : (⟨[62], closing_noNul⟩ : CString).length + 3 ≤ MAX_XTEDS_SIZE := by decide

/-- The segments of one provider, whose payloads are `<` and `>`. -/
def openingSegment : SDMxTEDS :=
  segmentOf ⟨1, 1, 5000⟩ 0 2 ⟨[60], opening_noNul⟩ opening_fits

def closingSegment : SDMxTEDS :=
  segmentOf ⟨1, 1, 5000⟩ 1 2 ⟨[62], closing_noNul⟩ closing_fits

/-- The segments of another provider. -/
def otherFirst : SDMxTEDS := segmentOf ⟨1, 1, 5001⟩ 0 2 ⟨[88], by decide⟩ (by decide)

def otherSecond : SDMxTEDS := segmentOf ⟨1, 1, 5001⟩ 1 2 ⟨[89], by decide⟩ (by decide)

/-- Two providers send their segments in turn, and the document of the first one is
complete. -/
theorem complete_text_of_two :
    ∃ m h m' text,
      (segmentBuilder.withGhost record).Reaches (fun q msg => Fits q.1 msg)
        (start, fun _ => []) (m, h) ∧
      receiveSegment m closingSegment = some (m', .complete text) ∧
      text.bytes = (record h m closingSegment (.complete text) closingSegment.source).flatMap
        fun s => s.rest.bytes := by
  obtain ⟨m, run, heldA, heldB, _⟩ := two_begun
    (a := openingSegment) (b := otherFirst) ⟨rfl, rfl⟩ ⟨rfl, rfl⟩ (by decide)
  have found : findNodeEntry m closingSegment.source = some 0 :=
    findNodeEntry_eq_some_iff.mpr
      ⟨by decide, heldA.matches, fun j lt => absurd lt (Nat.not_lt_zero j)⟩
  have held : Holds m 0
      ⟨closingSegment.source, 2, 1, CString.empty.append openingSegment.rest⟩ := heldA
  obtain ⟨m', completed⟩ := held.complete_second rfl rfl found (by decide)
  have fits : Fits m closingSegment := by
    rintro i text ⟨_, _, here, _⟩ read
    cases found.symm.trans here
    cases (heldA.text (by decide)).symm.trans read
    decide
  obtain ⟨m₁, out, step, complete⟩ := complete_text_of_fits run fits
  cases completed.symm.trans step
  exact ⟨m, _, m', _, run, completed, (complete _ rfl).2.2.2⟩

/-! ### A segment that does not fit -/

/-- A long first segment. -/
def longText : CString where
  bytes := List.replicate 24000 65
  nul_notMem := fun mem => absurd (List.eq_of_mem_replicate mem) (by decide)

/-- A second segment that runs over the end of the buffer, up to the flag and the first
byte of the buffer of the next node. -/
def spilling : CString where
  bytes := List.replicate 8315 65 ++ [1, 90]
  nul_notMem := fun mem => by
    rcases List.mem_append.mp mem with front | back
    · exact absurd (List.eq_of_mem_replicate front) (by decide)
    · exact absurd back (by decide)

theorem length_longText : longText.length = 24000 := List.length_replicate

theorem length_spilling : spilling.length = 8317 := by
  rw [CString.length, spilling, List.length_append, List.length_replicate]
  rfl

theorem spilling_front {k : Nat} (lt : k < 8315) : spilling.bytes.getD k 0 = 65 := by
  rw [spilling, List.getD_append _ _ _ _ (by rwa [List.length_replicate])]
  exact List.getD_replicate 65 lt

theorem spilling_back {k : Nat} : spilling.bytes.getD (8315 + k) 0 = [1, 90].getD k 0 := by
  rw [spilling, List.getD_append_right _ _ _ _ (by rw [List.length_replicate]; omega),
    List.length_replicate, Nat.add_sub_cancel_left]

/-- What the spilling segment leaves of two nodes: the first one belongs to nobody, and
the second one looks as if its provider had sent another byte. -/
theorem spill {b : SDMComponentID} {text : CString} (overflow : msg.rest = spilling)
    (number : msg.sequenceNumber = 1) (one : text.length = 1)
    (held : Holds m 1 ⟨b, 2, 1, text⟩) :
    (xTEDSID (putSegment m 0 24000 msg) 0).sensorID = 0x41414141 ∧
      Holds (putSegment m 0 24000 msg) 1 ⟨b, 2, 1, ⟨[90], by decide⟩⟩ := by
  have first : nodeAt 0 = 0 := Nat.zero_mul _
  have second : nodeAt 1 = 32316 := Nat.one_mul _
  have spilt (k : Nat) (lt : k < 8317) (ne : 24001 + k ≠ 32285) :
      putSegment m 0 24000 msg (24001 + k) = spilling.bytes.getD k 0 := by
    have at_k : 24001 + k = bufferAt 0 + 24000 + k := by
      unfold bufferAt
      omega
    rw [putSegment, overflow, number, Memory.store_of_outside
      (by rw [List.length_singleton]; unfold flagsAt; omega), at_k]
    exact Memory.store_add (lt.trans_eq length_spilling.symm)
  have after (a : Nat) (past : 32318 ≤ a) : putSegment m 0 24000 msg a = m a := by
    apply putSegment_of_outside
    · rw [overflow, length_spilling]
      unfold bufferAt
      omega
    · unfold flagsAt
      omega
  constructor
  · have letter (j : Nat) (lt : j < 4) : putSegment m 0 24000 msg (xTEDSIDAt 0 + j) = 65 := by
      rw [show xTEDSIDAt 0 + j = 24001 + (8299 + j) by unfold xTEDSIDAt; omega,
        spilt _ (by omega) (by omega)]
      exact spilling_front (by omega)
    have letter₀ := letter 0 (by omega)
    rw [Nat.add_zero] at letter₀
    show Memory.load32 _ (xTEDSIDAt 0) = 0x41414141
    rw [Memory.load32, letter₀, letter 1 (by omega), letter 2 (by omega), letter 3 (by omega)]
    rfl
  · refine ⟨?_, ?_, ?_, fun j lt => ?_, fun j lt => ?_, ?_⟩
    · rw [second, show 32316 = 24001 + (8315 + 0) from rfl, spilt _ (by omega) (by omega),
        spilling_back]
      rfl
    · exact (xTEDSID_of_bytes fun c _ => after _ (by unfold xTEDSIDAt; omega)).trans held.xTEDSID
    · exact (Memory.load16_congr fun j _ => after _ (by unfold numSegmentsAt; omega)).trans
        held.numSegments
    · rw [after _ (by unfold flagsAt; omega)]
      exact held.flags j lt
    · cases j with
      | zero =>
          rw [bufferAt, second, show 32316 + 1 + 0 = 24001 + (8315 + 1) from rfl,
            spilt _ (by omega) (by omega), spilling_back]
          rfl
      | succ j =>
          rw [after _ (by unfold bufferAt; omega), held.buffer _ lt, List.getD_eq_default,
            List.getD_eq_default]
          · exact Nat.succ_le_succ (Nat.zero_le j)
          · exact one.trans_le (Nat.succ_le_succ (Nat.zero_le j))
    · exact Nat.one_lt_succ_succ _

/-- The first of two segments, long. -/
def longFirst : SDMxTEDS :=
  segmentOf ⟨1, 1, 5000⟩ 0 2 longText (by rw [length_longText]; decide)

/-- The second segment of the same provider, which does not fit what is left. -/
def longSecond : SDMxTEDS :=
  segmentOf ⟨1, 1, 5000⟩ 1 2 spilling (by rw [length_spilling]; decide)

/-- **A segment that does not fit changes the document of another provider.** The second
segment of the first provider runs over the end of its buffer into the next node, and the
text stored for the provider of that node is not what this provider sent. -/
theorem overflow_reaches_next_node :
    ∃ m h m' text,
      (segmentBuilder.withGhost record).Reachable (start, fun _ => []) (m, h) ∧
      receiveSegment m otherSecond = some (m', .complete text) ∧
      text.bytes ≠ (record h m otherSecond (.complete text) otherSecond.source).flatMap
        fun s => s.rest.bytes := by
  obtain ⟨m, run, heldA, heldB, unused₂, unused₃⟩ := two_begun
    (a := longFirst) (b := otherFirst) ⟨rfl, rfl⟩ ⟨rfl, rfl⟩ (by decide)
  have length : (CString.empty.append longFirst.rest).length = 24000 := by
    rw [CString.length_append, CString.length_empty, Nat.zero_add]
    exact length_longText
  have overflow : longSecond.rest = spilling := rfl
  obtain ⟨nobody, otherHeld⟩ := spill overflow rfl (by decide) heldB
  obtain ⟨m₂, after⟩ : ∃ m₂, m₂ = putSegment m 0 24000 longSecond := ⟨_, rfl⟩
  rw [← after] at nobody otherHeld
  -- the first provider's node has lost its id, and the last two are free as before
  have owner (i : Nat) (lt : i < MAX_NUMBER_SEGMENTS) (id : SDMComponentID) (one : id.sensorID = 1)
      (here : Matches m₂ id i) : i = 1 := by
    have untouched (free : isInUse m i = false) (two : 2 ≤ i) : isInUse m₂ i = false := by
      have same : m₂ (nodeAt i) = m (nodeAt i) := by
        rw [after]
        refine putSegment_of_outside (.inr ?_) ?_
        · rw [show longSecond.rest.length = 8317 from length_spilling]
          unfold bufferAt nodeAt NODE_SIZE
          omega
        · show nodeAt i ≠ flagsAt 0 + 1
          unfold flagsAt nodeAt NODE_SIZE
          omega
      rw [isInUse, same]
      exact free
    unfold MAX_NUMBER_SEGMENTS at lt
    obtain rfl | rfl | rfl | rfl : i = 0 ∨ i = 1 ∨ i = 2 ∨ i = 3 := by omega
    · rw [here.2, one] at nobody
      exact absurd nobody (by decide)
    · rfl
    · exact absurd here.1 (Bool.eq_false_iff.mp (untouched unused₂ (by decide)))
    · exact absurd here.1 (Bool.eq_false_iff.mp (untouched unused₃ (by decide)))
  have lost : findNodeEntry m₂ longSecond.source = none := by
    apply findNodeEntry_eq_none_iff.mpr
    intro i lt here
    rw [owner i lt _ rfl here] at here
    exact absurd (otherHeld.xTEDSID.symm.trans here.2) (by decide)
  have found : findNodeEntry m₂ otherSecond.source = some 1 := by
    refine findNodeEntry_eq_some_iff.mpr ⟨by decide, otherHeld.matches, fun j lt here => ?_⟩
    exact Nat.ne_of_lt lt (owner j (Nat.lt_trans lt (by decide)) _ rfl here)
  have first : findNodeEntry m longSecond.source = some 0 :=
    findNodeEntry_eq_some_iff.mpr
      ⟨by decide, heldA.matches, fun j lt => absurd lt (Nat.not_lt_zero j)⟩
  have read : m.text (bufferAt 0) POOL_SIZE = some (CString.empty.append longFirst.rest) :=
    heldA.text (by decide)
  have appended : appendSegment m 0 longSecond = some m₂ := by
    rw [appendSegment_of_text read, length, after]
    rw [length, show longSecond.rest.length = 8317 from length_spilling]
    decide
  have spilled : receiveSegment m longSecond = some (m₂, .accepted) := by
    have applied : applySegment m longSecond = some (m₂, true) := by
      rw [heldA.applySegment (by decide) (by decide) first, appended]
      rfl
    rw [receiveSegment_of_applied (by decide) applied, collect, checkIsFinished, lost]
    rfl
  have waitingHeld : Holds m₂ 1 ⟨otherSecond.source, 2, 1, ⟨[90], by decide⟩⟩ := otherHeld
  obtain ⟨m', completed⟩ := waitingHeld.complete_second rfl rfl found (by decide)
  refine ⟨m₂, _, m', _, .step run.reachable trivial (ghost_step_accepted spilled), completed, ?_⟩
  have waiting : alreadyReceived m 0 longSecond.sequenceNumber = false :=
    Bool.eq_false_iff.mpr fun already =>
      absurd ((heldA.alreadyReceived_iff (by decide)).mp already) (by decide)
  have otherWaiting : alreadyReceived m₂ 1 otherSecond.sequenceNumber = false :=
    Bool.eq_false_iff.mpr fun already =>
      absurd ((otherHeld.alreadyReceived_iff (by decide)).mp already) (by decide)
  have same : otherSecond.source = otherFirst.source := rfl
  rw [record, accept_of_found found otherWaiting, Function.update_self,
    accept_of_found first waiting, Function.update_of_ne (by decide), same, Function.update_self]
  decide

end SegmentBuilder

end Sdm
