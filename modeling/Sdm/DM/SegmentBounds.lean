import Sdm.DM.SegmentTransfers

/-!
Where the segment builder writes.

`CopiesTo` names the place in a node's buffer to which `ApplySegment` copies a payload
(`applySegment_copies`). In a run in which the appended segments leave room for the
terminator and no document is exactly as long as the buffer of `xTEDS`, one more message
stays inside its buffers exactly when it meets the same two conditions.

* `Safe`: the copy stays inside the node's buffer, the buffers keep a terminator, and the
  text with its terminator fits the caller's buffer.
* `buffers_respected_iff`: the statement over runs.
* `buffers_overrun`: two messages that leave them.
-/

namespace Sdm

open Lib

namespace SegmentBuilder

variable {m m' : Memory} {msg : SDMxTEDS} {p : SDMComponentID} {i j off : Nat} {h : History}
  {ok : Bool} {out : Received}

/-! ### Where a payload is copied -/

/-- `ApplySegment` copies the payload to the offset `off` of the buffer of node `i`. -/
def CopiesTo (m : Memory) (msg : SDMxTEDS) (i off : Nat) : Prop :=
  Opens m msg ∧ ¬BUFFER_SIZE < msg.totalSegments * SEGMENT_MAX_XTEDS_SIZE ∧ FirstFree m i ∧
      off = 0 ∨
    Appends m msg i ∧ ∃ text, m.text (bufferAt i) POOL_SIZE = some text ∧ off = text.length

theorem appendSegment_eq_some (done : appendSegment m i msg = some m') :
    ∃ text, m.text (bufferAt i) POOL_SIZE = some text ∧ m' = putSegment m i text.length msg := by
  obtain ⟨text, read, put⟩ := Option.bind_eq_some_iff.mp done
  split at put
  · exact ⟨text, read, (Option.some.inj put).symm⟩
  · cases put

theorem clearBuffer_text (lt : i < MAX_SEGMENT_NODES) :
    (clearBuffer m i).text (bufferAt i) POOL_SIZE = some .empty := by
  have size := bufferSize
  have pool := node_in_pool lt
  have node := nodeSize
  have empty : CString.empty.length = 0 := CString.length_empty
  refine Memory.text_eq (fun j before => ?_) ?_ ?_
  · rw [empty] at before
    exact absurd before (Nat.not_lt_zero j)
  · rw [empty, clearBuffer, Memory.fill_of_inside (by omega)]
  · rw [empty]
    unfold bufferAt
    omega

/-- **A segment that is stored was copied there**, unless it had been received before. -/
theorem applySegment_copies (applied : applySegment m msg = some (m', true)) :
    m' = m ∨ ∃ i off m₀,
      CopiesTo m msg i off ∧ ChangesOnly i m m₀ ∧ m' = putSegment m₀ i off msg := by
  unfold applySegment at applied
  split at applied
  · cases applied
  rename_i segmented
  split at applied
  · cases applied
  rename_i range
  split at applied
  · rename_i new
    unfold createNode at applied
    split at applied
    · cases applied
    rename_i first
    split at applied
    · cases applied
    rename_i m₁ i added
    obtain ⟨reset, free⟩ := addSegmentNode_eq_some_iff.mp added
    have same : m₁ = resetNode m i := congrArg Prod.fst reset
    subst same
    dsimp only at applied
    split at applied
    · cases applied
    rename_i room
    obtain ⟨m₂, put, same⟩ := Option.map_eq_some_iff.mp applied
    cases same
    obtain ⟨text, read, rfl⟩ := appendSegment_eq_some put
    cases (clearBuffer_text free.lt).symm.trans read
    exact .inr ⟨i, 0, _, .inl ⟨⟨not_not.mp segmented, not_not.mp range, new, not_not.mp first⟩,
      room, free, rfl⟩, changesOnly_cleared, rfl⟩
  · rename_i i found
    split at applied
    · cases applied
      exact .inl rfl
    rename_i notYet
    split at applied
    · cases applied
    rename_i inOrder
    obtain ⟨m₂, put, same⟩ := Option.map_eq_some_iff.mp applied
    cases same
    obtain ⟨text, read, rfl⟩ := appendSegment_eq_some put
    exact .inr ⟨i, text.length, m, .inr ⟨⟨not_not.mp segmented, not_not.mp range, found,
      Bool.eq_false_iff.mpr notYet, not_not.mp inOrder⟩, text, read, rfl⟩, fun _ _ => rfl, rfl⟩

/-! ### Terminators -/

/-- The buffer of the node has a terminator. -/
def Terminated (m : Memory) (i : Nat) : Prop := ∃ j < BUFFER_SIZE, m (bufferAt i + j) = 0

/-- The buffer of every node in use has a terminator. -/
def AllTerminated (m : Memory) : Prop :=
  ∀ i < MAX_SEGMENT_NODES, isInUse m i = true → Terminated m i

theorem Holds.terminated {n : SegmentNode} (holds : Holds m i n) : Terminated m i := by
  refine ⟨n.text.length, holds.fits, ?_⟩
  rw [holds.buffer _ holds.fits]
  exact List.getD_eq_default _ _ (Nat.le_refl _)

theorem terminated_congr (same : ∀ k < NODE_SIZE, m' (nodeAt i + k) = m (nodeAt i + k)) :
    Terminated m i → Terminated m' i := by
  rintro ⟨j, lt, nul⟩
  have size := bufferSize
  have node := nodeSize
  refine ⟨j, lt, ?_⟩
  rw [← nul, bufferAt, Nat.add_assoc]
  exact same _ (by omega)

theorem allTerminated_start : AllTerminated start := by
  intro i lt used
  rw [isInUse_start i lt] at used
  exact absurd used Bool.false_ne_true

/-- Writing one node keeps the terminators of the others. -/
theorem AllTerminated.write (all : AllTerminated m) (changes : ChangesOnly i m m')
    (here : isInUse m' i = true → Terminated m' i) : AllTerminated m' := by
  intro j lt used
  by_cases same : j = i
  · rw [same] at used ⊢
    exact here used
  · refine terminated_congr (changes.other same) (all j lt ?_)
    rwa [isInUse_congr (changes.other same)] at used

theorem terminated_labelNode : Terminated (labelNode (resetNode m i) i msg) i := by
  have size := bufferSize
  have flags := flagsSize
  refine ⟨0, by omega, ?_⟩
  rw [labelNode, setxTEDSID_of_outside (by unfold xTEDSIDAt bufferAt; omega),
    setNumSegments_of_outside (by unfold numSegmentsAt bufferAt; omega), resetNode, setInUse,
    Memory.store_of_outside (by rw [List.length_singleton]; unfold bufferAt; omega),
    setxTEDSID_of_outside (by unfold xTEDSIDAt bufferAt; omega),
    Memory.fill_of_outside (by unfold flagsAt bufferAt; omega),
    setNumSegments_of_outside (by unfold numSegmentsAt bufferAt; omega)]
  exact Memory.fill_of_inside (by omega)

theorem Applied.allTerminated (applied : Applied m h msg m' ok) (all : AllTerminated m) :
    AllTerminated m' := by
  cases applied with
  | refused => exact all
  | repeated => exact all
  | @tooMany i opens free =>
      apply all.write (changesOnly_deleteNode_labelNode opens.new)
      intro used
      rw [deleteNode_labelNode opens.new] at used ⊢
      split at used
      · rw [isInUse_setInUse_zero] at used
        exact absurd used Bool.false_ne_true
      · rename_i far
        rw [if_neg far]
        exact terminated_labelNode
  | begun opens free source segments changes held =>
      exact all.write changes fun _ => held.terminated
  | continued appends old history source segments total changes held =>
      exact all.write changes fun _ => held.terminated

theorem Collected.allTerminated (collected : Collected m h p m' out) (all : AllTerminated m) :
    AllTerminated m' := by
  have freed (i : Nat) : AllTerminated (setInUse m i 0) :=
    all.write changesOnly_setInUse fun used => by
      rw [isInUse_setInUse_zero] at used
      exact absurd used Bool.false_ne_true
  cases collected with
  | hidden => exact all
  | waiting => exact all
  | tooLong => exact freed _
  | complete => exact freed _

theorem Stepped.allTerminated (stepped : Stepped m h msg m' out) (all : AllTerminated m) :
    AllTerminated m' := by
  cases stepped with
  | unsegmented => exact all
  | refused _ applied => exact applied.allTerminated all
  | stored _ applied collected => exact collected.allTerminated (applied.allTerminated all)

/-! ### Staying inside the buffers -/

/-- Handling the message stays inside the buffers: the payload is copied into the node's
buffer, after `ApplySegment` every buffer in use has a terminator, and the text that
`GetFullxTEDS` copies has room in the buffer of `xTEDS` with its terminator. -/
structure Safe (m : Memory) (msg : SDMxTEDS) : Prop where
  copied : ∀ i off, CopiesTo m msg i off → off + msg.rest.length ≤ BUFFER_SIZE
  terminated : ∀ m' ok, applySegment m msg = some (m', ok) → AllTerminated m'
  fetched : ∀ m' text, receiveSegment m msg = some (m', .complete text) →
    text.length + 1 ≤ MAX_XTEDS_SIZE

/-- The message does not complete a text as long as the buffer of `xTEDS`. -/
def NotExact (m : Memory) (msg : SDMxTEDS) : Prop :=
  ∀ i text, Appends m msg i → m.text (bufferAt i) POOL_SIZE = some text →
    (numSegments m i).toNat = msg.sequenceNumber + 1 →
    text.length + msg.rest.length ≠ MAX_XTEDS_SIZE

/-- The appended segment leaves room for a terminator, in the node's buffer and in that of
`xTEDS`. -/
def Bounded (m : Memory) (msg : SDMxTEDS) : Prop := Fits m msg ∧ NotExact m msg

/-- What is known of the node to which a segment is appended. -/
theorem PoolHolds.appends (holds : PoolHolds m h none) (appends : Appends m msg i) :
    ∃ a : Assembly, a.source = msg.source ∧ Holds m i a.node ∧ h msg.source = a.segments ∧
      m.text (bufferAt i) POOL_SIZE = some (payload a.segments) ∧
      (numSegments m i).toNat = a.total ∧ msg.sequenceNumber = a.segments.length ∧
      a.segments.length < a.total := by
  obtain ⟨segmented, _, found, _, inOrder⟩ := appends
  obtain ⟨a, source, held, history, done⟩ := holds.found found
  have lt := (findNodeEntry_eq_some_iff.mp found).1
  have le := a.total_le
  unfold MAX_NUMBER_SEGMENTS at le
  refine ⟨a, source, held, history, held.text (Nat.lt_trans lt (by decide)), ?_, ?_, ?_⟩
  · rw [held.numSegments, UInt16.toNat_ofNat']
    exact Nat.mod_eq_of_lt (show a.total < 2 ^ 16 by omega)
  · exact (held.sentInOrder_iff (Nat.lt_succ_of_le segmented.1)).mp inOrder
  · exact Nat.lt_of_le_of_ne a.within fun last => absurd (done last) (Option.some_ne_none _).symm

/-- A segment that fills the buffer to its last byte takes its terminator. -/
theorem not_terminated_of_exact {text : CString}
    (before : ∀ j < BUFFER_SIZE, m (bufferAt i + j) = text.bytes.getD j 0)
    (exactly : text.length + msg.rest.length = BUFFER_SIZE) :
    ¬Terminated (putSegment m i text.length msg) i := by
  rintro ⟨j, lt, nul⟩
  rw [buffer_putSegment before lt] at nul
  have inside : j < (text.append msg.rest).bytes.length := by
    have length := CString.length_append text msg.rest
    unfold CString.length at length exactly
    omega
  rw [List.getD_eq_getElem _ _ inside] at nul
  exact (text.append msg.rest).nul_notMem (nul ▸ List.getElem_mem inside)

theorem fits_of_safe (holds : PoolHolds m h none) (safe : Safe m msg) : Fits m msg := by
  intro i text appends read
  obtain ⟨a, source, held, history, here, total, number, more⟩ := holds.appends appends
  cases here.symm.trans read
  have le := safe.copied i _ (.inr ⟨appends, _, read, rfl⟩)
  apply Nat.lt_of_le_of_ne le
  intro exactly
  obtain ⟨segmented, range, found, notYet, inOrder⟩ := appends
  have lt : i < MAX_SEGMENT_NODES := Nat.lt_trans (findNodeEntry_eq_some_iff.mp found).1 (by decide)
  have pool := node_in_pool lt
  have size := bufferSize
  have node := nodeSize
  have put : appendSegment m i msg = some (putSegment m i (payload a.segments).length msg) := by
    refine appendSegment_of_text read ?_
    unfold bufferAt
    omega
  have applied : applySegment m msg =
      some (putSegment m i (payload a.segments).length msg, true) := by
    have step : applySegment m msg =
        if msg.sequenceNumber < a.segments.length then some (m, true)
        else if msg.sequenceNumber ≠ a.segments.length then some (m, false)
        else (appendSegment m i msg).map fun m => (m, true) :=
      held.applySegment segmented range found
    rw [step, if_neg (by omega), if_neg (not_not.mpr number), put]
    rfl
  have used : isInUse (putSegment m i (payload a.segments).length msg) i = true := by
    have same : putSegment m i (payload a.segments).length msg (nodeAt i) = m (nodeAt i) :=
      putSegment_of_outside (.inl (by unfold bufferAt; omega)) (by unfold flagsAt; omega)
    rw [isInUse, same, held.inUse]
    rfl
  exact not_terminated_of_exact held.buffer exactly (safe.terminated _ _ applied i lt used)

/-- The last segment of a text that is not too long completes it. -/
theorem complete_of_last (holds : PoolHolds m h none) (fits : Fits m msg)
    (appends : Appends m msg i)
    {text : CString} (read : m.text (bufferAt i) POOL_SIZE = some text)
    (last : (numSegments m i).toNat = msg.sequenceNumber + 1)
    (short : text.length + msg.rest.length ≤ MAX_XTEDS_SIZE) :
    ∃ m' done, receiveSegment m msg = some (m', .complete done) ∧
      done.length = text.length + msg.rest.length := by
  obtain ⟨a, source, held, history, here, total, number, more⟩ := holds.appends appends
  cases here.symm.trans read
  obtain ⟨m', out, step, _⟩ := receiveSegment_spec holds fits
  have stepped := receiveSegment_stepped holds fits step
  have waiting : Waiting m h msg.source a.segments := by
    cases segments : a.segments with
    | nil =>
        have announced := a.announced
        rw [segments] at announced
        exact absurd announced (Option.some_ne_none _).symm
    | cons s rest =>
        rw [segments] at history
        exact ⟨by rw [appends.2.2.1]; rfl, history⟩
  have whole := Assembly.length_payload_append a.segments msg
  have finished := (waiting.next holds stepped appends.1 appends.2.1 number (a.announced_append msg)
    a.total_le
    (fun opens => absurd (opens.new.symm.trans appends.2.2.1) (Option.some_ne_none i).symm)
    (by rw [whole]; exact short)).2 (by omega)
  obtain ⟨rfl, _⟩ := finished
  exact ⟨m', _, step, whole⟩

theorem bounded_of_safe (holds : PoolHolds m h none) (safe : Safe m msg) : Bounded m msg := by
  have fits := fits_of_safe holds safe
  refine ⟨fits, fun i text appends read last exactly => ?_⟩
  obtain ⟨m', done, step, length⟩ :=
    complete_of_last holds fits appends read last (Nat.le_of_eq exactly)
  have room := safe.fetched m' done step
  omega

/-- A text that is completed leaves room for its terminator. -/
theorem Stepped.fetched (stepped : Stepped m h msg m' out) (holds : PoolHolds m h none)
    (bounded : Bounded m msg) {text : CString} (complete : out = .complete text) :
    text.length + 1 ≤ MAX_XTEDS_SIZE := by
  subst complete
  cases stepped with
  | @stored m₁ _ _ _ applied collected =>
      cases collected with
      | @complete _ a found source history last short =>
          cases applied with
          | repeated seen before same =>
              obtain ⟨b, _, _, log, done⟩ := holds.found seen
              rw [same, log] at history
              rw [← history, ← Assembly.total_congr history] at last
              exact absurd (done last) (Option.some_ne_none _).symm
          | begun opens =>
              rw [accept_of_new opens.new, Function.update_self] at history
              have own := msg.rest_fits
              have length := Assembly.length_payload_append [] msg
              have empty : (payload []).length = 0 := rfl
              rw [← history]
              rw [List.nil_append] at length
              omega
          | @continued i _ old b appends held log =>
              obtain ⟨c, _, _, told, read, total, number, _⟩ := holds.appends appends
              rw [accept_of_found appends.2.2.1 appends.2.2.2.1, Function.update_self, told]
                at history
              have announced : a.total = c.total := Assembly.total_append history.symm
              have length := Assembly.length_payload_append c.segments msg
              rw [← history, announced, List.length_append, List.length_singleton] at last
              have different := bounded.2 _ _ appends read (by omega)
              rw [← history] at short ⊢
              omega

theorem safe_of_bounded (holds : PoolHolds m h none) (all : AllTerminated m)
    (bounded : Bounded m msg) : Safe m msg where
  copied i off copies := by
    have own := msg.rest_fits
    have size := bufferSize
    rcases copies with ⟨_, _, _, rfl⟩ | ⟨appends, text, read, rfl⟩
    · unfold MAX_XTEDS_SIZE at own
      omega
    · exact Nat.le_of_lt (bounded.1 i text appends read)
  terminated m' ok applied := by
    by_cases segmented : msg.IsSegmented
    · obtain ⟨m₁, ok₁, step, outcome⟩ := applySegment_applied holds segmented bounded.1
      cases Option.some.inj (step.symm.trans applied)
      exact outcome.allTerminated all
    · rw [applySegment, if_pos segmented] at applied
      cases applied
      exact all
  fetched m' text step :=
    (receiveSegment_stepped holds bounded.1 step).fetched holds bounded rfl

/-- **Reassembly stays inside its buffers** in every run in which the appended segments
leave room for the terminator, in the node's buffer and in that of `xTEDS`: every buffer in
use keeps a terminator, and one more message is handled safely exactly when it leaves that
room, too. -/
theorem buffers_respected_iff
    (run : (segmentBuilder.withGhost record).Reaches (fun q msg => Bounded q.1 msg)
      (start, fun _ => []) (m, h)) :
    AllTerminated m ∧ ∀ msg, Safe m msg ↔ Bounded m msg := by
  have kept := run.invariant (I := fun q => PoolHolds q.1 q.2 none ∧ AllTerminated q.1)
    ⟨poolHolds_start, allTerminated_start⟩ (by
      rintro ⟨m, h⟩ msg ⟨m', h'⟩ out ⟨holds, all⟩ bounded taken
      obtain ⟨here, rfl⟩ := Machine.withGhost_step_eq_some.mp taken
      obtain ⟨m₁, out₁, step, kept, _⟩ := receiveSegment_spec holds bounded.1
      cases Option.some.inj (step.symm.trans here)
      exact ⟨kept, (receiveSegment_stepped holds bounded.1 step).allTerminated all⟩)
  obtain ⟨holds, all⟩ := kept
  exact ⟨all, fun msg => ⟨bounded_of_safe holds, safe_of_bounded holds all⟩⟩

/-- The second of two segments of the provider of node `i` is appended there. -/
theorem Holds.appends_second {text : CString} (held : Holds m i ⟨msg.source, 2, 1, text⟩)
    (segmented : msg.IsSegmented) (range : msg.InRange) (number : msg.sequenceNumber = 1)
    (found : findNodeEntry m msg.source = some i) : Appends m msg i := by
  have flag : msg.sequenceNumber < FLAGS_SIZE := Nat.lt_succ_of_le segmented.1
  refine ⟨segmented, range, found, ?_, (held.sentInOrder_iff flag).mpr number⟩
  apply Bool.eq_false_iff.mpr
  intro already
  have before := (held.alreadyReceived_iff flag).mp already
  rw [number] at before
  exact Nat.lt_irrefl _ before

/-- The second segment of a short document is handled safely. -/
theorem buffers_respected_of_short :
    ∃ m h, (segmentBuilder.withGhost record).Reaches (fun q msg => Bounded q.1 msg)
        (start, fun _ => []) (m, h) ∧ AllTerminated m ∧ Safe m closingSegment := by
  have new := findNodeEntry_start openingSegment.source
  have begins : BeginsTwo openingSegment := ⟨rfl, rfl⟩
  obtain ⟨m, step, _, first⟩ := begins.step new (by decide) (isInUse_start 0 (by decide))
    fun j lt => absurd lt (Nat.not_lt_zero j)
  have opening : Bounded start openingSegment :=
    ⟨.of_new new, fun i text appends => absurd (new.symm.trans appends.2.2.1)
      (Option.some_ne_none i).symm⟩
  have found : findNodeEntry m closingSegment.source = some 0 :=
    findNodeEntry_eq_some_iff.mpr
      ⟨by decide, first.matches, fun j lt => absurd lt (Nat.not_lt_zero j)⟩
  have closing : Bounded m closingSegment := by
    constructor
    · rintro i text ⟨_, _, here, _⟩ read
      cases found.symm.trans here
      cases (first.text (by decide)).symm.trans read
      decide
    · rintro i text ⟨_, _, here, _⟩ read _
      cases found.symm.trans here
      cases (first.text (by decide)).symm.trans read
      decide
  have run : (segmentBuilder.withGhost record).Reaches (fun q msg => Bounded q.1 msg)
      (start, fun _ => []) (m, accept (fun _ => []) start openingSegment) :=
    .step .start opening (ghost_step_accepted step)
  obtain ⟨all, safe⟩ := buffers_respected_iff run
  exact ⟨m, _, run, all, (safe closingSegment).mpr closing⟩

/-- What is missing from `longText` to a text as long as the buffer of `xTEDS`. -/
def filling : CString where
  bytes := List.replicate 183 65
  nul_notMem := fun mem => absurd (List.eq_of_mem_replicate mem) (by decide)

theorem length_filling : filling.length = 183 := List.length_replicate

/-- A second segment with which a document is as long as the buffer of `xTEDS`. -/
def fillingSecond : SDMxTEDS :=
  segmentOf ⟨1, 1, 5000⟩ 1 2 filling (by rw [length_filling]; decide)

/-- **Both buffers are overrun.** After a first segment of 24000 bytes, a second one of
8317 bytes is copied over the end of the node's buffer, and one of 183 bytes completes a
text whose terminator lies behind the buffer of `xTEDS`. -/
theorem buffers_overrun :
    ∃ m h, (segmentBuilder.withGhost record).Reachable (start, fun _ => []) (m, h) ∧
      CopiesTo m longSecond 0 24000 ∧ BUFFER_SIZE < 24000 + longSecond.rest.length ∧
      ∃ m' text, receiveSegment m fillingSecond = some (m', .complete text) ∧
        MAX_XTEDS_SIZE < text.length + 1 := by
  obtain ⟨m, run, heldA, _⟩ := two_begun (a := longFirst) (b := otherFirst)
    ⟨rfl, rfl⟩ ⟨rfl, rfl⟩ (by decide)
  have length : (CString.empty.append longFirst.rest).length = 24000 := by
    rw [CString.length_append, CString.length_empty, Nat.zero_add]
    exact length_longText
  have found : findNodeEntry m longFirst.source = some 0 :=
    findNodeEntry_eq_some_iff.mpr
      ⟨by decide, heldA.matches, fun j lt => absurd lt (Nat.not_lt_zero j)⟩
  have held : Holds m 0
      ⟨longSecond.source, 2, 1, CString.empty.append longFirst.rest⟩ := heldA
  have filled : Holds m 0
      ⟨fillingSecond.source, 2, 1, CString.empty.append longFirst.rest⟩ := heldA
  have rest : fillingSecond.rest.length = 183 := length_filling
  refine ⟨m, _, run.reachable, .inr ⟨held.appends_second (by decide) (by decide) rfl found,
    _, held.text (by decide), length.symm⟩, ?_, ?_⟩
  · rw [show longSecond.rest.length = 8317 from length_spilling]
    decide
  · obtain ⟨m', completed⟩ := filled.complete_second rfl rfl found
      (by rw [length, rest]; decide)
    refine ⟨m', _, completed, ?_⟩
    rw [CString.length_append, length, rest]
    decide

end SegmentBuilder

end Sdm
