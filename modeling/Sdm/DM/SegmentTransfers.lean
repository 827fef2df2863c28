import Mathlib.Data.List.Nodup
import Sdm.DM.Reassembly

/-!
Nodes of the segment builder over whole transfers.

`FindNodeEntry` looks at four of the five nodes. In a run that creates no node while
those four are in use (`Orderly`), every node in use is found, it belongs to a transfer
that is not finished, and a transfer whose segments arrive in order completes whatever
the other providers send in between.

* `Applied.matches_other`, `Collected.matches_other`: a message of one provider leaves
  the nodes of the others.
* `AllVisible.reaches`: no node in use is out of sight.
* `nodes_never_lost`: the statement over runs.
* `fifth_node_is_lost`: five providers at once lose the node of the last one.
-/

namespace Sdm

open Lib

namespace SegmentBuilder

variable {m m' : Memory} {msg : SDMxTEDS} {p : SDMComponentID} {i j : Nat} {h : History}
  {ok : Bool} {out : Received}

/-! ### Messages of other providers -/

theorem findNodeEntry_congr (same : ∀ j < MAX_NUMBER_SEGMENTS, Matches m' p j ↔ Matches m p j) :
    findNodeEntry m' p = findNodeEntry m p := by
  cases found : findNodeEntry m p with
  | none =>
      apply findNodeEntry_eq_none_iff.mpr
      intro j lt
      rw [same j lt]
      exact findNodeEntry_eq_none_iff.mp found j lt
  | some i =>
      obtain ⟨lt, here, before⟩ := findNodeEntry_eq_some_iff.mp found
      refine findNodeEntry_eq_some_iff.mpr ⟨lt, (same i lt).mpr here, fun j less => ?_⟩
      rw [same j (Nat.lt_trans less lt)]
      exact before j less

/-- A node that changes from one that is not of `p` to one that is not of `p`. -/
theorem matches_other (changes : ChangesOnly i m m') (before : ¬Matches m p i)
    (after : ¬Matches m' p i) (j : Nat) : Matches m' p j ↔ Matches m p j := by
  by_cases here : j = i
  · rw [here]
    exact ⟨fun new => absurd new after, fun old => absurd old before⟩
  · exact matches_congr (changes.other here)

theorem not_matches_of_free (free : isInUse m i = false) : ¬Matches m p i := fun here => by
  rw [here.1] at free
  exact Bool.false_ne_true free.symm

theorem not_matches_of_owner {q : SDMComponentID} (owner : xTEDSID m i = q) (ne : p ≠ q) :
    ¬Matches m p i := fun here => ne (here.2.symm.trans owner)

/-- `ApplySegment` leaves the nodes of other providers. -/
theorem Applied.matches_other (applied : Applied m h msg m' ok) (ne : p ≠ msg.source) (j : Nat) :
    Matches m' p j ↔ Matches m p j := by
  cases applied with
  | refused => rfl
  | repeated => rfl
  | @tooMany i opens free =>
      refine SegmentBuilder.matches_other (changesOnly_deleteNode_labelNode opens.new)
        (not_matches_of_free free.free) ?_ j
      rw [deleteNode_labelNode opens.new]
      split
      · exact not_matches_of_free isInUse_setInUse_zero
      · exact not_matches_of_owner matches_labelNode.2 ne
  | begun opens free source segments changes held =>
      exact SegmentBuilder.matches_other changes (not_matches_of_free free.free)
        (not_matches_of_owner (held.xTEDSID.trans source) ne) j
  | continued appends old history source segments total changes held =>
      exact SegmentBuilder.matches_other changes
        (not_matches_of_owner (findNodeEntry_eq_some_iff.mp appends.2.2.1).2.1.2 ne)
        (not_matches_of_owner (held.xTEDSID.trans source) ne) j

/-- Collecting a document leaves the nodes of other providers. -/
theorem Collected.matches_other {id : SDMComponentID} (collected : Collected m h id m' out)
    (ne : p ≠ id) (j : Nat) : Matches m' p j ↔ Matches m p j := by
  have freed {i : Nat} (found : findNodeEntry m id = some i) :
      Matches (setInUse m i 0) p j ↔ Matches m p j :=
    SegmentBuilder.matches_other changesOnly_setInUse
      (not_matches_of_owner (findNodeEntry_eq_some_iff.mp found).2.1.2 ne)
      (not_matches_of_free isInUse_setInUse_zero) j
  cases collected with
  | hidden => rfl
  | waiting => rfl
  | tooLong found => exact freed found
  | complete found => exact freed found

theorem accept_other (ne : p ≠ msg.source) : accept h m msg p = h p := by
  cases found : findNodeEntry m msg.source with
  | none => rw [accept_of_new found, Function.update_of_ne ne]
  | some i =>
      rw [accept, found]
      dsimp only
      split
      · rfl
      · exact Function.update_of_ne ne _ _

theorem record_other (ne : p ≠ msg.source) : record h m msg out p = h p := by
  cases out with
  | unsegmented => rfl
  | refused => rfl
  | accepted => exact accept_other ne
  | complete text => exact accept_other ne

/-! ### Steps by what they do -/

/-- What one message does: nothing when it is no segment, what `ApplySegment` does when
it is refused, and otherwise also what collecting does. -/
inductive Stepped (m : Memory) (h : History) (msg : SDMxTEDS) : Memory → Received → Prop where
  | unsegmented (whole : ¬msg.IsSegmented) : Stepped m h msg m .unsegmented
  | refused {m' : Memory} (segmented : msg.IsSegmented) (applied : Applied m h msg m' false) :
      Stepped m h msg m' .refused
  | stored {m₁ m' : Memory} {out : Received} (segmented : msg.IsSegmented)
      (applied : Applied m h msg m₁ true)
      (collected : Collected m₁ (accept h m msg) msg.source m' out) : Stepped m h msg m' out

/-- **Every message does one of these things.** -/
theorem receiveSegment_stepped (holds : PoolHolds m h none) (fits : Fits m msg)
    (step : receiveSegment m msg = some (m', out)) : Stepped m h msg m' out := by
  by_cases segmented : msg.IsSegmented
  swap
  · cases (if_neg segmented).symm.trans step
    exact .unsegmented segmented
  obtain ⟨m₁, ok, applying, applied⟩ := applySegment_applied holds segmented fits
  cases ok with
  | false =>
      cases (receiveSegment_of_refused segmented applying).symm.trans step
      exact .refused segmented applied
  | true =>
      obtain ⟨m₂, out₂, collecting, collected⟩ := collect_collected (applied.stored_poolHolds holds)
      rw [receiveSegment_of_applied segmented applying, collecting] at step
      cases step
      exact .stored segmented applied collected

theorem Stepped.matches_other (stepped : Stepped m h msg m' out) (ne : p ≠ msg.source) (j : Nat) :
    Matches m' p j ↔ Matches m p j := by
  cases stepped with
  | unsegmented => rfl
  | refused _ applied => exact applied.matches_other ne j
  | stored _ applied collected =>
      exact (collected.matches_other ne j).trans (applied.matches_other ne j)

/-! ### Nodes in sight -/

/-- A message that creates a node finds one free that `FindNodeEntry` looks at. -/
def HasVisibleNode (m : Memory) (msg : SDMxTEDS) : Prop :=
  Opens m msg → ∃ i < MAX_NUMBER_SEGMENTS, isInUse m i = false

/-- The segment fits, and does not create a node out of sight. -/
def Orderly (m : Memory) (msg : SDMxTEDS) : Prop := Fits m msg ∧ HasVisibleNode m msg

/-- Every node in use is among those that `FindNodeEntry` looks at. -/
def AllVisible (m : Memory) : Prop :=
  ∀ i < MAX_SEGMENT_NODES, isInUse m i = true → i < MAX_NUMBER_SEGMENTS

theorem AllVisible.write (visible : AllVisible m) (lt : i < MAX_NUMBER_SEGMENTS)
    (changes : ChangesOnly i m m') : AllVisible m' := by
  intro j place used
  by_cases here : j = i
  · rw [here]
    exact lt
  · exact visible j place ((isInUse_congr (changes.other here)).symm.trans used)

theorem FirstFree.visible (first : FirstFree m i)
    (some : ∃ i < MAX_NUMBER_SEGMENTS, isInUse m i = false) : i < MAX_NUMBER_SEGMENTS := by
  obtain ⟨j, lt, free⟩ := some
  by_contra ge
  have used := first.before j (Nat.lt_of_lt_of_le lt (Nat.le_of_not_lt ge))
  rw [free] at used
  exact Bool.false_ne_true used

theorem Applied.allVisible (applied : Applied m h msg m' ok) (visible : AllVisible m)
    (room : HasVisibleNode m msg) : AllVisible m' := by
  cases applied with
  | refused => exact visible
  | repeated => exact visible
  | tooMany opens free =>
      exact visible.write (free.visible (room opens)) (changesOnly_deleteNode_labelNode opens.new)
  | begun opens free source segments changes held =>
      exact visible.write (free.visible (room opens)) changes
  | continued appends old history source segments total changes held =>
      exact visible.write (findNodeEntry_eq_some_iff.mp appends.2.2.1).1 changes

theorem Collected.allVisible {id : SDMComponentID} (collected : Collected m h id m' out)
    (visible : AllVisible m) : AllVisible m' := by
  cases collected with
  | hidden => exact visible
  | waiting => exact visible
  | tooLong found => exact visible.write (findNodeEntry_eq_some_iff.mp found).1 changesOnly_setInUse
  | complete found =>
      exact visible.write (findNodeEntry_eq_some_iff.mp found).1 changesOnly_setInUse

theorem Stepped.allVisible (stepped : Stepped m h msg m' out) (visible : AllVisible m)
    (room : HasVisibleNode m msg) : AllVisible m' := by
  cases stepped with
  | unsegmented => exact visible
  | refused _ applied => exact applied.allVisible visible room
  | stored _ applied collected => exact collected.allVisible (applied.allVisible visible room)

theorem allVisible_start : AllVisible start := by
  intro i lt used
  rw [isInUse_start i lt] at used
  exact absurd used Bool.false_ne_true

/-- No node in use is out of sight in an orderly run. -/
theorem AllVisible.reaches
    (run : (segmentBuilder.withGhost record).Reaches (fun q msg => Orderly q.1 msg)
      (start, fun _ => []) (m, h)) : PoolHolds m h none ∧ AllVisible m := by
  refine ⟨PoolHolds.reaches (run.mono fun _ _ orderly => orderly.1), ?_⟩
  refine (run.invariant (I := fun q => PoolHolds q.1 q.2 none ∧ AllVisible q.1)
    ⟨poolHolds_start, allVisible_start⟩ ?_).2
  rintro ⟨m, h⟩ msg ⟨m', h'⟩ out ⟨holds, visible⟩ ⟨fits, room⟩ taken
  obtain ⟨here, rfl⟩ := Machine.withGhost_step_eq_some.mp taken
  obtain ⟨m₁, out₁, step, kept, _⟩ := receiveSegment_spec holds fits
  cases Option.some.inj (step.symm.trans here)
  exact ⟨kept, (receiveSegment_stepped holds fits step).allVisible visible room⟩

/-- A provider whose node is freed has none. -/
theorem PoolHolds.lost {full : Option SDMComponentID} (holds : PoolHolds m h full)
    (found : findNodeEntry m p = some i) : findNodeEntry (setInUse m i 0) p = none := by
  apply findNodeEntry_eq_none_iff.mpr
  intro j lt here
  by_cases same : j = i
  · rw [same] at here
    exact not_matches_of_free isInUse_setInUse_zero here
  · exact holds.alone found j lt same ((matches_congr (changesOnly_setInUse.other same)).mp here)

/-! ### A transfer in order -/

/-- The provider has sent these segments of a document, and no other. -/
def Waiting (m : Memory) (h : History) (p : SDMComponentID) : List SDMxTEDS → Prop
  | [] => findNodeEntry m p = none
  | s :: past => (findNodeEntry m p).isSome = true ∧ h p = s :: past

theorem Waiting.of_other {past : List SDMxTEDS} (waiting : Waiting m h p past)
    (stepped : Stepped m h msg m' out) (ne : p ≠ msg.source) :
    Waiting m' (record h m msg out) p past := by
  have same : findNodeEntry m' p = findNodeEntry m p :=
    findNodeEntry_congr fun j _ => stepped.matches_other ne j
  cases past with
  | nil => exact same.trans waiting
  | cons s past => exact ⟨same ▸ waiting.1, (record_other ne).trans waiting.2⟩

theorem Waiting.new {past : List SDMxTEDS} (waiting : Waiting m h p past)
    (new : findNodeEntry m p = none) : past = [] := by
  cases past with
  | nil => rfl
  | cons s past =>
      have found := waiting.1
      rw [new] at found
      exact absurd found Bool.false_ne_true

theorem Waiting.found {past : List SDMxTEDS} (waiting : Waiting m h p past)
    (found : findNodeEntry m p = some i) : h p = past := by
  cases past with
  | nil => exact absurd (waiting.symm.trans found) (Option.some_ne_none i).symm
  | cons s past => exact waiting.2

theorem addSegmentNode_ne_none (free : ∃ i < MAX_NUMBER_SEGMENTS, isInUse m i = false) :
    addSegmentNode m ≠ none := by
  obtain ⟨i, lt, free⟩ := free
  intro none
  have used : ∀ j < MAX_SEGMENT_NODES, isInUse m j = true := by
    simpa only [addSegmentNode, Option.map_eq_none_iff, List.find?_range_eq_none,
      Bool.not_not] using none
  rw [used i (Nat.lt_trans lt (by decide))] at free
  exact Bool.false_ne_true free.symm

section Next

variable {past : List SDMxTEDS} {n : Nat}

/-- The next segment of a transfer is not refused. -/
theorem Waiting.not_refused (waiting : Waiting m h msg.source past) (segmented : msg.IsSegmented)
    (range : msg.InRange) (number : msg.sequenceNumber = past.length)
    (announced : (past ++ [msg]).head?.map SDMxTEDS.totalSegments = some n)
    (few : n ≤ MAX_NUMBER_SEGMENTS) (room : HasVisibleNode m msg) :
    ¬Applied m h msg m' false := by
  have first (new : findNodeEntry m msg.source = none) : msg.sequenceNumber = 0 := by
    rw [number, waiting.new new]
    rfl
  intro applied
  cases applied with
  | tooMany opens free many =>
      rw [waiting.new opens.new] at announced
      have total : msg.totalSegments = n := Option.some.inj announced
      omega
  | refused why =>
      cases why with
      | outOfRange out => exact out range
      | notFirst new later => exact later (first new)
      | noNode new none =>
          exact addSegmentNode_ne_none (room ⟨segmented, range, new, first new⟩) none
      | outOfOrder found early =>
          rw [waiting.found found, number] at early
          exact Nat.lt_irrefl _ early

/-- The next segment of a transfer is stored behind the others. -/
theorem Waiting.stored (waiting : Waiting m h msg.source past)
    (number : msg.sequenceNumber = past.length) (room : HasVisibleNode m msg)
    (applied : Applied m h msg m' true) :
    (∃ i, findNodeEntry m' msg.source = some i) ∧ accept h m msg msg.source = past ++ [msg] := by
  cases applied with
  | repeated found before =>
      rw [waiting.found found, number] at before
      exact absurd before (Nat.lt_irrefl _)
  | @begun i _ a opens free source segments changes held =>
      refine ⟨⟨i, ?_⟩, ?_⟩
      · refine (findNodeEntry_of_new opens.new changes ?_).trans
          (if_pos (free.visible (room opens)))
        exact source ▸ held.matches
      · rw [accept_of_new opens.new, Function.update_self, waiting.new opens.new]
        rfl
  | @continued i _ a b appends old history source segments total changes held =>
      obtain ⟨_, _, found, notYet, _⟩ := appends
      refine ⟨⟨i, findNodeEntry_of_found found changes (source ▸ held.matches)⟩, ?_⟩
      rw [accept_of_found found notYet, Function.update_self, waiting.found found]

/-- **The next segment of a transfer** is accepted, and the last one completes it. -/
theorem Waiting.next (waiting : Waiting m h msg.source past) (holds : PoolHolds m h none)
    (stepped : Stepped m h msg m' out) (segmented : msg.IsSegmented) (range : msg.InRange)
    (number : msg.sequenceNumber = past.length)
    (announced : (past ++ [msg]).head?.map SDMxTEDS.totalSegments = some n)
    (few : n ≤ MAX_NUMBER_SEGMENTS) (room : HasVisibleNode m msg)
    (short : (payload (past ++ [msg])).length ≤ MAX_XTEDS_SIZE) :
    (past.length + 1 < n → out = .accepted ∧
      Waiting m' (record h m msg out) msg.source (past ++ [msg])) ∧
    (past.length + 1 = n → out = .complete (payload (past ++ [msg])) ∧
      findNodeEntry m' msg.source = none) := by
  have length : (past ++ [msg]).length = past.length + 1 := List.length_append
  cases stepped with
  | unsegmented whole => exact absurd segmented whole
  | refused _ applied =>
      exact absurd applied (waiting.not_refused segmented range number announced few room)
  | @stored m₁ _ _ _ applied collected =>
      obtain ⟨⟨i, found⟩, history⟩ := waiting.stored number room applied
      have total (a : Assembly) (log : accept h m msg msg.source = a.segments) :
          a.segments = past ++ [msg] ∧ a.total = n := by
        have segments : a.segments = past ++ [msg] := log.symm.trans history
        have told := a.announced
        rw [segments, announced] at told
        exact ⟨segments, (Option.some.inj told).symm⟩
      cases collected with
      | hidden lost => exact absurd (lost.symm.trans found) (Option.some_ne_none i).symm
      | waiting _ _ log more =>
          obtain ⟨segments, same⟩ := total _ log
          rw [segments, same, length] at more
          refine ⟨fun _ => ⟨rfl, ?_⟩, fun last => absurd last (Nat.ne_of_lt more)⟩
          have nonempty : ∃ s rest, past ++ [msg] = s :: rest := by
            cases past with
            | nil => exact ⟨msg, [], rfl⟩
            | cons s past => exact ⟨s, past ++ [msg], rfl⟩
          obtain ⟨s, rest, shape⟩ := nonempty
          rw [shape]
          exact ⟨by rw [found]; rfl, (history.trans shape)⟩
      | tooLong _ _ log _ long =>
          rw [(total _ log).1] at long
          exact absurd short (Nat.not_le.mpr long)
      | complete seen _ log last =>
          obtain ⟨segments, same⟩ := total _ log
          rw [segments, same, length] at last
          refine ⟨fun more => absurd last (Nat.ne_of_lt more), fun _ => ⟨by rw [segments], ?_⟩⟩
          exact (applied.stored_poolHolds holds).lost seen

end Next

/-- The segments of a document of `p`, in order. -/
structure Transfer (p : SDMComponentID) (segments : List SDMxTEDS) : Prop where
  sources : ∀ s ∈ segments, s.source = p
  segmented : ∀ s ∈ segments, s.IsSegmented
  range : ∀ s ∈ segments, s.InRange
  numbered : segments.map SDMxTEDS.sequenceNumber = List.range segments.length
  announced : segments.head?.map SDMxTEDS.totalSegments = some segments.length
  few : segments.length ≤ MAX_NUMBER_SEGMENTS
  short : (payload segments).length ≤ MAX_XTEDS_SIZE

theorem Transfer.mem {past rest : List SDMxTEDS} (transfer : Transfer p (past ++ [msg] ++ rest)) :
    msg.source = p ∧ msg.IsSegmented ∧ msg.InRange := by
  have mem : msg ∈ past ++ [msg] ++ rest := by
    rw [List.append_assoc]
    exact List.mem_append_right past List.mem_cons_self
  exact ⟨transfer.sources msg mem, transfer.segmented msg mem, transfer.range msg mem⟩

theorem Transfer.number {past rest : List SDMxTEDS}
    (transfer : Transfer p (past ++ [msg] ++ rest)) : msg.sequenceNumber = past.length := by
  have numbered := congrArg (fun l => l[past.length]?) transfer.numbered
  simp only [List.map_append, List.append_assoc, List.map_cons, List.cons_append,
    List.nil_append, List.length_append, List.length_cons] at numbered
  rw [List.getElem?_append_right (by rw [List.length_map]), List.length_map, Nat.sub_self,
    List.getElem?_cons_zero, List.getElem?_range (by omega)] at numbered
  exact Option.some.inj numbered

theorem Transfer.total {past rest : List SDMxTEDS} (transfer : Transfer p (past ++ [msg] ++ rest)) :
    (past ++ [msg]).head?.map SDMxTEDS.totalSegments =
      some (past ++ [msg] ++ rest).length := by
  rw [← transfer.announced]
  cases past with
  | nil => rfl
  | cons s past => rfl

/-- What a trace shows of the messages of `p`. -/
def ofProvider (p : SDMComponentID) (es : List (SDMxTEDS × Received)) :
    List (SDMxTEDS × Received) := es.filter fun e => e.1.source = p

theorem ofProvider_own {es : List (SDMxTEDS × Received)} (own : msg.source = p) :
    ofProvider p (es ++ [(msg, out)]) = ofProvider p es ++ [(msg, out)] := by
  simp [ofProvider, own]

theorem ofProvider_other {es : List (SDMxTEDS × Received)} (other : msg.source ≠ p) :
    ofProvider p (es ++ [(msg, out)]) = ofProvider p es := by
  simp [ofProvider, other]

theorem payload_of_before {past segments : List SDMxTEDS} (before : past <+: segments) :
    (payload past).length ≤ (payload segments).length := by
  obtain ⟨rest, rfl⟩ := before
  simp only [payload, CString.length, List.flatMap_append, List.length_append]
  exact Nat.le_add_right _ _

/-- **A transfer in order completes.** Its segments are accepted one by one whatever the
other providers send, and the last one gives the document. -/
theorem Transfer.completes {segments : List SDMxTEDS} {q : Memory × History}
    {es : List (SDMxTEDS × Received)} (transfer : Transfer p segments)
    (run : (segmentBuilder.withGhost record).Reaches (fun q msg => Orderly q.1 msg)
      (start, fun _ => []) (m, h))
    (new : findNodeEntry m p = none)
    (trace : (segmentBuilder.withGhost record).Trace (fun q msg => Orderly q.1 msg) (m, h) es q)
    (sent : (ofProvider p es).map Prod.fst <+: segments) :
    ((ofProvider p es).length < segments.length →
      (ofProvider p es).map Prod.snd = List.replicate (ofProvider p es).length .accepted ∧
      Waiting q.1 q.2 p ((ofProvider p es).map Prod.fst)) ∧
    ((ofProvider p es).length = segments.length →
      (ofProvider p es).map Prod.snd =
        List.replicate (segments.length - 1) .accepted ++ [.complete (payload segments)] ∧
      findNodeEntry q.1 p = none) := by
  induction trace with
  | start =>
      refine ⟨fun _ => ⟨rfl, new⟩, fun none => ?_⟩
      have announced := transfer.announced
      rw [List.length_eq_zero_iff.mp none.symm] at announced
      exact absurd announced (Option.some_ne_none _).symm
  | @step es s s' msg out before orderly taken ih =>
      obtain ⟨step, later⟩ := Machine.withGhost_step_eq_some.mp taken
      obtain ⟨holds, _⟩ := AllVisible.reaches (before.reaches run)
      have stepped := receiveSegment_stepped holds orderly.1 step
      by_cases own : msg.source = p
      · subst own
        rw [ofProvider_own rfl] at sent ⊢
        rw [List.map_append] at sent
        obtain ⟨rest, whole⟩ := sent
        have whole : (ofProvider msg.source es).map Prod.fst ++ [msg] ++ rest = segments := whole
        subst whole
        have length : ((ofProvider msg.source es).map Prod.fst ++ [msg] ++ rest).length =
            (ofProvider msg.source es).length + 1 + rest.length := by
          rw [List.length_append, List.length_append, List.length_map, List.length_singleton]
        obtain ⟨accepted, waiting⟩ :=
          (ih ((List.prefix_append _ _).trans (List.prefix_append _ _))).1 (by omega)
        have short := Nat.le_trans
          (payload_of_before
            (List.prefix_append ((ofProvider msg.source es).map Prod.fst ++ [msg]) rest))
          transfer.short
        obtain ⟨_, segmented, range⟩ := transfer.mem
        obtain ⟨more, last⟩ := waiting.next holds stepped segmented range transfer.number
          transfer.total transfer.few orderly.2 short
        rw [List.length_map] at more last
        have both : (ofProvider msg.source es ++ [(msg, out)]).length =
            (ofProvider msg.source es).length + 1 := List.length_append
        rw [both, List.map_append, List.map_append, accepted, later]
        refine ⟨fun fewer => ?_, fun all => ?_⟩
        · obtain ⟨rfl, waits⟩ := more fewer
          exact ⟨List.replicate_succ'.symm, waits⟩
        · obtain ⟨rfl, gone⟩ := last all
          have none : rest = [] := List.length_eq_zero_iff.mp (by omega)
          rw [← all, Nat.add_sub_cancel, none, List.append_nil]
          exact ⟨rfl, gone⟩
      · rw [ofProvider_other own] at sent ⊢
        have other : findNodeEntry s'.1 p = findNodeEntry s.1 p :=
          findNodeEntry_congr fun j _ => stepped.matches_other (Ne.symm own) j
        refine ⟨fun fewer => ?_, fun all => ?_⟩
        · obtain ⟨accepted, waiting⟩ := (ih sent).1 fewer
          rw [later]
          exact ⟨accepted, waiting.of_other stepped (Ne.symm own)⟩
        · obtain ⟨outputs, gone⟩ := (ih sent).2 all
          exact ⟨outputs, other.trans gone⟩

/-- **Nodes are not lost.** In every state of an orderly run each node in use is found
under its id and is the only one with it, and it belongs to a provider that has not yet
sent all the segments it announced, so that a transfer that was fetched or refused has
left no node. And a transfer that begins in such a state, with segments in order, is
accepted segment by segment and completes. -/
theorem nodes_never_lost
    (run : (segmentBuilder.withGhost record).Reaches (fun q msg => Orderly q.1 msg)
      (start, fun _ => []) (m, h)) :
    (∀ i < MAX_SEGMENT_NODES, isInUse m i = true → findNodeEntry m (xTEDSID m i) = some i) ∧
    (∀ i < MAX_SEGMENT_NODES, ∀ j < MAX_SEGMENT_NODES, isInUse m i = true → isInUse m j = true →
      xTEDSID m i = xTEDSID m j → i = j) ∧
    (∀ i < MAX_SEGMENT_NODES, isInUse m i = true → ∃ first rest, h (xTEDSID m i) = first :: rest ∧
      (first :: rest).length < first.totalSegments) ∧
    (∀ p segments es q, Transfer p segments → findNodeEntry m p = none →
      (segmentBuilder.withGhost record).Trace (fun q msg => Orderly q.1 msg) (m, h) es q →
      (ofProvider p es).map Prod.fst = segments →
      (ofProvider p es).map Prod.snd =
        List.replicate (segments.length - 1) .accepted ++ [.complete (payload segments)] ∧
      findNodeEntry q.1 p = none) := by
  obtain ⟨holds, visible⟩ := AllVisible.reaches run
  have found (i : Nat) (lt : i < MAX_SEGMENT_NODES) (used : isInUse m i = true) :
      findNodeEntry m (xTEDSID m i) = some i := by
    have near := visible i lt used
    refine findNodeEntry_eq_some_iff.mpr ⟨near, ⟨used, rfl⟩, fun j before other => ?_⟩
    exact Nat.ne_of_lt before
      (holds.unique j (Nat.lt_trans before near) i near other.1 used other.2)
  refine ⟨found, fun i lti j ltj usedi usedj same => ?_, fun i lt used => ?_,
    fun p segments es q transfer new trace sent => ?_⟩
  · exact holds.unique i (visible i lti usedi) j (visible j ltj usedj) usedi usedj same
  · obtain ⟨a, held, history, done⟩ := holds.node i (visible i lt used) used
    obtain ⟨first, top, total⟩ := Option.map_eq_some_iff.mp a.announced
    obtain ⟨rest, whole⟩ := List.head?_eq_some_iff.mp top
    have fewer : a.segments.length < a.total :=
      Nat.lt_of_le_of_ne a.within fun last => absurd (done last) (Option.some_ne_none _).symm
    refine ⟨first, rest, ?_, ?_⟩
    · rw [held.xTEDSID]
      exact history.trans whole
    · rwa [whole, ← total] at fewer
  · refine (transfer.completes run new trace (sent ▸ List.prefix_refl _)).2 ?_
    rw [← sent, List.length_map]

/-! ### Providers that begin one after the other -/

/-- Providers that begin in turn get one node after the other, in an orderly run while
there are four of them. -/
theorem begun_in_turn (msgs : List SDMxTEDS) (begins : ∀ msg ∈ msgs, BeginsTwo msg)
    (distinct : (msgs.map SDMxTEDS.source).Nodup) (few : msgs.length ≤ MAX_NUMBER_SEGMENTS)
    (k : Nat) (le : k ≤ msgs.length) :
    ∃ m h, (segmentBuilder.withGhost record).Reaches (fun q msg => Orderly q.1 msg)
        (start, fun _ => []) (m, h) ∧
      (∀ i (lt : i < msgs.length), i < k → Holds m i (firstOfTwo msgs[i])) ∧
      (∀ i < MAX_SEGMENT_NODES, k ≤ i → isInUse m i = false) := by
  induction k with
  | zero =>
      exact ⟨start, _, .start, fun i _ less => absurd less (Nat.not_lt_zero i),
        fun i lt _ => isInUse_start i lt⟩
  | succ k ih =>
      obtain ⟨m, h, run, held, free⟩ := ih (Nat.le_of_succ_le le)
      have near : k < MAX_NUMBER_SEGMENTS := Nat.lt_of_lt_of_le le few
      have place : k < MAX_SEGMENT_NODES := Nat.lt_trans near (by decide)
      have begun : BeginsTwo msgs[k] := begins _ (List.getElem_mem le)
      have new : findNodeEntry m msgs[k].source = none := by
        apply findNodeEntry_eq_none_iff.mpr
        intro i lt here
        by_cases before : i < k
        · have owner := (held i (Nat.lt_trans before le) before).xTEDSID.symm.trans here.2
          have same : i = k := by
            have lti : i < (msgs.map SDMxTEDS.source).length := by
              rw [List.length_map]
              exact Nat.lt_trans before le
            have ltk : k < (msgs.map SDMxTEDS.source).length := by rwa [List.length_map]
            have equal : (msgs.map SDMxTEDS.source)[i] = (msgs.map SDMxTEDS.source)[k] := by
              rw [List.getElem_map, List.getElem_map]
              exact owner
            exact (List.Nodup.getElem_inj_iff distinct).mp equal
          exact Nat.ne_of_lt before same
        · have unused := free i (Nat.lt_trans lt (by decide)) (Nat.le_of_not_lt before)
          exact not_matches_of_free unused here
      obtain ⟨m', step, changes, first⟩ := begun.step new near (free k place (Nat.le_refl k))
        fun j before => (held j (Nat.lt_trans before le) before).isInUse
      refine ⟨m', _, .step run ⟨.of_new new, fun _ => ⟨k, near, free k place (Nat.le_refl k)⟩⟩
        (ghost_step_accepted step), fun i lt before => ?_,
        fun i lt after => ?_⟩
      · by_cases last : i = k
        · subst last
          exact first
        · exact (held i lt (by omega)).other changes last
      · rw [isInUse_congr (changes.other (by omega))]
        exact free i lt (by omega)

/-- Two providers begin, and their nodes are found. -/
theorem nodes_never_lost_of_two :
    ∃ m h, (segmentBuilder.withGhost record).Reaches (fun q msg => Orderly q.1 msg)
        (start, fun _ => []) (m, h) ∧ isInUse m 1 = true ∧
      findNodeEntry m (xTEDSID m 1) = some 1 := by
  obtain ⟨m, h, run, held, _⟩ := begun_in_turn [openingSegment, otherFirst]
    (by simp [BeginsTwo]; decide) (by decide) (by decide) 2 (by decide)
  have used : isInUse m 1 = true := (held 1 (by decide) (by decide)).isInUse
  exact ⟨m, h, run, used, (nodes_never_lost run).1 1 (by decide) used⟩

/-- The segments of provider `n`. -/
def nthFirst (n : UInt16) : SDMxTEDS := segmentOf ⟨1, 1, n⟩ 0 2 ⟨[60], opening_noNul⟩ opening_fits

def nthSecond (n : UInt16) : SDMxTEDS := segmentOf ⟨1, 1, n⟩ 1 2 ⟨[62], closing_noNul⟩ closing_fits

/-- **The fifth provider's node is lost**: five providers send the first of two segments,
the last of them gets a node that is not found under its id, and its second segment is
refused. -/
theorem fifth_node_is_lost :
    ∃ m h, (segmentBuilder.withGhost record).Reachable (start, fun _ => []) (m, h) ∧
      isInUse m 4 = true ∧ xTEDSID m 4 = (nthFirst 5).source ∧
      findNodeEntry m (xTEDSID m 4) = none ∧
      receiveSegment m (nthSecond 5) = some (m, .refused) := by
  obtain ⟨m, h, run, held, free⟩ :=
    begun_in_turn [nthFirst 1, nthFirst 2, nthFirst 3, nthFirst 4]
      (by simp [BeginsTwo]; decide) (by decide) (by decide) 4 (by decide)
  have owner (i : Nat) (lt : i < MAX_NUMBER_SEGMENTS) :
      xTEDSID m i = ⟨1, 1, UInt16.ofNat (i + 1)⟩ := by
    unfold MAX_NUMBER_SEGMENTS at lt
    obtain rfl | rfl | rfl | rfl : i = 0 ∨ i = 1 ∨ i = 2 ∨ i = 3 := by omega
    · exact (held 0 (by decide) (by decide)).xTEDSID
    · exact (held 1 (by decide) (by decide)).xTEDSID
    · exact (held 2 (by decide) (by decide)).xTEDSID
    · exact (held 3 (by decide) (by decide)).xTEDSID
  have used (j : Nat) (lt : j < 4) : isInUse m j = true := (held j lt lt).isInUse
  have new : findNodeEntry m (nthFirst 5).source = none := by
    apply findNodeEntry_eq_none_iff.mpr
    intro i lt here
    have same := (owner i lt).symm.trans here.2
    unfold MAX_NUMBER_SEGMENTS at lt
    obtain rfl | rfl | rfl | rfl : i = 0 ∨ i = 1 ∨ i = 2 ∨ i = 3 := by omega
    all_goals exact absurd same (by decide)
  have begins : BeginsTwo (nthFirst 5) := ⟨rfl, rfl⟩
  obtain ⟨m', created, changes, first⟩ := createNode_first begins.1 (by decide)
    (FirstFree.added ⟨by decide, free 4 (by decide) (Nat.le_refl 4), used⟩) (by decide)
  have lost : findNodeEntry m' (nthFirst 5).source = none :=
    (findNodeEntry_of_new new changes first.matches).trans (if_neg (by decide))
  have accepted : receiveSegment m (nthFirst 5) = some (m', .accepted) := by
    have applied := (applySegment_of_new begins.segmented begins.inRange new).trans created
    rw [receiveSegment_of_applied begins.segmented applied, collect, checkIsFinished, lost]
    rfl
  refine ⟨m', _, .step run.reachable trivial (ghost_step_accepted accepted), first.isInUse,
    first.xTEDSID, ?_, ?_⟩
  · rw [first.xTEDSID]
    exact lost
  · have later : (nthSecond 5).sequenceNumber ≠ 0 := by decide
    have lostSecond : findNodeEntry m' (nthSecond 5).source = none := lost
    refine receiveSegment_of_refused (by decide) ?_
    rw [applySegment_of_new (by decide) (by decide) lostSecond, createNode, if_pos later]

end SegmentBuilder

end Sdm
