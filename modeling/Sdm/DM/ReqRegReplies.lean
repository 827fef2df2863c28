import Sdm.DM.NamedDocument
import Sdm.DM.ReqReg

/-!
Which slot a `ReqReg` for one slot answers for.

`repliesAt` is what a request is owed for the slot at a list position, `servedAs`
the position at which the counter of the walk has a given value. The walk sends
the replies of the slot served as `k` (`walkSends_eq_served`), which is the slot at
position `k` exactly when no slot up to there is skipped. `replies_follow_index_iff`
is the resulting condition on the registry and the request.
-/

namespace Sdm

open Lib

namespace ReqRegCall

variable {τ : Type} {q : ReqRegCall} {l : XTEDSLibraryList τ} {s : XTEDSLibrary τ}
  {j k pos num : Nat} {m : List Nat} {sent : List Effect}

/-- The position of the slot at which the counter of the walk is `k`. -/
def servedAs (q : ReqRegCall) : XTEDSLibraryList τ → Nat → Option Nat
  | [], _ => none
  | s :: rest, k =>
      if q.Skips s then (servedAs q rest k).map (· + 1)
      else
        match k with
        | 0 => some 0
        | k + 1 => (servedAs q rest k).map (· + 1)

/-- The counter does not run ahead of the position. -/
theorem le_servedAs (served : servedAs q l k = some j) : k ≤ j := by
  induction l generalizing k j with
  | nil => cases served
  | cons s rest ih =>
      unfold servedAs at served
      split at served
      · obtain ⟨i, found, rfl⟩ := Option.map_eq_some_iff.mp served
        exact (ih found).trans (Nat.le_succ i)
      · cases k with
        | zero => exact Nat.zero_le j
        | succ k =>
            obtain ⟨i, found, rfl⟩ := Option.map_eq_some_iff.mp served
            exact Nat.succ_le_succ (ih found)

/-- With no skipped slot up to position `k`, the slot served as `k` is there. -/
theorem servedAs_eq_self_iff : servedAs q l k = some k ↔
    k < l.length ∧ ∀ j ≤ k, ∀ s, l[j]? = some s → ¬ q.Skips s := by
  induction l generalizing k with
  | nil => simp [servedAs]
  | cons s rest ih =>
      unfold servedAs
      by_cases skips : q.Skips s
      · rw [if_pos skips]
        refine iff_of_false ?_ fun h => h.2 0 (Nat.zero_le k) s rfl skips
        intro served
        obtain ⟨j, found, eq⟩ := Option.map_eq_some_iff.mp served
        have := le_servedAs found
        omega
      · rw [if_neg skips]
        cases k with
        | zero =>
            refine iff_of_true rfl ⟨Nat.succ_pos _, fun j le t at_j => ?_⟩
            obtain rfl : j = 0 := Nat.le_zero.mp le
            cases at_j
            exact skips
        | succ k =>
            simp only [Option.map_eq_some_iff, Nat.add_right_cancel_iff, exists_eq_right, ih,
              List.length_cons, Nat.add_lt_add_iff_right]
            refine and_congr_right fun _ => ⟨fun h j le t at_j => ?_, fun h j le t at_j => ?_⟩
            · cases j with
              | zero =>
                  cases at_j
                  exact skips
              | succ j => exact h j (Nat.le_of_succ_le_succ le) t at_j
            · exact h (j + 1) (Nat.succ_le_succ le) t at_j

/-! ### What is owed and what is sent -/

section Replies

variable [XTEDS τ]

/-- Every slot in use has a tree, and the lookup in it gives a list. -/
def Searchable (q : ReqRegCall) (l : XTEDSLibraryList τ) : Prop :=
  ∀ s ∈ l, s.available = false → ∃ tree defs, s.xtedsTree = some tree ∧ q.lookup tree = some defs

/-- The messages matched in a slot. -/
def slotDefs (q : ReqRegCall) (s : XTEDSLibrary τ) : List MessageDef :=
  (s.xtedsTree.bind q.lookup).getD []

/-- The replies owed for a slot: none for a slot that is free or not selected. -/
def slotReplies (q : ReqRegCall) (pos : Nat) (s : XTEDSLibrary τ) : List Effect :=
  if q.Selects s ∧ s.available = false then q.reports pos s (q.slotDefs s) else []

/-- The replies owed for the slot at a position. -/
def repliesAt (q : ReqRegCall) (l : XTEDSLibraryList τ) (k : Nat) : List Effect :=
  (l[k]?).elim [] (q.slotReplies k)

/-- What the walk sends, from position `pos` and counter `num` on. -/
def walkSends (q : ReqRegCall) : XTEDSLibraryList τ → (pos num : Nat) → List Effect
  | [], _, _ => []
  | s :: rest, pos, num =>
      if q.Skips s then walkSends q rest (pos + 1) num
      else
        (if q.xTEDref = none ∨ q.xTEDref = some num then q.slotReplies pos s else []) ++
          walkSends q rest (pos + 1) (num + 1)

/-- Once the counter has passed the slot asked for, nothing more is sent. -/
theorem walkSends_past (ref : q.xTEDref = some k) (past : k < num) :
    walkSends q l pos num = [] := by
  induction l generalizing pos num with
  | nil => rfl
  | cons s rest ih =>
      have notHere : ¬ (q.xTEDref = none ∨ q.xTEDref = some num) := by
        rw [ref]
        simp only [reduceCtorEq, Option.some.injEq, false_or]
        omega
      rw [walkSends, if_neg notHere]
      split
      · exact ih past
      · rw [List.nil_append]
        exact ih (by omega)

theorem slotReplies_of_not_selects (out : ¬ q.Selects s) : q.slotReplies pos s = [] :=
  if_neg fun h => out h.1

/-- The walk over a searchable registry ends, and it sends `walkSends`. -/
theorem walk_sent (ref : q.xTEDref = some k) (searchable : Searchable q l) :
    ∃ ended, walk q l pos num m sent = some ended ∧ ended.sent = sent ++ walkSends q l pos num := by
  induction l generalizing pos num m sent with
  | nil => exact ⟨.finished m sent, rfl, (List.append_nil sent).symm⟩
  | cons s rest ih =>
      have searchableRest : Searchable q rest :=
        fun t mem => searchable t (List.mem_cons_of_mem _ mem)
      -- what the end of the loop body does after the messages `now` of this slot
      have step : ∀ (m' : List Nat) (now : List Effect), ∃ ended,
          (if q.xTEDref = some num ∧ m'[num]? = some 0 then some (.returned (sent ++ now))
            else walk q rest (pos + 1) (num + 1) m' (sent ++ now)) = some ended ∧
            ended.sent = sent ++ (now ++ walkSends q rest (pos + 1) (num + 1)) := by
        intro m' now
        split
        · rename_i here
          obtain rfl : k = num := Option.some.inj (ref.symm.trans here.1)
          refine ⟨_, rfl, ?_⟩
          rw [walkSends_past ref (Nat.lt_succ_self k), List.append_nil]
          rfl
        · obtain ⟨ended, walked, sentEq⟩ := @ih (pos + 1) (num + 1) m' (sent ++ now) searchableRest
          exact ⟨ended, walked, by rw [sentEq, List.append_assoc]⟩
      unfold walk walkSends
      by_cases selects : q.Selects s
      · rw [if_pos selects]
        cases free : s.available with
        | true =>
            rw [if_pos rfl, if_pos (show q.Skips s from ⟨selects, free⟩)]
            exact ih searchableRest
        | false =>
            obtain ⟨tree, defs, hasTree, found⟩ := searchable s List.mem_cons_self free
            have notSkipped : ¬ q.Skips s := fun h => Bool.false_ne_true (free.symm.trans h.2)
            rw [if_neg Bool.false_ne_true, if_neg notSkipped, hasTree]
            simp only [found]
            have owed : q.slotReplies pos s = q.reports pos s defs := by
              rw [slotReplies, if_pos ⟨selects, free⟩, slotDefs, hasTree, Option.bind_some, found]
              rfl
            by_cases here : q.xTEDref = none ∨ q.xTEDref = some num
            · simp only [if_pos here, owed]
              exact step _ _
            · simp only [if_neg here]
              simpa using step (m.modify num (· + defs.length)) []
      · have notSkipped : ¬ q.Skips s := fun h => selects h.1
        rw [if_neg selects, if_neg notSkipped, slotReplies_of_not_selects selects, ite_self]
        simpa using step m []

/-! ### The slot that is served -/

/-- The walk answers for the slot served as `k`. -/
theorem walkSends_eq (ref : q.xTEDref = some (num + k)) :
    walkSends q l pos num =
      (servedAs q l k).elim [] fun j => (l[j]?).elim [] (q.slotReplies (pos + j)) := by
  induction l generalizing pos num k with
  | nil => rfl
  | cons s rest ih =>
      unfold walkSends servedAs
      by_cases skips : q.Skips s
      · rw [if_pos skips, if_pos skips, ih ref]
        cases servedAs q rest k with
        | none => rfl
        | some j => simp [Nat.add_right_comm pos 1 j, ← Nat.add_assoc]
      · rw [if_neg skips, if_neg skips]
        cases k with
        | zero =>
            rw [Nat.add_zero] at ref
            rw [if_pos (.inr ref), walkSends_past ref (Nat.lt_succ_self num)]
            simp
        | succ k =>
            have notHere : ¬ (q.xTEDref = none ∨ q.xTEDref = some num) := by
              rw [ref]
              simp only [reduceCtorEq, Option.some.injEq, false_or]
              omega
            have ref' : q.xTEDref = some (num + 1 + k) := by
              rw [ref]
              congr 1
              omega
            rw [if_neg notHere, List.nil_append, ih ref']
            simp only
            cases servedAs q rest k with
            | none => rfl
            | some j => simp [Nat.add_right_comm pos 1 j, ← Nat.add_assoc]

/-! ### When the replies follow the index -/

/-- No slot up to position `k` is skipped, or neither slot `k` nor the slot the
counter takes for it has anything to report. -/
def IndexAgrees (q : ReqRegCall) (l : XTEDSLibraryList τ) (k : Nat) : Prop :=
  (∀ j ≤ k, ∀ s, l[j]? = some s → ¬ q.Skips s) ∨
    (q.repliesAt l k = [] ∧ ∀ j, servedAs q l k = some j → q.repliesAt l j = [])

/-- A reply carries the position of the slot it is for. -/
theorem mem_repliesAt {e : Effect} (mem : e ∈ q.repliesAt l k) :
    ∃ destination msg, e = .regInfo k destination msg := by
  unfold repliesAt at mem
  cases at_k : l[k]? with
  | none =>
      rw [at_k] at mem
      exact absurd mem List.not_mem_nil
  | some s =>
      rw [at_k, Option.elim_some] at mem
      unfold slotReplies reports at mem
      split_ifs at mem
      · obtain ⟨d, _, rfl⟩ := List.mem_map.mp mem
        exact ⟨_, _, rfl⟩
      · exact absurd mem List.not_mem_nil
      · exact absurd mem List.not_mem_nil

theorem walkSends_eq_served (ref : q.xTEDref = some k) :
    walkSends q l 0 0 = (servedAs q l k).elim [] (q.repliesAt l) := by
  rw [walkSends_eq (k := k) (by rwa [Nat.zero_add])]
  simp only [Nat.zero_add]
  rfl

theorem walkSends_eq_repliesAt_iff (ref : q.xTEDref = some k) :
    walkSends q l 0 0 = q.repliesAt l k ↔ IndexAgrees q l k := by
  rw [walkSends_eq_served ref]
  constructor
  · intro same
    cases served : servedAs q l k with
    | none =>
        rw [served] at same
        exact .inr ⟨same.symm, fun j h => by rw [served] at h; cases h⟩
    | some j =>
        rw [served, Option.elim_some] at same
        cases sent : q.repliesAt l j with
        | nil =>
            refine .inr ⟨same ▸ sent, fun i h => ?_⟩
            obtain rfl : j = i := Option.some.inj (served.symm.trans h)
            exact sent
        | cons e es =>
            have memJ : e ∈ q.repliesAt l j := sent ▸ List.mem_cons_self
            obtain ⟨_, _, tagJ⟩ := mem_repliesAt memJ
            obtain ⟨_, _, tagK⟩ := mem_repliesAt (same ▸ memJ)
            obtain rfl : j = k := by
              rw [tagJ] at tagK
              injection tagK
            exact .inl (servedAs_eq_self_iff.mp served).2
  · rintro (unskipped | ⟨nothing, servedNothing⟩)
    · by_cases bound : k < l.length
      · rw [servedAs_eq_self_iff.mpr ⟨bound, unskipped⟩]
        rfl
      · have beyond : ∀ {i : Nat}, k ≤ i → q.repliesAt l i = [] := fun le => by
          rw [repliesAt, List.getElem?_eq_none (by omega)]
          rfl
        rw [beyond (Nat.le_refl k)]
        cases served : servedAs q l k with
        | none => rfl
        | some j => exact beyond (le_servedAs served)
    · rw [nothing]
      cases served : servedAs q l k with
      | none => rfl
      | some j => exact servedNothing j served

end Replies

end ReqRegCall

/-! ### The handler -/

/-- The effect is an `SDMRegInfo` that reports a match. -/
def Effect.isRegInfo : Effect → Bool
  | .regInfo _ _ _ => true
  | _ => false

namespace DMState

open ReqRegCall

variable {τ : Type} [XTEDS τ] {q : ReqRegCall} {st st' : DMState τ} {out : List Effect} {k : Nat}

theorem postInactive_no_regInfo {taskManager : SDMComponentID} {l l' : XTEDSLibraryList τ}
    {m : List Nat} (posted : postInactive taskManager l m = some (l', out)) :
    out.filter Effect.isRegInfo = [] := by
  induction l generalizing m l' out with
  | nil =>
      cases posted
      rfl
  | cons s rest ih =>
      cases m with
      | nil =>
          cases posted
          rfl
      | cons n m =>
          obtain ⟨head, first, posted⟩ := Option.bind_eq_some_iff.mp posted
          obtain ⟨tail, others, same⟩ := Option.map_eq_some_iff.mp posted
          cases same
          have none : head.2.filter Effect.isRegInfo = [] := by
            split at first
            · obtain ⟨sent, task, rfl⟩ := Option.map_eq_some_iff.mp first
              unfold postTask at task
              split at task
              · cases task
                rfl
              · obtain ⟨name, _, rfl⟩ := Option.map_eq_some_iff.mp task
                rfl
            · cases first
              rfl
          rw [List.filter_append, none, ih others, List.nil_append]

/-- The walk of the handler. -/
theorem walk_from_start {l : XTEDSLibraryList τ} (ref : q.xTEDref = some k)
    (searchable : Searchable q l) :
    ∃ ended, walk q l 0 0 (List.replicate l.length 0) [] = some ended ∧
      ended.sent = walkSends q l 0 0 :=
  walk_sent ref searchable

/-- The matches that the handler reports are those the walk sends. -/
theorem regInfos_reqReg (ref : q.xTEDref = some k) (searchable : Searchable q st.xTEDSList)
    (done : reqReg q st = some (st', out)) :
    out.filter Effect.isRegInfo = walkSends q st.xTEDSList 0 0 := by
  have notExhaustive : ¬ (q.msg.reply ≠ SDM_REQREG_CURRENT ∧ q.xTEDref = none) := by
    rw [ref]
    rintro ⟨_, absurd⟩
    cases absurd
  obtain ⟨ended, walked, sent⟩ := walk_from_start ref searchable
  have replies : (walkSends q st.xTEDSList 0 0).filter Effect.isRegInfo =
      walkSends q st.xTEDSList 0 0 := by
    rw [walkSends_eq_served ref]
    cases servedAs q st.xTEDSList k with
    | none => rfl
    | some j =>
        apply List.filter_eq_self.mpr
        intro e mem
        obtain ⟨_, _, rfl⟩ := mem_repliesAt mem
        rfl
  rw [reqReg, if_neg notExhaustive, reqRegSearch, walked, Option.bind_some] at done
  cases ended with
  | returned now =>
      cases done
      exact (congrArg _ sent).trans replies
  | finished m now =>
      obtain rfl : now = walkSends q st.xTEDSList 0 0 := sent
      dsimp only at done
      split at done
      · rename_i nothing
        obtain ⟨posted, posting, same⟩ := Option.map_eq_some_iff.mp done
        cases same
        rw [List.filter_append, postInactive_no_regInfo posting, nothing]
        rfl
      · cases done
        rw [List.filter_append, replies]
        exact List.append_nil _

/-- **When the replies follow the slot index.** For every registry and every
request for slot `k` the walk ends, the handler reports what the walk sends, and
these are the replies owed for the slot at list position `k`, and for no other,
exactly when `IndexAgrees` holds. -/
theorem replies_follow_index_iff (ref : q.xTEDref = some k)
    (searchable : Searchable q st.xTEDSList) :
    ∃ ended, walk q st.xTEDSList 0 0 (List.replicate st.xTEDSList.length 0) [] = some ended ∧
      (∀ st' out, reqReg q st = some (st', out) → out.filter Effect.isRegInfo = ended.sent) ∧
      (ended.sent = q.repliesAt st.xTEDSList k ↔ IndexAgrees q st.xTEDSList k) := by
  obtain ⟨ended, walked, sent⟩ := walk_from_start ref searchable
  refine ⟨ended, walked, fun st' out done => ?_, ?_⟩
  · rw [sent]
    exact regInfos_reqReg ref searchable done
  · rw [sent]
    exact walkSends_eq_repliesAt_iff ref

/-- A slot with one message in its document. -/
def reportingSlot (sensorID : UInt32) (available : Bool) : XTEDSLibrary NamedDocument :=
  { (XTEDSLibrary.new : XTEDSLibrary NamedDocument) with
    available := available
    active := !available
    id := ⟨sensorID, 1, 4000⟩
    xtedsTree := some ⟨.ofString "Sensor", [⟨⟨1, 1⟩, .ofString "<Notification id=1>", .empty⟩]⟩ }

/-- A Data Manager with these slots and no subscriptions. -/
def withSlots (l : XTEDSLibraryList NamedDocument) : DMState NamedDocument :=
  { xTEDSList := l, subscribers := [], sensorSubscriptions := [], addressDM := 1,
    taskManager := .zero }

/-- The standing query of a subscriber for all messages, run for slot `k`. -/
def allMessagesOf (k : Nat) : ReqRegCall :=
  { msg :=
      { source := .zero, destination := ⟨0, 9, 5000⟩, reply := SDM_REQREG_CURRENT, id := 3,
        device := .empty, interface := .empty, item_name := .empty, quallist := .empty }
    xTEDref := some k
    sender := ⟨0, 9, 5000⟩
    action := .MOD_NOT_APPLICABLE }

/-- Two sensors are registered, and the slot behind them is free again. -/
def twoAndFreed : XTEDSLibraryList NamedDocument :=
  [reportingSlot 0x10001 false, reportingSlot 0x10002 false, reportingSlot 0x10003 true]

/-- A registry whose only freed slot is behind the slot asked for answers for this slot. -/
theorem replies_follow_index_second :
    (walk (allMessagesOf 1) twoAndFreed 0 0 [0, 0, 0] []).map WalkEnd.sent =
      some (repliesAt (allMessagesOf 1) twoAndFreed 1) := by
  have searchable : Searchable (allMessagesOf 1) (withSlots twoAndFreed).xTEDSList := by
    intro s mem _
    rcases List.mem_cons.mp mem with rfl | mem
    · exact ⟨_, _, rfl, rfl⟩
    · rcases List.mem_pair.mp mem with rfl | rfl <;> exact ⟨_, _, rfl, rfl⟩
  obtain ⟨ended, walked, _, iff⟩ := replies_follow_index_iff (k := 1) rfl searchable
  have agrees : IndexAgrees (allMessagesOf 1) twoAndFreed 1 := by
    refine .inl fun j le s at_j skips => ?_
    obtain rfl | rfl : j = 0 ∨ j = 1 := by omega
    all_goals
      cases at_j
      exact Bool.false_ne_true skips.2
  exact (congrArg _ walked).trans (congrArg some (iff.mpr agrees))

/-- With a freed slot before it, the slot that has just registered at position 1
is never reported. -/
theorem freed_slot_shifts_replies :
    ¬ ∀ (q : ReqRegCall) (k : Nat) (st st' : DMState NamedDocument) (out : List Effect),
      q.xTEDref = some k → Searchable q st.xTEDSList → reqReg q st = some (st', out) →
        out.filter Effect.isRegInfo = q.repliesAt st.xTEDSList k := by
  intro follows
  let freed := reportingSlot 0x10001 true
  let registered := reportingSlot 0x10002 false
  have searchable : Searchable (allMessagesOf 1) [freed, registered] := by
    intro s mem _
    rcases List.mem_pair.mp mem with rfl | rfl
    · exact ⟨_, _, rfl, rfl⟩
    · exact ⟨_, _, rfl, rfl⟩
  have replies := follows (allMessagesOf 1) 1 (withSlots [freed, registered])
    (withSlots [{ freed with posted := true }, registered]) [.regInfoEmpty ⟨0, 9, 5000⟩] rfl
    searchable (by decide)
  exact absurd replies (by decide)

end DMState

end Sdm
