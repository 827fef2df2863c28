import Mathlib.Data.List.FinRange
import Mathlib.Logic.Function.Basic
import Sdm.Lib.Fifo
import Sdm.Lib.Machine
import Sdm.Message.ComponentID

/-!
The registration queue and the cancellation queue.

`SDMRegQueue` and `SDMCancelQueue` are one array queue over different items. The
head wraps to the start of the array when it is moved to the last place, the tail
only with the next `add`, and the test for a full queue knows one alignment of the two.

* `queues_in_order_iff`: a queue is first-in first-out, reports that it is empty at the
  right times and knows its size as long as the tail has not wrapped and the head has
  not passed the place before the last, and no longer.
* `size_after_99`: one item at a time, 99 times over, and the empty queue has size 99.
-/

namespace Sdm

open Sdm.Lib

/-- The number of places of a queue. -/
def SIZE : Nat := 100

/-- The queue of `SDMRegQueue` and `SDMCancelQueue`. -/
structure IndexQueue (α : Type*) where
  queue : Fin SIZE → α
  headIndex : Nat
  tailIndex : Nat
  head_lt : headIndex < SIZE - 1
  tail_lt : tailIndex < SIZE

namespace IndexQueue

variable {α : Type*}

/-- The constructor. The places of the array are as they were. -/
def new (queue : Fin SIZE → α) : IndexQueue α := ⟨queue, 0, 0, by decide, by decide⟩

/-- The test with which `add` reports that the queue is full. -/
def isFull (q : IndexQueue α) : Bool :=
  q.tailIndex + 1 = q.headIndex || (q.tailIndex + 1 = SIZE - 1 && q.headIndex = 0)

/-- The place that `add` writes to: the tail wraps here. -/
def place (q : IndexQueue α) : Nat := if q.tailIndex = SIZE - 1 then 0 else q.tailIndex

theorem place_lt (q : IndexQueue α) : q.place + 1 < SIZE := by
  have lt := q.tail_lt
  unfold place SIZE at *
  split_ifs <;> omega

/-- `add`, where the queue is not full. -/
def insert (q : IndexQueue α) (toAdd : α) : IndexQueue α where
  queue := Function.update q.queue ⟨q.place, Nat.lt_of_succ_lt q.place_lt⟩ toAdd
  headIndex := q.headIndex
  tailIndex := q.place + 1
  head_lt := q.head_lt
  tail_lt := q.place_lt

/-- `add`: a full queue is left as it is. -/
def add (q : IndexQueue α) (toAdd : α) : IndexQueue α :=
  if q.isFull then q else q.insert toAdd

/-- The head after a `dequeue`. -/
def nextHead (q : IndexQueue α) : Nat :=
  if q.headIndex + 1 = SIZE - 1 then 0 else q.headIndex + 1

theorem nextHead_lt (q : IndexQueue α) : q.nextHead < SIZE - 1 := by
  have lt := q.head_lt
  unfold nextHead SIZE at *
  split_ifs <;> omega

/-- The item at the head. -/
def front (q : IndexQueue α) : α :=
  q.queue ⟨q.headIndex, Nat.lt_of_lt_of_le q.head_lt (Nat.sub_le _ _)⟩

/-- The queue with its head moved on. -/
def advance (q : IndexQueue α) : IndexQueue α :=
  { q with headIndex := q.nextHead, head_lt := q.nextHead_lt }

/-- The item that `dequeue` takes out, or nothing where it reports that the queue is empty. -/
def dequeue (q : IndexQueue α) : Option α × IndexQueue α :=
  if q.headIndex = q.tailIndex then (none, q) else (some q.front, q.advance)

/-- `size`. -/
def size (q : IndexQueue α) : Nat :=
  if q.headIndex = q.tailIndex then 0
  else if q.headIndex < q.tailIndex then q.tailIndex - q.headIndex
  else (SIZE - q.headIndex) + q.tailIndex

/-- One of the places from `low` on and before `high` holds the item. -/
def holdsBetween [DecidableEq α] (q : IndexQueue α) (low high : Nat) (toFind : α) : Bool :=
  (List.finRange SIZE).any fun i => low ≤ i.val ∧ i.val < high ∧ q.queue i = toFind

/-- `find`. -/
def find [DecidableEq α] (q : IndexQueue α) (toFind : α) : Bool :=
  if q.headIndex < q.tailIndex then q.holdsBetween q.headIndex q.tailIndex toFind
  else if q.tailIndex < q.headIndex then
    q.holdsBetween q.headIndex SIZE toFind || q.holdsBetween 0 q.tailIndex toFind
  else false

/-! ### Sequences of calls -/

/-- A call on a queue. -/
inductive Call (α : Type*) where
  | add (toAdd : α)
  | dequeue

/-- A call, with the log of what the queue accepted and delivered. -/
def perform (s : IndexQueue α × Log α) : Call α → IndexQueue α × Log α
  | .add toAdd => (s.1.add toAdd, if s.1.isFull then s.2 else s.2.accept toAdd)
  | .dequeue => (s.1.dequeue.2, match s.1.dequeue.1 with
      | none => s.2
      | some item => s.2.deliver item)

/-- A sequence of calls on a new queue. -/
def run (queue : Fin SIZE → α) (calls : List (Call α)) : IndexQueue α × Log α :=
  calls.foldl perform (new queue, .empty)

/-- The queue is the first-in first-out queue of its log: nothing was skipped or delivered
twice, the next `dequeue` delivers what was accepted first of what is pending or reports
that the queue is empty when nothing is pending, and `size` counts what is pending. -/
structure Faithful (s : IndexQueue α × Log α) : Prop where
  inOrder : s.2.InOrder
  next : s.1.dequeue.1 = s.2.pending.head?
  empty : s.1.dequeue.1 = none ↔ s.2.delivered = s.2.accepted
  size : s.1.size = s.2.pending.length

/-- The call leaves the indexes unwrapped: it does not add behind the last place, and it
does not take the last item out of the place before the last. -/
def Unwrapped (q : IndexQueue α) : Call α → Prop
  | .add _ => q.tailIndex ≠ SIZE - 1
  | .dequeue => ¬ (q.headIndex = SIZE - 2 ∧ q.tailIndex = SIZE - 1)

/-! ### Queues whose indexes have not wrapped -/

/-- The places up to the tail hold what was accepted, and those up to the head were
delivered. -/
structure Straight (s : IndexQueue α × Log α) : Prop where
  inOrder : s.2.InOrder
  head : s.1.headIndex = s.2.delivered.length
  tail : s.1.tailIndex = s.2.accepted.length
  item : ∀ i : Fin SIZE, i < s.1.tailIndex → s.2.accepted[i.val]? = some (s.1.queue i)

variable {s : IndexQueue α × Log α} {call : Call α} {toAdd : α}

theorem perform_add (room : s.1.isFull = false) :
    perform s (.add toAdd) = (s.1.insert toAdd, s.2.accept toAdd) := by
  simp only [perform, add, room, Bool.false_eq_true, if_false]

theorem perform_dequeue_of_empty (empty : s.1.headIndex = s.1.tailIndex) :
    perform s .dequeue = s := by
  simp only [perform, dequeue, if_pos empty]

theorem perform_dequeue (nonempty : s.1.headIndex ≠ s.1.tailIndex) :
    perform s .dequeue = (s.1.advance, s.2.deliver s.1.front) := by
  simp only [perform, dequeue, if_neg nonempty]

theorem straight_new (queue : Fin SIZE → α) : Straight (new queue, Log.empty) :=
  ⟨Log.inOrder_empty, rfl, rfl, fun i lt => absurd lt (Nat.not_lt_zero i)⟩

theorem Straight.head_le (straight : Straight s) : s.1.headIndex ≤ s.1.tailIndex := by
  rw [straight.head, straight.tail]
  exact straight.inOrder.length_le

theorem Straight.length_pending (straight : Straight s) :
    s.2.pending.length = s.1.tailIndex - s.1.headIndex := by
  rw [Log.length_pending, straight.head, straight.tail]

/-- The first pending item stands at the head. -/
theorem Straight.pending_eq (straight : Straight s) (lt : s.1.headIndex < s.1.tailIndex) :
    ∃ rest, s.2.pending = s.1.front :: rest := by
  have first := straight.item ⟨s.1.headIndex, Nat.lt_trans lt s.1.tail_lt⟩ lt
  refine ⟨s.2.accepted.drop (s.1.headIndex + 1), ?_⟩
  obtain ⟨bound, item⟩ := List.getElem?_eq_some_iff.mp first
  rw [Log.pending, ← straight.head, List.drop_eq_getElem_cons bound, item]
  rfl

theorem Straight.dequeue_eq (straight : Straight s) :
    s.1.dequeue.1 = s.2.pending.head? := by
  by_cases empty : s.1.headIndex = s.1.tailIndex
  · have none : s.2.pending = [] := by
      apply List.length_eq_zero_iff.mp
      rw [straight.length_pending, empty, Nat.sub_self]
    rw [dequeue, if_pos empty, none]
    rfl
  · obtain ⟨rest, pending⟩ :=
      straight.pending_eq (Nat.lt_of_le_of_ne straight.head_le empty)
    rw [dequeue, if_neg empty, pending]
    rfl

theorem Straight.faithful (straight : Straight s) : Faithful s where
  inOrder := straight.inOrder
  next := straight.dequeue_eq
  empty := by
    rw [straight.dequeue_eq, List.head?_eq_none_iff]
    exact Log.pending_eq_nil_iff straight.inOrder
  size := by
    rw [straight.length_pending, IndexQueue.size]
    have le := straight.head_le
    split_ifs <;> omega

/-- An item that is added before the last place stands behind the others. -/
theorem Straight.insert (straight : Straight s) (room : s.1.tailIndex ≠ SIZE - 1)
    (toAdd : α) : Straight (s.1.insert toAdd, s.2.accept toAdd) := by
  have place : s.1.place = s.1.tailIndex := if_neg room
  refine ⟨straight.inOrder.accept, straight.head, ?_, fun i lt => ?_⟩
  · show s.1.place + 1 = (s.2.accepted ++ [toAdd]).length
    rw [place, straight.tail, List.length_append]
    rfl
  · change i.val < s.1.place + 1 at lt
    show (s.2.accepted ++ [toAdd])[i.val]? = some ((s.1.insert toAdd).queue i)
    rw [place] at lt
    by_cases last : i.val = s.1.tailIndex
    · have here : i = ⟨s.1.place, Nat.lt_of_succ_lt s.1.place_lt⟩ := Fin.ext (last.trans place.symm)
      rw [last, straight.tail, List.getElem?_concat_length, here]
      simp only [IndexQueue.insert, Function.update_self]
    · have before : i.val < s.1.tailIndex := Nat.lt_of_le_of_ne (Nat.le_of_lt_succ lt) last
      have other : i ≠ ⟨s.1.place, Nat.lt_of_succ_lt s.1.place_lt⟩ := by
        intro same
        exact last ((congrArg Fin.val same).trans place)
      rw [List.getElem?_append_left (straight.tail ▸ before), straight.item i before]
      simp only [IndexQueue.insert, Function.update_of_ne other]

theorem Straight.perform (straight : Straight s) (unwrapped : Unwrapped s.1 call) :
    Straight (perform s call) := by
  cases call with
  | add toAdd =>
      cases full : s.1.isFull with
      | true =>
          have same : IndexQueue.perform s (.add toAdd) = s := by
            simp only [IndexQueue.perform, add, full, if_true]
          rw [same]
          exact straight
      | false =>
          rw [perform_add full]
          exact straight.insert unwrapped toAdd
  | dequeue =>
      by_cases empty : s.1.headIndex = s.1.tailIndex
      · rw [perform_dequeue_of_empty empty]
        exact straight
      · obtain ⟨rest, pending⟩ :=
          straight.pending_eq (Nat.lt_of_le_of_ne straight.head_le empty)
        rw [perform_dequeue empty]
        refine ⟨straight.inOrder.deliver pending, ?_, straight.tail, straight.item⟩
        have notLast : s.1.headIndex + 1 ≠ SIZE - 1 := by
          intro last
          have within := s.1.tail_lt
          have le := straight.head_le
          apply unwrapped
          unfold SIZE at *
          omega
        show s.1.nextHead = (s.2.delivered ++ [s.1.front]).length
        rw [nextHead, if_neg notLast, straight.head, List.length_append]
        rfl

/-- Once the tail has wrapped `size` is wrong. -/
theorem Straight.not_faithful_insert (straight : Straight s)
    (last : s.1.tailIndex = SIZE - 1) :
    ¬ Faithful (IndexQueue.perform s (.add toAdd)) := by
  intro faithful
  have bound := s.1.head_lt
  have room : s.1.isFull = false := by
    unfold isFull SIZE at *
    simp only [Bool.or_eq_false_iff, Bool.and_eq_false_iff, decide_eq_false_iff_not]
    omega
  rw [perform_add room] at faithful
  have pending : (s.2.accept toAdd).pending.length = SIZE - s.1.headIndex := by
    rw [Log.pending_accept straight.inOrder, List.length_append, straight.length_pending, last]
    unfold SIZE at *
    show 100 - 1 - s.1.headIndex + 1 = 100 - s.1.headIndex
    omega
  have size : (s.1.insert toAdd).size = SIZE - s.1.headIndex := faithful.size.trans pending
  have tail : (s.1.insert toAdd).tailIndex = 1 := congrArg (· + 1) (if_pos last)
  have head : (s.1.insert toAdd).headIndex = s.1.headIndex := rfl
  rw [IndexQueue.size, tail, head] at size
  unfold SIZE at *
  split_ifs at size <;> omega

/-- Once the head has wrapped the empty queue has the size 99. -/
theorem Straight.not_faithful_advance (straight : Straight s)
    (head : s.1.headIndex = SIZE - 2) (tail : s.1.tailIndex = SIZE - 1) :
    ¬ Faithful (IndexQueue.perform s .dequeue) := by
  intro faithful
  have lt : s.1.headIndex < s.1.tailIndex := by
    rw [head, tail]
    decide
  obtain ⟨rest, pending⟩ := straight.pending_eq lt
  have one : rest.length = 0 := by
    have count := straight.length_pending
    rw [pending, head, tail] at count
    exact Nat.succ.inj count
  rw [perform_dequeue (Nat.ne_of_lt lt)] at faithful
  have size : s.1.advance.size = rest.length :=
    faithful.size.trans (congrArg List.length (Log.pending_deliver straight.inOrder pending))
  have wrapped : s.1.advance.headIndex = 0 := by
    show s.1.nextHead = 0
    rw [nextHead, head]
    rfl
  have same : s.1.advance.tailIndex = SIZE - 1 := tail
  rw [IndexQueue.size, wrapped, same, one] at size
  exact absurd size (by decide)

theorem Straight.not_faithful (straight : Straight s) (wraps : ¬ Unwrapped s.1 call) :
    ¬ Faithful (IndexQueue.perform s call) := by
  cases call with
  | add toAdd => exact straight.not_faithful_insert (not_not.mp wraps)
  | dequeue =>
      obtain ⟨head, tail⟩ := not_not.mp wraps
      exact straight.not_faithful_advance head tail

/-- A sequence of calls keeps the queue first-in first-out exactly as long as it leaves
the indexes unwrapped. -/
theorem faithful_iff (queue : Fin SIZE → α) (calls : List (Call α)) :
    (∀ done, done <+: calls → Faithful (run queue done)) ↔
      ∀ done call, done ++ [call] <+: calls → Unwrapped (run queue done).1 call :=
  Machine.prefixes_iff (G := fun (s : IndexQueue α × Log α) call => Unwrapped s.1 call)
    (straight_new queue) (fun _ => Straight.faithful) (fun _ _ _ => Straight.perform)
    (fun _ _ _ => Straight.not_faithful)

/-! ### One item at a time -/

/-- `n` times an item is added and taken out again. -/
def turns (item : α) : Nat → List (Call α)
  | 0 => []
  | n + 1 => turns item n ++ [.add item, .dequeue]

theorem run_append (queue : Fin SIZE → α) (calls more : List (Call α)) :
    run queue (calls ++ more) = more.foldl perform (run queue calls) :=
  List.foldl_append

/-- An item that is added to an unwrapped queue with nothing in it. -/
theorem Straight.perform_add (straight : Straight s) (toAdd : α) {n : Nat}
    (head : s.1.headIndex = n)
    (tail : s.1.tailIndex = n) (le : n ≤ SIZE - 2) :
    Straight (IndexQueue.perform s (.add toAdd)) ∧
      (IndexQueue.perform s (.add toAdd)).1.headIndex = n ∧
      (IndexQueue.perform s (.add toAdd)).1.tailIndex = n + 1 := by
  have before : s.1.tailIndex ≠ SIZE - 1 := by
    unfold SIZE at *
    omega
  have room : s.1.isFull = false := by
    unfold isFull SIZE at *
    simp only [Bool.or_eq_false_iff, Bool.and_eq_false_iff, decide_eq_false_iff_not]
    omega
  rw [IndexQueue.perform_add room]
  refine ⟨straight.insert before toAdd, head, ?_⟩
  show s.1.place + 1 = n + 1
  rw [IndexQueue.place, if_neg before, tail]

/-- The indexes move together until the tail has passed the last place. -/
theorem straight_turns (queue : Fin SIZE → α) (item : α) {n : Nat} (le : n ≤ SIZE - 2) :
    Straight (run queue (turns item n)) ∧ (run queue (turns item n)).1.headIndex = n ∧
      (run queue (turns item n)).1.tailIndex = n := by
  induction n with
  | zero => exact ⟨straight_new queue, rfl, rfl⟩
  | succ n ih =>
      obtain ⟨straight, head, tail⟩ := ih (Nat.le_of_succ_le le)
      obtain ⟨added, head, tail⟩ :=
        straight.perform_add item head tail (Nat.le_of_succ_le le)
      rw [turns, run_append, List.foldl_cons, List.foldl_cons, List.foldl_nil]
      generalize perform (run queue (turns item n)) (.add item) = s at added head tail
      have notLast : s.1.headIndex + 1 ≠ SIZE - 1 := by
        rw [head]
        exact Nat.ne_of_lt (Nat.lt_of_le_of_lt le (by decide))
      have taken : Straight (perform s .dequeue) :=
        added.perform fun last => notLast (congrArg (· + 1) last.1)
      have nonempty : s.1.headIndex ≠ s.1.tailIndex := by
        rw [head, tail]
        exact Nat.ne_of_lt (Nat.lt_succ_self n)
      refine ⟨taken, ?_, ?_⟩
      · rw [perform_dequeue nonempty]
        show s.1.nextHead = n + 1
        rw [nextHead, if_neg notLast, head]
      · rw [perform_dequeue nonempty]
        exact tail

end IndexQueue

/-! ### The two queues -/

/-- The queue of components that wait for their `SDMRegister`. -/
abbrev SDMRegQueue := IndexQueue SDMComponentID

namespace SDMRegQueue

/-- A sequence of calls on a new queue, whose places hold empty identifiers. -/
def run (calls : List (IndexQueue.Call SDMComponentID)) : SDMRegQueue × Log SDMComponentID :=
  IndexQueue.run (fun _ => .zero) calls

/-- `SDMRegQueue::dequeue`: an empty queue gives the empty identifier. -/
def dequeue (q : SDMRegQueue) : SDMComponentID × SDMRegQueue :=
  ((IndexQueue.dequeue q).1.getD .zero, (IndexQueue.dequeue q).2)

end SDMRegQueue

/-- A pointer to the `xTEDSParameters` of a cancellation, by the number of the object; `NULL`
is nothing. -/
abbrev XTEDSParametersPointer := Option Nat

/-- The queue of cancellations that wait for their thread. -/
abbrev SDMCancelQueue := IndexQueue XTEDSParametersPointer

namespace SDMCancelQueue

/-- A sequence of calls on a new queue, whose places hold what was in the memory. -/
def run (queue : Fin SIZE → XTEDSParametersPointer)
    (calls : List (IndexQueue.Call XTEDSParametersPointer)) :
    SDMCancelQueue × Log XTEDSParametersPointer :=
  IndexQueue.run queue calls

/-- `SDMCancelQueue::dequeue`: an empty queue gives `NULL`. -/
def dequeue (q : SDMCancelQueue) : XTEDSParametersPointer × SDMCancelQueue :=
  ((IndexQueue.dequeue q).1.getD none, (IndexQueue.dequeue q).2)

end SDMCancelQueue

/-- What a caller of a first-in first-out queue gets. -/
theorem IndexQueue.Faithful.returned {s : SDMRegQueue × Log SDMComponentID}
    (faithful : Faithful s) :
    (SDMRegQueue.dequeue s.1).1 = s.2.pending.headD .zero := by
  rw [SDMRegQueue.dequeue, faithful.next, List.headD_eq_head?_getD]

/-- **The queues are first-in first-out as long as their indexes have not wrapped**: every
state of a sequence of calls is that of a faithful queue exactly when no item is added
behind the last place and the last item is not taken out. -/
theorem queues_in_order_iff (calls : List (IndexQueue.Call SDMComponentID))
    (queue : Fin SIZE → XTEDSParametersPointer)
    (calls' : List (IndexQueue.Call XTEDSParametersPointer)) :
    ((∀ done, done <+: calls → IndexQueue.Faithful (SDMRegQueue.run done)) ↔
      ∀ done call, done ++ [call] <+: calls →
        IndexQueue.Unwrapped (SDMRegQueue.run done).1 call) ∧
    ((∀ done, done <+: calls' → IndexQueue.Faithful (SDMCancelQueue.run queue done)) ↔
      ∀ done call, done ++ [call] <+: calls' →
        IndexQueue.Unwrapped (SDMCancelQueue.run queue done).1 call) :=
  ⟨IndexQueue.faithful_iff _ calls, IndexQueue.faithful_iff queue calls'⟩

/-- The same component registers 99 times and is taken out each time: the empty queue has
size 99. -/
theorem size_after_99 :
    ¬ IndexQueue.Faithful (SDMRegQueue.run (IndexQueue.turns ⟨1, 1, 5000⟩ (98 + 1))) := by
  obtain ⟨straight, head, tail⟩ := IndexQueue.straight_turns
    (fun _ => SDMComponentID.zero) ⟨1, 1, 5000⟩ (n := 98) (by decide)
  obtain ⟨added, head, tail⟩ := straight.perform_add ⟨1, 1, 5000⟩ head tail (by decide)
  rw [SDMRegQueue.run, IndexQueue.turns, IndexQueue.run_append]
  exact added.not_faithful_advance head tail

end Sdm
