import Sdm.Common.Semaphore
import Sdm.Lib.Fifo
import Sdm.Lib.LinkedList
import Sdm.Lib.Machine

/-!
`MessageManager`: the queue between the listener threads and the readers of an application.

`AddMessage` links a message under `message_manager_lock`, signals the semaphore and counts
the message; a reader waits for the semaphore and takes the first message under the lock.
The list, the counter and the semaphore with the readers that have passed it are three
counts of the same messages.

* `queue_agrees_iff`: the three agree in every state, and the messages come out in their
  order, as long as the 16-bit semaphore does not count further than 32767 (and the counter
  not further than an `int`), and no longer.
* `queue_of_32768`: after 32768 messages that nobody has read the semaphore is negative.
-/

namespace Sdm

open Sdm.Lib

/-- `message_item`, without its link. -/
structure MessageItem where
  msg : List UInt8
  socket : Int
  tcp : Bool
  sin_family : UInt16
  sin_port : UInt16
  sin_addr : UInt32
  deriving DecidableEq

/-- The largest value of an `int`. -/
def INT_MAX : Int := 2147483647

/-- How far `AddMessage` is in its critical section. -/
inductive Adding where
  | linked
  | signalled
  deriving DecidableEq

/-- `MessageManager` with the nodes of its queue and the threads that work on it. -/
structure MessageManager where
  queue_head : Option Nat
  queue_tail : Option Nat
  heap : Heap MessageItem
  queued : Int
  max_queued : Int
  semMsgWaitQ : Sem
  /-- The listener that holds `message_manager_lock`. -/
  adding : Option Adding
  /-- The readers in `Sem::Wait`. -/
  waiting : Nat
  /-- The readers between their wait and `GetHeadEntry`. -/
  between : Nat

namespace MessageManager

variable {s s' : MessageManager} {l : List (Nat × MessageItem)} {a : Nat} {item : MessageItem}

/-- The constructor. -/
def new : MessageManager where
  queue_head := none
  queue_tail := none
  heap := fun _ => none
  queued := 0
  max_queued := 0
  semMsgWaitQ := .new 0
  adding := none
  waiting := 0
  between := 0

/-- What one step shows. -/
inductive Output where
  | nothing
  /-- A reader returns with this message. -/
  | returned (item : MessageItem)
  /-- `GetHeadEntry` has found the queue empty. -/
  | unexpectedNull
  /-- A message over the limit is sent on as a command. -/
  | forwarded (item : MessageItem)

/-- The first part of `AddMessage`, up to the links. `a` is the address that `new` returns. -/
def AddMessage (s : MessageManager) (a : Nat) (item : MessageItem) :
    Except Stop (MessageManager × Output) :=
  if s.max_queued ≠ 0 ∧ s.max_queued ≤ s.queued then .ok (s, .forwarded item)
  else
    let heap := s.heap.alloc a ⟨item, none⟩
    match s.queue_tail with
    | none => .ok ({ s with heap := heap, queue_tail := some a, queue_head := some a,
                            adding := some .linked }, .nothing)
    | some tail => do
        let heap ← heap.setNext tail (some a)
        .ok ({ s with heap := heap, queue_tail := some a, adding := some .linked }, .nothing)

/-- `GetHeadEntry`, with the copy that the reader makes of its node before it deletes it. -/
def GetHeadEntry (s : MessageManager) : Except Stop (MessageManager × Output) :=
  match s.queue_head with
  | none => .ok ({ s with between := s.between - 1 }, .unexpectedNull)
  | some temp => do
      let node ← s.heap.read temp
      .ok ({ s with queue_head := node.next
                    queue_tail := if node.next = none then none else s.queue_tail
                    queued := s.queued - 1
                    heap := s.heap.free temp
                    between := s.between - 1 }, .returned node.value)

/-- A step of one of the threads. -/
inductive Move where
  /-- A listener enters `AddMessage` with a message. -/
  | add (a : Nat) (item : MessageItem)
  /-- It signals the semaphore. -/
  | signal
  /-- It counts the message and leaves the critical section. -/
  | count
  /-- A reader calls `GetMessage`. -/
  | tryWait
  /-- A reader calls `BlockGetMessage`. -/
  | enterWait
  /-- A reader in `Sem::Wait` goes on. -/
  | passWait
  /-- A reader takes the first message. -/
  | get
  /-- `SetForwarding`. -/
  | setForwarding (count : Int)

/-- One step; none when it is undefined. -/
def step (s : MessageManager) : Move → Option (MessageManager × Output)
  | .add a item => (s.AddMessage a item).toOption
  | .signal => some ({ s with semMsgWaitQ := s.semMsgWaitQ.Signal, adding := some .signalled },
      .nothing)
  | .count =>
      if s.queued = INT_MAX then none
      else some ({ s with queued := s.queued + 1, adding := none }, .nothing)
  | .tryWait =>
      some ({ s with semMsgWaitQ := s.semMsgWaitQ.TryWait.2
                     between := if s.semMsgWaitQ.TryWait.1 then s.between + 1 else s.between },
        .nothing)
  | .enterWait =>
      some ({ s with semMsgWaitQ := s.semMsgWaitQ.enter, waiting := s.waiting + 1 }, .nothing)
  | .passWait => match s.semMsgWaitQ.pass with
      | none => some (s, .nothing)
      | some sem => some ({ s with semMsgWaitQ := sem, waiting := s.waiting - 1,
                                   between := s.between + 1 }, .nothing)
  | .get => s.GetHeadEntry.toOption
  | .setForwarding count => some ({ s with max_queued := count }, .nothing)

/-- The steps that a thread can take: `AddMessage`, `GetHeadEntry` and `SetForwarding` need
the lock, `new` returns a free address, and no limit is set. -/
def Possible (s : MessageManager) : Move → Prop
  | .add a _ => s.adding = none ∧ s.heap a = none
  | .signal => s.adding = some .linked
  | .count => s.adding = some .signalled
  | .tryWait => True
  | .enterWait => True
  | .passWait => 0 < s.waiting ∧ 0 < s.semMsgWaitQ.value
  | .get => s.adding = none ∧ 0 < s.between
  | .setForwarding count => s.adding = none ∧ count = 0

instance (s : MessageManager) : (b : Move) → Decidable (s.Possible b)
  | .add _ _ | .get | .setForwarding _ | .passWait => instDecidableAnd
  | .signal | .count => inferInstanceAs (Decidable (_ = _))
  | .tryWait | .enterWait => instDecidableTrue

/-- The semaphore and the counter can count one more message. -/
def Within (s : MessageManager) : Move → Prop
  | .signal => s.semMsgWaitQ.value ≠ 32767
  | .count => s.queued ≠ INT_MAX
  | _ => True

instance (s : MessageManager) : (b : Move) → Decidable (s.Within b)
  | .signal | .count => instDecidableNot
  | .add _ _ | .tryWait | .enterWait | .passWait | .get | .setForwarding _ => instDecidableTrue

def machine : Machine MessageManager Move Output := ⟨step⟩

/-- The log of what was queued and what the readers got. -/
def record (log : Log MessageItem) (_ : MessageManager) (a : Move) (out : Output) :
    Log MessageItem :=
  match a, out with
  | .add _ item, .nothing => log.accept item
  | .get, .returned item => log.deliver item
  | _, _ => log

/-- The three counts of the messages agree, the tail is the last node, and the messages in
the queue are those of the log that are not delivered. In its critical section `AddMessage`
has linked one message that it has not counted, and at first not signalled either. -/
structure Agrees (s : MessageManager) (log : Log MessageItem) (l : List (Nat × MessageItem)) :
    Prop where
  list : s.heap.Holds s.queue_head l
  tail : s.queue_tail = Heap.lastOf none l
  inOrder : log.InOrder
  pending : l.map Prod.snd = log.pending
  counted : s.queued + (if s.adding = none then 0 else 1) = l.length
  signalled : s.semMsgWaitQ.value + s.between + (if s.adding = some .linked then 1 else 0) =
    l.length
  positive : 0 ≤ s.semMsgWaitQ.value
  unlimited : s.max_queued = 0

/-- The counts agree for the list that the nodes form. -/
def Consistent (s : MessageManager) (log : Log MessageItem) : Prop := ∃ l, Agrees s log l

/-! ### The steps of a listener -/

variable {log : Log MessageItem} {b : Move} {out : Output}

/-- A node with the message is put behind the last one. -/
theorem addMessage_eq (item : MessageItem) (list : s.heap.Holds s.queue_head l)
    (tail : s.queue_tail = Heap.lastOf none l) (unlimited : s.max_queued = 0)
    (free : s.heap a = none) :
    ∃ heap, s.AddMessage a item =
        .ok ({ s with heap := heap, queue_tail := some a, adding := some .linked,
                      queue_head := if l = [] then some a else s.queue_head }, .nothing) ∧
      heap.Holds (if l = [] then some a else s.queue_head) (l ++ [(a, item)]) ∧
      ∀ b, b ≠ a → s.heap b = none → heap b = none := by
  rw [AddMessage, if_neg fun limit => limit.1 unlimited]
  rcases List.eq_nil_or_concat l with rfl | ⟨init, ⟨t, w⟩, rfl⟩
  · have head : s.queue_head = none := Heap.holds_nil.mp list
    rw [tail]
    rw [head] at list
    exact ⟨s.heap.alloc a ⟨item, none⟩, rfl, list.push free item,
      fun b ne free => (Function.update_of_ne ne _ _).trans free⟩
  · rw [List.concat_eq_append] at list tail ⊢
    have other : t ≠ a := by
      intro same
      have last := list.last
      rw [same, free] at last
      cases last
    have last : (s.heap.alloc a ⟨item, none⟩) t = some ⟨w, none⟩ :=
      (Function.update_of_ne other _ _).trans list.last
    have some : init ++ [(t, w)] ≠ [] := List.append_ne_nil_of_right_ne_nil _ (List.cons_ne_nil _ _)
    rw [if_neg some, tail, Heap.lastOf_append]
    refine ⟨Function.update (s.heap.alloc a ⟨item, none⟩) t (.some ⟨w, .some a⟩), ?_,
      list.append free item, fun b ne free => ?_⟩
    · simp only [Heap.setNext, last]
      rfl
    · have apart : b ≠ t := fun same => by rw [same, list.last] at free; cases free
      rw [Function.update_of_ne apart]
      exact (Function.update_of_ne ne _ _).trans free

theorem Agrees.add (agrees : Agrees s log l) (item : MessageItem) (idle : s.adding = none)
    (free : s.heap a = none) :
    ∃ heap s', s.step (.add a item) = some (s', .nothing) ∧
      s' = { s with heap := heap, queue_tail := some a, adding := some .linked,
                    queue_head := if l = [] then some a else s.queue_head } ∧
      Agrees s' (log.accept item) (l ++ [(a, item)]) ∧
      ∀ b, b ≠ a → s.heap b = none → heap b = none := by
  obtain ⟨heap, added, list, frame⟩ :=
    addMessage_eq item agrees.list agrees.tail agrees.unlimited free
  refine ⟨heap, _, congrArg Except.toOption added, rfl, ⟨list, ?_, agrees.inOrder.accept, ?_,
    ?_, ?_, agrees.positive, agrees.unlimited⟩, frame⟩
  · exact (Heap.lastOf_append none l).symm
  · rw [Log.pending_accept agrees.inOrder, ← agrees.pending, List.map_append]
    rfl
  · have counted := agrees.counted
    rw [idle, if_pos rfl] at counted
    rw [List.length_append]
    show s.queued + 1 = _
    simp only [List.length_singleton]
    omega
  · have signalled := agrees.signalled
    rw [idle, if_neg (by simp)] at signalled
    rw [List.length_append]
    show s.semMsgWaitQ.value + s.between + 1 = _
    simp only [List.length_singleton]
    omega

theorem Agrees.signal (agrees : Agrees s log l) (linked : s.adding = some .linked)
    (room : s.semMsgWaitQ.value ≠ 32767) :
    Agrees { s with semMsgWaitQ := s.semMsgWaitQ.Signal, adding := some .signalled } log l := by
  have value : s.semMsgWaitQ.Signal.value = s.semMsgWaitQ.value + 1 :=
    Sem.value_signal (by have := s.semMsgWaitQ.value_le; omega)
  have counted := agrees.counted
  have signalled := agrees.signalled
  have positive := agrees.positive
  rw [linked, if_neg (by simp)] at counted
  rw [linked, if_pos rfl] at signalled
  refine ⟨agrees.list, agrees.tail, agrees.inOrder, agrees.pending, counted, ?_, ?_,
    agrees.unlimited⟩
  · show s.semMsgWaitQ.Signal.value + s.between + 0 = _
    omega
  · show 0 ≤ s.semMsgWaitQ.Signal.value
    omega

theorem Agrees.count (agrees : Agrees s log l) (signal : s.adding = some .signalled) :
    Agrees { s with queued := s.queued + 1, adding := none } log l := by
  have counted := agrees.counted
  have signalled := agrees.signalled
  rw [signal, if_neg (by simp)] at counted signalled
  refine ⟨agrees.list, agrees.tail, agrees.inOrder, agrees.pending, ?_, signalled,
    agrees.positive, agrees.unlimited⟩
  show s.queued + 1 + 0 = _
  omega

/-! ### The steps of a reader -/

/-- One reader more has passed the semaphore. -/
theorem Agrees.passed (agrees : Agrees s log l) {sem : Sem} (pos : 0 < s.semMsgWaitQ.value)
    (value : sem.value = s.semMsgWaitQ.value - 1) (n : Nat) :
    Agrees { s with semMsgWaitQ := sem, waiting := n, between := s.between + 1 } log l := by
  have signalled := agrees.signalled
  refine ⟨agrees.list, agrees.tail, agrees.inOrder, agrees.pending, agrees.counted, ?_, ?_,
    agrees.unlimited⟩
  · show sem.value + ((s.between + 1 : Nat) : Int) +
      (if s.adding = some .linked then 1 else 0) = l.length
    generalize (if s.adding = some .linked then (1 : Int) else 0) = linked at signalled ⊢
    omega
  · show 0 ≤ sem.value
    omega

/-- The reader finds a message in the queue and gets the first one. -/
theorem Agrees.get (agrees : Agrees s log l) (idle : s.adding = none) (some : 0 < s.between) :
    ∃ a item rest s', l = (a, item) :: rest ∧ s.step .get = .some (s', .returned item) ∧
      Agrees s' (log.deliver item) rest := by
  have counted := agrees.counted
  have signalled := agrees.signalled
  have positive := agrees.positive
  rw [idle, if_pos rfl] at counted
  rw [idle, if_neg (by simp)] at signalled
  cases l with
  | nil =>
      have none : s.semMsgWaitQ.value + s.between + 0 = 0 := signalled
      omega
  | cons c rest =>
      obtain ⟨a, item⟩ := c
      obtain ⟨next, here, _, kept⟩ := agrees.list.pop
      have first : log.pending = item :: rest.map Prod.snd := agrees.pending.symm
      have length : ((((a, item) :: rest).length : Nat) : Int) = rest.length + 1 := rfl
      have got : s.GetHeadEntry = .ok ({ s with
          queue_head := next
          queue_tail := if next = none then none else s.queue_tail
          queued := s.queued - 1
          heap := s.heap.free a
          between := s.between - 1 }, .returned item) := by
        rw [GetHeadEntry, agrees.list.head_eq]
        show (s.heap.read a).bind _ = _
        rw [Heap.read_eq here]
        rfl
      refine ⟨a, item, rest, _, rfl, congrArg Except.toOption got, kept, ?_,
        agrees.inOrder.deliver first,
        (Log.pending_deliver agrees.inOrder first).symm, ?_, ?_, positive, agrees.unlimited⟩
      · show (if next = none then none else s.queue_tail) = _
        cases rest with
        | nil => rw [if_pos (Heap.holds_nil.mp kept)]; rfl
        | cons d rest =>
            rw [kept.head_eq, if_neg (Option.some_ne_none _), agrees.tail]
            rfl
      · show s.queued - 1 + (if s.adding = none then 0 else 1) = _
        rw [idle, if_pos rfl]
        omega
      · show s.semMsgWaitQ.value + ((s.between - 1 : Nat) : Int) +
          (if s.adding = .some .linked then 1 else 0) = _
        rw [idle, if_neg (by simp)]
        omega

/-! ### Runs -/

/-- Between two critical sections the three counts are one number. -/
theorem Agrees.counts (agrees : Agrees s log l) (idle : s.adding = none) :
    s.queued = l.length ∧ s.semMsgWaitQ.value + s.between = s.queued ∧
      (s.queue_tail = none ↔ l = []) := by
  have counted := agrees.counted
  have signalled := agrees.signalled
  rw [idle, if_pos rfl] at counted
  rw [idle, if_neg (by simp)] at signalled
  refine ⟨by omega, by omega, ?_⟩
  rw [agrees.tail]
  rcases List.eq_nil_or_concat l with rfl | ⟨init, ⟨t, w⟩, rfl⟩
  · exact ⟨fun _ => rfl, fun _ => rfl⟩
  · rw [List.concat_eq_append, Heap.lastOf_append]
    simp

/-- One step that the counters allow. -/
theorem Consistent.step (consistent : Consistent s log) (possible : Possible s b)
    (within : Within s b) :
    ∃ s' out, s.step b = some (s', out) ∧ Consistent s' (record log s b out) := by
  obtain ⟨l, agrees⟩ := consistent
  cases b with
  | add a item =>
      obtain ⟨_, s', taken, _, kept, _⟩ := agrees.add item possible.1 possible.2
      exact ⟨s', _, taken, _, kept⟩
  | signal => exact ⟨_, _, rfl, l, agrees.signal possible within⟩
  | count => exact ⟨_, _, if_neg within, l, agrees.count possible⟩
  | tryWait =>
      refine ⟨{ s with semMsgWaitQ := s.semMsgWaitQ.TryWait.2
                       between := if s.semMsgWaitQ.TryWait.1 then s.between + 1 else s.between },
        .nothing, rfl, l, ?_⟩
      rcases s.semMsgWaitQ.tryWait_eq with ⟨taken, pos, value⟩ | missed
      · rw [if_pos taken]
        exact agrees.passed pos value s.waiting
      · rw [missed]
        exact agrees
  | enterWait =>
      exact ⟨_, _, rfl, l, agrees.list, agrees.tail, agrees.inOrder, agrees.pending,
        agrees.counted, agrees.signalled, agrees.positive, agrees.unlimited⟩
  | passWait =>
      cases passed : s.semMsgWaitQ.pass with
      | none =>
          refine ⟨s, .nothing, ?_, l, agrees⟩
          rw [MessageManager.step, passed]
      | some sem =>
          obtain ⟨pos, value⟩ := Sem.pass_eq_some passed
          refine ⟨_, .nothing, ?_, l, agrees.passed pos value (s.waiting - 1)⟩
          rw [MessageManager.step, passed]
  | get =>
      obtain ⟨a, item, rest, s', _, taken, kept⟩ := agrees.get possible.1 possible.2
      exact ⟨s', _, taken, rest, kept⟩
  | setForwarding count =>
      exact ⟨_, _, rfl, l, agrees.list, agrees.tail, agrees.inOrder, agrees.pending,
        agrees.counted, agrees.signalled, agrees.positive, possible.2⟩

/-- A step that leaves the counts in agreement was one that the counters allow. -/
theorem Consistent.within {s' : MessageManager} {out : Output} (taken : s.step b = some (s', out))
    (consistent : Consistent s' (record log s b out)) : Within s b := by
  cases b with
  | signal =>
      intro full
      obtain ⟨l, agrees⟩ := consistent
      cases taken
      have negative : ¬ (0 : Int) ≤ s.semMsgWaitQ.Signal.value := by
        rw [Sem.signal_wraps full]
        decide
      exact negative agrees.positive
  | count =>
      intro full
      rw [MessageManager.step, if_pos full] at taken
      cases taken
  | add a item => trivial
  | tryWait => trivial
  | enterWait => trivial
  | passWait => trivial
  | get => trivial
  | setForwarding count => trivial

theorem consistent_new : Consistent new Log.empty :=
  ⟨[], Heap.holds_nil.mpr rfl, rfl, Log.inOrder_empty, rfl, rfl, rfl, Int.le_refl 0, rfl⟩

/-- **The queue hands every message on, once and in order**: in every run in which the
counters do not overflow the list, the counter and the semaphore with its readers agree in
every state, and a reader that comes to `GetHeadEntry` finds its message there; after one more
step they agree exactly when that step does not overflow a counter. -/
theorem queue_agrees_iff
    (run : (machine.withGhost record).Reaches (fun q a => Possible q.1 a ∧ Within q.1 a)
      (new, Log.empty) (s, log)) :
    Consistent s log ∧
      (Possible s .get → ∃ s' item, s.step .get = some (s', .returned item)) ∧
      ∀ a, Possible s a →
        ((∃ s' out, s.step a = some (s', out) ∧ Consistent s' (record log s a out)) ↔
          Within s a) := by
  have consistent : Consistent s log :=
    run.invariant (I := fun q => Consistent q.1 q.2) consistent_new (by
      rintro ⟨s, log⟩ a ⟨s', log'⟩ out consistent ⟨possible, within⟩ taken
      obtain ⟨here, rfl⟩ := Machine.withGhost_step_eq_some.mp taken
      obtain ⟨s₁, out₁, step, kept⟩ := consistent.step possible within
      cases Option.some.inj (step.symm.trans here)
      exact kept)
  refine ⟨consistent, fun possible => ?_, fun a possible => ⟨?_, consistent.step possible⟩⟩
  · obtain ⟨l, agrees⟩ := consistent
    obtain ⟨_, item, _, s', _, taken, _⟩ := agrees.get possible.1 possible.2
    exact ⟨s', item, taken⟩
  · rintro ⟨s', out, taken, kept⟩
    exact Consistent.within taken kept

/-! ### Messages that nobody reads -/

/-- `n` messages have been added, and none was read. -/
structure Unread (n : Nat) (s : MessageManager) (log : Log MessageItem) : Prop where
  consistent : Consistent s log
  idle : s.adding = none
  value : s.semMsgWaitQ.value = n
  between : s.between = 0
  free : ∀ a, n ≤ a → s.heap a = none

theorem Unread.queued {n : Nat} (unread : Unread n s log) : s.queued = n := by
  obtain ⟨l, agrees⟩ := unread.consistent
  have counts := (agrees.counts unread.idle).2.1
  rw [unread.value, unread.between] at counts
  exact counts.symm

/-- A message more, up to the signal. -/
theorem Unread.add {n : Nat} (unread : Unread n s log) (item : MessageItem) :
    ∃ s', s.step (.add n item) = some (s', .nothing) ∧ Consistent s' (log.accept item) ∧
      s'.adding = some .linked ∧ s'.semMsgWaitQ = s.semMsgWaitQ ∧ s'.between = 0 ∧
      s'.queued = s.queued ∧ ∀ a, n + 1 ≤ a → s'.heap a = none := by
  obtain ⟨l, agrees⟩ := unread.consistent
  obtain ⟨heap, s', taken, rfl, kept, frame⟩ :=
    agrees.add item unread.idle (unread.free n (Nat.le_refl n))
  exact ⟨_, taken, ⟨_, kept⟩, rfl, rfl, unread.between, rfl, fun a le =>
    frame a (Nat.ne_of_gt le) (unread.free a (Nat.le_of_succ_le le))⟩

/-- The message after it was signalled, and after it was counted. -/
def signalled (s : MessageManager) : MessageManager :=
  { s with semMsgWaitQ := s.semMsgWaitQ.Signal, adding := some .signalled }

def counted (s : MessageManager) : MessageManager :=
  { s.signalled with queued := s.queued + 1, adding := none }

/-- The three steps of `AddMessage`. -/
theorem reaches_counted {G : MessageManager × Log MessageItem → Move → Prop}
    {p : MessageManager × Log MessageItem} {s₁ : MessageManager}
    (run : (machine.withGhost record).Reaches G p (s, log))
    (added : s.step (.add a item) = some (s₁, .nothing)) (adds : G (s, log) (.add a item))
    (signals : G (s₁, log.accept item) .signal)
    (counts : G (s₁.signalled, log.accept item) .count) (countable : s₁.queued ≠ INT_MAX) :
    (machine.withGhost record).Reaches G p (s₁.counted, log.accept item) := by
  have count : s₁.signalled.step .count = some (s₁.counted, .nothing) := if_neg countable
  have signal : s₁.step .signal = some (s₁.signalled, .nothing) := rfl
  exact .step (.step (.step run adds (Machine.withGhost_step_eq_some.mpr ⟨added, rfl⟩)) signals
    (Machine.withGhost_step_eq_some.mpr ⟨signal, rfl⟩)) counts
    (Machine.withGhost_step_eq_some.mpr ⟨count, rfl⟩)

/-- As long as the semaphore counts, messages may wait. -/
theorem reaches_unread (item : MessageItem) {n : Nat} (le : n ≤ 32767) :
    ∃ s log, (machine.withGhost record).Reaches (fun q a => Possible q.1 a ∧ Within q.1 a)
      (new, Log.empty) (s, log) ∧ Unread n s log ∧ log.accepted = List.replicate n item := by
  induction n with
  | zero => exact ⟨new, Log.empty, .start, ⟨consistent_new, rfl, rfl, rfl, fun _ _ => rfl⟩, rfl⟩
  | succ n ih =>
      obtain ⟨s, log, run, unread, accepted⟩ := ih (Nat.le_of_succ_le le)
      obtain ⟨s₁, added, ⟨l, agrees⟩, linked, sem, between, queued, free⟩ := unread.add item
      have value : s₁.semMsgWaitQ.value = n := (congrArg Sem.value sem).trans unread.value
      have possible : Possible s (.add n item) := ⟨unread.idle, unread.free n (Nat.le_refl n)⟩
      have room : s₁.semMsgWaitQ.value ≠ 32767 := by omega
      have countable : s₁.queued ≠ INT_MAX := by
        rw [queued, unread.queued, INT_MAX]
        omega
      refine ⟨_, _, reaches_counted run added ⟨possible, trivial⟩ ⟨linked, room⟩
        ⟨rfl, countable⟩ countable,
        ⟨⟨l, (agrees.signal linked room).count rfl⟩, rfl, ?_, between, free⟩, ?_⟩
      · show s₁.semMsgWaitQ.Signal.value = _
        rw [Sem.value_signal (by omega), value]
        rfl
      · show log.accepted ++ [item] = _
        rw [accepted, List.replicate_succ']

/-- A message `t`. -/
def firstMessage : MessageItem := ⟨[116], 3, false, 2, 5000, 1⟩

/-- A message `u`. -/
def secondMessage : MessageItem := ⟨[117], 3, false, 2, 5000, 1⟩

/-- A reader waits, two messages come, and the reader gets one. -/
def oneOfTwo : List Move :=
  [.enterWait, .add 1 firstMessage, .signal, .count, .add 2 secondMessage, .passWait, .signal,
    .count, .get]

/-- After `oneOfTwo` the reader has the first message, and the queue the second one. -/
theorem queue_agrees_of_two :
    ∃ s log, (machine.withGhost record).execGuarded (fun q a => Possible q.1 a ∧ Within q.1 a)
        (new, Log.empty) oneOfTwo = some (s, log) ∧
      log.accepted = [firstMessage, secondMessage] ∧ log.delivered = [firstMessage] ∧
      Consistent s log := by
  have ran : ((machine.withGhost record).execGuarded
      (fun q a => Possible q.1 a ∧ Within q.1 a) (new, Log.empty) oneOfTwo).map (·.2) =
      some ⟨[firstMessage, secondMessage], [firstMessage]⟩ := by
    rfl
  obtain ⟨⟨s, log⟩, done, logged⟩ := Option.map_eq_some_iff.mp ran
  obtain rfl : log = ⟨[firstMessage, secondMessage], [firstMessage]⟩ := logged
  exact ⟨s, _, done, rfl, rfl, (queue_agrees_iff (.execGuarded .start done)).1⟩

/-- 32768 messages have been added and none was read: the semaphore is negative, and every
reader waits. -/
theorem queue_of_32768 :
    ∃ s log, (machine.withGhost record).Reaches (fun q a => Possible q.1 a)
        (new, Log.empty) (s, log) ∧
      s.adding = none ∧ s.between = 0 ∧ s.queued = 32768 ∧ s.semMsgWaitQ.value = -32768 := by
  obtain ⟨s, log, run, unread, _⟩ :=
    reaches_unread ⟨[116], 3, false, 2, 5000, 1⟩ (n := 32767) (Nat.le_refl _)
  obtain ⟨s₁, added, _, linked, sem, between, queued, _⟩ :=
    unread.add ⟨[116], 3, false, 2, 5000, 1⟩
  have possible : Possible s (.add 32767 ⟨[116], 3, false, 2, 5000, 1⟩) :=
    ⟨unread.idle, unread.free _ (Nat.le_refl _)⟩
  have full : s₁.semMsgWaitQ.value = 32767 := (congrArg Sem.value sem).trans unread.value
  have count : s₁.queued = 32767 := queued.trans unread.queued
  have countable : s₁.queued ≠ INT_MAX := by
    rw [count]
    decide
  refine ⟨_, _, reaches_counted (run.mono fun _ _ guard => guard.1) added possible linked rfl
    countable, rfl, between, ?_, Sem.signal_wraps full⟩
  show s₁.queued + 1 = 32768
  rw [count]
  rfl

end MessageManager

end Sdm
