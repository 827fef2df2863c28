import Sdm.Lib.LinkedList
import Sdm.Message.Marshalling
import Sdm.Message.Requests

/-!
`SubscriptionManager`: the subscribers of a provider, and what it publishes to them.

The subscriptions are a linked list on the heap. A subscription of an `SDMSerreqst` is
for one message: `Publish` unlinks and deletes it once it has sent the message, and then
goes on with the `next` pointer of the node that it has deleted. Before all that it copies
the data to a message of its own, whatever the length.

* `publish_serves_iff`: `Publish` serves the list as it should exactly when the data fits in
  the message and no subscription for one message is due.
* `AddSubscription` and `RemoveSubscription` keep the list (`add_holds`, `remove_holds`), so
  this is about every list that the manager can have.
-/

namespace Sdm

open Sdm.Lib

/-- The size of `SDMData::msg`. -/
def DATA_SIZE : Nat := BUFSIZE - 29

/-- `subscription`, without its link. -/
structure SubscriptionManager.Subscription where
  component_id : SDMComponentID
  msg_id : SDMMessageID
  fault_id : SDMMessageID
  isSerreqst : Bool
  deriving DecidableEq

/-- `SubscriptionManager` with the nodes of its list, and what it has sent. -/
structure SubscriptionManager where
  my_component_id : SDMComponentID
  sub_list : Option Nat
  dat : SDMData
  heap : Heap SubscriptionManager.Subscription
  sent : List (SDMComponentID × SDMData)

namespace SubscriptionManager

variable {m m' : SubscriptionManager} {l l' : List (Nat × Subscription)} {a : Nat}
  {id : SDMMessageID} {data : List UInt8} {result : Nat → Int} {rounds : Nat}

/-! ### The list -/

/-- The test for a subscription that there is already, and for the one to be removed:
the message id, the address and the port. -/
def isFor (msg_id : SDMMessageID) (destination : SDMComponentID) (s : Subscription) : Bool :=
  s.msg_id = msg_id ∧ s.component_id.address = destination.address ∧
    s.component_id.port = destination.port

/-- Both forms of `AddSubscription`, with the address that `new` returns: the new
subscription becomes the first of the list, unless there is one already. -/
def add (m : SubscriptionManager) (rounds a : Nat) (new : Subscription)
    (source : SDMComponentID) : Except Stop (SubscriptionManager × Bool) := do
  match ← m.heap.search (isFor new.msg_id new.component_id) rounds none m.sub_list with
  | some _ => .ok (m, false)
  | none => .ok ({ m with heap := m.heap.alloc a ⟨new, m.sub_list⟩, sub_list := some a,
                          my_component_id := source }, true)

/-- `AddSubscription(SDMSubreqst &)`. -/
def AddSubscription (m : SubscriptionManager) (rounds a : Nat) (subreqst : SDMSubreqst) :
    Except Stop (SubscriptionManager × Bool) :=
  m.add rounds a ⟨subreqst.destination, subreqst.msg_id, subreqst.fault_id, false⟩ subreqst.source

/-- `AddSubscription(SDMSerreqst &)`. -/
def AddServiceSubscription (m : SubscriptionManager) (rounds a : Nat) (serreqst : SDMSerreqst) :
    Except Stop (SubscriptionManager × Bool) :=
  m.add rounds a ⟨serreqst.destination, serreqst.reply_id, serreqst.fault_id, true⟩ serreqst.source

/-- Take the node out of the list and delete it. -/
def unlink (m : SubscriptionManager) (prev : Option Nat) (cur : Nat) (next : Option Nat) :
    Except Stop SubscriptionManager :=
  match prev with
  | none => .ok { m with sub_list := next, heap := m.heap.free cur }
  | some before => do
      let heap ← m.heap.setNext before next
      .ok { m with heap := heap.free cur }

/-- `RemoveSubscription`. -/
def RemoveSubscription (m : SubscriptionManager) (rounds : Nat) (deletesub : SDMDeletesub) :
    Except Stop (SubscriptionManager × Bool) := do
  match ← m.heap.search (isFor deletesub.msg_id deletesub.destination) rounds none m.sub_list with
  | none => .ok (m, false)
  | some (prev, cur, node) =>
      let after ← m.unlink prev cur node.next
      .ok (after, true)

/-- `delete_subptr`: the rest of the list first, then the node itself. -/
def deleteSubptr : Nat → Option Nat → Heap Subscription → Except Stop (Heap Subscription)
  | _, none, h => .ok h
  | 0, some _, _ => .error .unfinished
  | rounds + 1, some p, h => do
      let node ← h.read p
      let after ← deleteSubptr rounds node.next h
      .ok (after.free p)

/-- `ClearAllSubscriptions`. -/
def ClearAllSubscriptions (m : SubscriptionManager) (rounds : Nat) :
    Except Stop (SubscriptionManager × Bool) :=
  if m.sub_list = none then .ok (m, false)
  else do
    let heap ← deleteSubptr rounds m.sub_list m.heap
    .ok ({ m with heap := heap, sub_list := none }, true)

/-! ### Publishing -/

/-- The subscription is for the message or has it as its fault. -/
def isDue (id : SDMMessageID) (s : Subscription) : Bool := s.msg_id = id ∨ s.fault_id = id

/-- Send the data to a subscriber. -/
def send (m : SubscriptionManager) (destination : SDMComponentID) : SubscriptionManager :=
  { m with sent := m.sent ++ [(destination, m.dat)] }

/-- The body of the loop of `Publish`, for the node at `cur`. `result` gives the results of
the sends. -/
def serve (m : SubscriptionManager) (id : SDMMessageID) (result : Nat → Int)
    (prev : Option Nat) (cur : Nat) (node : Node Subscription) (published : Bool) :
    Except Stop (SubscriptionManager × Bool) :=
  if isDue id node.value then
    if result m.sent.length = -1 then .ok (m.send node.value.component_id, published)
    else if node.value.isSerreqst then do
      let after ← (m.send node.value.component_id).unlink prev cur node.next
      .ok (after, true)
    else .ok (m.send node.value.component_id, true)
  else .ok (m, published)

/-- The loop of `Publish`: at the end of a round the node is read once more. -/
def publishLoop (id : SDMMessageID) (result : Nat → Int) : Nat → Option Nat → Option Nat →
    SubscriptionManager → Bool → Except Stop (SubscriptionManager × Bool)
  | _, _, none, m, published => .ok (m, published)
  | 0, _, some _, _, _ => .error .unfinished
  | rounds + 1, prev, some cur, m, published => do
      let node ← m.heap.read cur
      let (after, published) ← m.serve id result prev cur node published
      let again ← after.heap.read cur
      publishLoop id result rounds (some cur) again.next after published

/-- `Publish(SDMMessage_ID, char *, long)`. -/
def Publish (m : SubscriptionManager) (rounds : Nat) (id : SDMMessageID) (data : List UInt8)
    (result : Nat → Int) : Except Stop (SubscriptionManager × Bool) :=
  -- `memcpy` does not look at the size of `dat.msg`
  if DATA_SIZE < data.length then .error .undefined
  else
    let dat : SDMData := { m.dat with source := m.my_component_id, msg_id := id, msg := data }
    publishLoop id result rounds none m.sub_list { m with dat := dat } false

/-! ### What the list is afterwards -/

theorem any_eq_false {hit : Subscription → Bool} (misses : ∀ c ∈ l, hit c.2 = false) :
    (l.any fun c => hit c.2) = false :=
  List.any_eq_false.mpr fun c mem => Bool.eq_false_iff.mp (misses c mem)

/-- Adding keeps the list: it is unchanged or has the new subscription before the others. -/
theorem add_holds (new : Subscription) (source : SDMComponentID)
    (holds : m.heap.Holds m.sub_list l) (free : m.heap a = none) (enough : l.length < rounds) :
    ∃ m', m.add rounds a new source =
        .ok (m', !l.any fun c => isFor new.msg_id new.component_id c.2) ∧
      m'.heap.Holds m'.sub_list
        (if l.any fun c => isFor new.msg_id new.component_id c.2 then l else (a, new) :: l) := by
  by_cases there : ∃ c ∈ l, isFor new.msg_id new.component_id c.2 = true
  · obtain ⟨c, mem, hit⟩ := there
    obtain ⟨⟨b, v⟩, front, back, misses, hits, split, _⟩ := List.exists_of_eraseP
      (p := fun c : Nat × Subscription => isFor new.msg_id new.component_id c.2) mem hit
    have some : (l.any fun c => isFor new.msg_id new.component_id c.2) = true :=
      List.any_eq_true.mpr ⟨c, mem, hit⟩
    have shorter : front.length < rounds := by
      rw [split, List.length_append] at enough
      omega
    obtain ⟨next, _, found⟩ := Heap.search_some none (split ▸ holds.chain)
      (fun c mem => Bool.eq_false_iff.mpr (misses c mem)) hits shorter
    refine ⟨m, ?_, ?_⟩
    · rw [add, found, some]
      rfl
    · rw [some]
      exact holds
  · have misses : ∀ c ∈ l, isFor new.msg_id new.component_id c.2 = false :=
      fun c mem => Bool.eq_false_iff.mpr fun hit => there ⟨c, mem, hit⟩
    refine ⟨{ m with heap := m.heap.alloc a ⟨new, m.sub_list⟩, sub_list := some a,
                     my_component_id := source }, ?_, ?_⟩
    · rw [add, Heap.search_none holds.chain misses (Nat.le_of_lt enough), any_eq_false misses]
      rfl
    · rw [any_eq_false misses]
      exact holds.push free new

/-- Taking a node out that comes behind the nodes of `front`. -/
theorem unlink_holds {front back : List (Nat × Subscription)} {v : Subscription}
    {next : Option Nat} (holds : m.heap.Holds m.sub_list (front ++ (a, v) :: back))
    (here : m.heap a = some ⟨v, next⟩) :
    ∃ m', m.unlink (Heap.lastOf none front) a next = .ok m' ∧
      m'.heap.Holds m'.sub_list (front ++ back) := by
  rcases List.eq_nil_or_concat front with rfl | ⟨init, ⟨b, w⟩, rfl⟩
  · obtain ⟨next', here', _, kept⟩ := holds.pop
    cases here.symm.trans here'
    exact ⟨_, rfl, kept⟩
  · rw [List.concat_eq_append, List.append_assoc] at *
    obtain ⟨next', here', before, kept⟩ := holds.unlink
    cases here.symm.trans here'
    rw [Heap.lastOf_append, unlink, Heap.setNext, before]
    exact ⟨_, rfl, kept⟩

/-- Removing keeps the list: the first subscription that is meant is gone. -/
theorem remove_holds (deletesub : SDMDeletesub) (holds : m.heap.Holds m.sub_list l)
    (enough : l.length < rounds) :
    ∃ m', m.RemoveSubscription rounds deletesub =
        .ok (m', l.any fun c => isFor deletesub.msg_id deletesub.destination c.2) ∧
      m'.heap.Holds m'.sub_list
        (l.eraseP fun c => isFor deletesub.msg_id deletesub.destination c.2) := by
  by_cases there : ∃ c ∈ l, isFor deletesub.msg_id deletesub.destination c.2 = true
  · obtain ⟨c, mem, hit⟩ := there
    obtain ⟨⟨b, v⟩, front, back, misses, hits, split, erased⟩ := List.exists_of_eraseP
      (p := fun c : Nat × Subscription => isFor deletesub.msg_id deletesub.destination c.2) mem hit
    have some : (l.any fun c => isFor deletesub.msg_id deletesub.destination c.2) = true :=
      List.any_eq_true.mpr ⟨c, mem, hit⟩
    have shorter : front.length < rounds := by
      rw [split, List.length_append] at enough
      omega
    obtain ⟨next, here, found⟩ := Heap.search_some none (split ▸ holds.chain)
      (fun c mem => Bool.eq_false_iff.mpr (misses c mem)) hits shorter
    obtain ⟨m', unlinked, kept⟩ := unlink_holds (split ▸ holds) here
    refine ⟨m', ?_, erased ▸ kept⟩
    rw [RemoveSubscription, found, some]
    show (m.unlink (Heap.lastOf none front) b next).bind _ = _
    rw [unlinked]
    rfl
  · have misses : ∀ c ∈ l, isFor deletesub.msg_id deletesub.destination c.2 = false :=
      fun c mem => Bool.eq_false_iff.mpr fun hit => there ⟨c, mem, hit⟩
    refine ⟨m, ?_, ?_⟩
    · rw [RemoveSubscription, Heap.search_none holds.chain misses (Nat.le_of_lt enough),
        any_eq_false misses]
      rfl
    · rw [List.eraseP_of_forall_not fun c mem => Bool.eq_false_iff.mp (misses c mem)]
      exact holds

theorem deleteSubptr_eq {h : Heap Subscription} {p : Option Nat} (chain : h.Chain p l none)
    (enough : l.length ≤ rounds) : ∃ after, deleteSubptr rounds p h = .ok after := by
  induction l generalizing p rounds with
  | nil =>
      rw [show p = none from chain]
      cases rounds <;> exact ⟨h, rfl⟩
  | cons c l ih =>
      obtain ⟨rfl, next, here, rest⟩ := chain
      cases rounds with
      | zero => exact absurd enough (Nat.not_succ_le_zero _)
      | succ rounds =>
          obtain ⟨after, deleted⟩ := ih rest (Nat.le_of_succ_le_succ enough)
          refine ⟨after.free c.1, ?_⟩
          rw [deleteSubptr, Heap.read_eq here]
          show (deleteSubptr rounds next h).bind _ = _
          rw [deleted]
          rfl

/-- Clearing leaves the empty list. -/
theorem clear_holds (holds : m.heap.Holds m.sub_list l) (enough : l.length ≤ rounds) :
    ∃ m' cleared, m.ClearAllSubscriptions rounds = .ok (m', cleared) ∧
      m'.heap.Holds m'.sub_list [] := by
  by_cases empty : m.sub_list = none
  · exact ⟨m, false, if_pos empty, Heap.holds_nil.mpr empty⟩
  · obtain ⟨after, deleted⟩ := deleteSubptr_eq holds.chain enough
    refine ⟨{ m with heap := after, sub_list := none }, true, ?_, Heap.holds_nil.mpr rfl⟩
    rw [ClearAllSubscriptions, if_neg empty, deleted]
    rfl

/-! ### What is published -/

/-- A subscription for one message, and the message is to be published. -/
def Expires (id : SDMMessageID) (s : Subscription) : Prop := isDue id s = true ∧ s.isSerreqst = true

instance : Decidable (Expires id s) := inferInstanceAs (Decidable (_ ∧ _))

/-- The message as it is sent. -/
def message (m : SubscriptionManager) (id : SDMMessageID) (data : List UInt8) : SDMData :=
  { m.dat with source := m.my_component_id, msg_id := id, msg := data }

/-- The message went once to each subscriber it is due for, and the list is the one before
without the subscriptions for one message that were served. -/
structure Serves (m m' : SubscriptionManager) (l : List (Nat × Subscription)) (id : SDMMessageID)
    (data : List UInt8) : Prop where
  sent : m'.sent = m.sent ++
    (l.filter fun c => isDue id c.2).map fun c => (c.2.component_id, m.message id data)
  list : m'.heap.Holds m'.sub_list (l.filter fun c => ¬ Expires id c.2)

section Loop

variable {p prev next : Option Nat} {published : Bool} {v : Subscription}

theorem serve_of_lasting (lasting : ¬ Expires id v) (succeeds : ∀ k, result k ≠ -1) :
    m.serve id result prev a ⟨v, next⟩ published =
      .ok (if isDue id v then (m.send v.component_id, true) else (m, published)) := by
  rw [serve]
  by_cases due : isDue id v = true
  · have once : v.isSerreqst = false := Bool.eq_false_iff.mpr fun h => lasting ⟨due, h⟩
    simp only [due, if_true, if_neg (succeeds _), once, Bool.false_eq_true, if_false]
  · simp only [if_neg due]

theorem publishLoop_succ (here : m.heap a = some ⟨v, next⟩) :
    publishLoop id result (rounds + 1) prev (some a) m published =
      (m.serve id result prev a ⟨v, next⟩ published).bind fun r => (r.1.heap.read a).bind
        fun again => publishLoop id result rounds (some a) again.next r.1 r.2 := by
  rw [publishLoop, Heap.read_eq here]
  rfl

/-- A round in which nothing is deleted. -/
theorem publishLoop_of_lasting (here : m.heap a = some ⟨v, next⟩) (lasting : ¬ Expires id v)
    (succeeds : ∀ k, result k ≠ -1) :
    publishLoop id result (rounds + 1) prev (some a) m published =
      publishLoop id result rounds (some a) next
        (if isDue id v then m.send v.component_id else m) (published || isDue id v) := by
  rw [publishLoop_succ here, serve_of_lasting lasting succeeds]
  cases due : isDue id v with
  | true =>
      have still : (m.send v.component_id).heap a = some ⟨v, next⟩ := here
      simp only [Except.bind, if_true, Heap.read_eq still, Bool.or_true]
  | false =>
      simp only [Except.bind, Bool.false_eq_true, if_false, Heap.read_eq here, Bool.or_false]

/-- A list without subscriptions that expire is served. -/
theorem publishLoop_eq (chain : m.heap.Chain p l none) (lasting : ∀ c ∈ l, ¬ Expires id c.2)
    (succeeds : ∀ k, result k ≠ -1) (enough : l.length ≤ rounds) :
    publishLoop id result rounds prev p m published =
      .ok ({ m with sent := m.sent ++
              (l.filter fun c => isDue id c.2).map fun c => (c.2.component_id, m.dat) },
        published || l.any fun c => isDue id c.2) := by
  induction l generalizing p prev published rounds m with
  | nil =>
      rw [show p = none from chain]
      cases rounds <;> simp [publishLoop]
  | cons c l ih =>
      obtain ⟨rfl, next, here, rest⟩ := chain
      cases rounds with
      | zero => exact absurd enough (Nat.not_succ_le_zero _)
      | succ rounds =>
          have others : ∀ d ∈ l, ¬ Expires id d.2 :=
            fun d mem => lasting d (List.mem_cons_of_mem _ mem)
          rw [publishLoop_of_lasting here (lasting c List.mem_cons_self) succeeds]
          cases due : isDue id c.2 with
          | true =>
              have chain : (m.send c.2.component_id).heap.Chain next l none := rest
              rw [if_pos rfl, ih chain others (Nat.le_of_succ_le_succ enough)]
              simp [send, due]
          | false =>
              rw [if_neg Bool.false_ne_true, ih rest others (Nat.le_of_succ_le_succ enough)]
              simp [due]

/-- After `unlink` the node is not allocated. -/
theorem unlink_frees (done : m.unlink prev a next = .ok m') :
    m'.heap.read a = .error .undefined := by
  cases prev with
  | none =>
      cases done
      exact Heap.read_free _ _
  | some before =>
      rw [unlink] at done
      cases written : m.heap.setNext before next with
      | error stop =>
          rw [written] at done
          cases done
      | ok heap =>
          rw [written] at done
          cases done
          exact Heap.read_free _ _

/-- The round in which a subscription expires reads the node that it has deleted. -/
theorem publishLoop_of_expires (here : m.heap a = some ⟨v, next⟩) (expires : Expires id v)
    (succeeds : ∀ k, result k ≠ -1) (r : SubscriptionManager × Bool) :
    publishLoop id result rounds prev (some a) m published ≠ .ok r := by
  cases rounds with
  | zero => exact nofun
  | succ rounds =>
      have served : m.serve id result prev a ⟨v, next⟩ published =
          ((m.send v.component_id).unlink prev a next).bind fun after => .ok (after, true) := by
        simp only [serve, expires.1, expires.2, if_true, if_neg (succeeds _)]
        rfl
      rw [publishLoop_succ here, served]
      cases unlinked : (m.send v.component_id).unlink prev a next with
      | error stop => exact nofun
      | ok after =>
          simp only [Except.bind, unlink_frees unlinked]
          exact nofun

/-- A list with a subscription that expires is not served to its end. -/
theorem publishLoop_ne_ok (chain : m.heap.Chain p l none) {c : Nat × Subscription} (mem : c ∈ l)
    (expires : Expires id c.2) (succeeds : ∀ k, result k ≠ -1) (r : SubscriptionManager × Bool) :
    publishLoop id result rounds prev p m published ≠ .ok r := by
  induction l generalizing p prev published rounds m with
  | nil => exact absurd mem List.not_mem_nil
  | cons d l ih =>
      obtain ⟨rfl, next, here, rest⟩ := chain
      by_cases first : Expires id d.2
      · exact publishLoop_of_expires here first succeeds r
      · have later : c ∈ l := (List.mem_cons.mp mem).resolve_left fun same => first (same ▸ expires)
        cases rounds with
        | zero => exact nofun
        | succ rounds =>
            rw [publishLoop_of_lasting here first succeeds]
            refine ih ?_ later
            split_ifs <;> exact rest

/-- Without a subscription that is due nothing is sent. -/
theorem publishLoop_quiet (chain : m.heap.Chain p l none) (none : ∀ c ∈ l, isDue id c.2 = false)
    (enough : l.length ≤ rounds) :
    publishLoop id result rounds prev p m published = .ok (m, published) := by
  induction l generalizing p prev rounds with
  | nil =>
      rw [show p = Option.none from chain]
      cases rounds <;> rfl
  | cons c l ih =>
      obtain ⟨rfl, next, here, rest⟩ := chain
      obtain ⟨rounds, rfl⟩ := Nat.exists_eq_succ_of_ne_zero
        (Nat.ne_of_gt (Nat.zero_lt_of_lt enough))
      have served : m.serve id result prev c.1 ⟨c.2, next⟩ published = .ok (m, published) := by
        rw [serve, none c List.mem_cons_self]
        rfl
      rw [publishLoop_succ here, served]
      simp only [Except.bind, Heap.read_eq here]
      exact ih rest (fun d mem => none d (List.mem_cons_of_mem _ mem))
        (Nat.le_of_succ_le_succ enough)

/-- What a loop that comes to its end has sent, whatever became of it. -/
theorem publishLoop_sent (chain : m.heap.Chain p l none) {r : SubscriptionManager × Bool}
    (done : publishLoop id result rounds prev p m published = .ok r) :
    r.1.sent = m.sent ++ (l.filter fun c => isDue id c.2).map fun c =>
      (c.2.component_id, m.dat) := by
  induction l generalizing p prev published rounds m with
  | nil =>
      rw [show p = none from chain] at done
      cases rounds <;> cases done <;> simp
  | cons c l ih =>
      obtain ⟨rfl, next, here, rest⟩ := chain
      cases rounds with
      | zero => cases done
      | succ rounds =>
          rw [publishLoop_succ here, serve] at done
          cases due : isDue id c.2 with
          | false =>
              rw [due] at done
              simp only [Bool.false_eq_true, if_false, Except.bind, Heap.read_eq here] at done
              rw [ih rest done]
              simp [due]
          | true =>
              have still : (m.send c.2.component_id).heap c.1 = some ⟨c.2, next⟩ := here
              have chain : (m.send c.2.component_id).heap.Chain next l none := rest
              have onward {published : Bool} (done : publishLoop id result rounds (some c.1) next
                  (m.send c.2.component_id) published = .ok r) : r.1.sent = m.sent ++
                    ((c :: l).filter fun c => isDue id c.2).map fun c =>
                      (c.2.component_id, m.dat) := by
                rw [ih chain done]
                simp [send, due]
              simp only [due, if_true] at done
              split at done
              · simp only [Except.bind, Heap.read_eq still] at done
                exact onward done
              · split at done
                · cases unlinked : (m.send c.2.component_id).unlink prev c.1 next with
                  | error stop =>
                      rw [unlinked] at done
                      cases done
                  | ok after =>
                      rw [unlinked] at done
                      simp only [bind, Except.bind, unlink_frees unlinked] at done
                      cases done
                · simp only [Except.bind, Heap.read_eq still] at done
                  exact onward done

end Loop

/-- Data that fits in the message is published by the loop. -/
theorem publish_of_fits (fits : data.length ≤ DATA_SIZE) :
    m.Publish rounds id data result =
      publishLoop id result rounds none m.sub_list { m with dat := m.message id data } false :=
  if_neg (Nat.not_lt.mpr fits)

/-- Other data is written past the end of the message. -/
theorem fits_of_publish {r : SubscriptionManager × Bool}
    (done : m.Publish rounds id data result = .ok r) : data.length ≤ DATA_SIZE := by
  by_contra long
  rw [Publish, if_pos (Nat.lt_of_not_le long)] at done
  cases done

/-- What `Publish` has sent, when it comes to its end. -/
theorem publish_sent (holds : m.heap.Holds m.sub_list l) {r : SubscriptionManager × Bool}
    (done : m.Publish rounds id data result = .ok r) :
    r.1.sent = m.sent ++
      (l.filter fun c => isDue id c.2).map fun c => (c.2.component_id, m.message id data) := by
  have chain : ({ m with dat := m.message id data } : SubscriptionManager).heap.Chain
      m.sub_list l none := holds.chain
  rw [publish_of_fits (fits_of_publish done)] at done
  exact publishLoop_sent chain done

/-- Without a subscription that is due `Publish` sends nothing, and says so. -/
theorem publish_quiet (fits : data.length ≤ DATA_SIZE) (holds : m.heap.Holds m.sub_list l)
    (nobody : ∀ c ∈ l, isDue id c.2 = false) (enough : l.length ≤ rounds) :
    ∃ m', m.Publish rounds id data result = .ok (m', false) := by
  have chain : ({ m with dat := m.message id data } : SubscriptionManager).heap.Chain
      m.sub_list l none := holds.chain
  rw [publish_of_fits fits]
  exact ⟨_, publishLoop_quiet chain nobody enough⟩

/-- A `Publish` returns when the data fits and no subscription for one message is due. -/
theorem publish_eq (fits : data.length ≤ DATA_SIZE) (holds : m.heap.Holds m.sub_list l)
    (succeeds : ∀ k, result k ≠ -1) (enough : l.length ≤ rounds)
    (lasting : ∀ c ∈ l, ¬ Expires id c.2) :
    m.Publish rounds id data result = .ok ({ m with
      dat := m.message id data
      sent := m.sent ++
        (l.filter fun c => isDue id c.2).map fun c => (c.2.component_id, m.message id data) },
      l.any fun c => isDue id c.2) := by
  have chain : ({ m with dat := m.message id data } : SubscriptionManager).heap.Chain
      m.sub_list l none := holds.chain
  rw [publish_of_fits fits]
  exact publishLoop_eq chain lasting succeeds enough

/-- When a `Publish` returns, no subscription for one message was due. -/
theorem lasting_of_publish (holds : m.heap.Holds m.sub_list l) (succeeds : ∀ k, result k ≠ -1)
    {published : Bool} (done : m.Publish rounds id data result = .ok (m', published)) :
    ∀ c ∈ l, ¬ Expires id c.2 := by
  have chain : ({ m with dat := m.message id data } : SubscriptionManager).heap.Chain
      m.sub_list l none := holds.chain
  intro c mem expires
  rw [publish_of_fits (fits_of_publish done)] at done
  exact publishLoop_ne_ok chain mem expires succeeds _ done

/-- **`Publish` serves the list exactly when the data fits and no subscription expires**: then the
message goes once to each subscriber that it is due for and the list stays what it should be;
otherwise it writes past the end of its message, or touches a node that it has deleted. -/
theorem publish_serves_iff (holds : m.heap.Holds m.sub_list l)
    (succeeds : ∀ k, result k ≠ -1) :
    (∃ m' published, (∀ rounds, l.length ≤ rounds →
        m.Publish rounds id data result = .ok (m', published)) ∧ Serves m m' l id data) ↔
      data.length ≤ DATA_SIZE ∧ ∀ c ∈ l, ¬ Expires id c.2 := by
  constructor
  · rintro ⟨m', published, done, _⟩
    have served := done _ le_rfl
    exact ⟨fits_of_publish served, lasting_of_publish holds succeeds served⟩
  · rintro ⟨fits, lasting⟩
    refine ⟨_, _, fun rounds enough => publish_eq fits holds succeeds enough lasting, rfl, ?_⟩
    rw [List.filter_eq_self.mpr fun c mem => decide_eq_true (lasting c mem)]
    exact holds

/-! ### Two managers -/

/-- Two subscriptions for the message (1, 7), and a request for another message between them. -/
def threeNodes : List (Nat × Subscription) :=
  [(2, ⟨⟨2, 1, 6000⟩, ⟨1, 7⟩, ⟨0, 0⟩, false⟩), (1, ⟨⟨3, 1, 6001⟩, ⟨1, 8⟩, ⟨0, 0⟩, true⟩),
    (0, ⟨⟨4, 2, 6000⟩, ⟨1, 7⟩, ⟨0, 0⟩, false⟩)]

/-- The manager with these subscriptions. -/
def three : SubscriptionManager where
  my_component_id := ⟨1, 1, 5000⟩
  sub_list := some 2
  dat := ⟨.zero, .zero, 0, []⟩
  heap := ((Heap.alloc (fun _ => none) 0 ⟨⟨⟨4, 2, 6000⟩, ⟨1, 7⟩, ⟨0, 0⟩, false⟩, none⟩).alloc 1
    ⟨⟨⟨3, 1, 6001⟩, ⟨1, 8⟩, ⟨0, 0⟩, true⟩, some 0⟩).alloc 2
      ⟨⟨⟨2, 1, 6000⟩, ⟨1, 7⟩, ⟨0, 0⟩, false⟩, some 1⟩
  sent := []

theorem holds_three : three.heap.Holds three.sub_list threeNodes := by
  have empty : Heap.Holds (fun _ => none) none ([] : List (Nat × Subscription)) :=
    Heap.holds_nil.mpr rfl
  exact ((empty.push rfl _).push rfl _).push rfl _

/-- Both subscriptions are served, and the request stays. -/
theorem publish_serves_three :
    ∃ m' published, (∀ rounds, 3 ≤ rounds → three.Publish rounds ⟨1, 7⟩ [1, 2]
        (fun _ => 0) = .ok (m', published)) ∧ Serves three m' threeNodes ⟨1, 7⟩ [1, 2] :=
  (publish_serves_iff holds_three fun _ => by decide).mpr (by decide)

/-- A manager with one subscription for the message (1, 7). -/
def single (isSerreqst : Bool) : SubscriptionManager where
  my_component_id := ⟨1, 1, 5000⟩
  sub_list := some 0
  dat := ⟨.zero, .zero, 0, []⟩
  heap := fun a => if a = 0 then some ⟨⟨⟨2, 1, 6000⟩, ⟨1, 7⟩, ⟨0, 0⟩, isSerreqst⟩, none⟩ else none
  sent := []

theorem holds_single (isSerreqst : Bool) : (single isSerreqst).heap.Holds
    (single isSerreqst).sub_list [(0, ⟨⟨2, 1, 6000⟩, ⟨1, 7⟩, ⟨0, 0⟩, isSerreqst⟩)] :=
  ⟨⟨rfl, none, rfl, rfl⟩, List.nodup_singleton _⟩

/-- A subscription for one message is not served: the manager deletes its node and then reads
it. -/
theorem publish_reads_deleted :
    ¬ ∃ m' published, (∀ rounds, 1 ≤ rounds → (single true).Publish rounds ⟨1, 7⟩ [1, 2]
        (fun _ => 0) = .ok (m', published)) ∧
      Serves (single true) m' [(0, ⟨⟨2, 1, 6000⟩, ⟨1, 7⟩, ⟨0, 0⟩, true⟩)] ⟨1, 7⟩ [1, 2] := by
  rintro ⟨m', published, ran, -⟩
  have undefined : (single true).Publish 1 ⟨1, 7⟩ [1, 2] (fun _ => 0) = .error .undefined := rfl
  have served := ran 1 le_rfl
  rw [undefined] at served
  cases served

end SubscriptionManager

end Sdm
