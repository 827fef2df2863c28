import Sdm.Common.SubscriptionManager

/-!
Copies of a `SubscriptionManager`: the copy constructor and `operator=`.

Both copy the list node by node with `deep_subcopy`. It assigns the fault id of the new node to
itself, so that a copy has the fault id of the constructor everywhere.

* `deepSubcopy_holds`: what `deep_subcopy` makes of a list.
* `addresses_eq`: whom `Publish` addresses depends on the values in the list only.
* `copy_iff`: a copy is like the original exactly when no subscription has a fault id.
-/

namespace Sdm.SubscriptionManager

open Sdm.Lib

/-- `subscription()`. -/
def Subscription.new : Subscription := ⟨.zero, .zero, .zero, false⟩

/-- `SDMData()`. -/
def newData : SDMData := ⟨.zero, .zero, 0, []⟩

/-- The assignments of `deep_subcopy`, from `p` to the new `q`. -/
def assignFields (p q : Subscription) : Subscription :=
  let q := { q with msg_id := p.msg_id }
  let q := { q with fault_id := q.fault_id }
  let q := { q with isSerreqst := p.isSerreqst }
  { q with component_id := p.component_id }

/-- `deep_subcopy`, with the addresses that `new` returns, as long as there is memory. -/
def deepSubcopy : List Nat → Option Nat → Heap Subscription →
    Except Stop (Option Nat × Heap Subscription)
  | _, none, h => .ok (none, h)
  | [], some _, _ => .error .unfinished
  | q :: rest, some p, h => do
      let node ← h.read p
      let (next, h) ← deepSubcopy rest node.next
        (h.alloc q ⟨assignFields node.value .new, none⟩)
      let h ← h.setNext q next
      .ok (some q, h)

/-- `SubscriptionManager(const SubscriptionManager &)`. -/
def copy (a : SubscriptionManager) (addresses : List Nat) : Except Stop SubscriptionManager := do
  let (sub_list, heap) ← deepSubcopy addresses a.sub_list a.heap
  .ok { my_component_id := a.my_component_id, sub_list := sub_list, dat := newData, heap := heap,
        sent := [] }

/-- `operator=`: the old list is not deleted. -/
def assign (m a : SubscriptionManager) (addresses : List Nat) :
    Except Stop SubscriptionManager := do
  let (sub_list, heap) ← deepSubcopy addresses a.sub_list a.heap
  .ok { m with my_component_id := a.my_component_id, sub_list := sub_list, heap := heap }

/-! ### The copied list -/

variable {h : Heap Subscription} {p : Option Nat} {l : List (Nat × Subscription)}
  {m c : SubscriptionManager} {id : SDMMessageID} {data : List UInt8} {result : Nat → Int}
  {rounds base : Nat} {published : Bool} {as : List Nat}

/-- What becomes of a subscription: its fault id is the one of the constructor. -/
def copied (s : Subscription) : Subscription := { s with fault_id := .zero }

/-- **What `deep_subcopy` does**: a list of the same length at the new addresses, and nothing else
changes. -/
theorem deepSubcopy_holds (holds : h.Holds p l) (fresh : ∀ a ∈ as, h a = none) (nodup : as.Nodup)
    (enough : l.length ≤ as.length) :
    ∃ q h' l', deepSubcopy as p h = .ok (q, h') ∧ h'.Holds q l' ∧
      l'.map Prod.snd = l.map (fun c => copied c.2) ∧ (∀ a ∈ l'.map Prod.fst, a ∈ as) ∧
        ∀ b ∉ as, h' b = h b := by
  induction l generalizing p h as with
  | nil =>
      obtain rfl := Heap.holds_nil.mp holds
      refine ⟨none, h, [], ?_, Heap.holds_nil.mpr rfl, rfl, nofun, fun _ _ => rfl⟩
      cases as <;> rfl
  | cons c l ih =>
      obtain ⟨a, as, rfl⟩ := List.exists_cons_of_length_pos (Nat.zero_lt_of_lt enough)
      obtain ⟨new, nodup⟩ := List.nodup_cons.mp nodup
      obtain rfl := holds.head_eq
      obtain ⟨next, here, rest, -⟩ := holds.pop
      have free : h a = none := fresh a List.mem_cons_self
      let h₁ := h.alloc a ⟨copied c.2, none⟩
      have rest₁ : h₁.Holds next l :=
        ⟨rest.chain.update (rest.notMem_of_free free) _, rest.nodup⟩
      have fresh₁ : ∀ b ∈ as, h₁ b = none := fun b mem =>
        (Function.update_of_ne (ne_of_mem_of_not_mem mem new) _ _).trans
          (fresh b (List.mem_cons_of_mem a mem))
      obtain ⟨q, h₂, l', done, copy, values, within, same⟩ :=
        ih rest₁ fresh₁ nodup (Nat.le_of_succ_le_succ enough)
      have there : h₂ a = some ⟨copied c.2, none⟩ :=
        (same a new).trans (Function.update_self ..)
      have apart : a ∉ l'.map Prod.fst := fun mem => new (within a mem)
      refine ⟨some a, Function.update h₂ a (some ⟨copied c.2, q⟩),
        (a, copied c.2) :: l', ?_, ?_, ?_,
        ?_, ?_⟩
      · rw [deepSubcopy, Heap.read_eq here]
        show (deepSubcopy as next h₁).bind _ = _
        rw [done]
        show (h₂.setNext a q).bind _ = _
        rw [Heap.setNext, there]
        rfl
      · exact ⟨⟨rfl, q, Function.update_self .., copy.chain.update apart _⟩,
          List.nodup_cons.mpr ⟨apart, copy.nodup⟩⟩
      · rw [List.map_cons, List.map_cons, values]
      · intro b mem
        obtain rfl | mem := List.mem_cons.mp mem
        · exact List.mem_cons_self
        · exact List.mem_cons_of_mem a (within b mem)
      · intro b out
        obtain ⟨other, out⟩ := not_or.mp (List.mem_cons.not.mp out)
        rw [Function.update_of_ne other, same b out]
        exact Function.update_of_ne other ..

/-! ### Whom `Publish` addresses -/

/-- Whom the loop of `Publish` addresses, and whether something is published, from the values in the
list; `count` messages have been sent before. Behind a subscription that expires the deleted node
is read. -/
def addressed (id : SDMMessageID) (result : Nat → Int) :
    Nat → List Subscription → (count : Nat) → (published : Bool) →
      Except Stop (List SDMComponentID × Bool)
  | _, [], _, published => .ok ([], published)
  | 0, _ :: _, _, _ => .error .unfinished
  | rounds + 1, s :: rest, count, published =>
      if isDue id s then
        if result count = -1 then
          (addressed id result rounds rest (count + 1) published).map fun r =>
            (s.component_id :: r.1, r.2)
        else if s.isSerreqst then .error .undefined
        else
          (addressed id result rounds rest (count + 1) true).map fun r =>
            (s.component_id :: r.1, r.2)
      else addressed id result rounds rest count published

theorem unlink_error {prev next : Option Nat} {a : Nat} {stop : Stop}
    (stopped : m.unlink prev a next = .error stop) : stop = .undefined := by
  cases prev with
  | none => cases stopped
  | some before =>
      rw [unlink, Heap.setNext] at stopped
      split at stopped
      · cases stopped
      · cases stopped
        rfl

/-- What the loop sends. -/
def sentTo (m : SubscriptionManager) (r : List SDMComponentID × Bool) :
    List (SDMComponentID × SDMData) × Bool :=
  (m.sent ++ r.1.map fun id => (id, m.dat), r.2)

/-- One more message, before the others. -/
theorem map_sentTo_send (destination : SDMComponentID)
    (r : Except Stop (List SDMComponentID × Bool)) :
    r.map (m.send destination).sentTo =
      (r.map fun r => (destination :: r.1, r.2)).map m.sentTo := by
  cases r with
  | error stop => rfl
  | ok r => simp [Except.map, sentTo, send]

/-- The loop of `Publish` over a list. -/
theorem publishLoop_addressed (id : SDMMessageID) (result : Nat → Int) (rounds : Nat)
    (prev : Option Nat) (published : Bool) (chain : m.heap.Chain p l none)
    (before : base ≤ m.sent.length) :
    (publishLoop id (fun n => result (n - base)) rounds prev p m published).map
        (fun r => (r.1.sent, r.2)) =
      (addressed id result rounds (l.map Prod.snd) (m.sent.length - base) published).map
        m.sentTo := by
  induction l generalizing p rounds prev published m with
  | nil =>
      rw [show p = none from chain]
      cases rounds <;> simp [publishLoop, addressed, Except.map, sentTo]
  | cons c l ih =>
      obtain ⟨rfl, next, here, rest⟩ := chain
      cases rounds with
      | zero => rfl
      | succ rounds =>
          rw [publishLoop_succ here, serve, List.map_cons, addressed]
          cases due : isDue id c.2 with
          | false =>
              simp only [Bool.false_eq_true, if_false, Except.bind, Heap.read_eq here]
              exact ih rounds (some c.1) published rest before
          | true =>
              have still : (m.send c.2.component_id).heap c.1 = some ⟨c.2, next⟩ := here
              have chain : (m.send c.2.component_id).heap.Chain next l none := rest
              have count : (m.send c.2.component_id).sent.length - base =
                  m.sent.length - base + 1 := by
                simp only [send, List.length_append, List.length_singleton]
                omega
              have onward (published : Bool) := ih rounds (some c.1) published chain (by
                simp only [send, List.length_append]
                omega)
              rw [count] at onward
              simp only [if_true]
              by_cases fails : result (m.sent.length - base) = -1
              · simp only [if_pos fails, Except.bind, Heap.read_eq still]
                rw [onward published, map_sentTo_send]
              · cases once : c.2.isSerreqst with
                | true =>
                    -- the node is deleted and read again
                    cases unlinked : (m.send c.2.component_id).unlink prev c.1 next with
                    | error stop =>
                        simp only [if_neg fails, if_true, bind, Except.bind,
                          unlink_error unlinked]
                        rfl
                    | ok after =>
                        simp only [if_neg fails, if_true, bind, Except.bind,
                          unlink_frees unlinked]
                        rfl
                | false =>
                    simp only [if_neg fails, Bool.false_eq_true, if_false, Except.bind,
                      Heap.read_eq still]
                    rw [onward true, map_sentTo_send]

/-- Whom a call of `Publish` addresses, and what it returns; `result` gives the results of its
sends. -/
def addresses (m : SubscriptionManager) (rounds : Nat) (id : SDMMessageID) (data : List UInt8)
    (result : Nat → Int) : Except Stop (List SDMComponentID × Bool) :=
  (m.Publish rounds id data fun n => result (n - m.sent.length)).map fun r =>
    ((r.1.sent.drop m.sent.length).map Prod.fst, r.2)

/-- **Whom `Publish` addresses** depends on the values in the list only. -/
theorem addresses_eq (holds : m.heap.Holds m.sub_list l) :
    m.addresses rounds id data result =
      if DATA_SIZE < data.length then .error .undefined
      else addressed id result rounds (l.map Prod.snd) 0 false := by
  rw [addresses, Publish]
  split
  · rfl
  · have chain : ({ m with dat := m.message id data } : SubscriptionManager).heap.Chain
        m.sub_list l none := holds.chain
    have loop := publishLoop_addressed id result rounds none false chain
      (Nat.le_refl m.sent.length)
    rw [Nat.sub_self] at loop
    have split (done : Except Stop (SubscriptionManager × Bool)) :
        done.map (fun r => ((r.1.sent.drop m.sent.length).map Prod.fst, r.2)) =
          (done.map fun r => (r.1.sent, r.2)).map fun r =>
            ((r.1.drop m.sent.length).map Prod.fst, r.2) := by
      cases done <;> rfl
    rw [split]
    refine (congrArg (Except.map _) loop).trans ?_
    cases addressed id result rounds (l.map Prod.snd) 0 false with
    | error stop => rfl
    | ok r => simp [Except.map, sentTo, Function.comp_def]

/-! ### Copies -/

/-- The copy has the subscriptions of the original in their order, and `Publish` on the copy
addresses whom `Publish` on the original would. -/
structure Copies (m c : SubscriptionManager) (l : List (Nat × Subscription)) : Prop where
  list : ∃ l', c.heap.Holds c.sub_list l' ∧ l'.map Prod.snd = l.map Prod.snd
  publishes : ∀ rounds id data result,
    c.addresses rounds id data result = m.addresses rounds id data result

/-- A copied list is like the original exactly when no subscription has a fault id. -/
theorem copies_iff {l' : List (Nat × Subscription)} (holds : m.heap.Holds m.sub_list l)
    (copy : c.heap.Holds c.sub_list l') (values : l'.map Prod.snd = l.map fun c => copied c.2) :
    Copies m c l ↔ ∀ s ∈ l, s.2.fault_id = .zero := by
  constructor
  · rintro ⟨⟨l'', copy', same⟩, -⟩ s mem
    obtain rfl := copy.unique copy'
    have fixed : l.map (fun c => copied c.2) = l.map Prod.snd := values.symm.trans same
    exact (congrArg Subscription.fault_id (List.map_inj_left.mp fixed s mem)).symm
  · intro unset
    have same : l'.map Prod.snd = l.map Prod.snd := by
      rw [values]
      refine List.map_congr_left fun s mem => ?_
      rw [copied, ← unset s mem]
    refine ⟨⟨l', copy, same⟩, fun rounds id data result => ?_⟩
    rw [addresses_eq copy, addresses_eq holds, same]

/-- **Copies**: the copy constructor and `operator=` give a manager like the original exactly when
no subscription of the original has a fault id. -/
theorem copy_iff (m target : SubscriptionManager) (l : List (Nat × Subscription)) (as : List Nat)
    (holds : m.heap.Holds m.sub_list l) (fresh : ∀ a ∈ as, m.heap a = none) (nodup : as.Nodup)
    (enough : l.length ≤ as.length) :
    ∃ c c', m.copy as = .ok c ∧ target.assign m as = .ok c' ∧
      (Copies m c l ↔ ∀ s ∈ l, s.2.fault_id = .zero) ∧
      (Copies m c' l ↔ ∀ s ∈ l, s.2.fault_id = .zero) := by
  obtain ⟨q, h', l', done, copy, values, -⟩ := deepSubcopy_holds holds fresh nodup enough
  let constructed : SubscriptionManager :=
    { my_component_id := m.my_component_id, sub_list := q, dat := newData, heap := h', sent := [] }
  let assigned : SubscriptionManager :=
    { target with my_component_id := m.my_component_id, sub_list := q, heap := h' }
  have copy' : constructed.heap.Holds constructed.sub_list l' := copy
  have copy'' : assigned.heap.Holds assigned.sub_list l' := copy
  refine ⟨constructed, assigned, ?_, ?_, copies_iff holds copy' values,
    copies_iff holds copy'' values⟩
  · rw [SubscriptionManager.copy, done]
    rfl
  · rw [assign, done]
    rfl

/-- Three subscriptions without fault ids are copied, also over a manager that has another one. -/
theorem copy_three :
    ∃ c c', three.copy [5, 4, 3] = .ok c ∧ (single true).assign three [5, 4, 3] = .ok c' ∧
      Copies three c threeNodes ∧ Copies three c' threeNodes := by
  obtain ⟨c, c', copied, assigned, constructs, assigns⟩ := copy_iff three (single true) threeNodes
    [5, 4, 3] holds_three (by decide) (by decide) (by decide)
  exact ⟨c, c', copied, assigned, constructs.mpr (by decide), assigns.mpr (by decide)⟩

/-- A manager with one subscription that has the fault message (1, 9). -/
def withFault : SubscriptionManager :=
  { single false with
    heap := fun a =>
      if a = 0 then some ⟨⟨⟨2, 1, 6000⟩, ⟨1, 7⟩, ⟨1, 9⟩, false⟩, none⟩ else none }

/-- The copy does not publish the fault message to the subscriber. -/
theorem not_copy :
    ¬ ∀ (m target : SubscriptionManager) (l : List (Nat × Subscription)) (as : List Nat),
      m.heap.Holds m.sub_list l → (∀ a ∈ as, m.heap a = none) → as.Nodup →
        l.length ≤ as.length → ∃ c c', m.copy as = .ok c ∧ target.assign m as = .ok c' ∧
          Copies m c l ∧ Copies m c' l := by
  intro copies
  obtain ⟨c, c', copied, -, same, -⟩ := copies withFault withFault
    [(0, ⟨⟨2, 1, 6000⟩, ⟨1, 7⟩, ⟨1, 9⟩, false⟩)] [1]
    ⟨⟨rfl, none, rfl, rfl⟩, List.nodup_singleton _⟩
    (fun a mem => by rw [List.mem_singleton.mp mem]; rfl) (List.nodup_singleton 1) le_rfl
  cases copied
  have addressed := same.publishes 1 ⟨1, 9⟩ [] fun _ => 0
  have original : withFault.addresses 1 ⟨1, 9⟩ [] (fun _ => 0) = .ok ([⟨2, 1, 6000⟩], true) := rfl
  rw [original] at addressed
  cases addressed

end Sdm.SubscriptionManager
