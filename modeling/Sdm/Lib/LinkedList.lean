import Mathlib.Data.List.Nodup
import Mathlib.Logic.Function.Basic

/-!
Singly linked lists on a heap.

A heap gives the node at an address, or nothing where no node is allocated: reading
or writing there is undefined. `Holds h p l` says that the nodes from the pointer `p` on
are those of `l`, the last one with a null pointer.

* `Holds.push`, `Holds.pop`: a node is put before the first one, and the first one is freed.
* `Holds.append`: a node is put behind the last one.
* `Holds.unlink`: the successor of a node is unlinked and freed.
* `Holds.setValue`: the value of a node changes.
* `search_none`, `search_some`: a search along the list finds the first node that it looks for.
-/

namespace Sdm.Lib

/-- A node with its pointer to the next one. -/
structure Node (α : Type*) where
  value : α
  next : Option Nat

/-- The allocated nodes by their address. -/
abbrev Heap (α : Type*) := Nat → Option (Node α)

/-- Why a loop over nodes did not come to its end: it touched memory that is not allocated,
or it was not given enough rounds. -/
inductive Stop where
  | undefined
  | unfinished
  deriving DecidableEq

namespace Heap

variable {α : Type*} {h h' : Heap α} {p q next : Option Nat} {l l' : List (Nat × α)} {a b : Nat}
  {v w : α} {n : Node α}

/-- Read a node. -/
def read (h : Heap α) (a : Nat) : Except Stop (Node α) :=
  match h a with
  | some n => .ok n
  | none => .error .undefined

/-- Let the node at the address point to another one. -/
def setNext (h : Heap α) (a : Nat) (next : Option Nat) : Except Stop (Heap α) :=
  match h a with
  | some n => .ok (Function.update h a (some { n with next := next }))
  | none => .error .undefined

/-- `delete`. -/
def free (h : Heap α) (a : Nat) : Heap α := Function.update h a none

/-- `new`, at an address that the allocator chose. -/
def alloc (h : Heap α) (a : Nat) (n : Node α) : Heap α := Function.update h a (some n)

theorem read_eq (here : h a = some n) : h.read a = .ok n := by
  rw [read, here]

/-- Memory that is free stays free when a node is written. -/
theorem update_of_free (here : h a = some n) (free : h b = none) (node : Option (Node α)) :
    Function.update h a node b = none := by
  rw [Function.update_of_ne, free]
  rintro rfl
  exact Option.some_ne_none n (here.symm.trans free)

theorem setNext_of_free (done : h.setNext a next = .ok h') (free : h b = none) : h' b = none := by
  rw [setNext] at done
  split at done
  · rename_i node here
    cases done
    exact update_of_free here free _
  · cases done

theorem read_free (h : Heap α) (a : Nat) : (h.free a).read a = .error .undefined := by
  rw [read, free, Function.update_self]

/-! ### Chains -/

/-- The nodes from the pointer `p` to the pointer `q`, with their addresses. -/
def Chain (h : Heap α) (p : Option Nat) : List (Nat × α) → Option Nat → Prop
  | [], q => p = q
  | (a, v) :: l, q => p = some a ∧ ∃ next, h a = some ⟨v, next⟩ ∧ Chain h next l q

/-- The list that begins at the pointer `p`. -/
structure Holds (h : Heap α) (p : Option Nat) (l : List (Nat × α)) : Prop where
  chain : Chain h p l none
  nodup : (l.map Prod.fst).Nodup

theorem Chain.congr (chain : Chain h p l q) (same : ∀ a ∈ l.map Prod.fst, h' a = h a) :
    Chain h' p l q := by
  induction l generalizing p with
  | nil => exact chain
  | cons c l ih =>
      obtain ⟨first, next, here, rest⟩ := chain
      refine ⟨first, next, (same _ List.mem_cons_self).trans here, ih rest fun a mem => ?_⟩
      exact same a (List.mem_cons_of_mem _ mem)

/-- A node that is not in the chain may change. -/
theorem Chain.update (chain : Chain h p l q) (apart : a ∉ l.map Prod.fst) (n : Option (Node α)) :
    Chain (Function.update h a n) p l q :=
  chain.congr fun _ mem => Function.update_of_ne (ne_of_mem_of_not_mem mem apart) _ _

theorem chain_append : Chain h p (l ++ l') q ↔ ∃ m, Chain h p l m ∧ Chain h m l' q := by
  induction l generalizing p with
  | nil =>
      constructor
      · intro chain
        exact ⟨p, rfl, chain⟩
      · rintro ⟨m, same, chain⟩
        rwa [show p = m from same]
  | cons c l ih =>
      constructor
      · rintro ⟨first, next, here, rest⟩
        obtain ⟨m, left, right⟩ := ih.mp rest
        exact ⟨m, ⟨first, next, here, left⟩, right⟩
      · rintro ⟨m, ⟨first, next, here, left⟩, right⟩
        exact ⟨first, next, here, ih.mpr ⟨m, left, right⟩⟩

/-! ### Lists -/

theorem holds_nil : Holds h p [] ↔ p = none :=
  ⟨fun holds => holds.chain, fun none => ⟨none, List.nodup_nil⟩⟩

/-- The pointer and the heap determine the nodes. -/
theorem Chain.unique (chain : Chain h p l none) (chain' : Chain h p l' none) : l = l' := by
  induction l generalizing p l' with
  | nil =>
      cases l' with
      | nil => rfl
      | cons c l' => exact absurd ((show p = none from chain).symm.trans chain'.1) nofun
  | cons c l ih =>
      obtain ⟨first, next, here, rest⟩ := chain
      cases l' with
      | nil => exact absurd ((show p = none from chain').symm.trans first) nofun
      | cons d l' =>
          obtain ⟨first', next', here', rest'⟩ := chain'
          have same : c.1 = d.1 := Option.some.inj (first.symm.trans first')
          rw [same] at here
          have node := Option.some.inj (here.symm.trans here')
          have values : c.2 = d.2 := congrArg Node.value node
          have pointers : next = next' := congrArg Node.next node
          rw [ih rest (pointers ▸ rest'), Prod.ext same values]

theorem Holds.unique (holds : Holds h p l) (holds' : Holds h p l') : l = l' :=
  holds.chain.unique holds'.chain

theorem Holds.head_eq (holds : Holds h p ((a, v) :: l)) : p = some a := holds.chain.1

/-- An address that is not allocated is not in the list. -/
theorem Holds.notMem_of_free (holds : Holds h p l) (free : h a = none) : a ∉ l.map Prod.fst := by
  intro mem
  obtain ⟨⟨b, v⟩, member, same⟩ := List.mem_map.mp mem
  obtain ⟨front, back, split⟩ := List.append_of_mem member
  obtain ⟨m, _, _, next, here, _⟩ := chain_append.mp (split ▸ holds.chain)
  rw [show b = a from same, free] at here
  cases here

/-- A new node before the first one. -/
theorem Holds.push (holds : Holds h p l) (free : h a = none) (v : α) :
    Holds (h.alloc a ⟨v, p⟩) (some a) ((a, v) :: l) := by
  have apart := holds.notMem_of_free free
  exact ⟨⟨rfl, p, Function.update_self _ _ _, holds.chain.update apart _⟩,
    List.nodup_cons.mpr ⟨apart, holds.nodup⟩⟩

/-- The first node is freed. -/
theorem Holds.pop (holds : Holds h p ((a, v) :: l)) :
    ∃ next, h a = some ⟨v, next⟩ ∧ Holds h next l ∧ Holds (h.free a) next l := by
  obtain ⟨_, next, here, rest⟩ := holds.chain
  obtain ⟨apart, nodup⟩ := List.nodup_cons.mp holds.nodup
  exact ⟨next, here, ⟨rest, nodup⟩, rest.update apart _, nodup⟩

/-- Where the last node points to. -/
theorem Holds.last (holds : Holds h p (l ++ [(a, v)])) : h a = some ⟨v, none⟩ := by
  obtain ⟨m, _, _, next, here, last⟩ := chain_append.mp holds.chain
  rw [here, show next = none from last]

/-- The last node is made to point somewhere. -/
theorem Holds.link (holds : Holds h p (l ++ [(b, w)])) (q : Option Nat) :
    Chain (Function.update h b (some ⟨w, q⟩)) p (l ++ [(b, w)]) q := by
  obtain ⟨m, front, here, _⟩ := chain_append.mp holds.chain
  have nodup := holds.nodup
  rw [List.map_append, List.nodup_append] at nodup
  have notFront : b ∉ l.map Prod.fst := fun mem =>
    nodup.2.2 b mem b (List.mem_singleton.mpr rfl) rfl
  exact chain_append.mpr ⟨m, front.update notFront _, here, q, Function.update_self _ _ _, rfl⟩

/-- A new node behind the last one. -/
theorem Holds.append (holds : Holds h p (l ++ [(b, w)])) (free : h a = none) (v : α) :
    Holds (Function.update (h.alloc a ⟨v, none⟩) b (some ⟨w, some a⟩)) p
      (l ++ [(b, w)] ++ [(a, v)]) := by
  have apart := holds.notMem_of_free free
  obtain ⟨m, front, here, _⟩ := chain_append.mp holds.chain
  have nodup := holds.nodup
  rw [List.map_append, List.nodup_append] at nodup
  rw [List.map_append, List.mem_append, not_or] at apart
  have other : a ≠ b := fun same => apart.2 (List.mem_singleton.mpr same)
  have notFront : b ∉ l.map Prod.fst := fun mem =>
    nodup.2.2 b mem b (List.mem_singleton.mpr rfl) rfl
  refine ⟨chain_append.mpr ⟨some a, chain_append.mpr ⟨m, ?_, here, some a, ?_, rfl⟩,
    rfl, none, ?_, rfl⟩, ?_⟩
  · exact (front.update apart.1 _).update notFront _
  · exact Function.update_self _ _ _
  · rw [Function.update_of_ne other]
    exact Function.update_self _ _ _
  · rw [List.map_append, List.nodup_append]
    refine ⟨holds.nodup, List.nodup_singleton a, fun c mem d last same => ?_⟩
    rw [List.mem_singleton.mp last] at same
    rw [show c = a from same] at mem
    exact holds.notMem_of_free free mem

/-- The successor of a node is unlinked and freed. -/
theorem Holds.unlink (holds : Holds h p (l ++ (b, w) :: (a, v) :: l')) :
    ∃ next, h a = some ⟨v, next⟩ ∧ h b = some ⟨w, some a⟩ ∧
      Holds (Heap.free (Function.update h b (some ⟨w, next⟩)) a) p (l ++ (b, w) :: l') := by
  obtain ⟨m, front, here, nextB, atB, second, next, atA, back⟩ := chain_append.mp holds.chain
  have nodup := holds.nodup
  simp only [List.map_append, List.map_cons, List.nodup_append, List.nodup_cons, List.mem_cons,
    not_or, forall_eq_or_imp] at nodup
  obtain ⟨nodupFront, ⟨⟨other, notBackB⟩, notBackA, nodupBack⟩, apart⟩ := nodup
  refine ⟨next, atA, by rw [atB, second], ?_, ?_⟩
  · have notFrontB : b ∉ l.map Prod.fst := fun mem => (apart b mem).1 rfl
    have notFrontA : a ∉ l.map Prod.fst := fun mem => (apart a mem).2.1 rfl
    refine chain_append.mpr ⟨m, (front.update notFrontB _).update notFrontA _, here, next, ?_,
      (back.update notBackB _).update notBackA _⟩
    rw [Heap.free, Function.update_of_ne other, Function.update_self]
  · simp only [List.map_append, List.map_cons, List.nodup_append, List.nodup_cons, List.mem_cons,
      forall_eq_or_imp]
    exact ⟨nodupFront, ⟨notBackB, nodupBack⟩, fun c mem => ⟨(apart c mem).1, (apart c mem).2.2⟩⟩

/-- The value of a node changes. -/
theorem Holds.setValue (holds : Holds h p (l ++ (a, v) :: l')) (w : α) :
    ∃ next, h a = some ⟨v, next⟩ ∧ Chain h next l' none ∧
      Holds (Function.update h a (some ⟨w, next⟩)) p (l ++ (a, w) :: l') := by
  obtain ⟨m, front, here, next, atA, back⟩ := chain_append.mp holds.chain
  have nodup := holds.nodup
  simp only [List.map_append, List.map_cons, List.nodup_append, List.nodup_cons, List.mem_cons,
    forall_eq_or_imp] at nodup
  obtain ⟨nodupFront, ⟨notBack, nodupBack⟩, apart⟩ := nodup
  have notFront : a ∉ l.map Prod.fst := fun mem => (apart a mem).1 rfl
  refine ⟨next, atA, back, chain_append.mpr ⟨m, front.update notFront _, here, next,
    Function.update_self _ _ _, back.update notBack _⟩, ?_⟩
  simp only [List.map_append, List.map_cons, List.nodup_append, List.nodup_cons, List.mem_cons,
    forall_eq_or_imp]
  exact ⟨nodupFront, ⟨notBack, nodupBack⟩, apart⟩

/-- A node of the list is allocated. -/
theorem Holds.alloc_of_mem (holds : Holds h p l) (mem : (a, v) ∈ l) :
    ∃ next, h a = some ⟨v, next⟩ := by
  obtain ⟨front, back, rfl⟩ := List.append_of_mem mem
  obtain ⟨next, here, _⟩ := holds.setValue v
  exact ⟨next, here⟩

/-- The addresses of the nodes from the pointer on, as many as there are rounds. -/
def walk (h : Heap α) : Nat → Option Nat → List Nat
  | 0, _ => []
  | _, none => []
  | rounds + 1, some cur =>
      match h cur with
      | none => [cur]
      | some node => cur :: walk h rounds node.next

theorem Chain.walk {rounds : Nat} (chain : Chain h p l none) (enough : l.length ≤ rounds) :
    h.walk rounds p = l.map Prod.fst := by
  induction l generalizing p rounds with
  | nil =>
      obtain rfl : p = none := chain
      cases rounds <;> rfl
  | cons c l ih =>
      obtain ⟨rfl, next, here, rest⟩ := chain
      obtain ⟨rounds, rfl⟩ := Nat.exists_eq_succ_of_ne_zero
        (Nat.ne_of_gt (Nat.zero_lt_of_lt enough))
      rw [Heap.walk, here, List.map_cons, ← ih rest (Nat.le_of_succ_le_succ enough)]

/-! ### Searching -/

/-- Walk along the list to the first node that `hit` accepts. The result is that node with
the pointer to the one before it. -/
def search (h : Heap α) (hit : α → Bool) : Nat → Option Nat → Option Nat →
    Except Stop (Option (Option Nat × Nat × Node α))
  | _, _, none => .ok none
  | 0, _, some _ => .error .unfinished
  | rounds + 1, prev, some cur => do
      let node ← h.read cur
      if hit node.value then .ok (some (prev, cur, node))
      else search h hit rounds (some cur) node.next

/-- The pointer to the last of some nodes that come behind `prev`. -/
def lastOf (prev : Option Nat) : List (Nat × α) → Option Nat
  | [] => prev
  | (a, _) :: l => lastOf (some a) l

theorem lastOf_append (prev : Option Nat) (l : List (Nat × α)) :
    lastOf prev (l ++ [(a, v)]) = some a := by
  induction l generalizing prev with
  | nil => rfl
  | cons c l ih => exact ih (some c.1)

variable {hit : α → Bool} {rounds : Nat} {prev : Option Nat}

theorem search_none (chain : Chain h p l none) (misses : ∀ c ∈ l, hit c.2 = false)
    (enough : l.length ≤ rounds) : search h hit rounds prev p = .ok none := by
  induction l generalizing p prev rounds with
  | nil =>
      rw [show p = none from chain]
      cases rounds <;> rfl
  | cons c l ih =>
      obtain ⟨rfl, next, here, rest⟩ := chain
      cases rounds with
      | zero => exact absurd enough (Nat.not_succ_le_zero _)
      | succ rounds =>
          have miss : hit c.2 = false := misses c List.mem_cons_self
          have onward : search h hit rounds (some c.1) next = .ok none := ih rest
            (fun d mem => misses d (List.mem_cons_of_mem _ mem)) (Nat.le_of_succ_le_succ enough)
          rw [search, read_eq here]
          show (if hit c.2 then _ else _ : Except Stop _) = _
          rw [miss]
          exact onward

theorem search_some (prev : Option Nat) (chain : Chain h p (l ++ (a, v) :: l') none)
    (misses : ∀ c ∈ l, hit c.2 = false) (hits : hit v = true) (enough : l.length < rounds) :
    ∃ next, h a = some ⟨v, next⟩ ∧
      search h hit rounds prev p = .ok (some (lastOf prev l, a, ⟨v, next⟩)) := by
  induction l generalizing p prev rounds with
  | nil =>
      obtain ⟨rfl, next, here, _⟩ := chain
      refine ⟨next, here, ?_⟩
      obtain ⟨rounds, rfl⟩ := Nat.exists_eq_succ_of_ne_zero (Nat.ne_of_gt enough)
      rw [search, read_eq here]
      show (if hit v then _ else _ : Except Stop _) = _
      rw [if_pos hits]
      rfl
  | cons c l ih =>
      obtain ⟨rfl, next, here, rest⟩ := chain
      cases rounds with
      | zero => exact absurd enough (Nat.not_lt_zero _)
      | succ rounds =>
          have miss : hit c.2 = false := misses c List.mem_cons_self
          obtain ⟨after, there, onward⟩ := ih (some c.1) rest
            (fun d mem => misses d (List.mem_cons_of_mem _ mem)) (Nat.lt_of_succ_lt_succ enough)
          refine ⟨after, there, ?_⟩
          rw [search, read_eq here]
          show (if hit c.2 then _ else _ : Except Stop _) = _
          rw [miss]
          exact onward

end Heap

end Sdm.Lib
