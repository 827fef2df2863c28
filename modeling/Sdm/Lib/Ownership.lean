import Mathlib.Data.List.Perm.Subperm
import Sdm.Lib.LinkedList

/-!
Who owns the lists on a heap.

A program makes cells, links them into lists and destroys the lists. An address is given out
once, so that a cell that is touched after it was destroyed, or is destroyed twice, is seen:
that is undefined.

`Owns aside roots` says that the living cells are those of the lists from the pointers in `roots`,
each in one list, and those that are set aside with what is in them. A cell that is set aside may
be in no list, be destroyed, or be pointed to from several places.

* `Does`, `Fails`, `Exact`: what a program does from such a state, and exactly when it comes to its
  end.
* `new_does`, `join_does`, `delete_does`, `walk_does`: the operations on lists.
* `foldlM_exact`: a loop that carries a value along.
-/

namespace Sdm.Lib

/-- The cells, and the first address that was not given out. -/
structure Store (α : Type*) where
  heap : Heap α
  fresh : Nat

/-- A program that makes, uses and destroys cells. -/
abbrev Owning (α β : Type) := StateT (Store α) (Except Stop) β

/-- Nothing was made yet. -/
def Store.empty {α : Type} : Store α := ⟨fun _ => none, 0⟩

namespace Owning

variable {α : Type}

/-! ### The operations -/

/-- `new`. -/
def new (v : α) : Owning α Nat := fun s =>
  .ok (s.fresh, ⟨s.heap.alloc s.fresh ⟨v, none⟩, s.fresh + 1⟩)

/-- The pointer to the next cell. -/
def next (a : Nat) : Owning α (Option Nat) := fun s =>
  (s.heap.read a).map fun node => (node.next, s)

/-- Let the cell point to another one. -/
def setNext (a : Nat) (q : Option Nat) : Owning α Unit := fun s =>
  (s.heap.setNext a q).map fun heap => ((), { s with heap := heap })

/-- `free`, of one cell that is still there. NULL is left alone. -/
def free : Option Nat → Owning α Unit
  | none => pure ()
  | some a => fun s => (s.heap.read a).map fun _ => ((), { s with heap := s.heap.free a })

/-- A member function that only reads the cell. -/
def use (a : Nat) : Owning α Unit := do
  let _ ← next a

/-- A loop over the cells of a list. -/
def walkFor : Nat → Option Nat → Owning α Unit
  | _, none => pure ()
  | 0, some _ => throw .unfinished
  | rounds + 1, some a => do walkFor rounds (← next a)

def walk (p : Option Nat) : Owning α Unit := do walkFor (← get).fresh p

/-- A loop to the last cell of a list. -/
def lastFor : Nat → Nat → Owning α Nat
  | 0, _ => throw .unfinished
  | rounds + 1, a => do
      match ← next a with
      | none => return a
      | some b => lastFor rounds b

/-- Link a list behind another one. NULL is not linked. -/
def join (a : Nat) : Option Nat → Owning α Unit
  | none => pure ()
  | some b => do setNext (← lastFor (← get).fresh a) (some b)

/-- `delete`, where the destructor of a cell deletes the next one. -/
def deleteFor : Nat → Option Nat → Owning α Unit
  | _, none => pure ()
  | 0, some _ => throw .unfinished
  | rounds + 1, some a => do
      deleteFor rounds (← next a)
      free (some a)

def delete (p : Option Nat) : Owning α Unit := do deleteFor (← get).fresh p

/-- The first list is taken as it is made, and a later one is joined to it. -/
def joinOnto (Def : Option Nat) (make : Owning α (Option Nat)) : Owning α (Option Nat) :=
  match Def with
  | none => make
  | some a => do
      join a (← make)
      return some a

/-! ### Programs -/

section Programs

variable {β γ ι : Type} {P P' : Store α → Prop} {x : Owning α β} {f : β → Owning α γ}
  {Q Q' : β → Store α → Prop} {R : γ → Store α → Prop} {good good' : Prop}

/-- From a state with `P` the program comes to its end, with `Q`. -/
def Does (P : Store α → Prop) (x : Owning α β) (Q : β → Store α → Prop) : Prop :=
  ∀ s, P s → ∃ b s', x s = .ok (b, s') ∧ Q b s'

/-- From no state with `P` the program comes to its end. -/
def Fails (P : Store α → Prop) (x : Owning α β) : Prop := ∀ s, P s → ∃ e, x s = .error e

/-- The program comes to its end exactly where `good` holds, and then with `Q`. -/
structure Exact (good : Prop) (P : Store α → Prop) (x : Owning α β) (Q : β → Store α → Prop) :
    Prop where
  does : good → Does P x Q
  fails : ¬ good → Fails P x

theorem bind_of_ok {b : β} {s s' : Store α} (run : x s = .ok (b, s')) : (x >>= f) s = f b s' := by
  show (x s >>= fun r => f r.1 r.2) = _
  rw [run]
  rfl

theorem bind_of_error {e : Stop} {s : Store α} (run : x s = .error e) :
    (x >>= f) s = .error e := by
  show (x s >>= fun r => f r.1 r.2) = _
  rw [run]
  rfl

theorem does_pure {b : β} : Does (Q b) (pure b : Owning α β) Q := fun s holds => ⟨b, s, rfl, holds⟩

theorem fails_throw (e : Stop) : Fails P (throw e : Owning α β) := fun _ _ => ⟨e, rfl⟩

theorem Does.bind (first : Does P x Q) (later : ∀ b, Does (Q b) (f b) R) :
    Does P (x >>= f) R := by
  intro s holds
  obtain ⟨b, s', run, between⟩ := first s holds
  obtain ⟨c, s'', run', after⟩ := later b s' between
  exact ⟨c, s'', (bind_of_ok run).trans run', after⟩

theorem Fails.bind (first : Fails P x) : Fails P (x >>= f) := by
  intro s holds
  obtain ⟨e, run⟩ := first s holds
  exact ⟨e, bind_of_error run⟩

theorem Does.bind_fails (first : Does P x Q) (later : ∀ b, Fails (Q b) (f b)) :
    Fails P (x >>= f) := by
  intro s holds
  obtain ⟨b, s', run, between⟩ := first s holds
  obtain ⟨e, run'⟩ := later b s' between
  exact ⟨e, (bind_of_ok run).trans run'⟩

/-- A value that is known not to be NULL. -/
theorem does_of_some {x : Option β → Owning α γ} {p : Option β}
    (does : ∀ b, Does (Q b) (x (some b)) R) :
    Does (fun s => ∃ b, p = some b ∧ Q b s) (x p) R := by
  rintro s ⟨b, rfl, holds⟩
  exact does b s holds

theorem fails_of_some {x : Option β → Owning α γ} {p : Option β}
    (fails : ∀ b, Fails (Q b) (x (some b))) :
    Fails (fun s => ∃ b, p = some b ∧ Q b s) (x p) := by
  rintro s ⟨b, rfl, holds⟩
  exact fails b s holds

theorem Does.weaken (does : Does P x Q) (before : ∀ s, P' s → P s)
    (after : ∀ b s, Q b s → Q' b s) : Does P' x Q' := by
  intro s holds
  obtain ⟨b, s', run, between⟩ := does s (before s holds)
  exact ⟨b, s', run, after b s' between⟩

theorem Fails.weaken (fails : Fails P x) (before : ∀ s, P' s → P s) : Fails P' x :=
  fun s holds => fails s (before s holds)

theorem Does.exact (does : Does P x Q) : Exact True P x Q :=
  ⟨fun _ => does, fun absurd => (absurd trivial).elim⟩

theorem Exact.congr (exact : Exact good P x Q) (same : good' ↔ good) : Exact good' P x Q :=
  ⟨fun holds => exact.does (same.mp holds), fun fails => exact.fails fun holds =>
    fails (same.mpr holds)⟩

theorem Exact.bind (first : Exact good P x Q) (later : ∀ b, Exact good' (Q b) (f b) R) :
    Exact (good ∧ good') P (x >>= f) R := by
  constructor
  · rintro ⟨holds, holds'⟩
    exact (first.does holds).bind fun b => (later b).does holds'
  · intro absurd
    by_cases holds : good
    · exact (first.does holds).bind_fails fun b => (later b).fails fun holds' =>
        absurd ⟨holds, holds'⟩
    · exact (first.fails holds).bind

theorem Exact.bind_does (first : Exact good P x Q) (later : ∀ b, Does (Q b) (f b) R) :
    Exact good P (x >>= f) R :=
  (first.bind fun b => (later b).exact).congr (and_iff_left trivial).symm

theorem Exact.weaken (exact : Exact good P x Q) (before : ∀ s, P' s → P s)
    (after : ∀ b s, Q b s → Q' b s) : Exact good P' x Q' :=
  ⟨fun holds => (exact.does holds).weaken before after,
    fun absurd => (exact.fails absurd).weaken before⟩

/-- A loop with a value that is carried along comes to its end exactly where every step does. -/
theorem foldlM_exact {step : β → ι → Owning α β} {ok : ι → Prop} {l : List ι}
    (exact : ∀ i ∈ l, ∀ b, Exact (ok i) (Q b) (step b i) Q) (b : β) :
    Exact (∀ i ∈ l, ok i) (Q b) (l.foldlM step b) Q := by
  induction l generalizing b with
  | nil => exact does_pure.exact.congr (iff_true_intro fun i mem => absurd mem List.not_mem_nil)
  | cons i l ih =>
      rw [List.foldlM_cons]
      apply Exact.congr _ List.forall_mem_cons
      apply (exact i List.mem_cons_self b).bind
      exact ih fun j mem => exact j (List.mem_cons_of_mem i mem)

end Programs

/-! ### What is owned -/

/-- Lists by the pointer to the first cell, with their cells. -/
abbrev Lists (α : Type) := List (Option Nat × List (Nat × α))

/-- Cells by address, with what is in them. -/
abbrev Cells (α : Type) := List (Nat × Option (Node α))

/-- The addresses of the cells of the lists, and of those that are set aside. -/
def addresses (aside : Cells α) (lists : Lists α) : List Nat :=
  lists.flatMap (fun c => c.2.map Prod.fst) ++ aside.map Prod.fst

/-- The lists and the cells that are set aside are apart, and as they are said to be. -/
structure Laid (aside : Cells α) (lists : Lists α) (s : Store α) : Prop where
  chains : ∀ c ∈ lists, Heap.Chain s.heap c.1 c.2 none
  kept : ∀ c ∈ aside, s.heap c.1 = c.2
  nodup : (addresses aside lists).Nodup
  given : ∀ a ∈ addresses aside lists, a < s.fresh

/-- The living cells are those of the lists from the pointers and those set aside. -/
def Owns (aside : Cells α) (roots : List (Option Nat)) (s : Store α) : Prop :=
  ∃ lists : Lists α, lists.map Prod.fst = roots ∧ Laid aside lists s ∧
    ∀ a, a ∉ addresses aside lists → s.heap a = none

section Owned

variable {aside : Cells α} {lists lists' : Lists α} {s s' : Store α} {p q : Option Nat} {a b : Nat}
  {v w : α} {l l' : List (Nat × α)} {roots before after : List (Option Nat)}
  {n n' : Option (Node α)}

theorem owns_empty : Owns [] [] (Store.empty : Store α) :=
  ⟨[], rfl, ⟨fun _ mem => absurd mem List.not_mem_nil, fun _ mem => absurd mem List.not_mem_nil,
    List.nodup_nil, fun _ mem => absurd mem List.not_mem_nil⟩, fun _ _ => rfl⟩

/-- Where nothing is owned, everything was destroyed. -/
theorem Owns.destroyed (owns : Owns [] [] s) (a : Nat) : s.heap a = none := by
  obtain ⟨lists, nothing, -, others⟩ := owns
  obtain rfl := List.map_eq_nil_iff.mp nothing
  exact others a List.not_mem_nil

theorem addresses_cons : addresses aside ((p, l) :: lists) =
    l.map Prod.fst ++ addresses aside lists := List.append_assoc _ _ _

theorem addresses_aside : (addresses ((a, n) :: aside) lists).Perm (a :: addresses aside lists) :=
  List.perm_middle

theorem addresses_perm (perm : lists.Perm lists') :
    (addresses aside lists).Perm (addresses aside lists') :=
  (perm.flatMap_right _).append_right _

theorem mem_addresses {c : Option Nat × List (Nat × α)} (mem : c ∈ lists)
    (cell : a ∈ c.2.map Prod.fst) : a ∈ addresses aside lists :=
  List.mem_append_left _ (List.mem_flatMap.mpr ⟨c, mem, cell⟩)

theorem mem_addresses_aside {c : Nat × Option (Node α)} (mem : c ∈ aside) :
    c.1 ∈ addresses aside lists :=
  List.mem_append_right _ (List.mem_map_of_mem mem)

/-- What is not in the lists may change. -/
theorem Laid.of_agree (laid : Laid aside lists s)
    (same : ∀ a ∈ addresses aside lists, s'.heap a = s.heap a) (le : s.fresh ≤ s'.fresh) :
    Laid aside lists s' where
  chains c mem := (laid.chains c mem).congr fun a cell => same a (mem_addresses mem cell)
  kept c mem := (same c.1 (mem_addresses_aside mem)).trans (laid.kept c mem)
  nodup := laid.nodup
  given a mem := Nat.lt_of_lt_of_le (laid.given a mem) le

/-- A list is apart from the others. -/
structure First (p : Option Nat) (l : List (Nat × α)) (aside : Cells α) (lists : Lists α)
    (s : Store α) : Prop where
  chain : Heap.Chain s.heap p l none
  nodup : (l.map Prod.fst).Nodup
  given : ∀ a ∈ l.map Prod.fst, a < s.fresh
  apart : ∀ a ∈ l.map Prod.fst, a ∉ addresses aside lists

theorem laid_cons : Laid aside ((p, l) :: lists) s ↔
    First p l aside lists s ∧ Laid aside lists s := by
  constructor
  · intro ⟨chains, kept, nodup, given⟩
    rw [addresses_cons] at nodup given
    obtain ⟨chain, chains⟩ := List.forall_mem_cons.mp chains
    obtain ⟨nodupFirst, nodup, apart⟩ := List.nodup_append'.mp nodup
    obtain ⟨givenFirst, given⟩ := List.forall_mem_append.mp given
    exact ⟨⟨chain, nodupFirst, givenFirst, fun a mem mem' => apart mem mem'⟩,
      chains, kept, nodup, given⟩
  · rintro ⟨first, laid⟩
    refine ⟨List.forall_mem_cons.mpr ⟨first.chain, laid.chains⟩, laid.kept, ?_, ?_⟩
    · rw [addresses_cons]
      exact List.nodup_append'.mpr ⟨first.nodup, laid.nodup, fun a mem => first.apart a mem⟩
    · rw [addresses_cons]
      exact List.forall_mem_append.mpr ⟨first.given, laid.given⟩

theorem laid_aside : Laid ((a, n) :: aside) lists s ↔
    (s.heap a = n ∧ a < s.fresh ∧ a ∉ addresses aside lists) ∧ Laid aside lists s := by
  constructor
  · intro ⟨chains, kept, nodup, given⟩
    obtain ⟨apart, nodup⟩ := List.nodup_cons.mp (addresses_aside.nodup_iff.mp nodup)
    obtain ⟨here, kept⟩ := List.forall_mem_cons.mp kept
    exact ⟨⟨here, given a (addresses_aside.mem_iff.mpr List.mem_cons_self), apart⟩, chains, kept,
      nodup, fun b mem => given b (addresses_aside.mem_iff.mpr (List.mem_cons_of_mem a mem))⟩
  · rintro ⟨⟨here, given, apart⟩, laid⟩
    refine ⟨laid.chains, List.forall_mem_cons.mpr ⟨here, laid.kept⟩,
      addresses_aside.nodup_iff.mpr (List.nodup_cons.mpr ⟨apart, laid.nodup⟩), fun b mem => ?_⟩
    rcases List.mem_cons.mp (addresses_aside.mem_iff.mp mem) with rfl | mem
    · exact given
    · exact laid.given b mem

theorem Laid.perm (laid : Laid aside lists s) (perm : lists.Perm lists') :
    Laid aside lists' s where
  chains c mem := laid.chains c (perm.mem_iff.mpr mem)
  kept := laid.kept
  nodup := (addresses_perm perm).nodup_iff.mp laid.nodup
  given a mem := laid.given a ((addresses_perm perm).mem_iff.mpr mem)

/-- The order of the pointers does not matter. -/
theorem owns_middle :
    Owns aside (before ++ p :: after) s ↔ Owns aside (p :: (before ++ after)) s := by
  have moved {lists lists' : Lists α} (perm : lists.Perm lists') (laid : Laid aside lists s)
      (others : ∀ a, a ∉ addresses aside lists → s.heap a = none) :
      Laid aside lists' s ∧ ∀ a, a ∉ addresses aside lists' → s.heap a = none :=
    ⟨laid.perm perm, fun a apart => others a fun mem =>
      apart ((addresses_perm perm).mem_iff.mp mem)⟩
  constructor
  · rintro ⟨lists, same, laid, others⟩
    obtain ⟨front, later, rfl, rfl, sameLater⟩ := List.map_eq_append_iff.mp same
    obtain ⟨c, back, rfl, rfl, rfl⟩ := List.map_eq_cons_iff.mp sameLater
    exact ⟨c :: (front ++ back), by simp, moved List.perm_middle laid others⟩
  · rintro ⟨lists, same, laid, others⟩
    obtain ⟨c, later, rfl, rfl, sameLater⟩ := List.map_eq_cons_iff.mp same
    obtain ⟨front, back, rfl, rfl, rfl⟩ := List.map_eq_append_iff.mp sameLater
    exact ⟨front ++ c :: back, by simp, moved List.perm_middle.symm laid others⟩

/-- The first list, and what there is beside it. -/
theorem owns_cons_iff : Owns aside (p :: roots) s ↔ ∃ (l : List (Nat × α)) (lists : Lists α),
    lists.map Prod.fst = roots ∧ First p l aside lists s ∧ Laid aside lists s ∧
      ∀ a, a ∉ l.map Prod.fst → a ∉ addresses aside lists → s.heap a = none := by
  constructor
  · rintro ⟨lists, same, laid, others⟩
    obtain ⟨⟨p, l⟩, later, rfl, rfl, rfl⟩ := List.map_eq_cons_iff.mp same
    obtain ⟨first, laid⟩ := laid_cons.mp laid
    refine ⟨l, later, rfl, first, laid, fun a apart apart' => others a ?_⟩
    rw [addresses_cons, List.mem_append, not_or]
    exact ⟨apart, apart'⟩
  · rintro ⟨l, lists, same, first, laid, others⟩
    refine ⟨(p, l) :: lists, congrArg _ same, laid_cons.mpr ⟨first, laid⟩, fun a apart => ?_⟩
    rw [addresses_cons, List.mem_append, not_or] at apart
    exact others a apart.1 apart.2

/-- NULL is the list without cells. -/
theorem owns_null : Owns aside (none :: roots) s ↔ Owns aside roots s := by
  rw [owns_cons_iff]
  constructor
  · rintro ⟨l, lists, same, first, laid, others⟩
    cases l with
    | cons d l => exact absurd first.chain.1 nofun
    | nil => exact ⟨lists, same, laid, fun a => others a List.not_mem_nil⟩
  · rintro ⟨lists, same, laid, others⟩
    exact ⟨[], lists, same, ⟨rfl, List.nodup_nil, fun a mem => absurd mem List.not_mem_nil,
      fun a mem => absurd mem List.not_mem_nil⟩, laid, fun a _ => others a⟩

/-! ### The operations on lists -/

theorem next_eq (here : s.heap a = some ⟨v, q⟩) : next a s = .ok (q, s) := by
  rw [next, Heap.read_eq here]
  rfl

theorem setNext_eq (here : s.heap a = some ⟨v, p⟩) (q : Option Nat) :
    setNext a q s = .ok ((), ⟨Function.update s.heap a (some ⟨v, q⟩), s.fresh⟩) := by
  rw [setNext, Heap.setNext, here]
  rfl

theorem free_eq (here : s.heap a = some ⟨v, p⟩) :
    free (some a) s = .ok ((), ⟨s.heap.free a, s.fresh⟩) := by
  show (s.heap.read a).map _ = _
  rw [Heap.read_eq here]
  rfl

theorem next_fails (destroyed : s.heap a = none) : next a s = .error .undefined := by
  rw [next, Heap.read, destroyed]
  rfl

/-- The heap without some cells. -/
def clear (h : Heap α) (l : List Nat) : Heap α := fun a => if a ∈ l then none else h a

theorem clear_of_notMem {h : Heap α} {cells : List Nat} (apart : a ∉ cells) :
    clear h cells a = h a := if_neg apart

theorem free_clear {h : Heap α} {cells : List Nat} :
    (clear h cells).free a = clear h (a :: cells) := by
  funext b
  rw [Heap.free, clear]
  by_cases same : b = a
  · rw [same, Function.update_self, if_pos List.mem_cons_self]
  · rw [Function.update_of_ne same, clear]
    simp only [List.mem_cons, same, false_or]

/-- The destructors go along the list, and the cells are freed on the way back. -/
theorem deleteFor_eq {rounds : Nat} (chain : Heap.Chain s.heap p l none)
    (nodup : (l.map Prod.fst).Nodup) (enough : l.length ≤ rounds) :
    deleteFor rounds p s = .ok ((), ⟨clear s.heap (l.map Prod.fst), s.fresh⟩) := by
  induction l generalizing p rounds with
  | nil =>
      obtain rfl : p = none := chain
      cases rounds <;> rfl
  | cons c l ih =>
      obtain ⟨rfl, next, here, rest⟩ := chain
      obtain ⟨apart, nodup⟩ := List.nodup_cons.mp nodup
      cases rounds with
      | zero => exact absurd enough (Nat.not_succ_le_zero _)
      | succ rounds =>
          have later := ih rest nodup (Nat.le_of_succ_le_succ enough)
          have still : clear s.heap (l.map Prod.fst) c.1 = some ⟨c.2, next⟩ :=
            (clear_of_notMem apart).trans here
          rw [deleteFor, bind_of_ok (next_eq here), bind_of_ok later]
          exact (free_eq (s := ⟨_, s.fresh⟩) still).trans (by rw [free_clear]; rfl)

theorem walkFor_eq {rounds : Nat} (chain : Heap.Chain s.heap p l none)
    (enough : l.length ≤ rounds) : walkFor rounds p s = .ok ((), s) := by
  induction l generalizing p rounds with
  | nil =>
      obtain rfl : p = none := chain
      cases rounds <;> rfl
  | cons c l ih =>
      obtain ⟨rfl, next, here, rest⟩ := chain
      cases rounds with
      | zero => exact absurd enough (Nat.not_succ_le_zero _)
      | succ rounds =>
          rw [walkFor, bind_of_ok (next_eq here)]
          exact ih rest (Nat.le_of_succ_le_succ enough)

theorem lastFor_eq {rounds : Nat} (chain : Heap.Chain s.heap (some a) (l ++ [(b, w)]) none)
    (enough : l.length < rounds) : lastFor rounds a s = .ok (b, s) := by
  induction l generalizing a rounds with
  | nil =>
      obtain ⟨same, next, here, rest⟩ := chain
      obtain rfl := Option.some.inj same
      obtain rfl : next = none := rest
      cases rounds with
      | zero => exact absurd enough (Nat.not_lt_zero _)
      | succ rounds =>
          rw [lastFor, bind_of_ok (next_eq here)]
          rfl
  | cons c l ih =>
      obtain ⟨same, next, here, rest⟩ := chain
      obtain rfl := Option.some.inj same
      cases rounds with
      | zero => exact absurd enough (Nat.not_lt_zero _)
      | succ rounds =>
          rw [lastFor, bind_of_ok (next_eq here)]
          cases next with
          | none =>
              cases l with
              | nil => exact absurd rest.1 nofun
              | cons d l => exact absurd rest.1 nofun
          | some b => exact ih rest (Nat.lt_of_succ_lt_succ enough)

/-- There are as many rounds as the list needs. -/
theorem First.length_le (first : First p l aside lists s) : l.length ≤ s.fresh := by
  have inside : l.map Prod.fst ⊆ List.range s.fresh := fun a mem =>
    List.mem_range.mpr (first.given a mem)
  have le := (first.nodup.subperm inside).length_le
  rwa [List.length_map, List.length_range] at le

theorem First.of_agree (first : First p l aside lists s)
    (same : ∀ a ∈ l.map Prod.fst, s'.heap a = s.heap a) (le : s.fresh ≤ s'.fresh) :
    First p l aside lists s' where
  chain := first.chain.congr same
  nodup := first.nodup
  given a mem := Nat.lt_of_lt_of_le (first.given a mem) le
  apart := first.apart

theorem Laid.notMem_fresh (laid : Laid aside lists s) : s.fresh ∉ addresses aside lists :=
  fun mem => Nat.lt_irrefl _ (laid.given _ mem)

/-- What there was is left alone by `new`. -/
theorem Laid.alloc (laid : Laid aside lists s) (n : Node α) :
    Laid aside lists ⟨s.heap.alloc s.fresh n, s.fresh + 1⟩ :=
  laid.of_agree (fun _ mem => Function.update_of_ne
    (ne_of_mem_of_not_mem mem laid.notMem_fresh) _ _) (Nat.le_succ _)

/-- A new cell is a list of its own. -/
theorem new_does (aside : Cells α) (roots : List (Option Nat)) (v : α) :
    Does (Owns aside roots) (new v) fun a => Owns aside (some a :: roots) := by
  rintro s ⟨lists, same, laid, others⟩
  have first : First (some s.fresh) [(s.fresh, v)] aside lists
      ⟨s.heap.alloc s.fresh ⟨v, none⟩, s.fresh + 1⟩ :=
    ⟨⟨rfl, none, Function.update_self _ _ _, rfl⟩, List.nodup_singleton _,
      List.forall_mem_singleton.mpr (Nat.lt_succ_self _),
      List.forall_mem_singleton.mpr laid.notMem_fresh⟩
  refine ⟨s.fresh, _, rfl, owns_cons_iff.mpr ⟨_, lists, same, first, laid.alloc _, ?_⟩⟩
  intro a apart apart'
  have other : a ≠ s.fresh := fun same => apart (List.mem_singleton.mpr same)
  exact (Function.update_of_ne other _ _).trans (others a apart')

/-- `delete` destroys the cells of a list and no other ones. -/
theorem delete_does (aside : Cells α) (before after : List (Option Nat)) (p : Option Nat) :
    Does (Owns aside (before ++ p :: after)) (delete p) fun _ => Owns aside (before ++ after) := by
  intro s owns
  obtain ⟨l, lists, same, first, laid, others⟩ := owns_cons_iff.mp (owns_middle.mp owns)
  refine ⟨(), _, deleteFor_eq first.chain first.nodup first.length_le, lists, same, ?_, ?_⟩
  · exact laid.of_agree
      (fun a mem => clear_of_notMem fun cell => first.apart a cell mem) (Nat.le_refl _)
  · intro a apart
    show clear s.heap _ a = none
    by_cases cell : a ∈ l.map Prod.fst
    · exact if_pos cell
    · exact (clear_of_notMem cell).trans (others a cell apart)

/-- A list is walked along. -/
theorem walk_does (aside : Cells α) (before after : List (Option Nat)) (p : Option Nat) :
    Does (Owns aside (before ++ p :: after)) (walk p)
      fun _ => Owns aside (before ++ p :: after) := by
  intro s owns
  obtain ⟨l, lists, same, first, laid, others⟩ := owns_cons_iff.mp (owns_middle.mp owns)
  exact ⟨(), s, walkFor_eq first.chain first.length_le, owns⟩

theorem walk_null {P : Store α → Prop} : Does P (walk none) fun _ => P := by
  intro s holds
  refine ⟨(), s, ?_, holds⟩
  show walkFor s.fresh none s = _
  cases s.fresh <;> rfl

theorem First.exists_cons (first : First (some a) l aside lists s) :
    ∃ v l', l = (a, v) :: l' := by
  cases l with
  | nil => exact absurd first.chain nofun
  | cons c l =>
      obtain ⟨same, -⟩ := first.chain
      obtain rfl := Option.some.inj same
      exact ⟨c.2, l, rfl⟩

/-- The first cell of a list is used. -/
theorem use_does (aside : Cells α) (before after : List (Option Nat)) (a : Nat) :
    Does (Owns aside (before ++ some a :: after)) (use a)
      fun _ => Owns aside (before ++ some a :: after) := by
  intro s owns
  obtain ⟨l, lists, same, first, laid, others⟩ := owns_cons_iff.mp (owns_middle.mp owns)
  obtain ⟨v, l', rfl⟩ := first.exists_cons
  obtain ⟨-, next, here, -⟩ := first.chain
  exact ⟨(), s, bind_of_ok (next_eq here), owns⟩

/-- The last cell of a list that is not empty. -/
theorem First.exists_last (first : First (some a) l aside lists s) :
    ∃ front c w, l = front ++ [(c, w)] := by
  obtain ⟨v, rest, isCons⟩ := first.exists_cons
  rcases List.eq_nil_or_concat l with empty | ⟨front, ⟨c, w⟩, same⟩
  · exact absurd (empty.symm.trans isCons) nofun
  · exact ⟨front, c, w, same.trans (List.concat_eq_append)⟩

/-- `join` changes the last cell of the list. -/
theorem join_eq (first : First (some a) (l ++ [(b, w)]) aside lists s) (c : Nat) :
    join a (some c) s = .ok ((), ⟨Function.update s.heap b (some ⟨w, some c⟩), s.fresh⟩) := by
  have enough : l.length < s.fresh := by
    have le := first.length_le
    rwa [List.length_append] at le
  have holds : Heap.Holds s.heap (some a) (l ++ [(b, w)]) := ⟨first.chain, first.nodup⟩
  show (lastFor s.fresh a >>= fun last => setNext last (some c)) s = _
  rw [bind_of_ok (lastFor_eq first.chain enough)]
  exact setNext_eq holds.last (some c)

/-- The two lists are one. -/
theorem First.join (first : First p (l ++ [(b, w)]) aside lists s)
    (second : First q l' aside ((p, l ++ [(b, w)]) :: lists) s) :
    First p (l ++ [(b, w)] ++ l') aside lists
      ⟨Function.update s.heap b (some ⟨w, q⟩), s.fresh⟩ := by
  have holds : Heap.Holds s.heap p (l ++ [(b, w)]) := ⟨first.chain, first.nodup⟩
  have inFirst : b ∈ (l ++ [(b, w)]).map Prod.fst :=
    List.mem_map_of_mem (List.mem_append_right _ (List.mem_singleton.mpr rfl))
  have apart : ∀ d ∈ l'.map Prod.fst,
      d ∉ (l ++ [(b, w)]).map Prod.fst ∧ d ∉ addresses aside lists := by
    intro d mem
    have apart := second.apart d mem
    rwa [addresses_cons, List.mem_append, not_or] at apart
  have notSecond : b ∉ l'.map Prod.fst := fun mem => (apart b mem).1 inFirst
  constructor
  · exact Heap.chain_append.mpr ⟨q, holds.link q, second.chain.update notSecond _⟩
  · rw [List.map_append]
    exact List.nodup_append'.mpr ⟨first.nodup, second.nodup, fun d mem mem' =>
      (apart d mem').1 mem⟩
  · rw [List.map_append]
    exact List.forall_mem_append.mpr ⟨first.given, second.given⟩
  · rw [List.map_append]
    exact List.forall_mem_append.mpr ⟨first.apart, fun d mem => (apart d mem).2⟩

/-- A list is linked behind another one. -/
theorem join_does (aside : Cells α) (roots : List (Option Nat)) (a : Nat) (q : Option Nat) :
    Does (Owns aside (q :: some a :: roots)) (join a q) fun _ => Owns aside (some a :: roots) := by
  intro s owns
  cases q with
  | none => exact ⟨(), s, rfl, owns_null.mp owns⟩
  | some b =>
      obtain ⟨l', lists, same, second, laid, others⟩ := owns_cons_iff.mp owns
      obtain ⟨⟨p, l⟩, later, rfl, isFirst, rfl⟩ := List.map_eq_cons_iff.mp same
      obtain rfl : p = some a := isFirst
      obtain ⟨first, laidLater⟩ := laid_cons.mp laid
      obtain ⟨front, c, w, rfl⟩ := first.exists_last
      have inFirst : c ∈ (front ++ [(c, w)]).map Prod.fst :=
        List.mem_map_of_mem (List.mem_append_right _ (List.mem_singleton.mpr rfl))
      refine ⟨(), _, join_eq first b, owns_cons_iff.mpr
        ⟨_, later, rfl, first.join second, laidLater.of_agree ?_ (Nat.le_refl _), ?_⟩⟩
      · intro d mem
        have ne : d ≠ c := fun same => first.apart c inFirst (same ▸ mem)
        exact Function.update_of_ne ne _ _
      · intro d apart apart'
        rw [List.map_append, List.mem_append, not_or] at apart
        have ne : d ≠ c := fun same => apart.1 (same ▸ inFirst)
        refine (Function.update_of_ne ne _ _).trans (others d apart.2 ?_)
        rw [addresses_cons, List.mem_append, not_or]
        exact ⟨apart.1, apart'⟩

/-- What is made is a list of its own, behind the one that there was. -/
theorem joinOnto_exact {make : Owning α (Option Nat)} {good : Prop} {aside : Cells α}
    {roots : List (Option Nat)} (exact : ∀ roots, Exact good (Owns aside roots) make
      fun p => Owns aside (p :: roots)) (Def : Option Nat) :
    Exact good (Owns aside (Def :: roots)) (joinOnto Def make)
      fun p => Owns aside (p :: roots) := by
  cases Def with
  | none => exact (exact roots).weaken (fun s owns => owns_null.mp owns) fun b s owns => owns
  | some a =>
      apply (exact (some a :: roots)).bind_does
      intro q
      apply (join_does aside roots a q).bind
      intro _
      exact does_pure (Q := fun p => Owns aside (p :: roots))

/-! ### The operations on cells that are set aside -/

/-- A new cell is set aside. -/
theorem new_aside (aside : Cells α) (roots : List (Option Nat)) (v : α) :
    Does (Owns aside roots) (new v) fun a => Owns ((a, some ⟨v, none⟩) :: aside) roots := by
  rintro s ⟨lists, same, laid, others⟩
  refine ⟨s.fresh, _, rfl, lists, same, laid_aside.mpr
    ⟨⟨Function.update_self _ _ _, Nat.lt_succ_self _, laid.notMem_fresh⟩, laid.alloc _⟩, ?_⟩
  intro a apart
  rw [addresses_aside.mem_iff, List.mem_cons, not_or] at apart
  exact (Function.update_of_ne apart.1 _ _).trans (others a apart.2)

/-- What is in a cell that is set aside changes. -/
theorem Owns.edit (owns : Owns ((a, n) :: aside) roots s) (n' : Option (Node α)) :
    Owns ((a, n') :: aside) roots ⟨Function.update s.heap a n', s.fresh⟩ := by
  obtain ⟨lists, same, laid, others⟩ := owns
  obtain ⟨⟨-, given, apart⟩, laid⟩ := laid_aside.mp laid
  refine ⟨lists, same, laid_aside.mpr ⟨⟨Function.update_self _ _ _, given, apart⟩, ?_⟩, ?_⟩
  · exact laid.of_agree
      (fun b mem => Function.update_of_ne (ne_of_mem_of_not_mem mem apart) _ _) (Nat.le_refl _)
  · intro b elsewhere
    have old := others b fun mem =>
      elsewhere (addresses_aside.mem_iff.mpr (addresses_aside.mem_iff.mp mem))
    rw [addresses_aside.mem_iff, List.mem_cons, not_or] at elsewhere
    exact (Function.update_of_ne elsewhere.1 _ _).trans old

theorem Owns.kept (owns : Owns aside roots s) (mem : (a, n) ∈ aside) :
    s.heap a = n ∧ a < s.fresh := by
  obtain ⟨lists, -, laid, -⟩ := owns
  exact ⟨laid.kept _ mem, laid.given a (mem_addresses_aside mem)⟩

theorem owns_aside_swap {c d : Nat × Option (Node α)} :
    Owns (c :: d :: aside) roots s → Owns (d :: c :: aside) roots s := by
  rintro ⟨lists, same, laid, others⟩
  have swap : (addresses (c :: d :: aside) lists).Perm (addresses (d :: c :: aside) lists) :=
    (List.Perm.swap d.1 c.1 _).append_left _
  refine ⟨lists, same, ⟨laid.chains, ?_, swap.nodup_iff.mp laid.nodup,
    fun a mem => laid.given a (swap.mem_iff.mpr mem)⟩, fun a apart => others a fun mem =>
      apart (swap.mem_iff.mp mem)⟩
  intro e mem
  exact laid.kept e ((List.Perm.swap d c aside).mem_iff.mpr mem)

/-- The only cell of a list is linked to a list. -/
theorem join_aside (aside : Cells α) (roots : List (Option Nat)) (a b : Nat) (v : α) :
    Does (Owns ((a, some ⟨v, none⟩) :: aside) roots) (join a (some b))
      fun _ => Owns ((a, some ⟨v, some b⟩) :: aside) roots := by
  intro s owns
  obtain ⟨here, given⟩ := owns.kept List.mem_cons_self
  refine ⟨(), _, ?_, owns.edit _⟩
  show (lastFor s.fresh a >>= fun last => setNext last (some b)) s = _
  rw [bind_of_ok (lastFor_eq (l := []) ⟨rfl, none, here, rfl⟩ (Nat.zero_lt_of_lt given))]
  exact setNext_eq here (some b)

theorem use_aside (roots : List (Option Nat)) (mem : (a, some ⟨v, q⟩) ∈ aside) :
    Does (Owns aside roots) (use a) fun _ => Owns aside roots :=
  fun s owns => ⟨(), s, bind_of_ok (next_eq (owns.kept mem).1), owns⟩

/-- The only cell of a list is destroyed. -/
theorem delete_aside (aside : Cells α) (roots : List (Option Nat)) (a : Nat) (v : α) :
    Does (Owns ((a, some ⟨v, none⟩) :: aside) roots) (delete (some a))
      fun _ => Owns ((a, none) :: aside) roots := by
  intro s owns
  obtain ⟨here, given⟩ := owns.kept List.mem_cons_self
  refine ⟨(), _, ?_, owns.edit none⟩
  have alone (rounds : Nat) :
      deleteFor (rounds + 1) (some a) s = .ok ((), ⟨s.heap.free a, s.fresh⟩) := by
    rw [deleteFor, bind_of_ok (next_eq here), bind_of_ok (x := deleteFor rounds none)
      (by cases rounds <;> rfl)]
    exact free_eq here
  obtain ⟨rounds, more⟩ := Nat.exists_eq_succ_of_ne_zero (Nat.ne_of_gt (Nat.zero_lt_of_lt given))
  exact (congrArg (deleteFor · (some a) s) more).trans (alone rounds)

/-- **A cell is not destroyed** where the one behind it was destroyed before. -/
theorem delete_fails (roots : List (Option Nat)) (mem : (a, some ⟨v, some b⟩) ∈ aside)
    (destroyed : (b, none) ∈ aside) : Fails (Owns aside roots) (delete (some a)) := by
  intro s owns
  obtain ⟨here, given⟩ := owns.kept mem
  show ∃ e, deleteFor s.fresh (some a) s = _
  obtain ⟨rounds, more⟩ := Nat.exists_eq_succ_of_ne_zero (Nat.ne_of_gt (Nat.zero_lt_of_lt given))
  rw [more, deleteFor, bind_of_ok (next_eq here)]
  cases rounds with
  | zero => exact ⟨.unfinished, rfl⟩
  | succ rounds =>
      exact ⟨.undefined, bind_of_error (bind_of_error (next_fails (owns.kept destroyed).1))⟩

end Owned

end Owning

end Sdm.Lib
