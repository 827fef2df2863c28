import Mathlib.Data.Set.Insert
import Mathlib.Logic.Function.Basic
import Mathlib.Logic.Relation
import Sdm.Lib.LockProgram

/-!
Threads that take their locks in a given order.

`Ordered rank held held' p` says that `p`, which holds the locks `held`, takes only locks that rank
above all that it holds, releases only what it holds, and ends with `held'`. In a `Pool` of threads
a lock has at most one owner, and a thread waits for a lock until it has none.

* `Ordered.bind` and the rules of the single steps.
* `Pool.frees`: when the threads that hold a lock of some rank are ordered, each lock of that rank
  becomes free in a run of such threads alone. A thread that holds no lock of the rank is left as
  it is (`Pool.unmoved`).
-/

namespace Sdm.Lib

namespace LockProgram

variable {σ ι α β : Type} {rank : ι → Nat} {held held' held'' : Set ι} {i : ι}

/-- The program keeps to the order of the locks. -/
def Ordered (rank : ι → Nat) (held' : Set ι) : LockProgram σ ι α → Set ι → Prop
  | done _, held => held = held'
  | crash, _ => False
  | wait i next, held => (∀ j ∈ held, rank j < rank i) ∧ Ordered rank held' next (insert i held)
  | signal i next, held => i ∈ held ∧ Ordered rank held' next (held \ {i})
  | access _ next, held => ∀ s, Ordered rank held' (next s) held

namespace Ordered

variable {p : LockProgram σ ι α} {f : α → LockProgram σ ι β}

theorem bind (first : Ordered rank held' p held) (rest : ∀ a, Ordered rank held'' (f a) held') :
    Ordered rank held'' (p >>= f) held := by
  change Ordered rank held'' (p.andThen f) held
  induction p generalizing held with
  | done a =>
      cases first
      exact rest a
  | crash => exact first
  | wait i next ih => exact ⟨first.1, ih first.2⟩
  | signal i next ih => exact ⟨first.1, ih first.2⟩
  | access write next ih => exact fun s => ih s (first s)

theorem pure {a : α} : Ordered rank held (Pure.pure a : LockProgram σ ι α) held := rfl

theorem lock (above : ∀ j ∈ held, rank j < rank i) :
    Ordered rank (insert i held) (LockProgram.lock i : LockProgram σ ι Unit) held := ⟨above, rfl⟩

/-- A lock that was just taken is given back. -/
theorem unlock_insert (new : i ∉ held) :
    Ordered rank held (LockProgram.unlock i : LockProgram σ ι Unit) (insert i held) :=
  ⟨Set.mem_insert i held, by
    rw [Set.insert_sdiff_of_mem _ (Set.mem_singleton i)]
    exact Set.sdiff_singleton_eq_self new⟩

theorem read {g : σ → α} : Ordered rank held (LockProgram.read g : LockProgram σ ι α) held :=
  fun _ => rfl

theorem write {g : σ → σ} : Ordered rank held (LockProgram.write g : LockProgram σ ι Unit) held :=
  fun _ => rfl

theorem ite {c : Prop} [Decidable c] {q : LockProgram σ ι α} (yes : Ordered rank held' p held)
    (no : Ordered rank held' q held) : Ordered rank held' (if c then p else q) held := by
  split
  · exact yes
  · exact no

theorem onlyIf {c : Prop} [Decidable c] {q : LockProgram σ ι Unit}
    (yes : Ordered rank held q held) : Ordered rank held (LockProgram.onlyIf c q) held :=
  ite yes pure

theorem forEach {body : β → LockProgram σ ι Unit} {l : List β}
    (each : ∀ b ∈ l, Ordered rank held (body b) held) :
    Ordered rank held (LockProgram.forEach body l) held := by
  induction l with
  | nil => exact pure
  | cons b rest ih =>
      exact bind (each b List.mem_cons_self) fun _ =>
        ih fun c mem => each c (List.mem_cons_of_mem b mem)

/-- A program under one lock. -/
theorem locked {q : Unit → LockProgram σ ι Unit} (above : ∀ j ∈ held, rank j < rank i)
    (inside : Ordered rank (insert i held) (q ()) (insert i held)) :
    Ordered rank held (LockProgram.lock i >>= fun a => q a >>= fun _ => LockProgram.unlock i)
      held :=
  bind (lock above) fun _ => bind inside fun _ =>
    unlock_insert fun mem => Nat.lt_irrefl _ (above i mem)

end Ordered

end LockProgram

/-! ### Pools of threads -/

/-- Threads `κ` over a shared state. -/
structure Pool (σ ι κ : Type) where
  shared : σ
  owner : ι → Option κ
  program : κ → LockProgram σ ι Unit

namespace Pool

variable {σ ι κ : Type} [DecidableEq ι] [DecidableEq κ] {p q : Pool σ ι κ} {t u : κ} {i : ι}
  {rank : ι → Nat} {r : Nat}

def holds (p : Pool σ ι κ) (t : κ) : Set ι := {i | p.owner i = some t}

/-- The thread takes a lock. -/
def take (p : Pool σ ι κ) (t : κ) (i : ι) (next : LockProgram σ ι Unit) : Pool σ ι κ where
  shared := p.shared
  owner := Function.update p.owner i (some t)
  program := Function.update p.program t next

/-- The thread releases a lock. -/
def release (p : Pool σ ι κ) (t : κ) (i : ι) (next : LockProgram σ ι Unit) : Pool σ ι κ where
  shared := p.shared
  owner := Function.update p.owner i none
  program := Function.update p.program t next

/-- The thread changes the state, if at all, and goes on. -/
def goOn (p : Pool σ ι κ) (t : κ) (s : σ) (next : LockProgram σ ι Unit) : Pool σ ι κ where
  shared := s
  owner := p.owner
  program := Function.update p.program t next

/-- The next step of a thread. A thread that is done, or has to wait, has none. -/
def run (p : Pool σ ι κ) (t : κ) : Option (Pool σ ι κ) :=
  match p.program t with
  | .done _ => none
  | .crash => none
  | .wait i next => if p.owner i = none then some (p.take t i next) else none
  | .signal i next => some (p.release t i next)
  | .access write next => some (p.goOn t (write p.shared) (next p.shared))

theorem run_cases (step : p.run t = some q) :
    (∃ i next, p.program t = .wait i next ∧ p.owner i = none ∧ q = p.take t i next) ∨
      (∃ i next, p.program t = .signal i next ∧ q = p.release t i next) ∨
      ∃ write next, p.program t = .access write next ∧
        q = p.goOn t (write p.shared) (next p.shared) := by
  unfold run at step
  cases at_t : p.program t with
  | done a => simp [at_t] at step
  | crash => simp [at_t] at step
  | wait i next =>
      simp only [at_t, Option.ite_none_right_eq_some, Option.some.injEq] at step
      exact .inl ⟨i, next, rfl, step.1, step.2.symm⟩
  | signal i next =>
      simp only [at_t, Option.some.injEq] at step
      exact .inr (.inl ⟨i, next, rfl, step.symm⟩)
  | access write next =>
      simp only [at_t, Option.some.injEq] at step
      exact .inr (.inr ⟨write, next, rfl, step.symm⟩)

section Steps

variable {next : LockProgram σ ι Unit} {s : σ}

@[simp]
theorem program_take : (p.take t i next).program t = next := Function.update_self ..

@[simp]
theorem program_release : (p.release t i next).program t = next := Function.update_self ..

omit [DecidableEq ι] in
@[simp]
theorem program_goOn : (p.goOn t s next).program t = next := Function.update_self ..

@[simp]
theorem holds_take : (p.take t i next).holds t = insert i (p.holds t) := by
  ext j
  by_cases here : j = i <;> simp [holds, take, here]

@[simp]
theorem holds_release : (p.release t i next).holds t = p.holds t \ {i} := by
  ext j
  by_cases here : j = i <;> simp [holds, release, here]

omit [DecidableEq ι] in
@[simp]
theorem holds_goOn : (p.goOn t s next).holds u = p.holds u := rfl

theorem holds_take_other (free : p.owner i = none) (other : u ≠ t) :
    (p.take t i next).holds u = p.holds u := by
  ext j
  by_cases here : j = i
  · subst here
    simp [holds, take, free, other.symm]
  · simp [holds, take, here]

theorem holds_release_other (own : p.owner i = some t) (other : u ≠ t) :
    (p.release t i next).holds u = p.holds u := by
  ext j
  by_cases here : j = i
  · subst here
    simp [holds, release, own, other.symm]
  · simp [holds, release, here]

end Steps

/-- The other threads are left as they are. -/
theorem run_program (step : p.run t = some q) (other : u ≠ t) : q.program u = p.program u := by
  obtain ⟨i, next, -, -, rfl⟩ | ⟨i, next, -, rfl⟩ | ⟨write, next, -, rfl⟩ := run_cases step <;>
    exact Function.update_of_ne other _ _

/-- A thread keeps to the order of the locks and ends with `held'`. -/
def Ordered (rank : ι → Nat) (p : Pool σ ι κ) (t : κ) (held' : Set ι) : Prop :=
  (p.program t).Ordered rank held' (p.holds t)

section Ordered

variable {held' : Set ι}

/-- **An ordered thread stays so.** -/
theorem Ordered.run (ordered : p.Ordered rank t held') (step : p.run t = some q) :
    q.Ordered rank t held' := by
  unfold Ordered at ordered ⊢
  obtain ⟨i, next, at_t, -, rfl⟩ | ⟨i, next, at_t, rfl⟩ | ⟨write, next, at_t, rfl⟩ :=
    run_cases step
  · rw [at_t] at ordered
    simpa using ordered.2
  · rw [at_t] at ordered
    simpa using ordered.2
  · rw [at_t] at ordered
    simpa using ordered p.shared

/-- It takes nothing from the other threads. -/
theorem Ordered.holds_run (ordered : p.Ordered rank t held') (step : p.run t = some q)
    (other : u ≠ t) : q.holds u = p.holds u := by
  obtain ⟨i, next, at_t, free, rfl⟩ | ⟨i, next, at_t, rfl⟩ | ⟨write, next, at_t, rfl⟩ :=
    run_cases step
  · exact holds_take_other free other
  · unfold Ordered at ordered
    rw [at_t] at ordered
    exact holds_release_other ordered.1 other
  · rfl

theorem Ordered.run_other {post : Set ι} (ordered : p.Ordered rank t held')
    (step : p.run t = some q) (other : u ≠ t) (also : p.Ordered rank u post) :
    q.Ordered rank u post := by
  unfold Ordered at also ⊢
  rw [run_program step other, ordered.holds_run step other]
  exact also

omit [DecidableEq ι] [DecidableEq κ] in
/-- An ordered thread waits only for locks above those that it holds. -/
theorem Ordered.above {j : ι} {next : LockProgram σ ι Unit} (ordered : p.Ordered rank t held')
    (at_t : p.program t = .wait i next) (own : p.owner j = some t) : rank j < rank i := by
  unfold Ordered at ordered
  rw [at_t] at ordered
  exact ordered.1 j own

end Ordered

/-- The thread goes on with another program. -/
def goTo (p : Pool σ ι κ) (t : κ) (program : LockProgram σ ι Unit) : Pool σ ι κ :=
  { p with program := Function.update p.program t program }

section GoTo

variable {program : LockProgram σ ι Unit} {held' : Set ι}

omit [DecidableEq ι] in
@[simp]
theorem program_goTo : (p.goTo t program).program t = program := Function.update_self ..

omit [DecidableEq ι] in
theorem ordered_goTo (ordered : program.Ordered rank held' (p.holds t)) :
    (p.goTo t program).Ordered rank t held' := by
  rw [Ordered, program_goTo]
  exact ordered

omit [DecidableEq ι] in
theorem Ordered.goTo_other (ordered : p.Ordered rank u held') (other : u ≠ t) :
    (p.goTo t program).Ordered rank u held' := by
  have same : (p.goTo t program).program u = p.program u := Function.update_of_ne other _ _
  rw [Ordered, same]
  exact ordered

end GoTo

/-! ### Every lock becomes free -/

/-- A step of a thread that holds a lock of rank `r` or above. -/
def HighStep (rank : ι → Nat) (r : Nat) (p q : Pool σ ι κ) : Prop :=
  ∃ t i, r ≤ rank i ∧ p.owner i = some t ∧ p.run t = some q

/-- The threads that hold a lock of rank `r` or above are ordered. -/
def HighOrdered (rank : ι → Nat) (r : Nat) (p : Pool σ ι κ) : Prop :=
  ∀ t i, r ≤ rank i → p.owner i = some t → p.Ordered rank t ∅

theorem HighStep.mono {r' : Nat} (le : r ≤ r') (step : HighStep rank r' p q) :
    HighStep rank r p q := by
  obtain ⟨t, i, high, own, step⟩ := step
  exact ⟨t, i, le.trans high, own, step⟩

theorem HighOrdered.step (ordered : HighOrdered rank r p) (step : HighStep rank r p q) :
    HighOrdered rank r q := by
  obtain ⟨t, i, high, own, step⟩ := step
  have moved := ordered t i high own
  intro u j high' own'
  by_cases same : u = t
  · rw [same]
    exact moved.run step
  · have before : j ∈ p.holds u := (moved.holds_run step same).subset own'
    exact moved.run_other step same (ordered u j high' before)

open Relation (ReflTransGen)

theorem HighOrdered.steps (ordered : HighOrdered rank r p)
    (steps : ReflTransGen (HighStep rank r) p q) : HighOrdered rank r q := by
  induction steps with
  | refl => exact ordered
  | tail _ step ih => exact ih.step step

/-- **A thread that holds no lock of the rank is left as it is.** -/
theorem HighOrdered.unmoved (ordered : HighOrdered rank r p)
    (steps : ReflTransGen (HighStep rank r) p q) (low : ∀ i ∈ p.holds u, rank i < r) :
    q.program u = p.program u ∧ q.holds u = p.holds u := by
  induction steps with
  | refl => exact ⟨rfl, rfl⟩
  | tail done step ih =>
      obtain ⟨program, holds⟩ := ih
      obtain ⟨t, i, high, own, step⟩ := step
      have other : u ≠ t := by
        rintro rfl
        exact Nat.lt_irrefl _ ((low i (holds.subset own)).trans_le high)
      have moved := ordered.steps done t i high own
      exact ⟨(run_program step other).trans program, (moved.holds_run step other).trans holds⟩

/-- The owner of a lock gives it back, if each lock that it may wait for becomes free. -/
theorem HighOrdered.gives_back
    (above : ∀ j, rank i < rank j → ∀ p : Pool σ ι κ, HighOrdered rank (rank j) p →
      ∃ q, ReflTransGen (HighStep rank (rank j)) p q ∧ q.owner j = none)
    (program : LockProgram σ ι Unit) (ordered : HighOrdered rank (rank i) p)
    (own : p.owner i = some t) (at_t : p.program t = program) :
    ∃ q, ReflTransGen (HighStep rank (rank i)) p q ∧ q.owner i = none := by
  have goes {p q : Pool σ ι κ} (own : p.owner i = some t) (step : p.run t = some q) :
      HighStep rank (rank i) p q := ⟨t, i, le_rfl, own, step⟩
  induction program generalizing p with
  | done =>
      have ends := ordered t i le_rfl own
      rw [Pool.Ordered, at_t] at ends
      exact absurd (ends.subset own) (Set.notMem_empty i)
  | crash =>
      have ends := ordered t i le_rfl own
      rw [Pool.Ordered, at_t] at ends
      exact ends.elim
  | wait j next ih =>
      have mine := ordered t i le_rfl own
      have lower : ∀ k ∈ p.holds t, rank k < rank j := fun k => mine.above at_t
      have less := lower i own
      have high : HighOrdered rank (rank j) p := fun u k le => ordered u k (less.le.trans le)
      obtain ⟨q, steps, free⟩ := above j less p high
      have steps' : ReflTransGen (HighStep rank (rank i)) p q :=
        ReflTransGen.mono (fun _ _ => HighStep.mono less.le) _ _ steps
      obtain ⟨program, holds⟩ := high.unmoved steps lower
      have own' : q.owner i = some t := holds.superset own
      have step : q.run t = some (q.take t j next) := by
        rw [run, program, at_t]
        exact if_pos free
      have ordered' := (ordered.steps steps').step (goes own' step)
      have keeps : (q.take t j next).owner i = some t := by
        have ne : i ≠ j := fun same => Nat.lt_irrefl _ (same ▸ less)
        exact (Function.update_of_ne ne _ _).trans own'
      obtain ⟨q', rest, freed⟩ := ih ordered' keeps program_take
      exact ⟨q', (steps'.tail (goes own' step)).trans rest, freed⟩
  | signal j next ih =>
      have step : p.run t = some (p.release t j next) := by rw [run, at_t]
      by_cases here : i = j
      · subst here
        exact ⟨_, .single (goes own step), Function.update_self ..⟩
      · have keeps : (p.release t j next).owner i = some t :=
          (Function.update_of_ne here _ _).trans own
        obtain ⟨q', rest, freed⟩ := ih (ordered.step (goes own step)) keeps program_release
        exact ⟨q', .head (goes own step) rest, freed⟩
  | access write next ih =>
      have step : p.run t = some (p.goOn t (write p.shared) (next p.shared)) := by rw [run, at_t]
      obtain ⟨q', rest, freed⟩ := ih p.shared (ordered.step (goes own step)) own program_goOn
      exact ⟨q', .head (goes own step) rest, freed⟩

/-- **Every lock becomes free**, in a run of threads that hold locks of its rank or above. -/
theorem HighOrdered.frees {top : Nat} (bounded : ∀ i, rank i ≤ top)
    (ordered : HighOrdered rank (rank i) p) :
    ∃ q, ReflTransGen (HighStep rank (rank i)) p q ∧ q.owner i = none := by
  induction left : top - rank i using Nat.strong_induction_on generalizing i p with
  | _ left ih =>
      cases own : p.owner i with
      | none => exact ⟨p, .refl, own⟩
      | some t =>
          refine ordered.gives_back ?_ _ own rfl
          intro j less q high
          have bound := bounded j
          exact ih (top - rank j) (by omega) high rfl

end Pool

end Sdm.Lib
