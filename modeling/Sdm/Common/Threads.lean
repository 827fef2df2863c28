import Mathlib.Algebra.GroupWithZero.Nat
import Mathlib.Logic.Function.Basic
import Mathlib.Tactic.SplitIfs
import Sdm.Common.Semaphore
import Sdm.Lib.LockProgram
import Sdm.Lib.Machine

/-!
Threads over `Sem`s.

`LockProgram.run` runs one program alone: it is done, crashes, or blocks at a semaphore. In
`threadMachine` any number of programs run at once, one instruction of one thread at a time, and
a thread is started for a call whenever the guard of the run allows it.

* `LockProgram.Alone` is about that run, in terms of the locks that the program holds;
  `LockProgram.Alone.run` connects the two.
* `Process.Sound`: every thread is balanced, and each semaphore has one permit that is
  free or held by one thread.
* `Process.Sound.reaches`: threads that are balanced when they start keep it so, in every
  interleaving; `Process.Sound.idle` is what is left when no thread runs.
-/

namespace Sdm

open Lib

/-! ### One program alone -/

/-- How a program ends that runs alone. -/
inductive Ending (ι α : Type) where
  | finished (a : α)
  | crashed
  | blocked (i : ι)
  deriving DecidableEq

variable {σ ι α β κ : Type} [DecidableEq ι]

/-- Run a program to its end. -/
def Lib.LockProgram.run : LockProgram σ ι α → (ι → Sem) → σ → Ending ι α × (ι → Sem) × σ
  | .done a, locks, s => (.finished a, locks, s)
  | .crash, locks, s => (.crashed, locks, s)
  | .wait i next, locks, s =>
      match (locks i).enter.pass with
      | none => (.blocked i, locks, s)
      | some sem => next.run (Function.update locks i sem) s
  | .signal i next, locks, s => next.run (Function.update locks i (locks i).Signal) s
  | .access write next, locks, s => (next s).run locks (write s)

namespace Lib.LockProgram

variable {p : LockProgram σ ι α} {held : Finset ι} {s : σ} {i : ι}
  {post : Ending ι α → Finset ι → σ → Prop}

/-- The semaphores when a program runs alone and holds these locks. -/
def locksOf (held : Finset ι) (i : ι) : Sem := if i ∈ held then ⟨0, 1⟩ else Sem.new 1

/-- The program, run alone with these locks held, ends with `post`. -/
def Alone (post : Ending ι α → Finset ι → σ → Prop) : LockProgram σ ι α → Finset ι → σ → Prop
  | done a, held, s => post (.finished a) held s
  | crash, held, s => post .crashed held s
  | wait i next, held, s =>
      if i ∈ held then post (.blocked i) held s else Alone post next (insert i held) s
  | signal i next, held, s => i ∈ held ∧ Alone post next (held.erase i) s
  | access write next, held, s => Alone post (next s) held (write s)

theorem locksOf_insert : locksOf (insert i held) = Function.update (locksOf held) i ⟨0, 1⟩ := by
  funext j
  by_cases same : j = i
  · subst same
    simp [locksOf]
  · simp [locksOf, same]

theorem locksOf_erase : locksOf (held.erase i) = Function.update (locksOf held) i (Sem.new 1) := by
  funext j
  by_cases same : j = i
  · subst same
    simp [locksOf]
  · simp [locksOf, same]

/-- **What is proved with `Alone` holds of the run.** -/
theorem Alone.run (alone : p.Alone post held s) :
    ∃ ending held' s', p.run (locksOf held) s = (ending, locksOf held', s') ∧
      post ending held' s' := by
  induction p generalizing held s with
  | done a => exact ⟨_, _, _, rfl, alone⟩
  | crash => exact ⟨_, _, _, rfl, alone⟩
  | wait i next ih =>
      rw [Alone] at alone
      rw [LockProgram.run]
      by_cases mine : i ∈ held
      · rw [if_pos mine] at alone
        have blocked : (locksOf held i).enter.pass = none := by
          rw [locksOf, if_pos mine]
          rfl
        rw [blocked]
        exact ⟨_, _, _, rfl, alone⟩
      · rw [if_neg mine] at alone
        have passes : (locksOf held i).enter.pass = some ⟨0, 1⟩ := by
          rw [locksOf, if_neg mine]
          rfl
        rw [passes]
        show ∃ ending held' s', next.run (Function.update (locksOf held) i ⟨0, 1⟩) s =
          (ending, locksOf held', s') ∧ post ending held' s'
        rw [← locksOf_insert]
        exact ih alone
  | signal i next ih =>
      obtain ⟨mine, rest⟩ := alone
      have released : (locksOf held i).Signal = Sem.new 1 := by
        rw [locksOf, if_pos mine]
        rfl
      rw [LockProgram.run, released, ← locksOf_erase]
      exact ih rest
  | access write next ih => exact ih s alone

/-- A weaker postcondition. -/
theorem Alone.mono {post' : Ending ι α → Finset ι → σ → Prop} (alone : p.Alone post held s)
    (weaker : ∀ ending held s, post ending held s → post' ending held s) :
    p.Alone post' held s := by
  induction p generalizing held s with
  | done a => exact weaker _ _ _ alone
  | crash => exact weaker _ _ _ alone
  | wait i next ih =>
      rw [Alone] at alone ⊢
      split_ifs with mine
      · exact weaker _ _ _ (by rwa [if_pos mine] at alone)
      · exact ih (by rwa [if_neg mine] at alone)
  | signal i next ih => exact ⟨alone.1, ih alone.2⟩
  | access write next ih => exact ih s alone

/-- A balanced program that runs alone never blocks, and ends as it should. -/
def endsWith (post : α → Finset ι → σ → Prop) : Ending ι α → Finset ι → σ → Prop
  | .finished a, held, s => post a held s
  | .crashed, _, _ => True
  | .blocked _, _, _ => False

theorem Balanced.alone {R : σ → σ → Prop} [Std.Refl R] {post : α → Finset ι → σ → Prop}
    (balanced : p.Balanced R post held s) : p.Alone (endsWith post) held s := by
  induction p generalizing held s with
  | done a => exact balanced
  | crash => trivial
  | wait i next ih =>
      rw [Alone, if_neg balanced.1]
      exact ih balanced.2
  | signal i next ih => exact ⟨balanced.1, ih balanced.2⟩
  | access write next ih => exact ih s (balanced s (refl s)).2

/-- How a composition ends when its first part ends so. -/
def onwards (post : Ending ι β → Finset ι → σ → Prop) (f : α → LockProgram σ ι β) :
    Ending ι α → Finset ι → σ → Prop
  | .finished a, held, s => (f a).Alone post held s
  | .crashed, held, s => post .crashed held s
  | .blocked i, held, s => post (.blocked i) held s

theorem alone_andThen {post : Ending ι β → Finset ι → σ → Prop} {f : α → LockProgram σ ι β} :
    (p.andThen f).Alone post held s ↔ p.Alone (onwards post f) held s := by
  induction p generalizing held s with
  | done a => exact Iff.rfl
  | crash => exact Iff.rfl
  | wait i next ih =>
      rw [andThen, Alone, Alone]
      split_ifs
      · exact Iff.rfl
      · exact ih
  | signal i next ih => exact and_congr_right fun _ => ih
  | access write next ih => exact ih s

@[simp]
theorem alone_bind {post : Ending ι β → Finset ι → σ → Prop} {f : α → LockProgram σ ι β} :
    (p >>= f).Alone post held s ↔ p.Alone (onwards post f) held s := alone_andThen

@[simp]
theorem onwards_finished {post : Ending ι β → Finset ι → σ → Prop} {f : α → LockProgram σ ι β}
    {a : α} : onwards post f (.finished a) held s ↔ (f a).Alone post held s := Iff.rfl

@[simp]
theorem alone_pure {a : α} : (pure a : LockProgram σ ι α).Alone post held s ↔
    post (.finished a) held s := Iff.rfl

@[simp]
theorem alone_unlock {post : Ending ι Unit → Finset ι → σ → Prop} :
    (unlock i).Alone post held s ↔ i ∈ held ∧ post (.finished ()) (held.erase i) s := Iff.rfl

@[simp]
theorem alone_lock {post : Ending ι Unit → Finset ι → σ → Prop} : (lock i).Alone post held s ↔
    if i ∈ held then post (.blocked i) held s else post (.finished ()) (insert i held) s := Iff.rfl

@[simp]
theorem alone_read {f : σ → α} :
    (read f).Alone post held s ↔ post (.finished (f s)) held s := Iff.rfl

@[simp]
theorem alone_write {post : Ending ι Unit → Finset ι → σ → Prop} {f : σ → σ} :
    (write f).Alone post held s ↔ post (.finished ()) held (f s) := Iff.rfl

@[simp]
theorem alone_update {f : σ → σ} {g : σ → α} :
    (update f g).Alone post held s ↔ post (.finished (g s)) held (f s) := Iff.rfl

@[simp]
theorem alone_require_some {a : α} : (require (some a) : LockProgram σ ι α).Alone post held s ↔
    post (.finished a) held s := Iff.rfl

@[simp]
theorem alone_require_none : (require none : LockProgram σ ι α).Alone post held s ↔
    post .crashed held s := Iff.rfl

end Lib.LockProgram

/-! ### Threads -/

/-- A thread: what it has still to do, and the locks that it has taken and not released. -/
structure Thread (σ ι : Type) where
  program : LockProgram σ ι Unit
  held : Finset ι

/-- The shared state, the semaphores and the threads that are running. -/
structure Process (σ ι : Type) where
  shared : σ
  locks : ι → Sem
  threads : List (Thread σ ι)

/-- What happens next. -/
inductive Turn (κ : Type) where
  | start (call : κ)
  | run (k : Nat)

/-- The next instruction of a thread. Nothing happens while it has to wait, and nothing after
an undefined operation. -/
def Thread.next (t : Thread σ ι) (s : σ) (locks : ι → Sem) :
    Option (Option (Thread σ ι) × σ × (ι → Sem)) :=
  match t.program with
  | .done () => some (none, s, locks)
  | .crash => none
  | .wait i next => (locks i).enter.pass.map fun sem =>
      (some ⟨next, insert i t.held⟩, s, Function.update locks i sem)
  | .signal i next =>
      some (some ⟨next, t.held.erase i⟩, s, Function.update locks i (locks i).Signal)
  | .access write next => some (some ⟨next s, t.held⟩, write s, locks)

/-- Threads that run the programs of calls. -/
def threadMachine (program : κ → LockProgram σ ι Unit) : Machine (Process σ ι) (Turn κ) Unit where
  step p
    | .start call => some ({ p with threads := p.threads ++ [⟨program call, ∅⟩] }, ())
    | .run k => (p.threads[k]?).bind fun t => (t.next p.shared p.locks).map fun after =>
        (⟨after.2.1, after.2.2, p.threads.take k ++ after.1.toList ++ p.threads.drop (k + 1)⟩, ())

/-! ### Balanced threads -/

variable {R : σ → σ → Prop} {p p' : Process σ ι} {t : Thread σ ι} {s s' : σ}
  {locks locks' : ι → Sem} {ts : List (Thread σ ι)} {i : ι}

/-- A thread that will release what it holds and nothing else. -/
def Thread.Balanced (R : σ → σ → Prop) (t : Thread σ ι) (s : σ) : Prop :=
  t.program.Balanced R (fun _ held _ => held = ∅) t.held s

theorem Thread.Balanced.stable [IsTrans σ R] (balanced : t.Balanced R s) (changed : R s s') :
    t.Balanced R s' :=
  LockProgram.Balanced.stable balanced changed fun _ _ _ _ empty _ => empty

/-- Whether a thread holds a lock, as a number. -/
def Thread.holds (i : ι) (t : Thread σ ι) : Nat := if i ∈ t.held then 1 else 0

/-- The threads that hold a lock. -/
def holders (i : ι) (ts : List (Thread σ ι)) : Nat := (ts.map (Thread.holds i)).sum

/-- Every thread is balanced, and every permit is free or held by one thread. -/
structure Process.Sound (R : σ → σ → Prop) (p : Process σ ι) : Prop where
  balanced : ∀ t ∈ p.threads, t.Balanced R p.shared
  permit : ∀ i, (p.locks i).value + holders i p.threads = 1
  nonneg : ∀ i, 0 ≤ (p.locks i).value

@[simp]
theorem holders_append {us : List (Thread σ ι)} :
    holders i (ts ++ us) = holders i ts + holders i us := by
  simp [holders]

@[simp]
theorem holders_singleton : holders i [t] = t.holds i := by
  simp [holders]

/-- What the next instruction of a balanced thread does: the thread stays balanced, the
others are not hurt, and a permit that leaves a semaphore goes to the thread. -/
theorem Thread.Balanced.next [Std.Refl R] [IsTrans σ R] (balanced : t.Balanced R s)
    (free : ∀ i, (locks i).value + t.holds i ≤ 1) {after : Option (Thread σ ι)}
    (taken : t.next s locks = some (after, s', locks')) :
    R s s' ∧ (∀ t' ∈ after, t'.Balanced R s') ∧
      (∀ i, (locks' i).value + holders i after.toList = (locks i).value + t.holds i) ∧
      ∀ i, 0 ≤ (locks i).value → 0 ≤ (locks' i).value := by
  obtain ⟨program, held⟩ := t
  cases program with
  | done =>
      cases taken
      refine ⟨refl s, by simp, fun i => ?_, fun _ low => low⟩
      have empty : held = ∅ := balanced
      simp [holders, Thread.holds, empty]
  | crash => cases taken
  | wait i next =>
      obtain ⟨sem, passed, same⟩ := Option.map_eq_some_iff.mp taken
      cases same
      obtain ⟨positive, less⟩ := Sem.pass_eq_some passed
      rw [Sem.value_enter] at positive less
      refine ⟨refl s, by rintro _ ⟨⟩; exact balanced.2, fun j => ?_, fun j low => ?_⟩
      · by_cases same : j = i
        · subst same
          have new : j ∉ held := balanced.1
          simp [holders, Thread.holds, new, less]
        · simp [holders, Thread.holds, same]
      · by_cases same : j = i
        · subst same
          rw [Function.update_self]
          omega
        · rwa [Function.update_of_ne same]
  | signal i next =>
      cases taken
      have mine : i ∈ held := balanced.1
      have low := free i
      rw [Thread.holds, if_pos mine] at low
      have more := Sem.value_signal (s := locks i) (by omega)
      refine ⟨refl s, by rintro _ ⟨⟩; exact balanced.2, fun j => ?_, fun j low => ?_⟩
      · by_cases same : j = i
        · subst same
          simp [holders, Thread.holds, mine, more]
        · simp [holders, Thread.holds, same]
      · by_cases same : j = i
        · subst same
          rw [Function.update_self]
          omega
        · rwa [Function.update_of_ne same]
  | access write next =>
      cases taken
      obtain ⟨within, rest⟩ := balanced s (refl s)
      exact ⟨within, by rintro _ ⟨⟩; exact rest,
        fun j => by simp [holders, Thread.holds], fun _ low => low⟩

namespace Process.Sound

variable {program : κ → LockProgram σ ι Unit} {ok : κ → σ → Prop}

/-- **The step.** -/
theorem step [Std.Refl R] [IsTrans σ R] (sound : p.Sound R) {turn : Turn κ}
    (starts : ∀ call, turn = .start call →
      (program call).Balanced R (fun _ held _ => held = ∅) ∅ p.shared)
    (taken : (threadMachine program).step p turn = some (p', ())) : p'.Sound R := by
  cases turn with
  | start call =>
      cases taken
      refine ⟨fun t mem => ?_, fun i => ?_, sound.nonneg⟩
      · rcases List.mem_append.mp mem with old | new
        · exact sound.balanced t old
        · cases List.mem_singleton.mp new
          exact starts call rfl
      · have := sound.permit i
        simpa [holders, Thread.holds] using this
  | run k =>
      obtain ⟨t, at_k, taken⟩ := Option.bind_eq_some_iff.mp taken
      obtain ⟨⟨after, s', locks'⟩, next, same⟩ := Option.map_eq_some_iff.mp taken
      cases same
      obtain ⟨lt, at_k⟩ := List.getElem?_eq_some_iff.mp at_k
      have split : p.threads = p.threads.take k ++ [t] ++ p.threads.drop (k + 1) := by
        rw [← at_k, List.take_append_getElem, List.take_append_drop]
      have permit : ∀ i, (p.locks i).value + t.holds i + holders i (p.threads.take k) +
          holders i (p.threads.drop (k + 1)) = 1 := fun i => by
        have := sound.permit i
        rw [split] at this
        simp only [holders_append, holders_singleton] at this
        omega
      obtain ⟨within, still, counted, low⟩ := (sound.balanced t (at_k ▸ List.getElem_mem lt)).next
        (fun i => by have := permit i; omega) next
      refine ⟨fun u mem => ?_, fun i => ?_, fun i => low i (sound.nonneg i)⟩
      · rcases List.mem_append.mp mem with mem | later
        · rcases List.mem_append.mp mem with earlier | here
          · exact (sound.balanced u (List.mem_of_mem_take earlier)).stable within
          · exact still u (Option.mem_toList.mp here)
        · exact (sound.balanced u (List.mem_of_mem_drop later)).stable within
      · have := permit i
        have := counted i
        simp only [holders_append]
        omega

/-- **The run.** Threads that are balanced when they start never leave a semaphore with
another number of permits, in any interleaving. -/
theorem reaches [Std.Refl R] [IsTrans σ R]
    (starts : ∀ call s, ok call s →
      (program call).Balanced R (fun _ held _ => held = ∅) ∅ s)
    (sound : p.Sound R)
    (run : (threadMachine program).Reaches
      (fun p turn => ∀ call, turn = .start call → ok call p.shared) p p') : p'.Sound R := by
  refine run.invariant sound fun q turn q' _ now guard taken => now.step ?_ taken
  exact fun call begins => starts call q.shared (guard call begins)

/-- When no thread runs every semaphore has its permit. -/
theorem idle (sound : p.Sound R) (empty : p.threads = []) : (p.locks i).value = 1 := by
  have := sound.permit i
  simpa [empty, holders] using this

/-- No lock is held by two threads. -/
theorem exclusive (sound : p.Sound R) : holders i p.threads ≤ 1 := by
  have := sound.permit i
  have := sound.nonneg i
  omega

end Process.Sound

end Sdm
