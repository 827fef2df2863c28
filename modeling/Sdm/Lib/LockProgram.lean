import Mathlib.Data.Finset.Basic
import Mathlib.Order.Defs.Unbundled

/-!
Programs that take and release locks, and a logic for their balance.

A program runs over a state that it shares with others. Between its steps the others
change the state within a relation, the rely; its own writes must keep within it too.
`Balanced R post p held s` says that `p`, which holds the locks `held` and last saw the
state `s`, releases only locks that it holds, waits for none that it holds already, keeps
its writes within `R`, and ends with `post`.

* `balanced_bind` and the rules of the single steps: the logic, one rule for each way to
  build a program.
* `Balanced.mono`, `Balanced.stable`: a weaker postcondition, and what the others do.
* `Moves`: the programs that are balanced in every state, with a rule for each way to build
  one. `Moves.forEach` is the rule of loops.
-/

namespace Sdm.Lib

/-- A program over a shared state `σ` and locks `ι`. `crash` is an undefined operation. -/
inductive LockProgram (σ ι α : Type) where
  | done (a : α)
  | crash
  | wait (i : ι) (next : LockProgram σ ι α)
  | signal (i : ι) (next : LockProgram σ ι α)
  | access (write : σ → σ) (next : σ → LockProgram σ ι α)

namespace LockProgram

variable {σ ι α β : Type}

/-! ### Building programs -/

/-- Go on with `f` when the program is done. -/
def andThen : LockProgram σ ι α → (α → LockProgram σ ι β) → LockProgram σ ι β
  | done a, f => f a
  | crash, _ => crash
  | wait i next, f => wait i (next.andThen f)
  | signal i next, f => signal i (next.andThen f)
  | access write next, f => access write fun s => (next s).andThen f

instance : Monad (LockProgram σ ι) where
  pure := done
  bind := andThen

/-- Take a lock. -/
def lock (i : ι) : LockProgram σ ι Unit := wait i (done ())

/-- Release a lock. -/
def unlock (i : ι) : LockProgram σ ι Unit := signal i (done ())

/-- Look something up in the state. -/
def read (f : σ → α) : LockProgram σ ι α := access (fun s => s) fun s => done (f s)

/-- Change the state. -/
def write (f : σ → σ) : LockProgram σ ι Unit := access f fun _ => done ()

/-- Change the state, and look something up in it as it was before. -/
def update (f : σ → σ) (g : σ → α) : LockProgram σ ι α := access f fun s => done (g s)

/-- A value that must be there. -/
def require : Option α → LockProgram σ ι α
  | some a => done a
  | none => crash

/-- Run a program under a condition. -/
def onlyIf (c : Prop) [Decidable c] (p : LockProgram σ ι Unit) : LockProgram σ ι Unit :=
  if c then p else done ()

/-- Run a body for each item of a list, in its order. -/
def forEach (body : β → LockProgram σ ι Unit) : List β → LockProgram σ ι Unit
  | [] => done ()
  | b :: rest => (body b).andThen fun _ => forEach body rest

/-! ### Balance -/

variable [DecidableEq ι] {R : σ → σ → Prop} {post post' : α → Finset ι → σ → Prop}
  {p : LockProgram σ ι α} {held : Finset ι} {s s' : σ} {i : ι}

/-- The program is balanced, whatever the others do within `R` between its steps. -/
def Balanced (R : σ → σ → Prop) (post : α → Finset ι → σ → Prop) :
    LockProgram σ ι α → Finset ι → σ → Prop
  | done a, held, s => post a held s
  | crash, _, _ => True
  | wait i next, held, s => i ∉ held ∧ Balanced R post next (insert i held) s
  | signal i next, held, s => i ∈ held ∧ Balanced R post next (held.erase i) s
  | access write next, held, s =>
      ∀ s', R s s' → R s' (write s') ∧ Balanced R post (next s') held (write s')

@[simp]
theorem balanced_pure {a : α} :
    Balanced R post (pure a : LockProgram σ ι α) held s ↔ post a held s := Iff.rfl

@[simp]
theorem balanced_done {a : α} :
    Balanced R post (done a : LockProgram σ ι α) held s ↔ post a held s := Iff.rfl

/-- Nothing is said about what follows an undefined operation. -/
@[simp]
theorem balanced_crash : Balanced R post (crash : LockProgram σ ι α) held s := trivial

/-- **The rule of composition.** -/
theorem balanced_andThen {post : β → Finset ι → σ → Prop} {f : α → LockProgram σ ι β} :
    Balanced R post (p.andThen f) held s ↔
      Balanced R (fun a held s => Balanced R post (f a) held s) p held s := by
  induction p generalizing held s with
  | done a => exact Iff.rfl
  | crash => exact Iff.rfl
  | wait i next ih => exact and_congr_right fun _ => ih
  | signal i next ih => exact and_congr_right fun _ => ih
  | access write next ih =>
      exact forall_congr' fun s' => imp_congr_right fun _ => and_congr_right fun _ => ih s'

@[simp]
theorem balanced_bind {post : β → Finset ι → σ → Prop} {f : α → LockProgram σ ι β} :
    Balanced R post (p >>= f) held s ↔
      Balanced R (fun a held s => Balanced R post (f a) held s) p held s := balanced_andThen

@[simp]
theorem balanced_lock {post : Unit → Finset ι → σ → Prop} :
    Balanced R post (lock i) held s ↔ i ∉ held ∧ post () (insert i held) s := Iff.rfl

@[simp]
theorem balanced_unlock {post : Unit → Finset ι → σ → Prop} :
    Balanced R post (unlock i) held s ↔ i ∈ held ∧ post () (held.erase i) s := Iff.rfl

@[simp]
theorem balanced_read [Std.Refl R] {f : σ → α} :
    Balanced R post (read f) held s ↔ ∀ s', R s s' → post (f s') held s' :=
  forall_congr' fun s' => imp_congr_right fun _ => and_iff_right (refl s')

@[simp]
theorem balanced_write {post : Unit → Finset ι → σ → Prop} {f : σ → σ} :
    Balanced R post (write f) held s ↔
      ∀ s', R s s' → R s' (f s') ∧ post () held (f s') := Iff.rfl

@[simp]
theorem balanced_update {f : σ → σ} {g : σ → α} :
    Balanced R post (update f g) held s ↔
      ∀ s', R s s' → R s' (f s') ∧ post (g s') held (f s') := Iff.rfl

@[simp]
theorem balanced_require {a : Option α} :
    Balanced R post (require a : LockProgram σ ι α) held s ↔ ∀ b, a = some b → post b held s := by
  cases a with
  | none => simp [require]
  | some b => simp [require]

/-- A balanced program meets a weaker postcondition. -/
theorem Balanced.mono (balanced : Balanced R post p held s)
    (weaker : ∀ a held s, post a held s → post' a held s) : Balanced R post' p held s := by
  induction p generalizing held s with
  | done a => exact weaker _ _ _ balanced
  | crash => trivial
  | wait i next ih => exact ⟨balanced.1, ih balanced.2⟩
  | signal i next ih => exact ⟨balanced.1, ih balanced.2⟩
  | access write next ih =>
      exact fun s' related => ⟨(balanced s' related).1, ih s' (balanced s' related).2⟩

/-- What the others do within `R` does not hurt a balanced program. -/
theorem Balanced.stable [IsTrans σ R] (balanced : Balanced R post p held s) (changed : R s s')
    (stable : ∀ a held s s', post a held s → R s s' → post a held s') :
    Balanced R post p held s' := by
  induction p generalizing held s s' with
  | done a => exact stable _ _ _ _ balanced changed
  | crash => trivial
  | wait i next ih => exact ⟨balanced.1, ih balanced.2 changed⟩
  | signal i next ih => exact ⟨balanced.1, ih balanced.2 changed⟩
  | access write next ih =>
      exact fun s'' related => balanced s'' (IsTrans.trans _ _ _ changed related)

/-! ### Programs that move locks -/

/-- In every state the program is balanced, and takes the locks from `held` to `held'`. -/
def Moves (R : σ → σ → Prop) (p : LockProgram σ ι α) (held held' : Finset ι) : Prop :=
  ∀ s, Balanced R (fun _ h _ => h = held') p held s

namespace Moves

variable {held' held'' : Finset ι} {q : LockProgram σ ι β} {f : α → LockProgram σ ι β}

theorem bind (first : Moves R p held held') (rest : ∀ a, Moves R (f a) held' held'') :
    Moves R (p >>= f) held held'' := fun s => by
  rw [balanced_bind]
  refine (first s).mono ?_
  rintro a h s' rfl
  exact rest a s'

theorem pure {a : α} : Moves R (Pure.pure a : LockProgram σ ι α) held held := fun _ => rfl

theorem lock (new : i ∉ held) : Moves R (LockProgram.lock i) held (insert i held) :=
  fun _ => ⟨new, rfl⟩

/-- A lock that was just taken is given back. -/
theorem unlock_insert (new : i ∉ held) : Moves R (LockProgram.unlock i) (insert i held) held :=
  fun _ => ⟨Finset.mem_insert_self i held, Finset.erase_insert new⟩

theorem read [Std.Refl R] {g : σ → α} : Moves R (LockProgram.read g) held held :=
  fun _ => balanced_read.mpr fun _ _ => rfl

theorem write {g : σ → σ} (within : ∀ s, R s (g s)) : Moves R (LockProgram.write g) held held :=
  fun _ => balanced_write.mpr fun s' _ => ⟨within s', rfl⟩

theorem update {g : σ → σ} {look : σ → α} (within : ∀ s, R s (g s)) :
    Moves R (LockProgram.update g look) held held :=
  fun _ => balanced_update.mpr fun s' _ => ⟨within s', rfl⟩

theorem require {a : Option α} : Moves R (LockProgram.require a) held held :=
  fun _ => balanced_require.mpr fun _ _ => rfl

theorem ite {c : Prop} [Decidable c] {p' : LockProgram σ ι α} (yes : c → Moves R p held held')
    (no : ¬ c → Moves R p' held held') : Moves R (if c then p else p') held held' := by
  split
  · exact yes ‹c›
  · exact no ‹¬ c›

theorem onlyIf {c : Prop} [Decidable c] {p : LockProgram σ ι Unit}
    (yes : c → Moves R p held held) : Moves R (LockProgram.onlyIf c p) held held :=
  ite yes fun _ => pure

/-- **The rule of loops.** -/
theorem forEach {body : β → LockProgram σ ι Unit} {l : List β}
    (each : ∀ b ∈ l, Moves R (body b) held held) :
    Moves R (LockProgram.forEach body l) held held := by
  induction l with
  | nil => exact pure
  | cons b rest ih =>
      exact bind (each b List.mem_cons_self) fun _ =>
        ih fun c mem => each c (List.mem_cons_of_mem b mem)

end Moves

end LockProgram

end Sdm.Lib
