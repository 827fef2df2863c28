import Mathlib.Data.List.Basic
import Mathlib.Data.List.Induction

/-!
Machines whose steps may be undefined, their runs, and invariants of runs.

A machine takes one action at a time. A step returns the next state and an
output, or nothing when it performs an undefined operation. `Reaches ok s₀ s`
is a run from `s₀` to `s` all of whose steps meet the guard `ok`, a condition on
the state before the step and the action.

* `Reaches.invariant`: what holds at the start and is kept by every guarded
  step holds in every state reached.
* `Reaches.mono`: a weaker guard admits the same runs.
* `withGhost` adds a history variable that no step reads. `Reaches.exists_ghost` adds
  it to a run, so a result about the annotated runs is one about the runs of the machine
  itself.
* `prefixes_iff`: a property of every state of a run of a machine that takes every
  action, as a guard on the steps.
* `Reaches.simulates`: a run of one machine is followed by a run of another
  when each of its steps is.
-/

namespace Sdm.Lib

/-- A machine with states `σ`, actions `α` and outputs `ω`. -/
structure Machine (σ α ω : Type*) where
  step : σ → α → Option (σ × ω)

namespace Machine

variable {σ α ω γ τ : Type*} {M : Machine σ α ω} {ok ok' : σ → α → Prop} {s₀ s s' : σ} {a : α}
  {o : ω}

/-- Runs from `s₀` whose steps all meet the guard `ok`. -/
inductive Reaches (M : Machine σ α ω) (ok : σ → α → Prop) (s₀ : σ) : σ → Prop where
  | start : Reaches M ok s₀ s₀
  | step {s s' : σ} {a : α} {o : ω} : Reaches M ok s₀ s → ok s a →
      M.step s a = some (s', o) → Reaches M ok s₀ s'

/-- The runs of the machine, with no guard on its steps. -/
abbrev Reachable (M : Machine σ α ω) (s₀ s : σ) : Prop := M.Reaches (fun _ _ => True) s₀ s

theorem Reachable.next (run : M.Reachable s₀ s) (taken : M.step s a = some (s', o)) :
    M.Reachable s₀ s' :=
  .step run trivial taken

/-- What holds at the start of a run and is kept by each of its steps holds at
its end. -/
theorem Reaches.invariant {I : σ → Prop} (run : M.Reaches ok s₀ s) (init : I s₀)
    (keep : ∀ s a s' o, I s → ok s a → M.step s a = some (s', o) → I s') : I s := by
  induction run with
  | start => exact init
  | step _ guard taken ih => exact keep _ _ _ _ ih guard taken

/-- A run goes on from where another ends. -/
theorem Reaches.trans {s₁ s₂ : σ} (first : M.Reaches ok s₀ s₁) (second : M.Reaches ok s₁ s₂) :
    M.Reaches ok s₀ s₂ := by
  induction second with
  | start => exact first
  | step _ guard taken ih => exact .step ih guard taken

/-- Runs under a guard are runs under a weaker one. -/
theorem Reaches.mono (weaker : ∀ s a, ok s a → ok' s a) (run : M.Reaches ok s₀ s) :
    M.Reaches ok' s₀ s := by
  induction run with
  | start => exact .start
  | step _ guard taken ih => exact .step ih (weaker _ _ guard) taken

theorem Reaches.reachable (run : M.Reaches ok s₀ s) : M.Reachable s₀ s :=
  run.mono fun _ _ _ => trivial

/-- Each step of `M` out of a related state is matched by a run of `N`. -/
theorem Reaches.simulates {β υ : Type*} {N : Machine τ β υ} {okN : τ → β → Prop} {t₀ : τ}
    {R : σ → τ → Prop} (run : M.Reaches ok s₀ s) (init : R s₀ t₀)
    (follow : ∀ s a s' o t, R s t → ok s a → M.step s a = some (s', o) →
      ∃ t', N.Reaches okN t t' ∧ R s' t') :
    ∃ t, N.Reaches okN t₀ t ∧ R s t := by
  induction run with
  | start => exact ⟨t₀, .start, init⟩
  | step _ guard taken ih =>
      obtain ⟨t, runN, related⟩ := ih
      obtain ⟨t', more, related'⟩ := follow _ _ _ _ t related guard taken
      exact ⟨t', runN.trans more, related'⟩

/-! ### Runs with what they show -/

/-- A guarded run with its actions and outputs, the last one at the end. -/
inductive Trace (M : Machine σ α ω) (ok : σ → α → Prop) (s₀ : σ) : List (α × ω) → σ → Prop where
  | start : Trace M ok s₀ [] s₀
  | step {es : List (α × ω)} {s s' : σ} {a : α} {o : ω} : Trace M ok s₀ es s → ok s a →
      M.step s a = some (s', o) → Trace M ok s₀ (es ++ [(a, o)]) s'

/-- A trace goes on from where a run ends. -/
theorem Trace.reaches {s₁ : σ} {es : List (α × ω)} (trace : M.Trace ok s₁ es s)
    (run : M.Reaches ok s₀ s₁) : M.Reaches ok s₀ s := by
  induction trace with
  | start => exact run
  | step _ guard taken ih => exact .step ih guard taken

/-! ### Running a list of actions -/

/-- The state after a list of actions, all of them defined. -/
def exec (M : Machine σ α ω) : σ → List α → Option σ
  | s, [] => some s
  | s, a :: as => (M.step s a).bind fun next => M.exec next.1 as

/-- A list of actions that executes is a run, under any guard that its actions
meet in all states. -/
theorem Reaches.exec {as : List α} (run : M.Reaches ok s₀ s) (guard : ∀ a ∈ as, ∀ s, ok s a)
    (done : M.exec s as = some s') : M.Reaches ok s₀ s' := by
  induction as generalizing s with
  | nil =>
      cases done
      exact run
  | cons a as ih =>
      obtain ⟨next, taken, rest⟩ := Option.bind_eq_some_iff.mp done
      exact ih (run.step (guard a List.mem_cons_self s) taken)
        (fun b mem => guard b (List.mem_cons_of_mem _ mem)) rest

/-- The same with the guard checked at each action. -/
def execGuarded (M : Machine σ α ω) (ok : σ → α → Prop) [∀ s a, Decidable (ok s a)] :
    σ → List α → Option σ
  | s, [] => some s
  | s, a :: as =>
      if ok s a then (M.step s a).bind fun next => M.execGuarded ok next.1 as else none

/-- A list of actions that executes with its guards is a run. -/
theorem Reaches.execGuarded [∀ s a, Decidable (ok s a)] {as : List α} (run : M.Reaches ok s₀ s)
    (done : M.execGuarded ok s as = some s') : M.Reaches ok s₀ s' := by
  induction as generalizing s with
  | nil =>
      cases done
      exact run
  | cons a as ih =>
      obtain ⟨guard, done⟩ := Option.ite_none_right_eq_some.mp done
      obtain ⟨next, taken, rest⟩ := Option.bind_eq_some_iff.mp done
      exact ih (run.step guard taken) rest

/-! ### Machines that take every action -/

/-- A property of all states of a run of `as` comes down to a guard on its steps, when
the guarded steps keep an invariant that has the property and every other step out of
the invariant loses the property. -/
theorem prefixes_iff {next : σ → α → σ} {G : σ → α → Prop} {I P : σ → Prop} {as : List α}
    (init : I s₀) (holds : ∀ s, I s → P s) (keep : ∀ s, ∀ a ∈ as, I s → G s a → I (next s a))
    (breaks : ∀ s, ∀ a ∈ as, I s → ¬ G s a → ¬ P (next s a)) :
    (∀ done, done <+: as → P (done.foldl next s₀)) ↔
      ∀ done a, done ++ [a] <+: as → G (done.foldl next s₀) a := by
  have taken {done : List α} {a : α} (part : done ++ [a] <+: as) : a ∈ as :=
    part.subset (List.mem_append_right done (List.mem_singleton_self a))
  have invariant (guard : ∀ done a, done ++ [a] <+: as → I (done.foldl next s₀) →
      G (done.foldl next s₀) a) (done : List α) (part : done <+: as) :
      I (done.foldl next s₀) := by
    induction done using List.reverseRecOn with
    | nil => exact init
    | append_singleton done a ih =>
        have before := ih ((List.prefix_append done [a]).trans part)
        rw [List.foldl_append]
        exact keep _ a (taken part) before (guard done a part before)
  constructor
  · intro all
    have guard : ∀ done a, done ++ [a] <+: as → I (done.foldl next s₀) →
        G (done.foldl next s₀) a := by
      intro done a part before
      by_contra not
      refine breaks _ a (taken part) before not ?_
      have after := all _ part
      rwa [List.foldl_append] at after
    intro done a part
    exact guard done a part (invariant guard done ((List.prefix_append done [a]).trans part))
  · intro guard done part
    exact holds _ (invariant (fun done a part _ => guard done a part) done part)

/-! ### History variables -/

/-- The machine with a history variable, updated from each step and its output. -/
def withGhost (M : Machine σ α ω) (record : γ → σ → α → ω → γ) : Machine (σ × γ) α ω where
  step s a := (M.step s.1 a).map fun next => ((next.1, record s.2 s.1 a next.2), next.2)

theorem withGhost_step_eq_some {record : γ → σ → α → ω → γ} {g g' : γ} :
    (M.withGhost record).step (s, g) a = some ((s', g'), o) ↔
      M.step s a = some (s', o) ∧ g' = record g s a o := by
  simp only [withGhost, Option.map_eq_some_iff, Prod.mk.injEq, Prod.exists]
  constructor
  · rintro ⟨_, _, taken, ⟨rfl, rfl⟩, rfl⟩
    exact ⟨taken, rfl⟩
  · rintro ⟨taken, rfl⟩
    exact ⟨s', o, taken, ⟨rfl, rfl⟩, rfl⟩

/-- One more step of a run with its history. -/
theorem Reaches.withGhost_step {record : γ → σ → α → ω → γ} {p₀ : σ × γ} {g : γ}
    {ok : σ × γ → α → Prop} (run : (M.withGhost record).Reaches ok p₀ (s, g)) (guard : ok (s, g) a)
    (taken : M.step s a = some (s', o)) :
    (M.withGhost record).Reaches ok p₀ (s', record g s a o) :=
  .step run guard (withGhost_step_eq_some.mpr ⟨taken, rfl⟩)

/-- Every run carries a history. -/
theorem Reaches.exists_ghost (record : γ → σ → α → ω → γ) (g₀ : γ) (run : M.Reaches ok s₀ s) :
    ∃ g, (M.withGhost record).Reaches (fun q a => ok q.1 a) (s₀, g₀) (s, g) := by
  induction run with
  | start => exact ⟨g₀, .start⟩
  | step _ guard taken ih =>
      obtain ⟨g, run'⟩ := ih
      exact ⟨_, .step run' guard (withGhost_step_eq_some.mpr ⟨taken, rfl⟩)⟩

end Machine

end Sdm.Lib
