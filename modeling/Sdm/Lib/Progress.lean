import Sdm.Lib.Machine

/-!
Progress of machines.

`Inevitable ok P s` says that from `s` every run whose steps meet the guard `ok` comes to a state
with `P`, and that no such run ends before.

* `Inevitable.only`: a state out of which all guarded steps lead to one state.
* `not_inevitable`: a state out of which no guarded step leads.
* `exec_prefixes_iff`: a property of every state of a run, as a guard on its actions.
-/

namespace Sdm.Lib.Machine

variable {σ α ω : Type*} {M : Machine σ α ω} {ok : σ → α → Prop} {P : σ → Prop} {s t : σ}

/-- Every guarded run comes to a state with `P`. -/
inductive Inevitable (M : Machine σ α ω) (ok : σ → α → Prop) (P : σ → Prop) : σ → Prop where
  | now {s : σ} : P s → Inevitable M ok P s
  | later {s : σ} : (∃ a s' o, ok s a ∧ M.step s a = some (s', o)) →
      (∀ a s' o, ok s a → M.step s a = some (s', o) → Inevitable M ok P s') → Inevitable M ok P s

/-- One guarded step can be taken, and no other leads to another state. -/
theorem Inevitable.only {a : α} {o : ω} (after : M.Inevitable ok P t) (guard : ok s a)
    (taken : M.step s a = some (t, o))
    (only : ∀ a' s' o', ok s a' → M.step s a' = some (s', o') → s' = t) : M.Inevitable ok P s := by
  refine .later ⟨a, t, o, guard, taken⟩ fun a' s' o' guard' taken' => ?_
  rw [only a' s' o' guard' taken']
  exact after

/-- A state without `P` where no guarded step can be taken. -/
theorem not_inevitable (not : ¬ P s) (stuck : ∀ a s' o, ok s a → M.step s a ≠ some (s', o)) :
    ¬ M.Inevitable ok P s := by
  intro inevitable
  cases inevitable with
  | now holds => exact not holds
  | later enabled _ =>
      obtain ⟨a, s', o, guard, taken⟩ := enabled
      exact stuck a s' o guard taken

/-- A property of all states of a run comes down to a guard on its actions, when the guarded
actions keep an invariant that has the property and every other action out of the invariant
loses the property. -/
theorem exec_prefixes_iff {G : α → Prop} {I : σ → Prop} {as : List α} {s' : σ} (init : I s)
    (holds : ∀ s, I s → P s) (keep : ∀ s a s' o, I s → G a → M.step s a = some (s', o) → I s')
    (breaks : ∀ s a s' o, I s → ¬ G a → M.step s a = some (s', o) → ¬ P s')
    (ran : M.exec s as = some s') :
    (∀ done s₁, done <+: as → M.exec s done = some s₁ → P s₁) ↔ ∀ a ∈ as, G a := by
  induction as generalizing s with
  | nil =>
      refine iff_of_true ?_ (List.forall_mem_nil G)
      intro done s₁ part here
      cases List.prefix_nil.mp part
      cases here
      exact holds s init
  | cons a as ih =>
      obtain ⟨⟨next, o⟩, taken, rest⟩ := Option.bind_eq_some_iff.mp ran
      have first (done : List α) : M.exec s (a :: done) = M.exec next done := by
        rw [exec, taken, Option.bind_some]
      constructor
      · intro all
        have guard : G a := by
          by_contra not
          exact breaks s a next o init not taken
            (all [a] next (List.prefix_append [a] as) (first []))
        refine List.forall_mem_cons.mpr ⟨guard, (ih (keep s a next o init guard taken) rest).mp ?_⟩
        intro done s₁ part here
        exact all (a :: done) s₁ (List.cons_prefix_cons.mpr ⟨rfl, part⟩) ((first done).trans here)
      · intro guards done s₁ part here
        obtain ⟨guard, later⟩ := List.forall_mem_cons.mp guards
        cases done with
        | nil =>
            cases here
            exact holds s init
        | cons b done =>
            obtain ⟨rfl, within⟩ := List.cons_prefix_cons.mp part
            exact (ih (keep s b next o init guard taken) rest).mpr later done s₁ within
              ((first done).symm.trans here)

end Sdm.Lib.Machine
