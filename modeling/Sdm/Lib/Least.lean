import Mathlib.Data.List.Induction
import Mathlib.Data.List.FinRange
import Mathlib.Order.Defs.LinearOrder

/-!
The running minimum of a loop.

The loop looks at the elements in order. It skips those that have no key, and keeps the first
element whose key is below everything that it kept before. At the start it keeps nothing, and
only a key below the bound `low` counts.

* `leastBelow_eq_none_iff`: the loop keeps nothing when no key is below the bound.
* `leastBelow_eq_some_iff`: otherwise it keeps the first of the elements with the least key.
-/

namespace Sdm.Lib

section Least

variable {α β : Type*} [LinearOrder β]

/-- One round of the loop. -/
def keepLeast (key : α → Option β) (low : β) (best : Option (α × β)) (a : α) : Option (α × β) :=
  match key a with
  | none => best
  | some k => if k < best.elim low Prod.snd then some (a, k) else best

/-- The element that the loop keeps, with its key. -/
def leastBelow (key : α → Option β) (low : β) (l : List α) : Option (α × β) :=
  l.foldl (keepLeast key low) none

variable {key : α → Option β} {low : β} {l : List α} {a : α} {k : β}

@[simp]
theorem leastBelow_nil : leastBelow key low [] = none := rfl

@[simp]
theorem leastBelow_append_singleton :
    leastBelow key low (l ++ [a]) = keepLeast key low (leastBelow key low l) a := by
  simp [leastBelow]

/-- The loop keeps nothing exactly when no key is below the bound. -/
theorem leastBelow_eq_none_iff :
    leastBelow key low l = none ↔ ∀ b ∈ l, ∀ k, key b = some k → low ≤ k := by
  induction l using List.reverseRecOn with
  | nil => simp
  | append_singleton l a ih =>
      rw [leastBelow_append_singleton]
      cases keyed : key a with
      | none => simp [keepLeast, keyed, ih, or_imp, forall_and]
      | some k =>
          cases before : leastBelow key low l with
          | none =>
              rw [before] at ih
              by_cases less : k < low
              · simp [keepLeast, keyed, less, or_imp, forall_and]
              · have all := ih.mp rfl
                simp only [keepLeast, keyed, Option.elim_none, less, if_false, List.mem_append,
                  List.mem_singleton, true_iff]
                rintro b (mem | rfl) k' keyed'
                · exact all b mem k' keyed'
                · rw [keyed] at keyed'
                  cases keyed'
                  exact not_lt.mp less
          | some p =>
              rw [before] at ih
              refine iff_of_false ?_ ?_
              · by_cases less : k < p.2 <;> simp [keepLeast, keyed, less]
              · intro all
                refine absurd (ih.mpr fun b mem => all b (List.mem_append_left _ mem)) ?_
                simp

/-- The first of the elements with the least key, when this is below the bound. -/
structure FirstLeast [LT α] (key : α → Option β) (low : β) (l : List α) (a : α) (k : β) :
    Prop where
  mem : a ∈ l
  keyed : key a = some k
  below : k < low
  least : ∀ b ∈ l, ∀ k', key b = some k' → k ≤ k'
  first : ∀ b ∈ l, b < a → ∀ k', key b = some k' → k < k'

/-- The loop keeps the first element with the least key. -/
theorem firstLeast_of_leastBelow [Preorder α] (sorted : l.Pairwise (· < ·))
    (kept : leastBelow key low l = some (a, k)) : FirstLeast key low l a k := by
  induction l using List.reverseRecOn generalizing a k with
  | nil => cases kept
  | append_singleton l c ih =>
      obtain ⟨sorted', -, last⟩ := List.pairwise_append.mp sorted
      have later : ∀ b ∈ l, b < c := fun b mem => last b mem c (List.mem_singleton_self c)
      rw [leastBelow_append_singleton] at kept
      -- Nothing below the key of `a` comes at the end of the list.
      have extend (notLess : ∀ k', key c = some k' → ¬ k' < k)
          (before : leastBelow key low l = some (a, k)) : FirstLeast key low (l ++ [c]) a k := by
        have part := ih sorted' before
        refine ⟨List.mem_append_left _ part.mem, part.keyed, part.below, ?_, ?_⟩
        · intro b mem k' keyed'
          rcases List.mem_append.mp mem with mem | mem
          · exact part.least b mem k' keyed'
          · rw [List.mem_singleton.mp mem] at keyed'
            exact not_lt.mp (notLess k' keyed')
        · intro b mem earlier k' keyed'
          rcases List.mem_append.mp mem with mem | mem
          · exact part.first b mem earlier k' keyed'
          · rw [List.mem_singleton.mp mem] at earlier
            exact absurd (earlier.trans (later a part.mem)) (lt_irrefl c)
      cases keyed : key c with
      | none =>
          simp only [keepLeast, keyed] at kept
          exact extend (by simp [keyed]) kept
      | some k' =>
          simp only [keepLeast, keyed] at kept
          split at kept
          · rename_i less
            cases kept
            have below : ∀ b ∈ l, ∀ k₀, key b = some k₀ → k < k₀ := by
              intro b mem k₀ keyed₀
              cases before : leastBelow key low l with
              | none =>
                  rw [before] at less
                  exact less.trans_le (leastBelow_eq_none_iff.mp before b mem k₀ keyed₀)
              | some p =>
                  rw [before] at less
                  exact less.trans_le ((ih sorted' before).least b mem k₀ keyed₀)
            refine ⟨List.mem_append_right _ (List.mem_singleton_self _), keyed, ?_, ?_, ?_⟩
            · cases before : leastBelow key low l with
              | none =>
                  rw [before] at less
                  exact less
              | some p =>
                  rw [before] at less
                  exact less.trans (ih sorted' before).below
            · intro b mem k₀ keyed₀
              rcases List.mem_append.mp mem with mem | mem
              · exact (below b mem k₀ keyed₀).le
              · rw [List.mem_singleton.mp mem, keyed] at keyed₀
                cases keyed₀
                exact le_rfl
            · intro b mem earlier k₀ keyed₀
              rcases List.mem_append.mp mem with mem | mem
              · exact below b mem k₀ keyed₀
              · rw [List.mem_singleton.mp mem] at earlier
                exact absurd earlier (lt_irrefl _)
          · rename_i notLess
            refine extend ?_ kept
            intro k₀ keyed₀
            rw [keyed] at keyed₀
            cases keyed₀
            rwa [kept] at notLess

/-- There is at most one first element with the least key. -/
theorem FirstLeast.unique [LinearOrder α] {b : α} {k' : β} (one : FirstLeast key low l a k)
    (two : FirstLeast key low l b k') : a = b ∧ k = k' := by
  have same : k = k' :=
    le_antisymm (one.least b two.mem k' two.keyed) (two.least a one.mem k one.keyed)
  rcases lt_trichotomy a b with less | equal | less
  · exact absurd (two.first a one.mem less k one.keyed) (same ▸ lt_irrefl _)
  · exact ⟨equal, same⟩
  · exact absurd (one.first b two.mem less k' two.keyed) (same ▸ lt_irrefl _)

/-- The loop keeps exactly the first element with the least key. -/
theorem leastBelow_eq_some_iff [LinearOrder α] (sorted : l.Pairwise (· < ·)) :
    leastBelow key low l = some (a, k) ↔ FirstLeast key low l a k := by
  constructor
  · exact firstLeast_of_leastBelow sorted
  · intro first
    cases kept : leastBelow key low l with
    | none =>
        exact absurd (leastBelow_eq_none_iff.mp kept a first.mem k first.keyed)
          (not_le.mpr first.below)
    | some p =>
        obtain ⟨same, same'⟩ := first.unique (firstLeast_of_leastBelow sorted kept)
        rw [same, same']

end Least

end Sdm.Lib
