import Mathlib.Algebra.GroupWithZero.Nat
import Mathlib.Data.List.Basic

/-!
Packing a list into what room there is.

The items are taken in order. One that does not fit is left out, and the next one is
tried.

* `packed_sublist`: what is packed is part of the list, in its order.
* `packed_eq_self_iff`: all is packed when each item fits behind all those before it.
-/

namespace Sdm.Lib

variable {α : Type} (weight : α → Nat) (Fits : Nat → α → Prop) [∀ used, DecidablePred (Fits used)]

/-- What is packed when so much is used already. -/
def packed : Nat → List α → List α
  | _, [] => []
  | used, x :: xs => if Fits used x then x :: packed (used + weight x) xs else packed used xs

variable {weight Fits} {used : Nat} {items : List α}

theorem packed_cons_of_fits {x : α} (fits : Fits used x) :
    packed weight Fits used (x :: items) = x :: packed weight Fits (used + weight x) items :=
  if_pos fits

theorem packed_cons_of_not {x : α} (full : ¬ Fits used x) :
    packed weight Fits used (x :: items) = packed weight Fits used items := if_neg full

/-- What is packed is part of the list, in its order. -/
theorem packed_sublist : (packed weight Fits used items).Sublist items := by
  induction items generalizing used with
  | nil => exact List.Sublist.refl []
  | cons x xs ih =>
      by_cases fits : Fits used x
      · rw [packed_cons_of_fits fits]
        exact ih.cons_cons x
      · rw [packed_cons_of_not fits]
        exact ih.cons x

/-- **All is packed** when each item fits behind all those before it. -/
theorem packed_eq_self_iff : packed weight Fits used items = items ↔
    ∀ before x after, items = before ++ x :: after → Fits (used + (before.map weight).sum) x := by
  induction items generalizing used with
  | nil => simp [packed]
  | cons y ys ih =>
      by_cases fits : Fits used y
      · rw [packed_cons_of_fits fits, List.cons_inj_right, ih]
        constructor
        · intro rest before x after split
          cases before with
          | nil =>
              obtain ⟨rfl, -⟩ := List.cons.inj split
              exact fits
          | cons z before =>
              obtain ⟨rfl, later⟩ := List.cons.inj split
              rw [List.map_cons, List.sum_cons, ← Nat.add_assoc]
              exact rest before x after later
        · intro all before x after split
          have here := all (y :: before) x after (by rw [split, List.cons_append])
          rwa [List.map_cons, List.sum_cons, ← Nat.add_assoc] at here
      · rw [packed_cons_of_not fits]
        constructor
        · intro same
          have sub : (packed weight Fits used ys).Sublist ys := packed_sublist
          have le := sub.length_le
          rw [same, List.length_cons] at le
          exact absurd le (Nat.not_succ_le_self _)
        · intro all
          exact absurd (all [] y ys rfl) fits

end Sdm.Lib
