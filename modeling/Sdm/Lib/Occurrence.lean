import Mathlib.Data.List.Infix
import Mathlib.Data.List.Range

/-!
Searches for a word that start again behind what they found.

`find` gives the first place of a word. `visit` is the loop around it: it takes a place to
its body, which leaves the loop with a result or lets it go on behind the place.

* `find_eq_some`, `find_eq_none`: the first place, and that there is none.
* `visit_eq`: the loop ends, and its body has taken the `occurrences` of the word in order,
  each of them once, up to the one at which it left.
-/

namespace Sdm.Lib

variable {α σ ρ : Type} [DecidableEq α] {t l : List α} {n k p : Nat}

/-- The first place at which the word stands. -/
def find (t : List α) : List α → Option Nat
  | [] => if t = [] then some 0 else none
  | a :: l => if t <+: a :: l then some 0 else (find t l).map (· + 1)

theorem find_eq_some :
    find t l = some n ↔ n ≤ l.length ∧ t <+: l.drop n ∧ ∀ m < n, ¬t <+: l.drop m := by
  induction l generalizing n with
  | nil =>
      simp only [find, List.length_nil, Nat.le_zero, List.drop_nil, List.prefix_nil]
      split
      · rename_i empty
        constructor
        · rintro ⟨⟩
          exact ⟨rfl, empty, fun m lt => absurd lt (Nat.not_lt_zero m)⟩
        · rintro ⟨rfl, -, -⟩
          rfl
      · rename_i full
        exact iff_of_false nofun fun all => full all.2.1
  | cons a l ih =>
      rw [find]
      split
      · rename_i here
        constructor
        · rintro ⟨⟩
          exact ⟨Nat.zero_le _, here, fun m lt => absurd lt (Nat.not_lt_zero m)⟩
        · rintro ⟨-, -, first⟩
          rw [Nat.eq_zero_of_not_pos fun pos => first 0 pos here]
      · rename_i absent
        rw [Option.map_eq_some_iff]
        constructor
        · rintro ⟨m, found, rfl⟩
          obtain ⟨within, here, first⟩ := ih.mp found
          refine ⟨Nat.succ_le_succ within, here, fun j lt => ?_⟩
          cases j with
          | zero => exact absent
          | succ j => exact first j (Nat.lt_of_succ_lt_succ lt)
        · rintro ⟨within, here, first⟩
          cases n with
          | zero => exact absurd here absent
          | succ n =>
              exact ⟨n, ih.mpr ⟨Nat.le_of_succ_le_succ within, here, fun m lt =>
                first (m + 1) (Nat.succ_lt_succ lt)⟩, rfl⟩

theorem find_eq_none : find t l = none ↔ ∀ m ≤ l.length, ¬t <+: l.drop m := by
  induction l with
  | nil =>
      simp only [find, List.length_nil, Nat.le_zero, List.drop_nil, List.prefix_nil, forall_eq,
        ite_eq_right_iff, reduceCtorEq, imp_false]
  | cons a l ih =>
      rw [find]
      split
      · rename_i here
        exact iff_of_false nofun fun none => none 0 (Nat.zero_le _) here
      · rename_i absent
        rw [Option.map_eq_none_iff, ih]
        constructor
        · intro none m within
          cases m with
          | zero => exact absent
          | succ m => exact none m (Nat.le_of_succ_le_succ within)
        · intro none m within
          exact none (m + 1) (Nat.succ_le_succ within)

/-- The places from `k` on at which the word stands. -/
def occurrences (t l : List α) (k : Nat) : List Nat :=
  (List.range' k (l.length + 1 - k)).filter fun p => t <+: l.drop p

theorem mem_occurrences : p ∈ occurrences t l k ↔ k ≤ p ∧ p ≤ l.length ∧ t <+: l.drop p := by
  simp only [occurrences, List.mem_filter, List.mem_range'_1, decide_eq_true_eq]
  constructor
  · rintro ⟨⟨behind, within⟩, here⟩
    exact ⟨behind, by omega, here⟩
  · rintro ⟨behind, within, here⟩
    exact ⟨⟨behind, by omega⟩, here⟩

/-- The places are in order. -/
theorem pairwise_occurrences : (occurrences t l k).Pairwise (· < ·) :=
  (List.pairwise_lt_range').filter _

theorem occurrences_of_none (absent : find t (l.drop k) = none) : occurrences t l k = [] := by
  apply List.eq_nil_iff_forall_not_mem.mpr
  intro p mem
  obtain ⟨behind, within, here⟩ := mem_occurrences.mp mem
  refine find_eq_none.mp absent (p - k) (by rw [List.length_drop]; omega) ?_
  rwa [List.drop_drop, Nat.add_sub_cancel' behind]

/-- Whether the word stands at one place. -/
theorem occurrences_eq (within : k ≤ l.length) :
    occurrences t l k =
      if t <+: l.drop k then k :: occurrences t l (k + 1) else occurrences t l (k + 1) := by
  rw [occurrences, show l.length + 1 - k = (l.length + 1 - (k + 1)) + 1 by omega,
    List.range'_succ, List.filter_cons]
  simp only [decide_eq_true_eq]
  rfl

/-- What is found first comes first, and the rest behind it. -/
theorem occurrences_of_some (inText : k ≤ l.length) (found : find t (l.drop k) = some n) :
    occurrences t l k = (k + n) :: occurrences t l (k + n + 1) := by
  obtain ⟨within, here, first⟩ := find_eq_some.mp found
  rw [List.length_drop] at within
  rw [List.drop_drop] at here
  have inside : k + n ≤ l.length := by omega
  -- Up to the place nothing is found.
  have skip : ∀ m ≤ n, occurrences t l k = occurrences t l (k + m) := by
    intro m le
    induction m with
    | zero => rfl
    | succ m ih =>
        have absent := first m (Nat.lt_of_succ_le le)
        rw [List.drop_drop] at absent
        rw [ih (Nat.le_of_succ_le le), occurrences_eq (by omega), if_neg absent, Nat.add_assoc]
  rw [skip n (Nat.le_refl n), occurrences_eq inside, if_pos here]

/-- Take the places to the body one after the other. -/
def walk (body : σ → Nat → σ ⊕ ρ) : List Nat → σ → σ ⊕ ρ
  | [], s => .inl s
  | p :: places, s =>
      match body s p with
      | .inl s' => walk body places s'
      | .inr r => .inr r

/-- The loop: find the next place from `k` on, and take it to the body. -/
def visit (t l : List α) (body : σ → Nat → σ ⊕ ρ) : Nat → Nat → σ → Option (σ ⊕ ρ)
  | 0, _, _ => none
  | fuel + 1, k, s =>
      match find t (l.drop k) with
      | none => some (.inl s)
      | some n =>
          match body s (k + n) with
          | .inl s' => visit t l body fuel (k + n + 1) s'
          | .inr r => some (.inr r)

/-- **The loop ends**, and has taken the places in order. -/
theorem visit_eq {body : σ → Nat → σ ⊕ ρ} {fuel : Nat} {s : σ} (set : t ≠ [])
    (within : k ≤ l.length) (enough : l.length < k + fuel) :
    visit t l body fuel k s = some (walk body (occurrences t l k) s) := by
  induction fuel generalizing k s with
  | zero => omega
  | succ fuel ih =>
      rw [visit]
      cases found : find t (l.drop k) with
      | none => rw [occurrences_of_none found]; rfl
      | some n =>
          have here := (find_eq_some.mp found).2.1
          rw [List.drop_drop] at here
          have inside : k + n < l.length := by
            by_contra outside
            rw [List.drop_of_length_le (Nat.not_lt.mp outside)] at here
            exact set (List.prefix_nil.mp here)
          simp only [occurrences_of_some within found, walk]
          cases body s (k + n) with
          | inl s' => exact ih (Nat.succ_le_of_lt inside) (by omega)
          | inr r => rfl

end Sdm.Lib
