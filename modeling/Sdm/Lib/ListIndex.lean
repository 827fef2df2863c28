import Mathlib.Data.List.Basic
import Mathlib.Data.List.Perm.Basic

/-!
Lists that are changed at an index found by a search.

* `exists_split_of_findIdx?`: the search splits the list at the first element that meets the
  test; a change or an erasure at its index is one at this place.
* `count_map_eraseIdx`: what an erasure takes from a count.
-/

namespace Sdm.Lib

section ListIndex

variable {α β : Type*} {l : List α} {i : Nat} {a : α}

/-- The list around an index. -/
theorem exists_split_of_getElem? (found : l[i]? = some a) :
    ∃ pre post, l = pre ++ a :: post ∧ l.eraseIdx i = pre ++ post ∧
      ∀ f : α → α, l.modify i f = pre ++ f a :: post := by
  induction l generalizing i with
  | nil => cases found
  | cons b l ih =>
      cases i with
      | zero =>
          cases found
          exact ⟨[], l, rfl, rfl, fun _ => rfl⟩
      | succ i =>
          obtain ⟨pre, post, whole, erased, modified⟩ := ih (i := i) (by simpa using found)
          refine ⟨b :: pre, post, by rw [whole, List.cons_append], ?_, fun f => ?_⟩
          · rw [List.eraseIdx_cons_succ, erased, List.cons_append]
          · rw [List.modify_succ_cons, modified, List.cons_append]

/-- The list around the first element that meets the test. -/
theorem exists_split_of_findIdx? {p : α → Bool} (found : l.findIdx? p = some i) :
    ∃ a pre post, l = pre ++ a :: post ∧ p a = true ∧ (∀ b ∈ pre, p b = false) ∧
      l[i]? = some a ∧ l.eraseIdx i = pre ++ post ∧
      ∀ f : α → α, l.modify i f = pre ++ f a :: post := by
  induction l generalizing i with
  | nil => cases found
  | cons b l ih =>
      rw [List.findIdx?_cons] at found
      cases test : p b with
      | true =>
          rw [test] at found
          cases found
          exact ⟨b, [], l, rfl, test, nofun, rfl, rfl, fun _ => rfl⟩
      | false =>
          rw [test] at found
          obtain ⟨j, found', rfl⟩ := Option.map_eq_some_iff.mp found
          obtain ⟨a, pre, post, whole, hit, before, at_j, erased, modified⟩ := ih found'
          refine ⟨a, b :: pre, post, by rw [whole, List.cons_append], hit, ?_, ?_, ?_, fun f => ?_⟩
          · intro c mem
            rcases List.mem_cons.mp mem with rfl | mem
            · exact test
            · exact before c mem
          · rw [List.getElem?_cons_succ]
            exact at_j
          · rw [List.eraseIdx_cons_succ, erased, List.cons_append]
          · rw [List.modify_succ_cons, modified, List.cons_append]

/-- An element of the modified list is an old one or the new one. -/
theorem mem_modify {f : α → α} {b : α} (found : l[i]? = some a) (mem : b ∈ l.modify i f) :
    b ∈ l ∨ b = f a := by
  obtain ⟨pre, post, whole, -, modified⟩ := exists_split_of_getElem? found
  rw [modified] at mem
  rw [whole]
  simp only [List.mem_append, List.mem_cons] at mem ⊢
  tauto

/-- A change that keeps a feature of the elements. -/
theorem map_modify_of_kept {f : α → α} {g : α → β} (kept : ∀ a, g (f a) = g a) :
    (l.modify i f).map g = l.map g := by
  induction l generalizing i with
  | nil => cases i <;> rfl
  | cons b l ih =>
      cases i with
      | zero => simp [kept]
      | succ i => simp [ih]

/-- A replacement that keeps a feature of the element. -/
theorem map_set_of_same {b : α} {g : α → β} (found : l[i]? = some a) (same : g b = g a) :
    (l.set i b).map g = l.map g := by
  obtain ⟨pre, post, whole, -, modified⟩ := exists_split_of_getElem? found
  rw [List.set_eq_modify, modified, whole]
  simp [same]

/-- An erasure takes one from the count of the feature that the element has. -/
theorem count_map_eraseIdx [DecidableEq β] {g : α → β} {b : β} (found : l[i]? = some a) :
    (l.map g).count b = ((l.eraseIdx i).map g).count b + if g a = b then 1 else 0 := by
  obtain ⟨pre, post, whole, erased, -⟩ := exists_split_of_getElem? found
  rw [erased, whole, List.map_append, List.map_append, List.map_cons, List.count_append,
    List.count_append, List.count_cons, ← Nat.add_assoc]
  simp only [beq_iff_eq]

end ListIndex

end Sdm.Lib
