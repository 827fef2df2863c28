import Mathlib.Data.List.Basic
import Mathlib.Data.List.Nodup
import Mathlib.Logic.Function.Basic

/-!
Lists of reusable slots as tables.

A slot list keeps released slots in place and fills the first free slot before
it grows. `Represents l m` says that the slots in use are the table `m`, one
slot for each key that is present.

* `represents_occupy`: filling a slot with an absent key adds that key.
* `represents_release`: freeing the slot at a position removes its key.
* `represents_releaseWhere`: freeing every slot whose key meets a condition
  removes these keys.

Slots keep stale fields after their release, so `fill` may depend on the slot
that it overwrites; only the key and the value of the result count.
-/

namespace Sdm.Lib

variable {α κ ν : Type*}

/-- Overwrite the first slot that is not in use, or append a new slot. -/
def occupy (used : α → Bool) (fill : α → α) (fresh : α) : List α → List α
  | [] => [fill fresh]
  | a :: l => if used a then a :: occupy used fill fresh l else fill a :: l

/-- Free the slots that `hit` selects. -/
def releaseWhere (hit : α → Bool) (free : α → α) (l : List α) : List α :=
  l.map fun a => if hit a then free a else a

/-- The slots in use hold the entries of the table `m`, one slot a key. -/
structure Represents (used : α → Bool) (key : α → κ) (val : α → ν) (l : List α)
    (m : κ → Option ν) : Prop where
  nodup : ((l.filter used).map key).Nodup
  spec : ∀ k v, m k = some v ↔ ∃ a ∈ l, used a = true ∧ key a = k ∧ val a = v

section Slots

variable {used : α → Bool} {key : α → κ} {val : α → ν} {fill free : α → α} {fresh : α}
  {l : List α} {m : κ → Option ν} {k : κ} {v : ν}

/-- A slot of the list after `occupy` is an old slot or a filled one. -/
theorem mem_occupy {a : α} (mem : a ∈ occupy used fill fresh l) :
    a ∈ l ∨ ∃ b, a = fill b ∧ (b = fresh ∨ b ∈ l ∧ used b = false) := by
  induction l with
  | nil => exact .inr ⟨fresh, by simpa [occupy] using mem, .inl rfl⟩
  | cons b l ih =>
      by_cases h : used b = true
      · rw [occupy, if_pos h] at mem
        rcases List.mem_cons.mp mem with rfl | mem
        · exact .inl List.mem_cons_self
        · rcases ih mem with old | ⟨c, rfl, origin⟩
          · exact .inl (List.mem_cons_of_mem _ old)
          · exact .inr ⟨c, rfl, origin.imp_right fun h => ⟨List.mem_cons_of_mem _ h.1, h.2⟩⟩
      · rw [occupy, if_neg h] at mem
        rcases List.mem_cons.mp mem with rfl | mem
        · exact .inr ⟨b, rfl, .inr ⟨List.mem_cons_self, by simpa using h⟩⟩
        · exact .inl (List.mem_cons_of_mem _ mem)

/-- Exactly one slot is added to those in use. -/
theorem filter_occupy_perm (filled : ∀ a, used (fill a) = true) :
    ∃ a, ((occupy used fill fresh l).filter used).Perm (fill a :: l.filter used) := by
  induction l with
  | nil => exact ⟨fresh, by simp [occupy, filled]⟩
  | cons b l ih =>
      by_cases h : used b = true
      · obtain ⟨a, perm⟩ := ih
        refine ⟨a, ?_⟩
        rw [occupy, if_pos h, List.filter_cons_of_pos h, List.filter_cons_of_pos h]
        exact (perm.cons b).trans (.swap _ _ _)
      · refine ⟨b, ?_⟩
        rw [occupy, if_neg h, List.filter_cons_of_pos (filled b), List.filter_cons_of_neg h]

theorem Represents.none_iff (rep : Represents used key val l m) :
    m k = none ↔ ∀ a ∈ l, used a = true → key a ≠ k := by
  constructor
  · intro absent a mem inUse same
    have present := (rep.spec k (val a)).mpr ⟨a, mem, inUse, same, rfl⟩
    rw [absent] at present
    cases present
  · intro absent
    cases h : m k with
    | none => rfl
    | some v =>
        obtain ⟨a, mem, inUse, same, _⟩ := (rep.spec k v).mp h
        exact absurd same (absent a mem inUse)

theorem represents_nil : Represents used key val [] fun _ => none where
  nodup := by simp
  spec := by simp

/-- Filling a slot with an absent key adds the key. -/
theorem represents_occupy [DecidableEq κ] (rep : Represents used key val l m) (absent : m k = none)
    (filled : ∀ a, used (fill a) = true) (keyed : ∀ a, key (fill a) = k)
    (valued : ∀ a, val (fill a) = v) :
    Represents used key val (occupy used fill fresh l) (Function.update m k (some v)) := by
  obtain ⟨a, perm⟩ : ∃ a, ((occupy used fill fresh l).filter used).Perm (fill a :: l.filter used) :=
    filter_occupy_perm filled
  have memIff : ∀ b, b ∈ occupy used fill fresh l ∧ used b = true ↔
      b = fill a ∨ b ∈ l ∧ used b = true := by
    intro b
    rw [← List.mem_filter, perm.mem_iff, List.mem_cons, List.mem_filter]
  have notMem := rep.none_iff.mp absent
  constructor
  · rw [(perm.map key).nodup_iff, List.map_cons, List.nodup_cons]
    refine ⟨?_, rep.nodup⟩
    intro mem
    obtain ⟨b, inUse, same⟩ := List.mem_map.mp mem
    exact notMem b (List.mem_filter.mp inUse).1 (List.mem_filter.mp inUse).2 (same.trans (keyed a))
  · intro k' v'
    have reorder : (∃ b ∈ occupy used fill fresh l, used b = true ∧ key b = k' ∧ val b = v') ↔
        k = k' ∧ v = v' ∨ ∃ b ∈ l, used b = true ∧ key b = k' ∧ val b = v' := by
      constructor
      · rintro ⟨b, mem, inUse, same, value⟩
        rcases (memIff b).mp ⟨mem, inUse⟩ with rfl | old
        · exact .inl ⟨(keyed a).symm.trans same, (valued a).symm.trans value⟩
        · exact .inr ⟨b, old.1, inUse, same, value⟩
      · rintro (⟨same, value⟩ | ⟨b, mem, inUse, same, value⟩)
        · have new := (memIff (fill a)).mpr (.inl rfl)
          exact ⟨fill a, new.1, new.2, (keyed a).trans same, (valued a).trans value⟩
        · exact ⟨b, ((memIff b).mpr (.inr ⟨mem, inUse⟩)).1, inUse, same, value⟩
    rw [reorder, ← rep.spec]
    by_cases same : k' = k
    · subst same
      simp [absent]
    · simp [Function.update_of_ne same, Ne.symm same]

/-- Freeing the slot at a position removes its key. -/
theorem represents_release [DecidableEq κ] {a : α} {i : Nat} (rep : Represents used key val l m)
    (at_i : l[i]? = some a) (inUse : used a = true) (freed : ∀ b, used (free b) = false) :
    Represents used key val (l.modify i free) (Function.update m (key a) none) := by
  obtain ⟨before, b, after, rfl, rfl, cut⟩ :=
    List.exists_of_modify free (List.getElem?_eq_some_iff.mp at_i).1
  obtain rfl : b = a := by simpa using at_i
  have keep : (before ++ free b :: after).filter used =
      before.filter used ++ after.filter used := by
    rw [List.filter_append, List.filter_cons_of_neg (by simp [freed])]
  have old : ((before ++ b :: after).filter used).Perm
      (b :: (before.filter used ++ after.filter used)) := by
    rw [List.filter_append, List.filter_cons_of_pos inUse]
    exact List.perm_middle
  have distinct := (old.map key).nodup_iff.mp rep.nodup
  rw [List.map_cons, List.nodup_cons] at distinct
  rw [cut]
  constructor
  · rw [keep]
    exact distinct.2
  · intro k' v'
    have stays : ∀ c, c ∈ before ++ free b :: after ∧ used c = true ↔
        c ∈ before.filter used ++ after.filter used := by
      intro c
      rw [← List.mem_filter, keep]
    have others : ∀ c, c ∈ before ++ b :: after ∧ used c = true ↔
        c = b ∨ c ∈ before.filter used ++ after.filter used := by
      intro c
      rw [← List.mem_filter, old.mem_iff, List.mem_cons]
    by_cases same : k' = key b
    · subst same
      simp only [Function.update_self, reduceCtorEq, false_iff, not_exists, not_and]
      intro c mem usedC sameKey
      exact absurd (List.mem_map.mpr ⟨c, (stays c).mp ⟨mem, usedC⟩, sameKey⟩) distinct.1
    · rw [Function.update_of_ne same, rep.spec]
      constructor
      · rintro ⟨c, mem, usedC, sameKey, value⟩
        rcases (others c).mp ⟨mem, usedC⟩ with rfl | mem'
        · exact absurd sameKey.symm same
        · exact ⟨c, ((stays c).mpr mem').1, usedC, sameKey, value⟩
      · rintro ⟨c, mem, usedC, sameKey, value⟩
        exact ⟨c, ((others c).mpr (.inr ((stays c).mp ⟨mem, usedC⟩))).1, usedC, sameKey, value⟩

/-- Freeing every slot whose key meets a condition removes these keys. -/
theorem represents_releaseWhere {hit : α → Bool} {gone : κ → Prop} [DecidablePred gone]
    (rep : Represents used key val l m) (freed : ∀ b, used (free b) = false)
    (onlyUsed : ∀ a ∈ l, hit a = true → used a = true)
    (selects : ∀ a ∈ l, used a = true → (hit a = true ↔ gone (key a))) :
    Represents used key val (releaseWhere hit free l)
      (fun k => if gone k then none else m k) := by
  have memIff : ∀ b, b ∈ releaseWhere hit free l ∧ used b = true ↔
      b ∈ l ∧ used b = true ∧ ¬ gone (key b) := by
    intro b
    simp only [releaseWhere, List.mem_map]
    constructor
    · rintro ⟨⟨a, mem, rfl⟩, inUse⟩
      by_cases h : hit a = true
      · simp [h, freed] at inUse
      · rw [if_neg h] at inUse ⊢
        exact ⟨mem, inUse, fun g => h ((selects a mem inUse).mpr g)⟩
    · rintro ⟨mem, inUse, stays⟩
      have h : ¬ hit b = true := fun h => stays ((selects b mem inUse).mp h)
      exact ⟨⟨b, mem, if_neg h⟩, inUse⟩
  constructor
  · have sub : ((releaseWhere hit free l).filter used).Sublist (l.filter used) := by
      clear rep memIff selects
      induction l with
      | nil => exact .slnil
      | cons a l ih =>
          have ih := ih fun b mem => onlyUsed b (List.mem_cons_of_mem _ mem)
          by_cases h : hit a = true
          · have inUse := onlyUsed a List.mem_cons_self h
            simp only [releaseWhere, List.map_cons, h, if_true] at ih ⊢
            rw [List.filter_cons_of_neg (by simp [freed]), List.filter_cons_of_pos inUse]
            exact ih.cons a
          · simp only [releaseWhere, List.map_cons, h] at ih ⊢
            by_cases inUse : used a = true
            · simpa [List.filter_cons, inUse] using ih
            · simpa [List.filter_cons, inUse] using ih
    exact (rep.nodup.sublist (sub.map key))
  · intro k v
    have reorder : (∃ b ∈ releaseWhere hit free l, used b = true ∧ key b = k ∧ val b = v) ↔
        ¬ gone k ∧ ∃ b ∈ l, used b = true ∧ key b = k ∧ val b = v := by
      constructor
      · rintro ⟨b, mem, inUse, rfl, value⟩
        obtain ⟨mem, inUse, stays⟩ := (memIff b).mp ⟨mem, inUse⟩
        exact ⟨stays, b, mem, inUse, rfl, value⟩
      · rintro ⟨stays, b, mem, inUse, rfl, value⟩
        exact ⟨b, ((memIff b).mpr ⟨mem, inUse, stays⟩).1, inUse, rfl, value⟩
    rw [reorder, ← rep.spec]
    by_cases g : gone k
    · simp [g]
    · simp [g]

end Slots

end Sdm.Lib
