import Mathlib.Data.List.Basic

/-!
Walks over a list that stop at the first node they accept.

A walk looks at the nodes in order. At each node its body does one of three
things: it moves on (`some none`), it leaves the walk with a result
(`some (some b)`), or it performs an undefined operation (`none`). The walk
returns the position at which it stopped together with the result of the body.

* `scan_eq_done_iff`: the walk passes the end exactly when every body moves on.
* `scan_eq_found_iff`: the walk stops at the first node whose body leaves it.
* `scan_ne_fault`: a walk none of whose bodies faults does not fault.
* `scan_eq_fault_iff`: it faults at a node that all earlier bodies moved past.

`search` is the walk for the first node that meets a test, `sweep` and
`updateWhere` are walks over the whole list whose test may fault.
-/

namespace Sdm.Lib

section Scan

variable {α β : Type*} {body : α → Option (Option β)}

/-- Walk the list in order until `body` leaves the walk or faults. -/
def scan (body : α → Option (Option β)) : List α → Option (Option (Nat × β))
  | [] => some none
  | a :: l =>
      match body a with
      | none => none
      | some (some b) => some (some (0, b))
      | some none => (scan body l).map (Option.map fun found => (found.1 + 1, found.2))

@[simp]
theorem scan_nil : scan body [] = some none := rfl

theorem scan_cons_next {a : α} {l : List α} (h : body a = some none) :
    scan body (a :: l) =
      (scan body l).map (Option.map fun found => (found.1 + 1, found.2)) := by
  simp only [scan, h]

theorem scan_cons_found {a : α} {l : List α} {b : β} (h : body a = some (some b)) :
    scan body (a :: l) = some (some (0, b)) := by
  simp only [scan, h]

theorem scan_cons_fault {a : α} {l : List α} (h : body a = none) : scan body (a :: l) = none := by
  simp only [scan, h]

/-- The walk passes the end of the list exactly when every body moves on. -/
theorem scan_eq_done_iff {l : List α} :
    scan body l = some none ↔ ∀ a ∈ l, body a = some none := by
  induction l with
  | nil => simp
  | cons a l ih =>
      cases h : body a with
      | none => simp [scan_cons_fault h, h]
      | some next =>
          cases next with
          | none => simp [scan_cons_next h, h, ih]
          | some b => simp [scan_cons_found h, h]

/-- The bodies at all positions before `k` move on. -/
def MovesPast (body : α → Option (Option β)) (l : List α) (k : Nat) : Prop :=
  ∀ j < k, ∀ a, l[j]? = some a → body a = some none

theorem movesPast_zero {l : List α} : MovesPast body l 0 := fun _ h => absurd h (Nat.not_lt_zero _)

theorem movesPast_cons_succ {a : α} {l : List α} {k : Nat} :
    MovesPast body (a :: l) (k + 1) ↔ body a = some none ∧ MovesPast body l k := by
  constructor
  · intro h
    exact ⟨h 0 (Nat.succ_pos k) a rfl, fun j lt b at_j => h (j + 1) (Nat.succ_lt_succ lt) b at_j⟩
  · rintro ⟨first, rest⟩ j lt b at_j
    cases j with
    | zero =>
        cases at_j
        exact first
    | succ j => exact rest j (Nat.lt_of_succ_lt_succ lt) b at_j

/-- The walk stops at position `k` with `b` exactly when the body of the node
there leaves the walk with `b` and all earlier bodies move on. -/
theorem scan_eq_found_iff {l : List α} {k : Nat} {b : β} :
    scan body l = some (some (k, b)) ↔
      ∃ a, l[k]? = some a ∧ body a = some (some b) ∧ MovesPast body l k := by
  induction l generalizing k with
  | nil => simp
  | cons a l ih =>
      cases h : body a with
      | none =>
          rw [scan_cons_fault h]
          cases k with
          | zero => simp [h]
          | succ k => simp [movesPast_cons_succ, h]
      | some next =>
          cases next with
          | none =>
              rw [scan_cons_next h]
              cases k with
              | zero => simp [h]
              | succ k => simp [movesPast_cons_succ, h, ih]
          | some b' =>
              rw [scan_cons_found h]
              cases k with
              | zero => simp [h, movesPast_zero]
              | succ k => simp [movesPast_cons_succ, h]

/-- The walk faults exactly when some body faults that all earlier bodies
move on to. -/
theorem scan_eq_fault_iff {l : List α} :
    scan body l = none ↔ ∃ k a, l[k]? = some a ∧ body a = none ∧ MovesPast body l k := by
  induction l with
  | nil => simp
  | cons a l ih =>
      cases h : body a with
      | none =>
          rw [scan_cons_fault h]
          exact iff_of_true rfl ⟨0, a, rfl, h, movesPast_zero⟩
      | some next =>
          cases next with
          | none =>
              rw [scan_cons_next h, Option.map_eq_none_iff, ih]
              constructor
              · rintro ⟨k, b, at_k, fault, past⟩
                exact ⟨k + 1, b, at_k, fault, movesPast_cons_succ.mpr ⟨h, past⟩⟩
              · rintro ⟨k, b, at_k, fault, past⟩
                cases k with
                | zero =>
                    cases at_k
                    rw [h] at fault
                    cases fault
                | succ k => exact ⟨k, b, at_k, fault, (movesPast_cons_succ.mp past).2⟩
          | some b' =>
              rw [scan_cons_found h]
              refine iff_of_false nofun ?_
              rintro ⟨k, b, at_k, fault, past⟩
              cases k with
              | zero =>
                  cases at_k
                  rw [h] at fault
                  cases fault
              | succ k =>
                  have first := (movesPast_cons_succ.mp past).1
                  rw [h] at first
                  cases first

/-- A walk none of whose bodies faults does not fault. -/
theorem scan_ne_fault {l : List α} (h : ∀ a ∈ l, body a ≠ none) : scan body l ≠ none := by
  intro fault
  obtain ⟨k, a, at_k, none_at, _⟩ := scan_eq_fault_iff.mp fault
  exact h a (List.mem_of_getElem? at_k) none_at

end Scan

/-! ### Walks that test the nodes -/

section Search

variable {α : Type*} {test : α → Option Bool} {f : α → α}

/-- The position of the first node that meets the test. -/
def search (test : α → Option Bool) (l : List α) : Option (Option Nat) :=
  (scan (fun a => (test a).map fun hit => if hit then some () else none) l).map
    (Option.map Prod.fst)

private theorem body_eq_next_iff {a : α} :
    ((test a).map fun hit => if hit then some () else none) = some none ↔
      test a = some false := by
  cases h : test a with
  | none => simp
  | some hit => cases hit <;> simp

private theorem body_eq_found_iff {a : α} :
    ((test a).map fun hit => if hit then some () else none) = some (some ()) ↔
      test a = some true := by
  cases h : test a with
  | none => simp
  | some hit => cases hit <;> simp

theorem search_eq_done_iff {l : List α} :
    search test l = some none ↔ ∀ a ∈ l, test a = some false := by
  simp only [search, Option.map_eq_some_iff, Option.map_eq_none_iff, exists_eq_right]
  rw [scan_eq_done_iff]
  simp only [body_eq_next_iff]

theorem search_eq_found_iff {l : List α} {k : Nat} :
    search test l = some (some k) ↔
      ∃ a, l[k]? = some a ∧ test a = some true ∧
        ∀ j < k, ∀ b, l[j]? = some b → test b = some false := by
  have found : search test l = some (some k) ↔
      scan (fun a => (test a).map fun hit => if hit then some () else none) l =
        some (some (k, ())) := by
    simp only [search, Option.map_eq_some_iff]
    constructor
    · rintro ⟨_, walk, ⟨_, _⟩, rfl, rfl⟩
      exact walk
    · intro walk
      exact ⟨_, walk, (k, ()), rfl, rfl⟩
  rw [found, scan_eq_found_iff]
  simp only [MovesPast, body_eq_next_iff, body_eq_found_iff]

theorem search_eq_fault_iff {l : List α} :
    search test l = none ↔ ∃ (k : Nat) (a : α), l[k]? = some a ∧ test a = none ∧
        ∀ j < k, ∀ b, l[j]? = some b → test b = some false := by
  simp only [search, Option.map_eq_none_iff]
  rw [scan_eq_fault_iff]
  simp only [MovesPast, body_eq_next_iff, Option.map_eq_none_iff]

/-- A search does not fault exactly when it meets a hit before any node whose
test faults. -/
theorem search_ne_fault_iff {l : List α} :
    search test l ≠ none ↔ ∀ (k : Nat) (a : α), l[k]? = some a → test a = none →
      ∃ j < k, ∃ b, l[j]? = some b ∧ test b = some true := by
  constructor
  · intro defined k a at_k fault
    obtain ⟨stop, h⟩ := Option.ne_none_iff_exists'.mp defined
    cases stop with
    | none =>
        have := search_eq_done_iff.mp h a (List.mem_of_getElem? at_k)
        rw [fault] at this
        cases this
    | some j =>
        obtain ⟨b, at_j, hit, before⟩ := search_eq_found_iff.mp h
        refine ⟨j, ?_, b, at_j, hit⟩
        rcases Nat.lt_trichotomy j k with lt | rfl | gt
        · exact lt
        · rw [at_k] at at_j
          cases at_j
          rw [fault] at hit
          cases hit
        · have := before k gt a at_k
          rw [fault] at this
          cases this
  · intro earlier fault
    obtain ⟨k, a, at_k, none_at, before⟩ := search_eq_fault_iff.mp fault
    obtain ⟨j, lt, b, at_j, hit⟩ := earlier k a at_k none_at
    rw [before j lt b at_j] at hit
    cases hit

/-- Test every node; the result says whether one of them met the test. -/
def sweep (test : α → Option Bool) : List α → Option Bool
  | [] => some false
  | a :: l => (test a).bind fun hit => (sweep test l).map fun rest => hit || rest

theorem sweep_of_defined {l : List α} (ok : ∀ a ∈ l, test a ≠ none) :
    sweep test l = some (l.any fun a => test a = some true) := by
  induction l with
  | nil => rfl
  | cons a l ih =>
      obtain ⟨hit, h⟩ := Option.ne_none_iff_exists'.mp (ok a List.mem_cons_self)
      have rest := ih fun b mem => ok b (List.mem_cons_of_mem _ mem)
      cases hit <;> simp [sweep, h, rest]

/-- Apply `f` to every node that meets the test. -/
def updateWhere (test : α → Option Bool) (f : α → α) : List α → Option (List α)
  | [] => some []
  | a :: l => (test a).bind fun hit =>
      (updateWhere test f l).map fun rest => (if hit then f a else a) :: rest

theorem updateWhere_of_defined {l : List α} (ok : ∀ a ∈ l, test a ≠ none) :
    updateWhere test f l = some (l.map fun a => if test a = some true then f a else a) := by
  induction l with
  | nil => rfl
  | cons a l ih =>
      obtain ⟨hit, h⟩ := Option.ne_none_iff_exists'.mp (ok a List.mem_cons_self)
      have rest := ih fun b mem => ok b (List.mem_cons_of_mem _ mem)
      cases hit <;> simp [updateWhere, h, rest]

theorem updateWhere_eq_fault_iff {l : List α} :
    updateWhere test f l = none ↔ ∃ a ∈ l, test a = none := by
  constructor
  · intro fault
    by_contra defined
    rw [updateWhere_of_defined fun a mem none_at => defined ⟨a, mem, none_at⟩] at fault
    cases fault
  · rintro ⟨a, mem, fault⟩
    induction l with
    | nil => exact absurd mem List.not_mem_nil
    | cons b l ih =>
        rcases List.mem_cons.mp mem with rfl | mem
        · simp only [updateWhere, fault, Option.bind_none]
        · simp only [updateWhere, ih mem, Option.map_none, Option.bind_fun_none]

end Search

end Sdm.Lib
