import Mathlib.Data.List.Basic
import Sdm.Lib.CString

/-!
Checks that use texts which may be missing.

A check accepts, rejects, or has no verdict, because it used a missing text as if it were there.
Checks are made one after another up to the first that does not accept.

* `both_eq_true_iff`, `each_eq_true_iff`: when checks in a row accept.
* `anyOf_eq`, `anyOf_eq_false_iff`, `exists_of_anyOf`: a check that one member of a list accepts.
* `isSome_both`, `isSome_each`: a row has a verdict when every check has one that is reached.
* `require_eq_true_iff`, `isSome_require`: the check that something is there, whose message may use
  only what is there.
-/

namespace Sdm.Lib

/-- What a check says. -/
abbrev Verdict := Option Bool

namespace Verdict

variable {α : Type} {a b : Verdict} {check : α → Verdict} {l : List α}

/-- The second check is made where the first accepts. -/
def both (a b : Verdict) : Verdict := a.bind fun ok => if ok then b else some false

theorem both_eq_true_iff : both a b = some true ↔ a = some true ∧ b = some true := by
  rcases a with _ | (_ | _) <;> simp [both]

theorem isSome_both : (both a b).isSome ↔ a.isSome ∧ (a = some true → b.isSome) := by
  rcases a with _ | (_ | _) <;> simp [both]

/-- The second check is made where the first rejects. -/
def either (a b : Verdict) : Verdict := a.bind fun ok => if ok then some true else b

@[simp]
theorem either_some (p q : Bool) : either (some p) (some q) = some (p || q) := by
  cases p <;> rfl

@[simp]
theorem either_false : either a (some false) = a := by
  rcases a with _ | (_ | _) <;> rfl

/-- A check of every member of a list. -/
def each (check : α → Verdict) : List α → Verdict
  | [] => some true
  | x :: rest => both (check x) (each check rest)

theorem each_eq_true_iff : each check l = some true ↔ ∀ x ∈ l, check x = some true := by
  induction l with
  | nil => simp [each]
  | cons x rest ih => simp [each, both_eq_true_iff, ih]

theorem isSome_each (verdict : ∀ x ∈ l, (check x).isSome) : (each check l).isSome := by
  induction l with
  | nil => rfl
  | cons x rest ih =>
      exact isSome_both.mpr
        ⟨verdict x List.mem_cons_self, fun _ => ih fun y mem =>
          verdict y (List.mem_cons_of_mem _ mem)⟩

/-- A check that one member of a list accepts. -/
def anyOf (check : α → Verdict) (l : List α) : Verdict :=
  l.foldr (fun x rest => either (check x) rest) (some false)

theorem anyOf_cons (check : α → Verdict) (x : α) (l : List α) :
    anyOf check (x :: l) = either (check x) (anyOf check l) := rfl

theorem either_assoc (a b c : Verdict) : either (either a b) c = either a (either b c) := by
  rcases a with _ | (_ | _) <;> rfl

@[simp]
theorem false_either : either (some false) a = a := rfl

theorem anyOf_append (check : α → Verdict) (l l' : List α) :
    anyOf check (l ++ l') = either (anyOf check l) (anyOf check l') := by
  induction l with
  | nil => rfl
  | cons x l ih => rw [List.cons_append, anyOf_cons, ih, anyOf_cons, either_assoc]

theorem anyOf_map {β : Type} (check : β → Verdict) (f : α → β) (l : List α) :
    anyOf check (l.map f) = anyOf (fun x => check (f x)) l := List.foldr_map

/-- Where every member has a verdict. -/
theorem anyOf_eq {p : α → Bool} (total : ∀ x ∈ l, check x = some (p x)) :
    anyOf check l = some (l.any p) := by
  induction l with
  | nil => rfl
  | cons x l ih =>
      obtain ⟨first, others⟩ := List.forall_mem_cons.mp total
      rw [anyOf_cons, first, ih others, either_some, List.any_cons]

theorem anyOf_eq_false_iff : anyOf check l = some false ↔ ∀ x ∈ l, check x = some false := by
  induction l with
  | nil => exact iff_of_true rfl fun x mem => absurd mem List.not_mem_nil
  | cons x l ih =>
      rw [anyOf_cons, List.forall_mem_cons, ← ih]
      rcases check x with _ | (_ | _) <;> simp [either]

theorem exists_of_anyOf (accepts : anyOf check l = some true) : ∃ x ∈ l, check x = some true := by
  induction l with
  | nil => exact absurd accepts nofun
  | cons x l ih =>
      rw [anyOf_cons] at accepts
      cases first : check x with
      | none => exact absurd (first ▸ accepts) nofun
      | some ok =>
          cases ok with
          | true => exact ⟨x, List.mem_cons_self, first⟩
          | false =>
              rw [first, false_either] at accepts
              obtain ⟨y, mem, ok⟩ := ih accepts
              exact ⟨y, List.mem_cons_of_mem x mem, ok⟩

/-- A check that is made only where it is asked for. -/
def whenever (asked : Prop) [Decidable asked] (check : Verdict) : Verdict :=
  if asked then check else some true

theorem whenever_eq_true_iff {asked : Prop} [Decidable asked] :
    whenever asked a = some true ↔ (asked → a = some true) := by
  unfold whenever
  split <;> simp_all

theorem isSome_whenever {asked : Prop} [Decidable asked] :
    (whenever asked a).isSome ↔ (asked → a.isSome) := by
  unfold whenever
  split <;> simp_all

/-- Reject with a message that prints these texts. -/
def reject (texts : List (Option CString)) : Verdict :=
  if ∀ text ∈ texts, text.isSome then some false else none

theorem reject_ne_true (texts : List (Option CString)) : reject texts ≠ some true := by
  unfold reject
  split <;> simp

theorem isSome_reject {texts : List (Option CString)} :
    (reject texts).isSome ↔ ∀ text ∈ texts, text.isSome := by
  unfold reject
  split <;> simp_all

/-- Reject where this is missing. -/
def require (field : Option α) (texts : List (Option CString)) : Verdict :=
  if field.isSome then some true else reject texts

theorem require_eq_true_iff {field : Option α} {texts : List (Option CString)} :
    require field texts = some true ↔ field.isSome := by
  unfold require
  split <;> simp_all [reject_ne_true]

theorem isSome_require {field : Option α} {texts : List (Option CString)} :
    (require field texts).isSome ↔ (field = none → ∀ text ∈ texts, text.isSome) := by
  cases field <;> simp [require, isSome_reject]

end Verdict

end Sdm.Lib
