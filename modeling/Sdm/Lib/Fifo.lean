import Mathlib.Data.List.Basic

/-!
First-in first-out logs.

A log records what a queue accepted and what it delivered, each in its order.
The log is in order when the deliveries are a prefix of the acceptances: then
nothing was delivered twice and nothing was skipped, and what is `pending` is
what was accepted and not delivered yet.

* `InOrder.accept` and `InOrder.deliver`: accepting anything, and delivering the
  first pending item, keep the order.
* `pending_accept` and `pending_deliver`: what is pending afterwards.
-/

namespace Sdm.Lib

/-- What a queue accepted and what it delivered, the first item first. -/
structure Log (α : Type*) where
  accepted : List α
  delivered : List α

namespace Log

variable {α : Type*} {log : Log α} {a : α} {rest : List α}

def empty : Log α := ⟨[], []⟩

def accept (log : Log α) (a : α) : Log α := { log with accepted := log.accepted ++ [a] }

def deliver (log : Log α) (a : α) : Log α := { log with delivered := log.delivered ++ [a] }

/-- The deliveries are the first acceptances. -/
def InOrder (log : Log α) : Prop := log.delivered <+: log.accepted

/-- What was accepted and is not delivered yet. -/
def pending (log : Log α) : List α := log.accepted.drop log.delivered.length

theorem inOrder_empty : (empty : Log α).InOrder := List.prefix_rfl

theorem accepted_eq (inOrder : log.InOrder) : log.accepted = log.delivered ++ log.pending := by
  obtain ⟨rest, split⟩ := inOrder
  rw [pending, ← split, List.drop_left]

theorem of_accepted_eq (split : log.accepted = log.delivered ++ rest) :
    log.InOrder ∧ log.pending = rest := by
  refine ⟨⟨rest, split.symm⟩, ?_⟩
  rw [pending, split, List.drop_left]

theorem length_pending : log.pending.length = log.accepted.length - log.delivered.length :=
  List.length_drop

/-- Nothing is pending exactly when everything accepted was delivered. -/
theorem pending_eq_nil_iff (inOrder : log.InOrder) :
    log.pending = [] ↔ log.delivered = log.accepted := by
  rw [accepted_eq inOrder]
  constructor
  · intro none
    rw [none, List.append_nil]
  · intro all
    exact List.self_eq_append_right.mp all

theorem InOrder.accept (inOrder : log.InOrder) : (log.accept a).InOrder :=
  inOrder.trans (List.prefix_append _ _)

theorem pending_accept (inOrder : log.InOrder) :
    (log.accept a).pending = log.pending ++ [a] := by
  have split : (log.accept a).accepted = (log.accept a).delivered ++ (log.pending ++ [a]) := by
    show log.accepted ++ [a] = log.delivered ++ (log.pending ++ [a])
    rw [← List.append_assoc, ← accepted_eq inOrder]
  exact (of_accepted_eq split).2

theorem deliver_split (inOrder : log.InOrder) (next : log.pending = a :: rest) :
    (log.deliver a).accepted = (log.deliver a).delivered ++ rest := by
  show log.accepted = log.delivered ++ [a] ++ rest
  rw [accepted_eq inOrder, next, List.append_assoc]
  rfl

theorem InOrder.deliver (inOrder : log.InOrder) (next : log.pending = a :: rest) :
    (log.deliver a).InOrder :=
  (of_accepted_eq (deliver_split inOrder next)).1

theorem pending_deliver (inOrder : log.InOrder) (next : log.pending = a :: rest) :
    (log.deliver a).pending = rest :=
  (of_accepted_eq (deliver_split inOrder next)).2

end Log

end Sdm.Lib
