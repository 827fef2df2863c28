import Sdm.Common.Threads
import Sdm.DM.XTEDSLibrary

/-!
Handlers as programs that lock the slots of the registry.

Every slot has a semaphore `inUse`. A handler goes from slot to slot: it waits for the
semaphore, looks at the slot, and signals. The programs here are over `Shared`, the state of
the Data Manager with what it has sent.

* `firstHeld` is the search of `MatchSID` and of other loops: the first slot that passes a
  test stays locked. `visit` is the loop that looks at every slot.
* `Interferes` is what the other handlers may do to the slots meanwhile: no slot comes or goes,
  or gets another id or tree, and a slot may only stop to be a hub.
* `balanced_firstHeld`, `moves_visit`: the two loops are balanced.
* `alone_search`: how a search ends when nothing else runs.
-/

namespace Sdm

open Lib LockProgram

/-- The semaphores: the `inUse` of the slot at a position, and `addLibrary`. -/
inductive Lock where
  | inUse (k : Nat)
  | addLibrary
  deriving DecidableEq

/-- What a handler asks of a parsed tree about services and commands. -/
class XTEDSServices (τ : Type) where
  /-- `xTEDS::getServiceDataMsgID`: the reply of a service, else `INVALID_MESSAGE_ID`. -/
  getServiceDataMsgID : τ → SDMMessageID → SDMMessageID
  /-- `xTEDS::getServiceFaultMsgID`. -/
  getServiceFaultMsgID : τ → SDMMessageID → SDMMessageID
  /-- `xTEDS::getCommandFaultMsgID`. -/
  getCommandFaultMsgID : τ → SDMMessageID → SDMMessageID
  /-- `xTEDS::isServiceIdValid`. -/
  isServiceIdValid : τ → SDMMessageID → Bool
  /-- `xTEDS::isCommandIdValid`. -/
  isCommandIdValid : τ → SDMMessageID → Bool
  /-- `xTEDS::getComponentKey`, which may be unset. -/
  getComponentKey : τ → Option CString

/-- What the handlers send, with its destination. -/
inductive Sent where
  | effect (e : Effect)
  | data (destination : SDMComponentID) (msg : SDMData)
  | serreqst (destination : SDMComponentID) (msg : SDMSerreqst)
  | command (destination : SDMComponentID) (msg : SDMCommand)
  | xTEDSInfo (destination : SDMComponentID) (msg : SDMxTEDSInfo)
  | xTEDSInfoEmpty (destination : SDMComponentID)
  | tat (destination : SDMComponentID) (msg : SDMTat)
  deriving DecidableEq

/-- The globals of the Data Manager, and what it has sent, in order. -/
structure Shared (τ : Type) where
  state : DMState τ
  /-- `DataManager`. -/
  dataManager : SDMComponentID
  /-- `IAmElected`. -/
  elected : Bool
  /-- `debug`. -/
  debug : Nat
  droppedxTEDS : UInt32
  droppedCancelxTEDS : UInt32
  /-- The message types that `log_service` records. -/
  logged : List SDMCommand
  sent : List Sent
  deriving DecidableEq

/-- A part of a handler. -/
abbrev DMProgram (τ : Type) := LockProgram (Shared τ) Lock

variable {τ α : Type}

/-! ### The steps of a handler -/

/-- Send a message. -/
def send (msg : Sent) : DMProgram τ Unit := write fun s => { s with sent := s.sent ++ [msg] }

/-- Send messages, in order. -/
def sendAll (msgs : List Sent) : DMProgram τ Unit :=
  write fun s => { s with sent := s.sent ++ msgs }

/-- The slot at a position. -/
def slot (k : Nat) : DMProgram τ (XTEDSLibrary τ) := do
  let s ← read fun s => s.state.xTEDSList[k]?
  require s

/-- Change the slot at a position. -/
def setSlot (k : Nat) (f : XTEDSLibrary τ → XTEDSLibrary τ) : DMProgram τ Unit :=
  write fun s => { s with state := { s.state with xTEDSList := s.state.xTEDSList.modify k f } }

/-- The positions of the slots, from the head of the list on. -/
def nodes : DMProgram τ (List Nat) := read fun s => List.range s.state.xTEDSList.length

/-- The first of these slots that passes the test. It stays locked. -/
def firstHeld (test : XTEDSLibrary τ → Bool) : List Nat → DMProgram τ (Option Nat)
  | [] => pure none
  | k :: rest => do
      lock (.inUse k)
      let s ← slot k
      if test s then
        pure (some k)
      else
        unlock (.inUse k)
        firstHeld test rest

/-- Look at each of these slots under its lock. -/
def visit (body : Nat → XTEDSLibrary τ → DMProgram τ Unit) : List Nat → DMProgram τ Unit :=
  forEach fun k => do
    lock (.inUse k)
    let s ← slot k
    body k s
    unlock (.inUse k)

/-- The slot is active and has this sensor id. -/
def hasSensorID (sID : UInt32) (s : XTEDSLibrary τ) : Bool := s.active && s.id.sensorID == sID

/-- `MatchSID`: the lock must be released by the caller. -/
def MatchSID (sID : UInt32) : DMProgram τ (Option Nat) := do
  let all ← nodes
  firstHeld (hasSensorID sID) all

/-! ### What other handlers do -/

/-- What happens to a slot while other handlers run. -/
structure SlotKept (s s' : XTEDSLibrary τ) : Prop where
  sensorID : s'.id.sensorID = s.id.sensorID
  address : s'.id.address = s.id.address
  tree : s'.xtedsTree = s.xtedsTree
  hub : s'.hub = s.hub ∨ s'.hub = .APPLICATION

/-- What happens to the shared state while other handlers run. The thread of the registrations is
none of them: it makes slots hubs, gives ids and appends slots. -/
structure Interferes (s s' : Shared τ) : Prop where
  length : s'.state.xTEDSList.length = s.state.xTEDSList.length
  kept : ∀ (k : Nat) (a b : XTEDSLibrary τ), s.state.xTEDSList[k]? = some a →
    s'.state.xTEDSList[k]? = some b → SlotKept a b

theorem SlotKept.refl (s : XTEDSLibrary τ) : SlotKept s s := ⟨rfl, rfl, rfl, .inl rfl⟩

theorem SlotKept.trans {s₁ s₂ s₃ : XTEDSLibrary τ} (first : SlotKept s₁ s₂)
    (second : SlotKept s₂ s₃) : SlotKept s₁ s₃ where
  sensorID := second.sensorID.trans first.sensorID
  address := second.address.trans first.address
  tree := second.tree.trans first.tree
  hub := by
    rcases second.hub with same | gone
    · rcases first.hub with same' | gone
      · exact .inl (same.trans same')
      · exact .inr (same.trans gone)
    · exact .inr gone

namespace Interferes

variable {s s' s'' : Shared τ} {k : Nat} {a b : XTEDSLibrary τ}

/-- The slots are as they were. -/
theorem ofSame (same : s'.state.xTEDSList = s.state.xTEDSList) : Interferes s s' where
  length := by rw [same]
  kept k a b at_a at_b := by
    rw [same, at_a] at at_b
    cases at_b
    exact .refl a

/-- One slot changes as it may. -/
theorem ofModify {f : XTEDSLibrary τ → XTEDSLibrary τ} (keeps : ∀ a, SlotKept a (f a))
    (changed : s'.state.xTEDSList = s.state.xTEDSList.modify k f) : Interferes s s' where
  length := by rw [changed, List.length_modify]
  kept j a b at_a at_b := by
    rw [changed, List.getElem?_modify, at_a] at at_b
    split at at_b
    · cases at_b
      exact keeps a
    · cases at_b
      exact .refl a

instance : Std.Refl (@Interferes τ) := ⟨fun _ => ofSame rfl⟩

theorem trans (first : Interferes s s') (second : Interferes s' s'') : Interferes s s'' where
  length := second.length.trans first.length
  kept k a c at_a at_c := by
    obtain ⟨lt, -⟩ := List.getElem?_eq_some_iff.mp at_c
    have at_b := List.getElem?_eq_getElem (second.length ▸ lt)
    exact (first.kept k a _ at_a at_b).trans (second.kept k _ c at_b at_c)

instance : IsTrans (Shared τ) Interferes := ⟨fun _ _ _ => trans⟩

end Interferes

/-! ### Balance of the steps -/

variable {post : Unit → Finset Lock → Shared τ → Prop} {held : Finset Lock} {s : Shared τ}
  {k : Nat} {test : XTEDSLibrary τ → Bool} {l : List Nat}

@[simp]
theorem balanced_send {msg : Sent} : (send msg : DMProgram τ Unit).Balanced Interferes post held s ↔
    ∀ s', Interferes s s' → post () held { s' with sent := s'.sent ++ [msg] } :=
  forall_congr' fun _ => imp_congr_right fun _ => and_iff_right (.ofSame rfl)

@[simp]
theorem balanced_sendAll {msgs : List Sent} :
    (sendAll msgs : DMProgram τ Unit).Balanced Interferes post held s ↔
      ∀ s', Interferes s s' → post () held { s' with sent := s'.sent ++ msgs } :=
  forall_congr' fun _ => imp_congr_right fun _ => and_iff_right (.ofSame rfl)

@[simp]
theorem balanced_slot {post : XTEDSLibrary τ → Finset Lock → Shared τ → Prop} :
    (slot k : DMProgram τ _).Balanced Interferes post held s ↔
      ∀ s', Interferes s s' → ∀ a, s'.state.xTEDSList[k]? = some a → post a held s' := by
  simp only [slot, balanced_bind, balanced_read, balanced_require]

@[simp]
theorem balanced_nodes {post : List Nat → Finset Lock → Shared τ → Prop} :
    (nodes : DMProgram τ _).Balanced Interferes post held s ↔
      ∀ s', Interferes s s' → post (List.range s'.state.xTEDSList.length) held s' := by
  simp only [nodes, balanced_read]

/-- **The search.** It ends with no lock, or with that of a slot that passed the test. -/
theorem balanced_firstHeld {post : Option Nat → Finset Lock → Shared τ → Prop}
    (free : ∀ k ∈ l, .inUse k ∉ held)
    (missing : ∀ s', Interferes s s' → post none held s')
    (found : ∀ s', Interferes s s' → ∀ k ∈ l, ∀ a, s'.state.xTEDSList[k]? = some a →
      test a = true → post (some k) (insert (.inUse k) held) s') :
    (firstHeld test l).Balanced Interferes post held s := by
  induction l generalizing s with
  | nil => exact missing s (refl s)
  | cons k rest ih =>
      have new := free k List.mem_cons_self
      simp only [firstHeld, balanced_bind, balanced_lock, balanced_slot]
      refine ⟨new, fun s₁ first a at_k => ?_⟩
      split
      · rename_i passes
        exact found s₁ first k List.mem_cons_self a at_k passes
      · simp only [balanced_bind, balanced_unlock]
        refine ⟨Finset.mem_insert_self _ _, ?_⟩
        rw [Finset.erase_insert new]
        exact ih (fun j mem => free j (List.mem_cons_of_mem k mem))
          (fun s₂ second => missing s₂ (first.trans second))
          (fun s₂ second j mem => found s₂ (first.trans second) j (List.mem_cons_of_mem k mem))

/-- **A search and what follows it.** -/
theorem moves_search {f : Option Nat → DMProgram τ α} {held' : Finset Lock}
    (free : ∀ k, .inUse k ∉ held) (missing : Moves Interferes (f none) held held')
    (found : ∀ k, Moves Interferes (f (some k)) (insert (.inUse k) held) held') :
    Moves Interferes (firstHeld test l >>= f) held held' := fun s => by
  rw [balanced_bind]
  exact balanced_firstHeld (fun k _ => free k) (fun s' _ => missing s')
    fun s' _ k _ _ _ _ => found k s'

/-- `MatchSID` and what follows it. -/
theorem moves_MatchSID {sID : UInt32} {f : Option Nat → DMProgram τ α} {held' : Finset Lock}
    (free : ∀ k, .inUse k ∉ held) (missing : Moves Interferes (f none) held held')
    (found : ∀ k, Moves Interferes (f (some k)) (insert (.inUse k) held) held') :
    Moves Interferes (MatchSID sID >>= f) held held' := fun s => by
  rw [MatchSID, balanced_bind, balanced_bind, balanced_nodes]
  exact fun s' _ => balanced_firstHeld (fun k _ => free k) (fun s'' _ => missing s'')
    fun s'' _ k _ _ _ _ => found k s''

theorem moves_send {msg : Sent} : Moves Interferes (send msg : DMProgram τ Unit) held held :=
  .write fun _ => .ofSame rfl

theorem moves_sendAll {msgs : List Sent} :
    Moves Interferes (sendAll msgs : DMProgram τ Unit) held held := .write fun _ => .ofSame rfl

theorem moves_setSlot {f : XTEDSLibrary τ → XTEDSLibrary τ} (keeps : ∀ a, SlotKept a (f a)) :
    Moves Interferes (setSlot k f : DMProgram τ Unit) held held :=
  .write fun _ => .ofModify keeps rfl

theorem moves_slot : Moves Interferes (slot k : DMProgram τ _) held held :=
  .bind .read fun _ => .require

/-- **The loop over all slots.** -/
theorem moves_visit {body : Nat → XTEDSLibrary τ → DMProgram τ Unit}
    (free : ∀ k, .inUse k ∉ held)
    (each : ∀ k a, Moves Interferes (body k a) (insert (.inUse k) held) (insert (.inUse k) held)) :
    Moves Interferes (visit body l) held held :=
  .forEach fun k _ => .bind (.lock (free k)) fun _ => .bind moves_slot fun a =>
    .bind (each k a) fun _ => .unlock_insert (free k)

/-! ### Searching alone -/

/-- The search has gone past the slots before `k`: none of them was locked or passed the
test. -/
def GonePast (test : XTEDSLibrary τ → Bool) (held : Finset Lock) (s : Shared τ) (k : Nat) : Prop :=
  ∀ j < k, .inUse j ∉ held ∧ ∀ a, s.state.xTEDSList[j]? = some a → test a = false

variable {endpost : Ending Lock (Option Nat) → Finset Lock → Shared τ → Prop}

/-- The search from the slot `k` on, when it has gone past the slots before. -/
theorem alone_goPast (past : GonePast test held s k) (within : k ≤ s.state.xTEDSList.length) :
    (firstHeld test (List.range s.state.xTEDSList.length)).Alone endpost held s ↔
      (firstHeld test (List.range' k (s.state.xTEDSList.length - k))).Alone endpost held s := by
  induction k with
  | zero => rw [List.range_eq_range', Nat.sub_zero]
  | succ k ih =>
      rw [ih (fun j before => past j (by omega)) (by omega)]
      obtain ⟨new, fails⟩ := past k (Nat.lt_succ_self k)
      have at_k := List.getElem?_eq_getElem within
      have step :
          s.state.xTEDSList.length - k = (s.state.xTEDSList.length - (k + 1)) + 1 := by omega
      rw [step, List.range'_succ]
      simp only [firstHeld, slot, alone_bind, alone_lock, if_neg new, onwards_finished, alone_read,
        at_k, alone_require_some, fails _ at_k, Bool.false_eq_true, if_false, alone_unlock,
        Finset.mem_insert_self, true_and, Finset.erase_insert new]

/-- The search ends at the first slot that passes the test. -/
theorem alone_search_found {a : XTEDSLibrary τ} (past : GonePast test held s k)
    (new : .inUse k ∉ held) (at_k : s.state.xTEDSList[k]? = some a) (passes : test a = true) :
    (firstHeld test (List.range s.state.xTEDSList.length)).Alone endpost held s ↔
      endpost (.finished (some k)) (insert (.inUse k) held) s := by
  obtain ⟨lt, -⟩ := List.getElem?_eq_some_iff.mp at_k
  have step : s.state.xTEDSList.length - k = (s.state.xTEDSList.length - (k + 1)) + 1 := by omega
  rw [alone_goPast past lt.le, step, List.range'_succ]
  simp only [firstHeld, slot, alone_bind, alone_lock, if_neg new, onwards_finished, alone_read,
    at_k,
    alone_require_some, passes, if_true, alone_pure]

/-- The search blocks at a slot that the program itself has locked. -/
theorem alone_search_blocked (past : GonePast test held s k) (lt : k < s.state.xTEDSList.length)
    (mine : .inUse k ∈ held) :
    (firstHeld test (List.range s.state.xTEDSList.length)).Alone endpost held s ↔
      endpost (.blocked (.inUse k)) held s := by
  have step : s.state.xTEDSList.length - k = (s.state.xTEDSList.length - (k + 1)) + 1 := by omega
  rw [alone_goPast past lt.le, step, List.range'_succ]
  simp only [firstHeld, alone_bind, alone_lock, if_pos mine]
  rfl

/-- The search ends behind the last slot. -/
theorem alone_search_missing (past : GonePast test held s s.state.xTEDSList.length) :
    (firstHeld test (List.range s.state.xTEDSList.length)).Alone endpost held s ↔
      endpost (.finished none) held s := by
  rw [alone_goPast past (Nat.le_refl _), Nat.sub_self]
  rfl

/-- How far a search goes: past all slots, or to the first one where it stops. -/
theorem gonePast_cases (test : XTEDSLibrary τ → Bool) (held : Finset Lock) (s : Shared τ)
    (n : Nat) :
    GonePast test held s n ∨ ∃ k < n, GonePast test held s k ∧
      (.inUse k ∈ held ∨ ∃ a, s.state.xTEDSList[k]? = some a ∧ test a = true) := by
  induction n with
  | zero => exact .inl fun j lt => absurd lt (Nat.not_lt_zero j)
  | succ n ih =>
      rcases ih with past | ⟨k, lt, past, stops⟩
      · by_cases stops : .inUse n ∈ held ∨ ∃ a, s.state.xTEDSList[n]? = some a ∧ test a = true
        · exact .inr ⟨n, Nat.lt_succ_self n, past, stops⟩
        · obtain ⟨new, fails⟩ := not_or.mp stops
          refine .inl fun j before => ?_
          rcases Nat.lt_succ_iff_lt_or_eq.mp before with earlier | rfl
          · exact past j earlier
          · exact ⟨new, fun a at_j => Bool.eq_false_iff.mpr fun passes => fails ⟨a, at_j, passes⟩⟩
      · exact .inr ⟨k, Nat.lt_succ_of_lt lt, past, stops⟩

/-- **The search of a program that runs alone.** -/
theorem alone_search
    (missing : GonePast test held s s.state.xTEDSList.length → endpost (.finished none) held s)
    (found : ∀ k a, GonePast test held s k → .inUse k ∉ held → s.state.xTEDSList[k]? = some a →
      test a = true → endpost (.finished (some k)) (insert (.inUse k) held) s)
    (blocked : ∀ k < s.state.xTEDSList.length, GonePast test held s k → .inUse k ∈ held →
      endpost (.blocked (.inUse k)) held s) :
    (firstHeld test (List.range s.state.xTEDSList.length)).Alone endpost held s := by
  rcases gonePast_cases test held s s.state.xTEDSList.length with past | ⟨k, lt, past, stops⟩
  · exact (alone_search_missing past).mpr (missing past)
  · by_cases mine : .inUse k ∈ held
    · exact (alone_search_blocked past lt mine).mpr (blocked k lt past mine)
    · obtain ⟨a, at_k, passes⟩ := stops.resolve_left mine
      exact (alone_search_found past mine at_k passes).mpr (found k a past mine at_k passes)

/-- What the search found is what `matchSID` finds. -/
theorem GonePast.matchSID {sID : UInt32} {a : XTEDSLibrary τ}
    (past : GonePast (hasSensorID sID) held s k) (at_k : s.state.xTEDSList[k]? = some a)
    (passes : hasSensorID sID a = true) :
    XTEDSLibraryList.matchSID sID s.state.xTEDSList = some k := by
  rw [XTEDSLibraryList.matchSID_eq_some_iff]
  rw [hasSensorID, Bool.and_eq_true, beq_iff_eq] at passes
  refine ⟨a, at_k, passes.1, passes.2, fun j lt b at_j hit => ?_⟩
  have missed := (past j lt).2 b at_j
  rw [hasSensorID, hit.1, hit.2, Bool.true_and, beq_self_eq_true] at missed
  cases missed

theorem GonePast.matchSID_eq_none {sID : UInt32}
    (past : GonePast (hasSensorID sID) held s s.state.xTEDSList.length) :
    XTEDSLibraryList.matchSID sID s.state.xTEDSList = none := by
  cases found : XTEDSLibraryList.matchSID sID s.state.xTEDSList with
  | none => rfl
  | some k =>
      obtain ⟨a, at_k, active, same, -⟩ := XTEDSLibraryList.matchSID_eq_some_iff.mp found
      obtain ⟨lt, -⟩ := List.getElem?_eq_some_iff.mp at_k
      have missed := (past k lt).2 a at_k
      rw [hasSensorID, active, same, Bool.true_and, beq_self_eq_true] at missed
      cases missed

end Sdm
