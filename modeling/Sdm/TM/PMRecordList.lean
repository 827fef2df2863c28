import Mathlib.Data.Finset.Card
import Mathlib.Data.Fintype.Basic
import Mathlib.Logic.Function.Basic
import Sdm.Common.TaskResources
import Sdm.Message.ComponentID

/-!
`PMRecordList`: the Task Manager's fixed table of process managers.

A process manager is found by its network address. The heartbeats that went unanswered are
counted in a second array, at the position of the record; `RegisterPM` and `RemoveAnyFailed`
write the record only.

The list is called under its own mutex, so every function is one step.
-/

namespace Sdm

/-- `MAX_PM`: the size of the table. -/
def MAX_PM : Nat := 8

/-- `HEARTBEAT_INACTIVE`. -/
def HEARTBEAT_INACTIVE : Int32 := -1

/-- `pm_record`. -/
structure PmRecord where
  component_id : SDMComponentID
  resources : SDMTaskResources
  tasks : Int16
  in_use : Bool
  deriving DecidableEq, Repr

/-- The default constructor of `pm_record`. -/
def PmRecord.empty : PmRecord := ⟨.zero, .zero, 0, false⟩

instance : Inhabited PmRecord := ⟨.empty⟩

/-- `PMRecordList`, without its mutex. -/
structure PMRecordList where
  pmList : Fin MAX_PM → PmRecord
  schedulerInfoIndex : Nat
  HeartbeatStatus : Fin MAX_PM → Int32

namespace PMRecordList

/-- The constructor. -/
def new : PMRecordList := ⟨fun _ => .empty, 0, fun _ => 0⟩

/-- A process manager at this address is registered in the slot. -/
def Holds (l : PMRecordList) (PMAddress : SDMComponentID) (i : Fin MAX_PM) : Bool :=
  (l.pmList i).in_use && (l.pmList i).component_id.address == PMAddress.address

/-- The first slot that holds a process manager at the address. -/
def slotOf (l : PMRecordList) (PMAddress : SDMComponentID) : Option (Fin MAX_PM) :=
  Fin.find? (l.Holds PMAddress)

/-- The first slot that is not in use. -/
def freeSlot (l : PMRecordList) : Option (Fin MAX_PM) :=
  Fin.find? fun i => !(l.pmList i).in_use

/-- The first slot in use whose heartbeats went unanswered twice. -/
def failedSlot (l : PMRecordList) : Option (Fin MAX_PM) :=
  Fin.find? fun i => (l.pmList i).in_use && decide (2 ≤ l.HeartbeatStatus i)

/-- Rewrite the record in one slot. -/
def modify (l : PMRecordList) (i : Fin MAX_PM) (f : PmRecord → PmRecord) : PMRecordList :=
  { l with pmList := Function.update l.pmList i (f (l.pmList i)) }

/-! ### Registration and task counters -/

/-- `PMRecordList::AlreadyRegistered`, without its warning. -/
def AlreadyRegistered (l : PMRecordList) (PMAddress : SDMComponentID) : Bool :=
  (l.slotOf PMAddress).isSome

/-- `PMRecordList::RegisterPM`. -/
def RegisterPM (l : PMRecordList) (PMAddress : SDMComponentID) (Resources : SDMTaskResources) :
    Bool × PMRecordList :=
  match l.freeSlot with
  | none => (false, l)
  | some i =>
      (true, l.modify i fun _ =>
        { in_use := true
          tasks := 0
          resources := Resources
          component_id := { PMAddress with port := PORT_PM } })

/-- `PMRecordList::ClearAllRunningTasks`. -/
def ClearAllRunningTasks (l : PMRecordList) : PMRecordList :=
  { l with pmList := fun i => { l.pmList i with tasks := 0 } }

/-- `PMRecordList::TaskFinished`. -/
def TaskFinished (l : PMRecordList) (PMAddress : SDMComponentID) : Bool × PMRecordList :=
  match l.slotOf PMAddress with
  | none => (false, l)
  | some i => (true, l.modify i fun r => { r with tasks := r.tasks - 1 })

/-- `PMRecordList::TaskHasStarted`. -/
def TaskHasStarted (l : PMRecordList) (PMAddress : SDMComponentID) : Bool × PMRecordList :=
  match l.slotOf PMAddress with
  | none => (false, l)
  | some i => (true, l.modify i fun r => { r with tasks := r.tasks + 1 })

/-- `PMRecordList::GetTasks`. -/
def GetTasks (l : PMRecordList) (PMAddress : SDMComponentID) : Int16 :=
  match l.slotOf PMAddress with
  | none => 0
  | some i => (l.pmList i).tasks

/-- `PMRecordList::SetTasks`. -/
def SetTasks (l : PMRecordList) (PMAddress : SDMComponentID) (NumTasks : Int16) : PMRecordList :=
  { l with pmList := fun i =>
      if l.Holds PMAddress i then { l.pmList i with tasks := NumTasks } else l.pmList i }

/-- `PMRecordList::IsEmpty`. -/
def IsEmpty (l : PMRecordList) : Bool := (Fin.find? fun i => (l.pmList i).in_use).isNone

/-! ### Choice of a process manager -/

/-- The first slot with the preferred node id, in use or not. -/
def preferredSlot (l : PMRecordList) (TaskResources : SDMTaskResources) : Option (Fin MAX_PM) :=
  Fin.find? fun i =>
    TaskResources.GetPreferredPmId == (l.pmList i).resources.GetPreferredPmId

/-- `PMRecordList::FindPMID`. -/
def FindPMID (l : PMRecordList) (TaskResources : SDMTaskResources) : Option PmRecord :=
  if TaskResources.IsPreferredPmIdSet then (l.preferredSlot TaskResources).map l.pmList else none

/-- The test of `FindEligiblePM` on one record. -/
def eligible (NumTasks : Int) (TaskResources : SDMTaskResources) (r : PmRecord) : Bool :=
  let taskResources := TaskResources.GetIgnorePmId
  let taskArchOs := taskResources &&& (ARCHMASK ||| OSMASK)
  let pmResources := r.resources.GetIgnorePmId
  r.in_use && decide (r.tasks.toInt ≤ NumTasks) &&
    (pmResources &&& (ARCHMASK ||| OSMASK)) == taskArchOs &&
    decide ((pmResources &&& MEMMASK) ≥ (taskResources &&& MEMMASK))

/-- The first eligible slot from `schedulerInfoIndex` on. -/
def eligibleSlot (l : PMRecordList) (NumTasks : Int) (TaskResources : SDMTaskResources) :
    Option (Fin MAX_PM) :=
  Fin.find? fun i =>
    decide (l.schedulerInfoIndex ≤ i.val) && eligible NumTasks TaskResources (l.pmList i)

/-- `PMRecordList::FindEligiblePM`: the search goes on where the last one stopped. -/
def FindEligiblePM (l : PMRecordList) (NumTasks : Int) (TaskResources : SDMTaskResources) :
    Option PmRecord × PMRecordList :=
  match l.eligibleSlot NumTasks TaskResources with
  | some i => (some (l.pmList i), { l with schedulerInfoIndex := i + 1 })
  | none => (none, { l with schedulerInfoIndex := 0 })

/-! ### Heartbeats -/

/-- `PMRecordList::SendHeartbeatToAll`: the number of heartbeats sent. -/
def SendHeartbeatToAll (l : PMRecordList) : Nat × PMRecordList :=
  ((Finset.univ.filter fun i => (l.pmList i).in_use = true).card,
    { l with HeartbeatStatus := fun i =>
        if (l.pmList i).in_use then l.HeartbeatStatus i + 1 else HEARTBEAT_INACTIVE })

/-- `PMRecordList::HeartbeatReceived`. -/
def HeartbeatReceived (l : PMRecordList) (PMAddress : SDMComponentID) : PMRecordList :=
  { l with HeartbeatStatus := fun i => if l.Holds PMAddress i then 0 else l.HeartbeatStatus i }

/-- `PMRecordList::RemoveAnyFailed`: the record that was removed. -/
def RemoveAnyFailed (l : PMRecordList) : Option PmRecord × PMRecordList :=
  match l.failedSlot with
  | none => (none, l)
  | some i =>
      (some (l.pmList i),
        l.modify i fun r => { r with in_use := false, tasks := 0, resources := .zero })

/-! ### What each function does -/

section Specs

variable {l : PMRecordList} {PMAddress : SDMComponentID} {Resources : SDMTaskResources}
  {i j : Fin MAX_PM} {f : PmRecord → PmRecord}

@[simp]
theorem modify_HeartbeatStatus : (l.modify i f).HeartbeatStatus = l.HeartbeatStatus := rfl

@[simp]
theorem modify_pmList_self : (l.modify i f).pmList i = f (l.pmList i) :=
  Function.update_self i _ l.pmList

theorem modify_pmList_of_ne (ne : j ≠ i) : (l.modify i f).pmList j = l.pmList j :=
  Function.update_of_ne ne _ l.pmList

theorem holds_iff : l.Holds PMAddress i = true ↔
    (l.pmList i).in_use = true ∧ (l.pmList i).component_id.address = PMAddress.address := by
  rw [Holds, Bool.and_eq_true, beq_iff_eq]

theorem slotOf_eq_some (found : l.slotOf PMAddress = some i) : l.Holds PMAddress i = true :=
  Fin.eq_true_of_find?_eq_some found

theorem slotOf_eq_none (missing : l.slotOf PMAddress = none) (i : Fin MAX_PM) :
    l.Holds PMAddress i = false :=
  Fin.eq_false_of_find?_eq_none missing i

theorem freeSlot_eq_some (found : l.freeSlot = some i) : (l.pmList i).in_use = false := by
  have free := Fin.eq_true_of_find?_eq_some found
  rwa [Bool.not_eq_true'] at free

theorem failedSlot_eq_some (found : l.failedSlot = some i) :
    (l.pmList i).in_use = true ∧ 2 ≤ l.HeartbeatStatus i := by
  have failed := Fin.eq_true_of_find?_eq_some found
  rwa [Bool.and_eq_true, decide_eq_true_eq] at failed

/-- No slot before the failed one has failed. -/
theorem failedSlot_le (found : l.failedSlot = some i) (used : (l.pmList j).in_use = true)
    (missed : 2 ≤ l.HeartbeatStatus j) : i ≤ j := by
  by_contra before
  have not := Fin.eq_false_of_find?_eq_some_of_lt found j (Fin.not_le.mp before)
  rw [used, Bool.true_and, decide_eq_false_iff_not] at not
  exact not missed

/-- A slot that failed is found, or one before it. -/
theorem exists_failedSlot (used : (l.pmList j).in_use = true)
    (missed : 2 ≤ l.HeartbeatStatus j) : ∃ i, l.failedSlot = some i := by
  apply Option.isSome_iff_exists.mp
  apply Fin.isSome_find?_iff.mpr
  exact ⟨j, by rw [used, Bool.true_and, decide_eq_true_eq]; exact missed⟩

theorem registerPM_of_free (free : l.freeSlot = some i) :
    l.RegisterPM PMAddress Resources = (true, l.modify i fun _ =>
      { in_use := true
        tasks := 0
        resources := Resources
        component_id := { PMAddress with port := PORT_PM } }) := by
  rw [RegisterPM, free]

theorem registerPM_of_full (full : l.freeSlot = none) :
    l.RegisterPM PMAddress Resources = (false, l) := by
  rw [RegisterPM, full]

theorem removeAnyFailed_of_failed (failed : l.failedSlot = some i) :
    l.RemoveAnyFailed = (some (l.pmList i),
      l.modify i fun r => { r with in_use := false, tasks := 0, resources := .zero }) := by
  rw [RemoveAnyFailed, failed]

theorem removeAnyFailed_of_none (none_failed : l.failedSlot = none) :
    l.RemoveAnyFailed = (none, l) := by
  rw [RemoveAnyFailed, none_failed]

/-- The record that is removed was in use, and its slot is the failed one. -/
theorem removeAnyFailed_eq_some {r : PmRecord} (removed : l.RemoveAnyFailed.1 = some r) :
    ∃ i, (l.pmList i).in_use = true ∧ l.pmList i = r := by
  cases failed : l.failedSlot with
  | none =>
      rw [removeAnyFailed_of_none failed] at removed
      cases removed
  | some i =>
      rw [removeAnyFailed_of_failed failed] at removed
      cases removed
      exact ⟨i, (failedSlot_eq_some failed).1, rfl⟩

end Specs

/-! ### Registered process managers -/

/-- A process manager is registered at the address. -/
def Registered (l : PMRecordList) (address : UInt32) : Prop :=
  ∃ i, (l.pmList i).in_use = true ∧ (l.pmList i).component_id.address = address

instance (l : PMRecordList) (address : UInt32) : Decidable (l.Registered address) :=
  Fintype.decidableExistsFintype

/-- A list to which the handlers of the Task Manager register process managers: one slot an
address, every one at `PORT_PM`, and no resources in a slot that is not in use. -/
structure WellFormed (l : PMRecordList) : Prop where
  distinct : ∀ i j, (l.pmList i).in_use = true → (l.pmList j).in_use = true →
    (l.pmList i).component_id.address = (l.pmList j).component_id.address → i = j
  port : ∀ i, (l.pmList i).in_use = true → (l.pmList i).component_id.port = PORT_PM
  idle : ∀ i, (l.pmList i).in_use = false → (l.pmList i).resources = .zero

/-- The lists hold the same process managers in the same slots. -/
structure SameRecords (l l' : PMRecordList) : Prop where
  in_use : ∀ i, (l'.pmList i).in_use = (l.pmList i).in_use
  component_id : ∀ i, (l'.pmList i).component_id = (l.pmList i).component_id
  resources : ∀ i, (l'.pmList i).resources = (l.pmList i).resources

section Registration

variable {l l' : PMRecordList} {PMAddress : SDMComponentID} {Resources : SDMTaskResources}
  {i : Fin MAX_PM} {f : PmRecord → PmRecord} {address : UInt32}

theorem SameRecords.refl (l : PMRecordList) : l.SameRecords l :=
  ⟨fun _ => rfl, fun _ => rfl, fun _ => rfl⟩

theorem SameRecords.trans {l'' : PMRecordList} (first : l.SameRecords l')
    (second : l'.SameRecords l'') : l.SameRecords l'' where
  in_use i := (second.in_use i).trans (first.in_use i)
  component_id i := (second.component_id i).trans (first.component_id i)
  resources i := (second.resources i).trans (first.resources i)

theorem SameRecords.wellFormed (same : l.SameRecords l') (formed : l.WellFormed) :
    l'.WellFormed where
  distinct i j := by
    rw [same.in_use, same.in_use, same.component_id, same.component_id]
    exact formed.distinct i j
  port i := by
    rw [same.in_use, same.component_id]
    exact formed.port i
  idle i := by
    rw [same.in_use, same.resources]
    exact formed.idle i

theorem sameRecords_modify (in_use : ∀ r, (f r).in_use = r.in_use)
    (component_id : ∀ r, (f r).component_id = r.component_id)
    (resources : ∀ r, (f r).resources = r.resources) : l.SameRecords (l.modify i f) := by
  have same : ∀ j, (l.modify i f).pmList j = l.pmList j ∨
      j = i ∧ (l.modify i f).pmList j = f (l.pmList j) := by
    intro j
    by_cases h : j = i
    · subst h
      exact .inr ⟨rfl, modify_pmList_self⟩
    · exact .inl (modify_pmList_of_ne h)
  constructor
  all_goals
    intro j
    rcases same j with h | ⟨_, h⟩
  · rw [h]
  · rw [h, in_use]
  · rw [h]
  · rw [h, component_id]
  · rw [h]
  · rw [h, resources]

theorem taskFinished_of_slot (found : l.slotOf PMAddress = some i) :
    l.TaskFinished PMAddress = (true, l.modify i fun r => { r with tasks := r.tasks - 1 }) := by
  rw [TaskFinished, found]

theorem taskFinished_of_none (missing : l.slotOf PMAddress = none) :
    l.TaskFinished PMAddress = (false, l) := by
  rw [TaskFinished, missing]

theorem sameRecords_taskFinished : l.SameRecords (l.TaskFinished PMAddress).2 := by
  cases found : l.slotOf PMAddress with
  | none =>
      rw [taskFinished_of_none found]
      exact .refl l
  | some i =>
      rw [taskFinished_of_slot found]
      dsimp only
      apply sameRecords_modify <;> exact fun _ => rfl

theorem taskHasStarted_of_slot (found : l.slotOf PMAddress = some i) :
    l.TaskHasStarted PMAddress = (true, l.modify i fun r => { r with tasks := r.tasks + 1 }) := by
  rw [TaskHasStarted, found]

theorem taskHasStarted_of_none (missing : l.slotOf PMAddress = none) :
    l.TaskHasStarted PMAddress = (false, l) := by
  rw [TaskHasStarted, missing]

theorem sameRecords_taskHasStarted : l.SameRecords (l.TaskHasStarted PMAddress).2 := by
  cases found : l.slotOf PMAddress with
  | none =>
      rw [taskHasStarted_of_none found]
      exact .refl l
  | some i =>
      rw [taskHasStarted_of_slot found]
      dsimp only
      apply sameRecords_modify <;> exact fun _ => rfl

theorem sameRecords_setTasks {NumTasks : Int16} :
    l.SameRecords (l.SetTasks PMAddress NumTasks) := by
  constructor
  all_goals
    intro i
    simp only [SetTasks]
    split <;> rfl

theorem sameRecords_clearAllRunningTasks : l.SameRecords l.ClearAllRunningTasks :=
  ⟨fun _ => rfl, fun _ => rfl, fun _ => rfl⟩

theorem sameRecords_of_eq (same : l'.pmList = l.pmList) : l.SameRecords l' :=
  ⟨fun _ => by rw [same], fun _ => by rw [same], fun _ => by rw [same]⟩

theorem sameRecords_sendHeartbeatToAll : l.SameRecords l.SendHeartbeatToAll.2 :=
  sameRecords_of_eq rfl

theorem sameRecords_heartbeatReceived : l.SameRecords (l.HeartbeatReceived PMAddress) :=
  sameRecords_of_eq rfl

/-- A preferred process manager that is found is registered. -/
theorem findPMID_eq_some {TaskResources : SDMTaskResources} {PMData : PmRecord}
    (formed : l.WellFormed) (found : l.FindPMID TaskResources = some PMData) :
    ∃ i, (l.pmList i).in_use = true ∧ l.pmList i = PMData := by
  rw [FindPMID] at found
  split at found
  · rename_i preferred
    obtain ⟨i, first, rfl⟩ := Option.map_eq_some_iff.mp found
    refine ⟨i, ?_, rfl⟩
    have same : TaskResources.GetPreferredPmId = (l.pmList i).resources.GetPreferredPmId :=
      beq_iff_eq.mp (Fin.eq_true_of_find?_eq_some first)
    by_contra idle
    rw [formed.idle i (Bool.eq_false_iff.mpr idle)] at same
    rw [SDMTaskResources.IsPreferredPmIdSet, bne_iff_ne] at preferred
    exact preferred same
  · cases found

/-- The search for an eligible process manager leaves the records alone. -/
theorem findEligiblePM_pmList {NumTasks : Int} {TaskResources : SDMTaskResources} :
    (l.FindEligiblePM NumTasks TaskResources).2.pmList = l.pmList := by
  rw [FindEligiblePM]
  cases l.eligibleSlot NumTasks TaskResources <;> rfl

/-- An eligible process manager is registered. -/
theorem findEligiblePM_eq_some {NumTasks : Int} {TaskResources : SDMTaskResources}
    {PMData : PmRecord} (found : (l.FindEligiblePM NumTasks TaskResources).1 = some PMData) :
    ∃ i, (l.pmList i).in_use = true ∧ l.pmList i = PMData := by
  rw [FindEligiblePM] at found
  cases first : l.eligibleSlot NumTasks TaskResources with
  | none =>
      rw [first] at found
      cases found
  | some i =>
      rw [first] at found
      cases found
      rw [eligibleSlot] at first
      have accepted := Fin.eq_true_of_find?_eq_some first
      simp only [Bool.and_eq_true, eligible] at accepted
      exact ⟨i, accepted.2.1.1.1, rfl⟩

theorem alreadyRegistered_iff :
    l.AlreadyRegistered PMAddress = true ↔ l.Registered PMAddress.address := by
  rw [AlreadyRegistered, slotOf, Fin.isSome_find?_iff, Registered]
  exact exists_congr fun i => holds_iff

theorem wellFormed_new : new.WellFormed where
  distinct _ _ used := nomatch used
  port _ used := nomatch used
  idle _ _ := rfl

/-- A process manager registers at an address that is not registered yet. -/
theorem WellFormed.registerPM (formed : l.WellFormed)
    (absent : ¬ l.Registered PMAddress.address) :
    (l.RegisterPM PMAddress Resources).2.WellFormed := by
  cases free : l.freeSlot with
  | none =>
      rw [registerPM_of_full free]
      exact formed
  | some k =>
      rw [registerPM_of_free free]
      set new : PmRecord :=
        { in_use := true
          tasks := 0
          resources := Resources
          component_id := { PMAddress with port := PORT_PM } }
      have other : ∀ j, j ≠ k → (l.modify k fun _ => new).pmList j = l.pmList j := fun j ne =>
        modify_pmList_of_ne ne
      have self : (l.modify k fun _ => new).pmList k = new := modify_pmList_self
      constructor
      · intro i j usedI usedJ same
        by_cases hi : i = k
        · by_cases hj : j = k
          · exact hi.trans hj.symm
          · subst hi
            rw [other j hj] at usedJ same
            rw [self] at same
            exact absurd ⟨j, usedJ, same.symm⟩ absent
        · by_cases hj : j = k
          · subst hj
            rw [other i hi] at usedI same
            rw [self] at same
            exact absurd ⟨i, usedI, same⟩ absent
          · rw [other i hi] at usedI same
            rw [other j hj] at usedJ same
            exact formed.distinct i j usedI usedJ same
      · intro i used
        by_cases hi : i = k
        · subst hi
          rw [self]
        · rw [other i hi] at used ⊢
          exact formed.port i used
      · intro i idle
        by_cases hi : i = k
        · subst hi
          rw [self] at idle
          cases idle
        · rw [other i hi] at idle ⊢
          exact formed.idle i idle

theorem WellFormed.removeAnyFailed (formed : l.WellFormed) : l.RemoveAnyFailed.2.WellFormed := by
  cases failed : l.failedSlot with
  | none =>
      rw [removeAnyFailed_of_none failed]
      exact formed
  | some k =>
      rw [removeAnyFailed_of_failed failed]
      set gone : PmRecord → PmRecord := fun r =>
        { r with in_use := false, tasks := 0, resources := .zero }
      have used : ∀ i, ((l.modify k gone).pmList i).in_use = true →
          (l.modify k gone).pmList i = l.pmList i := by
        intro i used
        by_cases hi : i = k
        · subst hi
          rw [modify_pmList_self] at used
          cases used
        · exact modify_pmList_of_ne hi
      constructor
      · intro i j usedI usedJ same
        have keptI := used i usedI
        have keptJ := used j usedJ
        rw [keptI] at usedI same
        rw [keptJ] at usedJ same
        exact formed.distinct i j usedI usedJ same
      · intro i usedI
        have kept := used i usedI
        rw [kept] at usedI ⊢
        exact formed.port i usedI
      · intro i idle
        by_cases hi : i = k
        · subst hi
          rw [modify_pmList_self]
        · rw [modify_pmList_of_ne hi] at idle ⊢
          exact formed.idle i idle

end Registration

end PMRecordList

end Sdm
