import Mathlib.Data.Fintype.Basic
import Mathlib.Logic.Function.Basic
import Sdm.Message.TaskMessages

/-!
`Task` and `TaskList`: the Task Manager's fixed table of tasks.

A task is looked up by its pid in every entry, whatever the state of the entry. An entry
that is queued or not in use carries pid 0, except that `PMFailure` queues a task again
under the pid that it ran with. An entry that is queued again keeps the identifier of the
process manager that ran it.
-/

namespace Sdm

open Sdm.Lib

/-- `NUMTASKS`: the size of the table. -/
def NUMTASKS : Nat := 50

/-- `PID_INVALID`. -/
def PID_INVALID : UInt32 := 0

/-- The states of a task (`taskdefs.h`). -/
inductive TaskState where
  | INACTIVE
  | ACTIVE
  | ASSIGNED
  | SCHEDULED
  | PENDING
  | FINISHED
  | RUNNING
  deriving DecidableEq, Repr

def MODE_NORMAL : Int32 := 0
def MODE_ALWAYS_RUNNING : Int32 := 1

/-- `Task`. The file name of an entry that is not in use is not set. -/
structure Task where
  pmComponentID : SDMComponentID
  state : TaskState
  priority : Int8
  pid : UInt32
  resources : SDMTaskResources
  filename : Option CString
  timeout : Int32
  taskMode : Int32
  taskVersion : Int32
  deriving DecidableEq

namespace Task

/-- `Task::InitTask`; `Task::Delete` leaves the same. -/
def init : Task where
  pmComponentID := .zero
  state := .INACTIVE
  priority := 0
  pid := PID_INVALID
  resources := .zero
  filename := none
  timeout := 0
  taskMode := MODE_NORMAL
  taskVersion := 0

instance : Inhabited Task := ⟨init⟩

/-- `Task::operator=`: everything but the identifier of the process manager. -/
def copy (t : Task) : Task := { t with pmComponentID := .zero }

end Task

/-- `TaskList`. -/
abbrev TaskList := Fin NUMTASKS → Task

namespace TaskList

/-- `TaskList::Init`; `TaskList::ClearList` leaves the same. -/
def ClearList : TaskList := fun _ => .init

/-- The first entry in one of these states. -/
def firstIn (tasks : TaskList) (state : TaskState) : Option (Fin NUMTASKS) :=
  Fin.find? fun n => (tasks n).state == state

/-- The first entry with the pid, in whatever state. -/
def entryOf (tasks : TaskList) (p : UInt32) : Option (Fin NUMTASKS) :=
  Fin.find? fun n => (tasks n).pid == p

/-- Rewrite one entry. -/
def modify (tasks : TaskList) (n : Fin NUMTASKS) (f : Task → Task) : TaskList :=
  Function.update tasks n (f (tasks n))

/-- `TaskList::AnyInactive`. -/
def AnyInactive (tasks : TaskList) : Bool := (tasks.firstIn .INACTIVE).isSome

/-- `TaskList::AnyPending`. -/
def AnyPending (tasks : TaskList) : Bool := (tasks.firstIn .PENDING).isSome

/-- `TaskList::AddTo`. -/
def AddTo (tasks : TaskList) (t : Task) : Bool × TaskList :=
  match tasks.firstIn .INACTIVE with
  | none => (false, tasks)
  | some n => (true, tasks.modify n fun _ => t.copy)

/-- `TaskList::RemoveFrom` by pid. -/
def RemoveFrom (tasks : TaskList) (p : UInt32) : Bool × TaskList :=
  match tasks.entryOf p with
  | none => (false, tasks)
  | some n => (true, tasks.modify n fun _ => .init)

/-- `TaskList::TaskFinished`. -/
def TaskFinished (tasks : TaskList) (a_uiPid : UInt32) : Bool × TaskList :=
  match tasks.entryOf a_uiPid with
  | none => (false, tasks)
  | some n =>
      if (tasks n).taskMode = MODE_NORMAL then tasks.RemoveFrom a_uiPid
      else if (tasks n).taskMode = MODE_ALWAYS_RUNNING then
        (true, tasks.modify n fun t => { t with state := .PENDING, pid := 0 })
      else (false, tasks)

/-- `TaskList::FindPendingTask`: the first queued task and its copy. -/
def FindPendingTask (tasks : TaskList) : Option (Fin NUMTASKS × Task) :=
  (tasks.firstIn .PENDING).map fun n => (n, (tasks n).copy)

/-- `TaskList::RemovePreferredPmId`. -/
def RemovePreferredPmId (tasks : TaskList) (TaskResources : SDMTaskResources) : TaskList :=
  fun n =>
    if (tasks n).state ≠ .INACTIVE ∧
        (tasks n).resources.GetPreferredPmId = TaskResources.GetPreferredPmId then
      { tasks n with resources := (tasks n).resources.SetPreferredPmNodeId 0 }
    else tasks n

/-- `TaskList::GetPMAddress`. -/
def GetPMAddress (tasks : TaskList) (pid : UInt32) : SDMComponentID :=
  match tasks.entryOf pid with
  | none => .zero
  | some n => (tasks n).pmComponentID

/-- The entries that name the process manager, in order. -/
def entriesOn (tasks : TaskList) (PMID : SDMComponentID) : List (Fin NUMTASKS) :=
  (List.finRange NUMTASKS).filter fun n => (tasks n).pmComponentID == PMID

/-- `TaskList::PMFailure`: the errors that it sends. -/
def PMFailure (tasks : TaskList) (PMID : SDMComponentID) : List SDMTaskError × TaskList :=
  ((tasks.entriesOn PMID).map fun n =>
      { source := { PMID with sensorID := (tasks n).pid }, pid := (tasks n).pid },
    fun n => if (tasks n).pmComponentID = PMID then { tasks n with state := .PENDING } else tasks n)

section Specs

variable {tasks : TaskList} {n m : Fin NUMTASKS} {f : Task → Task} {p : UInt32} {s : TaskState}
  {t : Task}

@[simp]
theorem modify_self : tasks.modify n f n = f (tasks n) := Function.update_self n _ tasks

theorem modify_of_ne (ne : m ≠ n) : tasks.modify n f m = tasks m := Function.update_of_ne ne _ tasks

theorem firstIn_eq_some (found : tasks.firstIn s = some n) : (tasks n).state = s :=
  beq_iff_eq.mp (Fin.eq_true_of_find?_eq_some found)

theorem entryOf_eq_some (found : tasks.entryOf p = some n) : (tasks n).pid = p :=
  beq_iff_eq.mp (Fin.eq_true_of_find?_eq_some found)

theorem addTo_of_room (room : tasks.firstIn .INACTIVE = some n) :
    (tasks.AddTo t).2 = tasks.modify n fun _ => t.copy := by
  unfold AddTo
  rw [room]

theorem addTo_of_full (full : tasks.firstIn .INACTIVE = none) : (tasks.AddTo t).2 = tasks := by
  unfold AddTo
  rw [full]

theorem removeFrom_of_found (found : tasks.entryOf p = some n) :
    tasks.RemoveFrom p = (true, tasks.modify n fun _ => .init) := by
  unfold RemoveFrom
  rw [found]

theorem taskFinished_of_missing (missing : tasks.entryOf p = none) :
    (tasks.TaskFinished p).2 = tasks := by
  unfold TaskFinished
  rw [missing]

theorem taskFinished_of_normal (found : tasks.entryOf p = some n)
    (normal : (tasks n).taskMode = MODE_NORMAL) :
    (tasks.TaskFinished p).2 = tasks.modify n fun _ => .init := by
  unfold TaskFinished
  rw [found, removeFrom_of_found found]
  exact congrArg Prod.snd (if_pos normal)

theorem taskFinished_of_always (found : tasks.entryOf p = some n)
    (always : (tasks n).taskMode = MODE_ALWAYS_RUNNING) :
    (tasks.TaskFinished p).2 = tasks.modify n fun t => { t with state := .PENDING, pid := 0 } := by
  have other : (tasks n).taskMode ≠ MODE_NORMAL := by
    rw [always]
    decide
  unfold TaskFinished
  rw [found]
  exact congrArg Prod.snd ((if_neg other).trans (if_pos always))

theorem taskFinished_of_invalid (found : tasks.entryOf p = some n)
    (normal : (tasks n).taskMode ≠ MODE_NORMAL)
    (always : (tasks n).taskMode ≠ MODE_ALWAYS_RUNNING) : (tasks.TaskFinished p).2 = tasks := by
  unfold TaskFinished
  rw [found]
  exact congrArg Prod.snd ((if_neg normal).trans (if_neg always))

/-- The lists agree in all that the lookups read, and in the entries that are not in use. -/
structure SameEntries (tasks tasks' : TaskList) : Prop where
  state : ∀ n, (tasks' n).state = (tasks n).state
  pid : ∀ n, (tasks' n).pid = (tasks n).pid
  pmComponentID : ∀ n, (tasks' n).pmComponentID = (tasks n).pmComponentID
  taskMode : ∀ n, (tasks' n).taskMode = (tasks n).taskMode
  inactive : ∀ n, (tasks n).state = .INACTIVE → tasks' n = tasks n

theorem SameEntries.refl (tasks : TaskList) : tasks.SameEntries tasks :=
  ⟨fun _ => rfl, fun _ => rfl, fun _ => rfl, fun _ => rfl, fun _ _ => rfl⟩

theorem sameEntries_removePreferredPmId {TaskResources : SDMTaskResources} :
    tasks.SameEntries (tasks.RemovePreferredPmId TaskResources) := by
  constructor
  all_goals
    intro n
    simp only [RemovePreferredPmId]
    split
  · rfl
  · rfl
  · rfl
  · rfl
  · rfl
  · rfl
  · rfl
  · rfl
  · rename_i used
    intro inactive
    exact absurd inactive used.1
  · intro _
    rfl

theorem mem_entriesOn {PMID : SDMComponentID} :
    n ∈ tasks.entriesOn PMID ↔ (tasks n).pmComponentID = PMID := by
  rw [entriesOn, List.mem_filter, beq_iff_eq]
  exact ⟨fun h => h.2, fun h => ⟨List.mem_finRange n, h⟩⟩

end Specs

/-! ### Regular lists -/

/-- Every entry is cleared, queued or running. -/
def Regular (tasks : TaskList) : Prop :=
  ∀ n, tasks n = .init ∨ (tasks n).state = .PENDING ∨ (tasks n).state = .SCHEDULED

section Regularity

variable {tasks tasks' : TaskList} {n : Fin NUMTASKS} {t : Task}

theorem Regular.eq_init (regular : tasks.Regular) (inactive : (tasks n).state = .INACTIVE) :
    tasks n = .init := by
  rcases regular n with cleared | queued | running
  · exact cleared
  · rw [queued] at inactive
    cases inactive
  · rw [running] at inactive
    cases inactive

theorem regular_clearList : Regular ClearList := fun _ => .inl rfl

theorem Regular.modify {f : Task → Task} (regular : tasks.Regular)
    (written : f (tasks n) = .init ∨ (f (tasks n)).state = .PENDING ∨
      (f (tasks n)).state = .SCHEDULED) : (tasks.modify n f).Regular := by
  intro m
  by_cases here : m = n
  · subst here
    rw [modify_self]
    exact written
  · rw [modify_of_ne here]
    exact regular m

theorem Regular.addTo (regular : tasks.Regular)
    (used : t.state = .PENDING ∨ t.state = .SCHEDULED) : (tasks.AddTo t).2.Regular := by
  cases room : tasks.firstIn .INACTIVE with
  | none =>
      rw [addTo_of_full room]
      exact regular
  | some n =>
      rw [addTo_of_room room]
      exact regular.modify (.inr used)

theorem Regular.taskFinished (regular : tasks.Regular) (p : UInt32) :
    (tasks.TaskFinished p).2.Regular := by
  cases found : tasks.entryOf p with
  | none =>
      rw [taskFinished_of_missing found]
      exact regular
  | some n =>
      by_cases normal : (tasks n).taskMode = MODE_NORMAL
      · rw [taskFinished_of_normal found normal]
        exact regular.modify (.inl rfl)
      · by_cases always : (tasks n).taskMode = MODE_ALWAYS_RUNNING
        · rw [taskFinished_of_always found always]
          exact regular.modify (.inr (.inl rfl))
        · rw [taskFinished_of_invalid found normal always]
          exact regular

theorem Regular.sameEntries (regular : tasks.Regular) (same : tasks.SameEntries tasks') :
    tasks'.Regular := by
  intro n
  rcases regular n with cleared | queued | running
  · left
    rw [same.inactive n (by rw [cleared]; rfl)]
    exact cleared
  · right
    left
    rw [same.state]
    exact queued
  · right
    right
    rw [same.state]
    exact running

theorem Regular.pmFailure {PMID : SDMComponentID} (regular : tasks.Regular) :
    (tasks.PMFailure PMID).2.Regular := by
  intro n
  by_cases on : (tasks n).pmComponentID = PMID
  · right
    left
    exact congrArg Task.state (if_pos on)
  · have kept : (tasks.PMFailure PMID).2 n = tasks n := if_neg on
    rw [kept]
    exact regular n

end Regularity

end TaskList

end Sdm
