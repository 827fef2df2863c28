import Mathlib.Data.Fintype.Card
import Sdm.TM.TaskManager

/-!
Load accounting: the task counters of the process managers against the task list.

The history of an entry is the address of the process manager that runs its task: the one
that the `Scheduler` sent the task to, or the one that reported it. The counter of a
registered process manager should be the number of running entries with its address.

* `loads_counted`: it is, in every run whose steps meet `LoadsKept`; and a step out of such
  a run keeps the counters right exactly when it meets this condition.
-/

namespace Sdm

open Sdm.Lib

/-- Two tests that differ in one element only. -/
theorem card_filter_change {α : Type*} [Fintype α] [DecidableEq α] {p q : α → Prop}
    [DecidablePred p] [DecidablePred q] (a : α) (others : ∀ b, b ≠ a → (q b ↔ p b)) :
    (Finset.univ.filter q).card + (if p a then 1 else 0) =
      (Finset.univ.filter p).card + (if q a then 1 else 0) := by
  have split : ∀ (r : α → Prop) [DecidablePred r], (Finset.univ.filter r).card =
      ((Finset.univ.filter r).erase a).card + (if r a then 1 else 0) := by
    intro r _
    by_cases h : r a
    · rw [if_pos h, Finset.card_erase_add_one (Finset.mem_filter.mpr ⟨Finset.mem_univ a, h⟩)]
    · rw [if_neg h, Finset.erase_eq_of_notMem fun mem => h (Finset.mem_filter.mp mem).2]
      rfl
  have rest : (Finset.univ.filter q).erase a = (Finset.univ.filter p).erase a := by
    ext b
    rw [Finset.mem_erase, Finset.mem_erase, Finset.mem_filter, Finset.mem_filter]
    constructor
    · rintro ⟨ne, mem, h⟩
      exact ⟨ne, mem, (others b ne).mp h⟩
    · rintro ⟨ne, mem, h⟩
      exact ⟨ne, mem, (others b ne).mpr h⟩
  rw [split p, split q, rest]
  omega

namespace TaskList

/-- The entry is running a task on the process manager at the address. -/
def RunsOn (tasks : TaskList) (host : Fin NUMTASKS → UInt32) (address : UInt32)
    (n : Fin NUMTASKS) : Prop :=
  (tasks n).state = .SCHEDULED ∧ host n = address

instance (tasks : TaskList) (host : Fin NUMTASKS → UInt32) (address : UInt32) :
    DecidablePred (tasks.RunsOn host address) :=
  fun _ => instDecidableAnd

/-- The number of entries that run a task on the process manager at the address. -/
def load (tasks : TaskList) (host : Fin NUMTASKS → UInt32) (address : UInt32) : Nat :=
  (Finset.univ.filter (tasks.RunsOn host address)).card

section Load

variable {tasks tasks' : TaskList} {host host' : Fin NUMTASKS → UInt32} {address : UInt32}
  {n : Fin NUMTASKS}

theorem load_le : tasks.load host address ≤ 50 := by
  calc tasks.load host address ≤ (Finset.univ : Finset (Fin NUMTASKS)).card :=
        Finset.card_le_card (Finset.filter_subset _ _)
    _ = 50 := Finset.card_fin NUMTASKS

theorem load_congr
    (same : ∀ n, tasks'.RunsOn host' address n ↔ tasks.RunsOn host address n) :
    tasks'.load host' address = tasks.load host address :=
  congrArg Finset.card (Finset.filter_congr fun n _ => same n)

theorem load_eq_zero : tasks.load host address = 0 ↔ ∀ n, ¬ tasks.RunsOn host address n := by
  rw [load, Finset.card_eq_zero, Finset.filter_eq_empty_iff]
  exact ⟨fun h n => h (Finset.mem_univ n), fun h n _ => h n⟩

/-- One entry changes. -/
theorem load_change (tasks tasks' : TaskList) (host host' : Fin NUMTASKS → UInt32)
    (address : UInt32) (n : Fin NUMTASKS)
    (others : ∀ m, m ≠ n → (tasks'.RunsOn host' address m ↔ tasks.RunsOn host address m)) :
    tasks'.load host' address + (if tasks.RunsOn host address n then 1 else 0) =
      tasks.load host address + (if tasks'.RunsOn host' address n then 1 else 0) :=
  card_filter_change n others

end Load

end TaskList

namespace PMRecordList

section Slots

variable {l : PMRecordList} {PMAddress : SDMComponentID} {i : Fin MAX_PM} {address : UInt32}

/-- The slot of an address is the only slot in use with it. -/
theorem WellFormed.slotOf_eq_some_iff (formed : l.WellFormed) :
    l.slotOf PMAddress = some i ↔
      (l.pmList i).in_use = true ∧ (l.pmList i).component_id.address = PMAddress.address := by
  constructor
  · intro found
    exact holds_iff.mp (slotOf_eq_some found)
  · rintro ⟨used, same⟩
    cases found : l.slotOf PMAddress with
    | none =>
        have not := slotOf_eq_none found i
        rw [holds_iff.mpr ⟨used, same⟩] at not
        cases not
    | some j =>
        obtain ⟨used', same'⟩ := holds_iff.mp (slotOf_eq_some found)
        rw [formed.distinct i j used used' (same.trans same'.symm)]

theorem tasks_add_one {x : Int16} (small : x.toInt ≤ 50) : (x + 1).toInt = x.toInt + 1 := by
  have low := Int16.le_toInt x
  rw [Int16.toInt_add]
  show (x.toInt + 1).bmod (2 ^ 16) = x.toInt + 1
  exact Int.bmod_eq_of_le (by omega) (by omega)

theorem tasks_sub_one {x : Int16} (nonneg : 0 ≤ x.toInt) : (x - 1).toInt = x.toInt - 1 := by
  have high : x.toInt ≤ 32767 := Int16.toInt_le x
  rw [Int16.toInt_sub]
  show (x.toInt - 1).bmod (2 ^ 16) = x.toInt - 1
  exact Int.bmod_eq_of_le (by omega) (by omega)

/-- `TaskHasStarted` counts one more task for the address. -/
theorem taskHasStarted_tasks (formed : l.WellFormed) (used : (l.pmList i).in_use = true)
    (small : (l.pmList i).tasks.toInt ≤ 50) :
    ((l.TaskHasStarted PMAddress).2.pmList i).tasks.toInt = (l.pmList i).tasks.toInt +
      if (l.pmList i).component_id.address = PMAddress.address then 1 else 0 := by
  by_cases here : (l.pmList i).component_id.address = PMAddress.address
  · rw [taskHasStarted_of_slot (formed.slotOf_eq_some_iff.mpr ⟨used, here⟩), if_pos here]
    dsimp only
    rw [modify_pmList_self]
    exact tasks_add_one small
  · rw [if_neg here, Int.add_zero]
    cases found : l.slotOf PMAddress with
    | none => rw [taskHasStarted_of_none found]
    | some j =>
        have ne : i ≠ j := by
          rintro rfl
          exact here (formed.slotOf_eq_some_iff.mp found).2
        rw [taskHasStarted_of_slot found]
        dsimp only
        rw [modify_pmList_of_ne ne]

/-- `TaskFinished` counts one task less for the address. -/
theorem taskFinished_tasks (formed : l.WellFormed) (used : (l.pmList i).in_use = true)
    (nonneg : 0 ≤ (l.pmList i).tasks.toInt) :
    ((l.TaskFinished PMAddress).2.pmList i).tasks.toInt = (l.pmList i).tasks.toInt -
      if (l.pmList i).component_id.address = PMAddress.address then 1 else 0 := by
  by_cases here : (l.pmList i).component_id.address = PMAddress.address
  · rw [taskFinished_of_slot (formed.slotOf_eq_some_iff.mpr ⟨used, here⟩), if_pos here]
    dsimp only
    rw [modify_pmList_self]
    exact tasks_sub_one nonneg
  · rw [if_neg here, Int.sub_zero]
    cases found : l.slotOf PMAddress with
    | none => rw [taskFinished_of_none found]
    | some j =>
        have ne : i ≠ j := by
          rintro rfl
          exact here (formed.slotOf_eq_some_iff.mp found).2
        rw [taskFinished_of_slot found]
        dsimp only
        rw [modify_pmList_of_ne ne]

/-- `TaskHasStarted` finds a registered process manager only. -/
theorem taskHasStarted_fst : (l.TaskHasStarted PMAddress).1 = true ↔
    l.Registered PMAddress.address := by
  rw [← alreadyRegistered_iff, AlreadyRegistered]
  cases found : l.slotOf PMAddress with
  | none =>
      rw [taskHasStarted_of_none found]
      exact Iff.rfl
  | some j =>
      rw [taskHasStarted_of_slot found]
      exact ⟨fun _ => rfl, fun _ => rfl⟩

end Slots

end PMRecordList

namespace TaskManager

/-- The address of the process manager that runs the task of each entry. -/
def hostOf (host : Fin NUMTASKS → UInt32) (s : TaskManager) : Action → Fin NUMTASKS → UInt32
  | .PMRunningTask msgTask =>
      match s.taskList.firstIn .INACTIVE with
      | some n => Function.update host n msgTask.source.address
      | none => host
  | .SchedulerPlace =>
      match s.scheduler with
      | .placing n _ PMData => Function.update host n PMData.component_id.address
      | _ => host
  | _ => host

/-- The entry that the step writes a running task into. -/
def starts (s : TaskManager) : Action → Option (Fin NUMTASKS)
  | .PMRunningTask _ => s.taskList.firstIn .INACTIVE
  | .SchedulerPlace =>
      match s.scheduler with
      | .placing n _ _ => some n
      | _ => none
  | _ => none

/-- Runs of the Task Manager with the history of each entry. -/
def hostedRuns : Machine (TaskManager × (Fin NUMTASKS → UInt32)) Action (List TMMessage) :=
  machine.withGhost fun host s a _ => hostOf host s a

/-- The counter of every registered process manager is its load. -/
def LoadsCounted (s : TaskManager) (host : Fin NUMTASKS → UInt32) : Prop :=
  ∀ i, (s.pmList.pmList i).in_use = true →
    (s.pmList.pmList i).tasks.toInt =
      s.taskList.load host (s.pmList.pmList i).component_id.address

/-- The counters are right whenever no reset is between its two calls. -/
def LoadsRight (s : TaskManager) (host : Fin NUMTASKS → UInt32) : Prop :=
  s.resets = 0 → s.LoadsCounted host

/-- The finish report ends the task of a running entry. -/
def Ends (tasks : TaskList) (p : UInt32) (n : Fin NUMTASKS) : Prop :=
  tasks.entryOf p = some n ∧ (tasks n).state = .SCHEDULED ∧
    ((tasks n).taskMode = MODE_NORMAL ∨ (tasks n).taskMode = MODE_ALWAYS_RUNNING)

instance (tasks : TaskList) (p : UInt32) : DecidablePred (Ends tasks p) := fun _ =>
  inferInstanceAs (Decidable (_ ∧ _ ∧ (_ ∨ _)))

/-- The step keeps the counters right.

* A process manager that registers takes over as many tasks from `pending_pms` as the list
  has running on it.
* A registered process manager reports a task only while the list has a free entry.
* A finish report comes from a registered process manager exactly when it ends a task that
  runs on it.
* The `Scheduler` places no task into an entry that runs one on a registered process manager.
* A process manager whose tasks are failed has not registered and got tasks again.
* At the end of a reset, no task has started on a registered process manager since the list
  was cleared. -/
def LoadsKept (s : TaskManager) (host : Fin NUMTASKS → UInt32) : Action → Prop
  | .RegPM msgReg => s.resets = 0 →
      s.pmList.Registered msgReg.source.address ∨ s.pmList.freeSlot = none ∨
        (s.pending_pms.GetTasks msgReg.source).toInt =
          s.taskList.load host msgReg.source.address
  | .PMRunningTask msgTask => s.resets = 0 →
      s.pmList.Registered msgTask.source.address → s.taskList.AnyInactive = true
  | .TaskFinished msgFinished => s.resets = 0 →
      ∀ i, (s.pmList.pmList i).in_use = true →
        ((s.pmList.pmList i).component_id.address = msgFinished.source.address ↔
          ∃ n, Ends s.taskList msgFinished.pid.toUInt32 n ∧
            host n = (s.pmList.pmList i).component_id.address)
  | .SchedulerPlace => s.resets = 0 →
      ∀ n t r, s.scheduler = .placing n t r → (s.taskList n).state = .SCHEDULED →
        ¬ s.pmList.Registered (host n)
  | .PMFailure => s.resets = 0 →
      ∀ PMID, s.pmHeartbeat = some PMID → s.pmList.Registered PMID.address →
        ∀ n, (s.taskList n).state = .SCHEDULED → (s.taskList n).pmComponentID ≠ PMID
  | .ClearAllRunningTasks => s.resets = 1 →
      ∀ n, (s.taskList n).state = .SCHEDULED → ¬ s.pmList.Registered (host n)
  | _ => True

instance (s : TaskManager) (host : Fin NUMTASKS → UInt32) :
    (a : Action) → Decidable (s.LoadsKept host a)
  | .RegPM _ => inferInstanceAs (Decidable (s.resets = 0 → _ ∨ _ ∨ _))
  | .PMRunningTask _ => inferInstanceAs (Decidable (s.resets = 0 → _ → _ = true))
  | .TaskFinished _ =>
      inferInstanceAs (Decidable (s.resets = 0 → ∀ i, (s.pmList.pmList i).in_use = true → _))
  | .SchedulerPlace =>
      match phase : s.scheduler with
      | .placing n _ _ =>
          decidable_of_iff (s.resets = 0 → (s.taskList n).state = .SCHEDULED →
            ¬ s.pmList.Registered (host n))
            ⟨fun kept begun _ _ _ same => by cases phase.symm.trans same; exact kept begun,
              fun kept begun => kept begun _ _ _ phase⟩
      | .searching => isTrue fun _ _ _ _ other => nomatch phase.symm.trans other
      | .sleeping _ _ _ => isTrue fun _ _ _ _ other => nomatch phase.symm.trans other
  | .PMFailure =>
      inferInstanceAs (Decidable (s.resets = 0 → ∀ PMID ∈ s.pmHeartbeat, _ → ∀ n, _ → _))
  | .ClearAllRunningTasks => inferInstanceAs (Decidable (s.resets = 1 → ∀ n, _ → _))
  | .PostTask _ | .SchedulerPoll | .SchedulerChoose _ | .SchedulerWake | .SendHeartbeatToAll
  | .HeartbeatReceived _ | .RemoveAnyFailed | .ClearList => instDecidableTrue

/-- The history of a running entry is the address of the process manager that it names. An
entry that was reported names none. -/
def HostsNamed (s : TaskManager) (host : Fin NUMTASKS → UInt32) : Prop :=
  ∀ n, (s.taskList n).state = .SCHEDULED →
    (s.taskList n).pmComponentID = .zero ∨ host n = (s.taskList n).pmComponentID.address

section Steps

variable {s s' : TaskManager} {host host' : Fin NUMTASKS → UInt32} {a : Action}
  {out : List TMMessage} {G : Prop}

/-- A finish report starts no task. -/
theorem taskFinished_scheduled {tasks : TaskList} {p : UInt32} {n : Fin NUMTASKS}
    (running : ((tasks.TaskFinished p).2 n).state = .SCHEDULED) :
    (tasks.TaskFinished p).2 n = tasks n := by
  cases found : tasks.entryOf p with
  | none => rw [TaskList.taskFinished_of_missing found]
  | some m =>
      by_cases normal : (tasks m).taskMode = MODE_NORMAL
      · rw [TaskList.taskFinished_of_normal found normal] at running ⊢
        by_cases here : n = m
        · subst here
          rw [TaskList.modify_self] at running
          cases running
        · exact TaskList.modify_of_ne here
      · by_cases always : (tasks m).taskMode = MODE_ALWAYS_RUNNING
        · rw [TaskList.taskFinished_of_always found always] at running ⊢
          by_cases here : n = m
          · subst here
            rw [TaskList.modify_self] at running
            cases running
          · exact TaskList.modify_of_ne here
        · rw [TaskList.taskFinished_of_invalid found normal always]

/-- A task that is posted leaves the entries in use alone. -/
theorem addTo_of_used {tasks : TaskList} {t : Task} {n : Fin NUMTASKS}
    (used : (tasks n).state ≠ .INACTIVE) : (tasks.AddTo t).2 n = tasks n := by
  cases room : tasks.firstIn .INACTIVE with
  | none => rw [TaskList.addTo_of_full room]
  | some k =>
      have ne : n ≠ k := by
        rintro rfl
        exact used (TaskList.firstIn_eq_some room)
      rw [TaskList.addTo_of_room room, TaskList.modify_of_ne ne]

/-- A task that is posted does not run yet. -/
theorem addTo_scheduled {tasks : TaskList} {t : Task} {n : Fin NUMTASKS}
    (queued : t.state ≠ .SCHEDULED) (running : ((tasks.AddTo t).2 n).state = .SCHEDULED) :
    (tasks.AddTo t).2 n = tasks n := by
  cases room : tasks.firstIn .INACTIVE with
  | none => rw [TaskList.addTo_of_full room]
  | some k =>
      rw [TaskList.addTo_of_room room] at running ⊢
      by_cases here : n = k
      · subst here
        rw [TaskList.modify_self] at running
        exact absurd running queued
      · exact TaskList.modify_of_ne here

theorem addTo_runsOn {tasks : TaskList} {t : Task} {address : UInt32} {n : Fin NUMTASKS}
    (queued : t.state ≠ .SCHEDULED) :
    TaskList.RunsOn (tasks.AddTo t).2 host address n ↔ tasks.RunsOn host address n := by
  constructor
  · rintro ⟨running, here⟩
    have kept := addTo_scheduled queued running
    exact ⟨kept ▸ running, here⟩
  · rintro ⟨running, here⟩
    have kept := addTo_of_used (t := t) (by rw [running]; exact fun h => nomatch h)
    exact ⟨(congrArg Task.state kept).trans running, here⟩

/-- The failure of a process manager starts no task, and leaves none running on it. -/
theorem pmFailure_scheduled {tasks : TaskList} {PMID : SDMComponentID} {n : Fin NUMTASKS}
    (running : ((tasks.PMFailure PMID).2 n).state = .SCHEDULED) :
    (tasks n).pmComponentID ≠ PMID ∧ (tasks.PMFailure PMID).2 n = tasks n := by
  by_cases on : (tasks n).pmComponentID = PMID
  · have queued : ((tasks.PMFailure PMID).2 n).state = .PENDING :=
      congrArg Task.state (if_pos on)
    rw [queued] at running
    cases running
  · exact ⟨on, if_neg on⟩

theorem hostOf_runningTask_of_room {msgTask : SDMTask} {n : Fin NUMTASKS}
    (room : s.taskList.firstIn .INACTIVE = some n) :
    hostOf host s (.PMRunningTask msgTask) = Function.update host n msgTask.source.address := by
  unfold hostOf
  dsimp only
  rw [room]

theorem hostOf_runningTask_of_full {msgTask : SDMTask}
    (full : s.taskList.firstIn .INACTIVE = none) :
    hostOf host s (.PMRunningTask msgTask) = host := by
  unfold hostOf
  dsimp only
  rw [full]

theorem hostOf_place {n : Fin NUMTASKS} {t : Task} {r : PmRecord}
    (phase : s.scheduler = .placing n t r) :
    hostOf host s .SchedulerPlace = Function.update host n r.component_id.address := by
  unfold hostOf
  dsimp only
  rw [phase]

theorem starts_of_place {n : Fin NUMTASKS} {t : Task} {r : PmRecord}
    (phase : s.scheduler = .placing n t r) : s.starts .SchedulerPlace = some n := by
  unfold starts
  dsimp only
  rw [phase]

theorem placed_self {n : Fin NUMTASKS} {r : PmRecord} :
    (s.placed n r).taskList n = scheduled s.NextPID.toUInt32 r (s.taskList n) :=
  TaskList.modify_self

theorem placed_of_ne {m n : Fin NUMTASKS} {r : PmRecord} (ne : m ≠ n) :
    (s.placed n r).taskList m = s.taskList m :=
  TaskList.modify_of_ne ne

/-- The entry runs before and after the step, and names the same process manager. -/
structure StillRuns (s s' : TaskManager) (a : Action) (n : Fin NUMTASKS) : Prop where
  other : s.starts a ≠ some n
  running : (s.taskList n).state = .SCHEDULED
  pmComponentID : (s'.taskList n).pmComponentID = (s.taskList n).pmComponentID

theorem StillRuns.of_eq {n : Fin NUMTASKS} (other : s.starts a ≠ some n)
    (same : s'.taskList n = s.taskList n) (running : (s'.taskList n).state = .SCHEDULED) :
    StillRuns s s' a n :=
  ⟨other, same ▸ running, congrArg Task.pmComponentID same⟩

/-- An entry that runs after a step ran before it, was reported or was placed. -/
theorem running_cases {n : Fin NUMTASKS} (coherent : s.Coherent)
    (taken : machine.step s a = some (s', out)) (running : (s'.taskList n).state = .SCHEDULED) :
    StillRuns s s' a n ∨
      (∃ msgTask, a = .PMRunningTask msgTask ∧ s.taskList.firstIn .INACTIVE = some n ∧
        (s'.taskList n).pmComponentID = .zero) ∨
      ∃ t r, a = .SchedulerPlace ∧ s.scheduler = .placing n t r ∧
        (s'.taskList n).pmComponentID = r.component_id := by
  have never : (none : Option (Fin NUMTASKS)) ≠ some n := nofun
  cases stepped coherent.records taken with
  | regPM msgReg =>
      exact .inl (.of_eq never (by rw [regPMHandler_taskList]) running)
  | postTask msgPostTask =>
      exact .inl (.of_eq never (addTo_scheduled (by exact fun h => nomatch h) running) running)
  | runningTask msgTask =>
      have tasks := pmRunningTaskHandler_taskList (s := s) msgTask
      cases room : s.taskList.firstIn .INACTIVE with
      | none =>
          rw [TaskList.addTo_of_full room] at tasks
          left
          exact .of_eq (by rw [starts, room]; exact never) (by rw [tasks]) running
      | some k =>
          rw [TaskList.addTo_of_room room] at tasks
          by_cases here : n = k
          · subst here
            right
            left
            refine ⟨msgTask, rfl, rfl, ?_⟩
            rw [tasks, TaskList.modify_self]
            rfl
          · left
            refine .of_eq ?_ (by rw [tasks, TaskList.modify_of_ne here]) running
            rw [starts, room]
            exact fun h => here (Option.some_inj.mp h).symm
  | taskFinished msgFinished =>
      exact .inl (.of_eq never (taskFinished_scheduled running) running)
  | poll uiLastSeconds => exact .inl (.of_eq never rfl running)
  | choose uiCurSeconds _ searched =>
      rw [searched.tasks.state] at running
      exact .inl ⟨never, running, searched.tasks.pmComponentID n⟩
  | wakeReset n t r => exact .inl (.of_eq never rfl running)
  | wake n t r => exact .inl (.of_eq never rfl running)
  | place k t r filename phase =>
      by_cases here : n = k
      · subst here
        right
        right
        exact ⟨t, r, rfl, phase, congrArg Task.pmComponentID placed_self⟩
      · left
        refine .of_eq ?_ (placed_of_ne here) running
        rw [starts_of_place phase]
        exact fun h => here (Option.some_inj.mp h).symm
  | sendHeartbeatToAll => exact .inl (.of_eq never rfl running)
  | heartbeatReceived source => exact .inl (.of_eq never rfl running)
  | removeAnyFailed => exact .inl (.of_eq never rfl running)
  | pmFailure PMID => exact .inl (.of_eq never (pmFailure_scheduled running).2 running)
  | clearList => cases running
  | clearAllRunningTasks resets => exact .inl (.of_eq never rfl running)

/-- The history of an entry changes when it starts to run a task. -/
theorem hostOf_of_ne {n : Fin NUMTASKS} (other : s.starts a ≠ some n) :
    hostOf host s a n = host n := by
  cases a with
  | PMRunningTask msgTask =>
      cases room : s.taskList.firstIn .INACTIVE with
      | none => rw [hostOf_runningTask_of_full room]
      | some k =>
          rw [hostOf_runningTask_of_room room]
          rw [starts, room] at other
          exact Function.update_of_ne (fun h => other (congrArg some h.symm)) _ _
  | SchedulerPlace =>
      cases phase : s.scheduler with
      | placing k t r =>
          rw [hostOf_place phase]
          rw [starts_of_place phase] at other
          exact Function.update_of_ne (fun h => other (congrArg some h.symm)) _ _
      | searching =>
          unfold hostOf
          dsimp only
          rw [phase]
      | sleeping k t r =>
          unfold hostOf
          dsimp only
          rw [phase]
  | _ => rfl

/-- Every step keeps the hosts named. -/
theorem HostsNamed.step (named : s.HostsNamed host) (coherent : s.Coherent)
    (taken : machine.step s a = some (s', out)) : s'.HostsNamed (hostOf host s a) := by
  intro n running
  rcases running_cases coherent taken running with kept | ⟨_, _, _, none⟩ | ⟨t, r, rfl, phase, on⟩
  · rw [hostOf_of_ne kept.other, kept.pmComponentID]
    exact named n kept.running
  · exact .inl none
  · right
    rw [hostOf_place phase, Function.update_self, on]

/-- A step that leaves the records alone keeps the counters right exactly when each counter
changes as its load does. -/
theorem LoadsCounted.iff_of_change (counted : s.LoadsCounted host) (s' : TaskManager)
    (host' : Fin NUMTASKS → UInt32) (same : s.pmList.SameRecords s'.pmList) :
    s'.LoadsCounted host' ↔
      ∀ i, (s.pmList.pmList i).in_use = true →
        (s'.pmList.pmList i).tasks.toInt - (s.pmList.pmList i).tasks.toInt =
          (s'.taskList.load host' (s.pmList.pmList i).component_id.address : Int) -
            s.taskList.load host (s.pmList.pmList i).component_id.address := by
  refine forall_congr' fun i => ?_
  rw [same.in_use, same.component_id]
  refine forall_congr' fun used => ?_
  rw [counted i used]
  omega

/-- The counters stay right when nothing changes in them or in the tasks that run. -/
theorem LoadsRight.of_kept (right : s.LoadsRight host) (resets : s'.resets = s.resets)
    (records : ∀ i, (s'.pmList.pmList i).in_use = true → s'.pmList.pmList i = s.pmList.pmList i)
    (loads : ∀ address n,
      s'.taskList.RunsOn host' address n ↔ s.taskList.RunsOn host address n) :
    s'.LoadsRight host' := by
  intro quiet i used
  have kept := records i used
  rw [kept] at used ⊢
  rw [TaskList.load_congr (loads _)]
  exact right (resets ▸ quiet) i used

/-- Between resets, the counters stay right under a condition on the step. -/
theorem LoadsRight.iff_of (right : s.LoadsRight host) (resets : s'.resets = s.resets)
    (quiet : s.resets = 0 → s.LoadsCounted host → (s'.LoadsCounted host' ↔ G)) :
    s'.LoadsRight host' ↔ (s.resets = 0 → G) := by
  rw [LoadsRight, resets]
  exact forall_congr' fun h => quiet h (right h)

/-- A counter that is right is small. -/
theorem LoadsCounted.bounds {i : Fin MAX_PM} (counted : s.LoadsCounted host)
    (used : (s.pmList.pmList i).in_use = true) :
    0 ≤ (s.pmList.pmList i).tasks.toInt ∧ (s.pmList.pmList i).tasks.toInt ≤ 50 := by
  have le : s.taskList.load host (s.pmList.pmList i).component_id.address ≤ 50 := TaskList.load_le
  rw [counted i used]
  omega

/-! ### The condition of each step -/

/-- The record of a process manager that registers. -/
def registered (s : TaskManager) (msgReg : SDMRegPM) : PmRecord where
  in_use := true
  tasks := s.pending_pms.GetTasks msgReg.source
  resources := ⟨msgReg.resources⟩
  component_id := { msgReg.source with port := PORT_PM }

/-- A process manager registers in a free slot, with the count that `pending_pms` has. -/
theorem regPMHandler_of_free {msgReg : SDMRegPM} {k : Fin MAX_PM}
    (absent : ¬ s.pmList.Registered msgReg.source.address) (free : s.pmList.freeSlot = some k) :
    (s.RegPMHandler msgReg).pmList.pmList =
      (s.pmList.modify k fun _ => s.registered msgReg).pmList := by
  have unknown : s.pmList.AlreadyRegistered msgReg.source = false := by
    rw [Bool.eq_false_iff]
    exact mt PMRecordList.alreadyRegistered_iff.mp absent
  unfold RegPMHandler
  rw [unknown, PMRecordList.registerPM_of_free free]
  dsimp only
  cases pending : s.pending_pms.AlreadyRegistered msgReg.source with
  | false =>
      have missing : s.pending_pms.slotOf msgReg.source = none :=
        Option.isSome_eq_false_iff.mp pending |> Option.isNone_iff_eq_none.mp
      have zero : s.pending_pms.GetTasks msgReg.source = 0 := by
        rw [PMRecordList.GetTasks, missing]
      rw [registered, zero]
      rfl
  | true =>
      funext i
      show (if PMRecordList.Holds _ msgReg.source i then _ else _) = _
      by_cases here : i = k
      · subst here
        have holds : (s.pmList.modify i fun _ =>
            { in_use := true
              tasks := 0
              resources := ⟨msgReg.resources⟩
              component_id := { msgReg.source with port := PORT_PM } }).Holds msgReg.source i
              = true := by
          rw [PMRecordList.holds_iff, PMRecordList.modify_pmList_self]
          exact ⟨rfl, rfl⟩
        rw [if_pos holds, PMRecordList.modify_pmList_self, PMRecordList.modify_pmList_self]
        rfl
      · rw [PMRecordList.modify_pmList_of_ne here, PMRecordList.modify_pmList_of_ne here, if_neg]
        rw [PMRecordList.holds_iff, PMRecordList.modify_pmList_of_ne here]
        rintro ⟨used, same⟩
        exact absent ⟨i, used, same⟩

/-- A process manager that registers twice, or finds no free slot, changes no record. -/
theorem regPMHandler_of_refused {msgReg : SDMRegPM}
    (refused : s.pmList.Registered msgReg.source.address ∨ s.pmList.freeSlot = none) :
    (s.RegPMHandler msgReg).pmList.pmList = s.pmList.pmList := by
  unfold RegPMHandler
  cases known : s.pmList.AlreadyRegistered msgReg.source with
  | true => rfl
  | false =>
      have absent : ¬ s.pmList.Registered msgReg.source.address := by
        rw [← PMRecordList.alreadyRegistered_iff, known]
        exact Bool.false_ne_true
      rw [PMRecordList.registerPM_of_full (refused.resolve_left absent)]
      dsimp only
      cases s.pending_pms.AlreadyRegistered msgReg.source with
      | false => rfl
      | true =>
          funext i
          refine if_neg ?_
          rw [PMRecordList.holds_iff]
          rintro ⟨used, same⟩
          exact absent ⟨i, used, same⟩

theorem regPMHandler_resets {msgReg : SDMRegPM} :
    (s.RegPMHandler msgReg).resets = s.resets := by
  unfold RegPMHandler
  dsimp only
  split
  · rfl
  · split <;> rfl

/-- A process manager that registers takes over the tasks that `pending_pms` knows. -/
theorem loadsRight_regPM {msgReg : SDMRegPM} (right : s.LoadsRight host) :
    (s.RegPMHandler msgReg).LoadsRight host ↔ s.LoadsKept host (.RegPM msgReg) := by
  refine right.iff_of regPMHandler_resets fun _ counted => ?_
  rw [LoadsCounted, regPMHandler_taskList]
  by_cases refused : s.pmList.Registered msgReg.source.address ∨ s.pmList.freeSlot = none
  · rw [regPMHandler_of_refused refused, ← or_assoc]
    exact ⟨fun _ => .inl refused, fun _ => counted⟩
  · obtain ⟨absent, room⟩ := not_or.mp refused
    obtain ⟨k, free⟩ := Option.ne_none_iff_exists'.mp room
    rw [regPMHandler_of_free absent free, ← or_assoc]
    constructor
    · intro all
      right
      have here := all k
      rw [PMRecordList.modify_pmList_self] at here
      exact here rfl
    · rintro (h | same) i used
      · exact absurd h refused
      · by_cases here : i = k
        · subst here
          rw [PMRecordList.modify_pmList_self]
          exact same
        · rw [PMRecordList.modify_pmList_of_ne here] at used ⊢
          exact counted i used

theorem pmRunningTaskHandler_resets {msgTask : SDMTask} :
    (s.PMRunningTaskHandler msgTask).resets = s.resets := by
  unfold PMRunningTaskHandler
  dsimp only
  split
  · rfl
  · split <;> rfl

/-- A report counts one more task for its sender, if that is registered. -/
theorem pmRunningTaskHandler_tasks {msgTask : SDMTask} {i : Fin MAX_PM} (coherent : s.Coherent)
    (used : (s.pmList.pmList i).in_use = true) (small : (s.pmList.pmList i).tasks.toInt ≤ 50) :
    ((s.PMRunningTaskHandler msgTask).pmList.pmList i).tasks.toInt =
      (s.pmList.pmList i).tasks.toInt +
        if (s.pmList.pmList i).component_id.address = msgTask.source.address then 1 else 0 := by
  by_cases known : (s.pmList.TaskHasStarted msgTask.source).1 = true
  · have next : (s.PMRunningTaskHandler msgTask).pmList =
        (s.pmList.TaskHasStarted msgTask.source).2 := by
      unfold PMRunningTaskHandler
      dsimp only
      rw [if_pos known]
    rw [next]
    exact PMRecordList.taskHasStarted_tasks coherent.records used small
  · have next : (s.PMRunningTaskHandler msgTask).pmList = s.pmList := by
      unfold PMRunningTaskHandler
      dsimp only
      rw [if_neg known]
      split <;> rfl
    have elsewhere : (s.pmList.pmList i).component_id.address ≠ msgTask.source.address := by
      intro here
      exact known (PMRecordList.taskHasStarted_fst.mpr ⟨i, used, here⟩)
    rw [next, if_neg elsewhere, Int.add_zero]

/-- A report runs in a free entry on its sender. -/
theorem pmRunningTaskHandler_load {msgTask : SDMTask} {address : UInt32} :
    (s.PMRunningTaskHandler msgTask).taskList.load (hostOf host s (.PMRunningTask msgTask)) address
      = s.taskList.load host address +
        if s.taskList.AnyInactive = true ∧ address = msgTask.source.address then 1 else 0 := by
  rw [pmRunningTaskHandler_taskList, TaskList.AnyInactive]
  cases room : s.taskList.firstIn .INACTIVE with
  | none =>
      rw [TaskList.addTo_of_full room, hostOf_runningTask_of_full room]
      rfl
  | some k =>
      rw [TaskList.addTo_of_room room, hostOf_runningTask_of_room room]
      have change := TaskList.load_change s.taskList
        (s.taskList.modify k fun _ => (reportedTask msgTask).copy) host
        (Function.update host k msgTask.source.address) address k (by
          intro m ne
          rw [TaskList.RunsOn, TaskList.RunsOn, TaskList.modify_of_ne ne, Function.update_of_ne ne])
      have idle : ¬ s.taskList.RunsOn host address k := by
        rintro ⟨running, _⟩
        rw [TaskList.firstIn_eq_some room] at running
        cases running
      have runs : TaskList.RunsOn (s.taskList.modify k fun _ => (reportedTask msgTask).copy)
          (Function.update host k msgTask.source.address) address k ↔
          address = msgTask.source.address := by
        rw [TaskList.RunsOn, TaskList.modify_self, Function.update_self]
        exact ⟨fun h => h.2.symm, fun h => ⟨rfl, h.symm⟩⟩
      rw [if_neg idle] at change
      simp only [runs] at change
      simp only [Option.isSome_some, true_and]
      exact change

/-- A report is counted exactly when there is a free entry for its task. -/
theorem loadsRight_runningTask {msgTask : SDMTask} (coherent : s.Coherent)
    (right : s.LoadsRight host) :
    (s.PMRunningTaskHandler msgTask).LoadsRight (hostOf host s (.PMRunningTask msgTask)) ↔
      s.LoadsKept host (.PMRunningTask msgTask) := by
  refine right.iff_of pmRunningTaskHandler_resets fun _ counted => ?_
  rw [counted.iff_of_change _ _ (pmRunningTaskHandler_sameRecords msgTask)]
  constructor
  · rintro all ⟨i, used, here⟩
    have balance := all i used
    rw [pmRunningTaskHandler_tasks coherent used (counted.bounds used).2, if_pos here,
      pmRunningTaskHandler_load] at balance
    by_contra full
    rw [if_neg fun h => full h.1] at balance
    omega
  · intro room i used
    rw [pmRunningTaskHandler_tasks coherent used (counted.bounds used).2,
      pmRunningTaskHandler_load]
    by_cases here : (s.pmList.pmList i).component_id.address = msgTask.source.address
    · rw [if_pos here, if_pos ⟨room ⟨i, used, here⟩, here⟩]
      omega
    · rw [if_neg here, if_neg fun h => here h.2]
      omega

/-- A finish report that ends the task of an entry. -/
theorem taskFinished_load_of_ends {p : UInt32} {n : Fin NUMTASKS}
    (host : Fin NUMTASKS → UInt32) (address : UInt32) (ends : Ends s.taskList p n) :
    (s.taskList.TaskFinished p).2.load host address + (if host n = address then 1 else 0) =
      s.taskList.load host address := by
  obtain ⟨found, running, mode⟩ := ends
  have others : ∀ m, m ≠ n → (s.taskList.TaskFinished p).2 m = s.taskList m := by
    intro m ne
    rcases mode with normal | always
    · rw [TaskList.taskFinished_of_normal found normal, TaskList.modify_of_ne ne]
    · rw [TaskList.taskFinished_of_always found always, TaskList.modify_of_ne ne]
  have ended : ((s.taskList.TaskFinished p).2 n).state ≠ .SCHEDULED := by
    rcases mode with normal | always
    · rw [TaskList.taskFinished_of_normal found normal, TaskList.modify_self]
      exact fun h => nomatch h
    · rw [TaskList.taskFinished_of_always found always, TaskList.modify_self]
      exact fun h => nomatch h
  have balance := TaskList.load_change s.taskList (s.taskList.TaskFinished p).2 host host address n
    fun m ne => by rw [TaskList.RunsOn, TaskList.RunsOn, others m ne]
  have idle : ¬ TaskList.RunsOn (s.taskList.TaskFinished p).2 host address n :=
    fun h => ended h.1
  rw [if_neg idle] at balance
  have runs : s.taskList.RunsOn host address n ↔ host n = address :=
    ⟨fun h => h.2, fun h => ⟨running, h⟩⟩
  simp only [runs] at balance
  exact balance

/-- A finish report that ends no task. -/
theorem taskFinished_load_of_not {p : UInt32} (host : Fin NUMTASKS → UInt32) (address : UInt32)
    (not : ∀ n, ¬ Ends s.taskList p n) :
    (s.taskList.TaskFinished p).2.load host address = s.taskList.load host address := by
  apply TaskList.load_congr
  intro m
  cases found : s.taskList.entryOf p with
  | none => rw [TaskList.taskFinished_of_missing found]
  | some k =>
      by_cases normal : (s.taskList k).taskMode = MODE_NORMAL
      · have idle : (s.taskList k).state ≠ .SCHEDULED := fun h => not k ⟨found, h, .inl normal⟩
        rw [TaskList.taskFinished_of_normal found normal]
        by_cases here : m = k
        · subst here
          rw [TaskList.RunsOn, TaskList.modify_self]
          exact ⟨fun h => (nomatch h.1), fun h => absurd h.1 idle⟩
        · rw [TaskList.RunsOn, TaskList.modify_of_ne here]
          exact Iff.rfl
      · by_cases always : (s.taskList k).taskMode = MODE_ALWAYS_RUNNING
        · have idle : (s.taskList k).state ≠ .SCHEDULED := fun h => not k ⟨found, h, .inr always⟩
          rw [TaskList.taskFinished_of_always found always]
          by_cases here : m = k
          · subst here
            rw [TaskList.RunsOn, TaskList.modify_self]
            exact ⟨fun h => (nomatch h.1), fun h => absurd h.1 idle⟩
          · rw [TaskList.RunsOn, TaskList.modify_of_ne here]
            exact Iff.rfl
        · rw [TaskList.taskFinished_of_invalid found normal always]

/-- The first entry with a pid is the only one that a finish report ends. -/
theorem Ends.unique {tasks : TaskList} {p : UInt32} {m n : Fin NUMTASKS} (first : Ends tasks p m)
    (second : Ends tasks p n) : m = n :=
  Option.some_inj.mp (first.1.symm.trans second.1)

/-- A finish report keeps the counters right exactly when it is counted for the process
manager whose task it ends. -/
theorem loadsRight_taskFinished {msgFinished : SDMTaskFinished} (coherent : s.Coherent)
    (right : s.LoadsRight host) :
    (s.TaskFinishedHandler msgFinished).LoadsRight host ↔
      s.LoadsKept host (.TaskFinished msgFinished) := by
  refine right.iff_of rfl fun _ counted => ?_
  rw [counted.iff_of_change (s.TaskFinishedHandler msgFinished) host
    PMRecordList.sameRecords_taskFinished]
  refine forall_congr' fun i => forall_congr' fun used => ?_
  have counter : ((s.TaskFinishedHandler msgFinished).pmList.pmList i).tasks.toInt =
      (s.pmList.pmList i).tasks.toInt -
        if (s.pmList.pmList i).component_id.address = msgFinished.source.address then 1 else 0 :=
    PMRecordList.taskFinished_tasks coherent.records used (counted.bounds used).1
  rw [counter]
  dsimp only [TaskFinishedHandler]
  by_cases any : ∃ n, Ends s.taskList msgFinished.pid.toUInt32 n
  · obtain ⟨n, ends⟩ := any
    have load := taskFinished_load_of_ends host (s.pmList.pmList i).component_id.address ends
    have only : (∃ m, Ends s.taskList msgFinished.pid.toUInt32 m ∧
        host m = (s.pmList.pmList i).component_id.address) ↔
        host n = (s.pmList.pmList i).component_id.address := by
      constructor
      · rintro ⟨m, other, here⟩
        rw [ends.unique other]
        exact here
      · exact fun here => ⟨n, ends, here⟩
    rw [only]
    by_cases hosted : host n = (s.pmList.pmList i).component_id.address
    · rw [if_pos hosted] at load
      by_cases sent : (s.pmList.pmList i).component_id.address = msgFinished.source.address
      · rw [if_pos sent]
        exact ⟨fun _ => ⟨fun _ => hosted, fun _ => sent⟩, fun _ => by omega⟩
      · rw [if_neg sent]
        exact ⟨fun h => by omega, fun h => absurd (h.mpr hosted) sent⟩
    · rw [if_neg hosted] at load
      by_cases sent : (s.pmList.pmList i).component_id.address = msgFinished.source.address
      · rw [if_pos sent]
        exact ⟨fun h => by omega, fun h => absurd (h.mp sent) hosted⟩
      · rw [if_neg sent]
        exact ⟨fun _ => ⟨fun h => absurd h sent, fun h => absurd h hosted⟩, fun _ => by omega⟩
  · have load := taskFinished_load_of_not host (s.pmList.pmList i).component_id.address
      (not_exists.mp any)
    have nowhere : ¬ ∃ m, Ends s.taskList msgFinished.pid.toUInt32 m ∧
        host m = (s.pmList.pmList i).component_id.address :=
      fun ⟨m, ends, _⟩ => any ⟨m, ends⟩
    by_cases sent : (s.pmList.pmList i).component_id.address = msgFinished.source.address
    · rw [if_pos sent]
      exact ⟨fun h => by omega, fun h => absurd (h.mp sent) nowhere⟩
    · rw [if_neg sent]
      exact ⟨fun _ => ⟨fun h => absurd h sent, fun h => absurd h nowhere⟩, fun _ => by omega⟩

/-- A placement keeps the counters right exactly when the entry runs no task that is counted
already. -/
theorem loadsRight_place {n : Fin NUMTASKS} {t : Task} {r : PmRecord} (coherent : s.Coherent)
    (right : s.LoadsRight host) (phase : s.scheduler = .placing n t r) :
    (s.placed n r).LoadsRight (hostOf host s .SchedulerPlace) ↔
      s.LoadsKept host .SchedulerPlace := by
  have only : s.LoadsKept host .SchedulerPlace ↔ (s.resets = 0 →
      ((s.taskList n).state = .SCHEDULED → ¬ s.pmList.Registered (host n))) := by
    refine forall_congr' fun _ => ?_
    constructor
    · exact fun h => h n t r phase
    · intro h n' t' r' phase'
      rw [phase] at phase'
      cases phase'
      exact h
  rw [only, hostOf_place phase]
  refine right.iff_of rfl fun _ counted => ?_
  rw [counted.iff_of_change (s.placed n r) _ PMRecordList.sameRecords_taskHasStarted]
  have balance : ∀ i, (s.pmList.pmList i).in_use = true →
      ((((s.placed n r).pmList.pmList i).tasks.toInt - (s.pmList.pmList i).tasks.toInt =
        ((s.placed n r).taskList.load (Function.update host n r.component_id.address)
          (s.pmList.pmList i).component_id.address : Int) -
          s.taskList.load host (s.pmList.pmList i).component_id.address) ↔
        ¬ s.taskList.RunsOn host (s.pmList.pmList i).component_id.address n) := by
    intro i used
    have counter : ((s.placed n r).pmList.pmList i).tasks.toInt = (s.pmList.pmList i).tasks.toInt +
        if (s.pmList.pmList i).component_id.address = r.component_id.address then 1 else 0 :=
      PMRecordList.taskHasStarted_tasks coherent.records used (counted.bounds used).2
    have load := TaskList.load_change s.taskList (s.placed n r).taskList host
      (Function.update host n r.component_id.address) (s.pmList.pmList i).component_id.address n (by
        intro m ne
        rw [TaskList.RunsOn, TaskList.RunsOn, Function.update_of_ne ne, placed_of_ne ne])
    have runs : TaskList.RunsOn (s.placed n r).taskList
        (Function.update host n r.component_id.address) (s.pmList.pmList i).component_id.address n ↔
        (s.pmList.pmList i).component_id.address = r.component_id.address := by
      rw [TaskList.RunsOn, placed_self, Function.update_self]
      exact ⟨fun h => h.2.symm, fun h => ⟨rfl, h.symm⟩⟩
    simp only [runs] at load
    have counted_there : (((if (s.pmList.pmList i).component_id.address = r.component_id.address
        then 1 else 0 : Nat)) : Int) =
        if (s.pmList.pmList i).component_id.address = r.component_id.address then 1 else 0 := by
      split <;> rfl
    rw [counter, ← counted_there]
    by_cases before : s.taskList.RunsOn host (s.pmList.pmList i).component_id.address n
    · rw [if_pos before] at load
      exact ⟨fun h => by omega, fun h => absurd before h⟩
    · rw [if_neg before] at load
      exact ⟨fun _ => before, fun _ => by omega⟩
  constructor
  · rintro all running ⟨i, used, here⟩
    exact (balance i used).mp (all i used) ⟨running, here.symm⟩
  · intro free i used
    rw [balance i used]
    rintro ⟨running, here⟩
    exact free running ⟨i, used, here.symm⟩

/-- The failure of a process manager keeps the counters right exactly when it has not
registered and got tasks again. -/
theorem loadsRight_pmFailure {PMID : SDMComponentID} (coherent : s.Coherent)
    (named : s.HostsNamed host) (right : s.LoadsRight host) (removed : s.pmHeartbeat = some PMID) :
    LoadsRight { s with taskList := (s.taskList.PMFailure PMID).2, pmHeartbeat := none } host ↔
      s.LoadsKept host .PMFailure := by
  have only : s.LoadsKept host .PMFailure ↔ (s.resets = 0 → (s.pmList.Registered PMID.address →
      ∀ n, (s.taskList n).state = .SCHEDULED → (s.taskList n).pmComponentID ≠ PMID)) := by
    refine forall_congr' fun _ => ?_
    constructor
    · exact fun h => h PMID removed
    · intro h PMID' removed'
      rw [removed] at removed'
      cases removed'
      exact h
  have hosted : ∀ n, (s.taskList n).state = .SCHEDULED → (s.taskList n).pmComponentID = PMID →
      host n = PMID.address := by
    intro n running on
    rcases named n running with none | same
    · have port := coherent.failing PMID removed
      rw [← on, none] at port
      exact absurd port (by decide)
    · rw [same, on]
  rw [only]
  refine right.iff_of rfl fun _ counted => ?_
  constructor
  · rintro after ⟨i, used, here⟩ n running on
    have same : (s.taskList.PMFailure PMID).2.load host (s.pmList.pmList i).component_id.address =
        s.taskList.load host (s.pmList.pmList i).component_id.address :=
      Int.ofNat_inj.mp ((after i used).symm.trans (counted i used))
    have mem : n ∈ Finset.univ.filter
        (s.taskList.RunsOn host (s.pmList.pmList i).component_id.address) :=
      Finset.mem_filter.mpr ⟨Finset.mem_univ n, running, (hosted n running on).trans here.symm⟩
    have fewer : (s.taskList.PMFailure PMID).2.load host (s.pmList.pmList i).component_id.address <
        s.taskList.load host (s.pmList.pmList i).component_id.address := by
      apply Finset.card_lt_card
      rw [Finset.ssubset_iff_of_subset]
      · refine ⟨n, mem, ?_⟩
        intro still
        exact (pmFailure_scheduled (Finset.mem_filter.mp still).2.1).1 on
      · intro m still
        obtain ⟨_, running', here'⟩ := Finset.mem_filter.mp still
        have kept := (pmFailure_scheduled running').2
        exact Finset.mem_filter.mpr ⟨Finset.mem_univ m, kept ▸ running', here'⟩
    omega
  · intro gone i used
    rw [counted i used]
    refine congrArg Nat.cast (TaskList.load_congr fun n => ?_).symm
    constructor
    · rintro ⟨running, here⟩
      have kept := (pmFailure_scheduled running).2
      exact ⟨kept ▸ running, here⟩
    · rintro ⟨running, here⟩
      have off : (s.taskList n).pmComponentID ≠ PMID := by
        intro on
        exact gone ⟨i, used, here.symm.trans (hosted n running on)⟩ n running on
      have kept : (s.taskList.PMFailure PMID).2 n = s.taskList n := if_neg off
      exact ⟨(congrArg Task.state kept).trans running, here⟩

/-- The end of a reset counts nothing, which is right exactly when no task has started on a
registered process manager since the list was cleared. -/
theorem loadsRight_clearAllRunningTasks {resets : Nat} (begun : s.resets = resets + 1) :
    LoadsRight { s with pmList := s.pmList.ClearAllRunningTasks, resets := resets } host ↔
      s.LoadsKept host .ClearAllRunningTasks := by
  have quiet : s.resets = 1 ↔ resets = 0 := by
    rw [begun, Nat.succ_inj]
  show (resets = 0 → _) ↔ (s.resets = 1 → _)
  rw [quiet]
  refine forall_congr' fun _ => ?_
  constructor
  · rintro after n running ⟨i, used, here⟩
    have zero : s.taskList.load host (s.pmList.pmList i).component_id.address = 0 :=
      Int.ofNat_inj.mp (after i used).symm
    exact TaskList.load_eq_zero.mp zero n ⟨running, here.symm⟩
  · intro idle i used
    have zero : s.taskList.load host (s.pmList.pmList i).component_id.address = 0 := by
      apply TaskList.load_eq_zero.mpr
      rintro n ⟨running, here⟩
      exact idle n running ⟨i, used, here.symm⟩
    exact (congrArg Nat.cast zero).symm

/-- A step out of a state with right counters keeps them right exactly when it meets the
condition. -/
theorem loadsRight_step_iff (coherent : s.Coherent) (named : s.HostsNamed host)
    (right : s.LoadsRight host) (taken : machine.step s a = some (s', out)) :
    s'.LoadsRight (hostOf host s a) ↔ s.LoadsKept host a := by
  cases stepped coherent.records taken with
  | regPM msgReg => exact loadsRight_regPM right
  | postTask msgPostTask =>
      refine iff_of_true (right.of_kept rfl (fun _ _ => rfl) fun _ _ => ?_) trivial
      exact addTo_runsOn fun h => nomatch h
  | runningTask msgTask => exact loadsRight_runningTask coherent right
  | taskFinished msgFinished => exact loadsRight_taskFinished coherent right
  | poll uiLastSeconds =>
      exact iff_of_true (right.of_kept rfl (fun _ _ => rfl) fun _ _ => Iff.rfl) trivial
  | choose uiCurSeconds _ searched =>
      refine iff_of_true (right.of_kept searched.resets (fun i _ => by rw [searched.pmList])
        fun address n => ?_) trivial
      rw [TaskList.RunsOn, searched.tasks.state]
      exact Iff.rfl
  | wakeReset n t r =>
      exact iff_of_true (right.of_kept rfl (fun _ _ => rfl) fun _ _ => Iff.rfl) trivial
  | wake n t r =>
      exact iff_of_true (right.of_kept rfl (fun _ _ => rfl) fun _ _ => Iff.rfl) trivial
  | place n t r filename phase => exact loadsRight_place coherent right phase
  | sendHeartbeatToAll =>
      exact iff_of_true (right.of_kept rfl (fun _ _ => rfl) fun _ _ => Iff.rfl) trivial
  | heartbeatReceived source =>
      exact iff_of_true (right.of_kept rfl (fun _ _ => rfl) fun _ _ => Iff.rfl) trivial
  | removeAnyFailed =>
      refine iff_of_true (right.of_kept rfl (fun i used => ?_) fun _ _ => Iff.rfl) trivial
      cases failed : s.pmList.failedSlot with
      | none => rw [PMRecordList.removeAnyFailed_of_none failed]
      | some k =>
          rw [PMRecordList.removeAnyFailed_of_failed failed] at used ⊢
          dsimp only at used ⊢
          by_cases here : i = k
          · subst here
            rw [PMRecordList.modify_pmList_self] at used
            cases used
          · exact PMRecordList.modify_pmList_of_ne here
  | pmFailure PMID removed => exact loadsRight_pmFailure coherent named right removed
  | clearList => exact iff_of_true (fun quiet => absurd quiet (Nat.succ_ne_zero _)) trivial
  | clearAllRunningTasks resets begun => exact loadsRight_clearAllRunningTasks begun

/-- **Load accounting.** In every run whose steps meet `LoadsKept`, the counter of every
registered process manager is the number of entries that run on it; and a further step keeps
it so exactly when it meets this condition too. -/
theorem loads_counted
    (run : hostedRuns.Reaches (fun q a => q.1.LoadsKept q.2 a) (start, fun _ => 0) (s, host)) :
    s.LoadsRight host ∧
      ∀ a s' out, machine.step s a = some (s', out) →
        (s'.LoadsRight (hostOf host s a) ↔ s.LoadsKept host a) := by
  have invariant : s.Coherent ∧ s.HostsNamed host ∧ s.LoadsRight host := by
    refine run.invariant
      (I := fun q => q.1.Coherent ∧ q.1.HostsNamed q.2 ∧ q.1.LoadsRight q.2) ?_ ?_
    · exact ⟨coherent_start, fun _ running => (nomatch running), fun _ _ used => nomatch used⟩
    · rintro ⟨s, host⟩ a ⟨s', host'⟩ out ⟨coherent, named, right⟩ kept recorded
      obtain ⟨taken, rfl⟩ := Machine.withGhost_step_eq_some.mp recorded
      exact ⟨coherent.step taken, named.step coherent taken,
        (loadsRight_step_iff coherent named right taken).mpr kept⟩
  exact ⟨invariant.2.2, fun _ _ _ =>
    loadsRight_step_iff invariant.1 invariant.2.1 invariant.2.2⟩

/-- A process manager that registers. -/
def arrival : SDMRegPM := ⟨⟨0, 1, PORT_PM⟩, 0⟩

/-- A finish report of task 9. -/
def strayFinish : SDMTaskFinished := ⟨⟨0, 1, PORT_PM⟩, 0, .empty, 9⟩

/-- A process manager gets a task, and reports another one, which then finishes. -/
def oneFinishes : List Action :=
  [.RegPM arrival, .PostTask ⟨0, 1, 0, MODE_NORMAL, 0, .empty⟩, .SchedulerChoose 0,
    .SchedulerPlace, .PMRunningTask ⟨⟨0, 1, PORT_PM⟩, 0, .empty, 9, 0⟩, .TaskFinished strayFinish]

/-- After `oneFinishes` the counter of the process manager is right; the same finish report once
more makes it wrong. -/
theorem loads_counted_one_finishes :
    ∃ s host, hostedRuns.execGuarded (fun q a => q.1.LoadsKept q.2 a) (start, fun _ => 0)
        oneFinishes = some (s, host) ∧
      s.LoadsCounted host ∧ s.taskList.load host 1 = 1 ∧
      ∀ s' out, machine.step s (.TaskFinished strayFinish) = some (s', out) →
        ¬ s'.LoadsRight (hostOf host s (.TaskFinished strayFinish)) := by
  have ran : ((hostedRuns.execGuarded (fun q a => q.1.LoadsKept q.2 a) (start, fun _ => 0)
      oneFinishes).map fun q => decide (q.1.resets = 0 ∧ q.1.taskList.load q.2 1 = 1 ∧
        ¬ q.1.LoadsKept q.2 (.TaskFinished strayFinish))) = some true := by
    decide +kernel
  obtain ⟨⟨s, host⟩, done, reached⟩ := Option.map_eq_some_iff.mp ran
  obtain ⟨begun, one, wrong⟩ := of_decide_eq_true reached
  obtain ⟨right, next⟩ := loads_counted (.execGuarded .start done)
  exact ⟨s, host, done, right begun, one, fun s' out taken => (next _ s' out taken).not.mpr wrong⟩

/-- A finish report of a task that is not in the list makes a counter negative. -/
theorem not_loads_counted :
    ¬ ∀ s host, hostedRuns.Reachable (start, fun _ => 0) (s, host) → s.LoadsRight host := by
  intro all
  have run : hostedRuns.Reachable (start, fun _ => 0)
      ((start.RegPMHandler arrival).TaskFinishedHandler strayFinish, fun _ => 0) :=
    .next (a := .TaskFinished strayFinish) (.next (a := .RegPM arrival) .start rfl) rfl
  have counted := all _ _ run rfl ⟨0, by decide⟩ (by decide +kernel)
  revert counted
  decide +kernel

end Steps

end TaskManager

end Sdm
