import Sdm.Lib.Machine
import Sdm.TM.PMRecordList
import Sdm.TM.TaskList

/-!
The Task Manager: its handlers, its `Scheduler` and its `PMHeartbeat` thread over the task
list and the two lists of process managers.

A handler of the `Listener` is one step. The `Scheduler` chooses a task and a process
manager under `list_mutex`; when the task has a timeout it gives the mutex up and sleeps
before it takes it again, and only then does it place the task. `PMHeartbeat` removes a
failed process manager first and fails its tasks later, under `list_mutex`. A reset clears
the task list first and the counters later.

A step that needs `list_mutex` waits while the `Scheduler` holds it. Notifications to
subscribers are left out.
-/

namespace Sdm

open Sdm.Lib

/-- `MAX_JOBS`: the largest load that the `Scheduler` tries. -/
def MAX_JOBS : Nat := 50

/-- `PREFERRED_SCHEDULE_TIMEOUT`, in seconds. -/
def PREFERRED_SCHEDULE_TIMEOUT : UInt32 := 60

/-- Where the `Scheduler` is: looking for a task, asleep for one that it found, or about to
place one, with `list_mutex` held. -/
inductive SchedulerPhase where
  | searching
  | sleeping (TaskIndex : Fin NUMTASKS) (TaskData : Task) (PMData : PmRecord)
  | placing (TaskIndex : Fin NUMTASKS) (TaskData : Task) (PMData : PmRecord)

/-- What the Task Manager sends. -/
inductive TMMessage where
  | SDMTask (destination : SDMComponentID) (msgTask : SDMTask)
  | SDMTaskError (msgError : SDMTaskError)

/-- The Task Manager. `pmHeartbeat` is the process manager that `PMHeartbeat` has removed
and whose tasks it is about to fail, `resets` counts the resets that have cleared the task
list and not yet the counters. -/
structure TaskManager where
  taskList : TaskList
  pmList : PMRecordList
  pending_pms : PMRecordList
  NextPID : Int32
  g_bSchedulerReset : Bool
  uiLastSeconds : UInt32
  scheduler : SchedulerPhase
  pmHeartbeat : Option SDMComponentID
  resets : Nat

namespace PMRecordList

/-- The loop of the `Scheduler` over the loads that it allows. -/
def findAnyEligible (TaskResources : SDMTaskResources) :
    Nat → Nat → PMRecordList → Option PmRecord × PMRecordList
  | 0, _, l => (none, l)
  | jobs + 1, j, l =>
      match l.FindEligiblePM j TaskResources with
      | (some PMData, l') => (some PMData, l')
      | (none, l') => findAnyEligible TaskResources jobs (j + 1) l'

end PMRecordList

namespace TaskManager

/-- The state at the start of the program. -/
def start : TaskManager where
  taskList := .ClearList
  pmList := .new
  pending_pms := .new
  NextPID := 1
  g_bSchedulerReset := false
  uiLastSeconds := 0
  scheduler := .searching
  pmHeartbeat := none
  resets := 0

/-! ### Handlers of the Listener -/

/-- `RegPMHandler`. -/
def RegPMHandler (s : TaskManager) (msgReg : SDMRegPM) : TaskManager :=
  if s.pmList.AlreadyRegistered msgReg.source then s
  else
    let pmList := (s.pmList.RegisterPM msgReg.source ⟨msgReg.resources⟩).2
    if s.pending_pms.AlreadyRegistered msgReg.source then
      { s with pmList := pmList.SetTasks msgReg.source (s.pending_pms.GetTasks msgReg.source) }
    else { s with pmList := pmList }

/-- `PostTask`. -/
def PostTask (s : TaskManager) (msgPostTask : SDMPostTask) : TaskManager :=
  { s with taskList := (s.taskList.AddTo
      { pmComponentID := .zero
        state := .PENDING
        priority := msgPostTask.priority
        pid := 0
        resources := ⟨msgPostTask.resources⟩
        filename := some msgPostTask.filename
        timeout := msgPostTask.sched_interval
        taskMode := msgPostTask.mode
        taskVersion := msgPostTask.version }).2 }

/-- The task that `PMRunningTaskHandler` adds for a report. -/
def reportedTask (msgTask : SDMTask) : Task where
  pmComponentID := .zero
  state := .SCHEDULED
  priority := msgTask.priority
  pid := msgTask.pid.toUInt32
  resources := .zero
  filename := some msgTask.filename
  timeout := 0
  taskMode := MODE_NORMAL
  taskVersion := 0

/-- `PMRunningTaskHandler`. -/
def PMRunningTaskHandler (s : TaskManager) (msgTask : SDMTask) : TaskManager :=
  let NextPID := if msgTask.pid ≥ s.NextPID then msgTask.pid + 1 else s.NextPID
  let taskList := (s.taskList.AddTo (reportedTask msgTask)).2
  if (s.pmList.TaskHasStarted msgTask.source).1 then
    { s with
      NextPID := NextPID
      taskList := taskList
      pmList := (s.pmList.TaskHasStarted msgTask.source).2 }
  else if s.pending_pms.AlreadyRegistered msgTask.source then
    { s with
      NextPID := NextPID
      taskList := taskList
      pending_pms := (s.pending_pms.TaskHasStarted msgTask.source).2 }
  else
    { s with
      NextPID := NextPID
      taskList := taskList
      pending_pms :=
        ((s.pending_pms.RegisterPM msgTask.source .zero).2.TaskHasStarted msgTask.source).2 }

/-- `TaskFinishedHandler`: the counter goes down before the task is looked up. -/
def TaskFinishedHandler (s : TaskManager) (msgFinished : SDMTaskFinished) : TaskManager :=
  { s with
    pmList := (s.pmList.TaskFinished msgFinished.source).2
    taskList := (s.taskList.TaskFinished msgFinished.pid.toUInt32).2 }

/-! ### Scheduler -/

/-- A task and a process manager are found. -/
def chosen (s : TaskManager) (TaskIndex : Fin NUMTASKS) (TaskData : Task) (PMData : PmRecord) :
    TaskManager :=
  { s with scheduler :=
      if TaskData.timeout ≠ 0 then .sleeping TaskIndex TaskData PMData
      else .placing TaskIndex TaskData PMData }

/-- The preferred process manager is not there. -/
def waitForPreferred (s : TaskManager) (TaskData : Task) (uiCurSeconds : UInt32) : TaskManager :=
  if s.uiLastSeconds = 0 then { s with uiLastSeconds := uiCurSeconds }
  else if uiCurSeconds - s.uiLastSeconds > PREFERRED_SCHEDULE_TIMEOUT then
    { s with taskList := s.taskList.RemovePreferredPmId TaskData.resources }
  else s

/-- The search of the `Scheduler` for a queued task and a process manager to run it. -/
def choose (s : TaskManager) (uiCurSeconds : UInt32) : TaskManager :=
  match s.taskList.FindPendingTask with
  | none => s
  | some (TaskIndex, TaskData) =>
      if s.pmList.IsEmpty then s
      else if TaskData.resources.IsPreferredPmIdSet then
        match s.pmList.FindPMID TaskData.resources with
        | some PMData => s.chosen TaskIndex TaskData PMData
        | none => s.waitForPreferred TaskData uiCurSeconds
      else
        match PMRecordList.findAnyEligible TaskData.resources MAX_JOBS 0 s.pmList with
        | (some PMData, pmList) => { s with pmList := pmList }.chosen TaskIndex TaskData PMData
        | (none, pmList) => { s with pmList := pmList }

/-- The end of the sleep: a reset sends the `Scheduler` back to its search. -/
def wake (s : TaskManager) (TaskIndex : Fin NUMTASKS) (TaskData : Task) (PMData : PmRecord) :
    TaskManager :=
  if s.g_bSchedulerReset then { s with g_bSchedulerReset := false, scheduler := .searching }
  else { s with scheduler := .placing TaskIndex TaskData PMData }

/-- What the `Scheduler` writes into the entry of the task. -/
def scheduled (pid : UInt32) (PMData : PmRecord) (t : Task) : Task :=
  { t with pid := pid, state := .SCHEDULED, timeout := 0, pmComponentID := PMData.component_id }

/-- The placement of a task. The entry at the index is whatever is there by then. -/
def placed (s : TaskManager) (TaskIndex : Fin NUMTASKS) (PMData : PmRecord) : TaskManager :=
  { s with
    NextPID := s.NextPID + 1
    pmList := (s.pmList.TaskHasStarted PMData.component_id).2
    taskList := s.taskList.modify TaskIndex (scheduled s.NextPID.toUInt32 PMData)
    scheduler := .searching
    uiLastSeconds := 0 }

/-- `SendTask`. -/
def SendTask (filename : CString) (TaskData : Task) (pid : Int32) : SDMTask where
  source := .zero
  priority := TaskData.priority
  filename := filename
  pid := pid
  version := TaskData.taskVersion

/-! ### The search -/

/-- What the search of the `Scheduler` may change. -/
structure Searched (s s' : TaskManager) : Prop where
  tasks : s.taskList.SameEntries s'.taskList
  pmList : s'.pmList.pmList = s.pmList.pmList
  pending_pms : s'.pending_pms = s.pending_pms
  NextPID : s'.NextPID = s.NextPID
  pmHeartbeat : s'.pmHeartbeat = s.pmHeartbeat
  resets : s'.resets = s.resets
  scheduler : s'.scheduler = s.scheduler ∨
    ∃ n t i, (s.pmList.pmList i).in_use = true ∧
      s'.scheduler = if t.timeout ≠ 0 then .sleeping n t (s.pmList.pmList i)
        else .placing n t (s.pmList.pmList i)

section Search

variable {s s' : TaskManager} {l : PMRecordList} {TaskResources : SDMTaskResources}

theorem findAnyEligible_pmList {jobs j : Nat} :
    (PMRecordList.findAnyEligible TaskResources jobs j l).2.pmList = l.pmList := by
  induction jobs generalizing j l with
  | zero => rfl
  | succ jobs ih =>
      rw [PMRecordList.findAnyEligible]
      have kept : (l.FindEligiblePM j TaskResources).2.pmList = l.pmList :=
        PMRecordList.findEligiblePM_pmList
      split
      · rename_i PMData l' found
        rw [found] at kept
        exact kept
      · rename_i l' found
        rw [found] at kept
        rw [ih, kept]

theorem findAnyEligible_eq_some {jobs j : Nat} {PMData : PmRecord}
    (found : (PMRecordList.findAnyEligible TaskResources jobs j l).1 = some PMData) :
    ∃ i, (l.pmList i).in_use = true ∧ l.pmList i = PMData := by
  induction jobs generalizing j l with
  | zero => cases found
  | succ jobs ih =>
      rw [PMRecordList.findAnyEligible] at found
      split at found
      · rename_i PMData' l' here
        cases found
        exact PMRecordList.findEligiblePM_eq_some (by rw [here])
      · rename_i l' here
        have kept : (l.FindEligiblePM j TaskResources).2.pmList = l.pmList :=
          PMRecordList.findEligiblePM_pmList
        rw [here] at kept
        have later := ih found
        rwa [kept] at later

theorem Searched.refl (s : TaskManager) : Searched s s :=
  ⟨.refl _, rfl, rfl, rfl, rfl, rfl, .inl rfl⟩

theorem searched_waitForPreferred {TaskData : Task} {uiCurSeconds : UInt32} :
    Searched s (s.waitForPreferred TaskData uiCurSeconds) := by
  rw [waitForPreferred]
  split
  · exact ⟨.refl _, rfl, rfl, rfl, rfl, rfl, .inl rfl⟩
  · split
    · exact ⟨TaskList.sameEntries_removePreferredPmId, rfl, rfl, rfl, rfl, rfl, .inl rfl⟩
    · exact .refl s

/-- The search changes nothing but what the `Scheduler` is doing and preferred node ids. -/
theorem searched_choose (formed : s.pmList.WellFormed) (uiCurSeconds : UInt32) :
    Searched s (s.choose uiCurSeconds) := by
  unfold choose
  cases s.taskList.FindPendingTask with
  | none => exact .refl s
  | some found =>
      obtain ⟨TaskIndex, TaskData⟩ := found
      dsimp only
      split
      · exact .refl s
      · split
        · cases here : s.pmList.FindPMID TaskData.resources with
          | none => exact searched_waitForPreferred
          | some PMData =>
              obtain ⟨i, used, rfl⟩ := PMRecordList.findPMID_eq_some formed here
              exact ⟨.refl _, rfl, rfl, rfl, rfl, rfl, .inr ⟨TaskIndex, TaskData, i, used, rfl⟩⟩
        · have kept : (PMRecordList.findAnyEligible TaskData.resources MAX_JOBS 0 s.pmList).2.pmList
              = s.pmList.pmList := findAnyEligible_pmList
          have registered : ∀ PMData,
              (PMRecordList.findAnyEligible TaskData.resources MAX_JOBS 0 s.pmList).1 =
                some PMData →
              ∃ i, (s.pmList.pmList i).in_use = true ∧ s.pmList.pmList i = PMData :=
            fun _ => findAnyEligible_eq_some
          generalize PMRecordList.findAnyEligible TaskData.resources MAX_JOBS 0 s.pmList = result
            at kept registered ⊢
          obtain ⟨found, pmList⟩ := result
          cases found with
          | none => exact ⟨.refl _, kept, rfl, rfl, rfl, rfl, .inl rfl⟩
          | some PMData =>
              obtain ⟨i, used, rfl⟩ := registered PMData rfl
              exact ⟨.refl _, kept, rfl, rfl, rfl, rfl, .inr ⟨TaskIndex, TaskData, i, used, rfl⟩⟩

end Search

/-! ### Steps -/

/-- What the threads of the Task Manager do. -/
inductive Action where
  | RegPM (msgReg : SDMRegPM)
  | PostTask (msgPostTask : SDMPostTask)
  | PMRunningTask (msgTask : SDMTask)
  | TaskFinished (msgFinished : SDMTaskFinished)
  | SchedulerPoll
  | SchedulerChoose (uiCurSeconds : UInt32)
  | SchedulerWake
  | SchedulerPlace
  | SendHeartbeatToAll
  | HeartbeatReceived (source : SDMComponentID)
  | RemoveAnyFailed
  | PMFailure
  | ClearList
  | ClearAllRunningTasks

/-- `list_mutex` is free. -/
def listFree (s : TaskManager) : Bool :=
  match s.scheduler with
  | .placing _ _ _ => false
  | _ => true

/-- A step of a thread that takes `list_mutex`. -/
def locked (s : TaskManager) (next : TaskManager) : Option (TaskManager × List TMMessage) :=
  if s.listFree then some (next, []) else none

/-- One step. There is none while the thread waits, and none after an index into an entry
that is not in use, which throws. -/
def step (s : TaskManager) : Action → Option (TaskManager × List TMMessage)
  | .RegPM msgReg => some (s.RegPMHandler msgReg, [])
  | .PostTask msgPostTask => s.locked (s.PostTask msgPostTask)
  | .PMRunningTask msgTask => s.locked (s.PMRunningTaskHandler msgTask)
  | .TaskFinished msgFinished => s.locked (s.TaskFinishedHandler msgFinished)
  | .SchedulerPoll =>
      match s.scheduler with
      | .searching => some (if s.taskList.AnyPending then s else { s with uiLastSeconds := 0 }, [])
      | _ => none
  | .SchedulerChoose uiCurSeconds =>
      match s.scheduler with
      | .searching => some (s.choose uiCurSeconds, [])
      | _ => none
  | .SchedulerWake =>
      match s.scheduler with
      | .sleeping TaskIndex TaskData PMData => some (s.wake TaskIndex TaskData PMData, [])
      | _ => none
  | .SchedulerPlace =>
      match s.scheduler with
      | .placing TaskIndex TaskData PMData =>
          if (s.taskList TaskIndex).state = .INACTIVE then none
          else TaskData.filename.map fun filename => (s.placed TaskIndex PMData,
            [.SDMTask PMData.component_id (SendTask filename TaskData s.NextPID)])
      | _ => none
  | .SendHeartbeatToAll =>
      if s.pmHeartbeat.isNone then some ({ s with pmList := s.pmList.SendHeartbeatToAll.2 }, [])
      else none
  | .HeartbeatReceived source =>
      if s.pmHeartbeat.isNone then some ({ s with pmList := s.pmList.HeartbeatReceived source }, [])
      else none
  | .RemoveAnyFailed =>
      if s.pmHeartbeat.isNone then
        some ({ s with
          pmList := s.pmList.RemoveAnyFailed.2
          pmHeartbeat := s.pmList.RemoveAnyFailed.1.map PmRecord.component_id }, [])
      else none
  | .PMFailure =>
      match s.pmHeartbeat with
      | none => none
      | some PMID =>
          if s.listFree then
            some ({ s with taskList := (s.taskList.PMFailure PMID).2, pmHeartbeat := none },
              (s.taskList.PMFailure PMID).1.map .SDMTaskError)
          else none
  | .ClearList =>
      s.locked { s with
        taskList := .ClearList
        g_bSchedulerReset := true
        resets := s.resets + 1 }
  | .ClearAllRunningTasks =>
      match s.resets with
      | 0 => none
      | resets + 1 =>
          some ({ s with pmList := s.pmList.ClearAllRunningTasks, resets := resets }, [])

/-- The machine of the Task Manager. -/
def machine : Machine TaskManager Action (List TMMessage) := ⟨step⟩

/-! ### What a step does -/

/-- The steps that there are, with what the search of the `Scheduler` may change in place of
its result. -/
inductive Stepped (s : TaskManager) : Action → TaskManager → List TMMessage → Prop where
  | regPM (msgReg : SDMRegPM) : Stepped s (.RegPM msgReg) (s.RegPMHandler msgReg) []
  | postTask (msgPostTask : SDMPostTask) : s.listFree = true →
      Stepped s (.PostTask msgPostTask) (s.PostTask msgPostTask) []
  | runningTask (msgTask : SDMTask) : s.listFree = true →
      Stepped s (.PMRunningTask msgTask) (s.PMRunningTaskHandler msgTask) []
  | taskFinished (msgFinished : SDMTaskFinished) : s.listFree = true →
      Stepped s (.TaskFinished msgFinished) (s.TaskFinishedHandler msgFinished) []
  | poll (uiLastSeconds : UInt32) : s.scheduler = .searching →
      Stepped s .SchedulerPoll { s with uiLastSeconds := uiLastSeconds } []
  | choose {s' : TaskManager} (uiCurSeconds : UInt32) : s.scheduler = .searching →
      Searched s s' → Stepped s (.SchedulerChoose uiCurSeconds) s' []
  | wakeReset (n : Fin NUMTASKS) (t : Task) (r : PmRecord) : s.scheduler = .sleeping n t r →
      Stepped s .SchedulerWake { s with g_bSchedulerReset := false, scheduler := .searching } []
  | wake (n : Fin NUMTASKS) (t : Task) (r : PmRecord) : s.scheduler = .sleeping n t r →
      Stepped s .SchedulerWake { s with scheduler := .placing n t r } []
  | place (n : Fin NUMTASKS) (t : Task) (r : PmRecord) (filename : CString) :
      s.scheduler = .placing n t r → (s.taskList n).state ≠ .INACTIVE →
      Stepped s .SchedulerPlace (s.placed n r)
        [.SDMTask r.component_id (SendTask filename t s.NextPID)]
  | sendHeartbeatToAll : s.pmHeartbeat = none →
      Stepped s .SendHeartbeatToAll { s with pmList := s.pmList.SendHeartbeatToAll.2 } []
  | heartbeatReceived (source : SDMComponentID) : s.pmHeartbeat = none →
      Stepped s (.HeartbeatReceived source)
        { s with pmList := s.pmList.HeartbeatReceived source } []
  | removeAnyFailed : s.pmHeartbeat = none →
      Stepped s .RemoveAnyFailed
        { s with
          pmList := s.pmList.RemoveAnyFailed.2
          pmHeartbeat := s.pmList.RemoveAnyFailed.1.map PmRecord.component_id } []
  | pmFailure (PMID : SDMComponentID) : s.pmHeartbeat = some PMID → s.listFree = true →
      Stepped s .PMFailure { s with taskList := (s.taskList.PMFailure PMID).2, pmHeartbeat := none }
        ((s.taskList.PMFailure PMID).1.map .SDMTaskError)
  | clearList : s.listFree = true →
      Stepped s .ClearList
        { s with
          taskList := TaskList.ClearList
          g_bSchedulerReset := true
          resets := s.resets + 1 } []
  | clearAllRunningTasks (resets : Nat) : s.resets = resets + 1 →
      Stepped s .ClearAllRunningTasks
        { s with pmList := s.pmList.ClearAllRunningTasks, resets := resets } []

section Inversion

variable {s s' : TaskManager} {a : Action} {out : List TMMessage}

/-- A step under `list_mutex` that was taken. -/
theorem locked_eq_some {next : TaskManager} (taken : s.locked next = some (s', out)) :
    s.listFree = true ∧ s' = next ∧ out = [] := by
  rw [locked] at taken
  split at taken
  · cases taken
    exact ⟨‹_›, rfl, rfl⟩
  · cases taken

/-- Every step is one of these. -/
theorem stepped (formed : s.pmList.WellFormed) (taken : machine.step s a = some (s', out)) :
    Stepped s a s' out := by
  have step : s.step a = some (s', out) := taken
  cases a with
  | RegPM msgReg =>
      cases step
      exact .regPM msgReg
  | PostTask msgPostTask =>
      obtain ⟨free, rfl, rfl⟩ := locked_eq_some step
      exact .postTask msgPostTask free
  | PMRunningTask msgTask =>
      obtain ⟨free, rfl, rfl⟩ := locked_eq_some step
      exact .runningTask msgTask free
  | TaskFinished msgFinished =>
      obtain ⟨free, rfl, rfl⟩ := locked_eq_some step
      exact .taskFinished msgFinished free
  | SchedulerPoll =>
      unfold TaskManager.step at step
      cases phase : s.scheduler with
      | searching =>
          rw [phase] at step
          cases step
          rw [← phase]
          split
          · exact .poll s.uiLastSeconds phase
          · exact .poll 0 phase
      | sleeping n t r =>
          rw [phase] at step
          cases step
      | placing n t r =>
          rw [phase] at step
          cases step
  | SchedulerChoose uiCurSeconds =>
      unfold TaskManager.step at step
      cases phase : s.scheduler with
      | searching =>
          rw [phase] at step
          cases step
          exact .choose uiCurSeconds phase (searched_choose formed uiCurSeconds)
      | sleeping n t r =>
          rw [phase] at step
          cases step
      | placing n t r =>
          rw [phase] at step
          cases step
  | SchedulerWake =>
      unfold TaskManager.step at step
      cases phase : s.scheduler with
      | searching =>
          rw [phase] at step
          cases step
      | sleeping n t r =>
          rw [phase] at step
          cases step
          unfold TaskManager.wake
          split
          · exact .wakeReset n t r phase
          · exact .wake n t r phase
      | placing n t r =>
          rw [phase] at step
          cases step
  | SchedulerPlace =>
      unfold TaskManager.step at step
      cases phase : s.scheduler with
      | searching =>
          rw [phase] at step
          cases step
      | sleeping n t r =>
          rw [phase] at step
          cases step
      | placing n t r =>
          rw [phase] at step
          dsimp only at step
          split at step
          · cases step
          · obtain ⟨filename, _, next⟩ := Option.map_eq_some_iff.mp step
            cases next
            exact .place n t r filename phase ‹_›
  | SendHeartbeatToAll =>
      unfold TaskManager.step at step
      dsimp only at step
      split at step
      · cases step
        exact .sendHeartbeatToAll (Option.isNone_iff_eq_none.mp ‹_›)
      · cases step
  | HeartbeatReceived source =>
      unfold TaskManager.step at step
      dsimp only at step
      split at step
      · cases step
        exact .heartbeatReceived source (Option.isNone_iff_eq_none.mp ‹_›)
      · cases step
  | RemoveAnyFailed =>
      unfold TaskManager.step at step
      dsimp only at step
      split at step
      · cases step
        exact .removeAnyFailed (Option.isNone_iff_eq_none.mp ‹_›)
      · cases step
  | PMFailure =>
      unfold TaskManager.step at step
      cases removed : s.pmHeartbeat with
      | none =>
          rw [removed] at step
          cases step
      | some PMID =>
          rw [removed] at step
          dsimp only at step
          split at step
          · cases step
            exact .pmFailure PMID removed ‹_›
          · cases step
  | ClearList =>
      obtain ⟨free, rfl, rfl⟩ := locked_eq_some step
      exact .clearList free
  | ClearAllRunningTasks =>
      unfold TaskManager.step at step
      cases begun : s.resets with
      | zero =>
          rw [begun] at step
          cases step
      | succ resets =>
          rw [begun] at step
          cases step
          exact .clearAllRunningTasks resets begun

end Inversion

/-! ### What holds in every state -/

/-- The entries are regular, and the process managers are registered one an address. -/
structure Coherent (s : TaskManager) : Prop where
  records : s.pmList.WellFormed
  tasks : s.taskList.Regular
  failing : ∀ PMID, s.pmHeartbeat = some PMID → PMID.port = PORT_PM

section Coherence

variable {s s' : TaskManager} {a : Action} {out : List TMMessage}

theorem coherent_start : start.Coherent where
  records := PMRecordList.wellFormed_new
  tasks := TaskList.regular_clearList
  failing _ h := nomatch h

/-- A registration keeps the list of process managers well formed. -/
theorem regPMHandler_wellFormed (formed : s.pmList.WellFormed) (msgReg : SDMRegPM) :
    (s.RegPMHandler msgReg).pmList.WellFormed := by
  unfold RegPMHandler
  split
  · exact formed
  · rename_i absent
    have next : (s.pmList.RegisterPM msgReg.source ⟨msgReg.resources⟩).2.WellFormed :=
      formed.registerPM (mt PMRecordList.alreadyRegistered_iff.mpr absent)
    dsimp only
    split
    · exact PMRecordList.sameRecords_setTasks.wellFormed next
    · exact next

theorem regPMHandler_taskList (msgReg : SDMRegPM) :
    (s.RegPMHandler msgReg).taskList = s.taskList := by
  unfold RegPMHandler
  dsimp only
  split
  · rfl
  · split <;> rfl

theorem regPMHandler_NextPID (msgReg : SDMRegPM) :
    (s.RegPMHandler msgReg).NextPID = s.NextPID := by
  unfold RegPMHandler
  dsimp only
  split
  · rfl
  · split <;> rfl

theorem regPMHandler_pmHeartbeat (msgReg : SDMRegPM) :
    (s.RegPMHandler msgReg).pmHeartbeat = s.pmHeartbeat := by
  unfold RegPMHandler
  dsimp only
  split
  · rfl
  · split <;> rfl

/-- A report of a running task changes no record. -/
theorem pmRunningTaskHandler_sameRecords (msgTask : SDMTask) :
    s.pmList.SameRecords (s.PMRunningTaskHandler msgTask).pmList := by
  unfold PMRunningTaskHandler
  dsimp only
  split
  · exact PMRecordList.sameRecords_taskHasStarted
  · split
    · exact .refl _
    · exact .refl _

theorem pmRunningTaskHandler_taskList (msgTask : SDMTask) :
    (s.PMRunningTaskHandler msgTask).taskList = (s.taskList.AddTo (reportedTask msgTask)).2 := by
  unfold PMRunningTaskHandler
  dsimp only
  split
  · rfl
  · split <;> rfl

theorem pmRunningTaskHandler_pmHeartbeat (msgTask : SDMTask) :
    (s.PMRunningTaskHandler msgTask).pmHeartbeat = s.pmHeartbeat := by
  unfold PMRunningTaskHandler
  dsimp only
  split
  · rfl
  · split <;> rfl

theorem pmRunningTaskHandler_NextPID (msgTask : SDMTask) :
    (s.PMRunningTaskHandler msgTask).NextPID =
      if msgTask.pid ≥ s.NextPID then msgTask.pid + 1 else s.NextPID := by
  unfold PMRunningTaskHandler
  dsimp only
  split
  · rfl
  · split <;> rfl

/-- Every step keeps the state coherent. -/
theorem Coherent.step (coherent : s.Coherent) (taken : machine.step s a = some (s', out)) :
    s'.Coherent := by
  obtain ⟨records, tasks, failing⟩ := coherent
  cases stepped records taken with
  | regPM msgReg =>
      refine ⟨regPMHandler_wellFormed records msgReg, ?_, ?_⟩
      · rw [regPMHandler_taskList]
        exact tasks
      · rw [regPMHandler_pmHeartbeat]
        exact failing
  | postTask msgPostTask => exact ⟨records, tasks.addTo (.inl rfl), failing⟩
  | runningTask msgTask =>
      refine ⟨(pmRunningTaskHandler_sameRecords msgTask).wellFormed records, ?_, ?_⟩
      · rw [pmRunningTaskHandler_taskList]
        exact tasks.addTo (.inr rfl)
      · rw [pmRunningTaskHandler_pmHeartbeat]
        exact failing
  | taskFinished msgFinished =>
      exact ⟨PMRecordList.sameRecords_taskFinished.wellFormed records,
        tasks.taskFinished _, failing⟩
  | poll uiLastSeconds => exact ⟨records, tasks, failing⟩
  | choose uiCurSeconds _ searched =>
      refine ⟨(PMRecordList.sameRecords_of_eq searched.pmList).wellFormed records,
        tasks.sameEntries searched.tasks, ?_⟩
      rw [searched.pmHeartbeat]
      exact failing
  | wakeReset n t r => exact ⟨records, tasks, failing⟩
  | wake n t r => exact ⟨records, tasks, failing⟩
  | place n t r filename =>
      exact ⟨PMRecordList.sameRecords_taskHasStarted.wellFormed records,
        tasks.modify (.inr (.inr rfl)), failing⟩
  | sendHeartbeatToAll =>
      exact ⟨PMRecordList.sameRecords_sendHeartbeatToAll.wellFormed records, tasks, failing⟩
  | heartbeatReceived source =>
      exact ⟨PMRecordList.sameRecords_heartbeatReceived.wellFormed records, tasks, failing⟩
  | removeAnyFailed =>
      refine ⟨records.removeAnyFailed, tasks, ?_⟩
      intro PMID removed
      obtain ⟨r, gone, rfl⟩ := Option.map_eq_some_iff.mp removed
      obtain ⟨i, used, rfl⟩ := PMRecordList.removeAnyFailed_eq_some gone
      exact records.port i used
  | pmFailure PMID => exact ⟨records, tasks.pmFailure, fun _ h => nomatch h⟩
  | clearList => exact ⟨records, TaskList.regular_clearList, failing⟩
  | clearAllRunningTasks resets =>
      exact ⟨PMRecordList.sameRecords_clearAllRunningTasks.wellFormed records, tasks, failing⟩

/-- Every state of a run is coherent, whatever the guard. -/
theorem coherent_of_reaches {ok : TaskManager → Action → Prop}
    (run : machine.Reaches ok start s) : s.Coherent :=
  run.invariant coherent_start fun _ _ _ _ coherent _ taken => coherent.step taken

end Coherence

end TaskManager

end Sdm
