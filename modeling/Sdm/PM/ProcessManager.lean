import Sdm.Lib.Decimal
import Sdm.Lib.Machine
import Sdm.Message.TaskMessages
import Sdm.PM.PMProcessList

/-!
The threads of the Process Manager that start, watch and end tasks.

A step is what one thread does between two accesses to data that other threads change: a
`TaskHandler` thread that looks for the file of its task or ends a code transfer, a part of
`SigChldHandler` and of the `LaunchTask` that it calls, a round of `TaskHeartbeatMonitor`, a
message that the Listener takes, or the exit of a child. What the operating system answers
(whether a file is there, a pipe or a thread is made, which pid `fork` and `waitpid` return) is
part of the action.

`LaunchTask` writes the pid of its task to a small array first, and there is no step where that
goes past its end (`fitsStrPid_iff` says for which pids it does not). `kill` of the pid 0 is sent
to the process group of the Process Manager itself, which does not return from it.
-/

namespace Sdm

open Sdm.Lib

/-- A task of the queue. -/
structure PendingTask where
  strName : CString
  ulSdmPid : UInt32
deriving DecidableEq

/-- A child that was not yet reaped, the task that it was forked for, and its status once it has
exited. -/
structure PMChild where
  OsPid : Nat
  SdmPid : UInt32
  status : Option Int32
deriving DecidableEq

/-- The messages that the Process Manager sends about its tasks. -/
inductive PMMessage
  | SDMTaskFinished (msgFinished : SDMTaskFinished)
  | SDMTaskError (msgError : SDMTaskError)
  | SDMCancelxTEDS (source : SDMComponentID) (fullCancel : Bool)
  /-- To the Process Manager itself. -/
  | SDMTask (msgTask : SDMTask)
deriving DecidableEq

/-- What a step shows: messages, signals (with the entry that `Kill` is called for), children. -/
inductive PMEvent
  | sent (msg : PMMessage)
  | kill (SdmPid : UInt32) (OsPid : Nat)
  | launched (SdmPid : UInt32) (OsPid : Nat)
deriving DecidableEq

/-- A thread of `TaskHandler`: before it looks for the file, and in a code transfer. -/
inductive TaskThread
  | started (msgTask : SDMTask)
  | transferring (msgTask : SDMTask)
deriving DecidableEq

def TaskThread.pid : TaskThread → UInt32
  | .started msgTask => msgTask.pid.toUInt32
  | .transferring msgTask => msgTask.pid.toUInt32

/-- Where the thread that runs `SigChldHandler` is. -/
inductive SignalThread
  /-- Before the task queue is looked at. -/
  | idle
  /-- In `LaunchTask`, with a task from the queue. -/
  | launching (launchTask : PendingTask)
  /-- The task is in the list, before `fork`. -/
  | added (launchTask : PendingTask) (iTaskIndex : Nat)
  /-- After a `fork` that failed. -/
  | forkFailed (iTaskIndex : Nat)
  /-- The child runs, before `UpdateOsPid`. -/
  | forked (launchTask : PendingTask) (AppPid : Nat)
  /-- Before `waitpid`. -/
  | waiting
  /-- `waitpid` returned a child, before the list is locked. -/
  | reaped (iPid : Nat) (iStatus : Int32)
deriving DecidableEq

/-- The task that `LaunchTask` has put in the list. -/
def SignalThread.starting : SignalThread → Option UInt32
  | .added launchTask _ => some launchTask.ulSdmPid
  | .forked launchTask _ => some launchTask.ulSdmPid
  | _ => none

/-- The tasks of the Process Manager. `handlers` are the threads of `TaskHandler`, `restarts` the
tasks that the Process Manager has sent to itself. -/
structure ProcessManager where
  handlers : List TaskThread
  taskQueue : List PendingTask
  runningTaskList : PMProcessList
  restarts : List SDMTask
  signal : SignalThread
  children : List PMChild
  alive : Bool

namespace ProcessManager

def start : ProcessManager := ⟨[], [], ⟨[]⟩, [], .idle, [], true⟩

/-- The identifier of a Process Manager at the address. -/
def pmID (Address_PM : UInt32) : SDMComponentID := ⟨0, Address_PM, PORT_PM⟩

/-- `SDMTaskFinished` for a task. -/
def finishedMessage (Address_PM : UInt32) (filename : CString) (result pid : Int32) : PMEvent :=
  .sent (.SDMTaskFinished ⟨pmID Address_PM, result, filename, pid⟩)

/-- `SDMCancelxTEDS` for a task. -/
def cancelMessage (Address_PM SdmPid : UInt32) (fullCancel : Bool) : PMEvent :=
  .sent (.SDMCancelxTEDS { pmID Address_PM with sensorID := SdmPid } fullCancel)

/-! ### TaskHandler -/

/-- Put the task of the thread into the queue; the thread ends. -/
def queueTask (s : ProcessManager) (i : Nat) (msgTask : SDMTask) : ProcessManager :=
  { s with
    handlers := s.handlers.eraseIdx i
    taskQueue := s.taskQueue ++ [⟨msgTask.filename, msgTask.pid.toUInt32⟩] }

/-- `TaskHandler` until it has queued the task, or waits for its code. -/
def TaskHandler (s : ProcessManager) (i : Nat) (IsFileAvailable piped : Bool)
    (msgTask : SDMTask) : ProcessManager :=
  if IsFileAvailable then s.queueTask i msgTask
  else if piped then { s with handlers := s.handlers.set i (.transferring msgTask) }
  -- Error calling pipe().
  else { s with handlers := s.handlers.eraseIdx i }

/-- `TaskHandler` when `GetCode` returns. -/
def codeReceived (Address_PM : UInt32) (s : ProcessManager) (i : Nat) (bSuccess : Bool)
    (msgTask : SDMTask) : ProcessManager × List PMEvent :=
  if bSuccess then (s.queueTask i msgTask, [])
  else
    ({ s with handlers := s.handlers.eraseIdx i },
      [finishedMessage Address_PM msgTask.filename (-1) msgTask.pid])

/-! ### SigChldHandler -/

/-- The rest of `SigChldHandler` for a child that has exited. -/
def collect (Address_PM : UInt32) (s : ProcessManager) (iPid : Nat) (iStatus : Int32) :
    Option (ProcessManager × List PMEvent) :=
  match s.runningTaskList.GetIndexOfOsPid iPid with
  | none => some ({ s with signal := .idle }, [])
  | some TaskIndex =>
      match s.runningTaskList.m_ProcessList[TaskIndex]? with
      | none => none
      | some e =>
          -- Not a normal finish: restart the task, reusing the same SDM pid.
          if e.bFailedState then
            let msgTask : SDMTask := ⟨.zero, 0, e.strFilename, e.uiSdmPid.toInt32, 0⟩
            some ({ s with
              runningTaskList := s.runningTaskList.modify TaskIndex PMProcess.Reset
              restarts := s.restarts ++ [msgTask]
              signal := .idle }, [.sent (.SDMTask msgTask)])
          -- The modes of the Task Manager do not matter: it is not in both of two modes.
          else
            (s.runningTaskList.Remove TaskIndex).map fun l =>
              ({ s with runningTaskList := l, signal := .idle },
                [finishedMessage Address_PM e.strFilename iStatus e.uiSdmPid.toInt32,
                  cancelMessage Address_PM e.uiSdmPid false])

/-! ### LaunchTask -/

/-- `sprintf` of the pid with `%ld` stays inside `strPid`, which has eight bytes. -/
def FitsStrPid (lSdmPid : UInt32) : Prop := (decimal lSdmPid.toInt32.toInt).length < 8

instance : DecidablePred FitsStrPid := fun _ => Nat.decLt _ _

/-- A pid fits when it has seven digits at most, or six and a sign. -/
theorem fitsStrPid_iff {lSdmPid : UInt32} :
    FitsStrPid lSdmPid ↔
      -1000000 < lSdmPid.toInt32.toInt ∧ lSdmPid.toInt32.toInt < 10000000 := by
  rw [FitsStrPid]
  by_cases neg : lSdmPid.toInt32.toInt < 0
  · have exact := length_decimal_le_iff (i := lSdmPid.toInt32.toInt) (k := 6) (by decide)
    rw [if_pos neg] at exact
    omega
  · have exact := length_decimal_le_iff (i := lSdmPid.toInt32.toInt) (k := 7) (by decide)
    rw [if_neg neg] at exact
    omega

/-! ### TaskHeartbeatMonitor -/

/-- The monitor finds the process unresponsive, and it has not failed already. -/
def Due (uiCurSeconds : UInt32) (e : PMProcess) : Bool :=
  (e.IsUnresponsive uiCurSeconds).1 && !e.bFailedState

/-- The entries that a round finds due, in order, when no signal stops it; a round that removes an
entry skips the next one. -/
def dueEntries (uiCurSeconds : UInt32) : Bool → List PMProcess → List PMProcess
  | _, [] => []
  | true, _ :: rest => dueEntries uiCurSeconds false rest
  | false, e :: rest =>
      if Due uiCurSeconds e then
        e :: dueEntries uiCurSeconds (decide (MAX_TASK_FAILURES ≤ e.uiTotalFailCount)) rest
      else dueEntries uiCurSeconds false rest

/-- A round over the list: whether the Process Manager survives it, the list after it, and what
was sent. The removal of an entry moves the next one to its index, so that the round skips it. -/
def monitorRound (Address_PM uiCurSeconds : UInt32) :
    Bool → List PMProcess → Bool × List PMProcess × List PMEvent
  | _, [] => (true, [], [])
  | true, e :: rest =>
      let r := monitorRound Address_PM uiCurSeconds false rest
      (r.1, e :: r.2.1, r.2.2)
  | false, e :: rest =>
      let e' := (e.IsUnresponsive uiCurSeconds).2
      if Due uiCurSeconds e then
        if e.OsPid = 0 then (false, e' :: rest, [.kill e.uiSdmPid 0])
        else if MAX_TASK_FAILURES ≤ e.uiTotalFailCount then
          let r := monitorRound Address_PM uiCurSeconds true rest
          (r.1, r.2.1, .kill e.uiSdmPid e.OsPid :: r.2.2)
        else
          let r := monitorRound Address_PM uiCurSeconds false rest
          (r.1, e'.Failure :: r.2.1, .kill e.uiSdmPid e.OsPid :: .sent (.SDMTaskError
            ⟨{ pmID Address_PM with sensorID := e.uiSdmPid }, e.uiSdmPid⟩) :: r.2.2)
      else
        let r := monitorRound Address_PM uiCurSeconds false rest
        (r.1, e' :: r.2.1, r.2.2)

def TaskHeartbeatMonitor (Address_PM : UInt32) (s : ProcessManager) (uiCurSeconds : UInt32) :
    ProcessManager × List PMEvent :=
  let r := monitorRound Address_PM uiCurSeconds false s.runningTaskList.m_ProcessList
  ({ s with alive := r.1, runningTaskList := ⟨r.2.1⟩ }, r.2.2)

/-! ### KillHandler -/

def KillHandler (Address_PM : UInt32) (s : ProcessManager) (msgKill : SDMKill) :
    Option (ProcessManager × List PMEvent) :=
  match s.runningTaskList.GetIndexOfSdmPid msgKill.PID with
  -- Could not find the task to kill.
  | none => some (s, [])
  | some TaskIndex =>
      match s.runningTaskList.m_ProcessList[TaskIndex]? with
      | none => none
      | some e =>
          if e.OsPid = 0 then some ({ s with alive := false }, [.kill e.uiSdmPid 0])
          else if msgKill.killLevel = 1 then
            (s.runningTaskList.Remove TaskIndex).map fun l =>
              ({ s with runningTaskList := l },
                [.kill e.uiSdmPid e.OsPid,
                  finishedMessage Address_PM e.strFilename 0 e.uiSdmPid.toInt32,
                  cancelMessage Address_PM e.uiSdmPid true])
          else some (s, [.kill e.uiSdmPid e.OsPid])

/-! ### The machine -/

inductive PMAction
  /-- A task of the Task Manager arrives; whether its thread is created. -/
  | RecvTask (msgTask : SDMTask) (spawned : Bool)
  /-- A task that the Process Manager sent to itself arrives. -/
  | RecvRestart (i : Nat) (spawned : Bool)
  | TaskHandler (i : Nat) (IsFileAvailable piped : Bool)
  | CodeReceived (i : Nat) (bSuccess : Bool)
  | Dequeue
  | LaunchTask (IsFileAvailable : Bool)
  | Fork (AppPid : Option Nat)
  | RemoveUnforked
  | UpdateOsPid
  | WaitPid (iPid : Option Nat)
  | Collect
  | Monitor (uiCurSeconds : UInt32)
  | Heartbeat (SdmPid uiCurSeconds : UInt32)
  | Kill (msgKill : SDMKill)
  | ChildExits (OsPid : Nat) (status : Int32)
deriving DecidableEq

/-- One step of a Process Manager that is alive. -/
def act (Address_PM : UInt32) (s : ProcessManager) :
    PMAction → Option (ProcessManager × List PMEvent)
  | .RecvTask msgTask spawned =>
      some (if spawned then { s with handlers := s.handlers ++ [.started msgTask] } else s, [])
  | .RecvRestart i spawned =>
      match s.restarts[i]? with
      | none => none
      | some msgTask =>
          let s : ProcessManager := { s with restarts := s.restarts.eraseIdx i }
          some (if spawned then { s with handlers := s.handlers ++ [.started msgTask] } else s, [])
  | .TaskHandler i IsFileAvailable piped =>
      match s.handlers[i]? with
      | some (.started msgTask) => some (s.TaskHandler i IsFileAvailable piped msgTask, [])
      | _ => none
  | .CodeReceived i bSuccess =>
      match s.handlers[i]? with
      | some (.transferring msgTask) => some (s.codeReceived Address_PM i bSuccess msgTask)
      | _ => none
  | .Dequeue =>
      match s.signal, s.taskQueue with
      | .idle, [] => some ({ s with signal := .waiting }, [])
      | .idle, launchTask :: rest =>
          some ({ s with taskQueue := rest, signal := .launching launchTask }, [])
      | _, _ => none
  | .LaunchTask IsFileAvailable =>
      match s.signal with
      | .launching launchTask =>
          if ¬ FitsStrPid launchTask.ulSdmPid then none
          else if IsFileAvailable then
            let r := s.runningTaskList.Add launchTask.strName launchTask.ulSdmPid
            some ({ s with runningTaskList := r.1, signal := .added launchTask r.2 }, [])
          -- Fatal error (LaunchTask): File does not exist.
          else some ({ s with signal := .waiting }, [])
      | _ => none
  | .Fork AppPid =>
      match s.signal, AppPid with
      | .added _ iTaskIndex, none => some ({ s with signal := .forkFailed iTaskIndex }, [])
      | .added launchTask _, some pid =>
          if pid = 0 ∨ pid ∈ s.children.map PMChild.OsPid then none
          else
            some ({ s with
              signal := .forked launchTask pid
              children := s.children ++ [⟨pid, launchTask.ulSdmPid, none⟩] },
              [.launched launchTask.ulSdmPid pid])
      | _, _ => none
  | .RemoveUnforked =>
      match s.signal with
      | .forkFailed iTaskIndex =>
          (s.runningTaskList.Remove iTaskIndex).map fun l =>
            ({ s with runningTaskList := l, signal := .waiting }, [])
      | _ => none
  | .UpdateOsPid =>
      match s.signal with
      | .forked launchTask AppPid =>
          some ({ s with
            runningTaskList := s.runningTaskList.UpdateOsPid launchTask.ulSdmPid AppPid
            signal := .waiting }, [])
      | _ => none
  | .WaitPid iPid =>
      match s.signal, iPid with
      | .waiting, none =>
          if s.children.all fun c => c.status.isNone then some ({ s with signal := .idle }, [])
          else none
      | .waiting, some pid =>
          match s.children.find? fun c => c.OsPid == pid with
          | some ⟨_, _, some iStatus⟩ =>
              some ({ s with
                children := s.children.filter fun c => c.OsPid != pid
                signal := .reaped pid iStatus }, [])
          | _ => none
      | _, _ => none
  | .Collect =>
      match s.signal with
      | .reaped iPid iStatus => s.collect Address_PM iPid iStatus
      | _ => none
  | .Monitor uiCurSeconds => some (s.TaskHeartbeatMonitor Address_PM uiCurSeconds)
  | .Heartbeat SdmPid uiCurSeconds =>
      some ({ s with
        runningTaskList := s.runningTaskList.HeartbeatReceived SdmPid uiCurSeconds }, [])
  | .Kill msgKill => s.KillHandler Address_PM msgKill
  | .ChildExits OsPid status =>
      if (⟨OsPid, none⟩ : Nat × Option Int32) ∈ s.children.map fun c => (c.OsPid, c.status) then
        some ({ s with
          children := s.children.map fun c =>
            if c.OsPid = OsPid then { c with status := some status } else c }, [])
      else none

/-- The Process Manager at the address. -/
def machine (Address_PM : UInt32) : Machine ProcessManager PMAction (List PMEvent) where
  step s a := if s.alive then s.act Address_PM a else none

/-- A step that was taken: what it needs, what it leaves and what it shows. -/
inductive Acted (Address_PM : UInt32) (s : ProcessManager) :
    PMAction → ProcessManager → List PMEvent → Prop where
  | spawn (msgTask : SDMTask) :
      Acted Address_PM s (.RecvTask msgTask true)
        { s with handlers := s.handlers ++ [.started msgTask] } []
  | refuse (msgTask : SDMTask) : Acted Address_PM s (.RecvTask msgTask false) s []
  | spawnRestart (i : Nat) (msgTask : SDMTask) : s.restarts[i]? = some msgTask →
      Acted Address_PM s (.RecvRestart i true)
        { s with
          restarts := s.restarts.eraseIdx i
          handlers := s.handlers ++ [.started msgTask] } []
  | refuseRestart (i : Nat) (msgTask : SDMTask) : s.restarts[i]? = some msgTask →
      Acted Address_PM s (.RecvRestart i false) { s with restarts := s.restarts.eraseIdx i } []
  | queueFile (i : Nat) (msgTask : SDMTask) (piped : Bool) :
      s.handlers[i]? = some (.started msgTask) →
      Acted Address_PM s (.TaskHandler i true piped) (s.queueTask i msgTask) []
  | transfer (i : Nat) (msgTask : SDMTask) : s.handlers[i]? = some (.started msgTask) →
      Acted Address_PM s (.TaskHandler i false true)
        { s with handlers := s.handlers.set i (.transferring msgTask) } []
  | noPipe (i : Nat) (msgTask : SDMTask) : s.handlers[i]? = some (.started msgTask) →
      Acted Address_PM s (.TaskHandler i false false)
        { s with handlers := s.handlers.eraseIdx i } []
  | queueCode (i : Nat) (msgTask : SDMTask) : s.handlers[i]? = some (.transferring msgTask) →
      Acted Address_PM s (.CodeReceived i true) (s.queueTask i msgTask) []
  | giveUp (i : Nat) (msgTask : SDMTask) : s.handlers[i]? = some (.transferring msgTask) →
      Acted Address_PM s (.CodeReceived i false) { s with handlers := s.handlers.eraseIdx i }
        [finishedMessage Address_PM msgTask.filename (-1) msgTask.pid]
  | rest : s.signal = .idle → s.taskQueue = [] →
      Acted Address_PM s .Dequeue { s with signal := .waiting } []
  | dequeue (launchTask : PendingTask) (rest : List PendingTask) : s.signal = .idle →
      s.taskQueue = launchTask :: rest →
      Acted Address_PM s .Dequeue
        { s with taskQueue := rest, signal := .launching launchTask } []
  | launch (launchTask : PendingTask) : s.signal = .launching launchTask →
      FitsStrPid launchTask.ulSdmPid →
      Acted Address_PM s (.LaunchTask true)
        { s with
          runningTaskList := (s.runningTaskList.Add launchTask.strName launchTask.ulSdmPid).1
          signal := .added launchTask
            (s.runningTaskList.Add launchTask.strName launchTask.ulSdmPid).2 } []
  | noFile (launchTask : PendingTask) : s.signal = .launching launchTask →
      FitsStrPid launchTask.ulSdmPid →
      Acted Address_PM s (.LaunchTask false) { s with signal := .waiting } []
  | forkFailed (launchTask : PendingTask) (iTaskIndex : Nat) :
      s.signal = .added launchTask iTaskIndex →
      Acted Address_PM s (.Fork none) { s with signal := .forkFailed iTaskIndex } []
  | fork (launchTask : PendingTask) (iTaskIndex pid : Nat) :
      s.signal = .added launchTask iTaskIndex → pid ≠ 0 →
      pid ∉ s.children.map PMChild.OsPid →
      Acted Address_PM s (.Fork (some pid))
        { s with
          signal := .forked launchTask pid
          children := s.children ++ [⟨pid, launchTask.ulSdmPid, none⟩] }
        [.launched launchTask.ulSdmPid pid]
  | removeUnforked (iTaskIndex : Nat) (l : PMProcessList) : s.signal = .forkFailed iTaskIndex →
      s.runningTaskList.Remove iTaskIndex = some l →
      Acted Address_PM s .RemoveUnforked { s with runningTaskList := l, signal := .waiting } []
  | updateOsPid (launchTask : PendingTask) (AppPid : Nat) :
      s.signal = .forked launchTask AppPid →
      Acted Address_PM s .UpdateOsPid
        { s with
          runningTaskList := s.runningTaskList.UpdateOsPid launchTask.ulSdmPid AppPid
          signal := .waiting } []
  | noneExited : s.signal = .waiting → (∀ c ∈ s.children, c.status = none) →
      Acted Address_PM s (.WaitPid none) { s with signal := .idle } []
  | reap (c : PMChild) (iStatus : Int32) : s.signal = .waiting → c ∈ s.children →
      c.status = some iStatus →
      Acted Address_PM s (.WaitPid (some c.OsPid))
        { s with
          children := s.children.filter fun c' => c'.OsPid != c.OsPid
          signal := .reaped c.OsPid iStatus } []
  | collectUnknown (iPid : Nat) (iStatus : Int32) : s.signal = .reaped iPid iStatus →
      s.runningTaskList.GetIndexOfOsPid iPid = none →
      Acted Address_PM s .Collect { s with signal := .idle } []
  | restart (i : Nat) (e : PMProcess) (iStatus : Int32) : s.signal = .reaped e.OsPid iStatus →
      s.runningTaskList.m_ProcessList[i]? = some e → e.bFailedState = true →
      Acted Address_PM s .Collect
        { s with
          runningTaskList := s.runningTaskList.modify i PMProcess.Reset
          restarts := s.restarts ++ [⟨.zero, 0, e.strFilename, e.uiSdmPid.toInt32, 0⟩]
          signal := .idle }
        [.sent (.SDMTask ⟨.zero, 0, e.strFilename, e.uiSdmPid.toInt32, 0⟩)]
  | finish (i : Nat) (e : PMProcess) (iStatus : Int32) (l : PMProcessList) :
      s.signal = .reaped e.OsPid iStatus → s.runningTaskList.m_ProcessList[i]? = some e →
      e.bFailedState = false → s.runningTaskList.Remove i = some l →
      Acted Address_PM s .Collect { s with runningTaskList := l, signal := .idle }
        [finishedMessage Address_PM e.strFilename iStatus e.uiSdmPid.toInt32,
          cancelMessage Address_PM e.uiSdmPid false]
  | monitor (uiCurSeconds : UInt32) :
      Acted Address_PM s (.Monitor uiCurSeconds)
        (s.TaskHeartbeatMonitor Address_PM uiCurSeconds).1
        (s.TaskHeartbeatMonitor Address_PM uiCurSeconds).2
  | heartbeat (SdmPid uiCurSeconds : UInt32) :
      Acted Address_PM s (.Heartbeat SdmPid uiCurSeconds)
        { s with
          runningTaskList := s.runningTaskList.HeartbeatReceived SdmPid uiCurSeconds } []
  | killUnknown (msgKill : SDMKill) :
      s.runningTaskList.GetIndexOfSdmPid msgKill.PID = none →
      Acted Address_PM s (.Kill msgKill) s []
  | killGroup (msgKill : SDMKill) (i : Nat) (e : PMProcess) :
      s.runningTaskList.GetIndexOfSdmPid msgKill.PID = some i →
      s.runningTaskList.m_ProcessList[i]? = some e → e.OsPid = 0 →
      Acted Address_PM s (.Kill msgKill) { s with alive := false } [.kill e.uiSdmPid 0]
  | killRemoved (msgKill : SDMKill) (i : Nat) (e : PMProcess) (l : PMProcessList) :
      s.runningTaskList.GetIndexOfSdmPid msgKill.PID = some i →
      s.runningTaskList.m_ProcessList[i]? = some e → e.OsPid ≠ 0 → msgKill.killLevel = 1 →
      s.runningTaskList.Remove i = some l →
      Acted Address_PM s (.Kill msgKill) { s with runningTaskList := l }
        [.kill e.uiSdmPid e.OsPid, finishedMessage Address_PM e.strFilename 0 e.uiSdmPid.toInt32,
          cancelMessage Address_PM e.uiSdmPid true]
  | kill (msgKill : SDMKill) (i : Nat) (e : PMProcess) :
      s.runningTaskList.GetIndexOfSdmPid msgKill.PID = some i →
      s.runningTaskList.m_ProcessList[i]? = some e → e.OsPid ≠ 0 → msgKill.killLevel ≠ 1 →
      Acted Address_PM s (.Kill msgKill) s [.kill e.uiSdmPid e.OsPid]
  | childExits (OsPid : Nat) (status : Int32) :
      Acted Address_PM s (.ChildExits OsPid status)
        { s with
          children := s.children.map fun c =>
            if c.OsPid = OsPid then { c with status := some status } else c } []

section Inversion

variable {s s' : ProcessManager} {a : PMAction} {out : List PMEvent} {Address_PM : UInt32}

theorem acted_collect {iPid : Nat} {iStatus : Int32} (signal : s.signal = .reaped iPid iStatus)
    (taken : s.collect Address_PM iPid iStatus = some (s', out)) :
    Acted Address_PM s .Collect s' out := by
  unfold collect at taken
  cases found : s.runningTaskList.GetIndexOfOsPid iPid with
  | none =>
      rw [found] at taken
      cases taken
      exact .collectUnknown iPid iStatus signal found
  | some TaskIndex =>
      obtain ⟨e, at_i, -, rfl⟩ := PMProcessList.exists_entry_of_osPid found
      rw [found] at taken
      dsimp only at taken
      rw [at_i] at taken
      dsimp only at taken
      split at taken
      · rename_i failed
        cases taken
        exact .restart TaskIndex e iStatus signal at_i failed
      · rename_i normal
        obtain ⟨l, removed, same⟩ := Option.map_eq_some_iff.mp taken
        cases same
        exact .finish TaskIndex e iStatus l signal at_i (Bool.eq_false_iff.mpr normal) removed

theorem acted_kill {msgKill : SDMKill}
    (taken : s.KillHandler Address_PM msgKill = some (s', out)) :
    Acted Address_PM s (.Kill msgKill) s' out := by
  unfold KillHandler at taken
  cases found : s.runningTaskList.GetIndexOfSdmPid msgKill.PID with
  | none =>
      rw [found] at taken
      cases taken
      exact .killUnknown msgKill found
  | some TaskIndex =>
      obtain ⟨e, at_i, -, -⟩ := PMProcessList.exists_entry_of_sdmPid found
      rw [found] at taken
      dsimp only at taken
      rw [at_i] at taken
      dsimp only at taken
      split at taken
      · rename_i zero
        cases taken
        exact .killGroup msgKill TaskIndex e found at_i zero
      · rename_i nonzero
        split at taken
        · rename_i level
          obtain ⟨l, removed, same⟩ := Option.map_eq_some_iff.mp taken
          cases same
          exact .killRemoved msgKill TaskIndex e l found at_i nonzero level removed
        · rename_i level
          cases taken
          exact .kill msgKill TaskIndex e found at_i nonzero level

theorem acted_waitPid {iPid : Option Nat}
    (taken : s.act Address_PM (.WaitPid iPid) = some (s', out)) :
    Acted Address_PM s (.WaitPid iPid) s' out := by
  simp only [act] at taken
  split at taken
  · rename_i signal
    split at taken
    · rename_i none
      cases taken
      refine .noneExited signal fun c mem => ?_
      exact Option.isNone_iff_eq_none.mp (List.all_eq_true.mp none c mem)
    · cases taken
  · rename_i pid signal
    split at taken
    · rename_i OsPid SdmPid iStatus found
      cases taken
      have hit := List.find?_some found
      cases beq_iff_eq.mp hit
      exact .reap _ iStatus signal (List.mem_of_find?_eq_some found) rfl
    · cases taken
  · cases taken

/-- Every step is one of these. -/
theorem acted (taken : s.act Address_PM a = some (s', out)) : Acted Address_PM s a s' out := by
  cases a with
  | RecvTask msgTask spawned =>
      cases taken
      cases spawned with
      | true => exact .spawn msgTask
      | false => exact .refuse msgTask
  | RecvRestart i spawned =>
      simp only [act] at taken
      split at taken
      · cases taken
      · rename_i msgTask found
        cases taken
        cases spawned with
        | true => exact .spawnRestart i msgTask found
        | false => exact .refuseRestart i msgTask found
  | TaskHandler i IsFileAvailable piped =>
      simp only [act] at taken
      split at taken
      · rename_i msgTask found
        cases taken
        cases IsFileAvailable with
        | true => exact .queueFile i msgTask piped found
        | false =>
            cases piped with
            | true => exact .transfer i msgTask found
            | false => exact .noPipe i msgTask found
      · cases taken
  | CodeReceived i bSuccess =>
      simp only [act] at taken
      split at taken
      · rename_i msgTask found
        cases bSuccess with
        | true =>
            cases taken
            exact .queueCode i msgTask found
        | false =>
            cases taken
            exact .giveUp i msgTask found
      · cases taken
  | Dequeue =>
      simp only [act] at taken
      split at taken
      · rename_i signal queue
        cases taken
        exact .rest signal queue
      · rename_i launchTask rest signal queue
        cases taken
        exact .dequeue launchTask rest signal queue
      · cases taken
  | LaunchTask IsFileAvailable =>
      simp only [act] at taken
      split at taken
      · rename_i launchTask signal
        by_cases fits : FitsStrPid launchTask.ulSdmPid
        · rw [if_neg (not_not.mpr fits)] at taken
          cases IsFileAvailable with
          | true =>
              cases taken
              exact .launch launchTask signal fits
          | false =>
              cases taken
              exact .noFile launchTask signal fits
        · rw [if_pos fits] at taken
          cases taken
      · cases taken
  | Fork AppPid =>
      simp only [act] at taken
      split at taken
      · rename_i launchTask iTaskIndex signal
        cases taken
        exact .forkFailed launchTask iTaskIndex signal
      · rename_i launchTask iTaskIndex pid signal
        split at taken
        · cases taken
        · rename_i fresh
          cases taken
          obtain ⟨nonzero, fresh⟩ := not_or.mp fresh
          exact .fork launchTask iTaskIndex pid signal nonzero fresh
      · cases taken
  | RemoveUnforked =>
      simp only [act] at taken
      split at taken
      · rename_i iTaskIndex signal
        obtain ⟨l, removed, same⟩ := Option.map_eq_some_iff.mp taken
        cases same
        exact .removeUnforked iTaskIndex l signal removed
      · cases taken
  | UpdateOsPid =>
      simp only [act] at taken
      split at taken
      · rename_i launchTask AppPid signal
        cases taken
        exact .updateOsPid launchTask AppPid signal
      · cases taken
  | WaitPid iPid => exact acted_waitPid taken
  | Collect =>
      simp only [act] at taken
      split at taken
      · rename_i iPid iStatus signal
        exact acted_collect signal taken
      · cases taken
  | Monitor uiCurSeconds =>
      cases taken
      exact .monitor uiCurSeconds
  | Heartbeat SdmPid uiCurSeconds =>
      cases taken
      exact .heartbeat SdmPid uiCurSeconds
  | Kill msgKill => exact acted_kill taken
  | ChildExits OsPid status =>
      simp only [act] at taken
      split at taken
      · cases taken
        exact .childExits OsPid status
      · cases taken

end Inversion

section Events

variable {s s' : ProcessManager} {a : PMAction} {out : List PMEvent} {event : PMEvent}
  {Address_PM : UInt32}

/-- A round of the monitor sends signals and task errors only. -/
theorem mem_monitorRound {uiCurSeconds : UInt32} {skip : Bool} {l : List PMProcess}
    {event : PMEvent} (mem : event ∈ (monitorRound Address_PM uiCurSeconds skip l).2.2) :
    (∃ SdmPid OsPid, event = .kill SdmPid OsPid) ∨
      ∃ msgError, event = .sent (.SDMTaskError msgError) := by
  induction l generalizing skip with
  | nil => cases skip <;> cases mem
  | cons e rest ih =>
      cases skip with
      | true => exact ih mem
      | false =>
          unfold monitorRound at mem
          dsimp only at mem
          split at mem
          · split at mem
            · exact .inl ⟨_, _, List.mem_singleton.mp mem⟩
            · split at mem
              · rcases List.mem_cons.mp mem with first | later
                · exact .inl ⟨_, _, first⟩
                · exact ih later
              · rcases List.mem_cons.mp mem with first | later
                · exact .inl ⟨_, _, first⟩
                · rcases List.mem_cons.mp later with second | later
                  · exact .inr ⟨_, second⟩
                  · exact ih later
          · exact ih mem

/-- What a step can show: a launch of the task that `LaunchTask` has put in the list, a message, or
a signal of `KillHandler` or the monitor. -/
theorem event_cases (taken : s.act Address_PM a = some (s', out)) (mem : event ∈ out) :
    (∃ SdmPid OsPid, event = .launched SdmPid OsPid ∧ s.signal.starting = some SdmPid) ∨
      (∃ msg, event = .sent msg) ∨
      ∃ SdmPid OsPid, event = .kill SdmPid OsPid ∧
        ((∃ msgKill, a = .Kill msgKill) ∨ ∃ uiCurSeconds, a = .Monitor uiCurSeconds) := by
  cases acted taken with
  | fork launchTask iTaskIndex pid signal =>
      refine .inl ⟨_, _, List.mem_singleton.mp mem, ?_⟩
      rw [signal]
      rfl
  | giveUp i msgTask => exact .inr (.inl ⟨_, List.mem_singleton.mp mem⟩)
  | restart i e iStatus => exact .inr (.inl ⟨_, List.mem_singleton.mp mem⟩)
  | finish i e iStatus l =>
      rcases List.mem_cons.mp mem with first | later
      · exact .inr (.inl ⟨_, first⟩)
      · exact .inr (.inl ⟨_, List.mem_singleton.mp later⟩)
  | monitor uiCurSeconds =>
      rcases mem_monitorRound mem with ⟨SdmPid, OsPid, same⟩ | ⟨msgError, same⟩
      · exact .inr (.inr ⟨SdmPid, OsPid, same, .inr ⟨uiCurSeconds, rfl⟩⟩)
      · exact .inr (.inl ⟨_, same⟩)
  | killGroup msgKill => exact .inr (.inr ⟨_, _, List.mem_singleton.mp mem, .inl ⟨msgKill, rfl⟩⟩)
  | kill msgKill => exact .inr (.inr ⟨_, _, List.mem_singleton.mp mem, .inl ⟨msgKill, rfl⟩⟩)
  | killRemoved msgKill =>
      rcases List.mem_cons.mp mem with first | later
      · exact .inr (.inr ⟨_, _, first, .inl ⟨msgKill, rfl⟩⟩)
      · rcases List.mem_cons.mp later with second | third
        · exact .inr (.inl ⟨_, second⟩)
        · exact .inr (.inl ⟨_, List.mem_singleton.mp third⟩)
  -- The other steps show nothing.
  | _ => cases mem

end Events

end ProcessManager

end Sdm
