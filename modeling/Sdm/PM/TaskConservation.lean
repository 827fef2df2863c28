import Sdm.Lib.Custody
import Sdm.PM.ProcessManager

/-!
Task conservation: where a task of the Task Manager is until its end is reported.

A task waits in a `TaskHandler` thread, in the queue, in `LaunchTask` or in the message with
which the Process Manager starts it again, and it runs in the list. These are the tokens and the
entries of a custody; the steps of the threads that neither lose nor report a task at a wrong
time are steps of it.

* `custody_step`: a step under the condition is a step of the custody, or does not touch it.
* `tasks_conserved`: every task that arrived is held and not reported, or not held and reported
  once, in every run whose steps meet the condition; its pid has room where `LaunchTask` writes it;
  and no task is launched after its report.
-/

namespace Sdm

open Sdm.Lib

/-- The pids that arrived from the Task Manager, and the pids of the `SDMTaskFinished` that were
sent. -/
structure PMHistory where
  received : List UInt32
  finished : List UInt32

/-- The pids of the `SDMTaskFinished` of a step. -/
def finishedPids (out : List PMEvent) : List UInt32 :=
  out.filterMap fun event =>
    match event with
    | .sent (.SDMTaskFinished msgFinished) => some msgFinished.pid.toUInt32
    | _ => none

def PMHistory.record (h : PMHistory) (_ : ProcessManager) (a : ProcessManager.PMAction)
    (out : List PMEvent) : PMHistory where
  received :=
    match a with
    | .RecvTask msgTask _ => h.received ++ [msgTask.pid.toUInt32]
    | _ => h.received
  finished := h.finished ++ finishedPids out

/-- The task in the hands of `LaunchTask`, before it is in the list. -/
def SignalThread.token : SignalThread → UInt32 → Nat
  | .launching launchTask, p => if launchTask.ulSdmPid = p then 1 else 0
  | _, _ => 0

/-- The entries, with whether they have an operating system pid. -/
def PMProcessList.entries (l : PMProcessList) : List (UInt32 × Bool) :=
  l.m_ProcessList.map fun e => (e.uiSdmPid, decide (e.OsPid ≠ 0))

namespace ProcessManager

/-- Runs of the Process Manager, with their history. -/
def recordedRuns (Address_PM : UInt32) :
    Machine (ProcessManager × PMHistory) PMAction (List PMEvent) :=
  (machine Address_PM).withGhost PMHistory.record

/-- The task is in a `TaskHandler` thread (which may be in a code transfer), in the queue or in
the hands of `LaunchTask`, in the list, or in a message to the Process Manager itself. -/
def Held (s : ProcessManager) (p : UInt32) : Prop :=
  (∃ thread ∈ s.handlers, thread.pid = p) ∨
    (∃ task ∈ s.taskQueue, task.ulSdmPid = p) ∨
    (∃ launchTask, s.signal = .launching launchTask ∧ launchTask.ulSdmPid = p) ∨
    p ∈ s.runningTaskList.pids ∨
    ∃ msgTask ∈ s.restarts, msgTask.pid.toUInt32 = p

/-- Every task that arrived is held and not reported, or not held and reported once. -/
def Conserved (s : ProcessManager) (h : PMHistory) : Prop :=
  ∀ p ∈ h.received,
    (s.Held p ∧ p ∉ h.finished) ∨ (¬ s.Held p ∧ h.finished.count p = 1)

/-- A new task gets its thread, and its pid has room in `strPid`. A task whose thread or pipe is not
created, or whose file is gone when it is launched, is one that is still in the list; one whose code
cannot be transferred is not. `fork` succeeds, and no entry that the monitor kills has failed too
often. -/
def KeepsTasks (s : ProcessManager) (h : PMHistory) : PMAction → Prop
  | .RecvTask msgTask spawned =>
      spawned = true ∧ msgTask.pid.toUInt32 ∉ h.received ∧ FitsStrPid msgTask.pid.toUInt32
  | .RecvRestart i spawned =>
      spawned = true ∨
        ∀ msgTask, s.restarts[i]? = some msgTask → msgTask.pid.toUInt32 ∈ s.runningTaskList.pids
  | .TaskHandler i IsFileAvailable piped =>
      IsFileAvailable = true ∨ piped = true ∨
        ∀ thread, s.handlers[i]? = some thread → thread.pid ∈ s.runningTaskList.pids
  | .CodeReceived i bSuccess =>
      bSuccess = true ∨
        ∀ thread, s.handlers[i]? = some thread → thread.pid ∉ s.runningTaskList.pids
  | .LaunchTask IsFileAvailable =>
      IsFileAvailable = true ∨ ∀ launchTask, s.signal = .launching launchTask →
        launchTask.ulSdmPid ∈ s.runningTaskList.pids
  | .Fork AppPid => AppPid ≠ none
  | .Monitor uiCurSeconds =>
      ∀ e ∈ (dueEntries uiCurSeconds false s.runningTaskList.m_ProcessList).takeWhile
          fun e => e.OsPid != 0, e.uiTotalFailCount < MAX_TASK_FAILURES
  | _ => True

section Steps

variable {s s' : ProcessManager} {h : PMHistory} {a : PMAction} {out : List PMEvent}
  {Address_PM p : UInt32} {i : Nat}

/-! ### The custody of the tasks -/

/-- How often the task waits to be launched. -/
def tokens (s : ProcessManager) (p : UInt32) : Nat :=
  (s.handlers.map TaskThread.pid).count p + (s.taskQueue.map PendingTask.ulSdmPid).count p +
    s.signal.token p + (s.restarts.map fun msgTask => msgTask.pid.toUInt32).count p

def custody (s : ProcessManager) (h : PMHistory) : Custody UInt32 where
  tokens := s.tokens
  entries := s.runningTaskList.entries
  starting := s.signal.starting
  received := h.received
  finished := h.finished

theorem map_fst_entries {l : PMProcessList} : l.entries.map Prod.fst = l.pids := by
  simp only [PMProcessList.entries, PMProcessList.pids, List.map_map]
  rfl

theorem keys_custody : (s.custody h).keys = s.runningTaskList.pids := map_fst_entries

theorem held_custody : (s.custody h).Held p ↔ s.Held p := by
  have launching : s.signal.token p ≠ 0 ↔
      ∃ launchTask, s.signal = .launching launchTask ∧ launchTask.ulSdmPid = p := by
    cases s.signal with
    | launching launchTask => simp [SignalThread.token]
    | _ => simp [SignalThread.token]
  have token : s.tokens p ≠ 0 ↔ (∃ thread ∈ s.handlers, thread.pid = p) ∨
      (∃ task ∈ s.taskQueue, task.ulSdmPid = p) ∨ s.signal.token p ≠ 0 ∨
      ∃ msgTask ∈ s.restarts, msgTask.pid.toUInt32 = p := by
    rw [← List.mem_map, ← List.mem_map, ← List.mem_map, ← List.count_pos_iff,
      ← List.count_pos_iff, ← List.count_pos_iff, tokens]
    omega
  rw [Custody.Held, keys_custody]
  show s.tokens p ≠ 0 ∨ _ ↔ _
  rw [token, launching, Held, or_assoc, or_assoc, or_assoc,
    or_comm (b := p ∈ s.runningTaskList.pids)]

/-- The custody that a step which moves tokens, and nothing else, leaves. -/
theorem custody_eq {h' : PMHistory} (tokens : ∀ q, s'.tokens q = s.tokens q)
    (entries : s'.runningTaskList.entries = s.runningTaskList.entries)
    (starting : s'.signal.starting = s.signal.starting) (received : h'.received = h.received)
    (finished : h'.finished = h.finished) : s'.custody h' = s.custody h :=
  Custody.ext (funext tokens) entries starting received finished

theorem mem_entries {l : PMProcessList} {k : UInt32 × Bool} :
    k ∈ l.entries ↔ ∃ e ∈ l.m_ProcessList, (e.uiSdmPid, decide (e.OsPid ≠ 0)) = k := List.mem_map

theorem entries_modify {l : PMProcessList} {f : PMProcess → PMProcess}
    (pid : ∀ e, (f e).uiSdmPid = e.uiSdmPid) (os : ∀ e, (f e).OsPid = e.OsPid) :
    (l.modify i f).entries = l.entries :=
  map_modify_of_kept fun e => by rw [pid, os]

theorem entries_heartbeatReceived {l : PMProcessList} {uiCurSeconds : UInt32} :
    (l.HeartbeatReceived p uiCurSeconds).entries = l.entries := by
  unfold PMProcessList.HeartbeatReceived
  cases l.GetIndexOfSdmPid p with
  | none => rfl
  | some i => exact entries_modify (fun _ => rfl) fun _ => rfl

/-- A round of the monitor that removes no entry changes no pid. -/
theorem entries_monitorRound {uiCurSeconds : UInt32} {skip : Bool} {l : List PMProcess}
    (kept : ∀ e ∈ (dueEntries uiCurSeconds skip l).takeWhile fun e => e.OsPid != 0,
      e.uiTotalFailCount < MAX_TASK_FAILURES) :
    (PMProcessList.mk (monitorRound Address_PM uiCurSeconds skip l).2.1).entries =
      (PMProcessList.mk l).entries := by
  induction l generalizing skip with
  | nil => cases skip <;> rfl
  | cons e rest ih =>
      have cons : ∀ (e' : PMProcess) (l' : List PMProcess),
          (PMProcessList.mk (e' :: l')).entries =
            (e'.uiSdmPid, decide (e'.OsPid ≠ 0)) :: (PMProcessList.mk l').entries :=
        fun _ _ => rfl
      cases skip with
      | true =>
          rw [monitorRound, cons, cons]
          exact congrArg _ (ih kept)
      | false =>
          unfold monitorRound
          unfold dueEntries at kept
          dsimp only
          by_cases due : Due uiCurSeconds e = true
          · rw [if_pos due] at kept ⊢
            by_cases zero : e.OsPid = 0
            · rw [if_pos zero, cons, cons]
              simp
            · rw [if_neg zero]
              rw [List.takeWhile_cons_of_pos (by simpa using zero)] at kept
              have few := kept e List.mem_cons_self
              rw [if_neg (UInt32.not_le.mpr few)]
              rw [decide_eq_false (UInt32.not_le.mpr few)] at kept
              dsimp only
              rw [cons, cons, ih fun e' mem => kept e' (List.mem_cons_of_mem _ mem)]
              simp [PMProcess.Failure]
          · rw [if_neg due] at kept ⊢
            dsimp only
            rw [cons, cons, ih kept]
            simp

/-! ### The steps as steps of the custody -/

/-- Children have operating system pids other than 0, and no `fork` has failed. -/
structure Sound (s : ProcessManager) : Prop where
  children : ∀ c ∈ s.children, c.OsPid ≠ 0
  reaped : ∀ iPid iStatus, s.signal = .reaped iPid iStatus → iPid ≠ 0
  forked : ∀ iTaskIndex, s.signal ≠ .forkFailed iTaskIndex

theorem tokens_spawn {msgTask : SDMTask} (q : UInt32) :
    ({ s with handlers := s.handlers ++ [.started msgTask] } : ProcessManager).tokens q =
      s.tokens q + if msgTask.pid.toUInt32 = q then 1 else 0 := by
  simp only [tokens, List.map_append, List.map_cons, List.map_nil, List.count_append,
    List.count_singleton, TaskThread.pid, beq_iff_eq]
  omega

theorem tokens_endThread {thread : TaskThread} (found : s.handlers[i]? = some thread) (q : UInt32) :
    s.tokens q = ({ s with handlers := s.handlers.eraseIdx i } : ProcessManager).tokens q +
      if thread.pid = q then 1 else 0 := by
  simp only [tokens]
  rw [count_map_eraseIdx found]
  omega

theorem tokens_takeRestart {msgTask : SDMTask} (found : s.restarts[i]? = some msgTask)
    (q : UInt32) :
    s.tokens q = ({ s with restarts := s.restarts.eraseIdx i } : ProcessManager).tokens q +
      if msgTask.pid.toUInt32 = q then 1 else 0 := by
  simp only [tokens]
  rw [count_map_eraseIdx (g := fun msgTask => msgTask.pid.toUInt32) found]
  omega

theorem tokens_queueTask {thread : TaskThread} {msgTask : SDMTask}
    (found : s.handlers[i]? = some thread) (same : thread.pid = msgTask.pid.toUInt32) (q : UInt32) :
    (s.queueTask i msgTask).tokens q = s.tokens q := by
  rw [tokens_endThread found q, same]
  simp only [tokens, queueTask, List.map_append, List.map_cons, List.map_nil, List.count_append,
    List.count_singleton, beq_iff_eq]
  omega

/-- A task has one token at least while its thread runs. -/
theorem tokens_ne_zero_of_thread {thread : TaskThread} (found : s.handlers[i]? = some thread) :
    s.tokens thread.pid ≠ 0 := by
  rw [tokens_endThread found, if_pos rfl]
  exact Nat.succ_ne_zero _

/-- The arrival of a new task. -/
theorem custody_arrive {h' : PMHistory} {msgTask : SDMTask}
    (new : msgTask.pid.toUInt32 ∉ h.received)
    (received : h'.received = h.received ++ [msgTask.pid.toUInt32])
    (finished : h'.finished = h.finished) :
    Custody.Step (s.custody h)
      (({ s with handlers := s.handlers ++ [.started msgTask] } : ProcessManager).custody h') := by
  have target : ({ s with handlers := s.handlers ++ [.started msgTask] } : ProcessManager).custody
      h' = { s.custody h with
        tokens := Function.update s.tokens msgTask.pid.toUInt32
          (s.tokens msgTask.pid.toUInt32 + 1)
        received := h.received ++ [msgTask.pid.toUInt32] } :=
    Custody.ext (Custody.eq_update_add_one tokens_spawn) rfl rfl received finished
  rw [target]
  exact .arrive new

/-- A step that loses a token of a task in the list. -/
theorem custody_drop {h' : PMHistory}
    (taken : ∀ q, s.tokens q = s'.tokens q + if p = q then 1 else 0)
    (entries : s'.runningTaskList.entries = s.runningTaskList.entries)
    (starting : s'.signal.starting = s.signal.starting) (received : h'.received = h.received)
    (finished : h'.finished = h.finished) (listed : p ∈ s.runningTaskList.pids) :
    Custody.Step (s.custody h) (s'.custody h') := by
  have target : s'.custody h' = { s.custody h with
      tokens := Function.update s.tokens p (s.tokens p - 1) } :=
    Custody.ext (Custody.eq_update_sub_one taken) entries starting received finished
  have token : s.tokens p ≠ 0 := by
    rw [taken, if_pos rfl]
    exact Nat.succ_ne_zero _
  rw [target]
  exact .drop token (by rwa [keys_custody])

/-- A task whose code cannot be transferred, and that is not in the list. -/
theorem custody_giveUp {h' : PMHistory} {thread : TaskThread}
    (found : s.handlers[i]? = some thread) (unlisted : thread.pid ∉ s.runningTaskList.pids)
    (received : h'.received = h.received) (finished : h'.finished = h.finished ++ [thread.pid]) :
    Custody.Step (s.custody h)
      (({ s with handlers := s.handlers.eraseIdx i } : ProcessManager).custody h') := by
  have target : ({ s with handlers := s.handlers.eraseIdx i } : ProcessManager).custody h' =
      { s.custody h with
        tokens := Function.update s.tokens thread.pid (s.tokens thread.pid - 1)
        finished := h.finished ++ [thread.pid] } :=
    Custody.ext (Custody.eq_update_sub_one (tokens_endThread found)) rfl rfl received finished
  rw [target]
  exact .giveUp (tokens_ne_zero_of_thread found) (by rwa [keys_custody])

/-- `LaunchTask` puts the task in the list. -/
theorem custody_launch {h' : PMHistory} {launchTask : PendingTask}
    (signal : s.signal = .launching launchTask) (received : h'.received = h.received)
    (finished : h'.finished = h.finished) :
    Custody.Step (s.custody h)
      (({ s with
        runningTaskList :=
          (s.runningTaskList.Add launchTask.strName launchTask.ulSdmPid).1
        signal := .added launchTask
          (s.runningTaskList.Add launchTask.strName launchTask.ulSdmPid).2 } :
          ProcessManager).custody h') := by
  have taken : ∀ q, s.tokens q = ({ s with
      runningTaskList := (s.runningTaskList.Add launchTask.strName launchTask.ulSdmPid).1
      signal := .added launchTask
        (s.runningTaskList.Add launchTask.strName launchTask.ulSdmPid).2 } :
        ProcessManager).tokens q + if launchTask.ulSdmPid = q then 1 else 0 := by
    intro q
    simp only [tokens, signal, SignalThread.token]
    omega
  have token : s.tokens launchTask.ulSdmPid ≠ 0 := by
    rw [taken, if_pos rfl]
    exact Nat.succ_ne_zero _
  have keys : (s.runningTaskList.Add launchTask.strName
      launchTask.ulSdmPid).1.entries.map Prod.fst =
      if launchTask.ulSdmPid ∈ (s.custody h).keys then (s.custody h).keys
      else (s.custody h).keys ++ [launchTask.ulSdmPid] := by
    rw [keys_custody, map_fst_entries, PMProcessList.pids_add]
  have old : ∀ k ∈ (s.runningTaskList.Add launchTask.strName launchTask.ulSdmPid).1.entries,
      k ∈ (s.custody h).entries ∨ k = (launchTask.ulSdmPid, false) := by
    intro k mem
    obtain ⟨e, mem', rfl⟩ := mem_entries.mp mem
    rcases PMProcessList.mem_add mem' with before | ⟨pid, os⟩
    · exact .inl (mem_entries.mpr ⟨e, before, rfl⟩)
    · rw [pid, os]
      exact .inr rfl
  have target := Custody.ext (y := { s.custody h with
      tokens := Function.update s.tokens launchTask.ulSdmPid (s.tokens launchTask.ulSdmPid - 1)
      entries := (s.runningTaskList.Add launchTask.strName launchTask.ulSdmPid).1.entries
      starting := some launchTask.ulSdmPid })
    (x := ({ s with
      runningTaskList := (s.runningTaskList.Add launchTask.strName launchTask.ulSdmPid).1
      signal := .added launchTask
        (s.runningTaskList.Add launchTask.strName launchTask.ulSdmPid).2 } :
        ProcessManager).custody h')
    (Custody.eq_update_sub_one taken) rfl rfl received finished
  rw [target]
  exact .enter token keys old

/-- The list gets the operating system pid of the child. -/
theorem custody_updateOsPid {h' : PMHistory} {launchTask : PendingTask} {AppPid : Nat}
    (signal : s.signal = .forked launchTask AppPid) (received : h'.received = h.received)
    (finished : h'.finished = h.finished) :
    Custody.Step (s.custody h)
      (({ s with
        runningTaskList := s.runningTaskList.UpdateOsPid launchTask.ulSdmPid AppPid
        signal := .waiting } : ProcessManager).custody h') := by
  have starting : (s.custody h).starting = some launchTask.ulSdmPid := by
    simp only [custody, signal, SignalThread.starting]
  have keys : (s.runningTaskList.UpdateOsPid launchTask.ulSdmPid AppPid).entries.map Prod.fst =
      (s.custody h).keys := by
    rw [keys_custody, map_fst_entries, PMProcessList.pids_updateOsPid]
  have old : ∀ k ∈ (s.runningTaskList.UpdateOsPid launchTask.ulSdmPid AppPid).entries,
      k ∈ (s.custody h).entries ∨ k.1 = launchTask.ulSdmPid := by
    intro k mem
    obtain ⟨e, mem', rfl⟩ := mem_entries.mp mem
    exact (PMProcessList.mem_updateOsPid mem').imp (fun before => mem_entries.mpr ⟨e, before, rfl⟩)
      And.left
  have target := Custody.ext (y := { s.custody h with
      entries := (s.runningTaskList.UpdateOsPid launchTask.ulSdmPid AppPid).entries
      starting := none })
    (x := ({ s with
      runningTaskList := s.runningTaskList.UpdateOsPid launchTask.ulSdmPid AppPid
      signal := .waiting } : ProcessManager).custody h')
    (by funext q; simp only [custody, tokens, signal, SignalThread.token]) rfl rfl received finished
  rw [target]
  exact .run starting keys old

/-- A running entry that is taken out of the list. -/
theorem custody_finish {h' : PMHistory} {l : PMProcessList} {e : PMProcess} {signal : SignalThread}
    (found : s.runningTaskList.m_ProcessList[i]? = some e) (os : e.OsPid ≠ 0)
    (removed : s.runningTaskList.Remove i = some l)
    (token : ∀ q, signal.token q = s.signal.token q)
    (starting : signal.starting = s.signal.starting) (received : h'.received = h.received)
    (finished : h'.finished = h.finished ++ [e.uiSdmPid]) :
    Custody.Step (s.custody h)
      (({ s with runningTaskList := l, signal := signal } : ProcessManager).custody h') := by
  rw [PMProcessList.remove_of_entry found] at removed
  cases removed
  obtain ⟨pre, post, whole, erased, -⟩ := exists_split_of_getElem? found
  have split : (s.custody h).entries =
      (PMProcessList.mk pre).entries ++ (e.uiSdmPid, true) :: (PMProcessList.mk post).entries := by
    simp [custody, PMProcessList.entries, whole, os]
  have target := Custody.ext (y := { s.custody h with
      entries := (PMProcessList.mk pre).entries ++ (PMProcessList.mk post).entries
      finished := h.finished ++ [e.uiSdmPid] })
    (x := ({ s with
      runningTaskList := ⟨s.runningTaskList.m_ProcessList.eraseIdx i⟩
      signal := signal } : ProcessManager).custody h')
    (by funext q; simp only [custody, tokens, token])
    (by simp [custody, PMProcessList.entries, erased]) starting received finished
  rw [target]
  exact .finish split

/-- A running entry whose task is sent to the Process Manager itself. -/
theorem custody_again {h' : PMHistory} {e : PMProcess} {msgTask : SDMTask} {signal : SignalThread}
    (found : s.runningTaskList.m_ProcessList[i]? = some e) (os : e.OsPid ≠ 0)
    (pid : msgTask.pid.toUInt32 = e.uiSdmPid)
    (token : ∀ q, signal.token q = s.signal.token q)
    (starting : signal.starting = s.signal.starting) (received : h'.received = h.received)
    (finished : h'.finished = h.finished) :
    Custody.Step (s.custody h)
      (({ s with
        runningTaskList := s.runningTaskList.modify i PMProcess.Reset
        restarts := s.restarts ++ [msgTask]
        signal := signal } : ProcessManager).custody h') := by
  obtain ⟨pre, post, whole, -, modified⟩ := exists_split_of_getElem? found
  have split : (s.custody h).entries =
      (PMProcessList.mk pre).entries ++ (e.uiSdmPid, true) :: (PMProcessList.mk post).entries := by
    simp [custody, PMProcessList.entries, whole, os]
  have added : ∀ q, ({ s with
      runningTaskList := s.runningTaskList.modify i PMProcess.Reset
      restarts := s.restarts ++ [msgTask]
      signal := signal } : ProcessManager).tokens q =
      s.tokens q + if e.uiSdmPid = q then 1 else 0 := by
    intro q
    simp only [tokens, token, List.map_append, List.map_cons, List.map_nil, List.count_append,
      List.count_singleton, pid, beq_iff_eq]
    omega
  have target := Custody.ext (y := { s.custody h with
      tokens := Function.update s.tokens e.uiSdmPid (s.tokens e.uiSdmPid + 1)
      entries := (PMProcessList.mk pre).entries ++
        (e.uiSdmPid, false) :: (PMProcessList.mk post).entries })
    (x := ({ s with
      runningTaskList := s.runningTaskList.modify i PMProcess.Reset
      restarts := s.restarts ++ [msgTask]
      signal := signal } : ProcessManager).custody h')
    (Custody.eq_update_add_one added)
    (by simp [custody, PMProcessList.entries, PMProcessList.modify, modified, PMProcess.Reset])
    starting received finished
  rw [target]
  exact .again split

/-- The step leaves the custody as it is, or is a step of it. -/
def CustodyStep (s : ProcessManager) (h : PMHistory) (s' : ProcessManager) (h' : PMHistory) :
    Prop :=
  s'.custody h' = s.custody h ∨ Custody.Step (s.custody h) (s'.custody h')

/-- A round of the monitor reports no end of a task. -/
theorem finishedPids_monitorRound {uiCurSeconds : UInt32} {skip : Bool} {l : List PMProcess} :
    finishedPids (monitorRound Address_PM uiCurSeconds skip l).2.2 = [] := by
  refine List.filterMap_eq_nil_iff.mpr fun event mem => ?_
  rcases mem_monitorRound mem with ⟨_, _, rfl⟩ | ⟨_, rfl⟩ <;> rfl

/-- A child has a pid other than 0 after a step, and a `fork` that failed is not left. -/
theorem Sound.step (sound : s.Sound) (forks : a ≠ .Fork none)
    (taken : s.act Address_PM a = some (s', out)) : s'.Sound := by
  cases acted taken with
  | rest => exact ⟨sound.children, nofun, nofun⟩
  | dequeue => exact ⟨sound.children, nofun, nofun⟩
  | launch => exact ⟨sound.children, nofun, nofun⟩
  | noFile => exact ⟨sound.children, nofun, nofun⟩
  | forkFailed => exact absurd rfl forks
  | fork launchTask iTaskIndex pid signal nonzero =>
      refine ⟨?_, nofun, nofun⟩
      intro c mem
      rcases List.mem_append.mp mem with old | new
      · exact sound.children c old
      · rw [List.mem_singleton.mp new]
        exact nonzero
  | removeUnforked => exact ⟨sound.children, nofun, nofun⟩
  | updateOsPid => exact ⟨sound.children, nofun, nofun⟩
  | noneExited => exact ⟨sound.children, nofun, nofun⟩
  | reap c iStatus signal mem =>
      refine ⟨fun c mem' => sound.children c (List.mem_filter.mp mem').1, ?_, nofun⟩
      rintro _ _ same
      cases same
      exact sound.children c mem
  | collectUnknown => exact ⟨sound.children, nofun, nofun⟩
  | restart => exact ⟨sound.children, nofun, nofun⟩
  | finish => exact ⟨sound.children, nofun, nofun⟩
  | childExits OsPid status =>
      refine ⟨?_, sound.reaped, sound.forked⟩
      intro c mem
      obtain ⟨c', mem', rfl⟩ := List.mem_map.mp mem
      split <;> exact sound.children c' mem'
  -- The other steps change neither the children nor what the signal thread does.
  | _ => exact ⟨sound.children, sound.reaped, sound.forked⟩

theorem KeepsTasks.forks (kept : s.KeepsTasks h a) : a ≠ .Fork none := by
  rintro rfl
  exact kept rfl

/-- A step under the condition is a step of the custody, or does not touch it. -/
theorem custody_step (sound : s.Sound) (kept : s.KeepsTasks h a)
    (taken : s.act Address_PM a = some (s', out)) : CustodyStep s h s' (h.record s a out) := by
  cases acted taken with
  | spawn msgTask => exact .inr (custody_arrive kept.2.1 rfl (List.append_nil _))
  | refuse msgTask => exact absurd kept.1 Bool.false_ne_true
  | spawnRestart i msgTask found =>
      refine .inl (custody_eq (fun q => ?_) rfl rfl rfl (List.append_nil _))
      rw [tokens_takeRestart found q]
      exact tokens_spawn (s := { s with restarts := s.restarts.eraseIdx i }) q
  | refuseRestart i msgTask found =>
      exact .inr (custody_drop (tokens_takeRestart found) rfl rfl rfl (List.append_nil _)
        (kept.resolve_left Bool.false_ne_true msgTask found))
  | queueFile i msgTask piped found =>
      exact .inl (custody_eq (tokens_queueTask found rfl) rfl rfl rfl (List.append_nil _))
  | transfer i msgTask found =>
      refine .inl (custody_eq (fun q => ?_) rfl rfl rfl (List.append_nil _))
      simp only [tokens]
      rw [map_set_of_same (b := TaskThread.transferring msgTask) found rfl]
  | noPipe i msgTask found =>
      exact .inr (custody_drop (tokens_endThread found) rfl rfl rfl (List.append_nil _)
        (((kept.resolve_left Bool.false_ne_true).resolve_left Bool.false_ne_true) _ found))
  | queueCode i msgTask found =>
      exact .inl (custody_eq (tokens_queueTask found rfl) rfl rfl rfl (List.append_nil _))
  | giveUp i msgTask found =>
      exact .inr (custody_giveUp found (kept.resolve_left Bool.false_ne_true _ found) rfl rfl)
  | rest signal queue =>
      refine .inl (custody_eq (fun q => ?_) rfl ?_ rfl (List.append_nil _))
      · simp only [tokens, signal, SignalThread.token]
      · rw [signal]
        rfl
  | dequeue launchTask rest signal queue =>
      refine .inl (custody_eq (fun q => ?_) rfl ?_ rfl (List.append_nil _))
      · simp only [tokens, signal, queue, SignalThread.token, List.map_cons, List.count_cons,
          beq_iff_eq]
        omega
      · rw [signal]
        rfl
  | launch launchTask signal => exact .inr (custody_launch signal rfl (List.append_nil _))
  | noFile launchTask signal =>
      refine .inr (custody_drop (p := launchTask.ulSdmPid) (fun q => ?_) rfl ?_ rfl
        (List.append_nil _) (kept.resolve_left Bool.false_ne_true launchTask signal))
      · simp only [tokens, signal, SignalThread.token]
        omega
      · rw [signal]
        rfl
  | forkFailed => exact absurd rfl kept
  | fork launchTask iTaskIndex pid signal =>
      refine .inl (custody_eq (fun q => ?_) rfl ?_ rfl (List.append_nil _))
      · simp only [tokens, signal, SignalThread.token]
      · rw [signal]
        rfl
  | removeUnforked iTaskIndex l signal => exact absurd signal (sound.forked iTaskIndex)
  | updateOsPid launchTask AppPid signal =>
      exact .inr (custody_updateOsPid signal rfl (List.append_nil _))
  | noneExited signal =>
      refine .inl (custody_eq (fun q => ?_) rfl ?_ rfl (List.append_nil _))
      · simp only [tokens, signal, SignalThread.token]
      · rw [signal]
        rfl
  | reap c iStatus signal =>
      refine .inl (custody_eq (fun q => ?_) rfl ?_ rfl (List.append_nil _))
      · simp only [tokens, signal, SignalThread.token]
      · rw [signal]
        rfl
  | collectUnknown iPid iStatus signal =>
      refine .inl (custody_eq (fun q => ?_) rfl ?_ rfl (List.append_nil _))
      · simp only [tokens, signal, SignalThread.token]
      · rw [signal]
        rfl
  | restart i e iStatus signal at_i =>
      refine .inr (custody_again at_i (sound.reaped _ _ signal) ?_ (fun q => ?_) ?_ rfl
        (List.append_nil _))
      · exact UInt32.toUInt32_toInt32 e.uiSdmPid
      · rw [signal]
        rfl
      · rw [signal]
        rfl
  | finish i e iStatus l signal at_i _ removed =>
      refine .inr (custody_finish at_i (sound.reaped _ _ signal) removed (fun q => ?_) ?_ rfl ?_)
      · rw [signal]
        rfl
      · rw [signal]
        rfl
      · simp [PMHistory.record, finishedPids, finishedMessage, cancelMessage]
  | monitor uiCurSeconds =>
      refine .inl (custody_eq (fun _ => rfl) (entries_monitorRound kept) rfl rfl ?_)
      show h.finished ++ finishedPids (monitorRound _ _ _ _).2.2 = _
      rw [finishedPids_monitorRound, List.append_nil]
  | heartbeat SdmPid uiCurSeconds =>
      exact .inl (custody_eq (fun _ => rfl) entries_heartbeatReceived rfl rfl (List.append_nil _))
  | killUnknown msgKill =>
      exact .inl (custody_eq (fun _ => rfl) rfl rfl rfl (List.append_nil _))
  | killGroup msgKill =>
      exact .inl (custody_eq (fun _ => rfl) rfl rfl rfl (List.append_nil _))
  | killRemoved msgKill i e l _ at_i os _ removed =>
      refine .inr (custody_finish at_i os removed (fun _ => rfl) rfl rfl ?_)
      simp [PMHistory.record, finishedPids, finishedMessage, cancelMessage]
  | kill msgKill =>
      exact .inl (custody_eq (fun _ => rfl) rfl rfl rfl (List.append_nil _))
  | childExits OsPid status =>
      exact .inl (custody_eq (fun _ => rfl) rfl rfl rfl (List.append_nil _))

/-! ### Runs -/

theorem sound_start : start.Sound := ⟨nofun, nofun, nofun⟩

/-- Every pid that has arrived has room in `strPid`. -/
theorem KeepsTasks.fits_received (kept : s.KeepsTasks h a) (fits : ∀ p ∈ h.received, FitsStrPid p) :
    ∀ p ∈ (h.record s a out).received, FitsStrPid p := by
  cases a with
  | RecvTask msgTask spawned =>
      intro p mem
      rcases List.mem_append.mp mem with before | new
      · exact fits p before
      · rw [List.mem_singleton.mp new]
        exact kept.2.2
  | _ => exact fits

/-- **Task conservation.** In every run whose steps meet `KeepsTasks`, every task that arrived is
held and its end was not reported, or it is not held and its end was reported once; the pid of the
task in the hands of `LaunchTask` has room in its array; and no task is launched after its
report. -/
theorem tasks_conserved
    (run : (recordedRuns Address_PM).Reaches (fun q a => q.1.KeepsTasks q.2 a)
      (start, ⟨[], []⟩) (s, h)) :
    s.Conserved h ∧
      (∀ launchTask, s.signal = .launching launchTask → FitsStrPid launchTask.ulSdmPid) ∧
      ∀ a s' out p OsPid, (machine Address_PM).step s a = some (s', out) →
        .launched p OsPid ∈ out → p ∉ h.finished := by
  have account : s.Sound ∧ (s.custody h).Accounted ∧ ∀ p ∈ h.received, FitsStrPid p := by
    refine run.invariant (I := fun q => q.1.Sound ∧ (q.1.custody q.2).Accounted ∧
      ∀ p ∈ q.2.received, FitsStrPid p) ?_ ?_
    · exact ⟨sound_start, Custody.accounted_empty, nofun⟩
    · rintro ⟨s, h⟩ a ⟨s', h'⟩ out ⟨sound, account, fits⟩ kept recorded
      obtain ⟨taken, rfl⟩ := Machine.withGhost_step_eq_some.mp recorded
      have fits' : ∀ p ∈ (h.record s a out).received, FitsStrPid p := kept.fits_received fits
      simp only [machine] at taken
      split at taken
      · have sound' := sound.step kept.forks taken
        rcases custody_step sound kept taken with same | step
        · exact ⟨sound', same.symm ▸ account, fits'⟩
        · exact ⟨sound', account.step step, fits'⟩
      · cases taken
  obtain ⟨-, accounted, fits⟩ := account
  refine ⟨fun p arrived => ?_, fun launchTask signal => ?_, ?_⟩
  · rw [← held_custody (h := h)]
    exact accounted.once p arrived
  · have held : s.Held launchTask.ulSdmPid := .inr (.inr (.inl ⟨launchTask, signal, rfl⟩))
    exact fits _ (accounted.known _ (held_custody.mpr held))
  · intro a s' out p OsPid taken launched
    simp only [machine] at taken
    split at taken
    · rcases event_cases taken launched with ⟨p', OsPid', same, starting⟩ | ⟨_, same⟩ |
        ⟨_, _, same, -⟩
      · cases same
        exact accounted.not_finished (.inr (accounted.starting p starting).2.1)
      · cases same
      · cases same
    · cases taken

/-- A task that arrives. -/
def firstTask : SDMTask := ⟨.zero, 0, .empty, 7, 0⟩

/-- What the threads do with a task that has arrived, until it runs as process 5. -/
def launchFirst : List PMAction :=
  [.TaskHandler 0 true true, .Dequeue, .LaunchTask true, .Fork (some 5), .UpdateOsPid]

/-- The first task is launched. -/
theorem tasks_conserved_launched :
    ∃ s, (machine 1).exec start (.RecvTask firstTask true :: launchFirst) = some s ∧
      s.runningTaskList.pids = [7] ∧ s.Conserved ⟨[7], []⟩ := by
  have arrives : start.KeepsTasks ⟨[], []⟩ (.RecvTask firstTask true) := ⟨rfl, nofun, by decide⟩
  have taken : (machine 1).step start (.RecvTask firstTask true) =
      some ({ start with handlers := [.started firstTask] }, []) := rfl
  have begun : (recordedRuns 1).Reaches (fun q a => q.1.KeepsTasks q.2 a) (start, ⟨[], []⟩)
      ({ start with handlers := [.started firstTask] }, ⟨[7], []⟩) :=
    Machine.Reaches.withGhost_step .start arrives taken
  have kept : ∀ a ∈ launchFirst, ∀ q : ProcessManager × PMHistory, q.1.KeepsTasks q.2 a := by
    simp [launchFirst, KeepsTasks]
  exact ⟨_, rfl, rfl, (tasks_conserved (begun.exec kept rfl)).1⟩

/-- A task whose `fork` fails is dropped without a report. -/
theorem not_tasks_conserved :
    ¬ ∀ s h, (recordedRuns 1).Reachable (start, ⟨[], []⟩) (s, h) → s.Conserved h := by
  intro all
  have run : (((recordedRuns 1).exec (start, ⟨[], []⟩) [.RecvTask firstTask true,
      .TaskHandler 0 true true, .Dequeue, .LaunchTask true, .Fork none,
      .RemoveUnforked]).map fun q =>
        (q.1.tokens 7, q.1.runningTaskList.pids, q.2.received, q.2.finished)) =
      some (0, [], [7], []) := by
    decide +kernel
  obtain ⟨⟨s, h⟩, done, shown⟩ := Option.map_eq_some_iff.mp run
  simp only [Prod.mk.injEq] at shown
  obtain ⟨token, listed, received, finished⟩ := shown
  have arrived : 7 ∈ h.received := received ▸ List.mem_cons_self
  rcases all s h (.exec .start (fun _ _ _ => trivial) done) 7 arrived with ⟨held, -⟩ | ⟨-, once⟩
  · rcases (held_custody (h := h)).mpr held with one | entry
    · exact one token
    · rw [keys_custody, listed] at entry
      cases entry
  · rw [finished] at once
    cases once

end Steps

end ProcessManager

end Sdm
