import Sdm.Lib.Int32
import Sdm.TM.TaskManager

/-!
Task identity: the pids of the task list.

A pid comes from `NextPID` when the `Scheduler` places a task, or from the report of a
process manager. A report is taken as it comes, and a finish report is looked up in every
entry, the queued ones included.

* `task_identity`: no two entries in use share a pid as long as every report brings a pid
  that no entry carries and `NextPID` does not overflow; and a finish report changes at most
  one entry, a running one with its pid, exactly when it does not hit a queued entry.
* `hitsQueued_eq_zero`: before any process manager fails, only a report of pid 0 hits a
  queued entry.
-/

namespace Sdm

open Sdm.Lib

namespace TaskList

/-- No two entries in use share a pid other than 0. -/
def PidsUnique (tasks : TaskList) : Prop :=
  ∀ m n, (tasks m).state ≠ .INACTIVE → (tasks n).state ≠ .INACTIVE →
    (tasks m).pid = (tasks n).pid → (tasks m).pid ≠ 0 → m = n

/-- The finish report of the pid changes at most one entry, a running one with this pid. -/
def FinishesOneScheduled (tasks : TaskList) (p : UInt32) : Prop :=
  (∀ m n, (tasks.TaskFinished p).2 m ≠ tasks m → (tasks.TaskFinished p).2 n ≠ tasks n → m = n) ∧
  ∀ n, (tasks.TaskFinished p).2 n ≠ tasks n → (tasks n).state = .SCHEDULED ∧ (tasks n).pid = p

/-- The first entry with the pid is queued, and a finish report deletes it or takes its pid. -/
def HitsQueued (tasks : TaskList) (p : UInt32) : Prop :=
  ∃ n, tasks.entryOf p = some n ∧ (tasks n).state = .PENDING ∧
    ((tasks n).taskMode = MODE_NORMAL ∨ (tasks n).taskMode = MODE_ALWAYS_RUNNING ∧ p ≠ 0)

section Pids

variable {tasks tasks' : TaskList} {n : Fin NUMTASKS} {p : UInt32} {f : Task → Task} {t : Task}

/-- Pids stay unique when no entry comes into use with one. -/
theorem PidsUnique.of_kept (unique : tasks.PidsUnique)
    (kept : ∀ n, (tasks' n).state ≠ .INACTIVE → (tasks' n).pid ≠ 0 →
      (tasks n).state ≠ .INACTIVE ∧ (tasks' n).pid = (tasks n).pid) : tasks'.PidsUnique := by
  intro m n usedM usedN same nonzero
  obtain ⟨oldM, pidM⟩ := kept m usedM nonzero
  obtain ⟨oldN, pidN⟩ := kept n usedN (same ▸ nonzero)
  rw [pidM] at same nonzero
  rw [pidN] at same
  exact unique m n oldM oldN same nonzero

/-- Pids stay unique when one entry takes a pid that no other entry in use carries. -/
theorem PidsUnique.modify (unique : tasks.PidsUnique)
    (fresh : (f (tasks n)).pid ≠ 0 → ∀ m, m ≠ n → (tasks m).state ≠ .INACTIVE →
      (tasks m).pid ≠ (f (tasks n)).pid) : (tasks.modify n f).PidsUnique := by
  intro i j usedI usedJ same nonzero
  by_cases hi : i = n
  · by_cases hj : j = n
    · exact hi.trans hj.symm
    · subst hi
      rw [modify_of_ne hj] at usedJ same
      rw [modify_self] at same nonzero
      exact absurd same.symm (fresh nonzero j hj usedJ)
  · by_cases hj : j = n
    · subst hj
      rw [modify_of_ne hi] at usedI same nonzero
      rw [modify_self] at same
      exact absurd same (fresh (same ▸ nonzero) i hi usedI)
    · rw [modify_of_ne hi] at usedI same nonzero
      rw [modify_of_ne hj] at usedJ same
      exact unique i j usedI usedJ same nonzero

theorem pidsUnique_clearList : PidsUnique ClearList := fun _ _ used => absurd rfl used

/-- A finish report takes pids away, and gives none. -/
theorem taskFinished_kept (used : ((tasks.TaskFinished p).2 n).state ≠ .INACTIVE)
    (nonzero : ((tasks.TaskFinished p).2 n).pid ≠ 0) : (tasks.TaskFinished p).2 n = tasks n := by
  cases found : tasks.entryOf p with
  | none => rw [taskFinished_of_missing found]
  | some k =>
      by_cases normal : (tasks k).taskMode = MODE_NORMAL
      · rw [taskFinished_of_normal found normal] at used ⊢
        by_cases here : n = k
        · subst here
          rw [modify_self] at used
          exact absurd rfl used
        · exact modify_of_ne here
      · by_cases always : (tasks k).taskMode = MODE_ALWAYS_RUNNING
        · rw [taskFinished_of_always found always] at nonzero ⊢
          by_cases here : n = k
          · subst here
            rw [modify_self] at nonzero
            exact absurd rfl nonzero
          · exact modify_of_ne here
        · rw [taskFinished_of_invalid found normal always]

/-- The failure of a process manager leaves the pids alone. -/
theorem pmFailure_pid {PMID : SDMComponentID} :
    ((tasks.PMFailure PMID).2 n).pid = (tasks n).pid := by
  by_cases on : (tasks n).pmComponentID = PMID
  · have failed : (tasks.PMFailure PMID).2 n = { tasks n with state := .PENDING } := if_pos on
    rw [failed]
  · have kept : (tasks.PMFailure PMID).2 n = tasks n := if_neg on
    rw [kept]

/-! ### Queued entries -/

/-- No queued entry carries a pid. -/
def QueuedUnnamed (tasks : TaskList) : Prop :=
  ∀ n, (tasks n).state = .PENDING → (tasks n).pid = 0

theorem QueuedUnnamed.modify (unnamed : tasks.QueuedUnnamed)
    (written : (f (tasks n)).state = .PENDING → (f (tasks n)).pid = 0) :
    (tasks.modify n f).QueuedUnnamed := by
  intro m queued
  by_cases here : m = n
  · subst here
    rw [modify_self] at queued ⊢
    exact written queued
  · rw [modify_of_ne here] at queued ⊢
    exact unnamed m queued

theorem QueuedUnnamed.addTo (unnamed : tasks.QueuedUnnamed)
    (given : t.state = .PENDING → t.pid = 0) : (tasks.AddTo t).2.QueuedUnnamed := by
  cases room : tasks.firstIn .INACTIVE with
  | none =>
      rw [addTo_of_full room]
      exact unnamed
  | some n =>
      rw [addTo_of_room room]
      exact unnamed.modify given

theorem QueuedUnnamed.taskFinished (unnamed : tasks.QueuedUnnamed) (p : UInt32) :
    (tasks.TaskFinished p).2.QueuedUnnamed := by
  intro n queued
  by_contra nonzero
  have used : ((tasks.TaskFinished p).2 n).state ≠ .INACTIVE := by
    rw [queued]
    decide
  have kept := taskFinished_kept used nonzero
  rw [kept] at queued nonzero
  exact nonzero (unnamed n queued)

/-! ### Finish reports -/

/-- An entry that a finish report changes is the first one with the pid. -/
theorem entryOf_of_changed (changed : (tasks.TaskFinished p).2 n ≠ tasks n) :
    tasks.entryOf p = some n := by
  cases found : tasks.entryOf p with
  | none =>
      rw [taskFinished_of_missing found] at changed
      exact absurd rfl changed
  | some k =>
      by_contra other
      have ne : n ≠ k := fun same => other (by rw [same])
      by_cases normal : (tasks k).taskMode = MODE_NORMAL
      · rw [taskFinished_of_normal found normal] at changed
        exact changed (modify_of_ne ne)
      · by_cases always : (tasks k).taskMode = MODE_ALWAYS_RUNNING
        · rw [taskFinished_of_always found always] at changed
          exact changed (modify_of_ne ne)
        · rw [taskFinished_of_invalid found normal always] at changed
          exact changed rfl

/-- A finish report changes a queued entry exactly when it hits it. -/
theorem changes_queued_iff (found : tasks.entryOf p = some n)
    (queued : (tasks n).state = .PENDING) :
    (tasks.TaskFinished p).2 n ≠ tasks n ↔
      (tasks n).taskMode = MODE_NORMAL ∨ (tasks n).taskMode = MODE_ALWAYS_RUNNING ∧ p ≠ 0 := by
  have carries := entryOf_eq_some found
  by_cases normal : (tasks n).taskMode = MODE_NORMAL
  · refine ⟨fun _ => .inl normal, fun _ => ?_⟩
    rw [taskFinished_of_normal found normal, modify_self]
    intro same
    rw [← same] at queued
    cases queued
  · by_cases always : (tasks n).taskMode = MODE_ALWAYS_RUNNING
    · rw [taskFinished_of_always found always, modify_self]
      constructor
      · intro changed
        refine .inr ⟨always, ?_⟩
        rintro rfl
        apply changed
        rw [← queued, ← carries]
      · rintro (h | ⟨_, nonzero⟩)
        · exact absurd h normal
        · intro same
          rw [← same] at carries
          exact nonzero carries.symm
    · rw [taskFinished_of_invalid found normal always]
      constructor
      · intro changed
        exact absurd rfl changed
      · rintro (h | ⟨h, _⟩)
        · exact absurd h normal
        · exact absurd h always

/-- A finish report leaves a cleared entry alone. -/
theorem changes_cleared (found : tasks.entryOf p = some n) (cleared : tasks n = .init) :
    (tasks.TaskFinished p).2 n = tasks n := by
  have normal : (tasks n).taskMode = MODE_NORMAL := by
    rw [cleared]
    rfl
  rw [taskFinished_of_normal found normal, modify_self, cleared]

/-- **Finish reports.** A finish report changes at most one entry, a running one with its
pid, exactly when it does not hit a queued entry. -/
theorem finishesOneScheduled_iff (regular : tasks.Regular) :
    tasks.FinishesOneScheduled p ↔ ¬ tasks.HitsQueued p := by
  constructor
  · rintro ⟨_, running⟩ ⟨n, found, queued, mode⟩
    have changed := (changes_queued_iff found queued).mpr mode
    rw [(running n changed).1] at queued
    cases queued
  · intro safe
    constructor
    · intro m n changedM changedN
      have first := entryOf_of_changed changedM
      rw [entryOf_of_changed changedN] at first
      exact (Option.some.inj first).symm
    · intro n changed
      have found := entryOf_of_changed changed
      refine ⟨?_, entryOf_eq_some found⟩
      rcases regular n with cleared | queued | running
      · exact absurd (changes_cleared found cleared) changed
      · exact absurd ⟨n, found, queued, (changes_queued_iff found queued).mp changed⟩ safe
      · exact running

end Pids

end TaskList

namespace TaskManager

/-- The report of a running task brings a pid that no entry in use carries, and no pid
overflows `NextPID`. -/
def FreshPids (s : TaskManager) : Action → Prop
  | .PMRunningTask msgTask =>
      msgTask.pid ≠ Int32.maxValue ∧
      (s.taskList.AnyInactive = true → msgTask.pid ≠ 0 →
        ∀ n, (s.taskList n).state ≠ .INACTIVE → (s.taskList n).pid ≠ msgTask.pid.toUInt32)
  | .SchedulerPlace => s.NextPID ≠ Int32.maxValue
  | _ => True

/-- The pids in use are unique, and each was given out before or is a negative `long`. -/
structure PidsKnown (s : TaskManager) : Prop where
  unique : s.taskList.PidsUnique
  positive : 0 < s.NextPID.toInt
  given : ∀ n, (s.taskList n).state ≠ .INACTIVE → (s.taskList n).pid ≠ 0 →
    ((s.taskList n).pid.toNat : Int) < s.NextPID.toInt ∨ 2147483648 ≤ (s.taskList n).pid.toNat

section Runs

variable {s s' : TaskManager} {a : Action} {out : List TMMessage}

/-- Pids stay known when no entry comes into use with one and the counter stays. -/
theorem PidsKnown.of_kept (known : s.PidsKnown) (counter : s'.NextPID = s.NextPID)
    (kept : ∀ n, (s'.taskList n).state ≠ .INACTIVE → (s'.taskList n).pid ≠ 0 →
      (s.taskList n).state ≠ .INACTIVE ∧ (s'.taskList n).pid = (s.taskList n).pid) :
    s'.PidsKnown where
  unique := known.unique.of_kept kept
  positive := by
    rw [counter]
    exact known.positive
  given n used nonzero := by
    obtain ⟨old, pid⟩ := kept n used nonzero
    rw [pid] at nonzero ⊢
    rw [counter]
    exact known.given n old nonzero

/-- Pids stay known when one entry takes a fresh pid below the new counter. -/
theorem PidsKnown.modify {n : Fin NUMTASKS} {f : Task → Task} (known : s.PidsKnown)
    (tasks : s'.taskList = s.taskList.modify n f)
    (counter : s.NextPID.toInt ≤ s'.NextPID.toInt)
    (fresh : (f (s.taskList n)).pid ≠ 0 → ∀ m, m ≠ n → (s.taskList m).state ≠ .INACTIVE →
      (s.taskList m).pid ≠ (f (s.taskList n)).pid)
    (below : ((f (s.taskList n)).pid.toNat : Int) < s'.NextPID.toInt ∨
      2147483648 ≤ (f (s.taskList n)).pid.toNat) : s'.PidsKnown where
  unique := by
    rw [tasks]
    exact known.unique.modify fresh
  positive := lt_of_lt_of_le known.positive counter
  given m used nonzero := by
    rw [tasks] at used nonzero ⊢
    by_cases here : m = n
    · subst here
      rw [TaskList.modify_self]
      exact below
    · rw [TaskList.modify_of_ne here] at used nonzero ⊢
      rcases known.given m used nonzero with before | negative
      · exact .inl (lt_of_lt_of_le before counter)
      · exact .inr negative

theorem pidsKnown_start : start.PidsKnown where
  unique := TaskList.pidsUnique_clearList
  positive := by decide
  given _ used := absurd rfl used

/-- A report of a running task. -/
theorem PidsKnown.runningTask {msgTask : SDMTask} (known : s.PidsKnown)
    (fresh : s.FreshPids (.PMRunningTask msgTask)) :
    (s.PMRunningTaskHandler msgTask).PidsKnown := by
  obtain ⟨room, unused⟩ := fresh
  have tasks := pmRunningTaskHandler_taskList (s := s) msgTask
  have counter := pmRunningTaskHandler_NextPID (s := s) msgTask
  have grows : s.NextPID.toInt ≤ (s.PMRunningTaskHandler msgTask).NextPID.toInt ∧
      msgTask.pid.toInt < (s.PMRunningTaskHandler msgTask).NextPID.toInt := by
    rw [counter]
    split
    · rename_i larger
      have le := Int32.le_iff_toInt_le.mp larger
      rw [toInt_succ room]
      omega
    · rename_i smaller
      have lt := mt Int32.le_iff_toInt_le.mpr smaller
      exact ⟨le_refl _, Int.not_le.mp lt⟩
  cases free : s.taskList.firstIn .INACTIVE with
  | none =>
      rw [TaskList.addTo_of_full free] at tasks
      constructor
      · rw [tasks]
        exact known.unique
      · exact lt_of_lt_of_le known.positive grows.1
      · intro n used nonzero
        rw [tasks] at used nonzero ⊢
        rcases known.given n used nonzero with before | negative
        · exact .inl (lt_of_lt_of_le before grows.1)
        · exact .inr negative
  | some k =>
      rw [TaskList.addTo_of_room free] at tasks
      refine known.modify tasks grows.1 ?_ ?_
      · intro nonzero m _ used
        have some_free : s.taskList.AnyInactive = true := by
          rw [TaskList.AnyInactive, free]
          rfl
        refine unused some_free ?_ m used
        intro zero
        apply nonzero
        show msgTask.pid.toUInt32 = 0
        rw [zero]
        rfl
      · show (msgTask.pid.toUInt32.toNat : Int) < _ ∨ 2147483648 ≤ msgTask.pid.toUInt32.toNat
        by_cases nonneg : 0 ≤ msgTask.pid.toInt
        · left
          rw [toNat_toUInt32_of_nonneg nonneg]
          exact grows.2
        · right
          exact le_toNat_toUInt32_of_neg (Int.not_le.mp nonneg)

/-- A placement gives the next pid. -/
theorem PidsKnown.placed {n : Fin NUMTASKS} {r : PmRecord} (known : s.PidsKnown)
    (room : s.NextPID ≠ Int32.maxValue) : (s.placed n r).PidsKnown := by
  have next : (s.placed n r).NextPID.toInt = s.NextPID.toInt + 1 := toInt_succ room
  have pid := toNat_toUInt32_of_nonneg (le_of_lt known.positive)
  refine known.modify rfl (by omega) ?_ ?_
  · intro _ m _ used same
    have value : (s.taskList m).pid.toNat = s.NextPID.toUInt32.toNat := by rw [same]; rfl
    have high := Int32.toInt_le s.NextPID
    have top : Int32.maxValue.toInt = 2147483647 := rfl
    have positive := known.positive
    have nonzero : (s.taskList m).pid ≠ 0 := by
      intro zero
      rw [zero] at value
      have : (0 : UInt32).toNat = 0 := rfl
      omega
    have given := known.given m used nonzero
    omega
  · left
    show (s.NextPID.toUInt32.toNat : Int) < _
    omega

/-- Every step that brings fresh pids keeps them known. -/
theorem PidsKnown.step (known : s.PidsKnown) (coherent : s.Coherent) (fresh : s.FreshPids a)
    (taken : machine.step s a = some (s', out)) : s'.PidsKnown := by
  cases stepped coherent.records taken with
  | regPM msgReg =>
      refine known.of_kept (regPMHandler_NextPID msgReg) ?_
      intro n used _
      rw [regPMHandler_taskList] at used ⊢
      exact ⟨used, rfl⟩
  | postTask msgPostTask =>
      cases free : s.taskList.firstIn .INACTIVE with
      | none =>
          refine known.of_kept rfl ?_
          intro n used _
          rw [PostTask, TaskList.addTo_of_full free] at used ⊢
          exact ⟨used, rfl⟩
      | some k =>
          have positive := known.positive
          refine known.modify (TaskList.addTo_of_room free) (le_refl _) ?_ (.inl positive)
          intro nonzero
          exact absurd rfl nonzero
  | runningTask msgTask => exact known.runningTask fresh
  | taskFinished msgFinished =>
      refine known.of_kept rfl ?_
      intro n used nonzero
      have kept := TaskList.taskFinished_kept used nonzero
      exact ⟨kept ▸ used, congrArg Task.pid kept⟩
  | poll uiLastSeconds => exact ⟨known.unique, known.positive, known.given⟩
  | choose uiCurSeconds _ searched =>
      refine known.of_kept searched.NextPID ?_
      intro n used _
      rw [searched.tasks.state] at used
      exact ⟨used, searched.tasks.pid n⟩
  | wakeReset n t r => exact ⟨known.unique, known.positive, known.given⟩
  | wake n t r => exact ⟨known.unique, known.positive, known.given⟩
  | place n t r filename => exact known.placed fresh
  | sendHeartbeatToAll => exact ⟨known.unique, known.positive, known.given⟩
  | heartbeatReceived source => exact ⟨known.unique, known.positive, known.given⟩
  | removeAnyFailed => exact ⟨known.unique, known.positive, known.given⟩
  | pmFailure PMID =>
      refine known.of_kept rfl ?_
      intro n used nonzero
      have pid : ((s.taskList.PMFailure PMID).2 n).pid = (s.taskList n).pid :=
        TaskList.pmFailure_pid
      refine ⟨?_, pid⟩
      intro inactive
      have cleared := coherent.tasks.eq_init inactive
      rw [pid, cleared] at nonzero
      exact nonzero rfl
  | clearList =>
      refine known.of_kept rfl ?_
      intro n used _
      exact absurd rfl used
  | clearAllRunningTasks resets => exact ⟨known.unique, known.positive, known.given⟩

/-- **Task identity.** In every run whose reports bring fresh pids, no two entries in use
share a pid, and a finish report changes at most one entry, a running one with its pid,
exactly when it does not hit a queued entry. -/
theorem task_identity (run : machine.Reaches FreshPids start s) :
    s.taskList.PidsUnique ∧
      ∀ p, s.taskList.FinishesOneScheduled p ↔ ¬ s.taskList.HitsQueued p := by
  have invariant : s.Coherent ∧ s.PidsKnown := by
    refine run.invariant (I := fun s => s.Coherent ∧ s.PidsKnown)
      ⟨coherent_start, pidsKnown_start⟩ ?_
    rintro s a s' out ⟨coherent, known⟩ fresh taken
    exact ⟨coherent.step taken, known.step coherent fresh taken⟩
  exact ⟨invariant.2.unique, fun p => TaskList.finishesOneScheduled_iff invariant.1.tasks⟩

/-- A report of a running task under pid 7. -/
def report : SDMTask := ⟨⟨0, 1, PORT_PM⟩, 0, .empty, 7, 0⟩

/-- A task to run once. -/
def post : SDMPostTask := ⟨0, 1, 0, MODE_NORMAL, 0, .empty⟩

/-- Two tasks have been reported, and a third one is queued. -/
def reportedTwo : TaskManager :=
  ((start.PMRunningTaskHandler report).PMRunningTaskHandler { report with pid := 8 }).PostTask post

/-- The finish report of the second task changes the entry of this task alone. -/
theorem task_identity_two_reports :
    reportedTwo.taskList.PidsUnique ∧ reportedTwo.taskList.FinishesOneScheduled 8 := by
  have first : start.FreshPids (.PMRunningTask report) := ⟨by decide, by decide +kernel⟩
  have second :
      (start.PMRunningTaskHandler report).FreshPids (.PMRunningTask { report with pid := 8 }) :=
    ⟨by decide, by decide +kernel⟩
  have run : machine.Reaches FreshPids start reportedTwo :=
    .step (a := .PostTask post) (.step (a := .PMRunningTask { report with pid := 8 })
      (.step (a := .PMRunningTask report) .start first rfl) second rfl) trivial rfl
  obtain ⟨unique, finishes⟩ := task_identity run
  refine ⟨unique, (finishes 8).mpr ?_⟩
  rintro ⟨n, found, queued, -⟩
  have named : reportedTwo.taskList.entryOf 8 = some ⟨1, by decide⟩ := by decide +kernel
  obtain rfl : ⟨1, by decide⟩ = n := Option.some.inj (named.symm.trans found)
  revert queued
  decide +kernel

/-- A process manager that reports a task twice fills two entries with its pid, and a finish
report of pid 0 deletes a task that is still queued. -/
theorem not_task_identity :
    (¬ ∀ s, machine.Reachable start s → s.taskList.PidsUnique) ∧
      ¬ ∀ s, machine.Reachable start s → ∀ p, s.taskList.FinishesOneScheduled p := by
  constructor
  · intro all
    have run : machine.Reachable start
        ((start.PMRunningTaskHandler report).PMRunningTaskHandler report) :=
      .next (a := .PMRunningTask report) (.next (a := .PMRunningTask report) .start rfl) rfl
    have same := all _ run ⟨0, by decide⟩ ⟨1, by decide⟩ (by decide +kernel) (by decide +kernel)
      (by decide +kernel) (by decide +kernel)
    exact absurd same (by decide)
  · intro all
    have run : machine.Reachable start (start.PostTask post) :=
      .next (a := .PostTask post) .start rfl
    have running := (all _ run 0).2 ⟨0, by decide⟩ (by decide +kernel)
    exact absurd running.1 (by decide +kernel)

/-- A step other than the failure of a process manager queues tasks under pid 0 only. -/
theorem queuedUnnamed_step (unnamed : s.taskList.QueuedUnnamed) (coherent : s.Coherent)
    (other : a ≠ .PMFailure) (taken : machine.step s a = some (s', out)) :
    s'.taskList.QueuedUnnamed := by
  cases stepped coherent.records taken with
  | regPM msgReg =>
      rw [regPMHandler_taskList]
      exact unnamed
  | postTask msgPostTask => exact unnamed.addTo fun _ => rfl
  | runningTask msgTask =>
      rw [pmRunningTaskHandler_taskList]
      exact unnamed.addTo fun queued => nomatch queued
  | taskFinished msgFinished => exact unnamed.taskFinished _
  | poll uiLastSeconds => exact unnamed
  | choose uiCurSeconds _ searched =>
      intro n queued
      rw [searched.tasks.state] at queued
      rw [searched.tasks.pid]
      exact unnamed n queued
  | wakeReset n t r => exact unnamed
  | wake n t r => exact unnamed
  | place n t r filename => exact unnamed.modify fun queued => nomatch queued
  | sendHeartbeatToAll => exact unnamed
  | heartbeatReceived source => exact unnamed
  | removeAnyFailed => exact unnamed
  | pmFailure PMID => exact absurd rfl other
  | clearList => exact fun _ queued => nomatch queued
  | clearAllRunningTasks resets => exact unnamed

/-- Before any process manager fails, only a report of pid 0 hits a queued entry. -/
theorem hitsQueued_eq_zero {p : UInt32} (run : machine.Reaches (fun _ a => a ≠ .PMFailure) start s)
    (hits : s.taskList.HitsQueued p) : p = 0 := by
  have invariant : s.Coherent ∧ s.taskList.QueuedUnnamed := by
    refine run.invariant (I := fun s => s.Coherent ∧ s.taskList.QueuedUnnamed) ?_ ?_
    · exact ⟨coherent_start, fun _ queued => nomatch queued⟩
    · rintro s a s' out ⟨coherent, unnamed⟩ other taken
      exact ⟨coherent.step taken, queuedUnnamed_step unnamed coherent other taken⟩
  obtain ⟨n, found, queued, _⟩ := hits
  rw [← TaskList.entryOf_eq_some found]
  exact invariant.2 n queued

end Runs

end TaskManager

end Sdm
