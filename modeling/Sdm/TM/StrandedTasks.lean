import Sdm.TM.LoadAccounting

/-!
Stranded tasks: running tasks and the failure of the process manager that runs them.

The `Scheduler` chooses a process manager before it sleeps and places the task on it after.
`PMFailure` goes by the identifier that an entry names, whatever the state of the entry.

* `no_task_stranded`: every task that the `Scheduler` placed runs on a process manager that
  is registered or whose failure is still to be handled, in every run in which the choice
  still stands when the task is placed; and `PMFailure` fails exactly the tasks that run on
  the process manager when no queued entry names it and every entry that runs on it does.
-/

namespace Sdm

open Sdm.Lib

namespace TaskManager

/-- The process manager is registered, or its tasks are about to be failed. -/
def Covered (s : TaskManager) (PMID : SDMComponentID) : Prop :=
  (∃ i, (s.pmList.pmList i).in_use = true ∧ (s.pmList.pmList i).component_id = PMID) ∨
    s.pmHeartbeat = some PMID

instance (s : TaskManager) (PMID : SDMComponentID) : Decidable (s.Covered PMID) :=
  instDecidableOr

/-- The entries whose task the `Scheduler` placed, and no process manager reported. -/
def placedBy (byScheduler : Fin NUMTASKS → Bool) (s : TaskManager) : Action → Fin NUMTASKS → Bool
  | .PMRunningTask _ =>
      match s.taskList.firstIn .INACTIVE with
      | some n => Function.update byScheduler n false
      | none => byScheduler
  | .SchedulerPlace =>
      match s.scheduler with
      | .placing n _ _ => Function.update byScheduler n true
      | _ => byScheduler
  | _ => byScheduler

/-- Runs of the Task Manager with the history of each entry: who runs its task, and who
brought it there. -/
def placedRuns : Machine ((TaskManager × (Fin NUMTASKS → UInt32)) × (Fin NUMTASKS → Bool)) Action
    (List TMMessage) :=
  hostedRuns.withGhost fun byScheduler q a _ => placedBy byScheduler q.1 a

/-- Every task that the `Scheduler` placed runs on a process manager that is covered. -/
def NoneStranded (s : TaskManager) (byScheduler : Fin NUMTASKS → Bool) : Prop :=
  ∀ n, (s.taskList n).state = .SCHEDULED → byScheduler n = true →
    s.Covered (s.taskList n).pmComponentID

instance (s : TaskManager) (byScheduler : Fin NUMTASKS → Bool) :
    Decidable (s.NoneStranded byScheduler) :=
  Fintype.decidableForallFintype

/-- The process manager that was chosen for a task with a timeout is still covered when the
task is placed. -/
def ChoiceStands (s : TaskManager) : Action → Prop
  | .SchedulerPlace =>
      ∀ n t r, s.scheduler = .placing n t r → t.timeout ≠ 0 → s.Covered r.component_id
  | _ => True

instance (s : TaskManager) : (a : Action) → Decidable (s.ChoiceStands a)
  | .SchedulerPlace =>
      match phase : s.scheduler with
      | .placing _ t r =>
          decidable_of_iff (t.timeout ≠ 0 → s.Covered r.component_id)
            ⟨fun stands _ _ _ same => by cases phase.symm.trans same; exact stands,
              fun stands => stands _ _ _ phase⟩
      | .searching => isTrue fun _ _ _ other => nomatch phase.symm.trans other
      | .sleeping _ _ _ => isTrue fun _ _ _ other => nomatch phase.symm.trans other
  | .RegPM _ | .PostTask _ | .PMRunningTask _ | .TaskFinished _ | .SchedulerPoll
  | .SchedulerChoose _ | .SchedulerWake | .SendHeartbeatToAll | .HeartbeatReceived _
  | .RemoveAnyFailed | .PMFailure | .ClearList | .ClearAllRunningTasks => instDecidableTrue

/-- `PMFailure` sends an error for, and queues again, exactly the entries that run on the
process manager. -/
structure FailsExactly (s : TaskManager) (host : Fin NUMTASKS → UInt32) (PMID : SDMComponentID) :
    Prop where
  errors : ∀ n, n ∈ s.taskList.entriesOn PMID ↔ s.taskList.RunsOn host PMID.address n
  queued : ∀ n, ((s.taskList n).state ≠ .PENDING ∧
    ((s.taskList.PMFailure PMID).2 n).state = .PENDING) ↔ s.taskList.RunsOn host PMID.address n
  others : ∀ n, ¬ s.taskList.RunsOn host PMID.address n →
    (s.taskList.PMFailure PMID).2 n = s.taskList n

/-- No queued entry names the process manager, and every entry that runs on it does. -/
structure NamedByRunning (s : TaskManager) (host : Fin NUMTASKS → UInt32) (PMID : SDMComponentID) :
    Prop where
  queued : ∀ n, (s.taskList n).state = .PENDING → (s.taskList n).pmComponentID ≠ PMID
  running : ∀ n, s.taskList.RunsOn host PMID.address n → (s.taskList n).pmComponentID = PMID

/-- The `Scheduler` sleeps for a timeout only, and its choice for a task without one stands
until the task is placed. -/
structure ChoiceKept (s : TaskManager) : Prop where
  sleeping : ∀ n t r, s.scheduler = .sleeping n t r → t.timeout ≠ 0
  placing : ∀ n t r, s.scheduler = .placing n t r → t.timeout = 0 → s.Covered r.component_id

section Steps

variable {s s' : TaskManager} {host : Fin NUMTASKS → UInt32} {byScheduler : Fin NUMTASKS → Bool}
  {a : Action} {out : List TMMessage} {PMID : SDMComponentID}

/-! ### Covered process managers -/

/-- A registration keeps the records that are in use. -/
theorem regPMHandler_record {msgReg : SDMRegPM} {i : Fin MAX_PM}
    (used : (s.pmList.pmList i).in_use = true) :
    (s.RegPMHandler msgReg).pmList.pmList i = s.pmList.pmList i := by
  by_cases refused : s.pmList.Registered msgReg.source.address ∨ s.pmList.freeSlot = none
  · rw [regPMHandler_of_refused refused]
  · obtain ⟨absent, room⟩ := not_or.mp refused
    obtain ⟨k, free⟩ := Option.ne_none_iff_exists'.mp room
    have ne : i ≠ k := by
      rintro rfl
      rw [PMRecordList.freeSlot_eq_some free] at used
      cases used
    rw [regPMHandler_of_free absent free, PMRecordList.modify_pmList_of_ne ne]

theorem Covered.of_same (covered : s.Covered PMID) (records : s.pmList.SameRecords s'.pmList)
    (failing : s'.pmHeartbeat = s.pmHeartbeat) : s'.Covered PMID := by
  rcases covered with ⟨i, used, same⟩ | removed
  · left
    exact ⟨i, (records.in_use i).trans used, (records.component_id i).trans same⟩
  · right
    exact failing.trans removed

/-- A process manager stays covered until its tasks have been failed. -/
theorem Covered.step (covered : s.Covered PMID) (coherent : s.Coherent)
    (taken : machine.step s a = some (s', out))
    (pending : a = .PMFailure → s.pmHeartbeat ≠ some PMID) : s'.Covered PMID := by
  cases stepped coherent.records taken with
  | regPM msgReg =>
      rcases covered with ⟨i, used, same⟩ | removed
      · left
        refine ⟨i, ?_, ?_⟩
        · rw [regPMHandler_record used]
          exact used
        · rw [regPMHandler_record used]
          exact same
      · right
        rw [regPMHandler_pmHeartbeat]
        exact removed
  | postTask msgPostTask => exact covered.of_same (.refl _) rfl
  | runningTask msgTask =>
      exact covered.of_same (pmRunningTaskHandler_sameRecords msgTask)
        (pmRunningTaskHandler_pmHeartbeat msgTask)
  | taskFinished msgFinished => exact covered.of_same PMRecordList.sameRecords_taskFinished rfl
  | poll uiLastSeconds => exact covered.of_same (.refl _) rfl
  | choose uiCurSeconds _ searched =>
      exact covered.of_same (PMRecordList.sameRecords_of_eq searched.pmList) searched.pmHeartbeat
  | wakeReset n t r => exact covered.of_same (.refl _) rfl
  | wake n t r => exact covered.of_same (.refl _) rfl
  | place n t r filename => exact covered.of_same PMRecordList.sameRecords_taskHasStarted rfl
  | sendHeartbeatToAll => exact covered.of_same PMRecordList.sameRecords_sendHeartbeatToAll rfl
  | heartbeatReceived source =>
      exact covered.of_same PMRecordList.sameRecords_heartbeatReceived rfl
  | removeAnyFailed none_failing =>
      rcases covered with ⟨i, used, same⟩ | removed
      · cases failed : s.pmList.failedSlot with
        | none =>
            left
            rw [PMRecordList.removeAnyFailed_of_none failed]
            exact ⟨i, used, same⟩
        | some k =>
            rw [PMRecordList.removeAnyFailed_of_failed failed]
            by_cases here : i = k
            · subst here
              right
              exact congrArg some same
            · left
              refine ⟨i, ?_, ?_⟩
              · rw [PMRecordList.modify_pmList_of_ne here]
                exact used
              · rw [PMRecordList.modify_pmList_of_ne here]
                exact same
      · rw [none_failing] at removed
        cases removed
  | pmFailure removed failing =>
      rcases covered with registered | removed'
      · exact .inl registered
      · exact absurd removed' (pending rfl)
  | clearList => exact covered.of_same (.refl _) rfl
  | clearAllRunningTasks resets =>
      exact covered.of_same PMRecordList.sameRecords_clearAllRunningTasks rfl

/-! ### The choice of the Scheduler -/

/-- The choice is kept by a step that leaves the `Scheduler` alone. -/
theorem ChoiceKept.of_same (kept : s.ChoiceKept) (coherent : s.Coherent)
    (taken : machine.step s a = some (s', out)) (same : s'.scheduler = s.scheduler)
    (other : a ≠ .PMFailure) : s'.ChoiceKept where
  sleeping n t r phase := kept.sleeping n t r (same ▸ phase)
  placing n t r phase immediate := by
    have before := kept.placing n t r (same ▸ phase) immediate
    exact before.step coherent taken fun h => absurd h other

theorem regPMHandler_scheduler {msgReg : SDMRegPM} :
    (s.RegPMHandler msgReg).scheduler = s.scheduler := by
  unfold RegPMHandler
  dsimp only
  split
  · rfl
  · split <;> rfl

theorem pmRunningTaskHandler_scheduler {msgTask : SDMTask} :
    (s.PMRunningTaskHandler msgTask).scheduler = s.scheduler := by
  unfold PMRunningTaskHandler
  dsimp only
  split
  · rfl
  · split <;> rfl

/-- A search has nothing chosen. -/
theorem choiceKept_of_searching (phase : s.scheduler = .searching) : s.ChoiceKept where
  sleeping n t r other := by
    rw [phase] at other
    cases other
  placing n t r other := by
    rw [phase] at other
    cases other

/-- Every step keeps the choice. -/
theorem ChoiceKept.step (kept : s.ChoiceKept) (coherent : s.Coherent)
    (taken : machine.step s a = some (s', out)) : s'.ChoiceKept := by
  cases stepped coherent.records taken with
  | regPM msgReg => exact kept.of_same coherent taken regPMHandler_scheduler nofun
  | postTask msgPostTask => exact kept.of_same coherent taken rfl nofun
  | runningTask msgTask => exact kept.of_same coherent taken pmRunningTaskHandler_scheduler nofun
  | taskFinished msgFinished => exact kept.of_same coherent taken rfl nofun
  | poll uiLastSeconds => exact kept.of_same coherent taken rfl nofun
  | choose uiCurSeconds phase searched =>
      rcases searched.scheduler with same | ⟨n, t, i, used, found⟩
      · exact choiceKept_of_searching (same.trans phase)
      · have registered : s'.Covered (s.pmList.pmList i).component_id := by
          left
          rw [searched.pmList]
          exact ⟨i, used, rfl⟩
        split at found
        · rename_i delayed
          refine ⟨?_, ?_⟩
          · intro n' t' r' phase'
            rw [found] at phase'
            cases phase'
            exact delayed
          · intro n' t' r' phase'
            rw [found] at phase'
            cases phase'
        · refine ⟨?_, ?_⟩
          · intro n' t' r' phase'
            rw [found] at phase'
            cases phase'
          · intro n' t' r' phase' _
            rw [found] at phase'
            cases phase'
            exact registered
  | wakeReset n t r => exact choiceKept_of_searching rfl
  | wake n t r phase =>
      refine ⟨fun _ _ _ other => (nomatch other), ?_⟩
      intro n' t' r' phase' immediate
      cases phase'
      exact absurd immediate (kept.sleeping n t r phase)
  | place n t r filename => exact choiceKept_of_searching rfl
  | sendHeartbeatToAll => exact kept.of_same coherent taken rfl nofun
  | heartbeatReceived source => exact kept.of_same coherent taken rfl nofun
  | removeAnyFailed => exact kept.of_same coherent taken rfl nofun
  | pmFailure PMID _ free =>
      refine ⟨kept.sleeping, ?_⟩
      intro n t r phase
      have busy : s.scheduler = .placing n t r := phase
      rw [listFree, busy] at free
      cases free
  | clearList => exact kept.of_same coherent taken rfl nofun
  | clearAllRunningTasks resets => exact kept.of_same coherent taken rfl nofun

/-! ### Running tasks -/

theorem placedBy_of_room {msgTask : SDMTask} {n : Fin NUMTASKS}
    (room : s.taskList.firstIn .INACTIVE = some n) :
    placedBy byScheduler s (.PMRunningTask msgTask) n = false := by
  unfold placedBy
  dsimp only
  rw [room]
  exact Function.update_self n _ _

theorem placedBy_place {n : Fin NUMTASKS} {t : Task} {r : PmRecord}
    (phase : s.scheduler = .placing n t r) :
    placedBy byScheduler s .SchedulerPlace = Function.update byScheduler n true := by
  unfold placedBy
  dsimp only
  rw [phase]

theorem placedBy_of_ne {n : Fin NUMTASKS} (other : s.starts a ≠ some n) :
    placedBy byScheduler s a n = byScheduler n := by
  cases a with
  | PMRunningTask msgTask =>
      unfold placedBy
      dsimp only
      cases room : s.taskList.firstIn .INACTIVE with
      | none => rfl
      | some k =>
          rw [starts, room] at other
          exact Function.update_of_ne (fun h => other (congrArg some h.symm)) _ _
  | SchedulerPlace =>
      cases phase : s.scheduler with
      | placing k t r =>
          rw [placedBy_place phase]
          rw [starts_of_place phase] at other
          exact Function.update_of_ne (fun h => other (congrArg some h.symm)) _ _
      | searching =>
          unfold placedBy
          dsimp only
          rw [phase]
      | sleeping k t r =>
          unfold placedBy
          dsimp only
          rw [phase]
  | _ => rfl

/-- A task that still runs after the failure of a process manager does not name it. -/
theorem StillRuns.pmFailure_ne {n : Fin NUMTASKS} (taken : machine.step s a = some (s', out))
    (coherent : s.Coherent) (running : (s'.taskList n).state = .SCHEDULED)
    (failure : a = .PMFailure) : s.pmHeartbeat ≠ some (s.taskList n).pmComponentID := by
  subst failure
  cases stepped coherent.records taken with
  | pmFailure PMID removed =>
      have off := (pmFailure_scheduled running).1
      rw [removed]
      exact fun h => off (Option.some_inj.mp h).symm

/-- A step strands no task exactly when the choice for the task that it places stands. -/
theorem noneStranded_step_iff (coherent : s.Coherent) (choice : s.ChoiceKept)
    (none : s.NoneStranded byScheduler) (taken : machine.step s a = some (s', out)) :
    s'.NoneStranded (placedBy byScheduler s a) ↔ s.ChoiceStands a := by
  have still : ∀ n, (s'.taskList n).state = .SCHEDULED → StillRuns s s' a n →
      placedBy byScheduler s a n = true → s'.Covered (s'.taskList n).pmComponentID := by
    intro n running kept placed
    rw [placedBy_of_ne kept.other] at placed
    rw [kept.pmComponentID]
    exact (none n kept.running placed).step coherent taken
      (StillRuns.pmFailure_ne taken coherent running)
  constructor
  · intro after
    cases a with
    | SchedulerPlace =>
        intro n t r phase _
        cases stepped coherent.records taken with
        | place n' t' r' filename phase' =>
            rw [phase] at phase'
            cases phase'
            have there := after n (congrArg Task.state placed_self) (by
              rw [placedBy_place phase]
              exact Function.update_self n _ _)
            rw [placed_self] at there
            rcases there with ⟨i, used, same⟩ | removed
            · left
              have records : s.pmList.SameRecords (s.pmList.TaskHasStarted r.component_id).2 :=
                PMRecordList.sameRecords_taskHasStarted
              exact ⟨i, (records.in_use i).symm.trans used,
                (records.component_id i).symm.trans same⟩
            · exact .inr removed
    | _ => exact trivial
  · intro stands n running placed
    rcases running_cases coherent taken running with
      kept | ⟨_, rfl, room, _⟩ | ⟨t, r, rfl, phase, on⟩
    · exact still n running kept placed
    · rw [placedBy_of_room room] at placed
      cases placed
    · rw [on]
      have before : s.Covered r.component_id := by
        by_cases immediate : t.timeout = 0
        · exact choice.placing n t r phase immediate
        · exact stands n t r phase immediate
      exact before.step coherent taken nofun

/-! ### The failure of a process manager -/

/-- `PMFailure` fails exactly the entries that run on the process manager, when these are
the entries that name it. -/
theorem failsExactly_iff (coherent : s.Coherent) (named : s.HostsNamed host)
    (removed : s.pmHeartbeat = some PMID) :
    s.FailsExactly host PMID ↔ s.NamedByRunning host PMID := by
  constructor
  · intro exactly
    constructor
    · intro n queued on
      have running := (exactly.errors n).mp (TaskList.mem_entriesOn.mpr on)
      rw [running.1] at queued
      cases queued
    · intro n running
      exact TaskList.mem_entriesOn.mp ((exactly.errors n).mpr running)
  · intro names
    have runs : ∀ n, (s.taskList n).pmComponentID = PMID ↔
        s.taskList.RunsOn host PMID.address n := by
      refine fun n => ⟨fun on => ?_, names.running n⟩
      have unnamed : (s.taskList n).pmComponentID ≠ .zero := by
        intro zero
        have port := coherent.failing PMID removed
        rw [← on, zero] at port
        exact absurd port (by decide)
      rcases coherent.tasks n with cleared | queued | running
      · exact absurd (congrArg Task.pmComponentID cleared) unnamed
      · exact absurd on (names.queued n queued)
      · refine ⟨running, ?_⟩
        rw [(named n running).resolve_left unnamed, on]
    constructor
    · intro n
      rw [TaskList.mem_entriesOn, runs]
    · intro n
      rw [← runs]
      constructor
      · rintro ⟨before, after⟩
        by_contra off
        have kept : (s.taskList.PMFailure PMID).2 n = s.taskList n := if_neg off
        rw [kept] at after
        exact before after
      · intro on
        exact ⟨fun queued => names.queued n queued on, congrArg Task.state (if_pos on)⟩
    · intro n idle
      exact if_neg (mt (runs n).mp idle)

/-- **No task is stranded.** In every run in which the choice of the `Scheduler` still
stands when it places a task, every task that it placed runs on a covered process manager; a
further step keeps this exactly when its choice stands too. `PMFailure` fails exactly the
tasks that run on the process manager when these are the entries that name it. -/
theorem no_task_stranded (run : placedRuns.Reaches (fun q a => q.1.1.ChoiceStands a)
    ((start, fun _ => 0), fun _ => false) ((s, host), byScheduler)) :
    s.NoneStranded byScheduler ∧
      (∀ a s' out, machine.step s a = some (s', out) →
        (s'.NoneStranded (placedBy byScheduler s a) ↔ s.ChoiceStands a)) ∧
      ∀ PMID, s.pmHeartbeat = some PMID →
        (s.FailsExactly host PMID ↔ s.NamedByRunning host PMID) := by
  have invariant : s.Coherent ∧ s.HostsNamed host ∧ s.ChoiceKept ∧ s.NoneStranded byScheduler := by
    refine run.invariant (I := fun q => q.1.1.Coherent ∧ q.1.1.HostsNamed q.1.2 ∧
      q.1.1.ChoiceKept ∧ q.1.1.NoneStranded q.2) ?_ ?_
    · exact ⟨coherent_start, fun _ running => (nomatch running), choiceKept_of_searching rfl,
        fun _ running => (nomatch running)⟩
    · rintro ⟨⟨s, host⟩, byScheduler⟩ a ⟨⟨s', host'⟩, byScheduler'⟩ out
        ⟨coherent, named, choice, none⟩ stands recorded
      obtain ⟨hosted, rfl⟩ := Machine.withGhost_step_eq_some.mp recorded
      obtain ⟨taken, rfl⟩ := Machine.withGhost_step_eq_some.mp hosted
      exact ⟨coherent.step taken, named.step coherent taken, choice.step coherent taken,
        (noneStranded_step_iff coherent choice none taken).mpr stands⟩
  obtain ⟨coherent, named, choice, none⟩ := invariant
  exact ⟨none, fun _ _ _ => noneStranded_step_iff coherent choice none,
    fun _ => failsExactly_iff coherent named⟩

/-- A task to run in a while. -/
def delayed : SDMPostTask := ⟨0, 1, 5, MODE_NORMAL, 0, .empty⟩

/-- A task to run again whenever it finishes. -/
def recurring : SDMPostTask := ⟨0, 1, 0, MODE_ALWAYS_RUNNING, 0, .empty⟩

/-- The finish report of the first task. -/
def firstFinish : SDMTaskFinished := ⟨⟨0, 1, PORT_PM⟩, 0, .empty, 1⟩

/-- Two process managers get a task each, the first one after a timeout, and then the first
process manager fails. -/
def firstFails : List Action :=
  [.RegPM arrival, .PostTask delayed, .SchedulerChoose 0, .SchedulerWake, .SchedulerPlace,
    .RegPM ⟨⟨0, 2, PORT_PM⟩, 0⟩, .PostTask recurring, .SchedulerChoose 0, .SchedulerPlace,
    .SendHeartbeatToAll, .HeartbeatReceived ⟨0, 2, PORT_PM⟩, .SendHeartbeatToAll,
    .RemoveAnyFailed]

/-- After `firstFails` both tasks run on covered process managers, and `PMFailure` fails the
first and leaves the second. -/
theorem no_task_stranded_first_fails :
    ∃ s host byScheduler,
      placedRuns.execGuarded (fun q a => q.1.1.ChoiceStands a)
        ((start, fun _ => 0), fun _ => false) firstFails = some ((s, host), byScheduler) ∧
      s.Covered (s.taskList ⟨0, by decide⟩).pmComponentID ∧
      s.Covered (s.taskList ⟨1, by decide⟩).pmComponentID ∧
      ((s.taskList.PMFailure ⟨0, 1, PORT_PM⟩).2 ⟨0, by decide⟩).state = .PENDING ∧
      (s.taskList.PMFailure ⟨0, 1, PORT_PM⟩).2 ⟨1, by decide⟩ = s.taskList ⟨1, by decide⟩ := by
  have ran : ((placedRuns.execGuarded (fun q a => q.1.1.ChoiceStands a)
      ((start, fun _ => 0), fun _ => false) firstFails).map fun q => decide
        (q.1.1.pmHeartbeat = some ⟨0, 1, PORT_PM⟩ ∧
        ((q.1.1.taskList ⟨0, by decide⟩).state = .SCHEDULED ∧ q.2 ⟨0, by decide⟩ = true ∧
          q.1.2 ⟨0, by decide⟩ = 1) ∧
        ((q.1.1.taskList ⟨1, by decide⟩).state = .SCHEDULED ∧ q.2 ⟨1, by decide⟩ = true ∧
          q.1.2 ⟨1, by decide⟩ = 2) ∧
        (∀ n, (q.1.1.taskList n).state = .PENDING →
          (q.1.1.taskList n).pmComponentID ≠ ⟨0, 1, PORT_PM⟩) ∧
        ∀ n, q.1.1.taskList.RunsOn q.1.2 1 n →
          (q.1.1.taskList n).pmComponentID = ⟨0, 1, PORT_PM⟩)) = some true := by
    decide +kernel
  obtain ⟨⟨⟨s, host⟩, byScheduler⟩, done, reached⟩ := Option.map_eq_some_iff.mp ran
  obtain ⟨failing, ⟨runs₀, placed₀, on₀⟩, ⟨runs₁, placed₁, on₁⟩, queued, running⟩ :=
    of_decide_eq_true reached
  obtain ⟨none, -, fails⟩ := no_task_stranded (.execGuarded .start done)
  have exactly := (fails _ failing).mpr ⟨queued, running⟩
  refine ⟨s, host, byScheduler, done, none _ runs₀ placed₀, none _ runs₁ placed₁, ?_, ?_⟩
  · exact ((exactly.queued _).mpr ⟨runs₀, on₀⟩).2
  · refine exactly.others _ fun on => ?_
    exact absurd (on₁.symm.trans on.2) (by decide)

/-- A process manager that fails while the `Scheduler` sleeps gets the task all the same; and
the failure of a process manager hits a task that finished on it and is queued again. -/
theorem not_no_task_stranded :
    (¬ ∀ s host byScheduler, placedRuns.Reachable ((start, fun _ => 0), fun _ => false)
        ((s, host), byScheduler) → s.NoneStranded byScheduler) ∧
      ¬ ∀ s host byScheduler, placedRuns.Reachable ((start, fun _ => 0), fun _ => false)
        ((s, host), byScheduler) →
          ∀ PMID, s.pmHeartbeat = some PMID → s.FailsExactly host PMID := by
  constructor
  · intro all
    have ran : ((placedRuns.exec ((start, fun _ => 0), fun _ => false)
        [.RegPM arrival, .PostTask delayed, .SchedulerChoose 0, .SendHeartbeatToAll,
          .SendHeartbeatToAll, .RemoveAnyFailed, .PMFailure, .SchedulerWake, .SchedulerPlace]).map
        fun q => decide (q.1.1.NoneStranded q.2)) = some false := by
      decide +kernel
    obtain ⟨⟨⟨s, host⟩, byScheduler⟩, done, stranded⟩ := Option.map_eq_some_iff.mp ran
    have none := all s host byScheduler (.exec .start (fun _ _ _ => trivial) done)
    exact absurd none (of_decide_eq_false stranded)
  · intro all
    have ran : ((placedRuns.exec ((start, fun _ => 0), fun _ => false)
        [.RegPM arrival, .PostTask recurring, .SchedulerChoose 0, .SchedulerPlace,
          .TaskFinished firstFinish, .SendHeartbeatToAll, .SendHeartbeatToAll,
          .RemoveAnyFailed]).map
        fun q => decide (q.1.1.pmHeartbeat = some ⟨0, 1, PORT_PM⟩ ∧
          (q.1.1.taskList ⟨0, by decide⟩).pmComponentID = ⟨0, 1, PORT_PM⟩ ∧
          (q.1.1.taskList ⟨0, by decide⟩).state = .PENDING)) = some true := by
      decide +kernel
    obtain ⟨⟨⟨s, host⟩, byScheduler⟩, done, reached⟩ := Option.map_eq_some_iff.mp ran
    obtain ⟨removed, on, queued⟩ := of_decide_eq_true reached
    have exactly := all s host byScheduler (.exec .start (fun _ _ _ => trivial) done) _ removed
    have running := (exactly.errors _).mp (TaskList.mem_entriesOn.mpr on)
    rw [running.1] at queued
    cases queued

end Steps

end TaskManager

end Sdm
