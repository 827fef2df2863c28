import Sdm.TM.LoadBalance
import Sdm.TM.StrandedTasks

/-!
Where the tasks come from that the `Scheduler` sends, and which process managers they go to.

The `Scheduler` works on a copy of the entry it chose and of the record of the process manager. It
may sleep with them, while the entry is finished, failed over, cleared or written again, and while
the process manager is removed.

* `choose_spec`: what a search chooses.
* `Known.step`: every step keeps to what was announced and registered.
* `sent_as_announced`: what is sent was announced, and goes to a process manager that suits it.
-/

namespace Sdm.TaskManager

open Sdm.Lib

/-! ### What the steps of a run bring in -/

/-- What of a task is sent on, and what it needs. -/
structure Announced where
  filename : CString
  priority : Int8
  version : Int32
  resources : SDMTaskResources

/-- A task that is posted, or reported as running. -/
def announces : Action → Option Announced
  | .PostTask m => some ⟨m.filename, m.priority, m.version, ⟨m.resources⟩⟩
  | .PMRunningTask m => some ⟨m.filename, m.priority, 0, .zero⟩
  | _ => none

/-- A process manager that registers, at the port of all process managers. -/
def registers : Action → Option (SDMComponentID × SDMTaskResources)
  | .RegPM m => some ({ m.source with port := PORT_PM }, ⟨m.resources⟩)
  | _ => none

/-- The tasks among what is sent, each with the process manager that it goes to. -/
def tasksSent (out : List TMMessage) : List (SDMComponentID × SDMTask) :=
  out.filterMap fun
    | .SDMTask destination msgTask => some (destination, msgTask)
    | .SDMTaskError _ => none

/-- The process manager is the preferred one of a task, or the task can run on it. The preferred
one is not asked what it can run. -/
def Suits (needs has : SDMTaskResources) : Prop :=
  (needs.IsPreferredPmIdSet = true ∧ has.GetPreferredPmId = needs.GetPreferredPmId) ∨
    (has.GetArch = needs.GetArch ∧ has.GetOs = needs.GetOs ∧ needs.GetMem ≤ has.GetMem)

/-! ### Needs -/

/-- The needs are the same, but for a preferred node that may be gone. -/
structure Loosens (needs needs' : SDMTaskResources) : Prop where
  arch : needs'.GetArch = needs.GetArch
  mem : needs'.GetMem = needs.GetMem
  os : needs'.GetOs = needs.GetOs
  preferred : needs'.IsPreferredPmIdSet = true → needs'.GetPreferredPmId = needs.GetPreferredPmId

section Needs

variable {needs needs' needs'' has : SDMTaskResources}

theorem isPreferredPmIdSet_iff :
    needs.IsPreferredPmIdSet = true ↔ needs.GetPreferredPmId ≠ 0 :=
  bne_iff_ne

theorem Loosens.refl (needs : SDMTaskResources) : Loosens needs needs :=
  ⟨rfl, rfl, rfl, fun _ => rfl⟩

theorem Loosens.trans (first : Loosens needs needs') (second : Loosens needs' needs'') :
    Loosens needs needs'' := by
  refine ⟨second.arch.trans first.arch, second.mem.trans first.mem, second.os.trans first.os, ?_⟩
  intro isSet
  have same := second.preferred isSet
  rw [isPreferredPmIdSet_iff, same] at isSet
  exact same.trans (first.preferred (isPreferredPmIdSet_iff.mpr isSet))

theorem loosens_setPreferredPmNodeId : Loosens needs (needs.SetPreferredPmNodeId 0) := by
  have word : (needs.SetPreferredPmNodeId 0).m_usResources =
      needs.m_usResources &&& (ARCHMASK ||| MEMMASK ||| OSMASK) := by
    rw [SDMTaskResources.SetPreferredPmNodeId]
    exact UInt16.or_zero
  constructor
  · rw [SDMTaskResources.GetArch, word, UInt16.and_assoc]
    rfl
  · rw [SDMTaskResources.GetMem, word, UInt16.and_assoc]
    rfl
  · rw [SDMTaskResources.GetOs, word, UInt16.and_assoc]
    rfl
  · intro isSet
    rw [SDMTaskResources.IsPreferredPmIdSet, word, UInt16.and_assoc, bne_iff_ne] at isSet
    exact absurd UInt16.and_zero isSet

theorem Suits.of_loosens (suits : Suits needs' has) (loosens : Loosens needs needs') :
    Suits needs has := by
  rcases suits with ⟨isSet, node⟩ | ⟨arch, os, mem⟩
  · have same := loosens.preferred isSet
    rw [isPreferredPmIdSet_iff, same] at isSet
    exact .inl ⟨isPreferredPmIdSet_iff.mpr isSet, node.trans same⟩
  · exact .inr ⟨arch.trans loosens.arch, os.trans loosens.os, loosens.mem ▸ mem⟩

end Needs

/-! ### What a search chooses -/

section Search

variable {s : TaskManager} {l : PMRecordList} {TaskResources : SDMTaskResources} {PMData : PmRecord}

theorem suits_of_findPMID (formed : l.WellFormed) (found : l.FindPMID TaskResources = some PMData) :
    ∃ i, (l.pmList i).in_use = true ∧ l.pmList i = PMData ∧
      Suits TaskResources PMData.resources := by
  obtain ⟨i, used, same⟩ := PMRecordList.findPMID_eq_some formed found
  refine ⟨i, used, same, ?_⟩
  rw [PMRecordList.FindPMID] at found
  split at found
  · rename_i preferred
    obtain ⟨j, first, rfl⟩ := Option.map_eq_some_iff.mp found
    have node : TaskResources.GetPreferredPmId = (l.pmList j).resources.GetPreferredPmId :=
      beq_iff_eq.mp (Fin.eq_true_of_find?_eq_some first)
    exact .inl ⟨preferred, node.symm⟩
  · cases found

theorem suits_of_findAnyEligible {jobs j : Nat}
    (found : (PMRecordList.findAnyEligible TaskResources jobs j l).1 = some PMData) :
    ∃ i, (l.pmList i).in_use = true ∧ l.pmList i = PMData ∧
      Suits TaskResources PMData.resources := by
  induction jobs generalizing j l with
  | zero => cases found
  | succ jobs ih =>
      cases first : l.eligibleSlot j TaskResources with
      | some i =>
          rw [PMRecordList.findAnyEligible_of_found first] at found
          cases found
          have fits := (PMRecordList.eligibleSlot_eq_some first).1
          exact ⟨i, fits.in_use, rfl, .inr ⟨fits.arch, fits.os, fits.mem⟩⟩
      | none =>
          rw [PMRecordList.findAnyEligible_of_missed first] at found
          exact ih (l := { l with schedulerInfoIndex := 0 }) found

/-- What a search does: it leaves the entries as they are but for preferred nodes, and chooses a
task and a registered process manager that suits it. -/
structure Chooses (s s' : TaskManager) : Prop where
  tasks : s'.taskList = s.taskList ∨
    ∃ TaskResources, s'.taskList = s.taskList.RemovePreferredPmId TaskResources
  pmList : s'.pmList.pmList = s.pmList.pmList
  scheduler : s'.scheduler = s.scheduler ∨
    ∃ n i, (s.taskList n).state = .PENDING ∧ (s.pmList.pmList i).in_use = true ∧
      Suits (s.taskList n).resources (s.pmList.pmList i).resources ∧
      (s'.scheduler = .sleeping n (s.taskList n).copy (s.pmList.pmList i) ∨
        s'.scheduler = .placing n (s.taskList n).copy (s.pmList.pmList i))

theorem Chooses.refl (s : TaskManager) : Chooses s s := ⟨.inl rfl, rfl, .inl rfl⟩

theorem chooses_waitForPreferred {TaskData : Task} {uiCurSeconds : UInt32} :
    Chooses s (s.waitForPreferred TaskData uiCurSeconds) := by
  rw [waitForPreferred]
  split
  · exact ⟨.inl rfl, rfl, .inl rfl⟩
  · split
    · exact ⟨.inr ⟨_, rfl⟩, rfl, .inl rfl⟩
    · exact .refl s

theorem scheduler_chosen {n : Fin NUMTASKS} {t : Task} :
    (s.chosen n t PMData).scheduler = .sleeping n t PMData ∨
      (s.chosen n t PMData).scheduler = .placing n t PMData := by
  rw [chosen]
  by_cases timed : t.timeout ≠ 0
  · exact .inl (if_pos timed)
  · exact .inr (if_neg timed)

theorem choose_spec (formed : s.pmList.WellFormed) (uiCurSeconds : UInt32) :
    Chooses s (s.choose uiCurSeconds) := by
  unfold choose
  cases pending : s.taskList.FindPendingTask with
  | none => exact .refl s
  | some found =>
      obtain ⟨n, first, rfl⟩ := Option.map_eq_some_iff.mp pending
      have queued : (s.taskList n).state = .PENDING := TaskList.firstIn_eq_some first
      dsimp only
      split
      · exact .refl s
      · split
        · cases here : s.pmList.FindPMID (s.taskList n).copy.resources with
          | none => exact chooses_waitForPreferred
          | some PMData =>
              obtain ⟨i, used, rfl, suits⟩ := suits_of_findPMID formed here
              exact ⟨.inl rfl, rfl, .inr ⟨n, i, queued, used, suits, scheduler_chosen⟩⟩
        · have kept : (PMRecordList.findAnyEligible (s.taskList n).copy.resources MAX_JOBS 0
              s.pmList).2.pmList = s.pmList.pmList := findAnyEligible_pmList
          have fits : ∀ PMData, (PMRecordList.findAnyEligible (s.taskList n).copy.resources
              MAX_JOBS 0 s.pmList).1 = some PMData →
                ∃ i, (s.pmList.pmList i).in_use = true ∧ s.pmList.pmList i = PMData ∧
                  Suits (s.taskList n).copy.resources PMData.resources :=
            fun _ => suits_of_findAnyEligible
          generalize PMRecordList.findAnyEligible _ MAX_JOBS 0 s.pmList = result at kept fits ⊢
          obtain ⟨found, pmList⟩ := result
          cases found with
          | none => exact ⟨.inl rfl, kept, .inl rfl⟩
          | some PMData =>
              obtain ⟨i, used, rfl, suits⟩ := fits PMData rfl
              exact ⟨.inl rfl, kept, .inr ⟨n, i, queued, used, suits, scheduler_chosen⟩⟩

end Search

/-! ### What is known of the entries -/

/-- The task is one of those, though its preferred node may be gone. -/
def FromOne (known : List Announced) (t : Task) : Prop :=
  ∃ p ∈ known, t.filename = some p.filename ∧ t.priority = p.priority ∧
    t.taskVersion = p.version ∧ Loosens p.resources t.resources

/-- Every entry in use is one of those. -/
def TasksFrom (known : List Announced) (tasks : TaskList) : Prop :=
  ∀ n, (tasks n).state ≠ .INACTIVE → FromOne known (tasks n)

section Entries

variable {known known' : List Announced} {tasks : TaskList} {t t' : Task} {n : Fin NUMTASKS}
  {PMID : SDMComponentID} {f : Task → Task}

theorem FromOne.of_same (origin : FromOne known t) (filename : t'.filename = t.filename)
    (priority : t'.priority = t.priority) (version : t'.taskVersion = t.taskVersion)
    (loosens : Loosens t.resources t'.resources) : FromOne known t' := by
  obtain ⟨p, mem, isFilename, isPriority, isVersion, before⟩ := origin
  exact ⟨p, mem, filename.trans isFilename, priority.trans isPriority, version.trans isVersion,
    before.trans loosens⟩

theorem FromOne.mono (origin : FromOne known t) (sub : known ⊆ known') : FromOne known' t := by
  obtain ⟨p, mem, rest⟩ := origin
  exact ⟨p, sub mem, rest⟩

theorem TasksFrom.modify (origin : TasksFrom known tasks)
    (written : (f (tasks n)).state ≠ .INACTIVE → FromOne known (f (tasks n))) :
    TasksFrom known (tasks.modify n f) := by
  intro m
  by_cases here : m = n
  · subst here
    rw [TaskList.modify_self]
    exact written
  · rw [TaskList.modify_of_ne here]
    exact origin m

theorem TasksFrom.addTo (origin : TasksFrom known tasks) (here : FromOne known t) :
    TasksFrom known (tasks.AddTo t).2 := by
  cases room : tasks.firstIn .INACTIVE with
  | none =>
      rw [TaskList.addTo_of_full room]
      exact origin
  | some n =>
      rw [TaskList.addTo_of_room room]
      exact origin.modify fun _ => here.of_same rfl rfl rfl (.refl _)

/-- An entry that runs again is in use: a cleared entry does not run always. -/
theorem TasksFrom.taskFinished (origin : TasksFrom known tasks) (regular : tasks.Regular)
    (p : UInt32) : TasksFrom known (tasks.TaskFinished p).2 := by
  cases found : tasks.entryOf p with
  | none =>
      rw [TaskList.taskFinished_of_missing found]
      exact origin
  | some n =>
      by_cases normal : (tasks n).taskMode = MODE_NORMAL
      · rw [TaskList.taskFinished_of_normal found normal]
        exact origin.modify fun used => absurd rfl used
      · by_cases always : (tasks n).taskMode = MODE_ALWAYS_RUNNING
        · rw [TaskList.taskFinished_of_always found always]
          have used : (tasks n).state ≠ .INACTIVE := fun inactive =>
            normal (congrArg Task.taskMode (regular.eq_init inactive))
          exact origin.modify fun _ => (origin n used).of_same rfl rfl rfl (.refl _)
        · rw [TaskList.taskFinished_of_invalid found normal always]
          exact origin

/-- An entry that a process manager had is in use: a cleared entry names no process manager. -/
theorem TasksFrom.pmFailure (origin : TasksFrom known tasks) (regular : tasks.Regular)
    (port : PMID.port = PORT_PM) : TasksFrom known (tasks.PMFailure PMID).2 := by
  intro n
  by_cases on : (tasks n).pmComponentID = PMID
  · have queued : (tasks.PMFailure PMID).2 n = { tasks n with state := .PENDING } := if_pos on
    have used : (tasks n).state ≠ .INACTIVE := by
      intro inactive
      rw [regular.eq_init inactive] at on
      rw [← on] at port
      exact absurd port (by decide)
    rw [queued]
    exact fun _ => (origin n used).of_same rfl rfl rfl (.refl _)
  · have kept : (tasks.PMFailure PMID).2 n = tasks n := if_neg on
    rw [kept]
    exact origin n

theorem TasksFrom.removePreferredPmId (origin : TasksFrom known tasks)
    (TaskResources : SDMTaskResources) :
    TasksFrom known (tasks.RemovePreferredPmId TaskResources) := by
  intro n
  rw [TaskList.RemovePreferredPmId]
  split
  · rename_i removed
    exact fun _ => (origin n removed.1).of_same rfl rfl rfl loosens_setPreferredPmNodeId
  · exact origin n

end Entries

/-! ### Runs -/

/-- What is known after the actions: every entry and the copy of the `Scheduler` are of tasks that
were announced, every record and the copy of the `Scheduler` are of process managers that
registered, and these two copies suit each other. -/
structure Known (as : List Action) (s : TaskManager) : Prop where
  tasks : TasksFrom (as.filterMap announces) s.taskList
  records : ∀ i, (s.pmList.pmList i).in_use = true →
    ((s.pmList.pmList i).component_id, (s.pmList.pmList i).resources) ∈ as.filterMap registers
  copies : ∀ n t r, s.scheduler = .sleeping n t r ∨ s.scheduler = .placing n t r →
    FromOne (as.filterMap announces) t ∧
      (r.component_id, r.resources) ∈ as.filterMap registers ∧ Suits t.resources r.resources

section Runs

variable {as : List Action} {s s' : TaskManager} {a : Action} {out : List TMMessage}
  {es : List (Action × List TMMessage)} {destination : SDMComponentID} {msgTask : SDMTask}

theorem known_start : Known [] start where
  tasks _ used := absurd rfl used
  records _ used := absurd used Bool.false_ne_true
  copies _ _ _ phase := by
    rcases phase with phase | phase <;> cases phase

theorem subset_append {β : Type} (g : Action → Option β) :
    as.filterMap g ⊆ (as ++ [a]).filterMap g := by
  rw [List.filterMap_append]
  exact List.subset_append_left _ _

/-- More actions. -/
theorem Known.mono (known : Known as s) (a : Action) : Known (as ++ [a]) s where
  tasks n used := (known.tasks n used).mono (subset_append announces)
  records i used := subset_append registers (known.records i used)
  copies n t r phase := by
    obtain ⟨origin, registered, suits⟩ := known.copies n t r phase
    exact ⟨origin.mono (subset_append announces), subset_append registers registered, suits⟩

/-- The records are kept where the list has the same ones. -/
theorem Known.records_of_same (known : Known as s) {l : PMRecordList}
    (same : s.pmList.SameRecords l) : ∀ i, (l.pmList i).in_use = true →
      ((l.pmList i).component_id, (l.pmList i).resources) ∈ as.filterMap registers := by
  intro i used
  rw [same.in_use] at used
  rw [same.component_id, same.resources]
  exact known.records i used

theorem records_regPMHandler (known : Known as s) (msgReg : SDMRegPM) :
    ∀ i, ((s.RegPMHandler msgReg).pmList.pmList i).in_use = true →
      (((s.RegPMHandler msgReg).pmList.pmList i).component_id,
        ((s.RegPMHandler msgReg).pmList.pmList i).resources) ∈
          (as ++ [Action.RegPM msgReg]).filterMap registers := by
  have before := (known.mono (.RegPM msgReg)).records
  have here : (({ msgReg.source with port := PORT_PM }, ⟨msgReg.resources⟩) :
      SDMComponentID × SDMTaskResources) ∈ (as ++ [Action.RegPM msgReg]).filterMap registers := by
    rw [List.filterMap_append]
    exact List.mem_append_right _ List.mem_cons_self
  -- The record is written to a free slot, if there is one.
  have registered : ∀ i,
      ((s.pmList.RegisterPM msgReg.source ⟨msgReg.resources⟩).2.pmList i).in_use = true →
        (((s.pmList.RegisterPM msgReg.source ⟨msgReg.resources⟩).2.pmList i).component_id,
          ((s.pmList.RegisterPM msgReg.source ⟨msgReg.resources⟩).2.pmList i).resources) ∈
            (as ++ [Action.RegPM msgReg]).filterMap registers := by
    intro i used
    cases free : s.pmList.freeSlot with
    | none =>
        rw [PMRecordList.registerPM_of_full free] at used ⊢
        exact before i used
    | some j =>
        rw [PMRecordList.registerPM_of_free free] at used ⊢
        by_cases same : i = j
        · subst same
          rw [PMRecordList.modify_pmList_self]
          exact here
        · rw [PMRecordList.modify_pmList_of_ne same] at used ⊢
          exact before i used
  unfold RegPMHandler
  split
  · exact before
  · dsimp only
    split
    · intro i used
      have same := @PMRecordList.sameRecords_setTasks
        (s.pmList.RegisterPM msgReg.source ⟨msgReg.resources⟩).2 msgReg.source
        (s.pending_pms.GetTasks msgReg.source)
      rw [same.in_use] at used
      rw [same.component_id, same.resources]
      exact registered i used
    · exact registered

theorem records_removeAnyFailed (known : Known as s) :
    ∀ i, (s.pmList.RemoveAnyFailed.2.pmList i).in_use = true →
      ((s.pmList.RemoveAnyFailed.2.pmList i).component_id,
        (s.pmList.RemoveAnyFailed.2.pmList i).resources) ∈ as.filterMap registers := by
  intro i used
  cases failed : s.pmList.failedSlot with
  | none =>
      rw [PMRecordList.removeAnyFailed_of_none failed] at used ⊢
      exact known.records i used
  | some j =>
      rw [PMRecordList.removeAnyFailed_of_failed failed] at used ⊢
      by_cases same : i = j
      · subst same
        rw [PMRecordList.modify_pmList_self] at used
        exact absurd used Bool.false_ne_true
      · rw [PMRecordList.modify_pmList_of_ne same] at used ⊢
        exact known.records i used

/-- A search keeps to what is known. -/
theorem Known.choose (known : Known as s) (chooses : Chooses s s') : Known as s' := by
  have records := known.records_of_same (PMRecordList.sameRecords_of_eq chooses.pmList)
  refine ⟨?_, records, fun n t r phase => ?_⟩
  · rcases chooses.tasks with same | ⟨TaskResources, same⟩
    · rw [same]
      exact known.tasks
    · rw [same]
      exact known.tasks.removePreferredPmId TaskResources
  · rcases chooses.scheduler with same | ⟨n', i, queued, used, suits, chosen⟩
    · rw [same] at phase
      exact known.copies n t r phase
    · have used' : (s.taskList n').state ≠ .INACTIVE := by
        rw [queued]
        exact nofun
      have origin : FromOne (as.filterMap announces) (s.taskList n').copy :=
        (known.tasks n' used').of_same rfl rfl rfl (.refl _)
      have registered := known.records i used
      rcases chosen with chosen | chosen <;> rw [chosen] at phase
      · rcases phase with phase | phase <;> cases phase
        exact ⟨origin, registered, suits⟩
      · rcases phase with phase | phase <;> cases phase
        exact ⟨origin, registered, suits⟩

/-- Every step keeps to what is known, and to what it brings in. -/
theorem Known.step (known : Known as s) (coherent : s.Coherent)
    (taken : machine.step s a = some (s', out)) : Known (as ++ [a]) s' := by
  have later := known.mono a
  have same (l : PMRecordList) (records : s.pmList.SameRecords l) := later.records_of_same records
  have step : s.step a = some (s', out) := taken
  cases stepped coherent.records taken with
  | regPM msgReg =>
      refine ⟨?_, records_regPMHandler known msgReg, ?_⟩
      · rw [regPMHandler_taskList]
        exact later.tasks
      · rw [regPMHandler_scheduler]
        exact later.copies
  | postTask msgPostTask =>
      refine ⟨later.tasks.addTo ⟨⟨msgPostTask.filename, msgPostTask.priority, msgPostTask.version,
        ⟨msgPostTask.resources⟩⟩, ?_, rfl, rfl, rfl, .refl _⟩, later.records, later.copies⟩
      rw [List.filterMap_append]
      exact List.mem_append_right _ List.mem_cons_self
  | runningTask msgTask =>
      refine ⟨?_, same _ (pmRunningTaskHandler_sameRecords msgTask), ?_⟩
      · rw [pmRunningTaskHandler_taskList]
        refine later.tasks.addTo ⟨⟨msgTask.filename, msgTask.priority, 0, .zero⟩, ?_, rfl, rfl, rfl,
          .refl _⟩
        rw [List.filterMap_append]
        exact List.mem_append_right _ List.mem_cons_self
      · rw [pmRunningTaskHandler_scheduler]
        exact later.copies
  | taskFinished msgFinished =>
      exact ⟨later.tasks.taskFinished coherent.tasks _,
        same _ PMRecordList.sameRecords_taskFinished, later.copies⟩
  | poll uiLastSeconds => exact ⟨later.tasks, later.records, later.copies⟩
  | choose uiCurSeconds searching _ =>
      have chosen : s' = s.choose uiCurSeconds := by
        rw [TaskManager.step, searching] at step
        cases step
        rfl
      rw [chosen]
      exact later.choose (choose_spec coherent.records uiCurSeconds)
  | wakeReset n t r asleep =>
      refine ⟨later.tasks, later.records, fun n t r phase => ?_⟩
      rcases phase with phase | phase <;> cases phase
  | wake n t r asleep =>
      refine ⟨later.tasks, later.records, fun n' t' r' phase => ?_⟩
      rcases phase with phase | phase
      · cases phase
      · cases phase
        exact later.copies n t r (.inl asleep)
  | place n t r filename placing used =>
      refine ⟨?_, same _ PMRecordList.sameRecords_taskHasStarted, fun n t r phase => ?_⟩
      · exact later.tasks.modify fun _ =>
          (later.tasks n used).of_same rfl rfl rfl (.refl _)
      · rcases phase with phase | phase <;> cases phase
  | sendHeartbeatToAll =>
      exact ⟨later.tasks, same _ PMRecordList.sameRecords_sendHeartbeatToAll, later.copies⟩
  | heartbeatReceived source =>
      exact ⟨later.tasks, same _ PMRecordList.sameRecords_heartbeatReceived, later.copies⟩
  | removeAnyFailed => exact ⟨later.tasks, records_removeAnyFailed later, later.copies⟩
  | pmFailure PMID failing =>
      exact ⟨later.tasks.pmFailure coherent.tasks (coherent.failing PMID failing), later.records,
        later.copies⟩
  | clearList => exact ⟨fun _ used => absurd rfl used, later.records, later.copies⟩
  | clearAllRunningTasks resets =>
      exact ⟨later.tasks, same _ PMRecordList.sameRecords_clearAllRunningTasks, later.copies⟩

theorem known_of_trace (trace : machine.Trace (fun _ _ => True) start es s) :
    Known (es.map Prod.fst) s := by
  induction trace with
  | start => exact known_start
  | step before _ taken ih =>
      rw [List.map_append]
      exact ih.step (coherent_of_reaches (before.reaches .start)) taken

/-- **What is sent was announced**: whatever the interleaving, a task that the `Scheduler` sends has
the file name, the priority and the version of one that was posted or reported as running before,
and goes to a process manager that has registered with resources that suit the needs of this one. -/
theorem sent_as_announced (trace : machine.Trace (fun _ _ => True) start es s)
    (taken : machine.step s a = some (s', out)) (sent : (destination, msgTask) ∈ tasksSent out) :
    ∃ p ∈ (es.map Prod.fst).filterMap announces, ∃ q ∈ (es.map Prod.fst).filterMap registers,
      msgTask.filename = p.filename ∧ msgTask.priority = p.priority ∧
        msgTask.version = p.version ∧ destination = q.1 ∧ Suits p.resources q.2 := by
  have known := known_of_trace trace
  have coherent : s.Coherent := coherent_of_reaches (trace.reaches .start)
  have step : s.step a = some (s', out) := taken
  cases stepped coherent.records taken with
  | place n t r filename placing used =>
      obtain ⟨⟨p, announced, isFilename, isPriority, isVersion, loosens⟩, registered, suits⟩ :=
        known.copies n t r (.inr placing)
      rw [TaskManager.step, placing] at step
      obtain ⟨filename', same, next⟩ := Option.map_eq_some_iff.mp ((if_neg used).symm.trans step)
      cases next
      obtain ⟨rfl, rfl⟩ := Prod.mk.inj (List.mem_singleton.mp sent)
      have filename_eq : filename = p.filename := Option.some.inj (same.symm.trans isFilename)
      exact ⟨p, announced, _, registered, filename_eq, isPriority, isVersion, rfl,
        suits.of_loosens loosens⟩
  | pmFailure PMID failing free =>
      obtain ⟨_, mem, same⟩ := List.mem_filterMap.mp sent
      obtain ⟨msgError, _, rfl⟩ := List.mem_map.mp mem
      cases same
  | _ => exact absurd sent List.not_mem_nil

/-- A process manager registers, and gets the one task that is posted. -/
theorem sent_as_announced_one :
    ∃ p ∈ [Action.RegPM ⟨.zero, 0x11⟩, .PostTask ⟨0x11, 1, 0, 0, 0, .empty⟩,
        .SchedulerChoose 0].filterMap announces,
      ∃ q ∈ [Action.RegPM ⟨.zero, 0x11⟩, .PostTask ⟨0x11, 1, 0, 0, 0, .empty⟩,
          .SchedulerChoose 0].filterMap registers,
        .empty = p.filename ∧ 1 = p.priority ∧ 0 = p.version ∧
          { SDMComponentID.zero with port := PORT_PM } = q.1 ∧ Suits p.resources q.2 := by
  let r : Action × List TMMessage := (.RegPM ⟨.zero, 0x11⟩, [])
  let m : Action × List TMMessage := (.PostTask ⟨0x11, 1, 0, 0, 0, .empty⟩, [])
  let c : Action × List TMMessage := (.SchedulerChoose 0, [])
  let s := (start.RegPMHandler ⟨.zero, 0x11⟩).PostTask ⟨0x11, 1, 0, 0, 0, .empty⟩
  have registered : machine.Trace (fun _ _ => True) start [r] (start.RegPMHandler ⟨.zero, 0x11⟩) :=
    .step .start trivial rfl
  have posted : machine.Trace (fun _ _ => True) start [r, m] s := .step registered trivial rfl
  have chosen : machine.Trace (fun _ _ => True) start [r, m, c] (s.choose 0) :=
    .step posted trivial rfl
  have sends : (machine.step (s.choose 0) .SchedulerPlace).map (tasksSent ·.2) =
      some [({ SDMComponentID.zero with port := PORT_PM }, ⟨.zero, 1, .empty, 1, 0⟩)] := by
    decide +kernel
  obtain ⟨⟨s', out⟩, taken, same⟩ := Option.map_eq_some_iff.mp sends
  exact sent_as_announced chosen taken (same ▸ List.mem_cons_self)

end Runs

end Sdm.TaskManager
