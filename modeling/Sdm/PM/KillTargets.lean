import Mathlib.Data.List.Nodup
import Sdm.PM.ProcessManager

/-!
Which process a signal of the Process Manager reaches.

An entry keeps the operating system pid of its child until `SigChldHandler` has taken the child
out of the list, which is after `waitpid` has reaped it; and it has the pid 0 from the moment
that the task is put in the list, or is to be started again, until `fork` has returned.

* `PidsOwned`: every pid of the list belongs to a child that was forked for the entry, and was
  not reaped but perhaps by the `waitpid` that was just called.
* `kill_targets`: in every state that the threads can reach, the signals of a step go to
  children of the entries they are meant for exactly when these have a child.
-/

namespace Sdm

open Sdm.Lib

/-- The entries that have an operating system pid. -/
def PMProcessList.launched (l : PMProcessList) : List (UInt32 × Nat) :=
  l.m_ProcessList.filterMap fun e =>
    if e.OsPid = 0 then none else some (e.uiSdmPid, e.OsPid)

namespace PMProcessList

variable {l : PMProcessList} {i : Nat} {e : PMProcess} {k : UInt32 × Nat}

theorem mem_launched : k ∈ l.launched ↔
    ∃ e ∈ l.m_ProcessList, e.OsPid ≠ 0 ∧ (e.uiSdmPid, e.OsPid) = k := by
  simp only [launched, List.mem_filterMap, Option.ite_none_left_eq_some, Option.some_inj]

/-- The entry at an index, and the others. -/
theorem launched_split {pre post : List PMProcess} (whole : l.m_ProcessList = pre ++ e :: post) :
    l.launched = (PMProcessList.mk pre).launched ++
      (if e.OsPid = 0 then [] else [(e.uiSdmPid, e.OsPid)]) ++
        (PMProcessList.mk post).launched := by
  by_cases zero : e.OsPid = 0 <;> simp [launched, whole, zero]

/-- An entry that loses its operating system pid. -/
theorem launched_modify_zero {f : PMProcess → PMProcess} (zero : ∀ e, (f e).OsPid = 0)
    (found : l.m_ProcessList[i]? = some e) : (l.modify i f).launched.Sublist l.launched := by
  obtain ⟨pre, post, whole, -, modified⟩ := exists_split_of_getElem? found
  rw [launched_split whole, launched_split (l := l.modify i f) (modified f), if_pos (zero e)]
  exact ((List.nil_sublist _).append_left _).append_right _

theorem launched_remove {l' : PMProcessList} (removed : l.Remove i = some l') :
    l'.launched.Sublist l.launched := by
  unfold Remove at removed
  split at removed
  · cases removed
    exact List.Sublist.refl _
  · split at removed
    · cases removed
    · cases removed
      exact List.Sublist.filterMap _ (List.eraseIdx_sublist ..)

theorem launched_add {TaskName : CString} {SdmPid : UInt32} :
    (l.Add TaskName SdmPid).1.launched.Sublist l.launched := by
  unfold Add
  cases found : l.GetIndexOfSdmPid SdmPid with
  | none =>
      dsimp only
      simp [launched, PMProcess.ofTask]
  | some i =>
      obtain ⟨e, at_i, -, -⟩ := exists_entry_of_sdmPid found
      exact launched_modify_zero (fun _ => rfl) at_i

theorem launched_heartbeatReceived {SdmPid uiCurSeconds : UInt32} :
    (l.HeartbeatReceived SdmPid uiCurSeconds).launched = l.launched := by
  unfold HeartbeatReceived
  cases found : l.GetIndexOfSdmPid SdmPid with
  | none => rfl
  | some i =>
      obtain ⟨e, at_i, -, -⟩ := exists_entry_of_sdmPid found
      obtain ⟨pre, post, whole, -, modified⟩ := exists_split_of_getElem? at_i
      rw [launched_split whole, launched_split (l := l.modify i _) (modified _)]
      rfl

/-- The entry that `UpdateOsPid` changes, and the others. -/
theorem launched_updateOsPid (SdmPid : UInt32) {OsPid : Nat} (nonzero : OsPid ≠ 0) :
    (l.UpdateOsPid SdmPid OsPid).launched = l.launched ∨
      ∃ pre post, (l.UpdateOsPid SdmPid OsPid).launched = pre ++ (SdmPid, OsPid) :: post ∧
        (pre ++ post).Sublist l.launched := by
  unfold UpdateOsPid
  cases found : l.GetIndexOfSdmPid SdmPid with
  | none => exact .inl rfl
  | some i =>
      obtain ⟨e, at_i, -, same⟩ := exists_entry_of_sdmPid found
      obtain ⟨pre, post, whole, -, modified⟩ := exists_split_of_getElem? at_i
      refine .inr ⟨(PMProcessList.mk pre).launched, (PMProcessList.mk post).launched, ?_, ?_⟩
      · rw [launched_split (l := l.modify i _) (modified _)]
        simp [PMProcess.SetOsPid, nonzero, same]
      · rw [launched_split whole, List.append_assoc]
        exact (List.sublist_append_right _ _).append_left _

end PMProcessList

namespace ProcessManager

/-- The pid is that of a child that was forked for the task and was not yet reaped. -/
def OwnChild (s : ProcessManager) (SdmPid : UInt32) (OsPid : Nat) : Prop :=
  OsPid ≠ 0 ∧ ∃ c ∈ s.children, c.OsPid = OsPid ∧ c.SdmPid = SdmPid

/-- The entry has an operating system pid, and it is not the one that `waitpid` just returned. -/
def HasChild (s : ProcessManager) (e : PMProcess) : Prop :=
  e.OsPid ≠ 0 ∧ ∀ iStatus, s.signal ≠ .reaped e.OsPid iStatus

/-- The entries that the step calls `Kill` for have a child. -/
def KillsOwn (s : ProcessManager) : PMAction → Prop
  | .Kill msgKill =>
      ∀ i e, s.runningTaskList.GetIndexOfSdmPid msgKill.PID = some i →
        s.runningTaskList.m_ProcessList[i]? = some e → s.HasChild e
  | .Monitor uiCurSeconds =>
      ∀ e ∈ dueEntries uiCurSeconds false s.runningTaskList.m_ProcessList, s.HasChild e
  | _ => True

/-- Every operating system pid in the list is that of an own child, or the one that `waitpid`
just returned, and no two entries have the same one. -/
structure PidsOwned (s : ProcessManager) : Prop where
  owned : ∀ k ∈ s.runningTaskList.launched,
    s.OwnChild k.1 k.2 ∨ ∃ iStatus, s.signal = .reaped k.2 iStatus
  distinct : (s.runningTaskList.launched.map Prod.snd).Nodup
  children : ∀ c ∈ s.children, c.OsPid ≠ 0
  reaped : ∀ iPid iStatus, s.signal = .reaped iPid iStatus → ∀ c ∈ s.children, c.OsPid ≠ iPid
  forked : ∀ launchTask AppPid, s.signal = .forked launchTask AppPid →
    s.OwnChild launchTask.ulSdmPid AppPid ∧ AppPid ∉ s.runningTaskList.launched.map Prod.snd

section Steps

variable {s s' : ProcessManager} {a : PMAction} {out : List PMEvent} {Address_PM : UInt32}

theorem pidsOwned_start : start.PidsOwned where
  owned := nofun
  distinct := List.nodup_nil
  children := nofun
  reaped := nofun
  forked := nofun

/-- A step that forks and reaps no child, and gives no entry a pid. -/
theorem PidsOwned.of_shrunk (owned : s.PidsOwned) (children : s'.children = s.children)
    (list : s'.runningTaskList.launched.Sublist s.runningTaskList.launched)
    (signal : s'.signal = s.signal) : s'.PidsOwned where
  owned k mem := by
    rw [OwnChild, children, signal]
    exact owned.owned k (list.subset mem)
  distinct := owned.distinct.sublist (list.map _)
  children := by
    rw [children]
    exact owned.children
  reaped := by
    rw [children, signal]
    exact owned.reaped
  forked launchTask AppPid now := by
    rw [signal] at now
    obtain ⟨child, new⟩ := owned.forked launchTask AppPid now
    rw [OwnChild, children]
    exact ⟨child, fun mem => new ((list.map _).subset mem)⟩

/-- The same for a step of the signal thread, which has no child in its hands. -/
theorem PidsOwned.of_advanced (owned : s.PidsOwned) (children : s'.children = s.children)
    (list : s'.runningTaskList.launched.Sublist s.runningTaskList.launched)
    (before : ∀ iPid iStatus, s.signal ≠ .reaped iPid iStatus)
    (reaped : ∀ iPid iStatus, s'.signal ≠ .reaped iPid iStatus)
    (forked : ∀ launchTask AppPid, s'.signal ≠ .forked launchTask AppPid) : s'.PidsOwned where
  owned k mem := by
    rw [OwnChild, children]
    rcases owned.owned k (list.subset mem) with child | ⟨iStatus, now⟩
    · exact .inl child
    · exact absurd now (before _ _)
  distinct := owned.distinct.sublist (list.map _)
  children := by
    rw [children]
    exact owned.children
  reaped iPid iStatus now := absurd now (reaped iPid iStatus)
  forked launchTask AppPid now := absurd now (forked launchTask AppPid)

/-- A round of the monitor changes no pid, and removes entries. -/
theorem launched_monitorRound {uiCurSeconds : UInt32} {skip : Bool} {l : List PMProcess} :
    (PMProcessList.mk (monitorRound Address_PM uiCurSeconds skip l).2.1).launched.Sublist
      (PMProcessList.mk l).launched := by
  have cons : ∀ (e e' : PMProcess) (l l' : List PMProcess), e'.uiSdmPid = e.uiSdmPid →
      e'.OsPid = e.OsPid → (PMProcessList.mk l').launched.Sublist (PMProcessList.mk l).launched →
      (PMProcessList.mk (e' :: l')).launched.Sublist (PMProcessList.mk (e :: l)).launched := by
    intro e e' l l' pid os rest
    have first : ∀ (e : PMProcess) (l : List PMProcess), (PMProcessList.mk (e :: l)).launched =
        (if e.OsPid = 0 then [] else [(e.uiSdmPid, e.OsPid)]) ++ (PMProcessList.mk l).launched :=
      fun e l => PMProcessList.launched_split (List.nil_append _).symm
    rw [first e' l', first e l, pid, os]
    exact rest.append_left _
  induction l generalizing skip with
  | nil => cases skip <;> exact List.Sublist.refl _
  | cons e rest ih =>
      cases skip with
      | true => exact cons e e rest _ rfl rfl ih
      | false =>
          unfold monitorRound
          dsimp only
          split
          · split
            · exact cons e _ rest rest (by simp) (by simp) (List.Sublist.refl _)
            · split
              · refine ih.trans ?_
                exact List.Sublist.filterMap _ (List.sublist_cons_self _ _)
              · exact cons e _ rest _ (by simp [PMProcess.Failure]) (by simp [PMProcess.Failure]) ih
          · exact cons e _ rest _ (by simp) (by simp) ih

/-! ### The invariant -/

theorem PidsOwned.updateOsPid {launchTask : PendingTask} {AppPid : Nat} (owned : s.PidsOwned)
    (signal : s.signal = .forked launchTask AppPid) :
    PidsOwned { s with
      runningTaskList := s.runningTaskList.UpdateOsPid launchTask.ulSdmPid AppPid
      signal := .waiting } := by
  obtain ⟨child, new⟩ := owned.forked launchTask AppPid signal
  have before : ∀ iPid iStatus, s.signal ≠ .reaped iPid iStatus := by
    intro iPid iStatus now
    rw [signal] at now
    cases now
  rcases PMProcessList.launched_updateOsPid (l := s.runningTaskList)
    launchTask.ulSdmPid child.1 with same | ⟨pre, post, whole, old⟩
  · exact owned.of_advanced rfl (same ▸ List.Sublist.refl _) before nofun nofun
  · refine ⟨?_, ?_, owned.children, nofun, nofun⟩
    · intro k mem
      dsimp only at mem
      rw [whole] at mem
      have cases' : k = (launchTask.ulSdmPid, AppPid) ∨ k ∈ pre ++ post := by
        simp only [List.mem_append, List.mem_cons] at mem ⊢
        tauto
      rcases cases' with rfl | rest
      · exact .inl child
      · rcases owned.owned k (old.subset rest) with child' | ⟨iStatus, now⟩
        · exact .inl child'
        · exact absurd now (before _ _)
    · show ((s.runningTaskList.UpdateOsPid launchTask.ulSdmPid AppPid).launched.map
        Prod.snd).Nodup
      rw [whole, List.map_append, List.map_cons, List.nodup_middle, List.nodup_cons,
        ← List.map_append]
      exact ⟨fun mem => new ((old.map _).subset mem), owned.distinct.sublist (old.map _)⟩

theorem PidsOwned.fork {launchTask : PendingTask} {iTaskIndex pid : Nat} (owned : s.PidsOwned)
    (signal : s.signal = .added launchTask iTaskIndex) (nonzero : pid ≠ 0)
    (fresh : pid ∉ s.children.map PMChild.OsPid) :
    PidsOwned { s with
      signal := .forked launchTask pid
      children := s.children ++ [⟨pid, launchTask.ulSdmPid, none⟩] } := by
  have child : ∀ k ∈ s.runningTaskList.launched, s.OwnChild k.1 k.2 := by
    intro k mem
    rcases owned.owned k mem with child | ⟨iStatus, now⟩
    · exact child
    · rw [signal] at now
      cases now
  refine ⟨?_, owned.distinct, ?_, nofun, ?_⟩
  · intro k mem
    obtain ⟨nonzero', c, mem', same⟩ := child k mem
    exact .inl ⟨nonzero', c, List.mem_append_left _ mem', same⟩
  · intro c mem
    rcases List.mem_append.mp mem with old | new
    · exact owned.children c old
    · rw [List.mem_singleton.mp new]
      exact nonzero
  · rintro _ _ same
    cases same
    refine ⟨⟨nonzero, _, List.mem_append_right _ (List.mem_singleton_self _), rfl, rfl⟩, ?_⟩
    intro mem
    obtain ⟨k, mem', rfl⟩ := List.mem_map.mp mem
    obtain ⟨-, c, old, os, -⟩ := child k mem'
    exact fresh (List.mem_map.mpr ⟨c, old, os⟩)

theorem PidsOwned.reap {pid : Nat} {iStatus : Int32} (owned : s.PidsOwned)
    (signal : s.signal = .waiting) :
    PidsOwned { s with
      children := s.children.filter fun c => c.OsPid != pid
      signal := .reaped pid iStatus } := by
  refine ⟨?_, owned.distinct, ?_, ?_, nofun⟩
  · intro k mem
    rcases owned.owned k mem with ⟨nonzero, c, mem', os, same⟩ | ⟨iStatus', now⟩
    · by_cases here : k.2 = pid
      · exact .inr ⟨iStatus, by rw [here]⟩
      · refine .inl ⟨nonzero, c, List.mem_filter.mpr ⟨mem', ?_⟩, os, same⟩
        rw [os]
        exact bne_iff_ne.mpr here
    · rw [signal] at now
      cases now
  · exact fun c mem => owned.children c (List.mem_filter.mp mem).1
  · rintro _ _ now c mem
    cases now
    exact bne_iff_ne.mp (List.mem_filter.mp mem).2

/-- The child that was reaped leaves the list with its pid, and the other entries keep theirs. -/
theorem PidsOwned.of_collected {iPid : Nat} {iStatus : Int32} {l : PMProcessList}
    {restarts : List SDMTask} (owned : s.PidsOwned) (signal : s.signal = .reaped iPid iStatus)
    (list : l.launched.Sublist s.runningTaskList.launched)
    (gone : iPid ∉ l.launched.map Prod.snd) :
    PidsOwned { s with runningTaskList := l, restarts := restarts, signal := .idle } := by
  refine ⟨?_, owned.distinct.sublist (list.map _), owned.children, nofun, nofun⟩
  intro k mem
  rcases owned.owned k (list.subset mem) with child | ⟨iStatus', now⟩
  · exact .inl child
  · rw [signal] at now
    cases now
    exact absurd (List.mem_map_of_mem mem) gone

/-- No other entry has the operating system pid of an entry. -/
theorem PidsOwned.unique {e : PMProcess} {pre post : List PMProcess} (owned : s.PidsOwned)
    (whole : s.runningTaskList.m_ProcessList = pre ++ e :: post) :
    e.OsPid ∉ ((PMProcessList.mk pre).launched ++ (PMProcessList.mk post).launched).map
      Prod.snd := by
  by_cases zero : e.OsPid = 0
  · intro mem
    obtain ⟨k, mem', same⟩ := List.mem_map.mp mem
    rcases List.mem_append.mp mem' with one | one <;>
      obtain ⟨e', -, nonzero, rfl⟩ := PMProcessList.mem_launched.mp one <;>
      exact nonzero (same.trans zero)
  · have distinct := owned.distinct
    rw [PMProcessList.launched_split whole, if_neg zero, List.append_assoc,
      List.singleton_append, List.map_append, List.map_cons, List.nodup_middle,
      List.nodup_cons, ← List.map_append] at distinct
    exact distinct.1

/-- A new status of a child leaves its pids. -/
theorem PidsOwned.childExits {OsPid : Nat} {status : Int32} (owned : s.PidsOwned) :
    PidsOwned { s with
      children := s.children.map fun c =>
        if c.OsPid = OsPid then { c with status := some status } else c } := by
  have same : ∀ c : PMChild,
      (if c.OsPid = OsPid then { c with status := some status } else c).OsPid = c.OsPid ∧
        (if c.OsPid = OsPid then { c with status := some status } else c).SdmPid = c.SdmPid := by
    intro c
    split <;> exact ⟨rfl, rfl⟩
  have child : ∀ {SdmPid os}, s.OwnChild SdmPid os → OwnChild { s with
      children := s.children.map fun c =>
        if c.OsPid = OsPid then { c with status := some status } else c } SdmPid os := by
    rintro SdmPid os ⟨nonzero, c, mem, os', sdm⟩
    exact ⟨nonzero, _, List.mem_map_of_mem mem, (same c).1.trans os', (same c).2.trans sdm⟩
  refine ⟨fun k mem => (owned.owned k mem).imp_left child, owned.distinct, ?_, ?_, ?_⟩
  · intro c mem
    obtain ⟨c', mem', rfl⟩ := List.mem_map.mp mem
    rw [(same c').1]
    exact owned.children c' mem'
  · intro iPid iStatus now c mem
    obtain ⟨c', mem', rfl⟩ := List.mem_map.mp mem
    rw [(same c').1]
    exact owned.reaped iPid iStatus now c' mem'
  · exact fun launchTask AppPid now => (owned.forked launchTask AppPid now).imp_left child

/-- Every step keeps the pids owned. -/
theorem PidsOwned.step (owned : s.PidsOwned) (taken : s.act Address_PM a = some (s', out)) :
    s'.PidsOwned := by
  cases acted taken with
  | rest signal =>
      exact owned.of_advanced rfl (List.Sublist.refl _) (by simp [signal]) nofun nofun
  | dequeue launchTask rest signal =>
      exact owned.of_advanced rfl (List.Sublist.refl _) (by simp [signal]) nofun nofun
  | launch launchTask signal =>
      exact owned.of_advanced rfl PMProcessList.launched_add (by simp [signal]) nofun nofun
  | noFile launchTask signal =>
      exact owned.of_advanced rfl (List.Sublist.refl _) (by simp [signal]) nofun nofun
  | forkFailed launchTask iTaskIndex signal =>
      exact owned.of_advanced rfl (List.Sublist.refl _) (by simp [signal]) nofun nofun
  | fork launchTask iTaskIndex pid signal nonzero fresh => exact owned.fork signal nonzero fresh
  | removeUnforked iTaskIndex l signal removed =>
      exact owned.of_advanced rfl (PMProcessList.launched_remove removed) (by simp [signal])
        nofun nofun
  | updateOsPid launchTask AppPid signal => exact owned.updateOsPid signal
  | noneExited signal =>
      exact owned.of_advanced rfl (List.Sublist.refl _) (by simp [signal]) nofun nofun
  | reap c iStatus signal => exact owned.reap signal
  | collectUnknown iPid iStatus signal found =>
      refine owned.of_collected signal (List.Sublist.refl _) ?_
      intro mem
      obtain ⟨k, mem', rfl⟩ := List.mem_map.mp mem
      obtain ⟨e, entry, -, rfl⟩ := PMProcessList.mem_launched.mp mem'
      have not := List.findIdx?_eq_none_iff.mp found e entry
      exact absurd (beq_self_eq_true _) (Bool.eq_false_iff.mp not)
  | restart i e iStatus signal at_i =>
      obtain ⟨pre, post, whole, -, modified⟩ := exists_split_of_getElem? at_i
      refine owned.of_collected signal
        (PMProcessList.launched_modify_zero (fun _ => rfl) at_i) ?_
      rw [PMProcessList.launched_split (l := s.runningTaskList.modify i PMProcess.Reset)
        (modified _), if_pos (show e.Reset.OsPid = 0 from rfl), List.append_nil]
      exact owned.unique whole
  | finish i e iStatus l signal at_i _ removed =>
      obtain ⟨pre, post, whole, erased, -⟩ := exists_split_of_getElem? at_i
      refine owned.of_collected signal (PMProcessList.launched_remove removed) ?_
      rw [PMProcessList.remove_of_entry at_i] at removed
      cases removed
      simpa [PMProcessList.launched, erased] using owned.unique whole
  | monitor uiCurSeconds => exact owned.of_shrunk rfl launched_monitorRound rfl
  | heartbeat SdmPid uiCurSeconds =>
      refine owned.of_shrunk rfl ?_ rfl
      show (s.runningTaskList.HeartbeatReceived SdmPid uiCurSeconds).launched.Sublist _
      rw [PMProcessList.launched_heartbeatReceived]
  | killRemoved msgKill i e l _ _ _ _ removed =>
      exact owned.of_shrunk rfl (PMProcessList.launched_remove removed) rfl
  | childExits OsPid status => exact owned.childExits
  -- The other steps leave the list, the children and the signal thread.
  | _ => exact owned.of_shrunk rfl (List.Sublist.refl _) rfl

/-! ### Signals -/

/-- An entry has a child exactly when its operating system pid is that of one. -/
theorem PidsOwned.ownChild_iff (owned : s.PidsOwned) {e : PMProcess}
    (entry : e ∈ s.runningTaskList.m_ProcessList) :
    s.OwnChild e.uiSdmPid e.OsPid ↔ s.HasChild e := by
  constructor
  · rintro ⟨nonzero, c, mem, os, -⟩
    exact ⟨nonzero, fun iStatus now => owned.reaped _ iStatus now c mem os⟩
  · rintro ⟨nonzero, notReaped⟩
    rcases owned.owned _ (PMProcessList.mem_launched.mpr ⟨e, entry, nonzero, rfl⟩) with
      child | ⟨iStatus, now⟩
    · exact child
    · exact absurd now (notReaped iStatus)

theorem not_ownChild_zero {SdmPid : UInt32} : ¬ s.OwnChild SdmPid 0 := fun child => child.1 rfl

/-- The signals of a round go where they should exactly when those for all entries that are due
do: the round stops at the first that goes to the process group. -/
theorem kills_monitorRound {P : UInt32 → Nat → Prop} (zero : ∀ SdmPid, ¬ P SdmPid 0)
    {uiCurSeconds : UInt32} {skip : Bool} {l : List PMProcess} :
    (∀ SdmPid OsPid, .kill SdmPid OsPid ∈ (monitorRound Address_PM uiCurSeconds skip l).2.2 →
        P SdmPid OsPid) ↔
      ∀ e ∈ dueEntries uiCurSeconds skip l, P e.uiSdmPid e.OsPid := by
  induction l generalizing skip with
  | nil => cases skip <;> simp [monitorRound, dueEntries]
  | cons e rest ih =>
      cases skip with
      | true => exact ih
      | false =>
          unfold monitorRound dueEntries
          dsimp only
          by_cases due : Due uiCurSeconds e = true
          · rw [if_pos due, if_pos due, List.forall_mem_cons]
            by_cases none : e.OsPid = 0
            · rw [if_pos none, none]
              refine iff_of_false (fun all => ?_) fun all => zero _ all.1
              exact zero _ (all _ _ (List.mem_singleton_self _))
            · rw [if_neg none]
              by_cases faulty : MAX_TASK_FAILURES ≤ e.uiTotalFailCount
              · rw [if_pos faulty, decide_eq_true faulty, ← ih]
                simp only [List.mem_cons, PMEvent.kill.injEq]
                constructor
                · exact fun all => ⟨all _ _ (.inl ⟨rfl, rfl⟩), fun p os mem => all p os (.inr mem)⟩
                · rintro ⟨first, later⟩ p os (⟨rfl, rfl⟩ | mem)
                  · exact first
                  · exact later p os mem
              · rw [if_neg faulty, decide_eq_false faulty, ← ih]
                simp only [List.mem_cons, PMEvent.kill.injEq, reduceCtorEq, false_or]
                constructor
                · exact fun all => ⟨all _ _ (.inl ⟨rfl, rfl⟩), fun p os mem => all p os (.inr mem)⟩
                · rintro ⟨first, later⟩ p os (⟨rfl, rfl⟩ | mem)
                  · exact first
                  · exact later p os mem
          · rw [if_neg due, if_neg due]
            exact ih

/-- The entries that are due are in the list. -/
theorem mem_of_mem_dueEntries {uiCurSeconds : UInt32} {skip : Bool} {l : List PMProcess}
    {e : PMProcess} (mem : e ∈ dueEntries uiCurSeconds skip l) : e ∈ l := by
  induction l generalizing skip with
  | nil => cases skip <;> cases mem
  | cons e' rest ih =>
      cases skip with
      | true => exact List.mem_cons_of_mem _ (ih mem)
      | false =>
          unfold dueEntries at mem
          split at mem
          · rcases List.mem_cons.mp mem with rfl | later
            · exact List.mem_cons_self
            · exact List.mem_cons_of_mem _ (ih later)
          · exact List.mem_cons_of_mem _ (ih mem)

/-- `KillHandler` sends a signal exactly when it finds an entry. -/
theorem kills_killHandler {msgKill : SDMKill}
    (taken : s.KillHandler Address_PM msgKill = some (s', out)) (SdmPid : UInt32) (OsPid : Nat) :
    .kill SdmPid OsPid ∈ out ↔
      ∃ i e, s.runningTaskList.GetIndexOfSdmPid msgKill.PID = some i ∧
        s.runningTaskList.m_ProcessList[i]? = some e ∧ e.uiSdmPid = SdmPid ∧ e.OsPid = OsPid := by
  unfold KillHandler at taken
  cases found : s.runningTaskList.GetIndexOfSdmPid msgKill.PID with
  | none =>
      rw [found] at taken
      cases taken
      simp
  | some i =>
      obtain ⟨e, at_i, -, -⟩ := PMProcessList.exists_entry_of_sdmPid found
      rw [found] at taken
      dsimp only at taken
      rw [at_i] at taken
      dsimp only at taken
      have one : (∃ i' e', some i = some i' ∧ s.runningTaskList.m_ProcessList[i']? = some e' ∧
          e'.uiSdmPid = SdmPid ∧ e'.OsPid = OsPid) ↔ e.uiSdmPid = SdmPid ∧ e.OsPid = OsPid := by
        constructor
        · rintro ⟨i', e', same, at_i', pids⟩
          cases same
          cases at_i.symm.trans at_i'
          exact pids
        · exact fun pids => ⟨i, e, rfl, at_i, pids⟩
      rw [one]
      split at taken
      · rename_i zero
        cases taken
        simp [zero, eq_comm]
      · split at taken
        · obtain ⟨l, -, same⟩ := Option.map_eq_some_iff.mp taken
          cases same
          simp [finishedMessage, cancelMessage, eq_comm]
        · cases taken
          simp [eq_comm]

/-- The other steps send no signal. -/
theorem not_kill_of_act (taken : s.act Address_PM a = some (s', out))
    (notKill : ∀ msgKill, a ≠ .Kill msgKill)
    (notMonitor : ∀ uiCurSeconds, a ≠ .Monitor uiCurSeconds)
    {SdmPid : UInt32} {OsPid : Nat} : .kill SdmPid OsPid ∉ out := by
  intro mem
  rcases event_cases taken mem with ⟨_, _, same, -⟩ | ⟨_, same⟩ | ⟨_, _, -, ⟨k, rfl⟩ | ⟨t, rfl⟩⟩
  · cases same
  · cases same
  · exact notKill k rfl
  · exact notMonitor t rfl

/-- **Kill targets.** In every state that the threads can reach, in whatever order, the signals
of a step reach children of the entries that they are meant for, not yet reaped, exactly when
the step calls `Kill` only for entries that have a child. -/
theorem kill_targets (run : (machine Address_PM).Reachable start s)
    (taken : (machine Address_PM).step s a = some (s', out)) :
    (∀ SdmPid OsPid, .kill SdmPid OsPid ∈ out → s.OwnChild SdmPid OsPid) ↔ s.KillsOwn a := by
  have owned : s.PidsOwned := by
    refine run.invariant (I := PidsOwned) pidsOwned_start ?_
    intro s a s' out owned _ taken
    simp only [machine] at taken
    split at taken
    · exact owned.step taken
    · cases taken
  simp only [machine] at taken
  split at taken
  · cases a with
    | Kill msgKill =>
        have kills := kills_killHandler taken
        constructor
        · intro all i e found at_i
          rw [← owned.ownChild_iff (List.mem_of_getElem? at_i)]
          exact all _ _ ((kills _ _).mpr ⟨i, e, found, at_i, rfl, rfl⟩)
        · rintro all SdmPid OsPid mem
          obtain ⟨i, e, found, at_i, rfl, rfl⟩ := (kills _ _).mp mem
          exact (owned.ownChild_iff (List.mem_of_getElem? at_i)).mpr (all i e found at_i)
    | Monitor uiCurSeconds =>
        cases taken
        refine (kills_monitorRound fun _ => not_ownChild_zero).trans ?_
        exact forall₂_congr fun e mem => owned.ownChild_iff (mem_of_mem_dueEntries mem)
    | _ =>
        refine iff_of_true (fun SdmPid OsPid mem => ?_) trivial
        exact absurd mem (not_kill_of_act taken nofun nofun)
  · cases taken

/-- What the threads do until the first task runs as process 5. -/
def firstLaunch : List PMAction :=
  [.RecvTask ⟨.zero, 0, .empty, 7, 0⟩ true, .TaskHandler 0 true true, .Dequeue, .LaunchTask true,
    .Fork (some 5), .UpdateOsPid]

/-- A kill of the first task, once it runs. -/
theorem kill_targets_first : ∃ s s', (machine 1).exec start firstLaunch = some s ∧
    (machine 1).step s (.Kill ⟨7, 0⟩) = some (s', [.kill 7 5]) ∧
    ((∀ SdmPid OsPid, .kill SdmPid OsPid ∈ [PMEvent.kill 7 5] → s.OwnChild SdmPid OsPid) ↔
      s.KillsOwn (.Kill ⟨7, 0⟩)) := by
  have shown : (((machine 1).exec start firstLaunch).bind fun s =>
      ((machine 1).step s (.Kill ⟨7, 0⟩)).map Prod.snd) = some [.kill 7 5] := by
    decide +kernel
  obtain ⟨s, done, rest⟩ := Option.bind_eq_some_iff.mp shown
  obtain ⟨⟨s', out⟩, taken, rfl⟩ := Option.map_eq_some_iff.mp rest
  exact ⟨s, s', done, taken,
    kill_targets (.exec .start (fun _ _ _ => trivial) done) taken⟩

/-- A kill of a task that `LaunchTask` has put in the list, before its child is there. -/
theorem not_kill_targets : ¬ ∀ s a s' out, (machine 1).Reachable start s →
    (machine 1).step s a = some (s', out) →
    ∀ SdmPid OsPid, .kill SdmPid OsPid ∈ out → s.OwnChild SdmPid OsPid := by
  intro all
  have shown : (((machine 1).exec start (firstLaunch.take 4)).bind fun s =>
      ((machine 1).step s (.Kill ⟨7, 0⟩)).map Prod.snd) = some [.kill 7 0] := by
    decide +kernel
  obtain ⟨s, done, rest⟩ := Option.bind_eq_some_iff.mp shown
  obtain ⟨⟨s', out⟩, taken, rfl⟩ := Option.map_eq_some_iff.mp rest
  have child := all s _ s' _ (.exec .start (fun _ _ _ => trivial) done) taken 7 0
    (List.mem_singleton_self _)
  exact not_ownChild_zero child

end Steps

end ProcessManager

end Sdm
