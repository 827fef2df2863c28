import Sdm.Lib.CString
import Sdm.Lib.ListIndex

/-!
The running tasks of the Process Manager.

An entry names the task by its SDM pid, and the process that runs it by its operating system
pid. The latter is 0 between `Add` and `UpdateOsPid`, and from `Reset` until the task is
launched again.

* `mem_add`, `mem_updateOsPid`: what the entries are after a change of the list.
* `pids_add`: the list gets an entry for a pid that it did not have.
-/

namespace Sdm

open Sdm.Lib

def TASK_HEARTBEAT_TIMEOUT : UInt32 := 10

def TASK_TIMEOUT_ATTEMPTS : UInt32 := 6

def MAX_TASK_FAILURES : UInt32 := 5

structure PMProcess where
  strFilename : CString
  ulLastHeartbeat : UInt32
  ulHeartbeatMissCount : UInt32
  uiSdmPid : UInt32
  OsPid : Nat
  uiTotalFailCount : UInt32
  bFailedState : Bool
deriving DecidableEq

namespace PMProcess

/-- A process with no operating system pid yet. -/
def ofTask (Name : CString) (SdmPid : UInt32) : PMProcess := ⟨Name, 0, 0, SdmPid, 0, 0, false⟩

def SetOsPid (e : PMProcess) (OsPid : Nat) : PMProcess := { e with OsPid := OsPid }

def HeartbeatReceived (e : PMProcess) (uiCurSeconds : UInt32) : PMProcess :=
  { e with ulLastHeartbeat := uiCurSeconds, ulHeartbeatMissCount := 0 }

/-- Whether the process missed its heartbeats. A missed interval counts as a heartbeat, so that
another one can pass. -/
def IsUnresponsive (e : PMProcess) (uiCurSeconds : UInt32) : Bool × PMProcess :=
  if e.ulLastHeartbeat = 0 ∧ e.bFailedState = false then (false, e)
  else if uiCurSeconds < e.ulLastHeartbeat then (false, e)
  else if uiCurSeconds - e.ulLastHeartbeat < TASK_HEARTBEAT_TIMEOUT then (false, e)
  else
    (decide (TASK_TIMEOUT_ATTEMPTS ≤ e.ulHeartbeatMissCount + 1),
      { e with
        ulLastHeartbeat := e.ulLastHeartbeat + TASK_HEARTBEAT_TIMEOUT
        ulHeartbeatMissCount := e.ulHeartbeatMissCount + 1 })

def Failure (e : PMProcess) : PMProcess :=
  { e with
    bFailedState := true
    uiTotalFailCount := e.uiTotalFailCount + 1
    ulLastHeartbeat := 0
    ulHeartbeatMissCount := 0 }

def Reset (e : PMProcess) : PMProcess := { e with OsPid := 0, bFailedState := false }

variable {e : PMProcess} {uiCurSeconds : UInt32}

/-- Looking at the heartbeats changes the heartbeats only. -/
theorem isUnresponsive_kept :
    (e.IsUnresponsive uiCurSeconds).2.strFilename = e.strFilename ∧
      (e.IsUnresponsive uiCurSeconds).2.uiSdmPid = e.uiSdmPid ∧
      (e.IsUnresponsive uiCurSeconds).2.OsPid = e.OsPid ∧
      (e.IsUnresponsive uiCurSeconds).2.uiTotalFailCount = e.uiTotalFailCount ∧
      (e.IsUnresponsive uiCurSeconds).2.bFailedState = e.bFailedState := by
  unfold IsUnresponsive
  split
  · exact ⟨rfl, rfl, rfl, rfl, rfl⟩
  · split
    · exact ⟨rfl, rfl, rfl, rfl, rfl⟩
    · split <;> exact ⟨rfl, rfl, rfl, rfl, rfl⟩

@[simp]
theorem isUnresponsive_uiSdmPid : (e.IsUnresponsive uiCurSeconds).2.uiSdmPid = e.uiSdmPid :=
  isUnresponsive_kept.2.1

@[simp]
theorem isUnresponsive_OsPid : (e.IsUnresponsive uiCurSeconds).2.OsPid = e.OsPid :=
  isUnresponsive_kept.2.2.1

end PMProcess

structure PMProcessList where
  m_ProcessList : List PMProcess

namespace PMProcessList

def GetIndexOfOsPid (l : PMProcessList) (OsPid : Nat) : Option Nat :=
  l.m_ProcessList.findIdx? fun e => e.OsPid == OsPid

def GetIndexOfSdmPid (l : PMProcessList) (SdmPid : UInt32) : Option Nat :=
  l.m_ProcessList.findIdx? fun e => e.uiSdmPid == SdmPid

/-- The list with one entry changed. -/
def modify (l : PMProcessList) (Index : Nat) (f : PMProcess → PMProcess) : PMProcessList :=
  ⟨l.m_ProcessList.modify Index f⟩

/-- Add the process, or take the operating system pid from the entry of a task that is started
again; the result holds the index of the entry. -/
def Add (l : PMProcessList) (TaskName : CString) (SdmPid : UInt32) : PMProcessList × Nat :=
  match l.GetIndexOfSdmPid SdmPid with
  | none => (⟨l.m_ProcessList ++ [.ofTask TaskName SdmPid]⟩, l.m_ProcessList.length)
  | some iIndex => (l.modify iIndex fun e => e.SetOsPid 0, iIndex)

/-- Erase an entry. An index past the last entry is refused, except the one right behind it,
which `erase` must not be called with. -/
def Remove (l : PMProcessList) (Index : Nat) : Option PMProcessList :=
  if l.m_ProcessList.length < Index then some l
  else if Index = l.m_ProcessList.length then none
  else some ⟨l.m_ProcessList.eraseIdx Index⟩

def UpdateOsPid (l : PMProcessList) (SdmPid : UInt32) (OsPid : Nat) : PMProcessList :=
  match l.GetIndexOfSdmPid SdmPid with
  | none => l
  | some iIndex => l.modify iIndex fun e => e.SetOsPid OsPid

def HeartbeatReceived (l : PMProcessList) (SdmPid uiCurSeconds : UInt32) : PMProcessList :=
  match l.GetIndexOfSdmPid SdmPid with
  | none => l
  | some Index => l.modify Index fun e => e.HeartbeatReceived uiCurSeconds

/-- The SDM pids of the entries, in order. -/
def pids (l : PMProcessList) : List UInt32 := l.m_ProcessList.map PMProcess.uiSdmPid

/-! ### What the operations change -/

variable {l l' : PMProcessList} {i : Nat} {e : PMProcess} {p : UInt32} {OsPid : Nat}
  {f : PMProcess → PMProcess}

theorem mem_pids : p ∈ l.pids ↔ ∃ e ∈ l.m_ProcessList, e.uiSdmPid = p := List.mem_map

theorem not_mem_pids_of_missing (missing : l.GetIndexOfSdmPid p = none) : p ∉ l.pids := by
  intro mem
  obtain ⟨e, entry, same⟩ := mem_pids.mp mem
  have not := List.findIdx?_eq_none_iff.mp missing e entry
  exact absurd (beq_iff_eq.mpr same) (Bool.eq_false_iff.mp not)

/-- The entry at the index that `GetIndexOfSdmPid` finds. -/
theorem exists_entry_of_sdmPid (found : l.GetIndexOfSdmPid p = some i) :
    ∃ e, l.m_ProcessList[i]? = some e ∧ e ∈ l.m_ProcessList ∧ e.uiSdmPid = p := by
  obtain ⟨e, pre, post, whole, hit, -, at_i, -, -⟩ := exists_split_of_findIdx? found
  exact ⟨e, at_i, List.mem_of_getElem? at_i, beq_iff_eq.mp hit⟩

/-- The entry at the index that `GetIndexOfOsPid` finds. -/
theorem exists_entry_of_osPid (found : l.GetIndexOfOsPid OsPid = some i) :
    ∃ e, l.m_ProcessList[i]? = some e ∧ e ∈ l.m_ProcessList ∧ e.OsPid = OsPid := by
  obtain ⟨e, pre, post, whole, hit, -, at_i, -, -⟩ := exists_split_of_findIdx? found
  exact ⟨e, at_i, List.mem_of_getElem? at_i, beq_iff_eq.mp hit⟩

theorem pids_modify (kept : ∀ e, (f e).uiSdmPid = e.uiSdmPid) : (l.modify i f).pids = l.pids :=
  map_modify_of_kept kept

/-- An entry after `Add` is an old one, or one of the task without an operating system pid. -/
theorem mem_add {TaskName : CString} (mem : e ∈ (l.Add TaskName p).1.m_ProcessList) :
    e ∈ l.m_ProcessList ∨ e.uiSdmPid = p ∧ e.OsPid = 0 := by
  unfold Add at mem
  cases found : l.GetIndexOfSdmPid p with
  | none =>
      rw [found] at mem
      rcases List.mem_append.mp mem with old | new
      · exact .inl old
      · rw [List.mem_singleton.mp new]
        exact .inr ⟨rfl, rfl⟩
  | some i =>
      rw [found] at mem
      obtain ⟨e', at_i, -, same⟩ := exists_entry_of_sdmPid found
      rcases mem_modify at_i mem with old | rfl
      · exact .inl old
      · exact .inr ⟨same, rfl⟩

theorem pids_add {TaskName : CString} :
    (l.Add TaskName p).1.pids = if p ∈ l.pids then l.pids else l.pids ++ [p] := by
  unfold Add
  cases found : l.GetIndexOfSdmPid p with
  | none =>
      rw [if_neg (not_mem_pids_of_missing found)]
      exact List.map_append
  | some i =>
      obtain ⟨e, -, mem, same⟩ := exists_entry_of_sdmPid found
      rw [if_pos (mem_pids.mpr ⟨e, mem, same⟩)]
      exact pids_modify fun _ => rfl

/-- An entry after `UpdateOsPid` is an old one, or one of the task with the new pid. -/
theorem mem_updateOsPid (mem : e ∈ (l.UpdateOsPid p OsPid).m_ProcessList) :
    e ∈ l.m_ProcessList ∨ e.uiSdmPid = p ∧ e.OsPid = OsPid := by
  unfold UpdateOsPid at mem
  cases found : l.GetIndexOfSdmPid p with
  | none =>
      rw [found] at mem
      exact .inl mem
  | some i =>
      rw [found] at mem
      obtain ⟨e', at_i, -, same⟩ := exists_entry_of_sdmPid found
      rcases mem_modify at_i mem with old | rfl
      · exact .inl old
      · exact .inr ⟨same, rfl⟩

theorem pids_updateOsPid : (l.UpdateOsPid p OsPid).pids = l.pids := by
  unfold UpdateOsPid
  cases l.GetIndexOfSdmPid p with
  | none => rfl
  | some i => exact pids_modify fun _ => rfl

/-- The removal of an entry at its index. -/
theorem remove_of_entry (at_i : l.m_ProcessList[i]? = some e) :
    l.Remove i = some ⟨l.m_ProcessList.eraseIdx i⟩ := by
  have lt := (List.getElem?_eq_some_iff.mp at_i).1
  unfold Remove
  rw [if_neg (not_lt.mpr lt.le), if_neg (ne_of_lt lt)]

end PMProcessList

end Sdm
