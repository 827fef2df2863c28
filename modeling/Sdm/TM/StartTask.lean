import Sdm.Lib.Memory
import Sdm.Message.PostTask
import Sdm.TM.TaskManager

/-!
The start-task command and the task info that is reported for its task.

The command carries a code for each property of the task. `CommandHandler` packs the codes
into the resource word of an `SDMPostTask`, and `FillTaskInfoRequest` unpacks the word again.
The word is copied into the message before the node id is put into it, and the node id is
taken out of it eight bits too high.

* `other_fields_agree`: everything but the node id is reported as the command carried it.
* `start_task_never_agrees`: the node id never is.
-/

namespace Sdm

open Lib Memory

/-! ### The codes of the interface (`TmXtedsDefs.h`) -/

def EXECUTION_MODE_NORMAL : UInt8 := 1
def EXECUTION_MODE_ALWAYS_RUNNING : UInt8 := 2

def ARCH_TYPE_INTEL : UInt8 := 1
def ARCH_TYPE_MICROBLAZE : UInt8 := 2
def ARCH_TYPE_SPARC : UInt8 := 3

def OS_TYPE_LINUX26 : UInt8 := 1
def OS_TYPE_WIN32 : UInt8 := 2
def OS_TYPE_VXWORKS : UInt8 := 3

def MEM_TYPE_64 : UInt8 := 1
def MEM_TYPE_128 : UInt8 := 2
def MEM_TYPE_256 : UInt8 := 3
def MEM_TYPE_512 : UInt8 := 4

def TASK_STATE_QUEUED : UInt8 := 1
def TASK_STATE_SCHEDULED : UInt8 := 2
def TASK_STATE_RUNNING : UInt8 := 3
def TASK_STATE_STOPPED : UInt8 := 4

/-- `XTEDS_MAX_TASK_NAME_SIZE`. -/
def XTEDS_MAX_TASK_NAME_SIZE : Nat := MAX_FILENAME_SIZE

namespace SDMTaskResources

/-! ### The switches of `CommandHandler` -/

def setArchType (r : SDMTaskResources) (cArchType : UInt8) : SDMTaskResources :=
  if cArchType = ARCH_TYPE_INTEL then r.SetArch SDM_INTEL
  else if cArchType = ARCH_TYPE_MICROBLAZE then r.SetArch SDM_MICROBLAZE
  else if cArchType = ARCH_TYPE_SPARC then r.SetArch SDM_SPARC
  else r

def setOsType (r : SDMTaskResources) (cOsType : UInt8) : SDMTaskResources :=
  if cOsType = OS_TYPE_LINUX26 then r.SetOs SDM_LINUX26
  else if cOsType = OS_TYPE_WIN32 then r.SetOs SDM_WIN32
  else if cOsType = OS_TYPE_VXWORKS then r.SetOs SDM_VXWORKS
  else r

def setMemType (r : SDMTaskResources) (cMemType : UInt8) : SDMTaskResources :=
  if cMemType = MEM_TYPE_64 then r.SetMem SDM_MEM64
  else if cMemType = MEM_TYPE_128 then r.SetMem SDM_MEM128
  else if cMemType = MEM_TYPE_256 then r.SetMem SDM_MEM256
  else if cMemType = MEM_TYPE_512 then r.SetMem SDM_MEM512
  else r

/-! ### The switches of `FillTaskInfoRequest` -/

def archType (r : SDMTaskResources) : UInt8 :=
  if r.GetArch = SDM_INTEL then ARCH_TYPE_INTEL
  else if r.GetArch = SDM_MICROBLAZE then ARCH_TYPE_MICROBLAZE
  else 0

def osType (r : SDMTaskResources) : UInt8 :=
  if r.GetOs = SDM_LINUX26 then OS_TYPE_LINUX26
  else if r.GetOs = SDM_WIN32 then OS_TYPE_WIN32
  else 0

def memType (r : SDMTaskResources) : UInt8 :=
  if r.GetMem = SDM_MEM64 then MEM_TYPE_64
  else if r.GetMem = SDM_MEM128 then MEM_TYPE_128
  else if r.GetMem = SDM_MEM256 then MEM_TYPE_256
  else if r.GetMem = SDM_MEM512 then MEM_TYPE_512
  else 0

end SDMTaskResources

/-- The state of a task as a code. -/
def TaskState.code : TaskState → UInt8
  | .SCHEDULED => TASK_STATE_SCHEDULED
  | .PENDING => TASK_STATE_QUEUED
  | .FINISHED => TASK_STATE_STOPPED
  | .RUNNING => TASK_STATE_RUNNING
  | _ => 0

/-- The execution mode from its code; the mode of a new message is 0. -/
def modeOfCode (cMode : UInt8) : Int32 :=
  if cMode = EXECUTION_MODE_NORMAL then MODE_NORMAL
  else if cMode = EXECUTION_MODE_ALWAYS_RUNNING then MODE_ALWAYS_RUNNING
  else 0

/-- The code of an execution mode. -/
def codeOfMode (taskMode : Int32) : UInt8 :=
  if taskMode = MODE_NORMAL then EXECUTION_MODE_NORMAL
  else if taskMode = MODE_ALWAYS_RUNNING then EXECUTION_MODE_ALWAYS_RUNNING
  else 0

namespace TaskManager

/-! ### The command -/

/-- The `SDMPostTask` that `CommandHandler` makes of the data of a `CMD_START_TASK`. -/
def startTaskMessage (data : Memory) : SDMPostTask :=
  let cur := XTEDS_MAX_TASK_NAME_SIZE
  let taskResources :=
    ((SDMTaskResources.zero.setArchType (data cur)).setOsType (data (cur + 1))).setMemType
      (data (cur + 2))
  -- The word is copied here. A positive node id, at `cur + 4`, goes into `taskResources`
  -- after this, and nothing reads it there.
  { resources := taskResources.GetUShort
    priority := 1
    sched_interval := 0
    mode := modeOfCode (data (cur + 3))
    version := (data (cur + 5)).toInt8.toInt32
    filename := .ofBytes (data.read 0 (MAX_FILENAME_SIZE - 1)) }

/-- The size of the buffer that `CommandHandler` marshals the message into. -/
def COMMAND_BUFFER : Nat := 256

/-- The `CMD_START_TASK` branch of `CommandHandler`, with what its buffer held before. -/
def CommandHandler (s : TaskManager) (data buf : Memory) (sec subsec : UInt32) : TaskManager :=
  match SDMPostTask.Unmarshal (buf.store 0 ((startTaskMessage data).Marshal sec subsec))
    COMMAND_BUFFER with
  | none => s
  | some msgPostTask => s.PostTask msgPostTask

end TaskManager

namespace TaskList

/-! ### The report -/

/-- What `FillTaskInfoRequest` writes about a task; a task without a file name has none. -/
def taskInfo (t : Task) (pBuffer : Memory) : Option Memory :=
  t.filename.map fun filename =>
    let cur := XTEDS_MAX_TASK_NAME_SIZE
    let pBuffer := pBuffer.store 0 (filename.bytes ++ [0])
    let pBuffer := pBuffer.store cur [t.resources.archType]
    let pBuffer := pBuffer.store (cur + 1) [t.resources.osType]
    let pBuffer := pBuffer.store (cur + 2) [t.resources.memType]
    let pBuffer := pBuffer.store (cur + 3) [t.resources.GetPreferredPmIdNum]
    let pBuffer := pBuffer.store (cur + 4) [t.state.code]
    pBuffer.store (cur + 5) [codeOfMode t.taskMode]

/-- The first entry in use with the pid. -/
def infoEntry (tasks : TaskList) (uiPid : UInt32) : Option (Fin NUMTASKS) :=
  Fin.find? fun n => (tasks n).state != .INACTIVE && (tasks n).pid == uiPid

/-- `TaskList::FillTaskInfoRequest`: the number of bytes and the buffer. -/
def FillTaskInfoRequest (tasks : TaskList) (uiPid : UInt32) (pBuffer : Memory) :
    Option (Nat × Memory) :=
  match tasks.infoEntry uiPid with
  | none => some (0, pBuffer)
  | some n => (taskInfo (tasks n) pBuffer).map fun info => (XTEDS_MAX_TASK_NAME_SIZE + 6, info)

end TaskList

/-! ### Agreement -/

/-- The codes of the data are those of the interface: the architectures, operating systems,
memories and modes that its document declares, and a node id. -/
structure WellCoded (data : Memory) : Prop where
  arch : data XTEDS_MAX_TASK_NAME_SIZE = ARCH_TYPE_INTEL ∨
    data XTEDS_MAX_TASK_NAME_SIZE = ARCH_TYPE_MICROBLAZE
  os : data (XTEDS_MAX_TASK_NAME_SIZE + 1) = OS_TYPE_LINUX26 ∨
    data (XTEDS_MAX_TASK_NAME_SIZE + 1) = OS_TYPE_WIN32
  mem : 1 ≤ data (XTEDS_MAX_TASK_NAME_SIZE + 2) ∧ data (XTEDS_MAX_TASK_NAME_SIZE + 2) ≤ 4
  mode : data (XTEDS_MAX_TASK_NAME_SIZE + 3) = EXECUTION_MODE_NORMAL ∨
    data (XTEDS_MAX_TASK_NAME_SIZE + 3) = EXECUTION_MODE_ALWAYS_RUNNING
  node : 1 ≤ data (XTEDS_MAX_TASK_NAME_SIZE + 4) ∧ data (XTEDS_MAX_TASK_NAME_SIZE + 4) ≤ 15

/-- The report agrees with the data in the file name, the codes and the mode. -/
structure OthersAgree (data info : Memory) : Prop where
  filename : info.text 0 XTEDS_MAX_TASK_NAME_SIZE = data.text 0 XTEDS_MAX_TASK_NAME_SIZE
  arch : info XTEDS_MAX_TASK_NAME_SIZE = data XTEDS_MAX_TASK_NAME_SIZE
  os : info (XTEDS_MAX_TASK_NAME_SIZE + 1) = data (XTEDS_MAX_TASK_NAME_SIZE + 1)
  mem : info (XTEDS_MAX_TASK_NAME_SIZE + 2) = data (XTEDS_MAX_TASK_NAME_SIZE + 2)
  mode : info (XTEDS_MAX_TASK_NAME_SIZE + 5) = data (XTEDS_MAX_TASK_NAME_SIZE + 3)

/-- The report agrees with the data in everything. -/
structure InfoAgrees (data info : Memory) : Prop extends OthersAgree data info where
  node : info (XTEDS_MAX_TASK_NAME_SIZE + 3) = data (XTEDS_MAX_TASK_NAME_SIZE + 4)

section Lemmas

variable {data buf pBuffer : Memory} {sec subsec : UInt32} {s : TaskManager} {n : Fin NUMTASKS}

/-! ### The task that is posted -/

/-- A text in an array is what stands before the terminator of its bytes but the last. -/
theorem ofBytes_of_text {filename : CString} {size : Nat}
    (name : data.text 0 (size + 1) = some filename) :
    CString.ofBytes (data.read 0 size) = filename := by
  have split : data.read 0 (size + 1) = data.read 0 size ++ [data size] := by
    rw [read_add]
    simp [Memory.read]
  rw [text] at name
  split at name
  · rename_i inside
    have nul : 0 ∈ data.read 0 (size + 1) := inside
    cases name
    apply CString.ext
    show (data.read 0 size).takeWhile (· ≠ 0) = (data.read 0 (size + 1)).takeWhile (· ≠ 0)
    rw [split] at nul ⊢
    rw [List.takeWhile_append]
    split
    · rename_i whole
      have last : data size = 0 := by
        by_contra nonzero
        rcases List.mem_append.mp nul with before | last
        · have same := (List.takeWhile_prefix _).eq_of_length whole
          have clear := List.takeWhile_eq_self_iff.mp same 0 before
          simp at clear
        · exact nonzero (List.mem_singleton.mp last).symm
      rw [(List.takeWhile_prefix _).eq_of_length whole, last]
      simp
    · rfl
  · cases name

theorem length_ofBytes_read {size : Nat} : (CString.ofBytes (data.read 0 size)).length ≤ size := by
  have shorter := (List.takeWhile_prefix (p := fun b : UInt8 => decide (b ≠ 0))
    (l := data.read 0 size)).length_le
  rwa [length_read] at shorter

namespace TaskManager

/-- The message survives its way through the buffer. -/
theorem commandHandler_eq :
    s.CommandHandler data buf sec subsec = s.PostTask (startTaskMessage data) := by
  have short : (startTaskMessage data).filename.length ≤ MAX_FILENAME_SIZE - 1 :=
    length_ofBytes_read
  have received : SDMPostTask.Unmarshal
      (buf.store 0 ((startTaskMessage data).Marshal sec subsec)) COMMAND_BUFFER =
      some (startTaskMessage data) := by
    apply SDMPostTask.unmarshal_marshal
    · exact Nat.lt_of_le_of_lt short (by decide)
    · simp only [HEADER_SIZE, COMMAND_BUFFER, MAX_FILENAME_SIZE] at short ⊢
      omega
  unfold CommandHandler
  rw [received]

/-- The entry of the posted task. -/
theorem commandHandler_entry (data buf : Memory) (sec subsec : UInt32)
    (free : s.taskList.firstIn .INACTIVE = some n) :
    ((s.CommandHandler data buf sec subsec).taskList n).filename =
        some (startTaskMessage data).filename ∧
      ((s.CommandHandler data buf sec subsec).taskList n).resources =
        ⟨(startTaskMessage data).resources⟩ ∧
      ((s.CommandHandler data buf sec subsec).taskList n).taskMode =
        (startTaskMessage data).mode := by
  rw [commandHandler_eq]
  unfold PostTask
  dsimp only
  rw [TaskList.addTo_of_room free, TaskList.modify_self]
  exact ⟨rfl, rfl, rfl⟩

end TaskManager

/-! ### The codes -/

section Codes

variable {c : UInt8}

theorem mem_cases (low : 1 ≤ c) (high : c ≤ 4) :
    c = MEM_TYPE_64 ∨ c = MEM_TYPE_128 ∨ c = MEM_TYPE_256 ∨ c = MEM_TYPE_512 := by
  have all : ∀ x : BitVec 8, 1 ≤ x → x ≤ 4 → x = 1 ∨ x = 2 ∨ x = 3 ∨ x = 4 := by decide
  rcases all c.toBitVec low high with e | e | e | e
  · exact .inl (UInt8.toBitVec_inj.mp e)
  · exact .inr (.inl (UInt8.toBitVec_inj.mp e))
  · exact .inr (.inr (.inl (UInt8.toBitVec_inj.mp e)))
  · exact .inr (.inr (.inr (UInt8.toBitVec_inj.mp e)))

/-- Each switch of the report undoes the switch of the command, whatever the other nibbles. -/
theorem codes_read_back (coded : WellCoded data) :
    SDMTaskResources.archType ⟨(TaskManager.startTaskMessage data).resources⟩ =
        data XTEDS_MAX_TASK_NAME_SIZE ∧
      SDMTaskResources.osType ⟨(TaskManager.startTaskMessage data).resources⟩ =
        data (XTEDS_MAX_TASK_NAME_SIZE + 1) ∧
      SDMTaskResources.memType ⟨(TaskManager.startTaskMessage data).resources⟩ =
        data (XTEDS_MAX_TASK_NAME_SIZE + 2) := by
  unfold TaskManager.startTaskMessage
  dsimp only
  rcases coded.arch with arch | arch <;> rcases coded.os with os | os <;>
    rcases mem_cases coded.mem.1 coded.mem.2 with mem | mem | mem | mem <;>
    rw [arch, os, mem] <;>
    decide

theorem mode_read_back
    (mode : c = EXECUTION_MODE_NORMAL ∨ c = EXECUTION_MODE_ALWAYS_RUNNING) :
    codeOfMode (modeOfCode c) = c := by
  rcases mode with rfl | rfl <;> decide

/-- The node id that is reported has nothing in its low nibble. -/
theorem getPreferredPmIdNum_low (r : SDMTaskResources) : r.GetPreferredPmIdNum &&& 0x0F = 0 := by
  have apart : ∀ i : Fin 8, ((61440#16).getLsbD (i + 8) && (15#8).getLsbD i) = false := by decide
  rw [SDMTaskResources.GetPreferredPmIdNum]
  apply UInt8.toBitVec_inj.mp
  apply BitVec.eq_of_getLsbD_eq
  intro i lt
  have here := apart ⟨i, lt⟩
  simp only [Bool.and_eq_false_imp] at here
  simp [PMIDMASK]
  intro _ _ low
  grind

/-- A node id has something in its low nibble. -/
theorem node_low (low : 1 ≤ c) (high : c ≤ 15) : c &&& 0x0F ≠ 0 := by
  have all : ∀ x : BitVec 8, 1 ≤ x → x ≤ 15 → x &&& 15 ≠ 0 := by decide
  intro zero
  exact all c.toBitVec low high (congrArg UInt8.toBitVec zero)

end Codes

/-! ### The report -/

namespace TaskList

/-- A task with a file name is reported. -/
theorem exists_taskInfo {t : Task} {filename : CString} (pBuffer : Memory)
    (name : t.filename = some filename) : ∃ info, taskInfo t pBuffer = some info := by
  rw [taskInfo, name]
  exact ⟨_, rfl⟩

/-- What stands in a report after the file name. -/
theorem taskInfo_codes {t : Task} {info : Memory} (reported : taskInfo t pBuffer = some info) :
    info XTEDS_MAX_TASK_NAME_SIZE = t.resources.archType ∧
      info (XTEDS_MAX_TASK_NAME_SIZE + 1) = t.resources.osType ∧
      info (XTEDS_MAX_TASK_NAME_SIZE + 2) = t.resources.memType ∧
      info (XTEDS_MAX_TASK_NAME_SIZE + 3) = t.resources.GetPreferredPmIdNum ∧
      info (XTEDS_MAX_TASK_NAME_SIZE + 5) = codeOfMode t.taskMode := by
  obtain ⟨filename, _, rfl⟩ := Option.map_eq_some_iff.mp reported
  refine ⟨?_, ?_, ?_, ?_, ?_⟩
  all_goals simp [store_singleton_of_ne]

/-- The file name in a report. -/
theorem taskInfo_text {t : Task} {filename : CString} {info : Memory}
    (name : t.filename = some filename) (short : filename.length < XTEDS_MAX_TASK_NAME_SIZE)
    (reported : taskInfo t pBuffer = some info) :
    info.text 0 XTEDS_MAX_TASK_NAME_SIZE = some filename := by
  rw [taskInfo, name] at reported
  cases reported
  have size : (filename.bytes ++ [0]).length = filename.length + 1 := by
    rw [List.length_append]
    rfl
  have here : (pBuffer.store 0 (filename.bytes ++ [0])).Has 0 (filename.bytes ++ [0]) := has_store
  apply Has.text _ (by omega)
  repeat apply Has.store _ (by omega)
  exact here

end TaskList

/-! ### The command and the report -/

/-- **Everything but the node id** is reported as the command carried it. -/
theorem other_fields_agree {filename : CString} (free : s.taskList.firstIn .INACTIVE = some n)
    (coded : WellCoded data) (name : data.text 0 XTEDS_MAX_TASK_NAME_SIZE = some filename) :
    ∃ info, TaskList.taskInfo ((s.CommandHandler data buf sec subsec).taskList n) pBuffer =
      some info ∧ OthersAgree data info := by
  obtain ⟨named, resources, mode⟩ := TaskManager.commandHandler_entry data buf sec subsec free
  obtain ⟨info, reported⟩ := TaskList.exists_taskInfo pBuffer named
  obtain ⟨arch, os, mem, _, modeCode⟩ := TaskList.taskInfo_codes reported
  obtain ⟨archBack, osBack, memBack⟩ := codes_read_back coded
  rw [resources] at arch os mem
  rw [mode] at modeCode
  have short : (TaskManager.startTaskMessage data).filename.length ≤ MAX_FILENAME_SIZE - 1 :=
    length_ofBytes_read
  have text := TaskList.taskInfo_text named (Nat.lt_of_le_of_lt short (by decide)) reported
  refine ⟨info, reported, ?_, arch.trans archBack, os.trans osBack, mem.trans memBack,
    modeCode.trans (mode_read_back coded.mode)⟩
  rw [text, name]
  exact congrArg some (ofBytes_of_text name)

/-- **The report never agrees** with the command, whichever entry it is about: no node id is
reported. -/
theorem start_task_never_agrees (free : s.taskList.firstIn .INACTIVE = some n)
    (coded : WellCoded data) :
    (∃ info, TaskList.taskInfo ((s.CommandHandler data buf sec subsec).taskList n) pBuffer =
      some info ∧ ¬ InfoAgrees data info) ∧
    ∀ uiPid size info, size ≠ 0 →
      (s.CommandHandler data buf sec subsec).taskList.FillTaskInfoRequest uiPid pBuffer =
        some (size, info) → ¬ InfoAgrees data info := by
  have never : ∀ t info, TaskList.taskInfo t pBuffer = some info → ¬ InfoAgrees data info := by
    intro t info reported agrees
    have node := (TaskList.taskInfo_codes reported).2.2.2.1
    rw [agrees.node] at node
    have low := getPreferredPmIdNum_low t.resources
    rw [← node] at low
    exact node_low coded.node.1 coded.node.2 low
  constructor
  · obtain ⟨named, _, _⟩ := TaskManager.commandHandler_entry data buf sec subsec free
    obtain ⟨info, reported⟩ := TaskList.exists_taskInfo pBuffer named
    exact ⟨info, reported, never _ info reported⟩
  · intro uiPid size info nonzero filled
    unfold TaskList.FillTaskInfoRequest at filled
    cases found : (s.CommandHandler data buf sec subsec).taskList.infoEntry uiPid with
    | none =>
        rw [found] at filled
        cases filled
        exact absurd rfl nonzero
    | some m =>
        rw [found] at filled
        obtain ⟨info', reported, same⟩ := Option.map_eq_some_iff.mp filled
        cases same
        exact never _ info reported

end Lemmas

/-- The data of a command: a task with an empty name on Intel under Linux, in 64 megabytes, run
once on node 1. -/
def firstCommand : Memory := Memory.store (fun _ => 0) XTEDS_MAX_TASK_NAME_SIZE [1, 1, 1, 1, 1, 1]

/-- A Task Manager after its first command. -/
def firstPosted : TaskManager := TaskManager.start.CommandHandler firstCommand (fun _ => 0) 0 0

theorem wellCoded_firstCommand : WellCoded firstCommand where
  arch := .inl (by decide)
  os := .inl (by decide)
  mem := by decide
  mode := .inl (by decide)
  node := by decide

/-- The first command of a Task Manager. -/
theorem start_task_never_agrees_first :
    (∃ info, TaskList.taskInfo (firstPosted.taskList ⟨0, by decide⟩) (fun _ => 0) = some info ∧
      ¬ InfoAgrees firstCommand info) ∧
    ∀ uiPid size info, size ≠ 0 →
      firstPosted.taskList.FillTaskInfoRequest uiPid (fun _ => 0) = some (size, info) →
        ¬ InfoAgrees firstCommand info :=
  start_task_never_agrees (by decide +kernel) wellCoded_firstCommand

/-- The report of the first task gives 0 for its node id. -/
theorem start_task_loses_node :
    ¬ ∀ (s : TaskManager) (data buf pBuffer : Memory) (sec subsec : UInt32) (n : Fin NUMTASKS) info,
      s.taskList.firstIn .INACTIVE = some n → WellCoded data →
      TaskList.taskInfo ((s.CommandHandler data buf sec subsec).taskList n) pBuffer = some info →
      InfoAgrees data info := by
  intro all
  have ran : ((TaskList.taskInfo (firstPosted.taskList ⟨0, by decide⟩) fun _ => 0).map fun info =>
      info (XTEDS_MAX_TASK_NAME_SIZE + 3)) = some 0 := by
    decide +kernel
  obtain ⟨info, reported, zero⟩ := Option.map_eq_some_iff.mp ran
  have node := (all _ _ _ _ _ _ _ info (by decide +kernel) wellCoded_firstCommand reported).node
  rw [zero] at node
  revert node
  decide

end Sdm
