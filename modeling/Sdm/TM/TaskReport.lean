import Sdm.Lib.Checked
import Sdm.Lib.Decimal
import Sdm.Lib.Packing
import Sdm.TM.TaskList

/-!
`TaskList::FillTaskListBlob`: the task list as the Task Manager reports it.

The report is a count and a line for each task, one behind the other. A line is written
when the offset behind it stays below the bytes that remain. The offset grows by each line
and the bytes that remain shrink by it, so a line counts twice.

* `fillTaskListBlob_eq`: the report stays in its buffer, and it is of the lines that are packed.
* `packed_eq_self_iff_room`: which buffers take all the lines.
-/

namespace Sdm

open Sdm.Lib

/-- `TaskSet`. -/
inductive TaskSet where
  | TASKS_ALL
  | TASKS_RUNNING
  deriving DecidableEq, Repr

namespace Task

/-- The line of a task: `"%-8u%s\n"` in an array of 512 characters. The C library prints a text
that is not set as `(null)`. -/
def line (t : Task) : CString :=
  ((((decimal t.pid.toNat).padRight 8).append (t.filename.getD (.ofString "(null)"))).append
    (.ofString "\n")).take 511

/-- The task is one of the set that is asked for. -/
def Qualifies (eTaskSet : TaskSet) (t : Task) : Prop :=
  match eTaskSet with
  | .TASKS_ALL => t.state ≠ .INACTIVE
  | .TASKS_RUNNING => t.state = .SCHEDULED

instance (eTaskSet : TaskSet) : DecidablePred (Qualifies eTaskSet) := fun t => by
  cases eTaskSet
  · exact inferInstanceAs (Decidable (t.state ≠ .INACTIVE))
  · exact inferInstanceAs (Decidable (t.state = .SCHEDULED))

end Task

/-- The locals of `FillTaskListBlob`, and its buffer. -/
structure Blob where
  pBuffer : Memory
  uiCurOffset : Nat
  uiBytesRemaining : Nat
  usNumTasks : UInt16

namespace Blob

/-- One line, which is left out when it does not fit. -/
def addLine (uiBufferSize : Nat) (b : Blob) (strFormatString : CString) : Checked Blob :=
  if b.uiCurOffset + strFormatString.length < b.uiBytesRemaining then do
    Checked.access ⟨uiBufferSize, b.uiCurOffset, strFormatString.length + 1⟩
    pure {
      pBuffer := b.pBuffer.store b.uiCurOffset (strFormatString.bytes ++ [0])
      uiCurOffset := b.uiCurOffset + strFormatString.length
      uiBytesRemaining := b.uiBytesRemaining - strFormatString.length
      usNumTasks := b.usNumTasks + 1 }
  else pure b

/-- The body of the loop. -/
def addTask (uiBufferSize : Nat) (eTaskSet : TaskSet) (b : Blob) (t : Task) : Checked Blob :=
  if t.state = .INACTIVE then pure b
  else
    match eTaskSet with
    | .TASKS_RUNNING =>
        if t.state ≠ .SCHEDULED then pure b else b.addLine uiBufferSize t.line
    | .TASKS_ALL => b.addLine uiBufferSize t.line

end Blob

namespace TaskList

/-- `TaskList::FillTaskListBlob`: the buffer and the length of what it holds. -/
def FillTaskListBlob (tasks : TaskList) (pBuffer : Memory) (uiBufferSize : Nat)
    (eTaskSet : TaskSet) : Checked (Memory × Nat) := do
  let b ← (List.finRange NUMTASKS).foldlM
    (fun b n => Blob.addTask uiBufferSize eTaskSet b (tasks n)) ⟨pBuffer, 2, uiBufferSize - 2, 0⟩
  Checked.access ⟨uiBufferSize, 0, 2⟩
  Checked.access ⟨uiBufferSize, b.uiCurOffset, 1⟩
  pure ((b.pBuffer.store 0 (Memory.bytes16 b.usNumTasks)).store b.uiCurOffset [0],
    b.uiCurOffset + 1)

/-- The tasks that are asked for, in the order of the list. -/
def qualifying (tasks : TaskList) (eTaskSet : TaskSet) : List (Fin NUMTASKS) :=
  (List.finRange NUMTASKS).filter fun n => (tasks n).Qualifies eTaskSet

end TaskList

/-- The text of these lines. -/
def linesText (lines : List CString) : List UInt8 := lines.flatMap CString.bytes

/-- How many characters these lines have. -/
def linesLength (lines : List CString) : Nat := (lines.map CString.length).sum

/-- The buffer takes the count, the lines and the terminator. -/
def Fits (uiBufferSize : Nat) (lines : List CString) : Prop :=
  2 + linesLength lines + 1 ≤ uiBufferSize

instance (uiBufferSize : Nat) (lines : List CString) : Decidable (Fits uiBufferSize lines) :=
  inferInstanceAs (Decidable (_ ≤ _))

/-- The last line fits when all the lines before it are counted twice. -/
def Room (uiBufferSize : Nat) (lines : List CString) : Prop :=
  ∀ last ∈ lines.getLast?, 2 * linesLength lines + 4 < uiBufferSize + last.length

/-- The guard of `addLine`, by the characters that are written already. -/
def LineFits (uiBufferSize used : Nat) (line : CString) : Prop :=
  2 + used + line.length < uiBufferSize - 2 - used

instance (uiBufferSize used : Nat) : DecidablePred (LineFits uiBufferSize used) := fun _ =>
  inferInstanceAs (Decidable (_ < _))

namespace Blob

section Specs

variable {uiBufferSize : Nat} {b : Blob} {lines : List CString} {line : CString} {m : Memory}

/-- What the loop has written: these lines, behind the place of the count. -/
structure Holds (uiBufferSize : Nat) (lines : List CString) (b : Blob) : Prop where
  here : b.pBuffer.Has 2 (linesText lines)
  offset : b.uiCurOffset = 2 + linesLength lines
  remaining : b.uiBytesRemaining = uiBufferSize - 2 - linesLength lines
  inside : 2 + linesLength lines < uiBufferSize
  count : b.usNumTasks = UInt16.ofNat lines.length

@[simp]
theorem linesLength_concat : linesLength (lines ++ [line]) = linesLength lines + line.length := by
  simp [linesLength]

@[simp]
theorem linesText_concat : linesText (lines ++ [line]) = linesText lines ++ line.bytes := by
  simp [linesText]

theorem length_linesText : (linesText lines).length = linesLength lines := List.length_flatMap

/-- A line that fits is written behind the others. -/
theorem addLine_of_fits (holds : Holds uiBufferSize lines b)
    (fits : LineFits uiBufferSize (linesLength lines) line) :
    ∃ b', b.addLine uiBufferSize line = .ok b' ∧ Holds uiBufferSize (lines ++ [line]) b' := by
  obtain ⟨here, offset, remaining, inside, count⟩ := holds
  unfold LineFits at fits
  have guard : b.uiCurOffset + line.length < b.uiBytesRemaining := by
    rw [offset, remaining]
    exact fits
  rw [addLine, if_pos guard]
  refine ⟨_, Checked.bind_eq_ok.mpr ⟨(), Checked.access_eq_ok.mpr ?_, rfl⟩, ?_⟩
  · show b.uiCurOffset + (line.length + 1) ≤ uiBufferSize
    omega
  · constructor
    · rw [linesText_concat, Memory.has_append, length_linesText, ← offset]
      constructor
      · apply here.store
        rw [length_linesText, offset]
        exact Or.inl (Nat.le_refl _)
      · exact (Memory.has_append.mp Memory.has_store).1
    · simp only [linesLength_concat, offset, Nat.add_assoc]
    · simp only [linesLength_concat, remaining]
      omega
    · rw [linesLength_concat]
      omega
    · simp [count]

/-- One that does not fit is left out. -/
theorem addLine_of_not (holds : Holds uiBufferSize lines b)
    (full : ¬ LineFits uiBufferSize (linesLength lines) line) :
    b.addLine uiBufferSize line = .ok b := by
  apply if_neg
  rw [holds.offset, holds.remaining]
  exact full

/-- **The lines that are written** are the ones that are packed. -/
theorem addLines (holds : Holds uiBufferSize lines b) (rest : List CString) :
    ∃ b', rest.foldlM (addLine uiBufferSize) b = .ok b' ∧ Holds uiBufferSize
      (lines ++ packed CString.length (LineFits uiBufferSize) (linesLength lines) rest) b' := by
  induction rest generalizing lines b with
  | nil =>
      rw [packed, List.append_nil]
      exact ⟨b, rfl, holds⟩
  | cons line rest ih =>
      rw [List.foldlM_cons]
      by_cases fits : LineFits uiBufferSize (linesLength lines) line
      · obtain ⟨next, written, holds⟩ := addLine_of_fits holds fits
        obtain ⟨final, run, holds⟩ := ih holds
        refine ⟨final, Checked.bind_eq_ok.mpr ⟨next, written, run⟩, ?_⟩
        rwa [packed_cons_of_fits fits, List.append_cons, ← linesLength_concat]
      · obtain ⟨final, run, held⟩ := ih holds
        refine ⟨final, Checked.bind_eq_ok.mpr ⟨b, addLine_of_not holds fits, run⟩, ?_⟩
        rwa [packed_cons_of_not fits]

theorem addTask_eq {eTaskSet : TaskSet} {t : Task} : b.addTask uiBufferSize eTaskSet t =
    if t.Qualifies eTaskSet then b.addLine uiBufferSize t.line else pure b := by
  unfold addTask
  cases eTaskSet with
  | TASKS_ALL =>
      by_cases inactive : t.state = .INACTIVE
      · simp [Task.Qualifies, inactive]
      · simp [Task.Qualifies, inactive]
  | TASKS_RUNNING =>
      by_cases running : t.state = .SCHEDULED
      · simp [Task.Qualifies, running]
      · simp [Task.Qualifies, running]

/-- The loop runs through the lines of the tasks that are asked for. -/
theorem addTasks_eq {eTaskSet : TaskSet} {tasks : TaskList} (ns : List (Fin NUMTASKS)) :
    ns.foldlM (fun b n => addTask uiBufferSize eTaskSet b (tasks n)) b =
      ((ns.filter fun n => (tasks n).Qualifies eTaskSet).map fun n => (tasks n).line).foldlM
        (addLine uiBufferSize) b := by
  induction ns generalizing b with
  | nil => rfl
  | cons n ns ih =>
      rw [List.foldlM_cons, addTask_eq]
      by_cases asked : (tasks n).Qualifies eTaskSet
      · rw [if_pos asked, List.filter_cons, if_pos (decide_eq_true asked), List.map_cons,
          List.foldlM_cons]
        exact congrArg _ (funext fun _ => ih)
      · rw [if_neg asked, List.filter_cons, if_neg (by simpa using asked), pure_bind, ih]

end Specs

end Blob

/-- **Which buffers take all the lines.** A line needs its place and the place of all the lines
before it once more. -/
theorem packed_eq_self_iff_room {uiBufferSize : Nat} {lines : List CString} :
    packed CString.length (LineFits uiBufferSize) 0 lines = lines ↔ Room uiBufferSize lines := by
  rw [packed_eq_self_iff]
  unfold LineFits
  constructor
  · intro all last isLast
    obtain ⟨before, rfl⟩ := List.getLast?_eq_some_iff.mp isLast
    have fits := all before last [] rfl
    simp only [Blob.linesLength_concat]
    unfold linesLength
    omega
  · rintro room before line after rfl
    have whole : linesLength (before ++ line :: after) =
        linesLength before + line.length + linesLength after := by
      simp [linesLength, Nat.add_assoc]
    unfold Room at room
    rw [whole] at room
    show 2 + (0 + linesLength before) + line.length <
      uiBufferSize - 2 - (0 + linesLength before)
    cases List.eq_nil_or_concat after with
    | inl last =>
        subst last
        have fits := room line (by simp)
        omega
    | inr longer =>
        obtain ⟨between, last, rfl⟩ := longer
        rw [List.concat_eq_append] at room
        have fits := room last
          (List.getLast?_eq_some_iff.mpr ⟨before ++ line :: between, by simp⟩)
        rw [Blob.linesLength_concat] at fits
        omega

namespace TaskList

variable {tasks : TaskList} {eTaskSet : TaskSet} {uiBufferSize length : Nat}
  {pBuffer blob : Memory} {included : List (Fin NUMTASKS)}

/-- The lines of these tasks. -/
def lines (tasks : TaskList) (ns : List (Fin NUMTASKS)) : List CString :=
  ns.map fun n => (tasks n).line

/-- A report of these tasks: their number, and their lines in the order of the list. -/
structure Reported (tasks : TaskList) (eTaskSet : TaskSet) (uiBufferSize : Nat)
    (included : List (Fin NUMTASKS)) (blob : Memory) (length : Nat) : Prop where
  order : included.Sublist (tasks.qualifying eTaskSet)
  count : (blob.load16 0).toNat = included.length
  text : blob.Has 2 (linesText (tasks.lines included) ++ [0])
  length_eq : length = 2 + linesLength (tasks.lines included) + 1
  inside : length ≤ uiBufferSize

/-- The report is written inside of the buffer, and it is of all the tasks that are asked for
when the buffer takes them. -/
def Reports (tasks : TaskList) (eTaskSet : TaskSet) (pBuffer : Memory) (uiBufferSize : Nat) :
    Prop :=
  ∃ blob length included,
    tasks.FillTaskListBlob pBuffer uiBufferSize eTaskSet = .ok (blob, length) ∧
    tasks.Reported eTaskSet uiBufferSize included blob length ∧
    (Fits uiBufferSize (tasks.lines (tasks.qualifying eTaskSet)) →
      included = tasks.qualifying eTaskSet)

theorem length_qualifying_le : (tasks.qualifying eTaskSet).length ≤ NUMTASKS := by
  have le := List.length_filter_le (fun n => decide ((tasks n).Qualifies eTaskSet))
    (List.finRange NUMTASKS)
  rwa [List.length_finRange] at le

/-- **The report** stays in its buffer, and it is of the lines that are packed. -/
theorem fillTaskListBlob_eq (pBuffer : Memory) (four : 4 ≤ uiBufferSize) :
    ∃ blob length included,
      tasks.FillTaskListBlob pBuffer uiBufferSize eTaskSet = .ok (blob, length) ∧
      tasks.Reported eTaskSet uiBufferSize included blob length ∧
      tasks.lines included = packed CString.length (LineFits uiBufferSize) 0
        (tasks.lines (tasks.qualifying eTaskSet)) := by
  have start : Blob.Holds uiBufferSize [] ⟨pBuffer, 2, uiBufferSize - 2, 0⟩ := by
    constructor
    · rfl
    · rfl
    · rfl
    · exact Nat.lt_of_lt_of_le (by decide) four
    · rfl
  obtain ⟨included, order, same⟩ : ∃ included, included.Sublist (tasks.qualifying eTaskSet) ∧
      packed CString.length (LineFits uiBufferSize) 0 (tasks.lines (tasks.qualifying eTaskSet)) =
        tasks.lines included := List.sublist_map_iff.mp packed_sublist
  obtain ⟨b, run, held⟩ := Blob.addLines start (tasks.lines (tasks.qualifying eTaskSet))
  have held : b.Holds uiBufferSize (tasks.lines included) := same ▸ held
  obtain ⟨here, offset, -, inside, count⟩ := held
  have short : included.length < 65536 :=
    Nat.lt_of_le_of_lt (order.length_le.trans length_qualifying_le) (by decide)
  have apart : b.uiCurOffset = 2 + (linesText (tasks.lines included)).length :=
    offset.trans (by rw [Blob.length_linesText])
  refine ⟨(b.pBuffer.store 0 (Memory.bytes16 b.usNumTasks)).store b.uiCurOffset [0],
    b.uiCurOffset + 1, included, ?_, ?_, same.symm⟩
  · unfold FillTaskListBlob
    rw [Blob.addTasks_eq]
    apply Checked.bind_eq_ok.mpr
    refine ⟨b, run, Checked.bind_eq_ok.mpr ⟨(), Checked.access_eq_ok.mpr ?_,
      Checked.bind_eq_ok.mpr ⟨(), Checked.access_eq_ok.mpr ?_, rfl⟩⟩⟩
    · show 0 + 2 ≤ uiBufferSize
      omega
    · show b.uiCurOffset + 1 ≤ uiBufferSize
      omega
  · constructor
    · exact order
    · have stored : ((b.pBuffer.store 0 (Memory.bytes16 b.usNumTasks)).store b.uiCurOffset [0]).Has
          0 (Memory.bytes16 b.usNumTasks) :=
        Memory.has_store.store (Or.inl (by rw [Memory.length_bytes16]; omega))
      rw [stored.load16, count, UInt16.toNat_ofNat', lines, List.length_map]
      exact Nat.mod_eq_of_lt short
    · rw [Memory.has_append]
      constructor
      · apply (here.store _).store
        · exact Or.inl (Nat.le_of_eq apart.symm)
        · exact Or.inr (Nat.le_refl _)
      · rw [← apart]
        exact Memory.has_store
    · rw [offset]
    · omega

/-- A complete report of tasks that all fit leaves the buffer room. -/
theorem room_of_reports (four : 4 ≤ uiBufferSize)
    (reports : tasks.Reports eTaskSet pBuffer uiBufferSize)
    (fit : Fits uiBufferSize (tasks.lines (tasks.qualifying eTaskSet))) :
    Room uiBufferSize (tasks.lines (tasks.qualifying eTaskSet)) := by
  obtain ⟨blob, length, included, filled, reported, same⟩ := fillTaskListBlob_eq pBuffer four
  obtain ⟨blob', length', included', filled', reported', complete⟩ := reports
  obtain ⟨rfl, rfl⟩ := Prod.mk.inj (Except.ok.inj (filled.symm.trans filled'))
  have all : included = tasks.qualifying eTaskSet := by
    apply reported.order.eq_of_length
    rw [← reported.count, reported'.count, complete fit]
  rw [all] at same
  exact packed_eq_self_iff_room.mp same.symm

/-- **The report is complete** when the tasks do not all fit, or when they do with all lines but
the last counted twice. -/
theorem fillTaskListBlob_reports_iff (pBuffer : Memory) (four : 4 ≤ uiBufferSize) :
    tasks.Reports eTaskSet pBuffer uiBufferSize ↔
      (Fits uiBufferSize (tasks.lines (tasks.qualifying eTaskSet)) →
        Room uiBufferSize (tasks.lines (tasks.qualifying eTaskSet))) := by
  constructor
  · exact room_of_reports four
  · intro room
    obtain ⟨blob, length, included, filled, reported, same⟩ := fillTaskListBlob_eq pBuffer four
    refine ⟨blob, length, included, filled, reported, fun fit => ?_⟩
    rw [packed_eq_self_iff_room.mpr (room fit)] at same
    apply reported.order.eq_of_length
    have lengths := congrArg List.length same
    rwa [lines, lines, List.length_map, List.length_map] at lengths

/-- One running task, of the name `a`. -/
def oneRunning : TaskList :=
  modify ClearList ⟨0, by decide⟩ fun t =>
    { t with state := .SCHEDULED, pid := 7, filename := some (.ofString "a") }

/-- A task that waits behind it, and a second one that runs. -/
def twoRunning : TaskList :=
  modify
    (modify oneRunning ⟨1, by decide⟩ fun t =>
      { t with state := .PENDING, filename := some (.ofString "c") })
    ⟨2, by decide⟩ fun t =>
      { t with state := .SCHEDULED, pid := 8, filename := some (.ofString "b") }

/-- The report of two running tasks is of both, and not of the task between them. -/
theorem fillTaskListBlob_reports_two :
    ∃ blob length,
      twoRunning.FillTaskListBlob (fun _ => 0) 35 .TASKS_RUNNING = .ok (blob, length) ∧
      twoRunning.Reported .TASKS_RUNNING 35 [⟨0, by decide⟩, ⟨2, by decide⟩] blob length := by
  have two : qualifying twoRunning .TASKS_RUNNING = [⟨0, by decide⟩, ⟨2, by decide⟩] := by
    decide +kernel
  have texts : lines twoRunning (qualifying twoRunning .TASKS_RUNNING) =
      [.ofString "7       a\n", .ofString "8       b\n"] := by
    decide +kernel
  have room : Room 35 (lines twoRunning (qualifying twoRunning .TASKS_RUNNING)) := by
    rw [texts]
    intro last mem
    obtain rfl : CString.ofString "8       b\n" = last := Option.some.inj mem
    decide
  have fit : Fits 35 (lines twoRunning (qualifying twoRunning .TASKS_RUNNING)) := by
    rw [texts]
    decide
  obtain ⟨blob, length, included, filled, reported, complete⟩ :=
    (fillTaskListBlob_reports_iff (fun _ => 0) (by decide)).mpr fun _ => room
  rw [complete fit, two] at reported
  exact ⟨blob, length, filled, reported⟩

/-- The line of the only task fits, and it is left out. -/
theorem oneRunning_left_out :
    Fits 14 (lines oneRunning (qualifying oneRunning .TASKS_RUNNING)) ∧
      ¬ Reports oneRunning .TASKS_RUNNING (fun _ => 0) 14 := by
  have one : lines oneRunning (qualifying oneRunning .TASKS_RUNNING) =
      [.ofString "7       a\n"] := by
    decide +kernel
  have fit : Fits 14 (lines oneRunning (qualifying oneRunning .TASKS_RUNNING)) := by
    rw [one]
    decide
  refine ⟨fit, fun reports => ?_⟩
  have room := room_of_reports (by decide) reports fit
  rw [one] at room
  exact absurd (room _ rfl) (by decide)

end TaskList

end Sdm
