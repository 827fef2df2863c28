import Mathlib.Algebra.Group.Nat.Defs
import Mathlib.Data.List.Basic
import Sdm.Lib.CString
import Sdm.Lib.Machine
import Sdm.Message.Marshalling
import Sdm.Message.TaskMessages

/-!
Code transfer: `SendCode` of the Task Manager and `GetCode` of the Process Manager.

`GetCode` asks for one segment of the file at a time and writes it at its place. The replies
may be lost, duplicated and reordered on their way. `HandleCodeMessage` and `ErrorHandler` put
what arrives for the file into the pipe that `GetCode` reads, as whole messages. The number of
segments is a 16-bit number computed from the size of the file.

* `code_transfer_iff`: every run that returns has written the whole file or removed it, and
  has removed its code receiver, exactly when the file is not empty and has at most 65535
  segments.
-/

namespace Sdm

open Sdm.Lib

/-- `MAX_CODE_SIZE`: the size of the code in one `SDMCode`. -/
def MAX_CODE_SIZE : Nat := BUFSIZE - MAX_FILENAME_SIZE - 21

/-- `SDMReqCode`, with the fields that the transfer depends on. -/
structure SDMReqCode where
  filename : CString
  seq_num : UInt16
  deriving DecidableEq

/-! ### SendCode -/

/-- The number of segments. The comparison is exact: the quotients of these sizes are apart in
a `double`. -/
def n_messages (st_size : Nat) : UInt16 :=
  let n := UInt16.ofNat (st_size / MAX_CODE_SIZE)
  if n.toNat * MAX_CODE_SIZE < st_size then n + 1 else n

/-- What `read` returns after `lseek` to a segment. -/
def segment (file : List UInt8) (k : Nat) : List UInt8 :=
  (file.drop (k * MAX_CODE_SIZE)).take MAX_CODE_SIZE

/-- The reply that carries a segment. -/
def codeFor (file : List UInt8) (filename : CString) (seq_num : UInt16) : SDMCode where
  filename := filename
  seq_num := seq_num
  num_segments := n_messages file.length
  code := segment file (seq_num.toNat - 1)

/-- `SendCode` for a file that it opens: the segment that is asked for, or all of them. -/
def SendCode (file : List UInt8) (msgRequest : SDMReqCode) : List SDMCode :=
  if 0 < msgRequest.seq_num then [codeFor file msgRequest.filename msgRequest.seq_num]
  else
    (List.range ((file.length + MAX_CODE_SIZE - 1) / MAX_CODE_SIZE)).map fun k =>
      { codeFor file msgRequest.filename (UInt16.ofNat (k + 1)) with code := segment file k }

/-! ### GetCode -/

/-- `fwrite` after `fseek`: a hole is filled with zeros. -/
def writeAt (contents : List UInt8) (offset : Nat) (bytes : List UInt8) : List UInt8 :=
  if bytes = [] then contents
  else
    (contents ++ List.replicate (offset - contents.length) 0).take offset ++ bytes ++
      contents.drop (offset + bytes.length)

/-- Where `GetCode` is: about to ask, about to read its pipe, or returned. -/
inductive GetCodePhase where
  | asking
  | reading
  | returned (bValid : Bool)
  deriving DecidableEq

/-- A message in the pipe: an `SDMCode`, or an `SDMError` about the file. -/
inductive PipeMessage where
  | SDMCode (msgCode : SDMCode)
  | SDMError
  deriving DecidableEq

/-- A code transfer: the Process Manager's side, the requests and the replies on their way. -/
structure CodeTransfer where
  /-- The file that is written; none when it is removed. -/
  pFile : Option (List UInt8)
  codeReceivers : List CString
  usCurSequenceNumber : UInt16
  usPollMiss : UInt16
  phase : GetCodePhase
  pipe : List PipeMessage
  requests : List SDMReqCode
  replies : List SDMCode

namespace CodeTransfer

variable (file : List UInt8) (strFilename : CString)

/-- The start of `GetCode`: the file is created empty. -/
def start (codeReceivers : List CString) : CodeTransfer where
  pFile := some []
  codeReceivers := codeReceivers
  usCurSequenceNumber := 1
  usPollMiss := 0
  phase := .asking
  pipe := []
  requests := []
  replies := []

/-- `RemoveCodeReceiver`: the first entry of the file. -/
def RemoveCodeReceiver (s : CodeTransfer) : CodeTransfer :=
  { s with codeReceivers := s.codeReceivers.erase strFilename }

/-- The end of `GetCode` after its loop. -/
def cleanup (s : CodeTransfer) (bValid : Bool) : CodeTransfer :=
  { s.RemoveCodeReceiver strFilename with
    pFile := if bValid then s.pFile else none
    phase := .returned bValid }

/-- The head of the loop: the request, and the wait for an answer. -/
def ask (s : CodeTransfer) (missed : Bool) : CodeTransfer :=
  let s := { s with requests := ⟨strFilename, s.usCurSequenceNumber⟩ :: s.requests }
  if missed then
    if s.usPollMiss = 10 then
      { s with usPollMiss := s.usPollMiss + 1 }.cleanup strFilename false
    else { s with usPollMiss := s.usPollMiss + 1, phase := .reading }
  else { s with phase := .reading }

/-- The rest of the loop for a segment. A segment behind the last one ends `GetCode` at once. -/
def receive (s : CodeTransfer) (msgCode : SDMCode) : CodeTransfer :=
  if msgCode.seq_num ≠ s.usCurSequenceNumber then { s with phase := .asking }
  else if msgCode.seq_num > msgCode.num_segments then { s with phase := .returned false }
  else
    let s' := { s with
      pFile := s.pFile.map fun contents =>
        writeAt contents ((msgCode.seq_num.toNat - 1) * MAX_CODE_SIZE) msgCode.code
      usCurSequenceNumber := s.usCurSequenceNumber + 1
      phase := .asking }
    if s.usCurSequenceNumber ≥ msgCode.num_segments then s'.cleanup strFilename true else s'

/-- What happens in a transfer. -/
inductive Action where
  | ask (missed : Bool)
  | SendCode (msgRequest : SDMReqCode)
  | HandleCodeMessage (msgCode : SDMCode)
  | ErrorHandler
  | read
  | readError
  deriving DecidableEq

/-- One step. A request that was sent may be served again and again, and a reply that was sent
may arrive again and again, or never. -/
def step (s : CodeTransfer) : Action → Option (CodeTransfer × Unit)
  | .ask missed => if s.phase = .asking then some (s.ask strFilename missed, ()) else none
  | .SendCode msgRequest =>
      if msgRequest ∈ s.requests then
        some ({ s with replies := Sdm.SendCode file msgRequest ++ s.replies }, ())
      else none
  | .HandleCodeMessage msgCode =>
      if msgCode ∈ s.replies then
        if msgCode.filename ∈ s.codeReceivers then
          some ({ s with pipe := s.pipe ++ [.SDMCode msgCode] }, ())
        else some (s, ())
      else none
  | .ErrorHandler =>
      if strFilename ∈ s.codeReceivers then
        some ({ s with pipe := s.pipe ++ [.SDMError] }, ())
      else some (s, ())
  | .read =>
      if s.phase = .reading then
        match s.pipe with
        | [] => none
        | .SDMCode msgCode :: pipe => some ({ s with pipe := pipe }.receive strFilename msgCode, ())
        | .SDMError :: pipe => some ({ s with pipe := pipe }.cleanup strFilename false, ())
      else none
  | .readError => if s.phase = .reading then some (s.cleanup strFilename false, ()) else none

/-- The machine of a transfer. -/
def machine : Machine CodeTransfer Action Unit := ⟨step file strFilename⟩

/-- What a return of `GetCode` leaves: the entry is removed from the code receivers, and the
file is there as a whole, or not at all. -/
def LeavesRight (codeReceivers : List CString) (s : CodeTransfer) : Prop :=
  ∀ bValid, s.phase = .returned bValid →
    s.codeReceivers = codeReceivers.erase strFilename ∧
      s.pFile = if bValid then some file else none

end CodeTransfer

/-! ### Segments -/

section Segments

variable {file contents bytes : List UInt8} {size k : Nat}

theorem maxCodeSize : MAX_CODE_SIZE = 24139 := rfl

/-- The number of segments of a file that has as many as a 16-bit number counts. -/
theorem n_messages_of_counted (nonempty : 0 < size) (counted : size ≤ 65535 * MAX_CODE_SIZE) :
    1 ≤ (n_messages size).toNat ∧ ((n_messages size).toNat - 1) * MAX_CODE_SIZE < size ∧
      size ≤ (n_messages size).toNat * MAX_CODE_SIZE := by
  rw [maxCodeSize] at counted
  have quotient : (UInt16.ofNat (size / MAX_CODE_SIZE)).toNat = size / 24139 := by
    rw [UInt16.toNat_ofNat', maxCodeSize]
    omega
  rw [n_messages]
  split
  · rename_i rest
    rw [quotient, maxCodeSize] at rest
    have next : (UInt16.ofNat (size / MAX_CODE_SIZE) + 1).toNat = size / 24139 + 1 := by
      rw [UInt16.toNat_add, quotient]
      show (size / 24139 + 1) % 65536 = _
      omega
    rw [next, maxCodeSize]
    omega
  · rename_i exactly
    rw [quotient, maxCodeSize] at exactly ⊢
    omega

/-- Every other file is empty, or is given no segments or too few. -/
theorem n_messages_of_uncounted (uncounted : ¬ (0 < size ∧ size ≤ 65535 * MAX_CODE_SIZE))
    (bound : size < 2 ^ 31) :
    (n_messages size).toNat = 0 ∨ (n_messages size).toNat * MAX_CODE_SIZE < size := by
  rw [maxCodeSize] at uncounted
  have quotient : (UInt16.ofNat (size / MAX_CODE_SIZE)).toNat = size / 24139 % 65536 := by
    rw [UInt16.toNat_ofNat', maxCodeSize]
  rw [n_messages]
  split
  · rename_i rest
    have next : (UInt16.ofNat (size / MAX_CODE_SIZE) + 1).toNat =
        (size / 24139 % 65536 + 1) % 65536 := by
      rw [UInt16.toNat_add, quotient]
      rfl
    rw [quotient, maxCodeSize] at rest
    rw [next, maxCodeSize]
    omega
  · rename_i exactly
    rw [quotient, maxCodeSize] at exactly ⊢
    omega

theorem writeAt_end : writeAt contents contents.length bytes = contents ++ bytes := by
  rw [writeAt]
  split
  · rename_i none
    rw [none, List.append_nil]
  · rw [Nat.sub_self, List.replicate_zero, List.append_nil, List.take_length,
      List.drop_eq_nil_of_le (Nat.le_add_right _ _), List.append_nil]

/-- The next segment goes behind the segments before it. -/
theorem writeAt_segment (within : k * MAX_CODE_SIZE ≤ file.length) :
    writeAt (file.take (k * MAX_CODE_SIZE)) (k * MAX_CODE_SIZE) (segment file k) =
      file.take ((k + 1) * MAX_CODE_SIZE) := by
  have length : (file.take (k * MAX_CODE_SIZE)).length = k * MAX_CODE_SIZE :=
    List.length_take_of_le within
  calc writeAt (file.take (k * MAX_CODE_SIZE)) (k * MAX_CODE_SIZE) (segment file k)
      = writeAt (file.take (k * MAX_CODE_SIZE)) (file.take (k * MAX_CODE_SIZE)).length
          (segment file k) := by rw [length]
    _ = file.take (k * MAX_CODE_SIZE) ++ (file.drop (k * MAX_CODE_SIZE)).take MAX_CODE_SIZE :=
        writeAt_end
    _ = file.take ((k + 1) * MAX_CODE_SIZE) := by rw [Nat.add_one_mul, List.take_add]

end Segments

namespace CodeTransfer

section Runs

variable {file : List UInt8} {strFilename : CString} {codeReceivers : List CString}
  {s s' : CodeTransfer} {a : Action} {out : Unit}

/-- The file has at least one segment and as many as a 16-bit number counts. -/
def Counted (file : List UInt8) : Prop :=
  0 < file.length ∧ file.length ≤ 65535 * MAX_CODE_SIZE

/-- A reply to a request of `GetCode`. -/
def Replied (file : List UInt8) (strFilename : CString) (msgCode : SDMCode) : Prop :=
  ∃ seq_num, 0 < seq_num ∧ msgCode = codeFor file strFilename seq_num

/-- While `GetCode` runs, the segments before the current one are in the file. -/
structure Sound (file : List UInt8) (strFilename : CString) (codeReceivers : List CString)
    (s : CodeTransfer) : Prop where
  asked : ∀ r ∈ s.requests, r.filename = strFilename ∧ 0 < r.seq_num
  replied : ∀ m ∈ s.replies, Replied file strFilename m
  piped : ∀ m, .SDMCode m ∈ s.pipe → Replied file strFilename m
  running : (∀ bValid, s.phase ≠ .returned bValid) →
    s.codeReceivers = codeReceivers ∧ 1 ≤ s.usCurSequenceNumber.toNat ∧
      s.usCurSequenceNumber.toNat ≤ (n_messages file.length).toNat ∧
      s.pFile = some (file.take ((s.usCurSequenceNumber.toNat - 1) * MAX_CODE_SIZE))
  returned : s.LeavesRight file strFilename codeReceivers

theorem sound_start (counted : Counted file) :
    (start codeReceivers).Sound file strFilename codeReceivers where
  asked _ mem := nomatch mem
  replied _ mem := nomatch mem
  piped _ mem := nomatch mem
  running _ := by
    refine ⟨rfl, le_refl 1, (n_messages_of_counted counted.1 counted.2).1, ?_⟩
    show some [] = some (file.take (0 * MAX_CODE_SIZE))
    rw [Nat.zero_mul, List.take_zero]
  returned _ phase := nomatch phase

/-- What is known before a return. -/
theorem Sound.of_phase {phase : GetCodePhase} (sound : s.Sound file strFilename codeReceivers)
    (here : s.phase = phase) (running : ∀ bValid, phase ≠ .returned bValid) :
    s.codeReceivers = codeReceivers ∧ 1 ≤ s.usCurSequenceNumber.toNat ∧
      s.usCurSequenceNumber.toNat ≤ (n_messages file.length).toNat ∧
      s.pFile = some (file.take ((s.usCurSequenceNumber.toNat - 1) * MAX_CODE_SIZE)) :=
  sound.running fun bValid => here ▸ running bValid

/-- A return through the end of `GetCode`. -/
theorem leavesRight_cleanup {bValid : Bool} (kept : s.codeReceivers = codeReceivers)
    (whole : bValid = true → s.pFile = some file) :
    (s.cleanup strFilename bValid).LeavesRight file strFilename codeReceivers := by
  intro b phase
  cases phase
  refine ⟨congrArg (List.erase · strFilename) kept, ?_⟩
  cases bValid with
  | false => rfl
  | true => exact whole rfl

theorem Sound.cleanup {bValid : Bool} (sound : s.Sound file strFilename codeReceivers)
    (kept : s.codeReceivers = codeReceivers) (whole : bValid = true → s.pFile = some file) :
    (s.cleanup strFilename bValid).Sound file strFilename codeReceivers where
  asked := sound.asked
  replied := sound.replied
  piped := sound.piped
  running still := absurd rfl (still bValid)
  returned := leavesRight_cleanup kept whole

/-- The head of the loop. -/
theorem Sound.ask {missed : Bool} (sound : s.Sound file strFilename codeReceivers)
    (phase : s.phase = .asking) :
    (s.ask strFilename missed).Sound file strFilename codeReceivers := by
  obtain ⟨kept, positive, bounded, written⟩ := sound.of_phase phase nofun
  have asked : ∀ r ∈ (⟨strFilename, s.usCurSequenceNumber⟩ : SDMReqCode) :: s.requests,
      r.filename = strFilename ∧ 0 < r.seq_num := by
    intro r mem
    rcases List.mem_cons.mp mem with rfl | before
    · exact ⟨rfl, UInt16.lt_iff_toNat_lt.mpr positive⟩
    · exact sound.asked r before
  rw [CodeTransfer.ask]
  split
  · split
    · refine ⟨asked, sound.replied, sound.piped, fun still => absurd rfl (still false), ?_⟩
      exact leavesRight_cleanup kept nofun
    · exact ⟨asked, sound.replied, sound.piped, fun _ => ⟨kept, positive, bounded, written⟩, nofun⟩
  · exact ⟨asked, sound.replied, sound.piped, fun _ => ⟨kept, positive, bounded, written⟩, nofun⟩

/-! ### The rest of the loop -/

section Receive

variable {k : Nat}

/-- What `GetCode` makes of the current segment, which is one of the file. -/
theorem receive_current (number : s.usCurSequenceNumber.toNat = k + 1)
    (written : s.pFile = some (file.take (k * MAX_CODE_SIZE)))
    (within : k * MAX_CODE_SIZE ≤ file.length)
    (inside : k + 1 ≤ (n_messages file.length).toNat) :
    s.receive strFilename (codeFor file strFilename s.usCurSequenceNumber) =
      if s.usCurSequenceNumber ≥ n_messages file.length then
        { s with
          pFile := some (file.take ((k + 1) * MAX_CODE_SIZE))
          usCurSequenceNumber := s.usCurSequenceNumber + 1
          phase := .asking }.cleanup strFilename true
      else
        { s with
          pFile := some (file.take ((k + 1) * MAX_CODE_SIZE))
          usCurSequenceNumber := s.usCurSequenceNumber + 1
          phase := .asking } := by
  have current : ¬ (codeFor file strFilename s.usCurSequenceNumber).seq_num ≠
      s.usCurSequenceNumber :=
    not_not.mpr rfl
  have no_fatal : ¬ (codeFor file strFilename s.usCurSequenceNumber).seq_num >
      (codeFor file strFilename s.usCurSequenceNumber).num_segments :=
    mt UInt16.lt_iff_toNat_lt.mp (Nat.not_lt.mpr (number ▸ inside))
  have written' : (s.pFile.map fun contents => writeAt contents
      ((s.usCurSequenceNumber.toNat - 1) * MAX_CODE_SIZE)
      (segment file (s.usCurSequenceNumber.toNat - 1))) =
      some (file.take ((k + 1) * MAX_CODE_SIZE)) := by
    rw [written, number, Nat.add_sub_cancel, Option.map_some, writeAt_segment within]
  rw [CodeTransfer.receive, if_neg current, if_neg no_fatal, ← written']
  rfl

/-- A segment that is not the last one. -/
theorem receive_next (number : s.usCurSequenceNumber.toNat = k + 1)
    (written : s.pFile = some (file.take (k * MAX_CODE_SIZE)))
    (within : k * MAX_CODE_SIZE ≤ file.length)
    (more : k + 1 < (n_messages file.length).toNat) :
    s.receive strFilename (codeFor file strFilename s.usCurSequenceNumber) =
      { s with
        pFile := some (file.take ((k + 1) * MAX_CODE_SIZE))
        usCurSequenceNumber := s.usCurSequenceNumber + 1
        phase := .asking } := by
  have not_last : ¬ s.usCurSequenceNumber ≥ n_messages file.length :=
    mt UInt16.le_iff_toNat_le.mp (Nat.not_le.mpr (number ▸ more))
  rw [receive_current number written within (le_of_lt more), if_neg not_last]

/-- The last segment. -/
theorem receive_last (number : s.usCurSequenceNumber.toNat = k + 1)
    (written : s.pFile = some (file.take (k * MAX_CODE_SIZE)))
    (within : k * MAX_CODE_SIZE ≤ file.length)
    (last : k + 1 = (n_messages file.length).toNat) :
    s.receive strFilename (codeFor file strFilename s.usCurSequenceNumber) =
      { s with
        pFile := some (file.take ((k + 1) * MAX_CODE_SIZE))
        usCurSequenceNumber := s.usCurSequenceNumber + 1
        phase := .asking }.cleanup strFilename true := by
  have reached : s.usCurSequenceNumber ≥ n_messages file.length :=
    UInt16.le_iff_toNat_le.mpr (le_of_eq (last.symm.trans number.symm))
  rw [receive_current number written within (le_of_eq last), if_pos reached]

/-- The number of the next segment. -/
theorem toNat_next {n : UInt16} (number : s.usCurSequenceNumber.toNat = k + 1)
    (more : k + 1 < n.toNat) : (s.usCurSequenceNumber + 1).toNat = k + 2 := by
  have limit := n.toNat_lt
  rw [UInt16.toNat_add, number]
  show (k + 1 + 1) % 65536 = k + 2
  omega

end Receive

theorem Sound.receive {msgCode : SDMCode} (sound : s.Sound file strFilename codeReceivers)
    (counted : Counted file) (phase : s.phase = .reading)
    (replied : Replied file strFilename msgCode) :
    (s.receive strFilename msgCode).Sound file strFilename codeReceivers := by
  obtain ⟨kept, positive, bounded, written⟩ := sound.of_phase phase nofun
  obtain ⟨_, some_left, all⟩ := n_messages_of_counted counted.1 counted.2
  obtain ⟨seq_num, _, rfl⟩ := replied
  by_cases current : seq_num = s.usCurSequenceNumber
  · subst current
    obtain ⟨k, number⟩ : ∃ k, s.usCurSequenceNumber.toNat = k + 1 :=
      ⟨_, (Nat.succ_pred_eq_of_pos positive).symm⟩
    rw [number, Nat.add_sub_cancel] at written
    have within : k * MAX_CODE_SIZE ≤ file.length := by
      have before : k ≤ (n_messages file.length).toNat - 1 := by omega
      exact le_of_lt (Nat.lt_of_le_of_lt (Nat.mul_le_mul_right _ before) some_left)
    rcases Nat.lt_or_eq_of_le (number ▸ bounded) with more | last
    · have next := toNat_next number more
      rw [receive_next number written within more]
      refine ⟨sound.asked, sound.replied, sound.piped, fun _ => ⟨kept, ?_, ?_, ?_⟩, nofun⟩
      · dsimp only
        omega
      · dsimp only
        omega
      · dsimp only
        rw [next]
        rfl
    · have whole : file.take ((k + 1) * MAX_CODE_SIZE) = file := by
        apply List.take_of_length_le
        rw [last]
        exact all
      rw [receive_last number written within last]
      refine ⟨sound.asked, sound.replied, sound.piped, fun still => absurd rfl (still true), ?_⟩
      exact leavesRight_cleanup kept fun _ => congrArg some whole
  · have stale : (codeFor file strFilename seq_num).seq_num ≠ s.usCurSequenceNumber := current
    rw [CodeTransfer.receive, if_pos stale]
    exact ⟨sound.asked, sound.replied, sound.piped, fun _ => ⟨kept, positive, bounded, written⟩,
      nofun⟩

/-- The next message is taken out of the pipe. -/
theorem Sound.pop {message : PipeMessage} {pipe : List PipeMessage}
    (sound : s.Sound file strFilename codeReceivers) (here : s.pipe = message :: pipe) :
    ({ s with pipe := pipe } : CodeTransfer).Sound file strFilename codeReceivers where
  asked := sound.asked
  replied := sound.replied
  piped m mem := sound.piped m (here ▸ List.mem_cons_of_mem _ mem)
  running := sound.running
  returned := sound.returned

/-- A message is put into the pipe. -/
theorem Sound.push {message : PipeMessage} (sound : s.Sound file strFilename codeReceivers)
    (replied : ∀ m, message = .SDMCode m → Replied file strFilename m) :
    ({ s with pipe := s.pipe ++ [message] } : CodeTransfer).Sound file strFilename
      codeReceivers where
  asked := sound.asked
  replied := sound.replied
  piped m mem := by
    rcases List.mem_append.mp mem with before | new
    · exact sound.piped m before
    · exact replied m (List.mem_singleton.mp new).symm
  running := sound.running
  returned := sound.returned

/-- Every step of a transfer of a counted file. -/
theorem Sound.step (sound : s.Sound file strFilename codeReceivers) (counted : Counted file)
    (taken : (machine file strFilename).step s a = some (s', out)) :
    s'.Sound file strFilename codeReceivers := by
  have step : s.step file strFilename a = some (s', out) := taken
  cases a with
  | ask missed =>
      rw [CodeTransfer.step] at step
      split at step
      · cases step
        exact sound.ask ‹_›
      · cases step
  | SendCode msgRequest =>
      rw [CodeTransfer.step] at step
      split at step
      · rename_i sent
        cases step
        obtain ⟨name, positive⟩ := sound.asked msgRequest sent
        refine ⟨sound.asked, ?_, sound.piped, sound.running, sound.returned⟩
        intro m mem
        rcases List.mem_append.mp mem with new | before
        · rw [Sdm.SendCode, if_pos positive, name] at new
          exact ⟨msgRequest.seq_num, positive, List.mem_singleton.mp new⟩
        · exact sound.replied m before
      · cases step
  | HandleCodeMessage msgCode =>
      rw [CodeTransfer.step] at step
      split at step
      · rename_i arrived
        split at step
        · cases step
          refine sound.push fun m same => ?_
          cases same
          exact sound.replied msgCode arrived
        · cases step
          exact sound
      · cases step
  | ErrorHandler =>
      rw [CodeTransfer.step] at step
      split at step
      · cases step
        exact sound.push nofun
      · cases step
        exact sound
  | read =>
      rw [CodeTransfer.step] at step
      split at step
      · rename_i phase
        split at step
        · cases step
        · rename_i msgCode pipe here
          cases step
          have next := sound.pop here
          exact next.receive counted phase (sound.piped msgCode (here ▸ List.mem_cons_self))
        · rename_i pipe here
          cases step
          have next := sound.pop here
          exact next.cleanup (sound.of_phase phase nofun).1 nofun
      · cases step
  | readError =>
      rw [CodeTransfer.step] at step
      split at step
      · rename_i phase
        cases step
        exact sound.cleanup (sound.of_phase phase nofun).1 nofun
      · cases step

/-- Every run of the transfer of a counted file is sound. -/
theorem sound_of_reaches (counted : Counted file)
    (run : (machine file strFilename).Reachable (start codeReceivers) s) :
    s.Sound file strFilename codeReceivers :=
  run.invariant (sound_start counted) fun _ _ _ _ sound _ taken => sound.step counted taken

/-! ### Files that are not transferred -/

/-- A round in which nothing is lost: `GetCode` asks for the current segment and reads it. -/
theorem reachable_round (run : (machine file strFilename).Reachable (start codeReceivers) s)
    (phase : s.phase = .asking) (empty : s.pipe = []) (entry : strFilename ∈ s.codeReceivers)
    (positive : 0 < s.usCurSequenceNumber) :
    ∃ s₁ : CodeTransfer, s₁.phase = .reading ∧ s₁.pipe = [] ∧ s₁.codeReceivers = s.codeReceivers ∧
      s₁.usCurSequenceNumber = s.usCurSequenceNumber ∧ s₁.pFile = s.pFile ∧
      (machine file strFilename).Reachable (start codeReceivers)
        (s₁.receive strFilename (codeFor file strFilename s.usCurSequenceNumber)) := by
  let request : SDMReqCode := ⟨strFilename, s.usCurSequenceNumber⟩
  let reply : SDMCode := codeFor file strFilename s.usCurSequenceNumber
  let asked : CodeTransfer := { s with requests := request :: s.requests, phase := .reading }
  let served : CodeTransfer := { asked with replies := [reply] ++ asked.replies }
  let arrived : CodeTransfer := { served with pipe := served.pipe ++ [.SDMCode reply] }
  have ask : (machine file strFilename).step s (.ask false) = some (asked, ()) := if_pos phase
  have serve : (machine file strFilename).step asked (.SendCode request) = some (served, ()) := by
    have sent : Sdm.SendCode file request = [reply] := if_pos positive
    have known : request ∈ asked.requests := List.mem_cons_self
    show CodeTransfer.step file strFilename asked (.SendCode request) = _
    rw [CodeTransfer.step, if_pos known, sent]
  have arrive : (machine file strFilename).step served (.HandleCodeMessage reply) =
      some (arrived, ()) := by
    have known : reply ∈ served.replies := List.mem_cons_self
    have found : reply.filename ∈ served.codeReceivers := entry
    show CodeTransfer.step file strFilename served (.HandleCodeMessage reply) = _
    rw [CodeTransfer.step, if_pos known, if_pos found]
  have here : arrived.pipe = [.SDMCode reply] := congrArg (· ++ [PipeMessage.SDMCode reply]) empty
  have read : (machine file strFilename).step arrived .read =
      some (({ served with pipe := [] } : CodeTransfer).receive strFilename reply, ()) := by
    show CodeTransfer.step file strFilename arrived .read = _
    rw [CodeTransfer.step, if_pos rfl, here]
  exact ⟨{ served with pipe := [] }, rfl, rfl, rfl, rfl, rfl,
    (((run.next ask).next serve).next arrive).next read⟩

/-- `GetCode` in the middle of a transfer: so many segments are written. -/
structure Written (file : List UInt8) (codeReceivers : List CString) (k : Nat) (s : CodeTransfer) :
    Prop where
  phase : s.phase = .asking
  pipe : s.pipe = []
  codeReceivers : s.codeReceivers = codeReceivers
  number : s.usCurSequenceNumber.toNat = k + 1
  pFile : s.pFile = some (file.take (k * MAX_CODE_SIZE))

/-- All segments that begin inside of the file can be written. -/
theorem exists_written (begun : ((n_messages file.length).toNat - 1) * MAX_CODE_SIZE ≤ file.length)
    (entry : strFilename ∈ codeReceivers) {k : Nat} (inside : k < (n_messages file.length).toNat) :
    ∃ s, Written file codeReceivers k s ∧
      (machine file strFilename).Reachable (start codeReceivers) s := by
  induction k with
  | zero =>
      refine ⟨start codeReceivers, ⟨rfl, rfl, rfl, rfl, ?_⟩, .start⟩
      rw [Nat.zero_mul, List.take_zero]
      rfl
  | succ k ih =>
      obtain ⟨s, here, run⟩ := ih (Nat.lt_of_succ_lt inside)
      have positive : 0 < s.usCurSequenceNumber := by
        rw [UInt16.lt_iff_toNat_lt, here.number]
        exact Nat.succ_pos k
      have within : k * MAX_CODE_SIZE ≤ file.length :=
        (Nat.mul_le_mul_right _ (by omega)).trans begun
      obtain ⟨s₁, _, pipe, kept, number, pFile, run'⟩ := reachable_round run here.phase here.pipe
        (here.codeReceivers ▸ entry) positive
      rw [← number, receive_next (number ▸ here.number) (pFile.trans here.pFile) within inside]
        at run'
      refine ⟨_, ?_, run'⟩
      exact ⟨rfl, pipe, kept.trans here.codeReceivers,
        toNat_next (number ▸ here.number) inside, rfl⟩

/-- `GetCode` can return after the last segment. -/
theorem exists_returned (begun : ((n_messages file.length).toNat - 1) * MAX_CODE_SIZE ≤ file.length)
    (entry : strFilename ∈ codeReceivers) (some_counted : 0 < (n_messages file.length).toNat) :
    ∃ s, (machine file strFilename).Reachable (start codeReceivers) s ∧ s.phase = .returned true ∧
      s.pFile = some (file.take ((n_messages file.length).toNat * MAX_CODE_SIZE)) := by
  obtain ⟨n, count⟩ := Nat.exists_eq_succ_of_ne_zero (Nat.ne_of_gt some_counted)
  obtain ⟨s, here, run⟩ := exists_written begun entry (k := n) (by omega)
  have positive : 0 < s.usCurSequenceNumber := by
    rw [UInt16.lt_iff_toNat_lt, here.number]
    exact Nat.succ_pos n
  have within : n * MAX_CODE_SIZE ≤ file.length :=
    (Nat.mul_le_mul_right _ (by omega)).trans begun
  obtain ⟨s₁, _, pipe, kept, number, pFile, run'⟩ := reachable_round run here.phase here.pipe
    (here.codeReceivers ▸ entry) positive
  rw [← number, receive_last (number ▸ here.number) (pFile.trans here.pFile) within
    count.symm] at run'
  refine ⟨_, run', rfl, ?_⟩
  rw [count]
  rfl

/-- A file that is not counted can be left wrong. -/
theorem not_leavesRight (uncounted : ¬ Counted file) (bound : file.length < 2 ^ 31)
    (entry : strFilename ∈ codeReceivers) :
    ∃ s, (machine file strFilename).Reachable (start codeReceivers) s ∧
      ¬ s.LeavesRight file strFilename codeReceivers := by
  rcases Nat.eq_zero_or_pos (n_messages file.length).toNat with none | some_counted
  · -- The first segment is behind the last one.
    have first : (0 : UInt16) < 1 := by decide
    have begun : (machine file strFilename).Reachable (start codeReceivers) (start codeReceivers) :=
      .start
    obtain ⟨s₁, _, _, kept, number, _, run⟩ := reachable_round begun rfl rfl entry first
    refine ⟨_, run, ?_⟩
    have current : ¬ (codeFor file strFilename (start codeReceivers).usCurSequenceNumber).seq_num ≠
        s₁.usCurSequenceNumber :=
      not_not.mpr number.symm
    have fatal : (codeFor file strFilename (start codeReceivers).usCurSequenceNumber).seq_num >
        (codeFor file strFilename (start codeReceivers).usCurSequenceNumber).num_segments := by
      apply UInt16.lt_iff_toNat_lt.mpr
      show (n_messages file.length).toNat < 1
      rw [none]
      exact Nat.one_pos
    rw [CodeTransfer.receive, if_neg current, if_pos fatal]
    intro right
    have removed := (right false rfl).1
    have same : codeReceivers = codeReceivers.erase strFilename := kept.symm.trans removed
    have fewer := List.length_erase_of_mem entry
    have some_entry := List.length_pos_of_mem entry
    have equal := congrArg List.length same
    omega
  · -- The last segment comes before the end of the file.
    have short := (n_messages_of_uncounted uncounted bound).resolve_left
      (Nat.ne_of_gt some_counted)
    have begun : ((n_messages file.length).toNat - 1) * MAX_CODE_SIZE ≤ file.length :=
      (Nat.mul_le_mul_right _ (Nat.sub_le _ 1)).trans (le_of_lt short)
    obtain ⟨s, run, returned, written⟩ := exists_returned begun entry some_counted
    refine ⟨s, run, fun right => ?_⟩
    have whole : some (file.take _) = some file := written.symm.trans (right true returned).2
    have length := congrArg List.length (Option.some_inj.mp whole)
    rw [List.length_take] at length
    omega

/-- **Code transfer.** Whatever replies are lost, duplicated and reordered, every return of
`GetCode` leaves things right exactly when the file is not empty and has at most 65535
segments. -/
theorem code_transfer_iff (bound : file.length < 2 ^ 31) (entry : strFilename ∈ codeReceivers) :
    (∀ s, (machine file strFilename).Reachable (start codeReceivers) s →
      s.LeavesRight file strFilename codeReceivers) ↔ Counted file := by
  constructor
  · intro right
    by_contra uncounted
    obtain ⟨s, run, wrong⟩ := not_leavesRight uncounted bound entry
    exact wrong (right s run)
  · intro counted s run
    exact (sound_of_reaches counted run).returned

end Runs

/-- A file of two segments. -/
def twoSegments : List UInt8 := List.replicate (MAX_CODE_SIZE + 1) 7

theorem length_twoSegments : twoSegments.length = MAX_CODE_SIZE + 1 := List.length_replicate

theorem counted_twoSegments : Counted twoSegments := by
  rw [Counted, length_twoSegments]
  decide

/-- A file of two segments can be transferred, and is then there as a whole. -/
theorem code_transfer_iff_two_segments :
    ∃ s, (machine twoSegments .empty).Reachable (start [.empty]) s ∧ s.phase = .returned true ∧
      s.codeReceivers = [] ∧ s.pFile = some twoSegments := by
  obtain ⟨first, begun, -⟩ := n_messages_of_counted counted_twoSegments.1 counted_twoSegments.2
  obtain ⟨s, run, returned, -⟩ := exists_returned (le_of_lt begun) List.mem_cons_self first
  have bound : twoSegments.length < 2 ^ 31 := by
    rw [length_twoSegments]
    decide
  have right := (code_transfer_iff bound List.mem_cons_self).mpr counted_twoSegments s run
  exact ⟨s, run, returned, right true returned⟩

/-- The transfer of an empty file leaves its code receiver. -/
theorem empty_file_leaves_receiver :
    ¬ ∀ (file : List UInt8) (strFilename : CString) (codeReceivers : List CString),
      file.length < 2 ^ 31 → strFilename ∈ codeReceivers →
        ∀ s, (machine file strFilename).Reachable (start codeReceivers) s →
          s.LeavesRight file strFilename codeReceivers := by
  intro all
  have ran : ((machine [] .empty).exec (start [.empty])
      [.ask false, .SendCode ⟨.empty, 1⟩, .HandleCodeMessage (codeFor [] .empty 1), .read]).map
      (fun s => (s.phase, s.codeReceivers)) = some (.returned false, [.empty]) := by
    decide
  obtain ⟨s, done, reached⟩ := Option.map_eq_some_iff.mp ran
  obtain ⟨phase, kept⟩ := Prod.mk.inj reached
  have right := all [] .empty [.empty] (by decide) List.mem_cons_self s
    (.exec .start (fun _ _ _ => trivial) done)
  have removed := (right false phase).1
  rw [kept] at removed
  revert removed
  decide

end CodeTransfer

end Sdm
