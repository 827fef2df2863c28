import Mathlib.Algebra.Group.Nat.Defs
import Sdm.Lib.CString
import Sdm.Lib.Machine
import Sdm.Message.Marshalling

/-!
Code transfer from a file service: `GetCode` of the Process Manager with `IDSOpenHandle` and
`IDSReadPortion`, on a 32-bit little-endian target.

`GetCode` opens a handle and reads the file portion by portion, until a portion is empty. Its
requests are answered at once; the answers may arrive again and again, late or never. `DataHandler`
puts what arrives into the pipe of the code receiver that it belongs to, as whole messages, and
`PipeReadTimeout` takes one message from the pipe. What a message of the pipe answers is not looked
at: its fields are read at the places where an answer to the request has them.

* `Sound.step`: what a transfer keeps, as long as its handle is opened and not taken for another.
* `getCode_leaves_right`: every return leaves the whole file or none, no code receiver and no open
  handle.
* `returned_of_opening`: a return out of `IDSOpenHandle` leaves the code receiver.
-/

namespace Sdm

open Lib Memory

def IDS_STATUS_OK : UInt8 := 1
def MAX_PORTION_LENGTH : Nat := 24248
def NUM_RETRIES : Nat := 10
def READ_ATTEMPTS : Nat := 10

/-- Where the replies of the file service have their fields, from its xTEDS. -/
structure IDSLayout where
  openStatusCode : Nat
  openFileHandle : Nat
  readFileHandle : Nat
  readStatusCode : Nat
  readByteOffset : Nat
  readLength : Nat
  readFileBuffer : Nat

/-- A reply of the file service, with the data of its `SDMData`. -/
inductive IDSReply where
  | OpenHandleReply (FileName : CString) (msg : Memory)
  | ReadPortionReply (msg : Memory)

def IDSReply.msg : IDSReply → Memory
  | OpenHandleReply _ msg => msg
  | ReadPortionReply msg => msg

/-- `code_recv`. -/
structure CodeRecv where
  fd_code : Nat
  ids_handle : UInt16
  filename : CString
  deriving DecidableEq

/-- Where `GetCode` is: in `IDSOpenHandle`, about to send its request or to read the pipe; in the
loop, with its handle, `Offset` and `FailCount`; or returned. -/
inductive FileTransfer.Phase where
  | opening (iSendCount : Nat)
  | awaitingHandle (iSendCount : Nat)
  | requesting (IDSHandle : UInt16) (Offset : UInt32) (FailCount : Nat)
  | awaitingPortion (IDSHandle : UInt16) (Offset : UInt32) (FailCount : Nat)
  | returned (IsValid : Bool)
  deriving DecidableEq

/-- A transfer: the Process Manager's side, the replies on their way, and the handles that the
service has opened and closed for it. -/
structure FileTransfer where
  /-- The file that is written; none when it is not there. -/
  fp : Option (List UInt8)
  codeReceivers : List CodeRecv
  phase : FileTransfer.Phase
  pipe : List IDSReply
  replies : List IDSReply
  opened : List UInt16
  closed : List UInt16

namespace FileTransfer

/-! ### The file service -/

section Service

variable (layout : IDSLayout) (files : UInt16 → Option (List UInt8))

/-- A reply to a read request, when it reports no error: bytes of the file of its handle, from its
offset on, at most as many as were asked for, and none exactly at the end or behind it. -/
def Truthful (msg : Memory) : Prop :=
  msg layout.readStatusCode = IDS_STATUS_OK →
    ∃ file ∈ files (msg.load16 layout.readFileHandle),
      (msg.load32 layout.readLength).toNat ≤ MAX_PORTION_LENGTH ∧
      msg.read layout.readFileBuffer (msg.load32 layout.readLength).toNat =
        (file.drop (msg.load32 layout.readByteOffset).toNat).take
          (msg.load32 layout.readLength).toNat ∧
      ((msg.load32 layout.readLength).toNat = 0 ↔
        file.length ≤ (msg.load32 layout.readByteOffset).toNat)

instance (msg : Memory) : Decidable (Truthful layout files msg) :=
  inferInstanceAs (Decidable (_ → _))

end Service

/-! ### GetCode -/

variable (layout : IDSLayout) (filename : CString)

def start (codeReceivers : List CodeRecv) (replies : List IDSReply) : FileTransfer where
  fp := none
  codeReceivers := codeReceivers
  phase := .opening 0
  pipe := []
  replies := replies
  opened := []
  closed := []

/-- `RemoveCodeReceiver`: the first entry of the file. -/
def RemoveCodeReceiver (s : FileTransfer) : FileTransfer :=
  { s with codeReceivers := s.codeReceivers.eraseP (·.filename = filename) }

/-- `IDSCloseHandle`. -/
def IDSCloseHandle (s : FileTransfer) (Handle : UInt16) : FileTransfer :=
  { s with closed := Handle :: s.closed }

/-- The end of `GetCode` after its loop. -/
def cleanup (s : FileTransfer) (IDSHandle : UInt16) (IsValid : Bool) : FileTransfer :=
  { (s.RemoveCodeReceiver filename).IDSCloseHandle IDSHandle with
    fp := if IsValid then s.fp else none
    phase := .returned IsValid }

/-- `IDSOpenHandle` behind its loop, and the start of `GetCode`, where the file is created empty. -/
def openHandle (s : FileTransfer) (Reply : Memory) : FileTransfer :=
  if Reply layout.openStatusCode ≠ IDS_STATUS_OK then { s with phase := .returned false }
  else if Reply.load16 layout.openFileHandle = 0 then { s with phase := .returned false }
  else
    { s with fp := some [], phase := .requesting (Reply.load16 layout.openFileHandle) 0 0 }

/-- The checks of `IDSReadPortion`, and the bytes that it returns. -/
def IDSReadPortion (Handle : UInt16) (ByteOffset : UInt32) (Reply : Memory) :
    Option (List UInt8) :=
  if Reply.load16 layout.readFileHandle ≠ Handle then none
  else if Reply layout.readStatusCode ≠ IDS_STATUS_OK then none
  else if BUFSIZE < (Reply.load32 layout.readLength).toNat then none
  else if Reply.load32 layout.readByteOffset ≠ ByteOffset then none
  else some (Reply.read layout.readFileBuffer (Reply.load32 layout.readLength).toNat)

/-- The rest of the loop for the result of `IDSReadPortion`. -/
def portion (s : FileTransfer) (IDSHandle : UInt16) (Offset : UInt32) (FailCount : Nat) :
    Option (List UInt8) → FileTransfer
  | none =>
      if READ_ATTEMPTS ≤ FailCount then s.cleanup filename IDSHandle false
      else { s with phase := .requesting IDSHandle Offset (FailCount + 1) }
  | some [] => s.cleanup filename IDSHandle true
  | some (byte :: bytes) =>
      { s with
        fp := s.fp.map (· ++ byte :: bytes)
        phase := .requesting IDSHandle (Offset + .ofNat (byte :: bytes).length) 0 }

/-! ### DataHandler -/

/-- `write(codeReceivers[receiver_index].fd_code, ..)`, for the pipe that `GetCode` reads. -/
def write (fd_readcode : Nat) (s : FileTransfer) (receiver_index : Nat) (reply : IDSReply) :
    FileTransfer :=
  match s.codeReceivers[receiver_index]? with
  | none => s
  | some receiver =>
      if receiver.fd_code = fd_readcode then { s with pipe := s.pipe ++ [reply] } else s

/-- `DataHandler` with a reply of the file service. A reply that matches no code receiver is
dropped. -/
def DataHandler (fd_readcode : Nat) (s : FileTransfer) (reply : IDSReply) : FileTransfer :=
  match reply with
  | .OpenHandleReply Filename msg =>
      let receiver_index := s.codeReceivers.findIdx (·.filename = Filename)
      let IDSHandle := msg.load16 layout.openFileHandle
      { s with
        codeReceivers := s.codeReceivers.modify receiver_index
          fun receiver => { receiver with ids_handle := IDSHandle } }.write fd_readcode
        receiver_index reply
  | .ReadPortionReply msg =>
      s.write fd_readcode
        (s.codeReceivers.findIdx (·.ids_handle = msg.load16 layout.readFileHandle)) reply

/-! ### Runs -/

/-- What happens in a transfer. A request comes with the answer of the service. -/
inductive Action where
  | openRequest (msg : Memory)
  | portionRequest (msg : Memory)
  /-- A reply arrives. -/
  | DataHandler (i : Nat)
  | read
  | timeout
  | readError

variable (files : UInt16 → Option (List UInt8)) (file : List UInt8) (fd_readcode : Nat)

/-- One step. A reply that was sent may arrive again and again, or never, and a wait is over when
nothing is in the pipe. -/
def step (s : FileTransfer) : Action → Option (FileTransfer × Unit)
  | .openRequest msg =>
      match s.phase with
      | .opening iSendCount =>
          if msg layout.openStatusCode ≠ IDS_STATUS_OK then
            some ({ s with
              replies := .OpenHandleReply filename msg :: s.replies
              phase := .awaitingHandle iSendCount }, ())
          else if files (msg.load16 layout.openFileHandle) = some file then
            some ({ s with
              replies := .OpenHandleReply filename msg :: s.replies
              opened := msg.load16 layout.openFileHandle :: s.opened
              phase := .awaitingHandle iSendCount }, ())
          else none
      | _ => none
  | .portionRequest msg =>
      match s.phase with
      | .requesting IDSHandle Offset FailCount =>
          if msg.load16 layout.readFileHandle = IDSHandle ∧
              msg.load32 layout.readByteOffset = Offset ∧ Truthful layout files msg then
            some ({ s with
              replies := .ReadPortionReply msg :: s.replies
              phase := .awaitingPortion IDSHandle Offset FailCount }, ())
          else none
      | _ => none
  | .DataHandler i => s.replies[i]?.map fun reply => (s.DataHandler layout fd_readcode reply, ())
  | .read =>
      match s.pipe, s.phase with
      | reply :: pipe, .awaitingHandle _ =>
          some ({ s with pipe := pipe }.openHandle layout reply.msg, ())
      | reply :: pipe, .awaitingPortion IDSHandle Offset FailCount =>
          some ({ s with pipe := pipe }.portion filename IDSHandle Offset FailCount
            (IDSReadPortion layout IDSHandle Offset reply.msg), ())
      | _, _ => none
  | .timeout =>
      match s.pipe, s.phase with
      | [], .awaitingHandle iSendCount =>
          if iSendCount + 1 < NUM_RETRIES then
            some ({ s with phase := .opening (iSendCount + 1) }, ())
          else some ({ s with phase := .returned false }, ())
      | [], .awaitingPortion IDSHandle Offset FailCount =>
          some (s.portion filename IDSHandle Offset FailCount none, ())
      | _, _ => none
  | .readError =>
      match s.phase with
      | .awaitingHandle _ => some ({ s with phase := .returned false }, ())
      | .awaitingPortion IDSHandle Offset FailCount =>
          some (s.portion filename IDSHandle Offset FailCount none, ())
      | _ => none

/-- The machine of a transfer. -/
def machine : Machine FileTransfer Action Unit :=
  ⟨step layout filename files file fd_readcode⟩

/-- What a return of `GetCode` leaves: the entry is removed from the code receivers, what was opened
is closed, and the file is there as a whole, or not at all. -/
def LeavesRight (codeReceivers : List CodeRecv) (s : FileTransfer) : Prop :=
  ∀ IsValid, s.phase = .returned IsValid →
    s.codeReceivers.map CodeRecv.filename = (codeReceivers.map CodeRecv.filename).erase filename ∧
      (∀ Handle ∈ s.opened, Handle ∈ s.closed) ∧ s.fp = if IsValid then some file else none

/-- A step that does not go wrong: `IDSOpenHandle` gets the one handle that was opened, and a reply
that has a handle is not accepted as one that has a portion. -/
def Calm (s : FileTransfer) : Action → Prop
  | .read =>
      match s.pipe, s.phase with
      | reply :: _, .awaitingHandle _ =>
          reply.msg layout.openStatusCode = IDS_STATUS_OK ∧
            reply.msg.load16 layout.openFileHandle ≠ 0 ∧
            reply.msg.load16 layout.openFileHandle ∈ s.opened ∧
            ∀ Handle ∈ s.opened, Handle = reply.msg.load16 layout.openFileHandle
      | .OpenHandleReply _ msg :: _, .awaitingPortion IDSHandle Offset _ =>
          IDSReadPortion layout IDSHandle Offset msg = none
      | _, _ => True
  | .timeout => ∀ iSendCount, s.phase = .awaitingHandle iSendCount → iSendCount + 1 < NUM_RETRIES
  | .readError => ∀ iSendCount, s.phase ≠ .awaitingHandle iSendCount
  | _ => True

/-! ### A portion -/

section Portions

variable {layout : IDSLayout} {files : UInt16 → Option (List UInt8)} {file contents : List UInt8}
  {Reply : Memory} {Handle : UInt16} {ByteOffset : UInt32} {bytes : List UInt8}

/-- What is accepted from a reply of the service. -/
theorem portion_of_truthful (truthful : Truthful layout files Reply)
    (accepted : IDSReadPortion layout Handle ByteOffset Reply = some bytes)
    (known : files Handle = some file) :
    bytes = (file.drop ByteOffset.toNat).take bytes.length ∧
      (bytes = [] → file.length ≤ ByteOffset.toNat) := by
  rw [IDSReadPortion] at accepted
  split_ifs at accepted with otherHandle status long otherOffset
  obtain rfl := not_not.mp otherHandle
  obtain rfl := not_not.mp otherOffset
  cases accepted
  obtain ⟨file', here, -, same, ends⟩ := truthful (not_not.mp status)
  obtain rfl : file = file' := Option.some.inj (known.symm.trans here)
  have length : (Reply.read layout.readFileBuffer
      (Reply.load32 layout.readLength).toNat).length = (Reply.load32 layout.readLength).toNat :=
    length_read
  rw [length]
  refine ⟨same, fun empty => ends.mp ?_⟩
  rw [← length, empty, List.length_nil]

/-- What is written is the start of the file up to the offset. A file of 4 GiB or more is never read
to its end. -/
def Progress (file : List UInt8) (Offset : UInt32) (contents : List UInt8) : Prop :=
  file.length < 2 ^ 32 → contents = file.take Offset.toNat ∧ Offset.toNat ≤ file.length

theorem Progress.start : Progress file 0 [] := fun _ => ⟨rfl, Nat.zero_le _⟩

/-- A portion that is written. -/
theorem Progress.append (progress : Progress file ByteOffset contents)
    (portion : bytes = (file.drop ByteOffset.toNat).take bytes.length) :
    Progress file (ByteOffset + .ofNat bytes.length) (contents ++ bytes) := by
  intro small
  obtain ⟨written, within⟩ := progress small
  have fits : bytes.length ≤ file.length - ByteOffset.toNat := by
    have length := congrArg List.length portion
    rw [List.length_take, List.length_drop] at length
    omega
  have next : (ByteOffset + .ofNat bytes.length).toNat = ByteOffset.toNat + bytes.length := by
    rw [UInt32.toNat_add, UInt32.toNat_ofNat']
    omega
  rw [next]
  refine ⟨?_, by omega⟩
  rw [List.take_add, ← portion, ← written]

/-- At an empty portion the file is written. -/
theorem Progress.done (progress : Progress file ByteOffset contents)
    (ends : file.length ≤ ByteOffset.toNat) : contents = file := by
  obtain ⟨written, -⟩ := progress (ends.trans_lt ByteOffset.toNat_lt)
  rw [written, List.take_of_length_le ends]

end Portions

/-! ### The code receivers -/

section Receivers

variable {s : FileTransfer} {layout : IDSLayout} {filename : CString} {fd_readcode i : Nat}
  {reply : IDSReply}

/-- What `DataHandler` leaves as it is. -/
structure Delivered (s s' : FileTransfer) (reply : IDSReply) : Prop where
  fp : s'.fp = s.fp
  names : s'.codeReceivers.map CodeRecv.filename = s.codeReceivers.map CodeRecv.filename
  phase : s'.phase = s.phase
  pipe : ∀ m ∈ s'.pipe, m ∈ s.pipe ∨ m = reply
  replies : s'.replies = s.replies
  opened : s'.opened = s.opened
  closed : s'.closed = s.closed

theorem delivered_write : s.Delivered (s.write fd_readcode i reply) reply := by
  rw [write]
  split
  · exact ⟨rfl, rfl, rfl, fun m mem => .inl mem, rfl, rfl, rfl⟩
  · split
    · refine ⟨rfl, rfl, rfl, fun m mem => ?_, rfl, rfl, rfl⟩
      obtain before | new := List.mem_append.mp mem
      · exact .inl before
      · exact .inr (List.mem_singleton.mp new)
    · exact ⟨rfl, rfl, rfl, fun m mem => .inl mem, rfl, rfl, rfl⟩

/-- A handle is stored, but the names of the entries stay. -/
theorem map_filename_modify (l : List CodeRecv) (i : Nat) (IDSHandle : UInt16) :
    (l.modify i fun receiver => { receiver with ids_handle := IDSHandle }).map CodeRecv.filename =
      l.map CodeRecv.filename := by
  induction l generalizing i with
  | nil => cases i <;> rfl
  | cons receiver l ih =>
      cases i with
      | zero => rfl
      | succ i => exact congrArg (receiver.filename :: ·) (ih i)

theorem delivered (layout : IDSLayout) (fd_readcode : Nat) (s : FileTransfer) (reply : IDSReply) :
    s.Delivered (s.DataHandler layout fd_readcode reply) reply := by
  cases reply with
  | OpenHandleReply Filename msg =>
      obtain ⟨fp, names, phase, pipe, replies, opened, closed⟩ := delivered_write
      exact ⟨fp, names.trans (map_filename_modify _ _ _), phase, pipe, replies, opened, closed⟩
  | ReadPortionReply msg => exact delivered_write

theorem map_filename_eraseP (l : List CodeRecv) :
    (l.eraseP (·.filename = filename)).map CodeRecv.filename =
      (l.map CodeRecv.filename).erase filename := by
  rw [List.erase_eq_eraseP, List.eraseP_map]
  congr 2
  funext receiver
  rw [Function.comp_apply, beq_eq_decide]
  exact decide_eq_decide.mpr eq_comm

end Receivers

/-! ### What a transfer keeps -/

section Runs

variable {layout : IDSLayout} {filename : CString} {files : UInt16 → Option (List UInt8)}
  {file contents bytes : List UInt8} {fd_readcode : Nat} {codeReceivers : List CodeRecv}
  {replies : List IDSReply} {s s' : FileTransfer} {a : Action} {out : Unit} {IDSHandle : UInt16}
  {Offset : UInt32} {FailCount : Nat}

/-- In the loop: the handle is the one that is open, and what was read is written. -/
structure Reading (file : List UInt8) (codeReceivers : List CodeRecv) (s : FileTransfer)
    (IDSHandle : UInt16) (Offset : UInt32) : Prop where
  names : s.codeReceivers.map CodeRecv.filename = codeReceivers.map CodeRecv.filename
  mem : IDSHandle ∈ s.opened
  only : ∀ Handle ∈ s.opened, Handle = IDSHandle
  written : ∃ contents, s.fp = some contents ∧ Progress file Offset contents

/-- What holds in each phase. -/
def Stage (filename : CString) (file : List UInt8) (codeReceivers : List CodeRecv)
    (s : FileTransfer) : Phase → Prop
  | .opening _ | .awaitingHandle _ =>
      s.codeReceivers.map CodeRecv.filename = codeReceivers.map CodeRecv.filename ∧ s.fp = none
  | .requesting IDSHandle Offset _ | .awaitingPortion IDSHandle Offset _ =>
      Reading file codeReceivers s IDSHandle Offset
  | .returned _ => s.LeavesRight filename file codeReceivers

/-- The replies on their way and in the pipe are replies of the service, and the handles that are
opened are of the file. -/
structure Sound (layout : IDSLayout) (filename : CString) (files : UInt16 → Option (List UInt8))
    (file : List UInt8) (codeReceivers : List CodeRecv) (s : FileTransfer) : Prop where
  replied : ∀ msg, .ReadPortionReply msg ∈ s.replies → Truthful layout files msg
  piped : ∀ msg, .ReadPortionReply msg ∈ s.pipe → Truthful layout files msg
  opened : ∀ Handle ∈ s.opened, files Handle = some file
  stage : Stage filename file codeReceivers s s.phase

theorem sound_start (truthful : ∀ msg, .ReadPortionReply msg ∈ replies →
    Truthful layout files msg) :
    (start codeReceivers replies).Sound layout filename files file codeReceivers :=
  ⟨truthful, nofun, nofun, rfl, rfl⟩

/-- The end of `GetCode` behind its loop. -/
theorem leavesRight_cleanup (reading : Reading file codeReceivers s IDSHandle Offset)
    {IsValid : Bool} (whole : IsValid = true → s.fp = some file) :
    (s.cleanup filename IDSHandle IsValid).LeavesRight filename file codeReceivers := by
  rintro _ ⟨⟩
  refine ⟨?_, fun Handle mem => ?_, ?_⟩
  · exact (map_filename_eraseP _).trans (congrArg (·.erase filename) reading.names)
  · rw [reading.only Handle mem]
    exact List.mem_cons_self
  · cases IsValid with
    | false => rfl
    | true => exact whole rfl

/-- A round of the loop, with bytes that stand in the file or none. -/
theorem Sound.portion (sound : s.Sound layout filename files file codeReceivers)
    (reading : Reading file codeReceivers s IDSHandle Offset) {result : Option (List UInt8)}
    (right : ∀ bytes, result = some bytes →
      bytes = (file.drop Offset.toNat).take bytes.length ∧
        (bytes = [] → file.length ≤ Offset.toNat)) :
    (s.portion filename IDSHandle Offset FailCount result).Sound layout filename files file
      codeReceivers := by
  obtain ⟨contents, fp, progress⟩ := reading.written
  cases result with
  | none =>
      rw [FileTransfer.portion]
      split
      · exact ⟨sound.replied, sound.piped, sound.opened, leavesRight_cleanup reading nofun⟩
      · exact ⟨sound.replied, sound.piped, sound.opened,
          ⟨reading.names, reading.mem, reading.only, contents, fp, progress⟩⟩
  | some bytes =>
      obtain ⟨portion, ends⟩ := right bytes rfl
      cases bytes with
      | nil =>
          have whole : s.fp = some file := by rw [fp, progress.done (ends rfl)]
          exact ⟨sound.replied, sound.piped, sound.opened,
            leavesRight_cleanup reading fun _ => whole⟩
      | cons byte bytes =>
          refine ⟨sound.replied, sound.piped, sound.opened,
            ⟨reading.names, reading.mem, reading.only, contents ++ byte :: bytes, ?_,
              progress.append portion⟩⟩
          exact congrArg (Option.map (· ++ byte :: bytes)) fp

/-- A reply that arrives. -/
theorem Sound.deliver (sound : s.Sound layout filename files file codeReceivers)
    {reply : IDSReply} (mem : reply ∈ s.replies) :
    (s.DataHandler layout fd_readcode reply).Sound layout filename files file codeReceivers := by
  obtain ⟨fp, names, phase, pipe, replies, opened, closed⟩ :=
    delivered layout fd_readcode s reply
  refine ⟨by rw [replies]; exact sound.replied, fun msg there => ?_,
    by rw [opened]; exact sound.opened, ?_⟩
  · obtain before | rfl := pipe _ there
    · exact sound.piped msg before
    · exact sound.replied msg mem
  · have stage := sound.stage
    rw [phase]
    cases here : s.phase with
    | opening n =>
        rw [here] at stage
        exact ⟨names.trans stage.1, fp.trans stage.2⟩
    | awaitingHandle n =>
        rw [here] at stage
        exact ⟨names.trans stage.1, fp.trans stage.2⟩
    | requesting IDSHandle Offset FailCount =>
        rw [here] at stage
        exact ⟨names.trans stage.names, opened ▸ stage.mem, opened ▸ stage.only, fp ▸ stage.written⟩
    | awaitingPortion IDSHandle Offset FailCount =>
        rw [here] at stage
        exact ⟨names.trans stage.names, opened ▸ stage.mem, opened ▸ stage.only, fp ▸ stage.written⟩
    | returned IsValid =>
        rw [here] at stage
        intro IsValid' returned
        rw [phase] at returned
        obtain ⟨removed, closedAll, left⟩ := stage IsValid' returned
        exact ⟨names.trans removed, by rw [opened, closed]; exact closedAll, fp.trans left⟩

/-- The next reply is taken out of the pipe. -/
theorem Sound.pop {reply : IDSReply} {pipe : List IDSReply}
    (sound : s.Sound layout filename files file codeReceivers) (here : s.pipe = reply :: pipe) :
    ({ s with pipe := pipe } : FileTransfer).Sound layout filename files file codeReceivers := by
  refine ⟨sound.replied, fun m mem => sound.piped m ?_, sound.opened, ?_⟩
  · exact here ▸ List.mem_cons_of_mem _ mem
  · have stage := sound.stage
    show Stage filename file codeReceivers _ s.phase
    cases phase : s.phase with
    | opening n =>
        rw [phase] at stage
        exact stage
    | awaitingHandle n =>
        rw [phase] at stage
        exact stage
    | requesting IDSHandle Offset FailCount =>
        rw [phase] at stage
        exact ⟨stage.names, stage.mem, stage.only, stage.written⟩
    | awaitingPortion IDSHandle Offset FailCount =>
        rw [phase] at stage
        exact ⟨stage.names, stage.mem, stage.only, stage.written⟩
    | returned IsValid =>
        rw [phase] at stage
        intro IsValid' returned
        exact stage IsValid' (phase.trans returned)

/-- A message for `IDSOpenHandle` that has the one handle that is open. -/
theorem Sound.openHandle (sound : s.Sound layout filename files file codeReceivers)
    {iSendCount : Nat} (phase : s.phase = .awaitingHandle iSendCount) {Reply : Memory}
    (status : Reply layout.openStatusCode = IDS_STATUS_OK)
    (nonzero : Reply.load16 layout.openFileHandle ≠ 0)
    (mem : Reply.load16 layout.openFileHandle ∈ s.opened)
    (only : ∀ Handle ∈ s.opened, Handle = Reply.load16 layout.openFileHandle) :
    (s.openHandle layout Reply).Sound layout filename files file codeReceivers := by
  have stage := sound.stage
  rw [phase] at stage
  rw [FileTransfer.openHandle, if_neg (not_not.mpr status), if_neg nonzero]
  exact ⟨sound.replied, sound.piped, sound.opened, ⟨stage.1, mem, only, [], rfl, .start⟩⟩

/-- Every step that does not go wrong. -/
theorem Sound.step (sound : s.Sound layout filename files file codeReceivers)
    (calm : s.Calm layout a)
    (taken : (machine layout filename files file fd_readcode).step s a = some (s', out)) :
    s'.Sound layout filename files file codeReceivers := by
  have step : s.step layout filename files file fd_readcode a = some (s', out) := taken
  have stage := sound.stage
  cases a with
  | openRequest msg =>
      rw [FileTransfer.step] at step
      split at step
      case h_1 iSendCount phase =>
        rw [phase] at stage
        have replied : ∀ m, .ReadPortionReply m ∈ .OpenHandleReply filename msg :: s.replies →
            Truthful layout files m := by
          intro m mem
          obtain other | before := List.mem_cons.mp mem
          · cases other
          · exact sound.replied m before
        split at step
        · cases step
          exact ⟨replied, sound.piped, sound.opened, stage⟩
        · split at step
          case isTrue known =>
            cases step
            refine ⟨replied, sound.piped, fun Handle mem => ?_, stage⟩
            obtain rfl | before := List.mem_cons.mp mem
            · exact known
            · exact sound.opened Handle before
          case isFalse => cases step
      case h_2 => cases step
  | portionRequest msg =>
      rw [FileTransfer.step] at step
      split at step
      case h_1 IDSHandle Offset FailCount phase =>
        rw [phase] at stage
        split at step
        case isTrue answers =>
          cases step
          refine ⟨fun m mem => ?_, sound.piped, sound.opened,
            ⟨stage.names, stage.mem, stage.only, stage.written⟩⟩
          obtain new | before := List.mem_cons.mp mem
          · cases new
            exact answers.2.2
          · exact sound.replied m before
        case isFalse => cases step
      case h_2 => cases step
  | DataHandler i =>
      obtain ⟨reply, there, same⟩ := Option.map_eq_some_iff.mp step
      cases same
      exact sound.deliver (List.mem_of_getElem? there)
  | read =>
      rw [FileTransfer.step] at step
      split at step
      case h_1 reply pipe iSendCount pipe_eq phase =>
        cases step
        have next := sound.pop pipe_eq
        simp only [Calm, pipe_eq, phase] at calm
        exact next.openHandle phase calm.1 calm.2.1 calm.2.2.1 calm.2.2.2
      case h_2 reply pipe IDSHandle Offset FailCount pipe_eq phase =>
        cases step
        rw [phase] at stage
        have next := sound.pop pipe_eq
        refine next.portion ⟨stage.names, stage.mem, stage.only, stage.written⟩
          fun bytes accepted => ?_
        cases reply with
        | OpenHandleReply FileName msg =>
            simp only [Calm, pipe_eq, phase] at calm
            rw [IDSReply.msg, calm] at accepted
            cases accepted
        | ReadPortionReply msg =>
            have truthful := sound.piped msg (pipe_eq ▸ List.mem_cons_self)
            exact portion_of_truthful truthful accepted (sound.opened _ stage.mem)
      case h_3 => cases step
  | timeout =>
      rw [FileTransfer.step] at step
      split at step
      case h_1 iSendCount pipe_eq phase =>
        rw [phase] at stage
        rw [if_pos (calm iSendCount phase)] at step
        cases step
        exact ⟨sound.replied, sound.piped, sound.opened, stage⟩
      case h_2 IDSHandle Offset FailCount pipe_eq phase =>
        cases step
        rw [phase] at stage
        exact sound.portion stage nofun
      case h_3 => cases step
  | readError =>
      rw [FileTransfer.step] at step
      split at step
      case h_1 iSendCount phase => exact absurd phase (calm iSendCount)
      case h_2 IDSHandle Offset FailCount phase =>
        cases step
        rw [phase] at stage
        exact sound.portion stage nofun
      case h_3 => cases step

/-- Every run whose steps do not go wrong is sound. -/
theorem sound_of_reaches
    (truthful : ∀ msg, .ReadPortionReply msg ∈ replies → Truthful layout files msg)
    (run : (machine layout filename files file fd_readcode).Reaches (Calm layout)
      (start codeReceivers replies) s) :
    s.Sound layout filename files file codeReceivers :=
  run.invariant (sound_start truthful) fun _ _ _ _ sound calm taken => sound.step calm taken

/-- **Code transfer from a file service.** Whatever replies are lost, late or duplicated, and
whatever is on its way from earlier transfers, every return of `GetCode` leaves things right, when
`IDSOpenHandle` gets the one handle that was opened and no reply to it is taken for a portion. -/
theorem getCode_leaves_right
    (truthful : ∀ msg, .ReadPortionReply msg ∈ replies → Truthful layout files msg)
    (run : (machine layout filename files file fd_readcode).Reaches (Calm layout)
      (start codeReceivers replies) s) :
    s.LeavesRight filename file codeReceivers := by
  have sound := sound_of_reaches truthful run
  intro IsValid returned
  have stage := sound.stage
  rw [returned] at stage
  exact stage IsValid returned

/-- A return out of `IDSOpenHandle` comes before the cleanup. -/
theorem returned_of_opening
    (names : s.codeReceivers.map CodeRecv.filename = codeReceivers.map CodeRecv.filename)
    (entry : filename ∈ codeReceivers.map CodeRecv.filename) {iSendCount : Nat}
    (phase : s.phase = .awaitingHandle iSendCount)
    (taken : (machine layout filename files file fd_readcode).step s a = some (s', out))
    {IsValid : Bool} (returned : s'.phase = .returned IsValid) :
    ¬ s'.LeavesRight filename file codeReceivers := by
  have step : s.step layout filename files file fd_readcode a = some (s', out) := taken
  have kept : s'.codeReceivers = s.codeReceivers := by
    cases a with
    | openRequest msg =>
        rw [FileTransfer.step, phase] at step
        cases step
    | portionRequest msg =>
        rw [FileTransfer.step, phase] at step
        cases step
    | DataHandler i =>
        obtain ⟨reply, -, same⟩ := Option.map_eq_some_iff.mp step
        cases same
        have still := (delivered layout fd_readcode s reply).phase
        rw [phase, returned] at still
        cases still
    | read =>
        rw [FileTransfer.step, phase] at step
        split at step
        case h_1 =>
          cases step
          rw [FileTransfer.openHandle]
          split_ifs <;> rfl
        case h_2 same => cases same
        case h_3 => cases step
    | timeout =>
        rw [FileTransfer.step, phase] at step
        split at step
        case h_1 =>
          split at step <;> cases step <;> rfl
        case h_2 same => cases same
        case h_3 => cases step
    | readError =>
        rw [FileTransfer.step, phase] at step
        cases step
        rfl
  intro right
  obtain ⟨removed, -⟩ := right IsValid returned
  rw [kept, names] at removed
  have fewer := List.length_erase_of_mem entry
  have some_entry := List.length_pos_of_mem entry
  rw [← removed] at fewer
  omega

end Runs

/-! ### A file of two bytes -/

/-- The fields of both replies from the start on. -/
def packed : IDSLayout where
  openStatusCode := 0
  openFileHandle := 1
  readFileHandle := 0
  readStatusCode := 2
  readByteOffset := 3
  readLength := 7
  readFileBuffer := 11

/-- The file behind the handle 5. -/
def twoBytes (Handle : UInt16) : Option (List UInt8) := if Handle = 5 then some [42, 43] else none

def replyOf (bytes : List UInt8) : Memory := Memory.store (fun _ => 0) 0 bytes

/-- A portion from the offset on. -/
def portionOf (Offset : UInt8) (bytes : List UInt8) : Memory :=
  replyOf ([5, 0, 1, Offset, 0, 0, 0, .ofNat bytes.length, 0, 0, 0] ++ bytes)

/-- No reply arrives. -/
def unanswered : List Action :=
  (List.replicate NUM_RETRIES [.openRequest (replyOf [1, 5, 0]), .timeout]).flatten

/-- A portion is asked for, and a reply is taken while no handle is awaited. -/
theorem reaches_portion {start' s : FileTransfer} {s₁ s₂ s₃ : FileTransfer × Unit} (msg : Memory)
    (i : Nat) (run : (machine packed .empty twoBytes [42, 43] 3).Reaches (Calm packed) start' s)
    (asked : (machine packed .empty twoBytes [42, 43] 3).step s (.portionRequest msg) = some s₁)
    (handled : (machine packed .empty twoBytes [42, 43] 3).step s₁.1 (.DataHandler i) = some s₂)
    (calm : Calm packed s₂.1 .read)
    (taken : (machine packed .empty twoBytes [42, 43] 3).step s₂.1 .read = some s₃) :
    (machine packed .empty twoBytes [42, 43] 3).Reaches (Calm packed) start' s₃.1 :=
  .step (.step (.step run (a := .portionRequest msg) trivial asked) (a := .DataHandler i) trivial
    handled) calm taken

/-- The handle is opened, and read to its end. The first portion arrives twice, and the second is
asked for once more. -/
theorem reaches_transferred : ∃ s, (machine packed .empty twoBytes [42, 43] 3).Reaches (Calm packed)
    (start [⟨3, 0, .empty⟩] []) s ∧ s.phase = .returned true := by
  let first := portionOf 0 [42]
  let second := portionOf 1 [43]
  let last := portionOf 2 []
  have calm : Calm packed { start [⟨3, 0, .empty⟩] [] with
      phase := .awaitingHandle 0
      pipe := [.OpenHandleReply .empty (replyOf [1, 5, 0])]
      opened := [5] } .read :=
    ⟨rfl, by decide, List.mem_cons_self, fun _ mem => List.mem_singleton.mp mem⟩
  let opened : FileTransfer :=
    { start [⟨3, 5, .empty⟩] [.OpenHandleReply .empty (replyOf [1, 5, 0])] with
      fp := some []
      phase := .requesting 5 0 0
      opened := [5] }
  have opens : (machine packed .empty twoBytes [42, 43] 3).Reaches (Calm packed)
      (start [⟨3, 0, .empty⟩] []) opened :=
    .step (.step (.step .start (a := .openRequest (replyOf [1, 5, 0])) trivial rfl)
      (a := .DataHandler 0) trivial rfl) (a := .read) calm rfl
  let begun : FileTransfer :=
    { opened with
      fp := some [42]
      phase := .requesting 5 1 0
      replies := .ReadPortionReply first :: opened.replies }
  have begins : (machine packed .empty twoBytes [42, 43] 3).Reaches (Calm packed)
      (start [⟨3, 0, .empty⟩] []) begun :=
    reaches_portion first 0 opens rfl rfl trivial rfl
  let again : FileTransfer :=
    { begun with
      phase := .requesting 5 1 1
      replies := .ReadPortionReply second :: begun.replies }
  have repeats : (machine packed .empty twoBytes [42, 43] 3).Reaches (Calm packed)
      (start [⟨3, 0, .empty⟩] []) again :=
    reaches_portion second 1 begins rfl rfl trivial rfl
  let written : FileTransfer :=
    { again with
      fp := some [42, 43]
      phase := .requesting 5 2 0
      replies := .ReadPortionReply second :: again.replies }
  have writes : (machine packed .empty twoBytes [42, 43] 3).Reaches (Calm packed)
      (start [⟨3, 0, .empty⟩] []) written :=
    reaches_portion second 0 repeats rfl rfl trivial rfl
  exact ⟨_, reaches_portion last 0 writes rfl rfl trivial rfl, rfl⟩

theorem getCode_leaves_right_twoBytes : ∃ s : FileTransfer, s.phase = .returned true ∧
    s.codeReceivers.map CodeRecv.filename = [] ∧ (∀ Handle ∈ s.opened, Handle ∈ s.closed) ∧
    s.fp = some [42, 43] := by
  obtain ⟨s, run, returned⟩ := reaches_transferred
  have truthful : ∀ msg, IDSReply.ReadPortionReply msg ∈ [] → Truthful packed twoBytes msg :=
    fun _ mem => absurd mem List.not_mem_nil
  exact ⟨s, returned, getCode_leaves_right truthful run true returned⟩

/-- Without a reply the code receiver and ten handles stay. -/
theorem unanswered_leaves_receiver :
    ¬ ∀ (layout : IDSLayout) (filename : CString) (files : UInt16 → Option (List UInt8))
      (file : List UInt8) (fd_readcode : Nat) (codeReceivers : List CodeRecv)
      (replies : List IDSReply) (s : FileTransfer),
      filename ∈ codeReceivers.map CodeRecv.filename →
      (∀ msg, .ReadPortionReply msg ∈ replies → Truthful layout files msg) →
      (machine layout filename files file fd_readcode).Reachable (start codeReceivers replies) s →
        s.LeavesRight filename file codeReceivers := by
  intro all
  have ran : ((machine packed .empty twoBytes [42, 43] 3).exec (start [⟨3, 0, .empty⟩] [])
      unanswered).map (fun s => (s.phase, s.codeReceivers.map CodeRecv.filename)) =
      some (.returned false, [.empty]) := by
    decide +kernel
  obtain ⟨s, done, reached⟩ := Option.map_eq_some_iff.mp ran
  obtain ⟨phase, kept⟩ := Prod.mk.inj reached
  have right := all packed .empty twoBytes [42, 43] 3 [⟨3, 0, .empty⟩] [] s List.mem_cons_self
    (fun _ mem => absurd mem List.not_mem_nil) (.exec .start (fun _ _ _ => trivial) done)
  have removed := (right false phase).1
  rw [kept] at removed
  revert removed
  decide

end FileTransfer

end Sdm
