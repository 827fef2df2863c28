import Sdm.Message.Decoders
import Sdm.Message.PostTask

/-!
`Marshal`, `Unmarshal` into an object, and `Forward`, on a 32-bit little-endian target.

An object of a message class keeps its fields, the header of the last message and, in three
classes, a flag that says whether it is sent as an empty message. `Marshal` walks over the texts
and copies the data of the object; that stays inside their arrays or is a fault. The checksum of
a code segment is a function of its bytes.

* `MessageCodec`: what a class puts behind the header, and its decoder.
* `Marshal`, `UnmarshalInto`, `Forward`: what the classes share.
-/

namespace Sdm

open Lib Checked Memory

/-! ### What `Marshal` reads of an object -/

/-- A text in an array of this size, up to its terminator. -/
def textField (arraySize : Nat) (text : CString) : Checked (List UInt8) := do
  access ⟨arraySize, 0, text.length + 1⟩
  pure (text.bytes ++ [0])

/-- The first bytes of an array of this size. -/
def dataField (arraySize : Nat) (data : List UInt8) : Checked (List UInt8) := do
  access ⟨arraySize, 0, data.length⟩
  pure data

/-- `SDMMessage_ID::Marshal`. -/
def SDMMessageID.marshal (id : SDMMessageID) : List UInt8 := [id.interface, id.message]

/-! ### Message classes -/

/-- A class of messages whose objects have these fields. -/
structure MessageCodec (α : Type) where
  kind : MessageKind
  /-- What `Marshal` writes behind the header. -/
  body : α → Checked (List UInt8)
  /-- The fields as `Marshal` leaves them. -/
  marshalled : α → α
  /-- `Unmarshal` into an object with these fields. -/
  Unmarshal : α → Memory → Checked (Decoded α)
  /-- The fields that are sent are the same. -/
  Same : α → α → Prop

/-- An object of a message class. -/
structure Object (α : Type) where
  msg : α
  header : Header
  emptyflag : Bool

namespace MessageCodec

variable {α : Type}

/-- The header with this time stamp. -/
def headerBytes (c : MessageCodec α) (header : Header) : List UInt8 :=
  c.kind.MsgName :: (bytes32 header.sec ++ (bytes32 header.subsec ++
    bytes16 header.msg_length.toUInt16))

/-- `Marshal` at this time: the object after it, and the bytes. -/
def Marshal (c : MessageCodec α) (sec subsec : UInt32) (o : Object α) :
    Checked (Object α × List UInt8) :=
  if c.kind.hasEmpty ∧ o.emptyflag then
    let header : Header := ⟨sec, subsec, 0⟩
    pure ({ o with header }, c.headerBytes header)
  else do
    let body ← c.body o.msg
    let header : Header := ⟨sec, subsec, Int16.ofNat body.length⟩
    pure ({ o with msg := c.marshalled o.msg, header }, c.headerBytes header ++ body)

/-- `Unmarshal`: what it returns, with the object after it; none for an error. The flag stays. -/
def UnmarshalInto (c : MessageCodec α) (old : Object α) (buf : Memory) :
    Checked (Option (Int × Object α)) := do
  match ← c.Unmarshal old.msg buf with
  | .error _ => pure none
  | .message cur header msg => pure (some (cur, { old with msg, header }))

/-- `SDMmessage::Forward` at this time, up to what it sends: the message is marshalled into a
buffer of `BUFSIZE` bytes, and its header once more with the old time stamp. -/
def Forward (c : MessageCodec α) (sec subsec : UInt32) (o : Object α) : Checked (List UInt8) := do
  let (o', bytes) ← c.Marshal sec subsec o
  access ⟨BUFSIZE, 0, bytes.length⟩
  pure (c.headerBytes { o'.header with sec := o.header.sec, subsec := o.header.subsec } ++
    bytes.drop HEADER_SIZE)

end MessageCodec

/-- A class whose `Marshal` changes no field and whose `Unmarshal` sets them all. -/
def plainClass {α : Type} (kind : MessageKind) (body : α → Checked (List UInt8))
    (Unmarshal : Memory → Checked (Decoded α)) : MessageCodec α where
  kind := kind
  body := body
  marshalled := id
  Unmarshal := fun _ => Unmarshal
  Same := Eq

/-! ### Data, commands and services -/

/-- `SDMData`. -/
def SDMData.codec : MessageCodec SDMData.Received :=
  plainClass SDMData.kind
    (fun o => do
      let msg ← dataField (BUFSIZE - 29) o.msg
      pure (o.source.marshal ++ (o.msg_id.marshal ++ (bytes32 o.pid.toUInt32 ++
        (bytes16 o.seq_num.toUInt16 ++ msg)))))
    SDMData.Unmarshal

def SDMCommand.kind : MessageKind := ⟨'z'.toUInt8, 24, false, positive_request⟩
def SDMService.kind : MessageKind := ⟨'x'.toUInt8, 24, false, positive_request⟩
def SDMSerreqst.kind : MessageKind := ⟨'y'.toUInt8, 28, false, by decide⟩

/-- `SDMCommand::Unmarshal`. -/
def SDMCommand.Unmarshal (buf : Memory) : Checked (Decoded SDMCommand) :=
  SDMCommand.kind.unmarshal buf fun header => do
    let cur := HEADER_SIZE
    let source ← loadComponent buf cur
    let cur := cur + 10
    let destination ← loadComponent buf cur
    let cur := cur + 10
    let command_id ← loadMessageID buf cur
    let cur := cur + 2
    let fault_id ← loadMessageID buf cur
    let cur := cur + 2
    let length := header.msg_length.toInt - cur + HEADER_SIZE
    let data ← (recvBuffer buf).memcpy (BUFSIZE - 35) 0 cur (size_t length)
    pure (header.msg_length.toInt + HEADER_SIZE,
      { source, destination, command_id, fault_id, data })

/-- `SDMCommand`. -/
def SDMCommand.codec : MessageCodec SDMCommand :=
  plainClass SDMCommand.kind
    (fun o => do
      let data ← dataField (BUFSIZE - 35) o.data
      pure (o.source.marshal ++ (o.destination.marshal ++ (o.command_id.marshal ++
        (o.fault_id.marshal ++ data)))))
    SDMCommand.Unmarshal

/-- `SDMService::Unmarshal`. -/
def SDMService.Unmarshal (buf : Memory) : Checked (Decoded SDMService) :=
  SDMService.kind.unmarshal buf fun header => do
    let cur := HEADER_SIZE
    let source ← loadComponent buf cur
    let cur := cur + 10
    let destination ← loadComponent buf cur
    let cur := cur + 10
    let command_id ← loadMessageID buf cur
    let cur := cur + 2
    let seq_num ← (recvBuffer buf).load16 cur
    let cur := cur + 2
    let length := header.msg_length.toInt - cur + HEADER_SIZE
    let data ← (recvBuffer buf).memcpy (BUFSIZE - 35) 0 cur (size_t length)
    pure (header.msg_length.toInt + HEADER_SIZE,
      { source, destination, command_id, seq_num := seq_num.toInt16, data })

/-- `SDMService`. -/
def SDMService.codec : MessageCodec SDMService :=
  plainClass SDMService.kind
    (fun o => do
      let data ← dataField (BUFSIZE - 35) o.data
      pure (o.source.marshal ++ (o.destination.marshal ++ (o.command_id.marshal ++
        (bytes16 o.seq_num.toUInt16 ++ data)))))
    SDMService.Unmarshal

/-- `SDMSerreqst::Unmarshal`. -/
def SDMSerreqst.Unmarshal (buf : Memory) : Checked (Decoded SDMSerreqst) :=
  SDMSerreqst.kind.unmarshal buf fun header => do
    let cur := HEADER_SIZE
    let source ← loadComponent buf cur
    let cur := cur + 10
    let destination ← loadComponent buf cur
    let cur := cur + 10
    let command_id ← loadMessageID buf cur
    let cur := cur + 2
    let reply_id ← loadMessageID buf cur
    let cur := cur + 2
    let fault_id ← loadMessageID buf cur
    let cur := cur + 2
    let seq_num ← (recvBuffer buf).load16 cur
    let cur := cur + 2
    let length := header.msg_length.toInt - cur + HEADER_SIZE
    let data ← (recvBuffer buf).memcpy (BUFSIZE - 39) 0 cur (size_t length)
    pure (cur + length,
      { source, destination, command_id, reply_id, fault_id, seq_num := seq_num.toInt16, data })

/-- `SDMSerreqst`. -/
def SDMSerreqst.codec : MessageCodec SDMSerreqst :=
  plainClass SDMSerreqst.kind
    (fun o => do
      let data ← dataField (BUFSIZE - 39) o.data
      pure (o.source.marshal ++ (o.destination.marshal ++ (o.command_id.marshal ++
        (o.reply_id.marshal ++ (o.fault_id.marshal ++ (bytes16 o.seq_num.toUInt16 ++ data)))))))
    SDMSerreqst.Unmarshal

/-! ### Requests and their replies -/

/-- `SDMReqReg`. -/
def SDMReqReg.codec : MessageCodec SDMReqReg :=
  plainClass SDMReqReg.kind
    (fun o => do
      let device ← textField XTEDS_MAX_ITEM_NAME_SIZE o.device
      let interface ← textField XTEDS_MAX_ITEM_NAME_SIZE o.interface
      let item_name ← textField XTEDS_MAX_ITEM_NAME_SIZE o.item_name
      let quallist ← textField QUALLIST_MAX_SIZE o.quallist
      pure (o.source.marshal ++ (o.destination.marshal ++ (o.reply :: (bytes16 o.id ++
        (device ++ (interface ++ (item_name ++ quallist))))))))
    SDMReqReg.Unmarshal

/-- `SDMRegInfo`. -/
def SDMRegInfo.codec : MessageCodec SDMRegInfo.Received :=
  plainClass SDMRegInfo.kind
    (fun o => do
      let msg_def ← textField MSG_DEF_SIZE o.msg_def
      let xTEDS_section ← textField MSG_DEF_SIZE o.xTEDS_section
      pure (o.source.marshal ++ (o.msg_id.marshal ++ (bytes16 o.id ++ (o.type ::
        (msg_def ++ xTEDS_section))))))
    SDMRegInfo.Unmarshal

/-- `SDMSearch`. -/
def SDMSearch.codec : MessageCodec SDMSearch :=
  plainClass SDMSearch.kind
    (fun o => do
      let reg_expr ← textField (BUFSIZE - 33) o.reg_expr
      pure (o.source.marshal ++ (o.destination.marshal ++ (o.reply :: (bytes16 o.id ++
        reg_expr)))))
    SDMSearch.Unmarshal

/-- `SDMSearchReply` with its array, which holds a row of texts up to an empty one. -/
structure SDMSearchReply.Held where
  source : SDMComponentID
  id : UInt16
  captured_matches : Memory

/-- The row of texts in the array, as `SDMSearchReply::Marshal` copies it into a message. -/
def SDMSearchReply.Held.row (o : SDMSearchReply.Held) : Checked (List UInt8) := do
  let (_, _, matched) ← copyMatches ⟨o.captured_matches, BUFSIZE - 23⟩ BUFSIZE 0 23 []
  pure matched

/-- `SDMSearchReply::Marshal` behind the header. -/
def SDMSearchReply.body (o : SDMSearchReply.Held) : Checked (List UInt8) := do
  let matched ← o.row
  pure (o.source.marshal ++ (bytes16 o.id ++ (matched ++ [0])))

/-- `SDMSearchReply`. What stood in the array behind the received row stays. -/
def SDMSearchReply.codec : MessageCodec SDMSearchReply.Held where
  kind := SDMSearchReply.kind
  body := SDMSearchReply.body
  marshalled o := o
  Unmarshal old buf := do
    match ← SDMSearchReply.Unmarshal buf with
    | .error code => pure (.error code)
    | .message cur header msg =>
        let captured_matches := old.captured_matches.store 0 msg.captured_matches
        pure (.message cur header { source := msg.source, id := msg.id, captured_matches })
  Same o o' := o.source = o'.source ∧ o.id = o'.id ∧ o.row = o'.row

/-- `SDMVarReq`. -/
def SDMVarReq.codec : MessageCodec SDMVarReq :=
  plainClass SDMVarReq.kind
    (fun o => do
      let «variable» ← textField XTEDS_MAX_ITEM_NAME_SIZE o.variable
      pure (o.source.marshal ++ (o.destination.marshal ++ (o.reply :: (o.msg_id.marshal ++
        (bytes16 o.id ++ «variable»))))))
    SDMVarReq.Unmarshal

/-- `SDMVarInfo`. -/
def SDMVarInfo.codec : MessageCodec SDMVarInfo :=
  plainClass SDMVarInfo.kind
    (fun o => do
      let interface ← textField XTEDS_MAX_ITEM_NAME_SIZE o.interface
      let var_xTEDS ← textField (BUFSIZE - 78) o.var_xTEDS
      pure (o.source.marshal ++ (bytes16 o.id ++ (interface ++ var_xTEDS))))
    SDMVarInfo.Unmarshal

/-! ### Tasks and code -/

/-- `SDMCode`, with the checksum that `Marshal` computes. -/
def SDMCode.codec (checksum : List UInt8 → Int32) : MessageCodec SDMCode.Received where
  kind := SDMCode.kind
  body o := do
    let filename ← textField MAX_FILENAME_SIZE o.filename
    let code ← dataField (BUFSIZE - MAX_FILENAME_SIZE - 21) o.code
    pure (bytes16 o.seq_num ++ (bytes16 o.num_segments ++ (filename ++ (code ++
      bytes32 (checksum o.code).toUInt32))))
  marshalled o := { o with c_sum := checksum o.code }
  Unmarshal _ := SDMCode.Unmarshal
  Same := Eq

/-- `SDMTask`. -/
def SDMTask.codec : MessageCodec SDMTask :=
  plainClass SDMTask.kind
    (fun o => do
      let filename ← textField MAX_FILENAME_SIZE o.filename
      pure (o.source.marshal ++ (o.priority.toUInt8 :: (bytes32 o.pid.toUInt32 ++
        (bytes32 o.version.toUInt32 ++ filename)))))
    SDMTask.Unmarshal

def SDMPostTask.kind : MessageKind := ⟨SDM_PostTask, SDMPostTask.total_length, false, by decide⟩
def SDMTaskFinished.kind : MessageKind := ⟨'E'.toUInt8, 19, false, by decide⟩

/-- `SDMPostTask::Unmarshal`, access by access. -/
def SDMPostTask.UnmarshalChecked (buf : Memory) : Checked (Decoded SDMPostTask) :=
  SDMPostTask.kind.unmarshal buf fun header => do
    let cur := HEADER_SIZE
    let resources ← (recvBuffer buf).load16 cur
    let cur := cur + 2
    let priority ← (recvBuffer buf).load8 cur
    let cur := cur + 1
    let sched_interval ← (recvBuffer buf).load32 cur
    let cur := cur + 4
    let mode ← (recvBuffer buf).load32 cur
    let cur := cur + 4
    let version ← (recvBuffer buf).load32 cur
    let cur := cur + 4
    let (_, filename) ← (recvBuffer buf).copyTruncated MAX_FILENAME_SIZE cur
    pure (header.msg_length.toInt + HEADER_SIZE,
      { resources, priority := priority.toInt8, sched_interval := sched_interval.toInt32
        mode := mode.toInt32, version := version.toInt32, filename })

/-- `SDMPostTask`. -/
def SDMPostTask.codec : MessageCodec SDMPostTask :=
  plainClass SDMPostTask.kind
    (fun o => do
      let filename ← textField MAX_FILENAME_SIZE o.filename
      pure (bytes16 o.resources ++ (o.priority.toUInt8 :: (bytes32 o.sched_interval.toUInt32 ++
        (bytes32 o.mode.toUInt32 ++ (bytes32 o.version.toUInt32 ++ filename))))))
    SDMPostTask.UnmarshalChecked

/-- `SDMTaskFinished::Unmarshal`. -/
def SDMTaskFinished.Unmarshal (buf : Memory) : Checked (Decoded SDMTaskFinished) :=
  SDMTaskFinished.kind.unmarshal buf fun _ => do
    let cur := HEADER_SIZE
    let source ← loadComponent buf cur
    let cur := cur + 10
    let result ← (recvBuffer buf).load32 cur
    let cur := cur + 4
    let pid ← (recvBuffer buf).load32 cur
    let cur := cur + 4
    let (uiCurLength, filename) ← (recvBuffer buf).copyTruncated MAX_FILENAME_SIZE cur
    let cur := cur + (uiCurLength + 1)
    pure (cur, { source, result := result.toInt32, pid := pid.toInt32, filename })

/-- `SDMTaskFinished`. -/
def SDMTaskFinished.codec : MessageCodec SDMTaskFinished :=
  plainClass SDMTaskFinished.kind
    (fun o => do
      let filename ← textField MAX_FILENAME_SIZE o.filename
      pure (o.source.marshal ++ (bytes32 o.result.toUInt32 ++ (bytes32 o.pid.toUInt32 ++
        filename))))
    SDMTaskFinished.Unmarshal

/-- `SDMReqCode`, as it is received. -/
structure SDMReqCode.Received where
  filename : CString
  source : SDMComponentID
  seq_num : UInt16
  version : Int32
  deriving DecidableEq

def SDMReqCode.kind : MessageKind := ⟨'c'.toUInt8, 17, false, by decide⟩

/-- `SDMReqCode::Unmarshal`. -/
def SDMReqCode.Unmarshal (buf : Memory) : Checked (Decoded SDMReqCode.Received) :=
  SDMReqCode.kind.unmarshal buf fun _ => do
    let cur := HEADER_SIZE
    let source ← loadComponent buf cur
    let cur := cur + 10
    let seq_num ← (recvBuffer buf).load16 cur
    let cur := cur + 2
    let version ← (recvBuffer buf).load32 cur
    let cur := cur + 4
    let (filename_length, filename) ← (recvBuffer buf).copyTruncated MAX_FILENAME_SIZE cur
    let cur := cur + (filename_length + 1)
    pure (cur, { source, seq_num, version := version.toInt32, filename })

/-- `SDMReqCode`. -/
def SDMReqCode.codec : MessageCodec SDMReqCode.Received :=
  plainClass SDMReqCode.kind
    (fun o => do
      let filename ← textField MAX_FILENAME_SIZE o.filename
      pure (o.source.marshal ++ (bytes16 o.seq_num ++ (bytes32 o.version.toUInt32 ++ filename))))
    SDMReqCode.Unmarshal

end Sdm
