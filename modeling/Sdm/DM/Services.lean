import Sdm.DM.Handlers
import Sdm.DM.SlotLocks
import Sdm.Message.Marshalling

/-!
The services of the Data Manager: the handlers `Service` and `Serreqst`, and
`ServicePublish`, which answers.

`Service` takes every request for a service. One to the Data Manager itself it answers; one
to another component it forwards as an `SDMSerreqst`. `Serreqst` is the handler of such a
message for the services of the Data Manager.
-/

namespace Sdm

open Lib LockProgram

/-! ### Message ids (`DM.h`) -/

def INVALID_MESSAGE_ID : SDMMessageID := ⟨0, 0⟩

def RPLY_CONVERTED_DEVICE_NAME : SDMMessageID := ⟨1, 5⟩
def RPLY_CONVERTED_SPANODE : SDMMessageID := ⟨1, 7⟩
def RPLY_CONVERTED_IP : SDMMessageID := ⟨1, 10⟩
def RPLY_RETURN_COMP_KEY : SDMMessageID := ⟨1, 15⟩
def RPLY_ERRORS : SDMMessageID := ⟨2, 19⟩

def SER_SEND_SENSOR_ID : SDMMessageID := ⟨1, 6⟩
def SER_SEND_PID : SDMMessageID := ⟨1, 8⟩
def SER_SID_TO_SPANODE : SDMMessageID := ⟨1, 11⟩
def SER_SID_TO_IP : SDMMessageID := ⟨1, 12⟩
def SER_COMPID_TO_COMPKEY : SDMMessageID := ⟨1, 14⟩
def SER_GET_ERRORS : SDMMessageID := ⟨2, 18⟩

/-- The services that are asked about a sensor id or a process id. -/
def AsksAboutID (id : SDMMessageID) : Prop :=
  id = SER_SEND_SENSOR_ID ∨ id = SER_SEND_PID ∨ id = SER_SID_TO_SPANODE ∨ id = SER_SID_TO_IP ∨
    id = SER_COMPID_TO_COMPKEY

instance (id : SDMMessageID) : Decidable (AsksAboutID id) := inferInstanceAs (Decidable (_ ∨ _))

variable {τ : Type} [XTEDS τ] [XTEDSServices τ]

/-! ### `ServicePublish` -/

/-- How one kind of reply is made: the slot that it is about, the bytes that are copied from
the slot, and how many bytes are sent. -/
structure Conversion (τ : Type) where
  finds : XTEDSLibrary τ → Bool
  /-- Nothing where a text that is copied is unset. -/
  fill : XTEDSLibrary τ → Memory → Option Memory
  length : Nat
  /-- The slot is released before the reply is sent. -/
  signalsFirst : Bool

/-- The reply `RPLY_CONVERTED_DEVICE_NAME`. -/
def convertDeviceName (sID : UInt32) : Conversion τ where
  finds := hasSensorID sID
  fill s m := s.getName.map fun name =>
    (m.store 0 (Memory.bytes32 sID)).store 4 (name.bytes ++ [0])
  length := 85
  signalsFirst := false

/-- The reply `RPLY_CONVERTED_SPANODE`: the path is cut after 79 bytes (`strncpy`). -/
def convertSPANode (sID : UInt32) : Conversion τ where
  finds := hasSensorID sID
  fill s m := s.spaNode.map fun path =>
    ((m.store 0 (Memory.bytes32 sID)).store 4
      (path.bytes.take 79 ++ List.replicate (79 - path.length) 0)).store 83 [0]
  length := 84
  signalsFirst := true

/-- The reply `RPLY_CONVERTED_IP`. -/
def convertIP (sID : UInt32) : Conversion τ where
  finds := hasSensorID sID
  fill s m := some (((m.store 0 (Memory.bytes32 s.id.sensorID)).store 4
    (Memory.bytes32 s.id.address)).store 8 (Memory.bytes16 s.id.port))
  length := 10
  signalsFirst := false

/-- The reply `RPLY_RETURN_COMP_KEY`. -/
def convertComponentKey (sID : UInt32) : Conversion τ where
  finds := hasSensorID sID
  fill s m :=
    let key := (s.xtedsTree.bind XTEDSServices.getComponentKey).getD (.ofString "NOKEY")
    some ((m.store 0 SDMComponentID.zero.marshal).store 0 (key.bytes ++ [0]))
  length := 129
  signalsFirst := false

/-- Any other reply: the sensor id of the task with a process id. -/
def convertPid (requester : SDMComponentID) (pid : UInt32) : Conversion τ where
  finds s := !s.available && s.id.address == requester.address && pid == s.pid
  fill s m := some ((m.store 0 (Memory.bytes32 pid)).store 4 (Memory.bytes32 s.id.sensorID))
  length := 8
  signalsFirst := false

/-- The branches of `ServicePublish` that look for a slot. -/
def conversion (id : SDMMessageID) (requester : SDMComponentID) (sID : UInt32) : Conversion τ :=
  if id = RPLY_CONVERTED_DEVICE_NAME then convertDeviceName sID
  else if id = RPLY_CONVERTED_SPANODE then convertSPANode sID
  else if id = RPLY_CONVERTED_IP then convertIP sID
  else if id = RPLY_RETURN_COMP_KEY then convertComponentKey sID
  else convertPid requester sID

/-- One of these branches. -/
def convert (c : Conversion τ) (msg : Memory) (reply : List UInt8 → Sent) : DMProgram τ Unit := do
  let all ← nodes
  match ← firstHeld c.finds all with
  | none => pure ()
  | some k =>
      let s ← slot k
      let msg ← require (c.fill s msg)
      if c.signalsFirst then
        unlock (.inUse k)
        send (reply (msg.read 0 c.length))
      else
        send (reply (msg.read 0 c.length))
        unlock (.inUse k)

/-- `ServicePublish`; `stack` is what the buffer of the reply holds before. -/
def ServicePublish (stack : Memory) (requester : SDMComponentID) (sID : UInt32)
    (id : SDMMessageID) (seq_num : Int16) : DMProgram τ Unit := do
  let source ← read Shared.dataManager
  let msg := stack.store 0 [0]
  let reply (bytes : List UInt8) : Sent := .data requester ⟨source, id, seq_num, bytes⟩
  if id = RPLY_ERRORS then
    let dropped ← read fun s => (s.droppedxTEDS, s.droppedCancelxTEDS)
    let msg := (msg.store 0 (Memory.bytes32 dropped.1)).store 4 (Memory.bytes32 dropped.2)
    send (reply (msg.read 0 8))
  else
    convert (conversion id requester sID) msg reply

/-! ### `Service` and `Serreqst` -/

/-- What the buffers of a handler hold before they are written: that of the data of the
request, and that of the reply. -/
structure Buffers where
  request : Memory
  reply : Memory

/-- `GET_ULONG(&data[0])`. -/
def requestedID (stack : Memory) (data : List UInt8) : UInt32 := (stack.store 0 data).load32 0

/-- The end of `Service`: the request goes to its provider, whose slot is locked. -/
def forwardService (k : Nat) (msg : SDMService) (sender : SDMComponentID)
    (replyID faultID : SDMMessageID) : DMProgram τ Unit := do
  let provider ← slot k
  let tree ← require provider.xtedsTree
  if XTEDSServices.isServiceIdValid tree msg.command_id then
    send (.serreqst ⟨0, provider.id.address, provider.id.port⟩
      { source := msg.source
        destination := { msg.destination with address := sender.address }
        command_id := msg.command_id
        reply_id := replyID
        fault_id := faultID
        seq_num := msg.seq_num
        data := msg.data })
    unlock (.inUse k)
  else
    unlock (.inUse k)

/-- `Service`; `none` is a message that does not unmarshal. -/
def Service (msg : Option SDMService) (sender : SDMComponentID) (stack : Buffers) :
    DMProgram τ Unit := do
  match msg with
  | none => pure ()
  | some msg =>
      match ← MatchSID msg.source.sensorID with
      | none => pure ()
      | some k =>
          let provider ← slot k
          let tree ← require provider.xtedsTree
          let replyID := XTEDSServices.getServiceDataMsgID tree msg.command_id
          let requester : SDMComponentID := ⟨0, sender.address, msg.destination.port⟩
          if replyID = INVALID_MESSAGE_ID then
            unlock (.inUse k)
          else
            let faultID := XTEDSServices.getServiceFaultMsgID tree msg.command_id
            if provider.id.sensorID = DM_SENSOR_ID then
              if AsksAboutID msg.command_id then
                unlock (.inUse k)
                ServicePublish stack.reply requester (requestedID stack.request msg.data) replyID
                  msg.seq_num
              else if msg.command_id = SER_GET_ERRORS then
                -- there is no `return` after this branch
                ServicePublish stack.reply requester 0 replyID msg.seq_num
                forwardService k msg sender replyID faultID
              else
                unlock (.inUse k)
            else
              forwardService k msg sender replyID faultID

/-- `GetDeviceName`, for a line of debug output: only its locks are modelled. -/
def GetDeviceName (id : SDMComponentID) : DMProgram τ Unit := do
  if id.sensorID = 0 ∨ id.sensorID = 1 then
    pure ()
  else
    let all ← nodes
    match ← firstHeld (fun s => !s.available && s.id.sensorID == id.sensorID) all with
    | none => pure ()
    | some k => unlock (.inUse k)

/-- `Serreqst`, after its debug output. -/
def answerSerreqst (msg : SDMSerreqst) (sender : SDMComponentID) (stack : Buffers) :
    DMProgram τ Unit := do
  if msg.source.sensorID ≠ DM_SENSOR_ID then
    pure ()
  else
    match ← MatchSID DM_SENSOR_ID with
    | none => pure ()
    | some k =>
        let own ← slot k
        let tree ← require own.xtedsTree
        let replyID := XTEDSServices.getServiceDataMsgID tree msg.command_id
        let requester : SDMComponentID := ⟨0, sender.address, msg.destination.port⟩
        unlock (.inUse k)
        if AsksAboutID msg.command_id then
          ServicePublish stack.reply requester (requestedID stack.request msg.data) replyID
            msg.seq_num
        else if msg.command_id = SER_GET_ERRORS then
          ServicePublish stack.reply requester 0 replyID msg.seq_num
        else
          pure ()

/-- `Serreqst`; `none` is a message that does not unmarshal. -/
def Serreqst (msg : Option SDMSerreqst) (sender : SDMComponentID) (stack : Buffers) :
    DMProgram τ Unit := do
  match msg with
  | none => pure ()
  | some msg =>
      let debug ← read Shared.debug
      onlyIf (1 ≤ debug) (GetDeviceName msg.destination)
      answerSerreqst msg sender stack

/-! ### The services of the Data Manager's own document (`DMxTEDS.h`) -/

def CMD_ENABLE_LOGGING : SDMMessageID := ⟨3, 16⟩
def CMD_DISABLE_LOGGING : SDMMessageID := ⟨3, 17⟩

/-- The requests with their replies; `ReturnSensorID` has no name in `DM.h`. -/
def ownServices : List (SDMMessageID × SDMMessageID) :=
  [(SER_SEND_SENSOR_ID, RPLY_CONVERTED_DEVICE_NAME), (SER_SID_TO_SPANODE, RPLY_CONVERTED_SPANODE),
    (SER_SEND_PID, ⟨1, 9⟩), (SER_SID_TO_IP, RPLY_CONVERTED_IP),
    (SER_COMPID_TO_COMPKEY, RPLY_RETURN_COMP_KEY), (SER_GET_ERRORS, RPLY_ERRORS)]

instance : XTEDSServices NamedDocument where
  getServiceDataMsgID _ id := (ownServices.lookup id).getD INVALID_MESSAGE_ID
  getServiceFaultMsgID _ _ := INVALID_MESSAGE_ID
  getCommandFaultMsgID _ _ := INVALID_MESSAGE_ID
  isServiceIdValid _ id := (ownServices.lookup id).isSome
  isCommandIdValid _ id := id = CMD_ENABLE_LOGGING || id = CMD_DISABLE_LOGGING
  getComponentKey _ := none

/-- A Data Manager that has just started, with all that its handlers share. -/
def justStartedShared : Shared NamedDocument where
  state := .justStarted
  dataManager := ⟨DM_SENSOR_ID, 1, PORT_DM⟩
  elected := true
  debug := 0
  droppedxTEDS := 0
  droppedCancelxTEDS := 0
  logged := []
  sent := []

end Sdm
