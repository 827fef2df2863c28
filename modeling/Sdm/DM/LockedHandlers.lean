import Sdm.DM.Services

/-!
The other handlers of `DM.cpp` as programs that lock slots: `Consume`, `Cancel`, `Command`,
`TAT`, `ReqxTEDS`, `Subscribe`, `CancelxTEDS` and `BackupConsume`.

Messages that do not unmarshal are `none`. The critical sections of the other mutexes
(of the two subscription lists and of the log service) are single steps. Copies of a
message to backup Data Managers are left out.
-/

namespace Sdm

open Lib LockProgram

variable {τ : Type}

/-! ### Subscriptions to the Data Manager -/

/-- The registration that a new subscriber is told of. -/
def registrationNotice (subscriberId : SDMComponentID) (mID : SDMMessageID) (s : XTEDSLibrary τ) :
    Sent :=
  .effect (.notification
    { destination := subscriberId
      msg_id := mID
      action := if mID = NOTI_REGISTRATION then none else some .REGISTRATION_MODIFICATION
      sensorID := s.id.sensorID })

/-- `Subscribe`. -/
def Subscribe (subscriberId : SDMComponentID) (mID : SDMMessageID) : DMProgram τ Unit := do
  let added ← update
    (fun s => { s with state := { s.state with
      subscribers := SubscriptionList.addSubscription subscriberId mID s.state.subscribers } })
    (fun s => !s.state.subscribers.any (SubscriptionList.isNotification subscriberId mID))
  let elected ← read Shared.elected
  if added = true ∧ elected = true ∧ (mID = NOTI_REGISTRATION ∨ mID = NOTI_REGISTRATION_CHANGE) then
    let all ← nodes
    visit (fun _ s =>
      if s.available then pure () else send (registrationNotice subscriberId mID s)) all
  else
    pure ()

/-- Note a subscription of a component that has an xTEDS. -/
def noteSubscription (provider subscriber : SDMComponentID) (message : SDMMessageID) :
    DMProgram τ Unit :=
  write fun s => { s with state := { s.state with
    sensorSubscriptions :=
      if DMState.IsRegistered subscriber then
        ProviderSubscriptionList.add provider subscriber message s.state.sensorSubscriptions
      else s.state.sensorSubscriptions } }

/-- `Consume`. -/
def Consume [XTEDS τ] (msg : Option SDMConsume) (sender : SDMComponentID) : DMProgram τ Unit := do
  match msg with
  | none => pure ()
  | some msg =>
      let debug ← read Shared.debug
      onlyIf (1 ≤ debug) (GetDeviceName msg.source)
      match ← MatchSID msg.source.sensorID with
      | none => pure ()
      | some k =>
          let provider ← slot k
          let subscriber := DMState.subscriberOf msg.destination sender
          if provider.id.sensorID = DM_SENSOR_ID then
            unlock (.inUse k)
            Subscribe ⟨0, sender.address, subscriber.port⟩ msg.msg_id
          else
            let tree ← require provider.xtedsTree
            setSlot k fun s => { s with connections := s.connections + 1 }
            unlock (.inUse k)
            noteSubscription msg.source subscriber msg.msg_id
            send (.effect (.subreqst
              { source := msg.source
                destination := subscriber
                msg_id := msg.msg_id
                fault_id := XTEDS.getNotificationFaultMsgID tree msg.msg_id }))

/-- `BackupConsume`: the slot is released as soon as it is found. -/
def BackupConsume [XTEDS τ] (msg : Option SDMConsume) : DMProgram τ Unit := do
  match msg with
  | none => pure ()
  | some msg =>
      match ← MatchSID msg.source.sensorID with
      | none => pure ()
      | some k =>
          unlock (.inUse k)
          let provider ← slot k
          if provider.id.sensorID = DM_SENSOR_ID then
            unlock (.inUse k)
            Subscribe ⟨0, msg.destination.address, msg.destination.port⟩ msg.msg_id
          else
            -- the fault id is looked up, although nothing is sent
            let _tree ← require provider.xtedsTree
            setSlot k fun s => { s with connections := s.connections + 1 }
            unlock (.inUse k)
            noteSubscription msg.source msg.destination msg.msg_id

/-- `Cancel`. -/
def Cancel (msg : Option SDMCancel) (sender : SDMComponentID) : DMProgram τ Unit := do
  match msg with
  | none => pure ()
  | some msg =>
      match ← MatchSID msg.source.sensorID with
      | none => pure ()
      | some k =>
          let provider ← slot k
          let subscriber := DMState.subscriberOf msg.destination sender
          if provider.id.sensorID = DM_SENSOR_ID then
            unlock (.inUse k)
            write fun s => { s with state := { s.state with
              subscribers := SubscriptionList.cancelSubscription
                ⟨0, sender.address, subscriber.port⟩ msg.msg_id s.state.subscribers } }
          else
            setSlot k fun s => { s with connections := s.connections - 1 }
            unlock (.inUse k)
            write fun s => { s with state := { s.state with
              sensorSubscriptions :=
                if DMState.IsRegistered subscriber then
                  ProviderSubscriptionList.delete subscriber msg.msg_id s.state.sensorSubscriptions
                else s.state.sensorSubscriptions } }
            send (.effect (.deletesub ⟨msg.source, subscriber, msg.msg_id⟩))

/-! ### Commands, the time at the tone, documents -/

/-- `Command`. -/
def Command [XTEDSServices τ] (msg : Option SDMCommand) : DMProgram τ Unit := do
  match msg with
  | none => pure ()
  | some msg =>
      match ← MatchSID msg.source.sensorID with
      | none => pure ()
      | some k =>
          let provider ← slot k
          let tree ← require provider.xtedsTree
          if XTEDSServices.isCommandIdValid tree msg.command_id then
            let msg :=
              { msg with fault_id := XTEDSServices.getCommandFaultMsgID tree msg.command_id }
            if provider.id.sensorID = DM_SENSOR_ID then
              if msg.command_id = CMD_ENABLE_LOGGING then
                write fun s => { s with logged := s.logged ++ [msg] }
                unlock (.inUse k)
              else if msg.command_id = CMD_DISABLE_LOGGING then
                write fun s => { s with logged := s.logged.erase msg }
                unlock (.inUse k)
              else
                unlock (.inUse k)
            else
              send (.command ⟨0, provider.id.address, provider.id.port⟩ msg)
              unlock (.inUse k)
          else
            unlock (.inUse k)

/-- `xsize`: the size of the array `sentips`. -/
def xsize : Nat := 25

/-- The loop of `TAT` over the hubs. -/
def tatToHubs (msg : SDMTat) : List Nat → (sentips : List UInt32) → DMProgram τ Unit
  | [], _ => pure ()
  | k :: rest, sentips => do
      lock (.inUse k)
      let s ← slot k
      if s.hub = .DEVICE then
        if s.id.address ∈ sentips then
          -- the `break` after this one leaves the loop over `sentips` only
          unlock (.inUse k)
          unlock (.inUse k)
          tatToHubs msg rest sentips
        else if sentips.length < xsize then
          send (.tat ⟨0, s.id.address, PORT_SM⟩ msg)
          unlock (.inUse k)
          tatToHubs msg rest (sentips ++ [s.id.address])
        else
          crash
      else
        unlock (.inUse k)
        tatToHubs msg rest sentips

/-- `TAT`. -/
def TAT (msg : Option SDMTat) : DMProgram τ Unit := do
  match msg with
  | none => pure ()
  | some msg =>
      let all ← nodes
      if msg.destination.sensorID = 0 then
        tatToHubs msg all []
      else
        let sID := msg.destination.sensorID
        match ← firstHeld (fun s => !s.available && s.id.sensorID == sID && s.active) all with
        | none => pure ()
        | some k =>
            let s ← slot k
            if s.hub = .DEVICE then
              send (.tat s.id msg)
              unlock (.inUse k)
            else
              unlock (.inUse k)

/-- Where `ReqxTEDS` sends the documents. -/
def documentsTo (msg : SDMReqxTEDS) (sender : SDMComponentID) : SDMComponentID where
  sensorID := 0
  address := if msg.destination.address = 0 then sender.address else msg.destination.address
  port := if msg.select &&& 2 = 0 then sender.port else msg.destination.port

/-- The document of a slot. -/
def documentOf (s : XTEDSLibrary τ) (text : CString) : SDMxTEDSInfo where
  source := ⟨s.id.sensorID, s.id.address, s.id.port⟩
  xTEDS := text

/-- `ReqxTEDS`. -/
def ReqxTEDS [XTEDS τ] (msg : Option SDMReqxTEDS) (sender : SDMComponentID) :
    DMProgram τ Unit := do
  match msg with
  | none => pure ()
  | some msg =>
      let id := documentsTo msg sender
      if msg.select > 3 then
        pure ()
      else if msg.select &&& 1 = 0 then
        match ← MatchSID msg.source.sensorID with
        | none => send (.xTEDSInfoEmpty id)
        | some k =>
            let s ← slot k
            let text ← require s.fullxTED
            unlock (.inUse k)
            send (.xTEDSInfo id (documentOf s text))
            send (.xTEDSInfoEmpty id)
      else
        let all ← nodes
        visit (fun _ s =>
          if s.available then
            pure ()
          else do
            let name ← require s.getName
            if strncmp msg.device_name name name.length = 0 then
              let text ← require s.fullxTED
              send (.xTEDSInfo id (documentOf s text))
            else
              pure ()) all
        send (.xTEDSInfoEmpty id)

/-! ### `CancelxTEDS` -/

/-- `PrintxTEDS`: only its locks are modelled. -/
def PrintxTEDS : DMProgram τ Unit := do
  let debug ← read Shared.debug
  let all ← nodes
  onlyIf (1 ≤ debug) (visit (fun _ _ => pure ()) all)
  onlyIf (5 ≤ debug) (visit (fun _ _ => pure ()) all)

/-- The first loop of `ReqReg`, with the counter at `numxTEDS`: the matches of the slots and how
many replies were sent, or nothing after an early return. -/
def reqRegWalk [XTEDS τ] (q : ReqRegCall) :
    List Nat → (numxTEDS : Nat) → (sensorMatches : List Nat) → (count : Nat) →
      DMProgram τ (Option (List Nat × Nat))
  | [], _, sensorMatches, count => pure (some (sensorMatches, count))
  | k :: rest, numxTEDS, sensorMatches, count => do
      lock (.inUse k)
      let s ← slot k
      if q.Skips s then
        -- `continue`: the counter is not stepped
        unlock (.inUse k)
        reqRegWalk q rest numxTEDS sensorMatches count
      else if q.Selects s then
        let tree ← require s.xtedsTree
        match q.lookup tree with
        | none =>
            unlock (.inUse k)
            pure (some (sensorMatches, count))
        | some defs =>
            let reports :=
              if q.xTEDref = none ∨ q.xTEDref = some numxTEDS then q.reports k s defs else []
            sendAll (reports.map .effect)
            unlock (.inUse k)
            let sensorMatches := sensorMatches.modify numxTEDS (· + defs.length)
            if q.xTEDref = some numxTEDS ∧ sensorMatches[numxTEDS]? = some 0 then
              pure none
            else
              reqRegWalk q rest (numxTEDS + 1) sensorMatches (count + reports.length)
      else
        unlock (.inUse k)
        if q.xTEDref = some numxTEDS ∧ sensorMatches[numxTEDS]? = some 0 then
          pure none
        else
          reqRegWalk q rest (numxTEDS + 1) sensorMatches count

/-- The body of the second loop of `ReqReg`. -/
def postSlot [XTEDS τ] (sensorMatches : List Nat) (k : Nat) (s : XTEDSLibrary τ) :
    DMProgram τ Unit := do
  if ReqRegCall.Posts s (sensorMatches.getD k 0) then
    setSlot k fun s => { s with posted := true }
    let taskManager ← read fun s => s.state.taskManager
    let posted ← require (ReqRegCall.postTask taskManager s)
    sendAll (posted.map .effect)
  else
    pure ()

/-- `ReqReg` for a standing query: no subscription is entered. -/
def ReqReg [XTEDS τ] (q : ReqRegCall) : DMProgram τ Unit := do
  let all ← nodes
  match ← reqRegWalk q all 0 (List.replicate all.length 0) 0 with
  | none => pure ()
  | some (sensorMatches, count) =>
      onlyIf (count = 0) (visit (postSlot sensorMatches) all)
      send (.effect (.regInfoEmpty q.replyTo))

/-- `PublishxTEDSModificationSubscription`, over the nodes that the list has when it begins. -/
def publishModification [XTEDS τ] (messageID : SDMMessageID) (action : Modification) (ref : Nat) :
    DMProgram τ Unit := do
  let count ← read fun s => s.state.subscribers.length
  forEach (fun j => do
    let node ← read fun s => s.state.subscribers[j]?
    let query ← require (node.bind (SubscriptionList.republish messageID))
    match query with
    | none => pure ()
    | some (.reqReg msg sender) => ReqReg { msg, xTEDref := some ref, sender, action }
    | some query => send (.effect (.rerun query ref))) (List.range count)

/-- `PublishNotification`. -/
def publishNotification (sensorID : UInt32) (messageID : SDMMessageID) (action : Modification) :
    DMProgram τ Unit :=
  write fun s => { s with
    sent := s.sent ++ (DMState.notify sensorID messageID action s.state).map .effect }

/-- `SubscriberFinish` and `ProviderFinish` for a cancelled component. -/
def finishSubscriptions (id : SDMComponentID) : DMProgram τ Unit :=
  write fun s =>
    let finished := ProviderSubscriptionList.subscriberFinish id s.state.sensorSubscriptions
    { s with
      state := { s.state with
        sensorSubscriptions := ProviderSubscriptionList.providerFinish id finished.2 }
      sent := s.sent ++ finished.1.map fun msg => .effect (.deletesub msg) }

/-- The interested subscribers are told of a cancellation. -/
def publishCancellation [XTEDS τ] (sensorID : UInt32) (k : Nat) : DMProgram τ Unit := do
  publishModification REQ_REG_CANCELLATION .DEREGISTRATION_MODIFICATION k
  publishNotification sensorID NOTI_DEREGISTRATION .MOD_NOT_APPLICABLE
  publishNotification sensorID NOTI_REGISTRATION_CHANGE .DEREGISTRATION_MODIFICATION

/-- `CancelxTEDS`, once a slot has been found and `addLibrary` is taken. -/
def cancelFound [XTEDS τ] (fullCancel : UInt8) (k : Nat) : DMProgram τ Unit := do
  lock (.inUse k)
  let found ← slot k
  setSlot k (XTEDSLibraryList.quiesce fullCancel)
  unlock (.inUse k)
  let elected ← read Shared.elected
  onlyIf (elected = true) (publishCancellation found.id.sensorID k)
  finishSubscriptions found.id
  lock (.inUse k)
  let now ← slot k
  if now.id.port = PORT_DM then
    unlock (.inUse k)
    send (.effect (.ack .SDM_INVALID_CANCEL))
    unlock .addLibrary
  else
    setSlot k XTEDSLibraryList.release
    unlock (.inUse k)
    send (.effect (.ack .SDM_OK))
    PrintxTEDS
    unlock .addLibrary

/-- `CancelxTEDS`. -/
def CancelxTEDS [XTEDS τ] (msg : Option SDMCancelxTEDS) (sender : SDMComponentID) :
    DMProgram τ Unit := do
  match msg with
  | none => send (.effect (.ack .SDM_INVALID_CANCEL))
  | some msg =>
      let addressDM ← read fun s => s.state.addressDM
      let address := knownAddress addressDM msg.source sender
      let all ← nodes
      match ← firstHeld (fun s => decide (DMState.IsCancelled msg.source.port msg.source.sensorID
          address s)) all with
      | none =>
          lock .addLibrary
          send (.effect (.ack .SDM_UNKNOWN_XTEDS))
          PrintxTEDS
          unlock .addLibrary
      | some k =>
          unlock (.inUse k)
          lock .addLibrary
          cancelFound msg.fullCancel k

/-! ### The calls -/

/-- A call of one of the handlers. `xTEDS`, which a thread of its own runs, is not among them. -/
inductive Call where
  | consume (msg : Option SDMConsume) (sender : SDMComponentID)
  | cancel (msg : Option SDMCancel) (sender : SDMComponentID)
  | command (msg : Option SDMCommand)
  | service (msg : Option SDMService) (sender : SDMComponentID) (stack : Buffers)
  | serreqst (msg : Option SDMSerreqst) (sender : SDMComponentID) (stack : Buffers)
  | tat (msg : Option SDMTat)
  | reqxTEDS (msg : Option SDMReqxTEDS) (sender : SDMComponentID)
  | subscribe (subscriberId : SDMComponentID) (mID : SDMMessageID)
  | servicePublish (stack : Memory) (requester : SDMComponentID) (sID : UInt32) (id : SDMMessageID)
      (seq_num : Int16)
  | cancelxTEDS (msg : Option SDMCancelxTEDS) (sender : SDMComponentID)
  | backupConsume (msg : Option SDMConsume)

/-- What a call runs. -/
def handler [XTEDS τ] [XTEDSServices τ] : Call → DMProgram τ Unit
  | .consume msg sender => Consume msg sender
  | .cancel msg sender => Cancel msg sender
  | .command msg => Command msg
  | .service msg sender stack => Service msg sender stack
  | .serreqst msg sender stack => Serreqst msg sender stack
  | .tat msg => TAT msg
  | .reqxTEDS msg sender => ReqxTEDS msg sender
  | .subscribe subscriberId mID => Subscribe subscriberId mID
  | .servicePublish stack requester sID id seq_num => ServicePublish stack requester sID id seq_num
  | .cancelxTEDS msg sender => CancelxTEDS msg sender
  | .backupConsume msg => BackupConsume msg

end Sdm
