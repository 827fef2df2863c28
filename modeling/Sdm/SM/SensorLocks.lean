import Sdm.Lib.LockOrder
import Sdm.SM.SensorRegistration

/-!
The mutexes of the Sensor Manager.

`SensorMonitor` has one mutex over its records, `m_SensorDataMutex`, each `Sensor` has a
`sensor_mutex`, and `sm.cpp` has some of its own. The monitor thread and the USB threads call one
another's objects with mutexes held, and the monitor thread cancels USB threads wherever they are.
All mutexes are of the default kind: a thread that locks one it owns waits for ever.

Here are the programs of the threads, as they take and release mutexes.

* `ordered_usbMonitor`, `ordered_handler`: the USB threads and the handlers take the mutexes in the
  order of `rank`.
* `ordered_cancel`: so does the monitor thread, except that `SendxTEDS` locks `m_SensorDataMutex`.
-/

namespace Sdm

open Lib LockProgram

/-- The mutexes. -/
inductive SMLock (n : Nat) where
  /-- `m_SensorDataMutex` -/
  | sensorData
  /-- The `sensor_mutex` of a sensor. -/
  | sensor (i : Fin n)
  | sensorWrite
  | subscription
  | dmFound
  | perfCounter
  | logService
  deriving DecidableEq, Repr

/-- What `Sensor::Read` gets from the device. -/
inductive ReadResult where
  | error
  | data
  | xTEDS (complete : Bool)
  | other
  deriving DecidableEq, Repr

/-- What the threads find outside: the clock, the devices, and who has subscribed. -/
structure Outside (n : Nat) where
  now : UInt32
  /-- `CheckConnection` -/
  present : Fin n → Bool
  /-- `device.VerifyConnection` -/
  verified : Fin n → Bool
  /-- `device.Open` -/
  opens : Fin n → Bool
  read : Fin n → ReadResult
  /-- `subscriptions.Publish` finds a subscriber. -/
  subscribed : Fin n → Bool

/-- What the threads share. -/
structure SMShared (n : Nat) where
  records : Fin n → SensorRecord
  connected : Fin n → Bool
  ready : Fin n → Bool
  outside : Outside n

abbrev SMProgram (n : Nat) (α : Type) := LockProgram (SMShared n) (SMLock n) α

variable {n : Nat}

namespace SensorLocks

/-- Change the record of a sensor. -/
def setRecord (i : Fin n) (change : SensorRecord → SensorRecord) : SMProgram n Unit :=
  write fun s => { s with records := Function.update s.records i (change (s.records i)) }

def setConnected (i : Fin n) (connected : Bool) : SMProgram n Unit :=
  write fun s => { s with connected := Function.update s.connected i connected }

def setReady (i : Fin n) (ready : Bool) : SMProgram n Unit :=
  write fun s => { s with ready := Function.update s.ready i ready }

/-- A program under one mutex. -/
def under (l : SMLock n) (p : SMProgram n Unit) : SMProgram n Unit := do
  lock l
  p
  unlock l

/-! ### Messages -/

def messageSent : SMProgram n Unit := do
  under .perfCounter (pure ())
  under .logService (pure ())

def messageReceived : SMProgram n Unit := under .logService (pure ())

/-! ### `SensorMonitor` -/

def sensorRegistering (i : Fin n) : SMProgram n Unit :=
  under .sensorData do
    let now ← read (·.outside.now)
    setRecord i (SensorMonitor.sensorRegistering now)

def sensorRegistered (i : Fin n) : SMProgram n Unit :=
  under .sensorData (setRecord i SensorMonitor.sensorRegistered)

def sensorAcked (i : Fin n) : SMProgram n Unit :=
  under .sensorData (setRecord i SensorMonitor.sensorAcked)

def sensorRegConfirmed (i : Fin n) : SMProgram n Unit :=
  under .sensorData (setRecord i SensorMonitor.sensorRegConfirmed)

def setHelloSendTime (i : Fin n) : SMProgram n Unit := do
  let curSecs ← read (·.outside.now)
  under .sensorData (setRecord i (SensorMonitor.setHelloSendTime curSecs))

def setxTEDSSendTime (i : Fin n) : SMProgram n Unit := do
  let curSecs ← read (·.outside.now)
  under .sensorData (setRecord i (SensorMonitor.setxTEDSSendTime curSecs))

def sendxTEDS (i : Fin n) : SMProgram n Unit := do
  messageSent
  setxTEDSSendTime i

/-! ### `Sensor` -/

def cancel (i : Fin n) : SMProgram n Unit := do
  messageSent
  under (.sensor i) (setConnected i false)

def readDevice (i : Fin n) : SMProgram n ReadResult := do
  let connected ← read (·.connected i)
  if connected then
    let result ← read (·.outside.read i)
    onlyIf (result = .data) do
      under (.sensor i) do
        let subscribed ← read (·.outside.subscribed i)
        onlyIf (subscribed = true) messageSent
    pure result
  else pure .error

def MAX_TRIES : Nat := 30

/-- The loop of `Register` over the reads of an xTEDS, with some tries left. -/
def readxTEDS (i : Fin n) : Nat → SMProgram n Bool
  | 0 => do
      let result ← readDevice i
      pure (decide (result = .xTEDS true))
  | tries + 1 => do
      let result ← readDevice i
      if result = .error then pure false
      else if result = .xTEDS true then pure true
      else readxTEDS i tries

/-- `Register`. The Hello is sent without a mutex. -/
def registerSensor (i : Fin n) : SMProgram n Bool := do
  let initialized ← readDevice i
  if initialized = .error then pure false
  else
    let version ← readDevice i
    if version = .error then pure false
    else
      let valid ← readxTEDS i MAX_TRIES
      onlyIf (valid = true) (setHelloSendTime i)
      pure valid

/-- The loop of `USBMonitor`, once. -/
def usbMonitor (i : Fin n) : SMProgram n Unit := do
  let connected ← read (·.connected i)
  if connected then
    let verified ← read (·.outside.verified i)
    setConnected i verified
    if verified then
      let _ ← readDevice i
    else
      cancel i
      setReady i false
  else
    let opened ← read (·.outside.opens i)
    onlyIf (opened = true) do
      setConnected i true
      sensorRegistering i
      let registered ← registerSensor i
      if registered then
        sensorRegistered i
        setReady i true
      else
        setReady i false
        setConnected i false

/-- `Service`, `Command`, `Subscribe`, `CancelSubscription` and `TimeAtTone`, as far as they use the
mutex: they do nothing for a sensor that is not ready. -/
def whenReady (i : Fin n) : SMProgram n Unit := do
  let ready ← read (·.ready i)
  onlyIf (ready = true) (under (.sensor i) (pure ()))

def reRegister (i : Fin n) : SMProgram n Unit := do
  let ready ← read (·.ready i)
  onlyIf (ready = true) messageSent
  under (.sensor i) (pure ())

/-! ### The handlers of `sm.cpp` -/

/-- Whom a message is for. -/
inductive Recipient (n : Nat) where
  | manager
  | sensor (i : Fin n)
  | nobody

/-- A message that has arrived, or what else makes a thread of the manager run. -/
inductive Arrival (n : Nat) where
  | ack (recipient : Recipient n)
  | register (recipient : Recipient n)
  | id (recipient : Recipient n)
  | service (recipient : Recipient n)
  | command (recipient : Recipient n)
  | subscription (recipient : Recipient n)
  | deleteSubscription (recipient : Recipient n)
  | tat (sensors : List (Fin n))
  | ready (heartbeat fromDM : Bool)
  | regInfo (mode : Bool)
  | data (reset : Bool)
  /-- A listener counts a message. -/
  | counted
  /-- `SIGALRM` -/
  | alarm (subscribed : Bool)

def ackHandler (recipient : Recipient n) : SMProgram n Unit := do
  messageReceived
  match recipient with
  | .sensor i => sensorAcked i
  | _ => pure ()

def registerHandler (recipient : Recipient n) : SMProgram n Unit := do
  messageReceived
  match recipient with
  | .sensor i => sendxTEDS i
  | _ => pure ()

def idHandler (recipient : Recipient n) : SMProgram n Unit := do
  messageReceived
  match recipient with
  | .sensor i => sensorRegConfirmed i
  | _ => pure ()

def serviceHandler (recipient : Recipient n) : SMProgram n Unit := do
  messageReceived
  match recipient with
  | .sensor i => whenReady i
  | _ => pure ()

/-- A message that is written to a sensor, or applied to the manager under one of its mutexes. -/
def writeHandler (own : SMLock n) (recipient : Recipient n) : SMProgram n Unit := do
  messageReceived
  match recipient with
  | .manager => under own (pure ())
  | .sensor i => under .sensorWrite (whenReady i)
  | .nobody => pure ()

def commandHandler : Recipient n → SMProgram n Unit := writeHandler .logService

def subscriptionHandler : Recipient n → SMProgram n Unit := writeHandler .subscription

def deleteSubscriptionHandler : Recipient n → SMProgram n Unit := writeHandler .subscription

def tatHandler (sensors : List (Fin n)) : SMProgram n Unit := do
  messageReceived
  forEach (fun i => under .sensorWrite (whenReady i)) sensors

def readyHandler (heartbeat fromDM : Bool) : SMProgram n Unit := do
  under .dmFound (pure ())
  messageReceived
  if heartbeat then messageSent else onlyIf (fromDM = true) (under .dmFound (pure ()))

def regInfoHandler (mode : Bool) : SMProgram n Unit := do
  messageReceived
  onlyIf (mode = true) messageSent

/-- `VerifyDM`, when the Data Manager has been found. -/
def verifyDM : SMProgram n Unit := do
  under .perfCounter (pure ())
  under .dmFound (pure ())

def dataHandler (reset : Bool) : SMProgram n Unit :=
  onlyIf (reset = true) do
    under .subscription (pure ())
    verifyDM
    messageSent
    forEach reRegister (List.finRange n)

def publishPerformanceCounterMessage (subscribed : Bool) : SMProgram n Unit := do
  under .perfCounter (pure ())
  under .subscription (onlyIf (subscribed = true) messageSent)
  under .perfCounter (pure ())

def handler : Arrival n → SMProgram n Unit
  | .ack recipient => ackHandler recipient
  | .register recipient => registerHandler recipient
  | .id recipient => idHandler recipient
  | .service recipient => serviceHandler recipient
  | .command recipient => commandHandler recipient
  | .subscription recipient => subscriptionHandler recipient
  | .deleteSubscription recipient => deleteSubscriptionHandler recipient
  | .tat sensors => tatHandler sensors
  | .ready heartbeat fromDM => readyHandler heartbeat fromDM
  | .regInfo mode => regInfoHandler mode
  | .data reset => dataHandler reset
  | .counted => under .perfCounter (pure ())
  | .alarm subscribed => publishPerformanceCounterMessage subscribed

/-! ### The order of the mutexes -/

/-- Each thread takes the mutexes in this order. -/
def rank : SMLock n → Nat
  | .sensorData | .sensorWrite => 0
  | .sensor _ | .subscription | .dmFound => 1
  | .perfCounter | .logService => 2

theorem rank_le (l : SMLock n) : rank l ≤ 2 := by
  cases l <;> simp [rank]

variable {held : Set (SMLock n)} {i : Fin n}

theorem ordered_under {l : SMLock n} {p : SMProgram n Unit} (above : ∀ j ∈ held, rank j < rank l)
    (inside : Ordered rank (insert l held) p (insert l held)) :
    Ordered rank held (under l p) held :=
  .locked above inside

/-- A mutex is taken and given back. -/
theorem ordered_brief {l : SMLock n} (above : ∀ j ∈ held, rank j < rank l) :
    Ordered rank held (under l (pure ())) held :=
  ordered_under above .pure

theorem ordered_messageSent (low : ∀ j ∈ held, rank j < 2) : Ordered rank held messageSent held :=
  .bind (ordered_brief low) fun _ => ordered_brief low

theorem ordered_messageReceived (low : ∀ j ∈ held, rank j < 2) :
    Ordered rank held messageReceived held :=
  ordered_brief low

theorem ordered_cancel (low : ∀ j ∈ held, rank j < 1) : Ordered rank held (cancel i) held :=
  .bind (ordered_messageSent fun j mem => (low j mem).trans Nat.one_lt_two) fun _ =>
    ordered_under low .write

/-- Nothing is held. -/
theorem none_held (r : Nat) : ∀ j ∈ (∅ : Set (SMLock n)), rank j < r := fun _ => False.elim

theorem ordered_lockData :
    Ordered rank {.sensorData} (lock .sensorData : SMProgram n Unit) ∅ := by
  rw [← insert_empty_eq]
  exact .lock (none_held _)

theorem ordered_unlockData :
    Ordered rank ∅ (unlock .sensorData : SMProgram n Unit) {.sensorData} := by
  rw [← insert_empty_eq]
  exact .unlock_insert (Set.notMem_empty _)

theorem ordered_underData (p : SMProgram n Unit) (simple : ∀ held, Ordered rank held p held) :
    Ordered rank ∅ (under .sensorData p) ∅ :=
  ordered_under (none_held _) (simple _)

theorem ordered_readDevice : Ordered rank ∅ (readDevice i) ∅ := by
  have publish : Ordered rank {.sensor i} (do
      let subscribed ← read (·.outside.subscribed i)
      onlyIf (subscribed = true) messageSent : SMProgram n Unit) {.sensor i} :=
    .bind .read fun _ => .onlyIf (ordered_messageSent (by simp [rank]))
  refine .bind .read fun connected => .ite (.bind .read fun result => ?_) .pure
  refine .bind (.onlyIf (ordered_under (none_held _) ?_)) fun _ => .pure
  rwa [insert_empty_eq]

theorem ordered_readxTEDS (tries : Nat) : Ordered rank ∅ (readxTEDS i tries) ∅ := by
  induction tries with
  | zero => exact .bind ordered_readDevice fun _ => .pure
  | succ tries ih => exact .bind ordered_readDevice fun _ => .ite .pure (.ite .pure ih)

theorem ordered_setHelloSendTime : Ordered rank ∅ (setHelloSendTime i) ∅ :=
  .bind .read fun _ => ordered_underData _ fun _ => .write

theorem ordered_registerSensor : Ordered rank ∅ (registerSensor i) ∅ := by
  refine .bind ordered_readDevice fun initialized => .ite .pure ?_
  refine .bind ordered_readDevice fun version => .ite .pure ?_
  refine .bind (ordered_readxTEDS _) fun valid => ?_
  exact .bind (.onlyIf ordered_setHelloSendTime) fun _ => .pure

theorem ordered_usbMonitor : Ordered rank ∅ (usbMonitor i) ∅ := by
  refine .bind .read fun connected => .ite (.bind .read fun verified => ?_) ?_
  · refine .bind .write fun _ => .ite (.bind ordered_readDevice fun _ => .pure) ?_
    exact .bind (ordered_cancel (none_held _)) fun _ => .write
  · refine .bind .read fun opened => .onlyIf (.bind .write fun _ => ?_)
    refine .bind (ordered_underData _ fun _ => .bind .read fun _ => .write) fun _ => ?_
    refine .bind ordered_registerSensor fun registered => .ite ?_ (.bind .write fun _ => .write)
    exact .bind (ordered_underData _ fun _ => .write) fun _ => .write

theorem ordered_sendxTEDS : Ordered rank ∅ (sendxTEDS i) ∅ :=
  .bind (ordered_messageSent (none_held _)) fun _ => .bind .read fun _ =>
    ordered_underData _ fun _ => .write

theorem ordered_whenReady (low : ∀ j ∈ held, rank j < 1) :
    Ordered rank held (whenReady i) held :=
  .bind .read fun _ => .onlyIf (ordered_brief low)

theorem ordered_reRegister : Ordered rank ∅ (reRegister i) ∅ :=
  .bind .read fun _ => .bind (.onlyIf (ordered_messageSent (none_held _))) fun _ =>
    ordered_brief (none_held _)

theorem ordered_write : Ordered rank ∅ (under .sensorWrite (whenReady i)) ∅ :=
  ordered_under (none_held _) (ordered_whenReady (by simp [rank]))

theorem ordered_writeHandler {own : SMLock n} {recipient : Recipient n} :
    Ordered rank ∅ (writeHandler own recipient) ∅ := by
  refine .bind (ordered_messageReceived (none_held _)) fun _ => ?_
  cases recipient with
  | manager => exact ordered_brief (none_held _)
  | sensor i => exact ordered_write
  | nobody => exact .pure

/-- **The handlers keep to the order.** -/
theorem ordered_handler (arrival : Arrival n) : Ordered rank ∅ (handler arrival) ∅ := by
  have received : Ordered rank ∅ (messageReceived : SMProgram n Unit) ∅ :=
    ordered_messageReceived (none_held _)
  have sent : Ordered rank ∅ (messageSent : SMProgram n Unit) ∅ :=
    ordered_messageSent (none_held _)
  cases arrival with
  | ack recipient =>
      refine .bind received fun _ => ?_
      cases recipient with
      | sensor i => exact ordered_underData _ fun _ => .write
      | _ => exact .pure
  | register recipient =>
      refine .bind received fun _ => ?_
      cases recipient with
      | sensor i => exact ordered_sendxTEDS
      | _ => exact .pure
  | id recipient =>
      refine .bind received fun _ => ?_
      cases recipient with
      | sensor i => exact ordered_underData _ fun _ => .write
      | _ => exact .pure
  | service recipient =>
      refine .bind received fun _ => ?_
      cases recipient with
      | sensor i => exact ordered_whenReady (none_held _)
      | _ => exact .pure
  | command => exact ordered_writeHandler
  | subscription => exact ordered_writeHandler
  | deleteSubscription => exact ordered_writeHandler
  | tat sensors => exact .bind received fun _ => .forEach fun _ _ => ordered_write
  | ready heartbeat fromDM =>
      refine .bind (ordered_brief (none_held _)) fun _ => .bind received fun _ => .ite sent ?_
      exact .onlyIf (ordered_brief (none_held _))
  | regInfo mode => exact .bind received fun _ => .onlyIf sent
  | data reset =>
      refine .onlyIf (.bind (ordered_brief (none_held _)) fun _ => ?_)
      refine .bind (.bind (ordered_brief (none_held _)) fun _ => ordered_brief (none_held _))
        fun _ => ?_
      exact .bind sent fun _ => .forEach fun _ _ => ordered_reRegister
  | counted => exact ordered_brief (none_held _)
  | alarm subscribed =>
      refine .bind (ordered_brief (none_held _)) fun _ => ?_
      refine .bind (ordered_under (none_held _) (.onlyIf ?_)) fun _ => ordered_brief (none_held _)
      exact ordered_messageSent (by simp [rank])

end SensorLocks

end Sdm
