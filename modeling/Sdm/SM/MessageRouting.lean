import Mathlib.Algebra.Group.Int.Defs
import Mathlib.Algebra.Group.Nat.Defs
import Sdm.Common.SubscriptionManager
import Sdm.SM.SensorRegistration

/-!
Which sensor a message of the Sensor Manager is for.

An SDMAck and an SDMRegister carry the index of a sensor, as the Hello did. All other messages carry
a sensor id, with `SM_OFFSET` added to the index in its low byte. The handlers translate these with
different types and checks: an SDMAck, an SDMRegister and an SDMID are only checked for negative
indices.

* `routed_forward_iff`: the messages that carry a sensor id.
* `routed_unchecked_iff`: the messages that are only checked for negative indices.
* `routed_iff`: when a message is applied to the sensors that it names and to no other.
-/

namespace Sdm

open Lib
open SubscriptionManager (isFor)

def SM_OFFSET : UInt32 := 2
def SensorManager.SENSOR_MANAGER_SID : UInt32 := 1
def SensorManager.CMD_ENABLE_LOGGING : SDMMessageID := ⟨3, 16⟩
def SensorManager.CMD_DISABLE_LOGGING : SDMMessageID := ⟨3, 17⟩
def SensorManager.SUB_PERFORMANCE_COUNTERS : SDMMessageID := ⟨2, 13⟩

/-- What is written to an ASIM. -/
inductive ASIMMessage where
  | command (id : SDMMessageID) (data : List UInt8)
  | reqData (id : SDMMessageID) (address : UInt32) (port : UInt16)
  | timeAtTone (seconds useconds : UInt32)
  deriving DecidableEq

/-- `Sensor`. Its `SubscriptionManager` is the list of its subscriptions, and the device what was
written to it. -/
structure Sensor where
  m_Ready : Bool
  sensor_id : SDMComponentID
  device_xTEDS : Option CString
  USBLocation : CString
  my_component_id : SDMComponentID
  subscriptions : List SubscriptionManager.Subscription
  written : List ASIMMessage
  deriving DecidableEq

namespace Sensor

def addSubscription (new : SubscriptionManager.Subscription) (source : SDMComponentID)
    (s : Sensor) : Sensor :=
  if s.subscriptions.any (isFor new.msg_id new.component_id) then s
  else { s with subscriptions := new :: s.subscriptions, my_component_id := source }

def write (message : ASIMMessage) (s : Sensor) : Sensor :=
  { s with written := s.written ++ [message] }

def service (request : SDMSerreqst) (s : Sensor) : Sensor :=
  if s.m_Ready then
    (s.addSubscription ⟨request.destination, request.reply_id, request.fault_id, true⟩
      request.source).write (.command request.command_id request.data)
  else s

def command (command : SDMCommand) (s : Sensor) : Sensor :=
  if s.m_Ready then s.write (.command command.command_id command.data) else s

def subscribe (request : SDMSubreqst) (s : Sensor) : Sensor :=
  if s.m_Ready then
    (s.addSubscription ⟨request.destination, request.msg_id, request.fault_id, false⟩
      request.source).write
        (.reqData request.msg_id request.destination.address request.destination.port)
  else s

def cancelSubscription (request : SDMDeletesub) (s : Sensor) : Sensor :=
  if s.m_Ready then
    { s with
      subscriptions := s.subscriptions.eraseP (isFor request.msg_id request.destination) }
  else s

def timeAtTone (tat : SDMTat) (s : Sensor) : Sensor :=
  if s.m_Ready then s.write (.timeAtTone tat.seconds tat.useconds) else s

end Sensor

/-- What the Sensor Manager is asked about itself. -/
inductive OwnRequest where
  | enableLogging (command : SDMCommand)
  | disableLogging (command : SDMCommand)
  | subscribe (request : SDMSubreqst)
  | cancelSubscription (request : SDMDeletesub)
  deriving DecidableEq

/-- An SDMxTEDS. -/
structure SentXTEDS where
  source : SDMComponentID
  xTEDS : CString
  SPA_node : CString
  deriving DecidableEq

/-- The Sensor Manager, with the two arrays of its `SensorMonitor`. -/
structure SensorManager where
  MAX_SENSORS : UInt32
  sensors : List Sensor
  records : List SensorRecord
  sensors_length : sensors.length = MAX_SENSORS.toNat
  records_length : records.length = MAX_SENSORS.toNat
  ackReceived : Bool
  registerReceived : Bool
  idReceived : Bool
  ownRequests : List OwnRequest
  sent : List SentXTEDS

/-- An operation that is undefined. -/
inductive Misrouted where
  /-- An array is accessed at this index. -/
  | outside (index : Int)
  /-- The xTEDS of a sensor is copied before there is one. -/
  | noXTEDS
  deriving DecidableEq, Repr

namespace SensorManager

/-- Index into one of the arrays. -/
def inBounds (m : SensorManager) (Index : Int) : Prop := 0 ≤ Index ∧ Index < m.MAX_SENSORS.toNat

instance (m : SensorManager) (Index : Int) : Decidable (m.inBounds Index) :=
  inferInstanceAs (Decidable (_ ∧ _))

def modifySensor (m : SensorManager) (k : Nat) (f : Sensor → Sensor) : SensorManager :=
  { m with
    sensors := m.sensors.modify k f
    sensors_length := (List.length_modify ..).trans m.sensors_length }

def modifyRecord (m : SensorManager) (k : Nat) (f : SensorRecord → SensorRecord) : SensorManager :=
  { m with
    records := m.records.modify k f
    records_length := (List.length_modify ..).trans m.records_length }

/-- `sensor[Index]`, and a call of one of its functions. -/
def changeSensor (m : SensorManager) (Index : Int) (f : Sensor → Sensor) :
    Except Misrouted SensorManager :=
  if m.inBounds Index then .ok (m.modifySensor Index.toNat f) else .error (.outside Index)

def changeRecord (m : SensorManager) (Index : Int) (f : SensorRecord → SensorRecord) :
    Except Misrouted SensorManager :=
  if m.inBounds Index then .ok (m.modifyRecord Index.toNat f) else .error (.outside Index)

/-- The conversion of an `unsigned long` to an `int`. -/
def toInt (x : UInt32) : Int := x.toInt32.toInt

/-! ### `SensorMonitor` -/

def sensorAcked (m : SensorManager) (SensorNum : Int) : Except Misrouted SensorManager :=
  if SensorNum < 0 then .ok m else m.changeRecord SensorNum SensorMonitor.sensorAcked

def sensorRegConfirmed (m : SensorManager) (SensorNum : Int) : Except Misrouted SensorManager :=
  if SensorNum < 0 then .ok m else m.changeRecord SensorNum SensorMonitor.sensorRegConfirmed

/-- The SDMxTEDS of a sensor. -/
def xTEDSMessage (s : Sensor) : Option SentXTEDS :=
  s.device_xTEDS.map fun xTEDS => ⟨s.sensor_id, xTEDS, s.USBLocation⟩

def sendxTEDS (m : SensorManager) (now : UInt32) (SensorNum : Int) :
    Except Misrouted SensorManager :=
  if SensorNum < 0 then .ok m
  else
    match m.sensors[SensorNum.toNat]? with
    | none => .error (.outside SensorNum)
    | some s =>
        match xTEDSMessage s with
        | none => .error .noXTEDS
        | some message =>
            { m with sent := m.sent ++ [message] }.changeRecord SensorNum
              (SensorMonitor.setxTEDSSendTime now)

/-! ### The handlers -/

def ackHandler (m : SensorManager) (error : Int16) : Except Misrouted SensorManager :=
  if m.ackReceived = false then .ok { m with ackReceived := true }
  else if 0 ≤ error.toInt then m.sensorAcked error.toInt
  else .ok m

def registerHandler (m : SensorManager) (now : UInt32) (sensorIndex : Int16) :
    Except Misrouted SensorManager :=
  if m.registerReceived = false then .ok { m with registerReceived := true }
  else if 0 ≤ sensorIndex.toInt then m.sendxTEDS now sensorIndex.toInt
  else .ok m

def idHandler (m : SensorManager) (destination : SDMComponentID) :
    Except Misrouted SensorManager :=
  if m.idReceived = false then .ok { m with idReceived := true }
  else if destination.sensorID ≠ 0 then
    let sensorIndex := (destination.sensorID &&& 0xFF) - SM_OFFSET
    m.sensorRegConfirmed (toInt sensorIndex)
  else .ok m

/-- A message for a sensor in the range, by the low byte of its id. -/
def forward (m : SensorManager) (request_sid : UInt32) (f : Sensor → Sensor) :
    Except Misrouted SensorManager :=
  if request_sid - SM_OFFSET < m.MAX_SENSORS then m.changeSensor (toInt (request_sid - SM_OFFSET)) f
  else .ok m

def serviceHandler (m : SensorManager) (request : SDMSerreqst) : Except Misrouted SensorManager :=
  m.forward (request.source.sensorID &&& 0xFF) (.service request)

def commandHandler (m : SensorManager) (command : SDMCommand) : Except Misrouted SensorManager :=
  let request_sid := command.source.sensorID &&& 0xFF
  if request_sid = SENSOR_MANAGER_SID ∧ command.command_id = CMD_ENABLE_LOGGING then
    .ok { m with ownRequests := m.ownRequests ++ [.enableLogging command] }
  else if request_sid = SENSOR_MANAGER_SID ∧ command.command_id = CMD_DISABLE_LOGGING then
    .ok { m with ownRequests := m.ownRequests ++ [.disableLogging command] }
  else if request_sid ≠ SENSOR_MANAGER_SID then m.forward request_sid (.command command)
  else .ok m

def subscriptionHandler (m : SensorManager) (request : SDMSubreqst) :
    Except Misrouted SensorManager :=
  let request_sid := request.source.sensorID &&& 0xFF
  if request_sid = SENSOR_MANAGER_SID ∧ request.msg_id = SUB_PERFORMANCE_COUNTERS then
    .ok { m with ownRequests := m.ownRequests ++ [.subscribe request] }
  else if request_sid ≠ 1 then m.forward request_sid (.subscribe request)
  else .ok m

def deleteSubscriptionHandler (m : SensorManager) (cancel : SDMDeletesub) :
    Except Misrouted SensorManager :=
  let request_sid := cancel.source.sensorID &&& 0xFF
  if request_sid = SENSOR_MANAGER_SID ∧ cancel.msg_id = SUB_PERFORMANCE_COUNTERS then
    .ok { m with ownRequests := m.ownRequests ++ [.cancelSubscription cancel] }
  else if request_sid ≠ SENSOR_MANAGER_SID then m.forward request_sid (.cancelSubscription cancel)
  else .ok m

def tatHandler (m : SensorManager) (tat : SDMTat) : Except Misrouted SensorManager :=
  if tat.destination.sensorID = 0 then
    (List.range m.MAX_SENSORS.toNat).foldlM
      (fun m i => m.changeSensor (toInt (.ofNat i)) (.timeAtTone tat)) m
  else m.forward (tat.destination.sensorID &&& 0xFF) (.timeAtTone tat)

/-- A message that has arrived. -/
inductive Message where
  | ack (error : Int16)
  | register (sensorIndex : Int16)
  | id (destination : SDMComponentID)
  | serreqst (request : SDMSerreqst)
  | command (command : SDMCommand)
  | subreqst (request : SDMSubreqst)
  | deletesub (cancel : SDMDeletesub)
  | tat (tat : SDMTat)
  deriving DecidableEq

def handle (m : SensorManager) (now : UInt32) : Message → Except Misrouted SensorManager
  | .ack error => m.ackHandler error
  | .register sensorIndex => m.registerHandler now sensorIndex
  | .id destination => m.idHandler destination
  | .serreqst request => m.serviceHandler request
  | .command command => m.commandHandler command
  | .subreqst request => m.subscriptionHandler request
  | .deletesub cancel => m.deleteSubscriptionHandler cancel
  | .tat tat => m.tatHandler tat

/-! ### What is asked of the handlers -/

/-- The low byte of a sensor id. -/
def lowByte (id : SDMComponentID) : Nat := id.sensorID.toNat % 256

/-- The message is for the sensor at this index. A time with sensor id 0 is for all of them. -/
def Message.Names (i : Nat) : Message → Prop
  | .ack error => error.toInt = i
  | .register sensorIndex => sensorIndex.toInt = i
  | .id destination => lowByte destination = i + SM_OFFSET.toNat
  | .serreqst request => lowByte request.source = i + SM_OFFSET.toNat
  | .command msg => lowByte msg.source = i + SM_OFFSET.toNat
  | .subreqst request => lowByte request.source = i + SM_OFFSET.toNat
  | .deletesub cancel => lowByte cancel.source = i + SM_OFFSET.toNat
  | .tat msg => msg.destination.sensorID = 0 ∨ lowByte msg.destination = i + SM_OFFSET.toNat

instance (i : Nat) (message : Message) : Decidable (message.Names i) := by
  cases message <;> unfold Message.Names <;> infer_instance

/-- What a message does to its sensor. -/
def Message.onSensor : Message → Sensor → Sensor
  | .serreqst request => .service request
  | .command msg => .command msg
  | .subreqst request => .subscribe request
  | .deletesub cancel => .cancelSubscription cancel
  | .tat msg => .timeAtTone msg
  | _ => fun s => s

/-- What it does to the record of its sensor. -/
def Message.onRecord (now : UInt32) : Message → SensorRecord → SensorRecord
  | .ack _ => SensorMonitor.sensorAcked
  | .register _ => SensorMonitor.setxTEDSSendTime now
  | .id _ => SensorMonitor.sensorRegConfirmed
  | _ => fun r => r

/-- The xTEDS that it makes a sensor send. -/
def Message.xTEDSOf : Message → Sensor → Option SentXTEDS
  | .register _ => xTEDSMessage
  | _ => fun _ => none

/-- The message is applied to the sensors that it names, and to no other. -/
def Routed (m : SensorManager) (now : UInt32) (message : Message) : Prop :=
  ∃ m', m.handle now message = .ok m' ∧
    (∀ i, m'.sensors[i]? =
      m.sensors[i]?.map fun s => if message.Names i then message.onSensor s else s) ∧
    (∀ i, m'.records[i]? =
      m.records[i]?.map fun r => if message.Names i then message.onRecord now r else r) ∧
    ∀ x, x ∈ m'.sent ↔ x ∈ m.sent ∨
      ∃ i s, m.sensors[i]? = some s ∧ message.Names i ∧ message.xTEDSOf s = some x

/-- The index is in the arrays, where the handler does not check that it is. A sensor whose Hello
was sent has an xTEDS. The other handlers go wrong only for arrays that no `int` can index. -/
def Message.InRange (m : SensorManager) : Message → Prop
  | .ack error => error.toInt < m.MAX_SENSORS.toNat
  | .register sensorIndex => 0 ≤ sensorIndex.toInt →
      ∃ s, m.sensors[sensorIndex.toInt.toNat]? = some s ∧ s.device_xTEDS ≠ none
  | .id destination => lowByte destination < m.MAX_SENSORS.toNat + SM_OFFSET.toNat
  | .serreqst request => lowByte request.source = 0 → m.MAX_SENSORS.toNat < 2 ^ 32 - 1
  | .command msg => lowByte msg.source = 0 → m.MAX_SENSORS.toNat < 2 ^ 32 - 1
  | .subreqst request => lowByte request.source = 0 → m.MAX_SENSORS.toNat < 2 ^ 32 - 1
  | .deletesub cancel => lowByte cancel.source = 0 → m.MAX_SENSORS.toNat < 2 ^ 32 - 1
  | .tat msg =>
      if msg.destination.sensorID = 0 then m.MAX_SENSORS.toNat ≤ 2 ^ 31
      else lowByte msg.destination = 0 → m.MAX_SENSORS.toNat < 2 ^ 32 - 1

/-- The Sensor Manager has registered itself. -/
structure Registered (m : SensorManager) : Prop where
  ack : m.ackReceived = true
  register : m.registerReceived = true
  id : m.idReceived = true

/-! ### Ids and indices -/

variable {m m' : SensorManager} {now : UInt32} {id : SDMComponentID} {k : Nat}

theorem toNat_lowByte (id : SDMComponentID) : (id.sensorID &&& 0xFF).toNat = lowByte id := by
  rw [UInt32.toNat_and]
  exact Nat.and_two_pow_sub_one_eq_mod _ 8

theorem lowByte_lt (id : SDMComponentID) : lowByte id < 256 := Nat.mod_lt _ (by omega)

/-- The index that a sensor id is translated to wraps around below `SM_OFFSET`. -/
theorem toNat_index (id : SDMComponentID) : ((id.sensorID &&& 0xFF) - SM_OFFSET).toNat =
    if lowByte id < 2 then 2 ^ 32 - 2 + lowByte id else lowByte id - 2 := by
  have low := lowByte_lt id
  have offset : SM_OFFSET.toNat = 2 := rfl
  rw [UInt32.toNat_sub, toNat_lowByte, offset]
  split <;> omega

theorem toInt_eq (x : UInt32) : toInt x = if x.toNat < 2 ^ 31 then (x.toNat : Int)
    else x.toNat - 2 ^ 32 := by
  have bits : toInt x = x.toBitVec.toInt := rfl
  have same : x.toNat = x.toBitVec.toNat := rfl
  rw [bits, same, BitVec.toInt_eq_toNat_cond]
  split <;> split <;> omega

theorem toInt_index (id : SDMComponentID) :
    toInt ((id.sensorID &&& 0xFF) - SM_OFFSET) = (lowByte id : Int) - 2 := by
  have low := lowByte_lt id
  rw [toInt_eq, toNat_index]
  split_ifs <;> omega

theorem index_lt_iff : (id.sensorID &&& 0xFF) - SM_OFFSET < m.MAX_SENSORS ↔
    if lowByte id < 2 then lowByte id = 0 ∧ ¬ m.MAX_SENSORS.toNat < 2 ^ 32 - 1
    else lowByte id < m.MAX_SENSORS.toNat + 2 := by
  have bound := m.MAX_SENSORS.toNat_lt
  rw [UInt32.lt_iff_toNat_lt, toNat_index]
  split <;> omega

/-! ### One sensor -/

section Changes

variable {f : Sensor → Sensor} {g : SensorRecord → SensorRecord} {Index : Int} {i : Nat}

theorem changeSensor_of_lt (lt : k < m.MAX_SENSORS.toNat) :
    m.changeSensor k f = .ok (m.modifySensor k f) := by
  simp [changeSensor, inBounds, lt]

theorem changeRecord_eq_ok : m.changeRecord Index g = .ok m' ↔
    m.inBounds Index ∧ m' = m.modifyRecord Index.toNat g := by
  unfold changeRecord
  split <;> simp_all [eq_comm]

theorem getElem?_modifySensor : (m.modifySensor k f).sensors[i]? =
    m.sensors[i]?.map fun s => if i = k then f s else s := by
  rw [modifySensor, List.getElem?_modify]
  congr 1
  funext s
  simp [eq_comm]

theorem getElem?_modifyRecord : (m.modifyRecord k g).records[i]? =
    m.records[i]?.map fun r => if i = k then g r else r := by
  rw [modifyRecord, List.getElem?_modify]
  congr 1
  funext s
  simp [eq_comm]

theorem lt_of_getElem? {s : Sensor} (at_i : m.sensors[i]? = some s) : i < m.MAX_SENSORS.toNat := by
  obtain ⟨lt, -⟩ := List.getElem?_eq_some_iff.mp at_i
  exact m.sensors_length ▸ lt

theorem lt_of_record {r : SensorRecord} (at_i : m.records[i]? = some r) :
    i < m.MAX_SENSORS.toNat := by
  obtain ⟨lt, -⟩ := List.getElem?_eq_some_iff.mp at_i
  exact m.records_length ▸ lt

theorem map_congr_if {α : Type} {o : Option α} {f g : α → α} (same : ∀ a, o = some a → f a = g a) :
    o.map f = o.map g := by
  cases o with
  | none => rfl
  | some a => exact congrArg some (same a rfl)

theorem eq_map_if {α : Type} {o : Option α} {g : α → α} (same : ∀ a, o = some a → g a = a) :
    o = o.map g := by
  cases o with
  | none => rfl
  | some a => exact congrArg some (same a rfl).symm

end Changes

/-! ### Messages for one sensor -/

section Kinds

variable {message : Message}

/-- The message names no sensor, and leaves all of them as they are. -/
theorem routed_of_none {own : List OwnRequest} {ack register id : Bool}
    (done : m.handle now message = .ok { m with
      ownRequests := own, ackReceived := ack, registerReceived := register, idReceived := id })
    (none : ∀ i < m.MAX_SENSORS.toNat, ¬ message.Names i) : Routed m now message := by
  refine ⟨_, done, fun i => ?_, fun i => ?_, fun x => ?_⟩
  · exact eq_map_if fun s at_i => if_neg (none i (lt_of_getElem? at_i))
  · exact eq_map_if fun r at_i => if_neg (none i (lt_of_record at_i))
  · refine (or_iff_left ?_).symm
    rintro ⟨i, s, at_i, names, -⟩
    exact none i (lt_of_getElem? at_i) names

/-- The message names one sensor, and changes it. -/
theorem routed_of_sensor (done : m.handle now message = .ok (m.modifySensor k message.onSensor))
    (one : ∀ i, message.Names i ↔ i = k) (record : message.onRecord now = fun r => r)
    (silent : message.xTEDSOf = fun _ => none) : Routed m now message := by
  refine ⟨_, done, fun i => ?_, fun i => ?_, fun x => ?_⟩
  · rw [getElem?_modifySensor]
    exact map_congr_if fun s _ => by simp only [one]
  · refine eq_map_if fun r _ => ?_
    rw [record, ite_self]
  · refine (or_iff_left ?_).symm
    rintro ⟨i, s, -, -, sends⟩
    rw [silent] at sends
    cases sends

/-- The message names one sensor, and changes its record. -/
theorem routed_of_record (done : m.handle now message =
    .ok (m.modifyRecord k (message.onRecord now)))
    (one : ∀ i, message.Names i ↔ i = k) (sensor : message.onSensor = fun s => s)
    (silent : message.xTEDSOf = fun _ => none) : Routed m now message := by
  refine ⟨_, done, fun i => ?_, fun i => ?_, fun x => ?_⟩
  · refine eq_map_if fun s _ => ?_
    rw [sensor, ite_self]
  · rw [getElem?_modifyRecord]
    exact map_congr_if fun r _ => by simp only [one]
  · refine (or_iff_left ?_).symm
    rintro ⟨i, s, -, -, sends⟩
    rw [silent] at sends
    cases sends

theorem not_routed_of_error {e : Misrouted} (wrong : m.handle now message = .error e) :
    ¬ Routed m now message := by
  rintro ⟨m', done, -⟩
  rw [wrong] at done
  cases done

/-- The Sensor Manager's own id is no index. -/
theorem forward_manager (one : lowByte id = 1) {f : Sensor → Sensor} :
    m.forward (id.sensorID &&& 0xFF) f = .ok m := by
  refine if_neg fun within => ?_
  have range := index_lt_iff.mp within
  rw [if_pos (by omega)] at range
  omega

theorem manager_iff : id.sensorID &&& 0xFF = SENSOR_MANAGER_SID ↔ lowByte id = 1 := by
  rw [← toNat_lowByte, ← UInt32.toNat_inj]
  rfl

/-- The messages that are forwarded by the low byte of a sensor id. -/
theorem routed_forward_iff (id : SDMComponentID)
    (names : ∀ i, message.Names i ↔ lowByte id = i + SM_OFFSET.toNat)
    (record : message.onRecord now = fun r => r) (silent : message.xTEDSOf = fun _ => none)
    (own : lowByte id = 1 → ∃ requests,
      m.handle now message = .ok { m with ownRequests := requests })
    (forwards : lowByte id ≠ 1 →
      m.handle now message = m.forward (id.sensorID &&& 0xFF) message.onSensor) :
    Routed m now message ↔ (lowByte id = 0 → m.MAX_SENSORS.toNat < 2 ^ 32 - 1) := by
  have offset : SM_OFFSET.toNat = 2 := rfl
  simp only [offset] at names
  by_cases manager : lowByte id = 1
  · obtain ⟨requests, done⟩ := own manager
    refine iff_of_true (routed_of_none done fun i _ named => ?_) fun zero => by omega
    have := (names i).mp named
    omega
  · have handled := forwards manager
    unfold forward at handled
    by_cases within : (id.sensorID &&& 0xFF) - SM_OFFSET < m.MAX_SENSORS
    · rw [if_pos within, toInt_index] at handled
      have range := index_lt_iff.mp within
      by_cases zero : lowByte id = 0
      · refine iff_of_false (not_routed_of_error (e := .outside (lowByte id - 2)) ?_) ?_
        · rw [handled, changeSensor, if_neg]
          rintro ⟨nonneg, -⟩
          omega
        · intro small
          rw [if_pos (by omega)] at range
          exact range.2 (small zero)
      · rw [if_neg (by omega)] at range
        refine iff_of_true (routed_of_sensor (k := lowByte id - 2) ?_ ?_ record silent)
          fun low => absurd low zero
        · have index : (lowByte id : Int) - 2 = (lowByte id - 2 : Nat) := by omega
          rw [handled, index]
          exact changeSensor_of_lt (by omega)
        · intro i
          rw [names]
          omega
    · rw [if_neg within] at handled
      have outside := fun inside => within (index_lt_iff.mpr inside)
      refine iff_of_true (routed_of_none handled fun i lt named => ?_) fun zero => ?_
      · have low := (names i).mp named
        rw [if_neg (by omega)] at outside
        exact outside (by omega)
      · rw [if_pos (by omega)] at outside
        by_contra large
        exact outside ⟨zero, large⟩

/-- The messages that carry an index or an id, and are only checked for one below 0. -/
theorem routed_unchecked_iff (Index : Int) (names : ∀ i : Nat, message.Names i ↔ Index = i)
    (sensor : message.onSensor = fun s => s) (silent : message.xTEDSOf = fun _ => none)
    (handled : m.handle now message =
      if Index < 0 then .ok m else m.changeRecord Index (message.onRecord now)) :
    Routed m now message ↔ Index < m.MAX_SENSORS.toNat := by
  by_cases low : Index < 0
  · rw [if_pos low] at handled
    refine iff_of_true (routed_of_none handled fun i _ named => ?_) (by omega)
    have := (names i).mp named
    omega
  · rw [if_neg low] at handled
    obtain ⟨k, rfl⟩ := Int.eq_ofNat_of_zero_le (not_lt.mp low)
    by_cases lt : k < m.MAX_SENSORS.toNat
    · refine iff_of_true (routed_of_record (k := k) ?_ (fun i => ?_) sensor silent) (by omega)
      · rw [handled, changeRecord_eq_ok]
        exact ⟨⟨by omega, by omega⟩, rfl⟩
      · rw [names]
        omega
    · refine iff_of_false (not_routed_of_error (e := .outside k) ?_) (by omega)
      rw [handled, changeRecord, if_neg]
      rintro ⟨-, below⟩
      omega

end Kinds

/-! ### The other two -/

/-- An SDMRegister makes its sensor send its xTEDS. -/
theorem routed_register_iff (registered : m.Registered) (sensorIndex : Int16) :
    Routed m now (.register sensorIndex) ↔ (0 ≤ sensorIndex.toInt →
      ∃ s, m.sensors[sensorIndex.toInt.toNat]? = some s ∧ s.device_xTEDS ≠ none) := by
  have handled : m.handle now (.register sensorIndex) =
      if 0 ≤ sensorIndex.toInt then m.sendxTEDS now sensorIndex.toInt else .ok m := by
    simp [handle, registerHandler, registered.register]
  by_cases nonneg : 0 ≤ sensorIndex.toInt
  · rw [if_pos nonneg, sendxTEDS, if_neg (by omega)] at handled
    obtain ⟨k, index⟩ := Int.eq_ofNat_of_zero_le nonneg
    have names (i : Nat) : Message.Names i (.register sensorIndex) ↔ i = k := by
      change sensorIndex.toInt = i ↔ i = k
      omega
    rw [index] at handled ⊢
    simp only [Int.toNat_natCast] at handled ⊢
    cases at_k : m.sensors[k]? with
    | none =>
        rw [at_k] at handled
        refine iff_of_false (not_routed_of_error handled) fun some => ?_
        obtain ⟨s, found, -⟩ := some (by omega)
        cases found
    | some s =>
        rw [at_k] at handled
        cases text : xTEDSMessage s with
        | none =>
            simp only [text] at handled
            refine iff_of_false (not_routed_of_error handled) fun some => ?_
            obtain ⟨s', found, has⟩ := some (by omega)
            cases found
            exact has (Option.map_eq_none_iff.mp text)
        | some sending =>
            simp only [text] at handled
            have lt := lt_of_getElem? at_k
            refine iff_of_true ⟨_, handled.trans (changeRecord_eq_ok.mpr ⟨⟨by omega, ?_⟩, rfl⟩),
              fun i => ?_, fun i => ?_, fun x => ?_⟩ fun _ => ⟨s, rfl, fun unset => ?_⟩
            · change (k : Int) < m.MAX_SENSORS.toNat
              omega
            · exact eq_map_if fun _ _ => ite_self _
            · rw [getElem?_modifyRecord]
              exact map_congr_if fun r _ => by simp only [names, Int.toNat_natCast]; rfl
            · simp only [modifyRecord, List.mem_append, List.mem_singleton]
              refine or_congr_right ⟨?_, ?_⟩
              · rintro rfl
                exact ⟨k, s, at_k, (names k).mpr rfl, text⟩
              · rintro ⟨i, s', at_i, named, sends⟩
                obtain rfl := (names i).mp named
                cases at_k.symm.trans at_i
                exact Option.some.inj (sends.symm.trans text)
            · simp [xTEDSMessage, unset] at text
  · rw [if_neg nonneg] at handled
    refine iff_of_true (routed_of_none handled fun i _ named => ?_) fun low => absurd low nonneg
    have : sensorIndex.toInt = i := named
    omega

section All

variable {f : Sensor → Sensor}

theorem toInt_ofNat {i : Nat} (small : i < 2 ^ 31) : toInt (.ofNat i) = i := by
  have size : (UInt32.ofNat i).toNat = i := by
    rw [UInt32.toNat_ofNat']
    exact Nat.mod_eq_of_lt (by omega)
  rw [toInt_eq, size, if_pos small]

/-- The loop over the first sensors. -/
theorem foldlM_changeSensor (within : k ≤ m.MAX_SENSORS.toNat) (small : k ≤ 2 ^ 31) :
    ∃ m', (List.range k).foldlM (fun m i => m.changeSensor (toInt (.ofNat i)) f) m = .ok m' ∧
      m'.MAX_SENSORS = m.MAX_SENSORS ∧ m'.records = m.records ∧ m'.sent = m.sent ∧
        ∀ i, m'.sensors[i]? = m.sensors[i]?.map fun s => if i < k then f s else s := by
  induction k with
  | zero => exact ⟨m, rfl, rfl, rfl, rfl, fun i => eq_map_if fun _ _ => rfl⟩
  | succ k ih =>
      obtain ⟨m', done, max, records, sent, each⟩ := ih (by omega) (by omega)
      refine ⟨m'.modifySensor k f, ?_, max, records, sent, fun i => ?_⟩
      · have next : m'.changeSensor k f = .ok (m'.modifySensor k f) :=
          changeSensor_of_lt (by rw [max]; exact within)
        rw [List.range_succ, List.foldlM_append, done]
        change (m'.changeSensor (toInt (.ofNat k)) f >>= fun m => .ok m) = _
        rw [toInt_ofNat (by omega), next]
        rfl
      · rw [getElem?_modifySensor, each, Option.map_map]
        refine map_congr_if fun s _ => ?_
        rcases Nat.lt_trichotomy i k with less | rfl | more
        · simp [less.ne, less, Nat.lt_succ_of_lt less]
        · simp
        · simp [more.ne', not_lt.mpr more.le, not_lt.mpr (Nat.succ_le_of_lt more)]

/-- Past the largest `int` the index is negative. -/
theorem foldlM_changeSensor_error {e : Nat} (large : 2 ^ 31 < e) (bound : e < 2 ^ 32)
    (within : e ≤ m.MAX_SENSORS.toNat) : ∃ fault,
      (List.range e).foldlM (fun m i => m.changeSensor (toInt (.ofNat i)) f) m = .error fault := by
  obtain ⟨m', done, -⟩ := foldlM_changeSensor (f := f) (k := 2 ^ 31) (m := m) (by omega) le_rfl
  have negative : toInt (.ofNat (2 ^ 31)) = -2 ^ 31 := by decide
  refine ⟨.outside (-2 ^ 31), ?_⟩
  obtain ⟨rest, rfl⟩ := Nat.exists_eq_add_of_lt large
  have split : List.range (2 ^ 31 + rest + 1) =
      List.range (2 ^ 31) ++ 2 ^ 31 :: List.range' (2 ^ 31 + 1) rest := by
    have pieces : List.range' 0 (2 ^ 31) ++ List.range' (0 + 2 ^ 31) (rest + 1) =
        List.range' 0 (2 ^ 31 + (rest + 1)) := List.range'_append_1
    rw [Nat.zero_add] at pieces
    rw [List.range_eq_range', List.range_eq_range', ← List.range'_succ]
    exact pieces.symm
  have next : m'.changeSensor (toInt (.ofNat (2 ^ 31))) f = .error (.outside (-2 ^ 31)) := by
    rw [negative, changeSensor, if_neg]
    rintro ⟨nonneg, -⟩
    omega
  rw [split, List.foldlM_append, done]
  simp only [bind, Except.bind, List.foldlM_cons, next]

theorem routed_tat_iff (tat : SDMTat) : Routed m now (.tat tat) ↔
    if tat.destination.sensorID = 0 then m.MAX_SENSORS.toNat ≤ 2 ^ 31
    else lowByte tat.destination = 0 → m.MAX_SENSORS.toNat < 2 ^ 32 - 1 := by
  by_cases all : tat.destination.sensorID = 0
  · have handled : m.handle now (.tat tat) = (List.range m.MAX_SENSORS.toNat).foldlM
        (fun m i => m.changeSensor (toInt (.ofNat i)) (.timeAtTone tat)) m := by
      simp [handle, tatHandler, all]
    have names (i : Nat) : Message.Names i (.tat tat) := .inl all
    rw [if_pos all]
    by_cases small : m.MAX_SENSORS.toNat ≤ 2 ^ 31
    · obtain ⟨m', done, -, records, sent, each⟩ :=
        foldlM_changeSensor (f := .timeAtTone tat) le_rfl small
      refine iff_of_true ⟨m', handled.trans done, fun i => ?_, fun i => ?_, fun x => ?_⟩ small
      · rw [each]
        refine map_congr_if fun s at_i => ?_
        rw [if_pos (lt_of_getElem? at_i), if_pos (names i)]
        rfl
      · rw [records]
        exact eq_map_if fun _ _ => ite_self _
      · rw [sent]
        refine (or_iff_left ?_).symm
        rintro ⟨i, s, -, -, sends⟩
        cases sends
    · obtain ⟨fault, wrong⟩ := foldlM_changeSensor_error (f := .timeAtTone tat) (not_le.mp small)
        m.MAX_SENSORS.toNat_lt le_rfl
      exact iff_of_false (not_routed_of_error (handled.trans wrong)) small
  · have handled : m.handle now (.tat tat) =
        m.forward (tat.destination.sensorID &&& 0xFF) (.timeAtTone tat) := by
      simp [handle, tatHandler, all]
    rw [if_neg all]
    refine routed_forward_iff _ (fun i => or_iff_right all) rfl rfl (fun one => ?_)
      fun _ => handled
    exact ⟨m.ownRequests, handled.trans (forward_manager one)⟩

end All

/-- **When a message is applied to the sensors that it names and to no other**: an SDMAck, an
SDMRegister or an SDMID is in the range. -/
theorem routed_iff (registered : m.Registered) (now : UInt32) (message : Message) :
    Routed m now message ↔ message.InRange m := by
  have offset : SM_OFFSET.toNat = 2 := rfl
  cases message with
  | ack error =>
      refine routed_unchecked_iff error.toInt (fun i => Iff.rfl) rfl rfl ?_
      simp only [handle, ackHandler, registered.ack, sensorAcked]
      by_cases low : error.toInt < 0
      · simp [low]
      · simp only [low, if_false, not_lt.mp low, if_true, Bool.true_eq_false]
        rfl
  | register sensorIndex => exact routed_register_iff registered sensorIndex
  | id destination =>
      have routed : Routed m now (.id destination) ↔
          (lowByte destination : Int) - 2 < m.MAX_SENSORS.toNat := by
        refine routed_unchecked_iff _ (fun i => ?_) rfl rfl ?_
        · simp only [Message.Names, offset]
          omega
        · simp only [handle, idHandler, registered.id, sensorRegConfirmed, toInt_index]
          by_cases zero : destination.sensorID = 0
          · have low : lowByte destination = 0 := by simp [lowByte, zero]
            simp [zero, low]
          · simp only [Bool.true_eq_false, if_false, ne_eq, zero, not_false_eq_true, if_true]
            rfl
      rw [routed]
      simp only [Message.InRange, offset]
      omega
  | serreqst request =>
      exact routed_forward_iff _ (fun i => Iff.rfl) rfl rfl
        (fun one => ⟨m.ownRequests, forward_manager one⟩) fun _ => rfl
  | command command =>
      refine routed_forward_iff command.source (fun i => Iff.rfl) rfl rfl (fun one => ?_)
        fun other => ?_
      · have sid := manager_iff.mpr one
        simp only [handle, commandHandler, sid, true_and, ne_eq, not_true, if_false]
        split
        · exact ⟨_, rfl⟩
        · split
          · exact ⟨_, rfl⟩
          · exact ⟨m.ownRequests, rfl⟩
      · have sid := mt manager_iff.mp other
        simp [handle, commandHandler, sid, Message.onSensor]
  | subreqst request =>
      refine routed_forward_iff request.source (fun i => Iff.rfl) rfl rfl (fun one => ?_)
        fun other => ?_
      · have sid := manager_iff.mpr one
        have same : SENSOR_MANAGER_SID = 1 := rfl
        simp only [handle, subscriptionHandler, sid, same, true_and, ne_eq, not_true, if_false]
        split
        · exact ⟨_, rfl⟩
        · exact ⟨m.ownRequests, rfl⟩
      · have sid := mt manager_iff.mp other
        have sid' : ¬ request.source.sensorID &&& 0xFF = 1 := sid
        simp [handle, subscriptionHandler, sid, sid', Message.onSensor]
  | deletesub cancel =>
      refine routed_forward_iff cancel.source (fun i => Iff.rfl) rfl rfl (fun one => ?_)
        fun other => ?_
      · have sid := manager_iff.mpr one
        simp only [handle, deleteSubscriptionHandler, sid, true_and, ne_eq, not_true, if_false]
        split
        · exact ⟨_, rfl⟩
        · exact ⟨m.ownRequests, rfl⟩
      · have sid := mt manager_iff.mp other
        simp [handle, deleteSubscriptionHandler, sid, Message.onSensor]
  | tat tat => exact routed_tat_iff tat

/-- A Sensor Manager with one sensor. -/
def oneSensor : SensorManager where
  MAX_SENSORS := 1
  sensors := [⟨true, ⟨2, 0, PORT_SM⟩, some (.ofString "<xTEDS/>"), .ofString "1", .zero, [], []⟩]
  records := [{ SensorRecord.new with registered := true, helloSentTime := 1 }]
  sensors_length := rfl
  records_length := rfl
  ackReceived := true
  registerReceived := true
  idReceived := true
  ownRequests := []
  sent := []

theorem registered_oneSensor : oneSensor.Registered := ⟨rfl, rfl, rfl⟩

theorem routed_oneSensor :
    Routed oneSensor 5 (.ack 0) ∧ Routed oneSensor 5 (.register 0) ∧
      Routed oneSensor 5 (.id ⟨0x10002, 0, 0⟩) := by
  refine ⟨(routed_iff registered_oneSensor 5 _).mpr ?_,
    (routed_iff registered_oneSensor 5 _).mpr fun _ => ⟨_, rfl, nofun⟩,
    (routed_iff registered_oneSensor 5 _).mpr ?_⟩
  · change (0 : Int16).toInt < 1
    decide
  · change 0x10002 % 256 < 1 + 2
    decide

/-- The index of an SDMAck, an SDMRegister or an SDMID is not compared with the number of
sensors. -/
theorem not_routed :
    oneSensor.Registered ∧ ¬ Routed oneSensor 5 (.ack 1) ∧ ¬ Routed oneSensor 5 (.register 1) ∧
      ¬ Routed oneSensor 5 (.id ⟨0x10003, 0, 0⟩) := by
  refine ⟨registered_oneSensor, not_routed_of_error (e := .outside 1) ?_,
    not_routed_of_error (e := .outside 1) ?_, not_routed_of_error (e := .outside 1) ?_⟩ <;> rfl

end SensorManager

end Sdm
