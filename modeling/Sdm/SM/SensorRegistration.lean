import Mathlib.Data.Fintype.Basic
import Mathlib.Data.List.FinRange
import Sdm.Lib.Machine

/-!
Registration of the sensors of a Sensor Manager.

The USB thread of a sensor opens the device, reads its xTEDS and sends a Hello. The Data Manager
answers with an SDMAck and an SDMRegister; the latter makes the Sensor Manager send the xTEDS, which
is confirmed by an SDMID. The monitor thread looks at the records of all sensors in rounds, and
resends a Hello or an xTEDS that was not answered in time.

A record keeps its marks when the device disconnects. `SendxTEDS` takes the mutex that the monitor
thread holds when it calls it, so a round that resends an xTEDS is the last one. So is a round that
cancels a USB thread which owns a mutex at this time: `Cancel` waits for it for ever.

* `linked`: what the record of a sensor says about its history.
* `retried_iff`: when a round resends all that is due.
-/

namespace Sdm

open Lib

def SECONDS_INIT_VAL : UInt32 := 0
def SENSOR_ACK_TIMEOUT : UInt32 := 10
def SENSOR_ID_TIMEOUT : UInt32 := 15
def TIMEOUT_INTERVAL : UInt32 := 6

/-- `SensorRecord`. -/
structure SensorRecord where
  registered : Bool
  secondsStart : UInt32
  helloSentTime : UInt32
  xTEDSSentTime : UInt32
  ackReceived : Bool
  regConfirmed : Bool
  deriving DecidableEq, Repr

namespace SensorRecord

def new : SensorRecord where
  registered := false
  secondsStart := SECONDS_INIT_VAL
  helloSentTime := SECONDS_INIT_VAL
  xTEDSSentTime := SECONDS_INIT_VAL
  ackReceived := false
  regConfirmed := false

def checkAckTimeout (r : SensorRecord) (curSeconds : UInt32) : Bool :=
  if curSeconds = SECONDS_INIT_VAL then false
  else decide (r.helloSentTime + SENSOR_ACK_TIMEOUT < curSeconds)

def checkIDTimeout (r : SensorRecord) (curSeconds : UInt32) : Bool :=
  if curSeconds = SECONDS_INIT_VAL then false
  else decide (r.xTEDSSentTime + SENSOR_ID_TIMEOUT < curSeconds)

end SensorRecord

/-- Where the USB thread of a sensor is. -/
inductive USBThread where
  /-- There is no connection. -/
  | closed
  /-- `device.Open` has succeeded. -/
  | opened
  /-- `SensorRegistering` has returned. -/
  | registering
  /-- `Register` has sent the Hello. -/
  | helloSent
  /-- `SetHelloSendTime` has returned. -/
  | helloNoted
  /-- `SensorRegistered` has returned. -/
  | ready
  /-- The monitor has cancelled it, and waits in `Cancel`. -/
  | cancelled
  deriving DecidableEq, Repr

structure SensorState where
  record : SensorRecord
  thread : USBThread
  deriving DecidableEq, Repr

/-- The messages that the monitor resends. -/
inductive Resent (n : Nat) where
  | hello (i : Fin n)
  | xTEDS (i : Fin n)
  deriving DecidableEq, Repr

/-! ### A round of the monitor -/

/-- The registration has not come to its end in time. -/
def SensorRecord.registrationTimeout (r : SensorRecord) (now : UInt32) : Bool :=
  !r.registered && r.secondsStart != SECONDS_INIT_VAL &&
    decide (r.secondsStart + TIMEOUT_INTERVAL < now)

/-- The first two checks of `SensorMonitorFunc`: both cancel the USB thread and start another. -/
def checkThread (now : UInt32) (present : Bool) (s : SensorState) : SensorState :=
  if s.record.registrationTimeout now then { s with thread := .closed }
  else if s.record.registered && !present then
    { record := { s.record with registered := false }, thread := .closed }
  else s

/-- One of these checks cancels the USB thread. -/
def cancels (now : UInt32) (present : Bool) (s : SensorState) : Bool :=
  s.record.registrationTimeout now || s.record.registered && !present

/-- The third check: the Hello is resent. -/
def SensorRecord.helloOverdue (r : SensorRecord) (now : UInt32) : Bool :=
  r.registered && !r.ackReceived && r.checkAckTimeout now

/-- The last check: `SendxTEDS` is called. -/
def SensorRecord.idOverdue (r : SensorRecord) (now : UInt32) : Bool :=
  r.ackReceived && !r.regConfirmed && r.checkIDTimeout now

variable {n : Nat}

/-- The round over these sensors: the sensors after it, what was resent, and whether it is stuck in
`Cancel` or in `SendxTEDS`. -/
def visitSensors (now : UInt32) (present owns : Fin n → Bool) :
    List (Fin n) → (Fin n → SensorState) → (Fin n → SensorState) × List (Resent n) × Bool
  | [], sensors => (sensors, [], false)
  | i :: rest, sensors =>
      if cancels now (present i) (sensors i) && owns i then
        (Function.update sensors i { sensors i with thread := .cancelled }, [], true)
      else
        let s := checkThread now (present i) (sensors i)
        let sensors := Function.update sensors i s
        let hello := if s.record.helloOverdue now then [.hello i] else []
        if s.record.idOverdue now then (sensors, hello ++ [.xTEDS i], true)
        else
          let (sensors, sent, stuck) := visitSensors now present owns rest sensors
          (sensors, hello ++ sent, stuck)

/-! ### The machine -/

/-- `stuck` says that the monitor thread waits for ever, with `m_SensorDataMutex` held. -/
structure SensorMonitor (n : Nat) where
  clock : UInt32
  stuck : Bool
  sensors : Fin n → SensorState

/-- A step of a USB thread, the arrival of a message, or a round of the monitor. An arriving message
answers one of the Hellos of its sensor's connections; the handlers do not see which. -/
inductive SensorAction (n : Nat) where
  | connect (i : Fin n)
  | registering (i : Fin n)
  | registerFailed (i : Fin n)
  | hello (i : Fin n)
  | helloNoted (i : Fin n)
  | registered (i : Fin n)
  | disconnect (i : Fin n)
  | ack (i : Fin n) (answers : Nat)
  | register (i : Fin n) (answers : Nat)
  | id (i : Fin n) (answers : Nat)
  /-- `present` says which devices `CheckConnection` finds, and `owns` which USB threads own a mutex
  that `Cancel` takes: the `sensor_mutex`, or those of `MessageSent`. -/
  | round (present owns : Fin n → Bool)

structure SensorEvent (n : Nat) where
  now : UInt32
  action : SensorAction n

namespace SensorMonitor

def start (n : Nat) : SensorMonitor n := ⟨0, false, fun _ => ⟨.new, .closed⟩⟩

def set (m : SensorMonitor n) (i : Fin n) (s : SensorState) : SensorMonitor n :=
  { m with sensors := Function.update m.sensors i s }

/-- The USB thread goes from one place to another and changes the record. -/
def advance (m : SensorMonitor n) (i : Fin n) (source target : USBThread)
    (change : SensorRecord → SensorRecord) : Option (SensorMonitor n × List (Resent n)) :=
  if (m.sensors i).thread = source then
    some (m.set i ⟨change (m.sensors i).record, target⟩, [])
  else none

/-- The same under `m_SensorDataMutex`. -/
def advanceLocked (m : SensorMonitor n) (i : Fin n) (source target : USBThread)
    (change : SensorRecord → SensorRecord) : Option (SensorMonitor n × List (Resent n)) :=
  if m.stuck then none else m.advance i source target change

/-- A handler changes the record under `m_SensorDataMutex`, or waits for it for ever. -/
def handle (m : SensorMonitor n) (i : Fin n) (change : SensorRecord → SensorRecord) :
    SensorMonitor n :=
  if m.stuck then m else m.set i { m.sensors i with record := change (m.sensors i).record }

def sensorRegistering (now : UInt32) (r : SensorRecord) : SensorRecord :=
  if r.registered then r else { r with secondsStart := now }

def sensorRegistered (r : SensorRecord) : SensorRecord :=
  { r with registered := true, secondsStart := SECONDS_INIT_VAL }

def sensorAcked (r : SensorRecord) : SensorRecord :=
  if r.helloSentTime ≠ 0 then { r with ackReceived := true } else r

def sensorRegConfirmed (r : SensorRecord) : SensorRecord := { r with regConfirmed := true }

def setHelloSendTime (now : UInt32) (r : SensorRecord) : SensorRecord :=
  { r with helloSentTime := now }

def setxTEDSSendTime (now : UInt32) (r : SensorRecord) : SensorRecord :=
  { r with xTEDSSentTime := now }

def act (m : SensorMonitor n) (now : UInt32) :
    SensorAction n → Option (SensorMonitor n × List (Resent n))
  | .connect i => m.advance i .closed .opened id
  | .registering i => m.advanceLocked i .opened .registering (sensorRegistering now)
  | .registerFailed i => m.advance i .registering .closed id
  | .hello i => m.advance i .registering .helloSent id
  | .helloNoted i => m.advanceLocked i .helloSent .helloNoted (setHelloSendTime now)
  | .registered i => m.advanceLocked i .helloNoted .ready sensorRegistered
  | .disconnect i => m.advance i .ready .closed id
  | .ack i _ => some (m.handle i sensorAcked, [])
  | .register i _ => some (m.handle i (setxTEDSSendTime now), [])
  | .id i _ => some (m.handle i sensorRegConfirmed, [])
  | .round present owns =>
      if m.stuck then some (m, [])
      else
        let (sensors, sent, stuck) := visitSensors now present owns (List.finRange n) m.sensors
        some ({ m with sensors, stuck }, sent)

/-- The Sensor Manager at a clock that does not go back. -/
def machine (n : Nat) : Machine (SensorMonitor n) (SensorEvent n) (List (Resent n)) where
  step m e := if m.clock ≤ e.now then act { m with clock := e.now } e.now e.action else none

/-! ### The history of a sensor -/

/-- What has happened to a sensor. The connections are numbered by their Hellos. -/
structure History where
  hellos : Nat
  helloAt : UInt32
  /-- When the last xTEDS of the current connection was sent. -/
  xTEDSAt : Option UInt32
  /-- The connections whose Hello was acknowledged. -/
  acks : List Nat
  /-- Those that were acknowledged after a first Hello was noted, when no handler was blocked. -/
  counted : List Nat
  /-- The connections that were confirmed. -/
  ids : List Nat
  /-- Those that were confirmed when no handler was blocked. -/
  confirmed : List Nat

def blank (n : Nat) : Fin n → History := fun _ => ⟨0, SECONDS_INIT_VAL, none, [], [], [], []⟩

def remember (h : Fin n → History) (m : SensorMonitor n) (e : SensorEvent n)
    (sent : List (Resent n)) : Fin n → History :=
  match e.action with
  | .hello i => Function.update h i { h i with hellos := (h i).hellos + 1, xTEDSAt := none }
  | .helloNoted i => Function.update h i { h i with helloAt := e.now }
  | .register i _ => Function.update h i { h i with xTEDSAt := some e.now }
  | .ack i c =>
      let counts := m.stuck = false ∧ (m.sensors i).record.helloSentTime ≠ 0
      Function.update h i { h i with
        acks := c :: (h i).acks, counted := if counts then c :: (h i).counted else (h i).counted }
  | .id i c =>
      Function.update h i { h i with
        ids := c :: (h i).ids
        confirmed := if m.stuck = false then c :: (h i).confirmed else (h i).confirmed }
  | .round _ _ => fun i => if .xTEDS i ∈ sent then { h i with xTEDSAt := some e.now } else h i
  | _ => h

/-- The Sensor Manager with the history of its sensors. -/
abbrev recorded (n : Nat) := (machine n).withGhost remember

/-- The sensor of an arriving message, and the connection whose Hello it answers. -/
def answered : SensorAction n → Option (Fin n × Nat)
  | .ack i c | .register i c | .id i c => some (i, c)
  | _ => none

/-- A message answers a Hello that was sent. -/
def Answers (s : SensorMonitor n × (Fin n → History)) (e : SensorEvent n) : Prop :=
  ∀ p ∈ answered e.action, 0 < p.2 ∧ p.2 ≤ (s.2 p.1).hellos

instance (s : SensorMonitor n × (Fin n → History)) (e : SensorEvent n) : Decidable (Answers s e) :=
  inferInstanceAs (Decidable (∀ p ∈ answered e.action, 0 < p.2 ∧ p.2 ≤ (s.2 p.1).hellos))

/-! ### What is asked of a round -/

section Asked

variable (m : SensorMonitor n) (h : Fin n → History) (now : UInt32) (present owns : Fin n → Bool)

/-- The current registration has not been acknowledged in time. -/
def HelloDue (i : Fin n) : Prop :=
  (m.sensors i).thread = .ready ∧ present i = true ∧ (h i).hellos ∉ (h i).acks ∧
    (h i).helloAt.toNat + SENSOR_ACK_TIMEOUT.toNat < now.toNat

instance (i : Fin n) : Decidable (HelloDue m h now present i) :=
  inferInstanceAs (Decidable (_ ∧ _ ∧ _ ∉ _ ∧ _ < _))

/-- The current registration has been acknowledged, and not been confirmed in time. -/
def XtedsDue (i : Fin n) : Prop :=
  (m.sensors i).thread = .ready ∧ (h i).hellos ∈ (h i).acks ∧ (h i).hellos ∉ (h i).ids ∧
    ∃ sent, (h i).xTEDSAt = some sent ∧ sent.toNat + SENSOR_ID_TIMEOUT.toNat < now.toNat

/-- What the monitor sends in its round. -/
def sentIn : List (Resent n) :=
  match act { m with clock := now } now (.round present owns) with
  | some (_, sent) => sent
  | none => []

/-- The round resends what is due, and the record of a registered sensor counts no acknowledgement
of an earlier connection for the current one. -/
def Retried : Prop :=
  (∀ i, HelloDue m h now present i → .hello i ∈ sentIn m now present owns) ∧
    (∀ i, XtedsDue m h now i → .xTEDS i ∈ sentIn m now present owns) ∧
    ∀ i, (m.sensors i).thread = .ready → (m.sensors i).record.ackReceived = true →
      (h i).hellos ∈ (h i).acks

/-- The monitor goes no further than this sensor. -/
def Stops (j : Fin n) : Prop :=
  (cancels now (present j) (m.sensors j) = true ∧ owns j = true) ∨
    (m.sensors j).record.idOverdue now = true

/-- No mark is left of an earlier connection; and neither a resent xTEDS nor the mutex of a cancelled
thread has stopped the monitor before it comes to a sensor that is due, nor is that thread
cancelled with its mutex. -/
def Timely : Prop :=
  (∀ i, (m.sensors i).thread = .ready → (h i).counted ≠ [] → (h i).hellos ∈ (h i).acks) ∧
    (∀ i, XtedsDue m h now i → (h i).counted ≠ [] ∧ (h i).confirmed = []) ∧
    ∀ i, HelloDue m h now present i ∨ XtedsDue m h now i →
      m.stuck = false ∧ ¬ (cancels now (present i) (m.sensors i) = true ∧ owns i = true) ∧
        ∀ j < i, ¬ Stops m now present owns j

end Asked

/-! ### What a round sends -/

section Round

variable {now : UInt32} {present owns : Fin n → Bool} {sensors : Fin n → SensorState} {i : Fin n}

/-- The timeouts do not wrap around: the clock is at most at its end. -/
theorem timeout_of_toNat {since : UInt32} (wait : UInt32)
    (late : since.toNat + wait.toNat < now.toNat) :
    now ≠ SECONDS_INIT_VAL ∧ since + wait < now := by
  have bound := now.toNat_lt
  constructor
  · rintro rfl
    exact Nat.not_lt_zero _ late
  · rw [UInt32.lt_iff_toNat_lt, UInt32.toNat_add, Nat.mod_eq_of_lt (by omega)]
    exact late

theorem idOverdue_checkThread (s : SensorState) (there : Bool) :
    (checkThread now there s).record.idOverdue now = s.record.idOverdue now := by
  unfold checkThread
  split
  · rfl
  · split <;> rfl

/-- The monitor leaves a registered sensor that is there alone. -/
theorem checkThread_registered {s : SensorState} (registered : s.record.registered = true) :
    checkThread now true s = s := by
  simp [checkThread, SensorRecord.registrationTimeout, registered]

/-- Nor does it cancel its thread. -/
theorem cancels_registered {s : SensorState} (registered : s.record.registered = true) :
    cancels now true s = false := by
  simp [cancels, SensorRecord.registrationTimeout, registered]

/-- What the round resends for one sensor, unless it waits for the mutex of its thread. -/
def resends (now : UInt32) (there owned : Bool) (i : Fin n) (s : SensorState) : List (Resent n) :=
  if cancels now there s && owned then []
  else
    (if (checkThread now there s).record.helloOverdue now then [.hello i] else []) ++
      if s.record.idOverdue now then [.xTEDS i] else []

theorem hello_mem_resends {s : SensorState} {there owned : Bool} {j : Fin n} :
    .hello i ∈ resends now there owned j s ↔ i = j ∧
      (checkThread now there s).record.helloOverdue now = true ∧
        ¬ (cancels now there s = true ∧ owned = true) := by
  simp only [resends, Bool.and_eq_true]
  by_cases waits : cancels now there s = true ∧ owned = true
  · simp [waits]
  · rw [if_neg waits]
    cases hello : (checkThread now there s).record.helloOverdue now <;>
      cases id : s.record.idOverdue now <;> simp [waits]

theorem xTEDS_mem_resends {s : SensorState} {there owned : Bool} {j : Fin n} :
    .xTEDS i ∈ resends now there owned j s ↔ i = j ∧ s.record.idOverdue now = true ∧
      ¬ (cancels now there s = true ∧ owned = true) := by
  simp only [resends, Bool.and_eq_true]
  by_cases waits : cancels now there s = true ∧ owned = true
  · simp [waits]
  · rw [if_neg waits]
    cases hello : (checkThread now there s).record.helloOverdue now <;>
      cases id : s.record.idOverdue now <;> simp [waits]

theorem sent_visitSensors_cons (rest : List (Fin n)) :
    (visitSensors now present owns (i :: rest) sensors).2.1 =
      resends now (present i) (owns i) i (sensors i) ++
        if (cancels now (present i) (sensors i) = true ∧ owns i = true) ∨
            (sensors i).record.idOverdue now = true then []
        else (visitSensors now present owns rest
          (Function.update sensors i (checkThread now (present i) (sensors i)))).2.1 := by
  simp only [visitSensors, resends, idOverdue_checkThread, Bool.and_eq_true]
  by_cases waits : cancels now (present i) (sensors i) = true ∧ owns i = true
  · simp [waits]
  · cases (sensors i).record.idOverdue now <;> simp [waits]

/-- What is resent for a sensor is sent in the round if it comes to this sensor. -/
theorem mem_visitSensors (now : UInt32) (present owns : Fin n → Bool)
    (sensors : Fin n → SensorState) {l : List (Fin n)} (sorted : l.Pairwise (· < ·))
    (message : Resent n) (about : ∀ j s, message ∈ resends now (present j) (owns j) j s → j = i) :
    message ∈ (visitSensors now present owns l sensors).2.1 ↔
      i ∈ l ∧ message ∈ resends now (present i) (owns i) i (sensors i) ∧
        ∀ j ∈ l, j < i → ¬ ((cancels now (present j) (sensors j) = true ∧ owns j = true) ∨
          (sensors j).record.idOverdue now = true) := by
  induction l generalizing sensors with
  | nil => simp [visitSensors]
  | cons k rest ih =>
      obtain ⟨first, later⟩ := List.pairwise_cons.mp sorted
      have others : ∀ j ∈ rest,
          Function.update sensors k (checkThread now (present k) (sensors k)) j = sensors j :=
        fun j mem => Function.update_of_ne (first j mem).ne' _ _
      rw [sent_visitSensors_cons, List.mem_append]
      constructor
      · rintro (here | there)
        · obtain rfl := about k _ here
          refine ⟨List.mem_cons_self, here, fun j mem lt => ?_⟩
          obtain rfl | mem := List.mem_cons.mp mem
          · exact absurd lt (lt_irrefl _)
          · exact absurd lt (lt_asymm (first j mem))
        · split at there
          · exact absurd there List.not_mem_nil
          · rename_i onward
            obtain ⟨mem, due, before⟩ := (ih _ later).mp there
            rw [others i mem] at due
            refine ⟨List.mem_cons_of_mem _ mem, due, fun j within lt => ?_⟩
            obtain rfl | within := List.mem_cons.mp within
            · exact onward
            · rw [← others j within]
              exact before j within lt
      · rintro ⟨mem, due, before⟩
        obtain rfl | mem := List.mem_cons.mp mem
        · exact .inl due
        · refine .inr ?_
          rw [if_neg (before k List.mem_cons_self (first i mem))]
          refine (ih _ later).mpr ⟨mem, ?_, fun j within lt => ?_⟩
          · rw [others i mem]
            exact due
          · rw [others j within]
            exact before j (List.mem_cons_of_mem _ within) lt

theorem hello_mem_sentIn {m : SensorMonitor n} :
    .hello i ∈ sentIn m now present owns ↔
      (checkThread now (present i) (m.sensors i)).record.helloOverdue now = true ∧ m.stuck = false ∧
        ¬ (cancels now (present i) (m.sensors i) = true ∧ owns i = true) ∧
          ∀ j < i, ¬ Stops m now present owns j := by
  cases stuck : m.stuck with
  | true => simp [sentIn, act, stuck]
  | false =>
      have member := mem_visitSensors now present owns m.sensors (List.pairwise_lt_finRange n)
        (.hello i) (fun j s mem => (hello_mem_resends.mp mem).1.symm)
      simpa [sentIn, act, stuck, hello_mem_resends, Stops, and_assoc] using member

theorem xTEDS_mem_sentIn {m : SensorMonitor n} :
    .xTEDS i ∈ sentIn m now present owns ↔
      (m.sensors i).record.idOverdue now = true ∧ m.stuck = false ∧
        ¬ (cancels now (present i) (m.sensors i) = true ∧ owns i = true) ∧
          ∀ j < i, ¬ Stops m now present owns j := by
  cases stuck : m.stuck with
  | true => simp [sentIn, act, stuck]
  | false =>
      have member := mem_visitSensors now present owns m.sensors (List.pairwise_lt_finRange n)
        (.xTEDS i) (fun j s mem => (xTEDS_mem_resends.mp mem).1.symm)
      simpa [sentIn, act, stuck, xTEDS_mem_resends, Stops, and_assoc] using member

/-- What the first checks keep of every sensor, the round keeps, if it is kept with the thread
cancelled. -/
theorem visitSensors_keeps (now : UInt32) (present owns : Fin n → Bool) {P : SensorState → Prop}
    (keep : ∀ there s, P s → P (checkThread now there s))
    (cancel : ∀ s, P s → P { s with thread := .cancelled }) (l : List (Fin n))
    (before : P (sensors i)) : P ((visitSensors now present owns l sensors).1 i) := by
  induction l generalizing sensors with
  | nil => exact before
  | cons k rest ih =>
      have next (change : SensorState → SensorState) (keeps : ∀ s, P s → P (change s)) :
          P (Function.update sensors k (change (sensors k)) i) := by
        by_cases here : i = k
        · subst here
          rw [Function.update_self]
          exact keeps _ before
        · rw [Function.update_of_ne here]
          exact before
      simp only [visitSensors]
      split
      · exact next _ cancel
      · split
        · exact next _ (keep _)
        · exact ih (next _ (keep _))

/-- A round that comes to its end resends no xTEDS. -/
theorem xTEDS_notMem_visitSensors (l : List (Fin n))
    (ends : (visitSensors now present owns l sensors).2.2 = false) :
    .xTEDS i ∉ (visitSensors now present owns l sensors).2.1 := by
  induction l generalizing sensors with
  | nil => simp [visitSensors]
  | cons k rest ih =>
      simp only [visitSensors] at ends ⊢
      split at ends
      · cases ends
      · rename_i free
        rw [if_neg free]
        split at ends
        · cases ends
        · rename_i waits
          rw [if_neg waits, List.mem_append]
          rintro (hello | later)
          · split at hello <;> simp at hello
          · exact ih ends later

end Round

/-! ### What a record says about the history -/

variable {m : SensorMonitor n} {h : Fin n → History} {i : Fin n}

/-- The record of a sensor and its history. -/
structure Linked (stuck : Bool) (s : SensorState) (h : History) : Prop where
  registered : s.thread = .ready → s.record.registered = true
  noted : s.record.helloSentTime = h.helloAt
  acked : s.record.ackReceived = true ↔ h.counted ≠ []
  confirmed : s.record.regConfirmed = true ↔ h.confirmed ≠ []
  xTEDSAt : stuck = false → ∀ sent, h.xTEDSAt = some sent → s.record.xTEDSSentTime = sent


theorem linked_start (i : Fin n) : Linked false ⟨.new, .closed⟩ (blank n i) where
  registered := nofun
  noted := rfl
  acked := by simp [SensorRecord.new, blank]
  confirmed := by simp [SensorRecord.new, blank]
  xTEDSAt := by simp [blank]

theorem Linked.checkThread {stuck there : Bool} {now : UInt32} {s : SensorState} {h : History}
    (linked : Linked stuck s h) : Linked stuck (Sdm.checkThread now there s) h := by
  unfold Sdm.checkThread
  split
  · exact { linked with registered := nofun }
  · split
    · exact { linked with registered := nofun }
    · exact linked

theorem advance_eq_some {m' : SensorMonitor n} {source target : USBThread}
    {change : SensorRecord → SensorRecord} {sent : List (Resent n)} :
    m.advance i source target change = some (m', sent) ↔
      (m.sensors i).thread = source ∧ m' = m.set i ⟨change (m.sensors i).record, target⟩ ∧
        sent = [] := by
  unfold advance
  split <;> simp_all [eq_comm]

theorem advanceLocked_eq_some {m' : SensorMonitor n} {source target : USBThread}
    {change : SensorRecord → SensorRecord} {sent : List (Resent n)} :
    m.advanceLocked i source target change = some (m', sent) ↔
      m.stuck = false ∧ m.advance i source target change = some (m', sent) := by
  unfold advanceLocked
  split <;> simp_all

section Step

variable {s : SensorState} {hist : History} {k : Fin n} {r : SensorRecord}

theorem linked_set_remember (before : ∀ j, Linked m.stuck (m.sensors j) (h j))
    (after : Linked m.stuck s hist) (i : Fin n) :
    Linked (m.set k s).stuck ((m.set k s).sensors i) (Function.update h k hist i) := by
  by_cases here : i = k
  · subst here
    simpa [set] using after
  · simpa [set, here] using before i

theorem linked_set (before : ∀ j, Linked m.stuck (m.sensors j) (h j))
    (after : Linked m.stuck s (h k)) (i : Fin n) :
    Linked (m.set k s).stuck ((m.set k s).sensors i) (h i) := by
  have same := linked_set_remember before after i (k := k)
  rwa [Function.update_eq_self] at same

/-- A handler has done its part, or it waits for ever. -/
theorem linked_handle {change : SensorRecord → SensorRecord}
    (before : ∀ j, Linked m.stuck (m.sensors j) (h j))
    (waits : m.stuck = true → Linked true (m.sensors k) hist)
    (done : m.stuck = false →
      Linked false { m.sensors k with record := change (m.sensors k).record } hist) (i : Fin n) :
    Linked (m.handle k change).stuck ((m.handle k change).sensors i)
      (Function.update h k hist i) := by
  unfold handle
  cases stuck : m.stuck with
  | true =>
      rw [stuck] at before
      rw [if_pos rfl, stuck]
      by_cases here : i = k
      · subst here
        simpa using waits stuck
      · simpa [here] using before i
  | false =>
      rw [if_neg Bool.false_ne_true]
      exact linked_set_remember before (by rw [stuck]; exact done stuck) i

end Step

/-- One step of the Sensor Manager. -/
theorem linked_act {m' : SensorMonitor n} {e : SensorEvent n} {sent : List (Resent n)}
    (before : ∀ i, Linked m.stuck (m.sensors i) (h i))
    (taken : m.act e.now e.action = some (m', sent)) (i : Fin n) :
    Linked m'.stuck (m'.sensors i) (remember h m e sent i) := by
  obtain ⟨now, action⟩ := e
  cases action with
  | connect k =>
      obtain ⟨-, rfl, rfl⟩ := advance_eq_some.mp taken
      refine linked_set before ?_ i
      exact { before k with registered := nofun }
  | registering k =>
      obtain ⟨-, taken⟩ := advanceLocked_eq_some.mp taken
      obtain ⟨-, rfl, rfl⟩ := advance_eq_some.mp taken
      refine linked_set before ?_ i
      unfold sensorRegistering
      split <;> exact { before k with registered := nofun }
  | registerFailed k =>
      obtain ⟨-, rfl, rfl⟩ := advance_eq_some.mp taken
      refine linked_set before ?_ i
      exact { before k with registered := nofun }
  | hello k =>
      obtain ⟨-, rfl, rfl⟩ := advance_eq_some.mp taken
      refine linked_set_remember before ?_ i
      exact { before k with registered := nofun, xTEDSAt := nofun }
  | helloNoted k =>
      obtain ⟨-, taken⟩ := advanceLocked_eq_some.mp taken
      obtain ⟨-, rfl, rfl⟩ := advance_eq_some.mp taken
      refine linked_set_remember before ?_ i
      exact { before k with registered := nofun, noted := rfl }
  | registered k =>
      obtain ⟨-, taken⟩ := advanceLocked_eq_some.mp taken
      obtain ⟨-, rfl, rfl⟩ := advance_eq_some.mp taken
      refine linked_set before ?_ i
      exact { before k with registered := fun _ => rfl }
  | disconnect k =>
      obtain ⟨-, rfl, rfl⟩ := advance_eq_some.mp taken
      refine linked_set before ?_ i
      exact { before k with registered := nofun }
  | ack k c =>
      cases taken
      refine linked_handle before ?_ ?_ i
      · intro stuck
        have as := before k
        rw [stuck] at as
        exact { as with acked := by simpa [stuck] using as.acked }
      · intro running
        have as := before k
        rw [running] at as
        by_cases noted : (m.sensors k).record.helloSentTime = 0
        · simpa [sensorAcked, noted] using { as with }
        · simp only [sensorAcked, noted, running, ne_eq, not_false_eq_true, and_self, if_true]
          exact { as with acked := by simp }
  | register k c =>
      cases taken
      refine linked_handle before ?_ ?_ i
      · intro stuck
        have as := before k
        exact { as with xTEDSAt := nofun }
      · intro running
        have as := before k
        exact { as with xTEDSAt := fun _ sent same => Option.some.inj same }
  | id k c =>
      cases taken
      refine linked_handle before ?_ ?_ i
      · intro stuck
        have as := before k
        rw [stuck] at as
        exact { as with confirmed := by simpa [stuck] using as.confirmed }
      · intro running
        have as := before k
        rw [running] at as
        exact { as with confirmed := by simp [sensorRegConfirmed, running] }
  | round present owns =>
      simp only [act] at taken
      cases stuck : m.stuck with
      | true =>
          rw [stuck, if_pos rfl] at taken
          cases taken
          simpa [remember] using before i
      | false =>
          rw [stuck, if_neg Bool.false_ne_true] at taken
          cases taken
          have as := before i
          rw [stuck] at as
          have kept := visitSensors_keeps now present owns (P := fun s => Linked false s (h i))
            (fun _ _ linked => linked.checkThread)
            (fun _ linked => { linked with registered := nofun }) (List.finRange n) as
          simp only [remember]
          cases ends : (visitSensors now present owns (List.finRange n) m.sensors).2.2 with
          | true => split <;> exact { kept with xTEDSAt := nofun }
          | false =>
              rw [if_neg (xTEDS_notMem_visitSensors _ ends)]
              exact kept

/-- **The record of a sensor in a run**: its marks are those of all connections of the device. -/
theorem linked (run : (recorded n).Reaches Answers (start n, blank n) (m, h)) (i : Fin n) :
    Linked m.stuck (m.sensors i) (h i) := by
  refine run.invariant (I := fun s => ∀ i, Linked s.1.stuck (s.1.sensors i) (s.2 i))
    linked_start ?_ i
  rintro ⟨m, h⟩ e ⟨m', h'⟩ sent before - taken i
  obtain ⟨step, rfl⟩ := Machine.withGhost_step_eq_some.mp taken
  have acted := (Option.ite_none_right_eq_some.mp step).2
  exact linked_act (m := { m with clock := e.now }) before acted i

/-! ### When all that is due is resent -/

section Due

variable {now : UInt32}

theorem Linked.helloOverdue_iff {stuck : Bool} {s : SensorState} {hist : History}
    (linked : Linked stuck s hist) (ready : s.thread = .ready)
    (late : hist.helloAt.toNat + SENSOR_ACK_TIMEOUT.toNat < now.toNat) :
    (Sdm.checkThread now true s).record.helloOverdue now = true ↔ hist.counted = [] := by
  have registered := linked.registered ready
  have timeout : s.record.checkAckTimeout now = true := by
    obtain ⟨ne, lt⟩ := timeout_of_toNat _ late
    rw [SensorRecord.checkAckTimeout, if_neg ne, linked.noted]
    exact decide_eq_true lt
  have acked := linked.acked
  rw [checkThread_registered registered, SensorRecord.helloOverdue, registered, timeout]
  cases mark : s.record.ackReceived with
  | true => simpa [mark] using acked
  | false => simpa [mark] using acked

theorem Linked.idOverdue_iff {s : SensorState} {hist : History} (linked : Linked false s hist)
    {sent : UInt32} (sentAt : hist.xTEDSAt = some sent)
    (late : sent.toNat + SENSOR_ID_TIMEOUT.toNat < now.toNat) :
    s.record.idOverdue now = true ↔ hist.counted ≠ [] ∧ hist.confirmed = [] := by
  have timeout : s.record.checkIDTimeout now = true := by
    obtain ⟨ne, lt⟩ := timeout_of_toNat _ late
    rw [SensorRecord.checkIDTimeout, if_neg ne, linked.xTEDSAt rfl sent sentAt]
    exact decide_eq_true lt
  rw [SensorRecord.idOverdue, timeout, Bool.and_true, Bool.and_eq_true, linked.acked,
    Bool.not_eq_true', ← Bool.not_eq_true, linked.confirmed, not_not]

/-- **When a round resends all that is due**: exactly if no mark of an earlier connection is left on
the record of a sensor that is due, and the monitor comes to it. -/
theorem retried_iff (run : (recorded n).Reaches Answers (start n, blank n) (m, h)) (now : UInt32)
    (present owns : Fin n → Bool) :
    Retried m h now present owns ↔ Timely m h now present owns := by
  have marks : (∀ i, (m.sensors i).thread = .ready → (m.sensors i).record.ackReceived = true →
      (h i).hellos ∈ (h i).acks) ↔ ∀ i, (m.sensors i).thread = .ready → (h i).counted ≠ [] →
        (h i).hellos ∈ (h i).acks := by
    refine forall_congr' fun i => ?_
    rw [(linked run i).acked]
  have hello : ∀ i, HelloDue m h now present i → (.hello i ∈ sentIn m now present owns ↔
      (h i).counted = [] ∧ m.stuck = false ∧
        ¬ (cancels now (present i) (m.sensors i) = true ∧ owns i = true) ∧
          ∀ j < i, ¬ Stops m now present owns j) := by
    rintro i ⟨ready, there, -, late⟩
    rw [hello_mem_sentIn, there, (linked run i).helloOverdue_iff ready late]
  have xTEDS : ∀ i, XtedsDue m h now i → (.xTEDS i ∈ sentIn m now present owns ↔
      ((h i).counted ≠ [] ∧ (h i).confirmed = []) ∧ m.stuck = false ∧
        ¬ (cancels now (present i) (m.sensors i) = true ∧ owns i = true) ∧
          ∀ j < i, ¬ Stops m now present owns j) := by
    rintro i ⟨-, -, -, sent, sentAt, late⟩
    rw [xTEDS_mem_sentIn]
    cases stuck : m.stuck with
    | true => simp
    | false =>
        have as := linked run i
        rw [stuck] at as
        rw [as.idOverdue_iff sentAt late]
  rw [Retried, Timely, marks]
  constructor
  · rintro ⟨hellos, xTEDSs, own⟩
    refine ⟨own, fun i due => ((xTEDS i due).mp (xTEDSs i due)).1, ?_⟩
    rintro i (due | due)
    · exact ((hello i due).mp (hellos i due)).2
    · exact ((xTEDS i due).mp (xTEDSs i due)).2
  · rintro ⟨own, fresh, comes⟩
    refine ⟨fun i due => (hello i due).mpr ⟨?_, comes i (.inl due)⟩,
      fun i due => (xTEDS i due).mpr ⟨fresh i due, comes i (.inr due)⟩, own⟩
    obtain ⟨ready, -, unacked, -⟩ := due
    by_contra counted
    exact unacked (own i ready counted)

end Due

/-- The steps of a registration, at one time. -/
def registration (now : UInt32) (i : Fin n) : List (SensorEvent n) :=
  [.connect i, .registering i, .hello i, .helloNoted i, .registered i].map (⟨now, ·⟩)

/-- A round resends a Hello that was not answered; that the USB thread owns its mutex does not
matter, since it is not cancelled. -/
theorem retried_unanswered :
    ∃ m h, (recorded 1).Reaches Answers (start 1, blank 1) (m, h) ∧
      HelloDue m h 13 (fun _ => true) 0 ∧ Retried m h 13 (fun _ => true) fun _ => true := by
  have ran : (((recorded 1).execGuarded Answers (start 1, blank 1) (registration 2 0)).any fun s =>
      decide (HelloDue s.1 s.2 13 (fun _ => true) 0 ∧ s.1.stuck = false ∧ (s.2 0).counted = [] ∧
        (s.2 0).xTEDSAt = none ∧ (s.1.sensors 0).record.registered = true)) = true := by
    decide +kernel
  obtain ⟨⟨m, h⟩, done, all⟩ := (Option.any_eq_true _ _).mp ran
  obtain ⟨due, running, uncounted, unsent, registered⟩ := of_decide_eq_true all
  have run := Machine.Reaches.start.execGuarded done
  refine ⟨m, h, run, due, (retried_iff run 13 (fun _ => true) fun _ => true).mpr ⟨?_, ?_, ?_⟩⟩
  · intro i _ counted
    obtain rfl := Subsingleton.elim i 0
    exact absurd uncounted counted
  · rintro i ⟨-, -, -, sent, sentAt, -⟩
    obtain rfl := Subsingleton.elim i 0
    rw [unsent] at sentAt
    cases sentAt
  · intro i _
    obtain rfl := Subsingleton.elim i 0
    refine ⟨running, fun waits => ?_, fun j lt => absurd lt (by omega)⟩
    rw [cancels_registered registered] at waits
    exact absurd waits.1 Bool.false_ne_true

/-- The acknowledgement of the first connection counts for the second one, whose Hello was lost. -/
theorem not_retried :
    ∃ m h, (recorded 1).Reaches Answers (start 1, blank 1) (m, h) ∧
      ¬ Retried m h 13 (fun _ => true) fun _ => false := by
  have ran : (((recorded 1).execGuarded Answers (start 1, blank 1)
      (registration 1 0 ++ [⟨1, .ack 0 1⟩, ⟨2, .disconnect 0⟩] ++ registration 2 0)).any fun s =>
      decide (HelloDue s.1 s.2 13 (fun _ => true) 0 ∧
        sentIn s.1 13 (fun _ => true) (fun _ => false) = [])) = true := by decide +kernel
  obtain ⟨⟨m, h⟩, done, all⟩ := (Option.any_eq_true _ _).mp ran
  obtain ⟨due, silent⟩ := of_decide_eq_true all
  refine ⟨m, h, Machine.Reaches.start.execGuarded done, fun retried => ?_⟩
  have resent := retried.1 0 due
  rw [silent] at resent
  cases resent

end SensorMonitor

end Sdm
