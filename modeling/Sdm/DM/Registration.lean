import Mathlib.Algebra.Group.Nat.Defs
import Sdm.Common.Queues
import Sdm.DM.ProviderSubscriptionList

/-!
The Hello of a component and the SDMRegister that answers it.

`UdpListenerProcess` acknowledges each `SDMHello` and queues devices and applications.
`RegistrationHandler` takes them from the two queues, one at a time, and sends each its
`SDMRegister`. It is one object for all of them: its index is written for the components
that have one, and stays for the others.

* `sensorIndex_of_run`: after any messages the index is that of the last component that had
  one.
* `addressed_iff`: after any messages, the answer to a Hello, or the `SDMRegister` of the
  component that is served next, is what it should be exactly under the conditions of
  `Plain`.
-/

namespace Sdm

open Sdm.Lib

/-- `SDMHello`. -/
structure SDMHello where
  source : SDMComponentID
  type : Char
  deriving DecidableEq

/-- The conversion of a sensor id to a `short`. -/
def SDMComponentID.shortSensorID (c : SDMComponentID) : Int16 := c.sensorID.toUInt16.toInt16

/-- What is sent. -/
inductive RegistrationHandler.Reply where
  | ack (error : Int16) (destination : SDMComponentID)
  | register (sensorIndex : Int16) (destination : SDMComponentID)
  deriving DecidableEq

/-- The registration queues, with the index in the `SDMRegister` of `RegistrationHandler`. -/
structure RegistrationHandler where
  deviceQueue : IndexQueue SDMComponentID
  applicationQueue : IndexQueue SDMComponentID
  registerNext : Bool
  sensorIndex : Int16

namespace RegistrationHandler

open ProviderSubscriptionList

/-- The start of the Data Manager. -/
def start : RegistrationHandler := ⟨.new fun _ => .zero, .new fun _ => .zero, true, -1⟩

/-! ### A Hello -/

/-- `SenderId`: the local host is the Data Manager's own address. -/
def senderAddress (Address_DM sin_addr : UInt32) : UInt32 :=
  if sin_addr = L_LOCAL_HOST then Address_DM else sin_addr

/-- `newReg`. -/
def newReg (sender : UInt32) (helloMsg : SDMHello) : SDMComponentID :=
  if helloMsg.source.address = 0 then { helloMsg.source with address := sender }
  else helloMsg.source

/-- `sm`, which is only filled in for the Sensor Manager's port. -/
def sm (sender : UInt32) (helloMsg : SDMHello) : SDMComponentID :=
  if helloMsg.source.port = PORT_SM then { newReg sender helloMsg with port := PORT_SM }
  else .zero

/-- The `SDMAck` to a device or an application. -/
def ackQueued (sender : UInt32) (helloMsg : SDMHello) : Reply :=
  if helloMsg.source.port ≠ PORT_SM ∧ helloMsg.source.port ≠ PORT_SPA1_MANAGER then
    .ack 0 (newReg sender helloMsg)
  else .ack helloMsg.source.shortSensorID (sm sender helloMsg)

/-- A component is queued once. -/
def enqueue (queue : IndexQueue SDMComponentID) (component : SDMComponentID) :
    IndexQueue SDMComponentID :=
  if queue.find component then queue else queue.add component

/-- The branch of `UdpListenerProcess` for an `SDMHello`. The `SDMRegister` of that function
keeps its first index. -/
def receiveHello (r : RegistrationHandler) (sender : UInt32) (helloMsg : SDMHello) :
    RegistrationHandler × List Reply :=
  match helloMsg.type with
  | 'D' => ({ r with deviceQueue := enqueue r.deviceQueue (newReg sender helloMsg) },
      [ackQueued sender helloMsg])
  | 'A' => ({ r with applicationQueue := enqueue r.applicationQueue (newReg sender helloMsg) },
      [ackQueued sender helloMsg])
  | 'C' => (r, [.ack 0 (newReg sender helloMsg), .register (-1) (newReg sender helloMsg)])
  | _ => (r, [])

/-! ### Serving the queues -/

/-- A component that was taken from one of the queues. -/
inductive Served where
  | device (component : SDMComponentID)
  | application (component : SDMComponentID)
  deriving DecidableEq

namespace Served

/-- `componentToRegister`. -/
def component : Served → SDMComponentID
  | device c => c
  | application c => c

/-- The test for writing the index. -/
def hasIndex : Served → Bool
  | device c => c.port = PORT_SM ∨ c.port = PORT_SPA1_MANAGER
  | application c => c.sensorID ≠ 0

end Served

/-- The component that is next, and the queues without it: devices come first. -/
def taken (r : RegistrationHandler) : Option (Served × RegistrationHandler) :=
  if r.deviceQueue.size ≠ 0 then
    some (.device (r.deviceQueue.dequeue.1.getD .zero),
      { r with deviceQueue := r.deviceQueue.dequeue.2 })
  else if r.applicationQueue.size ≠ 0 then
    some (.application (r.applicationQueue.dequeue.1.getD .zero),
      { r with applicationQueue := r.applicationQueue.dequeue.2 })
  else none

/-- A round of the loop of `RegistrationHandler`. -/
def serve (r : RegistrationHandler) (timedOut : Bool) : RegistrationHandler × List Reply :=
  let r := { r with registerNext := timedOut || r.registerNext }
  if r.registerNext then
    match r.taken with
    | none => (r, [])
    | some (served, rest) =>
        let sensorIndex :=
          if served.hasIndex then served.component.shortSensorID else r.sensorIndex
        ({ rest with sensorIndex := sensorIndex, registerNext := false },
          [.register sensorIndex served.component])
  else (r, [])

/-! ### All messages -/

/-- What happens: a Hello comes from an address, `RegistrationHandler` takes a round, or a
registration comes to its end. -/
inductive Action where
  | hello (sin_addr : UInt32) (helloMsg : SDMHello)
  | serve (timedOut : Bool)
  | registered

/-- What the Data Manager at the address `Address_DM` does. -/
def perform (Address_DM : UInt32) (r : RegistrationHandler) :
    Action → RegistrationHandler × List Reply
  | .hello sin_addr helloMsg => r.receiveHello (senderAddress Address_DM sin_addr) helloMsg
  | .serve timedOut => r.serve timedOut
  | .registered => ({ r with registerNext := true }, [])

/-- The registration part of the Data Manager. -/
def machine (Address_DM : UInt32) : Machine RegistrationHandler Action (List Reply) where
  step r action := some (r.perform Address_DM action)

/-- The component that a round serves. -/
def servedBy (r : RegistrationHandler) : Action → Option Served
  | .serve timedOut => if timedOut || r.registerNext then r.taken.map Prod.fst else none
  | _ => none

/-- The components served so far, the last one first. -/
abbrev History := List Served

/-- The messages lead from the start to `r`, and the components of `h` were served. -/
abbrev Run (Address_DM : UInt32) (r : RegistrationHandler) (h : History) : Prop :=
  ((machine Address_DM).withGhost fun h r action _ => (r.servedBy action).toList ++ h).Reachable
    (start, []) (r, h)

/-- The index that the last component had that has one. -/
def lastIndex (h : History) : Option Int16 :=
  (h.find? Served.hasIndex).map fun served => served.component.shortSensorID

/-! ### What the answers should be -/

/-- The one `SDMAck` goes to where the Hello comes from. Its status is the sensor id of a
device or an application of one of the two managers, and `SDM_OK` for the others. -/
def Acknowledges (sender : UInt32) (helloMsg : SDMHello) (out : List Reply) : Prop :=
  ∃ error destination, (out.filter fun reply => reply matches .ack ..) = [.ack error destination] ∧
    destination.address =
      (if helloMsg.source.address = 0 then sender else helloMsg.source.address) ∧
    destination.port = helloMsg.source.port ∧
    error.toInt =
      if (helloMsg.type = 'D' ∨ helloMsg.type = 'A') ∧
        (helloMsg.source.port = PORT_SM ∨ helloMsg.source.port = PORT_SPA1_MANAGER)
      then helloMsg.source.sensorID.toNat else 0

/-- The index is the component's own sensor id, or the first one. -/
def Carries (index : Int16) (c : SDMComponentID) : Prop :=
  index.toInt = c.sensorID.toNat ∨ index = -1

instance (index : Int16) (c : SDMComponentID) : Decidable (Carries index c) :=
  inferInstanceAs (Decidable (_ ∨ _))

/-- The one `SDMRegister` goes to the component that was taken out of its queue. -/
def Registers (served : Served) (out : List Reply) : Prop :=
  ∃ index destination, out = [.register index destination] ∧
    SameEndpoint destination served.component ∧ Carries index served.component

/-- The answers to what happens are what they should be. -/
def Addressed (Address_DM : UInt32) (r : RegistrationHandler) (action : Action)
    (out : List Reply) : Prop :=
  match action with
  | .hello sin_addr helloMsg => helloMsg.type ∈ ['D', 'A', 'C'] →
      Acknowledges (senderAddress Address_DM sin_addr) helloMsg out
  | action => match r.servedBy action with
      | some served => Registers served out
      | none => out = []

/-- A Hello of a device or an application is not from the SPA-1 manager, and the Sensor
Manager's sensor id fits a `short`. -/
def PlainHello (helloMsg : SDMHello) : Prop :=
  helloMsg.type = 'D' ∨ helloMsg.type = 'A' → helloMsg.source.port ≠ PORT_SPA1_MANAGER ∧
    (helloMsg.source.port = PORT_SM → helloMsg.source.sensorID.toNat < 2 ^ 15)

/-- The component has an index that fits a `short` or is cut to the first one. Or it has
none, and neither had those before it, or the last index is by chance its own. -/
def PlainServed (h : History) (served : Served) : Prop :=
  if served.hasIndex then
    served.component.sensorID.toNat < 2 ^ 15 ∨
      served.component.sensorID.toNat % 2 ^ 16 = 2 ^ 16 - 1
  else ∀ index, lastIndex h = some index → Carries index served.component

/-- What the answers depend on. -/
def Plain (r : RegistrationHandler) (h : History) (action : Action) : Prop :=
  match action with
  | .hello _ helloMsg => PlainHello helloMsg
  | action => ∀ served, r.servedBy action = some served → PlainServed h served

variable {Address_DM sender : UInt32} {r r' : RegistrationHandler} {h : History} {action : Action}
  {out : List Reply} {helloMsg : SDMHello} {c : SDMComponentID} {served : Served}

/-! ### Sensor ids as `short` -/

theorem shortSensorID_toInt (c : SDMComponentID) :
    c.shortSensorID.toInt = (c.sensorID.toNat : Int).bmod (2 ^ 16) := by
  show c.sensorID.toUInt16.toBitVec.toInt = _
  rw [BitVec.toInt_eq_toNat_bmod, UInt16.toNat_toBitVec, UInt32.toNat_toUInt16, Int.natCast_emod]
  exact Int.emod_bmod _ (2 ^ 16)

theorem shortSensorID_toInt_iff :
    c.shortSensorID.toInt = c.sensorID.toNat ↔ c.sensorID.toNat < 2 ^ 15 := by
  have lt := c.sensorID.toNat_lt
  rw [shortSensorID_toInt, Int.bmod_def]
  omega

theorem shortSensorID_eq_iff :
    c.shortSensorID = -1 ↔ c.sensorID.toNat % 2 ^ 16 = 2 ^ 16 - 1 := by
  rw [← Int16.toInt_inj, shortSensorID_toInt, Int.bmod_def]
  have : (-1 : Int16).toInt = -1 := rfl
  omega

/-! ### The index -/

/-- A component that has an index gets its own, the others the last one. -/
def indexFor (r : RegistrationHandler) (served : Served) : Int16 :=
  if served.hasIndex then served.component.shortSensorID else r.sensorIndex

theorem taken_component (r : RegistrationHandler) (ready : Bool) :
    ({ r with registerNext := ready } : RegistrationHandler).taken.map Prod.fst =
      r.taken.map Prod.fst := by
  unfold taken
  split_ifs <;> rfl

/-- A round in which a component is served. -/
theorem serve_of_servedBy {timedOut : Bool} (next : r.servedBy (.serve timedOut) = some served) :
    (r.serve timedOut).2 = [.register (r.indexFor served) served.component] ∧
      (r.serve timedOut).1.sensorIndex = r.indexFor served := by
  cases ready : timedOut || r.registerNext with
  | false => simp [servedBy, ready] at next
  | true =>
      simp only [servedBy, ready, if_true, ← taken_component r true] at next
      obtain ⟨⟨_, rest⟩, first, rfl⟩ := Option.map_eq_some_iff.mp next
      simp only [serve, ready, if_true, first]
      exact ⟨rfl, rfl⟩

/-- A round in which nobody is served. -/
theorem serve_of_nobody {timedOut : Bool} (nobody : r.servedBy (.serve timedOut) = none) :
    (r.serve timedOut).2 = [] ∧ (r.serve timedOut).1.sensorIndex = r.sensorIndex := by
  cases ready : timedOut || r.registerNext with
  | false => simp [serve, ready]
  | true =>
      simp only [servedBy, ready, if_true, ← taken_component r true] at nobody
      simp only [serve, ready, if_true, Option.map_eq_none_iff.mp nobody, and_self]

theorem receiveHello_sensorIndex :
    (r.receiveHello sender helloMsg).1.sensorIndex = r.sensorIndex := by
  unfold receiveHello
  split <;> rfl

/-- After any messages the index is the one that the last component had that has one. -/
theorem sensorIndex_of_run (run : Run Address_DM r h) :
    r.sensorIndex = (lastIndex h).getD (-1) := by
  refine run.invariant (I := fun q => q.1.sensorIndex = (lastIndex q.2).getD (-1)) rfl ?_
  rintro ⟨r, h⟩ action ⟨r', h'⟩ out before - taken
  obtain ⟨stepped, rfl⟩ := Machine.withGhost_step_eq_some.mp taken
  have performed : r.perform Address_DM action = (r', out) := Option.some.inj stepped
  have after : r' = (r.perform Address_DM action).1 := congrArg Prod.fst performed.symm
  subst after
  cases action with
  | hello sin_addr helloMsg => exact receiveHello_sensorIndex.trans before
  | registered => exact before
  | serve timedOut =>
      cases next : r.servedBy (.serve timedOut) with
      | none => exact (serve_of_nobody next).2.trans before
      | some served =>
          refine (serve_of_servedBy next).2.trans ?_
          show _ = (lastIndex (served :: h)).getD (-1)
          rw [indexFor, lastIndex, List.find?_cons]
          cases served.hasIndex with
          | true => rfl
          | false => exact before

/-! ### The answers -/

theorem newReg_address : (newReg sender helloMsg).address =
    if helloMsg.source.address = 0 then sender else helloMsg.source.address := by
  unfold newReg
  split_ifs <;> rfl

theorem newReg_port : (newReg sender helloMsg).port = helloMsg.source.port := by
  unfold newReg
  split_ifs <;> rfl

theorem sm_of_port (port : helloMsg.source.port = PORT_SM) :
    sm sender helloMsg = newReg sender helloMsg := by
  unfold sm newReg
  split_ifs <;> simp [← port]

/-- An `SDMAck` with nothing but registers behind it. -/
theorem acknowledges_iff {error : Int16} {destination : SDMComponentID} {others : List Reply}
    (registers : ∀ reply ∈ others, ∃ index c, reply = .register index c) :
    Acknowledges sender helloMsg (.ack error destination :: others) ↔
      SameEndpoint destination (newReg sender helloMsg) ∧ error.toInt =
        if (helloMsg.type = 'D' ∨ helloMsg.type = 'A') ∧
          (helloMsg.source.port = PORT_SM ∨ helloMsg.source.port = PORT_SPA1_MANAGER)
        then helloMsg.source.sensorID.toNat else 0 := by
  have only : ((.ack error destination :: others).filter fun reply => reply matches .ack ..) =
      [.ack error destination] := by
    rw [List.filter_cons_of_pos rfl, List.filter_eq_nil_iff.mpr]
    intro reply mem
    obtain ⟨index, c, rfl⟩ := registers reply mem
    exact Bool.false_ne_true
  unfold Acknowledges SameEndpoint
  rw [only, newReg_address, newReg_port]
  constructor
  · rintro ⟨_, _, same, address, port, status⟩
    cases same
    exact ⟨⟨address, port⟩, status⟩
  · rintro ⟨⟨address, port⟩, status⟩
    exact ⟨error, destination, rfl, address, port, status⟩

/-- The `SDMAck` to a device or an application. -/
theorem acknowledges_queued_iff (queued : helloMsg.type = 'D' ∨ helloMsg.type = 'A') :
    Acknowledges sender helloMsg [ackQueued sender helloMsg] ↔ PlainHello helloMsg := by
  have alone : ∀ reply ∈ ([] : List Reply), ∃ index c, reply = .register index c :=
    fun _ mem => absurd mem List.not_mem_nil
  unfold ackQueued PlainHello
  by_cases manager : helloMsg.source.port = PORT_SM
  · have other : helloMsg.source.port ≠ PORT_SPA1_MANAGER := by
      rw [manager]
      decide
    rw [if_neg fun both => both.1 manager, acknowledges_iff alone, sm_of_port manager,
      if_pos ⟨queued, Or.inl manager⟩, shortSensorID_toInt_iff]
    constructor
    · rintro ⟨-, fits⟩ -
      exact ⟨other, fun _ => fits⟩
    · intro plain
      exact ⟨⟨rfl, rfl⟩, (plain queued).2 manager⟩
  · by_cases spa1 : helloMsg.source.port = PORT_SPA1_MANAGER
    · rw [if_neg fun both => both.2 spa1, acknowledges_iff alone, sm, if_neg manager]
      constructor
      · rintro ⟨⟨-, port⟩, -⟩
        rw [newReg_port, spa1] at port
        exact absurd port (by decide)
      · intro plain
        exact absurd spa1 (plain queued).1
    · rw [if_pos ⟨manager, spa1⟩, acknowledges_iff alone,
        if_neg fun either => either.2.elim manager spa1]
      constructor
      · rintro - -
        exact ⟨spa1, fun port => absurd port manager⟩
      · intro _
        exact ⟨⟨rfl, rfl⟩, rfl⟩

/-- A Hello is acknowledged as it should be exactly when it is a plain one. -/
theorem receiveHello_iff : (helloMsg.type ∈ ['D', 'A', 'C'] →
      Acknowledges sender helloMsg (r.receiveHello sender helloMsg).2) ↔ PlainHello helloMsg := by
  unfold receiveHello
  split
  · next device =>
      have known : helloMsg.type ∈ ['D', 'A', 'C'] := by simp [device]
      rw [forall_prop_of_true known, acknowledges_queued_iff (Or.inl device)]
  · next application =>
      have known : helloMsg.type ∈ ['D', 'A', 'C'] := by simp [application]
      rw [forall_prop_of_true known, acknowledges_queued_iff (Or.inr application)]
  · next core =>
      have notQueued : ¬ (helloMsg.type = 'D' ∨ helloMsg.type = 'A') := core ▸ by decide
      refine iff_of_true (fun _ => (acknowledges_iff ?_).mpr ⟨⟨rfl, rfl⟩, ?_⟩)
        fun queued => absurd queued notQueued
      · intro reply mem
        exact ⟨_, _, List.mem_singleton.mp mem⟩
      · rw [if_neg fun both => notQueued both.1]
        rfl
  · next notDevice notApplication notCore =>
      refine iff_of_true (fun known => ?_) ?_
      · simp only [List.mem_cons, List.not_mem_nil, or_false] at known
        exact absurd known (not_or.mpr ⟨notDevice, not_or.mpr ⟨notApplication, notCore⟩⟩)
      · rintro (queued | queued)
        · exact absurd queued notDevice
        · exact absurd queued notApplication

/-- A component gets its `SDMRegister` as it should exactly when it is a plain one. -/
theorem registers_iff (run : Run Address_DM r h) :
    Registers served [.register (r.indexFor served) served.component] ↔ PlainServed h served := by
  have own : Registers served [.register (r.indexFor served) served.component] ↔
      Carries (r.indexFor served) served.component := by
    constructor
    · rintro ⟨_, _, same, -, carries⟩
      cases same
      exact carries
    · intro carries
      exact ⟨_, _, rfl, ⟨rfl, rfl⟩, carries⟩
  rw [own]
  unfold PlainServed indexFor
  cases served.hasIndex with
  | true =>
      rw [if_pos rfl, if_pos rfl, Carries, shortSensorID_toInt_iff, shortSensorID_eq_iff]
  | false =>
      rw [if_neg Bool.false_ne_true, if_neg Bool.false_ne_true, sensorIndex_of_run run]
      cases lastIndex h with
      | none => exact iff_of_true (Or.inr rfl) nofun
      | some index =>
          constructor
          · rintro carries _ same
            cases same
            exact carries
          · intro all
            exact all index rfl

/-- **The answers to components.** After any messages, the answer to a Hello or the
`SDMRegister` of the component that is served next is what it should be exactly when they
are plain ones. -/
theorem addressed_iff (run : Run Address_DM r h) (action : Action) :
    Addressed Address_DM r action (r.perform Address_DM action).2 ↔ Plain r h action := by
  cases action with
  | hello sin_addr helloMsg => exact receiveHello_iff
  | registered => exact iff_of_true rfl nofun
  | serve timedOut =>
      show (match r.servedBy (.serve timedOut) with
        | some served => Registers served (r.serve timedOut).2
        | none => (r.serve timedOut).2 = []) ↔
          ∀ served, r.servedBy (.serve timedOut) = some served → PlainServed h served
      cases next : r.servedBy (.serve timedOut) with
      | none => exact iff_of_true (serve_of_nobody next).1 nofun
      | some served =>
          show Registers served (r.serve timedOut).2 ↔ _
          rw [(serve_of_servedBy next).1, registers_iff run]
          constructor
          · rintro plain _ same
            cases same
            exact plain
          · intro all
            exact all served rfl

/-! ### Two components -/

theorem Run.next (run : Run Address_DM r h) (action : Action) :
    Run Address_DM (r.perform Address_DM action).1 ((r.servedBy action).toList ++ h) :=
  run.withGhost_step trivial rfl

theorem run_start : Run Address_DM start [] := .start

/-- The Sensor Manager, an application that has no sensor id, and the SPA-1 manager. -/
def sensorManager : SDMHello := ⟨⟨5, 1, PORT_SM⟩, 'D'⟩

def helloApplication : SDMHello := ⟨⟨0, 0, 6000⟩, 'A'⟩

def spa1Manager : SDMHello := ⟨⟨5, 1, PORT_SPA1_MANAGER⟩, 'D'⟩

/-- The Sensor Manager gets its own index. -/
theorem addressed_sensorManager :
    Addressed 7 ((start.perform 7 (.hello 1 sensorManager)).1) (.serve true)
      (((start.perform 7 (.hello 1 sensorManager)).1).perform 7 (.serve true)).2 := by
  refine (addressed_iff (run_start.next _) _).mpr fun served next => ?_
  obtain rfl : Served.device sensorManager.source = served := Option.some.inj next
  rw [PlainServed, if_pos (by decide)]
  exact Or.inl (by decide)

/-- After the Sensor Manager an application without a sensor id is told the Sensor Manager's
index. The SPA-1 manager's acknowledgement goes to the address 0 and the port 0. -/
theorem not_addressed :
    (∃ r h, Run 7 r h ∧ ¬ Addressed 7 r (.serve true) (r.perform 7 (.serve true)).2) ∧
      ¬ Addressed 7 start (.hello 1 spa1Manager) (start.perform 7 (.hello 1 spa1Manager)).2 := by
  constructor
  · refine ⟨_, _, ((run_start.next (.hello 1 sensorManager)).next (.serve true)).next
      (.hello 2 helloApplication), ?_⟩
    rintro ⟨index, destination, sent, -, carries⟩
    obtain ⟨rfl, rfl⟩ : index = 5 ∧ destination = ⟨0, 2, 6000⟩ := by
      cases sent
      exact ⟨rfl, rfl⟩
    exact absurd carries (by decide)
  · intro answered
    obtain ⟨error, destination, sent, address, -, -⟩ := answered (by decide)
    cases sent
    exact absurd address (by decide)

end RegistrationHandler

end Sdm
