import Sdm.Lib.History
import Sdm.Lib.Machine
import Sdm.Spa1.Asim

/-!
Registration of an ASIM with the Data Manager.

The thread `regAsimWithSdm` sends a Hello and the xTEDS, and in between polls the registration state
of its ASIM. The listener sets that state when a message of the Data Manager arrives. Neither looks
at the state that it overwrites, and the thread sets the state for a message after it has sent it.

* `inv_next`: what the history of a registration says about the state.
* `registration_iff`: when no message is lost and no state overwritten by an earlier one.
-/

namespace Sdm

open Lib

/-- Where `regAsimWithSdm` is. -/
inductive RegThread where
  | sendHello
  /-- The Hello is sent, its state is not set. -/
  | setSentHello
  | pollAck
  /-- In the body of the first loop. -/
  | resendHello
  | pollReg
  | sendXTEDS
  /-- The xTEDS is sent, its state is not set. -/
  | setSentXTEDS
  | pollID
  | publish
  | finished
  deriving DecidableEq, Repr

/-- A message of the Data Manager for the ASIM. -/
inductive Answer where
  | ack
  | register
  | id (sensorID : UInt32)
  deriving DecidableEq, Repr

/-- The state that the handler of the message sets. -/
def Answer.state : Answer → RegistrationState
  | .ack => .RECVD_ACK
  | .register => .RECVD_REG
  | .id _ => .RECVD_ID

theorem Answer.state_pos (m : Answer) : 0 < m.state.value := by
  cases m <;> exact Nat.succ_pos _

inductive RegEvent where
  | sentHello
  | sentXTEDS
  | published (sensorID : UInt32)
  | set (state : RegistrationState)
  | polledReg (found : Bool)
  | polledID (found : Bool)
  /-- The handler of the message has set the state. -/
  | taken (m : Answer)
  /-- It has returned. -/
  | handled (m : Answer)
  deriving DecidableEq, Repr

/-- A step of `regAsimWithSdm`. -/
def regAsimWithSdm (timedOut : Bool) (asim : Spa1Asim) :
    RegThread → RegThread × Spa1Asim × List RegEvent
  | .sendHello => (.setSentHello, asim, [.sentHello])
  | .setSentHello => (.pollAck, asim.setRegState .SENT_HELLO, [.set .SENT_HELLO])
  | .pollAck => (if asim.regState = .SENT_HELLO then .resendHello else .pollReg, asim, [])
  | .resendHello => (.pollAck, asim, if timedOut then [.sentHello] else [])
  | .pollReg =>
      (if asim.regState = .RECVD_REG then .sendXTEDS else .pollReg, asim,
        [.polledReg (asim.regState = .RECVD_REG)])
  | .sendXTEDS => (.setSentXTEDS, asim, [.sentXTEDS])
  | .setSentXTEDS => (.pollID, asim.setRegState .SENT_XTEDS, [.set .SENT_XTEDS])
  | .pollID =>
      (if asim.regState = .RECVD_ID then .publish else .pollID, asim,
        [.polledID (asim.regState = .RECVD_ID)])
  | .publish => (.finished, asim, [.published asim.sensorId])
  | .finished => (.finished, asim, [])

/-- The thread and the listener with their ASIM, and the Data Manager. -/
structure RegSystem where
  asim : Spa1Asim
  thread : RegThread
  /-- The SDMID whose handler has set the state, but not the sensor id. -/
  listener : Option UInt32
  /-- The messages that the Data Manager has sent. -/
  channel : List Answer
  acked : Bool
  asked : Bool
  confirmed : Option UInt32
  history : List RegEvent

namespace RegSystem

def start (asim : Spa1Asim) : RegSystem where
  asim := asim
  thread := .sendHello
  listener := none
  channel := []
  acked := false
  asked := false
  confirmed := none
  history := []

def stepThread (timedOut : Bool) (s : RegSystem) : RegSystem :=
  let (thread, asim, events) := regAsimWithSdm timedOut s.asim s.thread
  { s with thread := thread, asim := asim, history := s.history ++ events }

/-- `setRegState` in the handler of a message. -/
def take (m : Answer) (s : RegSystem) : RegSystem :=
  { s with
    asim := s.asim.setRegState m.state
    history := s.history ++ [.taken m] ++ [.set m.state] }

def handleAckMsg (s : RegSystem) : RegSystem :=
  { s.take .ack with history := (s.take .ack).history ++ [.handled .ack] }

def handleRegisterMsg (s : RegSystem) : RegSystem :=
  { s.take .register with history := (s.take .register).history ++ [.handled .register] }

/-- `handleIdMsg` up to `setRegState`. -/
def handleIdMsg (sensorID : UInt32) (s : RegSystem) : RegSystem :=
  { s.take (.id sensorID) with listener := some sensorID }

/-- The rest of `handleIdMsg`. -/
def finishIdMsg (sensorID : UInt32) (s : RegSystem) : RegSystem :=
  { s with
    asim := s.asim.setSensorId sensorID
    listener := none
    history := s.history ++ [.handled (.id sensorID)] }

/-- A step of the listener. -/
def listen (s : RegSystem) : RegSystem :=
  match s.listener, s.channel with
  | some sensorID, _ => s.finishIdMsg sensorID
  | none, [] => s
  | none, .ack :: rest => handleAckMsg { s with channel := rest }
  | none, .register :: rest => handleRegisterMsg { s with channel := rest }
  | none, .id sensorID :: rest => handleIdMsg sensorID { s with channel := rest }

inductive Action where
  | thread (timedOut : Bool)
  | listen
  /-- The Data Manager sends a message. -/
  | answer (m : Answer)
  deriving DecidableEq, Repr

/-- The Data Manager answers a Hello with an SDMAck, which it may repeat, and then an SDMRegister,
and the xTEDS with an SDMID. -/
def answer (s : RegSystem) : Answer → RegSystem
  | .ack =>
      if .sentHello ∈ s.history then { s with channel := s.channel ++ [.ack], acked := true } else s
  | .register =>
      if s.acked ∧ ¬ s.asked then { s with channel := s.channel ++ [.register], asked := true }
      else s
  | .id sensorID =>
      if .sentXTEDS ∈ s.history ∧ s.confirmed = none then
        { s with channel := s.channel ++ [.id sensorID], confirmed := some sensorID }
      else s

def next (s : RegSystem) : Action → RegSystem
  | .thread timedOut => s.stepThread timedOut
  | .listen => s.listen
  | .answer m => s.answer m

/-! ### What is asked of a registration -/

/-- The event is right after those before it. -/
def Right (before : List RegEvent) : RegEvent → Prop
  | .polledReg found => .handled .register ∈ before → found = true
  | .polledID found => ∀ sensorID, .handled (.id sensorID) ∈ before → found = true
  | .published sensorID => .taken (.id sensorID) ∈ before
  | .set state => ∀ earlier, .set earlier ∈ before → earlier.value ≤ state.value
  | _ => True

/-- No message is lost: the polls for an SDMRegister and an SDMID succeed when it was handled, the
notification carries the sensor id of the SDMID, and no state is overwritten by an earlier one. -/
structure Registers (s : RegSystem) : Prop where
  right : Justified Right s.history
  sends : .polledReg true ∈ s.history → s.thread = .sendXTEDS ∨ .sentXTEDS ∈ s.history

/-- No window is hit: the state for the Hello is set before an answer to it is handled, and the
state for the xTEDS before the SDMID is. No SDMAck is handled after the SDMRegister. The thread does
not publish while the handler of the SDMID is about to set the sensor id. -/
def InTime (s : RegSystem) : Action → Prop
  | .thread _ =>
      match s.thread with
      | .setSentHello => ∀ m, .taken m ∉ s.history
      | .setSentXTEDS => ∀ sensorID, .taken (.id sensorID) ∉ s.history
      | .publish => ∀ sensorID, s.listener = some sensorID → s.asim.sensorId = sensorID
      | _ => True
  | .listen => s.listener = none → s.channel.head? = some .ack → .taken .register ∉ s.history
  | .answer _ => True

/-! ### The invariant -/

end RegSystem

/-- How far the thread is. -/
def RegThread.rank : RegThread → Nat
  | .sendHello => 0
  | .setSentHello => 1
  | .pollAck => 2
  | .resendHello => 2
  | .pollReg => 3
  | .sendXTEDS => 4
  | .setSentXTEDS => 5
  | .pollID => 6
  | .publish => 7
  | .finished => 8

namespace RegSystem

variable {s : RegSystem} {m : Answer} {timedOut : Bool} {a : Action}

/-- What the Data Manager has sent, and the listener has taken. -/
structure Delivery (s : RegSystem) : Prop where
  unasked : s.asked = false → .register ∉ s.channel ∧ .taken .register ∉ s.history
  once : .register ∈ s.channel → .taken .register ∉ s.history
  one : s.channel.count .register ≤ 1
  confirmed : ∀ sensorID, s.confirmed = some sensorID → .sentXTEDS ∈ s.history
  sentID : ∀ sensorID, .id sensorID ∈ s.channel → s.confirmed = some sensorID
  takenID : ∀ sensorID, .taken (.id sensorID) ∈ s.history → s.confirmed = some sensorID
  listening : ∀ sensorID, s.listener = some sensorID → .taken (.id sensorID) ∈ s.history
  listened : s.listener = none →
    ∀ sensorID, .taken (.id sensorID) ∈ s.history → s.asim.sensorId = sensorID

/-- What the history says about the state, in a run in which no window was hit. -/
structure Inv (s : RegSystem) : Prop where
  registers : s.Registers
  le : ∀ x, .set x ∈ s.history → x.value ≤ s.asim.regState.value
  began : 2 ≤ s.thread.rank → .set s.asim.regState ∈ s.history
  setSentHello : .set .SENT_HELLO ∈ s.history → 2 ≤ s.thread.rank
  setAck : .set .RECVD_ACK ∈ s.history → .taken .ack ∈ s.history
  setReg : .set .RECVD_REG ∈ s.history → .taken .register ∈ s.history
  setSentXTEDS : .set .SENT_XTEDS ∈ s.history → 6 ≤ s.thread.rank
  setID : .set .RECVD_ID ∈ s.history → ∃ sensorID, .taken (.id sensorID) ∈ s.history
  taken : ∀ m, .taken m ∈ s.history → .set m.state ∈ s.history
  handled : ∀ m, .handled m ∈ s.history → .taken m ∈ s.history
  sentXTEDS : .sentXTEDS ∈ s.history → 5 ≤ s.thread.rank
  foundReg : 4 ≤ s.thread.rank → .taken .register ∈ s.history
  foundID : 7 ≤ s.thread.rank → ∃ sensorID, .taken (.id sensorID) ∈ s.history
  delivery : s.Delivery

theorem inv_start (asim : Spa1Asim) : (start asim).Inv := by
  constructor <;> simp [start, RegThread.rank]
  · exact ⟨justified_nil, nofun⟩
  · constructor <;> simp

theorem inv_answer (inv : s.Inv) (m : Answer) : (s.answer m).Inv := by
  have delivery := inv.delivery
  have registers := inv.registers
  cases m with
  | ack =>
      rw [answer]
      split
      · refine { inv with registers := ⟨registers.right, registers.sends⟩, delivery := ?_ }
        exact { delivery with
          unasked := by grind [delivery.unasked]
          once := by grind [delivery.once]
          one := by grind [delivery.one]
          sentID := by grind [delivery.sentID] }
      · exact inv
  | register =>
      rw [answer]
      split
      · rename_i may
        have unasked := delivery.unasked (Bool.eq_false_iff.mpr may.2)
        refine { inv with registers := ⟨registers.right, registers.sends⟩, delivery := ?_ }
        exact { delivery with
          unasked := nofun
          once := fun _ => unasked.2
          one := by simp [List.count_eq_zero_of_not_mem unasked.1]
          sentID := by grind [delivery.sentID] }
      · exact inv
  | id sensorID =>
      rw [answer]
      split
      · rename_i may
        have unconfirmed (other : UInt32) (there : s.confirmed = some other) : False :=
          nomatch may.2.symm.trans there
        refine { inv with registers := ⟨registers.right, registers.sends⟩, delivery := ?_ }
        exact { delivery with
          unasked := by grind [delivery.unasked]
          once := by grind [delivery.once]
          one := by grind [delivery.one]
          confirmed := fun _ _ => may.1
          sentID := by grind [delivery.sentID]
          takenID := fun other there => (unconfirmed other (delivery.takenID other there)).elim }
      · exact inv

/-- A step of the thread delivers nothing. -/
theorem Delivery.thread (delivery : s.Delivery) {asim : Spa1Asim} {history : List RegEvent}
    (thread : RegThread) (same : asim.sensorId = s.asim.sensorId)
    (taken : ∀ m, .taken m ∈ history ↔ .taken m ∈ s.history)
    (sent : .sentXTEDS ∈ s.history → .sentXTEDS ∈ history) :
    { s with thread := thread, asim := asim, history := history }.Delivery where
  unasked not := (delivery.unasked not).imp_right (mt (taken _).mp)
  once there := mt (taken _).mp (delivery.once there)
  one := delivery.one
  confirmed sensorID there := sent (delivery.confirmed sensorID there)
  sentID := delivery.sentID
  takenID sensorID there := delivery.takenID sensorID ((taken _).mp there)
  listening sensorID there := (taken _).mpr (delivery.listening sensorID there)
  listened idle sensorID there := same.trans (delivery.listened idle sensorID ((taken _).mp there))

/-- Before the thread has set a state for the xTEDS and before an SDMID, an SDMRegister that was
taken is the last state. -/
theorem Inv.regState_of_register (inv : s.Inv) (began : 2 ≤ s.thread.rank)
    (before : s.thread.rank < 5)
    (there : .taken .register ∈ s.history) : s.asim.regState = .RECVD_REG := by
  have last := inv.began began
  have least : 2 ≤ s.asim.regState.value := inv.le _ (inv.taken _ there)
  cases state : s.asim.regState with
  | SENT_HELLO => simp [state, RegistrationState.value] at least
  | RECVD_ACK => simp [state, RegistrationState.value] at least
  | RECVD_REG => rfl
  | SENT_XTEDS =>
      have := inv.setSentXTEDS (state ▸ last)
      omega
  | RECVD_ID =>
      obtain ⟨sensorID, taken⟩ := inv.setID (state ▸ last)
      have := inv.sentXTEDS (inv.delivery.confirmed _ (inv.delivery.takenID _ taken))
      omega

/-- An SDMID that was taken is the last state. -/
theorem Inv.regState_of_id (inv : s.Inv) {sensorID : UInt32}
    (there : .taken (.id sensorID) ∈ s.history) : s.asim.regState = .RECVD_ID := by
  have least : 4 ≤ s.asim.regState.value := inv.le _ (inv.taken _ there)
  cases state : s.asim.regState <;> simp_all [RegistrationState.value]

/-- An event that the invariant does not mention. -/
def quiet : RegEvent → Prop
  | .sentHello | .published _ | .polledReg _ | .polledID _ => True
  | _ => False

theorem mem_append_quiet {h es : List RegEvent} {e : RegEvent} (all : ∀ e ∈ es, quiet e)
    (loud : ¬ quiet e) : e ∈ h ++ es ↔ e ∈ h := by
  rw [List.mem_append, or_iff_left fun mem => loud (all e mem)]

/-- A step of the thread to where the same of what the invariant asks has been done. -/
def Onward (thread thread' : RegThread) : Prop :=
  thread.rank ≤ thread'.rank ∧ (2 ≤ thread'.rank → 2 ≤ thread.rank) ∧ thread ≠ .sendXTEDS

instance (thread thread' : RegThread) : Decidable (Onward thread thread') :=
  inferInstanceAs (Decidable (_ ∧ _))

/-- The thread goes on without a new state. -/
theorem Inv.goOn (inv : s.Inv) {thread thread' : RegThread} (here : s.thread = thread)
    (onward : Onward thread thread') {es : List RegEvent} (all : ∀ e ∈ es, quiet e)
    (right : Justified Right (s.history ++ es))
    (sends : .polledReg true ∈ es → thread' = .sendXTEDS)
    (foundReg : 4 ≤ thread'.rank → .taken .register ∈ s.history)
    (foundID : 7 ≤ thread'.rank → ∃ sensorID, .taken (.id sensorID) ∈ s.history) :
    { s with thread := thread', history := s.history ++ es }.Inv := by
  obtain ⟨onward, started, elsewhere⟩ := onward
  rw [← here] at onward started elsewhere
  have set (x : RegistrationState) := mem_append_quiet (h := s.history) (e := .set x) all id
  have taken (m : Answer) := mem_append_quiet (h := s.history) (e := .taken m) all id
  have handled (m : Answer) := mem_append_quiet (h := s.history) (e := .handled m) all id
  have sent := mem_append_quiet (h := s.history) (e := .sentXTEDS) all id
  exact {
    registers := ⟨right, fun polled => (List.mem_append.mp polled).elim
      (fun before => .inr (sent.mpr ((inv.registers.sends before).resolve_left elsewhere)))
      fun last => .inl (sends last)⟩
    le := fun x there => inv.le x ((set x).mp there)
    began := fun far => (set _).mpr (inv.began (started far))
    setSentHello := fun there => (inv.setSentHello ((set _).mp there)).trans onward
    setAck := fun there => (taken _).mpr (inv.setAck ((set _).mp there))
    setReg := fun there => (taken _).mpr (inv.setReg ((set _).mp there))
    setSentXTEDS := fun there => (inv.setSentXTEDS ((set _).mp there)).trans onward
    setID := fun there => (inv.setID ((set _).mp there)).imp fun _ => (taken _).mpr
    taken := fun m there => (set _).mpr (inv.taken m ((taken m).mp there))
    handled := fun m there => (taken m).mpr (inv.handled m ((handled m).mp there))
    sentXTEDS := fun there => (inv.sentXTEDS (sent.mp there)).trans onward
    foundReg := fun far => (taken _).mpr (foundReg far)
    foundID := fun far => (foundID far).imp fun _ => (taken _).mpr
    delivery := inv.delivery.thread _ rfl taken sent.mpr }

/-- The thread goes on without an event. -/
theorem Inv.goOn_nil (inv : s.Inv) {thread thread' : RegThread} (here : s.thread = thread)
    (onward : Onward thread thread')
    (found : (4 ≤ thread'.rank → 4 ≤ thread.rank) ∧ (7 ≤ thread'.rank → 7 ≤ thread.rank)) :
    { s with thread := thread', history := s.history ++ [] }.Inv := by
  rw [← here] at found
  refine inv.goOn here onward nofun ?_ nofun (fun far => inv.foundReg (found.1 far))
    fun far => inv.foundID (found.2 far)
  rw [List.append_nil]
  exact inv.registers.right

/-- The thread goes on with one event. -/
theorem Inv.goOn_one (inv : s.Inv) {thread : RegThread} (here : s.thread = thread)
    (thread' : RegThread) (onward : Onward thread thread') (e : RegEvent) (one : quiet e)
    (right : Right s.history e) (sends : e = .polledReg true → thread' = .sendXTEDS)
    (foundReg : 4 ≤ thread'.rank → .taken .register ∈ s.history)
    (foundID : 7 ≤ thread'.rank → ∃ sensorID, .taken (.id sensorID) ∈ s.history) :
    { s with thread := thread', history := s.history ++ [e] }.Inv := by
  refine inv.goOn here onward ?_ (justified_append.mpr ⟨inv.registers.right, right⟩) ?_ foundReg
    foundID
  · simpa only [List.mem_singleton, forall_eq] using one
  · exact fun last => sends (List.mem_singleton.mp last).symm

/-- The thread sets a state that is not before one that was set. -/
theorem Inv.setState (inv : s.Inv) {thread : RegThread} (here : s.thread = thread)
    (thread' : RegThread) (onward : thread.rank ≤ thread'.rank ∧ 2 ≤ thread'.rank ∧
      thread'.rank < 7 ∧
      (4 ≤ thread'.rank → 4 ≤ thread.rank) ∧ thread ≠ .sendXTEDS)
    (state : RegistrationState)
    (own : state = .SENT_HELLO ∨ state = .SENT_XTEDS ∧ 6 ≤ thread'.rank)
    (latest : ∀ x, .set x ∈ s.history → x.value ≤ state.value) :
    { s with
      thread := thread'
      asim := s.asim.setRegState state
      history := s.history ++ [RegEvent.set state] }.Inv := by
  obtain ⟨onward, began, before, foundReg, elsewhere⟩ := onward
  rw [← here] at onward foundReg elsewhere
  have set (x : RegistrationState) :
      RegEvent.set x ∈ s.history ++ [.set state] ↔ .set x ∈ s.history ∨ x = state := by simp
  have taken (m : Answer) : .taken m ∈ s.history ++ [.set state] ↔ .taken m ∈ s.history := by simp
  have handled (m : Answer) : .handled m ∈ s.history ++ [.set state] ↔ .handled m ∈ s.history := by
    simp
  have sent : .sentXTEDS ∈ s.history ++ [.set state] ↔ .sentXTEDS ∈ s.history := by simp
  have polled : .polledReg true ∈ s.history ++ [.set state] ↔ .polledReg true ∈ s.history := by simp
  have other {x : RegistrationState} (there : RegEvent.set x ∈ s.history ++ [.set state])
      (hello : x ≠ .SENT_HELLO) (xTEDS : x ≠ .SENT_XTEDS) : .set x ∈ s.history := by
    refine ((set x).mp there).resolve_right fun same => ?_
    rcases own with first | ⟨second, -⟩
    · exact hello (same.trans first)
    · exact xTEDS (same.trans second)
  exact {
    registers := ⟨justified_append.mpr ⟨inv.registers.right, latest⟩, fun found =>
      .inr (sent.mpr ((inv.registers.sends (polled.mp found)).resolve_left elsewhere))⟩
    le := fun x there => ((set x).mp there).elim (latest x) fun same => same ▸ Nat.le_refl _
    began := fun _ => (set _).mpr (.inr rfl)
    setSentHello := fun _ => began
    setAck := fun there => (taken _).mpr (inv.setAck (other there nofun nofun))
    setReg := fun there => (taken _).mpr (inv.setReg (other there nofun nofun))
    setSentXTEDS := fun there => ((set _).mp there).elim
      (fun there => (inv.setSentXTEDS there).trans onward)
      fun same => (own.resolve_left fun hello => nomatch same.trans hello).2
    setID := fun there => (inv.setID (other there nofun nofun)).imp fun _ => (taken _).mpr
    taken := fun m there => (set _).mpr (.inl (inv.taken m ((taken m).mp there)))
    handled := fun m there => (taken m).mpr (inv.handled m ((handled m).mp there))
    sentXTEDS := fun there => (inv.sentXTEDS (sent.mp there)).trans onward
    foundReg := fun far => (taken _).mpr (inv.foundReg (foundReg far))
    foundID := fun far => absurd far (Nat.not_le.mpr before)
    delivery := inv.delivery.thread _ rfl taken sent.mpr }

/-- The thread sends the xTEDS. -/
theorem Inv.sendXTEDS (inv : s.Inv) (here : s.thread = .sendXTEDS) :
    { s with thread := .setSentXTEDS, history := s.history ++ [RegEvent.sentXTEDS] }.Inv := by
  have set (x : RegistrationState) : .set x ∈ s.history ++ [.sentXTEDS] ↔ .set x ∈ s.history := by
    simp
  have taken (m : Answer) : .taken m ∈ s.history ++ [.sentXTEDS] ↔ .taken m ∈ s.history := by simp
  have handled (m : Answer) : .handled m ∈ s.history ++ [.sentXTEDS] ↔ .handled m ∈ s.history := by
    simp
  have sent : RegEvent.sentXTEDS ∈ s.history ++ [.sentXTEDS] := by simp
  have rank : s.thread.rank = 4 := by rw [here]; rfl
  have begun : 2 ≤ RegThread.setSentXTEDS.rank := by decide
  have early : ¬ 7 ≤ RegThread.setSentXTEDS.rank := by decide
  exact {
    registers := ⟨justified_append.mpr ⟨inv.registers.right, trivial⟩, fun _ => .inr sent⟩
    le := fun x there => inv.le x ((set x).mp there)
    began := fun _ => (set _).mpr (inv.began (by omega))
    setSentHello := fun _ => begun
    setAck := fun there => (taken _).mpr (inv.setAck ((set _).mp there))
    setReg := fun there => (taken _).mpr (inv.setReg ((set _).mp there))
    setSentXTEDS := fun there => absurd (inv.setSentXTEDS ((set _).mp there)) (by omega)
    setID := fun there => (inv.setID ((set _).mp there)).imp fun _ => (taken _).mpr
    taken := fun m there => (set _).mpr (inv.taken m ((taken m).mp there))
    handled := fun m there => (taken m).mpr (inv.handled m ((handled m).mp there))
    sentXTEDS := fun _ => Nat.le_refl _
    foundReg := fun _ => (taken _).mpr (inv.foundReg (by omega))
    foundID := fun far => absurd far early
    delivery := inv.delivery.thread _ rfl taken fun _ => sent }

/-- Nothing is set before an answer is taken or the thread has begun. -/
theorem Inv.notMem_set (inv : s.Inv) (here : s.thread.rank < 2) (none : ∀ m, .taken m ∉ s.history)
    (x : RegistrationState) : .set x ∉ s.history := by
  intro there
  cases x with
  | SENT_HELLO => exact absurd (inv.setSentHello there) (by omega)
  | RECVD_ACK => exact none _ (inv.setAck there)
  | RECVD_REG => exact none _ (inv.setReg there)
  | SENT_XTEDS => exact absurd (inv.setSentXTEDS there) (by omega)
  | RECVD_ID => exact (inv.setID there).elim fun _ => none _

/-- Before an SDMID no state is later than `SENT_XTEDS`. -/
theorem Inv.set_le (inv : s.Inv) (none : ∀ sensorID, .taken (.id sensorID) ∉ s.history)
    (x : RegistrationState) (there : .set x ∈ s.history) : x.value ≤ 3 := by
  cases x with
  | RECVD_ID => exact (inv.setID there).elim fun sensorID taken => absurd taken (none sensorID)
  | _ => decide

theorem inv_stepThread (inv : s.Inv) (inTime : s.InTime (.thread timedOut)) :
    (s.stepThread timedOut).Inv := by
  rw [InTime] at inTime
  rw [stepThread]
  cases here : s.thread with
  | sendHello =>
      exact inv.goOn_one here _ (by decide) .sentHello trivial trivial nofun
        (fun far => absurd far (by decide)) fun far => absurd far (by decide)
  | setSentHello =>
      rw [here] at inTime
      have none := inv.notMem_set (by rw [here]; decide) inTime
      exact inv.setState here .pollAck (by decide) .SENT_HELLO (.inl rfl) fun x there =>
        absurd there (none x)
  | pollAck =>
      simp only [regAsimWithSdm]
      split
      · exact inv.goOn_nil here (by decide) (by decide)
      · exact inv.goOn_nil here (by decide) (by decide)
  | resendHello =>
      cases timedOut with
      | false => exact inv.goOn_nil here (by decide) (by decide)
      | true =>
          exact inv.goOn_one here .pollAck (by decide) .sentHello trivial trivial nofun
            (fun far => absurd far (by decide)) fun far => absurd far (by decide)
  | pollReg =>
      have rank : s.thread.rank = 3 := by rw [here]; rfl
      have right : Right s.history (.polledReg (s.asim.regState = .RECVD_REG)) := fun there =>
        decide_eq_true (inv.regState_of_register (by omega) (by omega) (inv.handled _ there))
      simp only [regAsimWithSdm]
      split
      · rename_i found
        have set := inv.setReg (found ▸ inv.began (by omega))
        exact inv.goOn_one here _ (by decide) _ trivial right (fun _ => rfl) (fun _ => set)
          fun far => absurd far (by decide)
      · rename_i lost
        exact inv.goOn_one here _ (by decide) _ trivial right (by simp [lost])
          (fun far => absurd far (by decide)) fun far => absurd far (by decide)
  | sendXTEDS => exact inv.sendXTEDS here
  | setSentXTEDS =>
      rw [here] at inTime
      exact inv.setState here .pollID (by decide) .SENT_XTEDS (.inr ⟨rfl, by decide⟩)
        (inv.set_le inTime)
  | pollID =>
      have rank : s.thread.rank = 6 := by rw [here]; rfl
      have right : Right s.history (.polledID (s.asim.regState = .RECVD_ID)) := fun _ there =>
        decide_eq_true (inv.regState_of_id (inv.handled _ there))
      have reg := inv.foundReg (by omega)
      simp only [regAsimWithSdm]
      split
      · rename_i found
        have set := inv.setID (found ▸ inv.began (by omega))
        exact inv.goOn_one here _ (by decide) _ trivial right nofun (fun _ => reg) fun _ => set
      · exact inv.goOn_one here _ (by decide) _ trivial right nofun (fun _ => reg)
          fun far => absurd far (by decide)
  | publish =>
      have rank : s.thread.rank = 7 := by rw [here]; rfl
      rw [here] at inTime
      obtain ⟨sensorID, taken⟩ := inv.foundID (by omega)
      have right : Right s.history (.published s.asim.sensorId) := by
        cases listener : s.listener with
        | none => exact inv.delivery.listened listener _ taken ▸ taken
        | some sensorID => exact inTime _ listener ▸ inv.delivery.listening _ listener
      exact inv.goOn_one here .finished (by decide) _ trivial right nofun
        (fun _ => inv.foundReg (by omega)) fun _ => ⟨sensorID, taken⟩
  | finished => exact inv.goOn_nil here (by decide) (by decide)

/-- The handler of a message sets its state. -/
theorem Inv.take (inv : s.Inv) {rest : List Answer} (first : s.channel = m :: rest)
    (latest : ∀ x, .set x ∈ s.history → x.value ≤ m.state.value) (listener : Option UInt32)
    (listening : ∀ sensorID, m = .id sensorID ↔ listener = some sensorID)
    (idle : s.listener = none) :
    { s.take m with channel := rest, listener := listener }.Inv := by
  have delivery := inv.delivery
  have set (x : RegistrationState) : RegEvent.set x ∈ s.history ++ [.taken m] ++ [.set m.state] ↔
      .set x ∈ s.history ∨ x = m.state := by simp
  have taken (m' : Answer) : RegEvent.taken m' ∈ s.history ++ [.taken m] ++ [.set m.state] ↔
      .taken m' ∈ s.history ∨ m' = m := by simp
  have handled (m' : Answer) : RegEvent.handled m' ∈ s.history ++ [.taken m] ++ [.set m.state] ↔
      .handled m' ∈ s.history := by simp
  have sent : RegEvent.sentXTEDS ∈ s.history ++ [.taken m] ++ [.set m.state] ↔
      .sentXTEDS ∈ s.history := by simp
  have polled : RegEvent.polledReg true ∈ s.history ++ [.taken m] ++ [.set m.state] ↔
      .polledReg true ∈ s.history := by simp
  have right : Justified Right (s.history ++ [.taken m] ++ [.set m.state]) :=
    justified_append.mpr ⟨justified_append.mpr ⟨inv.registers.right, trivial⟩,
      fun x there => latest x (by simpa using there)⟩
  have sentID (sensorID : UInt32) (same : m = .id sensorID) : s.confirmed = some sensorID :=
    delivery.sentID _ (first ▸ same ▸ List.mem_cons_self)
  have mem (m' : Answer) (there : m' ∈ rest) : m' ∈ s.channel :=
    first ▸ List.mem_cons_of_mem m there
  have front : m ∈ s.channel := first ▸ List.mem_cons_self
  have one := delivery.one
  rw [first, List.count_cons] at one
  exact {
    registers := ⟨right, fun found => (inv.registers.sends (polled.mp found)).imp_right sent.mpr⟩
    le := fun x there => ((set x).mp there).elim (latest x) fun same => same ▸ Nat.le_refl _
    began := fun _ => (set _).mpr (.inr rfl)
    setSentHello := fun there => ((set _).mp there).elim inv.setSentHello fun same => by
      cases m <;> cases same
    setAck := fun there => (taken _).mpr (((set _).mp there).imp inv.setAck fun same => by
      cases m <;> trivial)
    setReg := fun there => (taken _).mpr (((set _).mp there).imp inv.setReg fun same => by
      cases m <;> trivial)
    setSentXTEDS := fun there => ((set _).mp there).elim inv.setSentXTEDS fun same => by
      cases m <;> cases same
    setID := fun there => ((set _).mp there).elim
      (fun there => (inv.setID there).imp fun _ there => (taken _).mpr (.inl there)) fun same => by
        cases m with
        | id sensorID => exact ⟨sensorID, (taken _).mpr (.inr rfl)⟩
        | _ => cases same
    taken := fun m' there => (set _).mpr (((taken m').mp there).imp (inv.taken m') (congrArg _))
    handled := fun m' there => (taken m').mpr (.inl (inv.handled m' ((handled m').mp there)))
    sentXTEDS := fun there => inv.sentXTEDS (sent.mp there)
    foundReg := fun far => (taken _).mpr (.inl (inv.foundReg far))
    foundID := fun far => (inv.foundID far).imp fun _ there => (taken _).mpr (.inl there)
    delivery := {
      unasked := fun not => ⟨fun there => (delivery.unasked not).1 (mem _ there), fun there =>
        ((taken _).mp there).elim (delivery.unasked not).2 fun same =>
          (delivery.unasked not).1 (same ▸ front)⟩
      once := fun there again => ((taken _).mp again).elim
        (delivery.once (mem _ there)) fun same => by
        rw [← same, if_pos BEq.rfl] at one
        have more : 0 < rest.count .register := List.count_pos_iff.mpr there
        omega
      one := (Nat.le_add_right _ _).trans one
      confirmed := fun sensorID there => sent.mpr (delivery.confirmed sensorID there)
      sentID := fun sensorID there => delivery.sentID sensorID (mem _ there)
      takenID := fun sensorID there => ((taken _).mp there).elim (delivery.takenID sensorID)
        fun same => delivery.sentID sensorID (same ▸ front)
      listening := fun sensorID there => (taken _).mpr (.inr ((listening sensorID).mpr there).symm)
      listened := fun quiet sensorID there => ((taken _).mp there).elim
        (delivery.listened idle sensorID) fun same =>
          nomatch quiet.symm.trans ((listening sensorID).mp same.symm) } }

/-- A handler returns. -/
theorem Inv.handle (inv : s.Inv) (taken : .taken m ∈ s.history) :
    { s with history := s.history ++ [RegEvent.handled m] }.Inv := by
  have set (x : RegistrationState) : RegEvent.set x ∈ s.history ++ [.handled m] ↔
      .set x ∈ s.history := by simp
  have took (m' : Answer) : RegEvent.taken m' ∈ s.history ++ [.handled m] ↔
      .taken m' ∈ s.history := by simp
  have handled (m' : Answer) : RegEvent.handled m' ∈ s.history ++ [.handled m] ↔
      .handled m' ∈ s.history ∨ m' = m := by simp
  have sent : RegEvent.sentXTEDS ∈ s.history ++ [.handled m] ↔ .sentXTEDS ∈ s.history := by simp
  have polled : RegEvent.polledReg true ∈ s.history ++ [.handled m] ↔
      .polledReg true ∈ s.history := by simp
  exact {
    registers := ⟨justified_append.mpr ⟨inv.registers.right, trivial⟩, fun found =>
      (inv.registers.sends (polled.mp found)).imp_right sent.mpr⟩
    le := fun x there => inv.le x ((set x).mp there)
    began := fun far => (set _).mpr (inv.began far)
    setSentHello := fun there => inv.setSentHello ((set _).mp there)
    setAck := fun there => (took _).mpr (inv.setAck ((set _).mp there))
    setReg := fun there => (took _).mpr (inv.setReg ((set _).mp there))
    setSentXTEDS := fun there => inv.setSentXTEDS ((set _).mp there)
    setID := fun there => (inv.setID ((set _).mp there)).imp fun _ => (took _).mpr
    taken := fun m' there => (set _).mpr (inv.taken m' ((took m').mp there))
    handled := fun m' there => (took m').mpr (((handled m').mp there).elim (inv.handled m')
      fun same => same ▸ taken)
    sentXTEDS := fun there => inv.sentXTEDS (sent.mp there)
    foundReg := fun far => (took _).mpr (inv.foundReg far)
    foundID := fun far => (inv.foundID far).imp fun _ => (took _).mpr
    delivery := inv.delivery.thread _ rfl took sent.mpr }

/-- The rest of the handler of an SDMID. -/
theorem Inv.finish (inv : s.Inv) {sensorID : UInt32} (here : s.listener = some sensorID) :
    (s.finishIdMsg sensorID).Inv := by
  have taken := inv.delivery.listening sensorID here
  have handled := inv.handle taken
  refine { handled with
    registers := ⟨handled.registers.right, handled.registers.sends⟩
    delivery := { handled.delivery with listening := nofun, listened := fun _ other there => ?_ } }
  have same := (inv.delivery.takenID _ taken).symm.trans (handled.delivery.takenID other there)
  exact Option.some.inj same

/-- The states that may be there before an SDMRegister. -/
theorem Inv.set_le_of_register (inv : s.Inv) (none : .taken .register ∉ s.history)
    (x : RegistrationState) (there : .set x ∈ s.history) : x.value ≤ 1 := by
  cases x with
  | RECVD_REG => exact absurd (inv.setReg there) none
  | SENT_XTEDS => exact absurd (inv.foundReg (by have := inv.setSentXTEDS there; omega)) none
  | RECVD_ID =>
      obtain ⟨sensorID, taken⟩ := inv.setID there
      have sent := inv.sentXTEDS (inv.delivery.confirmed _ (inv.delivery.takenID _ taken))
      exact absurd (inv.foundReg (by omega)) none
  | _ => decide

theorem inv_listen (inv : s.Inv) (inTime : s.InTime .listen) : s.listen.Inv := by
  rw [InTime] at inTime
  rw [listen]
  split
  · rename_i sensorID here
    exact inv.finish here
  · exact inv
  · rename_i rest idle first
    have before := inv.set_le_of_register (inTime idle (by rw [first]; rfl))
    have taken := inv.take first before s.listener
      (fun _ => iff_of_false nofun (idle ▸ nofun)) idle
    exact taken.handle (by simp [take])
  · rename_i rest idle first
    have none := inv.delivery.once (first ▸ List.mem_cons_self)
    have before (x : RegistrationState) (there : .set x ∈ s.history) : x.value ≤ 2 :=
      (inv.set_le_of_register none x there).trans (by decide)
    have taken := inv.take first before s.listener
      (fun _ => iff_of_false nofun (idle ▸ nofun)) idle
    exact taken.handle (by simp [take])
  · rename_i sensorID rest idle first
    have before (x : RegistrationState) (_ : .set x ∈ s.history) : x.value ≤ 4 := by
      cases x <;> decide
    exact inv.take first before (some sensorID) (fun _ => by simp) idle

/-- **What the history of a registration says about the state**: it stays so when no window is
hit. -/
theorem inv_next (inv : s.Inv) (inTime : s.InTime a) : (s.next a).Inv := by
  cases a with
  | thread timedOut => exact inv_stepThread inv inTime
  | listen => exact inv_listen inv inTime
  | answer m => exact inv_answer inv m

/-! ### The windows -/

/-- An event that is not right. -/
theorem not_registers_of_event {before : List RegEvent} {e : RegEvent} (after : List RegEvent)
    (split : s.history = before ++ e :: after) (wrong : ¬ Right before e) : ¬ s.Registers := by
  intro registers
  have right := registers.right
  rw [split, justified_append_cons] at right
  exact wrong right.1

/-- A state that is overwritten by an earlier one. -/
theorem not_registers_of_set {x y : RegistrationState} {before : List RegEvent}
    (after : List RegEvent) (split : s.history = before ++ .set y :: after)
    (there : .set x ∈ before)
    (earlier : y.value < x.value) : ¬ s.Registers :=
  not_registers_of_event after split fun right => Nat.not_lt.mpr (right x there) earlier

theorem not_registers_next (inv : s.Inv) (late : ¬ s.InTime a) : ¬ (s.next a).Registers := by
  cases a with
  | thread timedOut =>
      rw [InTime] at late
      split at late
      · rename_i here
        push Not at late
        obtain ⟨m, taken⟩ := late
        refine not_registers_of_set (x := m.state) (y := .SENT_HELLO) [] ?_
          (inv.taken m taken) m.state_pos
        rw [next, stepThread, here]
        rfl
      · rename_i here
        push Not at late
        obtain ⟨sensorID, taken⟩ := late
        refine not_registers_of_set (y := .SENT_XTEDS) [] ?_ (inv.taken _ taken)
          (Nat.lt_succ_self 3)
        rw [next, stepThread, here]
        rfl
      · rename_i here
        push Not at late
        obtain ⟨sensorID, listener, other⟩ := late
        intro registers
        have right := registers.right
        rw [next, stepThread, here] at right
        have published : .taken (.id s.asim.sensorId) ∈ s.history := (justified_append.mp right).2
        have same := inv.delivery.takenID _ published
        rw [inv.delivery.takenID _ (inv.delivery.listening _ listener)] at same
        exact other (Option.some.inj same).symm
      · exact absurd trivial late
  | listen =>
      rw [InTime] at late
      push Not at late
      obtain ⟨idle, first, taken⟩ := late
      obtain ⟨rest, first⟩ := List.head?_eq_some_iff.mp first
      refine not_registers_of_set (x := .RECVD_REG) (y := .RECVD_ACK) [.handled .ack]
        (?_ : _ = (s.history ++ [.taken .ack]) ++ _) ?_ (by decide)
      · simp [next, listen, idle, first, handleAckMsg, take, Answer.state]
      · exact List.mem_append_left _ (inv.taken _ taken)
  | answer m => exact absurd trivial late

/-- **When a registration loses no message**: no window is hit in it. -/
theorem registration_iff (asim : Spa1Asim) (as : List Action) :
    (∀ done, done <+: as → (done.foldl next (start asim)).Registers) ↔
      ∀ done a, done ++ [a] <+: as → (done.foldl next (start asim)).InTime a :=
  Machine.prefixes_iff (inv_start asim) (fun _ inv => inv.registers)
    (fun _ _ _ inv inTime => inv_next inv inTime)
    (fun _ _ _ inv late => not_registers_next inv late)

/-- An ASIM whose memory was zero. -/
def zeroAsim : Spa1Asim where
  xTEDS := .ofString "<xTEDS/>"
  sendToQueue := .new
  recvFromQueue := .new
  subscriptions := ⟨.zero, none, ⟨.zero, ⟨0, 0⟩, 0, []⟩, fun _ => none, []⟩
  guid := 7
  i2cAddress := 0x11
  sensorIndex := 2
  sensorId := 0
  regState := .SENT_HELLO
  failCount := 0

/-- The answers to the Hello are handled before its state is set. -/
def answeredEarly : List Action :=
  [.thread false, .answer .ack, .answer .register, .listen, .listen, .thread false]

/-- An SDMAck is repeated after the SDMRegister. -/
def ackedAgain : List Action :=
  [.thread false, .thread false, .answer .ack, .answer .register, .listen, .listen, .answer .ack,
    .listen, .thread false, .thread false]

/-- The thread comes to send its xTEDS. -/
def sendingXTEDS : List Action :=
  [.thread false, .thread false, .answer .ack, .answer .register, .listen, .listen, .thread false,
    .thread false, .thread false]

/-- The SDMID is handled before the state for the xTEDS is set. -/
def confirmedEarly : List Action :=
  sendingXTEDS ++ [.answer (.id 0x10002), .listen, .listen, .thread false]

/-- The thread publishes before the sensor id is set. -/
def publishedEarly : List Action :=
  sendingXTEDS ++ [.thread false, .answer (.id 0x10002), .listen, .thread false, .thread false]

/-- All windows can be hit. -/
theorem not_registers :
    ¬ (answeredEarly.foldl next (start zeroAsim)).Registers ∧
      ¬ (ackedAgain.foldl next (start zeroAsim)).Registers ∧
      ¬ (confirmedEarly.foldl next (start zeroAsim)).Registers ∧
      ¬ (publishedEarly.foldl next (start zeroAsim)).Registers := by
  refine ⟨?_, ?_, ?_, ?_⟩
  · exact not_registers_of_set (x := .RECVD_REG) (y := .SENT_HELLO) [] rfl (by decide)
      (by decide)
  · exact not_registers_of_event (e := .polledReg false) [] rfl
      fun right => Bool.false_ne_true (right (by decide))
  · exact not_registers_of_set (x := .RECVD_ID) (y := .SENT_XTEDS) [] rfl (by decide)
      (by decide)
  · refine not_registers_of_event (e := .published 0) [] rfl fun right => ?_
    have missing : .taken (.id 0) ∉
      (publishedEarly.foldl next (start zeroAsim)).history := by decide
    exact missing (List.mem_append_left _ right)

end RegSystem

end Sdm
