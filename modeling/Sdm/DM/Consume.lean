import Sdm.Lib.Machine
import Sdm.DM.NamedDocument
import Sdm.DM.ProviderSubscriptionList

/-!
The handlers `Consume`, `Cancel` and `Subscribe` of `DM.cpp`, and the provider
subscription list over their runs.

`Consume` records a subscription (provider, subscriber, message) of a subscriber
that has an xTEDS, and `Cancel` removes it again. The removal is given the
subscriber and the message only. `cancel_removes_exactly` says when it removes
the right entries: when the subscriber has that message from no other provider
and the provider is still known. On runs of such steps the list is the ledger of
what has been consumed and not cancelled, and a failed subscriber is taken off
all its providers.
-/

namespace Sdm

open Lib XTEDSLibraryList ProviderSubscriptionList

/-- `SDMConsume`. -/
structure SDMConsume where
  source : SDMComponentID
  destination : SDMComponentID
  msg_id : SDMMessageID
  deriving DecidableEq, Repr

/-- `SDMCancel`. -/
structure SDMCancel where
  source : SDMComponentID
  destination : SDMComponentID
  msg_id : SDMMessageID
  deriving DecidableEq, Repr

namespace DMState

variable {τ : Type}

/-- The registrations a new subscriber to registration events is told of. -/
def currentRegistrations (subscriberId : SDMComponentID) (mID : SDMMessageID)
    (l : XTEDSLibraryList τ) : List Effect :=
  if mID = NOTI_REGISTRATION ∨ mID = NOTI_REGISTRATION_CHANGE then
    (l.filter fun s => !s.available).map fun s => .notification
      { destination := subscriberId
        msg_id := mID
        action := if mID = NOTI_REGISTRATION then none else some .REGISTRATION_MODIFICATION
        sensorID := s.id.sensorID }
  else []

/-- `Subscribe(SubscriberId, mID)`: a duplicate is told nothing. -/
def subscribe (subscriberId : SDMComponentID) (mID : SDMMessageID) (st : DMState τ) :
    DMState τ × List Effect :=
  if st.subscribers.any (SubscriptionList.isNotification subscriberId mID) then (st, [])
  else
    ({ st with subscribers := SubscriptionList.addSubscription subscriberId mID st.subscribers },
      currentRegistrations subscriberId mID st.xTEDSList)

/-- The subscriber of a request: its destination at the address it came from. -/
def subscriberOf (destination sender : SDMComponentID) : SDMComponentID :=
  { destination with address := sender.address }

/-- The sensor id is filled in, so the subscriber has an xTEDS. -/
def IsRegistered (subscriber : SDMComponentID) : Prop :=
  subscriber.sensorID ≠ 0 ∧ subscriber.sensorID ≠ 1

instance (subscriber : SDMComponentID) : Decidable (IsRegistered subscriber) :=
  inferInstanceAs (Decidable (_ ∧ _))

/-- `Consume`. The fault id is asked of the provider's tree, which must be there. -/
def consume [XTEDS τ] (msg : SDMConsume) (sender : SDMComponentID) (st : DMState τ) :
    Option (DMState τ × List Effect) :=
  match matchSID msg.source.sensorID st.xTEDSList with
  | none => some (st, [])
  | some k =>
      let subscriber := subscriberOf msg.destination sender
      if msg.source.sensorID = DM_SENSOR_ID then
        some (subscribe ⟨0, sender.address, subscriber.port⟩ msg.msg_id st)
      else
        ((st.xTEDSList[k]?).bind XTEDSLibrary.xtedsTree).map fun tree =>
          ({ st with
              xTEDSList := st.xTEDSList.modify k fun s =>
                { s with connections := s.connections + 1 }
              sensorSubscriptions :=
                if IsRegistered subscriber then
                  add msg.source subscriber msg.msg_id st.sensorSubscriptions
                else st.sensorSubscriptions },
            [.subreqst
              { source := msg.source
                destination := subscriber
                msg_id := msg.msg_id
                fault_id := XTEDS.getNotificationFaultMsgID tree msg.msg_id }])

/-- `Cancel`. -/
def cancel (msg : SDMCancel) (sender : SDMComponentID) (st : DMState τ) :
    DMState τ × List Effect :=
  match matchSID msg.source.sensorID st.xTEDSList with
  | none => (st, [])
  | some k =>
      let subscriber := subscriberOf msg.destination sender
      if msg.source.sensorID = DM_SENSOR_ID then
        ({ st with
            subscribers := SubscriptionList.cancelSubscription ⟨0, sender.address, subscriber.port⟩
              msg.msg_id st.subscribers }, [])
      else
        ({ st with
            xTEDSList := st.xTEDSList.modify k fun s => { s with connections := s.connections - 1 }
            sensorSubscriptions :=
              if IsRegistered subscriber then
                delete subscriber msg.msg_id st.sensorSubscriptions
              else st.sensorSubscriptions },
          [.deletesub ⟨msg.source, subscriber, msg.msg_id⟩])

/-- The handler reaches the provider subscription list: the message names an
active component other than the Data Manager. -/
def Provides (provider : SDMComponentID) (st : DMState τ) : Prop :=
  (matchSID provider.sensorID st.xTEDSList).isSome = true ∧ provider.sensorID ≠ DM_SENSOR_ID

instance (provider : SDMComponentID) (st : DMState τ) : Decidable (Provides provider st) :=
  inferInstanceAs (Decidable (_ ∧ _))

/-! ### The list after one message -/

variable {st st' : DMState τ} {sender : SDMComponentID} {out : List Effect}

theorem sensorSubscriptions_subscribe {subscriberId : SDMComponentID} {mID : SDMMessageID} :
    (subscribe subscriberId mID st).1.sensorSubscriptions = st.sensorSubscriptions := by
  unfold subscribe
  split <;> rfl

theorem sensorSubscriptions_consume [XTEDS τ] {msg : SDMConsume}
    (registered : IsRegistered (subscriberOf msg.destination sender))
    (taken : consume msg sender st = some (st', out)) :
    (Provides msg.source st → st'.sensorSubscriptions = st.sensorSubscriptions ++
      [⟨msg.source, subscriberOf msg.destination sender, msg.msg_id⟩]) ∧
    (¬ Provides msg.source st → st'.sensorSubscriptions = st.sensorSubscriptions) := by
  unfold consume at taken
  unfold Provides
  split at taken
  · rename_i missing
    cases taken
    simp [missing]
  · rename_i k found
    split at taken
    · rename_i manager
      obtain ⟨rfl, -⟩ := Prod.ext_iff.mp (Option.some.inj taken)
      simp [manager, sensorSubscriptions_subscribe]
    · rename_i other
      obtain ⟨tree, _, same⟩ := Option.map_eq_some_iff.mp taken
      cases same
      rw [if_pos registered]
      simp [found, other, add]

theorem sensorSubscriptions_cancel {msg : SDMCancel}
    (registered : IsRegistered (subscriberOf msg.destination sender)) :
    (Provides msg.source st → (cancel msg sender st).1.sensorSubscriptions =
      delete (subscriberOf msg.destination sender) msg.msg_id st.sensorSubscriptions) ∧
    (¬ Provides msg.source st →
      (cancel msg sender st).1.sensorSubscriptions = st.sensorSubscriptions) := by
  unfold cancel Provides
  split
  · rename_i missing
    simp [missing]
  · rename_i k found
    split
    · rename_i manager
      simp [manager]
    · rename_i other
      simp [found, other, registered]

/-! ### Runs of `Consume` and `Cancel` -/

/-- A message to one of the two handlers. -/
inductive SubscriptionMessage where
  | consume (msg : SDMConsume) (sender : SDMComponentID)
  | cancel (msg : SDMCancel) (sender : SDMComponentID)
  deriving DecidableEq, Repr

/-- The subscriber a message is from. -/
def SubscriptionMessage.subscriber : SubscriptionMessage → SDMComponentID
  | .consume msg sender => subscriberOf msg.destination sender
  | .cancel msg sender => subscriberOf msg.destination sender

/-- The two handlers as a machine. -/
def consumeMachine [XTEDS τ] : Machine (DMState τ) SubscriptionMessage (List Effect) where
  step st
    | .consume msg sender => consume msg sender st
    | .cancel msg sender => some (cancel msg sender st)

/-- What a message does to the ledger of subscriptions: `Consume` of a known
provider adds one, `Cancel` removes this one. -/
def recordMessage (ledger : ProviderSubscriptionList) (st : DMState τ) :
    SubscriptionMessage → ProviderSubscriptionList
  | .consume msg sender =>
      if Provides msg.source st then
        ledger ++ [⟨msg.source, subscriberOf msg.destination sender, msg.msg_id⟩]
      else ledger
  | .cancel msg sender =>
      ledger.filter fun e =>
        decide (e ≠ ⟨msg.source, subscriberOf msg.destination sender, msg.msg_id⟩)

/-- The condition under which a `Cancel` removes its own entries: a known
provider is the only one from which the subscriber has that message; an unknown
one has no such subscription. -/
def CancelsOwn (st : DMState τ) : SubscriptionMessage → Prop
  | .consume _ _ => True
  | .cancel msg sender =>
      (Provides msg.source st → ∀ e ∈ st.sensorSubscriptions,
        e.subscriber = subscriberOf msg.destination sender → e.message = msg.msg_id →
          e.provider = msg.source) ∧
      (¬ Provides msg.source st →
        ⟨msg.source, subscriberOf msg.destination sender, msg.msg_id⟩ ∉ st.sensorSubscriptions)

/-- The list after a `Cancel` is the list before it without the cancelled
entries exactly under `CancelsOwn`. -/
theorem cancel_exact_iff {msg : SDMCancel}
    (registered : IsRegistered (subscriberOf msg.destination sender)) :
    (cancel msg sender st).1.sensorSubscriptions =
      st.sensorSubscriptions.filter (fun e =>
        decide (e ≠ ⟨msg.source, subscriberOf msg.destination sender, msg.msg_id⟩)) ↔
      CancelsOwn st (.cancel msg sender) := by
  obtain ⟨known, unknown⟩ := @sensorSubscriptions_cancel τ st sender msg registered
  unfold CancelsOwn
  by_cases provides : Provides msg.source st
  · rw [known provides, delete_eq_filter]
    simp only [provides, true_implies, not_true_eq_false, false_implies, and_true]
    constructor
    · intro exact e mem own message
      by_contra other
      have kept : e ∈ st.sensorSubscriptions.filter fun e =>
          decide (e ≠ ⟨msg.source, subscriberOf msg.destination sender, msg.msg_id⟩) := by
        refine List.mem_filter.mpr ⟨mem, decide_eq_true ?_⟩
        rintro rfl
        exact other rfl
      rw [← exact] at kept
      simpa [own, message] using (List.mem_filter.mp kept).2
    · intro only
      apply List.filter_congr
      intro e mem
      by_cases own : e.subscriber = subscriberOf msg.destination sender ∧ e.message = msg.msg_id
      · have provider := only e mem own.1 own.2
        have same : e = ⟨msg.source, subscriberOf msg.destination sender, msg.msg_id⟩ := by
          rw [← provider, ← own.1, ← own.2]
        simp [same]
      · have differ : e ≠ ⟨msg.source, subscriberOf msg.destination sender, msg.msg_id⟩ := by
          rintro rfl
          exact own ⟨rfl, rfl⟩
        simp [own, differ]
  · rw [unknown provides]
    simp only [provides, false_implies, true_and, not_false_eq_true, true_implies]
    rw [eq_comm, List.filter_eq_self]
    constructor
    · intro all mem
      simpa using all _ mem
    · intro absent e mem
      refine decide_eq_true ?_
      rintro rfl
      exact absent mem

/-- In a run of registered subscribers whose cancels meet `CancelsOwn` the list is
the ledger. -/
theorem list_eq_ledger [XTEDS τ] {st₀ : DMState τ} {ledger : ProviderSubscriptionList}
    (run : (consumeMachine.withGhost fun ledger st msg _ => recordMessage ledger st msg).Reaches
      (fun q msg => IsRegistered msg.subscriber ∧ CancelsOwn q.1 msg)
      (st₀, st₀.sensorSubscriptions) (st, ledger)) :
    st.sensorSubscriptions = ledger := by
  refine run.invariant (I := fun q => q.1.sensorSubscriptions = q.2) rfl ?_
  rintro ⟨st, ledger⟩ message ⟨st', ledger'⟩ out same ⟨registered, own⟩ taken
  obtain ⟨stepped, rfl⟩ := Machine.withGhost_step_eq_some.mp taken
  dsimp only at same registered own ⊢
  subst same
  cases message with
  | consume msg sender =>
      obtain ⟨known, unknown⟩ := sensorSubscriptions_consume registered stepped
      simp only [recordMessage]
      by_cases provides : Provides msg.source st
      · rw [known provides, if_pos provides]
      · rw [unknown provides, if_neg provides]
  | cancel msg sender =>
      have after : cancel msg sender st = (st', out) := Option.some.inj stepped
      have exact := (cancel_exact_iff registered).mpr own
      rw [after] at exact
      exact exact

/-- **When provider subscriptions are kept per provider.** For every state and
every `Cancel` of a registered subscriber, exactly the cancelled entries are
removed if and only if `CancelsOwn` holds. On runs of such steps the list is the
ledger of subscriptions, and `SubscriberFinish` of a subscriber sends an
`SDMDeletesub` to every provider it is still subscribed to. -/
theorem cancel_removes_exactly [XTEDS τ] :
    (∀ (st : DMState τ) (msg : SDMCancel) (sender : SDMComponentID),
      IsRegistered (subscriberOf msg.destination sender) →
      ((cancel msg sender st).1.sensorSubscriptions =
        st.sensorSubscriptions.filter (fun e =>
          decide (e ≠ ⟨msg.source, subscriberOf msg.destination sender, msg.msg_id⟩)) ↔
        CancelsOwn st (.cancel msg sender))) ∧
    ∀ (st₀ st : DMState τ) (ledger : ProviderSubscriptionList),
      (consumeMachine.withGhost fun ledger st msg _ => recordMessage ledger st msg).Reaches
        (fun q msg => IsRegistered msg.subscriber ∧ CancelsOwn q.1 msg)
        (st₀, st₀.sensorSubscriptions) (st, ledger) →
      st.sensorSubscriptions = ledger ∧
        ∀ e ∈ ledger, deletesub e ∈ (subscriberFinish e.subscriber st.sensorSubscriptions).1 := by
  refine ⟨fun st msg sender registered => cancel_exact_iff registered, ?_⟩
  intro st₀ st ledger run
  have same := list_eq_ledger run
  refine ⟨same, fun e mem => ?_⟩
  rw [same]
  exact List.mem_map_of_mem (List.mem_filter.mpr ⟨mem, decide_eq_true ⟨rfl, rfl⟩⟩)

/-- An active application with this sensor id. -/
def activeSlot (sensorID : UInt32) : XTEDSLibrary NamedDocument :=
  { (XTEDSLibrary.new : XTEDSLibrary NamedDocument) with
    available := false
    active := true
    id := ⟨sensorID, 1, 4000⟩
    xtedsTree := some ⟨.ofString "Sensor", []⟩ }

/-- Two active providers and no subscriptions. -/
def twoProviders : DMState NamedDocument :=
  { xTEDSList := [activeSlot 0x10001, activeSlot 0x10002]
    subscribers := [], sensorSubscriptions := [], addressDM := 1, taskManager := .zero }

/-- The subscriber consumes message (1, 1) of the first provider and cancels
message (1, 1) of the second: its subscription to the first is gone. -/
theorem cancel_takes_other_provider :
    ¬ ∀ (st₀ st : DMState NamedDocument) (msg : SDMCancel) (sender : SDMComponentID),
      st₀.sensorSubscriptions = [] →
      consumeMachine.Reaches (fun _ msg => IsRegistered msg.subscriber) st₀ st →
      IsRegistered (subscriberOf msg.destination sender) →
      (cancel msg sender st).1.sensorSubscriptions =
        st.sensorSubscriptions.filter (fun e =>
          decide (e ≠ ⟨msg.source, subscriberOf msg.destination sender, msg.msg_id⟩)) := by
  intro exact
  let subscriber : SDMComponentID := ⟨0x30007, 9, 5000⟩
  let consumeFirst : SubscriptionMessage :=
    .consume ⟨⟨0x10001, 1, 4000⟩, subscriber, ⟨1, 1⟩⟩ subscriber
  have registered : IsRegistered subscriber := by decide
  let after : DMState NamedDocument := { twoProviders with
    xTEDSList := [{ activeSlot 0x10001 with connections := 1 }, activeSlot 0x10002]
    sensorSubscriptions := [⟨⟨0x10001, 1, 4000⟩, subscriber, ⟨1, 1⟩⟩] }
  have done : consumeMachine.exec twoProviders [consumeFirst] = some after := by decide
  have run : consumeMachine.Reaches (fun _ msg => IsRegistered msg.subscriber) twoProviders after :=
    Machine.Reaches.exec .start
      (fun msg mem _ => by rw [List.mem_singleton.mp mem]; exact registered) done
  have removed := exact _ _ ⟨⟨0x10002, 1, 4000⟩, subscriber, ⟨1, 1⟩⟩ subscriber rfl run registered
  exact absurd removed (by decide)

end DMState

end Sdm
