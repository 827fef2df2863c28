import Sdm.DM.Consume
import Sdm.DM.ProviderSubscriptionList
import Sdm.DM.Publish
import Sdm.DM.Registry
import Sdm.DM.ReqReg
import Sdm.Message.TaskMessages

/-!
The handlers `xTEDS`, `CancelxTEDS` and `TaskError` of `DM.cpp` and the Data
Manager as a machine.

The handlers publish what they did: `publishModification` runs the stored
queries again for the changed slot, `notify` sends the notifications. A query run
for one slot changes nothing but the `posted` marks of slots (`Quiet`).

`dataManager` takes one message at a time. `registry_run` maps its runs to runs
of the registry writes, so that what holds of every registry reached by those
writes holds of the registry of the Data Manager.
-/

namespace Sdm

open Lib XTEDSLibraryList ProviderSubscriptionList

/-- `SDMCancelxTEDS`. -/
structure SDMCancelxTEDS where
  source : SDMComponentID
  fullCancel : UInt8
  deriving DecidableEq, Repr

/-- The address a component is known by: the one it names, else the one it sent
from, where the local host stands for the Data Manager's own node. -/
def knownAddress (addressDM : UInt32) (source sender : SDMComponentID) : UInt32 :=
  if source.address ≠ 0 then source.address
  else if sender.address = L_LOCAL_HOST ∧ addressDM ≠ L_LOCAL_HOST then addressDM
  else sender.address

/-- `(ulSID >> 16) & 0xFF`: the slot that a sensor id is taken to name. -/
def xTEDSRef (sensorID : UInt32) : Nat := ((sensorID >>> 16) &&& 0xFF).toNat

/-- The cheap tests on a document before it is parsed. -/
def IsFramed (text : CString) : Prop :=
  text.bytes.head? = some 60 ∧ strstr text (.ofString "</xTEDS>") = true

instance (text : CString) : Decidable (IsFramed text) := inferInstanceAs (Decidable (_ ∧ _))

namespace DMState

variable {τ : Type}

/-! ### Publishing -/

/-- A stored query is run for slot `ref`. -/
def rerun [XTEDS τ] (query : Option Republish) (action : Modification) (ref : Nat)
    (st : DMState τ) : Option (DMState τ × List Effect) :=
  match query with
  | none => some (st, [])
  | some (.reqReg msg sender) => reqReg { msg, xTEDref := some ref, sender, action } st
  | some query => some (st, [.rerun query ref])

/-- `PublishxTEDSModificationSubscription`, over the nodes of the subscription list. -/
def publishModification [XTEDS τ] (messageID : SDMMessageID) (action : Modification) (ref : Nat) :
    SubscriptionList → DMState τ → Option (DMState τ × List Effect)
  | [], st => some (st, [])
  | n :: nodes, st =>
      (SubscriptionList.republish messageID n).bind fun query =>
      (rerun query action ref st).bind fun first =>
      (publishModification messageID action ref nodes first.1).map fun rest =>
        (rest.1, first.2 ++ rest.2)

/-- `PublishNotification`. -/
def notify (sensorID : UInt32) (messageID : SDMMessageID) (action : Modification)
    (st : DMState τ) : List Effect :=
  (SubscriptionList.publishNotification sensorID messageID action st.subscribers).map .notification

/-! ### `xTEDS` -/

/-- The interested subscribers are told of an active registration. -/
def publishRegistration [XTEDS τ] (sensorID : UInt32) (st : DMState τ) :
    Option (DMState τ × List Effect) :=
  let ref := xTEDSRef sensorID
  let notices := notify sensorID NOTI_REGISTRATION .MOD_NOT_APPLICABLE st ++
    notify sensorID NOTI_REGISTRATION_CHANGE .REGISTRATION_MODIFICATION st
  (publishModification SEARCH_REPLY .MOD_NOT_APPLICABLE ref st.subscribers st).bind fun first =>
  (publishModification REQ_REG_FUTURE .MOD_NOT_APPLICABLE ref first.1.subscribers first.1).bind
    fun second =>
  (publishModification VAR_REQ_REPLY .MOD_NOT_APPLICABLE ref second.1.subscribers second.1).map
    fun third => (third.1, notices ++ first.2 ++ second.2 ++ third.2)

/-- The `SDMID` that confirms a registration. -/
def confirm (r : Registration) (sensorID : UInt32) : Effect :=
  .sdmID ⟨sensorID, r.source.address, r.source.port⟩

/-- The end of `xTEDS`, for the slot at position `k`. -/
def acknowledge [XTEDS τ] (r : Registration) (k : Nat) (st : DMState τ) :
    Option (DMState τ × List Effect) :=
  (st.xTEDSList[k]?).bind fun s =>
    let confirmed := (if r.source.port ≠ PORT_DM then [confirm r s.id.sensorID] else []) ++
      [.ack .SDM_OK]
    if s.active then
      (publishRegistration s.id.sensorID st).map fun published =>
        (published.1, confirmed ++ published.2)
    else some (st, confirmed)

/-- `xTEDS`, from the point where the document is complete. -/
def registerDocument [XTEDS τ] (r : Registration) (st : DMState τ) :
    Option (DMState τ × List Effect) :=
  match XTEDS.parseDeviceName τ r.text with
  | none => some (st, [.ack .SDM_INVALID_XTEDS])
  | some (type, sensor) =>
      if IsFramed r.text then
        (register sensor type r st.xTEDSList).bind fun result =>
          let st := { st with xTEDSList := result.1 }
          match result.2 with
          | .invalid _ => some (st, [.ack .SDM_INVALID_XTEDS])
          | .recognised k .registered =>
              (st.xTEDSList[k]?).map fun s => (st, [confirm r s.id.sensorID, .ack .SDM_OK])
          | .recognised k _ => acknowledge r k st
          | .stored k => acknowledge r k st
      else some (st, [.ack .SDM_INVALID_XTEDS])

/-! ### `CancelxTEDS` -/

/-- The slot is the one a cancel is for. A Process Manager names a process, and
the Network Manager a component that sent neither port nor id. -/
def IsCancelled (usPort : UInt16) (ulSID address : UInt32) (s : XTEDSLibrary τ) : Prop :=
  s.available = false ∧
  (usPort = s.id.port ∨ usPort = PORT_PM ∧ ulSID ≠ 0 ∨ usPort = 0 ∧ ulSID = 0) ∧
  address = s.id.address ∧ s.active = true ∧
  (ulSID &&& 0xFF = s.id.sensorID &&& 0xFF ∨
    usPort = PORT_PM ∧ s.id.port ≠ PORT_DM ∧ s.id.port ≠ PORT_SM ∧ s.id.port ≠ PORT_TM ∧
      s.id.port ≠ PORT_SPA1_MANAGER) ∧
  (usPort = PORT_PM → ulSID = s.pid)

instance (usPort : UInt16) (ulSID address : UInt32) (s : XTEDSLibrary τ) :
    Decidable (IsCancelled usPort ulSID address s) :=
  inferInstanceAs (Decidable (_ ∧ _))

/-- The slot that `CancelxTEDS` finds. -/
def cancelTarget (msg : SDMCancelxTEDS) (sender : SDMComponentID) (st : DMState τ) : Option Nat :=
  st.xTEDSList.findIdx? fun s => decide (IsCancelled msg.source.port msg.source.sensorID
    (knownAddress st.addressDM msg.source sender) s)

/-- `CancelxTEDS` once the slot `s` has been found at position `k`. -/
def cancelSlot [XTEDS τ] (fullCancel : UInt8) (k : Nat) (s : XTEDSLibrary τ) (st : DMState τ) :
    Option (DMState τ × List Effect) :=
  let st := { st with xTEDSList := st.xTEDSList.modify k (quiesce fullCancel) }
  (publishModification REQ_REG_CANCELLATION .DEREGISTRATION_MODIFICATION k st.subscribers st).map
    fun published =>
  let st := published.1
  let notices := notify s.id.sensorID NOTI_DEREGISTRATION .MOD_NOT_APPLICABLE st ++
    notify s.id.sensorID NOTI_REGISTRATION_CHANGE .DEREGISTRATION_MODIFICATION st
  let finished := subscriberFinish s.id st.sensorSubscriptions
  let st := { st with sensorSubscriptions := providerFinish s.id finished.2 }
  let sent := published.2 ++ notices ++ finished.1.map .deletesub
  if s.id.port = PORT_DM then (st, sent ++ [.ack .SDM_INVALID_CANCEL])
  else ({ st with xTEDSList := st.xTEDSList.modify k release }, sent ++ [.ack .SDM_OK])

/-- `CancelxTEDS`; `none` is a message that does not unmarshal. -/
def cancelxTEDS [XTEDS τ] (msg : Option SDMCancelxTEDS) (sender : SDMComponentID)
    (st : DMState τ) : Option (DMState τ × List Effect) :=
  match msg with
  | none => some (st, [.ack .SDM_INVALID_CANCEL])
  | some msg =>
      match cancelTarget msg sender st with
      | none => some (st, [.ack .SDM_UNKNOWN_XTEDS])
      | some k => (st.xTEDSList[k]?).bind fun s => cancelSlot msg.fullCancel k s st

/-! ### `TaskError` -/

/-- The slot is that of the failed task. The address is the one that the message came from. -/
def IsFailed (pid address : UInt32) (s : XTEDSLibrary τ) : Prop :=
  s.available = false ∧ address = s.id.address ∧ s.active = true ∧ s.pid = pid

instance (pid address : UInt32) (s : XTEDSLibrary τ) : Decidable (IsFailed pid address s) :=
  inferInstanceAs (Decidable (_ ∧ _))

/-- The slot that `TaskError` finds. -/
def errorTarget (msgError : SDMTaskError) (sender : SDMComponentID) (st : DMState τ) :
    Option Nat :=
  st.xTEDSList.findIdx? fun s => decide (IsFailed msgError.pid sender.address s)

/-- `TaskError` once the slot `s` has been found at position `k`. -/
def suspendSlot [XTEDS τ] (k : Nat) (s : XTEDSLibrary τ) (st : DMState τ) :
    Option (DMState τ × List Effect) :=
  let finished := subscriberFinish s.id st.sensorSubscriptions
  let st := { st with
    xTEDSList := st.xTEDSList.modify k suspend
    sensorSubscriptions := providerFinish s.id finished.2
    subscribers := SubscriptionList.removeFailed s.id st.subscribers }
  (publishModification REQ_REG_CANCELLATION .DEREGISTRATION_MODIFICATION k st.subscribers st).map
    fun published =>
  let notices := notify s.id.sensorID NOTI_DEREGISTRATION .MOD_NOT_APPLICABLE published.1 ++
    notify s.id.sensorID NOTI_REGISTRATION_CHANGE .DEREGISTRATION_MODIFICATION published.1
  (published.1, finished.1.map .deletesub ++ (published.2 ++ notices))

/-- `TaskError`; `none` is a message that does not unmarshal. -/
def taskError [XTEDS τ] (msgError : Option SDMTaskError) (sender : SDMComponentID)
    (st : DMState τ) : Option (DMState τ × List Effect) :=
  match msgError with
  | none => some (st, [])
  | some msgError =>
      match errorTarget msgError sender st with
      | none => some (st, [])
      | some k => (st.xTEDSList[k]?).bind fun s => suspendSlot k s st

/-! ### The Data Manager as a machine -/

/-- A message to the Data Manager. -/
inductive DMMessage where
  | registerDocument (r : Registration)
  | cancelxTEDS (msg : Option SDMCancelxTEDS) (sender : SDMComponentID)
  | taskError (msgError : Option SDMTaskError) (sender : SDMComponentID)
  | reqReg (msg : SDMReqReg) (sender : SDMComponentID)
  | consume (msg : SDMConsume) (sender : SDMComponentID)
  | cancel (msg : SDMCancel) (sender : SDMComponentID)
  deriving DecidableEq, Repr

/-- The Data Manager handles one message at a time. -/
def dataManager [XTEDS τ] : Machine (DMState τ) DMMessage (List Effect) where
  step st
    | .registerDocument r => registerDocument r st
    | .cancelxTEDS msg sender => cancelxTEDS msg sender st
    | .taskError msgError sender => taskError msgError sender st
    | .reqReg msg sender =>
        reqReg { msg, xTEDref := none, sender, action := .MOD_NOT_APPLICABLE } st
    | .consume msg sender => consume msg sender st
    | .cancel msg sender => some (cancel msg sender st)

/-! ### Queries for one slot change only `posted` marks -/

/-- One slot is as it was, or it is an inactive slot that is now marked as posted. -/
def PostsSlot (s s' : XTEDSLibrary τ) : Prop :=
  s' = s ∨ s.active = false ∧ s' = { s with posted := true }

/-- Only inactive slots are posted. -/
abbrev OnlyPosts (l l' : XTEDSLibraryList τ) : Prop := List.Forall₂ PostsSlot l l'

theorem OnlyPosts.refl (l : XTEDSLibraryList τ) : OnlyPosts l l :=
  List.forall₂_same.mpr fun _ _ => .inl rfl

theorem PostsSlot.trans {s₁ s₂ s₃ : XTEDSLibrary τ} (first : PostsSlot s₁ s₂)
    (second : PostsSlot s₂ s₃) : PostsSlot s₁ s₃ := by
  rcases first with rfl | ⟨inactive, rfl⟩
  · exact second
  · rcases second with rfl | ⟨_, rfl⟩
    · exact .inr ⟨inactive, rfl⟩
    · exact .inr ⟨inactive, rfl⟩

theorem OnlyPosts.trans {l₁ l₂ l₃ : XTEDSLibraryList τ} (first : OnlyPosts l₁ l₂)
    (second : OnlyPosts l₂ l₃) : OnlyPosts l₁ l₃ := by
  induction first generalizing l₃ with
  | nil => exact second
  | cons head _ ih =>
      cases second with
      | cons head' tail' => exact .cons (head.trans head') (ih tail')

/-- No slot is ever taken back: a registry that is reached again was not left. -/
theorem OnlyPosts.antisymm {l l' : XTEDSLibraryList τ} (there : OnlyPosts l l')
    (back : OnlyPosts l' l) : l' = l := by
  induction there with
  | nil => rfl
  | @cons s s' l l' head _ ih =>
      cases back with
      | cons headBack tailBack =>
          have same : s' = s := by
            rcases head with same | ⟨_, rfl⟩
            · exact same
            · rcases headBack with same | ⟨_, same⟩
              · exact same.symm
              · exact same.symm
          rw [same, ih tailBack]

theorem OnlyPosts.core {l l' : XTEDSLibraryList τ} (posts : OnlyPosts l l') :
    l'.map core = l.map core := by
  induction posts with
  | nil => rfl
  | cons head _ ih =>
      rw [List.map_cons, List.map_cons, ih]
      rcases head with rfl | ⟨_, rfl⟩
      · rfl
      · rfl

/-- Nothing changes but the `posted` marks of inactive slots. -/
structure Quiet (st st' : DMState τ) : Prop where
  posts : OnlyPosts st.xTEDSList st'.xTEDSList
  subscribers : st'.subscribers = st.subscribers
  sensorSubscriptions : st'.sensorSubscriptions = st.sensorSubscriptions
  addressDM : st'.addressDM = st.addressDM
  taskManager : st'.taskManager = st.taskManager

theorem Quiet.refl (st : DMState τ) : Quiet st st := ⟨.refl _, rfl, rfl, rfl, rfl⟩

theorem Quiet.trans {st₁ st₂ st₃ : DMState τ} (first : Quiet st₁ st₂) (second : Quiet st₂ st₃) :
    Quiet st₁ st₃ where
  posts := first.posts.trans second.posts
  subscribers := second.subscribers.trans first.subscribers
  sensorSubscriptions := second.sensorSubscriptions.trans first.sensorSubscriptions
  addressDM := second.addressDM.trans first.addressDM
  taskManager := second.taskManager.trans first.taskManager

theorem Quiet.slots {st st' : DMState τ} (quiet : Quiet st st') :
    st'.xTEDSList.map core = st.xTEDSList.map core := quiet.posts.core

/-- A quiet step that leaves the registry as it was changes nothing. -/
theorem Quiet.eq {st st' : DMState τ} (quiet : Quiet st st')
    (same : st'.xTEDSList = st.xTEDSList) : st' = st := by
  obtain ⟨_, subscribers, sensorSubscriptions, addressDM, taskManager⟩ := quiet
  cases st
  cases st'
  cases same
  cases subscribers
  cases sensorSubscriptions
  cases addressDM
  cases taskManager
  rfl

section Quiet

variable [XTEDS τ] {st st' : DMState τ} {out : List Effect} {q : ReqRegCall}
  {l l' : XTEDSLibraryList τ} {action : Modification} {messageID : SDMMessageID} {k ref : Nat}

theorem postInactive_posts {taskManager : SDMComponentID} {m : List Nat}
    (posted : ReqRegCall.postInactive taskManager l m = some (l', out)) : OnlyPosts l l' := by
  induction l generalizing m l' out with
  | nil =>
      cases posted
      exact .nil
  | cons s rest ih =>
      cases m with
      | nil =>
          cases posted
          exact .refl _
      | cons n m =>
          obtain ⟨head, first, posted⟩ := Option.bind_eq_some_iff.mp posted
          obtain ⟨tail, others, same⟩ := Option.map_eq_some_iff.mp posted
          cases same
          refine .cons ?_ (ih others)
          split at first
          · rename_i posts
            obtain ⟨_, _, rfl⟩ := Option.map_eq_some_iff.mp first
            exact .inr ⟨posts.2.1, rfl⟩
          · cases first
            exact .inl rfl

theorem quiet_reqRegSearch (done : reqRegSearch q st = some (st', out)) : Quiet st st' := by
  obtain ⟨ended, _, result⟩ := Option.bind_eq_some_iff.mp done
  cases ended with
  | returned sent =>
      cases result
      exact .refl st
  | finished m sent =>
      dsimp only at result
      split at result
      · obtain ⟨posted, posting, same⟩ := Option.map_eq_some_iff.mp result
        cases same
        exact ⟨postInactive_posts posting, rfl, rfl, rfl, rfl⟩
      · cases result
        exact .refl st

theorem quiet_reqReg (standing : q.xTEDref ≠ none) (done : reqReg q st = some (st', out)) :
    Quiet st st' := by
  rw [reqReg, if_neg fun h => standing h.2] at done
  exact quiet_reqRegSearch done

theorem quiet_rerun {query : Option Republish}
    (done : rerun query action ref st = some (st', out)) :
    Quiet st st' := by
  cases query with
  | none =>
      cases done
      exact .refl st
  | some query =>
      cases query with
      | reqReg msg sender => exact quiet_reqReg (Option.some_ne_none ref) done
      | search msg sender =>
          cases done
          exact .refl st
      | varReq msg sender =>
          cases done
          exact .refl st

/-- Publishing a change leaves everything but `posted` marks as it was. -/
theorem quiet_publishModification {nodes : SubscriptionList}
    (done : publishModification messageID action ref nodes st = some (st', out)) :
    Quiet st st' := by
  induction nodes generalizing st out with
  | nil =>
      cases done
      exact .refl _
  | cons n nodes ih =>
      obtain ⟨query, _, done⟩ := Option.bind_eq_some_iff.mp done
      obtain ⟨first, ran, done⟩ := Option.bind_eq_some_iff.mp done
      obtain ⟨rest, others, same⟩ := Option.map_eq_some_iff.mp done
      cases same
      exact (quiet_rerun ran).trans (ih others)

theorem quiet_publishRegistration {sensorID : UInt32}
    (done : publishRegistration sensorID st = some (st', out)) : Quiet st st' := by
  obtain ⟨first, search, done⟩ := Option.bind_eq_some_iff.mp done
  obtain ⟨second, reqReg, done⟩ := Option.bind_eq_some_iff.mp done
  obtain ⟨third, varReq, same⟩ := Option.map_eq_some_iff.mp done
  cases same
  exact ((quiet_publishModification search).trans (quiet_publishModification reqReg)).trans
    (quiet_publishModification varReq)

theorem quiet_acknowledge {r : Registration} (done : acknowledge r k st = some (st', out)) :
    Quiet st st' := by
  obtain ⟨s, _, done⟩ := Option.bind_eq_some_iff.mp done
  dsimp only at done
  split at done
  · obtain ⟨published, publishing, same⟩ := Option.map_eq_some_iff.mp done
    cases same
    exact quiet_publishRegistration publishing
  · cases done
    exact .refl st

end Quiet

/-! ### What the handlers write to the registry -/

section Writes

variable [XTEDS τ] {st st' : DMState τ} {out : List Effect} {l : XTEDSLibraryList τ}

/-- After a document has been registered the handler only publishes. -/
theorem quiet_registerDocument {r : Registration} {type : Hub} {sensor : CString} {o : Outcome}
    (scanned : XTEDS.parseDeviceName τ r.text = some (type, sensor)) (framed : IsFramed r.text)
    (registered : register sensor type r st.xTEDSList = some (l, o))
    (done : registerDocument r st = some (st', out)) : Quiet { st with xTEDSList := l } st' := by
  simp only [registerDocument, scanned, if_pos framed, registered, Option.bind_some] at done
  split at done
  · cases done
    exact .refl _
  · obtain ⟨s, _, same⟩ := Option.map_eq_some_iff.mp done
    cases same
    exact .refl _
  · exact quiet_acknowledge done
  · exact quiet_acknowledge done

/-- `xTEDS` registers at most one document, by the scanned name, and publishes. -/
theorem registerDocument_cases {r : Registration}
    (done : registerDocument r st = some (st', out)) :
    st' = st ∨ ∃ type sensor l o, XTEDS.parseDeviceName τ r.text = some (type, sensor) ∧
      register sensor type r st.xTEDSList = some (l, o) ∧ Quiet { st with xTEDSList := l } st' := by
  cases scanned : XTEDS.parseDeviceName τ r.text with
  | none =>
      simp only [registerDocument, scanned] at done
      cases done
      exact .inl rfl
  | some name =>
      obtain ⟨type, sensor⟩ := name
      by_cases framed : IsFramed r.text
      · cases registered : register sensor type r st.xTEDSList with
        | none => simp [registerDocument, scanned, framed, registered] at done
        | some result =>
            obtain ⟨l, o⟩ := result
            exact .inr ⟨type, sensor, l, o, rfl, registered,
              quiet_registerDocument scanned framed registered done⟩
      · simp only [registerDocument, scanned, if_neg framed] at done
        cases done
        exact .inl rfl

/-- `CancelxTEDS` quiesces at most one slot, publishes, and releases that slot. -/
theorem cancelxTEDS_cases {msg : Option SDMCancelxTEDS} {sender : SDMComponentID}
    (done : cancelxTEDS msg sender st = some (st', out)) :
    st' = st ∨ ∃ (c : SDMCancelxTEDS) (k : Nat) (s : XTEDSLibrary τ) (st₁ : DMState τ),
      msg = some c ∧ cancelTarget c sender st = some k ∧ st.xTEDSList[k]? = some s ∧
      Quiet { st with xTEDSList := st.xTEDSList.modify k (quiesce c.fullCancel) } st₁ ∧
      st'.xTEDSList =
        if s.id.port = PORT_DM then st₁.xTEDSList else st₁.xTEDSList.modify k release := by
  unfold cancelxTEDS at done
  split at done
  · cases done
    exact .inl rfl
  · rename_i c
    split at done
    · cases done
      exact .inl rfl
    · rename_i k target
      obtain ⟨s, at_k, done⟩ := Option.bind_eq_some_iff.mp done
      obtain ⟨published, publishing, done⟩ := Option.map_eq_some_iff.mp done
      refine .inr ⟨c, k, s, published.1, rfl, target, at_k,
        quiet_publishModification publishing, ?_⟩
      dsimp only at done
      split at done
      · rename_i own
        cases done
        rw [if_pos own]
      · rename_i other
        cases done
        rw [if_neg other]

omit [XTEDS τ] in
/-- The slot found by `CancelxTEDS` is in use and active. -/
theorem cancelTarget_spec {msg : SDMCancelxTEDS} {sender : SDMComponentID} {k : Nat}
    (target : cancelTarget msg sender st = some k) :
    ∃ s, st.xTEDSList[k]? = some s ∧ IsCancelled msg.source.port msg.source.sensorID
      (knownAddress st.addressDM msg.source sender) s := by
  obtain ⟨lt, hit, _⟩ := List.findIdx?_eq_some_iff_getElem.mp target
  exact ⟨_, List.getElem?_eq_getElem lt, of_decide_eq_true hit⟩

/-- `TaskError` suspends at most one slot, ends what its component consumes and provides, and
publishes. -/
theorem taskError_cases {msgError : Option SDMTaskError} {sender : SDMComponentID}
    (done : taskError msgError sender st = some (st', out)) :
    (st' = st ∧ out = []) ∨ ∃ (e : SDMTaskError) (k : Nat) (s : XTEDSLibrary τ)
      (published : List Effect), msgError = some e ∧ errorTarget e sender st = some k ∧
      st.xTEDSList[k]? = some s ∧
      publishModification REQ_REG_CANCELLATION .DEREGISTRATION_MODIFICATION k
        (SubscriptionList.removeFailed s.id st.subscribers) { st with
          xTEDSList := st.xTEDSList.modify k suspend
          sensorSubscriptions := providerFinish s.id (subscriberFinish s.id st.sensorSubscriptions).2
          subscribers := SubscriptionList.removeFailed s.id st.subscribers } =
        some (st', published) ∧
      out = (subscriberFinish s.id st.sensorSubscriptions).1.map .deletesub ++ (published ++
        (notify s.id.sensorID NOTI_DEREGISTRATION .MOD_NOT_APPLICABLE st' ++
          notify s.id.sensorID NOTI_REGISTRATION_CHANGE .DEREGISTRATION_MODIFICATION st')) := by
  unfold taskError at done
  split at done
  · cases done
    exact .inl ⟨rfl, rfl⟩
  · rename_i e
    split at done
    · cases done
      exact .inl ⟨rfl, rfl⟩
    · rename_i k target
      obtain ⟨s, at_k, done⟩ := Option.bind_eq_some_iff.mp done
      obtain ⟨published, publishing, same⟩ := Option.map_eq_some_iff.mp done
      cases same
      exact .inr ⟨e, k, s, published.2, rfl, target, at_k, publishing, rfl⟩

/-- A guard on registrations, on the messages of the Data Manager. -/
def OnDocument (ok : XTEDSLibraryList τ → CString → Registration → Prop) (st : DMState τ) :
    DMMessage → Prop
  | .registerDocument r => ∀ type sensor, XTEDS.parseDeviceName τ r.text = some (type, sensor) →
      ok st.xTEDSList sensor r
  | _ => True

theorem reaches_of_core {ok : XTEDSLibraryList τ → CString → Registration → Prop}
    {l' : XTEDSLibraryList τ} (same : l'.map core = l.map core) :
    registryMachine.Reaches (OnRegister ok) l l' := by
  obtain ⟨posted, connections, marked⟩ := mark_of_core same
  exact .step (a := .mark posted connections) .start trivial marked

omit [XTEDS τ] in
theorem core_modify_connections {k : Nat} {f : XTEDSLibrary τ → XTEDSLibrary τ}
    (same : ∀ s, core (f s) = core s) : (l.modify k f).map core = l.map core := by
  apply List.ext_getElem?
  intro j
  rw [List.getElem?_map, List.getElem?_map]
  by_cases here : k = j
  · subst here
    rw [List.getElem?_modify_eq]
    cases l[k]? with
    | none => rfl
    | some s => exact congrArg some (same s)
  · rw [List.getElem?_modify_ne _ _ here]

omit [XTEDS τ] in
theorem xTEDSList_subscribe {subscriberId : SDMComponentID} {mID : SDMMessageID} :
    (subscribe subscriberId mID st).1.xTEDSList = st.xTEDSList := by
  unfold subscribe
  split <;> rfl

/-- `Consume`, `Cancel` and an exhaustive `ReqReg` only count. -/
theorem core_consume {msg : SDMConsume} {sender : SDMComponentID}
    (done : consume msg sender st = some (st', out)) :
    st'.xTEDSList.map core = st.xTEDSList.map core := by
  unfold consume at done
  split at done
  · cases done
    rfl
  · dsimp only at done
    split at done
    · obtain ⟨rfl, -⟩ := Prod.ext_iff.mp (Option.some.inj done)
      rw [xTEDSList_subscribe]
    · obtain ⟨tree, _, same⟩ := Option.map_eq_some_iff.mp done
      cases same
      exact core_modify_connections fun _ => rfl

omit [XTEDS τ] in
theorem core_cancel {msg : SDMCancel} {sender : SDMComponentID} :
    (cancel msg sender st).1.xTEDSList.map core = st.xTEDSList.map core := by
  unfold cancel
  split
  · rfl
  · dsimp only
    split
    · rfl
    · exact core_modify_connections fun _ => rfl

theorem core_reqReg {q : ReqRegCall} (done : reqReg q st = some (st', out)) :
    st'.xTEDSList.map core = st.xTEDSList.map core := by
  unfold reqReg at done
  split at done
  · obtain ⟨⟨subscribers, added⟩, _, done⟩ := Option.bind_eq_some_iff.mp done
    dsimp only at done
    split at done
    · exact (quiet_reqRegSearch done).slots
    · cases done
      rfl
  · exact (quiet_reqRegSearch done).slots

/-- **A message as registry writes.** What a message does to the registry is a run
of registry writes; a registration is made only where its guard holds. -/
theorem registry_step {ok : XTEDSLibraryList τ → CString → Registration → Prop} {msg : DMMessage}
    (guard : OnDocument ok st msg) (taken : dataManager.step st msg = some (st', out)) :
    registryMachine.Reaches (OnRegister ok) st.xTEDSList st'.xTEDSList := by
  cases msg with
  | registerDocument r =>
      rcases registerDocument_cases taken with rfl | ⟨type, sensor, l, o, scanned, done, quiet⟩
      · exact .start
      · have registered : registryMachine.step st.xTEDSList (.register sensor type r) =
            some (l, some o) := by
          simp only [registryMachine, done, Option.map_some]
        have run : registryMachine.Reaches (OnRegister ok) st.xTEDSList l :=
          .step (a := .register sensor type r) .start (guard type sensor scanned) registered
        exact run.trans (reaches_of_core quiet.slots)
  | cancelxTEDS msg sender =>
      rcases cancelxTEDS_cases taken with rfl | ⟨c, k, s, st₁, _, target, at_k, quiet, released⟩
      · exact .start
      · obtain ⟨t, same, inUse, _, _, active, _⟩ := cancelTarget_spec target
        have quiesced : registryMachine.step st.xTEDSList (.quiesce k c.fullCancel) =
            some (st.xTEDSList.modify k (quiesce c.fullCancel), none) := by
          simp [registryMachine, same, inUse, active]
        have run : registryMachine.Reaches (OnRegister ok) st.xTEDSList st₁.xTEDSList :=
          (Machine.Reaches.step (a := .quiesce k c.fullCancel) .start trivial quiesced).trans
            (reaches_of_core quiet.slots)
        rw [released]
        split
        · exact run
        · exact .step (a := .release k) run trivial rfl
  | taskError msgError sender =>
      rcases taskError_cases taken with ⟨rfl, -⟩ | ⟨e, k, s, published, -, -, -, publishing, -⟩
      · exact .start
      · have suspended : registryMachine.step st.xTEDSList (.suspend k) =
            some (st.xTEDSList.modify k suspend, none) := rfl
        have run : registryMachine.Reaches (OnRegister ok) st.xTEDSList
            (st.xTEDSList.modify k suspend) := .step (a := .suspend k) .start trivial suspended
        exact run.trans (reaches_of_core (quiet_publishModification publishing).slots)
  | reqReg msg sender => exact reaches_of_core (core_reqReg taken)
  | consume msg sender => exact reaches_of_core (core_consume taken)
  | cancel msg sender =>
      have same : (cancel msg sender st).1 = st' := congrArg Prod.fst (Option.some.inj taken)
      exact same ▸ reaches_of_core core_cancel

/-- **The Data Manager refines the registry writes.** -/
theorem registry_run {ok : XTEDSLibraryList τ → CString → Registration → Prop}
    (run : dataManager.Reaches (OnDocument ok) st st') :
    registryMachine.Reaches (OnRegister ok) st.xTEDSList st'.xTEDSList := by
  obtain ⟨l, reached, rfl⟩ := run.simulates (R := fun st l => st.xTEDSList = l) rfl
    fun st msg st' out l same guard taken => ⟨_, same ▸ registry_step guard taken, rfl⟩
  exact reached

/-- The registry of every state reached is well formed. -/
theorem wellFormed_reachable (run : dataManager.Reachable st st')
    (wf : WellFormed st.xTEDSList) : WellFormed st'.xTEDSList := by
  have guarded : dataManager.Reaches (OnDocument fun _ _ _ => True) st st' :=
    run.mono fun _ msg _ => by
      cases msg with
      | registerDocument r => exact fun _ _ _ => trivial
      | _ => trivial
  exact wf.reaches (registry_run guarded)

end Writes

/-! ### The start -/

/-- The registry holds the Data Manager's own registration and nothing else. -/
def OnlyDataManager (st : DMState τ) : Prop :=
  ∃ s, st.xTEDSList = [s] ∧ s.available = false ∧ s.active = true ∧ s.xtedsTree.isSome = true ∧
    s.id = ⟨DM_SENSOR_ID, st.addressDM, PORT_DM⟩

theorem OnlyDataManager.wellFormed {st : DMState τ} (start : OnlyDataManager st) :
    WellFormed st.xTEDSList := by
  obtain ⟨s, only, inUse, _, tree, own⟩ := start
  rw [only]
  intro k t at_k
  cases k with
  | zero =>
      cases at_k
      refine ⟨fun _ => inUse, fun _ => tree, fun _ => ?_⟩
      rw [own]
      show DM_SENSOR_ID.toNat / 65536 = 0 % 65536
      decide
  | succ k => cases at_k

/-- The Data Manager's own slot. -/
def ownSlot : XTEDSLibrary NamedDocument :=
  { (XTEDSLibrary.new : XTEDSLibrary NamedDocument) with
    available := false
    active := true
    id := ⟨DM_SENSOR_ID, 1, PORT_DM⟩
    xtedsTree := some ⟨.ofString "DataManager", []⟩ }

/-- A Data Manager that has just started. -/
def justStarted : DMState NamedDocument :=
  { xTEDSList := [ownSlot], subscribers := [], sensorSubscriptions := [], addressDM := 1,
    taskManager := .zero }

theorem onlyDataManager_justStarted : OnlyDataManager justStarted :=
  ⟨ownSlot, rfl, rfl, rfl, rfl, rfl⟩

/-- The registration of an application on another node. -/
def application (name : String) (port : UInt16) (sensorID : UInt32) : Registration :=
  { source := ⟨sensorID, 2, port⟩, active := 1, pid := 0, SPA_node := .empty
    text := NamedDocument.document name }

/-- The slot it is stored at. -/
def slotOf (k : Nat) (name : String) (r : Registration) : XTEDSLibrary NamedDocument :=
  { fill k .APPLICATION r (.new : XTEDSLibrary NamedDocument) with
    fullxTED := some r.text, xtedsTree := some ⟨.ofString name, []⟩ }

/-- A Data Manager with these registrations. -/
def withRegistrations (l : XTEDSLibraryList NamedDocument) : DMState NamedDocument :=
  { justStarted with xTEDSList := ownSlot :: l }

end DMState

end Sdm
