import Sdm.Message.Requests
import Sdm.DM.Publish

/-!
The registry of xTEDS documents (`xTEDSLibrary.cpp`, `xTEDSLibraryList.cpp`) and
the state of the Data Manager.

The registry is a list of slots. A slot that is `available` holds no document;
one that is not is in use, and is `active` while its component runs. Slots are
never removed. A document is searched through the tree that the xTEDS parser
builds from it; the parser and the searches of its trees are the class
`XTEDS`.
-/

namespace Sdm

open Lib

/-- `MessageDef`: one matched message of a document. -/
structure MessageDef where
  interfaceMessageID : SDMMessageID
  definitions : CString
  xTEDSPortion : CString
  deriving DecidableEq, Repr

/-- The `hub` of a slot: `APPLICATION`, `DEVICE` or `ROBOHUB`. -/
inductive Hub where
  | APPLICATION
  | DEVICE
  | ROBOHUB
  deriving DecidableEq, Repr

/-- The xTEDS parser and what the Data Manager asks of a parsed tree. -/
class XTEDS (τ : Type) where
  /-- `ParseDeviceName`: the kind and the name of the device or application
  element, read from the text without parsing it; nothing is found in some texts. -/
  parseDeviceName : CString → Option (Hub × CString)
  /-- `xTEDS::Parse`; a text may be rejected. -/
  parse : CString → Option τ
  /-- `xTEDS::getDeviceName`, set by every successful parse. -/
  getDeviceName : τ → CString
  /-- `xTEDS::RegInfo(item_name, quallist, device, interface)`. -/
  regInfo : τ → CString → CString → Option CString → Option CString → List MessageDef
  /-- `xTEDS::AllRegInfo(quallist, device, interface)`. -/
  allRegInfo : τ → CString → Option CString → Option CString → List MessageDef
  /-- `xTEDS::RegexRegInfo(item_name, quallist, device, interface)`; an invalid
  expression throws. -/
  regexRegInfo : τ → CString → CString → Option CString → Option CString →
    Option (List MessageDef)
  /-- `xTEDS::getNotificationFaultMsgID`. -/
  getNotificationFaultMsgID : τ → SDMMessageID → SDMMessageID

/-- `xTEDSLibrary`, a slot of the registry. -/
structure XTEDSLibrary (τ : Type) where
  available : Bool
  connections : Nat
  active : Bool
  pid : UInt32
  hub : Hub
  posted : Bool
  spaNode : Option CString
  fullxTED : Option CString
  id : SDMComponentID
  xtedsTree : Option τ
  deriving DecidableEq, Repr

namespace XTEDSLibrary

variable {τ : Type}

/-- `xTEDSLibrary::xTEDSLibrary()`. -/
def new : XTEDSLibrary τ :=
  { available := true, connections := 0, active := false, pid := 0, hub := .APPLICATION,
    posted := false, spaNode := none, fullxTED := none, id := .zero, xtedsTree := none }

/-- `getName`: unset while the slot has no tree. -/
def getName [XTEDS τ] (s : XTEDSLibrary τ) : Option CString := s.xtedsTree.map XTEDS.getDeviceName

/-- `setxTEDS`: the text is kept even when it does not parse. -/
def setxTEDS [XTEDS τ] (text : CString) (s : XTEDSLibrary τ) : XTEDSLibrary τ :=
  { s with fullxTED := some text, xtedsTree := XTEDS.parse text }

end XTEDSLibrary

/-- `xTEDSList`. -/
abbrev XTEDSLibraryList (τ : Type) := List (XTEDSLibrary τ)

namespace XTEDSLibraryList

variable {τ : Type} {l : XTEDSLibraryList τ} {sID : UInt32} {k : Nat}

/-- `MatchSID`: the position of the first active slot with this sensor id. -/
def matchSID (sID : UInt32) (l : XTEDSLibraryList τ) : Option Nat :=
  l.findIdx? fun s => s.active && s.id.sensorID == sID

theorem matchSID_eq_some_iff : matchSID sID l = some k ↔
    ∃ s, l[k]? = some s ∧ s.active = true ∧ s.id.sensorID = sID ∧
      ∀ j < k, ∀ s, l[j]? = some s → ¬ (s.active = true ∧ s.id.sensorID = sID) := by
  unfold matchSID
  rw [List.findIdx?_eq_some_iff_getElem]
  constructor
  · rintro ⟨lt, hit, before⟩
    simp only [Bool.and_eq_true, beq_iff_eq] at hit before
    refine ⟨l[k], List.getElem?_eq_getElem lt, hit.1, hit.2, fun j jlt s at_j => ?_⟩
    obtain ⟨jlt', rfl⟩ := List.getElem?_eq_some_iff.mp at_j
    exact before j jlt
  · rintro ⟨s, at_k, active, same, before⟩
    obtain ⟨lt, rfl⟩ := List.getElem?_eq_some_iff.mp at_k
    simp only [Bool.and_eq_true, beq_iff_eq]
    exact ⟨lt, ⟨active, same⟩, fun j jlt =>
      before j jlt _ (List.getElem?_eq_getElem (jlt.trans lt))⟩

end XTEDSLibraryList

/-! ### Provider subscriptions and the Data Manager's state -/

/-- `ProviderSubscription`: a subscriber with an xTEDS and what it consumes. -/
structure ProviderSubscription where
  provider : SDMComponentID
  subscriber : SDMComponentID
  message : SDMMessageID
  deriving DecidableEq, Repr

/-- `g_SensorSubscriptions`. -/
abbrev ProviderSubscriptionList := List ProviderSubscription

/-- The globals of the Data Manager that its handlers read and write. -/
structure DMState (τ : Type) where
  xTEDSList : XTEDSLibraryList τ
  subscribers : SubscriptionList
  sensorSubscriptions : ProviderSubscriptionList
  /-- `Address_DM`. -/
  addressDM : UInt32
  /-- `TaskManager`. -/
  taskManager : SDMComponentID
  deriving DecidableEq, Repr

/-- What the Data Manager sends, in order. A registry slot that a message is
about is given by its position in the list. -/
inductive Effect where
  | ack (status : AckStatus)
  | sdmID (destination : SDMComponentID)
  | notification (msg : NotificationData)
  | regInfo (slot : Nat) (destination : SDMComponentID) (msg : SDMRegInfo)
  | regInfoEmpty (destination : SDMComponentID)
  /-- `Search` or `VarReq` is run again for one slot; its replies change nothing. -/
  | rerun (query : Republish) (slot : Nat)
  | postTask (filename : CString)
  | subreqst (msg : SDMSubreqst)
  | deletesub (msg : SDMDeletesub)
  deriving DecidableEq, Repr

end Sdm
