import Sdm.DM.SubscriptionList

/-!
What the Data Manager reads from its subscription list to publish a change.

`republish` is the body of `PublishxTEDSModificationSubscription` for one node:
the stored query is turned back into a request message, to be run for the slot
that changed. Its copies (`memcpy`, `strlen`, `atoi`) read the node's strings,
so it has no result on a node that lacks one of them.
`publishNotification` is `PublishNotification`.
-/

namespace Sdm

open Lib

/-- A stored query, sent again on behalf of its subscriber. -/
inductive Republish where
  | reqReg (msg : SDMReqReg) (sender : SDMComponentID)
  | search (msg : SDMSearch) (sender : SDMComponentID)
  | varReq (msg : SDMVarReq) (sender : SDMComponentID)
  deriving DecidableEq, Repr

/-- The `SDMData` of a notification. -/
structure NotificationData where
  destination : SDMComponentID
  msg_id : SDMMessageID
  /-- Present in `NOTI_REGISTRATION_CHANGE` only. -/
  action : Option Modification
  sensorID : UInt32
  deriving DecidableEq, Repr

namespace SubscriptionList

/-- The `SDMReqReg` rebuilt from a node. -/
def rebuildReqReg (n : Subscription) : Option SDMReqReg := do
  let item_name ← n.itemName
  let quallist ← n.quallist
  let device ← n.device
  let interface ← n.interface
  return { source := n.source, destination := n.destination, reply := SDM_REQREG_CURRENT,
           id := n.id, device, interface, item_name, quallist }

/-- The `SDMSearch` rebuilt from a node: only the port of the destination is set. -/
def rebuildSearch (n : Subscription) : Option SDMSearch := do
  let reg_expr ← n.itemName
  return { source := n.source, destination := ⟨0, 0, n.destination.port⟩,
           reply := SDM_REQREG_CURRENT, id := n.id, reg_expr }

/-- The `SDMVarReq` rebuilt from a node. -/
def rebuildVarReq (n : Subscription) : Option SDMVarReq := do
  let interface ← n.interface
  let «variable» ← n.itemName
  return { source := n.source, destination := ⟨0, 0, n.destination.port⟩,
           reply := SDM_REQREG_CURRENT, msg_id := .ofInt (atoi interface), id := n.id,
           «variable» }

/-- What `PublishxTEDSModificationSubscription` does at one node. -/
def republish (messageID : SDMMessageID) (n : Subscription) : Option (Option Republish) :=
  if n.inUse = true ∧ n.mID = messageID then
    if messageID = REQ_REG_FUTURE ∨ messageID = REQ_REG_CANCELLATION then
      if n.items then (rebuildReqReg n).map fun msg => some (.reqReg msg n.destination)
      else some none
    else if messageID = SEARCH_REPLY then
      (rebuildSearch n).map fun msg => some (.search msg n.destination)
    else if messageID = VAR_REQ_REPLY then
      (rebuildVarReq n).map fun msg => some (.varReq msg n.destination)
    else some none
  else some none

/-- The queries that are run again for a change, in the order of the list. -/
def republished (messageID : SDMMessageID) : SubscriptionList → Option (List Republish)
  | [] => some []
  | n :: l => (republish messageID n).bind fun query =>
      (republished messageID l).map fun rest => query.toList ++ rest

/-- `PublishNotification` for the registration notifications. -/
def publishNotification (sensorID : UInt32) (messageID : SDMMessageID) (action : Modification)
    (l : SubscriptionList) : List NotificationData :=
  (l.filter fun n => n.inUse && n.mID == messageID).map fun n =>
    { destination := n.destination
      msg_id := messageID
      action := if messageID = NOTI_REGISTRATION_CHANGE then some action else none
      sensorID := sensorID }

theorem publishNotification_eq_nil_iff {sensorID : UInt32} {messageID : SDMMessageID}
    {action : Modification} {l : SubscriptionList} :
    publishNotification sensorID messageID action l = [] ↔
      ∀ n ∈ l, ¬ (n.inUse = true ∧ n.mID = messageID) := by
  simp [publishNotification, List.filter_eq_nil_iff]

theorem republished_eq_none_iff {messageID : SDMMessageID} {l : SubscriptionList} :
    republished messageID l = none ↔ ∃ n ∈ l, republish messageID n = none := by
  induction l with
  | nil => simp [republished]
  | cons n l ih =>
      cases h : republish messageID n with
      | none => simp [republished, h]
      | some query => simp [republished, h, ih]

end SubscriptionList

end Sdm
