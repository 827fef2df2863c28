import Sdm.Lib.Scan
import Sdm.Lib.SlotTable
import Sdm.Message.Requests

/-!
The Data Manager's subscription list (`SubscriptionList.cpp`, `Subscription.cpp`
and `CancelSubscription` of `DM.cpp`).

One list of reusable nodes holds four kinds of entry: subscriptions to the Data
Manager's own notifications, and standing `SDMReqReg`, `SDMSearch` and
`SDMVarReq` queries. A cancelled node stays in the list with its strings and its
source; the next subscription overwrites the fields its kind uses.

Every function walks the list with its own sequence of tests. A text field of a
node may be unset (`NULL`), and a `strcmp` that reads it has no result; the
functions below return nothing in that case.
-/

namespace Sdm

open Lib

/-- `Subscription`, the data of a list node. -/
structure Subscription where
  mID : SDMMessageID
  inUse : Bool
  id : UInt16
  itemName : Option CString
  quallist : Option CString
  destination : SDMComponentID
  source : SDMComponentID
  device : Option CString
  interface : Option CString
  items : Bool
  deriving DecidableEq, Repr

namespace Subscription

/-- `Subscription::Subscription()`. -/
def new : Subscription :=
  { mID := .zero, inUse := false, id := 0, itemName := none, quallist := none,
    destination := .zero, source := .zero, device := none, interface := none, items := false }

/-- The setter calls by which the `remove…Subscription` functions free a node. -/
def release (n : Subscription) : Subscription :=
  { n with
    destination := { n.destination with port := 0 }
    mID := .zero
    inUse := false
    items := false
    id := 0 }

/-- The setter calls by which `CancelSubscription` frees a node. -/
def releaseNotification (n : Subscription) : Subscription :=
  { n with destination := { n.destination with port := 0 }, mID := .zero, inUse := false }

/-- Nested tests of a scan: flags and identifiers (`guard`), then the strings in
order, then what is tested after them (`after`). -/
def test (guard : Prop) [Decidable guard] (texts : List (Option CString × Option CString))
    (after : Prop) [Decidable after] : Option Bool :=
  if guard then (sameTexts? texts).map fun same => same && decide after else some false

end Subscription

/-- The list of nodes, in order. -/
abbrev SubscriptionList := List Subscription

/-- The arguments of `addOrRemoveSubscription`. -/
structure SubscriptionArgs where
  reply : UInt8
  subscriberId : SDMComponentID
  source : SDMComponentID
  device : Option CString
  interface : Option CString
  itemname : Option CString
  quallist : Option CString
  id : UInt16
  mID : SDMMessageID
  deriving DecidableEq, Repr

namespace SubscriptionList

open Subscription

/-- Reuse the first node that is not in use, or append a new one. -/
def enter (fill : Subscription → Subscription) (l : SubscriptionList) : SubscriptionList :=
  occupy Subscription.inUse fill Subscription.new l

/-! ### Notifications -/

/-- The entry for a notification of this subscriber. -/
def isNotification (subscriberId : SDMComponentID) (mID : SDMMessageID) (n : Subscription) : Bool :=
  decide (n.inUse = true ∧ n.destination = subscriberId ∧ n.mID = mID ∧ n.items = false)

/-- The fields `addSubscription` sets. -/
def fillNotification (subscriberId : SDMComponentID) (mID : SDMMessageID) (n : Subscription) :
    Subscription :=
  { n with destination := subscriberId, mID := mID, inUse := true, items := false }

/-- `addSubscription(SubscriberId, mID)`. -/
def addSubscription (subscriberId : SDMComponentID) (mID : SDMMessageID) (l : SubscriptionList) :
    SubscriptionList :=
  if l.any (isNotification subscriberId mID) then l
  else enter (fillNotification subscriberId mID) l

/-- `CancelSubscription(SubscriberId, mID)`. -/
def cancelSubscription (subscriberId : SDMComponentID) (mID : SDMMessageID) (l : SubscriptionList) :
    SubscriptionList :=
  match l.findIdx? (isNotification subscriberId mID) with
  | none => l
  | some k => l.modify k releaseNotification

/-! ### `SDMReqReg` subscriptions -/

/-- The four text comparisons of a `ReqReg` entry. -/
def reqRegTexts (a : SubscriptionArgs) (n : Subscription) :
    List (Option CString × Option CString) :=
  [(n.itemName, a.itemname), (n.quallist, a.quallist), (n.device, a.device),
    (n.interface, a.interface)]

/-- The duplicate test of `addReqRegSubscription` in the pass that looks for
`want`; the scan looks at entries with either message id. -/
def reqRegDuplicate (a : SubscriptionArgs) (val1 val2 want : SDMMessageID) (n : Subscription) :
    Option Bool :=
  test (n.inUse = true ∧ n.destination = a.subscriberId ∧ (n.mID = val1 ∨ n.mID = val2) ∧
    n.source = a.source ∧ n.items = true) (reqRegTexts a n) (n.mID = want)

/-- The fields `addReqRegSubscription` sets, copies of set strings. -/
def fillReqReg (a : SubscriptionArgs) (mID : SDMMessageID) (n : Subscription) : Subscription :=
  { n with
    itemName := a.itemname
    quallist := a.quallist
    destination := a.subscriberId
    source := a.source
    device := a.device
    interface := a.interface
    mID := mID
    inUse := true
    items := true
    id := a.id }

/-- Enter a `ReqReg` subscription; copying an unset string has no result. -/
def enterReqReg (a : SubscriptionArgs) (mID : SDMMessageID) (l : SubscriptionList) :
    Option SubscriptionList :=
  if a.itemname.isSome ∧ a.quallist.isSome ∧ a.device.isSome ∧ a.interface.isSome then
    some (enter (fillReqReg a mID) l)
  else none

/-- `addReqRegSubscription`. With `SUB_CURRENT_AND_FUTURE` one pass looks for a
future entry and returns at a duplicate; otherwise the first pass walks the
whole list for a future entry and the second looks for a cancellation entry. -/
def addReqRegSubscription (a : SubscriptionArgs) (l : SubscriptionList) :
    Option SubscriptionList :=
  if a.reply = SUB_CURRENT_AND_FUTURE then
    (search (reqRegDuplicate a REQ_REG_FUTURE .zero REQ_REG_FUTURE) l).bind fun duplicate =>
      if duplicate.isSome then some l else enterReqReg a REQ_REG_FUTURE l
  else
    (sweep (reqRegDuplicate a REQ_REG_FUTURE REQ_REG_CANCELLATION REQ_REG_FUTURE) l).bind
      fun nosub =>
    (if nosub then some l else enterReqReg a REQ_REG_FUTURE l).bind fun l =>
    (search (reqRegDuplicate a REQ_REG_FUTURE REQ_REG_CANCELLATION REQ_REG_CANCELLATION) l).bind
      fun duplicate =>
    if duplicate.isSome then some l else enterReqReg a REQ_REG_CANCELLATION l

/-- The test of the single `removeReqRegSubscription` in the pass for `want`. -/
def reqRegMatch (a : SubscriptionArgs) (want : SDMMessageID) (n : Subscription) : Option Bool :=
  test (n.inUse = true ∧ n.destination = a.subscriberId ∧ n.mID = want ∧ n.items = true ∧
    n.source = a.source) (reqRegTexts a n) True

/-- Free the node at which a search stopped. -/
def releaseAt (l : SubscriptionList) : Option Nat → SubscriptionList
  | none => l
  | some k => l.modify k release

/-- The single `removeReqRegSubscription`: the first pass frees every matching
future entry, the second frees the first matching cancellation entry. -/
def removeReqRegSubscription (a : SubscriptionArgs) (l : SubscriptionList) :
    Option SubscriptionList :=
  if a.device = none ∨ a.interface = none ∨ a.itemname = none ∨ a.quallist = none then some l
  else
    (updateWhere (reqRegMatch a REQ_REG_FUTURE) release l).bind fun l =>
    (search (reqRegMatch a REQ_REG_CANCELLATION) l).map (releaseAt l)

/-! ### `SDMSearch` and `SDMVarReq` subscriptions -/

/-- The duplicate test of `addSearchSubscription`: the message id is tested
after the text. -/
def searchDuplicate (a : SubscriptionArgs) (n : Subscription) : Option Bool :=
  test (n.inUse = true ∧ n.destination = a.subscriberId ∧ n.source = a.source ∧ n.items = true)
    [(n.itemName, a.itemname)] (n.mID = SEARCH_REPLY)

/-- The fields `addSearchSubscription` sets. -/
def fillSearch (a : SubscriptionArgs) (n : Subscription) : Subscription :=
  { n with
    itemName := a.itemname
    destination := a.subscriberId
    source := a.source
    mID := SEARCH_REPLY
    inUse := true
    items := true
    id := a.id }

/-- `addSearchSubscription`. -/
def addSearchSubscription (a : SubscriptionArgs) (l : SubscriptionList) :
    Option SubscriptionList :=
  (search (searchDuplicate a) l).bind fun duplicate =>
    if duplicate.isSome then some l
    else if a.itemname.isSome then some (enter (fillSearch a) l) else none

/-- The duplicate test of `addVarReqSubscription`: the message id is tested
after both texts. -/
def varReqDuplicate (a : SubscriptionArgs) (n : Subscription) : Option Bool :=
  test (n.inUse = true ∧ n.destination = a.subscriberId ∧ n.source = a.source ∧ n.items = true)
    [(n.itemName, a.itemname), (n.interface, a.interface)] (n.mID = VAR_REQ_REPLY)

/-- The fields `addVarReqSubscription` sets. -/
def fillVarReq (a : SubscriptionArgs) (n : Subscription) : Subscription :=
  { n with
    itemName := a.itemname
    destination := a.subscriberId
    source := a.source
    mID := VAR_REQ_REPLY
    inUse := true
    items := true
    id := a.id
    interface := a.interface }

/-- `addVarReqSubscription`. -/
def addVarReqSubscription (a : SubscriptionArgs) (l : SubscriptionList) :
    Option SubscriptionList :=
  (search (varReqDuplicate a) l).bind fun duplicate =>
    if duplicate.isSome then some l
    else if a.itemname.isSome ∧ a.interface.isSome then some (enter (fillVarReq a) l) else none

/-- The test of the single `removeSearchSubscription` (with `SEARCH_REPLY`) and
`removeVarReqSubscription` (with `VAR_REQ_REPLY`): neither looks at the items
flag, and the second does not look at the interface. -/
def singleMatch (want : SDMMessageID) (a : SubscriptionArgs) (n : Subscription) : Option Bool :=
  test (n.inUse = true ∧ n.destination = a.subscriberId ∧ n.mID = want ∧ n.source = a.source)
    [(n.itemName, a.itemname)] True

/-- The single cancels of `SDMSearch` and `SDMVarReq`: free the first match. -/
def removeSingle (want : SDMMessageID) (a : SubscriptionArgs) (l : SubscriptionList) :
    Option SubscriptionList :=
  if a.itemname = none then some l
  else (search (singleMatch want a) l).map (releaseAt l)

/-- The single `removeSearchSubscription`. -/
def removeSearchSubscription : SubscriptionArgs → SubscriptionList → Option SubscriptionList :=
  removeSingle SEARCH_REPLY

/-- The single `removeVarReqSubscription`; its `interface` argument is not used. -/
def removeVarReqSubscription : SubscriptionArgs → SubscriptionList → Option SubscriptionList :=
  removeSingle VAR_REQ_REPLY

/-! ### Cancelling all subscriptions of a subscriber -/

/-- The bulk `removeSearchSubscription` and `removeVarReqSubscription`. -/
def removeAll (want : SDMMessageID) (a : SubscriptionArgs) (l : SubscriptionList) :
    SubscriptionList :=
  releaseWhere (fun n => decide (n.inUse = true ∧ n.destination = a.subscriberId ∧ n.mID = want ∧
    n.items = true)) release l

/-- The bulk `removeReqRegSubscription` compares address and port only. -/
def removeAllReqReg (a : SubscriptionArgs) (l : SubscriptionList) : SubscriptionList :=
  releaseWhere (fun n => decide (n.inUse = true ∧
    n.destination.address = a.subscriberId.address ∧ n.destination.port = a.subscriberId.port ∧
    (n.mID = REQ_REG_FUTURE ∨ n.mID = REQ_REG_CANCELLATION) ∧ n.items = true)) release l

/-- The bulk `removeReqRegSubscription` for a component that has failed. -/
def removeFailed (component : SDMComponentID) : SubscriptionList → SubscriptionList :=
  removeAllReqReg ⟨SUB_CANCEL, component, .zero, none, none, none, none, 0, REQ_REG_FUTURE⟩

/-! ### `addOrRemoveSubscription` -/

/-- `text == NULL || strlen(text) == 0`. -/
def isUnset (text : Option CString) : Bool :=
  match text with
  | none => true
  | some s => s.length == 0

/-- The cancel names no source and no text. -/
def namesNothing (a : SubscriptionArgs) : Bool :=
  a.source.isEmpty && isUnset a.itemname && isUnset a.quallist && isUnset a.device &&
    isUnset a.interface

/-- `addOrRemoveSubscription`: the returned flag says whether the caller goes on
to search. -/
def addOrRemoveSubscription (a : SubscriptionArgs) (l : SubscriptionList) :
    Option (SubscriptionList × Bool) :=
  if a.reply = SUB_CURRENT_AND_FUTURE ∨ a.reply = SUB_CURRENT_FUTURE_AND_CANCELLATIONS then
    (if a.mID = SEARCH_REPLY then addSearchSubscription a l
      else if a.mID = VAR_REQ_REPLY then addVarReqSubscription a l
      else addReqRegSubscription a l).map fun l => (l, true)
  else if a.reply = SUB_CANCEL then
    if namesNothing a then
      some (if a.mID = SEARCH_REPLY then removeAll SEARCH_REPLY a l
        else if a.mID = VAR_REQ_REPLY then removeAll VAR_REQ_REPLY a l
        else removeAllReqReg a l, false)
    else
      (if a.mID = SEARCH_REPLY then removeSearchSubscription a l
        else if a.mID = VAR_REQ_REPLY then removeVarReqSubscription a l
        else removeReqRegSubscription a l).map fun l => (l, false)
  else some (l, true)

end SubscriptionList

end Sdm
