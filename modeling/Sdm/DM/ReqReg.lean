import Sdm.DM.XTEDSLibrary

/-!
`ReqReg` of `DM.cpp`: the search of the registry for a `SDMReqReg`.

The handler walks the registry with a counter `numxTEDS`, compares the counter
with the slot it was asked about (`xTEDref`), and at the end posts inactive tasks
that matched, by a second count of the slots. `walk` is the first loop,
`postInactive` the second, `reqReg` the handler.

A freed slot is skipped before the counter is stepped, so the counter and the
position of the slot part at each of them. `replies_follow_index_iff` says when
the replies for slot `k` are those of the slot at position `k`.
-/

namespace Sdm

open Lib

/-! ### The request -/

/-- How `ReqReg` looks a request up in a tree. -/
inductive RequestType where
  | REQTYPE_USEITEM
  | REQTYPE_EMPTYITEM
  | REQTYPE_REGEX
  deriving DecidableEq, Repr

/-- The characters that make an item name a regular expression (`ParseItemName`). -/
def regexCharacters : CString := .ofString "*.[]\x7b\x7d()\\+?|^$"

/-- The request type of an item name. -/
def requestType (item_name : CString) : RequestType :=
  if item_name.length = 0 then .REQTYPE_EMPTYITEM
  else if item_name.bytes.any fun b => b ∈ regexCharacters.bytes then .REQTYPE_REGEX
  else .REQTYPE_USEITEM

/-- An optional text of the request: not used when it is empty. -/
def optionalText (text : CString) : Option CString := if text.length > 0 then some text else none

/-- The arguments of `ReqReg`; `xTEDref` is `none` for an exhaustive search. -/
structure ReqRegCall where
  msg : SDMReqReg
  xTEDref : Option Nat
  sender : SDMComponentID
  action : Modification
  deriving DecidableEq, Repr

namespace ReqRegCall

variable {τ : Type}

/-- The port replies go to. -/
def usPort (q : ReqRegCall) : UInt16 :=
  if q.msg.reply = SDM_REQREG_CURRENT ∧ q.msg.destination.port = 0 then q.sender.port
  else q.msg.destination.port

/-- The requester, for an exhaustive search. -/
def id (q : ReqRegCall) : SDMComponentID :=
  { sensorID := 0
    address := if q.msg.destination.address = 0 then q.sender.address else q.msg.destination.address
    port := q.usPort }

/-- Where replies are sent: to the sender for a standing query. -/
def replyTo (q : ReqRegCall) : SDMComponentID := if q.xTEDref = none then q.id else q.sender

/-- The lookup in one tree; an invalid expression gives nothing. -/
def lookup [XTEDS τ] (q : ReqRegCall) (tree : τ) : Option (List MessageDef) :=
  let device := optionalText q.msg.device
  let interface := optionalText q.msg.interface
  match requestType q.msg.item_name with
  | .REQTYPE_USEITEM => some (XTEDS.regInfo tree q.msg.item_name q.msg.quallist device interface)
  | .REQTYPE_EMPTYITEM => some (XTEDS.allRegInfo tree q.msg.quallist device interface)
  | .REQTYPE_REGEX => XTEDS.regexRegInfo tree q.msg.item_name q.msg.quallist device interface

/-- The component id of the slot matches the request, or any component does. -/
def Selects (q : ReqRegCall) (s : XTEDSLibrary τ) : Prop :=
  s.id = q.msg.source ∨ q.msg.source.sensorID = 0

instance (q : ReqRegCall) (s : XTEDSLibrary τ) : Decidable (q.Selects s) :=
  inferInstanceAs (Decidable (_ ∨ _))

/-- The slot is passed over without stepping the counter. -/
def Skips (q : ReqRegCall) (s : XTEDSLibrary τ) : Prop := q.Selects s ∧ s.available = true

instance (q : ReqRegCall) (s : XTEDSLibrary τ) : Decidable (q.Skips s) :=
  inferInstanceAs (Decidable (_ ∧ _))

/-- The `SDMRegInfo` for one matched message of a slot. -/
def regInfo (q : ReqRegCall) (s : XTEDSLibrary τ) (d : MessageDef) : SDMRegInfo :=
  { id := q.msg.id
    type := if q.action ≠ .DEREGISTRATION_MODIFICATION ∨ q.xTEDref = none then
        .SDM_REGINFO_REGISTRATION
      else .SDM_REGINFO_CANCELLATION
    source := s.id
    msg_id := d.interfaceMessageID
    msg_def := d.definitions
    xTEDS_section := d.xTEDSPortion }

/-- The messages sent for the matches of the slot at position `pos`. -/
def reports (q : ReqRegCall) (pos : Nat) (s : XTEDSLibrary τ) (defs : List MessageDef) :
    List Effect :=
  if s.active = true ∨ q.action = .DEREGISTRATION_MODIFICATION then
    (defs.filter fun d => decide (d.definitions.length > 15)).map fun d =>
      .regInfo pos q.replyTo (q.regInfo s d)
  else []

/-! ### The walk -/

/-- How the first loop ends: past the last slot or at an invalid expression
(`finished`), or by an early return. -/
inductive WalkEnd where
  | finished (sensorMatches : List Nat) (sent : List Effect)
  | returned (sent : List Effect)
  deriving DecidableEq, Repr

/-- The messages sent by the first loop. -/
def WalkEnd.sent : WalkEnd → List Effect
  | .finished _ sent => sent
  | .returned sent => sent

/-- The first loop, from the slot at position `pos` with the counter at
`numxTEDS`. -/
def walk [XTEDS τ] (q : ReqRegCall) :
    XTEDSLibraryList τ → (pos numxTEDS : Nat) → (sensorMatches : List Nat) → (sent : List Effect) →
      Option WalkEnd
  | [], _, _, sensorMatches, sent => some (.finished sensorMatches sent)
  | s :: rest, pos, numxTEDS, sensorMatches, sent =>
      -- the end of the loop body, where the counter is stepped
      let next (sensorMatches : List Nat) (sent : List Effect) : Option WalkEnd :=
        if q.xTEDref = some numxTEDS ∧ sensorMatches[numxTEDS]? = some 0 then some (.returned sent)
        else walk q rest (pos + 1) (numxTEDS + 1) sensorMatches sent
      if q.Selects s then
        -- `continue`: the counter is not stepped
        if s.available then walk q rest (pos + 1) numxTEDS sensorMatches sent
        else
          match s.xtedsTree with
          | none => none
          | some tree =>
              match q.lookup tree with
              | none => some (.finished sensorMatches sent)
              | some defs =>
                  next (sensorMatches.modify numxTEDS (· + defs.length))
                    (if q.xTEDref = none ∨ q.xTEDref = some numxTEDS then
                      sent ++ q.reports pos s defs
                    else sent)
      else next sensorMatches sent

/-! ### Posting inactive tasks -/

/-- `PostTask`: with a Task Manager known, the name of the slot is copied. -/
def postTask [XTEDS τ] (taskManager : SDMComponentID) (s : XTEDSLibrary τ) :
    Option (List Effect) :=
  if taskManager.address = 0 then some [] else s.getName.map fun name => [.postTask name]

/-- The slot is posted when its count of matches is this one. -/
def Posts (s : XTEDSLibrary τ) (sensorMatch : Nat) : Prop :=
  sensorMatch > 0 ∧ s.active = false ∧ s.posted = false

instance (s : XTEDSLibrary τ) (sensorMatch : Nat) : Decidable (Posts s sensorMatch) :=
  inferInstanceAs (Decidable (_ ∧ _))

/-- The second loop; it counts every slot. -/
def postInactive [XTEDS τ] (taskManager : SDMComponentID) :
    XTEDSLibraryList τ → List Nat → Option (XTEDSLibraryList τ × List Effect)
  | [], _ => some ([], [])
  | l, [] => some (l, [])
  | s :: rest, sensorMatch :: sensorMatches =>
      (if Posts s sensorMatch then
          (postTask taskManager s).map fun out => ({ s with posted := true }, out)
        else some (s, [])).bind fun head =>
      (postInactive taskManager rest sensorMatches).map fun tail =>
        (head.1 :: tail.1, head.2 ++ tail.2)

end ReqRegCall

namespace DMState

open ReqRegCall

variable {τ : Type} [XTEDS τ]

/-- The search of `ReqReg`, after its subscription has been entered. -/
def reqRegSearch (q : ReqRegCall) (st : DMState τ) : Option (DMState τ × List Effect) :=
  (walk q st.xTEDSList 0 0 (List.replicate st.xTEDSList.length 0) []).bind fun ended =>
    match ended with
    | .returned sent => some (st, sent)
    | .finished sensorMatches sent =>
        if sent = [] then
          (postInactive st.taskManager st.xTEDSList sensorMatches).map fun posted =>
            ({ st with xTEDSList := posted.1 }, posted.2 ++ [.regInfoEmpty q.replyTo])
        else some (st, sent ++ [.regInfoEmpty q.replyTo])

/-- The subscription that an exhaustive `ReqReg` enters or cancels. -/
def reqRegSubscription (q : ReqRegCall) : SubscriptionArgs :=
  { reply := q.msg.reply
    subscriberId := ⟨0, q.sender.address, q.usPort⟩
    source := q.msg.source
    device := some q.msg.device
    interface := some q.msg.interface
    itemname := some q.msg.item_name
    quallist := some q.msg.quallist
    id := q.msg.id
    mID := REQ_REG_FUTURE }

/-- `ReqReg`. -/
def reqReg (q : ReqRegCall) (st : DMState τ) : Option (DMState τ × List Effect) :=
  if q.msg.reply ≠ SDM_REQREG_CURRENT ∧ q.xTEDref = none then
    (SubscriptionList.addOrRemoveSubscription (reqRegSubscription q) st.subscribers).bind
      fun result =>
    let st := { st with subscribers := result.1 }
    if result.2 then reqRegSearch q st else some (st, [])
  else reqRegSearch q st

end DMState

end Sdm
