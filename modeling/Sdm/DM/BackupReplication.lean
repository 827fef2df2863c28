import Sdm.Lib.Decimal
import Sdm.DM.ReqReg
import Sdm.DM.Search
import Sdm.DM.SubscriptionKeys

/-!
Backup Data Managers (`backupDMList.cpp` and the `PNP_BACKUP` parts of `DM.cpp`).

The Data Manager that was elected keeps a list of its backups, and passes on each query that stays.
A backup makes the same call on its own list. Messages are taken in any order and may be lost. What
is passed on of registrations, of `SDMConsume` and of failed tasks is left out: a backup may make
the calls that these messages lead to at any time.

* `find_isSome_iff`: the last access changes nothing that the list of backups says.
* `query_backup`: a backup makes the call that the Data Manager has made.
* `backup_covers`: whatever the Data Manager holds, it held when the backup was entered, or the
  backup holds it, or it is on its way.
* `backup_keeps`: no request that the Data Manager takes removes anything from a backup.
-/

namespace Sdm

open Lib SubscriptionList

/-! ### The list of backups -/

/-- `DMBackupList`: the identifiers in order, and the position of the last access. -/
structure DMBackupList where
  nodes : List SDMComponentID
  m_pLastAccess : Option Nat
  deriving DecidableEq

namespace DMBackupList

variable {id other : SDMComponentID} {l : DMBackupList}

def empty : DMBackupList := ⟨[], none⟩

/-- `Find`: the position of a node, and the list after the access. -/
def Find (Id : SDMComponentID) (l : DMBackupList) : Option Nat × DMBackupList :=
  if l.m_pLastAccess.bind (l.nodes[·]?) = some Id then (l.m_pLastAccess, l)
  else match l.nodes.findIdx? (· = Id) with
    | some pCur => (some pCur, { l with m_pLastAccess := some pCur })
    | none => (none, l)

/-- `AddNode`. -/
def AddNode (NewDmId : SDMComponentID) (l : DMBackupList) : DMBackupList :=
  ⟨l.nodes ++ [NewDmId], some l.nodes.length⟩

/-- `AddIfNew`. -/
def AddIfNew (DmId : SDMComponentID) (l : DMBackupList) : Bool × DMBackupList :=
  let (found, l) := l.Find DmId
  if found.isSome then (false, l) else (true, l.AddNode DmId)

/-- `SendMessageToAll`: a copy for each backup. -/
def SendMessageToAll {α : Type} (Message : α) (l : DMBackupList) : List (SDMComponentID × α) :=
  l.nodes.map (·, Message)

@[simp]
theorem nodes_find : (l.Find id).2.nodes = l.nodes := by
  rw [Find]
  split
  · rfl
  · split <;> rfl

/-- **The last access** changes nothing: a node is found when the list has it. -/
theorem find_isSome_iff : (l.Find id).1.isSome = true ↔ id ∈ l.nodes := by
  rw [Find]
  split
  · rename_i last
    obtain ⟨i, access, here⟩ := Option.bind_eq_some_iff.mp last
    exact iff_of_true (by rw [access]; rfl) (List.mem_of_getElem? here)
  · split
    · rename_i i found
      obtain ⟨lt, here, -⟩ := List.findIdx?_eq_some_iff_getElem.mp found
      exact iff_of_true rfl (of_decide_eq_true here ▸ List.getElem_mem lt)
    · rename_i missing
      refine iff_of_false Bool.false_ne_true fun mem => ?_
      have miss := List.findIdx?_eq_none_iff.mp missing id mem
      simp at miss

/-- A backup is entered behind the others, once. -/
theorem nodes_addIfNew :
    (l.AddIfNew id).2.nodes = if id ∈ l.nodes then l.nodes else l.nodes ++ [id] := by
  have found : (l.Find id).1.isSome = true ↔ id ∈ l.nodes := find_isSome_iff
  rw [AddIfNew]
  by_cases mem : id ∈ l.nodes
  · simp only [found.mpr mem, if_true, nodes_find, if_pos mem]
  · simp only [Bool.eq_false_iff.mpr (mt found.mp mem), Bool.false_eq_true, if_false, AddNode,
      nodes_find, if_neg mem]

theorem mem_addIfNew (mem : id ∈ l.nodes) : id ∈ (l.AddIfNew other).2.nodes := by
  rw [nodes_addIfNew]
  split
  · exact mem
  · exact List.mem_append_left _ mem

end DMBackupList

/-! ### Queries that are passed on -/

/-- `interface_id`: the text under which the list keeps the message of a variable request. -/
def interface_id (msg : SDMVarReq) : CString :=
  if msg.msg_id.getInterfaceMessagePair ≠ 0 ∨ msg.reply ≠ SUB_CANCEL then
    decimal msg.msg_id.getInterfaceMessagePair.toInt
  else .empty

/-- What `VarReq` asks of the subscription list. -/
def varReqSubscription (msg : SDMVarReq) (ReplyId : SDMComponentID) : SubscriptionArgs :=
  { reply := msg.reply, subscriberId := ReplyId, source := msg.source, device := none
    interface := some (interface_id msg), itemname := some msg.variable, quallist := none
    id := msg.id, mID := VAR_REQ_REPLY }

/-- `ReplyId` of `VarReq`. -/
def varReqReplyId (msg : SDMVarReq) (SenderId : SDMComponentID) : SDMComponentID :=
  if msg.destination.address = 0 then { msg.destination with address := SenderId.address }
  else msg.destination

/-- The message of `VarReq` with the address of its source, if that was not known. -/
def varReqSource (Address_DM : UInt32) (msg : SDMVarReq) : SDMVarReq :=
  if msg.source.address = L_LOCAL_HOST ∧ Address_DM ≠ L_LOCAL_HOST then
    { msg with source := { msg.source with address := Address_DM } }
  else msg

/-- A request that may enter a query or cancel it. -/
inductive QueryMessage where
  | reqReg (msg : SDMReqReg)
  | search (msg : SDMSearch)
  | varReq (msg : SDMVarReq)
  deriving DecidableEq

namespace QueryMessage

/-- What `ReqReg`, `Search` and `VarReq` ask of the subscription list for a request that a consumer
has sent, and what they pass on when it stays; nothing for a request that is only answered. -/
def query (Address_DM : UInt32) (SenderId : SDMComponentID) :
    QueryMessage → Option (SubscriptionArgs × QueryMessage)
  | reqReg msg =>
      if msg.reply = SDM_REQREG_CURRENT then none
      else
        let a := DMState.reqRegSubscription ⟨msg, none, SenderId, .MOD_NOT_APPLICABLE⟩
        some (a, reqReg { msg with destination := a.subscriberId })
  | search msg =>
      if msg.destination.port = 0 ∨ msg.reply = SDM_REQREG_CURRENT then none
      else
        let a := searchSubscription msg SenderId
        some (a, search { msg with destination := a.subscriberId })
  | varReq msg =>
      if msg.destination.port = 0 ∨ msg.reply = SDM_REQREG_CURRENT then none
      else
        let msg := varReqSource Address_DM msg
        let a := varReqSubscription msg (varReqReplyId msg SenderId)
        some (a, varReq { msg with destination := a.subscriberId })

/-- `BackupModifyReqRegSubscription`, `BackupModifySearchSubscription` and
`BackupModifyVarReqSubscription`: what they ask of the list of the backup. -/
def backup : QueryMessage → Option SubscriptionArgs
  | reqReg msg =>
      if msg.reply = SDM_REQREG_CURRENT then none
      else some
        { reply := msg.reply, subscriberId := msg.destination, source := msg.source
          device := some msg.device, interface := some msg.interface
          itemname := some msg.item_name, quallist := some msg.quallist, id := msg.id
          mID := REQ_REG_FUTURE }
  | search msg =>
      if msg.reply = SDM_REQREG_CURRENT then none
      else some
        { reply := msg.reply, subscriberId := msg.destination, source := msg.source, device := none
          interface := none, itemname := some msg.reg_expr, quallist := none, id := msg.id
          mID := SEARCH_REPLY }
  | varReq msg =>
      if msg.reply = SDM_REQREG_CURRENT then none
      else some (varReqSubscription msg msg.destination)

variable {Address_DM : UInt32} {SenderId : SDMComponentID} {m m' : QueryMessage}
  {a : SubscriptionArgs}

/-- **A backup makes the same call** that the Data Manager has made. -/
theorem query_backup (asked : m.query Address_DM SenderId = some (a, m')) :
    m'.backup = some a := by
  cases m with
  | reqReg msg =>
      obtain ⟨stays, same⟩ := Option.ite_none_left_eq_some.mp asked
      cases same
      exact if_neg stays
  | search msg =>
      obtain ⟨stays, same⟩ := Option.ite_none_left_eq_some.mp asked
      cases same
      exact if_neg fun current => stays (.inr current)
  | varReq msg =>
      obtain ⟨stays, same⟩ := Option.ite_none_left_eq_some.mp asked
      have reply : (varReqSource Address_DM msg).reply = msg.reply := by
        rw [varReqSource]
        split <;> rfl
      cases same
      exact if_neg fun current => stays (.inr (reply.symm.trans current))

theorem backup_textsGiven (asked : m.backup = some a) : a.TextsGiven := by
  cases m with
  | reqReg msg =>
      obtain ⟨-, same⟩ := Option.ite_none_left_eq_some.mp asked
      cases same
      exact ⟨Option.some_ne_none _, fun _ => Option.some_ne_none _,
        fun _ _ => Option.some_ne_none _, fun _ _ => Option.some_ne_none _⟩
  | search msg =>
      obtain ⟨-, same⟩ := Option.ite_none_left_eq_some.mp asked
      cases same
      exact ⟨Option.some_ne_none _, fun other => absurd rfl other, fun other => absurd rfl other,
        fun other => absurd rfl other⟩
  | varReq msg =>
      obtain ⟨-, same⟩ := Option.ite_none_left_eq_some.mp asked
      cases same
      exact ⟨Option.some_ne_none _, fun _ => Option.some_ne_none _,
        fun _ other => absurd rfl other, fun _ other => absurd rfl other⟩

end QueryMessage

/-! ### The Data Manager and its backups -/

/-- The subscription list of the Data Manager, its backups, what is on its way to them, and their
own lists. -/
structure Replication where
  Address_DM : UInt32
  subscribers : SubscriptionList
  backupDMList : DMBackupList
  inFlight : List (SDMComponentID × QueryMessage)
  replica : SDMComponentID → SubscriptionList

/-- What happens next. -/
inductive ReplicationEvent where
  /-- A backup sends `SDMReady`. -/
  | ready (id : SDMComponentID)
  /-- A consumer sends a request. -/
  | request (m : QueryMessage) (SenderId : SDMComponentID)
  /-- A consumer subscribes to a notification of the Data Manager, or cancels that. -/
  | consume (subscriberId : SDMComponentID) (mID : SDMMessageID)
  | cancel (subscriberId : SDMComponentID) (mID : SDMMessageID)
  /-- A component is taken to have failed. -/
  | failure (component : SDMComponentID)
  /-- The message at this position arrives, or is lost. -/
  | deliver (k : Nat)
  | lose (k : Nat)
  /-- A backup takes an `SDMConsume`, or the failure of a component. -/
  | backupConsume (id subscriberId : SDMComponentID) (mID : SDMMessageID)
  | backupFailure (id component : SDMComponentID)
  deriving DecidableEq

/-- The key is that of a query. -/
def SubscriptionKey.IsQuery : SubscriptionKey → Prop
  | .notification _ _ => False
  | _ => True

namespace Replication

/-- The list of a backup is set. -/
def setReplica (s : Replication) (id : SDMComponentID) (l : SubscriptionList) : Replication :=
  { s with replica := Function.update s.replica id l }

/-- A message arrives at a backup. -/
def receive (s : Replication) (id : SDMComponentID) (m : QueryMessage) : Option Replication :=
  match m.backup with
  | none => some s
  | some a => (addOrRemoveSubscription a (s.replica id)).map fun result =>
      s.setReplica id result.1

/-- One event: the state after it, and what is sent to backups. A step that reads an unset string
has no result. -/
def step (s : Replication) :
    ReplicationEvent → Option (Replication × List (SDMComponentID × QueryMessage))
  | .ready id => some ({ s with backupDMList := (s.backupDMList.AddIfNew id).2 }, [])
  | .request m SenderId =>
      match m.query s.Address_DM SenderId with
      | none => some (s, [])
      | some (a, forwarded) =>
          (addOrRemoveSubscription a s.subscribers).map fun (l, goesOn) =>
            let sent := if goesOn then s.backupDMList.SendMessageToAll forwarded else []
            ({ s with subscribers := l, inFlight := s.inFlight ++ sent }, sent)
  | .consume subscriberId mID =>
      some ({ s with subscribers := addSubscription subscriberId mID s.subscribers }, [])
  | .cancel subscriberId mID =>
      some ({ s with subscribers := cancelSubscription subscriberId mID s.subscribers }, [])
  | .failure component =>
      some ({ s with subscribers := removeFailed component s.subscribers }, [])
  | .deliver k =>
      s.inFlight[k]?.bind fun (id, m) =>
        (({ s with inFlight := s.inFlight.eraseIdx k }).receive id m).map (·, [])
  | .lose k =>
      if k < s.inFlight.length then some ({ s with inFlight := s.inFlight.eraseIdx k }, [])
      else none
  | .backupConsume id subscriberId mID =>
      some (s.setReplica id (addSubscription subscriberId mID (s.replica id)), [])
  | .backupFailure id component =>
      some (s.setReplica id (removeFailed component (s.replica id)), [])

/-- The Data Manager and its backups as a machine. -/
def machine : Machine Replication ReplicationEvent (List (SDMComponentID × QueryMessage)) := ⟨step⟩

/-- Nothing has been asked yet. -/
def start (Address_DM : UInt32) : Replication := ⟨Address_DM, [], .empty, [], fun _ => []⟩

/-- The backup does not take the failure of a component. -/
def KeepsFailed (id : SDMComponentID) (_ : Replication) (e : ReplicationEvent) : Prop :=
  ∀ component, e ≠ .backupFailure id component

/-- Nor is a message to it lost. -/
def Reliable (id : SDMComponentID) (s : Replication) (e : ReplicationEvent) : Prop :=
  KeepsFailed id s e ∧ ∀ k m, e = .lose k → s.inFlight[k]? ≠ some (id, m)

/-- A message on its way to the backup will enter this key. -/
def OnItsWay (s : Replication) (id : SDMComponentID) (k : SubscriptionKey) : Prop :=
  ∃ m a, (id, m) ∈ s.inFlight ∧ m.backup = some a ∧ a.IsAdd ∧ a.Enters k

/-- What holds of every state: all nodes have the strings of their kind, and no cancel is passed
on. -/
structure Kept (s : Replication) : Prop where
  wellKinded : WellKinded s.subscribers
  replica : ∀ id, WellKinded (s.replica id)
  noCancel : ∀ id m a, (id, m) ∈ s.inFlight → m.backup = some a → a.reply ≠ SUB_CANCEL

section Steps

variable {s s' : Replication} {e : ReplicationEvent} {id other : SDMComponentID} {m : QueryMessage}
  {l : SubscriptionList} {k : SubscriptionKey}
  {sent : List (SDMComponentID × QueryMessage)}

theorem replica_setReplica :
    (s.setReplica other l).replica id = if id = other then l else s.replica id :=
  Function.update_apply _ _ _ _

theorem kept_setReplica (kept : Kept s) (wk : WellKinded l) : Kept (s.setReplica other l) := by
  refine ⟨kept.wellKinded, fun id => ?_, kept.noCancel⟩
  rw [replica_setReplica]
  split
  · exact wk
  · exact kept.replica id

/-- A message that arrives changes the list of its backup alone: nothing, or by a call. -/
theorem receive_cases (arrived : s.receive other m = some s') :
    (m.backup = none ∧ s' = s) ∨ ∃ a l o, m.backup = some a ∧
      addOrRemoveSubscription a (s.replica other) = some (l, o) ∧ s' = s.setReplica other l := by
  unfold receive at arrived
  split at arrived
  · rename_i nothing
    exact .inl ⟨nothing, (Option.some.inj arrived).symm⟩
  · rename_i a asked
    obtain ⟨⟨l, o⟩, taken, rfl⟩ := Option.map_eq_some_iff.mp arrived
    exact .inr ⟨a, l, o, asked, taken, rfl⟩

/-- A request that may change the list: what is asked of it, and what is passed on. -/
theorem request_cases {SenderId : SDMComponentID}
    (taken : s.step (.request m SenderId) = some (s', sent)) :
    s' = s ∨ ∃ a forwarded l o, m.query s.Address_DM SenderId = some (a, forwarded) ∧
      addOrRemoveSubscription a s.subscribers = some (l, o) ∧
      s' = { s with
        subscribers := l
        inFlight := s.inFlight ++ if o then s.backupDMList.SendMessageToAll forwarded else [] } := by
  simp only [step] at taken
  split at taken
  · cases taken
    exact .inl rfl
  · rename_i a forwarded asked
    obtain ⟨⟨l, o⟩, called, same⟩ := Option.map_eq_some_iff.mp taken
    cases same
    exact .inr ⟨a, forwarded, l, o, asked, called, rfl⟩

/-- A message that arrives. -/
theorem deliver_cases {i : Nat} (taken : s.step (.deliver i) = some (s', sent)) :
    ∃ other m, s.inFlight[i]? = some (other, m) ∧
      ({ s with inFlight := s.inFlight.eraseIdx i }).receive other m = some s' := by
  obtain ⟨⟨other, m⟩, here, rest⟩ := Option.bind_eq_some_iff.mp taken
  obtain ⟨_, arrived, same⟩ := Option.map_eq_some_iff.mp rest
  cases same
  exact ⟨other, m, here, arrived⟩

theorem kept_erase (kept : Kept s) (i : Nat) :
    Kept { s with inFlight := s.inFlight.eraseIdx i } :=
  ⟨kept.wellKinded, kept.replica, fun id m a mem => kept.noCancel id m a (List.mem_of_mem_eraseIdx mem)⟩

/-- Every step keeps it. -/
theorem kept_step (kept : Kept s) (taken : s.step e = some (s', sent)) : Kept s' := by
  cases e with
  | ready id =>
      cases taken
      exact ⟨kept.wellKinded, kept.replica, kept.noCancel⟩
  | request m SenderId =>
      rcases request_cases taken with rfl | ⟨a, forwarded, l, o, asked, called, rfl⟩
      · exact kept
      · refine ⟨wellKinded_addOrRemove kept.wellKinded called, kept.replica, ?_⟩
        intro id m' a' mem asked'
        rcases List.mem_append.mp mem with old | new
        · exact kept.noCancel id m' a' old asked'
        · cases o with
          | false => exact absurd new List.not_mem_nil
          | true =>
              obtain ⟨_, _, same⟩ := List.mem_map.mp new
              cases same
              cases (QueryMessage.query_backup asked).symm.trans asked'
              exact mt (flag_eq_false_iff called).mpr Bool.false_ne_true.symm
  | consume subscriberId mID =>
      cases taken
      exact ⟨wellKinded_addSubscription kept.wellKinded, kept.replica, kept.noCancel⟩
  | cancel subscriberId mID =>
      cases taken
      exact ⟨wellKinded_cancelSubscription kept.wellKinded, kept.replica, kept.noCancel⟩
  | failure component =>
      cases taken
      exact ⟨wellKinded_releaseWhere kept.wellKinded, kept.replica, kept.noCancel⟩
  | deliver i =>
      obtain ⟨other, m, -, arrived⟩ := deliver_cases taken
      have kept := kept_erase kept i
      rcases receive_cases arrived with ⟨-, rfl⟩ | ⟨a, l, o, -, called, rfl⟩
      · exact kept
      · exact kept_setReplica kept (wellKinded_addOrRemove (kept.replica other) called)
  | lose i =>
      obtain ⟨-, same⟩ := Option.ite_none_right_eq_some.mp taken
      cases same
      exact kept_erase kept i
  | backupConsume other subscriberId mID =>
      cases taken
      exact kept_setReplica kept (wellKinded_addSubscription (kept.replica other))
  | backupFailure other component =>
      cases taken
      exact kept_setReplica kept (wellKinded_releaseWhere (kept.replica other))

/-- A message that arrives adds keys and removes none. -/
theorem holding_receive (kept : Kept s) {i : Nat} (here : s.inFlight[i]? = some (other, m))
    (arrived : ({ s with inFlight := s.inFlight.eraseIdx i }).receive other m = some s') :
    (Holding (s.replica id) k → Holding (s'.replica id) k) ∧
      ∀ a, id = other → m.backup = some a → a.IsAdd → a.Enters k → Holding (s'.replica id) k := by
  rcases receive_cases arrived with ⟨nothing, rfl⟩ | ⟨a, l, o, asked, called, rfl⟩
  · refine ⟨fun held => held, fun a _ asked => ?_⟩
    cases nothing.symm.trans asked
  · have given := QueryMessage.backup_textsGiven asked
    have entered : a.IsAdd → (Holding l k ↔ a.Enters k ∨ Holding (s.replica other) k) :=
      fun add => holding_add given (kept.replica other) add called
    have keeps : Holding (s.replica other) k → Holding l k := by
      intro held
      by_cases add : a.IsAdd
      · exact (entered add).mpr (.inr held)
      · have notCancel := kept.noCancel other m a (List.mem_of_getElem? here) asked
        rwa [eq_of_neither add notCancel called]
    refine ⟨fun held => ?_, ?_⟩
    · rw [replica_setReplica]
      split
      · rename_i same
        exact keeps (same ▸ held)
      · exact held
    · rintro a' rfl asked' add enters
      cases asked.symm.trans asked'
      rw [replica_setReplica, if_pos rfl]
      exact (entered add).mpr (.inl enters)

/-- **No step removes** a key from a backup that does not take the failure of a component. -/
theorem keeps_step (kept : Kept s) (guard : KeepsFailed id s e)
    (taken : s.step e = some (s', sent)) (held : Holding (s.replica id) k) :
    Holding (s'.replica id) k := by
  cases e with
  | ready other =>
      cases taken
      exact held
  | request m SenderId =>
      rcases request_cases taken with rfl | ⟨a, forwarded, l, o, -, -, rfl⟩
      · exact held
      · exact held
  | consume subscriberId mID =>
      cases taken
      exact held
  | cancel subscriberId mID =>
      cases taken
      exact held
  | failure component =>
      cases taken
      exact held
  | deliver i =>
      obtain ⟨other, m, here, arrived⟩ := deliver_cases taken
      exact (holding_receive kept here arrived).1 held
  | lose i =>
      obtain ⟨-, same⟩ := Option.ite_none_right_eq_some.mp taken
      cases same
      exact held
  | backupConsume other subscriberId mID =>
      cases taken
      rw [replica_setReplica]
      split
      · rename_i same
        exact holding_addSubscription.mpr (.inr (same ▸ held))
      · exact held
  | backupFailure other component =>
      cases taken
      rw [replica_setReplica, if_neg]
      · exact held
      · rintro rfl
        exact guard component rfl

/-- What is on its way to a backup stays so, or has arrived, unless it is lost. -/
theorem onItsWay_step (kept : Kept s) (guard : Reliable id s e)
    (taken : s.step e = some (s', sent)) (coming : s.OnItsWay id k) :
    s'.OnItsWay id k ∨ Holding (s'.replica id) k := by
  obtain ⟨m, a, mem, asked, add, enters⟩ := coming
  cases e with
  | ready other =>
      cases taken
      exact .inl ⟨m, a, mem, asked, add, enters⟩
  | request m' SenderId =>
      rcases request_cases taken with rfl | ⟨a', forwarded, l, o, -, -, rfl⟩
      · exact .inl ⟨m, a, mem, asked, add, enters⟩
      · exact .inl ⟨m, a, List.mem_append_left _ mem, asked, add, enters⟩
  | consume subscriberId mID =>
      cases taken
      exact .inl ⟨m, a, mem, asked, add, enters⟩
  | cancel subscriberId mID =>
      cases taken
      exact .inl ⟨m, a, mem, asked, add, enters⟩
  | failure component =>
      cases taken
      exact .inl ⟨m, a, mem, asked, add, enters⟩
  | deliver i =>
      obtain ⟨other, m', here, arrived⟩ := deliver_cases taken
      obtain ⟨j, at_j⟩ := List.mem_iff_getElem?.mp mem
      by_cases first : j = i
      · subst first
        cases here.symm.trans at_j
        exact .inr ((holding_receive kept here arrived).2 a rfl asked add enters)
      · have left : (id, m) ∈ s.inFlight.eraseIdx i :=
          List.mem_eraseIdx_iff_getElem?.mpr ⟨j, first, at_j⟩
        rcases receive_cases arrived with ⟨-, rfl⟩ | ⟨_, _, _, -, -, rfl⟩
        · exact .inl ⟨m, a, left, asked, add, enters⟩
        · exact .inl ⟨m, a, left, asked, add, enters⟩
  | lose i =>
      obtain ⟨-, same⟩ := Option.ite_none_right_eq_some.mp taken
      cases same
      obtain ⟨j, at_j⟩ := List.mem_iff_getElem?.mp mem
      have other : j ≠ i := by
        rintro rfl
        exact guard.2 j m rfl at_j
      exact .inl ⟨m, a, List.mem_eraseIdx_iff_getElem?.mpr ⟨j, other, at_j⟩, asked, add, enters⟩
  | backupConsume other subscriberId mID =>
      cases taken
      exact .inl ⟨m, a, mem, asked, add, enters⟩
  | backupFailure other component =>
      cases taken
      exact .inl ⟨m, a, mem, asked, add, enters⟩

/-- A key of a query that the Data Manager comes to hold is on its way to all backups. -/
theorem entered_step (kept : Kept s) (query : k.IsQuery) (taken : s.step e = some (s', sent))
    (joined : id ∈ s.backupDMList.nodes) (held : Holding s'.subscribers k) :
    Holding s.subscribers k ∨ s'.OnItsWay id k := by
  cases e with
  | ready other =>
      cases taken
      exact .inl held
  | request m SenderId =>
      rcases request_cases taken with rfl | ⟨a, forwarded, l, o, asked, called, rfl⟩
      · exact .inl held
      · have backup := QueryMessage.query_backup asked
        by_cases add : a.IsAdd
        · rcases (holding_add (QueryMessage.backup_textsGiven backup) kept.wellKinded add
            called).mp held with enters | old
          · have goesOn : o = true := flag_of_add add called
            have copy : (id, forwarded) ∈ s.backupDMList.SendMessageToAll forwarded :=
              List.mem_map.mpr ⟨id, joined, rfl⟩
            refine .inr ⟨forwarded, a, List.mem_append_right _ ?_, backup, add, enters⟩
            rwa [if_pos goesOn]
          · exact .inl old
        · exact .inl ((frees_of_not_add add called).holding held)
  | consume subscriberId mID =>
      cases taken
      rcases holding_addSubscription.mp held with rfl | old
      · exact query.elim
      · exact .inl old
  | cancel subscriberId mID =>
      cases taken
      exact .inl (frees_cancelSubscription.holding held)
  | failure component =>
      cases taken
      exact .inl (frees_releaseWhere.holding held)
  | deliver i =>
      obtain ⟨other, m, here, arrived⟩ := deliver_cases taken
      rcases receive_cases arrived with ⟨-, rfl⟩ | ⟨_, _, _, -, -, rfl⟩
      · exact .inl held
      · exact .inl held
  | lose i =>
      obtain ⟨-, same⟩ := Option.ite_none_right_eq_some.mp taken
      cases same
      exact .inl held
  | backupConsume other subscriberId mID =>
      cases taken
      exact .inl held
  | backupFailure other component =>
      cases taken
      exact .inl held

theorem joined_step (taken : s.step e = some (s', sent)) (joined : id ∈ s.backupDMList.nodes) :
    id ∈ s'.backupDMList.nodes := by
  cases e with
  | ready other =>
      cases taken
      exact DMBackupList.mem_addIfNew joined
  | request m SenderId =>
      rcases request_cases taken with rfl | ⟨_, _, _, _, -, -, rfl⟩
      · exact joined
      · exact joined
  | deliver i =>
      obtain ⟨other, m, -, arrived⟩ := deliver_cases taken
      rcases receive_cases arrived with ⟨-, rfl⟩ | ⟨_, _, _, -, -, rfl⟩
      · exact joined
      · exact joined
  | lose i =>
      obtain ⟨-, same⟩ := Option.ite_none_right_eq_some.mp taken
      cases same
      exact joined
  | consume _ _ | cancel _ _ | failure _ | backupConsume _ _ _ | backupFailure _ _ =>
      cases taken
      exact joined

end Steps

/-! ### Runs -/

section Runs

variable {Address_DM : UInt32} {s₀ s : Replication} {id : SDMComponentID} {k : SubscriptionKey}

theorem kept_start : Kept (start Address_DM) where
  wellKinded := fun _ mem => absurd mem List.not_mem_nil
  replica := fun _ _ mem => absurd mem List.not_mem_nil
  noCancel := fun _ _ _ mem => absurd mem List.not_mem_nil

theorem kept_of_reachable (run : machine.Reachable (start Address_DM) s) : Kept s :=
  run.invariant kept_start fun _ _ _ _ kept _ taken => kept_step kept taken

/-- **Nothing is lost when a backup takes over**: whatever requests, messages and heartbeats come in
whatever order, each query that the Data Manager holds was held when the backup was in its list, or
is held by the backup, or is on its way; as long as no message to it is lost and it takes no failure
of a component. -/
theorem backup_covers (before : machine.Reachable (start Address_DM) s₀)
    (joined : id ∈ s₀.backupDMList.nodes) (run : machine.Reaches (Reliable id) s₀ s)
    (query : k.IsQuery) (held : Holding s.subscribers k) :
    Holding s₀.subscribers k ∨ Holding (s.replica id) k ∨ s.OnItsWay id k := by
  have covered : (Kept s ∧ id ∈ s.backupDMList.nodes) ∧ (Holding s.subscribers k →
      Holding s₀.subscribers k ∨ Holding (s.replica id) k ∨ s.OnItsWay id k) := by
    refine run.invariant (I := fun s => (Kept s ∧ id ∈ s.backupDMList.nodes) ∧
      (Holding s.subscribers k →
        Holding s₀.subscribers k ∨ Holding (s.replica id) k ∨ s.OnItsWay id k))
      ⟨⟨kept_of_reachable before, joined⟩, .inl⟩ ?_
    rintro s e s' sent ⟨⟨kept, joined⟩, covered⟩ guard taken
    refine ⟨⟨kept_step kept taken, joined_step taken joined⟩, fun held => ?_⟩
    rcases entered_step kept query taken joined held with old | coming
    · rcases covered old with atStart | there | coming
      · exact .inl atStart
      · exact .inr (.inl (keeps_step kept guard.1 taken there))
      · exact .inr (onItsWay_step kept guard taken coming).symm
    · exact .inr (.inr coming)
  exact covered.2 held

/-- A backup, and a search that stays. -/
def someBackup : SDMComponentID := ⟨0, 7, 3505⟩

def someSearch (reply : UInt8) : SDMSearch :=
  ⟨.zero, ⟨0, 0, 4000⟩, reply, 1, .ofString "x"⟩

/-- What is asked of the list for it. -/
def someQuery : SubscriptionArgs :=
  searchSubscription (someSearch SUB_CURRENT_AND_FUTURE) ⟨0, 9, 4000⟩

/-- The backup is in the list. -/
def joined : Replication := { start 5 with backupDMList := ⟨[someBackup], some 0⟩ }

/-- The search is in the list of the Data Manager, and on its way. -/
def passedOn : Replication :=
  { joined with
    subscribers := [Subscription.new |> fillSearch someQuery]
    inFlight := [(someBackup, .search { someSearch SUB_CURRENT_AND_FUTURE with
      destination := someQuery.subscriberId })] }

/-- It has arrived. -/
def arrived : Replication :=
  { passedOn with inFlight := [] }.setReplica someBackup [Subscription.new |> fillSearch someQuery]

theorem joined_reachable : machine.Reachable (start 5) joined :=
  .step (a := .ready someBackup) .start trivial rfl

theorem arrived_of_joined : machine.Reaches (Reliable someBackup) joined arrived := by
  refine .step (a := .deliver 0) (.step (a := .request (.search (someSearch SUB_CURRENT_AND_FUTURE))
    ⟨0, 9, 4000⟩) .start ?_ (rfl : machine.step joined _ = some (passedOn, _))) ?_ rfl
  · exact ⟨fun _ => by rintro ⟨⟩, fun _ _ => by rintro ⟨⟩⟩
  · exact ⟨fun _ => by rintro ⟨⟩, fun _ _ => by rintro ⟨⟩⟩

theorem backup_covers_search :
    Holding joined.subscribers (SubscriptionTable.searchKey someQuery) ∨
      Holding (arrived.replica someBackup) (SubscriptionTable.searchKey someQuery) ∨
        arrived.OnItsWay someBackup (SubscriptionTable.searchKey someQuery) :=
  backup_covers joined_reachable (List.mem_singleton.mpr rfl) arrived_of_joined trivial (by decide)

/-- **A backup forgets nothing**: a query that it holds, it holds from then on, whatever is
cancelled at the Data Manager. -/
theorem backup_keeps (before : machine.Reachable (start Address_DM) s₀)
    (run : machine.Reaches (KeepsFailed id) s₀ s) (held : Holding (s₀.replica id) k) :
    Holding (s.replica id) k := by
  have both : Kept s ∧ Holding (s.replica id) k :=
    run.invariant (I := fun s => Kept s ∧ Holding (s.replica id) k)
      ⟨kept_of_reachable before, held⟩
      fun _ _ _ _ both guard taken => ⟨kept_step both.1 taken, keeps_step both.1 guard taken both.2⟩
  exact both.2

/-- The search is cancelled at the Data Manager. -/
def cancelled : Replication :=
  { arrived with subscribers := [(Subscription.new |> fillSearch someQuery).release] }

theorem backup_keeps_cancelled :
    ¬ Holding cancelled.subscribers (SubscriptionTable.searchKey someQuery) ∧
      Holding (cancelled.replica someBackup) (SubscriptionTable.searchKey someQuery) := by
  refine ⟨by decide, backup_keeps (joined_reachable.trans arrived_of_joined.reachable)
    (.step (a := .request (.search (someSearch SUB_CANCEL)) ⟨0, 9, 4000⟩) .start
      (fun _ => by rintro ⟨⟩) rfl) (by decide)⟩

end Runs

end Replication

end Sdm
