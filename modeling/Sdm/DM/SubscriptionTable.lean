import Sdm.DM.SubscriptionTexts

/-!
The subscription list as a table of keys.

The reference table holds one entry for each key: the kind of subscription, the
subscriber, the source, and the texts the kind uses. Adding inserts what is
absent; a single cancel erases exactly its own key. `SubscriptionTable.step`
says what a call is for in these terms.

The list agrees with the table on every run in which each single `Search` or
`VarReq` cancel stops at an entry of its own key, and no call reads an unset
string (`OwnEntry`, `TextsSet`): `run_refines_table`. The scan of
`removeVarReqSubscription` does not compare interfaces, and neither scan tests
for a query, so they can stop elsewhere: `cancel_takes_other_varReq`.
-/

namespace Sdm

open Lib

/-- The key of a subscription. -/
inductive SubscriptionKey where
  | notification (mID : SDMMessageID) (subscriber : SDMComponentID)
  | reqReg (mID : SDMMessageID) (subscriber source : SDMComponentID)
      (itemname quallist device interface : Option CString)
  | search (subscriber source : SDMComponentID) (itemname : Option CString)
  | varReq (subscriber source : SDMComponentID) (itemname interface : Option CString)
  deriving DecidableEq, Repr

/-- The key of a node in use. -/
def Subscription.key (n : Subscription) : SubscriptionKey :=
  if n.items then
    if n.mID = SEARCH_REPLY then .search n.destination n.source n.itemName
    else if n.mID = VAR_REQ_REPLY then .varReq n.destination n.source n.itemName n.interface
    else .reqReg n.mID n.destination n.source n.itemName n.quallist n.device n.interface
  else .notification n.mID n.destination

section Key

variable {n : Subscription} {mID : SDMMessageID} {subscriber source : SDMComponentID}
  {itemname quallist device interface : Option CString}

theorem key_eq_notification_iff : n.key = .notification mID subscriber ↔
    n.items = false ∧ n.mID = mID ∧ n.destination = subscriber := by
  unfold Subscription.key
  cases n.items with
  | false => simp
  | true => split_ifs <;> simp_all

theorem key_eq_search_iff : n.key = .search subscriber source itemname ↔
    n.items = true ∧ n.mID = SEARCH_REPLY ∧ n.destination = subscriber ∧ n.source = source ∧
      n.itemName = itemname := by
  unfold Subscription.key
  cases n.items with
  | false => simp
  | true => split_ifs <;> simp_all

theorem key_eq_varReq_iff : n.key = .varReq subscriber source itemname interface ↔
    n.items = true ∧ n.mID = VAR_REQ_REPLY ∧ n.destination = subscriber ∧ n.source = source ∧
      n.itemName = itemname ∧ n.interface = interface := by
  have differ : SEARCH_REPLY ≠ VAR_REQ_REPLY := by decide
  unfold Subscription.key
  cases n.items with
  | false => simp
  | true => split_ifs <;> simp_all

theorem key_eq_reqReg_iff (notSearch : mID ≠ SEARCH_REPLY) (notVar : mID ≠ VAR_REQ_REPLY) :
    n.key = .reqReg mID subscriber source itemname quallist device interface ↔
      n.items = true ∧ n.mID = mID ∧ n.destination = subscriber ∧ n.source = source ∧
        n.itemName = itemname ∧ n.quallist = quallist ∧ n.device = device ∧
        n.interface = interface := by
  unfold Subscription.key
  cases n.items with
  | false => simp
  | true => split_ifs <;> simp_all [eq_comm]

end Key

/-- The stream id of a query; a notification has none. -/
def Subscription.streamID (n : Subscription) : Option UInt16 := if n.items then some n.id else none

/-! ### The reference table -/

/-- The reference table: the stream id under each key that is present. -/
abbrev SubscriptionTable := SubscriptionKey → Option (Option UInt16)

namespace SubscriptionTable

/-- Insert a key that is absent. -/
def insertAbsent (k : SubscriptionKey) (v : Option UInt16) (t : SubscriptionTable) :
    SubscriptionTable :=
  if t k = none then Function.update t k (some v) else t

/-- Remove a key. -/
def erase (k : SubscriptionKey) (t : SubscriptionTable) : SubscriptionTable :=
  Function.update t k none

/-- The key a `Search` call is about. -/
def searchKey (a : SubscriptionArgs) : SubscriptionKey :=
  .search a.subscriberId a.source a.itemname

/-- The key a `VarReq` call is about. -/
def varReqKey (a : SubscriptionArgs) : SubscriptionKey :=
  .varReq a.subscriberId a.source a.itemname a.interface

/-- The key a `ReqReg` call is about, for future or cancellation reports. -/
def reqRegKey (mID : SDMMessageID) (a : SubscriptionArgs) : SubscriptionKey :=
  .reqReg mID a.subscriberId a.source a.itemname a.quallist a.device a.interface

/-- What adding a subscription is for. -/
def add (a : SubscriptionArgs) (t : SubscriptionTable) : SubscriptionTable :=
  if a.mID = SEARCH_REPLY then insertAbsent (searchKey a) (some a.id) t
  else if a.mID = VAR_REQ_REPLY then insertAbsent (varReqKey a) (some a.id) t
  else if a.reply = SUB_CURRENT_AND_FUTURE then
    insertAbsent (reqRegKey REQ_REG_FUTURE a) (some a.id) t
  else
    insertAbsent (reqRegKey REQ_REG_CANCELLATION a) (some a.id)
      (insertAbsent (reqRegKey REQ_REG_FUTURE a) (some a.id) t)

/-- What a single cancel is for. -/
def cancel (a : SubscriptionArgs) (t : SubscriptionTable) : SubscriptionTable :=
  if a.mID = SEARCH_REPLY then erase (searchKey a) t
  else if a.mID = VAR_REQ_REPLY then erase (varReqKey a) t
  else erase (reqRegKey REQ_REG_CANCELLATION a) (erase (reqRegKey REQ_REG_FUTURE a) t)

/-- What a call is for. -/
def step (t : SubscriptionTable) : SubscriptionCall → SubscriptionTable
  | .addSubscription subscriberId mID => insertAbsent (.notification mID subscriberId) none t
  | .cancelSubscription subscriberId mID => erase (.notification mID subscriberId) t
  | .addOrRemoveSubscription a => if a.reply = SUB_CANCEL then cancel a t else add a t
  | .publish _ => t

theorem insertAbsent_of_present {k : SubscriptionKey} {v : Option UInt16} {t : SubscriptionTable}
    (present : t k ≠ none) : insertAbsent k v t = t := if_neg present

theorem erase_of_absent {k : SubscriptionKey} {t : SubscriptionTable} (absent : t k = none) :
    erase k t = t := by
  unfold erase
  rw [← absent, Function.update_eq_self]

end SubscriptionTable

namespace SubscriptionList

open Subscription SubscriptionTable

/-- The nodes in use are the entries of the table. -/
abbrev Holds (l : SubscriptionList) (t : SubscriptionTable) : Prop :=
  Represents Subscription.inUse Subscription.key Subscription.streamID l t

/-- The calls of the reference table: additions and single cancels whose kind has
the texts it uses. -/
def InDomain : SubscriptionCall → Prop
  | .addOrRemoveSubscription a =>
      a.TextsGiven ∧ (a.IsAdd ∨ a.reply = SUB_CANCEL ∧ namesNothing a = false)
  | .publish _ => False
  | _ => True

/-- The node is one the single `Search` or `VarReq` cancel accepts. -/
def SameQuery (a : SubscriptionArgs) (n : Subscription) : Prop :=
  n.inUse = true ∧ n.destination = a.subscriberId ∧ n.mID = a.mID ∧ n.source = a.source ∧
    n.itemName = a.itemname

/-- The first node that a single `Search` or `VarReq` cancel accepts, if there is
one, carries a query, and for a `VarReq` one of the interface that is cancelled. -/
def OwnEntry (l : SubscriptionList) : SubscriptionCall → Prop
  | .addOrRemoveSubscription a =>
      a.reply = SUB_CANCEL → a.mID = SEARCH_REPLY ∨ a.mID = VAR_REQ_REPLY →
        ∀ (k : Nat) (n : Subscription), l[k]? = some n → SameQuery a n →
          (∀ j < k, ∀ m, l[j]? = some m → ¬ SameQuery a m) →
          n.items = true ∧ (a.mID = VAR_REQ_REPLY → n.interface = a.interface)
  | _ => True

section Refinement

variable {a : SubscriptionArgs} {n : Subscription} {l l' : SubscriptionList}
  {t : SubscriptionTable} {want : SDMMessageID}

/-! ### Adding -/

/-- Entering a key unless a duplicate was found. -/
theorem holds_addIfAbsent {k : SubscriptionKey} {v : Option UInt16}
    {fill : Subscription → Subscription} {duplicate : Bool} (holds : Holds l t)
    (found : duplicate = true ↔ ∃ n ∈ l, n.inUse = true ∧ n.key = k)
    (filled : ∀ n, (fill n).inUse = true ∧ (fill n).key = k ∧ (fill n).streamID = v) :
    Holds (if duplicate then l else enter fill l) (insertAbsent k v t) := by
  cases duplicate with
  | true =>
      obtain ⟨n, mem, inUse, same⟩ := found.mp rfl
      have present : t k ≠ none := by
        rw [(holds.spec k n.streamID).mpr ⟨n, mem, inUse, same, rfl⟩]
        exact Option.some_ne_none _
      rw [insertAbsent_of_present present]
      exact holds
  | false =>
      have absent : t k = none := holds.none_iff.mpr fun n mem inUse same =>
        Bool.false_ne_true (found.mpr ⟨n, mem, inUse, same⟩)
      unfold insertAbsent
      rw [if_pos absent]
      exact represents_occupy holds absent (fun n => (filled n).1) (fun n => (filled n).2.1)
        fun n => (filled n).2.2

/-- What a search for a duplicate finds, when its hits are the entries of a key. -/
theorem search_isSome_iff {test : Subscription → Option Bool} {k : SubscriptionKey}
    {duplicate : Option Nat} (scanned : search test l = some duplicate)
    (hits : ∀ n ∈ l, test n = some true ↔ n.inUse = true ∧ n.key = k) :
    duplicate.isSome = true ↔ ∃ n ∈ l, n.inUse = true ∧ n.key = k := by
  cases duplicate with
  | some i =>
      obtain ⟨n, at_i, hit, _⟩ := search_eq_found_iff.mp scanned
      have mem := List.mem_of_getElem? at_i
      exact iff_of_true rfl ⟨n, mem, (hits n mem).mp hit⟩
  | none =>
      refine iff_of_false Bool.false_ne_true ?_
      rintro ⟨n, mem, entry⟩
      have miss := search_eq_done_iff.mp scanned n mem
      rw [(hits n mem).mpr entry] at miss
      cases miss

/-- Freeing the node at which a search stopped, when that node has the key and
the search does not pass an entry of the key. -/
theorem holds_releaseAt {test : Subscription → Option Bool} {k : SubscriptionKey}
    {stop : Option Nat} (holds : Holds l t) (scanned : search test l = some stop)
    (own : ∀ i n, stop = some i → l[i]? = some n → n.inUse = true ∧ n.key = k)
    (complete : ∀ n ∈ l, n.inUse = true → n.key = k → test n = some true) :
    Holds (releaseAt l stop) (erase k t) := by
  cases stop with
  | none =>
      have absent : t k = none := holds.none_iff.mpr fun n mem inUse same => by
        have miss := search_eq_done_iff.mp scanned n mem
        rw [complete n mem inUse same] at miss
        cases miss
      rw [erase_of_absent absent]
      exact holds
  | some i =>
      obtain ⟨n, at_i, _⟩ := search_eq_found_iff.mp scanned
      obtain ⟨inUse, same⟩ := own i n rfl at_i
      unfold erase
      rw [← same]
      exact represents_release holds at_i inUse fun _ => rfl

theorem notification_hits {subscriberId : SDMComponentID} {mID : SDMMessageID} :
    isNotification subscriberId mID n = true ↔
      n.inUse = true ∧ n.key = .notification mID subscriberId := by
  rw [key_eq_notification_iff]
  simp only [isNotification, decide_eq_true_eq]
  tauto

theorem searchDuplicate_hits (given : a.TextsGiven) :
    searchDuplicate a n = some true ↔ n.inUse = true ∧ n.key = searchKey a := by
  unfold searchDuplicate searchKey
  rw [test_eq_true_iff, sameTexts?_eq_true_iff, key_eq_search_iff]
  simp only [List.forall_mem_singleton]
  constructor
  · rintro ⟨⟨inUse, dest, source, items⟩, ⟨item, _⟩, mID⟩
    exact ⟨inUse, items, mID, dest, source, item⟩
  · rintro ⟨inUse, items, mID, dest, source, item⟩
    exact ⟨⟨inUse, dest, source, items⟩, ⟨item, item ▸ given.itemname⟩, mID⟩

theorem varReqDuplicate_hits (given : a.TextsGiven) (notSearch : a.mID ≠ SEARCH_REPLY) :
    varReqDuplicate a n = some true ↔ n.inUse = true ∧ n.key = varReqKey a := by
  unfold varReqDuplicate varReqKey
  rw [test_eq_true_iff, sameTexts?_eq_true_iff, key_eq_varReq_iff]
  simp only [List.forall_mem_cons, List.not_mem_nil, false_implies, implies_true, and_true]
  constructor
  · rintro ⟨⟨inUse, dest, source, items⟩, ⟨⟨item, _⟩, face, _⟩, mID⟩
    exact ⟨inUse, items, mID, dest, source, item, face⟩
  · rintro ⟨inUse, items, mID, dest, source, item, face⟩
    exact ⟨⟨inUse, dest, source, items⟩,
      ⟨⟨item, item ▸ given.itemname⟩, face, face ▸ given.interface notSearch⟩, mID⟩

/-- The texts of a `ReqReg` entry of the same key. -/
theorem reqRegTexts_eq_true_iff (given : a.TextsGiven) (notSearch : a.mID ≠ SEARCH_REPLY)
    (notVar : a.mID ≠ VAR_REQ_REPLY) :
    sameTexts? (reqRegTexts a n) = some true ↔ n.itemName = a.itemname ∧
      n.quallist = a.quallist ∧ n.device = a.device ∧ n.interface = a.interface := by
  rw [sameTexts?_eq_true_iff]
  simp only [reqRegTexts, List.forall_mem_cons, List.not_mem_nil, false_implies, implies_true,
    and_true]
  constructor
  · rintro ⟨⟨item, _⟩, ⟨qual, _⟩, ⟨dev, _⟩, face, _⟩
    exact ⟨item, qual, dev, face⟩
  · rintro ⟨item, qual, dev, face⟩
    exact ⟨⟨item, item ▸ given.itemname⟩, ⟨qual, qual ▸ given.quallist notSearch notVar⟩,
      ⟨dev, dev ▸ given.device notSearch notVar⟩, face, face ▸ given.interface notSearch⟩

theorem reqRegDuplicate_hits {val2 : SDMMessageID} (given : a.TextsGiven)
    (notSearch : a.mID ≠ SEARCH_REPLY) (notVar : a.mID ≠ VAR_REQ_REPLY)
    (val : want = REQ_REG_FUTURE ∨ want = val2 ∧ val2 = REQ_REG_CANCELLATION) :
    reqRegDuplicate a REQ_REG_FUTURE val2 want n = some true ↔
      n.inUse = true ∧ n.key = reqRegKey want a := by
  have wantNot : want ≠ SEARCH_REPLY ∧ want ≠ VAR_REQ_REPLY := by
    rcases val with rfl | ⟨rfl, rfl⟩ <;> exact ⟨by decide, by decide⟩
  unfold reqRegDuplicate reqRegKey
  rw [test_eq_true_iff, reqRegTexts_eq_true_iff given notSearch notVar,
    key_eq_reqReg_iff wantNot.1 wantNot.2]
  constructor
  · rintro ⟨⟨inUse, dest, _, source, items⟩, texts, mID⟩
    exact ⟨inUse, items, mID, dest, source, texts⟩
  · rintro ⟨inUse, items, mID, dest, source, texts⟩
    refine ⟨⟨inUse, dest, ?_, source, items⟩, texts, mID⟩
    exact val.imp (fun h => mID.trans h) fun h => mID.trans h.1

theorem reqRegMatch_hits (given : a.TextsGiven) (notSearch : a.mID ≠ SEARCH_REPLY)
    (notVar : a.mID ≠ VAR_REQ_REPLY) (val : want = REQ_REG_FUTURE ∨ want = REQ_REG_CANCELLATION) :
    reqRegMatch a want n = some true ↔ n.inUse = true ∧ n.key = reqRegKey want a := by
  have wantNot : want ≠ SEARCH_REPLY ∧ want ≠ VAR_REQ_REPLY := by
    rcases val with rfl | rfl <;> exact ⟨by decide, by decide⟩
  unfold reqRegMatch reqRegKey
  rw [test_eq_true_iff, reqRegTexts_eq_true_iff given notSearch notVar,
    key_eq_reqReg_iff wantNot.1 wantNot.2]
  tauto

/-! ### Calls -/

theorem holds_addSubscription {subscriberId : SDMComponentID} {mID : SDMMessageID}
    (holds : Holds l t) : Holds (addSubscription subscriberId mID l)
      (insertAbsent (.notification mID subscriberId) none t) := by
  refine holds_addIfAbsent holds ?_ fun n => ⟨rfl, ?_, rfl⟩
  · simp only [List.any_eq_true, notification_hits]
  · exact key_eq_notification_iff.mpr ⟨rfl, rfl, rfl⟩

theorem holds_cancelSubscription {subscriberId : SDMComponentID} {mID : SDMMessageID}
    (holds : Holds l t) : Holds (cancelSubscription subscriberId mID l)
      (erase (.notification mID subscriberId) t) := by
  unfold cancelSubscription
  split
  · rename_i missing
    have absent : t (.notification mID subscriberId) = none := holds.none_iff.mpr
      fun n mem inUse same => by
        have miss := List.findIdx?_eq_none_iff.mp missing n mem
        rw [notification_hits.mpr ⟨inUse, same⟩] at miss
        cases miss
    rw [erase_of_absent absent]
    exact holds
  · rename_i k found
    obtain ⟨lt, hit, _⟩ := List.findIdx?_eq_some_iff_getElem.mp found
    obtain ⟨inUse, same⟩ := notification_hits.mp hit
    unfold erase
    rw [← same]
    exact represents_release holds (List.getElem?_eq_getElem lt) inUse fun _ => rfl

theorem holds_addSearch (given : a.TextsGiven) (holds : Holds l t)
    (added : addSearchSubscription a l = some l') :
    Holds l' (insertAbsent (searchKey a) (some a.id) t) := by
  obtain ⟨duplicate, scanned, added⟩ := Option.bind_eq_some_iff.mp added
  have text : a.itemname.isSome := Option.isSome_iff_ne_none.mpr given.itemname
  rw [if_pos text, ← apply_ite some] at added
  cases added
  refine holds_addIfAbsent holds
    (search_isSome_iff scanned fun n _ => searchDuplicate_hits given) fun n => ⟨rfl, ?_, rfl⟩
  exact key_eq_search_iff.mpr ⟨rfl, rfl, rfl, rfl, rfl⟩

theorem holds_addVarReq (given : a.TextsGiven) (notSearch : a.mID ≠ SEARCH_REPLY)
    (holds : Holds l t) (added : addVarReqSubscription a l = some l') :
    Holds l' (insertAbsent (varReqKey a) (some a.id) t) := by
  obtain ⟨duplicate, scanned, added⟩ := Option.bind_eq_some_iff.mp added
  have texts : a.itemname.isSome ∧ a.interface.isSome :=
    ⟨Option.isSome_iff_ne_none.mpr given.itemname,
      Option.isSome_iff_ne_none.mpr (given.interface notSearch)⟩
  rw [if_pos texts, ← apply_ite some] at added
  cases added
  refine holds_addIfAbsent holds
    (search_isSome_iff scanned fun n _ => varReqDuplicate_hits given notSearch)
    fun n => ⟨rfl, ?_, rfl⟩
  exact key_eq_varReq_iff.mpr ⟨rfl, rfl, rfl, rfl, rfl, rfl⟩

theorem enterReqReg_eq {mID : SDMMessageID} (given : a.TextsGiven)
    (notSearch : a.mID ≠ SEARCH_REPLY) (notVar : a.mID ≠ VAR_REQ_REPLY) :
    enterReqReg a mID l = some (enter (fillReqReg a mID) l) := by
  refine if_pos ?_
  simp only [Option.isSome_iff_ne_none]
  exact ⟨given.itemname, given.quallist notSearch notVar, given.device notSearch notVar,
    given.interface notSearch⟩

theorem fillReqReg_entry {mID : SDMMessageID}
    (val : mID = REQ_REG_FUTURE ∨ mID = REQ_REG_CANCELLATION) (n : Subscription) :
    (fillReqReg a mID n).inUse = true ∧ (fillReqReg a mID n).key = reqRegKey mID a ∧
      (fillReqReg a mID n).streamID = some a.id := by
  have notOther : mID ≠ SEARCH_REPLY ∧ mID ≠ VAR_REQ_REPLY := by
    rcases val with rfl | rfl <;> exact ⟨by decide, by decide⟩
  exact ⟨rfl, (key_eq_reqReg_iff notOther.1 notOther.2).mpr
    ⟨rfl, rfl, rfl, rfl, rfl, rfl, rfl, rfl⟩, rfl⟩

theorem holds_addReqReg (given : a.TextsGiven) (notSearch : a.mID ≠ SEARCH_REPLY)
    (notVar : a.mID ≠ VAR_REQ_REPLY) (holds : Holds l t) (wk : WellKinded l)
    (added : addReqRegSubscription a l = some l') :
    Holds l' (if a.reply = SUB_CURRENT_AND_FUTURE then
        insertAbsent (reqRegKey REQ_REG_FUTURE a) (some a.id) t
      else insertAbsent (reqRegKey REQ_REG_CANCELLATION a) (some a.id)
        (insertAbsent (reqRegKey REQ_REG_FUTURE a) (some a.id) t)) := by
  unfold addReqRegSubscription at added
  simp only [enterReqReg_eq given notSearch notVar, ← apply_ite some] at added
  split at added
  · rename_i one
    obtain ⟨duplicate, scanned, rfl⟩ := Option.map_eq_some_iff.mp
      (Option.map_eq_bind ▸ added)
    rw [if_pos one]
    exact holds_addIfAbsent holds (search_isSome_iff scanned
      fun n _ => reqRegDuplicate_hits given notSearch notVar (.inl rfl))
      (fillReqReg_entry (.inl rfl))
  · rename_i two
    rw [sweep_of_defined fun n mem =>
      reqRegDuplicate_ne_none given notSearch notVar (wk n mem) (.inr rfl)] at added
    simp only [Option.bind_some] at added
    obtain ⟨duplicate, scanned, added⟩ := Option.bind_eq_some_iff.mp added
    cases added
    rw [if_neg two]
    refine holds_addIfAbsent (holds_addIfAbsent holds ?_ (fillReqReg_entry (.inl rfl)))
      (search_isSome_iff scanned fun n _ => reqRegDuplicate_hits given notSearch notVar
        (.inr ⟨rfl, rfl⟩)) (fillReqReg_entry (.inr rfl))
    simp only [List.any_eq_true, decide_eq_true_eq,
      reqRegDuplicate_hits given notSearch notVar (.inl rfl)]

theorem holds_removeReqReg (given : a.TextsGiven) (notSearch : a.mID ≠ SEARCH_REPLY)
    (notVar : a.mID ≠ VAR_REQ_REPLY) (holds : Holds l t) (wk : WellKinded l)
    (removed : removeReqRegSubscription a l = some l') :
    Holds l' (erase (reqRegKey REQ_REG_CANCELLATION a) (erase (reqRegKey REQ_REG_FUTURE a) t)) := by
  have set : ¬ (a.device = none ∨ a.interface = none ∨ a.itemname = none ∨ a.quallist = none) := by
    simp [given.itemname, given.interface notSearch, given.quallist notSearch notVar,
      given.device notSearch notVar]
  unfold removeReqRegSubscription at removed
  rw [if_neg set] at removed
  obtain ⟨l₁, first, removed⟩ := Option.bind_eq_some_iff.mp removed
  obtain ⟨stop, scanned, rfl⟩ := Option.map_eq_some_iff.mp removed
  rw [updateWhere_of_defined fun n mem =>
    reqRegMatch_ne_none given notSearch notVar (wk n mem) (.inl rfl)] at first
  have holds₁ : Holds l₁ (erase (reqRegKey REQ_REG_FUTURE a) t) := by
    cases first
    have released : Holds
        (releaseWhere (fun n => decide (reqRegMatch a REQ_REG_FUTURE n = some true)) release l)
        (fun k => if k = reqRegKey REQ_REG_FUTURE a then none else t k) :=
      represents_releaseWhere holds (fun _ => rfl)
      (fun n _ hit => ((reqRegMatch_hits given notSearch notVar (.inl rfl)).mp
        (of_decide_eq_true hit)).1)
      (fun n _ inUse => by
        simp only [decide_eq_true_eq, reqRegMatch_hits given notSearch notVar (.inl rfl), inUse,
          true_and])
    have erased : erase (reqRegKey REQ_REG_FUTURE a) t =
        fun k => if k = reqRegKey REQ_REG_FUTURE a then none else t k := by
      funext k
      exact Function.update_apply t _ _ _
    rw [erased]
    simpa only [releaseWhere, decide_eq_true_eq] using released
  refine holds_releaseAt holds₁ scanned ?_ fun n _ inUse same =>
    (reqRegMatch_hits given notSearch notVar (.inr rfl)).mpr ⟨inUse, same⟩
  rintro i n rfl at_i
  obtain ⟨m, at_m, hit, _⟩ := search_eq_found_iff.mp scanned
  rw [at_i] at at_m
  cases at_m
  exact (reqRegMatch_hits given notSearch notVar (.inr rfl)).mp hit

theorem singleMatch_hits (given : a.TextsGiven) :
    singleMatch a.mID a n = some true ↔ SameQuery a n := by
  unfold singleMatch SameQuery
  rw [test_eq_true_iff, sameTexts?_eq_true_iff]
  simp only [List.forall_mem_singleton, and_true]
  constructor
  · rintro ⟨⟨inUse, dest, mID, source⟩, item, _⟩
    exact ⟨inUse, dest, mID, source, item⟩
  · rintro ⟨inUse, dest, mID, source, item⟩
    exact ⟨⟨inUse, dest, mID, source⟩, item, item ▸ given.itemname⟩

/-- A single `Search` or `VarReq` cancel that stops at an entry of its own key. -/
theorem holds_removeSingle {k : SubscriptionKey} (given : a.TextsGiven) (holds : Holds l t)
    (keyed : ∀ n : Subscription, n.key = k ↔ n.items = true ∧ n.mID = a.mID ∧
      n.destination = a.subscriberId ∧ n.source = a.source ∧ n.itemName = a.itemname ∧
      (a.mID = VAR_REQ_REPLY → n.interface = a.interface))
    (own : ∀ (i : Nat) (n : Subscription), l[i]? = some n → SameQuery a n →
      (∀ j < i, ∀ m, l[j]? = some m → ¬ SameQuery a m) →
      n.items = true ∧ (a.mID = VAR_REQ_REPLY → n.interface = a.interface))
    (removed : removeSingle a.mID a l = some l') : Holds l' (erase k t) := by
  unfold removeSingle at removed
  rw [if_neg given.itemname] at removed
  obtain ⟨stop, scanned, rfl⟩ := Option.map_eq_some_iff.mp removed
  refine holds_releaseAt holds scanned ?_ ?_
  · rintro i n rfl at_i
    obtain ⟨m, at_m, hit, before⟩ := search_eq_found_iff.mp scanned
    rw [at_i] at at_m
    cases at_m
    have query := (singleMatch_hits given).mp hit
    obtain ⟨items, face⟩ := own i n at_i query fun j lt m at_j accepted => by
      have miss := before j lt m at_j
      rw [(singleMatch_hits given).mpr accepted] at miss
      cases miss
    obtain ⟨inUse, dest, mID, source, item⟩ := query
    exact ⟨inUse, (keyed n).mpr ⟨items, mID, dest, source, item, face⟩⟩
  · intro n _ inUse same
    obtain ⟨_, mID, dest, source, item, _⟩ := (keyed n).mp same
    exact (singleMatch_hits given).mpr ⟨inUse, dest, mID, source, item⟩

theorem holds_cancel (given : a.TextsGiven) (holds : Holds l t) (wk : WellKinded l)
    (reply : a.reply = SUB_CANCEL) (single : namesNothing a = false)
    (own : OwnEntry l (.addOrRemoveSubscription a)) {o : Bool}
    (taken : addOrRemoveSubscription a l = some (l', o)) : Holds l' (cancel a t) := by
  have notAdd : ¬ (a.reply = SUB_CURRENT_AND_FUTURE ∨
      a.reply = SUB_CURRENT_FUTURE_AND_CANCELLATIONS) := by
    rw [reply]
    decide
  unfold addOrRemoveSubscription at taken
  rw [if_neg notAdd, if_pos reply, single, if_neg Bool.false_ne_true] at taken
  obtain ⟨_, removed, same⟩ := Option.map_eq_some_iff.mp taken
  cases same
  unfold cancel
  by_cases search : a.mID = SEARCH_REPLY
  · rw [if_pos search] at removed ⊢
    have removed : removeSingle a.mID a l = some l' := search.symm ▸ removed
    refine holds_removeSingle given holds (fun n => ?_) (own reply (.inl search)) removed
    have notVar : SEARCH_REPLY ≠ VAR_REQ_REPLY := by decide
    simp [searchKey, key_eq_search_iff, search, notVar]
  · rw [if_neg search] at removed ⊢
    by_cases var : a.mID = VAR_REQ_REPLY
    · rw [if_pos var] at removed ⊢
      have removed : removeSingle a.mID a l = some l' := var.symm ▸ removed
      refine holds_removeSingle given holds (fun n => ?_) (own reply (.inr var)) removed
      simp [varReqKey, key_eq_varReq_iff, var]
    · rw [if_neg var] at removed ⊢
      exact holds_removeReqReg given search var holds wk removed

theorem holds_add (given : a.TextsGiven) (holds : Holds l t) (wk : WellKinded l)
    (reply : a.IsAdd) {o : Bool} (taken : addOrRemoveSubscription a l = some (l', o)) :
    Holds l' (add a t) := by
  unfold SubscriptionArgs.IsAdd at reply
  unfold addOrRemoveSubscription at taken
  rw [if_pos reply] at taken
  obtain ⟨_, added, same⟩ := Option.map_eq_some_iff.mp taken
  cases same
  unfold add
  by_cases search : a.mID = SEARCH_REPLY
  · rw [if_pos search] at added ⊢
    exact holds_addSearch given holds added
  · rw [if_neg search] at added ⊢
    by_cases var : a.mID = VAR_REQ_REPLY
    · rw [if_pos var] at added ⊢
      exact holds_addVarReq given search holds added
    · rw [if_neg var] at added ⊢
      exact holds_addReqReg given search var holds wk added

/-- One call of the domain that stops at its own entry. -/
theorem holds_step {call : SubscriptionCall} {o : Bool} (holds : Holds l t) (wk : WellKinded l)
    (domain : InDomain call) (own : OwnEntry l call)
    (taken : SubscriptionList.step l call = some (l', o)) :
    Holds l' (SubscriptionTable.step t call) := by
  cases call with
  | addSubscription subscriberId mID =>
      cases taken
      exact holds_addSubscription holds
  | cancelSubscription subscriberId mID =>
      cases taken
      exact holds_cancelSubscription holds
  | addOrRemoveSubscription a =>
      obtain ⟨given, kind⟩ := domain
      simp only [SubscriptionTable.step]
      rcases kind with addition | ⟨reply, single⟩
      · have notCancel : a.reply ≠ SUB_CANCEL := by
          rcases addition with h | h <;> rw [h] <;> decide
        rw [if_neg notCancel]
        exact holds_add given holds wk addition taken
      · rw [if_pos reply]
        exact holds_cancel given holds wk reply single own taken
  | publish messageID => exact domain.elim

end Refinement

/-! ### Runs -/

/-- The subscription list beside the reference table. -/
def tableMachine : Machine (SubscriptionList × SubscriptionTable) SubscriptionCall Bool :=
  machine.withGhost fun t _ call _ => SubscriptionTable.step t call

/-- **The list refines the table.** In every run from the empty list whose single
`Search` and `VarReq` cancels stop at entries of their own key, the nodes in use
are exactly the entries of the reference table, one node a key; and a further
call of the domain is defined exactly when it reads no unset string. -/
theorem run_refines_table {l : SubscriptionList} {t : SubscriptionTable}
    (run : tableMachine.Reaches (fun q call => InDomain call ∧ OwnEntry q.1 call)
      ([], fun _ => none) (l, t)) :
    Holds l t ∧ ∀ call, InDomain call → (machine.step l call ≠ none ↔ TextsSet l call) := by
  have kept : WellKinded l ∧ Holds l t := by
    refine run.invariant (I := fun q => WellKinded q.1 ∧ Holds q.1 q.2)
      ⟨fun _ mem => absurd mem List.not_mem_nil, represents_nil⟩ ?_
    rintro ⟨l, t⟩ call ⟨l', t'⟩ o ⟨wk, holds⟩ ⟨domain, own⟩ taken
    obtain ⟨stepped, rfl⟩ := Machine.withGhost_step_eq_some.mp taken
    exact ⟨step_wellKinded wk stepped, holds_step holds wk domain own stepped⟩
  refine ⟨kept.2, fun call domain => ?_⟩
  cases call with
  | addSubscription subscriberId mID => simp [machine, SubscriptionList.step, TextsSet]
  | cancelSubscription subscriberId mID => simp [machine, SubscriptionList.step, TextsSet]
  | addOrRemoveSubscription a => exact addOrRemove_ne_none_iff domain.1 kept.1
  | publish messageID => exact domain.elim

/-- A future `VarReq` for variable `x` of the interface with this text. -/
def varReqFor (interface : String) : SubscriptionArgs :=
  { varReqX with interface := some (.ofString interface) }

/-- The single cancel of the same. -/
def cancelVarReqFor (interface : String) : SubscriptionArgs :=
  { varReqFor interface with reply := SUB_CANCEL }

theorem varReqFor_inDomain (interface : String) :
    InDomain (.addOrRemoveSubscription (varReqFor interface)) := by
  have kind : (varReqFor interface).mID = VAR_REQ_REPLY := rfl
  exact ⟨⟨by simp [varReqFor, varReqX, searchX], fun _ => by simp [varReqFor],
    fun _ h => absurd kind h, fun _ h => absurd kind h⟩, .inl (.inl rfl)⟩

/-- Adding a `VarReq` to the empty list enters its key. -/
theorem varReq_refines_table :
    Holds [fillVarReq varReqX .new]
      (SubscriptionTable.step (fun _ => none) (.addOrRemoveSubscription varReqX)) := by
  refine (run_refines_table (Machine.Reaches.start.withGhost_step (o := true)
    ⟨varReqFor_inDomain "257", fun cancel => absurd cancel (by decide)⟩ ?_)).1
  decide

/-- Cancelling the `VarReq` for interface text `258` frees the entry for `257`
that was added before it. -/
theorem cancel_takes_other_varReq :
    ¬ ∀ (l : SubscriptionList) (t : SubscriptionTable),
      tableMachine.Reaches (fun _ call => InDomain call) ([], fun _ => none) (l, t) →
        Holds l t := by
  intro refines
  let one := varReqFor "257"
  let two := varReqFor "258"
  let cancelTwo := cancelVarReqFor "258"
  have given := (varReqFor_inDomain "258").1
  have cancelDomain : InDomain (.addOrRemoveSubscription cancelTwo) :=
    ⟨⟨given.itemname, given.interface, given.quallist, given.device⟩, .inr ⟨rfl, by decide⟩⟩
  have atStart : tableMachine.Reaches (fun _ call => InDomain call) ([], fun _ => none)
    ([], fun _ => none) := .start
  have addsOne : machine.step [] (.addOrRemoveSubscription one) =
    some ([fillVarReq one .new], true) := by decide
  have addsTwo : machine.step [fillVarReq one .new] (.addOrRemoveSubscription two) =
    some ([fillVarReq one .new, fillVarReq two .new], true) := by decide
  have cancels : machine.step [fillVarReq one .new, fillVarReq two .new]
      (.addOrRemoveSubscription cancelTwo) =
    some ([(fillVarReq one .new).release, fillVarReq two .new], false) := by decide
  have afterOne := atStart.withGhost_step (varReqFor_inDomain "257") addsOne
  have afterTwo := afterOne.withGhost_step (varReqFor_inDomain "258") addsTwo
  have run := afterTwo.withGhost_step cancelDomain cancels
  have holds := refines _ _ run
  have present := (holds.spec (varReqKey two) (some 7)).mpr
    ⟨fillVarReq two .new, by simp, rfl, by decide, by decide⟩
  exact absurd present (by decide)

end SubscriptionList

end Sdm
