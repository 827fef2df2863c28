import Sdm.DM.SubscriptionKinds

/-!
Which calls on the subscription list read an unset string.

Several scans compare strings before they have tested the kind of a node, or
without testing it at all. `dm_call_defined_iff` says for every list the Data
Manager can reach, and every call it makes, when no unset string is read:

* adding a `VarReq` subscription must not meet a `Search` entry of the same
  subscriber, source and item whose interface was never set;
* cancelling one `Search` or `VarReq` subscription, and publishing to such
  subscriptions, must not meet a notification entry under the same message id
  whose strings were never set.

`search_then_varReq_reads_unset` is a run of the first kind.
-/

namespace Sdm

open Lib

namespace Subscription

/-! ### The tests of the scans -/

variable {guard after : Prop} [Decidable guard] [Decidable after]
  {texts : List (Option CString × Option CString)} {a : SubscriptionArgs} {n : Subscription}

theorem test_eq_none_iff : test guard texts after = none ↔ guard ∧ sameTexts? texts = none := by
  unfold test
  split
  · rename_i h
    simp [h]
  · rename_i h
    simp [h]

theorem test_eq_true_iff :
    test guard texts after = some true ↔ guard ∧ sameTexts? texts = some true ∧ after := by
  unfold test
  split
  · rename_i h
    cases same : sameTexts? texts with
    | none => simp
    | some b => simp [h]
  · rename_i h
    simp [h]

end Subscription

namespace SubscriptionList

open Subscription

variable {a : SubscriptionArgs} {n : Subscription} {l l' : SubscriptionList} {want : SDMMessageID}

theorem reqRegTexts_ne_none (given : a.TextsGiven) (argNotSearch : a.mID ≠ SEARCH_REPLY)
    (argNotVar : a.mID ≠ VAR_REQ_REPLY) (wk : n.WellKinded) (items : n.items = true)
    (mID : n.mID = REQ_REG_FUTURE ∨ n.mID = REQ_REG_CANCELLATION) :
    sameTexts? (reqRegTexts a n) ≠ none := by
  have notSearch : n.mID ≠ SEARCH_REPLY := by rcases mID with h | h <;> rw [h] <;> decide
  have notVar : n.mID ≠ VAR_REQ_REPLY := by rcases mID with h | h <;> rw [h] <;> decide
  refine sameTexts?_ne_fault ?_
  simp only [reqRegTexts, List.forall_mem_cons, List.not_mem_nil, false_implies, implies_true,
    and_true]
  exact ⟨⟨wk.itemName items, given.itemname⟩,
    ⟨wk.quallist items notSearch notVar, given.quallist argNotSearch argNotVar⟩,
    ⟨wk.device items notSearch notVar, given.device argNotSearch argNotVar⟩,
    ⟨wk.interface items notSearch, given.interface argNotSearch⟩⟩

/-- The duplicate test of a `ReqReg` subscription reads set strings only. -/
theorem reqRegDuplicate_ne_none {val2 : SDMMessageID} (given : a.TextsGiven)
    (notSearch : a.mID ≠ SEARCH_REPLY) (notVar : a.mID ≠ VAR_REQ_REPLY) (wk : n.WellKinded)
    (val : val2 = .zero ∨ val2 = REQ_REG_CANCELLATION) :
    reqRegDuplicate a REQ_REG_FUTURE val2 want n ≠ none := by
  intro fault
  obtain ⟨⟨_, _, mID, _, items⟩, texts⟩ := test_eq_none_iff.mp fault
  refine reqRegTexts_ne_none given notSearch notVar wk items ?_ texts
  rcases mID with h | h
  · exact .inl h
  · rcases val with rfl | rfl
    · rcases wk.mID items with k | k | k | k <;> rw [k] at h <;> exact absurd h (by decide)
    · exact .inr h

/-- So does the test of its cancel. -/
theorem reqRegMatch_ne_none (given : a.TextsGiven) (notSearch : a.mID ≠ SEARCH_REPLY)
    (notVar : a.mID ≠ VAR_REQ_REPLY) (wk : n.WellKinded)
    (val : want = REQ_REG_FUTURE ∨ want = REQ_REG_CANCELLATION) :
    reqRegMatch a want n ≠ none := by
  intro fault
  obtain ⟨⟨_, _, mID, items, _⟩, texts⟩ := test_eq_none_iff.mp fault
  exact reqRegTexts_ne_none given notSearch notVar wk items (mID ▸ val) texts

/-- The duplicate test of a `Search` subscription reads item names only, and
every query has one. -/
theorem searchDuplicate_ne_none (given : a.TextsGiven) (wk : n.WellKinded) :
    searchDuplicate a n ≠ none := by
  intro fault
  obtain ⟨⟨_, _, _, items⟩, texts⟩ := test_eq_none_iff.mp fault
  refine sameTexts?_ne_fault ?_ texts
  simpa using ⟨wk.itemName items, given.itemname⟩

/-- The duplicate test of a `VarReq` subscription reads an unset interface on a
`Search` entry for the same subscriber, source and item. -/
theorem varReqDuplicate_eq_none_iff (given : a.TextsGiven) (notSearch : a.mID ≠ SEARCH_REPLY)
    (wk : n.WellKinded) :
    varReqDuplicate a n = none ↔ n.inUse = true ∧ n.destination = a.subscriberId ∧
      n.source = a.source ∧ n.items = true ∧ n.mID = SEARCH_REPLY ∧ n.itemName = a.itemname ∧
      n.interface = none := by
  obtain ⟨item, hitem⟩ := Option.ne_none_iff_exists'.mp given.itemname
  obtain ⟨face, hface⟩ := Option.ne_none_iff_exists'.mp (given.interface notSearch)
  unfold varReqDuplicate
  rw [test_eq_none_iff]
  constructor
  · rintro ⟨⟨inUse, dest, source, items⟩, texts⟩
    obtain ⟨name, hname⟩ := Option.ne_none_iff_exists'.mp (wk.itemName items)
    rw [hname, hitem, sameTexts?_cons_some] at texts
    by_cases same : name = item
    · rw [if_pos same] at texts
      have unset : n.interface = none := by
        by_contra set
        obtain ⟨face', hface'⟩ := Option.ne_none_iff_exists'.mp set
        rw [hface', hface, sameTexts?_cons_some] at texts
        split at texts <;> simp at texts
      have search : n.mID = SEARCH_REPLY := by
        by_contra other
        exact wk.interface items other unset
      exact ⟨inUse, dest, source, items, search, by rw [hname, hitem, same], unset⟩
    · rw [if_neg same] at texts
      cases texts
  · rintro ⟨inUse, dest, source, items, _, name, unset⟩
    refine ⟨⟨inUse, dest, source, items⟩, ?_⟩
    rw [name, hitem, sameTexts?_cons_some, if_pos rfl, unset, sameTexts?_cons_unset]

/-- The test of a single `Search` or `VarReq` cancel reads an unset item name on
a notification entry under the same message id. -/
theorem singleMatch_eq_none_iff (given : a.TextsGiven) (wk : n.WellKinded) :
    singleMatch want a n = none ↔ n.inUse = true ∧ n.destination = a.subscriberId ∧
      n.mID = want ∧ n.source = a.source ∧ n.items = false ∧ n.itemName = none := by
  obtain ⟨item, hitem⟩ := Option.ne_none_iff_exists'.mp given.itemname
  unfold singleMatch
  rw [test_eq_none_iff]
  constructor
  · rintro ⟨⟨inUse, dest, mID, source⟩, texts⟩
    have unset : n.itemName = none := by
      by_contra set
      obtain ⟨name, hname⟩ := Option.ne_none_iff_exists'.mp set
      rw [hname, hitem, sameTexts?_cons_some] at texts
      split at texts <;> simp at texts
    have items : n.items = false := by
      by_contra h
      exact wk.itemName (by simpa using h) unset
    exact ⟨inUse, dest, mID, source, items, unset⟩
  · rintro ⟨inUse, dest, mID, source, _, unset⟩
    exact ⟨⟨inUse, dest, mID, source⟩, by rw [unset, sameTexts?_cons_unset]⟩

/-! ### Which calls read an unset string -/

/-- The forms in which `ReqReg`, `Search` and `VarReq` call
`addOrRemoveSubscription`; the other calls have one form. -/
def DMForm : SubscriptionCall → Prop
  | .addOrRemoveSubscription a =>
      (a.mID = REQ_REG_FUTURE ∧ a.itemname ≠ none ∧ a.quallist ≠ none ∧ a.device ≠ none ∧
        a.interface ≠ none) ∨
      (a.mID = SEARCH_REPLY ∧ a.itemname ≠ none ∧ a.quallist = none ∧ a.device = none ∧
        a.interface = none) ∨
      (a.mID = VAR_REQ_REPLY ∧ a.itemname ≠ none ∧ a.quallist = none ∧ a.device = none ∧
        a.interface ≠ none)
  | _ => True

theorem DMForm.textsGiven (form : DMForm (.addOrRemoveSubscription a)) : a.TextsGiven := by
  rcases form with ⟨kind, item, qual, dev, face⟩ | ⟨kind, item, _⟩ | ⟨kind, item, _, _, face⟩
  · exact ⟨item, fun _ => face, fun _ _ => qual, fun _ _ => dev⟩
  · exact ⟨item, fun h => absurd kind h, fun h => absurd kind h, fun h => absurd kind h⟩
  · exact ⟨item, fun _ => face, fun _ h => absurd kind h, fun _ h => absurd kind h⟩

/-- Before a duplicate, `addVarReqSubscription` meets no `Search` entry of the
same subscriber, source and item on a node whose interface was never set. -/
def VarReqTextsSet (a : SubscriptionArgs) (l : SubscriptionList) : Prop :=
  ∀ (k : Nat) (n : Subscription), l[k]? = some n → n.inUse = true →
    n.destination = a.subscriberId → n.source = a.source → n.items = true →
    n.mID = SEARCH_REPLY → n.itemName = a.itemname → n.interface = none →
    ∃ j < k, ∃ m, l[j]? = some m ∧ varReqDuplicate a m = some true

/-- Before a match, a single `Search` or `VarReq` cancel meets no notification
entry of the same subscriber, message id and source on a node whose item name
was never set. -/
def SingleTextsSet (want : SDMMessageID) (a : SubscriptionArgs) (l : SubscriptionList) : Prop :=
  ∀ (k : Nat) (n : Subscription), l[k]? = some n → n.inUse = true →
    n.destination = a.subscriberId → n.mID = want → n.source = a.source → n.items = false →
    n.itemName = none → ∃ j < k, ∃ m, l[j]? = some m ∧ singleMatch want a m = some true

/-- The lists on which a call reads set strings only. -/
def TextsSet (l : SubscriptionList) : SubscriptionCall → Prop
  | .addOrRemoveSubscription a =>
      (a.IsAdd → a.mID = VAR_REQ_REPLY → VarReqTextsSet a l) ∧
      (a.reply = SUB_CANCEL → namesNothing a = false →
        a.mID = SEARCH_REPLY ∨ a.mID = VAR_REQ_REPLY → SingleTextsSet a.mID a l)
  | .publish messageID =>
      messageID = SEARCH_REPLY ∨ messageID = VAR_REQ_REPLY →
        ∀ n ∈ l, n.inUse = true → n.mID = messageID → n.items = false →
          n.itemName ≠ none ∧ (messageID = VAR_REQ_REPLY → n.interface ≠ none)
  | _ => True

theorem addVarReq_ne_none_iff (given : a.TextsGiven) (kind : a.mID = VAR_REQ_REPLY)
    (wk : WellKinded l) : addVarReqSubscription a l ≠ none ↔ VarReqTextsSet a l := by
  have notSearch : a.mID ≠ SEARCH_REPLY := by rw [kind]; decide
  have texts : a.itemname.isSome ∧ a.interface.isSome :=
    ⟨Option.isSome_iff_ne_none.mpr given.itemname,
      Option.isSome_iff_ne_none.mpr (given.interface notSearch)⟩
  have scans : addVarReqSubscription a l ≠ none ↔ search (varReqDuplicate a) l ≠ none := by
    unfold addVarReqSubscription
    cases search (varReqDuplicate a) l with
    | none => simp
    | some duplicate => cases duplicate <;> simp [texts]
  rw [scans, search_ne_fault_iff]
  apply forall₃_congr
  intro k n at_k
  have wkn := wk n (List.mem_of_getElem? at_k)
  rw [varReqDuplicate_eq_none_iff given notSearch wkn]
  constructor
  · intro h inUse dest source items mID item unset
    exact h ⟨inUse, dest, source, items, mID, item, unset⟩
  · rintro h ⟨inUse, dest, source, items, mID, item, unset⟩
    exact h inUse dest source items mID item unset

theorem removeSingle_ne_none_iff (given : a.TextsGiven) (wk : WellKinded l) :
    removeSingle want a l ≠ none ↔ SingleTextsSet want a l := by
  have scans : removeSingle want a l ≠ none ↔ search (singleMatch want a) l ≠ none := by
    unfold removeSingle
    rw [if_neg given.itemname]
    simp
  rw [scans, search_ne_fault_iff]
  apply forall₃_congr
  intro k n at_k
  have wkn := wk n (List.mem_of_getElem? at_k)
  rw [singleMatch_eq_none_iff given wkn]
  constructor
  · intro h inUse dest mID source items unset
    exact h ⟨inUse, dest, mID, source, items, unset⟩
  · rintro h ⟨inUse, dest, mID, source, items, unset⟩
    exact h inUse dest mID source items unset

theorem addSearch_ne_none (given : a.TextsGiven) (wk : WellKinded l) :
    addSearchSubscription a l ≠ none := by
  have defined : search (searchDuplicate a) l ≠ none := search_ne_fault_iff.mpr
    fun _ n at_k fault =>
      absurd fault (searchDuplicate_ne_none given (wk n (List.mem_of_getElem? at_k)))
  obtain ⟨duplicate, found⟩ := Option.ne_none_iff_exists'.mp defined
  unfold addSearchSubscription
  rw [found]
  have text := Option.isSome_iff_ne_none.mpr given.itemname
  cases duplicate <;> simp [text]

theorem enterReqReg_ne_none {mID : SDMMessageID} (given : a.TextsGiven)
    (notSearch : a.mID ≠ SEARCH_REPLY) (notVar : a.mID ≠ VAR_REQ_REPLY) :
    enterReqReg a mID l ≠ none := by
  unfold enterReqReg
  simp [Option.isSome_iff_ne_none, given.itemname, given.interface notSearch,
    given.quallist notSearch notVar, given.device notSearch notVar]

theorem addReqReg_ne_none (given : a.TextsGiven) (notSearch : a.mID ≠ SEARCH_REPLY)
    (notVar : a.mID ≠ VAR_REQ_REPLY) (wk : WellKinded l) : addReqRegSubscription a l ≠ none := by
  have searches : ∀ {val2 want : SDMMessageID} {l : SubscriptionList}, WellKinded l →
      val2 = .zero ∨ val2 = REQ_REG_CANCELLATION →
      ∃ duplicate, search (reqRegDuplicate a REQ_REG_FUTURE val2 want) l = some duplicate :=
    fun wk val => Option.ne_none_iff_exists'.mp <| search_ne_fault_iff.mpr
      fun _ n at_k fault => absurd fault
        (reqRegDuplicate_ne_none given notSearch notVar (wk n (List.mem_of_getElem? at_k)) val)
  unfold addReqRegSubscription
  split
  · obtain ⟨duplicate, found⟩ := searches wk (.inl rfl)
    rw [found, Option.bind_some]
    split
    · exact Option.some_ne_none _
    · exact enterReqReg_ne_none given notSearch notVar
  · rw [sweep_of_defined fun n mem => reqRegDuplicate_ne_none given notSearch notVar (wk n mem)
      (.inr rfl), Option.bind_some]
    split
    · obtain ⟨duplicate, found⟩ := searches wk (.inr rfl)
      rw [Option.bind_some, found, Option.bind_some]
      split
      · exact Option.some_ne_none _
      · exact enterReqReg_ne_none given notSearch notVar
    · have enters : enterReqReg a REQ_REG_FUTURE l ≠ none :=
        enterReqReg_ne_none given notSearch notVar
      obtain ⟨l₁, entered⟩ := Option.ne_none_iff_exists'.mp enters
      obtain ⟨duplicate, found⟩ :=
        searches (wellKinded_enterReqReg wk (.inl rfl) entered) (.inr rfl)
      rw [entered, Option.bind_some, found, Option.bind_some]
      split
      · exact Option.some_ne_none _
      · exact enterReqReg_ne_none given notSearch notVar

theorem removeReqReg_ne_none (given : a.TextsGiven) (notSearch : a.mID ≠ SEARCH_REPLY)
    (notVar : a.mID ≠ VAR_REQ_REPLY) (wk : WellKinded l) :
    removeReqRegSubscription a l ≠ none := by
  unfold removeReqRegSubscription
  split
  · exact Option.some_ne_none _
  · have defined : ∀ n ∈ l, reqRegMatch a REQ_REG_FUTURE n ≠ none := fun n mem =>
      reqRegMatch_ne_none given notSearch notVar (wk n mem) (.inl rfl)
    obtain ⟨l₁, first⟩ : ∃ l₁, updateWhere (reqRegMatch a REQ_REG_FUTURE) release l = some l₁ :=
      ⟨_, updateWhere_of_defined defined⟩
    have wk₁ : WellKinded l₁ := wellKinded_updateWhere wk first
    have second : search (reqRegMatch a REQ_REG_CANCELLATION) l₁ ≠ none :=
      search_ne_fault_iff.mpr fun _ n at_k fault => absurd fault
        (reqRegMatch_ne_none given notSearch notVar (wk₁ n (List.mem_of_getElem? at_k)) (.inr rfl))
    simpa [first] using second

theorem addOrRemove_ne_none_iff (given : a.TextsGiven) (wk : WellKinded l) :
    addOrRemoveSubscription a l ≠ none ↔ TextsSet l (.addOrRemoveSubscription a) := by
  have differ : VAR_REQ_REPLY ≠ SEARCH_REPLY := by decide
  unfold addOrRemoveSubscription TextsSet SubscriptionArgs.IsAdd
  by_cases add : a.reply = SUB_CURRENT_AND_FUTURE ∨ a.reply = SUB_CURRENT_FUTURE_AND_CANCELLATIONS
  · have notCancel : a.reply ≠ SUB_CANCEL := by
      rcases add with h | h <;> rw [h] <;> decide
    rw [if_pos add]
    simp only [ne_eq, Option.map_eq_none_iff, add, notCancel, true_implies, false_implies, and_true]
    by_cases search : a.mID = SEARCH_REPLY
    · rw [if_pos search]
      simpa [search, differ.symm] using addSearch_ne_none given wk
    · rw [if_neg search]
      by_cases var : a.mID = VAR_REQ_REPLY
      · rw [if_pos var]
        simpa [var] using addVarReq_ne_none_iff given var wk
      · rw [if_neg var]
        simpa [var] using addReqReg_ne_none given search var wk
  · rw [if_neg add]
    simp only [add, false_implies, true_and]
    by_cases cancel : a.reply = SUB_CANCEL
    · rw [if_pos cancel]
      cases bulk : namesNothing a with
      | true => simp [cancel]
      | false =>
          simp only [ne_eq, Option.map_eq_none_iff, cancel, true_implies, Bool.false_eq_true,
            if_false]
          by_cases search : a.mID = SEARCH_REPLY
          · have defined : removeSingle SEARCH_REPLY a l ≠ none ↔ SingleTextsSet SEARCH_REPLY a l :=
              removeSingle_ne_none_iff given wk
            rw [if_pos search]
            simpa [search, removeSearchSubscription] using defined
          · rw [if_neg search]
            by_cases var : a.mID = VAR_REQ_REPLY
            · have defined : removeSingle VAR_REQ_REPLY a l ≠ none ↔
                  SingleTextsSet VAR_REQ_REPLY a l := removeSingle_ne_none_iff given wk
              rw [if_pos var]
              simpa [var, removeVarReqSubscription] using defined
            · rw [if_neg var]
              simpa [search, var] using removeReqReg_ne_none given search var wk
    · simp [cancel]

theorem republish_eq_none_iff {messageID : SDMMessageID} (wk : n.WellKinded) :
    republish messageID n = none ↔ (messageID = SEARCH_REPLY ∨ messageID = VAR_REQ_REPLY) ∧
      n.inUse = true ∧ n.mID = messageID ∧ n.items = false ∧
      (n.itemName = none ∨ messageID = VAR_REQ_REPLY ∧ n.interface = none) := by
  by_cases listed : n.inUse = true ∧ n.mID = messageID
  · unfold republish
    rw [if_pos listed]
    obtain ⟨inUse, rfl⟩ := listed
    by_cases reqReg : n.mID = REQ_REG_FUTURE ∨ n.mID = REQ_REG_CANCELLATION
    · have notSearch : n.mID ≠ SEARCH_REPLY := by rcases reqReg with h | h <;> rw [h] <;> decide
      have notVar : n.mID ≠ VAR_REQ_REPLY := by rcases reqReg with h | h <;> rw [h] <;> decide
      rw [if_pos reqReg]
      cases items : n.items with
      | false => simp [notSearch, notVar]
      | true =>
          obtain ⟨_, hi⟩ := Option.ne_none_iff_exists'.mp (wk.itemName items)
          obtain ⟨_, hq⟩ := Option.ne_none_iff_exists'.mp (wk.quallist items notSearch notVar)
          obtain ⟨_, hd⟩ := Option.ne_none_iff_exists'.mp (wk.device items notSearch notVar)
          obtain ⟨_, hf⟩ := Option.ne_none_iff_exists'.mp (wk.interface items notSearch)
          simp [rebuildReqReg, hi, hq, hd, hf]
    · rw [if_neg reqReg]
      by_cases search : n.mID = SEARCH_REPLY
      · have notVar : SEARCH_REPLY ≠ VAR_REQ_REPLY := by decide
        rw [if_pos search]
        cases item : n.itemName with
        | none =>
            have items : n.items = false := by
              by_contra h
              exact wk.itemName (by simpa using h) item
            simp [rebuildSearch, item, search, inUse, items]
        | some name => simp [rebuildSearch, item, search, notVar]
      · rw [if_neg search]
        by_cases var : n.mID = VAR_REQ_REPLY
        · rw [if_pos var]
          cases items : n.items with
          | true =>
              obtain ⟨_, hi⟩ := Option.ne_none_iff_exists'.mp (wk.itemName items)
              obtain ⟨_, hf⟩ := Option.ne_none_iff_exists'.mp (wk.interface items search)
              simp [rebuildVarReq, hi, hf]
          | false =>
              cases item : n.itemName <;> cases face : n.interface <;>
                simp [rebuildVarReq, item, face, var, inUse]
        · rw [if_neg var]
          simp [search, var]
  · unfold republish
    rw [if_neg listed]
    simp only [reduceCtorEq, false_iff]
    rintro ⟨_, inUse, mID, _⟩
    exact listed ⟨inUse, mID⟩

/-- **When the subscription list reads set strings only.** For every list that
the calls of the Data Manager reach from the empty one, the next call performs
no comparison or copy of an unset string exactly on the lists of `TextsSet`. -/
theorem dm_call_defined_iff {call : SubscriptionCall}
    (run : machine.Reaches (fun _ call => DMForm call) [] l) (form : DMForm call) :
    machine.step l call ≠ none ↔ TextsSet l call := by
  have wk := reachable_wellKinded run
  cases call with
  | addSubscription subscriberId mID => simp [machine, step, TextsSet]
  | cancelSubscription subscriberId mID => simp [machine, step, TextsSet]
  | addOrRemoveSubscription a => exact addOrRemove_ne_none_iff form.textsGiven wk
  | publish messageID =>
      simp only [machine, step, TextsSet, ne_eq, Option.map_eq_none_iff, republished_eq_none_iff,
        not_exists, not_and]
      constructor
      · intro defined kind n mem inUse mID items
        have reads := (republish_eq_none_iff (wk n mem)).not.mp (defined n mem)
        constructor
        · intro unset
          exact reads ⟨kind, inUse, mID, items, .inl unset⟩
        · intro var unset
          exact reads ⟨kind, inUse, mID, items, .inr ⟨var, unset⟩⟩
      · intro set n mem fault
        obtain ⟨kind, inUse, mID, items, unset⟩ := (republish_eq_none_iff (wk n mem)).mp fault
        obtain ⟨item, face⟩ := set kind n mem inUse mID items
        rcases unset with unset | ⟨var, unset⟩
        · exact item unset
        · exact face var unset

/-- A future `Search` for `x` by the application at port 4000. -/
def searchX : SubscriptionArgs :=
  { reply := SUB_CURRENT_AND_FUTURE, subscriberId := ⟨0, 1, 4000⟩, source := .zero,
    device := none, interface := none, itemname := some (.ofString "x"), quallist := none,
    id := 7, mID := SEARCH_REPLY }

/-- A future `VarReq` for variable `x` of interface 1 message 1 by the same. -/
def varReqX : SubscriptionArgs :=
  { searchX with interface := some (.ofString "257"), mID := VAR_REQ_REPLY }

/-- After the `Search`, the duplicate check of the `VarReq` compares the unset
interface of the `Search` node. -/
theorem search_then_varReq_reads_unset :
    ¬ ∀ (l : SubscriptionList) (call : SubscriptionCall),
      machine.Reaches (fun _ call => DMForm call) [] l → DMForm call →
        machine.step l call ≠ none := by
  intro defined
  have searchForm : DMForm (.addOrRemoveSubscription searchX) := by
    simp [DMForm, searchX]
  have varForm : DMForm (.addOrRemoveSubscription varReqX) := by
    simp [DMForm, varReqX, searchX]
  have run : machine.Reaches (fun _ call => DMForm call) [] [fillSearch searchX .new] :=
    .step .start searchForm (o := true) (by decide)
  exact defined _ (.addOrRemoveSubscription varReqX) run varForm (by decide)

/-- A `VarReq` after a `VarReq` for the same item reads set strings. -/
theorem dm_call_defined_after_varReq :
    machine.step [fillVarReq varReqX .new] (.addOrRemoveSubscription varReqX) ≠ none := by
  have form : DMForm (.addOrRemoveSubscription varReqX) := by simp [DMForm, varReqX, searchX]
  have run : machine.Reaches (fun _ call => DMForm call) [] [fillVarReq varReqX .new] :=
    .step .start form (o := true) (by decide)
  refine (dm_call_defined_iff run form).mpr ⟨fun _ _ => ?_, fun cancel => absurd cancel (by decide)⟩
  intro k n at_k _ _ _ _ mID
  cases k with
  | zero =>
      cases at_k
      exact absurd mID (by decide)
  | succ k => cases at_k

end SubscriptionList

end Sdm
