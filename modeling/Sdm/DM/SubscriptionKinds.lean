import Sdm.Lib.Machine
import Sdm.DM.Publish

/-!
The kinds of subscription entries and the strings they carry.

A node that carries a query has set exactly the strings its kind uses; a node
that carries a notification has whatever strings earlier entries left on it.
`WellKinded` says so, and every call of the Data Manager keeps it
(`step_wellKinded`).

The calls are the actions of `machine`. Its runs are those that `run_refines_table` compares
with a table, in which `dm_call_defined_iff` says which calls are defined, and behind which
`search_answered_iff` searches. Nothing is asked of the arguments: a call with an unset string
that it would have to copy has no result, so it is no step of a run.
-/

namespace Sdm

open Lib

/-- The calls the Data Manager makes on its subscription list. -/
inductive SubscriptionCall where
  | addSubscription (subscriberId : SDMComponentID) (mID : SDMMessageID)
  | cancelSubscription (subscriberId : SDMComponentID) (mID : SDMMessageID)
  | addOrRemoveSubscription (a : SubscriptionArgs)
  | publish (messageID : SDMMessageID)
  deriving DecidableEq, Repr

namespace SubscriptionList

open Subscription

/-- The list after a call, and the flag `addOrRemoveSubscription` returns. -/
def step (l : SubscriptionList) : SubscriptionCall → Option (SubscriptionList × Bool)
  | .addSubscription subscriberId mID => some (addSubscription subscriberId mID l, true)
  | .cancelSubscription subscriberId mID => some (cancelSubscription subscriberId mID l, true)
  | .addOrRemoveSubscription a => addOrRemoveSubscription a l
  | .publish messageID => (republished messageID l).map fun _ => (l, true)

/-- The subscription list as a machine over these calls. -/
def machine : Machine SubscriptionList SubscriptionCall Bool := ⟨step⟩

end SubscriptionList

/-! ### Kinds -/

/-- The reply styles that add a subscription. -/
def SubscriptionArgs.IsAdd (a : SubscriptionArgs) : Prop :=
  a.reply = SUB_CURRENT_AND_FUTURE ∨ a.reply = SUB_CURRENT_FUTURE_AND_CANCELLATIONS

/-- The strings that the kind of the call uses are set. -/
structure SubscriptionArgs.TextsGiven (a : SubscriptionArgs) : Prop where
  itemname : a.itemname ≠ none
  interface : a.mID ≠ SEARCH_REPLY → a.interface ≠ none
  quallist : a.mID ≠ SEARCH_REPLY → a.mID ≠ VAR_REQ_REPLY → a.quallist ≠ none
  device : a.mID ≠ SEARCH_REPLY → a.mID ≠ VAR_REQ_REPLY → a.device ≠ none

/-- A node with a query has the strings of its kind. -/
structure Subscription.WellKinded (n : Subscription) : Prop where
  mID : n.items = true → n.mID = SEARCH_REPLY ∨ n.mID = VAR_REQ_REPLY ∨
    n.mID = REQ_REG_FUTURE ∨ n.mID = REQ_REG_CANCELLATION
  itemName : n.items = true → n.itemName ≠ none
  interface : n.items = true → n.mID ≠ SEARCH_REPLY → n.interface ≠ none
  quallist : n.items = true → n.mID ≠ SEARCH_REPLY → n.mID ≠ VAR_REQ_REPLY → n.quallist ≠ none
  device : n.items = true → n.mID ≠ SEARCH_REPLY → n.mID ≠ VAR_REQ_REPLY → n.device ≠ none

/-- All nodes of the list are well kinded. -/
def SubscriptionList.WellKinded (l : SubscriptionList) : Prop := ∀ n ∈ l, n.WellKinded

namespace Subscription

theorem WellKinded.of_not_items {n : Subscription} (h : n.items = false) : n.WellKinded := by
  constructor <;> simp [h]

theorem wellKinded_release (n : Subscription) : n.release.WellKinded := .of_not_items rfl

end Subscription

namespace SubscriptionList

open Subscription

variable {a : SubscriptionArgs} {n : Subscription} {l l' : SubscriptionList} {want : SDMMessageID}

/-! ### Every call keeps the kinds -/

theorem wellKinded_enter {fill : Subscription → Subscription} (wk : WellKinded l)
    (filled : ∀ n, (fill n).WellKinded) : WellKinded (enter fill l) := by
  intro n mem
  rcases mem_occupy mem with old | ⟨m, rfl, _⟩
  · exact wk n old
  · exact filled m

theorem wellKinded_releaseAt (wk : WellKinded l) (stop : Option Nat) :
    WellKinded (releaseAt l stop) := by
  cases stop with
  | none => exact wk
  | some k =>
      intro n mem
      obtain ⟨j, at_j⟩ := List.mem_iff_getElem?.mp mem
      rw [releaseAt, List.getElem?_modify] at at_j
      obtain ⟨m, old, rfl⟩ := Option.map_eq_some_iff.mp at_j
      split
      · exact wellKinded_release m
      · exact wk m (List.mem_of_getElem? old)

theorem wellKinded_releaseWhere {hit : Subscription → Bool} (wk : WellKinded l) :
    WellKinded (releaseWhere hit release l) := by
  intro n mem
  obtain ⟨m, old, rfl⟩ := List.mem_map.mp mem
  split
  · exact wellKinded_release m
  · exact wk m old

theorem wellKinded_updateWhere {test : Subscription → Option Bool} (wk : WellKinded l)
    (updated : updateWhere test release l = some l') : WellKinded l' := by
  have defined : ∀ n ∈ l, test n ≠ none := by
    intro n mem fault
    rw [updateWhere_eq_fault_iff.mpr ⟨n, mem, fault⟩] at updated
    cases updated
  rw [updateWhere_of_defined defined] at updated
  cases updated
  intro n mem
  obtain ⟨m, old, rfl⟩ := List.mem_map.mp mem
  split
  · exact wellKinded_release m
  · exact wk m old

theorem wellKinded_addSubscription {subscriberId : SDMComponentID} {mID : SDMMessageID}
    (wk : WellKinded l) : WellKinded (addSubscription subscriberId mID l) := by
  unfold addSubscription
  split
  · exact wk
  · exact wellKinded_enter wk fun n => .of_not_items rfl

theorem wellKinded_cancelSubscription {subscriberId : SDMComponentID} {mID : SDMMessageID}
    (wk : WellKinded l) : WellKinded (cancelSubscription subscriberId mID l) := by
  unfold cancelSubscription
  split
  · exact wk
  · rename_i k found
    obtain ⟨lt, hit, _⟩ := List.findIdx?_eq_some_iff_getElem.mp found
    intro n mem
    obtain ⟨j, at_j⟩ := List.mem_iff_getElem?.mp mem
    rw [List.getElem?_modify] at at_j
    obtain ⟨m, old, rfl⟩ := Option.map_eq_some_iff.mp at_j
    split
    · rename_i same
      subst same
      obtain rfl : l[k] = m := by simpa [lt] using old
      simp only [isNotification, decide_eq_true_eq] at hit
      exact .of_not_items hit.2.2.2
    · exact wk m (List.mem_of_getElem? old)

theorem wellKinded_enterReqReg {mID : SDMMessageID} (wk : WellKinded l)
    (val : mID = REQ_REG_FUTURE ∨ mID = REQ_REG_CANCELLATION)
    (entered : enterReqReg a mID l = some l') : WellKinded l' := by
  unfold enterReqReg at entered
  split at entered
  · rename_i set
    cases entered
    simp only [Option.isSome_iff_ne_none] at set
    refine wellKinded_enter wk fun n => ⟨fun _ => ?_, fun _ => set.1, fun _ _ => set.2.2.2,
      fun _ _ _ => set.2.1, fun _ _ _ => set.2.2.1⟩
    exact .inr (.inr val)
  · cases entered

theorem wellKinded_addReqRegSubscription (wk : WellKinded l)
    (added : addReqRegSubscription a l = some l') : WellKinded l' := by
  unfold addReqRegSubscription at added
  split at added
  · obtain ⟨duplicate, _, added⟩ := Option.bind_eq_some_iff.mp added
    split at added
    · cases added
      exact wk
    · exact wellKinded_enterReqReg wk (.inl rfl) added
  · obtain ⟨nosub, _, added⟩ := Option.bind_eq_some_iff.mp added
    obtain ⟨l₁, first, added⟩ := Option.bind_eq_some_iff.mp added
    obtain ⟨duplicate, _, added⟩ := Option.bind_eq_some_iff.mp added
    have wk₁ : WellKinded l₁ := by
      split at first
      · cases first
        exact wk
      · exact wellKinded_enterReqReg wk (.inl rfl) first
    split at added
    · cases added
      exact wk₁
    · exact wellKinded_enterReqReg wk₁ (.inr rfl) added

theorem wellKinded_addSearchSubscription (wk : WellKinded l)
    (added : addSearchSubscription a l = some l') : WellKinded l' := by
  unfold addSearchSubscription at added
  obtain ⟨duplicate, _, added⟩ := Option.bind_eq_some_iff.mp added
  split at added
  · cases added
    exact wk
  · split at added
    · rename_i set
      cases added
      exact wellKinded_enter wk fun n => ⟨fun _ => .inl rfl,
        fun _ => Option.isSome_iff_ne_none.mp set, fun _ h => absurd rfl h,
        fun _ h => absurd rfl h, fun _ h => absurd rfl h⟩
    · cases added

theorem wellKinded_addVarReqSubscription (wk : WellKinded l)
    (added : addVarReqSubscription a l = some l') : WellKinded l' := by
  unfold addVarReqSubscription at added
  obtain ⟨duplicate, _, added⟩ := Option.bind_eq_some_iff.mp added
  split at added
  · cases added
    exact wk
  · split at added
    · rename_i set
      cases added
      simp only [Option.isSome_iff_ne_none] at set
      exact wellKinded_enter wk fun n => ⟨fun _ => .inr (.inl rfl), fun _ => set.1,
        fun _ _ => set.2, fun _ _ h => absurd rfl h, fun _ _ h => absurd rfl h⟩
    · cases added

theorem wellKinded_removeReqRegSubscription (wk : WellKinded l)
    (removed : removeReqRegSubscription a l = some l') : WellKinded l' := by
  unfold removeReqRegSubscription at removed
  split at removed
  · cases removed
    exact wk
  · obtain ⟨l₁, first, removed⟩ := Option.bind_eq_some_iff.mp removed
    obtain ⟨stop, _, rfl⟩ := Option.map_eq_some_iff.mp removed
    exact wellKinded_releaseAt (wellKinded_updateWhere wk first) stop

theorem wellKinded_removeSingle (wk : WellKinded l) (removed : removeSingle want a l = some l') :
    WellKinded l' := by
  unfold removeSingle at removed
  split at removed
  · cases removed
    exact wk
  · obtain ⟨stop, _, rfl⟩ := Option.map_eq_some_iff.mp removed
    exact wellKinded_releaseAt wk stop

theorem wellKinded_addOrRemove {o : Bool} (wk : WellKinded l)
    (taken : addOrRemoveSubscription a l = some (l', o)) : WellKinded l' := by
  unfold addOrRemoveSubscription at taken
  split at taken
  · obtain ⟨_, added, same⟩ := Option.map_eq_some_iff.mp taken
    cases same
    split at added
    · exact wellKinded_addSearchSubscription wk added
    · split at added
      · exact wellKinded_addVarReqSubscription wk added
      · exact wellKinded_addReqRegSubscription wk added
  · split at taken
    · split at taken
      · cases taken
        split
        · exact wellKinded_releaseWhere wk
        · split
          · exact wellKinded_releaseWhere wk
          · exact wellKinded_releaseWhere wk
      · obtain ⟨_, removed, same⟩ := Option.map_eq_some_iff.mp taken
        cases same
        split at removed
        · exact wellKinded_removeSingle wk removed
        · split at removed
          · exact wellKinded_removeSingle wk removed
          · exact wellKinded_removeReqRegSubscription wk removed
    · cases taken
      exact wk

/-- Every call keeps all nodes well kinded. -/
theorem step_wellKinded {call : SubscriptionCall} {o : Bool} (wk : WellKinded l)
    (taken : step l call = some (l', o)) : WellKinded l' := by
  cases call with
  | addSubscription subscriberId mID =>
      cases taken
      exact wellKinded_addSubscription wk
  | cancelSubscription subscriberId mID =>
      cases taken
      exact wellKinded_cancelSubscription wk
  | addOrRemoveSubscription a => exact wellKinded_addOrRemove wk taken
  | publish messageID =>
      obtain ⟨_, _, same⟩ := Option.map_eq_some_iff.mp taken
      cases same
      exact wk

/-- In every run from the empty list all nodes are well kinded. -/
theorem reachable_wellKinded {ok : SubscriptionList → SubscriptionCall → Prop}
    (run : machine.Reaches ok [] l) : WellKinded l :=
  run.invariant (fun _ mem => absurd mem List.not_mem_nil)
    fun _ _ _ _ wk _ taken => step_wellKinded wk taken

end SubscriptionList

end Sdm
