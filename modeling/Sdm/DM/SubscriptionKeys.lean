import Sdm.DM.SubscriptionTable

/-!
The keys that a subscription list holds, whatever calls have been made on it.

The reference table says what the list holds as long as each cancel stops at an entry of its own
key. These facts need no such condition: an addition enters its own keys and keeps the others, and
no cancel enters a key, wherever it stops.

* `holding_add`: the keys after an addition.
* `holding_of_cancel`: a cancel enters no key.
-/

namespace Sdm

open Lib

namespace SubscriptionList

open Subscription SubscriptionTable

/-- A node in use has this key. -/
def Holding (l : SubscriptionList) (k : SubscriptionKey) : Prop :=
  ∃ n ∈ l, n.inUse = true ∧ n.key = k

instance {l : SubscriptionList} {k : SubscriptionKey} : Decidable (Holding l k) :=
  inferInstanceAs (Decidable (∃ n ∈ l, _))

end SubscriptionList

/-- The keys that an addition enters. -/
def SubscriptionArgs.Enters (a : SubscriptionArgs) (k : SubscriptionKey) : Prop :=
  if a.mID = SEARCH_REPLY then k = SubscriptionTable.searchKey a
  else if a.mID = VAR_REQ_REPLY then k = SubscriptionTable.varReqKey a
  else k = SubscriptionTable.reqRegKey REQ_REG_FUTURE a ∨
    a.reply ≠ SUB_CURRENT_AND_FUTURE ∧ k = SubscriptionTable.reqRegKey REQ_REG_CANCELLATION a

namespace SubscriptionList

open Subscription SubscriptionTable

variable {a : SubscriptionArgs} {l l' : SubscriptionList} {k own : SubscriptionKey}

/-! ### Additions -/

theorem holding_iff_mem : Holding l k ↔ k ∈ (l.filter Subscription.inUse).map Subscription.key := by
  simp only [Holding, List.mem_map, List.mem_filter, and_assoc]

/-- A node that is filled has its key, and the others stay. -/
theorem holding_enter {fill : Subscription → Subscription}
    (filled : ∀ n, (fill n).inUse = true ∧ (fill n).key = own) :
    Holding (enter fill l) k ↔ k = own ∨ Holding l k := by
  obtain ⟨n, perm⟩ : ∃ n, ((enter fill l).filter inUse).Perm (fill n :: l.filter inUse) :=
    filter_occupy_perm fun n => (filled n).1
  rw [holding_iff_mem, (perm.map key).mem_iff, List.map_cons, List.mem_cons, (filled n).2,
    holding_iff_mem]

/-- Entering a key unless a duplicate was found. -/
theorem holding_addIfAbsent {fill : Subscription → Subscription} {duplicate : Bool}
    (found : duplicate = true ↔ Holding l own)
    (filled : ∀ n, (fill n).inUse = true ∧ (fill n).key = own) :
    Holding (if duplicate then l else enter fill l) k ↔ k = own ∨ Holding l k := by
  cases duplicate with
  | true =>
      constructor
      · exact .inr
      · rintro (rfl | held)
        · exact found.mp rfl
        · exact held
  | false => exact holding_enter filled

theorem holding_addSubscription {subscriberId : SDMComponentID} {mID : SDMMessageID} :
    Holding (addSubscription subscriberId mID l) k ↔
      k = .notification mID subscriberId ∨ Holding l k := by
  refine holding_addIfAbsent ?_ fun n => ⟨rfl, key_eq_notification_iff.mpr ⟨rfl, rfl, rfl⟩⟩
  simp only [List.any_eq_true, notification_hits]
  rfl

theorem holding_addSearch (given : a.TextsGiven) (added : addSearchSubscription a l = some l') :
    Holding l' k ↔ k = searchKey a ∨ Holding l k := by
  obtain ⟨duplicate, scanned, added⟩ := Option.bind_eq_some_iff.mp added
  have text : a.itemname.isSome := Option.isSome_iff_ne_none.mpr given.itemname
  rw [if_pos text, ← apply_ite some] at added
  cases added
  exact holding_addIfAbsent
    (search_isSome_iff scanned fun n _ => searchDuplicate_hits given)
    fun n => ⟨rfl, key_eq_search_iff.mpr ⟨rfl, rfl, rfl, rfl, rfl⟩⟩

theorem holding_addVarReq (given : a.TextsGiven) (notSearch : a.mID ≠ SEARCH_REPLY)
    (added : addVarReqSubscription a l = some l') :
    Holding l' k ↔ k = varReqKey a ∨ Holding l k := by
  obtain ⟨duplicate, scanned, added⟩ := Option.bind_eq_some_iff.mp added
  have texts : a.itemname.isSome ∧ a.interface.isSome :=
    ⟨Option.isSome_iff_ne_none.mpr given.itemname,
      Option.isSome_iff_ne_none.mpr (given.interface notSearch)⟩
  rw [if_pos texts, ← apply_ite some] at added
  cases added
  exact holding_addIfAbsent
    (search_isSome_iff scanned fun n _ => varReqDuplicate_hits given notSearch)
    fun n => ⟨rfl, key_eq_varReq_iff.mpr ⟨rfl, rfl, rfl, rfl, rfl, rfl⟩⟩

theorem holding_addReqReg (given : a.TextsGiven) (notSearch : a.mID ≠ SEARCH_REPLY)
    (notVar : a.mID ≠ VAR_REQ_REPLY) (wk : WellKinded l)
    (added : addReqRegSubscription a l = some l') :
    Holding l' k ↔ (k = reqRegKey REQ_REG_FUTURE a ∨
      a.reply ≠ SUB_CURRENT_AND_FUTURE ∧ k = reqRegKey REQ_REG_CANCELLATION a) ∨ Holding l k := by
  unfold addReqRegSubscription at added
  simp only [enterReqReg_eq given notSearch notVar, ← apply_ite some] at added
  split at added
  · rename_i one
    obtain ⟨duplicate, scanned, rfl⟩ := Option.map_eq_some_iff.mp (Option.map_eq_bind ▸ added)
    rw [holding_addIfAbsent (search_isSome_iff scanned
      fun n _ => reqRegDuplicate_hits given notSearch notVar (.inl rfl))
      fun n => ⟨(fillReqReg_entry (.inl rfl) n).1, (fillReqReg_entry (.inl rfl) n).2.1⟩]
    simp [one]
  · rename_i two
    rw [sweep_of_defined fun n mem =>
      reqRegDuplicate_ne_none given notSearch notVar (wk n mem) (.inr rfl)] at added
    simp only [Option.bind_some] at added
    obtain ⟨duplicate, scanned, added⟩ := Option.bind_eq_some_iff.mp added
    cases added
    have future : (l.any fun n => decide (reqRegDuplicate a REQ_REG_FUTURE REQ_REG_CANCELLATION
        REQ_REG_FUTURE n = some true)) = true ↔ Holding l (reqRegKey REQ_REG_FUTURE a) := by
      simp only [List.any_eq_true, decide_eq_true_eq,
        reqRegDuplicate_hits given notSearch notVar (.inl rfl)]
      rfl
    rw [holding_addIfAbsent (search_isSome_iff scanned fun n _ => reqRegDuplicate_hits given
        notSearch notVar (.inr ⟨rfl, rfl⟩))
      fun n => ⟨(fillReqReg_entry (.inr rfl) n).1, (fillReqReg_entry (.inr rfl) n).2.1⟩,
      holding_addIfAbsent future
        fun n => ⟨(fillReqReg_entry (.inl rfl) n).1, (fillReqReg_entry (.inl rfl) n).2.1⟩]
    simp only [two, not_false_eq_true, true_and, ne_eq]
    tauto

/-- **An addition** enters its own keys, and keeps all others. -/
theorem holding_add (given : a.TextsGiven) (wk : WellKinded l) (reply : a.IsAdd) {o : Bool}
    (taken : addOrRemoveSubscription a l = some (l', o)) :
    Holding l' k ↔ a.Enters k ∨ Holding l k := by
  unfold SubscriptionArgs.IsAdd at reply
  unfold addOrRemoveSubscription at taken
  rw [if_pos reply] at taken
  obtain ⟨_, added, same⟩ := Option.map_eq_some_iff.mp taken
  cases same
  unfold SubscriptionArgs.Enters
  by_cases search : a.mID = SEARCH_REPLY
  · rw [if_pos search] at added ⊢
    exact holding_addSearch given added
  · rw [if_neg search] at added ⊢
    by_cases var : a.mID = VAR_REQ_REPLY
    · rw [if_pos var] at added ⊢
      exact holding_addVarReq given search added
    · rw [if_neg var] at added ⊢
      exact holding_addReqReg given search var wk added

/-! ### Cancels -/

/-- Some nodes are freed. -/
def Frees (l l' : SubscriptionList) : Prop :=
  List.Forall₂ (fun n n' => n' = n ∨ n'.inUse = false) l l'

theorem Frees.refl (l : SubscriptionList) : Frees l l := List.forall₂_same.mpr fun _ _ => .inl rfl

theorem Frees.trans {l₁ l₂ l₃ : SubscriptionList} (first : Frees l₁ l₂) (second : Frees l₂ l₃) :
    Frees l₁ l₃ := by
  induction first generalizing l₃ with
  | nil => exact second
  | cons here _ ih =>
      cases second with
      | cons here' rest =>
          refine .cons ?_ (ih rest)
          rcases here' with rfl | free
          · exact here
          · exact .inr free

theorem Frees.holding (frees : Frees l l') (held : Holding l' k) : Holding l k := by
  induction frees with
  | nil => exact held
  | cons here _ ih =>
      obtain ⟨n, mem, inUse, same⟩ := held
      rcases List.mem_cons.mp mem with rfl | later
      · rcases here with rfl | free
        · exact ⟨_, List.mem_cons_self, inUse, same⟩
        · exact absurd (free.symm.trans inUse) Bool.false_ne_true
      · obtain ⟨m, old, entry⟩ := ih ⟨n, later, inUse, same⟩
        exact ⟨m, List.mem_cons_of_mem _ old, entry⟩

theorem frees_map {f : Subscription → Subscription}
    (each : ∀ n ∈ l, f n = n ∨ (f n).inUse = false) : Frees l (l.map f) := by
  induction l with
  | nil => exact .nil
  | cons n l ih =>
      exact .cons (each n List.mem_cons_self) (ih fun m mem => each m (List.mem_cons_of_mem _ mem))

theorem frees_modify {f : Subscription → Subscription} (i : Nat)
    (free : ∀ n, (f n).inUse = false) : Frees l (l.modify i f) := by
  induction l generalizing i with
  | nil =>
      rw [List.modify_nil]
      exact .nil
  | cons n l ih =>
      cases i with
      | zero => exact .cons (.inr (free n)) (Frees.refl l)
      | succ i => exact .cons (.inl rfl) (ih i)

theorem frees_releaseAt (stop : Option Nat) : Frees l (releaseAt l stop) := by
  cases stop with
  | none => exact .refl l
  | some i => exact frees_modify i fun _ => rfl

theorem frees_releaseWhere {hit : Subscription → Bool} : Frees l (releaseWhere hit release l) := by
  refine frees_map fun n _ => ?_
  split
  · exact .inr rfl
  · exact .inl rfl

theorem frees_cancelSubscription {subscriberId : SDMComponentID} {mID : SDMMessageID} :
    Frees l (cancelSubscription subscriberId mID l) := by
  unfold cancelSubscription
  split
  · exact .refl l
  · exact frees_modify _ fun _ => rfl

theorem frees_updateWhere {test : Subscription → Option Bool}
    (updated : updateWhere test release l = some l') : Frees l l' := by
  have defined : ∀ n ∈ l, test n ≠ none := by
    intro n mem fault
    rw [updateWhere_eq_fault_iff.mpr ⟨n, mem, fault⟩] at updated
    cases updated
  rw [updateWhere_of_defined defined] at updated
  cases updated
  refine frees_map fun n _ => ?_
  split
  · exact .inr rfl
  · exact .inl rfl

theorem frees_removeSingle {want : SDMMessageID} (removed : removeSingle want a l = some l') :
    Frees l l' := by
  unfold removeSingle at removed
  split at removed
  · cases removed
    exact .refl l
  · obtain ⟨stop, _, rfl⟩ := Option.map_eq_some_iff.mp removed
    exact frees_releaseAt stop

theorem frees_removeReqReg (removed : removeReqRegSubscription a l = some l') : Frees l l' := by
  unfold removeReqRegSubscription at removed
  split at removed
  · cases removed
    exact .refl l
  · obtain ⟨l₁, first, removed⟩ := Option.bind_eq_some_iff.mp removed
    obtain ⟨stop, _, rfl⟩ := Option.map_eq_some_iff.mp removed
    exact (frees_updateWhere first).trans (frees_releaseAt stop)

/-- **A cancel** frees nodes, of whatever key, and changes no other; so does a call that asks for
nothing. -/
theorem frees_of_not_add (reply : ¬ a.IsAdd) {o : Bool}
    (taken : addOrRemoveSubscription a l = some (l', o)) : Frees l l' := by
  unfold SubscriptionArgs.IsAdd at reply
  unfold addOrRemoveSubscription at taken
  rw [if_neg reply] at taken
  split at taken
  · split at taken
    · cases taken
      split
      · exact frees_releaseWhere
      · split
        · exact frees_releaseWhere
        · exact frees_releaseWhere
    · obtain ⟨_, removed, same⟩ := Option.map_eq_some_iff.mp taken
      cases same
      split at removed
      · exact frees_removeSingle removed
      · split at removed
        · exact frees_removeSingle removed
        · exact frees_removeReqReg removed
  · cases taken
    exact .refl l

/-- A call that neither adds nor cancels changes nothing. -/
theorem eq_of_neither (notAdd : ¬ a.IsAdd) (notCancel : a.reply ≠ SUB_CANCEL) {o : Bool}
    (taken : addOrRemoveSubscription a l = some (l', o)) : l' = l := by
  unfold SubscriptionArgs.IsAdd at notAdd
  unfold addOrRemoveSubscription at taken
  rw [if_neg notAdd, if_neg notCancel] at taken
  cases taken
  rfl

/-- **The flag** tells a cancel from all else. -/
theorem flag_eq_false_iff {o : Bool} (taken : addOrRemoveSubscription a l = some (l', o)) :
    o = false ↔ a.reply = SUB_CANCEL := by
  unfold addOrRemoveSubscription at taken
  split at taken
  · rename_i adds
    obtain ⟨_, _, same⟩ := Option.map_eq_some_iff.mp taken
    cases same
    refine iff_of_false (fun flag => Bool.false_ne_true flag.symm) ?_
    rcases adds with reply | reply <;> rw [reply] <;> decide
  · split at taken
    · rename_i cancel
      refine iff_of_true ?_ cancel
      split at taken
      · cases taken
        rfl
      · obtain ⟨_, _, same⟩ := Option.map_eq_some_iff.mp taken
        cases same
        rfl
    · rename_i other
      cases taken
      exact iff_of_false (fun flag => Bool.false_ne_true flag.symm) other

/-- An addition goes on. -/
theorem flag_of_add (add : a.IsAdd) {o : Bool}
    (taken : addOrRemoveSubscription a l = some (l', o)) : o = true := by
  cases o with
  | true => rfl
  | false =>
      have reply := (flag_eq_false_iff taken).mp rfl
      rcases add with adds | adds <;> rw [reply] at adds <;> exact absurd adds (by decide)

end SubscriptionList

end Sdm
