import Sdm.DM.XTEDSLibrary

/-!
The provider subscription list (`ProviderSubscriptionList.cpp`).

The list remembers which registered components consume which messages, so that
the Data Manager can end their subscriptions when they fail. `delete` and
`deleteAll` share one removal loop, which walks the nodes with the predecessor
of the current node at hand; `removeLoop_eq_filter` says what it leaves.

A finished component is told from others in two ways. As a provider it is
compared by its full identifier; as a subscriber only by address and port.
`subscriberFinish_exact_iff` says when that difference does not show: on exactly
the lists where every subscriber at the address and port of the finished
component is that component.
-/

namespace Sdm

namespace ProviderSubscriptionList

variable {l kept : ProviderSubscriptionList} {c c' : SDMComponentID}

/-- `Add`: append an entry. -/
def add (provider subscriber : SDMComponentID) (message : SDMMessageID)
    (l : ProviderSubscriptionList) : ProviderSubscriptionList :=
  l ++ [⟨provider, subscriber, message⟩]

/-- The removal loop: the nodes up to `pPrev`, and the nodes from `pCur` on. -/
def removeLoop (hit : ProviderSubscription → Bool) :
    ProviderSubscriptionList → ProviderSubscriptionList → ProviderSubscriptionList
  | kept, [] => kept
  | kept, e :: rest => if hit e then removeLoop hit kept rest else removeLoop hit (kept ++ [e]) rest

/-- `Delete(SubscriberId, MessageId)`. -/
def delete (subscriber : SDMComponentID) (message : SDMMessageID) (l : ProviderSubscriptionList) :
    ProviderSubscriptionList :=
  removeLoop (fun e => decide (e.subscriber = subscriber ∧ e.message = message)) [] l

/-- Two identifiers with the same address and port. -/
def SameEndpoint (a b : SDMComponentID) : Prop := a.address = b.address ∧ a.port = b.port

instance (a b : SDMComponentID) : Decidable (SameEndpoint a b) :=
  inferInstanceAs (Decidable (_ ∧ _))

/-- `DeleteAll(compId, bUseProviderId)`. -/
def deleteAll (compId : SDMComponentID) (useProviderId : Bool) (l : ProviderSubscriptionList) :
    ProviderSubscriptionList :=
  removeLoop (fun e => decide (useProviderId = true ∧ e.provider = compId ∨
    useProviderId = false ∧ SameEndpoint e.subscriber compId)) [] l

/-- The `SDMDeletesub` for an entry. -/
def deletesub (e : ProviderSubscription) : SDMDeletesub := ⟨e.provider, e.subscriber, e.message⟩

/-- `SubscriberFinish`: the messages sent, and the list after it. -/
def subscriberFinish (subscriberId : SDMComponentID) (l : ProviderSubscriptionList) :
    List SDMDeletesub × ProviderSubscriptionList :=
  ((l.filter fun e => decide (SameEndpoint subscriberId e.subscriber)).map deletesub,
    deleteAll subscriberId false l)

/-- `ProviderFinish`. -/
def providerFinish (providerId : SDMComponentID) (l : ProviderSubscriptionList) :
    ProviderSubscriptionList :=
  deleteAll providerId true l

/-! ### What the loop leaves -/

/-- The removal loop keeps the entries that are not hit, in order. -/
theorem removeLoop_eq_filter {hit : ProviderSubscription → Bool} :
    removeLoop hit kept l = kept ++ l.filter fun e => !hit e := by
  induction l generalizing kept with
  | nil => simp [removeLoop]
  | cons e l ih =>
      cases h : hit e with
      | true => simp [removeLoop, h, ih]
      | false => simp [removeLoop, h, ih]

theorem delete_eq_filter {subscriber : SDMComponentID} {message : SDMMessageID} :
    delete subscriber message l =
      l.filter fun e => !decide (e.subscriber = subscriber ∧ e.message = message) := by
  rw [delete, removeLoop_eq_filter, List.nil_append]

theorem providerFinish_eq_filter :
    providerFinish c l = l.filter fun e => !decide (e.provider = c) := by
  rw [providerFinish, deleteAll, removeLoop_eq_filter, List.nil_append]
  simp

theorem SameEndpoint.symm {a b : SDMComponentID} (h : SameEndpoint a b) : SameEndpoint b a :=
  ⟨h.1.symm, h.2.symm⟩

theorem SameEndpoint.comm {a b : SDMComponentID} : SameEndpoint a b ↔ SameEndpoint b a :=
  ⟨.symm, .symm⟩

theorem subscriberFinish_snd :
    (subscriberFinish c l).2 = l.filter fun e => !decide (SameEndpoint c e.subscriber) := by
  rw [subscriberFinish, deleteAll, removeLoop_eq_filter, List.nil_append]
  simp [SameEndpoint.comm (a := c)]

/-! ### Exact cleanup -/

/-- `SubscriberFinish` ends the subscriptions of `c` and no others. -/
structure FinishesExactly (c : SDMComponentID) (l : ProviderSubscriptionList) : Prop where
  sent : (subscriberFinish c l).1 = (l.filter fun e => decide (e.subscriber = c)).map deletesub
  left : (subscriberFinish c l).2 = l.filter fun e => !decide (e.subscriber = c)

/-- The subscriptions of another component outlive the cleanup, and no message
is sent in its name. -/
structure SparesOther (c c' : SDMComponentID) (l : ProviderSubscriptionList) : Prop where
  sent : ∀ msg ∈ (subscriberFinish c l).1, msg.destination ≠ c'
  left : ((subscriberFinish c l).2.filter fun e => decide (e.subscriber = c')) =
    l.filter fun e => decide (e.subscriber = c')

theorem finishesExactly_iff :
    FinishesExactly c l ↔ ∀ e ∈ l, SameEndpoint c e.subscriber → e.subscriber = c := by
  constructor
  · intro exact e mem same
    by_contra other
    have kept : e ∈ (subscriberFinish c l).2 := by
      rw [exact.left]
      exact List.mem_filter.mpr ⟨mem, by simpa using other⟩
    rw [subscriberFinish_snd] at kept
    have := (List.mem_filter.mp kept).2
    simp [same] at this
  · intro unique
    have agree : ∀ e ∈ l, decide (SameEndpoint c e.subscriber) = decide (e.subscriber = c) := by
      intro e mem
      refine decide_eq_decide.mpr ⟨unique e mem, ?_⟩
      rintro rfl
      exact ⟨rfl, rfl⟩
    constructor
    · rw [subscriberFinish, List.filter_congr agree]
    · rw [subscriberFinish_snd]
      exact List.filter_congr fun e mem => by rw [agree e mem]

theorem sparesOther_iff (differ : c ≠ c') :
    SparesOther c c' l ↔ (SameEndpoint c c' → ∀ e ∈ l, e.subscriber ≠ c') := by
  constructor
  · intro spares same e mem at_e
    refine spares.sent (deletesub e) (List.mem_map_of_mem (List.mem_filter.mpr ⟨mem, ?_⟩)) at_e
    simpa [at_e] using same
  · intro apart
    constructor
    · rintro msg sent rfl
      obtain ⟨e, mem, rfl⟩ := List.mem_map.mp sent
      obtain ⟨mem, same⟩ := List.mem_filter.mp mem
      exact apart (by simpa [deletesub] using same) e mem rfl
    · rw [subscriberFinish_snd, List.filter_filter]
      apply List.filter_congr
      intro e mem
      by_cases own : e.subscriber = c'
      · have : ¬ SameEndpoint c c' := fun same => apart same e mem own
        simp [own, this]
      · simp [own]

/-- **When a failed subscriber is cleaned up exactly.** For every list and every
finished component, `SubscriberFinish` sends one `SDMDeletesub` for each of its
entries, none for another component, and leaves the other entries in order,
exactly when all subscribers at its address and port are that component. Another
component keeps its subscriptions exactly when it is elsewhere or has none. -/
theorem subscriberFinish_exact_iff (c : SDMComponentID) (l : ProviderSubscriptionList) :
    (FinishesExactly c l ↔ ∀ e ∈ l, SameEndpoint c e.subscriber → e.subscriber = c) ∧
      ∀ c', c ≠ c' →
        (SparesOther c c' l ↔ (SameEndpoint c c' → ∀ e ∈ l, e.subscriber ≠ c')) :=
  ⟨finishesExactly_iff, fun _ differ => sparesOther_iff differ⟩

/-- Two devices behind one sensor manager: the failure of the first ends the
subscription of the second. -/
theorem finish_of_one_device_cancels_other :
    ¬ ∀ (c : SDMComponentID) (l : ProviderSubscriptionList),
      FinishesExactly c l ∧ ∀ c', c ≠ c' → SparesOther c c' l := by
  intro exact
  let first : SDMComponentID := ⟨0x10005, 0x0A00000A, PORT_SM⟩
  let second : SDMComponentID := ⟨0x20006, 0x0A00000A, PORT_SM⟩
  have left := (exact first [⟨⟨0x30007, 1, 4000⟩, second, ⟨1, 1⟩⟩]).1.left
  exact absurd left (by decide)

end ProviderSubscriptionList

end Sdm
