import Sdm.Common.SubscriptionManager
import Sdm.Lib.Machine

/-!
What subscribers and requesters get over all the calls of a `SubscriptionManager`.

Both forms of `AddSubscription` take a subscription for a duplicate when the message id, the
address and the port are those of one that is there, of whichever kind that is. `Publish`
sends to every subscription that has the message or has it as its fault, and deletes the
ones that are for one message.

* `agrees_of_run`: after any calls there is a subscription of a component for a message
  exactly when the last call about the two, or about all subscriptions, asked for it.
* `publish_servesAll_iff`: after any calls, a `Publish` serves those who asked for the message
  and those who wait for it exactly when its data fits in a message and it is `Undisturbed`.
-/

namespace Sdm.SubscriptionManager

open Sdm.Lib

/-- Where a component is reached: its address and port. -/
abbrev Endpoint := UInt32 × UInt16

def endpoint (c : SDMComponentID) : Endpoint := (c.address, c.port)

/-! ### The calls -/

/-- A call, with the address that `new` returns where there is a `new`. -/
inductive Call where
  | subreqst (a : Nat) (subreqst : SDMSubreqst)
  | serreqst (a : Nat) (serreqst : SDMSerreqst)
  | deletesub (deletesub : SDMDeletesub)
  | clear
  | publish (id : SDMMessageID) (data : List UInt8)

/-- `new` returns memory that is not allocated. -/
def Call.Fresh (m : SubscriptionManager) : Call → Prop
  | .subreqst a _ => m.heap a = none
  | .serreqst a _ => m.heap a = none
  | _ => True

/-- One call. `result` gives the results of the sends. -/
def perform (m : SubscriptionManager) (rounds : Nat) (result : Nat → Int) :
    Call → Except Stop (SubscriptionManager × Bool)
  | .subreqst a subreqst => m.AddSubscription rounds a subreqst
  | .serreqst a serreqst => m.AddServiceSubscription rounds a serreqst
  | .deletesub deletesub => m.RemoveSubscription rounds deletesub
  | .clear => m.ClearAllSubscriptions rounds
  | .publish id data => m.Publish rounds id data result

/-- A manager, and how many calls it has taken: its loops go at most once round for each. -/
structure Session where
  manager : SubscriptionManager
  calls : Nat

/-- What a call sends. -/
abbrev Sent := List (SDMComponentID × SDMData)

/-- The calls of a manager. A step outputs what the call has sent. -/
def session (result : Nat → Int) : Machine Session Call Sent where
  step s call :=
    match s.manager.perform (s.calls + 1) result call with
    | .ok (after, _) => some (⟨after, s.calls + 1⟩, after.sent.drop s.manager.sent.length)
    | .error _ => none

/-- `SubscriptionManager()`. -/
def Session.start : Session := ⟨⟨.zero, none, ⟨.zero, .zero, 0, []⟩, fun _ => none, []⟩, 0⟩

/-- The calls so far with what they have sent, the last one first. -/
abbrev History := List (Call × Sent)

/-- The calls with their history. -/
abbrev recorded (result : Nat → Int) : Machine (Session × History) Call Sent :=
  (session result).withGhost fun h _ call sent => (call, sent) :: h

/-- The calls of the history lead from the empty manager to `s`. -/
abbrev Run (result : Nat → Int) (s : Session) (h : History) : Prop :=
  (recorded result).Reaches (fun q call => call.Fresh q.1.manager) (Session.start, []) (s, h)

/-! ### What the history says -/

/-- The component has asked for the message by an `SDMSubreqst`, and there was no
`SDMDeletesub` for the two and no clear since. -/
def asked (id : SDMMessageID) (k : Endpoint) : History → Bool
  | [] => false
  | (.subreqst _ r, _) :: h => decide (r.msg_id = id ∧ endpoint r.destination = k) || asked id k h
  | (.deletesub d, _) :: h => !decide (d.msg_id = id ∧ endpoint d.destination = k) && asked id k h
  | (.clear, _) :: _ => false
  | _ :: h => asked id k h

/-- The component has made a request whose reply is the message, and the message was not
sent to it since. -/
def owed (id : SDMMessageID) (k : Endpoint) : History → Bool
  | [] => false
  | (.serreqst _ r, _) :: h =>
      decide (r.reply_id = id ∧ endpoint r.destination = k) || owed id k h
  | (.publish id' _, sent) :: h =>
      !(decide (id' = id) && sent.any fun d => endpoint d.1 = k) && owed id k h
  | _ :: h => owed id k h

/-- The component has asked for the message in either way, and there was no
`SDMDeletesub` for the two and no clear since. -/
def noted (id : SDMMessageID) (k : Endpoint) : History → Bool
  | [] => false
  | (.subreqst _ r, _) :: h => decide (r.msg_id = id ∧ endpoint r.destination = k) || noted id k h
  | (.serreqst _ r, _) :: h =>
      decide (r.reply_id = id ∧ endpoint r.destination = k) || noted id k h
  | (.deletesub d, _) :: h => !decide (d.msg_id = id ∧ endpoint d.destination = k) && noted id k h
  | (.clear, _) :: _ => false
  | _ :: h => noted id k h

/-- How often the data was sent to the component as the message. -/
def delivered (k : Endpoint) (id : SDMMessageID) (data : List UInt8) (sent : Sent) : Nat :=
  sent.countP fun d => endpoint d.1 = k ∧ d.2.msg_id = id ∧ d.2.msg = data

/-- `Publish` returns. It has sent the data once to each component that has asked for the
message, and to each that waits for it. -/
def ServesAll (result : Nat → Int) (s : Session) (h : History) (id : SDMMessageID)
    (data : List UInt8) : Prop :=
  ∃ after sent, (session result).step s (.publish id data) = some (after, sent) ∧
    (∀ k, asked id k h = true → delivered k id data sent = 1) ∧
    ∀ k, owed id k h = true → 1 ≤ delivered k id data sent

/-- The subscription is in the list. -/
def Listed (m : SubscriptionManager) (s : Subscription) : Prop :=
  ∃ l, m.heap.Holds m.sub_list l ∧ s ∈ l.map Prod.snd

/-- What a `Publish` of the message depends on. -/
structure Undisturbed (m : SubscriptionManager) (h : History) (id : SDMMessageID) : Prop where
  /-- No subscription for one message is due. -/
  lasting : ∀ s, m.Listed s → ¬ Expires id s
  /-- No component that has asked for the message has it as the fault of another message. -/
  single : ∀ s, m.Listed s → asked id (endpoint s.component_id) h = true → s.fault_id = id →
    s.msg_id = id
  /-- No component waits for the message whose request was withdrawn, unless it has the
  message as the fault of another one. -/
  kept : ∀ k, owed id k h = true → noted id k h = true ∨
    ∃ s, m.Listed s ∧ endpoint s.component_id = k ∧ s.fault_id = id

variable {m m' : SubscriptionManager} {l : List (Nat × Subscription)} {a : Nat}
  {id : SDMMessageID} {k : Endpoint} {data : List UInt8} {result : Nat → Int} {rounds : Nat}
  {h : History} {call : Call} {sent : Sent}

theorem asked_le_noted (asks : asked id k h = true) : noted id k h = true := by
  induction h with
  | nil => exact asks
  | cons e h ih =>
      obtain ⟨call, sent⟩ := e
      cases call with
      | subreqst a r =>
          simp only [asked, noted, Bool.or_eq_true] at asks ⊢
          exact asks.imp_right ih
      | serreqst a r =>
          simp only [noted, Bool.or_eq_true]
          exact Or.inr (ih asks)
      | deletesub d =>
          simp only [asked, noted, Bool.and_eq_true] at asks ⊢
          exact asks.imp_right ih
      | clear => exact asks
      | publish id' data' => exact ih asks

theorem isFor_iff {c : SDMComponentID} {s : Subscription} :
    isFor id c s = true ↔ s.msg_id = id ∧ endpoint s.component_id = endpoint c := by
  simp only [isFor, endpoint, decide_eq_true_eq, Prod.mk.injEq]

/-! ### The list after the calls -/

/-- What a subscription is for: no two of the list have the same. -/
def key (s : Subscription) : SDMMessageID × Endpoint := (s.msg_id, endpoint s.component_id)

/-- The list of the manager and the history agree. -/
structure Agrees (s : Session) (h : History) (l : List (Nat × Subscription)) : Prop where
  holds : s.manager.heap.Holds s.manager.sub_list l
  distinct : (l.map fun c => key c.2).Nodup
  noted : ∀ id k, (id, k) ∈ (l.map fun c => key c.2) ↔ noted id k h = true
  bound : l.length ≤ s.calls

theorem key_eq_iff {s : Subscription} :
    key s = (id, k) ↔ s.msg_id = id ∧ endpoint s.component_id = k :=
  Prod.ext_iff

theorem isFor_iff_key {c : SDMComponentID} {s : Subscription} :
    isFor id c s = true ↔ key s = (id, endpoint c) :=
  isFor_iff.trans key_eq_iff.symm

theorem any_isFor {c : SDMComponentID} :
    (l.any fun d => isFor id c d.2) = true ↔ (id, endpoint c) ∈ l.map fun d => key d.2 := by
  rw [List.any_eq_true, List.mem_map]
  exact exists_congr fun d => and_congr_right fun _ => isFor_iff_key

/-- The keys that are left when the subscription that is meant is taken out. -/
theorem keys_eraseP {c : SDMComponentID} :
    ((l.eraseP fun d => isFor id c d.2).map fun d => key d.2) =
      (l.map fun d => key d.2).erase (id, endpoint c) := by
  have same : (fun d : Nat × Subscription => isFor id c d.2) =
      ((id, endpoint c) == ·) ∘ fun d : Nat × Subscription => key d.2 := by
    funext d
    rw [Bool.eq_iff_iff, isFor_iff_key, Function.comp_apply, beq_iff_eq, eq_comm]
  rw [List.erase_eq_eraseP, List.eraseP_map, same]

theorem Agrees.start : Agrees .start [] [] where
  holds := Heap.holds_nil.mpr rfl
  distinct := List.nodup_nil
  noted id k := by simp [SubscriptionManager.noted]
  bound := le_rfl

/-- Asking for a message in either way. -/
theorem Agrees.add {s : Session} (agrees : Agrees s h l) (new : Subscription)
    (source : SDMComponentID) (fresh : s.manager.heap a = none)
    (notes : ∀ id k, SubscriptionManager.noted id k ((call, sent) :: h) =
      (decide (new.msg_id = id ∧ endpoint new.component_id = k) ||
        SubscriptionManager.noted id k h)) :
    ∃ m' added l', s.manager.add (s.calls + 1) a new source = .ok (m', added) ∧
      Agrees ⟨m', s.calls + 1⟩ ((call, sent) :: h) l' := by
  obtain ⟨m', added, holds⟩ := add_holds new source agrees.holds fresh
    (Nat.lt_succ_of_le agrees.bound)
  refine ⟨m', _, _, added, holds, ?_, ?_, ?_⟩
  · split_ifs with there
    · exact agrees.distinct
    · exact List.nodup_cons.mpr ⟨fun mem => there (any_isFor.mpr mem), agrees.distinct⟩
  · intro id k
    rw [notes, Bool.or_eq_true, decide_eq_true_eq, ← agrees.noted]
    split_ifs with there
    · refine ⟨Or.inr, ?_⟩
      rintro (⟨rfl, rfl⟩ | mem)
      · exact any_isFor.mp there
      · exact mem
    · rw [List.map_cons, List.mem_cons]
      exact or_congr_left (eq_comm.trans key_eq_iff)
  · show _ ≤ s.calls + 1
    split_ifs
    · exact Nat.le_succ_of_le agrees.bound
    · exact Nat.succ_le_succ agrees.bound

/-- Withdrawing a subscription. -/
theorem Agrees.remove {s : Session} (agrees : Agrees s h l) (d : SDMDeletesub) (sent : Sent) :
    ∃ m' removed l', s.manager.RemoveSubscription (s.calls + 1) d = .ok (m', removed) ∧
      Agrees ⟨m', s.calls + 1⟩ ((.deletesub d, sent) :: h) l' := by
  obtain ⟨m', removed, holds⟩ := remove_holds d agrees.holds
    (Nat.lt_succ_of_le agrees.bound)
  refine ⟨m', _, _, removed, holds, ?_, ?_, ?_⟩
  · rw [keys_eraseP]
    exact agrees.distinct.erase _
  · intro id k
    rw [keys_eraseP, agrees.distinct.mem_erase_iff, agrees.noted]
    simp only [SubscriptionManager.noted, Bool.and_eq_true, Bool.not_eq_true',
      decide_eq_false_iff_not]
    refine and_congr_left fun _ => not_congr ?_
    exact Prod.ext_iff.trans (and_congr eq_comm eq_comm)
  · exact (List.eraseP_sublist.length_le.trans agrees.bound).trans (Nat.le_succ _)

/-- Clearing. -/
theorem Agrees.clear {s : Session} (agrees : Agrees s h l) (sent : Sent) :
    ∃ m' cleared, s.manager.ClearAllSubscriptions (s.calls + 1) = .ok (m', cleared) ∧
      Agrees ⟨m', s.calls + 1⟩ ((.clear, sent) :: h) [] := by
  obtain ⟨m', cleared, done, holds⟩ := clear_holds agrees.holds (Nat.le_succ_of_le agrees.bound)
  refine ⟨m', cleared, done, holds, List.nodup_nil, fun id k => ?_, Nat.zero_le _⟩
  simp [SubscriptionManager.noted]

/-! ### What is sent -/

/-- Publishing. -/
theorem Agrees.publish {s : Session} (agrees : Agrees s h l) (succeeds : ∀ k, result k ≠ -1)
    {published : Bool}
    (done : s.manager.Publish (s.calls + 1) id data result = .ok (m', published)) :
    Agrees ⟨m', s.calls + 1⟩ ((.publish id data, sent) :: h) l := by
  have enough : l.length ≤ s.calls + 1 := Nat.le_succ_of_le agrees.bound
  have lasting := lasting_of_publish agrees.holds succeeds done
  cases (publish_eq (fits_of_publish done) agrees.holds succeeds enough lasting).symm.trans done
  exact ⟨agrees.holds, agrees.distinct, agrees.noted, enough⟩

/-! ### All calls -/

theorem session_step_eq_some {s after : Session} :
    (session result).step s call = some (after, sent) ↔
      ∃ m' answer, s.manager.perform (s.calls + 1) result call = .ok (m', answer) ∧
        after = ⟨m', s.calls + 1⟩ ∧ sent = m'.sent.drop s.manager.sent.length := by
  constructor
  · intro taken
    simp only [session] at taken
    split at taken
    · next m' answer performed =>
        cases taken
        exact ⟨m', answer, performed, rfl, rfl⟩
    · cases taken
  · rintro ⟨m', answer, performed, rfl, rfl⟩
    simp only [session, performed]

/-- One call keeps the list and the history in agreement. -/
theorem Agrees.step {s after : Session} (agrees : Agrees s h l) (succeeds : ∀ k, result k ≠ -1)
    (fresh : call.Fresh s.manager) (taken : (session result).step s call = some (after, sent)) :
    ∃ l', Agrees after ((call, sent) :: h) l' := by
  obtain ⟨m', answer, performed, rfl, -⟩ := session_step_eq_some.mp taken
  cases call with
  | subreqst a r =>
      have notes : ∀ id k, SubscriptionManager.noted id k ((.subreqst a r, sent) :: h) =
          (decide (r.msg_id = id ∧ endpoint r.destination = k) ||
            SubscriptionManager.noted id k h) := fun _ _ => rfl
      obtain ⟨m₁, added, l', done, agrees'⟩ := agrees.add
        ⟨r.destination, r.msg_id, r.fault_id, false⟩ r.source fresh notes
      cases performed.symm.trans done
      exact ⟨l', agrees'⟩
  | serreqst a r =>
      have notes : ∀ id k, SubscriptionManager.noted id k ((.serreqst a r, sent) :: h) =
          (decide (r.reply_id = id ∧ endpoint r.destination = k) ||
            SubscriptionManager.noted id k h) := fun _ _ => rfl
      obtain ⟨m₁, added, l', done, agrees'⟩ := agrees.add
        ⟨r.destination, r.reply_id, r.fault_id, true⟩ r.source fresh notes
      cases performed.symm.trans done
      exact ⟨l', agrees'⟩
  | deletesub d =>
      obtain ⟨m₁, removed, l', done, agrees'⟩ := agrees.remove d sent
      cases performed.symm.trans done
      exact ⟨l', agrees'⟩
  | clear =>
      obtain ⟨m₁, cleared, done, agrees'⟩ := agrees.clear sent
      cases performed.symm.trans done
      exact ⟨[], agrees'⟩
  | publish id data => exact ⟨l, agrees.publish succeeds performed⟩

/-- After any calls the list and the history agree. -/
theorem agrees_of_run (succeeds : ∀ k, result k ≠ -1) {s : Session} (run : Run result s h) :
    ∃ l, Agrees s h l := by
  refine run.invariant (I := fun q => ∃ l, Agrees q.1 q.2 l) ⟨[], .start⟩ ?_
  rintro ⟨s, h⟩ call ⟨after, h'⟩ sent ⟨l, agrees⟩ fresh taken
  obtain ⟨stepped, rfl⟩ := Machine.withGhost_step_eq_some.mp taken
  exact agrees.step succeeds fresh stepped

/-! ### Who is served -/

theorem listed_iff (holds : m.heap.Holds m.sub_list l) {s : Subscription} :
    m.Listed s ↔ s ∈ l.map Prod.snd := by
  constructor
  · rintro ⟨l', holds', mem⟩
    rwa [holds.unique holds']
  · intro mem
    exact ⟨l, holds, mem⟩

theorem forall_listed (holds : m.heap.Holds m.sub_list l) {p : Subscription → Prop} :
    (∀ s, m.Listed s → p s) ↔ ∀ c ∈ l, p c.2 := by
  simp only [listed_iff holds, List.forall_mem_map]

/-- What was sent to a component, counted in the list. -/
theorem delivered_eq : delivered k id data
      ((l.filter fun c => isDue id c.2).map fun c => (c.2.component_id, m.message id data)) =
    l.countP fun c => endpoint c.2.component_id = k ∧ isDue id c.2 = true := by
  simp [delivered, message, List.countP_map, List.countP_filter, Function.comp_def]

/-- A component that has a subscription for the message gets the data once, unless the
message is the fault of another one of its subscriptions. -/
theorem count_eq_one_iff (distinct : (l.map fun c => key c.2).Nodup)
    (there : (id, k) ∈ l.map fun c => key c.2) :
    (l.countP fun c => endpoint c.2.component_id = k ∧ isDue id c.2 = true) = 1 ↔
      ∀ c ∈ l, endpoint c.2.component_id = k → c.2.fault_id = id → c.2.msg_id = id := by
  constructor
  · intro one c mem here fault
    obtain ⟨d, memD, keyD⟩ := List.mem_map.mp there
    obtain ⟨msgD, hereD⟩ := key_eq_iff.mp keyD
    rw [List.countP_eq_length_filter, List.length_eq_one_iff] at one
    obtain ⟨e, only⟩ := one
    have first : d ∈ [e] := only ▸ List.mem_filter.mpr ⟨memD, by simp [hereD, isDue, msgD]⟩
    have second : c ∈ [e] := only ▸ List.mem_filter.mpr ⟨mem, by simp [here, isDue, fault]⟩
    rw [List.mem_singleton.mp second, ← List.mem_singleton.mp first]
    exact msgD
  · intro others
    have same : (l.countP fun c => endpoint c.2.component_id = k ∧ isDue id c.2 = true) =
        l.countP ((· == (id, k)) ∘ fun c => key c.2) := by
      refine List.countP_congr fun c mem => ?_
      rw [Function.comp_apply, beq_iff_eq, key_eq_iff, decide_eq_true_eq, isDue, decide_eq_true_eq]
      constructor
      · rintro ⟨here, msg | fault⟩
        · exact ⟨msg, here⟩
        · exact ⟨others c mem here fault, here⟩
      · rintro ⟨msg, here⟩
        exact ⟨here, Or.inl msg⟩
    rw [same, ← List.countP_map]
    exact List.count_eq_one_of_mem distinct there

/-- A component gets the data when it has a subscription for the message, or one whose
fault it is. -/
theorem one_le_count_iff :
    1 ≤ (l.countP fun c => endpoint c.2.component_id = k ∧ isDue id c.2 = true) ↔
      (id, k) ∈ (l.map fun c => key c.2) ∨
        ∃ c ∈ l, endpoint c.2.component_id = k ∧ c.2.fault_id = id := by
  rw [Nat.one_le_iff_ne_zero, Nat.ne_zero_iff_zero_lt, List.countP_pos_iff, List.mem_map]
  simp only [decide_eq_true_eq, isDue, key_eq_iff]
  constructor
  · rintro ⟨c, mem, here, msg | fault⟩
    · exact Or.inl ⟨c, mem, msg, here⟩
    · exact Or.inr ⟨c, mem, here, fault⟩
  · rintro (⟨c, mem, msg, here⟩ | ⟨c, mem, here, fault⟩)
    · exact ⟨c, mem, here, Or.inl msg⟩
    · exact ⟨c, mem, here, Or.inr fault⟩

/-- What a `Publish` that returns has sent. -/
theorem publish_delivers {s : Session} (agrees : Agrees s h l) (succeeds : ∀ k, result k ≠ -1)
    {after : Session} (taken : (session result).step s (.publish id data) = some (after, sent)) :
    data.length ≤ DATA_SIZE ∧ (∀ c ∈ l, ¬ Expires id c.2) ∧ ∀ k, delivered k id data sent =
      l.countP fun c => endpoint c.2.component_id = k ∧ isDue id c.2 = true := by
  obtain ⟨m', published, done, -, rfl⟩ := session_step_eq_some.mp taken
  have fits := fits_of_publish done
  have lasting := lasting_of_publish agrees.holds succeeds done
  have enough := Nat.le_succ_of_le agrees.bound
  refine ⟨fits, lasting, fun k => ?_⟩
  cases (publish_eq fits agrees.holds succeeds enough lasting).symm.trans done
  rw [List.drop_left, delivered_eq]

/-- Those who asked for the message get it once, and those who wait for it get it, exactly
when nothing about the message has disturbed their subscriptions. -/
theorem Agrees.delivers_iff {s : Session} (agrees : Agrees s h l)
    (lasting : ∀ c ∈ l, ¬ Expires id c.2)
    (counts : ∀ k, delivered k id data sent =
      l.countP fun c => endpoint c.2.component_id = k ∧ isDue id c.2 = true) :
    ((∀ k, asked id k h = true → delivered k id data sent = 1) ∧
        ∀ k, owed id k h = true → 1 ≤ delivered k id data sent) ↔
      Undisturbed s.manager h id := by
  have once : (∀ k, asked id k h = true → delivered k id data sent = 1) ↔
      ∀ c ∈ l, asked id (endpoint c.2.component_id) h = true → c.2.fault_id = id →
        c.2.msg_id = id := by
    constructor
    · intro all c mem asks fault
      have there := (agrees.noted id _).mpr (asked_le_noted asks)
      exact (count_eq_one_iff agrees.distinct there).mp ((counts _).symm.trans (all _ asks))
        c mem rfl fault
    · intro all k asks
      rw [counts]
      refine (count_eq_one_iff agrees.distinct
        ((agrees.noted id k).mpr (asked_le_noted asks))).mpr fun c mem here fault => ?_
      exact all c mem (here ▸ asks) fault
  have replied : (∀ k, owed id k h = true → 1 ≤ delivered k id data sent) ↔
      ∀ k, owed id k h = true → SubscriptionManager.noted id k h = true ∨
        ∃ s', s.manager.Listed s' ∧ endpoint s'.component_id = k ∧ s'.fault_id = id := by
    refine forall_congr' fun k => imp_congr_right fun _ => ?_
    rw [counts, one_le_count_iff, agrees.noted]
    refine or_congr_right ?_
    simp only [listed_iff agrees.holds, List.mem_map]
    constructor
    · rintro ⟨c, mem, here, fault⟩
      exact ⟨c.2, ⟨c, mem, rfl⟩, here, fault⟩
    · rintro ⟨_, ⟨c, mem, rfl⟩, here, fault⟩
      exact ⟨c, mem, here, fault⟩
  rw [once, replied]
  constructor
  · rintro ⟨single, kept⟩
    exact ⟨(forall_listed agrees.holds).mpr lasting, (forall_listed agrees.holds).mpr single, kept⟩
  · intro undisturbed
    exact ⟨(forall_listed agrees.holds).mp undisturbed.single, undisturbed.kept⟩

/-- **A `Publish` serves everybody exactly when its data fits and it is undisturbed**, after any
calls: when no subscription for one message is due, no component that has asked for the message
has it as the fault of another one as well, and no request that waits for it was withdrawn. -/
theorem publish_servesAll_iff (succeeds : ∀ k, result k ≠ -1) {s : Session}
    (run : Run result s h) (id : SDMMessageID) (data : List UInt8) :
    ServesAll result s h id data ↔ data.length ≤ DATA_SIZE ∧ Undisturbed s.manager h id := by
  obtain ⟨l, agrees⟩ := agrees_of_run succeeds run
  constructor
  · rintro ⟨after, sent, taken, served⟩
    obtain ⟨fits, lasting, counts⟩ := publish_delivers agrees succeeds taken
    exact ⟨fits, (agrees.delivers_iff lasting counts).mp served⟩
  · rintro ⟨fits, undisturbed⟩
    have lasting := (forall_listed agrees.holds).mp undisturbed.lasting
    have done : s.manager.perform (s.calls + 1) result (.publish id data) = .ok _ :=
      publish_eq fits agrees.holds succeeds (Nat.le_succ_of_le agrees.bound) lasting
    have taken := session_step_eq_some.mpr ⟨_, _, done, rfl, rfl⟩
    obtain ⟨-, -, counts⟩ := publish_delivers agrees succeeds taken
    exact ⟨_, _, taken, (agrees.delivers_iff lasting counts).mpr undisturbed⟩

/-! ### Three histories -/

/-- A subscription of the component at (1, 6000) for a message, and for a fault. -/
def subreqst (msg_id fault_id : SDMMessageID) : SDMSubreqst :=
  ⟨⟨1, 1, 5000⟩, ⟨2, 1, 6000⟩, msg_id, fault_id⟩

/-- A request of that component whose reply is the message (1, 7). -/
def serreqst : SDMSerreqst := ⟨⟨1, 1, 5000⟩, ⟨2, 1, 6000⟩, ⟨1, 6⟩, ⟨1, 7⟩, ⟨0, 0⟩, 0, []⟩

/-- The subscription that either makes for a message. -/
def entry (msg_id fault_id : SDMMessageID) (isSerreqst : Bool) : Subscription :=
  ⟨⟨2, 1, 6000⟩, msg_id, fault_id, isSerreqst⟩

/-- The manager with these subscriptions, the last one first. -/
def listing (subscriptions : List Subscription) : SubscriptionManager :=
  subscriptions.foldl (fun m s => { m with
    my_component_id := ⟨1, 1, 5000⟩
    heap := m.heap.alloc (m.sub_list.elim 0 (· + 1)) ⟨s, m.sub_list⟩
    sub_list := some (m.sub_list.elim 0 (· + 1)) }) Session.start.manager

theorem Run.next {s after : Session} (run : Run result s h) (fresh : call.Fresh s.manager)
    (taken : (session result).step s call = some (after, sent)) :
    Run result after ((call, sent) :: h) :=
  run.withGhost_step fresh taken

theorem run_start : Run result .start [] := .start

/-- A component that has subscribed is served. -/
theorem publish_servesAll_subscribed : ∃ s h, Run (fun _ => 0) s h ∧
    asked ⟨1, 7⟩ (1, 6000) h = true ∧ ServesAll (fun _ => 0) s h ⟨1, 7⟩ [1, 2] := by
  have run : Run (fun _ => 0) ⟨listing [entry ⟨1, 7⟩ ⟨0, 0⟩ false], 1⟩
      [(.subreqst 0 (subreqst ⟨1, 7⟩ ⟨0, 0⟩), [])] :=
    run_start.next rfl rfl
  have holds := (Heap.holds_nil (h := fun _ => none)).mpr rfl |>.push (a := 0) rfl
    (entry ⟨1, 7⟩ ⟨0, 0⟩ false)
  refine ⟨_, _, run, by decide, (publish_servesAll_iff (fun _ => by decide) run _ _).mpr ?_⟩
  refine ⟨by decide, (forall_listed holds).mpr (by decide), (forall_listed holds).mpr (by decide), ?_⟩
  intro k owes
  cases owes

/-- A component that has made a request and then subscribed to the same message is not
served: the subscription is taken for a duplicate, and `Publish` reads the node of the
request after it has deleted it. A component that has the message as the fault of another
subscription gets the data twice. -/
theorem not_publish_servesAll :
    (∃ s h, Run (fun _ => 0) s h ∧ asked ⟨1, 7⟩ (1, 6000) h = true ∧
      (session fun _ => 0).step s (.publish ⟨1, 7⟩ [1, 2]) = none) ∧
    ∃ s h, Run (fun _ => 0) s h ∧ asked ⟨1, 7⟩ (1, 6000) h = true ∧
      ∃ after sent, (session fun _ => 0).step s (.publish ⟨1, 7⟩ [1, 2]) = some (after, sent) ∧
        delivered (1, 6000) ⟨1, 7⟩ [1, 2] sent = 2 := by
  constructor
  · refine ⟨⟨listing [entry ⟨1, 7⟩ ⟨0, 0⟩ true], 2⟩,
      [(.subreqst 1 (subreqst ⟨1, 7⟩ ⟨0, 0⟩), []), (.serreqst 0 serreqst, [])], ?_, by decide, rfl⟩
    have first : Run (fun _ => 0) ⟨listing [entry ⟨1, 7⟩ ⟨0, 0⟩ true], 1⟩
        [(.serreqst 0 serreqst, [])] := run_start.next rfl rfl
    exact first.next rfl rfl
  · refine ⟨⟨listing [entry ⟨1, 8⟩ ⟨1, 7⟩ false, entry ⟨1, 7⟩ ⟨0, 0⟩ false], 2⟩,
      [(.subreqst 1 (subreqst ⟨1, 7⟩ ⟨0, 0⟩), []), (.subreqst 0 (subreqst ⟨1, 8⟩ ⟨1, 7⟩), [])],
      ?_, by decide, _, _, rfl, by decide⟩
    have first : Run (fun _ => 0) ⟨listing [entry ⟨1, 8⟩ ⟨1, 7⟩ false], 1⟩
        [(.subreqst 0 (subreqst ⟨1, 8⟩ ⟨1, 7⟩), [])] := run_start.next rfl rfl
    exact first.next rfl rfl

end Sdm.SubscriptionManager
