import Sdm.Common.LiveSubscriptions
import Sdm.DM.Handlers

/-!
The Data Manager and one provider: what the provider serves, and what the Data Manager remembers.

`Consume` and `Cancel` send the provider an `SDMSubreqst` and an `SDMDeletesub`. When a component is
gone, `CancelxTEDS` and `TaskError` send an `SDMDeletesub` for each of its subscriptions that the
Data Manager remembers. The provider has a `SubscriptionManager` for them. The messages to it come
in the order in which they were sent, each once, and any number of them can be on their way.

The list of the Data Manager goes by component, that of the provider by address and port, and
`Cancel` takes a message off the list whatever provider it is from. `Orderly` keeps these apart.

* `aside_dataManager`: the other handlers send the provider nothing about subscriptions.
* `Follows.step`: every orderly step keeps what the provider will serve and what is remembered equal.
* `provider_follows`: when nothing is on its way, the provider serves exactly what is remembered.
-/

namespace Sdm

open Lib SubscriptionManager ProviderSubscriptionList

/-- A message to a provider about a subscription. -/
inductive ProviderMessage where
  | subreqst (msg : SDMSubreqst)
  | deletesub (msg : SDMDeletesub)

/-- What goes to the provider at `P`. -/
def Effect.toProvider (P : Endpoint) : Effect → Option ProviderMessage
  | .subreqst msg => if endpoint msg.source = P then some (.subreqst msg) else none
  | .deletesub msg => if endpoint msg.source = P then some (.deletesub msg) else none
  | _ => none

/-- What the provider does with it; `a` is the address that a `new` returns. -/
def ProviderMessage.call (a : Nat) : ProviderMessage → Call
  | subreqst msg => .subreqst a msg
  | deletesub msg => .deletesub msg

/-- The Data Manager and a provider. The history of the provider's calls is read by nothing. -/
structure ProviderLink (τ : Type) where
  dm : DMState τ
  queue : List ProviderMessage
  provider : Session × History

namespace ProviderLink

variable {τ : Type}

/-- What happens at the Data Manager, on the way and at the provider. -/
inductive Action where
  | handle (msg : DMState.DMMessage)
  | deliver (a : Nat)
  | Publish (id : SDMMessageID) (data : List UInt8)

/-- The Data Manager goes on, and its messages to the provider are on their way. -/
def sending (s : ProviderLink τ) (P : Endpoint) (next : DMState τ × List Effect) : ProviderLink τ :=
  { s with dm := next.1, queue := s.queue ++ next.2.filterMap (Effect.toProvider P) }

def step [XTEDS τ] (P : Endpoint) (result : Nat → Int) (s : ProviderLink τ) :
    Action → Option (ProviderLink τ × SubscriptionManager.Sent)
  | .handle msg => (DMState.dataManager.step s.dm msg).map fun next => (s.sending P next, [])
  | .deliver a =>
      match s.queue with
      | [] => none
      | msg :: queue => ((recorded result).step s.provider (msg.call a)).map fun next =>
          ({ s with queue := queue, provider := next.1 }, next.2)
  | .Publish id data => ((recorded result).step s.provider (.publish id data)).map fun next =>
      ({ s with provider := next.1 }, next.2)

/-- The machine of the two. It outputs what the provider sends. -/
def machine [XTEDS τ] (P : Endpoint) (result : Nat → Int) :
    Machine (ProviderLink τ) Action SubscriptionManager.Sent :=
  ⟨step P result⟩

/-- Nothing is remembered, nothing is on its way, and the provider has no subscription. -/
def start (dm : DMState τ) : ProviderLink τ where
  dm := { dm with sensorSubscriptions := [] }
  queue := []
  provider := (.start, [])

/-- The subscriber has an xTEDS. A `Cancel` finds the message remembered only for the component that
cancels, of those at its address and port, and only from the provider that it names. The provider
itself is not gone. -/
def Orderly (P : Endpoint) (s : ProviderLink τ) : Action → Prop
  | .handle (.consume msg sender) => DMState.Provides msg.source s.dm →
      DMState.IsRegistered (DMState.subscriberOf msg.destination sender)
  | .handle (.cancel msg sender) => DMState.Provides msg.source s.dm →
      DMState.IsRegistered (DMState.subscriberOf msg.destination sender) ∧
        ∀ e ∈ s.dm.sensorSubscriptions, e.message = msg.msg_id →
          SameEndpoint e.subscriber (DMState.subscriberOf msg.destination sender) →
            e.subscriber = DMState.subscriberOf msg.destination sender ∧
              SameEndpoint e.provider msg.source
  | .handle (.cancelxTEDS msg sender) => ∀ m k c, msg = some m →
      DMState.cancelTarget m sender s.dm = some k → s.dm.xTEDSList[k]? = some c →
        endpoint c.id ≠ P
  | .handle (.taskError msgError sender) => ∀ e k c, msgError = some e →
      DMState.errorTarget e sender s.dm = some k → s.dm.xTEDSList[k]? = some c →
        endpoint c.id ≠ P
  | .handle _ => True
  | .deliver a => s.provider.1.manager.heap a = none
  | .Publish _ _ => True

/-- The Data Manager remembers that a component at `k` consumes the message from the provider. -/
def Remembered (P : Endpoint) (l : ProviderSubscriptionList) (id : SDMMessageID) (k : Endpoint) :
    Prop :=
  ∃ e ∈ l, endpoint e.provider = P ∧ e.message = id ∧ endpoint e.subscriber = k

/-- The provider has a subscription of a component at `k` for the message. -/
def Subscribed (s : ProviderLink τ) (id : SDMMessageID) (k : Endpoint) : Prop :=
  ∃ sub, s.provider.1.manager.Listed sub ∧ sub.msg_id = id ∧ endpoint sub.component_id = k

/-! ### Handlers that send the provider nothing -/

/-- The effects are not about subscriptions of providers. -/
def Aside (out : List Effect) : Prop := ∀ P, out.filterMap (Effect.toProvider P) = []

section Aside

variable {out out' : List Effect} {st st' : DMState τ}

theorem aside_nil : Aside [] := fun _ => rfl

theorem Aside.append (first : Aside out) (second : Aside out') : Aside (out ++ out') := by
  intro P
  rw [List.filterMap_append, first P, second P]
  rfl

theorem Aside.cons {e : Effect} (head : ∀ P, e.toProvider P = none) (rest : Aside out) :
    Aside (e :: out) := by
  intro P
  rw [List.filterMap_cons_none (head P)]
  exact rest P

theorem aside_map {α : Type} {f : α → Effect} (l : List α) (head : ∀ a P, (f a).toProvider P = none) :
    Aside (l.map f) := by
  intro P
  rw [List.filterMap_map]
  exact List.filterMap_eq_nil_iff.mpr fun a _ => head a P

theorem aside_ack (status : AckStatus) : Aside [.ack status] := fun _ => rfl

theorem aside_notify {sensorID : UInt32} {messageID : SDMMessageID} {action : Modification} :
    Aside (DMState.notify sensorID messageID action st) :=
  aside_map _ fun _ _ => rfl

theorem aside_reports {q : ReqRegCall} {pos : Nat} {s : XTEDSLibrary τ} {defs : List MessageDef} :
    Aside (q.reports pos s defs) := by
  unfold ReqRegCall.reports
  split
  · exact aside_map _ fun _ _ => rfl
  · exact aside_nil

variable [XTEDS τ]

theorem aside_walk {q : ReqRegCall} {l : XTEDSLibraryList τ} {pos numxTEDS : Nat}
    {sensorMatches : List Nat} {sent : List Effect} {ended : ReqRegCall.WalkEnd}
    (before : Aside sent) (done : q.walk l pos numxTEDS sensorMatches sent = some ended) :
    Aside ended.sent := by
  induction l generalizing pos numxTEDS sensorMatches sent with
  | nil =>
      cases done
      exact before
  | cons s rest ih =>
      rw [ReqRegCall.walk] at done
      dsimp only at done
      split at done
      · split at done
        · exact ih before done
        · split at done
          · cases done
          · split at done
            · cases done
              exact before
            · split at done
              · cases done
                split
                · exact before.append aside_reports
                · exact before
              · refine ih ?_ done
                split
                · exact before.append aside_reports
                · exact before
      · split at done
        · cases done
          exact before
        · exact ih before done

theorem aside_postInactive {taskManager : SDMComponentID} {l l' : XTEDSLibraryList τ}
    {m : List Nat} (posted : ReqRegCall.postInactive taskManager l m = some (l', out)) :
    Aside out := by
  induction l generalizing m l' out with
  | nil =>
      cases posted
      exact aside_nil
  | cons s rest ih =>
      cases m with
      | nil =>
          cases posted
          exact aside_nil
      | cons n m =>
          obtain ⟨head, first, posted⟩ := Option.bind_eq_some_iff.mp posted
          obtain ⟨tail, others, same⟩ := Option.map_eq_some_iff.mp posted
          cases same
          refine Aside.append ?_ (ih others)
          split at first
          · obtain ⟨out, named, rfl⟩ := Option.map_eq_some_iff.mp first
            unfold ReqRegCall.postTask at named
            split at named
            · cases named
              exact aside_nil
            · obtain ⟨name, _, rfl⟩ := Option.map_eq_some_iff.mp named
              exact fun _ => rfl
          · cases first
            exact aside_nil

theorem aside_reqRegSearch {q : ReqRegCall}
    (done : DMState.reqRegSearch q st = some (st', out)) : Aside out := by
  obtain ⟨ended, walked, result⟩ := Option.bind_eq_some_iff.mp done
  have sent := aside_walk aside_nil walked
  have last : Aside [.regInfoEmpty q.replyTo] := fun _ => rfl
  cases ended with
  | returned sent =>
      cases result
      exact sent
  | finished m sent =>
      dsimp only at result
      split at result
      · obtain ⟨posted, posting, same⟩ := Option.map_eq_some_iff.mp result
        cases same
        exact (aside_postInactive posting).append last
      · cases result
        exact Aside.append sent last

theorem aside_reqReg {q : ReqRegCall} (done : DMState.reqReg q st = some (st', out)) :
    Aside out := by
  unfold DMState.reqReg at done
  split at done
  · obtain ⟨⟨subscribers, added⟩, _, done⟩ := Option.bind_eq_some_iff.mp done
    dsimp only at done
    split at done
    · exact aside_reqRegSearch done
    · cases done
      exact aside_nil
  · exact aside_reqRegSearch done

theorem aside_rerun {query : Option Republish} {action : Modification} {ref : Nat}
    (done : DMState.rerun query action ref st = some (st', out)) : Aside out := by
  cases query with
  | none =>
      cases done
      exact aside_nil
  | some query =>
      cases query with
      | reqReg msg sender => exact aside_reqReg done
      | search msg sender =>
          cases done
          exact fun _ => rfl
      | varReq msg sender =>
          cases done
          exact fun _ => rfl

theorem aside_publishModification {messageID : SDMMessageID} {action : Modification} {ref : Nat}
    {nodes : SubscriptionList}
    (done : DMState.publishModification messageID action ref nodes st = some (st', out)) :
    Aside out := by
  induction nodes generalizing st out with
  | nil =>
      cases done
      exact aside_nil
  | cons n nodes ih =>
      obtain ⟨query, _, done⟩ := Option.bind_eq_some_iff.mp done
      obtain ⟨first, ran, done⟩ := Option.bind_eq_some_iff.mp done
      obtain ⟨rest, others, same⟩ := Option.map_eq_some_iff.mp done
      cases same
      exact (aside_rerun ran).append (ih others)

theorem aside_acknowledge {r : Registration} {k : Nat}
    (done : DMState.acknowledge r k st = some (st', out)) : Aside out := by
  obtain ⟨s, _, done⟩ := Option.bind_eq_some_iff.mp done
  dsimp only at done
  have confirmed : Aside ((if r.source.port ≠ PORT_DM then [DMState.confirm r s.id.sensorID]
      else []) ++ [.ack .SDM_OK]) := by
    refine Aside.append ?_ (aside_ack _)
    split
    · exact fun _ => rfl
    · exact aside_nil
  split at done
  · obtain ⟨published, publishing, same⟩ := Option.map_eq_some_iff.mp done
    cases same
    obtain ⟨first, search, publishing⟩ := Option.bind_eq_some_iff.mp publishing
    obtain ⟨second, reqReg, publishing⟩ := Option.bind_eq_some_iff.mp publishing
    obtain ⟨third, varReq, same⟩ := Option.map_eq_some_iff.mp publishing
    cases same
    have notices := Aside.append
      (@aside_notify τ st s.id.sensorID NOTI_REGISTRATION .MOD_NOT_APPLICABLE)
      (@aside_notify τ st s.id.sensorID NOTI_REGISTRATION_CHANGE .REGISTRATION_MODIFICATION)
    exact confirmed.append (((notices.append (aside_publishModification search)).append
      (aside_publishModification reqReg)).append (aside_publishModification varReq))
  · cases done
    exact confirmed

theorem aside_registerDocument {r : Registration}
    (done : DMState.registerDocument r st = some (st', out)) : Aside out := by
  unfold DMState.registerDocument at done
  split at done
  · cases done
    exact aside_ack _
  · split at done
    · obtain ⟨result, _, done⟩ := Option.bind_eq_some_iff.mp done
      dsimp only at done
      split at done
      · cases done
        exact aside_ack _
      · obtain ⟨s, _, same⟩ := Option.map_eq_some_iff.mp done
        cases same
        exact fun _ => rfl
      · exact aside_acknowledge done
      · exact aside_acknowledge done
    · cases done
      exact aside_ack _

end Aside

/-! ### What the messages do to the provider's list -/

/-- The history when these messages have arrived. -/
def arrived (h : History) (msgs : List ProviderMessage) : History :=
  msgs.foldl (fun h msg => (msg.call 0, []) :: h) h

/-- The history when all that is on its way has arrived. -/
def awaited (s : ProviderLink τ) : History := arrived s.provider.2 s.queue

/-- When the first list was remembered and served, so is the second after the messages. -/
def Carries (P : Endpoint) (l l' : ProviderSubscriptionList) (msgs : List ProviderMessage) : Prop :=
  ∀ h, (∀ id k, noted id k h = true ↔ Remembered P l id k) →
    ∀ id k, noted id k (arrived h msgs) = true ↔ Remembered P l' id k

section Carries

variable {P : Endpoint} {l l' : ProviderSubscriptionList} {h h' : History} {id : SDMMessageID}
  {k : Endpoint} {msgs : List ProviderMessage} {c : SDMComponentID}

theorem arrived_append (h : History) (msgs msgs' : List ProviderMessage) :
    arrived h (msgs ++ msgs') = arrived (arrived h msgs) msgs' :=
  List.foldl_append

theorem noted_subreqst {a : Nat} {msg : SDMSubreqst} {sent : SubscriptionManager.Sent} :
    noted id k ((.subreqst a msg, sent) :: h) = true ↔
      (msg.msg_id = id ∧ endpoint msg.destination = k) ∨ noted id k h = true := by
  rw [noted, Bool.or_eq_true, decide_eq_true_eq]

theorem noted_deletesub {msg : SDMDeletesub} {sent : SubscriptionManager.Sent} :
    noted id k ((.deletesub msg, sent) :: h) = true ↔
      ¬ (msg.msg_id = id ∧ endpoint msg.destination = k) ∧ noted id k h = true := by
  rw [noted, Bool.and_eq_true, Bool.not_eq_true', decide_eq_false_iff_not]

/-- What messages make of a history depends on who has asked only. -/
theorem noted_arrived_congr (same : noted id k h = noted id k h') (msgs : List ProviderMessage) :
    noted id k (arrived h msgs) = noted id k (arrived h' msgs) := by
  induction msgs generalizing h h' with
  | nil => exact same
  | cons msg msgs ih =>
      apply ih
      cases msg with
      | subreqst msg => exact congrArg (decide _ || ·) same
      | deletesub msg => exact congrArg (!decide _ && ·) same

/-- Deletions leave what they do not name. -/
theorem noted_arrived_deletesubs (ds : List SDMDeletesub) :
    noted id k (arrived h (ds.map .deletesub)) = true ↔
      (∀ d ∈ ds, ¬ (d.msg_id = id ∧ endpoint d.destination = k)) ∧ noted id k h = true := by
  induction ds generalizing h with
  | nil => exact (and_iff_right fun _ mem => absurd mem List.not_mem_nil).symm
  | cons d ds ih =>
      rw [List.map_cons, List.forall_mem_cons]
      have later := ih (h := (.deletesub d, []) :: h)
      rw [noted_deletesub] at later
      exact later.trans (and_left_comm.trans and_assoc.symm)

theorem carries_refl (P : Endpoint) (l : ProviderSubscriptionList) : Carries P l l [] :=
  fun _ holds => holds

theorem remembered_append {e : ProviderSubscription} :
    Remembered P (l ++ [e]) id k ↔
      (endpoint e.provider = P ∧ e.message = id ∧ endpoint e.subscriber = k) ∨
        Remembered P l id k := by
  simp only [Remembered, List.mem_append, List.mem_singleton]
  constructor
  · rintro ⟨e', mem | rfl, here⟩
    · exact .inr ⟨e', mem, here⟩
    · exact .inl here
  · rintro (here | ⟨e', mem, here⟩)
    · exact ⟨e, .inr rfl, here⟩
    · exact ⟨e', .inl mem, here⟩

/-- `Consume` of a subscriber that has an xTEDS. -/
theorem carries_subreqst (msg : SDMSubreqst) :
    Carries P l (l ++ [⟨msg.source, msg.destination, msg.msg_id⟩])
      ([Effect.subreqst msg].filterMap (Effect.toProvider P)) := by
  intro h holds id k
  rw [remembered_append]
  by_cases here : endpoint msg.source = P
  · have sent : [Effect.subreqst msg].filterMap (Effect.toProvider P) = [.subreqst msg] := by
      simp [Effect.toProvider, here]
    rw [sent]
    refine noted_subreqst.trans ?_
    rw [holds, and_iff_right here]
  · have sent : [Effect.subreqst msg].filterMap (Effect.toProvider P) = [] := by
      simp [Effect.toProvider, here]
    rw [sent, or_iff_right fun away => here away.1]
    exact holds id k

/-- `Cancel`, where the message is remembered for nobody else at the address and port of the
subscriber and from no other provider. -/
theorem carries_deletesub (msg : SDMDeletesub)
    (own : ∀ e ∈ l, e.message = msg.msg_id → SameEndpoint e.subscriber msg.destination →
      e.subscriber = msg.destination ∧ SameEndpoint e.provider msg.source) :
    Carries P l (delete msg.destination msg.msg_id l)
      ([Effect.deletesub msg].filterMap (Effect.toProvider P)) := by
  intro h holds id k
  have left : Remembered P (delete msg.destination msg.msg_id l) id k ↔
      ¬ (endpoint msg.source = P ∧ msg.msg_id = id ∧ endpoint msg.destination = k) ∧
        Remembered P l id k := by
    rw [delete_eq_filter]
    constructor
    · rintro ⟨e, mem, atP, rfl, rfl⟩
      obtain ⟨mem, kept⟩ := List.mem_filter.mp mem
      refine ⟨?_, e, mem, atP, rfl, rfl⟩
      rintro ⟨_, message, there⟩
      have same : SameEndpoint e.subscriber msg.destination := Prod.ext_iff.mp there.symm
      have is_own := (own e mem message.symm same).1
      simp [is_own, message] at kept
    · rintro ⟨other, e, mem, atP, rfl, rfl⟩
      refine ⟨e, List.mem_filter.mpr ⟨mem, ?_⟩, atP, rfl, rfl⟩
      rw [Bool.not_eq_true', decide_eq_false_iff_not]
      rintro ⟨subscriber, message⟩
      have from_it := (own e mem message (subscriber ▸ ⟨rfl, rfl⟩)).2
      have source : endpoint msg.source = P := (Prod.ext from_it.1 from_it.2).symm.trans atP
      exact other ⟨source, message.symm, by rw [subscriber]⟩
  rw [left]
  by_cases here : endpoint msg.source = P
  · have sent : [Effect.deletesub msg].filterMap (Effect.toProvider P) = [.deletesub msg] := by
      simp [Effect.toProvider, here]
    rw [sent, and_iff_right here]
    exact noted_deletesub.trans (and_congr_right fun _ => holds id k)
  · have sent : [Effect.deletesub msg].filterMap (Effect.toProvider P) = [] := by
      simp [Effect.toProvider, here]
    rw [sent, and_iff_right fun away => here away.1]
    exact holds id k

theorem toProvider_deletesubs (ds : List SDMDeletesub) :
    (ds.map Effect.deletesub).filterMap (Effect.toProvider P) =
      (ds.filter fun d => endpoint d.source = P).map .deletesub := by
  induction ds with
  | nil => rfl
  | cons d ds ih =>
      by_cases here : endpoint d.source = P
      · simp [Effect.toProvider, here, ih]
      · simp [Effect.toProvider, here, ih]

/-- The end of a component: a deletion for each entry of its own. -/
theorem carries_finish (goesOn : endpoint c ≠ P) :
    Carries P l (providerFinish c (subscriberFinish c l).2)
      (((subscriberFinish c l).1.map Effect.deletesub).filterMap (Effect.toProvider P)) := by
  intro h holds id k
  rw [toProvider_deletesubs, noted_arrived_deletesubs, holds, providerFinish_eq_filter,
    subscriberFinish_snd, List.filter_filter]
  constructor
  · rintro ⟨unnamed, e, mem, atP, rfl, rfl⟩
    refine ⟨e, List.mem_filter.mpr ⟨mem, ?_⟩, atP, rfl, rfl⟩
    have other : ¬ SameEndpoint c e.subscriber := by
      intro same
      refine unnamed (deletesub e) ?_ ⟨rfl, rfl⟩
      refine List.mem_filter.mpr ⟨List.mem_map_of_mem (List.mem_filter.mpr ⟨mem, ?_⟩), ?_⟩
      · exact decide_eq_true same
      · exact decide_eq_true atP
    have stays : e.provider ≠ c := by
      rintro rfl
      exact goesOn atP
    simp [other, stays]
  · rintro ⟨e, mem, atP, rfl, rfl⟩
    obtain ⟨mem, kept⟩ := List.mem_filter.mp mem
    refine ⟨fun d named => ?_, e, mem, atP, rfl, rfl⟩
    rintro ⟨_, same⟩
    obtain ⟨of_c, _⟩ := List.mem_filter.mp named
    obtain ⟨e', mem', rfl⟩ := List.mem_map.mp of_c
    have gone : SameEndpoint c e'.subscriber := of_decide_eq_true (List.mem_filter.mp mem').2
    have there : endpoint c = endpoint e.subscriber :=
      (Prod.ext gone.1 gone.2 : endpoint c = endpoint e'.subscriber).trans same
    have other : ¬ SameEndpoint c e.subscriber := by simpa using (Bool.and_eq_true_iff.mp kept).2
    exact other (Prod.ext_iff.mp there)

theorem carries_aside {out : List Effect} (aside : Aside out) (same : l' = l) :
    Carries P l l' (out.filterMap (Effect.toProvider P)) := by
  rw [aside P, same]
  exact carries_refl P l

/-! ### The handlers -/

variable [XTEDS τ] {s : ProviderLink τ} {st st' : DMState τ} {out : List Effect}
  {sender : SDMComponentID}

theorem carries_consume {msg : SDMConsume}
    (registered : DMState.Provides msg.source st →
      DMState.IsRegistered (DMState.subscriberOf msg.destination sender))
    (taken : DMState.consume msg sender st = some (st', out)) :
    Carries P st.sensorSubscriptions st'.sensorSubscriptions
      (out.filterMap (Effect.toProvider P)) := by
  unfold DMState.consume at taken
  split at taken
  · cases taken
    exact carries_refl P _
  · rename_i k found
    split at taken
    · rename_i manager
      obtain ⟨rfl, rfl⟩ := Prod.ext_iff.mp (Option.some.inj taken)
      have told : Aside (DMState.subscribe ⟨0, sender.address,
          (DMState.subscriberOf msg.destination sender).port⟩ msg.msg_id st).2 := by
        unfold DMState.subscribe DMState.currentRegistrations
        split
        · exact aside_nil
        · dsimp only
          split
          · exact aside_map _ fun _ _ => rfl
          · exact aside_nil
      exact carries_aside told DMState.sensorSubscriptions_subscribe
    · rename_i other
      obtain ⟨tree, _, same⟩ := Option.map_eq_some_iff.mp taken
      cases same
      have provides : DMState.Provides msg.source st := ⟨by rw [found]; rfl, other⟩
      dsimp only
      rw [if_pos (registered provides)]
      exact carries_subreqst ⟨msg.source, DMState.subscriberOf msg.destination sender, msg.msg_id, _⟩

omit [XTEDS τ] in
theorem carries_cancel {msg : SDMCancel}
    (own : DMState.Provides msg.source st →
      DMState.IsRegistered (DMState.subscriberOf msg.destination sender) ∧
        ∀ e ∈ st.sensorSubscriptions, e.message = msg.msg_id →
          SameEndpoint e.subscriber (DMState.subscriberOf msg.destination sender) →
            e.subscriber = DMState.subscriberOf msg.destination sender ∧
              SameEndpoint e.provider msg.source) :
    Carries P st.sensorSubscriptions (DMState.cancel msg sender st).1.sensorSubscriptions
      ((DMState.cancel msg sender st).2.filterMap (Effect.toProvider P)) := by
  unfold DMState.cancel
  split
  · exact carries_refl P _
  · rename_i k found
    split
    · exact carries_refl P _
    · rename_i other
      have provides : DMState.Provides msg.source st := ⟨by rw [found]; rfl, other⟩
      obtain ⟨registered, only⟩ := own provides
      dsimp only
      rw [if_pos registered]
      exact carries_deletesub ⟨msg.source, DMState.subscriberOf msg.destination sender, msg.msg_id⟩
        only

theorem carries_cancelxTEDS {msg : Option SDMCancelxTEDS}
    (goesOn : ∀ m k c, msg = some m → DMState.cancelTarget m sender st = some k →
      st.xTEDSList[k]? = some c → endpoint c.id ≠ P)
    (taken : DMState.cancelxTEDS msg sender st = some (st', out)) :
    Carries P st.sensorSubscriptions st'.sensorSubscriptions
      (out.filterMap (Effect.toProvider P)) := by
  unfold DMState.cancelxTEDS at taken
  split at taken
  · cases taken
    exact carries_refl P _
  · rename_i m
    split at taken
    · cases taken
      exact carries_refl P _
    · rename_i k target
      obtain ⟨c, at_k, cancelled⟩ := Option.bind_eq_some_iff.mp taken
      obtain ⟨published, publishing, done⟩ := Option.map_eq_some_iff.mp cancelled
      have same := (DMState.quiet_publishModification publishing).sensorSubscriptions
      have told := (aside_publishModification publishing).append
        ((@aside_notify τ published.1 c.id.sensorID NOTI_DEREGISTRATION .MOD_NOT_APPLICABLE).append
          (@aside_notify τ published.1 c.id.sensorID NOTI_REGISTRATION_CHANGE
            .DEREGISTRATION_MODIFICATION))
      have finish := @carries_finish P st.sensorSubscriptions c.id (goesOn m k c rfl target at_k)
      rw [← show published.1.sensorSubscriptions = st.sensorSubscriptions from same] at finish ⊢
      have sent (status : AckStatus) : ((published.2 ++
          (DMState.notify c.id.sensorID NOTI_DEREGISTRATION .MOD_NOT_APPLICABLE published.1 ++
            DMState.notify c.id.sensorID NOTI_REGISTRATION_CHANGE .DEREGISTRATION_MODIFICATION
              published.1) ++
          (subscriberFinish c.id published.1.sensorSubscriptions).1.map Effect.deletesub) ++
            [Effect.ack status]).filterMap (Effect.toProvider P) =
          ((subscriberFinish c.id published.1.sensorSubscriptions).1.map
            Effect.deletesub).filterMap (Effect.toProvider P) := by
        rw [List.filterMap_append, List.filterMap_append, told P, aside_ack status P,
          List.nil_append, List.append_nil]
      dsimp only at done
      split at done
      · cases done
        rw [sent]
        exact finish
      · cases done
        rw [sent]
        exact finish

/-- A failed task is the end of its component, told before the cancellation is published. -/
theorem carries_taskError {msgError : Option SDMTaskError} {sender : SDMComponentID}
    (orderly : Orderly P s (.handle (.taskError msgError sender)))
    (taken : DMState.taskError msgError sender s.dm = some (st', out)) :
    Carries P s.dm.sensorSubscriptions st'.sensorSubscriptions
      (out.filterMap (Effect.toProvider P)) := by
  rcases DMState.taskError_cases taken with
    ⟨rfl, rfl⟩ | ⟨e, k, c, published, named, target, at_k, publishing, rfl⟩
  · exact carries_refl P _
  · have told := (aside_publishModification publishing).append
      ((@aside_notify τ st' c.id.sensorID NOTI_DEREGISTRATION .MOD_NOT_APPLICABLE).append
        (@aside_notify τ st' c.id.sensorID NOTI_REGISTRATION_CHANGE .DEREGISTRATION_MODIFICATION))
    rw [List.filterMap_append, told P, List.append_nil,
      (DMState.quiet_publishModification publishing).sensorSubscriptions]
    exact carries_finish (orderly e k c named target at_k)

theorem sensorSubscriptions_reqReg {q : ReqRegCall}
    (taken : DMState.reqReg q st = some (st', out)) :
    st'.sensorSubscriptions = st.sensorSubscriptions := by
  unfold DMState.reqReg at taken
  split at taken
  · obtain ⟨⟨subscribers, added⟩, _, done⟩ := Option.bind_eq_some_iff.mp taken
    dsimp only at done
    split at done
    · exact (DMState.quiet_reqRegSearch done).sensorSubscriptions
    · cases done
      rfl
  · exact (DMState.quiet_reqRegSearch taken).sensorSubscriptions

theorem carries_dataManager {msg : DMState.DMMessage} (orderly : Orderly P s (.handle msg))
    (taken : DMState.dataManager.step s.dm msg = some (st', out)) :
    Carries P s.dm.sensorSubscriptions st'.sensorSubscriptions
      (out.filterMap (Effect.toProvider P)) := by
  cases msg with
  | registerDocument r =>
      refine carries_aside (aside_registerDocument taken) ?_
      rcases DMState.registerDocument_cases taken with rfl | ⟨_, _, _, _, _, _, quiet⟩
      · rfl
      · exact quiet.sensorSubscriptions
  | cancelxTEDS msg sender => exact carries_cancelxTEDS orderly taken
  | taskError msgError sender => exact carries_taskError orderly taken
  | reqReg msg sender =>
      exact carries_aside (aside_reqReg taken) (sensorSubscriptions_reqReg taken)
  | consume msg sender => exact carries_consume orderly taken
  | cancel msg sender =>
      obtain ⟨rfl, rfl⟩ := Prod.ext_iff.mp (Option.some.inj taken)
      exact carries_cancel orderly

end Carries

/-! ### Runs -/

/-- The provider's list and its history agree, it has no subscription for one message, and what
will be served is what is remembered. -/
structure Follows (P : Endpoint) (s : ProviderLink τ) : Prop where
  agrees : ∃ l, Agrees s.provider.1 s.provider.2 l ∧ ∀ c ∈ l, c.2.isSerreqst = false
  awaits : ∀ id k, noted id k s.awaited = true ↔ Remembered P s.dm.sensorSubscriptions id k

section Runs

variable {P : Endpoint} {result : Nat → Int} {s : ProviderLink τ}

theorem follows_start (dm : DMState τ) : Follows P (start dm) where
  agrees := ⟨[], .start, fun _ mem => absurd mem List.not_mem_nil⟩
  awaits id k := by
    refine iff_of_false Bool.false_ne_true ?_
    rintro ⟨e, mem, _⟩
    exact absurd mem List.not_mem_nil

/-- What arrives at the provider leaves it without subscriptions for one message. -/
theorem lasting_step {q after : Session} {h : History}
    {l : List (Nat × SubscriptionManager.Subscription)} {call : Call}
    {sent : SubscriptionManager.Sent} (agrees : Agrees q h l)
    (lasting : ∀ c ∈ l, c.2.isSerreqst = false)
    (succeeds : ∀ k, result k ≠ -1) (fresh : call.Fresh q.manager)
    (noRequest : ∀ a serreqst, call ≠ .serreqst a serreqst)
    (taken : (session result).step q call = some (after, sent)) :
    ∃ l', Agrees after ((call, sent) :: h) l' ∧ ∀ c ∈ l', c.2.isSerreqst = false := by
  obtain ⟨l', agrees'⟩ := agrees.step succeeds fresh taken
  refine ⟨l', agrees', ?_⟩
  obtain ⟨m', answer, performed, rfl, -⟩ := session_step_eq_some.mp taken
  have enough := Nat.lt_succ_of_le agrees.bound
  cases call with
  | subreqst a r =>
      obtain ⟨m₁, added, holds⟩ := add_holds ⟨r.destination, r.msg_id, r.fault_id, false⟩ r.source
        agrees.holds fresh enough
      cases performed.symm.trans added
      rw [agrees'.holds.unique holds]
      split
      · exact lasting
      · exact List.forall_mem_cons.mpr ⟨rfl, lasting⟩
  | serreqst a r => exact absurd rfl (noRequest a r)
  | deletesub d =>
      obtain ⟨m₁, removed, holds⟩ := remove_holds d agrees.holds enough
      cases performed.symm.trans removed
      rw [agrees'.holds.unique holds]
      exact fun c mem => lasting c (List.mem_of_mem_eraseP mem)
  | clear =>
      obtain ⟨m₁, cleared, done, holds⟩ := clear_holds agrees.holds (Nat.le_of_lt enough)
      cases performed.symm.trans done
      rw [agrees'.holds.unique holds]
      exact fun c mem => absurd mem List.not_mem_nil
  | publish id data =>
      have stays : Agrees _ ((.publish id data, sent) :: h) l := agrees.publish succeeds performed
      rw [agrees'.holds.unique stays.holds]
      exact lasting

/-- Sending what carries the list. -/
theorem Follows.sending (follows : Follows P s) {next : DMState τ × List Effect}
    (carries : Carries P s.dm.sensorSubscriptions next.1.sensorSubscriptions
      (next.2.filterMap (Effect.toProvider P))) : Follows P (s.sending P next) where
  agrees := follows.agrees
  awaits id k := by
    rw [awaited, ProviderLink.sending, arrived_append]
    exact carries s.awaited follows.awaits id k

variable [XTEDS τ] {s' : ProviderLink τ} {a : Action} {out : SubscriptionManager.Sent}

/-- Every orderly step keeps what will be served and what is remembered equal. -/
theorem Follows.step (follows : Follows P s) (succeeds : ∀ k, result k ≠ -1)
    (orderly : Orderly P s a) (taken : (machine P result).step s a = some (s', out)) :
    Follows P s' := by
  obtain ⟨l, agrees, lasting⟩ := follows.agrees
  have step : s.step P result a = some (s', out) := taken
  cases a with
  | handle msg =>
      obtain ⟨next, handled, same⟩ := Option.map_eq_some_iff.mp step
      cases same
      exact follows.sending (carries_dataManager orderly handled)
  | deliver a =>
      rw [ProviderLink.step] at step
      cases onWay : s.queue with
      | nil =>
          rw [onWay] at step
          cases step
      | cons msg queue =>
          rw [onWay] at step
          obtain ⟨⟨⟨after, h'⟩, sent⟩, delivered, same⟩ := Option.map_eq_some_iff.mp step
          cases same
          obtain ⟨called, rfl⟩ := Machine.withGhost_step_eq_some.mp delivered
          have fresh : (msg.call a).Fresh s.provider.1.manager := by
            cases msg with
            | subreqst msg => exact orderly
            | deletesub msg => trivial
          refine ⟨lasting_step agrees lasting succeeds fresh ?_ called, fun id k => ?_⟩
          · cases msg <;> exact fun _ _ => nofun
          · have same : noted id k ((msg.call a, sent) :: s.provider.2) =
                noted id k ((msg.call 0, []) :: s.provider.2) := by
              cases msg <;> rfl
            have all := follows.awaits id k
            rw [awaited, onWay] at all
            exact (Bool.eq_iff_iff.mp (noted_arrived_congr same queue)).trans all
  | Publish id data =>
      obtain ⟨⟨⟨after, h'⟩, sent⟩, published, same⟩ := Option.map_eq_some_iff.mp step
      cases same
      obtain ⟨called, rfl⟩ := Machine.withGhost_step_eq_some.mp published
      refine ⟨lasting_step agrees lasting succeeds trivial (fun _ _ => nofun) called, ?_⟩
      intro id' k
      have same : noted id' k ((.publish id data, sent) :: s.provider.2) =
          noted id' k s.provider.2 := rfl
      exact (Bool.eq_iff_iff.mp (noted_arrived_congr same s.queue)).trans (follows.awaits id' k)

theorem follows_of_run (succeeds : ∀ k, result k ≠ -1) {dm : DMState τ}
    (run : (machine P result).Reaches (Orderly P) (start dm) s) : Follows P s :=
  run.invariant (follows_start dm) fun _ _ _ _ follows orderly taken =>
    follows.step succeeds orderly taken

/-- **When nothing is on its way**, the provider has a subscription exactly for what the Data Manager
remembers. So what it publishes reaches every component that consumes it, and nobody that the Data
Manager does not remember. -/
theorem provider_follows (succeeds : ∀ k, result k ≠ -1) {dm : DMState τ}
    (run : (machine P result).Reaches (Orderly P) (start dm) s) (settled : s.queue = []) :
    (∀ id k, s.Subscribed id k ↔ Remembered P s.dm.sensorSubscriptions id k) ∧
      ∀ id data, data.length ≤ DATA_SIZE →
        ∃ s' sent, (machine P result).step s (.Publish id data) = some (s', sent) ∧
          ∀ k, (Remembered P s.dm.sensorSubscriptions id k → 1 ≤ delivered k id data sent) ∧
            (1 ≤ delivered k id data sent → ∃ id', Remembered P s.dm.sensorSubscriptions id' k) := by
  obtain ⟨⟨l, agrees, lasting⟩, isNoted⟩ := follows_of_run succeeds run
  rw [awaited, settled] at isNoted
  have listed (id : SDMMessageID) (k : Endpoint) :
      (id, k) ∈ (l.map fun c => key c.2) ↔ Remembered P s.dm.sensorSubscriptions id k :=
    (agrees.noted id k).trans (isNoted id k)
  refine ⟨fun id k => ?_, fun id data fits => ?_⟩
  · rw [← listed, List.mem_map]
    constructor
    · rintro ⟨sub, isListed, same⟩
      obtain ⟨c, mem, rfl⟩ := List.mem_map.mp ((listed_iff agrees.holds).mp isListed)
      exact ⟨c, mem, key_eq_iff.mpr same⟩
    · rintro ⟨c, mem, same⟩
      exact ⟨c.2, (listed_iff agrees.holds).mpr (List.mem_map_of_mem mem), key_eq_iff.mp same⟩
  · have stays : ∀ c ∈ l, ¬ Expires id c.2 := by
      rintro c mem ⟨_, once⟩
      rw [lasting c mem] at once
      cases once
    have done : s.provider.1.manager.perform (s.provider.1.calls + 1) result (.publish id data) =
        .ok _ :=
      publish_eq fits agrees.holds succeeds (Nat.le_succ_of_le agrees.bound) stays
    have called := session_step_eq_some.mpr ⟨_, _, done, rfl, rfl⟩
    obtain ⟨-, -, counts⟩ := publish_delivers agrees succeeds called
    have taken : (recorded result).step s.provider (.publish id data) = some _ :=
      Machine.withGhost_step_eq_some.mpr ⟨called, rfl⟩
    refine ⟨_, _, Option.map_eq_some_iff.mpr ⟨_, taken, rfl⟩, fun k => ?_⟩
    rw [counts, one_le_count_iff]
    refine ⟨fun remembered => .inl ((listed id k).mpr remembered), ?_⟩
    rintro (mem | ⟨c, mem, here, fault⟩)
    · exact ⟨id, (listed id k).mp mem⟩
    · exact ⟨c.2.msg_id, (listed _ k).mp (List.mem_map.mpr ⟨c, mem, key_eq_iff.mpr ⟨rfl, here⟩⟩)⟩

/-- The component at (9, 5000) consumes message (1, 1) of the first provider. -/
def consumeFirst : Action :=
  .handle (.consume ⟨⟨0x10001, 1, 4000⟩, ⟨0x30007, 9, 5000⟩, ⟨1, 1⟩⟩ ⟨0x30007, 9, 5000⟩)

theorem provider_follows_one :
    ∃ s, (machine (1, 4000) fun _ => 0).exec (start DMState.twoProviders)
        [consumeFirst, .deliver 0] = some s ∧
      s.dm.sensorSubscriptions = [⟨⟨0x10001, 1, 4000⟩, ⟨0x30007, 9, 5000⟩, ⟨1, 1⟩⟩] ∧
      (∀ id k, s.Subscribed id k ↔ Remembered (1, 4000) s.dm.sensorSubscriptions id k) ∧
      ∀ id data, data.length ≤ DATA_SIZE →
        ∃ s' sent, (machine (1, 4000) fun _ => 0).step s (.Publish id data) = some (s', sent) ∧
          ∀ k, (Remembered (1, 4000) s.dm.sensorSubscriptions id k →
              1 ≤ delivered k id data sent) ∧
            (1 ≤ delivered k id data sent →
              ∃ id', Remembered (1, 4000) s.dm.sensorSubscriptions id' k) := by
  let after : DMState NamedDocument := { DMState.twoProviders with
    xTEDSList := [{ DMState.activeSlot 0x10001 with connections := 1 },
      DMState.activeSlot 0x10002]
    sensorSubscriptions := [⟨⟨0x10001, 1, 4000⟩, ⟨0x30007, 9, 5000⟩, ⟨1, 1⟩⟩] }
  let s : ProviderLink NamedDocument := (start DMState.twoProviders).sending (1, 4000)
    (after, [.subreqst ⟨⟨0x10001, 1, 4000⟩, ⟨0x30007, 9, 5000⟩, ⟨1, 1⟩, ⟨0, 0⟩⟩])
  have consumed : (machine (1, 4000) fun _ => 0).step (start DMState.twoProviders) consumeFirst =
      some (s, []) := rfl
  have registered : Orderly (1, 4000) (start DMState.twoProviders) consumeFirst := by
    intro _
    decide
  have arrives : (machine (1, 4000) fun _ => 0).step s (.deliver 0) = some (_, []) := rfl
  have fresh : Orderly (1, 4000) s (.deliver 0) := rfl
  have run : (machine (1, 4000) fun _ => 0).Reaches (Orderly (1, 4000))
      (start DMState.twoProviders) s := .step .start registered consumed
  exact ⟨_, rfl, rfl, provider_follows (fun _ => by decide) (run.step fresh arrives) rfl⟩

end Runs

end ProviderLink

end Sdm
