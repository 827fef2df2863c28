import Sdm.DM.RegisteredNames

/-!
Cancels that `CancelxTEDS` answers with an error.

The handler deactivates the slot it finds, publishes the cancellation and ends
the component's subscriptions before it sees that the slot is the Data Manager's
own. `rejected_untouched_iff` says when an error answer still leaves everything
as it was: when no slot was found, or when the cancel happened to write and
publish nothing (`Harmless`). In runs whose cancels of the Data Manager's own
slot are all full ones, and whose task errors are not taken for it, that slot
stays active.
-/

namespace Sdm

open Lib XTEDSLibraryList

variable {τ : Type}

namespace Effect

/-- The message is answered with an error; the acknowledgement is sent last. -/
def Rejects (out : List Effect) : Prop :=
  out.getLast? = some (.ack .SDM_INVALID_CANCEL) ∨ out.getLast? = some (.ack .SDM_UNKNOWN_XTEDS)

instance (out : List Effect) : Decidable (Rejects out) := inferInstanceAs (Decidable (_ ∨ _))

/-- A subscriber is told of a deregistration. -/
def IsReport : Effect → Prop
  | .notification _ => True
  | .regInfo _ _ _ => True
  | _ => False

/-- Nobody is told of a deregistration. -/
def Unreported (out : List Effect) : Prop := ∀ e ∈ out, ¬ e.IsReport

theorem unreported_append {out out' : List Effect} :
    Unreported (out ++ out') ↔ Unreported out ∧ Unreported out' := by
  constructor
  · intro none
    exact ⟨fun e mem => none e (List.mem_append_left _ mem),
      fun e mem => none e (List.mem_append_right _ mem)⟩
  · rintro ⟨first, second⟩ e mem
    rcases List.mem_append.mp mem with mem | mem
    · exact first e mem
    · exact second e mem

end Effect

namespace DMState

open Effect ProviderSubscriptionList

/-- A message has left the registry and both subscription lists alone, and nobody
was told of a deregistration. -/
structure Untouched (st st' : DMState τ) (out : List Effect) : Prop where
  xTEDSList : st'.xTEDSList = st.xTEDSList
  subscribers : st'.subscribers = st.subscribers
  sensorSubscriptions : st'.sensorSubscriptions = st.sensorSubscriptions
  unreported : Unreported out

variable [XTEDS τ] {st st' : DMState τ} {out : List Effect} {action : Modification}
  {messageID : SDMMessageID} {k ref : Nat} {s : XTEDSLibrary τ} {msg : Option SDMCancelxTEDS}
  {sender : SDMComponentID}

/-- Running the stored query of a node for slot `ref` changes nothing and reports
nothing. -/
def SilentNode (messageID : SDMMessageID) (action : Modification) (ref : Nat) (st : DMState τ)
    (n : Subscription) : Prop :=
  ∀ query st' out, SubscriptionList.republish messageID n = some query →
    rerun query action ref st = some (st', out) → st' = st ∧ Unreported out

/-- The conditions under which cancelling the slot `s` at position `k` writes and
publishes nothing. -/
structure Harmless (fullCancel : UInt8) (k : Nat) (s : XTEDSLibrary τ) (st : DMState τ) : Prop where
  full : fullCancel = 1
  notPosted : s.posted = false
  queries : ∀ n ∈ st.subscribers,
    SilentNode REQ_REG_CANCELLATION .DEREGISTRATION_MODIFICATION k st n
  notifications : ∀ n ∈ st.subscribers, n.inUse = true →
    n.mID ≠ NOTI_DEREGISTRATION ∧ n.mID ≠ NOTI_REGISTRATION_CHANGE
  subscriptions : ∀ e ∈ st.sensorSubscriptions, ¬ SameEndpoint s.id e.subscriber ∧ e.provider ≠ s.id

/-- The cancel finds no slot of the Data Manager, or one that it does no harm to. -/
def CancelsHarmlessly (msg : Option SDMCancelxTEDS) (sender : SDMComponentID) (st : DMState τ) :
    Prop :=
  ∀ c k s, msg = some c → cancelTarget c sender st = some k → st.xTEDSList[k]? = some s →
    s.id.port = PORT_DM → Harmless c.fullCancel k s st

/-! ### Publishing nothing -/

/-- Publishing ends where it started, with nothing reported, exactly when every
node is silent. -/
theorem publishModification_silent_iff {nodes : SubscriptionList}
    (done : publishModification messageID action ref nodes st = some (st', out)) :
    st'.xTEDSList = st.xTEDSList ∧ Unreported out ↔
      ∀ n ∈ nodes, SilentNode messageID action ref st n := by
  induction nodes generalizing st out with
  | nil =>
      cases done
      exact iff_of_true ⟨rfl, fun e mem => absurd mem List.not_mem_nil⟩
        fun n mem => absurd mem List.not_mem_nil
  | cons n nodes ih =>
      obtain ⟨query, republished, done⟩ := Option.bind_eq_some_iff.mp done
      obtain ⟨⟨st₁, out₁⟩, ran, done⟩ := Option.bind_eq_some_iff.mp done
      obtain ⟨⟨st₂, out₂⟩, others, same⟩ := Option.map_eq_some_iff.mp done
      cases same
      have here : SilentNode messageID action ref st n ↔ st₁ = st ∧ Unreported out₁ := by
        constructor
        · intro silent
          exact silent query st₁ out₁ republished ran
        · intro silent query' st' out' republished' ran'
          rw [republished] at republished'
          cases republished'
          rw [ran] at ran'
          cases ran'
          exact silent
      rw [List.forall_mem_cons, here, unreported_append]
      constructor
      · rintro ⟨back, none₁, none₂⟩
        have there := (quiet_rerun ran).posts
        have rest := (quiet_publishModification others).posts
        rw [back] at rest
        have stays : st₁ = st := (quiet_rerun ran).eq (there.antisymm rest)
        subst stays
        exact ⟨⟨rfl, none₁⟩, (ih others).mp ⟨back, none₂⟩⟩
      · rintro ⟨⟨rfl, none₁⟩, silent⟩
        obtain ⟨back, none₂⟩ := (ih others).mpr silent
        exact ⟨back, none₁, none₂⟩

omit [XTEDS τ] in
theorem notify_unreported_iff {sensorID : UInt32} :
    Unreported (notify sensorID messageID action st) ↔
      ∀ n ∈ st.subscribers, n.inUse = true → n.mID ≠ messageID := by
  have nothing : Unreported (notify sensorID messageID action st) ↔
      SubscriptionList.publishNotification sensorID messageID action st.subscribers = [] := by
    unfold notify
    constructor
    · intro none
      cases notices :
        SubscriptionList.publishNotification sensorID messageID action st.subscribers with
      | nil => rfl
      | cons data rest =>
          rw [notices] at none
          exact absurd trivial (none (.notification data) List.mem_cons_self)
    · intro none
      rw [none]
      exact fun e mem => absurd mem List.not_mem_nil
  rw [nothing, SubscriptionList.publishNotification_eq_nil_iff]
  simp only [not_and, ne_eq]

omit [XTEDS τ] in
theorem finish_eq_self_iff {c : SDMComponentID} {l : ProviderSubscriptionList} :
    providerFinish c (subscriberFinish c l).2 = l ↔
      ∀ e ∈ l, ¬ SameEndpoint c e.subscriber ∧ e.provider ≠ c := by
  rw [providerFinish_eq_filter, subscriberFinish_snd, List.filter_filter, List.filter_eq_self]
  simp only [Bool.and_eq_true, Bool.not_eq_true', decide_eq_false_iff_not, ne_eq]
  exact forall₂_congr fun e _ => and_comm

/-! ### The Data Manager's own slot -/

omit [XTEDS τ] in
theorem not_ofManager (own : s.id.port = PORT_DM) : ¬ OfManager s := by
  unfold OfManager
  rw [own]
  decide

omit [XTEDS τ] in
/-- A full cancel of an active slot that is not posted writes nothing. -/
theorem modify_quiesce_eq {l : XTEDSLibraryList τ} (at_k : l[k]? = some s)
    (active : s.active = true)
    (own : s.id.port = PORT_DM) (notPosted : s.posted = false) : l.modify k (quiesce 1) = l := by
  have same : quiesce 1 s = s := by
    rw [quiesce, if_neg (not_ofManager own), if_pos rfl, ← active, ← notPosted]
  apply List.ext_getElem?
  intro j
  by_cases here : k = j
  · subst here
    rw [List.getElem?_modify_eq, at_k]
    exact congrArg some same
  · rw [List.getElem?_modify_ne _ _ here]

omit [XTEDS τ] in
/-- If the registry is as before after publishing, the cancel had written nothing. -/
theorem full_of_posts_back {l : XTEDSLibraryList τ} {fullCancel : UInt8} (at_k : l[k]? = some s)
    (active : s.active = true) (own : s.id.port = PORT_DM)
    (posts : OnlyPosts (l.modify k (quiesce fullCancel)) l) :
    fullCancel = 1 ∧ s.posted = false := by
  have written : (l.modify k (quiesce fullCancel))[k]? = some (quiesce fullCancel s) := by
    rw [List.getElem?_modify_eq, at_k]
    rfl
  obtain ⟨ltOld, old⟩ := List.getElem?_eq_some_iff.mp at_k
  obtain ⟨ltNew, new⟩ := List.getElem?_eq_some_iff.mp written
  have slot : PostsSlot (quiesce fullCancel s) s := by
    have := posts.get ltNew ltOld
    rwa [List.get_eq_getElem, List.get_eq_getElem, new, old] at this
  rw [quiesce, if_neg (not_ofManager own)] at slot
  by_cases full : fullCancel = 1
  · rw [if_pos full] at slot
    rcases slot with same | ⟨inactive, _⟩
    · exact ⟨full, by rw [same]⟩
    · cases inactive
  · rw [if_neg full] at slot
    rcases slot with same | ⟨_, same⟩
    · rw [same] at active
      cases active
    · rw [same] at active
      cases active

/-- Cancelling the Data Manager's own slot is harmless exactly under `Harmless`. -/
theorem untouched_iff_of_own {fullCancel : UInt8} (at_k : st.xTEDSList[k]? = some s)
    (active : s.active = true) (own : s.id.port = PORT_DM)
    (done : cancelSlot fullCancel k s st = some (st', out)) :
    Untouched st st' out ↔ Harmless fullCancel k s st := by
  obtain ⟨⟨st₁, out₁⟩, publishing, result⟩ := Option.map_eq_some_iff.mp done
  simp only [if_pos own, Prod.mk.injEq] at result
  obtain ⟨rfl, rfl⟩ := result
  have quiet := quiet_publishModification publishing
  have sent : Unreported
      (out₁ ++ (notify s.id.sensorID NOTI_DEREGISTRATION .MOD_NOT_APPLICABLE st₁ ++
      notify s.id.sensorID NOTI_REGISTRATION_CHANGE .DEREGISTRATION_MODIFICATION st₁) ++
      (subscriberFinish s.id st₁.sensorSubscriptions).1.map .deletesub ++
      [.ack .SDM_INVALID_CANCEL]) ↔ Unreported out₁ ∧
        ∀ n ∈ st.subscribers, n.inUse = true →
          n.mID ≠ NOTI_DEREGISTRATION ∧ n.mID ≠ NOTI_REGISTRATION_CHANGE := by
    have ended : Unreported ((subscriberFinish s.id st₁.sensorSubscriptions).1.map .deletesub) := by
      intro e mem
      obtain ⟨_, _, rfl⟩ := List.mem_map.mp mem
      exact id
    have answered : Unreported [.ack .SDM_INVALID_CANCEL] := by
      intro e mem
      rw [List.mem_singleton.mp mem]
      exact id
    simp only [unreported_append, notify_unreported_iff, quiet.subscribers, ended, answered,
      and_true, and_congr_right_iff]
    intro _
    exact ⟨fun h n mem inUse => ⟨h.1 n mem inUse, h.2 n mem inUse⟩,
      fun h => ⟨fun n mem inUse => (h n mem inUse).1, fun n mem inUse => (h n mem inUse).2⟩⟩
  constructor
  · rintro ⟨back, -, kept, unreported⟩
    have posts := quiet.posts
    dsimp only at back posts
    rw [back] at posts
    obtain ⟨rfl, notPosted⟩ := full_of_posts_back at_k active own posts
    have same := modify_quiesce_eq at_k active own notPosted
    rw [same] at publishing
    obtain ⟨unreported₁, notifications⟩ := sent.mp unreported
    refine ⟨rfl, notPosted, ?_, notifications, ?_⟩
    · exact (publishModification_silent_iff publishing).mp ⟨back, unreported₁⟩
    · have same : st₁.sensorSubscriptions = st.sensorSubscriptions := quiet.sensorSubscriptions
      dsimp only at kept
      rw [same] at kept
      exact finish_eq_self_iff.mp kept
  · rintro ⟨rfl, notPosted, queries, notifications, subscriptions⟩
    rw [modify_quiesce_eq at_k active own notPosted] at publishing
    obtain ⟨back, unreported₁⟩ := (publishModification_silent_iff publishing).mpr queries
    refine ⟨back, quiet.subscribers, ?_, sent.mpr ⟨unreported₁, notifications⟩⟩
    have same : st₁.sensorSubscriptions = st.sensorSubscriptions := quiet.sensorSubscriptions
    dsimp only
    rw [same]
    exact finish_eq_self_iff.mpr subscriptions

theorem untouched_iff (done : cancelxTEDS msg sender st = some (st', out))
    (rejected : Rejects out) :
    Untouched st st' out ↔ CancelsHarmlessly msg sender st := by
  unfold cancelxTEDS at done
  split at done
  · cases done
    refine iff_of_true ⟨rfl, rfl, rfl, fun e mem => ?_⟩ fun c k s named => ?_
    · rw [List.mem_singleton.mp mem]
      exact id
    · cases named
  · rename_i c
    split at done
    · rename_i unknown
      cases done
      refine iff_of_true ⟨rfl, rfl, rfl, fun e mem => ?_⟩ fun c k s named target => ?_
      · rw [List.mem_singleton.mp mem]
        exact id
      · cases named
        rw [unknown] at target
        cases target
    · rename_i k target
      obtain ⟨s, at_k, done⟩ := Option.bind_eq_some_iff.mp done
      have harmless : CancelsHarmlessly (some c) sender st ↔
          (s.id.port = PORT_DM → Harmless c.fullCancel k s st) := by
        constructor
        · intro all
          exact all c k s rfl target at_k
        · intro here c' k' s' named target' at_k'
          cases named
          rw [target] at target'
          cases target'
          rw [at_k] at at_k'
          cases at_k'
          exact here
      rw [harmless]
      by_cases own : s.id.port = PORT_DM
      · obtain ⟨t, at_t, _, _, _, active, _⟩ := cancelTarget_spec target
        rw [at_k] at at_t
        cases at_t
        rw [untouched_iff_of_own at_k active own done]
        exact ⟨fun h _ => h, fun h => h own⟩
      · obtain ⟨published, _, result⟩ := Option.map_eq_some_iff.mp done
        simp only [if_neg own, Prod.mk.injEq] at result
        obtain ⟨_, rfl⟩ := result
        simp [Rejects] at rejected

/-! ### Runs -/

/-- A cancel of the Data Manager's own slot is a full one, and no task error is taken for it: the
slot has process id 0. -/
def SparesOwn (st : DMState τ) : DMMessage → Prop
  | .cancelxTEDS (some c) sender => ∀ k s, cancelTarget c sender st = some k →
      st.xTEDSList[k]? = some s → s.id.port = PORT_DM → c.fullCancel = 1
  | .taskError (some e) sender => ∀ k s, errorTarget e sender st = some k →
      st.xTEDSList[k]? = some s → s.id.port ≠ PORT_DM
  | _ => True

/-- Under such messages an active slot of the Data Manager stays what it is. -/
theorem own_stays {message : DMMessage} (wf : WellFormed st.xTEDSList)
    (guard : SparesOwn st message) (taken : dataManager.step st message = some (st', out))
    (at_k : st.xTEDSList[k]? = some s) (active : s.active = true) (own : s.id.port = PORT_DM) :
    ∃ s', st'.xTEDSList[k]? = some s' ∧ core s' = core s := by
  have ofCore : ∀ {l : XTEDSLibraryList τ} {t : XTEDSLibrary τ}, l[k]? = some t → core t = core s →
      st'.xTEDSList.map core = l.map core →
        ∃ s', st'.xTEDSList[k]? = some s' ∧ core s' = core s := by
    intro l t at_t sameT same
    obtain ⟨s', at_s', core'⟩ := core_at same.symm at_t
    exact ⟨s', at_s', core'.symm.trans sameT⟩
  cases message with
  | registerDocument r =>
      rcases registerDocument_cases taken with rfl | ⟨type, sensor, l, o, _, done, quiet⟩
      · exact ⟨s, at_k, rfl⟩
      · exact ofCore (register_keeps_active wf done at_k active) rfl quiet.slots
  | cancelxTEDS msg sender =>
      rcases cancelxTEDS_cases taken with rfl | ⟨c, j, t, st₁, named, target, at_j, quiet, released⟩
      · exact ⟨s, at_k, rfl⟩
      · by_cases here : j = k
        · subst here
          rw [at_k] at at_j
          cases at_j
          subst named
          have full : c.fullCancel = 1 := guard j s target at_k own
          have quiesced :
              (st.xTEDSList.modify j (quiesce c.fullCancel))[j]? = some (quiesce 1 s) := by
            rw [List.getElem?_modify_eq, at_k, full]
            rfl
          have same : core (quiesce 1 s) = core s := by
            rw [quiesce, if_neg (not_ofManager own), if_pos rfl, core, core, active]
          rw [if_pos own] at released
          refine ofCore quiesced same ?_
          rw [released]
          exact quiet.slots
        · have untouched : (st.xTEDSList.modify j (quiesce c.fullCancel))[k]? = some s := by
            rw [List.getElem?_modify_ne _ _ here, at_k]
          obtain ⟨s₁, at_s₁, same₁⟩ := core_at quiet.slots.symm untouched
          refine ⟨s₁, ?_, same₁.symm⟩
          rw [released]
          split
          · exact at_s₁
          · rw [List.getElem?_modify_ne _ _ here, at_s₁]
  | taskError msgError sender =>
      rcases taskError_cases taken with ⟨rfl, -⟩ | ⟨e, j, t, _, named, target, at_j, publishing, -⟩
      · exact ⟨s, at_k, rfl⟩
      · subst named
        have other : j ≠ k := by
          rintro rfl
          rw [at_k] at at_j
          cases at_j
          exact guard j s target at_k own
        have untouched : (st.xTEDSList.modify j suspend)[k]? = some s := by
          rw [List.getElem?_modify_ne _ _ other, at_k]
        exact ofCore untouched rfl (quiet_publishModification publishing).slots
  | reqReg msg sender => exact ofCore at_k rfl (core_reqReg taken)
  | consume msg sender => exact ofCore at_k rfl (core_consume taken)
  | cancel msg sender =>
      have same : (cancel msg sender st).1 = st' := congrArg Prod.fst (Option.some.inj taken)
      exact ofCore at_k rfl (same ▸ core_cancel)

/-- In such runs `MatchSID` finds the Data Manager's own slot. -/
theorem matchSID_own {st₀ : DMState τ} (start : OnlyDataManager st₀)
    (run : dataManager.Reaches SparesOwn st₀ st) :
    ActiveAt 0 st.xTEDSList ∧ matchSID DM_SENSOR_ID st.xTEDSList = some 0 := by
  have wf := start.wellFormed
  obtain ⟨own, only, _, active, _, named⟩ := start
  have at_0 : st₀.xTEDSList[0]? = some own := by rw [only]; rfl
  have kept : WellFormed st.xTEDSList ∧ ∃ s, st.xTEDSList[0]? = some s ∧ core s = core own := by
    refine run.invariant (I := fun st => WellFormed st.xTEDSList ∧
      ∃ s, st.xTEDSList[0]? = some s ∧ core s = core own) ⟨wf, own, at_0, rfl⟩ ?_
    rintro st message st' out ⟨wf, s, at_s, same⟩ guard taken
    have activeS : s.active = true := by
      have := congrArg XTEDSLibrary.active same
      simpa [active] using this
    have portS : s.id.port = PORT_DM := by
      have : s.id = own.id := by simpa using congrArg XTEDSLibrary.id same
      rw [this, named]
    obtain ⟨s', at_s', same'⟩ := own_stays wf guard taken at_s activeS portS
    exact ⟨wellFormed_reachable (Machine.Reachable.next .start taken) wf, s', at_s',
      same'.trans same⟩
  obtain ⟨_, s, at_s, same⟩ := kept
  have activeS : s.active = true := by
    have := congrArg XTEDSLibrary.active same
    simpa [active] using this
  have idS : s.id = own.id := by simpa using congrArg XTEDSLibrary.id same
  refine ⟨⟨s, at_s, activeS⟩, matchSID_eq_some_iff.mpr ⟨s, at_s, activeS, ?_, ?_⟩⟩
  · rw [idS, named]
  · intro j before
    exact absurd before (Nat.not_lt_zero j)

/-- **When a rejected cancel leaves everything alone.** For every state and every
cancel that is answered with an error, the registry and both subscription lists
are what they were and no deregistration is reported exactly when the cancel finds
no slot of the Data Manager or one that it does no harm to. In runs whose cancels
of the Data Manager's slot are full ones and whose task errors find another slot,
this slot stays active, and `MatchSID` finds it. -/
theorem rejected_untouched_iff :
    (∀ (st st' : DMState τ) (msg : Option SDMCancelxTEDS) (sender : SDMComponentID)
      (out : List Effect), cancelxTEDS msg sender st = some (st', out) → Rejects out →
        (Untouched st st' out ↔ CancelsHarmlessly msg sender st)) ∧
    ∀ st₀ st : DMState τ, OnlyDataManager st₀ → dataManager.Reaches SparesOwn st₀ st →
      ActiveAt 0 st.xTEDSList ∧ matchSID DM_SENSOR_ID st.xTEDSList = some 0 :=
  ⟨fun _ _ _ _ _ done rejected => untouched_iff done rejected,
    fun _ _ start run => matchSID_own start run⟩

/-- Any component cancels the Data Manager: the answer is an error, and the Data
Manager's own slot is no longer active. -/
theorem rejected_cancel_deactivates_own :
    ¬ ∀ (st st' : DMState NamedDocument) (msg : Option SDMCancelxTEDS) (sender : SDMComponentID)
      (out : List Effect), cancelxTEDS msg sender st = some (st', out) → Rejects out →
        Untouched st st' out := by
  intro untouched
  let inactive : DMState NamedDocument :=
    { justStarted with xTEDSList := [{ ownSlot with active := false }] }
  have done : cancelxTEDS (some ⟨ownSlot.id, 0⟩) ⟨0, 9, 5000⟩ justStarted =
      some (inactive, [.ack .SDM_INVALID_CANCEL]) := by decide
  have same := (untouched _ _ _ _ _ done (by decide)).xTEDSList
  exact absurd same (by decide)

end DMState

end Sdm
