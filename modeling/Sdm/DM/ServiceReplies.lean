import Sdm.DM.Services

/-!
Replies to requests for the services of the Data Manager.

`handleService` is a request with everything that follows from it: `Service` runs, and then
`Serreqst` for each message that the Data Manager has thereby sent to itself. A request
should be answered at most once, with its sequence number, and not be forwarded when it
has been answered (`OneReply`).

* `alone_ServicePublish`: `ServicePublish` sends one reply, or nothing.
* `one_reply_iff`: the law holds unless the request is for the error counters, is answered, and
  is one that the document of the Data Manager declares (`AnswersAndForwards`): there the
  branch of `Service` has no `return`.
* `errors_answered_twice`: such a request.
-/

namespace Sdm

open Lib LockProgram

variable {τ : Type} [XTEDS τ] [XTEDSServices τ]

/-! ### What `ServicePublish` sends -/

/-- `ServicePublish` sends a reply when it finds its slot, and what it copies from there,
before the position `upto`. -/
def Answers (stack : Memory) (requester : SDMComponentID) (sID : UInt32) (id : SDMMessageID)
    (l : XTEDSLibraryList τ) (upto : Nat) : Prop :=
  id = RPLY_ERRORS ∨ ∃ k < upto, ∃ a, l[k]? = some a ∧
    (conversion id requester sID).finds a = true ∧
    (∀ j < k, ∀ b, l[j]? = some b → (conversion id requester sID).finds b = false) ∧
    ((conversion id requester sID).fill a (stack.store 0 [0])).isSome = true

variable {stack : Memory} {requester : SDMComponentID} {sID : UInt32} {id : SDMMessageID}
  {seq_num : Int16} {held : Finset Lock} {s : Shared τ} {upto : Nat}

/-- One reply and nothing else was sent, or no reply. Without a reply the end is reached only if
no slot is held. -/
def Published (stack : Memory) (requester : SDMComponentID) (sID : UInt32) (id : SDMMessageID)
    (seq_num : Int16) (held : Finset Lock) (s : Shared τ) (upto : Nat) (ending : Ending Lock Unit)
    (held' : Finset Lock) (s' : Shared τ) : Prop :=
  (Answers stack requester sID id s.state.xTEDSList upto ∧ ending = .finished () ∧ held' = held ∧
    ∃ bytes, s' = { s with
      sent := s.sent ++ [.data requester ⟨s.dataManager, id, seq_num, bytes⟩] }) ∨
  (¬ Answers stack requester sID id s.state.xTEDSList upto ∧ s' = s ∧
    (ending = .finished () → held' = held ∧ s.state.xTEDSList.length ≤ upto))

/-- **`ServicePublish`**, run by a program that holds the slot `upto` or, with `upto` behind the
last slot, none. -/
theorem alone_ServicePublish (upto : Nat)
    (locked : ∀ j < s.state.xTEDSList.length, .inUse j ∈ held ↔ j = upto) :
    (ServicePublish stack requester sID id seq_num : DMProgram τ Unit).Alone
      (Published stack requester sID id seq_num held s upto) held s := by
  rw [ServicePublish]
  simp only [alone_bind, alone_read, onwards_finished]
  split_ifs with errors
  · simp only [alone_bind, alone_read, onwards_finished, send, alone_write]
    exact .inl ⟨.inl errors, rfl, rfl, _, rfl⟩
  · simp only [convert, nodes, alone_bind, alone_read, onwards_finished]
    refine alone_search ?_ ?_ ?_
    · intro past
      refine .inr ⟨?_, rfl, fun _ => ⟨rfl, ?_⟩⟩
      · rintro (same | ⟨k, -, a, at_k, finds, -⟩)
        · exact errors same
        · obtain ⟨lt, -⟩ := List.getElem?_eq_some_iff.mp at_k
          rw [(past k lt).2 a at_k] at finds
          cases finds
      · by_contra short
        exact (past upto (Nat.lt_of_not_le short)).1
          ((locked upto (Nat.lt_of_not_le short)).mpr rfl)
    · intro k a past new at_k finds
      obtain ⟨lt, -⟩ := List.getElem?_eq_some_iff.mp at_k
      have before : k < upto := by
        rcases Nat.lt_trichotomy k upto with less | same | more
        · exact less
        · exact absurd ((locked k lt).mpr same) new
        · exact absurd ((locked upto (more.trans lt)).mpr rfl) (past upto more).1
      simp only [onwards_finished, slot, alone_bind, alone_read, at_k, alone_require_some]
      cases filled : (conversion id requester sID).fill a (stack.store 0 [0]) with
      | none =>
          refine .inr ⟨?_, rfl, fun ended => by cases ended⟩
          rintro (same | ⟨j, -, b, at_j, found, first, some⟩)
          · exact errors same
          · rcases Nat.lt_trichotomy j k with less | rfl | more
            · rw [(past j less).2 b at_j] at found
              cases found
            · rw [at_k] at at_j
              cases at_j
              rw [filled] at some
              cases some
            · rw [first k more a at_k] at finds
              cases finds
      | some msg =>
          have answers : Answers stack requester sID id s.state.xTEDSList upto :=
            .inr ⟨k, before, a, at_k, finds, fun j less b at_j => (past j less).2 b at_j,
              by rw [filled]; rfl⟩
          simp only [alone_require_some, onwards_finished]
          split_ifs
          all_goals
            simp only [alone_bind, alone_unlock, onwards_finished, send, alone_write,
              Finset.mem_insert_self, true_and, Finset.erase_insert new]
            exact .inl ⟨answers, rfl, rfl, _, rfl⟩
    · intro k lt past mine
      have here := (locked k lt).mp mine
      subst here
      refine .inr ⟨?_, rfl, fun ended => by cases ended⟩
      rintro (same | ⟨j, less, b, at_j, found, -⟩)
      · exact errors same
      · rw [(past j less).2 b at_j] at found
        cases found

/-! ### A request with what follows from it -/

/-- The request that a message is, if the Data Manager has sent it to itself. -/
def toItself (addressDM : UInt32) : Sent → Option SDMSerreqst
  | .serreqst destination msg =>
      if destination.address = addressDM ∧ destination.port = PORT_DM then some msg else none
  | _ => none

/-- `Serreqst` runs for each of these messages of the Data Manager to itself. -/
def settle (stack : Buffers) : List SDMSerreqst → (Lock → Sem) → Shared τ → Shared τ
  | [], _, s => s
  | msg :: rest, locks, s =>
      match (Serreqst (some msg) ⟨0, s.state.addressDM, PORT_DM⟩ stack).run locks s with
      | (.finished (), locks, s) => settle stack rest locks s
      | (_, _, s) => s

/-- What the Data Manager sends for a request: `Service` runs with all slots free, and then
`Serreqst` for what the Data Manager has sent to itself. -/
def handleService (msg : SDMService) (sender : SDMComponentID) (stack stack' : Buffers)
    (s : Shared τ) : List Sent :=
  match (Service (some msg) sender stack).run (fun _ => Sem.new 1) s with
  | (.finished (), locks, s') =>
      (settle stack' ((s'.sent.drop s.sent.length).filterMap (toItself s'.state.addressDM)) locks
        s').sent.drop s.sent.length
  | (_, _, s') => s'.sent.drop s.sent.length

/-- A reply. -/
def IsReply : Sent → Prop
  | .data _ _ => True
  | _ => False

/-- A reply to this requester. -/
def isReplyTo (requester : SDMComponentID) : Sent → Bool
  | .data destination _ => destination = requester
  | _ => false

/-- A forwarded request. -/
def IsForward : Sent → Prop
  | .serreqst _ _ => True
  | _ => False

/-- The law: the requester is sent at most one reply, replies carry the sequence number of
the request, and no request is forwarded after a reply. -/
structure OneReply (requester : SDMComponentID) (seq_num : Int16) (out : List Sent) : Prop where
  once : (out.filter (isReplyTo requester)).length ≤ 1
  numbered : ∀ destination reply, .data destination reply ∈ out → reply.seq_num = seq_num
  unforwarded : out.Pairwise fun first later => ¬ (IsReply first ∧ IsForward later)

/-- Whom `Service` answers. -/
def requesterOf (msg : SDMService) (sender : SDMComponentID) : SDMComponentID :=
  ⟨0, sender.address, msg.destination.port⟩

/-- The request is for the error counters, it is answered, and the document of the Data
Manager declares it. -/
def AnswersAndForwards (msg : SDMService) (sender : SDMComponentID) (stack : Buffers)
    (l : XTEDSLibraryList τ) : Prop :=
  msg.command_id = SER_GET_ERRORS ∧ ∃ k a tree, XTEDSLibraryList.matchSID DM_SENSOR_ID l = some k ∧
    l[k]? = some a ∧ a.xtedsTree = some tree ∧
    XTEDSServices.getServiceDataMsgID tree msg.command_id ≠ INVALID_MESSAGE_ID ∧
    XTEDSServices.isServiceIdValid tree msg.command_id = true ∧
    Answers stack.reply (requesterOf msg sender) 0
      (XTEDSServices.getServiceDataMsgID tree msg.command_id) l k

variable {msg : SDMService} {sender : SDMComponentID} {stack stack' : Buffers}

/-- How `Service` ends for a request to the Data Manager. -/
def Served (msg : SDMService) (sender : SDMComponentID) (stack : Buffers) (s : Shared τ)
    (ending : Ending Lock Unit) (held : Finset Lock) (s' : Shared τ) : Prop :=
  (AnswersAndForwards msg sender stack s.state.xTEDSList ∧ ending = .finished () ∧ held = ∅ ∧
    ∃ reply destination request, s'.sent =
      s.sent ++ [.data (requesterOf msg sender) reply, .serreqst destination request]) ∨
  (¬ AnswersAndForwards msg sender stack s.state.xTEDSList ∧
    (s'.sent = s.sent ∨ ∃ reply : SDMData, reply.seq_num = msg.seq_num ∧
      s'.sent = s.sent ++ [.data (requesterOf msg sender) reply]))

theorem served_of_unanswered {ending : Ending Lock Unit}
    (not : ¬ AnswersAndForwards msg sender stack s.state.xTEDSList) :
    Served msg sender stack s ending held s := .inr ⟨not, .inl rfl⟩

/-- **`Service`** for a request to the Data Manager. -/
theorem alone_Service (addressed : msg.source.sensorID = DM_SENSOR_ID) :
    (Service (some msg) sender stack : DMProgram τ Unit).Alone (Served msg sender stack s) ∅ s := by
  simp only [Service, MatchSID, nodes, alone_bind, alone_read, onwards_finished]
  refine alone_search ?_ ?_ ?_
  · intro past
    refine served_of_unanswered ?_
    rintro ⟨-, k, a, tree, found, -⟩
    rw [addressed] at past
    rw [past.matchSID_eq_none] at found
    cases found
  · intro k a past new at_k finds
    rw [addressed] at past finds
    have found := past.matchSID at_k finds
    have own : a.id.sensorID = DM_SENSOR_ID := by
      rw [hasSensorID, Bool.and_eq_true, beq_iff_eq] at finds
      exact finds.2
    have unique : AnswersAndForwards msg sender stack s.state.xTEDSList → ∀ tree,
        a.xtedsTree = some tree → msg.command_id = SER_GET_ERRORS ∧
        XTEDSServices.getServiceDataMsgID tree msg.command_id ≠ INVALID_MESSAGE_ID ∧
        XTEDSServices.isServiceIdValid tree msg.command_id = true ∧
        Answers stack.reply (requesterOf msg sender) 0
          (XTEDSServices.getServiceDataMsgID tree msg.command_id) s.state.xTEDSList k := by
      rintro ⟨errors, j, b, tree', found', at_j, has, valid⟩ tree here
      rw [found] at found'
      cases found'
      rw [at_k] at at_j
      cases at_j
      rw [here] at has
      cases has
      exact ⟨errors, valid⟩
    simp only [onwards_finished, slot, alone_bind, alone_read, at_k, alone_require_some]
    cases here : a.xtedsTree with
    | none =>
        refine served_of_unanswered ?_
        rintro ⟨-, j, b, tree, found', at_j, has, -⟩
        rw [found] at found'
        cases found'
        rw [at_k] at at_j
        cases at_j
        rw [here] at has
        cases has
    | some tree =>
        simp only [alone_require_some, onwards_finished, own, if_true]
        split_ifs with invalid asks errors
        · simp only [alone_unlock, Finset.mem_insert_self, true_and]
          exact served_of_unanswered fun forwards => (unique forwards tree here).2.1 invalid
        · -- the request is about an id: the slot is released before the reply
          have other : ¬ AnswersAndForwards msg sender stack s.state.xTEDSList := by
            intro forwards
            rw [forwards.1] at asks
            exact absurd asks (by decide)
          simp only [alone_bind, alone_unlock, onwards_finished, Finset.mem_insert_self, true_and,
            Finset.erase_insert new]
          refine (alone_ServicePublish s.state.xTEDSList.length fun j lt => ?_).mono ?_
          · simp [Nat.ne_of_lt lt]
          · rintro ending held' s' (⟨-, -, -, bytes, rfl⟩ | ⟨-, rfl, -⟩)
            · exact .inr ⟨other, .inr ⟨_, rfl, rfl⟩⟩
            · exact served_of_unanswered other
        · -- the error counters: the slot stays locked, and the request is forwarded
          simp only [alone_bind]
          refine (alone_ServicePublish k fun j lt => ?_).mono ?_
          · simp
          · rintro ending held' s' (⟨answers, rfl, rfl, bytes, rfl⟩ | ⟨unanswered, rfl, ended⟩)
            · simp only [onwards_finished, forwardService, slot, alone_bind, alone_read, at_k,
                alone_require_some, here]
              split_ifs with valid
              · simp only [alone_bind, send, alone_write, onwards_finished, alone_unlock,
                  Finset.mem_insert_self, true_and, Finset.erase_insert new]
                exact .inl ⟨⟨errors, k, a, tree, found, at_k, here, invalid, valid, answers⟩, rfl,
                  rfl, _, _, _, List.append_assoc _ _ _⟩
              · simp only [alone_unlock, Finset.mem_insert_self, true_and]
                exact .inr ⟨fun forwards => valid (unique forwards tree here).2.2.1,
                  .inr ⟨_, rfl, rfl⟩⟩
            · have silent : ¬ AnswersAndForwards msg sender stack s'.state.xTEDSList :=
                fun forwards => unanswered (unique forwards tree here).2.2.2
              cases ending with
              | finished =>
                  obtain ⟨-, short⟩ := ended rfl
                  obtain ⟨lt, -⟩ := List.getElem?_eq_some_iff.mp at_k
                  exact absurd lt (Nat.not_lt_of_le short)
              | crashed => exact served_of_unanswered silent
              | blocked => exact served_of_unanswered silent
        · simp only [alone_unlock, Finset.mem_insert_self, true_and]
          exact served_of_unanswered fun forwards => errors forwards.1
  · intro k lt past mine
    exact absurd mine (Finset.notMem_empty _)

/-! ### The messages of the Data Manager to itself -/

/-- More messages were sent, and a program that has come to its end holds no lock. -/
def SentMore (s : Shared τ) (ending : Ending Lock Unit) (held : Finset Lock) (s' : Shared τ) :
    Prop :=
  (∃ more, s'.sent = s.sent ++ more) ∧ (ending = .finished () → held = ∅)

omit [XTEDS τ] [XTEDSServices τ] in
theorem SentMore.refl {ending : Ending Lock Unit} : SentMore s ending ∅ s :=
  ⟨⟨[], (List.append_nil _).symm⟩, fun _ => rfl⟩

theorem sentMore_ServicePublish :
    (ServicePublish stack.reply requester sID id seq_num : DMProgram τ Unit).Alone
      (SentMore s) ∅ s := by
  refine (alone_ServicePublish s.state.xTEDSList.length fun j lt => ?_).mono ?_
  · simp [Nat.ne_of_lt lt]
  · rintro ending held s' (⟨-, -, rfl, bytes, rfl⟩ | ⟨-, rfl, ended⟩)
    · exact ⟨⟨_, rfl⟩, fun _ => rfl⟩
    · exact ⟨⟨[], (List.append_nil _).symm⟩, fun done => (ended done).1⟩

omit [XTEDS τ] [XTEDSServices τ] in
theorem alone_GetDeviceName {id : SDMComponentID} :
    (GetDeviceName id : DMProgram τ Unit).Alone
      (fun ending held s' => s' = s ∧ (ending = .finished () → held = ∅)) ∅ s := by
  rw [GetDeviceName]
  split_ifs
  · exact ⟨rfl, fun _ => rfl⟩
  · simp only [nodes, alone_bind, alone_read, onwards_finished]
    refine alone_search ?_ ?_ ?_
    · exact fun _ => ⟨rfl, fun _ => rfl⟩
    · intro k a _ new _ _
      simp only [onwards_finished, alone_unlock, Finset.mem_insert_self, true_and,
        Finset.erase_insert new]
      simp
    · exact fun k _ _ mine => absurd mine (Finset.notMem_empty _)

theorem sentMore_answerSerreqst {msg : SDMSerreqst} :
    (answerSerreqst msg sender stack : DMProgram τ Unit).Alone (SentMore s) ∅ s := by
  rw [answerSerreqst]
  by_cases other : msg.source.sensorID ≠ DM_SENSOR_ID
  · rw [if_pos other]
    exact .refl
  · rw [if_neg other]
    simp only [MatchSID, nodes, alone_bind, alone_read, onwards_finished]
    refine alone_search ?_ ?_ ?_
    · exact fun _ => .refl
    · intro k a _ new at_k _
      simp only [onwards_finished, slot, alone_bind, alone_read, at_k, alone_require_some]
      cases a.xtedsTree with
      | none => exact ⟨⟨[], (List.append_nil _).symm⟩, fun ended => by cases ended⟩
      | some tree =>
          simp only [alone_require_some, onwards_finished, alone_bind, alone_unlock,
            Finset.mem_insert_self, true_and, Finset.erase_insert new]
          split_ifs
          · exact sentMore_ServicePublish
          · exact sentMore_ServicePublish
          · exact .refl
    · exact fun k _ _ mine => absurd mine (Finset.notMem_empty _)

theorem sentMore_Serreqst {msg : SDMSerreqst} :
    (Serreqst (some msg) sender stack : DMProgram τ Unit).Alone (SentMore s) ∅ s := by
  simp only [Serreqst, alone_bind, alone_read, onwards_finished]
  by_cases debugging : 1 ≤ s.debug
  · rw [onlyIf, if_pos debugging]
    refine alone_GetDeviceName.mono ?_
    rintro ending held s' ⟨rfl, ended⟩
    cases ending with
    | finished =>
        cases ended rfl
        exact sentMore_answerSerreqst
    | crashed => exact ⟨⟨[], (List.append_nil _).symm⟩, fun done => by cases done⟩
    | blocked => exact ⟨⟨[], (List.append_nil _).symm⟩, fun done => by cases done⟩
  · rw [onlyIf, if_neg debugging]
    exact sentMore_answerSerreqst

theorem locksOf_empty : locksOf (∅ : Finset Lock) = fun _ => Sem.new 1 := rfl

/-- What was sent stays sent. -/
theorem settle_sent (stack : Buffers) (msgs : List SDMSerreqst) (s : Shared τ) :
    ∃ more, (settle stack msgs (locksOf ∅) s).sent = s.sent ++ more := by
  induction msgs generalizing s with
  | nil => exact ⟨[], (List.append_nil _).symm⟩
  | cons msg rest ih =>
      have alone : (Serreqst (some msg) ⟨0, s.state.addressDM, PORT_DM⟩ stack :
          DMProgram τ Unit).Alone (SentMore s) ∅ s := sentMore_Serreqst
      obtain ⟨ending, held, s', ran, ⟨more, sent⟩, ended⟩ := alone.run
      rw [settle, ran]
      cases ending with
      | finished =>
          cases ended rfl
          obtain ⟨further, after⟩ := ih s'
          exact ⟨more ++ further, by rw [after, sent, List.append_assoc]⟩
      | crashed => exact ⟨more, sent⟩
      | blocked => exact ⟨more, sent⟩

/-! ### The law -/

/-- What is sent for a request. -/
theorem handleService_eq (sender : SDMComponentID) (stack stack' : Buffers) (s : Shared τ)
    (addressed : msg.source.sensorID = DM_SENSOR_ID) :
    (AnswersAndForwards msg sender stack s.state.xTEDSList ∧ ∃ reply destination request more,
      handleService msg sender stack stack' s =
        .data (requesterOf msg sender) reply :: .serreqst destination request :: more) ∨
    (¬ AnswersAndForwards msg sender stack s.state.xTEDSList ∧
      (handleService msg sender stack stack' s = [] ∨
        ∃ reply : SDMData, reply.seq_num = msg.seq_num ∧
          handleService msg sender stack stack' s = [.data (requesterOf msg sender) reply])) := by
  have alone : (Service (some msg) sender stack : DMProgram τ Unit).Alone
      (Served msg sender stack s) ∅ s := alone_Service addressed
  obtain ⟨ending, held, s', ran, served⟩ := alone.run
  rw [handleService, ← locksOf_empty, ran]
  rcases served with ⟨forwards, rfl, rfl, reply, destination, request, sent⟩ | ⟨silent, sent⟩
  · obtain ⟨more, after⟩ := settle_sent stack'
      ((s'.sent.drop s.sent.length).filterMap (toItself s'.state.addressDM)) s'
    refine .inl ⟨forwards, reply, destination, request, more, ?_⟩
    show (settle stack' _ (locksOf ∅) s').sent.drop s.sent.length = _
    rw [after, sent, List.append_assoc, List.drop_left]
    rfl
  · refine .inr ⟨silent, ?_⟩
    have out : ∀ new, s'.sent = s.sent ++ new → new.filterMap (toItself s'.state.addressDM) = [] →
        (match (ending, locksOf held, s') with
          | (.finished (), locks, s') =>
              (settle stack' ((s'.sent.drop s.sent.length).filterMap
                (toItself s'.state.addressDM)) locks s').sent.drop s.sent.length
          | (_, _, s') => s'.sent.drop s.sent.length) = new := by
      intro new sent quiet
      have dropped : s'.sent.drop s.sent.length = new := by rw [sent, List.drop_left]
      cases ending with
      | finished =>
          show (settle stack' _ _ s').sent.drop s.sent.length = new
          rw [dropped, quiet]
          exact dropped
      | crashed => exact dropped
      | blocked => exact dropped
    rcases sent with sent | ⟨reply, numbered, sent⟩
    · exact .inl (out [] (by rw [sent, List.append_nil]) rfl)
    · exact .inr ⟨reply, numbered, out _ sent rfl⟩

/-- **One reply for one request.** A request for a service of the Data Manager, with the
messages that the Data Manager thereby sends to itself, is answered at most once, with its
sequence number, and is not forwarded after it has been answered, exactly when it is not
answered from the error counters with a document that declares it. -/
theorem one_reply_iff (msg : SDMService) (addressed : msg.source.sensorID = DM_SENSOR_ID)
    (sender : SDMComponentID) (stack stack' : Buffers) (s : Shared τ) :
    OneReply (requesterOf msg sender) msg.seq_num (handleService msg sender stack stack' s) ↔
      ¬ AnswersAndForwards msg sender stack s.state.xTEDSList := by
  rcases handleService_eq sender stack stack' s addressed with
    ⟨forwards, reply, destination, request, more, out⟩ |
      ⟨silent, out | ⟨reply, numbered, out⟩⟩
  · refine ⟨fun law => ?_, fun not => absurd forwards not⟩
    have kept := law.unforwarded
    rw [out, List.pairwise_cons] at kept
    exact absurd ⟨trivial, trivial⟩ (kept.1 _ List.mem_cons_self)
  · refine ⟨fun _ => silent, fun _ => ?_⟩
    rw [out]
    exact ⟨Nat.zero_le 1, fun _ _ mem => absurd mem List.not_mem_nil, List.Pairwise.nil⟩
  · refine ⟨fun _ => silent, fun _ => ?_⟩
    rw [out]
    refine ⟨List.length_filter_le _ _, fun _ _ mem => ?_, List.pairwise_singleton _ _⟩
    cases List.mem_singleton.mp mem
    exact numbered

/-- A request for the error counters, from a component on the Data Manager's node. -/
def getErrors : SDMService where
  source := ⟨DM_SENSOR_ID, 1, PORT_DM⟩
  destination := ⟨0, 1, 5000⟩
  command_id := SER_GET_ERRORS
  seq_num := 7
  data := []

/-- A request for the name of a device. -/
def getDeviceName : SDMService := { getErrors with command_id := SER_SEND_SENSOR_ID }

/-- Buffers that hold nothing. -/
def zeroBuffers : Buffers := ⟨fun _ => 0, fun _ => 0⟩

theorem one_reply_of_device_name :
    OneReply (requesterOf getDeviceName ⟨0, 1, 5000⟩) 7
      (handleService getDeviceName ⟨0, 1, 5000⟩ zeroBuffers zeroBuffers justStartedShared) :=
  (one_reply_iff getDeviceName rfl ⟨0, 1, 5000⟩ zeroBuffers zeroBuffers justStartedShared).mpr
    fun forwards => absurd forwards.1 (by decide)

/-- The request for the error counters is answered twice: by `Service`, and by `Serreqst`
when the forwarded request arrives. -/
theorem errors_answered_twice :
    ¬ ∀ (msg : SDMService) (sender : SDMComponentID) (stack stack' : Buffers)
      (s : Shared NamedDocument), msg.source.sensorID = DM_SENSOR_ID →
        OneReply (requesterOf msg sender) msg.seq_num
          (handleService msg sender stack stack' s) := by
  intro law
  have twice :
      ((handleService getErrors ⟨0, 1, 5000⟩ zeroBuffers zeroBuffers justStartedShared).filter
      (isReplyTo ⟨0, 1, 5000⟩)).length = 2 := by decide
  have once := (law getErrors ⟨0, 1, 5000⟩ zeroBuffers zeroBuffers justStartedShared rfl).once
  exact absurd (twice ▸ once) (by decide)

end Sdm
