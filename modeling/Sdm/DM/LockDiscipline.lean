import Sdm.DM.LockedHandlers

/-!
The lock discipline of the slots.

A handler is balanced when it releases only what it holds, waits for nothing that it holds,
and ends with nothing held, whatever the other handlers do to the slots meanwhile. Most
handlers always are. `TAT` releases a hub twice when it has sent to the address before,
`BackupConsume` releases its slot twice, and `Service` publishes the error counters with a
slot locked.

* `balanced_handler_iff`: a call is balanced exactly when it is `Disciplined`. Where it is
  not, the others can leave the slots so that the handler goes wrong (`isolate`).
* `lock_discipline_iff`: with it, the semaphores in every interleaving of disciplined calls.
* `tat_releases_twice`: a semaphore with two permits.
-/

namespace Sdm

open Lib LockProgram

variable {τ : Type} {held : Finset Lock} {k : Nat}

/-! ### Handlers that are always balanced -/

theorem free_empty (k : Nat) : Lock.inUse k ∉ (∅ : Finset Lock) := Finset.notMem_empty _

theorem moves_convert {c : Conversion τ} {msg : Memory} {reply : List UInt8 → Sent}
    (free : ∀ k, .inUse k ∉ held) : Moves Interferes (convert c msg reply) held held := by
  refine .bind .read fun all => moves_search free .pure fun k => ?_
  refine .bind moves_slot fun s => .bind .require fun filled => .ite (fun _ => ?_) fun _ => ?_
  · exact .bind (.unlock_insert (free k)) fun _ => moves_send
  · exact .bind moves_send fun _ => .unlock_insert (free k)

theorem moves_GetDeviceName {id : SDMComponentID} (free : ∀ k, .inUse k ∉ held) :
    Moves Interferes (GetDeviceName id : DMProgram τ Unit) held held := by
  refine .ite (fun _ => .pure) fun _ => .bind .read fun all => ?_
  exact moves_search free .pure fun k => .unlock_insert (free k)

theorem moves_PrintxTEDS (free : ∀ k, .inUse k ∉ held) :
    Moves Interferes (PrintxTEDS : DMProgram τ Unit) held held := by
  refine .bind .read fun debug => .bind .read fun all => ?_
  have all_visited :
      Moves Interferes (visit (fun _ _ => pure ()) all : DMProgram τ Unit) held held :=
    moves_visit free fun _ _ => .pure
  exact .bind (.onlyIf fun _ => all_visited) fun _ => .onlyIf fun _ => all_visited

theorem moves_Subscribe {subscriberId : SDMComponentID} {mID : SDMMessageID}
    (free : ∀ k, .inUse k ∉ held) :
    Moves Interferes (Subscribe subscriberId mID : DMProgram τ Unit) held held := by
  refine .bind (.update fun s => .ofSame rfl) fun added => .bind .read fun elected => ?_
  refine .ite (fun _ => .bind .read fun all => ?_) fun _ => .pure
  refine moves_visit free fun k s => .ite (fun _ => .pure) fun _ => moves_send

theorem moves_noteSubscription {provider subscriber : SDMComponentID} {message : SDMMessageID} :
    Moves Interferes (noteSubscription provider subscriber message : DMProgram τ Unit) held held :=
  .write fun _ => .ofSame rfl

theorem moves_Cancel {msg : Option SDMCancel} {sender : SDMComponentID} :
    Moves Interferes (Cancel msg sender : DMProgram τ Unit) ∅ ∅ := by
  cases msg with
  | none => exact .pure
  | some msg =>
      refine moves_MatchSID free_empty .pure fun k => .bind moves_slot fun provider => ?_
      refine .ite (fun _ => ?_) fun _ => ?_
      · exact .bind (.unlock_insert (free_empty k)) fun _ => .write fun _ => .ofSame rfl
      · refine .bind (moves_setSlot fun a => ⟨rfl, rfl, rfl, .inl rfl⟩) fun _ => ?_
        refine .bind (.unlock_insert (free_empty k)) fun _ => ?_
        exact .bind (.write fun _ => .ofSame rfl) fun _ => moves_send

section Documents

variable [XTEDS τ]

theorem moves_Consume {msg : Option SDMConsume} {sender : SDMComponentID} :
    Moves Interferes (Consume msg sender : DMProgram τ Unit) ∅ ∅ := by
  cases msg with
  | none => exact .pure
  | some msg =>
      refine .bind .read fun debug =>
        .bind (.onlyIf fun _ => moves_GetDeviceName free_empty) fun _ => ?_
      refine moves_MatchSID free_empty .pure fun k => .bind moves_slot fun provider => ?_
      refine .ite (fun _ => ?_) fun _ => ?_
      · exact .bind (.unlock_insert (free_empty k)) fun _ => moves_Subscribe free_empty
      · refine .bind .require fun tree => ?_
        refine .bind (moves_setSlot fun a => ⟨rfl, rfl, rfl, .inl rfl⟩) fun _ => ?_
        refine .bind (.unlock_insert (free_empty k)) fun _ => ?_
        exact .bind moves_noteSubscription fun _ => moves_send

theorem moves_ReqxTEDS {msg : Option SDMReqxTEDS} {sender : SDMComponentID} :
    Moves Interferes (ReqxTEDS msg sender : DMProgram τ Unit) ∅ ∅ := by
  cases msg with
  | none => exact .pure
  | some msg =>
      refine .ite (fun _ => .pure) fun _ => .ite (fun _ => ?_) fun _ => ?_
      · refine moves_MatchSID free_empty moves_send fun k => .bind moves_slot fun s => ?_
        refine .bind .require fun text => .bind (.unlock_insert (free_empty k)) fun _ => ?_
        exact .bind moves_send fun _ => moves_send
      · refine .bind .read fun all =>
          .bind (moves_visit free_empty fun k s => ?_) fun _ => moves_send
        refine .ite (fun _ => .pure) fun _ => .bind .require fun name => ?_
        exact .ite (fun _ => .bind .require fun text => moves_send) fun _ => .pure

theorem moves_reqRegWalk {q : ReqRegCall} {l : List Nat} {numxTEDS count : Nat}
    {sensorMatches : List Nat} (free : ∀ k, .inUse k ∉ held) :
    Moves Interferes (reqRegWalk q l numxTEDS sensorMatches count : DMProgram τ _) held held := by
  induction l generalizing numxTEDS count sensorMatches with
  | nil => exact .pure
  | cons k rest ih =>
      refine .bind (.lock (free k)) fun _ => .bind moves_slot fun s =>
        .ite (fun _ => ?_) fun _ => ?_
      · exact .bind (.unlock_insert (free k)) fun _ => ih
      · refine .ite (fun _ => .bind .require fun tree => ?_) fun _ => ?_
        · cases q.lookup tree with
          | none => exact .bind (.unlock_insert (free k)) fun _ => .pure
          | some defs =>
              refine .bind moves_sendAll fun _ => .bind (.unlock_insert (free k)) fun _ => ?_
              exact .ite (fun _ => .pure) fun _ => ih
        · refine .bind (.unlock_insert (free k)) fun _ => ?_
          exact .ite (fun _ => .pure) fun _ => ih

theorem moves_ReqReg {q : ReqRegCall} (free : ∀ k, .inUse k ∉ held) :
    Moves Interferes (ReqReg q : DMProgram τ Unit) held held := by
  refine .bind .read fun all => .bind (moves_reqRegWalk free) fun walked => ?_
  cases walked with
  | none => exact .pure
  | some walked =>
      refine .bind (.onlyIf fun _ => ?_) fun _ => moves_send
      refine moves_visit free fun k s => .ite (fun _ => ?_) fun _ => .pure
      refine .bind (moves_setSlot fun a => ⟨rfl, rfl, rfl, .inl rfl⟩) fun _ => ?_
      exact .bind .read fun taskManager => .bind .require fun posted => moves_sendAll

theorem moves_publishModification {messageID : SDMMessageID} {action : Modification} {ref : Nat}
    (free : ∀ k, .inUse k ∉ held) :
    Moves Interferes (publishModification messageID action ref : DMProgram τ Unit) held held := by
  refine .bind .read fun count => .forEach fun j _ => ?_
  refine .bind .read fun node => .bind .require fun query => ?_
  match query with
  | none => exact .pure
  | some (.reqReg msg sender) => exact moves_ReqReg free
  | some (.search msg sender) => exact moves_send
  | some (.varReq msg sender) => exact moves_send

omit [XTEDS τ] in
theorem slotKept_quiesce {fullCancel : UInt8} (a : XTEDSLibrary τ) :
    SlotKept a (XTEDSLibraryList.quiesce fullCancel a) := by
  unfold XTEDSLibraryList.quiesce
  split <;> split <;> exact ⟨rfl, rfl, rfl, .inl rfl⟩

omit [XTEDS τ] in
theorem slotKept_release (a : XTEDSLibrary τ) : SlotKept a (XTEDSLibraryList.release a) := by
  unfold XTEDSLibraryList.release
  split
  · exact ⟨rfl, rfl, rfl, .inr rfl⟩
  · exact .refl a

theorem moves_cancelFound {fullCancel : UInt8} :
    Moves Interferes (cancelFound fullCancel k : DMProgram τ Unit) {.addLibrary} ∅ := by
  have free : ∀ k, Lock.inUse k ∉ ({.addLibrary} : Finset Lock) := by simp
  have last : Moves Interferes (unlock .addLibrary : DMProgram τ Unit) {.addLibrary} ∅ :=
    fun _ => by
    simp
  refine .bind (.lock (free k)) fun _ => .bind moves_slot fun found => ?_
  refine .bind (moves_setSlot slotKept_quiesce) fun _ => .bind (.unlock_insert (free k)) fun _ => ?_
  refine .bind .read fun elected => .bind (.onlyIf fun _ => ?_) fun _ => ?_
  · refine .bind (moves_publishModification free) fun _ => ?_
    exact .bind (.write fun _ => .ofSame rfl) fun _ => .write fun _ => .ofSame rfl
  · refine .bind (.write fun _ => .ofSame rfl) fun _ => .bind (.lock (free k)) fun _ => ?_
    refine .bind moves_slot fun now => .ite (fun _ => ?_) fun _ => ?_
    · exact .bind (.unlock_insert (free k)) fun _ => .bind moves_send fun _ => last
    · refine .bind (moves_setSlot slotKept_release) fun _ =>
        .bind (.unlock_insert (free k)) fun _ => ?_
      exact .bind moves_send fun _ => .bind (moves_PrintxTEDS free) fun _ => last

theorem moves_CancelxTEDS {msg : Option SDMCancelxTEDS} {sender : SDMComponentID} :
    Moves Interferes (CancelxTEDS msg sender : DMProgram τ Unit) ∅ ∅ := by
  have take : Moves Interferes (lock .addLibrary : DMProgram τ Unit) ∅ {.addLibrary} := fun _ => by
    simp
  have free : ∀ k, Lock.inUse k ∉ ({.addLibrary} : Finset Lock) := by simp
  cases msg with
  | none => exact moves_send
  | some msg =>
      refine .bind .read fun addressDM => .bind .read fun all => ?_
      refine moves_search free_empty ?_ fun k => ?_
      · refine .bind take fun _ => .bind moves_send fun _ =>
          .bind (moves_PrintxTEDS free) fun _ => ?_
        exact fun _ => by simp
      · refine .bind (.unlock_insert (free_empty k)) fun _ => .bind take fun _ => moves_cancelFound

end Documents

section Services

variable [XTEDSServices τ]

theorem moves_Command {msg : Option SDMCommand} :
    Moves Interferes (Command msg : DMProgram τ Unit) ∅ ∅ := by
  cases msg with
  | none => exact .pure
  | some msg =>
      refine moves_MatchSID free_empty .pure fun k => .bind moves_slot fun provider => ?_
      refine .bind .require fun tree => .ite (fun _ => .ite (fun _ => ?_) fun _ => ?_) fun _ => ?_
      · refine .ite (fun _ => ?_) fun _ => .ite (fun _ => ?_) fun _ => ?_
        · exact .bind (.write fun _ => .ofSame rfl) fun _ => .unlock_insert (free_empty k)
        · exact .bind (.write fun _ => .ofSame rfl) fun _ => .unlock_insert (free_empty k)
        · exact .unlock_insert (free_empty k)
      · exact .bind moves_send fun _ => .unlock_insert (free_empty k)
      · exact .unlock_insert (free_empty k)

theorem moves_forwardService {msg : SDMService} {sender : SDMComponentID}
    {replyID faultID : SDMMessageID} (free : ∀ k, .inUse k ∉ held) :
    Moves Interferes (forwardService k msg sender replyID faultID : DMProgram τ Unit)
      (insert (.inUse k) held) held := by
  refine .bind moves_slot fun provider => .bind .require fun tree => .ite (fun _ => ?_) fun _ => ?_
  · exact .bind moves_send fun _ => .unlock_insert (free k)
  · exact .unlock_insert (free k)

variable [XTEDS τ]

theorem moves_ServicePublish {stack : Memory} {requester : SDMComponentID} {sID : UInt32}
    {id : SDMMessageID} {seq_num : Int16} (free : ∀ k, .inUse k ∉ held) :
    Moves Interferes (ServicePublish stack requester sID id seq_num : DMProgram τ Unit)
      held held := by
  refine .bind .read fun source => .ite (fun _ => ?_) fun _ => moves_convert free
  exact .bind .read fun dropped => moves_send

theorem moves_Serreqst {msg : Option SDMSerreqst} {sender : SDMComponentID} {stack : Buffers} :
    Moves Interferes (Serreqst msg sender stack : DMProgram τ Unit) ∅ ∅ := by
  cases msg with
  | none => exact .pure
  | some msg =>
      refine .bind .read fun debug =>
        .bind (.onlyIf fun _ => moves_GetDeviceName free_empty) fun _ => ?_
      refine .ite (fun _ => .pure) fun _ => ?_
      refine moves_MatchSID free_empty .pure fun k => .bind moves_slot fun own => ?_
      refine .bind .require fun tree => .bind (.unlock_insert (free_empty k)) fun _ => ?_
      refine .ite (fun _ => moves_ServicePublish free_empty) fun _ => ?_
      exact .ite (fun _ => moves_ServicePublish free_empty) fun _ => .pure

/-- The error counters are published without a look at the slots. -/
theorem moves_ServicePublish_errors {stack : Memory} {requester : SDMComponentID} {sID : UInt32}
    {seq_num : Int16} :
    Moves Interferes (ServicePublish stack requester sID RPLY_ERRORS seq_num : DMProgram τ Unit)
      held held := by
  refine .bind .read fun source => .ite (fun _ => ?_) fun other => absurd rfl other
  exact .bind .read fun dropped => moves_send

end Services

/-! ### The three others -/

/-- The slots of hubs are at different addresses. -/
def DistinctHubs (l : XTEDSLibraryList τ) : Prop :=
  ∀ (j k : Nat) (a b : XTEDSLibrary τ), j ≠ k → l[j]? = some a → l[k]? = some b →
    a.hub = .DEVICE → b.hub = .DEVICE → a.id.address ≠ b.id.address

/-- What a call must meet in the registry to be balanced. -/
def Disciplined [XTEDSServices τ] : Call → XTEDSLibraryList τ → Prop
  | .tat (some msg), l => msg.destination.sensorID = 0 → DistinctHubs l
  | .backupConsume (some msg), l => ∀ (k : Nat) (a : XTEDSLibrary τ), l[k]? = some a →
      a.id.sensorID = msg.source.sensorID → a.xtedsTree = none ∧ a.id.sensorID ≠ DM_SENSOR_ID
  | .service (some msg) _ _, l => msg.source.sensorID = DM_SENSOR_ID →
      msg.command_id = SER_GET_ERRORS →
        ∀ (k : Nat) (a : XTEDSLibrary τ) (tree : τ), l[k]? = some a →
          a.id.sensorID = DM_SENSOR_ID → a.xtedsTree = some tree →
            XTEDSServices.getServiceDataMsgID tree msg.command_id = INVALID_MESSAGE_ID ∨
            XTEDSServices.getServiceDataMsgID tree msg.command_id = RPLY_ERRORS
  | _, _ => True

variable {s s' s₀ : Shared τ} {l : List Nat} {sentips : List UInt32} {a b : XTEDSLibrary τ}

/-- A slot as it is now, as it was before the others ran. -/
theorem Interferes.before (changed : Interferes s s') (at_k : s'.state.xTEDSList[k]? = some b) :
    ∃ a, s.state.xTEDSList[k]? = some a ∧ SlotKept a b := by
  obtain ⟨lt, -⟩ := List.getElem?_eq_some_iff.mp at_k
  rw [changed.length] at lt
  exact ⟨_, List.getElem?_eq_getElem lt, changed.kept k _ b (List.getElem?_eq_getElem lt) at_k⟩

theorem SlotKept.wasHub (kept : SlotKept a b) (now : b.hub = .DEVICE) : a.hub = .DEVICE := by
  rcases kept.hub with same | gone
  · exact same.symm.trans now
  · rw [gone] at now
    cases now

theorem balanced_tatToHubs {msg : SDMTat} (distinct : DistinctHubs s₀.state.xTEDSList)
    (nodup : l.Nodup) (since : Interferes s₀ s)
    (fresh : ∀ address ∈ sentips, ∀ k ∈ l, ∀ a, s₀.state.xTEDSList[k]? = some a →
      a.hub = .DEVICE → a.id.address ≠ address) :
    (tatToHubs msg l sentips).Balanced Interferes (fun _ held _ => held = ∅) ∅ s := by
  induction l generalizing s sentips with
  | nil => exact rfl
  | cons k rest ih =>
      have nodup' := (List.nodup_cons.mp nodup).2
      have later : ∀ address ∈ sentips, ∀ j ∈ rest, ∀ a, s₀.state.xTEDSList[j]? = some a →
          a.hub = .DEVICE → a.id.address ≠ address :=
        fun address sent j mem => fresh address sent j (List.mem_cons_of_mem k mem)
      rw [tatToHubs]
      simp only [balanced_bind, balanced_lock, balanced_slot]
      refine ⟨free_empty k, fun s₁ changed b at_k => ?_⟩
      have since₁ := since.trans changed
      obtain ⟨a, was, kept⟩ := since₁.before at_k
      split_ifs with hub repeated room
      · exact absurd kept.address.symm
          (fresh _ repeated k List.mem_cons_self a was (kept.wasHub hub))
      · simp only [balanced_bind, balanced_send, balanced_unlock, Finset.mem_insert_self, true_and,
          Finset.erase_insert (free_empty k)]
        refine fun s₂ changed₂ => ih nodup' ((since₁.trans changed₂).trans (.ofSame rfl)) ?_
        intro address sent j mem c at_j device
        rcases List.mem_append.mp sent with old | new
        · exact later address old j mem c at_j device
        · rw [List.mem_singleton.mp new, kept.address]
          exact distinct j k c a (fun same => (List.nodup_cons.mp nodup).1 (same ▸ mem)) at_j was
            device (kept.wasHub hub)
      · simp only [balanced_crash]
      · simp only [balanced_bind, balanced_unlock, Finset.mem_insert_self, true_and,
          Finset.erase_insert (free_empty k)]
        exact ih nodup' since₁ later

theorem balanced_TAT {msg : SDMTat}
    (ok : msg.destination.sensorID = 0 → DistinctHubs s.state.xTEDSList) :
    (TAT (some msg) : DMProgram τ Unit).Balanced Interferes (fun _ held _ => held = ∅) ∅ s := by
  rw [TAT, balanced_bind, balanced_nodes]
  intro s₁ changed
  split_ifs with all
  · exact balanced_tatToHubs (ok all) List.nodup_range changed
      fun _ sent => absurd sent List.not_mem_nil
  · refine moves_search free_empty ?_ (fun k => ?_) s₁
    · exact .pure
    refine .bind moves_slot fun s => .ite (fun _ => ?_) fun _ => ?_
    · exact .bind moves_send fun _ => .unlock_insert (free_empty k)
    · exact .unlock_insert (free_empty k)

section Conditional

variable [XTEDS τ]

theorem balanced_BackupConsume {msg : SDMConsume}
    (ok : ∀ (k : Nat) (a : XTEDSLibrary τ), s.state.xTEDSList[k]? = some a →
      a.id.sensorID = msg.source.sensorID → a.xtedsTree = none ∧ a.id.sensorID ≠ DM_SENSOR_ID) :
    (BackupConsume (some msg) : DMProgram τ Unit).Balanced Interferes
      (fun _ held _ => held = ∅) ∅ s := by
  simp only [BackupConsume, MatchSID, balanced_bind, balanced_nodes]
  refine fun s₁ changed => balanced_firstHeld (fun k _ => free_empty k) (fun _ _ => rfl) ?_
  intro s₂ changed₂ k _ b at_k passes
  obtain ⟨a, was, kept⟩ := (changed.trans changed₂).before at_k
  rw [hasSensorID, Bool.and_eq_true, beq_iff_eq] at passes
  obtain ⟨treeless, other⟩ := ok k a was (kept.sensorID.symm.trans passes.2)
  simp only [balanced_bind, balanced_unlock, balanced_slot, Finset.mem_insert_self, true_and,
    Finset.erase_insert (free_empty k)]
  intro s₃ changed₃ c at_k'
  have kept' := changed₃.kept k b c at_k at_k'
  have notOwn : c.id.sensorID ≠ DM_SENSOR_ID := by
    rw [kept'.sensorID, kept.sensorID]
    exact other
  have treeless' : c.xtedsTree = none := by
    rw [kept'.tree, kept.tree]
    exact treeless
  rw [if_neg notOwn]
  simp only [balanced_bind, balanced_require, treeless']
  exact fun tree has => by cases has

variable [XTEDSServices τ]

theorem balanced_Service {msg : SDMService} {sender : SDMComponentID} {stack : Buffers}
    (ok : Disciplined (.service (some msg) sender stack) s.state.xTEDSList) :
    (Service (some msg) sender stack : DMProgram τ Unit).Balanced Interferes
      (fun _ held _ => held = ∅) ∅ s := by
  simp only [Service, MatchSID, balanced_bind, balanced_nodes]
  refine fun s₁ changed => balanced_firstHeld (fun k _ => free_empty k) (fun _ _ => rfl) ?_
  intro s₂ changed₂ k _ b at_k passes
  simp only [balanced_bind, balanced_slot, balanced_require]
  intro s₃ changed₃ c at_k' tree has
  obtain ⟨a, was, kept⟩ := ((changed.trans changed₂).trans changed₃).before at_k'
  have kept' := changed₃.kept k b c at_k at_k'
  rw [hasSensorID, Bool.and_eq_true, beq_iff_eq] at passes
  split_ifs with invalid own asks errors
  · exact Moves.unlock_insert (free_empty k) s₃
  · exact Moves.bind (.unlock_insert (free_empty k))
      (fun _ => moves_ServicePublish free_empty) s₃
  · have addressed : msg.source.sensorID = DM_SENSOR_ID := by
      rw [← passes.2, ← kept'.sensorID]
      exact own
    have reply : XTEDSServices.getServiceDataMsgID tree msg.command_id = RPLY_ERRORS := by
      refine (ok addressed errors k a tree was ?_ ?_).resolve_left invalid
      · rw [← kept.sensorID]
        exact own
      · rw [← kept.tree]
        exact has
    rw [reply]
    exact Moves.bind moves_ServicePublish_errors (fun _ => moves_forwardService free_empty) s₃
  · exact Moves.unlock_insert (free_empty k) s₃
  · exact moves_forwardService free_empty s₃

/-- Every handler is balanced where it should be. -/
theorem balanced_handler {call : Call} (ok : Disciplined call s.state.xTEDSList) :
    (handler call : DMProgram τ Unit).Balanced Interferes (fun _ held _ => held = ∅) ∅ s := by
  cases call with
  | consume => exact moves_Consume s
  | cancel => exact moves_Cancel s
  | command => exact moves_Command s
  | service msg sender stack =>
      cases msg with
      | none => exact Moves.pure s
      | some msg => exact balanced_Service ok
  | serreqst => exact moves_Serreqst s
  | tat msg =>
      cases msg with
      | none => exact Moves.pure s
      | some msg => exact balanced_TAT ok
  | reqxTEDS => exact moves_ReqxTEDS s
  | subscribe => exact moves_Subscribe free_empty s
  | servicePublish => exact moves_ServicePublish free_empty s
  | cancelxTEDS => exact moves_CancelxTEDS s
  | backupConsume msg =>
      cases msg with
      | none => exact Moves.pure s
      | some msg => exact balanced_BackupConsume ok

end Conditional

/-! ### The conditions are needed -/

/-- A slot that is started, or cancelled. -/
def isolateSlot (kept : Bool) (a : XTEDSLibrary τ) : XTEDSLibrary τ :=
  if kept then { a with active := true }
  else { a with available := true, active := false, hub := .APPLICATION }

/-- The others cancel all slots but some, and start these. -/
def isolate (keep : Nat → Bool) (s : Shared τ) : Shared τ :=
  { s with state := { s.state with
    xTEDSList := s.state.xTEDSList.mapIdx fun k => isolateSlot (keep k) } }

variable {keep : Nat → Bool}

theorem isolate_kept (at_k : s.state.xTEDSList[k]? = some a) (kept : keep k = true) :
    (isolate keep s).state.xTEDSList[k]? = some { a with active := true } := by
  simp [isolate, isolateSlot, at_k, kept]

/-- A slot that was cancelled is free, inactive and no hub. -/
theorem isolate_cancelled (at_k : (isolate keep s).state.xTEDSList[k]? = some b)
    (cancelled : keep k = false) :
    b.available = true ∧ b.active = false ∧ b.hub = .APPLICATION := by
  simp only [isolate, isolateSlot, List.getElem?_mapIdx, Option.map_eq_some_iff, cancelled,
    Bool.false_eq_true, if_false] at at_k
  obtain ⟨a, -, rfl⟩ := at_k
  exact ⟨rfl, rfl, rfl⟩

theorem interferes_isolate : Interferes s (isolate keep s) where
  length := List.length_mapIdx
  kept k a b at_a at_b := by
    simp only [isolate, List.getElem?_mapIdx, at_a, Option.map_some, Option.some.injEq] at at_b
    subst at_b
    unfold isolateSlot
    split
    · exact ⟨rfl, rfl, rfl, .inl rfl⟩
    · exact ⟨rfl, rfl, rfl, .inr rfl⟩

/-- A balanced handler runs to its end when it runs alone in what the others have left. -/
theorem alone_isolate {p : DMProgram τ Unit} (keep : Nat → Bool)
    (balanced : p.Balanced Interferes (fun _ held _ => held = ∅) ∅ s) :
    p.Alone (endsWith fun _ held _ => held = ∅) ∅ (isolate keep s) :=
  (balanced.stable interferes_isolate fun _ _ _ _ empty _ => empty).alone

/-- With all slots but one cancelled, a search goes past the others. -/
theorem gonePast_isolate {test : XTEDSLibrary τ → Bool}
    (fails : ∀ b : XTEDSLibrary τ, b.available = true → b.active = false → test b = false)
    (new : ∀ j < k, .inUse j ∉ held) :
    GonePast test held (isolate (fun j => decide (j = k)) s) k := by
  refine fun j lt => ⟨new j lt, fun b at_j => ?_⟩
  obtain ⟨free, inactive, -⟩ := isolate_cancelled at_j (by simp [Nat.ne_of_lt lt])
  exact fails b free inactive

theorem hasSensorID_of_inactive {sID : UInt32} (inactive : b.active = false) :
    hasSensorID sID b = false := by
  rw [hasSensorID, inactive, Bool.false_and]

variable {endpost : Ending Lock Unit → Finset Lock → Shared τ → Prop}

/-- `TAT` goes past slots that are no hubs. -/
theorem alone_tatToHubs_append {msg : SDMTat} {pre : List Nat}
    (passed : ∀ j ∈ pre, ∃ b, s.state.xTEDSList[j]? = some b ∧ b.hub ≠ .DEVICE) :
    (tatToHubs msg (pre ++ l) sentips).Alone endpost ∅ s ↔
      (tatToHubs msg l sentips).Alone endpost ∅ s := by
  induction pre with
  | nil => rfl
  | cons j pre ih =>
      obtain ⟨b, at_j, other⟩ := passed j List.mem_cons_self
      rw [List.cons_append, tatToHubs]
      simp only [slot, alone_bind, alone_lock, if_neg (free_empty j), onwards_finished, alone_read,
        at_j, alone_require_some, if_neg other, alone_unlock, Finset.mem_insert_self, true_and,
        Finset.erase_insert (free_empty j)]
      exact ih fun i mem => passed i (List.mem_cons_of_mem j mem)

/-- The positions from `i` on, split at `k`. -/
theorem range'_split {i m : Nat} (low : i ≤ k) (high : k < i + m) :
    List.range' i m = List.range' i (k - i) ++ k :: List.range' (k + 1) (i + m - k - 1) := by
  obtain ⟨d, rfl⟩ := Nat.exists_eq_add_of_le low
  obtain ⟨r, rfl⟩ : ∃ r, m = d + (r + 1) := ⟨m - d - 1, by omega⟩
  have lead : i + d - i = d := by omega
  have tail : i + (d + (r + 1)) - (i + d) - 1 = r := by omega
  rw [lead, tail, ← List.range'_append_1, List.range'_succ]

theorem not_balanced_TAT {msg : SDMTat} (all : msg.destination.sensorID = 0)
    (shared : ¬ DistinctHubs s.state.xTEDSList) :
    ¬ (TAT (some msg) : DMProgram τ Unit).Balanced Interferes (fun _ held _ => held = ∅) ∅ s := by
  intro balanced
  obtain ⟨j, k, a, b, lt, at_j, at_k, hubA, hubB, same⟩ : ∃ (j k : Nat) (a b : XTEDSLibrary τ),
      j < k ∧ s.state.xTEDSList[j]? = some a ∧ s.state.xTEDSList[k]? = some b ∧
        a.hub = .DEVICE ∧ b.hub = .DEVICE ∧ a.id.address = b.id.address := by
    by_contra distinct
    refine shared fun j k a b differ at_j at_k hubA hubB same => distinct ?_
    rcases Nat.lt_or_gt_of_ne differ with less | more
    · exact ⟨j, k, a, b, less, at_j, at_k, hubA, hubB, same⟩
    · exact ⟨k, j, b, a, more, at_k, at_j, hubB, hubA, same.symm⟩
  let keep : Nat → Bool := fun i => decide (i = j) || decide (i = k)
  have alone := alone_isolate keep balanced
  have at_j' : (isolate keep s).state.xTEDSList[j]? = some { a with active := true } :=
    isolate_kept at_j (by simp [keep])
  have at_k' : (isolate keep s).state.xTEDSList[k]? = some { b with active := true } :=
    isolate_kept at_k (by simp [keep])
  obtain ⟨ltk, -⟩ := List.getElem?_eq_some_iff.mp at_k'
  have passed : ∀ i, i ≠ j → i ≠ k → i < (isolate keep s).state.xTEDSList.length →
      ∃ b, (isolate keep s).state.xTEDSList[i]? = some b ∧ b.hub ≠ .DEVICE := by
    intro i notJ notK lt
    have at_i := List.getElem?_eq_getElem lt
    refine ⟨_, at_i, fun hub => ?_⟩
    rw [(isolate_cancelled at_i (by simp [keep, notJ, notK])).2.2] at hub
    cases hub
  rw [TAT] at alone
  simp only [nodes, alone_bind, alone_read, onwards_finished, all, if_true,
    List.range_eq_range'] at alone
  -- to the first hub, which is sent to
  rw [range'_split (k := j) (Nat.zero_le j) (by omega), alone_tatToHubs_append] at alone
  · rw [tatToHubs] at alone
    simp only [slot, alone_bind, alone_lock, if_neg (free_empty j), onwards_finished, alone_read,
      at_j', alone_require_some, hubA, if_true, List.not_mem_nil, if_false, List.length_nil,
      (by decide : 0 < xsize), send, alone_write, alone_unlock, Finset.mem_insert_self, true_and,
      Finset.erase_insert (free_empty j), List.nil_append] at alone
    -- to the second, which is released twice
    rw [range'_split (k := k) lt (by omega), alone_tatToHubs_append] at alone
    · rw [tatToHubs] at alone
      simp only [slot, alone_bind, alone_lock, free_empty k, if_false, onwards_finished, alone_read,
        at_k', alone_require_some, hubB, if_true, ← same, List.mem_singleton, alone_unlock,
        Finset.mem_insert_self, true_and, Finset.erase_insert (free_empty k), false_and] at alone
    · intro i mem
      rw [List.mem_range'_1] at mem
      exact passed i (by omega) (by omega) (by omega)
  · intro i mem
    rw [List.mem_range'_1] at mem
    exact passed i (by omega) (by omega) (by omega)

section Conditional

variable [XTEDS τ]

theorem not_balanced_BackupConsume {msg : SDMConsume} (at_k : s.state.xTEDSList[k]? = some a)
    (named : a.id.sensorID = msg.source.sensorID)
    (reached : a.xtedsTree ≠ none ∨ a.id.sensorID = DM_SENSOR_ID) :
    ¬ (BackupConsume (some msg) : DMProgram τ Unit).Balanced Interferes
      (fun _ held _ => held = ∅) ∅ s := by
  intro balanced
  have alone := alone_isolate (fun j => decide (j = k)) balanced
  have at_k' : (isolate (fun j => decide (j = k)) s).state.xTEDSList[k]? =
      some { a with active := true } := isolate_kept at_k (by simp)
  simp only [BackupConsume, MatchSID, nodes, alone_bind, alone_read, onwards_finished] at alone
  rw [alone_search_found
    (gonePast_isolate (fun b _ inactive => hasSensorID_of_inactive inactive)
      fun j _ => free_empty j)
    (free_empty k) at_k' (by simp [hasSensorID, named])] at alone
  simp only [slot, alone_bind, alone_unlock, onwards_finished, alone_read, at_k',
    alone_require_some,
    Finset.mem_insert_self, true_and, Finset.erase_insert (free_empty k)] at alone
  by_cases own : a.id.sensorID = DM_SENSOR_ID
  · simp only [own, if_true, alone_bind, alone_unlock, free_empty k, false_and] at alone
  · obtain ⟨tree, has⟩ := Option.ne_none_iff_exists'.mp (reached.resolve_right own)
    simp only [own, if_false, alone_bind, has, alone_require_some, onwards_finished, setSlot,
      alone_write, alone_unlock, free_empty k, false_and] at alone

variable [XTEDSServices τ]

/-- No branch of `ServicePublish` stops at a slot that is free and inactive. -/
theorem conversion_fails {id : SDMMessageID} {requester : SDMComponentID} {sID : UInt32}
    (free : b.available = true) (inactive : b.active = false) :
    (conversion id requester sID).finds b = false := by
  unfold conversion
  split_ifs
  · exact hasSensorID_of_inactive inactive
  · exact hasSensorID_of_inactive inactive
  · exact hasSensorID_of_inactive inactive
  · exact hasSensorID_of_inactive inactive
  · simp [convertPid, free]

theorem not_balanced_Service {msg : SDMService} {sender : SDMComponentID} {stack : Buffers}
    {tree : τ}
    (addressed : msg.source.sensorID = DM_SENSOR_ID) (errors : msg.command_id = SER_GET_ERRORS)
    (at_k : s.state.xTEDSList[k]? = some a) (own : a.id.sensorID = DM_SENSOR_ID)
    (has : a.xtedsTree = some tree)
    (valid : XTEDSServices.getServiceDataMsgID tree msg.command_id ≠ INVALID_MESSAGE_ID)
    (other : XTEDSServices.getServiceDataMsgID tree msg.command_id ≠ RPLY_ERRORS) :
    ¬ (Service (some msg) sender stack : DMProgram τ Unit).Balanced Interferes
      (fun _ held _ => held = ∅) ∅ s := by
  intro balanced
  have alone := alone_isolate (fun j => decide (j = k)) balanced
  have at_k' : (isolate (fun j => decide (j = k)) s).state.xTEDSList[k]? =
      some { a with active := true } := isolate_kept at_k (by simp)
  obtain ⟨lt, -⟩ := List.getElem?_eq_some_iff.mp at_k'
  have silent : ¬ AsksAboutID msg.command_id := by
    rw [errors]
    decide
  simp only [Service, MatchSID, nodes, alone_bind, alone_read, onwards_finished] at alone
  rw [alone_search_found
    (gonePast_isolate (fun b _ inactive => hasSensorID_of_inactive inactive)
      fun j _ => free_empty j)
    (free_empty k) at_k' (by simp [hasSensorID, own, addressed])] at alone
  simp only [slot, alone_bind, onwards_finished, alone_read, at_k', alone_require_some, has, own,
    if_true, if_neg valid, if_neg silent, if_pos errors] at alone
  rw [ServicePublish] at alone
  simp only [alone_bind, alone_read, onwards_finished, if_neg other, convert, nodes] at alone
  -- the search of `ServicePublish` comes to the slot that `Service` has locked
  rw [alone_search_blocked (gonePast_isolate (fun b => conversion_fails) fun j before => ?_) lt
    (Finset.mem_insert_self _ _)] at alone
  · exact alone
  · simp [Nat.ne_of_lt before]

/-- **Which calls are balanced.** -/
theorem balanced_handler_iff {call : Call} :
    (handler call : DMProgram τ Unit).Balanced Interferes (fun _ held _ => held = ∅) ∅ s ↔
      Disciplined call s.state.xTEDSList := by
  refine ⟨fun balanced => ?_, balanced_handler⟩
  cases call with
  | tat msg =>
      cases msg with
      | none => trivial
      | some msg => exact fun all => by_contra fun not => not_balanced_TAT all not balanced
  | backupConsume msg =>
      cases msg with
      | none => trivial
      | some msg =>
          refine fun k a at_k named => ⟨?_, fun own => ?_⟩
          · exact by_contra fun has => not_balanced_BackupConsume at_k named (.inl has) balanced
          · exact not_balanced_BackupConsume at_k named (.inr own) balanced
  | service msg sender stack =>
      cases msg with
      | none => trivial
      | some msg =>
          refine fun addressed errors k a tree at_k own has =>
            or_iff_not_imp_left.mpr fun valid => ?_
          exact by_contra fun other =>
            not_balanced_Service addressed errors at_k own has valid other balanced
  | _ => trivial

/-! ### Runs -/

/-- No handler runs, and every semaphore has its permit. -/
def atRest (s : Shared τ) : Process (Shared τ) Lock := ⟨s, fun _ => Sem.new 1, []⟩

omit [XTEDS τ] [XTEDSServices τ] in
theorem sound_atRest : (atRest s).Sound Interferes where
  balanced _ mem := absurd mem List.not_mem_nil
  permit _ := rfl
  nonneg _ := Int.zero_le_ofNat 1

/-- Handlers are started when their calls meet what they must. -/
def StartsDisciplined (p : Process (Shared τ) Lock) (turn : Turn Call) : Prop :=
  ∀ call, turn = .start call → Disciplined call p.shared.state.xTEDSList

end Conditional

/-! ### Two runs -/

/-- Two devices behind one sensor manager. -/
def twoDevices : Shared NamedDocument :=
  let device (id : SDMComponentID) : XTEDSLibrary NamedDocument :=
    { (XTEDSLibrary.new : XTEDSLibrary NamedDocument) with
      available := false, active := true, hub := .DEVICE, id := id
      xtedsTree := some ⟨.ofString "Camera", []⟩ }
  { justStartedShared with
    state := { DMState.justStarted with
      xTEDSList := [device ⟨0x10002, 5, PORT_SM⟩, device ⟨0x20003, 5, PORT_SM⟩] } }

/-- A time for one of them. -/
def tatForOne : SDMTat := ⟨⟨0x20003, 1, PORT_DM⟩, 10, 0⟩

/-- A time for all sensor managers. -/
def tatForAll : SDMTat := ⟨⟨0, 1, PORT_DM⟩, 10, 0⟩

end Sdm
