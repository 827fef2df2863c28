import Sdm.XTEDS.Messages

/-!
Which message ids are taken for those of services (`isServiceIdValid`, `getServiceDataMsgID`).

A service is asked for by the id of the command message of a request, and answered under that of its
reply. The search goes through the wrappers of the tree, and asks a request whether it has the id at
all, whichever of its messages that belongs to.

* `GetDataID_of_mem`, `GetDataID_of_notMem`: what the search returns, when no id occurs twice.
* `isServiceIdValid_iff`: which ids are taken for those of services.
* `serves_iff`: exactly for which ids that is right.
-/

namespace Sdm.XTEDSItem

open Lib Document

/-- `ContainsMessage`. -/
def WrapperItem.ContainsMessage (MessageID : SDMMessageID) (w : WrapperItem) : Bool :=
  w.messages.any (·.interfaceMessageID = MessageID)

/-- The id that stands for none. -/
def noMessage : SDMMessageID := ⟨0, 0⟩

/-- `xTEDSWrapperList::GetDataID`. Only requests are asked. -/
def GetDataID (MessageID : SDMMessageID) : List WrapperItem → SDMMessageID
  | [] => noMessage
  | w :: rest =>
      match w with
      | .request _ d _ =>
          if w.ContainsMessage MessageID then d.interfaceMessageID else GetDataID MessageID rest
      | _ => GetDataID MessageID rest

/-- `getServiceDataMsgID`, which is `GetServiceDataID` of the tree. -/
def XTEDS.getServiceDataMsgID (x : XTEDS) (CommandID : SDMMessageID) : SDMMessageID :=
  GetDataID CommandID x.treeRoot.requests

/-- `isServiceIdValid`, which is `IsServiceIdValid` of the tree. -/
def XTEDS.isServiceIdValid (x : XTEDS) (RequestedId : SDMMessageID) : Bool :=
  x.getServiceDataMsgID RequestedId ≠ noMessage

/-! ### The search -/

section Search

variable {id : SDMMessageID} {l : List WrapperItem} {c : MessageItem} {d : DataItem}
  {f : Option MessageItem} {w : WrapperItem} {x : XTEDS}

/-- The ids of all messages of these wrappers. -/
def idsOf (l : List WrapperItem) : List SDMMessageID :=
  (l.flatMap WrapperItem.messages).map (·.interfaceMessageID)

theorem idsOf_cons (w : WrapperItem) (l : List WrapperItem) :
    idsOf (w :: l) = w.messages.map (·.interfaceMessageID) ++ idsOf l := by
  rw [idsOf, List.flatMap_cons, List.map_append, idsOf]

theorem ContainsMessage_iff : w.ContainsMessage id ↔
    id ∈ w.messages.map (·.interfaceMessageID) := by
  simp [WrapperItem.ContainsMessage]

theorem mem_idsOf (mem : w ∈ l) (contains : w.ContainsMessage id) : id ∈ idsOf l := by
  obtain ⟨m, isMessage, isId⟩ := List.mem_map.mp (ContainsMessage_iff.mp contains)
  exact List.mem_map.mpr ⟨m, List.mem_flatMap.mpr ⟨w, mem, isMessage⟩, isId⟩

/-- An id belongs to one wrapper. -/
theorem eq_of_contains {w' : WrapperItem} (distinct : (idsOf l).Nodup) (mem : w ∈ l) (mem' : w' ∈ l)
    (contains : w.ContainsMessage id) (contains' : w'.ContainsMessage id) : w = w' := by
  induction l with
  | nil => exact absurd mem List.not_mem_nil
  | cons first rest ih =>
      rw [idsOf_cons] at distinct
      obtain ⟨-, later, apart⟩ := List.nodup_append'.mp distinct
      rcases List.mem_cons.mp mem with rfl | inRest
      · rcases List.mem_cons.mp mem' with rfl | inRest'
        · rfl
        · exact (apart (ContainsMessage_iff.mp contains) (mem_idsOf inRest' contains')).elim
      · rcases List.mem_cons.mp mem' with rfl | inRest'
        · exact (apart (ContainsMessage_iff.mp contains') (mem_idsOf inRest contains)).elim
        · exact ih later inRest inRest'

/-- The messages of a wrapper have different ids. -/
theorem nodup_of_mem (distinct : (idsOf l).Nodup) (mem : w ∈ l) :
    (w.messages.map (·.interfaceMessageID)).Nodup := by
  rw [idsOf, List.map_flatMap] at distinct
  exact (List.nodup_flatMap.mp distinct).1 w mem

/-- **A request that has the id** answers with that of its reply. -/
theorem GetDataID_of_mem (distinct : (idsOf l).Nodup) (mem : .request c d f ∈ l)
    (contains : (WrapperItem.request c d f).ContainsMessage id) :
    GetDataID id l = d.interfaceMessageID := by
  induction l with
  | nil => exact absurd mem List.not_mem_nil
  | cons w rest ih =>
      have unique := fun contains' => eq_of_contains distinct (List.mem_cons_self (a := w)) mem
        contains' contains
      have later : w ≠ .request c d f → GetDataID id rest = d.interfaceMessageID := fun other => by
        rw [idsOf_cons] at distinct
        exact ih (List.nodup_append'.mp distinct).2.1
          ((List.mem_cons.mp mem).resolve_left fun same => other same.symm)
      cases w with
      | command c' f' => exact later nofun
      | notification d' f' => exact later nofun
      | request c' d' f' =>
          rw [GetDataID]
          split
          · rename_i here
            obtain ⟨-, rfl, -⟩ := WrapperItem.request.inj (unique here)
            rfl
          · rename_i none
            exact later fun same => none (same ▸ contains)

theorem GetDataID_of_notMem (none : ∀ c d f, .request c d f ∈ l →
    ¬ (WrapperItem.request c d f).ContainsMessage id) : GetDataID id l = noMessage := by
  induction l with
  | nil => rfl
  | cons w rest ih =>
      have next := ih fun c d f mem => none c d f (List.mem_cons_of_mem w mem)
      cases w with
      | command c' f' => exact next
      | notification d' f' => exact next
      | request c' d' f' =>
          rw [GetDataID, if_neg (none c' d' f' List.mem_cons_self)]
          exact next

/-- The ids of the requests are among those of the tree. -/
theorem nodup_requests (distinct : (x.treeRoot.messages.map (·.interfaceMessageID)).Nodup) :
    (idsOf x.treeRoot.requests).Nodup := by
  have whole : x.treeRoot.messages = (x.treeRoot.commands ++ x.treeRoot.notifications).flatMap
      WrapperItem.messages ++ x.treeRoot.requests.flatMap WrapperItem.messages :=
    List.flatMap_append
  rw [whole, List.map_append] at distinct
  exact (List.nodup_append'.mp distinct).2.1

/-- **Which ids are taken for those of services**: those of all messages of a request whose reply
has an id. -/
theorem isServiceIdValid_iff
    (distinct : (x.treeRoot.messages.map (·.interfaceMessageID)).Nodup) :
    x.isServiceIdValid id ↔ ∃ c d f, .request c d f ∈ x.treeRoot.requests ∧
      (WrapperItem.request c d f).ContainsMessage id ∧ d.interfaceMessageID ≠ noMessage := by
  have distinct := nodup_requests distinct
  rw [XTEDS.isServiceIdValid, decide_eq_true_iff, XTEDS.getServiceDataMsgID]
  constructor
  · intro valid
    by_contra none
    apply valid
    by_cases contained : ∃ c d f, .request c d f ∈ x.treeRoot.requests ∧
        (WrapperItem.request c d f).ContainsMessage id
    · obtain ⟨c, d, f, mem, contains⟩ := contained
      rw [GetDataID_of_mem distinct mem contains]
      by_contra answered
      exact none ⟨c, d, f, mem, contains, answered⟩
    · exact GetDataID_of_notMem fun c d f mem contains => contained ⟨c, d, f, mem, contains⟩
  · rintro ⟨c, d, f, mem, contains, answered⟩
    rwa [GetDataID_of_mem distinct mem contains]

end Search

/-! ### Services -/

/-- What is promised of an id: it is taken for that of a service exactly when it is that of the
command message of a request, and the answer is then the id of the reply of the request. -/
def XTEDS.Serves (x : XTEDS) (id : SDMMessageID) : Prop :=
  (x.isServiceIdValid id ↔
    ∃ c d f, .request c d f ∈ x.treeRoot.requests ∧ c.interfaceMessageID = id) ∧
  ∀ c d f, .request c d f ∈ x.treeRoot.requests → c.interfaceMessageID = id →
    x.getServiceDataMsgID id = d.interfaceMessageID

/-- The id is not that of a reply or a fault message of a request, and a request whose command has
it has a reply with an id. -/
structure XTEDS.CommandOnly (x : XTEDS) (id : SDMMessageID) : Prop where
  command : ∀ c d f, .request c d f ∈ x.treeRoot.requests → c.interfaceMessageID = id →
    d.interfaceMessageID ≠ noMessage
  others : ∀ c d f, .request c d f ∈ x.treeRoot.requests →
    (d.interfaceMessageID = id ∨ ∃ fault, f = some fault ∧ fault.interfaceMessageID = id) →
      d.interfaceMessageID = noMessage

section Serving

variable {id : SDMMessageID} {c : MessageItem} {d : DataItem} {f : Option MessageItem} {x : XTEDS}

theorem request_ContainsMessage_iff : (WrapperItem.request c d f).ContainsMessage id ↔
    c.interfaceMessageID = id ∨ d.interfaceMessageID = id ∨
      ∃ fault, f = some fault ∧ fault.interfaceMessageID = id := by
  simp [WrapperItem.ContainsMessage, WrapperItem.messages]

/-- The command of a request has another id than the reply and the fault message of any. -/
theorem request_apart {l : List WrapperItem} (distinct : (idsOf l).Nodup)
    (mem : .request c d f ∈ l) {c' : MessageItem} {d' : DataItem} {f' : Option MessageItem}
    (mem' : .request c' d' f' ∈ l) (command : c.interfaceMessageID = id) :
    ¬ (d'.interfaceMessageID = id ∨
      ∃ fault, f' = some fault ∧ fault.interfaceMessageID = id) := by
  intro other
  have same := eq_of_contains distinct mem mem' (request_ContainsMessage_iff.mpr (.inl command))
    (request_ContainsMessage_iff.mpr (.inr other))
  obtain ⟨rfl, rfl, rfl⟩ := WrapperItem.request.inj same
  apply (List.nodup_cons.mp (nodup_of_mem distinct mem)).1
  rcases other with reply | ⟨fault, rfl, isFault⟩
  · exact List.mem_cons.mpr (.inl (command.trans reply.symm))
  · exact List.mem_cons_of_mem _ (List.mem_cons.mpr (.inl (command.trans isFault.symm)))

end Serving

/-- **Ids of services**: for every document whose messages have different ids, exactly those ids are
taken as they should be that are `CommandOnly`. -/
theorem serves_iff (x : XTEDS)
    (distinct : (x.treeRoot.messages.map (·.interfaceMessageID)).Nodup) (id : SDMMessageID) :
    x.Serves id ↔ x.CommandOnly id := by
  have valid : x.isServiceIdValid id ↔ _ := isServiceIdValid_iff distinct
  have requests := nodup_requests distinct
  constructor
  · rintro ⟨commands, -⟩
    constructor
    · intro c d f mem command
      obtain ⟨c', d', f', mem', contains', answered⟩ :=
        valid.mp (commands.mpr ⟨c, d, f, mem, command⟩)
      have contains : (WrapperItem.request c d f).ContainsMessage id :=
        request_ContainsMessage_iff.mpr (.inl command)
      rwa [← GetDataID_of_mem requests mem contains, GetDataID_of_mem requests mem' contains']
    · intro c d f mem other
      by_contra answered
      have contains : (WrapperItem.request c d f).ContainsMessage id :=
        request_ContainsMessage_iff.mpr (.inr other)
      obtain ⟨c', d', f', mem', command⟩ :=
        commands.mp (valid.mpr ⟨c, d, f, mem, contains, answered⟩)
      exact request_apart requests mem' mem command other
  · rintro ⟨command, others⟩
    constructor
    · rw [valid]
      constructor
      · rintro ⟨c, d, f, mem, contains, answered⟩
        rcases request_ContainsMessage_iff.mp contains with isCommand | other
        · exact ⟨c, d, f, mem, isCommand⟩
        · exact absurd (others c d f mem other) answered
      · rintro ⟨c, d, f, mem, isCommand⟩
        exact ⟨c, d, f, mem, request_ContainsMessage_iff.mpr (.inl isCommand),
          command c d f mem isCommand⟩
    · intro c d f mem isCommand
      exact GetDataID_of_mem requests mem (request_ContainsMessage_iff.mpr (.inl isCommand))

/-- A document whose only interface has one request, with the command 1 and the reply 2. -/
def demoRequest : DocumentSyntax where
  encoding := none
  attributes := [(.name, .ofString "demo")]
  appDevice := .closed [(.name, .ofString "demo"), (.kind, .ofString "software")]
  interfaces :=
    [{ attributes := [(.name, .ofString "Demo"), (.id, .ofString "1")]
       elements := some
        { «variables» := []
          messages := [.request
            [{ attributes := [(.name, .ofString "c"), (.id, .ofString "1")]
               elements := none }]
            [{ attributes := [(.name, .ofString "m"), (.id, .ofString "2")]
               elements := ⟨[], []⟩ }] none] } }]

/-- The command message of `demoRequest`. -/
def demoCommand : MessageItem where
  name := some (.ofString "c")
  description := none
  qualifiers := []
  interfaceName := some (.ofString "Demo")
  interfaceMessageID := ⟨1, 1⟩
  vars := []

/-- What `Parse` makes of it. -/
def demoRequestTree : XTEDS where
  treeRoot := { requests := [.request demoCommand demoMessage none] }
  deviceName := some (.ofString "demo")
  componentKey := none
  spaUHub := none
  spaUPort := none

/-- The id of its command is that of a service. -/
theorem serves_demoRequest : demoRequestTree.Serves ⟨1, 1⟩ := by
  refine (serves_iff demoRequestTree (by decide) ⟨1, 1⟩).mpr ⟨?_, ?_⟩
  · intro c d f mem _
    obtain ⟨rfl, rfl, rfl⟩ := WrapperItem.request.inj (List.mem_singleton.mp mem)
    decide
  · intro c d f mem other
    obtain ⟨rfl, rfl, rfl⟩ := WrapperItem.request.inj (List.mem_singleton.mp mem)
    rcases other with reply | ⟨fault, isFault, -⟩
    · exact absurd reply (by decide)
    · cases isFault

/-- The id of a reply is taken for that of a service. -/
theorem not_serves : ¬ ∀ (d : DocumentSyntax) (x : XTEDS), Parse d = .ok x →
    (x.treeRoot.messages.map (·.interfaceMessageID)).Nodup → ∀ id, x.Serves id := by
  intro all
  obtain ⟨valid, -⟩ := all demoRequest demoRequestTree rfl (by decide) ⟨1, 2⟩
  obtain ⟨c, d, f, mem, command⟩ := valid.mp rfl
  obtain ⟨rfl, rfl, rfl⟩ := WrapperItem.request.inj (List.mem_singleton.mp mem)
  exact absurd command (by decide)

end Sdm.XTEDSItem
