import Sdm.XTEDS.Qualifiers

/-!
The messages of a document and what `RegInfo` finds of them.

A section of a wrapper may hold several messages, and the tree keeps the first. Ids are kept in
bytes. A definition is taken by the id it is for and by the messages that its text lists.

* `RegInfos_eq_some_iff`: which wrappers `RegInfo` asks, and what it joins.
* `wrappers_of_Parse`: the wrappers of an accepted document and those of its tree, one by one.
* `RegInfo_iff`: which messages are found with the ids of the document, and which ids are kept
  apart.
-/

namespace Sdm.XTEDSItem

open Lib Document Verdict

/-! ### `RegInfoMatch` -/

/-- The comparison with a name that is asked for, or with none. -/
def nameIs (pname name : Option CString) : Verdict :=
  match pname with
  | none => some true
  | some p => equals? name p

/-- `xTEDSVariable::RegInfoMatch`. -/
def VariableItem.RegInfoMatch (pname : Option CString) (qualifiers : List Pair)
    (interface : Option CString) (v : VariableItem) : Verdict :=
  both (nameIs pname v.name)
    (both (nameIs interface v.interfaceName) (matchesQualifier v.attributes qualifiers))

/-- `xTEDSVariableList::RegInfoMatch`. -/
def variablesMatch (pname : Option CString) (qualifiers : List Pair) (interface : Option CString)
    (list : List VariableItem) : Verdict :=
  list.foldr (fun v rest => either (v.RegInfoMatch pname qualifiers interface) rest) (some false)

/-- `RegInfoMatch` of `xTEDSCommandMsg` and `xTEDSDataMsg`, which compare these attributes. -/
def MessageItem.RegInfoMatch (attributes : List (CString × Option CString))
    (pname : Option CString) (qualifiers : List Pair) (interface : Option CString)
    (m : MessageItem) : Verdict :=
  both (nameIs interface m.interfaceName)
    (either (both (nameIs pname m.name) (matchesQualifier attributes qualifiers))
      (variablesMatch pname qualifiers interface m.vars))

/-- `xTEDSFaultMsg::RegInfoMatch`, which asks for the variables of another interface too. -/
def MessageItem.FaultRegInfoMatch (pname : Option CString) (qualifiers : List Pair)
    (interface : Option CString) (m : MessageItem) : Verdict :=
  either
    (both (nameIs pname m.name)
      (both (nameIs interface m.interfaceName) (matchesQualifier m.attributes qualifiers)))
    (variablesMatch pname qualifiers interface m.vars)

section

variable (printed : CString → CString) (pname : Option CString) (qualifiers : List Pair)
  (interface : Option CString)

/-- `RegInfoMatch` of a wrapper. -/
def WrapperItem.RegInfoMatch (w : WrapperItem) : Verdict :=
  let fault (f : Option MessageItem) : Verdict :=
    f.elim (some false) (·.FaultRegInfoMatch pname qualifiers interface)
  let command (c : MessageItem) : Verdict :=
    c.RegInfoMatch c.attributes pname qualifiers interface
  let data (d : DataItem) : Verdict :=
    d.toMessageItem.RegInfoMatch (d.attributes printed) pname qualifiers interface
  match w with
  | .command c f => either (command c) (fault f)
  | .notification d f => either (data d) (fault f)
  | .request c d f => either (data d) (either (command c) (fault f))

/-! ### `RegInfo` -/

/-- `MessageDef`: the message it is for, and the messages that its text lists. -/
structure MessageDef where
  interfaceMessageID : SDMMessageID
  messages : List (Option CString × SDMMessageID)
  deriving DecidableEq

/-- The id of the message instead, where it is the one that is asked for by name. -/
def overriding (ItemName : Option CString) (m : MessageItem) (id : SDMMessageID) :
    Option SDMMessageID :=
  match ItemName with
  | none => some id
  | some name => (equals? m.name name).map fun same => if same then m.interfaceMessageID else id

/-- The messages of a wrapper. -/
def WrapperItem.messages : WrapperItem → List MessageItem
  | command c f => c :: f.toList
  | notification d f => d.toMessageItem :: f.toList
  | request c d f => c :: d.toMessageItem :: f.toList

/-- What a definition lists of a message. -/
def MessageItem.entry (m : MessageItem) : Option CString × SDMMessageID :=
  (m.name, m.interfaceMessageID)

/-- `RegInfo` of a wrapper. A request joins the definition of its fault message to that of its
command and deletes it twice. -/
def WrapperItem.RegInfo (ItemName : Option CString) (w : WrapperItem) : Option MessageDef :=
  let fault (f : Option MessageItem) (id : SDMMessageID) : Option SDMMessageID :=
    f.elim (some id) (overriding ItemName · id)
  match w with
  | .command c f => (fault f c.interfaceMessageID).map (⟨·, w.messages.map MessageItem.entry⟩)
  | .notification d f =>
      (fault f d.interfaceMessageID).map (⟨·, w.messages.map MessageItem.entry⟩)
  | .request c d none =>
      (overriding ItemName d.toMessageItem c.interfaceMessageID).map
        (⟨·, w.messages.map MessageItem.entry⟩)
  | .request _ _ (some _) => none

/-- `xTEDSWrapperList::RegInfo`. The definitions are joined in order; a list without any is NULL. -/
def RegInfos : List WrapperItem → Option (List MessageDef)
  | [] => some []
  | w :: rest =>
      (w.RegInfoMatch printed pname qualifiers interface).bind fun found =>
        if found then (w.RegInfo pname).bind fun Def => (RegInfos rest).map (Def :: ·)
        else RegInfos rest

/-- `ExactRegInfo`. -/
def ItemTree.ExactRegInfo (root : ItemTree) : Option (List MessageDef) := do
  let commands ← RegInfos printed pname qualifiers interface root.commands
  let notifications ← RegInfos printed pname qualifiers interface root.notifications
  let requests ← RegInfos printed pname qualifiers interface root.requests
  return commands ++ notifications ++ requests

/-- `xTEDS::RegInfo`, with the qualifiers of the request. -/
def XTEDS.RegInfo (x : XTEDS) (Device : Option CString) : Option (List MessageDef) :=
  match Device with
  | none => x.treeRoot.ExactRegInfo printed pname qualifiers interface
  | some device =>
      (equals? x.deviceName device).bind fun same =>
        if same then x.treeRoot.ExactRegInfo printed pname qualifiers interface else some []

end

/-! ### A request by name -/

/-- The message or one of its variables has the name. -/
def MessageItem.Mentions (name : CString) (m : MessageItem) : Prop :=
  m.name = some name ∨ some name ∈ m.vars.map (·.name)

instance (name : CString) (m : MessageItem) : Decidable (m.Mentions name) :=
  inferInstanceAs (Decidable (_ ∨ _))

/-- The message and its variables have names. -/
def MessageItem.AllNamed (m : MessageItem) : Prop :=
  m.name.isSome ∧ ∀ v ∈ m.vars, v.name.isSome

namespace WrapperItem

def Mentions (name : CString) (w : WrapperItem) : Prop := ∃ m ∈ w.messages, m.Mentions name

instance (name : CString) (w : WrapperItem) : Decidable (w.Mentions name) :=
  inferInstanceAs (Decidable (∃ m ∈ w.messages, m.Mentions name))

def AllNamed (w : WrapperItem) : Prop := ∀ m ∈ w.messages, m.AllNamed

/-- A request with a fault message. -/
def FaultyRequest (w : WrapperItem) : Prop := ∃ c d f, w = request c d (some f)

end WrapperItem

section Named

variable {printed : CString → CString} {name : CString} {m : MessageItem} {w : WrapperItem}

theorem equals?_of_isSome {o : Option CString} (given : o.isSome) :
    equals? o name = some (decide (o = some name)) := by
  obtain ⟨s, rfl⟩ := Option.isSome_iff_exists.mp given
  simp [equals?]

theorem variablesMatch_eq {list : List VariableItem} (named : ∀ v ∈ list, v.name.isSome) :
    variablesMatch (some name) [] none list = some (decide (some name ∈ list.map (·.name))) := by
  induction list with
  | nil => rfl
  | cons v rest ih =>
      obtain ⟨first, others⟩ := List.forall_mem_cons.mp named
      have here : v.RegInfoMatch (some name) [] none = some (decide (v.name = some name)) := by
        simp only [VariableItem.RegInfoMatch, nameIs, equals?_of_isSome first]
        cases decide (v.name = some name) <;> rfl
      rw [variablesMatch, List.foldr_cons, here, ← variablesMatch, ih others, either_some]
      simp [eq_comm]

theorem MessageItem.AllNamed.RegInfoMatch_eq {attributes : List (CString × Option CString)}
    (named : m.AllNamed) :
    m.RegInfoMatch attributes (some name) [] none = some (decide (m.Mentions name)) := by
  simp only [MessageItem.RegInfoMatch, nameIs, equals?_of_isSome named.1, variablesMatch_eq named.2,
    matchesQualifier_nil, MessageItem.Mentions]
  by_cases h : m.name = some name <;> simp [h, both, either]

theorem MessageItem.AllNamed.FaultRegInfoMatch_eq (named : m.AllNamed) :
    m.FaultRegInfoMatch (some name) [] none = some (decide (m.Mentions name)) := by
  simp only [MessageItem.FaultRegInfoMatch, nameIs, equals?_of_isSome named.1,
    variablesMatch_eq named.2,
    matchesQualifier_nil, MessageItem.Mentions]
  by_cases h : m.name = some name <;> simp [h, both, either]

/-- A wrapper matches a name that one of its messages mentions. -/
theorem WrapperItem.RegInfoMatch_eq (named : w.AllNamed) :
    w.RegInfoMatch printed (some name) [] none = some (decide (w.Mentions name)) := by
  cases w with
  | command c f =>
      have hc := named c List.mem_cons_self
      cases f with
      | none => simp [RegInfoMatch, Mentions, messages, hc.RegInfoMatch_eq]
      | some f =>
          have hf : f.AllNamed := named f (by simp [messages])
          simp [RegInfoMatch, Mentions, messages, hc.RegInfoMatch_eq, hf.FaultRegInfoMatch_eq]
  | notification d f =>
      have hd := named d.toMessageItem List.mem_cons_self
      cases f with
      | none => simp [RegInfoMatch, Mentions, messages, hd.RegInfoMatch_eq]
      | some f =>
          have hf : f.AllNamed := named f (by simp [messages])
          simp [RegInfoMatch, Mentions, messages, hd.RegInfoMatch_eq, hf.FaultRegInfoMatch_eq]
  | request c d f =>
      have hc := named c List.mem_cons_self
      have hd : d.toMessageItem.AllNamed := named d.toMessageItem (by simp [messages])
      cases f with
      | none =>
          simp [RegInfoMatch, Mentions, messages, hc.RegInfoMatch_eq,
            hd.RegInfoMatch_eq, Bool.or_comm]
      | some f =>
          have hf : f.AllNamed := named f (by simp [messages])
          simp [RegInfoMatch, Mentions, messages, hc.RegInfoMatch_eq, hd.RegInfoMatch_eq,
            hf.FaultRegInfoMatch_eq, Bool.or_left_comm]

theorem overriding_eq {id : SDMMessageID} (named : m.name.isSome) :
    overriding (some name) m id =
      some (if m.name = some name then m.interfaceMessageID else id) := by
  simp [overriding, equals?_of_isSome named]

/-- A definition lists the messages of its wrapper and has the id of one with the name that is
asked for. -/
theorem WrapperItem.RegInfo_spec {Def : MessageDef} (named : w.AllNamed)
    (made : w.RegInfo (some name) = some Def) : Def.messages = w.messages.map MessageItem.entry ∧
      ((∃ m ∈ w.messages, m.name = some name) →
        ∃ m ∈ w.messages, m.name = some name ∧ Def.interfaceMessageID = m.interfaceMessageID) := by
  cases w with
  | command c f =>
      cases f with
      | none =>
          cases made
          exact ⟨rfl, by simp [messages]⟩
      | some f =>
          have hf : f.name.isSome := (named f (by simp [messages])).1
          simp only [RegInfo, Option.elim_some, overriding_eq hf, Option.map_some,
            Option.some.injEq] at made
          subst made
          by_cases isFault : f.name = some name <;> simp [messages, isFault]
  | notification d f =>
      cases f with
      | none =>
          cases made
          exact ⟨rfl, by simp [messages]⟩
      | some f =>
          have hf : f.name.isSome := (named f (by simp [messages])).1
          simp only [RegInfo, Option.elim_some, overriding_eq hf, Option.map_some,
            Option.some.injEq] at made
          subst made
          by_cases isFault : f.name = some name <;> simp [messages, isFault]
  | request c d f =>
      cases f with
      | none =>
          have hd : d.name.isSome := (named d.toMessageItem (by simp [messages])).1
          simp only [RegInfo, overriding_eq hd, Option.map_some, Option.some.injEq] at made
          subst made
          by_cases isReply : d.name = some name <;> simp [messages, isReply]
      | some f => cases made

theorem WrapperItem.isSome_RegInfo (name : CString) (named : w.AllNamed) :
    (w.RegInfo (some name)).isSome ↔ ¬ w.FaultyRequest := by
  cases w with
  | command c f =>
      cases f with
      | none => simp [RegInfo, FaultyRequest]
      | some f =>
          have hf : f.name.isSome := (named f (by simp [messages])).1
          simp [RegInfo, FaultyRequest, overriding_eq hf]
  | notification d f =>
      cases f with
      | none => simp [RegInfo, FaultyRequest]
      | some f =>
          have hf : f.name.isSome := (named f (by simp [messages])).1
          simp [RegInfo, FaultyRequest, overriding_eq hf]
  | request c d f =>
      cases f with
      | none =>
          have hd : d.name.isSome := (named d.toMessageItem (by simp [messages])).1
          simp [RegInfo, FaultyRequest, overriding_eq hd]
      | some f => simp [RegInfo, FaultyRequest]

/-- `RegInfo` asks the wrappers that mention the name, and fails where one of them is a request with
a fault message. -/
theorem RegInfos_eq_some_iff {l : List WrapperItem} (named : ∀ w ∈ l, w.AllNamed) :
    (RegInfos printed (some name) [] none l).isSome ↔
      ∀ w ∈ l, w.Mentions name → ¬ w.FaultyRequest := by
  induction l with
  | nil => simp [RegInfos]
  | cons w rest ih =>
      obtain ⟨first, others⟩ := List.forall_mem_cons.mp named
      rw [RegInfos, WrapperItem.RegInfoMatch_eq first, Option.bind_some, List.forall_mem_cons,
        ← ih others]
      by_cases mentions : w.Mentions name
      · have here := WrapperItem.isSome_RegInfo name first
        cases made : w.RegInfo (some name) with
        | none =>
            have faulty : w.FaultyRequest := by simpa [made] using here
            simp [mentions, faulty]
        | some Def =>
            have fine : ¬ w.FaultyRequest := by simpa [made] using here
            simp [mentions, fine]
      · simp [mentions]

/-- Its definitions are those of these wrappers. -/
theorem mem_RegInfos {l : List WrapperItem} {defs : List MessageDef} {Def : MessageDef}
    (named : ∀ w ∈ l, w.AllNamed) (made : RegInfos printed (some name) [] none l = some defs) :
    Def ∈ defs ↔ ∃ w ∈ l, w.Mentions name ∧ w.RegInfo (some name) = some Def := by
  induction l generalizing defs with
  | nil =>
      cases made
      simp
  | cons w rest ih =>
      obtain ⟨first, others⟩ := List.forall_mem_cons.mp named
      rw [RegInfos, WrapperItem.RegInfoMatch_eq first, Option.bind_some] at made
      by_cases mentions : w.Mentions name
      · simp only [mentions, decide_true, if_true] at made
        obtain ⟨D, madeW, made⟩ := Option.bind_eq_some_iff.mp made
        obtain ⟨ds, madeRest, rfl⟩ := Option.map_eq_some_iff.mp made
        simp [ih others madeRest, mentions, madeW, eq_comm]
      · simp only [mentions, decide_false, Bool.false_eq_true, if_false] at made
        simp [ih others made, mentions]

end Named

/-! ### The wrappers of a document -/

inductive WrapperKind where
  | command
  | notification
  | request
  deriving DecidableEq

/-- The wrappers of a kind in an interface. -/
def wrappersOf : WrapperKind → Interface → List Wrapper
  | .command, face => face.commands
  | .notification, face => face.notifications
  | .request, face => face.requests

/-- The wrappers of a kind in the tree. -/
def ItemTree.wrappers (root : ItemTree) : WrapperKind → List WrapperItem
  | .command => root.commands
  | .notification => root.notifications
  | .request => root.requests

/-- A wrapper with the interface it stands in. -/
structure Place where
  face : Interface
  kind : WrapperKind
  wrapper : Wrapper

/-- The wrappers of a kind in a document, in order. -/
def placesOf (parsed : Xteds) (kind : WrapperKind) : List Place :=
  parsed.interfaces.flatMap fun face => (wrappersOf kind face).map (⟨face, kind, ·⟩)

/-- The wrappers of a document. -/
def places (parsed : Xteds) : List Place :=
  placesOf parsed .command ++ placesOf parsed .notification ++ placesOf parsed .request

namespace Place

/-- The messages that stand in a wrapper, section by section. -/
def sections (p : Place) : List (List Element) :=
  let fault := p.wrapper.fault_message.toList.map .fault
  match p.kind with
  | .command => [p.wrapper.command_message.map .command, fault]
  | .notification => [p.wrapper.data_message.map .data, fault]
  | .request => [p.wrapper.command_message.map .command, p.wrapper.data_message.map .data, fault]

/-- The first message of every section. -/
def heads (p : Place) : List Element := p.sections.filterMap List.head?

/-- A request with a fault message. -/
def FaultyRequest (p : Place) : Prop := p.kind = .request ∧ p.wrapper.fault_message ≠ none

end Place

namespace Element

def name : Element → Option CString
  | var v => v.name
  | data m => m.name
  | command m | fault m => m.name

def id : Element → Option CString
  | var v => v.id
  | data m => m.id
  | command m | fault m => m.id

def interface_id : Element → Option CString
  | var v => v.interface_id
  | data m => m.interface_id
  | command m | fault m => m.interface_id

/-- The names of the variables that a message refers to. -/
def refs : Element → List CString
  | var _ => []
  | data m => m.var_refs
  | command m | fault m => m.var_refs

/-- The message of the tree has the name, the ids and the variables of the element. -/
def Describes (e : Element) (m : MessageItem) : Prop :=
  m.name = e.name ∧
    m.interfaceMessageID = ⟨byteOf interfaceByte e.interface_id, byteOf messageByte e.id⟩ ∧
    m.vars.map (·.name) = e.refs.map some

end Element

/-- What the tree has for a wrapper. -/
structure Makes (p : Place) (w : WrapperItem) : Prop where
  messages : List.Forall₂ Element.Describes p.heads w.messages
  verified : ∀ e ∈ p.heads, e.Verified
  faulty : w.FaultyRequest ↔ p.FaultyRequest

section Making

variable {list : List VariableItem} {w : Wrapper} {item : WrapperItem}

theorem name_of_Find {name : CString} {face : Option CString} {var : VariableItem}
    (found : Find name face list = some (some var)) : var.name = some name ∧ var ∈ list := by
  obtain ⟨at_k, isAt, same⟩ := Option.map_eq_some_iff.mp found
  obtain ⟨⟨k, v⟩, rfl, rfl⟩ := Option.map_eq_some_iff.mp same
  obtain ⟨a, atK, body, -⟩ := scan_eq_found_iff.mp isAt
  obtain ⟨here, isHere, same⟩ := Option.map_eq_some_iff.mp body
  cases here with
  | false => simp at same
  | true =>
      simp only [if_true, Option.some.injEq] at same
      subst same
      obtain ⟨named, isNamed, rest⟩ := Option.bind_eq_some_iff.mp isHere
      obtain ⟨n, hn, isName⟩ := Option.map_eq_some_iff.mp isNamed
      cases named with
      | false => simp at rest
      | true =>
          have same : n = name := by simpa using isName
          exact ⟨same ▸ hn, List.mem_of_getElem? atK⟩

theorem names_of_setVariables {msg face : Option CString} {refs : List CString}
    {vars : List VariableItem} (set : setVariables msg face refs list = .ok vars) :
    vars.map (·.name) = refs.map some := by
  refine (List.forall₂_eq_eq_eq ▸ List.forall₂_map_left_iff.mpr (List.forall₂_map_right_iff.mpr
    (List.Forall₂.flip ((Building.mapM_eq_ok_forall₂ set).imp fun ref var found => ?_))) :
      vars.map (·.name) = refs.map some)
  simp only [flip]
  split at found
  · cases found
  · cases found
    rename_i isVar
    exact (name_of_Find isVar).1
  · obtain ⟨-, -, absurd⟩ := Building.bind_eq_ok_iff.mp found
    cases absurd

theorem describes_plain {m : PlainMsg} {built : MessageItem}
    (set : SetPlainMsg m list = .ok built) :
    (Element.command m).Describes built ∧ (Element.fault m).Describes built := by
  obtain ⟨vars, setVars, made⟩ := Building.bind_eq_ok_iff.mp set
  cases made
  have names := names_of_setVariables setVars
  exact ⟨⟨rfl, rfl, names⟩, ⟨rfl, rfl, names⟩⟩

theorem describes_data {m : DataMsg} {built : DataItem} (set : SetDataMsg m list = .ok built) :
    (Element.data m).Describes built.toMessageItem := by
  obtain ⟨vars, setVars, made⟩ := Building.bind_eq_ok_iff.mp set
  cases made
  exact ⟨rfl, rfl, names_of_setVariables setVars⟩

theorem describes_fault {fault : Option PlainMsg} {built : Option MessageItem}
    (set : SetFault fault list = .ok built) :
    List.Forall₂ Element.Describes (fault.toList.map .fault) built.toList ∧
      (built = none ↔ fault = none) := by
  cases fault with
  | none =>
      cases set
      exact ⟨.nil, by simp⟩
  | some f =>
      obtain ⟨m, setF, rfl⟩ := Building.map_eq_ok_iff.mp set
      exact ⟨.cons (describes_plain setF).2 .nil, by simp⟩

theorem makes_command {face : Interface} (verified : WrapperVerified w true false)
    (set : SetCommand w list = .ok item) : Makes ⟨face, .command, w⟩ item := by
  obtain ⟨cmd, head, verifiedCmd⟩ := verified.command rfl
  simp only [SetCommand, required_of_head head, Building.bind_eq_ok_iff] at set
  obtain ⟨_, ⟨⟩, c, setC, f, setF, ⟨⟩⟩ := set
  obtain ⟨describesF, -⟩ := describes_fault setF
  have heads : Place.heads ⟨face, .command, w⟩ =
      .command cmd :: w.fault_message.toList.map .fault := by
    cases h : w.fault_message <;> simp [Place.heads, Place.sections, head, h]
  refine ⟨?_, ?_, by simp [WrapperItem.FaultyRequest, Place.FaultyRequest]⟩
  · rw [heads]
    exact .cons (describes_plain setC).1 describesF
  · rw [heads]
    exact List.forall_mem_cons.mpr ⟨verifiedCmd, by simpa [Element.Verified] using verified.fault⟩

theorem makes_notification {face : Interface} (verified : WrapperVerified w false true)
    (set : SetNotification w list = .ok item) : Makes ⟨face, .notification, w⟩ item := by
  obtain ⟨dat, head, verifiedDat⟩ := verified.data rfl
  simp only [SetNotification, required_of_head head, Building.bind_eq_ok_iff] at set
  obtain ⟨_, ⟨⟩, d, setD, f, setF, ⟨⟩⟩ := set
  obtain ⟨describesF, -⟩ := describes_fault setF
  have heads : Place.heads ⟨face, .notification, w⟩ =
      .data dat :: w.fault_message.toList.map .fault := by
    cases h : w.fault_message <;> simp [Place.heads, Place.sections, head, h]
  refine ⟨?_, ?_, by simp [WrapperItem.FaultyRequest, Place.FaultyRequest]⟩
  · rw [heads]
    exact .cons (describes_data setD) describesF
  · rw [heads]
    exact List.forall_mem_cons.mpr ⟨verifiedDat, by simpa [Element.Verified] using verified.fault⟩

theorem makes_request {face : Interface} (verified : WrapperVerified w true true)
    (set : SetRequest w list = .ok item) : Makes ⟨face, .request, w⟩ item := by
  obtain ⟨cmd, headC, verifiedCmd⟩ := verified.command rfl
  obtain ⟨dat, headD, verifiedDat⟩ := verified.data rfl
  simp only [SetRequest, required_of_head headC, required_of_head headD,
    Building.bind_eq_ok_iff] at set
  obtain ⟨_, ⟨⟩, _, ⟨⟩, c, setC, d, setD, f, setF, ⟨⟩⟩ := set
  obtain ⟨describesF, none_iff⟩ := describes_fault setF
  have heads : Place.heads ⟨face, .request, w⟩ =
      .command cmd :: .data dat :: w.fault_message.toList.map .fault := by
    cases h : w.fault_message <;> simp [Place.heads, Place.sections, headC, headD, h]
  refine ⟨?_, ?_, ?_⟩
  · rw [heads]
    exact .cons (describes_plain setC).1 (.cons (describes_data setD) describesF)
  · rw [heads]
    exact List.forall_mem_cons.mpr ⟨verifiedCmd, List.forall_mem_cons.mpr
      ⟨verifiedDat, by simpa [Element.Verified] using verified.fault⟩⟩
  · simp only [WrapperItem.FaultyRequest, Place.FaultyRequest, true_and, ne_eq, ← none_iff]
    cases f <;> simp

end Making

section Run

variable {root root' : ItemTree} {kind : WrapperKind} {face : Interface}
  {g : ItemTree → Wrapper → Building ItemTree} {ws : List Wrapper}

/-- Wrappers of a kind are added one by one. -/
theorem wrappers_of_run (kind : WrapperKind) (face : Interface)
    (own : ∀ r w r', g r w = .ok r' →
      ∃ item, r'.wrappers kind = r.wrappers kind ++ [item] ∧ Makes ⟨face, kind, w⟩ item)
    (run : ws.foldlM g root = .ok root') : ∃ added,
      root'.wrappers kind = root.wrappers kind ++ added ∧
        List.Forall₂ Makes (ws.map (⟨face, kind, ·⟩)) added := by
  have collected := Building.foldlM_collect (R := Makes) (m := (·.wrappers kind))
    (fun r w r' _ step => by
      obtain ⟨item, eq, makes⟩ := own r w r' step
      exact ⟨[item], eq, .cons makes .nil⟩ : ∀ r w r', w ∈ ws → g r w = .ok r' →
        ∃ added, r'.wrappers kind = r.wrappers kind ++ added ∧
          List.Forall₂ Makes [⟨face, kind, w⟩] added) run
  rwa [List.map_eq_flatMap]

/-- The wrappers of other kinds stay. -/
theorem wrappers_of_other (keeps : ∀ r w r', g r w = .ok r' → r'.wrappers kind = r.wrappers kind)
    (run : ws.foldlM g root = .ok root') : root'.wrappers kind = root.wrappers kind :=
  Building.foldlM_induct (P := fun r => r.wrappers kind = root.wrappers kind) rfl
    (fun r w r' _ same step => (keeps r w r' step).trans same) run

theorem wrappers_addVariables (kind : WrapperKind) {vars : List Variable}
    (run : vars.foldlM addVariable root = .ok root') :
    root'.wrappers kind = root.wrappers kind :=
  Building.foldlM_induct (P := fun r => r.wrappers kind = root.wrappers kind) rfl
    (fun r v r' _ same step => by
      obtain ⟨-, rfl⟩ := addVariable_eq_ok_iff.mp step
      cases kind <;> exact same) run

/-- An interface adds what stands in it, for every kind of wrapper. -/
theorem wrappers_addInterface (kind : WrapperKind)
    (added : addInterface root face = .ok root') : ∃ new,
    root'.wrappers kind = root.wrappers kind ++ new ∧
      List.Forall₂ Makes ((wrappersOf kind face).map (⟨face, kind, ·⟩)) new := by
  obtain ⟨-, r₁, run₁, r₂, run₂, r₃, run₃, run₄⟩ := addInterface_eq_ok_iff.mp added
  have same₁ := wrappers_addVariables kind run₁
  have others₂ : kind ≠ .command → r₂.wrappers kind = r₁.wrappers kind := fun other =>
    wrappers_of_other (fun r w r' step => by
      obtain ⟨-, item, -, rfl⟩ := addCommand_eq_ok_iff.mp step
      cases kind <;> first | rfl | exact absurd rfl other) run₂
  have others₃ : kind ≠ .notification → r₃.wrappers kind = r₂.wrappers kind := fun other =>
    wrappers_of_other (fun r w r' step => by
      obtain ⟨-, item, -, rfl⟩ := addNotification_eq_ok_iff.mp step
      cases kind <;> first | rfl | exact absurd rfl other) run₃
  have others₄ : kind ≠ .request → root'.wrappers kind = r₃.wrappers kind := fun other =>
    wrappers_of_other (fun r w r' step => by
      obtain ⟨-, item, -, rfl⟩ := addRequest_eq_ok_iff.mp step
      cases kind <;> first | rfl | exact absurd rfl other) run₄
  cases kind with
  | command =>
      obtain ⟨new, eq, makes⟩ := wrappers_of_run .command face
        (fun r w r' step => by
          obtain ⟨verified, item, set, rfl⟩ := addCommand_eq_ok_iff.mp step
          exact ⟨item, rfl, makes_command verified set⟩) run₂
      exact ⟨new, by rw [others₄ nofun, others₃ nofun, eq, same₁], makes⟩
  | notification =>
      obtain ⟨new, eq, makes⟩ := wrappers_of_run .notification face
        (fun r w r' step => by
          obtain ⟨verified, item, set, rfl⟩ := addNotification_eq_ok_iff.mp step
          exact ⟨item, rfl, makes_notification verified set⟩) run₃
      exact ⟨new, by rw [others₄ nofun, eq, others₂ nofun, same₁], makes⟩
  | request =>
      obtain ⟨new, eq, makes⟩ := wrappers_of_run .request face
        (fun r w r' step => by
          obtain ⟨verified, item, set, rfl⟩ := addRequest_eq_ok_iff.mp step
          exact ⟨item, rfl, makes_request verified set⟩) run₄
      exact ⟨new, by rw [eq, others₃ nofun, others₂ nofun, same₁], makes⟩

/-- The wrappers of the tree. -/
def ItemTree.allWrappers (root : ItemTree) : List WrapperItem :=
  root.commands ++ root.notifications ++ root.requests

/-- **The tree has one wrapper for each wrapper of an accepted document**, in order. -/
theorem wrappers_of_Parse {d : DocumentSyntax} {x : XTEDS} (accepted : Parse d = .ok x) :
    ∃ parsed, d.xTEDS = some parsed ∧
      List.Forall₂ Makes (places parsed) x.treeRoot.allWrappers := by
  obtain ⟨parsed, isParsed, -, built⟩ := Parse_eq_ok_iff.mp accepted
  obtain ⟨header, -, -, -, -, root, run, rfl⟩ := build_eq_ok_iff.mp built
  obtain ⟨parsed', made, same⟩ := Option.map_eq_some_iff.mp isParsed
  have isTree : d.xTEDS = some parsed := by
    rw [made]
    revert same
    cases d.encodingKnown <;> simp
  have each : ∀ kind, List.Forall₂ Makes (placesOf parsed kind) (root.wrappers kind) := by
    intro kind
    obtain ⟨new, eq, makes⟩ := Building.foldlM_collect (m := (·.wrappers kind))
      (fun r face r' _ step => wrappers_addInterface kind step) run
    have empty : ItemTree.wrappers {} kind = [] := by cases kind <;> rfl
    rwa [eq, empty, List.nil_append]
  exact ⟨parsed, isTree, List.rel_append (List.rel_append (each .command) (each .notification))
    (each .request)⟩

end Run

/-! ### The ids of an interface -/

section Ids

/-- The first message of a section is a command, a data or a fault message. -/
theorem of_mem_heads {p : Place} {e : Element} (mem : e ∈ p.heads) :
    (∃ cmd, p.wrapper.command_message.head? = some cmd ∧ e = .command cmd) ∨
      (∃ dat, p.wrapper.data_message.head? = some dat ∧ e = .data dat) ∨
      ∃ f, p.wrapper.fault_message = some f ∧ e = .fault f := by
  obtain ⟨s, isSection, head⟩ := List.mem_filterMap.mp mem
  have sorts : s = p.wrapper.command_message.map .command ∨
      s = p.wrapper.data_message.map .data ∨ s = p.wrapper.fault_message.toList.map .fault := by
    obtain ⟨face, kind, w⟩ := p
    cases kind <;> simp [Place.sections] at isSection <;> tauto
  rcases sorts with rfl | rfl | rfl
  · exact .inl (by simpa [eq_comm] using head)
  · exact .inr (.inl (by simpa [eq_comm] using head))
  · exact .inr (.inr (by simpa [eq_comm] using head))

theorem interface_id_of_addReferences {name id : Option CString} {w w' : Wrapper}
    {face : Interface} {kind : WrapperKind} (added : w.addReferences name id = some w') :
    ∀ e ∈ Place.heads ⟨face, kind, w'⟩, e.interface_id = id := by
  obtain ⟨fault, references, rfl⟩ := Option.map_eq_some_iff.mp added
  intro e mem
  rcases of_mem_heads mem with ⟨cmd, head, rfl⟩ | ⟨dat, head, rfl⟩ | ⟨f, isFault, rfl⟩
  · obtain ⟨cmd, -, rfl⟩ := Option.map_eq_some_iff.mp (List.head?_modifyHead .. ▸ head)
    rfl
  · obtain ⟨dat, -, rfl⟩ := Option.map_eq_some_iff.mp (List.head?_modifyHead .. ▸ head)
    rfl
  · simp only at isFault
    subst isFault
    unfold PlainMsg.faultReferences at references
    split at references
    · cases references
    · split at references
      · cases references
      · cases references
        rfl

/-- The first messages of an interface have its id. -/
theorem interface_id_of_build {i : InterfaceSyntax} {face : Interface} {kind : WrapperKind}
    {w : Wrapper} (built : i.build = some face) (mem : w ∈ wrappersOf kind face) :
    ∀ e ∈ Place.heads ⟨face, kind, w⟩, e.interface_id = face.id := by
  unfold InterfaceSyntax.build at built
  split at built
  · cases built
    obtain ⟨-, commands, notifications, requests⟩ := i.head_wrappers
    cases kind with
    | command => simp [wrappersOf, commands] at mem
    | notification => simp [wrappersOf, notifications] at mem
    | request => simp [wrappersOf, requests] at mem
  · simp only [interface_add_references, Option.bind_eq_bind, Option.bind_eq_some_iff,
      Option.pure_def, Option.some.injEq] at built
    obtain ⟨commands, madeC, notifications, madeN, requests, madeR, rfl⟩ := built
    cases kind with
    | command =>
        obtain ⟨w₀, -, added⟩ := Building.exists_of_mapM madeC w mem
        exact interface_id_of_addReferences added
    | notification =>
        obtain ⟨w₀, -, added⟩ := Building.exists_of_mapM madeN w mem
        exact interface_id_of_addReferences added
    | request =>
        obtain ⟨w₀, -, added⟩ := Building.exists_of_mapM madeR w mem
        exact interface_id_of_addReferences added

theorem interface_id_of_places {d : DocumentSyntax} {parsed : Xteds}
    (made : d.xTEDS = some parsed) :
    ∀ p ∈ places parsed, ∀ e ∈ p.heads, e.interface_id = p.face.id := by
  have ofKind : ∀ kind, ∀ p ∈ placesOf parsed kind, ∀ e ∈ p.heads, e.interface_id = p.face.id := by
    intro kind p mem
    obtain ⟨face, isFace, mem⟩ := List.mem_flatMap.mp mem
    obtain ⟨w, isWrapper, rfl⟩ := List.mem_map.mp mem
    obtain ⟨interfaces, faces, same⟩ := Option.bind_eq_some_iff.mp made
    cases same
    obtain ⟨i, -, built⟩ := Building.exists_of_mapM faces face isFace
    exact interface_id_of_build built isWrapper
  intro p mem
  simp only [places, List.mem_append] at mem
  rcases mem with (mem | mem) | mem <;> exact ofKind _ p mem

end Ids

/-! ### What is found -/

/-- A message in its wrapper, as the first of its section or a later one. -/
structure Placed where
  place : Place
  element : Element
  first : Bool

namespace Placed

/-- The id in the document. -/
def id (m : Placed) : Option Int := m.element.id.map toInt

/-- The id of its interface in the document. -/
def interfaceID (m : Placed) : Option Int := m.place.face.id.map toInt

end Placed

/-- The messages of a section. -/
def placedIn (p : Place) : List Element → List Placed
  | [] => []
  | e :: rest => ⟨p, e, true⟩ :: rest.map (⟨p, ·, false⟩)

/-- The messages of a document. -/
def messages (parsed : Xteds) : List Placed :=
  (places parsed).flatMap fun p => p.sections.flatMap (placedIn p)

/-- The messages that the tree keeps. -/
def keptMessages (parsed : Xteds) : List Placed :=
  (places parsed).flatMap fun p => p.heads.map (⟨p, ·, true⟩)

/-- The messages of the tree, in the same order. -/
def ItemTree.messages (root : ItemTree) : List MessageItem :=
  root.allWrappers.flatMap WrapperItem.messages

/-- No other message of the document has the name. -/
def OnlyNamed (parsed : Xteds) (m : Placed) (name : CString) : Prop :=
  m.element.name = some name ∧ ∀ m' ∈ messages parsed, m'.element.name = some name → m' = m

/-- `RegInfo` of the name finds a definition that lists the message with the ids of the document. -/
def Found (printed : CString → CString) (x : XTEDS) (m : Placed) (name : CString) : Prop :=
  ∃ defs, x.RegInfo printed (some name) [] none none = some defs ∧
    ∃ Def ∈ defs, (some name, Def.interfaceMessageID) ∈ Def.messages ∧
      m.interfaceID = some (Def.interfaceMessageID.interface.toNat : Int) ∧
      m.id = some (Def.interfaceMessageID.message.toNat : Int)

/-- The message is the first of its section, its ids fit, and no request with a fault message
mentions the name. -/
structure Kept (parsed : Xteds) (m : Placed) (name : CString) : Prop where
  first : m.first
  interfaceID : ∀ i, m.interfaceID = some i → 0 ≤ i ∧ i < 255
  id : ∀ i, m.id = some i → 0 ≤ i ∧ i < 256
  requests : ∀ p ∈ places parsed, p.FaultyRequest → ∀ e ∈ p.heads,
    e.name ≠ some name ∧ name ∉ e.refs

/-- Two numbers differ and one of them is kept. -/
def ApartBelow (bound : Int) (a b : Option Int) : Prop :=
  a ≠ b ∧ ((∃ i, a = some i ∧ 0 < i ∧ i < bound) ∨ ∃ i, b = some i ∧ 0 < i ∧ i < bound)

section Finding

variable {printed : CString → CString} {name : CString} {p : Place} {w : WrapperItem}
  {root : ItemTree} {parsed : Xteds}

theorem mem_placedIn {l : List Element} {m : Placed} (mem : m ∈ placedIn p l) :
    m.place = p ∧ (m.first → l.head? = some m.element) := by
  cases l with
  | nil => cases mem
  | cons e rest =>
      rcases List.mem_cons.mp mem with rfl | mem
      · exact ⟨rfl, fun _ => rfl⟩
      · obtain ⟨e', -, rfl⟩ := List.mem_map.mp mem
        exact ⟨rfl, nofun⟩

theorem place_of_mem {m : Placed} (mem : m ∈ messages parsed) :
    m.place ∈ places parsed ∧ (m.first → m.element ∈ m.place.heads) := by
  obtain ⟨p, isPlace, mem⟩ := List.mem_flatMap.mp mem
  obtain ⟨s, isSection, mem⟩ := List.mem_flatMap.mp mem
  obtain ⟨rfl, head⟩ := mem_placedIn mem
  exact ⟨isPlace, fun first => List.mem_filterMap.mpr ⟨s, isSection, head first⟩⟩

theorem mem_messages_of_heads {e : Element} (isPlace : p ∈ places parsed) (mem : e ∈ p.heads) :
    (⟨p, e, true⟩ : Placed) ∈ messages parsed := by
  obtain ⟨s, isSection, head⟩ := List.mem_filterMap.mp mem
  obtain ⟨rest, rfl⟩ : ∃ rest, s = e :: rest := ⟨s.tail, (List.cons_head?_tail head).symm⟩
  exact List.mem_flatMap.mpr ⟨p, isPlace, List.mem_flatMap.mpr ⟨_, isSection, List.mem_cons_self⟩⟩

theorem name_isSome_of_verified {e : Element} (verified : e.Verified) : e.name.isSome := by
  cases e with
  | var v => exact XTEDSVerification.VariableVerified.name verified
  | command c => exact XTEDSVerification.PlainVerified.name verified
  | data c => exact XTEDSVerification.DataVerified.name verified
  | fault c => exact XTEDSVerification.PlainVerified.name verified

theorem Makes.allNamed (makes : Makes p w) : w.AllNamed := by
  intro m mem
  obtain ⟨e, isHead, describes⟩ := Building.exists_of_forall₂ makes.messages.flip m mem
  refine ⟨describes.1 ▸ name_isSome_of_verified (makes.verified e isHead), fun v isVar => ?_⟩
  have isName : v.name ∈ e.refs.map some := describes.2.2 ▸ List.mem_map_of_mem isVar
  obtain ⟨ref, -, same⟩ := List.mem_map.mp isName
  exact same ▸ rfl

theorem Element.Describes.mentions_iff {e : Element} {m : MessageItem} (describes : e.Describes m) :
    m.Mentions name ↔ e.name = some name ∨ name ∈ e.refs := by
  simp [MessageItem.Mentions, describes.1, describes.2.2]

theorem Makes.mentions_iff (makes : Makes p w) :
    w.Mentions name ↔ ∃ e ∈ p.heads, e.name = some name ∨ name ∈ e.refs := by
  constructor
  · rintro ⟨m, mem, mentions⟩
    obtain ⟨e, isHead, describes⟩ := Building.exists_of_forall₂ makes.messages.flip m mem
    exact ⟨e, isHead, (Element.Describes.mentions_iff describes).mp mentions⟩
  · rintro ⟨e, isHead, mentions⟩
    obtain ⟨m, mem, describes⟩ := Building.exists_of_forall₂ makes.messages e isHead
    exact ⟨m, mem, (Element.Describes.mentions_iff describes).mpr mentions⟩

theorem RegInfos_append (qualifiers : List Pair) (pname face : Option CString)
    (l l' : List WrapperItem) :
    RegInfos printed pname qualifiers face (l ++ l') =
      (RegInfos printed pname qualifiers face l).bind fun defs =>
        (RegInfos printed pname qualifiers face l').map (defs ++ ·) := by
  induction l with
  | nil => simp [RegInfos]
  | cons w rest ih =>
      simp only [List.cons_append, RegInfos, ih]
      cases w.RegInfoMatch printed pname qualifiers face with
      | none => rfl
      | some found =>
          cases found with
          | false => simp
          | true =>
              cases w.RegInfo pname with
              | none => rfl
              | some Def => simp [Option.bind_map, Function.comp_def]

/-- `ExactRegInfo` asks all wrappers. -/
theorem ExactRegInfo_eq (qualifiers : List Pair) (pname face : Option CString) :
    root.ExactRegInfo printed pname qualifiers face =
      RegInfos printed pname qualifiers face root.allWrappers := by
  simp only [ItemTree.ExactRegInfo, ItemTree.allWrappers, RegInfos_append]
  cases RegInfos printed pname qualifiers face root.commands with
  | none => rfl
  | some commands =>
      cases RegInfos printed pname qualifiers face root.notifications with
      | none => rfl
      | some notifications =>
          cases RegInfos printed pname qualifiers face root.requests <;> simp

theorem XTEDS.RegInfo_name (x : XTEDS) : x.RegInfo printed (some name) [] none none =
    RegInfos printed (some name) [] none x.treeRoot.allWrappers := ExactRegInfo_eq ..

/-- When the wrappers are answered at all. -/
theorem isSome_RegInfos_iff {ps : List Place} {ws : List WrapperItem}
    (made : List.Forall₂ Makes ps ws) :
    (RegInfos printed (some name) [] none ws).isSome ↔
      ∀ p ∈ ps, p.FaultyRequest → ∀ e ∈ p.heads, e.name ≠ some name ∧ name ∉ e.refs := by
  have named : ∀ w ∈ ws, w.AllNamed := fun w mem => by
    obtain ⟨p, -, makes⟩ := Building.exists_of_forall₂ made.flip w mem
    exact Makes.allNamed makes
  rw [RegInfos_eq_some_iff named]
  constructor
  · intro fine p mem faulty e isHead
    obtain ⟨w, isWrapper, makes⟩ := Building.exists_of_forall₂ made p mem
    rw [← not_or]
    exact fun mentions => fine w isWrapper (makes.mentions_iff.mpr ⟨e, isHead, mentions⟩)
      (makes.faulty.mpr faulty)
  · intro fine w isWrapper mentions faulty
    obtain ⟨p, mem, makes⟩ := Building.exists_of_forall₂ made.flip w isWrapper
    obtain ⟨e, isHead, mentions⟩ := makes.mentions_iff.mp mentions
    exact not_or.mpr (fine p mem (makes.faulty.mp faulty) e isHead) mentions

end Finding

section Bytes

theorem interfaceByte_toNat (i : Int) :
    ((interfaceByte i).toNat : Int) = if 0 ≤ i ∧ i < 255 then i else 0 := by
  unfold interfaceByte
  by_cases fits : 0 < i ∧ i < 255
  · rw [if_pos fits, if_pos ⟨fits.1.le, fits.2⟩]
    rw [UInt8.ofInt, UInt8.toNat_ofNat_of_lt' (by simp [UInt8.size]; omega)]
    omega
  · rw [if_neg fits]
    split
    · have zero : i = 0 := by omega
      rw [zero]
      rfl
    · rfl

/-- A byte that has the numbers below a bound, and zero for the others, tells two numbers apart
where one of them is among these. -/
theorem byteOf_ne_iff {byte : Int → UInt8} {bound : Int}
    (value : ∀ i, ((byte i).toNat : Int) = if 0 ≤ i ∧ i < bound then i else 0)
    {a b : Option CString} (ha : a.isSome) (hb : b.isSome) (pos : 0 < bound) :
    byteOf byte a ≠ byteOf byte b ↔ ApartBelow bound (a.map toInt) (b.map toInt) := by
  obtain ⟨s, rfl⟩ := Option.isSome_iff_exists.mp ha
  obtain ⟨t, rfl⟩ := Option.isSome_iff_exists.mp hb
  have same : byte (toInt s) = byte (toInt t) ↔
      ((byte (toInt s)).toNat : Int) = ((byte (toInt t)).toNat : Int) := by
    rw [Nat.cast_inj, UInt8.toNat_inj]
  rw [byteOf, byteOf, Option.elim_some, Option.elim_some, ne_eq, same, value, value]
  simp only [ApartBelow, Option.map_some, ne_eq, Option.some.injEq, exists_eq_left']
  grind

/-- It has the number that is written where that is among these. -/
theorem map_toInt_eq_iff {byte : Int → UInt8} {bound : Int}
    (value : ∀ i, ((byte i).toNat : Int) = if 0 ≤ i ∧ i < bound then i else 0)
    {a : Option CString} (ha : a.isSome) (pos : 0 < bound) :
    a.map toInt = some ((byteOf byte a).toNat : Int) ↔
      ∀ i, a.map toInt = some i → 0 ≤ i ∧ i < bound := by
  obtain ⟨s, rfl⟩ := Option.isSome_iff_exists.mp ha
  rw [byteOf, Option.elim_some, value]
  simp only [Option.map_some, Option.some.injEq, forall_eq']
  grind

end Bytes

section Main

variable {printed : CString → CString} {name : CString} {p : Place} {x : XTEDS} {parsed : Xteds}

/-- What an accepted document and its tree are to each other. -/
structure Represents (parsed : Xteds) (x : XTEDS) : Prop where
  wrappers : List.Forall₂ Makes (places parsed) x.treeRoot.allWrappers
  interface_id : ∀ p ∈ places parsed, ∀ e ∈ p.heads, e.interface_id = p.face.id

namespace Represents

theorem named (represents : Represents parsed x) : ∀ w ∈ x.treeRoot.allWrappers, w.AllNamed := by
  intro w mem
  obtain ⟨p, -, makes⟩ := Building.exists_of_forall₂ represents.wrappers.flip w mem
  exact Makes.allNamed makes

/-- The first messages have ids. -/
theorem ids (represents : Represents parsed x) (isPlace : p ∈ places parsed) {e : Element}
    (isHead : e ∈ p.heads) : p.face.id.isSome ∧ e.id.isSome := by
  obtain ⟨w, -, makes⟩ := Building.exists_of_forall₂ represents.wrappers p isPlace
  have verified := makes.verified e isHead
  rw [← represents.interface_id p isPlace e isHead]
  rcases of_mem_heads isHead with ⟨c, -, rfl⟩ | ⟨d, -, rfl⟩ | ⟨f, -, rfl⟩
  · exact ⟨XTEDSVerification.PlainVerified.interface_id verified,
    XTEDSVerification.PlainVerified.id verified⟩
  · exact ⟨XTEDSVerification.DataVerified.interface_id verified,
    XTEDSVerification.DataVerified.id verified⟩
  · exact ⟨XTEDSVerification.PlainVerified.interface_id verified,
    XTEDSVerification.PlainVerified.id verified⟩

/-- The id in the tree of a first message. -/
theorem interfaceMessageID (represents : Represents parsed x) (isPlace : p ∈ places parsed)
    {e : Element} (isHead : e ∈ p.heads) {m : MessageItem} (describes : e.Describes m) :
    m.interfaceMessageID = ⟨byteOf interfaceByte p.face.id, byteOf messageByte e.id⟩ := by
  rw [describes.2.1, represents.interface_id p isPlace e isHead]

/-- A definition that lists the name lists a first message with it, and has the id of one. -/
theorem of_Def (represents : Represents parsed x) {defs : List MessageDef} {Def : MessageDef}
    (made : x.RegInfo printed (some name) [] none none = some defs) (mem : Def ∈ defs)
    {id : SDMMessageID}
    (lists : (some name, id) ∈ Def.messages) :
    ∃ p ∈ places parsed, ∃ e ∈ p.heads, e.name = some name ∧
      id = ⟨byteOf interfaceByte p.face.id, byteOf messageByte e.id⟩ := by
  obtain ⟨w, isWrapper, -, madeW⟩ :=
    (mem_RegInfos represents.named (x.RegInfo_name ▸ made)).mp mem
  obtain ⟨p, isPlace, makes⟩ := Building.exists_of_forall₂ represents.wrappers.flip w isWrapper
  have list := (WrapperItem.RegInfo_spec (represents.named w isWrapper) madeW).1
  rw [list] at lists
  obtain ⟨m, isMessage, entry⟩ := List.mem_map.mp lists
  obtain ⟨e, isHead, describes⟩ := Building.exists_of_forall₂ makes.messages.flip m isMessage
  simp only [MessageItem.entry, Prod.mk.injEq] at entry
  exact ⟨p, isPlace, e, isHead, describes.1.symm.trans entry.1,
    entry.2.symm.trans (represents.interfaceMessageID isPlace isHead describes)⟩

/-- Where the name is answered, a first message that has it is listed, with its id. -/
theorem exists_Def (represents : Represents parsed x) (isPlace : p ∈ places parsed) {e : Element}
    (isHead : e ∈ p.heads) (isName : e.name = some name)
    {defs : List MessageDef} (made : x.RegInfo printed (some name) [] none none = some defs) :
    ∃ Def ∈ defs, ∃ e' ∈ p.heads, e'.name = some name ∧
      Def.interfaceMessageID = ⟨byteOf interfaceByte p.face.id, byteOf messageByte e'.id⟩ ∧
      (some name, Def.interfaceMessageID) ∈ Def.messages := by
  have made : RegInfos printed (some name) [] none x.treeRoot.allWrappers = some defs :=
    x.RegInfo_name ▸ made
  obtain ⟨w, isWrapper, makes⟩ := Building.exists_of_forall₂ represents.wrappers p isPlace
  obtain ⟨m, isMessage, describes⟩ := Building.exists_of_forall₂ makes.messages e isHead
  have named := represents.named w isWrapper
  have mentions : w.Mentions name := makes.mentions_iff.mpr ⟨e, isHead, .inl isName⟩
  have fine : ¬ w.FaultyRequest :=
    (RegInfos_eq_some_iff represents.named).mp (by rw [made]; rfl) w isWrapper mentions
  obtain ⟨Def, madeW⟩ := Option.isSome_iff_exists.mp
    ((WrapperItem.isSome_RegInfo name named).mpr fine)
  obtain ⟨list, has⟩ := WrapperItem.RegInfo_spec named madeW
  obtain ⟨m', isMessage', isName', sameID⟩ := has ⟨m, isMessage, describes.1.trans isName⟩
  obtain ⟨e', isHead', describes'⟩ := Building.exists_of_forall₂ makes.messages.flip m' isMessage'
  refine ⟨Def, (mem_RegInfos represents.named made).mpr
    ⟨w, isWrapper, mentions, madeW⟩, e', isHead',
    describes'.1.symm.trans isName',
    sameID.trans (represents.interfaceMessageID isPlace isHead' describes'), ?_⟩
  rw [list, sameID, ← isName']
  exact List.mem_map_of_mem isMessage'

/-- A message is found exactly when it is kept. -/
theorem found_iff (represents : Represents parsed x) {m : Placed} (mem : m ∈ messages parsed)
    (only : OnlyNamed parsed m name) : Found printed x m name ↔ Kept parsed m name := by
  obtain ⟨isName, only⟩ := only
  have answered : (x.RegInfo printed (some name) [] none none).isSome ↔ _ :=
    x.RegInfo_name ▸ isSome_RegInfos_iff represents.wrappers
  constructor
  · rintro ⟨defs, made, Def, isDef, lists, interfaceID, id⟩
    obtain ⟨p, isPlace, e, isHead, named, ids⟩ := represents.of_Def made isDef lists
    obtain rfl := only ⟨p, e, true⟩ (mem_messages_of_heads isPlace isHead) named
    obtain ⟨faceID, hasID⟩ := represents.ids isPlace isHead
    rw [ids] at interfaceID id
    exact ⟨rfl, (map_toInt_eq_iff interfaceByte_toNat faceID (by decide)).mp interfaceID,
      (map_toInt_eq_iff messageByte_toNat hasID (by decide)).mp id,
      answered.mp (made ▸ rfl)⟩
  · intro kept
    obtain ⟨isPlace, isHead⟩ := place_of_mem mem
    have isHead := isHead kept.first
    obtain ⟨defs, made⟩ := Option.isSome_iff_exists.mp (answered.mpr kept.requests)
    obtain ⟨Def, isDef, e, isHead', named, ids, lists⟩ :=
      represents.exists_Def isPlace isHead isName made
    have same := congrArg Placed.element
      (only ⟨m.place, e, true⟩ (mem_messages_of_heads isPlace isHead') named)
    obtain rfl : e = m.element := same
    obtain ⟨faceID, hasID⟩ := represents.ids isPlace isHead
    refine ⟨defs, made, Def, isDef, lists, ?_, ?_⟩
    · rw [ids]
      exact (map_toInt_eq_iff interfaceByte_toNat faceID (by decide)).mpr kept.interfaceID
    · rw [ids]
      exact (map_toInt_eq_iff messageByte_toNat hasID (by decide)).mpr kept.id

/-- The messages of the tree are the first messages of the document, and have their ids. -/
theorem ids_of_messages (represents : Represents parsed x) :
    List.Forall₂ (fun m item => m.interfaceID.isSome ∧ m.id.isSome ∧ item.interfaceMessageID =
        ⟨byteOf interfaceByte m.place.face.id, byteOf messageByte m.element.id⟩)
      (keptMessages parsed) x.treeRoot.messages := by
  have withPlaces : List.Forall₂ (fun p w => p ∈ places parsed ∧ Makes p w) (places parsed)
      x.treeRoot.allWrappers :=
    (List.forall₂_and_left _ _).mpr ⟨fun p isPlace => isPlace, represents.wrappers⟩
  refine List.rel_flatMap withPlaces ?_
  rintro p w ⟨isPlace, makes⟩
  have withHeads : List.Forall₂ (fun e m => e ∈ p.heads ∧ e.Describes m) p.heads w.messages :=
    (List.forall₂_and_left _ _).mpr ⟨fun e isHead => isHead, makes.messages⟩
  refine List.forall₂_map_left_iff.mpr (withHeads.imp ?_)
  rintro e m ⟨isHead, describes⟩
  obtain ⟨faceID, hasID⟩ := represents.ids isPlace isHead
  exact ⟨by simpa [Placed.interfaceID] using faceID, by simpa [Placed.id] using hasID,
    represents.interfaceMessageID isPlace isHead describes⟩

end Represents

/-- **Accepted messages are lost or have other ids** exactly where they are not `Kept`: for every
accepted document, a message with a name of its own is found with the ids of the document exactly
when it is kept, and two messages of the tree with other ids in the document have other ids exactly
where these are `ApartBelow` the bounds. -/
theorem RegInfo_iff {d : DocumentSyntax} {x : XTEDS} (accepted : Parse d = .ok x)
    (printed : CString → CString) : ∃ parsed, d.xTEDS = some parsed ∧
      (∀ m ∈ messages parsed, ∀ name, OnlyNamed parsed m name →
        (Found printed x m name ↔ Kept parsed m name)) ∧
      (keptMessages parsed).length = x.treeRoot.messages.length ∧
      ∀ pair ∈ (keptMessages parsed).zip x.treeRoot.messages,
        ∀ pair' ∈ (keptMessages parsed).zip x.treeRoot.messages,
          pair.2.interfaceMessageID ≠ pair'.2.interfaceMessageID ↔
            ApartBelow 255 pair.1.interfaceID pair'.1.interfaceID ∨
              ApartBelow 256 pair.1.id pair'.1.id := by
  obtain ⟨parsed, made, wrappers⟩ := wrappers_of_Parse accepted
  have represents : Represents parsed x := ⟨wrappers, interface_id_of_places made⟩
  have pairs := represents.ids_of_messages
  refine ⟨parsed, made, fun m mem name only => represents.found_iff mem only, pairs.length_eq, ?_⟩
  rintro ⟨m, item⟩ mem ⟨m', item'⟩ mem'
  obtain ⟨face, hasID, ids⟩ := List.forall₂_zip pairs mem
  obtain ⟨face', hasID', ids'⟩ := List.forall₂_zip pairs mem'
  simp only [Placed.interfaceID, Placed.id, Option.isSome_map] at face hasID face' hasID'
  simp only
  rw [ids, ids', Placed.interfaceID, Placed.interfaceID, Placed.id, Placed.id,
    ← byteOf_ne_iff interfaceByte_toNat face face' (by decide),
    ← byteOf_ne_iff messageByte_toNat hasID hasID' (by decide)]
  simp only [ne_eq, SDMMessageID.mk.injEq, not_and_or]

end Main

/-- A document whose only interface has one notification, with a message `m` of this id and
others. -/
def demoNotification (id : String) (others : List String) : DocumentSyntax where
  encoding := none
  attributes := [(.name, .ofString "demo")]
  appDevice := .closed [(.name, .ofString "demo"), (.kind, .ofString "software")]
  interfaces :=
    [{ attributes := [(.name, .ofString "Demo"), (.id, .ofString "1")]
       elements := some
        { «variables» := []
          messages := [.notification
            (("m" :: others).map fun name =>
              { attributes := [(.name, .ofString name), (.id, .ofString id)]
                elements := ⟨[], []⟩ }) none] } }]

/-- The first message of `demoNotification`. -/
def demoMessage : DataItem where
  name := some (.ofString "m")
  description := none
  qualifiers := []
  interfaceName := some (.ofString "Demo")
  interfaceMessageID := ⟨1, 2⟩
  vars := []
  msg_arrival := .Event
  msg_rate := none

/-- What `Parse` makes of it. -/
def demoMessageTree : XTEDS where
  treeRoot := { notifications := [.notification demoMessage none] }
  deviceName := some (.ofString "demo")
  componentKey := none
  spaUHub := none
  spaUPort := none

theorem RegInfo_demo : ∃ parsed, (demoNotification "2" []).xTEDS = some parsed ∧
    (∀ m ∈ messages parsed, ∀ name, OnlyNamed parsed m name →
      (Found id demoMessageTree m name ↔ Kept parsed m name)) ∧
    (keptMessages parsed).length = demoMessageTree.treeRoot.messages.length ∧
    ∀ pair ∈ (keptMessages parsed).zip demoMessageTree.treeRoot.messages,
      ∀ pair' ∈ (keptMessages parsed).zip demoMessageTree.treeRoot.messages,
        pair.2.interfaceMessageID ≠ pair'.2.interfaceMessageID ↔
          ApartBelow 255 pair.1.interfaceID pair'.1.interfaceID ∨
            ApartBelow 256 pair.1.id pair'.1.id :=
  RegInfo_iff rfl id

/-- The second message of a notification is lost. -/
theorem not_RegInfo : ¬ ∀ (d : DocumentSyntax) (x : XTEDS), Parse d = .ok x →
    ∀ printed, ∃ parsed, d.xTEDS = some parsed ∧
      (∀ m ∈ messages parsed, ∀ name, OnlyNamed parsed m name → Found printed x m name) ∧
      ∀ pair ∈ (keptMessages parsed).zip x.treeRoot.messages,
        ∀ pair' ∈ (keptMessages parsed).zip x.treeRoot.messages,
          (pair.1.interfaceID, pair.1.id) ≠ (pair'.1.interfaceID, pair'.1.id) →
            pair.2.interfaceMessageID ≠ pair'.2.interfaceMessageID := by
  intro all
  obtain ⟨parsed, made, found, -⟩ := all (demoNotification "2" ["n"]) demoMessageTree rfl id
  cases made
  obtain ⟨defs, answer, Def, isDef, -⟩ := found
    ⟨_, .data
      ⟨some (.ofString "n"), some (.ofString "2"), none, none, none, none, none, [], []⟩, false⟩
    (List.mem_cons_of_mem _ List.mem_cons_self) (.ofString "n")
    ⟨rfl, fun m' mem isName => by
      rcases List.mem_cons.mp mem with rfl | mem
      · exact absurd isName (by decide)
      · exact List.mem_singleton.mp mem⟩
  have none_ : demoMessageTree.RegInfo id (some (.ofString "n")) [] none none = some [] := rfl
  cases none_.symm.trans answer
  cases isDef

end Sdm.XTEDSItem
