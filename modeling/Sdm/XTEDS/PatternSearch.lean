import Sdm.Common.Regex
import Sdm.XTEDS.Messages

/-!
Searching a document for a pattern (`RegexRegInfo`) and for a name (`RegInfo`).

The two searches go through the same messages and variables. That for a name asks each of them for
its name, its interface and the qualifiers; that for a pattern is given the same, and asks for the
name only.

* `settled_of_Parse`: the items of an accepted document have names and stand in one interface with
  their message.
* `RegInfoMatch_eq`, `RegexMatch_eq`: what the two searches ask of a wrapper.
* `RegexRegInfos_eq`, `RegInfos_eq`: what they return for a list of wrappers.
* `searches_iff`: exactly when a pattern finds what it should.
-/

namespace Sdm.XTEDSItem

open Lib Document Verdict

/-! ### The search for a pattern -/

/-- `DoesRegexMatch`, with what `regcomp` makes of the pattern: it throws where that is none. -/
def DoesRegexMatch (SourceText : Option CString) (Pattern : Option RegularExpression) : Verdict :=
  Pattern.bind fun CompiledExpression =>
    SourceText.map fun text => (CompiledExpression.regexec text).isSome

/-- `xTEDSItem::RegexMatch`. The qualifiers and the interface are not looked at. -/
def Item.RegexMatch (Pattern : Option RegularExpression) (_QualList : List Pair)
    (_Interface : Option CString) (item : Item) : Verdict :=
  DoesRegexMatch item.name Pattern

section Search

variable (Pattern : Option RegularExpression) (QualList : List Pair) (Interface : Option CString)

/-- `RegexMatch` of `xTEDSCommandMsg`, `xTEDSDataMsg` and `xTEDSFaultMsg`. -/
def MessageItem.RegexMatch (m : MessageItem) : Verdict :=
  either (anyOf (fun v => v.toItem.RegexMatch Pattern QualList Interface) m.vars)
    (m.toItem.RegexMatch Pattern QualList Interface)

/-- `RegexMatch` of a wrapper. -/
def WrapperItem.RegexMatch (w : WrapperItem) : Verdict :=
  let message (m : MessageItem) : Verdict := m.RegexMatch Pattern QualList Interface
  let fault (f : Option MessageItem) : Verdict := f.elim (some false) message
  match w with
  | .command c f => either (message c) (fault f)
  | .notification d f => either (message d.toMessageItem) (fault f)
  | .request c d f => either (message d.toMessageItem) (either (message c) (fault f))

/-- `xTEDSWrapperList::RegexRegInfo`. -/
def RegexRegInfos : List WrapperItem → Option (List MessageDef)
  | [] => some []
  | w :: rest =>
      (w.RegexMatch Pattern QualList Interface).bind fun found =>
        if found then (w.RegInfo none).bind fun Def => (RegexRegInfos rest).map (Def :: ·)
        else RegexRegInfos rest

/-- `xTEDSItemTree::RegexRegInfo`. -/
def ItemTree.RegexRegInfo (root : ItemTree) : Option (List MessageDef) := do
  let commands ← RegexRegInfos Pattern QualList Interface root.commands
  let notifications ← RegexRegInfos Pattern QualList Interface root.notifications
  let requests ← RegexRegInfos Pattern QualList Interface root.requests
  return commands ++ notifications ++ requests

end Search

/-! ### The items of a document -/

/-- What an item has of its class `xTEDSItem`. -/
def AnyItem.toItem : AnyItem → Item
  | var v => v.toItem
  | data m => m.toItem
  | command m => m.toItem
  | fault m => m.toItem

/-- A message, as it is `self` among the items, and its variables. -/
def MessageItem.searched (self : AnyItem) (m : MessageItem) : List AnyItem :=
  self :: m.vars.map .var

/-- The messages of a wrapper and their variables, in the order in which a search asks them. -/
def WrapperItem.searched (w : WrapperItem) : List AnyItem :=
  let fault (f : Option MessageItem) : List AnyItem :=
    f.elim [] fun f => f.searched (.fault f)
  match w with
  | .command c f => c.searched (.command c) ++ fault f
  | .notification d f => d.toMessageItem.searched (.data d) ++ fault f
  | .request c d f =>
      d.toMessageItem.searched (.data d) ++ (c.searched (.command c) ++ fault f)

/-- The message and its variables have names, and stand in one interface. -/
structure MessageItem.Settled (m : MessageItem) : Prop where
  name : m.name.isSome
  interfaceName : m.interfaceName.isSome
  vars : ∀ v ∈ m.vars, v.name.isSome ∧ v.interfaceName = m.interfaceName

def WrapperItem.Settled (w : WrapperItem) : Prop := ∀ m ∈ w.messages, m.Settled

section Settled

variable {list : List VariableItem} {w : Wrapper} {item : WrapperItem} {root root' : ItemTree}

theorem interfaceName_of_Find {name face : CString} {var : VariableItem}
    (found : Find name (some face) list = some (some var)) : var.interfaceName = some face := by
  obtain ⟨at_k, isAt, same⟩ := Option.map_eq_some_iff.mp found
  obtain ⟨⟨k, v⟩, rfl, rfl⟩ := Option.map_eq_some_iff.mp same
  obtain ⟨a, -, body, -⟩ := scan_eq_found_iff.mp isAt
  obtain ⟨here, isHere, same⟩ := Option.map_eq_some_iff.mp body
  cases here with
  | false => simp at same
  | true =>
      simp only [if_true, Option.some.injEq] at same
      subst same
      obtain ⟨named, -, rest⟩ := Option.bind_eq_some_iff.mp isHere
      cases named with
      | false => simp at rest
      | true =>
          obtain ⟨i, isFace, same⟩ := Option.map_eq_some_iff.mp rest
          exact isFace.trans (congrArg some (by simpa using same))

theorem settled_of_setVariables {msg : Option CString} {face : CString} {refs : List CString}
    {vars : List VariableItem} (set : setVariables msg (some face) refs list = .ok vars) :
    ∀ v ∈ vars, v.name.isSome ∧ v.interfaceName = some face := by
  intro v mem
  obtain ⟨ref, -, found⟩ := Building.exists_of_forall₂
    (Building.mapM_eq_ok_forall₂ set).flip v mem
  split at found
  · cases found
  · cases found
    rename_i isVar
    exact ⟨(name_of_Find isVar).1 ▸ rfl, interfaceName_of_Find isVar⟩
  · obtain ⟨-, -, absurd⟩ := Building.bind_eq_ok_iff.mp found
    cases absurd

theorem settled_plain {m : PlainMsg} {built : MessageItem}
    (verified : XTEDSVerification.PlainVerified m) (set : SetPlainMsg m list = .ok built) :
    built.Settled := by
  obtain ⟨vars, setVars, made⟩ := Building.bind_eq_ok_iff.mp set
  cases made
  obtain ⟨face, isFace⟩ := Option.isSome_iff_exists.mp verified.interface_name
  rw [isFace] at setVars
  exact ⟨verified.name, verified.interface_name, isFace ▸ settled_of_setVariables setVars⟩

theorem settled_data {m : DataMsg} {built : DataItem}
    (verified : XTEDSVerification.DataVerified m) (set : SetDataMsg m list = .ok built) :
    built.toMessageItem.Settled := by
  obtain ⟨vars, setVars, made⟩ := Building.bind_eq_ok_iff.mp set
  cases made
  obtain ⟨face, isFace⟩ := Option.isSome_iff_exists.mp verified.interface_name
  rw [isFace] at setVars
  exact ⟨verified.name, verified.interface_name, isFace ▸ settled_of_setVariables setVars⟩

theorem settled_fault {fault : Option PlainMsg} {built : Option MessageItem}
    (verified : ∀ f, fault = some f → XTEDSVerification.PlainVerified f)
    (set : SetFault fault list = .ok built) : ∀ m ∈ built.toList, m.Settled := by
  cases fault with
  | none =>
      cases set
      exact fun m mem => absurd mem List.not_mem_nil
  | some f =>
      obtain ⟨m, setF, rfl⟩ := Building.map_eq_ok_iff.mp set
      exact List.forall_mem_singleton.mpr (settled_plain (verified f rfl) setF)

theorem settled_command (verified : WrapperVerified w true false)
    (set : SetCommand w list = .ok item) : item.Settled := by
  obtain ⟨cmd, head, verifiedC⟩ := verified.command rfl
  simp only [SetCommand, required_of_head head, Building.bind_eq_ok_iff] at set
  obtain ⟨_, ⟨⟩, c, setC, f, setF, ⟨⟩⟩ := set
  exact List.forall_mem_cons.mpr ⟨settled_plain verifiedC setC, settled_fault verified.fault setF⟩

theorem settled_notification (verified : WrapperVerified w false true)
    (set : SetNotification w list = .ok item) : item.Settled := by
  obtain ⟨dat, head, verifiedD⟩ := verified.data rfl
  simp only [SetNotification, required_of_head head, Building.bind_eq_ok_iff] at set
  obtain ⟨_, ⟨⟩, d, setD, f, setF, ⟨⟩⟩ := set
  exact List.forall_mem_cons.mpr ⟨settled_data verifiedD setD, settled_fault verified.fault setF⟩

theorem settled_request (verified : WrapperVerified w true true)
    (set : SetRequest w list = .ok item) : item.Settled := by
  obtain ⟨cmd, headC, verifiedC⟩ := verified.command rfl
  obtain ⟨dat, headD, verifiedD⟩ := verified.data rfl
  simp only [SetRequest, required_of_head headC, required_of_head headD,
    Building.bind_eq_ok_iff] at set
  obtain ⟨_, ⟨⟩, _, ⟨⟩, c, setC, d, setD, f, setF, ⟨⟩⟩ := set
  exact List.forall_mem_cons.mpr ⟨settled_plain verifiedC setC,
    List.forall_mem_cons.mpr ⟨settled_data verifiedD setD, settled_fault verified.fault setF⟩⟩

/-- All wrappers of the tree are settled. -/
def ItemTree.Settled (root : ItemTree) : Prop := ∀ w ∈ root.allWrappers, w.Settled

theorem ItemTree.settled_iff : root.Settled ↔ (∀ w ∈ root.commands, w.Settled) ∧
    (∀ w ∈ root.notifications, w.Settled) ∧ ∀ w ∈ root.requests, w.Settled := by
  simp only [ItemTree.Settled, ItemTree.allWrappers, List.forall_mem_append, and_assoc]

theorem settled_addInterface {face : Interface} (settled : root.Settled)
    (added : addInterface root face = .ok root') : root'.Settled := by
  obtain ⟨-, r₁, run₁, r₂, run₂, r₃, run₃, run₄⟩ := addInterface_eq_ok_iff.mp added
  have settled₁ : r₁.Settled := Building.foldlM_induct (P := ItemTree.Settled) settled
    (fun r v r' _ settled step => by
      obtain ⟨-, rfl⟩ := addVariable_eq_ok_iff.mp step
      exact settled) run₁
  have settled₂ : r₂.Settled := Building.foldlM_induct (P := ItemTree.Settled) settled₁
    (fun r w r' _ settled step => by
      obtain ⟨verified, item, set, rfl⟩ := addCommand_eq_ok_iff.mp step
      obtain ⟨commands, others⟩ := ItemTree.settled_iff.mp settled
      exact ItemTree.settled_iff.mpr ⟨List.forall_mem_append.mpr
        ⟨commands, List.forall_mem_singleton.mpr (settled_command verified set)⟩, others⟩) run₂
  have settled₃ : r₃.Settled := Building.foldlM_induct (P := ItemTree.Settled) settled₂
    (fun r w r' _ settled step => by
      obtain ⟨verified, item, set, rfl⟩ := addNotification_eq_ok_iff.mp step
      obtain ⟨commands, notifications, requests⟩ := ItemTree.settled_iff.mp settled
      exact ItemTree.settled_iff.mpr ⟨commands, List.forall_mem_append.mpr
        ⟨notifications, List.forall_mem_singleton.mpr (settled_notification verified set)⟩,
        requests⟩) run₃
  exact Building.foldlM_induct (P := ItemTree.Settled) settled₃
    (fun r w r' _ settled step => by
      obtain ⟨verified, item, set, rfl⟩ := addRequest_eq_ok_iff.mp step
      obtain ⟨commands, notifications, requests⟩ := ItemTree.settled_iff.mp settled
      exact ItemTree.settled_iff.mpr ⟨commands, notifications, List.forall_mem_append.mpr
        ⟨requests, List.forall_mem_singleton.mpr (settled_request verified set)⟩⟩) run₄

/-- **The messages of an accepted document** have names and stand in one interface with their
variables. -/
theorem settled_of_Parse {d : DocumentSyntax} {x : XTEDS} (accepted : Parse d = .ok x) :
    x.treeRoot.Settled := by
  obtain ⟨parsed, -, -, built⟩ := Parse_eq_ok_iff.mp accepted
  obtain ⟨header, -, -, -, -, root, run, rfl⟩ := build_eq_ok_iff.mp built
  exact Building.foldlM_induct (P := ItemTree.Settled)
    (fun w mem => absurd mem List.not_mem_nil)
    (fun r face r' _ settled step => settled_addInterface settled step) run

end Settled

/-! ### What the searches ask -/

namespace AnyItem

/-- The pattern matches the name. -/
def named (Pattern : RegularExpression) (item : AnyItem) : Bool :=
  item.toItem.name.any fun name => (Pattern.regexec name).isSome

/-- The item is in the interface, if one is given, and has all qualifiers of the list. -/
def passes (printed : CString → CString) (qualifiers : List Pair) (interface : Option CString)
    (item : AnyItem) : Bool :=
  (interface.all fun name => item.toItem.interfaceName = some name) &&
    qualifiers.all (matchesPair (item.attributes printed))

/-- What `RegInfoMatch` asks of an item. -/
def exact (printed : CString → CString) (pname : Option CString) (qualifiers : List Pair)
    (interface : Option CString) (item : AnyItem) : Verdict :=
  both (nameIs pname item.toItem.name)
    (both (nameIs interface item.toItem.interfaceName) (item.MatchesQualifier printed qualifiers))

end AnyItem

namespace WrapperItem

/-- The pattern matches the name of a message or a variable. -/
def matched (Pattern : RegularExpression) (w : WrapperItem) : Bool :=
    w.searched.any (·.named Pattern)

/-- A message or a variable whose name the pattern matches is in the interface and has the
qualifiers. -/
def selected (printed : CString → CString) (Pattern : RegularExpression) (qualifiers : List Pair)
    (interface : Option CString) (w : WrapperItem) : Bool :=
  w.searched.any fun item => item.named Pattern && item.passes printed qualifiers interface

/-- The message whose id a definition has keeps it when the name is asked for. -/
def KeepsID (name : CString) : WrapperItem → Prop
  | command c f => ∀ m ∈ f.toList, m.name = some name → m.interfaceMessageID = c.interfaceMessageID
  | notification d f =>
      ∀ m ∈ f.toList, m.name = some name → m.interfaceMessageID = d.interfaceMessageID
  | request c d _ => d.name = some name → d.interfaceMessageID = c.interfaceMessageID

end WrapperItem

section Asking

variable {printed : CString → CString} {Pattern : RegularExpression} {pname : Option CString}
  {qualifiers : List Pair} {interface : Option CString} {name : CString} {m : MessageItem}
  {w : WrapperItem} {item : AnyItem}

theorem isSome_nameIs (pname : Option CString) {given : Option CString} (there : given.isSome) :
    (nameIs pname given).isSome := by
  obtain ⟨s, rfl⟩ := Option.isSome_iff_exists.mp there
  cases pname <;> rfl

/-- A check in the last place that is made for nothing. -/
theorem both_false {a : Verdict} (total : a.isSome) : both a (some false) = some false := by
  obtain ⟨ok, rfl⟩ := Option.isSome_iff_exists.mp total
  cases ok <;> rfl

theorem MessageItem.Settled.RegInfoMatch_eq (settled : m.Settled) (self : AnyItem)
    (sameName : self.toItem.name = m.name)
    (sameInterface : self.toItem.interfaceName = m.interfaceName) :
    m.RegInfoMatch (self.attributes printed) pname qualifiers interface =
      anyOf (·.exact printed pname qualifiers interface) (m.searched self) := by
  have ofVars : variablesMatch pname qualifiers interface m.vars =
      anyOf (fun v => (AnyItem.var v).exact printed pname qualifiers interface) m.vars := rfl
  rw [MessageItem.searched, anyOf_cons, anyOf_map, ← ofVars, AnyItem.exact, sameName,
    sameInterface, MessageItem.RegInfoMatch]
  obtain ⟨inside, isInside⟩ := Option.isSome_iff_exists.mp
    (isSome_nameIs interface settled.interfaceName)
  cases inside with
  | true =>
      rw [isInside]
      rfl
  | false =>
      have outside : variablesMatch pname qualifiers interface m.vars = some false := by
        rw [ofVars, anyOf_eq_false_iff]
        intro v mem
        obtain ⟨named, same⟩ := settled.vars v mem
        show both (nameIs pname v.name) (both (nameIs interface v.interfaceName) _) = _
        rw [same, isInside]
        exact both_false (isSome_nameIs pname named)
      rw [outside, isInside, either_false, either_false]
      exact (both_false (isSome_nameIs pname settled.name)).symm

theorem FaultRegInfoMatch_eq : m.FaultRegInfoMatch pname qualifiers interface =
    anyOf (·.exact printed pname qualifiers interface) (m.searched (.fault m)) := by
  rw [MessageItem.searched, anyOf_cons, anyOf_map]
  rfl

/-- **A search for a name** asks the messages and the variables of a wrapper. -/
theorem WrapperItem.Settled.RegInfoMatch_eq (settled : w.Settled) :
    w.RegInfoMatch printed pname qualifiers interface =
      anyOf (·.exact printed pname qualifiers interface) w.searched := by
  have fault : ∀ f : Option MessageItem,
      (f.elim (some false) fun f => f.FaultRegInfoMatch pname qualifiers interface) =
        anyOf (·.exact printed pname qualifiers interface)
          (f.elim [] fun f => f.searched (.fault f)) := by
    intro f
    cases f with
    | none => rfl
    | some f => exact FaultRegInfoMatch_eq
  cases w with
  | command c f =>
      have first := settled c List.mem_cons_self
      rw [WrapperItem.searched, anyOf_append, ← fault, ← first.RegInfoMatch_eq (.command c) rfl rfl]
      rfl
  | notification d f =>
      have first := settled d.toMessageItem List.mem_cons_self
      rw [WrapperItem.searched, anyOf_append, ← fault, ← first.RegInfoMatch_eq (.data d) rfl rfl]
      rfl
  | request c d f =>
      have first := settled c List.mem_cons_self
      have second := settled d.toMessageItem (List.mem_cons_of_mem c List.mem_cons_self)
      rw [WrapperItem.searched, anyOf_append, anyOf_append, ← fault,
        ← first.RegInfoMatch_eq (.command c) rfl rfl, ← second.RegInfoMatch_eq (.data d) rfl rfl]
      rfl

theorem AnyItem.named_eq (item : AnyItem) (there : item.toItem.name.isSome) :
    item.toItem.RegexMatch (some Pattern) qualifiers interface = some (item.named Pattern) := by
  obtain ⟨name, isName⟩ := Option.isSome_iff_exists.mp there
  rw [Item.RegexMatch, AnyItem.named, isName]
  rfl

theorem MessageItem.Settled.RegexMatch_eq (settled : m.Settled) (self : AnyItem)
    (sameName : self.toItem.name = m.name) : m.RegexMatch (some Pattern) qualifiers interface =
      some ((m.searched self).any (·.named Pattern)) := by
  have asked : self.toItem.RegexMatch (some Pattern) qualifiers interface =
      some (self.named Pattern) := self.named_eq (sameName ▸ settled.name)
  have own : m.toItem.RegexMatch (some Pattern) qualifiers interface = some (self.named Pattern) :=
    (congrArg (DoesRegexMatch · (some Pattern)) sameName.symm).trans asked
  have ofVars : anyOf (fun v => v.toItem.RegexMatch (some Pattern) qualifiers interface) m.vars =
      some (m.vars.any fun v => (AnyItem.var v).named Pattern) := by
    apply anyOf_eq
    intro v mem
    exact (AnyItem.var v).named_eq (settled.vars v mem).1
  rw [MessageItem.RegexMatch, own, ofVars, either_some, Bool.or_comm, MessageItem.searched,
    List.any_cons, List.any_map]
  rfl

/-- **A search for a pattern** asks the same, for the name only. -/
theorem WrapperItem.Settled.RegexMatch_eq (settled : w.Settled) :
    w.RegexMatch (some Pattern) qualifiers interface = some (w.matched Pattern) := by
  have fault : ∀ f : Option MessageItem, (∀ m ∈ f.toList, m.Settled) →
      (f.elim (some false) fun f => f.RegexMatch (some Pattern) qualifiers interface) =
        some ((f.elim [] fun f => f.searched (.fault f)).any (·.named Pattern)) := by
    intro f settled
    cases f with
    | none => rfl
    | some f => exact (settled f List.mem_cons_self).RegexMatch_eq (.fault f) rfl
  cases w with
  | command c f =>
      obtain ⟨first, later⟩ := List.forall_mem_cons.mp settled
      rw [WrapperItem.RegexMatch, WrapperItem.matched, WrapperItem.searched, List.any_append,
        ← either_some, ← fault f later, ← first.RegexMatch_eq (.command c) rfl]
  | notification d f =>
      obtain ⟨first, later⟩ := List.forall_mem_cons.mp settled
      rw [WrapperItem.RegexMatch, WrapperItem.matched, WrapperItem.searched, List.any_append,
        ← either_some, ← fault f later, ← first.RegexMatch_eq (.data d) rfl]
  | request c d f =>
      obtain ⟨first, later⟩ := List.forall_mem_cons.mp settled
      obtain ⟨second, later⟩ := List.forall_mem_cons.mp later
      rw [WrapperItem.RegexMatch, WrapperItem.matched, WrapperItem.searched, List.any_append,
        List.any_append, ← either_some, ← either_some, ← fault f later,
        ← first.RegexMatch_eq (.command c) rfl,
        ← second.RegexMatch_eq (.data d) rfl]

end Asking

/-! ### What the searches return -/

section Returning

variable {printed : CString → CString} {Pattern : Option RegularExpression}
  {pname : Option CString} {qualifiers : List Pair} {interface : Option CString}
  {asks : WrapperItem → Verdict} {makes : WrapperItem → Option MessageDef} {l : List WrapperItem}
  {defs : List MessageDef} {root : ItemTree}

/-- The definitions of the wrappers that answer a question. -/
def collect (asks : WrapperItem → Verdict) (makes : WrapperItem → Option MessageDef) :
    List WrapperItem → Option (List MessageDef)
  | [] => some []
  | w :: rest =>
      (asks w).bind fun found =>
        if found then (makes w).bind fun Def => (collect asks makes rest).map (Def :: ·)
        else collect asks makes rest

theorem RegInfos_eq_collect : RegInfos printed pname qualifiers interface l =
    collect (·.RegInfoMatch printed pname qualifiers interface) (·.RegInfo pname) l := by
  induction l with
  | nil => rfl
  | cons w rest ih => rw [RegInfos, collect, ih]

theorem RegexRegInfos_eq_collect : RegexRegInfos Pattern qualifiers interface l =
    collect (·.RegexMatch Pattern qualifiers interface) (·.RegInfo none) l := by
  induction l with
  | nil => rfl
  | cons w rest ih => rw [RegexRegInfos, collect, ih]

theorem collect_append (l' : List WrapperItem) : collect asks makes (l ++ l') =
    (collect asks makes l).bind fun defs => (collect asks makes l').map (defs ++ ·) := by
  induction l with
  | nil =>
      rw [List.nil_append, collect]
      cases collect asks makes l' <;> rfl
  | cons w rest ih =>
      rw [List.cons_append, collect, collect, ih]
      cases asks w with
      | none => rfl
      | some found =>
          cases found with
          | false => rfl
          | true =>
              cases makes w with
              | none => rfl
              | some Def => simp [Option.bind_map, Function.comp_def]

/-- **What is returned**: every wrapper has an answer, and those that say yes have definitions. -/
theorem collect_eq_some_iff : collect asks makes l = some defs ↔ (∀ w ∈ l, (asks w).isSome) ∧
    defs.map some = (l.filter fun w => asks w = some true).map makes := by
  induction l generalizing defs with
  | nil => cases defs <;> simp [collect]
  | cons w rest ih =>
      rw [collect, List.forall_mem_cons, List.filter_cons]
      cases here : asks w with
      | none => simp
      | some found =>
          cases found with
          | false => simp [ih]
          | true =>
              cases made : makes w with
              | none => cases defs <;> simp [made]
              | some Def =>
                  cases defs with
                  | nil => simp
                  | cons first others => simp [made, ih, and_left_comm, eq_comm (a := Def)]

/-- `RegexRegInfo` asks all wrappers. -/
theorem RegexRegInfo_eq : root.RegexRegInfo Pattern qualifiers interface =
    collect (·.RegexMatch Pattern qualifiers interface) (·.RegInfo none) root.allWrappers := by
  rw [ItemTree.RegexRegInfo, ItemTree.allWrappers, collect_append, collect_append]
  simp only [RegexRegInfos_eq_collect]
  cases collect (·.RegexMatch Pattern qualifiers interface) (·.RegInfo none) root.commands with
  | none => rfl
  | some commands =>
      cases collect (·.RegexMatch Pattern qualifiers interface) (·.RegInfo none)
        root.notifications with
      | none => rfl
      | some notifications =>
          cases collect (·.RegexMatch Pattern qualifiers interface) (·.RegInfo none)
            root.requests <;> simp

end Returning

/-! ### Patterns and names -/

/-- The pattern matches this name and no other one of the messages and variables. -/
def ItemTree.Singles (root : ItemTree) (Pattern : RegularExpression) (name : CString) : Prop :=
  ∀ w ∈ root.allWrappers, ∀ item ∈ w.searched, item.named Pattern ↔ item.toItem.name = some name

/-- What a search for a pattern should return: the definitions of the wrappers with a message or a
variable that the pattern matches, in the interface and with the qualifiers; for a pattern that
matches one name, what the search for the name returns. -/
def Searches (printed : CString → CString) (root : ItemTree) (Pattern : RegularExpression)
    (qualifiers : List Pair) (interface : Option CString) : Prop :=
  ∃ defs, root.RegexRegInfo (some Pattern) qualifiers interface = some defs ∧
    defs.map some = (root.allWrappers.filter
      (·.selected printed Pattern qualifiers interface)).map (·.RegInfo none) ∧
    ∀ name, root.Singles Pattern name →
      root.ExactRegInfo printed (some name) qualifiers interface = some defs

/-- The interface and the qualifiers leave out no wrapper that the pattern finds, and none of these
is a request with a fault message; where the pattern stands for one name, there is at most one
qualifier, and the definitions have the same ids for the name. -/
structure Unfiltered (printed : CString → CString) (root : ItemTree) (Pattern : RegularExpression)
    (qualifiers : List Pair) (interface : Option CString) : Prop where
  filters : ∀ w ∈ root.allWrappers, w.matched Pattern →
    w.selected printed Pattern qualifiers interface
  requests : ∀ w ∈ root.allWrappers, w.matched Pattern → ¬ w.FaultyRequest
  single : ∀ name, root.Singles Pattern name → ∀ w ∈ root.allWrappers, w.matched Pattern →
    qualifiers.length ≤ 1 ∧ w.KeepsID name

section Comparing

variable {printed : CString → CString} {Pattern : RegularExpression} {qualifiers : List Pair}
  {interface : Option CString} {name : CString} {w : WrapperItem} {item : AnyItem}
  {attributes : List (CString × Option CString)} {root : ItemTree}

theorem MessageItem.Settled.searched {m : MessageItem} {self : AnyItem} (settled : m.Settled)
    (sameName : self.toItem.name = m.name)
    (sameInterface : self.toItem.interfaceName = m.interfaceName) :
    ∀ item ∈ m.searched self, item.toItem.name.isSome ∧ item.toItem.interfaceName.isSome := by
  intro item mem
  rcases List.mem_cons.mp mem with rfl | mem
  · exact ⟨sameName ▸ settled.name, sameInterface ▸ settled.interfaceName⟩
  · obtain ⟨v, isVar, rfl⟩ := List.mem_map.mp mem
    obtain ⟨named, same⟩ := settled.vars v isVar
    exact ⟨named, same ▸ settled.interfaceName⟩

theorem WrapperItem.Settled.searched (settled : w.Settled) :
    ∀ item ∈ w.searched, item.toItem.name.isSome ∧ item.toItem.interfaceName.isSome := by
  have fault : ∀ f : Option MessageItem, (∀ m ∈ f.toList, m.Settled) →
      ∀ item ∈ (f.elim [] fun f => f.searched (.fault f) : List AnyItem),
        item.toItem.name.isSome ∧ item.toItem.interfaceName.isSome := by
    intro f settled
    cases f with
    | none => exact fun item mem => absurd mem List.not_mem_nil
    | some f => exact (settled f List.mem_cons_self).searched rfl rfl
  cases w with
  | command c f =>
      obtain ⟨first, later⟩ := List.forall_mem_cons.mp settled
      exact List.forall_mem_append.mpr ⟨first.searched rfl rfl, fault f later⟩
  | notification d f =>
      obtain ⟨first, later⟩ := List.forall_mem_cons.mp settled
      exact List.forall_mem_append.mpr ⟨first.searched rfl rfl, fault f later⟩
  | request c d f =>
      obtain ⟨first, later⟩ := List.forall_mem_cons.mp settled
      obtain ⟨second, later⟩ := List.forall_mem_cons.mp later
      exact List.forall_mem_append.mpr ⟨second.searched rfl rfl,
        List.forall_mem_append.mpr ⟨first.searched rfl rfl, fault f later⟩⟩

theorem matchesQualifier_short (short : qualifiers.length ≤ 1) :
    matchesQualifier attributes qualifiers = some (qualifiers.all (matchesPair attributes)) := by
  match qualifiers, short with
  | [], _ => exact matchesQualifier_nil
  | [p], _ => simp [matchesQualifier_singleton]
  | _ :: _ :: _, short => simp at short

/-- With more qualifiers than one, nothing is found. -/
theorem matchesQualifier_long (long : ¬ qualifiers.length ≤ 1) :
    matchesQualifier attributes qualifiers ≠ some true ∧
      (qualifiers.all (matchesPair attributes) →
        matchesQualifier attributes qualifiers ≠ some false) := by
  match qualifiers, long with
  | [], long => exact absurd (Nat.zero_le 1) long
  | [_], long => exact absurd (Nat.le_refl 1) long
  | p :: q :: rest, _ =>
      rw [matchesQualifier_cons_cons]
      cases first : matchesPair attributes p with
      | false => exact ⟨nofun, by simp [first]⟩
      | true => exact ⟨nofun, fun _ => nofun⟩

/-- The search for a name, an item at a time. -/
theorem AnyItem.exact_eq (there : item.toItem.name.isSome)
    (placed : item.toItem.interfaceName.isSome) :
    item.exact printed (some name) qualifiers interface =
      if item.toItem.name = some name ∧
          (interface.all fun i => item.toItem.interfaceName = some i) = true then
        item.MatchesQualifier printed qualifiers
      else some false := by
  obtain ⟨given, isName⟩ := Option.isSome_iff_exists.mp there
  obtain ⟨place, isPlace⟩ := Option.isSome_iff_exists.mp placed
  rw [AnyItem.exact, isName, isPlace]
  by_cases same : given = name
  · cases interface with
    | none => simp [nameIs, equals?, same, both]
    | some i => by_cases here : place = i <;> simp [nameIs, equals?, same, both, here]
  · simp [nameIs, equals?, same, both]

theorem AnyItem.exact_short (short : qualifiers.length ≤ 1) (there : item.toItem.name.isSome)
    (placed : item.toItem.interfaceName.isSome) :
    item.exact printed (some name) qualifiers interface =
      some (decide (item.toItem.name = some name) && item.passes printed qualifiers interface) := by
  rw [AnyItem.exact_eq there placed, AnyItem.MatchesQualifier, matchesQualifier_short short]
  split
  · rename_i both
    simp [AnyItem.passes, both.1, both.2]
  · rename_i not
    have outside : (decide (item.toItem.name = some name) &&
        interface.all fun i => item.toItem.interfaceName = some i) = false :=
      Bool.eq_false_iff.mpr fun yes => not (by simpa using yes)
    rw [AnyItem.passes, ← Bool.and_assoc, outside, Bool.false_and]

theorem WrapperItem.isSome_RegInfo_none : (w.RegInfo none).isSome ↔ ¬ w.FaultyRequest := by
  cases w with
  | command c f => cases f <;> simp [RegInfo, FaultyRequest, overriding]
  | notification d f => cases f <;> simp [RegInfo, FaultyRequest, overriding]
  | request c d f => cases f <;> simp [RegInfo, FaultyRequest, overriding]

/-- When the definition for a name is that for any. -/
theorem WrapperItem.Settled.RegInfo_eq_iff (settled : w.Settled) (fine : ¬ w.FaultyRequest) :
    w.RegInfo (some name) = w.RegInfo none ↔ w.KeepsID name := by
  cases w with
  | command c f =>
      cases f with
      | none => exact iff_of_true rfl fun m mem => absurd mem List.not_mem_nil
      | some f =>
          have there := (settled f (List.mem_cons_of_mem c List.mem_cons_self)).name
          simp only [RegInfo, Option.elim_some, overriding_eq there]
          simp [overriding, KeepsID]
  | notification d f =>
      cases f with
      | none => exact iff_of_true rfl fun m mem => absurd mem List.not_mem_nil
      | some f =>
          have there := (settled f (List.mem_cons_of_mem _ List.mem_cons_self)).name
          simp only [RegInfo, Option.elim_some, overriding_eq there]
          simp [overriding, KeepsID]
  | request c d f =>
      cases f with
      | none =>
          have there := (settled _ (List.mem_cons_of_mem c List.mem_cons_self)).name
          simp only [RegInfo, overriding_eq there]
          simp [overriding, KeepsID]
      | some f => exact absurd ⟨c, d, f, rfl⟩ fine

theorem selected_le_matched (w : WrapperItem) :
    w.selected printed Pattern qualifiers interface → w.matched Pattern := by
  intro selected
  obtain ⟨item, mem, both⟩ := List.any_eq_true.mp selected
  exact List.any_eq_true.mpr ⟨item, mem, (Bool.and_eq_true_iff.mp both).1⟩

/-- A wrapper that is not found under a name. -/
theorem WrapperItem.Settled.RegInfoMatch_none (settled : w.Settled)
    (none : ∀ item ∈ w.searched, item.toItem.name ≠ some name) :
    w.RegInfoMatch printed (some name) qualifiers interface = some false := by
  rw [settled.RegInfoMatch_eq, anyOf_eq_false_iff]
  intro item mem
  obtain ⟨there, placed⟩ := settled.searched item mem
  rw [AnyItem.exact_eq there placed, if_neg fun both => none item mem both.1]

/-- With one qualifier at most, a pattern for one name selects what the name does. -/
theorem WrapperItem.Settled.RegInfoMatch_short (settled : w.Settled)
    (short : qualifiers.length ≤ 1)
    (single : ∀ item ∈ w.searched, item.named Pattern ↔ item.toItem.name = some name) :
    w.RegInfoMatch printed (some name) qualifiers interface =
      some (w.selected printed Pattern qualifiers interface) := by
  rw [settled.RegInfoMatch_eq]
  apply anyOf_eq
  intro item mem
  obtain ⟨there, placed⟩ := settled.searched item mem
  have same : decide (item.toItem.name = some name) = item.named Pattern :=
    Bool.eq_iff_iff.mpr (by rw [single item mem, decide_eq_true_iff])
  rw [AnyItem.exact_short short there placed, same]

/-- With more qualifiers, the search for the name of a wrapper that has all of them faults. -/
theorem WrapperItem.Settled.RegInfoMatch_long (settled : w.Settled)
    (long : ¬ qualifiers.length ≤ 1)
    (single : ∀ item ∈ w.searched, item.named Pattern ↔ item.toItem.name = some name)
    (selected : w.selected printed Pattern qualifiers interface) :
    w.RegInfoMatch printed (some name) qualifiers interface = none := by
  rw [settled.RegInfoMatch_eq]
  cases answer : anyOf (·.exact printed (some name) qualifiers interface) w.searched with
  | none => rfl
  | some found =>
      exfalso
      cases found with
      | true =>
          obtain ⟨item, mem, accepts⟩ := exists_of_anyOf answer
          obtain ⟨there, placed⟩ := settled.searched item mem
          rw [AnyItem.exact_eq there placed] at accepts
          split at accepts
          · exact (matchesQualifier_long long).1 accepts
          · exact absurd accepts nofun
      | false =>
          obtain ⟨item, mem, both⟩ := List.any_eq_true.mp selected
          obtain ⟨isName, passes⟩ := Bool.and_eq_true_iff.mp both
          obtain ⟨inside, all⟩ := Bool.and_eq_true_iff.mp passes
          obtain ⟨there, placed⟩ := settled.searched item mem
          have rejects := anyOf_eq_false_iff.mp answer item mem
          rw [AnyItem.exact_eq there placed,
            if_pos ⟨(single item mem).mp isName, inside⟩] at rejects
          exact (matchesQualifier_long long).2 all rejects

/-- The two filters choose the same wrappers, when they leave the same number. -/
theorem matched_of_length {l : List WrapperItem}
    (same : (l.filter (·.matched Pattern)).length =
      (l.filter (·.selected printed Pattern qualifiers interface)).length) :
    ∀ w ∈ l, w.matched Pattern → w.selected printed Pattern qualifiers interface := by
  have sublist : (l.filter (·.selected printed Pattern qualifiers interface)).Sublist
      (l.filter (·.matched Pattern)) := List.monotone_filter_right l selected_le_matched
  have equal := sublist.eq_of_length same.symm
  intro w mem matched
  have kept : w ∈ l.filter (·.matched Pattern) := List.mem_filter.mpr ⟨mem, matched⟩
  rw [← equal] at kept
  exact (List.mem_filter.mp kept).2

theorem exists_map_some {α β : Type} {f : α → Option β} {l : List α}
    (all : ∀ a ∈ l, (f a).isSome) : ∃ l' : List β, l'.map some = l.map f := by
  induction l with
  | nil => exact ⟨[], rfl⟩
  | cons a l ih =>
      obtain ⟨first, later⟩ := List.forall_mem_cons.mp all
      obtain ⟨b, isB⟩ := Option.isSome_iff_exists.mp first
      obtain ⟨l', same⟩ := ih later
      exact ⟨b :: l', by rw [List.map_cons, List.map_cons, isB, same]⟩

/-- The wrappers that a search for a pattern finds. -/
theorem ItemTree.Settled.RegexRegInfo_eq_some_iff {defs : List MessageDef}
    (settled : root.Settled) :
    root.RegexRegInfo (some Pattern) qualifiers interface = some defs ↔
      defs.map some = (root.allWrappers.filter (·.matched Pattern)).map (·.RegInfo none) := by
  have each : ∀ w ∈ root.allWrappers,
      w.RegexMatch (some Pattern) qualifiers interface = some (w.matched Pattern) :=
    fun w mem => (settled w mem).RegexMatch_eq
  have same : (root.allWrappers.filter fun w =>
      w.RegexMatch (some Pattern) qualifiers interface = some true) =
        root.allWrappers.filter (·.matched Pattern) :=
    List.filter_congr fun w mem => by rw [each w mem]; simp
  rw [RegexRegInfo_eq, collect_eq_some_iff, same]
  exact and_iff_right fun w mem => each w mem ▸ rfl

/-- No wrapper with a definition is a request with a fault message. -/
theorem fine_of_found {l : List WrapperItem} {defs : List MessageDef}
    (found : defs.map some = (l.filter (·.matched Pattern)).map (·.RegInfo none)) :
    ∀ w ∈ l, w.matched Pattern → ¬ w.FaultyRequest := by
  intro w mem matched
  rw [← WrapperItem.isSome_RegInfo_none]
  have isDef := List.mem_map_of_mem (f := (·.RegInfo none)) (List.mem_filter.mpr ⟨mem, matched⟩)
  rw [← found] at isDef
  obtain ⟨Def, -, isDef⟩ := List.mem_map.mp isDef
  exact isDef ▸ rfl

/-- What is found for a name that the pattern stands for. -/
theorem ItemTree.Settled.single_iff {defs : List MessageDef} (settled : root.Settled)
    (single : root.Singles Pattern name)
    (filters : ∀ w ∈ root.allWrappers, w.matched Pattern →
      w.selected printed Pattern qualifiers interface)
    (found : defs.map some =
      (root.allWrappers.filter (·.matched Pattern)).map (·.RegInfo none)) :
    root.ExactRegInfo printed (some name) qualifiers interface = some defs ↔
      ∀ w ∈ root.allWrappers, w.matched Pattern → qualifiers.length ≤ 1 ∧ w.KeepsID name := by
  have fine := fine_of_found found
  rw [ExactRegInfo_eq, RegInfos_eq_collect, collect_eq_some_iff, found]
  -- an unmatched wrapper is not found under the name, a matched one is selected
  have answers : (∀ w ∈ root.allWrappers, w.matched Pattern → qualifiers.length ≤ 1) →
      ∀ w ∈ root.allWrappers, w.RegInfoMatch printed (some name) qualifiers interface =
        some (w.matched Pattern) := by
    intro short w mem
    by_cases matched : w.matched Pattern
    · rw [(settled w mem).RegInfoMatch_short (short w mem matched) (single w mem), matched,
        filters w mem matched]
    · rw [(settled w mem).RegInfoMatch_none, Bool.eq_false_iff.mpr matched]
      intro item isItem isName
      exact matched (List.any_eq_true.mpr ⟨item, isItem, (single w mem item isItem).mpr isName⟩)
  have short_of_some : (∀ w ∈ root.allWrappers,
      (w.RegInfoMatch printed (some name) qualifiers interface).isSome) →
        ∀ w ∈ root.allWrappers, w.matched Pattern → qualifiers.length ≤ 1 := by
    intro all w mem matched
    by_contra long
    have answer := all w mem
    rw [(settled w mem).RegInfoMatch_long long (single w mem) (filters w mem matched)] at answer
    exact absurd answer nofun
  have filtered : (∀ w ∈ root.allWrappers, w.matched Pattern → qualifiers.length ≤ 1) →
      (root.allWrappers.filter fun w =>
        w.RegInfoMatch printed (some name) qualifiers interface = some true) =
          root.allWrappers.filter (·.matched Pattern) := fun short =>
    List.filter_congr fun w mem => by rw [answers short w mem]; simp
  constructor
  · rintro ⟨all, same⟩ w mem matched
    have short := short_of_some all
    rw [filtered short] at same
    refine ⟨short w mem matched, ?_⟩
    rw [← (settled w mem).RegInfo_eq_iff (fine w mem matched)]
    exact (List.map_inj_left.mp same w (List.mem_filter.mpr ⟨mem, matched⟩)).symm
  · intro agrees
    have short := fun w mem matched => (agrees w mem matched).1
    refine ⟨fun w mem => answers short w mem ▸ rfl, ?_⟩
    rw [filtered short]
    apply List.map_congr_left
    intro w kept
    obtain ⟨mem, matched⟩ := List.mem_filter.mp kept
    exact (((settled w mem).RegInfo_eq_iff (fine w mem matched)).mpr (agrees w mem matched).2).symm

end Comparing

/-- **A pattern finds what it should** exactly where nothing is filtered out: for every accepted
document, pattern, list of qualifiers and interface. -/
theorem searches_iff {d : DocumentSyntax} {x : XTEDS} (accepted : Parse d = .ok x)
    (printed : CString → CString) (Pattern : RegularExpression) (qualifiers : List Pair)
    (interface : Option CString) : Searches printed x.treeRoot Pattern qualifiers interface ↔
      Unfiltered printed x.treeRoot Pattern qualifiers interface := by
  have settled := settled_of_Parse accepted
  constructor
  · rintro ⟨defs, found, selected, named⟩
    have found := settled.RegexRegInfo_eq_some_iff.mp found
    have filters : ∀ w ∈ x.treeRoot.allWrappers, w.matched Pattern →
        w.selected printed Pattern qualifiers interface := by
      apply matched_of_length
      have lengths := congrArg List.length (found.symm.trans selected)
      rwa [List.length_map, List.length_map] at lengths
    exact ⟨filters, fine_of_found found, fun name single =>
      (settled.single_iff single filters found).mp (named name single)⟩
  · rintro ⟨filters, requests, single⟩
    obtain ⟨defs, found⟩ := exists_map_some (f := (·.RegInfo none))
      (l := x.treeRoot.allWrappers.filter (·.matched Pattern)) fun w kept =>
        WrapperItem.isSome_RegInfo_none.mpr
          (requests w (List.mem_filter.mp kept).1 (List.mem_filter.mp kept).2)
    refine ⟨defs, settled.RegexRegInfo_eq_some_iff.mpr found, ?_, fun name one =>
      (settled.single_iff one filters found).mpr (single name one)⟩
    rw [found]
    apply congrArg
    exact List.filter_congr fun w mem =>
      Bool.eq_iff_iff.mpr ⟨filters w mem, selected_le_matched w⟩

/-- The expression `m`: the first of these letters in a text. -/
def letterM : RegularExpression where
  leftmost _ rest := (rest.bytes.findIdx? (· == 109)).map fun i => ⟨(i, i + 1), []⟩
  inside := by
    intro before rest m here
    obtain ⟨i, isAt, rfl⟩ := Option.map_eq_some_iff.mp here
    obtain ⟨lt, -⟩ := List.findIdx?_eq_some_iff_getElem.mp isAt
    exact ⟨Nat.le_succ i, lt⟩
  groups_inside := by
    intro before rest m here g mem
    obtain ⟨i, -, rfl⟩ := Option.map_eq_some_iff.mp here
    exact absurd mem List.not_mem_nil

/-- Without qualifiers and interface the pattern finds the message. -/
theorem searches_letterM : Searches id demoMessageTree.treeRoot letterM [] none := by
  have accepted : Parse (demoNotification "2" []) = .ok demoMessageTree := rfl
  refine (searches_iff accepted id letterM [] none).mpr ⟨?_, ?_, ?_⟩
  · intro w mem _
    obtain rfl : w = .notification demoMessage none := List.mem_singleton.mp mem
    rfl
  · intro w mem _
    obtain rfl : w = .notification demoMessage none := List.mem_singleton.mp mem
    rintro ⟨c, d, f, same⟩
    cases same
  · intro name _ w mem _
    obtain rfl : w = .notification demoMessage none := List.mem_singleton.mp mem
    exact ⟨Nat.zero_le 1, fun m none_ => absurd none_ List.not_mem_nil⟩

/-- A pattern is given with the name of another interface: the message is found all the same. -/
theorem not_searches : ¬ ∀ (d : DocumentSyntax) (x : XTEDS), Parse d = .ok x →
    ∀ printed Pattern qualifiers interface,
      Searches printed x.treeRoot Pattern qualifiers interface := by
  intro all
  obtain ⟨defs, found, selected, -⟩ := all (demoNotification "2" []) demoMessageTree rfl id
    letterM [] (some (.ofString "Other"))
  have answer : demoMessageTree.treeRoot.RegexRegInfo (some letterM) [] (some (.ofString "Other")) =
      some [⟨⟨1, 2⟩, [(some (.ofString "m"), ⟨1, 2⟩)]⟩] := rfl
  have none_ : (demoMessageTree.treeRoot.allWrappers.filter
      (·.selected id letterM [] (some (.ofString "Other")))) = [] := rfl
  rw [none_, List.map_nil, List.map_eq_nil_iff] at selected
  rw [answer, selected] at found
  exact absurd found nofun

end Sdm.XTEDSItem
