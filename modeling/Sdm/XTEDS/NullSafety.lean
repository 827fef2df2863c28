import Sdm.XTEDS.Items

/-!
Which documents make `xTEDS::Parse` use something that is missing.

* `isSome_xTEDS_iff`: the actions of the parse copy a missing name exactly where a fault message
  stands in an interface without one.
* `defined_addInterface`: verification and the tree use nothing that is missing, because every
  variable of the tree is named, and a wrapper has the name of its interface.
* `Parse_defined_iff`: `Parse` returns exactly on the other documents whose header is there, or is
  not looked at.
-/

namespace Sdm.Document

open Lib

/-! ### The actions -/

section Actions

variable {κ α : Type} {single : κ → CString → α} {merge : α → α → α}

theorem ofAttributes_eq_none_iff {attributes : Attributes κ} :
    ofAttributes single merge attributes = none ↔ attributes = [] := by
  have stays : ∀ (l : Attributes κ) (a : α),
      l.foldl (fun built x => mergeWith merge built (some (single x.1 x.2))) (some a) ≠ none := by
    intro l
    induction l with
    | nil => simp
    | cons x rest ih => exact fun a => ih _
  cases attributes with
  | nil => simp [ofAttributes]
  | cons x rest => exact iff_of_false (stays rest _) (List.cons_ne_nil _ _)

theorem mergeWith_eq_none_iff {a b : Option α} : mergeWith merge a b = none ↔ a = none ∧
    b = none := by
  cases a <;> cases b <;> simp [mergeWith]

/-- A message element leaves none only where it has no attributes and its tag is closed at once. -/
theorem PlainSyntax.build_eq_none_iff {m : PlainSyntax} :
    m.build = none ↔ m.attributes = [] ∧ m.elements = none := by
  unfold PlainSyntax.build
  cases m.elements with
  | none => simp [ofAttributes_eq_none_iff]
  | some e => simp [mergeWith_eq_none_iff]

/-- A header is missing where nothing is written in it. -/
theorem AppDevice.build_eq_none_iff {a : AppDevice} : a.build = none ↔
    a = .closed [] ∨ ∃ subelements, a = .device [] subelements ∧
      DeviceSubelement.qualifier ∉ subelements := by
  have subs : ∀ (l : List DeviceSubelement) (o : Option AppDevAttr),
      l.foldl (fun built sub => mergeWith AppDevAttr.merge built sub.build) o = none ↔
        o = none ∧ DeviceSubelement.qualifier ∉ l := by
    intro l
    induction l with
    | nil => simp
    | cons sub rest ih =>
        intro o
        rw [List.foldl_cons, ih, mergeWith_eq_none_iff]
        cases sub <;> simp [DeviceSubelement.build]
  cases a with
  | closed attributes => simp [AppDevice.build, ofAttributes_eq_none_iff]
  | application attributes => simp [AppDevice.build, mergeWith_eq_none_iff]
  | device attributes subelements =>
      simp [AppDevice.build, mergeWith_eq_none_iff, ofAttributes_eq_none_iff, subs]

/-- An interface has a name where one is written. -/
theorem InterfaceSyntax.isSome_name {i : InterfaceSyntax} :
    i.head.name.isSome ↔ ∃ a ∈ i.attributes, a.1 = .name := by
  have walk : ∀ (l : Attributes InterfaceAttribute) (face : Interface),
      (l.foldl (fun built a => built.merge (a.1.single a.2)) face).name.isSome ↔
        face.name.isSome ∨ ∃ a ∈ l, a.1 = .name := by
    intro l
    induction l with
    | nil => simp
    | cons a rest ih =>
        obtain ⟨k, s⟩ := a
        intro face
        rw [List.foldl_cons, ih]
        cases k <;> cases h : face.name <;> simp [Interface.merge, InterfaceAttribute.single, h]
  simpa [InterfaceSyntax.head] using walk i.attributes {}

/-- The tag of an interface leaves no wrappers. -/
theorem InterfaceSyntax.head_wrappers (i : InterfaceSyntax) :
    i.head.vars = [] ∧ i.head.commands = [] ∧ i.head.notifications = [] ∧ i.head.requests = [] := by
  have walk : ∀ (l : Attributes InterfaceAttribute) (face : Interface),
      (face.vars = [] ∧ face.commands = [] ∧ face.notifications = [] ∧ face.requests = []) →
        let built := l.foldl (fun built a => built.merge (a.1.single a.2)) face
        built.vars = [] ∧ built.commands = [] ∧ built.notifications = [] ∧ built.requests = [] := by
    intro l
    induction l with
    | nil => exact fun _ h => h
    | cons a rest ih =>
        obtain ⟨k, s⟩ := a
        rintro face ⟨hv, hc, hn, hr⟩
        refine ih _ ?_
        cases k <;> simp [Interface.merge, InterfaceAttribute.single, firstOf, hv, hc, hn, hr]
  exact walk i.attributes {} ⟨rfl, rfl, rfl, rfl⟩

/-- A document has a name where one is written. -/
theorem isSome_merge_name (attributes : Attributes XTEDSAttribute) (x : Xteds) :
    (attributes.foldl (fun built a => built.merge (a.1.single a.2)) x).name.isSome ↔
      x.name.isSome ∨ ∃ a ∈ attributes, a.1 = .name := by
  induction attributes generalizing x with
  | nil => simp
  | cons a rest ih =>
      obtain ⟨k, s⟩ := a
      rw [List.foldl_cons, ih]
      cases k <;> cases h : x.name <;> simp [Xteds.merge, XTEDSAttribute.single, h]

end Actions

theorem Wrapper.isSome_addReferences {name id : Option CString} {w : Wrapper} :
    (w.addReferences name id).isSome ↔ (w.fault_message ≠ none → name.isSome) := by
  unfold Wrapper.addReferences PlainMsg.faultReferences
  cases w.fault_message <;> cases name <;> simp

/-- The fault message that stands in a wrapper. -/
def MessageSyntax.fault : MessageSyntax → Option PlainSyntax
  | command _ fault => fault
  | notification _ fault => fault
  | request _ _ fault => fault

/-- The wrapper has a fault message with attributes, or one whose tag is not closed at once. -/
def MessageSyntax.HasFault (m : MessageSyntax) : Prop :=
  ∃ fault, m.fault = some fault ∧ (fault.attributes ≠ [] ∨ fault.elements ≠ none)

theorem MessageSyntax.hasFault_iff {m : MessageSyntax} :
    m.HasFault ↔ m.fault.bind PlainSyntax.build ≠ none := by
  unfold MessageSyntax.HasFault
  cases m.fault with
  | none => simp
  | some fault =>
      simp only [Option.some.injEq, exists_eq_left', Option.bind_some, ne_eq,
        PlainSyntax.build_eq_none_iff]
      tauto

theorem isSome_interface_add_references {a : Interface} {v : List Variable} {m : Messages} :
    (interface_add_references a v m).isSome ↔
      ∀ w ∈ m.commands ++ m.notifications ++ m.requests, w.fault_message ≠ none →
        a.name.isSome := by
  have bind_isSome : ∀ {α β : Type} {o : Option α} {f : α → Option β},
      (o >>= f).isSome ↔ o.isSome ∧ ∀ x, o = some x → (f x).isSome := by
    intro α β o f
    cases o <;> simp
  simp only [interface_add_references, bind_isSome, Building.isSome_mapM,
    Wrapper.isSome_addReferences, List.forall_mem_append]
  constructor
  · rintro ⟨commands, rest⟩
    obtain ⟨cs, hcs⟩ := Option.isSome_iff_exists.mp (Building.isSome_mapM.mpr fun w mem =>
      Wrapper.isSome_addReferences.mpr (commands w mem))
    obtain ⟨notifications, rest⟩ := rest cs hcs
    obtain ⟨ns, hns⟩ := Option.isSome_iff_exists.mp (Building.isSome_mapM.mpr fun w mem =>
      Wrapper.isSome_addReferences.mpr (notifications w mem))
    exact ⟨⟨commands, notifications⟩, (rest ns hns).1⟩
  · rintro ⟨⟨commands, notifications⟩, requests⟩
    exact ⟨commands, fun _ _ => ⟨notifications, fun _ _ => ⟨requests, fun _ _ => rfl⟩⟩⟩

/-- A wrapper has the fault message of its element, whatever its kind. -/
theorem messageSection_faults {messages : List MessageSyntax} {P : Option PlainMsg → Prop} :
    (∀ w ∈ (messageSection messages).commands ++ (messageSection messages).notifications ++
        (messageSection messages).requests, P w.fault_message) ↔
      ∀ m ∈ messages, P (m.fault.bind PlainSyntax.build) := by
  simp only [messageSection, List.forall_mem_append, List.mem_filterMap]
  constructor
  · rintro ⟨⟨commands, notifications⟩, requests⟩ m mem
    cases m with
    | command cmds fault => exact commands _ ⟨_, mem, rfl⟩
    | notification data fault => exact notifications _ ⟨_, mem, rfl⟩
    | request cmds data fault => exact requests _ ⟨_, mem, rfl⟩
  · intro all
    refine ⟨⟨?_, ?_⟩, ?_⟩
    all_goals
      rintro w ⟨m, mem, made⟩
      cases m <;> cases made
      exact all _ mem

/-- A fault message stands in an interface without a name. -/
def InterfaceSyntax.NamelessFault (i : InterfaceSyntax) : Prop :=
  (∀ a ∈ i.attributes, a.1 ≠ .name) ∧ ∃ e, i.elements = some e ∧ ∃ m ∈ e.messages, m.HasFault

theorem InterfaceSyntax.isSome_build {i : InterfaceSyntax} : i.build.isSome ↔
    ¬ i.NamelessFault := by
  unfold InterfaceSyntax.build InterfaceSyntax.NamelessFault
  cases i.elements with
  | none => simp
  | some e =>
      rw [isSome_interface_add_references,
        messageSection_faults (P := fun f => f ≠ none → i.head.name.isSome)]
      simp only [Option.some.injEq, exists_eq_left', InterfaceSyntax.isSome_name,
        MessageSyntax.hasFault_iff, not_and, not_exists]
      constructor
      · intro named nameless m mem hasFault
        obtain ⟨a, mem, isName⟩ := named m mem hasFault
        exact nameless a mem isName
      · intro fine m mem hasFault
        by_contra nameless
        exact fine (fun a mem isName => nameless ⟨a, mem, isName⟩) m mem hasFault

/-- The actions use a missing name only for a fault message in an interface without one. -/
theorem isSome_xTEDS_iff {d : DocumentSyntax} :
    d.xTEDS.isSome ↔ ∀ i ∈ d.interfaces, ¬ i.NamelessFault := by
  unfold DocumentSyntax.xTEDS
  rw [← Building.isSome_mapM.trans (forall₂_congr fun i _ => InterfaceSyntax.isSome_build)]
  cases d.interfaces.mapM InterfaceSyntax.build <;> simp

/-- The wrappers of an interface have its name. -/
def Interface.Referenced (face : Interface) : Prop :=
  ∀ w ∈ face.commands ++ face.notifications ++ face.requests, w.interface_name = face.name

theorem Wrapper.interface_name_of_addReferences {name id : Option CString} {w w' : Wrapper}
    (made : w.addReferences name id = some w') : w'.interface_name = name := by
  obtain ⟨fault, -, rfl⟩ := Option.map_eq_some_iff.mp made
  rfl

theorem interface_name_of_mapM {name id : Option CString} {l l' : List Wrapper}
    (made : l.mapM (Wrapper.addReferences name id) = some l') :
    ∀ w ∈ l', w.interface_name = name := by
  intro w mem
  obtain ⟨w₀, -, made⟩ := Building.exists_of_mapM made w mem
  exact Wrapper.interface_name_of_addReferences made

theorem InterfaceSyntax.referenced {i : InterfaceSyntax} {face : Interface}
    (made : i.build = some face) : face.Referenced := by
  unfold InterfaceSyntax.build at made
  split at made
  · cases made
    obtain ⟨-, commands, notifications, requests⟩ := i.head_wrappers
    intro w mem
    simp [commands, notifications, requests] at mem
  · obtain ⟨commands, madeC, made⟩ := Option.bind_eq_some_iff.mp made
    obtain ⟨notifications, madeN, made⟩ := Option.bind_eq_some_iff.mp made
    obtain ⟨requests, madeR, made⟩ := Option.bind_eq_some_iff.mp made
    cases made
    exact List.forall_mem_append.mpr ⟨List.forall_mem_append.mpr
      ⟨interface_name_of_mapM madeC, interface_name_of_mapM madeN⟩, interface_name_of_mapM madeR⟩

/-- What the parse leaves of the interfaces of a document. -/
theorem xTEDS_interfaces {d : DocumentSyntax} {parsed : Xteds} (made : d.xTEDS = some parsed) :
    parsed.header = d.appDevice.build ∧
      (parsed.name.isSome ↔ ∃ a ∈ d.attributes, a.1 = .name) ∧
      ∀ face ∈ parsed.interfaces, face.Referenced := by
  obtain ⟨interfaces, madeI, made⟩ := Option.bind_eq_some_iff.mp made
  cases made
  refine ⟨rfl, by simpa using isSome_merge_name d.attributes {}, ?_⟩
  intro face mem
  obtain ⟨i, -, made⟩ := Building.exists_of_mapM madeI face mem
  exact i.referenced made

end Sdm.Document

namespace Sdm.XTEDSItem

open Lib Document

/-! ### Verification and the tree -/

/-- Every variable has a name and the name of its interface. -/
def Named (list : List VariableItem) : Prop :=
  ∀ var ∈ list, var.name.isSome ∧ var.interfaceName.isSome

section Tree

variable {list : List VariableItem} {face msg : Option CString} {root root' : ItemTree}
  {w : Wrapper}

theorem isSome_findHere {name : CString} {var : VariableItem}
    (named : var.name.isSome ∧ var.interfaceName.isSome) : (findHere name face var).isSome := by
  obtain ⟨n, hn⟩ := Option.isSome_iff_exists.mp named.1
  obtain ⟨i, hi⟩ := Option.isSome_iff_exists.mp named.2
  by_cases same : n = name <;> cases face <;> simp [findHere, equals?, hn, hi, same]

theorem Find_ne_none (name : CString) (face : Option CString) (named : Named list) :
    Find name face list ≠ none := by
  unfold Find
  rw [ne_eq, Option.map_eq_none_iff]
  refine scan_ne_fault fun var mem => ?_
  rw [ne_eq, Option.map_eq_none_iff, ← ne_eq, Option.ne_none_iff_isSome]
  exact isSome_findHere (named var mem)

theorem defined_setVariables {refs : List CString} (named : Named list) (hmsg : msg.isSome)
    (hface : face.isSome) : (setVariables msg face refs list).Defined := by
  refine Building.defined_mapM fun ref _ => ?_
  have found := Find_ne_none ref face named
  cases h : Find ref face list with
  | none => exact absurd h found
  | some var =>
      cases var with
      | none => simp [Building.defined_bind, Building.defined_check,
        Verdict.isSome_reject, hmsg, hface]
      | some var => simp

theorem defined_SetPlainMsg {m : PlainMsg} (h : XTEDSVerification.PlainVerified m)
    (named : Named list) : (SetPlainMsg m list).Defined :=
  Building.defined_bind.mpr
    ⟨defined_setVariables named h.name h.interface_name, fun _ _ => Building.defined_pure⟩

theorem defined_SetDataMsg {m : DataMsg} (h : XTEDSVerification.DataVerified m)
    (named : Named list) : (SetDataMsg m list).Defined :=
  Building.defined_bind.mpr
    ⟨defined_setVariables named h.name h.interface_name, fun _ _ => Building.defined_pure⟩

theorem defined_SetFault {fault : Option PlainMsg}
    (h : ∀ f, fault = some f → XTEDSVerification.PlainVerified f) (named : Named list) :
    (SetFault fault list).Defined := by
  cases fault with
  | none => exact Building.defined_ok
  | some f =>
      exact Building.defined_map (defined_SetPlainMsg (h f rfl) named)

theorem required_of_head {α : Type} {l : List α} {a : α} (h : l.head? = some a) :
    required l = .ok a := by
  cases l with
  | nil => simp at h
  | cons b rest =>
      cases h
      rfl

theorem defined_validFault (hface : w.interface_name.isSome) : (validFault w).Defined := by
  unfold validFault
  split
  · exact Building.defined_ok
  · exact defined_validMsg (XTEDSVerification.isSome_VerifyFaultMsg _) hface

theorem defined_addVariable (var : Variable) : (addVariable root var).Defined := by
  refine Building.defined_bind.mpr
    ⟨Building.defined_check.mpr (XTEDSVerification.isSome_VerifyVariable var), fun _ ok => ?_⟩
  have verified := XTEDSVerification.VerifyVariable_eq_true_iff.mp
    (Building.check_eq_ok_iff.mp ok)
  rw [SetVariable_of_verified verified]
  exact Building.defined_ok

theorem defined_addCommand (hface : w.interface_name.isSome) (named : Named root.vars) :
    (addCommand root w).Defined := by
  refine Building.defined_bind.mpr ⟨defined_validMsg
    (XTEDSVerification.isSome_VerifyCommandMsg _) hface, fun _ command => ?_⟩
  refine Building.defined_bind.mpr ⟨defined_validFault hface, fun _ fault => ?_⟩
  obtain ⟨cmd, head, verified⟩ := XTEDSVerification.VerifyCommandMsg_eq_true_iff.mp
    (validMsg_eq_ok_iff.mp command)
  simp only [SetCommand, required_of_head head, Building.defined_bind]
  refine ⟨⟨Building.defined_ok, fun _ same => ?_⟩, fun _ _ => Building.defined_pure⟩
  cases same
  exact ⟨defined_SetPlainMsg verified named, fun _ _ =>
    ⟨defined_SetFault (validFault_eq_ok_iff.mp fault) named, fun _ _ => Building.defined_pure⟩⟩

theorem defined_addNotification (hface : w.interface_name.isSome) (named : Named root.vars) :
    (addNotification root w).Defined := by
  refine Building.defined_bind.mpr ⟨defined_validMsg
    (XTEDSVerification.isSome_VerifyDataMsg _) hface, fun _ data => ?_⟩
  refine Building.defined_bind.mpr ⟨defined_validFault hface, fun _ fault => ?_⟩
  obtain ⟨dat, head, verified⟩ := XTEDSVerification.VerifyDataMsg_eq_true_iff.mp
    (validMsg_eq_ok_iff.mp data)
  simp only [SetNotification, required_of_head head, Building.defined_bind]
  refine ⟨⟨Building.defined_ok, fun _ same => ?_⟩, fun _ _ => Building.defined_pure⟩
  cases same
  exact ⟨defined_SetDataMsg verified named, fun _ _ =>
    ⟨defined_SetFault (validFault_eq_ok_iff.mp fault) named, fun _ _ => Building.defined_pure⟩⟩

theorem defined_addRequest (hface : w.interface_name.isSome) (named : Named root.vars) :
    (addRequest root w).Defined := by
  refine Building.defined_bind.mpr ⟨defined_validMsg
    (XTEDSVerification.isSome_VerifyDataMsg _) hface, fun _ data => ?_⟩
  refine Building.defined_bind.mpr ⟨defined_validMsg
    (XTEDSVerification.isSome_VerifyCommandMsg _) hface, fun _ command => ?_⟩
  refine Building.defined_bind.mpr ⟨defined_validFault hface, fun _ fault => ?_⟩
  obtain ⟨dat, headD, verifiedD⟩ := XTEDSVerification.VerifyDataMsg_eq_true_iff.mp
    (validMsg_eq_ok_iff.mp data)
  obtain ⟨cmd, headC, verifiedC⟩ := XTEDSVerification.VerifyCommandMsg_eq_true_iff.mp
    (validMsg_eq_ok_iff.mp command)
  simp only [SetRequest, required_of_head headD, required_of_head headC, Building.defined_bind]
  refine ⟨⟨Building.defined_ok, fun _ same => ?_⟩, fun _ _ => Building.defined_pure⟩
  cases same
  refine ⟨Building.defined_ok, fun _ same => ?_⟩
  cases same
  exact ⟨defined_SetPlainMsg verifiedC named, fun _ _ => ⟨defined_SetDataMsg verifiedD named,
    fun _ _ => ⟨defined_SetFault (validFault_eq_ok_iff.mp fault) named,
      fun _ _ => Building.defined_pure⟩⟩⟩

theorem Named.addVariable {var : Variable} (named : Named root.vars)
    (added : addVariable root var = .ok root') : Named root'.vars := by
  obtain ⟨verified, rfl⟩ := addVariable_eq_ok_iff.mp added
  exact List.forall_mem_append.mpr
    ⟨named, List.forall_mem_singleton.mpr ⟨verified.name, verified.interface_name⟩⟩

theorem Named.addVariables {vars : List Variable} (named : Named root.vars)
    (added : vars.foldlM XTEDSItem.addVariable root = .ok root') : Named root'.vars :=
  Building.foldlM_induct (P := fun r => Named r.vars) named
    (fun _ _ _ _ named => named.addVariable) added

/-- What leaves the variables alone leaves them named. -/
theorem Named.run {g : ItemTree → Wrapper → Building ItemTree} {ws : List Wrapper}
    (keeps : ∀ {r r' w}, g r w = .ok r' → r'.vars = r.vars) (named : Named root.vars)
    (added : ws.foldlM g root = .ok root') : Named root'.vars :=
  Building.foldlM_induct (P := fun r => Named r.vars) named
    (fun _ _ _ _ named added => (keeps added).symm ▸ named) added

theorem Named.addInterface {face : Interface} (named : Named root.vars)
    (added : addInterface root face = .ok root') : Named root'.vars := by
  obtain ⟨-, r₁, run₁, r₂, run₂, r₃, run₃, run₄⟩ := addInterface_eq_ok_iff.mp added
  exact (((named.addVariables run₁).run vars_addCommand run₂).run vars_addNotification run₃).run
    vars_addRequest run₄

theorem defined_run {g : ItemTree → Wrapper → Building ItemTree} {ws : List Wrapper}
    (keeps : ∀ {r r' w}, g r w = .ok r' → r'.vars = r.vars)
    (each : ∀ {r w}, w.interface_name.isSome → Named r.vars → (g r w).Defined)
    (hface : ∀ w ∈ ws, w.interface_name.isSome) (named : Named root.vars) :
    (ws.foldlM g root).Defined :=
  Building.defined_foldlM (P := fun r => Named r.vars) named fun _ w mem named =>
    ⟨each (hface w mem) named, fun _ added => (keeps added).symm ▸ named⟩

/-- No interface makes verification or the tree use something that is missing. -/
theorem defined_addInterface {face : Interface} (referenced : face.Referenced)
    (named : Named root.vars) : (addInterface root face).Defined := by
  refine Building.defined_bind.mpr ⟨Building.defined_check.mpr
    (XTEDSVerification.isSome_VerifyInterface face), fun _ ok => ?_⟩
  have name := (XTEDSVerification.VerifyInterface_eq_true_iff.mp (Building.check_eq_ok_iff.mp ok)).1
  have hface : ∀ w ∈ face.commands ++ face.notifications ++ face.requests,
      w.interface_name.isSome := fun w mem => (referenced w mem).symm ▸ name
  simp only [List.forall_mem_append] at hface
  obtain ⟨⟨hcommands, hnotifications⟩, hrequests⟩ := hface
  refine Building.defined_bind.mpr
    ⟨Building.defined_check.mpr (Verdict.isSome_require.mpr (by simp)), fun _ _ => ?_⟩
  refine Building.defined_bind.mpr ⟨Building.defined_foldlM (P := fun r => Named r.vars) named
    fun _ var _ named => ⟨defined_addVariable var, fun _ => named.addVariable⟩, fun r₁ run₁ => ?_⟩
  have named₁ := named.addVariables run₁
  refine Building.defined_bind.mpr
    ⟨defined_run vars_addCommand defined_addCommand hcommands named₁, fun r₂ run₂ => ?_⟩
  have named₂ := named₁.run vars_addCommand run₂
  refine Building.defined_bind.mpr
    ⟨defined_run vars_addNotification defined_addNotification hnotifications named₂,
      fun r₃ run₃ => ?_⟩
  have named₃ := named₂.run vars_addNotification run₃
  exact defined_run vars_addRequest defined_addRequest hrequests named₃

/-- The rest of `Parse` uses only a header that may be missing. -/
theorem defined_build_iff {parsed : Xteds}
    (referenced : ∀ face ∈ parsed.interfaces, face.Referenced) :
    (build parsed).Defined ↔ parsed.header ≠ none := by
  unfold build
  cases parsed.header with
  | none => simp
  | some header =>
      simp only [Building.defined_bind, Building.defined_check, Verdict.isSome_require, ne_eq,
        reduceCtorEq, not_false_eq_true, iff_true, Option.isSome_some, Building.defined_pure,
        implies_true, and_true, true_and, List.not_mem_nil, false_implies]
      intro _ _ _ _
      exact Building.defined_foldlM (P := fun r => Named r.vars)
        (fun var mem => absurd mem List.not_mem_nil)
        fun _ face mem named => ⟨defined_addInterface (referenced face mem) named,
          fun _ => named.addInterface⟩

end Tree

/-- The header of a document is used although nothing is written in it. -/
def HeaderMissing (d : DocumentSyntax) : Prop :=
  d.encodingKnown ∧ (∃ a ∈ d.attributes, a.1 = .name) ∧
    (d.appDevice = .closed [] ∨ ∃ subelements, d.appDevice = .device [] subelements ∧
      DeviceSubelement.qualifier ∉ subelements)

/-- **`Parse` returns** exactly on the documents in which no fault message stands in an interface
without a name, and the header is not used where nothing is written in it. -/
theorem Parse_defined_iff (d : DocumentSyntax) :
    (Parse d).Defined ↔ (∀ i ∈ d.interfaces, ¬ i.NamelessFault) ∧ ¬ HeaderMissing d := by
  rw [← isSome_xTEDS_iff]
  unfold Parse parsexTEDS HeaderMissing
  cases made : d.xTEDS with
  | none => simp
  | some parsed =>
      obtain ⟨header, name, referenced⟩ := xTEDS_interfaces made
      rw [← AppDevice.build_eq_none_iff, ← header, ← name]
      cases d.encodingKnown with
      | false => simp
      | true => simp [Building.defined_bind, Building.defined_check, Verdict.isSome_require,
          Building.check_eq_ok_iff, Verdict.require_eq_true_iff, defined_build_iff referenced]

/-- An `Application` without attributes leaves no header. -/
theorem not_Parse_defined : ¬ ∀ d : DocumentSyntax, (Parse d).Defined := by
  intro all
  refine all ⟨none, [(.name, .ofString "demo")], .closed [], []⟩ ?_
  rfl

end Sdm.XTEDSItem
