import Mathlib.Data.Nat.Digits.Defs
import Sdm.Lib.Scan
import Sdm.Lib.Building
import Sdm.Message.ComponentID
import Sdm.XTEDS.Verification

/-!
The items of an xTEDS document and the tree that `xTEDS::Parse` builds of them.

An item copies the attributes of its element. Lists of qualifiers, variables and wrappers keep the
order of the document. A message refers to variables of its interface, and to nothing else.

* `addVariable_eq_ok_iff`, `addCommand_eq_ok_iff`, `addNotification_eq_ok_iff`,
  `addRequest_eq_ok_iff`: what every function adds to the tree, and when.
* `Parse_eq_ok_iff`: an accepted document has a tree, a name, and a named header with a kind.
-/

namespace Sdm.XTEDSItem

open Lib Document

/-- `xTEDSQualifier`. -/
structure Qualifier where
  name : Option CString
  description : Option CString
  units : Option CString
  deriving DecidableEq

/-- `xTEDSItem`. -/
structure Item where
  name : Option CString
  description : Option CString
  qualifiers : List Qualifier
  interfaceName : Option CString
  interfaceMessageID : SDMMessageID
  deriving DecidableEq

/-- `SDMDataTypes`. -/
inductive DataType where
  | SDM_INT08
  | SDM_UINT08
  | SDM_INT16
  | SDM_UINT16
  | SDM_INT32
  | SDM_UINT32
  | SDM_FLOAT32
  | SDM_FLOAT64
  deriving DecidableEq, Repr

/-- How a format is written. -/
def DataType.text : DataType → CString
  | SDM_INT08 => .ofString "INT08"
  | SDM_UINT08 => .ofString "UINT08"
  | SDM_INT16 => .ofString "INT16"
  | SDM_UINT16 => .ofString "UINT16"
  | SDM_INT32 => .ofString "INT32"
  | SDM_UINT32 => .ofString "UINT32"
  | SDM_FLOAT32 => .ofString "FLOAT32"
  | SDM_FLOAT64 => .ofString "FLOAT64"

/-- `xTEDSVariable`. -/
structure VariableItem extends Item where
  dataFormat : DataType
  length : Int
  kind : Option CString
  qualifier : Option CString
  id : Int
  rangeMin : Option CString
  rangeMax : Option CString
  defaultValue : Option CString
  precision : UInt32
  units : Option CString
  accuracy : Option CString
  scaleFactor : Option CString
  scaleUnits : Option CString
  location : Option Location
  orientation : List Orientation
  drange : Option Drange
  curve : Option Curve
  rLow : Option CString
  rHigh : Option CString
  yLow : Option CString
  yHigh : Option CString
  invalidValue : CString
  deriving DecidableEq

/-- `ATTR_INIT_VALUE`. -/
def ATTR_INIT_VALUE : UInt32 := 0xFFFFFFFF

/-- `setInterfaceID`. Another id leaves zero. -/
def interfaceByte (id : Int) : UInt8 := if 0 < id ∧ id < 255 then UInt8.ofInt id else 0

/-- `setMessageID`. Another id leaves zero. -/
def messageByte (id : Int) : UInt8 := if 0 < id ∧ id < 256 then UInt8.ofInt id else 0

/-- The id of an item without one is zero. -/
def byteOf (byte : Int → UInt8) (id : Option CString) : UInt8 :=
  id.elim 0 fun s => byte (toInt s)

/-- `addQualifier` for all qualifiers of an element. -/
def qualifiersOf (qualifiers : List QualifierType) : List Qualifier :=
  qualifiers.map fun q => ⟨q.name, q.value, q.units⟩

/-- The format in `SetVariable`: one that is not known leaves the initial one. -/
def dataFormatOf (format : Option CString) : DataType :=
  match format with
  | none => .SDM_UINT16
  | some s =>
      if s = .ofString "INT08" then .SDM_INT08
      else if s = .ofString "UINT08" then .SDM_UINT08
      else if s = .ofString "INT16" then .SDM_INT16
      else if s = .ofString "UINT16" then .SDM_UINT16
      else if s = .ofString "INT32" then .SDM_INT32
      else if s = .ofString "UINT32" then .SDM_UINT32
      else if s = .ofString "FLOAT32" then .SDM_FLOAT32
      else if s = .ofString "FLOAT64" then .SDM_FLOAT64
      else .SDM_UINT16

/-- What `SetVariable` leaves in a new `xTEDSVariable`. -/
def VariableItem.of (NewVar : Variable) : VariableItem where
  name := NewVar.name
  description := NewVar.description
  qualifiers := qualifiersOf NewVar.qualifiers
  interfaceName := NewVar.interface_name
  interfaceMessageID := ⟨byteOf interfaceByte NewVar.interface_id, 0⟩
  dataFormat := dataFormatOf NewVar.format
  length := NewVar.length.elim 1 toInt
  kind := NewVar.kind
  qualifier := NewVar.qualifier
  id := NewVar.id.elim (-1) toInt
  rangeMin := NewVar.range_min
  rangeMax := NewVar.range_max
  defaultValue := NewVar.default_value
  precision := NewVar.precision.elim ATTR_INIT_VALUE fun s => UInt32.ofInt (toInt s)
  units := NewVar.units
  accuracy := NewVar.accuracy
  scaleFactor := NewVar.scale_factor
  scaleUnits := NewVar.scale_units
  location := NewVar.location_data
  orientation := NewVar.orientation_data
  drange := NewVar.dranges
  curve := NewVar.curves
  rLow := NewVar.r_low
  rHigh := NewVar.r_high
  yLow := NewVar.y_low
  yHigh := NewVar.y_high
  invalidValue := NewVar.invalid_value.getD (.ofString "NS")

/-- `SetVariable` in `AddVariable`. The options of a `Drange` are followed without a check that
there are any. -/
def SetVariable (NewVar : Variable) : Building VariableItem :=
  if NewVar.dranges.any (·.options.isEmpty) then .error .undefined
  else .ok (VariableItem.of NewVar)

/-- `xTEDSMessage`, a command or a fault message. -/
structure MessageItem extends Item where
  vars : List VariableItem
  deriving DecidableEq

inductive MsgArrival where
  | Event
  | Periodic
  deriving DecidableEq, Repr

/-- `xTEDSDataMsg`. The rate is the number with this text. -/
structure DataItem extends MessageItem where
  msg_arrival : MsgArrival
  msg_rate : Option CString
  deriving DecidableEq

/-! ### Variables by name (`xTEDSVariableList`) -/

/-- `strcmp` with a text that is there. -/
def equals? (a : Option CString) (b : CString) : Option Bool := a.map (· = b)

/-- What `Find` asks of a variable. -/
def findHere (name : CString) (face : Option CString) (var : VariableItem) : Option Bool := do
  if ← equals? var.name name then
    match face with
    | none => return true
    | some i => equals? var.interfaceName i
  else return false

/-- `xTEDSVariableList::Find`. -/
def Find (name : CString) (face : Option CString) (list : List VariableItem) :
    Option (Option VariableItem) :=
  (scan (fun var => (findHere name face var).map fun here => if here then some var else none)
    list).map fun found => found.map Prod.snd

/-- The variables of a message: the first reference that is not found is an error. -/
def setVariables (msg face : Option CString) (refs : List CString) (list : List VariableItem) :
    Building (List VariableItem) :=
  refs.mapM fun ref =>
    match Find ref face list with
    | none => .error .undefined
    | some (some var) => .ok var
    | some none => do
        Building.check (Verdict.reject [some ref, face, msg])
        .error .rejected

/-- `SetCommandMsg` and `SetFaultMsg`. -/
def SetPlainMsg (msg : PlainMsg) (list : List VariableItem) : Building MessageItem := do
  let vars ← setVariables msg.name msg.interface_name msg.var_refs list
  return {
    name := msg.name
    description := msg.description
    qualifiers := qualifiersOf msg.qualifiers
    interfaceName := msg.interface_name
    interfaceMessageID :=
      ⟨byteOf interfaceByte msg.interface_id, byteOf messageByte msg.id⟩
    vars := vars }

/-- `SetDataMsg`. -/
def SetDataMsg (NewDataMsg : DataMsg) (list : List VariableItem) : Building DataItem := do
  let vars ← setVariables NewDataMsg.name NewDataMsg.interface_name NewDataMsg.var_refs list
  return {
    name := NewDataMsg.name
    description := NewDataMsg.description
    qualifiers := qualifiersOf NewDataMsg.qualifiers
    interfaceName := NewDataMsg.interface_name
    interfaceMessageID :=
      ⟨byteOf interfaceByte NewDataMsg.interface_id, byteOf messageByte NewDataMsg.id⟩
    vars := vars
    msg_arrival :=
      if NewDataMsg.msg_arrival = some (.ofString "PERIODIC") then .Periodic else .Event
    msg_rate := NewDataMsg.msg_rate }

/-! ### Wrappers -/

/-- `xTEDSCommand`, `xTEDSNotification` or `xTEDSRequest`. A request has a command and a data
message. -/
inductive WrapperItem where
  | command (command : MessageItem) (fault : Option MessageItem)
  | notification (data : DataItem) (fault : Option MessageItem)
  | request (command : MessageItem) (data : DataItem) (fault : Option MessageItem)
  deriving DecidableEq

/-- The fault message of a wrapper, which may be missing. -/
def SetFault (fault : Option PlainMsg) (list : List VariableItem) :
    Building (Option MessageItem) :=
  match fault with
  | none => .ok none
  | some fault => some <$> SetPlainMsg fault list

/-- The first message of a section. -/
def required {α : Type} : List α → Building α
  | [] => .error .rejected
  | msg :: _ => .ok msg

/-- `SetCommand`. -/
def SetCommand (Command : Wrapper) (list : List VariableItem) : Building WrapperItem := do
  let command ← required Command.command_message
  let command ← SetPlainMsg command list
  let fault ← SetFault Command.fault_message list
  return .command command fault

/-- `SetNotification`. -/
def SetNotification (Notification : Wrapper) (list : List VariableItem) :
    Building WrapperItem := do
  let data ← required Notification.data_message
  let data ← SetDataMsg data list
  let fault ← SetFault Notification.fault_message list
  return .notification data fault

/-- `SetRequest`. -/
def SetRequest (Request : Wrapper) (list : List VariableItem) : Building WrapperItem := do
  let command ← required Request.command_message
  let data ← required Request.data_message
  let command ← SetPlainMsg command list
  let data ← SetDataMsg data list
  let fault ← SetFault Request.fault_message list
  return .request command data fault

/-! ### The tree (`xTEDSItemTree`, `xTEDS.cpp`) -/

structure ItemTree where
  vars : List VariableItem := []
  commands : List WrapperItem := []
  notifications : List WrapperItem := []
  requests : List WrapperItem := []
  deriving DecidableEq

/-- A check of a message in a wrapper. The message that says it is invalid names the interface. -/
def validMsg (face : Option CString) (verdict : Verdict) : Building Unit :=
  Building.check (verdict.bind fun ok => if ok then some true else Verdict.reject [face])

/-- `addVariable`. -/
def addVariable (root : ItemTree) (var : Variable) : Building ItemTree := do
  Building.check (XTEDSVerification.VerifyVariable var)
  let item ← SetVariable var
  return { root with vars := root.vars ++ [item] }

/-- The check of the fault message of a wrapper, which may be missing. -/
def validFault (w : Wrapper) : Building Unit :=
  match w.fault_message with
  | none => .ok ()
  | some fault => validMsg w.interface_name (XTEDSVerification.VerifyFaultMsg fault)

/-- `addCommand`. -/
def addCommand (root : ItemTree) (cmd : Wrapper) : Building ItemTree := do
  validMsg cmd.interface_name (XTEDSVerification.VerifyCommandMsg cmd.command_message.head?)
  validFault cmd
  let item ← SetCommand cmd root.vars
  return { root with commands := root.commands ++ [item] }

/-- `addNotification`. -/
def addNotification (root : ItemTree) (noti : Wrapper) : Building ItemTree := do
  validMsg noti.interface_name (XTEDSVerification.VerifyDataMsg noti.data_message.head?)
  validFault noti
  let item ← SetNotification noti root.vars
  return { root with notifications := root.notifications ++ [item] }

/-- `addRequest`. -/
def addRequest (root : ItemTree) (svc : Wrapper) : Building ItemTree := do
  validMsg svc.interface_name (XTEDSVerification.VerifyDataMsg svc.data_message.head?)
  validMsg svc.interface_name (XTEDSVerification.VerifyCommandMsg svc.command_message.head?)
  validFault svc
  let item ← SetRequest svc root.vars
  return { root with requests := root.requests ++ [item] }

/-- `addInterface`, after `VerifyInterface`. -/
def addInterface (root : ItemTree) (face : Interface) : Building ItemTree := do
  Building.check (XTEDSVerification.VerifyInterface face)
  Building.check (Verdict.require face.name [])
  let root ← face.vars.foldlM addVariable root
  let root ← face.commands.foldlM addCommand root
  let root ← face.notifications.foldlM addNotification root
  face.requests.foldlM addRequest root

/-- `xTEDS`. -/
structure XTEDS where
  treeRoot : ItemTree
  deviceName : Option CString
  componentKey : Option CString
  spaUHub : Option CString
  spaUPort : Option CString

/-- The part of `Parse` that follows a tree with a name. -/
def build (parsed : Xteds) : Building XTEDS := do
  match parsed.header with
  | none => .error .undefined
  | some header =>
      Building.check (Verdict.require header.name [])
      Building.check (Verdict.require header.kind [])
      let root ← parsed.interfaces.foldlM addInterface {}
      Building.check (some (parsed.interfaces ≠ []))
      return {
        treeRoot := root
        deviceName := header.name
        componentKey := header.componentKey
        spaUHub := header.spa_u_hub
        spaUPort := header.spa_u_port }

/-- `xTEDS::Parse` into a new object, on a document that follows the grammar. -/
def Parse (d : DocumentSyntax) : Building XTEDS :=
  match parsexTEDS d with
  | none => .error .undefined
  | some none => .error .rejected
  | some (some parsed) => do
      Building.check (Verdict.require parsed.name [])
      build parsed

/-! ### What is added -/

section Adding

variable {root root' : ItemTree} {var : Variable} {w : Wrapper} {face : Option CString}
  {verdict : Verdict}

theorem validMsg_eq_ok_iff {u : Unit} : validMsg face verdict = .ok u ↔ verdict = some true := by
  rcases verdict with _ | (_ | _) <;>
    simp [validMsg, Building.check_eq_ok_iff, Verdict.reject_ne_true]

theorem defined_validMsg (total : verdict.isSome) (hface : face.isSome) :
    (validMsg face verdict).Defined := by
  rcases verdict with _ | (_ | _)
  · simp at total
  · simp [validMsg, Building.defined_check, Verdict.isSome_reject, hface]
  · simp [validMsg, Building.defined_check]

theorem validFault_eq_ok_iff {u : Unit} : validFault w = .ok u ↔
    ∀ fault, w.fault_message = some fault → XTEDSVerification.PlainVerified fault := by
  unfold validFault
  cases w.fault_message with
  | none => simp
  | some fault => simp [validMsg_eq_ok_iff, XTEDSVerification.VerifyFaultMsg_eq_true_iff]

/-- A variable that is accepted has options where it has a `Drange`. -/
theorem SetVariable_of_verified (h : XTEDSVerification.VariableVerified var) :
    SetVariable var = .ok (VariableItem.of var) := by
  unfold SetVariable
  rw [if_neg]
  cases hd : var.dranges with
  | none => simp
  | some dranges => simpa using (h.dranges dranges hd).2.1

theorem addVariable_eq_ok_iff : addVariable root var = .ok root' ↔
    XTEDSVerification.VariableVerified var ∧
      root' = { root with vars := root.vars ++ [VariableItem.of var] } := by
  simp only [addVariable, Building.bind_eq_ok_iff, Building.check_eq_ok_iff,
    XTEDSVerification.VerifyVariable_eq_true_iff, Building.pure_eq_ok_iff]
  constructor
  · rintro ⟨-, verified, item, set, rfl⟩
    rw [SetVariable_of_verified verified] at set
    cases set
    exact ⟨verified, rfl⟩
  · rintro ⟨verified, rfl⟩
    exact ⟨(), verified, _, SetVariable_of_verified verified, rfl⟩

/-- The messages that a wrapper must have, and its fault message, are accepted. -/
structure WrapperVerified (w : Wrapper) (needsCommand needsData : Bool) : Prop where
  command : needsCommand → ∃ cmd, w.command_message.head? = some cmd ∧
    XTEDSVerification.PlainVerified cmd
  data : needsData → ∃ dat, w.data_message.head? = some dat ∧ XTEDSVerification.DataVerified dat
  fault : ∀ fault, w.fault_message = some fault → XTEDSVerification.PlainVerified fault

theorem addCommand_eq_ok_iff : addCommand root w = .ok root' ↔
    WrapperVerified w true false ∧ ∃ item, SetCommand w root.vars = .ok item ∧
      root' = { root with commands := root.commands ++ [item] } := by
  simp only [addCommand, Building.bind_eq_ok_iff, validMsg_eq_ok_iff, validFault_eq_ok_iff,
    XTEDSVerification.VerifyCommandMsg_eq_true_iff, Building.pure_eq_ok_iff]
  constructor
  · rintro ⟨-, command, -, fault, item, set, rfl⟩
    exact ⟨⟨fun _ => command, (absurd · Bool.false_ne_true), fault⟩, item, set, rfl⟩
  · rintro ⟨h, item, set, rfl⟩
    exact ⟨(), h.command rfl, (), h.fault, item, set, rfl⟩

theorem addNotification_eq_ok_iff : addNotification root w = .ok root' ↔
    WrapperVerified w false true ∧ ∃ item, SetNotification w root.vars = .ok item ∧
      root' = { root with notifications := root.notifications ++ [item] } := by
  simp only [addNotification, Building.bind_eq_ok_iff, validMsg_eq_ok_iff, validFault_eq_ok_iff,
    XTEDSVerification.VerifyDataMsg_eq_true_iff, Building.pure_eq_ok_iff]
  constructor
  · rintro ⟨-, data, -, fault, item, set, rfl⟩
    exact ⟨⟨(absurd · Bool.false_ne_true), fun _ => data, fault⟩, item, set, rfl⟩
  · rintro ⟨h, item, set, rfl⟩
    exact ⟨(), h.data rfl, (), h.fault, item, set, rfl⟩

theorem addRequest_eq_ok_iff : addRequest root w = .ok root' ↔
    WrapperVerified w true true ∧ ∃ item, SetRequest w root.vars = .ok item ∧
      root' = { root with requests := root.requests ++ [item] } := by
  simp only [addRequest, Building.bind_eq_ok_iff, validMsg_eq_ok_iff, validFault_eq_ok_iff,
    XTEDSVerification.VerifyDataMsg_eq_true_iff, XTEDSVerification.VerifyCommandMsg_eq_true_iff,
    Building.pure_eq_ok_iff]
  constructor
  · rintro ⟨-, data, -, command, -, fault, item, set, rfl⟩
    exact ⟨⟨fun _ => command, fun _ => data, fault⟩, item, set, rfl⟩
  · rintro ⟨h, item, set, rfl⟩
    exact ⟨(), h.data rfl, (), h.command rfl, (), h.fault, item, set, rfl⟩

/-- An interface is added kind by kind. -/
theorem addInterface_eq_ok_iff {face : Interface} : addInterface root face = .ok root' ↔
    XTEDSVerification.VerifyInterface face = some true ∧
      ∃ r₁, face.vars.foldlM addVariable root = .ok r₁ ∧
        ∃ r₂, face.commands.foldlM addCommand r₁ = .ok r₂ ∧
          ∃ r₃, face.notifications.foldlM addNotification r₂ = .ok r₃ ∧
            face.requests.foldlM addRequest r₃ = .ok root' := by
  simp only [addInterface, Building.bind_eq_ok_iff, Building.check_eq_ok_iff,
    Verdict.require_eq_true_iff, exists_and_left, exists_const]
  refine and_congr_right fun verified => ?_
  have name := (XTEDSVerification.VerifyInterface_eq_true_iff.mp verified).1
  simp only [name, true_and]

theorem vars_addCommand (added : addCommand root w = .ok root') : root'.vars = root.vars := by
  obtain ⟨-, item, -, rfl⟩ := addCommand_eq_ok_iff.mp added
  rfl

theorem vars_addNotification (added : addNotification root w = .ok root') :
    root'.vars = root.vars := by
  obtain ⟨-, item, -, rfl⟩ := addNotification_eq_ok_iff.mp added
  rfl

theorem vars_addRequest (added : addRequest root w = .ok root') : root'.vars = root.vars := by
  obtain ⟨-, item, -, rfl⟩ := addRequest_eq_ok_iff.mp added
  rfl

end Adding

theorem build_eq_ok_iff {parsed : Xteds} {x : XTEDS} : build parsed = .ok x ↔
    ∃ header, parsed.header = some header ∧ header.name.isSome ∧ header.kind.isSome ∧
      parsed.interfaces ≠ [] ∧ ∃ root, parsed.interfaces.foldlM addInterface {} = .ok root ∧
        x = ⟨root, header.name, header.componentKey, header.spa_u_hub, header.spa_u_port⟩ := by
  unfold build
  cases parsed.header with
  | none => simp
  | some header =>
      simp only [Building.bind_eq_ok_iff, Building.check_eq_ok_iff, Verdict.require_eq_true_iff,
        Building.pure_eq_ok_iff, Option.some.injEq, exists_eq_left', decide_eq_true_eq]
      constructor
      · rintro ⟨-, name, -, kind, root, run, -, some_, rfl⟩
        exact ⟨name, kind, some_, root, run, rfl⟩
      · rintro ⟨name, kind, some_, root, run, rfl⟩
        exact ⟨(), name, (), kind, root, run, (), some_, rfl⟩

/-- What an accepted document is. -/
theorem Parse_eq_ok_iff {d : DocumentSyntax} {x : XTEDS} : Parse d = .ok x ↔
    ∃ parsed, parsexTEDS d = some (some parsed) ∧ parsed.name.isSome ∧ build parsed = .ok x := by
  unfold Parse
  rcases parsexTEDS d with _ | (_ | parsed)
  · simp
  · simp
  · simp [Building.bind_eq_ok_iff, Building.check_eq_ok_iff, Verdict.require_eq_true_iff]

end Sdm.XTEDSItem
