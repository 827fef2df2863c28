import Mathlib.Data.List.Basic
import Sdm.Lib.CString

/-!
The xTEDS grammar (`xTEDS.y`) and what its actions build (`xTEDSParser.c`).

A document is taken as its syntax tree: which elements it has, each with its attributes as
they are written, in any order and also more than once. The grammar asks for no attribute.
The actions build the structures of `xTEDSParser.h` from the leaves up. A structure that
may be missing is an `Option`, a list of structures a `List`, and an attribute that may be
missing an `Option CString`.

An action that uses a missing attribute as a text has no result. `interface_add_references` is the
only one.
-/

namespace Sdm.Document

open Lib

/-! ### The structures -/

/-- `qualifier_type`. -/
structure QualifierType where
  name : Option CString := none
  value : Option CString := none
  units : Option CString := none
  deriving DecidableEq

/-- `coef`. -/
structure Coef where
  exponent : Option CString := none
  value : Option CString := none
  description : Option CString := none
  deriving DecidableEq

/-- `curve`. -/
structure Curve where
  name : Option CString := none
  description : Option CString := none
  coefs : List Coef := []
  deriving DecidableEq

/-- `curveoption`. -/
structure CurveOption where
  name : Option CString := none
  value : Option CString := none
  description : Option CString := none
  alarm : Option CString := none
  deriving DecidableEq

/-- `drange`. -/
structure Drange where
  name : Option CString := none
  description : Option CString := none
  options : List CurveOption := []
  deriving DecidableEq

/-- `location`. -/
structure Location where
  x_value : Option CString := none
  y_value : Option CString := none
  z_value : Option CString := none
  units : Option CString := none
  deriving DecidableEq

/-- `orientation`. -/
structure Orientation where
  axis_value : Option CString := none
  angle_value : Option CString := none
  units_value : Option CString := none
  deriving DecidableEq

/-- `variable`. -/
structure Variable where
  length : Option CString := none
  kind : Option CString := none
  name : Option CString := none
  qualifier : Option CString := none
  id : Option CString := none
  range_min : Option CString := none
  range_max : Option CString := none
  default_value : Option CString := none
  precision : Option CString := none
  units : Option CString := none
  accuracy : Option CString := none
  scale_factor : Option CString := none
  scale_units : Option CString := none
  format : Option CString := none
  description : Option CString := none
  interface_name : Option CString := none
  interface_id : Option CString := none
  r_low : Option CString := none
  r_high : Option CString := none
  y_low : Option CString := none
  y_high : Option CString := none
  invalid_value : Option CString := none
  qualifiers : List QualifierType := []
  curves : Option Curve := none
  dranges : Option Drange := none
  location_data : Option Location := none
  orientation_data : List Orientation := []
  deriving DecidableEq

/-- `fault_msg` and `cmd_msg`, which have the same attributes. The `variables` of a message are
`var_refs` here: each is the name of one. -/
structure PlainMsg where
  name : Option CString := none
  id : Option CString := none
  description : Option CString := none
  interface_name : Option CString := none
  interface_id : Option CString := none
  var_refs : List CString := []
  qualifiers : List QualifierType := []
  deriving DecidableEq

/-- `data_msg`. -/
structure DataMsg where
  name : Option CString := none
  id : Option CString := none
  msg_arrival : Option CString := none
  description : Option CString := none
  msg_rate : Option CString := none
  interface_name : Option CString := none
  interface_id : Option CString := none
  var_refs : List CString := []
  qualifiers : List QualifierType := []
  deriving DecidableEq

/-- `command`, `notification` or `request`. The command messages of a `command` or `request`
are a list, as are the data messages of a `notification` or `request`. -/
structure Wrapper where
  command_message : List PlainMsg := []
  data_message : List DataMsg := []
  fault_message : Option PlainMsg := none
  interface_name : Option CString := none
  interface_id : Option CString := none
  deriving DecidableEq

/-- `interface`, whose `variables` are `vars` here. -/
structure Interface where
  name : Option CString := none
  extends_ : Option CString := none
  id : Option CString := none
  description : Option CString := none
  vars : List Variable := []
  commands : List Wrapper := []
  notifications : List Wrapper := []
  requests : List Wrapper := []
  deriving DecidableEq

/-- `app_dev_attr`, with the attributes that are used. -/
structure AppDevAttr where
  name : Option CString := none
  kind : Option CString := none
  componentKey : Option CString := none
  spa_u_hub : Option CString := none
  spa_u_port : Option CString := none
  deriving DecidableEq

/-- `xteds`, with the attributes that are used. -/
structure Xteds where
  name : Option CString := none
  header : Option AppDevAttr := none
  interfaces : List Interface := []
  deriving DecidableEq

/-! ### Merging

The first of two values of an attribute stays. -/

/-- What all `merge_*` functions begin with: the other one, when one is missing. -/
def mergeWith {α : Type} (merge : α → α → α) : Option α → Option α → Option α
  | none, b => b
  | some a, none => some a
  | some a, some b => some (merge a b)

/-- The first of two lists, unless it is empty. -/
def firstOf {α : Type} (a b : List α) : List α := if a.isEmpty then b else a

namespace QualifierType

/-- `merge_qualifiers`. -/
def merge (a b : QualifierType) : QualifierType :=
  ⟨a.name <|> b.name, a.value <|> b.value, a.units <|> b.units⟩

end QualifierType

/-- `merge_coefs`. -/
def Coef.merge (a b : Coef) : Coef :=
  ⟨a.exponent <|> b.exponent, a.value <|> b.value, a.description <|> b.description⟩

/-- `merge_curves`. -/
def Curve.merge (a b : Curve) : Curve :=
  ⟨a.name <|> b.name, a.description <|> b.description, firstOf a.coefs b.coefs⟩

/-- `merge_options`. -/
def CurveOption.merge (a b : CurveOption) : CurveOption :=
  ⟨a.name <|> b.name, a.value <|> b.value, a.description <|> b.description, a.alarm <|> b.alarm⟩

/-- `merge_dranges`. -/
def Drange.merge (a b : Drange) : Drange :=
  ⟨a.name <|> b.name, a.description <|> b.description, firstOf a.options b.options⟩

/-- `merge_locations`. -/
def Location.merge (a b : Location) : Location :=
  ⟨a.x_value <|> b.x_value, a.y_value <|> b.y_value, a.z_value <|> b.z_value, a.units <|> b.units⟩

/-- `merge_orientations`. -/
def Orientation.merge (a b : Orientation) : Orientation :=
  ⟨a.axis_value <|> b.axis_value, a.angle_value <|> b.angle_value,
    a.units_value <|> b.units_value⟩

/-- `merge_variables`. The names of the interface are not merged. -/
def Variable.merge (a b : Variable) : Variable where
  length := a.length <|> b.length
  kind := a.kind <|> b.kind
  name := a.name <|> b.name
  qualifier := a.qualifier <|> b.qualifier
  id := a.id <|> b.id
  range_min := a.range_min <|> b.range_min
  range_max := a.range_max <|> b.range_max
  default_value := a.default_value <|> b.default_value
  precision := a.precision <|> b.precision
  units := a.units <|> b.units
  accuracy := a.accuracy <|> b.accuracy
  scale_factor := a.scale_factor <|> b.scale_factor
  scale_units := a.scale_units <|> b.scale_units
  format := a.format <|> b.format
  description := a.description <|> b.description
  interface_name := a.interface_name
  interface_id := a.interface_id
  r_low := a.r_low <|> b.r_low
  r_high := a.r_high <|> b.r_high
  y_low := a.y_low <|> b.y_low
  y_high := a.y_high <|> b.y_high
  invalid_value := a.invalid_value <|> b.invalid_value
  qualifiers := firstOf a.qualifiers b.qualifiers
  curves := a.curves <|> b.curves
  dranges := a.dranges <|> b.dranges
  location_data := a.location_data <|> b.location_data
  orientation_data := a.orientation_data ++ b.orientation_data

/-- `merge_fault_msg` and `merge_cmd_msg`. -/
def PlainMsg.merge (a b : PlainMsg) : PlainMsg where
  name := a.name <|> b.name
  id := a.id <|> b.id
  description := a.description <|> b.description
  interface_name := a.interface_name
  interface_id := a.interface_id
  var_refs := firstOf a.var_refs b.var_refs
  qualifiers := firstOf a.qualifiers b.qualifiers

/-- `merge_data_msg`. -/
def DataMsg.merge (a b : DataMsg) : DataMsg where
  name := a.name <|> b.name
  id := a.id <|> b.id
  msg_arrival := a.msg_arrival <|> b.msg_arrival
  description := a.description <|> b.description
  msg_rate := a.msg_rate <|> b.msg_rate
  interface_name := a.interface_name
  interface_id := a.interface_id
  var_refs := firstOf a.var_refs b.var_refs
  qualifiers := firstOf a.qualifiers b.qualifiers

/-- `merge_interface`. -/
def Interface.merge (a b : Interface) : Interface where
  name := a.name <|> b.name
  extends_ := a.extends_ <|> b.extends_
  id := a.id <|> b.id
  description := a.description <|> b.description
  vars := firstOf a.vars b.vars
  commands := firstOf a.commands b.commands
  notifications := firstOf a.notifications b.notifications
  requests := firstOf a.requests b.requests

/-- `merge_app_dev_attr`. -/
def AppDevAttr.merge (a b : AppDevAttr) : AppDevAttr :=
  ⟨a.name <|> b.name, a.kind <|> b.kind, a.componentKey <|> b.componentKey,
    a.spa_u_hub <|> b.spa_u_hub, a.spa_u_port <|> b.spa_u_port⟩

/-! ### The attributes -/

/-- Attributes as they are written. -/
abbrev Attributes (κ : Type) := List (κ × CString)

/-- The structure of a list of attributes, each of which is one of its own first. There is
none without attributes. -/
def ofAttributes {κ α : Type} (single : κ → CString → α) (merge : α → α → α)
    (attributes : Attributes κ) : Option α :=
  attributes.foldl (fun built a => mergeWith merge built (some (single a.1 a.2))) none

inductive QualifierAttribute where
  | name | value | units
  deriving DecidableEq

def QualifierAttribute.single : QualifierAttribute → CString → QualifierType
  | name, s => { name := s }
  | value, s => { value := s }
  | units, s => { units := s }

inductive CoefAttribute where
  | exponent | value | description
  deriving DecidableEq

def CoefAttribute.single : CoefAttribute → CString → Coef
  | exponent, s => { exponent := s }
  | value, s => { value := s }
  | description, s => { description := s }

/-- The attributes of a `Curve` and of a `Drange`. -/
inductive RangeAttribute where
  | name | description
  deriving DecidableEq

def RangeAttribute.curve : RangeAttribute → CString → Curve
  | name, s => { name := s }
  | description, s => { description := s }

def RangeAttribute.drange : RangeAttribute → CString → Drange
  | name, s => { name := s }
  | description, s => { description := s }

inductive OptionAttribute where
  | name | value | description | alarm
  deriving DecidableEq

def OptionAttribute.single : OptionAttribute → CString → CurveOption
  | name, s => { name := s }
  | value, s => { value := s }
  | description, s => { description := s }
  | alarm, s => { alarm := s }

inductive LocationAttribute where
  | x | y | z | units
  deriving DecidableEq

def LocationAttribute.single : LocationAttribute → CString → Location
  | x, s => { x_value := s }
  | y, s => { y_value := s }
  | z, s => { z_value := s }
  | units, s => { units := s }

inductive OrientationAttribute where
  | axis | angle | units
  deriving DecidableEq

def OrientationAttribute.single : OrientationAttribute → CString → Orientation
  | axis, s => { axis_value := s }
  | angle, s => { angle_value := s }
  | units, s => { units_value := s }

inductive VariableAttribute where
  | name | kind | format | qualifier | id | description | rangeMin | rangeMax | length
  | defaultValue | precision | units | accuracy | scaleFactor | scaleUnits | rLow | rHigh | yLow
  | yHigh | invalidValue
  deriving DecidableEq

def VariableAttribute.single : VariableAttribute → CString → Variable
  | name, s => { name := s }
  | kind, s => { kind := s }
  | format, s => { format := s }
  | qualifier, s => { qualifier := s }
  | id, s => { id := s }
  | description, s => { description := s }
  | rangeMin, s => { range_min := s }
  | rangeMax, s => { range_max := s }
  | length, s => { length := s }
  | defaultValue, s => { default_value := s }
  | precision, s => { precision := s }
  | units, s => { units := s }
  | accuracy, s => { accuracy := s }
  | scaleFactor, s => { scale_factor := s }
  | scaleUnits, s => { scale_units := s }
  | rLow, s => { r_low := s }
  | rHigh, s => { r_high := s }
  | yLow, s => { y_low := s }
  | yHigh, s => { y_high := s }
  | invalidValue, s => { invalid_value := s }

/-- The attributes of a `CommandMsg` and of a `FaultMsg`. -/
inductive PlainAttribute where
  | name | id | description
  deriving DecidableEq

def PlainAttribute.single : PlainAttribute → CString → PlainMsg
  | name, s => { name := s }
  | id, s => { id := s }
  | description, s => { description := s }

inductive DataAttribute where
  | name | id | msgArrival | description | msgRate
  deriving DecidableEq

def DataAttribute.single : DataAttribute → CString → DataMsg
  | name, s => { name := s }
  | id, s => { id := s }
  | msgArrival, s => { msg_arrival := s }
  | description, s => { description := s }
  | msgRate, s => { msg_rate := s }

inductive InterfaceAttribute where
  | name | extends_ | id | description
  deriving DecidableEq

def InterfaceAttribute.single : InterfaceAttribute → CString → Interface
  | name, s => { name := s }
  | extends_, s => { extends_ := s }
  | id, s => { id := s }
  | description, s => { description := s }

/-- The attributes of an `Application` or a `Device`. -/
inductive AppDevAttribute where
  | name | kind | componentKey | spaUHub | spaUPort | other
  deriving DecidableEq

def AppDevAttribute.single : AppDevAttribute → CString → AppDevAttr
  | name, s => { name := s }
  | kind, s => { kind := s }
  | componentKey, s => { componentKey := s }
  | spaUHub, s => { spa_u_hub := s }
  | spaUPort, s => { spa_u_port := s }
  | other, _ => {}

inductive XTEDSAttribute where
  | name | other
  deriving DecidableEq

def XTEDSAttribute.single : XTEDSAttribute → CString → Xteds
  | name, s => { name := s }
  | other, _ => {}

/-! ### The elements and the actions -/

/-- The elements of a list that have attributes, linked. -/
def linked {κ α : Type} (single : κ → CString → α) (merge : α → α → α)
    (elements : List (Attributes κ)) : List α :=
  elements.filterMap (ofAttributes single merge)

/-- `QUALIFIERS_SECTION`. -/
def qualifiersSection (elements : List (Attributes QualifierAttribute)) : List QualifierType :=
  linked QualifierAttribute.single QualifierType.merge elements

inductive VariableSubelement where
  | drange (attributes : Attributes RangeAttribute) (options : List (Attributes OptionAttribute))
  | curve (attributes : Attributes RangeAttribute) (coefs : List (Attributes CoefAttribute))
  | location (attributes : Attributes LocationAttribute)
  | orientation (attributes : Attributes OrientationAttribute)

/-- `VAR_SUBELEMENT`. -/
def VariableSubelement.build : VariableSubelement → Variable
  | drange attributes options =>
      { dranges := mergeWith Drange.merge
          (ofAttributes RangeAttribute.drange Drange.merge attributes)
          (some { options := linked OptionAttribute.single CurveOption.merge options }) }
  | curve attributes coefs =>
      { curves := mergeWith Curve.merge (ofAttributes RangeAttribute.curve Curve.merge attributes)
          (some { coefs := linked CoefAttribute.single Coef.merge coefs }) }
  | location attributes =>
      { location_data := ofAttributes LocationAttribute.single Location.merge attributes }
  | orientation attributes =>
      { orientation_data :=
          (ofAttributes OrientationAttribute.single Orientation.merge attributes).toList }

/-- `VAR_ELEMENTS`. -/
structure VariableElements where
  qualifiers : List (Attributes QualifierAttribute)
  subelements : List VariableSubelement

def VariableElements.build (e : VariableElements) : Option Variable :=
  mergeWith Variable.merge (some { qualifiers := qualifiersSection e.qualifiers })
    (e.subelements.foldl (fun built sub => mergeWith Variable.merge built (some sub.build)) none)

/-- A `Variable`. It has no elements where the tag is closed at once. -/
structure VariableSyntax where
  attributes : Attributes VariableAttribute
  elements : Option VariableElements

/-- `VARIABLE`. -/
def VariableSyntax.build (v : VariableSyntax) : Option Variable :=
  mergeWith Variable.merge (ofAttributes VariableAttribute.single Variable.merge v.attributes)
    (v.elements.bind VariableElements.build)

/-- What stands in a message. -/
structure MessageElements where
  qualifiers : List (Attributes QualifierAttribute)
  variable_refs : List CString

/-- A `CommandMsg` or a `FaultMsg`. It has no elements where the tag is closed at once. -/
structure PlainSyntax where
  attributes : Attributes PlainAttribute
  elements : Option MessageElements

/-- `COMMAND_MSG` and `FAULT_MSG`. -/
def PlainSyntax.build (m : PlainSyntax) : Option PlainMsg :=
  let attributes := ofAttributes PlainAttribute.single PlainMsg.merge m.attributes
  match m.elements with
  | none => attributes
  | some e =>
      (mergeWith PlainMsg.merge attributes
        (some { qualifiers := qualifiersSection e.qualifiers })).map fun msg =>
          { msg with var_refs := e.variable_refs }

/-- A `DataMsg` or a `DataReplyMsg`. -/
structure DataSyntax where
  attributes : Attributes DataAttribute
  elements : MessageElements

/-- `DATA_MSG`. -/
def DataSyntax.build (m : DataSyntax) : Option DataMsg :=
  (mergeWith DataMsg.merge (ofAttributes DataAttribute.single DataMsg.merge m.attributes)
    (some { qualifiers := qualifiersSection m.elements.qualifiers })).map fun msg =>
      { msg with var_refs := m.elements.variable_refs }

inductive MessageSyntax where
  | command (commands : List PlainSyntax) (fault : Option PlainSyntax)
  | notification (data : List DataSyntax) (fault : Option PlainSyntax)
  | request (commands : List PlainSyntax) (data : List DataSyntax) (fault : Option PlainSyntax)

namespace MessageSyntax

/-- `COMMAND_SECTION`. -/
def command? : MessageSyntax → Option Wrapper
  | command commands fault =>
      some { command_message := commands.filterMap PlainSyntax.build
             fault_message := fault.bind PlainSyntax.build }
  | _ => none

/-- `NOTIFICATION_SECTION`. -/
def notification? : MessageSyntax → Option Wrapper
  | notification data fault =>
      some { data_message := data.filterMap DataSyntax.build
             fault_message := fault.bind PlainSyntax.build }
  | _ => none

/-- `REQUEST_SECTION`. -/
def request? : MessageSyntax → Option Wrapper
  | request commands data fault =>
      some { command_message := commands.filterMap PlainSyntax.build
             data_message := data.filterMap DataSyntax.build
             fault_message := fault.bind PlainSyntax.build }
  | _ => none

end MessageSyntax

/-- `message`: the wrappers of every kind, in order. -/
structure Messages where
  commands : List Wrapper
  notifications : List Wrapper
  requests : List Wrapper

/-- `MESSAGE_SECTION`. -/
def messageSection (messages : List MessageSyntax) : Messages where
  commands := messages.filterMap MessageSyntax.command?
  notifications := messages.filterMap MessageSyntax.notification?
  requests := messages.filterMap MessageSyntax.request?

/-- What `interface_add_references` does with a fault message. The name of the interface is copied
without a check. -/
def PlainMsg.faultReferences (name id : Option CString) : Option PlainMsg → Option (Option PlainMsg)
  | none => some none
  | some fault =>
      match name with
      | none => none
      | some n => some (some { fault with interface_name := n, interface_id := id })

/-- What `interface_add_references` does with a wrapper: it gets the name and the id of the
interface, and so do the first of its messages and its fault message. -/
def Wrapper.addReferences (name id : Option CString) (w : Wrapper) : Option Wrapper :=
  (PlainMsg.faultReferences name id w.fault_message).map fun fault =>
    { interface_name := name
      interface_id := id
      command_message := w.command_message.modifyHead fun cmd =>
        { cmd with interface_name := name, interface_id := id }
      data_message := w.data_message.modifyHead fun dat =>
        { dat with interface_name := name, interface_id := id }
      fault_message := fault }

/-- `interface_add_references`. -/
def interface_add_references (a : Interface) (v : List Variable) (m : Messages) :
    Option Interface := do
  let id := a.id <|> some (.ofString "0")
  let commands ← m.commands.mapM (Wrapper.addReferences a.name id)
  let notifications ← m.notifications.mapM (Wrapper.addReferences a.name id)
  let requests ← m.requests.mapM (Wrapper.addReferences a.name id)
  return { a with
    id := id
    vars := v.map fun var => { var with interface_name := a.name, interface_id := id }
    commands := commands
    notifications := notifications
    requests := requests }

/-- What stands in an `Interface` and is kept. -/
structure InterfaceElements where
  «variables» : List VariableSyntax
  messages : List MessageSyntax

/-- An `Interface`. It has no elements where another one, or the end of the document, follows its
tag. -/
structure InterfaceSyntax where
  attributes : Attributes InterfaceAttribute
  elements : Option InterfaceElements

/-- `INTERFACE_HEAD`. -/
def InterfaceSyntax.head (i : InterfaceSyntax) : Interface :=
  i.attributes.foldl (fun built a => built.merge (a.1.single a.2)) {}

/-- `INTERFACE`. -/
def InterfaceSyntax.build (i : InterfaceSyntax) : Option Interface :=
  match i.elements with
  | none => some i.head
  | some e =>
      interface_add_references i.head (e.variables.filterMap VariableSyntax.build)
        (messageSection e.messages)

inductive DeviceSubelement where
  | qualifier
  | location
  | orientation

/-- `APP_DEVICE`: an `Application` or a `Device` whose tag is closed at once, an `Application` with
qualifiers, or a `Device` with elements. -/
inductive AppDevice where
  | closed (attributes : Attributes AppDevAttribute)
  | application (attributes : Attributes AppDevAttribute)
  | device (attributes : Attributes AppDevAttribute) (subelements : List DeviceSubelement)

/-- `DEVICE_SUBELEMENT`. -/
def DeviceSubelement.build : DeviceSubelement → Option AppDevAttr
  | qualifier => some {}
  | location => none
  | orientation => none

/-- `APP_SECTION` and `DEVICE_SECTION`. -/
def AppDevice.build : AppDevice → Option AppDevAttr
  | closed attributes => ofAttributes AppDevAttribute.single AppDevAttr.merge attributes
  | application attributes =>
      mergeWith AppDevAttr.merge
        (ofAttributes AppDevAttribute.single AppDevAttr.merge attributes) (some {})
  | device attributes subelements =>
      mergeWith AppDevAttr.merge
        (ofAttributes AppDevAttribute.single AppDevAttr.merge attributes)
        (subelements.foldl (fun built sub => mergeWith AppDevAttr.merge built sub.build) none)

/-- `XTEDS_DOCUMENT`. The version of XML does not matter. -/
structure DocumentSyntax where
  encoding : Option CString
  attributes : Attributes XTEDSAttribute
  appDevice : AppDevice
  interfaces : List InterfaceSyntax

/-- `ENCODING`. -/
def DocumentSyntax.encodingKnown (d : DocumentSyntax) : Bool :=
  match d.encoding with
  | none => true
  | some encoding => encoding = .ofString "utf-8" ∨ encoding = .ofString "UTF-8"

/-- `merge_xteds`. The header and the interfaces are added at the end. -/
def Xteds.merge (a b : Xteds) : Xteds := { a with name := a.name <|> b.name }

/-- `xTEDS`, with `add_references`. -/
def DocumentSyntax.xTEDS (d : DocumentSyntax) : Option Xteds := do
  let interfaces ← d.interfaces.mapM InterfaceSyntax.build
  return { d.attributes.foldl (fun built a => built.merge (a.1.single a.2)) ({} : Xteds) with
    header := d.appDevice.build
    interfaces := interfaces }

/-- `parsexTEDS` on a document that follows the grammar: there is no tree for it where the encoding
is another one. -/
def parsexTEDS (d : DocumentSyntax) : Option (Option Xteds) :=
  d.xTEDS.map fun result => if d.encodingKnown then some result else none

end Sdm.Document
