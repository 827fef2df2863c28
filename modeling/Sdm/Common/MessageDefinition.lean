import Mathlib.Data.List.MinMax
import Sdm.Lib.SearchTree
import Sdm.Lib.CString

/-!
Message definitions: the text that describes the variables of a message.

The scanner takes the longest match of its rules, the first of them where two are equally
long, and drops what it does not know. The parser builds a tree of the variables for every
part of the message, in the order in which they are declared.

* `scan_of_le`: the scanner reads the whole text.
* `Part.find_newNode`: a name is looked up as in the list of the declarations.
-/

namespace Sdm

open Lib

/-! ### Values (`message.h`) -/

/-- `enum value_type`. -/
inductive ValueType where
  | EMPTY
  | UINT08
  | INT08
  | UINT16
  | INT16
  | UINT32
  | INT32
  | FLOAT32
  | FLOAT64
  deriving DecidableEq, Repr

/-- `value_t`: a value with its type. Floating-point numbers are the bytes that represent them. -/
inductive Value where
  | EMPTY
  | UINT08 (x : UInt8)
  | INT08 (x : Int8)
  | UINT16 (x : UInt16)
  | INT16 (x : Int16)
  | UINT32 (x : UInt32)
  | INT32 (x : Int32)
  | FLOAT32 (bits : UInt32)
  | FLOAT64 (bits : UInt64)
  deriving DecidableEq

namespace Value

def type : Value → ValueType
  | EMPTY => .EMPTY
  | UINT08 _ => .UINT08
  | INT08 _ => .INT08
  | UINT16 _ => .UINT16
  | INT16 _ => .INT16
  | UINT32 _ => .UINT32
  | INT32 _ => .INT32
  | FLOAT32 _ => .FLOAT32
  | FLOAT64 _ => .FLOAT64

/-- An integer as a value of the type, which must not be a floating-point one. -/
def ofInt : ValueType → Int → Value
  | .UINT08, i => UINT08 (UInt8.ofInt i)
  | .INT08, i => INT08 (Int8.ofInt i)
  | .UINT16, i => UINT16 (UInt16.ofInt i)
  | .INT16, i => INT16 (Int16.ofInt i)
  | .UINT32, i => UINT32 (UInt32.ofInt i)
  | .INT32, i => INT32 (Int32.ofInt i)
  | .FLOAT32, _ | .FLOAT64, _ | .EMPTY, _ => EMPTY

end Value

/-- The floating-point arithmetic of the target. -/
class FloatingPoint where
  /-- `atof` of a text, as a value of the type. -/
  atof : CString → ValueType → Value
  /-- A conversion from or to a floating-point type. -/
  convert : Value → ValueType → Value
  /-- A value times the scale factor with this text, as a value of the same type. -/
  scale : Value → CString → Value
  /-- Whether two floating-point values are equal. -/
  equal : Value → Value → Bool

/-! ### The scanner (`msgdef.l`) -/

namespace MessageDefinition

inductive Token where
  | LT_SY
  | EQUAL_SY
  | SLASH_SY
  | GT_SY
  | COLON_SY
  | DATA_MSG_SY
  | CMD_MSG_SY
  | FAULT_MSG_SY
  | REPLY_SY
  | RQST_SY
  | NOTI_SY
  | CMD_SY
  | ID_SY
  | NAME_SY
  | VAR_SY
  | LENGTH_SY
  | NOT_SPECIFIED_SY
  | DATATYPE (str : CString)
  | STRING (str : CString)
  /-- The number is the value of this text. -/
  | FLOAT (real : CString)
  /-- An `int` that is not negative: a larger number becomes the largest one. -/
  | INT (integer : Nat)
  deriving DecidableEq

/-- The pattern of a rule. -/
inductive Pattern where
  /-- These characters. -/
  | word (text : String)
  /-- These characters, in upper or lower case; they are given in lower case. -/
  | anyCase (text : String)
  /-- Everything between quotation marks. -/
  | string
  | float
  | int
  /-- A row of one kind of white space. -/
  | blanks
  /-- A character that does not end the line. -/
  | other

/-- How many digits stand first. -/
def digits (input : List UInt8) : Nat := (input.takeWhile fun b => 48 ≤ b ∧ b ≤ 57).length

/-- A letter in lower case. -/
def toLower (b : UInt8) : UInt8 := if 65 ≤ b ∧ b ≤ 90 then b + 32 else b

/-- The length of the longest match of a pattern, zero where there is none. -/
def Pattern.matched : Pattern → List UInt8 → Nat
  | word text, input =>
      if (CString.ofString text).bytes.isPrefixOf input then (CString.ofString text).length else 0
  | anyCase text, input =>
      if (CString.ofString text).bytes.isPrefixOf (input.map toLower) then
        (CString.ofString text).length
      else 0
  | string, 34 :: rest =>
      let length := (rest.takeWhile (· ≠ 34)).length
      if length < rest.length then length + 2 else 0
  | string, _ => 0
  | float, input =>
      match input.drop (digits input) with
      | 46 :: rest => if digits rest = 0 then 0 else digits input + 1 + digits rest
      | _ => 0
  | int, input => digits input
  | blanks, b :: rest =>
      if b = 32 ∨ b = 9 ∨ b = 10 then ((b :: rest).takeWhile (· = b)).length else 0
  | blanks, [] => 0
  | other, b :: _ => if b = 10 then 0 else 1
  | other, [] => 0

/-- A rule: what it matches, and the token it returns for that. -/
structure Rule where
  pattern : Pattern
  action : List UInt8 → Option Token

/-- The rule of a word. -/
def Rule.of (text : String) (token : Token) : Rule := ⟨.word text, fun _ => some token⟩

/-- The rule of a type. -/
def Rule.datatype (text : String) : Rule :=
  ⟨.word text, fun yytext => some (.DATATYPE (.ofBytes yytext))⟩

/-- The rules of the scanner, in order. -/
def rules : List Rule :=
  [.of "<" .LT_SY, .of "=" .EQUAL_SY, .of "/" .SLASH_SY, .of ">" .GT_SY, .of ":" .COLON_SY,
    .of "DataMsg" .DATA_MSG_SY, .of "CommandMsg" .CMD_MSG_SY, .of "FaultMsg" .FAULT_MSG_SY,
    ⟨.anyCase "data_reply_msg_name", fun _ => some .REPLY_SY⟩,
    ⟨.anyCase "command_msg_name", fun _ => some .REPLY_SY⟩,
    .of "Request" .RQST_SY, .of "Notification" .NOTI_SY, .of "Command" .CMD_SY,
    .of "id" .ID_SY, .of "name" .NAME_SY, .of "Variable" .VAR_SY, .of "length" .LENGTH_SY,
    .of "NS" .NOT_SPECIFIED_SY,
    .datatype "UINT08", .datatype "INT08", .datatype "UINT16", .datatype "INT16",
    .datatype "UINT32", .datatype "INT32", .datatype "FLOAT32", .datatype "FLOAT64",
    ⟨.string, fun yytext => some (.STRING (.ofBytes (yytext.drop 1).dropLast))⟩,
    ⟨.float, fun yytext => some (.FLOAT (.ofBytes yytext))⟩,
    ⟨.int, fun yytext => some (.INT (min (digitsValue yytext) 2147483647))⟩,
    ⟨.blanks, fun _ => none⟩,
    ⟨.other, fun _ => none⟩]

/-- The length of the longest match. -/
def longest (input : List UInt8) : Nat :=
  (rules.map (·.pattern.matched input)).foldr max 0

/-- What the first rule with the longest match returns. -/
def token (input : List UInt8) : Option Token :=
  (rules.find? (·.pattern.matched input = longest input)).bind
    (·.action (input.take (longest input)))

/-- The tokens of an input, of which at most so many are read. -/
def scan : Nat → List UInt8 → List Token
  | 0, _ => []
  | _ + 1, [] => []
  | fuel + 1, b :: rest =>
      (token (b :: rest)).toList ++ scan fuel ((b :: rest).drop (longest (b :: rest)))

/-- No rule matches more. -/
theorem le_longest (rule : Rule) (input : List UInt8) (mem : rule ∈ rules) :
    rule.pattern.matched input ≤ longest input :=
  List.le_max_of_le' 0 (List.mem_map.mpr ⟨rule, mem, rfl⟩) le_rfl

/-- Every character is matched by the rule for white space or by the last one. -/
theorem longest_pos (b : UInt8) (rest : List UInt8) : 0 < longest (b :: rest) := by
  by_cases newline : b = 10
  · refine Nat.lt_of_lt_of_le ?_ (le_longest ⟨.blanks, fun _ => none⟩ _ (by simp [rules]))
    simp [Pattern.matched, newline]
  · refine Nat.lt_of_lt_of_le ?_ (le_longest ⟨.other, fun _ => none⟩ _ (by simp [rules]))
    simp [Pattern.matched, newline]

/-- **The whole text is read**: it has no more tokens than characters. -/
theorem scan_of_le {fuel : Nat} {input : List UInt8} (enough : input.length ≤ fuel) :
    scan fuel input = scan input.length input := by
  induction fuel using Nat.strongRecOn generalizing input with
  | ind fuel ih =>
      cases input with
      | nil => cases fuel <;> rfl
      | cons b rest =>
          obtain ⟨fuel, rfl⟩ : ∃ k, fuel = k + 1 :=
            Nat.exists_eq_succ_of_ne_zero (by rintro rfl; simp at enough)
          have pos := longest_pos b rest
          have less : ((b :: rest).drop (longest (b :: rest))).length ≤ rest.length := by
            simp only [List.length_drop, List.length_cons]
            omega
          simp only [List.length_cons] at enough
          rw [List.length_cons, scan, scan, ih fuel (by omega) (by omega),
            ih rest.length (by omega) less]

/-! ### Variables (`message.c`) -/

end MessageDefinition

/-- A `var`, without its place in the tree. -/
structure Var where
  name : CString
  start : Nat
  /-- How many values of the type follow one another from `start` on. -/
  length : Nat
  type : ValueType
  /-- The text of the scale factor. -/
  scale_factor : CString
  invalid_data : Value
  deriving DecidableEq

namespace Var

/-- The type with this name. -/
def typeNamed (p_Type : CString) : ValueType :=
  if strcmp p_Type (.ofString "UINT08") = 0 then .UINT08
  else if strcmp p_Type (.ofString "INT08") = 0 then .INT08
  else if strcmp p_Type (.ofString "UINT16") = 0 then .UINT16
  else if strcmp p_Type (.ofString "INT16") = 0 then .INT16
  else if strcmp p_Type (.ofString "UINT32") = 0 then .UINT32
  else if strcmp p_Type (.ofString "INT32") = 0 then .INT32
  else if strcmp p_Type (.ofString "FLOAT32") = 0 then .FLOAT32
  else if strcmp p_Type (.ofString "FLOAT64") = 0 then .FLOAT64
  else .EMPTY

def newVar (p_Name : CString) (p_Start p_Length : Nat) (p_Type p_ScaleFactor : CString) : Var where
  name := p_Name
  start := p_Start
  length := p_Length
  type := typeNamed p_Type
  scale_factor := p_ScaleFactor
  invalid_data := .EMPTY

/-- The invalid value is an integer. -/
def newVarInvalidIsInt [FloatingPoint] (p_Name : CString) (p_Start p_Length : Nat)
    (p_Type p_ScaleFactor : CString) (p_InvalidValue : Nat) : Var :=
  let NewVar := newVar p_Name p_Start p_Length p_Type p_ScaleFactor
  { NewVar with
    invalid_data :=
      match NewVar.type with
      | .FLOAT32 | .FLOAT64 =>
          FloatingPoint.convert (.INT32 (Int32.ofInt p_InvalidValue)) NewVar.type
      | type => .ofInt type p_InvalidValue }

/-- The invalid value is a floating-point number. An integer type gets zero. -/
def newVarInvalidIsFloat [FloatingPoint] (p_Name : CString) (p_Start p_Length : Nat)
    (p_Type p_ScaleFactor p_InvalidValue : CString) : Var :=
  let NewVar := newVar p_Name p_Start p_Length p_Type p_ScaleFactor
  { NewVar with
    invalid_data :=
      match NewVar.type with
      | .FLOAT32 | .FLOAT64 => FloatingPoint.atof p_InvalidValue NewVar.type
      | type => .ofInt type 0 }

end Var

/-- The variables of a part of a message. -/
abbrev VarTree := SearchTree Var

/-- `find`. -/
def find (name : CString) (root : VarTree) : Option Var := root.find Var.name strcmp name

/-- `addVar`. -/
def addVar (root : VarTree) (new_var : Var) : VarTree := root.insert Var.name strcmp new_var

/-- `enum msg_type`. -/
inductive MsgType where
  | COMMANDMSG
  | DATAMSG
  | FAULTMSG
  deriving DecidableEq

/-- `enum wrapper_type`. -/
inductive WrapperType where
  | EMPTY
  | COMMAND
  | NOTIFICATION
  | REQUEST
  deriving DecidableEq

/-- `nodeData`: a part of a message. -/
structure NodeData where
  name : CString
  type : MsgType
  length : Int
  id : Int
  list : VarTree

/-- `msg`: what a `MessageManipulator` knows of its message. -/
structure Msg where
  type : WrapperType
  command : Option NodeData
  data : Option NodeData
  fault : Option NodeData

/-- `setMessage`. -/
def setMessage (command data fault : Option NodeData) : Msg where
  command := command
  data := data
  fault := fault
  type :=
    if data.isNone then .COMMAND
    else if command.isNone then .NOTIFICATION
    else .REQUEST

/-! ### The parser (`msgdef.y`) -/

namespace MessageDefinition

/-- A part of a message as it is declared. -/
structure Part where
  type : MsgType
  name : CString
  id : CString
  declared : List Var
  length : CString
  deriving DecidableEq

/-- `newNode`, of a tree to which the variables were added one after the other. -/
def Part.newNode (part : Part) : NodeData where
  name := part.name
  type := part.type
  length := toInt part.length
  id := toInt part.id
  list := part.declared.foldl addVar .nil

/-- A message as it is declared. -/
structure Info where
  command : Option Part
  data : Option Part
  fault : Option Part
  deriving DecidableEq

/-- **A name is looked up** as in the list of the declarations: the tree that is built from them
is searched for the first one with the name. -/
theorem Part.find_newNode (part : Part) (name : CString) :
    find name part.newNode.list = part.declared.find? fun v => v.name = name :=
  SearchTree.find_ofList Var.name strcmp_eq_zero_iff name part.declared

/-- The message that the parser builds. -/
def Info.message (info : Info) : Msg :=
  setMessage (info.command.map Part.newNode) (info.data.map Part.newNode)
    (info.fault.map Part.newNode)

@[simp]
theorem Info.message_command (info : Info) :
    info.message.command = info.command.map Part.newNode := rfl

@[simp]
theorem Info.message_data (info : Info) : info.message.data = info.data.map Part.newNode := rfl

@[simp]
theorem Info.message_fault (info : Info) : info.message.fault = info.fault.map Part.newNode := rfl

/-- A message with a command is no notification. -/
theorem Info.type_of_command {info : Info} {part : Part} (command : info.command = some part) :
    info.message.type ≠ .NOTIFICATION := by
  simp only [message, setMessage, command]
  split
  · simp
  · simp

/-- A message with a command and its reply is a request. -/
theorem Info.type_of_both {info : Info} {part : Part} (command : info.command = some part)
    (data : info.data.isSome) : info.message.type = .REQUEST := by
  obtain ⟨reply, data⟩ := Option.isSome_iff_exists.mp data
  simp [message, setMessage, command, data]

/-- A part of the parser takes what it recognises from the tokens. -/
abbrev Parser := StateT (List Token) Option

/-- Take these tokens. -/
def symbols (expected : List Token) : Parser Unit := fun tokens =>
  if expected.isPrefixOf tokens then some ((), tokens.drop expected.length) else none

def INT : Parser Nat
  | .INT integer :: tokens => some (integer, tokens)
  | _ => none

def FLOAT : Parser CString
  | .FLOAT real :: tokens => some (real, tokens)
  | _ => none

def STRING : Parser CString
  | .STRING str :: tokens => some (str, tokens)
  | _ => none

def DATATYPE : Parser CString
  | .DATATYPE str :: tokens => some (str, tokens)
  | _ => none

/-- The next token. -/
def lookahead : Parser (Option Token) := fun tokens => some (tokens.head?, tokens)

variable [FloatingPoint]

/-- A declaration, with or without an invalid value. -/
def VARIABLE : Parser Var := do
  symbols [.VAR_SY, .COLON_SY]
  let start ← INT
  symbols [.COLON_SY]
  let length ← INT
  symbols [.COLON_SY]
  let scale ← FLOAT
  symbols [.COLON_SY]
  match ← lookahead with
  | some .NOT_SPECIFIED_SY =>
      symbols [.NOT_SPECIFIED_SY, .COLON_SY]
      let type ← DATATYPE
      symbols [.EQUAL_SY]
      let name ← STRING
      return .newVar name start length type scale
  | some (.INT invalid) =>
      symbols [.INT invalid, .COLON_SY]
      let type ← DATATYPE
      symbols [.EQUAL_SY]
      let name ← STRING
      return .newVarInvalidIsInt name start length type scale invalid
  | some (.FLOAT invalid) =>
      symbols [.FLOAT invalid, .COLON_SY]
      let type ← DATATYPE
      symbols [.EQUAL_SY]
      let name ← STRING
      return .newVarInvalidIsFloat name start length type scale invalid
  | _ => failure

/-- The declarations, at most so many. -/
def VARIABLES : Nat → Parser (List Var)
  | 0 => return []
  | fuel + 1 => do
      if (← lookahead) = some .VAR_SY then
        let new ← VARIABLE
        let rest ← VARIABLES fuel
        return new :: rest
      else
        return []

/-- `ATTRIBUTE`. -/
def ATTRIBUTE : Parser CString := do
  symbols [.LENGTH_SY, .EQUAL_SY]
  STRING

/-- A part of this type, whose keyword was read. -/
def partOf (type : MsgType) : Parser Part := do
  symbols [.NAME_SY, .EQUAL_SY]
  let name ← STRING
  symbols [.ID_SY, .EQUAL_SY]
  let id ← STRING
  let declared ← VARIABLES (← get).length
  let length ← ATTRIBUTE
  return { type, name, id, declared, length }

/-- `MSG_DEF`. -/
def MSG_DEF : Parser Part := do
  match ← lookahead with
  | some .CMD_MSG_SY => symbols [.CMD_MSG_SY] *> partOf .COMMANDMSG
  | some .DATA_MSG_SY => symbols [.DATA_MSG_SY] *> partOf .DATAMSG
  | _ => failure

/-- `FAULT_MSG`. -/
def FAULT_MSG : Parser Part := symbols [.FAULT_MSG_SY] *> partOf .FAULTMSG

/-- What follows the last part but the fault message: that, if there is one, and the end. -/
def closing (keyword : Token) : Parser (Option Part) := do
  if (← lookahead) = some .SLASH_SY then
    symbols [.SLASH_SY, keyword, .GT_SY]
    return none
  else
    let fault ← FAULT_MSG
    symbols [.SLASH_SY, .GT_SY, .LT_SY, .SLASH_SY, keyword, .GT_SY]
    return some fault

/-- `INFO`. -/
def INFO : Parser Info := do
  symbols [.LT_SY]
  match ← lookahead with
  | some .RQST_SY =>
      symbols [.RQST_SY, .GT_SY, .LT_SY]
      let command ← MSG_DEF
      symbols [.SLASH_SY, .GT_SY, .LT_SY]
      let data ← MSG_DEF
      symbols [.SLASH_SY, .GT_SY, .LT_SY]
      let fault ← closing .RQST_SY
      return { command := some command, data := some data, fault }
  | some .CMD_SY =>
      symbols [.CMD_SY, .GT_SY, .LT_SY]
      let command ← MSG_DEF
      symbols [.SLASH_SY, .GT_SY, .LT_SY]
      let fault ← closing .CMD_SY
      return { command := some command, data := none, fault }
  | some .NOTI_SY =>
      symbols [.NOTI_SY, .GT_SY, .LT_SY]
      let data ← MSG_DEF
      symbols [.SLASH_SY, .GT_SY, .LT_SY]
      let fault ← closing .NOTI_SY
      return { command := none, data := some data, fault }
  | _ => failure

/-- The message that a text declares; none where the parser rejects it. -/
def parse (msg_def : CString) : Option Info :=
  match INFO (scan msg_def.length msg_def.bytes) with
  | some (info, []) => some info
  | _ => none

end MessageDefinition

end Sdm
