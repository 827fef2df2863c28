import Sdm.Common.DefinitionTokens
import Sdm.XTEDS.Portion

/-!
The definition of a message that `RegInfo` writes.

The Data Manager writes the messages of a command, notification or request with their variables,
each behind the one before, into buffers of `MSG_DEF_SIZE`.

* `DefinitionsBuf_eq`: the text that is written, when it fits.
* `reads_text`: the tokens that a scanner reads from the text.
-/

namespace Sdm.XTEDSItem

open Lib Document MessageDefinition

/-! ### What is written -/

/-- How many bytes a value takes. -/
def DataType.size : DataType → Nat
  | SDM_INT08 | SDM_UINT08 => 1
  | SDM_INT16 | SDM_UINT16 => 2
  | SDM_INT32 | SDM_UINT32 | SDM_FLOAT32 => 4
  | SDM_FLOAT64 => 8

/-- `strncat`, of at most so many characters. -/
def strncat (buf text : CString) (n : Nat) : CString := buf.append (text.take n)

namespace VariableItem

/-- `strScale`, an array of 32 characters. -/
def strScale (v : VariableItem) : CString := (v.scaleFactor.getD (.ofString "1.0")).take 31

/-- The name, as `snprintf` writes it. -/
def printedName (name : Option CString) : CString := name.getD (.ofString "(null)")

/-- The format in `VarRegInfo`. -/
def definition (v : VariableItem) (start_byte : Int) : CString :=
  concat [.ofString "Variable:", decimal start_byte, .ofString ":", decimal v.length,
    .ofString ":", v.strScale, .ofString ":", v.invalidValue, .ofString ":", v.dataFormat.text,
    .ofString "=\"", printedName v.name, .ofString "\""]

/-- `VarRegInfo`: what it puts into the empty buffer, and where the next variable begins. -/
def VarRegInfo (v : VariableItem) (BufferSize : Nat) (start_byte : Int32) : CString × Int32 :=
  let strBuf := (v.definition start_byte.toInt).take (MSG_DEF_SIZE - 1)
  (strBuf.take (BufferSize - 1), start_byte + Int32.ofInt (v.dataFormat.size * v.length))

end VariableItem

/-- The loop of `VarReqReg`. -/
def addVariables : List VariableItem → CString → Int32 → CString × Int32
  | [], Buf, StartByte => (Buf, StartByte)
  | v :: rest, Buf, StartByte =>
      let BufLength := Buf.length
      let Buf := strncat Buf (.ofString " ") (MSG_DEF_SIZE - BufLength)
      let (info, StartByte) := v.VarRegInfo (MSG_DEF_SIZE - (BufLength + 1)) StartByte
      addVariables rest (Buf.append info) StartByte

/-- `VarReqReg`, into an empty buffer. -/
def VarReqReg (vars : List VariableItem) (BufferSize : Nat) : CString :=
  let (Buf, StartByte) := addVariables vars .empty 0
  let TempBuf := concat [.ofString " length=\"", decimal StartByte.toInt, .ofString "\""]
  (strncat Buf TempBuf (MSG_DEF_SIZE - Buf.length)).take (BufferSize - 1)

/-- The keyword of a message. -/
def keyword : MsgType → String
  | .COMMANDMSG => "CommandMsg"
  | .DATAMSG => "DataMsg"
  | .FAULTMSG => "FaultMsg"

namespace MessageItem

/-- What stands before the variables. -/
def heading (type : MsgType) (m : MessageItem) : CString :=
  concat [.ofString "<", .ofString (keyword type), .ofString " name=\"",
    VariableItem.printedName m.name, .ofString "\" id=\"",
    decimal m.interfaceMessageID.getInterfaceMessagePair.toInt, .ofString "\" "]

/-- `RegInfo` of a message: the definition. -/
def InfoBuf (type : MsgType) (m : MessageItem) : CString :=
  let InfoBuf := (m.heading type).take (MSG_DEF_SIZE - 1)
  let InfoBuf :=
    if m.vars.isEmpty then InfoBuf
    else InfoBuf.append (VarReqReg m.vars (MSG_DEF_SIZE - InfoBuf.length))
  strncat InfoBuf (.ofString "/>") (MSG_DEF_SIZE - InfoBuf.length)

end MessageItem

namespace WrapperItem

/-- The messages of a definition, in order. -/
def parts : WrapperItem → List (MsgType × MessageItem)
  | command c f => (.COMMANDMSG, c) :: f.toList.map fun f => (.FAULTMSG, f)
  | notification d f => (.DATAMSG, d.toMessageItem) :: f.toList.map fun f => (.FAULTMSG, f)
  | request c d f =>
      (.COMMANDMSG, c) :: (.DATAMSG, d.toMessageItem) :: f.toList.map fun f => (.FAULTMSG, f)

/-- The format of a definition. -/
def layout (w : WrapperItem) (definitions : List CString) : CString :=
  concat [.ofString "<", .ofString w.tag, .ofString ">",
    concat (definitions.map fun d => concat [.ofString "\n\t", d]),
    .ofString "\n</", .ofString w.tag, .ofString ">"]

/-- `DefinitionsBuf`, as `snprintf` leaves it. -/
def DefinitionsBuf (w : WrapperItem) : CString :=
  (w.layout (w.parts.map fun m => m.2.InfoBuf m.1)).take (MSG_DEF_SIZE - 1)

end WrapperItem

/-! ### What is written where nothing is cut -/

/-- The bytes of a variable. -/
def VariableItem.bytes (v : VariableItem) : Int := v.dataFormat.size * v.length

/-- The variables, the first one at this byte. -/
def variablesText : List VariableItem → Int → CString
  | [], _ => .empty
  | v :: rest, start =>
      concat [.ofString " ", v.definition start, variablesText rest (start + v.bytes)]

/-- The length of a message. -/
def totalBytes : List VariableItem → Int
  | [] => 0
  | v :: rest => v.bytes + totalBytes rest

/-- The variables and the length. -/
def MessageItem.variables (m : MessageItem) : CString :=
  concat [variablesText m.vars 0, .ofString " length=\"", decimal (totalBytes m.vars),
    .ofString "\""]

/-- The whole definition of a message. -/
def MessageItem.text (type : MsgType) (m : MessageItem) : CString :=
  concat [m.heading type, if m.vars.isEmpty then .empty else m.variables, .ofString "/>"]

/-- The whole text. -/
def WrapperItem.text (w : WrapperItem) : CString :=
  w.layout (w.parts.map fun m => m.2.text m.1)

/-- No variable has a negative length, and the bytes of the message can be counted. -/
structure MessageItem.Counted (m : MessageItem) : Prop where
  length : ∀ v ∈ m.vars, 0 ≤ v.length
  total : totalBytes m.vars < 2147483648

/-- The buffers take all of it. -/
def WrapperItem.DefinitionFits (w : WrapperItem) : Prop := w.text.length < MSG_DEF_SIZE

instance (w : WrapperItem) : Decidable w.DefinitionFits := inferInstanceAs (Decidable (_ < _))

section Writing

variable {vars : List VariableItem} {v : VariableItem} {m : MessageItem} {type : MsgType}
  {w : WrapperItem} {start : Int32} {n : Int} {buf text : CString} {size : Nat}

@[simp]
theorem bytes_append (s t : CString) : (s.append t).bytes = s.bytes ++ t.bytes := rfl

@[simp]
theorem bytes_concat (l : List CString) : (concat l).bytes = l.flatMap CString.bytes := by
  induction l with
  | nil => rfl
  | cons s l ih =>
      rw [List.flatMap_cons, ← ih]
      rfl

theorem strncat_eq (fits : text.length ≤ size) : strncat buf text size = buf.append text := by
  rw [strncat, CString.take_of_length_le fits]

theorem bytes_nonneg (length : 0 ≤ v.length) : 0 ≤ v.bytes :=
  mul_nonneg (Int.natCast_nonneg _) length

theorem totalBytes_nonneg (length : ∀ v ∈ vars, 0 ≤ v.length) : 0 ≤ totalBytes vars := by
  induction vars with
  | nil => exact le_rfl
  | cons v rest ih =>
      exact add_nonneg (bytes_nonneg (length v List.mem_cons_self))
        (ih fun u mem => length u (List.mem_cons_of_mem v mem))

/-- The count does not leave the range of an `int`. -/
theorem toInt_start (before : start.toInt = n) (nonneg : 0 ≤ n) (length : 0 ≤ v.length)
    (total : n + v.bytes < 2147483648) :
    (start + Int32.ofInt (v.dataFormat.size * v.length)).toInt = n + v.bytes := by
  have bytes := bytes_nonneg length
  have same : start = Int32.ofInt n := by rw [← before, Int32.ofInt_toInt]
  rw [same, ← Int32.ofInt_add]
  refine Int32.toInt_ofInt_of_le ?_ ?_
  · exact (by decide : -2 ^ 31 ≤ (0 : Int)).trans (add_nonneg nonneg bytes)
  · exact total

/-- A variable that fits. -/
theorem VarRegInfo_eq (before : start.toInt = n) (fits : (v.definition n).length < size)
    (small : size ≤ MSG_DEF_SIZE) : (v.VarRegInfo size start).1 = v.definition n := by
  have short : (v.definition n).length ≤ MSG_DEF_SIZE - 1 := by omega
  rw [VariableItem.VarRegInfo, before]
  simp only [CString.take_of_length_le short]
  exact CString.take_of_length_le (Nat.le_sub_one_of_lt fits)

/-- **The loop of `VarReqReg`**: each variable begins where the one before ends. -/
theorem addVariables_eq (before : start.toInt = n) (nonneg : 0 ≤ n)
    (length : ∀ v ∈ vars, 0 ≤ v.length) (total : n + totalBytes vars < 2147483648)
    (fits : buf.length + (variablesText vars n).length < MSG_DEF_SIZE) :
    (addVariables vars buf start).1 = buf.append (variablesText vars n) ∧
      (addVariables vars buf start).2.toInt = n + totalBytes vars := by
  induction vars generalizing buf start n with
  | nil => exact ⟨CString.ext (by simp [addVariables, variablesText, CString.empty]),
      by simp [addVariables, totalBytes, before]⟩
  | cons v rest ih =>
      have here := length v List.mem_cons_self
      have others : ∀ u ∈ rest, 0 ≤ u.length := fun u mem => length u (List.mem_cons_of_mem v mem)
      have tail := totalBytes_nonneg others
      rw [totalBytes] at total
      have after := toInt_start before nonneg here (by omega)
      have one : (CString.ofString " ").length = 1 := rfl
      have split : (variablesText (v :: rest) n).length =
          1 + (v.definition n).length + (variablesText rest (n + v.bytes)).length := by
        rw [variablesText, length_concat]
        simp only [List.map_cons, List.map_nil, List.sum_cons, List.sum_nil, one]
        omega
      rw [split] at fits
      have blank : strncat buf (.ofString " ") (MSG_DEF_SIZE - buf.length) =
          buf.append (.ofString " ") := strncat_eq (by omega)
      have info := @VarRegInfo_eq v start n (MSG_DEF_SIZE - (buf.length + 1)) before (by omega)
        (Nat.sub_le _ _)
      have whole : buf.append (variablesText (v :: rest) n) =
          ((buf.append (.ofString " ")).append (v.definition n)).append
            (variablesText rest (n + v.bytes)) := CString.ext (by simp [variablesText])
      have room : ((buf.append (.ofString " ")).append (v.definition n)).length +
          (variablesText rest (n + v.bytes)).length < MSG_DEF_SIZE := by
        rw [CString.length_append, CString.length_append, one]
        omega
      obtain ⟨texts, count⟩ := ih after (add_nonneg nonneg (bytes_nonneg here)) others (by omega)
        room
      rw [addVariables, blank, whole]
      simp only [info]
      exact ⟨texts, count.trans (add_assoc _ _ _)⟩

/-- **What `VarReqReg` writes**, when it fits. -/
theorem VarReqReg_eq (counted : m.Counted) (fits : m.variables.length < size)
    (small : size ≤ MSG_DEF_SIZE) : VarReqReg m.vars size = m.variables := by
  have length : m.variables.length = (variablesText m.vars 0).length +
      (concat [.ofString " length=\"", decimal (totalBytes m.vars), .ofString "\""]).length :=
    CString.length_append _ _
  have empty : CString.empty.length = 0 := rfl
  obtain ⟨texts, count⟩ := @addVariables_eq m.vars 0 0 .empty rfl le_rfl counted.length
    (by simpa using counted.total) (by omega)
  have front : CString.empty.append (variablesText m.vars 0) = variablesText m.vars 0 := rfl
  have whole : (variablesText m.vars 0).append (concat [.ofString " length=\"",
      decimal (totalBytes m.vars), .ofString "\""]) = m.variables := rfl
  rw [front] at texts
  rw [zero_add] at count
  rw [VarReqReg]
  simp only [texts, count]
  rw [strncat_eq (by omega), whole]
  exact CString.take_of_length_le (Nat.le_sub_one_of_lt fits)

/-- **What `RegInfo` of a message writes**, when it fits. -/
theorem InfoBuf_eq (counted : m.Counted) (fits : (m.text type).length < MSG_DEF_SIZE) :
    m.InfoBuf type = m.text type := by
  have two : (CString.ofString "/>").length = 2 := rfl
  have length : (m.text type).length = (m.heading type).length +
      (if m.vars.isEmpty then CString.empty else m.variables).length + 2 := by
    rw [MessageItem.text, length_concat]
    simp only [List.map_cons, List.map_nil, List.sum_cons, List.sum_nil, two]
    omega
  rw [length] at fits
  have heading : (m.heading type).take (MSG_DEF_SIZE - 1) = m.heading type :=
    CString.take_of_length_le (by omega)
  have whole : (if m.vars.isEmpty then m.heading type
      else (m.heading type).append (VarReqReg m.vars (MSG_DEF_SIZE - (m.heading type).length))) =
      (m.heading type).append (if m.vars.isEmpty then .empty else m.variables) := by
    split
    · exact CString.ext (by simp [CString.empty])
    · rename_i some
      rw [if_neg some] at fits
      rw [VarReqReg_eq counted (by omega) (Nat.sub_le _ _)]
  rw [MessageItem.InfoBuf]
  simp only [heading, whole]
  rw [strncat_eq (by rw [CString.length_append, two]; omega)]
  exact CString.ext (by simp [MessageItem.text])

theorem length_le_concat {l : List CString} (mem : text ∈ l) : text.length ≤ (concat l).length := by
  induction l with
  | nil => cases mem
  | cons s l ih =>
      have length : (concat (s :: l)).length = s.length + (concat l).length :=
        CString.length_append _ _
      rw [length]
      rcases List.mem_cons.mp mem with rfl | mem
      · exact Nat.le_add_right _ _
      · exact (ih mem).trans (Nat.le_add_left _ _)

theorem parts_messages (w : WrapperItem) : w.parts.map Prod.snd = w.messages := by
  cases w <;> simp [WrapperItem.parts, WrapperItem.messages, Function.comp_def]

/-- **What `RegInfo` writes**, when it fits. -/
theorem DefinitionsBuf_eq (counted : ∀ m ∈ w.messages, m.Counted) (fits : w.DefinitionFits) :
    w.DefinitionsBuf = w.text := by
  have written : (w.parts.map fun m => m.2.InfoBuf m.1) = w.parts.map fun m => m.2.text m.1 := by
    refine List.map_congr_left fun m mem => InfoBuf_eq (counted m.2 ?_) (lt_of_le_of_lt ?_ fits)
    · rw [← parts_messages]
      exact List.mem_map_of_mem mem
    · have inner : (m.2.text m.1).length ≤ (concat [.ofString "\n\t", m.2.text m.1]).length :=
        length_le_concat (by simp)
      have outer := @length_le_concat (concat [.ofString "\n\t", m.2.text m.1])
        ((w.parts.map fun m => m.2.text m.1).map fun d => concat [.ofString "\n\t", d])
        (List.mem_map_of_mem (List.mem_map_of_mem mem))
      refine inner.trans (outer.trans (length_le_concat ?_))
      simp
  rw [WrapperItem.DefinitionsBuf, written]
  exact CString.take_of_length_le (Nat.le_sub_one_of_lt fits)

end Writing

/-! ### What is read -/

/-- A name that the scanner takes as it is written. -/
def PlainName (name : Option CString) : Prop := ∃ s, name = some s ∧ 34 ∉ s.bytes

/-- A variable whose definition is read as it is meant. -/
structure VariableItem.Plain (v : VariableItem) : Prop where
  name : PlainName v.name
  scale : Real v.strScale
  invalid : v.invalidValue = .ofString "NS" ∨
    (Digits v.invalidValue.bytes ∧ digitsValue v.invalidValue.bytes ≤ 2147483647) ∨
      Real v.invalidValue

/-- A message whose definition is read as it is meant. -/
structure MessageItem.Plain (m : MessageItem) : Prop extends m.Counted where
  name : PlainName m.name
  vars : ∀ v ∈ m.vars, v.Plain

namespace VariableItem

/-- The token of the invalid value. -/
def invalidToken (v : VariableItem) : Token :=
  if v.invalidValue = .ofString "NS" then .NOT_SPECIFIED_SY
  else if Digits v.invalidValue.bytes then .INT (digitsValue v.invalidValue.bytes)
  else .FLOAT v.invalidValue

/-- The tokens of a variable at this byte. -/
def tokens (v : VariableItem) (start : Nat) : List Token :=
  [.VAR_SY, .COLON_SY, .INT start, .COLON_SY, .INT v.length.toNat, .COLON_SY, .FLOAT v.strScale,
    .COLON_SY, v.invalidToken, .COLON_SY, .DATATYPE v.dataFormat.text, .EQUAL_SY,
    .STRING (printedName v.name)]

end VariableItem

/-- The tokens of variables, the first one at this byte. -/
def variableTokens : List VariableItem → Nat → List Token
  | [], _ => []
  | v :: rest, start => v.tokens start ++ variableTokens rest (start + v.bytes.toNat)

def keywordToken : MsgType → Token
  | .COMMANDMSG => .CMD_MSG_SY
  | .DATAMSG => .DATA_MSG_SY
  | .FAULTMSG => .FAULT_MSG_SY

/-- The text of the id of a message. -/
def MessageItem.idText (m : MessageItem) : CString :=
  decimal m.interfaceMessageID.getInterfaceMessagePair.toInt

/-- The tokens of a message. -/
def MessageItem.tokens (type : MsgType) (m : MessageItem) : List Token :=
  [.LT_SY, keywordToken type, .NAME_SY, .EQUAL_SY, .STRING (VariableItem.printedName m.name),
    .ID_SY, .EQUAL_SY, .STRING m.idText] ++
  (if m.vars.isEmpty then []
    else
      variableTokens m.vars 0 ++ [.LENGTH_SY, .EQUAL_SY, .STRING (decimal (totalBytes m.vars))]) ++
  [.SLASH_SY, .GT_SY]

def WrapperItem.keywordToken : WrapperItem → Token
  | command _ _ => .CMD_SY
  | notification _ _ => .NOTI_SY
  | request _ _ _ => .RQST_SY

/-- The tokens of a definition. -/
def WrapperItem.tokens (w : WrapperItem) : List Token :=
  [.LT_SY, w.keywordToken, .GT_SY] ++ (w.parts.flatMap fun m => m.2.tokens m.1) ++
    [.LT_SY, .SLASH_SY, w.keywordToken, .GT_SY]

section Reading

variable {vars : List VariableItem} {v : VariableItem} {m : MessageItem} {type : MsgType}
  {w : WrapperItem}

theorem PlainName.printed {name : Option CString} (plain : PlainName name) :
    34 ∉ (VariableItem.printedName name).bytes := by
  obtain ⟨s, rfl, plain⟩ := plain
  exact plain

theorem reads_datatype (type : DataType) :
    Reads (type.text.bytes ++ word "=") [.DATATYPE type.text, .EQUAL_SY] := by
  cases type <;>
    exact reads_equal.cons _ (some (.DATATYPE _)) (by decide) (fun _ => rfl) fun _ => rfl

/-- The invalid value, with the colon. -/
theorem reads_invalid (plain : v.Plain) :
    Reads (v.invalidValue.bytes ++ [58]) [v.invalidToken, .COLON_SY] := by
  rw [VariableItem.invalidToken]
  split
  · rename_i notSpecified
    rw [notSpecified]
    exact reads_NS
  · rename_i specified
    split
    · rename_i number
      rcases plain.invalid.resolve_left specified with fits | real
      · exact reads_int number fits.2
      · exact absurd number real.not_digits
    · rename_i other
      exact reads_float ((plain.invalid.resolve_left specified).resolve_left fun fits =>
        other fits.1)

theorem decimal_of_nonneg {i : Int} (nonneg : 0 ≤ i) : (decimal i).bytes = digitBytes i.toNat := by
  rw [decimal]
  simp only
  rw [if_neg (by omega), show i.natAbs = i.toNat by omega]

/-- The number of values is no more than that of their bytes. -/
theorem length_le_bytes (length : 0 ≤ v.length) : v.length ≤ v.bytes := by
  have size : (1 : Int) ≤ v.dataFormat.size := by
    cases v.dataFormat <;> decide
  exact le_mul_of_one_le_left length size

/-- **A variable is read**, when its bytes can be counted. -/
theorem reads_variable {start : Nat} (plain : v.Plain) (length : 0 ≤ v.length)
    (counted : start + v.bytes < 2147483648) :
    Reads (32 :: (v.definition start).bytes) (v.tokens start) := by
  have values := length_le_bytes length
  have first : digitsValue (digitBytes start) ≤ 2147483647 := by
    rw [digitsValue_digitBytes]
    omega
  have count : digitsValue (digitBytes v.length.toNat) ≤ 2147483647 := by
    rw [digitsValue_digitBytes]
    omega
  have reads := reads_Variable.append <| (reads_int (digits_digitBytes start) first).append <|
    (reads_int (digits_digitBytes v.length.toNat) count).append <|
    (reads_float plain.scale).append <| (reads_invalid plain).append <|
    (reads_datatype v.dataFormat).append <| reads_string plain.name.printed
  rw [digitsValue_digitBytes, digitsValue_digitBytes] at reads
  have bytes : 32 :: (v.definition start).bytes = word " Variable:" ++
      ((digitBytes start ++ [58]) ++
      ((digitBytes v.length.toNat ++ [58]) ++ ((v.strScale.bytes ++ [58]) ++
      ((v.invalidValue.bytes ++ [58]) ++ ((v.dataFormat.text.bytes ++ word "=") ++
      (34 :: (VariableItem.printedName v.name).bytes ++ [34])))))) := by
    have colon : (CString.ofString ":").bytes = [58] := rfl
    have opening : (CString.ofString "=\"").bytes = word "=" ++ [34] := rfl
    have closing : (CString.ofString "\"").bytes = [34] := rfl
    have first : word " Variable:" = 32 :: (CString.ofString "Variable:").bytes := rfl
    rw [VariableItem.definition, bytes_concat, first]
    simp only [List.flatMap_cons, List.flatMap_nil, colon, opening, closing,
      decimal_of_nonneg length, decimal_of_nonneg (Int.natCast_nonneg start), Int.toNat_natCast,
      List.cons_append, List.append_assoc, List.nil_append, List.append_nil]
  rw [bytes]
  exact reads

/-- The variables of a message. -/
theorem reads_variables (plain : ∀ v ∈ vars, v.Plain) (length : ∀ v ∈ vars, 0 ≤ v.length)
    (start : Nat) (counted : start + totalBytes vars < 2147483648) :
    Reads (variablesText vars start).bytes (variableTokens vars start) := by
  induction vars generalizing start with
  | nil => exact reads_nil
  | cons v rest ih =>
      have here := length v List.mem_cons_self
      have behind : ∀ u ∈ rest, 0 ≤ u.length := fun u mem => length u (List.mem_cons_of_mem v mem)
      have next : (start : Int) + v.bytes = ((start + v.bytes.toNat : Nat) : Int) := by
        have bytes := bytes_nonneg here
        omega
      rw [totalBytes] at counted
      have others := ih (fun u mem => plain u (List.mem_cons_of_mem v mem)) behind
        (start + v.bytes.toNat) (by rw [← next]; omega)
      have room : start + v.bytes < 2147483648 := by
        have nonneg := totalBytes_nonneg behind
        omega
      have reads := (reads_variable (plain v List.mem_cons_self) here room).append others
      rw [variablesText, next]
      have bytes : (concat [.ofString " ", v.definition start,
          variablesText rest ((start + v.bytes.toNat : Nat) : Int)]).bytes =
          32 :: (v.definition start).bytes ++
            (variablesText rest ((start + v.bytes.toNat : Nat) : Int)).bytes := by
        have blank : (CString.ofString " ").bytes = [32] := rfl
        simp [blank]
      rw [bytes]
      exact reads

/-- The keyword behind the end of what stands before. -/
theorem reads_keyword (type : MsgType) : Reads (word (keyword type)) [keywordToken type] := by
  cases type with
  | COMMANDMSG => exact reads_CommandMsg
  | DATAMSG => exact reads_DataMsg
  | FAULTMSG => exact reads_FaultMsg

theorem quote_notMem_decimal (i : Int) : 34 ∉ (decimal i).bytes := by
  have digits (n : Nat) : 34 ∉ digitBytes n := fun mem =>
    absurd (digit_of_mem_digitBytes mem).1 (by decide)
  rw [decimal]
  simp only
  split
  · rw [List.mem_cons, not_or]
    exact ⟨by decide, digits _⟩
  · exact digits _

/-- The heading of a message, up to the blank at its end. -/
theorem reads_heading (plain : PlainName m.name) :
    ∃ front, (CString.ofString "\n\t").bytes ++ (m.heading type).bytes = front ++ [32] ∧
      Reads front [.LT_SY, keywordToken type, .NAME_SY, .EQUAL_SY,
        .STRING (VariableItem.printedName m.name), .ID_SY, .EQUAL_SY, .STRING m.idText] := by
  have digits : 34 ∉ m.idText.bytes := quote_notMem_decimal _
  have reads := reads_next.append <| (reads_keyword type).append <| reads_name.append <|
    (reads_string plain.printed).append <| reads_id.append <| reads_string digits
  refine ⟨_, ?_, reads⟩
  have opening : (CString.ofString " name=\"").bytes = word " name=" ++ [34] := rfl
  have between : (CString.ofString "\" id=\"").bytes = [34] ++ word " id=" ++ [34] := rfl
  have closing : (CString.ofString "\" ").bytes = [34] ++ [32] := rfl
  have first : word "\n\t<" = (CString.ofString "\n\t").bytes ++ (CString.ofString "<").bytes := rfl
  rw [MessageItem.heading, bytes_concat, first]
  simp only [List.flatMap_cons, List.flatMap_nil, opening, between, closing, MessageItem.idText,
    List.cons_append, List.append_assoc, List.nil_append, List.append_nil]

/-- **A message is read.** -/
theorem reads_message (plain : m.Plain) :
    Reads ((CString.ofString "\n\t").bytes ++ (m.text type).bytes) (m.tokens type) := by
  obtain ⟨front, heading, reads⟩ := @reads_heading m type plain.name
  have text : (CString.ofString "\n\t").bytes ++ (m.text type).bytes = front ++
      (32 :: ((if m.vars.isEmpty then CString.empty else m.variables).bytes ++ word "/>")) := by
    rw [MessageItem.text, bytes_concat]
    simp only [List.flatMap_cons, List.flatMap_nil, List.append_nil]
    rw [← List.append_assoc, heading]
    simp
  rw [text, MessageItem.tokens, List.append_assoc]
  refine reads.append ?_
  cases vars : m.vars with
  | nil =>
      have close : Reads (word " />") [.SLASH_SY, .GT_SY] :=
        reads_close.cons (word " ") none (by decide) (fun _ => rfl) fun _ => rfl
      exact close
  | cons v rest =>
      rw [if_neg (by simp), if_neg (by simp), ← vars]
      have counted : ((0 : Nat) : Int) + totalBytes m.vars < 2147483648 := by
        rw [Nat.cast_zero, zero_add]
        exact plain.total
      have body := (reads_variables plain.vars plain.length 0 counted).append <|
        reads_length.append <|
        (reads_string (quote_notMem_decimal (totalBytes m.vars))).append reads_close
      have bytes : m.variables.bytes ++ word "/>" = (variablesText m.vars (0 : Nat)).bytes ++
          (word " length=" ++
            (34 :: (decimal (totalBytes m.vars)).bytes ++ [34] ++ word "/>")) := by
        have opening : (CString.ofString " length=\"").bytes = word " length=" ++ [34] := rfl
        have closing : (CString.ofString "\"").bytes = [34] := rfl
        rw [MessageItem.variables, bytes_concat]
        simp only [List.flatMap_cons, List.flatMap_nil, opening, closing, List.cons_append,
          List.append_assoc, List.nil_append, List.append_nil, Nat.cast_zero]
      obtain ⟨q, blank⟩ : ∃ q, m.variables.bytes ++ word "/>" = 32 :: q := by
        rw [bytes, vars]
        exact ⟨_, rfl⟩
      rw [← bytes, blank] at body
      rw [blank, List.append_assoc]
      exact body.blank

/-- The messages, each on its line. -/
theorem reads_messages {parts : List (MsgType × MessageItem)} (plain : ∀ m ∈ parts, m.2.Plain) :
    Reads (concat ((parts.map fun m => m.2.text m.1).map fun d =>
      concat [.ofString "\n\t", d])).bytes (parts.flatMap fun m => m.2.tokens m.1) := by
  induction parts with
  | nil => exact reads_nil
  | cons m rest ih =>
      have reads := (@reads_message m.2 m.1 (plain m List.mem_cons_self)).append
        (ih fun u mem => plain u (List.mem_cons_of_mem m mem))
      rw [List.map_cons, List.map_cons, bytes_concat, List.flatMap_cons, ← bytes_concat]
      have line : (concat [.ofString "\n\t", m.2.text m.1]).bytes =
          (CString.ofString "\n\t").bytes ++ (m.2.text m.1).bytes := by simp
      rw [line]
      exact reads

/-- The word of the tag, at its beginning and at its end. -/
theorem reads_tag (w : WrapperItem) : Reads (word w.tag ++ word ">") [w.keywordToken, .GT_SY] := by
  cases w with
  | command => exact reads_Command
  | notification => exact reads_Notification
  | request => exact reads_Request

/-- **A definition is read.** -/
theorem reads_text (plain : ∀ m ∈ w.messages, m.Plain) : Reads w.text.bytes w.tokens := by
  have inner : ∀ m ∈ w.parts, m.2.Plain := fun m mem => plain m.2 (by
    rw [← parts_messages]
    exact List.mem_map_of_mem mem)
  have reads := reads_lt.append <| (reads_tag w).append <| (reads_messages inner).append <|
    reads_last.append (reads_tag w)
  have text : w.text.bytes = word "<" ++ (word w.tag ++ (word ">" ++
      ((concat ((w.parts.map fun m => m.2.text m.1).map fun d =>
        concat [.ofString "\n\t", d])).bytes ++ (word "\n</" ++ (word w.tag ++ word ">"))))) := by
    rw [WrapperItem.text, WrapperItem.layout, bytes_concat]
    simp only [List.flatMap_cons, List.flatMap_nil, List.append_nil]
  rw [text, WrapperItem.tokens]
  simpa only [List.append_assoc, List.cons_append, List.nil_append] using reads

end Reading

end Sdm.XTEDSItem
