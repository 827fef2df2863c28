import Sdm.Common.MessageArrays
import Sdm.XTEDS.Definition

/-!
What a `MessageManipulator` makes of the definition that `RegInfo` writes.

* `VARIABLE_tokens`, `partOf_body`, `INFO_tokens`: what the parser declares.
* `parse_DefinitionsBuf`: the messages that are declared are those that were described, and a
  message without variables is rejected.
* `declaredFrom_placed`: the variables of a message do not overlap.
* `described_access`: they are accessed by name.
-/

namespace Sdm.XTEDSItem

open Lib Document MessageDefinition

/-! ### What is declared -/

section Declaring

variable [FloatingPoint]

/-- The variable that is declared at this byte. -/
def VariableItem.declared (v : VariableItem) (start : Nat) : Var :=
  let name := printedName v.name
  let length := v.length.toNat
  if v.invalidValue = .ofString "NS" then
    .newVar name start length v.dataFormat.text v.strScale
  else if Digits v.invalidValue.bytes then
    .newVarInvalidIsInt name start length v.dataFormat.text v.strScale
      (digitsValue v.invalidValue.bytes)
  else .newVarInvalidIsFloat name start length v.dataFormat.text v.strScale v.invalidValue

/-- Variables one behind the other. -/
def declaredFrom : List VariableItem → Nat → List Var
  | [], _ => []
  | v :: rest, start => v.declared start :: declaredFrom rest (start + v.bytes.toNat)

/-- The part of a message. -/
def MessageItem.part (type : MsgType) (m : MessageItem) : Part where
  type := type
  name := VariableItem.printedName m.name
  id := m.idText
  declared := declaredFrom m.vars 0
  length := decimal (totalBytes m.vars)

/-- The declaration of a command, notification or request. -/
def WrapperItem.info : WrapperItem → Info
  | command c f => ⟨some (c.part .COMMANDMSG), none, f.map (·.part .FAULTMSG)⟩
  | notification d f => ⟨none, some (d.part .DATAMSG), f.map (·.part .FAULTMSG)⟩
  | request c d f =>
      ⟨some (c.part .COMMANDMSG), some (d.part .DATAMSG), f.map (·.part .FAULTMSG)⟩

variable {vars : List VariableItem} {v : VariableItem} {m : MessageItem} {type : MsgType}
  {w : WrapperItem} {t : Token} {ts rest : List Token}

omit [FloatingPoint] in
theorem symbols_cons : symbols (t :: ts) (t :: rest) = symbols ts rest := by
  simp [symbols]

omit [FloatingPoint] in
theorem symbols_nil : symbols [] rest = some ((), rest) := rfl

omit [FloatingPoint] in
theorem pure_tokens {α : Type} (a : α) : (pure a : Parser α) rest = some (a, rest) := rfl

/-- **A variable is declared.** -/
theorem VARIABLE_tokens (start : Nat) :
    VARIABLE (v.tokens start ++ rest) = some (v.declared start, rest) := by
  rw [VariableItem.tokens, VARIABLE, VariableItem.declared, VariableItem.invalidToken]
  split_ifs <;>
    simp only [List.cons_append, List.nil_append, bind, StateT.bind, Option.bind, symbols_cons,
      symbols_nil, INT, FLOAT, DATATYPE, STRING, lookahead, List.head?_cons, pure_tokens]

omit [FloatingPoint] in
theorem length_le_variableTokens (start : Nat) :
    vars.length ≤ (variableTokens vars start).length := by
  induction vars generalizing start with
  | nil => exact le_rfl
  | cons v rest ih =>
      have some : 1 ≤ (v.tokens start).length := by
        rw [VariableItem.tokens, List.length_cons]
        exact Nat.le_add_left _ _
      have others := ih (start + v.bytes.toNat)
      rw [variableTokens, List.length_append, List.length_cons]
      omega

/-- **The variables are declared**, up to the length. -/
theorem VARIABLES_tokens {fuel : Nat} (enough : vars.length < fuel) (start : Nat) :
    VARIABLES fuel (variableTokens vars start ++ .LENGTH_SY :: rest) =
      some (declaredFrom vars start, .LENGTH_SY :: rest) := by
  induction vars generalizing start fuel with
  | nil =>
      obtain ⟨fuel, rfl⟩ := Nat.exists_eq_succ_of_ne_zero (Nat.ne_of_gt enough)
      rfl
  | cons v others ih =>
      obtain ⟨fuel, rfl⟩ := Nat.exists_eq_succ_of_ne_zero (Nat.ne_of_gt (Nat.zero_lt_of_lt enough))
      have more := ih (Nat.lt_of_succ_lt_succ enough) (start + v.bytes.toNat)
      have first : (v.tokens start ++ (variableTokens others (start + v.bytes.toNat) ++
          .LENGTH_SY :: rest)).head? = some .VAR_SY := rfl
      rw [variableTokens, List.append_assoc, VARIABLES]
      simp only [bind, StateT.bind, Option.bind, lookahead, first, if_pos, VARIABLE_tokens, more,
        pure_tokens, declaredFrom]

/-- The tokens of a message behind its keyword. -/
def MessageItem.body (m : MessageItem) : List Token :=
  [.NAME_SY, .EQUAL_SY, .STRING (VariableItem.printedName m.name), .ID_SY, .EQUAL_SY,
    .STRING m.idText] ++
  if m.vars.isEmpty then []
  else variableTokens m.vars 0 ++ [.LENGTH_SY, .EQUAL_SY, .STRING (decimal (totalBytes m.vars))]

omit [FloatingPoint] in
theorem MessageItem.tokens_eq (type : MsgType) (m : MessageItem) :
    m.tokens type = .LT_SY :: keywordToken type :: (m.body ++ [.SLASH_SY, .GT_SY]) := by
  rw [MessageItem.tokens, MessageItem.body]
  simp

/-- **A part of a message is declared**, if it has variables. -/
theorem partOf_body :
    partOf type (m.body ++ .SLASH_SY :: rest) =
      if m.vars = [] then none else some (m.part type, .SLASH_SY :: rest) := by
  rw [MessageItem.body, partOf]
  by_cases empty : m.vars = []
  · rw [if_pos empty, if_pos (by rw [empty]; rfl)]
    simp only [List.cons_append, List.nil_append, bind, StateT.bind, Option.bind, symbols_cons,
      symbols_nil, STRING, get, getThe, MonadStateOf.get, StateT.get, pure]
    rfl
  · rw [if_neg empty, if_neg (by simpa using empty)]
    simp only [List.cons_append, List.nil_append, bind, StateT.bind, Option.bind, symbols_cons,
      symbols_nil, STRING, get, getThe, MonadStateOf.get, StateT.get, pure, List.append_assoc]
    have enough := @length_le_variableTokens m.vars 0
    rw [VARIABLES_tokens (by rw [List.length_append, List.length_cons]; omega)]
    simp only [ATTRIBUTE, bind, StateT.bind, Option.bind, symbols_cons, symbols_nil, STRING,
      MessageItem.part]
    rfl

/-- The keyword chooses the part. -/
theorem MSG_DEF_body (plain : type ≠ .FAULTMSG) :
    MSG_DEF (keywordToken type :: (m.body ++ .SLASH_SY :: rest)) =
      if m.vars = [] then none else some (m.part type, .SLASH_SY :: rest) := by
  rw [← partOf_body]
  cases type with
  | COMMANDMSG => rfl
  | DATAMSG => rfl
  | FAULTMSG => exact absurd rfl plain

theorem FAULT_MSG_body :
    FAULT_MSG (.FAULT_MSG_SY :: (m.body ++ .SLASH_SY :: rest)) =
      if m.vars = [] then none else some (m.part .FAULTMSG, .SLASH_SY :: rest) := by
  rw [← partOf_body]
  rfl

/-- The tokens behind the last part but the fault message. -/
def closingTokens (key : Token) : Option MessageItem → List Token
  | none => [.SLASH_SY, key, .GT_SY]
  | some f =>
      .FAULT_MSG_SY :: (f.body ++ [.SLASH_SY, .GT_SY, .LT_SY, .SLASH_SY, key, .GT_SY])

/-- **The end of a definition**, with or without a fault message. -/
theorem closing_tokens {key : Token} {f : Option MessageItem} :
    closing key (closingTokens key f) =
      if ∀ m ∈ f, m.vars ≠ [] then some (f.map (·.part .FAULTMSG), []) else none := by
  cases f with
  | none =>
      rw [if_pos (by simp), closingTokens, closing]
      simp only [bind, StateT.bind, Option.bind, lookahead, List.head?_cons, if_pos, symbols_cons,
        symbols_nil, pure_tokens, Option.map_none]
  | some f =>
      have other : ¬ some Token.FAULT_MSG_SY = some .SLASH_SY := by decide
      rw [closingTokens, closing]
      simp only [bind, StateT.bind, Option.bind, lookahead, List.head?_cons, if_neg other,
        FAULT_MSG_body]
      by_cases empty : f.vars = []
      · simp [empty]
      · simp [empty, symbols_cons, symbols_nil, pure_tokens]

/-- The end of a definition after its messages. -/
theorem closing_bind {key : Token} {f : Option MessageItem} {command data : Option Part} :
    (do
      symbols [.SLASH_SY, .GT_SY, .LT_SY]
      let fault ← closing key
      return { command, data, fault : Info })
      (.SLASH_SY :: .GT_SY :: .LT_SY :: closingTokens key f) =
      if ∀ m ∈ f, m.vars ≠ [] then some (⟨command, data, f.map (·.part .FAULTMSG)⟩, [])
      else none := by
  simp only [bind, StateT.bind, Option.bind, symbols_cons, symbols_nil, closing_tokens]
  split_ifs <;> rfl

omit [FloatingPoint] in
theorem command_tokens {c : MessageItem} {f : Option MessageItem} :
    (WrapperItem.command c f).tokens = .LT_SY :: .CMD_SY :: .GT_SY :: .LT_SY ::
      keywordToken .COMMANDMSG :: (c.body ++ .SLASH_SY :: .GT_SY :: .LT_SY ::
        closingTokens .CMD_SY f) := by
  cases f <;>
    simp [WrapperItem.tokens, WrapperItem.parts, WrapperItem.keywordToken,
      MessageItem.tokens_eq, closingTokens, keywordToken]

omit [FloatingPoint] in
theorem notification_tokens {d : DataItem} {f : Option MessageItem} :
    (WrapperItem.notification d f).tokens = .LT_SY :: .NOTI_SY :: .GT_SY :: .LT_SY ::
      keywordToken .DATAMSG :: (d.body ++ .SLASH_SY :: .GT_SY :: .LT_SY ::
        closingTokens .NOTI_SY f) := by
  cases f <;>
    simp [WrapperItem.tokens, WrapperItem.parts, WrapperItem.keywordToken,
      MessageItem.tokens_eq, closingTokens, keywordToken]

omit [FloatingPoint] in
theorem request_tokens {c : MessageItem} {d : DataItem} {f : Option MessageItem} :
    (WrapperItem.request c d f).tokens = .LT_SY :: .RQST_SY :: .GT_SY :: .LT_SY ::
      keywordToken .COMMANDMSG :: (c.body ++ .SLASH_SY :: .GT_SY :: .LT_SY ::
        keywordToken .DATAMSG :: (d.body ++ .SLASH_SY :: .GT_SY :: .LT_SY ::
          closingTokens .RQST_SY f)) := by
  cases f <;>
    simp [WrapperItem.tokens, WrapperItem.parts, WrapperItem.keywordToken,
      MessageItem.tokens_eq, closingTokens, keywordToken]

/-- **The parser reads the messages of a definition**, if all of them have variables. -/
theorem INFO_tokens : INFO w.tokens =
    if ∀ m ∈ w.messages, m.vars ≠ [] then some (w.info, []) else none := by
  cases w with
  | command c f =>
      have command := @MSG_DEF_body _ c .COMMANDMSG
        (.GT_SY :: .LT_SY :: closingTokens .CMD_SY f) (by decide)
      have ends := @closing_bind _ .CMD_SY f (some (c.part .COMMANDMSG)) none
      rw [command_tokens, INFO]
      simp only [bind, StateT.bind, Option.bind, symbols_cons, symbols_nil, lookahead,
        List.head?_cons, command] at ends ⊢
      by_cases empty : c.vars = []
      · simp [empty, WrapperItem.messages]
      · rw [if_neg empty]
        refine ends.trans ?_
        simp [WrapperItem.messages, empty, WrapperItem.info]
  | notification d f =>
      have data := @MSG_DEF_body _ d.toMessageItem .DATAMSG
        (.GT_SY :: .LT_SY :: closingTokens .NOTI_SY f) (by decide)
      have ends := @closing_bind _ .NOTI_SY f none (some (d.part .DATAMSG))
      rw [notification_tokens, INFO]
      simp only [bind, StateT.bind, Option.bind, symbols_cons, symbols_nil, lookahead,
        List.head?_cons, data] at ends ⊢
      by_cases empty : d.vars = []
      · simp [empty, WrapperItem.messages]
      · rw [if_neg empty]
        refine ends.trans ?_
        simp [WrapperItem.messages, empty, WrapperItem.info]
  | request c d f =>
      have data := @MSG_DEF_body _ d.toMessageItem .DATAMSG
        (.GT_SY :: .LT_SY :: closingTokens .RQST_SY f) (by decide)
      have command := @MSG_DEF_body _ c .COMMANDMSG (.GT_SY :: .LT_SY :: keywordToken .DATAMSG ::
        (d.body ++ .SLASH_SY :: .GT_SY :: .LT_SY :: closingTokens .RQST_SY f)) (by decide)
      have ends := @closing_bind _ .RQST_SY f (some (c.part .COMMANDMSG)) (some (d.part .DATAMSG))
      rw [request_tokens, INFO]
      simp only [bind, StateT.bind, Option.bind, symbols_cons, symbols_nil, lookahead,
        List.head?_cons, command] at ends ⊢
      by_cases empty : c.vars = []
      · simp [empty, WrapperItem.messages]
      · rw [if_neg empty]
        simp only [symbols_cons, symbols_nil, data]
        by_cases silent : d.vars = []
        · simp [silent, WrapperItem.messages]
        · rw [if_neg silent]
          refine ends.trans ?_
          simp [WrapperItem.messages, empty, silent, WrapperItem.info]

theorem parse_text (plain : ∀ m ∈ w.messages, m.Plain) :
    parse w.text = if ∀ m ∈ w.messages, m.vars ≠ [] then some w.info else none := by
  have scanned : scan w.text.length w.text.bytes = w.tokens := by
    have reads := reads_text plain []
    rwa [List.append_nil, tokens_nil, List.append_nil] at reads
  rw [parse, scanned, INFO_tokens]
  split_ifs <;> rfl

/-- **A definition is read back.** A `MessageManipulator` declares the messages that were described,
with their variables one behind the other; it rejects the definition of a message without
variables, which has no length. -/
theorem parse_DefinitionsBuf (plain : ∀ m ∈ w.messages, m.Plain) (fits : w.DefinitionFits) :
    parse w.DefinitionsBuf =
      if ∀ m ∈ w.messages, m.vars ≠ [] then some w.info else none := by
  rw [DefinitionsBuf_eq (fun m mem => (plain m mem).toCounted) fits]
  exact parse_text plain

/-- A variable of one value, which has no scale. -/
def plainVariable (name format : String) (invalid : Option CString) : VariableItem :=
  .of { name := some (.ofString name), format := some (.ofString format), invalid_value := invalid }

/-- The command that points an antenna. -/
def pointing : WrapperItem :=
  .command ⟨⟨some (.ofString "Point"), none, [], none, ⟨1, 1⟩⟩,
    [plainVariable "Elevation" "UINT16" none,
      plainVariable "Azimuth" "INT08" (some (.ofString "127"))]⟩ none

omit [FloatingPoint] in
theorem real_one : Real (.ofString "1.0") :=
  ⟨[49], [48], rfl, List.forall_mem_singleton.mpr (by decide), by decide⟩

omit [FloatingPoint] in
theorem plain_pointing : ∀ m ∈ pointing.messages, m.Plain := by
  intro m mem
  rw [pointing, WrapperItem.messages, Option.toList_none, List.mem_singleton] at mem
  subst mem
  refine ⟨⟨by decide, by decide⟩, ⟨_, rfl, by decide⟩, fun v mem => ?_⟩
  simp only [List.mem_cons, List.not_mem_nil, or_false] at mem
  rcases mem with rfl | rfl
  · exact ⟨⟨_, rfl, by decide⟩, real_one, .inl rfl⟩
  · exact ⟨⟨_, rfl, by decide⟩, real_one, .inr (.inl ⟨by decide, by decide⟩)⟩

omit [FloatingPoint] in
theorem parse_pointing :
    @parse noFloats pointing.DefinitionsBuf = some (@WrapperItem.info noFloats pointing) :=
  (@parse_DefinitionsBuf noFloats pointing plain_pointing (by decide +kernel)).trans
    (if_pos (by decide))

/-! ### What a consumer can do with it -/

/-- The type of the values. -/
def DataType.valueType : DataType → ValueType
  | SDM_INT08 => .INT08
  | SDM_UINT08 => .UINT08
  | SDM_INT16 => .INT16
  | SDM_UINT16 => .UINT16
  | SDM_INT32 => .INT32
  | SDM_UINT32 => .UINT32
  | SDM_FLOAT32 => .FLOAT32
  | SDM_FLOAT64 => .FLOAT64

omit [FloatingPoint] in
theorem typeNamed_text (type : DataType) : Var.typeNamed type.text = type.valueType := by
  cases type <;> rfl

omit [FloatingPoint] in
theorem size_valueType (type : DataType) : type.valueType.size = type.size := by
  cases type <;> rfl

omit [FloatingPoint] in
theorem DataType.valueType_ne_EMPTY (type : DataType) : type.valueType ≠ .EMPTY := by
  intro empty
  cases type <;> cases empty

/-- The declaration of a variable, but for its invalid value. -/
theorem declared_eq (v : VariableItem) (start : Nat) :
    (v.declared start).name = VariableItem.printedName v.name ∧
      (v.declared start).start = start ∧ (v.declared start).length = v.length.toNat ∧
      (v.declared start).type = v.dataFormat.valueType := by
  rw [VariableItem.declared, ← typeNamed_text]
  split_ifs <;> exact ⟨rfl, rfl, rfl, rfl⟩

theorem extent_declared (length : 0 ≤ v.length) (start : Nat) :
    (v.declared start).extent = v.bytes.toNat := by
  obtain ⟨-, -, count, type⟩ := declared_eq v start
  rw [Var.extent, count, type, size_valueType, VariableItem.bytes, mul_comm]
  obtain ⟨n, same⟩ := Int.eq_ofNat_of_zero_le length
  rw [same, Int.toNat_natCast]
  exact (Int.toNat_natCast (v.dataFormat.size * n)).symm

theorem names_declaredFrom (start : Nat) : (declaredFrom vars start).map Var.name =
    vars.map fun v => VariableItem.printedName v.name := by
  induction vars generalizing start with
  | nil => rfl
  | cons v rest ih => rw [declaredFrom, List.map_cons, ih, (declared_eq v start).1, List.map_cons]

/-- **The variables are one behind the other.** -/
theorem declaredFrom_placed (length : ∀ v ∈ vars, 0 ≤ v.length) (start : Nat) :
    (declaredFrom vars start).Pairwise Var.Separate ∧ ∀ x ∈ declaredFrom vars start,
      x.type ≠ .EMPTY ∧ start ≤ x.start ∧ x.start + x.extent ≤ start + (totalBytes vars).toNat := by
  induction vars generalizing start with
  | nil => exact ⟨List.Pairwise.nil, fun x mem => absurd mem List.not_mem_nil⟩
  | cons v rest ih =>
      have here := length v List.mem_cons_self
      have others : ∀ u ∈ rest, 0 ≤ u.length := fun u mem => length u (List.mem_cons_of_mem v mem)
      have bytes := bytes_nonneg here
      have tail := totalBytes_nonneg others
      have extent := extent_declared here start
      obtain ⟨-, begins, -, type⟩ := declared_eq v start
      obtain ⟨separate, inside⟩ := ih others (start + v.bytes.toNat)
      have total : (totalBytes (v :: rest)).toNat = v.bytes.toNat + (totalBytes rest).toNat := by
        rw [totalBytes]
        omega
      rw [declaredFrom, total]
      refine ⟨List.pairwise_cons.mpr ⟨fun x mem => .inl ?_, separate⟩, fun x mem => ?_⟩
      · rw [begins, extent]
        exact (inside x mem).2.1
      · rcases List.mem_cons.mp mem with rfl | mem
        · refine ⟨?_, begins.ge, ?_⟩
          · rw [type]
            exact v.dataFormat.valueType_ne_EMPTY
          · rw [begins, extent]
            omega
        · obtain ⟨some, low, high⟩ := inside x mem
          exact ⟨some, by omega, by omega⟩

/-- Every variable has values and a name of its own, and all of them have room in a message. -/
structure MessageItem.Described (m : MessageItem) : Prop where
  names : (m.vars.map (·.name)).Nodup
  values : ∀ v ∈ m.vars, 0 < v.length
  room : totalBytes m.vars ≤ (BUFSIZE - 39 : Nat)

/-- The variables of a part. -/
theorem arraysPlaced_part (plain : m.Plain) (described : m.Described) :
    ArraysPlaced (BUFSIZE - 39) (m.part type).declared := by
  obtain ⟨separate, inside⟩ := declaredFrom_placed plain.length 0
  refine ⟨?_, fun x mem => (inside x mem).1, separate, fun x mem => ?_⟩
  · have names : m.vars.map (fun v => VariableItem.printedName v.name) =
        (m.vars.map (·.name)).map VariableItem.printedName := by
      rw [List.map_map]
      rfl
    rw [MessageItem.part, names_declaredFrom, names]
    refine described.names.map_on fun a left b right same => ?_
    obtain ⟨v, mem, rfl⟩ := List.mem_map.mp left
    obtain ⟨u, there, rfl⟩ := List.mem_map.mp right
    obtain ⟨s, name, -⟩ := (plain.vars v mem).name
    obtain ⟨t, other, -⟩ := (plain.vars u there).name
    rw [name, other] at same ⊢
    exact congrArg some same
  · have high := (inside x mem).2.2
    have room := described.room
    omega

theorem declaredFrom_values (values : ∀ v ∈ vars, 0 < v.length) (start : Nat) :
    ∀ x ∈ declaredFrom vars start, 0 < x.length := by
  induction vars generalizing start with
  | nil => exact fun x mem => nomatch mem
  | cons v rest ih =>
      intro x mem
      rcases List.mem_cons.mp mem with rfl | mem
      · have here := values v List.mem_cons_self
        rw [(declared_eq v start).2.2.1]
        omega
      · exact ih (fun u mem => values u (List.mem_cons_of_mem v mem)) _ x mem

omit [FloatingPoint] in
theorem size_ge (c : MessageClass) : BUFSIZE - 39 ≤ c.size := by
  cases c with
  | SDMData type => exact (by decide : BUFSIZE - 39 ≤ BUFSIZE - 29)
  | SDMCommand => exact (by decide : BUFSIZE - 39 ≤ BUFSIZE - 35)
  | SDMService => exact le_rfl

/-- The variables of a part are placed in every array of a message. -/
theorem wellPlaced_part (plain : m.Plain) (described : m.Described) (c : MessageClass) :
    WellPlaced c.size (m.part type).declared := by
  have placed := (@arraysPlaced_part _ m type plain described).wellPlaced
    (declaredFrom_values described.values 0)
  refine ⟨placed.names, placed.apart, fun x mem => ?_⟩
  exact (placed.inside x mem).trans (size_ge c)

/-- The id of a part. -/
theorem ofInt_part : .ofInt (m.part type).newNode.id = m.interfaceMessageID := by
  have low := Int16.le_toInt m.interfaceMessageID.getInterfaceMessagePair
  have high := Int16.toInt_lt m.interfaceMessageID.getInterfaceMessagePair
  have id : (m.part type).newNode.id = m.interfaceMessageID.getInterfaceMessagePair.toInt :=
    toInt_decimal (by omega) (by omega)
  rw [id, ofInt_getInterfaceMessagePair]

/-- Every part of a definition is one of its messages. -/
theorem part_of_info {c : MessageClass} {part : Part} (here : c.part w.info = some part) :
    ∃ m ∈ w.parts, part = m.2.part m.1 ∧ w.info.message.getMsgID m.1 = m.2.interfaceMessageID := by
  have command (part) (here : w.info.command = some part) : ∃ m ∈ w.parts, part = m.2.part m.1 ∧
      w.info.message.getMsgID m.1 = m.2.interfaceMessageID := by
    cases w with
    | notification => cases here
    | command c f =>
        cases here
        exact ⟨(.COMMANDMSG, c), List.mem_cons_self, rfl, ofInt_part⟩
    | request c d f =>
        cases here
        exact ⟨(.COMMANDMSG, c), List.mem_cons_self, rfl, ofInt_part⟩
  cases c with
  | SDMCommand => exact command part here
  | SDMService => exact command part (part_of_service here).1
  | SDMData type =>
      cases type with
      | COMMANDMSG => cases here
      | DATAMSG =>
          have here : w.info.data = some part := here
          cases w with
          | command => cases here
          | notification d f =>
              cases here
              exact ⟨(.DATAMSG, d.toMessageItem), List.mem_cons_self, rfl, ofInt_part⟩
          | request c d f =>
              cases here
              exact ⟨(.DATAMSG, d.toMessageItem), List.mem_cons_of_mem _ List.mem_cons_self, rfl,
                ofInt_part⟩
      | FAULTMSG =>
          have here : w.info.fault = some part := here
          rcases w with ⟨c, f⟩ | ⟨d, f⟩ | ⟨c, d, f⟩ <;> cases f <;> cases here
          · exact ⟨(.FAULTMSG, _), List.mem_cons_of_mem _ List.mem_cons_self, rfl, ofInt_part⟩
          · exact ⟨(.FAULTMSG, _), List.mem_cons_of_mem _ List.mem_cons_self, rfl, ofInt_part⟩
          · exact ⟨(.FAULTMSG, _),
              List.mem_cons_of_mem _ (List.mem_cons_of_mem _ List.mem_cons_self), rfl, ofInt_part⟩

/-- **What a definition is for.** Of a command, notification or request whose messages have room and
variables with names of their own, the text that `RegInfo` writes is parsed; the ids of its messages
are those that were described, and a value that is set by its name is read back, and changes no
other variable. -/
theorem described_access (plain : ∀ m ∈ w.messages, m.Plain) (fits : w.DefinitionFits)
    (filled : ∀ m ∈ w.messages, m.vars ≠ []) (described : ∀ m ∈ w.messages, m.Described) :
    ∃ info, parse w.DefinitionsBuf = some info ∧
      ∀ (c : MessageClass) (part : Part), c.part info = some part →
        (∃ m ∈ w.parts, part = m.2.part m.1 ∧
          info.message.getMsgID m.1 = m.2.interfaceMessageID) ∧
        ∀ x ∈ part.declared, x.type.IsInteger → ∀ val : Value, val.type = x.type → ∀ Buffer,
          ∃ Buffer', c.setValue info.message x.name Buffer val = some (true, Buffer') ∧
            (∀ IsValid, (c.getValue info.message false x.name Buffer' IsValid).map Prod.fst =
              some val) ∧
            ∀ y ∈ part.declared, y ≠ x → ∀ scaled IsValid,
              c.getValue info.message scaled y.name Buffer' IsValid =
                c.getValue info.message scaled y.name Buffer IsValid := by
  refine ⟨w.info, ?_, fun c part here => ⟨part_of_info here,
    fun x mem integer val typed Buffer => ?_⟩⟩
  · rw [DefinitionsBuf_eq (fun m mem => (plain m mem).toCounted) fits, parse_text plain,
      if_pos filled]
  obtain ⟨m, mem', rfl, -⟩ := part_of_info here
  have listed : m.2 ∈ w.messages := by
    rw [← parts_messages]
    exact List.mem_map_of_mem mem'
  have placed := @wellPlaced_part _ m.2 m.1 (plain m.2 listed) (described m.2 listed) c
  refine ⟨(setValue Buffer (some x) val).2, setValue_declared here placed mem, fun IsValid => ?_,
    fun y there other scaled IsValid => ?_⟩
  · rw [getValue_declared here placed mem, Option.map_some, getValue_setValue typed integer]
  · have apart : x.Apart y := placed.apart.forall mem there other.symm
    rw [getValue_declared here placed there, getValue_declared here placed there,
      getValue_setValue_of_apart typed apart]

omit [FloatingPoint] in
/-- The azimuth is set. -/
theorem described_pointing : ∃ Buffer', @MessageClass.setValue noFloats
    (Info.message (@WrapperItem.info noFloats pointing)) (.ofString "Azimuth") (fun _ => 0)
      (.INT08 (-3)) .SDMCommand = some (true, Buffer') := by
  have described : ∀ m ∈ pointing.messages, m.Described := by
    intro m mem
    rw [pointing, WrapperItem.messages, Option.toList_none, List.mem_singleton] at mem
    subst mem
    exact ⟨by decide, by decide, by decide⟩
  obtain ⟨info, parsed, access⟩ := @described_access noFloats pointing plain_pointing
    (by decide +kernel) (by decide) described
  have same := (@parse_text noFloats pointing plain_pointing).trans (if_pos (by decide))
  rw [DefinitionsBuf_eq (fun m mem => (plain_pointing m mem).toCounted) (by decide +kernel), same]
    at parsed
  cases parsed
  obtain ⟨-, set⟩ := access .SDMCommand _ rfl
  obtain ⟨Buffer', done, -⟩ := set _ (List.mem_cons_of_mem _ List.mem_cons_self) (by decide)
    (.INT08 (-3)) (by decide) fun _ => 0
  exact ⟨Buffer', done⟩

end Declaring

end Sdm.XTEDSItem
