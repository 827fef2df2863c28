import Sdm.Lib.Decimal
import Sdm.XTEDS.NullSafety

/-!
Filtering the items of a document by qualifiers (`MatchesQualifier`).

Every class compares the value of a pair with the text of the attribute that the pair names, and
rejects a name it does not know. The pairs are fetched by index from a linked list.

* `matchesQualifier_cons_cons`: from the second pair on, the index runs off the list.
* `matchesPair_iff`: one pair is compared as the document has the attribute, except where it is
  `Misread`.
* `MatchesQualifier_iff`: which lists are answered as a conjunction.
-/

namespace Sdm.XTEDSItem

open Lib Document

/-! ### The list (`xTEDSQualifierList`) -/

/-- A qualifier of a request, with a name and a value. -/
abbrev Pair := CString × CString

/-- The loop in `operator[]`: `Count` stays what it is. -/
def seek (index Count : Nat) : List Pair → List Pair
  | [] => []
  | q :: rest => if Count < index then seek index Count rest else q :: rest

/-- `xTEDSQualifierList::operator[]`. It throws where the index is out of bounds; where the loop has
passed the last node, the data of none is fetched. -/
def at? (list : List Pair) (index : Nat) : Option (Option Pair) :=
  if list.length ≤ index then some none
  else
    match seek index 0 list with
    | [] => none
    | q :: _ => some (some q)

/-- One round of a `MatchesQualifier`, which goes through the names in order. -/
def matchesPair (attributes : List (CString × Option CString)) (CurQual : Pair) : Bool :=
  match attributes.lookup CurQual.1 with
  | none => false
  | some text => text = some CurQual.2

/-- The rounds of a `MatchesQualifier` from `i` on. -/
def matchesFrom (attributes : List (CString × Option CString)) (QualList : List Pair) (i : Nat) :
    Nat → Option Bool
  | 0 => some true
  | rounds + 1 =>
      match at? QualList i with
      | none => none
      | some none => some false
      | some (some CurQual) =>
          if matchesPair attributes CurQual then matchesFrom attributes QualList (i + 1) rounds
          else some false

/-- A `MatchesQualifier` that compares these attributes. -/
def matchesQualifier (attributes : List (CString × Option CString)) (QualList : List Pair) :
    Option Bool :=
  if QualList = [] then some true else matchesFrom attributes QualList 0 QualList.length

section List

variable {attributes : List (CString × Option CString)} {p q : Pair} {rest : List Pair}

theorem seek_zero : seek 0 0 (p :: rest) = p :: rest := by simp [seek]

theorem seek_succ (index : Nat) (list : List Pair) : seek (index + 1) 0 list = [] := by
  induction list with
  | nil => rfl
  | cons q rest ih => rw [seek, if_pos (Nat.succ_pos _), ih]

theorem at?_zero : at? (p :: rest) 0 = some (some p) := by simp [at?, seek_zero]

/-- No later pair is found. -/
theorem at?_succ {index : Nat} {list : List Pair} (lt : index + 1 < list.length) :
    at? list (index + 1) = none := by
  rw [at?, if_neg (Nat.not_le.mpr lt), seek_succ]

theorem matchesQualifier_nil : matchesQualifier attributes [] = some true := rfl

theorem matchesQualifier_singleton :
    matchesQualifier attributes [p] = some (matchesPair attributes p) := by
  simp only [matchesQualifier, List.cons_ne_nil, if_false, List.length_singleton, matchesFrom,
    at?_zero]
  cases matchesPair attributes p <;> rfl

/-- With more pairs than one, the first one that matches is followed by a fault. -/
theorem matchesQualifier_cons_cons :
    matchesQualifier attributes (p :: q :: rest) =
      if matchesPair attributes p then none else some false := by
  rw [matchesQualifier, if_neg (List.cons_ne_nil _ _), List.length_cons, List.length_cons,
    matchesFrom, at?_zero]
  have second : at? (p :: q :: rest) (0 + 1) = none := at?_succ (by simp)
  cases here : matchesPair attributes p with
  | false => simp only [here, Bool.false_eq_true, if_false]
  | true => simp only [here, if_true, matchesFrom, second]

/-- A table in which no name occurs twice. -/
theorem matchesPair_eq_true_iff (nodup : (attributes.map Prod.fst).Nodup) :
    matchesPair attributes p = true ↔ (p.1, some p.2) ∈ attributes := by
  unfold matchesPair
  induction attributes with
  | nil => simp
  | cons entry others ih =>
      obtain ⟨name, text⟩ := entry
      obtain ⟨fresh, nodup⟩ := List.nodup_cons.mp nodup
      obtain ⟨asked, value⟩ := p
      by_cases here : asked = name
      · subst here
        have notLater : (asked, some value) ∉ others := fun mem =>
          fresh (List.mem_map.mpr ⟨_, mem, rfl⟩)
        simp [notLater, eq_comm]
      · have skipped : (asked == name) = false := beq_false_of_ne here
        simpa [List.lookup_cons, skipped, here] using ih nodup

end List

/-! ### The classes -/

/-- The attributes that `xTEDSVariable::MatchesQualifier` compares. The numbers are printed into
buffers of eight characters. -/
def VariableItem.attributes (v : VariableItem) : List (CString × Option CString) :=
  [(.ofString "name", v.name), (.ofString "description", v.description),
    (.ofString "id", some ((decimal v.id).take 7)),
    (.ofString "length", some ((decimal v.length).take 7)),
    (.ofString "format", some v.dataFormat.text), (.ofString "kind", v.kind),
    (.ofString "rangeMin", v.rangeMin), (.ofString "rangeMax", v.rangeMax),
    (.ofString "defaultValue", v.defaultValue),
    (.ofString "m_iPrecision", some ((decimal v.precision.toNat).take 7)),
    (.ofString "units", v.units), (.ofString "accuracy", v.accuracy),
    (.ofString "scaleFactor", v.scaleFactor), (.ofString "scaleUnits", v.scaleUnits),
    (.ofString "rLow", v.rLow), (.ofString "rHigh", v.rHigh), (.ofString "yLow", v.yLow),
    (.ofString "yHigh", v.yHigh), (.ofString "invalidValue", some v.invalidValue)]

/-- How an arrival is written. -/
def MsgArrival.text : MsgArrival → CString
  | Event => .ofString "EVENT"
  | Periodic => .ofString "PERIODIC"

/-- The attributes that `xTEDSDataMsg::MatchesQualifier` compares. `printed` is `%f` of the number
with a text. -/
def DataItem.attributes (printed : CString → CString) (m : DataItem) :
    List (CString × Option CString) :=
  [(.ofString "name", m.name), (.ofString "description", m.description),
    (.ofString "id", some ((decimal m.interfaceMessageID.message.toNat).take 7)),
    (.ofString "msgArrival", some m.msg_arrival.text),
    (.ofString "msgRate",
      some ((m.msg_rate.elim (.ofString "0.000000") printed).take 15))]

/-- The attributes that `MatchesQualifier` of `xTEDSCommandMsg` and `xTEDSFaultMsg` compare. -/
def MessageItem.attributes (m : MessageItem) : List (CString × Option CString) :=
  [(.ofString "name", m.name), (.ofString "description", m.description),
    (.ofString "id", some ((decimal m.interfaceMessageID.message.toNat).take 7))]

/-- An item of the tree. -/
inductive AnyItem where
  | var (v : VariableItem)
  | data (m : DataItem)
  | command (m : MessageItem)
  | fault (m : MessageItem)
  deriving DecidableEq

/-- The attributes that the class of an item compares. -/
def AnyItem.attributes (printed : CString → CString) : AnyItem → List (CString × Option CString)
  | var v => v.attributes
  | data m => m.attributes printed
  | command m => m.attributes
  | fault m => m.attributes

/-- `MatchesQualifier`. -/
def AnyItem.MatchesQualifier (printed : CString → CString) (item : AnyItem)
    (QualList : List Pair) : Option Bool :=
  matchesQualifier (item.attributes printed) QualList

theorem AnyItem.nodup_attributes (printed : CString → CString) (item : AnyItem) :
    ((item.attributes printed).map Prod.fst).Nodup := by
  cases item with
  | var v =>
      change (["name", "description", "id", "length", "format", "kind", "rangeMin", "rangeMax",
        "defaultValue", "m_iPrecision", "units", "accuracy", "scaleFactor", "scaleUnits", "rLow",
        "rHigh", "yLow", "yHigh", "invalidValue"].map CString.ofString).Nodup
      decide
  | data m =>
      change (["name", "description", "id", "msgArrival", "msgRate"].map CString.ofString).Nodup
      decide
  | command m =>
      change (["name", "description", "id"].map CString.ofString).Nodup
      decide
  | fault m =>
      change (["name", "description", "id"].map CString.ofString).Nodup
      decide

/-- The items of the wrapper. -/
def WrapperItem.items : WrapperItem → List AnyItem
  | command c fault => .command c :: fault.toList.map .fault
  | notification d fault => .data d :: fault.toList.map .fault
  | request c d fault => .command c :: .data d :: fault.toList.map .fault

/-- The items of the tree. -/
def ItemTree.items (root : ItemTree) : List AnyItem :=
  root.vars.map .var ++
    (root.commands ++ root.notifications ++ root.requests).flatMap WrapperItem.items

/-! ### The elements of a document -/

/-- An element for which an item may be built. -/
inductive Element where
  | var (v : Variable)
  | data (m : DataMsg)
  | command (m : PlainMsg)
  | fault (m : PlainMsg)

namespace Element

/-- The attributes of an element as they are spelled in a document. Numbers are in decimal form. -/
def declared : Element → List (CString × Option CString)
  | var v =>
      [(.ofString "name", v.name), (.ofString "description", v.description),
        (.ofString "id", v.id.map fun s => decimal (toInt s)),
        (.ofString "length", v.length.map fun s => decimal (toInt s)),
        (.ofString "format", v.format), (.ofString "kind", v.kind),
        (.ofString "rangeMin", v.range_min), (.ofString "rangeMax", v.range_max),
        (.ofString "defaultValue", v.default_value),
        (.ofString "precision", v.precision.map fun s => decimal (toInt s)),
        (.ofString "units", v.units), (.ofString "accuracy", v.accuracy),
        (.ofString "scaleFactor", v.scale_factor), (.ofString "scaleUnits", v.scale_units),
        (.ofString "rLow", v.r_low), (.ofString "rHigh", v.r_high), (.ofString "yLow", v.y_low),
        (.ofString "yHigh", v.y_high), (.ofString "invalidValue", v.invalid_value)]
  | data m =>
      [(.ofString "name", m.name), (.ofString "description", m.description),
        (.ofString "id", m.id.map fun s => decimal (toInt s)),
        (.ofString "msgArrival", m.msg_arrival), (.ofString "msgRate", m.msg_rate)]
  | command m | fault m =>
      [(.ofString "name", m.name), (.ofString "description", m.description),
        (.ofString "id", m.id.map fun s => decimal (toInt s))]

/-- The element has the attribute of the pair, with its value. -/
def Has (e : Element) (p : Pair) : Prop := (p.1, some p.2) ∈ e.declared

instance (e : Element) : DecidablePred e.Has := fun _ => inferInstanceAs (Decidable (_ ∈ _))

/-- A number of a variable that is taken for another one: it is not declared, and the default is
asked for, or it has more than seven characters, and it or the first seven of it are asked for. -/
def NumberMisread (declared : Option CString) (default : Int) (value : CString) : Prop :=
  match declared with
  | none => value = decimal default
  | some s => 7 < (decimal (toInt s)).length ∧
      (value = decimal (toInt s) ∨ value = (decimal (toInt s)).take 7)

/-- The id of a message that does not fit in a byte: it is taken for zero. -/
def IDMisread (declared : Option CString) (value : CString) : Prop :=
  ∃ s, declared = some s ∧ ¬ (0 ≤ toInt s ∧ toInt s < 256) ∧
    (value = .ofString "0" ∨ value = decimal (toInt s))

/-- A pair whose value is compared with another text than the one that is declared. -/
def Misread (printed : CString → CString) : Element → Pair → Prop
  | var v, (name, value) =>
      (name = .ofString "id" ∧ NumberMisread v.id (-1) value) ∨
      (name = .ofString "length" ∧ NumberMisread v.length 1 value) ∨
      (name = .ofString "precision" ∧ ∃ s, v.precision = some s ∧ value = decimal (toInt s)) ∨
      (name = .ofString "m_iPrecision" ∧ value = (decimal
        (v.precision.elim ATTR_INIT_VALUE fun s => UInt32.ofInt (toInt s)).toNat).take 7) ∨
      (name = .ofString "invalidValue" ∧ v.invalid_value = none ∧ value = .ofString "NS")
  | data m, (name, value) =>
      (name = .ofString "id" ∧ IDMisread m.id value) ∨
      (name = .ofString "msgArrival" ∧ m.msg_arrival = none ∧ value = .ofString "EVENT") ∨
      (name = .ofString "msgRate" ∧
        match m.msg_rate with
        | none => value = .ofString "0.000000"
        | some s => (printed s).take 15 ≠ s ∧ (value = s ∨ value = (printed s).take 15))
  | command m, (name, value) | fault m, (name, value) =>
      name = .ofString "id" ∧ IDMisread m.id value

/-- The item is built from the element. -/
def Builds : Element → AnyItem → Prop
  | var v, item => item = .var (VariableItem.of v)
  | data m, item => ∃ list built, SetDataMsg m list = .ok built ∧ item = .data built
  | command m, item => ∃ list built, SetPlainMsg m list = .ok built ∧ item = .command built
  | fault m, item => ∃ list built, SetPlainMsg m list = .ok built ∧ item = .fault built

/-- The element is accepted. -/
def Verified : Element → Prop
  | var v => XTEDSVerification.VariableVerified v
  | data m => XTEDSVerification.DataVerified m
  | command m | fault m => XTEDSVerification.PlainVerified m

end Element

/-! ### One pair -/

section Texts

variable {declared : Option CString}

/-- Two texts answer alike, unless they differ and one of them is asked for. -/
theorem agree_iff (a b value : CString) : (a = value ↔ b = value) ↔
    ¬ (a ≠ b ∧ (value = b ∨ value = a)) := by
  by_cases same : a = b
  · simp [same]
  · have exclusive : ¬ (a = value ∧ b = value) := fun both => same (both.1.trans both.2.symm)
    simp only [ne_eq, same, not_false_eq_true, true_and]
    constructor
    · rintro agree (rfl | rfl)
      · exact same (agree.mpr rfl)
      · exact same (agree.mp rfl).symm
    · intro neither
      exact iff_of_false (fun eq => neither (.inr eq.symm)) fun eq => neither (.inl eq.symm)

/-- A number of a variable, printed into eight characters. -/
theorem number_agree_iff (declared : Option CString) (default : Int) (value : CString)
    (short : (decimal default).length ≤ 7) :
    (((decimal (declared.elim default toInt)).take 7 = value) ↔
      (declared.map fun s => decimal (toInt s)) = some value) ↔
        ¬ Element.NumberMisread declared default value := by
  cases declared with
  | none => simp [Element.NumberMisread, CString.take_of_length_le short, eq_comm]
  | some s =>
      have cut : (decimal (toInt s)).take 7 ≠ decimal (toInt s) ↔
        7 < (decimal (toInt s)).length := by
        constructor
        · intro differ
          by_contra le
          exact differ (CString.take_of_length_le (Nat.not_lt.mp le))
        · intro long same
          have length := congrArg CString.length same
          simp only [CString.length, CString.take, List.length_take] at length long
          omega
      simpa [Element.NumberMisread, cut] using
        agree_iff ((decimal (toInt s)).take 7) (decimal (toInt s)) value

theorem messageByte_toNat (i : Int) :
    ((messageByte i).toNat : Int) = if 0 ≤ i ∧ i < 256 then i else 0 := by
  unfold messageByte
  by_cases fits : 0 < i ∧ i < 256
  · rw [if_pos fits, if_pos ⟨fits.1.le, fits.2⟩]
    rw [UInt8.ofInt, UInt8.toNat_ofNat_of_lt' (by simp [UInt8.size]; omega)]
    omega
  · rw [if_neg fits]
    split
    · have zero : i = 0 := by omega
      rw [zero]
      rfl
    · rfl

/-- The id of a message, printed from its byte. -/
theorem id_agree_iff (value : CString) (given : declared.isSome) :
    (((decimal (byteOf messageByte declared).toNat).take 7 = value) ↔
      (declared.map fun s => decimal (toInt s)) = some value) ↔
        ¬ Element.IDMisread declared value := by
  obtain ⟨s, rfl⟩ := Option.isSome_iff_exists.mp given
  have short : (decimal (messageByte (toInt s)).toNat).length ≤ 7 := by
    have lt : (messageByte (toInt s)).toNat < 256 := UInt8.toNat_lt _
    refine (length_decimal_le (k := 3) (by omega) (by omega)).trans ?_
    split <;> omega
  rw [show byteOf messageByte (some s) = messageByte (toInt s) from rfl,
    CString.take_of_length_le short, messageByte_toNat]
  simp only [Option.map_some, Option.some.injEq, Element.IDMisread, exists_eq_left']
  by_cases fits : 0 ≤ toInt s ∧ toInt s < 256
  · simp [fits]
  · have zero : decimal 0 = .ofString "0" := rfl
    have differ : CString.ofString "0" ≠ decimal (toInt s) := fun same =>
      fits (by rw [← decimal_injective (zero.trans same)]; omega)
    simpa [fits, zero, differ, or_comm] using
      agree_iff (.ofString "0") (decimal (toInt s)) value

theorem text_dataFormatOf {format : CString} (known : format ∈ XTEDSVerification.formats) :
    (dataFormatOf (some format)).text = format := by
  simp only [XTEDSVerification.formats, List.map_cons, List.map_nil, List.mem_cons,
    List.not_mem_nil, or_false] at known
  rcases known with rfl | rfl | rfl | rfl | rfl | rfl | rfl | rfl <;> rfl

end Texts

namespace Element

variable {printed : CString → CString} {p : Pair}

theorem matchesPair_var {v : Variable} (verified : XTEDSVerification.VariableVerified v) :
    (matchesPair ((AnyItem.var (VariableItem.of v)).attributes printed) p = true ↔ (var v).Has p) ↔
      ¬ (var v).Misread printed p := by
  obtain ⟨name, value⟩ := p
  obtain ⟨format, known, isFormat⟩ := verified.format
  rw [matchesPair_eq_true_iff (AnyItem.nodup_attributes printed _)]
  by_cases isID : name = .ofString "id"
  · subst isID
    simpa +decide [AnyItem.attributes, VariableItem.attributes, VariableItem.of, Has, declared,
      Misread, eq_comm]
      using number_agree_iff v.id (-1) value (by decide)
  by_cases isLength : name = .ofString "length"
  · subst isLength
    simpa +decide [AnyItem.attributes, VariableItem.attributes, VariableItem.of, Has, declared,
      Misread, eq_comm]
      using number_agree_iff v.length 1 value (by decide)
  by_cases isPrecision : name = .ofString "precision"
  · subst isPrecision
    simp +decide [AnyItem.attributes, VariableItem.attributes, VariableItem.of, Has, declared,
      Misread, eq_comm]
  by_cases isMember : name = .ofString "m_iPrecision"
  · subst isMember
    simp +decide [AnyItem.attributes, VariableItem.attributes, VariableItem.of, Has, declared,
      Misread, eq_comm]
  by_cases isInvalid : name = .ofString "invalidValue"
  · subst isInvalid
    cases h : v.invalid_value <;>
      simp +decide [AnyItem.attributes, VariableItem.attributes, VariableItem.of, Has, declared,
        Misread, h, eq_comm]
  · simp [AnyItem.attributes, VariableItem.attributes, VariableItem.of, Has, declared, Misread,
      isID, isLength, isPrecision, isMember, isInvalid, isFormat, text_dataFormatOf known]

theorem matchesPair_plain {m : PlainMsg} {built : MessageItem} {list : List VariableItem}
    (verified : XTEDSVerification.PlainVerified m) (set : SetPlainMsg m list = .ok built) :
    (matchesPair ((AnyItem.command built).attributes printed) p = true ↔ (command m).Has p) ↔
      ¬ (command m).Misread printed p := by
  obtain ⟨name, value⟩ := p
  obtain ⟨vars, -, made⟩ := Building.bind_eq_ok_iff.mp set
  cases made
  rw [matchesPair_eq_true_iff (AnyItem.nodup_attributes printed _)]
  by_cases isID : name = .ofString "id"
  · subst isID
    simpa +decide [AnyItem.attributes, MessageItem.attributes, Has, declared, Misread, eq_comm]
      using id_agree_iff value verified.id
  · simp [AnyItem.attributes, MessageItem.attributes, Has, declared, Misread, isID]

theorem matchesPair_data {m : DataMsg} {built : DataItem} {list : List VariableItem}
    (verified : XTEDSVerification.DataVerified m) (set : SetDataMsg m list = .ok built) :
    (matchesPair ((AnyItem.data built).attributes printed) p = true ↔ (data m).Has p) ↔
      ¬ (data m).Misread printed p := by
  obtain ⟨name, value⟩ := p
  obtain ⟨vars, -, made⟩ := Building.bind_eq_ok_iff.mp set
  cases made
  rw [matchesPair_eq_true_iff (AnyItem.nodup_attributes printed _)]
  by_cases isID : name = .ofString "id"
  · subst isID
    simpa +decide [AnyItem.attributes, DataItem.attributes, Has, declared, Misread, eq_comm] using
      id_agree_iff value verified.id
  by_cases isArrival : name = .ofString "msgArrival"
  · subst isArrival
    cases h : m.msg_arrival with
    | none =>
        simp +decide [AnyItem.attributes, DataItem.attributes, Has, declared, Misread, h,
          MsgArrival.text, eq_comm]
    | some arrival =>
        rcases verified.msg_arrival arrival h with rfl | rfl <;>
          simp +decide [AnyItem.attributes, DataItem.attributes, Has, declared, Misread, h,
            MsgArrival.text, eq_comm]
  by_cases isRate : name = .ofString "msgRate"
  · subst isRate
    cases h : m.msg_rate with
    | none =>
        have zero : (CString.ofString "0.000000").take 15 = .ofString "0.000000" := rfl
        simp +decide [AnyItem.attributes, DataItem.attributes, Has, declared, Misread, h, zero,
          eq_comm]
    | some rate =>
        simpa +decide [AnyItem.attributes, DataItem.attributes, Has, declared, Misread, h, eq_comm]
          using agree_iff ((printed rate).take 15) rate value
  · simp [AnyItem.attributes, DataItem.attributes, Has, declared, Misread, isID, isArrival, isRate]

/-- **One pair is compared as the document has the attribute**, except where it is misread. -/
theorem matchesPair_iff {e : Element} {item : AnyItem} (verified : e.Verified)
    (builds : e.Builds item) :
    (matchesPair (item.attributes printed) p = true ↔ e.Has p) ↔ ¬ e.Misread printed p := by
  cases e with
  | var v =>
      cases builds
      exact matchesPair_var verified
  | data m =>
      obtain ⟨list, built, set, rfl⟩ := builds
      exact matchesPair_data verified set
  | command m =>
      obtain ⟨list, built, set, rfl⟩ := builds
      exact matchesPair_plain verified set
  | fault m =>
      obtain ⟨list, built, set, rfl⟩ := builds
      exact @matchesPair_plain printed p _ _ _ verified set

/-- A list is answered as a conjunction of its pairs: none, one that is not misread, or more of
which the first one does not match, and should not, unless a later one does not match either. -/
def Served (e : Element) (printed : CString → CString) : List Pair → Prop
  | [] => True
  | [p] => ¬ e.Misread printed p
  | p :: rest => ¬ e.Has p ∧ ¬ e.Misread printed p ∨
      e.Has p ∧ e.Misread printed p ∧ ∃ q ∈ rest, ¬ e.Has q

theorem MatchesQualifier_eq_iff {e : Element} {item : AnyItem} (verified : e.Verified)
    (builds : e.Builds item) (QualList : List Pair) :
    item.MatchesQualifier printed QualList = some (decide (∀ p ∈ QualList, e.Has p)) ↔
      e.Served printed QualList := by
  have pair : ∀ p, (matchesPair (item.attributes printed) p = true ↔ e.Has p) ↔
      ¬ e.Misread printed p := fun p => matchesPair_iff verified builds
  match QualList with
  | [] => simp [AnyItem.MatchesQualifier, matchesQualifier_nil, Served]
  | [p] =>
      rw [AnyItem.MatchesQualifier, matchesQualifier_singleton, Served, ← pair p]
      by_cases has : e.Has p <;> simp [has]
  | p :: q :: rest =>
      have misread := pair p
      rw [AnyItem.MatchesQualifier, matchesQualifier_cons_cons]
      simp only [Served]
      cases here : matchesPair (item.attributes printed) p with
      | true =>
          -- A fault, although the first pair may be misread as one that matches.
          by_cases has : e.Has p <;> simp [here, has] at misread <;> simp [has, misread]
      | false =>
          have answer : ∀ (P : Prop) [Decidable P], some false = some (decide P) ↔ ¬ P :=
            fun P _ => by simp
          rw [if_neg Bool.false_ne_true, answer, List.forall_mem_cons]
          by_cases has : e.Has p
          · have misread : e.Misread printed p := by simpa [here, has] using misread
            simp only [has, misread, true_and, not_true_eq_false, false_and, false_or]
            push Not
            rfl
          · have misread : ¬ e.Misread printed p := by simpa [here, has] using misread
            simp [has, misread]

end Element

/-! ### The items of an accepted document -/

/-- The elements of a wrapper. -/
def wrapperElements (w : Wrapper) : List Element :=
  w.command_message.map .command ++ w.data_message.map .data ++ w.fault_message.toList.map .fault

/-- The elements of a document. -/
def elements (parsed : Xteds) : List Element :=
  parsed.interfaces.flatMap fun face => face.vars.map .var ++
    (face.commands ++ face.notifications ++ face.requests).flatMap wrapperElements

/-- Every item is built from an accepted element of these. -/
def BuiltFrom (es : List Element) (root : ItemTree) : Prop :=
  ∀ item ∈ root.items, ∃ e ∈ es, e.Verified ∧ e.Builds item

section Built

variable {es : List Element} {root root' : ItemTree} {w : Wrapper} {list : List VariableItem}
  {item : WrapperItem}

theorem mem_items {item : AnyItem} : item ∈ root.items ↔ (∃ v ∈ root.vars, item = .var v) ∨
    ∃ w ∈ root.commands ++ root.notifications ++ root.requests, item ∈ w.items := by
  simp only [ItemTree.items, List.mem_append, List.mem_map, List.mem_flatMap, eq_comm (a := item)]

theorem BuiltFrom.empty : BuiltFrom es {} := fun item mem => by simp [mem_items] at mem

theorem BuiltFrom.addVariable {v : Variable} (built : BuiltFrom es root)
    (mem : .var v ∈ es) (added : addVariable root v = .ok root') : BuiltFrom es root' := by
  obtain ⟨verified, rfl⟩ := addVariable_eq_ok_iff.mp added
  intro item isItem
  rcases mem_items.mp isItem with ⟨u, isVar, rfl⟩ | old
  · rcases List.mem_append.mp isVar with old | new
    · exact built _ (mem_items.mpr (.inl ⟨u, old, rfl⟩))
    · rw [List.mem_singleton.mp new]
      exact ⟨_, mem, verified, rfl⟩
  · exact built item (mem_items.mpr (.inr old))

/-- What a wrapper adds is built from its elements. -/
def BuildsItems (w : Wrapper) (item : WrapperItem) : Prop :=
  ∀ i ∈ item.items, ∃ e ∈ wrapperElements w, e.Verified ∧ e.Builds i

theorem BuiltFrom.addWrapper (item : WrapperItem) (built : BuiltFrom es root)
    (subset : wrapperElements w ⊆ es)
    (made : BuildsItems w item)
    (items : ∀ i ∈ root'.items, i ∈ root.items ∨ i ∈ item.items) : BuiltFrom es root' := by
  intro i mem
  rcases items i mem with old | new
  · exact built i old
  · obtain ⟨e, isElement, rest⟩ := made i new
    exact ⟨e, subset isElement, rest⟩

theorem fault_builds {fault : Option MessageItem}
    (verified : ∀ f, w.fault_message = some f → XTEDSVerification.PlainVerified f)
    (set : SetFault w.fault_message list = .ok fault) :
    ∀ i ∈ fault.toList.map AnyItem.fault, ∃ e ∈ wrapperElements w, e.Verified ∧ e.Builds i := by
  unfold SetFault at set
  cases given : w.fault_message with
  | none =>
      rw [given] at set
      cases set
      exact fun i mem => absurd mem List.not_mem_nil
  | some f =>
      rw [given] at set
      obtain ⟨built, setF, same⟩ := Building.map_eq_ok_iff.mp set
      subst same
      intro i mem
      refine ⟨.fault f, by simp [wrapperElements, given], verified f given, list, built, setF, ?_⟩
      simpa using mem

theorem command_builds {cmd : PlainMsg} {c : MessageItem}
    (head : w.command_message.head? = some cmd)
    (verified : XTEDSVerification.PlainVerified cmd) (set : SetPlainMsg cmd list = .ok c) :
    ∃ e ∈ wrapperElements w, e.Verified ∧ e.Builds (.command c) :=
  ⟨.command cmd, by simp [wrapperElements, List.mem_of_head? head], verified, list, c, set, rfl⟩

theorem data_builds {dat : DataMsg} {d : DataItem} (head : w.data_message.head? = some dat)
    (verified : XTEDSVerification.DataVerified dat) (set : SetDataMsg dat list = .ok d) :
    ∃ e ∈ wrapperElements w, e.Verified ∧ e.Builds (.data d) :=
  ⟨.data dat, by simp [wrapperElements, List.mem_of_head? head], verified, list, d, set, rfl⟩

theorem BuiltFrom.addCommand (built : BuiltFrom es root) (subset : wrapperElements w ⊆ es)
    (added : addCommand root w = .ok root') : BuiltFrom es root' := by
  obtain ⟨verified, item, set, rfl⟩ := addCommand_eq_ok_iff.mp added
  refine BuiltFrom.addWrapper item built subset ?_ fun i mem => ?_
  · obtain ⟨cmd, head, verifiedCmd⟩ := verified.command rfl
    simp only [SetCommand, required_of_head head, Building.bind_eq_ok_iff] at set
    obtain ⟨_, ⟨⟩, c, setC, f, setF, ⟨⟩⟩ := set
    exact List.forall_mem_cons.mpr
      ⟨command_builds head verifiedCmd setC, fault_builds verified.fault setF⟩
  · simp only [mem_items, List.mem_append, List.mem_singleton, or_and_right, exists_or,
      exists_eq_left] at mem ⊢
    grind

theorem BuiltFrom.addNotification (built : BuiltFrom es root) (subset : wrapperElements w ⊆ es)
    (added : addNotification root w = .ok root') : BuiltFrom es root' := by
  obtain ⟨verified, item, set, rfl⟩ := addNotification_eq_ok_iff.mp added
  refine BuiltFrom.addWrapper item built subset ?_ fun i mem => ?_
  · obtain ⟨dat, head, verifiedDat⟩ := verified.data rfl
    simp only [SetNotification, required_of_head head, Building.bind_eq_ok_iff] at set
    obtain ⟨_, ⟨⟩, d, setD, f, setF, ⟨⟩⟩ := set
    exact List.forall_mem_cons.mpr
      ⟨data_builds head verifiedDat setD, fault_builds verified.fault setF⟩
  · simp only [mem_items, List.mem_append, List.mem_singleton, or_and_right, exists_or,
      exists_eq_left] at mem ⊢
    grind

theorem BuiltFrom.addRequest (built : BuiltFrom es root) (subset : wrapperElements w ⊆ es)
    (added : addRequest root w = .ok root') : BuiltFrom es root' := by
  obtain ⟨verified, item, set, rfl⟩ := addRequest_eq_ok_iff.mp added
  refine BuiltFrom.addWrapper item built subset ?_ fun i mem => ?_
  · obtain ⟨cmd, headC, verifiedCmd⟩ := verified.command rfl
    obtain ⟨dat, headD, verifiedDat⟩ := verified.data rfl
    simp only [SetRequest, required_of_head headC, required_of_head headD,
      Building.bind_eq_ok_iff] at set
    obtain ⟨_, ⟨⟩, _, ⟨⟩, c, setC, d, setD, f, setF, ⟨⟩⟩ := set
    exact List.forall_mem_cons.mpr ⟨command_builds headC verifiedCmd setC, List.forall_mem_cons.mpr
      ⟨data_builds headD verifiedDat setD, fault_builds verified.fault setF⟩⟩
  · simp only [mem_items, List.mem_append, List.mem_singleton, or_and_right, exists_or,
      exists_eq_left] at mem ⊢
    grind

theorem BuiltFrom.addInterface {face : Interface} (built : BuiltFrom es root)
    (subset : (face.vars.map Element.var ++
      (face.commands ++ face.notifications ++ face.requests).flatMap wrapperElements) ⊆ es)
    (added : addInterface root face = .ok root') : BuiltFrom es root' := by
  obtain ⟨-, r₁, run₁, r₂, run₂, r₃, run₃, run₄⟩ := addInterface_eq_ok_iff.mp added
  obtain ⟨vars, wrappers⟩ := List.append_subset.mp subset
  have ofWrapper : ∀ w ∈ face.commands ++ face.notifications ++ face.requests,
      wrapperElements w ⊆ es := fun w mem e isElement =>
    wrappers (List.mem_flatMap.mpr ⟨w, mem, isElement⟩)
  simp only [List.forall_mem_append] at ofWrapper
  obtain ⟨⟨ofCommand, ofNotification⟩, ofRequest⟩ := ofWrapper
  have built₁ := Building.foldlM_induct built (fun _ v _ mem built =>
    BuiltFrom.addVariable built (vars (List.mem_map_of_mem mem))) run₁
  have built₂ := Building.foldlM_induct built₁ (fun _ w _ mem built =>
    BuiltFrom.addCommand built (ofCommand w mem)) run₂
  have built₃ := Building.foldlM_induct built₂ (fun _ w _ mem built =>
    BuiltFrom.addNotification built (ofNotification w mem)) run₃
  exact Building.foldlM_induct built₃ (fun _ w _ mem built =>
    BuiltFrom.addRequest built (ofRequest w mem)) run₄

/-- Every item of an accepted document is built from an accepted element of it. -/
theorem builtFrom_of_Parse {d : DocumentSyntax} {x : XTEDS} (accepted : Parse d = .ok x) :
    ∃ parsed, d.xTEDS = some parsed ∧ BuiltFrom (elements parsed) x.treeRoot := by
  obtain ⟨parsed, isParsed, -, built⟩ := Parse_eq_ok_iff.mp accepted
  obtain ⟨header, -, -, -, -, root, run, rfl⟩ := build_eq_ok_iff.mp built
  obtain ⟨parsed', made, same⟩ := Option.map_eq_some_iff.mp isParsed
  refine ⟨parsed, ?_, Building.foldlM_induct BuiltFrom.empty (fun _ face _ mem built =>
    BuiltFrom.addInterface built fun e isElement => List.mem_flatMap.mpr ⟨face, mem, isElement⟩)
    run⟩
  rw [made]
  revert same
  cases d.encodingKnown <;> simp

end Built

/-- The elements of a document, as the parse leaves them. -/
def documentElements (d : DocumentSyntax) : List Element := d.xTEDS.elim [] elements

/-- **Qualifier filtering is a conjunction** exactly on the lists that are served: for every item of
an accepted document there is the element it was built from, and `MatchesQualifier` says of the item
whether that element has every attribute of the list with its value. -/
theorem MatchesQualifier_iff {d : DocumentSyntax} {x : XTEDS} (accepted : Parse d = .ok x)
    {item : AnyItem} (mem : item ∈ x.treeRoot.items) (printed : CString → CString) :
    ∃ e ∈ documentElements d, e.Builds item ∧ ∀ QualList,
      item.MatchesQualifier printed QualList = some (decide (∀ p ∈ QualList, e.Has p)) ↔
        e.Served printed QualList := by
  obtain ⟨parsed, made, built⟩ := builtFrom_of_Parse accepted
  obtain ⟨e, isElement, verified, builds⟩ := built item mem
  refine ⟨e, by simpa [documentElements, made] using isElement, builds, fun QualList => ?_⟩
  exact Element.MatchesQualifier_eq_iff verified builds QualList

/-- A document with a variable `x` of kind `y`. -/
def demo : DocumentSyntax where
  encoding := none
  attributes := [(.name, .ofString "demo")]
  appDevice := .closed [(.name, .ofString "demo"), (.kind, .ofString "software")]
  interfaces :=
    [{ attributes := [(.name, .ofString "Demo"), (.id, .ofString "1")]
       elements := some
        { «variables» :=
            [{ attributes := [(.name, .ofString "x"), (.kind, .ofString "y"),
                (.format, .ofString "INT08")]
               elements := none }]
          messages := [] } }]

/-- The variable of `demo`. -/
def demoVariable : VariableItem :=
  VariableItem.of
    { name := some (.ofString "x")
      kind := some (.ofString "y")
      format := some (.ofString "INT08")
      interface_name := some (.ofString "Demo")
      interface_id := some (.ofString "1") }

/-- What `Parse` makes of `demo`. -/
def demoTree : XTEDS where
  treeRoot := { vars := [demoVariable] }
  deviceName := some (.ofString "demo")
  componentKey := none
  spaUHub := none
  spaUPort := none

theorem MatchesQualifier_demo :
    ∃ e ∈ documentElements demo, e.Builds (.var demoVariable) ∧ ∀ QualList,
      (AnyItem.var demoVariable).MatchesQualifier id QualList =
          some (decide (∀ p ∈ QualList, e.Has p)) ↔ e.Served id QualList :=
  MatchesQualifier_iff (x := demoTree) rfl List.mem_cons_self id

/-- Two pairs that the variable has are followed off the list. -/
theorem not_MatchesQualifier : ¬ ∀ (d : DocumentSyntax) (x : XTEDS), Parse d = .ok x →
    ∀ item ∈ x.treeRoot.items, ∀ printed, ∃ e ∈ documentElements d, e.Builds item ∧
      ∀ QualList, item.MatchesQualifier printed QualList =
        some (decide (∀ p ∈ QualList, e.Has p)) := by
  intro all
  obtain ⟨e, -, -, answers⟩ := all demo demoTree rfl (.var demoVariable) List.mem_cons_self id
  have fault : (AnyItem.var demoVariable).MatchesQualifier id
      [(.ofString "name", .ofString "x"), (.ofString "kind", .ofString "y")] = none := by
    rfl
  rw [answers] at fault
  cases fault

end Sdm.XTEDSItem
