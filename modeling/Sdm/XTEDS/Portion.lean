import Sdm.XTEDS.Messages

/-!
The portion of a document that a definition comes with (`RegInfo`).

The portion of a command, notification or request has the definitions of variables and then the
messages, which refer to variables. The definitions are collected from two of the messages; one of
the second message is left out when the first has one of its name, of which 32 characters are kept.

* `addDefs_eq`: what the loops of `ToStringConcatVariableDefs` write, when it fits.
* `xTEDSPortionBuf_eq`: the text that `RegInfo` writes is that of the whole portion, when it fits.
* `selfContained_iff`: exactly when every variable of the portion is defined in it once.
-/

namespace Sdm.XTEDSItem

open Lib Document

/-! ### The definitions of variables (`VariableDef`) -/

/-- The texts of single items, as they are laid out: the definition of a variable (`VarInfo`), and
what a message has before and behind its references (`xTEDSInfo`). -/
structure Texts where
  VarInfo : VariableItem → CString
  opening : AnyItem → CString
  closing : AnyItem → CString

/-- `MSG_DEF_SIZE`. -/
def MSG_DEF_SIZE : Nat := 12130

/-- `GetVariableName`, of which `SetVariableName` kept 32 characters. -/
def VariableItem.GetVariableName (v : VariableItem) : Option CString := v.name.map (·.take 32)

/-- `ListContains`, and no list contains nothing. -/
def ListContains (defs : List VariableItem) (v : VariableItem) : Bool :=
  defs.any (·.GetVariableName = v.GetVariableName)

/-- What stands in the buffer, and its length as it is counted. -/
structure DefBuffer where
  defs : List VariableItem
  uiCurSize : Nat

/-- One of the two loops of `ToStringConcatVariableDefs`. It also says whether it has returned,
because a definition does not fit. -/
def addDefs (texts : Texts) (uiBufferSize : Nat) (skips : VariableItem → Bool) :
    List VariableItem → DefBuffer → DefBuffer × Bool
  | [], buf => (buf, false)
  | pCur :: rest, buf =>
      if skips pCur then addDefs texts uiBufferSize skips rest buf
      else
        let uiCurLength := (texts.VarInfo pCur).length
        if buf.uiCurSize + uiCurLength < uiBufferSize then
          addDefs texts uiBufferSize skips rest ⟨buf.defs ++ [pCur], buf.uiCurSize + uiCurLength⟩
        else (buf, true)

/-- `ToStringConcatVariableDefs`: the definitions that are written into the empty buffer. -/
def ToStringConcatVariableDefs (texts : Texts) (uiBufferSize : Nat)
    (pDefs1 pDefs2 : List VariableItem) (bIgnoreDuplicates : Bool) : List VariableItem :=
  let (buf, returned) := addDefs texts uiBufferSize (fun _ => false) pDefs1 ⟨[], 0⟩
  if returned then buf.defs
  else
    (addDefs texts uiBufferSize (fun pCur => bIgnoreDuplicates && ListContains pDefs1 pCur)
      pDefs2 buf).1.defs

/-! ### The portion -/

/-- The variables that an item refers to. -/
def AnyItem.refs : AnyItem → List VariableItem
  | var _ => []
  | data m => m.vars
  | command m => m.vars
  | fault m => m.vars

/-- What a portion has: definitions and messages. -/
structure Portion where
  definitions : List VariableItem
  messages : List AnyItem

/-- Texts in a row. -/
def concat (l : List CString) : CString := l.foldr CString.append .empty

/-- `VarRef`. -/
def VariableItem.VarRef (v : VariableItem) : CString :=
  concat [.ofString "<VariableRef name=\"", v.name.getD .empty, .ofString "\"/>"]

/-- `xTEDSInfo` of a message, with `VarRef` of its variables. -/
def AnyItem.xTEDSInfo (texts : Texts) (m : AnyItem) : CString :=
  concat [texts.opening m, concat (m.refs.map fun v => concat [.ofString "\n\t\t", v.VarRef]),
    texts.closing m]

/-- The format of a portion, for `<Command>`, `<Notification>` or `<Request>`. -/
def Portion.text (texts : Texts) (tag : String) (p : Portion) : CString :=
  concat [concat (p.definitions.map texts.VarInfo), .ofString "\n<", .ofString tag, .ofString ">",
    concat (p.messages.map fun m => concat [.ofString "\n\t", m.xTEDSInfo texts]),
    .ofString "\n</", .ofString tag, .ofString ">"]

namespace WrapperItem

def tag : WrapperItem → String
  | command _ _ => "Command"
  | notification _ _ => "Notification"
  | request _ _ _ => "Request"

/-- The messages of the portion. -/
def portionMessages : WrapperItem → List AnyItem
  | command c f => .command c :: f.toList.map .fault
  | notification d f => .data d :: f.toList.map .fault
  | request c d f => .command c :: .data d :: f.toList.map .fault

/-- What `RegInfo` puts into `VarPortionBuf` and behind it. The definitions of the fault message of
a request are fetched, and not written. -/
def xTEDSPortion (texts : Texts) (w : WrapperItem) : Portion where
  definitions :=
    match w with
    | command c none => ToStringConcatVariableDefs texts MSG_DEF_SIZE c.vars [] false
    | command c (some f) => ToStringConcatVariableDefs texts MSG_DEF_SIZE c.vars f.vars true
    | notification d none => ToStringConcatVariableDefs texts MSG_DEF_SIZE d.vars [] false
    | notification d (some f) => ToStringConcatVariableDefs texts MSG_DEF_SIZE d.vars f.vars true
    | request c d _ => ToStringConcatVariableDefs texts MSG_DEF_SIZE c.vars d.vars true
  messages := w.portionMessages

/-- `xTEDSPortionBuf`, as `snprintf` leaves it. -/
def xTEDSPortionBuf (texts : Texts) (w : WrapperItem) : CString :=
  ((w.xTEDSPortion texts).text texts w.tag).take (MSG_DEF_SIZE - 1)

/-- The variables of the two messages from which definitions are collected. -/
def collected : WrapperItem → List VariableItem × List VariableItem
  | command c f => (c.vars, f.elim [] (·.vars))
  | notification d f => (d.vars, f.elim [] (·.vars))
  | request c d _ => (c.vars, d.vars)

/-- The portion where nothing is cut. -/
def whole (w : WrapperItem) : Portion where
  definitions := w.collected.1 ++ w.collected.2.filter (!ListContains w.collected.1 ·)
  messages := w.portionMessages

/-- The buffers take all of it. -/
def Fits (texts : Texts) (w : WrapperItem) : Prop :=
  (w.whole.text texts w.tag).length < MSG_DEF_SIZE

instance (texts : Texts) (w : WrapperItem) : Decidable (w.Fits texts) :=
  inferInstanceAs (Decidable (_ < _))

end WrapperItem

/-! ### What is written -/

section Writing

variable {texts : Texts} {size : Nat} {skips : VariableItem → Bool} {l a b : List VariableItem}
  {buf : DefBuffer} {w : WrapperItem}

/-- The length of so many definitions. -/
def Texts.total (texts : Texts) (l : List VariableItem) : Nat :=
  (l.map fun v => (texts.VarInfo v).length).sum

theorem Texts.total_append : texts.total (a ++ b) = texts.total a + texts.total b := by
  rw [Texts.total, List.map_append, List.sum_append, Texts.total, Texts.total]

theorem length_concat (l : List CString) : (concat l).length = (l.map CString.length).sum := by
  induction l with
  | nil => rfl
  | cons s l ih =>
      rw [List.map_cons, List.sum_cons, ← ih]
      exact CString.length_append s (concat l)

/-- **A loop that fits** writes the definitions that it does not skip. -/
theorem addDefs_eq (fits : buf.uiCurSize + texts.total (l.filter (!skips ·)) < size) :
    addDefs texts size skips l buf =
      (⟨buf.defs ++ l.filter (!skips ·), buf.uiCurSize + texts.total (l.filter (!skips ·))⟩,
        false) := by
  induction l generalizing buf with
  | nil =>
      rw [List.filter_nil, List.append_nil]
      rfl
  | cons v rest ih =>
      rw [addDefs]
      cases skipped : skips v with
      | true =>
          rw [if_pos rfl, List.filter_cons_of_neg (by simp [skipped])] at *
          exact ih fits
      | false =>
          rw [List.filter_cons_of_pos (by simp [skipped])] at fits ⊢
          have split : texts.total (v :: rest.filter (!skips ·)) =
              (texts.VarInfo v).length + texts.total (rest.filter (!skips ·)) := rfl
          rw [split, ← Nat.add_assoc] at fits ⊢
          rw [if_neg (by simp), if_pos (Nat.lt_of_le_of_lt (Nat.le_add_right _ _) fits), ih fits]
          simp

theorem ToStringConcatVariableDefs_eq {ignore : Bool}
    (fits : texts.total (a ++ b.filter fun v => !(ignore && ListContains a v)) < size) :
    ToStringConcatVariableDefs texts size a b ignore =
      a ++ b.filter fun v => !(ignore && ListContains a v) := by
  have all : a.filter (fun _ => !false) = a := List.filter_eq_self.mpr fun _ _ => rfl
  rw [Texts.total_append] at fits
  have first : 0 + texts.total (a.filter fun _ => !false) < size := by
    rw [all]
    omega
  rw [ToStringConcatVariableDefs, addDefs_eq first, all]
  have second : 0 + texts.total a + texts.total (b.filter fun v => !(ignore && ListContains a v)) <
      size := by omega
  simp only [Bool.false_eq_true, if_false]
  rw [addDefs_eq second]
  rfl

theorem total_le_text (p : Portion) (tag : String) :
    texts.total p.definitions ≤ (p.text texts tag).length := by
  have definitions : (concat (p.definitions.map texts.VarInfo)).length =
      texts.total p.definitions := by
    rw [length_concat, List.map_map]
    rfl
  rw [Portion.text, length_concat, List.map_cons, List.sum_cons, definitions]
  exact Nat.le_add_right _ _

/-- **What `RegInfo` writes**, when it fits. -/
theorem WrapperItem.Fits.xTEDSPortion_eq (fits : w.Fits texts) :
    w.xTEDSPortion texts = w.whole := by
  have room : texts.total w.whole.definitions < MSG_DEF_SIZE :=
    Nat.lt_of_le_of_lt (total_le_text w.whole w.tag) fits
  have definitions : (w.xTEDSPortion texts).definitions = w.whole.definitions := by
    cases w with
    | command c f => cases f <;> exact ToStringConcatVariableDefs_eq room
    | notification d f => cases f <;> exact ToStringConcatVariableDefs_eq room
    | request c d f => exact ToStringConcatVariableDefs_eq room
  rw [show w.xTEDSPortion texts = ⟨(w.xTEDSPortion texts).definitions, w.portionMessages⟩ from rfl,
    definitions]
  rfl

theorem WrapperItem.Fits.xTEDSPortionBuf_eq (fits : w.Fits texts) :
    w.xTEDSPortionBuf texts = w.whole.text texts w.tag := by
  rw [WrapperItem.xTEDSPortionBuf, fits.xTEDSPortion_eq]
  exact CString.take_of_length_le (Nat.le_sub_one_of_lt fits)

end Writing

/-! ### What is defined -/

/-- Every variable that a message of the portion refers to is defined once, and no other one is. -/
def Portion.SelfContained (p : Portion) : Prop :=
  (∀ m ∈ p.messages, ∀ v ∈ m.refs, p.definitions.count v = 1) ∧
    ∀ v ∈ p.definitions, ∃ m ∈ p.messages, v ∈ m.refs

/-- The variables of the fault message of a request, from which no definitions are collected. -/
def WrapperItem.uncollected : WrapperItem → List VariableItem
  | request _ _ f => f.elim [] (·.vars)
  | _ => []

/-- The first message refers to no variable twice; nor does the second, but for variables of the
first, and the others have other 32 first characters than those of the first; and the fault message
of a request refers only to variables of the two. -/
structure WrapperItem.Separate (w : WrapperItem) : Prop where
  first : w.collected.1.Nodup
  second : ∀ v ∈ w.collected.2, v ∉ w.collected.1 → w.collected.2.count v = 1
  names : ∀ v ∈ w.collected.2, v ∉ w.collected.1 →
    ∀ u ∈ w.collected.1, u.GetVariableName ≠ v.GetVariableName
  fault : ∀ v ∈ w.uncollected, v ∈ w.collected.1 ∨ v ∈ w.collected.2

section Defining

variable {texts : Texts} {w : WrapperItem} {a b : List VariableItem} {v : VariableItem}

theorem ListContains_iff : ListContains a v ↔
    ∃ u ∈ a, u.GetVariableName = v.GetVariableName := by
  simp [ListContains]

theorem ListContains_of_mem (mem : v ∈ a) : ListContains a v := ListContains_iff.mpr ⟨v, mem, rfl⟩

/-- How often a variable is defined, when it is one of the first message. -/
theorem count_of_mem (mem : v ∈ a) :
    (a ++ b.filter (!ListContains a ·)).count v = a.count v := by
  have skipped : v ∉ b.filter (!ListContains a ·) := fun kept => by
    simpa [ListContains_of_mem mem] using (List.mem_filter.mp kept).2
  rw [List.count_append, List.count_eq_zero_of_not_mem skipped, Nat.add_zero]

/-- And when it is not. -/
theorem count_of_notMem (other : v ∉ a) : (a ++ b.filter (!ListContains a ·)).count v =
    if ListContains a v then 0 else b.count v := by
  rw [List.count_append, List.count_eq_zero_of_not_mem other, Nat.zero_add]
  split
  · rename_i contained
    apply List.count_eq_zero_of_not_mem
    exact fun kept => by simpa [contained] using (List.mem_filter.mp kept).2
  · rename_i fresh
    exact List.count_filter (by simpa using fresh)

/-- The variables of the messages are those of the collected ones and of the fault message. -/
theorem mem_refs_iff : (∃ m ∈ w.portionMessages, v ∈ m.refs) ↔
    v ∈ w.collected.1 ∨ v ∈ w.collected.2 ∨ v ∈ w.uncollected := by
  cases w with
  | command c f => cases f <;> simp [WrapperItem.portionMessages, WrapperItem.collected,
      WrapperItem.uncollected, AnyItem.refs]
  | notification d f => cases f <;> simp [WrapperItem.portionMessages, WrapperItem.collected,
      WrapperItem.uncollected, AnyItem.refs]
  | request c d f => cases f <;> simp [WrapperItem.portionMessages, WrapperItem.collected,
      WrapperItem.uncollected, AnyItem.refs]

/-- What is defined is referred to. -/
theorem mem_refs_of_defined (defined : v ∈ w.whole.definitions) :
    ∃ m ∈ w.whole.messages, v ∈ m.refs := by
  apply mem_refs_iff.mpr
  rcases List.mem_append.mp defined with first | second
  · exact .inl first
  · exact .inr (.inl (List.mem_filter.mp second).1)

theorem whole_selfContained_iff : w.whole.SelfContained ↔ w.Separate := by
  have whole : ∀ v, w.whole.definitions.count v =
      (w.collected.1 ++ w.collected.2.filter (!ListContains w.collected.1 ·)).count v :=
    fun _ => rfl
  constructor
  · rintro ⟨once, -⟩
    have once : ∀ v, v ∈ w.collected.1 ∨ v ∈ w.collected.2 ∨ v ∈ w.uncollected →
        w.whole.definitions.count v = 1 := fun v here => by
      obtain ⟨m, mem, refers⟩ := mem_refs_iff.mpr here
      exact once m mem v refers
    have fresh : ∀ v ∈ w.collected.2, v ∉ w.collected.1 →
        ¬ ListContains w.collected.1 v ∧ w.collected.2.count v = 1 := by
      intro v mem other
      have one := once v (.inr (.inl mem))
      rw [whole, count_of_notMem other] at one
      split at one
      · exact absurd one nofun
      · rename_i fresh
        exact ⟨fresh, one⟩
    constructor
    · apply List.nodup_iff_count_le_one.mpr
      intro v
      by_cases mem : v ∈ w.collected.1
      · exact Nat.le_of_eq ((count_of_mem mem).symm.trans (once v (.inl mem)))
      · exact List.count_eq_zero_of_not_mem mem ▸ Nat.zero_le 1
    · exact fun v mem other => (fresh v mem other).2
    · intro v mem other u first same
      exact (fresh v mem other).1 (ListContains_iff.mpr ⟨u, first, same⟩)
    · intro v mem
      have one := once v (.inr (.inr mem))
      have defined : v ∈ w.whole.definitions := List.count_pos_iff.mp (one ▸ Nat.one_pos)
      exact (List.mem_append.mp defined).imp_right fun kept => (List.mem_filter.mp kept).1
  · intro separate
    refine ⟨fun m mem v refers => ?_, fun v defined => mem_refs_of_defined defined⟩
    have here : v ∈ w.collected.1 ∨ v ∈ w.collected.2 := by
      rcases mem_refs_iff.mp ⟨m, mem, refers⟩ with first | second | fault
      · exact .inl first
      · exact .inr second
      · exact separate.fault v fault
    rw [whole]
    by_cases first : v ∈ w.collected.1
    · rw [count_of_mem first]
      exact List.count_eq_one_of_mem separate.first first
    · have second := here.resolve_left first
      have fresh : ¬ ListContains w.collected.1 v := fun contained => by
        obtain ⟨u, mem, same⟩ := ListContains_iff.mp contained
        exact separate.names v second first u mem same
      rw [count_of_notMem first, if_neg fresh]
      exact separate.second v second first

/-- **A portion is self-contained** exactly when the variables of its messages are `Separate`: for
every command, notification and request whose portion fits. -/
theorem selfContained_iff (texts : Texts) (w : WrapperItem) (fits : w.Fits texts) :
    (w.xTEDSPortion texts).SelfContained ↔ w.Separate := by
  rw [fits.xTEDSPortion_eq]
  exact whole_selfContained_iff

end Defining

/-- The texts of a variable like `demoVariable` and of `demoMessage`. -/
def demoTexts : Texts where
  VarInfo v := concat [.ofString "<Variable name=\"", v.name.getD .empty,
    .ofString "\" kind=\"y\" format=\"INT08\"/>"]
  opening _ := .ofString "<DataMsg name=\"m\" id=\"258\" msgArrival=\"EVENT\">"
  closing _ := .ofString "\n\t</DataMsg>"

/-- A notification that refers to `x` and `y`, and whose fault message refers to `y` and `z`. -/
def demoShared : WrapperItem :=
  .notification
    { demoMessage with
      vars := [demoVariable, { demoVariable with name := some (.ofString "y") }] }
    (some { demoMessage.toMessageItem with
      vars := [{ demoVariable with name := some (.ofString "y") },
        { demoVariable with name := some (.ofString "z") }] })

/-- The portion defines each of the three variables once. -/
theorem selfContained_demoShared : (demoShared.xTEDSPortion demoTexts).SelfContained :=
  (selfContained_iff demoTexts demoShared (by decide +kernel)).mpr
    ⟨by decide +kernel, by decide +kernel, by decide +kernel, by decide +kernel⟩

/-- A document whose only interface has a variable `x`, and a notification with a message that
refers to it twice. -/
def demoTwice : DocumentSyntax where
  encoding := none
  attributes := [(.name, .ofString "demo")]
  appDevice := .closed [(.name, .ofString "demo"), (.kind, .ofString "software")]
  interfaces :=
    [{ attributes := [(.name, .ofString "Demo"), (.id, .ofString "1")]
       elements := some
        { «variables» :=
            [{ attributes := [(.name, .ofString "x"), (.kind, .ofString "y"),
                (.format, .ofString "INT08")]
               elements := none }]
          messages := [.notification
            [{ attributes := [(.name, .ofString "m"), (.id, .ofString "2")]
               elements := ⟨[], [.ofString "x", .ofString "x"]⟩ }] none] } }]

/-- Its message. -/
def demoTwiceMessage : DataItem := { demoMessage with vars := [demoVariable, demoVariable] }

/-- What `Parse` makes of it. -/
def demoTwiceTree : XTEDS where
  treeRoot := { vars := [demoVariable], notifications := [.notification demoTwiceMessage none] }
  deviceName := some (.ofString "demo")
  componentKey := none
  spaUHub := none
  spaUPort := none

/-- The variable is defined twice. -/
theorem not_selfContained : ¬ ∀ (d : DocumentSyntax) (x : XTEDS), Parse d = .ok x →
    ∀ w ∈ x.treeRoot.allWrappers, ∀ texts, w.Fits texts →
      (w.xTEDSPortion texts).SelfContained := by
  intro all
  obtain ⟨once, -⟩ := all demoTwice demoTwiceTree rfl (.notification demoTwiceMessage none)
    List.mem_cons_self demoTexts (by decide +kernel)
  have twice := once (.data demoTwiceMessage) List.mem_cons_self demoVariable List.mem_cons_self
  exact absurd twice (by decide +kernel)

end Sdm.XTEDSItem
