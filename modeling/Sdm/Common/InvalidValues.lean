import Sdm.Common.MessageManipulator

/-!
Invalid values (`getValue` and `isMsgValid` of `MessageManipulator.cpp`).

A variable may be declared with a value that stands for no value. `getValue` compares what it
reads with it, of an `_INT16` the low bytes only, and `isMsgValid` asks it about every variable of
a message.

* `getValue_valid_iff`: what one comparison says.
* `isMsgValid_iff`: a message is valid when every comparison says so.
-/

namespace Sdm

open Lib Memory MessageDefinition

namespace InvalidValues

section Detection

variable [FloatingPoint]

/-- `isMsgValid` of a tree; there is no message without one. -/
def isMsgValid (scaled : Bool) (MsgBuffer : Memory) : VarTree → Bool
  | .nil => false
  | .node Variable left right =>
      let LeftValid := if left.isNil then true else isMsgValid scaled MsgBuffer left
      let ThisValid := (getValue scaled MsgBuffer (some Variable) true).2
      let RightValid := if right.isNil then true else isMsgValid scaled MsgBuffer right
      ThisValid && LeftValid && RightValid

/-- Two values are equal: integers in all their bits, floating-point numbers by the comparison of
the target. -/
def SameNumber : Value → Value → Prop
  | .FLOAT32 a, .FLOAT32 b => FloatingPoint.equal (.FLOAT32 a) (.FLOAT32 b) = true
  | .FLOAT64 a, .FLOAT64 b => FloatingPoint.equal (.FLOAT64 a) (.FLOAT64 b) = true
  | a, b => a = b

/-- The variable has an invalid value, and that is what stands in the buffer. -/
def HoldsInvalid (Buffer : Memory) (v : Var) : Prop :=
  v.invalid_data.type ≠ .EMPTY ∧ SameNumber (.get Buffer v.start v.type) v.invalid_data

/-- The value in the buffer has only its low byte from the invalid value. -/
def Misread (Buffer : Memory) (v : Var) : Prop :=
  ∃ a b : Int16, Value.get Buffer v.start v.type = .INT16 a ∧ v.invalid_data = .INT16 b ∧
    a ≠ b ∧ a.toUInt16.toUInt8 = b.toUInt16.toUInt8

variable {scaled IsValid : Bool} {Buffer : Memory} {v : Var} {tree : VarTree}

/-- The values that `getValue` takes for the same are so, or have the same low byte. -/
theorem sameValue_iff (a : Value) {b : Value} (set : b.type ≠ .EMPTY) : sameValue a b = true ↔
    SameNumber a b ∨ ∃ x y : Int16, a = .INT16 x ∧ b = .INT16 y ∧ x ≠ y ∧
      x.toUInt16.toUInt8 = y.toUInt16.toUInt8 := by
  cases b with
  | EMPTY => exact absurd rfl set
  | INT16 y =>
      cases a with
      | INT16 x =>
          simp only [sameValue, SameNumber, decide_eq_true_eq, Value.INT16.injEq]
          constructor
          · intro low
            by_cases same : x = y
            · exact .inl same
            · exact .inr ⟨x, y, rfl, rfl, same, low⟩
          · rintro (rfl | ⟨_, _, rfl, rfl, -, low⟩)
            · rfl
            · exact low
      | _ => simp [sameValue, SameNumber]
  | UINT08 y | INT08 y | UINT16 y | UINT32 y | INT32 y | FLOAT32 y | FLOAT64 y =>
      cases a <;> simp [sameValue, SameNumber]

/-- **One variable**: it is not valid when it holds its invalid value, or is misread. -/
theorem getValue_valid_iff : (getValue scaled Buffer (some v) IsValid).2 = false ↔
    HoldsInvalid Buffer v ∨ Misread Buffer v := by
  by_cases set : v.invalid_data.type = .EMPTY
  · refine iff_of_false (by simp [getValue, set]) ?_
    rintro (⟨other, -⟩ | ⟨a, b, -, declared, -⟩)
    · exact other set
    · rw [declared] at set
      cases set
  · have compared := sameValue_iff (.get Buffer v.start v.type) set
    simp only [getValue, HoldsInvalid, ne_eq, set, not_false_iff, true_and, decide_true,
      Bool.true_and, Bool.not_eq_false']
    rw [compared]
    rfl

/-- **A message** is valid when each of its variables is. -/
theorem isMsgValid_iff : isMsgValid scaled Buffer tree = true ↔
    tree.isNil = false ∧
      ∀ v ∈ tree.entries, (getValue scaled Buffer (some v) true).2 = true := by
  induction tree with
  | nil => exact iff_of_false nofun fun both => nomatch both.1
  | node entry left right ihLeft ihRight =>
      have part {t : VarTree} (ih : isMsgValid scaled Buffer t = true ↔ t.isNil = false ∧
          ∀ v ∈ t.entries, (getValue scaled Buffer (some v) true).2 = true) :
          (if t.isNil then true else isMsgValid scaled Buffer t) = true ↔
            ∀ v ∈ t.entries, (getValue scaled Buffer (some v) true).2 = true := by
        cases t with
        | nil => simp [SearchTree.isNil, SearchTree.entries]
        | node => simpa [SearchTree.isNil] using ih
      have set : (SearchTree.node entry left right).isNil = false := rfl
      simp only [isMsgValid, Bool.and_eq_true, part ihLeft, part ihRight, set, true_and,
        SearchTree.entries, List.forall_mem_append, List.forall_mem_cons]
      exact ⟨fun ⟨⟨this, left⟩, right⟩ => ⟨left, this, right⟩,
        fun ⟨left, this, right⟩ => ⟨⟨this, left⟩, right⟩⟩

/-- **Invalid values are detected** in every variable of the tree and in the tree. -/
def Detects (scaled : Bool) (Buffer : Memory) (tree : VarTree) : Prop :=
  (∀ v ∈ tree.entries, v.invalid_data.type ≠ .EMPTY → ∀ IsValid,
    ((getValue scaled Buffer (some v) IsValid).2 = false ↔ HoldsInvalid Buffer v)) ∧
  (isMsgValid scaled Buffer tree = true ↔ ∀ v ∈ tree.entries, ¬HoldsInvalid Buffer v)

/-- **When invalid values are detected.** No value of a variable has only its low byte from the
invalid value of the variable. -/
theorem detects_iff (scaled : Bool) (Buffer : Memory) (root : Var) (left right : VarTree) :
    Detects scaled Buffer (.node root left right) ↔
      ∀ v ∈ (SearchTree.node root left right).entries, ¬Misread Buffer v := by
  constructor
  · rintro ⟨values, -⟩ v mem misread
    have set : v.invalid_data.type ≠ .EMPTY := by
      obtain ⟨a, b, -, declared, -⟩ := misread
      rw [declared]
      nofun
    have holds := (values v mem set true).mp (getValue_valid_iff.mpr (.inr misread))
    obtain ⟨a, b, here, declared, ne, -⟩ := misread
    have same := holds.2
    rw [here, declared] at same
    exact ne (Value.INT16.inj same)
  · intro read
    have value {v : Var} (IsValid : Bool) (mem : v ∈ (SearchTree.node root left right).entries) :
        (getValue scaled Buffer (some v) IsValid).2 = false ↔ HoldsInvalid Buffer v := by
      rw [getValue_valid_iff, or_iff_left (read v mem)]
    refine ⟨fun v mem _ IsValid => value IsValid mem, ?_⟩
    rw [isMsgValid_iff]
    constructor
    · rintro ⟨-, valid⟩ v mem holds
      have reported := (value true mem).mpr holds
      rw [valid v mem] at reported
      cases reported
    · intro none
      refine ⟨rfl, fun v mem => ?_⟩
      rw [← Bool.not_eq_false, value true mem]
      exact none v mem

end Detection

/-- A variable with the invalid value 5, in a message that holds 261. -/
theorem not_detects : ¬ ∀ (scaled : Bool) (Buffer : Memory) (root : Var) (left right : VarTree),
    @Detects noFloats scaled Buffer (.node root left right) := by
  intro all
  let v : Var := @Var.newVarInvalidIsInt noFloats (.ofString "Rate") 0 1 (.ofString "INT16")
    (.ofString "1.0") 5
  obtain ⟨values, -⟩ := all false (fun j => if j = 0 then 5 else 1) v .nil .nil
  have reported : (@getValue noFloats false (fun j => if j = 0 then 5 else 1) (some v) true).2 =
      false := by decide
  obtain ⟨-, same⟩ := (values v (List.mem_singleton_self v) (by decide) true).mp reported
  have equal : Value.get (fun j => if j = 0 then 5 else 1) v.start v.type = v.invalid_data := same
  revert equal
  decide

end InvalidValues

end Sdm
