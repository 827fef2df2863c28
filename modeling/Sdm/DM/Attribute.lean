import Mathlib.Data.List.Count
import Mathlib.Data.Nat.Find
import Sdm.Lib.Memory

/-!
The attributes of an element (`GetAttribute` in `Parse.cpp`).

`GetAttribute` passes over the text once. It counts the quotation marks, notes where the
name of the attribute stands outside quotes, and copies what stands between the next two
marks. The pointers it checks are set at every call, and no index of it wraps.

* `attributeLoop` is the pass, and gives the place of the value.
* `Attribute` says what it is for the element at the front of a text to have the attribute.
* `attributeLoop_attribute`, `attribute_of_attributeLoop`: what the pass makes of an
  attribute, and that it finds nothing else.
-/

namespace Sdm.Parse

open Lib

/-- The quotation mark. -/
def QUOTE : UInt8 := 34

/-- The end of an element. -/
def CLOSE : UInt8 := 62

/-- A name of an attribute: it can stand outside quotes. -/
structure AttributeName extends CString where
  unquoted : QUOTE ∉ bytes
  deriving DecidableEq

/-- What `GetAttribute` has found of the attribute (`flag`). -/
inductive Flag where
  | nothing
  | name
  | value
  deriving DecidableEq, Repr

/-- The loop of `GetAttribute` from `&strSource[i]` on: `attrstart` and `attrend` when the
value is closed. -/
def attributeLoop (strAttribute : CString) :
    List UInt8 → Nat → Nat → Flag → Nat → Option (Nat × Nat)
  | [], _, _, _, _ => none
  | c :: rest, i, attrstart, flag, numQuotes =>
      let numQuotes := if c = QUOTE then numQuotes + 1 else numQuotes
      let next := fun attrstart flag =>
        if c = CLOSE then none
        else attributeLoop strAttribute rest (i + 1) attrstart flag numQuotes
      if strncmpBytes (c :: rest) strAttribute.bytes strAttribute.length = 0 ∧
          numQuotes % 2 = 0 then
        next (i + strAttribute.length) .name
      else if c = QUOTE ∧ flag = .name then next (i + 1) .value
      else if c = QUOTE ∧ attrstart < i ∧ flag = .value then some (attrstart, i)
      else next attrstart flag

/-- `GetAttribute`: what it returns, and what it leaves at the pointer. -/
def GetAttribute (strSource strAttribute : CString) (strReturnValue : Memory)
    (uiAttributeSize : Nat) : Int × Memory :=
  if uiAttributeSize = 0 then (-1, strReturnValue)
  else
    match attributeLoop strAttribute strSource.bytes 0 0 .nothing 0 with
    | none => (-1, strReturnValue)
    | some (attrstart, attrend) =>
        if attrend < attrstart then (-1, strReturnValue)
        else if uiAttributeSize < attrend - attrstart then (-1, strReturnValue)
        else
          let copied :=
            strReturnValue.store 0 ((strSource.drop attrstart).strncpy (attrend - attrstart))
          (0, copied.store (attrend - attrstart) [0])

/-- The element at the front of the text has the attribute: outside quotes, and before the
first such `>`, stand the name and a quoted value. The name is the first one. -/
structure Attribute (text name : CString) where
  front : List UInt8
  between : List UInt8
  value : CString
  rest : List UInt8
  split : text.bytes = front ++ (name.bytes ++ between ++ QUOTE :: (value.bytes ++ QUOTE :: rest))
  outside : front.count QUOTE % 2 = 0
  first : ∀ p < front.length, name.bytes <+: text.bytes.drop p →
    (text.bytes.take p).count QUOTE % 2 = 1
  next_quote : QUOTE ∉ between
  last_quote : QUOTE ∉ value.bytes
  within : ∀ l r, front ++ (name.bytes ++ between) = l ++ CLOSE :: r → l.count QUOTE % 2 = 1

/-! ### The pass, stretch by stretch -/

section Pass

variable {name : CString} {b rest : List UInt8} {i x y nq : Nat}

/-- A pass over several bytes stops at the first `>`. -/
theorem stops_cons {α : Type} {c : UInt8} {r : Option α} :
    (if CLOSE ∈ c :: b then none else r) = if c = CLOSE then none else if CLOSE ∈ b then none
      else r := by
  by_cases close : c = CLOSE
  · simp [close]
  · simp [close, Ne.symm close]

/-- A name does not stand at a mark. -/
theorem not_prefix_quote (proper : QUOTE ∉ name.bytes) (set : name.bytes ≠ []) :
    ¬name.bytes <+: QUOTE :: rest := by
  intro here
  obtain ⟨d, more, bytes⟩ := List.exists_cons_of_ne_nil set
  rw [bytes] at here proper
  exact List.ne_of_not_mem_cons proper (List.cons_prefix_cons.mp here).1.symm

/-- A step over a byte at which nothing begins and nothing ends. -/
theorem attributeLoop_skip {c : UInt8} {flag : Flag} (plain : c ≠ QUOTE)
    (apart : name.bytes <+: c :: rest → nq % 2 = 1) :
    attributeLoop name (c :: rest) i x flag nq =
      if c = CLOSE then none else attributeLoop name rest (i + 1) x flag nq := by
  have no_match : ¬(name.bytes <+: c :: rest ∧ nq % 2 = 0) := fun both => by
    have odd := apart both.1
    omega
  simp only [attributeLoop, CString.length, strncmpBytes_length_eq_zero_iff name.nul_notMem,
    plain, false_and, if_neg no_match, if_false]

/-- A step over a byte of the name's first letter. -/
theorem attributeLoop_name {c : UInt8} {flag : Flag} (plain : c ≠ QUOTE)
    (here : name.bytes <+: c :: rest) (even : nq % 2 = 0) :
    attributeLoop name (c :: rest) i x flag nq =
      if c = CLOSE then none
      else attributeLoop name rest (i + 1) (i + name.length) .name nq := by
  simp only [attributeLoop, CString.length, strncmpBytes_length_eq_zero_iff name.nul_notMem,
    if_neg plain, here, even, and_self, if_true]

/-- Once the name is found, the place that was noted for it does not matter. -/
theorem attributeLoop_attrstart :
    attributeLoop name b i x .name nq = attributeLoop name b i y .name nq := by
  induction b generalizing i x y nq with
  | nil => rfl
  | cons c rest ih =>
      simp only [attributeLoop, reduceCtorEq, and_false, if_false, and_true]
      rw [ih (x := x) (y := y)]

/-- Behind the name the pass goes on to the next mark. -/
theorem attributeLoop_between (marks : QUOTE ∉ b) (even : nq % 2 = 0) :
    attributeLoop name (b ++ rest) i x .name nq =
      if CLOSE ∈ b then none else attributeLoop name rest (i + b.length) x .name nq := by
  induction b generalizing i x with
  | nil => simp
  | cons c b ih =>
      obtain ⟨plain, marks⟩ := List.ne_and_not_mem_of_not_mem_cons marks
      have step : attributeLoop name (c :: (b ++ rest)) i x .name nq =
          if c = CLOSE then none else attributeLoop name (b ++ rest) (i + 1) x .name nq := by
        by_cases here : name.bytes <+: c :: (b ++ rest)
        · rw [attributeLoop_name (Ne.symm plain) here even, attributeLoop_attrstart]
        · exact attributeLoop_skip (Ne.symm plain) fun found => absurd found here
      rw [List.cons_append, step, ih marks, stops_cons, List.length_cons, Nat.add_assoc,
        Nat.add_comm 1]

/-- Before the name, the pass goes on to its first place outside quotes. -/
theorem attributeLoop_front (proper : QUOTE ∉ name.bytes) (set : name.bytes ≠ [])
    (apart : ∀ p < b.length, name.bytes <+: (b ++ rest).drop p →
      (nq + (b.take p).count QUOTE) % 2 = 1) :
    attributeLoop name (b ++ rest) i x .nothing nq =
      if CLOSE ∈ b then none
      else attributeLoop name rest (i + b.length) x .nothing (nq + b.count QUOTE) := by
  induction b generalizing i nq with
  | nil => simp
  | cons c b ih =>
      have first := apart 0 (Nat.succ_pos _)
      rw [List.drop_zero, List.take_zero, List.count_nil, Nat.add_zero, List.cons_append] at first
      have later : ∀ p < b.length, name.bytes <+: (b ++ rest).drop p →
          (nq + [c].count QUOTE + (b.take p).count QUOTE) % 2 = 1 := by
        intro p lt here
        have odd := apart (p + 1) (Nat.succ_lt_succ lt) here
        rwa [List.take_succ_cons, ← List.singleton_append, List.count_append,
          ← Nat.add_assoc] at odd
      have step : attributeLoop name (c :: (b ++ rest)) i x .nothing nq =
          if c = CLOSE then none
          else attributeLoop name (b ++ rest) (i + 1) x .nothing (nq + [c].count QUOTE) := by
        by_cases mark : c = QUOTE
        · subst mark
          simp [attributeLoop, CString.length, strncmpBytes_length_eq_zero_iff name.nul_notMem,
            not_prefix_quote proper set]
        · have none_here : [c].count QUOTE = 0 :=
            List.count_eq_zero_of_not_mem fun mem => mark (List.mem_singleton.mp mem).symm
          rw [attributeLoop_skip mark first, none_here]
          rfl
      have marks : (c :: b).count QUOTE = [c].count QUOTE + b.count QUOTE := by
        rw [← List.count_append, List.singleton_append]
      rw [List.cons_append, step, ih later, stops_cons, List.length_cons, marks, Nat.add_assoc i,
        Nat.add_comm 1, Nat.add_assoc nq]

/-- Without a place outside quotes there is nothing to find. -/
theorem attributeLoop_absent (proper : QUOTE ∉ name.bytes) (set : name.bytes ≠ [])
    (apart : ∀ p < b.length, name.bytes <+: b.drop p → (nq + (b.take p).count QUOTE) % 2 = 1) :
    attributeLoop name b i x .nothing nq = none := by
  rw [← List.append_nil b, attributeLoop_front proper set (by rwa [List.append_nil])]
  split <;> rfl

/-- The name is found where it stands, whatever was found before. -/
theorem attributeLoop_found (proper : QUOTE ∉ name.bytes)
    (set : name.bytes ≠ []) (here : name.bytes <+: rest) (even : nq % 2 = 0) :
    attributeLoop name rest i x .nothing nq = attributeLoop name rest i x .name nq := by
  obtain ⟨c, more, bytes⟩ := List.exists_cons_of_ne_nil set
  obtain ⟨behind, rfl⟩ := here
  rw [bytes] at proper
  have plain := Ne.symm (List.ne_of_not_mem_cons proper)
  have here : name.bytes <+: c :: (more ++ behind) := by
    rw [bytes]
    exact List.prefix_append _ _
  rw [bytes, List.cons_append, attributeLoop_name plain here even,
    attributeLoop_name plain here even]

/-- The mark behind the name opens the value. -/
theorem attributeLoop_open (even : nq % 2 = 0) :
    attributeLoop name (QUOTE :: rest) i x .name nq =
      attributeLoop name rest (i + 1) (i + 1) .value (nq + 1) := by
  have odd : ¬(nq + 1) % 2 = 0 := by omega
  have ne : QUOTE ≠ CLOSE := by decide
  simp only [attributeLoop, if_pos, odd, and_false, if_false, and_self, if_neg ne]

/-- In the value nothing is looked for but its end. -/
theorem attributeLoop_value (marks : QUOTE ∉ b) (odd : nq % 2 = 1) :
    attributeLoop name (b ++ rest) i x .value nq =
      if CLOSE ∈ b then none else attributeLoop name rest (i + b.length) x .value nq := by
  induction b generalizing i with
  | nil => simp
  | cons c b ih =>
      obtain ⟨plain, marks⟩ := List.ne_and_not_mem_of_not_mem_cons marks
      rw [List.cons_append, attributeLoop_skip (Ne.symm plain) fun _ => odd, ih marks, stops_cons,
        List.length_cons, Nat.add_assoc, Nat.add_comm 1]

/-- The next mark closes a value that is not empty. -/
theorem attributeLoop_closed (proper : QUOTE ∉ name.bytes) (set : name.bytes ≠ [])
    (longer : x < i) :
    attributeLoop name (QUOTE :: rest) i x .value nq = some (x, i) := by
  simp [attributeLoop, CString.length, strncmpBytes_length_eq_zero_iff name.nul_notMem,
    not_prefix_quote proper set, longer]

/-- What is found is not empty, and stands in the text. -/
theorem attributeLoop_lt {flag : Flag} {r : Nat × Nat}
    (found : attributeLoop name b i x flag nq = some r) : r.1 < r.2 ∧ r.2 < i + b.length := by
  induction b generalizing i x flag nq with
  | nil => cases found
  | cons c rest ih =>
      rw [List.length_cons, Nat.add_comm rest.length, ← Nat.add_assoc]
      simp only [attributeLoop] at found
      generalize (if c = QUOTE then nq + 1 else nq) = marks at found
      split at found
      · split at found
        · cases found
        · exact ih found
      · split at found
        · split at found
          · cases found
          · exact ih found
        · split at found
          · rename_i closes
            cases found
            exact ⟨closes.2.1, by omega⟩
          · split at found
            · cases found
            · exact ih found

/-- An empty name is found again at the mark that would close the value. -/
theorem attributeLoop_unnamed {flag : Flag} (unset : name.bytes = [])
    (open_odd : flag = .value → nq % 2 = 1) :
    attributeLoop name b i x flag nq = none := by
  induction b generalizing i x flag nq with
  | nil => rfl
  | cons c rest ih =>
      have found : strncmpBytes (c :: rest) name.bytes name.length = 0 := by
        rw [CString.length, unset]
        rfl
      simp only [attributeLoop, found, true_and]
      by_cases even : (if c = QUOTE then nq + 1 else nq) % 2 = 0
      · have named : Flag.name = .value → (if c = QUOTE then nq + 1 else nq) % 2 = 1 :=
          by rintro ⟨⟩
        rw [if_pos even, ih named, ite_self]
      · have odd := Nat.mod_two_ne_zero.mp even
        have not_closed : ¬(c = QUOTE ∧ x < i ∧ flag = .value) := by
          rintro ⟨mark, _, value⟩
          rw [if_pos mark] at odd
          have before := open_odd value
          omega
        rw [if_neg even, if_neg not_closed, ih fun _ => odd, ih fun _ => odd, ite_self, ite_self]

end Pass

namespace Attribute

variable {text name : CString}

/-- No `>` at all stands outside quotes. -/
theorem outside_of_clear {bytes : List UInt8} (clear : CLOSE ∉ bytes) :
    ∀ l r, bytes = l ++ CLOSE :: r → l.count QUOTE % 2 = 1 := by
  rintro l r rfl
  exact absurd (List.mem_append_right l List.mem_cons_self) clear

/-- What stands before the value's closing mark. -/
def passed (a : Attribute text name) : List UInt8 :=
  a.front ++ (name.bytes ++ a.between ++ QUOTE :: a.value.bytes)

/-- Where the value begins. -/
def start (a : Attribute text name) : Nat :=
  a.front.length + (name.bytes ++ a.between).length + 1

/-- The value stands where it begins. -/
theorem drop_start (a : Attribute text name) :
    text.bytes.drop a.start = a.value.bytes ++ QUOTE :: a.rest := by
  have before : text.bytes = a.front ++ (name.bytes ++ a.between ++ [QUOTE]) ++
      (a.value.bytes ++ QUOTE :: a.rest) := by
    rw [a.split]
    simp
  have length : (a.front ++ (name.bytes ++ a.between ++ [QUOTE])).length = a.start := by
    simp only [start, List.length_append, List.length_singleton, Nat.add_assoc]
  rw [before, ← length, List.drop_left]

/-- **The pass over an attribute** ends at a `>`, or comes to the closing mark. -/
theorem attributeLoop_attribute (proper : QUOTE ∉ name.bytes) (set : name.bytes ≠ [])
    (a : Attribute text name) :
    attributeLoop name text.bytes 0 0 .nothing 0 =
      if CLOSE ∈ a.passed then none
      else attributeLoop name (QUOTE :: a.rest) (a.start + a.value.length) a.start .value
        (a.front.count QUOTE + 1) := by
  have marks : QUOTE ∉ name.bytes ++ a.between := by
    rw [List.mem_append]
    exact not_or.mpr ⟨proper, a.next_quote⟩
  have apart : ∀ p < a.front.length, name.bytes <+: (a.front ++ (name.bytes ++ a.between ++
      QUOTE :: (a.value.bytes ++ QUOTE :: a.rest))).drop p →
        (0 + (a.front.take p).count QUOTE) % 2 = 1 := by
    intro p lt here
    have odd := a.first p lt (a.split ▸ here)
    rw [a.split, List.take_append_of_le_length (Nat.le_of_lt lt)] at odd
    rwa [Nat.zero_add]
  have here : name.bytes <+: name.bytes ++ a.between ++
      QUOTE :: (a.value.bytes ++ QUOTE :: a.rest) := by
    rw [List.append_assoc]
    exact List.prefix_append _ _
  have odd : (a.front.count QUOTE + 1) % 2 = 1 := by
    have even := a.outside
    omega
  rw [a.split, attributeLoop_front proper set apart, Nat.zero_add, Nat.zero_add,
    attributeLoop_found proper set here a.outside, attributeLoop_between marks a.outside,
    attributeLoop_open a.outside, attributeLoop_value a.last_quote odd]
  have ne : CLOSE ≠ QUOTE := by decide
  by_cases front : CLOSE ∈ a.front
  · simp [passed, front]
  · by_cases middle : CLOSE ∈ name.bytes ++ a.between
    · rw [if_neg front, if_pos middle, if_pos]
      exact List.mem_append_right _ (List.mem_append_left _ middle)
    · have same : CLOSE ∈ a.passed ↔ CLOSE ∈ a.value.bytes := by
        simp only [passed, List.mem_append (s := a.front), front, false_or,
          List.mem_append (s := name.bytes ++ a.between), middle, List.mem_cons, ne]
      rw [if_neg front, if_neg middle]
      simp only [same]
      rfl

/-- A value that is reached and not empty is found. -/
theorem attributeLoop_reached (proper : QUOTE ∉ name.bytes) (set : name.bytes ≠ [])
    (a : Attribute text name) (clear : CLOSE ∉ a.passed) (full : a.value.bytes ≠ []) :
    attributeLoop name text.bytes 0 0 .nothing 0 =
      some (a.start, a.start + a.value.length) := by
  have longer : a.start < a.start + a.value.length :=
    Nat.lt_add_of_pos_right (List.length_pos_iff.mpr full)
  rw [attributeLoop_attribute proper set a, if_neg clear, attributeLoop_closed proper set longer]

end Attribute

/-- The first place of the name outside quotes, when there is one. -/
theorem exists_front (text name : List UInt8) :
    (∀ p ≤ text.length, name <+: text.drop p → (text.take p).count QUOTE % 2 = 1) ∨
      ∃ front behind, text = front ++ (name ++ behind) ∧ front.count QUOTE % 2 = 0 ∧
        ∀ p < front.length, name <+: text.drop p → (text.take p).count QUOTE % 2 = 1 := by
  by_cases found : ∃ p, p ≤ text.length ∧ name <+: text.drop p ∧
      (text.take p).count QUOTE % 2 = 0
  · obtain ⟨within, ⟨behind, here⟩, even⟩ := Nat.find_spec found
    refine .inr ⟨text.take (Nat.find found), behind, ?_, even, ?_⟩
    · rw [here, List.take_append_drop]
    · intro p lt at_p
      rw [List.length_take, Nat.min_eq_left within] at lt
      exact Nat.mod_two_ne_zero.mp fun even =>
        Nat.find_min found lt ⟨(Nat.le_of_lt lt).trans within, at_p, even⟩
  · refine .inl fun p within here => Nat.mod_two_ne_zero.mp fun even => ?_
    exact found ⟨p, within, here, even⟩

/-- **Nothing else is found**: what the pass finds is an attribute. -/
theorem attribute_of_attributeLoop {text name : CString} {r : Nat × Nat}
    (proper : QUOTE ∉ name.bytes)
    (found : attributeLoop name text.bytes 0 0 .nothing 0 = some r) :
    Nonempty (Attribute text name) := by
  have set : name.bytes ≠ [] := by
    intro unset
    have open_odd : Flag.nothing = .value → 0 % 2 = 1 := nofun
    rw [attributeLoop_unnamed unset open_odd] at found
    cases found
  rcases exists_front text.bytes name.bytes with absent | ⟨front, behind, split, even, first⟩
  · rw [attributeLoop_absent proper set] at found
    · cases found
    · intro p lt here
      rw [Nat.zero_add]
      exact absent p (Nat.le_of_lt lt) here
  have passes : attributeLoop name text.bytes 0 0 .nothing 0 =
      if CLOSE ∈ front then none
      else attributeLoop name (name.bytes ++ behind) front.length 0 .name (front.count QUOTE) := by
    rw [split, attributeLoop_front proper set, Nat.zero_add, Nat.zero_add,
      attributeLoop_found proper set (List.prefix_append _ _) even]
    intro p lt here
    have odd := first p lt (split ▸ here)
    rwa [split, List.take_append_of_le_length (Nat.le_of_lt lt), ← Nat.zero_add
      ((front.take p).count QUOTE)] at odd
  rw [passes] at found
  split at found
  · cases found
  rename_i front_clear
  by_cases next : QUOTE ∈ behind
  · obtain ⟨between, follows, rfl, next_quote⟩ := List.eq_append_cons_of_mem next
    have marks : QUOTE ∉ name.bytes ++ between := by
      rw [List.mem_append]
      exact not_or.mpr ⟨proper, next_quote⟩
    have odd : (front.count QUOTE + 1) % 2 = 1 := by omega
    rw [← List.append_assoc, attributeLoop_between marks even, attributeLoop_open even] at found
    split at found
    · cases found
    rename_i middle_clear
    by_cases last : QUOTE ∈ follows
    · obtain ⟨value, rest, rfl, last_quote⟩ := List.eq_append_cons_of_mem last
      have text_value : (0 : UInt8) ∉ value := by
        intro mem
        apply text.nul_notMem
        rw [split]
        simp [mem]
      refine ⟨⟨front, between, ⟨value, text_value⟩, rest, ?_, even, first, next_quote, last_quote,
        ?_⟩⟩
      · rw [split, List.append_assoc]
      · intro l r same
        have mem : CLOSE ∈ front ++ (name.bytes ++ between) := by
          rw [same]
          exact List.mem_append_right _ List.mem_cons_self
        exact absurd mem (not_or.mpr ⟨front_clear, middle_clear⟩ ∘ List.mem_append.mp)
    · rw [← List.append_nil follows, attributeLoop_value last odd] at found
      split at found <;> cases found
  · have marks : QUOTE ∉ name.bytes ++ behind := by
      rw [List.mem_append]
      exact not_or.mpr ⟨proper, next⟩
    rw [← List.append_nil (name.bytes ++ behind), attributeLoop_between marks even] at found
    split at found <;> cases found

/-! ### What is returned -/

/-- `GetAttribute` returns zero, and the value stands at the pointer. -/
def Yields (result : Int × Memory) (value : CString) : Prop :=
  result.1 = 0 ∧ result.2.Has 0 (value.bytes ++ [0])

/-- The attribute is taken from the text: only the array is written, and the value is
returned exactly when the element has the attribute and the array has room for it. -/
def Extracts (strSource strAttribute : CString) (uiAttributeSize : Nat) : Prop :=
  ∀ strReturnValue : Memory,
    (∀ j, uiAttributeSize ≤ j →
      (GetAttribute strSource strAttribute strReturnValue uiAttributeSize).2 j =
        strReturnValue j) ∧
    ∀ v, Yields (GetAttribute strSource strAttribute strReturnValue uiAttributeSize) v ↔
      ∃ a : Attribute strSource strAttribute, a.value = v ∧ v.length < uiAttributeSize

/-- The pass comes to the end of the value and takes it. -/
def Attribute.Read {text name : CString} (a : Attribute text name) : Prop :=
  name.bytes ≠ [] ∧ a.value.bytes ≠ [] ∧ CLOSE ∉ a.passed

/-- An attribute that is not read has an empty value, or the pass ends before it. -/
theorem Attribute.not_read {text name : CString} (proper : QUOTE ∉ name.bytes)
    (a : Attribute text name) (not_read : ¬a.Read) :
    a.value.bytes = [] ∨ attributeLoop name text.bytes 0 0 .nothing 0 = none := by
  by_cases set : name.bytes = []
  · have open_odd : Flag.nothing = .value → 0 % 2 = 1 := nofun
    exact .inr (attributeLoop_unnamed set open_odd)
  · by_cases full : a.value.bytes = []
    · exact .inl full
    · refine .inr ?_
      rw [a.attributeLoop_attribute proper set, if_pos]
      by_contra clear
      exact not_read ⟨set, full, clear⟩

section Result

variable {text name : CString} {buffer : Memory} {size : Nat}

theorem not_yields_failed {v : CString} : ¬Yields (-1, buffer) v := by
  rintro ⟨zero, -⟩
  cases zero

/-- A value stands at the pointer as the only one. -/
theorem yields_unique {result : Int × Memory} {v w : CString} (yields : Yields result v)
    (other : Yields result w) : v = w := by
  have first : result.2.text 0 (v.length + w.length + 1) = some v := yields.2.text (by omega)
  have second : result.2.text 0 (v.length + w.length + 1) = some w := other.2.text (by omega)
  exact Option.some.inj (first.symm.trans second)

theorem GetAttribute_read (proper : QUOTE ∉ name.bytes) (a : Attribute text name) (read : a.Read)
    (set : 0 < size) :
    GetAttribute text name buffer size =
      if size < a.value.length then (-1, buffer)
      else (0, buffer.store 0 (a.value.bytes ++ [0])) := by
  have copied : (text.drop a.start).strncpy a.value.length = a.value.bytes := by
    have within : a.value.length ≤ (text.drop a.start).length := by
      simp only [CString.length, CString.drop, a.drop_start, List.length_append]
      exact Nat.le_add_right _ _
    rw [CString.strncpy_of_le within]
    simp only [CString.drop, a.drop_start]
    exact List.take_left
  rw [GetAttribute, if_neg (Nat.ne_of_gt set),
    a.attributeLoop_reached proper read.1 read.2.2 read.2.1]
  simp only [Nat.add_sub_cancel_left, copied, Memory.store_append, Nat.zero_add]
  rw [if_neg (by omega)]
  rfl

/-- Without an attribute nothing is returned, and nothing written. -/
theorem GetAttribute_failed
    (missing : attributeLoop name text.bytes 0 0 .nothing 0 = none) :
    GetAttribute text name buffer size = (-1, buffer) := by
  rw [GetAttribute, missing]
  exact ite_self _

/-- **The result**: nothing is found and nothing written, or the same text is written over
whatever stood at the pointer. -/
theorem GetAttribute_eq (text name : CString) (size : Nat) :
    (∀ buffer, GetAttribute text name buffer size = (-1, buffer)) ∨
      ∃ w : CString, w.bytes ≠ [] ∧
        ∀ buffer, GetAttribute text name buffer size = (0, buffer.store 0 (w.bytes ++ [0])) := by
  by_cases unset : size = 0
  · exact .inl fun buffer => if_pos unset
  cases found : attributeLoop name text.bytes 0 0 .nothing 0 with
  | none => exact .inl fun buffer => GetAttribute_failed found
  | some r =>
      obtain ⟨attrstart, attrend⟩ := r
      have inside := attributeLoop_lt found
      simp only [Nat.zero_add] at inside
      by_cases long : size < attrend - attrstart
      · refine .inl fun buffer => ?_
        simp only [GetAttribute, found, if_neg unset, if_pos long, ite_self]
      · have length : (text.drop attrstart).length = text.bytes.length - attrstart :=
          CString.length_drop attrstart text
        have copied : (text.drop attrstart).strncpy (attrend - attrstart) =
            ((text.drop attrstart).take (attrend - attrstart)).bytes :=
          CString.strncpy_of_le (by omega)
        have count : ((text.drop attrstart).take (attrend - attrstart)).bytes.length =
            attrend - attrstart := by
          rw [← copied, CString.length_strncpy]
        refine .inr ⟨(text.drop attrstart).take (attrend - attrstart), ?_, fun buffer => ?_⟩
        · intro empty
          rw [empty, List.length_nil] at count
          omega
        · simp only [GetAttribute, found, if_neg unset, if_neg long, copied, Memory.store_append,
            Nat.zero_add, count, if_neg (Nat.not_lt.mpr (Nat.le_of_lt inside.1))]

/-- What is returned does not depend on what stood at the pointer. -/
theorem GetAttribute_fst (buffer other : Memory) :
    (GetAttribute text name buffer size).1 = (GetAttribute text name other size).1 := by
  rcases GetAttribute_eq text name size with failed | ⟨w, -, returns⟩
  · rw [failed, failed]
  · rw [returns, returns]

/-- Nothing is written when the attribute is not found. -/
theorem GetAttribute_kept (failed : (GetAttribute text name buffer size).1 ≠ 0) :
    (GetAttribute text name buffer size).2 = buffer := by
  rcases GetAttribute_eq text name size with kept | ⟨w, -, returns⟩
  · rw [kept]
  · rw [returns] at failed
    exact absurd rfl failed

/-- What is returned is not empty. -/
theorem not_yields_empty {v : CString} (empty : v.bytes = []) :
    ¬Yields (GetAttribute text name buffer size) v := by
  intro yields
  rcases GetAttribute_eq text name size with failed | ⟨w, full, returns⟩
  · rw [failed] at yields
    exact not_yields_failed yields
  · rw [returns] at yields
    have written : Yields (0, buffer.store 0 (w.bytes ++ [0])) w := ⟨rfl, Memory.has_store⟩
    rw [yields_unique yields written] at empty
    exact full empty

/-- An attribute that is read is returned when it fits. -/
theorem yields_read (buffer : Memory) (proper : QUOTE ∉ name.bytes) (a : Attribute text name)
    (read : a.Read) (fits : a.value.length ≤ size) (set : 0 < size) :
    GetAttribute text name buffer size = (0, buffer.store 0 (a.value.bytes ++ [0])) ∧
      Yields (GetAttribute text name buffer size) a.value := by
  rw [GetAttribute_read proper a read set, if_neg (Nat.not_lt.mpr fits)]
  exact ⟨rfl, rfl, Memory.has_store⟩

/-- What is returned when every value that fits is read. -/
theorem GetAttribute_cases (proper : QUOTE ∉ name.bytes) (set : 0 < size)
    (readable : ∀ a : Attribute text name, a.value.length ≤ size →
      (a.value.length < size ↔ a.Read)) :
    GetAttribute text name buffer size = (-1, buffer) ∨
      ∃ a : Attribute text name, a.value.length < size ∧
        GetAttribute text name buffer size = (0, buffer.store 0 (a.value.bytes ++ [0])) := by
  cases found : attributeLoop name text.bytes 0 0 .nothing 0 with
  | none => exact .inl (GetAttribute_failed found)
  | some r =>
      obtain ⟨a⟩ := attribute_of_attributeLoop proper found
      by_cases read : a.Read
      · by_cases fits : a.value.length ≤ size
        · exact .inr ⟨a, (readable a fits).mpr read, (yields_read buffer proper a read fits set).1⟩
        · refine .inl ?_
          rw [GetAttribute_read proper a read set, if_pos (Nat.not_le.mp fits)]
      · rcases a.not_read proper read with empty | missing
        · have short : a.value.length < size := by
            rw [CString.length, empty]
            exact set
          exact absurd ((readable a (Nat.le_of_lt short)).mp short) read
        · rw [missing] at found
          cases found

/-- **When an attribute is taken from the text.** A value that fits has to be one that the pass
reads, and a value that is one byte too long has to be one that it does not read. -/
theorem extracts_iff (text : CString) (name : AttributeName) (size : Nat) (set : 0 < size) :
    Extracts text name.toCString size ↔ ∀ a : Attribute text name.toCString,
      a.value.length ≤ size → (a.value.length < size ↔ a.Read) := by
  constructor
  · intro extracts a fits
    obtain ⟨inside, exact_value⟩ := extracts fun _ => 1
    constructor
    · intro short
      have yields := (exact_value a.value).mpr ⟨a, rfl, short⟩
      by_contra not_read
      rcases a.not_read name.unquoted not_read with empty | missing
      · exact not_yields_empty empty yields
      · rw [GetAttribute_failed missing] at yields
        exact not_yields_failed yields
    · intro read
      by_contra long
      obtain ⟨returns, -⟩ := yields_read (fun _ => 1) name.unquoted a read fits set
      have at_end := inside a.value.length (Nat.not_lt.mp long)
      rw [returns] at at_end
      have written : (Memory.store (fun _ => 1) 0 (a.value.bytes ++ [0])).Has 0
          (a.value.bytes ++ [0]) := Memory.has_store
      have terminator := (Memory.has_cons.mp (Memory.has_append.mp written).2).1
      rw [Nat.zero_add] at terminator
      exact absurd (terminator.symm.trans at_end) (by decide)
  · intro readable buffer
    have returned {a : Attribute text name.toCString} (short : a.value.length < size) :=
      yields_read buffer name.unquoted a ((readable a (Nat.le_of_lt short)).mp short)
        (Nat.le_of_lt short) set
    constructor
    · intro j behind
      rcases GetAttribute_cases name.unquoted set readable with failed | ⟨a, short, returns⟩
      · rw [failed]
      · rw [returns]
        exact Memory.store_of_outside (.inr (by rw [length_text]; omega))
    · intro v
      constructor
      · intro yields
        rcases GetAttribute_cases name.unquoted set readable with failed | ⟨a, short, _⟩
        · rw [failed] at yields
          exact absurd yields not_yields_failed
        · have same := yields_unique (returned short).2 yields
          exact ⟨a, same, same ▸ short⟩
      · rintro ⟨a, rfl, short⟩
        exact (returned short).2

end Result

/-- The attribute that `ParseDeviceName` looks for. -/
def NAME : AttributeName := ⟨.ofString "name", by decide⟩

/-- The element of a device that is called `ab`. -/
def deviceElement : CString := .ofString "<Device name=\"ab\">"

/-- A device's name is taken from its element. -/
theorem extracts_device : Extracts deviceElement NAME.toCString 32 := by
  refine (extracts_iff deviceElement NAME 32 (by decide)).mpr fun a _ => ?_
  have whole : deviceElement.bytes = a.passed ++ QUOTE :: a.rest := by
    rw [a.split, Attribute.passed]
    simp only [List.append_assoc, List.cons_append]
  have short : a.value.length < 32 := by
    have length : deviceElement.bytes.length = 18 := by decide
    rw [whole, Attribute.passed] at length
    simp only [List.length_append, List.length_cons] at length
    rw [CString.length]
    omega
  refine iff_of_true short ⟨by decide, ?_, ?_⟩
  · intro empty
    have marks : [QUOTE, QUOTE] <:+: deviceElement.bytes := by
      refine ⟨a.front ++ (NAME.bytes ++ a.between), a.rest, ?_⟩
      rw [a.split, empty, List.nil_append, List.append_assoc, List.append_assoc, List.append_assoc]
      rfl
    rw [← strstrBytes_iff] at marks
    revert marks
    decide
  · intro closed
    have early : CLOSE ∈ deviceElement.bytes.dropLast := by
      rw [whole, List.dropLast_append_cons]
      exact List.mem_append_left _ closed
    revert early
    decide

/-- The terminator of a value as long as the array is written behind it. -/
theorem not_extracts : ¬ ∀ (text : CString) (name : AttributeName) (size : Nat), 0 < size →
    Extracts text name.toCString size := by
  intro all
  have kept := (all (.ofString "<Device name=\"ab\"/>") NAME 2 (by decide) fun _ => 1).1 2
    (Nat.le_refl 2)
  revert kept
  decide

end Sdm.Parse
