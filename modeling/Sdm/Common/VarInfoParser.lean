import Mathlib.Data.List.Induction
import Mathlib.Data.List.Nodup
import Sdm.Lib.Checked
import Sdm.XTEDS.Document

/-!
`VarInfoParser`: the variable of an `SDMVarInfo`.

The grammar is `VarInfoParser.y`, and its actions are those of the xTEDS grammar
(`xTEDSParser.c`). The parser hands its variable over in a global, `var_result`, which
`merge_variables` sets when it has two variables to merge. A text whose pieces are never two
leaves the global as it was, and the variable of the text before has been freed.

A text is read in two parts here: what it has of the grammar, and the actions in the order of the
reductions. The structures of a variable are values, the variables themselves are allocated.

* `actions_eq`: what the actions of a text do to the variables and to the global.
* `left_eq_none_iff`: which texts set the global.
* `parseVarInfo_of_merges`, `parseVarInfo_of_unmerged`: what a parse does, by its own text and by
  what was left behind.
-/

namespace Sdm.VarInfo

open Lib Document

/-! ### `VarInfoParser.l` -/

/-- The names of attributes. -/
inductive Keyword where
  | name | kind | id | qualifier | description | precision | rangeMax | format | accuracy
  | rangeMin | scaleFactor | units | defaultValue | scaleUnits | length | value
  deriving DecidableEq

/-- What the scanner returns. The grammar has no place for a number. -/
inductive Token where
  | EQUAL_SY | CLOSE_SY | SLASHCLOSE_SY | OPEN_VAR_SY | CLOSE_VAR_SY | OPEN_DRANGE_SY
  | CLOSE_DRANGE_SY | OPEN_OPTION_SY | CLOSE_OPTION_SY | OPEN_QUALIFIER_SY | CLOSE_QUALIFIER_SY
  | keyword (k : Keyword)
  | STRING (s : CString)
  | number
  deriving DecidableEq

namespace Keyword

/-- `VAR_ATTRIBUTE`. -/
def variableAttribute : Keyword → Option VariableAttribute
  | name => some .name
  | kind => some .kind
  | id => some .id
  | qualifier => some .qualifier
  | description => some .description
  | precision => some .precision
  | rangeMax => some .rangeMax
  | format => some .format
  | accuracy => some .accuracy
  | rangeMin => some .rangeMin
  | scaleFactor => some .scaleFactor
  | units => some .units
  | defaultValue => some .defaultValue
  | scaleUnits => some .scaleUnits
  | length => some .length
  | value => none

/-- `QUALIFIERS_ATTRIBUTE`. -/
def qualifierAttribute : Keyword → Option QualifierAttribute
  | name => some .name
  | value => some .value
  | units => some .units
  | _ => none

/-- `DRANGE_ATTRIBUTE`. -/
def drangeAttribute : Keyword → Option RangeAttribute
  | name => some .name
  | description => some .description
  | _ => none

/-- `OPTION_ATTRIBUTE`. The scanner has no keyword for an alarm. -/
def optionAttribute : Keyword → Option OptionAttribute
  | name => some .name
  | value => some .value
  | description => some .description
  | _ => none

end Keyword

/-! ### `VarInfoParser.y` -/

/-- As many attributes as there are, and what follows them. -/
def attributes {κ : Type} (named : Keyword → Option κ) : List Token → Attributes κ × List Token
  | .keyword k :: .EQUAL_SY :: .STRING s :: rest =>
      match named k with
      | some a => ((a, s) :: (attributes named rest).1, (attributes named rest).2)
      | none => ([], .keyword k :: .EQUAL_SY :: .STRING s :: rest)
  | rest => ([], rest)

/-- As many elements as there are, and what follows them; `fuel` bounds their number. -/
def elements {α : Type} (element : List Token → Option (α × List Token)) :
    Nat → List Token → List α × List Token
  | 0, rest => ([], rest)
  | fuel + 1, rest =>
      match element rest with
      | some (a, rest) => (a :: (elements element fuel rest).1, (elements element fuel rest).2)
      | none => ([], rest)

/-- `QUALIFIERS`. -/
def qualifiers : List Token → Option (Attributes QualifierAttribute × List Token)
  | .OPEN_QUALIFIER_SY :: rest =>
      match attributes Keyword.qualifierAttribute rest with
      | (as, .SLASHCLOSE_SY :: rest) => some (as, rest)
      | (as, .CLOSE_SY :: .CLOSE_QUALIFIER_SY :: .CLOSE_SY :: rest) => some (as, rest)
      | _ => none
  | _ => none

/-- `DRANGE_OPTION`. -/
def drangeOption : List Token → Option (Attributes OptionAttribute × List Token)
  | .OPEN_OPTION_SY :: rest =>
      match attributes Keyword.optionAttribute rest with
      | (as, .SLASHCLOSE_SY :: rest) => some (as, rest)
      | (as, .CLOSE_SY :: .CLOSE_OPTION_SY :: .CLOSE_SY :: rest) => some (as, rest)
      | _ => none
  | _ => none

/-- `DRANGE`. The scanner has no token for a curve. -/
def drange : List Token → Option (VariableSubelement × List Token)
  | .OPEN_DRANGE_SY :: rest =>
      match attributes Keyword.drangeAttribute rest with
      | (as, .CLOSE_SY :: rest) =>
          match elements drangeOption rest.length rest with
          | (options, .CLOSE_DRANGE_SY :: .CLOSE_SY :: rest) => some (.drange as options, rest)
          | _ => none
      | _ => none
  | _ => none

/-- The elements of a variable as far as they are read: whether all of them are, so that
`VAR_ELEMENTS` is reduced, and whether the tag is closed behind them. -/
structure ElementsRead extends VariableElements where
  reduced : Bool
  closed : Bool

/-- What of a text is read before the first error. -/
structure VariableRead where
  attributes : Attributes VariableAttribute
  elements : Option ElementsRead
  accepted : Bool

/-- `VAR_ELEMENTS` and the end tag; none for an error in the qualifiers. -/
def readElements (rest : List Token) : Option ElementsRead × List Token :=
  match Sdm.VarInfo.elements qualifiers rest.length rest with
  | (_, .OPEN_QUALIFIER_SY :: rest) => (none, rest)
  | (quals, rest) =>
      match Sdm.VarInfo.elements drange rest.length rest with
      | (subs, .OPEN_DRANGE_SY :: rest) => (some ⟨⟨quals, subs⟩, false, false⟩, rest)
      | (subs, .CLOSE_VAR_SY :: .CLOSE_SY :: rest) => (some ⟨⟨quals, subs⟩, true, true⟩, rest)
      | (subs, rest) => (some ⟨⟨quals, subs⟩, true, false⟩, rest)

/-- `VARIABLE`, and the end of the text. -/
def readVariable : List Token → VariableRead
  | .OPEN_VAR_SY :: rest =>
      match attributes Keyword.variableAttribute rest with
      | (as, .SLASHCLOSE_SY :: rest) => ⟨as, none, rest.isEmpty⟩
      | (as, .CLOSE_SY :: rest) =>
          match readElements rest with
          | (some e, rest) => ⟨as, some e, e.closed && rest.isEmpty⟩
          | (none, _) => ⟨as, none, false⟩
      | (as, _) => ⟨as, none, false⟩
  | _ => ⟨[], none, false⟩

/-! ### The variables -/

/-- The variables that were allocated, none for one that is freed, and the global. -/
structure Process where
  heap : List (Option Variable) := []
  var_result : Option Nat := none

namespace Process

/-- `new_variable`, with what is put into it. -/
def new (s : Process) (v : Variable) : Process × Nat :=
  ({ s with heap := s.heap ++ [some v] }, s.heap.length)

/-- Read a variable, which must not be freed. -/
def read (s : Process) (p : Nat) : Checked Variable := Checked.deref (s.heap.getD p none)

def write (s : Process) (p : Nat) (v : Variable) : Process :=
    { s with heap := s.heap.set p (some v) }

def free (s : Process) (p : Nat) : Process := { s with heap := s.heap.set p none }

/-- `merge_variables`. -/
def merge_variables (s : Process) : Option Nat → Option Nat → Checked (Process × Option Nat)
  | none, b => pure (s, b)
  | some a, none => pure (s, some a)
  | some a, some b => do
      let va ← s.read a
      let vb ← s.read b
      pure ({ (s.write a (va.merge vb)).free b with var_result := some a }, some a)

/-- A new variable, merged to those before it. -/
def mergeNew (built : Process × Option Nat) (v : Variable) : Checked (Process × Option Nat) :=
  (built.1.new v).1.merge_variables built.2 (some (built.1.new v).2)

/-- The actions of the reductions, in their order. -/
def actions (s : Process) (r : VariableRead) : Checked Process := do
  let (s, head) ← (r.attributes.map fun a => a.1.single a.2).foldlM mergeNew (s, none)
  match r.elements with
  | none => pure s
  | some e => do
      let (s, quals) := s.new { qualifiers := qualifiersSection e.qualifiers }
      let (s, subs) ← (e.subelements.map VariableSubelement.build).foldlM mergeNew (s, none)
      if e.reduced then do
        let (s, all) ← s.merge_variables (some quals) subs
        if e.closed then do
          let (s, _) ← s.merge_variables head all
          pure s
        else pure s
      else pure s

/-- `parseVarInfo`: the copy of the parsed variable. -/
def parseVarInfo (s : Process) (tokens : List Token) : Checked (Process × Option Variable) := do
  let s ← s.actions (readVariable tokens)
  if (readVariable tokens).accepted then
    match s.var_result with
    | none => pure (s, none)
    | some p => do
        let copy ← s.read p
        pure (s.free p, some copy)
  else pure (s, none)

/-! ### What the actions do -/

section Specs

variable {s s' : Process} {n p : Nat} {a b r : Option Nat} {va vb v g : Option Variable}

/-- The pointer is to this variable, which is not freed and was allocated behind the first `n`. -/
def Held (n : Nat) (s : Process) : Option Nat → Option Variable → Prop
  | none, none => True
  | some p, some v => n ≤ p ∧ s.heap[p]? = some (some v)
  | _, _ => False

theorem Held.lt_length {p : Nat} {v : Option Variable} (held : Held n s (some p) v) :
    n ≤ p ∧ p < s.heap.length := by
  cases v with
  | none => exact held.elim
  | some v => exact ⟨held.1, (List.getElem?_eq_some_iff.mp held.2).1⟩

theorem Held.ne_some (held : Held n s r v) (lt : p < n) : r ≠ some p := by
  rintro rfl
  exact absurd lt (Nat.not_lt_of_le held.lt_length.1)

/-- A variable stays where its place is not touched. -/
theorem Held.frame (held : Held n s r v) (same : ∀ p, r = some p → s'.heap[p]? = s.heap[p]?) :
    Held n s' r v := by
  cases r with
  | none =>
      cases v with
      | none => exact held
      | some v => exact held.elim
  | some p =>
      cases v with
      | none => exact held.elim
      | some v => exact ⟨held.1, (same p rfl).trans held.2⟩

theorem read_eq_ok {v : Variable} : s.read p = .ok v ↔ s.heap[p]? = some (some v) := by
  rw [read, Checked.deref_eq_ok, List.getD_eq_getElem?_getD]
  cases s.heap[p]? <;> simp

/-- What the global is set to by a merge. -/
def merged (va vb g : Option Variable) : Option Variable :=
  match va, vb with
  | some a, some b => some (a.merge b)
  | _, _ => g

/-- **A merge** leaves its variable where the first one was, and sets the global when there were
two. -/
theorem merge_variables_spec (ha : Held n s a va) (hb : Held n s b vb)
    (apart : ∀ p, a = some p → b ≠ some p) :
    ∃ s', s.merge_variables a b = .ok (s', a <|> b) ∧
      Held n s' (a <|> b) (mergeWith Variable.merge va vb) ∧
      (∀ p, a ≠ some p → b ≠ some p → s'.heap[p]? = s.heap[p]?) ∧
      s'.heap.length = s.heap.length ∧ (va = none ∨ vb = none → s' = s) ∧
      s'.var_result = if va.isSome && vb.isSome then a else s.var_result := by
  cases a with
  | none =>
      cases va with
      | some _ => exact ha.elim
      | none => exact ⟨s, rfl, hb, fun _ _ _ => rfl, rfl, fun _ => rfl, rfl⟩
  | some a =>
      cases va with
      | none => exact ha.elim
      | some x =>
          cases b with
          | none =>
              cases vb with
              | some _ => exact hb.elim
              | none => exact ⟨s, rfl, ha, fun _ _ _ => rfl, rfl, fun _ => rfl, rfl⟩
          | some b =>
              cases vb with
              | none => exact hb.elim
              | some y =>
                  have ne : a ≠ b := fun same => apart a rfl (congrArg some same.symm)
                  refine ⟨{ (s.write a (x.merge y)).free b with var_result := some a }, ?_, ?_, ?_,
                    ?_, fun missing => absurd missing nofun, rfl⟩
                  · exact Checked.bind_eq_ok.mpr ⟨x, read_eq_ok.mpr ha.2,
                      Checked.bind_eq_ok.mpr ⟨y, read_eq_ok.mpr hb.2, rfl⟩⟩
                  · refine ⟨ha.1, ?_⟩
                    show ((s.heap.set a (some (x.merge y))).set b none)[a]? = _
                    rw [List.getElem?_set_ne ne.symm]
                    exact List.getElem?_set_self (List.getElem?_eq_some_iff.mp ha.2).1
                  · intro p notA notB
                    show ((s.heap.set a (some (x.merge y))).set b none)[p]? = _
                    rw [List.getElem?_set_ne fun same => notB (congrArg some same),
                      List.getElem?_set_ne fun same => notA (congrArg some same)]
                  · simp [write, free]

/-- What is built of new variables: their merge, and what the global is set to. -/
def collect (vs : List Variable) (built : Option Variable × Option Variable) :
    Option Variable × Option Variable :=
  vs.foldl (fun built v => (mergeWith Variable.merge built.1 (some v),
    merged built.1 (some v) built.2)) built

/-- New variables have been merged: those before them are as they were. -/
structure Built (s s' : Process) (r : Option Nat) (built : Option Variable × Option Variable) :
    Prop where
  grows : s.heap.length ≤ s'.heap.length
  frame : ∀ p < s.heap.length, s'.heap[p]? = s.heap[p]?
  value : Held s.heap.length s' r built.1
  unset : built.2 = none → s'.var_result = s.var_result
  set : built.2 ≠ none → built.2 = built.1 ∧ s'.var_result = r

theorem Built.start (s : Process) : Built s s none (none, none) :=
  ⟨Nat.le_refl _, fun _ _ => rfl, trivial, fun _ => rfl, fun set => absurd rfl set⟩

/-- One more variable. -/
theorem Built.mergeNew {built : Option Variable × Option Variable} (w : Variable)
    (before : Built s s' r built) :
    ∃ s'' r', Process.mergeNew (s', r) w = .ok (s'', r') ∧
      Built s s'' r' (mergeWith Variable.merge built.1 (some w),
        merged built.1 (some w) built.2) := by
  have kept : ∀ p < s'.heap.length, (s'.new w).1.heap[p]? = s'.heap[p]? := by
    intro p lt
    exact List.getElem?_append_left lt
  have fresh : Held s.heap.length (s'.new w).1 (some s'.heap.length) (some w) :=
    ⟨before.grows, by simp [new]⟩
  have old : Held s.heap.length (s'.new w).1 r built.1 := by
    apply before.value.frame
    rintro p rfl
    exact kept p before.value.lt_length.2
  have apart : ∀ p, r = some p → some s'.heap.length ≠ some p := by
    rintro p rfl same
    exact absurd (Option.some.inj same) (Nat.ne_of_gt before.value.lt_length.2)
  obtain ⟨s'', run, value, frame, length, -, global⟩ := merge_variables_spec old fresh apart
  have longer : (s'.new w).1.heap.length = s'.heap.length + 1 := by simp [new]
  refine ⟨s'', _, run, ?_, ?_, value, ?_, ?_⟩
  · rw [length, longer]
    exact Nat.le_succ_of_le before.grows
  · intro p lt
    rw [frame p (old.ne_some lt) (fresh.ne_some lt), kept p (Nat.lt_of_lt_of_le lt before.grows),
      before.frame p lt]
  · intro unset
    cases first : built.1 with
    | none =>
        rw [first] at global unset
        exact global.trans (before.unset unset)
    | some x =>
        rw [first] at unset
        exact absurd unset nofun
  · intro set
    cases first : built.1 with
    | none =>
        rw [first] at set
        exact absurd first ((before.set set).1 ▸ set)
    | some x =>
        rw [first] at global
        refine ⟨rfl, global.trans ?_⟩
        cases r with
        | none => exact (first ▸ before.value).elim
        | some p => rfl

/-- **New variables** one after another. -/
theorem Built.all {built : Option Variable × Option Variable} (vs : List Variable)
    (before : Built s s' r built) :
    ∃ s'' r', vs.foldlM Process.mergeNew (s', r) = .ok (s'', r') ∧
      Built s s'' r' (collect vs built) := by
  induction vs generalizing s' r built with
  | nil => exact ⟨s', r, rfl, before⟩
  | cons w vs ih =>
      obtain ⟨s₁, r₁, first, built₁⟩ := before.mergeNew w
      obtain ⟨s₂, r₂, rest, built₂⟩ := ih built₁
      exact ⟨s₂, r₂, Checked.bind_eq_ok.mpr ⟨(s₁, r₁), first, rest⟩, built₂⟩

theorem Held.mono {m : Nat} (held : Held n s r v) (le : m ≤ n) : Held m s r v := by
  cases r with
  | none =>
      cases v with
      | none => trivial
      | some v => exact held.elim
  | some p =>
      cases v with
      | none => exact held.elim
      | some v => exact ⟨le.trans held.1, held.2⟩

/-- The global is as it was in `s`, or it points to a variable of this text. -/
structure Sets (s s' : Process) (g : Option Variable) : Prop where
  unset : g = none → s'.var_result = s.var_result
  set : g ≠ none → Held s.heap.length s' s'.var_result g

/-- A merge of two variables of the text sets the global anew. -/
theorem Sets.merge {s₀ : Process} (sets : Sets s₀ s g) (ha : Held s₀.heap.length s a va)
    (hb : Held s₀.heap.length s b vb) (apart : ∀ p, a = some p → b ≠ some p) :
    ∃ s', s.merge_variables a b = .ok (s', a <|> b) ∧
      Held s₀.heap.length s' (a <|> b) (mergeWith Variable.merge va vb) ∧
      (∀ p, a ≠ some p → b ≠ some p → s'.heap[p]? = s.heap[p]?) ∧
      s'.heap.length = s.heap.length ∧ Sets s₀ s' (merged va vb g) := by
  obtain ⟨s', run, value, frame, length, same, global⟩ := merge_variables_spec ha hb apart
  refine ⟨s', run, value, frame, length, ?_⟩
  cases va with
  | none =>
      obtain rfl := same (Or.inl rfl)
      exact sets
  | some x =>
      cases vb with
      | none =>
          obtain rfl := same (Or.inr rfl)
          exact sets
      | some y =>
          refine ⟨fun unset => absurd unset nofun, fun _ => ?_⟩
          cases a with
          | none => exact ha.elim
          | some a =>
              rw [show s'.var_result = some a from global]
              exact value

theorem Built.sets {built : Option Variable × Option Variable} (all : Built s s' r built) :
    Sets s s' built.2 := by
  refine ⟨all.unset, fun set => ?_⟩
  obtain ⟨same, global⟩ := all.set set
  rw [same, global]
  exact all.value

/-- What a text leaves in the global, when it merges two variables. -/
def left (r : VariableRead) : Option Variable :=
  let head := collect (r.attributes.map fun a => a.1.single a.2) (none, none)
  match r.elements with
  | none => head.2
  | some e =>
      let quals : Variable := { qualifiers := qualifiersSection e.qualifiers }
      let subs := collect (e.subelements.map VariableSubelement.build) (none, none)
      let g := subs.2 <|> head.2
      if e.reduced then
        let g := merged (some quals) subs.1 g
        if e.closed then merged head.1 (mergeWith Variable.merge (some quals) subs.1) g else g
      else g

/-- The state behind the elements: the three parts of the variable, and the global. -/
structure Parts (s s' : Process) (head quals subs : Option Nat) (vh vq vs g : Option Variable) :
    Prop where
  frame : ∀ p < s.heap.length, s'.heap[p]? = s.heap[p]?
  attributes : Held s.heap.length s' head vh
  qualifiers : Held s.heap.length s' quals vq
  subelements : Held s.heap.length s' subs vs
  head_quals : ∀ p, head = some p → quals ≠ some p
  head_subs : ∀ p, head = some p → subs ≠ some p
  quals_subs : ∀ p, quals = some p → subs ≠ some p
  sets : Sets s s' g

/-- The qualifiers and the elements are new variables behind those of the attributes. -/
theorem Built.parts {built built' : Option Variable × Option Variable} {s₁ s₃ : Process}
    {head subs : Option Nat} (quals : Variable) (first : Built s s₁ head built)
    (rest : Built (s₁.new quals).1 s₃ subs built') :
    Parts s s₃ head (some s₁.heap.length) subs built.1 (some quals) built'.1
      (built'.2 <|> built.2) := by
  have longer : (s₁.new quals).1.heap.length = s₁.heap.length + 1 := by simp [new]
  have kept : ∀ p < s₁.heap.length, s₃.heap[p]? = s₁.heap[p]? := by
    intro p lt
    rw [rest.frame p (longer ▸ Nat.lt_succ_of_lt lt)]
    exact List.getElem?_append_left lt
  have here : s₃.heap[s₁.heap.length]? = some (some quals) := by
    rw [rest.frame _ (longer ▸ Nat.lt_succ_self _)]
    simp [new]
  have behind : ∀ p, subs = some p → s₁.heap.length < p := by
    rintro p rfl
    have le := rest.value.lt_length.1
    rw [longer] at le
    exact le
  have le : s.heap.length ≤ (s₁.new quals).1.heap.length := longer ▸ Nat.le_succ_of_le first.grows
  constructor
  · intro p lt
    rw [kept p (Nat.lt_of_lt_of_le lt first.grows), first.frame p lt]
  · apply first.value.frame
    rintro p rfl
    exact kept p first.value.lt_length.2
  · exact ⟨first.grows, here⟩
  · exact rest.value.mono le
  · rintro p rfl same
    exact absurd (Option.some.inj same) (Nat.ne_of_gt first.value.lt_length.2)
  · rintro p rfl same
    have lt := behind p same
    exact absurd first.value.lt_length.2 (Nat.not_lt_of_lt lt)
  · intro p is same
    obtain rfl := Option.some.inj is
    exact absurd (behind _ same) (Nat.lt_irrefl _)
  · cases later : built'.2 with
    | some x =>
        refine ⟨fun unset => absurd unset nofun, fun _ => ?_⟩
        have set := rest.sets.set (by rw [later]; nofun)
        rw [later] at set
        exact set.mono le
    | none =>
        have unset : s₃.var_result = s₁.var_result := rest.unset later
        refine ⟨fun none => unset.trans (first.sets.unset none), fun some => ?_⟩
        have set := first.sets.set some
        rw [← unset] at set
        apply set.frame
        intro p is
        rw [is] at set
        exact kept p set.lt_length.2

/-- **The actions of a text** touch none of the variables before it, and set the global to a
variable of the text or not at all. -/
theorem actions_eq (s : Process) (r : VariableRead) : ∃ s', s.actions r = .ok s' ∧
    (∀ p < s.heap.length, s'.heap[p]? = s.heap[p]?) ∧ Sets s s' (left r) := by
  obtain ⟨s₁, head, run₁, built₁⟩ :=
    (Built.start s).all (r.attributes.map fun a => a.1.single a.2)
  cases elements : r.elements with
  | none =>
      refine ⟨s₁, Checked.bind_eq_ok.mpr ⟨(s₁, head), run₁, ?_⟩, built₁.frame, ?_⟩
      · rw [elements]
        rfl
      · rw [left, elements]
        exact built₁.sets
  | some e =>
      obtain ⟨s₃, subs, run₃, built₃⟩ :=
        (Built.start (s₁.new { qualifiers := qualifiersSection e.qualifiers }).1).all
          (e.subelements.map VariableSubelement.build)
      have parts := built₁.parts _ built₃
      have run : ∀ s', (if e.reduced then do
            let (s, all) ← s₃.merge_variables (some s₁.heap.length) subs
            if e.closed then do
              let (s, _) ← s.merge_variables head all
              pure s
            else pure s
          else pure s₃) = Except.ok s' → s.actions r = .ok s' := by
        intro s' rest
        refine Checked.bind_eq_ok.mpr ⟨(s₁, head), run₁, ?_⟩
        rw [elements]
        exact Checked.bind_eq_ok.mpr ⟨(s₃, subs), run₃, rest⟩
      cases reduced : e.reduced with
      | false =>
          refine ⟨s₃, run s₃ (by rw [reduced]; rfl), parts.frame, ?_⟩
          rw [left, elements]
          simpa [reduced] using parts.sets
      | true =>
          obtain ⟨s₄, run₄, all, frame, length, sets⟩ :=
            parts.sets.merge parts.qualifiers parts.subelements parts.quals_subs
          have frame₄ : ∀ p < s.heap.length, s₄.heap[p]? = s.heap[p]? := by
            intro p lt
            rw [frame p (parts.qualifiers.ne_some lt) (parts.subelements.ne_some lt),
              parts.frame p lt]
          cases closed : e.closed with
          | false =>
              refine ⟨s₄, run s₄ ?_, frame₄, ?_⟩
              · rw [reduced, closed]
                exact Checked.bind_eq_ok.mpr ⟨_, run₄, rfl⟩
              · rw [left, elements]
                simpa [reduced, closed] using sets
          | true =>
              have head₄ : Held s.heap.length s₄ head
                  (collect (r.attributes.map fun a => a.1.single a.2) (none, none)).1 :=
                parts.attributes.frame fun p is =>
                  frame p (parts.head_quals p is) (parts.head_subs p is)
              obtain ⟨s₅, run₅, -, frame', -, sets'⟩ :=
                sets.merge head₄ all fun p is => parts.head_quals p is
              refine ⟨s₅, run s₅ ?_, ?_, ?_⟩
              · rw [reduced, closed]
                exact Checked.bind_eq_ok.mpr ⟨_, run₄, Checked.bind_eq_ok.mpr ⟨_, run₅, rfl⟩⟩
              · intro p lt
                rw [frame' p (head₄.ne_some lt) (all.ne_some lt), frame₄ p lt]
              · rw [left, elements]
                simpa [reduced, closed] using sets'

/-! ### Which texts merge -/

/-- Two pieces of the variable are merged. -/
def Merges (r : VariableRead) : Prop :=
  2 ≤ r.attributes.length ∨ ∃ e, r.elements = some e ∧ (2 ≤ e.subelements.length ∨
    e.reduced = true ∧ (e.subelements ≠ [] ∨ e.closed = true ∧ r.attributes ≠ []))

theorem collect_concat (vs : List Variable) (w : Variable)
    (built : Option Variable × Option Variable) : collect (vs ++ [w]) built =
      (mergeWith Variable.merge (collect vs built).1 (some w),
        merged (collect vs built).1 (some w) (collect vs built).2) := by
  rw [collect, List.foldl_append]
  rfl

theorem collect_eq_none_iff (vs : List Variable) :
    ((collect vs (none, none)).1 = none ↔ vs = []) ∧
      ((collect vs (none, none)).2 = none ↔ vs.length ≤ 1) := by
  induction vs using List.reverseRecOn with
  | nil => simp [collect]
  | append_singleton vs w ih =>
      rw [collect_concat]
      cases first : (collect vs (none, none)).1 with
      | none =>
          obtain rfl := ih.1.mp first
          simp [mergeWith, merged, collect]
      | some x =>
          have some : vs ≠ [] := fun nil => absurd (first.symm.trans (ih.1.mpr nil)) nofun
          have pos := List.length_pos_iff.mpr some
          simp only [mergeWith, merged, List.length_append, List.length_singleton]
          constructor
          · simp
          · simp only [reduceCtorEq, false_iff]
            omega

theorem merged_eq_none_iff : merged va vb g = none ↔ (va = none ∨ vb = none) ∧ g = none := by
  cases va <;> cases vb <;> simp [merged]

/-- **Which texts set the global**: those that merge two pieces. -/
theorem left_eq_none_iff (r : VariableRead) : left r = none ↔ ¬ Merges r := by
  unfold left Merges
  have head := collect_eq_none_iff (r.attributes.map fun a => a.1.single a.2)
  rw [List.length_map, List.map_eq_nil_iff] at head
  cases elements : r.elements with
  | none =>
      rw [head.2]
      simp only [reduceCtorEq, false_and, exists_false, or_false, not_le]
      exact Nat.lt_succ_iff.symm
  | some e =>
      have subs := collect_eq_none_iff (e.subelements.map VariableSubelement.build)
      rw [List.length_map, List.map_eq_nil_iff] at subs
      have quals : ∀ v : Option Variable, mergeWith Variable.merge (some
          { qualifiers := qualifiersSection e.qualifiers }) v ≠ none := by
        intro v
        cases v <;> simp [mergeWith]
      cases reduced : e.reduced with
      | false =>
          simp only [reduced, Bool.false_eq_true, if_false, Option.orElse_eq_orElse,
            Option.orElse_eq_or, Option.or_eq_none_iff, head, subs, Option.some.injEq,
            exists_eq_left', false_and, or_false]
          omega
      | true =>
          cases closed : e.closed with
          | false =>
              simp only [reduced, if_true, closed, Bool.false_eq_true, if_false,
                Option.orElse_eq_orElse, Option.orElse_eq_or, merged_eq_none_iff,
                  reduceCtorEq, subs,
                false_or, Option.or_eq_none_iff, head, Option.some.injEq,
                  exists_eq_left', false_and,
                or_false, true_and]
              grind
          | true =>
              simp only [reduced, if_true, closed, Option.orElse_eq_orElse, Option.orElse_eq_or,
                merged_eq_none_iff, head, quals, or_false, reduceCtorEq, subs, false_or,
                Option.or_eq_none_iff, Option.some.injEq, exists_eq_left', true_and]
              grind

/-! ### A parse -/

variable {tokens : List Token} {copy : Option Variable}

/-- A text that merges hands over its own variable, whatever was parsed before. -/
theorem parseVarInfo_of_merges (s : Process) (merges : Merges (readVariable tokens)) :
    ∃ s' p, s.parseVarInfo tokens =
        .ok (s', if (readVariable tokens).accepted then left (readVariable tokens) else none) ∧
      (∀ p < s.heap.length, s'.heap[p]? = s.heap[p]?) ∧
      s'.var_result = some p ∧ p < s'.heap.length := by
  obtain ⟨s', run, frame, sets⟩ := actions_eq s (readVariable tokens)
  have some : left (readVariable tokens) ≠ none := fun none =>
    (left_eq_none_iff _).mp none merges
  have held := sets.set some
  cases global : s'.var_result with
  | none =>
      rw [global] at held
      cases is : left (readVariable tokens) with
      | none => exact absurd is some
      | some v => exact (is ▸ held).elim
  | some p =>
      rw [global] at held
      cases is : left (readVariable tokens) with
      | none => exact absurd is some
      | some v =>
          rw [is] at held
          cases accepted : (readVariable tokens).accepted with
          | false =>
              refine ⟨s', p, Checked.bind_eq_ok.mpr ⟨s', run, ?_⟩, frame, global, held.lt_length.2⟩
              rw [accepted]
              rfl
          | true =>
              refine ⟨s'.free p, p, Checked.bind_eq_ok.mpr ⟨s', run, ?_⟩, ?_, global, ?_⟩
              · rw [accepted, global]
                exact Checked.bind_eq_ok.mpr ⟨v, read_eq_ok.mpr held.2, rfl⟩
              · intro p' lt
                show (s'.heap.set p none)[p']? = _
                rw [List.getElem?_set_ne (Nat.ne_of_gt (Nat.lt_of_lt_of_le lt held.1)), frame p' lt]
              · show p < (s'.heap.set p none).length
                rw [List.length_set]
                exact held.lt_length.2

/-- A text that does not merge leaves the global as it was. -/
theorem actions_of_unmerged (s : Process) (unmerged : ¬ Merges (readVariable tokens)) :
    ∃ s', s.actions (readVariable tokens) = .ok s' ∧
      (∀ p < s.heap.length, s'.heap[p]? = s.heap[p]?) ∧ s'.var_result = s.var_result := by
  obtain ⟨s', run, frame, sets⟩ := actions_eq s (readVariable tokens)
  exact ⟨s', run, frame, sets.unset ((left_eq_none_iff _).mpr unmerged)⟩

/-- A text that merges when it is accepted touches none of the variables before it. -/
theorem parseVarInfo_eq (s : Process)
    (merges : (readVariable tokens).accepted = true → Merges (readVariable tokens)) :
    ∃ s', s.parseVarInfo tokens =
        .ok (s', if (readVariable tokens).accepted then left (readVariable tokens) else none) ∧
      ∀ p < s.heap.length, s'.heap[p]? = s.heap[p]? := by
  by_cases two : Merges (readVariable tokens)
  · obtain ⟨s', p, ok, frame, -⟩ := parseVarInfo_of_merges s two
    exact ⟨s', ok, frame⟩
  · obtain ⟨s', run, frame, -⟩ := actions_of_unmerged s two
    have refused : (readVariable tokens).accepted = false :=
      Bool.not_eq_true _ ▸ fun accepted => two (merges accepted)
    refine ⟨s', Checked.bind_eq_ok.mpr ⟨s', run, ?_⟩, frame⟩
    rw [refused]
    rfl

/-- When it is accepted, the variable that the global points to is copied and freed. -/
theorem parseVarInfo_of_unmerged (accepted : (readVariable tokens).accepted = true)
    (unmerged : ¬ Merges (readVariable tokens)) (global : s.var_result = some p)
    (inside : p < s.heap.length) :
    (∀ s' copy, s.parseVarInfo tokens = .ok (s', copy) →
      s'.var_result = some p ∧ s'.heap[p]? = some none) ∧
    (s.heap[p]? = some none → ¬ Checked.Safe (s.parseVarInfo tokens)) := by
  obtain ⟨s₁, run, frame, same⟩ := actions_of_unmerged s unmerged
  have whole : s.parseVarInfo tokens =
      s₁.read p >>= fun copy => pure (s₁.free p, some copy) := by
    unfold parseVarInfo
    rw [run]
    show (if (readVariable tokens).accepted = true then _ else _) = _
    rw [if_pos accepted, same, global]
  have here := frame p inside
  rw [whole]
  constructor
  · intro s' copy ok
    obtain ⟨v, live, rest⟩ := Checked.bind_eq_ok.mp ok
    obtain ⟨rfl, -⟩ := Prod.mk.inj (Except.ok.inj rest)
    refine ⟨same.trans global, ?_⟩
    show (s₁.heap.set p none)[p]? = some none
    exact List.getElem?_set_self (List.getElem?_eq_some_iff.mp (read_eq_ok.mp live)).1
  · rintro freed ⟨_, ok⟩
    obtain ⟨v, live, -⟩ := Checked.bind_eq_ok.mp ok
    have live := read_eq_ok.mp live
    rw [here, freed] at live
    exact absurd live nofun

end Specs

end Process

end Sdm.VarInfo
