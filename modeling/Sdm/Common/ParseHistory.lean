import Mathlib.Data.Set.Insert
import Sdm.Common.VarInfoParser

/-!
The parses of variables in one process, and what one leaves for the next.

* `Sound.setVarInfo`: a text that merges two pieces sets its own value.
* `not_safe_of_unmerged`: an accepted text that merges none reads a variable that was freed.
* `historyFree_iff`: when the parses of a process do not depend on each other.
-/

namespace Sdm.VarInfo

open Lib Document

/-- The process with its `VarInfoParser` objects, and the variables of the xTEDS documents that
share the actions. -/
structure Program where
  process : Process := {}
  documents : List Nat := []
  varTree : Nat → Option Variable := fun _ => none

/-- What is done: a text is set in one of the objects, a document is parsed, or one is deleted.
Of a document there is the variable that its parse leaves in the global, if it merges any. -/
inductive Op where
  | setVarInfo (object : Nat) (varInfo : CString)
  | parsexTEDS (last : Option Variable)
  | delete_xteds (n : Nat)

/-- One operation. The scanner keeps nothing from one text to the next. -/
def Program.step (scan : CString → List Token) (s : Program) : Op → Checked Program
  | .setVarInfo object varInfo => do
      let (process, copy) ← s.process.parseVarInfo (scan varInfo)
      pure { s with process := process, varTree := Function.update s.varTree object copy }
  | .parsexTEDS none => pure s
  | .parsexTEDS (some v) => pure {
      s with
      process := { (s.process.new v).1 with var_result := some (s.process.new v).2 }
      documents := s.documents ++ [(s.process.new v).2] }
  | .delete_xteds n =>
      match s.documents[n]? with
      | none => pure s
      | some p => do
          let _ ← s.process.read p
          pure { s with process := s.process.free p, documents := s.documents.eraseIdx n }

/-- Some operations, from the start of the process on. -/
def run (scan : CString → List Token) (ops : List Op) : Checked Program :=
  ops.foldlM (Program.step scan) {}

/-- The operation merges variables. -/
def Op.Merges (scan : CString → List Token) : Op → Prop
  | .setVarInfo _ varInfo => Process.Merges (readVariable (scan varInfo))
  | .parsexTEDS last => last ≠ none
  | .delete_xteds _ => False

/-- **History makes no difference**: no variable is read after it was freed, and what a text sets
is the same in every run of these operations. -/
def HistoryFree (scan : CString → List Token) (T : Set Op) : Prop :=
  (∀ ops : List Op, (∀ op ∈ ops, op ∈ T) → Checked.Safe (run scan ops)) ∧
  ∃ f : CString → Variable, ∀ (ops : List Op) object varInfo s v, (∀ op ∈ ops, op ∈ T) →
    .setVarInfo object varInfo ∈ T → run scan (ops ++ [.setVarInfo object varInfo]) = .ok s →
    s.varTree object = some v → v = f varInfo

namespace Program

variable {scan : CString → List Token} {T : Set Op} {s : Program} {op : Op}

/-- What every step keeps holds of every run. -/
theorem run_induct (scan : CString → List Token) (T : Set Op) (Inv : Program → Prop)
    (start : Inv {})
    (step : ∀ s op, Inv s → op ∈ T → ∃ s', Program.step scan s op = .ok s' ∧ Inv s')
    (ops : List Op) (all : ∀ op ∈ ops, op ∈ T) : ∃ s, run scan ops = .ok s ∧ Inv s := by
  have from_ : ∀ s, Inv s → ∃ s', ops.foldlM (Program.step scan) s = .ok s' ∧ Inv s' := by
    induction ops with
    | nil => exact fun s inv => ⟨s, rfl, inv⟩
    | cons op ops ih =>
        intro s inv
        obtain ⟨s₁, first, inv₁⟩ := step s op inv (all op List.mem_cons_self)
        obtain ⟨s₂, rest, inv₂⟩ :=
          ih (fun op mem => all op (List.mem_cons_of_mem _ mem)) s₁ inv₁
        exact ⟨s₂, Checked.bind_eq_ok.mpr ⟨s₁, first, rest⟩, inv₂⟩
  exact from_ {} start

/-- The documents are not freed, and none of them is there twice. -/
structure Sound (s : Program) : Prop where
  live : ∀ p ∈ s.documents, ∃ v, s.process.heap[p]? = some (some v)
  distinct : s.documents.Nodup

/-- The value of a text, by itself. -/
def value (scan : CString → List Token) (varInfo : CString) : Variable :=
  (Process.left (readVariable (scan varInfo))).getD {}

/-- A text that merges when it is accepted sets its own value. -/
theorem Sound.setVarInfo {object : Nat} {varInfo : CString} (sound : Sound s)
    (merges : (readVariable (scan varInfo)).accepted = true →
      Process.Merges (readVariable (scan varInfo))) :
    ∃ s', s.step scan (.setVarInfo object varInfo) = .ok s' ∧ Sound s' ∧
      ∀ v, s'.varTree object = some v → v = value scan varInfo := by
  obtain ⟨process, ok, frame⟩ := Process.parseVarInfo_eq s.process merges
  refine ⟨_, Checked.bind_eq_ok.mpr ⟨_, ok, rfl⟩, ⟨?_, sound.distinct⟩, ?_⟩
  · intro p mem
    obtain ⟨v, live⟩ := sound.live p mem
    exact ⟨v, (frame p (List.getElem?_eq_some_iff.mp live).1).trans live⟩
  · intro v set
    have set : (if (readVariable (scan varInfo)).accepted then
        Process.left (readVariable (scan varInfo)) else none) = some v :=
      (Function.update_self object _ s.varTree).symm.trans set
    split at set
    · rw [value, set]
      rfl
    · cases set

/-- The documents stay sound. -/
theorem Sound.step (sound : Sound s) (merges : ∀ object varInfo, op = .setVarInfo object varInfo →
      (readVariable (scan varInfo)).accepted = true →
        Process.Merges (readVariable (scan varInfo))) :
    ∃ s', s.step scan op = .ok s' ∧ Sound s' := by
  cases op with
  | setVarInfo object varInfo =>
      obtain ⟨s', ok, sound', -⟩ := sound.setVarInfo (merges object varInfo rfl)
      exact ⟨s', ok, sound'⟩
  | parsexTEDS last =>
      cases last with
      | none => exact ⟨s, rfl, sound⟩
      | some v =>
          have inside : ∀ p ∈ s.documents, p < s.process.heap.length := by
            intro p mem
            obtain ⟨_, live⟩ := sound.live p mem
            exact (List.getElem?_eq_some_iff.mp live).1
          refine ⟨_, rfl, ?_, ?_⟩
          · intro p mem
            rcases List.mem_append.mp mem with old | new
            · obtain ⟨w, live⟩ := sound.live p old
              exact ⟨w, (List.getElem?_append_left (inside p old)).trans live⟩
            · obtain rfl := List.mem_singleton.mp new
              exact ⟨v, by simp [Process.new]⟩
          · refine List.nodup_append.mpr ⟨sound.distinct, List.nodup_singleton _, ?_⟩
            intro p old q new same
            obtain rfl := List.mem_singleton.mp new
            exact absurd (inside p old) (by simp [same, Process.new])
  | delete_xteds n =>
      cases at_n : s.documents[n]? with
      | none =>
          refine ⟨s, ?_, sound⟩
          simp only [Program.step, at_n]
          rfl
      | some p =>
          obtain ⟨v, live⟩ := sound.live p (List.mem_of_getElem? at_n)
          refine ⟨{ s with process := s.process.free p, documents :=
            s.documents.eraseIdx n }, ?_, ?_,
            sound.distinct.eraseIdx n⟩
          · simp only [Program.step, at_n]
            exact Checked.bind_eq_ok.mpr ⟨v, Process.read_eq_ok.mpr live, rfl⟩
          · intro q mem
            have other : p ≠ q := by
              rintro rfl
              obtain ⟨i, ne, at_i⟩ := List.mem_eraseIdx_iff_getElem?.mp mem
              have inside := (List.getElem?_eq_some_iff.mp at_i).1
              exact ne ((List.getElem?_inj inside sound.distinct).mp (at_i.trans at_n.symm))
            obtain ⟨w, live'⟩ := sound.live q (List.mem_of_mem_eraseIdx mem)
            exact ⟨w, (List.getElem?_set_ne other).trans live'⟩

/-- The global is not set, and no document has variables. -/
def Untouched (s : Program) : Prop := s.process.var_result = none ∧ s.documents = []

/-- Where nothing merges, the global is never set, and no text succeeds. -/
theorem Untouched.step (untouched : Untouched s) (unmerged : ¬ op.Merges scan) :
    ∃ s', s.step scan op = .ok s' ∧ Untouched s' ∧
      ∀ object varInfo, op = .setVarInfo object varInfo → s'.varTree object = none := by
  cases op with
  | setVarInfo object varInfo =>
      obtain ⟨process, run, -, same⟩ := Process.actions_of_unmerged s.process unmerged
      have unset := same.trans untouched.1
      have ok : s.process.parseVarInfo (scan varInfo) = .ok (process, none) := by
        refine Checked.bind_eq_ok.mpr ⟨process, run, ?_⟩
        rw [unset]
        split <;> rfl
      refine ⟨_, Checked.bind_eq_ok.mpr ⟨_, ok, rfl⟩, ⟨unset, untouched.2⟩, ?_⟩
      intro object' varInfo' same
      cases same
      exact Function.update_self object none s.varTree
  | parsexTEDS last =>
      obtain rfl := not_not.mp unmerged
      exact ⟨s, rfl, untouched, nofun⟩
  | delete_xteds n =>
      refine ⟨s, ?_, untouched, nofun⟩
      have none : s.documents[n]? = none := by
        rw [untouched.2]
        rfl
      simp only [Program.step, none]
      rfl

/-- An operation that merges leaves a variable in the global. -/
theorem step_of_merges {s' : Program} (merges : op.Merges scan) (ok : s.step scan op = .ok s') :
    ∃ p, s'.process.var_result = some p ∧ p < s'.process.heap.length := by
  cases op with
  | setVarInfo object varInfo =>
      obtain ⟨process, p, run, -, global, inside⟩ :=
        Process.parseVarInfo_of_merges s.process merges
      obtain ⟨⟨process', copy⟩, run', rest⟩ := Checked.bind_eq_ok.mp ok
      obtain ⟨rfl, -⟩ := Prod.mk.inj (Except.ok.inj (run.symm.trans run'))
      cases rest
      exact ⟨p, global, inside⟩
  | parsexTEDS last =>
      cases last with
      | none => exact absurd rfl merges
      | some v =>
          cases ok
          exact ⟨_, rfl, by simp [Process.new]⟩
  | delete_xteds n => exact merges.elim

/-- **A text that is accepted without a merge** frees the variable that is left in the global, and
reads it again when it is set once more. -/
theorem not_safe_of_unmerged (object : Nat) {varInfo : CString} (merges : op.Merges scan)
    (accepted : (readVariable (scan varInfo)).accepted = true)
    (unmerged : ¬ Process.Merges (readVariable (scan varInfo))) :
    ¬ Checked.Safe (run scan [op, .setVarInfo object varInfo, .setVarInfo object varInfo]) := by
  rintro ⟨s₃, ok⟩
  obtain ⟨s₁, first, ok⟩ := Checked.bind_eq_ok.mp ok
  obtain ⟨s₂, second, ok⟩ := Checked.bind_eq_ok.mp ok
  obtain ⟨_, third, -⟩ := Checked.bind_eq_ok.mp ok
  obtain ⟨p, global, inside⟩ := step_of_merges merges first
  obtain ⟨⟨process₂, copy₂⟩, parsed₂, rest⟩ := Checked.bind_eq_ok.mp second
  cases rest
  have spec := (Process.parseVarInfo_of_unmerged accepted unmerged global inside).1 _ _ parsed₂
  obtain ⟨result, parsed₃, -⟩ := Checked.bind_eq_ok.mp third
  have inside₂ := (List.getElem?_eq_some_iff.mp spec.2).1
  exact (Process.parseVarInfo_of_unmerged accepted unmerged spec.1 inside₂).2 spec.2
    ⟨result, parsed₃⟩

/-- The last operation of a run, from where the others have come to. -/
theorem run_concat {ops : List Op} {s' : Program} :
    run scan (ops ++ [op]) = .ok s' ↔ ∃ s, run scan ops = .ok s ∧ s.step scan op = .ok s' := by
  rw [run, List.foldlM_append, Checked.bind_eq_ok]
  simp only [List.foldlM_cons, List.foldlM_nil, bind_pure]
  rfl

end Program

open Program

variable (scan : CString → List Token) (T : Set Op)

/-- **History makes no difference** exactly when every text that is accepted merges two pieces of
its variable, or when nothing in the process ever does. -/
theorem historyFree_iff : HistoryFree scan T ↔
    (∀ object varInfo, .setVarInfo object varInfo ∈ T →
      (readVariable (scan varInfo)).accepted = true →
        Process.Merges (readVariable (scan varInfo))) ∨
    ∀ op ∈ T, ¬ op.Merges scan := by
  constructor
  · rintro ⟨safe, -⟩
    by_contra neither
    push Not at neither
    obtain ⟨⟨object, varInfo, mem, accepted, unmerged⟩, op, memOp, merges⟩ := neither
    refine not_safe_of_unmerged object merges accepted unmerged (safe _ ?_)
    intro op' mem'
    simp only [List.mem_cons, List.not_mem_nil, or_false] at mem'
    rcases mem' with rfl | rfl | rfl
    · exact memOp
    · exact mem
    · exact mem
  · rintro (merges | unmerged)
    · have runs := run_induct scan T Sound ⟨nofun, List.nodup_nil⟩
        fun s op sound mem => sound.step fun object varInfo is => merges object varInfo (is ▸ mem)
      constructor
      · intro ops all
        obtain ⟨s, ok, -⟩ := runs ops all
        exact ⟨s, ok⟩
      · refine ⟨value scan, fun ops object varInfo s v all mem ok set => ?_⟩
        obtain ⟨s₁, first, last⟩ := run_concat.mp ok
        obtain ⟨s₁', first', sound⟩ := runs ops all
        obtain rfl := Except.ok.inj (first.symm.trans first')
        obtain ⟨s', ok', -, values⟩ := sound.setVarInfo (merges object varInfo mem)
        obtain rfl := Except.ok.inj (last.symm.trans ok')
        exact values v set
    · have runs := run_induct scan T Untouched ⟨rfl, rfl⟩
        fun s op untouched mem => by
          obtain ⟨s', ok, untouched', -⟩ := untouched.step (unmerged op mem)
          exact ⟨s', ok, untouched'⟩
      constructor
      · intro ops all
        obtain ⟨s, ok, -⟩ := runs ops all
        exact ⟨s, ok⟩
      · refine ⟨value scan, fun ops object varInfo s v all mem ok set => ?_⟩
        obtain ⟨s₁, first, last⟩ := run_concat.mp ok
        obtain ⟨s₁', first', untouched⟩ := runs ops all
        obtain rfl := Except.ok.inj (first.symm.trans first')
        obtain ⟨s', ok', -, none⟩ := untouched.step (unmerged _ mem)
        obtain rfl := Except.ok.inj (last.symm.trans ok')
        exact absurd (set.symm.trans (none object varInfo rfl)) nofun

/-- A variable of two attributes. -/
def nameAndKind : CString := .ofString "<Variable name=\"a\" kind=\"b\"/>"

/-- A variable of one. -/
def nameOnly : CString := .ofString "<Variable name=\"c\"/>"

/-- The tokens of the two. -/
def scanned (varInfo : CString) : List Token :=
  if varInfo = nameAndKind then
    [.OPEN_VAR_SY, .keyword .name, .EQUAL_SY, .STRING (.ofString "a"), .keyword .kind, .EQUAL_SY,
      .STRING (.ofString "b"), .SLASHCLOSE_SY]
  else
    [.OPEN_VAR_SY, .keyword .name, .EQUAL_SY, .STRING (.ofString "c"), .SLASHCLOSE_SY]

/-- The second text is accepted, and its parse reads the variable of the first one, which is
freed. -/
theorem nameOnly_reads_freed : (readVariable (scanned nameOnly)).accepted = true ∧
    ¬ Checked.Safe (run scanned [.setVarInfo 0 nameAndKind, .setVarInfo 0 nameOnly]) ∧
    ¬ HistoryFree scanned {.setVarInfo 0 nameAndKind, .setVarInfo 0 nameOnly} := by
  have accepted : (readVariable (scanned nameOnly)).accepted = true := by
    decide +kernel
  have faults : ¬ Checked.Safe
      (run scanned [.setVarInfo 0 nameAndKind, .setVarInfo 0 nameOnly]) := by
    rintro ⟨s, ok⟩
    cases ok
  refine ⟨accepted, faults, fun free => faults (free.1 _ ?_)⟩
  simp

end Sdm.VarInfo
