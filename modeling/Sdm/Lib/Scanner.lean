import Mathlib.Data.Nat.Notation
import Mathlib.Logic.Basic

/-!
Loops over a text whose rounds go through the same stages.

A stage may see something where the scan stands. What it sees moves the scan, and changes the
state of the loop; either may fault. The moves do not depend on that state, so that a run is a fold
over what is seen.

* `run_eq`: the run, by what the scan meets and how it ends.
* `scan_ends`: a round for each character is enough.
* `met_iff`: when no move faults.
* `run_ends_iff`: when the run comes to its end.
-/

namespace Sdm.Lib

/-- Where a scan goes on: at the next stage, in the next round, or nowhere. -/
inductive Onward (α : Type) where
  | go (rest : List α)
  | skip (rest : List α)
  | leave

/-- The text of the next stage or round has the property. -/
def Onward.All {α : Type} (P : List α → Prop) : Onward α → Prop
  | go rest => P rest
  | skip rest => P rest
  | leave => True

/-- The stages of a round, and what becomes of what they see. -/
structure Scanner (α ε φ : Type) where
  stages : List (List α → Option ε)
  moves : ε → Except φ (Onward α)

/-- What is behind a round: the text that it leaves, or the end of the scan. -/
inductive Behind (α ε φ : Type) where
  | onward (rest : List α)
  | left (e : ε)
  | faulted (e : ε) (fault : φ)

/-- How a scan ends: behind the text, by leaving it, by a fault, or without enough rounds. -/
inductive Ending (ε φ : Type) where
  | finished
  | left (e : ε)
  | faulted (e : ε) (fault : φ)
  | unfinished

/-- What a round comes to with a state: there is no text behind it where the loop is left. -/
def Behind.outcome {α ε φ σ : Type} (s : σ) : Behind α ε φ → Except φ (σ × Option (List α))
  | onward rest => .ok (s, some rest)
  | left _ => .ok (s, none)
  | faulted _ fault => .error fault

/-- What a run comes to with a state: there is none where the rounds were not enough. -/
def Ending.outcome {ε φ σ : Type} (s : σ) : Ending ε φ → Except φ (Option σ)
  | finished => .ok (some s)
  | left _ => .ok (some s)
  | faulted _ fault => .error fault
  | unfinished => .ok none

/-- What was seen last, where it ended the scan. -/
def Ending.last {ε φ : Type} : Ending ε φ → List ε
  | finished => []
  | left e => [e]
  | faulted e _ => [e]
  | unfinished => []

namespace Scanner

variable {α ε φ σ : Type} (scanner : Scanner α ε φ) (take : σ → ε → Except φ σ)

/-! ### The run -/

/-- A round, from one of its stages on. -/
def runStages : List (List α → Option ε) → σ → List α → Except φ (σ × Option (List α))
  | [], s, t => .ok (s, some t)
  | sees :: later, s, t =>
      match sees t with
      | none => runStages later s t
      | some e =>
          match scanner.moves e with
          | .error fault => .error fault
          | .ok .leave => .ok (s, none)
          | .ok (.skip rest) => do
              let s ← take s e
              .ok (s, some rest)
          | .ok (.go rest) => do
              let s ← take s e
              runStages later s rest

/-- The loop, for as many rounds. -/
def run : Nat → σ → List α → Except φ (Option σ)
  | _, s, [] => .ok (some s)
  | 0, _, _ :: _ => .ok none
  | rounds + 1, s, c :: t =>
      match scanner.runStages take scanner.stages s (c :: t) with
      | .error fault => .error fault
      | .ok (s, none) => .ok (some s)
      | .ok (s, some rest) => run rounds s (rest.drop 1)

/-! ### What is seen -/

/-- What a round takes of what it sees, and what is behind it. -/
def scanStages : List (List α → Option ε) → List α → List ε × Behind α ε φ
  | [], t => ([], .onward t)
  | sees :: later, t =>
      match sees t with
      | none => scanStages later t
      | some e =>
          match scanner.moves e with
          | .error fault => ([], .faulted e fault)
          | .ok .leave => ([], .left e)
          | .ok (.skip rest) => ([e], .onward rest)
          | .ok (.go rest) => (e :: (scanStages later rest).1, (scanStages later rest).2)

def scan : Nat → List α → List ε × Ending ε φ
  | _, [] => ([], .finished)
  | 0, _ :: _ => ([], .unfinished)
  | rounds + 1, c :: t =>
      let round := scanner.scanStages scanner.stages (c :: t)
      match round.2 with
      | .onward rest => (round.1 ++ (scan rounds (rest.drop 1)).1, (scan rounds (rest.drop 1)).2)
      | .left e => (round.1, .left e)
      | .faulted e fault => (round.1, .faulted e fault)

/-- What is seen on the way, the last one included that leaves the loop or faults. -/
def met (rounds : Nat) (t : List α) : List ε :=
  (scanner.scan rounds t).1 ++ (scanner.scan rounds t).2.last

/-- What is seen has an end of the text behind it, and moves the scan to an end of that. -/
structure Suffixes (behind : ε → List α) : Prop where
  sees : ∀ see ∈ scanner.stages, ∀ t e, see t = some e → behind e <:+ t
  moves : ∀ e onward, scanner.moves e = .ok onward → onward.All (· <:+ behind e)

variable {scanner take} {s : σ} {t rest : List α} {rounds : Nat} {e : ε} {fault : φ}
  {stages : List (List α → Option ε)} {behind : ε → List α}

theorem runStages_eq : scanner.runStages take stages s t =
    (scanner.scanStages stages t).1.foldlM take s >>=
      fun s => (scanner.scanStages stages t).2.outcome s := by
  induction stages generalizing s t with
  | nil => rfl
  | cons sees later ih =>
      cases seen : sees t with
      | none =>
          simp only [runStages, scanStages, seen]
          exact ih
      | some e =>
          rcases moved : scanner.moves e with fault | rest | rest | _
          · simp only [runStages, scanStages, seen, moved]
            rfl
          · simp only [runStages, scanStages, seen, moved, List.foldlM_cons, bind_assoc, ih]
          · simp only [runStages, scanStages, seen, moved, List.foldlM_cons, List.foldlM_nil,
              bind_pure]
            rfl
          · simp only [runStages, scanStages, seen, moved]
            rfl

/-- **A run is a fold** over what the scan takes. -/
theorem run_eq : scanner.run take rounds s t =
    (scanner.scan rounds t).1.foldlM take s >>= fun s => (scanner.scan rounds t).2.outcome s := by
  induction rounds generalizing s t with
  | zero => cases t <;> rfl
  | succ rounds ih =>
      cases t with
      | nil => rfl
      | cons c t =>
          rw [run, scan, runStages_eq]
          generalize (scanner.scanStages scanner.stages (c :: t)).1 = seen
          rcases (scanner.scanStages scanner.stages (c :: t)).2 with rest | e | ⟨e, fault⟩
          · simp only [List.foldlM_append, bind_assoc]
            cases seen.foldlM take s with
            | error fault => rfl
            | ok s => exact ih
          · cases seen.foldlM take s <;> rfl
          · cases seen.foldlM take s <;> rfl

theorem suffix_scanStages (suffixes : scanner.Suffixes behind)
    (within : ∀ see ∈ stages, see ∈ scanner.stages) :
    (∀ e ∈ (scanner.scanStages stages t).1, behind e <:+ t) ∧
      ∀ rest, (scanner.scanStages stages t).2 = .onward rest → rest <:+ t := by
  induction stages generalizing t with
  | nil =>
      refine ⟨fun e mem => absurd mem List.not_mem_nil, fun rest onward => ?_⟩
      cases onward
      exact List.suffix_refl _
  | cons sees later ih =>
      obtain ⟨first, within⟩ := List.forall_mem_cons.mp within
      cases seen : sees t with
      | none =>
          simp only [scanStages, seen]
          exact ih within
      | some e =>
          have here := suffixes.sees sees first t e seen
          rcases moved : scanner.moves e with fault | rest | rest | _
          · simp [scanStages, seen, moved]
          · have there : rest <:+ t := (suffixes.moves e _ moved).trans here
            obtain ⟨taken, onward⟩ := ih (t := rest) within
            simp only [scanStages, seen, moved]
            exact ⟨List.forall_mem_cons.mpr ⟨here, fun e mem => (taken e mem).trans there⟩,
              fun rest' isOnward => (onward rest' isOnward).trans there⟩
          · have there : rest <:+ t := (suffixes.moves e _ moved).trans here
            simp only [scanStages, seen, moved, Behind.onward.injEq, forall_eq']
            exact ⟨List.forall_mem_singleton.mpr here, there⟩
          · simp [scanStages, seen, moved]

theorem suffix_scan (suffixes : scanner.Suffixes behind) :
    ∀ e ∈ (scanner.scan rounds t).1, behind e <:+ t := by
  induction rounds generalizing t with
  | zero => cases t <;> exact fun e mem => absurd mem List.not_mem_nil
  | succ rounds ih =>
      cases t with
      | nil => exact fun e mem => absurd mem List.not_mem_nil
      | cons c t =>
          obtain ⟨taken, onward⟩ := suffix_scanStages (t := c :: t) suffixes fun _ mem => mem
          rw [scan]
          rcases isBehind : (scanner.scanStages scanner.stages (c :: t)).2 with
            rest | e | ⟨e, fault⟩
          · refine List.forall_mem_append.mpr ⟨taken, fun e mem => ?_⟩
            exact ((ih e mem).trans (List.drop_suffix 1 rest)).trans (onward rest isBehind)
          · exact taken
          · exact taken

/-- **A round for each character** is enough. -/
theorem scan_ends (suffixes : scanner.Suffixes behind) (enough : t.length ≤ rounds) :
    (scanner.scan rounds t).2 ≠ .unfinished := by
  induction rounds generalizing t with
  | zero =>
      obtain rfl := List.eq_nil_of_length_eq_zero (Nat.le_zero.mp enough)
      exact nofun
  | succ rounds ih =>
      cases t with
      | nil => exact nofun
      | cons c t =>
          obtain ⟨-, onward⟩ := suffix_scanStages (t := c :: t) suffixes fun _ mem => mem
          rw [scan]
          rcases isBehind : (scanner.scanStages scanner.stages (c :: t)).2 with
            rest | e | ⟨e, fault⟩
          · apply ih
            rw [List.length_drop]
            exact Nat.sub_le_of_le_add (Nat.le_trans (onward rest isBehind).length_le enough)
          · exact nofun
          · exact nofun

/-- What a round takes moves the scan, and so does what leaves it. -/
theorem moves_scanStages (scanner : Scanner α ε φ) (stages : List (List α → Option ε))
    (t : List α) : (∀ e ∈ (scanner.scanStages stages t).1, (scanner.moves e).isOk) ∧
    match (scanner.scanStages stages t).2 with
    | .onward _ => True
    | .left e => (scanner.moves e).isOk
    | .faulted e fault => scanner.moves e = .error fault := by
  induction stages generalizing t with
  | nil => exact ⟨fun e mem => absurd mem List.not_mem_nil, trivial⟩
  | cons sees later ih =>
      cases seen : sees t with
      | none =>
          simp only [scanStages, seen]
          exact ih t
      | some e =>
          have moved_ok {onward : Onward α} (moved : scanner.moves e = .ok onward) :
              (scanner.moves e).isOk := by
            rw [moved]
            rfl
          rcases moved : scanner.moves e with fault | rest | rest | _
          · simp only [scanStages, seen, moved]
            exact ⟨fun e mem => absurd mem List.not_mem_nil, trivial⟩
          · simp only [scanStages, seen, moved]
            exact ⟨List.forall_mem_cons.mpr ⟨moved_ok moved, (ih rest).1⟩, (ih rest).2⟩
          · simp only [scanStages, seen, moved]
            exact ⟨List.forall_mem_singleton.mpr (moved_ok moved), trivial⟩
          · simp only [scanStages, seen, moved]
            exact ⟨fun e mem => absurd mem List.not_mem_nil, rfl⟩

theorem moves_scan (scanner : Scanner α ε φ) (rounds : Nat) (t : List α) :
    (∀ e ∈ (scanner.scan rounds t).1, (scanner.moves e).isOk) ∧
    match (scanner.scan rounds t).2 with
    | .finished | .unfinished => True
    | .left e => (scanner.moves e).isOk
    | .faulted e fault => scanner.moves e = .error fault := by
  induction rounds generalizing t with
  | zero => cases t <;> exact ⟨fun e mem => absurd mem List.not_mem_nil, trivial⟩
  | succ rounds ih =>
      cases t with
      | nil => exact ⟨fun e mem => absurd mem List.not_mem_nil, trivial⟩
      | cons c t =>
          obtain ⟨taken, last⟩ := moves_scanStages scanner scanner.stages (c :: t)
          rw [scan]
          rcases isBehind : (scanner.scanStages scanner.stages (c :: t)).2 with
            rest | e | ⟨e, fault⟩
          · exact ⟨List.forall_mem_append.mpr ⟨taken, (ih _).1⟩, (ih _).2⟩
          · rw [isBehind] at last
            exact ⟨taken, last⟩
          · rw [isBehind] at last
            exact ⟨taken, last⟩

/-- **No move faults** exactly where all that is met can be moved past. -/
theorem met_iff : (∀ e ∈ scanner.met rounds t, (scanner.moves e).isOk) ↔
    ∀ e fault, (scanner.scan rounds t).2 ≠ .faulted e fault := by
  obtain ⟨taken, last⟩ := moves_scan scanner rounds t
  rw [met, List.forall_mem_append]
  cases isEnding : (scanner.scan rounds t).2 with
  | finished => exact iff_of_true ⟨taken, fun e mem => absurd mem List.not_mem_nil⟩ nofun
  | unfinished => exact iff_of_true ⟨taken, fun e mem => absurd mem List.not_mem_nil⟩ nofun
  | left e =>
      rw [isEnding] at last
      exact iff_of_true ⟨taken, List.forall_mem_singleton.mpr last⟩ nofun
  | faulted e fault =>
      rw [isEnding] at last
      refine iff_of_false (fun all => ?_) fun all => all e fault rfl
      have moved := List.forall_mem_singleton.mp all.2
      rw [last] at moved
      cases moved

/-- **A run comes to its end** exactly where all that is met can be moved past, and no change of the
state faults. -/
theorem run_ends_iff (suffixes : scanner.Suffixes behind) (enough : t.length ≤ rounds) :
    (∃ s', scanner.run take rounds s t = .ok (some s')) ↔
      (∀ e ∈ scanner.met rounds t, (scanner.moves e).isOk) ∧
        ∃ s', (scanner.scan rounds t).1.foldlM take s = .ok s' := by
  rw [met_iff, run_eq]
  have ends := scan_ends suffixes enough
  cases folded : (scanner.scan rounds t).1.foldlM take s with
  | error fault =>
      refine iff_of_false ?_ ?_
      · rintro ⟨_, ran⟩
        cases ran
      · rintro ⟨-, _, done⟩
        cases done
  | ok after =>
      rw [and_iff_left ⟨after, rfl⟩]
      cases isEnding : (scanner.scan rounds t).2 with
      | finished => exact iff_of_true ⟨_, rfl⟩ nofun
      | unfinished => exact absurd isEnding ends
      | left e => exact iff_of_true ⟨_, rfl⟩ nofun
      | faulted e fault =>
          refine iff_of_false ?_ fun all => all e fault rfl
          rintro ⟨_, ran⟩
          cases ran

theorem eq_of_run {s' : σ} (ran : scanner.run take rounds s t = .ok (some s')) :
    (scanner.scan rounds t).1.foldlM take s = .ok s' := by
  rw [run_eq] at ran
  cases folded : (scanner.scan rounds t).1.foldlM take s with
  | error fault =>
      rw [folded] at ran
      cases ran
  | ok after =>
      rw [folded] at ran
      cases isEnding : (scanner.scan rounds t).2 with
      | finished =>
          rw [isEnding] at ran
          cases ran
          rfl
      | unfinished =>
          rw [isEnding] at ran
          cases ran
      | left e =>
          rw [isEnding] at ran
          cases ran
          rfl
      | faulted e fault =>
          rw [isEnding] at ran
          cases ran

end Scanner

end Sdm.Lib
