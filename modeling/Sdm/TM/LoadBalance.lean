import Sdm.TM.TaskManager

/-!
Which process manager the `Scheduler` chooses for a task without a preferred node.

The `Scheduler` asks for a process manager without tasks, then for one with at most one task, and so
on. The first search starts where the last one stopped, and may miss a process manager; a search
that fails makes the next one start at the front, so all others go over the whole list.

* `balanced_from_front`: searches over the whole list.
* `findAnyEligible_balanced`: a process manager is found when there is one, and how many tasks it
  has.
-/

namespace Sdm.PMRecordList

variable {l : PMRecordList} {TaskResources : SDMTaskResources} {r : PmRecord} {n : Int}
  {i j : Fin MAX_PM}

/-- The task can run on the process manager. -/
structure Fits (TaskResources : SDMTaskResources) (r : PmRecord) : Prop where
  in_use : r.in_use = true
  arch : r.resources.GetArch = TaskResources.GetArch
  os : r.resources.GetOs = TaskResources.GetOs
  mem : TaskResources.GetMem ≤ r.resources.GetMem

/-! ### One search -/

/-- The architecture and the operating system are compared at once. -/
theorem and_archOs_eq_iff {a b : UInt16} :
    a &&& (ARCHMASK ||| OSMASK) = b &&& (ARCHMASK ||| OSMASK) ↔
      a &&& ARCHMASK = b &&& ARCHMASK ∧ a &&& OSMASK = b &&& OSMASK := by
  constructor
  · intro same
    have arch : (ARCHMASK ||| OSMASK) &&& ARCHMASK = ARCHMASK := by decide
    have os : (ARCHMASK ||| OSMASK) &&& OSMASK = OSMASK := by decide
    constructor
    · calc a &&& ARCHMASK = a &&& (ARCHMASK ||| OSMASK) &&& ARCHMASK := by
            rw [UInt16.and_assoc, arch]
        _ = b &&& (ARCHMASK ||| OSMASK) &&& ARCHMASK := by rw [same]
        _ = b &&& ARCHMASK := by rw [UInt16.and_assoc, arch]
    · calc a &&& OSMASK = a &&& (ARCHMASK ||| OSMASK) &&& OSMASK := by
            rw [UInt16.and_assoc, os]
        _ = b &&& (ARCHMASK ||| OSMASK) &&& OSMASK := by rw [same]
        _ = b &&& OSMASK := by rw [UInt16.and_assoc, os]
  · rintro ⟨arch, os⟩
    have split (c : UInt16) : c &&& (ARCHMASK ||| OSMASK) = c &&& ARCHMASK ||| c &&& OSMASK :=
      UInt16.toBitVec_inj.mp BitVec.and_or_distrib_left
    rw [split, split, arch, os]

theorem eligible_iff : eligible n TaskResources r = true ↔
    Fits TaskResources r ∧ r.tasks.toInt ≤ n := by
  have archOs (a : SDMTaskResources) : a.GetIgnorePmId &&& (ARCHMASK ||| OSMASK) =
      a.m_usResources &&& (ARCHMASK ||| OSMASK) := by
    rw [SDMTaskResources.GetIgnorePmId, UInt16.and_assoc]
    rfl
  have mem (a : SDMTaskResources) : a.GetIgnorePmId &&& MEMMASK = a.GetMem := by
    rw [SDMTaskResources.GetIgnorePmId, UInt16.and_assoc]
    rfl
  simp only [eligible, archOs, mem, Bool.and_eq_true, beq_iff_eq, decide_eq_true_eq,
    and_archOs_eq_iff]
  constructor
  · rintro ⟨⟨⟨used, few⟩, arch, os⟩, enough⟩
    exact ⟨⟨used, arch, os, enough⟩, few⟩
  · rintro ⟨fits, few⟩
    exact ⟨⟨⟨fits.in_use, few⟩, fits.arch, fits.os⟩, fits.mem⟩

/-- A search that finds one. -/
theorem eligibleSlot_eq_some (found : l.eligibleSlot n TaskResources = some i) :
    Fits TaskResources (l.pmList i) ∧ (l.pmList i).tasks.toInt ≤ n := by
  rw [eligibleSlot] at found
  have accepted := Fin.eq_true_of_find?_eq_some found
  rw [Bool.and_eq_true] at accepted
  exact eligible_iff.mp accepted.2

/-- A search that finds none has none from its start on. -/
theorem eligibleSlot_eq_none (missed : l.eligibleSlot n TaskResources = none)
    (start : l.schedulerInfoIndex ≤ j) :
    ¬ (Fits TaskResources (l.pmList j) ∧ (l.pmList j).tasks.toInt ≤ n) := by
  rw [eligibleSlot] at missed
  have refused := Fin.eq_false_of_find?_eq_none missed j
  rw [decide_eq_true start, Bool.true_and] at refused
  rw [← eligible_iff, refused]
  exact Bool.false_ne_true

/-! ### All searches -/

/-- **A balanced choice** among process managers with at most `most` tasks: one is found when there
is one, and it has at most one task more than any other that the task can run on. A count below 0
stands for no task. -/
structure Balanced (l : PMRecordList) (TaskResources : SDMTaskResources) (most : Int)
    (chosen : Option PmRecord) : Prop where
  isSome_iff : chosen.isSome ↔
    ∃ i, Fits TaskResources (l.pmList i) ∧ (l.pmList i).tasks.toInt ≤ most
  fits : ∀ r, chosen = some r → Fits TaskResources r ∧ r.tasks.toInt ≤ most
  least : ∀ r, chosen = some r → ∀ j, Fits TaskResources (l.pmList j) →
    r.tasks.toInt ≤ max (l.pmList j).tasks.toInt 0 + 1

/-- The choice of a search that finds one. -/
theorem balanced_of_found {most : Int} (found : l.eligibleSlot n TaskResources = some i)
    (within : n ≤ most)
    (above : ∀ j, Fits TaskResources (l.pmList j) → n ≤ max (l.pmList j).tasks.toInt 0 + 1) :
    Balanced l TaskResources most (some (l.pmList i)) := by
  obtain ⟨fits, few⟩ := eligibleSlot_eq_some found
  constructor
  · exact iff_of_true rfl ⟨i, fits, few.trans within⟩
  · rintro r ⟨⟩
    exact ⟨fits, few.trans within⟩
  · rintro r ⟨⟩ j other
    exact few.trans (above j other)

theorem findAnyEligible_of_found {jobs j : Nat} (found : l.eligibleSlot j TaskResources = some i) :
    (findAnyEligible TaskResources (jobs + 1) j l).1 = some (l.pmList i) := by
  rw [findAnyEligible, FindEligiblePM, found]

theorem findAnyEligible_of_missed {jobs j : Nat} (missed : l.eligibleSlot j TaskResources = none) :
    findAnyEligible TaskResources (jobs + 1) j l =
      findAnyEligible TaskResources jobs (j + 1) { l with schedulerInfoIndex := 0 } := by
  rw [findAnyEligible, FindEligiblePM, missed]

/-- Searches that all go over the whole list. -/
theorem balanced_from_front {j : Nat} (jobs : Nat) (front : l.schedulerInfoIndex = 0)
    (above : ∀ k, Fits TaskResources (l.pmList k) →
      (j : Int) ≤ max (l.pmList k).tasks.toInt 0 + 1) :
    Balanced l TaskResources (j + jobs) (findAnyEligible TaskResources (jobs + 1) j l).1 := by
  induction jobs generalizing j l with
  | zero =>
      cases search : l.eligibleSlot j TaskResources with
      | some i =>
          rw [findAnyEligible_of_found search]
          exact balanced_of_found search (by omega) above
      | none =>
          rw [findAnyEligible_of_missed search]
          refine ⟨iff_of_false Bool.false_ne_true ?_, nofun, nofun⟩
          rintro ⟨k, fits, few⟩
          exact eligibleSlot_eq_none search (front ▸ Nat.zero_le k) ⟨fits, by simpa using few⟩
  | succ jobs ih =>
      cases search : l.eligibleSlot j TaskResources with
      | some i =>
          rw [findAnyEligible_of_found search]
          exact balanced_of_found search (by omega) above
      | none =>
          rw [findAnyEligible_of_missed search]
          have more : ∀ k, Fits TaskResources (l.pmList k) →
            (j : Int) < (l.pmList k).tasks.toInt := by
            intro k fits
            by_contra few
            exact eligibleSlot_eq_none search (front ▸ Nat.zero_le k) ⟨fits, Int.not_lt.mp few⟩
          have rest := ih (l := { l with schedulerInfoIndex := 0 }) (j := j + 1) rfl
            fun k fits => by
              have beyond := more k fits
              dsimp only
              omega
          have same : ((j + 1 : Nat) : Int) + jobs = j + (jobs + 1 : Nat) := by omega
          rw [same] at rest
          exact ⟨rest.isSome_iff, rest.fits, rest.least⟩

/-- **The choice of the `Scheduler`** is balanced, wherever the last search stopped. -/
theorem findAnyEligible_balanced (l : PMRecordList) (TaskResources : SDMTaskResources) :
    Balanced l TaskResources (MAX_JOBS - 1) (findAnyEligible TaskResources MAX_JOBS 0 l).1 := by
  cases search : l.eligibleSlot (0 : Nat) TaskResources with
  | some i =>
      rw [MAX_JOBS, findAnyEligible_of_found search]
      exact balanced_of_found search (by decide) fun j _ => by omega
  | none =>
      rw [MAX_JOBS, findAnyEligible_of_missed search]
      have rest : Balanced { l with schedulerInfoIndex := 0 } TaskResources _ _ :=
        balanced_from_front (j := 1) 48 rfl fun k _ => by omega
      exact ⟨rest.isSome_iff, rest.fits, rest.least⟩

/-- Two process managers. The first was chosen, and its task was reported finished three times. -/
def finishedTwiceMore : PMRecordList :=
  let resources : SDMTaskResources := ⟨SDM_INTEL ||| SDM_MEM64 ||| SDM_LINUX26⟩
  let registered := (RegisterPM (RegisterPM .new ⟨0, 1, 0⟩ resources).2 ⟨0, 2, 0⟩ resources).2
  let started := ((registered.FindEligiblePM 0 resources).2.TaskHasStarted ⟨0, 1, 0⟩).2
  (((started.TaskFinished ⟨0, 1, 0⟩).2.TaskFinished ⟨0, 1, 0⟩).2.TaskFinished ⟨0, 1, 0⟩).2

/-- A count below 0 is not the least that the searches look for. -/
theorem not_findAnyEligible_least :
    ¬ ∀ (l : PMRecordList) (TaskResources : SDMTaskResources),
      TaskResources.IsPreferredPmIdSet = false →
        ∀ r, (findAnyEligible TaskResources MAX_JOBS 0 l).1 = some r →
          ∀ j, Fits TaskResources (l.pmList j) → (l.pmList j).tasks.toInt ≤ MAX_JOBS - 1 →
            r.tasks.toInt ≤ (l.pmList j).tasks.toInt + 1 := by
  intro all
  let resources : SDMTaskResources := ⟨SDM_INTEL ||| SDM_MEM64 ||| SDM_LINUX26⟩
  let first : Fin MAX_PM := ⟨0, by decide⟩
  let second : Fin MAX_PM := ⟨1, by decide⟩
  have chosen : (findAnyEligible resources MAX_JOBS 0 finishedTwiceMore).1 =
      some (finishedTwiceMore.pmList second) := by
    decide +kernel
  have accepted : eligible (MAX_JOBS - 1) resources (finishedTwiceMore.pmList first) = true := by
    decide +kernel
  obtain ⟨fits, few⟩ := eligible_iff.mp accepted
  have least := all finishedTwiceMore resources (by decide) _ chosen first fits few
  revert least
  decide +kernel

end Sdm.PMRecordList
