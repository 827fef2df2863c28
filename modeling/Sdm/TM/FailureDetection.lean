import Mathlib.Order.Interval.Finset.Fin
import Sdm.Lib.Machine
import Sdm.TM.PMRecordList

/-!
Failure detection: the miss counters of the process managers against the heartbeats that were
really sent.

The history of a slot counts the heartbeats sent to its process manager since it registered or
last answered. The counter `HeartbeatStatus` agrees with it as long as every process manager
registers in a slot whose counter is zero.

* `failures_detected`: then `RemoveAnyFailed` removes only a process manager that left two
  heartbeats unanswered, and removes each of these within the next `MAX_PM` calls.
* `misjudged_of_stale_counter`: a process manager that registers in a slot with another
  counter is misjudged by the second heartbeat round.
-/

namespace Sdm

open Sdm.Lib

namespace PMRecordList

/-- The calls of the failure detection. -/
inductive HeartbeatCall where
  | RegisterPM (PMAddress : SDMComponentID) (Resources : SDMTaskResources)
  | SendHeartbeatToAll
  | HeartbeatReceived (PMAddress : SDMComponentID)
  | RemoveAnyFailed

/-- One call. -/
def call (l : PMRecordList) : HeartbeatCall → PMRecordList
  | .RegisterPM PMAddress Resources => (l.RegisterPM PMAddress Resources).2
  | .SendHeartbeatToAll => l.SendHeartbeatToAll.2
  | .HeartbeatReceived PMAddress => l.HeartbeatReceived PMAddress
  | .RemoveAnyFailed => l.RemoveAnyFailed.2

/-- Sequences of calls. The output of a call is the record that it removed. -/
def heartbeatCalls : Machine PMRecordList HeartbeatCall (Option PmRecord) where
  step l c :=
    some (l.call c, match c with
      | .RemoveAnyFailed => l.RemoveAnyFailed.1
      | _ => none)

/-- The heartbeats sent to the process manager of each slot since it registered or last
answered. -/
def countUnanswered (unanswered : Fin MAX_PM → Nat) (l : PMRecordList) :
    HeartbeatCall → Fin MAX_PM → Nat
  | .RegisterPM _ _ =>
      match l.freeSlot with
      | some i => Function.update unanswered i 0
      | none => unanswered
  | .SendHeartbeatToAll => fun i =>
      if (l.pmList i).in_use then unanswered i + 1 else unanswered i
  | .HeartbeatReceived PMAddress => fun i => if l.Holds PMAddress i then 0 else unanswered i
  | .RemoveAnyFailed => unanswered

/-- Sequences of calls with the history of each slot. -/
def countedCalls : Machine (PMRecordList × (Fin MAX_PM → Nat)) HeartbeatCall (Option PmRecord) :=
  heartbeatCalls.withGhost fun unanswered l c _ => countUnanswered unanswered l c

/-- The process manager registers in a slot whose counter is zero, and no counter is at the
largest `int` when it is incremented. -/
def CleanCounters (l : PMRecordList) : HeartbeatCall → Prop
  | .RegisterPM _ _ => ∀ i, l.freeSlot = some i → l.HeartbeatStatus i = 0
  | .SendHeartbeatToAll => ∀ i, (l.pmList i).in_use = true → l.HeartbeatStatus i < Int32.maxValue
  | .HeartbeatReceived _ => True
  | .RemoveAnyFailed => True

instance (l : PMRecordList) : (c : HeartbeatCall) → Decidable (l.CleanCounters c)
  | .RegisterPM _ _ => inferInstanceAs (Decidable (∀ i, l.freeSlot = some i → _))
  | .SendHeartbeatToAll => inferInstanceAs (Decidable (∀ i, (l.pmList i).in_use = true → _))
  | .HeartbeatReceived _ => instDecidableTrue
  | .RemoveAnyFailed => instDecidableTrue

/-- The counter of every slot in use is the number of its unanswered heartbeats. -/
def CountersAgree (l : PMRecordList) (unanswered : Fin MAX_PM → Nat) : Prop :=
  ∀ i, (l.pmList i).in_use = true → (l.HeartbeatStatus i).toInt = unanswered i

section Steps

variable {l : PMRecordList} {unanswered : Fin MAX_PM → Nat} {c : HeartbeatCall} {i : Fin MAX_PM}

/-- An increment below the largest `int` counts on. -/
theorem toInt_add_one {status : Int32} (room : status < Int32.maxValue) :
    (status + 1).toInt = status.toInt + 1 := by
  have low := Int32.le_toInt status
  have high := Int32.lt_iff_toInt_lt.mp room
  have top : Int32.maxValue.toInt = 2147483647 := rfl
  rw [top] at high
  rw [Int32.toInt_add]
  show (status.toInt + 1).bmod (2 ^ 32) = status.toInt + 1
  exact Int.bmod_eq_of_le (by omega) (by omega)

/-- One clean call keeps the counters and the history in agreement. -/
theorem CountersAgree.call (agree : l.CountersAgree unanswered) (clean : l.CleanCounters c) :
    (l.call c).CountersAgree (countUnanswered unanswered l c) := by
  intro i used
  cases c with
  | RegisterPM PMAddress Resources =>
      cases free : l.freeSlot with
      | none =>
          rw [PMRecordList.call, registerPM_of_full free] at used ⊢
          rw [countUnanswered, free]
          exact agree i used
      | some j =>
          rw [PMRecordList.call, registerPM_of_free free] at used ⊢
          rw [countUnanswered, free]
          dsimp only at used ⊢
          rw [modify_HeartbeatStatus]
          by_cases same : i = j
          · subst same
            rw [clean i free, Function.update_self]
            rfl
          · rw [modify_pmList_of_ne same] at used
            rw [Function.update_of_ne same]
            exact agree i used
  | SendHeartbeatToAll =>
      have before : (l.pmList i).in_use = true := used
      have status : (l.call .SendHeartbeatToAll).HeartbeatStatus i = l.HeartbeatStatus i + 1 :=
        if_pos before
      have sent : countUnanswered unanswered l .SendHeartbeatToAll i = unanswered i + 1 :=
        if_pos before
      rw [status, sent, toInt_add_one (clean i before), agree i before]
      rfl
  | HeartbeatReceived PMAddress =>
      have before : (l.pmList i).in_use = true := used
      by_cases answered : l.Holds PMAddress i = true
      · have status : (l.call (.HeartbeatReceived PMAddress)).HeartbeatStatus i = 0 :=
          if_pos answered
        have sent : countUnanswered unanswered l (.HeartbeatReceived PMAddress) i = 0 :=
          if_pos answered
        rw [status, sent]
        rfl
      · have status : (l.call (.HeartbeatReceived PMAddress)).HeartbeatStatus i =
            l.HeartbeatStatus i := if_neg answered
        have sent : countUnanswered unanswered l (.HeartbeatReceived PMAddress) i =
            unanswered i := if_neg answered
        rw [status, sent]
        exact agree i before
  | RemoveAnyFailed =>
      cases failed : l.failedSlot with
      | none =>
          rw [PMRecordList.call, removeAnyFailed_of_none failed] at used ⊢
          exact agree i used
      | some j =>
          rw [PMRecordList.call, removeAnyFailed_of_failed failed] at used ⊢
          dsimp only at used ⊢
          by_cases same : i = j
          · subst same
            rw [modify_pmList_self] at used
            cases used
          · rw [modify_pmList_of_ne same] at used
            exact agree i used

/-! ### The calls of `RemoveAnyFailed` that follow -/

/-- The slots that `RemoveAnyFailed` is going to free. -/
def failedSlots (l : PMRecordList) : Finset (Fin MAX_PM) :=
  Finset.univ.filter fun i => (l.pmList i).in_use = true ∧ 2 ≤ l.HeartbeatStatus i

/-- `RemoveAnyFailed`, `n` times. -/
def removeAgain (n : Nat) (l : PMRecordList) : PMRecordList :=
  (fun l => l.RemoveAnyFailed.2)^[n] l

/-- `RemoveAnyFailed` frees the failed slot and no other. -/
theorem failedSlots_removeAnyFailed (failed : l.failedSlot = some i) :
    l.RemoveAnyFailed.2.failedSlots = l.failedSlots.erase i := by
  ext j
  rw [removeAnyFailed_of_failed failed, failedSlots, failedSlots, Finset.mem_erase,
    Finset.mem_filter, Finset.mem_filter]
  by_cases same : j = i
  · subst same
    simp
  · rw [modify_pmList_of_ne same, modify_HeartbeatStatus]
    simp [same]

/-- A slot that failed is freed once the failed slots before it are. -/
theorem exists_removed {n : Nat} (few : (l.failedSlots.filter (· < i)).card ≤ n)
    (failed : i ∈ l.failedSlots) : ∃ m ≤ n, (removeAgain m l).failedSlot = some i := by
  induction n generalizing l with
  | zero =>
      obtain ⟨used, missed⟩ := (Finset.mem_filter.mp failed).2
      obtain ⟨j, found⟩ := exists_failedSlot used missed
      refine ⟨0, le_refl 0, ?_⟩
      have before := failedSlot_le found used missed
      rcases lt_or_eq_of_le before with lt | rfl
      · have mem : j ∈ l.failedSlots.filter (· < i) :=
          Finset.mem_filter.mpr
            ⟨Finset.mem_filter.mpr ⟨Finset.mem_univ j, failedSlot_eq_some found⟩, lt⟩
        rw [Finset.card_eq_zero.mp (Nat.le_zero.mp few)] at mem
        cases mem
      · exact found
  | succ n ih =>
      obtain ⟨used, missed⟩ := (Finset.mem_filter.mp failed).2
      obtain ⟨j, found⟩ := exists_failedSlot used missed
      have before := failedSlot_le found used missed
      rcases lt_or_eq_of_le before with lt | rfl
      · have next := failedSlots_removeAnyFailed found
        have mem : j ∈ l.failedSlots.filter (· < i) :=
          Finset.mem_filter.mpr
            ⟨Finset.mem_filter.mpr ⟨Finset.mem_univ j, failedSlot_eq_some found⟩, lt⟩
        have fewer : (l.RemoveAnyFailed.2.failedSlots.filter (· < i)).card ≤ n := by
          rw [next, Finset.filter_erase, Finset.card_erase_of_mem mem]
          omega
        have still : i ∈ l.RemoveAnyFailed.2.failedSlots := by
          rw [next]
          exact Finset.mem_erase.mpr ⟨lt.ne', failed⟩
        obtain ⟨m, le, reached⟩ := ih fewer still
        exact ⟨m + 1, Nat.succ_le_succ le, reached⟩
      · exact ⟨0, Nat.zero_le _, found⟩

/-- Every failed slot is freed within `MAX_PM` calls. -/
theorem removed_of_failed (used : (l.pmList i).in_use = true)
    (missed : 2 ≤ l.HeartbeatStatus i) :
    ∃ n < MAX_PM, (removeAgain n l).failedSlot = some i := by
  have failed : i ∈ l.failedSlots :=
    Finset.mem_filter.mpr ⟨Finset.mem_univ i, used, missed⟩
  have few : (l.failedSlots.filter (· < i)).card ≤ i := by
    calc (l.failedSlots.filter (· < i)).card ≤ (Finset.Iio i).card :=
          Finset.card_le_card fun j mem => Finset.mem_Iio.mpr (Finset.mem_filter.mp mem).2
      _ = i := Fin.card_Iio i
  obtain ⟨n, le, reached⟩ := exists_removed few failed
  exact ⟨n, lt_of_le_of_lt le i.isLt, reached⟩

end Steps

/-! ### Judging the process managers -/

/-- `RemoveAnyFailed` removes only a process manager that left two heartbeats unanswered, and
removes each of these within the next `MAX_PM` calls. -/
def FailuresDetected (l : PMRecordList) (unanswered : Fin MAX_PM → Nat) : Prop :=
  (∀ i, (l.pmList i).in_use = true → (l.RemoveAnyFailed.2.pmList i).in_use = false →
    2 ≤ unanswered i) ∧
  ∀ i, (l.pmList i).in_use = true → 2 ≤ unanswered i →
    ∃ n < MAX_PM, (removeAgain n l).RemoveAnyFailed.1 = some (l.pmList i) ∧
      ((removeAgain n l).RemoveAnyFailed.2.pmList i).in_use = false

section Judgement

variable {l : PMRecordList} {unanswered : Fin MAX_PM → Nat} {i : Fin MAX_PM}

theorem removed_iff (used : (l.pmList i).in_use = true) :
    (l.RemoveAnyFailed.2.pmList i).in_use = false ↔ l.failedSlot = some i := by
  cases failed : l.failedSlot with
  | none =>
      rw [removeAnyFailed_of_none failed, used]
      simp
  | some j =>
      rw [removeAnyFailed_of_failed failed]
      by_cases same : i = j
      · subst same
        simp
      · rw [modify_pmList_of_ne same, used]
        simp [Ne.symm same]

/-- A call leaves a record alone unless it removes it. -/
theorem removeAnyFailed_pmList (other : l.failedSlot ≠ some i) :
    l.RemoveAnyFailed.2.pmList i = l.pmList i := by
  cases failed : l.failedSlot with
  | none => rw [removeAnyFailed_of_none failed]
  | some j =>
      have ne : i ≠ j := by
        rintro rfl
        exact other failed
      rw [removeAnyFailed_of_failed failed, modify_pmList_of_ne ne]

theorem removeAgain_succ (n : Nat) :
    removeAgain (n + 1) l = (removeAgain n l).RemoveAnyFailed.2 :=
  Function.iterate_succ_apply' _ n l

theorem removeAnyFailed_HeartbeatStatus :
    l.RemoveAnyFailed.2.HeartbeatStatus = l.HeartbeatStatus := by
  cases failed : l.failedSlot with
  | none => rw [removeAnyFailed_of_none failed]
  | some j => rw [removeAnyFailed_of_failed failed, modify_HeartbeatStatus]

theorem removeAgain_HeartbeatStatus (n : Nat) :
    (removeAgain n l).HeartbeatStatus = l.HeartbeatStatus := by
  induction n with
  | zero => rfl
  | succ n ih => rw [removeAgain_succ, removeAnyFailed_HeartbeatStatus, ih]

/-- A record that is in use after some calls has not changed. -/
theorem removeAgain_pmList {n : Nat} (used : ((removeAgain n l).pmList i).in_use = true) :
    (removeAgain n l).pmList i = l.pmList i := by
  induction n with
  | zero => rfl
  | succ n ih =>
      rw [removeAgain_succ] at used ⊢
      have other : (removeAgain n l).failedSlot ≠ some i := by
        intro failed
        rw [removeAnyFailed_of_failed failed, modify_pmList_self] at used
        cases used
      rw [removeAnyFailed_pmList other] at used ⊢
      exact ih used

/-- Counters that agree with the history judge every process manager rightly. -/
theorem CountersAgree.detects (agree : l.CountersAgree unanswered) :
    l.FailuresDetected unanswered := by
  have missed : ∀ i, (l.pmList i).in_use = true →
      (2 ≤ l.HeartbeatStatus i ↔ 2 ≤ unanswered i) := by
    intro i used
    rw [Int32.le_iff_toInt_le, agree i used]
    exact Int.ofNat_le
  constructor
  · intro i used removed
    have failed := failedSlot_eq_some ((removed_iff used).mp removed)
    exact (missed i used).mp failed.2
  · intro i used late
    obtain ⟨n, lt, failed⟩ := removed_of_failed used ((missed i used).mpr late)
    have still := (failedSlot_eq_some failed).1
    refine ⟨n, lt, ?_, (removed_iff still).mpr failed⟩
    rw [removeAnyFailed_of_failed failed, removeAgain_pmList still]

/-- A process manager that left fewer heartbeats unanswered than its counter says is removed
too early. -/
theorem not_detected_of_early (used : (l.pmList i).in_use = true)
    (missed : 2 ≤ l.HeartbeatStatus i) (early : unanswered i < 2) :
    ∃ n, ¬ (removeAgain n l).FailuresDetected unanswered := by
  obtain ⟨n, _, failed⟩ := removed_of_failed used missed
  refine ⟨n, ?_⟩
  intro detected
  have still := (failedSlot_eq_some failed).1
  have late := detected.1 i still ((removed_iff still).mpr failed)
  omega

/-- A process manager that left more heartbeats unanswered than its counter says stays. -/
theorem not_detected_of_late (used : (l.pmList i).in_use = true)
    (counted : ¬ 2 ≤ l.HeartbeatStatus i) (late : 2 ≤ unanswered i) :
    ¬ l.FailuresDetected unanswered := by
  intro detected
  obtain ⟨n, _, _, removed⟩ := detected.2 i used late
  have stays : ∀ n, ((removeAgain n l).pmList i).in_use = true := by
    intro n
    induction n with
    | zero => exact used
    | succ n ih =>
        rw [removeAgain_succ, removeAnyFailed_pmList]
        · exact ih
        · intro failed
          have missed := (failedSlot_eq_some failed).2
          rw [removeAgain_HeartbeatStatus] at missed
          exact counted missed
  rw [← removeAgain_succ, stays] at removed
  cases removed

end Judgement

/-! ### Runs -/

section Runs

variable {l : PMRecordList} {unanswered : Fin MAX_PM → Nat} {i : Fin MAX_PM}

/-- **Failure detection.** In every run whose process managers register in slots with a zero
counter, exactly those that left two heartbeats unanswered are removed. -/
theorem failures_detected
    (run : countedCalls.Reaches (fun q c => q.1.CleanCounters c) (new, fun _ => 0)
      (l, unanswered)) :
    l.FailuresDetected unanswered := by
  have agree : l.CountersAgree unanswered := by
    refine run.invariant (I := fun q => q.1.CountersAgree q.2) ?_ ?_
    · intro i used
      cases used
    · rintro ⟨l, unanswered⟩ c ⟨l', unanswered'⟩ o before clean taken
      obtain ⟨step, rfl⟩ := Machine.withGhost_step_eq_some.mp taken
      cases step
      exact before.call clean
  exact agree.detects

/-- The history after a list of calls. -/
def history (l : PMRecordList) (unanswered : Fin MAX_PM → Nat) :
    List HeartbeatCall → PMRecordList × (Fin MAX_PM → Nat)
  | [] => (l, unanswered)
  | c :: calls => history (l.call c) (countUnanswered unanswered l c) calls

/-- The history of a list of calls is that of a run. -/
theorem history_reachable {q₀ : PMRecordList × (Fin MAX_PM → Nat)}
    (run : countedCalls.Reachable q₀ (l, unanswered)) (calls : List HeartbeatCall) :
    countedCalls.Reachable q₀ (history l unanswered calls) := by
  induction calls generalizing l unanswered with
  | nil => exact run
  | cons c calls ih => exact ih (run.next (Machine.withGhost_step_eq_some.mpr ⟨rfl, rfl⟩))

end Runs

/-- Two process managers: the second registers in the slot that the first left by failing. -/
def inheritedSlot : List HeartbeatCall :=
  [.RegisterPM ⟨0, 1, 0⟩ .zero, .SendHeartbeatToAll, .SendHeartbeatToAll, .RemoveAnyFailed,
    .RegisterPM ⟨0, 2, 0⟩ .zero]

/-- The second process manager of `inheritedSlot` is removed before any heartbeat is sent to
it. -/
theorem not_failures_detected : ¬ ∀ l unanswered,
    countedCalls.Reachable (new, fun _ => 0) (l, unanswered) → l.FailuresDetected unanswered := by
  intro all
  have detected := all _ _ (history_reachable .start inheritedSlot)
  have late := detected.1 ⟨0, by decide⟩ rfl rfl
  exact absurd late (by decide)

/-- Three process managers: the first never answers and is removed, the second answers only the
first heartbeat, the third all but the last. -/
def threeRounds : List HeartbeatCall :=
  [.RegisterPM ⟨0, 1, 0⟩ .zero, .RegisterPM ⟨0, 2, 0⟩ .zero, .RegisterPM ⟨0, 3, 0⟩ .zero,
    .SendHeartbeatToAll, .HeartbeatReceived ⟨0, 2, 0⟩, .HeartbeatReceived ⟨0, 3, 0⟩,
    .SendHeartbeatToAll, .RemoveAnyFailed, .HeartbeatReceived ⟨0, 3, 0⟩, .SendHeartbeatToAll]

/-- In `threeRounds` the first process manager has been removed, and the next calls remove the
second one and leave the third. -/
theorem failures_detected_three_rounds :
    ∃ l unanswered,
      countedCalls.execGuarded (fun q c => q.1.CleanCounters c) (new, fun _ => 0) threeRounds =
        some (l, unanswered) ∧
      (l.pmList ⟨0, by decide⟩).in_use = false ∧
      (∃ n < MAX_PM, ((removeAgain n l).RemoveAnyFailed.2.pmList ⟨1, by decide⟩).in_use = false) ∧
      (l.RemoveAnyFailed.2.pmList ⟨2, by decide⟩).in_use = true := by
  have ran : ((countedCalls.execGuarded (fun q c => q.1.CleanCounters c) (new, fun _ => 0)
      threeRounds).map fun q => decide ((q.1.pmList ⟨0, by decide⟩).in_use = false ∧
        ((q.1.pmList ⟨1, by decide⟩).in_use = true ∧ 2 ≤ q.2 ⟨1, by decide⟩) ∧
        (q.1.pmList ⟨2, by decide⟩).in_use = true ∧ q.2 ⟨2, by decide⟩ < 2)) = some true := by
    decide +kernel
  obtain ⟨⟨l, unanswered⟩, done, reached⟩ := Option.map_eq_some_iff.mp ran
  obtain ⟨removed, ⟨used, late⟩, answers, early⟩ := of_decide_eq_true reached
  obtain ⟨only, all⟩ := failures_detected (.execGuarded .start done)
  refine ⟨l, unanswered, done, removed, ?_, ?_⟩
  · obtain ⟨n, lt, -, gone⟩ := all _ used late
    exact ⟨n, lt, gone⟩
  · by_contra gone
    exact absurd (only _ answers (Bool.eq_false_iff.mpr gone)) (Nat.not_le.mpr early)

/-! ### A counter that is not zero at registration -/

section Stale

variable {l : PMRecordList} {unanswered : Fin MAX_PM → Nat} {i : Fin MAX_PM}
  {PMAddress : SDMComponentID} {Resources : SDMTaskResources}

/-- A heartbeat round counts on for every slot in use. -/
theorem sendHeartbeatToAll_counts (used : (l.pmList i).in_use = true)
    (room : l.HeartbeatStatus i < Int32.maxValue) :
    ((l.call .SendHeartbeatToAll).HeartbeatStatus i).toInt = (l.HeartbeatStatus i).toInt + 1 ∧
      countUnanswered unanswered l .SendHeartbeatToAll i = unanswered i + 1 := by
  have status : (l.call .SendHeartbeatToAll).HeartbeatStatus i = l.HeartbeatStatus i + 1 :=
    if_pos used
  exact ⟨by rw [status, toInt_add_one room], if_pos used⟩

/-- The slot that a process manager took, after its registration. -/
theorem registerPM_takes (free : l.freeSlot = some i) :
    ((l.call (.RegisterPM PMAddress Resources)).pmList i).in_use = true ∧
      (l.call (.RegisterPM PMAddress Resources)).HeartbeatStatus i = l.HeartbeatStatus i ∧
      countUnanswered unanswered l (.RegisterPM PMAddress Resources) i = 0 := by
  rw [call, registerPM_of_free free, countUnanswered, free]
  exact ⟨by rw [modify_pmList_self], rfl, Function.update_self i 0 unanswered⟩

theorem history_removeAgain (n : Nat) :
    history l unanswered (List.replicate n .RemoveAnyFailed) = (removeAgain n l, unanswered) := by
  induction n generalizing l with
  | zero => rfl
  | succ n ih => exact ih

/-- **A stale counter.** A process manager that registers in a slot with another counter than
zero is misjudged within two heartbeat rounds. -/
theorem misjudged_of_stale_counter (free : l.freeSlot = some i) (stale : l.HeartbeatStatus i ≠ 0)
    (room : l.HeartbeatStatus i < Int32.maxValue) :
    ∃ calls, ¬ (history l unanswered (.RegisterPM PMAddress Resources :: calls)).1.FailuresDetected
      (history l unanswered (.RegisterPM PMAddress Resources :: calls)).2 := by
  obtain ⟨used, status, fresh⟩ :
      _ ∧ _ ∧ countUnanswered unanswered l (.RegisterPM PMAddress Resources) i = 0 :=
    registerPM_takes free
  set l₁ := l.call (.RegisterPM PMAddress Resources)
  set unanswered₁ := countUnanswered unanswered l (.RegisterPM PMAddress Resources)
  have room₁ : l₁.HeartbeatStatus i < Int32.maxValue := by rwa [status]
  obtain ⟨status₂, sent₂⟩ :
      _ ∧ countUnanswered unanswered₁ l₁ .SendHeartbeatToAll i = unanswered₁ i + 1 :=
    sendHeartbeatToAll_counts used room₁
  have used₂ : ((l₁.call .SendHeartbeatToAll).pmList i).in_use = true := used
  have nonzero : (l.HeartbeatStatus i).toInt ≠ 0 := fun zero => stale (Int32.toInt_inj.mp zero)
  rw [status] at status₂
  by_cases inherited : 0 < (l.HeartbeatStatus i).toInt
  · have missed : 2 ≤ (l₁.call .SendHeartbeatToAll).HeartbeatStatus i := by
      apply Int32.le_iff_toInt_le.mpr
      rw [status₂]
      exact Int.add_le_add_right inherited 1
    have early : countUnanswered unanswered₁ l₁ .SendHeartbeatToAll i < 2 := by omega
    obtain ⟨n, misjudged⟩ := not_detected_of_early used₂ missed early
    refine ⟨.SendHeartbeatToAll :: List.replicate n .RemoveAnyFailed, ?_⟩
    rw [history, history, history_removeAgain]
    exact misjudged
  · have low : (l₁.call .SendHeartbeatToAll).HeartbeatStatus i < Int32.maxValue := by
      apply Int32.lt_iff_toInt_lt.mpr
      rw [status₂]
      have top : Int32.maxValue.toInt = 2147483647 := rfl
      omega
    obtain ⟨status₃, sent₃⟩ :
        _ ∧ countUnanswered (countUnanswered unanswered₁ l₁ .SendHeartbeatToAll)
          (l₁.call .SendHeartbeatToAll) .SendHeartbeatToAll i = _ :=
      sendHeartbeatToAll_counts used₂ low
    have used₃ : (((l₁.call .SendHeartbeatToAll).call .SendHeartbeatToAll).pmList i).in_use =
        true := used
    have few :
        ¬ 2 ≤ ((l₁.call .SendHeartbeatToAll).call .SendHeartbeatToAll).HeartbeatStatus i := by
      intro missed
      have counted := Int32.le_iff_toInt_le.mp missed
      rw [status₃, status₂] at counted
      have two : (2 : Int32).toInt = 2 := rfl
      omega
    have late : 2 ≤ countUnanswered (countUnanswered unanswered₁ l₁ .SendHeartbeatToAll)
        (l₁.call .SendHeartbeatToAll) .SendHeartbeatToAll i := by
      rw [sent₃, sent₂]
      omega
    exact ⟨[.SendHeartbeatToAll, .SendHeartbeatToAll], not_detected_of_late used₃ few late⟩

end Stale

end PMRecordList

end Sdm
