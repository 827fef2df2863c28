import Mathlib.Data.List.TakeWhile

/-!
The monitors of the Sensor Manager, the Task Manager and the Process Manager.

A monitor starts its manager, sends it a heartbeat in every round and looks at what came back: the
manager has exited, or it has sent some replies. It starts the manager again when that has exited,
and kills and starts it again when it counts `NUM_HEARTBEAT_TRIES` missed heartbeats in a round
without a reply. Every restart succeeds here.

* `Monitor.killed_unanswered`: a manager that has answered a short time ago is not killed.
* `Monitor.kept_iff`: when a silent manager is restarted in time.
-/

namespace Sdm

/-- What a monitor finds at the end of a round. -/
inductive HeartbeatRound where
  | exited
  | replies (count : Nat)
  deriving DecidableEq, Repr

/-- Why a monitor starts its manager again. -/
inductive Restart where
  | exited
  | unresponsive
  deriving DecidableEq, Repr

/-- What the monitors differ in. -/
structure Monitor where
  NUM_HEARTBEAT_TRIES : Nat
  /-- The replies to a heartbeat. -/
  num_toget : Nat
  tries_pos : 0 < NUM_HEARTBEAT_TRIES

/-- `sm_monitor.cpp`: the heartbeat is sent over UDP and TCP. -/
def smMonitor : Monitor := ⟨2, 2, by decide⟩

/-- `tm_monitor.cpp`. -/
def tmMonitor : Monitor := ⟨10, 1, by decide⟩

/-- `pm_monitor.cpp`. -/
def pmMonitor : Monitor := ⟨10, 1, by decide⟩

namespace Monitor

/-- A round of `main`: the `miss_count` after it, and the restart. -/
def round (m : Monitor) (miss_count : Nat) : HeartbeatRound → Nat × Option Restart
  | .exited => (miss_count, some .exited)
  | .replies 0 =>
      let miss_count := miss_count + 1
      (miss_count, if miss_count = m.NUM_HEARTBEAT_TRIES then some .unresponsive else none)
  | .replies (count + 1) =>
      (if (m.num_toget : Int) - (count + 1) > 0 then miss_count + 1 else 0, none)

/-- A monitor in a run: its `miss_count`, and the rounds since it last started the manager, the last
round first. -/
structure Watch where
  miss_count : Nat
  sinceStart : List HeartbeatRound

def next (m : Monitor) (w : Watch) (r : HeartbeatRound) : Watch :=
  let result := m.round w.miss_count r
  ⟨result.1, if result.2.isSome then [] else r :: w.sinceStart⟩

/-- The monitor after these rounds. -/
def after (m : Monitor) (rounds : List HeartbeatRound) : Watch := rounds.foldl m.next ⟨0, []⟩

/-! ### What is asked of a monitor -/

/-- All replies have come. -/
def Complete (m : Monitor) : HeartbeatRound → Prop
  | .exited => False
  | .replies count => 0 < count ∧ m.num_toget ≤ count

/-- The rounds without any reply at the front of a list. -/
def silent (rounds : List HeartbeatRound) : Nat := (rounds.takeWhile (· = .replies 0)).length

/-- The manager has to be restarted in this round. -/
def Due (m : Monitor) (sinceStart : List HeartbeatRound) (r : HeartbeatRound) : Prop :=
  r = .exited ∨ m.NUM_HEARTBEAT_TRIES ≤ silent (r :: sinceStart)

/-- In this round the manager is restarted if that is due, and it is not killed if it has answered
completely in one of the last rounds. -/
def Kept (m : Monitor) (rounds : List HeartbeatRound) (r : HeartbeatRound) : Prop :=
  let w := m.after rounds
  let restart := (m.round w.miss_count r).2
  (m.Due w.sinceStart r → restart.isSome) ∧
    (restart = some .unresponsive →
      ∀ answered ∈ w.sinceStart.take (m.NUM_HEARTBEAT_TRIES - 1), ¬ m.Complete answered)

/-- The rounds that were missed since the last complete reply, those before the last start
included. -/
def missed (m : Monitor) : List HeartbeatRound → Nat → Nat
  | [], count => count
  | .exited :: rest, count => m.missed rest count
  | .replies n :: rest, count =>
      m.missed rest (if 0 < n ∧ m.num_toget ≤ n then 0 else count + 1)

variable {m : Monitor} {rounds : List HeartbeatRound} {r : HeartbeatRound}

/-- A restart leaves the count as it was: it is the number of missed rounds. -/
theorem miss_count_foldl (w : Watch) :
    (rounds.foldl m.next w).miss_count = m.missed rounds w.miss_count := by
  induction rounds generalizing w with
  | nil => rfl
  | cons r rest ih =>
      rw [List.foldl_cons, ih]
      cases r with
      | exited => rfl
      | replies n =>
          cases n with
          | zero => simp [missed, next, round]
          | succ n =>
              simp only [missed, next, round, Nat.succ_pos, true_and]
              by_cases all : m.num_toget ≤ n + 1
              · rw [if_pos all, if_neg (by omega)]
              · rw [if_neg all, if_pos (by omega)]

/-- The count is at most the number of rounds since a complete reply. -/
def Counts (m : Monitor) (w : Watch) : Prop :=
  ∀ k answered, w.sinceStart[k]? = some answered → m.Complete answered → w.miss_count ≤ k

theorem counts_next {w : Watch} (counts : m.Counts w) : m.Counts (m.next w r) := by
  intro k answered there complete
  cases restart : (m.round w.miss_count r).2 with
  | some why => simp [next, restart] at there
  | none =>
      simp only [next, restart, Option.isSome_none, Bool.false_eq_true, if_false] at there ⊢
      cases k with
      | zero =>
          obtain rfl := Option.some.inj there
          cases r with
          | exited => exact absurd complete id
          | replies n =>
              obtain ⟨some, all⟩ := complete
              obtain ⟨n, rfl⟩ := Nat.exists_eq_succ_of_ne_zero some.ne'
              simp only [round]
              rw [if_neg (by omega)]
      | succ k =>
          have before := counts k answered there complete
          cases r with
          | exited => cases restart
          | replies n =>
              cases n with
              | zero => exact Nat.succ_le_succ before
              | succ n =>
                  simp only [round]
                  split <;> omega

theorem counts_after (m : Monitor) (rounds : List HeartbeatRound) : m.Counts (m.after rounds) := by
  have run : ∀ w, m.Counts w → m.Counts (rounds.foldl m.next w) := by
    induction rounds with
    | nil => exact fun _ counts => counts
    | cons r rest ih => exact fun w counts => ih _ (counts_next counts)
  exact run _ fun k answered there => by simp at there

/-- **A manager that has answered completely within the last rounds is not killed.** -/
theorem killed_unanswered
    (killed : (m.round (m.after rounds).miss_count r).2 = some .unresponsive) :
    ∀ answered ∈ (m.after rounds).sinceStart.take (m.NUM_HEARTBEAT_TRIES - 1),
      ¬ m.Complete answered := by
  intro answered mem complete
  obtain ⟨k, lt, there⟩ := List.mem_iff_getElem.mp mem
  rw [List.length_take] at lt
  have early := counts_after m rounds k answered
    (by rw [← there, List.getElem_take, List.getElem?_eq_getElem]) complete
  cases r with
  | exited => cases killed
  | replies n =>
      cases n with
      | succ n => cases killed
      | zero =>
          simp only [round] at killed
          split at killed
          · omega
          · cases killed

theorem silent_pos_iff {rest : List HeartbeatRound} :
    0 < silent (r :: rest) ↔ r = .replies 0 := by
  by_cases none : r = .replies 0 <;> simp [silent, none]

/-- **When a monitor restarts its manager in time**: the rounds without a reply that make a restart
due are the only ones missed since the last complete reply. -/
theorem kept_iff (m : Monitor) (rounds : List HeartbeatRound) (r : HeartbeatRound) :
    m.Kept rounds r ↔
      (m.NUM_HEARTBEAT_TRIES ≤ silent (r :: (m.after rounds).sinceStart) →
        m.missed rounds 0 + 1 = m.NUM_HEARTBEAT_TRIES) := by
  have count : (m.after rounds).miss_count = m.missed rounds 0 := miss_count_foldl _
  have pos := m.tries_pos
  constructor
  · rintro ⟨restarts, -⟩ due
    obtain rfl := silent_pos_iff.mp (Nat.lt_of_lt_of_le pos due)
    have restarted := restarts (.inr due)
    simp only [round, count] at restarted
    by_contra other
    rw [if_neg other] at restarted
    cases restarted
  · intro onCount
    refine ⟨?_, killed_unanswered⟩
    rintro (rfl | due)
    · rfl
    · obtain rfl := silent_pos_iff.mp (Nat.lt_of_lt_of_le pos due)
      simp only [round, count]
      rw [if_pos (onCount due)]
      rfl

/-- After a restart the count goes on from where it was, and passes the number of tries. -/
theorem not_kept : (¬ ∀ rounds r, smMonitor.Kept rounds r) ∧
    (¬ ∀ rounds r, tmMonitor.Kept rounds r) ∧
    ¬ ∀ rounds r, pmMonitor.Kept rounds r := by
  refine ⟨fun kept => ?_, fun kept => ?_, fun kept => ?_⟩
  · exact absurd ((kept (List.replicate 3 (.replies 0)) (.replies 0)).1
    (.inr (by decide))) (by decide)
  · exact absurd ((kept (List.replicate 19 (.replies 0)) (.replies 0)).1
    (.inr (by decide))) (by decide)
  · exact absurd ((kept (List.replicate 19 (.replies 0)) (.replies 0)).1
    (.inr (by decide))) (by decide)

end Monitor

end Sdm
