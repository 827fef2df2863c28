import Mathlib.Algebra.Group.Nat.Defs
import Sdm.Lib.Machine
import Sdm.PM.ProcessManager

/-!
Hanging tasks (`PMProcess`, and the calls that `TaskHeartbeatMonitor`, the handler of heartbeats
and `SigChldHandler` make on one).

The monitor looks at a process also while it is failed, when there is no heartbeat of it. Then
`IsUnresponsive` counts from second 0, and `Reset` keeps what it has counted.

* `monitorRound_cons`: a round of the monitor looks at each process by itself.
* `machine` takes the calls on one process, with the clock.
* `Kept` relates what is counted with the last heartbeat of the incarnation; `kept_step` is what
  a call does to it.
* `declares_of_left`: where `Reset` keeps something, the next incarnation is killed without a
  heartbeat.
-/

namespace Sdm.HangDetection

open Lib ProcessManager

/-- A process, until its entry is removed, and the time of the last call. -/
structure Watched where
  process : Option PMProcess
  clock : UInt32
  deriving DecidableEq

inductive Action where
  | HeartbeatReceived (uiCurSeconds : UInt32)
  | TaskHeartbeatMonitor (uiCurSeconds : UInt32)
  | SigChldHandler
  deriving DecidableEq

/-- What the monitor leaves of the entry. -/
def look (uiCurSeconds : UInt32) (e : PMProcess) : Option PMProcess :=
  let e' := (e.IsUnresponsive uiCurSeconds).2
  if Due uiCurSeconds e then
    if MAX_TASK_FAILURES ≤ e.uiTotalFailCount then none else some e'.Failure
  else some e'

/-- A round of the monitor looks at its entries one after the other. -/
theorem monitorRound_cons {Address_PM now : UInt32} {e : PMProcess} {rest : List PMProcess}
    (launched : e.OsPid ≠ 0) :
    (monitorRound Address_PM now false (e :: rest)).2.1 =
      (look now e).toList ++ (monitorRound Address_PM now (look now e).isNone rest).2.1 := by
  simp only [monitorRound, look, if_neg launched]
  split
  · split <;> rfl
  · rfl

/-- The calls on one process; a step says whether the monitor declares it unresponsive. -/
def machine : Machine Watched Action Bool where
  step s a := s.process.bind fun e =>
    match a with
    | .HeartbeatReceived uiCurSeconds =>
        if uiCurSeconds < s.clock then none
        else some (⟨some (e.HeartbeatReceived uiCurSeconds), uiCurSeconds⟩, false)
    | .TaskHeartbeatMonitor uiCurSeconds =>
        if uiCurSeconds < s.clock then none
        else some (⟨look uiCurSeconds e, uiCurSeconds⟩, Due uiCurSeconds e)
    | .SigChldHandler =>
        if e.bFailedState = true then some (⟨some e.Reset, s.clock⟩, false)
        -- A normal finish: the entry is removed.
        else some (⟨none, s.clock⟩, false)

/-- The last heartbeat of the incarnation. -/
def heartbeat (last : Option UInt32) (_ : Watched) (a : Action) (_ : Bool) : Option UInt32 :=
  match a with
  | .HeartbeatReceived uiCurSeconds => some uiCurSeconds
  | .TaskHeartbeatMonitor _ => last
  | .SigChldHandler => none

/-- **The monitor is right**: it declares the process unresponsive only when the incarnation has
sent a heartbeat, and the last one is too old. -/
def Right (q : Watched × Option UInt32) : Prop :=
  ∀ e uiCurSeconds, q.1.process = some e → q.1.clock ≤ uiCurSeconds → Due uiCurSeconds e = true →
    ∃ t, q.2 = some t ∧
      t.toNat + TASK_HEARTBEAT_TIMEOUT.toNat * TASK_TIMEOUT_ATTEMPTS.toNat ≤ uiCurSeconds.toNat

/-- A process that is reset has no heartbeat left over. -/
def Cleared (s : Watched) (a : Action) : Prop :=
  a = .SigChldHandler → ∀ e, s.process = some e → e.bFailedState = true → e.ulLastHeartbeat = 0

/-- What is counted is counted from the last heartbeat of the incarnation. -/
def Kept (q : Watched × Option UInt32) : Prop :=
  ∀ e, q.1.process = some e → e.bFailedState = false → e.ulLastHeartbeat = 0 ∨
    ∃ t, q.2 = some t ∧ e.ulLastHeartbeat ≤ q.1.clock ∧
      e.ulLastHeartbeat.toNat =
        t.toNat + TASK_HEARTBEAT_TIMEOUT.toNat * e.ulHeartbeatMissCount.toNat

variable {e : PMProcess} {uiCurSeconds now : UInt32} {s s' : Watched} {last : Option UInt32}
  {a : Action} {o : Bool}

/-- The time since the heartbeat, without the wrap of the subtraction. -/
theorem toNat_add_timeout_le {h : UInt32} (order : ¬now < h)
    (late : ¬now - h < TASK_HEARTBEAT_TIMEOUT) : h.toNat + 10 ≤ now.toNat := by
  rw [UInt32.lt_iff_toNat_lt] at order late
  rw [UInt32.toNat_sub_of_le _ _ (UInt32.le_iff_toNat_le.mpr (Nat.not_lt.mp order))] at late
  have ten : TASK_HEARTBEAT_TIMEOUT.toNat = 10 := rfl
  omega

theorem toNat_add_timeout {h : UInt32} (room : h.toNat + 10 ≤ now.toNat) :
    (h + TASK_HEARTBEAT_TIMEOUT).toNat = h.toNat + 10 := by
  have bound := now.toNat_lt
  rw [UInt32.toNat_add, show TASK_HEARTBEAT_TIMEOUT.toNat = 10 from rfl]
  omega

/-- What a look counts. -/
def counted (e : PMProcess) : PMProcess :=
  { e with
    ulLastHeartbeat := e.ulLastHeartbeat + TASK_HEARTBEAT_TIMEOUT
    ulHeartbeatMissCount := e.ulHeartbeatMissCount + 1 }

/-- **A look**: nothing is counted, or one interval is. -/
theorem isUnresponsive_cases (e : PMProcess) (now : UInt32) :
    (¬((e.ulLastHeartbeat ≠ 0 ∨ e.bFailedState = true) ∧
        e.ulLastHeartbeat.toNat + 10 ≤ now.toNat) ∧ e.IsUnresponsive now = (false, e)) ∨
    (e.ulLastHeartbeat ≠ 0 ∨ e.bFailedState = true) ∧
      e.ulLastHeartbeat.toNat + 10 ≤ now.toNat ∧
      e.IsUnresponsive now =
        (decide (TASK_TIMEOUT_ATTEMPTS ≤ e.ulHeartbeatMissCount + 1), counted e) := by
  rw [PMProcess.IsUnresponsive]
  split
  · rename_i unseen
    refine .inl ⟨?_, rfl⟩
    rintro ⟨seen | failed, -⟩
    · exact seen unseen.1
    · rw [failed] at unseen
      cases unseen.2
  rename_i seen
  split
  · rename_i early
    rw [UInt32.lt_iff_toNat_lt] at early
    exact .inl ⟨fun both => by omega, rfl⟩
  rename_i order
  split
  · rename_i soon
    rw [UInt32.lt_iff_toNat_lt, UInt32.toNat_sub_of_le _ _ (UInt32.not_lt.mp order)] at soon
    have ten : TASK_HEARTBEAT_TIMEOUT.toNat = 10 := rfl
    exact .inl ⟨fun both => by omega, rfl⟩
  rename_i late
  refine .inr ⟨?_, toNat_add_timeout_le order late, rfl⟩
  by_contra neither
  push Not at neither
  exact seen ⟨neither.1, Bool.not_eq_true _ ▸ neither.2⟩

/-- What is counted is right about the heartbeats. -/
theorem Kept.right (kept : Kept (s, last)) : Right (s, last) := by
  intro e now here order due
  obtain ⟨unresponsive, running⟩ := Bool.and_eq_true_iff.mp due
  have running : e.bFailedState = false := by simpa using running
  rcases isUnresponsive_cases e now with ⟨-, quiet⟩ | ⟨seen, late, count⟩
  · rw [quiet] at unresponsive
    cases unresponsive
  · rw [count] at unresponsive
    have attempts := of_decide_eq_true unresponsive
    rcases kept e here running with unseen | ⟨t, heard, -, total⟩
    · rcases seen with seen | failed
      · exact absurd unseen seen
      · rw [running] at failed
        cases failed
    · refine ⟨t, heard, ?_⟩
      rw [UInt32.le_iff_toNat_le, UInt32.toNat_add] at attempts
      have ten : TASK_HEARTBEAT_TIMEOUT.toNat = 10 := rfl
      have six : TASK_TIMEOUT_ATTEMPTS.toNat = 6 := rfl
      have one : (1 : UInt32).toNat = 1 := rfl
      rw [ten] at total ⊢
      rw [six, one] at attempts
      rw [six]
      omega

/-- **One call** keeps the relation, when a reset leaves nothing over. -/
theorem kept_step (kept : Kept (s, last)) (cleared : Cleared s a)
    (taken : machine.step s a = some (s', o)) : Kept (s', heartbeat last s a o) := by
  obtain ⟨e, here, taken⟩ := Option.bind_eq_some_iff.mp taken
  cases a with
  | HeartbeatReceived now =>
      simp only at taken
      split at taken
      · cases taken
      · cases taken
        rintro _ ⟨⟩ -
        refine .inr ⟨now, rfl, UInt32.le_refl now, ?_⟩
        rfl
  | SigChldHandler =>
      simp only at taken
      split at taken
      · rename_i failed
        cases taken
        rintro _ ⟨⟩ -
        exact .inl (cleared rfl e here failed)
      · cases taken
        nofun
  | TaskHeartbeatMonitor now =>
      simp only at taken
      split at taken
      · cases taken
      rename_i order
      cases taken
      intro e' left running
      have looked : e' = (e.IsUnresponsive now).2 := by
        simp only [look] at left
        split at left
        · split at left
          · cases left
          · cases left
            cases running
        · exact (Option.some.inj left).symm
      have running : e.bFailedState = false := by
        rw [← running, looked]
        exact PMProcess.isUnresponsive_kept.2.2.2.2.symm
      rcases isUnresponsive_cases e now with ⟨-, quiet⟩ | ⟨seen, late, count⟩
      · rw [quiet] at looked
        rw [looked]
        refine (kept e here running).imp_right ?_
        rintro ⟨t, heard, before, total⟩
        exact ⟨t, heard, UInt32.le_trans before (UInt32.not_lt.mp order), total⟩
      · rcases kept e here running with unseen | ⟨t, heard, -, total⟩
        · rcases seen with seen | failed
          · exact absurd unseen seen
          · rw [running] at failed
            cases failed
        · rw [count] at looked
          refine .inr ⟨t, heard, ?_, ?_⟩
          · rw [looked, counted, UInt32.le_iff_toNat_le, toNat_add_timeout late]
            exact late
          · have ten : TASK_HEARTBEAT_TIMEOUT.toNat = 10 := rfl
            have one : (1 : UInt32).toNat = 1 := rfl
            have bound := now.toNat_lt
            rw [looked, counted, toNat_add_timeout late, UInt32.toNat_add, ten, one]
            rw [ten] at total
            omega

/-- Every call is right when no reset leaves a heartbeat over. -/
theorem right_of_cleared {s₀ : Watched} {q : Watched × Option UInt32} (start : Kept (s₀, last))
    (run : (machine.withGhost heartbeat).Reaches (fun q a => Cleared q.1 a) (s₀, last) q) :
    Right q := by
  refine Kept.right (run.invariant start ?_)
  rintro ⟨s, last⟩ a ⟨s', last'⟩ o kept cleared taken
  obtain ⟨called, rfl⟩ := Machine.withGhost_step_eq_some.mp taken
  exact kept_step kept cleared called

/-! ### What a reset leaves over -/

theorem isUnresponsive_late (seen : e.ulLastHeartbeat ≠ 0 ∨ e.bFailedState = true)
    (late : e.ulLastHeartbeat.toNat + 10 ≤ now.toNat) : e.IsUnresponsive now =
      (decide (TASK_TIMEOUT_ATTEMPTS ≤ e.ulHeartbeatMissCount + 1), counted e) := by
  rcases isUnresponsive_cases e now with ⟨quiet, -⟩ | ⟨-, -, count⟩
  · exact absurd ⟨seen, late⟩ quiet
  · exact count

/-- The last of the missed intervals is declared. -/
theorem not_right_of_left (here : s.process = some e) (running : e.bFailedState = false)
    (seen : e.ulLastHeartbeat ≠ 0) (order : s.clock ≤ now)
    (bounded : e.ulHeartbeatMissCount.toNat + 1 < 2 ^ 32)
    (attempts : 5 ≤ e.ulHeartbeatMissCount.toNat)
    (late : e.ulLastHeartbeat.toNat + 10 ≤ now.toNat) : ¬Right (s, none) := by
  intro right
  have one : (1 : UInt32).toNat = 1 := rfl
  have six : TASK_TIMEOUT_ATTEMPTS.toNat = 6 := rfl
  have due : Due now e = true := by
    rw [Due, isUnresponsive_late (.inl seen) late, running, Bool.not_false, Bool.and_true,
      decide_eq_true_eq, UInt32.le_iff_toNat_le, UInt32.toNat_add, one, six,
      Nat.mod_eq_of_lt bounded]
    exact Nat.succ_le_succ attempts
  obtain ⟨t, heard, -⟩ := right e now here order due
  cases heard

/-- Without a heartbeat, the monitor alone comes to declare a process that has something counted. -/
theorem declares_of_left {n : Nat} (here : s.process = some e) (running : e.bFailedState = false)
    (seen : e.ulLastHeartbeat ≠ 0) (order : s.clock ≤ now)
    (bounded : e.ulHeartbeatMissCount.toNat + 1 < 2 ^ 32)
    (attempts : 5 ≤ e.ulHeartbeatMissCount.toNat + n)
    (room : e.ulLastHeartbeat.toNat + 10 * (n + 1) ≤ now.toNat) :
    ∃ q, (machine.withGhost heartbeat).Reachable (s, none) q ∧ ¬Right q := by
  induction n generalizing s e with
  | zero => exact ⟨_, .start, not_right_of_left here running seen order bounded attempts
      (by omega)⟩
  | succ n ih =>
      by_cases last : 5 ≤ e.ulHeartbeatMissCount.toNat
      · exact ⟨_, .start, not_right_of_left here running seen order bounded last (by omega)⟩
      have late : e.ulLastHeartbeat.toNat + 10 ≤ now.toNat := by omega
      have looked := isUnresponsive_late (.inl seen) late
      have one : (1 : UInt32).toNat = 1 := rfl
      have six : TASK_TIMEOUT_ATTEMPTS.toNat = 6 := rfl
      have next : (counted e).ulHeartbeatMissCount.toNat = e.ulHeartbeatMissCount.toNat + 1 := by
        rw [counted, UInt32.toNat_add, one]
        omega
      have later : (counted e).ulLastHeartbeat.toNat = e.ulLastHeartbeat.toNat + 10 :=
        toNat_add_timeout late
      have undue : Due now e = false := by
        rw [Due, looked, Bool.and_eq_false_iff]
        refine .inl (decide_eq_false fun attempts => ?_)
        have count : (e.ulHeartbeatMissCount + 1).toNat = e.ulHeartbeatMissCount.toNat + 1 := next
        rw [UInt32.le_iff_toNat_le, count, six] at attempts
        omega
      have taken : machine.step s (.TaskHeartbeatMonitor now) =
          some (⟨some (counted e), now⟩, false) := by
        simp only [machine, here, Option.bind_some, if_neg (UInt32.not_lt.mpr order), look, undue,
          Bool.false_eq_true, if_false, looked]
      have still : (counted e).ulLastHeartbeat ≠ 0 := by
        intro zero
        rw [zero] at later
        have none : (0 : UInt32).toNat = 0 := rfl
        omega
      have entry : (⟨some (counted e), now⟩ : Watched).process = some (counted e) := rfl
      have going : (counted e).bFailedState = false := running
      obtain ⟨q, run, wrong⟩ := ih entry going still (UInt32.le_refl now) (by omega) (by omega)
        (by omega)
      exact ⟨q, .trans (.step .start trivial (Machine.withGhost_step_eq_some.mpr ⟨taken, rfl⟩)) run,
        wrong⟩

/-- **When hanging tasks are detected.** The monitor is right in every run whose resets have no
heartbeat left over; and after a reset that has, the monitor alone comes to declare the new
incarnation without a heartbeat, when the clock has the time for it. -/
theorem hang_detection (Name : CString) (SdmPid clock : UInt32) :
    (∀ q, (machine.withGhost heartbeat).Reaches (fun q a => Cleared q.1 a)
      (⟨some (.ofTask Name SdmPid), clock⟩, none) q → Right q) ∧
    ∀ (e : PMProcess) (s s' : Watched) (now : UInt32), s.process = some e →
      machine.step s .SigChldHandler = some (s', false) → ¬Cleared s .SigChldHandler →
      e.ulHeartbeatMissCount.toNat + 1 < 2 ^ 32 → s.clock ≤ now →
      e.ulLastHeartbeat.toNat + 60 ≤ now.toNat →
      ∃ q, (machine.withGhost heartbeat).Reachable (s', none) q ∧ ¬Right q := by
  refine ⟨fun q run => right_of_cleared ?_ run, ?_⟩
  · rintro _ ⟨⟩ -
    exact .inl rfl
  · intro e s s' now here reset uncleared few order room
    have left : e.bFailedState = true ∧ e.ulLastHeartbeat ≠ 0 := by
      by_contra none
      refine uncleared fun _ other same failed => ?_
      obtain rfl : e = other := Option.some.inj (here.symm.trans same)
      by_contra seen
      exact none ⟨failed, seen⟩
    simp only [machine, here, Option.bind_some, left.1, if_true, Option.some.injEq, Prod.mk.injEq,
      and_true] at reset
    subst reset
    have running : e.Reset.bFailedState = false := rfl
    have entry : (⟨some e.Reset, s.clock⟩ : Watched).process = some e.Reset := rfl
    exact declares_of_left entry running left.2 order few (Nat.le_add_left 5 _) room

/-- The monitor looks while the task is failed, and kills the restarted task. -/
theorem not_right : ¬ ∀ (Name : CString) (SdmPid clock : UInt32) (q : Watched × Option UInt32),
    (machine.withGhost heartbeat).Reachable (⟨some (.ofTask Name SdmPid), clock⟩, none) q →
      Right q := by
  intro all
  let calls : List Action := [.HeartbeatReceived 1, .TaskHeartbeatMonitor 61,
    .TaskHeartbeatMonitor 63, .TaskHeartbeatMonitor 65, .TaskHeartbeatMonitor 67,
    .TaskHeartbeatMonitor 69, .TaskHeartbeatMonitor 71, .TaskHeartbeatMonitor 73,
    .SigChldHandler, .TaskHeartbeatMonitor 75, .TaskHeartbeatMonitor 77,
    .TaskHeartbeatMonitor 79, .TaskHeartbeatMonitor 81]
  have ran : ((machine.withGhost heartbeat).exec (⟨some (.ofTask .empty 7), 0⟩, none) calls).map
      (fun q => (q.1.process.map fun e => Due 83 e, decide (q.1.clock ≤ 83), q.2)) =
      some (some true, true, none) := by
    decide
  obtain ⟨q, done, seen⟩ := Option.map_eq_some_iff.mp ran
  simp only [Prod.mk.injEq, Option.map_eq_some_iff, decide_eq_true_eq] at seen
  obtain ⟨⟨e, here, due⟩, order, silent⟩ := seen
  obtain ⟨t, heard, -⟩ := all .empty 7 0 q (.exec .start (fun _ _ _ => trivial) done) e 83 here
    order due
  rw [silent] at heard
  cases heard

end Sdm.HangDetection
