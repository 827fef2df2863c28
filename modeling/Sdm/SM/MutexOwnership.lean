import Sdm.Lib.Machine
import Sdm.SM.SensorLocks

/-!
Who owns the mutexes of the Sensor Manager.

The monitor thread, the USB threads and the handlers run in any order. The monitor thread goes
through the checks of all sensors, each under `m_SensorDataMutex`, and may cancel a USB thread and
start another one. A cancelled thread dies at any later time, and keeps what it owns.

* `Good.reaches`: the invariant of the runs in which no thread dies that owns a mutex and no xTEDS
  is found overdue.
* `mutexes_released`: in these runs no thread waits for its own mutex, no dead thread owns one, and
  the monitor thread can always complete its round.
-/

namespace Sdm

open Lib LockProgram SensorLocks

/-- The threads. `generation` counts the USB threads of a sensor. -/
inductive ThreadID (n : Nat) where
  | monitor
  | usb (i : Fin n) (generation : Nat)
  | handler (k : Nat)
  deriving DecidableEq, Repr

/-- The checks of `SensorMonitorFunc` for a sensor. -/
inductive Check where
  | registration
  | connection
  | ack
  | id
  deriving DecidableEq, Repr

/-- Where the monitor thread is in a check. -/
inductive Phase where
  /-- It does not hold `m_SensorDataMutex`. -/
  | between
  /-- It takes the mutex to look at the record. -/
  | entering
  /-- It has cancelled the USB thread, and is in `Cancel`. -/
  | cancelling
  /-- It does what is left to do, and gives the mutex back. -/
  | inside
  deriving DecidableEq, Repr

structure SMThreads (n : Nat) where
  pool : Pool (SMShared n) (SMLock n) (ThreadID n)
  /-- The checks that are left in the round. -/
  todo : List (Fin n × Check)
  phase : Phase
  threadReset : Bool
  /-- The rounds that have begun. -/
  rounds : Nat
  /-- The USB threads that were started. -/
  started : Fin n → Nat
  cancelled : Fin n → Nat → Bool
  dead : Fin n → Nat → Bool

variable {n : Nat}

/-- What may happen next. -/
inductive SMTurn (n : Nat) where
  | outside (o : Outside n)
  | monitor
  | usb (i : Fin n) (generation : Nat)
  | die (i : Fin n) (generation : Nat)
  | handler (k : Nat)
  | arrive (k : Nat) (arrival : Arrival n)

namespace SMThreads

/-- `InitializeSensors`: USB threads are started for some of the sensors. -/
def start (chosen : Fin n → Bool) (o : Outside n) : SMThreads n where
  pool :=
    { shared := ⟨fun _ => .new, fun _ => false, fun _ => false, o⟩
      owner := fun _ => none
      program := fun
        | .usb i _ => usbMonitor i
        | _ => .done () }
  todo := []
  phase := .between
  threadReset := false
  rounds := 0
  started i := if chosen i then 1 else 0
  cancelled _ _ := false
  dead _ _ := false

/-- The checks of a round. -/
def checks (n : Nat) : List (Fin n × Check) :=
  (List.finRange n).flatMap fun i => [(i, .registration), (i, .connection), (i, .ack), (i, .id)]

/-- `CancelSensor`, up to its call of `Cancel`. -/
def cancelSensor (t : SMThreads n) (i : Fin n) (program : SMProgram n Unit) : SMThreads n :=
  { t with
    cancelled := Function.update t.cancelled i
      (Function.update (t.cancelled i) (t.started i - 1) true)
    pool := t.pool.goTo .monitor program
    phase := .cancelling }

/-- Do this, and give `m_SensorDataMutex` back. -/
def leaveAfter (t : SMThreads n) (program : SMProgram n Unit) : SMThreads n :=
  { t with
    pool := t.pool.goTo .monitor (program >>= fun _ => unlock .sensorData)
    phase := .inside }

/-- The monitor thread looks at the record of a sensor. A Hello is resent without a mutex. -/
def check (t : SMThreads n) (i : Fin n) : Check → SMThreads n
  | .registration =>
      if (t.pool.shared.records i).registrationTimeout t.pool.shared.outside.now then
        { t.cancelSensor i (cancel i) with threadReset := true }
      else { t.leaveAfter (pure ()) with threadReset := false }
  | .connection =>
      if !t.threadReset && (t.pool.shared.records i).registered &&
          !t.pool.shared.outside.present i then
        t.cancelSensor i do
          cancel i
          setRecord i fun r => { r with registered := false }
      else t.leaveAfter (pure ())
  | .ack => t.leaveAfter (pure ())
  | .id =>
      if (t.pool.shared.records i).idOverdue t.pool.shared.outside.now then
        t.leaveAfter (sendxTEDS i)
      else t.leaveAfter (pure ())

/-- The monitor thread goes on when a part of a check is done. -/
def goOn (t : SMThreads n) : SMThreads n :=
  match t.todo, t.phase with
  | [], _ => { t with todo := checks n, phase := .between, rounds := t.rounds + 1 }
  | _ :: _, .between =>
      { t with pool := t.pool.goTo .monitor (lock .sensorData), phase := .entering }
  | (i, c) :: _, .entering => t.check i c
  | (i, _) :: _, .cancelling =>
      -- `StartUSBMonitor`
      { t.leaveAfter (pure ()) with started := Function.update t.started i (t.started i + 1) }
  | _ :: rest, .inside => { t with todo := rest, phase := .between }

/-- A thread runs, or does this when it is done. -/
def runOr (t : SMThreads n) (id : ThreadID n) (ends : Option (SMThreads n)) :
    Option (SMThreads n) :=
  match t.pool.program id with
  | .done () => ends
  | _ => (t.pool.run id).map fun pool => { t with pool }

/-- The thread was started and has not died. -/
def Live (t : SMThreads n) (i : Fin n) (g : Nat) : Prop := g < t.started i ∧ t.dead i g = false

instance (t : SMThreads n) (i : Fin n) (g : Nat) : Decidable (t.Live i g) :=
  inferInstanceAs (Decidable (_ ∧ _))

def next (t : SMThreads n) : SMTurn n → Option (SMThreads n)
  | .outside o =>
      some { t with pool := { t.pool with shared := { t.pool.shared with outside := o } } }
  | .monitor => t.runOr .monitor (some t.goOn)
  | .usb i g =>
      if t.Live i g then
        t.runOr (.usb i g) (some { t with pool := t.pool.goTo (.usb i g) (usbMonitor i) })
      else none
  | .die i g =>
      if t.Live i g ∧ t.cancelled i g = true then
        some { t with dead := Function.update t.dead i (Function.update (t.dead i) g true) }
      else none
  | .handler k => t.runOr (.handler k) none
  | .arrive k arrival =>
      match t.pool.program (.handler k) with
      | .done () => some { t with pool := t.pool.goTo (.handler k) (SensorLocks.handler arrival) }
      | _ => none

def machine (n : Nat) : Machine (SMThreads n) (SMTurn n) Unit where
  step t turn := (t.next turn).map fun t' => (t', ())

/-! ### What is asked of the mutexes -/

/-- The monitor thread looks at a record whose xTEDS is overdue: it is going to call `SendxTEDS`. -/
def Overdue (t : SMThreads n) : Prop :=
  ∃ i rest, t.pool.program .monitor = .done () ∧ t.phase = .entering ∧ t.todo = (i, .id) :: rest ∧
    (t.pool.shared.records i).idOverdue t.pool.shared.outside.now = true

/-- No thread waits for a mutex that it owns. -/
def NoneWaitsForItself (t : SMThreads n) : Prop :=
  ∀ id l next, t.pool.program id = .wait l next → t.pool.owner l ≠ some id

/-- No mutex stays with a dead thread. -/
def NoneOrphaned (t : SMThreads n) : Prop :=
  ∀ i g l, t.dead i g = true → t.pool.owner l ≠ some (.usb i g)

/-- The step sends no overdue xTEDS, and no thread dies that owns a mutex. -/
def Releases (t : SMThreads n) : SMTurn n → Prop
  | .monitor => ¬ t.Overdue
  | .die i g => t.pool.holds (.usb i g) = ∅
  | _ => True

/-- The monitor thread can come to its next round, or to an overdue xTEDS. -/
def CanComplete (t : SMThreads n) : Prop :=
  ∃ t', (machine n).Reaches Releases t t' ∧ (t.rounds < t'.rounds ∨ t'.Overdue)

/-! ### The invariant -/

/-- What the monitor thread holds at the end of a part of a check. -/
def heldAfter : Phase → Set (SMLock n)
  | .between | .inside => ∅
  | .entering | .cancelling => {.sensorData}

/-- Every thread keeps to the order of the mutexes, and threads that do not run hold none. -/
structure Good (t : SMThreads n) : Prop where
  monitor : t.pool.Ordered rank .monitor (heldAfter t.phase)
  others : ∀ id, id ≠ .monitor → t.pool.Ordered rank id ∅
  live : ∀ i g, ¬ t.Live i g → t.pool.holds (.usb i g) = ∅
  idle : t.todo = [] → t.phase = .between

variable {t t' : SMThreads n} {id : ThreadID n}

theorem holds_start (chosen : Fin n → Bool) (o : Outside n) :
    (start chosen o).pool.holds id = ∅ := by
  simp [start, Pool.holds]

theorem good_start (chosen : Fin n → Bool) (o : Outside n) : (start chosen o).Good where
  monitor := holds_start chosen o
  others id other := by
    unfold Pool.Ordered
    rw [holds_start]
    cases id with
    | monitor => exact absurd rfl other
    | usb i g => exact ordered_usbMonitor
    | handler k => exact .pure
  live i g _ := holds_start chosen o
  idle _ := rfl

/-- The post of a thread: what it holds when its program is done. -/
theorem Good.ordered (good : t.Good) (id : ThreadID n) :
    ∃ held, t.pool.Ordered rank id held := by
  by_cases same : id = .monitor
  · exact ⟨_, same ▸ good.monitor⟩
  · exact ⟨_, good.others id same⟩

theorem Good.noneWaitsForItself (good : t.Good) : t.NoneWaitsForItself := by
  intro id l next waits own
  obtain ⟨held, ordered⟩ := good.ordered id
  exact Nat.lt_irrefl _ (ordered.above waits own)

theorem Good.noneOrphaned (good : t.Good) : t.NoneOrphaned := by
  intro i g l dead own
  have none := good.live i g fun live => by simp [live.2] at dead
  exact (none.subset own : l ∈ (∅ : Set (SMLock n)))

/-- A step of a thread that runs. -/
theorem Good.run (good : t.Good) {pool : Pool (SMShared n) (SMLock n) (ThreadID n)}
    (step : t.pool.run id = some pool) (runs : ∀ i g, id = .usb i g → t.Live i g) :
    Good { t with pool } := by
  obtain ⟨held, ordered⟩ := good.ordered id
  refine ⟨?_, fun id' other => ?_, fun i g idle => ?_, good.idle⟩
  · by_cases same : id = .monitor
    · subst same
      exact good.monitor.run step
    · exact ordered.run_other step (Ne.symm same) good.monitor
  · by_cases same : id' = id
    · subst same
      exact (good.others id' other).run step
    · exact ordered.run_other step same (good.others id' other)
  · have other : ThreadID.usb i g ≠ id := fun same => idle (runs i g same.symm)
    exact (ordered.holds_run step other).trans (good.live i g idle)

/-- A thread gets another program. -/
theorem Good.goTo (good : t.Good) {program : SMProgram n Unit} (other : id ≠ .monitor)
    (ordered : program.Ordered rank ∅ (t.pool.holds id)) :
    Good { t with pool := t.pool.goTo id program } where
  monitor := good.monitor.goTo_other (Ne.symm other)
  others id' notMonitor := by
    by_cases same : id' = id
    · subst same
      exact Pool.ordered_goTo ordered
    · exact (good.others id' notMonitor).goTo_other same
  live := good.live
  idle := good.idle

section Monitor

variable {program : SMProgram n Unit}

/-- The monitor thread gets another program. -/
theorem Good.goToMonitor (good : t.Good) (busy : t.todo ≠ []) (phase : Phase)
    (ordered : program.Ordered rank (heldAfter phase) (t.pool.holds .monitor)) :
    Good { t with pool := t.pool.goTo .monitor program, phase } where
  monitor := Pool.ordered_goTo ordered
  others id' other := (good.others id' other).goTo_other other
  live := good.live
  idle none := absurd none busy

/-- What the monitor thread holds when a part of a check is done. -/
theorem Good.holds_monitor (good : t.Good) (done : t.pool.program .monitor = .done ()) :
    t.pool.holds .monitor = heldAfter t.phase := by
  have ordered := good.monitor
  rw [Pool.Ordered, done] at ordered
  exact ordered

variable (good : t.Good) (busy : t.todo ≠ []) (holds : t.pool.holds .monitor = {.sensorData})

include good busy holds

theorem Good.leaveAfter (ordered : program.Ordered rank {.sensorData} {.sensorData}) :
    (t.leaveAfter program).Good := by
  have given : (program >>= fun _ => unlock .sensorData).Ordered rank (heldAfter .inside)
      {.sensorData} := ordered.bind fun _ => ordered_unlockData
  refine good.goToMonitor busy .inside ?_
  rw [holds]
  exact given

theorem Good.cancelSensor {i : Fin n}
    (ordered : program.Ordered rank {.sensorData} {.sensorData}) :
    (t.cancelSensor i program).Good := by
  have started : program.Ordered rank (heldAfter .cancelling) (t.pool.holds .monitor) := by
    rw [holds]
    exact ordered
  have moved := good.goToMonitor busy .cancelling started
  exact { moved with }

theorem Good.check {i : Fin n} {c : Check}
    (fresh : c = .id → (t.pool.shared.records i).idOverdue t.pool.shared.outside.now = false) :
    (t.check i c).Good := by
  have cancels : (cancel i).Ordered rank {.sensorData} {.sensorData} :=
    ordered_cancel (by simp [rank])
  cases c with
  | registration =>
      simp only [SMThreads.check]
      split
      · exact { good.cancelSensor (i := i) busy holds cancels with }
      · exact { good.leaveAfter busy holds .pure with }
  | connection =>
      simp only [SMThreads.check]
      split
      · exact good.cancelSensor busy holds (.bind cancels fun _ => .write)
      · exact good.leaveAfter busy holds .pure
  | ack => exact good.leaveAfter busy holds .pure
  | id =>
      simp only [SMThreads.check]
      rw [fresh rfl]
      exact good.leaveAfter busy holds .pure

end Monitor

section GoOn

variable {i : Fin n} {c : Check} {rest : List (Fin n × Check)}

theorem goOn_nil (todo : t.todo = []) :
    t.goOn = { t with todo := checks n, phase := .between, rounds := t.rounds + 1 } := by
  simp [goOn, todo]

theorem goOn_between (todo : t.todo = (i, c) :: rest) (phase : t.phase = .between) :
    t.goOn = { t with pool := t.pool.goTo .monitor (lock .sensorData), phase := .entering } := by
  simp [goOn, todo, phase]

theorem goOn_entering (todo : t.todo = (i, c) :: rest) (phase : t.phase = .entering) :
    t.goOn = t.check i c := by
  simp [goOn, todo, phase]

theorem goOn_cancelling (todo : t.todo = (i, c) :: rest) (phase : t.phase = .cancelling) :
    t.goOn = { t.leaveAfter (pure ()) with
      started := Function.update t.started i (t.started i + 1) } := by
  simp [goOn, todo, phase]

theorem goOn_inside (todo : t.todo = (i, c) :: rest) (phase : t.phase = .inside) :
    t.goOn = { t with todo := rest, phase := .between } := by
  simp [goOn, todo, phase]

end GoOn

/-- The monitor thread goes on. -/
theorem Good.goOn (good : t.Good) (done : t.pool.program .monitor = .done ())
    (fresh : ¬ t.Overdue) : t.goOn.Good := by
  have holds := good.holds_monitor done
  have rests (empty : heldAfter t.phase = (∅ : Set (SMLock n))) (todo : List (Fin n × Check))
      (rounds : Nat) : Good { t with todo, phase := .between, rounds } := by
    have ordered := good.monitor
    rw [empty] at ordered
    exact { good with monitor := ordered, idle := fun _ => rfl }
  cases todo : t.todo with
  | nil =>
      rw [goOn_nil todo]
      exact rests (by rw [good.idle todo]; rfl) _ _
  | cons first rest =>
      have busy : t.todo ≠ [] := by simp [todo]
      obtain ⟨i, c⟩ := first
      cases phase : t.phase with
      | between =>
          rw [goOn_between todo phase]
          rw [phase] at holds
          refine good.goToMonitor busy .entering ?_
          rw [holds]
          exact ordered_lockData
      | entering =>
          rw [goOn_entering todo phase]
          rw [phase] at holds
          refine good.check busy holds ?_
          rintro rfl
          by_contra overdue
          exact fresh ⟨i, rest, done, phase, todo, by simpa using overdue⟩
      | cancelling =>
          rw [goOn_cancelling todo phase]
          rw [phase] at holds
          have left : (t.leaveAfter (pure ())).Good := good.leaveAfter busy holds .pure
          refine { left with live := fun j g idle => good.live j g fun live => idle ?_ }
          refine ⟨lt_of_lt_of_le live.1 ?_, live.2⟩
          by_cases here : j = i
          · subst here
            simp [Function.update_self]
          · simp [here]
      | inside =>
          rw [goOn_inside todo phase]
          exact rests (by rw [phase]; rfl) _ _

theorem runOr_cases {ends : Option (SMThreads n)} (step : t.runOr id ends = some t') :
    (t.pool.program id = .done () ∧ ends = some t') ∨
      ∃ pool, t.pool.run id = some pool ∧ t' = { t with pool } := by
  unfold runOr at step
  split at step
  · exact .inl ⟨‹_›, step⟩
  · obtain ⟨pool, run, rfl⟩ := Option.map_eq_some_iff.mp step
    exact .inr ⟨pool, run, rfl⟩

/-- **One step of any thread.** -/
theorem Good.next (good : t.Good) {turn : SMTurn n} (releases : t.Releases turn)
    (step : t.next turn = some t') : t'.Good := by
  cases turn with
  | outside o =>
      cases step
      exact { good with }
  | monitor =>
      obtain ⟨done, same⟩ | ⟨pool, run, rfl⟩ := runOr_cases step
      · cases same
        exact good.goOn done releases
      · exact good.run run (by rintro _ _ ⟨⟩)
  | usb i g =>
      obtain ⟨live, step⟩ := Option.ite_none_right_eq_some.mp step
      obtain ⟨done, same⟩ | ⟨pool, run, rfl⟩ := runOr_cases step
      · cases same
        have ordered := good.others (.usb i g) (by rintro ⟨⟩)
        rw [Pool.Ordered, done] at ordered
        have holds : t.pool.holds (.usb i g) = ∅ := ordered
        refine good.goTo (by rintro ⟨⟩) ?_
        rw [holds]
        exact ordered_usbMonitor
      · refine good.run run ?_
        rintro _ _ ⟨⟩
        exact live
  | die i g =>
      obtain ⟨⟨live, -⟩, same⟩ := Option.ite_none_right_eq_some.mp step
      cases same
      refine { good with live := fun j g' idle => ?_ }
      by_cases here : j = i ∧ g' = g
      · obtain ⟨rfl, rfl⟩ := here
        exact releases
      · refine good.live j g' fun live' => idle ⟨live'.1, ?_⟩
        by_cases sensor : j = i
        · subst sensor
          have other : g' ≠ g := fun same => here ⟨rfl, same⟩
          simpa [other] using live'.2
        · simpa [sensor] using live'.2
  | handler k =>
      obtain ⟨-, none⟩ | ⟨pool, run, rfl⟩ := runOr_cases step
      · cases none
      · exact good.run run (by rintro _ _ ⟨⟩)
  | arrive k arrival =>
      simp only [SMThreads.next] at step
      split at step
      · rename_i done
        cases step
        have ordered := good.others (.handler k) (by rintro ⟨⟩)
        rw [Pool.Ordered, done] at ordered
        have holds : t.pool.holds (.handler k) = ∅ := ordered
        refine good.goTo (by rintro ⟨⟩) ?_
        rw [holds]
        exact ordered_handler arrival
      · cases step

theorem Good.reaches (good : t.Good) (run : (machine n).Reaches Releases t t') : t'.Good := by
  refine run.invariant good ?_
  intro s turn s' _ good releases taken
  obtain ⟨next, step, same⟩ := Option.map_eq_some_iff.mp taken
  cases same
  exact good.next releases step

/-! ### The monitor thread completes its round -/

open Relation (ReflTransGen)

theorem reaches_next (turn : SMTurn n) (releases : t.Releases turn)
    (step : t.next turn = some t') : (machine n).Reaches Releases t t' :=
  .step (o := ()) .start releases (by simp [machine, step])

section Run

variable {pool : Pool (SMShared n) (SMLock n) (ThreadID n)}

theorem runOr_of_run (step : t.pool.run id = some pool) (ends : Option (SMThreads n)) :
    t.runOr id ends = some { t with pool } := by
  unfold runOr
  split
  · rename_i done
    rw [Pool.run, done] at step
    cases step
  · rw [step]
    rfl

/-- A thread that holds a mutex runs. -/
theorem Good.runs (good : t.Good) {l : SMLock n} (own : t.pool.owner l = some id)
    (other : id ≠ .monitor) (step : t.pool.run id = some pool) :
    (machine n).Reaches Releases t { t with pool } := by
  have going := runOr_of_run step
  cases id with
  | monitor => exact absurd rfl other
  | usb i g =>
      have live : t.Live i g := by
        by_contra idle
        exact (good.live i g idle).subset own
      refine reaches_next (.usb i g) trivial ?_
      simp [SMThreads.next, live, going]
  | handler k =>
      refine reaches_next (.handler k) trivial ?_
      simp [SMThreads.next, going]

theorem runs_monitor (step : t.pool.run .monitor = some pool) :
    (machine n).Reaches Releases t { t with pool } := by
  refine reaches_next .monitor ?_ (runOr_of_run step _)
  rintro ⟨_, _, done, _⟩
  rw [Pool.run, done] at step
  cases step

end Run

/-- A mutex that ranks above what the monitor thread holds becomes free, and the monitor thread is
where it was. -/
theorem Good.frees (good : t.Good) {l : SMLock n}
    (low : ∀ j ∈ t.pool.holds .monitor, rank j < rank l) :
    ∃ pool, (machine n).Reaches Releases t { t with pool } ∧ pool.owner l = none ∧
      pool.program .monitor = t.pool.program .monitor := by
  have high : t.pool.HighOrdered rank (rank l) := by
    intro id j le own
    refine good.others id ?_
    rintro rfl
    exact absurd (low j own) (not_lt.mpr le)
  obtain ⟨pool, steps, free⟩ := high.frees rank_le
  refine ⟨pool, ?_, free, (high.unmoved steps low).1⟩
  clear free
  induction steps with
  | refl => exact .start
  | tail done step ih =>
      obtain ⟨id, j, le, own, step⟩ := step
      refine ih.trans ((good.reaches ih).runs own ?_ step)
      rintro rfl
      exact absurd (low j ((high.unmoved done low).2.subset own)) (not_lt.mpr le)

/-- The monitor thread comes to the end of its program. -/
theorem Good.finishes (good : t.Good) :
    ∃ pool, (machine n).Reaches Releases t { t with pool } ∧
      pool.program .monitor = .done () := by
  induction program : t.pool.program .monitor generalizing t with
  | done => exact ⟨t.pool, .start, program⟩
  | crash =>
      have ordered := good.monitor
      rw [Pool.Ordered, program] at ordered
      exact ordered.elim
  | wait l next ih =>
      obtain ⟨free, run, none, same⟩ := good.frees fun j mem => good.monitor.above program mem
      have step : free.run .monitor = some (free.take .monitor l next) := by
        rw [Pool.run, same, program]
        exact if_pos none
      have taken := run.trans (runs_monitor (t := { t with pool := free }) step)
      obtain ⟨pool, rest, done⟩ := ih (good.reaches taken) Pool.program_take
      exact ⟨pool, taken.trans rest, done⟩
  | signal l next ih =>
      have step : t.pool.run .monitor = some (t.pool.release .monitor l next) := by
        rw [Pool.run, program]
      have given := runs_monitor step
      obtain ⟨pool, rest, done⟩ := ih (good.reaches given) Pool.program_release
      exact ⟨pool, given.trans rest, done⟩
  | access write next ih =>
      have step : t.pool.run .monitor =
          some (t.pool.goOn .monitor (write t.pool.shared) (next t.pool.shared)) := by
        rw [Pool.run, program]
      have gone := runs_monitor step
      obtain ⟨pool, rest, done⟩ := ih _ (good.reaches gone) Pool.program_goOn
      exact ⟨pool, gone.trans rest, done⟩

/-- The monitor thread goes on from the end of its program, or it finds an overdue xTEDS. -/
theorem Good.part (good : t.Good) :
    ∃ pool, (machine n).Reaches Releases t { t with pool } ∧
      (Overdue { t with pool } ∨
        (machine n).Reaches Releases t (SMThreads.goOn { t with pool })) := by
  obtain ⟨pool, run, done⟩ := good.finishes
  refine ⟨pool, run, ?_⟩
  by_cases overdue : Overdue { t with pool }
  · exact .inl overdue
  · refine .inr (run.trans (reaches_next .monitor overdue ?_))
    simp [SMThreads.next, runOr, done]

/-- The parts that are left of a check. -/
def partsLeft : Phase → Nat
  | .between => 3
  | .entering => 2
  | .cancelling => 1
  | .inside => 0

/-- The parts that are left of the round. -/
def workLeft (t : SMThreads n) : Nat := 4 * t.todo.length + partsLeft t.phase

theorem check_left {i : Fin n} (c : Check) (entering : t.phase = .entering) :
    (t.check i c).rounds = t.rounds ∧ (t.check i c).workLeft < t.workLeft := by
  cases c <;> simp only [SMThreads.check] <;> (try split) <;>
    simp [workLeft, partsLeft, entering, cancelSensor, leaveAfter]

/-- There is less to do after each part. -/
theorem goOn_left (busy : t.todo ≠ []) :
    t.goOn.rounds = t.rounds ∧ t.goOn.workLeft < t.workLeft := by
  cases todo : t.todo with
  | nil => exact absurd todo busy
  | cons first rest =>
      obtain ⟨i, c⟩ := first
      cases phase : t.phase with
      | between =>
          rw [goOn_between todo phase]
          simp [workLeft, partsLeft, phase]
      | entering =>
          rw [goOn_entering todo phase]
          exact check_left c phase
      | cancelling =>
          rw [goOn_cancelling todo phase]
          simp [workLeft, partsLeft, phase, leaveAfter]
      | inside =>
          rw [goOn_inside todo phase]
          refine ⟨rfl, ?_⟩
          simp only [workLeft, partsLeft, todo, phase, List.length_cons]
          omega

/-- **The monitor thread can complete its round.** -/
theorem Good.canComplete (good : t.Good) : t.CanComplete := by
  induction left : t.workLeft using Nat.strong_induction_on generalizing t with
  | _ left ih =>
      obtain ⟨pool, run, overdue | gone⟩ := good.part
      · exact ⟨_, run, .inr overdue⟩
      · by_cases busy : t.todo = []
        · refine ⟨_, gone, .inl ?_⟩
          rw [goOn_nil (t := { t with pool }) busy]
          exact Nat.lt_succ_self _
        · obtain ⟨rounds, less⟩ := goOn_left (t := { t with pool }) busy
          obtain ⟨t', rest, ends⟩ := ih _ (left ▸ less) (good.reaches gone) rfl
          refine ⟨t', gone.trans rest, ends.imp (fun later => ?_) id⟩
          rw [rounds] at later
          exact later

/-- **In the runs in which no thread dies that owns a mutex and no xTEDS is found overdue**, no
thread waits for a mutex that it owns, no dead thread owns one, and the monitor thread can always
complete its round. -/
theorem mutexes_released (chosen : Fin n → Bool) (o : Outside n)
    (run : (machine n).Reaches Releases (start chosen o) t) :
    t.NoneWaitsForItself ∧ t.NoneOrphaned ∧ t.CanComplete :=
  have good := (good_start chosen o).reaches run
  ⟨good.noneWaitsForItself, good.noneOrphaned, good.canComplete⟩

/-! ### Three runs -/

/-- A device that is there, at this time. -/
def attached (now : UInt32) (result : ReadResult) : Outside 1 where
  now := now
  present _ := true
  verified _ := true
  opens _ := true
  read _ := result
  subscribed _ := true

/-- The USB thread registers its sensor, and the monitor thread can complete its round. -/
theorem mutexes_released_registered :
    ∃ t : SMThreads 1, (t.pool.shared.records 0).registered = true ∧ t.CanComplete := by
  have ran : (((machine 1).exec (start (fun _ => true) (attached 1 (.xTEDS true)))
      (List.replicate 21 (.usb 0 0))).any
        fun t => (t.pool.shared.records 0).registered) = true := by decide +kernel
  obtain ⟨t, done, registered⟩ := (Option.any_eq_true _ _).mp ran
  have run : (machine 1).Reaches Releases _ t := Machine.Reaches.start.exec
    (fun turn mem s => by rw [List.eq_of_mem_replicate mem]; trivial) done
  exact ⟨t, registered, (mutexes_released _ _ run).2.2⟩

def waitsForItself (t : SMThreads 1) (id : ThreadID 1) : Bool :=
  match t.pool.program id with
  | .wait l _ => decide (t.pool.owner l = some id)
  | _ => false

theorem not_noneWaitsForItself {t : SMThreads 1} {id : ThreadID 1}
    (waits : waitsForItself t id = true) : ¬ t.NoneWaitsForItself := by
  intro none
  unfold waitsForItself at waits
  split at waits
  · exact none _ _ _ ‹_› (of_decide_eq_true waits)
  · cases waits

/-- A sensor is registered and acknowledged, and the SDMRegister that would make the Sensor Manager
send its xTEDS is late: the monitor thread sends it and waits for its own mutex. And a USB thread is
cancelled when it publishes data: the `sensor_mutex` stays with it. -/
theorem not_mutexes_released :
    (∃ t, (machine 1).Reachable (start (fun _ => true) (attached 1 (.xTEDS true))) t ∧
        ¬ t.NoneWaitsForItself) ∧
      ∃ t, (machine 1).Reachable (start (fun _ => true) (attached 1 .data)) t ∧
        ¬ t.NoneOrphaned := by
  constructor
  · have ran : (((machine 1).exec (start (fun _ => true) (attached 1 (.xTEDS true)))
        (List.replicate 24 (.usb 0 0) ++ .arrive 0 (.ack (.sensor 0)) ::
          (List.replicate 5 (.handler 0) ++ .outside (attached 100 (.xTEDS true)) ::
            List.replicate 24 .monitor))).any (waitsForItself · .monitor)) = true := by
      decide +kernel
    obtain ⟨t, done, waits⟩ := (Option.any_eq_true _ _).mp ran
    exact ⟨t, Machine.Reaches.start.exec (fun _ _ _ => trivial) done, not_noneWaitsForItself waits⟩
  · have ran : (((machine 1).exec (start (fun _ => true) (attached 1 .data))
        (List.replicate 10 (.usb 0 0) ++ .outside (attached 10 .data) ::
          (List.replicate 4 .monitor ++ [.die 0 0]))).any fun t =>
            t.dead 0 0 && decide (t.pool.owner (.sensor 0) = some (.usb 0 0))) = true := by
      decide +kernel
    obtain ⟨t, done, both⟩ := (Option.any_eq_true _ _).mp ran
    obtain ⟨dead, own⟩ := Bool.and_eq_true_iff.mp both
    exact ⟨t, Machine.Reaches.start.exec (fun _ _ _ => trivial) done,
      fun none => none 0 0 _ dead (of_decide_eq_true own)⟩

end SMThreads

end Sdm
