import Mathlib.Data.Finset.Card
import Mathlib.Data.Finset.Max
import Mathlib.Data.Fintype.Card
import Sdm.Common.TimerList
import Sdm.Lib.Machine

/-!
The timer service: one process interval timer for all timers of the list.

`SDM_CreateTimer` and `SDM_DeleteTimer` set the interval timer when the alarm has to come
earlier, or when the timer that it was set for is gone. When it expires, `SIGALRM` is pending
until `TimerHandler` takes it; the handler looks for the timers that have expired and sets the
interval timer once, before it has started the others of them again.

* `timerHandler_returns`: the loop of the handler ends.
* `stays_armed`: while any timer is active the alarm is pending or set, no later than the
  first timer expires, in every run whose steps meet `KeepsArmed`; and a further step keeps it
  so exactly when it meets this condition.
-/

namespace Sdm

open Sdm.Lib

/-- What `SDM_GetTime` reads. -/
structure ClockReading where
  CurSec : UInt32
  CurUSec : UInt32
  normal : CurUSec.toNat < 1000000
deriving DecidableEq

/-- A time value from two `unsigned int`s. -/
def ofUnsigned (Seconds USeconds : UInt32) : SecTime := ⟨Seconds.toNat, USeconds.toNat⟩

def ClockReading.time (cur : ClockReading) : SecTime := ofUnsigned cur.CurSec cur.CurUSec

theorem ofUnsigned_normal {Seconds USeconds : UInt32} (lt : USeconds.toNat < 1000000) :
    (ofUnsigned Seconds USeconds).Normal :=
  ⟨Int.natCast_nonneg _, Int.ofNat_lt.mpr lt⟩

theorem ClockReading.time_normal (cur : ClockReading) : cur.time.Normal :=
  ofUnsigned_normal cur.normal

theorem ClockReading.time_nonneg (cur : ClockReading) : 0 ≤ cur.time.Sec := Int.natCast_nonneg _

/-- `itimer` is the time at which `ITIMER_REAL` expires, in microseconds, when it is armed;
`sigalrm` says that `SIGALRM` is pending; `now` is the latest reading of the clock. -/
structure TimerService where
  Timers : TimerList
  itimer : Option Int
  sigalrm : Bool
  now : ClockReading

namespace TimerService

def start : TimerService := ⟨.init, none, false, ⟨0, 0, by decide⟩⟩

/-! ### The interval timer -/

/-- Time passes: the interval timer expires when its time has come. -/
def advance (s : TimerService) (cur : ClockReading) : TimerService :=
  match s.itimer with
  | none => { s with now := cur }
  | some e =>
      if e ≤ cur.time.micros then { s with itimer := none, sigalrm := true, now := cur }
      else { s with now := cur }

/-- The time left of the interval timer, zero when it is not armed. -/
def getitimer (s : TimerService) : SecTime :=
  match s.itimer with
  | none => ⟨0, 0⟩
  | some e => ⟨(e - s.now.time.micros) / 1000000, (e - s.now.time.micros) % 1000000⟩

/-- Arm the interval timer for one alarm, or disarm it with a zero interval. A number of
microseconds that is no part of a second is refused. -/
def setitimer (s : TimerService) (it_value : SecTime) : TimerService :=
  if SecTime.USEC_MAX_VALUE ≤ it_value.USec then s
  else if it_value.Sec = 0 ∧ it_value.USec = 0 then { s with itimer := none }
  else { s with itimer := some (s.now.time.micros + it_value.micros) }

/-! ### The operations -/

/-- `static_cast<unsigned int>`. -/
def toUnsigned (x : Int) : Int := x % 4294967296

def SDM_CreateTimer (s : TimerService) (Seconds USeconds : UInt32) (Callback : Nat)
    (Periodic : Bool) : TimerService × Int32 :=
  let added := s.Timers.AddTimer (ofUnsigned Seconds USeconds) s.now.time Callback Periodic
  let TimeVal := s.getitimer
  if added.1.IsEmpty ∨ (TimeVal.Sec = 0 ∧ TimeVal.USec = 0) then
    (({ s with Timers := added.1.SetRunningTimer added.2 } : TimerService).setitimer
      (ofUnsigned Seconds USeconds), added.2)
  -- The running alarm comes after this timer expires.
  else if toUnsigned TimeVal.Sec > Seconds.toNat ∨
      (toUnsigned TimeVal.Sec = Seconds.toNat ∧ toUnsigned TimeVal.USec > USeconds.toNat) then
    (({ s with Timers := added.1.SetRunningTimer added.2 } : TimerService).setitimer
      (ofUnsigned Seconds USeconds), added.2)
  else ({ s with Timers := added.1 }, added.2)

def SDM_DeleteTimer (s : TimerService) (TimerID : Int32) : TimerService :=
  let rest : TimerService := { s with Timers := (s.Timers.RemoveTimer TimerID).1 }
  if s.Timers.CurRunningTimer = TimerID then
    let stopped := rest.setitimer ⟨0, 0⟩
    let next := stopped.Timers.GetSmallestTimerInterval stopped.now.time
    if next.1 < 0 then stopped
    else
      ({ stopped with Timers := stopped.Timers.SetRunningTimer next.1 } : TimerService).setitimer
        next.2
  else rest

/-- The timers after the first statement of the loop: a timer that is not periodic is gone. -/
def finished (Timers : TimerList) (TimerID : Int32) : TimerList :=
  if Timers.IsPeriodic TimerID then Timers else (Timers.RemoveTimer TimerID).1

/-- One round of the loop of `TimerHandler` for an expired timer, with the callback that it
calls, if there is one. The interval timer is set in the first round only. -/
def serve (s : TimerService) (TimerSet : Bool) (TimerID : Int32) :
    TimerService × List (Nat × Int32) :=
  let Timers := finished s.Timers TimerID
  let next := Timers.GetSmallestTimerInterval s.now.time
  let s : TimerService :=
    if TimerSet then { s with Timers := Timers }
    else ({ s with Timers := Timers.SetRunningTimer next.1 } : TimerService).setitimer next.2
  let Callback := s.Timers.GetCallback TimerID
  (s, if Callback = 0 then [] else [(Callback, TimerID)])

/-- The loop of `TimerHandler`, with the calls that it makes; nothing when the fuel runs out. -/
def serveExpired : Nat → TimerService → Bool → Int32 → Option (TimerService × List (Nat × Int32))
  | 0, s, _, TimerID => if 0 < TimerID then none else some (s, [])
  | fuel + 1, s, TimerSet, TimerID =>
      if 0 < TimerID then
        let served := s.serve TimerSet TimerID
        let found := served.1.Timers.WhichExpired s.now.time
        (serveExpired fuel { served.1 with Timers := found.1 } true found.2).map fun rest =>
          (rest.1, served.2 ++ rest.2)
      else some (s, [])

/-- `TimerHandler` from `sigwait` to its next round. -/
def TimerHandler (s : TimerService) : Option (TimerService × List (Nat × Int32)) :=
  let found := s.Timers.WhichExpired s.now.time
  let s : TimerService := { s with sigalrm := false, Timers := found.1 }
  -- Could not identify the expired timer.
  if found.2 < 0 then some (s, [])
  else s.serveExpired MAX_NUM_TIMERS false found.2

/-- What a step shows: the result of a call, or the callbacks that were called. -/
inductive TimerOut
  | id (TimerID : Int32)
  | deleted
  | called (calls : List (Nat × Int32))

/-- Each step reads the clock. -/
inductive TimerAction
  | CreateTimer (cur : ClockReading) (Seconds USeconds : UInt32) (Callback : Nat)
      (Periodic : Bool)
  | DeleteTimer (cur : ClockReading) (TimerID : Int32)
  | Alarm (cur : ClockReading)

def TimerAction.cur : TimerAction → ClockReading
  | .CreateTimer cur _ _ _ _ => cur
  | .DeleteTimer cur _ => cur
  | .Alarm cur => cur

/-- The step at the time of its reading. -/
def act (s : TimerService) : TimerAction → Option (TimerService × TimerOut)
  | .CreateTimer _ Seconds USeconds Callback Periodic =>
      let created := s.SDM_CreateTimer Seconds USeconds Callback Periodic
      some (created.1, .id created.2)
  | .DeleteTimer _ TimerID => some (s.SDM_DeleteTimer TimerID, .deleted)
  | .Alarm _ =>
      if s.sigalrm then (s.TimerHandler).map fun r => (r.1, .called r.2) else none

/-- The timer service at a clock that does not go back. -/
def machine : Machine TimerService TimerAction TimerOut where
  step s a := if s.now.time ≤ a.cur.time then (s.advance a.cur).act a else none

/-! ### What keeps the service armed -/

/-- For every timer in use the alarm is pending, or the interval timer is armed and expires no
later than the timer does. -/
def Armed (s : TimerService) : Prop :=
  ∀ i, (s.Timers.Timers i).Active → s.sigalrm = true ∨
    ∃ e ∈ s.itimer, s.now.time.micros < e ∧ e ≤ (s.Timers.Timers i).expireTime.micros

/-- The alarm is pending, or the interval timer has expired at this time. -/
def AlarmDue (s : TimerService) (cur : ClockReading) : Prop :=
  s.sigalrm = true ∨ ∃ e ∈ s.itimer, e ≤ cur.time.micros

instance (s : TimerService) (cur : ClockReading) : Decidable (s.AlarmDue cur) :=
  inferInstanceAs (Decidable (_ ∨ ∃ e ∈ s.itimer, _))

/-- The times are those of the searches, the microseconds are part of a second, and there are
identifiers left. -/
def InRange (s : TimerService) : TimerAction → Prop
  | .CreateTimer cur Seconds USeconds _ _ =>
      USeconds.toNat < 1000000 ∧ (ofUnsigned Seconds USeconds + cur.time).Sec < 0x7FFFFFFF ∧
        s.Timers.CurID ≠ Int32.maxValue
  | .DeleteTimer _ _ => True
  | .Alarm cur =>
      ∀ i, s.Timers.Overdue cur.time i → (s.Timers.Timers i).Periodic = true →
        ((s.Timers.Timers i).TimerVal + cur.time).Sec < 0x7FFFFFFF

instance (s : TimerService) : (a : TimerAction) → Decidable (s.InRange a)
  | .CreateTimer _ _ _ _ _ => inferInstanceAs (Decidable (_ ∧ _ ∧ _))
  | .DeleteTimer _ _ => instDecidableTrue
  | .Alarm _ => inferInstanceAs (Decidable (∀ _, _ → _ = true → _))

/-- A timer is created with an interval other than zero, or while an alarm is pending. When the
alarm is handled a timer is overdue, and the timer that expires next (if any stays) is not due
at this very instant, nor an overdue timer after the first one; or, when none is overdue, the
interval timer was armed again in the meantime. -/
def KeepsArmed (s : TimerService) : TimerAction → Prop
  | .CreateTimer cur Seconds USeconds _ _ =>
      s.AlarmDue cur ∨ ¬ (Seconds = 0 ∧ USeconds = 0)
  | .DeleteTimer _ _ => True
  | .Alarm cur =>
      if ∃ i, s.Timers.Overdue cur.time i then
        (∀ i, ¬ s.Timers.Stays cur.time i) ∨ ∃ i, s.Timers.NextAlarm cur.time i
      else
        ∀ i, (s.Timers.Timers i).Active →
          ∃ e ∈ s.itimer, cur.time.micros < e ∧ e ≤ (s.Timers.Timers i).expireTime.micros

instance (s : TimerService) : (a : TimerAction) → Decidable (s.KeepsArmed a)
  | .CreateTimer _ _ _ _ _ => inferInstanceAs (Decidable (_ ∨ ¬ (_ ∧ _)))
  | .DeleteTimer _ _ => instDecidableTrue
  | .Alarm _ =>
      inferInstanceAs (Decidable (if ∃ _, _ then _ else ∀ _, _ → ∃ e ∈ s.itimer, _ ∧ _))

section Steps

variable {s s' : TimerService} {cur : ClockReading} {a : TimerAction} {out : TimerOut}

/-! ### The interval timer and the clock -/

/-- The list is coherent, and the interval timer expires after the latest reading of the clock,
at a time that the searches can find. -/
structure Ready (s : TimerService) : Prop where
  timers : s.Timers.Coherent
  later : ∀ e ∈ s.itimer, s.now.time.micros < e
  early : ∀ e ∈ s.itimer, e < 0x7FFFFFFF * 1000000

theorem ready_start : start.Ready := ⟨TimerList.coherent_init, nofun, nofun⟩

theorem armed_start : start.Armed := fun _ active => absurd rfl active

@[simp]
theorem advance_Timers : (s.advance cur).Timers = s.Timers := by
  unfold advance
  split
  · rfl
  · split <;> rfl

@[simp]
theorem advance_now : (s.advance cur).now = cur := by
  unfold advance
  split
  · rfl
  · split <;> rfl

theorem mem_advance_itimer {e : Int} :
    e ∈ (s.advance cur).itimer ↔ e ∈ s.itimer ∧ cur.time.micros < e := by
  unfold advance
  cases armed : s.itimer with
  | none => simp
  | some e' =>
      by_cases passed : e' ≤ cur.time.micros
      · simp only [passed, if_true, Option.mem_def, reduceCtorEq, Option.some_inj, false_iff,
          not_and, not_lt]
        rintro rfl
        exact passed
      · simp only [passed, if_false, Option.mem_def, Option.some_inj]
        refine ⟨?_, And.left⟩
        rintro rfl
        exact ⟨rfl, not_le.mp passed⟩

theorem advance_sigalrm : (s.advance cur).sigalrm = true ↔ s.AlarmDue cur := by
  unfold advance AlarmDue
  cases armed : s.itimer with
  | none => simp
  | some e => by_cases passed : e ≤ cur.time.micros <;> simp [passed]

/-- As time passes the interval timer stays ahead of the clock. -/
theorem Ready.advance (ready : s.Ready) (cur : ClockReading) : (s.advance cur).Ready where
  timers := by
    rw [advance_Timers]
    exact ready.timers
  later e mem := by
    rw [advance_now]
    exact (mem_advance_itimer.mp mem).2
  early e mem := ready.early e (mem_advance_itimer.mp mem).1

/-- An alarm that was set in time is pending in time. -/
theorem Armed.advance (armed : s.Armed) (cur : ClockReading) : (s.advance cur).Armed := by
  intro i active
  rw [advance_Timers] at active ⊢
  rw [advance_now]
  rcases armed i active with pending | ⟨e, set, -, before⟩
  · exact .inl (advance_sigalrm.mpr (.inl pending))
  · by_cases passed : e ≤ cur.time.micros
    · exact .inl (advance_sigalrm.mpr (.inr ⟨e, set, passed⟩))
    · exact .inr ⟨e, mem_advance_itimer.mpr ⟨set, not_le.mp passed⟩, not_le.mp passed, before⟩

@[simp]
theorem setitimer_Timers {it_value : SecTime} : (s.setitimer it_value).Timers = s.Timers := by
  unfold setitimer
  split
  · rfl
  · split <;> rfl

@[simp]
theorem setitimer_now {it_value : SecTime} : (s.setitimer it_value).now = s.now := by
  unfold setitimer
  split
  · rfl
  · split <;> rfl

@[simp]
theorem setitimer_sigalrm {it_value : SecTime} : (s.setitimer it_value).sigalrm = s.sigalrm := by
  unfold setitimer
  split
  · rfl
  · split <;> rfl

/-- A normal interval arms the interval timer, unless it is zero. -/
theorem mem_setitimer_itimer {it_value : SecTime} (normal : it_value.Normal) {e : Int} :
    e ∈ (s.setitimer it_value).itimer ↔
      it_value.micros ≠ 0 ∧ e = s.now.time.micros + it_value.micros := by
  unfold setitimer
  rw [if_neg (not_le.mpr normal.lt)]
  by_cases zero : it_value.Sec = 0 ∧ it_value.USec = 0
  · rw [if_pos zero]
    exact iff_of_false nofun fun h => h.1 ((SecTime.micros_eq_zero normal).mpr zero)
  · rw [if_neg zero]
    have nonzero := mt (SecTime.micros_eq_zero normal).mp zero
    simp [nonzero, eq_comm]

/-! ### SDM_CreateTimer -/

/-- A timer is in use after `AddTimer`, a new one or the others. -/
theorem exists_active_addTimer (timers : s.Timers.Coherent) (v t : SecTime) (Callback : Nat)
    (Periodic : Bool) :
    ∃ i, ((s.Timers.AddTimer v t Callback Periodic).1.Timers i).Active := by
  rcases TimerList.addTimer_cases (l := s.Timers) v t Callback Periodic with
    ⟨full, same⟩ | ⟨i, -, added⟩
  · rw [same]
    exact ⟨⟨0, by decide⟩, full _⟩
  · refine ⟨i, ?_⟩
    rw [added]
    intro free
    have counter := timers.counter
    dsimp only at free
    rw [TimerList.modify_self] at free
    dsimp only at free
    rw [free] at counter
    exact absurd counter (by decide)

theorem isEmpty_addTimer (timers : s.Timers.Coherent) (v t : SecTime) (Callback : Nat)
    (Periodic : Bool) : (s.Timers.AddTimer v t Callback Periodic).1.IsEmpty = false := by
  obtain ⟨i, active⟩ := exists_active_addTimer timers v t Callback Periodic
  cases empty : (s.Timers.AddTimer v t Callback Periodic).1.IsEmpty with
  | false => rfl
  | true =>
      have all := Fin.eq_false_of_find?_eq_none (p := fun i =>
        ((s.Timers.AddTimer v t Callback Periodic).1.Timers i).TimerID != TIMER_INACTIVE)
        (Option.isNone_iff_eq_none.mp empty) i
      exact absurd (bne_eq_false_iff_eq.mp all) active

/-- The time left of the interval timer, as the difference of two times. -/
theorem getitimer_of_armed {e : Int} (armed : s.itimer = some e) :
    s.getitimer.Normal ∧ s.getitimer.micros = e - s.now.time.micros := by
  unfold getitimer
  rw [armed]
  constructor
  · constructor <;> simp only [SecTime.USEC_MAX_VALUE] <;> omega
  · simp only [SecTime.micros, SecTime.USEC_MAX_VALUE]
    omega

/-- The comparison of the time left with the interval, on `unsigned int`s. -/
theorem running_later_iff (ready : s.Ready) {e : Int} (armed : s.itimer = some e)
    {Seconds USeconds : UInt32} (lt : USeconds.toNat < 1000000) :
    (toUnsigned s.getitimer.Sec > Seconds.toNat ∨ (toUnsigned s.getitimer.Sec = Seconds.toNat ∧
      toUnsigned s.getitimer.USec > USeconds.toNat)) ↔
      s.now.time.micros + (ofUnsigned Seconds USeconds).micros < e := by
  obtain ⟨normal, left⟩ := getitimer_of_armed armed
  have later := ready.later e armed
  have early := ready.early e armed
  have clock := s.now.time_nonneg
  have clock' := s.now.time_normal.nonneg
  obtain ⟨low, high⟩ := normal
  simp only [SecTime.micros, SecTime.USEC_MAX_VALUE, ofUnsigned] at *
  have seconds : toUnsigned s.getitimer.Sec = s.getitimer.Sec :=
    Int.emod_eq_of_lt (by omega) (by omega)
  have rest : toUnsigned s.getitimer.USec = s.getitimer.USec :=
    Int.emod_eq_of_lt low (by omega)
  rw [seconds, rest]
  omega

/-- `SDM_CreateTimer` changes the list by `AddTimer`, and sets the interval timer when it is
not armed or expires after the new timer. -/
theorem createTimer_spec (ready : s.Ready) (Seconds : UInt32) {USeconds : UInt32}
    (Callback : Nat) (Periodic : Bool) (lt : USeconds.toNat < 1000000) :
    (s.SDM_CreateTimer Seconds USeconds Callback Periodic).1.Timers.Timers =
        (s.Timers.AddTimer (ofUnsigned Seconds USeconds) s.now.time Callback Periodic).1.Timers ∧
      (s.SDM_CreateTimer Seconds USeconds Callback Periodic).1.Timers.CurID =
        (s.Timers.AddTimer (ofUnsigned Seconds USeconds) s.now.time Callback Periodic).1.CurID ∧
      (s.SDM_CreateTimer Seconds USeconds Callback Periodic).1.now = s.now ∧
      (s.SDM_CreateTimer Seconds USeconds Callback Periodic).1.sigalrm = s.sigalrm ∧
      ∀ e, e ∈ (s.SDM_CreateTimer Seconds USeconds Callback Periodic).1.itimer ↔
        if ∃ e' ∈ s.itimer, e' ≤ s.now.time.micros + (ofUnsigned Seconds USeconds).micros then
          e ∈ s.itimer
        else (ofUnsigned Seconds USeconds).micros ≠ 0 ∧
          e = s.now.time.micros + (ofUnsigned Seconds USeconds).micros := by
  have normal : (ofUnsigned Seconds USeconds).Normal := ofUnsigned_normal lt
  unfold SDM_CreateTimer
  simp only [isEmpty_addTimer ready.timers, Bool.false_eq_true, false_or]
  cases armed : s.itimer with
  | none =>
      have stopped : s.getitimer.Sec = 0 ∧ s.getitimer.USec = 0 := by
        unfold getitimer
        rw [armed]
        exact ⟨rfl, rfl⟩
      rw [if_pos stopped]
      refine ⟨by simp, by simp, setitimer_now, setitimer_sigalrm, fun e => ?_⟩
      rw [mem_setitimer_itimer normal, if_neg nofun]
  | some e₀ =>
      have running : ¬ (s.getitimer.Sec = 0 ∧ s.getitimer.USec = 0) := by
        obtain ⟨normal', left⟩ := getitimer_of_armed armed
        rw [← SecTime.micros_eq_zero normal', left]
        have later := ready.later e₀ armed
        omega
      rw [if_neg running]
      by_cases sooner : s.now.time.micros + (ofUnsigned Seconds USeconds).micros < e₀
      · rw [if_pos ((running_later_iff ready armed lt).mpr sooner)]
        refine ⟨by simp, by simp, setitimer_now, setitimer_sigalrm, fun e => ?_⟩
        rw [mem_setitimer_itimer normal, if_neg]
        rintro ⟨e', mem, before⟩
        cases mem
        omega
      · rw [if_neg (mt (running_later_iff ready armed lt).mp sooner)]
        refine ⟨rfl, rfl, rfl, rfl, fun e => ?_⟩
        rw [if_pos ⟨e₀, rfl, not_lt.mp sooner⟩]

/-- A new timer in range fits. -/
theorem fits_of_range {Seconds USeconds : UInt32} (Callback : Nat) (Periodic : Bool) (ID : Int32)
    (lt : USeconds.toNat < 1000000)
    (early : (ofUnsigned Seconds USeconds + cur.time).Sec < 0x7FFFFFFF) :
    TimerListItem.Fits ⟨ofUnsigned Seconds USeconds, cur.time, ID, Periodic, Callback⟩ where
  value := ofUnsigned_normal lt
  nonneg := Int.natCast_nonneg _
  started := cur.time_normal
  early := early

theorem Ready.createTimer (ready : s.Ready) {Seconds USeconds : UInt32} {Callback : Nat}
    {Periodic : Bool} (lt : USeconds.toNat < 1000000)
    (early : (ofUnsigned Seconds USeconds + s.now.time).Sec < 0x7FFFFFFF)
    (room : s.Timers.CurID ≠ Int32.maxValue) :
    (s.SDM_CreateTimer Seconds USeconds Callback Periodic).1.Ready := by
  obtain ⟨timers, counter, clock, -, alarm⟩ :=
    createTimer_spec ready Seconds Callback Periodic lt
  have fits := fits_of_range Callback Periodic s.Timers.CurID lt early
  have added := ready.timers.addTimer room fits
  have nonneg := fits.micros_nonneg
  constructor
  · refine added.of_timers counter fun i active => ?_
    rw [timers] at active ⊢
    exact ⟨rfl, added.fits i active⟩
  · intro e mem
    rw [clock]
    have mem' := (alarm e).mp mem
    split at mem'
    · exact ready.later e mem'
    · dsimp only at nonneg
      omega
  · intro e mem
    have mem' := (alarm e).mp mem
    split at mem'
    · exact ready.early e mem'
    · have high := fits.expire_normal.micros_lt early
      rw [TimerListItem.expireTime, SecTime.micros_add] at high
      dsimp only at high
      omega

/-- The service stays armed when a timer is created, unless its interval is zero and no alarm is
pending. -/
theorem armed_createTimer_iff (ready : s.Ready) (armed : s.Armed) {Seconds USeconds : UInt32}
    {Callback : Nat} {Periodic : Bool} (lt : USeconds.toNat < 1000000) :
    (s.SDM_CreateTimer Seconds USeconds Callback Periodic).1.Armed ↔
      s.sigalrm = true ∨ ¬ (Seconds = 0 ∧ USeconds = 0) := by
  obtain ⟨timers, -, clock, pending, alarm⟩ :=
    createTimer_spec ready Seconds Callback Periodic lt
  have normal : (ofUnsigned Seconds USeconds).Normal := ofUnsigned_normal lt
  have zero : (ofUnsigned Seconds USeconds).micros = 0 ↔ Seconds = 0 ∧ USeconds = 0 := by
    rw [SecTime.micros_eq_zero normal, ← UInt32.toNat_inj, ← UInt32.toNat_inj]
    exact and_congr Int.ofNat_inj Int.ofNat_inj
  have nonneg : 0 ≤ (ofUnsigned Seconds USeconds).micros := by
    simp only [SecTime.micros, SecTime.USEC_MAX_VALUE, ofUnsigned]
    omega
  constructor
  · intro after
    by_contra not
    obtain ⟨quiet, none⟩ := not_or.mp not
    have none := zero.mpr (not_not.mp none)
    obtain ⟨i, active⟩ := exists_active_addTimer ready.timers (ofUnsigned Seconds USeconds)
      s.now.time Callback Periodic
    rw [← timers] at active
    rcases after i active with pending' | ⟨e, mem, -, -⟩
    · exact quiet (pending ▸ pending')
    · have mem' := (alarm e).mp mem
      split at mem'
      · rename_i running
        obtain ⟨e', mem', before⟩ := running
        have later := ready.later e' mem'
        omega
      · exact mem'.1 none
  · intro kept i active
    rcases kept with pending' | nonzero
    · exact .inl (pending ▸ pending')
    · have positive := mt zero.mp nonzero
      rw [clock, timers] at *
      -- The alarm that is set comes no later than the old one and than the new timer.
      have sooner : ∀ x, ((∃ e ∈ s.itimer, e ≤ x) ∨
          s.now.time.micros + (ofUnsigned Seconds USeconds).micros ≤ x) →
          ∃ e ∈ (s.SDM_CreateTimer Seconds USeconds Callback Periodic).1.itimer,
            s.now.time.micros < e ∧ e ≤ x := by
        intro x before
        by_cases running : ∃ e ∈ s.itimer,
            e ≤ s.now.time.micros + (ofUnsigned Seconds USeconds).micros
        · obtain ⟨e, mem, early⟩ := running
          refine ⟨e, (alarm e).mpr (by rwa [if_pos ⟨e, mem, early⟩]), ready.later e mem, ?_⟩
          rcases before with ⟨e', mem', before⟩ | before
          · cases mem.symm.trans mem'
            exact before
          · exact early.trans before
        · refine ⟨_, (alarm _).mpr (by rw [if_neg running]; exact ⟨positive, rfl⟩), by omega, ?_⟩
          rcases before with ⟨e', mem', before⟩ | before
          · by_contra high
            exact running ⟨e', mem', by omega⟩
          · exact before
      rcases TimerList.addTimer_cases (l := s.Timers) (ofUnsigned Seconds USeconds) s.now.time
          Callback Periodic with ⟨-, same⟩ | ⟨k, -, added⟩
      · rw [same] at active ⊢
        rw [pending]
        refine (armed i active).imp_right ?_
        rintro ⟨e, mem, -, before⟩
        exact sooner _ (.inl ⟨e, mem, before⟩)
      · rw [added] at active ⊢
        dsimp only at active ⊢
        by_cases here : i = k
        · subst here
          rw [TimerList.modify_self] at active ⊢
          refine .inr (sooner _ (.inr ?_))
          rw [TimerListItem.expireTime, SecTime.micros_add]
          exact (Int.add_comm _ _).le
        · rw [TimerList.modify_of_ne here] at active ⊢
          rw [pending]
          refine (armed i active).imp_right ?_
          rintro ⟨e, mem, -, before⟩
          exact sooner _ (.inl ⟨e, mem, before⟩)

/-! ### SDM_DeleteTimer -/

/-- `setitimer` of the least time left: the interval timer expires with the first of the timers
that are not overdue, unless this is due now. -/
theorem smallest_armed (timers : s.Timers.Coherent) {ID : Int32} {left : SecTime}
    (found : s.Timers.GetSmallestTimerInterval s.now.time = (ID, left)) :
    ∀ e, e ∈ (({ s with Timers := s.Timers.SetRunningTimer ID } : TimerService).setitimer
        left).itimer ↔
      s.now.time.micros < e ∧ ∃ i, (s.Timers.Timers i).Active ∧
        e = (s.Timers.Timers i).expireTime.micros ∧
        ∀ j, (s.Timers.Timers j).Active →
          s.now.time.micros ≤ (s.Timers.Timers j).expireTime.micros →
          e ≤ (s.Timers.Timers j).expireTime.micros := by
  intro e
  rcases timers.getSmallestTimerInterval s.now.time_normal s.now.time_nonneg with
    ⟨passed, none⟩ | ⟨i, left', active, some, normal, nonneg, value, least⟩
  · cases none.symm.trans found
    rw [mem_setitimer_itimer (by decide)]
    refine iff_of_false (fun h => h.1 rfl) ?_
    rintro ⟨later, i, active, rfl, -⟩
    exact absurd (passed i active) (not_lt.mpr later.le)
  · cases some.symm.trans found
    rw [mem_setitimer_itimer normal]
    dsimp only
    constructor
    · rintro ⟨nonzero, rfl⟩
      refine ⟨by omega, i, active, by omega, fun j active' ahead => ?_⟩
      have := least j active' ahead
      omega
    · rintro ⟨later, j, active', rfl, first⟩
      have before := first i active (by omega)
      have after := least j active' later.le
      omega

theorem timerID_not_neg (timers : s.Timers.Coherent) {i : Fin MAX_NUM_TIMERS}
    (active : (s.Timers.Timers i).Active) : ¬ (s.Timers.Timers i).TimerID < 0 := by
  have given := (timers.given i active).1
  rw [Int32.lt_iff_toInt_lt]
  exact not_lt.mpr given.le

/-- `SDM_DeleteTimer` removes the timer, and sets the interval timer anew when it was set for
this timer. -/
theorem deleteTimer_spec (ready : s.Ready) (TimerID : Int32) :
    (s.SDM_DeleteTimer TimerID).Timers.Timers = (s.Timers.RemoveTimer TimerID).1.Timers ∧
      (s.SDM_DeleteTimer TimerID).Timers.CurID = s.Timers.CurID ∧
      (s.SDM_DeleteTimer TimerID).now = s.now ∧
      (s.SDM_DeleteTimer TimerID).sigalrm = s.sigalrm ∧
      ((s.SDM_DeleteTimer TimerID).itimer = s.itimer ∨
        ∀ e, e ∈ (s.SDM_DeleteTimer TimerID).itimer ↔
          s.now.time.micros < e ∧ ∃ i, ((s.Timers.RemoveTimer TimerID).1.Timers i).Active ∧
            e = ((s.Timers.RemoveTimer TimerID).1.Timers i).expireTime.micros ∧
            ∀ j, ((s.Timers.RemoveTimer TimerID).1.Timers j).Active →
              s.now.time.micros ≤ ((s.Timers.RemoveTimer TimerID).1.Timers j).expireTime.micros →
              e ≤ ((s.Timers.RemoveTimer TimerID).1.Timers j).expireTime.micros) := by
  have coherent : (s.Timers.RemoveTimer TimerID).1.Coherent := ready.timers.removeTimer
  have counter : (s.Timers.RemoveTimer TimerID).1.CurID = s.Timers.CurID :=
    TimerList.removeTimer_CurID
  unfold SDM_DeleteTimer
  by_cases running : s.Timers.CurRunningTimer = TimerID
  · rw [if_pos running]
    have zero : ∀ r : TimerService, r.setitimer ⟨0, 0⟩ = { r with itimer := none } := fun _ => rfl
    dsimp only
    rw [zero]
    dsimp only
    cases found : (s.Timers.RemoveTimer TimerID).1.GetSmallestTimerInterval s.now.time with
    | mk ID left =>
        have alarm := smallest_armed
          (s := { s with Timers := (s.Timers.RemoveTimer TimerID).1, itimer := none })
          coherent found
        by_cases none : ID < 0
        · rw [if_pos none]
          refine ⟨rfl, counter, rfl, rfl, .inr fun e => iff_of_false nofun ?_⟩
          rintro ⟨later, i, active, rfl, -⟩
          rcases coherent.getSmallestTimerInterval s.now.time_normal s.now.time_nonneg with
            ⟨passed, -⟩ | ⟨j, left', active', some, -⟩
          · exact absurd (passed i active) (not_lt.mpr later.le)
          · cases some.symm.trans found
            exact timerID_not_neg
              (s := { s with Timers := (s.Timers.RemoveTimer TimerID).1 }) coherent active' none
        · rw [if_neg none]
          exact ⟨by simp, by simp [counter], setitimer_now, setitimer_sigalrm, .inr alarm⟩
  · rw [if_neg running]
    exact ⟨rfl, counter, rfl, rfl, .inl rfl⟩

theorem Ready.deleteTimer (ready : s.Ready) (TimerID : Int32) :
    (s.SDM_DeleteTimer TimerID).Ready := by
  obtain ⟨timers, counter, clock, -, alarm⟩ := deleteTimer_spec ready TimerID
  have coherent : (s.Timers.RemoveTimer TimerID).1.Coherent := ready.timers.removeTimer
  refine ⟨?_, ?_, ?_⟩
  · refine coherent.of_timers (counter.trans TimerList.removeTimer_CurID.symm) fun i active => ?_
    rw [timers] at active ⊢
    exact ⟨rfl, coherent.fits i active⟩
  · intro e mem
    rw [clock]
    rcases alarm with same | alarm
    · exact ready.later e (same ▸ mem)
    · exact ((alarm e).mp mem).1
  · intro e mem
    rcases alarm with same | alarm
    · exact ready.early e (same ▸ mem)
    · obtain ⟨-, i, active, rfl, -⟩ := (alarm e).mp mem
      exact (coherent.fits i active).expire_normal.micros_lt (coherent.fits i active).early

/-- The service stays armed when a timer is deleted. -/
theorem Armed.deleteTimer (armed : s.Armed) (ready : s.Ready) (TimerID : Int32) :
    (s.SDM_DeleteTimer TimerID).Armed := by
  obtain ⟨timers, -, clock, pending, alarm⟩ := deleteTimer_spec ready TimerID
  intro i active
  rw [timers] at active ⊢
  rw [clock, pending]
  by_cases quiet : s.sigalrm = true
  · exact .inl quiet
  · -- Without a pending alarm no timer is overdue.
    have before : ∀ j, ((s.Timers.RemoveTimer TimerID).1.Timers j).Active → ∃ e ∈ s.itimer,
        s.now.time.micros < e ∧
          e ≤ ((s.Timers.RemoveTimer TimerID).1.Timers j).expireTime.micros := by
      intro j active'
      obtain ⟨same, old⟩ := TimerList.active_of_removeTimer active'
      rw [same]
      exact (armed j old).resolve_left quiet
    refine .inr ?_
    rcases alarm with same | alarm
    · rw [same]
      exact before i active
    · obtain ⟨k, least, first⟩ := Finset.exists_min_image
        (Finset.univ.filter fun j => ((s.Timers.RemoveTimer TimerID).1.Timers j).Active)
        (fun j => ((s.Timers.RemoveTimer TimerID).1.Timers j).expireTime.micros)
        ⟨i, Finset.mem_filter.mpr ⟨Finset.mem_univ i, active⟩⟩
      have activeK := (Finset.mem_filter.mp least).2
      obtain ⟨e, -, later, below⟩ := before k activeK
      have all : ∀ j, ((s.Timers.RemoveTimer TimerID).1.Timers j).Active →
          ((s.Timers.RemoveTimer TimerID).1.Timers k).expireTime.micros ≤
            ((s.Timers.RemoveTimer TimerID).1.Timers j).expireTime.micros :=
        fun j active' => first j (Finset.mem_filter.mpr ⟨Finset.mem_univ j, active'⟩)
      have ahead := lt_of_lt_of_le later below
      exact ⟨_, (alarm _).mpr ⟨ahead, k, activeK, rfl, fun j active' _ => all j active'⟩, ahead,
        all i active⟩

/-! ### TimerHandler -/

/-- The timer after the handler served it: it starts again, or it is gone. -/
def served (CurTime : SecTime) (item : TimerListItem) : TimerListItem :=
  if item.Periodic = true then { item with StartTime := CurTime }
  else { item with StartTime := CurTime }.removed

/-- The list after the handler served all overdue timers. -/
def allServed (l : TimerList) (CurTime : SecTime) : TimerList :=
  { l with
    Timers := fun i => if l.Overdue CurTime i then served CurTime (l.Timers i) else l.Timers i }

/-- The overdue timers that start again are in the range of the searches. -/
def Restartable (l : TimerList) (CurTime : SecTime) : Prop :=
  ∀ i, l.Overdue CurTime i → (l.Timers i).Periodic = true →
    ((l.Timers i).TimerVal + CurTime).Sec < 0x7FFFFFFF

variable {l : TimerList} {CurTime : SecTime} {i j : Fin MAX_NUM_TIMERS}

theorem active_served {item : TimerListItem} :
    (served CurTime item).Active ↔ item.Active ∧ item.Periodic = true := by
  unfold served
  split
  · rename_i periodic
    exact ⟨fun h => ⟨h, periodic⟩, And.left⟩
  · rename_i single
    exact iff_of_false TimerListItem.not_active_removed fun h => single h.2

theorem served_of_periodic {item : TimerListItem} (periodic : item.Periodic = true) :
    served CurTime item = { item with StartTime := CurTime } := if_pos periodic

/-- The first rounds of the handler for an expired timer leave it served. -/
theorem finished_whichExpired (coherent : l.Coherent) (first : l.FirstOverdue CurTime i) :
    finished (l.WhichExpired CurTime).1 (l.WhichExpired CurTime).2 =
      l.modify i (served CurTime) := by
  have found := coherent.getIndexOfID first.overdue.1
  rw [TimerList.whichExpired_of_first coherent first]
  dsimp only
  have found' : (l.modify i fun item => { item with StartTime := CurTime }).GetIndexOfID
      (l.Timers i).TimerID = some i := by
    rw [← found]
    refine TimerList.getIndexOfID_congr fun j => ?_
    by_cases here : j = i
    · subst here
      rw [TimerList.modify_self]
    · rw [TimerList.modify_of_ne here]
  rw [finished, TimerList.isPeriodic_of_found found', TimerList.removeTimer_of_found found',
    TimerList.modify_self, TimerList.modify_modify]
  by_cases periodic : (l.Timers i).Periodic = true
  · rw [if_pos periodic]
    exact TimerList.modify_congr (served_of_periodic periodic).symm
  · rw [if_neg periodic]
    exact TimerList.modify_congr (if_neg periodic).symm

/-- A served timer is not overdue. -/
theorem overdue_modify_served (coherent : l.Coherent) (cur : CurTime.Normal)
    (overdue : l.Overdue CurTime i) :
    (l.modify i (served CurTime)).Overdue CurTime j ↔ l.Overdue CurTime j ∧ j ≠ i := by
  unfold TimerList.Overdue
  by_cases here : j = i
  · subst here
    refine iff_of_false ?_ fun h => h.2 rfl
    rw [TimerList.modify_self]
    rintro ⟨active, before⟩
    obtain ⟨active', periodic⟩ := active_served.mp active
    have fits := coherent.fits j active'
    have nonneg := fits.micros_nonneg
    rw [served_of_periodic periodic, TimerListItem.expireTime,
      SecTime.lt_iff_micros (fits.value.add cur) cur, SecTime.micros_add] at before
    omega
  · rw [TimerList.modify_of_ne here]
    exact (and_iff_left here).symm

theorem Restartable.modify_served (coherent : l.Coherent) (cur : CurTime.Normal)
    (range : Restartable l CurTime) (overdue : l.Overdue CurTime i) :
    Restartable (l.modify i (served CurTime)) CurTime := by
  intro j overdue' periodic
  obtain ⟨old, ne⟩ := (overdue_modify_served coherent cur overdue).mp overdue'
  rw [TimerList.modify_of_ne ne] at periodic ⊢
  exact range j old periodic

/-- A list of old timers and served ones is coherent. -/
theorem coherent_of_served {l' : TimerList} (coherent : l.Coherent) (cur : CurTime.Normal)
    (range : Restartable l CurTime) (counter : l'.CurID = l.CurID)
    (old : ∀ j, l'.Timers j = l.Timers j ∨
      l.Overdue CurTime j ∧ l'.Timers j = served CurTime (l.Timers j)) : l'.Coherent := by
  refine coherent.of_timers counter fun j active => ?_
  rcases old j with same | ⟨overdue, same⟩
  · rw [same] at active ⊢
    exact ⟨rfl, coherent.fits j active⟩
  · rw [same] at active ⊢
    obtain ⟨active', periodic⟩ := active_served.mp active
    have fits := coherent.fits j active'
    rw [served_of_periodic periodic]
    exact ⟨rfl, fits.value, fits.nonneg, cur, range j overdue periodic⟩

theorem coherent_modify_served (coherent : l.Coherent) (cur : CurTime.Normal)
    (range : Restartable l CurTime) (overdue : l.Overdue CurTime i) :
    (l.modify i (served CurTime)).Coherent := by
  refine coherent_of_served coherent cur range rfl fun j => ?_
  by_cases here : j = i
  · subst here
    exact .inr ⟨overdue, TimerList.modify_self⟩
  · exact .inl (TimerList.modify_of_ne here)

/-- What is left to serve after one timer was served. -/
theorem allServed_modify_served (coherent : l.Coherent) (cur : CurTime.Normal)
    (overdue : l.Overdue CurTime i) :
    allServed (l.modify i (served CurTime)) CurTime = allServed l CurTime := by
  unfold allServed
  congr 1
  funext j
  by_cases here : j = i
  · subst here
    rw [if_neg fun h => ((overdue_modify_served coherent cur overdue).mp h).2 rfl,
      if_pos overdue, TimerList.modify_self]
  · rw [TimerList.modify_of_ne here]
    refine if_congr ?_ rfl rfl
    rw [overdue_modify_served coherent cur overdue]
    exact and_iff_left here

theorem allServed_of_none (none : ∀ i, ¬ l.Overdue CurTime i) : allServed l CurTime = l := by
  unfold allServed
  congr 1
  funext j
  exact if_neg (none j)

/-- The timers that the loop still has to serve. -/
def overdueSet (l : TimerList) (CurTime : SecTime) : Finset (Fin MAX_NUM_TIMERS) :=
  Finset.univ.filter (l.Overdue CurTime)

theorem overdueSet_modify_served (coherent : l.Coherent) (cur : CurTime.Normal)
    (overdue : l.Overdue CurTime i) :
    (overdueSet (l.modify i (served CurTime)) CurTime).card < (overdueSet l CurTime).card := by
  apply Finset.card_lt_card
  rw [Finset.ssubset_iff_of_subset]
  · refine ⟨i, Finset.mem_filter.mpr ⟨Finset.mem_univ i, overdue⟩, fun mem => ?_⟩
    have still := (Finset.mem_filter.mp mem).2
    exact ((overdue_modify_served coherent cur overdue).mp still).2 rfl
  · intro j mem
    have still := (Finset.mem_filter.mp mem).2
    exact Finset.mem_filter.mpr
      ⟨Finset.mem_univ j, ((overdue_modify_served coherent cur overdue).mp still).1⟩

theorem timerID_pos (coherent : l.Coherent) (active : (l.Timers i).Active) :
    0 < (l.Timers i).TimerID := by
  rw [Int32.lt_iff_toInt_lt]
  exact (coherent.given i active).1

/-- The loop of the handler serves every overdue timer, given a round for each of them. -/
theorem serveExpired_served (fuel : Nat) (coherent : l.Coherent)
    (range : Restartable l s.now.time) (enough : (overdueSet l s.now.time).card ≤ fuel) :
    ∃ calls, serveExpired fuel { s with Timers := (l.WhichExpired s.now.time).1 } true
        (l.WhichExpired s.now.time).2 =
      some ({ s with Timers := allServed l s.now.time }, calls) := by
  induction fuel generalizing l with
  | zero =>
      have none : ∀ i, ¬ l.Overdue s.now.time i := by
        intro i overdue
        have empty := Finset.card_eq_zero.mp (Nat.le_zero.mp enough)
        exact Finset.eq_empty_iff_forall_notMem.mp empty i
          (Finset.mem_filter.mpr ⟨Finset.mem_univ i, overdue⟩)
      rw [TimerList.whichExpired_of_none none, allServed_of_none none]
      exact ⟨[], rfl⟩
  | succ fuel ih =>
      by_cases some : ∃ i, l.Overdue s.now.time i
      · obtain ⟨i, first⟩ := coherent.exists_firstOverdue some
        have cur := s.now.time_normal
        have overdue := first.overdue
        have fewer := overdueSet_modify_served coherent cur overdue
        obtain ⟨calls, rest⟩ := ih (coherent_modify_served coherent cur range overdue)
          (range.modify_served coherent cur overdue) (by omega)
        have positive : 0 < (l.WhichExpired s.now.time).2 := by
          rw [TimerList.whichExpired_of_first coherent first]
          exact timerID_pos coherent overdue.1
        unfold serveExpired
        rw [if_pos positive]
        dsimp only [serve]
        rw [if_pos rfl, finished_whichExpired coherent first]
        dsimp only
        rw [rest, allServed_modify_served coherent cur overdue]
        exact ⟨_, rfl⟩
      · have none := not_exists.mp some
        rw [TimerList.whichExpired_of_none none, allServed_of_none none]
        exact ⟨[], rfl⟩

/-- The service after the first round of the handler, which sets the interval timer. -/
def afterFirst (s : TimerService) (i : Fin MAX_NUM_TIMERS) : TimerService :=
  let Timers := s.Timers.modify i (served s.now.time)
  let next := Timers.GetSmallestTimerInterval s.now.time
  ({ s with sigalrm := false, Timers := Timers.SetRunningTimer next.1 } : TimerService).setitimer
    next.2

@[simp]
theorem afterFirst_now : (s.afterFirst i).now = s.now := setitimer_now

@[simp]
theorem afterFirst_sigalrm : (s.afterFirst i).sigalrm = false := setitimer_sigalrm

theorem afterFirst_Timers :
    (s.afterFirst i).Timers.Timers = (s.Timers.modify i (served s.now.time)).Timers := by
  unfold afterFirst
  simp

theorem afterFirst_CurID : (s.afterFirst i).Timers.CurID = s.Timers.CurID := by
  unfold afterFirst
  simp

theorem afterFirst_overdue :
    (s.afterFirst i).Timers.Overdue s.now.time j ↔
      (s.Timers.modify i (served s.now.time)).Overdue s.now.time j := by
  rw [TimerList.Overdue, TimerList.Overdue, afterFirst_Timers]

theorem allServed_afterFirst (coherent : s.Timers.Coherent)
    (overdue : s.Timers.Overdue s.now.time i) :
    (allServed (s.afterFirst i).Timers s.now.time).Timers =
      (allServed s.Timers s.now.time).Timers := by
  rw [← allServed_modify_served coherent s.now.time_normal overdue]
  funext j
  refine if_ctx_congr afterFirst_overdue (fun _ => ?_) fun _ => ?_
  · rw [afterFirst_Timers]
  · rw [afterFirst_Timers]

/-- When a timer is overdue, the handler serves all that are. -/
theorem timerHandler_of_overdue (coherent : s.Timers.Coherent)
    (range : Restartable s.Timers s.now.time) (first : s.Timers.FirstOverdue s.now.time i) :
    ∃ calls, s.TimerHandler = some ({ s.afterFirst i with
      Timers := allServed (s.afterFirst i).Timers s.now.time }, calls) := by
  have cur := s.now.time_normal
  have overdue := first.overdue
  have coherent' := coherent_modify_served coherent cur range overdue
  have range' := range.modify_served coherent cur overdue
  have fewer := overdueSet_modify_served coherent cur overdue
  have all : (overdueSet s.Timers s.now.time).card ≤ 5 := Finset.card_le_univ _
  have card : overdueSet (s.afterFirst i).Timers s.now.time =
      overdueSet (s.Timers.modify i (served s.now.time)) s.now.time :=
    Finset.filter_congr fun j _ => afterFirst_overdue
  have found : (s.Timers.WhichExpired s.now.time).2 = (s.Timers.Timers i).TimerID := by
    rw [TimerList.whichExpired_of_first coherent first]
  have positive : 0 < (s.Timers.WhichExpired s.now.time).2 :=
    found ▸ timerID_pos coherent overdue.1
  have notNeg : ¬ (s.Timers.WhichExpired s.now.time).2 < 0 :=
    found ▸ timerID_not_neg coherent overdue.1
  have after : (s.afterFirst i).Timers.Coherent := by
    refine coherent'.of_timers afterFirst_CurID fun j active => ?_
    rw [afterFirst_Timers] at active ⊢
    exact ⟨rfl, coherent'.fits j active⟩
  have restartable : Restartable (s.afterFirst i).Timers (s.afterFirst i).now.time := by
    intro j late periodic
    rw [afterFirst_now] at late ⊢
    rw [afterFirst_Timers] at periodic ⊢
    exact range' j (afterFirst_overdue.mp late) periodic
  obtain ⟨calls, rest⟩ := serveExpired_served 4 after restartable (by
    rw [afterFirst_now, card]
    omega)
  have served : (TimerService.serve
      { s with sigalrm := false, Timers := (s.Timers.WhichExpired s.now.time).1 } false
      (s.Timers.WhichExpired s.now.time).2).1 = s.afterFirst i := by
    unfold serve
    dsimp only
    rw [finished_whichExpired coherent first]
    rfl
  unfold TimerHandler
  dsimp only
  rw [if_neg notNeg]
  unfold MAX_NUM_TIMERS serveExpired
  rw [if_pos positive]
  dsimp only
  rw [served]
  simp only [afterFirst_now] at rest ⊢
  rw [rest]
  exact ⟨_, rfl⟩

/-- When no timer is overdue, the handler gives up. -/
theorem timerHandler_of_none (none : ∀ i, ¬ s.Timers.Overdue s.now.time i) :
    s.TimerHandler = some ({ s with sigalrm := false }, []) := by
  unfold TimerHandler
  rw [TimerList.whichExpired_of_none none]
  rfl

/-- The handler returns, whatever timers are due. -/
theorem timerHandler_returns (coherent : s.Timers.Coherent)
    (range : Restartable s.Timers s.now.time) : s.TimerHandler.isSome = true := by
  by_cases some : ∃ i, s.Timers.Overdue s.now.time i
  · obtain ⟨i, first⟩ := coherent.exists_firstOverdue some
    obtain ⟨calls, done⟩ := timerHandler_of_overdue coherent range first
    rw [done]
    rfl
  · rw [timerHandler_of_none (not_exists.mp some)]
    rfl

/-- The timers that can expire after the first round are those that the condition looks at. -/
theorem considered_iff (coherent : s.Timers.Coherent)
    (first : s.Timers.FirstOverdue s.now.time i) :
    ((s.Timers.modify i (served s.now.time)).Timers j).Active ∧
        s.now.time.micros ≤
          ((s.Timers.modify i (served s.now.time)).Timers j).expireTime.micros ↔
      s.Timers.Stays s.now.time j ∧
        (s.Timers.Overdue s.now.time j → s.Timers.FirstOverdue s.now.time j) := by
  by_cases here : j = i
  · subst here
    rw [TimerList.modify_self, active_served]
    constructor
    · rintro ⟨⟨active, periodic⟩, -⟩
      exact ⟨⟨active, fun _ => periodic⟩, fun _ => first⟩
    · rintro ⟨⟨active, periodic⟩, -⟩
      have nonneg := (coherent.fits j active).micros_nonneg
      refine ⟨⟨active, periodic first.overdue⟩, ?_⟩
      rw [served_of_periodic (periodic first.overdue), TimerListItem.expireTime,
        SecTime.micros_add]
      dsimp only
      omega
  · rw [TimerList.modify_of_ne here]
    have overdue := coherent.overdue_iff s.now.time_normal (i := j)
    constructor
    · rintro ⟨active, ahead⟩
      have not : ¬ s.Timers.Overdue s.now.time j :=
        fun late => not_lt.mpr ahead (overdue.mp late).2
      exact ⟨⟨active, fun late => absurd late not⟩, fun late => absurd late not⟩
    · rintro ⟨⟨active, -⟩, only⟩
      refine ⟨active, not_lt.mp fun late => ?_⟩
      exact here ((only (overdue.mpr ⟨active, late⟩)).unique first)

/-- What such a timer expires at. -/
theorem expireTime_considered (first : s.Timers.FirstOverdue s.now.time i)
    (stays : s.Timers.Stays s.now.time j)
    (only : s.Timers.Overdue s.now.time j → s.Timers.FirstOverdue s.now.time j) :
    ((s.Timers.modify i (served s.now.time)).Timers j).expireTime =
      s.Timers.nextExpiry s.now.time j := by
  unfold TimerList.nextExpiry
  by_cases here : j = i
  · subst here
    rw [TimerList.modify_self, served_of_periodic (stays.2 first.overdue), if_pos first.overdue]
    rfl
  · rw [TimerList.modify_of_ne here, if_neg fun late => here ((only late).unique first)]

theorem active_allServed :
    ((allServed s.Timers s.now.time).Timers j).Active ↔ s.Timers.Stays s.now.time j := by
  show (ite _ _ _ : TimerListItem).Active ↔ _
  by_cases overdue : s.Timers.Overdue s.now.time j
  · rw [if_pos overdue, active_served]
    exact and_congr_right fun _ => ⟨fun periodic _ => periodic, fun all => all overdue⟩
  · rw [if_neg overdue]
    exact ⟨fun active => ⟨active, fun late => absurd late overdue⟩, And.left⟩

theorem expireTime_allServed (stays : s.Timers.Stays s.now.time j) :
    ((allServed s.Timers s.now.time).Timers j).expireTime = s.Timers.nextExpiry s.now.time j := by
  show (ite _ _ _ : TimerListItem).expireTime = _
  unfold TimerList.nextExpiry
  by_cases overdue : s.Timers.Overdue s.now.time j
  · rw [if_pos overdue, if_pos overdue, served_of_periodic (stays.2 overdue)]
    rfl
  · rw [if_neg overdue, if_neg overdue]

/-- After the first round the interval timer expires with the timer that the condition asks for,
and is disarmed when there is none. -/
theorem mem_afterFirst_itimer (coherent : s.Timers.Coherent)
    (range : Restartable s.Timers s.now.time)
    (first : s.Timers.FirstOverdue s.now.time i) {e : Int} :
    e ∈ (s.afterFirst i).itimer ↔
      s.now.time.micros < e ∧ ∃ k, s.Timers.Stays s.now.time k ∧
        (s.Timers.Overdue s.now.time k → s.Timers.FirstOverdue s.now.time k) ∧
        e = (s.Timers.nextExpiry s.now.time k).micros ∧
        ∀ j, s.Timers.Stays s.now.time j →
          (s.Timers.Overdue s.now.time j → s.Timers.FirstOverdue s.now.time j) →
          e ≤ (s.Timers.nextExpiry s.now.time j).micros := by
  have coherent' := coherent_modify_served coherent s.now.time_normal range first.overdue
  have alarm := smallest_armed
    (s := { s with sigalrm := false, Timers := s.Timers.modify i (served s.now.time) })
    coherent' (Prod.mk.eta (p := (s.Timers.modify i
      (served s.now.time)).GetSmallestTimerInterval s.now.time)).symm e
  refine Iff.trans alarm (and_congr_right fun later => ?_)
  constructor
  · rintro ⟨k, active, rfl, least⟩
    obtain ⟨stays, only⟩ := (considered_iff coherent first).mp ⟨active, later.le⟩
    refine ⟨k, stays, only, by rw [expireTime_considered first stays only], ?_⟩
    intro j stays' only'
    obtain ⟨active', ahead⟩ := (considered_iff coherent first).mpr ⟨stays', only'⟩
    rw [← expireTime_considered first stays' only']
    exact least j active' ahead
  · rintro ⟨k, stays, only, rfl, least⟩
    refine ⟨k, ((considered_iff coherent first).mpr ⟨stays, only⟩).1, ?_, ?_⟩
    · rw [← expireTime_considered first stays only]
    · intro j active ahead
      obtain ⟨stays', only'⟩ := (considered_iff coherent first).mp ⟨active, ahead⟩
      have below := least j stays' only'
      rwa [← expireTime_considered first stays' only'] at below

/-- When a timer was overdue, the service is armed after the handler exactly when no timer stays
or the one that expires next was looked at. -/
theorem armed_afterFirst_iff (coherent : s.Timers.Coherent)
    (range : Restartable s.Timers s.now.time) (first : s.Timers.FirstOverdue s.now.time i) :
    ({ s.afterFirst i with
        Timers := allServed (s.afterFirst i).Timers s.now.time } : TimerService).Armed ↔
      (∀ j, ¬ s.Timers.Stays s.now.time j) ∨ ∃ j, s.Timers.NextAlarm s.now.time j := by
  have timers := allServed_afterFirst coherent first.overdue
  have armed : ({ s.afterFirst i with
      Timers := allServed (s.afterFirst i).Timers s.now.time } : TimerService).Armed ↔
      ∀ j, s.Timers.Stays s.now.time j → ∃ e ∈ (s.afterFirst i).itimer,
        s.now.time.micros < e ∧ e ≤ (s.Timers.nextExpiry s.now.time j).micros := by
    unfold Armed
    dsimp only
    rw [timers, afterFirst_now, afterFirst_sigalrm]
    refine forall_congr' fun j => ?_
    rw [active_allServed]
    refine forall_congr' fun stays => ?_
    rw [expireTime_allServed stays, or_iff_right Bool.false_ne_true]
  rw [armed]
  constructor
  · intro all
    by_cases some : ∃ j, s.Timers.Stays s.now.time j
    · obtain ⟨j, stays⟩ := some
      obtain ⟨e, mem, later, -⟩ := all j stays
      obtain ⟨-, k, staysK, only, rfl, -⟩ := (mem_afterFirst_itimer coherent range first).mp mem
      refine .inr ⟨k, staysK, only, later, fun j' stays' => ?_⟩
      obtain ⟨e', mem', -, below⟩ := all j' stays'
      cases mem.symm.trans mem'
      exact below
    · exact .inl (not_exists.mp some)
  · rintro (none | ⟨k, next⟩) j stays
    · exact absurd stays (none j)
    · refine ⟨_, (mem_afterFirst_itimer coherent range first).mpr ⟨next.later, k, next.stays,
        next.considered, rfl, fun j' stays' _ => next.least j' stays'⟩, next.later,
        next.least j stays⟩

theorem ready_afterFirst (ready : s.Ready) (range : Restartable s.Timers s.now.time)
    (first : s.Timers.FirstOverdue s.now.time i) :
    ({ s.afterFirst i with
        Timers := allServed (s.afterFirst i).Timers s.now.time } : TimerService).Ready := by
  have cur := s.now.time_normal
  have timers := allServed_afterFirst ready.timers first.overdue
  have coherent : (allServed (s.afterFirst i).Timers s.now.time).Coherent := by
    refine coherent_of_served ready.timers cur range afterFirst_CurID fun j => ?_
    rw [timers]
    by_cases overdue : s.Timers.Overdue s.now.time j
    · exact .inr ⟨overdue, if_pos overdue⟩
    · exact .inl (if_neg overdue)
  refine ⟨coherent, ?_, ?_⟩
  · intro e mem
    rw [afterFirst_now]
    exact ((mem_afterFirst_itimer ready.timers range first).mp mem).1
  · intro e mem
    obtain ⟨-, k, stays, -, rfl, -⟩ := (mem_afterFirst_itimer ready.timers range first).mp mem
    have active := active_allServed.mpr stays
    rw [← timers] at active
    have fits := coherent.fits k active
    rw [← expireTime_allServed stays, ← timers]
    exact fits.expire_normal.micros_lt fits.early

/-- The handler keeps the service ready, and armed exactly under the condition. -/
theorem timerHandler_spec {calls : List (Nat × Int32)} (ready : s.Ready)
    (range : Restartable s.Timers s.now.time) (done : s.TimerHandler = some (s', calls)) :
    s'.Ready ∧ (s'.Armed ↔
      if ∃ i, s.Timers.Overdue s.now.time i then
        (∀ i, ¬ s.Timers.Stays s.now.time i) ∨ ∃ i, s.Timers.NextAlarm s.now.time i
      else
        ∀ i, (s.Timers.Timers i).Active →
          ∃ e ∈ s.itimer, s.now.time.micros < e ∧
            e ≤ (s.Timers.Timers i).expireTime.micros) := by
  by_cases some : ∃ i, s.Timers.Overdue s.now.time i
  · obtain ⟨i, first⟩ := ready.timers.exists_firstOverdue some
    obtain ⟨calls', served⟩ := timerHandler_of_overdue ready.timers range first
    cases served.symm.trans done
    rw [if_pos some]
    exact ⟨ready_afterFirst ready range first, armed_afterFirst_iff ready.timers range first⟩
  · rw [timerHandler_of_none (not_exists.mp some)] at done
    cases done
    rw [if_neg some]
    refine ⟨⟨ready.timers, ready.later, ready.early⟩, ?_⟩
    refine forall_congr' fun i => forall_congr' fun _ => ?_
    exact or_iff_right Bool.false_ne_true

/-- The condition, at the time of the reading. -/
theorem keepsArmed_alarm_iff :
    (if ∃ i, (s.advance cur).Timers.Overdue (s.advance cur).now.time i then
        (∀ i, ¬ (s.advance cur).Timers.Stays (s.advance cur).now.time i) ∨
          ∃ i, (s.advance cur).Timers.NextAlarm (s.advance cur).now.time i
      else
        ∀ i, ((s.advance cur).Timers.Timers i).Active →
          ∃ e ∈ (s.advance cur).itimer, (s.advance cur).now.time.micros < e ∧
            e ≤ ((s.advance cur).Timers.Timers i).expireTime.micros) ↔
      s.KeepsArmed (.Alarm cur) := by
  simp only [KeepsArmed, advance_Timers, advance_now, mem_advance_itimer]
  split
  · rfl
  · refine forall_congr' fun i => forall_congr' fun _ => exists_congr fun e => ?_
    exact ⟨fun h => ⟨h.1.1, h.2⟩, fun h => ⟨⟨h.1, h.2.1⟩, h.2⟩⟩

/-! ### Runs -/

/-- A step keeps the service ready, and keeps it armed exactly when it meets the condition. -/
theorem step_spec (ready : s.Ready) (armed : s.Armed) (range : s.InRange a)
    (taken : machine.step s a = some (s', out)) :
    s'.Ready ∧ (s'.Armed ↔ s.KeepsArmed a) := by
  have later := ready.advance a.cur
  have pending := armed.advance a.cur
  simp only [machine] at taken
  split at taken
  · cases a with
    | CreateTimer cur Seconds USeconds Callback Periodic =>
        obtain ⟨lt, early, room⟩ := range
        cases taken
        refine ⟨later.createTimer lt ?_ ?_, ?_⟩
        · rw [advance_now]
          exact early
        · rw [advance_Timers]
          exact room
        · rw [armed_createTimer_iff later pending lt, advance_sigalrm]
          rfl
    | DeleteTimer cur TimerID =>
        cases taken
        exact ⟨later.deleteTimer TimerID, iff_of_true (pending.deleteTimer later TimerID) trivial⟩
    | Alarm cur =>
        simp only [act] at taken
        split at taken
        · obtain ⟨⟨t, calls⟩, handled, same⟩ := Option.map_eq_some_iff.mp taken
          cases same
          have range' : Restartable (s.advance cur).Timers (s.advance cur).now.time := by
            rw [advance_Timers, advance_now]
            exact range
          have spec := timerHandler_spec later range' handled
          refine spec.imp_right fun iff => iff.trans ?_
          exact keepsArmed_alarm_iff
        · cases taken
  · cases taken

/-- **The timer service stays armed.** In every run whose steps are in range and meet
`KeepsArmed`, while any timer is active the alarm is pending, or set no later than the first
timer expires; and a further step in range keeps it so exactly when it meets the condition. -/
theorem stays_armed (run : machine.Reaches (fun s a => s.InRange a ∧ s.KeepsArmed a) start s) :
    s.Armed ∧ ∀ a s' out, s.InRange a → machine.step s a = some (s', out) →
      (s'.Armed ↔ s.KeepsArmed a) := by
  have invariant : s.Ready ∧ s.Armed := by
    refine run.invariant (I := fun s => s.Ready ∧ s.Armed) ⟨ready_start, armed_start⟩ ?_
    rintro s a s' out ⟨ready, armed⟩ ⟨range, kept⟩ taken
    have spec := step_spec ready armed range taken
    exact ⟨spec.1, spec.2.mpr kept⟩
  exact ⟨invariant.2, fun a s' out range taken =>
    (step_spec invariant.1 invariant.2 range taken).2⟩

/-- At second `sec` of the clock. -/
def atSecond (sec : UInt32) : ClockReading := ⟨sec, 0, by decide⟩

/-- A timer of nine seconds, and one that fires every five seconds and has fired. -/
def twoTimers : List TimerAction :=
  [.CreateTimer (atSecond 0) 9 0 1 false, .CreateTimer (atSecond 0) 5 0 2 true,
    .Alarm (atSecond 6)]

/-- After `twoTimers` the interval timer is armed for both timers. -/
theorem stays_armed_two_timers :
    ∃ s, machine.execGuarded (fun s a => s.InRange a ∧ s.KeepsArmed a) start twoTimers = some s ∧
      ∀ i ∈ [(⟨0, by decide⟩ : Fin MAX_NUM_TIMERS), ⟨1, by decide⟩],
        ∃ e ∈ s.itimer, s.now.time.micros < e ∧ e ≤ (s.Timers.Timers i).expireTime.micros := by
  have ran : ((machine.execGuarded (fun s a => s.InRange a ∧ s.KeepsArmed a) start twoTimers).map
      fun s => decide ((s.Timers.Timers ⟨0, by decide⟩).Active ∧
        (s.Timers.Timers ⟨1, by decide⟩).Active ∧ s.sigalrm = false)) = some true := by
    decide +kernel
  obtain ⟨s, done, reached⟩ := Option.map_eq_some_iff.mp ran
  obtain ⟨first, second, quiet⟩ := of_decide_eq_true reached
  refine ⟨s, done, fun i mem => ?_⟩
  have active : (s.Timers.Timers i).Active := by
    rcases List.mem_pair.mp mem with rfl | rfl
    · exact first
    · exact second
  have armed := (stays_armed (.execGuarded .start done)).1 i active
  rw [quiet] at armed
  exact armed.resolve_left Bool.false_ne_true

/-- An alarm that is handled at the very time at which its timer expires finds no expired timer,
and is the last one. -/
theorem not_stays_armed : ¬ ∀ s, machine.Reachable start s → s.Armed := by
  intro all
  have run : ((machine.exec start [.CreateTimer (atSecond 0) 1 0 0 false,
      .CreateTimer (atSecond 0) 2 0 0 true, .Alarm (atSecond 1)]).map fun s =>
        ((s.Timers.Timers ⟨1, by decide⟩).TimerID, s.sigalrm, s.itimer)) =
      some (2, false, none) := by
    decide +kernel
  obtain ⟨s, done, shown⟩ := Option.map_eq_some_iff.mp run
  obtain ⟨id, quiet, off⟩ : (s.Timers.Timers ⟨1, by decide⟩).TimerID = 2 ∧ s.sigalrm = false ∧
      s.itimer = none := by
    simpa only [Prod.mk.injEq] using shown
  have armed := all s (.exec .start (fun _ _ _ => trivial) done) ⟨1, by decide⟩ (by
    intro free
    rw [id] at free
    exact absurd free (by decide))
  rw [quiet, off] at armed
  rcases armed with pending | ⟨e, mem, -⟩
  · cases pending
  · cases mem

end Steps

end TimerService

end Sdm
