import Mathlib.Data.Fin.Tuple.Finset
import Mathlib.Data.Int.Basic
import Sdm.Common.SecTime
import Sdm.Lib.Int32
import Sdm.Lib.Least

/-!
The list of timers of the timer service.

A slot is in use when its `TimerID` is not 0. A timer expires `TimerVal` after `StartTime`.

* `Coherent`: the timers in use have distinct positive identifiers below `CurID`, and expire
  before the largest time that the searches look for.
* `Coherent.leastBelow_expired`: `WhichExpired` finds the first of the timers that expired the
  longest time ago; a timer that expires at this very instant has not expired.
* `Coherent.getSmallestTimerInterval`: `GetSmallestTimerInterval` finds the least time left
  among the timers that have not expired, and this may be zero.
-/

namespace Sdm

open Sdm.Lib

def MAX_NUM_TIMERS : Nat := 5

def TIMER_INACTIVE : Int32 := 0

/-- `Callback` is an address, 0 for `NULL`. -/
structure TimerListItem where
  TimerVal : SecTime
  StartTime : SecTime
  TimerID : Int32
  Periodic : Bool
  Callback : Nat
deriving DecidableEq

namespace TimerListItem

/-- A slot that was never used. -/
def unused : TimerListItem := ⟨⟨0, 0⟩, ⟨0, 0⟩, 0, false, 0⟩

/-- The timer is in use. -/
def Active (item : TimerListItem) : Prop := item.TimerID ≠ TIMER_INACTIVE

instance (item : TimerListItem) : Decidable item.Active := instDecidableNot

/-- The time at which the timer expires. -/
def expireTime (item : TimerListItem) : SecTime := item.TimerVal + item.StartTime

/-- The slot after its timer was removed. -/
def removed (item : TimerListItem) : TimerListItem :=
  { item with TimerVal := ⟨0, 0⟩, Callback := 0, TimerID := TIMER_INACTIVE }

theorem not_active_removed {item : TimerListItem} : ¬ item.removed.Active := fun h => h rfl

/-- The seconds and microseconds of the timer are those of a time value that the searches can
tell from "no timer". -/
structure Fits (item : TimerListItem) : Prop where
  value : item.TimerVal.Normal
  nonneg : 0 ≤ item.TimerVal.Sec
  started : item.StartTime.Normal
  early : item.expireTime.Sec < 0x7FFFFFFF

theorem Fits.expire_normal {item : TimerListItem} (fits : item.Fits) : item.expireTime.Normal :=
  fits.value.add fits.started

theorem Fits.micros_nonneg {item : TimerListItem} (fits : item.Fits) :
    0 ≤ item.TimerVal.micros := by
  have seconds := fits.nonneg
  have rest := fits.value.nonneg
  simp only [SecTime.micros, SecTime.USEC_MAX_VALUE]
  omega

end TimerListItem

/-- The timers of the service. `CurID` is the next identifier. -/
structure TimerList where
  CurID : Int32
  CurRunningTimer : Int32
  Timers : Fin MAX_NUM_TIMERS → TimerListItem

namespace TimerList

/-- The list at the start. -/
def init : TimerList := ⟨1, -1, fun _ => .unused⟩

/-- The value that the searches start from, as "no timer". -/
def SmallestTime : SecTime := ⟨0x7FFFFFFF, 0x7FFFFFFF⟩

/-- The list with one slot changed. -/
def modify (l : TimerList) (i : Fin MAX_NUM_TIMERS) (f : TimerListItem → TimerListItem) :
    TimerList :=
  { l with Timers := Function.update l.Timers i (f (l.Timers i)) }

/-- The first slot with the identifier. -/
def GetIndexOfID (l : TimerList) (ID : Int32) : Option (Fin MAX_NUM_TIMERS) :=
  Fin.find? fun i => (l.Timers i).TimerID == ID

/-- Start a timer in the first free slot; the result is its identifier, -1 if there is none. -/
def AddTimer (l : TimerList) (TimerVal CurTime : SecTime) (Callback : Nat) (Periodic : Bool) :
    TimerList × Int32 :=
  match l.GetIndexOfID 0 with
  | none => (l, -1)
  | some i =>
      ({ l.modify i fun _ => ⟨TimerVal, CurTime, l.CurID, Periodic, Callback⟩ with
        CurID := l.CurID + 1 }, l.CurID)

/-- What `WhichExpired` compares: the time of expiry of the timers that have expired. -/
def expiredKey (l : TimerList) (CurTime : SecTime) (i : Fin MAX_NUM_TIMERS) : Option SecTime :=
  if (l.Timers i).TimerID == TIMER_INACTIVE then none
  else if (l.Timers i).expireTime < CurTime then some (l.Timers i).expireTime
  else none

/-- Find the timer that expired the longest time ago, and start it again. -/
def WhichExpired (l : TimerList) (CurTime : SecTime) : TimerList × Int32 :=
  match leastBelow (l.expiredKey CurTime) SmallestTime (List.finRange MAX_NUM_TIMERS) with
  | none => (l, -1)
  | some (CurIndex, _) =>
      (l.modify CurIndex fun item => { item with StartTime := CurTime },
        (l.Timers CurIndex).TimerID)

def RemoveTimer (l : TimerList) (TimerID : Int32) : TimerList × Bool :=
  match l.GetIndexOfID TimerID with
  | none => (l, false)
  | some TimerIndex => (l.modify TimerIndex TimerListItem.removed, true)

def GetCallback (l : TimerList) (TimerID : Int32) : Nat :=
  match l.GetIndexOfID TimerID with
  | none => 0
  | some TimerIndex => (l.Timers TimerIndex).Callback

def IsPeriodic (l : TimerList) (TimerID : Int32) : Bool :=
  match l.GetIndexOfID TimerID with
  | none => false
  | some TimerIndex => (l.Timers TimerIndex).Periodic

/-- What `GetSmallestTimerInterval` compares: the time left of the timers for which it is not
negative. -/
def intervalKey (l : TimerList) (CurTime : SecTime) (i : Fin MAX_NUM_TIMERS) : Option SecTime :=
  if (l.Timers i).TimerID == TIMER_INACTIVE then none
  else if (l.Timers i).expireTime - CurTime < ⟨0, 0⟩ then none
  else some ((l.Timers i).expireTime - CurTime)

/-- The identifier of the timer that expires next, and the time left until then: the absolute
values of both parts, which are those of an `int`. -/
def GetSmallestTimerInterval (l : TimerList) (CurTime : SecTime) : Int32 × SecTime :=
  match leastBelow (l.intervalKey CurTime) SmallestTime (List.finRange MAX_NUM_TIMERS) with
  | none => (-1, ⟨0, 0⟩)
  | some (CurIndex, left) => ((l.Timers CurIndex).TimerID, ⟨left.Sec.natAbs, left.USec.natAbs⟩)

def IsEmpty (l : TimerList) : Bool :=
  (Fin.find? fun i => (l.Timers i).TimerID != TIMER_INACTIVE).isNone

def SetRunningTimer (l : TimerList) (TimerID : Int32) : TimerList :=
  if 0 ≤ TimerID ∧ TimerID < l.CurID then { l with CurRunningTimer := TimerID } else l

/-! ### Lemmas of the operations -/

variable {l : TimerList} {i j : Fin MAX_NUM_TIMERS} {ID : Int32} {CurTime : SecTime}
  {f : TimerListItem → TimerListItem}

@[simp]
theorem modify_self : (l.modify i f).Timers i = f (l.Timers i) := Function.update_self ..

theorem modify_of_ne (ne : j ≠ i) : (l.modify i f).Timers j = l.Timers j :=
  Function.update_of_ne ne ..

theorem modify_modify {g : TimerListItem → TimerListItem} :
    (l.modify i f).modify i g = l.modify i fun item => g (f item) := by
  simp [modify]

theorem modify_congr {g : TimerListItem → TimerListItem} (same : f (l.Timers i) = g (l.Timers i)) :
    l.modify i f = l.modify i g := by
  rw [modify, modify, same]

/-- Only the identifiers matter for `GetIndexOfID`. -/
theorem getIndexOfID_congr {l' : TimerList}
    (same : ∀ i, (l'.Timers i).TimerID = (l.Timers i).TimerID) :
    l'.GetIndexOfID ID = l.GetIndexOfID ID := by
  simp only [GetIndexOfID, same]

@[simp]
theorem modify_CurID : (l.modify i f).CurID = l.CurID := rfl

@[simp]
theorem setRunningTimer_Timers : (l.SetRunningTimer ID).Timers = l.Timers := by
  rw [SetRunningTimer]
  split <;> rfl

@[simp]
theorem setRunningTimer_CurID : (l.SetRunningTimer ID).CurID = l.CurID := by
  rw [SetRunningTimer]
  split <;> rfl

/-- The slot that `GetIndexOfID` finds has the identifier. -/
theorem timerID_of_found (found : l.GetIndexOfID ID = some i) : (l.Timers i).TimerID = ID :=
  beq_iff_eq.mp (Fin.eq_true_of_find?_eq_some (p := fun i => (l.Timers i).TimerID == ID) found)

/-- When `GetIndexOfID` finds nothing, no slot has the identifier. -/
theorem timerID_of_missing (missing : l.GetIndexOfID ID = none) (i : Fin MAX_NUM_TIMERS) :
    (l.Timers i).TimerID ≠ ID := by
  intro same
  have not := Fin.eq_false_of_find?_eq_none (p := fun i => (l.Timers i).TimerID == ID) missing i
  exact absurd (beq_iff_eq.mpr same) (Bool.eq_false_iff.mp not)

theorem isPeriodic_of_found (found : l.GetIndexOfID ID = some i) :
    l.IsPeriodic ID = (l.Timers i).Periodic := by
  unfold IsPeriodic
  rw [found]

theorem removeTimer_of_found (found : l.GetIndexOfID ID = some i) :
    (l.RemoveTimer ID).1 = l.modify i TimerListItem.removed := by
  unfold RemoveTimer
  rw [found]

/-- A slot of the list after `RemoveTimer` is free, or it is the old slot. -/
theorem removeTimer_Timers (l : TimerList) (ID : Int32) (i : Fin MAX_NUM_TIMERS) :
    ((l.RemoveTimer ID).1.Timers i = l.Timers i ∧ l.GetIndexOfID ID ≠ some i) ∨
      ((l.RemoveTimer ID).1.Timers i = (l.Timers i).removed ∧ l.GetIndexOfID ID = some i) := by
  unfold RemoveTimer
  cases found : l.GetIndexOfID ID with
  | none => exact .inl ⟨rfl, by simp⟩
  | some k =>
      by_cases here : i = k
      · subst here
        exact .inr ⟨modify_self, rfl⟩
      · exact .inl ⟨modify_of_ne here, fun h => here (Option.some.inj h).symm⟩

theorem removeTimer_CurID : (l.RemoveTimer ID).1.CurID = l.CurID := by
  unfold RemoveTimer
  cases l.GetIndexOfID ID <;> rfl

/-- What is in use after `RemoveTimer` was there before. -/
theorem active_of_removeTimer (active : ((l.RemoveTimer ID).1.Timers i).Active) :
    (l.RemoveTimer ID).1.Timers i = l.Timers i ∧ (l.Timers i).Active := by
  rcases removeTimer_Timers l ID i with ⟨same, -⟩ | ⟨gone, -⟩
  · exact ⟨same, same ▸ active⟩
  · rw [gone] at active
    exact absurd active TimerListItem.not_active_removed

/-! ### The invariant of the list -/

/-- The timers in use have identifiers of their own that were given out, and fit. -/
structure Coherent (l : TimerList) : Prop where
  counter : 0 < l.CurID.toInt
  given : ∀ i, (l.Timers i).Active →
    0 < (l.Timers i).TimerID.toInt ∧ (l.Timers i).TimerID.toInt < l.CurID.toInt
  distinct : ∀ i j, (l.Timers i).Active → (l.Timers i).TimerID = (l.Timers j).TimerID → i = j
  fits : ∀ i, (l.Timers i).Active → (l.Timers i).Fits

theorem coherent_init : init.Coherent where
  counter := by decide
  given _ active := absurd rfl active
  distinct _ _ active := absurd rfl active
  fits _ active := absurd rfl active

/-- A list whose timers in use are timers of a coherent one, in their slots, with values that
fit. -/
theorem Coherent.of_timers {l' : TimerList} (coherent : l.Coherent) (counter : l'.CurID = l.CurID)
    (old : ∀ i, (l'.Timers i).Active →
      (l'.Timers i).TimerID = (l.Timers i).TimerID ∧ (l'.Timers i).Fits) : l'.Coherent where
  counter := counter ▸ coherent.counter
  given i active := by
    rw [counter, (old i active).1]
    exact coherent.given i fun free => active ((old i active).1.trans free)
  distinct i j active same := by
    have here := (old i active).1
    have there := (old j fun free => active (same.trans free)).1
    refine coherent.distinct i j (fun free => active (here.trans free)) ?_
    rw [← here, ← there, same]
  fits i active := (old i active).2

theorem Coherent.removeTimer (coherent : l.Coherent) : (l.RemoveTimer ID).1.Coherent := by
  refine coherent.of_timers removeTimer_CurID fun i active => ?_
  obtain ⟨same, active'⟩ := active_of_removeTimer active
  rw [same]
  exact ⟨rfl, coherent.fits i active'⟩

/-- A timer in use is found under its identifier. -/
theorem Coherent.getIndexOfID (coherent : l.Coherent) (active : (l.Timers i).Active) :
    l.GetIndexOfID (l.Timers i).TimerID = some i := by
  cases found : l.GetIndexOfID (l.Timers i).TimerID with
  | none => exact absurd rfl (timerID_of_missing found i)
  | some k =>
      rw [coherent.distinct i k active (timerID_of_found found).symm]

/-- `AddTimer` takes a free slot, and does nothing when there is none. -/
theorem addTimer_cases (TimerVal CurTime : SecTime) (Callback : Nat) (Periodic : Bool) :
    ((∀ i, (l.Timers i).Active) ∧ (l.AddTimer TimerVal CurTime Callback Periodic).1 = l) ∨
      ∃ i, ¬ (l.Timers i).Active ∧
        (l.AddTimer TimerVal CurTime Callback Periodic).1 =
          { l.modify i fun _ => ⟨TimerVal, CurTime, l.CurID, Periodic, Callback⟩ with
            CurID := l.CurID + 1 } := by
  unfold AddTimer
  cases found : l.GetIndexOfID 0 with
  | none =>
      refine .inl ⟨fun i free => ?_, rfl⟩
      exact timerID_of_missing found i free
  | some i =>
      refine .inr ⟨i, ?_, rfl⟩
      exact not_not.mpr (timerID_of_found found)

/-- A timer that fits keeps the list coherent, while identifiers are left. -/
theorem Coherent.addTimer (coherent : l.Coherent) (room : l.CurID ≠ Int32.maxValue)
    {TimerVal : SecTime} {Callback : Nat} {Periodic : Bool}
    (fits : TimerListItem.Fits ⟨TimerVal, CurTime, l.CurID, Periodic, Callback⟩) :
    (l.AddTimer TimerVal CurTime Callback Periodic).1.Coherent := by
  rcases addTimer_cases TimerVal CurTime Callback Periodic with ⟨-, same⟩ | ⟨k, free, added⟩
  · rw [same]
    exact coherent
  · rw [added]
    have counter := coherent.counter
    have next := toInt_succ room
    have old : ∀ i, i ≠ k →
        (l.modify k fun _ => ⟨TimerVal, CurTime, l.CurID, Periodic, Callback⟩).Timers i =
          l.Timers i := fun i ne => modify_of_ne ne
    constructor
    · show 0 < (l.CurID + 1).toInt
      rw [next]
      omega
    · intro i active
      dsimp only at active ⊢
      rw [next]
      by_cases here : i = k
      · subst here
        rw [modify_self]
        exact ⟨counter, Int.lt_succ _⟩
      · rw [old i here] at active ⊢
        have given := coherent.given i active
        omega
    · intro i j active same
      dsimp only at active same
      by_cases here : i = k
      · by_cases there : j = k
        · rw [here, there]
        · subst here
          rw [modify_self, old j there] at same
          rw [modify_self] at active
          have given := coherent.given j fun free' => active (same.trans free')
          rw [← same] at given
          exact absurd given.2 (lt_irrefl _)
      · rw [old i here] at active same
        by_cases there : j = k
        · subst there
          rw [modify_self] at same
          have given := coherent.given i active
          rw [same] at given
          exact absurd given.2 (lt_irrefl _)
        · rw [old j there] at same
          exact coherent.distinct i j active same
    · intro i active
      dsimp only at active ⊢
      by_cases here : i = k
      · subst here
        rw [modify_self]
        exact fits
      · rw [old i here] at active ⊢
        exact coherent.fits i active

/-! ### The searches -/

/-- The timer is in use, and its time of expiry is before the current time. -/
def Overdue (l : TimerList) (CurTime : SecTime) (i : Fin MAX_NUM_TIMERS) : Prop :=
  (l.Timers i).Active ∧ (l.Timers i).expireTime < CurTime

instance (l : TimerList) (CurTime : SecTime) (i : Fin MAX_NUM_TIMERS) :
    Decidable (l.Overdue CurTime i) := instDecidableAnd

/-- The first of the timers that expired the longest time ago. -/
structure FirstOverdue (l : TimerList) (CurTime : SecTime) (i : Fin MAX_NUM_TIMERS) : Prop where
  overdue : l.Overdue CurTime i
  least : ∀ j, l.Overdue CurTime j → (l.Timers i).expireTime ≤ (l.Timers j).expireTime
  first : ∀ j < i, l.Overdue CurTime j → (l.Timers i).expireTime < (l.Timers j).expireTime

instance (l : TimerList) (CurTime : SecTime) (i : Fin MAX_NUM_TIMERS) :
    Decidable (l.FirstOverdue CurTime i) :=
  decidable_of_iff (_ ∧ (∀ j, l.Overdue CurTime j → _) ∧ ∀ j < i, l.Overdue CurTime j → _)
    ⟨fun h => ⟨h.1, h.2.1, h.2.2⟩, fun h => ⟨h.overdue, h.least, h.first⟩⟩

/-- The timer is in use, and is not one that the handler removes. -/
def Stays (l : TimerList) (CurTime : SecTime) (i : Fin MAX_NUM_TIMERS) : Prop :=
  (l.Timers i).Active ∧ (l.Overdue CurTime i → (l.Timers i).Periodic = true)

instance (l : TimerList) (CurTime : SecTime) (i : Fin MAX_NUM_TIMERS) :
    Decidable (l.Stays CurTime i) := instDecidableAnd

/-- When the timer expires next: an overdue timer starts again now. -/
def nextExpiry (l : TimerList) (CurTime : SecTime) (i : Fin MAX_NUM_TIMERS) : SecTime :=
  if l.Overdue CurTime i then (l.Timers i).TimerVal + CurTime else (l.Timers i).expireTime

/-- The timer expires next among those that stay; its time is still to come, and it is not an
overdue timer after the first one. -/
structure NextAlarm (l : TimerList) (CurTime : SecTime) (i : Fin MAX_NUM_TIMERS) : Prop where
  stays : l.Stays CurTime i
  considered : l.Overdue CurTime i → l.FirstOverdue CurTime i
  later : CurTime.micros < (l.nextExpiry CurTime i).micros
  least : ∀ j, l.Stays CurTime j → (l.nextExpiry CurTime i).micros ≤ (l.nextExpiry CurTime j).micros

instance (l : TimerList) (CurTime : SecTime) (i : Fin MAX_NUM_TIMERS) :
    Decidable (l.NextAlarm CurTime i) :=
  decidable_of_iff (_ ∧ (l.Overdue CurTime i → l.FirstOverdue CurTime i) ∧ _ < _ ∧
      ∀ j, l.Stays CurTime j → _)
    ⟨fun h => ⟨h.1, h.2.1, h.2.2.1, h.2.2.2⟩,
      fun h => ⟨h.stays, h.considered, h.later, h.least⟩⟩

theorem expiredKey_eq_some_iff {t : SecTime} :
    l.expiredKey CurTime i = some t ↔ l.Overdue CurTime i ∧ t = (l.Timers i).expireTime := by
  rw [expiredKey]
  by_cases free : (l.Timers i).TimerID = TIMER_INACTIVE
  · rw [if_pos (beq_iff_eq.mpr free)]
    exact iff_of_false nofun fun h => h.1.1 free
  · rw [if_neg (mt beq_iff_eq.mp free)]
    by_cases expired : (l.Timers i).expireTime < CurTime
    · rw [if_pos expired, Option.some_inj, eq_comm]
      exact (and_iff_right ⟨free, expired⟩).symm
    · rw [if_neg expired]
      exact iff_of_false nofun fun h => expired h.1.2

theorem Coherent.lt_smallestTime (coherent : l.Coherent) (active : (l.Timers i).Active) :
    (l.Timers i).expireTime < SmallestTime :=
  SecTime.lt_iff.mpr (.inl (coherent.fits i active).early)

/-- `WhichExpired` finds a timer exactly when one is overdue, the first one. -/
theorem Coherent.leastBelow_expired (coherent : l.Coherent) {t : SecTime} :
    leastBelow (l.expiredKey CurTime) SmallestTime (List.finRange MAX_NUM_TIMERS) = some (i, t) ↔
      l.FirstOverdue CurTime i ∧ t = (l.Timers i).expireTime := by
  rw [leastBelow_eq_some_iff (List.pairwise_lt_finRange _)]
  constructor
  · intro found
    obtain ⟨overdue, same⟩ := expiredKey_eq_some_iff.mp found.keyed
    refine ⟨⟨overdue, ?_, ?_⟩, same⟩
    · intro j overdue'
      rw [← same]
      exact found.least j (List.mem_finRange j) _ (expiredKey_eq_some_iff.mpr ⟨overdue', rfl⟩)
    · intro j before overdue'
      rw [← same]
      exact found.first j (List.mem_finRange j) before _
        (expiredKey_eq_some_iff.mpr ⟨overdue', rfl⟩)
  · rintro ⟨first, rfl⟩
    refine ⟨List.mem_finRange i, expiredKey_eq_some_iff.mpr ⟨first.overdue, rfl⟩,
      coherent.lt_smallestTime first.overdue.1, ?_, ?_⟩
    · intro j _ t keyed
      obtain ⟨overdue', rfl⟩ := expiredKey_eq_some_iff.mp keyed
      exact first.least j overdue'
    · intro j _ before t keyed
      obtain ⟨overdue', rfl⟩ := expiredKey_eq_some_iff.mp keyed
      exact first.first j before overdue'

theorem whichExpired_of_first (coherent : l.Coherent) (first : l.FirstOverdue CurTime i) :
    l.WhichExpired CurTime =
      (l.modify i fun item => { item with StartTime := CurTime }, (l.Timers i).TimerID) := by
  unfold WhichExpired
  rw [coherent.leastBelow_expired.mpr ⟨first, rfl⟩]

theorem whichExpired_of_none (none : ∀ i, ¬ l.Overdue CurTime i) :
    l.WhichExpired CurTime = (l, -1) := by
  have nothing : leastBelow (l.expiredKey CurTime) SmallestTime (List.finRange MAX_NUM_TIMERS) =
      Option.none := by
    refine leastBelow_eq_none_iff.mpr fun i _ t keyed => ?_
    exact absurd (expiredKey_eq_some_iff.mp keyed).1 (none i)
  unfold WhichExpired
  rw [nothing]

/-- When a timer is overdue there is a first one. -/
theorem Coherent.exists_firstOverdue (coherent : l.Coherent) (some : ∃ i, l.Overdue CurTime i) :
    ∃ i, l.FirstOverdue CurTime i := by
  obtain ⟨i, overdue⟩ := some
  cases found : leastBelow (l.expiredKey CurTime) SmallestTime (List.finRange MAX_NUM_TIMERS) with
  | none =>
      have high := leastBelow_eq_none_iff.mp found i (List.mem_finRange i) _
        (expiredKey_eq_some_iff.mpr ⟨overdue, rfl⟩)
      exact absurd (coherent.lt_smallestTime overdue.1) (not_lt.mpr high)
  | some p => exact ⟨p.1, (coherent.leastBelow_expired.mp found).1⟩

theorem FirstOverdue.unique (first : l.FirstOverdue CurTime i)
    (first' : l.FirstOverdue CurTime j) : i = j := by
  rcases lt_trichotomy i j with less | same | less
  · exact absurd (first'.first i less first.overdue) (not_lt.mpr (first.least j first'.overdue))
  · exact same
  · exact absurd (first.first j less first'.overdue) (not_lt.mpr (first'.least i first.overdue))

theorem intervalKey_eq_some_iff {t : SecTime} :
    l.intervalKey CurTime i = some t ↔
      (l.Timers i).Active ∧ ¬ (l.Timers i).expireTime - CurTime < ⟨0, 0⟩ ∧
        t = (l.Timers i).expireTime - CurTime := by
  rw [intervalKey]
  by_cases free : (l.Timers i).TimerID = TIMER_INACTIVE
  · rw [if_pos (beq_iff_eq.mpr free)]
    exact iff_of_false nofun fun h => h.1 free
  · rw [if_neg (mt beq_iff_eq.mp free)]
    by_cases passed : (l.Timers i).expireTime - CurTime < ⟨0, 0⟩
    · rw [if_pos passed]
      exact iff_of_false nofun fun h => h.2.1 passed
    · rw [if_neg passed, Option.some_inj, eq_comm]
      exact ⟨fun h => ⟨free, passed, h⟩, fun h => h.2.2⟩

/-- The sign of the time left is that of the difference in microseconds. -/
theorem Coherent.left_lt_zero_iff (coherent : l.Coherent) (cur : CurTime.Normal)
    (active : (l.Timers i).Active) :
    (l.Timers i).expireTime - CurTime < ⟨0, 0⟩ ↔
      (l.Timers i).expireTime.micros < CurTime.micros := by
  have zero : SecTime.Normal ⟨0, 0⟩ := by decide
  rw [SecTime.lt_iff_micros ((coherent.fits i active).expire_normal.sub cur) zero,
    SecTime.micros_sub]
  exact sub_neg

/-- `GetSmallestTimerInterval` finds a timer that is not overdue and expires next, when there is
one. -/
theorem Coherent.getSmallestTimerInterval (coherent : l.Coherent) (cur : CurTime.Normal)
    (nonneg : 0 ≤ CurTime.Sec) :
    ((∀ i, (l.Timers i).Active → (l.Timers i).expireTime.micros < CurTime.micros) ∧
        l.GetSmallestTimerInterval CurTime = (-1, ⟨0, 0⟩)) ∨
      ∃ i left, (l.Timers i).Active ∧
        l.GetSmallestTimerInterval CurTime = ((l.Timers i).TimerID, left) ∧ left.Normal ∧
        0 ≤ left.micros ∧ left.micros = (l.Timers i).expireTime.micros - CurTime.micros ∧
        ∀ j, (l.Timers j).Active → CurTime.micros ≤ (l.Timers j).expireTime.micros →
          (l.Timers i).expireTime.micros ≤ (l.Timers j).expireTime.micros := by
  unfold GetSmallestTimerInterval
  cases found : leastBelow (l.intervalKey CurTime) SmallestTime (List.finRange MAX_NUM_TIMERS) with
  | none =>
      refine .inl ⟨fun i active => ?_, rfl⟩
      rw [← coherent.left_lt_zero_iff cur active]
      by_contra later
      have high := leastBelow_eq_none_iff.mp found i (List.mem_finRange i) _
        (intervalKey_eq_some_iff.mpr ⟨active, later, rfl⟩)
      refine absurd high (not_le.mpr (SecTime.lt_iff.mpr (.inl ?_)))
      have early := (coherent.fits i active).early
      rw [SecTime.sub_def, SmallestTime]
      split <;> dsimp only <;> omega
  | some p =>
      obtain ⟨i, left⟩ := p
      have first := firstLeast_of_leastBelow (List.pairwise_lt_finRange _) found
      obtain ⟨active, later, rfl⟩ := intervalKey_eq_some_iff.mp first.keyed
      have normal := (coherent.fits i active).expire_normal.sub cur
      have ahead : CurTime.micros ≤ (l.Timers i).expireTime.micros :=
        not_lt.mp fun passed => later ((coherent.left_lt_zero_iff cur active).mpr passed)
      have seconds : 0 ≤ ((l.Timers i).expireTime - CurTime).Sec := by
        by_contra negative
        exact later (SecTime.lt_iff.mpr (.inl (not_le.mp negative)))
      have abs : (⟨((l.Timers i).expireTime - CurTime).Sec.natAbs,
          ((l.Timers i).expireTime - CurTime).USec.natAbs⟩ : SecTime) =
            (l.Timers i).expireTime - CurTime := by
        rw [Int.natAbs_of_nonneg seconds, Int.natAbs_of_nonneg normal.nonneg]
      refine .inr ⟨i, _, active, congrArg (Prod.mk _) abs, normal, ?_, SecTime.micros_sub, ?_⟩
      · rw [SecTime.micros_sub]
        exact Int.sub_nonneg.mpr ahead
      · intro j active' ahead'
        have later' := mt (coherent.left_lt_zero_iff cur active').mp (not_lt.mpr ahead')
        have least := first.least j (List.mem_finRange j) _
          (intervalKey_eq_some_iff.mpr ⟨active', later', rfl⟩)
        rw [SecTime.le_iff_micros normal ((coherent.fits j active').expire_normal.sub cur),
          SecTime.micros_sub, SecTime.micros_sub] at least
        omega

/-- An overdue timer, by its microseconds. -/
theorem Coherent.overdue_iff (coherent : l.Coherent) (cur : CurTime.Normal) :
    l.Overdue CurTime i ↔
      (l.Timers i).Active ∧ (l.Timers i).expireTime.micros < CurTime.micros := by
  refine and_congr_right fun active => ?_
  exact SecTime.lt_iff_micros (coherent.fits i active).expire_normal cur

end TimerList

end Sdm
