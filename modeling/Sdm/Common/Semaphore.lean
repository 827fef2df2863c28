import Mathlib.Tactic.SplitIfs

/-!
`Sem`: the counting semaphore of the SDM library.

The value is a 16-bit number, so it does not count further than 32767: the next `Signal`
makes it negative (`signal_wraps`), and every thread waits.
-/

namespace Sdm

/-- `Sem`, without its mutex and its condition variable. -/
structure Sem where
  m_i16Value : Int16
  m_i16WaitCount : Int16
  deriving DecidableEq

namespace Sem

variable {s s' : Sem}

/-- The constructor. -/
def new (initial : Int16) : Sem := ⟨initial, 0⟩

/-- `Sem::Signal`. -/
def Signal (s : Sem) : Sem :=
  { m_i16Value := s.m_i16Value + 1
    m_i16WaitCount :=
      if 0 < s.m_i16Value + 1 then s.m_i16WaitCount - 1 else s.m_i16WaitCount }

/-- The beginning of `Sem::Wait`. -/
def enter (s : Sem) : Sem := { s with m_i16WaitCount := s.m_i16WaitCount + 1 }

/-- The end of `Sem::Wait`, which is reached when the value is positive. -/
def pass (s : Sem) : Option Sem :=
  if s.m_i16Value ≤ 0 then none else some { s with m_i16Value := s.m_i16Value - 1 }

/-- `Sem::TryWait`: whether the semaphore was taken. -/
def TryWait (s : Sem) : Bool × Sem :=
  if 0 < s.m_i16Value then (true, { s with m_i16Value := s.m_i16Value - 1 }) else (false, s)

/-- The value of the semaphore as a number. -/
def value (s : Sem) : Int := s.m_i16Value.toInt

@[simp]
theorem value_enter : s.enter.value = s.value := rfl

theorem value_le (s : Sem) : s.value ≤ 32767 := Int16.toInt_le s.m_i16Value

theorem le_value (s : Sem) : -32768 ≤ s.value := Int16.le_toInt s.m_i16Value

theorem pos_iff : 0 < s.m_i16Value ↔ 0 < s.value := Int16.lt_iff_toInt_lt

/-- `Signal` counts up to 32767. -/
theorem value_signal (room : s.value < 32767) : s.Signal.value = s.value + 1 := by
  have low := s.le_value
  show (s.m_i16Value + 1).toInt = s.value + 1
  rw [Int16.toInt_add]
  show (s.value + 1).bmod (2 ^ 16) = s.value + 1
  exact Int.bmod_eq_of_le (by omega) (by omega)

/-- One `Signal` more makes the value negative. -/
theorem signal_wraps (full : s.value = 32767) : s.Signal.value = -32768 := by
  show (s.m_i16Value + 1).toInt = _
  rw [Int16.toInt_add]
  show (s.value + 1).bmod (2 ^ 16) = _
  rw [full]
  rfl

theorem value_sub_one (pos : 0 < s.value) : (s.m_i16Value - 1).toInt = s.value - 1 := by
  have high := s.value_le
  rw [Int16.toInt_sub]
  show (s.value - 1).bmod (2 ^ 16) = s.value - 1
  exact Int.bmod_eq_of_le (by omega) (by omega)

/-- Passing takes one from a positive value. -/
theorem pass_eq_some (passed : s.pass = some s') : 0 < s.value ∧ s'.value = s.value - 1 := by
  rw [pass] at passed
  split_ifs at passed with blocked
  cases passed
  have pos : 0 < s.value := by
    have := mt Int16.le_iff_toInt_le.mpr blocked
    exact Int.not_le.mp this
  exact ⟨pos, value_sub_one pos⟩

/-- `TryWait` takes one from a positive value, or nothing. -/
theorem tryWait_eq : (s.TryWait.1 = true ∧ 0 < s.value ∧ s.TryWait.2.value = s.value - 1) ∨
    s.TryWait = (false, s) := by
  rw [TryWait]
  split_ifs with pos
  · exact .inl ⟨rfl, pos_iff.mp pos, value_sub_one (pos_iff.mp pos)⟩
  · exact .inr rfl

end Sem

end Sdm
