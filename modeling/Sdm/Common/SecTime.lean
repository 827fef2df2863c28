import Mathlib.Data.Prod.Lex
import Mathlib.Tactic.Ring
import Mathlib.Tactic.Linarith

/-!
Time values in seconds and microseconds.

* `micros_add`, `micros_sub`: addition and subtraction carry between the two parts, so that
  they are those of the value in microseconds.
* `lt_iff_micros`: the comparison of normal values is that of their microseconds.
-/

namespace Sdm

/-- A time, or a difference of two times. -/
structure SecTime where
  Sec : Int
  USec : Int
deriving DecidableEq, Repr

namespace SecTime

def USEC_MAX_VALUE : Int := 1000000

instance : Add SecTime where
  add l r :=
    if l.USec + r.USec ≥ USEC_MAX_VALUE then
      ⟨l.Sec + r.Sec + 1, l.USec + r.USec - USEC_MAX_VALUE⟩
    else
      ⟨l.Sec + r.Sec, l.USec + r.USec⟩

instance : Sub SecTime where
  sub l r :=
    if l.USec - r.USec < 0 then
      ⟨l.Sec - r.Sec - 1, USEC_MAX_VALUE + l.USec - r.USec⟩
    else
      ⟨l.Sec - r.Sec, l.USec - r.USec⟩

/-- The comparisons look at the seconds first. -/
instance : LinearOrder SecTime :=
  LinearOrder.lift' (fun t => toLex (t.Sec, t.USec)) fun a b same => by
    cases a
    cases b
    cases same
    rfl

theorem lt_iff {l r : SecTime} : l < r ↔ l.Sec < r.Sec ∨ l.Sec = r.Sec ∧ l.USec < r.USec :=
  Prod.Lex.toLex_lt_toLex

/-- The value in microseconds. -/
def micros (t : SecTime) : Int := t.Sec * USEC_MAX_VALUE + t.USec

/-- The microseconds are less than a second. -/
structure Normal (t : SecTime) : Prop where
  nonneg : 0 ≤ t.USec
  lt : t.USec < USEC_MAX_VALUE

instance (t : SecTime) : Decidable t.Normal :=
  decidable_of_iff (0 ≤ t.USec ∧ t.USec < USEC_MAX_VALUE)
    ⟨fun h => ⟨h.1, h.2⟩, fun h => ⟨h.nonneg, h.lt⟩⟩

variable {l r : SecTime}

theorem add_def : l + r = if l.USec + r.USec ≥ USEC_MAX_VALUE then
    ⟨l.Sec + r.Sec + 1, l.USec + r.USec - USEC_MAX_VALUE⟩
    else ⟨l.Sec + r.Sec, l.USec + r.USec⟩ := rfl

theorem sub_def : l - r = if l.USec - r.USec < 0 then
    ⟨l.Sec - r.Sec - 1, USEC_MAX_VALUE + l.USec - r.USec⟩
    else ⟨l.Sec - r.Sec, l.USec - r.USec⟩ := rfl

@[simp]
theorem micros_add : (l + r).micros = l.micros + r.micros := by
  rw [add_def]
  split <;> simp only [micros] <;> ring

@[simp]
theorem micros_sub : (l - r).micros = l.micros - r.micros := by
  rw [sub_def]
  split <;> simp only [micros] <;> ring

theorem Normal.add (normal : l.Normal) (normal' : r.Normal) : (l + r).Normal := by
  obtain ⟨low, high⟩ := normal
  obtain ⟨low', high'⟩ := normal'
  rw [add_def]
  split
  · constructor <;> dsimp only <;> omega
  · constructor <;> dsimp only <;> omega

theorem Normal.sub (normal : l.Normal) (normal' : r.Normal) : (l - r).Normal := by
  obtain ⟨low, high⟩ := normal
  obtain ⟨low', high'⟩ := normal'
  rw [sub_def]
  split
  · constructor <;> dsimp only <;> omega
  · constructor <;> dsimp only <;> omega

/-- Normal values compare as their microseconds. -/
theorem lt_iff_micros (normal : l.Normal) (normal' : r.Normal) :
    l < r ↔ l.micros < r.micros := by
  obtain ⟨low, high⟩ := normal
  obtain ⟨low', high'⟩ := normal'
  rw [lt_iff]
  simp only [micros, USEC_MAX_VALUE] at *
  omega

theorem le_iff_micros (normal : l.Normal) (normal' : r.Normal) :
    l ≤ r ↔ l.micros ≤ r.micros := by
  rw [← not_lt, lt_iff_micros normal' normal, not_lt]

/-- A normal value is known by its microseconds. -/
theorem eq_of_micros (normal : l.Normal) (normal' : r.Normal) (same : l.micros = r.micros) :
    l = r :=
  le_antisymm ((le_iff_micros normal normal').mpr same.le)
    ((le_iff_micros normal' normal).mpr same.ge)

/-- What is subtracted from a sum is taken away again. -/
theorem add_sub_self (normal : l.Normal) (normal' : r.Normal) : l + r - r = l := by
  apply eq_of_micros ((normal.add normal').sub normal') normal
  rw [micros_sub, micros_add, Int.add_sub_cancel]

/-- A normal value with less than `n` seconds. -/
theorem Normal.micros_lt (normal : l.Normal) {n : Int} (seconds : l.Sec < n) :
    l.micros < n * 1000000 := by
  have high := normal.lt
  simp only [micros, USEC_MAX_VALUE] at *
  omega

/-- A normal value is zero when its microseconds are. -/
theorem micros_eq_zero (normal : l.Normal) : l.micros = 0 ↔ l.Sec = 0 ∧ l.USec = 0 := by
  obtain ⟨low, high⟩ := normal
  simp only [micros, USEC_MAX_VALUE] at *
  omega

end SecTime

end Sdm
