import Sdm.Common.SecTime

/-!
`SecTime` with its two `long`s.

The seconds and the microseconds are `long`s of some width, and what their operators compute is
undefined where it does not fit.

* `add_isSome_iff`, `sub_isSome_iff`: where an operator has a result.
* `time_add`, `time_sub`: the result is the exact one.
* `subAssign_eq`: the subtraction in place is the subtraction.
* `lt_iff`, `gt_iff`, `le_iff`, `ge_iff`, `eq_iff`: the comparisons.
-/

namespace Sdm

/-- A number that fits a `long` of this many bits. -/
def FitsLong (bits : Nat) (x : Int) : Prop := -2 ^ (bits - 1) ≤ x ∧ x < 2 ^ (bits - 1)

instance (bits : Nat) (x : Int) : Decidable (FitsLong bits x) :=
  inferInstanceAs (Decidable (_ ∧ _))

/-- `long`. -/
structure Long (bits : Nat) where
  val : Int
  fits : FitsLong bits val
  deriving DecidableEq

namespace Long

variable {bits : Nat}

/-- A result of signed arithmetic, which is undefined where it does not fit. -/
def of (x : Int) : Option (Long bits) := if fits : FitsLong bits x then some ⟨x, fits⟩ else none

theorem of_eq_some_iff {x : Int} {n : Long bits} : of x = some n ↔ n.val = x := by
  rw [of]
  split
  · rename_i fits
    rw [Option.some.injEq]
    constructor
    · intro same
      rw [← same]
    · intro same
      cases n
      cases same
      rfl
  · rename_i large
    exact iff_of_false nofun fun same => large (same ▸ n.fits)

/-- What follows a result is defined where the result fits. -/
theorem exists_bind {α : Type} {x : Int} {f : Long bits → Option α} :
    (∃ a, (of x >>= f) = some a) ↔ ∃ fits : FitsLong bits x, ∃ a, f ⟨x, fits⟩ = some a := by
  constructor
  · rintro ⟨a, made⟩
    obtain ⟨n, isOf, rest⟩ := Option.bind_eq_some_iff.mp made
    cases of_eq_some_iff.mp isOf
    exact ⟨n.fits, a, rest⟩
  · rintro ⟨fits, a, made⟩
    exact ⟨a, Option.bind_eq_some_iff.mpr ⟨_, of_eq_some_iff.mpr rfl, made⟩⟩

end Long

/-- `SecTime`, as the source has it. -/
structure LongTime (bits : Nat) where
  Sec : Long bits
  USec : Long bits
  deriving DecidableEq

namespace LongTime

variable {bits : Nat}

/-- The time without the bounds of its parts. -/
def time (t : LongTime bits) : SecTime := ⟨t.Sec.val, t.USec.val⟩

/-- The total microseconds. -/
def micros (t : LongTime bits) : Int := t.time.micros

/-- `0 <= microseconds < 1000000`. -/
def Normal (t : LongTime bits) : Prop := t.time.Normal

/-! ### The operators -/

/-- `operator+`. -/
def add (l r : LongTime bits) : Option (LongTime bits) := do
  let Seconds ← Long.of (l.Sec.val + r.Sec.val)
  let sum ← (Long.of (l.USec.val + r.USec.val) : Option (Long bits))
  if sum.val ≥ SecTime.USEC_MAX_VALUE then
    let Seconds ← Long.of (Seconds.val + 1)
    let USeconds ← Long.of (sum.val - SecTime.USEC_MAX_VALUE)
    return ⟨Seconds, USeconds⟩
  else
    return ⟨Seconds, sum⟩

/-- `operator-`. -/
def sub (l r : LongTime bits) : Option (LongTime bits) := do
  let Seconds ← Long.of (l.Sec.val - r.Sec.val)
  let difference ← (Long.of (l.USec.val - r.USec.val) : Option (Long bits))
  if difference.val < 0 then
    let Seconds ← Long.of (Seconds.val - 1)
    let raised ← (Long.of (SecTime.USEC_MAX_VALUE + l.USec.val) : Option (Long bits))
    let USeconds ← Long.of (raised.val - r.USec.val)
    return ⟨Seconds, USeconds⟩
  else
    return ⟨Seconds, difference⟩

/-- `operator-=`, with the time that it leaves. -/
def subAssign (l r : LongTime bits) : Option (LongTime bits) := do
  let Sec ← Long.of (l.Sec.val - r.Sec.val)
  let rhsUSec := r.USec
  let difference ← (Long.of (l.USec.val - rhsUSec.val) : Option (Long bits))
  if difference.val < 0 then
    let Sec ← Long.of (Sec.val - 1)
    let raised ← (Long.of (SecTime.USEC_MAX_VALUE + l.USec.val) : Option (Long bits))
    let USec ← Long.of (raised.val - rhsUSec.val)
    return ⟨Sec, USec⟩
  else
    return ⟨Sec, difference⟩

/-- `operator==`. -/
def eq (l r : LongTime bits) : Bool := l.Sec.val == r.Sec.val && l.USec.val == r.USec.val

/-- `operator<`. -/
def lt (l r : LongTime bits) : Bool :=
  if l.Sec.val < r.Sec.val then true
  else if l.Sec.val = r.Sec.val ∧ l.USec.val < r.USec.val then true
  else false

/-- `operator>`. -/
def gt (l r : LongTime bits) : Bool :=
  if l.Sec.val > r.Sec.val then true
  else if l.Sec.val = r.Sec.val ∧ l.USec.val > r.USec.val then true
  else false

/-- `operator<=`. -/
def le (l r : LongTime bits) : Bool :=
  if l.Sec.val < r.Sec.val then true
  else if l.Sec.val = r.Sec.val ∧ l.USec.val ≤ r.USec.val then true
  else false

/-- `operator>=`. -/
def ge (l r : LongTime bits) : Bool :=
  if l.Sec.val > r.Sec.val then true
  else if l.Sec.val = r.Sec.val ∧ l.USec.val ≥ r.USec.val then true
  else false

/-! ### The comparisons -/

section Comparing

variable {l r : LongTime bits}

theorem lt_iff (normal : l.Normal) (normal' : r.Normal) : l.lt r ↔ l.micros < r.micros := by
  rw [micros, micros, ← SecTime.lt_iff_micros normal normal', SecTime.lt_iff, lt]
  simp only [time]
  split
  · rename_i less
    exact iff_of_true rfl (.inl less)
  · rename_i notLess
    rw [or_iff_right notLess]
    split
    · rename_i same
      exact iff_of_true rfl same
    · rename_i other
      exact iff_of_false nofun other

theorem gt_iff (normal : l.Normal) (normal' : r.Normal) : l.gt r ↔ l.micros > r.micros := by
  have same : l.gt r = r.lt l := by
    simp only [gt, lt, gt_iff_lt, eq_comm (a := l.Sec.val)]
  rw [same]
  exact lt_iff normal' normal

theorem le_iff (normal : l.Normal) (normal' : r.Normal) : l.le r ↔ l.micros ≤ r.micros := by
  have not : l.le r = !l.gt r := by
    rw [le, gt]
    split_ifs <;> first | rfl | (exfalso; omega)
  rw [not, Bool.not_eq_true', ← Bool.not_eq_true, gt_iff normal normal']
  exact not_lt

theorem ge_iff (normal : l.Normal) (normal' : r.Normal) : l.ge r ↔ l.micros ≥ r.micros := by
  have same : l.ge r = r.le l := by
    simp only [ge, le, gt_iff_lt, ge_iff_le, eq_comm (a := l.Sec.val)]
  rw [same]
  exact le_iff normal' normal

theorem eq_iff (normal : l.Normal) (normal' : r.Normal) : l.eq r ↔ l.micros = r.micros := by
  rw [eq, Bool.and_eq_true, beq_iff_eq, beq_iff_eq]
  obtain ⟨low, high⟩ := normal
  obtain ⟨low', high'⟩ := normal'
  simp only [micros, SecTime.micros, time, SecTime.USEC_MAX_VALUE] at *
  omega

end Comparing

/-! ### The results -/

section Results

variable {l r t d : LongTime bits}

theorem eq_of_time (same : l.time = r.time) : l = r := by
  obtain ⟨⟨Sec, fits⟩, ⟨USec, fits'⟩⟩ := l
  obtain ⟨⟨Sec', fits''⟩, ⟨USec', fits'''⟩⟩ := r
  cases same
  rfl

/-- Sums and differences of normal microseconds are far inside a `long`. -/
theorem fits_of_small (wide : 32 ≤ bits) {x : Int} (low : -2 ^ 31 ≤ x) (high : x < 2 ^ 31) :
    FitsLong bits x := by
  have more : (2 : Int) ^ 31 ≤ 2 ^ (bits - 1) := pow_le_pow_right₀ (by decide) (by omega)
  exact ⟨(Int.neg_le_neg more).trans low, Int.lt_of_lt_of_le high more⟩

/-- What is carried to the seconds of a sum. -/
def carry (l r : LongTime bits) : Int :=
  if l.USec.val + r.USec.val ≥ SecTime.USEC_MAX_VALUE then 1 else 0

/-- What is borrowed from the seconds of a difference. -/
def borrow (l r : LongTime bits) : Int := if l.USec.val - r.USec.val < 0 then 1 else 0

/-- A sum is that of the times. -/
theorem time_add (sum : l.add r = some t) : t.time = l.time + r.time := by
  obtain ⟨Seconds, isSeconds, sum⟩ := Option.bind_eq_some_iff.mp sum
  obtain ⟨USeconds, isUSeconds, sum⟩ := Option.bind_eq_some_iff.mp sum
  rw [Long.of_eq_some_iff] at isSeconds isUSeconds
  rw [SecTime.add_def]
  simp only [time, ← isSeconds, ← isUSeconds]
  split at sum
  · rename_i carries
    obtain ⟨Seconds', isSeconds', sum⟩ := Option.bind_eq_some_iff.mp sum
    obtain ⟨USeconds', isUSeconds', sum⟩ := Option.bind_eq_some_iff.mp sum
    rw [Long.of_eq_some_iff] at isSeconds' isUSeconds'
    cases sum
    rw [if_pos carries, isSeconds', isUSeconds']
  · rename_i fits
    cases sum
    rw [if_neg fits]

/-- A difference is that of the times. -/
theorem time_sub (difference : l.sub r = some t) : t.time = l.time - r.time := by
  obtain ⟨Seconds, isSeconds, difference⟩ := Option.bind_eq_some_iff.mp difference
  obtain ⟨USeconds, isUSeconds, difference⟩ := Option.bind_eq_some_iff.mp difference
  rw [Long.of_eq_some_iff] at isSeconds isUSeconds
  rw [SecTime.sub_def]
  simp only [time, ← isSeconds, ← isUSeconds]
  split at difference
  · rename_i borrows
    obtain ⟨Seconds', isSeconds', difference⟩ := Option.bind_eq_some_iff.mp difference
    obtain ⟨raised, isRaised, difference⟩ := Option.bind_eq_some_iff.mp difference
    obtain ⟨USeconds', isUSeconds', difference⟩ := Option.bind_eq_some_iff.mp difference
    rw [Long.of_eq_some_iff] at isSeconds' isRaised isUSeconds'
    cases difference
    rw [if_pos borrows, isSeconds', isUSeconds', isRaised]
  · rename_i fits
    cases difference
    rw [if_neg fits]

/-- A sum is defined where its seconds fit, before and behind the carry. -/
theorem add_isSome_iff (wide : 32 ≤ bits) (normal : l.Normal) (normal' : r.Normal) :
    (∃ t, l.add r = some t) ↔ FitsLong bits (l.Sec.val + r.Sec.val) ∧
      FitsLong bits (l.Sec.val + r.Sec.val + carry l r) := by
  obtain ⟨low, high⟩ := normal
  obtain ⟨low', high'⟩ := normal'
  simp only [time, SecTime.USEC_MAX_VALUE] at low high low' high'
  have sum : FitsLong bits (l.USec.val + r.USec.val) :=
    fits_of_small wide (by omega) (by omega)
  rw [add, carry]
  by_cases carries : l.USec.val + r.USec.val ≥ SecTime.USEC_MAX_VALUE
  · have rest : FitsLong bits (l.USec.val + r.USec.val - SecTime.USEC_MAX_VALUE) :=
      fits_of_small wide (by simp only [SecTime.USEC_MAX_VALUE]; omega)
        (by simp only [SecTime.USEC_MAX_VALUE]; omega)
    simp only [Long.exists_bind, if_pos carries, sum, rest, exists_true_left]
    constructor
    · rintro ⟨fits, fits', -⟩
      exact ⟨fits, fits'⟩
    · rintro ⟨fits, fits'⟩
      exact ⟨fits, fits', _, rfl⟩
  · simp only [Long.exists_bind, if_neg carries, sum, exists_true_left, Int.add_zero]
    constructor
    · rintro ⟨fits, -⟩
      exact ⟨fits, fits⟩
    · rintro ⟨fits, -⟩
      exact ⟨fits, _, rfl⟩

/-- A difference is defined where its seconds fit, before and behind the borrow. -/
theorem sub_isSome_iff (wide : 32 ≤ bits) (normal : l.Normal) (normal' : r.Normal) :
    (∃ t, l.sub r = some t) ↔ FitsLong bits (l.Sec.val - r.Sec.val) ∧
      FitsLong bits (l.Sec.val - r.Sec.val - borrow l r) := by
  obtain ⟨low, high⟩ := normal
  obtain ⟨low', high'⟩ := normal'
  simp only [time, SecTime.USEC_MAX_VALUE] at low high low' high'
  have difference : FitsLong bits (l.USec.val - r.USec.val) :=
    fits_of_small wide (by omega) (by omega)
  rw [sub, borrow]
  by_cases borrows : l.USec.val - r.USec.val < 0
  · have raised : FitsLong bits (SecTime.USEC_MAX_VALUE + l.USec.val) :=
      fits_of_small wide (by simp only [SecTime.USEC_MAX_VALUE]; omega)
        (by simp only [SecTime.USEC_MAX_VALUE]; omega)
    have rest : FitsLong bits (SecTime.USEC_MAX_VALUE + l.USec.val - r.USec.val) :=
      fits_of_small wide (by simp only [SecTime.USEC_MAX_VALUE]; omega)
        (by simp only [SecTime.USEC_MAX_VALUE]; omega)
    simp only [Long.exists_bind, if_pos borrows, difference, raised, rest, exists_true_left]
    constructor
    · rintro ⟨fits, fits', -⟩
      exact ⟨fits, fits'⟩
    · rintro ⟨fits, fits'⟩
      exact ⟨fits, fits', _, rfl⟩
  · simp only [Long.exists_bind, if_neg borrows, difference, exists_true_left, Int.sub_zero]
    constructor
    · rintro ⟨fits, -⟩
      exact ⟨fits, fits⟩
    · rintro ⟨fits, -⟩
      exact ⟨fits, _, rfl⟩

/-- What is borrowed for a smaller time is there. -/
theorem borrow_fits (normal : l.Normal) (normal' : r.Normal) (le : r.micros ≤ l.micros)
    (fits : FitsLong bits (l.Sec.val - r.Sec.val)) :
    FitsLong bits (l.Sec.val - r.Sec.val - borrow l r) := by
  obtain ⟨low, high⟩ := normal
  obtain ⟨low', high'⟩ := normal'
  obtain ⟨least, most⟩ := fits
  simp only [micros, SecTime.micros, time, SecTime.USEC_MAX_VALUE] at low high low' high' le
  have nonneg : (0 : Int) ≤ 2 ^ (bits - 1) := by positivity
  rw [borrow]
  split
  · exact ⟨by omega, by omega⟩
  · exact ⟨by omega, by omega⟩

/-- **The subtraction in place** is the subtraction. -/
theorem subAssign_eq : l.subAssign r = l.sub r := rfl

/-- What is subtracted from a sum is taken away again. -/
theorem eq_of_add_sub (normal : l.Normal) (normal' : r.Normal) (sum : l.add r = some t)
    (difference : t.sub r = some d) : d = l := by
  apply eq_of_time
  rw [time_sub difference, time_add sum]
  exact SecTime.add_sub_self normal normal'

/-- The seconds behind the borrow of a sum are those it was made from. -/
theorem borrow_of_add (normal : l.Normal) (normal' : r.Normal) (sum : l.add r = some t) :
    FitsLong bits (t.Sec.val - r.Sec.val - borrow t r) := by
  have isSec : (t.time - r.time).Sec = t.Sec.val - r.Sec.val - borrow t r := by
    rw [SecTime.sub_def]
    by_cases borrows : t.time.USec - r.time.USec < 0
    · have one : borrow t r = 1 := if_pos borrows
      rw [if_pos borrows, one]
      rfl
    · have zero : borrow t r = 0 := if_neg borrows
      rw [if_neg borrows, zero, Int.sub_zero]
      rfl
  rw [← isSec, time_add sum, SecTime.add_sub_self normal normal']
  exact l.Sec.fits

end Results

/-- **The operators** on normal times have a result exactly where the seconds that they compute fit
a `long`, and it is normal and the exact one. The comparisons are those of the microseconds. -/
theorem operators_exact (wide : 32 ≤ bits) (a b : LongTime bits) (normal : a.Normal)
    (normal' : b.Normal) :
    ((∃ t, a.add b = some t) ↔ FitsLong bits (a.Sec.val + b.Sec.val) ∧
      FitsLong bits (a.Sec.val + b.Sec.val + carry a b)) ∧
    (∀ t, a.add b = some t → t.Normal ∧ t.micros = a.micros + b.micros) ∧
    (b.micros ≤ a.micros →
      ((∃ t, a.sub b = some t) ↔ FitsLong bits (a.Sec.val - b.Sec.val)) ∧
      ∀ t, a.sub b = some t → t.Normal ∧ t.micros = a.micros - b.micros) ∧
    a.subAssign b = a.sub b ∧
    (∀ t, a.add b = some t →
      ((∃ d, t.sub b = some d) ↔ FitsLong bits (t.Sec.val - b.Sec.val)) ∧
      ∀ d, t.sub b = some d → d = a) ∧
    (a.lt b ↔ a.micros < b.micros) ∧ (a.gt b ↔ a.micros > b.micros) ∧
    (a.le b ↔ a.micros ≤ b.micros) ∧ (a.ge b ↔ a.micros ≥ b.micros) ∧
    (a.eq b ↔ a.micros = b.micros) := by
  refine ⟨add_isSome_iff wide normal normal', fun t sum => ?_, fun le => ⟨?_, fun t diff => ?_⟩,
    subAssign_eq, fun t sum => ⟨?_, fun d diff => ?_⟩, lt_iff normal normal', gt_iff normal normal',
    le_iff normal normal', ge_iff normal normal', eq_iff normal normal'⟩
  · have sum := time_add sum
    rw [Normal, micros, sum]
    exact ⟨normal.add normal', SecTime.micros_add⟩
  · rw [sub_isSome_iff wide normal normal']
    exact and_iff_left_of_imp (borrow_fits normal normal' le)
  · have diff := time_sub diff
    rw [Normal, micros, diff]
    exact ⟨normal.sub normal', SecTime.micros_sub⟩
  · have isSum := time_add sum
    have sumNormal : t.Normal := by
      rw [Normal, isSum]
      exact normal.add normal'
    rw [sub_isSome_iff wide sumNormal normal']
    exact and_iff_left_of_imp fun _ => borrow_of_add normal normal' sum
  · exact eq_of_add_sub normal normal' sum diff

/-- 3.75 s and 2.5 s, with `long`s of 64 bits. -/
theorem operators_exact_sample :
    let a : LongTime 64 := ⟨⟨3, by decide⟩, ⟨750000, by decide⟩⟩
    let b : LongTime 64 := ⟨⟨2, by decide⟩, ⟨500000, by decide⟩⟩
    (∀ t, a.add b = some t → t.micros = 6250000) ∧ (∃ t, a.add b = some t) ∧ b.lt a := by
  intro a b
  have normal : a.Normal := ⟨by decide, by decide⟩
  have normal' : b.Normal := ⟨by decide, by decide⟩
  obtain ⟨defined, sum, -, -, -, -, greater, -⟩ := operators_exact (by decide) a b normal normal'
  refine ⟨fun t isSum => (sum t isSum).2, defined.mpr ⟨by decide, by decide⟩, by decide⟩

/-- The last second that a `long` of 64 bits holds has none after it. -/
theorem not_add_exact :
    let a : LongTime 64 := ⟨⟨2 ^ 63 - 1, by decide⟩, ⟨0, by decide⟩⟩
    let b : LongTime 64 := ⟨⟨1, by decide⟩, ⟨0, by decide⟩⟩
    a.Normal ∧ b.Normal ∧ ¬ ∃ t, a.add b = some t ∧ t.micros = a.micros + b.micros := by
  intro a b
  have isNone : a.add b = none := by decide
  refine ⟨⟨by decide, by decide⟩, ⟨by decide, by decide⟩, ?_⟩
  rintro ⟨t, sum, -⟩
  rw [isNone] at sum
  cases sum

end LongTime

end Sdm
