import Mathlib.Data.List.TakeWhile

/-!
NUL-terminated byte strings and the comparisons of the C library.

* `CString` is the content of a C string: the bytes before the terminator,
  none of which is NUL.
* `strcmp` and `strncmp` return the difference of the first two bytes that
  differ, the terminator counting as byte zero.
* `strcmp_eq_zero_iff` and `strncmp_length_eq_zero_iff` say what a zero result
  means: equality for `strcmp`, and only a prefix for `strncmp` bounded by the
  length of its second argument.

A `char*` that may be unset is an `Option CString`, and `strcmp?` is the
comparison on such pointers: it has no result on an unset one. `sameTexts?` is
a row of nested comparisons.
-/

namespace Sdm.Lib

/-- The content of a NUL-terminated string. -/
structure CString where
  bytes : List UInt8
  nul_notMem : (0 : UInt8) ∉ bytes
  deriving DecidableEq, Repr

namespace CString

/-- `strlen`. -/
def length (s : CString) : Nat := s.bytes.length

/-- The empty string. -/
def empty : CString := ⟨[], List.not_mem_nil⟩

/-- The C string of a literal, cut before an embedded NUL. -/
def ofString (s : String) : CString where
  bytes := (s.toList.map fun c => c.toNat.toUInt8).takeWhile (· ≠ 0)
  nul_notMem := fun mem => by simpa using List.mem_takeWhile_imp mem

/-- The C string at these bytes, which ends before the first NUL. -/
def ofBytes (bytes : List UInt8) : CString where
  bytes := bytes.takeWhile (· ≠ 0)
  nul_notMem := fun mem => by simpa using List.mem_takeWhile_imp mem

@[ext]
theorem ext {s t : CString} (h : s.bytes = t.bytes) : s = t := by
  cases s
  cases t
  cases h
  rfl

theorem eq_iff_bytes {s t : CString} : s = t ↔ s.bytes = t.bytes :=
  ⟨congrArg bytes, ext⟩

/-- A text that has no terminator inside is all of its bytes. -/
theorem ofBytes_bytes (s : CString) : ofBytes s.bytes = s :=
  ext (List.takeWhile_eq_self_iff.mpr fun _ mem =>
    decide_eq_true fun zero => s.nul_notMem (zero ▸ mem))

@[simp]
theorem length_empty : empty.length = 0 := rfl

/-- `strcat`. -/
def append (s t : CString) : CString :=
  ⟨s.bytes ++ t.bytes, fun mem => (List.mem_append.mp mem).elim s.nul_notMem t.nul_notMem⟩

@[simp]
theorem length_append (s t : CString) : (s.append t).length = s.length + t.length :=
  List.length_append

/-- The first characters: what `snprintf` leaves in a buffer with room for so many. -/
def take (n : Nat) (s : CString) : CString :=
  ⟨s.bytes.take n, fun mem => s.nul_notMem (List.mem_of_mem_take mem)⟩

theorem take_of_length_le {n : Nat} {s : CString} (le : s.length ≤ n) : s.take n = s :=
  ext (List.take_of_length_le le)

/-- The text from this character on. -/
def drop (n : Nat) (s : CString) : CString :=
  ⟨s.bytes.drop n, fun mem => s.nul_notMem (List.mem_of_mem_drop mem)⟩

@[simp]
theorem length_drop (n : Nat) (s : CString) : (s.drop n).length = s.length - n := List.length_drop

/-- What `strncpy` copies of the text: so many bytes, zeros from the terminator on. -/
def strncpy (n : Nat) (s : CString) : List UInt8 :=
  s.bytes.take n ++ List.replicate (n - s.length) 0

theorem length_strncpy (n : Nat) (s : CString) : (s.strncpy n).length = n := by
  simp only [strncpy, List.length_append, List.length_take, List.length_replicate, length]
  omega

/-- A text that is shorter is copied with its terminator. -/
theorem strncpy_of_lt {n : Nat} {s : CString} (short : s.length < n) :
    s.strncpy n = s.bytes ++ [0] ++ List.replicate (n - s.length - 1) 0 := by
  obtain ⟨k, rfl⟩ : ∃ k, n = s.length + (k + 1) := ⟨n - s.length - 1, by omega⟩
  rw [strncpy, List.take_of_length_le (by simp only [length]; omega), List.append_assoc,
    Nat.add_sub_cancel_left, Nat.add_sub_cancel]
  rfl

/-- Of a text that is not shorter no terminator is copied. -/
theorem strncpy_of_le {n : Nat} {s : CString} (long : n ≤ s.length) :
    s.strncpy n = s.bytes.take n := by
  rw [strncpy, Nat.sub_eq_zero_of_le long, List.replicate_zero, List.append_nil]

/-- `s` is an initial part of `t`. -/
def IsPrefix (s t : CString) : Prop := s.bytes <+: t.bytes

instance (s t : CString) : Decidable (s.IsPrefix t) :=
  inferInstanceAs (Decidable (s.bytes <+: t.bytes))

theorem IsPrefix.refl (s : CString) : s.IsPrefix s := List.prefix_refl _

theorem IsPrefix.eq_of_length {s t : CString} (h : s.IsPrefix t) (len : t.length ≤ s.length) :
    s = t :=
  ext (h.eq_of_length_le len)

end CString

/-! ### Texts in a row -/

theorem length_text (text : CString) : (text.bytes ++ [0]).length = text.length + 1 := by
  simp [CString.length]

/-- Texts one behind the other, each with its terminator. -/
def rowBytes (texts : List CString) : List UInt8 := texts.flatMap fun t => t.bytes ++ [0]

@[simp]
theorem rowBytes_nil : rowBytes [] = [] := rfl

theorem rowBytes_cons (t : CString) (texts : List CString) :
    rowBytes (t :: texts) = t.bytes ++ [0] ++ rowBytes texts := List.flatMap_cons

theorem rowBytes_append (texts rest : List CString) :
    rowBytes (texts ++ rest) = rowBytes texts ++ rowBytes rest := List.flatMap_append

theorem length_rowBytes_cons (t : CString) (texts : List CString) :
    (rowBytes (t :: texts)).length = t.length + 1 + (rowBytes texts).length := by
  rw [rowBytes_cons, List.length_append, length_text]

/-- What stands before the first terminator, and behind it. -/
theorem text_eq_of_append {s t : CString} {rest rest' : List UInt8}
    (same : s.bytes ++ 0 :: rest = t.bytes ++ 0 :: rest') : s = t ∧ rest = rest' := by
  rcases List.append_eq_append_iff.mp same with ⟨more, longer, behind⟩ | ⟨more, longer, behind⟩
  · cases more with
    | nil =>
        cases behind
        exact ⟨(CString.ext (by simpa using longer)).symm, rfl⟩
    | cons byte more =>
        cases behind
        exact absurd (by simp [longer]) t.nul_notMem
  · cases more with
    | nil =>
        cases behind
        exact ⟨CString.ext (by simpa using longer), rfl⟩
    | cons byte more =>
        cases behind
        exact absurd (by simp [longer]) s.nul_notMem

/-- The terminators say where one text ends and the next begins. -/
theorem rowBytes_injective : Function.Injective rowBytes := by
  intro ts us same
  induction ts generalizing us with
  | nil =>
      cases us with
      | nil => rfl
      | cons u us => simp [rowBytes_cons] at same
  | cons t ts ih =>
      cases us with
      | nil => simp [rowBytes_cons] at same
      | cons u us =>
          rw [rowBytes_cons, rowBytes_cons, List.append_assoc, List.append_assoc,
            List.singleton_append, List.singleton_append] at same
          obtain ⟨rfl, rest⟩ := text_eq_of_append same
          rw [ih rest]

/-! ### Comparison -/

/-- `strncmp(a, b, n)` on the bytes before the terminators. -/
def strncmpBytes : List UInt8 → List UInt8 → Nat → Int
  | _, _, 0 => 0
  | [], [], _ + 1 => 0
  | [], b :: _, _ + 1 => -(b.toNat : Int)
  | a :: _, [], _ + 1 => a.toNat
  | a :: as, b :: bs, n + 1 =>
      if a = b then strncmpBytes as bs n else (a.toNat : Int) - b.toNat

/-- `strncmp(s, t, n)`. -/
def strncmp (s t : CString) (n : Nat) : Int := strncmpBytes s.bytes t.bytes n

/-- `strcmp(s, t)`: the comparison runs over the longer string. -/
def strcmp (s t : CString) : Int := strncmp s t (max s.length t.length)

private theorem toNat_ne_zero {b : UInt8} (h : b ≠ 0) : (b.toNat : Int) ≠ 0 := by
  intro zero
  exact h (UInt8.toNat_inj.mp (by simpa using zero))

private theorem toNat_sub_ne_zero {a b : UInt8} (h : a ≠ b) : (a.toNat : Int) - b.toNat ≠ 0 := by
  intro zero
  exact h (UInt8.toNat_inj.mp (by omega))

theorem strncmpBytes_length_eq_zero_iff {as bs : List UInt8} (nul : (0 : UInt8) ∉ bs) :
    strncmpBytes as bs bs.length = 0 ↔ bs <+: as := by
  induction bs generalizing as with
  | nil => simp [strncmpBytes]
  | cons b bs ih =>
      obtain ⟨bne, nul'⟩ := List.ne_and_not_mem_of_not_mem_cons nul
      cases as with
      | nil =>
          have := toNat_ne_zero (Ne.symm bne)
          simp only [List.length_cons, strncmpBytes, List.prefix_nil, reduceCtorEq, iff_false]
          omega
      | cons a as =>
          simp only [List.length_cons, strncmpBytes, List.cons_prefix_cons]
          by_cases same : a = b
          · rw [if_pos same, ih nul']
            simp [same]
          · rw [if_neg same]
            simp [toNat_sub_ne_zero same, Ne.symm same]

/-- **A bounded comparison is a prefix test.** `strncmp(s, t, strlen(t))` is
zero exactly when `t` is an initial part of `s`; `s` may go on. -/
theorem strncmp_length_eq_zero_iff {s t : CString} :
    strncmp s t t.length = 0 ↔ t.IsPrefix s :=
  strncmpBytes_length_eq_zero_iff t.nul_notMem

private theorem strncmpBytes_max_eq_zero_iff {as bs : List UInt8} (nulA : (0 : UInt8) ∉ as)
    (nulB : (0 : UInt8) ∉ bs) :
    strncmpBytes as bs (max as.length bs.length) = 0 ↔ as = bs := by
  induction bs generalizing as with
  | nil =>
      cases as with
      | nil => simp [strncmpBytes]
      | cons a as =>
          have := toNat_ne_zero (Ne.symm (List.ne_and_not_mem_of_not_mem_cons nulA).1)
          simp only [List.length_cons, List.length_nil, Nat.max_zero, strncmpBytes, reduceCtorEq,
            iff_false]
          exact this
  | cons b bs ih =>
      obtain ⟨bne, nulB'⟩ := List.ne_and_not_mem_of_not_mem_cons nulB
      cases as with
      | nil =>
          have := toNat_ne_zero (Ne.symm bne)
          simp only [List.length_cons, List.length_nil, Nat.zero_max, strncmpBytes, reduceCtorEq,
            iff_false]
          omega
      | cons a as =>
          simp only [List.length_cons, Nat.succ_max_succ, strncmpBytes]
          by_cases same : a = b
          · rw [if_pos same, ih (List.ne_and_not_mem_of_not_mem_cons nulA).2 nulB']
            simp [same]
          · rw [if_neg same]
            simp [toNat_sub_ne_zero same, same]

/-- `strcmp` is zero exactly on equal strings. -/
@[simp]
theorem strcmp_eq_zero_iff {s t : CString} : strcmp s t = 0 ↔ s = t := by
  rw [CString.eq_iff_bytes]
  exact strncmpBytes_max_eq_zero_iff s.nul_notMem t.nul_notMem

/-- `strstr(s, t) != NULL` on the bytes before the terminators. -/
def strstrBytes (t : List UInt8) : List UInt8 → Bool
  | [] => t.isEmpty
  | b :: rest => t.isPrefixOf (b :: rest) || strstrBytes t rest

theorem strstrBytes_iff {t s : List UInt8} : strstrBytes t s = true ↔ t <:+: s := by
  induction s with
  | nil => simp [strstrBytes]
  | cons b rest ih =>
      rw [strstrBytes, Bool.or_eq_true, List.isPrefixOf_iff_prefix, ih, List.infix_cons_iff]

/-- `t` occurs in `s`. -/
def strstr (s t : CString) : Bool := strstrBytes t.bytes s.bytes

/-! ### Pointers that may be unset -/

/-- `strcmp` on two `char*`; reading through an unset pointer has no result. -/
def strcmp? : Option CString → Option CString → Option Int
  | some s, some t => some (strcmp s t)
  | _, _ => none

@[simp]
theorem strcmp?_some (s t : CString) : strcmp? (some s) (some t) = some (strcmp s t) := rfl

/-- Nested tests `strcmp(s, t) == 0`, in order: the first that fails ends them. -/
def sameTexts? : List (Option CString × Option CString) → Option Bool
  | [] => some true
  | (s, t) :: rest => (strcmp? s t).bind fun c => if c = 0 then sameTexts? rest else some false

@[simp]
theorem sameTexts?_nil : sameTexts? [] = some true := rfl

@[simp]
theorem sameTexts?_cons_some (s t : CString) (rest : List (Option CString × Option CString)) :
    sameTexts? ((some s, some t) :: rest) = if s = t then sameTexts? rest else some false := by
  simp only [sameTexts?, strcmp?_some, Option.bind_some, strcmp_eq_zero_iff]

@[simp]
theorem sameTexts?_cons_unset (t : Option CString)
    (rest : List (Option CString × Option CString)) : sameTexts? ((none, t) :: rest) = none := by
  cases t <;> rfl

/-- The tests all succeed exactly when every pair is the same set string. -/
theorem sameTexts?_eq_true_iff {texts : List (Option CString × Option CString)} :
    sameTexts? texts = some true ↔ ∀ p ∈ texts, p.1 = p.2 ∧ p.1 ≠ none := by
  induction texts with
  | nil => simp
  | cons p rest ih =>
      obtain ⟨s, t⟩ := p
      cases s with
      | none => simp
      | some s =>
          cases t with
          | none => simp [sameTexts?, strcmp?]
          | some t =>
              by_cases same : s = t
              · simp [same, ih]
              · simp [same]

/-- Nothing faults when all strings are set. -/
theorem sameTexts?_ne_fault {texts : List (Option CString × Option CString)}
    (set : ∀ p ∈ texts, p.1 ≠ none ∧ p.2 ≠ none) : sameTexts? texts ≠ none := by
  induction texts with
  | nil => simp
  | cons p rest ih =>
      obtain ⟨setS, setT⟩ := set p List.mem_cons_self
      obtain ⟨s, hs⟩ := Option.ne_none_iff_exists'.mp setS
      obtain ⟨t, ht⟩ := Option.ne_none_iff_exists'.mp setT
      obtain rfl : p = (some s, some t) := Prod.ext hs ht
      rw [sameTexts?_cons_some]
      split
      · exact ih fun q mem => set q (List.mem_cons_of_mem _ mem)
      · exact Option.some_ne_none _

/-! ### Numbers in text -/

/-- The value of the decimal digits at the front of the bytes. -/
def digitsValue (bytes : List UInt8) : Nat :=
  (bytes.takeWhile fun b => 48 ≤ b ∧ b ≤ 57).foldl (fun n b => 10 * n + (b.toNat - 48)) 0

/-- `atoi`: white space, an optional sign, then digits. The number is as large as it is written. -/
def atoi (s : CString) : Int :=
  match s.bytes.dropWhile fun b => b = 32 ∨ (9 ≤ b ∧ b ≤ 13) with
  | [] => 0
  | b :: rest =>
      if b = 45 then -(digitsValue rest : Int)
      else if b = 43 then digitsValue rest
      else digitsValue (b :: rest)

/-- `atoi` where a `long` has 32 bits: a number that does not fit becomes the nearest one. -/
def toInt (s : CString) : Int := max (-2147483648) (min 2147483647 (atoi s))

end Sdm.Lib
