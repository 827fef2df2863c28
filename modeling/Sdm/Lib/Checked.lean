import Sdm.Lib.Memory

/-!
Computations on memory, access by access.

A computation reads one buffer and writes arrays. An access says how large its object is
and which bytes of it are touched. What follows an access that leaves its object is
undefined, so a computation ends there, with a fault that names the access. The C library
is here as the buffer's own operations.

* `safe_bind`: a computation is safe when its first part is, and what follows from there.
* `load8_eq_ok`, `strlen_eq_ok`, `memcpy_eq_ok`, `strcpy_eq_ok`, `copyTruncated_eq_ok`: when
  an operation stays inside, and what it returns.
-/

namespace Sdm.Lib

/-- An access to bytes of an object of this size. -/
structure Access where
  size : Nat
  off : Nat
  length : Nat
  deriving DecidableEq, Repr

/-- The access stays in its object. -/
def Access.Inside (a : Access) : Prop := a.off + a.length ≤ a.size

instance (a : Access) : Decidable a.Inside := inferInstanceAs (Decidable (_ ≤ _))

/-- An access that leaves its object. -/
structure Fault where
  access : Access
  outside : ¬ access.Inside

/-- A computation that ends at the first access that leaves its object. -/
abbrev Checked := Except Fault

namespace Checked

variable {α β : Type} {c : Checked α} {f : α → Checked β} {a : α}

/-- Make an access. -/
def access (touched : Access) : Checked Unit :=
  if inside : touched.Inside then .ok () else .error ⟨touched, inside⟩

/-- Every access stays inside: the computation returns. -/
def Safe (c : Checked α) : Prop := ∃ a, c = .ok a

@[simp]
theorem access_eq_ok {touched : Access} {u : Unit} : access touched = .ok u ↔ touched.Inside := by
  rw [access]
  split
  · rename_i inside
    exact iff_of_true rfl inside
  · rename_i outside
    exact iff_of_false nofun outside

@[simp]
theorem safe_pure : Safe (pure a : Checked α) := ⟨a, rfl⟩

@[simp]
theorem not_safe_error {fault : Fault} : ¬ Safe (.error fault : Checked α) := by
  rintro ⟨a, same⟩
  cases same

@[simp]
theorem pure_eq_ok {a' : α} : (pure a : Checked α) = .ok a' ↔ a' = a := by
  constructor
  · intro same
    cases same
    rfl
  · intro same
    rw [same]
    rfl

theorem bind_eq_ok {b : β} : (c >>= f) = .ok b ↔ ∃ a, c = .ok a ∧ f a = .ok b := by
  cases c with
  | error fault =>
      constructor
      · intro same
        cases same
      · rintro ⟨a, same, _⟩
        cases same
  | ok a =>
      constructor
      · intro same
        exact ⟨a, rfl, same⟩
      · rintro ⟨a, same, rest⟩
        cases same
        exact rest

/-- **A computation in two parts** is safe when the first part is, and the second from there. -/
theorem safe_bind : Safe (c >>= f) ↔ ∃ a, c = .ok a ∧ Safe (f a) := by
  simp only [Safe, bind_eq_ok]
  constructor
  · rintro ⟨b, a, first, rest⟩
    exact ⟨a, first, b, rest⟩
  · rintro ⟨a, first, b, rest⟩
    exact ⟨b, a, first, rest⟩

theorem safe_access_bind {touched : Access} {f : Unit → Checked β} :
    Safe (access touched >>= f) ↔ touched.Inside ∧ Safe (f ()) := by
  simp only [safe_bind, access_eq_ok]
  exact ⟨fun ⟨_, both⟩ => both, fun both => ⟨(), both⟩⟩

theorem safe_map {g : α → β} : Safe (g <$> c) ↔ Safe c := by
  rw [map_eq_pure_bind, safe_bind]
  simp [Safe]

/-- Read through a pointer; an unset one points to no object. -/
def deref (pointer : Option α) : Checked α :=
  match pointer with
  | some a => .ok a
  | none => .error ⟨⟨0, 0, 1⟩, by decide⟩

@[simp]
theorem deref_eq_ok {pointer : Option α} : deref pointer = .ok a ↔ pointer = some a := by
  cases pointer with
  | none => exact iff_of_false nofun nofun
  | some b =>
      constructor
      · intro same
        cases same
        rfl
      · intro same
        cases same
        rfl

end Checked

/-! ### A buffer and what is copied from it -/

/-- A buffer: its bytes, as many as its size says. -/
structure Buffer where
  bytes : Memory
  size : Nat

namespace Buffer

open Checked Memory

variable {b : Buffer} {off n arraySize dst src : Nat}

/-- A text of `n` bytes stands at the offset, its terminator in the buffer. -/
def TextAt (b : Buffer) (off n : Nat) : Prop :=
  (∀ j < n, b.bytes (off + j) ≠ 0) ∧ b.bytes (off + n) = 0 ∧ off + n < b.size

/-- The `n` bytes at the offset, as a text. -/
def textOf (b : Buffer) (off n : Nat) : CString := .ofBytes (b.bytes.read off n)

/-- Read bytes that have this value. -/
def fetch {α : Type} (b : Buffer) (off length : Nat) (value : α) : Checked α := do
  access ⟨b.size, off, length⟩
  pure value

def load8 (b : Buffer) (off : Nat) : Checked UInt8 := b.fetch off 1 (b.bytes off)

def load16 (b : Buffer) (off : Nat) : Checked UInt16 := b.fetch off 2 (b.bytes.load16 off)

def load32 (b : Buffer) (off : Nat) : Checked UInt32 := b.fetch off 4 (b.bytes.load32 off)

/-- `strlen`: without a terminator in the buffer the walk takes the byte behind its end. -/
def strlen (b : Buffer) (off : Nat) : Checked Nat :=
  match b.bytes.strlen off b.size with
  | some n => .ok n
  | none => .error ⟨⟨b.size, off, b.size - off + 1⟩, by simp only [Access.Inside]; omega⟩

/-- `memcpy` into an array of this size. -/
def memcpy (b : Buffer) (arraySize dst src n : Nat) : Checked (List UInt8) := do
  access ⟨b.size, src, n⟩
  access ⟨arraySize, dst, n⟩
  pure (b.bytes.read src n)

/-- `strcpy` into an array of this size: the text that the array holds. -/
def strcpy (b : Buffer) (arraySize src : Nat) : Checked CString := do
  let n ← b.strlen src
  let _ ← b.memcpy arraySize 0 src (n + 1)
  pure (b.textOf src n)

/-- `strncpy` of the whole array, and a terminator at its end when the text is longer: the
length of the text, and what the array holds of it. -/
def copyTruncated (b : Buffer) (arraySize src : Nat) : Checked (Nat × CString) := do
  let n ← b.strlen src
  access ⟨b.size, src, min (n + 1) arraySize⟩
  access ⟨arraySize, 0, arraySize⟩
  if arraySize - 1 < n then
    access ⟨arraySize, arraySize - 1, 1⟩
  pure (n, b.textOf src (min n (arraySize - 1)))

theorem textAt_iff_strlen : b.TextAt off n ↔ b.bytes.strlen off b.size = some n :=
  strlen_eq_some_iff.symm

/-- A terminator behind the offset ends a text there. -/
theorem exists_textAt {e : Nat} (off : Nat) (behind : off ≤ e) (within : e < b.size)
    (nul : b.bytes e = 0) : ∃ n, b.TextAt off n ∧ off + n ≤ e := by
  have found : b.bytes.strlen off b.size ≠ none := by
    intro none
    exact strlen_eq_none_iff.mp none e behind within nul
  obtain ⟨n, length⟩ := Option.ne_none_iff_exists'.mp found
  have text := textAt_iff_strlen.mpr length
  refine ⟨n, text, ?_⟩
  by_contra before
  apply text.1 (e - off) (by omega)
  rwa [Nat.add_sub_cancel' behind]

/-- What is read of a text has no terminator inside. -/
theorem bytes_textOf {k : Nat} (text : b.TextAt off n) (le : k ≤ n) :
    (b.textOf off k).bytes = b.bytes.read off k := by
  apply List.takeWhile_eq_self_iff.mpr
  intro byte mem
  obtain ⟨j, lt, rfl⟩ := mem_read.mp mem
  exact decide_eq_true (text.1 j (lt.trans_le le))

/-- What is read of a text has as many bytes. -/
theorem length_textOf {k : Nat} (text : b.TextAt off n) (le : k ≤ n) :
    (b.textOf off k).length = k := by
  rw [CString.length, bytes_textOf text le, length_read]

/-- The text stands there with its terminator. -/
theorem has_textOf (text : b.TextAt off n) :
    b.bytes.Has off ((b.textOf off n).bytes ++ [0]) := by
  rw [bytes_textOf text (Nat.le_refl _), has_append, length_read, has_cons]
  refine ⟨?_, text.2.1, rfl⟩
  rw [Has, length_read]

@[simp]
theorem fetch_eq_ok {α : Type} {value x : α} :
    b.fetch off n value = .ok x ↔ off + n ≤ b.size ∧ x = value := by
  simp only [fetch, bind_eq_ok, access_eq_ok, pure_eq_ok, Access.Inside, exists_const]

@[simp]
theorem load8_eq_ok {x : UInt8} :
    b.load8 off = .ok x ↔ off + 1 ≤ b.size ∧ x = b.bytes off := fetch_eq_ok

@[simp]
theorem strlen_eq_ok : b.strlen off = .ok n ↔ b.TextAt off n := by
  rw [strlen, textAt_iff_strlen]
  split
  · rename_i k length
    rw [length, Except.ok.injEq, Option.some.injEq]
  · rename_i none
    rw [none]
    exact iff_of_false nofun nofun

@[simp]
theorem memcpy_eq_ok {copied : List UInt8} : b.memcpy arraySize dst src n = .ok copied ↔
    src + n ≤ b.size ∧ dst + n ≤ arraySize ∧ copied = b.bytes.read src n := by
  simp only [memcpy, bind_eq_ok, access_eq_ok, pure_eq_ok, Access.Inside, exists_const]

theorem strcpy_eq_ok {text : CString} : b.strcpy arraySize src = .ok text ↔
    ∃ n, b.TextAt src n ∧ n < arraySize ∧ text = b.textOf src n := by
  simp only [strcpy, bind_eq_ok, strlen_eq_ok, memcpy_eq_ok, pure_eq_ok]
  constructor
  · rintro ⟨n, text, _, ⟨_, fits, _⟩, same⟩
    exact ⟨n, text, by omega, same⟩
  · rintro ⟨n, text, fits, same⟩
    exact ⟨n, text, _, ⟨text.2.2, by omega, rfl⟩, same⟩

/-- A copy that is cut to its array only needs the terminator in the buffer. -/
theorem copyTruncated_eq_ok {copied : Nat × CString} (room : 0 < arraySize) :
    b.copyTruncated arraySize src = .ok copied ↔
      ∃ n, b.TextAt src n ∧ copied = (n, b.textOf src (min n (arraySize - 1))) := by
  simp only [copyTruncated, bind_eq_ok, strlen_eq_ok, access_eq_ok, Access.Inside]
  constructor
  · rintro ⟨n, text, _, _, _, _, rest⟩
    refine ⟨n, text, ?_⟩
    split at rest
    · obtain ⟨_, _, same⟩ := bind_eq_ok.mp rest
      exact pure_eq_ok.mp same
    · exact pure_eq_ok.mp rest
  · rintro ⟨n, text, rfl⟩
    have within := text.2.2
    refine ⟨n, text, (), by omega, (), by omega, ?_⟩
    split
    · exact bind_eq_ok.mpr ⟨(), access_eq_ok.mpr (by simp only [Access.Inside]; omega), rfl⟩
    · rfl

/-! ### Bytes in their place -/

/-- A text with its terminator. -/
theorem textAt_of_has {s : CString} (here : b.bytes.Has off (s.bytes ++ [0]))
    (within : off + s.length < b.size) : b.TextAt off s.length := by
  obtain ⟨bytes, nul⟩ := has_append.mp here
  refine ⟨fun j lt => ?_, (has_cons.mp nul).1, within⟩
  rw [bytes.getD lt, List.getD_eq_getElem _ _ lt]
  exact fun zero => s.nul_notMem (zero ▸ List.getElem_mem lt)

theorem textOf_of_has {s : CString} (here : b.bytes.Has off (s.bytes ++ [0])) :
    b.textOf off s.length = s := by
  rw [textOf, show b.bytes.read off s.length = s.bytes from (has_append.mp here).1,
    CString.ofBytes_bytes]

theorem load8_of_has {byte : UInt8} (here : b.bytes off = byte) (within : off + 1 ≤ b.size) :
    b.load8 off = .ok byte := load8_eq_ok.mpr ⟨within, here.symm⟩

theorem load16_of_has {x : UInt16} (here : b.bytes.Has off (bytes16 x))
    (within : off + 2 ≤ b.size) : b.load16 off = .ok x :=
  fetch_eq_ok.mpr ⟨within, here.load16.symm⟩

theorem load32_of_has {x : UInt32} (here : b.bytes.Has off (bytes32 x))
    (within : off + 4 ≤ b.size) : b.load32 off = .ok x :=
  fetch_eq_ok.mpr ⟨within, here.load32.symm⟩

theorem memcpy_of_has {bytes : List UInt8} (here : b.bytes.Has src bytes)
    (within : src + bytes.length ≤ b.size) (fits : dst + bytes.length ≤ arraySize) :
    b.memcpy arraySize dst src bytes.length = .ok bytes :=
  memcpy_eq_ok.mpr ⟨within, fits, Eq.symm here⟩

theorem strcpy_of_has {s : CString} (here : b.bytes.Has src (s.bytes ++ [0]))
    (within : src + s.length < b.size) (fits : s.length < arraySize) :
    b.strcpy arraySize src = .ok s :=
  strcpy_eq_ok.mpr ⟨s.length, textAt_of_has here within, fits, (textOf_of_has here).symm⟩

/-- A text that its array takes is not cut. -/
theorem copyTruncated_of_has {s : CString} (here : b.bytes.Has src (s.bytes ++ [0]))
    (within : src + s.length < b.size) (fits : s.length < arraySize) :
    b.copyTruncated arraySize src = .ok (s.length, s) := by
  refine (copyTruncated_eq_ok (Nat.zero_lt_of_lt fits)).mpr
    ⟨s.length, textAt_of_has here within, ?_⟩
  rw [Nat.min_eq_left (Nat.le_sub_one_of_lt fits), textOf_of_has here]

/-- A text that is copied up to the end of its array ends there when it is shorter. -/
theorem textAt_strncpy {m : Memory} {s : CString} {size : Nat} (le : off ≤ size) :
    (⟨m.store off (s.strncpy (size - off)), size⟩ : Buffer).TextAt off n ↔
      n = s.length ∧ off + s.length < size := by
  by_cases short : s.length < size - off
  · have here : (m.store off (s.strncpy (size - off))).Has off (s.bytes ++ [0]) := by
      rw [CString.strncpy_of_lt short]
      exact (has_append.mp has_store).1
    have text : (⟨m.store off (s.strncpy (size - off)), size⟩ : Buffer).TextAt off s.length :=
      textAt_of_has here (by simp only; omega)
    constructor
    · intro other
      have same := (textAt_iff_strlen.mp other).symm.trans (textAt_iff_strlen.mp text)
      exact ⟨Option.some.inj same, by omega⟩
    · rintro ⟨rfl, -⟩
      exact text
  · refine iff_of_false ?_ fun both => short (by omega)
    rintro ⟨-, nul, within⟩
    have inside : n < (s.strncpy (size - off)).length := by
      rw [CString.length_strncpy]
      exact Nat.lt_sub_of_add_lt (by rwa [Nat.add_comm])
    simp only [store_add inside] at nul
    rw [List.getD_eq_getElem _ _ inside] at nul
    have mem : (0 : UInt8) ∈ s.strncpy (size - off) := nul ▸ List.getElem_mem inside
    rw [CString.strncpy_of_le (Nat.le_of_not_lt short)] at mem
    exact s.nul_notMem (List.mem_of_mem_take mem)

/-! ### What follows an operation -/

variable {α β : Type}

@[simp]
theorem safe_fetch_bind {value : α} {f : α → Checked β} :
    Safe (b.fetch off n value >>= f) ↔ off + n ≤ b.size ∧ Safe (f value) := by
  simp only [safe_bind, fetch_eq_ok, and_assoc, exists_and_left, exists_eq_left]

@[simp]
theorem safe_memcpy_bind {f : List UInt8 → Checked β} :
    Safe (b.memcpy arraySize dst src n >>= f) ↔
      src + n ≤ b.size ∧ dst + n ≤ arraySize ∧ Safe (f (b.bytes.read src n)) := by
  simp only [safe_bind, memcpy_eq_ok, and_assoc, exists_and_left, exists_eq_left]

/-- A copy of the whole text needs an array that it fits. -/
@[simp]
theorem safe_strcpy_bind {f : CString → Checked β} : Safe (b.strcpy arraySize src >>= f) ↔
    ∃ n, b.TextAt src n ∧ n < arraySize ∧ Safe (f (b.textOf src n)) := by
  simp only [safe_bind, strcpy_eq_ok]
  constructor
  · rintro ⟨_, ⟨n, text, fits, rfl⟩, rest⟩
    exact ⟨n, text, fits, rest⟩
  · rintro ⟨n, text, fits, rest⟩
    exact ⟨_, ⟨n, text, fits, rfl⟩, rest⟩

/-- A copy that is cut to its array needs the terminator in the buffer, and no more. -/
@[simp]
theorem safe_copyTruncated_bind {f : Nat × CString → Checked β} (room : 0 < arraySize) :
    Safe (b.copyTruncated arraySize src >>= f) ↔
      ∃ n, b.TextAt src n ∧ Safe (f (n, b.textOf src (min n (arraySize - 1)))) := by
  simp only [safe_bind, copyTruncated_eq_ok room]
  constructor
  · rintro ⟨_, ⟨n, text, rfl⟩, rest⟩
    exact ⟨n, text, rest⟩
  · rintro ⟨n, text, rest⟩
    exact ⟨_, ⟨n, text, rfl⟩, rest⟩

end Buffer

end Sdm.Lib
