import Mathlib.Data.List.GetD
import Sdm.Lib.CString

/-!
The bytes of an object in memory, and what the C library does to them.

A memory gives a byte for every offset into the object. There is one write,
`store`, and every field is read back by one of the loads. The size of the object
is an argument of `text`, the only reader that could leave it.

* `store_of_outside`, `read_store_of_apart`, `load32_store_of_apart`: a write
  changes only its own range.
* `read_store_append`: what is stored piece by piece is read back as a whole.
* `load16_eq`, `load32_eq`: a little-endian number is read back as stored.
* `text_eq`: the text at an offset is what stands before the first NUL.
* `has_append`, `Has.text`: bytes that stand one behind the other, and what is read of them.
* `strlen_eq_some_iff`, `getD_strncpy`: where a text ends, and what a bounded copy has of it.
-/

namespace Sdm.Lib

/-- The bytes of an object, by offset. -/
abbrev Memory := Nat → UInt8

namespace Memory

variable {m m' : Memory} {bytes : List UInt8} {off a n k size : Nat} {b : UInt8}

/-- Copy the bytes to the offset (`memcpy`). -/
def store (m : Memory) (off : Nat) (bytes : List UInt8) : Memory := fun a =>
  if off ≤ a ∧ a < off + bytes.length then bytes.getD (a - off) 0 else m a

/-- Set `n` bytes from the offset on (`memset`). -/
def fill (m : Memory) (off n : Nat) (b : UInt8) : Memory := m.store off (List.replicate n b)

/-- The `n` bytes from the offset on. -/
def read (m : Memory) (off n : Nat) : List UInt8 := (List.range n).map fun j => m (off + j)

/-- The text at the offset of an object of this size; none when its terminator
would lie outside. -/
def text (m : Memory) (off size : Nat) : Option CString :=
  if (0 : UInt8) ∈ m.read off (size - off) then
    some ⟨(m.read off (size - off)).takeWhile (· ≠ 0),
      fun mem => by simpa using List.mem_takeWhile_imp mem⟩
  else none

/-! ### Writes -/

theorem store_of_inside (inside : off ≤ a ∧ a < off + bytes.length) :
    m.store off bytes a = bytes.getD (a - off) 0 := if_pos inside

theorem store_of_outside (outside : a < off ∨ off + bytes.length ≤ a) :
    m.store off bytes a = m a := if_neg (by omega)

theorem store_add (within : k < bytes.length) :
    m.store off bytes (off + k) = bytes.getD k 0 := by
  rw [store_of_inside (by omega), Nat.add_sub_cancel_left]

@[simp]
theorem store_singleton : m.store off [b] off = b := store_add (k := 0) Nat.one_pos

theorem store_singleton_of_ne {c : UInt8} (ne : a ≠ off) : m.store off [c] a = m a :=
  store_of_outside (by rw [List.length_singleton]; omega)

/-- Bytes are stored piece by piece. -/
theorem store_append {rest : List UInt8} :
    m.store off (bytes ++ rest) = (m.store off bytes).store (off + bytes.length) rest := by
  funext a
  by_cases inside : off ≤ a ∧ a < off + (bytes ++ rest).length
  · rw [store_of_inside inside]
    rw [List.length_append] at inside
    by_cases first : a < off + bytes.length
    · rw [store_of_outside (.inl first), store_of_inside ⟨inside.1, first⟩,
        List.getD_append _ _ _ _ (by omega)]
    · rw [store_of_inside ⟨Nat.not_lt.mp first, by omega⟩,
        List.getD_append_right _ _ _ _ (by omega), Nat.sub_sub]
  · rw [store_of_outside (by omega)]
    rw [List.length_append] at inside
    rw [store_of_outside (by omega), store_of_outside (by omega)]

theorem fill_of_inside (inside : off ≤ a ∧ a < off + n) : m.fill off n b a = b := by
  rw [fill, store_of_inside (by simpa using inside)]
  exact List.getD_replicate b (by omega)

theorem fill_of_outside (outside : a < off ∨ off + n ≤ a) : m.fill off n b a = m a :=
  store_of_outside (by simpa using outside)

/-! ### Texts -/

theorem read_add : m.read off (n + k) = m.read off n ++ m.read (off + n) k := by
  simp only [read, List.range_add, List.map_append, List.map_map, Function.comp_def, Nat.add_assoc]

theorem mem_read : b ∈ m.read off n ↔ ∃ j < n, m (off + j) = b := by
  simp [read]

/-- Bytes that are in memory are read. -/
theorem read_eq (here : ∀ j < bytes.length, m (off + j) = bytes.getD j 0) :
    m.read off bytes.length = bytes := by
  apply List.ext_getElem (by simp [read])
  intro j lt lt'
  simp only [read, List.getElem_map, List.getElem_range, here j lt', List.getD_eq_getElem _ _ lt']

theorem length_read : (m.read off n).length = n := by
  simp [read]

theorem getD_read (within : k < n) : (m.read off n).getD k 0 = m (off + k) := by
  rw [List.getD_eq_getElem _ _ (by rwa [length_read])]
  simp only [read, List.getElem_map, List.getElem_range]

/-- What was stored is read back. -/
theorem read_store : (m.store off bytes).read off bytes.length = bytes :=
  read_eq fun _ lt => store_add lt

theorem read_store_of_apart (apart : a + n ≤ off ∨ off + bytes.length ≤ a) :
    (m.store off bytes).read a n = m.read a n := by
  refine List.map_congr_left fun j mem => store_of_outside ?_
  have lt := List.mem_range.mp mem
  omega

/-- A text that is stored piece by piece is read back as a whole. -/
theorem read_store_append :
    (m.store (a + n) bytes).read a (n + bytes.length) = m.read a n ++ bytes := by
  rw [read_add, read_store, read_store_of_apart (Or.inl (Nat.le_refl _))]

/-- **The text at an offset** is what stands before the first NUL. -/
theorem text_eq {s : CString} (here : ∀ j < s.length, m (off + j) = s.bytes.getD j 0)
    (nul : m (off + s.length) = 0) (within : off + s.length < size) :
    m.text off size = some s := by
  obtain ⟨rest, whole⟩ : ∃ rest, size - off = s.length + 1 + rest :=
    ⟨size - off - (s.length + 1), by omega⟩
  have content : m.read off (size - off) = s.bytes ++ 0 :: m.read (off + (s.length + 1)) rest := by
    rw [whole, read_add, read_add, show m.read off s.length = s.bytes from read_eq here,
      List.append_assoc]
    simp [read, nul]
  have noNul : s.bytes.takeWhile (· ≠ 0) = s.bytes :=
    List.takeWhile_eq_self_iff.mpr fun b mem =>
      decide_eq_true fun zero => s.nul_notMem (zero ▸ mem)
  rw [text, if_pos (by rw [content]; simp)]
  congr 1
  apply CString.ext
  simp only [content, List.takeWhile_append, noNul]
  simp

/-! ### Lengths and bounded copies -/

/-- `strlen` of the text at an offset of an object of this size; none when its terminator
would lie outside. -/
def strlen (m : Memory) (off size : Nat) : Option Nat :=
  (m.read off (size - off)).findIdx? (· == 0)

theorem strlen_eq_some_iff : m.strlen off size = some n ↔
    (∀ j < n, m (off + j) ≠ 0) ∧ m (off + n) = 0 ∧ off + n < size := by
  rw [strlen, List.findIdx?_eq_some_iff_getElem]
  simp only [read, List.length_map, List.length_range, List.getElem_map, List.getElem_range,
    beq_iff_eq]
  constructor
  · rintro ⟨lt, zero, before⟩
    exact ⟨before, zero, by omega⟩
  · rintro ⟨before, zero, lt⟩
    exact ⟨by omega, zero, before⟩

theorem strlen_eq_none_iff : m.strlen off size = none ↔ ∀ a, off ≤ a → a < size → m a ≠ 0 := by
  rw [strlen, List.findIdx?_eq_none_iff]
  constructor
  · intro clear a low high
    have := clear (m a) (mem_read.mpr ⟨a - off, by omega, by rw [Nat.add_sub_cancel' low]⟩)
    simpa using this
  · intro clear b mem
    obtain ⟨j, lt, rfl⟩ := mem_read.mp mem
    simpa using clear (off + j) (by omega) (by omega)

/-- What `strncpy` copies from the offset: `n` bytes, with zeros from the terminator on. -/
def strncpy (m : Memory) (off n : Nat) : List UInt8 :=
  let text := (m.read off n).takeWhile (· ≠ 0)
  text ++ List.replicate (n - text.length) 0

theorem length_strncpy : (m.strncpy off n).length = n := by
  have := (List.takeWhile_prefix (p := fun b : UInt8 => decide (b ≠ 0))
    (l := m.read off n)).length_le
  rw [length_read] at this
  simp only [strncpy, List.length_append, List.length_replicate]
  omega

/-- A byte up to which there is no terminator is copied. -/
theorem getD_strncpy (within : k < n) (clear : ∀ j < k, m (off + j) ≠ 0) :
    (m.strncpy off n).getD k 0 = m (off + k) := by
  induction n generalizing off k with
  | zero => exact absurd within (Nat.not_lt_zero k)
  | succ n ih =>
      have head : m.read off (n + 1) = m off :: m.read (off + 1) n := by
        rw [Nat.add_comm, read_add]
        simp [read]
      by_cases zero : m off = 0
      · have start : k = 0 := by
          by_contra later
          exact clear 0 (Nat.pos_of_ne_zero later) zero
        simp [strncpy, head, zero, start]
      · have step : m.strncpy off (n + 1) = m off :: m.strncpy (off + 1) n := by
          simp [strncpy, head, zero]
        rw [step]
        cases k with
        | zero => rfl
        | succ k =>
            rw [List.getD_cons_succ, ih (by omega) fun j lt => by
              have := clear (j + 1) (by omega)
              rwa [← Nat.add_assoc, Nat.add_right_comm] at this]
            rw [← Nat.add_assoc, Nat.add_right_comm]

/-! ### Little-endian numbers -/

def bytes16 (x : UInt16) : List UInt8 := [UInt8.ofNat x.toNat, UInt8.ofNat (x.toNat / 256)]

def bytes32 (x : UInt32) : List UInt8 :=
  [UInt8.ofNat x.toNat, UInt8.ofNat (x.toNat / 256), UInt8.ofNat (x.toNat / 65536),
    UInt8.ofNat (x.toNat / 16777216)]

def load16 (m : Memory) (off : Nat) : UInt16 :=
  UInt16.ofNat ((m off).toNat + 256 * (m (off + 1)).toNat)

def load32 (m : Memory) (off : Nat) : UInt32 :=
  UInt32.ofNat ((m off).toNat + 256 * (m (off + 1)).toNat + 65536 * (m (off + 2)).toNat +
    16777216 * (m (off + 3)).toNat)

def bytes64 (x : UInt64) : List UInt8 :=
  bytes32 (UInt32.ofNat x.toNat) ++ bytes32 (UInt32.ofNat (x.toNat / 4294967296))

def load64 (m : Memory) (off : Nat) : UInt64 :=
  UInt64.ofNat ((m.load32 off).toNat + 4294967296 * (m.load32 (off + 4)).toNat)

@[simp]
theorem length_bytes16 (x : UInt16) : (bytes16 x).length = 2 := rfl

@[simp]
theorem length_bytes32 (x : UInt32) : (bytes32 x).length = 4 := rfl

theorem load16_eq {x : UInt16} (here : m.read off 2 = bytes16 x) : m.load16 off = x := by
  have bound := x.toNat_lt
  simp only [read, bytes16, List.range_succ, List.range_zero, List.nil_append,
    List.map_cons, List.map_nil, List.cons_append, List.cons.injEq, and_true] at here
  obtain ⟨b₀, b₁⟩ := here
  apply UInt16.toNat_inj.mp
  rw [load16, b₁, show m off = _ from b₀]
  simp only [UInt8.toNat_ofNat', UInt16.toNat_ofNat']
  omega

theorem load32_eq {x : UInt32} (here : m.read off 4 = bytes32 x) : m.load32 off = x := by
  have bound := x.toNat_lt
  simp only [read, bytes32, List.range_succ, List.range_zero, List.nil_append,
    List.map_cons, List.map_nil, List.cons_append, List.cons.injEq, and_true] at here
  obtain ⟨b₀, b₁, b₂, b₃⟩ := here
  apply UInt32.toNat_inj.mp
  rw [load32, b₁, b₂, b₃, show m off = _ from b₀]
  simp only [UInt8.toNat_ofNat', UInt32.toNat_ofNat']
  omega

@[simp]
theorem load16_store (x : UInt16) : (m.store off (bytes16 x)).load16 off = x :=
  load16_eq read_store

@[simp]
theorem load32_store (x : UInt32) : (m.store off (bytes32 x)).load32 off = x :=
  load32_eq read_store

theorem load16_congr (same : ∀ j < 2, m' (off + j) = m (off + j)) :
    m'.load16 off = m.load16 off := by
  rw [load16, load16, same 1 (by omega), show m' off = m off from same 0 (by omega)]

theorem load32_congr (same : ∀ j < 4, m' (off + j) = m (off + j)) :
    m'.load32 off = m.load32 off := by
  rw [load32, load32, same 1 (by omega), same 2 (by omega), same 3 (by omega),
    show m' off = m off from same 0 (by omega)]

theorem load64_congr (same : ∀ j < 8, m' (off + j) = m (off + j)) :
    m'.load64 off = m.load64 off := by
  have low : m'.load32 off = m.load32 off := load32_congr fun j lt => same j (by omega)
  have high : m'.load32 (off + 4) = m.load32 (off + 4) := load32_congr fun j lt => by
    rw [Nat.add_assoc]
    exact same (4 + j) (by omega)
  rw [load64, load64, low, high]

theorem load32_store_of_apart (apart : a + 4 ≤ off ∨ off + bytes.length ≤ a) :
    (m.store off bytes).load32 a = m.load32 a :=
  load32_congr fun _ _ => store_of_outside (by omega)

/-! ### Bytes in their place -/

/-- These bytes stand at the offset. -/
def Has (m : Memory) (off : Nat) (bytes : List UInt8) : Prop := m.read off bytes.length = bytes

instance : Decidable (m.Has off bytes) := inferInstanceAs (Decidable (_ = _))

theorem has_store : (m.store off bytes).Has off bytes := read_store

/-- Bytes that stand one behind the other. -/
theorem has_append {rest : List UInt8} :
    m.Has off (bytes ++ rest) ↔ m.Has off bytes ∧ m.Has (off + bytes.length) rest := by
  rw [Has, List.length_append, read_add]
  constructor
  · intro here
    exact List.append_inj here length_read
  · rintro ⟨first, second⟩
    rw [Has] at first second
    rw [first, second]

theorem has_cons {rest : List UInt8} :
    m.Has off (b :: rest) ↔ m off = b ∧ m.Has (off + 1) rest := by
  rw [← List.singleton_append, has_append]
  refine and_congr_left fun _ => ?_
  simp [Has, read]

/-- Each of the bytes in its place. -/
theorem Has.getD (here : m.Has off bytes) (within : k < bytes.length) :
    m (off + k) = bytes.getD k 0 := calc
  m (off + k) = (m.read off bytes.length).getD k 0 := (getD_read within).symm
  _ = bytes.getD k 0 := by rw [show m.read off bytes.length = bytes from here]

theorem Has.congr (here : m.Has off bytes)
    (same : ∀ j < bytes.length, m' (off + j) = m (off + j)) : m'.Has off bytes :=
  read_eq fun j lt => (same j lt).trans (here.getD lt)

/-- Bytes stay in their place under a write elsewhere. -/
theorem Has.store {piece : List UInt8} (here : m.Has a piece)
    (apart : a + piece.length ≤ off ∨ off + bytes.length ≤ a) :
    (m.store off bytes).Has a piece := by
  rw [Has, read_store_of_apart apart]
  exact here

theorem Has.load16 {x : UInt16} (here : m.Has off (bytes16 x)) : m.load16 off = x := load16_eq here

theorem Has.load32 {x : UInt32} (here : m.Has off (bytes32 x)) : m.load32 off = x := load32_eq here

/-- A text with its terminator is found. -/
theorem Has.text {s : CString} (here : m.Has off (s.bytes ++ [0]))
    (within : off + s.length < size) : m.text off size = some s := by
  obtain ⟨bytes, nul⟩ := has_append.mp here
  exact text_eq (fun _ lt => bytes.getD lt) (has_cons.mp nul).1 within

end Memory

end Sdm.Lib
