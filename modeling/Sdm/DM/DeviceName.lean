import Mathlib.Algebra.Group.Nat.Defs
import Sdm.DM.Attribute
import Sdm.Lib.Checked
import Sdm.Lib.Occurrence

/-!
The name of a device or an application (`ParseDeviceName` in `Parse.cpp`).

`ParseDeviceName` takes the places of `Device` in a text one after the other, then those of
`Application`. From each it goes back over spaces to the `<` of the tag, ahead to the `>`,
and asks `GetAttribute` for the name. The way back does not look at index 0, and the flag
`bCorrectTag` then says what it said at the place before. A computation ends at the first
access outside the text.

* `Tagged` says what it is for a word to stand in a tag that has a name.
* `tryTag_cases`: what is made of one place.
* `walk_places`: what is made of several.
-/

namespace Sdm.Parse

open Lib

/-- The kinds that `ParseDeviceName` returns. -/
def DEVICE : Int := 1
def APPLICATION : Int := 0

/-- The beginning of an element, and what may stand behind it. -/
def OPEN : UInt8 := 60
def SPACE : UInt8 := 32

/-- The largest index there is, and what an index below 0 becomes. -/
def SIZE_MAX : Nat := 2 ^ 32 - 1

def STR_DEVICE : CString := .ofString "Device"
def STR_APPLICATION : CString := .ofString "Application"

/-- `strSource[i]`. -/
def charAt (strSource : CString) (i : Nat) : Checked UInt8 := do
  Checked.access ⟨strSource.length + 1, i, 1⟩
  pure (strSource.bytes.getD i 0)

/-- The way back to the opening `<`: `iTagStart` and `bCorrectTag` at its end. -/
def tagStart (strSource : CString) (bCorrectTag : Bool) : Nat → Checked (Nat × Bool)
  | 0 => pure (0, bCorrectTag)
  | iTagStart + 1 => do
      let c ← charAt strSource (iTagStart + 1)
      if c = OPEN then pure (iTagStart + 1, true)
      else if c ≠ SPACE then pure (iTagStart + 1, false)
      else tagStart strSource bCorrectTag iTagStart

/-- The way to the closing `>`: `bCorrectTag` at its end. -/
def tagEnd (bCorrectTag : Bool) : List UInt8 → Bool
  | [] => bCorrectTag
  | c :: rest => if c = CLOSE then true else if c = OPEN then false else tagEnd bCorrectTag rest

/-- What is made of one place: `bCorrectTag` and the returned name go on, or the name is
returned. -/
def tryTag (strSource : CString) (uiReturnNameSize : Nat) (state : Bool × Memory)
    (curPos : Nat) : (Bool × Memory) ⊕ Checked Memory :=
  match tagStart strSource state.1 (if curPos = 0 then SIZE_MAX else curPos - 1) with
  | .error fault => .inr (.error fault)
  | .ok (iTagStart, bCorrectTag) =>
      if bCorrectTag = false then .inl (bCorrectTag, state.2)
      else
        let bCorrectTag := tagEnd bCorrectTag (strSource.bytes.drop (iTagStart + 1))
        if bCorrectTag = false then .inl (bCorrectTag, state.2)
        else
          let found := GetAttribute (strSource.drop iTagStart) NAME.toCString state.2
            uiReturnNameSize
          if found.1 ≠ 0 then .inl (bCorrectTag, found.2) else .inr (.ok found.2)

/-- The places of one word, from the front of the text on. -/
def tryWord (strSource word : CString) (uiReturnNameSize : Nat) (state : Bool × Memory) :
    Option ((Bool × Memory) ⊕ Checked Memory) :=
  visit word.bytes strSource.bytes (tryTag strSource uiReturnNameSize) (strSource.length + 1) 0
    state

/-- `ParseDeviceName`: what it returns, and what it leaves at the pointer. -/
def ParseDeviceName (strSource : CString) (strReturnName : Memory) (uiReturnNameSize : Nat) :
    Option (Checked (Int × Memory)) := do
  match ← tryWord strSource STR_DEVICE uiReturnNameSize (false, strReturnName) with
  | .inr name => some ((DEVICE, ·) <$> name)
  | .inl state =>
      -- Try application instead
      match ← tryWord strSource STR_APPLICATION uiReturnNameSize state with
      | .inr name => some ((APPLICATION, ·) <$> name)
      | .inl state => some (.ok (-1, state.2))

/-! ### Tags -/

section Tags

variable (text : CString)

/-- The word stands at this place. -/
def Stands (word : CString) (p : Nat) : Prop := word.bytes <+: text.bytes.drop p

/-- The tag that begins at `t` has only spaces before `p`. -/
def Opens (t p : Nat) : Prop :=
  t < p ∧ text.bytes.getD t 0 = OPEN ∧ ∀ j, t < j → j < p → text.bytes.getD j 0 = SPACE

/-- The tag is closed before another one begins. -/
def Closed (t : Nat) : Prop :=
  ∃ inside behind, text.bytes.drop (t + 1) = inside ++ CLOSE :: behind ∧ OPEN ∉ inside

/-- The tag is the last one, and never closed. -/
def Unclosed (t : Nat) : Prop :=
  OPEN ∉ text.bytes.drop (t + 1) ∧ CLOSE ∉ text.bytes.drop (t + 1)

/-- `GetAttribute` finds the name of the tag. -/
def Named (size t : Nat) : Prop :=
  (GetAttribute (text.drop t) NAME.toCString (fun _ => 0) size).1 = 0

/-- The tag that begins at `t` is one of this word, and has a name. -/
def TagAt (word : CString) (size t : Nat) : Prop :=
  ∃ p, Stands text word p ∧ Opens text t p ∧ Named text size t

/-- The word stands in a closed tag that has a name. -/
def Tagged (word : CString) (size : Nat) : Prop := ∃ t, TagAt text word size t ∧ Closed text t

/-- **The kind of a text is decided**: without an access outside it, and by its tags alone. -/
def Decided (size : Nat) : Prop :=
  ∀ strReturnName, ∃ result, ParseDeviceName text strReturnName size = some (.ok result) ∧
    (result.1 = DEVICE ↔ Tagged text STR_DEVICE size) ∧
    (result.1 = APPLICATION ↔ ¬Tagged text STR_DEVICE size ∧ Tagged text STR_APPLICATION size)

/-- From `t` on, no other tag begins before a `>`. -/
def Kept (t : Nat) : Prop := Closed text t ∨ Unclosed text t

end Tags

/-! ### One place -/

section Place

variable {text word : CString} {p q t size : Nat} {flag : Bool} {name : Memory}

theorem charAt_of_lt (within : p ≤ text.length) :
    charAt text p = .ok (text.bytes.getD p 0) := by
  have inside : Checked.access ⟨text.length + 1, p, 1⟩ = .ok () :=
    Checked.access_eq_ok.mpr (Nat.succ_le_succ within)
  rw [charAt, inside]
  rfl

/-- The way back ends at the last byte that is no space, or at the front. -/
theorem tagStart_cases (text : CString) (q : Nat) (within : q ≤ text.length) :
    (∃ t, 0 < t ∧ t ≤ q ∧ text.bytes.getD t 0 ≠ SPACE ∧
      (∀ j, t < j → j ≤ q → text.bytes.getD j 0 = SPACE) ∧
      ∀ flag, tagStart text flag q = .ok (t, decide (text.bytes.getD t 0 = OPEN))) ∨
    (∀ j, 0 < j → j ≤ q → text.bytes.getD j 0 = SPACE) ∧
      ∀ flag, tagStart text flag q = .ok (0, flag) := by
  induction q with
  | zero =>
      exact .inr ⟨fun j pos le => absurd (Nat.le_zero.mp le) (Nat.ne_of_gt pos), fun _ => rfl⟩
  | succ q ih =>
      have step (flag : Bool) : tagStart text flag (q + 1) =
          if text.bytes.getD (q + 1) 0 = OPEN then .ok (q + 1, true)
          else if text.bytes.getD (q + 1) 0 ≠ SPACE then .ok (q + 1, false)
          else tagStart text flag q := by
        rw [tagStart, charAt_of_lt within]
        rfl
      by_cases space : text.bytes.getD (q + 1) 0 = SPACE
      · have other : text.bytes.getD (q + 1) 0 ≠ OPEN := by
          rw [space]
          decide
        have back (flag : Bool) : tagStart text flag (q + 1) = tagStart text flag q := by
          rw [step, if_neg other, if_neg (not_not.mpr space)]
        have last {j : Nat} (le : j ≤ q + 1) (behind : ¬j ≤ q) : text.bytes.getD j 0 = SPACE := by
          rwa [Nat.le_antisymm le (Nat.lt_of_not_le behind)]
        rcases ih (Nat.le_of_succ_le within) with ⟨t, pos, le, stop, spaces, ends⟩ | ⟨spaces, ends⟩
        · refine .inl ⟨t, pos, Nat.le_succ_of_le le, stop, ?_, fun flag =>
          (back flag).trans (ends flag)⟩
          intro j behind le
          by_cases inner : j ≤ q
          · exact spaces j behind inner
          · exact last le inner
        · refine .inr ⟨?_, fun flag => (back flag).trans (ends flag)⟩
          intro j pos le
          by_cases inner : j ≤ q
          · exact spaces j pos inner
          · exact last le inner
      · refine .inl ⟨q + 1, Nat.succ_pos q, Nat.le_refl _, space, ?_, ?_⟩
        · intro j behind le
          exact absurd le (Nat.not_le.mpr behind)
        · intro flag
          rw [step, if_pos space]
          split
          · rename_i opens
            rw [decide_eq_true opens]
          · rename_i other
            rw [decide_eq_false other]

/-- The way ahead ends at the first `<` or `>`. -/
theorem tagEnd_iff {rest : List UInt8} : tagEnd flag rest = true ↔
    (∃ inside behind, rest = inside ++ CLOSE :: behind ∧ OPEN ∉ inside) ∨
      flag = true ∧ OPEN ∉ rest ∧ CLOSE ∉ rest := by
  induction rest with
  | nil => simp [tagEnd]
  | cons c rest ih =>
      rw [tagEnd]
      by_cases close : c = CLOSE
      · rw [if_pos close, close]
        exact iff_of_true rfl (.inl ⟨[], rest, rfl, List.not_mem_nil⟩)
      by_cases opens : c = OPEN
      · rw [if_neg close, if_pos opens]
        refine iff_of_false nofun ?_
        rintro (⟨inside, behind, split, free⟩ | ⟨-, free, -⟩)
        · cases inside with
          | nil => exact close (List.cons.inj split).1
          | cons d inside =>
              rw [← (List.cons.inj split).1, opens] at free
              exact free List.mem_cons_self
        · rw [opens] at free
          exact free List.mem_cons_self
      · rw [if_neg close, if_neg opens, ih]
        constructor
        · rintro (⟨inside, behind, rfl, free⟩ | ⟨kept, free, open_end⟩)
          · exact .inl ⟨c :: inside, behind, rfl, by simp [free, Ne.symm opens]⟩
          · exact .inr ⟨kept, by simp [free, Ne.symm opens], by simp [open_end, Ne.symm close]⟩
        · rintro (⟨inside, behind, split, free⟩ | ⟨kept, free, open_end⟩)
          · cases inside with
            | nil => exact absurd (List.cons.inj split).1 close
            | cons d inside =>
                exact .inl ⟨inside, behind, (List.cons.inj split).2,
                  fun mem => free (List.mem_cons_of_mem _ mem)⟩
          · exact .inr ⟨kept, fun mem => free (List.mem_cons_of_mem _ mem),
              fun mem => open_end (List.mem_cons_of_mem _ mem)⟩

theorem tagEnd_kept : tagEnd true (text.bytes.drop (t + 1)) = true ↔ Kept text t := by
  rw [tagEnd_iff]
  simp only [true_and]
  rfl

/-- What is made of a place when the way back has ended with the flag set. -/
theorem tryTag_found (size : Nat) (name : Memory) (pos : 0 < p)
    (back : tagStart text flag (p - 1) = .ok (t, true)) :
    (Kept text t ∧ Named text size t ∧
      ∃ found, tryTag text size (flag, name) p = .inr (.ok found)) ∨
    (Kept text t ∧ ¬Named text size t ∧ tryTag text size (flag, name) p = .inl (true, name)) ∨
    ¬Kept text t ∧ tryTag text size (flag, name) p = .inl (false, name) := by
  have start : (if p = 0 then SIZE_MAX else p - 1) = p - 1 := if_neg (Nat.ne_of_gt pos)
  have named : Named text size t ↔
      (GetAttribute (text.drop t) NAME.toCString name size).1 = 0 := by
    rw [Named, GetAttribute_fst _ name]
  simp only [tryTag, start, back, Bool.true_eq_false, if_false]
  cases ends : tagEnd true (text.bytes.drop (t + 1)) with
  | false =>
      refine .inr (.inr ⟨fun kept => ?_, rfl⟩)
      rw [tagEnd_kept.mpr kept] at ends
      cases ends
  | true =>
      have kept := tagEnd_kept.mp ends
      by_cases zero : (GetAttribute (text.drop t) NAME.toCString name size).1 = 0
      · refine .inl ⟨kept, named.mpr zero, ?_⟩
        simp only [Bool.true_eq_false, if_false, zero, ne_eq, not_true, Sum.inr.injEq,
          Except.ok.injEq, exists_eq']
      · refine .inr (.inl ⟨kept, fun has => zero (named.mp has), ?_⟩)
        simp only [Bool.true_eq_false, if_false, zero, ne_eq, not_false_iff, if_true,
          GetAttribute_kept zero]

theorem tryTag_lost (pos : 0 < p) (back : tagStart text flag (p - 1) = .ok (t, false)) :
    tryTag text size (flag, name) p = .inl (false, name) := by
  have start : (if p = 0 then SIZE_MAX else p - 1) = p - 1 := if_neg (Nat.ne_of_gt pos)
  simp only [tryTag, start, back, if_true]

theorem tagStart_outside (pos : 0 < p) (outside : ¬(⟨text.length + 1, p, 1⟩ : Access).Inside) :
    tagStart text flag p = .error ⟨_, outside⟩ := by
  cases p with
  | zero => exact absurd pos (Nat.lt_irrefl 0)
  | succ p =>
      rw [tagStart, charAt, Checked.access, dif_neg outside]
      rfl

/-- A place at the front sends the way back out of the text. -/
theorem tryTag_front (size : Nat) (flag : Bool) (name : Memory)
    (fits : text.length < SIZE_MAX) :
    ∃ fault, tryTag text size (flag, name) 0 = .inr (.error fault) := by
  have outside : ¬(⟨text.length + 1, SIZE_MAX, 1⟩ : Access).Inside := by
    simp only [Access.Inside]
    omega
  have back : tagStart text flag SIZE_MAX = .error ⟨_, outside⟩ :=
    tagStart_outside (by decide) outside
  refine ⟨⟨_, outside⟩, ?_⟩
  simp only [tryTag, if_true, back]

/-- The way back from the place does not come to the front. -/
def Settled (text : CString) (p : Nat) : Prop := ∃ j, 0 < j ∧ j < p ∧ text.bytes.getD j 0 ≠ SPACE

/-- The place is in a tag that is kept, and not at the front: the flag stays set. -/
def Marks (text : CString) (p : Nat) : Prop := ∃ t, 0 < t ∧ Opens text t p ∧ Kept text t

/-- The tag has a name, too. -/
def Takes (text : CString) (size p : Nat) : Prop :=
  ∃ t, 0 < t ∧ Opens text t p ∧ Kept text t ∧ Named text size t

/-- A place is behind one opening only. -/
theorem Opens.unique (opens : Opens text t p) (other : Opens text q p) : t = q := by
  have ne : OPEN ≠ SPACE := by decide
  rcases Nat.lt_trichotomy t q with lt | same | lt
  · exact absurd (other.2.1.symm.trans (opens.2.2 q lt other.1)) ne
  · exact same
  · exact absurd (opens.2.1.symm.trans (other.2.2 t lt opens.1)) ne

/-- **One place**: where the flag of the place before does not matter, the tag decides. -/
theorem tryTag_cases (size : Nat) (name : Memory) (pos : 0 < p) (within : p ≤ text.length)
    (ready : flag = false ∨ Settled text p) :
    (Takes text size p ∧ ∃ found, tryTag text size (flag, name) p = .inr (.ok found)) ∨
    (¬Takes text size p ∧ ∃ left, (left = true ↔ Marks text p) ∧
      tryTag text size (flag, name) p = .inl (left, name)) := by
  have ne : OPEN ≠ SPACE := by decide
  rcases tagStart_cases text (p - 1) (by omega) with
    ⟨t, front, le, stop, spaces, back⟩ | ⟨spaces, back⟩
  · have before : t < p := by omega
    by_cases opens : text.bytes.getD t 0 = OPEN
    · have tag : Opens text t p := ⟨before, opens, fun j behind lt => spaces j behind (by omega)⟩
      have here := back flag
      rw [decide_eq_true opens] at here
      rcases tryTag_found size name pos here with
        ⟨kept, named, found⟩ | ⟨kept, unnamed, next⟩ | ⟨broken, next⟩
      · exact .inl ⟨⟨t, front, tag, kept, named⟩, found⟩
      · refine .inr ⟨?_, true, iff_of_true rfl ⟨t, front, tag, kept⟩, next⟩
        rintro ⟨q, -, other, -, named⟩
        exact unnamed (tag.unique other ▸ named)
      · have unmarked : ¬Marks text p := by
          rintro ⟨q, -, other, kept⟩
          exact broken (tag.unique other ▸ kept)
        refine .inr ⟨?_, false, iff_of_false nofun unmarked, next⟩
        rintro ⟨q, inside, other, kept, -⟩
        exact unmarked ⟨q, inside, other, kept⟩
    · have untagged {q : Nat} (tag : Opens text q p) : False := by
        rcases Nat.lt_trichotomy q t with lt | rfl | lt
        · exact stop (tag.2.2 t lt before)
        · exact opens tag.2.1
        · exact ne (tag.2.1.symm.trans (spaces q lt (Nat.le_sub_one_of_lt tag.1)))
      have here := back flag
      rw [decide_eq_false opens] at here
      exact .inr ⟨fun ⟨_, _, tag, _⟩ => untagged tag, false,
        iff_of_false nofun fun ⟨_, _, tag, _⟩ => untagged tag, tryTag_lost pos here⟩
  · have untagged {q : Nat} (front : 0 < q) (tag : Opens text q p) : False :=
      ne (tag.2.1.symm.trans (spaces q front (Nat.le_sub_one_of_lt tag.1)))
    have unset : flag = false := by
      rcases ready with unset | ⟨j, front, before, other⟩
      · exact unset
      · exact absurd (spaces j front (Nat.le_sub_one_of_lt before)) other
    have here := back flag
    rw [unset] at here
    rw [unset]
    exact .inr ⟨fun ⟨_, front, tag, _⟩ => untagged front tag, false,
      iff_of_false nofun fun ⟨_, front, tag, _⟩ => untagged front tag, tryTag_lost pos here⟩

end Place

/-! ### All places -/

section Places

variable {text word : CString} {places : List Nat} {size : Nat} {flag : Bool} {name : Memory}

/-- **Several places**, in order: the first that is taken ends the walk, and else the flag
tells of the last one. -/
theorem walk_places (size : Nat) (flag : Bool) (name : Memory)
    (order : places.Pairwise (· < ·))
    (inside : ∀ p ∈ places, 0 < p ∧ p ≤ text.length ∧ text.bytes.getD p 0 ≠ SPACE)
    (ready : flag = false ∨ ∀ p ∈ places, Settled text p) :
    ((∃ p ∈ places, Takes text size p) ∧
      ∃ found, walk (tryTag text size) places (flag, name) = .inr (.ok found)) ∨
    ((∀ p ∈ places, ¬Takes text size p) ∧ ∃ left,
      (left = true ↔ places = [] ∧ flag = true ∨ ∃ p, places.getLast? = some p ∧ Marks text p) ∧
      walk (tryTag text size) places (flag, name) = .inl (left, name)) := by
  induction places generalizing flag with
  | nil =>
      refine .inr ⟨fun p mem => absurd mem List.not_mem_nil, flag, ?_, rfl⟩
      simp
  | cons p places ih =>
      obtain ⟨before, order⟩ := List.pairwise_cons.mp order
      obtain ⟨front, within, letter⟩ := inside p List.mem_cons_self
      have here : flag = false ∨ Settled text p :=
        ready.imp_right fun settled => settled p List.mem_cons_self
      have later : ∀ q ∈ places, Settled text q := fun q mem =>
        ⟨p, front, before q mem, letter⟩
      rcases tryTag_cases size name front within here with
        ⟨takes, found, ends⟩ | ⟨passes, left, marks, next⟩
      · refine .inl ⟨⟨p, List.mem_cons_self, takes⟩, found, ?_⟩
        simp only [walk, ends]
      · have rest := ih left order (fun q mem => inside q (List.mem_cons_of_mem _ mem))
          (.inr later)
        simp only [walk, next]
        rcases rest with ⟨⟨q, mem, takes⟩, ends⟩ | ⟨none, last, tells, ends⟩
        · exact .inl ⟨⟨q, List.mem_cons_of_mem _ mem, takes⟩, ends⟩
        · refine .inr ⟨?_, last, ?_, ends⟩
          · intro q mem
            rcases List.mem_cons.mp mem with rfl | mem
            · exact passes
            · exact none q mem
          · rw [tells, marks]
            cases places with
            | nil => simp
            | cons q places => simp [List.getLast?_cons_cons]

/-- The loop takes all places of the word. -/
theorem tryWord_eq (set : word.bytes ≠ []) (state : Bool × Memory) :
    tryWord text word size state =
      some (walk (tryTag text size) (occurrences word.bytes text.bytes 0) state) :=
  visit_eq set (Nat.zero_le _) (by rw [CString.length]; omega)

/-- A word that begins a tag does not begin with a space. -/
theorem letter_of_stands {c : UInt8} {more : List UInt8} {p : Nat} (bytes : word.bytes = c :: more)
    (plain : c ≠ SPACE) (here : Stands text word p) :
    p < text.length ∧ text.bytes.getD p 0 ≠ SPACE := by
  obtain ⟨behind, split⟩ := here
  rw [bytes, List.cons_append] at split
  have within : p < text.bytes.length := by
    by_contra outside
    rw [List.drop_of_length_le (Nat.not_lt.mp outside)] at split
    cases split
  rw [List.drop_eq_getElem_cons within] at split
  rw [List.getD_eq_getElem _ _ within, ← (List.cons.inj split).1]
  exact ⟨within, plain⟩

/-- The places of the word when the text does not begin with it. -/
theorem inside_of_stands {c : UInt8} {more : List UInt8} (bytes : word.bytes = c :: more)
    (plain : c ≠ SPACE) (front : ¬Stands text word 0) :
    ∀ p ∈ occurrences word.bytes text.bytes 0,
      0 < p ∧ p ≤ text.length ∧ text.bytes.getD p 0 ≠ SPACE := by
  intro p mem
  have here : Stands text word p := (mem_occurrences.mp mem).2.2
  obtain ⟨within, letter⟩ := letter_of_stands bytes plain here
  refine ⟨Nat.pos_of_ne_zero ?_, Nat.le_of_lt within, letter⟩
  rintro rfl
  exact front here

theorem mem_occurrences_of_stands (text : CString) (p : Nat) {c : UInt8} {more : List UInt8}
    (bytes : word.bytes = c :: more) (plain : c ≠ SPACE) :
    p ∈ occurrences word.bytes text.bytes 0 ↔ Stands text word p := by
  rw [mem_occurrences]
  constructor
  · rintro ⟨-, -, here⟩
    exact here
  · intro here
    exact ⟨Nat.zero_le p, Nat.le_of_lt (letter_of_stands bytes plain here).1, here⟩

/-- A tag of the word, away from the front, is taken. -/
def Enters (text word : CString) (size : Nat) : Prop :=
  ∃ t, 0 < t ∧ TagAt text word size t ∧ Kept text t

theorem enters_iff (text : CString) (size : Nat) {c : UInt8} {more : List UInt8}
    (bytes : word.bytes = c :: more)
    (plain : c ≠ SPACE) : (∃ p ∈ occurrences word.bytes text.bytes 0, Takes text size p) ↔
      Enters text word size := by
  simp only [mem_occurrences_of_stands text _ bytes plain, Takes, Enters, TagAt]
  constructor
  · rintro ⟨p, here, t, front, opens, kept, named⟩
    exact ⟨t, front, ⟨p, here, opens, named⟩, kept⟩
  · rintro ⟨t, front, ⟨p, here, opens, named⟩, kept⟩
    exact ⟨p, here, t, front, opens, kept, named⟩

/-- A text that begins with the word is left. -/
theorem tryWord_front (size : Nat) (flag : Bool) (name : Memory)
    (fits : text.length < SIZE_MAX) (set : word.bytes ≠ [])
    (front : Stands text word 0) :
    ∃ fault, tryWord text word size (flag, name) = some (.inr (.error fault)) := by
  have here : word.bytes <+: text.bytes.drop 0 := front
  obtain ⟨fault, ends⟩ := tryTag_front size flag name fits
  refine ⟨fault, ?_⟩
  rw [tryWord_eq set, occurrences_eq (Nat.zero_le _), if_pos here]
  simp only [walk, ends]

/-- The places of the first word, and of the second when the flag is not set. -/
theorem tryWord_unset (size : Nat) (name : Memory) {c : UInt8} {more : List UInt8}
    (bytes : word.bytes = c :: more)
    (plain : c ≠ SPACE) (front : ¬Stands text word 0) :
    (Enters text word size ∧
      ∃ found, tryWord text word size (false, name) = some (.inr (.ok found))) ∨
    (¬Enters text word size ∧ ∃ left,
      (left = true ↔ ∃ p, (occurrences word.bytes text.bytes 0).getLast? = some p ∧
        Marks text p) ∧
      tryWord text word size (false, name) = some (.inl (left, name))) := by
  have set : word.bytes ≠ [] := by
    rw [bytes]
    exact List.cons_ne_nil c more
  rw [tryWord_eq set]
  rcases walk_places size false name pairwise_occurrences
    (inside_of_stands bytes plain front) (.inl rfl) with ⟨takes, found, ends⟩ |
      ⟨none, left, tells, ends⟩
  · exact .inl ⟨(enters_iff text size bytes plain).mp takes, found, by rw [ends]⟩
  · refine .inr ⟨?_, left, ?_, by rw [ends]⟩
    · intro enters
      obtain ⟨p, mem, takes⟩ := (enters_iff text size bytes plain).mpr enters
      exact none p mem takes
    · simpa using tells

/-- What stands at the front is taken for the tag of a word with only spaces before it. -/
def Fallback (text word : CString) (size : Nat) : Prop :=
  Kept text 0 ∧ Named text size 0 ∧ ∃ p, Stands text word p ∧ ¬Settled text p

theorem Takes.settled {p : Nat} (takes : Takes text size p) : Settled text p := by
  obtain ⟨t, front, opens, -⟩ := takes
  have ne : OPEN ≠ SPACE := by decide
  exact ⟨t, front, opens.1, by rw [opens.2.1]; exact ne⟩

/-- The way back that meets only spaces ends at the front, and keeps the flag. -/
theorem tagStart_unsettled {p : Nat} (flag : Bool) (within : p ≤ text.length)
    (unsettled : ¬Settled text p) :
    tagStart text flag (p - 1) = .ok (0, flag) := by
  rcases tagStart_cases text (p - 1) (by omega) with ⟨t, front, le, stop, _⟩ | ⟨-, back⟩
  · exact absurd ⟨t, front, by omega, stop⟩ unsettled
  · exact back flag

/-- The places of the word when the flag is set. -/
theorem tryWord_set (size : Nat) (name : Memory) {c : UInt8} {more : List UInt8}
    (bytes : word.bytes = c :: more)
    (plain : c ≠ SPACE) (front : ¬Stands text word 0) :
    ((Enters text word size ∨ Fallback text word size) ∧
      ∃ found, tryWord text word size (true, name) = some (.inr (.ok found))) ∨
    (¬(Enters text word size ∨ Fallback text word size) ∧
      ∃ left, tryWord text word size (true, name) = some (.inl (left, name))) := by
  have set : word.bytes ≠ [] := by
    rw [bytes]
    exact List.cons_ne_nil c more
  have inside := inside_of_stands bytes plain front
  have order : (occurrences word.bytes text.bytes 0).Pairwise (· < ·) := pairwise_occurrences
  have enters := enters_iff text size bytes plain
  have places {p : Nat} := mem_occurrences_of_stands text p bytes plain
  rw [tryWord_eq set]
  generalize occurrences word.bytes text.bytes 0 = row at *
  cases row with
  | nil =>
      refine .inr ⟨?_, true, rfl⟩
      rintro (enters_here | ⟨-, -, p, here, -⟩)
      · obtain ⟨p, mem, -⟩ := enters.mpr enters_here
        exact List.not_mem_nil mem
      · exact List.not_mem_nil (places.mpr here)
  | cons p row =>
      obtain ⟨pos, within, letter⟩ := inside p List.mem_cons_self
      obtain ⟨before, order⟩ := List.pairwise_cons.mp order
      have later : ∀ q ∈ row, Settled text q := fun q mem => ⟨p, pos, before q mem, letter⟩
      have rest (flag : Bool) := walk_places size flag name order
        (fun q mem => inside q (List.mem_cons_of_mem p mem)) (.inr later)
      by_cases settled : Settled text p
      · have all : ∀ q ∈ p :: row, Settled text q := by
          intro q mem
          rcases List.mem_cons.mp mem with rfl | mem
          · exact settled
          · exact later q mem
        rcases walk_places size true name
          (List.pairwise_cons.mpr ⟨before, order⟩) inside (.inr all) with
          ⟨takes, found, ends⟩ | ⟨none, left, -, ends⟩
        · exact .inl ⟨.inl (enters.mp takes), found, by rw [ends]⟩
        · refine .inr ⟨?_, left, by rw [ends]⟩
          rintro (enters_here | ⟨-, -, q, here, unsettled⟩)
          · obtain ⟨q, mem, takes⟩ := enters.mpr enters_here
            exact none q mem takes
          · exact unsettled (all q (places.mpr here))
      · have untaken : ¬Takes text size p := fun takes => settled takes.settled
        have back := tagStart_unsettled true within settled
        have missed (none : ∀ q ∈ row, ¬Takes text size q) : ¬Enters text word size := by
          intro enters_here
          obtain ⟨q, mem, takes⟩ := enters.mpr enters_here
          rcases List.mem_cons.mp mem with rfl | mem
          · exact untaken takes
          · exact none q mem takes
        have taken : (∃ q ∈ row, Takes text size q) → Enters text word size := by
          rintro ⟨q, mem, takes⟩
          exact enters.mp ⟨q, List.mem_cons_of_mem p mem, takes⟩
        have goes_on {left : Bool}
            (next : tryTag text size (true, name) p = .inl (left, name))
            (other : ¬(Kept text 0 ∧ Named text size 0)) :
            ((Enters text word size ∨ Fallback text word size) ∧ ∃ found,
              some (walk (tryTag text size) (p :: row) (true, name)) =
                some (.inr (.ok found))) ∨
            (¬(Enters text word size ∨ Fallback text word size) ∧ ∃ left,
              some (walk (tryTag text size) (p :: row) (true, name)) =
                some (.inl (left, name))) := by
          simp only [walk, next]
          rcases rest left with ⟨takes, found, ends⟩ | ⟨none, left, -, ends⟩
          · exact .inl ⟨.inl (taken takes), found, by rw [ends]⟩
          · refine .inr ⟨?_, left, by rw [ends]⟩
            rintro (enters_here | ⟨kept, named, -⟩)
            · exact missed none enters_here
            · exact other ⟨kept, named⟩
        rcases tryTag_found size name pos back with
          ⟨kept, named, found, ends⟩ | ⟨_, unnamed, next⟩ | ⟨broken, next⟩
        · refine .inl ⟨.inr ⟨kept, named, p, places.mp List.mem_cons_self, settled⟩, found, ?_⟩
          simp only [walk, ends]
        · exact goes_on next fun both => unnamed both.2
        · exact goes_on next fun both => broken both.1

end Places

/-! ### The text -/

section Text

variable {text : CString} {size : Nat}

/-- A tag of the word that is closed and does not begin at the front. -/
def Inner (text word : CString) (size : Nat) : Prop :=
  ∃ t, 0 < t ∧ TagAt text word size t ∧ Closed text t

/-- A tag of the word at the front, which is not looked for. -/
def Front (text word : CString) (size : Nat) : Prop := TagAt text word size 0 ∧ Closed text 0

/-- A tag of the word that is never closed, which is taken nevertheless. -/
def Last (text word : CString) (size : Nat) : Prop :=
  ∃ t, 0 < t ∧ TagAt text word size t ∧ Unclosed text t

/-- The flag of the last place of `Device` decides over the first one of `Application`. -/
def Stale (text : CString) (size : Nat) : Prop :=
  (∃ p, (occurrences STR_DEVICE.bytes text.bytes 0).getLast? = some p ∧ Marks text p) ∧
    Fallback text STR_APPLICATION size

theorem enters_iff_inner {word : CString} :
    Enters text word size ↔ Inner text word size ∨ Last text word size := by
  simp only [Enters, Inner, Last, Kept, and_or_left, exists_or]

theorem tagged_iff_inner {word : CString} :
    Tagged text word size ↔ Front text word size ∨ Inner text word size := by
  constructor
  · rintro ⟨t, tag, closed⟩
    rcases Nat.eq_zero_or_pos t with rfl | pos
    · exact .inl ⟨tag, closed⟩
    · exact .inr ⟨t, pos, tag, closed⟩
  · rintro (⟨tag, closed⟩ | ⟨t, -, tag, closed⟩)
    · exact ⟨0, tag, closed⟩
    · exact ⟨t, tag, closed⟩

theorem bytes_device : STR_DEVICE.bytes = 68 :: [101, 118, 105, 99, 101] := by decide

theorem bytes_application :
    STR_APPLICATION.bytes = 65 :: [112, 112, 108, 105, 99, 97, 116, 105, 111, 110] := by decide

/-- What is returned, by the tags of the text. -/
theorem ParseDeviceName_cases (size : Nat) (fits : text.length < SIZE_MAX) (name : Memory) :
    (Stands text STR_DEVICE 0 ∧ ∃ fault, ParseDeviceName text name size = some (.error fault)) ∨
    (¬Stands text STR_DEVICE 0 ∧ Enters text STR_DEVICE size ∧
      ∃ found, ParseDeviceName text name size = some (.ok (DEVICE, found))) ∨
    (¬Stands text STR_DEVICE 0 ∧ ¬Enters text STR_DEVICE size ∧
      ((Stands text STR_APPLICATION 0 ∧
        ∃ fault, ParseDeviceName text name size = some (.error fault)) ∨
      (¬Stands text STR_APPLICATION 0 ∧
        (Enters text STR_APPLICATION size ∨ Stale text size) ∧
        ∃ found, ParseDeviceName text name size = some (.ok (APPLICATION, found))) ∨
      (¬Stands text STR_APPLICATION 0 ∧
        ¬(Enters text STR_APPLICATION size ∨ Stale text size) ∧
        ParseDeviceName text name size = some (.ok (-1, name))))) := by
  by_cases front : Stands text STR_DEVICE 0
  · obtain ⟨fault, ends⟩ := tryWord_front size false name fits
      (by rw [bytes_device]; exact List.cons_ne_nil _ _) front
    refine .inl ⟨front, fault, ?_⟩
    rw [ParseDeviceName, ends]
    rfl
  rcases tryWord_unset size name bytes_device (by decide) front with
    ⟨enters, found, ends⟩ | ⟨none, left, tells, goes_on⟩
  · refine .inr (.inl ⟨front, enters, found, ?_⟩)
    rw [ParseDeviceName, ends]
    rfl
  refine .inr (.inr ⟨front, none, ?_⟩)
  have second : ParseDeviceName text name size =
      (tryWord text STR_APPLICATION size (left, name)).bind fun ended =>
        match ended with
        | .inr name => some ((APPLICATION, ·) <$> name)
        | .inl state => some (.ok (-1, state.2)) := by
    rw [ParseDeviceName, goes_on]
    rfl
  by_cases first : Stands text STR_APPLICATION 0
  · obtain ⟨fault, ends⟩ := tryWord_front size left name fits
      (by rw [bytes_application]; exact List.cons_ne_nil _ _) first
    refine .inl ⟨first, fault, ?_⟩
    rw [second, ends]
    rfl
  refine .inr ?_
  cases left with
  | false =>
      have fresh : ¬Stale text size := fun stale => nomatch tells.mpr stale.1
      rcases tryWord_unset size name bytes_application (by decide) first with
        ⟨enters, found, ends⟩ | ⟨missing, last, -, ends⟩
      · refine .inl ⟨first, .inl enters, found, ?_⟩
        rw [second, ends]
        rfl
      · refine .inr ⟨first, fun either => either.elim missing fresh, ?_⟩
        rw [second, ends]
        rfl
  | true =>
      have marked := tells.mp rfl
      rcases tryWord_set size name bytes_application (by decide) first with
        ⟨either, found, ends⟩ | ⟨neither, last, ends⟩
      · refine .inl ⟨first, either.imp_right fun fallback => ⟨marked, fallback⟩, found, ?_⟩
        rw [second, ends]
        rfl
      · refine .inr ⟨first, fun either => neither (either.imp_right And.right), ?_⟩
        rw [second, ends]
        rfl

/-- Whether the kind is decided, for one array at the pointer. -/
theorem each_name (size : Nat) (fits : text.length < SIZE_MAX) (name : Memory) :
    (∃ result, ParseDeviceName text name size = some (.ok result) ∧
      (result.1 = DEVICE ↔ Tagged text STR_DEVICE size) ∧
      (result.1 = APPLICATION ↔
        ¬Tagged text STR_DEVICE size ∧ Tagged text STR_APPLICATION size)) ↔
    ¬Stands text STR_DEVICE 0 ∧
    (Inner text STR_DEVICE size ∨ (Front text STR_DEVICE size ↔ Last text STR_DEVICE size)) ∧
    (¬Inner text STR_DEVICE size → ¬Last text STR_DEVICE size →
      ¬Stands text STR_APPLICATION 0 ∧
      (Inner text STR_APPLICATION size ∨ (Front text STR_APPLICATION size ↔
        Last text STR_APPLICATION size ∨ Stale text size))) := by
  have returned {code : Int} {found : Memory} {P Q : Prop}
      (ends : ParseDeviceName text name size = some (.ok (code, found))) :
      (∃ result, ParseDeviceName text name size = some (.ok result) ∧
        (result.1 = DEVICE ↔ P) ∧ (result.1 = APPLICATION ↔ Q)) ↔
        (code = DEVICE ↔ P) ∧ (code = APPLICATION ↔ Q) := by
    simp only [ends, Option.some.injEq, Except.ok.injEq, exists_eq_left']
  have faulted {fault : Fault} {right : Int × Memory → Prop}
      (ends : ParseDeviceName text name size = some (.error fault)) :
      ¬∃ result, ParseDeviceName text name size = some (.ok result) ∧ right result := by
    rintro ⟨result, other, -⟩
    rw [ends] at other
    cases other
  have device : DEVICE ≠ APPLICATION := by decide
  have missing : (-1 : Int) ≠ DEVICE ∧ (-1 : Int) ≠ APPLICATION := by decide
  have cases := ParseDeviceName_cases size fits name
  simp only [tagged_iff_inner]
  simp only [enters_iff_inner] at cases
  generalize Inner text STR_DEVICE size = inner at *
  generalize Front text STR_DEVICE size = front at *
  generalize Last text STR_DEVICE size = last at *
  generalize Inner text STR_APPLICATION size = inner' at *
  generalize Front text STR_APPLICATION size = front' at *
  generalize Last text STR_APPLICATION size = last' at *
  generalize Stale text size = stale at *
  generalize Stands text STR_DEVICE 0 = begun at *
  generalize Stands text STR_APPLICATION 0 = begun' at *
  rcases cases with ⟨begins, fault, ends⟩ | ⟨apart, enters, found, ends⟩ |
    ⟨apart, none, ⟨begins, fault, ends⟩ |
    ⟨apart', enters, found, ends⟩ | ⟨apart', neither, ends⟩⟩
  · exact iff_of_false (faulted ends) fun regular => regular.1 begins
  · rw [returned ends]
    simp only [device, true_iff, false_iff]
    clear returned faulted ends device missing
    tauto
  · exact iff_of_false (faulted ends) fun regular =>
      (regular.2.2 (fun here => none (.inl here)) fun here => none (.inr here)).1 begins
  · rw [returned ends]
    simp only [device.symm, true_iff, false_iff]
    clear returned faulted ends device missing
    tauto
  · rw [returned ends]
    simp only [missing.1, missing.2, false_iff]
    clear returned faulted ends device missing
    tauto

/-- **When the kind of a text is decided.** The text does not begin with the word that is looked
for, and for the word that decides there is a closed tag behind the front, or else the tag at
the front, which is missed, is there exactly when a tag is taken that is not closed or not
its own. -/
theorem decided_iff (fits : text.length < SIZE_MAX) : Decided text size ↔
    ¬Stands text STR_DEVICE 0 ∧
    (Inner text STR_DEVICE size ∨ (Front text STR_DEVICE size ↔ Last text STR_DEVICE size)) ∧
    (¬Inner text STR_DEVICE size → ¬Last text STR_DEVICE size →
      ¬Stands text STR_APPLICATION 0 ∧
      (Inner text STR_APPLICATION size ∨ (Front text STR_APPLICATION size ↔
        Last text STR_APPLICATION size ∨ Stale text size))) := by
  have each (name : Memory) := each_name size fits name
  constructor
  · intro decided
    exact (each fun _ => 0).mp (decided fun _ => 0)
  · intro regular name
    exact (each name).mpr regular

/-- A document whose first tag names a device. -/
def documentText : CString := .ofString "<x><Device name=\"ab\">"

/-- Its device is found. -/
theorem decided_document : Decided documentText 32 := by
  refine (decided_iff (by decide)).mpr ⟨by unfold Stands; decide, ?_⟩
  have inner : Inner documentText STR_DEVICE 32 := by
    refine ⟨3, by decide, ⟨4, by unfold Stands; decide, ⟨by decide, by decide, ?_⟩, ?_⟩, ?_⟩
    · intro j behind before
      omega
    · unfold Named
      decide
    · exact ⟨(CString.ofString "Device name=\"ab\"").bytes, [], by decide, by decide⟩
  exact ⟨.inl inner, fun none => absurd inner none⟩

/-- A tag at the front of the text is missed. -/
theorem not_decided : ¬ ∀ (text : CString) (size : Nat), text.length < SIZE_MAX →
    Decided text size := by
  intro all
  have missed : (ParseDeviceName deviceElement (fun _ => 0) 32).map
      (fun ended => ended.toOption.map Prod.fst) = some (some (-1)) := by decide
  obtain ⟨result, returns, device, -⟩ := all deviceElement 32 (by decide) fun _ => 0
  have tagged : Tagged deviceElement STR_DEVICE 32 := by
    refine ⟨0, ⟨1, by unfold Stands; decide, ⟨by decide, by decide, ?_⟩, ?_⟩, ?_⟩
    · intro j behind before
      omega
    · unfold Named
      decide
    · exact ⟨(CString.ofString "Device name=\"ab\"").bytes, [], by decide, by decide⟩
  rw [returns] at missed
  have code : result.1 = -1 := Option.some.inj (Option.some.inj missed)
  rw [device.mpr tagged] at code
  exact absurd code (by decide)

end Text

end Sdm.Parse
