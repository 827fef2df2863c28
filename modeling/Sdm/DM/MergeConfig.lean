import Sdm.Lib.Checked

/-!
`MergeConfigxTED`: the configuration of a device is merged into its xTEDS.

The Device tag may close with `/>`, have a part of the configuration already, stand before its own
closing tag, or have elements inside. The configuration closes in one of these ways too. What stands
behind the tag is saved, the configuration is copied over it, and what was saved is copied back. The
copies have tests for their room, which say nothing about the place that they are copied to, and
what follows a test that fails goes on as if the copy were there.

* `scan_eq_ok`: a loop that looks for something in a text.
* `plan_eq_simple`, `plan_eq_nested`: what the loops have found when something is merged.
* `mergeSimple_saves`, `mergeNested_saves`: the texts that are left where the copies fit.
* `mergeSimple_stays`, `mergeNested_stays`: without what a merge does not return.
* `merges_of_fits`: when nothing of the xTEDS is lost.
-/

namespace Sdm

open Lib Checked

namespace MergeConfig

/-- `strncmp(rest, s, strlen(s)) == 0`. -/
def starts (s : String) (rest : List UInt8) : Bool := (CString.ofString s).bytes.isPrefixOf rest

/-- The first place from here on where the rest of the text is as it should be. -/
def find (p : List UInt8 → Bool) : List UInt8 → Option Nat
  | [] => if p [] then some 0 else none
  | b :: rest => if p (b :: rest) then some 0 else (find p rest).map (· + 1)

/-- `while (!p(&text[k])) k++;`: no byte behind the terminator may be read. -/
def scan (p : List UInt8 → Bool) (text : List UInt8) (k : Nat) : Checked Nat :=
  if k ≤ text.length then
    match find p (text.drop k) with
    | some d => return k + d
    | none => do
        access ⟨text.length + 1, text.length + 1, 1⟩
        return k
  else do
    access ⟨text.length + 1, k, 1⟩
    return k

/-- Where the loop over the xTEDS comes to an end of the Device tag, or to its `spaUHub`. -/
def findEnd : List UInt8 → Bool → Option Nat
  | [], _ => none
  | b :: rest, flag =>
      let flag := starts "Device" (b :: rest) || flag
      if (starts "/>" (b :: rest) || starts ">" (b :: rest) || starts "spaUHub" (b :: rest)) && flag
        then some 0
      else (findEnd rest flag).map (· + 1)

/-- What is to be merged, before something is written. `back` is the negative of `offset`. -/
inductive Plan where
  | none
  | simple (i length back : Nat)
  | nested (i j : Nat)

/-- The configuration where the Device tag has elements inside. -/
def planConfig (config : List UInt8) (i length : Nat) : Checked Plan := do
  let j ← scan (fun rest => starts "/>" rest || starts ">" rest) config 0
  if starts "/>" (config.drop j) then
    let e ← scan List.isEmpty config (j + 2)
    return .simple i 0 (e - j)
  else
    let next ← scan (starts "<") config j
    if starts "/" (config.drop (next + 1)) then
      let e ← scan (starts ">") config next
      return .simple i length (e - j + 1)
    else return .nested i j

/-- The loops that look for the ends of the two tags. -/
def plan (xTED config : List UInt8) : Checked Plan :=
  match findEnd xTED false with
  | none => return .none
  | some i =>
      if starts "/>" (xTED.drop i) then return .simple i 2 0
      else if starts "spaUHub" (xTED.drop i) then do
        let e ← scan (starts ">") xTED (i + 9)
        return .simple i (e - i + 1) 0
      else do
        let next ← scan (starts "<") xTED i
        if starts "/" (xTED.drop (next + 1)) then
          let e ← scan (starts ">") xTED next
          return .simple i (e - i + 1) 0
        else planConfig config i (next - i)

/-- A copy that is made where its test finds room, and the length that is counted with it. -/
def copyIf (fits : Bool) (xTED : Buffer) (dst : Nat) (bytes : List UInt8) (CurLength counted : Nat) :
    Checked (Buffer × Nat) :=
  if fits then do
    access ⟨xTED.size, dst, bytes.length⟩
    return ({ xTED with bytes := xTED.bytes.store dst bytes }, CurLength + counted)
  else return (xTED, CurLength)

/-- What was saved is copied back. `strncpy` fills the rest of its length with zeros. -/
def copyBack (xTED : Buffer) (dst : Nat) (temp : CString) (CurLength : Nat) : Checked Buffer := do
  access ⟨xTED.size, dst, xTED.size - CurLength⟩
  return { xTED with bytes := xTED.bytes.store dst (temp.strncpy (xTED.size - CurLength)) }

/-- `xTED[i] = ' '`. -/
def setBlank (xTED : Buffer) (i : Nat) : Checked Buffer := do
  access ⟨xTED.size, i, 1⟩
  return { xTED with bytes := xTED.bytes.store i [32] }

/-- The simple merge. -/
def mergeSimple (xTED : Buffer) (text config : CString) (i length back : Nat) : Checked Buffer := do
  let temp := text.drop (i + length)
  let CurLength := temp.length
  let TempLength := config.length
  let xTED ← setBlank xTED i
  let (xTED, CurLength) ← copyIf (CurLength + TempLength < xTED.size) xTED (i + 1)
    (config.bytes ++ [0]) CurLength TempLength
  copyBack xTED (i + config.length + 1 - back) temp CurLength

/-- The merge of two tags with elements inside. -/
def mergeNested (xTED : Buffer) (text config : CString) (i j : Nat) : Checked Buffer := do
  let temp := text.drop (i + 1)
  let CurLength := temp.length
  let xTED ← setBlank xTED i
  let (xTED, CurLength) ← copyIf (CurLength + j + 1 < xTED.size) xTED (i + 1)
    (config.bytes.take (j + 1)) CurLength (j + 2)
  let i := i + j + 2
  let d ← scan (starts "</Device>") temp.bytes 0
  let (xTED, CurLength) ← copyIf (CurLength + d < xTED.size) xTED i (temp.bytes.take d) CurLength d
  let i := i + d
  let j ← scan (starts "<") config.bytes j
  let TempLength := config.length - j
  let (xTED, CurLength) ← copyIf (CurLength + TempLength < xTED.size) xTED i
    (config.bytes.drop j ++ [0]) CurLength TempLength
  let here := CString.ofBytes (xTED.bytes.read i (xTED.size - i))
  let e ← scan (starts "</Device>") here.bytes 0
  copyBack xTED (i + e + 9) (temp.drop (d + 9)) CurLength

def MergeConfigxTED (xTED : Buffer) (config : CString) : Checked (Buffer × Int) := do
  let n ← xTED.strlen 0
  let text := xTED.textOf 0 n
  match ← plan text.bytes config.bytes with
  | .none => return (xTED, -1)
  | .simple i length back => return (← mergeSimple xTED text config i length back, 0)
  | .nested i j => return (← mergeNested xTED text config i j, 0)

/-! ### What it is for -/

/-- Where the Device tag ends, with its own closing tag when nothing stands between. -/
def tagEnd (text : List UInt8) : Option Nat :=
  (findEnd text false).bind fun i =>
    if starts "/>" (text.drop i) then some (i + 2)
    else if starts "spaUHub" (text.drop i) then
      (find (starts ">") (text.drop (i + 9))).map fun d => i + 9 + d + 1
    else
      (find (starts "<") (text.drop i)).bind fun d =>
        if starts "/" (text.drop (i + d + 1)) then
          (find (starts ">") (text.drop (i + d))).map fun e => i + d + e + 1
        else some (i + 1)

/-- An element, or a tag. The closing tag of the Device is none, and is in none. -/
structure IsElement (e : List UInt8) : Prop where
  opens : e.head? = some 60
  closes : e.getLast? = some 62
  noDevice : ¬ (CString.ofString "</Device>").bytes <:+: e

/-- What stands behind the Device tag is still there. -/
def Keeps (text text' : CString) : Prop :=
  ∀ k, tagEnd text.bytes = some k → ∀ e, IsElement e → e <:+: text.bytes.drop k →
    e <:+: text'.bytes

/-- The merge stays in the buffer, reads both texts up to their terminators, and leaves a text. When
it succeeds, nothing of the xTEDS is lost. -/
def Merges (xTED : Buffer) (text config : CString) : Prop :=
  ∃ xTED' success, MergeConfigxTED xTED config = .ok (xTED', success) ∧
    xTED'.size = xTED.size ∧ ∃ text' : CString, xTED'.TextAt 0 text'.length ∧
      xTED'.textOf 0 text'.length = text' ∧ (success = 0 → Keeps text text')

/-- The tests for room succeed, and the copies fit the places that they are made to. -/
def Plan.Fits (size : Nat) (text config : CString) : Plan → Prop
  | none => True
  | simple i length back =>
      let tail := text.length - (i + length)
      tail + config.length < size ∧ i + 1 + config.length < size ∧ i + 1 ≤ tail + back ∧
        tail + (tail + config.length) < size
  | nested i j =>
      let tail := text.length - (i + 1)
      ∃ d next e, find (starts "</Device>") (text.bytes.drop (i + 1)) = some d ∧
        find (starts "<") (config.bytes.drop j) = some next ∧
        find (starts "</Device>") (config.bytes.drop (j + next)) = some e ∧
        let rest := config.length - (j + next)
        let CurLength := tail + (j + 2) + d + rest
        CurLength < size ∧ i + j + 2 + d + rest < size ∧ i + j + 2 + d + e + 9 ≤ CurLength ∧
          tail - (d + 9) + CurLength < size

/-- Each loop finds what it looks for, and there is room. -/
def Fits (size : Nat) (text config : CString) : Prop :=
  ∃ p, plan text.bytes config.bytes = .ok p ∧ p.Fits size text config

/-- The copies of a simple merge stay in the buffer, whether its test for room succeeds or not. The
Device with elements inside has its closing tag. -/
def Plan.Stays (size : Nat) (text config : CString) : Plan → Prop
  | none => True
  | simple i length back =>
      let tail := text.length - (i + length)
      let CurLength := if tail + config.length < size then tail + config.length else tail
      (tail + config.length < size → i + 1 + config.length < size) ∧
        i + 1 + config.length ≤ CurLength + back
  | nested i _ => ∃ d, find (starts "</Device>") (text.bytes.drop (i + 1)) = some d

/-! ### Loops that look for something -/

section Scans

variable {p : List UInt8 → Bool} {s : String} {text config l : List UInt8} {k k' d i j : Nat}

theorem find_eq_some : find p l = some d →
    d ≤ l.length ∧ p (l.drop d) = true ∧ ∀ x < d, p (l.drop x) = false := by
  induction l generalizing d with
  | nil =>
      intro found
      rw [find] at found
      split at found
      · rename_i here
        cases found
        exact ⟨Nat.le_refl _, here, nofun⟩
      · cases found
  | cons b rest ih =>
      intro found
      rw [find] at found
      split at found
      · rename_i here
        cases found
        exact ⟨Nat.zero_le _, here, nofun⟩
      · rename_i not
        obtain ⟨d, later, rfl⟩ := Option.map_eq_some_iff.mp found
        obtain ⟨le, here, before⟩ := ih later
        refine ⟨Nat.succ_le_succ le, here, fun x lt => ?_⟩
        cases x with
        | zero => exact Bool.eq_false_iff.mpr not
        | succ x => exact before x (Nat.lt_of_succ_lt_succ lt)

/-- **A loop** comes to its end where it finds what it looks for. -/
theorem scan_eq_ok : scan p text k = .ok k' ↔
    k ≤ text.length ∧ ∃ d, find p (text.drop k) = some d ∧ k' = k + d := by
  rw [scan]
  split
  · rename_i le
    rw [and_iff_right le]
    cases find p (text.drop k) with
    | none =>
        refine iff_of_false ?_ nofun
        intro done
        obtain ⟨u, inside, -⟩ := bind_eq_ok.mp done
        have inside := access_eq_ok.mp inside
        rw [Access.Inside] at inside
        dsimp only at inside
        omega
    | some d =>
        constructor
        · intro done
          cases done
          exact ⟨d, rfl, rfl⟩
        · rintro ⟨d', same, rfl⟩
          cases same
          rfl
  · rename_i not
    refine iff_of_false ?_ fun both => not both.1
    intro done
    obtain ⟨u, inside, -⟩ := bind_eq_ok.mp done
    have inside := access_eq_ok.mp inside
    rw [Access.Inside] at inside
    dsimp only at inside
    omega

theorem starts_iff : starts s l = true ↔ (CString.ofString s).bytes <+: l :=
  List.isPrefixOf_iff_prefix

/-- What is found stands in the text. -/
theorem length_le_of_starts (here : starts s (l.drop k) = true)
    (some : 0 < (CString.ofString s).length) : k + (CString.ofString s).length ≤ l.length := by
  have le : (CString.ofString s).length ≤ (l.drop k).length := (starts_iff.mp here).length_le
  rw [List.length_drop] at le
  omega

theorem length_le_of_find (found : find (starts s) (l.drop k) = some d)
    (some : 0 < (CString.ofString s).length) :
    k + d + (CString.ofString s).length ≤ l.length := by
  have here := (find_eq_some found).2.1
  rw [List.drop_drop] at here
  exact length_le_of_starts here some

/-- The loop over the xTEDS stops at one of three things. -/
theorem findEnd_eq_some {flag : Bool} (found : findEnd l flag = some i) :
    i < l.length ∧ (starts "/>" (l.drop i) = true ∨ starts ">" (l.drop i) = true ∨
      starts "spaUHub" (l.drop i) = true) := by
  induction l generalizing flag i with
  | nil => cases found
  | cons b rest ih =>
      rw [findEnd] at found
      split at found
      · rename_i here
        cases found
        refine ⟨Nat.succ_pos _, ?_⟩
        obtain ⟨ends, -⟩ := Bool.and_eq_true_iff.mp here
        rw [Bool.or_eq_true_iff, Bool.or_eq_true_iff, or_assoc] at ends
        exact ends
      · obtain ⟨i, later, rfl⟩ := Option.map_eq_some_iff.mp found
        obtain ⟨lt, ends⟩ := ih later
        exact ⟨Nat.succ_lt_succ lt, ends⟩

end Scans

/-! ### What is to be merged -/

section Plans

variable {text config e : List UInt8} {i j length back next k d : Nat}

/-- What the plan of a simple merge says: what is saved stands behind the place of the merge, and
has all elements behind the Device tag. -/
structure SimplePlan (text config : List UInt8) (i length back : Nat) : Prop where
  start : i < text.length
  within : i + length ≤ text.length
  back_le : back ≤ config.length
  saved : ∀ k, tagEnd text = some k → ∀ e, IsElement e → e <:+: text.drop k →
    e <:+: text.drop (i + length)

/-- An element does not begin in a text without an opening bracket. -/
theorem IsElement.infix_of_append {front rest : List UInt8} (isElement : IsElement e)
    (here : e <:+: front ++ rest) (none : 60 ∉ front) : e <:+: rest := by
  obtain ⟨before, after, whole⟩ := here
  rw [List.append_assoc] at whole
  rcases List.append_eq_append_iff.mp whole with ⟨part, isFront, isRest⟩ | ⟨part, -, isRest⟩
  · cases part with
    | nil => exact ⟨[], after, isRest⟩
    | cons b part =>
        have opens := isElement.opens
        have first := congrArg List.head? isRest
        rw [List.head?_append, opens, Option.some_or] at first
        cases first
        exact absurd (isFront ▸ List.mem_append_right _ List.mem_cons_self) none
  · exact ⟨part, after, by rw [List.append_assoc]; exact isRest.symm⟩

/-- Up to what the loop finds there is no opening bracket. -/
theorem notMem_take (found : find (starts "<") text = some d) : 60 ∉ text.take d := by
  intro mem
  obtain ⟨x, lt, here⟩ := List.getElem_of_mem mem
  rw [List.length_take] at lt
  rw [List.getElem_take] at here
  refine Bool.false_ne_true (((find_eq_some found).2.2 x (by omega)).symm.trans (starts_iff.mpr ?_))
  rw [List.drop_eq_getElem_cons (by omega), here]
  exact ⟨_, rfl⟩

/-- Behind the first byte, the elements stand where the loop has found an opening bracket. -/
theorem IsElement.infix_drop (isElement : IsElement e) (here : e <:+: text.drop (i + 1))
    (lt : i < text.length) (found : find (starts "<") (text.drop i) = some d) :
    e <:+: text.drop (i + d) := by
  have whole : e <:+: (text.drop i).take d ++ (text.drop i).drop d := by
    rw [List.take_append_drop, List.drop_eq_getElem_cons lt]
    exact here.trans (List.suffix_cons _ _).isInfix
  rw [List.drop_drop] at whole
  exact isElement.infix_of_append whole (notMem_take found)

theorem tagEnd_eq (isEnd : findEnd text false = some i) : tagEnd text =
    if starts "/>" (text.drop i) then some (i + 2)
    else if starts "spaUHub" (text.drop i) then
      (find (starts ">") (text.drop (i + 9))).map fun d => i + 9 + d + 1
    else
      (find (starts "<") (text.drop i)).bind fun d =>
        if starts "/" (text.drop (i + d + 1)) then
          (find (starts ">") (text.drop (i + d))).map fun e => i + d + e + 1
        else some (i + 1) := by
  rw [tagEnd, isEnd, Option.bind_some]

/-- **The plan,** where the loops find what they look for: the Device tag is replaced up to its end,
or it has elements inside. -/
theorem plan_cases {p : Plan} (done : plan text config = .ok p) :
    p = .none ∨ ∃ i, i < text.length ∧
      ((∃ length, p = .simple i length 0 ∧ i + length ≤ text.length ∧
          tagEnd text = some (i + length)) ∨
        ∃ d, find (starts "<") (text.drop i) = some d ∧ tagEnd text = some (i + 1) ∧
          planConfig config i d = .ok p) := by
  have one : (CString.ofString ">").length = 1 := by decide
  rw [plan] at done
  cases isEnd : findEnd text false with
  | none =>
      rw [isEnd] at done
      cases done
      exact .inl rfl
  | some i =>
      have isTagEnd := tagEnd_eq isEnd
      rw [isEnd] at done
      dsimp only at done
      refine .inr ⟨i, (findEnd_eq_some isEnd).1, ?_⟩
      split at done
      · rename_i slash
        rw [if_pos slash] at isTagEnd
        cases done
        exact .inl ⟨2, rfl, length_le_of_starts slash (by decide), isTagEnd⟩
      · rename_i noSlash
        rw [if_neg noSlash] at isTagEnd
        split at done
        · rename_i hub
          obtain ⟨e, ended, done⟩ := bind_eq_ok.mp done
          obtain ⟨-, d, found, rfl⟩ := scan_eq_ok.mp ended
          have le := length_le_of_find found (by decide)
          have isLength : i + (i + 9 + d - i + 1) = i + 9 + d + 1 := by omega
          rw [if_pos hub, found, Option.map_some, ← isLength] at isTagEnd
          cases done
          exact .inl ⟨_, rfl, by omega, isTagEnd⟩
        · rename_i noHub
          obtain ⟨next, started, done⟩ := bind_eq_ok.mp done
          obtain ⟨-, d, found, rfl⟩ := scan_eq_ok.mp started
          rw [if_neg noHub, found, Option.bind_some] at isTagEnd
          split at done
          · rename_i closing
            obtain ⟨e, ended, done⟩ := bind_eq_ok.mp done
            obtain ⟨-, d', found', rfl⟩ := scan_eq_ok.mp ended
            have le := length_le_of_find found' (by decide)
            have isLength : i + (i + d + d' - i + 1) = i + d + d' + 1 := by omega
            rw [if_pos closing, found', Option.map_some, ← isLength] at isTagEnd
            cases done
            exact .inl ⟨_, rfl, by omega, isTagEnd⟩
          · rename_i notClosing
            rw [if_neg notClosing] at isTagEnd
            rw [Nat.add_sub_cancel_left] at done
            exact .inr ⟨d, found, isTagEnd, done⟩

/-- What the configuration has to do with it. -/
theorem planConfig_cases {p : Plan} (done : planConfig config i d = .ok p) :
    (∃ back, back ≤ config.length ∧ (p = .simple i 0 back ∨ p = .simple i d back)) ∨
      ∃ j, j < config.length ∧ p = .nested i j := by
  have one : (CString.ofString ">").length = 1 := by decide
  obtain ⟨j, first, done⟩ := bind_eq_ok.mp done
  split at done
  · obtain ⟨e, ended, done⟩ := bind_eq_ok.mp done
    obtain ⟨le, d', found, rfl⟩ := scan_eq_ok.mp ended
    have le' := (find_eq_some found).1
    rw [List.length_drop] at le'
    cases done
    exact .inl ⟨_, by omega, .inl rfl⟩
  · obtain ⟨next, started, done⟩ := bind_eq_ok.mp done
    obtain ⟨-, d', found, rfl⟩ := scan_eq_ok.mp started
    have le := length_le_of_find found (by decide)
    have bracket : (CString.ofString "<").length = 1 := by decide
    split at done
    · obtain ⟨e, ended, done⟩ := bind_eq_ok.mp done
      obtain ⟨-, d'', found', rfl⟩ := scan_eq_ok.mp ended
      have le' := length_le_of_find found' (by decide)
      cases done
      exact .inl ⟨_, by omega, .inr rfl⟩
    · cases done
      exact .inr ⟨j, by omega, rfl⟩

theorem plan_eq_simple (done : plan text config = .ok (.simple i length back)) :
    SimplePlan text config i length back := by
  rcases plan_cases done with
    isNone | ⟨start, lt, ⟨_, same, within, isEnd⟩ | ⟨d, found, isEnd, done⟩⟩
  · cases isNone
  · cases same
    refine ⟨lt, within, Nat.zero_le _, fun k isK e _ here => ?_⟩
    cases isEnd.symm.trans isK
    exact here
  · have within := (find_eq_some found).1
    rw [List.length_drop] at within
    rcases planConfig_cases done with ⟨_, le, same | same⟩ | ⟨j, -, same⟩
    · cases same
      refine ⟨lt, lt.le, le, fun k isK e isElement here => ?_⟩
      cases isEnd.symm.trans isK
      rw [Nat.add_zero, List.drop_eq_getElem_cons lt]
      exact here.trans (List.suffix_cons _ _).isInfix
    · cases same
      refine ⟨lt, by omega, le, fun k isK e isElement here => ?_⟩
      cases isEnd.symm.trans isK
      exact isElement.infix_drop here lt found
    · cases same

theorem plan_eq_nested (done : plan text config = .ok (.nested i j)) :
    i < text.length ∧ j < config.length ∧ tagEnd text = some (i + 1) := by
  rcases plan_cases done with isNone | ⟨start, lt, ⟨_, same, -⟩ | ⟨d, -, isEnd, done⟩⟩
  · cases isNone
  · cases same
  · rcases planConfig_cases done with ⟨_, -, same | same⟩ | ⟨_, lt', same⟩
    · cases same
    · cases same
    · cases same
      exact ⟨lt, lt', isEnd⟩

end Plans

/-! ### The simple merge -/

section Simple

variable {xTED xTED' : Buffer} {text config temp : CString} {i length back dst counted : Nat}
  {CurLength : Nat} {bytes front : List UInt8}

theorem has_front {m : Memory} {part whole : List UInt8} {off : Nat} (here : m.Has off whole)
    (isPrefix : part <+: whole) : m.Has off part := by
  obtain ⟨rest, rfl⟩ := isPrefix
  exact (Memory.has_append.mp here).1

/-- Bytes that are written right behind others. -/
theorem has_behind {m : Memory} (here : m.Has 0 front) (next : front.length = dst) :
    (m.store dst bytes).Has 0 (front ++ bytes) := by
  rw [← next]
  refine Memory.has_append.mpr ⟨here.store (.inl ?_), ?_⟩
  · rw [Nat.zero_add]
  · rw [Nat.zero_add]
    exact Memory.has_store

theorem setBlank_has (here : xTED.bytes.Has 0 front) (next : front.length = i)
    (lt : i < xTED.size) : ∃ xTED', setBlank xTED i = .ok xTED' ∧ xTED'.size = xTED.size ∧
      xTED'.bytes.Has 0 (front ++ [32]) :=
  ⟨_, bind_eq_ok.mpr ⟨(), access_eq_ok.mpr lt, rfl⟩, rfl, has_behind here next⟩

/-- A copy whose test finds room, right behind what is there. -/
theorem copyIf_has (bytes : List UInt8) (CurLength counted : Nat) {fits : Bool}
    (here : xTED.bytes.Has 0 front) (next : front.length = dst) (test : fits = true)
    (room : dst + bytes.length ≤ xTED.size) :
    ∃ xTED', copyIf fits xTED dst bytes CurLength counted = .ok (xTED', CurLength + counted) ∧
      xTED'.size = xTED.size ∧ xTED'.bytes.Has 0 (front ++ bytes) := by
  rw [copyIf, if_pos test]
  exact ⟨_, bind_eq_ok.mpr ⟨(), access_eq_ok.mpr room, rfl⟩, rfl, has_behind here next⟩

/-- A copy back that has room for the terminator. -/
theorem copyBack_has (temp : CString) (CurLength : Nat) (here : xTED.bytes.Has 0 front)
    (next : front.length = dst) (inside : dst + (xTED.size - CurLength) ≤ xTED.size)
    (room : temp.length < xTED.size - CurLength) :
    ∃ xTED', copyBack xTED dst temp CurLength = .ok xTED' ∧ xTED'.size = xTED.size ∧
      xTED'.bytes.Has 0 (front ++ temp.bytes ++ [0]) := by
  refine ⟨_, bind_eq_ok.mpr ⟨(), access_eq_ok.mpr inside, rfl⟩, rfl, ?_⟩
  have whole : (xTED.bytes.store dst (temp.strncpy (xTED.size - CurLength))).Has 0
      (front ++ temp.strncpy (xTED.size - CurLength)) := has_behind here next
  rw [CString.strncpy_of_lt room, ← List.append_assoc, ← List.append_assoc] at whole
  rw [CString.strncpy_of_lt room]
  exact (Memory.has_append.mp whole).1

/-- A buffer with a text that has the saved one in it. -/
def Saves (xTED xTED' : Buffer) (P : CString → Prop) : Prop :=
  xTED'.size = xTED.size ∧ ∃ text' : CString, xTED'.bytes.Has 0 (text'.bytes ++ [0]) ∧
    text'.length < xTED.size ∧ P text'

/-- The blank that takes the place of the end of the tag. -/
def blank : CString := .ofString " "

/-- **The simple merge** loses nothing where the copies fit. -/
theorem mergeSimple_saves (here : xTED.bytes.Has 0 text.bytes) (short : text.length < xTED.size)
    (simple : SimplePlan text.bytes config.bytes i length back)
    (fits : (Plan.simple i length back).Fits xTED.size text config) :
    ∃ xTED', mergeSimple xTED text config i length back = .ok xTED' ∧
      Saves xTED xTED' fun text' => (text.drop (i + length)).bytes <:+: text'.bytes := by
  obtain ⟨start, within, back_le, -⟩ := simple
  obtain ⟨test, copied, inside, room⟩ := fits
  have tail := CString.length_drop (i + length) text
  have lengths : text.bytes.length = text.length ∧ config.bytes.length = config.length := ⟨rfl, rfl⟩
  have front : (text.bytes.take i).length = i := by
    rw [List.length_take]
    omega
  have pieces : (text.take i).length = i ∧ (config.take (config.length - back)).length =
      config.length - back := by
    refine ⟨front, ?_⟩
    rw [CString.length, CString.take, List.length_take]
    omega
  obtain ⟨xTED₁, blanked, size₁, here₁⟩ :=
    setBlank_has (has_front here (List.take_prefix i _)) front (by omega)
  have next₂ : (text.bytes.take i ++ [32]).length = i + 1 := by
    rw [List.length_append, front, List.length_singleton]
  have test₂ : decide ((text.drop (i + length)).length + config.length < xTED₁.size) = true :=
    decide_eq_true (by omega)
  obtain ⟨xTED₂, merged, size₂, here₂⟩ := copyIf_has (config.bytes ++ [0])
    (text.drop (i + length)).length config.length here₁ next₂ test₂ (by rw [length_text]; omega)
  have kept : (text.bytes.take i ++ [32] ++ config.bytes.take (config.length - back)) <+:
      (text.bytes.take i ++ [32] ++ (config.bytes ++ [0])) := by
    rw [List.prefix_append_right_inj]
    exact (List.take_prefix _ _).trans (List.prefix_append _ _)
  have next₃ : (text.bytes.take i ++ [32] ++ config.bytes.take (config.length - back)).length =
      i + config.length + 1 - back := by
    rw [List.length_append, next₂, List.length_take]
    omega
  obtain ⟨xTED₃, saved, size₃, here₃⟩ := copyBack_has (text.drop (i + length))
    ((text.drop (i + length)).length + config.length) (has_front here₂ kept) next₃
    (by omega) (by omega)
  refine ⟨xTED₃, ?_, by omega, (((text.take i).append blank).append
    (config.take (config.length - back))).append (text.drop (i + length)), here₃, ?_, ?_⟩
  · exact bind_eq_ok.mpr ⟨xTED₁, blanked, bind_eq_ok.mpr ⟨_, merged, saved⟩⟩
  · have one : blank.length = 1 := by decide
    simp only [CString.length_append, pieces, one]
    omega
  · exact ⟨_, [], List.append_nil _⟩

/-- A copy whose test fails is not made, and its length not counted. -/
theorem copyIf_eq_ok {fits : Bool} {copied : Buffer × Nat}
    (done : copyIf fits xTED dst bytes CurLength counted = .ok copied) :
    (fits = true → dst + bytes.length ≤ xTED.size) ∧ copied.1.size = xTED.size ∧
      copied.2 = if fits then CurLength + counted else CurLength := by
  rw [copyIf] at done
  split at done
  · rename_i test
    obtain ⟨u, inside, made⟩ := bind_eq_ok.mp done
    cases made
    exact ⟨fun _ => access_eq_ok.mp inside, rfl, (if_pos test).symm⟩
  · rename_i test
    cases done
    exact ⟨fun succeeds => absurd succeeds test, rfl, (if_neg test).symm⟩

/-- **The simple merge** only returns where its copies stay in the buffer. -/
theorem mergeSimple_stays (back_le : back ≤ config.length) (within : text.length < xTED.size)
    (done : mergeSimple xTED text config i length back = .ok xTED') :
    (Plan.simple i length back).Stays xTED.size text config := by
  have tail := CString.length_drop (i + length) text
  have short : text.length - (i + length) < xTED.size := (Nat.sub_le _ _).trans_lt within
  obtain ⟨xTED₁, blanked, done⟩ := bind_eq_ok.mp done
  obtain ⟨u, -, made⟩ := bind_eq_ok.mp blanked
  cases made
  obtain ⟨⟨xTED₂, CurLength⟩, merged, done⟩ := bind_eq_ok.mp done
  obtain ⟨fits, size, counted⟩ := copyIf_eq_ok merged
  obtain ⟨u, inside, made⟩ := bind_eq_ok.mp done
  have inside := access_eq_ok.mp inside
  rw [length_text, decide_eq_true_eq] at fits
  dsimp only [Access.Inside, decide_eq_true_eq] at inside fits size counted
  rw [tail] at fits counted
  refine ⟨fun test => ?_, ?_⟩
  · exact Nat.lt_of_succ_le (fits test)
  · simp only [decide_eq_true_eq] at counted
    rw [← counted]
    split at counted <;> omega

end Simple

/-! ### The merge of two tags with elements inside -/

section Nested

variable {xTED xTED' : Buffer} {text config : CString} {e front behind : List UInt8} {i j : Nat}

/-- In the closing tag of the Device there is one opening bracket, at its start. -/
theorem eq_of_suffix (isSuffix : e <:+ (CString.ofString "</Device>").bytes)
    (opens : e.head? = some 60) : e = (CString.ofString "</Device>").bytes := by
  have first : ∀ x < 10, ((CString.ofString "</Device>").bytes.drop x).head? = some 60 → x = 0 := by
    decide
  have nine : (CString.ofString "</Device>").bytes.length = 9 := by decide
  have isDrop := List.suffix_iff_eq_drop.mp isSuffix
  have zero := first _ (by omega) (isDrop ▸ opens)
  rw [zero] at isDrop
  exact isDrop

/-- In the closing tag of the Device there is one closing bracket, at its end. -/
theorem begins_closing (isPrefix : e <+: (CString.ofString "</Device>").bytes ++ behind)
    (closes : e.getLast? = some 62) : (CString.ofString "</Device>").bytes <+: e := by
  have last : ∀ n < 9, ((CString.ofString "</Device>").bytes.take n).getLast? ≠ some 62 := by decide
  have nine : (CString.ofString "</Device>").bytes.length = 9 := by decide
  rcases Nat.lt_or_ge e.length 9 with short | long
  · have isPart := List.prefix_of_prefix_length_le isPrefix (List.prefix_append _ _) (by omega)
    rw [List.prefix_iff_eq_take.mp isPart] at closes
    exact absurd closes (last _ short)
  · exact List.prefix_of_prefix_length_le (List.prefix_append _ _) isPrefix (by omega)

/-- **An element** stands on one side of the closing tag of the Device. -/
theorem IsElement.infix_or (isElement : IsElement e)
    (here : e <:+: front ++ ((CString.ofString "</Device>").bytes ++ behind)) :
    e <:+: front ∨ e <:+: behind := by
  obtain ⟨opens, closes, noDevice⟩ := isElement
  rcases List.infix_append_iff_ne_nil.mp here with
    inFront | inRest | ⟨l, r, -, ne, rfl, -, isPrefix⟩
  · exact .inl inFront
  · rcases List.infix_append_iff_ne_nil.mp inRest with
      inside | inBehind | ⟨l, r, ne, -, rfl, isSuffix, -⟩
    · obtain ⟨t, isPrefix, isSuffix⟩ := List.infix_iff_prefix_suffix.mp inside
      have opens' : t.head? = some 60 := by
        obtain ⟨rest, rfl⟩ := isPrefix
        rw [List.head?_append, opens, Option.some_or]
      rw [eq_of_suffix isSuffix opens'] at isPrefix
      rw [← List.append_nil (CString.ofString "</Device>").bytes] at isPrefix
      exact absurd (begins_closing isPrefix closes).isInfix noDevice
    · exact .inr inBehind
    · have opens' : l.head? = some 60 := by
        rw [List.head?_append, List.head?_eq_some_head ne, Option.some_or] at opens
        exact (List.head?_eq_some_head ne).trans opens
      rw [eq_of_suffix isSuffix opens'] at noDevice
      exact absurd (List.prefix_append _ _).isInfix noDevice
  · have closes' : r.getLast? = some 62 := by
      rw [List.getLast?_append, List.getLast?_eq_some_getLast ne, Option.some_or] at closes
      exact (List.getLast?_eq_some_getLast ne).trans closes
    have isClosing := (begins_closing isPrefix closes').isInfix
    exact absurd (isClosing.trans (List.suffix_append _ _).isInfix) noDevice

/-- What the loop over the rest of the configuration reads. -/
theorem ofBytes_read {m : Memory} {s : CString} {off size : Nat} (here : m.Has off (s.bytes ++ [0]))
    (within : off + s.length < size) : CString.ofBytes (m.read off (size - off)) = s := by
  have found := here.text within
  rw [Memory.text] at found
  split at found
  · cases found
    rfl
  · cases found

/-- What the loop finds, and what is in front of it and behind. -/
theorem split_of_find {l : List UInt8} {s : String} {d : Nat} (found : find (starts s) l = some d) :
    l = l.take d ++ ((CString.ofString s).bytes ++ l.drop (d + (CString.ofString s).length)) := by
  obtain ⟨rest, isRest⟩ := starts_iff.mp (find_eq_some found).2.1
  have isBehind : l.drop (d + (CString.ofString s).length) = rest := by
    rw [← List.drop_drop, ← isRest]
    exact List.drop_left
  rw [isBehind, isRest, List.take_append_drop]

/-- **The merge of two tags** with elements inside loses none where the copies fit. -/
theorem mergeNested_saves (here : xTED.bytes.Has 0 text.bytes) (short : text.length < xTED.size)
    (start : i < text.length) (lt : j < config.length)
    (fits : (Plan.nested i j).Fits xTED.size text config) :
    ∃ xTED', mergeNested xTED text config i j = .ok xTED' ∧ Saves xTED xTED' fun text' =>
      ∀ e, IsElement e → e <:+: text.bytes.drop (i + 1) → e <:+: text'.bytes := by
  obtain ⟨d, next, ending, foundDevice, foundNext, foundEnd, total, copied, inside, room⟩ := fits
  have nine : (CString.ofString "</Device>").length = 9 := by decide
  have tail := CString.length_drop (i + 1) text
  have rest := CString.length_drop (j + next) config
  have lengths : text.bytes.length = text.length ∧ config.bytes.length = config.length := ⟨rfl, rfl⟩
  have inTail := length_le_of_find foundDevice (by omega)
  have inConfig := length_le_of_find foundEnd (by omega)
  have front : (text.bytes.take i).length = i ∧ (config.bytes.take (j + 1)).length = j + 1 ∧
      ((text.drop (i + 1)).bytes.take d).length = d := by
    simp only [List.length_take, CString.drop, List.length_drop]
    omega
  have pieces : (text.take i).length = i ∧ (config.take (j + 1)).length = j + 1 ∧
      ((text.drop (i + 1)).take d).length = d ∧
      ((config.drop (j + next)).take (ending + 9)).length = ending + 9 := by
    refine ⟨front.1, front.2.1, front.2.2, ?_⟩
    rw [CString.length, CString.take, List.length_take, ← CString.length, rest]
    omega
  obtain ⟨xTED₁, blanked, size₁, here₁⟩ :=
    setBlank_has (has_front here (List.take_prefix i _)) front.1 (by omega)
  have next₂ : (text.bytes.take i ++ [32]).length = i + 1 := by
    rw [List.length_append, front.1, List.length_singleton]
  have test₂ : decide ((text.drop (i + 1)).length + j + 1 < xTED₁.size) = true :=
    decide_eq_true (by omega)
  obtain ⟨xTED₂, tagged, size₂, here₂⟩ := copyIf_has (config.bytes.take (j + 1))
    (text.drop (i + 1)).length (j + 2) here₁ next₂ test₂ (by omega)
  have next₃ : (text.bytes.take i ++ [32] ++ config.bytes.take (j + 1)).length = i + j + 2 := by
    rw [List.length_append, next₂, front.2.1]
    omega
  have test₃ : decide ((text.drop (i + 1)).length + (j + 2) + d < xTED₂.size) = true :=
    decide_eq_true (by omega)
  obtain ⟨xTED₃, filled, size₃, here₃⟩ := copyIf_has ((text.drop (i + 1)).bytes.take d)
    ((text.drop (i + 1)).length + (j + 2)) d here₂ next₃ test₃ (by omega)
  have next₄ : (text.bytes.take i ++ [32] ++ config.bytes.take (j + 1) ++
      (text.drop (i + 1)).bytes.take d).length = i + j + 2 + d := by
    rw [List.length_append, next₃, front.2.2]
  have test₄ : decide ((text.drop (i + 1)).length + (j + 2) + d + (config.length - (j + next)) <
      xTED₃.size) = true := decide_eq_true (by omega)
  obtain ⟨xTED₄, merged, size₄, here₄⟩ := copyIf_has ((config.drop (j + next)).bytes ++ [0])
    ((text.drop (i + 1)).length + (j + 2) + d) (config.length - (j + next)) here₃ next₄ test₄
    (by rw [length_text]; omega)
  -- the loop over what has been merged finds what stands in the configuration
  have behind := (Memory.has_append.mp here₄).2
  rw [Nat.zero_add, next₄] at behind
  have isRest := ofBytes_read behind (by omega : _ < xTED₄.size)
  have kept : (text.bytes.take i ++ [32] ++ config.bytes.take (j + 1) ++
      (text.drop (i + 1)).bytes.take d ++ (config.drop (j + next)).bytes.take (ending + 9)) <+:
      (text.bytes.take i ++ [32] ++ config.bytes.take (j + 1) ++
        (text.drop (i + 1)).bytes.take d ++ ((config.drop (j + next)).bytes ++ [0])) := by
    rw [List.prefix_append_right_inj]
    exact (List.take_prefix _ _).trans (List.prefix_append _ _)
  have next₅ : (text.bytes.take i ++ [32] ++ config.bytes.take (j + 1) ++
      (text.drop (i + 1)).bytes.take d ++ (config.drop (j + next)).bytes.take (ending + 9)).length =
      i + j + 2 + d + ending + 9 := by
    rw [List.length_append, next₄]
    exact (congrArg _ pieces.2.2.2).trans (Nat.add_assoc _ _ _).symm
  obtain ⟨xTED₅, saved, size₅, here₅⟩ := copyBack_has ((text.drop (i + 1)).drop (d + 9))
    ((text.drop (i + 1)).length + (j + 2) + d + (config.length - (j + next)))
    (has_front here₄ kept) next₅ (by omega) (by rw [CString.length_drop]; omega)
  refine ⟨xTED₅, ?_, by omega, (((((text.take i).append blank).append (config.take (j + 1))).append
    ((text.drop (i + 1)).take d)).append ((config.drop (j + next)).take (ending + 9))).append
      ((text.drop (i + 1)).drop (d + 9)), here₅, ?_, fun e isElement inText => ?_⟩
  · refine bind_eq_ok.mpr ⟨xTED₁, blanked, bind_eq_ok.mpr ⟨_, tagged, ?_⟩⟩
    refine bind_eq_ok.mpr ⟨d, scan_eq_ok.mpr ⟨Nat.zero_le _, d, foundDevice, ?_⟩, ?_⟩
    · exact (Nat.zero_add d).symm
    refine bind_eq_ok.mpr ⟨_, filled, bind_eq_ok.mpr ⟨j + next, ?_, ?_⟩⟩
    · exact scan_eq_ok.mpr ⟨lt.le, next, foundNext, rfl⟩
    refine bind_eq_ok.mpr ⟨_, merged, ?_⟩
    dsimp only
    rw [isRest]
    refine bind_eq_ok.mpr ⟨ending, scan_eq_ok.mpr ⟨Nat.zero_le _, ending, foundEnd, ?_⟩, saved⟩
    exact (Nat.zero_add ending).symm
  · have one : blank.length = 1 := by decide
    simp only [CString.length_append, pieces, one, CString.length_drop]
    omega
  · rw [split_of_find foundDevice] at inText
    rcases isElement.infix_or inText with inFront | inBehind
    · have inResult : text.bytes.take i ++ [32] ++ config.bytes.take (j + 1) ++
          (text.bytes.drop (i + 1)).take d ++
            (config.bytes.drop (j + next)).take (ending + 9) <+: _ :=
        List.prefix_append _ ((text.drop (i + 1)).drop (d + 9)).bytes
      exact (inFront.trans (List.infix_append _ _ _)).trans inResult.isInfix
    · rw [nine] at inBehind
      exact inBehind.trans ⟨_, [], List.append_nil _⟩

/-- The merge only returns where the Device has its closing tag. -/
theorem mergeNested_stays (done : mergeNested xTED text config i j = .ok xTED') :
    (Plan.nested i j).Stays xTED.size text config := by
  obtain ⟨xTED₁, -, done⟩ := bind_eq_ok.mp done
  obtain ⟨⟨xTED₂, CurLength⟩, -, done⟩ := bind_eq_ok.mp done
  obtain ⟨d, ended, -⟩ := bind_eq_ok.mp done
  obtain ⟨-, d', found, -⟩ := scan_eq_ok.mp ended
  exact ⟨d', found⟩

end Nested

/-! ### Nothing is lost -/

section Merge

variable {xTED xTED' : Buffer} {config : CString} {n : Nat}

/-- A merge that saves the elements behind the tag is as it should be. -/
theorem Saves.merges {text : CString} {P : CString → Prop} (saves : Saves xTED xTED' P)
    (done : MergeConfigxTED xTED config = .ok (xTED', 0))
    (keeps : ∀ text', P text' → Keeps text text') : Merges xTED text config := by
  obtain ⟨size, text', here, short, saved⟩ := saves
  have within : 0 + text'.length < xTED'.size := by omega
  exact ⟨xTED', 0, done, size, text', Buffer.textAt_of_has here within,
    Buffer.textOf_of_has here, fun _ => keeps text' saved⟩

/-- **The merge** stays in the buffer and loses nothing where each loop finds what it looks for and
the copies fit. It does not where a loop finds nothing, or a copy of a simple merge leaves the
buffer. -/
theorem merges_of_fits (here : xTED.TextAt 0 n) :
    (Fits xTED.size (xTED.textOf 0 n) config → Merges xTED (xTED.textOf 0 n) config) ∧
      (Merges xTED (xTED.textOf 0 n) config →
        ∃ p, plan (xTED.textOf 0 n).bytes config.bytes = .ok p ∧
          p.Stays xTED.size (xTED.textOf 0 n) config) := by
  have length := Buffer.length_textOf here (Nat.le_refl n)
  have start := (Memory.has_append.mp (Buffer.has_textOf here)).1
  have short : (xTED.textOf 0 n).length < xTED.size := by
    have within := here.2.2
    omega
  constructor
  · rintro ⟨p, planned, fits⟩
    cases p with
    | none =>
        refine ⟨xTED, -1, ?_, rfl, xTED.textOf 0 n, ?_, ?_, nofun⟩
        · exact bind_eq_ok.mpr ⟨n, Buffer.strlen_eq_ok.mpr here, bind_eq_ok.mpr ⟨_, planned, rfl⟩⟩
        · rwa [length]
        · rw [length]
    | simple i length back =>
        have simple := plan_eq_simple planned
        obtain ⟨xTED', merged, saves⟩ := mergeSimple_saves start short simple fits
        refine saves.merges ?_ fun text' saved k isEnd e isElement behind => ?_
        · exact bind_eq_ok.mpr ⟨n, Buffer.strlen_eq_ok.mpr here,
            bind_eq_ok.mpr ⟨_, planned, bind_eq_ok.mpr ⟨_, merged, rfl⟩⟩⟩
        · exact (simple.saved k isEnd e isElement behind).trans saved
    | nested i j =>
        obtain ⟨lt, lt', isTagEnd⟩ := plan_eq_nested planned
        obtain ⟨xTED', merged, saves⟩ := mergeNested_saves start short lt lt' fits
        refine saves.merges ?_ fun text' saved k isEnd e isElement behind => ?_
        · exact bind_eq_ok.mpr ⟨n, Buffer.strlen_eq_ok.mpr here,
            bind_eq_ok.mpr ⟨_, planned, bind_eq_ok.mpr ⟨_, merged, rfl⟩⟩⟩
        · cases isTagEnd.symm.trans isEnd
          exact saved e isElement behind
  · rintro ⟨xTED', success, done, -⟩
    obtain ⟨n', isLength, done⟩ := bind_eq_ok.mp done
    cases (isLength.symm.trans (Buffer.strlen_eq_ok.mpr here))
    obtain ⟨p, planned, done⟩ := bind_eq_ok.mp done
    refine ⟨p, planned, ?_⟩
    cases p with
    | none => exact trivial
    | simple i length back =>
        obtain ⟨xTED', merged, -⟩ := bind_eq_ok.mp done
        exact mergeSimple_stays (plan_eq_simple planned).back_le short merged
    | nested i j =>
        obtain ⟨xTED', merged, -⟩ := bind_eq_ok.mp done
        exact mergeNested_stays merged

/-- A Device with elements behind it, and a part of its configuration. -/
theorem merges_sample :
    Merges ⟨Memory.store (fun _ => 0) 0 (CString.ofString "<Device/><X/><Y/>").bytes, 64⟩
      (Buffer.textOf ⟨Memory.store (fun _ => 0) 0 (CString.ofString "<Device/><X/><Y/>").bytes, 64⟩
        0 17) (.ofString "a=\"b\">") := by
  refine (merges_of_fits ⟨by decide, by decide, by decide⟩).1 ⟨.simple 7 2 0, by rfl, ?_⟩
  refine ⟨by decide, by decide, by decide, by decide⟩

/-- The Device is past the middle of its text: what is copied back is filled with zeros behind the
end of the buffer. -/
theorem not_merges : ¬ ∀ (xTED : Buffer) (n : Nat) (config : CString), xTED.TextAt 0 n →
    Merges xTED (xTED.textOf 0 n) config := by
  intro merges
  obtain ⟨xTED', success, done, -⟩ := merges
    ⟨Memory.store (fun _ => 0) 0 (CString.ofString "<xTEDS><Device/></xTEDS>").bytes, 64⟩ 24
    (.ofString "a=\"b\"/>") ⟨by decide, by decide, by decide⟩
  have outside : (MergeConfigxTED
      ⟨Memory.store (fun _ => 0) 0 (CString.ofString "<xTEDS><Device/></xTEDS>").bytes, 64⟩
      (.ofString "a=\"b\"/>")).toBool = false := by rfl
  rw [done] at outside
  cases outside

end Merge


end MergeConfig

end Sdm
