import Sdm.Lib.Checked

/-!
Searching a text for a regular expression (`Regex.cpp`, `RegexMatch.cpp`, `RegexResult.cpp`).

A compiled expression finds its leftmost match in a text and says where the groups of the match
are. What a match is may depend on what stands before the text (an anchor, the start of a word),
but `regexec` is only given the rest of a text and takes it for the whole.

* `found`: the matches that the loop of `RegexSearchCapturesOnly` comes to.
* `leading`: what it reports of a match.
* `RegexSearchCapturesOnly_eq`: its result is made of these.
* `FillMatchText_eq_ok`: when the texts of a match are written into an array, and what it holds.
-/

namespace Sdm

open Lib Checked Memory

/-! ### Regular expressions -/

/-- What `regexec` fills in: where the match starts and ends, and the same for each group of the
expression that takes part. -/
structure Regmatch where
  whole : Nat × Nat
  groups : List (Option (Nat × Nat))
  deriving DecidableEq, Repr

/-- A match that starts and ends at this character of the text. -/
def Regmatch.AtStart (m : Regmatch) : Prop := m.whole = (0, 0)

instance (m : Regmatch) : Decidable m.AtStart := inferInstanceAs (Decidable (_ = _))

/-- A compiled `RegularExpression`: the leftmost match in the rest of a text, given also what
stands before. -/
structure RegularExpression where
  leftmost : (before rest : CString) → Option Regmatch
  inside : ∀ before rest m, leftmost before rest = some m →
    m.whole.1 ≤ m.whole.2 ∧ m.whole.2 ≤ rest.length
  groups_inside : ∀ before rest m, leftmost before rest = some m → ∀ g, some g ∈ m.groups →
    g.1 ≤ g.2 ∧ g.2 ≤ rest.length

namespace RegularExpression

variable {re : RegularExpression} {before rest : CString} {m : Regmatch}

/-- `regexec`: the text that it is given is all that it sees. -/
def regexec (re : RegularExpression) (rest : CString) : Option Regmatch := re.leftmost .empty rest

/-- Behind a match that is not empty at the start, less is left. -/
theorem length_drop_lt (here : re.leftmost before rest = some m) (moves : ¬ m.AtStart) :
    (rest.drop m.whole.2).length < rest.length := by
  obtain ⟨ordered, within⟩ := re.inside before rest m here
  have positive : 0 < m.whole.2 := by
    by_contra none
    exact moves (Prod.ext (by simp only; omega) (by simp only; omega))
  rw [CString.length_drop]
  omega

end RegularExpression

/-! ### `RegexMatch` -/

/-- `MAX_CAPTURES`. -/
def MAX_CAPTURES : Nat := 6

/-- `RegexCapture`: its text, once it is set. -/
abbrev RegexCapture := Option CString

/-- `RegexCapture::SetCaptureText`: at most so many characters. -/
def RegexCapture.ofText (text : CString) (length : Nat) : RegexCapture := some (text.take length)

/-- `RegexMatch`. `m_iNumCaptures` is the length of the array, which is unset when that is zero. -/
structure RegexMatch where
  m_Captures : List RegexCapture
  m_iCurCaptureIndex : Nat
  within : m_iCurCaptureIndex = 0 ∨ m_iCurCaptureIndex < m_Captures.length

namespace RegexMatch

/-- The captures that have been added. -/
def captures (m : RegexMatch) : List RegexCapture := m.m_Captures.take m.m_iCurCaptureIndex

/-- `RegexMatch::RegexMatch()`. -/
def new : RegexMatch := ⟨[], 0, .inl rfl⟩

/-- `RegexMatch::RegexMatch(int)`. -/
def ofSize (MaxCaptureSize : Nat) : RegexMatch :=
  ⟨List.replicate MaxCaptureSize none, 0, .inl rfl⟩

/-- `RegexMatch::operator=`, into a match that has just been made: it gets an array with a copy of
every capture, if there are any. -/
def copy (Right : RegexMatch) : RegexMatch :=
  if Right.m_Captures.length ≠ 0 then
    ⟨Right.m_Captures, Right.m_iCurCaptureIndex, Right.within⟩
  else new

/-- `RegexMatch::AddCapture`; none where it fails. The last place of the array is never used. -/
def AddCapture (m : RegexMatch) (NewCapture : RegexCapture) : Option RegexMatch :=
  if unset : m.m_Captures.length = 0 then none
  else if last : m.m_iCurCaptureIndex + 1 = m.m_Captures.length then none
  else some ⟨m.m_Captures.set m.m_iCurCaptureIndex NewCapture, m.m_iCurCaptureIndex + 1, by
    have within := m.within
    rw [List.length_set]
    omega⟩

/-- `RegexMatch::Clear`. -/
def Clear (m : RegexMatch) : RegexMatch := ⟨m.m_Captures, 0, .inl rfl⟩

/-- The loop of `FillMatchText`: the place behind the last text, and the array. It is never more
than the size of the array, where `strlen` has found the terminators. -/
def fillTexts (InputBufferSize : Nat) : List RegexCapture → Nat → Memory → Checked (Nat × Memory)
  | [], CurOffset, InputBuffer => pure (CurOffset, InputBuffer)
  | capture :: rest, CurOffset, InputBuffer => do
      let text ← deref capture
      let n := InputBufferSize - CurOffset
      access ⟨InputBufferSize, CurOffset, n⟩
      let InputBuffer := InputBuffer.store CurOffset (text.strncpy n)
      let length ← (⟨InputBuffer, InputBufferSize⟩ : Buffer).strlen CurOffset
      fillTexts InputBufferSize rest (CurOffset + (length + 1)) InputBuffer

/-- `RegexMatch::FillMatchText`, into an array of this size. -/
def FillMatchText (m : RegexMatch) (InputBuffer : Memory) (InputBufferSize : Nat) :
    Checked Memory := do
  let (CurOffset, InputBuffer) ← fillTexts InputBufferSize m.captures 0 InputBuffer
  if InputBufferSize - CurOffset ≥ 1 then
    let CurOffset := CurOffset + 1
    access ⟨InputBufferSize, CurOffset, 1⟩
    pure (InputBuffer.store CurOffset [0])
  else pure InputBuffer

end RegexMatch

/-! ### `RegexResult` -/

/-- `RegexResult`: its list of matches, and how many they are. -/
structure RegexResult where
  m_Head : List RegexMatch
  m_iNumMatches : Nat
  counted : m_iNumMatches = m_Head.length

namespace RegexResult

/-- `RegexResult::RegexResult()`. -/
def new : RegexResult := ⟨[], 0, rfl⟩

/-- `RegexResult::AddMatch`: a new node at the end of the list, with a copy of the match. -/
def AddMatch (r : RegexResult) (NewMatch : RegexMatch) : RegexResult :=
  ⟨r.m_Head ++ [NewMatch.copy], r.m_iNumMatches + 1, by simp [r.counted]⟩

/-- `RegexResult::operator=` and the copy constructor: a new node for each of the other list. -/
def copy (Right : RegexResult) : RegexResult :=
  ⟨Right.m_Head.map RegexMatch.copy, Right.m_iNumMatches, by simp [Right.counted]⟩

/-- `RegexResult::Matched`. -/
def Matched (r : RegexResult) : Bool := r.m_iNumMatches ≠ 0

end RegexResult

/-! ### `RegexSearchCapturesOnly` -/

/-- The loop over the captures of a match, up to the first that takes no part: the match with them,
and whether one was added. -/
def addCaptures (SourceText : CString) :
    List (Option (Nat × Nat)) → RegexMatch → Bool → RegexMatch × Bool
  | [], CurMatch, CaptureAdded => (CurMatch, CaptureAdded)
  | none :: _, CurMatch, CaptureAdded => (CurMatch, CaptureAdded)
  | some (rm_so, rm_eo) :: rest, CurMatch, CaptureAdded =>
      match CurMatch.AddCapture (.ofText (SourceText.drop rm_so) (rm_eo - rm_so)) with
      | none => addCaptures SourceText rest CurMatch CaptureAdded
      | some CurMatch => addCaptures SourceText rest CurMatch true

/-- The loop of `RegexSearchCapturesOnly`, on what is left of the text. `regexec` fills in as many
places as there are captures at most, and marks the rest of them as taking no part. -/
def searchCaptures (Pattern : RegularExpression) (SourceText : CString) (CurMatch : RegexMatch)
    (TheResult : RegexResult) : RegexResult :=
  match here : Pattern.regexec SourceText with
  | none => TheResult
  | some Match =>
      if moves : Match.AtStart then TheResult
      else
        let added := addCaptures SourceText (Match.groups.take (MAX_CAPTURES - 1)) CurMatch false
        if added.2 then
          searchCaptures Pattern (SourceText.drop Match.whole.2) added.1.Clear
            (TheResult.AddMatch added.1)
        else searchCaptures Pattern (SourceText.drop Match.whole.2) added.1 TheResult
termination_by SourceText.length
decreasing_by all_goals exact RegularExpression.length_drop_lt here moves

/-- `RegexSearchCapturesOnly`. -/
def RegexSearchCapturesOnly (SourceText : CString) (Pattern : RegularExpression) : RegexResult :=
  (searchCaptures Pattern SourceText (.ofSize MAX_CAPTURES) .new).copy

/-! ### What is found, and what is reported of it -/

/-- The text of a group that takes part in a match. -/
def groupText (text : CString) (group : Nat × Nat) : CString :=
  (text.drop group.1).take (group.2 - group.1)

/-- The texts of the groups that take part in a match. -/
def Regmatch.participating (text : CString) (m : Regmatch) : List CString :=
  (m.groups.filterMap id).map (groupText text)

/-- The texts of the groups up to the first that takes no part. -/
def leadingTexts (text : CString) (groups : List (Option (Nat × Nat))) : List CString :=
  ((groups.takeWhile (·.isSome)).filterMap id).map (groupText text)

/-- The texts of the first groups of a match, as many as there is room for, up to one that takes no
part. -/
def Regmatch.leading (text : CString) (m : Regmatch) : List CString :=
  leadingTexts text (m.groups.take (MAX_CAPTURES - 1))

/-- The matches that the loop of `RegexSearchCapturesOnly` comes to, with the text that each is in:
it starts again behind every match, and ends at one that is empty where it starts. -/
def found (Pattern : RegularExpression) (SourceText : CString) : List (CString × Regmatch) :=
  match _here : Pattern.regexec SourceText with
  | none => []
  | some Match =>
      if _moves : Match.AtStart then []
      else (SourceText, Match) :: found Pattern (SourceText.drop Match.whole.2)
termination_by SourceText.length
decreasing_by exact RegularExpression.length_drop_lt _here _moves

/-- The captures that a search reports, match by match. -/
def reported (Pattern : RegularExpression) (SourceText : CString) : List (List CString) :=
  ((found Pattern SourceText).map fun f => f.2.leading f.1).filter (· ≠ [])

section Captures

variable {text : CString} {cur : RegexMatch} {groups : List (Option (Nat × Nat))}

theorem RegexMatch.AddCapture_eq (capture : RegexCapture)
    (room : cur.m_iCurCaptureIndex + 1 < cur.m_Captures.length) :
    ∃ next : RegexMatch, cur.AddCapture capture = some next ∧
      next.m_Captures.length = cur.m_Captures.length ∧
      next.m_iCurCaptureIndex = cur.m_iCurCaptureIndex + 1 ∧
      next.captures = cur.captures ++ [capture] := by
  rw [AddCapture, dif_neg (by omega), dif_neg (by omega)]
  refine ⟨_, rfl, List.length_set, rfl, ?_⟩
  simp only [captures]
  rw [List.take_add_one, List.take_set_of_le (Nat.le_refl _),
    List.getElem?_set_self (Nat.lt_of_succ_lt room)]
  rfl

@[simp]
theorem leadingTexts_nil : leadingTexts text [] = [] := rfl

@[simp]
theorem leadingTexts_none : leadingTexts text (none :: groups) = [] := rfl

@[simp]
theorem leadingTexts_some (group : Nat × Nat) :
    leadingTexts text (some group :: groups) =
      groupText text group :: leadingTexts text groups := by
  simp [leadingTexts]

/-- The captures up to the first that takes no part are added, where there is room. -/
theorem addCaptures_spec (text : CString) (added : Bool)
    (room : cur.m_iCurCaptureIndex + groups.length < cur.m_Captures.length) :
    ∃ next : RegexMatch, addCaptures text groups cur added =
        (next, added || !(leadingTexts text groups).isEmpty) ∧
      next.m_Captures.length = cur.m_Captures.length ∧
      next.m_iCurCaptureIndex = cur.m_iCurCaptureIndex + (leadingTexts text groups).length ∧
      next.captures = cur.captures ++ (leadingTexts text groups).map some := by
  induction groups generalizing cur added with
  | nil => exact ⟨cur, by simp [addCaptures], rfl, rfl, by simp⟩
  | cons group rest ih =>
      cases group with
      | none => exact ⟨cur, by simp [addCaptures], rfl, rfl, by simp⟩
      | some group =>
          rw [List.length_cons] at room
          obtain ⟨cur', add, size, index, captured⟩ :=
            cur.AddCapture_eq (some (groupText text group)) (by omega)
          have room' : cur'.m_iCurCaptureIndex + rest.length < cur'.m_Captures.length := by omega
          obtain ⟨next, others, size', index', captured'⟩ := ih true room'
          refine ⟨next, ?_, by rw [size', size], ?_, ?_⟩
          · rw [addCaptures]
            simp only [RegexCapture.ofText, ← groupText.eq_1, add, others]
            simp
          · rw [index', index, leadingTexts_some, List.length_cons]
            omega
          · rw [captured', captured, leadingTexts_some, List.map_cons, List.append_assoc]
            rfl

theorem RegexMatch.captures_copy (m : RegexMatch) : m.copy.captures = m.captures := by
  unfold RegexMatch.copy
  split
  · rfl
  · rename_i unset
    have empty : m.m_Captures = [] := List.eq_nil_of_length_eq_zero (not_not.mp unset)
    simp [captures, new, empty]

theorem RegexResult.captures_copy (r : RegexResult) :
    r.copy.m_Head.map (·.captures) = r.m_Head.map (·.captures) := by
  simp [copy, RegexMatch.captures_copy]

theorem RegexResult.Matched_iff {r : RegexResult} : r.Matched = true ↔ r.m_Head ≠ [] := by
  simp [Matched, r.counted]

end Captures

section Found

variable {Pattern : RegularExpression} {text : CString} {m : Regmatch}

theorem found_of_none (none : Pattern.regexec text = none) : found Pattern text = [] := by
  rw [found]
  split
  · rfl
  · rename_i here
    rw [none] at here
    cases here

theorem found_of_atStart (here : Pattern.regexec text = some m) (start : m.AtStart) :
    found Pattern text = [] := by
  rw [found]
  split
  · rfl
  · rename_i there
    cases here.symm.trans there
    rw [dif_pos start]

theorem found_of_moves (here : Pattern.regexec text = some m) (moves : ¬ m.AtStart) :
    found Pattern text = (text, m) :: found Pattern (text.drop m.whole.2) := by
  rw [found]
  split
  · rename_i there
    rw [here] at there
    cases there
  · rename_i there
    cases here.symm.trans there
    rw [dif_neg moves]

theorem reported_of_moves (here : Pattern.regexec text = some m) (moves : ¬ m.AtStart) :
    reported Pattern text = (if m.leading text = [] then [] else [m.leading text]) ++
      reported Pattern (text.drop m.whole.2) := by
  rw [reported, found_of_moves here moves, List.map_cons, List.filter_cons]
  by_cases empty : m.leading text = []
  · simp [empty, reported]
  · simp [empty, reported]

end Found

/-- The loop adds what it reports to the result. -/
theorem searchCaptures_spec {Pattern : RegularExpression} {text : CString} {cur : RegexMatch}
    {result : RegexResult} (size : cur.m_Captures.length = MAX_CAPTURES)
    (fresh : cur.m_iCurCaptureIndex = 0) :
    (searchCaptures Pattern text cur result).m_Head.map (·.captures) =
      result.m_Head.map (·.captures) ++ (reported Pattern text).map (·.map some) := by
  have added : ∀ (text : CString) (m : Regmatch) (cur : RegexMatch),
      cur.m_Captures.length = MAX_CAPTURES → cur.m_iCurCaptureIndex = 0 →
      ∃ next : RegexMatch, addCaptures text (m.groups.take (MAX_CAPTURES - 1)) cur false =
          (next, !(m.leading text).isEmpty) ∧ next.m_Captures.length = MAX_CAPTURES ∧
        next.m_iCurCaptureIndex = (m.leading text).length ∧
        next.captures = (m.leading text).map some := by
    intro text m cur size fresh
    have room : cur.m_iCurCaptureIndex + (m.groups.take (MAX_CAPTURES - 1)).length <
        cur.m_Captures.length := by
      rw [fresh, size, List.length_take, MAX_CAPTURES]
      omega
    obtain ⟨next, add, size', index, captured⟩ := addCaptures_spec text false room
    refine ⟨next, add, by rw [size', size], by rw [index, fresh, Nat.zero_add]; rfl, ?_⟩
    rw [captured, RegexMatch.captures, fresh]
    rfl
  fun_induction searchCaptures Pattern text cur result with
  | case1 text cur result none =>
      rw [reported, found_of_none none]
      simp
  | case2 text cur result m here start =>
      rw [reported, found_of_atStart here start]
      simp
  | case3 text cur result m here moves add some ih =>
      obtain ⟨next, same, size', index, captured⟩ := added text m cur size fresh
      have filled : m.leading text ≠ [] := by
        intro empty
        simp [add, same, empty] at some
      have now : add = (next, true) := by simp [add, same, filled]
      rw [now] at ih ⊢
      rw [ih size' rfl, reported_of_moves here moves, if_neg filled]
      simp [RegexResult.AddMatch, RegexMatch.captures_copy, captured]
  | case4 text cur result m here moves add nothing ih =>
      obtain ⟨next, same, size', index, captured⟩ := added text m cur size fresh
      have empty : m.leading text = [] := by
        by_contra filled
        exact nothing (by simp [add, same, filled])
      have now : add = (next, false) := by simp [add, same, empty]
      rw [now] at ih ⊢
      rw [ih size' (by rw [index, empty]; rfl), reported_of_moves here moves, if_pos empty,
        List.nil_append]

/-- A search reports the leading captures of every match that it comes to. -/
theorem RegexSearchCapturesOnly_eq (Pattern : RegularExpression) (text : CString) :
    (RegexSearchCapturesOnly text Pattern).m_Head.map (·.captures) =
      (reported Pattern text).map (·.map some) := by
  have all : (searchCaptures Pattern text (.ofSize MAX_CAPTURES) .new).m_Head.map (·.captures) =
      (reported Pattern text).map (·.map some) := searchCaptures_spec (by decide) rfl
  rw [← all, RegexSearchCapturesOnly, RegexResult.captures_copy]

/-! ### The successive matches of a text -/

section Successive

variable {Pattern : RegularExpression} {before rest : CString} {m : Regmatch} {behind : Bool}

/-- The successive matches in the rest of a text, that do not overlap, each with the text it is in.
An empty match right behind another one is none of its own; behind an empty match the search goes on
one character further. -/
def successive (Pattern : RegularExpression) (behind : Bool) (before rest : CString) :
    List (CString × Regmatch) :=
  match _here : Pattern.leftmost before rest with
  | none => []
  | some m =>
      if _moves : m.AtStart then
        let own := if behind then [] else [(rest, m)]
        if _more : 0 < rest.length then
          own ++ successive Pattern false (before.append (rest.take 1)) (rest.drop 1)
        else own
      else (rest, m) :: successive Pattern true (before.append (rest.take m.whole.2))
        (rest.drop m.whole.2)
termination_by rest.length
decreasing_by
  · rw [CString.length_drop]
    omega
  · exact RegularExpression.length_drop_lt _here _moves

/-- The places from which the successive matches are found, up to the first empty match at its
place: what stands before, and the rest. -/
def places (Pattern : RegularExpression) (before rest : CString) : List (CString × CString) :=
  (before, rest) ::
    match _here : Pattern.leftmost before rest with
    | none => []
    | some m =>
        if _moves : m.AtStart then []
        else places Pattern (before.append (rest.take m.whole.2)) (rest.drop m.whole.2)
termination_by rest.length
decreasing_by exact RegularExpression.length_drop_lt _here _moves

/-- The successive matches from the first place on where the match is empty. -/
def unreached (Pattern : RegularExpression) (behind : Bool) (before rest : CString) :
    List (CString × Regmatch) :=
  match _here : Pattern.leftmost before rest with
  | none => []
  | some m =>
      if _moves : m.AtStart then successive Pattern behind before rest
      else unreached Pattern true (before.append (rest.take m.whole.2)) (rest.drop m.whole.2)
termination_by rest.length
decreasing_by exact RegularExpression.length_drop_lt _here _moves

/-- What is found from these places does not depend on what stands before. -/
def Alike (Pattern : RegularExpression) (before rest : CString) : Prop :=
  ∀ place ∈ places Pattern before rest, Pattern.leftmost place.1 place.2 = Pattern.regexec place.2

theorem successive_of_none (none : Pattern.leftmost before rest = none) :
    successive Pattern behind before rest = [] := by
  rw [successive]
  split
  · rfl
  · rename_i there
    cases none.symm.trans there

theorem successive_of_moves (here : Pattern.leftmost before rest = some m) (moves : ¬ m.AtStart) :
    successive Pattern behind before rest = (rest, m) ::
      successive Pattern true (before.append (rest.take m.whole.2)) (rest.drop m.whole.2) := by
  rw [successive]
  split
  · rename_i there
    cases here.symm.trans there
  · rename_i there
    cases here.symm.trans there
    rw [dif_neg moves]

theorem unreached_of_none (none : Pattern.leftmost before rest = none) :
    unreached Pattern behind before rest = [] := by
  rw [unreached]
  split
  · rfl
  · rename_i there
    cases none.symm.trans there

theorem unreached_of_atStart (here : Pattern.leftmost before rest = some m) (start : m.AtStart) :
    unreached Pattern behind before rest = successive Pattern behind before rest := by
  rw [unreached]
  split
  · rename_i there
    cases here.symm.trans there
  · rename_i there
    cases here.symm.trans there
    rw [dif_pos start]

theorem unreached_of_moves (here : Pattern.leftmost before rest = some m) (moves : ¬ m.AtStart) :
    unreached Pattern behind before rest =
      unreached Pattern true (before.append (rest.take m.whole.2)) (rest.drop m.whole.2) := by
  rw [unreached]
  split
  · rename_i there
    cases here.symm.trans there
  · rename_i there
    cases here.symm.trans there
    rw [dif_neg moves]

theorem Alike.here (alike : Alike Pattern before rest) :
    Pattern.leftmost before rest = Pattern.regexec rest := by
  refine alike (before, rest) ?_
  rw [places]
  exact List.mem_cons_self

theorem Alike.next (alike : Alike Pattern before rest)
    (here : Pattern.leftmost before rest = some m)
    (moves : ¬ m.AtStart) :
    Alike Pattern (before.append (rest.take m.whole.2)) (rest.drop m.whole.2) := by
  intro place mem
  refine alike place ?_
  rw [places]
  refine List.mem_cons_of_mem _ ?_
  split
  · rename_i there
    cases here.symm.trans there
  · rename_i there
    cases here.symm.trans there
    rwa [dif_neg moves]

/-- **The loop finds the successive matches** up to the first place where the match is empty. -/
theorem successive_eq (behind : Bool) (alike : Alike Pattern before rest) :
    successive Pattern behind before rest =
    found Pattern rest ++ unreached Pattern behind before rest := by
  fun_induction found Pattern rest generalizing before behind with
  | case1 rest none =>
      rw [← alike.here] at none
      rw [successive_of_none none, unreached_of_none none, List.append_nil]
  | case2 rest m here start =>
      rw [← alike.here] at here
      rw [unreached_of_atStart here start, List.nil_append]
  | case3 rest m here moves ih =>
      rw [← alike.here] at here
      rw [successive_of_moves here moves, unreached_of_moves here moves, List.cons_append,
        ih true (alike.next here moves)]

end Successive

/-! ### The texts in the array -/

namespace RegexMatch

section Fill

variable {m : RegexMatch} {size off off' : Nat} {InputBuffer filled : Memory}
  {texts : List CString}

/-- What the loop has written when it ends: the texts in a row, zeros up to the end of the array. -/
theorem fillTexts_spec (le : off ≤ size)
    (done : fillTexts size (texts.map some) off InputBuffer = .ok (off', filled)) :
    off' = off + (rowBytes texts).length ∧ off' ≤ size ∧ filled.Has off (rowBytes texts) ∧
      (texts ≠ [] → ∀ a, off' ≤ a → a < size → filled a = 0) ∧
      ∀ a < off, filled a = InputBuffer a := by
  induction texts generalizing off InputBuffer with
  | nil =>
      cases done
      exact ⟨rfl, le, rfl, fun some => absurd rfl some, fun _ _ => rfl⟩
  | cons t rest ih =>
      simp only [List.map_cons, fillTexts, bind_eq_ok, deref_eq_ok, access_eq_ok,
        Buffer.strlen_eq_ok] at done
      obtain ⟨_, same, _, _, n, text, done⟩ := done
      cases same
      obtain ⟨rfl, within⟩ := (Buffer.textAt_strncpy le).mp text
      obtain ⟨rfl, inside, others, zeros, before⟩ := ih (by omega) done
      have own : (InputBuffer.store off (t.strncpy (size - off))).Has off
          (t.bytes ++ [0] ++ List.replicate (size - off - t.length - 1) 0) := by
        rw [← CString.strncpy_of_lt (by omega)]
        exact has_store
      obtain ⟨first, padding⟩ := has_append.mp own
      rw [length_text] at padding
      rw [length_rowBytes_cons]
      refine ⟨by omega, by omega, ?_, ?_, ?_⟩
      · rw [rowBytes_cons, has_append, length_text]
        refine ⟨first.congr fun j lt => before (off + j) ?_, others⟩
        rw [length_text] at lt
        omega
      · intro _ a behind lt
        cases rest with
        | cons u us => exact zeros (List.cons_ne_nil u us) a behind lt
        | nil =>
            cases done
            rw [rowBytes_nil, List.length_nil, Nat.add_zero] at behind
            have inside : a - (off + (t.length + 1)) < size - off - t.length - 1 := by omega
            have here := padding.getD (by rwa [List.length_replicate])
            rwa [Nat.add_sub_cancel' behind, List.getD_replicate 0 inside] at here
      · intro a lt
        rw [before a (by omega), store_of_outside (.inl lt)]

/-- There is room for texts that fit in a row. -/
theorem fillTexts_of_fits (InputBuffer : Memory) (fits : off + (rowBytes texts).length ≤ size) :
    ∃ filled, fillTexts size (texts.map some) off InputBuffer =
      .ok (off + (rowBytes texts).length, filled) := by
  induction texts generalizing off InputBuffer with
  | nil => exact ⟨InputBuffer, rfl⟩
  | cons t rest ih =>
      rw [length_rowBytes_cons] at fits ⊢
      have fits' : off + (t.length + 1) + (rowBytes rest).length ≤ size := by omega
      obtain ⟨filled, done⟩ := ih (InputBuffer.store off (t.strncpy (size - off))) fits'
      refine ⟨filled, ?_⟩
      simp only [List.map_cons, fillTexts, bind_eq_ok, deref_eq_ok, access_eq_ok,
        Buffer.strlen_eq_ok, Access.Inside]
      refine ⟨t, rfl, (), by omega, t.length,
        (Buffer.textAt_strncpy (by omega)).mpr ⟨rfl, by omega⟩, ?_⟩
      rw [done, Nat.add_assoc]

/-- **`FillMatchText` stays inside its array** when the texts fill it exactly, or leave room for two
more terminators. The array then holds the texts, and an empty one behind them if there is room. -/
theorem FillMatchText_eq_ok (InputBuffer : Memory) (added : m.captures = texts.map some) :
    (∃ filled, m.FillMatchText InputBuffer size = .ok filled) ↔
      (rowBytes texts).length = size ∨ (rowBytes texts).length + 2 ≤ size := by
  simp only [FillMatchText, added, bind_eq_ok, Prod.exists]
  constructor
  · rintro ⟨_, off', filled, done, rest⟩
    obtain ⟨rfl, within, -⟩ := fillTexts_spec (Nat.zero_le _) done
    split at rest
    · obtain ⟨_, inside, -⟩ := bind_eq_ok.mp rest
      have inside := access_eq_ok.mp inside
      simp only [Access.Inside] at inside
      omega
    · omega
  · intro fits
    have inside : 0 + (rowBytes texts).length ≤ size := by omega
    obtain ⟨filled, done⟩ := fillTexts_of_fits InputBuffer inside
    rcases fits with exact | room
    · refine ⟨filled, _, _, done, ?_⟩
      rw [if_neg (by omega)]
      rfl
    · have inside : (Access.mk size (0 + (rowBytes texts).length + 1) 1).Inside := by
        simp only [Access.Inside]
        omega
      refine ⟨filled.store (0 + (rowBytes texts).length + 1) [0], _, filled, done, ?_⟩
      rw [if_pos (by omega)]
      exact bind_eq_ok.mpr ⟨(), access_eq_ok.mpr inside, rfl⟩

/-- What the array holds then. -/
theorem FillMatchText_spec (added : m.captures = texts.map some) (nonempty : texts ≠ [])
    (done : m.FillMatchText InputBuffer size = .ok filled) :
    filled.Has 0 (rowBytes texts) ∧
      ((rowBytes texts).length < size → filled (rowBytes texts).length = 0) := by
  simp only [FillMatchText, added, bind_eq_ok, Prod.exists] at done
  obtain ⟨off', buffer, done, rest⟩ := done
  obtain ⟨rfl, within, here, zeros, -⟩ := fillTexts_spec (Nat.zero_le _) done
  rw [Nat.zero_add] at rest zeros
  split at rest
  · obtain ⟨_, -, rest⟩ := bind_eq_ok.mp rest
    obtain rfl := pure_eq_ok.mp rest
    refine ⟨here.store (.inl (by omega)), fun lt => ?_⟩
    rw [store_of_outside (.inl (Nat.lt_succ_self _))]
    exact zeros nonempty _ (Nat.le_refl _) lt
  · obtain rfl := pure_eq_ok.mp rest
    exact ⟨here, fun lt => zeros nonempty _ (Nat.le_refl _) lt⟩

end Fill

end RegexMatch

end Sdm
