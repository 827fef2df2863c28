import Sdm.Lib.Checked
import Sdm.XTEDS.Qualifiers

/-!
`xTEDSQualifierList::Parse`: qualifiers from the text of a request.

The parser cuts the text into pieces. A piece goes from the first character that is no `<` and no
space to the first space or slash behind its `=`, so that a quoted value with a space or a
slash is cut in two. Each piece is parsed on its own, by its first and last quote.

* `run_eq_pieces`: the two indices and the flag of the parser cut the text into `pieces`.
* `Parse_list_iff`: when the arrays take the pieces, and what is then added to the list.
* `pieces_tokens`: the pieces of a list are its qualifiers, when no value is cut.
* `exists_one_quote`: a value that is cut leaves a piece with one quote, which is no qualifier.
* `reads_iff`: exactly which texts are read without a fault and as they stand.
-/

namespace Sdm.XTEDSQualifierList

open Lib XTEDSItem

/-! ### `xTEDSQualifier::Parse` -/

def isSpace (c : UInt8) : Bool := c == 32
def isQuote (c : UInt8) : Bool := c == 34
def isEqual (c : UInt8) : Bool := c == 61

/-- What stands between two pieces of a text. -/
def between (c : UInt8) : Bool := c == 60 || isSpace c

/-- What ends a piece. -/
def cuts (c : UInt8) : Bool := isSpace c || c == 47

/-- What ends a name. -/
def endsName (c : UInt8) : Bool := isSpace c || isEqual c

/-- The loop that steps back to the last quote, and to `start` at most. -/
def lastQuote (quals : CString) (start : Nat) : Nat → Nat
  | 0 => 0
  | end_ + 1 =>
      if ¬ isQuote (quals.bytes.getD (end_ + 1) 0) ∧ start < end_ + 1 then
        lastQuote quals start end_
      else end_ + 1

/-- The second half of `xTEDSQualifier::Parse`: the text between the first and the last quote. -/
def parseValue (quals : CString) (nameEnd : Nat) : Checked (Option Pair) :=
  let count := quals.length
  let quote := nameEnd + ((quals.bytes.drop nameEnd).takeWhile fun c => !isQuote c).length
  let start := if quote < count then quote + 1 else quote
  let end_ := lastQuote quals start count
  if nameEnd < count ∧ quote < count ∧ end_ ≠ start then do
    Checked.access ⟨128, 0, end_ - start + 1⟩
    pure (some (quals.take nameEnd, (quals.drop start).take (end_ - start)))
  else pure none

/-- `xTEDSQualifier::Parse`: the name and the value, when they are valid. -/
def parseQualifier (quals : CString) : Checked (Option Pair) :=
  let nameEnd := (quals.bytes.takeWhile fun c => !endsName c).length
  if nameEnd < quals.length then do
    Checked.access ⟨128, 0, nameEnd + 1⟩
    parseValue quals nameEnd
  else parseValue quals nameEnd

/-! ### `xTEDSQualifierList::Parse` -/

/-- The locals of the loop, and the list. -/
structure Scan where
  i : Nat
  start : Nat
  end_ : Nat
  equalfound : Bool
  list : List Pair

/-- A piece of the text is copied and parsed, and its qualifier is added. -/
def takePiece (list : List Pair) (piece : CString) : Checked (List Pair) := do
  Checked.access ⟨256, 0, piece.length + 1⟩
  let m_qual ← parseQualifier piece
  pure (list ++ m_qual.toList)

namespace Scan

/-- The first test: a piece begins. -/
def begin_ (quallist : CString) (s : Scan) : Scan :=
  if ¬ between (quallist.bytes.getD s.i 0) ∧ s.start ≤ s.end_ then { s with start := s.i } else s

/-- The second test: the `=` of the piece, and the spaces behind it. -/
def findEqual (quallist : CString) (s : Scan) : Scan :=
  if s.end_ < s.start ∧ s.equalfound = false ∧ isEqual (quallist.bytes.getD s.i 0) then
    { s with
      equalfound := true
      i := s.i + 1 + ((quallist.bytes.drop (s.i + 1)).takeWhile isSpace).length }
  else s

/-- The third test: the end of the piece. -/
def findEnd (quallist : CString) (s : Scan) : Scan :=
  if s.equalfound ∧ cuts (quallist.bytes.getD s.i 0) then { s with end_ := s.i } else s

/-- The last test: the piece is taken. -/
def cut (quallist : CString) (s : Scan) : Checked Scan :=
  if s.start < s.end_ then do
    let list ← takePiece s.list ((quallist.drop s.start).take (s.end_ - s.start))
    pure { s with start := s.end_, equalfound := false, list := list }
  else pure s

/-- One round of the loop, and the increment of `i`. -/
def step (quallist : CString) (s : Scan) : Checked Scan := do
  let s ← (((s.begin_ quallist).findEqual quallist).findEnd quallist).cut quallist
  pure { s with i := s.i + 1 }

/-- The loop, for as many rounds. -/
def loop (quallist : CString) : Nat → Scan → Checked Scan
  | 0, s => pure s
  | rounds + 1, s =>
      if s.i < quallist.length then do
        let s ← s.step quallist
        loop quallist rounds s
      else pure s

end Scan

/-- `xTEDSQualifierList::Parse`. No round leaves `i` as it is, so `count` of them are enough. -/
def Parse (list : List Pair) (quallist : CString) : Checked Scan :=
  Scan.loop quallist quallist.length ⟨0, 0, 0, false, list⟩

/-! ### The pieces -/

/-- The pieces of a text behind its first character. -/
def pieces (l : List UInt8) : List (List UInt8) :=
  let begun := l.dropWhile between
  match _name : begun.dropWhile fun c => !isEqual c with
  | [] => []
  | e :: behind =>
      match _value : (behind.dropWhile isSpace).dropWhile fun c => !cuts c with
      | [] => []
      | _ :: rest =>
          (begun.takeWhile (fun c => !isEqual c) ++ e :: behind.takeWhile isSpace ++
            (behind.dropWhile isSpace).takeWhile fun c => !cuts c) :: pieces rest
termination_by l.length
decreasing_by
  have first := (List.dropWhile_suffix (l := l) between).length_le
  have second := (List.dropWhile_suffix (l := l.dropWhile between) fun c => !isEqual c).length_le
  have third := (List.dropWhile_suffix (l := behind) isSpace).length_le
  have fourth := (List.dropWhile_suffix (l := behind.dropWhile isSpace) fun c => !cuts c).length_le
  rw [_name, List.length_cons] at second
  rw [_value, List.length_cons] at fourth
  omega

namespace Scan

section Specs

variable {quallist : CString} {s s' : Scan} {l : List UInt8} {c : UInt8} {rounds n : Nat}

@[simp]
theorem begin_i : (s.begin_ quallist).i = s.i := by
  unfold begin_
  split <;> rfl

theorem le_findEqual : s.i ≤ (s.findEqual quallist).i := by
  unfold findEqual
  split
  · exact Nat.le_trans (Nat.le_succ _) (Nat.le_add_right _ _)
  · exact Nat.le_refl _

@[simp]
theorem findEnd_i : (s.findEnd quallist).i = s.i := by
  unfold findEnd
  split <;> rfl

theorem cut_i (ok : s.cut quallist = .ok s') : s'.i = s.i := by
  unfold cut at ok
  split at ok
  · obtain ⟨list, -, rest⟩ := Checked.bind_eq_ok.mp ok
    obtain rfl := Checked.pure_eq_ok.mp rest
    rfl
  · obtain rfl := Checked.pure_eq_ok.mp ok
    rfl

/-- Every round moves on. -/
theorem step_lt (ok : s.step quallist = .ok s') : s.i < s'.i := by
  obtain ⟨s₁, cut, rest⟩ := Checked.bind_eq_ok.mp ok
  obtain rfl := Checked.pure_eq_ok.mp rest
  have same : s₁.i = ((s.begin_ quallist).findEqual quallist).i := (cut_i cut).trans findEnd_i
  have le : s.i ≤ ((s.begin_ quallist).findEqual quallist).i := begin_i.symm ▸ le_findEqual
  show s.i < s₁.i + 1
  omega

theorem loop_done (done : quallist.length ≤ s.i) : loop quallist rounds s = pure s := by
  cases rounds with
  | zero => rfl
  | succ rounds => exact if_neg (Nat.not_lt_of_le done)

theorem loop_succ (more : s.i < quallist.length) :
    loop quallist (rounds + 1) s = s.step quallist >>= loop quallist rounds := if_pos more

/-- With enough rounds, their number does not matter. -/
theorem loop_congr {rounds' : Nat} (enough : quallist.length - s.i ≤ rounds)
    (enough' : quallist.length - s.i ≤ rounds') :
    loop quallist rounds s = loop quallist rounds' s := by
  induction rounds generalizing rounds' s with
  | zero => rw [loop_done (by omega), loop_done (by omega)]
  | succ rounds ih =>
      by_cases more : s.i < quallist.length
      · obtain ⟨fewer, rfl⟩ : ∃ fewer, rounds' = fewer + 1 := ⟨rounds' - 1, by omega⟩
        rw [loop_succ more, loop_succ more]
        cases next : s.step quallist with
        | error fault => rfl
        | ok s' =>
            have lt := step_lt next
            exact ih (by omega) (by omega)
      · rw [loop_done (Nat.le_of_not_lt more), loop_done (Nat.le_of_not_lt more)]

/-- The loop from here on. -/
def run (quallist : CString) (s : Scan) : Checked Scan := loop quallist (quallist.length - s.i) s

theorem run_done (done : quallist.length ≤ s.i) : run quallist s = pure s := loop_done done

theorem run_step (more : s.i < quallist.length) :
    run quallist s = s.step quallist >>= run quallist := by
  have rounds : quallist.length - s.i = quallist.length - s.i - 1 + 1 := by omega
  rw [run, rounds, loop_succ more]
  cases next : s.step quallist with
  | error fault => rfl
  | ok s' =>
      have lt := step_lt next
      exact loop_congr (by omega) (Nat.le_refl _)

/-- The loop comes to the end of the text. -/
theorem le_of_loop (enough : quallist.length - s.i ≤ rounds)
    (ok : loop quallist rounds s = .ok s') : quallist.length ≤ s'.i := by
  induction rounds generalizing s with
  | zero =>
      obtain rfl := Checked.pure_eq_ok.mp ok
      omega
  | succ rounds ih =>
      by_cases more : s.i < quallist.length
      · rw [loop_succ more] at ok
        obtain ⟨s₁, next, rest⟩ := Checked.bind_eq_ok.mp ok
        have lt := step_lt next
        exact ih (by omega) rest
      · rw [loop_done (Nat.le_of_not_lt more)] at ok
        obtain rfl := Checked.pure_eq_ok.mp ok
        exact Nat.le_of_not_lt more

/-! ### The phases of a piece -/

theorem getD_of_drop {i : Nat} (here : quallist.bytes.drop i = c :: l) :
    quallist.bytes.getD i 0 = c ∧ quallist.bytes.drop (i + 1) = l ∧ i < quallist.length := by
  have inside : i < quallist.bytes.length := by
    by_contra outside
    rw [List.drop_eq_nil_of_le (Nat.le_of_not_lt outside)] at here
    exact absurd here nofun
  rw [List.drop_eq_getElem_cons inside] at here
  obtain ⟨first, rest⟩ := List.cons.inj here
  exact ⟨(List.getD_eq_getElem _ _ inside).trans first, rest, inside⟩

theorem run_nil (here : quallist.bytes.drop s.i = []) : run quallist s = pure s :=
  run_done (List.drop_eq_nil_iff.mp here)

/-- Inside of a piece no other one begins. -/
theorem begin_of_open (inPiece : s.end_ < s.start) : s.begin_ quallist = s :=
  if_neg fun both => absurd both.2 (Nat.not_le_of_lt inPiece)

/-- A round without the end of a piece. -/
theorem step_of_skip (inPiece : s.start ≤ s.end_ → between c)
    (noEqual : s.end_ < s.start → s.equalfound = false → ¬ isEqual c)
    (noEnd : s.equalfound = true → ¬ cuts c) (noCut : s.end_ ≤ s.start)
    (here : quallist.bytes.getD s.i 0 = c) : s.step quallist = pure { s with i := s.i + 1 } := by
  have first : s.begin_ quallist = s := if_neg fun both => both.1 (here ▸ inPiece both.2)
  have second : s.findEqual quallist = s :=
    if_neg fun all => noEqual all.1 all.2.1 (here ▸ all.2.2)
  have third : s.findEnd quallist = s := if_neg fun both => noEnd both.1 (here ▸ both.2)
  have last : s.cut quallist = pure s := if_neg (Nat.not_lt_of_le noCut)
  rw [step, first, second, third, last]
  rfl

theorem run_skip (inPiece : s.start ≤ s.end_ → between c)
    (noEqual : s.end_ < s.start → s.equalfound = false → ¬ isEqual c)
    (noEnd : s.equalfound = true → ¬ cuts c) (noCut : s.end_ ≤ s.start)
    (here : quallist.bytes.drop s.i = c :: l) :
    run quallist s = run quallist { s with i := s.i + 1 } := by
  obtain ⟨at_i, -, more⟩ := getD_of_drop here
  rw [run_step more, step_of_skip inPiece noEqual noEnd noCut at_i]
  rfl

/-- The state behind a piece that ends here. -/
def behind (end_ : Nat) (list : List Pair) : Scan := ⟨end_ + 1, end_, end_, false, list⟩

/-- **The value of a piece**: it is taken at the first space or slash. -/
theorem run_value (found : s.equalfound = true) (inPiece : s.end_ < s.start) (begun : s.start < s.i)
    (here : quallist.bytes.drop s.i = l) : list <$> run quallist s =
      match l.dropWhile fun c => !cuts c with
      | [] => pure s.list
      | _ :: _ =>
          let end_ := s.i + (l.takeWhile fun c => !cuts c).length
          takePiece s.list ((quallist.drop s.start).take (end_ - s.start)) >>= fun list =>
            Scan.list <$> run quallist (behind end_ list) := by
  induction l generalizing s with
  | nil =>
      rw [run_nil here]
      rfl
  | cons c l ih =>
      obtain ⟨at_i, next, more⟩ := getD_of_drop here
      by_cases ends : cuts c
      · have first : s.begin_ quallist = s := begin_of_open inPiece
        have second : s.findEqual quallist = s := if_neg fun all => by
          rw [found] at all
          exact absurd all.2.1 nofun
        have third : s.findEnd quallist = { s with end_ := s.i } := if_pos ⟨found, at_i.symm ▸ ends⟩
        have last : ({ s with end_ := s.i } : Scan).cut quallist = _ := if_pos begun
        rw [run_step more, step, first, second, third, last]
        simp [ends, behind]
      · rw [run_skip (fun le => absurd le (Nat.not_le_of_lt inPiece))
          (fun _ not => absurd (found.symm.trans not) nofun) (fun _ => ends) (Nat.le_of_lt inPiece)
          here, ih (s := { s with i := s.i + 1 }) found inPiece (Nat.lt_succ_of_lt begun) next]
        have shift : ∀ k, s.i + 1 + k = s.i + (k + 1) := fun k => by omega
        simp [ends, shift]

/-- **The name of a piece**, up to its `=` and the spaces behind it. -/
theorem run_name (noEqual : s.equalfound = false) (inPiece : s.end_ < s.start)
    (begun : s.start ≤ s.i)
    (here : quallist.bytes.drop s.i = l) : list <$> run quallist s =
      match l.dropWhile fun c => !isEqual c with
      | [] => pure s.list
      | _ :: behind =>
          list <$> run quallist { s with
            equalfound := true
            i := s.i + (l.takeWhile fun c => !isEqual c).length + 1 +
              (behind.takeWhile isSpace).length } := by
  induction l generalizing s with
  | nil =>
      rw [run_nil here]
      rfl
  | cons c l ih =>
      obtain ⟨at_i, next, more⟩ := getD_of_drop here
      by_cases equal : isEqual c
      · have first : s.begin_ quallist = s := begin_of_open inPiece
        have second : s.findEqual quallist = { s with
            equalfound := true
            i := s.i + 1 + (l.takeWhile isSpace).length } := by
          rw [findEqual, if_pos ⟨inPiece, noEqual, at_i.symm ▸ equal⟩, next]
        generalize reached : ({ s with
            equalfound := true
            i := s.i + 1 + (l.takeWhile isSpace).length } : Scan) = s' at second
        have inPiece' : s'.end_ < s'.start := reached ▸ inPiece
        have found' : s'.equalfound = true := reached ▸ rfl
        have first' : s'.begin_ quallist = s' := begin_of_open inPiece'
        have second' : s'.findEqual quallist = s' := if_neg fun all => by
          rw [found'] at all
          exact absurd all.2.1 nofun
        have same : s.step quallist = s'.step quallist := by
          rw [step, step, first, second, first', second']
        have whole : list <$> run quallist s = list <$> run quallist s' := by
          rw [run_step more, same]
          by_cases more' : s'.i < quallist.length
          · rw [run_step more']
          · have outside := Nat.le_of_not_lt more'
            have nul : quallist.bytes.getD s'.i 0 = 0 :=
              List.getD_eq_default _ _ outside
            rw [run_done outside, step_of_skip (fun le => absurd le (Nat.not_le_of_lt inPiece'))
              (fun _ not => absurd (found'.symm.trans not) nofun) (fun _ => by decide)
              (Nat.le_of_lt inPiece') nul]
            show list <$> run quallist { s' with i := s'.i + 1 } = _
            rw [run_done (Nat.le_succ_of_le outside)]
            rfl
        rw [whole, ← reached]
        simp [equal]
      · rw [run_skip (fun le => absurd le (Nat.not_le_of_lt inPiece)) (fun _ _ => equal)
          (fun found => absurd (noEqual.symm.trans found) nofun) (Nat.le_of_lt inPiece) here,
          ih (s := { s with i := s.i + 1 }) noEqual inPiece (Nat.le_succ_of_le begun) next]
        have shift : ∀ k, s.i + 1 + k = s.i + (k + 1) := fun k => by omega
        simp [equal, shift]

/-- **Between two pieces**, up to the first character of the next one. -/
theorem run_between (noEqual : s.equalfound = false) (idle : s.start = s.end_)
    (before : s.end_ < s.i)
    (here : quallist.bytes.drop s.i = l) : list <$> run quallist s =
      match l.dropWhile between with
      | [] => pure s.list
      | _ :: _ =>
          list <$> run quallist { s with
            start := s.i + (l.takeWhile between).length
            i := s.i + (l.takeWhile between).length } := by
  induction l generalizing s with
  | nil =>
      rw [run_nil here]
      rfl
  | cons c l ih =>
      obtain ⟨at_i, next, more⟩ := getD_of_drop here
      by_cases separates : between c
      · rw [run_skip (fun _ => separates)
          (fun lt => absurd (idle ▸ lt) (Nat.lt_irrefl _))
          (fun found => absurd (noEqual.symm.trans found) nofun) (Nat.le_of_eq idle.symm) here,
          ih (s := { s with i := s.i + 1 }) noEqual idle (Nat.lt_succ_of_lt before) next]
        have shift : ∀ k, s.i + 1 + k = s.i + (k + 1) := fun k => by omega
        simp [separates, shift]
      · have first : s.begin_ quallist = { s with start := s.i } :=
          if_pos ⟨at_i.symm ▸ separates, Nat.le_of_eq idle⟩
        have again : ({ s with start := s.i } : Scan).begin_ quallist = { s with start := s.i } :=
          begin_of_open before
        have same : s.step quallist = ({ s with start := s.i } : Scan).step quallist := by
          rw [step, step, first, again]
        have whole : run quallist s = run quallist { s with start := s.i } := by
          rw [run_step more, same, run_step (s := { s with start := s.i }) more]
        rw [whole]
        simp [separates]

theorem drop_takeWhile {i : Nat} (p : UInt8 → Bool) (here : quallist.bytes.drop i = l) :
    quallist.bytes.drop (i + (l.takeWhile p).length) = l.dropWhile p := by
  rw [← List.drop_drop, here]
  calc l.drop (l.takeWhile p).length
      = (l.takeWhile p ++ l.dropWhile p).drop (l.takeWhile p).length := by
        rw [List.takeWhile_append_dropWhile]
    _ = l.dropWhile p := List.drop_left

/-- Up to the value of the next piece. -/
theorem run_begun (noEqual : s.equalfound = false) (idle : s.start = s.end_) (before : s.end_ < s.i)
    (here : quallist.bytes.drop s.i = l) : list <$> run quallist s =
      match (l.dropWhile between).dropWhile fun c => !isEqual c with
      | [] => pure s.list
      | _ :: behind =>
          let start := s.i + (l.takeWhile between).length
          list <$> run quallist { s with
            start := start
            equalfound := true
            i := start + ((l.dropWhile between).takeWhile fun c => !isEqual c).length + 1 +
              (behind.takeWhile isSpace).length } := by
  rw [run_between noEqual idle before here]
  have begun := drop_takeWhile between here
  split
  · rename_i none
    rw [none]
    rfl
  · rename_i c rest some
    exact run_name (s := ⟨s.i + (l.takeWhile between).length, s.i + (l.takeWhile between).length,
      s.end_, s.equalfound, s.list⟩) noEqual (Nat.lt_add_right _ before) (Nat.le_refl _) begun

/-- The pieces of a text, one after another. -/
def takePieces (list : List Pair) (ps : List (List UInt8)) : Checked (List Pair) :=
  ps.foldlM (fun list p => takePiece list (.ofBytes p)) list

/-- Where the value of the next piece is. -/
theorem drop_value {i : Nat} {e : UInt8} {value : List UInt8} (here : quallist.bytes.drop i = l)
    (name : (l.dropWhile between).dropWhile (fun c => !isEqual c) = e :: value) :
    quallist.bytes.drop (i + (l.takeWhile between).length +
      ((l.dropWhile between).takeWhile fun c => !isEqual c).length + 1 +
        (value.takeWhile isSpace).length) = value.dropWhile isSpace := by
  have equal := drop_takeWhile (fun c => !isEqual c) (drop_takeWhile between here)
  rw [name] at equal
  exact drop_takeWhile isSpace (getD_of_drop equal).2.1

/-- The text from a piece on. -/
theorem split_piece {e c : UInt8} {value rest : List UInt8}
    (name : (l.dropWhile between).dropWhile (fun c => !isEqual c) = e :: value)
    (ends : (value.dropWhile isSpace).dropWhile (fun c => !cuts c) = c :: rest) :
    l.dropWhile between = ((l.dropWhile between).takeWhile (fun c => !isEqual c) ++
      e :: value.takeWhile isSpace ++ (value.dropWhile isSpace).takeWhile fun c => !cuts c) ++
        c :: rest := by
  calc l.dropWhile between
      = (l.dropWhile between).takeWhile (fun c => !isEqual c) ++ e :: value := by
        rw [← name, List.takeWhile_append_dropWhile]
    _ = (l.dropWhile between).takeWhile (fun c => !isEqual c) ++
          e :: (value.takeWhile isSpace ++ ((value.dropWhile isSpace).takeWhile
            (fun c => !cuts c) ++ c :: rest)) := by
        rw [← ends, List.takeWhile_append_dropWhile, List.takeWhile_append_dropWhile]
    _ = _ := by simp

/-- The characters of a piece. -/
theorem bytes_piece {i : Nat} {e c : UInt8} {value rest : List UInt8}
    (here : quallist.bytes.drop i = l)
    (name : (l.dropWhile between).dropWhile (fun c => !isEqual c) = e :: value)
    (ends : (value.dropWhile isSpace).dropWhile (fun c => !cuts c) = c :: rest) {start end_ : Nat}
    (starts : start = i + (l.takeWhile between).length)
    (stops : end_ = start + ((l.dropWhile between).takeWhile fun c => !isEqual c).length + 1 +
      (value.takeWhile isSpace).length +
        ((value.dropWhile isSpace).takeWhile fun c => !cuts c).length) :
    (quallist.bytes.drop start).take (end_ - start) =
      (l.dropWhile between).takeWhile (fun c => !isEqual c) ++ e :: value.takeWhile isSpace ++
        (value.dropWhile isSpace).takeWhile fun c => !cuts c := by
  have whole := split_piece name ends
  rw [starts, drop_takeWhile between here]
  conv_lhs => rw [whole]
  apply List.take_left'
  simp only [List.length_append, List.length_cons]
  omega

/-- **The loop cuts the text into its pieces.** -/
theorem run_eq_pieces (noEqual : s.equalfound = false) (idle : s.start = s.end_)
    (before : s.end_ < s.i) (here : quallist.bytes.drop s.i = l) :
    list <$> run quallist s = takePieces s.list (pieces l) := by
  have begun := run_begun noEqual idle before here
  fun_induction pieces l generalizing s with
  | case1 l =>
      rename_i name
      rw [begun, show (l.dropWhile between).dropWhile _ = [] from name]
      rfl
  | case2 l _ e value name =>
      rename_i ends
      rw [begun, show (l.dropWhile between).dropWhile _ = e :: value from name]
      refine (run_value rfl (Nat.lt_add_right _ before) ?_ (drop_value here name)).trans ?_
      · show s.i + _ < s.i + _ + _ + 1 + _
        omega
      · rw [ends]
        rfl
  | case3 l _ e value name c rest ends =>
      rename_i ih
      rw [begun, show (l.dropWhile between).dropWhile _ = e :: value from name]
      refine (run_value rfl (Nat.lt_add_right _ before) ?_ (drop_value here name)).trans ?_
      · show s.i + _ < s.i + _ + _ + 1 + _
        omega
      · rw [ends]
        have piece := bytes_piece here name ends rfl rfl
        have next := drop_takeWhile (fun c => !cuts c) (drop_value here name)
        rw [ends] at next
        have later := (getD_of_drop next).2.1
        generalize s.i + (l.takeWhile between).length = start at piece later ⊢
        generalize start + ((l.dropWhile between).takeWhile fun c => !isEqual c).length + 1 +
          (value.takeWhile isSpace).length +
            ((value.dropWhile isSpace).takeWhile fun c => !cuts c).length = end_ at piece later ⊢
        show takePiece s.list ((quallist.drop start).take (end_ - start)) >>=
            (fun qs => list <$> run quallist (behind end_ qs)) =
          takePiece s.list (.ofBytes _) >>= fun qs => takePieces qs (pieces rest)
        have same : (quallist.drop start).take (end_ - start) = .ofBytes _ :=
          (CString.ofBytes_bytes _).symm.trans (congrArg CString.ofBytes piece)
        rw [same]
        refine congrArg _ (funext fun qs => ?_)
        exact ih rfl rfl (Nat.lt_succ_self end_) later
          (run_begun rfl rfl (Nat.lt_succ_self end_) later)

end Specs

end Scan

section Pieces

variable {quallist quals : CString} {list list' : List Pair} {l rest : List UInt8} {c : UInt8}

theorem pieces_nil : pieces [] = [] := by
  rw [pieces]
  rfl

/-- **The parser** takes the pieces behind the first character, and comes to the end of the text. -/
theorem Parse_eq (list : List Pair) (quallist : CString) :
    Scan.list <$> Parse list quallist = Scan.takePieces list (pieces (quallist.bytes.drop 1)) := by
  show Scan.list <$> Scan.run quallist ⟨0, 0, 0, false, list⟩ = _
  by_cases more : 0 < quallist.length
  · have first : (⟨0, 0, 0, false, list⟩ : Scan).begin_ quallist = ⟨0, 0, 0, false, list⟩ := by
      unfold Scan.begin_
      split <;> rfl
    have step : Scan.step quallist ⟨0, 0, 0, false, list⟩ = pure ⟨1, 0, 0, false, list⟩ := by
      rw [Scan.step, first]
      rfl
    rw [Scan.run_step more, step]
    exact Scan.run_eq_pieces rfl rfl Nat.one_pos rfl
  · have nil : quallist.bytes.drop 1 = [] :=
      List.drop_eq_nil_of_le (Nat.le_succ_of_le (Nat.le_of_not_lt more))
    rw [Scan.run_done (Nat.le_of_not_lt more), nil, pieces_nil]
    rfl

theorem le_of_Parse {s : Scan} (ok : Parse list quallist = .ok s) : quallist.length ≤ s.i :=
  Scan.le_of_loop (s := ⟨0, 0, 0, false, list⟩) (Nat.le_refl _) ok

/-! ### The qualifier of a piece -/

/-- The length of the name. -/
def nameEnd (quals : CString) : Nat := (quals.bytes.takeWhile fun c => !endsName c).length

/-- Where the first quote behind the name is. -/
def firstQuote (quals : CString) : Nat :=
  nameEnd quals + ((quals.bytes.drop (nameEnd quals)).takeWhile fun c => !isQuote c).length

/-- The end of the value. -/
def valueEnd (quals : CString) : Nat := lastQuote quals (firstQuote quals + 1) quals.length

/-- The name and the value of a piece that has both. -/
def qualifierOf (quals : CString) : Option Pair :=
  if nameEnd quals < quals.length ∧ firstQuote quals < quals.length ∧
      valueEnd quals ≠ firstQuote quals + 1 then
    some (quals.take (nameEnd quals),
      (quals.drop (firstQuote quals + 1)).take (valueEnd quals - (firstQuote quals + 1)))
  else none

/-- The arrays take the piece, its name and its value. -/
def Fits (quals : CString) : Prop :=
  quals.length ≤ 255 ∧ (nameEnd quals < quals.length → nameEnd quals ≤ 127) ∧
    ∀ q, qualifierOf quals = some q → q.2.length ≤ 127

theorem lastQuote_le (start n : Nat) : lastQuote quals start n ≤ n := by
  induction n with
  | zero => exact Nat.le_refl 0
  | succ n ih =>
      rw [lastQuote]
      split
      · exact Nat.le_succ_of_le ih
      · exact Nat.le_refl _

/-- Where the search for the last quote stops. -/
theorem lastQuote_spec (quals : CString) {start n : Nat} (le : start ≤ n) :
    start ≤ lastQuote quals start n ∧
    (lastQuote quals start n ≠ start →
      isQuote (quals.bytes.getD (lastQuote quals start n) 0)) := by
  induction n with
  | zero => exact ⟨le, fun ne => absurd (Nat.le_zero.mp le).symm ne⟩
  | succ n ih =>
      rw [lastQuote]
      split
      · rename_i both
        exact ih (Nat.le_of_lt_succ both.2)
      · rename_i either
        refine ⟨le, fun ne => ?_⟩
        by_contra not
        exact either ⟨not, Nat.lt_of_le_of_ne le ne.symm⟩

theorem valueEnd_le : valueEnd quals ≤ quals.length := lastQuote_le _ _

theorem length_value : ((quals.drop (firstQuote quals + 1)).take
    (valueEnd quals - (firstQuote quals + 1))).length =
      valueEnd quals - (firstQuote quals + 1) := by
  have le : valueEnd quals ≤ quals.length := valueEnd_le
  show (List.take _ (List.drop _ quals.bytes)).length = _
  rw [List.length_take, List.length_drop]
  show min _ (quals.length - _) = _
  omega

theorem parseValue_eq_ok {q : Option Pair} : parseValue quals (nameEnd quals) = .ok q ↔
    (∀ q, qualifierOf quals = some q → q.2.length ≤ 127) ∧ q = qualifierOf quals := by
  have whole : ∀ start, start = (if firstQuote quals < quals.length then firstQuote quals + 1
      else firstQuote quals) → parseValue quals (nameEnd quals) =
      if nameEnd quals < quals.length ∧ firstQuote quals < quals.length ∧
          lastQuote quals start quals.length ≠ start then
        Checked.access ⟨128, 0, lastQuote quals start quals.length - start + 1⟩ >>= fun _ =>
          pure (some (quals.take (nameEnd quals),
            (quals.drop start).take (lastQuote quals start quals.length - start)))
      else pure none := by
    rintro _ rfl
    rfl
  by_cases valid : nameEnd quals < quals.length ∧ firstQuote quals < quals.length ∧
      valueEnd quals ≠ firstQuote quals + 1
  · have value : qualifierOf quals = some _ := if_pos valid
    rw [whole _ (if_pos valid.2.1).symm, ← valueEnd, if_pos valid, Checked.bind_eq_ok]
    simp only [Checked.access_eq_ok, Checked.pure_eq_ok, exists_and_left, exists_const]
    rw [value]
    refine and_congr_left fun _ => ?_
    simp only [Option.some.injEq, forall_eq', length_value, Access.Inside]
    omega
  · have value : qualifierOf quals = none := if_neg valid
    rw [whole _ rfl, if_neg, Checked.pure_eq_ok, value]
    · exact (and_iff_right (by rintro q ⟨⟩)).symm
    · rintro ⟨name, quote, ne⟩
      rw [if_pos quote] at ne
      exact valid ⟨name, quote, ne⟩

theorem parseQualifier_eq_ok {q : Option Pair} : parseQualifier quals = .ok q ↔
    (nameEnd quals < quals.length → nameEnd quals ≤ 127) ∧
      (∀ q, qualifierOf quals = some q → q.2.length ≤ 127) ∧ q = qualifierOf quals := by
  have whole : parseQualifier quals =
      if nameEnd quals < quals.length then
        Checked.access ⟨128, 0, nameEnd quals + 1⟩ >>= fun _ => parseValue quals (nameEnd quals)
      else parseValue quals (nameEnd quals) := rfl
  rw [whole]
  split
  · rename_i lt
    rw [Checked.bind_eq_ok]
    simp only [Checked.access_eq_ok, parseValue_eq_ok, exists_and_left, exists_const, lt,
      true_imp_iff, Access.Inside]
    refine and_congr_left fun _ => ?_
    omega
  · rename_i not
    rw [parseValue_eq_ok]
    exact (and_iff_right fun lt => absurd lt not).symm

theorem takePiece_eq_ok : takePiece list quals = .ok list' ↔
    Fits quals ∧ list' = list ++ (qualifierOf quals).toList := by
  unfold takePiece Fits
  simp only [Checked.bind_eq_ok, Checked.access_eq_ok, parseQualifier_eq_ok, Checked.pure_eq_ok,
    exists_and_left, exists_const, Access.Inside]
  constructor
  · rintro ⟨short, q, ⟨name, value, rfl⟩, rfl⟩
    exact ⟨⟨by omega, name, value⟩, rfl⟩
  · rintro ⟨⟨short, name, value⟩, rfl⟩
    exact ⟨by omega, _, ⟨name, value, rfl⟩, rfl⟩

/-- The qualifiers of the pieces are added, when the arrays take all of them. -/
theorem takePieces_eq_ok {ps : List (List UInt8)} : Scan.takePieces list ps = .ok list' ↔
    (∀ p ∈ ps, Fits (.ofBytes p)) ∧
      list' = list ++ ps.filterMap fun p => qualifierOf (.ofBytes p) := by
  induction ps generalizing list with
  | nil =>
      show pure list = Except.ok list' ↔ _
      simp
  | cons p ps ih =>
      show takePiece list (.ofBytes p) >>= (fun list => Scan.takePieces list ps) =
        Except.ok list' ↔ _
      simp only [Checked.bind_eq_ok, takePiece_eq_ok, ih, List.forall_mem_cons,
        List.filterMap_cons]
      cases qualifierOf (.ofBytes p) with
      | none => simp [and_assoc]
      | some q => simp [and_assoc]

/-- **What is added to the list.** -/
theorem Parse_list_iff : (∃ s, Parse list quallist = .ok s ∧ s.list = list') ↔
    (∀ p ∈ pieces (quallist.bytes.drop 1), Fits (.ofBytes p)) ∧
      list' = list ++ (pieces (quallist.bytes.drop 1)).filterMap fun p =>
        qualifierOf (.ofBytes p) := by
  rw [← takePieces_eq_ok, ← Parse_eq]
  cases Parse list quallist with
  | error fault => exact iff_of_false (fun ⟨_, ok, _⟩ => nomatch ok) nofun
  | ok s =>
      constructor
      · rintro ⟨_, ok, rfl⟩
        cases ok
        rfl
      · intro ok
        exact ⟨s, rfl, Except.ok.inj ok⟩

/-! ### Quotes -/

/-- The first character that a search stops at. -/
theorem not_of_dropWhile {p : UInt8 → Bool} (stops : l.dropWhile p = c :: rest) : p c = false := by
  have not := List.head?_dropWhile_not p l
  rw [stops] at not
  exact not

/-- A piece that is a qualifier has two quotes. -/
theorem two_quotes {q : Pair} (valid : qualifierOf quals = some q) :
    2 ≤ quals.bytes.countP isQuote := by
  obtain ⟨-, quote, ne⟩ : nameEnd quals < quals.length ∧ firstQuote quals < quals.length ∧
      valueEnd quals ≠ firstQuote quals + 1 := by
    by_contra not
    exact absurd ((if_neg not).symm.trans valid) nofun
  have behind := Scan.drop_takeWhile (fun c => !isQuote c)
    (rfl : quals.bytes.drop (nameEnd quals) = _)
  rw [← firstQuote, List.drop_eq_getElem_cons quote] at behind
  have first := not_of_dropWhile behind.symm
  obtain ⟨le, last⟩ := lastQuote_spec quals (Nat.succ_le_of_lt quote)
  have last := last ne
  have inside : valueEnd quals < quals.bytes.length := by
    by_contra outside
    rw [← valueEnd, List.getD_eq_default _ _ (Nat.le_of_not_lt outside)] at last
    exact absurd last (by decide)
  rw [← valueEnd, List.getD_eq_getElem _ _ inside] at last
  have mem : quals.bytes[valueEnd quals] ∈ quals.bytes.drop (firstQuote quals + 1) := by
    rw [← valueEnd] at le
    apply List.mem_of_getElem? (i := valueEnd quals - (firstQuote quals + 1))
    rw [List.getElem?_drop, Nat.add_sub_cancel' le]
    exact List.getElem?_eq_getElem inside
  calc 2 ≤ (quals.bytes.drop (firstQuote quals)).countP isQuote := by
        rw [List.drop_eq_getElem_cons quote, List.countP_cons_of_pos (by simpa using first)]
        exact Nat.succ_le_succ (List.countP_pos_iff.mpr ⟨_, mem, last⟩)
    _ ≤ quals.bytes.countP isQuote := (List.drop_sublist _ _).countP_le

/-- The pieces do not overlap. -/
theorem sum_countP_pieces_le (p : UInt8 → Bool) (l : List UInt8) :
    ((pieces l).map (List.countP p)).sum ≤ l.countP p := by
  fun_induction pieces l with
  | case1 => exact Nat.zero_le _
  | case2 => exact Nat.zero_le _
  | case3 l _ e value name c rest ends =>
      rename_i ih
      rw [List.map_cons, List.sum_cons]
      calc _ ≤ _ + (c :: rest).countP p :=
            Nat.add_le_add_left (ih.trans (List.sublist_cons_self c rest).countP_le) _
        _ = (l.dropWhile between).countP p :=
            List.countP_append.symm.trans (congrArg _ (Scan.split_piece name ends).symm)
        _ ≤ l.countP p := (List.dropWhile_sublist between).countP_le

/-! ### List texts -/

/-- `name="value"`. -/
def token (q : Pair) : List UInt8 := q.1.bytes ++ 61 :: 34 :: (q.2.bytes ++ [34])

/-- The qualifiers of a list, with a space between two of them, and its end. -/
def tokens (q : Pair) : List Pair → List UInt8
  | [] => token q ++ [47, 62]
  | r :: qs => token q ++ 32 :: tokens r qs

/-- `<n1="v1" ... nk="vk"/>`. -/
def listText (q : Pair) (qs : List Pair) : List UInt8 := 60 :: tokens q qs

/-- A name and a value that a list text can have. -/
structure WellFormed (q : Pair) : Prop where
  named : q.1.bytes ≠ []
  name : ∀ c ∈ q.1.bytes, ¬ isSpace c ∧ ¬ isEqual c ∧ ¬ isQuote c ∧ c ≠ 60 ∧ c ≠ 47
  shortName : q.1.length ≤ 127
  valued : q.2.bytes ≠ []
  value : ∀ c ∈ q.2.bytes, ¬ isQuote c
  shortValue : q.2.length ≤ 127

theorem pieces_cons {e : UInt8} {value : List UInt8}
    (name : (l.dropWhile between).dropWhile (fun c => !isEqual c) = e :: value)
    (ends : (value.dropWhile isSpace).dropWhile (fun c => !cuts c) = c :: rest) :
    pieces l = ((l.dropWhile between).takeWhile (fun c => !isEqual c) ++
      e :: value.takeWhile isSpace ++ (value.dropWhile isSpace).takeWhile fun c => !cuts c) ::
        pieces rest := by
  rw [pieces]
  split
  · rename_i none
    exact absurd (name.symm.trans none) nofun
  · rename_i e' value' name'
    obtain ⟨rfl, rfl⟩ := List.cons.inj (name.symm.trans name')
    split
    · rename_i none
      exact absurd (ends.symm.trans none) nofun
    · rename_i c' rest' ends'
      obtain ⟨rfl, rfl⟩ := List.cons.inj (ends.symm.trans ends')
      rfl

theorem takeWhile_cons_append {p : UInt8 → Bool} {kept : List UInt8} (all : ∀ x ∈ kept, p x)
    (stop : p c = false) (rest : List UInt8) : (kept ++ c :: rest).takeWhile p = kept ∧
      (kept ++ c :: rest).dropWhile p = c :: rest := by
  constructor
  · rw [List.takeWhile_append_of_pos all, List.takeWhile_cons_of_neg (by simp [stop]),
      List.append_nil]
  · rw [List.dropWhile_append_of_pos all, List.dropWhile_cons_of_neg (by simp [stop])]

/-- **The next piece**, when its name and its text are not cut. -/
theorem pieces_append {name text : List UInt8} {first : UInt8} (plain : ∀ c ∈ first :: name,
      ¬ between c ∧ ¬ isEqual c) {quote : UInt8} (quoted : ∀ c ∈ quote :: text, ¬ cuts c)
    (ends : cuts c) : pieces (first :: name ++ 61 :: quote :: text ++ c :: rest) =
      (first :: name ++ 61 :: quote :: text) :: pieces rest := by
  have reshaped : first :: name ++ 61 :: quote :: text ++ c :: rest =
      first :: name ++ 61 :: (quote :: text ++ c :: rest) := by simp
  have begun : (first :: name ++ 61 :: (quote :: text ++ c :: rest)).dropWhile between =
      first :: name ++ 61 :: (quote :: text ++ c :: rest) :=
    List.dropWhile_cons_of_neg (plain first List.mem_cons_self).1
  have equal : isEqual 61 = true := by decide
  obtain ⟨nameIs, nameEnds⟩ := takeWhile_cons_append (p := fun c => !isEqual c)
    (c := 61) (fun x mem => by simpa using (plain x mem).2) (by simp [equal])
    (quote :: text ++ c :: rest)
  have noSpace : ¬ isSpace quote := fun space =>
    quoted quote List.mem_cons_self (by simp [cuts, space])
  obtain ⟨textIs, textEnds⟩ := takeWhile_cons_append (p := fun c => !cuts c)
    (c := c) (fun x mem => by simpa using quoted x mem) (by simp [ends]) rest
  have unspaced : (quote :: text ++ c :: rest).dropWhile isSpace = quote :: text ++ c :: rest :=
    List.dropWhile_cons_of_neg noSpace
  have none : (quote :: text ++ c :: rest).takeWhile isSpace = [] :=
    List.takeWhile_cons_of_neg noSpace
  have next := pieces_cons ((congrArg _ begun).trans nameEnds)
    ((congrArg (List.dropWhile fun c => !cuts c) unspaced).trans textEnds)
  rw [reshaped, next, begun, nameIs, none, unspaced, textIs]
  simp

/-! ### The pieces of a list text -/

/-- No value of the list is cut. -/
def Whole (qs : List Pair) : Prop := ∀ q ∈ qs, ∀ c ∈ q.2.bytes, ¬ cuts c

theorem cuts_iff : cuts c ↔ c = 32 ∨ c = 47 := by simp [cuts, isSpace]

theorem WellFormed.plain {q : Pair} (wf : WellFormed q) : ∀ c ∈ q.1.bytes,
    ¬ between c ∧ ¬ isEqual c := by
  intro c mem
  obtain ⟨noSpace, noEqual, -, ne, -⟩ := wf.name c mem
  exact ⟨by simp [between, noSpace, ne], noEqual⟩

/-- A qualifier whose text up to `c` has no separator gives a piece. -/
theorem pieces_qualifier {q : Pair} (wf : WellFormed q) {text : List UInt8}
    (uncut : ∀ c ∈ text, ¬ cuts c) (ends : cuts c) :
    pieces (q.1.bytes ++ 61 :: 34 :: text ++ c :: rest) =
      (q.1.bytes ++ 61 :: 34 :: text) :: pieces rest := by
  have plain := wf.plain
  have named := wf.named
  generalize q.1.bytes = bytes at plain named
  cases bytes with
  | nil => exact absurd rfl named
  | cons first name =>
      apply pieces_append plain _ ends
      intro x mem
      rcases List.mem_cons.mp mem with rfl | mem
      · exact fun cut => by simp [cuts_iff] at cut
      · exact uncut x mem

theorem pieces_token {q : Pair} (wf : WellFormed q) (uncut : ∀ c ∈ q.2.bytes, ¬ cuts c)
    (ends : cuts c) : pieces (token q ++ c :: rest) = token q :: pieces rest := by
  apply pieces_qualifier wf _ ends
  intro x mem
  rcases List.mem_append.mp mem with mem | mem
  · exact uncut x mem
  · obtain rfl := List.mem_singleton.mp mem
    exact fun cut => by simp [cuts_iff] at cut

theorem pieces_close : pieces [62] = [] := by
  rw [pieces]
  rfl

theorem space_cuts : cuts 32 := cuts_iff.mpr (Or.inl rfl)

theorem slash_cuts : cuts 47 := cuts_iff.mpr (Or.inr rfl)

/-- **The pieces of a list** are its qualifiers, when no value is cut. -/
theorem pieces_tokens {q : Pair} {qs : List Pair} (wf : ∀ p ∈ q :: qs, WellFormed p)
    (whole : Whole (q :: qs)) : pieces (tokens q qs) = (q :: qs).map token := by
  induction qs generalizing q with
  | nil =>
      have first := wf q List.mem_cons_self
      rw [tokens, pieces_token first (whole q List.mem_cons_self) slash_cuts, pieces_close]
      rfl
  | cons r qs ih =>
      have first := wf q List.mem_cons_self
      have later := ih (fun p mem => wf p (List.mem_cons_of_mem q mem))
        (fun p mem => whole p (List.mem_cons_of_mem q mem))
      rw [tokens, pieces_token first (whole q List.mem_cons_self) space_cuts, later]
      rfl

/-! ### The qualifier of a token -/

theorem bytes_token (q : Pair) : (CString.ofBytes (token q)).bytes = token q := by
  apply List.takeWhile_eq_self_iff.mpr
  intro c mem
  apply decide_eq_true
  rintro rfl
  rcases List.mem_append.mp mem with name | text
  · exact q.1.nul_notMem name
  · simp only [List.mem_cons, List.mem_append, List.not_mem_nil, or_false] at text
    rcases text with bad | bad | value | bad
    · exact absurd bad (by decide)
    · exact absurd bad (by decide)
    · exact q.2.nul_notMem value
    · exact absurd bad (by decide)

theorem length_token (q : Pair) : (token q).length = q.1.length + (q.2.length + 3) := by
  simp [token, CString.length]

theorem drop_token (q : Pair) : (token q).drop (q.1.length + 2) = q.2.bytes ++ [34] := by
  have split : token q = (q.1.bytes ++ [61, 34]) ++ (q.2.bytes ++ [34]) := by simp [token]
  rw [split]
  exact List.drop_left' (by simp [CString.length])

theorem WellFormed.nameEnd {q : Pair} (wf : WellFormed q) :
    XTEDSQualifierList.nameEnd (.ofBytes (token q)) = q.1.length := by
  have named := wf.name
  have stop : (!endsName 61) = false := rfl
  have name : ((token q).takeWhile fun c => !endsName c) = q.1.bytes :=
    (takeWhile_cons_append (fun c mem => by simp [endsName, named c mem]) stop _).1
  rw [XTEDSQualifierList.nameEnd, bytes_token, name]
  rfl

theorem WellFormed.firstQuote {q : Pair} (wf : WellFormed q) :
    XTEDSQualifierList.firstQuote (.ofBytes (token q)) = q.1.length + 1 := by
  have behind : (token q).drop q.1.length = 61 :: 34 :: (q.2.bytes ++ [34]) := List.drop_left
  rw [XTEDSQualifierList.firstQuote, wf.nameEnd, bytes_token, behind]
  rfl

/-- A text that ends with a quote. -/
theorem lastQuote_last {start n : Nat} (lt : start < n + 2)
    (none : ¬ isQuote (quals.bytes.getD (n + 2) 0))
    (last : isQuote (quals.bytes.getD (n + 1) 0)) : lastQuote quals start (n + 2) = n + 1 := by
  rw [lastQuote, if_pos ⟨none, lt⟩, lastQuote, if_neg fun both => both.1 last]

theorem WellFormed.valueEnd {q : Pair} (wf : WellFormed q) :
    XTEDSQualifierList.valueEnd (.ofBytes (token q)) = q.1.length + 2 + q.2.length := by
  have whole : (CString.ofBytes (token q)).length = q.1.length + q.2.length + 1 + 2 := by
    rw [CString.length, bytes_token, length_token]
    omega
  have last : (token q).getD (q.1.length + q.2.length + 1 + 1) 0 = 34 := by
    have offset : q.1.length + q.2.length + 1 + 1 = q.1.length + 2 + q.2.length := by omega
    rw [List.getD_eq_getElem?_getD, offset, ← List.getElem?_drop, drop_token]
    simp [CString.length]
  rw [XTEDSQualifierList.valueEnd, wf.firstQuote, whole, lastQuote_last]
  · omega
  · omega
  · rw [bytes_token, List.getD_eq_default _ _ (by rw [length_token]; omega)]
    exact Bool.false_ne_true
  · rw [bytes_token, last]
    rfl

/-- **A token** is read back. -/
theorem qualifierOf_token {q : Pair} (wf : WellFormed q) :
    qualifierOf (.ofBytes (token q)) = some q := by
  have valued : 0 < q.2.length := List.length_pos_iff.mpr wf.valued
  have whole : (CString.ofBytes (token q)).length = q.1.length + (q.2.length + 3) := by
    rw [CString.length, bytes_token, length_token]
  have name : (CString.ofBytes (token q)).take q.1.length = q.1 :=
    CString.ext ((congrArg _ (bytes_token q)).trans List.take_left)
  have value : ((CString.ofBytes (token q)).drop (q.1.length + 2)).take q.2.length = q.2 := by
    apply CString.ext
    show ((CString.ofBytes (token q)).bytes.drop _).take _ = _
    rw [bytes_token, drop_token]
    exact List.take_left
  have found : XTEDSQualifierList.nameEnd (.ofBytes (token q)) <
    (CString.ofBytes (token q)).length ∧
      XTEDSQualifierList.firstQuote (.ofBytes (token q)) < (CString.ofBytes (token q)).length ∧
        XTEDSQualifierList.valueEnd (.ofBytes (token q)) ≠
          XTEDSQualifierList.firstQuote (.ofBytes (token q)) + 1 := by
    rw [wf.nameEnd, wf.firstQuote, wf.valueEnd, whole]
    omega
  rw [qualifierOf, if_pos found, wf.nameEnd, wf.firstQuote, wf.valueEnd]
  have width : q.1.length + 2 + q.2.length - (q.1.length + 1 + 1) = q.2.length := by omega
  rw [width, name, value]

/-! ### Quotes of a list -/

theorem countP_eq_zero_of_not {l : List UInt8} (none : ∀ c ∈ l, ¬ isQuote c) :
    l.countP isQuote = 0 := List.countP_eq_zero.mpr none

theorem WellFormed.countP_text {q : Pair} (wf : WellFormed q) {text : List UInt8} :
    (q.1.bytes ++ 61 :: 34 :: text).countP isQuote = 1 + text.countP isQuote := by
  have name := countP_eq_zero_of_not fun c mem => (wf.name c mem).2.2.1
  rw [List.countP_append, name, Nat.zero_add, List.countP_cons_of_neg (by decide),
    List.countP_cons_of_pos (by decide), Nat.add_comm]

theorem WellFormed.countP_token {q : Pair} (wf : WellFormed q) :
    (token q).countP isQuote = 2 := by
  rw [token, wf.countP_text, List.countP_append, countP_eq_zero_of_not wf.value]
  rfl

theorem countP_tokens {q : Pair} {qs : List Pair} (wf : ∀ p ∈ q :: qs, WellFormed p) :
    (tokens q qs).countP isQuote = 2 * (q :: qs).length := by
  induction qs generalizing q with
  | nil =>
      rw [tokens, List.countP_append, (wf q List.mem_cons_self).countP_token]
      rfl
  | cons r qs ih =>
      have later := ih fun p mem => wf p (List.mem_cons_of_mem q mem)
      rw [tokens, List.countP_append, (wf q List.mem_cons_self).countP_token,
        List.countP_cons_of_neg (by decide), later]
      simp only [List.length_cons]
      omega

/-- **A value that is cut** leaves a piece with its first quote alone. -/
theorem exists_one_quote {q : Pair} {qs : List Pair} (wf : ∀ p ∈ q :: qs, WellFormed p)
    (cut : ¬ Whole (q :: qs)) : ∃ p ∈ pieces (tokens q qs), p.countP isQuote = 1 := by
  have here : ∀ {q : Pair} (tail : List UInt8), WellFormed q → ¬ (∀ c ∈ q.2.bytes, ¬ cuts c) →
      ∃ p ∈ pieces (token q ++ tail), p.countP isQuote = 1 := by
    intro q tail wf cut
    obtain ⟨c, text, split⟩ : ∃ c text, (q.2.bytes.dropWhile fun c => !cuts c) = c :: text := by
      cases rest : q.2.bytes.dropWhile fun c => !cuts c with
      | nil =>
          have all := List.dropWhile_eq_nil_iff.mp rest
          exact absurd (fun c mem => by simpa using all c mem) cut
      | cons c text => exact ⟨c, text, rfl⟩
    have ends : cuts c := by simpa using not_of_dropWhile split
    have uncut : ∀ x ∈ q.2.bytes.takeWhile (fun c => !cuts c), ¬ cuts x :=
      fun x mem => by simpa using List.mem_takeWhile_imp mem
    have none := countP_eq_zero_of_not fun x mem =>
      wf.value x ((List.takeWhile_prefix fun c => !cuts c).subset mem)
    have reshaped : token q ++ tail = q.1.bytes ++ 61 :: 34 ::
        q.2.bytes.takeWhile (fun c => !cuts c) ++ c :: (text ++ 34 :: tail) := by
      have value := List.takeWhile_append_dropWhile (p := fun c => !cuts c) (l := q.2.bytes)
      rw [split] at value
      conv_lhs => rw [token, ← value]
      simp
    rw [reshaped, pieces_qualifier wf uncut ends]
    refine ⟨_, List.mem_cons_self, ?_⟩
    rw [wf.countP_text, none]
  induction qs generalizing q with
  | nil =>
      apply here _ (wf q List.mem_cons_self)
      intro uncut
      exact cut fun p mem => List.mem_singleton.mp mem ▸ uncut
  | cons r qs ih =>
      by_cases uncut : ∀ c ∈ q.2.bytes, ¬ cuts c
      · have later : ¬ Whole (r :: qs) := fun whole => cut (List.forall_mem_cons.mpr ⟨uncut, whole⟩)
        obtain ⟨p, mem, one⟩ := ih (fun p mem => wf p (List.mem_cons_of_mem q mem)) later
        rw [tokens, pieces_token (wf q List.mem_cons_self) uncut space_cuts]
        exact ⟨p, List.mem_cons_of_mem _ mem, one⟩
      · exact here _ (wf q List.mem_cons_self) uncut

/-- Two quotes a qualifier. -/
theorem two_mul_length_le (ps : List (List UInt8)) :
    2 * (ps.filterMap fun p => qualifierOf (.ofBytes p)).length ≤
      (ps.map (List.countP isQuote)).sum := by
  induction ps with
  | nil => exact Nat.le_refl _
  | cons p ps ih =>
      rw [List.filterMap_cons, List.map_cons, List.sum_cons]
      cases valid : qualifierOf (.ofBytes p) with
      | none => exact Nat.le_add_left_of_le ih
      | some q =>
          have two := two_quotes valid
          have sub : (CString.ofBytes p).bytes.countP isQuote ≤ p.countP isQuote :=
            (List.takeWhile_sublist _).countP_le
          rw [List.length_cons]
          omega

/-- A piece with one quote is lost. -/
theorem length_lt_of_one {ps : List (List UInt8)} (one : ∃ p ∈ ps, p.countP isQuote = 1) :
    2 * (ps.filterMap fun p => qualifierOf (.ofBytes p)).length <
      (ps.map (List.countP isQuote)).sum := by
  obtain ⟨p, mem, one⟩ := one
  obtain ⟨first, later, rfl⟩ := List.append_of_mem mem
  have lost : qualifierOf (.ofBytes p) = none := by
    cases valid : qualifierOf (.ofBytes p) with
    | none => rfl
    | some q =>
        have two := two_quotes valid
        have sub : (CString.ofBytes p).bytes.countP isQuote ≤ p.countP isQuote :=
          (List.takeWhile_sublist _).countP_le
        omega
  have before := two_mul_length_le first
  have after := two_mul_length_le later
  rw [List.filterMap_append,
    List.filterMap_cons_none (f := fun p => qualifierOf (.ofBytes p)) lost, List.length_append,
      List.map_append,
    List.sum_append, List.map_cons, List.sum_cons, one]
  omega

/-! ### What the parser adds for a list -/

/-- **The list that is added** is the list of the text when no value of it is cut. -/
theorem filterMap_pieces_iff {q : Pair} {qs : List Pair} (wf : ∀ p ∈ q :: qs, WellFormed p) :
    ((pieces (tokens q qs)).filterMap fun p => qualifierOf (.ofBytes p)) = q :: qs ↔
      Whole (q :: qs) := by
  constructor
  · intro same
    by_contra cut
    have lost := length_lt_of_one (exists_one_quote wf cut)
    have quotes := sum_countP_pieces_le isQuote (tokens q qs)
    rw [countP_tokens wf] at quotes
    rw [same] at lost
    omega
  · intro whole
    rw [pieces_tokens wf whole, List.filterMap_map]
    have each : ∀ ps : List Pair, (∀ p ∈ ps, WellFormed p) →
        ps.filterMap ((fun p => qualifierOf (.ofBytes p)) ∘ token) = ps := by
      intro ps wf
      induction ps with
      | nil => rfl
      | cons p ps ih =>
          have first : ((fun p => qualifierOf (.ofBytes p)) ∘ token) p = some p :=
            qualifierOf_token (wf p List.mem_cons_self)
          rw [List.filterMap_cons, first, ih fun p mem => wf p (List.mem_cons_of_mem _ mem)]
    exact each _ wf

/-- What the text of a request is promised: the parser comes to its end with every access inside
of its array, and a list of qualifiers is added as it stands. -/
def Reads (quallist : CString) : Prop :=
  ∀ list, ∃ s, Parse list quallist = .ok s ∧ quallist.length ≤ s.i ∧
    ∀ q qs, (∀ p ∈ q :: qs, WellFormed p) → quallist.bytes = listText q qs →
      s.list = list ++ q :: qs

/-- **Exactly the texts** whose pieces fit into the arrays are read without an access outside of
them, and exactly the lists without a space or a slash in a value are added as they stand. -/
theorem reads_iff (quallist : CString) : Reads quallist ↔
    (∀ p ∈ pieces (quallist.bytes.drop 1), Fits (.ofBytes p)) ∧
      ∀ q qs, (∀ p ∈ q :: qs, WellFormed p) → quallist.bytes = listText q qs →
        Whole (q :: qs) := by
  constructor
  · intro reads
    obtain ⟨s, ok, -, same⟩ := reads []
    obtain ⟨fits, added⟩ := Parse_list_iff.mp ⟨s, ok, rfl⟩
    refine ⟨fits, fun q qs wf text => ?_⟩
    have qualifiers := same q qs wf text
    rw [added, text] at qualifiers
    exact (filterMap_pieces_iff wf).mp qualifiers
  · rintro ⟨fits, whole⟩ list
    obtain ⟨s, ok, added⟩ := Parse_list_iff.mpr ⟨fits, rfl⟩
    refine ⟨s, ok, le_of_Parse ok, fun q qs wf text => ?_⟩
    have qualifiers := (filterMap_pieces_iff wf).mpr (whole q qs wf text)
    rw [added, text]
    exact congrArg _ qualifiers

/-- A value of two words. -/
def twoWords : Pair := (.ofString "n", .ofString "a b")

theorem wellFormed_twoWords : WellFormed twoWords := by
  have name : twoWords.1.bytes = [110] := rfl
  have value : twoWords.2.bytes = [97, 32, 98] := rfl
  constructor
  · exact List.cons_ne_nil _ _
  · rw [name]
    exact List.forall_mem_singleton.mpr (by decide)
  · exact Nat.le_of_ble_eq_true rfl
  · exact List.cons_ne_nil _ _
  · rw [value]
    simp [isQuote]
  · exact Nat.le_of_ble_eq_true rfl

/-- **Two words**: nothing is added for `<n="a b"/>`. -/
theorem twoWords_not_read : ¬ Reads (.ofString "<n=\"a b\"/>") := by
  intro reads
  obtain ⟨s, ok, -, same⟩ := reads []
  have wf : ∀ p ∈ [twoWords], WellFormed p :=
    fun p mem => List.mem_singleton.mp mem ▸ wellFormed_twoWords
  have added := same twoWords [] wf (by decide)
  have nothing : (Parse [] (.ofString "<n=\"a b\"/>")).map Scan.list = .ok [] := by rfl
  rw [ok] at nothing
  have empty : s.list = [] := Except.ok.inj nothing
  rw [empty] at added
  exact absurd added nofun

end Pieces

end Sdm.XTEDSQualifierList
