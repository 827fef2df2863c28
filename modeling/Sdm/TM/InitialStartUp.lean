import Sdm.Lib.Checked
import Sdm.Lib.Occurrence
import Sdm.Lib.Scanner
import Sdm.TM.TaskList

/-!
`InitialStartUp`: the tasks of the task list file.

The file is scanned once for keywords. Each keyword moves the index, and sets flags and values that
are posted as a task once the four that a task needs were met and a `>` closes the tag. The name of
the task has an array of its own at each stage, and none is terminated that is as long as its array.

* `moves_isOk_iff`: which keywords can be moved past without leaving an array.
* `take_refines`: what is posted are the elements that a collector of attributes completes.
* `name_fits_iff`: which name has a terminator in its array.
* `startUp_ends_iff`: the run comes to its end exactly where it can move past all that it meets, and
  the names that it posts are shorter than their array.
* `startUp_posts`: each is posted with the attributes of its own element.
-/

namespace Sdm.InitialStartUp

open Lib

/-- `&file[i]`, up to the terminator. -/
abbrev Text := List UInt8

/-! ### What the scan meets -/

/-- The attributes that are looked for. -/
inductive Attribute where
  | pathOnSpacecraft | architecture | memoryMinimum | operatingSystem | preferredPMNodeID
  | scheduleTimeout | executionMode
  deriving DecidableEq

def word (s : String) : Text := (CString.ofString s).bytes

def Attribute.keyword : Attribute → Text
  | pathOnSpacecraft => word "pathOnSpacecraft"
  | architecture => word "architecture"
  | memoryMinimum => word "memoryMinimum"
  | operatingSystem => word "operatingSystem"
  | preferredPMNodeID => word "preferredPMNodeID"
  | scheduleTimeout => word "scheduleTimeout"
  | executionMode => word "executionMode"

/-- What a stage of the loop meets, with the text behind it. The character that closes a tag and
the end of a round do not move the index. -/
inductive Event where
  | comment (behind : Text)
  | Application (behind : Text)
  | attribute (a : Attribute) (behind : Text)
  | close (here : Text)
  | post (here : Text)

def Event.behind : Event → Text
  | .comment t | .Application t | .attribute _ t | .close t | .post t => t

/-- `strncmp` with a keyword. -/
def startsWith (keyword : Text) (met : Text → Event) (t : Text) : Option Event :=
  if keyword.isPrefixOf t then some (met (t.drop keyword.length)) else none

def meets (a : Attribute) : Text → Option Event := startsWith a.keyword (.attribute a)

/-- `file[i] == '>'`. -/
def closes (t : Text) : Option Event := if t.head? = some 62 then some (.close t) else none

/-! ### Where the scan goes on -/

def isQuote (c : UInt8) : Bool := c == 34

/-- `while (file[i] != '"')`, which returns from the function at the terminator. -/
def toQuote : Text → Option Text
  | [] => none
  | c :: rest => if isQuote c then some (c :: rest) else toQuote rest

/-- The same loop where it does not look for the terminator: it goes on behind it. -/
def toQuoteUnchecked : Text → Checked Text
  | [] => do
      Checked.access ⟨1, 1, 1⟩
      return []
  | c :: rest => if isQuote c then return c :: rest else toQuoteUnchecked rest

/-- The text behind the first quote, of what follows a keyword and one more character. -/
def opened (behind : Text) : Option Text := (toQuote (behind.drop 1)).map (·.drop 1)

/-- What stands before the next quote. -/
def value (t : Text) : Text := t.takeWhile (!isQuote ·)

/-- `memstring`, after the `memset` and the `memcpy`. -/
def memstring (v : Text) : Text := value v ++ List.replicate (8 - (value v).length) 0

/-- What `atoi` leaves: behind white space, a sign and digits. -/
def atoiRest (bytes : List UInt8) : List UInt8 :=
  let digits (l : List UInt8) : List UInt8 := l.dropWhile fun b => 48 ≤ b ∧ b ≤ 57
  match bytes.dropWhile fun b => b = 32 ∨ (9 ≤ b ∧ b ≤ 13) with
  | [] => []
  | b :: rest => if b = 45 ∨ b = 43 then digits rest else digits (b :: rest)

/-- The loop that copies to `strNodeId` or `strTimeout`: to the quote, while there is room. It does
not look for the terminator, which it copies too, and goes on behind it. -/
def copyLoop : Nat → Text → Checked Text
  | 0, _ => return []
  | room + 1, [] => do
      Checked.access ⟨1, 0, room + 1⟩
      return [0]
  | room + 1, c :: rest => if isQuote c then return [] else return c :: (← copyLoop room rest)

/-- The copy, with the terminator that is written behind it. -/
def copied (v : Text) : Checked CString := do
  let str ← copyLoop 7 v
  Checked.access ⟨8, str.length, 1⟩
  return .ofBytes str

/-- The number of a copy. -/
def number (v : Text) : Int := atoi (.ofBytes ((copyLoop 7 v).toOption.getD []))

/-- A node id that is accepted. -/
def isNode (ID : Int) : Bool := 1 ≤ ID ∧ ID ≤ 255

/-- Where the scan goes on behind the opening quote of a value. -/
def read (v : Text) : Attribute → Checked (Onward UInt8)
  | .pathOnSpacecraft => do
      let t ← toQuoteUnchecked v
      Checked.access ⟨MAX_FILENAME_SIZE, 0, min (value v).length MAX_FILENAME_SIZE⟩
      return .go t
  | .memoryMinimum =>
      match toQuote v with
      | none => return .leave
      | some t => do
          Checked.access ⟨8, 0, (value v).length⟩
          Checked.access ⟨8, 8 - (atoiRest (memstring v)).length, 1⟩
          return .go t
  | .preferredPMNodeID => do
      let strNodeId ← copied v
      return if isNode (atoi strNodeId) then .go v else .skip v
  | .scheduleTimeout => do
      let _ ← copied v
      return .go v
  | .architecture | .operatingSystem | .executionMode => return .go v

/-- How an event moves the index. The character behind a keyword is skipped, and what follows is
read. -/
def moves : Event → Checked (Onward UInt8)
  | .comment behind =>
      match Lib.find (word "-->") behind with
      | none => return .leave
      | some n => return .go (behind.drop (n + 3))
  | .Application behind => return .go behind
  | .attribute a behind => do
      Checked.access ⟨behind.length + 1, 1, 1⟩
      match opened behind with
      | none => return .leave
      | some v => read v a
  | .close t => return .go t
  | .post t => return .go t

/-- The stages of a round, in their order. -/
def scanner : Scanner UInt8 Event Fault where
  stages :=
    [startsWith (word "<!--") .comment,
      startsWith (word "Application") .Application,
      meets .pathOnSpacecraft, meets .architecture, meets .memoryMinimum, meets .operatingSystem,
      closes,
      meets .preferredPMNodeID, meets .scheduleTimeout, meets .executionMode,
      fun t => some (.post t)]
  moves := moves

/-! ### What it changes -/

/-- The flags and values that a task is posted from. -/
structure Fields where
  cont : UInt8
  name : Bool
  resource : UInt32
  timeout : Int
  mode : Int32
  filename : Text

/-- What the value of `architecture` is compared with. -/
def architectureBits (v : Text) : UInt16 :=
  if (word "SPAU").isPrefixOf v then SDM_SPAU
  else if (word "Intel").isPrefixOf v then SDM_INTEL
  else if (word "PPC7404").isPrefixOf v then SDM_PPC_7404
  else if (word "PPC755").isPrefixOf v then SDM_PPC_755
  else if (word "PPC405").isPrefixOf v then SDM_PPC_405
  else if (word "Microblaze").isPrefixOf v then SDM_MICROBLAZE
  else if (word "Sparc").isPrefixOf v then SDM_SPARC
  else 0

def memoryBits (mem : Int) : UInt16 :=
  if mem ≤ 32 then SDM_MEM32
  else if mem ≤ 64 then SDM_MEM64
  else if mem ≤ 128 then SDM_MEM128
  else if mem ≤ 256 then SDM_MEM256
  else if mem ≤ 512 then SDM_MEM512
  else if mem ≤ 1024 then SDM_MEM1024
  else 0

def operatingSystemBits (v : Text) : UInt16 :=
  if (word "Win32").isPrefixOf v then SDM_WIN32
  else if (word "Linux24").isPrefixOf v then SDM_LINUX24
  else if (word "Linux26").isPrefixOf v then SDM_LINUX26
  else if (word "VxWorks").isPrefixOf v then SDM_VXWORKS
  else 0

/-- `PM_ID` of an `int`. -/
def nodeBits (ID : Int) : UInt32 := if isNode ID then UInt32.ofNat ID.toNat <<< 12 else 0

def alwaysRunning (v : Text) : Bool := (word "alwaysRunning").isPrefixOf v

namespace Fields

/-- What `Application` sets. -/
def reset : Fields where
  cont := 1
  name := false
  resource := 0
  timeout := 0
  mode := 0
  filename := List.replicate MAX_FILENAME_SIZE 0

/-- What an attribute sets, from the text of its value. -/
def set (s : Fields) (av : Attribute × Text) : Fields :=
  match av.1 with
  | .pathOnSpacecraft =>
      { s with
        name := true
        filename := (value av.2).take MAX_FILENAME_SIZE ++ s.filename.drop (value av.2).length }
  | .architecture =>
      { s with resource := s.resource ||| (architectureBits av.2).toUInt32, cont := s.cont ||| 2 }
  | .memoryMinimum =>
      { s with
        resource := s.resource ||| (memoryBits (atoi (.ofBytes (memstring av.2)))).toUInt32
        cont := s.cont ||| 4 }
  | .operatingSystem =>
      { s with
        resource := s.resource ||| (operatingSystemBits av.2).toUInt32
        cont := s.cont ||| 8 }
  | .preferredPMNodeID => { s with resource := s.resource ||| nodeBits (number av.2) }
  | .scheduleTimeout => { s with timeout := number av.2 }
  | .executionMode => if alwaysRunning av.2 then { s with mode := MODE_ALWAYS_RUNNING } else s

/-- `cont == 15 && name == 1`. -/
def ready (s : Fields) : Bool := s.cont == 15 && s.name

/-- The `msgTask` that is posted. -/
def msgTask (s : Fields) : SDMPostTask where
  resources := s.resource.toUInt16
  priority := 0
  sched_interval := Int32.ofInt s.timeout
  mode := s.mode
  version := 0
  filename := .ofBytes s.filename

end Fields

/-- A task that was posted, with the `Application` it was posted for and the attributes that were
met since. -/
structure Posted where
  msgTask : SDMPostTask
  element : Text
  found : List (Attribute × Text)

/-- The locals of the function, and the tasks that were posted. What follows them is history, which
nothing reads: the last `Application`, and the attributes that were met since. -/
structure State where
  fields : Fields
  TagClosed : Bool
  posted : List Posted
  element : Text
  found : List (Attribute × Text)

/-- The text of the value of an attribute. -/
def valueText (behind : Text) : Text := (opened behind).getD []

namespace State

/-- Before the loop. Nothing was written to `filename`. -/
def initial (filename : Text) : State where
  fields := ⟨0, false, 0, 0, 0, filename⟩
  TagClosed := false
  posted := []
  element := []
  found := []

/-- What an event changes. -/
def take (s : State) : Event → Checked State
  | .comment _ => return s
  | .Application behind => return { s with fields := .reset, element := behind, found := [] }
  | .attribute a behind => return { s with
      fields := s.fields.set (a, valueText behind)
      found := s.found ++ [(a, valueText behind)] }
  | .close _ => return { s with TagClosed := s.TagClosed || s.fields.ready }
  | .post _ =>
      if s.fields.ready && s.TagClosed then do
        -- `strncpy` leaves the name as it is, and `Marshal` looks for its end
        Checked.access ⟨MAX_FILENAME_SIZE, 0, s.fields.msgTask.filename.length + 1⟩
        return { s with
          posted := s.posted ++ [⟨s.fields.msgTask, s.element, s.found⟩]
          fields := { s.fields with cont := 0, name := false }
          TagClosed := false }
      else return s

end State

/-- The text of the file: `read` takes 65535 bytes at most, and `strlen` ends it. -/
def fileText (file : List UInt8) : Text := (file.take 65535).takeWhile (· ≠ 0)

/-- `InitialStartUp`, with what is in `filename` before. No round leaves `i` as it is, so
`FILE_LENGTH` of them are enough. -/
def startUp (file : List UInt8) (filename : Text) : Checked (Option State) :=
  scanner.run State.take (fileText file).length (.initial filename) (fileText file)

/-! ### What can be moved past -/

/-- A value can be read: its quote and the array that it is copied to are where the code expects
them. -/
def Fits (v : Text) : Attribute → Prop
  | .pathOnSpacecraft => 34 ∈ v
  | .memoryMinimum => 34 ∈ v → (value v).length ≤ 8 ∧ atoiRest (memstring v) ≠ []
  | .preferredPMNodeID | .scheduleTimeout => 34 ∈ v.take 7 ∨ 6 ≤ v.length
  | .architecture | .operatingSystem | .executionMode => True

/-- An event can be moved past. A keyword is not the last of the text, and what stands behind the
next quote can be read. -/
def Event.Sound : Event → Prop
  | .attribute a behind => behind ≠ [] ∧ ∀ v, opened behind = some v → Fits v a
  | .comment _ | .Application _ | .close _ | .post _ => True

section Moving

variable {v behind t : Text} {e : Event} {room : Nat}

theorem isQuote_iff {c : UInt8} : isQuote c = true ↔ c = 34 := beq_iff_eq

theorem toQuote_eq_none_iff : toQuote t = none ↔ 34 ∉ t := by
  induction t with
  | nil => simp [toQuote]
  | cons c rest ih =>
      rw [toQuote, List.mem_cons, not_or]
      split
      · rename_i quote
        exact iff_of_false nofun fun absurd => absurd.1 (isQuote_iff.mp quote).symm
      · rename_i other
        rw [ih]
        exact (and_iff_right fun same => other (isQuote_iff.mpr same.symm)).symm

/-- A loop that stops is at the quote. -/
theorem toQuote_eq (mem : 34 ∈ t) : toQuote t = some (t.drop (value t).length) := by
  induction t with
  | nil => exact absurd mem List.not_mem_nil
  | cons c rest ih =>
      rw [toQuote, value]
      split
      · rename_i quote
        rw [List.takeWhile_cons_of_neg (by simp [quote])]
        rfl
      · rename_i other
        rw [List.takeWhile_cons_of_pos (by simp [other])]
        apply ih
        exact (List.mem_cons.mp mem).resolve_left fun same => other (isQuote_iff.mpr same.symm)

theorem toQuoteUnchecked_safe_iff : Checked.Safe (toQuoteUnchecked t) ↔ 34 ∈ t := by
  induction t with
  | nil =>
      rw [toQuoteUnchecked, Checked.safe_access_bind]
      exact iff_of_false (fun safe => absurd safe.1 (by decide)) List.not_mem_nil
  | cons c rest ih =>
      rw [toQuoteUnchecked, List.mem_cons]
      split
      · rename_i quote
        exact iff_of_true Checked.safe_pure (.inl (isQuote_iff.mp quote).symm)
      · rename_i other
        rw [ih]
        exact (or_iff_right fun same => other (isQuote_iff.mpr same.symm)).symm

/-- The copy stays in the text that has a quote where there is room, or enough characters. -/
theorem copyLoop_safe_iff :
    Checked.Safe (copyLoop room v) ↔ 34 ∈ v.take room ∨ room ≤ v.length + 1 := by
  induction room generalizing v with
  | zero => exact iff_of_true Checked.safe_pure (.inr (Nat.zero_le _))
  | succ room ih =>
      cases v with
      | nil =>
          rw [copyLoop, Checked.safe_access_bind, and_iff_left Checked.safe_pure, Access.Inside,
            List.take_nil, or_iff_right List.not_mem_nil, Nat.zero_add]
          rfl
      | cons c rest =>
          rw [copyLoop, List.take_succ_cons, List.mem_cons, List.length_cons]
          split
          · rename_i quote
            exact iff_of_true Checked.safe_pure (.inl (.inl (isQuote_iff.mp quote).symm))
          · rename_i other
            have ne : (34 : UInt8) ≠ c := fun same => other (isQuote_iff.mpr same.symm)
            rw [or_iff_right ne, Nat.add_le_add_iff_right, ← ih]
            exact Checked.safe_map

theorem length_copyLoop {str : Text} (ok : copyLoop room v = .ok str) : str.length ≤ room := by
  induction room generalizing v str with
  | zero =>
      cases ok
      exact Nat.le_refl _
  | succ room ih =>
      cases v with
      | nil =>
          obtain ⟨-, -, rest⟩ := Checked.bind_eq_ok.mp ok
          cases rest
          exact Nat.succ_le_succ (Nat.zero_le _)
      | cons c rest =>
          rw [copyLoop] at ok
          split at ok
          · cases ok
            exact Nat.zero_le _
          · obtain ⟨str, copy, rest⟩ := Checked.bind_eq_ok.mp ok
            cases rest
            exact Nat.succ_le_succ (ih copy)

theorem copied_safe_iff : Checked.Safe (copied v) ↔ 34 ∈ v.take 7 ∨ 6 ≤ v.length := by
  have loop : Checked.Safe (copyLoop 7 v) ↔ 34 ∈ v.take 7 ∨ 7 ≤ v.length + 1 :=
    copyLoop_safe_iff
  rw [Nat.succ_le_succ_iff] at loop
  rw [← loop, copied, Checked.safe_bind]
  constructor
  · rintro ⟨str, ok, -⟩
    exact ⟨str, ok⟩
  · rintro ⟨str, ok⟩
    refine ⟨str, ok, Checked.safe_access_bind.mpr ⟨?_, Checked.safe_pure⟩⟩
    exact Nat.succ_le_succ (length_copyLoop ok)

theorem read_safe_iff {a : Attribute} : Checked.Safe (read v a) ↔ Fits v a := by
  cases a with
  | pathOnSpacecraft =>
      rw [read, Checked.safe_bind, Fits, ← toQuoteUnchecked_safe_iff]
      constructor
      · rintro ⟨t, ok, -⟩
        exact ⟨t, ok⟩
      · rintro ⟨t, ok⟩
        refine ⟨t, ok, Checked.safe_access_bind.mpr ⟨?_, Checked.safe_pure⟩⟩
        rw [Access.Inside, Nat.zero_add]
        exact Nat.min_le_right _ _
  | memoryMinimum =>
      rw [read, Fits]
      by_cases mem : 34 ∈ v
      · rw [toQuote_eq mem]
        simp only [Checked.safe_access_bind, and_iff_left Checked.safe_pure, mem, true_imp_iff,
          Access.Inside, Nat.zero_add]
        apply and_congr_right
        intro _
        rw [← List.length_pos_iff]
        omega
      · rw [toQuote_eq_none_iff.mpr mem]
        exact iff_of_true Checked.safe_pure fun absurd => (mem absurd).elim
  | preferredPMNodeID =>
      rw [read, Checked.safe_bind, Fits, ← copied_safe_iff]
      exact ⟨fun ⟨str, ok, _⟩ => ⟨str, ok⟩, fun ⟨str, ok⟩ => ⟨str, ok, Checked.safe_pure⟩⟩
  | scheduleTimeout =>
      rw [read, Checked.safe_bind, Fits, ← copied_safe_iff]
      exact ⟨fun ⟨str, ok, _⟩ => ⟨str, ok⟩, fun ⟨str, ok⟩ => ⟨str, ok, Checked.safe_pure⟩⟩
  | architecture => exact iff_of_true Checked.safe_pure trivial
  | operatingSystem => exact iff_of_true Checked.safe_pure trivial
  | executionMode => exact iff_of_true Checked.safe_pure trivial

/-- **An event can be moved past** exactly where it is sound. -/
theorem moves_isOk_iff : (moves e).isOk ↔ e.Sound := by
  have isOk_iff {α : Type} {c : Checked α} : c.isOk ↔ c.Safe := by
    cases c with
    | ok a => exact iff_of_true rfl ⟨a, rfl⟩
    | error fault => exact iff_of_false nofun nofun
  rw [isOk_iff]
  cases e with
  | comment behind =>
      rw [moves]
      split <;> exact iff_of_true Checked.safe_pure trivial
  | Application behind => exact iff_of_true Checked.safe_pure trivial
  | «attribute» a behind =>
      rw [moves, Checked.safe_access_bind, Event.Sound]
      apply and_congr
      · rw [Access.Inside, ← List.length_pos_iff]
        exact Nat.succ_le_succ_iff
      · cases opened behind with
        | none => exact iff_of_true Checked.safe_pure nofun
        | some v =>
            rw [read_safe_iff]
            exact ⟨fun fits w same => Option.some.inj same ▸ fits, fun all => all v rfl⟩
  | close t => exact iff_of_true Checked.safe_pure trivial
  | post t => exact iff_of_true Checked.safe_pure trivial

theorem toQuote_suffix {rest : Text} (found : toQuote t = some rest) : rest <:+ t := by
  have mem : 34 ∈ t := by
    by_contra noQuote
    rw [toQuote_eq_none_iff.mpr noQuote] at found
    cases found
  rw [toQuote_eq mem] at found
  cases found
  exact List.drop_suffix _ _

theorem toQuoteUnchecked_suffix {rest : Text} (ok : toQuoteUnchecked t = .ok rest) :
    rest <:+ t := by
  induction t with
  | nil => exact absurd (toQuoteUnchecked_safe_iff.mp ⟨rest, ok⟩) List.not_mem_nil
  | cons c t ih =>
      rw [toQuoteUnchecked] at ok
      split at ok
      · cases ok
        exact List.suffix_refl _
      · exact (ih ok).trans (List.suffix_cons c t)

theorem opened_suffix (found : opened behind = some v) : v <:+ behind := by
  obtain ⟨rest, isQuote, rfl⟩ := Option.map_eq_some_iff.mp found
  exact ((List.drop_suffix 1 rest).trans (toQuote_suffix isQuote)).trans (List.drop_suffix 1 behind)

theorem read_suffix {a : Attribute} {onward : Onward UInt8} (ok : read v a = .ok onward) :
    onward.All (· <:+ v) := by
  cases a with
  | pathOnSpacecraft =>
      obtain ⟨t, isQuote, rest⟩ := Checked.bind_eq_ok.mp ok
      obtain ⟨-, -, rest⟩ := Checked.bind_eq_ok.mp rest
      cases rest
      exact toQuoteUnchecked_suffix isQuote
  | memoryMinimum =>
      rw [read] at ok
      cases isQuote : toQuote v with
      | none =>
          rw [isQuote] at ok
          cases ok
          trivial
      | some t =>
          rw [isQuote] at ok
          obtain ⟨-, -, rest⟩ := Checked.bind_eq_ok.mp ok
          obtain ⟨-, -, rest⟩ := Checked.bind_eq_ok.mp rest
          cases rest
          exact toQuote_suffix isQuote
  | preferredPMNodeID =>
      obtain ⟨str, -, rest⟩ := Checked.bind_eq_ok.mp ok
      cases rest
      split <;> exact List.suffix_refl v
  | scheduleTimeout =>
      obtain ⟨str, -, rest⟩ := Checked.bind_eq_ok.mp ok
      cases rest
      exact List.suffix_refl v
  | architecture => cases ok; exact List.suffix_refl v
  | operatingSystem => cases ok; exact List.suffix_refl v
  | executionMode => cases ok; exact List.suffix_refl v

theorem behind_of_startsWith {keyword : Text} {met : Text → Event}
    (same : ∀ t, (met t).behind = t) (seen : startsWith keyword met t = some e) :
    e.behind <:+ t := by
  unfold startsWith at seen
  split at seen
  · cases seen
    rw [same]
    exact List.drop_suffix _ _
  · cases seen

/-- What is met stands at an end of the text, and so does the scan behind it. -/
theorem suffixes : scanner.Suffixes Event.behind where
  sees see mem t e seen := by
    have ofWord (keyword : Text) (met : Text → Event) (same : ∀ t, (met t).behind = t)
        (isSee : see = startsWith keyword met) : e.behind <:+ t :=
      behind_of_startsWith same (isSee ▸ seen)
    simp only [scanner, meets, List.mem_cons, List.not_mem_nil, or_false] at mem
    rcases mem with is | is | is | is | is | is | is | is | is | is | is
    case inr.inr.inr.inr.inr.inr.inl =>
      rw [is, closes] at seen
      split at seen
      · cases seen
        exact List.suffix_refl t
      · cases seen
    case inr.inr.inr.inr.inr.inr.inr.inr.inr.inr =>
      rw [is] at seen
      cases seen
      exact List.suffix_refl t
    all_goals exact ofWord _ _ (fun _ => rfl) is
  moves e onward ok := by
    cases e with
    | comment behind =>
        change moves (.comment behind) = .ok onward at ok
        rw [moves] at ok
        split at ok
        · cases ok
          trivial
        · cases ok
          exact List.drop_suffix _ _
    | Application behind => cases ok; exact List.suffix_refl behind
    | «attribute» a behind =>
        obtain ⟨-, -, rest⟩ := Checked.bind_eq_ok.mp ok
        cases isOpened : opened behind with
        | none =>
            rw [isOpened] at rest
            cases rest
            trivial
        | some v =>
            rw [isOpened] at rest
            have here := opened_suffix isOpened
            have within := read_suffix rest
            cases onward with
            | go rest => exact List.IsSuffix.trans within here
            | skip rest => exact List.IsSuffix.trans within here
            | leave => trivial
    | close t => cases ok; exact List.suffix_refl t
    | post t => cases ok; exact List.suffix_refl t

end Moving

/-! ### What is posted -/

/-- The attributes that a task needs were met. -/
def Complete (found : List (Attribute × Text)) : Prop :=
  .pathOnSpacecraft ∈ found.map Prod.fst ∧ .architecture ∈ found.map Prod.fst ∧
    .memoryMinimum ∈ found.map Prod.fst ∧ .operatingSystem ∈ found.map Prod.fst

instance (found : List (Attribute × Text)) : Decidable (Complete found) :=
  inferInstanceAs (Decidable (_ ∧ _))

/-- What the loop is for: it collects the attributes that follow an `Application`, and hands them on
with it once they are complete and a tag was closed. -/
structure Collector where
  current : Option (Text × List (Attribute × Text))
  closed : Bool
  done : List (Text × List (Attribute × Text))

namespace Collector

def initial : Collector := ⟨none, false, []⟩

/-- The current `Application` has the attributes that it needs. -/
def complete (c : Collector) : Bool := c.current.any fun r => Complete r.2

def take (c : Collector) : Event → Collector
  | .comment _ => c
  | .Application behind => { c with current := some (behind, []) }
  | .attribute a behind =>
      { c with current := c.current.map fun r => (r.1, r.2 ++ [(a, valueText behind)]) }
  | .close _ => { c with closed := c.closed || c.complete }
  | .post _ =>
      if c.complete && c.closed then ⟨none, false, c.done ++ c.current.toList⟩ else c

theorem exists_current {c : Collector} (complete : c.complete = true) :
    ∃ r, c.current = some r := by
  cases isCurrent : c.current with
  | none => simp [Collector.complete, isCurrent] at complete
  | some r => exact ⟨r, rfl⟩

end Collector

/-- What is posted for an `Application` and its attributes. -/
def postedOf (r : Text × List (Attribute × Text)) : Posted where
  msgTask := (r.2.foldl Fields.set .reset).msgTask
  element := r.1
  found := r.2

/-- The state of the loop and what was collected. -/
structure Refines (s : State) (c : Collector) : Prop where
  posted : s.posted = c.done.map postedOf
  closed : s.TagClosed = c.closed
  current : ∀ r, c.current = some r →
    s.element = r.1 ∧ s.found = r.2 ∧ s.fields = r.2.foldl Fields.set .reset
  nothing : c.current = none → s.fields.cont &&& 1 = 0

section Refining

variable {s s' : State} {c : Collector} {found : List (Attribute × Text)} {e : Event}

/-- Which of the attributes that a task needs were met, as bits. -/
def contOf (architecture memoryMinimum operatingSystem : Bool) : UInt8 :=
  1 ||| (if architecture then 2 else 0) ||| (if memoryMinimum then 4 else 0) |||
    (if operatingSystem then 8 else 0)

def bitOf : Attribute → UInt8
  | .architecture => 2
  | .memoryMinimum => 4
  | .operatingSystem => 8
  | .pathOnSpacecraft | .preferredPMNodeID | .scheduleTimeout | .executionMode => 0

theorem cont_set (fields : Fields) (a : Attribute) (v : Text) :
    (fields.set (a, v)).cont = fields.cont ||| bitOf a := by
  cases a with
  | executionMode =>
      show (if alwaysRunning v then { fields with mode := MODE_ALWAYS_RUNNING } else fields).cont = _
      split <;> exact (UInt8.or_zero).symm
  | pathOnSpacecraft => exact (UInt8.or_zero).symm
  | preferredPMNodeID => exact (UInt8.or_zero).symm
  | scheduleTimeout => exact (UInt8.or_zero).symm
  | architecture => rfl
  | memoryMinimum => rfl
  | operatingSystem => rfl

theorem name_set (fields : Fields) (a : Attribute) (v : Text) :
    (fields.set (a, v)).name = (fields.name || decide (a = .pathOnSpacecraft)) := by
  cases a with
  | executionMode =>
      show (if alwaysRunning v then { fields with mode := MODE_ALWAYS_RUNNING } else fields).name = _
      split <;> exact (Bool.or_false _).symm
  | pathOnSpacecraft => exact (Bool.or_true _).symm
  | preferredPMNodeID => exact (Bool.or_false _).symm
  | scheduleTimeout => exact (Bool.or_false _).symm
  | architecture => exact (Bool.or_false _).symm
  | memoryMinimum => exact (Bool.or_false _).symm
  | operatingSystem => exact (Bool.or_false _).symm

theorem contOf_or (architecture memoryMinimum operatingSystem : Bool) (a : Attribute) :
    contOf architecture memoryMinimum operatingSystem ||| bitOf a =
      contOf (architecture || decide (a = .architecture))
        (memoryMinimum || decide (a = .memoryMinimum))
        (operatingSystem || decide (a = .operatingSystem)) := by
  cases architecture <;> cases memoryMinimum <;> cases operatingSystem <;> cases a <;> rfl

theorem contOf_eq_iff (architecture memoryMinimum operatingSystem : Bool) :
    contOf architecture memoryMinimum operatingSystem = 15 ↔
      architecture ∧ memoryMinimum ∧ operatingSystem := by
  cases architecture <;> cases memoryMinimum <;> cases operatingSystem <;> decide

/-- The attribute was met. -/
def has (found : List (Attribute × Text)) (a : Attribute) : Bool :=
  decide (a ∈ found.map Prod.fst)

theorem has_append (found : List (Attribute × Text)) (a b : Attribute) (v : Text) :
    has (found ++ [(a, v)]) b = (has found b || decide (a = b)) := by
  rw [has, has, List.map_append, ← Bool.decide_or]
  apply decide_eq_decide.mpr
  rw [List.mem_append]
  exact or_congr_right (List.mem_singleton.trans eq_comm)

theorem cont_foldl (found : List (Attribute × Text)) : (found.foldl Fields.set .reset).cont =
    contOf (has found .architecture) (has found .memoryMinimum) (has found .operatingSystem) := by
  induction found using List.reverseRecOn with
  | nil => rfl
  | append_singleton found av ih =>
      rw [List.foldl_append, List.foldl_cons, List.foldl_nil, cont_set, ih, contOf_or, has_append,
        has_append, has_append]

theorem name_foldl (found : List (Attribute × Text)) :
    (found.foldl Fields.set .reset).name = has found .pathOnSpacecraft := by
  induction found using List.reverseRecOn with
  | nil => rfl
  | append_singleton found av ih =>
      rw [List.foldl_append, List.foldl_cons, List.foldl_nil, name_set, ih, has_append]

/-- The flags say that the attributes are complete. -/
theorem ready_foldl (found : List (Attribute × Text)) :
    (found.foldl Fields.set .reset).ready = decide (Complete found) := by
  rw [Bool.eq_iff_iff, decide_eq_true_iff, Fields.ready, Bool.and_eq_true, beq_iff_eq, cont_foldl,
    contOf_eq_iff, name_foldl]
  simp only [has, decide_eq_true_iff, Complete]
  exact and_comm

theorem and_one_set (fields : Fields) (a : Attribute) (v : Text) :
    (fields.set (a, v)).cont &&& 1 = fields.cont &&& 1 := by
  have bit : bitOf a &&& 1 = 0 := by cases a <;> rfl
  have distrib : (fields.cont ||| bitOf a) &&& 1 = (fields.cont &&& 1) ||| (bitOf a &&& 1) :=
    UInt8.toBitVec_inj.mp BitVec.and_or_distrib_right
  rw [cont_set, distrib, bit, UInt8.or_zero]

theorem Refines.ready (refines : Refines s c) : s.fields.ready = c.complete := by
  rw [Collector.complete]
  cases isCurrent : c.current with
  | none =>
      have low := refines.nothing isCurrent
      have other : s.fields.cont ≠ 15 := fun same => absurd (same ▸ low) (by decide)
      rw [Fields.ready, beq_eq_false_iff_ne.mpr other]
      rfl
  | some r =>
      obtain ⟨-, -, fields⟩ := refines.current r isCurrent
      rw [fields, ready_foldl]
      rfl

/-- **Each event** does to the flags what it does to the collector. -/
theorem take_refines (refines : Refines s c) (taken : s.take e = .ok s') :
    Refines s' (c.take e) := by
  cases e with
  | comment behind =>
      cases taken
      exact refines
  | Application behind =>
      cases taken
      refine ⟨refines.posted, refines.closed, fun r isCurrent => ?_, nofun⟩
      cases isCurrent
      exact ⟨rfl, rfl, rfl⟩
  | «attribute» a behind =>
      cases taken
      refine ⟨refines.posted, refines.closed, fun r isCurrent => ?_, fun isCurrent => ?_⟩
      · obtain ⟨r, was, rfl⟩ := Option.map_eq_some_iff.mp isCurrent
        obtain ⟨element, found, fields⟩ := refines.current r was
        refine ⟨element, congrArg (· ++ _) found, ?_⟩
        rw [List.foldl_append, ← fields]
        rfl
      · have low := refines.nothing (Option.map_eq_none_iff.mp isCurrent)
        exact (and_one_set _ _ _).trans low
  | close here =>
      cases taken
      refine ⟨refines.posted, ?_, refines.current, refines.nothing⟩
      show (s.TagClosed || s.fields.ready) = (c.closed || c.complete)
      rw [refines.closed, refines.ready]
  | post here =>
      rw [State.take, refines.ready, refines.closed] at taken
      rw [Collector.take]
      by_cases posts : (c.complete && c.closed) = true
      · rw [if_pos posts] at taken
        rw [if_pos posts]
        obtain ⟨-, -, done⟩ := Checked.bind_eq_ok.mp taken
        cases done
        obtain ⟨r, isCurrent⟩ := Collector.exists_current (Bool.and_eq_true _ _ ▸ posts).1
        obtain ⟨element, found, fields⟩ := refines.current r isCurrent
        refine ⟨?_, rfl, nofun, fun _ => UInt8.zero_and⟩
        rw [List.map_append, isCurrent, ← refines.posted, fields, element, found]
        rfl
      · rw [if_neg posts] at taken
        rw [if_neg posts]
        cases taken
        exact refines

theorem foldl_refines (refines : Refines s c) (events : List Event)
    (folded : events.foldlM State.take s = .ok s') :
    Refines s' (events.foldl Collector.take c) := by
  induction events generalizing s c with
  | nil =>
      cases folded
      exact refines
  | cons e events ih =>
      obtain ⟨next, taken, later⟩ := Checked.bind_eq_ok.mp (List.foldlM_cons.symm.trans folded)
      exact ih (take_refines refines taken) later

theorem refines_initial (filename : Text) : Refines (.initial filename) .initial :=
  ⟨rfl, rfl, nofun, fun _ => UInt8.zero_and⟩

end Refining

/-! ### The name of a task -/

/-- The names that an element gives are shorter than their array. -/
def NameFits (found : List (Attribute × Text)) : Prop :=
  ∀ v, (.pathOnSpacecraft, v) ∈ found → (value v).length < MAX_FILENAME_SIZE

/-- What `filename` holds: there is a terminator at its end, or none at all. -/
structure Holds (found : List (Attribute × Text)) (filename : Text) : Prop where
  length : filename.length = MAX_FILENAME_SIZE
  ends : NameFits found → ∃ front, filename = front ++ [0]
  full : ¬ NameFits found → 0 ∉ filename

section Names

variable {found : List (Attribute × Text)} {s : State} {c : Collector} {e : Event}

theorem filename_set (fields : Fields) (a : Attribute) (v : Text) :
    (fields.set (a, v)).filename = if a = .pathOnSpacecraft then
      (value v).take MAX_FILENAME_SIZE ++ fields.filename.drop (value v).length
    else fields.filename := by
  cases a with
  | executionMode =>
      show (if alwaysRunning v then { fields with mode := MODE_ALWAYS_RUNNING }
        else fields).filename = _
      split <;> rfl
  | _ => rfl

theorem nameFits_append {a : Attribute} {v : Text} : NameFits (found ++ [(a, v)]) ↔
    NameFits found ∧ (a = .pathOnSpacecraft → (value v).length < MAX_FILENAME_SIZE) := by
  simp only [NameFits, List.mem_append, List.mem_singleton, Prod.mk.injEq, or_imp, forall_and,
    and_imp]
  refine and_congr_right fun _ => ?_
  constructor
  · rintro all rfl
    exact all v rfl rfl
  · rintro short w rfl rfl
    exact short rfl

/-- A copy that does not end the name leaves no terminator before it. -/
theorem holds_foldl (clean : ∀ av ∈ found, (0 : UInt8) ∉ av.2) :
    Holds found (found.foldl Fields.set .reset).filename := by
  induction found using List.reverseRecOn with
  | nil =>
      refine ⟨List.length_replicate, fun _ => ⟨List.replicate 127 0, rfl⟩, fun long => ?_⟩
      exact absurd (fun _ mem => absurd mem List.not_mem_nil) long
  | append_singleton found av ih =>
      obtain ⟨a, v⟩ := av
      obtain ⟨length, ends, full⟩ := ih fun av mem => clean av (List.mem_append_left _ mem)
      rw [List.foldl_append, List.foldl_cons, List.foldl_nil, filename_set]
      by_cases path : a = .pathOnSpacecraft
      · have noNul : 0 ∉ value v := fun mem =>
          clean _ (List.mem_append_right _ List.mem_cons_self) ((List.takeWhile_prefix _).subset mem)
        rw [if_pos path]
        refine ⟨?_, fun fits => ?_, fun long mem => ?_⟩
        · rw [List.length_append, List.length_take, List.length_drop, length]
          omega
        · obtain ⟨before, short⟩ := nameFits_append.mp fits
          obtain ⟨front, isEnd⟩ := ends before
          have within : (value v).length ≤ front.length := by
            have room := short path
            rw [isEnd, List.length_append, List.length_singleton] at length
            omega
          rw [isEnd, List.drop_append_of_le_length within, ← List.append_assoc]
          exact ⟨_, rfl⟩
        · rcases List.mem_append.mp mem with copied | kept
          · exact noNul (List.mem_of_mem_take copied)
          · by_cases short : (value v).length < MAX_FILENAME_SIZE
            · exact full (fun before => long (nameFits_append.mpr ⟨before, fun _ => short⟩))
                (List.mem_of_mem_drop kept)
            · rw [List.drop_eq_nil_of_le (length.trans_le (Nat.le_of_not_lt short))] at kept
              exact absurd kept List.not_mem_nil
      · rw [if_neg path]
        have same : NameFits (found ++ [(a, v)]) ↔ NameFits found :=
          nameFits_append.trans (and_iff_left fun is => absurd is path)
        exact ⟨length, fun fits => ends (same.mp fits), fun long => full (same.not.mp long)⟩

/-- **A name has a terminator** exactly where all that were copied were shorter than the array. -/
theorem name_fits_iff (clean : ∀ av ∈ found, (0 : UInt8) ∉ av.2) :
    (found.foldl Fields.set .reset).msgTask.filename.length + 1 ≤ MAX_FILENAME_SIZE ↔
      NameFits found := by
  obtain ⟨length, ends, full⟩ := holds_foldl clean
  show ((found.foldl Fields.set .reset).filename.takeWhile (· ≠ 0)).length + 1 ≤ _ ↔ _
  by_cases fits : NameFits found
  · obtain ⟨front, isEnd⟩ := ends fits
    refine iff_of_true ?_ fits
    rw [isEnd, List.length_append, List.length_singleton] at length
    rw [isEnd, List.takeWhile_append, ← length, Nat.add_le_add_iff_right]
    split
    · exact Nat.le_of_eq (congrArg List.length (List.append_nil front))
    · exact (List.takeWhile_prefix _).length_le
  · refine iff_of_false (fun short => ?_) fits
    have whole := List.takeWhile_eq_self_iff (p := fun b => decide (b ≠ 0)).mpr fun b mem =>
      decide_eq_true fun (zero : b = 0) => full fits (zero ▸ mem)
    rw [whole, length] at short
    exact absurd short (Nat.not_succ_le_self _)

/-- An event is taken exactly where the name of what it completes fits. -/
theorem take_safe_iff (refines : Refines s c)
    (clean : ∀ r, c.current = some r → ∀ av ∈ r.2, (0 : UInt8) ∉ av.2)
    (posted : ∀ r ∈ c.done, NameFits r.2) :
    Checked.Safe (s.take e) ↔ ∀ r ∈ (c.take e).done, NameFits r.2 := by
  cases e with
  | post here =>
      rw [State.take, Collector.take, refines.ready, refines.closed]
      by_cases posts : (c.complete && c.closed) = true
      · obtain ⟨r, isCurrent⟩ := Collector.exists_current (Bool.and_eq_true _ _ ▸ posts).1
        obtain ⟨-, -, fields⟩ := refines.current r isCurrent
        rw [if_pos posts, if_pos posts, Checked.safe_access_bind, and_iff_left Checked.safe_pure,
          isCurrent, fields, Access.Inside, Nat.zero_add]
        show _ ↔ ∀ r' ∈ c.done ++ [r], NameFits r'.2
        rw [List.forall_mem_append, List.forall_mem_singleton, and_iff_right posted]
        exact name_fits_iff (clean r isCurrent)
      · rw [if_neg posts, if_neg posts]
        exact iff_of_true Checked.safe_pure posted
  -- The other events complete nothing.
  | _ => exact iff_of_true Checked.safe_pure posted

end Names

/-! ### Runs -/

/-- All that the scan of the file meets. -/
def met (file : List UInt8) : List Event := scanner.met (fileText file).length (fileText file)

/-- What the scan of the file takes, up to where it leaves the file. -/
def taken (file : List UInt8) : List Event := (scanner.scan (fileText file).length (fileText file)).1

/-- The elements that are complete at the end of a tag. -/
def collected (file : List UInt8) : List (Text × List (Attribute × Text)) :=
  ((taken file).foldl Collector.take .initial).done

def Event.isApplication : Event → Bool
  | .Application _ => true
  | _ => false

/-- The attributes among the events, with the texts of their values. -/
def attributesOf (events : List Event) : List (Attribute × Text) :=
  events.filterMap fun
    | .attribute a behind => some (a, valueText behind)
    | _ => none

/-- The element is one of the events, and its attributes are those behind it and before the next
element. -/
def Stands (r : Text × List (Attribute × Text)) (events : List Event) : Prop :=
  ∃ before between after, events = before ++ .Application r.1 :: (between ++ after) ∧
    (∀ e ∈ between, e.isApplication = false) ∧ r.2 = attributesOf between

section Runs

variable {file : List UInt8} {filename : Text} {s : State} {c : Collector} {events : List Event}
  {e : Event} {r : Text × List (Attribute × Text)}

theorem Stands.append (stands : Stands r events) (later : List Event) :
    Stands r (events ++ later) := by
  obtain ⟨before, between, after, rfl, within, found⟩ := stands
  refine ⟨before, between, after ++ later, ?_, within, found⟩
  simp only [List.append_assoc, List.cons_append]

/-- What the collector holds after the events: elements that were completed, and the last one. -/
structure Collected (events : List Event) (c : Collector) : Prop where
  done : ∀ r ∈ c.done, Stands r events ∧ Complete r.2
  current : ∀ r, c.current = some r → ∃ before between,
    events = before ++ .Application r.1 :: between ∧
      (∀ e ∈ between, e.isApplication = false) ∧ r.2 = attributesOf between

theorem attributesOf_append (events later : List Event) :
    attributesOf (events ++ later) = attributesOf events ++ attributesOf later :=
  List.filterMap_append

/-- The last element goes on with what is no element. -/
theorem Collected.goOn (holds : Collected events c) (other : e.isApplication = false)
    (isCurrent : c.current = some r) : ∃ before between,
      events ++ [e] = before ++ .Application r.1 :: between ∧
        (∀ e ∈ between, e.isApplication = false) ∧
          r.2 ++ attributesOf [e] = attributesOf between := by
  obtain ⟨before, between, rfl, within, found⟩ := holds.current r isCurrent
  refine ⟨before, between ++ [e], ?_, ?_, ?_⟩
  · rw [List.append_assoc, List.cons_append]
  · exact List.forall_mem_append.mpr ⟨within, List.forall_mem_singleton.mpr other⟩
  · rw [attributesOf_append, found]

theorem Collected.take (holds : Collected events c) (e : Event) :
    Collected (events ++ [e]) (c.take e) := by
  have kept : ∀ r ∈ c.done, Stands r (events ++ [e]) ∧ Complete r.2 := fun r mem =>
    ⟨(holds.done r mem).1.append [e], (holds.done r mem).2⟩
  have goesOn : attributesOf [e] = [] → e.isApplication = false → ∀ r, c.current = some r →
      ∃ before between, events ++ [e] = before ++ .Application r.1 :: between ∧
        (∀ e ∈ between, e.isApplication = false) ∧ r.2 = attributesOf between := by
    intro noAttribute other r isCurrent
    have next := holds.goOn other isCurrent
    rwa [noAttribute, List.append_nil] at next
  cases e with
  | comment behind => exact ⟨kept, goesOn rfl rfl⟩
  | close here => exact ⟨kept, goesOn rfl rfl⟩
  | Application behind =>
      refine ⟨kept, fun r isCurrent => ?_⟩
      cases isCurrent
      exact ⟨events, [], rfl, fun _ mem => absurd mem List.not_mem_nil, rfl⟩
  | «attribute» a behind =>
      refine ⟨kept, fun r isCurrent => ?_⟩
      obtain ⟨r, was, rfl⟩ := Option.map_eq_some_iff.mp isCurrent
      exact holds.goOn rfl was
  | post here =>
      rw [Collector.take]
      split
      · rename_i posts
        refine ⟨List.forall_mem_append.mpr ⟨kept, fun r mem => ?_⟩, fun r isCurrent => ?_⟩
        · have isCurrent : c.current = some r := Option.mem_toList.mp mem
          obtain ⟨before, between, placed, within, found⟩ := goesOn rfl rfl r isCurrent
          refine ⟨⟨before, between, [], ?_, within, found⟩, ?_⟩
          · rw [placed, List.append_nil]
          · rw [Bool.and_eq_true, Collector.complete, isCurrent] at posts
            exact of_decide_eq_true posts.1
        · cases isCurrent
      · exact ⟨kept, goesOn rfl rfl⟩

theorem collected_foldl (events : List Event) :
    Collected events (events.foldl Collector.take .initial) := by
  induction events using List.reverseRecOn with
  | nil => exact ⟨fun _ mem => absurd mem List.not_mem_nil, fun _ isCurrent => nomatch isCurrent⟩
  | append_singleton events e ih =>
      rw [List.foldl_append]
      exact ih.take e

theorem mem_attributesOf {av : Attribute × Text} (mem : av ∈ attributesOf events) :
    ∃ a behind, .attribute a behind ∈ events ∧ av = (a, valueText behind) := by
  obtain ⟨e, mem, isAttribute⟩ := List.mem_filterMap.mp mem
  cases e with
  | «attribute» a behind => exact ⟨a, behind, mem, (Option.some.inj isAttribute).symm⟩
  | _ => cases isAttribute

/-- The text of a value stands in what is behind its keyword. -/
theorem valueText_subset (behind : Text) : valueText behind ⊆ behind := by
  rw [valueText]
  cases isOpened : opened behind with
  | none => exact List.nil_subset _
  | some v => exact (opened_suffix isOpened).subset

theorem done_take : c.done ⊆ (c.take e).done := by
  cases e with
  | post here =>
      rw [Collector.take]
      split
      · exact List.subset_append_left _ _
      · exact List.Subset.refl _
  | _ => exact List.Subset.refl _

/-- **The events are taken** exactly where the names of all that they complete fit. -/
theorem foldl_safe_iff (filename : Text) (clean : ∀ e ∈ events, (0 : UInt8) ∉ e.behind) :
    Checked.Safe (events.foldlM State.take (.initial filename)) ↔
      ∀ r ∈ (events.foldl Collector.take .initial).done, NameFits r.2 := by
  induction events using List.reverseRecOn with
  | nil => exact iff_of_true Checked.safe_pure fun _ mem => absurd mem List.not_mem_nil
  | append_singleton events e ih =>
      have before := ih fun e mem => clean e (List.mem_append_left _ mem)
      have ofCurrent : ∀ r, (events.foldl Collector.take .initial).current = some r →
          ∀ av ∈ r.2, (0 : UInt8) ∉ av.2 := by
        intro r isCurrent av mem zero
        obtain ⟨front, between, split, -, found⟩ := (collected_foldl events).current r isCurrent
        obtain ⟨a, behind, met, rfl⟩ := mem_attributesOf (found ▸ mem)
        have within : .attribute a behind ∈ events ++ [e] := by
          rw [split]
          simp [met]
        exact clean _ within (valueText_subset behind zero)
      rw [List.foldlM_append, List.foldl_append, Checked.safe_bind]
      simp only [List.foldlM_cons, List.foldlM_nil, bind_pure, List.foldl_cons, List.foldl_nil]
      constructor
      · rintro ⟨s, folded, taken⟩
        have refines := foldl_refines (refines_initial filename) events folded
        exact (take_safe_iff refines ofCurrent (before.mp ⟨s, folded⟩)).mp taken
      · intro all
        have posted : ∀ r ∈ (events.foldl Collector.take .initial).done, NameFits r.2 :=
          fun r mem => all r (done_take mem)
        obtain ⟨s, folded⟩ := before.mpr posted
        have refines := foldl_refines (refines_initial filename) events folded
        exact ⟨s, folded, (take_safe_iff refines ofCurrent posted).mpr all⟩

theorem zero_notMem_fileText (file : List UInt8) : 0 ∉ fileText file := fun mem => by
  simpa using List.mem_takeWhile_imp mem

/-- **The run comes to its end** inside its arrays exactly where all that it meets can be moved
past, and the names of the elements that are complete are shorter than their array. -/
theorem startUp_ends_iff (file : List UInt8) (filename : Text) :
    (∃ s, startUp file filename = .ok (some s)) ↔
      (∀ e ∈ met file, e.Sound) ∧ ∀ r ∈ collected file, NameFits r.2 := by
  have clean : ∀ e ∈ taken file, (0 : UInt8) ∉ e.behind := fun e mem zero =>
    zero_notMem_fileText file ((Scanner.suffix_scan suffixes e mem).subset zero)
  rw [startUp, Scanner.run_ends_iff suffixes (Nat.le_refl _)]
  exact and_congr (forall₂_congr fun _ _ => moves_isOk_iff) (foldl_safe_iff filename clean)

/-- **Each task** is posted for an element that is complete, with the values of the attributes that
stand in this element and a name that has room, whatever stood before it and whatever `filename`
held. -/
theorem startUp_posts (ran : startUp file filename = .ok (some s)) :
    s.posted = (collected file).map postedOf ∧
      ∀ r ∈ collected file, Stands r (taken file) ∧ Complete r.2 ∧ NameFits r.2 := by
  constructor
  · exact (foldl_refines (refines_initial filename) (taken file) (Scanner.eq_of_run ran)).posted
  · intro r mem
    obtain ⟨stands, complete⟩ := (collected_foldl (taken file)).done r mem
    exact ⟨stands, complete, ((startUp_ends_iff file filename).mp ⟨s, ran⟩).2 r mem⟩

/-- A file of one element. -/
def oneApplication : List UInt8 :=
  word "<Application architecture=\"SPAU\" memoryMinimum=\"8\" operatingSystem=\"\" " ++
    word "pathOnSpacecraft=\"a\">"

theorem startUp_posts_one : ∃ s, startUp oneApplication [] = .ok (some s) ∧ s.posted.length = 1 ∧
    s.posted = (collected oneApplication).map postedOf ∧
      ∀ r ∈ collected oneApplication,
        Stands r (taken oneApplication) ∧ Complete r.2 ∧ NameFits r.2 := by
  have ends : ((startUp oneApplication []).toOption.join.map fun s => s.posted.length) =
      some 1 := by
    decide +kernel
  obtain ⟨s, ran, length⟩ := Option.map_eq_some_iff.mp ends
  have ran : startUp oneApplication [] = .ok (some s) := by
    cases isRun : startUp oneApplication [] with
    | error fault =>
        rw [isRun] at ran
        cases ran
    | ok s' =>
        rw [isRun] at ran
        exact congrArg Except.ok (Option.some.inj (Option.join_eq_some_iff.mp ran))
  exact ⟨s, ran, length, startUp_posts ran⟩

end Runs

end Sdm.InitialStartUp
