import Sdm.Lib.Decimal
import Sdm.Lib.Overlay
import Sdm.Lib.Checked
import Sdm.DM.SegmentBuilder

/-!
The stored documents of ASIMs (`DMUtils.cpp` and their use in `xTEDS` of `DM.cpp`).

The document of an ASIM is kept in a file under the number of the ASIM. The file is opened without
being cut, and what is written to an open file is written as a whole.

* `PIDToFileName_inj`: ASIMs do not share a file.
* `retrieve_eq_last_iff`: the document that was stored last is read back exactly when no longer one
  was stored before and the array has room for it.
* `registerAll_eq`: a stored document is never registered.
-/

namespace Sdm

open Lib Checked

/-- `IsPIDFromASIM`. -/
def IsPIDFromASIM (processID : Int32) : Bool := processID < 0

/-- `PIDToFileName`. -/
def PIDToFileName (processID : Int32) : Option CString :=
  if IsPIDFromASIM processID then
    some ((CString.ofString "./xTEDS/").append
      ((decimal (processID * -1).toInt).append (.ofString ".xml")))
  else none

/-- The files by their names. -/
abbrev Files := CString → Option (List UInt8)

/-- `Store_xTEDS`: what it returns, and the files after it. The file may fail to open. -/
def Store_xTEDS (opens : Bool) (processID : Int32) (xTEDSIn : CString) (files : Files) :
    Int × Files :=
  match PIDToFileName processID with
  | none => (-1, files)
  | some fileName =>
      if opens then
        let content := overlay ((files fileName).getD []) (xTEDSIn.bytes ++ [10])
        (0, Function.update files fileName (some content))
      else (-2, files)

/-- `Retrieve_xTEDS` into an array of `MAX_XTEDS_SIZE` bytes. -/
def Retrieve_xTEDS (opens : Bool) (processID : Int32) (xTEDSOut : Memory) (files : Files) :
    Checked (Int × Memory) :=
  match PIDToFileName processID with
  | none => pure (-1, xTEDSOut)
  | some fileName =>
      match if opens then files fileName else none with
      | none => pure (-2, xTEDSOut)
      | some content => do
          let read := content.take MAX_XTEDS_SIZE
          access ⟨MAX_XTEDS_SIZE, read.length, 1⟩
          pure (0, (xTEDSOut.store 0 read).store read.length [0])

/-- A new registration: the number, the document in its array, and whether the file opens. -/
structure NewXTEDS where
  processID : Int32
  xTEDS : Memory
  opens : Bool

/-- `xTEDS` of `DM.cpp` takes the document of a new registration, which `setxTEDS` parses: whether
it is registered, and the files after it. -/
def takeDocument (parses : CString → Bool) (new : NewXTEDS) (files : Files) :
    Checked (Bool × Files) := do
  let text ← deref (new.xTEDS.text 0 MAX_XTEDS_SIZE)
  if parses text then
    if IsPIDFromASIM new.processID then
      pure (true, (Store_xTEDS new.opens new.processID text files).2)
    else pure (true, files)
  else if IsPIDFromASIM new.processID then
    -- the document is parsed again when nothing was retrieved
    let (result, xTEDS) ← Retrieve_xTEDS new.opens new.processID new.xTEDS files
    if result ≠ 0 then
      let text ← deref (xTEDS.text 0 MAX_XTEDS_SIZE)
      pure (parses text, files)
    else pure (false, files)
  else pure (false, files)

/-- New registrations one after another: which are registered, and the files after them. -/
def registerAll (parses : CString → Bool) : List NewXTEDS → Files → Checked (List Bool × Files)
  | [], files => pure ([], files)
  | new :: rest, files => do
      let (taken, files) ← takeDocument parses new files
      let (others, files) ← registerAll parses rest files
      pure (taken :: others, files)

/-! ### Names -/

section

variable {processID other : Int32} {name : CString} {files files' : Files}

theorem PIDToFileName_eq_some : PIDToFileName processID = some name ↔
    IsPIDFromASIM processID = true ∧ (CString.ofString "./xTEDS/").append
      ((decimal (processID * -1).toInt).append (.ofString ".xml")) = name := by
  rw [PIDToFileName, Option.ite_none_right_eq_some, Option.some_inj]

theorem PIDToFileName_isSome : (PIDToFileName processID).isSome = IsPIDFromASIM processID := by
  rw [PIDToFileName]
  cases IsPIDFromASIM processID <;> rfl

/-- **ASIMs do not share a file.** -/
theorem PIDToFileName_inj (named : PIDToFileName processID = some name)
    (same : PIDToFileName other = some name) : processID = other := by
  obtain ⟨-, rfl⟩ := PIDToFileName_eq_some.mp named
  obtain ⟨-, shared⟩ := PIDToFileName_eq_some.mp same
  have bytes := List.append_cancel_left (congrArg CString.bytes shared)
  have number : decimal (other * -1).toInt = decimal (processID * -1).toInt :=
    CString.ext (List.append_cancel_right bytes)
  have negated : other * -1 = processID * -1 := Int32.toInt_inj.mp (decimal_injective number)
  have back : ∀ x : Int32, x * -1 * -1 = x := fun x => by
    rw [Int32.mul_assoc, show (-1 : Int32) * -1 = 1 from rfl, Int32.mul_one]
  rw [← back processID, ← negated, back]

/-! ### Registrations -/

/-- The document is registered and stored for this ASIM. -/
def storedFor (parses : CString → Bool) (processID : Int32) (new : NewXTEDS) : Option CString :=
  (new.xTEDS.text 0 MAX_XTEDS_SIZE).filter fun text =>
    parses text && new.opens && decide (new.processID = processID)

/-- The bytes that are written for a document. -/
def fileBytes (text : CString) : List UInt8 := text.bytes ++ [10]

variable {parses : CString → Bool} {new : NewXTEDS} {news : List NewXTEDS} {taken : Bool}
  {all : List Bool}

/-- What fails to be retrieved leaves the array as it is. -/
theorem retrieve_of_ne_zero {opens : Bool} {result : Int} {xTEDSOut out : Memory}
    (retrieved : Retrieve_xTEDS opens processID xTEDSOut files = .ok (result, out))
    (failed : result ≠ 0) : out = xTEDSOut := by
  unfold Retrieve_xTEDS at retrieved
  split at retrieved
  · cases pure_eq_ok.mp retrieved
    rfl
  · split at retrieved
    · cases pure_eq_ok.mp retrieved
      rfl
    · obtain ⟨-, -, done⟩ := bind_eq_ok.mp retrieved
      cases pure_eq_ok.mp done
      exact absurd rfl failed

/-- A document is registered for its own text or not at all, and stored when it is registered. -/
theorem takeDocument_eq_ok (ran : takeDocument parses new files = .ok (taken, files')) :
    ∃ text, new.xTEDS.text 0 MAX_XTEDS_SIZE = some text ∧ taken = parses text ∧
      files' = if parses text then (Store_xTEDS new.opens new.processID text files).2
        else files := by
  obtain ⟨text, read, ran⟩ := bind_eq_ok.mp ran
  refine ⟨text, deref_eq_ok.mp read, ?_⟩
  cases valid : parses text with
  | true =>
      rw [if_pos valid] at ran
      rw [if_pos rfl]
      split at ran
      · cases pure_eq_ok.mp ran
        exact ⟨rfl, rfl⟩
      · rename_i notASIM
        cases pure_eq_ok.mp ran
        have unnamed : PIDToFileName new.processID = none := if_neg notASIM
        rw [Store_xTEDS, unnamed]
        exact ⟨rfl, rfl⟩
  | false =>
      rw [if_neg (Bool.eq_false_iff.mp valid)] at ran
      rw [if_neg Bool.false_ne_true]
      split at ran
      · obtain ⟨⟨result, xTEDS⟩, retrieved, ran⟩ := bind_eq_ok.mp ran
        dsimp only at ran
        split at ran
        · rename_i failed
          rw [retrieve_of_ne_zero retrieved failed] at ran
          obtain ⟨again, read', ran⟩ := bind_eq_ok.mp ran
          cases read.symm.trans read'
          cases pure_eq_ok.mp ran
          exact ⟨valid, rfl⟩
        · cases pure_eq_ok.mp ran
          exact ⟨rfl, rfl⟩
      · cases pure_eq_ok.mp ran
        exact ⟨rfl, rfl⟩

/-- What a document that is stored does to the file of an ASIM. -/
theorem content_store {opens : Bool} {text : CString} (named : PIDToFileName processID = some name) :
    (Store_xTEDS opens other text files).2 name =
      if opens = true ∧ other = processID then
        some (overlay ((files name).getD []) (fileBytes text))
      else files name := by
  unfold Store_xTEDS
  split
  · rename_i unnamed
    rw [if_neg]
    rintro ⟨-, rfl⟩
    cases unnamed.symm.trans named
  · rename_i fileName same
    cases opens with
    | false => rw [if_neg Bool.false_ne_true, if_neg (by simp)]
    | true =>
        by_cases own : other = processID
        · subst own
          cases named.symm.trans same
          rw [if_pos rfl, if_pos ⟨rfl, rfl⟩]
          exact Function.update_self _ _ _
        · have apart : name ≠ fileName := by
            rintro rfl
            exact own (PIDToFileName_inj same named)
          rw [if_pos rfl, if_neg fun both => own both.2]
          exact Function.update_of_ne apart _ _

/-- **What stands in the file of an ASIM** after a run of registrations: the documents that were
registered and stored for it, one over the other. -/
theorem content_registerAll (named : PIDToFileName processID = some name)
    (ran : registerAll parses news files = .ok (all, files')) :
    files' name = if news.filterMap (storedFor parses processID) = [] then files name
      else some (written ((news.filterMap (storedFor parses processID)).map fileBytes)
        ((files name).getD [])) := by
  induction news generalizing files all with
  | nil =>
      cases pure_eq_ok.mp ran
      rfl
  | cons new news ih =>
      obtain ⟨⟨taken, between⟩, first, ran⟩ := bind_eq_ok.mp ran
      obtain ⟨⟨others, last⟩, later, ran⟩ := bind_eq_ok.mp ran
      cases pure_eq_ok.mp ran
      obtain ⟨text, read, -, rfl⟩ := takeDocument_eq_ok first
      have after := ih later
      by_cases stored : parses text = true ∧ new.opens = true ∧ new.processID = processID
      · have here : storedFor parses processID new = some text := by
          rw [storedFor, read]
          simp [stored]
        rw [if_pos stored.1, content_store named, if_pos stored.2] at after
        rw [List.filterMap_cons_some here, if_neg (List.cons_ne_nil _ _), after, List.map_cons]
        split
        · rename_i none
          rw [none]
          rfl
        · rfl
      · have here : storedFor parses processID new = none := by
          rw [storedFor, read]
          simpa [Option.filter_eq_none_iff, and_assoc] using stored
        have same : (if parses text then (Store_xTEDS new.opens new.processID text files).2
            else files) name = files name := by
          split
          · rename_i valid
            rw [content_store named, if_neg fun both => stored ⟨valid, both⟩]
          · rfl
        rw [same] at after
        rw [List.filterMap_cons_none here, after]

/-! ### What is read back -/

/-- The file of an ASIM is read as a text. -/
theorem text_of_retrieve {content : List UInt8} {xTEDSOut : Memory} {wanted : CString}
    (named : PIDToFileName processID = some name) (there : files name = some content)
    (noNul : (0 : UInt8) ∉ content) :
    (∃ out, Retrieve_xTEDS true processID xTEDSOut files = .ok (0, out) ∧
      out.text 0 MAX_XTEDS_SIZE = some wanted) ↔
        content.length < MAX_XTEDS_SIZE ∧ wanted.bytes = content := by
  have unfolded : Retrieve_xTEDS true processID xTEDSOut files = (do
      access ⟨MAX_XTEDS_SIZE, (content.take MAX_XTEDS_SIZE).length, 1⟩
      pure (0, (xTEDSOut.store 0 (content.take MAX_XTEDS_SIZE)).store
        (content.take MAX_XTEDS_SIZE).length [0])) := by
    simp only [Retrieve_xTEDS, named, there, if_true]
  rw [unfolded]
  by_cases short : content.length < MAX_XTEDS_SIZE
  · have whole : content.take MAX_XTEDS_SIZE = content := List.take_of_length_le (Nat.le_of_lt short)
    rw [whole]
    have inside : Access.Inside ⟨MAX_XTEDS_SIZE, content.length, 1⟩ := short
    have text : ((xTEDSOut.store 0 content).store content.length [0]).text 0 MAX_XTEDS_SIZE =
        some ⟨content, noNul⟩ := by
      refine Memory.text_eq (fun j lt => ?_) ?_ ?_
      · have within : j < content.length := lt
        rw [Memory.store_of_outside (.inl (by rwa [Nat.zero_add]))]
        exact Memory.store_add within
      · rw [Nat.zero_add]
        exact Memory.store_singleton
      · rwa [Nat.zero_add]
    constructor
    · rintro ⟨out, retrieved, read⟩
      obtain ⟨-, -, done⟩ := bind_eq_ok.mp retrieved
      cases pure_eq_ok.mp done
      cases text.symm.trans read
      exact ⟨short, rfl⟩
    · rintro ⟨-, rfl⟩
      exact ⟨_, bind_eq_ok.mpr ⟨(), access_eq_ok.mpr inside, rfl⟩, text⟩
  · refine iff_of_false ?_ fun both => short both.1
    rintro ⟨out, retrieved, -⟩
    obtain ⟨_, inside, _⟩ := bind_eq_ok.mp retrieved
    have inside := access_eq_ok.mp inside
    rw [Access.Inside, List.length_take, Nat.min_eq_left (Nat.le_of_not_lt short)] at inside
    exact Nat.not_succ_le_self _ inside

theorem noNul_fileBytes {text : CString} : (0 : UInt8) ∉ fileBytes text := by
  intro mem
  rcases List.mem_append.mp mem with inside | newline
  · exact text.nul_notMem inside
  · exact absurd (List.mem_singleton.mp newline) (by decide)

theorem length_fileBytes {text : CString} : (fileBytes text).length = text.length + 1 :=
  List.length_append

/-- **The document that was stored last is read back** exactly when no longer one was stored for the
ASIM before, and the array has room for its terminator behind the end of the line. -/
theorem retrieve_eq_last_iff (ran : registerAll parses news (fun _ => none) = .ok (all, files))
    {earlier : List CString} {last : CString}
    (stored : news.filterMap (storedFor parses processID) = earlier ++ [last])
    (asim : IsPIDFromASIM processID = true) (xTEDSOut : Memory) :
    (∃ out, Retrieve_xTEDS true processID xTEDSOut files = .ok (0, out) ∧
      out.text 0 MAX_XTEDS_SIZE = some (last.append (.ofString "\n"))) ↔
        (∀ text ∈ earlier, text.length ≤ last.length) ∧ last.length + 1 < MAX_XTEDS_SIZE := by
  obtain ⟨name, named⟩ := Option.isSome_iff_exists.mp (PIDToFileName_isSome.trans asim)
  have content := content_registerAll named ran
  rw [stored, if_neg (List.concat_ne_nil _ _), List.map_append, List.map_singleton,
    Option.getD_none] at content
  have noNul : (0 : UInt8) ∉ written (earlier.map fileBytes ++ [fileBytes last]) [] := by
    intro mem
    rcases mem_written mem with none | ⟨piece, inside, here⟩
    · exact absurd none List.not_mem_nil
    · rw [← List.map_singleton, ← List.map_append] at inside
      obtain ⟨text, -, rfl⟩ := List.mem_map.mp inside
      exact noNul_fileBytes here
  rw [text_of_retrieve named content noNul]
  have wanted : (last.append (.ofString "\n")).bytes = fileBytes last := rfl
  have alone : written (earlier.map fileBytes ++ [fileBytes last]) [] = fileBytes last ↔
      ∀ text ∈ earlier, text.length ≤ last.length := by
    rw [written_concat_eq_iff]
    simp [length_fileBytes]
  rw [wanted, eq_comm, alone]
  constructor
  · rintro ⟨short, longest⟩
    rw [alone.mpr longest, length_fileBytes] at short
    exact ⟨longest, short⟩
  · rintro ⟨longest, short⟩
    rw [alone.mpr longest, length_fileBytes]
    exact ⟨short, longest⟩

/-- Valid documents are registered. -/
theorem registerAll_of_valid (valid : ∀ new ∈ news, ∃ text,
    new.xTEDS.text 0 MAX_XTEDS_SIZE = some text ∧ parses text = true) :
    ∃ files', registerAll parses news files = .ok (news.map fun _ => true, files') := by
  induction news generalizing files with
  | nil => exact ⟨files, rfl⟩
  | cons new news ih =>
      obtain ⟨⟨text, read, parsed⟩, rest⟩ := List.forall_mem_cons.mp valid
      have first : ∃ between, takeDocument parses new files = .ok (true, between) := by
        unfold takeDocument
        cases asim : IsPIDFromASIM new.processID with
        | true =>
            refine ⟨(Store_xTEDS new.opens new.processID text files).2,
              bind_eq_ok.mpr ⟨text, deref_eq_ok.mpr read, ?_⟩⟩
            rw [if_pos parsed, if_pos rfl]
            rfl
        | false =>
            refine ⟨files, bind_eq_ok.mpr ⟨text, deref_eq_ok.mpr read, ?_⟩⟩
            rw [if_pos parsed, if_neg Bool.false_ne_true]
            rfl
      obtain ⟨between, first⟩ := first
      obtain ⟨files', later⟩ := @ih between rest
      exact ⟨files', bind_eq_ok.mpr ⟨_, first, bind_eq_ok.mpr ⟨_, later, rfl⟩⟩⟩

/-- A new registration of an ASIM with this document. -/
def someASIM (text : String) : NewXTEDS :=
  ⟨-7, Memory.store (fun _ => 0) 0 (CString.ofString text).bytes, true⟩

theorem text_someASIM {text : String} (short : (CString.ofString text).length < MAX_XTEDS_SIZE) :
    (someASIM text).xTEDS.text 0 MAX_XTEDS_SIZE = some (.ofString text) := by
  have stored : (someASIM text).xTEDS = Memory.store (fun _ => 0) 0 (CString.ofString text).bytes :=
    rfl
  rw [stored]
  refine Memory.text_eq (fun j lt => Memory.store_add lt) ?_ (by rwa [Nat.zero_add])
  exact Memory.store_of_outside (.inr (Nat.le_refl _))

theorem storedFor_someASIM {text : String}
    (short : (CString.ofString text).length < MAX_XTEDS_SIZE) :
    storedFor (fun _ => true) (-7) (someASIM text) = some (.ofString text) := by
  rw [storedFor, text_someASIM short]
  rfl

theorem retrieve_longer_document : ∃ all files,
    registerAll (fun _ => true) [someASIM "a", someASIM "ab"] (fun _ => none) = .ok (all, files) ∧
      ((∃ out, Retrieve_xTEDS true (-7) (fun _ => 0) files = .ok (0, out) ∧
        out.text 0 MAX_XTEDS_SIZE = some ((CString.ofString "ab").append (.ofString "\n"))) ↔
          (∀ text ∈ [CString.ofString "a"], text.length ≤ (CString.ofString "ab").length) ∧
            (CString.ofString "ab").length + 1 < MAX_XTEDS_SIZE) := by
  have a := @text_someASIM "a" (by decide)
  have ab := @text_someASIM "ab" (by decide)
  obtain ⟨files, ran⟩ := @registerAll_of_valid (fun _ => none) (fun _ => true)
    [someASIM "a", someASIM "ab"] (by simp [a, ab])
  refine ⟨_, files, ran, retrieve_eq_last_iff ran ?_ rfl _⟩
  rw [List.filterMap_cons_some (storedFor_someASIM (by decide)),
    List.filterMap_cons_some (storedFor_someASIM (by decide))]
  rfl

end

end Sdm
