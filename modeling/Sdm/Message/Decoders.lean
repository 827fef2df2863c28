import Sdm.Lib.Checked
import Sdm.Message.Marshalling
import Sdm.Message.Requests
import Sdm.Message.TaskMessages

/-!
`Unmarshal` of the messages whose length the datagram decides, on a 32-bit target.

A datagram is received into a buffer of `BUFSIZE` bytes that holds anything behind it. The
only length that a decoder knows is the `msg_length` of the header, which the sender wrote.
A decoder is a `Checked` computation: it ends at the first access that leaves the buffer or
an array of the message.

* `MessageKind.safe_unmarshal`: a decoder whose header is rejected is safe.
* `safe_copyMatches_iff`: the loop over the captured matches needs an empty text in the buffer.
* `unmarshal_safe_iff`: every decoder stays inside exactly when the texts that it walks over
  end in the buffer, the arrays that it does not cut them to can hold them, and the length of
  the data fits the buffer and its array.
-/

namespace Sdm

open Lib Checked

/-! ### The header -/

def SDM_INVALID_MESSAGE : Int := -3
def SDM_NO_FURTHER_DATA_PROVIDER : Int := -4

/-- `XTEDS_MAX_ITEM_NAME_SIZE`: the array of a name, its terminator included. -/
def XTEDS_MAX_ITEM_NAME_SIZE : Nat := 33

/-- `MSG_DEF_SIZE`: the array of a definition. -/
def MSG_DEF_SIZE : Nat := (BUFSIZE - 27) / 2

def QUALLIST_MAX_SIZE : Nat := 1024

/-- The fields of `SDMmessage` that the header gives. -/
structure Header where
  sec : UInt32
  subsec : UInt32
  msg_length : Int16
  deriving DecidableEq

/-- What the constructor of a message fixes for the checks of its header. -/
structure MessageKind where
  MsgName : UInt8
  total_length : Int16
  /-- The message has an empty form, which is an error to its receiver. -/
  hasEmpty : Bool
  positive : 0 < total_length

/-- What `Unmarshal` returns: an error, or how far it went, with the message. -/
inductive Decoded (α : Type) where
  | error (code : Int)
  | message (cur : Int) (header : Header) (msg : α)

/-- The number that `Unmarshal` returns. -/
def Decoded.value {α : Type} : Decoded α → Int
  | .error code => code
  | .message cur _ _ => cur

/-- A buffer of the size of a message. -/
abbrev recvBuffer (buf : Memory) : Buffer := ⟨buf, BUFSIZE⟩

/-- `SDMmessage::UnmarshalHeader`; none for `SDM_INVALID_MESSAGE`. The `msg_length` is a
`short`, and an unsigned number in the buffer. -/
def UnmarshalHeader (MsgName : UInt8) (buf : Memory) : Checked (Option Header) := do
  let name ← (recvBuffer buf).load8 0
  if name ≠ MsgName then
    pure none
  else
    let sec ← (recvBuffer buf).load32 1
    let subsec ← (recvBuffer buf).load32 5
    let msg_length ← (recvBuffer buf).load16 9
    pure (some ⟨sec, subsec, msg_length.toInt16⟩)

namespace MessageKind

variable {kind : MessageKind} {α : Type} {buf : Memory}

/-- The checks that every decoder begins with, and what it does behind the header. -/
def unmarshal (kind : MessageKind) (buf : Memory) (body : Header → Checked (Int × α)) :
    Checked (Decoded α) := do
  match ← UnmarshalHeader kind.MsgName buf with
  | none => pure (.error SDM_INVALID_MESSAGE)
  | some header =>
      if kind.hasEmpty ∧ header.msg_length = 0 then
        pure (.error SDM_NO_FURTHER_DATA_PROVIDER)
      else if header.msg_length < kind.total_length then
        pure (.error SDM_INVALID_MESSAGE)
      else
        let (cur, msg) ← body header
        pure (.message cur header msg)

end MessageKind

/-- A number as the length argument of the C library, a `size_t`. -/
def size_t (n : Int) : Nat := (n % 4294967296).toNat

/-- `SDMComponent_ID::Unmarshal`: ten bytes. -/
def loadComponent (buf : Memory) (start : Nat) : Checked SDMComponentID :=
  (recvBuffer buf).fetch start 10 (SDMComponentID.unmarshal buf start)

/-- `SDMMessage_ID::Unmarshal`: two bytes. -/
def loadMessageID (buf : Memory) (start : Nat) : Checked SDMMessageID :=
  (recvBuffer buf).fetch start 2 ⟨buf start, buf (start + 1)⟩

/-! ### Data and code -/

/-- `SDMData` as it is received. -/
structure SDMData.Received extends SDMData where
  pid : Int32

/-- `SDMCode` as it is received. -/
structure SDMCode.Received extends SDMCode where
  c_sum : Int32

def SDMData.kind : MessageKind := ⟨'t'.toUInt8, 18, false, by decide⟩
def SDMCode.kind : MessageKind := ⟨'d'.toUInt8, 9, false, by decide⟩
def SDMTask.kind : MessageKind := ⟨'b'.toUInt8, 10, false, by decide⟩

/-- `SDMData::Unmarshal`. -/
def SDMData.Unmarshal (buf : Memory) : Checked (Decoded SDMData.Received) :=
  SDMData.kind.unmarshal buf fun header => do
    let cur := HEADER_SIZE
    let source ← loadComponent buf cur
    let cur := cur + 10
    let msg_id ← loadMessageID buf cur
    let cur := cur + 2
    let pid ← (recvBuffer buf).load32 cur
    let cur := cur + 4
    let seq_num ← (recvBuffer buf).load16 cur
    let cur := cur + 2
    let length := header.msg_length.toInt - cur + HEADER_SIZE
    let msg ← (recvBuffer buf).memcpy (BUFSIZE - 29) 0 cur (size_t length)
    pure (header.msg_length.toInt + HEADER_SIZE,
      { source, msg_id, pid := pid.toInt32, seq_num := seq_num.toInt16, msg })

/-- `SDMCode::Unmarshal`. The code has the length that is left of the message by the name that
the message keeps, from the end of the name that the buffer holds. -/
def SDMCode.Unmarshal (buf : Memory) : Checked (Decoded SDMCode.Received) :=
  SDMCode.kind.unmarshal buf fun header => do
    let cur := HEADER_SIZE
    let seq_num ← (recvBuffer buf).load16 cur
    let cur := cur + 2
    let num_segments ← (recvBuffer buf).load16 cur
    let cur := cur + 2
    let (uiCurLength, filename) ← (recvBuffer buf).copyTruncated MAX_FILENAME_SIZE cur
    let cur := cur + (uiCurLength + 1)
    let code_length := size_t (header.msg_length.toInt - (filename.length + 1) - 8)
    let code ← (recvBuffer buf).memcpy (BUFSIZE - MAX_FILENAME_SIZE - 21) 0 cur code_length
    let cur := cur + code_length
    let c_sum ← (recvBuffer buf).load32 cur
    let cur := cur + 4
    pure (cur, { seq_num, num_segments, filename, code, c_sum := c_sum.toInt32 })

/-- `SDMTask::Unmarshal`. -/
def SDMTask.Unmarshal (buf : Memory) : Checked (Decoded SDMTask) :=
  SDMTask.kind.unmarshal buf fun _ => do
    let cur := HEADER_SIZE
    let source ← loadComponent buf cur
    let cur := cur + 10
    let priority ← (recvBuffer buf).load8 cur
    let cur := cur + 1
    let pid ← (recvBuffer buf).load32 cur
    let cur := cur + 4
    let version ← (recvBuffer buf).load32 cur
    let cur := cur + 4
    let (uiCurLength, filename) ← (recvBuffer buf).copyTruncated MAX_FILENAME_SIZE cur
    let cur := cur + (uiCurLength + 1)
    pure (cur, { source, priority := priority.toInt8, pid := pid.toInt32
                 version := version.toInt32, filename })

/-! ### Replies -/

/-- `SDMSearchReply`, without its empty form; the captured matches are the bytes copied. -/
structure SDMSearchReply where
  source : SDMComponentID
  id : UInt16
  captured_matches : List UInt8
  deriving DecidableEq

/-- `SDMRegInfo` as it is received: its type is any byte. -/
structure SDMRegInfo.Received where
  source : SDMComponentID
  msg_id : SDMMessageID
  id : UInt16
  type : UInt8
  msg_def : CString
  xTEDS_section : CString
  deriving DecidableEq

/-- `SDMVarInfo`, without its empty form. -/
structure SDMVarInfo where
  source : SDMComponentID
  id : UInt16
  interface : CString
  var_xTEDS : CString
  deriving DecidableEq

def SDMSearchReply.kind : MessageKind := ⟨'J'.toUInt8, 13, true, by decide⟩
def SDMRegInfo.kind : MessageKind := ⟨'o'.toUInt8, 16, true, by decide⟩
def SDMVarInfo.kind : MessageKind := ⟨'O'.toUInt8, 14, true, by decide⟩

/-- The loop of `SDMSearchReply::Unmarshal` over the captured matches, which an empty one ends:
where it is then in the buffer and in the array, with the bytes that it copied. -/
def copyMatches (b : Buffer) (arraySize cur bufmarker : Nat) (captured_matches : List UInt8) :
    Checked (Nat × Nat × List UInt8) :=
  if inside : cur < b.size then
    if b.bytes cur = 0 then
      pure (cur, bufmarker, captured_matches)
    else do
      let n ← b.strlen cur
      let copied ← b.memcpy arraySize bufmarker cur (n + 1)
      copyMatches b arraySize (cur + (n + 1)) (bufmarker + (n + 1)) (captured_matches ++ copied)
  else .error ⟨⟨b.size, cur, 1⟩, by simp only [Access.Inside]; omega⟩
termination_by b.size - cur

/-- `SDMSearchReply::Unmarshal`. -/
def SDMSearchReply.Unmarshal (buf : Memory) : Checked (Decoded SDMSearchReply) :=
  SDMSearchReply.kind.unmarshal buf fun _ => do
    let cur := HEADER_SIZE
    let source ← loadComponent buf cur
    let cur := cur + 10
    let id ← (recvBuffer buf).load16 cur
    let cur := cur + 2
    let (cur, bufmarker, captured_matches) ← copyMatches (recvBuffer buf) (BUFSIZE - 23) cur 0 []
    access ⟨BUFSIZE - 23, bufmarker, 1⟩
    let cur := cur + 1
    pure (cur, { source, id, captured_matches := captured_matches ++ [0] })

/-- `SDMRegInfo::Unmarshal`. -/
def SDMRegInfo.Unmarshal (buf : Memory) : Checked (Decoded SDMRegInfo.Received) :=
  SDMRegInfo.kind.unmarshal buf fun _ => do
    let cur := HEADER_SIZE
    let source ← loadComponent buf cur
    let cur := cur + 10
    let msg_id ← loadMessageID buf cur
    let cur := cur + 2
    let id ← (recvBuffer buf).load16 cur
    let cur := cur + 2
    let type ← (recvBuffer buf).load8 cur
    let cur := cur + 1
    let msg_def ← (recvBuffer buf).strcpy MSG_DEF_SIZE cur
    let cur := cur + (msg_def.length + 1)
    let xTEDS_section ← (recvBuffer buf).strcpy MSG_DEF_SIZE cur
    let cur := cur + (xTEDS_section.length + 1)
    pure (cur, { source, msg_id, id, type, msg_def, xTEDS_section })

/-- `SDMVarInfo::Unmarshal`. -/
def SDMVarInfo.Unmarshal (buf : Memory) : Checked (Decoded SDMVarInfo) :=
  SDMVarInfo.kind.unmarshal buf fun _ => do
    let cur := HEADER_SIZE
    let source ← loadComponent buf cur
    let cur := cur + 10
    let id ← (recvBuffer buf).load16 cur
    let cur := cur + 2
    let interface ← (recvBuffer buf).strcpy XTEDS_MAX_ITEM_NAME_SIZE cur
    let cur := cur + (interface.length + 1)
    let var_xTEDS ← (recvBuffer buf).strcpy (BUFSIZE - 78) cur
    let cur := cur + (var_xTEDS.length + 1)
    pure (cur, { source, id, interface, var_xTEDS })

/-! ### Requests -/

/-- The shortest requests have 24 bytes. -/
theorem positive_request : (0 : Int16) < 24 := by decide

def SDMVarReq.kind : MessageKind := ⟨'N'.toUInt8, 25, false, by decide⟩
def SDMReqReg.kind : MessageKind := ⟨'n'.toUInt8, 27, false, by decide⟩
def SDMSearch.kind : MessageKind := ⟨'I'.toUInt8, 24, false, positive_request⟩

/-- `SDMVarReq::Unmarshal`. -/
def SDMVarReq.Unmarshal (buf : Memory) : Checked (Decoded SDMVarReq) :=
  SDMVarReq.kind.unmarshal buf fun _ => do
    let cur := HEADER_SIZE
    let source ← loadComponent buf cur
    let cur := cur + 10
    let destination ← loadComponent buf cur
    let cur := cur + 10
    let reply ← (recvBuffer buf).load8 cur
    let cur := cur + 1
    let msg_id ← loadMessageID buf cur
    let cur := cur + 2
    let id ← (recvBuffer buf).load16 cur
    let cur := cur + 2
    let «variable» ← (recvBuffer buf).strcpy XTEDS_MAX_ITEM_NAME_SIZE cur
    let cur := cur + («variable».length + 1)
    pure (cur, { source, destination, reply, msg_id, id, «variable» })

/-- `SDMReqReg::Unmarshal`. -/
def SDMReqReg.Unmarshal (buf : Memory) : Checked (Decoded SDMReqReg) :=
  SDMReqReg.kind.unmarshal buf fun _ => do
    let cur := HEADER_SIZE
    let source ← loadComponent buf cur
    let cur := cur + 10
    let destination ← loadComponent buf cur
    let cur := cur + 10
    let reply ← (recvBuffer buf).load8 cur
    let cur := cur + 1
    let id ← (recvBuffer buf).load16 cur
    let cur := cur + 2
    let (uiCurLength, device) ← (recvBuffer buf).copyTruncated XTEDS_MAX_ITEM_NAME_SIZE cur
    let cur := cur + (uiCurLength + 1)
    let (uiCurLength, interface) ← (recvBuffer buf).copyTruncated XTEDS_MAX_ITEM_NAME_SIZE cur
    let cur := cur + (uiCurLength + 1)
    let (uiCurLength, item_name) ← (recvBuffer buf).copyTruncated XTEDS_MAX_ITEM_NAME_SIZE cur
    let cur := cur + (uiCurLength + 1)
    let (uiCurLength, quallist) ← (recvBuffer buf).copyTruncated QUALLIST_MAX_SIZE cur
    let cur := cur + (uiCurLength + 1)
    pure (cur, { source, destination, reply, id, device, interface, item_name, quallist })

/-- `SDMSearch::Unmarshal`. -/
def SDMSearch.Unmarshal (buf : Memory) : Checked (Decoded SDMSearch) :=
  SDMSearch.kind.unmarshal buf fun _ => do
    let cur := HEADER_SIZE
    let source ← loadComponent buf cur
    let cur := cur + 10
    let destination ← loadComponent buf cur
    let cur := cur + 10
    let reply ← (recvBuffer buf).load8 cur
    let cur := cur + 1
    let id ← (recvBuffer buf).load16 cur
    let cur := cur + 2
    let (reg_expr_msg_length, reg_expr) ← (recvBuffer buf).copyTruncated (BUFSIZE - 33) cur
    let cur := cur + (reg_expr_msg_length + 1)
    pure (cur, { source, destination, reply, id, reg_expr })

/-! ### What a decoder needs of the buffer -/

/-- The header in a buffer. -/
def headerOf (buf : Memory) : Header := ⟨buf.load32 1, buf.load32 5, (buf.load16 9).toInt16⟩

/-- The `msg_length` in a buffer. -/
def msgLength (buf : Memory) : Int := (headerOf buf).msg_length.toInt

/-- The header is of this kind, and the length in it not too small. -/
def MessageKind.Accepts (kind : MessageKind) (buf : Memory) : Prop :=
  buf 0 = kind.MsgName ∧ kind.total_length ≤ (headerOf buf).msg_length

/-- A text of `n` bytes stands at the offset of the buffer, its terminator included. -/
abbrev TextAt (buf : Memory) (off n : Nat) : Prop := (recvBuffer buf).TextAt off n

/-- A row of texts stands from the offset on, and the empty text at `e` ends it. -/
def EndsAt (b : Buffer) (off e : Nat) : Prop :=
  off ≤ e ∧ e < b.size ∧ b.bytes e = 0 ∧ (e = off ∨ b.bytes (e - 1) = 0)

def SDMData.Fits (buf : Memory) : Prop := msgLength buf + HEADER_SIZE ≤ BUFSIZE

/-- The name ends in the buffer, and the length leaves room for what is kept of the name, for
no more code than the array takes, and for a message in the buffer. -/
def SDMCode.Fits (buf : Memory) : Prop :=
  ∃ n, TextAt buf 15 n ∧
    ((min n (MAX_FILENAME_SIZE - 1) : Nat) + 9 : Int) ≤ msgLength buf ∧
    msgLength buf ≤ (min n (MAX_FILENAME_SIZE - 1) : Nat) + 9 +
      (BUFSIZE - MAX_FILENAME_SIZE - 21 : Nat) ∧
    n + msgLength buf + HEADER_SIZE ≤ (min n (MAX_FILENAME_SIZE - 1) : Nat) + BUFSIZE

def SDMTask.Fits (buf : Memory) : Prop := ∃ filename, TextAt buf 30 filename

def SDMSearchReply.Fits (buf : Memory) : Prop := ∃ e, EndsAt (recvBuffer buf) 23 e

def SDMRegInfo.Fits (buf : Memory) : Prop :=
  ∃ msg_def, TextAt buf 26 msg_def ∧ msg_def < MSG_DEF_SIZE ∧
  ∃ xTEDS_section, TextAt buf (26 + (msg_def + 1)) xTEDS_section ∧ xTEDS_section < MSG_DEF_SIZE

def SDMVarInfo.Fits (buf : Memory) : Prop :=
  ∃ interface, TextAt buf 23 interface ∧ interface < XTEDS_MAX_ITEM_NAME_SIZE ∧
  ∃ var_xTEDS, TextAt buf (23 + (interface + 1)) var_xTEDS ∧ var_xTEDS < BUFSIZE - 78

def SDMVarReq.Fits (buf : Memory) : Prop :=
  ∃ name, TextAt buf 36 name ∧ name < XTEDS_MAX_ITEM_NAME_SIZE

def SDMReqReg.Fits (buf : Memory) : Prop :=
  ∃ device, TextAt buf 34 device ∧
  ∃ interface, TextAt buf (34 + (device + 1)) interface ∧
  ∃ item_name, TextAt buf (34 + (device + 1) + (interface + 1)) item_name ∧
  ∃ quallist, TextAt buf (34 + (device + 1) + (interface + 1) + (item_name + 1)) quallist

def SDMSearch.Fits (buf : Memory) : Prop := ∃ reg_expr, TextAt buf 34 reg_expr

/-! ### The header is safe -/

section Header

variable {kind : MessageKind} {α : Type} {buf : Memory} {body : Header → Checked (Int × α)}

theorem UnmarshalHeader_eq {MsgName : UInt8} :
    UnmarshalHeader MsgName buf =
      .ok (if buf 0 = MsgName then some (headerOf buf) else none) := by
  simp only [UnmarshalHeader, bind_eq_ok, Buffer.load8_eq_ok]
  refine ⟨_, ⟨by decide, rfl⟩, ?_⟩
  by_cases same : buf 0 = MsgName
  · rw [if_neg (not_not_intro same), if_pos same]
    rfl
  · rw [if_pos same, if_neg same]
    rfl

/-- A decoder stays inside when it rejects the header, and when its body does. -/
theorem MessageKind.safe_unmarshal : Safe (kind.unmarshal buf body) ↔
    (kind.Accepts buf → Safe (body (headerOf buf))) := by
  simp only [MessageKind.unmarshal, safe_bind, UnmarshalHeader_eq, Except.ok.injEq,
    exists_eq_left', MessageKind.Accepts]
  by_cases name : buf 0 = kind.MsgName
  · rw [if_pos name]
    by_cases short : (headerOf buf).msg_length < kind.total_length
    · have rejected : ¬ kind.total_length ≤ (headerOf buf).msg_length := Int16.not_le.mpr short
      refine iff_of_true ?_ fun accepted => absurd accepted.2 rejected
      simp only
      split
      · exact safe_pure
      · exact safe_pure
    · -- The empty form is shorter than every message, so it is not what is accepted here.
      have filled : ¬ (kind.hasEmpty ∧ (headerOf buf).msg_length = 0) := by
        rintro ⟨_, empty⟩
        rw [empty] at short
        exact short kind.positive
      simp only [if_neg filled, if_neg short, name, Int16.not_lt.mp short, true_and,
        forall_const, Safe, bind_eq_ok, pure_eq_ok]
      constructor
      · rintro ⟨_, ⟨cur, msg⟩, same, _⟩
        exact ⟨_, same⟩
      · rintro ⟨⟨cur, msg⟩, same⟩
        exact ⟨_, _, same, rfl⟩
  · rw [if_neg name]
    exact iff_of_true safe_pure fun accepted => absurd accepted.1 name

/-- A length that is below zero is larger than every object. -/
theorem size_t_le_iff {n : Int} {k : Nat} (low : -2147483648 ≤ n) (high : n < 2147483648)
    (small : k < 2147483648) : size_t n ≤ k ↔ 0 ≤ n ∧ n ≤ k := by
  rw [size_t]
  omega

theorem msg_length_eq : (headerOf buf).msg_length.toInt = msgLength buf := rfl

theorem msgLength_lt (buf : Memory) : msgLength buf < 32768 := (headerOf buf).msg_length.toInt_lt

theorem le_msgLength (buf : Memory) : -32768 ≤ msgLength buf := (headerOf buf).msg_length.le_toInt

end Header

/-! ### The captured matches -/

section Matches

variable {b : Buffer} {arraySize cur bufmarker cur' bufmarker' : Nat}
  {matched matched' : List UInt8}

theorem EndsAt.of_textAt {n e : Nat} (text : b.TextAt cur n)
    (ends : EndsAt b (cur + (n + 1)) e) : EndsAt b cur e := by
  obtain ⟨behind, within, nul, first | before⟩ := ends
  · refine ⟨by omega, within, nul, Or.inr ?_⟩
    rw [first]
    exact text.2.1
  · exact ⟨by omega, within, nul, Or.inr before⟩

/-- Before the row ends there is a text, and the row ends behind it. -/
theorem EndsAt.exists_textAt {e : Nat} (ends : EndsAt b cur e) (filled : b.bytes cur ≠ 0) :
    ∃ n, b.TextAt cur n ∧ EndsAt b (cur + (n + 1)) e := by
  obtain ⟨behind, within, nul, first | before⟩ := ends
  · rw [← first] at filled
    exact absurd nul filled
  · have later : cur ≠ e := by
      rintro rfl
      exact filled nul
    obtain ⟨n, text, le⟩ := Buffer.exists_textAt cur (by omega) (by omega) before
    refine ⟨n, text, by omega, within, nul, ?_⟩
    by_cases last : cur + n = e - 1
    · exact Or.inl (by omega)
    · exact Or.inr before

/-- **The loop stays inside** exactly when an empty text ends the row. The array takes what is
left of the buffer, so it is never the one that is too small. -/
theorem safe_copyMatches_iff (matched : List UInt8)
    (room : bufmarker + (b.size - cur) ≤ arraySize) :
    Safe (copyMatches b arraySize cur bufmarker matched) ↔ ∃ e, EndsAt b cur e := by
  fun_induction copyMatches b arraySize cur bufmarker matched with
  | case1 cur bufmarker matched inside empty =>
      exact iff_of_true safe_pure ⟨cur, Nat.le_refl _, inside, empty, Or.inl rfl⟩
  | case2 cur bufmarker matched inside filled ih =>
      simp only [safe_bind, Buffer.strlen_eq_ok, Buffer.memcpy_eq_ok]
      constructor
      · rintro ⟨n, text, _, ⟨_, fits, _⟩, rest⟩
        have within := text.2.2
        obtain ⟨e, ends⟩ := (ih n _ (by omega)).mp rest
        exact ⟨e, ends.of_textAt text⟩
      · rintro ⟨e, ends⟩
        obtain ⟨n, text, rest⟩ := ends.exists_textAt filled
        have within := text.2.2
        exact ⟨n, text, _, ⟨by omega, by omega, rfl⟩, (ih n _ (by omega)).mpr ⟨e, rest⟩⟩
  | case3 cur bufmarker matched outside =>
      refine iff_of_false not_safe_error ?_
      rintro ⟨e, behind, within, _⟩
      omega

/-- The two places of the loop keep their distance, and the first stays in the buffer. -/
theorem copyMatches_ends (ends : copyMatches b arraySize cur bufmarker matched =
    .ok (cur', bufmarker', matched')) : cur' < b.size ∧ cur' + bufmarker = cur + bufmarker' := by
  fun_induction copyMatches b arraySize cur bufmarker matched with
  | case1 cur bufmarker matched inside empty =>
      cases ends
      exact ⟨inside, rfl⟩
  | case2 cur bufmarker matched inside filled ih =>
      obtain ⟨n, _, rest⟩ := bind_eq_ok.mp ends
      obtain ⟨copied, _, rest⟩ := bind_eq_ok.mp rest
      obtain ⟨within, same⟩ := ih n copied rest
      exact ⟨within, by omega⟩
  | case3 cur bufmarker matched outside => cases ends

end Matches

/-! ### Every decoder -/

section Decoders

variable {buf : Memory}

theorem SDMData.safe_iff :
    Safe (SDMData.Unmarshal buf) ↔ (SDMData.kind.Accepts buf → SDMData.Fits buf) := by
  rw [SDMData.Unmarshal, MessageKind.safe_unmarshal]
  refine forall_congr' fun accepted => ?_
  have long : 18 ≤ msgLength buf := Int16.le_iff_toInt_le.mp accepted.2
  have short := msgLength_lt buf
  simp only [Buffer.safe_fetch_bind, Buffer.safe_memcpy_bind, loadComponent, loadMessageID,
    Buffer.load16, Buffer.load32, safe_pure, and_true, SDMData.Fits, HEADER_SIZE, BUFSIZE,
    msg_length_eq]
  generalize length : msgLength buf - ((11 + 10 + 2 + 4 + 2 : Nat) : Int) + (11 : Nat) = n
  have := size_t_le_iff (n := n) (k := 24259) (by omega) (by omega) (by omega)
  omega

theorem SDMCode.safe_iff :
    Safe (SDMCode.Unmarshal buf) ↔ (SDMCode.kind.Accepts buf → SDMCode.Fits buf) := by
  rw [SDMCode.Unmarshal, MessageKind.safe_unmarshal]
  refine forall_congr' fun _ => ?_
  have low := le_msgLength buf
  have short := msgLength_lt buf
  simp only [Buffer.safe_fetch_bind, Buffer.safe_memcpy_bind, Buffer.safe_copyTruncated_bind,
    Buffer.load16, Buffer.load32, safe_pure, and_true, true_and, SDMCode.Fits, HEADER_SIZE,
    BUFSIZE, MAX_FILENAME_SIZE, Nat.reduceLT, Nat.reduceAdd, Nat.reduceSub, Nat.reduceLeDiff,
    msg_length_eq]
  refine exists_congr fun n => and_congr_right fun text => ?_
  rw [Buffer.length_textOf text (Nat.min_le_left _ _)]
  have within : 15 + n < 24288 := text.2.2
  have capped := Nat.min_le_right n 127
  generalize min n 127 = k at capped ⊢
  generalize length : msgLength buf - (k + 1) - 8 = code_length
  have array := size_t_le_iff (n := code_length) (k := 24139) (by omega) (by omega) (by omega)
  have buffer := size_t_le_iff (n := code_length) (k := 24268 - n) (by omega) (by omega) (by omega)
  omega

theorem SDMTask.safe_iff :
    Safe (SDMTask.Unmarshal buf) ↔ (SDMTask.kind.Accepts buf → SDMTask.Fits buf) := by
  rw [SDMTask.Unmarshal, MessageKind.safe_unmarshal]
  refine forall_congr' fun _ => ?_
  simp [-bind_pure_comp, loadComponent, Buffer.load8, Buffer.load32, SDMTask.Fits, HEADER_SIZE,
    BUFSIZE, MAX_FILENAME_SIZE]

theorem SDMSearchReply.safe_iff : Safe (SDMSearchReply.Unmarshal buf) ↔
    (SDMSearchReply.kind.Accepts buf → SDMSearchReply.Fits buf) := by
  rw [SDMSearchReply.Unmarshal, MessageKind.safe_unmarshal]
  refine forall_congr' fun _ => ?_
  have room : 0 + ((recvBuffer buf).size - 23) ≤ BUFSIZE - 23 :=
    Nat.le_of_eq (Nat.zero_add _)
  rw [SDMSearchReply.Fits, ← safe_copyMatches_iff [] room]
  simp only [Buffer.safe_fetch_bind, loadComponent, Buffer.load16, HEADER_SIZE, BUFSIZE,
    Nat.reduceAdd, Nat.reduceLeDiff, true_and]
  rw [safe_bind]
  constructor
  · rintro ⟨result, same, _⟩
    exact ⟨result, same⟩
  · rintro ⟨⟨cur, bufmarker, captured⟩, same⟩
    obtain ⟨before, distance⟩ := copyMatches_ends same
    have within : cur < 24288 := before
    refine ⟨_, same, safe_bind.mpr ⟨(), access_eq_ok.mpr ?_, safe_pure⟩⟩
    simp only [Access.Inside]
    omega

theorem SDMRegInfo.safe_iff :
    Safe (SDMRegInfo.Unmarshal buf) ↔ (SDMRegInfo.kind.Accepts buf → SDMRegInfo.Fits buf) := by
  rw [SDMRegInfo.Unmarshal, MessageKind.safe_unmarshal]
  refine forall_congr' fun _ => ?_
  simp only [Buffer.safe_fetch_bind, Buffer.safe_strcpy_bind, loadComponent, loadMessageID,
    Buffer.load8, Buffer.load16, safe_pure, and_true, true_and, SDMRegInfo.Fits, HEADER_SIZE,
    BUFSIZE, Nat.reduceAdd, Nat.reduceLeDiff]
  refine exists_congr fun n => and_congr_right fun text => and_congr_right fun _ => ?_
  rw [Buffer.length_textOf text (Nat.le_refl _)]

theorem SDMVarInfo.safe_iff :
    Safe (SDMVarInfo.Unmarshal buf) ↔ (SDMVarInfo.kind.Accepts buf → SDMVarInfo.Fits buf) := by
  rw [SDMVarInfo.Unmarshal, MessageKind.safe_unmarshal]
  refine forall_congr' fun _ => ?_
  simp only [Buffer.safe_fetch_bind, Buffer.safe_strcpy_bind, loadComponent, Buffer.load16,
    safe_pure, and_true, true_and, SDMVarInfo.Fits, HEADER_SIZE, BUFSIZE, Nat.reduceAdd,
    Nat.reduceLeDiff]
  refine exists_congr fun n => and_congr_right fun text => and_congr_right fun _ => ?_
  rw [Buffer.length_textOf text (Nat.le_refl _)]

theorem SDMVarReq.safe_iff :
    Safe (SDMVarReq.Unmarshal buf) ↔ (SDMVarReq.kind.Accepts buf → SDMVarReq.Fits buf) := by
  rw [SDMVarReq.Unmarshal, MessageKind.safe_unmarshal]
  refine forall_congr' fun _ => ?_
  simp [-bind_pure_comp, loadComponent, loadMessageID, Buffer.load8, Buffer.load16,
    SDMVarReq.Fits, HEADER_SIZE, BUFSIZE]

theorem SDMReqReg.safe_iff :
    Safe (SDMReqReg.Unmarshal buf) ↔ (SDMReqReg.kind.Accepts buf → SDMReqReg.Fits buf) := by
  rw [SDMReqReg.Unmarshal, MessageKind.safe_unmarshal]
  refine forall_congr' fun _ => ?_
  simp [-bind_pure_comp, loadComponent, Buffer.load8, Buffer.load16, SDMReqReg.Fits, HEADER_SIZE,
    BUFSIZE, XTEDS_MAX_ITEM_NAME_SIZE, QUALLIST_MAX_SIZE]

theorem SDMSearch.safe_iff :
    Safe (SDMSearch.Unmarshal buf) ↔ (SDMSearch.kind.Accepts buf → SDMSearch.Fits buf) := by
  rw [SDMSearch.Unmarshal, MessageKind.safe_unmarshal]
  refine forall_congr' fun _ => ?_
  simp [-bind_pure_comp, loadComponent, Buffer.load8, Buffer.load16, SDMSearch.Fits, HEADER_SIZE,
    BUFSIZE]

end Decoders

/-- The messages whose decoders are here. -/
inductive Decoder where
  | SDMData
  | SDMCode
  | SDMTask
  | SDMSearchReply
  | SDMRegInfo
  | SDMVarInfo
  | SDMVarReq
  | SDMReqReg
  | SDMSearch
  deriving DecidableEq

namespace Decoder

def kind : Decoder → MessageKind
  | SDMData => SDMData.kind
  | SDMCode => SDMCode.kind
  | SDMTask => SDMTask.kind
  | SDMSearchReply => SDMSearchReply.kind
  | SDMRegInfo => SDMRegInfo.kind
  | SDMVarInfo => SDMVarInfo.kind
  | SDMVarReq => SDMVarReq.kind
  | SDMReqReg => SDMReqReg.kind
  | SDMSearch => SDMSearch.kind

/-- What the decoder returns. -/
def Unmarshal : Decoder → Memory → Checked Int
  | SDMData, buf => Decoded.value <$> SDMData.Unmarshal buf
  | SDMCode, buf => Decoded.value <$> SDMCode.Unmarshal buf
  | SDMTask, buf => Decoded.value <$> SDMTask.Unmarshal buf
  | SDMSearchReply, buf => Decoded.value <$> SDMSearchReply.Unmarshal buf
  | SDMRegInfo, buf => Decoded.value <$> SDMRegInfo.Unmarshal buf
  | SDMVarInfo, buf => Decoded.value <$> SDMVarInfo.Unmarshal buf
  | SDMVarReq, buf => Decoded.value <$> SDMVarReq.Unmarshal buf
  | SDMReqReg, buf => Decoded.value <$> SDMReqReg.Unmarshal buf
  | SDMSearch, buf => Decoded.value <$> SDMSearch.Unmarshal buf

def Fits : Decoder → Memory → Prop
  | SDMData => SDMData.Fits
  | SDMCode => SDMCode.Fits
  | SDMTask => SDMTask.Fits
  | SDMSearchReply => SDMSearchReply.Fits
  | SDMRegInfo => SDMRegInfo.Fits
  | SDMVarInfo => SDMVarInfo.Fits
  | SDMVarReq => SDMVarReq.Fits
  | SDMReqReg => SDMReqReg.Fits
  | SDMSearch => SDMSearch.Fits

end Decoder

/-- A datagram that a receive buffer takes. -/
structure Datagram where
  bytes : List UInt8
  length_le : bytes.length ≤ BUFSIZE

/-- The buffer after the datagram came in; behind it stands what was there. -/
def Datagram.received (datagram : Datagram) (stale : Memory) : Memory :=
  stale.store 0 datagram.bytes

/-- **When a decoder stays inside**: it returns, with an error or with a message, and has only
accessed bytes of the buffer and of its own arrays, exactly when it rejects the header or the
buffer has what the decoder walks over. -/
theorem unmarshal_safe_iff (decoder : Decoder) (datagram : Datagram) (stale : Memory) :
    Safe (decoder.Unmarshal (datagram.received stale)) ↔
      (decoder.kind.Accepts (datagram.received stale) →
        decoder.Fits (datagram.received stale)) := by
  cases decoder with
  | SDMData => exact safe_map.trans SDMData.safe_iff
  | SDMCode => exact safe_map.trans SDMCode.safe_iff
  | SDMTask => exact safe_map.trans SDMTask.safe_iff
  | SDMSearchReply => exact safe_map.trans SDMSearchReply.safe_iff
  | SDMRegInfo => exact safe_map.trans SDMRegInfo.safe_iff
  | SDMVarInfo => exact safe_map.trans SDMVarInfo.safe_iff
  | SDMVarReq => exact safe_map.trans SDMVarReq.safe_iff
  | SDMReqReg => exact safe_map.trans SDMReqReg.safe_iff
  | SDMSearch => exact safe_map.trans SDMSearch.safe_iff

/-- The header of an `SDMData` that announces more than any buffer holds. -/
def headerOnly : Datagram := ⟨['t'.toUInt8, 0, 0, 0, 0, 0, 0, 0, 0, 255, 127], by decide⟩

/-- The header alone makes the decoder copy from behind the buffer. -/
theorem not_unmarshal_safe :
    ¬ Safe (Decoder.Unmarshal .SDMData (headerOnly.received fun _ => 0)) := by
  intro safe
  have fits := SDMData.safe_iff.mp (safe_map.mp safe) ⟨by decide, by decide⟩
  have long : msgLength (headerOnly.received fun _ => 0) = 32767 := by decide
  rw [SDMData.Fits, long] at fits
  exact absurd fits (by decide)

end Sdm
