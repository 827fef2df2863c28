import Sdm.Message.Encoders

/-!
What is marshalled is decoded again, and forwarded as it was received.

* `MessageCodec.Lawful`: a decoder gives back what stands in the bytes of its own encoder.
* `MessageCodec.Lawful.roundTrips_iff`: what a lawful class needs besides: that a datagram takes
  the message, and that the object it is decoded into is not marked as empty.
* `marshalled_roundTrips_iff`: all classes are lawful, and only one has messages that are too long.
-/

namespace Sdm

open Lib Checked Memory

section Reading

variable {buf : Memory} {off : Nat}

theorem loadComponent_of_has {id : SDMComponentID} (here : buf.Has off id.marshal)
    (within : off + 10 ≤ BUFSIZE) : loadComponent buf off = .ok id :=
  Buffer.fetch_eq_ok.mpr ⟨within, (SDMComponentID.unmarshal_eq here).symm⟩

theorem loadMessageID_of_has {id : SDMMessageID} (here : buf.Has off id.marshal)
    (within : off + 2 ≤ BUFSIZE) : loadMessageID buf off = .ok id := by
  obtain ⟨interface, rest⟩ := has_cons.mp here
  obtain ⟨message, -⟩ := has_cons.mp rest
  exact Buffer.fetch_eq_ok.mpr ⟨within, by rw [interface, message]⟩

theorem load8_of_has {byte : UInt8} (here : buf off = byte) (within : off + 1 ≤ BUFSIZE) :
    (recvBuffer buf).load8 off = .ok byte := Buffer.load8_of_has here within

theorem load16_of_has {x : UInt16} (here : buf.Has off (bytes16 x)) (within : off + 2 ≤ BUFSIZE) :
    (recvBuffer buf).load16 off = .ok x := Buffer.load16_of_has here within

theorem load32_of_has {x : UInt32} (here : buf.Has off (bytes32 x)) (within : off + 4 ≤ BUFSIZE) :
    (recvBuffer buf).load32 off = .ok x := Buffer.load32_of_has here within

theorem strcpy_of_has {arraySize : Nat} {s : CString} (here : buf.Has off (s.bytes ++ [0]))
    (within : off + s.length < BUFSIZE) (fits : s.length < arraySize) :
    (recvBuffer buf).strcpy arraySize off = .ok s := Buffer.strcpy_of_has here within fits

theorem copyTruncated_of_has {arraySize : Nat} {s : CString} (here : buf.Has off (s.bytes ++ [0]))
    (within : off + s.length < BUFSIZE) (fits : s.length < arraySize) :
    (recvBuffer buf).copyTruncated arraySize off = .ok (s.length, s) :=
  Buffer.copyTruncated_of_has here within fits

theorem textField_eq_ok {arraySize : Nat} {text : CString} {bytes : List UInt8} :
    textField arraySize text = .ok bytes ↔
      text.length < arraySize ∧ bytes = text.bytes ++ [0] := by
  simp only [textField, bind_eq_ok, access_eq_ok, pure_eq_ok, Access.Inside, exists_const]
  rw [Nat.zero_add, Nat.succ_le_iff]

theorem dataField_eq_ok {arraySize : Nat} {data bytes : List UInt8} :
    dataField arraySize data = .ok bytes ↔ data.length ≤ arraySize ∧ bytes = data := by
  simp only [dataField, bind_eq_ok, access_eq_ok, pure_eq_ok, Access.Inside, exists_const,
    Nat.zero_add]

@[simp]
theorem SDMMessageID.length_marshal (id : SDMMessageID) : id.marshal.length = 2 := rfl

end Reading

/-! ### Lawful classes -/

namespace MessageCodec

variable {α : Type} {c : MessageCodec α} {buf : Memory} {sec subsec : UInt32}
  {body : List UInt8}

/-- A message with this body. -/
def bytes (c : MessageCodec α) (sec subsec : UInt32) (body : List UInt8) : List UInt8 :=
  c.headerBytes ⟨sec, subsec, Int16.ofNat body.length⟩ ++ body

theorem length_bytes : (c.bytes sec subsec body).length = HEADER_SIZE + body.length := by
  rw [bytes, List.length_append]
  rfl

/-- What a class marshals, and what is decoded from it: a datagram takes the messages that are
`Short`, and no others. -/
structure Lawful (c : MessageCodec α) (Short : α → Prop) : Prop where
  long : ∀ msg body, c.body msg = .ok body → c.kind.total_length.toInt ≤ body.length
  fits : ∀ msg body, c.body msg = .ok body → (HEADER_SIZE + body.length ≤ BUFSIZE ↔ Short msg)
  decode : ∀ msg body, c.body msg = .ok body → HEADER_SIZE + body.length ≤ BUFSIZE →
    ∀ old buf sec subsec, buf.Has 0 (c.bytes sec subsec body) → ∃ got,
      c.Unmarshal old buf =
        .ok (.message (HEADER_SIZE + body.length) ⟨sec, subsec, Int16.ofNat body.length⟩ got) ∧
      c.Same (c.marshalled msg) got ∧ c.body got = .ok body

/-- The header that is received, and the body behind it. -/
theorem unmarshal_of_has {β : Type} {f : Header → Checked (Int × β)} {cur : Int} {msg : β}
    (here : buf.Has 0 (c.bytes sec subsec body))
    (long : c.kind.total_length.toInt ≤ body.length) (fits : HEADER_SIZE + body.length ≤ BUFSIZE)
    (decoded : f ⟨sec, subsec, Int16.ofNat body.length⟩ = .ok (cur, msg)) :
    c.kind.unmarshal buf f = .ok (.message cur ⟨sec, subsec, Int16.ofNat body.length⟩ msg) := by
  have small : body.length < 2 ^ 15 := by
    simp only [HEADER_SIZE, BUFSIZE] at fits
    omega
  obtain ⟨name, rest⟩ := has_cons.mp (has_append.mp here).1
  obtain ⟨hsec, rest⟩ := has_append.mp rest
  obtain ⟨hsubsec, hlength⟩ := has_append.mp rest
  have header : headerOf buf = ⟨sec, subsec, Int16.ofNat body.length⟩ := by
    have read : buf.load16 9 = (Int16.ofNat body.length).toUInt16 := hlength.load16
    rw [headerOf, read, hsec.load32, show buf.load32 5 = subsec from hsubsec.load32]
    rfl
  have length : (Int16.ofNat body.length).toInt = body.length := Int16.toInt_ofNat_of_lt small
  have positive := Int16.lt_iff_toInt_lt.mp c.kind.positive
  have filled : ¬ (c.kind.hasEmpty ∧ Int16.ofNat body.length = 0) := by
    rintro ⟨-, empty⟩
    rw [empty] at length
    omega
  have enough : ¬ Int16.ofNat body.length < c.kind.total_length := by
    rw [Int16.lt_iff_toInt_lt, length]
    omega
  simp only [MessageKind.unmarshal, UnmarshalHeader_eq, if_pos name, header]
  show (if _ then _ else if _ then _ else _) = _
  rw [if_neg filled, if_neg enough, decoded]
  rfl

theorem body_of_has (here : buf.Has 0 (c.bytes sec subsec body)) : buf.Has HEADER_SIZE body :=
  (has_append.mp here).2

/-! ### Round trips -/

/-- The bytes are decoded into the object with the length and the fields that were sent, and the
object is forwarded as these bytes, at any time. -/
def RoundTrips (c : MessageCodec α) (sent : α) (bytes : List UInt8) (old : Object α)
    (stale : Memory) : Prop :=
  ∃ o, c.UnmarshalInto old (stale.store 0 bytes) = .ok (some (bytes.length, o)) ∧
    c.Same sent o.msg ∧ ∀ sec subsec, c.Forward sec subsec o = .ok bytes

/-- The object that a message is decoded into stays marked as it was. -/
theorem emptyflag_of_UnmarshalInto {old o : Object α} {cur : Int}
    (decoded : c.UnmarshalInto old buf = .ok (some (cur, o))) : o.emptyflag = old.emptyflag := by
  obtain ⟨d, -, rest⟩ := bind_eq_ok.mp decoded
  cases d with
  | error code => cases rest
  | message cur header msg =>
      cases rest
      rfl

/-- What `Marshal` returns for a message that is not empty. -/
theorem Marshal_eq_ok {o o' : Object α} {bytes : List UInt8}
    (filled : c.kind.hasEmpty → o.emptyflag = false) :
    c.Marshal sec subsec o = .ok (o', bytes) ↔ ∃ body, c.body o.msg = .ok body ∧
      bytes = c.bytes sec subsec body ∧
      o' = ⟨c.marshalled o.msg, ⟨sec, subsec, Int16.ofNat body.length⟩, o.emptyflag⟩ := by
  have notEmpty : ¬ (c.kind.hasEmpty ∧ o.emptyflag) := by
    rintro ⟨has, flag⟩
    rw [filled has] at flag
    cases flag
  rw [Marshal, if_neg notEmpty, bind_eq_ok]
  refine exists_congr fun body => and_congr_right fun _ => ?_
  rw [pure_eq_ok, Prod.mk.injEq, and_comm]
  rfl

/-- A message that is not marked as empty is forwarded with the time stamp it came with. -/
theorem Forward_of_body {o : Object α} (filled : c.kind.hasEmpty → o.emptyflag = false)
    (hbody : c.body o.msg = .ok body) (fits : HEADER_SIZE + body.length ≤ BUFSIZE) :
    c.Forward sec subsec o = .ok (c.bytes o.header.sec o.header.subsec body) := by
  refine bind_eq_ok.mpr ⟨_, (Marshal_eq_ok filled).mpr ⟨body, hbody, rfl, rfl⟩, ?_⟩
  refine bind_eq_ok.mpr ⟨(), access_eq_ok.mpr ?_, ?_⟩
  · simp only [Access.Inside, length_bytes]
    omega
  · rfl

/-- **A lawful class round-trips** exactly when a datagram takes the message and the object it is
decoded into is not marked as empty. -/
theorem Lawful.roundTrips_iff {Short : α → Prop} (lawful : c.Lawful Short) (sent : α)
    (old : Object α) (stale : Memory)
    (hbody : c.body sent = .ok body) :
    c.RoundTrips (c.marshalled sent) (c.bytes sec subsec body) old stale ↔
      Short sent ∧ (c.kind.hasEmpty → old.emptyflag = false) := by
  rw [← lawful.fits sent body hbody]
  have long := lawful.long sent body hbody
  have positive := Int16.lt_iff_toInt_lt.mp c.kind.positive
  have filled : 0 < body.length := by
    have : (0 : Int16).toInt = 0 := rfl
    omega
  constructor
  · rintro ⟨o, decoded, -, forwarded⟩
    obtain ⟨⟨o', marshalled⟩, again, rest⟩ := bind_eq_ok.mp (forwarded 0 0)
    obtain ⟨_, inside, same⟩ := bind_eq_ok.mp rest
    have lengths := congrArg List.length (pure_eq_ok.mp same)
    rw [length_bytes, List.length_append, List.length_drop] at lengths
    have header : (c.headerBytes { o'.header with
      sec := o.header.sec, subsec := o.header.subsec }).length = HEADER_SIZE := rfl
    have inside : 0 + marshalled.length ≤ BUFSIZE := access_eq_ok.mp inside
    refine ⟨by omega, fun has => ?_⟩
    by_contra flag
    rw [Bool.not_eq_false, ← emptyflag_of_UnmarshalInto decoded] at flag
    rw [Marshal, if_pos ⟨has, flag⟩] at again
    cases again
    have short : (c.headerBytes ⟨0, 0, 0⟩).length = HEADER_SIZE := rfl
    omega
  · rintro ⟨fits, notEmpty⟩
    obtain ⟨got, decoded, same, again⟩ :=
      lawful.decode sent body hbody fits old.msg
        (stale.store 0 (c.bytes sec subsec body)) sec subsec
        has_store
    refine ⟨⟨got, ⟨sec, subsec, Int16.ofNat body.length⟩, old.emptyflag⟩, ?_, same, ?_⟩
    · refine bind_eq_ok.mpr ⟨_, decoded, ?_⟩
      rw [length_bytes]
      rfl
    · exact fun _ _ => Forward_of_body notEmpty again fits

/-- A class whose objects have no more than what is sent: its decoder has to read the body. -/
theorem lawful_plain {Short : α → Prop} {kind : MessageKind} {body : α → Checked (List UInt8)}
    {read : Memory → Header → Checked (Int × α)}
    (law : ∀ msg bytes, body msg = .ok bytes → kind.total_length.toInt ≤ bytes.length ∧
      (HEADER_SIZE + bytes.length ≤ BUFSIZE ↔ Short msg) ∧
      (HEADER_SIZE + bytes.length ≤ BUFSIZE → ∀ buf header,
        header.msg_length.toInt = (bytes.length : Int) → buf.Has HEADER_SIZE bytes →
          read buf header = .ok ((HEADER_SIZE + bytes.length : Nat), msg))) :
    (plainClass kind body fun buf => kind.unmarshal buf (read buf)).Lawful Short where
  long msg bytes hbody := (law msg bytes hbody).1
  fits msg bytes hbody := (law msg bytes hbody).2.1
  decode msg bytes hbody fits _ buf sec subsec here := by
    have small : bytes.length < 2 ^ 15 := by
      simp only [HEADER_SIZE, BUFSIZE] at fits
      omega
    obtain ⟨long, -, reads⟩ := law msg bytes hbody
    exact ⟨msg, unmarshal_of_has here long fits
      (reads fits buf _ (Int16.toInt_ofNat_of_lt small) (body_of_has here)), rfl, hbody⟩

end MessageCodec

/-! ### The captured matches -/

section Rows

variable {b : Buffer} {arraySize cur bufmarker cur' bufmarker' : Nat}
  {matched matched' : List UInt8} {texts : List CString}

/-- A text that is not empty does not begin with a terminator. -/
theorem filled_of_has {t : CString} {rest : List UInt8} {m : Memory} {off : Nat}
    (filled : t ≠ .empty) (here : m.Has off (t.bytes ++ rest)) : m off ≠ 0 := by
  obtain ⟨bytes, nul⟩ := t
  cases bytes with
  | nil => exact absurd rfl filled
  | cons byte bytes =>
      obtain ⟨first, -⟩ := has_cons.mp here
      rw [first]
      exact fun zero => nul (zero ▸ List.mem_cons_self)

/-- A row of texts is copied up to the empty one that ends it. -/
theorem copyMatches_of_row (filled : ∀ t ∈ texts, t ≠ .empty)
    (here : b.bytes.Has cur (rowBytes texts ++ [0]))
    (within : cur + (rowBytes texts).length < b.size)
    (room : bufmarker + (rowBytes texts).length ≤ arraySize) :
    copyMatches b arraySize cur bufmarker matched =
      .ok (cur + (rowBytes texts).length, bufmarker + (rowBytes texts).length,
        matched ++ rowBytes texts) := by
  induction texts generalizing cur bufmarker matched with
  | nil =>
      have inside : cur < b.size := within
      rw [copyMatches, dif_pos inside, if_pos (has_cons.mp here).1]
      simp [rowBytes]
  | cons t rest ih =>
      obtain ⟨first, others⟩ := List.forall_mem_cons.mp filled
      have split : rowBytes (t :: rest) = t.bytes ++ [0] ++ rowBytes rest := List.flatMap_cons
      have total : (rowBytes (t :: rest)).length = t.length + 1 + (rowBytes rest).length := by
        rw [split, List.length_append, length_text]
      rw [split, List.append_assoc] at here
      obtain ⟨text, next⟩ := has_append.mp here
      have byte : b.bytes cur ≠ 0 := filled_of_has first text
      rw [length_text] at next
      rw [copyMatches, dif_pos (by omega), if_neg byte]
      have copied : b.memcpy arraySize bufmarker cur (t.bytes ++ [0]).length =
          .ok (t.bytes ++ [0]) :=
        Buffer.memcpy_of_has text (by rw [length_text]; omega) (by rw [length_text]; omega)
      rw [length_text] at copied
      refine bind_eq_ok.mpr ⟨t.length, Buffer.strlen_eq_ok.mpr
        (Buffer.textAt_of_has text (by omega)), bind_eq_ok.mpr ⟨_, copied, ?_⟩⟩
      rw [ih others next (by omega) (by omega), total, split, List.append_assoc]
      refine congrArg Except.ok (Prod.ext ?_ (Prod.ext ?_ rfl))
      · simp only
        omega
      · simp only
        omega

/-- What the loop has copied when it ends. -/
theorem row_of_copyMatches (ends : copyMatches b arraySize cur bufmarker matched =
    .ok (cur', bufmarker', matched')) : ∃ texts : List CString, (∀ t ∈ texts, t ≠ .empty) ∧
      b.bytes.Has cur (rowBytes texts ++ [0]) ∧ cur + (rowBytes texts).length < b.size ∧
      matched' = matched ++ rowBytes texts := by
  fun_induction copyMatches b arraySize cur bufmarker matched with
  | case1 cur bufmarker matched inside empty =>
      cases ends
      refine ⟨[], List.forall_mem_nil _, has_cons.mpr ⟨empty, ?_⟩, inside, by simp [rowBytes]⟩
      rfl
  | case2 cur bufmarker matched inside filled ih =>
      obtain ⟨n, length, rest⟩ := bind_eq_ok.mp ends
      obtain ⟨copied, copy, rest⟩ := bind_eq_ok.mp rest
      obtain ⟨texts, others, here, within, same⟩ := ih n copied rest
      have text := Buffer.strlen_eq_ok.mp length
      obtain ⟨-, -, rfl⟩ := Buffer.memcpy_eq_ok.mp copy
      have first := Buffer.has_textOf text
      have size := Buffer.length_textOf text (Nat.le_refl _)
      have read : b.bytes.read cur (n + 1) = (b.textOf cur n).bytes ++ [0] := by
        rw [← first, length_text, size]
      have split : rowBytes (b.textOf cur n :: texts) =
          (b.textOf cur n).bytes ++ [0] ++ rowBytes texts := List.flatMap_cons
      refine ⟨b.textOf cur n :: texts, List.forall_mem_cons.mpr ⟨?_, others⟩, ?_, ?_, ?_⟩
      · intro empty
        rw [empty] at size
        obtain rfl : n = 0 := size.symm
        exact filled text.2.1
      · rw [split, List.append_assoc]
        exact has_append.mpr ⟨first, by rwa [length_text, size]⟩
      · rw [split, List.length_append, length_text, size]
        omega
      · rw [split, same, read, List.append_assoc, List.append_assoc]
  | case3 cur bufmarker matched outside => cases ends

end Rows

/-! ### Every class -/

section Classes

open MessageCodec

/-- A body is not shorter than what the header has to say. -/
theorem long_of_le {kind : MessageKind} {n : Nat} (fields : Nat)
    (total : kind.total_length.toInt = fields)
    (le : fields ≤ n) : kind.total_length.toInt ≤ n := by
  rw [total]
  exact_mod_cast le

/-- The data fill what the header leaves behind the fields before them. -/
theorem memcpy_data {buf : Memory} {data : List UInt8} {length : Int} {cur arraySize : Nat}
    (fields : Nat) (here : buf.Has cur data) (behind : cur = HEADER_SIZE + fields)
    (same : length = (fields + data.length : Nat)) (short : data.length ≤ arraySize)
    (fits : HEADER_SIZE + (fields + data.length) ≤ BUFSIZE) :
    (recvBuffer buf).memcpy arraySize 0 cur (size_t (length - cur + HEADER_SIZE)) = .ok data := by
  have n : size_t (length - cur + HEADER_SIZE) = data.length := by
    subst same behind
    simp only [size_t, HEADER_SIZE, BUFSIZE] at fits ⊢
    omega
  rw [n]
  exact Buffer.memcpy_of_has here (by simp only; omega) (by omega)

theorem SDMData.lawful : SDMData.codec.Lawful fun _ => True := by
  refine lawful_plain fun msg bytes marshalled => ?_
  obtain ⟨data, field, same⟩ := bind_eq_ok.mp marshalled
  obtain ⟨short, rfl⟩ := dataField_eq_ok.mp field
  have layout := pure_eq_ok.mp same
  have size : bytes.length = 18 + msg.msg.length := by
    simp [layout]
    omega
  rw [size]
  refine ⟨long_of_le 18 rfl (by omega), iff_of_true ?_ trivial,
    fun fits buf header length here => ?_⟩
  · simp only [HEADER_SIZE, BUFSIZE] at short ⊢
    omega
  rw [layout] at here
  obtain ⟨source, here⟩ := has_append.mp here
  obtain ⟨msg_id, here⟩ := has_append.mp here
  obtain ⟨pid, here⟩ := has_append.mp here
  obtain ⟨seq_num, data⟩ := has_append.mp here
  refine bind_eq_ok.mpr ⟨_, loadComponent_of_has source (by decide), ?_⟩
  refine bind_eq_ok.mpr ⟨_, loadMessageID_of_has msg_id (by decide), ?_⟩
  refine bind_eq_ok.mpr ⟨_, load32_of_has pid (by decide), ?_⟩
  refine bind_eq_ok.mpr ⟨_, load16_of_has seq_num (by decide), ?_⟩
  refine bind_eq_ok.mpr ⟨_, memcpy_data 18 data rfl length short fits, ?_⟩
  exact pure_eq_ok.mpr (Prod.ext (by simp only [length]; omega) rfl)

theorem SDMCommand.lawful : SDMCommand.codec.Lawful fun _ => True := by
  refine lawful_plain fun msg bytes marshalled => ?_
  obtain ⟨data, field, same⟩ := bind_eq_ok.mp marshalled
  obtain ⟨short, rfl⟩ := dataField_eq_ok.mp field
  have layout := pure_eq_ok.mp same
  have size : bytes.length = 24 + msg.data.length := by
    simp [layout]
    omega
  rw [size]
  refine ⟨long_of_le 24 rfl (by omega), iff_of_true ?_ trivial,
    fun fits buf header length here => ?_⟩
  · simp only [HEADER_SIZE, BUFSIZE] at short ⊢
    omega
  rw [layout] at here
  obtain ⟨source, here⟩ := has_append.mp here
  obtain ⟨destination, here⟩ := has_append.mp here
  obtain ⟨command_id, here⟩ := has_append.mp here
  obtain ⟨fault_id, data⟩ := has_append.mp here
  refine bind_eq_ok.mpr ⟨_, loadComponent_of_has source (by decide), ?_⟩
  refine bind_eq_ok.mpr ⟨_, loadComponent_of_has destination (by decide), ?_⟩
  refine bind_eq_ok.mpr ⟨_, loadMessageID_of_has command_id (by decide), ?_⟩
  refine bind_eq_ok.mpr ⟨_, loadMessageID_of_has fault_id (by decide), ?_⟩
  refine bind_eq_ok.mpr ⟨_, memcpy_data 24 data rfl length short fits, ?_⟩
  exact pure_eq_ok.mpr (Prod.ext (by simp only [length]; omega) rfl)

theorem SDMService.lawful : SDMService.codec.Lawful fun _ => True := by
  refine lawful_plain fun msg bytes marshalled => ?_
  obtain ⟨data, field, same⟩ := bind_eq_ok.mp marshalled
  obtain ⟨short, rfl⟩ := dataField_eq_ok.mp field
  have layout := pure_eq_ok.mp same
  have size : bytes.length = 24 + msg.data.length := by
    simp [layout]
    omega
  rw [size]
  refine ⟨long_of_le 24 rfl (by omega), iff_of_true ?_ trivial,
    fun fits buf header length here => ?_⟩
  · simp only [HEADER_SIZE, BUFSIZE] at short ⊢
    omega
  rw [layout] at here
  obtain ⟨source, here⟩ := has_append.mp here
  obtain ⟨destination, here⟩ := has_append.mp here
  obtain ⟨command_id, here⟩ := has_append.mp here
  obtain ⟨seq_num, data⟩ := has_append.mp here
  refine bind_eq_ok.mpr ⟨_, loadComponent_of_has source (by decide), ?_⟩
  refine bind_eq_ok.mpr ⟨_, loadComponent_of_has destination (by decide), ?_⟩
  refine bind_eq_ok.mpr ⟨_, loadMessageID_of_has command_id (by decide), ?_⟩
  refine bind_eq_ok.mpr ⟨_, load16_of_has seq_num (by decide), ?_⟩
  refine bind_eq_ok.mpr ⟨_, memcpy_data 24 data rfl length short fits, ?_⟩
  exact pure_eq_ok.mpr (Prod.ext (by simp only [length]; omega) rfl)

theorem SDMSerreqst.lawful : SDMSerreqst.codec.Lawful fun _ => True := by
  refine lawful_plain fun msg bytes marshalled => ?_
  obtain ⟨data, field, same⟩ := bind_eq_ok.mp marshalled
  obtain ⟨short, rfl⟩ := dataField_eq_ok.mp field
  have layout := pure_eq_ok.mp same
  have size : bytes.length = 28 + msg.data.length := by
    simp [layout]
    omega
  rw [size]
  refine ⟨long_of_le 28 rfl (by omega), iff_of_true ?_ trivial,
    fun fits buf header length here => ?_⟩
  · simp only [HEADER_SIZE, BUFSIZE] at short ⊢
    omega
  rw [layout] at here
  obtain ⟨source, here⟩ := has_append.mp here
  obtain ⟨destination, here⟩ := has_append.mp here
  obtain ⟨command_id, here⟩ := has_append.mp here
  obtain ⟨reply_id, here⟩ := has_append.mp here
  obtain ⟨fault_id, here⟩ := has_append.mp here
  obtain ⟨seq_num, data⟩ := has_append.mp here
  refine bind_eq_ok.mpr ⟨_, loadComponent_of_has source (by decide), ?_⟩
  refine bind_eq_ok.mpr ⟨_, loadComponent_of_has destination (by decide), ?_⟩
  refine bind_eq_ok.mpr ⟨_, loadMessageID_of_has command_id (by decide), ?_⟩
  refine bind_eq_ok.mpr ⟨_, loadMessageID_of_has reply_id (by decide), ?_⟩
  refine bind_eq_ok.mpr ⟨_, loadMessageID_of_has fault_id (by decide), ?_⟩
  refine bind_eq_ok.mpr ⟨_, load16_of_has seq_num (by decide), ?_⟩
  refine bind_eq_ok.mpr ⟨_, memcpy_data 28 data rfl length short fits, ?_⟩
  refine pure_eq_ok.mpr (Prod.ext ?_ rfl)
  simp only [length, HEADER_SIZE]
  omega

theorem SDMTask.lawful : SDMTask.codec.Lawful fun _ => True := by
  refine lawful_plain fun msg bytes marshalled => ?_
  obtain ⟨name, field, same⟩ := bind_eq_ok.mp marshalled
  obtain ⟨short, rfl⟩ := textField_eq_ok.mp field
  have layout := pure_eq_ok.mp same
  have size : bytes.length = 20 + msg.filename.length := by
    simp [layout, CString.length]
    omega
  rw [size]
  refine ⟨long_of_le 10 rfl (by omega), iff_of_true ?_ trivial,
    fun fits buf header length here => ?_⟩
  · simp only [HEADER_SIZE, BUFSIZE, MAX_FILENAME_SIZE] at short ⊢
    omega
  rw [layout] at here
  obtain ⟨source, here⟩ := has_append.mp here
  obtain ⟨priority, here⟩ := has_cons.mp here
  obtain ⟨pid, here⟩ := has_append.mp here
  obtain ⟨version, filename⟩ := has_append.mp here
  refine bind_eq_ok.mpr ⟨_, loadComponent_of_has source (by decide), ?_⟩
  refine bind_eq_ok.mpr ⟨_, load8_of_has priority (by decide), ?_⟩
  refine bind_eq_ok.mpr ⟨_, load32_of_has pid (by decide), ?_⟩
  refine bind_eq_ok.mpr ⟨_, load32_of_has version (by decide), ?_⟩
  refine bind_eq_ok.mpr ⟨_, copyTruncated_of_has filename (by omega) short, ?_⟩
  exact pure_eq_ok.mpr (Prod.ext (by simp only; omega) rfl)

theorem SDMPostTask.lawful : SDMPostTask.codec.Lawful fun _ => True := by
  refine lawful_plain fun msg bytes marshalled => ?_
  obtain ⟨name, field, same⟩ := bind_eq_ok.mp marshalled
  obtain ⟨short, rfl⟩ := textField_eq_ok.mp field
  have layout := pure_eq_ok.mp same
  have size : bytes.length = 16 + msg.filename.length := by
    simp [layout, CString.length]
    omega
  rw [size]
  refine ⟨long_of_le 16 rfl (by omega), iff_of_true ?_ trivial,
    fun fits buf header length here => ?_⟩
  · simp only [HEADER_SIZE, BUFSIZE, MAX_FILENAME_SIZE] at short ⊢
    omega
  rw [layout] at here
  obtain ⟨resources, here⟩ := has_append.mp here
  obtain ⟨priority, here⟩ := has_cons.mp here
  obtain ⟨sched_interval, here⟩ := has_append.mp here
  obtain ⟨mode, here⟩ := has_append.mp here
  obtain ⟨version, filename⟩ := has_append.mp here
  refine bind_eq_ok.mpr ⟨_, load16_of_has resources (by decide), ?_⟩
  refine bind_eq_ok.mpr ⟨_, load8_of_has priority (by decide), ?_⟩
  refine bind_eq_ok.mpr ⟨_, load32_of_has sched_interval (by decide), ?_⟩
  refine bind_eq_ok.mpr ⟨_, load32_of_has mode (by decide), ?_⟩
  refine bind_eq_ok.mpr ⟨_, load32_of_has version (by decide), ?_⟩
  refine bind_eq_ok.mpr ⟨_, copyTruncated_of_has filename (by omega) short, ?_⟩
  exact pure_eq_ok.mpr (Prod.ext (by simp only [length]; omega) rfl)

theorem SDMTaskFinished.lawful : SDMTaskFinished.codec.Lawful fun _ => True := by
  refine lawful_plain fun msg bytes marshalled => ?_
  obtain ⟨name, field, same⟩ := bind_eq_ok.mp marshalled
  obtain ⟨short, rfl⟩ := textField_eq_ok.mp field
  have layout := pure_eq_ok.mp same
  have size : bytes.length = 19 + msg.filename.length := by
    simp [layout, CString.length]
    omega
  rw [size]
  refine ⟨long_of_le 19 rfl (by omega), iff_of_true ?_ trivial,
    fun fits buf header length here => ?_⟩
  · simp only [HEADER_SIZE, BUFSIZE, MAX_FILENAME_SIZE] at short ⊢
    omega
  rw [layout] at here
  obtain ⟨source, here⟩ := has_append.mp here
  obtain ⟨result, here⟩ := has_append.mp here
  obtain ⟨pid, filename⟩ := has_append.mp here
  refine bind_eq_ok.mpr ⟨_, loadComponent_of_has source (by decide), ?_⟩
  refine bind_eq_ok.mpr ⟨_, load32_of_has result (by decide), ?_⟩
  refine bind_eq_ok.mpr ⟨_, load32_of_has pid (by decide), ?_⟩
  refine bind_eq_ok.mpr ⟨_, copyTruncated_of_has filename (by omega) short, ?_⟩
  exact pure_eq_ok.mpr (Prod.ext (by simp only; omega) rfl)

theorem SDMReqCode.lawful : SDMReqCode.codec.Lawful fun _ => True := by
  refine lawful_plain fun msg bytes marshalled => ?_
  obtain ⟨name, field, same⟩ := bind_eq_ok.mp marshalled
  obtain ⟨short, rfl⟩ := textField_eq_ok.mp field
  have layout := pure_eq_ok.mp same
  have size : bytes.length = 17 + msg.filename.length := by
    simp [layout, CString.length]
    omega
  rw [size]
  refine ⟨long_of_le 17 rfl (by omega), iff_of_true ?_ trivial,
    fun fits buf header length here => ?_⟩
  · simp only [HEADER_SIZE, BUFSIZE, MAX_FILENAME_SIZE] at short ⊢
    omega
  rw [layout] at here
  obtain ⟨source, here⟩ := has_append.mp here
  obtain ⟨seq_num, here⟩ := has_append.mp here
  obtain ⟨version, filename⟩ := has_append.mp here
  refine bind_eq_ok.mpr ⟨_, loadComponent_of_has source (by decide), ?_⟩
  refine bind_eq_ok.mpr ⟨_, load16_of_has seq_num (by decide), ?_⟩
  refine bind_eq_ok.mpr ⟨_, load32_of_has version (by decide), ?_⟩
  refine bind_eq_ok.mpr ⟨_, copyTruncated_of_has filename (by omega) short, ?_⟩
  exact pure_eq_ok.mpr (Prod.ext (by simp only; omega) rfl)

theorem SDMSearch.lawful : SDMSearch.codec.Lawful (·.reg_expr.length < BUFSIZE - 34) := by
  refine lawful_plain fun msg bytes marshalled => ?_
  obtain ⟨name, field, same⟩ := bind_eq_ok.mp marshalled
  obtain ⟨short, rfl⟩ := textField_eq_ok.mp field
  have layout := pure_eq_ok.mp same
  have size : bytes.length = 24 + msg.reg_expr.length := by
    simp [layout, CString.length]
    omega
  rw [size]
  refine ⟨long_of_le 24 rfl (by omega), ?_, fun fits buf header length here => ?_⟩
  · simp only [HEADER_SIZE, BUFSIZE] at short ⊢
    omega
  rw [layout] at here
  obtain ⟨source, here⟩ := has_append.mp here
  obtain ⟨destination, here⟩ := has_append.mp here
  obtain ⟨reply, here⟩ := has_cons.mp here
  obtain ⟨id, reg_expr⟩ := has_append.mp here
  refine bind_eq_ok.mpr ⟨_, loadComponent_of_has source (by decide), ?_⟩
  refine bind_eq_ok.mpr ⟨_, loadComponent_of_has destination (by decide), ?_⟩
  refine bind_eq_ok.mpr ⟨_, load8_of_has reply (by decide), ?_⟩
  refine bind_eq_ok.mpr ⟨_, load16_of_has id (by decide), ?_⟩
  refine bind_eq_ok.mpr ⟨_, copyTruncated_of_has reg_expr (by omega) short, ?_⟩
  exact pure_eq_ok.mpr (Prod.ext (by simp only; omega) rfl)

theorem SDMVarReq.lawful : SDMVarReq.codec.Lawful fun _ => True := by
  refine lawful_plain fun msg bytes marshalled => ?_
  obtain ⟨name, field, same⟩ := bind_eq_ok.mp marshalled
  obtain ⟨short, rfl⟩ := textField_eq_ok.mp field
  have layout := pure_eq_ok.mp same
  have size : bytes.length = 26 + msg.variable.length := by
    simp [layout, CString.length]
    omega
  rw [size]
  refine ⟨long_of_le 25 rfl (by omega), iff_of_true ?_ trivial,
    fun fits buf header length here => ?_⟩
  · simp only [HEADER_SIZE, BUFSIZE, XTEDS_MAX_ITEM_NAME_SIZE] at short ⊢
    omega
  rw [layout] at here
  obtain ⟨source, here⟩ := has_append.mp here
  obtain ⟨destination, here⟩ := has_append.mp here
  obtain ⟨reply, here⟩ := has_cons.mp here
  obtain ⟨msg_id, here⟩ := has_append.mp here
  obtain ⟨id, name⟩ := has_append.mp here
  refine bind_eq_ok.mpr ⟨_, loadComponent_of_has source (by decide), ?_⟩
  refine bind_eq_ok.mpr ⟨_, loadComponent_of_has destination (by decide), ?_⟩
  refine bind_eq_ok.mpr ⟨_, load8_of_has reply (by decide), ?_⟩
  refine bind_eq_ok.mpr ⟨_, loadMessageID_of_has msg_id (by decide), ?_⟩
  refine bind_eq_ok.mpr ⟨_, load16_of_has id (by decide), ?_⟩
  refine bind_eq_ok.mpr ⟨_, strcpy_of_has name (by omega) short, ?_⟩
  exact pure_eq_ok.mpr (Prod.ext (by simp only; omega) rfl)

theorem SDMVarInfo.lawful : SDMVarInfo.codec.Lawful fun _ => True := by
  refine lawful_plain fun msg bytes marshalled => ?_
  obtain ⟨face, field, same⟩ := bind_eq_ok.mp marshalled
  obtain ⟨shortFace, rfl⟩ := textField_eq_ok.mp field
  obtain ⟨info, field, same⟩ := bind_eq_ok.mp same
  obtain ⟨shortInfo, rfl⟩ := textField_eq_ok.mp field
  have layout := pure_eq_ok.mp same
  have size : bytes.length = 14 + msg.interface.length + msg.var_xTEDS.length := by
    simp [layout, CString.length]
    omega
  rw [size]
  refine ⟨long_of_le 14 rfl (by omega), iff_of_true ?_ trivial,
    fun fits buf header length here => ?_⟩
  · simp only [HEADER_SIZE, BUFSIZE, XTEDS_MAX_ITEM_NAME_SIZE] at shortFace shortInfo ⊢
    omega
  rw [layout] at here
  obtain ⟨source, here⟩ := has_append.mp here
  obtain ⟨id, here⟩ := has_append.mp here
  obtain ⟨face, info⟩ := has_append.mp here
  rw [length_text] at info
  refine bind_eq_ok.mpr ⟨_, loadComponent_of_has source (by decide), ?_⟩
  refine bind_eq_ok.mpr ⟨_, load16_of_has id (by decide), ?_⟩
  refine bind_eq_ok.mpr ⟨_, strcpy_of_has face (by omega) shortFace, ?_⟩
  refine bind_eq_ok.mpr ⟨_, strcpy_of_has info (by omega) shortInfo, ?_⟩
  exact pure_eq_ok.mpr (Prod.ext (by simp only; omega) rfl)

theorem SDMRegInfo.lawful : SDMRegInfo.codec.Lawful fun _ => True := by
  refine lawful_plain fun msg bytes marshalled => ?_
  obtain ⟨definition, field, same⟩ := bind_eq_ok.mp marshalled
  obtain ⟨shortDef, rfl⟩ := textField_eq_ok.mp field
  obtain ⟨portion, field, same⟩ := bind_eq_ok.mp same
  obtain ⟨shortSection, rfl⟩ := textField_eq_ok.mp field
  have layout := pure_eq_ok.mp same
  have size : bytes.length = 17 + msg.msg_def.length + msg.xTEDS_section.length := by
    simp [layout, CString.length]
    omega
  rw [size]
  refine ⟨long_of_le 16 rfl (by omega), iff_of_true ?_ trivial,
    fun fits buf header length here => ?_⟩
  · simp only [HEADER_SIZE, BUFSIZE, MSG_DEF_SIZE] at shortDef shortSection ⊢
    omega
  rw [layout] at here
  obtain ⟨source, here⟩ := has_append.mp here
  obtain ⟨msg_id, here⟩ := has_append.mp here
  obtain ⟨id, here⟩ := has_append.mp here
  obtain ⟨type, here⟩ := has_cons.mp here
  obtain ⟨msg_def, xTEDS_section⟩ := has_append.mp here
  rw [length_text] at xTEDS_section
  refine bind_eq_ok.mpr ⟨_, loadComponent_of_has source (by decide), ?_⟩
  refine bind_eq_ok.mpr ⟨_, loadMessageID_of_has msg_id (by decide), ?_⟩
  refine bind_eq_ok.mpr ⟨_, load16_of_has id (by decide), ?_⟩
  refine bind_eq_ok.mpr ⟨_, load8_of_has type (by decide), ?_⟩
  refine bind_eq_ok.mpr ⟨_, strcpy_of_has msg_def (by omega) shortDef, ?_⟩
  refine bind_eq_ok.mpr ⟨_, strcpy_of_has xTEDS_section (by omega) shortSection, ?_⟩
  exact pure_eq_ok.mpr (Prod.ext (by simp only; omega) rfl)

theorem SDMReqReg.lawful : SDMReqReg.codec.Lawful fun _ => True := by
  refine lawful_plain fun msg bytes marshalled => ?_
  obtain ⟨_, field, same⟩ := bind_eq_ok.mp marshalled
  obtain ⟨shortDevice, rfl⟩ := textField_eq_ok.mp field
  obtain ⟨_, field, same⟩ := bind_eq_ok.mp same
  obtain ⟨shortFace, rfl⟩ := textField_eq_ok.mp field
  obtain ⟨_, field, same⟩ := bind_eq_ok.mp same
  obtain ⟨shortName, rfl⟩ := textField_eq_ok.mp field
  obtain ⟨_, field, same⟩ := bind_eq_ok.mp same
  obtain ⟨shortList, rfl⟩ := textField_eq_ok.mp field
  have layout := pure_eq_ok.mp same
  have size : bytes.length = 27 + msg.device.length + msg.interface.length +
      msg.item_name.length + msg.quallist.length := by
    simp [layout, CString.length]
    omega
  rw [size]
  refine ⟨long_of_le 27 rfl (by omega), iff_of_true ?_ trivial,
    fun fits buf header length here => ?_⟩
  · simp only [HEADER_SIZE, BUFSIZE, XTEDS_MAX_ITEM_NAME_SIZE,
    QUALLIST_MAX_SIZE] at shortFace shortDevice shortName shortList ⊢
    omega
  rw [layout] at here
  obtain ⟨source, here⟩ := has_append.mp here
  obtain ⟨destination, here⟩ := has_append.mp here
  obtain ⟨reply, here⟩ := has_cons.mp here
  obtain ⟨id, here⟩ := has_append.mp here
  obtain ⟨device, here⟩ := has_append.mp here
  obtain ⟨face, here⟩ := has_append.mp here
  obtain ⟨item_name, quallist⟩ := has_append.mp here
  simp only [length_text] at face item_name quallist
  refine bind_eq_ok.mpr ⟨_, loadComponent_of_has source (by decide), ?_⟩
  refine bind_eq_ok.mpr ⟨_, loadComponent_of_has destination (by decide), ?_⟩
  refine bind_eq_ok.mpr ⟨_, load8_of_has reply (by decide), ?_⟩
  refine bind_eq_ok.mpr ⟨_, load16_of_has id (by decide), ?_⟩
  refine bind_eq_ok.mpr ⟨_, copyTruncated_of_has device (by omega) shortDevice, ?_⟩
  refine bind_eq_ok.mpr ⟨_, copyTruncated_of_has face (by omega) shortFace, ?_⟩
  refine bind_eq_ok.mpr ⟨_, copyTruncated_of_has item_name (by omega) shortName, ?_⟩
  refine bind_eq_ok.mpr ⟨_, copyTruncated_of_has quallist (by omega) shortList, ?_⟩
  exact pure_eq_ok.mpr (Prod.ext (by simp only; omega) rfl)

theorem SDMCode.lawful (checksum : List UInt8 → Int32) :
    (SDMCode.codec checksum).Lawful fun _ => True := by
  have shape : ∀ msg bytes, (SDMCode.codec checksum).body msg = .ok bytes →
      msg.filename.length < MAX_FILENAME_SIZE ∧
      msg.code.length ≤ BUFSIZE - MAX_FILENAME_SIZE - 21 ∧
      bytes = bytes16 msg.seq_num ++ (bytes16 msg.num_segments ++ (msg.filename.bytes ++ [0] ++
        (msg.code ++ bytes32 (checksum msg.code).toUInt32))) := by
    intro msg bytes marshalled
    obtain ⟨name, field, same⟩ := bind_eq_ok.mp marshalled
    obtain ⟨shortName, rfl⟩ := textField_eq_ok.mp field
    obtain ⟨code, field, same⟩ := bind_eq_ok.mp same
    obtain ⟨shortCode, rfl⟩ := dataField_eq_ok.mp field
    exact ⟨shortName, shortCode, pure_eq_ok.mp same⟩
  have size : ∀ msg bytes, (SDMCode.codec checksum).body msg = .ok bytes →
      bytes.length = 9 + msg.filename.length + msg.code.length := by
    intro msg bytes marshalled
    obtain ⟨-, -, layout⟩ := shape msg bytes marshalled
    simp [layout, CString.length]
    omega
  refine ⟨fun msg bytes marshalled => ?_, fun msg bytes marshalled => iff_of_true ?_ trivial,
    fun msg bytes marshalled fits old buf sec subsec here => ?_⟩
  · rw [size msg bytes marshalled]
    exact long_of_le 9 rfl (by omega)
  · obtain ⟨shortName, shortCode, -⟩ := shape msg bytes marshalled
    rw [size msg bytes marshalled]
    simp only [HEADER_SIZE, BUFSIZE, MAX_FILENAME_SIZE] at shortName shortCode ⊢
    omega
  · obtain ⟨shortName, shortCode, layout⟩ := shape msg bytes marshalled
    have total := size msg bytes marshalled
    refine ⟨{ msg with c_sum := checksum msg.code }, ?_, rfl, marshalled⟩
    refine unmarshal_of_has here ?_ fits ?_
    · rw [total]
      exact long_of_le 9 rfl (by omega)
    have small : bytes.length < 2 ^ 15 := by
      simp only [HEADER_SIZE, BUFSIZE] at fits
      omega
    have length : (Int16.ofNat bytes.length).toInt = bytes.length := Int16.toInt_ofNat_of_lt small
    have here := body_of_has here
    rw [layout] at here
    obtain ⟨seq_num, here⟩ := has_append.mp here
    obtain ⟨num_segments, here⟩ := has_append.mp here
    obtain ⟨filename, here⟩ := has_append.mp here
    rw [length_text] at here
    obtain ⟨code, c_sum⟩ := has_append.mp here
    have n : size_t ((Int16.ofNat bytes.length).toInt - (msg.filename.length + 1) - 8) =
        msg.code.length := by
      rw [length, total, size_t]
      omega
    refine bind_eq_ok.mpr ⟨_, load16_of_has seq_num (by decide), ?_⟩
    refine bind_eq_ok.mpr ⟨_, load16_of_has num_segments (by decide), ?_⟩
    refine bind_eq_ok.mpr ⟨_, copyTruncated_of_has filename (by omega) shortName, ?_⟩
    refine bind_eq_ok.mpr ⟨msg.code, ?_, ?_⟩
    · simp only [n]
      exact Buffer.memcpy_of_has code (by simp only; omega) (by omega)
    · simp only [n]
      refine bind_eq_ok.mpr ⟨_, load32_of_has c_sum (by omega), ?_⟩
      exact pure_eq_ok.mpr (Prod.ext (by simp only [total]; omega) rfl)

/-- The row in the array of a reply. -/
theorem SDMSearchReply.row_eq_ok {o : SDMSearchReply.Held} {matched : List UInt8} :
    o.row = .ok matched ↔ ∃ texts : List CString, (∀ t ∈ texts, t ≠ .empty) ∧
      o.captured_matches.Has 0 (rowBytes texts ++ [0]) ∧
      (rowBytes texts).length < BUFSIZE - 23 ∧ matched = rowBytes texts := by
  rw [SDMSearchReply.Held.row, bind_eq_ok]
  constructor
  · rintro ⟨⟨cur, bufmarker, copied⟩, ends, same⟩
    obtain ⟨texts, filled, here, within, rfl⟩ := row_of_copyMatches ends
    exact ⟨texts, filled, here, by simpa using within, pure_eq_ok.mp same⟩
  · rintro ⟨texts, filled, here, within, rfl⟩
    refine ⟨_, copyMatches_of_row filled here (by simpa using within) ?_, rfl⟩
    simp only [BUFSIZE] at within ⊢
    omega

theorem SDMSearchReply.lawful : SDMSearchReply.codec.Lawful fun _ => True := by
  have shape : ∀ msg bytes, SDMSearchReply.codec.body msg = .ok bytes → ∃ texts : List CString,
      (∀ t ∈ texts, t ≠ .empty) ∧ msg.row = .ok (rowBytes texts) ∧
      (rowBytes texts).length < BUFSIZE - 23 ∧ bytes.length = 13 + (rowBytes texts).length ∧
      bytes = msg.source.marshal ++ (bytes16 msg.id ++ (rowBytes texts ++ [0])) := by
    intro msg bytes marshalled
    obtain ⟨matched, row, same⟩ := bind_eq_ok.mp marshalled
    obtain ⟨texts, filled, -, within, rfl⟩ := SDMSearchReply.row_eq_ok.mp row
    have layout := pure_eq_ok.mp same
    refine ⟨texts, filled, row, within, ?_, layout⟩
    simp [layout]
    omega
  refine ⟨fun msg bytes marshalled => ?_, fun msg bytes marshalled => iff_of_true ?_ trivial,
    fun msg bytes marshalled fits old buf sec subsec here => ?_⟩
  · obtain ⟨texts, -, -, -, size, -⟩ := shape msg bytes marshalled
    rw [size]
    exact long_of_le 13 rfl (by omega)
  · obtain ⟨texts, -, -, within, size, -⟩ := shape msg bytes marshalled
    rw [size]
    simp only [HEADER_SIZE, BUFSIZE] at within ⊢
    omega
  · obtain ⟨texts, filled, row, within, size, layout⟩ := shape msg bytes marshalled
    have within' : (rowBytes texts).length < 24265 := within
    have long : SDMSearchReply.kind.total_length.toInt ≤ bytes.length := by
      rw [size]
      exact long_of_le 13 rfl (by omega)
    have body := body_of_has here
    rw [layout] at body
    obtain ⟨source, body⟩ := has_append.mp body
    obtain ⟨id, matched⟩ := has_append.mp body
    have copied : copyMatches (recvBuffer buf) (BUFSIZE - 23) (HEADER_SIZE + 10 + 2) 0 [] =
        .ok (HEADER_SIZE + 10 + 2 + (rowBytes texts).length, 0 + (rowBytes texts).length,
          [] ++ rowBytes texts) :=
      copyMatches_of_row filled matched (by simp only; omega) (by omega)
    have received : SDMSearchReply.Unmarshal buf = .ok (.message (HEADER_SIZE + bytes.length)
        ⟨sec, subsec, Int16.ofNat bytes.length⟩ ⟨msg.source, msg.id, rowBytes texts ++ [0]⟩) := by
      refine unmarshal_of_has here long fits ?_
      refine bind_eq_ok.mpr ⟨_, loadComponent_of_has source (by decide), ?_⟩
      refine bind_eq_ok.mpr ⟨_, load16_of_has id (by decide), ?_⟩
      refine bind_eq_ok.mpr ⟨_, copied, ?_⟩
      refine bind_eq_ok.mpr ⟨(), access_eq_ok.mpr ?_, ?_⟩
      · simp only [Access.Inside]
        omega
      · exact pure_eq_ok.mpr (Prod.ext (by simp only [size]; omega) rfl)
    -- What the array holds behind the row does not matter.
    have kept : SDMSearchReply.Held.row ⟨msg.source, msg.id,
        old.captured_matches.store 0 (rowBytes texts ++ [0])⟩ = .ok (rowBytes texts) :=
      SDMSearchReply.row_eq_ok.mpr ⟨texts, filled, has_store, within, rfl⟩
    refine ⟨⟨msg.source, msg.id, old.captured_matches.store 0 (rowBytes texts ++ [0])⟩, ?_,
      ⟨rfl, rfl, row.trans kept.symm⟩, ?_⟩
    · exact bind_eq_ok.mpr ⟨_, received, rfl⟩
    · rw [layout]
      exact bind_eq_ok.mpr ⟨_, kept, rfl⟩

end Classes

/-- The classes whose messages are decoded here. -/
inductive MessageName where
  | SDMData
  | SDMCommand
  | SDMService
  | SDMSerreqst
  | SDMReqReg
  | SDMRegInfo
  | SDMSearch
  | SDMSearchReply
  | SDMVarReq
  | SDMVarInfo
  | SDMCode
  | SDMTask
  | SDMPostTask
  | SDMTaskFinished
  | SDMReqCode
  deriving DecidableEq

namespace MessageName

/-- The fields of an object. -/
def Fields : MessageName → Type
  | SDMData => SDMData.Received
  | SDMCommand => Sdm.SDMCommand
  | SDMService => Sdm.SDMService
  | SDMSerreqst => Sdm.SDMSerreqst
  | SDMReqReg => Sdm.SDMReqReg
  | SDMRegInfo => SDMRegInfo.Received
  | SDMSearch => Sdm.SDMSearch
  | SDMSearchReply => SDMSearchReply.Held
  | SDMVarReq => Sdm.SDMVarReq
  | SDMVarInfo => Sdm.SDMVarInfo
  | SDMCode => SDMCode.Received
  | SDMTask => Sdm.SDMTask
  | SDMPostTask => Sdm.SDMPostTask
  | SDMTaskFinished => Sdm.SDMTaskFinished
  | SDMReqCode => SDMReqCode.Received

def codec (checksum : List UInt8 → Int32) : (name : MessageName) → MessageCodec name.Fields
  | SDMData => SDMData.codec
  | SDMCommand => SDMCommand.codec
  | SDMService => SDMService.codec
  | SDMSerreqst => SDMSerreqst.codec
  | SDMReqReg => SDMReqReg.codec
  | SDMRegInfo => SDMRegInfo.codec
  | SDMSearch => SDMSearch.codec
  | SDMSearchReply => SDMSearchReply.codec
  | SDMVarReq => SDMVarReq.codec
  | SDMVarInfo => SDMVarInfo.codec
  | SDMCode => SDMCode.codec checksum
  | SDMTask => SDMTask.codec
  | SDMPostTask => SDMPostTask.codec
  | SDMTaskFinished => SDMTaskFinished.codec
  | SDMReqCode => SDMReqCode.codec

/-- The expression of a search leaves room for its terminator in the largest message. -/
def Short : (name : MessageName) → name.Fields → Prop
  | SDMSearch, msg => msg.reg_expr.length < BUFSIZE - 34
  | _, _ => True

theorem lawful (checksum : List UInt8 → Int32) (name : MessageName) :
    (name.codec checksum).Lawful name.Short := by
  cases name with
  | SDMData => exact SDMData.lawful
  | SDMCommand => exact SDMCommand.lawful
  | SDMService => exact SDMService.lawful
  | SDMSerreqst => exact SDMSerreqst.lawful
  | SDMReqReg => exact SDMReqReg.lawful
  | SDMRegInfo => exact SDMRegInfo.lawful
  | SDMSearch => exact SDMSearch.lawful
  | SDMSearchReply => exact SDMSearchReply.lawful
  | SDMVarReq => exact SDMVarReq.lawful
  | SDMVarInfo => exact SDMVarInfo.lawful
  | SDMCode => exact SDMCode.lawful checksum
  | SDMTask => exact SDMTask.lawful
  | SDMPostTask => exact SDMPostTask.lawful
  | SDMTaskFinished => exact SDMTaskFinished.lawful
  | SDMReqCode => exact SDMReqCode.lawful

end MessageName

/-- **A marshalled message round-trips**: it is decoded with its length and its fields, whatever the
object held before, and forwarded byte by byte, exactly when it is not a search whose expression
fills its array and the object that it is decoded into is not marked as empty. -/
theorem marshalled_roundTrips_iff (checksum : List UInt8 → Int32) (name : MessageName)
    (sent : Object name.Fields) {sent' : Object name.Fields} {bytes : List UInt8}
    {sec subsec : UInt32} (filled : (name.codec checksum).kind.hasEmpty → sent.emptyflag = false)
    (marshalled : (name.codec checksum).Marshal sec subsec sent = .ok (sent', bytes))
    (old : Object name.Fields) (stale : Memory) :
    (name.codec checksum).RoundTrips sent'.msg bytes old stale ↔
      name.Short sent.msg ∧ ((name.codec checksum).kind.hasEmpty → old.emptyflag = false) := by
  obtain ⟨body, hbody, rfl, rfl⟩ := (MessageCodec.Marshal_eq_ok filled).mp marshalled
  exact (name.lawful checksum).roundTrips_iff sent.msg old stale hbody

/-- A reply to a request for a variable. -/
def someVarInfo : SDMVarInfo where
  source := ⟨1, 2, 3⟩
  id := 7
  interface := .ofString "face"
  var_xTEDS := .ofString "text"

/-- An object of the class, marked as empty or not. -/
def varInfoObject (emptyflag : Bool) : Object SDMVarInfo := ⟨someVarInfo, ⟨0, 0, 0⟩, emptyflag⟩

/-- What it is marshalled to behind the header. -/
def someVarInfoBody : List UInt8 :=
  someVarInfo.source.marshal ++ (bytes16 someVarInfo.id ++
    (someVarInfo.interface.bytes ++ [0] ++ (someVarInfo.var_xTEDS.bytes ++ [0])))

theorem marshalled_varInfo_roundTrips :
    SDMVarInfo.codec.RoundTrips someVarInfo (SDMVarInfo.codec.bytes 5 6 someVarInfoBody)
      (varInfoObject true) (fun _ => 0) ↔
        MessageName.Short .SDMVarInfo someVarInfo ∧
          (SDMVarInfo.codec.kind.hasEmpty → true = false) :=
  marshalled_roundTrips_iff (fun _ => 0) .SDMVarInfo (varInfoObject false) (fun _ => rfl) rfl
    (varInfoObject true) fun _ => 0

/-- An object that was sent as an empty message forwards the next one as an empty message. -/
theorem not_marshalled_roundTrips : ¬ ∀ (checksum : List UInt8 → Int32) (name : MessageName)
    (sent sent' : Object name.Fields) (bytes : List UInt8) (sec subsec : UInt32),
    ((name.codec checksum).kind.hasEmpty → sent.emptyflag = false) →
      (name.codec checksum).Marshal sec subsec sent = .ok (sent', bytes) →
        ∀ old stale, (name.codec checksum).RoundTrips sent'.msg bytes old stale := by
  intro all
  have trip := all (fun _ => 0) .SDMVarInfo (varInfoObject false)
    ⟨someVarInfo, ⟨5, 6, Int16.ofNat someVarInfoBody.length⟩, false⟩
    (SDMVarInfo.codec.bytes 5 6 someVarInfoBody) 5 6 (fun _ => rfl) rfl
      (varInfoObject true) fun _ => 0
  have marked : (varInfoObject true).emptyflag = false :=
    ((SDMVarInfo.lawful.roundTrips_iff someVarInfo (varInfoObject true) (fun _ => 0)
      rfl).mp trip).2 rfl
  cases marked

end Sdm
