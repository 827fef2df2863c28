import Sdm.Common.AsimRead
import Sdm.Message.XTEDSMessage

/-!
What a sensor does with the messages of its device: data is published, and the reply to a request
for the xTEDS is kept.

A data message has two bytes for its id, and the payload behind them. The reply with the xTEDS may
have an id of four bytes in front of the text. The text is kept in an array of its own size, and
copied to an `SDMxTEDS` later.

* `publishes_iff`, `publish_read`: what is published of a data message.
* `keep_plain`, `keep_id`: the two forms of the reply.
* `payload_iff`: which data is published as it should be, and which replies are kept.
-/

namespace Sdm

open Lib Checked Memory

/-- The members of `Sensor` that `Read` and `Register` use. -/
structure SensorReader where
  connected : Bool
  device_xTEDS : Option Buffer
  subscriptions : SubscriptionManager

namespace SensorReader

def MAX_TRIES : Nat := 30

/-- A message that the device returns to a buffer of `BUFSIZE` bytes. For a time at tone, whether the
socket takes it. -/
structure Reply where
  type : UInt8
  data : List UInt8
  within : data.length ≤ BUFSIZE
  sent : Bool

/-- The buffer, which `Read` clears first. -/
def Reply.buf (m : Reply) : Buffer := ⟨Memory.store (fun _ => 0) 0 m.data, BUFSIZE⟩

/-- `SubscriptionManager::Publish` up to its loop: the data message is formed. -/
def formed (subscriptions : SubscriptionManager) (interface_id message_id : UInt8) (buf : Buffer)
    (data : Nat) (length : Int) : Checked SubscriptionManager := do
  access (buf.request data length)
  access ⟨DATA_SIZE, 0, length.toNat⟩
  let msg := buf.bytes.read data length.toNat
  return { subscriptions with dat := subscriptions.message ⟨interface_id, message_id⟩ msg }

/-- What `Read` leaves: its result, the members, and the message that goes to the subscribers. -/
structure SensorRead where
  msg_type : UInt8
  sensor : SensorReader
  published : Option SDMData

def Read (s : SensorReader) (m : Reply) : Checked SensorRead :=
  if s.connected = false then return ⟨ASIM_ERROR, s, none⟩
  else if m.type = ASIM_DATA then do
    let subscriptions ← formed s.subscriptions (m.buf.bytes 0) (m.buf.bytes 1) m.buf 2
      ((m.data.length : Int) - 2)
    return ⟨m.type, { s with subscriptions }, some subscriptions.dat⟩
  else if m.type = ASIM_TIME_AT_TONE ∧ m.sent = false then return ⟨ASIM_ERROR, s, none⟩
  else return ⟨m.type, s, none⟩

/-- `strstr` in a buffer. It ends where the text is found, or at the terminator. -/
def strstr (b : Buffer) (off : Nat) (s : CString) : Checked Bool :=
  let text := (b.bytes.read off (b.size - off)).takeWhile (· ≠ 0)
  if strstrBytes s.bytes text then return true
  else do
    access ⟨b.size, off, text.length + 1⟩
    return false

/-- How the wait for an xTEDS ends. -/
inductive Awaited where
  | waiting
  | refused (s : SensorReader)
  | accepted (s : SensorReader) (m : Reply)

/-- The loop of `Register`. -/
def awaitXTEDS (s : SensorReader) (register_tries : Nat) : List Reply → Checked Awaited
  | [] => return .waiting
  | m :: replies => do
      let r ← s.Read m
      if r.msg_type = ASIM_ERROR then return .refused r.sensor
      else if r.msg_type = ASIM_XTEDS ∨ r.msg_type = ASIM_XTEDS_ID_PAIR then
        if ← strstr m.buf 4 (.ofString "</xTEDS>") then return .accepted r.sensor m
        else if MAX_TRIES < register_tries then return .refused r.sensor
        else awaitXTEDS r.sensor (register_tries + 1) replies
      else if MAX_TRIES < register_tries then return .refused r.sensor
      else awaitXTEDS r.sensor (register_tries + 1) replies

/-- The device is initialized and asked for its version, and then for its xTEDS. -/
def await (s : SensorReader) : List Reply → Checked Awaited
  | [] => return .waiting
  | m :: replies => do
      let r ← s.Read m
      if r.msg_type = ASIM_ERROR then return .refused r.sensor
      else
        match replies with
        | [] => return .waiting
        | m :: replies =>
            let r ← r.sensor.Read m
            if r.msg_type = ASIM_ERROR then return .refused r.sensor
            else awaitXTEDS r.sensor 1 replies

/-- `new char[size]`, `strncpy` of `n` bytes and a terminator at `last`. -/
def copyText (fresh : Memory) (buf : Buffer) (size src n last : Nat) : Checked Buffer := do
  let text := (buf.bytes.read src n).takeWhile (· ≠ 0)
  access ⟨buf.size, src, min (text.length + 1) n⟩
  access ⟨size, 0, n⟩
  access ⟨size, last, 1⟩
  return ⟨(fresh.store 0 (buf.bytes.strncpy src n)).store last [0], size⟩

/-- The reply is kept. One with an id is longer than that, since its text was found behind it. -/
def keep (fresh : Memory) (m : Reply) : Checked Buffer :=
  let length := m.data.length
  if m.type = ASIM_XTEDS_ID_PAIR then copyText fresh m.buf (length + 1 - 4) 4 (length - 4) length
  else copyText fresh m.buf (length + 1) 0 length length

/-- `Register`, up to the Hello; none while it waits for its device. `fresh` is what the new array
holds before. -/
def Register (s : SensorReader) (fresh : Memory) (replies : List Reply) :
    Checked (Option (Bool × SensorReader)) := do
  match ← s.await replies with
  | .waiting => return none
  | .refused s => return some (false, s)
  | .accepted s m => do
      let device_xTEDS ← keep fresh m
      return some (true, { s with device_xTEDS := some device_xTEDS })

/-! ### What it is for -/

/-- Of a data message with an id, the bytes behind it are published. Of others, nothing is. -/
def Publishes (s : SensorReader) (m : Reply) : Prop :=
  ∃ r, s.Read m = .ok r ∧
    r.published = if m.type = ASIM_DATA ∧ 2 ≤ m.data.length then
      some (s.subscriptions.message ⟨m.data.getD 0 0, m.data.getD 1 0⟩ (m.data.drop 2)) else none

/-- The text of a reply with the xTEDS. -/
def Reply.text (m : Reply) : CString :=
  .ofBytes (if m.type = ASIM_XTEDS_ID_PAIR then m.data.drop 4 else m.data)

/-- The array holds the text with its terminator, and can be copied to an `SDMxTEDS`. -/
structure Holds (xTEDS : Buffer) (text : CString) : Prop where
  terminated : xTEDS.TextAt 0 text.length
  same : xTEDS.textOf 0 text.length = text
  copied : Safe (xTEDS.strcpy MAX_XTEDS_SIZE 0)

/-- The sensor registers, and keeps the text of the reply. -/
def Keeps (s : SensorReader) (fresh : Memory) (replies : List Reply) (m : Reply) : Prop :=
  ∃ s' xTEDS, s.Register fresh replies = .ok (some (true, s')) ∧
    s'.device_xTEDS = some xTEDS ∧ Holds xTEDS m.text

/-! ### Data -/

section Data

variable {s : SensorReader} {m : Reply} {fresh : Memory} {replies : List Reply}

theorem formed_eq_ok {subscriptions after : SubscriptionManager} {interface_id message_id : UInt8}
    {buf : Buffer} {data : Nat} {length : Int} :
    formed subscriptions interface_id message_id buf data length = .ok after ↔
      (0 ≤ length ∧ data + length ≤ buf.size ∧ length ≤ DATA_SIZE) ∧
        after = { subscriptions with
          dat := subscriptions.message ⟨interface_id, message_id⟩
            (buf.bytes.read data length.toNat) } := by
  simp only [formed, bind_eq_ok, access_eq_ok, pure_eq_ok, exists_const,
    Buffer.request_inside_iff]
  constructor
  · rintro ⟨⟨nonneg, inside⟩, fits, same⟩
    have fits : 0 + length.toNat ≤ DATA_SIZE := fits
    exact ⟨⟨nonneg, inside, by omega⟩, same⟩
  · rintro ⟨⟨nonneg, inside, fits⟩, same⟩
    refine ⟨⟨nonneg, inside⟩, ?_, same⟩
    show 0 + length.toNat ≤ DATA_SIZE
    omega

theorem buf_getD (k : Nat) : m.buf.bytes k = m.data.getD k 0 := by
  show Memory.store (fun _ => 0) 0 m.data k = _
  by_cases inside : k < m.data.length
  · rw [store_of_inside ⟨Nat.zero_le k, by omega⟩, Nat.sub_zero]
  · rw [store_of_outside (by omega), List.getD_eq_default _ _ (Nat.not_lt.mp inside)]

theorem buf_read (n : Nat) :
    m.buf.bytes.read n (m.data.length - n) = m.data.drop n := by
  rw [← List.length_drop]
  refine read_eq fun j _ => ?_
  rw [buf_getD, List.getD_eq_getElem?_getD, List.getD_eq_getElem?_getD, List.getElem?_drop]

/-- **A message is read** unless it is data that is shorter than its id, or longer than what an
`SDMData` holds. -/
theorem publishes_iff (connected : s.connected = true) :
    s.Publishes m ↔
      (m.type = ASIM_DATA → 2 ≤ m.data.length ∧ m.data.length ≤ DATA_SIZE + 2) := by
  have isConnected : ¬ s.connected = false := by rw [connected]; nofun
  by_cases isData : m.type = ASIM_DATA
  · rw [Publishes, Read, if_neg isConnected, if_pos isData]
    have within := m.within
    have size : m.buf.size = BUFSIZE := rfl
    constructor
    · rintro ⟨r, done, -⟩ -
      obtain ⟨after, formed, -⟩ := bind_eq_ok.mp done
      obtain ⟨⟨nonneg, -, fits⟩, -⟩ := formed_eq_ok.mp formed
      omega
    · intro fits
      obtain ⟨ge, le⟩ := fits isData
      have whole : ((m.data.length : Int) - 2).toNat = m.data.length - 2 := by omega
      refine ⟨_, bind_eq_ok.mpr ⟨_, formed_eq_ok.mpr ⟨⟨by omega, by omega, by omega⟩, rfl⟩, rfl⟩, ?_⟩
      rw [if_pos ⟨isData, ge⟩, whole, buf_read 2, buf_getD, buf_getD]
  · rw [Publishes, Read, if_neg isConnected, if_neg isData]
    refine iff_of_true ?_ fun yes => absurd yes isData
    have nothing : ¬ (m.type = ASIM_DATA ∧ 2 ≤ m.data.length) := fun both => isData both.1
    simp only [if_neg nothing]
    split
    · exact ⟨_, rfl, rfl⟩
    · exact ⟨_, rfl, rfl⟩

/-- What is published goes to the subscribers as it is. -/
theorem publish_read {r : SensorRead} {dat : SDMData} {rounds : Nat} {result : Nat → Int}
    {l : List (Nat × SubscriptionManager.Subscription)} {after : SubscriptionManager × Bool}
    (done : s.Read m = .ok r) (published : r.published = some dat)
    (holds : s.subscriptions.heap.Holds s.subscriptions.sub_list l)
    (sends : s.subscriptions.Publish rounds dat.msg_id dat.msg result = .ok after) :
    after.1.sent = s.subscriptions.sent ++
      (l.filter fun c => SubscriptionManager.isDue dat.msg_id c.2).map fun c =>
        (c.2.component_id, dat) := by
  have same : s.subscriptions.message dat.msg_id dat.msg = dat := by
    rw [Read] at done
    split at done
    · cases done
      cases published
    · split at done
      · obtain ⟨subscriptions, formed, kept⟩ := bind_eq_ok.mp done
        cases kept
        cases published
        rw [(formed_eq_ok.mp formed).2]
        rfl
      · split at done
        · cases done
          cases published
        · cases done
          cases published
  rw [SubscriptionManager.publish_sent holds sends, same]

end Data

/-! ### The xTEDS -/

section XTEDS

variable {s s' : SensorReader} {m : Reply} {fresh : Memory} {replies : List Reply} {buf : Buffer}
  {size src n last : Nat}

/-- A text is found that stands in the reply, before its terminator. -/
theorem strstr_found {t : CString}
    (found : strstrBytes t.bytes ((m.data.drop 4).takeWhile (· ≠ 0)) = true) :
    strstr m.buf 4 t = .ok true := by
  have size : m.buf.size - 4 = m.data.length - 4 + (m.buf.size - 4 - (m.data.length - 4)) := by
    have within : m.data.length ≤ m.buf.size := m.within
    omega
  have whole : (m.data.drop 4).takeWhile (· ≠ 0) <+:
      (m.buf.bytes.read 4 (m.buf.size - 4)).takeWhile (· ≠ 0) := by
    rw [size, read_add, buf_read 4, List.takeWhile_append]
    split
    · exact (List.takeWhile_prefix _).trans (List.prefix_append _ _)
    · exact List.prefix_refl _
  rw [strstr, if_pos (strstrBytes_iff.mpr ((strstrBytes_iff.mp found).trans whole.isInfix))]
  rfl

/-- A message that is neither data nor a time is looked at and left. -/
theorem read_quiet (connected : s.connected = true)
    (quiet : m.type ≠ ASIM_DATA ∧ m.type ≠ ASIM_TIME_AT_TONE) :
    s.Read m = .ok ⟨m.type, s, none⟩ := by
  rw [Read, if_neg (by rw [connected]; nofun), if_neg quiet.1, if_neg fun both => quiet.2 both.1]
  rfl

/-- A reply with an xTEDS that comes first is accepted. -/
theorem await_found {status version : Reply} (connected : s.connected = true)
    (isStatus : status.type = ASIM_STATUS) (isVersion : version.type = ASIM_VERSION)
    (isXTEDS : m.type = ASIM_XTEDS ∨ m.type = ASIM_XTEDS_ID_PAIR)
    (found : strstrBytes (CString.ofString "</xTEDS>").bytes
      ((m.data.drop 4).takeWhile (· ≠ 0)) = true) :
    s.await (status :: version :: m :: replies) = .ok (.accepted s m) := by
  have third : m.type ≠ ASIM_DATA ∧ m.type ≠ ASIM_TIME_AT_TONE ∧ m.type ≠ ASIM_ERROR := by
    rcases isXTEDS with type | type
    all_goals
      rw [type]
      decide
  rw [await, read_quiet connected (by rw [isStatus]; decide)]
  refine Eq.trans (pure_bind (⟨status.type, s, none⟩ : SensorRead) _) ?_
  dsimp only
  rw [if_neg (by rw [isStatus]; decide), read_quiet connected (by rw [isVersion]; decide)]
  refine Eq.trans (pure_bind (⟨version.type, s, none⟩ : SensorRead) _) ?_
  dsimp only
  rw [if_neg (by rw [isVersion]; decide), awaitXTEDS, read_quiet connected ⟨third.1, third.2.1⟩]
  refine Eq.trans (pure_bind (⟨m.type, s, none⟩ : SensorRead) _) ?_
  dsimp only
  rw [if_neg third.2.2, if_pos isXTEDS, strstr_found found]
  rfl

theorem copyText_eq_ok {xTEDS : Buffer} (inside : src + n ≤ buf.size) :
    copyText fresh buf size src n last = .ok xTEDS ↔ n ≤ size ∧ last < size ∧
      xTEDS = ⟨(fresh.store 0 (buf.bytes.strncpy src n)).store last [0], size⟩ := by
  have le : min ((buf.bytes.read src n).takeWhile (· ≠ 0)).length.succ n ≤ n := Nat.min_le_right _ _
  simp only [copyText, bind_eq_ok, access_eq_ok, pure_eq_ok, exists_const, Access.Inside]
  constructor
  · rintro ⟨-, copied, ended, same⟩
    exact ⟨by omega, by omega, same⟩
  · rintro ⟨copied, ended, same⟩
    exact ⟨by omega, by omega, by omega, same⟩

/-- A text that is copied with a terminator behind it. -/
theorem has_strncpy (fresh bytes : Memory) (src n : Nat) :
    ((fresh.store 0 (bytes.strncpy src n)).store n [0]).Has 0
      ((CString.ofBytes (bytes.read src n)).bytes ++ [0]) := by
  let text := CString.ofBytes (bytes.read src n)
  have zeros : List.replicate (n - text.length) (0 : UInt8) ++ [0] =
      [0] ++ List.replicate (n - text.length) 0 := by
    rw [← List.replicate_succ', List.replicate_succ]
    rfl
  have copied : bytes.strncpy src n ++ [0] =
      text.bytes ++ [0] ++ List.replicate (n - text.length) 0 := by
    show text.bytes ++ List.replicate (n - text.length) 0 ++ [0] = _
    rw [List.append_assoc, zeros, List.append_assoc]
  have together : (fresh.store 0 (bytes.strncpy src n)).store n [0] =
      fresh.store 0 (text.bytes ++ [0] ++ List.replicate (n - text.length) 0) := by
    rw [← copied, store_append, length_strncpy, Nat.zero_add]
  rw [together]
  exact (has_append.mp has_store).1

/-- A reply without an id is kept in an array that it fills. -/
theorem keep_plain (plain : m.type ≠ ASIM_XTEDS_ID_PAIR) : ∃ xTEDS, keep fresh m = .ok xTEDS ∧
    xTEDS.size = m.data.length + 1 ∧ xTEDS.bytes.Has 0 (m.text.bytes ++ [0]) := by
  have inside : 0 + m.data.length ≤ m.buf.size := by
    rw [Nat.zero_add]
    exact m.within
  refine ⟨⟨(fresh.store 0 (m.buf.bytes.strncpy 0 m.data.length)).store m.data.length [0],
    m.data.length + 1⟩, ?_, rfl, ?_⟩
  · rw [keep, if_neg plain]
    exact (copyText_eq_ok inside).mpr ⟨Nat.le_succ _, Nat.lt_succ_self _, rfl⟩
  · have text : m.text = CString.ofBytes (m.buf.bytes.read 0 m.data.length) := by
      rw [Reply.text, if_neg plain, ← Nat.sub_zero m.data.length, buf_read 0,
        List.drop_zero]
    rw [text]
    exact has_strncpy fresh m.buf.bytes 0 m.data.length

/-- A reply with an id has its terminator written behind the array. -/
theorem keep_id (isPair : m.type = ASIM_XTEDS_ID_PAIR) (xTEDS : Buffer) :
    keep fresh m ≠ .ok xTEDS := by
  intro kept
  rw [keep, if_pos isPair] at kept
  have within := m.within
  have some : 4 ≤ BUFSIZE := by decide
  obtain ⟨-, ended, -⟩ := (copyText_eq_ok (show 4 + (m.data.length - 4) ≤ BUFSIZE by omega)).mp kept
  omega

theorem length_text_le : m.text.length ≤ m.data.length := by
  have cut (bytes : List UInt8) : (CString.ofBytes bytes).length ≤ bytes.length :=
    (List.takeWhile_prefix _).length_le
  rw [Reply.text]
  split
  · exact (cut _).trans (List.length_drop ▸ Nat.sub_le _ _)
  · exact cut _

/-- **An accepted reply** is kept where it has no id and its text fits an `SDMxTEDS`. -/
theorem keeps_iff (accepted : s.await replies = .ok (.accepted s' m)) :
    s.Keeps fresh replies m ↔
      m.type ≠ ASIM_XTEDS_ID_PAIR ∧ m.text.length < MAX_XTEDS_SIZE := by
  have registers : s.Register fresh replies =
      (keep fresh m).map fun xTEDS => some (true, { s' with device_xTEDS := some xTEDS }) := by
    rw [Register, accepted]
    rfl
  constructor
  · rintro ⟨s'', xTEDS, done, kept, holds⟩
    rw [registers] at done
    cases result : keep fresh m with
    | error f =>
        rw [result] at done
        cases done
    | ok xTEDS' =>
        have plain : m.type ≠ ASIM_XTEDS_ID_PAIR := fun isPair => keep_id isPair xTEDS' result
        refine ⟨plain, ?_⟩
        obtain ⟨text, copied⟩ := holds.copied
        obtain ⟨n, textAt, lt, -⟩ := Buffer.strcpy_eq_ok.mp copied
        have same := (Buffer.textAt_iff_strlen.mp textAt).symm.trans
          (Buffer.textAt_iff_strlen.mp holds.terminated)
        rw [← Option.some.inj same]
        exact lt
  · rintro ⟨plain, fits⟩
    obtain ⟨xTEDS, result, size, here⟩ : ∃ xTEDS, keep fresh m = .ok xTEDS ∧
        xTEDS.size = m.data.length + 1 ∧ xTEDS.bytes.Has 0 (m.text.bytes ++ [0]) := keep_plain plain
    rw [result] at registers
    have within : 0 + m.text.length < xTEDS.size := by
      have le := length_text_le (m := m)
      omega
    exact ⟨_, xTEDS, registers, rfl, Buffer.textAt_of_has here within, Buffer.textOf_of_has here,
      _, Buffer.strcpy_of_has here within fits⟩

end XTEDS

/-- **Data is published as it is** unless it is shorter than its id, or longer than an `SDMData`. **A
reply with the xTEDS is kept** unless it has an id, or its text is longer than an `SDMxTEDS`. -/
theorem payload_iff (s : SensorReader) (connected : s.connected = true) (fresh : Memory) :
    (∀ m, s.Publishes m ↔
        (m.type = ASIM_DATA → 2 ≤ m.data.length ∧ m.data.length ≤ DATA_SIZE + 2)) ∧
      ∀ replies s' m, s.await replies = .ok (.accepted s' m) →
        (s.Keeps fresh replies m ↔
          m.type ≠ ASIM_XTEDS_ID_PAIR ∧ m.text.length < MAX_XTEDS_SIZE) :=
  ⟨fun _ => publishes_iff connected, fun _ _ _ accepted => keeps_iff accepted⟩

/-- No subscriptions, and no device yet. -/
def fresh : SensorReader :=
  ⟨true, none, ⟨.zero, none, ⟨.zero, ⟨0, 0⟩, 0, []⟩, fun _ => none, []⟩⟩

/-- Three bytes of data, and a reply to the third request with an xTEDS. -/
theorem payload_sample : fresh.connected = true ∧
    fresh.Publishes ⟨ASIM_DATA, [1, 2, 3], by decide, true⟩ ∧
    fresh.Keeps (fun _ => 7) [⟨ASIM_STATUS, [0], by decide, true⟩, ⟨ASIM_VERSION, [1], by decide, true⟩,
      ⟨ASIM_XTEDS, (CString.ofString "<xTEDS></xTEDS>").bytes, by decide, true⟩]
      ⟨ASIM_XTEDS, (CString.ofString "<xTEDS></xTEDS>").bytes, by decide, true⟩ := by
  have both := payload_iff fresh rfl fun _ => 7
  refine ⟨rfl, (both.1 _).mpr (by decide), (both.2 _ fresh _ ?_).mpr (by decide)⟩
  exact await_found rfl rfl rfl (.inl rfl) (by decide)

/-- One byte of data. And a reply of an id and an xTEDS. -/
theorem not_payload : ¬ fresh.Publishes ⟨ASIM_DATA, [1], by decide, true⟩ ∧
    ¬ fresh.Keeps (fun _ => 7) [⟨ASIM_STATUS, [0], by decide, true⟩,
      ⟨ASIM_VERSION, [1], by decide, true⟩,
      ⟨ASIM_XTEDS_ID_PAIR, [9, 9, 9, 9] ++ (CString.ofString "<xTEDS></xTEDS>").bytes, by decide,
        true⟩]
      ⟨ASIM_XTEDS_ID_PAIR, [9, 9, 9, 9] ++ (CString.ofString "<xTEDS></xTEDS>").bytes, by decide,
        true⟩ := by
  constructor
  · rw [publishes_iff rfl]
    decide
  · rw [keeps_iff (await_found rfl rfl rfl (.inr rfl) (by decide))]
    exact fun both => both.1 rfl

end SensorReader

end Sdm
