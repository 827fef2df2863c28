import Sdm.Message.Decoders

/-!
`TCPMonitor` of the Sensor Manager: receiving one message over a connection.

A message is read into a buffer that still holds what was received before. One loop reads until the
header is there, a second one the rest; both keep the size of the last read alone.

* `receive_safe`: the reads stay inside the buffer.
* `receive_closed_iff`: when the loops end after the peer has closed the connection.
* `tcpMonitor_iff`: a message is passed on as it was sent when it comes in one read.
-/

namespace Sdm

open Lib Checked Memory

/-- What comes of a call of `recv`: an error, or the bytes that are there, none of them when the
peer has closed the connection. -/
inductive Recv where
  | error
  | bytes (available : List UInt8)
  deriving DecidableEq, Repr

/-- Where `TCPMonitor` is after some calls: it has returned, it has passed the buffer on to a
handler, or it is in one of its loops, about to call again. -/
inductive Reception where
  | left
  | handled (buf : Memory)
  | waiting

/-- `TCPrecv`, to this place of the buffer and up to its end: the number of bytes, none for an
error. -/
def TCPrecv (buf : Memory) (off : Nat) : Recv → Checked (Option Nat × Memory)
  | .error => pure (none, buf)
  | .bytes available => do
      let got := available.take (size_t (BUFSIZE - off))
      access ⟨BUFSIZE, off, got.length⟩
      pure (some got.length, buf.store off got)

/-- The loop over the rest of the message. `status` is the size of the last read. -/
def receiveRest (length : Int16) : List Recv → Memory → Nat → Checked Reception
  | [], buf, status =>
      if length.toInt > status - HEADER_SIZE then pure .waiting else pure (.handled buf)
  | r :: calls, buf, status =>
      if length.toInt > status - HEADER_SIZE then do
        match ← TCPrecv buf status r with
        | (none, _) => pure .left
        | (some status, buf) => receiveRest length calls buf status
      else pure (.handled buf)

/-- The loop over the header. -/
def receiveHeader : List Recv → Memory → (status count : Nat) → Checked Reception
  | [], buf, status, count =>
      if count < HEADER_SIZE then pure .waiting
      else do
        let length ← (recvBuffer buf).load16 9
        receiveRest length.toInt16 [] buf status
  | r :: calls, buf, status, count =>
      if count < HEADER_SIZE then do
        match ← TCPrecv buf status r with
        | (none, _) => pure .left
        | (some status, buf) => receiveHeader calls buf status (count + status)
      else do
        let length ← (recvBuffer buf).load16 9
        receiveRest length.toInt16 (r :: calls) buf status

/-- One round of `TCPMonitor`, with what comes of the calls of `recv`. -/
def receive : List Recv → Memory → Checked Reception
  | [], _ => pure .waiting
  | r :: calls, buf => do
      match ← TCPrecv buf 0 r with
      | (none, _) => pure .left
      | (some status, buf) => receiveHeader calls buf status status

/-! ### The reads stay inside -/

section Safety

variable {buf : Memory} {off status count : Nat} {length : Int16} {calls : List Recv}

theorem load_length : (recvBuffer buf).load16 9 = .ok (buf.load16 9) :=
  Buffer.fetch_eq_ok.mpr ⟨show 11 ≤ BUFSIZE by decide, rfl⟩

/-- Bytes that fit behind the place are stored there. -/
theorem TCPrecv_bytes {available : List UInt8} (fits : off + available.length ≤ BUFSIZE) :
    TCPrecv buf off (.bytes available) = .ok (some available.length, buf.store off available) := by
  have whole : available.take (size_t (BUFSIZE - off)) = available := by
    refine List.take_of_length_le ?_
    simp only [size_t, BUFSIZE] at fits ⊢
    omega
  rw [TCPrecv, whole]
  exact bind_eq_ok.mpr ⟨(), access_eq_ok.mpr fits, rfl⟩

/-- A read from a place in the buffer stays in the buffer. -/
theorem TCPrecv_safe (buf : Memory) (le : off ≤ BUFSIZE) (r : Recv) :
    ∃ got buf', TCPrecv buf off r = .ok (got, buf') ∧ ∀ status ∈ got, status ≤ BUFSIZE := by
  cases r with
  | error => exact ⟨none, buf, rfl, nofun⟩
  | bytes available =>
      have room : size_t (BUFSIZE - off) = BUFSIZE - off := by
        simp only [size_t, BUFSIZE] at le ⊢
        omega
      have fits : off + (available.take (size_t (BUFSIZE - off))).length ≤ BUFSIZE := by
        rw [room, List.length_take]
        omega
      refine ⟨_, _, bind_eq_ok.mpr ⟨(), access_eq_ok.mpr fits, rfl⟩, ?_⟩
      intro status same
      cases same
      omega

theorem receiveRest_safe (le : status ≤ BUFSIZE) : Safe (receiveRest length calls buf status) := by
  induction calls generalizing buf status with
  | nil =>
      rw [receiveRest]
      split <;> exact safe_pure
  | cons r calls ih =>
      rw [receiveRest]
      split
      · obtain ⟨got, buf', call, within⟩ := TCPrecv_safe buf le r
        rw [call]
        cases got with
        | none => exact safe_pure
        | some status => exact ih (within status rfl)
      · exact safe_pure

theorem receiveHeader_safe (le : status ≤ BUFSIZE) :
    Safe (receiveHeader calls buf status count) := by
  induction calls generalizing buf status count with
  | nil =>
      rw [receiveHeader]
      split
      · exact safe_pure
      · exact safe_bind.mpr ⟨_, load_length, receiveRest_safe le⟩
  | cons r calls ih =>
      rw [receiveHeader]
      split
      · obtain ⟨got, buf', call, within⟩ := TCPrecv_safe buf le r
        rw [call]
        cases got with
        | none => exact safe_pure
        | some status => exact ih (within status rfl)
      · exact safe_bind.mpr ⟨_, load_length, receiveRest_safe le⟩

/-- **Whatever comes of the calls**, `TCPMonitor` writes only inside its buffer. -/
theorem receive_safe (calls : List Recv) (buf : Memory) : Safe (receive calls buf) := by
  cases calls with
  | nil => exact safe_pure
  | cons r calls =>
      obtain ⟨got, buf', call, within⟩ := TCPrecv_safe buf (Nat.zero_le BUFSIZE) r
      rw [receive, call]
      cases got with
      | none => exact safe_pure
      | some status => exact receiveHeader_safe (within status rfl)

end Safety

/-! ### The peer closes the connection -/

section Closing

variable {buf : Memory} {status count : Nat} {length : Int16} {calls : List Recv} (k : Nat)

/-- What comes of a call when the peer has closed the connection. -/
def Recv.closed : Recv := .bytes []

theorem TCPrecv_closed (le : off ≤ BUFSIZE) :
    TCPrecv buf off .closed = .ok (some 0, buf) := by
  rw [Recv.closed, TCPrecv_bytes (by simpa using le)]
  refine congrArg (fun m => Except.ok (some 0, m)) (funext fun a => store_of_outside ?_)
  rw [List.length_nil]
  omega

theorem receiveRest_closed (le : status ≤ BUFSIZE) (more : length.toInt > status - HEADER_SIZE) :
    receiveRest length (List.replicate k .closed) buf status = .ok .waiting := by
  induction k generalizing status with
  | zero => rw [List.replicate_zero, receiveRest, if_pos more]; rfl
  | succ k ih =>
      rw [List.replicate_succ, receiveRest, if_pos more, TCPrecv_closed le]
      exact ih (Nat.zero_le _) (by omega)

/-- The second loop does not end any more when it has not ended before. -/
theorem receiveRest_append_closed (le : status ≤ BUFSIZE)
    (waits : receiveRest length calls buf status = .ok .waiting) :
    receiveRest length (calls ++ List.replicate k .closed) buf status = .ok .waiting := by
  induction calls generalizing buf status with
  | nil =>
      rw [receiveRest] at waits
      split at waits
      · rename_i more
        exact receiveRest_closed k le more
      · cases waits
  | cons r calls ih =>
      rw [receiveRest] at waits
      rw [List.cons_append, receiveRest]
      split at waits
      · rename_i more
        rw [if_pos more]
        obtain ⟨got, buf', call, within⟩ := TCPrecv_safe buf le r
        rw [call] at waits ⊢
        cases got with
        | none => exact waits
        | some status => exact ih (within status rfl) waits
      · cases waits

theorem receiveHeader_closed (le : status ≤ BUFSIZE) (more : count < HEADER_SIZE) :
    receiveHeader (List.replicate k .closed) buf status count = .ok .waiting := by
  induction k generalizing status with
  | zero => rw [List.replicate_zero, receiveHeader, if_pos more]; rfl
  | succ k ih =>
      rw [List.replicate_succ, receiveHeader, if_pos more, TCPrecv_closed le]
      exact ih (Nat.zero_le _)

/-- Behind the header the second loop reads, from the same place. -/
theorem receiveHeader_of_le (whole : HEADER_SIZE ≤ count) :
    receiveHeader calls buf status count =
      receiveRest (buf.load16 9).toInt16 calls buf status := by
  cases calls <;> rw [receiveHeader, if_neg (Nat.not_lt.mpr whole), load_length] <;> rfl

theorem receiveHeader_append_closed (le : status ≤ BUFSIZE)
    (waits : receiveHeader calls buf status count = .ok .waiting) :
    receiveHeader (calls ++ List.replicate k .closed) buf status count = .ok .waiting := by
  induction calls generalizing buf status count with
  | nil =>
      by_cases whole : HEADER_SIZE ≤ count
      · rw [receiveHeader_of_le whole] at waits ⊢
        exact receiveRest_append_closed k le waits
      · exact receiveHeader_closed k le (Nat.lt_of_not_le whole)
  | cons r calls ih =>
      by_cases whole : HEADER_SIZE ≤ count
      · rw [receiveHeader_of_le whole] at waits ⊢
        exact receiveRest_append_closed k le waits
      · rw [receiveHeader, if_pos (Nat.lt_of_not_le whole)] at waits
        rw [List.cons_append, receiveHeader, if_pos (Nat.lt_of_not_le whole)]
        obtain ⟨got, buf', call, within⟩ := TCPrecv_safe buf le r
        rw [call] at waits ⊢
        cases got with
        | none => exact waits
        | some status => exact ih (within status rfl) waits

/-- A reception that is not over when the peer closes the connection is never over. -/
theorem receive_append_closed (waits : receive calls buf = .ok .waiting) :
    receive (calls ++ List.replicate k .closed) buf = .ok .waiting := by
  cases calls with
  | nil =>
      cases k with
      | zero => rfl
      | succ k =>
          rw [List.nil_append, List.replicate_succ, receive, TCPrecv_closed (Nat.zero_le _)]
          exact receiveHeader_closed k (Nat.zero_le _) (by decide)
  | cons r calls =>
      rw [receive] at waits
      rw [List.cons_append, receive]
      obtain ⟨got, buf', call, within⟩ := TCPrecv_safe buf (Nat.zero_le BUFSIZE) r
      rw [call] at waits ⊢
      cases got with
      | none => exact waits
      | some status => exact receiveHeader_append_closed k (within status rfl) waits

/-- The loops are left. -/
def Left (calls : List Recv) (buf : Memory) : Prop := receive calls buf ≠ .ok .waiting

/-- **After the close** the loops are left when they were left before, and only then. -/
theorem receive_closed_iff :
    (∃ k, Left (calls ++ List.replicate k .closed) buf) ↔ Left calls buf := by
  constructor
  · rintro ⟨k, left⟩ waits
    exact left (receive_append_closed k waits)
  · intro left
    exact ⟨0, by rwa [List.replicate_zero, List.append_nil]⟩

end Closing

/-! ### One message -/

/-- An SDM message: its header says how many bytes follow. -/
structure IsMessage (message : List UInt8) : Prop where
  header : HEADER_SIZE ≤ message.length
  fits : message.length ≤ BUFSIZE
  length : (message.drop 9).take 2 = bytes16 (.ofNat (message.length - HEADER_SIZE))

/-- A handler is given a buffer that begins with the message. -/
def Passes (reads : List (List UInt8)) (stale : Memory) (message : List UInt8) : Prop :=
  ∃ buf, receive (reads.map .bytes) stale = .ok (.handled buf) ∧ buf.Has 0 message

section Messages

variable {buf : Memory} {status count n : Nat} {length : Int16} {reads : List (List UInt8)}
  {message : List UInt8}

/-- The length that is read where the message stands. -/
theorem IsMessage.toInt_length (isMessage : IsMessage message) (here : buf.Has 0 message) :
    (buf.load16 9).toInt16.toInt = message.length - HEADER_SIZE := by
  have fits := isMessage.fits
  have header := isMessage.header
  have split : message = message.take 9 ++
    ((message.drop 9).take 2 ++ (message.drop 9).drop 2) := by
    rw [List.take_append_drop, List.take_append_drop]
  have front : (message.take 9).length = 9 := by
    rw [List.length_take]
    simp only [HEADER_SIZE] at header
    omega
  rw [split] at here
  obtain ⟨-, behind⟩ := has_append.mp here
  rw [front, isMessage.length] at behind
  have read : buf.load16 9 = .ofNat (message.length - HEADER_SIZE) :=
    (has_append.mp behind).1.load16
  have small : message.length - HEADER_SIZE < 2 ^ 15 := by
    simp only [BUFSIZE] at fits
    omega
  rw [read, show (UInt16.ofNat (message.length - HEADER_SIZE)).toInt16 =
    Int16.ofNat (message.length - HEADER_SIZE) from rfl, Int16.toInt_ofNat_of_lt small]
  exact Int.ofNat_sub header

/-- A message that comes in one read is passed on. -/
theorem passes_one (isMessage : IsMessage message) (stale : Memory) :
    Passes [message] stale message := by
  have here : (stale.store 0 message).Has 0 message := has_store
  refine ⟨stale.store 0 message, ?_, here⟩
  rw [List.map_singleton, receive, TCPrecv_bytes (by rw [Nat.zero_add]; exact isMessage.fits)]
  show receiveHeader [] _ message.length message.length = _
  rw [receiveHeader_of_le isMessage.header, receiveRest, if_neg]
  · rfl
  · rw [isMessage.toInt_length here]
    omega

/-- A message that comes in two reads is waited for. -/
theorem receive_two {first second : List UInt8} (isMessage : IsMessage (first ++ second))
    (filled : first ≠ []) (filled' : second ≠ []) (stale : Memory) :
    receive [.bytes first, .bytes second] stale = .ok .waiting := by
  have fits := isMessage.fits
  have header := isMessage.header
  have pos := List.length_pos_of_ne_nil filled
  have pos' := List.length_pos_of_ne_nil filled'
  rw [List.length_append] at fits header
  have whole : ((stale.store 0 first).store first.length second).Has 0 (first ++ second) := by
    refine has_append.mpr ⟨has_store.store (.inl (by omega)), ?_⟩
    rw [Nat.zero_add]
    exact has_store
  -- the second read alone never has as many bytes as the message
  have waits : ∀ buf : Memory, (buf.load16 9).toInt16.toInt =
    (first ++ second).length - HEADER_SIZE →
      receiveRest (buf.load16 9).toInt16 [] ((stale.store 0 first).store first.length second)
        second.length = .ok .waiting := by
    intro buf length
    rw [receiveRest, if_pos]
    · rfl
    · rw [length, List.length_append]
      omega
  rw [receive, TCPrecv_bytes (by omega)]
  show receiveHeader [.bytes second] (stale.store 0 first) first.length first.length = _
  by_cases early : HEADER_SIZE ≤ first.length
  · have length : ((stale.store 0 first).load16 9).toInt16.toInt =
        (first ++ second).length - HEADER_SIZE := by
      have same : (stale.store 0 first).load16 9 =
          ((stale.store 0 first).store first.length second).load16 9 := by
        refine load16_congr fun j lt => (store_of_outside (.inl ?_)).symm
        simp only [HEADER_SIZE] at early
        omega
      rw [same]
      exact isMessage.toInt_length whole
    rw [receiveHeader_of_le early, receiveRest, if_pos, TCPrecv_bytes (by omega)]
    · exact waits _ length
    · rw [length, List.length_append]
      omega
  · rw [receiveHeader, if_pos (Nat.lt_of_not_le early), TCPrecv_bytes (by omega)]
    show receiveHeader [] _ second.length (first.length + second.length) = _
    rw [receiveHeader_of_le header]
    exact waits _ (isMessage.toInt_length whole)

/-- What is still to be read ends before this many bytes, from the place where it goes. -/
def Before (n status : Nat) : List (List UInt8) → Prop
  | [] => True
  | r :: rest => status + r.length < n ∧ r.length + rest.flatten.length < n

theorem Before.next {r : List UInt8} (before : Before n status (r :: reads)) :
    Before n r.length reads := by
  cases reads with
  | nil => trivial
  | cons r' rest =>
      have behind := before.2
      rw [List.flatten_cons, List.length_append] at behind
      exact ⟨by omega, by omega⟩

/-- A place behind all that is still to be read is not written. -/
theorem receiveRest_untouched {buf' : Memory} (le : n ≤ BUFSIZE) (before : Before n status reads)
    (done : receiveRest length (reads.map .bytes) buf status = .ok (.handled buf')) :
    buf' (n - 1) = buf (n - 1) := by
  induction reads generalizing buf status with
  | nil =>
      rw [List.map_nil, receiveRest] at done
      split at done
      · cases done
      · cases done
        rfl
  | cons r reads ih =>
      have here := before.1
      rw [List.map_cons, receiveRest] at done
      split at done
      · rw [TCPrecv_bytes (by omega)] at done
        rw [ih before.next done, store_of_outside (.inr (by omega))]
      · cases done
        rfl

theorem receiveHeader_untouched {buf' : Memory} (le : n ≤ BUFSIZE) (before : Before n status reads)
    (done : receiveHeader (reads.map .bytes) buf status count = .ok (.handled buf')) :
    buf' (n - 1) = buf (n - 1) := by
  induction reads generalizing buf status count with
  | nil =>
      by_cases whole : HEADER_SIZE ≤ count
      · rw [receiveHeader_of_le whole] at done
        exact receiveRest_untouched le before done
      · rw [List.map_nil, receiveHeader, if_pos (Nat.lt_of_not_le whole)] at done
        cases done
  | cons r reads ih =>
      by_cases whole : HEADER_SIZE ≤ count
      · rw [receiveHeader_of_le whole] at done
        exact receiveRest_untouched le before done
      · have here := before.1
        rw [List.map_cons, receiveHeader, if_pos (Nat.lt_of_not_le whole),
          TCPrecv_bytes (by omega)] at done
        rw [ih before.next done, store_of_outside (.inr (by omega))]

/-- A message that comes in more reads leaves the last of its bytes in the buffer as it was. -/
theorem untouched_of_three {r₁ r₂ r₃ : List UInt8} {buf' : Memory}
    (filled : r₁ ≠ []) (filled' : r₃ ≠ [])
    (fits : (r₁ :: r₂ :: r₃ :: reads).flatten.length ≤ BUFSIZE)
    (done : receive ((r₁ :: r₂ :: r₃ :: reads).map .bytes) buf = .ok (.handled buf')) :
    buf' ((r₁ :: r₂ :: r₃ :: reads).flatten.length - 1) =
      buf ((r₁ :: r₂ :: r₃ :: reads).flatten.length - 1) := by
  have pos := List.length_pos_of_ne_nil filled
  have pos' := List.length_pos_of_ne_nil filled'
  obtain ⟨n, total⟩ : ∃ n, n = (r₁ :: r₂ :: r₃ :: reads).flatten.length := ⟨_, rfl⟩
  rw [← total] at fits ⊢
  simp only [List.flatten_cons, List.length_append] at total
  rw [List.map_cons, receive, TCPrecv_bytes (by omega)] at done
  have before : Before n r₁.length (r₂ :: r₃ :: reads) := by
    refine ⟨by omega, ?_⟩
    rw [List.flatten_cons, List.length_append]
    omega
  rw [receiveHeader_untouched fits before done, store_of_outside (.inr (by omega))]

end Messages

/-- **When `TCPMonitor` receives a message as it was sent**: whatever stood in the buffer, exactly
when the message comes in one read. It never writes outside its buffer, and it leaves its loops
after the peer has closed the connection exactly when it has left them before. -/
theorem tcpMonitor_iff (message : List UInt8) (reads : List (List UInt8)) (calls : List Recv)
    (buf : Memory) (isMessage : IsMessage message) (split : reads.flatten = message)
    (filled : ∀ r ∈ reads, r ≠ []) :
    ((∀ stale, Passes reads stale message) ↔ reads = [message]) ∧ Safe (receive calls buf) ∧
      ((∃ k, Left (calls ++ List.replicate k .closed) buf) ↔ Left calls buf) := by
  refine ⟨⟨fun passes => ?_, ?_⟩, receive_safe calls buf, receive_closed_iff⟩
  · match reads with
    | [] =>
        subst split
        exact absurd isMessage.header (by decide)
    | [r] => rw [← split, List.flatten_singleton]
    | [r₁, r₂] =>
        obtain ⟨buf', done, -⟩ := passes fun _ => 0
        have whole : r₁ ++ r₂ = message := by simpa using split
        rw [← whole] at isMessage
        rw [List.map_cons, List.map_singleton,
          receive_two isMessage (filled r₁ (by simp)) (filled r₂ (by simp))] at done
        cases done
    | r₁ :: r₂ :: r₃ :: rest =>
        have header := isMessage.header
        have last : message.length - 1 < message.length := by
          simp only [HEADER_SIZE] at header
          omega
        obtain ⟨buf', done, here⟩ := passes fun _ => message.getD (message.length - 1) 0 + 1
        have same := untouched_of_three (filled r₁ (by simp)) (filled r₃ (by simp))
          (by rw [split]; exact isMessage.fits) done
        have byte := here.getD last
        rw [Nat.zero_add] at byte
        rw [split, byte] at same
        exact absurd same (by simp)
  · rintro rfl stale
    exact passes_one isMessage stale

/-- A message of twelve bytes. -/
def twelveBytes : List UInt8 := [116, 0, 0, 0, 0, 0, 0, 0, 0, 1, 0, 5]

/-- The message in one read is passed on; after a part of the header and the close the loops are
never left. -/
theorem tcpMonitor_twelveBytes :
    (∀ stale, Passes [twelveBytes] stale twelveBytes) ∧
      ¬ ∃ k, Left (.bytes (twelveBytes.take 5) :: List.replicate k .closed) fun _ => 0 := by
  obtain ⟨passes, -, leaves⟩ := tcpMonitor_iff twelveBytes [twelveBytes]
    [.bytes (twelveBytes.take 5)] (fun _ => 0) ⟨by decide, by decide, by decide⟩ (by simp)
    (by decide)
  exact ⟨passes.mpr rfl, fun left => leaves.mp left rfl⟩

/-- The last byte in a second read is waited for, and so is a header that never comes. -/
theorem not_tcpMonitor :
    (¬ ∀ (message : List UInt8) (reads : List (List UInt8)) (stale : Memory), IsMessage message →
      reads.flatten = message → (∀ r ∈ reads, r ≠ []) → Passes reads stale message) ∧
    ¬ ∀ (calls : List Recv) (buf : Memory), ∃ k, Left (calls ++ List.replicate k .closed) buf := by
  constructor
  · intro passes
    obtain ⟨buf, done, -⟩ := passes twelveBytes [twelveBytes.take 11, [5]] (fun _ => 0)
      ⟨by decide, by decide, by decide⟩ (by decide) (by decide)
    have isMessage : IsMessage (twelveBytes.take 11 ++ [5]) := ⟨by decide, by decide, by decide⟩
    have waits := receive_two isMessage (by decide) (by decide) fun _ => 0
    rw [List.map_cons, List.map_singleton, waits] at done
    cases done
  · intro left
    obtain ⟨k, left⟩ := left [] fun _ => 0
    exact left (receive_append_closed k rfl)

end Sdm
