import Sdm.SM.TCPMonitor

/-!
`MessageManager::ListenTCP` and `TcpListenerProcess` of the Data Manager: receiving one message over
a connection.

One loop reads until the header is there, a second one the rest of the message. The two listeners
differ in what they do about a read that brings nothing: the Data Manager leaves the loop, the
message manager only notes the error.

* `readWhile_reads`: what a loop makes of reads that bring something and of what comes after them.
* `readWhile_within`: a loop stays inside the buffer.
* `listenTCP_iff`: the message manager goes back to accepting exactly when the message came whole,
  the Data Manager always.
-/

namespace Sdm

open Lib Checked Memory

namespace TCPListener

/-- The size of the buffer of a listener. -/
abbrev LARGE_MSG_BUFSIZE : Nat := BUFSIZE

/-- Where a receive loop is after some calls: about to call again, or behind its end, with the
calls that are left to the next loop. -/
inductive LoopEnd where
  | waiting (iCurLength : Nat)
  | ended (calls : List Recv) (buf : Memory) (iCurLength : Nat) (bError : Bool)

/-- A receive loop that goes on while `more` holds of the number of bytes. When nothing is read the
error is noted, and the loop is left by one that `leaves`. -/
def readWhile (leaves : Bool) (more : Nat → Bool) :
    List Recv → Memory → (iCurLength : Nat) → (bError : Bool) → Checked LoopEnd
  | [], buf, iCurLength, bError =>
      if more iCurLength then pure (.waiting iCurLength)
      else pure (.ended [] buf iCurLength bError)
  | r :: calls, buf, iCurLength, bError =>
      if more iCurLength then do
        match ← TCPrecv buf iCurLength r with
        | (some (n + 1), buf) => readWhile leaves more calls buf (iCurLength + (n + 1)) bError
        | (_, buf) =>
            if leaves then pure (.ended calls buf iCurLength true)
            else readWhile leaves more calls buf iCurLength true
      else pure (.ended (r :: calls) buf iCurLength bError)

/-- What a listener does with a connection: it is still in one of the loops, or it has closed it,
or it hands the buffer on; then it accepts the next one. -/
inductive Connection where
  | waiting (iCurLength : Nat)
  | closed
  | handed (buf : Memory) (iCurLength : Nat)

/-- The second loop goes on. -/
def restMissing (sSdmLength : Int16) (iCurLength : Nat) : Bool :=
  sSdmLength.toInt > iCurLength - HEADER_SIZE

/-- The header loop goes on. -/
def headerMissing (iCurLength : Nat) : Bool := iCurLength < HEADER_SIZE

/-- The rest of the message, and what is done with it. -/
def receiveRest (leaves : Bool) (calls : List Recv) (buf : Memory) (iCurLength : Nat) :
    Checked Connection := do
  let sSdmLength ← (recvBuffer buf).load16 9
  match ← readWhile leaves (restMissing sSdmLength.toInt16) calls buf iCurLength false with
  | .waiting iCurLength => pure (.waiting iCurLength)
  | .ended _ _ _ true => pure .closed
  | .ended _ buf iCurLength false => pure (.handed buf iCurLength)

/-- One connection. The header loop runs at least once, which its condition says too. -/
def receive (leaves : Bool) (calls : List Recv) (buf : Memory) : Checked Connection := do
  match ← readWhile leaves headerMissing calls buf 0 false with
  | .waiting iCurLength => pure (.waiting iCurLength)
  | .ended _ _ _ true => pure .closed
  | .ended calls buf iCurLength false => receiveRest leaves calls buf iCurLength

/-- `MessageManager::ListenTCP`, with one connection. -/
def ListenTCP : List Recv → Memory → Checked Connection := receive false

/-- `TcpListenerProcess` of the Data Manager, with one connection. -/
def TcpListenerProcess : List Recv → Memory → Checked Connection := receive true

/-! ### One read -/

variable {leaves bError : Bool} {more : Nat → Bool} {r : Recv} {calls ends : List Recv}
  {reads : List (List UInt8)} {buf : Memory} {cur : Nat} {data available : List UInt8}

/-- The call brings nothing: an error, or the peer has closed the connection. -/
def Nothing (r : Recv) : Prop := r = .error ∨ r = .bytes []

/-- A read behind the data. -/
theorem TCPrecv_has (available : List UInt8) (has : buf.Has 0 data) (le : data.length ≤ BUFSIZE) :
    ∃ buf', TCPrecv buf data.length (.bytes available) =
        .ok (some (available.take (BUFSIZE - data.length)).length, buf') ∧
      buf'.Has 0 (data ++ available.take (BUFSIZE - data.length)) := by
  have room : size_t (BUFSIZE - data.length) = BUFSIZE - data.length := by
    simp only [size_t, BUFSIZE] at le ⊢
    omega
  have fits : data.length + (available.take (BUFSIZE - data.length)).length ≤ BUFSIZE := by
    rw [List.length_take]
    omega
  refine ⟨buf.store data.length (available.take (BUFSIZE - data.length)), ?_, ?_⟩
  · rw [TCPrecv, room]
    exact bind_eq_ok.mpr ⟨(), access_eq_ok.mpr fits, rfl⟩
  · refine has_append.mpr ⟨has.store (.inl (by omega)), ?_⟩
    rw [Nat.zero_add]
    exact has_store

/-- A read of nothing, or behind the last place. -/
theorem TCPrecv_nothing (buf : Memory) (le : cur ≤ BUFSIZE) (nothing : Nothing r ∨ cur = BUFSIZE) :
    ∃ got buf', TCPrecv buf cur r = .ok (got, buf') ∧ (got = none ∨ got = some 0) := by
  cases r with
  | error => exact ⟨none, buf, rfl, .inl rfl⟩
  | bytes available =>
      have none : available.take (size_t (BUFSIZE - cur)) = [] := by
        obtain (error | empty) | rfl := nothing
        · cases error
        · cases empty
          exact List.take_nil
        · rw [Int.sub_self]
          exact List.take_zero
      refine ⟨some 0, buf.store cur [], ?_, .inr rfl⟩
      rw [TCPrecv, none]
      exact bind_eq_ok.mpr ⟨(), access_eq_ok.mpr (by simpa [Access.Inside] using le), rfl⟩

/-! ### One loop -/

theorem readWhile_ended (stops : more cur = false) :
    readWhile leaves more calls buf cur bError = .ok (.ended calls buf cur bError) := by
  cases calls <;> rw [readWhile, stops] <;> rfl

/-- A read that brings nothing. -/
theorem readWhile_cons_nothing (leaves bError : Bool) (calls : List Recv) (buf : Memory)
    (le : cur ≤ BUFSIZE) (goes : more cur = true)
    (nothing : Nothing r ∨ cur = BUFSIZE) :
    ∃ buf', readWhile leaves more (r :: calls) buf cur bError =
      if leaves then .ok (.ended calls buf' cur true)
      else readWhile leaves more calls buf' cur true := by
  obtain ⟨got, buf', call, empty⟩ := TCPrecv_nothing buf le nothing
  refine ⟨buf', ?_⟩
  rw [readWhile, if_pos goes, call]
  obtain rfl | rfl := empty <;> rfl

/-- A read that brings something, as much of it as there is room for. -/
theorem readWhile_cons_bytes (leaves : Bool) (calls : List Recv) (has : buf.Has 0 data)
    (le : data.length ≤ BUFSIZE) (goes : more data.length = true) (room : data.length ≠ BUFSIZE)
    (some : available ≠ []) :
    ∃ buf', buf'.Has 0 (data ++ available.take (BUFSIZE - data.length)) ∧
      (data ++ available.take (BUFSIZE - data.length)).length ≤ BUFSIZE ∧
      readWhile leaves more (.bytes available :: calls) buf data.length false =
        readWhile leaves more calls buf'
          (data ++ available.take (BUFSIZE - data.length)).length false := by
  obtain ⟨buf', call, has'⟩ := TCPrecv_has available has le
  have within : (data ++ available.take (BUFSIZE - data.length)).length ≤ BUFSIZE := by
    rw [List.length_append, List.length_take]
    omega
  obtain ⟨n, count⟩ : ∃ n, (available.take (BUFSIZE - data.length)).length = n + 1 := by
    have positive := List.length_pos_of_ne_nil some
    refine ⟨(available.take (BUFSIZE - data.length)).length - 1, ?_⟩
    rw [List.length_take]
    omega
  refine ⟨buf', has', within, ?_⟩
  rw [readWhile, if_pos goes, call, count, List.length_append, count]
  rfl

/-- Calls that bring nothing leave a loop where it is, unless it is left. -/
theorem readWhile_nothing (le : cur ≤ BUFSIZE) (goes : more cur = true)
    (nothing : ∀ r ∈ calls, Nothing r ∨ cur = BUFSIZE) :
    readWhile false more calls buf cur bError = .ok (.waiting cur) := by
  induction calls generalizing buf bError with
  | nil =>
      rw [readWhile, if_pos goes]
      rfl
  | cons r calls ih =>
      obtain ⟨buf', step⟩ := readWhile_cons_nothing false bError calls buf le goes
        (nothing r List.mem_cons_self)
      rw [step, if_neg Bool.false_ne_true]
      exact ih fun r mem => nothing r (List.mem_cons_of_mem _ mem)

/-- What fits of the bytes that are there and of those to come, when some of them have been read. -/
theorem take_append_take (available : List UInt8) (le : data.length ≤ BUFSIZE) (rest : List UInt8) :
    ((data ++ available.take (BUFSIZE - data.length)) ++ rest).take BUFSIZE =
      (data ++ (available ++ rest)).take BUFSIZE := by
  by_cases short : available.length ≤ BUFSIZE - data.length
  · rw [List.take_of_length_le short, List.append_assoc]
  · have long : BUFSIZE - data.length ≤ available.length := by omega
    have full : (data ++ available.take (BUFSIZE - data.length)).length = BUFSIZE := by
      rw [List.length_append, List.length_take_of_le long]
      omega
    rw [List.take_append_of_le_length full.ge, List.take_of_length_le full.le, List.take_append,
      List.take_of_length_le le, List.take_append_of_le_length long]

/-- **A loop over reads that bring something.** When the bytes that fit are enough it ends, without
an error; otherwise it waits for more, or is left at the first call that brings nothing. -/
theorem readWhile_reads (leaves : Bool) (down : ∀ m n, m ≤ n → more n = true → more m = true)
    (has : buf.Has 0 data) (le : data.length ≤ BUFSIZE) (positive : ∀ r ∈ reads, r ≠ [])
    (nothing : ∀ r ∈ ends, Nothing r) :
    (more ((data ++ reads.flatten).take BUFSIZE).length = false →
      ∃ (data' : List UInt8) (reads' : List (List UInt8)) (buf' : Memory),
        readWhile leaves more (reads.map .bytes ++ ends) buf data.length false =
          .ok (.ended (reads'.map .bytes ++ ends) buf' data'.length false) ∧
        buf'.Has 0 data' ∧ data'.length ≤ BUFSIZE ∧ more data'.length = false ∧
        (∀ r ∈ reads', r ≠ []) ∧ (data' ++ reads'.flatten).take BUFSIZE =
          (data ++ reads.flatten).take BUFSIZE) ∧
    (more ((data ++ reads.flatten).take BUFSIZE).length = true →
      (leaves = false → ∃ cur, readWhile leaves more (reads.map .bytes ++ ends) buf data.length
          false = .ok (.waiting cur)) ∧
      (leaves = true → ends ≠ [] → ∃ calls buf' cur, readWhile leaves more
          (reads.map .bytes ++ ends) buf data.length false =
        .ok (.ended calls buf' cur true))) := by
  induction reads generalizing buf data with
  | nil =>
      have all : (data ++ ([] : List (List UInt8)).flatten).take BUFSIZE = data := by
        rw [List.flatten_nil, List.append_nil, List.take_of_length_le le]
      rw [all]
      constructor
      · intro enough
        exact ⟨data, [], buf, readWhile_ended enough, has, le, enough, positive, all⟩
      · intro goes
        constructor
        · rintro rfl
          exact ⟨data.length, readWhile_nothing le goes fun r mem => .inl (nothing r mem)⟩
        · rintro rfl some
          cases ends with
          | nil => exact absurd rfl some
          | cons r calls =>
              obtain ⟨buf', left⟩ := readWhile_cons_nothing true false calls buf le goes
                (.inl (nothing r List.mem_cons_self))
              exact ⟨calls, buf', data.length, left⟩
  | cons available reads ih =>
      have step := take_append_take available le reads.flatten
      rw [List.flatten_cons, ← step]
      cases here : more data.length with
      | false =>
          constructor
          · intro _
            exact ⟨data, available :: reads, buf, readWhile_ended here, has, le, here, positive,
              by rw [List.flatten_cons, step]⟩
          · intro goes
            have shorter : data.length ≤ ((data ++ available.take (BUFSIZE - data.length) ++
                reads.flatten).take BUFSIZE).length := by
              simp only [List.length_take, List.length_append]
              omega
            rw [down _ _ shorter goes] at here
            cases here
      | true =>
          by_cases full : data.length = BUFSIZE
          · have nothingMore (r : Recv) (_ : r ∈ (available :: reads).map .bytes ++ ends) :
                Nothing r ∨ data.length = BUFSIZE := .inr full
            have all : (data ++ available.take (BUFSIZE - data.length) ++ reads.flatten).take
                BUFSIZE = data := by
              rw [full, Nat.sub_self, List.take_zero, List.append_nil,
                List.take_append_of_le_length full.ge, List.take_of_length_le le]
            rw [all, here]
            refine ⟨nofun, fun _ => ⟨?_, ?_⟩⟩
            · rintro rfl
              exact ⟨_, readWhile_nothing le here nothingMore⟩
            · rintro rfl -
              obtain ⟨buf', left⟩ := readWhile_cons_nothing true false
                (reads.map .bytes ++ ends) buf (r := .bytes available) le here (.inr full)
              exact ⟨_, buf', data.length, left⟩
          · obtain ⟨buf', has', within, step⟩ := readWhile_cons_bytes leaves
              (reads.map .bytes ++ ends) has le here full (positive available List.mem_cons_self)
            rw [List.map_cons, List.cons_append, step]
            exact ih has' within fun r mem => positive r (List.mem_cons_of_mem _ mem)

/-- What a loop leaves: the bytes before those that it read, and a number of bytes in the buffer. -/
def LoopEnd.Within (more : Nat → Bool) (buf : Memory) (cur : Nat) : LoopEnd → Prop
  | .waiting iCurLength => iCurLength ≤ LARGE_MSG_BUFSIZE
  | .ended _ buf' iCurLength bError =>
      iCurLength ≤ LARGE_MSG_BUFSIZE ∧ cur ≤ iCurLength ∧ (∀ i < cur, buf' i = buf i) ∧
        (bError = false → more iCurLength = false)

/-- What a read changes. -/
theorem TCPrecv_within (buf : Memory) (le : cur ≤ BUFSIZE) (r : Recv) :
    ∃ got buf', TCPrecv buf cur r = .ok (got, buf') ∧ (∀ i < cur, buf' i = buf i) ∧
      ∀ n ∈ got, cur + n ≤ BUFSIZE := by
  cases r with
  | error => exact ⟨none, buf, rfl, fun _ _ => rfl, nofun⟩
  | bytes available =>
      have room : size_t (BUFSIZE - cur) = BUFSIZE - cur := by
        simp only [size_t, BUFSIZE] at le ⊢
        omega
      have fits : cur + (available.take (BUFSIZE - cur)).length ≤ BUFSIZE := by
        rw [List.length_take]
        omega
      refine ⟨some (available.take (BUFSIZE - cur)).length,
        buf.store cur (available.take (BUFSIZE - cur)), ?_, ?_, ?_⟩
      · rw [TCPrecv, room]
        exact bind_eq_ok.mpr ⟨(), access_eq_ok.mpr fits, rfl⟩
      · exact fun i lt => store_of_outside (.inl lt)
      · intro n same
        cases same
        exact fits

/-- **A loop stays inside the buffer**, whatever comes of the calls. -/
theorem readWhile_within (leaves bError : Bool) (more : Nat → Bool) (calls : List Recv)
    (buf : Memory) (le : cur ≤ BUFSIZE) :
    ∃ e, readWhile leaves more calls buf cur bError = .ok e ∧ e.Within more buf cur := by
  induction calls generalizing bError buf cur with
  | nil =>
      cases goes : more cur with
      | true => exact ⟨.waiting cur, by rw [readWhile, goes]; rfl, le⟩
      | false => exact ⟨_, readWhile_ended goes, le, le_rfl, fun _ _ => rfl, fun _ => goes⟩
  | cons r calls ih =>
      cases goes : more cur with
      | false => exact ⟨_, readWhile_ended goes, le, le_rfl, fun _ _ => rfl, fun _ => goes⟩
      | true =>
          obtain ⟨got, buf', call, same, inside⟩ := TCPrecv_within buf le r
          have on {c : Nat} {err : Bool} (up : cur ≤ c) (le' : c ≤ BUFSIZE) :
              ∃ e, readWhile leaves more calls buf' c err = .ok e ∧ e.Within more buf cur := by
            obtain ⟨e, done, within⟩ := ih err buf' le'
            refine ⟨e, done, ?_⟩
            cases e with
            | waiting => exact within
            | ended calls buf'' last =>
                obtain ⟨room, up', same', enough⟩ := within
                exact ⟨room, up.trans up',
                  fun i lt => (same' i (Nat.lt_of_lt_of_le lt up)).trans (same i lt), enough⟩
          rw [readWhile, if_pos goes, call]
          match got with
          | some (n + 1) => exact on (Nat.le_add_right _ _) (inside _ rfl)
          | some 0 | none =>
              cases leaves with
              | true => exact ⟨_, rfl, le, le_rfl, same, nofun⟩
              | false => exact on le_rfl le

/-! ### One connection -/

/-- The number of bytes behind the header, as the header says. -/
def announced (buf : Memory) : Int := (buf.load16 9).toInt16.toInt

/-- The message is handed on whole, and the number of bytes is one of the buffer. -/
def Connection.Sound : Connection → Prop
  | .waiting iCurLength => iCurLength ≤ LARGE_MSG_BUFSIZE
  | .closed => True
  | .handed buf iCurLength =>
      iCurLength ≤ LARGE_MSG_BUFSIZE ∧ HEADER_SIZE ≤ iCurLength ∧
        announced buf ≤ iCurLength - HEADER_SIZE

/-- The listener is done with the connection and accepts again. -/
def Connection.Done : Connection → Prop
  | .waiting _ => False
  | .closed | .handed _ _ => True

theorem headerMissing_eq_false : headerMissing cur = false ↔ HEADER_SIZE ≤ cur := by
  rw [headerMissing, decide_eq_false_iff_not, Nat.not_lt]

theorem restMissing_eq_false {length : Int16} :
    restMissing length cur = false ↔ length.toInt ≤ cur - HEADER_SIZE := by
  rw [restMissing, decide_eq_false_iff_not, gt_iff_lt, Int.not_lt]

theorem announced_congr {buf' : Memory} (header : HEADER_SIZE ≤ cur)
    (same : ∀ i < cur, buf' i = buf i) : announced buf' = announced buf := by
  have bytes : buf'.load16 9 = buf.load16 9 := load16_congr fun j lt => same (9 + j) (by
    simp only [HEADER_SIZE] at header
    omega)
  rw [announced, announced, bytes]

theorem receiveRest_sound (le : cur ≤ BUFSIZE) (header : HEADER_SIZE ≤ cur) :
    ∃ c, receiveRest leaves calls buf cur = .ok c ∧ c.Sound := by
  obtain ⟨e, done, within⟩ := readWhile_within leaves false
    (restMissing (buf.load16 9).toInt16) calls buf le
  rw [receiveRest, load_length]
  change ∃ c, (readWhile .. >>= _) = _ ∧ _
  rw [done]
  match e with
  | .waiting n => exact ⟨.waiting n, rfl, within⟩
  | .ended _ _ _ true => exact ⟨.closed, rfl, trivial⟩
  | .ended _ buf' n false =>
      obtain ⟨room, up, same, enough⟩ := within
      refine ⟨.handed buf' n, rfl, room, header.trans up, ?_⟩
      rw [announced_congr header same]
      exact restMissing_eq_false.mp (enough rfl)

/-- **Whatever comes of the calls**, a listener stays inside its buffer and hands on whole messages
only. -/
theorem receive_sound (leaves : Bool) (calls : List Recv) (buf : Memory) :
    ∃ c, receive leaves calls buf = .ok c ∧ c.Sound := by
  obtain ⟨e, done, within⟩ := readWhile_within leaves false headerMissing calls buf
    (Nat.zero_le BUFSIZE)
  rw [receive, done]
  match e with
  | .waiting n => exact ⟨.waiting n, rfl, within⟩
  | .ended _ _ _ true => exact ⟨.closed, rfl, trivial⟩
  | .ended _ _ _ false =>
      exact receiveRest_sound within.1 (headerMissing_eq_false.mp (within.2.2.2 rfl))

/-! ### The peer closes the connection -/

/-- The bytes hold a header and as many bytes behind it as it says. -/
def Complete (data : List UInt8) : Prop :=
  HEADER_SIZE ≤ data.length ∧
    announced (fun i => data.getD i 0) ≤ data.length - HEADER_SIZE

/-- What comes of the first calls: reads that bring something, then calls that bring nothing. -/
def firstCalls (reads : List (List UInt8)) (later : Nat → Recv) (n : Nat) : List Recv :=
  reads.map .bytes ++ (List.range n).map later

/-- The listener stops reading, never hands on a part of a message and never counts more bytes than
the buffer has. -/
structure Terminates (listen : List Recv → Memory → Checked Connection)
    (reads : List (List UInt8)) (later : Nat → Recv) (stale : Memory) : Prop where
  stops : ∃ n c, listen (firstCalls reads later n) stale = .ok c ∧ c.Done
  sound : ∀ n, ∃ c, listen (firstCalls reads later n) stale = .ok c ∧ c.Sound

variable {later : Nat → Recv} {stale : Memory} {n : Nat}

theorem announced_has (has : buf.Has 0 data) (header : HEADER_SIZE ≤ data.length) :
    announced buf = announced fun i => data.getD i 0 := by
  refine announced_congr header fun i lt => ?_
  have byte := has.getD lt
  rwa [Nat.zero_add] at byte

/-- The length is in the header. -/
theorem announced_take {rest : List UInt8} (header : HEADER_SIZE ≤ data.length) :
    announced (fun i => ((data ++ rest).take BUFSIZE).getD i 0) =
      announced fun i => data.getD i 0 := by
  refine announced_congr (Nat.le_refl HEADER_SIZE) fun i lt => ?_
  have within : i < BUFSIZE := Nat.lt_trans lt (by decide)
  rw [List.getD_eq_getElem?_getD, List.getD_eq_getElem?_getD, List.getElem?_take, if_pos within,
    List.getElem?_append_left (Nat.lt_of_lt_of_le lt header)]

theorem headerMissing_down (m n : Nat) (le : m ≤ n) (missing : headerMissing n = true) :
    headerMissing m = true :=
  decide_eq_true (Nat.lt_of_le_of_lt le (of_decide_eq_true missing))

theorem restMissing_down (length : Int16) (m n : Nat) (le : m ≤ n)
    (missing : restMissing length n = true) : restMissing length m = true := by
  have more : length.toInt > n - HEADER_SIZE := of_decide_eq_true missing
  exact decide_eq_true (by omega)

/-- **One connection**: what a listener does with reads that bring something and with what comes
after them. -/
theorem receive_reads (leaves : Bool) (n : Nat) (stale : Memory) (positive : ∀ r ∈ reads, r ≠ [])
    (nothing : ∀ i, Nothing (later i)) :
    (Complete (reads.flatten.take LARGE_MSG_BUFSIZE) → ∃ buf n',
      receive leaves (firstCalls reads later n) stale = .ok (.handed buf n')) ∧
    (¬ Complete (reads.flatten.take LARGE_MSG_BUFSIZE) →
      (leaves = false → ∃ cur, receive leaves (firstCalls reads later n) stale =
        .ok (.waiting cur)) ∧
      (leaves = true → 0 < n → receive leaves (firstCalls reads later n) stale = .ok .closed)) := by
  obtain ⟨all, total⟩ : ∃ all, all = reads.flatten.take BUFSIZE := ⟨_, rfl⟩
  obtain ⟨ends, last⟩ : ∃ ends, ends = (List.range n).map later := ⟨_, rfl⟩
  have none : ∀ r ∈ ends, Nothing r := by
    rw [last]
    intro r mem
    obtain ⟨i, -, rfl⟩ := List.mem_map.mp mem
    exact nothing i
  have some (pos : 0 < n) : ends ≠ [] := by
    rw [last, ne_eq, List.map_eq_nil_iff, List.range_eq_nil]
    exact Nat.ne_of_gt pos
  have first := readWhile_reads leaves headerMissing_down (rfl : stale.Has 0 []) (Nat.zero_le _)
    positive none
  rw [List.nil_append, ← total] at first
  rw [firstCalls, ← last, ← total, receive]
  cases header : headerMissing all.length with
  | true =>
      have short : ¬ Complete all := fun complete => by
        rw [headerMissing_eq_false.mpr complete.1] at header
        cases header
      refine ⟨fun complete => absurd complete short, fun _ => ⟨?_, ?_⟩⟩
      · intro stays
        obtain ⟨cur, waits⟩ := (first.2 header).1 stays
        exact ⟨cur, bind_eq_ok.mpr ⟨_, waits, rfl⟩⟩
      · intro goes pos
        obtain ⟨calls, buf', cur, left⟩ := (first.2 header).2 goes (some pos)
        exact bind_eq_ok.mpr ⟨_, left, rfl⟩
  | false =>
      obtain ⟨data, reads', buf, ended, has, le, enough, positive', same⟩ := first.1 header
      have front : HEADER_SIZE ≤ data.length := headerMissing_eq_false.mp enough
      have length : announced buf = announced fun i => all.getD i 0 := by
        rw [announced_has has front, ← same, announced_take front]
      have complete : Complete all ↔ restMissing (buf.load16 9).toInt16 all.length = false := by
        rw [restMissing_eq_false, Complete, ← length]
        exact and_iff_right (headerMissing_eq_false.mp header)
      have second := readWhile_reads leaves (restMissing_down (buf.load16 9).toInt16) has le
        positive' none
      rw [same] at second
      rw [complete, Bool.not_eq_false]
      refine ⟨fun whole => ?_, fun part => ⟨fun stays => ?_, fun goes pos => ?_⟩⟩
      · obtain ⟨data', _, buf', ended', -⟩ := second.1 whole
        exact ⟨buf', data'.length, bind_eq_ok.mpr
          ⟨_, ended, bind_eq_ok.mpr ⟨_, load_length, bind_eq_ok.mpr ⟨_, ended', rfl⟩⟩⟩⟩
      · obtain ⟨cur, waits⟩ := (second.2 part).1 stays
        exact ⟨cur, bind_eq_ok.mpr
          ⟨_, ended, bind_eq_ok.mpr ⟨_, load_length, bind_eq_ok.mpr ⟨_, waits, rfl⟩⟩⟩⟩
      · obtain ⟨_, _, _, left⟩ := (second.2 part).2 goes (some pos)
        exact bind_eq_ok.mpr
          ⟨_, ended, bind_eq_ok.mpr ⟨_, load_length, bind_eq_ok.mpr ⟨_, left, rfl⟩⟩⟩

/-- **Reception over a connection that ends.** After reads that bring something, every later call
brings nothing. The message manager stops reading exactly when the bytes that came, as far as the
buffer has room, hold a whole message; the Data Manager always does. -/
theorem listenTCP_iff (reads : List (List UInt8)) (later : Nat → Recv) (stale : Memory)
    (positive : ∀ r ∈ reads, r ≠ []) (nothing : ∀ i, Nothing (later i)) :
    (Terminates ListenTCP reads later stale ↔ Complete (reads.flatten.take LARGE_MSG_BUFSIZE)) ∧
      Terminates TcpListenerProcess reads later stale := by
  have sound (leaves : Bool) (n : Nat) := receive_sound leaves (firstCalls reads later n) stale
  refine ⟨⟨?_, fun complete => ⟨?_, sound false⟩⟩, ⟨?_, sound true⟩⟩
  · rintro ⟨⟨n, c, stopped, done⟩, -⟩
    by_contra part
    obtain ⟨cur, waits⟩ := ((receive_reads false n stale positive nothing).2 part).1 rfl
    obtain rfl : c = .waiting cur := Except.ok.inj (stopped.symm.trans waits)
    exact done
  · obtain ⟨buf, n', handed⟩ := (receive_reads false 0 stale positive nothing).1 complete
    exact ⟨0, _, handed, trivial⟩
  · by_cases complete : Complete (reads.flatten.take LARGE_MSG_BUFSIZE)
    · obtain ⟨buf, n', handed⟩ := (receive_reads true 0 stale positive nothing).1 complete
      exact ⟨0, _, handed, trivial⟩
    · have closed := ((receive_reads true 1 stale positive nothing).2 complete).2 rfl Nat.one_pos
      exact ⟨1, _, closed, trivial⟩

/-- A message of twelve bytes in two reads, and then the close. -/
theorem listenTCP_twoReads :
    Terminates ListenTCP [twelveBytes.take 5, twelveBytes.drop 5] (fun _ => .bytes [])
        (fun _ => 0) ∧
      Terminates TcpListenerProcess [twelveBytes.take 5, twelveBytes.drop 5] (fun _ => .bytes [])
        (fun _ => 0) := by
  obtain ⟨iff, other⟩ := listenTCP_iff [twelveBytes.take 5, twelveBytes.drop 5]
    (fun _ => .bytes []) (fun _ => 0) (by decide) fun _ => .inr rfl
  exact ⟨iff.mpr ⟨by decide, by decide⟩, other⟩

/-- A peer that closes the connection at once keeps the message manager reading. -/
theorem not_listenTCP :
    ¬ ∀ (reads : List (List UInt8)) (later : Nat → Recv) (stale : Memory), (∀ r ∈ reads, r ≠ []) →
      (∀ i, Nothing (later i)) → Terminates ListenTCP reads later stale := by
  intro terminates
  have none : ∀ r ∈ ([] : List (List UInt8)), r ≠ [] := by simp
  obtain ⟨⟨n, c, stopped, done⟩, -⟩ :=
    terminates [] (fun _ => .bytes []) (fun _ => 0) none fun _ => .inr rfl
  have part : ¬ Complete (([] : List (List UInt8)).flatten.take LARGE_MSG_BUFSIZE) :=
    fun complete => absurd complete.1 (by decide)
  obtain ⟨cur, waits⟩ :=
    ((receive_reads false n (fun _ => 0) none fun _ => .inr rfl).2 part).1 rfl
  obtain rfl : c = .waiting cur := Except.ok.inj (stopped.symm.trans waits)
  exact done

end TCPListener

end Sdm
