import Sdm.Lib.Machine
import Sdm.Lib.Reading
import Sdm.Message.Marshalling

/-!
`PipeReadTimeout`: messages from a pipe, with a timeout.

A call polls the pipe and reads what is there, first up to a header and then up to the length that
the header says. A poll that times out ends the call, and what it has read is lost. At the end of
the file a read brings nothing, and the call goes on.

* `turn_safe`: what a turn of the loop reads stays in the buffer.
* `turn_message`: a turn of the loop while a message arrives.
* `not_returns_of_atEnd`: a call at the end of the file.
* `framing_iff`: which runs deliver the messages.
-/

namespace Sdm.PM

open Lib Checked

/-- The bytes that were written to a pipe and not read, and whether its writer has closed it. -/
structure Pipe where
  bytes : List UInt8
  closed : Bool

/-- A read of `n` bytes at most, of which the pipe gives `split + 1` at most. Nothing comes of a
read that blocks. -/
def Pipe.read (p : Pipe) (n split : Nat) : Option (Answer × Pipe) :=
  if n = 0 then some (.bytes [], p)
  else if p.bytes = [] then if p.closed then some (.bytes [], p) else none
  else some (.bytes (p.bytes.take (min n (split + 1))),
    { p with bytes := p.bytes.drop (min n (split + 1)) })

/-- The locals of a call. -/
structure Call where
  Buffer : Buffer
  BytesRead : Nat
  MsgLength : Nat
  HeaderReceived : Bool

namespace Call

/-- Before the loop. -/
def start (BufLen : Nat) : Call := ⟨⟨fun _ => 0, BufLen⟩, 0, BUFSIZE, false⟩

/-- What the call has read. -/
def held (c : Call) : List UInt8 := c.Buffer.bytes.read 0 c.BytesRead

end Call

/-- How a turn of the loop ends. -/
inductive Turn where
  | again (c : Call)
  | returned (result : Bool) (LengthReturn : Int) (c : Call)
  | blocked

/-- The second read of a turn. -/
def readBody (p : Pipe) (c : Call) (split : Nat) : Checked (Pipe × Turn) :=
  match p.read (c.MsgLength - c.BytesRead) split with
  | none => return (p, .blocked)
  | some (a, p) => do
      let (Buffer, ReadResult) ←
        c.Buffer.receive c.BytesRead ((c.MsgLength : Int) - c.BytesRead) a
      if ReadResult < 0 then return (p, .returned false (-1) c)
      else
        let c := { c with Buffer, BytesRead := c.BytesRead + ReadResult.toNat }
        if c.MsgLength ≤ c.BytesRead then return (p, .returned true c.BytesRead c)
        else return (p, .again c)

/-- A turn of the loop after a poll that found something. -/
def turn (p : Pipe) (c : Call) (first second : Nat) : Checked (Pipe × Turn) :=
  if c.HeaderReceived then readBody p c second
  else
    match p.read (HEADER_SIZE - c.BytesRead) first with
    | none => return (p, .blocked)
    | some (a, p) => do
        let (Buffer, ReadResult) ←
          c.Buffer.receive c.BytesRead ((HEADER_SIZE : Int) - c.BytesRead) a
        if ReadResult < 0 then return (p, .returned false (-1) c)
        else
          let c := { c with Buffer, BytesRead := c.BytesRead + ReadResult.toNat }
          if c.BytesRead < HEADER_SIZE then return (p, .again c)
          else
            let MsgLength := (Buffer.bytes.load16 9).toNat + HEADER_SIZE
            if MsgLength > BUFSIZE then return (p, .returned false (-1) c)
            else readBody p { c with MsgLength, HeaderReceived := true } second

/-- The pipe and the call that reads from it. What follows is history: the messages that calls which
returned true have left in their buffers, and how many calls have returned. -/
structure PipeState where
  pipe : Pipe
  call : Call
  blocked : Bool
  delivered : List (List UInt8)
  returns : Nat

/-- What happens next. -/
inductive PipeStep where
  /-- A poll times out. -/
  | timeout
  /-- A poll finds something, with how the pipe splits the reads behind it. -/
  | ready (first second : Nat)
  /-- The writer closes the pipe. -/
  | close

def PipeStep.IsReady : PipeStep → Prop
  | ready _ _ => True
  | timeout | close => False

namespace PipeState

/-- Before the first call, when all messages are on their way. -/
def initial (BufLen : Nat) (messages : List (List UInt8)) : PipeState :=
  ⟨⟨messages.flatten, false⟩, .start BufLen, false, [], 0⟩

/-- A poll finds something where there are bytes or an end of file. Behind a call that returns comes
the next one. -/
def step (BufLen : Nat) (s : PipeState) : PipeStep → Checked PipeState
  | .close => return { s with pipe := { s.pipe with closed := true } }
  | .timeout =>
      if s.blocked then return s
      else return { s with call := .start BufLen, returns := s.returns + 1 }
  | .ready first second =>
      if s.blocked ∨ s.pipe.bytes = [] ∧ s.pipe.closed = false then return s
      else if BufLen < BUFSIZE then return { s with returns := s.returns + 1 }
      else do
        match ← turn s.pipe s.call first second with
        | (pipe, .blocked) => return { s with pipe, blocked := true }
        | (pipe, .again call) => return { s with pipe, call }
        | (pipe, .returned result LengthReturn call) =>
            let message := call.Buffer.bytes.read 0 LengthReturn.toNat
            return { s with
              pipe
              call := .start BufLen
              delivered := if result then s.delivered ++ [message] else s.delivered
              returns := s.returns + 1 }

/-- A step behind others, none of which has left the buffer. -/
def next (BufLen : Nat) (s : Checked PipeState) (e : PipeStep) : Checked PipeState :=
  s >>= fun s => s.step BufLen e

def run (BufLen : Nat) (messages : List (List UInt8)) (steps : List PipeStep) :
    Checked PipeState :=
  steps.foldl (next BufLen) (.ok (.initial BufLen messages))

/-- A call returns after as many turns of the loop. -/
def Returns (BufLen : Nat) (s : PipeState) : Prop :=
  ∃ n, ∀ more : List PipeStep, more.length = n → (∀ e ∈ more, e.IsReady) →
    ∃ s', more.foldl (next BufLen) (.ok s) = .ok s' ∧ s.returns < s'.returns

/-- The messages that are delivered are the first ones. No byte is lost or shifted: behind them come
those that the current call has read, and those in the pipe. Once the pipe is closed, the call
returns. -/
structure Frames (BufLen : Nat) (messages : List (List UInt8)) (s : PipeState) : Prop where
  delivered : s.delivered <+: messages
  conserved : s.delivered.flatten ++ s.call.held ++ s.pipe.bytes = messages.flatten
  complete : s.pipe.bytes = [] → s.delivered = messages
  returns : s.pipe.closed → s.Returns BufLen

/-- The call is at the end of the file. -/
def AtEnd (s : PipeState) : Prop := s.pipe.closed ∧ s.pipe.bytes = []

end PipeState

/-- An SDM message that fits a buffer: a header, and as many bytes as it says. -/
structure IsMessage (m : List UInt8) : Prop where
  header : HEADER_SIZE ≤ m.length
  fits : m.length ≤ BUFSIZE
  length : (m.getD 9 0).toNat + 256 * (m.getD 10 0).toNat + HEADER_SIZE = m.length

/-! ### The pipe and the buffer -/

section Reads

variable {p p' : Pipe} {c : Call} {n split BufLen : Nat} {l m after left : List UInt8}

/-- A read brings the first bytes of the pipe, and one at least where there is one. -/
theorem Pipe.read_eq (here : p.bytes ≠ [] ∨ p.closed) (n split : Nat) :
    ∃ l p', p.read n split = some (.bytes l, p') ∧ p.bytes = l ++ p'.bytes ∧
      p'.closed = p.closed ∧ l.length ≤ n ∧ (0 < n → p.bytes ≠ [] → l ≠ []) := by
  rw [Pipe.read]
  split
  · rename_i zero
    exact ⟨[], p, rfl, rfl, rfl, Nat.zero_le n, fun pos => absurd zero pos.ne'⟩
  · rename_i nonzero
    split
    · rename_i empty
      rw [if_pos (here.resolve_left (not_not_intro empty))]
      exact ⟨[], p, rfl, rfl, rfl, Nat.zero_le n, fun _ some => absurd empty some⟩
    · rename_i some
      have le : (p.bytes.take (min n (split + 1))).length ≤ min n (split + 1) :=
        List.length_take_le _ _
      refine ⟨_, _, rfl, (List.take_append_drop _ _).symm, rfl, by omega, fun _ _ => ?_⟩
      rw [Ne, List.take_eq_nil_iff]
      exact fun nothing => nothing.elim (by omega) some

namespace Call

/-- The call with these bytes behind those that it has read. -/
def arrive (c : Call) (l : List UInt8) : Call :=
  { c with
    Buffer := { c.Buffer with bytes := c.Buffer.bytes.store c.BytesRead l }
    BytesRead := c.BytesRead + l.length }

/-- The call with the length that the header says. -/
def expect (c : Call) (MsgLength : Nat) : Call := { c with MsgLength, HeaderReceived := true }

theorem held_arrive : (c.arrive l).held = c.held ++ l := by
  have both : (c.Buffer.bytes.store (0 + c.BytesRead) l).read 0 (c.BytesRead + l.length) =
      c.held ++ l := Memory.read_store_append
  rw [Nat.zero_add] at both
  exact both

theorem length_held : c.held.length = c.BytesRead := Memory.length_read

@[simp]
theorem arrive_nil : c.arrive [] = c := by
  have same : c.Buffer.bytes.store c.BytesRead [] = c.Buffer.bytes := by
    funext a
    exact Memory.store_of_outside (by rw [List.length_nil]; omega)
  rw [arrive, same]
  rfl

theorem receive_eq (size : c.Buffer.size = BufLen) (within : n ≤ BufLen)
    (le : l.length ≤ n - c.BytesRead) (begun : c.BytesRead ≤ n) :
    c.Buffer.receive c.BytesRead ((n : Int) - c.BytesRead) (.bytes l) =
      .ok ((c.arrive l).Buffer, l.length) := by
  have asked : ((n : Int) - c.BytesRead).toNat = n - c.BytesRead := by omega
  refine Buffer.receive_eq_ok.mpr ⟨⟨by omega, by omega⟩, ?_⟩
  rw [asked, Answer.got, Answer.count, List.take_of_length_le le]
  rfl

end Call

/-! ### A turn of the loop -/

/-- The second read goes up to the length of the message. -/
theorem readBody_eq (size : c.Buffer.size = BufLen) (within : c.MsgLength ≤ BufLen)
    (begun : c.BytesRead ≤ c.MsgLength)
    (brings : p.read (c.MsgLength - c.BytesRead) split = some (.bytes l, p'))
    (le : l.length ≤ c.MsgLength - c.BytesRead) :
    readBody p c split = .ok (p',
      if c.MsgLength ≤ c.BytesRead + l.length then
        .returned true ((c.BytesRead + l.length : Nat) : Int) (c.arrive l)
      else .again (c.arrive l)) := by
  rw [readBody, brings]
  refine bind_eq_ok.mpr ⟨_, Call.receive_eq size within le begun, ?_⟩
  dsimp only
  rw [if_neg (by omega), Int.toNat_natCast]
  split
  · rfl
  · rfl

theorem turn_of_header (received : c.HeaderReceived = true) (first second : Nat) :
    turn p c first second = readBody p c second := by
  rw [turn, if_pos received]

/-- The first read goes up to the end of the header. -/
theorem turn_eq {first second : Nat} (size : c.Buffer.size = BufLen) (room : BUFSIZE ≤ BufLen)
    (received : c.HeaderReceived = false) (begun : c.BytesRead ≤ HEADER_SIZE)
    (brings : p.read (HEADER_SIZE - c.BytesRead) first = some (.bytes l, p'))
    (le : l.length ≤ HEADER_SIZE - c.BytesRead) :
    turn p c first second =
      if c.BytesRead + l.length < HEADER_SIZE then .ok (p', .again (c.arrive l))
      else if ((c.arrive l).Buffer.bytes.load16 9).toNat + HEADER_SIZE > BUFSIZE then
        .ok (p', .returned false (-1) (c.arrive l))
      else readBody p'
        ((c.arrive l).expect (((c.arrive l).Buffer.bytes.load16 9).toNat + HEADER_SIZE)) second := by
  rw [turn, if_neg (by rw [received]; nofun), brings]
  dsimp only
  rw [Call.receive_eq size (Nat.le_trans (by decide) room) le begun]
  refine Eq.trans (pure_bind ((c.arrive l).Buffer, (l.length : Int)) _) ?_
  dsimp only
  rw [if_neg (by omega), Int.toNat_natCast]
  rfl

/-- What the loop keeps: there is something left to read, and it fits. -/
structure Call.Fits (BufLen : Nat) (c : Call) : Prop where
  size : c.Buffer.size = BufLen
  header : c.HeaderReceived = false → c.BytesRead < HEADER_SIZE
  body : c.HeaderReceived = true → c.BytesRead < c.MsgLength ∧ c.MsgLength ≤ BUFSIZE

theorem Call.fits_start : (Call.start BufLen).Fits BufLen := ⟨rfl, fun _ => Nat.succ_pos _, nofun⟩

theorem readBody_safe (size : c.Buffer.size = BufLen) (room : BUFSIZE ≤ BufLen)
    (received : c.HeaderReceived = true) (begun : c.BytesRead ≤ c.MsgLength)
    (within : c.MsgLength ≤ BUFSIZE) (p : Pipe) (split : Nat) :
    ∃ p' t, readBody p c split = .ok (p', t) ∧ ∀ c', t = .again c' → c'.Fits BufLen := by
  by_cases here : p.bytes ≠ [] ∨ p.closed
  · obtain ⟨l, p', brings, -, -, le, -⟩ := Pipe.read_eq here (c.MsgLength - c.BytesRead) split
    refine ⟨p', _, readBody_eq size (within.trans room) begun brings le, fun c' again => ?_⟩
    split at again
    · cases again
    · rename_i more
      cases again
      exact ⟨size, fun not => absurd (received.symm.trans not) nofun,
        fun _ => ⟨Nat.not_le.mp more, within⟩⟩
  · obtain ⟨empty, isOpen⟩ := not_or.mp here
    cases brings : p.read (c.MsgLength - c.BytesRead) split with
    | none =>
        refine ⟨p, .blocked, ?_, nofun⟩
        rw [readBody, brings]
        rfl
    | some result =>
        have nothing : c.MsgLength - c.BytesRead = 0 := by
          by_contra some
          rw [Pipe.read, if_neg some, if_pos (not_not.mp empty), if_neg isOpen] at brings
          cases brings
        rw [nothing, Pipe.read, if_pos rfl] at brings
        cases brings
        have brings : p.read (c.MsgLength - c.BytesRead) split = some (.bytes [], p) := by
          rw [nothing, Pipe.read, if_pos rfl]
        refine ⟨p, _, readBody_eq size (within.trans room) begun brings (Nat.zero_le _),
          fun c' again => ?_⟩
        rw [if_pos (by rw [List.length_nil]; omega)] at again
        cases again

/-- **A turn of the loop** stays in the buffer. -/
theorem turn_safe (room : BUFSIZE ≤ BufLen) (fits : c.Fits BufLen)
    (here : p.bytes ≠ [] ∨ p.closed) (first second : Nat) :
    ∃ p' t, turn p c first second = .ok (p', t) ∧ ∀ c', t = .again c' → c'.Fits BufLen := by
  cases received : c.HeaderReceived with
  | true =>
      rw [turn_of_header received]
      obtain ⟨lt, le⟩ := fits.body received
      exact readBody_safe fits.size room received lt.le le p second
  | false =>
      have lt := fits.header received
      obtain ⟨l, p', brings, -, -, le, -⟩ :=
        Pipe.read_eq here (HEADER_SIZE - c.BytesRead) first
      rw [turn_eq fits.size room received lt.le brings le]
      split
      · rename_i more
        refine ⟨p', _, rfl, fun c' again => ?_⟩
        cases again
        exact ⟨fits.size, fun _ => more, fun yes => absurd (received.symm.trans yes) nofun⟩
      · rename_i full
        split
        · exact ⟨p', _, rfl, nofun⟩
        · rename_i short
          refine readBody_safe (c := (c.arrive l).expect _) fits.size room rfl ?_
            (Nat.not_lt.mp short) p' second
          show c.BytesRead + l.length ≤ _ + HEADER_SIZE
          omega

/-- At the end of the file nothing is read, and the loop goes on as before. -/
theorem turn_atEnd (room : BUFSIZE ≤ BufLen) (fits : c.Fits BufLen) (closed : p.closed)
    (empty : p.bytes = []) (first second : Nat) :
    turn p c first second = .ok (p, .again c) := by
  have nothing : ∀ n split, p.read n split = some (.bytes [], p) := by
    intro n split
    rw [Pipe.read, if_pos empty, if_pos closed, ite_self]
  cases received : c.HeaderReceived with
  | true =>
      obtain ⟨lt, le⟩ := fits.body received
      rw [turn_of_header received,
        readBody_eq fits.size (le.trans room) lt.le (nothing _ _) (Nat.zero_le _),
        List.length_nil, Nat.add_zero, if_neg (Nat.not_le.mpr lt), Call.arrive_nil]
  | false =>
      have lt := fits.header received
      rw [turn_eq fits.size room received lt.le (nothing _ _) (Nat.zero_le _), List.length_nil,
        Nat.add_zero, if_pos lt, Call.arrive_nil]

/-! ### A message that arrives -/

/-- What the loop keeps while a message arrives: the call has read all of it but what is left. -/
structure Call.Arriving (BufLen : Nat) (m left : List UInt8) (c : Call) : Prop where
  size : c.Buffer.size = BufLen
  whole : m = c.held ++ left
  some : left ≠ []
  header : c.HeaderReceived = false → c.BytesRead < HEADER_SIZE
  body : c.HeaderReceived = true → c.MsgLength = m.length

theorem Call.Arriving.length_eq (arriving : c.Arriving BufLen m left) :
    m.length = c.BytesRead + left.length := by
  rw [arriving.whole, List.length_append, length_held]

theorem Call.Arriving.fits (arriving : c.Arriving BufLen m left)
    (isMessage : IsMessage m) : c.Fits BufLen := by
  have pos := List.length_pos_of_ne_nil arriving.some
  have length := arriving.length_eq
  refine ⟨arriving.size, arriving.header, fun received => ?_⟩
  rw [arriving.body received]
  exact ⟨by omega, isMessage.fits⟩

/-- A read that asks for no more than is left of a message brings a part of it. -/
theorem Pipe.read_left (there : p.bytes = left ++ after) (le : n ≤ left.length) (split : Nat) :
    ∃ l left' p', p.read n split = some (.bytes l, p') ∧ left = l ++ left' ∧
      p'.bytes = left' ++ after ∧ p'.closed = p.closed ∧ l.length ≤ n ∧ (0 < n → l ≠ []) := by
  rcases Nat.eq_zero_or_pos n with rfl | pos
  · refine ⟨[], left, p, ?_, rfl, there, rfl, Nat.le_refl _, fun pos => absurd pos (by omega)⟩
    rw [Pipe.read, if_pos rfl]
  · have some : p.bytes ≠ [] := by
      rw [there]
      exact List.append_ne_nil_of_left_ne_nil (List.ne_nil_of_length_pos (by omega)) _
    obtain ⟨l, p', brings, split', closed, le', nonempty⟩ := read_eq (.inl some) n split
    have part : l <+: left := List.prefix_of_prefix_length_le ⟨p'.bytes, split'.symm⟩
      ⟨after, there.symm⟩ (le'.trans le)
    obtain ⟨left', rfl⟩ := part
    rw [there, List.append_assoc] at split'
    exact ⟨l, left', p', brings, rfl, (List.append_cancel_left split').symm, closed, le',
      fun pos => nonempty pos some⟩

/-- How a turn ends that reads on in a message. -/
def Progress (BufLen : Nat) (m left after : List UInt8) (closed : Bool)
    (ends : Checked (Pipe × Turn)) : Prop :=
  ∃ p' c', p'.closed = closed ∧
    (ends = .ok (p', .returned true (m.length : Int) c') ∧
        c'.Buffer.bytes.read 0 m.length = m ∧ p'.bytes = after ∨
      ∃ left', ends = .ok (p', .again c') ∧ c'.Arriving BufLen m left' ∧
        p'.bytes = left' ++ after ∧ left'.length < left.length)

theorem progress_readBody (size : c.Buffer.size = BufLen) (room : BUFSIZE ≤ BufLen)
    (within : m.length ≤ BUFSIZE) (whole : m = c.held ++ left) (received : c.HeaderReceived = true)
    (isLength : c.MsgLength = m.length) (there : p.bytes = left ++ after) (split : Nat) :
    Progress BufLen m left after p.closed (readBody p c split) := by
  have length : m.length = c.BytesRead + left.length := by
    rw [whole, List.length_append, Call.length_held]
  have rest : c.MsgLength - c.BytesRead = left.length := by omega
  obtain ⟨l, left', p', brings, isLeft, there', closed, le, nonempty⟩ :=
    Pipe.read_left there rest.le split
  have lengths : left.length = l.length + left'.length := by rw [isLeft, List.length_append]
  have whole' : m = (c.arrive l).held ++ left' := by
    rw [Call.held_arrive, List.append_assoc, ← isLeft]
    exact whole
  refine ⟨p', c.arrive l, closed, ?_⟩
  rw [readBody_eq size (by omega) (by omega) brings le]
  by_cases done : left' = []
  · rw [done, List.length_nil, Nat.add_zero] at lengths
    rw [done, List.append_nil] at whole'
    have all : c.BytesRead + l.length = m.length := by omega
    rw [if_pos (by omega), all]
    refine .inl ⟨rfl, ?_, by rw [there', done, List.nil_append]⟩
    rw [← all]
    exact whole'.symm
  · have pos := List.length_pos_of_ne_nil done
    have brought := List.length_pos_of_ne_nil (nonempty (by omega))
    rw [if_neg (by omega)]
    refine .inr ⟨left', rfl, ⟨size, whole', done, fun not => ?_, fun _ => isLength⟩, there', ?_⟩
    · exact absurd (received.symm.trans not) nofun
    · omega

/-- The length in a header that has arrived. -/
theorem load16_held (isMessage : IsMessage m) (whole : m = c.held ++ left)
    (enough : HEADER_SIZE ≤ c.BytesRead) :
    (c.Buffer.bytes.load16 9).toNat + HEADER_SIZE = m.length := by
  have size : HEADER_SIZE = 11 := rfl
  have byte {k : Nat} (lt : k < c.BytesRead) : c.Buffer.bytes k = m.getD k 0 := by
    rw [whole, List.getD_append _ _ _ _ (by rwa [Call.length_held]), Call.held,
      Memory.getD_read lt, Nat.zero_add]
  have bound₀ := (m.getD 9 0).toNat_lt
  have bound₁ := (m.getD 10 0).toNat_lt
  have length := isMessage.length
  rw [Memory.load16, byte (by omega), byte (k := 10) (by omega), UInt16.toNat_ofNat']
  omega

/-- **A turn of the loop** reads on in the message that arrives. -/
theorem turn_message (arriving : c.Arriving BufLen m left) (room : BUFSIZE ≤ BufLen)
    (isMessage : IsMessage m) (there : p.bytes = left ++ after) (first second : Nat) :
    Progress BufLen m left after p.closed (turn p c first second) := by
  have within := isMessage.fits
  have length := arriving.length_eq
  cases received : c.HeaderReceived with
  | true =>
      rw [turn_of_header received]
      exact progress_readBody arriving.size room within arriving.whole received
        (arriving.body received) there second
  | false =>
      have lt := arriving.header received
      have header := isMessage.header
      obtain ⟨l, left', p', brings, isLeft, there', closed, le, nonempty⟩ :=
        Pipe.read_left (n := HEADER_SIZE - c.BytesRead) there (by omega) first
      have lengths : left.length = l.length + left'.length := by rw [isLeft, List.length_append]
      have brought := List.length_pos_of_ne_nil (nonempty (by omega))
      have whole : m = (c.arrive l).held ++ left' := by
        rw [Call.held_arrive, List.append_assoc, ← isLeft]
        exact arriving.whole
      rw [turn_eq arriving.size room received lt.le brings le]
      split
      · rename_i more
        refine ⟨p', c.arrive l, closed, .inr ⟨left', rfl, ⟨arriving.size, whole, ?_, fun _ => more,
          fun yes => absurd (received.symm.trans yes) nofun⟩, there', by omega⟩⟩
        exact List.ne_nil_of_length_pos (by omega)
      · rename_i full
        have isLength := load16_held isMessage whole (Nat.not_lt.mp full)
        rw [isLength, if_neg (by omega), ← closed]
        obtain ⟨p'', c'', closed', ends⟩ := progress_readBody (c := (c.arrive l).expect m.length)
          arriving.size room within whole rfl rfl there' second
        refine ⟨p'', c'', closed', ends.imp_right ?_⟩
        rintro ⟨left'', again, arriving', there'', less⟩
        exact ⟨left'', again, arriving', there'', by omega⟩

end Reads

/-! ### Runs -/

namespace PipeState

variable {s s' : PipeState} {e : PipeStep} {BufLen : Nat} {steps : List PipeStep}

theorem step_ready (open' : s.blocked = false) (here : s.pipe.bytes ≠ [] ∨ s.pipe.closed)
    (room : BUFSIZE ≤ BufLen) {first second : Nat} :
    s.step BufLen (.ready first second) = turn s.pipe s.call first second >>= fun
      | (pipe, .blocked) => pure { s with pipe, blocked := true }
      | (pipe, .again call) => pure { s with pipe, call }
      | (pipe, .returned result LengthReturn call) =>
          let message := call.Buffer.bytes.read 0 LengthReturn.toNat
          pure { s with
            pipe
            call := .start BufLen
            delivered := if result then s.delivered ++ [message] else s.delivered
            returns := s.returns + 1 } := by
  have some : ¬ (s.blocked ∨ s.pipe.bytes = [] ∧ s.pipe.closed = false) := by
    rintro (blocked | ⟨empty, isOpen⟩)
    · exact absurd (open'.symm.trans blocked) nofun
    · exact here.elim (fun some => some empty) fun closed => absurd (isOpen.symm.trans closed) nofun
  rw [step, if_neg some, if_neg (Nat.not_lt.mpr room)]

/-- **A step stays in the buffer,** and no call that has returned comes back. -/
theorem step_safe (room : BUFSIZE ≤ BufLen) (fits : s.call.Fits BufLen) (e : PipeStep) :
    ∃ s', s.step BufLen e = .ok s' ∧ s'.call.Fits BufLen ∧ s.returns ≤ s'.returns := by
  cases e with
  | close => exact ⟨_, rfl, fits, Nat.le_refl _⟩
  | timeout =>
      rw [step]
      split
      · exact ⟨s, rfl, fits, Nat.le_refl _⟩
      · exact ⟨_, rfl, Call.fits_start, Nat.le_succ _⟩
  | ready first second =>
      by_cases waits : s.blocked ∨ s.pipe.bytes = [] ∧ s.pipe.closed = false
      · rw [step, if_pos waits]
        exact ⟨s, rfl, fits, Nat.le_refl _⟩
      · obtain ⟨notBlocked, some⟩ := not_or.mp waits
        have here : s.pipe.bytes ≠ [] ∨ s.pipe.closed := by
          rw [not_and_or, Bool.not_eq_false] at some
          exact some
        obtain ⟨p', t, turned, fits'⟩ := turn_safe room fits here first second
        rw [step_ready (Bool.not_eq_true _ ▸ notBlocked) here room]
        cases t with
        | blocked => exact ⟨_, bind_eq_ok.mpr ⟨_, turned, rfl⟩, fits, Nat.le_refl _⟩
        | again c => exact ⟨_, bind_eq_ok.mpr ⟨_, turned, rfl⟩, fits' c rfl, Nat.le_refl _⟩
        | returned result n c =>
            exact ⟨_, bind_eq_ok.mpr ⟨_, turned, rfl⟩, Call.fits_start, Nat.le_succ _⟩

theorem run_safe (room : BUFSIZE ≤ BufLen) (fits : s.call.Fits BufLen) (steps : List PipeStep) :
    ∃ s', steps.foldl (next BufLen) (.ok s) = .ok s' ∧ s'.call.Fits BufLen ∧
      s.returns ≤ s'.returns := by
  induction steps generalizing s with
  | nil => exact ⟨s, rfl, fits, Nat.le_refl _⟩
  | cons e steps ih =>
      obtain ⟨s', taken, fits', le⟩ := step_safe room fits e
      obtain ⟨s'', run, fits'', le'⟩ := ih fits'
      refine ⟨s'', ?_, fits'', le.trans le'⟩
      show steps.foldl (next BufLen) (s.step BufLen e) = _
      rw [taken]
      exact run

/-- A call at the end of the file does not return. -/
theorem not_returns_of_atEnd (room : BUFSIZE ≤ BufLen) (fits : s.call.Fits BufLen)
    (atEnd : s.AtEnd) : ¬ s.Returns BufLen := by
  rintro ⟨n, returns⟩
  have stays (more : List PipeStep) (ready : ∀ e ∈ more, e.IsReady) :
      more.foldl (next BufLen) (.ok s) = .ok s := by
    induction more with
    | nil => rfl
    | cons e more ih =>
        obtain ⟨isReady, ready⟩ := List.forall_mem_cons.mp ready
        have taken : s.step BufLen e = .ok s := by
          cases e with
          | timeout => cases isReady
          | close => cases isReady
          | ready first second =>
              cases blocked : s.blocked with
              | true => rw [step, if_pos (.inl blocked)]; rfl
              | false =>
                  rw [step_ready blocked (.inr atEnd.1) room]
                  exact bind_eq_ok.mpr
                    ⟨_, turn_atEnd room fits atEnd.1 atEnd.2 first second, rfl⟩
        show more.foldl (next BufLen) (s.step BufLen e) = _
        rw [taken]
        exact ih ready
  obtain ⟨s', run, more⟩ := returns (List.replicate n (.ready 0 0)) List.length_replicate
    fun e mem => by rw [List.eq_of_mem_replicate mem]; trivial
  rw [stays _ fun e mem => by rw [List.eq_of_mem_replicate mem]; trivial] at run
  cases run
  exact Nat.lt_irrefl _ more

/-- What is still to come of the messages. Of the first one, the call may have read a part. -/
def Awaits (BufLen : Nat) (s : PipeState) : List (List UInt8) → Prop
  | [] => s.pipe.bytes = [] ∧ s.call.held = [] ∧ s.call.Fits BufLen
  | m :: later => ∃ left, s.call.Arriving BufLen m left ∧ s.pipe.bytes = left ++ later.flatten

/-- What the steps keep that lose nothing. -/
structure Inv (BufLen : Nat) (messages : List (List UInt8)) (s : PipeState) : Prop where
  open' : s.blocked = false
  awaits : ∃ rest, s.delivered ++ rest = messages ∧ s.Awaits BufLen rest
  notAtEnd : ¬ s.AtEnd

section Message

variable {messages rest later : List (List UInt8)} {m left : List UInt8}

theorem awaits_start (isMessage : ∀ m ∈ rest, IsMessage m) (there : s.pipe.bytes = rest.flatten)
    (start : s.call = .start BufLen) : s.Awaits BufLen rest := by
  have nothing : s.call.held = [] := by rw [start]; rfl
  cases rest with
  | nil => exact ⟨there, nothing, start ▸ Call.fits_start⟩
  | cons m later =>
      have header := (isMessage m List.mem_cons_self).header
      refine ⟨m, ⟨?_, ?_, List.ne_nil_of_length_pos (Nat.lt_of_lt_of_le (by decide) header),
        ?_, ?_⟩, there⟩
      · rw [start]
        rfl
      · rw [nothing, List.nil_append]
      · rw [start]
        exact Call.fits_start.header
      · rw [start]
        nofun

theorem Awaits.fits (awaits : s.Awaits BufLen rest) (isMessage : ∀ m ∈ rest, IsMessage m) :
    s.call.Fits BufLen := by
  cases rest with
  | nil => exact awaits.2.2
  | cons m later =>
      obtain ⟨left, arriving, -⟩ := awaits
      exact arriving.fits (isMessage m List.mem_cons_self)

theorem Awaits.conserved (awaits : s.Awaits BufLen rest) :
    s.call.held ++ s.pipe.bytes = rest.flatten := by
  cases rest with
  | nil => rw [awaits.1, awaits.2.1]; rfl
  | cons m later =>
      obtain ⟨left, arriving, there⟩ := awaits
      rw [there, ← List.append_assoc, ← arriving.whole, List.flatten_cons]

theorem Awaits.eq_nil (awaits : s.Awaits BufLen rest) (empty : s.pipe.bytes = []) : rest = [] := by
  cases rest with
  | nil => rfl
  | cons m later =>
      obtain ⟨left, arriving, there⟩ := awaits
      rw [empty] at there
      exact absurd (List.append_eq_nil_iff.mp there.symm).1 arriving.some

/-- **A step that polls** delivers a message, or has read on in it. -/
theorem step_message (open' : s.blocked = false) (arriving : s.call.Arriving BufLen m left)
    (there : s.pipe.bytes = left ++ later.flatten) (room : BUFSIZE ≤ BufLen)
    (isMessage : ∀ m' ∈ m :: later, IsMessage m') (first second : Nat) :
    ∃ s', s.step BufLen (.ready first second) = .ok s' ∧ s'.blocked = false ∧
      s'.pipe.closed = s.pipe.closed ∧
      (s'.delivered = s.delivered ++ [m] ∧ s'.Awaits BufLen later ∧
          s'.returns = s.returns + 1 ∨
        s'.delivered = s.delivered ∧ s'.Awaits BufLen (m :: later) ∧ s'.returns = s.returns ∧
          s'.pipe.bytes.length < s.pipe.bytes.length) := by
  have some : s.pipe.bytes ≠ [] := by
    rw [there]
    exact List.append_ne_nil_of_left_ne_nil arriving.some _
  obtain ⟨pipe, call, closed, ⟨ends, read, there'⟩ | ⟨left', ends, arriving', there', less⟩⟩ :=
    turn_message arriving room (isMessage m List.mem_cons_self) there first second
  · rw [step_ready open' (.inl some) room]
    refine ⟨_, bind_eq_ok.mpr ⟨_, ends, rfl⟩, open', closed, .inl ⟨?_, ?_, rfl⟩⟩
    · show s.delivered ++ [call.Buffer.bytes.read 0 m.length] = _
      rw [read]
    · exact awaits_start (fun m mem => isMessage m (List.mem_cons_of_mem _ mem)) there' rfl
  · rw [step_ready open' (.inl some) room]
    refine ⟨_, bind_eq_ok.mpr ⟨_, ends, rfl⟩, open', closed, .inr ⟨rfl, ⟨left', arriving', there'⟩,
      rfl, ?_⟩⟩
    rw [there, there', List.length_append, List.length_append]
    omega

theorem inv_initial (BufLen : Nat) (isMessage : ∀ m ∈ messages, IsMessage m) :
    (initial BufLen messages).Inv BufLen messages :=
  ⟨rfl, ⟨messages, rfl, awaits_start isMessage rfl rfl⟩, fun atEnd => absurd atEnd.1 nofun⟩

/-- **Every step** that abandons nothing and does not come to the end of the file keeps it. -/
theorem inv_step (inv : s.Inv BufLen messages) (room : BUFSIZE ≤ BufLen)
    (isMessage : ∀ m ∈ messages, IsMessage m)
    (nothing : e = .timeout → s.call.BytesRead = 0) :
    ∃ s', s.step BufLen e = .ok s' ∧ (¬ s'.AtEnd → s'.Inv BufLen messages) := by
  obtain ⟨open', ⟨rest, split, awaits⟩, notAtEnd⟩ := inv
  have isRest : ∀ m ∈ rest, IsMessage m := fun m mem =>
    isMessage m (split ▸ List.mem_append_right _ mem)
  cases e with
  | close =>
      refine ⟨_, rfl, fun notAtEnd' => ⟨open', ⟨rest, split, ?_⟩, notAtEnd'⟩⟩
      cases rest with
      | nil => exact awaits
      | cons m later => exact awaits
  | timeout =>
      have held : s.call.held = [] :=
        List.eq_nil_of_length_eq_zero (Call.length_held.trans (nothing rfl))
      have there := awaits.conserved
      rw [held, List.nil_append] at there
      rw [step, if_neg (by rw [open']; nofun)]
      exact ⟨_, rfl, fun notAtEnd' =>
        ⟨open', ⟨rest, split, awaits_start isRest there rfl⟩, notAtEnd'⟩⟩
  | ready first second =>
      cases rest with
      | nil =>
          have isOpen : s.pipe.closed = false := by
            cases closed : s.pipe.closed with
            | false => rfl
            | true => exact absurd ⟨closed, awaits.1⟩ notAtEnd
          refine ⟨s, ?_, fun _ => ⟨open', ⟨[], split, awaits⟩, notAtEnd⟩⟩
          rw [step, if_pos (.inr ⟨awaits.1, isOpen⟩)]
          rfl
      | cons m later =>
          obtain ⟨left, arriving, there⟩ := awaits
          obtain ⟨s', taken, open'', -, ⟨delivered, awaits', -⟩ | ⟨delivered, awaits', -, -⟩⟩ :=
            step_message open' arriving there room isRest first second
          · refine ⟨s', taken, fun notAtEnd' => ⟨open'', ⟨later, ?_, awaits'⟩, notAtEnd'⟩⟩
            rw [delivered, List.append_assoc]
            exact split
          · exact ⟨s', taken, fun notAtEnd' =>
              ⟨open'', ⟨m :: later, by rw [delivered]; exact split, awaits'⟩, notAtEnd'⟩⟩

/-- A call that has a message to read returns once the pipe has given all its bytes. -/
theorem returns_of_awaits (open' : s.blocked = false) (awaits : s.Awaits BufLen (m :: later))
    (room : BUFSIZE ≤ BufLen) (isMessage : ∀ m' ∈ m :: later, IsMessage m') {n : Nat}
    (le : s.pipe.bytes.length ≤ n) {more : List PipeStep} (length : more.length = n)
    (ready : ∀ e ∈ more, e.IsReady) :
    ∃ s', more.foldl (next BufLen) (.ok s) = .ok s' ∧ s.returns < s'.returns := by
  induction more generalizing s n with
  | nil =>
      obtain ⟨left, arriving, there⟩ := awaits
      have pos := List.length_pos_of_ne_nil arriving.some
      rw [there, List.length_append] at le
      rw [List.length_nil] at length
      omega
  | cons e more ih =>
      obtain ⟨isReady, others⟩ := List.forall_mem_cons.mp ready
      rw [List.length_cons] at length
      cases e with
      | timeout => cases isReady
      | close => cases isReady
      | ready first second =>
          obtain ⟨left, arriving, there⟩ := awaits
          obtain ⟨s', taken, open'', -, ⟨-, awaits', returns⟩ | ⟨-, awaits', returns, less⟩⟩ :=
            step_message open' arriving there room isMessage first second
          · obtain ⟨s'', run, -, le'⟩ := run_safe room
              (awaits'.fits fun m mem => isMessage m (List.mem_cons_of_mem _ mem)) more
            refine ⟨s'', ?_, by omega⟩
            show more.foldl (next BufLen) (s.step BufLen (.ready first second)) = _
            rw [taken]
            exact run
          · obtain ⟨s'', run, more'⟩ := ih open'' awaits' (n := n - 1) (by omega) (by omega) others
            refine ⟨s'', ?_, by omega⟩
            show more.foldl (next BufLen) (s.step BufLen (.ready first second)) = _
            rw [taken]
            exact run

theorem Inv.frames (inv : s.Inv BufLen messages) (room : BUFSIZE ≤ BufLen)
    (isMessage : ∀ m ∈ messages, IsMessage m) : s.Frames BufLen messages := by
  obtain ⟨open', ⟨rest, split, awaits⟩, notAtEnd⟩ := inv
  refine ⟨⟨rest, split⟩, ?_, fun empty => ?_, fun closed => ?_⟩
  · rw [List.append_assoc, awaits.conserved, ← List.flatten_append, split]
  · rw [awaits.eq_nil empty, List.append_nil] at split
    exact split
  · cases rest with
    | nil => exact absurd ⟨closed, awaits.1⟩ notAtEnd
    | cons m later =>
        exact ⟨_, fun more length ready => returns_of_awaits open' awaits room
          (fun m mem => isMessage m (split ▸ List.mem_append_right _ mem)) (Nat.le_refl _)
          length ready⟩

/-- A poll that times out while a call holds bytes loses them. -/
theorem not_frames_timeout (inv : s.Inv BufLen messages) (some : s.call.BytesRead ≠ 0)
    (taken : s.step BufLen .timeout = .ok s') : ¬ s'.Frames BufLen messages := by
  obtain ⟨open', ⟨rest, split, awaits⟩, -⟩ := inv
  rw [step, if_neg (by rw [open']; nofun)] at taken
  cases taken
  intro frames
  have lost := frames.conserved
  rw [← split, List.flatten_append, ← awaits.conserved, List.append_assoc] at lost
  have same := congrArg List.length (List.append_cancel_left lost)
  rw [List.length_append, List.length_append, Call.length_held, Call.length_held] at same
  exact some (Nat.add_right_cancel same).symm

end Message

theorem run_append_singleton {messages : List (List UInt8)} {done : List PipeStep} :
    run BufLen messages (done ++ [e]) = next BufLen (run BufLen messages done) e :=
  List.foldl_append

/-- **A run delivers the messages** exactly where no poll times out while a call holds a part of
one, and no call comes to the end of the file. -/
theorem framing_iff {messages : List (List UInt8)} (room : BUFSIZE ≤ BufLen)
    (isMessage : ∀ m ∈ messages, IsMessage m) (steps : List PipeStep) :
    (∀ done, done <+: steps →
        ∃ s, run BufLen messages done = .ok s ∧ s.Frames BufLen messages) ↔
      (∀ done s, done ++ [.timeout] <+: steps → run BufLen messages done = .ok s →
          s.call.BytesRead = 0) ∧
        ∀ done s, done <+: steps → run BufLen messages done = .ok s → ¬ s.AtEnd := by
  have start := inv_initial BufLen isMessage
  have safe (done : List PipeStep) : ∃ s, run BufLen messages done = .ok s := by
    obtain ⟨s, ran, -⟩ := run_safe (s := initial BufLen messages) room Call.fits_start done
    exact ⟨s, ran⟩
  let G (x : Checked PipeState) (e : PipeStep) : Prop :=
    ∀ s, x = .ok s → (e = .timeout → s.call.BytesRead = 0) ∧
      ∀ s', next BufLen x e = .ok s' → ¬ s'.AtEnd
  have byStep : (∀ done, done <+: steps →
        ∃ s, run BufLen messages done = .ok s ∧ s.Frames BufLen messages) ↔
      ∀ done e, done ++ [e] <+: steps → G (run BufLen messages done) e := by
    refine Machine.prefixes_iff
      (I := fun x : Checked PipeState => ∃ s, x = .ok s ∧ s.Inv BufLen messages)
      (P := fun x : Checked PipeState => ∃ s, x = .ok s ∧ s.Frames BufLen messages)
      ⟨_, rfl, start⟩ ?_ ?_ ?_
    · rintro _ ⟨s, rfl, inv⟩
      exact ⟨s, rfl, inv.frames room isMessage⟩
    · rintro _ e - ⟨s, rfl, inv⟩ guard
      obtain ⟨nothing, notAtEnd⟩ := guard s rfl
      obtain ⟨s', taken, inv'⟩ := inv_step inv room isMessage nothing
      exact ⟨s', taken, inv' (notAtEnd s' taken)⟩
    · rintro _ e - ⟨s, rfl, inv⟩ unguarded ⟨s', taken, frames⟩
      refine unguarded fun _ same => ?_
      cases same
      obtain ⟨rest, split, awaits⟩ := inv.awaits
      have fits := awaits.fits fun m mem => isMessage m (split ▸ List.mem_append_right _ mem)
      refine ⟨fun timeout => ?_, fun s'' taken' atEnd => ?_⟩
      · by_contra some
        subst timeout
        exact not_frames_timeout inv some taken frames
      · obtain ⟨_, taken'', fits', -⟩ := step_safe room fits e
        cases taken'.symm.trans taken
        cases taken''.symm.trans taken
        exact not_returns_of_atEnd room fits' atEnd (frames.returns atEnd.1)
  refine byStep.trans ?_
  constructor
  · intro guards
    refine ⟨fun done s part run => (guards done _ part s run).1 rfl, fun done s part run => ?_⟩
    cases done using List.reverseRecOn with
    | nil =>
        cases run
        exact start.notAtEnd
    | append_singleton done e _ =>
        obtain ⟨before, run'⟩ := safe done
        rw [run_append_singleton] at run
        exact (guards done e part before run').2 s run
  · rintro ⟨nothing, notAtEnd⟩ done e part s run
    refine ⟨fun timeout => nothing done s (timeout ▸ part) run, fun s' taken => ?_⟩
    refine notAtEnd (done ++ [e]) s' part ?_
    rw [run_append_singleton]
    exact taken

/-- A message of a header, a poll that times out before it, and one that finds it. -/
theorem framing_header :
    (BUFSIZE ≤ BUFSIZE ∧ ∀ m ∈ [List.replicate 11 (0 : UInt8)], IsMessage m) ∧
      ∀ done, done <+: [PipeStep.timeout, .ready 10 0] →
        ∃ s, run BUFSIZE [List.replicate 11 0] done = .ok s ∧
          s.Frames BUFSIZE [List.replicate 11 0] := by
  have isMessage : ∀ m ∈ [List.replicate 11 (0 : UInt8)], IsMessage m := by
    intro m mem
    rw [List.mem_singleton.mp mem]
    exact ⟨by decide, by decide, by decide⟩
  refine ⟨⟨Nat.le_refl _, isMessage⟩, (framing_iff (Nat.le_refl _) isMessage _).mpr ⟨?_, ?_⟩⟩
  · intro done s part run
    obtain ⟨more, split⟩ := part
    rcases done with _ | ⟨e, _ | ⟨e', done⟩⟩
    · cases run
      rfl
    · cases split
    · have length := congrArg List.length split
      simp only [List.length_append, List.length_cons, List.length_nil] at length
      omega
  · intro done s part run atEnd
    have closed : s.pipe.closed = false := by
      simp only [List.prefix_cons_iff, List.prefix_nil] at part
      rcases part with rfl | ⟨_, rfl, rfl | ⟨_, rfl, rfl⟩⟩
      all_goals
        cases run
        rfl
    exact absurd (closed.symm.trans atEnd.1) nofun

/-- A poll times out when four bytes of a message are read. They are lost. -/
theorem not_framing : ¬ ∀ done, done <+: [PipeStep.ready 3 0, .timeout] →
    ∃ s, run BUFSIZE [[0, 0, 0, 0, 0, 0, 0, 0, 0, 1, 0, 7]] done = .ok s ∧
      s.Frames BUFSIZE [[0, 0, 0, 0, 0, 0, 0, 0, 0, 1, 0, 7]] := by
  intro all
  obtain ⟨s, run, frames⟩ := all _ (List.prefix_refl _)
  cases run
  have lost := congrArg List.length frames.conserved
  exact absurd lost (by decide)

end PipeState

end Sdm.PM
