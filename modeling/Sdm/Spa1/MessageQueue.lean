import Sdm.Lib.LinkedList
import Sdm.Spa1.Asim

/-!
`Spa1Queue` with its nodes and its two pointers.

A message object has an array of 257 bytes and knows its size. The queue takes messages up to
`BUFSIZE`, the constructor cuts the size to 256, and `setMsgSize` takes sizes below 256.

* `putMsg_fits`, `putMsg_large`, `getMsg_spec`: one call.
* `calls_deliver_iff`: which sequences of calls deliver what they accept.
-/

namespace Sdm

open Lib

namespace Spa1Queue

/-- `Spa1Queue`. -/
structure Linked where
  heap : Heap Spa1Msg
  head : Option Nat
  tail : Option Nat
  msgsInQueue : Int

namespace Linked

def new (heap : Heap Spa1Msg) : Linked := ⟨heap, none, none, 0⟩

def getNumMsgs (q : Linked) : Int := q.msgsInQueue

/-- The queue afterwards, the result, and what was copied to the buffer. -/
def getMsg (q : Linked) (bufSize : Nat) : Except Stop (Linked × Int × List UInt8) :=
  match q.head with
  | none => return (q, 0, [])
  | some curMsg => do
      let n ← q.heap.read curMsg
      if bufSize < n.value.msgSize then return (q, -1, [])
      else
        let tail := if q.head = q.tail then none else q.tail
        return (⟨q.heap.free curMsg, n.next, tail, q.msgsInQueue - 1⟩, n.value.msgSize,
          n.value.msg.take n.value.msgSize)

/-- The bytes of `Spa1Msg::msg`. -/
def arraySize : Nat := 257

/-- `putMsg`, where `new` returns `newMsg`. The size of the array is not looked at. -/
def putMsg (q : Linked) (newMsg : Nat) (buf : List UInt8) : Except Stop (Linked × Int) :=
  if buf.length ≤ BUFSIZE then
    if arraySize < buf.length then .error .undefined
    else
      let m := { Spa1Msg.new buf.length with msg := buf }.setMsgSize buf.length
      let heap := q.heap.alloc newMsg ⟨m, none⟩
      match q.tail with
      | some tail => do
          let heap ← heap.setNext tail (some newMsg)
          return (⟨heap, q.head, some newMsg, q.msgsInQueue + 1⟩, 0)
      | none => return (⟨heap, some newMsg, some newMsg, q.msgsInQueue + 1⟩, 0)
  else return (q, -1)

end Linked

/-! ### The messages that are pending -/

/-- The call of an operation, with the address of the object that `new` makes. -/
inductive Call where
  | putMsg (newMsg : Nat) (buf : List UInt8)
  | getMsg (bufSize : Nat)

/-- The message objects of the queue have these messages, whole and with their sizes. -/
def Stores (q : Linked) (pending : List (List UInt8)) : Prop :=
  ∃ l, q.heap.Holds q.head l ∧ l.map Prod.snd = pending.map fun m => ⟨m, m.length⟩

/-- The calls deliver what they accept. `pending` is what was accepted and not delivered. A put that
returns 0 has stored its message, and one that does not has stored nothing. A get delivers the first
message, or changes nothing. -/
def Delivers : Linked → List (List UInt8) → List Call → Prop
  | _, _, [] => True
  | q, pending, .putMsg newMsg buf :: calls =>
      ∃ q' result, q.putMsg newMsg buf = .ok (q', result) ∧
        let pending' := if result = 0 then pending ++ [buf] else pending
        Stores q' pending' ∧ q'.getNumMsgs = pending'.length ∧ Delivers q' pending' calls
  | q, [], .getMsg bufSize :: calls => q.getMsg bufSize = .ok (q, 0, []) ∧ Delivers q [] calls
  | q, m :: rest, .getMsg bufSize :: calls =>
      if bufSize < m.length then
        q.getMsg bufSize = .ok (q, -1, []) ∧ Delivers q (m :: rest) calls
      else
        ∃ q', q.getMsg bufSize = .ok (q', m.length, m) ∧ Stores q' rest ∧
          q'.getNumMsgs = rest.length ∧ Delivers q' rest calls

/-- `new` returns an address that is not in use. -/
def Allocates : Linked → List Call → Prop
  | _, [] => True
  | q, .putMsg newMsg buf :: calls => q.heap newMsg = none ∧
      ∀ q' result, q.putMsg newMsg buf = .ok (q', result) → Allocates q' calls
  | q, .getMsg bufSize :: calls =>
      ∀ q' result bytes, q.getMsg bufSize = .ok (q', result, bytes) → Allocates q' calls

/-- A size that a message object has room for, or that the queue refuses. -/
def Fits (size : Nat) : Prop := size ≤ MAX_SPA1_MSG_SIZE ∨ BUFSIZE < size

/-- The queue holds the messages that are pending, and its pointers and its counter are right. -/
structure Inv (q : Linked) (pending : List (List UInt8)) : Prop where
  holds : ∃ l, q.heap.Holds q.head l ∧ (l.map Prod.snd = pending.map fun m => ⟨m, m.length⟩) ∧
    q.tail = l.getLast?.map Prod.fst
  count : q.msgsInQueue = pending.length

section Calls

variable {q q' : Linked} {pending rest : List (List UInt8)} {m buf : List UInt8}
  {newMsg bufSize : Nat} {calls : List Call}

theorem Inv.stores (inv : Inv q pending) : Stores q pending := by
  obtain ⟨l, holds, values, -⟩ := inv.holds
  exact ⟨l, holds, values⟩

theorem inv_new (heap : Heap Spa1Msg) : Inv (.new heap) [] :=
  ⟨⟨[], Heap.holds_nil.mpr rfl, rfl, rfl⟩, rfl⟩

/-- What `setMsgSize` leaves is the whole size, up to 256. -/
theorem msg_eq (fits : buf.length ≤ MAX_SPA1_MSG_SIZE) :
    { Spa1Msg.new buf.length with msg := buf }.setMsgSize buf.length = ⟨buf, buf.length⟩ := by
  simp only [Spa1Msg.setMsgSize, Spa1Msg.new]
  split
  · rfl
  · rw [if_neg (Nat.not_lt.mpr fits)]

/-- **A put** of any message that the queue takes and the array holds. -/
theorem putMsg_holds (inv : Inv q pending) (free : q.heap newMsg = none)
    (accepted : buf.length ≤ BUFSIZE) (room : buf.length ≤ Linked.arraySize) :
    let value := { Spa1Msg.new buf.length with msg := buf }.setMsgSize buf.length
    ∃ q' l', q.putMsg newMsg buf = .ok (q', 0) ∧ q'.heap.Holds q'.head l' ∧
      l'.map Prod.snd = (pending.map fun m => ⟨m, m.length⟩) ++ [value] ∧
      q'.tail = l'.getLast?.map Prod.fst ∧ q'.msgsInQueue = pending.length + 1 := by
  intro value
  obtain ⟨l, holds, values, tail⟩ := inv.holds
  rcases List.eq_nil_or_concat l with rfl | ⟨front, ⟨last, w⟩, rfl⟩
  · have isTail : q.tail = none := tail
    have isHead := Heap.holds_nil.mp holds
    refine ⟨⟨q.heap.alloc newMsg ⟨value, none⟩, some newMsg, some newMsg, q.msgsInQueue + 1⟩,
      [(newMsg, value)], ?_, ?_, ?_, rfl, ?_⟩
    · rw [Linked.putMsg, if_pos accepted, if_neg (Nat.not_lt.mpr room), isTail]
      rfl
    · exact (isHead ▸ holds).push free value
    · rw [← values]
      rfl
    · exact congrArg (· + 1) inv.count
  · have isTail : q.tail = some last := by
      rw [tail, List.concat_eq_append, List.getLast?_append]
      rfl
    rw [List.concat_eq_append] at holds values
    have other : last ≠ newMsg := fun same => by
      have here := holds.last
      rw [same, free] at here
      cases here
    have linked : (q.heap.alloc newMsg ⟨value, none⟩).setNext last (some newMsg) =
        pure (Function.update (q.heap.alloc newMsg ⟨value, none⟩) last
          (some ⟨w, some newMsg⟩)) := by
      have here : q.heap.alloc newMsg ⟨value, none⟩ last = some ⟨w, none⟩ := by
        rw [Heap.alloc, Function.update_of_ne other]
        exact holds.last
      rw [Heap.setNext, here]
      rfl
    refine ⟨⟨Function.update (q.heap.alloc newMsg ⟨value, none⟩) last (some ⟨w, some newMsg⟩),
      q.head, some newMsg, q.msgsInQueue + 1⟩, front ++ [(last, w)] ++ [(newMsg, value)], ?_,
      holds.append free value, ?_, ?_, congrArg (· + 1) inv.count⟩
    · rw [Linked.putMsg, if_pos accepted, if_neg (Nat.not_lt.mpr room), isTail]
      show (Heap.setNext _ last (some newMsg) >>= _) = _
      rw [linked]
      rfl
    · rw [List.map_append, values]
      rfl
    · rw [List.getLast?_append]
      rfl

/-- **A put** of a message of at most 256 bytes stores it. -/
theorem putMsg_fits (inv : Inv q pending) (free : q.heap newMsg = none)
    (fits : buf.length ≤ MAX_SPA1_MSG_SIZE) :
    ∃ q', q.putMsg newMsg buf = .ok (q', 0) ∧ Inv q' (pending ++ [buf]) := by
  have most : MAX_SPA1_MSG_SIZE = 256 := rfl
  obtain ⟨q', l', ran, holds, values, tail, count⟩ := putMsg_holds inv free
    (fits.trans (by decide)) (fits.trans (by decide))
  rw [msg_eq fits] at values
  refine ⟨q', ran, ⟨l', holds, ?_, tail⟩, ?_⟩
  · rw [values, List.map_append]
    rfl
  · rw [count, List.length_append]
    rfl

theorem putMsg_refused (large : BUFSIZE < buf.length) :
    q.putMsg newMsg buf = .ok (q, -1) := if_neg (Nat.not_le.mpr large)

/-- **A larger message** that the queue takes is cut, or does not fit the array. -/
theorem putMsg_large (inv : Inv q pending) (free : q.heap newMsg = none)
    (accepted : buf.length ≤ BUFSIZE) (large : MAX_SPA1_MSG_SIZE < buf.length)
    {result : Int} (ran : q.putMsg newMsg buf = .ok (q', result)) :
    result = 0 ∧ ¬ Stores q' (pending ++ [buf]) := by
  by_cases room : buf.length ≤ Linked.arraySize
  · obtain ⟨q'', l', ran', holds', values', -, -⟩ := putMsg_holds inv free accepted room
    cases ran.symm.trans ran'
    refine ⟨rfl, ?_⟩
    rintro ⟨l, holds, values⟩
    rw [holds.unique holds', values', List.map_append] at values
    have last := List.singleton_inj.mp (List.append_cancel_left values)
    have size := congrArg Spa1Msg.msgSize last
    simp only [Spa1Msg.setMsgSize, Spa1Msg.new, if_pos large,
      if_neg (Nat.not_lt.mpr large.le)] at size
    omega
  · rw [Linked.putMsg, if_pos accepted, if_pos (Nat.not_le.mp room)] at ran
    cases ran

/-- The tail behind the first node is the last one of the rest. -/
theorem tail_pop {l : List (Nat × Spa1Msg)} {a : Nat} {v : Spa1Msg}
    (holds : q.heap.Holds q.head ((a, v) :: l))
    (tail : q.tail = ((a, v) :: l).getLast?.map Prod.fst) :
    (if q.head = q.tail then none else q.tail) = l.getLast?.map Prod.fst := by
  rw [holds.head_eq, tail]
  rcases List.eq_nil_or_concat l with rfl | ⟨front, ⟨b, w⟩, rfl⟩
  · exact if_pos rfl
  · have apart := (List.nodup_cons.mp holds.nodup).1
    rw [List.concat_eq_append, ← List.cons_append, List.getLast?_append, List.getLast?_append]
    refine if_neg fun same => apart ?_
    rw [show a = b from Option.some.inj same, List.concat_eq_append, List.map_append]
    exact List.mem_append_right _ (List.mem_singleton.mpr rfl)

/-- **A get** delivers the first message, or changes nothing. -/
theorem getMsg_spec (inv : Inv q (m :: rest)) (bufSize : Nat) : if bufSize < m.length then
    q.getMsg bufSize = .ok (q, -1, []) else
    ∃ q', q.getMsg bufSize = .ok (q', m.length, m) ∧ Inv q' rest := by
  obtain ⟨l, holds, values, tail⟩ := inv.holds
  cases l with
  | nil => cases values
  | cons c l =>
      obtain ⟨a, v⟩ := c
      obtain ⟨first, others⟩ := List.cons.inj values
      cases first
      obtain ⟨next, here, -, freed⟩ := holds.pop
      have head := holds.head_eq
      have read : q.heap.read a = pure ⟨⟨m, m.length⟩, next⟩ := Heap.read_eq here
      have ran : q.getMsg bufSize = if bufSize < m.length then .ok (q, -1, []) else
          .ok (⟨q.heap.free a, next, if q.head = q.tail then none else q.tail, q.msgsInQueue - 1⟩,
            m.length, m) := by
        rw [Linked.getMsg, head]
        show (q.heap.read a >>= _) = _
        rw [read, pure_bind]
        dsimp only
        rw [List.take_length]
        rfl
      rw [ran]
      split
      · rfl
      · refine ⟨_, rfl, ⟨l, freed, others, tail_pop holds tail⟩, ?_⟩
        · show q.msgsInQueue - 1 = rest.length
          rw [inv.count, List.length_cons]
          omega

theorem getMsg_nil (inv : Inv q []) : q.getMsg bufSize = .ok (q, 0, []) := by
  obtain ⟨l, holds, values, -⟩ := inv.holds
  rw [List.map_nil, List.map_eq_nil_iff] at values
  subst values
  rw [Linked.getMsg, Heap.holds_nil.mp holds]
  rfl

/-- A put that does what it should. -/
theorem delivers_putMsg {result : Int} {pending' : List (List UInt8)}
    (ran : q.putMsg newMsg buf = .ok (q', result))
    (same : (if result = 0 then pending ++ [buf] else pending) = pending') (inv' : Inv q' pending') :
    Delivers q pending (.putMsg newMsg buf :: calls) ↔ Delivers q' pending' calls := by
  constructor
  · rintro ⟨q'', result', ran', -, -, rest⟩
    cases ran.symm.trans ran'
    rwa [same] at rest
  · intro rest
    refine ⟨q', result, ran, ?_⟩
    rw [same]
    exact ⟨inv'.stores, inv'.count, rest⟩

/-- **A sequence of calls** delivers what it accepts exactly where every size that is put fits a
message object or is refused. -/
theorem delivers_iff_of_inv (inv : Inv q pending) (allocates : Allocates q calls) :
    Delivers q pending calls ↔ ∀ newMsg buf, .putMsg newMsg buf ∈ calls → Fits buf.length := by
  induction calls generalizing q pending with
  | nil => exact iff_of_true trivial fun _ _ mem => absurd mem List.not_mem_nil
  | cons call calls ih =>
      cases call with
      | putMsg newMsg buf =>
          obtain ⟨free, allocates⟩ := allocates
          have split : (∀ n b, .putMsg n b ∈ Call.putMsg newMsg buf :: calls → Fits b.length) ↔
              Fits buf.length ∧ ∀ n b, .putMsg n b ∈ calls → Fits b.length := by
            constructor
            · exact fun all => ⟨all _ _ List.mem_cons_self,
                fun n b mem => all n b (List.mem_cons_of_mem _ mem)⟩
            · rintro ⟨first, others⟩ n b mem
              rcases List.mem_cons.mp mem with same | mem
              · cases same
                exact first
              · exact others n b mem
          rw [split]
          by_cases fits : buf.length ≤ MAX_SPA1_MSG_SIZE
          · obtain ⟨q', ran, inv'⟩ := putMsg_fits inv free fits
            rw [delivers_putMsg ran (if_pos rfl) inv', ih inv' (allocates q' 0 ran)]
            exact (and_iff_right (.inl fits)).symm
          by_cases large : BUFSIZE < buf.length
          · have ran : q.putMsg newMsg buf = .ok (q, -1) := putMsg_refused large
            rw [delivers_putMsg ran (if_neg (by decide)) inv, ih inv (allocates q (-1) ran)]
            exact (and_iff_right (.inr large)).symm
          · refine iff_of_false ?_ fun all => all.1.elim fits large
            rintro ⟨q', result, ran, stores, -⟩
            obtain ⟨rfl, lost⟩ := putMsg_large inv free (Nat.not_lt.mp large)
              (Nat.not_le.mp fits) ran
            exact lost stores
      | getMsg bufSize =>
          have split : (∀ n b, .putMsg n b ∈ Call.getMsg bufSize :: calls → Fits b.length) ↔
              ∀ n b, .putMsg n b ∈ calls → Fits b.length := by
            constructor
            · exact fun all n b mem => all n b (List.mem_cons_of_mem _ mem)
            · exact fun all n b mem => all n b ((List.mem_cons.mp mem).resolve_left nofun)
          rw [split]
          cases pending with
          | nil =>
              have ran : q.getMsg bufSize = .ok (q, 0, []) := getMsg_nil inv
              rw [← ih inv (allocates q 0 [] ran)]
              exact and_iff_right ran
          | cons m rest =>
              have spec := getMsg_spec inv bufSize
              rw [Delivers]
              split at spec
              · rename_i small
                rw [if_pos small, ← ih inv (allocates q (-1) [] spec)]
                exact and_iff_right spec
              · rename_i room
                obtain ⟨q', ran, inv'⟩ := spec
                rw [if_neg room, ← ih inv' (allocates q' m.length m ran)]
                constructor
                · rintro ⟨q'', ran', -, -, delivers⟩
                  cases ran.symm.trans ran'
                  exact delivers
                · exact fun delivers => ⟨q', ran, inv'.stores, inv'.count, delivers⟩

/-- **A new queue** delivers what it accepts exactly where every size that is put fits a message
object or is refused. -/
theorem calls_deliver_iff (heap : Heap Spa1Msg) (allocates : Allocates (.new heap) calls) :
    Delivers (.new heap) [] calls ↔ ∀ newMsg buf, .putMsg newMsg buf ∈ calls → Fits buf.length :=
  delivers_iff_of_inv (inv_new heap) allocates

/-- A message of two bytes comes out as it went in. -/
theorem delivers_two_bytes :
    Delivers (.new fun _ => none) [] [.putMsg 0 [1, 2], .getMsg 1, .getMsg 256] := by
  have allocates : Allocates (.new fun _ => none) [.putMsg 0 [1, 2], .getMsg 1, .getMsg 256] :=
    ⟨rfl, fun _ _ _ _ _ _ _ _ _ _ _ => trivial⟩
  refine (calls_deliver_iff _ allocates).mpr fun newMsg buf mem => ?_
  simp only [List.mem_cons, List.not_mem_nil, or_false, Call.putMsg.injEq, reduceCtorEq] at mem
  rw [mem.2]
  exact .inl (by decide)

/-- A message of 257 bytes is accepted, and one byte of it is lost. -/
theorem not_delivers :
    ¬ Delivers (.new fun _ => none) [] [.putMsg 0 (List.replicate 257 1)] := by
  intro delivers
  have allocates : Allocates (.new fun _ => none) [.putMsg 0 (List.replicate 257 1)] :=
    ⟨rfl, fun _ _ _ => trivial⟩
  have fits := (delivers_iff_of_inv (inv_new _) allocates).mp delivers _ _ List.mem_cons_self
  rw [Fits, List.length_replicate] at fits
  exact absurd fits (by decide)

end Calls

end Spa1Queue

end Sdm
