import Sdm.Common.Queues

/-!
The suppression of repeated `SDMHello` messages.

The listeners of the Data Manager put a component into a registration queue when `find` does not
report it there, and the registration thread takes components out. `find` goes over the places
between the indexes; where the indexes have wrapped it also looks at the last place of the array,
that no component is ever put into.

* `Ring`: what the places between the indexes hold, as long as no step has lost the count.
* `find_exact_iff`: `find` reports the components that wait, and no others, in every state of a run
  exactly when no step loses the queue or exposes the last place.
-/

namespace Sdm

open Lib

namespace HelloQueue

/-- What reaches a registration queue. -/
inductive Call where
  | hello (newReg : SDMComponentID)
  | dequeue
  deriving DecidableEq, Repr

/-- The queue, with the components that were accepted and not dequeued since. -/
abbrev State := SDMRegQueue × List SDMComponentID

/-- A listener gets a `SDMHello`, or the registration thread takes a component. -/
def handle (s : State) : Call → State
  | .hello newReg =>
      if s.1.find newReg then s
      else (s.1.add newReg, if s.1.isFull then s.2 else newReg :: s.2)
  | .dequeue =>
      match IndexQueue.dequeue s.1 with
      | (none, _) => s
      | (some item, rest) => (rest, s.2.filter (· ≠ item))

/-- A new queue. -/
def start : State := (IndexQueue.new fun _ => .zero, [])

/-- `find` reports the components that wait, among those it may be asked about. -/
def Exact (asked : SDMComponentID → Prop) (s : State) : Prop :=
  ∀ id, asked id → (s.1.find id = true ↔ id ∈ s.2)

/-- The step leaves a queue whose indexes tell a full one from an empty one the wrong way round: a
component is added behind the last place with the head next to the first, or the last component
is taken out. -/
def Loses (s : State) : Call → Prop
  | .hello newReg =>
      s.1.find newReg = false ∧ s.1.tailIndex = SIZE - 1 ∧ s.1.headIndex = 1
  | .dequeue => s.1.headIndex = SIZE - 2 ∧ s.1.tailIndex = SIZE - 1

/-- The step leaves a queue whose indexes have wrapped, and the empty identifier does not wait in
it. -/
def Exposes (s : State) : Call → Prop
  | .hello newReg =>
      s.1.find newReg = false ∧ s.1.tailIndex = SIZE - 1 ∧ newReg ≠ .zero ∧ s.1.find .zero = false
  | .dequeue =>
      s.1.tailIndex < s.1.headIndex ∧ s.1.headIndex ≠ SIZE - 2 ∧ s.1.front = .zero

variable {s : State} {q : SDMRegQueue} {asked : SDMComponentID → Prop} {id newReg : SDMComponentID}
  {call : Call} {i : Fin SIZE}

/-! ### The places in use -/

/-- The place is between the indexes. -/
def Cell (q : SDMRegQueue) (i : Fin SIZE) : Prop :=
  if q.headIndex ≤ q.tailIndex then q.headIndex ≤ i.val ∧ i.val < q.tailIndex
  else (q.headIndex ≤ i.val ∧ i.val < SIZE - 1) ∨ i.val < q.tailIndex

/-- The place that no component is put into. -/
def lastPlace : Fin SIZE := ⟨SIZE - 1, by decide⟩

theorem holdsBetween_iff {low high : Nat} :
    q.holdsBetween low high id = true ↔
      ∃ i : Fin SIZE, (low ≤ i.val ∧ i.val < high) ∧ q.queue i = id := by
  rw [IndexQueue.holdsBetween, List.any_eq_true]
  constructor
  · rintro ⟨i, -, holds⟩
    obtain ⟨above, below, same⟩ := of_decide_eq_true holds
    exact ⟨i, ⟨above, below⟩, same⟩
  · rintro ⟨i, ⟨above, below⟩, same⟩
    exact ⟨i, List.mem_finRange i, decide_eq_true ⟨above, below, same⟩⟩

/-- `find` goes over the places in use, and over the last one where the indexes have wrapped. -/
theorem find_iff : q.find id = true ↔
    (∃ i, Cell q i ∧ q.queue i = id) ∨
      q.tailIndex < q.headIndex ∧ q.queue lastPlace = id := by
  have within (i : Fin SIZE) : i.val < SIZE := i.isLt
  unfold IndexQueue.find
  split_ifs with straight wrapped
  · rw [holdsBetween_iff]
    simp only [Cell, if_pos straight.le, Nat.not_lt_of_lt straight, false_and, or_false]
  · have not : ¬ q.headIndex ≤ q.tailIndex := Nat.not_le_of_lt wrapped
    rw [Bool.or_eq_true, holdsBetween_iff, holdsBetween_iff]
    simp only [Cell, if_neg not, wrapped, true_and]
    constructor
    · rintro (⟨i, ⟨above, -⟩, same⟩ | ⟨i, ⟨-, below⟩, same⟩)
      · by_cases last : i.val = SIZE - 1
        · have here : i = lastPlace := Fin.ext last
          exact .inr (here ▸ same)
        · exact .inl ⟨i, .inl ⟨above, by have := within i; unfold SIZE at *; omega⟩, same⟩
      · exact .inl ⟨i, .inr below, same⟩
    · rintro (⟨i, ⟨above, -⟩ | below, same⟩ | same)
      · exact .inl ⟨i, ⟨above, within i⟩, same⟩
      · exact .inr ⟨i, ⟨Nat.zero_le _, below⟩, same⟩
      · exact .inl ⟨lastPlace, ⟨q.head_lt.le, lastPlace.isLt⟩, same⟩
  · have same : q.headIndex = q.tailIndex := by omega
    refine iff_of_false (by simp) ?_
    rintro (⟨i, cell, -⟩ | ⟨wrapped, -⟩)
    · rw [Cell, if_pos same.le] at cell
      omega
    · omega

/-- The place that the next component is put into. -/
def nextPlace (q : SDMRegQueue) : Fin SIZE := ⟨q.place, Nat.lt_of_succ_lt q.place_lt⟩

/-- The place of the component at the head. -/
def headPlace (q : SDMRegQueue) : Fin SIZE :=
  ⟨q.headIndex, Nat.lt_of_lt_of_le q.head_lt (Nat.sub_le _ _)⟩

/-- The place of the next component is free, and is in use after it. -/
theorem cell_insert (newReg : SDMComponentID) (room : q.isFull = false)
    (apart : ¬ (q.headIndex = 0 ∧ q.tailIndex = SIZE - 1))
    (kept : ¬ (q.tailIndex = SIZE - 1 ∧ q.headIndex = 1)) :
    ¬ Cell q (nextPlace q) ∧ ∀ i, Cell (q.insert newReg) i ↔ Cell q i ∨ i = nextPlace q := by
  have head := q.head_lt
  have tail := q.tail_lt
  simp only [IndexQueue.isFull, Bool.or_eq_false_iff, Bool.and_eq_false_iff,
    decide_eq_false_iff_not] at room
  simp only [Cell, Fin.ext_iff, nextPlace, IndexQueue.insert, IndexQueue.place]
  unfold SIZE at *
  constructor
  · split_ifs <;> omega
  · intro i
    split_ifs <;> omega

/-- The place at the head is in use, and is free when the head has moved on. -/
theorem cell_advance (nonempty : q.headIndex ≠ q.tailIndex)
    (kept : ¬ (q.headIndex = SIZE - 2 ∧ q.tailIndex = SIZE - 1)) :
    ¬ Cell q.advance (headPlace q) ∧ ∀ i, Cell q i ↔ i = headPlace q ∨ Cell q.advance i := by
  have head := q.head_lt
  have tail := q.tail_lt
  simp only [Cell, Fin.ext_iff, headPlace, IndexQueue.advance, IndexQueue.nextHead]
  unfold SIZE at *
  constructor
  · split_ifs <;> omega
  · intro i
    split_ifs <;> omega

/-! ### Rings -/

/-- The places between the indexes hold the components that wait, each once. -/
structure Ring (asked : SDMComponentID → Prop) (s : State) : Prop where
  waits : ∀ id, id ∈ s.2 ↔ ∃ i, Cell s.1 i ∧ s.1.queue i = id
  once : ∀ i j, Cell s.1 i → Cell s.1 j → s.1.queue i = s.1.queue j → i = j
  apart : ¬ (s.1.headIndex = 0 ∧ s.1.tailIndex = SIZE - 1)
  last : s.1.queue lastPlace = .zero
  within : ∀ id ∈ s.2, asked id

theorem ring_start : Ring asked start where
  waits id := iff_of_false List.not_mem_nil fun ⟨i, cell, _⟩ => Nat.not_lt_zero i.val cell.2
  once i _ cell := absurd cell.2 (Nat.not_lt_zero i.val)
  apart both := absurd both.2 (by decide)
  last := rfl
  within _ mem := absurd mem List.not_mem_nil

/-- Besides the components that wait, `find` reports the empty identifier where the indexes have
wrapped. -/
theorem Ring.find_iff (ring : Ring asked s) : s.1.find id = true ↔
    id ∈ s.2 ∨ s.1.tailIndex < s.1.headIndex ∧ id = .zero := by
  rw [HelloQueue.find_iff, ring.waits, ring.last, eq_comm (a := id)]

/-- `find` is exact where the last place is not looked at, or an empty identifier waits. -/
theorem Ring.exact_iff (ring : Ring asked s) : Exact asked s ↔
    (asked .zero → s.1.tailIndex < s.1.headIndex → .zero ∈ s.2) := by
  constructor
  · intro exactly empty wrapped
    exact (exactly .zero empty).mp (ring.find_iff.mpr (.inr ⟨wrapped, rfl⟩))
  · intro waits id ask
    rw [ring.find_iff, or_iff_left_iff_imp]
    rintro ⟨wrapped, rfl⟩
    exact waits ask wrapped

/-- A component is added that does not wait. -/
theorem Ring.insert (ring : Ring asked s) (room : s.1.isFull = false) (ask : asked newReg)
    (new : newReg ∉ s.2) (kept : ¬ (s.1.tailIndex = SIZE - 1 ∧ s.1.headIndex = 1)) :
    Ring asked (s.1.insert newReg, newReg :: s.2) := by
  obtain ⟨free, cells⟩ := cell_insert newReg room ring.apart kept
  have here : (s.1.insert newReg).queue (nextPlace s.1) = newReg := Function.update_self ..
  have there (i : Fin SIZE) (cell : Cell s.1 i) :
      (s.1.insert newReg).queue i = s.1.queue i := by
    refine Function.update_of_ne ?_ ..
    rintro rfl
    exact free cell
  have other (i : Fin SIZE) (cell : Cell s.1 i) : s.1.queue i ≠ newReg := by
    rintro rfl
    exact new ((ring.waits _).mpr ⟨i, cell, rfl⟩)
  constructor
  case waits =>
    intro id
    rw [List.mem_cons, ring.waits]
    constructor
    · rintro (rfl | ⟨i, cell, rfl⟩)
      · exact ⟨nextPlace s.1, (cells _).mpr (.inr rfl), here⟩
      · exact ⟨i, (cells i).mpr (.inl cell), there i cell⟩
    · rintro ⟨i, cell, rfl⟩
      obtain old | rfl := (cells i).mp cell
      · exact .inr ⟨i, old, (there i old).symm⟩
      · exact .inl here
  case once =>
    intro i j cell cell' same
    obtain old | rfl := (cells i).mp cell <;> obtain old' | rfl := (cells j).mp cell'
    · exact ring.once i j old old' (by rwa [there i old, there j old'] at same)
    · rw [there i old, here] at same
      exact absurd same (other i old)
    · rw [there j old', here] at same
      exact absurd same.symm (other j old')
    · rfl
  case apart =>
    rintro ⟨first, last⟩
    have place : s.1.place + 1 = SIZE - 1 := last
    have head : s.1.headIndex = 0 := first
    have apart := ring.apart
    simp only [IndexQueue.isFull, Bool.or_eq_false_iff, Bool.and_eq_false_iff,
      decide_eq_false_iff_not] at room
    unfold IndexQueue.place SIZE at *
    split_ifs at place <;> omega
  case last =>
    have notLast : lastPlace ≠ nextPlace s.1 := fun same => by
      have place : SIZE - 1 = s.1.place := congrArg Fin.val same
      have lt := s.1.place_lt
      omega
    exact (Function.update_of_ne notLast ..).trans ring.last
  case within =>
    intro id mem
    obtain rfl | mem := List.mem_cons.mp mem
    · exact ask
    · exact ring.within id mem

/-- The component at the head is taken out. -/
theorem Ring.advance (ring : Ring asked s) (nonempty : s.1.headIndex ≠ s.1.tailIndex)
    (kept : ¬ (s.1.headIndex = SIZE - 2 ∧ s.1.tailIndex = SIZE - 1)) :
    Ring asked (s.1.advance, s.2.filter (· ≠ s.1.front)) := by
  obtain ⟨freed, cells⟩ := cell_advance nonempty kept
  have old (i : Fin SIZE) (cell : Cell s.1.advance i) : Cell s.1 i := (cells i).mpr (.inr cell)
  have first : Cell s.1 (headPlace s.1) := (cells _).mpr (.inl rfl)
  constructor
  case waits =>
    intro id
    rw [List.mem_filter, ring.waits, decide_eq_true_eq]
    constructor
    · rintro ⟨⟨i, cell, rfl⟩, notFront⟩
      obtain rfl | cell := (cells i).mp cell
      · exact absurd rfl notFront
      · exact ⟨i, cell, rfl⟩
    · rintro ⟨i, cell, rfl⟩
      refine ⟨⟨i, old i cell, rfl⟩, fun same => freed ?_⟩
      exact ring.once i (headPlace s.1) (old i cell) first same ▸ cell
  case once =>
    exact fun i j cell cell' => ring.once i j (old i cell) (old j cell')
  case apart =>
    rintro ⟨head, tail⟩
    have wraps : s.1.nextHead = 0 := head
    have last : s.1.tailIndex = SIZE - 1 := tail
    have lt := s.1.head_lt
    unfold IndexQueue.nextHead SIZE at *
    split_ifs at wraps
    omega
  case last => exact ring.last
  case within => exact fun id mem => ring.within id (List.mem_filter.mp mem).1

/-! ### Steps -/

theorem handle_hello_found (found : s.1.find newReg = true) : handle s (.hello newReg) = s :=
  if_pos found

theorem handle_hello_full (new : s.1.find newReg = false) (full : s.1.isFull = true) :
    handle s (.hello newReg) = s := by
  rw [handle, new, if_neg Bool.false_ne_true, IndexQueue.add, if_pos full, if_pos full]

theorem handle_hello (new : s.1.find newReg = false) (room : s.1.isFull = false) :
    handle s (.hello newReg) = (s.1.insert newReg, newReg :: s.2) := by
  rw [handle, new, if_neg Bool.false_ne_true, IndexQueue.add, room, if_neg Bool.false_ne_true,
    if_neg Bool.false_ne_true]

theorem handle_dequeue_empty (empty : s.1.headIndex = s.1.tailIndex) :
    handle s .dequeue = s := by
  rw [handle, IndexQueue.dequeue, if_pos empty]

theorem handle_dequeue (nonempty : s.1.headIndex ≠ s.1.tailIndex) :
    handle s .dequeue = (s.1.advance, s.2.filter (· ≠ s.1.front)) := by
  rw [handle, IndexQueue.dequeue, if_neg nonempty]

/-- Behind the last place there always seems to be room. -/
theorem isFull_of_last (last : q.tailIndex = SIZE - 1) : q.isFull = false := by
  have head := q.head_lt
  unfold IndexQueue.isFull SIZE at *
  simp only [Bool.or_eq_false_iff, Bool.and_eq_false_iff, decide_eq_false_iff_not]
  omega

/-- What is looked at of the last place and of the components that wait. -/
structure Sound (asked : SDMComponentID → Prop) (s : State) : Prop extends Ring asked s where
  exactly : Exact asked s

/-- The ids that a message brings. -/
def Call.Brings (asked : SDMComponentID → Prop) : Call → Prop
  | .hello newReg => asked newReg
  | .dequeue => True

theorem sound_start : Sound asked start :=
  ⟨ring_start, ring_start.exact_iff.mpr fun _ wrapped => absurd wrapped (Nat.not_lt_zero _)⟩

/-- A step that does not lose or expose keeps the queue sound. -/
theorem Sound.next (sound : Sound asked s) (brings : call.Brings asked) (keeps : ¬ Loses s call)
    (hides : asked .zero → ¬ Exposes s call) : Sound asked (handle s call) := by
  have waits := sound.exact_iff.mp sound.exactly
  cases call with
  | hello newReg =>
      cases found : s.1.find newReg with
      | true =>
          rw [handle_hello_found found]
          exact sound
      | false =>
          cases full : s.1.isFull with
          | true =>
              rw [handle_hello_full found full]
              exact sound
          | false =>
              have new : newReg ∉ s.2 := fun mem =>
                Bool.false_ne_true (found.symm.trans ((sound.exactly newReg brings).mpr mem))
              have ring := sound.insert full brings new fun last => keeps ⟨found, last⟩
              rw [handle_hello found full]
              refine ⟨ring, ring.exact_iff.mpr fun ask wrapped => ?_⟩
              by_cases empty : newReg = .zero
              · exact List.mem_cons.mpr (.inl empty.symm)
              refine List.mem_cons_of_mem newReg ?_
              by_cases last : s.1.tailIndex = SIZE - 1
              · rw [← sound.exactly .zero ask]
                by_contra hidden
                exact hides ask ⟨found, last, empty, Bool.eq_false_iff.mpr hidden⟩
              · have place : s.1.place + 1 < s.1.headIndex := wrapped
                rw [IndexQueue.place, if_neg last] at place
                exact waits ask (Nat.lt_of_succ_lt place)
  | dequeue =>
      by_cases empty : s.1.headIndex = s.1.tailIndex
      · rw [handle_dequeue_empty empty]
        exact sound
      · have ring := sound.advance empty keeps
        rw [handle_dequeue empty]
        refine ⟨ring, ring.exact_iff.mpr fun ask wrapped => ?_⟩
        have ahead : s.1.tailIndex < s.1.nextHead := wrapped
        have before : s.1.tailIndex < s.1.headIndex ∧ s.1.headIndex ≠ SIZE - 2 := by
          have apart := sound.apart
          unfold IndexQueue.nextHead SIZE at *
          split_ifs at ahead <;> omega
        refine List.mem_filter.mpr ⟨waits ask before.1, decide_eq_true fun front => ?_⟩
        exact hides ask ⟨before.1, before.2, front.symm⟩

/-- A step that loses makes `find` wrong. -/
theorem Sound.not_exact_of_loses (sound : Sound asked s) (brings : call.Brings asked)
    (loses : Loses s call) : ¬ Exact asked (handle s call) := by
  intro exactly
  cases call with
  | hello newReg =>
      obtain ⟨new, last, head⟩ := loses
      rw [handle_hello new (isFull_of_last last)] at exactly
      have found := (exactly newReg brings).mpr List.mem_cons_self
      have tail : (s.1.insert newReg).tailIndex = 1 := congrArg (· + 1) (if_pos last)
      have same : (s.1.insert newReg).headIndex = 1 := head
      rw [IndexQueue.find, same, tail] at found
      cases found
  | dequeue =>
      obtain ⟨head, last⟩ := loses
      have nonempty : s.1.headIndex ≠ s.1.tailIndex := by
        rw [head, last]
        decide
      have cell : Cell s.1 (headPlace s.1) := by
        have at_head : (headPlace s.1).val = s.1.headIndex := rfl
        rw [Cell, at_head]
        unfold SIZE at *
        split_ifs <;> omega
      have waits : s.1.front ∈ s.2 := (sound.waits _).mpr ⟨_, cell, rfl⟩
      rw [handle_dequeue nonempty] at exactly
      have wrapped : s.1.advance.headIndex = 0 := by
        show s.1.nextHead = 0
        rw [IndexQueue.nextHead, head]
        rfl
      have tail : s.1.advance.tailIndex = SIZE - 1 := last
      have found : s.1.advance.find s.1.front = true := by
        refine HelloQueue.find_iff.mpr (.inl ⟨headPlace s.1, ?_, rfl⟩)
        have at_head : (headPlace s.1).val = s.1.headIndex := rfl
        rw [Cell, wrapped, tail, at_head, head]
        decide
      have mem := (exactly _ (sound.within _ waits)).mp found
      exact of_decide_eq_true (List.mem_filter.mp mem).2 rfl

/-- A step that exposes the last place makes `find` wrong for the empty identifier. -/
theorem Sound.not_exact_of_exposes (sound : Sound asked s) (brings : call.Brings asked)
    (keeps : ¬ Loses s call) (ask : asked .zero) (exposes : Exposes s call) :
    ¬ Exact asked (handle s call) := by
  intro exactly
  cases call with
  | hello newReg =>
      obtain ⟨new, last, empty, hidden⟩ := exposes
      have room := isFull_of_last last
      have notWaits : .zero ∉ s.2 := fun mem =>
        Bool.false_ne_true (hidden.symm.trans ((sound.exactly .zero ask).mpr mem))
      have fresh : newReg ∉ s.2 := fun mem =>
        Bool.false_ne_true (new.symm.trans ((sound.exactly newReg brings).mpr mem))
      have ring := sound.insert room brings fresh fun both => keeps ⟨new, both⟩
      rw [handle_hello new room] at exactly
      have tail : (s.1.insert newReg).tailIndex = 1 := congrArg (· + 1) (if_pos last)
      have wrapped : (s.1.insert newReg).tailIndex < (s.1.insert newReg).headIndex := by
        have head : (s.1.insert newReg).headIndex = s.1.headIndex := rfl
        have apart := sound.apart
        have notFirst : s.1.headIndex ≠ 1 := fun first => keeps ⟨new, last, first⟩
        rw [tail, head]
        omega
      obtain same | mem := List.mem_cons.mp (ring.exact_iff.mp exactly ask wrapped)
      · exact empty same.symm
      · exact notWaits mem
  | dequeue =>
      obtain ⟨wrapped, notEnd, front⟩ := exposes
      have nonempty : s.1.headIndex ≠ s.1.tailIndex := (Nat.ne_of_lt wrapped).symm
      have ring := sound.advance nonempty keeps
      rw [handle_dequeue nonempty] at exactly
      have still : s.1.advance.tailIndex < s.1.advance.headIndex := by
        have head : s.1.advance.headIndex = s.1.nextHead := rfl
        have tail : s.1.advance.tailIndex = s.1.tailIndex := rfl
        have lt := s.1.head_lt
        rw [head, tail, IndexQueue.nextHead]
        unfold SIZE at *
        split_ifs <;> omega
      have mem := ring.exact_iff.mp exactly ask still
      exact of_decide_eq_true (List.mem_filter.mp mem).2 front.symm

/-! ### Runs -/

/-- A sequence of messages and dequeues. -/
def run (calls : List Call) : State := calls.foldl handle start

/-- The result for any set of identifiers that `find` is asked about. -/
theorem exact_iff (asked : SDMComponentID → Prop) (calls : List Call)
    (brings : ∀ call ∈ calls, call.Brings asked) :
    (∀ done, done <+: calls → Exact asked (run done)) ↔
      ∀ done call, done ++ [call] <+: calls →
        ¬ Loses (run done) call ∧ (asked .zero → ¬ Exposes (run done) call) :=
  Machine.prefixes_iff (I := Sound asked)
    (G := fun s call => ¬ Loses s call ∧ (asked .zero → ¬ Exposes s call))
    sound_start (fun _ sound => sound.exactly)
    (fun _ call mem sound keeps => sound.next (brings call mem) keeps.1 keeps.2)
    (fun s call mem sound fails => by
      by_cases loses : Loses s call
      · exact sound.not_exact_of_loses (brings call mem) loses
      · have exposes : asked .zero ∧ Exposes s call := by
          by_contra hidden
          exact fails ⟨loses, fun ask exposes => hidden ⟨ask, exposes⟩⟩
        exact sound.not_exact_of_exposes (brings call mem) loses exposes.1 exposes.2)

/-- **Suppression of repeated messages.** `find` reports exactly the components that wait, in every
state of a run, exactly when no step loses the queue or exposes its last place; of components whose
identifiers are not empty, exactly when no step loses the queue. -/
theorem find_exact_iff (calls : List Call) :
    ((∀ done, done <+: calls → ∀ id, (run done).1.find id = true ↔ id ∈ (run done).2) ↔
      ∀ done call, done ++ [call] <+: calls →
        ¬ Loses (run done) call ∧ ¬ Exposes (run done) call) ∧
    ((∀ newReg, .hello newReg ∈ calls → newReg ≠ .zero) →
      ((∀ done, done <+: calls → ∀ id, id ≠ .zero →
          ((run done).1.find id = true ↔ id ∈ (run done).2)) ↔
        ∀ done call, done ++ [call] <+: calls → ¬ Loses (run done) call)) := by
  constructor
  · have all := exact_iff (fun _ => True) calls fun call _ => by
      cases call <;> trivial
    simpa only [Exact, true_imp_iff] using all
  · intro named
    have nonempty := exact_iff (· ≠ .zero) calls fun call mem => by
      cases call with
      | hello newReg => exact named newReg mem
      | dequeue => trivial
    simpa only [Exact, ne_eq, not_true_eq_false, false_imp_iff, and_true] using nonempty

/-- A component says hello and is taken out, `n` times. -/
def rounds (newReg : SDMComponentID) : Nat → List Call
  | 0 => []
  | n + 1 => .hello newReg :: .dequeue :: rounds newReg n

/-- After 99 rounds with a component that has been served each time, `find` still reports it. -/
theorem served_still_found :
    ¬ ∀ (calls : List Call) (id : SDMComponentID),
      (run calls).1.find id = true ↔ id ∈ (run calls).2 := by
  intro exactly
  have found : (run (rounds ⟨1, 1, 5000⟩ 99)).1.find ⟨1, 1, 5000⟩ = true := by decide +kernel
  have waits := (exactly (rounds ⟨1, 1, 5000⟩ 99) ⟨1, 1, 5000⟩).mp found
  exact absurd waits (by decide +kernel)

end HelloQueue

end Sdm
