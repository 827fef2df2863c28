import Mathlib.Data.Finset.Card
import Sdm.DM.LockedHandlers
import Sdm.DM.NamedDocument

/-!
The broadcast of a time at tone to the Sensor Managers (`TAT`, for the sensor id 0).

The loop over the hubs keeps the addresses that it has sent to in an array of fixed size.

* `newAddresses`: the addresses that the loop adds to those it has sent to.
* `run_tatToHubs`: what the loop does when there is room for them, and that it leaves the array
  when there is not.
* `broadcastsOnce_iff`: every address of a hub is sent to once exactly when there are no more of
  them than the array has places.
-/

namespace Sdm

open Lib LockProgram

namespace TimeAtTone

variable {τ : Type} {msg : SDMTat} {s : Shared τ} {locks : Lock → Sem} {a : XTEDSLibrary τ}
  {k : Nat} {ks : List Nat} {slots : List (XTEDSLibrary τ)} {sentips : List UInt32}
  {address : UInt32} {α : Type}

/-- The addresses of the slots with hub type `DEVICE`. -/
def hubAddresses (l : XTEDSLibraryList τ) : List UInt32 :=
  (l.filter fun a => decide (a.hub = .DEVICE)).map fun a => a.id.address

/-- The message to the Sensor Manager at an address. -/
def tatTo (msg : SDMTat) (address : UInt32) : Sent := .tat ⟨0, address, PORT_SM⟩ msg

/-- The addresses of hubs in these slots that are not among those sent to, each once. -/
def newAddresses : List UInt32 → List (XTEDSLibrary τ) → List UInt32
  | _, [] => []
  | sentips, a :: slots =>
      if a.hub = .DEVICE ∧ a.id.address ∉ sentips then
        a.id.address :: newAddresses (sentips ++ [a.id.address]) slots
      else newAddresses sentips slots

/-! ### The addresses -/

/-- No address is sent to twice. -/
theorem nodup_newAddresses (nodup : sentips.Nodup) :
    (sentips ++ newAddresses sentips slots).Nodup := by
  induction slots generalizing sentips with
  | nil => rwa [newAddresses, List.append_nil]
  | cons a slots ih =>
      rw [newAddresses]
      split
      case isTrue new =>
        have longer : (sentips ++ [a.id.address]).Nodup := by
          simpa using nodup.concat new.2
        have rest := ih longer
        rwa [List.append_assoc] at rest
      case isFalse => exact ih nodup

/-- Every address of a hub is sent to, and no other. -/
theorem mem_newAddresses (address : UInt32) (sentips : List UInt32)
    (slots : List (XTEDSLibrary τ)) : address ∈ sentips ++ newAddresses sentips slots ↔
    address ∈ sentips ∨ address ∈ hubAddresses slots := by
  induction slots generalizing sentips with
  | nil => simp [newAddresses, hubAddresses]
  | cons a slots ih =>
      by_cases hub : a.hub = .DEVICE
      · have addresses : hubAddresses (a :: slots) = a.id.address :: hubAddresses slots := by
          simp [hubAddresses, hub]
        rw [newAddresses, addresses, List.mem_cons]
        split
        case isTrue new =>
          have step := ih (sentips ++ [a.id.address])
          rw [List.append_assoc, List.singleton_append] at step
          rw [step, List.mem_append, List.mem_singleton, or_assoc]
        case isFalse old =>
          have sent : a.id.address ∈ sentips := by
            by_contra new
            exact old ⟨hub, new⟩
          rw [ih]
          constructor
          · rintro (mem | mem)
            · exact .inl mem
            · exact .inr (.inr mem)
          · rintro (mem | rfl | mem)
            · exact .inl mem
            · exact .inl sent
            · exact .inr mem
      · have addresses : hubAddresses (a :: slots) = hubAddresses slots := by
          simp [hubAddresses, hub]
        rw [newAddresses, if_neg fun new => hub new.1, addresses]
        exact ih sentips

/-- From nothing sent to, there are as many as addresses of hubs. -/
theorem length_newAddresses :
    (newAddresses [] slots).length = (hubAddresses slots).toFinset.card := by
  have nodup : (newAddresses [] slots).Nodup := nodup_newAddresses List.nodup_nil
  have same : (newAddresses [] slots).toFinset = (hubAddresses slots).toFinset := by
    ext address
    simpa using mem_newAddresses address [] slots
  rw [← same, List.toFinset_card_of_nodup nodup]

/-! ### The loop -/

theorem run_slot (at_k : s.state.xTEDSList[k]? = some a)
    (f : XTEDSLibrary τ → DMProgram τ α) :
    (slot k >>= f).run locks s = (f a).run locks s := by
  show LockProgram.run ((require (s.state.xTEDSList[k]?) : DMProgram τ _).andThen f) locks s = _
  rw [at_k]
  rfl

theorem run_lock {i : Lock} {sem : Sem} (taken : (locks i).enter.pass = some sem)
    (f : Unit → DMProgram τ α) :
    (lock i >>= f).run locks s = (f ()).run (Function.update locks i sem) s := by
  show (LockProgram.wait i _).run locks s = _
  rw [LockProgram.run, taken]
  rfl

theorem run_unlock {i : Lock} (f : Unit → DMProgram τ α) :
    (unlock i >>= f).run locks s =
      (f ()).run (Function.update locks i (locks i).Signal) s := rfl

theorem run_send {m : Sent} (f : Unit → DMProgram τ α) :
    (send m >>= f).run locks s = (f ()).run locks { s with sent := s.sent ++ [m] } := rfl

/-- The lock of a slot is free. -/
def Free (locks : Lock → Sem) (k : Nat) : Prop :=
  ((locks (.inUse k)).enter.pass).isSome = true

/-- **The loop over the hubs**: it sends to the new addresses when there is room for all of them,
and leaves the array otherwise. -/
theorem run_tatToHubs
    (here : ks.map (fun k => s.state.xTEDSList[k]?) = slots.map some) (nodup : ks.Nodup)
    (free : ∀ k ∈ ks, Free locks k) (room : sentips.length ≤ xsize) :
    if (sentips ++ newAddresses sentips slots).length ≤ xsize then
      ∃ locks', (tatToHubs msg ks sentips).run locks s = (.finished (), locks',
        { s with sent := s.sent ++ (newAddresses sentips slots).map (tatTo msg) })
    else ((tatToHubs msg ks sentips).run locks s).1 = .crashed := by
  induction ks generalizing slots sentips s locks with
  | nil =>
      obtain rfl : slots = [] := List.map_eq_nil_iff.mp here.symm
      rw [newAddresses, List.append_nil, if_pos room, List.map_nil, List.append_nil]
      exact ⟨locks, rfl⟩
  | cons k ks ih =>
      obtain ⟨a, slots, rfl⟩ : ∃ a slots', slots = a :: slots' := by
        cases slots with
        | nil => cases here
        | cons a slots => exact ⟨a, slots, rfl⟩
      obtain ⟨at_k, here⟩ := List.cons.inj here
      obtain ⟨new, nodup⟩ := List.nodup_cons.mp nodup
      obtain ⟨sem, taken⟩ := Option.isSome_iff_exists.mp (free k List.mem_cons_self)
      have later {locks' : Lock → Sem} (kept : ∀ j ≠ k, locks' (.inUse j) = locks (.inUse j)) :
          ∀ j ∈ ks, Free locks' j := by
        intro j mem
        have other : j ≠ k := fun same => new (same ▸ mem)
        rw [Free, kept j other]
        exact free j (List.mem_cons_of_mem k mem)
      have apart {locks' : Lock → Sem} (sem : Sem) (j : Nat) (other : j ≠ k) :
          Function.update locks' (.inUse k) sem (.inUse j) = locks' (.inUse j) :=
        Function.update_of_ne (fun same => other (Lock.inUse.inj same)) ..
      rw [tatToHubs, run_lock taken, run_slot at_k]
      by_cases hub : a.hub = .DEVICE
      · rw [if_pos hub]
        by_cases old : a.id.address ∈ sentips
        · have addresses : newAddresses sentips (a :: slots) = newAddresses sentips slots :=
            if_neg fun both => both.2 old
          rw [addresses, if_pos old, run_unlock, run_unlock]
          -- the lock is released twice, which does not stop the loop
          exact ih here nodup (later fun j other => by
            rw [apart _ j other, apart _ j other, apart _ j other]) room
        · have addresses : newAddresses sentips (a :: slots) =
              a.id.address :: newAddresses (sentips ++ [a.id.address]) slots := if_pos ⟨hub, old⟩
          rw [addresses, if_neg old]
          by_cases full : sentips.length < xsize
          · have longer : (sentips ++ [a.id.address]).length ≤ xsize := by
              simpa [Nat.succ_le_iff] using full
            have onward (t : Shared τ) (same : t.state = s.state) (locks' : Lock → Sem)
                (kept : ∀ j ≠ k, locks' (.inUse j) = locks (.inUse j)) :=
              ih (s := t) (by rw [same]; exact here) nodup (later kept) longer
            have more := onward { s with sent := s.sent ++ [tatTo msg a.id.address] } rfl
              (Function.update (Function.update locks (.inUse k) sem) (.inUse k)
                (Function.update locks (.inUse k) sem (.inUse k)).Signal)
              fun j other => by rw [apart _ j other, apart _ j other]
            rw [List.append_assoc, List.singleton_append] at more
            rw [if_pos full, run_send, run_unlock]
            simpa [tatTo] using more
          · rw [if_neg full, if_neg]
            · rfl
            · rw [List.length_append, List.length_cons]
              omega
      · have addresses : newAddresses sentips (a :: slots) = newAddresses sentips slots :=
          if_neg fun both => hub both.1
        rw [addresses, if_neg hub, run_unlock]
        exact ih here nodup (later fun j other => by rw [apart _ j other, apart _ j other]) room

/-! ### The broadcast -/

/-- The handler ends, and has sent the message once to each address of a hub, and nothing else. -/
def BroadcastsOnce (msg : SDMTat) (locks : Lock → Sem) (s : Shared τ) : Prop :=
  ∃ locks' sent, (TAT (some msg)).run locks s =
      (.finished (), locks', { s with sent := s.sent ++ sent }) ∧
    (∀ m ∈ sent, ∃ address ∈ hubAddresses s.state.xTEDSList, m = tatTo msg address) ∧
    ∀ address ∈ hubAddresses s.state.xTEDSList, sent.count (tatTo msg address) = 1

theorem tatTo_injective : Function.Injective (tatTo msg) := by
  intro address address' same
  exact congrArg SDMComponentID.address (Sent.tat.inj same).1

/-- The handler sends to each address of a hub when there is room, and leaves the array when there
is not. -/
theorem run_TAT (all : msg.destination.sensorID = 0) (locks : Lock → Sem) (s : Shared τ)
    (free : ∀ k < s.state.xTEDSList.length, Free locks k) :
    if (hubAddresses s.state.xTEDSList).toFinset.card ≤ xsize then
      ∃ locks', (TAT (some msg)).run locks s = (.finished (), locks',
        { s with sent := s.sent ++ (newAddresses [] s.state.xTEDSList).map (tatTo msg) })
    else ((TAT (some msg)).run locks s).1 = .crashed := by
  have start : (TAT (some msg)).run locks s =
      (tatToHubs msg (List.range s.state.xTEDSList.length) []).run locks s := by
    show (if msg.destination.sensorID = 0 then _ else _ : DMProgram τ Unit).run locks s = _
    rw [if_pos all]
  have here : (List.range s.state.xTEDSList.length).map (fun k => s.state.xTEDSList[k]?) =
      s.state.xTEDSList.map some := by
    apply List.ext_getElem (by simp)
    intro i lt lt'
    simp only [List.getElem_map, List.getElem_range]
    exact List.getElem?_eq_getElem (by simpa using lt)
  rw [start, ← length_newAddresses, ← List.nil_append (newAddresses [] s.state.xTEDSList)]
  exact run_tatToHubs here List.nodup_range (fun k mem => free k (List.mem_range.mp mem))
    (Nat.zero_le xsize : ([] : List UInt32).length ≤ xsize)

/-- With more addresses than places the handler does not end. -/
theorem not_broadcastsOnce_of_lt (all : msg.destination.sensorID = 0) (locks : Lock → Sem)
    (s : Shared τ) (free : ∀ k < s.state.xTEDSList.length, Free locks k)
    (more : xsize < (hubAddresses s.state.xTEDSList).toFinset.card) :
    ¬ BroadcastsOnce msg locks s := by
  rintro ⟨locks', sent, finished, -⟩
  have runs := run_TAT all locks s free
  rw [if_neg (Nat.not_le.mpr more), finished] at runs
  cases runs

/-- **The broadcast of a time at tone.** The handler stays in its array and sends the message once
to each address of a hub exactly when these are no more than the array has places. -/
theorem broadcastsOnce_iff (all : msg.destination.sensorID = 0) (locks : Lock → Sem) (s : Shared τ)
    (free : ∀ k < s.state.xTEDSList.length, Free locks k) :
    BroadcastsOnce msg locks s ↔ (hubAddresses s.state.xTEDSList).toFinset.card ≤ xsize := by
  constructor
  · intro once
    by_contra more
    exact not_broadcastsOnce_of_lt all locks s free (Nat.lt_of_not_le more) once
  · intro room
    have runs := run_TAT all locks s free
    rw [if_pos room] at runs
    obtain ⟨locks', finished⟩ := runs
    have mem (address : UInt32) : address ∈ newAddresses [] s.state.xTEDSList ↔
        address ∈ hubAddresses s.state.xTEDSList := by
      simpa using mem_newAddresses address [] s.state.xTEDSList
    refine ⟨locks', _, finished, ?_, ?_⟩
    · intro m sent
      obtain ⟨address, new, rfl⟩ := List.mem_map.mp sent
      exact ⟨address, (mem address).mp new, rfl⟩
    · intro address hub
      rw [List.count_map_of_injective _ _ tatTo_injective]
      have nodup : (newAddresses [] s.state.xTEDSList).Nodup := nodup_newAddresses List.nodup_nil
      exact List.count_eq_one_of_mem nodup ((mem address).mpr hub)

/-- A device at an address. -/
def deviceAt (address : UInt32) : XTEDSLibrary NamedDocument :=
  { (XTEDSLibrary.new : XTEDSLibrary NamedDocument) with
    available := false
    active := true
    hub := .DEVICE
    id := ⟨0x10001, address, 4000⟩ }

/-- A Data Manager with these slots. -/
def withDevices (l : XTEDSLibraryList NamedDocument) : Shared NamedDocument :=
  { justStartedShared with state := { DMState.justStarted with xTEDSList := l } }

/-- A time at tone for all. -/
def tatToAll : SDMTat := { destination := .zero, seconds := 7, useconds := 0 }

/-- Of three devices two are at one address: each address gets one message. -/
theorem broadcastsOnce_shared :
    BroadcastsOnce tatToAll (fun _ => Sem.new 1)
      (withDevices [deviceAt 5, deviceAt 6, deviceAt 5]) := by
  have few : (hubAddresses [deviceAt 5, deviceAt 6, deviceAt 5]).toFinset.card ≤ xsize := by
    decide
  exact (broadcastsOnce_iff rfl (fun _ => Sem.new 1) _ fun _ _ => rfl).mpr few

/-- Devices at 26 addresses. -/
def twentySixDevices : XTEDSLibraryList NamedDocument :=
  (List.range 26).map fun i => deviceAt (.ofNat i)

/-- The 26th address is written behind the array. -/
theorem not_broadcastsOnce :
    ¬ ∀ (msg : SDMTat) (locks : Lock → Sem) (s : Shared NamedDocument),
      msg.destination.sensorID = 0 → (∀ k < s.state.xTEDSList.length, Free locks k) →
        BroadcastsOnce msg locks s := by
  intro once
  have more : xsize < (hubAddresses
    (withDevices twentySixDevices).state.xTEDSList).toFinset.card := by
    decide +kernel
  exact not_broadcastsOnce_of_lt rfl (fun _ => Sem.new 1) (withDevices twentySixDevices)
    (fun _ _ => rfl) more (once tatToAll _ _ rfl fun _ _ => rfl)

end TimeAtTone

end Sdm
