import Mathlib.Data.List.Induction
import Sdm.Message.Marshalling

/-!
The filter of the message log: the message types and components that are logged.

The filter is a list of objects. `AddMessageType` and `LogAllMessageTypes` link in a local variable,
so the object is gone when they return. What reads it then is undefined. Where the objects are still
there, the matching takes along, from entry to entry, which parts of an identifier are not compared.

* `step_refines`: what a call does to a list of living objects.
* `ask_living`: the entries that `Contains` finds in a list of living objects.
* `filters_iff`: when the filter is what the calls ask for, and when an entry matches by itself.
-/

namespace Sdm

open Lib

namespace MessageLogger

/-- `LogID`, without the pointer to the next one. -/
structure LogID where
  component : SDMComponentID
  msg_type : UInt8
  deriving DecidableEq, Repr

/-- An object of the list, and whether it is still there. -/
structure Entry where
  logID : LogID
  alive : Bool

/-- `MessageLogger`: the objects from `LogIdListHead` on, and their number. -/
structure State where
  entries : List Entry
  numTypes : Int

def State.initial : State := ⟨[], 0⟩

/-- A loop that looks for an entry. Nothing comes of an object that is gone. -/
def anyEntry (p : LogID → Bool) : List Entry → Option Bool
  | [] => some false
  | e :: entries =>
      if e.alive then if p e.logID then some true else anyEntry p entries else none

/-- The loop that looks for the entry to remove, and the list without it. -/
def removeEntry (p : LogID → Bool) : List Entry → Option (Option (List Entry))
  | [] => some none
  | e :: entries =>
      if e.alive then
        if p e.logID then some (some entries)
        else do return (← removeEntry p entries).map (e :: ·)
      else none

/-- Link `nextID` in. It is a local variable, and is gone after the return. -/
def State.link (s : State) (nextID : LogID) : State :=
  ⟨⟨nextID, false⟩ :: s.entries, s.numTypes + 1⟩

/-- The type in the data of a command. -/
def msgType (data : Memory) : UInt8 := data 0

/-- The component in the data of a command. -/
def componentId (data : Memory) : SDMComponentID := .unmarshal data 1

def AddMessageType (data : Memory) (s : State) : Option (Bool × State) := do
  let l : LogID := ⟨componentId data, msgType data⟩
  if ← anyEntry (fun cur => cur.msg_type == l.msg_type && cur.component == l.component) s.entries
    then return (false, s)
  return (true, s.link l)

def RemoveMessageType (data : Memory) (s : State) : Option (Bool × State) := do
  let msg_type := msgType data
  let id := componentId data
  if id.isEmpty && msg_type == 0 then return (true, ⟨[], 0⟩)
  let ignore_sid := id.isEmpty
  match ← removeEntry (fun cur => cur.msg_type == msg_type && (ignore_sid || cur.component == id))
    s.entries with
  | none => return (false, s)
  | some entries => return (true, ⟨entries, s.numTypes - 1⟩)

def LogAllMessageTypes (s : State) : Option State := do
  let l : LogID := ⟨.zero, 0⟩
  if ← anyEntry (fun cur => cur.msg_type == l.msg_type && cur.component == l.component) s.entries
    then return s
  return s.link l

/-! ### Matching -/

/-- The parts of an identifier that are compared. -/
structure Flags where
  match_sensorid : Bool
  match_ipaddr : Bool
  match_port : Bool

/-- The flags after the tests at the top of the loop. -/
def Flags.see (f : Flags) (component : SDMComponentID) : Flags :=
  ⟨f.match_sensorid && component.sensorID != 0, f.match_ipaddr && component.address != 0,
    f.match_port && component.port != 0⟩

/-- The comparison with one of the identifiers, part by part. -/
def Flags.accepts (f : Flags) (component : SDMComponentID) (ids : List SDMComponentID) : Bool :=
  (!f.match_sensorid || ids.any fun id => component.sensorID == id.sensorID) &&
    (!f.match_ipaddr || ids.any fun id => component.address == id.address) &&
    (!f.match_port || ids.any fun id => component.port == id.port)

/-- The comparison of the type, where a `char` is compared with an `unsigned char`. -/
def acceptsType (msg_type : Int8) (cur : LogID) : Bool :=
  (cur.msg_type.toNat : Int) == msg_type.toInt || cur.msg_type == 0

def containsLoop (msg_type : Int8) (ids : List SDMComponentID) : Flags → List Entry → Option Bool
  | _, [] => some false
  | f, e :: entries =>
      if e.alive then
        let f := f.see e.logID.component
        if acceptsType msg_type e.logID && f.accepts e.logID.component ids then some true
        else containsLoop msg_type ids f entries
      else none

/-- `Contains(msg_type)`. -/
def Contains (msg_type : Int8) (entries : List Entry) : Option Bool :=
  anyEntry (acceptsType msg_type) entries

/-- `Contains(msg_type, id)`. -/
def ContainsId (msg_type : Int8) (id : SDMComponentID) (entries : List Entry) : Option Bool :=
  containsLoop msg_type [id] ⟨true, true, true⟩ entries

/-- `Contains(msg_type, id1, id2)`. -/
def ContainsIds (msg_type : Int8) (id1 id2 : SDMComponentID) (entries : List Entry) :
    Option Bool :=
  containsLoop msg_type [id1, id2] ⟨true, true, true⟩ entries

/-- The type of a message and the identifiers in it, by which one of these is called. -/
inductive Query where
  | type (msg_type : Int8)
  | one (msg_type : Int8) (id : SDMComponentID)
  | two (msg_type : Int8) (id1 id2 : SDMComponentID)

namespace Query

def msg_type : Query → Int8
  | type t | one t _ | two t _ _ => t

/-- The identifiers. Where there is none, the components are not looked at. -/
def ids : Query → Option (List SDMComponentID)
  | type _ => none
  | one _ id => some [id]
  | two _ id1 id2 => some [id1, id2]

def ask (entries : List Entry) : Query → Option Bool
  | type t => Contains t entries
  | one t id => ContainsId t id entries
  | two t id1 id2 => ContainsIds t id1 id2 entries

end Query

/-! ### What the filter is for -/

inductive Call where
  | add (data : Memory)
  | remove (data : Memory)
  | logAll

namespace Call

def step (s : State) : Call → Option State
  | add data => (AddMessageType data s).map Prod.snd
  | remove data => (RemoveMessageType data s).map Prod.snd
  | logAll => LogAllMessageTypes s

def Adds : Call → Prop
  | add _ | logAll => True
  | remove _ => False

/-- The pairs after a call, the last one first. A removal that names a type and no component takes
the last pair of the type. -/
def apply (pairs : List LogID) : Call → List LogID
  | add data => pairs.insert ⟨componentId data, msgType data⟩
  | remove data =>
      if (componentId data).isEmpty then
        if msgType data = 0 then [] else pairs.eraseP fun l => l.msg_type == msgType data
      else pairs.erase ⟨componentId data, msgType data⟩
  | logAll => pairs.insert ⟨.zero, 0⟩

end Call

/-- The calls, none of which reads an object that is gone. -/
def run (calls : List Call) : Option State :=
  calls.foldl (fun s c => s.bind fun s => c.step s) (some .initial)

/-- The pairs that were added and not removed since. -/
def wanted (calls : List Call) : List LogID := calls.foldl Call.apply []

/-- A part of the component is zero, or is that of one of the identifiers. -/
def PartMatches {α : Type} [OfNat α 0] (part : SDMComponentID → α) (component : SDMComponentID)
    (ids : List SDMComponentID) : Prop :=
  part component = 0 ∨ ∃ id ∈ ids, part component = part id

/-- The entry matches by itself. -/
structure Matches (q : Query) (l : LogID) : Prop where
  type : l.msg_type = 0 ∨ (l.msg_type.toNat : Int) = q.msg_type.toInt
  sensorID : ∀ ids, q.ids = some ids → PartMatches (·.sensorID) l.component ids
  address : ∀ ids, q.ids = some ids → PartMatches (·.address) l.component ids
  port : ∀ ids, q.ids = some ids → PartMatches (·.port) l.component ids

/-- The filter is what the calls ask for, its objects are there, and it answers by its entries. -/
structure Right (s : State) (pairs : List LogID) : Prop where
  exact : ∀ l, l ∈ s.entries.map (·.logID) ↔ l ∈ pairs
  once : (s.entries.map (·.logID)).Nodup
  numTypes : s.numTypes = s.entries.length
  alive : ∀ e ∈ s.entries, e.alive = true
  answers : ∀ q : Query, ∃ found, q.ask s.entries = some found ∧
    (found = true ↔ ∃ e ∈ s.entries, Matches q e.logID)

/-- Objects that are all there. -/
def living (filter : List LogID) : List Entry := filter.map fun l => ⟨l, true⟩

/-- A part that keeps an entry behind others from being found: it is none of the identifiers', and
none of these entries leaves it out of the comparison. -/
def Differs {α : Type} [OfNat α 0] (part : SDMComponentID → α) (front : List LogID) (l : LogID)
    (ids : List SDMComponentID) : Prop :=
  (∀ k ∈ front ++ [l], part k.component ≠ 0) ∧ ∀ id ∈ ids, part l.component ≠ part id

/-- An entry matches by itself, or each one of the type differs from the identifiers in a part that
no entry before it leaves out of the comparison. -/
def Undisturbed (q : Query) (filter : List LogID) : Prop :=
  (∃ l ∈ filter, Matches q l) ∨
    ∀ ids front l back, q.ids = some ids → filter = front ++ l :: back →
      acceptsType q.msg_type l = true →
      Differs (·.sensorID) front l ids ∨ Differs (·.address) front l ids ∨
        Differs (·.port) front l ids

/-! ### Living objects -/

section Living

variable {filter pairs front : List LogID} {l : LogID} {p : LogID → Bool} {f : Flags}
  {t : Int8} {ids : List SDMComponentID} {q : Query} {s : State} {c : Call} {data : Memory}

theorem logIDs_living : (living filter).map (·.logID) = filter := by
  rw [living, List.map_map]
  exact List.map_id _

theorem anyEntry_living : anyEntry p (living filter) = some (filter.any p) := by
  induction filter with
  | nil => rfl
  | cons l filter ih =>
      show (if p l then some true else anyEntry p (living filter)) = _
      rw [ih, List.any_cons]
      cases p l with
      | true => rfl
      | false => rfl

theorem removeEntry_living : removeEntry p (living filter) =
    some (if filter.any p then some (living (filter.eraseP p)) else none) := by
  induction filter with
  | nil => rfl
  | cons l filter ih =>
      show (if p l then some (some (living filter))
        else (removeEntry p (living filter)).bind fun r =>
          some (r.map ((⟨l, true⟩ : Entry) :: ·))) = _
      cases here : p l with
      | true => simp [here]
      | false =>
          rw [ih, List.any_cons, here, List.eraseP_cons_of_neg (by rw [here]; nofun)]
          cases filter.any p with
          | true => rfl
          | false => rfl

theorem pair_beq (l cur : LogID) :
    (cur.msg_type == l.msg_type && cur.component == l.component) = (l == cur) := by
  rw [Bool.eq_iff_iff, Bool.and_eq_true_iff, beq_iff_eq, beq_iff_eq, beq_iff_eq]
  constructor
  · rintro ⟨type, component⟩
    obtain ⟨id, msg_type⟩ := cur
    cases type
    cases component
    rfl
  · rintro rfl
    exact ⟨rfl, rfl⟩

/-- The loops that look whether a pair is there. -/
theorem anyEntry_pair (l : LogID) : anyEntry
    (fun cur => cur.msg_type == l.msg_type && cur.component == l.component) (living pairs) =
      some (pairs.elem l) := by
  rw [anyEntry_living, funext (pair_beq l), List.any_beq]

/-- The state holds these pairs, in this order. -/
structure Holds (s : State) (pairs : List LogID) : Prop where
  logIDs : s.entries.map (·.logID) = pairs
  numTypes : s.numTypes = pairs.length
  nodup : pairs.Nodup

theorem holds_link (holds : Holds s pairs) (new : l ∉ pairs) :
    Holds (s.link l) (pairs.insert l) := by
  rw [List.insert_of_not_mem new]
  refine ⟨?_, ?_, List.nodup_cons.mpr ⟨new, holds.nodup⟩⟩
  · show l :: s.entries.map (·.logID) = _
    rw [holds.logIDs]
  · show s.numTypes + 1 = _
    rw [holds.numTypes, List.length_cons]
    rfl

theorem add_refines (alive : s.entries = living pairs) (holds : Holds s pairs) (data : Memory) :
    ∃ s', Call.step s (.add data) = some s' ∧ Holds s' (Call.apply pairs (.add data)) := by
  rw [Call.step, AddMessageType, alive, anyEntry_pair]
  cases there : pairs.elem (⟨componentId data, msgType data⟩ : LogID) with
  | true =>
      refine ⟨s, rfl, ?_⟩
      rw [Call.apply, List.insert_of_mem (List.elem_iff.mp there)]
      exact holds
  | false => exact ⟨_, rfl, holds_link holds fun mem => by
      rw [List.elem_iff.mpr mem] at there
      cases there⟩

theorem logAll_refines (alive : s.entries = living pairs) (holds : Holds s pairs) :
    ∃ s', Call.step s .logAll = some s' ∧ Holds s' (Call.apply pairs .logAll) := by
  rw [Call.step, LogAllMessageTypes, alive, anyEntry_pair]
  cases there : pairs.elem (⟨.zero, 0⟩ : LogID) with
  | true =>
      refine ⟨s, rfl, ?_⟩
      rw [Call.apply, List.insert_of_mem (List.elem_iff.mp there)]
      exact holds
  | false => exact ⟨_, rfl, holds_link holds fun mem => by
      rw [List.elem_iff.mpr mem] at there
      cases there⟩

/-- What `apply` erases is what the loop looks for. -/
theorem apply_remove (nonzero : ((componentId data).isEmpty && msgType data == 0) = false) :
    Call.apply pairs (.remove data) = pairs.eraseP fun cur =>
      cur.msg_type == msgType data &&
        ((componentId data).isEmpty || cur.component == componentId data) := by
  rw [Call.apply]
  cases empty : (componentId data).isEmpty with
  | true =>
      rw [empty, Bool.true_and, beq_eq_false_iff_ne] at nonzero
      rw [if_pos rfl, if_neg nonzero]
      simp only [Bool.true_or, Bool.and_true]
  | false =>
      rw [if_neg nofun, List.erase_eq_eraseP]
      simp only [Bool.false_or]
      rw [← funext (pair_beq ⟨componentId data, msgType data⟩)]

theorem holds_eraseP (holds : Holds s pairs) (there : pairs.any p = true) :
    Holds ⟨living (pairs.eraseP p), s.numTypes - 1⟩ (pairs.eraseP p) := by
  obtain ⟨l, mem, here⟩ := List.any_eq_true.mp there
  refine ⟨logIDs_living, ?_, holds.nodup.sublist List.eraseP_sublist⟩
  have pos := List.length_pos_of_mem mem
  show s.numTypes - 1 = _
  rw [holds.numTypes, List.length_eraseP_of_mem mem here]
  omega

theorem remove_refines (alive : s.entries = living pairs) (holds : Holds s pairs)
    (data : Memory) : ∃ s', Call.step s (.remove data) = some s' ∧
      Holds s' (Call.apply pairs (.remove data)) ∧
        s'.entries = living (Call.apply pairs (.remove data)) := by
  rw [Call.step, RemoveMessageType]
  cases zero : (componentId data).isEmpty && msgType data == 0 with
  | true =>
      obtain ⟨empty, type⟩ := Bool.and_eq_true_iff.mp zero
      rw [Call.apply, if_pos empty, if_pos (eq_of_beq type)]
      exact ⟨_, rfl, ⟨rfl, rfl, List.nodup_nil⟩, rfl⟩
  | false =>
      rw [apply_remove zero]
      dsimp only
      rw [if_neg nofun, alive, removeEntry_living]
      cases there : pairs.any fun cur => cur.msg_type == msgType data &&
        ((componentId data).isEmpty || cur.component == componentId data) with
      | true => exact ⟨_, rfl, holds_eraseP holds there, rfl⟩
      | false =>
          rw [List.eraseP_of_forall_not fun l mem here => by
            rw [List.any_eq_true.mpr ⟨l, mem, here⟩] at there
            cases there]
          exact ⟨s, rfl, holds, alive⟩

/-- **A call on living objects** does what it asks for. -/
theorem step_refines {pairs : List LogID} (alive : s.entries = living pairs)
    (holds : Holds s pairs) (c : Call) :
    ∃ s', c.step s = some s' ∧ Holds s' (c.apply pairs) ∧
      (¬ c.Adds → s'.entries = living (c.apply pairs)) := by
  cases c with
  | add data =>
      obtain ⟨s', taken, holds'⟩ := add_refines alive holds data
      exact ⟨s', taken, holds', fun not => absurd trivial not⟩
  | remove data =>
      obtain ⟨s', taken, holds', alive'⟩ := remove_refines alive holds data
      exact ⟨s', taken, holds', fun _ => alive'⟩
  | logAll =>
      obtain ⟨s', taken, holds'⟩ := logAll_refines alive holds
      exact ⟨s', taken, holds', fun not => absurd trivial not⟩

/-- A call that adds a pair leaves an object that is gone. -/
theorem dead_of_adds (empty : s.entries = []) (adds : c.Adds) {s' : State}
    (taken : c.step s = some s') : ∃ e ∈ s'.entries, e.alive = false := by
  cases c with
  | remove data => cases adds
  | add data =>
      rw [Call.step, AddMessageType, empty] at taken
      cases taken
      exact ⟨_, List.mem_cons_self, rfl⟩
  | logAll =>
      rw [Call.step, LogAllMessageTypes, empty] at taken
      cases taken
      exact ⟨_, List.mem_cons_self, rfl⟩

/-! ### Matching living objects -/

theorem foldl_see : front.foldl (fun f k => f.see k.component) f =
    ⟨f.match_sensorid && front.all fun k => k.component.sensorID != 0,
      f.match_ipaddr && front.all fun k => k.component.address != 0,
      f.match_port && front.all fun k => k.component.port != 0⟩ := by
  induction front generalizing f with
  | nil => simp only [List.foldl_nil, List.all_nil, Bool.and_true]
  | cons k front ih =>
      rw [List.foldl_cons, ih]
      simp only [Flags.see, List.all_cons, Bool.and_assoc]

/-- One part of the comparison. -/
theorem part_iff {α : Type} [DecidableEq α] [OfNat α 0] (part : SDMComponentID → α) :
    (!(true && (front ++ [l]).all fun k => part k.component != 0) ||
        ids.any fun id => part l.component == part id) = true ↔ ¬ Differs part front l ids := by
  rw [Differs, not_and_or, Bool.true_and, Bool.or_eq_true_iff, Bool.not_eq_true',
    List.all_eq_false, List.any_eq_true]
  simp only [bne_iff_ne, ne_eq, not_not, beq_iff_eq, not_forall, exists_prop]

/-- **The entry that is found** is of the type, and differs from the identifiers in no part that the
entries up to it all compare. -/
theorem containsLoop_living (t : Int8) (ids : List SDMComponentID) (f : Flags)
    (filter : List LogID) : ∃ found, containsLoop t ids f (living filter) = some found ∧
    (found = true ↔ ∃ front l back, filter = front ++ l :: back ∧ acceptsType t l = true ∧
      ((front ++ [l]).foldl (fun f k => f.see k.component) f).accepts l.component ids = true) := by
  induction filter generalizing f with
  | nil =>
      refine ⟨false, rfl, iff_of_false nofun ?_⟩
      rintro ⟨front, l, back, split, -⟩
      exact List.append_ne_nil_of_right_ne_nil front (List.cons_ne_nil l back) split.symm
  | cons k filter ih =>
      show ∃ found, (if acceptsType t k && (f.see k.component).accepts k.component ids then some true
        else containsLoop t ids (f.see k.component) (living filter)) = some found ∧ _
      cases here : acceptsType t k && (f.see k.component).accepts k.component ids with
      | true =>
          obtain ⟨type, accepts⟩ := Bool.and_eq_true_iff.mp here
          exact ⟨true, rfl, iff_of_true rfl ⟨[], k, filter, rfl, type, accepts⟩⟩
      | false =>
          obtain ⟨found, loop, iff⟩ := ih (f.see k.component)
          refine ⟨found, loop, iff.trans ?_⟩
          constructor
          · rintro ⟨front, l, back, rfl, type, accepts⟩
            exact ⟨k :: front, l, back, rfl, type, accepts⟩
          · rintro ⟨front, l, back, split, type, accepts⟩
            cases front with
            | nil =>
                cases split
                rw [type, Bool.true_and] at here
                exact absurd (here.symm.trans accepts) nofun
            | cons k' front =>
                cases split
                exact ⟨front, l, back, rfl, type, accepts⟩

theorem acceptsType_iff :
    acceptsType t l = true ↔ l.msg_type = 0 ∨ (l.msg_type.toNat : Int) = t.toInt := by
  rw [acceptsType, Bool.or_eq_true_iff, beq_iff_eq, beq_iff_eq, or_comm]

/-- A part that matches by itself does so behind any entries. -/
theorem PartMatches.not_differs {α : Type} [OfNat α 0] {part : SDMComponentID → α}
    (here : PartMatches part l.component ids) : ¬ Differs part front l ids := by
  rintro ⟨nonzero, differ⟩
  rcases here with zero | ⟨id, mem, same⟩
  · exact nonzero l (List.mem_append_right _ (List.mem_singleton.mpr rfl)) zero
  · exact differ id mem same

/-- The entries that `Contains` finds. -/
def Finds (q : Query) (filter : List LogID) : Prop :=
  ∃ front l back, filter = front ++ l :: back ∧ acceptsType q.msg_type l = true ∧
    ∀ ids, q.ids = some ids → ¬ Differs (·.sensorID) front l ids ∧
      ¬ Differs (·.address) front l ids ∧ ¬ Differs (·.port) front l ids

theorem containsLoop_start (t : Int8) (ids : List SDMComponentID) (filter : List LogID) :
    ∃ found,
    containsLoop t ids ⟨true, true, true⟩ (living filter) = some found ∧
    (found = true ↔ ∃ front l back, filter = front ++ l :: back ∧ acceptsType t l = true ∧
      ¬ Differs (·.sensorID) front l ids ∧ ¬ Differs (·.address) front l ids ∧
        ¬ Differs (·.port) front l ids) := by
  obtain ⟨found, loop, iff⟩ := containsLoop_living t ids ⟨true, true, true⟩ filter
  refine ⟨found, loop, iff.trans ?_⟩
  refine exists_congr fun front => exists_congr fun l => exists_congr fun back =>
    and_congr_right fun _ => and_congr_right fun _ => ?_
  rw [foldl_see, Flags.accepts, Bool.and_eq_true_iff, Bool.and_eq_true_iff, part_iff, part_iff,
    part_iff, and_assoc]

theorem ask_living (q : Query) (filter : List LogID) :
    ∃ found, q.ask (living filter) = some found ∧ (found = true ↔ Finds q filter) := by
  cases q with
  | type t =>
      refine ⟨_, anyEntry_living, ?_⟩
      rw [List.any_eq_true]
      constructor
      · rintro ⟨l, mem, type⟩
        obtain ⟨front, back, split⟩ := List.append_of_mem mem
        exact ⟨front, l, back, split, type, nofun⟩
      · rintro ⟨front, l, back, rfl, type, -⟩
        exact ⟨l, List.mem_append_right _ List.mem_cons_self, type⟩
  | one t id =>
      obtain ⟨found, loop, iff⟩ := containsLoop_start t [id] filter
      refine ⟨found, loop, iff.trans ?_⟩
      simp only [Finds, Query.msg_type, Query.ids, Option.some.injEq, forall_eq']
  | two t id1 id2 =>
      obtain ⟨found, loop, iff⟩ := containsLoop_start t [id1, id2] filter
      refine ⟨found, loop, iff.trans ?_⟩
      simp only [Finds, Query.msg_type, Query.ids, Option.some.injEq, forall_eq']

/-- An entry that matches by itself is found, wherever it stands. -/
theorem finds_of_matches (found : ∃ l ∈ filter, Matches q l) : Finds q filter := by
  obtain ⟨l, mem, type, sensorID, address, port⟩ := found
  obtain ⟨front, back, split⟩ := List.append_of_mem mem
  exact ⟨front, l, back, split, acceptsType_iff.mpr type, fun ids isIds =>
    ⟨(sensorID ids isIds).not_differs, (address ids isIds).not_differs,
      (port ids isIds).not_differs⟩⟩

/-- **An entry is found when one matches by itself** exactly where nothing disturbs the filter. -/
theorem finds_iff : (Finds q filter ↔ ∃ l ∈ filter, Matches q l) ↔ Undisturbed q filter := by
  constructor
  · intro same
    by_cases found : ∃ l ∈ filter, Matches q l
    · exact .inl found
    · refine .inr fun ids front l back isIds split type => ?_
      by_contra differs
      rw [not_or, not_or] at differs
      refine found (same.mp ⟨front, l, back, split, type, fun ids' isIds' => ?_⟩)
      cases isIds.symm.trans isIds'
      exact differs
  · rintro (found | differs)
    · exact iff_of_true (finds_of_matches found) found
    · refine ⟨?_, finds_of_matches⟩
      rintro ⟨front, l, back, split, type, same⟩
      cases isIds : q.ids with
      | none =>
          refine ⟨l, split ▸ List.mem_append_right _ List.mem_cons_self,
            acceptsType_iff.mp type, ?_, ?_, ?_⟩
          all_goals
            intro ids some
            cases isIds.symm.trans some
      | some ids =>
          obtain ⟨sensorID, address, port⟩ := same ids isIds
          rcases differs ids front l back isIds split type with differ | differ | differ
          · exact absurd differ sensorID
          · exact absurd differ address
          · exact absurd differ port

end Living

/-! ### Runs -/

section Runs

variable {calls done : List Call} {c : Call} {s : State} {filter : List LogID}

theorem run_append_singleton : run (done ++ [c]) = (run done).bind fun s => c.step s := by
  rw [run, List.foldl_append]
  rfl

theorem wanted_append_singleton : wanted (done ++ [c]) = c.apply (wanted done) := by
  rw [wanted, List.foldl_append]
  rfl

/-- A removal leaves an empty filter as it is. -/
theorem apply_nil (not : ¬ c.Adds) : c.apply [] = [] := by
  cases c with
  | add data => exact absurd trivial not
  | remove data =>
      rw [Call.apply]
      split
      · split
        · rfl
        · rfl
      · rfl
  | logAll => exact absurd trivial not

/-- **Calls that add nothing** leave the filter empty. -/
theorem run_of_not_adds (calls : List Call) (not : ∀ c ∈ calls, ¬ c.Adds) :
    ∃ s, run calls = some s ∧ wanted calls = [] ∧ s.entries = [] ∧ Holds s [] := by
  induction calls using List.reverseRecOn with
  | nil => exact ⟨_, rfl, rfl, rfl, rfl, rfl, List.nodup_nil⟩
  | append_singleton done c ih =>
      obtain ⟨s, before, nothing, empty, holds⟩ :=
        ih fun c mem => not c (List.mem_append_left _ mem)
      have notAdds := not c (List.mem_append_right _ (List.mem_singleton.mpr rfl))
      obtain ⟨s', taken, holds', alive⟩ := step_refines (show s.entries = living [] from empty) holds c
      rw [apply_nil notAdds] at holds' alive
      refine ⟨s', ?_, ?_, alive notAdds, holds'⟩
      · rw [run_append_singleton, before]
        exact taken
      · rw [wanted_append_singleton, nothing, apply_nil notAdds]

theorem right_of_empty (empty : s.entries = []) (holds : Holds s []) : Right s [] := by
  refine ⟨fun l => by rw [empty]; rfl, by rw [empty]; exact List.nodup_nil, ?_, ?_, fun q => ?_⟩
  · rw [holds.numTypes, empty]
    rfl
  · rw [empty]
    nofun
  · obtain ⟨found, ask, iff⟩ := ask_living q []
    refine ⟨found, by rw [empty]; exact ask, iff.trans (iff_of_false ?_ ?_)⟩
    · rintro ⟨front, l, back, split, -⟩
      exact List.append_ne_nil_of_right_ne_nil front (List.cons_ne_nil l back) split.symm
    · rw [empty]
      rintro ⟨e, mem, -⟩
      cases mem

/-- What is added is gone in the state behind the call. -/
theorem not_adds_of_right (right : ∀ done, done <+: calls →
      ∃ s, run done = some s ∧ Right s (wanted done)) (done : List Call) (part : done <+: calls) :
    ∀ c ∈ done, ¬ c.Adds := by
  induction done using List.reverseRecOn with
  | nil => nofun
  | append_singleton done c ih =>
      have before := ih ((List.prefix_append done [c]).trans part)
      refine List.forall_mem_append.mpr ⟨before, List.forall_mem_singleton.mpr fun adds => ?_⟩
      obtain ⟨s, ran, -, empty, -⟩ := run_of_not_adds done before
      obtain ⟨s', ran', right'⟩ := right _ part
      rw [run_append_singleton, ran] at ran'
      obtain ⟨e, mem, dead⟩ := dead_of_adds empty adds ran'
      exact absurd (dead.symm.trans (right'.alive e mem)) nofun

/-- **The filter is what the calls ask for** exactly where no call adds to it, and **an entry of a
filter of living objects is found when it matches by itself** exactly where no other entry leaves
out a part that keeps one from being found. -/
theorem filters_iff (calls : List Call) (filter : List LogID) (q : Query) :
    ((∀ done, done <+: calls → ∃ s, run done = some s ∧ Right s (wanted done)) ↔
        ∀ c ∈ calls, ¬ c.Adds) ∧
      ((∃ found, q.ask (living filter) = some found ∧
          (found = true ↔ ∃ l ∈ filter, Matches q l)) ↔ Undisturbed q filter) := by
  constructor
  · constructor
    · exact fun right => not_adds_of_right right calls (List.prefix_refl calls)
    · intro not done part
      obtain ⟨s, ran, nothing, empty, holds⟩ :=
        run_of_not_adds done fun c mem => not c (part.subset mem)
      rw [nothing]
      exact ⟨s, ran, right_of_empty empty holds⟩
  · obtain ⟨found, ask, iff⟩ := ask_living q filter
    rw [← finds_iff, ← iff]
    constructor
    · rintro ⟨found', ask', iff'⟩
      cases ask.symm.trans ask'
      exact iff'
    · intro same
      exact ⟨found, ask, same⟩

/-- One pair is added. And an entry for every component stands before one of a component: a message
of the latter's type from another component is found, which no entry matches. -/
theorem not_filters : (¬ ∀ done, done <+: [Call.add fun _ => 1] →
      ∃ s, run done = some s ∧ Right s (wanted done)) ∧
    ¬ ∃ found, ContainsId 1 ⟨7, 7, 7⟩ (living [⟨.zero, 2⟩, ⟨⟨5, 5, 5⟩, 1⟩]) = some found ∧
      (found = true ↔
        ∃ l ∈ [(⟨.zero, 2⟩ : LogID), ⟨⟨5, 5, 5⟩, 1⟩], Matches (.one 1 ⟨7, 7, 7⟩) l) := by
  constructor
  · intro right
    obtain ⟨s, ran, right⟩ := right _ (List.prefix_refl _)
    cases ran
    exact absurd (right.alive _ List.mem_cons_self) nofun
  · rintro ⟨found, asked, same⟩
    obtain rfl : true = found := Option.some.inj asked
    obtain ⟨l, mem, type, sensorID, -, -⟩ := same.mp rfl
    rcases List.mem_cons.mp mem with rfl | mem
    · exact absurd type (by decide)
    · rw [List.mem_singleton.mp mem] at sensorID
      have here := sensorID _ rfl
      exact absurd here (by rw [PartMatches]; decide)

end Runs

end MessageLogger

end Sdm
