import Sdm.Lib.Machine
import Sdm.Lib.Scan
import Sdm.DM.XTEDSLibrary

/-!
Registration and cancellation in the registry (`AlreadyRegistered`, `StoreInfo`
and the parts of `xTEDS`, `CancelxTEDS` and `TaskError` that write slots).

* `register` is what `xTEDS` does to the registry for a complete document: it
  looks for a slot that the document already has, and stores a new one otherwise.
* `quiesce` and `release` are the two writes of `CancelxTEDS`, and `suspend` is that of
  `TaskError`.
* `registryMachine` makes every sequence of these writes a run, together with the
  writes to `posted` and `connections` that other handlers make.
* `WellFormed` holds in every state of such a run (`WellFormed.reaches`): a slot
  in use has a tree, and its sensor id was made from its own position.
-/

namespace Sdm

open Lib

/-- An `SDMxTEDS` that is complete. The address of the source has been filled in,
so `RequesterId` and `source` have the same address. -/
structure Registration where
  source : SDMComponentID
  active : UInt8
  pid : UInt32
  SPA_node : CString
  /-- The document, `msgXteds.xTEDS`. -/
  text : CString
  deriving DecidableEq, Repr

/-- The sensor id for slot `k`: the masked id that the component chose, and the
position above it. -/
def sensorIDAt (mask chosen : UInt32) (k : Nat) : UInt32 :=
  (chosen &&& mask) ||| (UInt32.ofNat k <<< 16)

/-- The name of a robust hub (`strncmp` with the length of either prefix). -/
def isRobustHub (name : CString) : Bool :=
  strncmp name (.ofString "RoboHub") 7 = 0 || strncmp name (.ofString "RobustHub") 9 = 0

namespace XTEDSLibraryList

variable {τ : Type}

/-! ### `AlreadyRegistered` -/

/-- Why `AlreadyRegistered` stops at a slot: it is inactive and is taken over, it
is the sender's own (`spot = -1`), or it is that of the Task Manager. -/
inductive Recognition where
  | inactive
  | registered
  | taskManager
  deriving DecidableEq, Repr

/-- The slot is at the address and port of the sender. -/
def SameEndpoint (r : Registration) (s : XTEDSLibrary τ) : Prop :=
  r.source.port = s.id.port ∧ r.source.address = s.id.address

instance (r : Registration) (s : XTEDSLibrary τ) : Decidable (SameEndpoint r s) :=
  inferInstanceAs (Decidable (_ ∧ _))

/-- The slot has the id that the sender chose, in its low 16 bits. -/
def SameChosenID (r : Registration) (s : XTEDSLibrary τ) : Prop :=
  r.source.sensorID &&& 0xFFFF = s.id.sensorID &&& 0xFFFF

instance (r : Registration) (s : XTEDSLibrary τ) : Decidable (SameChosenID r s) :=
  inferInstanceAs (Decidable (_ = _))

/-- The loop body of `AlreadyRegistered` at one slot. The names of slots in use
are read, so these must have a tree. -/
def recognise [XTEDS τ] (sensor : CString) (r : Registration) (s : XTEDSLibrary τ) :
    Option (Option Recognition) :=
  if s.available then some none
  else
    s.getName.map fun name =>
      if strncmp name sensor sensor.length = 0 then
        if s.active = false then some .inactive
        else if SameEndpoint r s then
          if SameChosenID r s ∧ r.source.port ≠ PORT_TM then some .registered
          else if r.source.port = PORT_TM then some .taskManager
          else none
        else none
      else none

/-- An inactive slot becomes the slot of the sender. -/
def takeOver [XTEDS τ] (k : Nat) (type : Hub) (r : Registration) (s : XTEDSLibrary τ) :
    XTEDSLibrary τ :=
  { s with
    active := true
    id := ⟨sensorIDAt 0xFFFF r.source.sensorID k, r.source.address, r.source.port⟩
    pid := r.pid
    hub := if s.getName.elim false isRobustHub then .ROBOHUB else type }

/-- `AlreadyRegistered`: the slot found, and the registry with it taken over. -/
def alreadyRegistered [XTEDS τ] (sensor : CString) (type : Hub) (r : Registration)
    (l : XTEDSLibraryList τ) : Option (XTEDSLibraryList τ × Option (Nat × Recognition)) :=
  (scan (recognise sensor r) l).map fun found =>
    match found with
    | some (k, .inactive) => (l.modify k (takeOver k type r), found)
    | _ => (l, found)

/-! ### `StoreInfo` -/

/-- Where `StoreInfo` stores: the first free slot after the first slot, else a new one. -/
def freeSpot : XTEDSLibraryList τ → Nat
  | [] => 0
  | _ :: rest => rest.findIdx XTEDSLibrary.available + 1

/-- The slot that `StoreInfo` fills. -/
def fill (k : Nat) (type : Hub) (r : Registration) (s : XTEDSLibrary τ) : XTEDSLibrary τ :=
  { s with
    available := false
    active := r.active ≠ 0
    pid := r.pid
    hub := type
    spaNode := some r.SPA_node
    id := ⟨sensorIDAt 0xFF r.source.sensorID k, r.source.address, r.source.port⟩ }

/-- `StoreInfo`: the registry, and the position of the slot. -/
def storeInfo (type : Hub) (r : Registration) (l : XTEDSLibraryList τ) :
    XTEDSLibraryList τ × Nat :=
  let spot := freeSpot l
  ((if spot < l.length then l else l ++ [.new]).modify spot (fill spot type r), spot)

/-! ### Registering a document -/

/-- The slot that a document is registered with. -/
inductive Outcome where
  | recognised (k : Nat) (how : Recognition)
  | stored (k : Nat)
  /-- The document stored at `k` did not parse. -/
  | invalid (k : Nat)
  deriving DecidableEq, Repr

/-- The slot returned for an acknowledged document. -/
def Outcome.slot? : Outcome → Option Nat
  | .recognised k _ => some k
  | .stored k => some k
  | .invalid _ => none

/-- The slot after `setxTEDS` in `xTEDS`: one whose document does not parse is
freed again. The retry for an ASIM runs when its saved document cannot be read
and parses the same text. -/
def setDocument [XTEDS τ] (text : CString) (s : XTEDSLibrary τ) : XTEDSLibrary τ :=
  let s := s.setxTEDS text
  if s.xtedsTree.isSome then s else { s with available := true, active := false }

/-- The type that a new slot is stored with. -/
def hubOf (sensor : CString) (type : Hub) : Hub := if isRobustHub sensor then .ROBOHUB else type

/-- The registry part of `xTEDS`, for a document with this device name and type. -/
def register [XTEDS τ] (sensor : CString) (type : Hub) (r : Registration) (l : XTEDSLibraryList τ) :
    Option (XTEDSLibraryList τ × Outcome) :=
  (alreadyRegistered sensor type r l).map fun result =>
    match result.2 with
    | some (k, how) => (result.1, .recognised k how)
    | none =>
        let stored := storeInfo (hubOf sensor type) r result.1
        (stored.1.modify stored.2 (setDocument r.text),
          if (XTEDS.parse r.text : Option τ).isSome then .stored stored.2 else .invalid stored.2)

/-! ### Cancelling -/

/-- Slots of these managers stay active until they are released. -/
def OfManager (s : XTEDSLibrary τ) : Prop :=
  s.id.port = PORT_SM ∨ s.id.port = PORT_SPA1_MANAGER ∨ s.id.port = PORT_TM ∨ s.id.port = PORT_PM

instance (s : XTEDSLibrary τ) : Decidable (OfManager s) := inferInstanceAs (Decidable (_ ∨ _))

/-- The first write of `CancelxTEDS`, before the cancellation is published. -/
def quiesce (fullCancel : UInt8) (s : XTEDSLibrary τ) : XTEDSLibrary τ :=
  let s := if OfManager s then s else { s with active := false, posted := false }
  if fullCancel = 1 then { s with active := true } else s

/-- The second write of `CancelxTEDS`, to a slot that is still active. -/
def release (s : XTEDSLibrary τ) : XTEDSLibrary τ :=
  if s.active then
    { s with
      available := true, id := { s.id with port := 0 }, connections := 0, pid := 0,
      hub := .APPLICATION, active := false }
  else s

/-- The write of `TaskError`. The slot is kept as posted, so that no search posts its task again. -/
def suspend (s : XTEDSLibrary τ) : XTEDSLibrary τ := { s with active := false, posted := true }

/-! ### What registering writes -/

variable {sensor : CString} {type : Hub} {r : Registration} {l l' : XTEDSLibraryList τ}
  {s t : XTEDSLibrary τ} {o : Outcome} {j k : Nat}

theorem freeSpot_le : freeSpot l ≤ l.length := by
  cases l with
  | nil => exact Nat.le_refl 0
  | cons s rest => exact Nat.succ_le_succ List.findIdx_le_length

/-- The slot that is stored into was free. -/
theorem available_of_freeSpot (at_spot : l[freeSpot l]? = some s) : s.available = true := by
  cases l with
  | nil => cases at_spot
  | cons t rest =>
      obtain ⟨lt, rfl⟩ := List.getElem?_eq_some_iff.mp at_spot
      exact List.findIdx_getElem (w := Nat.lt_of_succ_lt_succ lt)

/-- The slots after a document has been stored. -/
theorem getElem?_stored {f : XTEDSLibrary τ → XTEDSLibrary τ} :
    ((storeInfo type r l).1.modify (storeInfo type r l).2 f)[j]? =
      if j = freeSpot l then some (f (fill (freeSpot l) type r (l[freeSpot l]?.getD .new)))
      else l[j]? := by
  have bound := freeSpot_le (l := l)
  simp only [storeInfo]
  by_cases within : freeSpot l < l.length
  · rw [if_pos within]
    by_cases here : j = freeSpot l
    · subst here
      simp [within]
    · rw [if_neg here, List.getElem?_modify_ne _ _ (Ne.symm here),
        List.getElem?_modify_ne _ _ (Ne.symm here)]
  · have last : freeSpot l = l.length := by omega
    rw [if_neg within]
    by_cases here : j = freeSpot l
    · subst here
      simp [last]
    · rw [if_neg here, List.getElem?_modify_ne _ _ (Ne.symm here),
        List.getElem?_modify_ne _ _ (Ne.symm here)]
      by_cases old : j < l.length
      · rw [List.getElem?_append_left old]
      · have beyond : l.length < j := by omega
        rw [List.getElem?_eq_none (Nat.le_of_lt beyond), List.getElem?_eq_none]
        rwa [List.length_append]

variable [XTEDS τ]

/-- What `register` can do, by the slot that the scan stops at. -/
inductive Registers (sensor : CString) (type : Hub) (r : Registration) (l : XTEDSLibraryList τ) :
    XTEDSLibraryList τ → Outcome → Prop where
  | known {k : Nat} {how : Recognition} (found : scan (recognise sensor r) l = some (some (k, how)))
      (keeps : how ≠ .inactive) : Registers sensor type r l l (.recognised k how)
  | takenOver {k : Nat} (found : scan (recognise sensor r) l = some (some (k, .inactive))) :
      Registers sensor type r l (l.modify k (takeOver k type r)) (.recognised k .inactive)
  | stored {l' : XTEDSLibraryList τ} {tree : τ}
      (unknown : scan (recognise sensor r) l = some none) (parsed : XTEDS.parse r.text = some tree)
      (slots : ∀ j, l'[j]? = if j = freeSpot l then
          some { fill (freeSpot l) (hubOf sensor type) r (l[freeSpot l]?.getD .new) with
            fullxTED := some r.text, xtedsTree := some tree }
        else l[j]?) : Registers sensor type r l l' (.stored (freeSpot l))
  | invalid {l' : XTEDSLibraryList τ} (unknown : scan (recognise sensor r) l = some none)
      (rejected : (XTEDS.parse r.text : Option τ) = none)
      (slots : ∀ j, l'[j]? = if j = freeSpot l then
          some { fill (freeSpot l) (hubOf sensor type) r (l[freeSpot l]?.getD .new) with
            fullxTED := some r.text, xtedsTree := none, available := true, active := false }
        else l[j]?) : Registers sensor type r l l' (.invalid (freeSpot l))

theorem registers (done : register sensor type r l = some (l', o)) :
    Registers sensor type r l l' o := by
  obtain ⟨⟨l₁, found⟩, scanned, after⟩ := Option.map_eq_some_iff.mp done
  obtain ⟨stop, walk, result⟩ := Option.map_eq_some_iff.mp scanned
  cases stop with
  | none =>
      cases result
      cases parsed : (XTEDS.parse r.text : Option τ) with
      | none =>
          simp only [parsed] at after
          cases after
          refine .invalid walk parsed fun j => ?_
          rw [getElem?_stored]
          simp [setDocument, XTEDSLibrary.setxTEDS, parsed]
      | some tree =>
          simp only [parsed] at after
          cases after
          refine .stored walk parsed fun j => ?_
          rw [getElem?_stored]
          simp [setDocument, XTEDSLibrary.setxTEDS, parsed]
  | some stop =>
      obtain ⟨k, how⟩ := stop
      cases how with
      | inactive =>
          cases result
          cases after
          exact .takenOver walk
      | registered =>
          cases result
          cases after
          exact .known walk Recognition.noConfusion
      | taskManager =>
          cases result
          cases after
          exact .known walk Recognition.noConfusion

/-- Registering faults only where a slot in use has no tree. -/
theorem register_ne_none (named : ∀ s ∈ l, s.available = false → s.xtedsTree.isSome = true) :
    register sensor type r l ≠ none := by
  have defined : ∀ s ∈ l, recognise sensor r s ≠ none := by
    intro s mem
    unfold recognise
    cases free : s.available with
    | true => simp
    | false =>
        obtain ⟨tree, hasTree⟩ := Option.isSome_iff_exists.mp (named s mem free)
        simp [XTEDSLibrary.getName, hasTree]
  simp only [register, alreadyRegistered, ne_eq, Option.map_eq_none_iff]
  exact scan_ne_fault defined

/-! ### What the scan of `AlreadyRegistered` accepts -/

/-- The slot is in use and its name begins with the scanned name. -/
def Extends (sensor : CString) (s : XTEDSLibrary τ) : Prop :=
  s.available = false ∧ ∃ name, s.getName = some name ∧ sensor.IsPrefix name

/-- The reason for which a slot with a matching name is accepted. -/
def Recognises (r : Registration) (s : XTEDSLibrary τ) : Recognition → Prop
  | .inactive => s.active = false
  | .registered => s.active = true ∧ SameEndpoint r s ∧ SameChosenID r s ∧ r.source.port ≠ PORT_TM
  | .taskManager => s.active = true ∧ SameEndpoint r s ∧ r.source.port = PORT_TM

/-- The scan stops at the slot. -/
def Accepts (sensor : CString) (r : Registration) (s : XTEDSLibrary τ) : Prop :=
  Extends sensor s ∧ ∃ how, Recognises r s how

theorem recognise_eq_found_iff {how : Recognition} :
    recognise sensor r s = some (some how) ↔ Extends sensor s ∧ Recognises r s how := by
  unfold recognise Extends
  cases free : s.available with
  | true => simp
  | false =>
      cases named : s.getName with
      | none => simp
      | some name =>
          simp only [Bool.false_eq_true, if_false, Option.map_some, Option.some.injEq,
            strncmp_length_eq_zero_iff, true_and, exists_eq_left']
          by_cases extended : sensor.IsPrefix name
          · rw [if_pos extended]
            cases active : s.active with
            | false => cases how <;> simp [Recognises, active, extended]
            | true =>
                by_cases endpoint : SameEndpoint r s
                · by_cases manager : r.source.port = PORT_TM
                  · cases how <;> simp [Recognises, active, extended, endpoint, manager]
                  · by_cases chosen : SameChosenID r s
                    · cases how <;> simp [Recognises, active, extended, endpoint, manager, chosen]
                    · cases how <;> simp [Recognises, active, endpoint, manager, chosen]
                · cases how <;> simp [Recognises, active, endpoint]
          · rw [if_neg extended]
            simp [extended]

/-- The scan moves past exactly the slots that it does not accept. -/
theorem recognise_eq_next_iff (named : s.available = false → s.xtedsTree.isSome = true) :
    recognise sensor r s = some none ↔ ¬ Accepts sensor r s := by
  have defined : recognise sensor r s ≠ none := by
    unfold recognise
    cases free : s.available with
    | true => simp
    | false =>
        obtain ⟨tree, hasTree⟩ := Option.isSome_iff_exists.mp (named free)
        simp [XTEDSLibrary.getName, hasTree]
  obtain ⟨stop, found⟩ := Option.ne_none_iff_exists'.mp defined
  rw [found]
  cases stop with
  | none =>
      refine iff_of_true rfl ?_
      rintro ⟨extended, how, because⟩
      have := recognise_eq_found_iff.mpr ⟨extended, because⟩
      rw [found] at this
      cases this
  | some how =>
      refine iff_of_false (by simp) (not_not_intro ?_)
      have := recognise_eq_found_iff.mp found
      exact ⟨this.1, how, this.2⟩

/-- A slot that is in use and inactive, or at the sender's endpoint with its id or
the Task Manager's port, is accepted when its name extends the scanned one. -/
theorem accepts_iff : Accepts sensor r s ↔ Extends sensor s ∧
    (s.active = false ∨ SameEndpoint r s ∧ (SameChosenID r s ∨ r.source.port = PORT_TM)) := by
  apply and_congr_right
  intro _
  constructor
  · rintro ⟨how, because⟩
    cases how with
    | inactive => exact .inl because
    | registered => exact .inr ⟨because.2.1, .inl because.2.2.1⟩
    | taskManager => exact .inr ⟨because.2.1, .inr because.2.2⟩
  · intro because
    cases active : s.active with
    | false => exact ⟨.inactive, active⟩
    | true =>
        rw [active] at because
        obtain ⟨endpoint, reason⟩ := because.resolve_left Bool.noConfusion
        by_cases manager : r.source.port = PORT_TM
        · exact ⟨.taskManager, active, endpoint, manager⟩
        · exact ⟨.registered, active, endpoint, reason.resolve_right manager, manager⟩

/-- The first slot that the scan accepts. -/
theorem scan_recognise_eq_found_iff
    (named : ∀ s ∈ l, s.available = false → s.xtedsTree.isSome = true)
    {how : Recognition} :
    scan (recognise sensor r) l = some (some (k, how)) ↔
      ∃ s, l[k]? = some s ∧ Extends sensor s ∧ Recognises r s how ∧
        ∀ j < k, ∀ t, l[j]? = some t → ¬ Accepts sensor r t := by
  rw [scan_eq_found_iff]
  refine exists_congr fun s => and_congr_right fun _ => ?_
  rw [recognise_eq_found_iff, and_assoc]
  refine and_congr_right fun _ => and_congr_right fun _ => ?_
  apply forall₄_congr
  intro j _ t at_j
  exact recognise_eq_next_iff (named t (List.mem_of_getElem? at_j))

/-! ### The sensor id of a slot -/

/-- The masked id below, the position above. -/
theorem toNat_sensorIDAt {mask chosen : UInt32} (low : mask.toNat < 65536) :
    (sensorIDAt mask chosen k).toNat = 65536 * (k % 65536) + (chosen &&& mask).toNat := by
  have below : (chosen &&& mask).toNat < 2 ^ 16 := by
    rw [UInt32.toNat_and]
    exact lt_of_le_of_lt Nat.and_le_right low
  have above : (UInt32.ofNat k <<< 16).toNat = 2 ^ 16 * (k % 65536) := by
    rw [UInt32.toNat_shiftLeft, Nat.shiftLeft_eq]
    simp only [UInt32.toNat_ofNat', UInt32.reduceToNat, Nat.reduceMod, Nat.reducePow]
    omega
  rw [sensorIDAt, UInt32.toNat_or, above, Nat.or_comm, ← Nat.two_pow_add_eq_or_of_lt below]

theorem position_sensorIDAt {mask chosen : UInt32} (low : mask.toNat < 65536) :
    (sensorIDAt mask chosen k).toNat / 65536 = k % 65536 := by
  have below : (chosen &&& mask).toNat < 65536 := by
    rw [UInt32.toNat_and]
    exact lt_of_le_of_lt Nat.and_le_right low
  rw [toNat_sensorIDAt low]
  omega

/-! ### Runs of writes -/

/-- A write to the registry. `mark` stands for the writes to `posted` and
`connections` that searches, `Consume` and `Cancel` make. -/
inductive RegistryWrite where
  | register (sensor : CString) (type : Hub) (r : Registration)
  | quiesce (k : Nat) (fullCancel : UInt8)
  | release (k : Nat)
  | suspend (k : Nat)
  | mark (posted : Nat → Bool) (connections : Nat → Nat)

/-- The writes as a machine; a slot is quiesced only while it is in use and active. -/
def registryMachine : Machine (XTEDSLibraryList τ) RegistryWrite (Option Outcome) where
  step l
    | .register sensor type r => (register sensor type r l).map fun result =>
        (result.1, some result.2)
    | .quiesce k fullCancel =>
        if l[k]?.any fun s => !s.available && s.active then
          some (l.modify k (quiesce fullCancel), none)
        else none
    | .release k => some (l.modify k release, none)
    | .suspend k => some (l.modify k suspend, none)
    | .mark posted connections => some (l.mapIdx fun k s =>
        { s with posted := posted k, connections := connections k }, none)

/-- A guard on registrations alone. -/
def OnRegister (ok : XTEDSLibraryList τ → CString → Registration → Prop)
    (l : XTEDSLibraryList τ) : RegistryWrite → Prop
  | .register sensor _ r => ok l sensor r
  | _ => True

/-- A slot at position `k` is well formed. -/
structure SlotWellFormed (k : Nat) (s : XTEDSLibrary τ) : Prop where
  inUse : s.active = true → s.available = false
  tree : s.available = false → s.xtedsTree.isSome = true
  position : s.available = false → s.id.sensorID.toNat / 65536 = k % 65536

/-- All slots are well formed. -/
def WellFormed (l : XTEDSLibraryList τ) : Prop := ∀ k s, l[k]? = some s → SlotWellFormed k s

omit [XTEDS τ] in
theorem WellFormed.named (wf : WellFormed l) :
    ∀ s ∈ l, s.available = false → s.xtedsTree.isSome = true := by
  intro s mem
  obtain ⟨k, at_k⟩ := List.mem_iff_getElem?.mp mem
  exact (wf k s at_k).tree

omit [XTEDS τ] in
theorem wellFormed_modify {f : XTEDSLibrary τ → XTEDSLibrary τ} (wf : WellFormed l)
    (keep : ∀ s, l[k]? = some s → SlotWellFormed k s → SlotWellFormed k (f s)) :
    WellFormed (l.modify k f) := by
  intro j s at_j
  by_cases here : k = j
  · subst here
    rw [List.getElem?_modify_eq] at at_j
    obtain ⟨t, old, rfl⟩ := Option.map_eq_some_iff.mp at_j
    exact keep t old (wf k t old)
  · rw [List.getElem?_modify_ne _ _ here] at at_j
    exact wf j s at_j

theorem wellFormed_register (wf : WellFormed l) (done : register sensor type r l = some (l', o)) :
    WellFormed l' := by
  cases registers done with
  | known => exact wf
  | takenOver found =>
      apply wellFormed_modify wf
      intro s at_k wfs
      obtain ⟨t, same, ⟨inUse, _⟩, _⟩ := (scan_recognise_eq_found_iff wf.named).mp found
      obtain rfl : s = t := Option.some.inj (at_k.symm.trans same)
      exact ⟨fun _ => inUse, fun _ => wfs.tree inUse, fun _ => position_sensorIDAt (by decide)⟩
  | stored _ parsed slots =>
      intro j s at_j
      rw [slots j] at at_j
      split at at_j
      · rename_i here
        subst here
        cases at_j
        exact ⟨fun _ => rfl, fun _ => rfl, fun _ => position_sensorIDAt (by decide)⟩
      · exact wf j s at_j
  | invalid _ rejected slots =>
      intro j s at_j
      rw [slots j] at at_j
      split at at_j
      · cases at_j
        exact ⟨fun h => Bool.noConfusion h, fun h => Bool.noConfusion h,
          fun h => Bool.noConfusion h⟩
      · exact wf j s at_j

theorem wellFormed_step {w : RegistryWrite} {out : Option Outcome} (wf : WellFormed l)
    (done : registryMachine.step l w = some (l', out)) : WellFormed l' := by
  cases w with
  | register sensor type r =>
      obtain ⟨⟨l₁, o⟩, registered, same⟩ := Option.map_eq_some_iff.mp done
      cases same
      exact wellFormed_register wf registered
  | quiesce k fullCancel =>
      simp only [registryMachine] at done
      split at done
      · rename_i inUse
        cases done
        apply wellFormed_modify wf
        intro s at_k wfs
        have used : s.available = false := by
          simp only [at_k, Option.any_some, Bool.and_eq_true, Bool.not_eq_true'] at inUse
          exact inUse.1
        unfold quiesce
        split <;> split <;>
          exact ⟨fun _ => used, fun _ => wfs.tree used, fun _ => wfs.position used⟩
      · cases done
  | release k =>
      cases done
      apply wellFormed_modify wf
      intro s _ wfs
      unfold release
      split
      · exact ⟨fun h => Bool.noConfusion h, fun h => Bool.noConfusion h,
          fun h => Bool.noConfusion h⟩
      · exact wfs
  | suspend k =>
      cases done
      exact wellFormed_modify wf fun _ _ wfs => ⟨Bool.noConfusion, wfs.tree, wfs.position⟩
  | mark posted connections =>
      cases done
      intro k s at_k
      rw [List.getElem?_mapIdx] at at_k
      obtain ⟨t, old, rfl⟩ := Option.map_eq_some_iff.mp at_k
      exact ⟨(wf k t old).inUse, (wf k t old).tree, (wf k t old).position⟩

/-- **Slots stay well formed.** Every write keeps the slots in use parsed and
named by their position. -/
theorem WellFormed.reaches {ok : XTEDSLibraryList τ → RegistryWrite → Prop}
    (run : registryMachine.Reaches ok l l') (wf : WellFormed l) : WellFormed l' :=
  run.invariant wf fun _ _ _ _ wf _ done => wellFormed_step wf done

/-! ### Writes that searches make -/

/-- The slot without what the Data Manager counts about it. -/
def core (s : XTEDSLibrary τ) : XTEDSLibrary τ := { s with posted := false, connections := 0 }

omit [XTEDS τ] in
@[simp]
theorem core_available : (core s).available = s.available := rfl

omit [XTEDS τ] in
@[simp]
theorem core_active : (core s).active = s.active := rfl

omit [XTEDS τ] in
@[simp]
theorem core_id : (core s).id = s.id := rfl

@[simp]
theorem core_getName : (core s).getName = s.getName := rfl

/-- A registry whose slots differ only in what is counted is one `mark` away. -/
theorem mark_of_core (same : l'.map core = l.map core) :
    ∃ posted connections,
      registryMachine.step l (.mark posted connections) = some (l', none) := by
  refine ⟨fun k => l'[k]?.elim false (·.posted), fun k => l'[k]?.elim 0 (·.connections), ?_⟩
  refine congrArg some (Prod.ext ?_ rfl)
  apply List.ext_getElem?
  intro k
  rw [List.getElem?_mapIdx]
  have at_k := congrArg (·[k]?) same
  simp only [List.getElem?_map] at at_k
  cases new : l'[k]? with
  | none =>
      rw [new] at at_k
      rw [Option.map_eq_none_iff.mp at_k.symm]
      rfl
  | some s' =>
      rw [new] at at_k
      obtain ⟨s, old, sameCore⟩ := Option.map_eq_some_iff.mp at_k.symm
      rw [old]
      cases s
      cases s'
      simp only [core, XTEDSLibrary.mk.injEq] at sameCore
      simp [sameCore, new]

omit [XTEDS τ] in
theorem core_at {s' : XTEDSLibrary τ} (same : l'.map core = l.map core) (at_k : l'[k]? = some s') :
    ∃ s, l[k]? = some s ∧ core s' = core s := by
  have image := congrArg (·[k]?) same
  simp only [List.getElem?_map, at_k, Option.map_some] at image
  obtain ⟨s, old, sameCore⟩ := Option.map_eq_some_iff.mp image.symm
  exact ⟨s, old, sameCore.symm⟩

/-! ### Active slots -/

/-- A slot at the position is active. -/
def ActiveAt (k : Nat) (l : XTEDSLibraryList τ) : Prop := ∃ s, l[k]? = some s ∧ s.active = true

/-- Registering a document does not touch the active slots. -/
theorem register_keeps_active (wf : WellFormed l) (done : register sensor type r l = some (l', o))
    (at_k : l[k]? = some s) (active : s.active = true) : l'[k]? = some s := by
  have notSpot : k ≠ freeSpot l := by
    rintro rfl
    have free := available_of_freeSpot at_k
    rw [(wf _ s at_k).inUse active] at free
    cases free
  cases registers done with
  | known => exact at_k
  | @takenOver j found =>
      obtain ⟨t, at_j, _, inactive, _⟩ := (scan_recognise_eq_found_iff wf.named).mp found
      have other : j ≠ k := by
        rintro rfl
        rw [at_k] at at_j
        cases at_j
        exact Bool.noConfusion (active.symm.trans inactive)
      rw [List.getElem?_modify_ne _ _ other, at_k]
  | stored _ _ slots => rw [slots, if_neg notSpot, at_k]
  | invalid _ _ slots => rw [slots, if_neg notSpot, at_k]

/-- The write registers no document. -/
def RegistryWrite.Silent : RegistryWrite → Prop
  | .register _ _ _ => False
  | _ => True

/-- Only a registration makes a slot active: after any other write an active slot
is what it was before. -/
theorem active_before {w : RegistryWrite} {out : Option Outcome} {s' : XTEDSLibrary τ}
    (silent : w.Silent) (done : registryMachine.step l w = some (l', out))
    (at_k : l'[k]? = some s') (active : s'.active = true) :
    ∃ s, l[k]? = some s ∧ s.active = true ∧ core s' = core s := by
  cases w with
  | register => exact silent.elim
  | quiesce j fullCancel =>
      simp only [registryMachine] at done
      split at done
      · rename_i before
        cases done
        by_cases here : j = k
        · subst here
          rw [List.getElem?_modify_eq] at at_k
          obtain ⟨s, old, rfl⟩ := Option.map_eq_some_iff.mp at_k
          simp only [old, Option.any_some, Bool.and_eq_true] at before
          refine ⟨s, old, before.2, ?_⟩
          unfold quiesce at active ⊢
          split <;> rename_i manager <;> split <;> rename_i full
          · rw [core, core, before.2]
          · rfl
          · rw [core, core, before.2]
          · rw [if_neg manager, if_neg full] at active
            cases active
        · rw [List.getElem?_modify_ne _ _ here] at at_k
          exact ⟨s', at_k, active, rfl⟩
      · cases done
  | release j =>
      cases done
      by_cases here : j = k
      · subst here
        rw [List.getElem?_modify_eq] at at_k
        obtain ⟨s, old, rfl⟩ := Option.map_eq_some_iff.mp at_k
        unfold release at active ⊢
        split
        · rename_i was
          rw [if_pos was] at active
          cases active
        · rename_i was
          rw [if_neg was] at active
          exact absurd active was
      · rw [List.getElem?_modify_ne _ _ here] at at_k
        exact ⟨s', at_k, active, rfl⟩
  | suspend j =>
      cases done
      by_cases here : j = k
      · subst here
        rw [List.getElem?_modify_eq] at at_k
        obtain ⟨s, _, rfl⟩ := Option.map_eq_some_iff.mp at_k
        cases active
      · rw [List.getElem?_modify_ne _ _ here] at at_k
        exact ⟨s', at_k, active, rfl⟩
  | mark posted connections =>
      cases done
      rw [List.getElem?_mapIdx] at at_k
      obtain ⟨s, old, rfl⟩ := Option.map_eq_some_iff.mp at_k
      exact ⟨s, old, active, rfl⟩

/-- The same for a run of such writes. -/
theorem active_before_run {ok : XTEDSLibraryList τ → RegistryWrite → Prop} {s' : XTEDSLibrary τ}
    (silent : ∀ l w, ok l w → w.Silent) (run : registryMachine.Reaches ok l l')
    (at_k : l'[k]? = some s') (active : s'.active = true) :
    ∃ s, l[k]? = some s ∧ s.active = true ∧ core s' = core s := by
  induction run generalizing s' with
  | start => exact ⟨s', at_k, active, rfl⟩
  | step _ guard taken ih =>
      obtain ⟨t, at_t, activeT, sameT⟩ := active_before (silent _ _ guard) taken at_k active
      obtain ⟨s, at_s, activeS, sameS⟩ := ih at_t activeT
      exact ⟨s, at_s, activeS, sameT.trans sameS⟩

end XTEDSLibraryList

end Sdm
