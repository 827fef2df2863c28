import Sdm.DM.RegisteredNames

/-!
Sensor ids as names of slots.

`StoreInfo` and `AlreadyRegistered` put the position of a slot into the upper half
of its sensor id, and `xTEDS` reads eight bits of it back (`xTEDSRef`).
`sensorIDs_name_slots_iff` says how far this goes: the ids name the slots exactly
as long as no slot from position 256 on is active.
-/

namespace Sdm

open Lib XTEDSLibraryList

variable {τ : Type}

namespace XTEDSLibraryList

variable {l l' : XTEDSLibraryList τ} {s : XTEDSLibrary τ} {k : Nat}

/-- The sensor ids of the active slots name their positions. -/
structure NamesSlots (l : XTEDSLibraryList τ) : Prop where
  decode : ∀ k s, l[k]? = some s → s.active = true → xTEDSRef s.id.sensorID = k
  distinct : ∀ (j k : Nat) (s t : XTEDSLibrary τ), l[j]? = some s → l[k]? = some t →
    s.active = true → t.active = true →
    s.id.sensorID = t.id.sensorID → j = k
  matched : ∀ k s, l[k]? = some s → s.active = true → matchSID s.id.sensorID l = some k

/-- The decoder keeps eight bits of the position. -/
theorem xTEDSRef_eq {sensorID : UInt32} (position : sensorID.toNat / 65536 = k % 65536) :
    xTEDSRef sensorID = k % 256 := by
  have shifted : (sensorID >>> 16).toNat = sensorID.toNat / 65536 := by
    rw [UInt32.toNat_shiftRight, Nat.shiftRight_eq_div_pow]
    rfl
  have masked : (sensorID.toNat / 65536) &&& 255 = sensorID.toNat / 65536 % 256 :=
    Nat.and_two_pow_sub_one_eq_mod _ 8
  rw [xTEDSRef, UInt32.toNat_and, shifted]
  show (sensorID.toNat / 65536) &&& 255 = k % 256
  rw [masked, position]
  omega

theorem xTEDSRef_eq_self_iff (wf : WellFormed l) (at_k : l[k]? = some s)
    (inUse : s.available = false) : xTEDSRef s.id.sensorID = k ↔ k < 256 := by
  rw [xTEDSRef_eq ((wf k s at_k).position inUse)]
  omega

/-- Below position 256 the active slots have distinct ids, and `MatchSID` finds
each of them. -/
theorem namesSlots_iff (wf : WellFormed l) :
    NamesSlots l ↔ ∀ k s, l[k]? = some s → s.active = true → k < 256 := by
  constructor
  · intro names k s at_k active
    exact (xTEDSRef_eq_self_iff wf at_k ((wf k s at_k).inUse active)).mp
      (names.decode k s at_k active)
  · intro low
    have decode : ∀ k s, l[k]? = some s → s.active = true → xTEDSRef s.id.sensorID = k :=
      fun k s at_k active => (xTEDSRef_eq_self_iff wf at_k ((wf k s at_k).inUse active)).mpr
        (low k s at_k active)
    have distinct : ∀ (j k : Nat) (s t : XTEDSLibrary τ), l[j]? = some s → l[k]? = some t →
        s.active = true →
        t.active = true → s.id.sensorID = t.id.sensorID → j = k := by
      intro j k s t at_j at_k activeS activeT same
      rw [← decode j s at_j activeS, ← decode k t at_k activeT, same]
    refine ⟨decode, distinct, fun k s at_k active => ?_⟩
    refine matchSID_eq_some_iff.mpr ⟨s, at_k, active, rfl, ?_⟩
    rintro j lt t at_j ⟨activeT, same⟩
    have := distinct j k t s at_j at_k activeT active same
    omega

variable [XTEDS τ] {sensor : CString} {type : Hub} {r : Registration} {o : Outcome}

/-- The slot returned for an acknowledged document is in use. -/
theorem inUse_of_returned (wf : WellFormed l) (done : register sensor type r l = some (l', o))
    (returned : o.slot? = some k) : ∃ s, l'[k]? = some s ∧ s.available = false := by
  cases registers done with
  | known found _ =>
      cases returned
      obtain ⟨s, first, _⟩ := firstAccepted_of_scan wf found
      exact ⟨s, first.1, first.2.1.1.1⟩
  | @takenOver j found =>
      obtain rfl : j = k := Option.some.inj returned
      obtain ⟨s, first, _⟩ := firstAccepted_of_scan wf found
      have taken : (l.modify j (takeOver j type r))[j]? = some (takeOver j type r s) := by
        rw [List.getElem?_modify_eq, first.1]
        rfl
      exact ⟨_, taken, first.2.1.1.1⟩
  | stored _ _ slots =>
      cases returned
      exact ⟨_, by rw [slots, if_pos rfl], rfl⟩
  | invalid => cases returned

end XTEDSLibraryList

namespace DMState

variable [XTEDS τ] {st₀ st : DMState τ}

/-- **How long sensor ids name slots.** In every registry that the Data Manager
reaches, the ids of the active slots decode to their positions, are distinct and
are found by `MatchSID` exactly when no slot from position 256 on is active; and
the slot published for a registration is the one it is registered with exactly
when that slot is before position 256. -/
theorem sensorIDs_name_slots_iff (start : OnlyDataManager st₀)
    (run : dataManager.Reachable st₀ st) :
    (NamesSlots st.xTEDSList ↔ ∀ k s, st.xTEDSList[k]? = some s → s.active = true → k < 256) ∧
    ∀ (sensor : CString) (type : Hub) (r : Registration) (l : XTEDSLibraryList τ) (o : Outcome)
      (k : Nat), register sensor type r st.xTEDSList = some (l, o) → o.slot? = some k →
        ∃ s, l[k]? = some s ∧ (xTEDSRef s.id.sensorID = k ↔ k < 256) := by
  have wf := wellFormed_reachable run start.wellFormed
  refine ⟨namesSlots_iff wf, fun sensor type r l o k done returned => ?_⟩
  obtain ⟨s, at_k, inUse⟩ := inUse_of_returned wf done returned
  exact ⟨s, at_k, xTEDSRef_eq_self_iff (wellFormed_register wf done) at_k inUse⟩

/-! ### Many registrations -/

/-- The registration of the application number `i`, at a port of its own. -/
def numbered (i : Nat) : Registration := application "A" (UInt16.ofNat (6000 + i)) 1

/-- Its slot. -/
def numberedSlot (i : Nat) : XTEDSLibrary NamedDocument := slotOf (i + 1) "A" (numbered i)

/-- The Data Manager after `n` of these registrations. -/
def afterNumbered (n : Nat) : DMState NamedDocument :=
  withRegistrations ((List.range n).map numberedSlot)

theorem length_afterNumbered {n : Nat} : (afterNumbered n).xTEDSList.length = n + 1 := by
  simp [afterNumbered, withRegistrations]

theorem available_numbered {n : Nat} {s : XTEDSLibrary NamedDocument}
    (mem : s ∈ (afterNumbered n).xTEDSList) : s.available = false := by
  rcases List.mem_cons.mp mem with rfl | mem
  · rfl
  · obtain ⟨i, _, rfl⟩ := List.mem_map.mp mem
    rfl

/-- Each application is unknown to the Data Manager: no other has its port. -/
theorem scan_numbered {n : Nat} (ports : n < 1000) :
    scan (recognise (.ofString "A") (numbered n)) (afterNumbered n).xTEDSList = some none := by
  apply scan_eq_done_iff.mpr
  intro s mem
  rcases List.mem_cons.mp mem with rfl | mem
  · rfl
  · obtain ⟨i, below, rfl⟩ := List.mem_map.mp mem
    have lt := List.mem_range.mp below
    refine (recognise_eq_next_iff fun _ => rfl).mpr ?_
    rw [accepts_iff]
    rintro ⟨_, inactive | ⟨⟨port, _⟩, _⟩⟩
    · exact Bool.noConfusion inactive
    · have same : (UInt16.ofNat (6000 + n)).toNat = (UInt16.ofNat (6000 + i)).toNat :=
        congrArg UInt16.toNat port
      rw [UInt16.toNat_ofNat', UInt16.toNat_ofNat'] at same
      omega

theorem register_numbered {n : Nat} (ports : n < 1000) :
    register (.ofString "A") .APPLICATION (numbered n) (afterNumbered n).xTEDSList =
      some ((afterNumbered (n + 1)).xTEDSList, .stored (n + 1)) := by
  have spot : freeSpot (afterNumbered n).xTEDSList = n + 1 := by
    show ((List.range n).map numberedSlot).findIdx XTEDSLibrary.available + 1 = n + 1
    rw [List.findIdx_eq_length_of_false fun s mem =>
        available_numbered (List.mem_cons_of_mem _ mem),
      List.length_map, List.length_range]
  have appended : (afterNumbered (n + 1)).xTEDSList =
      (afterNumbered n).xTEDSList ++ [numberedSlot n] := by
    simp [afterNumbered, withRegistrations, List.range_succ]
  have length : (afterNumbered n).xTEDSList.length = n + 1 := length_afterNumbered
  have parsed : (XTEDS.parse (numbered n).text : Option NamedDocument) =
      some ⟨.ofString "A", []⟩ := by
    show (XTEDS.parse (NamedDocument.document "A") : Option NamedDocument) = _
    decide
  have type : hubOf (.ofString "A") .APPLICATION = .APPLICATION := by decide
  simp only [register, alreadyRegistered, scan_numbered ports, Option.map_some, parsed, type]
  refine congrArg some (Prod.ext ?_ (congrArg Outcome.stored spot))
  apply List.ext_getElem?
  intro j
  rw [getElem?_stored, spot, appended]
  by_cases here : j = n + 1
  · subst here
    have fresh : (afterNumbered n).xTEDSList[n + 1]? = none := List.getElem?_eq_none (by omega)
    rw [if_pos rfl, List.getElem?_append_right (by omega), length, Nat.sub_self, fresh]
    simp only [setDocument, XTEDSLibrary.setxTEDS, parsed]
    rfl
  · rw [if_neg here]
    by_cases old : j < n + 1
    · rw [List.getElem?_append_left (length ▸ old)]
    · rw [List.getElem?_eq_none (by omega), List.getElem?_eq_none]
      rw [List.length_append, length, List.length_singleton]
      omega

theorem registerDocument_numbered {n : Nat} (ports : n < 1000) :
    ∃ out, dataManager.step (afterNumbered n) (.registerDocument (numbered n)) =
      some (afterNumbered (n + 1), out) := by
  have scanned : XTEDS.parseDeviceName NamedDocument (numbered n).text =
      some (.APPLICATION, .ofString "A") := by
    show XTEDS.parseDeviceName NamedDocument (NamedDocument.document "A") = _
    decide
  have framed : IsFramed (numbered n).text := by
    show IsFramed (NamedDocument.document "A")
    decide
  have at_slot : (afterNumbered (n + 1)).xTEDSList[n + 1]? = some (numberedSlot n) := by
    simp [afterNumbered, withRegistrations]
  simp only [dataManager, registerDocument, scanned, if_pos framed, register_numbered ports,
    Option.bind_some]
  simp only [acknowledge, at_slot]
  exact ⟨_, rfl⟩

/-- All states of this run are reached. -/
theorem reachable_afterNumbered {n : Nat} (ports : n ≤ 1000) :
    dataManager.Reachable justStarted (afterNumbered n) := by
  induction n with
  | zero => exact .start
  | succ n ih =>
      obtain ⟨out, taken⟩ := registerDocument_numbered (n := n) (by omega)
      exact (ih (by omega)).next taken

/-- The ids of 255 applications name their slots. -/
theorem sensorIDs_name_slots_255 : NamesSlots (afterNumbered 255).xTEDSList := by
  have run : dataManager.Reachable justStarted (afterNumbered 255) :=
    reachable_afterNumbered (by omega)
  refine (sensorIDs_name_slots_iff onlyDataManager_justStarted run).1.mpr fun k s at_k _ => ?_
  obtain ⟨inside, -⟩ := List.getElem?_eq_some_iff.mp at_k
  rwa [length_afterNumbered] at inside

/-- The 256th application is given slot 256, whose id decodes to slot 0. -/
theorem slot_256_decodes_to_own :
    ¬ ∀ st₀ st : DMState NamedDocument, OnlyDataManager st₀ → dataManager.Reachable st₀ st →
      NamesSlots st.xTEDSList := by
  intro names
  have run : dataManager.Reachable justStarted (afterNumbered 256) :=
    reachable_afterNumbered (by omega)
  have at_slot : (afterNumbered 256).xTEDSList[256]? = some (numberedSlot 255) := by
    simp [afterNumbered, withRegistrations]
  have decode :=
    (names _ _ onlyDataManager_justStarted run).decode 256 (numberedSlot 255) at_slot rfl
  exact absurd decode (by decide)

end DMState

end Sdm
