import Sdm.DM.Handlers

/-!
The name of the slot that a document is registered with.

The scan of `AlreadyRegistered` compares the stored name over the length of the
new name only, so the slot it takes can hold a longer name. `registered_name_iff`
says when the slot returned for a document has the name scanned from it: when the
first slot that the scan accepts has no longer name and, if it accepts none, the
parser reads the scanned name.
-/

namespace Sdm

open Lib XTEDSLibraryList

variable {τ : Type}

namespace XTEDSLibraryList

variable [XTEDS τ] {sensor : CString} {type : Hub} {r : Registration} {l l' : XTEDSLibraryList τ}
  {s : XTEDSLibrary τ} {o : Outcome} {k : Nat}

/-- The slot that the scan stops at. -/
def FirstAccepted (sensor : CString) (r : Registration) (l : XTEDSLibraryList τ) (k : Nat)
    (s : XTEDSLibrary τ) : Prop :=
  l[k]? = some s ∧ Accepts sensor r s ∧ ∀ j < k, ∀ t, l[j]? = some t → ¬ Accepts sensor r t

/-- The condition under which the slot returned for a document has its name: the
slot that the scan stops at has no longer name and, when there is none, the parser
reads the name that was scanned. -/
def NamesAgree (sensor : CString) (r : Registration) (l : XTEDSLibraryList τ) : Prop :=
  (∀ k s, FirstAccepted sensor r l k s → ∀ name, s.getName = some name →
    name.length ≤ sensor.length) ∧
  ((∀ s ∈ l, ¬ Accepts sensor r s) → ∀ tree, XTEDS.parse r.text = some tree →
    XTEDS.getDeviceName (tree : τ) = sensor)

/-- A slot whose name extends the scanned one has it when it is no longer. -/
theorem Extends.getName_eq_iff (extended : Extends sensor s) :
    s.getName = some sensor ↔ ∀ name, s.getName = some name → name.length ≤ sensor.length := by
  obtain ⟨_, name, named, isPrefix⟩ := extended
  constructor
  · intro named other named'
    rw [named] at named'
    cases named'
    exact Nat.le_refl _
  · intro noLonger
    rw [named, isPrefix.eq_of_length (noLonger name named)]

theorem FirstAccepted.unique {j : Nat} {t : XTEDSLibrary τ} (first : FirstAccepted sensor r l k s)
    (other : FirstAccepted sensor r l j t) : k = j ∧ s = t := by
  obtain ⟨at_k, accepted, before⟩ := first
  obtain ⟨at_j, accepted', before'⟩ := other
  rcases Nat.lt_trichotomy k j with lt | rfl | gt
  · exact absurd accepted (before' k lt s at_k)
  · exact ⟨rfl, Option.some.inj (at_k.symm.trans at_j)⟩
  · exact absurd accepted' (before j gt t at_j)

/-- With a slot accepted, the name agrees when that slot's does. -/
theorem namesAgree_iff_of_first (first : FirstAccepted sensor r l k s) :
    NamesAgree sensor r l ↔ s.getName = some sensor := by
  rw [first.2.1.1.getName_eq_iff]
  constructor
  · intro agree
    exact agree.1 k s first
  · intro noLonger
    refine ⟨fun j t other => ?_,
      fun unknown => absurd first.2.1 (unknown s (List.mem_of_getElem? first.1))⟩
    obtain ⟨_, rfl⟩ := first.unique other
    exact noLonger

theorem firstAccepted_of_scan (wf : WellFormed l) {how : Recognition}
    (found : scan (recognise sensor r) l = some (some (k, how))) :
    ∃ s, FirstAccepted sensor r l k s ∧ Recognises r s how := by
  obtain ⟨s, at_k, extended, because, before⟩ := (scan_recognise_eq_found_iff wf.named).mp found
  exact ⟨s, ⟨at_k, ⟨extended, how, because⟩, before⟩, because⟩

theorem not_accepts_of_scan (wf : WellFormed l)
    (unknown : scan (recognise sensor r) l = some none) : ∀ s ∈ l, ¬ Accepts sensor r s := by
  intro s mem
  exact (recognise_eq_next_iff (wf.named s mem)).mp (scan_eq_done_iff.mp unknown s mem)

theorem getName_returned_iff (wf : WellFormed l) (done : register sensor type r l = some (l', o))
    (returned : o.slot? = some k) :
    (l'[k]?).bind XTEDSLibrary.getName = some sensor ↔ NamesAgree sensor r l := by
  cases registers done with
  | known found _ =>
      cases returned
      obtain ⟨s, first, _⟩ := firstAccepted_of_scan wf found
      rw [namesAgree_iff_of_first first, first.1, Option.bind_some]
  | takenOver found =>
      cases returned
      obtain ⟨s, first, _⟩ := firstAccepted_of_scan wf found
      rw [namesAgree_iff_of_first first, List.getElem?_modify_eq, first.1]
      rfl
  | stored unknown parsed slots =>
      cases returned
      have unaccepted := not_accepts_of_scan wf unknown
      rw [slots, if_pos rfl, Option.bind_some]
      simp only [XTEDSLibrary.getName, Option.map_some, Option.some.injEq]
      constructor
      · intro same
        refine ⟨fun j t first => absurd first.2.1 (unaccepted t (List.mem_of_getElem? first.1)), ?_⟩
        intro _ tree' reparsed
        rw [parsed] at reparsed
        cases reparsed
        exact same
      · intro agree
        exact agree.2 unaccepted _ parsed
  | invalid => cases returned

end XTEDSLibraryList

namespace DMState

variable [XTEDS τ] {st₀ st : DMState τ}

/-- **When a document is registered under its own name.** In every registry that
the Data Manager reaches the scan ends, and the slot returned for an acknowledged
document has the scanned name exactly when `NamesAgree` holds. -/
theorem registered_name_iff (start : OnlyDataManager st₀) (run : dataManager.Reachable st₀ st)
    (sensor : CString) (type : Hub) (r : Registration) :
    ∃ l o, register sensor type r st.xTEDSList = some (l, o) ∧ ∀ k, o.slot? = some k →
      ((l[k]?).bind XTEDSLibrary.getName = some sensor ↔ NamesAgree sensor r st.xTEDSList) := by
  have wf := wellFormed_reachable run start.wellFormed
  have handled : register sensor type r st.xTEDSList ≠ none := register_ne_none wf.named
  obtain ⟨⟨l, o⟩, done⟩ := Option.ne_none_iff_exists'.mp handled
  exact ⟨l, o, done, fun k returned => getName_returned_iff wf done returned⟩

/-- `Cam` registers while `Camera` is registered, and is given a slot of its own name. -/
theorem registered_name_second :
    ∃ st l, dataManager.exec justStarted [.registerDocument (application "Camera" 5000 1)] =
        some st ∧
      register (.ofString "Cam") .APPLICATION (application "Cam" 5001 2) st.xTEDSList =
        some (l, .stored 2) ∧
      (l[2]?).bind XTEDSLibrary.getName = some (.ofString "Cam") := by
  let camera := slotOf 1 "Camera" (application "Camera" 5000 1)
  have done : dataManager.exec justStarted [.registerDocument (application "Camera" 5000 1)] =
      some (withRegistrations [camera]) := by
    decide
  have run : dataManager.Reachable justStarted (withRegistrations [camera]) :=
    .exec .start (fun _ _ _ => trivial) done
  obtain ⟨l, o, registered, named⟩ := registered_name_iff onlyDataManager_justStarted run
    (.ofString "Cam") .APPLICATION (application "Cam" 5001 2)
  have returned : (register (.ofString "Cam") .APPLICATION (application "Cam" 5001 2)
      (withRegistrations [camera]).xTEDSList).map (·.2) = some (.stored 2) := by
    decide
  rw [registered] at returned
  obtain rfl : o = .stored 2 := Option.some.inj returned
  have unknown : ∀ s ∈ (withRegistrations [camera]).xTEDSList,
      ¬ Accepts (.ofString "Cam") (application "Cam" 5001 2) s :=
    not_accepts_of_scan (wellFormed_reachable run onlyDataManager_justStarted.wellFormed) (by decide)
  refine ⟨_, l, done, registered, (named 2 rfl).mpr ⟨?_, ?_⟩⟩
  · intro k s first
    exact absurd first.2.1 (unknown s (List.mem_of_getElem? first.1))
  · intro _ tree parsed
    have own : XTEDS.parse (application "Cam" 5001 2).text =
        some (⟨.ofString "Cam", []⟩ : NamedDocument) := by
      decide
    rw [own] at parsed
    cases parsed
    rfl

/-- `Camera` registers and cancels; `Cam`, another application, is then given the
slot of `Camera`. -/
theorem shorter_name_takes_slot :
    ¬ ∀ (st₀ st : DMState NamedDocument) (sensor : CString) (type : Hub) (r : Registration)
      (l : XTEDSLibraryList NamedDocument) (o : Outcome) (k : Nat),
      OnlyDataManager st₀ → dataManager.Reachable st₀ st →
      XTEDS.parseDeviceName NamedDocument r.text = some (type, sensor) → IsFramed r.text →
      register sensor type r st.xTEDSList = some (l, o) → o.slot? = some k →
        (l[k]?).bind XTEDSLibrary.getName = some sensor := by
  intro exact
  let camera := application "Camera" 5000 1
  let cam := application "Cam" 5001 2
  let messages : List DMMessage :=
    [.registerDocument camera, .cancelxTEDS (some ⟨camera.source, 0⟩) camera.source]
  obtain ⟨st, done⟩ : ∃ st, dataManager.exec justStarted messages = some st :=
    Option.isSome_iff_exists.mp (by decide)
  have run : dataManager.Reachable justStarted st :=
    Machine.Reaches.exec .start (fun _ _ _ => trivial) done
  have answer : (dataManager.exec justStarted messages).bind (fun st =>
      (register (.ofString "Cam") .APPLICATION cam st.xTEDSList).map fun result =>
        (result.2, (result.1[1]?).bind XTEDSLibrary.getName)) =
      some (.recognised 1 .inactive, some (.ofString "Camera")) := by decide
  rw [done, Option.bind_some] at answer
  obtain ⟨⟨l, o⟩, registered, same⟩ := Option.map_eq_some_iff.mp answer
  obtain ⟨rfl, named⟩ := Prod.ext_iff.mp same
  have named' := exact justStarted st (.ofString "Cam") .APPLICATION cam l _ 1
    onlyDataManager_justStarted run (by decide) (by decide) registered rfl
  exact absurd (named.symm.trans named') (by decide)

end DMState

end Sdm
