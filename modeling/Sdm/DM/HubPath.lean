import Mathlib.Data.List.Chain
import Sdm.DM.Attribute
import Sdm.Lib.Occurrence

/-!
The hub of a device in the configuration (`FindDevicesHubPath` in `Parse.cpp`).

The text is searched for the path of the device. From each place the search goes back to the
`<Device` before it and asks `GetAttribute` for the port and the hub of that element. What
`GetAttribute` returns is compared with zero the other way around: a port that is found makes
the search go on. The array of the port is not set before, so its bytes are an argument.

* `FindDevicesHubPath` has no result when the search leaves the text.
* `walk_kept`: with the result true nothing was written for the caller.
* `misled_iff`: when the result is true.
-/

namespace Sdm.HubPath

open Lib Parse

def DEVICE_TAG : CString := .ofString "<Device"

def SPA_U_PORT : AttributeName := ⟨.ofString "spaUPort", by decide⟩
def SPA_U_HUB : AttributeName := ⟨.ofString "spaUHub", by decide⟩

/-- The size of `ReturnPath`. -/
def RETURN_PATH_SIZE : Nat := 128

/-- The way back to the `<Device` before a place, or to the front. -/
def deviceTag (FileBuf : CString) : Nat → Nat
  | 0 => 0
  | p + 1 => if strncmp (FileBuf.drop (p + 1)) DEVICE_TAG 7 = 0 then p + 1 else deviceTag FileBuf p

/-- The two arrays that are written. -/
structure HubArrays where
  ReturnPath : Memory
  HubPathOut : Memory

/-- What is made of one place of the path. -/
def tryPath (FileBuf DevicePath : CString) (HubPathOutLen : Nat) (arrays : HubArrays)
    (DevicePathLocation : Nat) : HubArrays ⊕ (Bool × Memory) :=
  let DeviceTag := FileBuf.drop (deviceTag FileBuf DevicePathLocation)
  let port := GetAttribute DeviceTag SPA_U_PORT.toCString arrays.ReturnPath RETURN_PATH_SIZE
  if port.1 = 0 then .inl { arrays with ReturnPath := port.2 }
  -- `strcmp(ReturnPath, DevicePath) != 0`
  else if ¬port.2.Has 0 (DevicePath.bytes ++ [0]) then .inl { arrays with ReturnPath := port.2 }
  else
    let hub := GetAttribute DeviceTag SPA_U_HUB.toCString arrays.HubPathOut HubPathOutLen
    if hub.1 = 0 then .inr (false, hub.2) else .inr (true, hub.2)

/-- `FindDevicesHubPath` on the text of the configuration: what it returns, and what stands at
`HubPathOut`. There are as many rounds as places in the text. -/
def FindDevicesHubPath (FileBuf DevicePath : CString) (arrays : HubArrays) (HubPathOutLen : Nat) :
    Option (Bool × Memory) := do
  match ← visit DevicePath.bytes FileBuf.bytes (tryPath FileBuf DevicePath HubPathOutLen)
      (FileBuf.length + 1) 0 arrays with
  | .inl arrays => some (false, arrays.HubPathOut)
  | .inr result => some result

/-! ### What the configuration says -/

section Configuration

variable (text path : CString)

/-- An element of a device has this port. -/
def PortAt (t : Nat) : Prop :=
  DEVICE_TAG.bytes <+: text.bytes.drop t ∧
    ∃ port : Attribute (text.drop t) SPA_U_PORT.toCString, port.value = path

/-- An element of a device has this port, and a hub that fits. -/
def Configured (size : Nat) (hub : CString) : Prop :=
  ∃ t, PortAt text path t ∧ ∃ a : Attribute (text.drop t) SPA_U_HUB.toCString,
    a.value = hub ∧ hub.bytes ≠ [] ∧ hub.length < size

/-- **The hub is looked up**: the search ends, with the hub of an element that has the port, and
with none when no element has it. -/
def LooksUp (size : Nat) : Prop :=
  ∀ arrays, ∃ result, FindDevicesHubPath text path arrays size = some result ∧
    (∀ hub, Configured text path size hub →
      result.1 = true ∧ result.2.Has 0 (hub.bytes ++ [0])) ∧
    ((∀ t, ¬PortAt text path t) → result.1 = false)

/-- The element around a place of the path. -/
def tagAt (p : Nat) : CString := text.drop (deviceTag text p)

/-- `GetAttribute` finds a port for the place. -/
def Ported (p : Nat) : Prop :=
  (GetAttribute (tagAt text p) SPA_U_PORT.toCString (fun _ => 0) RETURN_PATH_SIZE).1 = 0

/-- It finds the path itself. -/
def PortIs (p : Nat) : Prop :=
  Yields (GetAttribute (tagAt text p) SPA_U_PORT.toCString (fun _ => 0) RETURN_PATH_SIZE) path

/-- It finds a hub for the place. -/
def Hubbed (size p : Nat) : Prop :=
  (GetAttribute (tagAt text p) SPA_U_HUB.toCString (fun _ => 0) size).1 = 0

end Configuration

/-! ### One place -/

section Place

variable {text path : CString} {arrays : HubArrays} {size p : Nat}

/-- A port that is found makes the search go on, and stays in the array. -/
theorem tryPath_ported (path : CString) (arrays : HubArrays) (size : Nat)
    (ported : Ported text p) :
    ∃ ReturnPath, tryPath text path size arrays p = .inl { arrays with ReturnPath } ∧
      (ReturnPath.Has 0 (path.bytes ++ [0]) ↔ PortIs text path p) := by
  rcases GetAttribute_eq (tagAt text p) SPA_U_PORT.toCString RETURN_PATH_SIZE with
    failed | ⟨w, -, returns⟩
  · rw [Ported, failed] at ported
    cases ported
  · refine ⟨arrays.ReturnPath.store 0 (w.bytes ++ [0]), ?_, ?_⟩
    · simp only [tryPath]
      rw [show text.drop (deviceTag text p) = tagAt text p from rfl, returns, if_pos rfl]
    · rw [PortIs, returns]
      constructor
      · intro here
        have yields : Yields (0, arrays.ReturnPath.store 0 (w.bytes ++ [0])) path := ⟨rfl, here⟩
        have same : path = w := yields_unique yields ⟨rfl, Memory.has_store⟩
        rw [same]
        exact ⟨rfl, Memory.has_store⟩
      · intro yields
        have same : path = w := yields_unique yields ⟨rfl, Memory.has_store⟩
        rw [same]
        exact Memory.has_store

/-- Without a port the array keeps what it had, and that is compared. -/
theorem tryPath_unported (path : CString) (arrays : HubArrays) (size : Nat)
    (unported : ¬Ported text p) :
    (¬arrays.ReturnPath.Has 0 (path.bytes ++ [0]) ∧ tryPath text path size arrays p = .inl arrays) ∨
    (arrays.ReturnPath.Has 0 (path.bytes ++ [0]) ∧ Hubbed text size p ∧
      ∃ hub, tryPath text path size arrays p = .inr (false, hub)) ∨
    (arrays.ReturnPath.Has 0 (path.bytes ++ [0]) ∧ ¬Hubbed text size p ∧
      tryPath text path size arrays p = .inr (true, arrays.HubPathOut)) := by
  have missed : (GetAttribute (text.drop (deviceTag text p)) SPA_U_PORT.toCString
      arrays.ReturnPath RETURN_PATH_SIZE).1 ≠ 0 := by
    rwa [Ported, GetAttribute_fst _ arrays.ReturnPath] at unported
  have kept := GetAttribute_kept missed
  have hubbed : Hubbed text size p ↔ (GetAttribute (text.drop (deviceTag text p))
      SPA_U_HUB.toCString arrays.HubPathOut size).1 = 0 := by
    rw [Hubbed, GetAttribute_fst _ arrays.HubPathOut]
    rfl
  simp only [tryPath, if_neg missed, kept]
  by_cases same : arrays.ReturnPath.Has 0 (path.bytes ++ [0])
  · rw [if_neg (not_not.mpr same)]
    by_cases hub : Hubbed text size p
    · exact .inr (.inl ⟨same, hub, _, if_pos (hubbed.mp hub)⟩)
    · have none := fun zero => hub (hubbed.mpr zero)
      exact .inr (.inr ⟨same, hub, by rw [if_neg none, GetAttribute_kept none]⟩)
  · exact .inl ⟨same, if_pos same⟩

end Place

/-! ### All places -/

section Places

variable {text path : CString} {arrays : HubArrays} {size p : Nat} {places : List Nat}

/-- What is left over from a place is compared at the next one: the port of the first is the path,
and the second has none. -/
def Pair (text path : CString) (q p : Nat) : Prop := PortIs text path q ∧ ¬Ported text p

/-- The first such pair of neighbouring places is in an element without a hub. -/
def Stale (text path : CString) (size : Nat) (places : List Nat) : Prop :=
  ∃ before q p after, places = before ++ q :: p :: after ∧
    (before ++ [q]).IsChain (fun q p => ¬Pair text path q p) ∧ Pair text path q p ∧
    ¬Hubbed text size p

/-- The first place is in an element with neither a port nor a hub. -/
def Fresh (text : CString) (size : Nat) (places : List Nat) : Prop :=
  ∃ p, places.head? = some p ∧ ¬Ported text p ∧ ¬Hubbed text size p

theorem stale_cons_cons {q : Nat} : Stale text path size (q :: p :: places) ↔
    Pair text path q p ∧ ¬Hubbed text size p ∨
      ¬Pair text path q p ∧ Stale text path size (p :: places) := by
  constructor
  · rintro ⟨before, q', p', after, split, chain, pair, unhubbed⟩
    cases before with
    | nil =>
        cases split
        exact .inl ⟨pair, unhubbed⟩
    | cons first before =>
        cases before with
        | nil =>
            cases split
            exact .inr ⟨(List.isChain_cons_cons.mp chain).1, [], p, p', after, rfl,
              List.isChain_singleton _, pair, unhubbed⟩
        | cons second before =>
            cases split
            exact .inr ⟨(List.isChain_cons_cons.mp chain).1, p :: before, q', p', after, rfl,
              (List.isChain_cons_cons.mp chain).2, pair, unhubbed⟩
  · rintro (⟨pair, unhubbed⟩ | ⟨apart, before, q', p', after, split, chain, pair, unhubbed⟩)
    · exact ⟨[], q, p, places, rfl, List.isChain_singleton _, pair, unhubbed⟩
    · refine ⟨q :: before, q', p', after, by rw [split]; rfl, ?_, pair, unhubbed⟩
      cases before with
      | nil =>
          cases split
          exact List.isChain_cons_cons.mpr ⟨apart, List.isChain_singleton _⟩
      | cons second before =>
          cases split
          exact List.isChain_cons_cons.mpr ⟨apart, chain⟩

/-- Behind a place whose port was compared or kept, the true result comes from a pair. -/
theorem walk_behind {q : Nat}
    (left : arrays.ReturnPath.Has 0 (path.bytes ++ [0]) ↔ PortIs text path q) :
    (∃ hub, walk (tryPath text path size) places arrays = .inr (true, hub)) ↔
      Stale text path size (q :: places) := by
  induction places generalizing arrays q with
  | nil =>
      refine iff_of_false ?_ ?_
      · rintro ⟨hub, ends⟩
        cases ends
      · rintro ⟨before, q', p', after, split, -⟩
        have length := congrArg List.length split
        simp at length
        omega
  | cons p places ih =>
      rw [stale_cons_cons]
      by_cases ported : Ported text p
      · obtain ⟨ReturnPath, next, here⟩ := tryPath_ported path arrays size ported
        have apart : ¬Pair text path q p := fun pair => pair.2 ported
        have step : walk (tryPath text path size) (p :: places) arrays =
            walk (tryPath text path size) places { arrays with ReturnPath } := by
          rw [walk, next]
        rw [step, ih here]
        simp only [apart, false_and, not_false_iff, true_and, false_or]
      · have unset : ¬PortIs text path p := fun yields => ported yields.1
        rcases tryPath_unported path arrays size ported with
          ⟨other, next⟩ | ⟨same, hubbed, hub, ends⟩ | ⟨same, unhubbed, ends⟩
        · have apart : ¬Pair text path q p := fun pair => other (left.mpr pair.1)
          simp only [walk, next]
          rw [ih (q := p) (iff_of_false other unset)]
          simp only [apart, false_and, not_false_iff, true_and, false_or]
        · have pair : Pair text path q p := ⟨left.mp same, ported⟩
          simp only [walk, ends, pair, hubbed, Sum.inr.injEq, Prod.mk.injEq, Bool.false_eq_true,
            false_and, exists_false, not_true, and_false, or_self]
        · have pair : Pair text path q p := ⟨left.mp same, ported⟩
          simp only [walk, ends, pair, unhubbed, Sum.inr.injEq, Prod.mk.injEq, true_and,
            exists_eq', not_false_iff, and_self, not_true, false_and, or_false]

/-- Nothing is written for the caller of a search with the result true. -/
theorem walk_kept {hub : Memory}
    (ends : walk (tryPath text path size) places arrays = .inr (true, hub)) :
    hub = arrays.HubPathOut := by
  induction places generalizing arrays with
  | nil => cases ends
  | cons p places ih =>
      by_cases ported : Ported text p
      · obtain ⟨ReturnPath, next, -⟩ := tryPath_ported path arrays size ported
        rw [walk, next] at ends
        have kept := ih ends
        exact kept
      · rcases tryPath_unported path arrays size ported with
          ⟨-, next⟩ | ⟨-, -, _, stops⟩ | ⟨-, -, stops⟩
        · rw [walk, next] at ends
          exact ih ends
        · rw [walk, stops] at ends
          cases ends
        · rw [walk, stops] at ends
          cases ends
          rfl

/-- What the array holds before is compared at a first place without a port, and nowhere else. -/
theorem walk_true_iff (arrays : HubArrays) :
    (∃ hub, walk (tryPath text path size) places arrays = .inr (true, hub)) ↔
      arrays.ReturnPath.Has 0 (path.bytes ++ [0]) ∧ Fresh text size places ∨
        ¬(arrays.ReturnPath.Has 0 (path.bytes ++ [0]) ∧
            ∃ p, places.head? = some p ∧ ¬Ported text p) ∧
          Stale text path size places := by
  cases places with
  | nil =>
      refine iff_of_false ?_ ?_
      · rintro ⟨hub, ends⟩
        cases ends
      · rintro (⟨-, p, head, -⟩ | ⟨-, before, q, p, after, split, -⟩)
        · cases head
        · cases before <;> cases split
  | cons p places =>
      have head (q : Nat) : (p :: places).head? = some q ↔ p = q := Option.some_inj
      simp only [Fresh, head, exists_eq_left']
      by_cases ported : Ported text p
      · obtain ⟨ReturnPath, next, here⟩ := tryPath_ported path arrays size ported
        rw [walk, next]
        simp only [ported, not_true, false_and, and_false, not_false_iff, true_and, false_or]
        exact walk_behind here
      · have unset : ¬PortIs text path p := fun yields => ported yields.1
        rcases tryPath_unported path arrays size ported with
          ⟨other, next⟩ | ⟨same, hubbed, hub, stops⟩ | ⟨same, unhubbed, stops⟩
        · rw [walk, next]
          simp only [other, false_and, not_false_iff, true_and, false_or]
          exact walk_behind (iff_of_false other unset)
        · rw [walk, stops]
          simp only [same, ported, hubbed, Sum.inr.injEq, Prod.mk.injEq, Bool.false_eq_true,
            false_and, exists_false, not_true, and_false, not_false_iff, and_self, or_self]
        · rw [walk, stops]
          simp only [same, ported, unhubbed, Sum.inr.injEq, Prod.mk.injEq, true_and, exists_eq',
            not_false_iff, and_self, not_true, false_and, or_false]

/-- **When the result is true**, for some contents of the arrays. -/
theorem misled_iff :
    (∃ arrays hub, walk (tryPath text path size) places arrays = .inr (true, hub)) ↔
      Fresh text size places ∨ Stale text path size places := by
  have never : ¬Memory.Has (fun _ => 1) 0 (path.bytes ++ [0]) := by
    intro here
    have terminator := (Memory.has_cons.mp (Memory.has_append.mp here).2).1
    exact absurd terminator (by decide)
  constructor
  · rintro ⟨arrays, ends⟩
    rcases (walk_true_iff arrays).mp ends with ⟨-, fresh⟩ | ⟨-, stale⟩
    · exact .inl fresh
    · exact .inr stale
  · rintro (fresh | stale)
    · exact ⟨⟨Memory.store (fun _ => 0) 0 (path.bytes ++ [0]), fun _ => 0⟩,
        (walk_true_iff _).mpr (.inl ⟨Memory.has_store, fresh⟩)⟩
    · exact ⟨⟨fun _ => 1, fun _ => 0⟩,
        (walk_true_iff _).mpr (.inr ⟨fun compared => never compared.1, stale⟩)⟩

end Places

/-! ### The search -/

section Search

variable {text path : CString} {arrays : HubArrays} {size : Nat}

/-- The search takes the places of a path that is not empty. -/
theorem FindDevicesHubPath_eq (set : path.bytes ≠ []) :
    FindDevicesHubPath text path arrays size =
      match walk (tryPath text path size) (occurrences path.bytes text.bytes 0) arrays with
      | .inl arrays => some (false, arrays.HubPathOut)
      | .inr result => some result := by
  rw [FindDevicesHubPath, visit_eq set (Nat.zero_le _) (by rw [CString.length]; omega)]
  rfl

/-- The empty path stands everywhere, also behind the text. -/
theorem visit_empty {l : List UInt8} {fuel k : Nat} (empty : path.bytes = [])
    (other : arrays.ReturnPath 0 ≠ 0) :
    visit path.bytes l (tryPath text path size) fuel k arrays = none := by
  induction fuel generalizing k arrays with
  | zero => rfl
  | succ fuel ih =>
      have here : find path.bytes (l.drop k) = some 0 := by
        rw [empty]
        exact find_eq_some.mpr ⟨Nat.zero_le _, List.nil_prefix, fun m lt =>
          absurd lt (Nat.not_lt_zero m)⟩
      have goes_on : ∃ next : HubArrays, next.ReturnPath 0 ≠ 0 ∧
          tryPath text path size arrays (k + 0) = .inl next := by
        by_cases ported : Ported text (k + 0)
        · obtain ⟨ReturnPath, next, holds⟩ := tryPath_ported path arrays size ported
          refine ⟨_, fun zero => ?_, next⟩
          refine not_yields_empty empty (holds.mp ?_)
          rw [empty]
          exact Memory.has_cons.mpr ⟨zero, rfl⟩
        · have unequal : ¬arrays.ReturnPath.Has 0 (path.bytes ++ [0]) := by
            rw [empty]
            exact fun same => other (Memory.has_cons.mp same).1
          rcases tryPath_unported path arrays size ported with
            ⟨-, next⟩ | ⟨same, -⟩ | ⟨same, -⟩
          · exact ⟨arrays, other, next⟩
          · exact absurd same unequal
          · exact absurd same unequal
      obtain ⟨next, other, step⟩ := goes_on
      simp only [visit, here, step]
      exact ih other

/-- **When the hub is looked up.** The path is not empty, no element has it as its port together
with a hub that fits, and where no element has it as its port, no place misleads the search. -/
theorem looksUp_iff (text path : CString) (size : Nat) : LooksUp text path size ↔
    path.bytes ≠ [] ∧ (∀ hub, ¬Configured text path size hub) ∧
      ((∀ t, ¬PortAt text path t) →
        ¬(Fresh text size (occurrences path.bytes text.bytes 0) ∨
          Stale text path size (occurrences path.bytes text.bytes 0))) := by
  constructor
  · intro looks
    have set : path.bytes ≠ [] := by
      intro empty
      obtain ⟨result, returns, -⟩ := looks ⟨fun _ => 1, fun _ => 0⟩
      have runs : visit path.bytes text.bytes (tryPath text path size) (text.length + 1) 0
          ⟨fun _ => 1, fun _ => 0⟩ = none := visit_empty empty (by decide)
      rw [FindDevicesHubPath, runs] at returns
      cases returns
    refine ⟨set, ?_, ?_⟩
    · intro hub configured
      obtain ⟨result, returns, finds, -⟩ := looks ⟨fun _ => 0, fun _ => 0⟩
      obtain ⟨found, holds⟩ := finds hub configured
      obtain ⟨-, -, -, -, full, -⟩ := configured
      rw [FindDevicesHubPath_eq set] at returns
      cases walked : walk (tryPath text path size) (occurrences path.bytes text.bytes 0)
          ⟨fun _ => 0, fun _ => 0⟩ with
      | inl arrays =>
          rw [walked] at returns
          cases returns
          cases found
      | inr ended =>
          rw [walked] at returns
          cases returns
          obtain ⟨code, out⟩ := result
          cases found
          rw [walk_kept walked] at holds
          obtain ⟨c, more, bytes⟩ := List.exists_cons_of_ne_nil full
          have first := holds
          rw [bytes] at first
          have zero := (Memory.has_cons.mp first).1
          exact hub.nul_notMem (by rw [bytes, ← zero]; exact List.mem_cons_self)
    · intro absent misled
      obtain ⟨arrays, hub, ends⟩ := misled_iff.mpr misled
      obtain ⟨result, returns, -, none⟩ := looks arrays
      rw [FindDevicesHubPath_eq set, ends] at returns
      cases returns
      cases none absent
  · rintro ⟨set, unconfigured, straight⟩ arrays
    rw [FindDevicesHubPath_eq set]
    cases walked : walk (tryPath text path size) (occurrences path.bytes text.bytes 0) arrays with
    | inl arrays =>
        exact ⟨_, rfl, fun hub configured => absurd configured (unconfigured hub), fun _ => rfl⟩
    | inr result =>
        refine ⟨_, rfl, fun hub configured => absurd configured (unconfigured hub),
          fun absent => ?_⟩
        cases code : result.1 with
        | false => rfl
        | true =>
            refine absurd (misled_iff.mp ⟨arrays, result.2, ?_⟩) (straight absent)
            rw [walked, ← code]

/-- A configuration of one device. -/
def configurationText : CString := .ofString "<Device spaUPort=\"1.2\" spaUHub=\"1\">"

/-- The port of its device. -/
def configuredPort : Attribute (configurationText.drop 0) SPA_U_PORT.toCString where
  front := (CString.ofString "<Device ").bytes
  between := (CString.ofString "=").bytes
  value := .ofString "1.2"
  rest := (CString.ofString " spaUHub=\"1\">").bytes
  split := by decide
  outside := by decide
  first := by decide
  next_quote := by decide
  last_quote := by decide
  within := Attribute.outside_of_clear (by decide)

/-- The hub of its device. -/
def configuredHub : Attribute (configurationText.drop 0) SPA_U_HUB.toCString where
  front := (CString.ofString "<Device spaUPort=\"1.2\" ").bytes
  between := (CString.ofString "=").bytes
  value := .ofString "1"
  rest := (CString.ofString ">").bytes
  split := by decide
  outside := by decide
  first := by decide
  next_quote := by decide
  last_quote := by decide
  within := Attribute.outside_of_clear (by decide)

/-- The hub of a device that the configuration names is not found. -/
theorem not_looksUp :
    ¬ ∀ (text path : CString) (size : Nat), LooksUp text path size := by
  intro all
  have ran : (FindDevicesHubPath configurationText (.ofString "1.2") ⟨fun _ => 0, fun _ => 0⟩
      128).map Prod.fst = some false := by decide
  obtain ⟨result, returns, finds, -⟩ := all configurationText (.ofString "1.2") 128
    ⟨fun _ => 0, fun _ => 0⟩
  have configured : Configured configurationText (.ofString "1.2") 128 (.ofString "1") :=
    ⟨0, ⟨by decide, configuredPort, rfl⟩, configuredHub, rfl, by decide, by decide⟩
  have found := (finds _ configured).1
  rw [returns] at ran
  exact absurd (found.symm.trans (Option.some.inj ran)) (by decide)

end Search

end Sdm.HubPath
