import Sdm.DM.SensorIDs

/-!
A registration that is sent again.

`SDMmessage::SendTo` repeats a message until it is acknowledged, so the Data
Manager can receive a registration that it has already carried out. The document
is then recognised as that of its own slot when no earlier slot is accepted by
the scan and, if the slot was stored for it, `StoreInfo` kept the whole chosen id
and the parser read a name that extends the scanned one (`OwnSlotFirst`).

`retransmission_iff` shows that this is the exact condition, over any messages
in between that leave the slot active. In runs whose registrations all meet the
same condition (`RegistersOnce`) no two active slots are duplicates.
-/

namespace Sdm

open Lib XTEDSLibraryList

variable {τ : Type}

namespace XTEDSLibraryList

/-- `StoreInfo` keeps all of the chosen id that `AlreadyRegistered` compares. -/
def KeepsChosenID (r : Registration) : Prop :=
  r.source.sensorID &&& 0xFFFF = r.source.sensorID &&& 0xFF

instance (r : Registration) : Decidable (KeepsChosenID r) := inferInstanceAs (Decidable (_ = _))

variable [XTEDS τ] {sensor : CString} {type : Hub} {r : Registration}
  {l l' : XTEDSLibraryList τ} {s t : XTEDSLibrary τ} {o : Outcome} {j k : Nat}

/-- The parser reads a name that extends the scanned one. -/
def ParsesAs (τ : Type) [XTEDS τ] (sensor : CString) (r : Registration) : Prop :=
  ∀ tree : τ, XTEDS.parse r.text = some tree → sensor.IsPrefix (XTEDS.getDeviceName tree)

/-- The condition under which a document that was registered with outcome `o` is
recognised as that of slot `k` again. -/
def OwnSlotFirst (sensor : CString) (r : Registration) (o : Outcome) (l : XTEDSLibraryList τ)
    (k : Nat) : Prop :=
  (o = .stored k → KeepsChosenID r ∧ ParsesAs τ sensor r) ∧
  ∀ j < k, ∀ t, l[j]? = some t → ¬ Accepts sensor r t

/-! ### What a slot keeps of the registration -/

omit [XTEDS τ] in
/-- The low bits of a slot's sensor id. -/
theorem sensorIDAt_and {mask chosen : UInt32} (low : mask.toNat < 65536) :
    sensorIDAt mask chosen k &&& 0xFFFF = chosen &&& mask := by
  apply UInt32.toNat_inj.mp
  have below : (chosen &&& mask).toNat < 65536 := by
    rw [UInt32.toNat_and]
    exact lt_of_le_of_lt Nat.and_le_right low
  have masked : (sensorIDAt mask chosen k).toNat &&& 65535 =
      (sensorIDAt mask chosen k).toNat % 65536 := Nat.and_two_pow_sub_one_eq_mod _ 16
  rw [UInt32.toNat_and]
  show (sensorIDAt mask chosen k).toNat &&& 65535 = _
  rw [masked, toNat_sensorIDAt low]
  omega

/-- What the slot returned for a document keeps of it: the endpoint, and the name
and id as far as `AlreadyRegistered` and `StoreInfo` go. -/
structure Keeps (sensor : CString) (r : Registration) (o : Outcome) (k : Nat)
    (s : XTEDSLibrary τ) : Prop where
  inUse : s.available = false
  endpoint : o ≠ .recognised k .taskManager → SameEndpoint r s
  own : o ≠ .recognised k .taskManager → (Extends sensor s ∧ SameChosenID r s ↔
    (o = .stored k → KeepsChosenID r ∧ ParsesAs τ sensor r))
  manager : o = .recognised k .taskManager → r.source.port = PORT_TM

theorem keeps_of_returned (wf : WellFormed l) (done : register sensor type r l = some (l', o))
    (returned : o.slot? = some k) : ∃ s, l'[k]? = some s ∧ Keeps sensor r o k s := by
  cases registers done with
  | @known j how found keeps =>
      obtain rfl : j = k := Option.some.inj returned
      obtain ⟨s, first, because⟩ := firstAccepted_of_scan wf found
      refine ⟨s, first.1, first.2.1.1.1, ?_, ?_, ?_⟩
      · intro notManager
        cases how with
        | inactive => exact absurd rfl keeps
        | registered => exact because.2.1
        | taskManager => exact absurd rfl notManager
      · intro notManager
        cases how with
        | inactive => exact absurd rfl keeps
        | registered =>
            exact iff_of_true ⟨first.2.1.1, because.2.2.1⟩ fun stored => Outcome.noConfusion stored
        | taskManager => exact absurd rfl notManager
      · intro manager
        cases manager
        exact because.2.2
  | @takenOver j found =>
      obtain rfl : j = k := Option.some.inj returned
      obtain ⟨s, first, _⟩ := firstAccepted_of_scan wf found
      have taken : (l.modify j (takeOver j type r))[j]? = some (takeOver j type r s) := by
        rw [List.getElem?_modify_eq, first.1]
        rfl
      refine ⟨_, taken, first.2.1.1.1, fun _ => ⟨rfl, rfl⟩, fun _ => ?_, fun manager => ?_⟩
      · exact iff_of_true ⟨first.2.1.1, (sensorIDAt_and (by decide)).symm⟩
          fun stored => Outcome.noConfusion stored
      · cases manager
  | @stored l' tree _ parsed slots =>
      obtain rfl : freeSpot l = k := Option.some.inj returned
      refine ⟨_, by rw [slots, if_pos rfl], rfl, fun _ => ⟨rfl, rfl⟩, fun _ => ?_,
        fun manager => ?_⟩
      · have chosen : sensorIDAt 0xFF r.source.sensorID (freeSpot l) &&& 0xFFFF =
            r.source.sensorID &&& 0xFF := sensorIDAt_and (by decide)
        constructor
        · rintro ⟨⟨_, name, named, extended⟩, same⟩ _
          refine ⟨same.trans chosen, fun tree' reparsed => ?_⟩
          rw [parsed] at reparsed
          cases reparsed
          cases named
          exact extended
        · intro kept
          obtain ⟨keepsID, parses⟩ := kept rfl
          exact ⟨⟨rfl, _, rfl, parses tree parsed⟩, keepsID.trans chosen.symm⟩
      · cases manager
  | invalid => cases returned

/-! ### Recognising a slot again -/

theorem scan_of_recognised {how : Recognition}
    (done : register sensor type r l = some (l', .recognised k how)) :
    scan (recognise sensor r) l = some (some (k, how)) := by
  cases registers done with
  | known found => exact found
  | takenOver found => exact found

/-- The scan stops at slot `k` as the sender's own exactly when that slot is
accepted and no earlier one is. -/
theorem register_known_iff (wf : WellFormed l) (at_k : l[k]? = some s) (active : s.active = true)
    (endpoint : SameEndpoint r s) (notManager : r.source.port ≠ PORT_TM) :
    register sensor type r l = some (l, .recognised k .registered) ↔
      (Extends sensor s ∧ SameChosenID r s) ∧
        ∀ j < k, ∀ t, l[j]? = some t → ¬ Accepts sensor r t := by
  have scanned : scan (recognise sensor r) l = some (some (k, .registered)) ↔
      (Extends sensor s ∧ SameChosenID r s) ∧
        ∀ j < k, ∀ t, l[j]? = some t → ¬ Accepts sensor r t := by
    rw [scan_recognise_eq_found_iff wf.named]
    constructor
    · rintro ⟨t, at_t, extended, because, before⟩
      obtain rfl : s = t := Option.some.inj (at_k.symm.trans at_t)
      exact ⟨⟨extended, because.2.2.1⟩, before⟩
    · rintro ⟨⟨extended, chosen⟩, before⟩
      exact ⟨s, at_k, extended, ⟨active, endpoint, chosen, notManager⟩, before⟩
  rw [← scanned]
  constructor
  · exact scan_of_recognised
  · intro found
    simp [register, alreadyRegistered, found]

omit [XTEDS τ] in
theorem SameEndpoint.of_core (same : core t = core s) : SameEndpoint r s ↔ SameEndpoint r t := by
  have id : t.id = s.id := by
    simpa using congrArg XTEDSLibrary.id same
  rw [SameEndpoint, SameEndpoint, id]

omit [XTEDS τ] in
theorem SameChosenID.of_core (same : core t = core s) : SameChosenID r s ↔ SameChosenID r t := by
  have id : t.id = s.id := by
    simpa using congrArg XTEDSLibrary.id same
  rw [SameChosenID, SameChosenID, id]

theorem Extends.of_core (same : core t = core s) : Extends sensor s ↔ Extends sensor t := by
  have inUse : t.available = s.available := by
    simpa using congrArg XTEDSLibrary.available same
  have named : t.getName = s.getName := by
    simpa using congrArg XTEDSLibrary.getName same
  rw [Extends, Extends, inUse, named]

/-! ### Duplicates -/

/-- Two slots with the same name, address, port and chosen id. -/
def SameComponent (s t : XTEDSLibrary τ) : Prop :=
  s.getName = t.getName ∧ s.id.address = t.id.address ∧ s.id.port = t.id.port ∧
    s.id.sensorID &&& 0xFFFF = t.id.sensorID &&& 0xFFFF

/-- No two active slots are for the same component. -/
def NoDuplicates (l : XTEDSLibraryList τ) : Prop :=
  ∀ (j k : Nat) (s t : XTEDSLibrary τ), l[j]? = some s → l[k]? = some t → s.active = true →
    t.active = true → SameComponent s t → j = k

/-- The condition on a registration under which it adds no duplicate: the scan
stops at no slot before an active slot of the sender, and a document that is
stored keeps its chosen id and its name. -/
def RegistersOnce (l : XTEDSLibraryList τ) (sensor : CString) (r : Registration) : Prop :=
  (∀ (k : Nat) (s : XTEDSLibrary τ), l[k]? = some s → s.active = true → Extends sensor s →
    SameEndpoint r s → SameChosenID r s → ∀ j < k, ∀ t, l[j]? = some t → ¬ Accepts sensor r t) ∧
  ((∀ s ∈ l, ¬ Accepts sensor r s) → KeepsChosenID r ∧ ParsesAs τ sensor r)

theorem SameComponent.symm (same : SameComponent s t) : SameComponent t s :=
  ⟨same.1.symm, same.2.1.symm, same.2.2.1.symm, same.2.2.2.symm⟩

theorem SameComponent.of_core {s' t' : XTEDSLibrary τ} (sameS : core s' = core s)
    (sameT : core t' = core t) (same : SameComponent s' t') : SameComponent s t := by
  have idS : s'.id = s.id := by simpa using congrArg XTEDSLibrary.id sameS
  have idT : t'.id = t.id := by simpa using congrArg XTEDSLibrary.id sameT
  have nameS : s'.getName = s.getName := by simpa using congrArg XTEDSLibrary.getName sameS
  have nameT : t'.getName = t.getName := by simpa using congrArg XTEDSLibrary.getName sameT
  rwa [SameComponent, idS, idT, nameS, nameT] at same

/-- A slot written at position `k` is no duplicate of the others when none of them
is for its component. -/
theorem noDuplicates_write (unique : NoDuplicates l) (others : ∀ j ≠ k, l'[j]? = l[j]?)
    (new : ∀ s, l'[k]? = some s → s.active = true → ∀ j ≠ k, ∀ t, l[j]? = some t →
      t.active = true → ¬ SameComponent s t) : NoDuplicates l' := by
  intro i j s t at_i at_j activeS activeT same
  by_cases hereI : i = k
  · by_cases hereJ : j = k
    · rw [hereI, hereJ]
    · subst hereI
      rw [others j hereJ] at at_j
      exact absurd same (new s at_i activeS j hereJ t at_j activeT)
  · rw [others i hereI] at at_i
    by_cases hereJ : j = k
    · subst hereJ
      exact absurd same.symm (new t at_j activeT i hereI s at_i activeS)
    · rw [others j hereJ] at at_j
      exact unique i j s t at_i at_j activeS activeT same

theorem noDuplicates_register (wf : WellFormed l) (unique : NoDuplicates l)
    (once : RegistersOnce l sensor r) (done : register sensor type r l = some (l', o)) :
    NoDuplicates l' := by
  cases registers done with
  | known => exact unique
  | @takenOver k found =>
      obtain ⟨s, first, _⟩ := firstAccepted_of_scan wf found
      have taken : (l.modify k (takeOver k type r))[k]? = some (takeOver k type r s) := by
        rw [List.getElem?_modify_eq, first.1]
        rfl
      refine noDuplicates_write unique (fun j other => List.getElem?_modify_ne _ _ other.symm) ?_
      intro s' at_k _ j other t at_j activeT same
      rw [taken] at at_k
      cases at_k
      obtain ⟨sameName, sameAddress, samePort, sameID⟩ := same
      -- the active slot would be accepted too, so the scan stopped before it
      have extended : Extends sensor t := by
        obtain ⟨_, name, named, isPrefix⟩ := first.2.1.1
        exact ⟨(wf j t at_j).inUse activeT, name, sameName.symm.trans named, isPrefix⟩
      have endpoint : SameEndpoint r t := ⟨samePort, sameAddress⟩
      have chosen : SameChosenID r t := (sensorIDAt_and (by decide)).symm.trans sameID
      have accepted : Accepts sensor r t :=
        accepts_iff.mpr ⟨extended, .inr ⟨endpoint, .inl chosen⟩⟩
      rcases Nat.lt_or_gt_of_ne other with before | after
      · exact first.2.2 j before t at_j accepted
      · exact once.1 j t at_j activeT extended endpoint chosen k after s first.1 first.2.1
  | stored unknown parsed slots =>
      have unaccepted := not_accepts_of_scan wf unknown
      obtain ⟨keeps, parses⟩ := once.2 unaccepted
      refine noDuplicates_write unique (fun j other => by rw [slots, if_neg other]) ?_
      intro s at_k _ j _ t at_j activeT same
      rw [slots, if_pos rfl] at at_k
      cases at_k
      obtain ⟨sameName, sameAddress, samePort, sameID⟩ := same
      have extended : Extends sensor t :=
        ⟨(wf j t at_j).inUse activeT, _, sameName.symm, parses _ parsed⟩
      have chosen : SameChosenID r t := (keeps.trans (sensorIDAt_and (by decide)).symm).trans sameID
      exact unaccepted t (List.mem_of_getElem? at_j)
        (accepts_iff.mpr ⟨extended, .inr ⟨⟨samePort, sameAddress⟩, .inl chosen⟩⟩)
  | invalid _ _ slots =>
      refine noDuplicates_write unique (fun j other => by rw [slots, if_neg other]) ?_
      intro s at_k active
      rw [slots, if_pos rfl] at at_k
      cases at_k
      cases active

theorem noDuplicates_step {w : RegistryWrite} {out : Option Outcome} (wf : WellFormed l)
    (unique : NoDuplicates l) (guard : OnRegister RegistersOnce l w)
    (done : registryMachine.step l w = some (l', out)) : NoDuplicates l' := by
  have ofSilent : w.Silent → NoDuplicates l' := by
    intro silent j k s' t' at_j at_k activeS activeT same
    obtain ⟨s, old_j, wasActiveS, sameS⟩ := active_before silent done at_j activeS
    obtain ⟨t, old_k, wasActiveT, sameT⟩ := active_before silent done at_k activeT
    exact unique j k s t old_j old_k wasActiveS wasActiveT (same.of_core sameS sameT)
  cases w with
  | register sensor type r =>
      obtain ⟨⟨l₁, o⟩, registered, same⟩ := Option.map_eq_some_iff.mp done
      cases same
      exact noDuplicates_register wf unique guard registered
  | quiesce => exact ofSilent trivial
  | release => exact ofSilent trivial
  | suspend => exact ofSilent trivial
  | mark => exact ofSilent trivial

/-- Runs whose registrations meet `RegistersOnce` make no duplicates. -/
theorem NoDuplicates.reaches (run : registryMachine.Reaches (OnRegister RegistersOnce) l l')
    (wf : WellFormed l) (unique : NoDuplicates l) : NoDuplicates l' := by
  refine (run.invariant (I := fun l => WellFormed l ∧ NoDuplicates l) ⟨wf, unique⟩ ?_).2
  rintro l w l' out ⟨wf, unique⟩ guard done
  exact ⟨wellFormed_step wf done, noDuplicates_step wf unique guard done⟩

end XTEDSLibraryList

namespace DMState

variable [XTEDS τ] {st₀ st st' st₁ st₂ : DMState τ} {out : List Effect} {msg : DMMessage} {k : Nat}
  {s s' : XTEDSLibrary τ}

/-- A slot that is active before and after a message is the same slot. -/
theorem core_stays (wf : WellFormed st.xTEDSList)
    (taken : dataManager.step st msg = some (st', out))
    (at_k : st.xTEDSList[k]? = some s) (active : s.active = true)
    (at_k' : st'.xTEDSList[k]? = some s') (active' : s'.active = true) : core s' = core s := by
  have ofSilent : (∀ r, msg ≠ .registerDocument r) → core s' = core s := by
    intro silent
    have guard : OnDocument (fun (_ : XTEDSLibraryList τ) _ _ => False) st msg := by
      cases msg with
      | registerDocument r => exact absurd rfl (silent r)
      | _ => trivial
    have noRegister : ∀ (l : XTEDSLibraryList τ) w,
        OnRegister (fun _ _ _ => False) l w → w.Silent := by
      intro l w allowed
      cases w with
      | register => exact allowed
      | _ => trivial
    obtain ⟨t, at_t, _, same⟩ :=
      active_before_run noRegister (registry_step guard taken) at_k' active'
    rw [at_k] at at_t
    cases at_t
    exact same
  cases msg with
  | registerDocument r =>
      rcases registerDocument_cases taken with rfl | ⟨type, sensor, l, o, _, done, quiet⟩
      · rw [at_k] at at_k'
        cases at_k'
        rfl
      · obtain ⟨t, at_t, same⟩ := core_at quiet.slots at_k'
        rw [register_keeps_active wf done at_k active] at at_t
        cases at_t
        exact same
  | cancelxTEDS => exact ofSilent fun _ => DMMessage.noConfusion
  | taskError => exact ofSilent fun _ => DMMessage.noConfusion
  | reqReg => exact ofSilent fun _ => DMMessage.noConfusion
  | consume => exact ofSilent fun _ => DMMessage.noConfusion
  | cancel => exact ofSilent fun _ => DMMessage.noConfusion

/-- While a slot stays active it keeps everything but its counts. -/
theorem core_of_stays (wf : WellFormed st₂.xTEDSList) (at_k : st₂.xTEDSList[k]? = some s)
    (stays : dataManager.Reaches (fun st _ => ActiveAt k st.xTEDSList) st₂ st)
    (at_k' : st.xTEDSList[k]? = some s') (active' : s'.active = true) : core s' = core s := by
  have kept : WellFormed st.xTEDSList ∧ ∀ t, st.xTEDSList[k]? = some t → t.active = true →
      core t = core s := by
    refine stays.invariant (I := fun st => WellFormed st.xTEDSList ∧
      ∀ t, st.xTEDSList[k]? = some t → t.active = true → core t = core s) ⟨wf, ?_⟩ ?_
    · intro t at_t _
      rw [at_k] at at_t
      cases at_t
      rfl
    · rintro st msg st' out ⟨wf, same⟩ ⟨t, at_t, activeT⟩ taken
      refine ⟨wellFormed_reachable (Machine.Reachable.next .start taken) wf, ?_⟩
      intro t' at_t' activeT'
      exact (core_stays wf taken at_t activeT at_t' activeT').trans (same t at_t activeT)
  exact kept.2 s' at_k' active'

/-- A registration that is received again while its slot has stayed active. -/
theorem known_again_iff {r : Registration} {type : Hub} {sensor : CString}
    {l : XTEDSLibraryList τ} {o : Outcome} (wf : WellFormed st₁.xTEDSList)
    (scanned : XTEDS.parseDeviceName τ r.text = some (type, sensor)) (framed : IsFramed r.text)
    (registered : register sensor type r st₁.xTEDSList = some (l, o)) (returned : o.slot? = some k)
    (taken : dataManager.step st₁ (.registerDocument r) = some (st₂, out))
    (stays : dataManager.Reaches (fun st _ => ActiveAt k st.xTEDSList) st₂ st)
    (active : ActiveAt k st.xTEDSList) (notManager : r.source.port ≠ PORT_TM) :
    register sensor type r st.xTEDSList = some (st.xTEDSList, .recognised k .registered) ↔
      OwnSlotFirst sensor r o st.xTEDSList k := by
  obtain ⟨s, at_s, keeps⟩ := keeps_of_returned wf registered returned
  have quiet := quiet_registerDocument scanned framed registered taken
  obtain ⟨s₂, at_s₂, same₂⟩ := core_at quiet.slots.symm at_s
  have wf₂ := wellFormed_reachable (Machine.Reachable.next .start taken) wf
  obtain ⟨t, at_t, activeT⟩ := active
  have same : core t = core s :=
    (core_of_stays wf₂ at_s₂ stays at_t activeT).trans same₂.symm
  have wfT := wellFormed_reachable stays.reachable wf₂
  have other : o ≠ .recognised k .taskManager := fun manager => notManager (keeps.manager manager)
  have endpoint := (SameEndpoint.of_core same).mp (keeps.endpoint other)
  rw [register_known_iff wfT at_t activeT endpoint notManager, OwnSlotFirst, ← keeps.own other,
    Extends.of_core same, SameChosenID.of_core same]

/-- **When a repeated registration changes nothing.** For every registration that
the Data Manager has acknowledged with a slot, and every later state up to which
the slot has stayed active, receiving the same message again finds that slot with
`spot = -1` and leaves the registry alone exactly when `OwnSlotFirst` holds. In
every run whose registrations meet `RegistersOnce` no two active slots are for the
same component. -/
theorem retransmission_iff (start : OnlyDataManager st₀) :
    (∀ (st₁ st₂ st : DMState τ) (out : List Effect) (r : Registration) (type : Hub)
      (sensor : CString) (l : XTEDSLibraryList τ) (o : Outcome) (k : Nat),
      dataManager.Reachable st₀ st₁ →
      XTEDS.parseDeviceName τ r.text = some (type, sensor) → IsFramed r.text →
      register sensor type r st₁.xTEDSList = some (l, o) → o.slot? = some k →
      dataManager.step st₁ (.registerDocument r) = some (st₂, out) →
      dataManager.Reaches (fun st _ => ActiveAt k st.xTEDSList) st₂ st →
      ActiveAt k st.xTEDSList → r.source.port ≠ PORT_TM →
      (register sensor type r st.xTEDSList = some (st.xTEDSList, .recognised k .registered) ↔
        OwnSlotFirst sensor r o st.xTEDSList k)) ∧
    ∀ st : DMState τ, dataManager.Reaches (OnDocument RegistersOnce) st₀ st →
      NoDuplicates st.xTEDSList := by
  constructor
  · intro st₁ st₂ st out r type sensor l o k run scanned framed registered returned taken stays
      active notManager
    exact known_again_iff (wellFormed_reachable run start.wellFormed) scanned framed registered
      returned taken stays active notManager
  · intro st run
    have wf := start.wellFormed
    obtain ⟨s, only, _⟩ := start
    refine NoDuplicates.reaches (registry_run run) wf ?_
    intro j k s t at_j at_k _ _ _
    rw [only] at at_j at_k
    have zero : ∀ {i : Nat} {u v : XTEDSLibrary τ}, [u][i]? = some v → i = 0 := by
      intro i u v at_i
      have := (List.getElem?_eq_some_iff.mp at_i).1
      simp only [List.length_singleton] at this
      omega
    rw [zero at_j, zero at_k]

/-- Two applications of one name, at different ports. -/
def firstX : Registration := application "X" 5000 1
def secondX : Registration := application "X" 5001 2

/-- The confirmation of a registration that nobody else is told of. -/
def confirmed (r : Registration) (sensorID : UInt32) : List Effect :=
  [confirm r sensorID, .ack .SDM_OK]

theorem register_firstX :
    register (.ofString "X") .APPLICATION firstX justStarted.xTEDSList =
      some ((withRegistrations [slotOf 1 "X" firstX]).xTEDSList, .stored 1) := by decide

theorem step_firstX : dataManager.step justStarted (.registerDocument firstX) =
    some (withRegistrations [slotOf 1 "X" firstX], confirmed firstX 0x10001) := by decide

/-- An application whose registration is repeated at once is recognised. -/
theorem retransmission_first :
    register (.ofString "X") .APPLICATION firstX
        (withRegistrations [slotOf 1 "X" firstX]).xTEDSList =
      some ((withRegistrations [slotOf 1 "X" firstX]).xTEDSList, .recognised 1 .registered) := by
  refine ((retransmission_iff onlyDataManager_justStarted).1 justStarted _ _ _ firstX .APPLICATION
    (.ofString "X") _ (.stored 1) 1 .start (by decide) (by decide) register_firstX rfl step_firstX
    .start ⟨_, rfl, rfl⟩ (by decide)).mpr ⟨fun _ => ⟨by decide, ?_⟩, ?_⟩
  · intro tree parsed
    have document :
        (XTEDS.parse firstX.text : Option NamedDocument) = some ⟨.ofString "X", []⟩ := by
      decide
    rw [document] at parsed
    cases parsed
    exact CString.IsPrefix.refl _
  · intro j before t at_j
    obtain rfl : j = 0 := by omega
    cases at_j
    exact (recognise_eq_next_iff fun _ => rfl).mp (by decide)

/-- Two applications named `X` register, the first cancels, and the second repeats
its registration: it is given the slot of the first, and has two active slots. -/
theorem retransmission_takes_other_slot :
    ¬ ∀ (st₀ st₁ st₂ st : DMState NamedDocument) (out : List Effect) (r : Registration)
      (type : Hub) (sensor : CString) (l : XTEDSLibraryList NamedDocument) (o : Outcome) (k : Nat),
      OnlyDataManager st₀ → dataManager.Reachable st₀ st₁ →
      XTEDS.parseDeviceName NamedDocument r.text = some (type, sensor) → IsFramed r.text →
      register sensor type r st₁.xTEDSList = some (l, o) → o.slot? = some k →
      dataManager.step st₁ (.registerDocument r) = some (st₂, out) →
      dataManager.Reaches (fun st _ => ActiveAt k st.xTEDSList) st₂ st →
      ActiveAt k st.xTEDSList → r.source.port ≠ PORT_TM →
      register sensor type r st.xTEDSList = some (st.xTEDSList, .recognised k .registered) := by
  intro idempotent
  let one := slotOf 1 "X" firstX
  let two := slotOf 2 "X" secondX
  let cancelled : XTEDSLibrary NamedDocument := { one with active := false }
  have run : dataManager.Reachable justStarted (withRegistrations [one]) :=
    Machine.Reachable.next .start step_firstX
  have registered :
      register (.ofString "X") .APPLICATION secondX (withRegistrations [one]).xTEDSList =
      some ((withRegistrations [one, two]).xTEDSList, .stored 2) := by decide
  have taken : dataManager.step (withRegistrations [one]) (.registerDocument secondX) =
      some (withRegistrations [one, two], confirmed secondX 0x20002) := by decide
  have cancels : dataManager.step (withRegistrations [one, two])
      (.cancelxTEDS (some ⟨firstX.source, 0⟩) firstX.source) =
        some (withRegistrations [cancelled, two], [.ack .SDM_OK]) := by decide
  have stays : dataManager.Reaches (fun st _ => ActiveAt 2 st.xTEDSList)
      (withRegistrations [one, two]) (withRegistrations [cancelled, two]) :=
    .step .start ⟨two, rfl, rfl⟩ cancels
  have again := idempotent justStarted _ _ _ _ secondX .APPLICATION (.ofString "X") _ _ 2
    onlyDataManager_justStarted run (by decide) (by decide) registered rfl taken stays
    ⟨two, rfl, rfl⟩ (by decide)
  exact absurd again (by decide)

end DMState

end Sdm
