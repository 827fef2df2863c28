import Sdm.Lib.Machine
import Sdm.Spa1.AsimTable

/-!
`searchForNewAsims`: how the SPA-1 Manager comes to know its ASIMs.

A search goes through the addresses from `DEFAULT_ADDRESS` on and probes those that are not used. It
goes on to the highest address known so far, and from there for as long as the last probe was
answered. The result of a probe stays in `bytesRead` over the addresses that are not probed, so an
address below the highest one that does not answer can end the search as well.

* `searchForNewAsims_spec`: which ASIMs a search registers.
* `behind_never_found`: an ASIM behind an address where nobody answers is never found.
-/

namespace Sdm

open Lib Spa1AsimTable

/-- What comes of a probe that is answered: how many bytes, the GUID in them, and the xTEDS that
`doRegistration` gets, if it succeeds. -/
structure ProbeAnswer where
  bytesRead : Nat
  guid : Int32
  xTEDS : Option CString

/-- The bus during a search, and the memory that `new` returns for an ASIM at each address. -/
structure Bus where
  probe : UInt8 → Option ProbeAnswer
  memory : UInt8 → Nat
  unset : UInt8 → Spa1Asim.Unset

/-- The locals of `searchForNewAsims`, and the table. -/
structure AsimSearch where
  network : Spa1Network
  bytesRead : Int
  highestAddressResponse : UInt8

namespace AsimSearch

variable (bus : Bus) (highestKnownAddress : UInt8)

/-- The body of the loop. -/
def probe (address : UInt8) (s : AsimSearch) : Except Stop AsimSearch :=
  if s.network.asimTable.checkAddressUsed address then .ok s
  else
    match bus.probe address with
    | none => .ok { s with bytesRead := -1 }
    | some answer =>
        match answer.xTEDS with
        | none => .ok { s with bytesRead := answer.bytesRead }
        | some xTEDS => do
            let network ← s.network.found (bus.memory address) address answer.guid xTEDS
              (bus.unset address)
            .ok
              { network := network
                bytesRead := answer.bytesRead
                highestAddressResponse :=
                  if highestKnownAddress < address then address else s.highestAddressResponse }

/-- The loop from an address on, for as many rounds. -/
def loop : Nat → UInt8 → AsimSearch → Except Stop AsimSearch
  | 0, _, _ => .error .unfinished
  | rounds + 1, address, s =>
      if address ≤ highestKnownAddress ∨ (address < 0x80 ∧ s.bytesRead ≠ -1) then do
        let s ← probe bus highestKnownAddress address s
        loop rounds (address + 1) s
      else .ok s

/-- `searchForNewAsims`. The rounds are enough for all addresses. -/
def searchForNewAsims (network : Spa1Network) : Except Stop AsimSearch :=
  loop bus highestKnownAddress 0x80 DEFAULT_ADDRESS ⟨network, 0, highestKnownAddress⟩

/-! ### What a search comes to -/

variable (used : UInt8 → Bool)

/-- An ASIM at the address answers, and `doRegistration` gets its xTEDS. -/
def Registers (address : UInt8) : Prop :=
  ∃ answer, bus.probe address = some answer ∧ answer.xTEDS.isSome = true

/-- The last address before `n` that is not used answers, if there is one. -/
def Alive (n : Nat) : Prop :=
  ∀ b, DEFAULT_ADDRESS ≤ b → b.toNat < n → used b = false →
    (∀ c : UInt8, b < c → c.toNat < n → used c = true) → bus.probe b ≠ none

/-- The search comes to the address: wherever it passes the highest known address, it goes on. -/
def ComesTo (address : UInt8) : Prop :=
  ∀ n, highestKnownAddress.toNat < n → n ≤ address.toNat → Alive bus used n

/-- The memory is free, and different for different addresses. -/
structure Fresh (bus : Bus) (network : Spa1Network) : Prop where
  free : ∀ address, network.asimTable.heap (bus.memory address) = none
  injective : Function.Injective bus.memory

end AsimSearch

/-! ### One ASIM more -/

/-- `addAsim` marks the address as used, and allocates nothing. -/
theorem addAsim_frame {t t' : Spa1AsimTable} {asim : Nat} {node : Node Spa1Asim}
    (here : t.heap asim = some node) (done : t.addAsim asim = .ok t') :
    t'.addressSpace = Function.update t.addressSpace node.value.i2cAddress true ∧
      ∀ b, t.heap b = none → t'.heap b = none := by
  rw [addAsim, Heap.read_eq here] at done
  simp only [bind, Except.bind] at done
  split at done
  · cases done
    exact ⟨rfl, fun b free => Heap.update_of_free here free _⟩
  · cases done
  · split at done
    · cases done
    · rename_i heap set
      cases done
      refine ⟨rfl, fun b free => ?_⟩
      exact Heap.setNext_of_free set (Heap.update_of_free here free _)

/-- An ASIM that is found is put into the table under its address. -/
theorem found_spec {s : Spa1Network} {l : List (Nat × Spa1Asim)} {asim : Nat} {address : UInt8}
    (inv : s.Inv l) (low : DEFAULT_ADDRESS ≤ address) (high : address < 0x80)
    (unused : s.asimTable.checkAddressUsed address = false) (free : s.asimTable.heap asim = none)
    (guid : Int32) (xTEDS : CString) (unset : Spa1Asim.Unset) :
    ∃ s' l', s.found asim address guid xTEDS unset = .ok s' ∧ s'.Inv l' ∧
      s'.asimTable.addressSpace = Function.update s.asimTable.addressSpace address true ∧
      ∀ b, s.asimTable.heap b = none → b ≠ asim → s'.asimTable.heap b = none := by
  obtain ⟨s', l', found, inv'⟩ := Spa1Network.inv_found inv asim address guid xTEDS unset
  refine ⟨s', l', found, inv', ?_⟩
  rw [Spa1Network.found, if_pos ⟨low, high, Bool.eq_false_iff.mp unused, free⟩] at found
  simp only [bind, Except.bind] at found
  split at found
  · cases found
  · rename_i table added
    cases found
    obtain ⟨used, kept⟩ := addAsim_frame (Function.update_self _ _ _) added
    exact ⟨used, fun b free other => kept b ((Function.update_of_ne other _ _).trans free)⟩

/-! ### One round -/

namespace AsimSearch

variable {bus : Bus} {highestKnownAddress address : UInt8} {network : Spa1Network}
  {s : AsimSearch} {n : Nat}

/-- Where a search stands that comes to the address `n`. -/
structure Scanned (bus : Bus) (highestKnownAddress : UInt8) (used : UInt8 → Bool) (n : Nat)
    (s : AsimSearch) : Prop where
  inv : ∃ l, s.network.Inv l
  free : ∀ a : UInt8, n ≤ a.toNat → s.network.asimTable.heap (bus.memory a) = none
  found : ∀ a, s.network.asimTable.checkAddressUsed a = true ↔
    used a = true ∨ DEFAULT_ADDRESS ≤ a ∧ a.toNat < n ∧ Registers bus a
  alive : s.bytesRead ≠ -1 ↔ Alive bus used n
  known : highestKnownAddress ≤ s.highestAddressResponse
  highest : ∀ a, DEFAULT_ADDRESS ≤ a → highestKnownAddress < a → a.toNat < n → used a = false →
    Registers bus a → a ≤ s.highestAddressResponse
  response : s.highestAddressResponse = highestKnownAddress ∨
    DEFAULT_ADDRESS ≤ s.highestAddressResponse ∧ s.highestAddressResponse.toNat < n ∧
      used s.highestAddressResponse = false ∧ Registers bus s.highestAddressResponse

/-- After a used address, the last probe is the one from before. -/
theorem alive_of_used {used : UInt8 → Bool} (there : used address = true) :
    Alive bus used (address.toNat + 1) ↔ Alive bus used address.toNat := by
  constructor
  · intro alive b low before unused between
    refine alive b low (before.trans (Nat.lt_succ_self _)) unused fun c above lt => ?_
    rcases Nat.lt_succ_iff_lt_or_eq.mp lt with lt | same
    · exact between c above lt
    · exact UInt8.toNat_inj.mp same ▸ there
  · intro alive b low before unused between
    rcases Nat.lt_succ_iff_lt_or_eq.mp before with before | same
    · exact alive b low before unused fun c above lt =>
        between c above (lt.trans (Nat.lt_succ_self _))
    · rw [UInt8.toNat_inj.mp same, there] at unused
      cases unused

/-- After an unused one, it is the one of this address. -/
theorem alive_of_unused {used : UInt8 → Bool} (low : DEFAULT_ADDRESS ≤ address)
    (unused : used address = false) :
    Alive bus used (address.toNat + 1) ↔ bus.probe address ≠ none := by
  constructor
  · intro alive
    refine alive address low (Nat.lt_succ_self _) unused fun c above lt => ?_
    exact absurd (UInt8.lt_iff_toNat_lt.mp above) (by omega)
  · intro answers b _ before _ between
    rcases Nat.lt_succ_iff_lt_or_eq.mp before with before | same
    · have there := between address (UInt8.lt_iff_toNat_lt.mpr before) (Nat.lt_succ_self _)
      rw [unused] at there
      cases there
    · exact UInt8.toNat_inj.mp same ▸ answers

theorem Scanned.response_succ {used : UInt8 → Bool}
    (scanned : Scanned bus highestKnownAddress used n s) :
    s.highestAddressResponse = highestKnownAddress ∨
      DEFAULT_ADDRESS ≤ s.highestAddressResponse ∧ s.highestAddressResponse.toNat < n + 1 ∧
        used s.highestAddressResponse = false ∧ Registers bus s.highestAddressResponse := by
  refine scanned.response.imp_right ?_
  rintro ⟨low, below, new⟩
  exact ⟨low, below.trans (Nat.lt_succ_self n), new⟩

/-- An address that does not register is as good as not scanned. -/
theorem Scanned.silent {used : UInt8 → Bool} {bytesRead : Int}
    (scanned : Scanned bus highestKnownAddress used address.toNat s)
    (silent : used address = true ∨ ¬ Registers bus address)
    (alive : bytesRead ≠ -1 ↔ Alive bus used (address.toNat + 1)) :
    Scanned bus highestKnownAddress used (address.toNat + 1) { s with bytesRead := bytesRead } where
  inv := scanned.inv
  free a above := scanned.free a (by omega)
  found a := by
    rw [scanned.found]
    constructor
    · rintro (before | ⟨low, below, registers⟩)
      · exact .inl before
      · exact .inr ⟨low, below.trans (Nat.lt_succ_self _), registers⟩
    · rintro (before | ⟨low, below, registers⟩)
      · exact .inl before
      · rcases Nat.lt_succ_iff_lt_or_eq.mp below with below | same
        · exact .inr ⟨low, below, registers⟩
        · rw [UInt8.toNat_inj.mp same] at registers ⊢
          exact .inl (silent.resolve_right (not_not_intro registers))
  alive := alive
  known := scanned.known
  highest a low above below unused registers := by
    rcases Nat.lt_succ_iff_lt_or_eq.mp below with below | same
    · exact scanned.highest a low above below unused registers
    · rw [UInt8.toNat_inj.mp same] at unused registers
      rcases silent with before | fails
      · exact absurd (unused.symm.trans before) Bool.false_ne_true
      · exact absurd registers fails
  response := scanned.response_succ

/-- One that registers. -/
theorem Scanned.registered {used : UInt8 → Bool} {answer : ProbeAnswer} {xTEDS : CString}
    (scanned : Scanned bus highestKnownAddress used address.toNat s)
    (injective : Function.Injective bus.memory) (low : DEFAULT_ADDRESS ≤ address)
    (high : address < 0x80) (unused : used address = false)
    (answers : bus.probe address = some answer) (gets : answer.xTEDS = some xTEDS) :
    ∃ network, s.network.found (bus.memory address) address answer.guid xTEDS (bus.unset address) =
        .ok network ∧
      Scanned bus highestKnownAddress used (address.toNat + 1)
        { network := network
          bytesRead := answer.bytesRead
          highestAddressResponse :=
            if highestKnownAddress < address then address else s.highestAddressResponse } := by
  obtain ⟨l, inv⟩ := scanned.inv
  have registers : Registers bus address := ⟨answer, answers, by rw [gets]; rfl⟩
  have unlisted : s.network.asimTable.checkAddressUsed address = false := by
    rw [Bool.eq_false_iff]
    intro there
    rcases scanned.found address |>.mp there with before | ⟨-, below, -⟩
    · exact absurd (unused.symm.trans before) Bool.false_ne_true
    · exact lt_irrefl _ below
  obtain ⟨network, l', done, inv', marked, kept⟩ := found_spec inv low high unlisted
    (scanned.free address le_rfl) answer.guid xTEDS (bus.unset address)
  refine ⟨network, done, ⟨l', inv'⟩, fun a above => ?_, fun a => ?_, ?_, ?_,
    fun a _ above below => ?_, ?_⟩
  · refine kept _ (scanned.free a (by omega)) fun same => ?_
    rw [injective same] at above
    omega
  · rw [Spa1AsimTable.checkAddressUsed, marked]
    by_cases here : a = address
    · subst here
      rw [Function.update_self]
      exact iff_of_true rfl (.inr ⟨low, Nat.lt_succ_self _, registers⟩)
    · have other : a.toNat ≠ address.toNat := fun same => here (UInt8.toNat_inj.mp same)
      have below : a.toNat < address.toNat + 1 ↔ a.toNat < address.toNat := by omega
      rw [Function.update_of_ne here, below]
      exact scanned.found a
  · refine iff_of_true ?_ ((alive_of_unused low unused).mpr ?_)
    · exact (by omega : (answer.bytesRead : Int) ≠ -1)
    · rw [answers]
      exact Option.some_ne_none _
  · split
    · rename_i above
      exact UInt8.le_of_lt above
    · exact scanned.known
  · intro _ _
    have le : a ≤ address := UInt8.le_iff_toNat_le.mpr (Nat.lt_succ_iff.mp below)
    rw [if_pos (UInt8.lt_of_lt_of_le above le)]
    exact le
  · split
    · exact .inr ⟨low, Nat.lt_succ_self _, unused, registers⟩
    · exact scanned.response_succ

/-- **What a round leaves.** -/
theorem scanned_probe {used : UInt8 → Bool}
    (scanned : Scanned bus highestKnownAddress used address.toNat s)
    (injective : Function.Injective bus.memory) (low : DEFAULT_ADDRESS ≤ address)
    (high : address < 0x80) :
    ∃ s', probe bus highestKnownAddress address s = .ok s' ∧
      Scanned bus highestKnownAddress used (address.toNat + 1) s' := by
  have listed : s.network.asimTable.checkAddressUsed address = used address := by
    rw [Bool.eq_iff_iff, scanned.found]
    exact or_iff_left fun below => lt_irrefl _ below.2.1
  rw [probe, listed]
  cases before : used address with
  | true =>
      refine ⟨s, rfl, scanned.silent (.inl before) ?_⟩
      rw [alive_of_used before]
      exact scanned.alive
  | false =>
      rw [if_neg Bool.false_ne_true]
      have alive := @alive_of_unused bus address used low before
      cases answers : bus.probe address with
      | none =>
          refine ⟨_, rfl, scanned.silent (.inr ?_) ?_⟩
          · rintro ⟨answer, there, -⟩
            exact nomatch answers.symm.trans there
          · rw [alive, answers]
            exact iff_of_false (fun differ => differ rfl) fun differ => differ rfl
      | some answer =>
          have heard : (answer.bytesRead : Int) ≠ -1 ↔ Alive bus used (address.toNat + 1) := by
            rw [alive, answers]
            exact iff_of_true (by omega) (Option.some_ne_none _)
          cases gets : answer.xTEDS with
          | none =>
              simp only [gets]
              refine ⟨_, rfl, scanned.silent (.inr ?_) heard⟩
              rintro ⟨other, there, some⟩
              cases answers.symm.trans there
              rw [gets] at some
              cases some
          | some xTEDS =>
              obtain ⟨network, done, after⟩ := scanned.registered injective low high before answers
                gets
              refine ⟨_, ?_, after⟩
              simp only [gets, done, bind, Except.bind]

/-! ### The search -/

/-- Where a search ends. -/
structure Ends (bus : Bus) (highestKnownAddress : UInt8) (used : UInt8 → Bool) (e : Nat) :
    Prop where
  range : DEFAULT_ADDRESS.toNat ≤ e ∧ e ≤ 0x80
  passed : ∀ m, highestKnownAddress.toNat < m → m < e → Alive bus used m
  ended : highestKnownAddress.toNat < e ∧ (e = 0x80 ∨ ¬ Alive bus used e)

/-- The loop from an address on. -/
theorem loop_ends {used : UInt8 → Bool} (injective : Function.Injective bus.memory)
    (known : highestKnownAddress < 0x80) {rounds : Nat} (enough : 0x80 < address.toNat + rounds)
    (scanned : Scanned bus highestKnownAddress used address.toNat s)
    (range : DEFAULT_ADDRESS ≤ address ∧ address ≤ 0x80)
    (passed : ∀ m, highestKnownAddress.toNat < m → m < address.toNat → Alive bus used m) :
    ∃ s' e, loop bus highestKnownAddress rounds address s = .ok s' ∧
      Scanned bus highestKnownAddress used e s' ∧ Ends bus highestKnownAddress used e := by
  have known := UInt8.lt_iff_toNat_lt.mp known
  obtain ⟨low, high⟩ := range
  induction rounds generalizing address s with
  | zero => exact absurd enough (Nat.not_lt.mpr (UInt8.le_iff_toNat_le.mp high))
  | succ rounds ih =>
      rw [loop]
      split
      · rename_i goes
        have below : address.toNat < 0x80 := by
          rcases goes with le | ⟨lt, -⟩
          · exact (UInt8.le_iff_toNat_le.mp le).trans_lt known
          · exact UInt8.lt_iff_toNat_lt.mp lt
        obtain ⟨s', done, after⟩ := scanned_probe scanned injective low
          (UInt8.lt_iff_toNat_lt.mpr below)
        have next : (address + 1).toNat = address.toNat + 1 := by
          rw [UInt8.toNat_add]
          exact Nat.mod_eq_of_lt (Nat.succ_lt_succ (below.trans (by decide : 0x80 < 255)))
        rw [done]
        rw [← next] at after
        refine ih (by omega) after (fun m above lt => ?_) ?_ ?_
        · rw [next] at lt
          rcases Nat.lt_succ_iff_lt_or_eq.mp lt with lt | rfl
          · exact passed m above lt
          · rcases goes with le | ⟨-, heard⟩
            · exact absurd above (Nat.not_lt.mpr (UInt8.le_iff_toNat_le.mp le))
            · exact scanned.alive.mp heard
        · rw [UInt8.le_iff_toNat_le, next]
          exact (UInt8.le_iff_toNat_le.mp low).trans (Nat.le_succ _)
        · exact UInt8.le_iff_toNat_le.mpr (next ▸ below)
      · rename_i stops
        rw [not_or, not_and] at stops
        refine ⟨s, address.toNat, rfl, scanned, ⟨UInt8.le_iff_toNat_le.mp low,
          UInt8.le_iff_toNat_le.mp high⟩, passed, ?_, ?_⟩
        · exact Nat.not_le.mp (mt UInt8.le_iff_toNat_le.mpr stops.1)
        · rcases Nat.lt_or_eq_of_le (UInt8.le_iff_toNat_le.mp high) with lt | same
          · exact .inr (mt scanned.alive.mpr (stops.2 (UInt8.lt_iff_toNat_lt.mpr lt)))
          · exact .inl same

/-- A search comes to the addresses before its end. -/
theorem Ends.comesTo_iff {used : UInt8 → Bool} {e : Nat}
    (ends : Ends bus highestKnownAddress used e) (high : address < 0x80) :
    ComesTo bus highestKnownAddress used address ↔ address.toNat < e := by
  constructor
  · intro comes
    by_contra past
    obtain ⟨above, ended⟩ := ends.ended
    rcases ended with rfl | silent
    · exact past (UInt8.lt_iff_toNat_lt.mp high)
    · exact silent (comes e above (Nat.not_lt.mp past))
  · intro before n above le
    exact ends.passed n above (le.trans_lt before)

/-- Before a search. -/
theorem scanned_start {l : List (Nat × Spa1Asim)} (inv : network.Inv l)
    (fresh : Fresh bus network) :
    Scanned bus highestKnownAddress network.asimTable.checkAddressUsed DEFAULT_ADDRESS.toNat
      ⟨network, 0, highestKnownAddress⟩ where
  inv := ⟨l, inv⟩
  free a _ := fresh.free a
  found a := by
    refine (or_iff_left ?_).symm
    rintro ⟨low, below, -⟩
    exact absurd (UInt8.le_iff_toNat_le.mp low) (Nat.not_le.mpr below)
  alive := by
    refine iff_of_true (fun wrong => nomatch wrong) fun b low below => ?_
    exact absurd (UInt8.le_iff_toNat_le.mp low) (Nat.not_le.mpr below)
  known := UInt8.le_refl _
  highest a low _ below := absurd (UInt8.le_iff_toNat_le.mp low) (Nat.not_le.mpr below)
  response := .inl rfl

/-- The search comes to its end. -/
theorem searched {l : List (Nat × Spa1Asim)} (inv : network.Inv l) (fresh : Fresh bus network)
    (known : highestKnownAddress < 0x80) :
    ∃ s' e, searchForNewAsims bus highestKnownAddress network = .ok s' ∧
      Scanned bus highestKnownAddress network.asimTable.checkAddressUsed e s' ∧
      Ends bus highestKnownAddress network.asimTable.checkAddressUsed e :=
  loop_ends fresh.injective known (by decide) (scanned_start inv fresh) (by decide)
    fun m _ below b low before => absurd (UInt8.le_iff_toNat_le.mp low)
      (Nat.not_le.mpr (before.trans below))

/-- **What a search registers**: of the addresses that were not used, those that it comes to and
where an ASIM registers. It returns the highest address known then. -/
theorem searchForNewAsims_spec {l : List (Nat × Spa1Asim)} (inv : network.Inv l)
    (fresh : Fresh bus network) (known : highestKnownAddress < 0x80) :
    ∃ s' l', searchForNewAsims bus highestKnownAddress network = .ok s' ∧ s'.network.Inv l' ∧
      (∀ a, DEFAULT_ADDRESS ≤ a → a < 0x80 →
        (s'.network.asimTable.checkAddressUsed a = true ↔
          network.asimTable.checkAddressUsed a = true ∨
            ComesTo bus highestKnownAddress network.asimTable.checkAddressUsed a ∧
              Registers bus a)) ∧
      highestKnownAddress ≤ s'.highestAddressResponse ∧
      (∀ a, DEFAULT_ADDRESS ≤ a → a < 0x80 → s'.network.asimTable.checkAddressUsed a = true →
        network.asimTable.checkAddressUsed a = false → a ≤ s'.highestAddressResponse) ∧
      (s'.highestAddressResponse = highestKnownAddress ∨
        s'.network.asimTable.checkAddressUsed s'.highestAddressResponse = true ∧
          network.asimTable.checkAddressUsed s'.highestAddressResponse = false) := by
  obtain ⟨s', e, done, scanned, ends⟩ := searched inv fresh known
  obtain ⟨l', inv'⟩ := scanned.inv
  refine ⟨s', l', done, inv', fun a low high => ?_, scanned.known,
    fun a low _ after before => ?_, ?_⟩
  · rw [scanned.found, ends.comesTo_iff high]
    exact or_congr_right ⟨fun new => new.2, fun new => ⟨low, new⟩⟩
  · rcases (scanned.found a).mp after with there | ⟨-, below, registers⟩
    · exact nomatch before.symm.trans there
    · rcases Nat.lt_or_ge highestKnownAddress.toNat a.toNat with above | le
      · exact scanned.highest a low (UInt8.lt_iff_toNat_lt.mpr above) below before registers
      · exact UInt8.le_trans (UInt8.le_iff_toNat_le.mpr le) scanned.known
  · rcases scanned.response with same | ⟨low, below, before, registers⟩
    · exact .inl same
    · exact .inr ⟨(scanned.found _).mpr (.inr ⟨low, below, registers⟩), before⟩

/-- One ASIM, at the first address. -/
def oneAsim : Bus where
  probe address := if address = 0x11 then some ⟨7, 5, some (.ofString "<xTEDS/>")⟩ else none
  memory := UInt8.toNat
  unset _ := ⟨0, 0, .SENT_HELLO⟩

theorem fresh_oneAsim : Fresh oneAsim .start := ⟨fun _ => rfl, fun _ _ => UInt8.toNat_inj.mp⟩

/-- It is found. -/
theorem searchForNewAsims_one : (searchForNewAsims oneAsim DEFAULT_ADDRESS .start).map
    (fun s => s.network.asimTable.checkAddressUsed 0x11) = .ok true := by
  obtain ⟨s', l', done, -, found, -⟩ := @searchForNewAsims_spec oneAsim DEFAULT_ADDRESS .start []
    Spa1Network.inv_start fresh_oneAsim (by decide)
  rw [done]
  have registers : Registers oneAsim 0x11 := ⟨⟨7, 5, some (.ofString "<xTEDS/>")⟩, rfl, rfl⟩
  exact congrArg Except.ok ((found 0x11 (by decide) (by decide)).mpr
    (.inr ⟨fun n above le => absurd above (Nat.not_lt.mpr le), registers⟩))

/-! ### Runs -/

end AsimSearch

/-- The i2c thread and the others, on the table. -/
inductive Spa1ManagerAction where
  /-- A round of `i2cComm` that searches. -/
  | searchForNewAsims (bus : Bus)
  /-- Anything else that the Manager does with its ASIMs. -/
  | other (a : Spa1Network.Action)

/-- The SPA-1 Manager: its network and the highest known address of `i2cComm`. -/
def spa1Manager : Machine (Spa1Network × UInt8) Spa1ManagerAction Unit where
  step p
    | .searchForNewAsims bus =>
        match AsimSearch.searchForNewAsims bus p.2 p.1 with
        | .ok found => some ((found.network, found.highestAddressResponse), ())
        | .error _ => none
    | .other a =>
        match p.1.step a with
        | .ok network => some ((network, p.2), ())
        | .error _ => none

namespace Spa1Network

variable {s s' : Spa1Network} {l : List (Nat × Spa1Asim)} {a : Action}

/-- Only a search registers an ASIM. -/
def Action.Registers : Action → Prop
  | .found .. => True
  | _ => False

theorem modify_addressSpace {t t' : Spa1AsimTable} {cur : Nat} {f : Spa1Asim → Spa1Asim}
    (done : t.modify cur f = .ok t') : t'.addressSpace = t.addressSpace := by
  rw [Spa1AsimTable.modify] at done
  cases here : t.heap.read cur with
  | error stop =>
      rw [here] at done
      cases done
  | ok node =>
      rw [here] at done
      cases done
      rfl

theorem handle_addressSpace {lookup : Except Stop (Option Nat)} {f : Spa1Asim → Spa1Asim}
    (done : s.handle lookup f = .ok s') : s'.asimTable.addressSpace = s.asimTable.addressSpace := by
  rw [handle] at done
  rcases lookup with stop | found
  · cases done
  · cases found with
    | none =>
        cases done
        rfl
    | some asim =>
        simp only [bind, Except.bind] at done
        split at done
        · cases done
        · rename_i table changed
          cases done
          exact modify_addressSpace changed

/-- Nothing but a search changes the addresses that are used, unless an ASIM is removed. -/
theorem step_addressSpace (inv : s.Inv l) (responds : Responds (.ok s) a) (other : ¬ a.Registers)
    (done : s.step a = .ok s') : s'.asimTable.addressSpace = s.asimTable.addressSpace := by
  cases a with
  | found => exact absurd trivial other
  | sendToAsims =>
      obtain ⟨t', l', looped, frame, -⟩ :=
        inv.wellFormed.forAsims Spa1AsimTable.visits_sendToAsim fun _ _ _ => trivial
      rw [step, Spa1AsimTable.sendToAsims, looped] at done
      cases done
      exact frame.addressSpace
  | recvFromAsims received =>
      obtain ⟨t', l', looped, frame, -⟩ :=
        inv.wellFormed.forAsims Spa1AsimTable.visits_recvFromAsim ((responds_iff inv).mp responds)
      rw [step, Spa1AsimTable.recvFromAsims, looped] at done
      cases done
      exact frame.addressSpace
  | handleAckMsg error => exact handle_addressSpace done
  | handleRegisterMsg sensorIndex => exact handle_addressSpace done
  | handleIdMsg sensorID => exact handle_addressSpace done
  | getAsimByGuid guid =>
      rw [step] at done
      cases looked : s.asimTable.getAsimByGuid guid with
      | error stop =>
          rw [looked] at done
          cases done
      | ok asim =>
          rw [looked] at done
          cases done
          rfl
  | thread i timedOut =>
      rw [step, stepThread] at done
      split at done
      · cases done
        rfl
      · simp only [bind, Except.bind] at done
        split at done
        · cases done
        · split at done
          · cases done
          · rename_i table changed
            cases done
            exact modify_addressSpace changed

end Spa1Network

namespace AsimSearch

/-- The run of a Manager on which nobody answers at the address `b`. -/
def Silent (b : UInt8) (p : Spa1Network × UInt8) : Spa1ManagerAction → Prop
  | .searchForNewAsims bus => Fresh bus p.1 ∧ bus.probe b = none
  | .other a => Spa1Network.Responds (.ok p.1) a ∧ ¬ a.Registers

/-- All that the Manager knows is before the address. -/
structure Before (b : UInt8) (p : Spa1Network × UInt8) : Prop where
  inv : ∃ l, p.1.Inv l
  known : p.2 ≤ b
  used : ∀ a, DEFAULT_ADDRESS ≤ a → a < 0x80 → p.1.asimTable.checkAddressUsed a = true → a < b

/-- A search does not get behind an address where nobody answers. -/
theorem Before.search {b : UInt8} {p : Spa1Network × UInt8} {bus : Bus} (before : Before b p)
    (low : DEFAULT_ADDRESS ≤ b) (high : b < 0x80) (silent : Silent b p (.searchForNewAsims bus)) :
    ∃ s', searchForNewAsims bus p.2 p.1 = .ok s' ∧
      Before b (s'.network, s'.highestAddressResponse) := by
  obtain ⟨fresh, nobody⟩ := silent
  obtain ⟨l, inv⟩ := before.inv
  obtain ⟨s', e, done, scanned, ends⟩ := searched inv fresh
    (UInt8.lt_of_le_of_lt before.known high)
  have unused : p.1.asimTable.checkAddressUsed b = false := by
    rw [Bool.eq_false_iff]
    exact fun there => UInt8.lt_irrefl b (before.used b low high there)
  have dead : ¬ Alive bus p.1.asimTable.checkAddressUsed (b.toNat + 1) := by
    rw [alive_of_unused low unused]
    exact not_not_intro nobody
  have ended : e ≤ b.toNat + 1 := by
    by_contra past
    exact dead (ends.passed _ (Nat.lt_succ_of_le (UInt8.le_iff_toNat_le.mp before.known))
      (Nat.not_le.mp past))
  have first {a : UInt8} (below : a.toNat < e) (registers : Registers bus a) : a < b := by
    rw [UInt8.lt_iff_toNat_lt]
    refine lt_of_le_of_ne (Nat.lt_succ_iff.mp (below.trans_le ended)) fun same => ?_
    obtain ⟨answer, answers, -⟩ := registers
    rw [UInt8.toNat_inj.mp same, nobody] at answers
    cases answers
  refine ⟨s', done, scanned.inv, ?_, fun a low high there => ?_⟩
  · rcases scanned.response with same | ⟨-, below, -, registers⟩
    · exact same ▸ before.known
    · exact UInt8.le_of_lt (first below registers)
  · rcases (scanned.found a).mp there with there | ⟨-, below, registers⟩
    · exact before.used a low high there
    · exact first below registers

/-- **What is behind a gap**: as long as nobody answers at an address, the Manager never has an ASIM
at this address or a higher one, whoever answers there. -/
theorem behind_never_found {b : UInt8} {p : Spa1Network × UInt8} (low : DEFAULT_ADDRESS ≤ b)
    (high : b < 0x80) (run : spa1Manager.Reaches (Silent b) (.start, DEFAULT_ADDRESS) p) :
    ∀ a, b ≤ a → a < 0x80 → p.1.asimTable.checkAddressUsed a = false := by
  have before : Before b p := by
    refine run.invariant ⟨⟨[], Spa1Network.inv_start⟩, low, fun a low high there => ?_⟩ ?_
    · have listed := (Spa1Network.inv_start.wellFormed.used a low high).mp there
      cases listed
    · intro s a s' o before silent taken
      cases a with
      | searchForNewAsims bus =>
          obtain ⟨found, done, after⟩ := before.search low high silent
          simp only [spa1Manager, done, Option.some.injEq, Prod.mk.injEq] at taken
          exact taken.1 ▸ after
      | other a =>
          obtain ⟨responds, other⟩ := silent
          obtain ⟨l, inv⟩ := before.inv
          obtain ⟨network, l', done, inv'⟩ := Spa1Network.inv_step inv responds
          have same := Spa1Network.step_addressSpace inv responds other done
          simp only [spa1Manager, done, Option.some.injEq, Prod.mk.injEq] at taken
          rw [← taken.1]
          refine ⟨⟨l', inv'⟩, before.known, fun a low high there => ?_⟩
          rw [Spa1AsimTable.checkAddressUsed, same] at there
          exact before.used a low high there
  intro a above below
  rw [Bool.eq_false_iff]
  intro there
  have first := before.used a (UInt8.le_trans low above) below there
  exact UInt8.lt_irrefl a (UInt8.lt_of_lt_of_le first above)

/-- A bus with an ASIM at 0x12 and none at 0x11. -/
def gap : Bus where
  probe address := if address = 0x12 then some ⟨7, 5, some (.ofString "<xTEDS/>")⟩ else none
  memory := UInt8.toNat
  unset _ := ⟨0, 0, .SENT_HELLO⟩

/-- A search does not find it. -/
theorem behind_gap : (searchForNewAsims gap DEFAULT_ADDRESS .start).map
    (fun s => s.network.asimTable.checkAddressUsed 0x12) = .ok false := by
  have fresh : Fresh gap .start := ⟨fun _ => rfl, fun _ _ => UInt8.toNat_inj.mp⟩
  obtain ⟨s', -, done, -⟩ := @searched gap DEFAULT_ADDRESS .start [] Spa1Network.inv_start fresh
    (by decide)
  have taken : spa1Manager.step (.start, DEFAULT_ADDRESS) (.searchForNewAsims gap) =
      some ((s'.network, s'.highestAddressResponse), ()) := by
    simp only [spa1Manager, done]
  have silent : Silent 0x11 (.start, DEFAULT_ADDRESS) (.searchForNewAsims gap) := ⟨fresh, rfl⟩
  rw [done]
  exact congrArg Except.ok (behind_never_found (by decide) (by decide) (.step .start silent taken)
    0x12 (by decide) (by decide))

end AsimSearch

end Sdm
