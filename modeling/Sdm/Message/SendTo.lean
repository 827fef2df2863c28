import Sdm.Message.XTEDSMessage

/-!
`SDMmessage::SendTo`: a registration is repeated until it is acknowledged.

The answers are received into an array that is not cleared, neither before the first attempt
nor between two of them, so an acknowledgement that was in it before the call counts as
received when the first attempt is not answered.

* `attempts_cases`: where the loop stops.
* `sendTo_of_taken`, `sendTo_of_unheard`: what is returned.
-/

namespace Sdm.SDMmessage

open Lib Memory

/-- `SDM_CancelxTEDS`. -/
def SDM_CancelxTEDS : UInt8 := 'r'.toUInt8

/-- `SDM_ACK`. -/
def SDM_ACK : UInt8 := 'G'.toUInt8

/-- `SDM_MESSAGE_SEND_ERROR`. -/
def SDM_MESSAGE_SEND_ERROR : Int := -1

/-- `SDM_UNABLE_TO_REGISTER`. -/
def SDM_UNABLE_TO_REGISTER : Int := -9

/-- What comes of one `UDPrecv`: nothing within the timeout, or a datagram. -/
abbrev Answer := Option (List UInt8)

/-- What the calls of the network give: whether `UDPconnect` has a socket, the bytes that each
`UDPsend` sends or none for its -1, and what each `UDPrecv` receives. -/
structure Network where
  connects : Bool
  sends : Nat → Option Nat
  answers : Nat → Answer

/-- The result of the `UDPsend`. -/
def Network.sent (network : Network) (k : Nat) : Int := ((network.sends k).map Nat.cast).getD (-1)

/-- `UDPrecv(sock, &ack, 13)`. -/
def UDPrecv (ack : Memory) (answer : Answer) : Memory :=
  match answer with
  | none => ack
  | some datagram => ack.store 0 (datagram.take 13)

/-- The error code of the acknowledgement in the array: `GET_SHORT(&ack[11])`. -/
def errorCode (ack : Memory) : Int := (ack.load16 11).toInt16.toInt

/-- The locals of `SendTo`, and how often it has sent and received. -/
structure Attempts where
  ack : Memory
  count : Nat
  result : Int
  sent : Nat
  received : Nat

namespace Attempts

/-- `UDPsend`. -/
def send (network : Network) (s : Attempts) : Attempts :=
  { s with result := network.sent s.sent, sent := s.sent + 1 }

/-- `UDPrecv`. -/
def recv (network : Network) (s : Attempts) : Attempts :=
  { s with ack := UDPrecv s.ack (network.answers s.received), received := s.received + 1 }

/-- The loop, with `retries` for `NUMRETRIES - count`. -/
def loop (network : Network) : Nat → Attempts → Attempts
  | 0, s => s
  | retries + 1, s =>
      if s.ack 0 ≠ SDM_ACK then
        loop network retries (({ s with count := s.count + 1 }.send network).recv network)
      else s

end Attempts

/-- `SDMmessage::SendTo`, for a message that `Marshal` has made `i` bytes of in `buf`. The arrays
and `result` are not initialized. -/
def SendTo (NUMRETRIES : Nat) (network : Network) (i : Int) (buf ack : Memory) (result : Int) :
    Attempts :=
  let s : Attempts := ⟨ack, 0, result, 0, 0⟩
  if i < 0 then { s with result := SDM_MESSAGE_SEND_ERROR }
  else if network.connects then
    let s := s.send network
    if buf 0 = SDM_xTEDS ∨ buf 0 = SDM_CancelxTEDS then
      let s := (s.recv network).loop network NUMRETRIES
      if s.count = NUMRETRIES ∧ s.ack 0 ≠ SDM_ACK then { s with result := SDM_UNABLE_TO_REGISTER }
      else if errorCode s.ack < 0 then { s with result := errorCode s.ack }
      else s
    else s
  else s

/-! ### What is to be reported -/

/-- An answer that is a whole `SDM_ACK`, with this error code. -/
def Acknowledges (error : Int) (answer : Answer) : Prop :=
  ∃ datagram, answer = some datagram ∧ 13 ≤ datagram.length ∧ datagram.head? = some SDM_ACK ∧
    error = errorCode fun k => datagram.getD k 0

/-- What the caller of a registration is told: whether it was acknowledged. -/
structure Told (NUMRETRIES : Nat) (network : Network) (s : Attempts) : Prop where
  accepted : 0 ≤ s.result →
    ∃ k < s.received, ∃ error, Acknowledges error (network.answers k) ∧ 0 ≤ error
  refused : ∀ k < s.received, ∀ error, Acknowledges error (network.answers k) → error < 0 →
    s.result = error
  unheard : (∀ k < s.received, ∀ error, ¬ Acknowledges error (network.answers k)) →
    s.result = SDM_UNABLE_TO_REGISTER
  few : s.sent ≤ NUMRETRIES + 1

/-! ### The array -/

/-- What the array holds after so many answers. -/
def contents (network : Network) (ack : Memory) : Nat → Memory
  | 0 => ack
  | k + 1 => UDPrecv (contents network ack k) (network.answers k)

/-- The answer begins like an `SDM_ACK`. -/
def BeginsAck (answer : Answer) : Prop := ∃ rest, answer = some (SDM_ACK :: rest)

/-- The first byte of the array stays. -/
def LeavesFirst (answer : Answer) : Prop := answer = none ∨ answer = some []

/-- An acknowledgement is in the array, and the first attempt is not answered. -/
def Stale (network : Network) (ack : Memory) : Prop :=
  ack 0 = SDM_ACK ∧ LeavesFirst (network.answers 0)

/-- The first answer that begins like an `SDM_ACK`. -/
def FirstAck (network : Network) (k : Nat) : Prop :=
  BeginsAck (network.answers k) ∧ ∀ j < k, ¬ BeginsAck (network.answers j)

/-- The answers are told right when the array is not mistaken for an acknowledgement, or when
the error code in it is the one that is told anyway. -/
def Answered (NUMRETRIES : Nat) (network : Network) (ack : Memory) : Prop :=
  (Stale network ack → errorCode ack = SDM_UNABLE_TO_REGISTER) ∧
  (¬ Stale network ack → ∀ k ≤ NUMRETRIES, FirstAck network k →
    (∃ error, Acknowledges error (network.answers k)) ∨
      errorCode (contents network ack (k + 1)) = SDM_UNABLE_TO_REGISTER)

/-- The locals when so many repetitions were answered. -/
def Attempts.after (network : Network) (ack : Memory) (k : Nat) : Attempts :=
  ⟨contents network ack (k + 1), k, network.sent k, k + 1, k + 1⟩

/-- The loop stops behind this answer. -/
def Taken (network : Network) (ack : Memory) (k : Nat) : Prop :=
  contents network ack (k + 1) 0 = SDM_ACK

section Specs

variable {NUMRETRIES : Nat} {network : Network} {ack : Memory} {k : Nat} {answer : Answer}
  {error : Int}

theorem UDPrecv_first (ack : Memory) (answer : Answer) : UDPrecv ack answer 0 = SDM_ACK ↔
    BeginsAck answer ∨ ack 0 = SDM_ACK ∧ LeavesFirst answer := by
  unfold UDPrecv BeginsAck LeavesFirst
  rcases answer with _ | _ | ⟨b, rest⟩
  · simp
  · simp [store]
  · simp [store]

/-- Where nothing was taken before, an answer that begins like an `SDM_ACK` is. -/
theorem taken_iff (before : ∀ j < k, ¬ Taken network ack j) :
    Taken network ack k ↔ BeginsAck (network.answers k) ∨ k = 0 ∧ Stale network ack := by
  unfold Taken
  rw [contents, UDPrecv_first]
  cases k with
  | zero => simp [contents, Stale]
  | succ k => simp [show contents network ack (k + 1) 0 ≠ SDM_ACK from before k
    (Nat.lt_succ_self k)]

/-- An acknowledgement begins like one. -/
theorem Acknowledges.begins (acknowledges : Acknowledges error answer) : BeginsAck answer := by
  obtain ⟨datagram, rfl, -, first, -⟩ := acknowledges
  obtain ⟨rest, rfl⟩ := List.head?_eq_some_iff.mp first
  exact ⟨rest, rfl⟩

/-- Its error code is the one in the array. -/
theorem Acknowledges.errorCode_eq (acknowledges : Acknowledges error answer) :
    errorCode (UDPrecv ack answer) = error := by
  obtain ⟨datagram, rfl, long, -, rfl⟩ := acknowledges
  unfold errorCode
  rw [load16_congr]
  intro j lt
  have within : 11 + j < (datagram.take 13).length := by
    rw [List.length_take]
    omega
  show ack.store 0 (datagram.take 13) (11 + j) = datagram.getD (11 + j) 0
  rw [store_of_inside ⟨Nat.zero_le _, by omega⟩, Nat.sub_zero, List.getD_eq_getElem _ _ within,
    List.getElem_take, List.getD_eq_getElem]

/-! ### The loop -/

/-- **Where the loop stops**: behind the first answer that is taken, or behind the last one. -/
theorem loop_after (network : Network) (ack : Memory) (retries : Nat)
    (before : ∀ j < k, ¬ Taken network ack j) :
    ∃ k', k' ≤ k + retries ∧ (∀ j < k', ¬ Taken network ack j) ∧
      (Taken network ack k' ∨ k' = k + retries) ∧
      (Attempts.after network ack k).loop network retries = Attempts.after network ack k' := by
  induction retries generalizing k with
  | zero => exact ⟨k, Nat.le_refl k, before, Or.inr rfl, rfl⟩
  | succ retries ih =>
      by_cases taken : Taken network ack k
      · refine ⟨k, Nat.le_add_right k _, before, Or.inl taken, ?_⟩
        exact if_neg (not_not_intro taken)
      · have before' : ∀ j < k + 1, ¬ Taken network ack j := by
          intro j lt
          rcases Nat.lt_succ_iff_lt_or_eq.mp lt with earlier | rfl
          · exact before j earlier
          · exact taken
        obtain ⟨k', le, none, stops, same⟩ := ih before'
        refine ⟨k', by omega, none, ?_, ?_⟩
        · rcases stops with hit | last
          · exact Or.inl hit
          · exact Or.inr (by omega)
        · exact (if_pos taken).trans same

/-! ### What is returned -/

variable {i result : Int} {buf : Memory}

/-- What `SendTo` comes to when this answer is taken. -/
def Attempts.answered (network : Network) (ack : Memory) (k : Nat) : Attempts :=
  let error := errorCode (contents network ack (k + 1))
  { Attempts.after network ack k with result := if error < 0 then error else network.sent k }

theorem sent_ne : network.sent k ≠ SDM_UNABLE_TO_REGISTER := by
  unfold Network.sent
  cases network.sends k with
  | none => decide
  | some n =>
      have nonneg : (0 : Int) ≤ n := Int.natCast_nonneg n
      show (n : Int) ≠ -9
      omega

/-- **What a registration comes to**: the first answer that is taken, or the failure. -/
theorem sendTo_cases (NUMRETRIES : Nat) (ack : Memory) (result : Int)
    (registers : buf 0 = SDM_xTEDS ∨ buf 0 = SDM_CancelxTEDS) (marshalled : 0 ≤ i)
    (connects : network.connects = true) :
    (∃ k ≤ NUMRETRIES, Taken network ack k ∧ (∀ j < k, ¬ Taken network ack j) ∧
      SendTo NUMRETRIES network i buf ack result = .answered network ack k) ∨
    ((∀ j ≤ NUMRETRIES, ¬ Taken network ack j) ∧ SendTo NUMRETRIES network i buf ack result =
      { Attempts.after network ack NUMRETRIES with result := SDM_UNABLE_TO_REGISTER }) := by
  have whole : SendTo NUMRETRIES network i buf ack result =
      let s := (Attempts.after network ack 0).loop network NUMRETRIES
      if s.count = NUMRETRIES ∧ s.ack 0 ≠ SDM_ACK then { s with result := SDM_UNABLE_TO_REGISTER }
      else if errorCode s.ack < 0 then { s with result := errorCode s.ack }
      else s := by
    unfold SendTo
    rw [if_neg (Int.not_lt.mpr marshalled), if_pos connects]
    exact if_pos registers
  obtain ⟨k, le, before, stops, same⟩ :=
    loop_after network ack NUMRETRIES fun j lt => absurd lt (Nat.not_lt_zero j)
  rw [Nat.zero_add] at le stops
  rw [whole, same]
  by_cases taken : Taken network ack k
  · left
    refine ⟨k, le, taken, before, (if_neg fun both => both.2 taken).trans ?_⟩
    by_cases negative : errorCode (contents network ack (k + 1)) < 0
    · simp [Attempts.answered, Attempts.after, negative]
    · simp [Attempts.answered, Attempts.after, negative]
  · right
    obtain rfl := stops.resolve_left taken
    constructor
    · intro j le
      rcases Nat.lt_or_eq_of_le le with earlier | rfl
      · exact before j earlier
      · exact taken
    · exact if_pos ⟨rfl, taken⟩

/-- Nothing is acknowledged where nothing is taken. -/
theorem not_acknowledges_of_not_taken (before : ∀ j < k, ¬ Taken network ack j)
    (not : ¬ Taken network ack k) : ¬ Acknowledges error (network.answers k) :=
  fun acknowledges => not ((taken_iff before).mpr (Or.inl acknowledges.begins))

/-- The failure is told right. -/
theorem told_of_not_taken (none : ∀ j ≤ NUMRETRIES, ¬ Taken network ack j) :
    Told NUMRETRIES network
      { Attempts.after network ack NUMRETRIES with result := SDM_UNABLE_TO_REGISTER } := by
  have unheard : ∀ j < NUMRETRIES + 1, ∀ error, ¬ Acknowledges error (network.answers j) :=
    fun j lt error => not_acknowledges_of_not_taken
      (fun j' lt' => none j' (by omega)) (none j (Nat.le_of_lt_succ lt))
  constructor
  · intro nonneg
    exact absurd (show 0 ≤ SDM_UNABLE_TO_REGISTER from nonneg) (by decide)
  · intro j lt error acknowledges
    exact absurd acknowledges (unheard j lt error)
  · exact fun _ => rfl
  · exact Nat.le_refl _

/-- An answer that is taken is told right when it is an acknowledgement, or when its error code is
that of the failure. -/
theorem told_answered_iff (le : k ≤ NUMRETRIES) (taken : Taken network ack k)
    (before : ∀ j < k, ¬ Taken network ack j) :
    Told NUMRETRIES network (.answered network ack k) ↔
      (∃ error, Acknowledges error (network.answers k)) ∨
        errorCode (contents network ack (k + 1)) = SDM_UNABLE_TO_REGISTER := by
  have earlier : ∀ j < k, ∀ error, ¬ Acknowledges error (network.answers j) :=
    fun j lt error => not_acknowledges_of_not_taken
      (fun j' lt' => before j' (Nat.lt_trans lt' lt)) (before j lt)
  have only : ∀ j < k + 1, ∀ error, Acknowledges error (network.answers j) →
      j = k ∧ errorCode (contents network ack (k + 1)) = error := by
    intro j lt error acknowledges
    rcases Nat.lt_succ_iff_lt_or_eq.mp lt with lt | rfl
    · exact absurd acknowledges (earlier j lt error)
    · exact ⟨rfl, acknowledges.errorCode_eq⟩
  have returned : (Attempts.answered network ack k).result =
      if errorCode (contents network ack (k + 1)) < 0 then errorCode (contents network ack (k + 1))
      else network.sent k := rfl
  constructor
  · intro told
    by_cases acknowledged : ∃ error, Acknowledges error (network.answers k)
    · exact Or.inl acknowledged
    · right
      have same := told.unheard fun j lt error acknowledges =>
        acknowledged ⟨error, (only j lt error acknowledges).1 ▸ acknowledges⟩
      rw [returned] at same
      split at same
      · exact same
      · exact absurd same sent_ne
  · intro right
    constructor
    · intro nonneg
      rw [returned] at nonneg
      split at nonneg
      · omega
      · rename_i positive
        rcases right with ⟨error, acknowledges⟩ | failure
        · exact ⟨k, Nat.lt_succ_self k, error, acknowledges, by
            rw [← (only k (Nat.lt_succ_self k) error acknowledges).2]
            exact Int.not_lt.mp positive⟩
        · rw [failure] at positive
          exact absurd (by decide) positive
    · intro j lt error acknowledges negative
      rw [returned, (only j lt error acknowledges).2, if_pos negative]
    · intro unheard
      rcases right with ⟨error, acknowledges⟩ | failure
      · exact absurd acknowledges (unheard k (Nat.lt_succ_self k) error)
      · rw [returned, failure]
        rfl
    · exact Nat.succ_le_succ le

/-! ### Which answer is taken -/

/-- An array that is mistaken for an acknowledgement is taken at once. -/
theorem taken_of_stale (stale : Stale network ack) : Taken network ack 0 :=
  (taken_iff fun j lt => absurd lt (Nat.not_lt_zero j)).mpr (Or.inr ⟨rfl, stale⟩)

/-- Otherwise the first answer that begins like an acknowledgement is taken. -/
theorem taken_first_iff (fresh : ¬ Stale network ack) :
    Taken network ack k ∧ (∀ j < k, ¬ Taken network ack j) ↔ FirstAck network k := by
  have here : ∀ k, (∀ j < k, ¬ Taken network ack j) →
      (Taken network ack k ↔ BeginsAck (network.answers k)) := by
    intro k before
    rw [taken_iff before]
    exact or_iff_left fun both => fresh both.2
  have none_iff : ∀ k, (∀ j < k, ¬ Taken network ack j) ↔
      ∀ j < k, ¬ BeginsAck (network.answers j) := by
    intro k
    induction k with
    | zero => simp
    | succ k ih =>
        rw [Nat.forall_lt_succ_right, Nat.forall_lt_succ_right, ← ih]
        constructor
        · rintro ⟨before, not⟩
          exact ⟨before, fun begins => not ((here k before).mpr begins)⟩
        · rintro ⟨before, not⟩
          exact ⟨before, fun taken => not ((here k before).mp taken)⟩
  constructor
  · rintro ⟨taken, before⟩
    exact ⟨(here k before).mp taken, (none_iff k).mp before⟩
  · rintro ⟨begins, before⟩
    have before' := (none_iff k).mpr before
    exact ⟨(here k before').mpr begins, before'⟩

/-- An answer without bytes leaves the array as it is. -/
theorem UDPrecv_of_leaves (leaves : LeavesFirst answer) : UDPrecv ack answer = ack := by
  rcases leaves with rfl | rfl
  · rfl
  · funext a
    exact store_of_outside (by simp)

/-- **With a socket**, the registration is told right when its answers are. -/
theorem told_iff_answered (registers : buf 0 = SDM_xTEDS ∨ buf 0 = SDM_CancelxTEDS)
    (marshalled : 0 ≤ i) (connects : network.connects = true) :
    Told NUMRETRIES network (SendTo NUMRETRIES network i buf ack result) ↔
      Answered NUMRETRIES network ack := by
  have cases := sendTo_cases NUMRETRIES ack result registers marshalled connects
  by_cases stale : Stale network ack
  · have first : contents network ack 1 = ack := UDPrecv_of_leaves stale.2
    have nothing : ∀ error, ¬ Acknowledges error (network.answers 0) := by
      intro error acknowledges
      obtain ⟨rest, begins⟩ := acknowledges.begins
      rcases stale.2 with none | empty
      · exact absurd (none.symm.trans begins) nofun
      · exact absurd (empty.symm.trans begins) nofun
    rcases cases with ⟨k, le, taken, before, same⟩ | ⟨none, -⟩
    · have zero : k = 0 := by
        by_contra later
        exact before 0 (Nat.pos_of_ne_zero later) (taken_of_stale stale)
      subst zero
      rw [same, told_answered_iff le taken before, first]
      constructor
      · intro right
        exact ⟨fun _ => right.resolve_left fun acknowledged => nothing _ acknowledged.choose_spec,
          fun fresh => absurd stale fresh⟩
      · intro answered
        exact Or.inr (answered.1 stale)
    · exact absurd (taken_of_stale stale) (none 0 (Nat.zero_le _))
  · rcases cases with ⟨k, le, taken, before, same⟩ | ⟨none, same⟩
    · have first := (taken_first_iff stale).mp ⟨taken, before⟩
      rw [same, told_answered_iff le taken before]
      constructor
      · intro right
        refine ⟨fun is => absurd is stale, fun _ k' _ first' => ?_⟩
        have sameIndex : k' = k := by
          rcases Nat.lt_trichotomy k' k with lt | eq | gt
          · exact absurd first'.1 (first.2 k' lt)
          · exact eq
          · exact absurd first.1 (first'.2 k gt)
        rwa [sameIndex]
      · intro answered
        exact answered.2 stale k le first
    · rw [same]
      refine iff_of_true (told_of_not_taken none) ⟨fun is => absurd is stale, ?_⟩
      intro _ k le first
      exact absurd ((taken_first_iff stale).mpr first).1 (none k le)

/-- **A registration is told right** when the message is made, a socket is there (or the caller's
memory happens to hold the error), and no stale or short acknowledgement is taken. -/
theorem sendTo_told_iff (registers : buf 0 = SDM_xTEDS ∨ buf 0 = SDM_CancelxTEDS) :
    Told NUMRETRIES network (SendTo NUMRETRIES network i buf ack result) ↔
      0 ≤ i ∧ (network.connects = false → result = SDM_UNABLE_TO_REGISTER) ∧
        (network.connects = true → Answered NUMRETRIES network ack) := by
  by_cases failed : i < 0
  · have same : SendTo NUMRETRIES network i buf ack result =
        ⟨ack, 0, SDM_MESSAGE_SEND_ERROR, 0, 0⟩ := if_pos failed
    rw [same]
    refine iff_of_false (fun told => ?_) (fun all => absurd failed (Int.not_lt.mpr all.1))
    have same : SDM_MESSAGE_SEND_ERROR = SDM_UNABLE_TO_REGISTER :=
      told.unheard fun k lt => absurd lt (Nat.not_lt_zero k)
    exact absurd same (by decide)
  · have marshalled := Int.not_lt.mp failed
    cases connects : network.connects with
    | true =>
        rw [told_iff_answered registers marshalled connects]
        simp [marshalled]
    | false =>
        have same : SendTo NUMRETRIES network i buf ack result = ⟨ack, 0, result, 0, 0⟩ := by
          unfold SendTo
          rw [if_neg failed, if_neg (by simp [connects])]
        rw [same]
        simp only [marshalled, true_and, forall_const, Bool.false_eq_true, false_implies, and_true]
        constructor
        · intro told
          exact told.unheard fun k lt => absurd lt (Nat.not_lt_zero k)
        · intro failure
          constructor
          · intro nonneg
            have nonneg : 0 ≤ SDM_UNABLE_TO_REGISTER := failure ▸ nonneg
            exact absurd nonneg (by decide)
          · exact fun k lt => absurd lt (Nat.not_lt_zero k)
          · exact fun _ => failure
          · exact Nat.zero_le _

end Specs

/-- No answer to any attempt. -/
def silent : Network := ⟨true, fun _ => some 57, fun _ => none⟩

theorem sendTo_silent_told_iff :
    ((fun _ => SDM_xTEDS : Memory) 0 = SDM_xTEDS ∨ (fun _ => SDM_xTEDS : Memory) 0 =
      SDM_CancelxTEDS) ∧
      (Told 5 silent (SendTo 5 silent 57 (fun _ => SDM_xTEDS) (fun _ => 0) 0) ↔
        (0 : Int) ≤ 57 ∧ (silent.connects = false → (0 : Int) = SDM_UNABLE_TO_REGISTER) ∧
          (silent.connects = true → Answered 5 silent fun _ => 0)) :=
  ⟨Or.inl rfl, sendTo_told_iff (Or.inl rfl)⟩

/-- An array that holds the acknowledgement of an earlier call. -/
def earlier : Memory := Memory.store (fun _ => 0) 0 [SDM_ACK]

/-- No attempt is answered, and the registration is reported as sent. -/
theorem sendTo_stale_not_told :
    (SendTo 5 silent 57 (fun _ => SDM_xTEDS) earlier 0).result = 57 ∧
      ¬ Told 5 silent (SendTo 5 silent 57 (fun _ => SDM_xTEDS) earlier 0) := by
  have result : (SendTo 5 silent 57 (fun _ => SDM_xTEDS) earlier 0).result = 57 := by
    decide +kernel
  refine ⟨result, fun told => ?_⟩
  obtain ⟨k, -, error, ⟨datagram, answered, -⟩, -⟩ := told.accepted (by rw [result]; decide)
  exact absurd answered nofun

end Sdm.SDMmessage
