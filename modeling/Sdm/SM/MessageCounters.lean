import Mathlib.Algebra.GroupWithZero.Nat
import Mathlib.Data.List.Induction
import Mathlib.Algebra.BigOperators.Group.List.Basic

/-!
The performance counters of the Sensor Manager.

The counters change in sections under one mutex. An alarm takes three of them: the message is filled
from the counters, a publication that has subscribers is counted, and the counters of the last
second are set to zero.

* `inv_run`: what the counters are, whatever the order of the sections.
* `consistent_iff`: which runs publish the numbers of their messages.
-/

namespace Sdm.SM

/-- The performance counters. -/
structure Counters where
  total_recd : UInt32
  prevsec_recd : UInt32
  total_sent : UInt32
  prevsec_sent : UInt32

namespace Counters

/-- The section of `UDPMonitor` and `TCPMonitor`. -/
def received (c : Counters) : Counters :=
  { c with total_recd := c.total_recd + 1, prevsec_recd := c.prevsec_recd + 1 }

/-- The section of `MessageSent` and `VerifyDM`. -/
def sent (c : Counters) : Counters :=
  { c with total_sent := c.total_sent + 1, prevsec_sent := c.prevsec_sent + 1 }

/-- The section of `SigHandler` behind a publication. -/
def reset (c : Counters) : Counters := { c with prevsec_recd := 0, prevsec_sent := 0 }

end Counters

/-- The performance message, by the names of its xTEDS. -/
structure PerformanceMessage where
  Total_Messages_Recd : UInt32
  Messages_Last_Second_Recd : UInt32
  Total_Messages_Sent : UInt32
  Messages_Last_Second_Sent : UInt32

/-- The section of `PublishPerformanceCounterMessage`. -/
def Counters.fill (c : Counters) : PerformanceMessage :=
  ⟨c.total_recd, c.prevsec_recd, c.total_sent, c.prevsec_recd⟩

/-- How many messages were received and sent. -/
structure Traffic where
  recd : Nat
  sent : Nat

/-- A performance message, with the traffic up to it and up to the one before. -/
structure Publication where
  msg : PerformanceMessage
  before : Traffic
  now : Traffic
  /-- The messages that went out without being counted. -/
  uncounted : Nat
  /-- The receptions between the last message and the reset behind it. -/
  gap : Nat

/-- Where `SigHandler` is. -/
inductive Handler where
  | waiting
  | filled
  | published (messages : Nat)
  | counted
  deriving DecidableEq

/-- The counters and the signal handler. What follows them is history, which nothing reads. -/
structure PerformanceState where
  counters : Counters
  handler : Handler
  traffic : Traffic
  before : Traffic
  uncounted : Nat
  gap : Nat
  publications : List Publication

/-- A section of some thread. -/
inductive Section where
  /-- A message is received over UDP or TCP. -/
  | received
  /-- A message is sent and counted. -/
  | sent
  /-- A message is sent and not counted: the SDMHello and the SDMReqReg of `main`. -/
  | uncounted
  /-- The signal handler goes on, with the number of subscribers that a publication has. -/
  | handler (subscribers : Nat)

namespace PerformanceState

def initial : PerformanceState where
  counters := ⟨0, 0, 0, 0⟩
  handler := .waiting
  traffic := ⟨0, 0⟩
  before := ⟨0, 0⟩
  uncounted := 0
  gap := 0
  publications := []

/-- The next section of the signal handler. A publication goes to each subscriber, and is counted
once. -/
def handle (s : PerformanceState) (subscribers : Nat) : PerformanceState :=
  match s.handler with
  | .waiting =>
      { s with
        handler := .filled
        publications := s.publications ++ [⟨s.counters.fill, s.before, s.traffic, s.uncounted, s.gap⟩]
        before := s.traffic
        gap := 0 }
  | .filled =>
      { s with handler := if subscribers = 0 then .counted else .published subscribers }
  | .published messages =>
      { s with
        handler := .counted
        counters := s.counters.sent
        traffic := { s.traffic with sent := s.traffic.sent + messages }
        uncounted := s.uncounted + (messages - 1) }
  | .counted => { s with handler := .waiting, counters := s.counters.reset }

def step (s : PerformanceState) : Section → PerformanceState
  | .received =>
      { s with
        counters := s.counters.received
        traffic := { s.traffic with recd := s.traffic.recd + 1 }
        gap := if s.handler = .waiting then s.gap else s.gap + 1 }
  | .sent =>
      { s with
        counters := s.counters.sent
        traffic := { s.traffic with sent := s.traffic.sent + 1 } }
  | .uncounted =>
      { s with
        traffic := { s.traffic with sent := s.traffic.sent + 1 }
        uncounted := s.uncounted + 1 }
  | .handler subscribers => s.handle subscribers

/-- The state behind some sections, in any order. -/
def run (sections : List Section) : PerformanceState := sections.foldl step .initial

end PerformanceState

/-! ### What is published -/

namespace Publication

/-- The fields are the numbers of messages since the start and since the publication before. -/
structure Right (p : Publication) : Prop where
  totalRecd : p.msg.Total_Messages_Recd.toNat = p.now.recd
  lastRecd : p.msg.Messages_Last_Second_Recd.toNat = p.now.recd - p.before.recd
  totalSent : p.msg.Total_Messages_Sent.toNat = p.now.sent
  lastSent : p.msg.Messages_Last_Second_Sent.toNat = p.now.sent - p.before.sent

/-- What a publication needs of the run: the numbers fit their fields, every message that was sent
was counted, none was received between the message before and its reset, and as many were received
as sent since. -/
structure Quiet (p : Publication) : Prop where
  recd_lt : p.now.recd < 2 ^ 32
  sent_lt : p.now.sent < 2 ^ 32
  counted : p.uncounted = 0
  noGap : p.gap = 0
  balanced : p.now.recd - p.before.recd = p.now.sent - p.before.sent

end Publication

/-- What a publication has of the counters, which count modulo `2 ^ 32`. -/
structure Publication.Made (p : Publication) : Prop where
  totalRecd : p.msg.Total_Messages_Recd.toNat = p.now.recd % 2 ^ 32
  lastRecd : p.msg.Messages_Last_Second_Recd.toNat = (p.now.recd - p.before.recd - p.gap) % 2 ^ 32
  totalSent : p.msg.Total_Messages_Sent.toNat = (p.now.sent - p.uncounted) % 2 ^ 32
  lastSent : p.msg.Messages_Last_Second_Sent = p.msg.Messages_Last_Second_Recd
  recd_le : p.before.recd + p.gap ≤ p.now.recd
  sent_le : p.before.sent ≤ p.now.sent
  uncounted_le : p.uncounted ≤ p.now.sent

/-- Each publication begins where the one before it ends. -/
def Chained : Traffic → List Publication → Traffic → Prop
  | start, [], finish => start = finish
  | start, p :: rest, finish => p.before = start ∧ Chained p.now rest finish

/-- What holds between any two sections. -/
structure PerformanceState.Inv (s : PerformanceState) : Prop where
  totalRecd : s.counters.total_recd.toNat = s.traffic.recd % 2 ^ 32
  totalSent : s.counters.total_sent.toNat = (s.traffic.sent - s.uncounted) % 2 ^ 32
  recd_le : s.before.recd + s.gap ≤ s.traffic.recd
  sent_le : s.before.sent ≤ s.traffic.sent
  uncounted_le : s.uncounted ≤ s.traffic.sent
  waiting : s.handler = .waiting →
    s.counters.prevsec_recd.toNat = (s.traffic.recd - s.before.recd - s.gap) % 2 ^ 32
  busy : s.handler ≠ .waiting → s.traffic.recd = s.before.recd + s.gap
  published : ∀ n, s.handler = .published n → n ≠ 0
  made : ∀ p ∈ s.publications, p.Made
  chained : Chained ⟨0, 0⟩ s.publications s.before

/-- Each publication has the right numbers, and those of the last second sum up to the totals. -/
def Consistent (s : PerformanceState) : Prop :=
  ∀ front p, front ++ [p] <+: s.publications → p.Right ∧
    ((front ++ [p]).map fun p => p.msg.Messages_Last_Second_Recd.toNat).sum =
      p.msg.Total_Messages_Recd.toNat ∧
    ((front ++ [p]).map fun p => p.msg.Messages_Last_Second_Sent.toNat).sum =
      p.msg.Total_Messages_Sent.toNat

section Runs

variable {s : PerformanceState} {p : Publication} {l l' : List Publication}
  {start finish : Traffic}

theorem chained_append : Chained start (l ++ l') finish ↔
    ∃ middle, Chained start l middle ∧ Chained middle l' finish := by
  induction l generalizing start with
  | nil =>
      constructor
      · exact fun chained => ⟨start, rfl, chained⟩
      · rintro ⟨middle, rfl, chained⟩
        exact chained
  | cons p l ih =>
      constructor
      · rintro ⟨first, rest⟩
        obtain ⟨middle, front, back⟩ := ih.mp rest
        exact ⟨middle, ⟨first, front⟩, back⟩
      · rintro ⟨middle, ⟨first, front⟩, back⟩
        exact ⟨first, ih.mpr ⟨middle, front, back⟩⟩

/-- A counter that goes on. -/
theorem toNat_succ {x : UInt32} {n : Nat} (same : x.toNat = n % 2 ^ 32) :
    (x + 1).toNat = (n + 1) % 2 ^ 32 := by
  rw [UInt32.toNat_add, same]
  exact Nat.mod_add_mod n (2 ^ 32) 1

theorem inv_initial : PerformanceState.initial.Inv where
  totalRecd := rfl
  totalSent := rfl
  recd_le := Nat.le_refl _
  sent_le := Nat.le_refl _
  uncounted_le := Nat.le_refl _
  waiting _ := rfl
  busy other := absurd rfl other
  published _ other := by cases other
  made _ mem := absurd mem List.not_mem_nil
  chained := rfl

theorem inv_received (inv : s.Inv) : (s.step .received).Inv := by
  have recd := inv.recd_le
  refine { inv with totalRecd := toNat_succ inv.totalRecd, recd_le := ?_, waiting := ?_, busy := ?_ }
  · show s.before.recd + (if s.handler = .waiting then s.gap else s.gap + 1) ≤ s.traffic.recd + 1
    split <;> omega
  · intro waiting
    have gap : (s.step .received).gap = s.gap := if_pos waiting
    have more : s.traffic.recd + 1 - s.before.recd - s.gap =
        s.traffic.recd - s.before.recd - s.gap + 1 := by omega
    rw [gap]
    show (s.counters.prevsec_recd + 1).toNat = (s.traffic.recd + 1 - s.before.recd - s.gap) % 2 ^ 32
    rw [more]
    exact toNat_succ (inv.waiting waiting)
  · intro busy
    have gap : (s.step .received).gap = s.gap + 1 := if_neg busy
    have was := inv.busy busy
    rw [gap]
    show s.traffic.recd + 1 = s.before.recd + (s.gap + 1)
    omega

theorem inv_sent (inv : s.Inv) : (s.step .sent).Inv := by
  have sent := inv.sent_le
  have uncounted := inv.uncounted_le
  have more : s.traffic.sent + 1 - s.uncounted = s.traffic.sent - s.uncounted + 1 := by omega
  refine { inv with totalSent := ?_, sent_le := ?_, uncounted_le := ?_ }
  · show (s.counters.total_sent + 1).toNat = (s.traffic.sent + 1 - s.uncounted) % 2 ^ 32
    rw [more]
    exact toNat_succ inv.totalSent
  · exact Nat.le_succ_of_le sent
  · exact Nat.le_succ_of_le uncounted

theorem inv_uncounted (inv : s.Inv) : (s.step .uncounted).Inv := by
  have same : s.traffic.sent + 1 - (s.uncounted + 1) = s.traffic.sent - s.uncounted :=
    Nat.add_sub_add_right _ _ _
  refine { inv with totalSent := ?_, sent_le := ?_, uncounted_le := ?_ }
  · show s.counters.total_sent.toNat = (s.traffic.sent + 1 - (s.uncounted + 1)) % 2 ^ 32
    rw [same]
    exact inv.totalSent
  · exact Nat.le_succ_of_le inv.sent_le
  · exact Nat.succ_le_succ inv.uncounted_le

theorem inv_handle (inv : s.Inv) (subscribers : Nat) :
    (s.step (.handler subscribers)).Inv := by
  show (s.handle subscribers).Inv
  rw [PerformanceState.handle]
  split
  · rename_i waiting
    have made : Publication.Made ⟨s.counters.fill, s.before, s.traffic, s.uncounted, s.gap⟩ :=
      ⟨inv.totalRecd, inv.waiting waiting, inv.totalSent, rfl, inv.recd_le, inv.sent_le,
        inv.uncounted_le⟩
    exact { inv with
      recd_le := Nat.le_refl _
      sent_le := Nat.le_refl _
      waiting := nofun
      busy := fun _ => rfl
      published := nofun
      made := List.forall_mem_append.mpr ⟨inv.made, List.forall_mem_singleton.mpr made⟩
      chained := chained_append.mpr ⟨s.before, inv.chained, rfl, rfl⟩ }
  · rename_i filled
    have busy := inv.busy (by rw [filled]; nofun)
    refine { inv with waiting := ?_, busy := fun _ => busy, published := ?_ }
    · intro waiting
      dsimp only at waiting
      split at waiting <;> cases waiting
    · intro n published
      dsimp only at published
      split at published
      · cases published
      · rename_i some
        cases published
        exact some
  · rename_i messages published
    have some := inv.published messages published
    have sent := inv.sent_le
    have uncounted := inv.uncounted_le
    have more : s.traffic.sent + messages - (s.uncounted + (messages - 1)) =
        s.traffic.sent - s.uncounted + 1 := by omega
    refine { inv with totalSent := ?_, sent_le := ?_, uncounted_le := ?_, waiting := nofun
                      busy := fun _ => inv.busy (by rw [published]; nofun), published := nofun }
    · show (s.counters.total_sent + 1).toNat = _
      dsimp only
      rw [more]
      exact toNat_succ inv.totalSent
    · exact Nat.le_add_right_of_le sent
    · dsimp only
      omega
  · rename_i counted
    have busy := inv.busy (by rw [counted]; nofun)
    refine { inv with waiting := fun _ => ?_, busy := fun other => absurd rfl other
                      published := nofun }
    show (0 : UInt32).toNat = (s.traffic.recd - s.before.recd - s.gap) % 2 ^ 32
    rw [busy, Nat.add_sub_cancel_left, Nat.sub_self]
    rfl

/-- **Any sections, in any order,** keep the counters what they are. -/
theorem inv_run (sections : List Section) : (PerformanceState.run sections).Inv := by
  induction sections using List.reverseRecOn with
  | nil => exact inv_initial
  | append_singleton sections next ih =>
      rw [PerformanceState.run, List.foldl_append]
      cases next with
      | received => exact inv_received ih
      | sent => exact inv_sent ih
      | uncounted => exact inv_uncounted ih
      | handler subscribers => exact inv_handle ih subscribers

/-- A publication is right exactly where nothing disturbed its counters. -/
theorem Publication.Made.right_iff (made : p.Made) : p.Right ↔ p.Quiet := by
  obtain ⟨totalRecd, lastRecd, totalSent, lastSent, recd_le, sent_le, uncounted_le⟩ := made
  constructor
  · rintro ⟨isRecd, isLast, isSent, isLastSent⟩
    rw [lastSent] at isLastSent
    constructor <;> omega
  · rintro ⟨recd_lt, sent_lt, counted, noGap, balanced⟩
    rw [counted] at totalSent
    rw [noGap] at lastRecd
    refine ⟨by omega, by omega, by omega, ?_⟩
    rw [lastSent]
    omega

/-- The numbers of the last second sum up to the totals. -/
theorem sum_chained (chained : Chained start l finish) (made : ∀ p ∈ l, p.Made)
    (right : ∀ p ∈ l, p.Right) :
    start.recd + (l.map fun p => p.msg.Messages_Last_Second_Recd.toNat).sum = finish.recd ∧
      start.sent + (l.map fun p => p.msg.Messages_Last_Second_Sent.toNat).sum = finish.sent := by
  induction l generalizing start with
  | nil =>
      cases chained
      exact ⟨rfl, rfl⟩
  | cons p l ih =>
      obtain ⟨first, rest⟩ := chained
      obtain ⟨made, others⟩ := List.forall_mem_cons.mp made
      obtain ⟨right, others'⟩ := List.forall_mem_cons.mp right
      obtain ⟨recd, sent⟩ := ih rest others others'
      have recd_le := made.recd_le
      have sent_le := made.sent_le
      rw [first] at recd_le sent_le
      have lastRecd := right.lastRecd
      have lastSent := right.lastSent
      rw [first] at lastRecd lastSent
      rw [List.map_cons, List.map_cons, List.sum_cons, List.sum_cons, lastRecd, lastSent]
      omega

/-- **A run publishes the numbers of its messages** exactly where each of its publications is
quiet. -/
theorem consistent_iff (sections : List Section) :
    Consistent (.run sections) ↔ ∀ p ∈ (PerformanceState.run sections).publications, p.Quiet := by
  have inv := inv_run sections
  constructor
  · intro consistent p mem
    obtain ⟨front, back, split⟩ := List.append_of_mem mem
    have part : front ++ [p] <+: (PerformanceState.run sections).publications :=
      ⟨back, by rw [split, List.append_assoc]; rfl⟩
    exact (inv.made p mem).right_iff.mp (consistent front p part).1
  · intro quiet front p part
    have right : ∀ q ∈ front ++ [p], q.Right := fun q mem =>
      (inv.made q (part.subset mem)).right_iff.mpr (quiet q (part.subset mem))
    have here := right p (List.mem_append_right _ (List.mem_singleton.mpr rfl))
    obtain ⟨back, split⟩ := part
    obtain ⟨middle, chained, -⟩ := chained_append.mp (split ▸ inv.chained)
    obtain ⟨_, _, _, finish⟩ := chained_append.mp chained
    have isNow : p.now = middle := finish
    obtain ⟨recd, sent⟩ := sum_chained chained
      (fun q mem => inv.made q (split ▸ List.mem_append_left back mem)) right
    rw [here.totalRecd, here.totalSent, isNow, ← recd, ← sent]
    exact ⟨here, (Nat.zero_add _).symm, (Nat.zero_add _).symm⟩

/-- One message is received before the first alarm, and none is sent. -/
theorem not_consistent : ¬ Consistent (.run [.received, .handler 0]) := by
  intro consistent
  have lastSent := (consistent [] _ (List.prefix_refl _)).1.lastSent
  exact absurd lastSent (by decide)

end Runs

end Sdm.SM
