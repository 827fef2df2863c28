import Sdm.Lib.Progress
import Sdm.PM.CodeTransfer

/-!
Code transfer when messages are lost (`GetCode` and `HandleCodeMessage` of the Process Manager).

`GetCode` asks for a segment, waits in `poll` for its pipe to have something, and then calls
`read`, also when the wait timed out. The pipe blocks. Here a request and a reply arrive once or
are lost, and a wait can time out whenever the pipe is empty.

* `Follows.step`: these are runs of the transfer whose messages may also be duplicated, so what
  `GetCode` leaves is right (`leavesRight_of_reachable`).
* `survives_iff`: a run survives exactly when nothing is lost in it and no wait times out.
-/

namespace Sdm

open Sdm.Lib

/-- How far `GetCode` is behind its request: in `poll`, or at `read` after it. -/
inductive Wait where
  | polling
  | ready
  | timedOut
  deriving DecidableEq

/-- A transfer, with the requests and the replies that are still on their way. The wait counts
while the phase is `reading`. -/
structure LossyTransfer extends CodeTransfer where
  wait : Wait

namespace LossyTransfer

variable (file : List UInt8) (strFilename : CString)

def start (codeReceivers : List CString) : LossyTransfer :=
  ⟨CodeTransfer.start codeReceivers, .polling⟩

/-- `poll` returned 0. Unless there have been too many misses, the loop goes on to `read`. -/
def miss (s : LossyTransfer) : LossyTransfer :=
  let s' := { s with usPollMiss := s.usPollMiss + 1, wait := .timedOut }
  if s.usPollMiss = 10 then ⟨s'.toCodeTransfer.cleanup strFilename false, .timedOut⟩ else s'

/-- What happens in a transfer. -/
inductive Action where
  | request
  | SendCode (msgRequest : SDMReqCode)
  | HandleCodeMessage (msgCode : SDMCode)
  | loseRequest (msgRequest : SDMReqCode)
  | loseReply (msgCode : SDMCode)
  | pollReady
  | pollTimeout
  | read
  deriving DecidableEq

def step (s : LossyTransfer) : Action → Option (LossyTransfer × Unit)
  | .request =>
      if s.phase = .asking then some (⟨s.toCodeTransfer.ask strFilename false, .polling⟩, ())
      else none
  | .SendCode msgRequest =>
      if msgRequest ∈ s.requests then
        some ({ s with
          requests := s.requests.erase msgRequest
          replies := Sdm.SendCode file msgRequest ++ s.replies }, ())
      else none
  | .HandleCodeMessage msgCode =>
      if msgCode ∈ s.replies then
        some ({ s with
          replies := s.replies.erase msgCode
          pipe :=
            if msgCode.filename ∈ s.codeReceivers then s.pipe ++ [.SDMCode msgCode]
            else s.pipe }, ())
      else none
  | .loseRequest msgRequest =>
      if msgRequest ∈ s.requests then
        some ({ s with requests := s.requests.erase msgRequest }, ())
      else none
  | .loseReply msgCode =>
      if msgCode ∈ s.replies then some ({ s with replies := s.replies.erase msgCode }, ())
      else none
  | .pollReady =>
      if s.phase = .reading ∧ s.wait = .polling ∧ s.pipe ≠ [] then
        some ({ s with wait := .ready }, ())
      else none
  | .pollTimeout =>
      if s.phase = .reading ∧ s.wait = .polling ∧ s.pipe = [] then some (s.miss strFilename, ())
      else none
  | .read =>
      if s.phase = .reading ∧ s.wait ≠ .polling then
        match s.pipe with
        -- The pipe blocks.
        | [] => none
        | .SDMCode msgCode :: pipe =>
            some (⟨{ s.toCodeTransfer with pipe := pipe }.receive strFilename msgCode, s.wait⟩, ())
        | .SDMError :: pipe =>
            some (⟨{ s.toCodeTransfer with pipe := pipe }.cleanup strFilename false, s.wait⟩, ())
      else none

/-- The machine of a transfer in which messages are lost. -/
def machine : Machine LossyTransfer Action Unit := ⟨step file strFilename⟩

/-- A request or a reply is lost. -/
def Action.isLoss : Action → Bool
  | .loseRequest _ | .loseReply _ => true
  | _ => false

/-- Nothing is lost, and no wait times out. -/
def Action.Undisturbed (a : Action) : Prop :=
  a.isLoss = false ∧ a ≠ .pollTimeout

/-- There is something that can come to the current segment. -/
def Outstanding (s : LossyTransfer) : Prop :=
  ⟨strFilename, s.usCurSequenceNumber⟩ ∈ s.requests ∨
    codeFor file strFilename s.usCurSequenceNumber ∈ s.replies ∨
      .SDMCode (codeFor file strFilename s.usCurSequenceNumber) ∈ s.pipe

/-- `GetCode` has returned true, and the file is there. -/
def Complete (s : LossyTransfer) : Prop :=
  s.phase = .returned true ∧ s.pFile = some file

/-- **The transfer survives**: what follows a wait that times out is a new request, `GetCode` does
not wait for a reply that cannot come, and when nothing else disturbs the transfer it completes. -/
structure Survives (s : LossyTransfer) : Prop where
  requested : s.phase = .reading → s.wait ≠ .timedOut
  outstanding : s.phase = .reading → s.wait ≠ .polling → s.Outstanding file strFilename
  completes : (machine file strFilename).Inevitable (fun _ a => a.Undisturbed) (Complete file) s

/-! ### Runs of the transfer -/

section Follows

variable {file strFilename} {codeReceivers : List CString} {s s' : LossyTransfer} {a : Action}
  {out : Unit} {t : CodeTransfer} {usPollMiss : UInt16} {requests : List SDMReqCode}
  {replies : List SDMCode}

/-- A transfer with other misses, and with other messages sent. -/
def sent (t : CodeTransfer) (usPollMiss : UInt16) (requests : List SDMReqCode)
    (replies : List SDMCode) : CodeTransfer :=
  { t with usPollMiss := usPollMiss, requests := requests, replies := replies }

@[simp]
theorem sent_usCurSequenceNumber :
    (sent t usPollMiss requests replies).usCurSequenceNumber = t.usCurSequenceNumber :=
  rfl

/-- `GetCode` does not look at them when it reads. -/
theorem receive_sent {msgCode : SDMCode} :
    (sent t usPollMiss requests replies).receive strFilename msgCode =
      sent (t.receive strFilename msgCode) usPollMiss requests replies := by
  rw [CodeTransfer.receive, CodeTransfer.receive, sent_usCurSequenceNumber]
  by_cases stale : msgCode.seq_num ≠ t.usCurSequenceNumber
  · rw [if_pos stale, if_pos stale]
    rfl
  · rw [if_neg stale, if_neg stale]
    by_cases fatal : msgCode.seq_num > msgCode.num_segments
    · rw [if_pos fatal, if_pos fatal]
      rfl
    · rw [if_neg fatal, if_neg fatal]
      by_cases last : t.usCurSequenceNumber ≥ msgCode.num_segments
      · rw [if_pos last, if_pos last]
        rfl
      · rw [if_neg last, if_neg last]
        rfl

theorem receive_requests {msgCode : SDMCode} :
    (t.receive strFilename msgCode).requests = t.requests := by
  have kept : (sent t t.usPollMiss t.requests t.replies).receive strFilename msgCode = _ :=
    receive_sent
  have same := congrArg CodeTransfer.requests kept
  exact same

theorem receive_replies {msgCode : SDMCode} :
    (t.receive strFilename msgCode).replies = t.replies := by
  have kept : (sent t t.usPollMiss t.requests t.replies).receive strFilename msgCode = _ :=
    receive_sent
  have same := congrArg CodeTransfer.replies kept
  exact same

/-- The same transfer when messages may also be duplicated: what was sent stays sent. -/
def Follows (s : LossyTransfer) (t : CodeTransfer) : Prop :=
  ∃ usPollMiss requests replies, t = sent s.toCodeTransfer usPollMiss requests replies ∧
    s.requests ⊆ requests ∧ s.replies ⊆ replies

/-- Every step is one of the transfer, or leaves it as it is. -/
theorem Follows.step (follows : Follows s t)
    (taken : (machine file strFilename).step s a = some (s', out)) :
    ∃ t', (CodeTransfer.machine file strFilename).Reachable t t' ∧ Follows s' t' := by
  obtain ⟨usPollMiss, requests, replies, rfl, subRequests, subReplies⟩ := follows
  have step : s.step file strFilename a = some (s', out) := taken
  cases a with
  | request =>
      obtain ⟨phase, here⟩ := Option.ite_none_right_eq_some.mp step
      cases here
      have asked : (CodeTransfer.machine file strFilename).step
          (sent s.toCodeTransfer usPollMiss requests replies) (.ask false) = some (_, ()) :=
        if_pos phase
      refine ⟨_, .next .start asked, usPollMiss, _, replies, rfl, ?_, subReplies⟩
      exact List.cons_subset_cons _ subRequests
  | SendCode msgRequest =>
      obtain ⟨known, here⟩ := Option.ite_none_right_eq_some.mp step
      cases here
      have served : (CodeTransfer.machine file strFilename).step
          (sent s.toCodeTransfer usPollMiss requests replies) (.SendCode msgRequest) =
            some (_, ()) :=
        if_pos (subRequests known)
      refine ⟨_, .next .start served, usPollMiss, requests, _, rfl, ?_, ?_⟩
      · exact List.Subset.trans List.erase_subset subRequests
      · exact List.append_subset.mpr
          ⟨List.subset_append_left _ _, List.Subset.trans subReplies (List.subset_append_right _ _)⟩
  | HandleCodeMessage msgCode =>
      obtain ⟨known, here⟩ := Option.ite_none_right_eq_some.mp step
      cases here
      have rest : s.replies.erase msgCode ⊆ replies :=
        List.Subset.trans List.erase_subset subReplies
      have arrives : (CodeTransfer.machine file strFilename).step
          (sent s.toCodeTransfer usPollMiss requests replies) (.HandleCodeMessage msgCode) = _ :=
        if_pos (subReplies known)
      by_cases entry : msgCode.filename ∈ s.codeReceivers
      · rw [if_pos entry]
        exact ⟨_, .next .start (arrives.trans (if_pos entry)), usPollMiss, requests, replies, rfl,
          subRequests, rest⟩
      · rw [if_neg entry]
        exact ⟨_, .start, usPollMiss, requests, replies, rfl, subRequests, rest⟩
  | loseRequest msgRequest =>
      obtain ⟨_, here⟩ := Option.ite_none_right_eq_some.mp step
      cases here
      exact ⟨_, .start, usPollMiss, requests, replies, rfl,
        List.Subset.trans List.erase_subset subRequests,
        subReplies⟩
  | loseReply msgCode =>
      obtain ⟨_, here⟩ := Option.ite_none_right_eq_some.mp step
      cases here
      exact ⟨_, .start, usPollMiss, requests, replies, rfl, subRequests,
        List.Subset.trans List.erase_subset subReplies⟩
  | pollReady =>
      obtain ⟨_, here⟩ := Option.ite_none_right_eq_some.mp step
      cases here
      exact ⟨_, .start, usPollMiss, requests, replies, rfl, subRequests, subReplies⟩
  | pollTimeout =>
      obtain ⟨⟨phase, _, _⟩, here⟩ := Option.ite_none_right_eq_some.mp step
      cases here
      rw [miss]
      split
      · have failed : (CodeTransfer.machine file strFilename).step
            (sent s.toCodeTransfer usPollMiss requests replies) .readError = some (_, ()) :=
          if_pos phase
        exact ⟨_, .next .start failed, usPollMiss, requests, replies, rfl, subRequests, subReplies⟩
      · exact ⟨_, .start, usPollMiss, requests, replies, rfl, subRequests, subReplies⟩
  | read =>
      obtain ⟨⟨phase, _⟩, here⟩ := Option.ite_none_right_eq_some.mp step
      have reads : (CodeTransfer.machine file strFilename).step
          (sent s.toCodeTransfer usPollMiss requests replies) .read = _ := if_pos phase
      split at here
      · cases here
      · rename_i msgCode pipe arrived
        cases here
        have same : (sent s.toCodeTransfer usPollMiss requests replies).pipe =
            .SDMCode msgCode :: pipe := arrived
        rw [same] at reads
        let rest : CodeTransfer := { s.toCodeTransfer with pipe := pipe }
        have received : (sent rest usPollMiss requests replies).receive strFilename msgCode =
            sent (rest.receive strFilename msgCode) usPollMiss requests replies := receive_sent
        refine ⟨_, .next .start reads, usPollMiss, requests, replies, received, ?_, ?_⟩
        · rwa [receive_requests]
        · rwa [receive_replies]
      · rename_i pipe arrived
        cases here
        have same : (sent s.toCodeTransfer usPollMiss requests replies).pipe =
            .SDMError :: pipe := arrived
        rw [same] at reads
        exact ⟨_, .next .start reads, usPollMiss, requests, replies, rfl, subRequests, subReplies⟩

/-- Whatever is lost, what `GetCode` leaves when it returns is right. -/
theorem leavesRight_of_reachable (counted : CodeTransfer.Counted file)
    (run : (machine file strFilename).Reachable (start codeReceivers) s) :
    s.toCodeTransfer.LeavesRight file strFilename codeReceivers := by
  have begun : Follows (start codeReceivers) (CodeTransfer.start codeReceivers) :=
    ⟨0, [], [], rfl, List.Subset.refl _, List.Subset.refl _⟩
  obtain ⟨t, run', usPollMiss, requests, replies, rfl, _⟩ :=
    run.simulates begun fun _ _ _ _ _ follows _ taken => follows.step taken
  exact (CodeTransfer.sound_of_reaches counted run').returned

/-- The reply to the first request comes after the wait for it timed out. -/
theorem leavesRight_late_reply :
    ∃ s, (machine [1] .empty).exec (start [.empty]) [.request, .pollTimeout, .SendCode ⟨.empty, 1⟩,
        .HandleCodeMessage (codeFor [1] .empty 1), .read] = some s ∧
      s.phase = .returned true ∧ s.toCodeTransfer.LeavesRight [1] .empty [.empty] := by
  have ran : ((machine [1] .empty).exec (start [.empty]) [.request, .pollTimeout,
      .SendCode ⟨.empty, 1⟩, .HandleCodeMessage (codeFor [1] .empty 1), .read]).map
        (fun s => s.phase) = some (.returned true) := by
    decide
  obtain ⟨s, done, phase⟩ := Option.map_eq_some_iff.mp ran
  exact ⟨s, done, phase, leavesRight_of_reachable ⟨by decide, by decide⟩
    (Machine.Reaches.exec .start (fun _ _ _ => trivial) done)⟩

end Follows

/-! ### Undisturbed transfers -/

/-- The number of a segment. -/
def number (k : Nat) : UInt16 := .ofNat (k + 1)

section Undisturbed

variable (codeReceivers : List CString)

/-- Where the message for the current segment is. -/
inductive Stage where
  | asking (wait : Wait)
  | sent
  | served
  | arrived
  | ready

/-- `GetCode` with so many segments in the file, and nothing on its way. -/
def reading (k : Nat) : CodeTransfer where
  pFile := some (file.take (k * MAX_CODE_SIZE))
  codeReceivers := codeReceivers
  usCurSequenceNumber := number k
  usPollMiss := 0
  phase := .reading
  pipe := []
  requests := []
  replies := []

/-- The reply for the current segment. -/
def reply (k : Nat) : SDMCode := codeFor file strFilename (number k)

/-- An undisturbed transfer at a stage. -/
def undisturbed (k : Nat) : Stage → LossyTransfer
  | .asking wait => ⟨{ reading file codeReceivers k with phase := .asking }, wait⟩
  | .sent => ⟨{ reading file codeReceivers k with
      requests := [⟨strFilename, number k⟩] }, .polling⟩
  | .served => ⟨{ reading file codeReceivers k with
      replies := [reply file strFilename k] }, .polling⟩
  | .arrived => ⟨{ reading file codeReceivers k with
      pipe := [.SDMCode (reply file strFilename k)] }, .polling⟩
  | .ready => ⟨{ reading file codeReceivers k with
      pipe := [.SDMCode (reply file strFilename k)] }, .ready⟩

/-- The action that a stage waits for. -/
def Stage.action (k : Nat) : Stage → Action
  | .asking _ => .request
  | .sent => .SendCode ⟨strFilename, number k⟩
  | .served => .HandleCodeMessage (reply file strFilename k)
  | .arrived => .pollReady
  | .ready => .read

/-- What it leads to. -/
def Stage.next (k : Nat) : Stage → LossyTransfer
  | .asking _ => undisturbed file strFilename codeReceivers k .sent
  | .sent => undisturbed file strFilename codeReceivers k .served
  | .served => undisturbed file strFilename codeReceivers k .arrived
  | .arrived => undisturbed file strFilename codeReceivers k .ready
  | .ready =>
      ⟨(reading file codeReceivers k).receive strFilename (reply file strFilename k), .ready⟩

end Undisturbed

section Runs

variable {file : List UInt8} {strFilename : CString} {codeReceivers : List CString} {k : Nat}
  {s s' : LossyTransfer} {a : Action} {out : Unit} {stage : Stage}

theorem toNat_number (bound : k + 1 < 65536) : (number k).toNat = k + 1 :=
  UInt16.toNat_ofNat_of_lt' bound

theorem step_action (entry : strFilename ∈ codeReceivers) (bound : k + 1 < 65536) :
    (machine file strFilename).step (undisturbed file strFilename codeReceivers k stage)
        (stage.action file strFilename k) =
      some (stage.next file strFilename codeReceivers k, ()) := by
  cases stage with
  | asking wait => rfl
  | sent =>
      have positive : 0 < number k := by
        rw [UInt16.lt_iff_toNat_lt, toNat_number bound]
        exact Nat.succ_pos k
      have served : Sdm.SendCode file ⟨strFilename, number k⟩ = [reply file strFilename k] :=
        if_pos positive
      simp [machine, step, undisturbed, reading, Stage.action, Stage.next, served]
  | served =>
      have known : (reply file strFilename k).filename ∈ codeReceivers := entry
      simp [machine, step, undisturbed, reading, Stage.action, Stage.next, known]
  | arrived => rfl
  | ready => rfl

/-- Nothing else happens that does not disturb the transfer. -/
theorem action_of_undisturbed (guard : a.Undisturbed)
    (taken : (machine file strFilename).step
      (undisturbed file strFilename codeReceivers k stage) a = some (s', out)) : a =
        stage.action file strFilename k := by
  cases stage <;> cases a <;>
    simp_all [machine, step, undisturbed, reading, Stage.action, Action.Undisturbed, Action.isLoss]

/-- Whatever disturbs a transfer, `GetCode` then waits with nothing on its way, or goes to `read`
from a wait that timed out. -/
theorem disturbed (guard : ¬ a.Undisturbed)
    (taken : (machine file strFilename).step
      (undisturbed file strFilename codeReceivers k stage) a = some (s', out)) :
    s'.phase = .reading ∧
      (s'.wait = .timedOut ∨
        s'.wait = .polling ∧ s'.requests = [] ∧ s'.replies = [] ∧ s'.pipe = []) := by
  cases stage <;> cases a <;>
    simp_all [machine, step, undisturbed, reading, Action.Undisturbed, Action.isLoss, miss]
  all_goals
    obtain ⟨rfl, rfl⟩ := taken
    simp

/-- A wait with nothing on its way can only time out. -/
theorem not_survives_of_lost (phase : s.phase = .reading) (wait : s.wait = .polling)
    (requests : s.requests = []) (replies : s.replies = []) (pipe : s.pipe = []) :
    ¬ s.Survives file strFilename := by
  intro survives
  refine Machine.not_inevitable ?_ ?_ survives.completes
  · rintro ⟨returned, _⟩
    rw [phase] at returned
    cases returned
  · intro a s' out guard taken
    have step : s.step file strFilename a = some (s', out) := taken
    cases a <;>
      simp [LossyTransfer.step, phase, wait, requests, replies, pipe] at step
    exact guard.2 rfl

/-- What disturbs a transfer is not survived. -/
theorem not_survives_of_disturbed (guard : ¬ a.Undisturbed)
    (taken : (machine file strFilename).step
      (undisturbed file strFilename codeReceivers k stage) a = some (s', out)) :
        ¬ s'.Survives file strFilename := by
  obtain ⟨phase, timedOut | ⟨wait, requests, replies, pipe⟩⟩ := disturbed guard taken
  · intro survives
    exact survives.requested phase timedOut
  · exact not_survives_of_lost phase wait requests replies pipe

/-! ### Completion -/

/-- The transfer is complete, and nothing of it is on its way. -/
structure Settled (file : List UInt8) (s : LossyTransfer) : Prop where
  complete : Complete file s
  requests : s.requests = []
  replies : s.replies = []

/-- Nothing happens any more. -/
theorem Settled.stuck (settled : Settled file s) :
    (machine file strFilename).step s a ≠ some (s', out) := by
  intro taken
  obtain ⟨⟨phase, _⟩, requests, replies⟩ := settled
  have step : s.step file strFilename a = some (s', out) := taken
  cases a <;> simp [LossyTransfer.step, phase, requests, replies] at step

/-- The number of the next segment. -/
theorem number_succ (bound : k + 2 < 65536) : number k + 1 = number (k + 1) := by
  apply UInt16.toNat_inj.mp
  rw [UInt16.toNat_add, toNat_number (Nat.lt_of_succ_lt bound), toNat_number bound]
  exact Nat.mod_eq_of_lt bound

/-- The current segment is read, and another one follows. -/
theorem next_of_more (within : k * MAX_CODE_SIZE ≤ file.length)
    (more : k + 1 < (n_messages file.length).toNat) :
    Stage.ready.next file strFilename codeReceivers k =
      undisturbed file strFilename codeReceivers (k + 1) (.asking .ready) := by
  have limit := (n_messages file.length).toNat_lt
  have received : (reading file codeReceivers k).receive strFilename (reply file strFilename k) =
      { reading file codeReceivers k with
        pFile := some (file.take ((k + 1) * MAX_CODE_SIZE))
        usCurSequenceNumber := number k + 1
        phase := .asking } :=
    CodeTransfer.receive_next (toNat_number (by omega)) rfl within more
  rw [Stage.next, received, number_succ (by omega)]
  rfl

/-- The last segment is read. -/
theorem settled_next_of_last (within : k * MAX_CODE_SIZE ≤ file.length)
    (last : k + 1 = (n_messages file.length).toNat)
    (whole : file.length ≤ (k + 1) * MAX_CODE_SIZE) :
    Settled file (Stage.ready.next file strFilename codeReceivers k) := by
  have limit := (n_messages file.length).toNat_lt
  have received : (reading file codeReceivers k).receive strFilename (reply file strFilename k) =
      { reading file codeReceivers k with
        pFile := some (file.take ((k + 1) * MAX_CODE_SIZE))
        usCurSequenceNumber := number k + 1
        phase := .asking }.cleanup strFilename true :=
    CodeTransfer.receive_last (toNat_number (by omega)) rfl within last
  rw [Stage.next, received, List.take_of_length_le whole]
  exact ⟨⟨rfl, rfl⟩, rfl, rfl⟩

theorem inevitable_of_next {P : LossyTransfer → Prop} (stage : Stage)
    (entry : strFilename ∈ codeReceivers) (bound : k + 1 < 65536)
    (next : (machine file strFilename).Inevitable (fun _ a => a.Undisturbed) P
      (stage.next file strFilename codeReceivers k)) :
    (machine file strFilename).Inevitable (fun _ a => a.Undisturbed) P
      (undisturbed file strFilename codeReceivers k stage) := by
  have step : (machine file strFilename).step (undisturbed file strFilename codeReceivers k stage)
      (stage.action file strFilename k) = _ := step_action entry bound
  refine next.only ?_ step fun a s' out guard taken => ?_
  · cases stage <;> exact ⟨rfl, nofun⟩
  · rw [action_of_undisturbed guard taken, step] at taken
    cases taken
    rfl

/-- An undisturbed transfer completes. -/
theorem completes (counted : CodeTransfer.Counted file) (entry : strFilename ∈ codeReceivers)
    (inside : k < (n_messages file.length).toNat) (stage : Stage) :
    (machine file strFilename).Inevitable (fun _ a => a.Undisturbed) (Complete file)
      (undisturbed file strFilename codeReceivers k stage) := by
  obtain ⟨_, before, whole⟩ := n_messages_of_counted counted.1 counted.2
  have limit := (n_messages file.length).toNat_lt
  -- The induction is on the number of segments that are left.
  induction left : (n_messages file.length).toNat - k generalizing k stage with
  | zero => omega
  | succ left ih =>
      have bound : k + 1 < 65536 := by omega
      have within : k * MAX_CODE_SIZE ≤ file.length :=
        (Nat.mul_le_mul_right _ (by omega)).trans (le_of_lt before)
      have read : (machine file strFilename).Inevitable (fun _ a => a.Undisturbed) (Complete file)
          (Stage.ready.next file strFilename codeReceivers k) := by
        rcases Nat.lt_or_ge (k + 1) (n_messages file.length).toNat with more | last
        · rw [next_of_more within more]
          exact ih more _ (by omega)
        · have last : k + 1 = (n_messages file.length).toNat := by omega
          exact .now (settled_next_of_last within last (last ▸ whole)).complete
      have ready := inevitable_of_next .ready entry bound read
      have arrived := inevitable_of_next .arrived entry bound ready
      have served := inevitable_of_next .served entry bound arrived
      have sent := inevitable_of_next .sent entry bound served
      cases stage with
      | asking wait => exact inevitable_of_next _ entry bound sent
      | sent => exact sent
      | served => exact served
      | arrived => exact arrived
      | ready => exact ready

/-- Where an undisturbed run is. -/
def Orderly (file : List UInt8) (strFilename : CString) (codeReceivers : List CString)
    (s : LossyTransfer) : Prop :=
  (∃ k stage, k < (n_messages file.length).toNat ∧
    s = undisturbed file strFilename codeReceivers k stage) ∨ Settled file s

theorem orderly_start (counted : CodeTransfer.Counted file) :
    Orderly file strFilename codeReceivers (start codeReceivers) := by
  have first := (n_messages_of_counted counted.1 counted.2).1
  refine .inl ⟨0, .asking .polling, first, ?_⟩
  rw [undisturbed, reading, Nat.zero_mul, List.take_zero]
  rfl

theorem Orderly.step (counted : CodeTransfer.Counted file) (entry : strFilename ∈ codeReceivers)
    (orderly : Orderly file strFilename codeReceivers s) (guard : a.Undisturbed)
    (taken : (machine file strFilename).step s a = some (s', out)) :
    Orderly file strFilename codeReceivers s' := by
  obtain ⟨k, stage, inside, rfl⟩ | settled := orderly
  · obtain ⟨_, before, whole⟩ := n_messages_of_counted counted.1 counted.2
    have limit := (n_messages file.length).toNat_lt
    have step : (machine file strFilename).step (undisturbed file strFilename codeReceivers k stage)
        (stage.action file strFilename k) = _ := step_action entry (by omega)
    rw [action_of_undisturbed guard taken, step] at taken
    cases taken
    cases stage with
    | asking wait => exact .inl ⟨k, .sent, inside, rfl⟩
    | sent => exact .inl ⟨k, .served, inside, rfl⟩
    | served => exact .inl ⟨k, .arrived, inside, rfl⟩
    | arrived => exact .inl ⟨k, .ready, inside, rfl⟩
    | ready =>
        have within : k * MAX_CODE_SIZE ≤ file.length :=
          (Nat.mul_le_mul_right _ (by omega)).trans (le_of_lt before)
        rcases Nat.lt_or_ge (k + 1) (n_messages file.length).toNat with more | last
        · exact .inl ⟨k + 1, .asking .ready, more, next_of_more within more⟩
        · have last : k + 1 = (n_messages file.length).toNat := by omega
          exact .inr (settled_next_of_last within last (last ▸ whole))
  · exact absurd taken settled.stuck

theorem Orderly.survives (counted : CodeTransfer.Counted file) (entry : strFilename ∈ codeReceivers)
    (orderly : Orderly file strFilename codeReceivers s) : s.Survives file strFilename := by
  obtain ⟨k, stage, inside, rfl⟩ | settled := orderly
  · refine ⟨?_, ?_, completes counted entry inside stage⟩
    · cases stage <;> exact nofun
    · intro phase wait
      cases stage with
      | asking _ => cases phase
      | sent => exact .inl List.mem_cons_self
      | served => exact .inr (.inl List.mem_cons_self)
      | arrived => exact .inr (.inr List.mem_cons_self)
      | ready => exact .inr (.inr List.mem_cons_self)
  · have ended : s.phase ≠ .reading := by
      intro reading
      have phase := settled.complete.1
      rw [reading] at phase
      cases phase
    exact ⟨fun reading => absurd reading ended, fun reading => absurd reading ended,
      .now settled.complete⟩

/-- **Loss in a code transfer.** In every state of a run the transfer survives exactly when no
request and no reply of the run is lost and no wait of it times out. -/
theorem survives_iff {as : List Action} (counted : CodeTransfer.Counted file)
    (entry : strFilename ∈ codeReceivers)
    (ran : (machine file strFilename).exec (start codeReceivers) as = some s) :
    (∀ done s', done <+: as → (machine file strFilename).exec (start codeReceivers) done = some s' →
      s'.Survives file strFilename) ↔ ∀ a ∈ as, a.Undisturbed := by
  refine Machine.exec_prefixes_iff (orderly_start counted) (fun s orderly =>
    Orderly.survives counted entry orderly) ?_ ?_ ran
  · intro s a s' out orderly guard taken
    exact orderly.step counted entry guard taken
  · intro s a s' out orderly guard taken
    obtain ⟨k, stage, _, rfl⟩ | settled := orderly
    · exact not_survives_of_disturbed guard taken
    · exact absurd taken settled.stuck

end Runs

/-- The actions of an undisturbed transfer for one segment. -/
def transferOf (file : List UInt8) (strFilename : CString) (k : Nat) : List Action :=
  [.request, .SendCode ⟨strFilename, number k⟩, .HandleCodeMessage (reply file strFilename k),
    .pollReady, .read]

theorem undisturbed_of_mem {file : List UInt8} {strFilename : CString} {k : Nat} {a : Action}
    (mem : a ∈ transferOf file strFilename k) : a.Undisturbed := by
  simp only [transferOf, List.mem_cons, List.not_mem_nil, or_false] at mem
  rcases mem with rfl | rfl | rfl | rfl | rfl <;> exact ⟨rfl, nofun⟩

/-- They lead to the end of the segment. -/
theorem exec_transferOf {file : List UInt8} {strFilename : CString} {codeReceivers : List CString}
    {k : Nat} {wait : Wait} (entry : strFilename ∈ codeReceivers) (bound : k + 1 < 65536)
    (as : List Action) :
    (machine file strFilename).exec (undisturbed file strFilename codeReceivers k (.asking wait))
        (transferOf file strFilename k ++ as) =
      (machine file strFilename).exec (Stage.ready.next file strFilename codeReceivers k) as := by
  have step (stage : Stage) {as : List Action} : (machine file strFilename).exec
      (undisturbed file strFilename codeReceivers k stage)
      (stage.action file strFilename k :: as) =
        (machine file strFilename).exec (stage.next file strFilename codeReceivers k) as := by
    rw [Machine.exec, step_action entry bound]
    rfl
  exact (step (.asking wait)).trans ((step .sent).trans ((step .served).trans
    ((step .arrived).trans (step .ready))))

/-- The actions of an undisturbed transfer of two segments. -/
def wholeTransfer : List Action :=
  transferOf CodeTransfer.twoSegments .empty 0 ++
    (transferOf CodeTransfer.twoSegments .empty 1 ++ [])

/-- A file of two segments is transferred, and survives all the way. -/
theorem survives_iff_two_segments :
    ∃ s, (machine CodeTransfer.twoSegments .empty).exec (start [.empty]) wholeTransfer = some s ∧
      Complete CodeTransfer.twoSegments s ∧
      ∀ done s', done <+: wholeTransfer →
        (machine CodeTransfer.twoSegments .empty).exec (start [.empty]) done = some s' →
          s'.Survives CodeTransfer.twoSegments .empty := by
  have count : (n_messages CodeTransfer.twoSegments.length).toNat = 2 := by
    rw [CodeTransfer.length_twoSegments]
    decide
  have first : 0 * MAX_CODE_SIZE ≤ CodeTransfer.twoSegments.length := by
    rw [Nat.zero_mul]
    exact Nat.zero_le _
  have second : 1 * MAX_CODE_SIZE ≤ CodeTransfer.twoSegments.length := by
    rw [CodeTransfer.length_twoSegments]
    decide
  have whole : CodeTransfer.twoSegments.length ≤ (1 + 1) * MAX_CODE_SIZE := by
    rw [CodeTransfer.length_twoSegments]
    decide
  have entry : CString.empty ∈ [CString.empty] := List.mem_cons_self
  have begun : start [.empty] =
      undisturbed CodeTransfer.twoSegments .empty [.empty] 0 (.asking .polling) := by
    rw [undisturbed, reading, Nat.zero_mul, List.take_zero]
    rfl
  have ran : (machine CodeTransfer.twoSegments .empty).exec (start [.empty]) wholeTransfer =
      some (Stage.ready.next CodeTransfer.twoSegments .empty [.empty] 1) := by
    rw [begun, wholeTransfer, exec_transferOf entry (by decide),
      next_of_more first (count ▸ by decide),
      exec_transferOf entry (by decide)]
    rfl
  have settled : Settled CodeTransfer.twoSegments
      (Stage.ready.next CodeTransfer.twoSegments .empty [.empty] 1) :=
    settled_next_of_last second count.symm whole
  refine ⟨_, ran, settled.complete,
    (survives_iff CodeTransfer.counted_twoSegments entry ran).mpr fun a mem => ?_⟩
  rcases List.mem_append.mp mem with first | rest
  · exact undisturbed_of_mem first
  · exact undisturbed_of_mem (List.append_nil (transferOf _ _ 1) ▸ rest)

/-- The request for a file of one byte is lost. After the wait for it `GetCode` waits for ever. -/
theorem not_survives :
    ¬ ∀ (file : List UInt8) (strFilename : CString) (codeReceivers : List CString)
      (as : List Action) (s : LossyTransfer), CodeTransfer.Counted file →
        strFilename ∈ codeReceivers → as.countP Action.isLoss < 10 →
          (machine file strFilename).exec (start codeReceivers) as = some s →
            s.Survives file strFilename := by
  intro all
  let as : List Action := [.request, .loseRequest ⟨.empty, 1⟩, .pollTimeout]
  have ran : ((machine [1] .empty).exec (start [.empty]) as).map (fun s => (s.phase, s.wait)) =
      some (.reading, .timedOut) := by
    decide
  have none_left : ((machine [1] .empty).exec (start [.empty]) as).map
      (fun s => (s.requests, s.replies, s.pipe)) = some ([], [], []) := by
    decide
  obtain ⟨s, done, reached⟩ := Option.map_eq_some_iff.mp ran
  obtain ⟨phase, wait⟩ := Prod.mk.inj reached
  rw [done, Option.map_some, Option.some_inj, Prod.mk.injEq, Prod.mk.injEq] at none_left
  obtain ⟨requests, replies, pipe⟩ := none_left
  have survives := all [1] .empty [.empty] as s
    ⟨by decide, by decide⟩ List.mem_cons_self (by decide)
    done
  have outstanding := survives.outstanding phase (wait ▸ nofun)
  rw [Outstanding, requests, replies, pipe] at outstanding
  simp at outstanding

end LossyTransfer

end Sdm
