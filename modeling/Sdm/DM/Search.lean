import Sdm.Common.Regex
import Sdm.Message.RoundTrip
import Sdm.DM.SubscriptionTexts
import Sdm.DM.XTEDSLibrary

/-!
`Search` of the Data Manager.

The handler subscribes the requester, or cancels its subscription, where the message asks for it. It
then searches the documents of the registry, one slot after another, and sends a reply for every
match that is reported. One reply object and one search result serve all slots. At the end it sends
an empty reply.

* `sendMatches_eq_ok`, `searchSlots_eq_ok`: when the loops stay inside the array of the reply, and
  what they send.
-/

namespace Sdm

open Lib Checked Memory

/-! ### `Search` -/

/-- A reply that is sent: where to, and the bytes behind its header; none in an empty reply. -/
abbrev SentReply := SDMComponentID × List UInt8

/-- `sizeof(captured_matches)`. -/
def capturedSize : Nat := BUFSIZE - 23

/-- `RecipientId`. -/
def searchRecipient (msg : SDMSearch) (SenderId : SDMComponentID) : SDMComponentID :=
  { sensorID := 0
    address := if msg.destination.address = 0 then SenderId.address else msg.destination.address
    port := msg.destination.port }

/-- What `Search` asks of the subscription list. -/
def searchSubscription (msg : SDMSearch) (SenderId : SDMComponentID) : SubscriptionArgs :=
  { reply := msg.reply, subscriberId := ⟨0, SenderId.address, msg.destination.port⟩
    source := msg.source, device := none, interface := none, itemname := some msg.reg_expr
    quallist := none, id := msg.id, mID := SEARCH_REPLY }

/-- The subscription list after a search, and whether the search goes on. -/
def searchSubscribe (msg : SDMSearch) (SenderId : SDMComponentID) (subscribers : SubscriptionList) :
    Checked (SubscriptionList × Bool) :=
  if msg.reply ≠ SDM_REQREG_CURRENT then
    -- nothing is returned where an unset string is read
    deref (SubscriptionList.addOrRemoveSubscription (searchSubscription msg SenderId) subscribers)
  else pure (subscribers, true)

/-- The slot is searched: it is active, and it is the one asked for if the message names one. -/
def IsSearched {τ : Type} (msg : SDMSearch) (s : XTEDSLibrary τ) : Prop :=
  (s.id = msg.source ∨ msg.source.sensorID = 0) ∧ s.active = true

instance {τ : Type} (msg : SDMSearch) (s : XTEDSLibrary τ) : Decidable (IsSearched msg s) :=
  inferInstanceAs (Decidable (_ ∧ _))

/-- The variables of `Search` that all slots share. -/
structure SearchVariables where
  SearchResults : RegexResult
  msgReply : SDMSearchReply.Held

/-- The loop over the matches of one slot. -/
def sendMatches (RecipientId : SDMComponentID) :
    List RegexMatch → SDMSearchReply.Held → Checked (SDMSearchReply.Held × List SentReply)
  | [], msgReply => pure (msgReply, [])
  | m :: rest, msgReply => do
      let captured_matches ← m.FillMatchText msgReply.captured_matches capturedSize
      let msgReply := { msgReply with captured_matches }
      let body ← SDMSearchReply.body msgReply
      let (msgReply, sent) ← sendMatches RecipientId rest msgReply
      pure (msgReply, (RecipientId, body) :: sent)

/-- The body of the loop over the slots. A slot without a document is read all the same. -/
def searchSlot {τ : Type} (Pattern : RegularExpression) (msg : SDMSearch)
    (RecipientId : SDMComponentID) (s : XTEDSLibrary τ) (vars : SearchVariables) :
    Checked (SearchVariables × List SentReply) :=
  if IsSearched msg s then do
    let fullxTED ← deref s.fullxTED
    let SearchResults := (RegexSearchCapturesOnly fullxTED Pattern).copy
    if SearchResults.Matched then
      let (msgReply, sent) ← sendMatches RecipientId SearchResults.m_Head
        { vars.msgReply with source := s.id, id := msg.id }
      pure ({ SearchResults, msgReply }, sent)
    else pure ({ vars with SearchResults }, [])
  else pure (vars, [])

/-- The loop over the slots. -/
def searchSlots {τ : Type} (Pattern : RegularExpression) (msg : SDMSearch)
    (RecipientId : SDMComponentID) :
    List (XTEDSLibrary τ) → SearchVariables → Checked (SearchVariables × List SentReply)
  | [], vars => pure (vars, [])
  | s :: rest, vars => do
      let (vars, sent) ← searchSlot Pattern msg RecipientId s vars
      let (vars, others) ← searchSlots Pattern msg RecipientId rest vars
      pure (vars, sent ++ others)

/-- The slots of a search: all of them, or the one that has just been registered, if it is there. -/
def searchNodes {τ : Type} (xTEDref : Option Nat) (l : XTEDSLibraryList τ) :
    Option (List (XTEDSLibrary τ)) :=
  match xTEDref with
  | none => some l
  | some ref => (l[ref]?).map fun s => [s]

/-- `Search`: the state of the Data Manager, and the replies. There is no message where it does not
unmarshal; `regcomp` has no expression for a pattern that is not valid; `stale` is what the array of
the reply held before. -/
def Search {τ : Type} (regcomp : CString → Option RegularExpression) (stale : Memory)
    (msg : Option SDMSearch) (SenderId : SDMComponentID) (xTEDref : Option Nat) (st : DMState τ) :
    Checked (DMState τ × List SentReply) :=
  match msg with
  | none => pure (st, [])
  | some msg =>
      if msg.destination.port = 0 then pure (st, [])
      else do
        let RecipientId := searchRecipient msg SenderId
        let (subscribers, goesOn) ← searchSubscribe msg SenderId st.subscribers
        let st := { st with subscribers }
        if goesOn then
          match searchNodes xTEDref st.xTEDSList, regcomp msg.reg_expr with
          | some nodes, some Pattern => do
              let vars : SearchVariables := ⟨.new, .zero, 0, stale.store 0 [0]⟩
              let (_, sent) ← searchSlots Pattern msg RecipientId nodes vars
              pure (st, sent ++ [(RecipientId, [])])
          | _, _ => pure (st, [])
        else pure (st, [])

/-! ### What a reply carries -/

/-- The texts of a reply up to the first that is empty: `Marshal` takes that for the end. -/
def carried (texts : List CString) : List CString := texts.takeWhile (· ≠ .empty)

/-- The bytes of a reply behind its header, for the texts that were written into its array. -/
def replyBody (source : SDMComponentID) (searchID : UInt16) (texts : List CString) : List UInt8 :=
  source.marshal ++ (bytes16 searchID ++ (rowBytes (carried texts) ++ [0]))

/-- The texts leave room in the array for two more terminators, or fill it with an empty one among
them. -/
def Sendable (texts : List CString) : Prop :=
  (rowBytes texts).length + 2 ≤ capturedSize ∨
    (rowBytes texts).length = capturedSize ∧ .empty ∈ texts

section Carried

variable {texts ts : List CString}

theorem carried_cases (texts : List CString) :
    .empty ∉ texts ∧ carried texts = texts ∨ ∃ more, texts = carried texts ++ .empty :: more := by
  induction texts with
  | nil => exact .inl ⟨List.not_mem_nil, rfl⟩
  | cons t rest ih =>
      by_cases empty : t = .empty
      · exact .inr ⟨rest, by simp [carried, empty]⟩
      · have step : carried (t :: rest) = t :: carried rest := by simp [carried, empty]
        rcases ih with ⟨filled, all⟩ | ⟨more, split⟩
        · exact .inl ⟨by simp [filled, Ne.symm empty], by rw [step, all]⟩
        · exact .inr ⟨more, by rw [step, List.cons_append, ← split]⟩

theorem carried_filled : ∀ t ∈ carried texts, t ≠ .empty := by
  intro t mem
  simpa using List.mem_takeWhile_imp mem

theorem carried_eq_self_iff : carried texts = texts ↔ .empty ∉ texts := by
  constructor
  · intro all empty
    rw [← all] at empty
    exact carried_filled .empty empty rfl
  · intro filled
    rcases carried_cases texts with ⟨-, all⟩ | ⟨more, split⟩
    · exact all
    · rw [split] at filled
      exact absurd (List.mem_append_right _ List.mem_cons_self) filled

/-- A row that ends inside of another one ends at an empty text. -/
theorem empty_mem_of_inside (filled : ∀ t ∈ ts, t ≠ .empty)
    (inside : rowBytes ts ++ [0] <+: rowBytes texts) : .empty ∈ texts := by
  induction ts generalizing texts with
  | nil =>
      obtain ⟨rest, same⟩ := inside
      cases texts with
      | nil => cases same
      | cons t texts =>
          have split : CString.empty.bytes ++ 0 :: rest = t.bytes ++ 0 :: rowBytes texts := by
            simpa [rowBytes_cons, CString.empty] using same
          obtain ⟨rfl, -⟩ := text_eq_of_append split
          exact List.mem_cons_self
  | cons u us ih =>
      obtain ⟨rest, same⟩ := inside
      cases texts with
      | nil => simp [rowBytes_cons] at same
      | cons t texts =>
          have split : u.bytes ++ 0 :: (rowBytes us ++ [0] ++ rest) =
              t.bytes ++ 0 :: rowBytes texts := by
            simpa [rowBytes_cons] using same
          obtain ⟨rfl, behind⟩ := text_eq_of_append split
          exact List.mem_cons_of_mem _
            (ih (fun t mem => filled t (List.mem_cons_of_mem _ mem)) ⟨rest, behind⟩)

/-- What `Marshal` makes of an array that the texts were written into. -/
theorem row_of_texts (o : SDMSearchReply.Held) (matched : List UInt8)
    (here : o.captured_matches.Has 0 (rowBytes texts))
    (nul : (rowBytes texts).length < capturedSize → o.captured_matches (rowBytes texts).length = 0)
    (le : (rowBytes texts).length ≤ capturedSize) :
    o.row = .ok matched ↔ ((rowBytes texts).length < capturedSize ∨ .empty ∈ texts) ∧
      matched = rowBytes (carried texts) := by
  have row : (rowBytes texts).length < capturedSize ∨ .empty ∈ texts →
      o.row = .ok (rowBytes (carried texts)) := by
    intro ends
    refine SDMSearchReply.row_eq_ok.mpr ⟨carried texts, carried_filled, ?_⟩
    rcases carried_cases texts with ⟨filled, all⟩ | ⟨more, split⟩
    · have lt := ends.resolve_right filled
      rw [all]
      refine ⟨has_append.mpr ⟨here, has_cons.mpr ⟨?_, rfl⟩⟩, lt, rfl⟩
      rw [Nat.zero_add]
      exact nul lt
    · have whole : rowBytes texts = rowBytes (carried texts) ++ [0] ++ rowBytes more := by
        conv_lhs => rw [split]
        rw [rowBytes_append, rowBytes_cons]
        simp [CString.empty]
      rw [whole] at here le
      refine ⟨(has_append.mp here).1, ?_, rfl⟩
      rw [List.length_append, List.length_append, List.length_singleton] at le
      exact Nat.lt_of_lt_of_le (Nat.lt_succ_self _) (Nat.le_trans (Nat.le_add_right _ _) le)
  constructor
  · intro made
    have ends : (rowBytes texts).length < capturedSize ∨ .empty ∈ texts := by
      by_contra full
      obtain ⟨long, filled⟩ := not_or.mp full
      obtain ⟨ts, others, there, within, -⟩ := SDMSearchReply.row_eq_ok.mp made
      refine filled (empty_mem_of_inside others ?_)
      have whole : o.captured_matches.read 0 (rowBytes texts).length = rowBytes texts := here
      have first : o.captured_matches.read 0 (rowBytes ts ++ [0]).length =
        rowBytes ts ++ [0] := there
      obtain ⟨more, same⟩ : ∃ more, (rowBytes texts).length =
        (rowBytes ts ++ [0]).length + more := by
        refine Nat.exists_eq_add_of_le ?_
        rw [List.length_append, List.length_singleton]
        exact Nat.le_trans within (Nat.le_of_not_lt long)
      rw [← whole, ← first, same, read_add]
      exact List.prefix_append _ _
    rw [row ends] at made
    exact ⟨ends, (Except.ok.inj made).symm⟩
  · rintro ⟨ends, rfl⟩
    exact row ends

/-- When a match is written into the array and marshalled from it, and what is sent. -/
theorem fill_and_marshal {m : RegexMatch} {body : List UInt8} (array : Memory)
    (source : SDMComponentID) (searchID : UInt16) (added : m.captures = texts.map some)
    (nonempty : texts ≠ []) :
    (∃ filled, m.FillMatchText array capturedSize = .ok filled ∧
        SDMSearchReply.body ⟨source, searchID, filled⟩ = .ok body) ↔
      Sendable texts ∧ body = replyBody source searchID texts := by
  have marshal : ∀ filled, m.FillMatchText array capturedSize = .ok filled →
      (rowBytes texts).length ≤ capturedSize →
      (SDMSearchReply.body ⟨source, searchID, filled⟩ = .ok body ↔
        ((rowBytes texts).length < capturedSize ∨ .empty ∈ texts) ∧
          body = replyBody source searchID texts) := by
    intro filled done le
    obtain ⟨here, nul⟩ := RegexMatch.FillMatchText_spec added nonempty done
    have row := fun matched => row_of_texts ⟨source, searchID, filled⟩ matched
      here nul le
    simp only [SDMSearchReply.body, bind_eq_ok, pure_eq_ok, row, and_assoc, exists_and_left,
      exists_eq_left]
    rfl
  constructor
  · rintro ⟨filled, done, sent⟩
    have room := (RegexMatch.FillMatchText_eq_ok array added).mp ⟨filled, done⟩
    obtain ⟨ends, same⟩ := (marshal filled done (by omega)).mp sent
    refine ⟨?_, same⟩
    rcases room with exact | room
    · exact .inr ⟨exact, ends.resolve_left (by omega)⟩
    · exact .inl room
  · rintro ⟨sendable, same⟩
    have room : (rowBytes texts).length = capturedSize ∨
        (rowBytes texts).length + 2 ≤ capturedSize := by
      rcases sendable with room | ⟨exact, -⟩
      · exact .inr room
      · exact .inl exact
    obtain ⟨filled, done⟩ := (RegexMatch.FillMatchText_eq_ok array added).mpr room
    refine ⟨filled, done, (marshal filled done (by omega)).mpr ⟨?_, same⟩⟩
    rcases sendable with room | ⟨-, empty⟩
    · exact .inl (by omega)
    · exact .inr empty

end Carried

section Loops

variable {msg : SDMSearch} {RecipientId : SDMComponentID} {sent : List SentReply}

/-- **The loop over the matches of a slot** sends one reply for each, when all can be sent. -/
theorem sendMatches_eq_ok (RecipientId : SDMComponentID) (sent : List SentReply)
    {found : List RegexMatch} {lists : List (List CString)}
    (reply : SDMSearchReply.Held) (made : found.map (·.captures) = lists.map (·.map some))
    (nonempty : ∀ texts ∈ lists, texts ≠ []) :
    (∃ reply', sendMatches RecipientId found reply = .ok (reply', sent)) ↔
      (∀ texts ∈ lists, Sendable texts) ∧
        sent = lists.map fun texts => (RecipientId, replyBody reply.source reply.id texts) := by
  induction lists generalizing found reply sent with
  | nil =>
      obtain rfl := List.map_eq_nil_iff.mp made
      simp [sendMatches]
  | cons texts lists ih =>
      obtain ⟨m, rest, rfl, added, others⟩ := List.map_eq_cons_iff.mp made
      obtain ⟨first, nonempty⟩ := List.forall_mem_cons.mp nonempty
      rw [List.forall_mem_cons, List.map_cons]
      simp only [sendMatches, bind_eq_ok, pure_eq_ok, Prod.exists, Prod.mk.injEq]
      constructor
      · rintro ⟨_, filled, done, body, marshalled, reply', more, run, -, rfl⟩
        obtain ⟨sendable, rfl⟩ := (fill_and_marshal _ _ _ added first).mp ⟨filled, done, marshalled⟩
        obtain ⟨all, rfl⟩ := (ih _ _ others nonempty).mp ⟨reply', run⟩
        exact ⟨⟨sendable, all⟩, rfl⟩
      · rintro ⟨⟨sendable, all⟩, rfl⟩
        obtain ⟨filled, done, marshalled⟩ := (fill_and_marshal reply.captured_matches
          reply.source reply.id added first).mpr ⟨sendable, rfl⟩
        obtain ⟨reply', run⟩ := (ih _ { reply with captured_matches := filled }
          others nonempty).mpr ⟨all, rfl⟩
        exact ⟨reply', filled, done, _, marshalled, reply', _, run, rfl, rfl⟩

variable {τ : Type} {Pattern : RegularExpression} {s : XTEDSLibrary τ}
  {slots : List (XTEDSLibrary τ)}

/-- The captures that are reported of the document of a slot. -/
def slotReported (Pattern : RegularExpression) (s : XTEDSLibrary τ) : List (List CString) :=
  s.fullxTED.elim [] (reported Pattern)

/-- The slot can be searched: it has its document, and every reply can be sent. -/
def SlotSendable (Pattern : RegularExpression) (s : XTEDSLibrary τ) : Prop :=
  s.fullxTED ≠ none ∧ ∀ texts ∈ slotReported Pattern s, Sendable texts

theorem searchSlot_eq_ok (vars : SearchVariables) :
    (∃ vars', searchSlot Pattern msg RecipientId s vars = .ok (vars', sent)) ↔
      (IsSearched msg s → SlotSendable Pattern s) ∧
        sent = if IsSearched msg s then
          (slotReported Pattern s).map fun texts =>
            (RecipientId, replyBody s.id msg.id texts) else [] := by
  by_cases searched : IsSearched msg s
  · cases document : s.fullxTED with
    | none => simp [searchSlot, searched, document, SlotSendable, bind_eq_ok]
    | some text =>
        obtain ⟨results, same⟩ : ∃ results, results = (RegexSearchCapturesOnly text Pattern).copy :=
          ⟨_, rfl⟩
        have made : results.m_Head.map (·.captures) = (reported Pattern text).map (·.map some) := by
          rw [same, RegexResult.captures_copy, RegexSearchCapturesOnly_eq]
        have own : slotReported Pattern s = reported Pattern text := by
          rw [slotReported, document]
          rfl
        have step : searchSlot Pattern msg RecipientId s vars =
            if results.Matched then
              sendMatches RecipientId results.m_Head
                { vars.msgReply with source := s.id, id := msg.id } >>= fun result =>
                  pure (⟨results, result.1⟩, result.2)
            else pure (⟨results, vars.msgReply⟩, []) := by
          rw [searchSlot, if_pos searched, document, same]
          rfl
        rw [SlotSendable, own, step, document, if_pos searched]
        simp only [searched, true_implies, ne_eq, reduceCtorEq, not_false_eq_true, true_and]
        have loop := fun sent => sendMatches_eq_ok RecipientId sent
          { vars.msgReply with source := s.id, id := msg.id } made
          fun texts mem => by simpa using (List.mem_filter.mp mem).2
        by_cases matched : results.Matched
        · rw [if_pos matched, ← loop]
          simp only [bind_eq_ok, pure_eq_ok, Prod.exists, Prod.mk.injEq]
          constructor
          · rintro ⟨vars', reply', _, run, -, rfl⟩
            exact ⟨reply', run⟩
          · rintro ⟨reply', run⟩
            exact ⟨_, reply', sent, run, rfl, rfl⟩
        · have empty : reported Pattern text = [] := by
            have none := not_not.mp (mt RegexResult.Matched_iff.mpr matched)
            rw [none] at made
            exact List.map_eq_nil_iff.mp made.symm
          rw [if_neg matched, empty]
          simp
  · simp [searchSlot, searched]

/-- **The loop over the slots** sends the replies of every slot that is searched, in order. -/
theorem searchSlots_eq_ok (vars : SearchVariables) :
    (∃ vars', searchSlots Pattern msg RecipientId slots vars = .ok (vars', sent)) ↔
      (∀ s ∈ slots, IsSearched msg s → SlotSendable Pattern s) ∧
        sent = slots.flatMap fun s => if IsSearched msg s then
          (slotReported Pattern s).map fun texts =>
            (RecipientId, replyBody s.id msg.id texts) else [] := by
  induction slots generalizing vars sent with
  | nil => simp [searchSlots]
  | cons s rest ih =>
      rw [List.forall_mem_cons, List.flatMap_cons]
      simp only [searchSlots, bind_eq_ok, pure_eq_ok, Prod.exists, Prod.mk.injEq]
      constructor
      · rintro ⟨_, vars₁, own, first, vars₂, others, run, -, rfl⟩
        obtain ⟨sendable, rfl⟩ := (searchSlot_eq_ok vars).mp ⟨vars₁, first⟩
        obtain ⟨all, rfl⟩ := (ih vars₁).mp ⟨vars₂, run⟩
        exact ⟨⟨sendable, all⟩, rfl⟩
      · rintro ⟨⟨sendable, all⟩, rfl⟩
        obtain ⟨vars₁, first⟩ := (searchSlot_eq_ok vars).mpr ⟨sendable, rfl⟩
        obtain ⟨vars₂, run⟩ := (ih vars₁).mpr ⟨all, rfl⟩
        exact ⟨vars₂, vars₁, _, first, vars₂, _, run, rfl, rfl⟩

end Loops

end Sdm
