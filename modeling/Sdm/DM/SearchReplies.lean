import Sdm.Lib.Building
import Sdm.DM.Search

/-!
The replies to a search of all documents.

Due is one reply for every successive match of every document that is searched, with the texts of
all groups that take part; a match without such a group needs none. What is sent falls short of that
in four ways: the loop ends at an empty match, the groups are read up to the first that takes no
part and up to the fifth, an empty text ends the row, and the array overflows.

* `Search_eq_ok`: when `Search` comes to its end, and what it has sent.
* `search_answered_iff`: when the replies are those that are due.
-/

namespace Sdm

open Lib Checked Memory

/-! ### What is due -/

/-- The texts that are due for a document: those of every successive match that has any. -/
def dueTexts (Pattern : RegularExpression) (text : CString) : List (List CString) :=
  ((successive Pattern false .empty text).map fun f => f.2.participating f.1).filter (· ≠ [])

/-- The replies that are due: slot by slot, with the id of the slot. -/
def dueReplies {τ : Type} (Pattern : RegularExpression) (msg : SDMSearch)
    (l : XTEDSLibraryList τ) : List (SDMComponentID × List CString) :=
  l.flatMap fun s => if IsSearched msg s then
    (s.fullxTED.elim [] (dueTexts Pattern)).map fun texts => (s.id, texts) else []

/-- A reply to the requester carries the id of the slot and of the search, and the texts in a row,
if the array can hold them. -/
def Carries (RecipientId : SDMComponentID) (searchID : UInt16)
    (due : SDMComponentID × List CString) (reply : SentReply) : Prop :=
  reply.1 = RecipientId ∧ ∃ row, reply.2 = due.1.marshal ++ (bytes16 searchID ++ row) ∧
    ((rowBytes due.2).length ≤ capturedSize → row = rowBytes due.2 ++ [0])

/-- The search ends with one empty reply, behind the replies that are due. -/
def Answered {τ : Type} (Pattern : RegularExpression) (msg : SDMSearch) (SenderId : SDMComponentID)
    (l : XTEDSLibraryList τ) (result : Checked (DMState τ × List SentReply)) : Prop :=
  let RecipientId := searchRecipient msg SenderId
  ∃ st' replies, result = .ok (st', replies ++ [(RecipientId, [])]) ∧
    List.Forall₂ (Carries RecipientId msg.id) (dueReplies Pattern msg l) replies

/-! ### When they are sent -/

/-- The first group of the match takes part, the texts can be sent, and nothing is left out of them
if the array can hold them. -/
def MatchReported (text : CString) (m : Regmatch) : Prop :=
  m.leading text ≠ [] ∧ Sendable (m.leading text) ∧
    ((rowBytes (m.participating text)).length ≤ capturedSize →
      m.leading text = m.participating text ∧ .empty ∉ m.participating text)

/-- Every match of a document with a group that takes part is reported, and stands before the first
place where the match is empty. -/
def DocumentReported (Pattern : RegularExpression) (text : CString) : Prop :=
  (∀ f ∈ successive Pattern false .empty text, f.2.participating f.1 ≠ [] →
      MatchReported f.1 f.2) ∧
    ∀ f ∈ unreached Pattern false .empty text, f.2.participating f.1 = []

/-- The search has a port to reply to, is no cancellation, and all documents are there and
reported. -/
structure SearchReported {τ : Type} (Pattern : RegularExpression) (msg : SDMSearch)
    (l : XTEDSLibraryList τ) : Prop where
  port : msg.destination.port ≠ 0
  asked : msg.reply ≠ SUB_CANCEL
  documents : ∀ s ∈ l, IsSearched msg s →
    ∃ text, s.fullxTED = some text ∧ DocumentReported Pattern text

/-- No match of a document that is searched depends on what stands before the place where the loop
starts again. -/
def AllAlike {τ : Type} (Pattern : RegularExpression) (msg : SDMSearch)
    (l : XTEDSLibraryList τ) : Prop :=
  ∀ s ∈ l, IsSearched msg s → ∀ text, s.fullxTED = some text → Alike Pattern .empty text

section Replies

variable {τ : Type} {Pattern : RegularExpression} {msg : SDMSearch} {SenderId : SDMComponentID}
  {st : DMState τ} {regcomp : CString → Option RegularExpression} {stale : Memory}
  {sent : List SentReply} {text : CString} {m : Regmatch}

open SubscriptionList in
/-- The subscription list takes every search that is no cancellation, and nothing follows a
cancellation. -/
theorem search_goesOn_iff (msg : SDMSearch) (SenderId : SDMComponentID)
    (wk : WellKinded st.subscribers) :
    (∃ l, searchSubscribe msg SenderId st.subscribers = .ok (l, true)) ↔
      msg.reply ≠ SUB_CANCEL := by
  unfold searchSubscribe
  by_cases current : msg.reply = SDM_REQREG_CURRENT
  · rw [if_neg (not_not.mpr current), current]
    exact iff_of_true ⟨_, rfl⟩ (by decide)
  · rw [if_pos current]
    simp only [deref_eq_ok]
    unfold addOrRemoveSubscription
    have given : (searchSubscription msg SenderId).TextsGiven :=
      ⟨Option.some_ne_none _, fun h => absurd rfl h, fun h => absurd rfl h, fun h => absurd rfl h⟩
    obtain ⟨l, added⟩ := Option.ne_none_iff_exists'.mp (addSearch_ne_none given wk)
    have kind : (searchSubscription msg SenderId).mID = SEARCH_REPLY := rfl
    have reply : (searchSubscription msg SenderId).reply = msg.reply := rfl
    rw [kind, reply, if_pos rfl, if_pos rfl, added]
    by_cases add : msg.reply = SUB_CURRENT_AND_FUTURE ∨
        msg.reply = SUB_CURRENT_FUTURE_AND_CANCELLATIONS
    · rw [if_pos add]
      refine iff_of_true ⟨l, rfl⟩ ?_
      rcases add with same | same <;> rw [same] <;> decide
    · rw [if_neg add]
      by_cases cancel : msg.reply = SUB_CANCEL
      · rw [if_pos cancel]
        refine iff_of_false ?_ (not_not.mpr cancel)
        rintro ⟨l', taken⟩
        split at taken
        · cases taken
        · obtain ⟨_, -, same⟩ := Option.map_eq_some_iff.mp taken
          cases same
      · rw [if_neg cancel]
        exact iff_of_true ⟨_, rfl⟩ cancel

/-- **`Search` comes to its end** when it has a port, is no cancellation, and the loop over the
slots comes to its end. -/
theorem Search_eq_ok (stale : Memory) (SenderId : SDMComponentID)
    (valid : regcomp msg.reg_expr = some Pattern)
    (wk : st.subscribers.WellKinded) :
    (∃ st', Search regcomp stale (some msg) SenderId none st =
        .ok (st', sent ++ [(searchRecipient msg SenderId, [])])) ↔
      msg.destination.port ≠ 0 ∧ msg.reply ≠ SUB_CANCEL ∧
        (∀ s ∈ st.xTEDSList, IsSearched msg s → SlotSendable Pattern s) ∧
        sent = st.xTEDSList.flatMap fun s => if IsSearched msg s then
          (slotReported Pattern s).map fun texts =>
            (searchRecipient msg SenderId, replyBody s.id msg.id texts) else [] := by
  by_cases port : msg.destination.port = 0
  · simp [Search, port]
  have asked := search_goesOn_iff msg SenderId wk
  rw [← searchSlots_eq_ok ⟨.new, .zero, 0, stale.store 0 [0]⟩, ← asked]
  simp only [Search, port, if_false, searchNodes, valid, ne_eq, not_false_eq_true, true_and]
  constructor
  · rintro ⟨st', run⟩
    obtain ⟨⟨l, goesOn⟩, taken, run⟩ := bind_eq_ok.mp run
    cases goesOn with
    | false => simp at run
    | true =>
        rw [if_pos rfl] at run
        obtain ⟨⟨vars', own⟩, loop, same⟩ := bind_eq_ok.mp run
        obtain ⟨-, same⟩ := Prod.mk.injEq .. ▸ pure_eq_ok.mp same
        rw [List.append_left_inj] at same
        exact ⟨⟨l, taken⟩, vars', same ▸ loop⟩
  · rintro ⟨⟨l, taken⟩, vars', loop⟩
    refine ⟨{ st with subscribers := l }, bind_eq_ok.mpr ⟨(l, true), taken, ?_⟩⟩
    rw [if_pos rfl]
    exact bind_eq_ok.mpr ⟨(vars', sent), loop, rfl⟩

/-! ### Due and sent, match by match -/

theorem leadingTexts_sublist (groups : List (Option (Nat × Nat))) :
    List.Sublist (leadingTexts text groups) ((groups.filterMap id).map (groupText text)) :=
  ((List.takeWhile_sublist _).filterMap id).map _

theorem leading_sublist (text : CString) (m : Regmatch) :
    List.Sublist (m.leading text) (m.participating text) :=
  (leadingTexts_sublist _).trans (((List.take_sublist _ _).filterMap id).map _)

/-- A reply carries the texts that are due when they are the ones reported, and none is empty. -/
theorem carries_iff {RecipientId source : SDMComponentID} {searchID : UInt16} :
    Carries RecipientId searchID (source, m.participating text)
        (RecipientId, replyBody source searchID (m.leading text)) ↔
      ((rowBytes (m.participating text)).length ≤ capturedSize →
        m.leading text = m.participating text ∧ .empty ∉ m.participating text) := by
  have rows : rowBytes (carried (m.leading text)) ++ [0] = rowBytes (m.participating text) ++ [0] ↔
      m.leading text = m.participating text ∧ .empty ∉ m.participating text := by
    rw [List.append_left_inj, rowBytes_injective.eq_iff]
    constructor
    · intro same
      have short : List.Sublist (carried (m.leading text)) (m.leading text) :=
        List.takeWhile_sublist _
      have whole : m.leading text = m.participating text := by
        refine (leading_sublist text m).eq_of_length_le ?_
        rw [← same]
        exact short.length_le
      rw [whole] at same
      exact ⟨whole, carried_eq_self_iff.mp same⟩
    · rintro ⟨whole, filled⟩
      rw [whole]
      exact carried_eq_self_iff.mpr filled
  constructor
  · rintro ⟨-, row, same, fits⟩ le
    have row := List.append_cancel_left (List.append_cancel_left same)
    exact rows.mp (row.trans (fits le))
  · intro whole
    exact ⟨rfl, _, rfl, fun le => rows.mpr (whole le)⟩

/-- A match of a document that is searched, and whether the loop comes to it. -/
structure DueMatch where
  slot : SDMComponentID
  text : CString
  found : Regmatch
  reached : Bool

/-- The successive matches of all documents that are searched. -/
def dueMatches (Pattern : RegularExpression) (msg : SDMSearch) (l : XTEDSLibraryList τ) :
    List DueMatch :=
  l.flatMap fun s => if IsSearched msg s then
    s.fullxTED.elim [] fun text =>
      ((found Pattern text).map fun f => ⟨s.id, f.1, f.2, true⟩) ++
        (unreached Pattern false .empty text).map fun f => ⟨s.id, f.1, f.2, false⟩
    else []

theorem dueReplies_eq {l : XTEDSLibraryList τ} (alike : AllAlike Pattern msg l) :
    dueReplies Pattern msg l = ((dueMatches Pattern msg l).filter fun d =>
      d.found.participating d.text ≠ []).map fun d => (d.slot, d.found.participating d.text) := by
  rw [dueReplies, dueMatches, List.filter_flatMap, List.map_flatMap]
  refine List.flatMap_congr fun s mem => ?_
  by_cases searched : IsSearched msg s
  · rw [if_pos searched, if_pos searched]
    cases document : s.fullxTED with
    | none => rfl
    | some text =>
        have whole := successive_eq false (alike s mem searched text document)
        simp only [Option.elim_some, dueTexts, whole, List.map_append, List.filter_append,
          List.filter_map, List.map_map]
        rfl
  · rw [if_neg searched, if_neg searched]
    rfl

theorem sent_eq {l : XTEDSLibraryList τ} {RecipientId : SDMComponentID} :
    (l.flatMap fun s => if IsSearched msg s then (slotReported Pattern s).map fun texts =>
        (RecipientId, replyBody s.id msg.id texts) else []) =
      ((dueMatches Pattern msg l).filter fun d => d.reached && d.found.leading d.text ≠ []).map
        fun d => (RecipientId, replyBody d.slot msg.id (d.found.leading d.text)) := by
  rw [dueMatches, List.filter_flatMap, List.map_flatMap]
  refine List.flatMap_congr fun s _ => ?_
  by_cases searched : IsSearched msg s
  · rw [if_pos searched, if_pos searched, slotReported]
    cases document : s.fullxTED with
    | none => rfl
    | some text =>
        simp only [Option.elim_some, reported, List.map_append, List.filter_append,
          List.filter_map, List.map_map]
        have beyond : (unreached Pattern false .empty text).filter ((fun d : DueMatch =>
            d.reached && decide (d.found.leading d.text ≠ [])) ∘
              fun f => ⟨s.id, f.1, f.2, false⟩) = [] :=
          List.filter_eq_nil_iff.mpr fun _ _ => Bool.false_ne_true
        rw [beyond, List.map_nil, List.append_nil]
        rfl
  · rw [if_neg searched, if_neg searched]
    rfl

theorem mem_dueMatches {l : XTEDSLibraryList τ} {d : DueMatch} :
    d ∈ dueMatches Pattern msg l ↔ ∃ s ∈ l, IsSearched msg s ∧ ∃ text, s.fullxTED = some text ∧
      d.slot = s.id ∧ ((d.text, d.found) ∈ found Pattern text ∧ d.reached = true ∨
        (d.text, d.found) ∈ unreached Pattern false .empty text ∧ d.reached = false) := by
  obtain ⟨slot, text, m, reached⟩ := d
  simp only [dueMatches, List.mem_flatMap]
  refine exists_congr fun s => and_congr_right fun _ => ?_
  by_cases searched : IsSearched msg s
  · rw [if_pos searched]
    cases document : s.fullxTED with
    | none => simp
    | some whole =>
        simp only [Option.elim_some, List.mem_append, List.mem_map, DueMatch.mk.injEq, Prod.exists,
          searched, true_and, Option.some.injEq, exists_eq_left']
        constructor
        · rintro (⟨text, m, mem, rfl, rfl, rfl, rfl⟩ | ⟨text, m, mem, rfl, rfl, rfl, rfl⟩)
          · exact ⟨rfl, .inl ⟨mem, rfl⟩⟩
          · exact ⟨rfl, .inr ⟨mem, rfl⟩⟩
        · rintro ⟨rfl, ⟨mem, rfl⟩ | ⟨mem, rfl⟩⟩
          · exact .inl ⟨text, m, mem, rfl, rfl, rfl, rfl⟩
          · exact .inr ⟨text, m, mem, rfl, rfl, rfl, rfl⟩
  · simp [searched]

/-- The documents are all reported exactly when every reply can be sent and every match that needs a
reply is reached, reported and carried. -/
theorem documents_iff {l : XTEDSLibraryList τ} (RecipientId : SDMComponentID)
    (alike : AllAlike Pattern msg l) :
    ((∀ s ∈ l, IsSearched msg s → SlotSendable Pattern s) ∧
      ∀ d ∈ dueMatches Pattern msg l, d.found.participating d.text ≠ [] →
        (d.reached = true ∧ d.found.leading d.text ≠ []) ∧
          Carries RecipientId msg.id (d.slot, d.found.participating d.text)
            (RecipientId, replyBody d.slot msg.id (d.found.leading d.text))) ↔
      ∀ s ∈ l, IsSearched msg s →
        ∃ text, s.fullxTED = some text ∧ DocumentReported Pattern text := by
  simp only [carries_iff]
  constructor
  · rintro ⟨sendable, each⟩ s mem searched
    obtain ⟨there, all⟩ := sendable s mem searched
    obtain ⟨text, document⟩ := Option.ne_none_iff_exists'.mp there
    rw [slotReported, document, Option.elim_some] at all
    have reached : ∀ f ∈ found Pattern text, f.2.participating f.1 ≠ [] →
        MatchReported f.1 f.2 := by
      intro f here due
      obtain ⟨⟨-, some⟩, carries⟩ := each ⟨s.id, f.1, f.2, true⟩
        (mem_dueMatches.mpr ⟨s, mem, searched, text, document, rfl, .inl ⟨here, rfl⟩⟩) due
      refine ⟨some, all _ ?_, carries⟩
      exact List.mem_filter.mpr ⟨List.mem_map.mpr ⟨f, here, rfl⟩, decide_eq_true some⟩
    have beyond : ∀ f ∈ unreached Pattern false .empty text, f.2.participating f.1 = [] := by
      intro f here
      by_contra due
      obtain ⟨⟨reached, -⟩, -⟩ := each ⟨s.id, f.1, f.2, false⟩
        (mem_dueMatches.mpr ⟨s, mem, searched, text, document, rfl, .inr ⟨here, rfl⟩⟩) due
      cases reached
    refine ⟨text, document, fun f here due => ?_, beyond⟩
    rw [successive_eq false (alike s mem searched text document)] at here
    rcases List.mem_append.mp here with here | here
    · exact reached f here due
    · exact absurd (beyond f here) due
  · intro documents
    have whole : ∀ s ∈ l, IsSearched msg s → ∀ text, s.fullxTED = some text →
        (∀ f ∈ found Pattern text, f.2.participating f.1 ≠ [] → MatchReported f.1 f.2) ∧
          ∀ f ∈ unreached Pattern false .empty text, f.2.participating f.1 = [] := by
      intro s mem searched text document
      obtain ⟨text', document', reported, beyond⟩ := documents s mem searched
      cases document.symm.trans document'
      refine ⟨fun f here => reported f ?_, beyond⟩
      rw [successive_eq false (alike s mem searched text document)]
      exact List.mem_append_left _ here
    constructor
    · intro s mem searched
      obtain ⟨text, document, -⟩ := documents s mem searched
      refine ⟨by rw [document]; exact Option.some_ne_none text, ?_⟩
      rw [slotReported, document, Option.elim_some]
      intro texts isReported
      obtain ⟨made, some⟩ := List.mem_filter.mp isReported
      obtain ⟨f, here, rfl⟩ := List.mem_map.mp made
      refine ((whole s mem searched text document).1 f here fun none => ?_).2.1
      have leads := leading_sublist f.1 f.2
      rw [none, List.sublist_nil] at leads
      exact of_decide_eq_true some leads
    · intro d isDue due
      obtain ⟨s, mem, searched, text, document, -, there⟩ := mem_dueMatches.mp isDue
      obtain ⟨reported, beyond⟩ := whole s mem searched text document
      rcases there with ⟨here, reached⟩ | ⟨here, -⟩
      · obtain ⟨leads, -, carries⟩ := reported (d.text, d.found) here due
        exact ⟨⟨reached, leads⟩, carries⟩
      · exact absurd (beyond (d.text, d.found) here) due

/-- A search is answered exactly when all matches are reported, where these do not depend on what
stands before. -/
theorem answered_iff (valid : regcomp msg.reg_expr = some Pattern)
    (wk : st.subscribers.WellKinded) (alike : AllAlike Pattern msg st.xTEDSList) :
    Answered Pattern msg SenderId st.xTEDSList
        (Search regcomp stale (some msg) SenderId none st) ↔
      SearchReported Pattern msg st.xTEDSList := by
  have selected : ∀ d ∈ dueMatches Pattern msg st.xTEDSList,
      (d.reached && decide (d.found.leading d.text ≠ [])) = true →
        decide (d.found.participating d.text ≠ []) = true := by
    intro d _ chosen
    obtain ⟨-, leads⟩ := Bool.and_eq_true_iff.mp chosen
    refine decide_eq_true fun none => of_decide_eq_true leads ?_
    have inside := leading_sublist d.text d.found
    rwa [none, List.sublist_nil] at inside
  have related := calc
    List.Forall₂ (Carries (searchRecipient msg SenderId) msg.id)
        (dueReplies Pattern msg st.xTEDSList)
        (st.xTEDSList.flatMap fun s => if IsSearched msg s then
          (slotReported Pattern s).map fun texts =>
            (searchRecipient msg SenderId, replyBody s.id msg.id texts) else []) ↔ _ := by
          rw [dueReplies_eq alike, sent_eq]
    _ ↔ _ := Building.forall₂_filter_iff selected
  have documents := documents_iff (searchRecipient msg SenderId) alike
  constructor
  · rintro ⟨st', replies, ends, carried⟩
    obtain ⟨port, asked, sendable, rfl⟩ := (Search_eq_ok stale SenderId valid wk).mp ⟨st', ends⟩
    refine ⟨port, asked, documents.mp ⟨sendable, fun d mem due => ?_⟩⟩
    obtain ⟨chosen, carries⟩ := related.mp carried d mem (decide_eq_true due)
    obtain ⟨reached, leads⟩ := Bool.and_eq_true_iff.mp chosen
    exact ⟨⟨reached, of_decide_eq_true leads⟩, carries⟩
  · rintro ⟨port, asked, reported⟩
    obtain ⟨sendable, carried⟩ := documents.mpr reported
    obtain ⟨st', ends⟩ := (Search_eq_ok stale SenderId valid wk).mpr
      ⟨port, asked, sendable, rfl⟩
    refine ⟨st', _, ends, related.mpr fun d mem due => ?_⟩
    obtain ⟨⟨reached, leads⟩, carries⟩ := carried d mem (of_decide_eq_true due)
    exact ⟨Bool.and_eq_true_iff.mpr ⟨reached, decide_eq_true leads⟩, carries⟩

/-- **When a search of all documents is answered**: when all matches are reported and do not depend
on what stands before the places that the loop starts again from. Where they do not depend on it, in
no other case. -/
theorem search_answered_iff (ok : SubscriptionList → SubscriptionCall → Prop)
    (regcomp : CString → Option RegularExpression) (Pattern : RegularExpression)
    (stale : Memory) (msg : SDMSearch) (SenderId : SDMComponentID) (st : DMState τ)
    (valid : regcomp msg.reg_expr = some Pattern)
    (run : SubscriptionList.machine.Reaches ok [] st.subscribers) :
    (AllAlike Pattern msg st.xTEDSList ∧ SearchReported Pattern msg st.xTEDSList →
      Answered Pattern msg SenderId st.xTEDSList
        (Search regcomp stale (some msg) SenderId none st)) ∧
    (AllAlike Pattern msg st.xTEDSList → Answered Pattern msg SenderId st.xTEDSList
        (Search regcomp stale (some msg) SenderId none st) →
      SearchReported Pattern msg st.xTEDSList) := by
  have wk := SubscriptionList.reachable_wellKinded run
  constructor
  · rintro ⟨alike, reported⟩
    exact (answered_iff valid wk alike).mpr reported
  · intro alike answered
    exact (answered_iff valid wk alike).mp answered

end Replies

/-- An expression that matches all of the text `b`, as it does there and behind it. -/
def matchB (groups : List (Option (Nat × Nat)))
    (inside : ∀ g, some g ∈ groups → g.1 ≤ g.2 ∧ g.2 ≤ 1) :
    RegularExpression where
  leftmost _ rest := if rest = .ofString "b" then some ⟨(0, 1), groups⟩ else none
  inside := by
    intro before rest m here
    split at here
    · rename_i same
      cases here
      rw [same]
      exact ⟨Nat.zero_le 1, Nat.le_refl 1⟩
    · cases here
  groups_inside := by
    intro before rest m here g mem
    split at here
    · rename_i same
      cases here
      rw [same]
      exact inside g mem
    · cases here

/-- A compiler that knows one pattern. -/
def compileOnly (pattern : CString) (Pattern : RegularExpression) (text : CString) :
    Option RegularExpression := if text = pattern then some Pattern else none

/-- `(b)` on the text `b`. -/
def expressionB : RegularExpression := matchB [some (0, 1)] (by simp)

/-- `(a)?(b)` on the text `b`: the first group takes no part. -/
def expressionAB : RegularExpression := matchB [none, some (0, 1)] (by simp)

section Example

variable {groups : List (Option (Nat × Nat))}
  {inside : ∀ g, some g ∈ groups → g.1 ≤ g.2 ∧ g.2 ≤ 1}

theorem matchB_successive : successive (matchB groups inside) false .empty (.ofString "b") =
    [(.ofString "b", ⟨(0, 1), groups⟩)] := by
  rw [successive_of_moves (m := ⟨(0, 1), groups⟩) rfl (by simp [Regmatch.AtStart]),
    successive_of_none rfl]

theorem matchB_unreached : unreached (matchB groups inside) false .empty (.ofString "b") = [] := by
  rw [unreached_of_moves (m := ⟨(0, 1), groups⟩) rfl (by simp [Regmatch.AtStart]),
    unreached_of_none rfl]

/-- A registry with the document `b`, and no subscription. -/
def registryOfB : DMState Unit where
  xTEDSList := [{ XTEDSLibrary.new with
    available := false, active := true, fullxTED := some (.ofString "b"),
    id := ⟨0x10001, 1, 4000⟩ }]
  subscribers := []
  sensorSubscriptions := []
  addressDM := 1
  taskManager := .zero

/-- A search in all documents. -/
def searchFor (reg_expr : CString) : SDMSearch :=
  { source := .zero, destination := ⟨0, 1, 5000⟩, reply := SDM_REQREG_CURRENT, id := 7, reg_expr }

theorem matchB_alike (msg : SDMSearch) :
    AllAlike (matchB groups inside) msg registryOfB.xTEDSList := fun _ _ _ _ _ _ _ => rfl

/-- The document `b` is answered with its one group. -/
theorem search_answered_for_b :
    Answered expressionB (searchFor (.ofString "(b)")) ⟨0, 1, 5000⟩ registryOfB.xTEDSList
      (Search (compileOnly (.ofString "(b)") expressionB) (fun _ => 0)
        (some (searchFor (.ofString "(b)"))) ⟨0, 1, 5000⟩ none registryOfB) := by
  refine (search_answered_iff (fun _ _ => True) _ expressionB _ _ _ _ rfl .start).1
    ⟨matchB_alike _, by decide, by decide, ?_⟩
  intro s mem _
  obtain rfl := List.mem_singleton.mp mem
  refine ⟨.ofString "b", rfl, ?_, ?_⟩
  · rw [expressionB, matchB_successive]
    intro f here _
    obtain rfl := List.mem_singleton.mp here
    exact ⟨by decide, .inl (by decide), fun _ => ⟨rfl, by decide⟩⟩
  · rw [expressionB, matchB_unreached]
    exact fun _ mem => absurd mem List.not_mem_nil

/-- A match whose first group takes no part is not reported at all. -/
theorem not_search_answered : ¬ ∀ (regcomp : CString → Option RegularExpression)
    (Pattern : RegularExpression) (stale : Memory) (msg : SDMSearch) (SenderId : SDMComponentID)
    (st : DMState Unit), regcomp msg.reg_expr = some Pattern → st.subscribers = [] →
      msg.destination.port ≠ 0 → msg.reply = SDM_REQREG_CURRENT →
      AllAlike Pattern msg st.xTEDSList →
      Answered Pattern msg SenderId st.xTEDSList
        (Search regcomp stale (some msg) SenderId none st) := by
  intro answered
  have wk : registryOfB.subscribers.WellKinded := fun _ mem => absurd mem List.not_mem_nil
  have valid : compileOnly (.ofString "(a)?(b)") expressionAB (.ofString "(a)?(b)") =
      some expressionAB := rfl
  have reported := (answered_iff valid wk (matchB_alike _)).mp
    (answered (compileOnly (.ofString "(a)?(b)") expressionAB) expressionAB (fun _ => 0)
      (searchFor (.ofString "(a)?(b)")) ⟨0, 1, 5000⟩ registryOfB valid rfl (by decide) rfl
      (matchB_alike _))
  obtain ⟨text, document, all, -⟩ := reported.documents _ List.mem_cons_self ⟨.inr rfl, rfl⟩
  cases document
  rw [matchB_successive] at all
  exact (all _ List.mem_cons_self (by decide)).1 rfl

end Example

end Sdm
