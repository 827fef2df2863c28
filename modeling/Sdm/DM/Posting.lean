import Sdm.DM.ReqRegReplies

/-!
Which inactive tasks a `ReqReg` posts.

The first loop of `ReqReg` counts the matches of a slot under a counter that it does not step at a
freed slot, the second loop looks the count of a slot up under its position.

* `walk_counts`, `getElem?_postInactive`: what the loops do.
* `posting_iff`: the right slots are posted exactly when both ways to count agree where it matters.
-/

namespace Sdm

open Lib

namespace ReqRegCall

variable {τ : Type} [XTEDS τ] {q : ReqRegCall} {l l' : XTEDSLibraryList τ} {s : XTEDSLibrary τ}
  {m : List Nat} {pos num : Nat} {sent out : List Effect} {ended : WalkEnd}
  {taskManager : SDMComponentID}

/-- The number of matches in a slot: none when it is not searched; at an invalid expression the
search stops. -/
def found (q : ReqRegCall) (s : XTEDSLibrary τ) : Option Nat :=
  if q.Selects s ∧ s.available = false then (s.xtedsTree.bind q.lookup).map List.length else some 0

/-- The matches of the slots up to where the search stops, by their positions. -/
def matchesByPosition (q : ReqRegCall) : XTEDSLibraryList τ → List Nat
  | [] => []
  | s :: rest =>
      match q.found s with
      | none => []
      | some n => n :: matchesByPosition q rest

/-- The same by the counter, which passes over freed slots. -/
def matchesByCounter (q : ReqRegCall) : XTEDSLibraryList τ → List Nat
  | [] => []
  | s :: rest =>
      if q.Skips s then matchesByCounter q rest
      else
        match q.found s with
        | none => []
        | some n => n :: matchesByCounter q rest

/-! ### The two loops -/

/-- One more count. -/
theorem getElem?_counted {n : Nat} {counts : List Nat} (i : Nat) :
    (m.modify num (· + n))[i]?.map (· + if num + 1 ≤ i then counts[i - (num + 1)]?.getD 0 else 0) =
      m[i]?.map (· + if num ≤ i then (n :: counts)[i - num]?.getD 0 else 0) := by
  rw [List.getElem?_modify, Option.map_eq_map, Option.map_map]
  refine congrArg (Option.map · _) (funext fun a => ?_)
  rw [Function.comp_apply]
  obtain lt | rfl | gt := Nat.lt_trichotomy i num
  · rw [if_neg (by omega), if_neg (by omega), if_neg (by omega)]
  · rw [if_pos rfl, if_neg (by omega), if_pos le_rfl, Nat.sub_self]
    rfl
  · obtain ⟨j, rfl⟩ := Nat.exists_eq_add_of_lt gt
    rw [if_neg (by omega), if_pos (by omega), if_pos (by omega),
      show num + j + 1 - (num + 1) = j by omega, show num + j + 1 - num = j + 1 by omega,
      List.getElem?_cons_succ]

/-- What the first loop of an exhaustive search counts. -/
theorem walk_counts (exhaustive : q.xTEDref = none)
    (walked : walk q l pos num m sent = some ended) :
    ∃ counts now, ended = .finished counts now ∧ ∀ i, counts[i]? =
      m[i]?.map (· + if num ≤ i then (matchesByCounter q l)[i - num]?.getD 0 else 0) := by
  have still (m : List Nat) (num i : Nat) : m[i]? =
      m[i]?.map (· + if num ≤ i then ([] : List Nat)[i - num]?.getD 0 else 0) := by
    simp
  induction l generalizing pos num m sent with
  | nil =>
      cases walked
      exact ⟨m, sent, rfl, still m num⟩
  | cons s rest ih =>
      rw [walk] at walked
      by_cases selects : q.Selects s
      · rw [if_pos selects] at walked
        cases available : s.available with
        | true =>
            have skips : q.Skips s := ⟨selects, available⟩
            rw [available, if_pos rfl] at walked
            rw [matchesByCounter, if_pos skips]
            exact ih walked
        | false =>
            have skips : ¬ q.Skips s := by
              rintro ⟨-, free⟩
              rw [available] at free
              cases free
            rw [available, if_neg Bool.false_ne_true] at walked
            rw [matchesByCounter, if_neg skips, found, if_pos ⟨selects, available⟩]
            cases tree : s.xtedsTree with
            | none =>
                rw [tree] at walked
                cases walked
            | some tree' =>
                rw [tree] at walked
                rw [Option.bind_some]
                dsimp only at walked
                cases lookup : q.lookup tree' with
                | none =>
                    rw [lookup] at walked
                    cases walked
                    exact ⟨m, sent, rfl, still m num⟩
                | some defs =>
                    rw [lookup] at walked
                    simp only [exhaustive, reduceCtorEq, false_and, if_false] at walked
                    obtain ⟨counts, now, rfl, same⟩ := ih walked
                    exact ⟨counts, now, rfl, fun i => (same i).trans (getElem?_counted i)⟩
      · have skips : ¬ q.Skips s := fun skips => selects skips.1
        rw [if_neg selects] at walked
        simp only [exhaustive, reduceCtorEq, false_and, if_false] at walked
        rw [matchesByCounter, if_neg skips, found, if_neg fun searched => selects searched.1]
        obtain ⟨counts, now, rfl, same⟩ := ih walked
        refine ⟨counts, now, rfl, fun i => (same i).trans ?_⟩
        have zero : m.modify num (· + 0) = m := List.modify_id num m
        rw [← getElem?_counted, zero]

/-- What the second loop makes of a slot. -/
theorem getElem?_postInactive (posted : postInactive taskManager l m = some (l', out)) {p : Nat}
    (here : l[p]? = some s) :
    l'[p]? = some (if Posts s (m[p]?.getD 0) then { s with posted := true } else s) := by
  induction l generalizing m l' out p with
  | nil => cases here
  | cons t rest ih =>
      cases m with
      | nil =>
          cases posted
          have not : ¬ Posts s (([] : List Nat)[p]?.getD 0) := fun posts =>
            absurd posts.1 (by simp)
          rw [here, if_neg not]
      | cons n m =>
          obtain ⟨head, first, posted⟩ := Option.bind_eq_some_iff.mp posted
          obtain ⟨tail, others, same⟩ := Option.map_eq_some_iff.mp posted
          cases same
          cases p with
          | zero =>
              cases here
              split at first
              case isTrue posts =>
                obtain ⟨_, -, rfl⟩ := Option.map_eq_some_iff.mp first
                exact congrArg some (if_pos posts).symm
              case isFalse not =>
                cases first
                exact congrArg some (if_neg not).symm
          | succ p => exact ih others here

/-- The second loop comes to its end when what it posts has a name. -/
theorem exists_postInactive (taskManager : SDMComponentID)
    (named : ∀ (p : Nat) (s : XTEDSLibrary τ), l[p]? = some s → Posts s (m[p]?.getD 0) →
    s.xtedsTree.isSome = true) : ∃ r, postInactive taskManager l m = some r := by
  induction l generalizing m with
  | nil => exact ⟨_, rfl⟩
  | cons s rest ih =>
      cases m with
      | nil => exact ⟨_, rfl⟩
      | cons n m =>
          obtain ⟨tail, others⟩ := ih fun p t here posts => named (p + 1) t here posts
          rw [postInactive, others]
          split
          case isTrue posts =>
            obtain ⟨tree, has⟩ := Option.isSome_iff_exists.mp (named 0 s rfl posts)
            rw [postTask, XTEDSLibrary.getName, has]
            split <;> exact ⟨_, rfl⟩
          case isFalse => exact ⟨_, rfl⟩

end ReqRegCall

/-! ### What is posted -/

namespace DMState

open ReqRegCall

variable {τ : Type} [XTEDS τ] {q : ReqRegCall} {st st' : DMState τ} {ended : WalkEnd}

/-- The slot at the position has matched, is inactive and was not posted. -/
def ToBePosted (q : ReqRegCall) (l : XTEDSLibraryList τ) (p : Nat) (s : XTEDSLibrary τ) : Prop :=
  0 < (matchesByPosition q l)[p]?.getD 0 ∧ s.active = false ∧ s.posted = false

instance (q : ReqRegCall) (l : XTEDSLibraryList τ) (p : Nat) (s : XTEDSLibrary τ) :
    Decidable (ToBePosted q l p s) :=
  inferInstanceAs (Decidable (_ ∧ _ ∧ _))

/-- The handler makes the search: a standing query has just been entered. -/
def Searches (q : ReqRegCall) (st : DMState τ) : Prop :=
  q.msg.reply ≠ SDM_REQREG_CURRENT → ∃ subscribers,
    SubscriptionList.addOrRemoveSubscription (reqRegSubscription q) st.subscribers =
      some (subscribers, true)

/-- The handler comes to its end, and has posted the slots that it should post, and no others. -/
def PostsExactly (q : ReqRegCall) (st : DMState τ) : Prop :=
  ∃ st' out, reqReg q st = some (st', out) ∧
    ∀ (p : Nat) (s : XTEDSLibrary τ), st.xTEDSList[p]? = some s →
    st'.xTEDSList[p]? =
      some (if ToBePosted q st.xTEDSList p s then { s with posted := true } else s)

/-- An inactive slot that was not posted has matched exactly when the slot with the same number has
that is found when freed slots are passed over. -/
def CountsAgree (q : ReqRegCall) (l : XTEDSLibraryList τ) : Prop :=
  ∀ (p : Nat) (s : XTEDSLibrary τ), l[p]? = some s → s.active = false → s.posted = false →
    (0 < (matchesByCounter q l)[p]?.getD 0 ↔ 0 < (matchesByPosition q l)[p]?.getD 0)

/-- A slot that has matched has a tree. -/
theorem isSome_of_matched {l : XTEDSLibraryList τ} {p : Nat} {s : XTEDSLibrary τ}
    (here : l[p]? = some s) (matched : 0 < (matchesByPosition q l)[p]?.getD 0) :
    s.xtedsTree.isSome = true := by
  induction l generalizing p with
  | nil => cases here
  | cons t rest ih =>
      rw [matchesByPosition] at matched
      cases number : q.found t with
      | none =>
          rw [number] at matched
          simp at matched
      | some n =>
          rw [number] at matched
          cases p with
          | zero =>
              cases here
              have positive : 0 < n := matched
              rw [ReqRegCall.found] at number
              split at number
              · obtain ⟨defs, looked, -⟩ := Option.map_eq_some_iff.mp number
                obtain ⟨tree, has, -⟩ := Option.bind_eq_some_iff.mp looked
                exact Option.isSome_iff_exists.mpr ⟨tree, has⟩
              · cases number
                exact absurd positive (Nat.lt_irrefl 0)
          | succ p => exact ih here matched

/-- The handler goes on with the search, over the same registry. -/
theorem reqReg_of_searches (exhaustive : q.xTEDref = none) (searches : Searches q st) :
    ∃ subscribers, reqReg q st = reqRegSearch q { st with subscribers := subscribers } := by
  by_cases current : q.msg.reply = SDM_REQREG_CURRENT
  · exact ⟨st.subscribers, if_neg fun standing => standing.1 current⟩
  · obtain ⟨subscribers, entered⟩ := searches current
    refine ⟨subscribers, ?_⟩
    rw [reqReg, if_pos ⟨current, exhaustive⟩, entered, Option.bind_some]
    exact if_pos rfl

/-- **Posting of inactive tasks.** An exhaustive search that sends no match posts the slots that it
should post exactly when the counts agree. -/
theorem posting_iff (exhaustive : q.xTEDref = none) (searches : Searches q st)
    (walked : walk q st.xTEDSList 0 0 (List.replicate st.xTEDSList.length 0) [] = some ended)
    (quiet : ended.sent = []) : PostsExactly q st ↔ CountsAgree q st.xTEDSList := by
  obtain ⟨counts, now, rfl, same⟩ := walk_counts exhaustive walked
  obtain rfl : now = [] := quiet
  have count (p : Nat) (s : XTEDSLibrary τ) (here : st.xTEDSList[p]? = some s) :
      counts[p]?.getD 0 = (matchesByCounter q st.xTEDSList)[p]?.getD 0 := by
    have within : p < st.xTEDSList.length := (List.getElem?_eq_some_iff.mp here).1
    rw [same, List.getElem?_replicate, if_pos within]
    simp
  obtain ⟨subscribers, goesOn⟩ := reqReg_of_searches exhaustive searches
  have search : reqReg q st =
      (postInactive st.taskManager st.xTEDSList counts).map fun posted =>
        ({ st with subscribers := subscribers, xTEDSList := posted.1 },
          posted.2 ++ [.regInfoEmpty q.replyTo]) := by
    rw [goesOn, reqRegSearch, walked]
    rfl
  constructor
  · rintro ⟨st', out, done, exactly⟩ p s here inactive unposted
    rw [search] at done
    obtain ⟨posted, looped, same'⟩ := Option.map_eq_some_iff.mp done
    cases same'
    have both := (getElem?_postInactive looped here).symm.trans (exactly p s here)
    have other : { s with posted := true } ≠ s := fun eq => by
      have flags := congrArg XTEDSLibrary.posted eq
      rw [unposted] at flags
      cases flags
    have agree : Posts s (counts[p]?.getD 0) ↔ ToBePosted q st.xTEDSList p s := by
      by_cases posts : Posts s (counts[p]?.getD 0) <;>
        by_cases wanted : ToBePosted q st.xTEDSList p s
      · exact iff_of_true posts wanted
      · rw [if_pos posts, if_neg wanted] at both
        exact absurd (Option.some.inj both) other
      · rw [if_neg posts, if_pos wanted] at both
        exact absurd (Option.some.inj both).symm other
      · exact iff_of_false posts wanted
    rw [Posts, ToBePosted, count p s here] at agree
    constructor
    · intro counted
      exact (agree.mp ⟨counted, inactive, unposted⟩).1
    · intro matched
      exact (agree.mpr ⟨matched, inactive, unposted⟩).1
  · intro agree
    have posts (p : Nat) (s : XTEDSLibrary τ) (here : st.xTEDSList[p]? = some s) :
        Posts s (counts[p]?.getD 0) ↔ ToBePosted q st.xTEDSList p s := by
      rw [Posts, ToBePosted, count p s here]
      refine and_congr_left fun flags => ?_
      exact agree p s here flags.1 flags.2
    obtain ⟨r, looped⟩ := exists_postInactive st.taskManager fun p s here due =>
      isSome_of_matched here ((posts p s here).mp due).1
    refine ⟨_, _, by rw [search, looped]; rfl, fun p s here => ?_⟩
    rw [← if_congr (posts p s here) rfl rfl]
    exact getElem?_postInactive looped here

/-- Without freed slots both ways to count are one. -/
theorem countsAgree_of_none_freed {l : XTEDSLibraryList τ} (inUse : ∀ s ∈ l, s.available = false) :
    CountsAgree q l := by
  have same : matchesByCounter q l = matchesByPosition q l := by
    induction l with
    | nil => rfl
    | cons s rest ih =>
        have counted : ¬ q.Skips s := fun skips =>
          absurd (skips.2.symm.trans (inUse s List.mem_cons_self)) (by simp)
        rw [matchesByCounter, if_neg counted, matchesByPosition,
          ih fun t mem => inUse t (List.mem_cons_of_mem s mem)]
  intro p s _ _ _
  rw [same]

/-- A slot of an inactive task, in use or freed. -/
def inactiveSlot (sensorID : UInt32) (available : Bool) : XTEDSLibrary NamedDocument :=
  { reportingSlot sensorID available with active := false }

/-- A query for all messages of all components, made once. -/
def allMessages : ReqRegCall := { allMessagesOf 0 with xTEDref := none }

/-- Three inactive tasks, of which the second has no message. -/
def threeInactive : XTEDSLibraryList NamedDocument :=
  [inactiveSlot 0x10001 false,
    { inactiveSlot 0x10002 false with xtedsTree := some ⟨.ofString "Quiet", []⟩ },
    inactiveSlot 0x10003 false]

/-- In a registry with three inactive tasks, those with a message are posted. -/
theorem posting_iff_inUse : PostsExactly allMessages (withSlots threeInactive) := by
  have agree : CountsAgree allMessages threeInactive := by
    refine countsAgree_of_none_freed fun s mem => ?_
    rcases List.mem_cons.mp mem with rfl | mem
    · rfl
    · rcases List.mem_pair.mp mem with rfl | rfl <;> rfl
  exact (posting_iff rfl (fun standing => absurd rfl standing) rfl rfl).mpr agree

/-- After a freed slot, the freed slot is posted in the place of the task that has matched. -/
theorem freed_slot_posted :
    ¬ ∀ (q : ReqRegCall) (st : DMState NamedDocument) (ended : WalkEnd), q.xTEDref = none →
      Searches q st →
        walk q st.xTEDSList 0 0 (List.replicate st.xTEDSList.length 0) [] = some ended →
          ended.sent = [] → PostsExactly q st := by
  intro exactly
  let freed := inactiveSlot 0x10001 true
  let waiting := inactiveSlot 0x10002 false
  obtain ⟨st', out, done, posted⟩ := exactly allMessages (withSlots [freed, waiting])
    (.finished [1, 0] []) rfl (fun standing => absurd rfl standing) rfl rfl
  have run : reqReg allMessages (withSlots [freed, waiting]) =
      some (withSlots [{ freed with posted := true }, waiting],
        [.regInfoEmpty ⟨0, 9, 5000⟩]) := rfl
  rw [run] at done
  cases done
  have wrong := posted 0 freed rfl
  exact absurd wrong (by decide)

end DMState

end Sdm
