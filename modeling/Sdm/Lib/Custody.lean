import Mathlib.Data.List.Basic
import Mathlib.Data.List.Nodup
import Mathlib.Logic.Function.Basic

/-!
Jobs in the custody of a component that must report each of them once.

A job that has arrived is held by tokens (it waits, or is under way, to be started) and by an
entry (idle, or running). It is started by turning its token into its entry, it may be started
again by a token while its entry is idle, and it leaves with one report.

* `Accounted.step`: every step keeps the account.
* `Accounted.once`: a job that has arrived is held and not reported, or not held and reported
  once.
-/

namespace Sdm.Lib

/-- The jobs of a component: how many tokens a job has, the entries with whether they are
running, the job that is being started, and the jobs that arrived and were reported. -/
@[ext]
structure Custody (κ : Type*) where
  tokens : κ → Nat
  entries : List (κ × Bool)
  starting : Option κ
  received : List κ
  finished : List κ

namespace Custody

variable {κ : Type*} [DecidableEq κ]

/-- The jobs that have an entry. -/
def keys (c : Custody κ) : List κ := c.entries.map Prod.fst

def Held (c : Custody κ) (p : κ) : Prop := c.tokens p ≠ 0 ∨ p ∈ c.keys

/-- What may happen to a job. -/
inductive Step : Custody κ → Custody κ → Prop
  /-- A new job arrives. -/
  | arrive {c : Custody κ} {p : κ} : p ∉ c.received →
      Step c { c with
        tokens := Function.update c.tokens p (c.tokens p + 1)
        received := c.received ++ [p] }
  /-- A token is lost, and the entry of the job is still there. -/
  | drop {c : Custody κ} {p : κ} : c.tokens p ≠ 0 → p ∈ c.keys →
      Step c { c with tokens := Function.update c.tokens p (c.tokens p - 1) }
  /-- The job cannot be started and is reported. -/
  | giveUp {c : Custody κ} {p : κ} : c.tokens p ≠ 0 → p ∉ c.keys →
      Step c { c with
        tokens := Function.update c.tokens p (c.tokens p - 1)
        finished := c.finished ++ [p] }
  /-- The token becomes an idle entry. -/
  | enter {c : Custody κ} {p : κ} {entries : List (κ × Bool)} : c.tokens p ≠ 0 →
      entries.map Prod.fst = (if p ∈ c.keys then c.keys else c.keys ++ [p]) →
      (∀ k ∈ entries, k ∈ c.entries ∨ k = (p, false)) →
      Step c { c with
        tokens := Function.update c.tokens p (c.tokens p - 1)
        entries := entries
        starting := some p }
  /-- The entry of the job that is being started runs. -/
  | run {c : Custody κ} {p : κ} {entries : List (κ × Bool)} : c.starting = some p →
      entries.map Prod.fst = c.keys → (∀ k ∈ entries, k ∈ c.entries ∨ k.1 = p) →
      Step c { c with entries := entries, starting := none }
  /-- The job has to be started again. -/
  | again {c : Custody κ} {p : κ} {pre post : List (κ × Bool)} :
      c.entries = pre ++ (p, true) :: post →
      Step c { c with
        tokens := Function.update c.tokens p (c.tokens p + 1)
        entries := pre ++ (p, false) :: post }
  /-- The job has ended and is reported. -/
  | finish {c : Custody κ} {p : κ} {pre post : List (κ × Bool)} :
      c.entries = pre ++ (p, true) :: post →
      Step c { c with entries := pre ++ post, finished := c.finished ++ [p] }

/-- The account of the jobs. -/
structure Accounted (c : Custody κ) : Prop where
  single : ∀ p, c.tokens p ≤ 1
  known : ∀ p, c.Held p → p ∈ c.received
  reported : ∀ p ∈ c.finished, p ∈ c.received
  unique : c.keys.Nodup
  idle : ∀ p b, (p, b) ∈ c.entries → c.tokens p ≠ 0 → b = false
  starting : ∀ p, c.starting = some p →
    c.tokens p = 0 ∧ p ∈ c.keys ∧ ∀ b, (p, b) ∈ c.entries → b = false
  once : ∀ p ∈ c.received,
    (c.Held p ∧ p ∉ c.finished) ∨ (¬ c.Held p ∧ c.finished.count p = 1)

/-- A component without jobs. -/
def empty : Custody κ := ⟨fun _ => 0, [], none, [], []⟩

theorem accounted_empty : (empty : Custody κ).Accounted where
  single _ := Nat.zero_le 1
  known p held := by
    rcases held with token | entry
    · exact absurd rfl token
    · cases entry
  reported := nofun
  unique := List.nodup_nil
  idle := nofun
  starting := nofun
  once := nofun

variable {c c' : Custody κ} {p q : κ} {pre post : List (κ × Bool)} {b : Bool}

/-- Tokens of which one was taken. -/
theorem eq_update_sub_one {f g : κ → Nat} (taken : ∀ q, g q = f q + if p = q then 1 else 0) :
    f = Function.update g p (g p - 1) := by
  funext q
  have here := taken q
  by_cases same : p = q
  · subst same
    rw [if_pos rfl] at here
    rw [Function.update_self, here, Nat.add_sub_cancel]
  · rw [if_neg same] at here
    rw [Function.update_of_ne (Ne.symm same), here, Nat.add_zero]

/-- Tokens to which one was added. -/
theorem eq_update_add_one {f g : κ → Nat} (added : ∀ q, f q = g q + if p = q then 1 else 0) :
    f = Function.update g p (g p + 1) := by
  funext q
  have here := added q
  by_cases same : p = q
  · subst same
    rw [Function.update_self, here, if_pos rfl]
  · rw [Function.update_of_ne (Ne.symm same), here, if_neg same, Nat.add_zero]

/-- A held job was not reported. -/
theorem Accounted.not_finished (account : c.Accounted) (held : c.Held p) : p ∉ c.finished := by
  rcases account.once p (account.known p held) with ⟨-, open'⟩ | ⟨gone, -⟩
  · exact open'
  · exact absurd held gone

theorem Accounted.count_finished (account : c.Accounted) (held : c.Held p) :
    c.finished.count p = 0 :=
  List.count_eq_zero_of_not_mem (account.not_finished held)

/-- A job with a running entry has no token, and is not being started. -/
theorem Accounted.of_running (account : c.Accounted) (running : (p, true) ∈ c.entries) :
    c.tokens p = 0 ∧ c.starting ≠ some p := by
  constructor
  · by_contra token
    exact Bool.false_ne_true (account.idle p true running token).symm
  · intro starting
    exact Bool.false_ne_true ((account.starting p starting).2.2 true running).symm

/-- Around the entry of a job there are entries of others only. -/
theorem Accounted.fst_ne (account : c.Accounted) (split : c.entries = pre ++ (p, b) :: post)
    {k : κ × Bool} (mem : k ∈ pre ++ post) : k.1 ≠ p := by
  have unique := account.unique
  rw [keys, split, List.map_append, List.map_cons, List.nodup_middle, List.nodup_cons,
    ← List.map_append] at unique
  intro same
  exact unique.1 (List.mem_map.mpr ⟨k, mem, same⟩)

/-- The account of a job that the step does not touch. -/
theorem once_of_kept (account : c.Accounted) (arrived : p ∈ c.received)
    (held : c'.Held p ↔ c.Held p) (finished : c'.finished.count p = c.finished.count p) :
    (c'.Held p ∧ p ∉ c'.finished) ∨ (¬ c'.Held p ∧ c'.finished.count p = 1) := by
  rw [← List.count_eq_zero, held, finished, List.count_eq_zero]
  exact account.once p arrived

theorem Accounted.arrive (account : c.Accounted) (new : p ∉ c.received) :
    Accounted { c with
      tokens := Function.update c.tokens p (c.tokens p + 1)
      received := c.received ++ [p] } := by
  have absent : ¬ c.Held p := fun held => new (account.known p held)
  have none : c.tokens p = 0 := not_not.mp fun token => absent (.inl token)
  have held : ∀ q, q ≠ p → (Held { c with
      tokens := Function.update c.tokens p (c.tokens p + 1)
      received := c.received ++ [p] } q ↔ c.Held q) := by
    intro q ne
    unfold Held keys
    dsimp only
    rw [Function.update_of_ne ne]
  refine ⟨?_, ?_, ?_, account.unique, ?_, ?_, ?_⟩
  · intro q
    by_cases here : q = p
    · subst here
      simp [none]
    · simpa [here] using account.single q
  · intro q held'
    by_cases here : q = p
    · exact List.mem_append_right _ (List.mem_singleton.mpr here)
    · exact List.mem_append_left _ (account.known q ((held q here).mp held'))
  · exact fun q mem => List.mem_append_left _ (account.reported q mem)
  · intro q b entry token
    by_cases here : q = p
    · subst here
      exact absurd (.inr (List.mem_map_of_mem (f := Prod.fst) entry)) absent
    · exact account.idle q b entry (by simpa [here] using token)
  · intro q starting
    obtain ⟨idle, listed, rest⟩ := account.starting q starting
    have ne : q ≠ p := fun here => absent (.inr (here ▸ listed))
    exact ⟨by simpa [ne] using idle, listed, rest⟩
  · intro q arrived
    by_cases here : q = p
    · subst here
      exact .inl ⟨.inl (by simp), fun mem => new (account.reported q mem)⟩
    · have arrived' : q ∈ c.received := by
        rcases List.mem_append.mp arrived with old | last
        · exact old
        · exact absurd (List.mem_singleton.mp last) here
      exact once_of_kept account arrived' (held q here) rfl

/-- What holds of the tokens after one was taken. -/
theorem tokens_taken (account : c.Accounted) (q : κ) :
    Function.update c.tokens p (c.tokens p - 1) q ≤ 1 ∧
      (Function.update c.tokens p (c.tokens p - 1) q ≠ 0 → q ≠ p ∧ c.tokens q ≠ 0) := by
  have single := account.single p
  by_cases here : q = p
  · subst here
    simp only [Function.update_self]
    omega
  · rw [Function.update_of_ne here]
    exact ⟨account.single q, fun token => ⟨here, token⟩⟩

theorem Accounted.drop (account : c.Accounted) (listed : p ∈ c.keys) :
    Accounted { c with tokens := Function.update c.tokens p (c.tokens p - 1) } := by
  have taken := tokens_taken (p := p) account
  have held : ∀ q, Held { c with
      tokens := Function.update c.tokens p (c.tokens p - 1) } q ↔ c.Held q := by
    intro q
    by_cases here : q = p
    · subst here
      exact iff_of_true (.inr listed) (.inr listed)
    · unfold Held keys
      dsimp only
      rw [Function.update_of_ne here]
  refine ⟨fun q => (taken q).1, fun q held' => account.known q ((held q).mp held'),
    account.reported, account.unique, ?_, ?_, ?_⟩
  · exact fun q b entry token => account.idle q b entry ((taken q).2 token).2
  · intro q starting
    obtain ⟨idle, entry, rest⟩ := account.starting q starting
    exact ⟨not_not.mp fun token => ((taken q).2 token).2 idle, entry, rest⟩
  · exact fun q arrived => once_of_kept account arrived (held q) rfl

theorem Accounted.giveUp (account : c.Accounted) (token : c.tokens p ≠ 0) (unlisted : p ∉ c.keys) :
    Accounted { c with
      tokens := Function.update c.tokens p (c.tokens p - 1)
      finished := c.finished ++ [p] } := by
  have taken := tokens_taken (p := p) account
  have single := account.single p
  have arrived := account.known p (.inl token)
  have held : ∀ q, q ≠ p → (Held { c with
      tokens := Function.update c.tokens p (c.tokens p - 1)
      finished := c.finished ++ [p] } q ↔ c.Held q) := by
    intro q ne
    unfold Held keys
    dsimp only
    rw [Function.update_of_ne ne]
  refine ⟨fun q => (taken q).1, ?_, ?_, account.unique, ?_, ?_, ?_⟩
  · intro q held'
    by_cases here : q = p
    · exact here ▸ arrived
    · exact account.known q ((held q here).mp held')
  · intro q mem
    rcases List.mem_append.mp mem with old | last
    · exact account.reported q old
    · exact List.mem_singleton.mp last ▸ arrived
  · exact fun q b entry token' => account.idle q b entry ((taken q).2 token').2
  · intro q starting
    obtain ⟨idle, entry, rest⟩ := account.starting q starting
    exact ⟨not_not.mp fun token' => ((taken q).2 token').2 idle, entry, rest⟩
  · intro q arrived'
    by_cases here : q = p
    · subst here
      refine .inr ⟨?_, ?_⟩
      · rintro (token' | listed)
        · exact ((taken q).2 token').1 rfl
        · exact unlisted listed
      · rw [List.count_append, account.count_finished (.inl token), List.count_singleton_self]
    · refine once_of_kept account arrived' (held q here) ?_
      rw [List.count_append, List.count_singleton, if_neg (by simpa using Ne.symm here)]
      rfl

theorem Accounted.enter (account : c.Accounted) (token : c.tokens p ≠ 0)
    {entries : List (κ × Bool)}
    (keys : entries.map Prod.fst = if p ∈ c.keys then c.keys else c.keys ++ [p])
    (old : ∀ k ∈ entries, k ∈ c.entries ∨ k = (p, false)) :
    Accounted { c with
      tokens := Function.update c.tokens p (c.tokens p - 1)
      entries := entries
      starting := some p } := by
  have taken := tokens_taken (p := p) account
  have single := account.single p
  have arrived := account.known p (.inl token)
  have mem : ∀ q, q ∈ entries.map Prod.fst ↔ q = p ∨ q ∈ c.keys := by
    intro q
    rw [keys]
    split
    · rename_i listed
      exact ⟨.inr, fun h => h.elim (fun here => here ▸ listed) id⟩
    · rw [List.mem_append, List.mem_singleton, or_comm]
  have held : ∀ q, q ≠ p → (Held { c with
      tokens := Function.update c.tokens p (c.tokens p - 1)
      entries := entries
      starting := some p } q ↔ c.Held q) := by
    intro q ne
    refine or_congr ?_ ((mem q).trans (or_iff_right ne))
    dsimp only
    rw [Function.update_of_ne ne]
  have idle : ∀ b, (p, b) ∈ entries → b = false := by
    intro b entry
    rcases old _ entry with before | new
    · exact account.idle p b before token
    · cases new
      rfl
  refine ⟨fun q => (taken q).1, ?_, account.reported, ?_, ?_, ?_, ?_⟩
  · intro q held'
    by_cases here : q = p
    · exact here ▸ arrived
    · exact account.known q ((held q here).mp held')
  · show (entries.map Prod.fst).Nodup
    rw [keys]
    split
    · exact account.unique
    · rename_i unlisted
      exact List.nodup_append.mpr ⟨account.unique, List.nodup_singleton p, by
        rintro a mem' b last rfl
        exact unlisted (List.mem_singleton.mp last ▸ mem')⟩
  · intro q b entry token'
    obtain ⟨ne, token'⟩ := (taken q).2 token'
    rcases old _ entry with before | new
    · exact account.idle q b before token'
    · cases new
      rfl
  · rintro q same
    cases same
    exact ⟨not_not.mp fun token' => ((taken p).2 token').1 rfl, (mem p).mpr (.inl rfl), idle⟩
  · intro q arrived'
    by_cases here : q = p
    · subst here
      exact .inl ⟨.inr ((mem q).mpr (.inl rfl)), account.not_finished (.inl token)⟩
    · exact once_of_kept account arrived' (held q here) rfl

theorem Accounted.run (account : c.Accounted) (starting : c.starting = some p)
    {entries : List (κ × Bool)} (keys : entries.map Prod.fst = c.keys)
    (old : ∀ k ∈ entries, k ∈ c.entries ∨ k.1 = p) :
    Accounted { c with entries := entries, starting := none } := by
  have held : ∀ q, Held { c with entries := entries, starting := none } q ↔ c.Held q := by
    intro q
    refine or_congr_right ?_
    show q ∈ entries.map Prod.fst ↔ _
    rw [keys]
  refine ⟨account.single, fun q held' => account.known q ((held q).mp held'), account.reported, ?_,
    ?_, nofun, fun q arrived => once_of_kept account arrived (held q) rfl⟩
  · show (entries.map Prod.fst).Nodup
    rw [keys]
    exact account.unique
  · intro q b entry token
    rcases old _ entry with before | here
    · exact account.idle q b before token
    · dsimp only at here token
      rw [here] at token
      exact absurd (account.starting p starting).1 token

theorem Accounted.again (account : c.Accounted) (split : c.entries = pre ++ (p, true) :: post) :
    Accounted { c with
      tokens := Function.update c.tokens p (c.tokens p + 1)
      entries := pre ++ (p, false) :: post } := by
  have entry : (p, true) ∈ c.entries := by simp [split]
  obtain ⟨none, notStarting⟩ := account.of_running entry
  have keys : (pre ++ (p, false) :: post).map Prod.fst = c.keys := by
    rw [Custody.keys, split]
    simp
  have listed : p ∈ c.keys := List.mem_map_of_mem (f := Prod.fst) entry
  have held : ∀ q, Held { c with
      tokens := Function.update c.tokens p (c.tokens p + 1)
      entries := pre ++ (p, false) :: post } q ↔ c.Held q := by
    intro q
    by_cases here : q = p
    · subst here
      exact iff_of_true (.inl (by simp)) (.inr listed)
    · refine or_congr ?_ ?_
      · dsimp only
        rw [Function.update_of_ne here]
      · show q ∈ (pre ++ (p, false) :: post).map Prod.fst ↔ _
        rw [keys]
  have others : ∀ k ∈ pre ++ (p, false) :: post, k = (p, false) ∨ k.1 ≠ p ∧ k ∈ c.entries := by
    intro k mem
    have mem' : k = (p, false) ∨ k ∈ pre ++ post := by
      simp only [List.mem_append, List.mem_cons] at mem ⊢
      tauto
    refine mem'.imp_right fun other => ⟨account.fst_ne split other, ?_⟩
    rw [split]
    simp only [List.mem_append, List.mem_cons] at other ⊢
    tauto
  refine ⟨?_, fun q held' => account.known q ((held q).mp held'), account.reported, ?_, ?_, ?_,
    fun q arrived => once_of_kept account arrived (held q) rfl⟩
  · intro q
    by_cases here : q = p
    · subst here
      simp [none]
    · simpa [here] using account.single q
  · show ((pre ++ (p, false) :: post).map Prod.fst).Nodup
    rw [keys]
    exact account.unique
  · intro q b mem token
    rcases others _ mem with new | ⟨ne, old⟩
    · cases new
      rfl
    · exact account.idle q b old (by simpa [show q ≠ p from ne] using token)
  · intro q starting
    obtain ⟨idle, entry', rest⟩ := account.starting q starting
    have ne : q ≠ p := fun here => notStarting (here ▸ starting)
    refine ⟨by simpa [ne] using idle, ?_, fun b mem => ?_⟩
    · show q ∈ (pre ++ (p, false) :: post).map Prod.fst
      rw [keys]
      exact entry'
    · rcases others _ mem with new | ⟨-, old⟩
      · cases new
        rfl
      · exact rest b old

theorem Accounted.finish (account : c.Accounted) (split : c.entries = pre ++ (p, true) :: post) :
    Accounted { c with entries := pre ++ post, finished := c.finished ++ [p] } := by
  have entry : (p, true) ∈ c.entries := by simp [split]
  obtain ⟨none, notStarting⟩ := account.of_running entry
  have listed : p ∈ c.keys := List.mem_map_of_mem (f := Prod.fst) entry
  have arrived := account.known p (.inr listed)
  have gone : p ∉ (pre ++ post).map Prod.fst := by
    intro mem
    obtain ⟨k, mem', same⟩ := List.mem_map.mp mem
    exact account.fst_ne split mem' same
  have keys : ∀ q, q ≠ p → (q ∈ (pre ++ post).map Prod.fst ↔ q ∈ c.keys) := by
    intro q ne
    rw [Custody.keys, split]
    simp [ne]
  have held : ∀ q, q ≠ p →
      (Held { c with entries := pre ++ post, finished := c.finished ++ [p] } q ↔ c.Held q) :=
    fun q ne => or_congr_right (keys q ne)
  have old : ∀ k ∈ pre ++ post, k ∈ c.entries := by
    intro k mem
    rw [split]
    simp only [List.mem_append, List.mem_cons] at mem ⊢
    tauto
  refine ⟨account.single, ?_, ?_, ?_, fun q b mem => account.idle q b (old _ mem), ?_, ?_⟩
  · intro q held'
    by_cases here : q = p
    · exact here ▸ arrived
    · exact account.known q ((held q here).mp held')
  · intro q mem
    rcases List.mem_append.mp mem with before | last
    · exact account.reported q before
    · exact List.mem_singleton.mp last ▸ arrived
  · have unique := account.unique
    rw [Custody.keys, split, List.map_append, List.map_cons, List.nodup_middle,
      List.nodup_cons, ← List.map_append] at unique
    exact unique.2
  · intro q starting
    obtain ⟨idle, entry', rest⟩ := account.starting q starting
    have ne : q ≠ p := fun here => notStarting (here ▸ starting)
    exact ⟨idle, (keys q ne).mpr entry', fun b mem => rest b (old _ mem)⟩
  · intro q arrived'
    by_cases here : q = p
    · subst here
      refine .inr ⟨?_, ?_⟩
      · rintro (token | mem)
        · exact token none
        · exact gone mem
      · rw [List.count_append, account.count_finished (.inr listed), List.count_singleton_self]
    · refine once_of_kept account arrived' (held q here) ?_
      rw [List.count_append, List.count_singleton, if_neg (by simpa using Ne.symm here)]
      rfl

/-- Every step keeps the account. -/
theorem Accounted.step (account : c.Accounted) (taken : Step c c') : c'.Accounted := by
  cases taken with
  | arrive new => exact account.arrive new
  | drop _ listed => exact account.drop listed
  | giveUp token unlisted => exact account.giveUp token unlisted
  | enter token keys old => exact account.enter token keys old
  | run starting keys old => exact account.run starting keys old
  | again split => exact account.again split
  | finish split => exact account.finish split

end Custody

end Sdm.Lib
