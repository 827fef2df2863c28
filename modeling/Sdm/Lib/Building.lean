import Mathlib.Data.List.Forall2
import Sdm.Lib.Verdict

/-!
Building something from parts that may be refused.

What is built may be refused, which the builder reports, or may run into an undefined operation,
which it does not. Parts are built one after another, and the first one that stops ends it.

* `defined_bind`, `defined_foldlM`, `defined_mapM`: when no part runs into an undefined operation.
* `foldlM_induct`: what holds of everything that is built along the way.
* `foldlM_collect`: what the parts of a list leave, in order.
* `forall₂_filter_iff`: when two selections from a list are related member by member.
-/

namespace Sdm.Lib

/-- Why nothing is built. -/
inductive Refusal where
  | undefined
  | rejected
  deriving DecidableEq, Repr

/-- What is built, or why it is not. -/
abbrev Building := Except Refusal

namespace Building

variable {α β σ : Type} {x : Building α} {f : α → Building β}

/-- No operation was undefined. -/
def Defined (x : Building α) : Prop := x ≠ .error .undefined

/-- What a check stops. -/
def check : Verdict → Building Unit
  | none => .error .undefined
  | some false => .error .rejected
  | some true => .ok ()

theorem check_eq_ok_iff {v : Verdict} {u : Unit} : check v = .ok u ↔ v = some true := by
  rcases v with _ | (_ | _) <;> simp [check]

theorem defined_check {v : Verdict} : Defined (check v) ↔ v.isSome := by
  rcases v with _ | (_ | _) <;> simp [check, Defined]

@[simp]
theorem defined_ok {a : α} : Defined (.ok a : Building α) := by simp [Defined]

@[simp]
theorem defined_pure {a : α} : Defined (pure a : Building α) := defined_ok

@[simp]
theorem defined_rejected : Defined (.error .rejected : Building α) := by simp [Defined]

@[simp]
theorem not_defined_undefined : ¬ Defined (.error .undefined : Building α) := by simp [Defined]

@[simp]
theorem pure_eq_ok_iff {a b : α} : (pure a : Building α) = .ok b ↔ a = b :=
  ⟨fun same => Except.ok.inj same, congrArg _⟩

theorem bind_eq_ok_iff {b : β} : (x >>= f) = .ok b ↔ ∃ a, x = .ok a ∧ f a = .ok b := by
  cases x with
  | error stop => simp [bind, Except.bind]
  | ok a => simp [bind, Except.bind]

theorem defined_bind : Defined (x >>= f) ↔ Defined x ∧ ∀ a, x = .ok a → Defined (f a) := by
  cases x with
  | error stop => simp [bind, Except.bind, Defined]
  | ok a => simp [bind, Except.bind, Defined]

theorem map_eq_ok_iff {h : α → β} {b : β} : h <$> x = .ok b ↔ ∃ a, x = .ok a ∧ h a = b := by
  cases x with
  | error stop => simp [Functor.map, Except.map]
  | ok a => simp [Functor.map, Except.map]

theorem defined_map {h : α → β} (defined : Defined x) : Defined (h <$> x) := by
  cases x with
  | error stop => simpa [Functor.map, Except.map, Defined] using defined
  | ok a => exact defined_ok

variable {g : σ → α → Building σ} {P : σ → Prop} {s s' : σ} {l : List α}

/-- What every part keeps holds at the end. -/
theorem foldlM_induct (start : P s) (step : ∀ s a s', a ∈ l → P s → g s a = .ok s' → P s')
    (run : l.foldlM g s = .ok s') : P s' := by
  induction l generalizing s with
  | nil =>
      cases run
      exact start
  | cons a rest ih =>
      obtain ⟨s₁, first, run⟩ := bind_eq_ok_iff.mp run
      exact ih (step s a s₁ List.mem_cons_self start first)
        (fun s b s' mem => step s b s' (List.mem_cons_of_mem _ mem)) run

theorem defined_foldlM (start : P s)
    (step : ∀ s a, a ∈ l → P s → Defined (g s a) ∧ ∀ s', g s a = .ok s' → P s') :
    Defined (l.foldlM g s) := by
  induction l generalizing s with
  | nil => exact defined_ok
  | cons a rest ih =>
      obtain ⟨defined, keeps⟩ := step s a List.mem_cons_self start
      exact defined_bind.mpr ⟨defined, fun s₁ first =>
        ih (keeps s₁ first) fun s b mem => step s b (List.mem_cons_of_mem _ mem)⟩

/-- Where every part adds its own to a list, and these are related to what the part is made of, the
parts add theirs in order. -/
theorem foldlM_collect {γ : Type} {m : σ → List β} {own : α → List γ} {R : γ → β → Prop}
    (step : ∀ s a s', a ∈ l → g s a = .ok s' →
      ∃ added, m s' = m s ++ added ∧ List.Forall₂ R (own a) added)
    (run : l.foldlM g s = .ok s') :
    ∃ added, m s' = m s ++ added ∧ List.Forall₂ R (l.flatMap own) added := by
  induction l generalizing s with
  | nil =>
      cases run
      exact ⟨[], by simp, .nil⟩
  | cons a rest ih =>
      obtain ⟨s₁, first, run⟩ := bind_eq_ok_iff.mp run
      obtain ⟨here, eq, made⟩ := step s a s₁ List.mem_cons_self first
      obtain ⟨added, eq', made'⟩ := ih
        (fun s b s' mem => step s b s' (List.mem_cons_of_mem _ mem)) run
      refine ⟨here ++ added, by rw [eq', eq, List.append_assoc], ?_⟩
      rw [List.flatMap_cons]
      exact List.rel_append made made'

theorem defined_mapM (each : ∀ a ∈ l, Defined (f a)) : Defined (l.mapM f) := by
  induction l with
  | nil => exact defined_ok
  | cons a rest ih =>
      rw [List.mapM_cons]
      refine defined_bind.mpr ⟨each a List.mem_cons_self, fun b _ => ?_⟩
      exact defined_bind.mpr
        ⟨ih fun c mem => each c (List.mem_cons_of_mem _ mem), fun _ _ => defined_pure⟩

/-- What is built of the parts of a list, one by one. -/
theorem mapM_eq_ok_forall₂ {l' : List β} (made : l.mapM f = .ok l') :
    List.Forall₂ (fun a b => f a = .ok b) l l' := by
  induction l generalizing l' with
  | nil =>
      cases made
      exact .nil
  | cons a rest ih =>
      rw [List.mapM_cons] at made
      obtain ⟨b, first, made⟩ := bind_eq_ok_iff.mp made
      obtain ⟨bs, others, made⟩ := bind_eq_ok_iff.mp made
      cases made
      exact .cons first (ih others)

theorem isSome_mapM {h : α → Option β} : (l.mapM h).isSome ↔ ∀ a ∈ l, (h a).isSome := by
  induction l with
  | nil => simp
  | cons a rest ih =>
      rw [List.mapM_cons, List.forall_mem_cons, ← ih]
      cases h a with
      | none => simp
      | some b => cases rest.mapM h <;> simp

/-- What a list of parts leaves was made of one of them. -/
theorem exists_of_mapM {h : α → Option β} {l' : List β} (made : l.mapM h = some l') :
    ∀ b ∈ l', ∃ a ∈ l, h a = some b := by
  induction l generalizing l' with
  | nil =>
      cases made
      exact fun b mem => absurd mem List.not_mem_nil
  | cons a rest ih =>
      rw [List.mapM_cons] at made
      obtain ⟨b, first, made⟩ := Option.bind_eq_some_iff.mp made
      obtain ⟨bs, others, made⟩ := Option.bind_eq_some_iff.mp made
      cases made
      intro c mem
      rcases List.mem_cons.mp mem with rfl | mem
      · exact ⟨a, List.mem_cons_self, first⟩
      · obtain ⟨a', mem', eq⟩ := ih others c mem
        exact ⟨a', List.mem_cons_of_mem _ mem', eq⟩

/-- What is related to a part. -/
theorem exists_of_forall₂ {R : α → β → Prop} {l' : List β} (related : List.Forall₂ R l l') :
    ∀ a ∈ l, ∃ b ∈ l', R a b := by
  induction related with
  | nil => exact fun a mem => absurd mem List.not_mem_nil
  | cons first _ ih =>
      intro a mem
      rcases List.mem_cons.mp mem with rfl | mem
      · exact ⟨_, List.mem_cons_self, first⟩
      · obtain ⟨b, isRelated, rel⟩ := ih a mem
        exact ⟨b, List.mem_cons_of_mem _ isRelated, rel⟩

/-- Two selections from a list, one inside the other, are related member by member exactly when they
are the same selection and what is made of each member is related. -/
theorem forall₂_filter_iff {γ : Type} {R : β → γ → Prop} {p q : α → Bool} {f : α → β} {h : α → γ}
    (sub : ∀ a ∈ l, q a = true → p a = true) :
    List.Forall₂ R ((l.filter p).map f) ((l.filter q).map h) ↔
      ∀ a ∈ l, p a = true → q a = true ∧ R (f a) (h a) := by
  constructor
  · intro related
    have inner : (l.filter p).filter q = l.filter q := by
      rw [List.filter_filter]
      refine List.filter_congr fun a mem => ?_
      cases chosen : q a with
      | false => rfl
      | true => rw [sub a mem chosen, Bool.and_self]
    have same : (l.filter p).filter q = l.filter p := by
      refine List.filter_sublist.eq_of_length ?_
      rw [inner]
      simpa using related.length_eq.symm
    rw [← inner, same, List.forall₂_map_left_iff, List.forall₂_map_right_iff,
      List.forall₂_same] at related
    intro a mem chosen
    have member : a ∈ l.filter p := List.mem_filter.mpr ⟨mem, chosen⟩
    exact ⟨List.filter_eq_self.mp same a member, related a member⟩
  · intro each
    have same : l.filter q = l.filter p := List.filter_congr fun a mem => by
      cases chosen : p a with
      | true => exact (each a mem chosen).1
      | false =>
          by_contra other
          rw [Bool.not_eq_false] at other
          rw [sub a mem other] at chosen
          cases chosen
    rw [same, List.forall₂_map_left_iff, List.forall₂_map_right_iff, List.forall₂_same]
    intro a mem
    obtain ⟨mem, chosen⟩ := List.mem_filter.mp mem
    exact (each a mem chosen).2

end Building

end Sdm.Lib
