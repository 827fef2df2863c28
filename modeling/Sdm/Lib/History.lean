import Mathlib.Data.List.Basic

/-!
Histories of events.

`Justified ok h` says of each event of a history that it is allowed after those before it.

* `justified_append`: one more event.
* `Justified.of_prefix`: what came before is justified too.
-/

namespace Sdm.Lib

variable {ε : Type*} {ok : List ε → ε → Prop} {h h' : List ε} {e : ε}

/-- Every event of the history is allowed after the events before it. -/
def Justified (ok : List ε → ε → Prop) (h : List ε) : Prop :=
  ∀ before e, before ++ [e] <+: h → ok before e

@[simp]
theorem justified_nil : Justified ok [] := by
  intro before e part
  exact absurd (List.prefix_nil.mp part) (List.append_ne_nil_of_right_ne_nil before nofun)

@[simp]
theorem justified_append : Justified ok (h ++ [e]) ↔ Justified ok h ∧ ok h e := by
  constructor
  · intro all
    refine ⟨fun before e' part => ?_, all h e List.prefix_rfl⟩
    exact all before e' (part.trans (List.prefix_append h [e]))
  · rintro ⟨all, last⟩ before e' part
    rcases List.prefix_concat_iff.mp part with same | part
    · obtain ⟨rfl, tail⟩ := List.append_inj' same rfl
      cases tail
      exact last
    · exact all before e' part

theorem Justified.of_prefix (all : Justified ok h) (part : h' <+: h) : Justified ok h' :=
  fun before e inside => all before e (inside.trans part)

/-- The events after a justified history, one by one. -/
theorem justified_append_cons {es : List ε} :
    Justified ok (h ++ e :: es) ↔ ok h e ∧ Justified ok h ∧ Justified ok (h ++ [e] ++ es) := by
  rw [List.append_assoc, List.singleton_append]
  constructor
  · intro all
    have part : h ++ [e] <+: h ++ e :: es := ⟨es, by simp⟩
    have first := all.of_prefix part
    exact ⟨(justified_append.mp first).2, (justified_append.mp first).1, all⟩
  · rintro ⟨-, -, all⟩
    exact all

end Sdm.Lib
