import Mathlib.Data.List.Basic

/-!
Files that are written from their start and never cut.

What is written replaces as much of the file as it is long. The rest stays behind it.

* `length_written_le_iff`: a file is as long as the longest piece that was written.
* `written_concat_eq_iff`: the last piece is all that stands in the file exactly when no earlier
  one was longer.
-/

namespace Sdm.Lib

variable {α : Type} {piece old file : List α} {pieces : List (List α)} {n : Nat} {a : α}

/-- A piece is written at the start of a file. -/
def overlay (old piece : List α) : List α := piece ++ old.drop piece.length

/-- Pieces are written one after another. -/
def written (pieces : List (List α)) (file : List α) : List α := pieces.foldl overlay file

theorem length_overlay_le_iff : (overlay old piece).length ≤ n ↔ old.length ≤ n ∧ piece.length ≤ n := by
  rw [overlay, List.length_append, List.length_drop]
  omega

/-- The piece is all that stands in the file. -/
theorem overlay_eq_iff : overlay old piece = piece ↔ old.length ≤ piece.length := by
  rw [overlay, List.append_right_eq_self, List.drop_eq_nil_iff]

theorem mem_overlay (mem : a ∈ overlay old piece) : a ∈ old ∨ a ∈ piece := by
  rcases List.mem_append.mp mem with new | rest
  · exact .inr new
  · exact .inl (List.mem_of_mem_drop rest)

theorem written_concat : written (pieces ++ [piece]) file = overlay (written pieces file) piece := by
  rw [written, List.foldl_append, List.foldl_cons, List.foldl_nil, ← written]

/-- **The length of a file** is that of the longest piece. -/
theorem length_written_le_iff :
    (written pieces file).length ≤ n ↔ file.length ≤ n ∧ ∀ piece ∈ pieces, piece.length ≤ n := by
  induction pieces generalizing file with
  | nil => simp [written]
  | cons piece pieces ih =>
      have step : written (piece :: pieces) file = written pieces (overlay file piece) := rfl
      rw [step, ih, length_overlay_le_iff, List.forall_mem_cons, and_assoc]

theorem mem_written (mem : a ∈ written pieces file) : a ∈ file ∨ ∃ piece ∈ pieces, a ∈ piece := by
  induction pieces generalizing file with
  | nil => exact .inl mem
  | cons piece pieces ih =>
      rcases @ih (overlay file piece) mem with first | ⟨later, inside, here⟩
      · rcases mem_overlay first with old | new
        · exact .inl old
        · exact .inr ⟨piece, List.mem_cons_self, new⟩
      · exact .inr ⟨later, List.mem_cons_of_mem _ inside, here⟩

/-- **The last piece** is all that stands in the file exactly when no earlier one was longer. -/
theorem written_concat_eq_iff : written (pieces ++ [piece]) [] = piece ↔
    ∀ earlier ∈ pieces, earlier.length ≤ piece.length := by
  rw [written_concat, overlay_eq_iff, length_written_le_iff]
  exact and_iff_right (Nat.zero_le _)

end Sdm.Lib
