import Mathlib.Data.List.Induction

/-!
Search trees that are not balanced, ordered by a comparison of names.

An entry is inserted where the search for its name ends, to the right of every entry with
the same name. The search follows the same comparisons, so that it finds what the list of
the inserted entries has first. Of the comparison this needs only that zero means equal: the
order of the names plays no role.

* `find_insert`: what an insertion changes for a search.
* `find_ofList`: a search finds the first entry that was inserted with its name.
-/

namespace Sdm.Lib

/-- A tree of entries. -/
inductive SearchTree (α : Type) where
  | nil
  | node (entry : α) (left right : SearchTree α)
  deriving Repr

namespace SearchTree

variable {α κ : Type} (name : α → κ) (compare : κ → κ → Int)

/-- There is no entry. -/
def isNil : SearchTree α → Bool
  | nil => true
  | node _ _ _ => false

/-- The entries, the left ones first. -/
def entries : SearchTree α → List α
  | nil => []
  | node entry left right => left.entries ++ entry :: right.entries

/-- Insert an entry. -/
def insert (new : α) : SearchTree α → SearchTree α
  | nil => node new nil nil
  | node entry left right =>
      if compare (name new) (name entry) < 0 then node entry (insert new left) right
      else node entry left (insert new right)

/-- Search a name. -/
def find (key : κ) : SearchTree α → Option α
  | nil => none
  | node entry left right =>
      if compare key (name entry) = 0 then some entry
      else if compare key (name entry) < 0 then find key left
      else find key right

/-- Insert the entries one after the other. -/
def ofList (entries : List α) : SearchTree α :=
  entries.foldl (fun tree new => tree.insert name compare new) nil

section Lawful

variable {compare : κ → κ → Int} (zero_iff : ∀ {a b : κ}, compare a b = 0 ↔ a = b)
include zero_iff

/-- **An insertion** adds its entry for the searches that found nothing. -/
theorem find_insert [DecidableEq κ] (key : κ) (new : α) (tree : SearchTree α) :
    (tree.insert name compare new).find name compare key =
      (tree.find name compare key).or (if name new = key then some new else none) := by
  induction tree with
  | nil =>
      simp only [insert, find, Option.none_or, ite_self]
      by_cases same : name new = key
      · rw [if_pos same, if_pos (zero_iff.mpr same.symm)]
      · rw [if_neg same, if_neg (fun zero => same (zero_iff.mp zero).symm)]
  | node entry left right ihl ihr =>
      by_cases here : compare key (name entry) = 0
      · -- The entry at the root is found before and after.
        rw [insert]
        split
        · rw [find, find, if_pos here, if_pos here, Option.some_or]
        · rw [find, find, if_pos here, if_pos here, Option.some_or]
      · by_cases same : name new = key
        · -- The search goes where the new entry went.
          subst same
          rw [insert]
          split
          · rename_i less
            rw [find, find, if_neg here, if_neg here, if_pos less, if_pos less, ihl]
          · rename_i notLess
            rw [find, find, if_neg here, if_neg here, if_neg notLess, if_neg notLess, ihr]
        · rw [if_neg same, Option.or_none] at ihl ihr ⊢
          rw [insert]
          split
          · rw [find, find, ihl]
          · rw [find, find, ihr]

/-- **A search** finds the first entry that was inserted with its name. -/
theorem find_ofList [DecidableEq κ] (key : κ) (entries : List α) :
    (ofList name compare entries).find name compare key =
      entries.find? fun entry => name entry = key := by
  induction entries using List.reverseRecOn with
  | nil => rfl
  | append_singleton entries new ih =>
      rw [ofList, List.foldl_append, List.foldl_cons, List.foldl_nil,
        find_insert name zero_iff key new, ← ofList, ih, List.find?_append]
      congr 1
      by_cases same : name new = key
      · rw [if_pos same, List.find?_cons_of_pos (by simpa using same)]
      · rw [if_neg same, List.find?_cons_of_neg (by simpa using same), List.find?_nil]

end Lawful

end SearchTree

end Sdm.Lib
