import Mathlib.Data.List.Basic

/-!
# Numbered cells

Cells that are read and overwritten in segments.  A segment that was overwritten is read as what was
put there, doing so twice is doing so once, and cells outside the segment stay as they were.
-/

namespace Cells

variable {α : Type*}

/-- The cells of a segment, in order. -/
def segment (cells : Nat → α) (start count : Nat) : List α :=
  (List.range count).map fun offset => cells (start + offset)

/-- Puts values into consecutive cells. -/
def overwrite (cells : Nat → α) (start : Nat) (values : List α) : Nat → α := fun place =>
  if start ≤ place then (values[place - start]?).getD (cells place) else cells place

variable {cells others : Nat → α} {start count place : Nat} {values : List α}

@[simp]
theorem overwrite_nil (cells : Nat → α) (start : Nat) : overwrite cells start [] = cells := by
  funext place
  simp [overwrite]

/-- A cell is outside of the segment. -/
def Outside (start count place : Nat) : Prop :=
  place < start ∨ start + count ≤ place

theorem overwrite_of_outside (outside : Outside start values.length place) :
    overwrite cells start values place = cells place := by
  rw [overwrite]
  rcases outside with before | beyond
  · rw [if_neg (by omega)]
  · rw [if_pos (by omega), List.getElem?_eq_none (by omega), Option.getD_none]

/-- Overwriting a segment twice is overwriting it once. -/
theorem overwrite_overwrite (cells : Nat → α) (start : Nat) (values : List α) :
    overwrite (overwrite cells start values) start values = overwrite cells start values := by
  funext place
  by_cases inside : start ≤ place
  · cases found : values[place - start]? <;> simp [overwrite, inside, found]
  · simp [overwrite, inside]

/-- What was put into a segment is read there. -/
theorem segment_overwrite (cells : Nat → α) (start : Nat) (values : List α) :
    segment (overwrite cells start values) start values.length = values := by
  refine List.ext_getElem (by simp [segment]) fun offset inside bound => ?_
  simp [segment, overwrite, bound]

/-- A segment depends on its own cells alone. -/
theorem segment_congr (same : ∀ place, start ≤ place → place < start + count →
    cells place = others place) : segment cells start count = segment others start count := by
  refine List.map_congr_left fun offset member => ?_
  have bound := List.mem_range.mp member
  exact same (start + offset) (by omega) (by omega)

@[simp]
theorem length_segment (cells : Nat → α) (start count : Nat) :
    (segment cells start count).length = count := by
  simp [segment]

end Cells
