import Mathlib.Data.List.DropRight

/-!
# Windows of the latest items

A queue of bounded capacity that gives up its oldest item to take a new one holds the latest items
it was given.  It takes every item, so that it never holds fewer than one, whatever its capacity.
-/

namespace Window

variable {α : Type*}

/-- Appends an item; a queue that has reached its capacity first gives up its oldest item. -/
def push (capacity : Nat) (queue : List α) (item : α) : List α :=
  if capacity ≤ queue.length then queue.tail ++ [item] else queue ++ [item]

theorem length_rtake (items : List α) (count : Nat) :
    (items.rtake count).length = min count items.length := by
  rw [List.rtake, List.length_drop]
  omega

theorem rtake_of_length_le {items : List α} {count : Nat} (within : items.length ≤ count) :
    items.rtake count = items := by
  rw [List.rtake, Nat.sub_eq_zero_of_le within, List.drop_zero]

/-- Without its oldest item a full window is the window that is shorter by one. -/
theorem tail_rtake_succ {items : List α} {count : Nat} (full : count + 1 ≤ items.length) :
    (items.rtake (count + 1)).tail = items.rtake count := by
  rw [List.rtake, List.tail_drop, List.rtake]
  congr 1
  omega

/-- A window to which an item is pushed is the window of the longer list. -/
theorem push_rtake (capacity : Nat) (items : List α) (item : α) :
    push capacity (items.rtake (max 1 capacity)) item =
      (items ++ [item]).rtake (max 1 capacity) := by
  unfold push
  cases capacity with
  | zero =>
      have single : (items.rtake 1).tail = [] := by
        rw [← List.length_eq_zero_iff, List.length_tail, length_rtake]
        omega
      rw [if_pos (Nat.zero_le _), Nat.max_eq_left (Nat.zero_le 1), single, List.rtake_concat_succ,
        List.rtake_zero]
  | succ capacity =>
      rw [Nat.max_eq_right (Nat.succ_le_succ (Nat.zero_le capacity)), length_rtake,
        List.rtake_concat_succ]
      split
      · rw [tail_rtake_succ (by omega)]
      · rw [rtake_of_length_le (by omega), rtake_of_length_le (by omega)]

end Window
