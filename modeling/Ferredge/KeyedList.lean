import Mathlib.Data.List.Basic

/-!
# Finite maps as lists of entries

A map with decidable keys is the list of its entries.  Only lookup, insertion and removal are
observable, so the order of the entries does not matter.
-/

namespace KeyedList

variable {κ ν : Type*} {counts : ν → Bool}

/-- Number of entries whose value is counted. -/
def count (counts : ν → Bool) (entries : List (κ × ν)) : Nat :=
  entries.countP fun entry => counts entry.2

theorem count_cons (counts : ν → Bool) (entry : κ × ν) (entries : List (κ × ν)) :
    count counts (entry :: entries) =
      count counts entries + if counts entry.2 then 1 else 0 :=
  List.countP_cons

variable [DecidableEq κ] {key other : κ} {value : ν} {entries : List (κ × ν)}

/-- The value stored under a key. -/
def lookup (key : κ) : List (κ × ν) → Option ν
  | [] => none
  | entry :: entries => if entry.1 = key then some entry.2 else lookup key entries

def remove (key : κ) : List (κ × ν) → List (κ × ν)
  | [] => []
  | entry :: entries =>
      if entry.1 = key then remove key entries else entry :: remove key entries

/-- Stores a value under a key, in place of the one stored before. -/
def insert (key : κ) (value : ν) (entries : List (κ × ν)) : List (κ × ν) :=
  (key, value) :: remove key entries

@[simp]
theorem lookup_remove_self (key : κ) (entries : List (κ × ν)) :
    lookup key (remove key entries) = none := by
  induction entries with
  | nil => rfl
  | cons entry entries ih =>
      by_cases same : entry.1 = key
      · rw [remove, if_pos same]
        exact ih
      · rw [remove, if_neg same, lookup, if_neg same]
        exact ih

theorem lookup_remove_of_ne (different : other ≠ key) (entries : List (κ × ν)) :
    lookup other (remove key entries) = lookup other entries := by
  induction entries with
  | nil => rfl
  | cons entry entries ih =>
      by_cases same : entry.1 = key
      · have skipped : entry.1 ≠ other := fun equal => different (equal.symm.trans same)
        rw [remove, if_pos same, lookup, if_neg skipped]
        exact ih
      · rw [remove, if_neg same, lookup, lookup, ih]

/-- There is nothing to remove under a key that stores no value. -/
theorem remove_of_lookup_none (missing : lookup key entries = none) :
    remove key entries = entries := by
  induction entries with
  | nil => rfl
  | cons entry entries ih =>
      by_cases same : entry.1 = key
      · rw [lookup, if_pos same] at missing
        cases missing
      · rw [lookup, if_neg same] at missing
        rw [remove, if_neg same, ih missing]

@[simp]
theorem lookup_insert_self (key : κ) (value : ν) (entries : List (κ × ν)) :
    lookup key (insert key value entries) = some value := by
  rw [insert, lookup, if_pos rfl]

theorem lookup_insert_of_ne (different : other ≠ key) (value : ν) (entries : List (κ × ν)) :
    lookup other (insert key value entries) = lookup other entries := by
  rw [insert, lookup, if_neg (Ne.symm different), lookup_remove_of_ne different]

theorem count_remove_le (key : κ) (entries : List (κ × ν)) :
    count counts (remove key entries) ≤ count counts entries := by
  induction entries with
  | nil => exact Nat.le_refl 0
  | cons entry entries ih =>
      by_cases same : entry.1 = key
      · rw [remove, if_pos same, count_cons]
        omega
      · rw [remove, if_neg same, count_cons, count_cons]
        omega

/-- Removing a counted entry leaves fewer. -/
theorem count_remove_lt (found : lookup key entries = some value)
    (counted : counts value = true) :
    count counts (remove key entries) < count counts entries := by
  induction entries with
  | nil => cases found
  | cons entry entries ih =>
      by_cases same : entry.1 = key
      · rw [lookup, if_pos same] at found
        cases found
        have fewer : count counts (remove key entries) ≤ count counts entries :=
          count_remove_le key entries
        rw [remove, if_pos same, count_cons, if_pos counted]
        omega
      · rw [lookup, if_neg same] at found
        have fewer := ih found
        rw [remove, if_neg same, count_cons, count_cons]
        omega

theorem count_insert_le (key : κ) (value : ν) (entries : List (κ × ν)) :
    count counts (insert key value entries) ≤
      count counts entries + if counts value then 1 else 0 := by
  have fewer : count counts (remove key entries) ≤ count counts entries :=
    count_remove_le key entries
  rw [insert, count_cons]
  exact Nat.add_le_add_right fewer _

end KeyedList
