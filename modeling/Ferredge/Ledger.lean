import Mathlib.Algebra.BigOperators.Group.List.Basic
import Mathlib.Algebra.Group.Pi.Basic

/-!
# Ledgers over lists

What the members of a list carry adds up to a total in a commutative monoid.  When one member is
replaced, the total changes by the difference of the two.
-/

namespace Ledger

variable {α M : Type*} [AddCommMonoid M] {carries : α → M} {items : List α} {index : Nat}

/-- What all items of a list carry together. -/
def total (carries : α → M) (items : List α) : M := (items.map carries).sum

@[simp]
theorem total_nil : total carries [] = 0 := rfl

@[simp]
theorem total_cons (item : α) (items : List α) :
    total carries (item :: items) = carries item + total carries items :=
  List.sum_cons

@[simp]
theorem total_append (left right : List α) :
    total carries (left ++ right) = total carries left + total carries right := by
  simp [total]

theorem total_apply {κ : Type*} (carries : α → κ → M) (items : List α) (kind : κ) :
    total carries items kind = total (fun item => carries item kind) items := by
  induction items with
  | nil => rfl
  | cons item items ih => rw [total_cons, total_cons, Pi.add_apply, ih]

theorem total_eq_zero (nothing : ∀ item ∈ items, carries item = 0) :
    total carries items = 0 := by
  refine List.sum_eq_zero ?_
  intro amount member
  obtain ⟨item, present, rfl⟩ := List.mem_map.mp member
  exact nothing item present

/-- All items but one make up a remainder that replacing the one leaves alone. -/
theorem total_split (carries : α → M) {item : α} (located : items[index]? = some item) :
    ∃ remainder, total carries items = remainder + carries item ∧
      ∀ replacement, total carries (items.set index replacement) =
        remainder + carries replacement := by
  induction items generalizing index with
  | nil => cases located
  | cons first items ih =>
      cases index with
      | zero =>
          cases located
          refine ⟨total carries items, ?_, fun replacement => ?_⟩
          · rw [total_cons, add_comm]
          · rw [List.set_cons_zero, total_cons, add_comm]
      | succ index =>
          obtain ⟨remainder, whole, replaced⟩ := ih located
          refine ⟨carries first + remainder, ?_, fun replacement => ?_⟩
          · rw [total_cons, whole, add_assoc]
          · rw [List.set_cons_succ, total_cons, replaced, add_assoc]

/-- No member of a list carries more than the list. -/
theorem le_total (carries : α → Nat) {item : α} (member : item ∈ items) :
    carries item ≤ total carries items := by
  obtain ⟨index, located⟩ := List.mem_iff_getElem?.mp member
  obtain ⟨remainder, whole, -⟩ := total_split carries located
  omega

/-- Two items together carry no more than the ledger. -/
theorem add_le_total (carries : α → Nat) {place other : Nat} {item item' : α}
    (apart : place ≠ other)
    (located : items[place]? = some item) (located' : items[other]? = some item') :
    carries item + carries item' ≤ total carries items := by
  induction items generalizing place other with
  | nil => simp at located
  | cons first items ih =>
      rw [total_cons]
      cases place with
      | zero =>
          cases other with
          | zero => exact absurd rfl apart
          | succ other =>
              obtain rfl : first = item := by simpa using located
              exact Nat.add_le_add_left
                (le_total carries (List.mem_of_getElem? (by simpa using located'))) _
      | succ place =>
          cases other with
          | zero =>
              obtain rfl : first = item' := by simpa using located'
              rw [Nat.add_comm]
              exact Nat.add_le_add_left
                (le_total carries (List.mem_of_getElem? (by simpa using located))) _
          | succ other =>
              have both := @ih place other (fun same => apart (by rw [same]))
                (by simpa using located) (by simpa using located')
              omega

/-- A ledger over smaller amounts has the smaller total. -/
theorem total_le_total {smaller larger : α → Nat} (below : ∀ item, smaller item ≤ larger item)
    (items : List α) : total smaller items ≤ total larger items := by
  induction items with
  | nil => exact Nat.le_refl 0
  | cons item items ih =>
      rw [total_cons, total_cons]
      exact Nat.add_le_add (below item) ih

end Ledger
