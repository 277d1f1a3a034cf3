import Mathlib.Data.List.Basic

/-!
# Lists with at most one item of a kind

Items are told apart by their place, so that equal items at two places count as two.
-/

namespace AtMostOne

variable {α : Type*} {items : List α} {item next other : α} {index place : Nat}

/-- An item of a list in which one place was rewritten is the new item or was there before. -/
theorem located_set (located : (items.set index next)[place]? = some item) :
    place = index ∧ item = next ∨ place ≠ index ∧ items[place]? = some item := by
  by_cases same : index = place
  · subst same
    have within := (List.getElem?_eq_some_iff.mp located).1
    rw [List.length_set] at within
    rw [List.getElem?_set_self within] at located
    exact .inl ⟨rfl, (Option.some.inj located).symm⟩
  · rw [List.getElem?_set_ne same] at located
    exact .inr ⟨fun equal => same equal.symm, located⟩

/-- An item stays where another place is rewritten. -/
theorem mem_set (located : items[place]? = some item) (elsewhere : place ≠ index) :
    item ∈ items.set index next := by
  refine List.mem_of_getElem? (i := place) ?_
  rw [List.getElem?_set_ne fun same => elsewhere same.symm, located]

/-- An item of a list that was extended is the new item or was there before. -/
theorem located_append (located : (items ++ [next])[place]? = some item) :
    place = items.length ∧ item = next ∨ items[place]? = some item := by
  rcases Nat.lt_or_ge place items.length with within | beyond
  · rw [List.getElem?_append_left within] at located
    exact .inr located
  · rw [List.getElem?_append_right beyond] at located
    have last := (List.getElem?_eq_some_iff.mp located).1
    rw [List.length_singleton, Nat.lt_one_iff] at last
    rw [last] at located
    exact .inl ⟨Nat.le_antisymm (Nat.sub_eq_zero_iff_le.mp last) beyond,
      (Option.some.inj located).symm⟩

end AtMostOne

/-- At most one place of the list holds an item that meets the condition. -/
def AtMostOne {α : Type*} (meets : α → Bool) (items : List α) : Prop :=
  ∀ (place other : Nat) (item item' : α), items[place]? = some item → items[other]? = some item' →
    meets item = true → meets item' = true → place = other

namespace AtMostOne

variable {α : Type*} {meets : α → Bool} {items : List α} {item next other : α} {index place : Nat}

theorem of_absent (absent : ∀ item ∈ items, meets item = false) : AtMostOne meets items := by
  intro place _ item _ located _ met _
  exact absurd met (Bool.eq_false_iff.mp (absent item (List.mem_of_getElem? located)))

/-- Beside the one that meets the condition no item does. -/
theorem apart (unique : AtMostOne meets items) (located : items[index]? = some item)
    (met : meets item = true) (elsewhere : place ≠ index) (located' : items[place]? = some other) :
    meets other = false := by
  refine Bool.eq_false_iff.mpr fun met' => elsewhere ?_
  exact unique place index other item located' located met' met

/-- An item may be replaced by one that meets the condition if it did so itself. -/
theorem set (unique : AtMostOne meets items) (located : items[index]? = some item)
    (kept : meets next = true → meets item = true) : AtMostOne meets (items.set index next) := by
  intro first second one two here there met met'
  rcases located_set here with ⟨rfl, rfl⟩ | ⟨-, before⟩
  · rcases located_set there with ⟨rfl, rfl⟩ | ⟨-, before'⟩
    · rfl
    · exact unique _ _ _ _ located before' (kept met) met'
  · rcases located_set there with ⟨rfl, rfl⟩ | ⟨-, before'⟩
    · exact unique _ _ _ _ before located met (kept met')
    · exact unique _ _ _ _ before before' met met'

/-- An item may be added if it does not meet the condition, or if no other one does. -/
theorem append (unique : AtMostOne meets items)
    (alone : meets next = true → ∀ item ∈ items, meets item = false) :
    AtMostOne meets (items ++ [next]) := by
  intro first second one two here there met met'
  rcases located_append here with ⟨rfl, rfl⟩ | before
  · rcases located_append there with ⟨rfl, rfl⟩ | before'
    · rfl
    · exact absurd met' (Bool.eq_false_iff.mp (alone met two (List.mem_of_getElem? before')))
  · rcases located_append there with ⟨rfl, rfl⟩ | before'
    · exact absurd met (Bool.eq_false_iff.mp (alone met' one (List.mem_of_getElem? before)))
    · exact unique _ _ _ _ before before' met met'

end AtMostOne
