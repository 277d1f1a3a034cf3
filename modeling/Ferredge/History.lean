import Mathlib.Data.List.Induction

/-!
# Histories

Properties of a list of items that have happened one after the other: what held of every item at
its time, and what has been so since some item.  Both may look at the items that came before, and
both are known for a longer history from the shorter one and the item that is new.
-/

namespace History

variable {α : Type*}

/-- A place in a history that has grown by one item is the new item or was there before. -/
theorem snoc_eq_append_cons {history before later : List α} {last item : α} :
    history ++ [last] = before ++ item :: later ↔
      (history = before ∧ last = item ∧ later = []) ∨
        ∃ rest, later = rest ++ [last] ∧ history = before ++ item :: rest := by
  constructor
  · intro split
    rcases List.eq_nil_or_concat later with rfl | ⟨rest, final, rfl⟩
    · obtain ⟨same, final⟩ := List.append_inj' split rfl
      exact .inl ⟨same, List.cons.inj final |>.1, rfl⟩
    · rw [List.concat_eq_append] at split ⊢
      rw [← List.cons_append, ← List.append_assoc] at split
      obtain ⟨same, final⟩ := List.append_inj' split rfl
      obtain ⟨rfl, -⟩ := List.cons.inj final
      exact .inr ⟨rest, rfl, same⟩
  · rintro (⟨rfl, rfl, rfl⟩ | ⟨rest, rfl, rfl⟩)
    · rfl
    · simp

/-- Every item met the condition at its time. -/
def Always (met : List α → α → Prop) (history : List α) : Prop :=
  ∀ before item later, history = before ++ item :: later → met before item

/-- Some item opened, and no item after it has closed. -/
def Since (opens : α → Prop) (closes : List α → α → Prop) (history : List α) : Prop :=
  ∃ earlier item later, history = earlier ++ item :: later ∧ opens item ∧
    ∀ before next after, later = before ++ next :: after →
      ¬closes (earlier ++ item :: before) next

variable {met : List α → α → Prop} {opens : α → Prop} {closes : List α → α → Prop}
  {history : List α} {item : α}

theorem always_nil : Always met [] := by
  intro before item later split
  cases before <;> cases split

theorem Always.of_append {later : List α} (always : Always met (history ++ later)) :
    Always met history := by
  rintro before item rest rfl
  exact always before item (rest ++ later) (by simp)

theorem always_snoc : Always met (history ++ [item]) ↔ Always met history ∧ met history item := by
  constructor
  · intro always
    exact ⟨always.of_append, always history item [] rfl⟩
  · rintro ⟨always, last⟩ before other later split
    rcases snoc_eq_append_cons.mp split with ⟨rfl, rfl, -⟩ | ⟨rest, -, split⟩
    · exact last
    · exact always before other rest split

theorem Always.and {also : List α → α → Prop} (always : Always met history)
    (too : Always also history) : Always (fun before item => met before item ∧ also before item)
      history := fun before item later split =>
  ⟨always before item later split, too before item later split⟩

theorem Since.exists_mem (since : Since opens closes history) : ∃ item ∈ history, opens item := by
  obtain ⟨earlier, item, later, rfl, opened, -⟩ := since
  exact ⟨item, List.mem_append_right earlier List.mem_cons_self, opened⟩

theorem not_since_nil : ¬Since opens closes [] := by
  rintro ⟨earlier, item, later, split, -⟩
  cases earlier <;> cases split

theorem since_snoc :
    Since opens closes (history ++ [item]) ↔
      opens item ∨ (Since opens closes history ∧ ¬closes history item) := by
  constructor
  · rintro ⟨earlier, first, later, split, opened, unclosed⟩
    rcases snoc_eq_append_cons.mp split with ⟨-, rfl, -⟩ | ⟨rest, rfl, rfl⟩
    · exact .inl opened
    · refine .inr ⟨⟨earlier, first, rest, rfl, opened, ?_⟩, unclosed rest item [] rfl⟩
      intro before next after within
      exact unclosed before next (after ++ [item]) (by simp [within])
  · rintro (opened | ⟨⟨earlier, first, later, rfl, opened, unclosed⟩, still⟩)
    · refine ⟨history, item, [], rfl, opened, ?_⟩
      intro before next after within
      cases before <;> cases within
    · refine ⟨earlier, first, later ++ [item], by simp, opened, ?_⟩
      intro before next after within
      rcases snoc_eq_append_cons.mp within with ⟨rfl, rfl, -⟩ | ⟨rest, -, within⟩
      · exact still
      · exact unclosed before next rest within

/-- What holds at first and is kept by every item that meets the condition holds at the end. -/
theorem Always.invariant (holds : List α → Prop) (always : Always met history) (initial : holds [])
    (kept : ∀ before item, holds before → met before item → holds (before ++ [item])) :
    holds history := by
  induction history using List.reverseRecOn with
  | nil => exact initial
  | append_singleton before item ih =>
      obtain ⟨earlier, last⟩ := always_snoc.mp always
      exact kept before item (ih earlier) last

end History
