import Mathlib.Data.List.Nodup

/-!
# Overriding items by name

Items are kept in a list, and an item that is added takes the place of the first one of the same
name or comes last.  What the list holds under one name depends only on what was there and what was
added under that name, and the names keep their order.
-/

namespace Overriding

variable {α κ : Type*} [DecidableEq κ] (name : α → κ)

/-- The items of one name. -/
def under (wanted : κ) (items : List α) : List α :=
  items.filter fun item => decide (name item = wanted)

/-- Puts an item in the place of the first one of the same name, or last. -/
def override (item : α) : List α → List α
  | [] => [item]
  | other :: items => if name other = name item then item :: items else other :: override item items

/-- Adds items one after the other. -/
def overrideAll (items added : List α) : List α :=
  added.foldl (fun items item => override name item items) items

/-- The names that are not known yet, in the order in which they first occur. -/
def fresh (known : List κ) : List κ → List κ
  | [] => []
  | wanted :: names =>
      if wanted ∈ known then fresh known names
      else wanted :: fresh (known ++ [wanted]) names

variable {name} {item : α} {items added : List α} {wanted : κ} {known names : List κ}

/-! ## Selecting names -/

/-- Overriding and selecting by name may be swapped. -/
theorem filter_override (keeps : κ → Bool) (item : α) (items : List α) :
    (override name item items).filter (fun other => keeps (name other)) =
      if keeps (name item) then override name item (items.filter fun other => keeps (name other))
      else items.filter fun other => keeps (name other) := by
  induction items with
  | nil =>
      rw [override]
      cases kept : keeps (name item) <;> simp [kept, override]
  | cons other items ih =>
      by_cases same : name other = name item
      · rw [override, if_pos same]
        cases kept : keeps (name item) <;> simp [kept, same, override]
      · rw [override, if_neg same, List.filter_cons, ih]
        cases kept : keeps (name item) <;> cases held : keeps (name other) <;>
          simp [held, same, override]

theorem filter_overrideAll (keeps : κ → Bool) (items added : List α) :
    (overrideAll name items added).filter (fun other => keeps (name other)) =
      overrideAll name (items.filter fun other => keeps (name other))
        (added.filter fun other => keeps (name other)) := by
  induction added generalizing items with
  | nil => rfl
  | cons item added ih =>
      rw [overrideAll, List.foldl_cons]
      refine (ih _).trans ?_
      rw [filter_override]
      cases kept : keeps (name item) <;> simp [kept, overrideAll]

theorem overrideAll_nil (items : List α) : overrideAll name items [] = items :=
  rfl

theorem overrideAll_cons (items : List α) (item : α) (added : List α) :
    overrideAll name items (item :: added) = overrideAll name (override name item items) added :=
  rfl

/-- Under a single name the last item added takes the place of the first one there. -/
theorem overrideAll_of_named (held : ∀ item ∈ items, name item = wanted)
    (named : ∀ item ∈ added, name item = wanted) (nonempty : added ≠ []) :
    overrideAll name items added = added.getLast?.toList ++ items.tail := by
  induction added generalizing items with
  | nil => exact absurd rfl nonempty
  | cons item added ih =>
      rw [List.forall_mem_cons] at named
      have first : override name item items = item :: items.tail := by
        cases items with
        | nil => rfl
        | cons other items =>
            rw [override, if_pos ((held other List.mem_cons_self).trans named.1.symm)]
            rfl
      rw [overrideAll_cons, first]
      cases added with
      | nil => rfl
      | cons next added =>
          rw [ih _ named.2 (List.cons_ne_nil next added), List.getLast?_cons_cons]
          · rfl
          · rw [List.forall_mem_cons]
            exact ⟨named.1, fun other member => held other (List.mem_of_mem_tail member)⟩

theorem under_eq_nil : under name wanted items = [] ↔ wanted ∉ items.map name := by
  rw [under, List.filter_eq_nil_iff, List.mem_map, not_exists]
  simp only [decide_eq_true_eq, not_and]

theorem name_of_mem_under (wanted : κ) (items : List α) :
    ∀ item ∈ under name wanted items, name item = wanted :=
  fun _ member => of_decide_eq_true (List.mem_filter.mp member).2

/-- Of the items added under a name the last takes the place of the first one there. -/
theorem under_overrideAll (listed : wanted ∈ added.map name) (items : List α) :
    under name wanted (overrideAll name items added) =
      (under name wanted added).getLast?.toList ++ (under name wanted items).tail := by
  have nonempty : under name wanted added ≠ [] := fun empty => under_eq_nil.mp empty listed
  rw [under, filter_overrideAll fun other => decide (other = wanted)]
  exact overrideAll_of_named (name_of_mem_under wanted items) (name_of_mem_under wanted added)
    nonempty

/-- What is there under other names than those of the items added stays. -/
theorem under_overrideAll_of_other (other : wanted ∉ added.map name) (items : List α) :
    under name wanted (overrideAll name items added) = under name wanted items := by
  rw [under, filter_overrideAll fun called => decide (called = wanted), ← under, ← under,
    under_eq_nil.mpr other, overrideAll_nil]

/-! ## The order of names -/

theorem names_override (item : α) (items : List α) :
    (override name item items).map name =
      if name item ∈ items.map name then items.map name else items.map name ++ [name item] := by
  induction items with
  | nil => simp [override]
  | cons other items ih =>
      by_cases same : name other = name item
      · simp [override, same]
      · rw [override, if_neg same, List.map_cons, ih]
        have listed : name item ∈ (other :: items).map name ↔ name item ∈ items.map name := by
          rw [List.map_cons, List.mem_cons, or_iff_right (Ne.symm same)]
        simp only [listed]
        split <;> rfl

theorem names_overrideAll (items added : List α) :
    (overrideAll name items added).map name =
      items.map name ++ fresh (items.map name) (added.map name) := by
  induction added generalizing items with
  | nil => simp [overrideAll, fresh]
  | cons item added ih =>
      rw [overrideAll_cons, ih, names_override, List.map_cons, fresh]
      split <;> simp

theorem fresh_spec (known names : List κ) :
    (fresh known names).Nodup ∧ ∀ other ∈ fresh known names, other ∉ known := by
  induction names generalizing known with
  | nil => exact ⟨List.nodup_nil, nofun⟩
  | cons wanted names ih =>
      rw [fresh]
      split
      · exact ih known
      · rename_i absent
        obtain ⟨distinct, apart⟩ := ih (known ++ [wanted])
        refine ⟨List.nodup_cons.mpr ⟨fun listed => ?_, distinct⟩, List.forall_mem_cons.mpr
          ⟨absent, fun other listed held => ?_⟩⟩
        · exact apart wanted listed (by simp)
        · exact apart other listed (List.mem_append_left _ held)

theorem fresh_of_known (inside : ∀ other ∈ names, other ∈ known) (more : List κ) :
    fresh known (names ++ more) = fresh known more := by
  induction names with
  | nil => rfl
  | cons wanted names ih =>
      rw [List.forall_mem_cons] at inside
      rw [List.cons_append, fresh, if_pos inside.1, ih inside.2]

theorem fresh_of_distinct (distinct : names.Nodup) (apart : ∀ other ∈ names, other ∉ known) :
    fresh known names = names := by
  induction names generalizing known with
  | nil => rfl
  | cons wanted names ih =>
      rw [List.forall_mem_cons] at apart
      rw [List.nodup_cons] at distinct
      rw [fresh, if_neg apart.1, ih distinct.2]
      intro other listed held
      rw [List.mem_append, List.mem_singleton] at held
      rcases held with held | rfl
      · exact apart.2 other listed held
      · exact distinct.1 listed

/-! ## When the items added are what is left -/

theorem under_cons_self (item : α) (items : List α) :
    under name (name item) (item :: items) = item :: under name (name item) items := by
  simp [under]

theorem length_under (wanted : κ) (items : List α) :
    (under name wanted items).length = (items.map name).count wanted := by
  rw [under, ← List.countP_eq_length_filter, List.count_eq_countP, List.countP_map]
  rfl

theorem getLast?_of_length_le_one {found : List α} (few : found.length ≤ 1) :
    found.getLast?.toList = found := by
  match found, few with
  | [], _ => rfl
  | [_], _ => rfl

/-- Lists with the same names in the same order are equal if they hold the same under each. -/
theorem eq_of_names (name : α → κ) {items others : List α}
    (names : items.map name = others.map name)
    (same : ∀ wanted, under name wanted items = under name wanted others) : items = others := by
  induction items generalizing others with
  | nil =>
      rw [List.map_nil, eq_comm, List.map_eq_nil_iff] at names
      exact names.symm
  | cons item items ih =>
      cases others with
      | nil => cases names
      | cons other others =>
          obtain ⟨first, rest⟩ := List.cons.inj names
          have heads := same (name item)
          rw [under_cons_self, first, under_cons_self] at heads
          obtain ⟨rfl, -⟩ := List.cons.inj heads
          rw [ih rest fun wanted => ?_]
          have tails := same wanted
          by_cases called : name item = wanted
          · subst called
            rw [under_cons_self, under_cons_self] at tails
            exact (List.cons.inj tails).2
          · simpa [under, called] using tails

/-- Items that name everything there are what is left exactly when the first ones follow the order
of what is there, the others are new and distinct, and the items of a name that occurs there are
the last of them and what is there under the name but the first. -/
theorem overrideAll_eq_self_iff (named : ∀ item ∈ items, name item ∈ added.map name) :
    overrideAll name items added = added ↔
      (∃ others, added.map name = items.map name ++ others ∧ others.Nodup ∧
        ∀ other ∈ others, other ∉ items.map name) ∧
      ∀ wanted ∈ items.map name, under name wanted added =
        (under name wanted added).getLast?.toList ++ (under name wanted items).tail := by
  have replaced {wanted : κ} (listed : wanted ∈ items.map name) : wanted ∈ added.map name := by
    obtain ⟨item, member, rfl⟩ := List.mem_map.mp listed
    exact named item member
  constructor
  · intro left
    obtain ⟨distinct, apart⟩ := fresh_spec (items.map name) (added.map name)
    refine ⟨⟨_, ?_, distinct, apart⟩, fun wanted listed => ?_⟩
    · rw [← names_overrideAll, left]
    · have whole := under_overrideAll (replaced listed) items
      rwa [left] at whole
  · rintro ⟨⟨others, names, distinct, apart⟩, repeated⟩
    refine eq_of_names name ?_ fun wanted => ?_
    · rw [names_overrideAll, names, fresh_of_known (fun _ held => held),
        fresh_of_distinct distinct apart]
    · by_cases listed : wanted ∈ items.map name
      · rw [under_overrideAll (replaced listed)]
        exact (repeated wanted listed).symm
      · have nothing : under name wanted items = [] := under_eq_nil.mpr listed
        by_cases other : wanted ∈ added.map name
        · -- A name that occurs among the others only occurs once.
          have once : (under name wanted added).length ≤ 1 := by
            rw [length_under, names, List.count_append, List.count_eq_zero_of_not_mem listed,
              Nat.zero_add]
            exact List.nodup_iff_count_le_one.mp distinct wanted
          rw [under_overrideAll other, nothing, List.tail_nil, List.append_nil]
          exact getLast?_of_length_le_one once
        · rw [under_overrideAll_of_other other, nothing, under_eq_nil.mpr other]

end Overriding
