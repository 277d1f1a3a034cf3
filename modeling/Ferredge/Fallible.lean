import Mathlib.Data.List.Forall2

/-!
# Fallible computations

Rules for programs in `Except`.  A chain of steps is taken apart by inverting its success, and the
errors it can raise are those of its steps.
-/

namespace Fallible

variable {ε δ α β : Type}

theorem bind_eq_ok {action : Except ε α} {next : α → Except ε β} {value : β} :
    (action >>= next) = .ok value ↔ ∃ item, action = .ok item ∧ next item = .ok value := by
  cases action with
  | error error => simp [bind, Except.bind]
  | ok item => simp [bind, Except.bind]

theorem bind_eq_error {action : Except ε α} {next : α → Except ε β} {error : ε} :
    (action >>= next) = .error error ↔
      action = .error error ∨ ∃ item, action = .ok item ∧ next item = .error error := by
  cases action with
  | error raised => simp [bind, Except.bind]
  | ok item => simp [bind, Except.bind]

theorem map_eq_ok {action : Except ε α} {transform : α → β} {value : β} :
    action.map transform = .ok value ↔ ∃ item, action = .ok item ∧ transform item = value := by
  cases action <;> simp [Except.map]

theorem map_eq_error {action : Except ε α} {transform : α → β} {error : ε} :
    action.map transform = .error error ↔ action = .error error := by
  cases action <;> simp [Except.map]

@[simp]
theorem mapError_ok (value : α) (rename : ε → δ) :
    (Except.ok value : Except ε α).mapError rename = .ok value :=
  rfl

@[simp]
theorem mapError_error (error : ε) (rename : ε → δ) :
    (Except.error error : Except ε α).mapError rename = .error (rename error) :=
  rfl

theorem mapError_eq_error {action : Except ε α} {rename : ε → δ} {error : δ} :
    action.mapError rename = .error error ↔
      ∃ cause, action = .error cause ∧ rename cause = error := by
  cases action <;> simp

/-- Two independent checks may be swapped unless they fail with different errors. -/
theorem bind_swap_iff {first : Except ε α} {second : Except ε β} {next : α → β → Except ε δ} :
    ((first >>= fun item => second >>= fun other => next item other) =
        second >>= fun other => first >>= fun item => next item other) ↔
      ∀ left right, first = .error left → second = .error right → left = right := by
  cases first with
  | error left =>
      cases second with
      | error right => simp [bind, Except.bind]
      | ok other => simp [bind, Except.bind]
  | ok item => simp [bind, Except.bind]

/-- Two independent checks succeed in either order if both do. -/
theorem bind_either_eq_ok {first : Except ε α} {second : Except ε β} {next : α → β → Except ε δ}
    {value : δ} :
    (first >>= fun item => second >>= fun other => next item other) = .ok value ∨
        (second >>= fun other => first >>= fun item => next item other) = .ok value ↔
      ∃ item other, first = .ok item ∧ second = .ok other ∧ next item other = .ok value := by
  cases first with
  | error left => cases second <;> simp [bind, Except.bind]
  | ok item => cases second <;> simp [bind, Except.bind]

/-- A check without a value may come before or after the step whose value is used. -/
theorem bind_check_eq_ok {first : Except ε α} {check : Except ε Unit} {next : α → Except ε δ}
    {value : δ} :
    (first >>= fun item => check >>= fun _ => next item) = .ok value ∨
        (check >>= fun _ => first >>= fun item => next item) = .ok value ↔
      ∃ item, first = .ok item ∧ check = .ok () ∧ next item = .ok value := by
  rw [bind_either_eq_ok]
  constructor
  · rintro ⟨item, ⟨⟩, done, checked, rest⟩
    exact ⟨item, done, checked, rest⟩
  · rintro ⟨item, done, checked, rest⟩
    exact ⟨item, (), done, checked, rest⟩

/-- A traversal succeeds exactly when every item does, and collects their values in order. -/
theorem mapM_eq_ok {convert : α → Except ε β} {items : List α} {values : List β} :
    items.mapM convert = .ok values ↔
      List.Forall₂ (fun item value => convert item = .ok value) items values := by
  induction items generalizing values with
  | nil =>
      rw [List.mapM_nil, List.forall₂_nil_left_iff]
      exact ⟨fun same => (Except.ok.inj same).symm, fun same => congrArg Except.ok same.symm⟩
  | cons item items ih =>
      rw [List.mapM_cons, bind_eq_ok, List.forall₂_cons_left_iff]
      constructor
      · rintro ⟨value, converted, rest⟩
        obtain ⟨values', traversed, same⟩ := bind_eq_ok.mp rest
        exact ⟨value, values', converted, ih.mp traversed, (Except.ok.inj same).symm⟩
      · rintro ⟨value, values', converted, rest, rfl⟩
        exact ⟨value, converted, bind_eq_ok.mpr ⟨values', ih.mpr rest, rfl⟩⟩

theorem length_eq_of_mapM_eq_ok {convert : α → Except ε β} {items : List α} {values : List β}
    (converted : items.mapM convert = .ok values) : items.length = values.length :=
  (mapM_eq_ok.mp converted).length_eq

/-- Every error the computation raises satisfies the given predicate. -/
def ErrorsSatisfy (allowed : ε → Prop) (action : Except ε α) : Prop :=
  ∀ error, action = .error error → allowed error

variable {allowed : ε → Prop}

theorem errorsSatisfy_ok (value : α) : ErrorsSatisfy allowed (.ok value) := by
  intro error raised
  cases raised

theorem errorsSatisfy_error {error : ε} (permitted : allowed error) :
    ErrorsSatisfy (α := α) allowed (.error error) := by
  intro raised same
  cases same
  exact permitted

theorem ErrorsSatisfy.bind {action : Except ε α} {next : α → Except ε β}
    (first : ErrorsSatisfy allowed action)
    (later : ∀ item, action = .ok item → ErrorsSatisfy allowed (next item)) :
    ErrorsSatisfy allowed (action >>= next) := by
  intro error raised
  obtain early | ⟨item, passed, late⟩ := bind_eq_error.mp raised
  · exact first error early
  · exact later item passed error late

theorem ErrorsSatisfy.map {action : Except ε α} (errors : ErrorsSatisfy allowed action)
    (transform : α → β) : ErrorsSatisfy allowed (action.map transform) := by
  intro error raised
  exact errors error (map_eq_error.mp raised)

theorem ErrorsSatisfy.mapM {convert : α → Except ε β}
    (errors : ∀ item, ErrorsSatisfy allowed (convert item)) (items : List α) :
    ErrorsSatisfy allowed (items.mapM convert) := by
  induction items with
  | nil => exact errorsSatisfy_ok []
  | cons item items ih =>
      rw [List.mapM_cons]
      exact (errors item).bind fun value _ => ih.bind fun values _ => errorsSatisfy_ok _

/-- A renaming of errors that fixes every error the computation can raise does nothing. -/
theorem ErrorsSatisfy.mapError_eq_self {action : Except ε α} (errors : ErrorsSatisfy allowed action)
    {rename : ε → ε} (fixed : ∀ error, allowed error → rename error = error) :
    action.mapError rename = action := by
  cases action with
  | error error => rw [mapError_error, fixed error (errors error rfl)]
  | ok value => rfl

end Fallible
