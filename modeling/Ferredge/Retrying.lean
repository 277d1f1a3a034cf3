import Mathlib.Data.List.Basic

/-!
# Repeated attempts

An operation that may fail is attempted until it succeeds, fails for good, or has used up the
attempts it is allowed.
-/

namespace Retrying

variable {σ ε α : Type*} (attempt : σ → Except ε α × σ) (passing : ε → Bool)

/-- The outcomes of successive attempts, and what they leave behind. -/
def successive : Nat → σ → List (Except ε α) × σ
  | 0, world => ([], world)
  | count + 1, world =>
      let (outcome, after) := attempt world
      let (outcomes, final) := successive count after
      (outcome :: outcomes, final)

/-- The attempts that are made when a number of them is allowed. -/
inductive Attempted : Nat → σ → List (Except ε α) → σ → Prop
  | succeeded {budget : Nat} {world after : σ} {value : α} :
      attempt world = (.ok value, after) → Attempted (budget + 1) world [.ok value] after
  | failed {budget : Nat} {world after : σ} {error : ε} :
      attempt world = (.error error, after) → passing error = false →
        Attempted (budget + 1) world [.error error] after
  | exhausted {world after : σ} {error : ε} :
      attempt world = (.error error, after) → Attempted 1 world [.error error] after
  | again {budget : Nat} {world after final : σ} {error : ε} {outcomes : List (Except ε α)} :
      attempt world = (.error error, after) → passing error = true →
        Attempted (budget + 1) after outcomes final →
        Attempted (budget + 2) world (.error error :: outcomes) final

/-- All failures but the last outcome may pass, and one that may pass comes last only if no attempt
is left. -/
structure StopsInTime (budget : Nat) (outcomes : List (Except ε α)) (last : Except ε α) : Prop where
  failures : ∃ errors : List ε, outcomes = errors.map .error ++ [last] ∧
    ∀ error ∈ errors, passing error = true
  exhausted : ∀ error, last = .error error → passing error = true → outcomes.length = budget

variable {attempt passing} {budget : Nat} {world final : σ} {outcomes : List (Except ε α)}

theorem successive_succ (count : Nat) (world : σ) :
    (successive attempt (count + 1) world).2 = (attempt (successive attempt count world).2).2 := by
  induction count generalizing world with
  | zero => rfl
  | succ count ih => exact ih (attempt world).2

namespace Attempted

theorem length_pos (made : Attempted attempt passing budget world outcomes final) :
    1 ≤ outcomes.length := by
  cases made <;> exact Nat.succ_le_succ (Nat.zero_le _)

theorem length_le (made : Attempted attempt passing budget world outcomes final) :
    outcomes.length ≤ budget := by
  induction made with
  | succeeded _ => exact Nat.succ_le_succ (Nat.zero_le _)
  | failed _ _ => exact Nat.succ_le_succ (Nat.zero_le _)
  | exhausted _ => exact Nat.le_refl 1
  | again _ _ _ ih => exact Nat.succ_le_succ ih

theorem successive_eq (made : Attempted attempt passing budget world outcomes final) :
    successive attempt outcomes.length world = (outcomes, final) := by
  induction made with
  | succeeded returned => simp [successive, returned]
  | failed returned _ => simp [successive, returned]
  | exhausted returned => simp [successive, returned]
  | again returned _ _ ih => simp [successive, returned, ih]

theorem stopsInTime (made : Attempted attempt passing budget world outcomes final) :
    ∃ last, outcomes.getLast? = some last ∧ StopsInTime passing budget outcomes last := by
  induction made with
  | succeeded _ => exact ⟨_, rfl, ⟨[], rfl, nofun⟩, nofun⟩
  | failed _ lasting =>
      refine ⟨_, rfl, ⟨[], rfl, nofun⟩, fun error same pass => ?_⟩
      cases same
      exact absurd (lasting.symm.trans pass) Bool.false_ne_true
  | exhausted _ => exact ⟨_, rfl, ⟨[], rfl, nofun⟩, fun _ _ _ => rfl⟩
  | @again _ _ _ _ error outcomes _ pass _ ih =>
      obtain ⟨last, ends, ⟨errors, shape, passed⟩, exhausted⟩ := ih
      refine ⟨last, ?_, ⟨error :: errors, ?_, ?_⟩, fun other same pass => ?_⟩
      · rw [List.getLast?_cons, ends]
        rfl
      · rw [shape]
        rfl
      · exact List.forall_mem_cons.mpr ⟨pass, passed⟩
      · exact congrArg Nat.succ (exhausted other same pass)

/-- After a failure that may pass there is another attempt if one is left. -/
theorem one_lt_length (made : Attempted attempt passing budget world outcomes final) {error : ε}
    (left : 1 < budget) (failed : (attempt world).1 = .error error)
    (pass : passing error = true) : 1 < outcomes.length := by
  cases made with
  | succeeded returned =>
      rw [returned] at failed
      cases failed
  | failed returned lasting =>
      rw [returned] at failed
      cases failed
      exact absurd (lasting.symm.trans pass) Bool.false_ne_true
  | exhausted _ => exact absurd left (Nat.lt_irrefl 1)
  | again _ _ rest => exact Nat.succ_lt_succ rest.length_pos

/-- The same holds of every attempt that is made. -/
theorem succ_lt_length (made : Attempted attempt passing budget world outcomes final) {error : ε}
    {count : Nat} (left : count + 1 < budget) (within : count < outcomes.length)
    (failed : (attempt (successive attempt count world).2).1 = .error error)
    (pass : passing error = true) : count + 1 < outcomes.length := by
  induction count generalizing budget world outcomes with
  | zero => exact made.one_lt_length left failed pass
  | succ count ih =>
      cases made with
      | succeeded _ | failed _ _ | exhausted _ =>
          exact absurd (Nat.lt_of_succ_lt_succ within) (Nat.not_lt_zero count)
      | again returned _ rest =>
          have next : (successive attempt (count + 1) world).2 =
              (successive attempt count (attempt world).2).2 := rfl
          rw [next, returned] at failed
          exact Nat.succ_lt_succ (ih rest (Nat.lt_of_succ_lt_succ left)
            (Nat.lt_of_succ_lt_succ within) failed)

/-- What every attempt keeps holds when the last one is made. -/
theorem exists_last {holds : σ → Prop} (kept : ∀ world, holds world → holds (attempt world).2)
    (made : Attempted attempt passing budget world outcomes final) (initial : holds world) :
    ∃ before last, holds before ∧ attempt before = (last, final) ∧
      outcomes.getLast? = some last := by
  induction made with
  | succeeded returned => exact ⟨_, _, initial, returned, rfl⟩
  | failed returned _ => exact ⟨_, _, initial, returned, rfl⟩
  | exhausted returned => exact ⟨_, _, initial, returned, rfl⟩
  | again returned _ _ ih =>
      have next := kept _ initial
      rw [returned] at next
      obtain ⟨before, last, held, final, ends⟩ := ih next
      refine ⟨before, last, held, final, ?_⟩
      rw [List.getLast?_cons, ends]
      rfl

/-- What each attempt comes to determines the attempts that are made. -/
theorem unique {others : List (Except ε α)} {reached : σ}
    (made : Attempted attempt passing budget world outcomes final)
    (remade : Attempted attempt passing budget world others reached) :
    outcomes = others ∧ final = reached := by
  induction made generalizing others with
  | succeeded returned => cases remade <;> simp_all
  | failed returned lasting => cases remade <;> simp_all
  | exhausted returned => cases remade <;> simp_all
  | again returned pass rest ih =>
      cases remade with
      | succeeded returned' => cases returned.symm.trans returned'
      | failed returned' lasting =>
          cases returned.symm.trans returned'
          exact absurd (lasting.symm.trans pass) Bool.false_ne_true
      | again returned' pass' rest' =>
          cases returned.symm.trans returned'
          obtain ⟨rfl, same⟩ := ih rest'
          exact ⟨rfl, same⟩

/-- If every attempt leads to whatever related world is wanted after it, from some related world, so
do repeated attempts. -/
theorem backward {τ : Type*} {other : τ → Except ε α × τ} {holds : σ → Prop} {same : σ → τ → Prop}
    (made : Attempted attempt passing budget world outcomes final) (initial : holds world)
    (preserved : ∀ before, holds before → holds (attempt before).2)
    (foretold : ∀ before, holds before → ∀ wanted, same (attempt before).2 wanted →
      ∃ known, same before known ∧ other known = ((attempt before).1, wanted))
    {wanted : τ} (related : same final wanted) :
    ∃ begun, same world begun ∧ Attempted other passing budget begun outcomes wanted := by
  have one {before after : σ} {outcome : Except ε α} {wanted : τ} (held : holds before)
      (returned : attempt before = (outcome, after)) (related : same after wanted) :
      ∃ known, same before known ∧ other known = (outcome, wanted) := by
    have known := foretold before held wanted
    rw [returned] at known
    exact known related
  induction made generalizing wanted with
  | succeeded returned =>
      obtain ⟨known, first, known_returned⟩ := one initial returned related
      exact ⟨known, first, .succeeded known_returned⟩
  | failed returned lasting =>
      obtain ⟨known, first, known_returned⟩ := one initial returned related
      exact ⟨known, first, .failed known_returned lasting⟩
  | exhausted returned =>
      obtain ⟨known, first, known_returned⟩ := one initial returned related
      exact ⟨known, first, .exhausted known_returned⟩
  | again returned pass rest ih =>
      have next := preserved _ initial
      rw [returned] at next
      obtain ⟨middle, between, later⟩ := ih next related
      obtain ⟨known, first, known_returned⟩ := one initial returned between
      exact ⟨known, first, .again known_returned pass later⟩

/-- What one attempt adds at most once is added at most once an attempt. -/
theorem count_le (count : σ → Nat) (once : ∀ world, count (attempt world).2 ≤ count world + 1)
    (made : Attempted attempt passing budget world outcomes final) :
    count final ≤ count world + outcomes.length := by
  have first {world after : σ} {outcome : Except ε α}
      (returned : attempt world = (outcome, after)) :
      count after ≤ count world + 1 := by
    simpa [returned] using once world
  induction made with
  | succeeded returned => exact first returned
  | failed returned _ => exact first returned
  | exhausted returned => exact first returned
  | again returned _ _ ih =>
      have added := first returned
      rw [List.length_cons]
      omega

end Attempted
end Retrying
