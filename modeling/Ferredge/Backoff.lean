import Mathlib.Algebra.Group.Nat.Defs
import Mathlib.Data.Nat.Init

/-!
# Capped exponential growth

A delay is multiplied round by round in saturating arithmetic until it reaches its cap.  The loop
has the value of the power computed exactly and then cut off.
-/

namespace Backoff

/-- Multiplies a delay in arithmetic that saturates at `limit` until it reaches `cap`. -/
def grow (limit multiplier cap : Nat) : Nat → Nat → Nat
  | 0, delay => delay
  | rounds + 1, delay =>
      if cap ≤ min (delay * multiplier) limit then cap
      else grow limit multiplier cap rounds (min (delay * multiplier) limit)

variable {limit multiplier cap delay : Nat}

theorem grow_le (rounds : Nat) (within_cap : delay ≤ cap) (within_limit : delay ≤ limit) :
    grow limit multiplier cap rounds delay ≤ min limit cap := by
  induction rounds generalizing delay with
  | zero => exact Nat.le_min.mpr ⟨within_limit, within_cap⟩
  | succ rounds ih =>
      rw [grow]
      split
      · omega
      · exact ih (by omega) (Nat.min_le_right _ _)

/-- A round that saturates has passed everything the limit lets through. -/
theorem min_limit_mul_pow (positive : 1 ≤ multiplier) (rounds grown : Nat) :
    min limit (min cap (min grown limit * multiplier ^ rounds)) =
      min limit (min cap (grown * multiplier ^ rounds)) := by
  rcases Nat.le_total grown limit with fits | saturates
  · rw [Nat.min_eq_left fits]
  · have power : 1 ≤ multiplier ^ rounds := Nat.one_le_pow _ _ positive
    have limit_le : limit ≤ limit * multiplier ^ rounds := Nat.le_mul_of_pos_right limit power
    have grown_le : grown ≤ grown * multiplier ^ rounds := Nat.le_mul_of_pos_right grown power
    rw [Nat.min_eq_right saturates]
    omega

theorem min_grow (positive : 1 ≤ multiplier) (rounds delay : Nat) :
    min limit (min cap (grow limit multiplier cap rounds delay)) =
      min limit (min cap (delay * multiplier ^ rounds)) := by
  induction rounds generalizing delay with
  | zero => rw [grow, Nat.pow_zero, Nat.mul_one]
  | succ rounds ih =>
      have power : 1 ≤ multiplier ^ rounds := Nat.one_le_pow _ _ positive
      have more : delay * multiplier ≤ delay * multiplier * multiplier ^ rounds :=
        Nat.le_mul_of_pos_right _ power
      rw [grow, Nat.pow_succ', ← Nat.mul_assoc]
      split
      · omega
      · rw [ih, min_limit_mul_pow positive]

/-- After at least one round neither the saturation nor the early end shows. -/
theorem grow_succ (positive : 1 ≤ multiplier) (rounds delay : Nat) :
    grow limit multiplier cap (rounds + 1) delay =
      min limit (min cap (delay * multiplier ^ (rounds + 1))) := by
  have bounded : grow limit multiplier cap (rounds + 1) delay ≤ min limit cap := by
    rw [grow]
    split
    · omega
    · exact grow_le rounds (by omega) (Nat.min_le_right _ _)
  rw [← min_grow positive]
  omega

/-- The power that is cut off grows with the number of rounds. -/
theorem min_pow_mono (positive : 1 ≤ multiplier) {first second : Nat} (ordered : first ≤ second) :
    min cap (delay * multiplier ^ first) ≤ min cap (delay * multiplier ^ second) := by
  have power : multiplier ^ first ≤ multiplier ^ second := Nat.pow_le_pow_right positive ordered
  have scaled : delay * multiplier ^ first ≤ delay * multiplier ^ second :=
    Nat.mul_le_mul_left delay power
  omega

end Backoff
