import Ferredge.Backoff
import Ferredge.Core.Device

/-!
# Backoff of a broker connection

The delay before a reconnect attempt grows by a multiplier up to its maximum, in arithmetic on 64
bits that saturates.
-/

namespace Ferredge
namespace BrokerReconnectConfig

open Backoff

/-- Multiplication that stops at the largest value. -/
def saturatingMul (left right : UInt64) : UInt64 :=
  UInt64.ofNat (min (left.toNat * right.toNat) (2 ^ 64 - 1))

/-- The rounds of the exponential backoff. -/
def growDelay (multiplier maxDelayMs : UInt64) : Nat → UInt64 → UInt64
  | 0, delay => min delay maxDelayMs
  | rounds + 1, delay =>
      let delay := saturatingMul delay multiplier
      if maxDelayMs ≤ delay then maxDelayMs else growDelay multiplier maxDelayMs rounds delay

/-- The backoff delay in milliseconds for the given 1-based reconnect attempt. -/
def delayMsForAttempt (config : BrokerReconnectConfig) (attempt : UInt32) : UInt64 :=
  if attempt ≤ 1 then min config.initialDelayMs config.maxDelayMs
  else
    match config.strategy with
    | .fixed => min config.initialDelayMs config.maxDelayMs
    | .exponential =>
        let multiplier := (max config.multiplier 1).toUInt64
        growDelay multiplier config.maxDelayMs (attempt.toNat - 1) (max config.initialDelayMs 1)

theorem toNat_min (left right : UInt64) : (min left right).toNat = min left.toNat right.toNat := by
  by_cases ordered : left ≤ right
  · have least : min left right = left := if_pos ordered
    rw [least, Nat.min_eq_left (UInt64.le_iff_toNat_le.mp ordered)]
  · have least : min left right = right := if_neg ordered
    rw [UInt64.le_iff_toNat_le] at ordered
    rw [least, Nat.min_eq_right (by omega)]

theorem toNat_max_one (delay : UInt64) : (max delay 1).toNat = max 1 delay.toNat := by
  by_cases ordered : delay ≤ 1
  · have greatest : max delay 1 = 1 := if_pos ordered
    rw [greatest]
    exact (Nat.max_eq_left (UInt64.le_iff_toNat_le.mp ordered)).symm
  · have greatest : max delay 1 = delay := if_neg ordered
    have above : ¬ delay.toNat ≤ 1 := fun below => ordered (UInt64.le_iff_toNat_le.mpr below)
    rw [greatest, Nat.max_eq_right (by omega)]

theorem toNat_toUInt64_max_one (multiplier : UInt32) :
    (max multiplier 1).toUInt64.toNat = max 1 multiplier.toNat := by
  rw [UInt32.toNat_toUInt64]
  by_cases ordered : multiplier ≤ 1
  · have greatest : max multiplier 1 = 1 := if_pos ordered
    rw [greatest]
    exact (Nat.max_eq_left (UInt32.le_iff_toNat_le.mp ordered)).symm
  · have greatest : max multiplier 1 = multiplier := if_neg ordered
    have above : ¬ multiplier.toNat ≤ 1 := fun below => ordered (UInt32.le_iff_toNat_le.mpr below)
    rw [greatest, Nat.max_eq_right (by omega)]

theorem toNat_saturatingMul (left right : UInt64) :
    (saturatingMul left right).toNat = min (left.toNat * right.toNat) (2 ^ 64 - 1) := by
  rw [saturatingMul, UInt64.toNat_ofNat']
  omega

theorem toNat_growDelay (multiplier maxDelayMs delay : UInt64) (rounds : Nat) :
    (growDelay multiplier maxDelayMs rounds delay).toNat =
      min maxDelayMs.toNat
        (grow (2 ^ 64 - 1) multiplier.toNat maxDelayMs.toNat rounds delay.toNat) := by
  induction rounds generalizing delay with
  | zero => rw [growDelay, grow, toNat_min, Nat.min_comm]
  | succ rounds ih =>
      rw [growDelay, grow, ← toNat_saturatingMul]
      by_cases reached : maxDelayMs ≤ saturatingMul delay multiplier
      · rw [if_pos reached, if_pos (UInt64.le_iff_toNat_le.mp reached), Nat.min_self]
      · rw [if_neg reached, if_neg fun above => reached (UInt64.le_iff_toNat_le.mpr above)]
        exact ih _

/-- The delay in milliseconds computed without bounds: the exponential backoff multiplies the
initial delay once for every attempt but the first. -/
def exactDelay (config : BrokerReconnectConfig) (attempt : Nat) : Nat :=
  min config.maxDelayMs.toNat
    (max 1 config.initialDelayMs.toNat * max 1 config.multiplier.toNat ^ (attempt - 1))

variable {config : BrokerReconnectConfig} {attempt : UInt32}

theorem toNat_delayMsForAttempt_initial
    (initial : attempt ≤ 1 ∨ config.strategy = .fixed) :
    (config.delayMsForAttempt attempt).toNat =
      min config.initialDelayMs.toNat config.maxDelayMs.toNat := by
  rw [delayMsForAttempt]
  split
  · exact toNat_min _ _
  · rename_i later
    rw [initial.resolve_left later]
    exact toNat_min _ _

theorem toNat_delayMsForAttempt_exponential (exponential : config.strategy = .exponential)
    (later : ¬ attempt ≤ 1) :
    (config.delayMsForAttempt attempt).toNat = config.exactDelay attempt.toNat := by
  have two_le : 2 ≤ attempt.toNat := by
    rw [UInt32.le_iff_toNat_le] at later
    have one : (1 : UInt32).toNat = 1 := rfl
    omega
  obtain ⟨rounds, rounds_eq⟩ : ∃ rounds, attempt.toNat - 1 = rounds + 1 :=
    ⟨attempt.toNat - 2, by omega⟩
  have positive : 1 ≤ max 1 config.multiplier.toNat := Nat.le_max_left _ _
  have within : config.maxDelayMs.toNat ≤ 2 ^ 64 - 1 := Nat.le_pred_of_lt config.maxDelayMs.toNat_lt
  simp only [delayMsForAttempt, if_neg later, exponential]
  rw [toNat_growDelay, toNat_toUInt64_max_one, toNat_max_one, rounds_eq, grow_succ positive,
    exactDelay, rounds_eq]
  omega

theorem exponential_of_ne_fixed (growing : ¬ config.strategy = .fixed) :
    config.strategy = .exponential := by
  cases strategy : config.strategy with
  | fixed => exact absurd strategy growing
  | exponential => rfl

theorem exactDelay_mono (config : BrokerReconnectConfig) {first second : Nat}
    (ordered : first ≤ second) : config.exactDelay first ≤ config.exactDelay second :=
  min_pow_mono (Nat.le_max_left _ _) (Nat.sub_le_sub_right ordered 1)

theorem initial_le_exactDelay (config : BrokerReconnectConfig) (attempt : Nat) :
    min config.initialDelayMs.toNat config.maxDelayMs.toNat ≤ config.exactDelay attempt := by
  have positive : 1 ≤ max 1 config.multiplier.toNat ^ (attempt - 1) :=
    Nat.one_le_pow _ _ (Nat.le_max_left _ _)
  have grown := Nat.le_mul_of_pos_right (max 1 config.initialDelayMs.toNat) positive
  rw [exactDelay]
  omega

theorem delayMsForAttempt_le_max (config : BrokerReconnectConfig) (attempt : UInt32) :
    config.delayMsForAttempt attempt ≤ config.maxDelayMs := by
  rw [UInt64.le_iff_toNat_le]
  by_cases initial : attempt ≤ 1 ∨ config.strategy = .fixed
  · rw [toNat_delayMsForAttempt_initial initial]
    exact Nat.min_le_right _ _
  · obtain ⟨later, growing⟩ := not_or.mp initial
    rw [toNat_delayMsForAttempt_exponential (exponential_of_ne_fixed growing) later]
    exact Nat.min_le_left _ _

theorem delayMsForAttempt_mono (config : BrokerReconnectConfig) {first second : UInt32}
    (ordered : first ≤ second) :
    config.delayMsForAttempt first ≤ config.delayMsForAttempt second := by
  rw [UInt64.le_iff_toNat_le]
  by_cases initial : first ≤ 1 ∨ config.strategy = .fixed
  · rw [toNat_delayMsForAttempt_initial initial]
    by_cases still : second ≤ 1 ∨ config.strategy = .fixed
    · exact Nat.le_of_eq (toNat_delayMsForAttempt_initial still).symm
    · obtain ⟨later, growing⟩ := not_or.mp still
      rw [toNat_delayMsForAttempt_exponential (exponential_of_ne_fixed growing) later]
      exact config.initial_le_exactDelay second.toNat
  · obtain ⟨later, growing⟩ := not_or.mp initial
    have exponential := exponential_of_ne_fixed growing
    have still_later : ¬ second ≤ 1 := fun early => later (UInt32.le_trans ordered early)
    rw [toNat_delayMsForAttempt_exponential exponential later,
      toNat_delayMsForAttempt_exponential exponential still_later]
    exact config.exactDelay_mono (UInt32.le_iff_toNat_le.mp ordered)

/-- The delay never exceeds its maximum and never shrinks from attempt to attempt, and the
exponential backoff is the exact power cut off at the maximum. -/
theorem delayMsForAttempt_exact (config : BrokerReconnectConfig) :
    (∀ attempt, config.delayMsForAttempt attempt ≤ config.maxDelayMs) ∧
    (∀ first second, first ≤ second →
      config.delayMsForAttempt first ≤ config.delayMsForAttempt second) ∧
    (config.strategy = .exponential → ∀ attempt, 2 ≤ attempt →
      (config.delayMsForAttempt attempt).toNat =
        min config.maxDelayMs.toNat (max 1 config.initialDelayMs.toNat *
          max 1 config.multiplier.toNat ^ (attempt.toNat - 1))) := by
  refine ⟨config.delayMsForAttempt_le_max, fun _ _ => config.delayMsForAttempt_mono,
    fun exponential attempt later => ?_⟩
  have not_first : ¬ attempt ≤ 1 := fun early =>
    absurd (UInt32.le_trans later early) (by decide)
  exact toNat_delayMsForAttempt_exponential exponential not_first

/-- The third attempt after a delay of 100 milliseconds that triples waits 900 of them. -/
theorem tripled_delay :
    (({ default with initialDelayMs := 100, multiplier := 3 }).delayMsForAttempt 3).toNat =
      min 5000 (max 1 100 * max 1 3 ^ 2) :=
  (delayMsForAttempt_exact { default with initialDelayMs := 100, multiplier := 3 }).2.2 rfl 3
    (by decide)

end BrokerReconnectConfig
end Ferredge
