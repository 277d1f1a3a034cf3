import Ferredge.Backoff
import Ferredge.Modbus.Attempts

/-!
# Delays between retries

The delay before the first retry is the configured one as it stands.  Later delays are capped and
counted in whole milliseconds, so the two need not agree.
-/

namespace Ferredge
namespace ModbusReconnectPolicy

open Backoff

theorem backOff_eq_grow (multiplier maxMillis rounds millis : Nat) :
    backOff multiplier maxMillis rounds millis =
      grow (2 ^ 128 - 1) multiplier maxMillis rounds millis := by
  induction rounds generalizing millis with
  | zero => rfl
  | succ rounds ih =>
      rw [backOff, grow, ih]

/-- The cap of the delays: the initial delay if no maximum is configured. -/
def cap (policy : ModbusReconnectPolicy) (initialDelay : Duration) : Duration :=
  policy.maxDelay.getD initialDelay

/-- There is a delay for every attempt, none exceeds the cap, and none is shorter than an earlier
one. -/
def DelaysRise (policy : ModbusReconnectPolicy) (initialDelay : Duration) : Prop :=
  ∃ delay : UInt32 → Duration,
    (∀ attempt, policy.delayForAttempt attempt = some (delay attempt)) ∧
    (∀ attempt, (delay attempt).nanos ≤ (policy.cap initialDelay).nanos) ∧
    ∀ first second, first ≤ second → (delay first).nanos ≤ (delay second).nanos

/-- The initial delay is within the cap.  If the delays grow, the cap is at least a millisecond and
the initial delay is not lost in whole milliseconds. -/
def InitialFits (policy : ModbusReconnectPolicy) (initialDelay : Duration) : Prop :=
  initialDelay.nanos ≤ (policy.cap initialDelay).nanos ∧
    (policy.strategy = .exponential →
      10 ^ 6 ≤ (policy.cap initialDelay).nanos ∧
      initialDelay.nanos ≤ asMillis (policy.cap initialDelay) * 10 ^ 6 ∧
      initialDelay.nanos ≤ (2 ^ 64 - 1) * 10 ^ 6 ∧
      (10 ^ 6 ∣ initialDelay.nanos ∨ initialDelay.nanos < 10 ^ 6 ∨ 2 ≤ policy.multiplier.toNat))

/-- The exponential delay of a number of rounds, in nanoseconds. -/
def grownNanos (policy : ModbusReconnectPolicy) (initialDelay : Duration) (rounds : Nat) : Nat :=
  min (2 ^ 64 - 1) (min (max 1 (asMillis (policy.cap initialDelay)))
    (max 1 (asMillis initialDelay) * max 1 policy.multiplier.toNat ^ rounds)) * 10 ^ 6

variable {policy : ModbusReconnectPolicy} {initialDelay : Duration} {attempt : UInt32}

theorem delayForAttempt_initial (given : policy.initialDelay = some initialDelay)
    (initial : attempt ≤ 1) : policy.delayForAttempt attempt = some initialDelay := by
  rw [delayForAttempt, given, Option.map_some, if_pos initial]

theorem delayForAttempt_fixed (given : policy.initialDelay = some initialDelay)
    (fixed : policy.strategy = .fixed) (later : ¬ attempt ≤ 1) :
    policy.delayForAttempt attempt = some (shorter initialDelay (policy.cap initialDelay)) := by
  simp only [delayForAttempt, given, Option.map_some, if_neg later, fixed, cap]

theorem delayForAttempt_exponential (given : policy.initialDelay = some initialDelay)
    (exponential : policy.strategy = .exponential) (later : ¬ attempt ≤ 1) :
    policy.delayForAttempt attempt =
      some ⟨policy.grownNanos initialDelay (attempt.toNat - 1)⟩ := by
  obtain ⟨rounds, rounds_eq⟩ : ∃ rounds, attempt.toNat - 1 = rounds + 1 := by
    rw [UInt32.le_iff_toNat_le] at later
    have one : (1 : UInt32).toNat = 1 := rfl
    exact ⟨attempt.toNat - 2, by omega⟩
  have positive : 1 ≤ max 1 policy.multiplier.toNat := Nat.le_max_left _ _
  -- the limit of the multiplication is above that of the result
  have limits (millis : Nat) :
      min (min (2 ^ 128 - 1) millis) (2 ^ 64 - 1) = min (2 ^ 64 - 1) millis := by
    omega
  simp only [delayForAttempt, given, Option.map_some, if_neg later, exponential, backOff_eq_grow,
    rounds_eq, grow_succ positive, grownNanos, cap, limits]

theorem grownNanos_mono (policy : ModbusReconnectPolicy) (initialDelay : Duration)
    {first second : Nat} (ordered : first ≤ second) :
    policy.grownNanos initialDelay first ≤ policy.grownNanos initialDelay second := by
  rw [grownNanos, grownNanos, ← Nat.min_assoc, ← Nat.min_assoc]
  exact Nat.mul_le_mul_right _ (min_pow_mono (Nat.le_max_left _ _) ordered)

/-- A delay in whole milliseconds is within a cap of at least one. -/
theorem grownNanos_le_cap (room : 10 ^ 6 ≤ (policy.cap initialDelay).nanos) (rounds : Nat) :
    policy.grownNanos initialDelay rounds ≤ (policy.cap initialDelay).nanos := by
  have whole : asMillis (policy.cap initialDelay) * 10 ^ 6 ≤ (policy.cap initialDelay).nanos :=
    Nat.div_mul_le_self _ _
  have some_millis : 1 ≤ asMillis (policy.cap initialDelay) := by
    rw [asMillis]
    omega
  rw [grownNanos]
  refine Nat.le_trans (Nat.mul_le_mul_right _ ?_) whole
  omega

/-- A cap below a millisecond is rounded up to one. -/
theorem cap_lt_grownNanos (small : (policy.cap initialDelay).nanos < 10 ^ 6) (rounds : Nat) :
    (policy.cap initialDelay).nanos < policy.grownNanos initialDelay rounds := by
  have none_whole : asMillis (policy.cap initialDelay) = 0 := Nat.div_eq_of_lt small
  have power : 1 ≤ max 1 policy.multiplier.toNat ^ rounds :=
    Nat.one_le_pow _ _ (Nat.le_max_left _ _)
  have grown : 1 ≤ max 1 (asMillis initialDelay) * max 1 policy.multiplier.toNat ^ rounds :=
    Nat.mul_pos (Nat.le_max_left _ _) power
  rw [grownNanos, none_whole]
  omega

theorem initial_le_multiplied :
    initialDelay.nanos ≤
        max 1 (asMillis initialDelay) * max 1 policy.multiplier.toNat * 10 ^ 6 ↔
      10 ^ 6 ∣ initialDelay.nanos ∨ initialDelay.nanos < 10 ^ 6 ∨
        2 ≤ policy.multiplier.toNat := by
  rw [asMillis]
  constructor
  · intro reached
    by_contra short
    obtain ⟨broken, long, unit⟩ : ¬ 10 ^ 6 ∣ initialDelay.nanos ∧
        ¬ initialDelay.nanos < 10 ^ 6 ∧ ¬ 2 ≤ policy.multiplier.toNat := by
      simpa only [not_or] using short
    have one : max 1 policy.multiplier.toNat = 1 := by
      omega
    rw [one, Nat.mul_one] at reached
    omega
  · have kept : max 1 (initialDelay.nanos / 10 ^ 6) ≤
        max 1 (initialDelay.nanos / 10 ^ 6) * max 1 policy.multiplier.toNat :=
      Nat.le_mul_of_pos_right _ (Nat.le_max_left _ _)
    rintro (whole | small | doubled)
    · omega
    · omega
    · have twice : max 1 (initialDelay.nanos / 10 ^ 6) * 2 ≤
          max 1 (initialDelay.nanos / 10 ^ 6) * max 1 policy.multiplier.toNat :=
        Nat.mul_le_mul_left _ (Nat.le_trans doubled (Nat.le_max_right _ _))
      omega

/-- The second delay is not shorter than the first one exactly when whole milliseconds reach it. -/
theorem initial_le_grownNanos_one :
    initialDelay.nanos ≤ policy.grownNanos initialDelay 1 ↔
      initialDelay.nanos ≤ max 1 (asMillis (policy.cap initialDelay)) * 10 ^ 6 ∧
      initialDelay.nanos ≤ (2 ^ 64 - 1) * 10 ^ 6 ∧
      (10 ^ 6 ∣ initialDelay.nanos ∨ initialDelay.nanos < 10 ^ 6 ∨
        2 ≤ policy.multiplier.toNat) := by
  rw [grownNanos, Nat.pow_one, ← Nat.mul_min_mul_right, ← Nat.mul_min_mul_right, Nat.le_min,
    Nat.le_min, initial_le_multiplied]
  exact and_left_comm

theorem cap_millis_of_room (room : 10 ^ 6 ≤ (policy.cap initialDelay).nanos) :
    max 1 (asMillis (policy.cap initialDelay)) = asMillis (policy.cap initialDelay) := by
  rw [asMillis]
  omega

theorem delaysRise_of_initialFits (given : policy.initialDelay = some initialDelay)
    (fits : policy.InitialFits initialDelay) : policy.DelaysRise initialDelay := by
  obtain ⟨within, growing⟩ := fits
  cases strategy : policy.strategy with
  | fixed =>
      have constant (attempt : UInt32) : policy.delayForAttempt attempt = some initialDelay := by
        by_cases initial : attempt ≤ 1
        · exact delayForAttempt_initial given initial
        · rw [delayForAttempt_fixed given strategy initial, shorter, Nat.min_eq_left within]
      exact ⟨fun _ => initialDelay, constant, fun _ => within, fun _ _ _ => Nat.le_refl _⟩
  | exponential =>
      obtain ⟨room, whole, bounded, kept⟩ := growing strategy
      have second : initialDelay.nanos ≤ policy.grownNanos initialDelay 1 := by
        rw [initial_le_grownNanos_one, cap_millis_of_room room]
        exact ⟨whole, bounded, kept⟩
      refine ⟨fun attempt => if attempt ≤ 1 then initialDelay
        else ⟨policy.grownNanos initialDelay (attempt.toNat - 1)⟩, ?_, ?_, ?_⟩
      · intro attempt
        by_cases initial : attempt ≤ 1
        · simp only [if_pos initial]
          exact delayForAttempt_initial given initial
        · simp only [if_neg initial]
          exact delayForAttempt_exponential given strategy initial
      · intro attempt
        by_cases initial : attempt ≤ 1
        · simp only [if_pos initial]
          exact within
        · simp only [if_neg initial]
          exact grownNanos_le_cap room _
      · intro first later ordered
        rw [UInt32.le_iff_toNat_le] at ordered
        by_cases initial : first ≤ 1
        · simp only [if_pos initial]
          split
          · exact Nat.le_refl _
          · rename_i beyond
            rw [UInt32.le_iff_toNat_le] at beyond
            have one : (1 : UInt32).toNat = 1 := rfl
            exact Nat.le_trans second (policy.grownNanos_mono initialDelay (by omega))
        · have beyond : ¬ later ≤ 1 := fun early =>
            initial (UInt32.le_trans (UInt32.le_iff_toNat_le.mpr ordered) early)
          simp only [if_neg initial, if_neg beyond]
          exact policy.grownNanos_mono initialDelay (by omega)

/-- The delays are given for every attempt, keep to the cap and never shrink exactly when the
initial delay fits. -/
theorem delaysRise_iff (given : policy.initialDelay = some initialDelay) :
    policy.DelaysRise initialDelay ↔ policy.InitialFits initialDelay := by
  refine ⟨fun rises => ?_, delaysRise_of_initialFits given⟩
  obtain ⟨delay, every, capped, rising⟩ := rises
  have first : delay 1 = initialDelay :=
    Option.some.inj ((every 1).symm.trans (delayForAttempt_initial given (UInt32.le_refl 1)))
  refine ⟨?_, fun exponential => ?_⟩
  · have below := capped 1
    rwa [first] at below
  · have second : delay 2 = ⟨policy.grownNanos initialDelay 1⟩ :=
      Option.some.inj ((every 2).symm.trans
        (delayForAttempt_exponential given exponential (by decide)))
    have room : 10 ^ 6 ≤ (policy.cap initialDelay).nanos := by
      by_contra small
      have above := cap_lt_grownNanos (Nat.lt_of_not_le small) 1
      have below := capped 2
      rw [second] at below
      exact Nat.lt_irrefl _ (Nat.lt_of_lt_of_le above below)
    have grown : initialDelay.nanos ≤ policy.grownNanos initialDelay 1 := by
      have ordered := rising 1 2 (by decide)
      rwa [first, second] at ordered
    rw [initial_le_grownNanos_one, cap_millis_of_room room] at grown
    exact ⟨room, grown⟩

/-- Retries that double a delay of 100 milliseconds up to 500 of them. -/
def doubledPolicy : ModbusReconnectPolicy :=
  { enabled := true
    maxAttempts := 3
    retryWrites := false
    initialDelay := some ⟨100 * 10 ^ 6⟩
    maxDelay := some ⟨500 * 10 ^ 6⟩
    strategy := .exponential
    multiplier := 2 }

theorem doubledPolicy_delaysRise : doubledPolicy.DelaysRise ⟨100 * 10 ^ 6⟩ :=
  (delaysRise_iff rfl).mpr ⟨by decide, fun _ => by decide⟩

/-- The first retry waits for the initial delay although the maximum is shorter. -/
theorem uncappedPolicy_not_delaysRise :
    ¬ DelaysRise { doubledPolicy with maxDelay := some ⟨50 * 10 ^ 6⟩ } ⟨100 * 10 ^ 6⟩ := by
  rintro ⟨delay, every, capped, _⟩
  have first : delay 1 = ⟨100 * 10 ^ 6⟩ := Option.some.inj (every 1).symm
  have above := capped 1
  rw [first] at above
  exact absurd above (by decide)

end ModbusReconnectPolicy
end Ferredge
