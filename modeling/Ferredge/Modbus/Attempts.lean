import Ferredge.Modbus.Transport
import Ferredge.Retrying

/-!
# Attempts of a request

The driver repeats a failed exchange within a budget of attempts and waits between them.  It counts
attempts in machine arithmetic, and an overflow ends the call.
-/

namespace Ferredge

open Retrying

/-- The reconnect policy with the delays between its attempts. -/
structure ModbusReconnectPolicy extends ModbusReconnectConfig where
  initialDelay : Option Duration
  /-- The initial delay if absent. -/
  maxDelay : Option Duration
  strategy : BackoffStrategy
  multiplier : UInt32

namespace ModbusReconnectPolicy

def asMillis (delay : Duration) : Nat := delay.nanos / 10 ^ 6

def shorter (left right : Duration) : Duration := ⟨min left.nanos right.nanos⟩

/-- Multiplies a delay until it reaches its maximum. -/
def backOff (multiplier maxMillis : Nat) : Nat → Nat → Nat
  | 0, millis => millis
  | rounds + 1, millis =>
      let grown := min (millis * multiplier) (2 ^ 128 - 1)
      if maxMillis ≤ grown then maxMillis else backOff multiplier maxMillis rounds grown

/-- The delay before the given retry, counted from one. -/
def delayForAttempt (policy : ModbusReconnectPolicy) (attempt : UInt32) : Option Duration :=
  policy.initialDelay.map fun initialDelay =>
    let maxDelay := policy.maxDelay.getD initialDelay
    if attempt ≤ 1 then initialDelay
    else
      match policy.strategy with
      | .fixed => shorter initialDelay maxDelay
      | .exponential =>
          let millis := backOff (max 1 policy.multiplier.toNat) (max 1 (asMillis maxDelay))
            (attempt.toNat - 1) (max 1 (asMillis initialDelay))
          ⟨min millis (2 ^ 64 - 1) * 10 ^ 6⟩

end ModbusReconnectPolicy

/-- How a call of the driver ends. -/
inductive CallEnding where
  | returned (result : Except String Bytes)
  | overflowed
  deriving DecidableEq

/-- A call of the driver: what its attempts come to, how long it waits between them, how it ends,
and what it leaves behind. -/
structure DriverCall (σ : Type) where
  outcomes : List (Except String Bytes)
  delays : List Duration
  ending : CallEnding
  world : σ

namespace DriverCall

variable {σ : Type}

/-- A call that ends after its first attempt. -/
def ended (outcome : Except String Bytes) (world : σ) (ending : CallEnding) : DriverCall σ :=
  { outcomes := [outcome], delays := [], ending, world }

/-- Puts a failed attempt and the delay after it before the rest of a call. -/
def after (error : String) (delay : Option Duration) (call : DriverCall σ) : DriverCall σ :=
  { call with outcomes := .error error :: call.outcomes, delays := delay.toList ++ call.delays }

end DriverCall

namespace ModbusDriver

open Modbus DriverCall

variable {σ : Type}

/-- Addition that reports an overflow. -/
def checkedAdd (left right : UInt32) : Option UInt32 :=
  if left.toNat + right.toNat < 2 ^ 32 then some (left + right) else none

/-- The attempts from the given one on. -/
def attemptsFrom (policy : ModbusReconnectPolicy) (maxAttempts : UInt32)
    (execute : σ → Except String Bytes × σ) :
    Nat → UInt32 → Option String → σ → DriverCall σ
  | 0, _, lastError, world =>
      { outcomes := []
        delays := []
        ending := .returned (.error (lastError.getD "Modbus execute failed"))
        world }
  | remaining + 1, attempt, _, world =>
      match execute world with
      | (.ok frame, world) => ended (.ok frame) world (.returned (.ok frame))
      | (.error error, world) =>
          match checkedAdd attempt 1 with
          | none => ended (.error error) world .overflowed
          | some next =>
              if maxAttempts ≤ next || !isRetryableTransportError error then
                ended (.error error) world (.returned (.error error))
              else
                after error (policy.delayForAttempt next)
                  (attemptsFrom policy maxAttempts execute remaining next (some error) world)

/-- The exchange of a driver with its endpoint over any transport.  Without the lock of the session
nothing is attempted; the mutexes of the supported runtimes always come to be locked. -/
def executeOnEndpoint (policy : ModbusReconnectPolicy) (isWrite locked : Bool)
    (execute : σ → Except String Bytes × σ) (world : σ) : DriverCall σ :=
  let maxAttempts := UInt32.ofNat (requestAttemptBudget policy.toModbusReconnectConfig isWrite)
  if locked then attemptsFrom policy maxAttempts execute maxAttempts.toNat 0 none world
  else
    { outcomes := []
      delays := []
      ending := .returned (.error "failed to lock Modbus persistent session")
      world }

/-- Attempts keep to the policy: their number, when they stop, and what is returned. -/
structure KeepsToPolicy (policy : ModbusReconnectPolicy) (isWrite : Bool)
    (execute : σ → Except String Bytes × σ) (world : σ) (call : DriverCall σ) : Prop where
  made : successive execute call.outcomes.length world = (call.outcomes, call.world)
  once : 1 ≤ call.outcomes.length
  bounded : call.outcomes.length ≤ policy.maxAttempts.toNat + 1
  disabled : policy.enabled = false → call.outcomes.length = 1
  write : isWrite = true → policy.retryWrites = false → call.outcomes.length = 1
  /-- A write that is not retried is not sent again by a transport that sends a request once. -/
  writeSent : isWrite = true → policy.retryWrites = false → ∀ sends : σ → Nat,
    (∀ world, sends (execute world).2 ≤ sends world + 1) → sends call.world ≤ sends world + 1
  stops : ∃ last, call.ending = .returned last ∧
    StopsInTime isRetryableTransportError
      (requestAttemptBudget policy.toModbusReconnectConfig isWrite) call.outcomes last

variable {policy : ModbusReconnectPolicy} {execute : σ → Except String Bytes × σ}

/-- A call makes the attempts it is allowed and returns what the last of them comes to. -/
def Follows (execute : σ → Except String Bytes × σ) (budget : Nat) (world : σ)
    (call : DriverCall σ) : Prop :=
  Attempted execute isRetryableTransportError budget world call.outcomes call.world ∧
    ∃ last, call.ending = .returned last ∧ call.outcomes.getLast? = some last

theorem follows_ended {budget : Nat} {world after : σ} {outcome : Except String Bytes}
    (made : Attempted execute isRetryableTransportError budget world [outcome] after) :
    Follows execute budget world (ended outcome after (.returned outcome)) :=
  ⟨made, outcome, rfl, rfl⟩

theorem Follows.after {budget : Nat} {world next : σ} {error : String} {call : DriverCall σ}
    (failed : execute world = (.error error, next))
    (passing : isRetryableTransportError error = true)
    (rest : Follows execute (budget + 1) next call) (delay : Option Duration) :
    Follows execute (budget + 2) world (DriverCall.after error delay call) := by
  obtain ⟨made, last, returned, ends⟩ := rest
  refine ⟨.again failed passing made, last, returned, ?_⟩
  rw [DriverCall.after, List.getLast?_cons, ends]
  rfl

/-- Counting up to a machine number does not overflow. -/
theorem checkedAdd_of_lt {attempt maxAttempts : UInt32}
    (less : attempt.toNat < maxAttempts.toNat) :
    ∃ next, checkedAdd attempt 1 = some next ∧ next.toNat = attempt.toNat + 1 := by
  have limit : maxAttempts.toNat < 2 ^ 32 := maxAttempts.toNat_lt
  have one : (1 : UInt32).toNat = 1 := rfl
  have fits : attempt.toNat + (1 : UInt32).toNat < 2 ^ 32 := by omega
  refine ⟨attempt + 1, if_pos fits, ?_⟩
  rw [UInt32.toNat_add, Nat.mod_eq_of_lt fits, one]

/-- The attempts made so far and those that remain add up to the budget. -/
theorem attemptsFrom_follows {maxAttempts attempt : UInt32} {remaining : Nat}
    (total : attempt.toNat + (remaining + 1) = maxAttempts.toNat) (lastError : Option String)
    (world : σ) :
    Follows execute (remaining + 1) world
      (attemptsFrom policy maxAttempts execute (remaining + 1) attempt lastError world) := by
  induction remaining generalizing attempt lastError world with
  | zero =>
      have less : attempt.toNat < maxAttempts.toNat := by omega
      obtain ⟨next, added, count⟩ := checkedAdd_of_lt less
      have spent : maxAttempts ≤ next := UInt32.le_iff_toNat_le.mpr (by omega)
      rw [attemptsFrom]
      rcases outcome : execute world with ⟨error | frame, after⟩
      · simp only [added, spent, decide_true, Bool.true_or, if_true]
        exact follows_ended (.exhausted outcome)
      · exact follows_ended (.succeeded outcome)
  | succ remaining ih =>
      have less : attempt.toNat < maxAttempts.toNat := by omega
      obtain ⟨next, added, count⟩ := checkedAdd_of_lt less
      have left : ¬ maxAttempts ≤ next := fun spent => by
        have := UInt32.le_iff_toNat_le.mp spent
        omega
      rw [attemptsFrom]
      rcases outcome : execute world with ⟨error | frame, after⟩
      · cases passing : isRetryableTransportError error with
        | true =>
            simp only [added, left, passing, decide_false, Bool.not_true, Bool.or_self,
              Bool.false_eq_true, if_false]
            exact (ih (by omega) (some error) after).after outcome passing _
        | false =>
            simp only [added, passing, Bool.not_false, Bool.or_true, if_true]
            exact follows_ended (.failed outcome passing)
      · exact follows_ended (.succeeded outcome)

/-- The budget is a machine number, at least one and at most one more than the retries allowed. -/
theorem requestAttemptBudget_bounds (reconnect : ModbusReconnectConfig) (isWrite : Bool) :
    1 ≤ requestAttemptBudget reconnect isWrite ∧
      requestAttemptBudget reconnect isWrite ≤ reconnect.maxAttempts.toNat + 1 ∧
      requestAttemptBudget reconnect isWrite < 2 ^ 32 := by
  unfold requestAttemptBudget
  split <;> omega

/-- A driver that has the lock makes the attempts of its budget. -/
theorem executeOnEndpoint_follows (policy : ModbusReconnectPolicy) (isWrite : Bool)
    (execute : σ → Except String Bytes × σ) (world : σ) :
    Follows execute (requestAttemptBudget policy.toModbusReconnectConfig isWrite) world
      (executeOnEndpoint policy isWrite true execute world) := by
  obtain ⟨least, -, fits⟩ := requestAttemptBudget_bounds policy.toModbusReconnectConfig isWrite
  obtain ⟨remaining, budget⟩ := Nat.exists_eq_add_of_le' least
  have machine : (UInt32.ofNat (remaining + 1)).toNat = remaining + 1 :=
    UInt32.toNat_ofNat_of_lt' (budget ▸ fits)
  have total : (0 : UInt32).toNat + (remaining + 1) = (UInt32.ofNat (remaining + 1)).toNat := by
    rw [machine, UInt32.toNat_zero, Nat.zero_add]
  rw [executeOnEndpoint, if_pos rfl, budget, machine]
  exact attemptsFrom_follows total none world

/-- Every call of the driver keeps to the policy of its endpoint. -/
theorem executeOnEndpoint_keepsToPolicy (policy : ModbusReconnectPolicy) (isWrite : Bool)
    (execute : σ → Except String Bytes × σ) (world : σ) :
    KeepsToPolicy policy isWrite execute world
      (executeOnEndpoint policy isWrite true execute world) := by
  obtain ⟨-, most, -⟩ := requestAttemptBudget_bounds policy.toModbusReconnectConfig isWrite
  obtain ⟨made, last, returned, ends⟩ := executeOnEndpoint_follows policy isWrite execute world
  generalize executeOnEndpoint policy isWrite true execute world = call at made returned ends ⊢
  have once := made.length_pos
  have bounded := made.length_le
  have single (alone : requestAttemptBudget policy.toModbusReconnectConfig isWrite = 1) :
      call.outcomes.length = 1 := by omega
  have alone (write : isWrite = true) (never : policy.retryWrites = false) :
      requestAttemptBudget policy.toModbusReconnectConfig isWrite = 1 := by
    simp [requestAttemptBudget, write, never]
  obtain ⟨other, ends', stops⟩ := made.stopsInTime
  obtain rfl := Option.some.inj (ends.symm.trans ends')
  refine ⟨made.successive_eq, once, Nat.le_trans bounded most, fun disabled => single ?_,
    fun write never => single (alone write never), fun write never sends sendsOnce => ?_,
    last, returned, stops⟩
  · simp [requestAttemptBudget, disabled]
  · have sent := made.count_le sends sendsOnce
    rwa [single (alone write never)] at sent

end ModbusDriver
end Ferredge
