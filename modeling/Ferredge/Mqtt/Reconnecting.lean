import Ferredge.History
import Ferredge.Mqtt.ListenerLoop

/-!
# Reconnect attempts of the MQTT listener

Both reconnect loops count their attempts in one counter of the task.  It is zero whenever a loop is
entered, and inside a loop it is the number of the attempts since the last recovery.
-/

namespace Ferredge
namespace Mqtt

open History Transition

variable {σ : Type}

/-! ## What the trace says -/

/-- The attempts after the last recovery. -/
def attemptsSinceRecovery (trace : List LoopTrace) : Nat :=
  trace.foldl
    (fun attempts entry =>
      match entry with
      | .attempted => attempts + 1
      | .recovered => 0
      | .waited _ | .failed _ => attempts)
    0

/-- The error of the last failure. -/
def lastFailure (trace : List LoopTrace) : Option String :=
  trace.foldl
    (fun last entry =>
      match entry with
      | .failed error => some error
      | .waited _ | .attempted | .recovered => last)
    none

section Trace

variable (trace : List LoopTrace)

@[simp]
theorem attemptsSinceRecovery_attempted :
    attemptsSinceRecovery (trace ++ [.attempted]) = attemptsSinceRecovery trace + 1 :=
  List.foldl_concat _ _ _ _

@[simp]
theorem attemptsSinceRecovery_recovered : attemptsSinceRecovery (trace ++ [.recovered]) = 0 :=
  List.foldl_concat _ _ _ _

@[simp]
theorem attemptsSinceRecovery_waited (delayMs : UInt64) :
    attemptsSinceRecovery (trace ++ [.waited delayMs]) = attemptsSinceRecovery trace :=
  List.foldl_concat _ _ _ _

@[simp]
theorem attemptsSinceRecovery_failed (error : String) :
    attemptsSinceRecovery (trace ++ [.failed error]) = attemptsSinceRecovery trace :=
  List.foldl_concat _ _ _ _

@[simp]
theorem lastFailure_failed (error : String) :
    lastFailure (trace ++ [.failed error]) = some error :=
  List.foldl_concat _ _ _ _

@[simp]
theorem lastFailure_waited (delayMs : UInt64) :
    lastFailure (trace ++ [.waited delayMs]) = lastFailure trace :=
  List.foldl_concat _ _ _ _

end Trace

/-! ## The counter -/

/-- The counter after so many attempts; it stays at its largest value. -/
def attemptNumber (attempts : Nat) : UInt32 :=
  UInt32.ofNat (min attempts 4294967295)

theorem toNat_attemptNumber (attempts : Nat) :
    (attemptNumber attempts).toNat = min attempts 4294967295 := by
  rw [attemptNumber, UInt32.toNat_ofNat']
  omega

theorem saturatingSucc_attemptNumber (attempts : Nat) :
    saturatingSucc (attemptNumber attempts) = attemptNumber (attempts + 1) := by
  apply UInt32.toNat_inj.mp
  have current := toNat_attemptNumber attempts
  rw [saturatingSucc, toNat_attemptNumber]
  split
  · rename_i largest
    rw [largest] at current ⊢
    change 4294967295 = _ at current
    change 4294967295 = _
    omega
  · rename_i smaller
    have below : (attemptNumber attempts).toNat ≠ 4294967295 :=
      fun equal => smaller (UInt32.toNat_inj.mp equal)
    rw [UInt32.toNat_add, current]
    change (_ + 1) % 4294967296 = _
    omega

theorem saturatingSucc_ne_zero (attempt : UInt32) : saturatingSucc attempt ≠ 0 := by
  intro zero
  have value : (saturatingSucc attempt).toNat = 0 := congrArg UInt32.toNat zero
  rw [saturatingSucc] at value
  split at value
  · rename_i largest
    rw [largest] at value
    cases value
  · rename_i smaller
    have below : attempt.toNat ≠ 4294967295 := fun equal => smaller (UInt32.toNat_inj.mp equal)
    have bound := attempt.toNat_lt
    rw [UInt32.toNat_add] at value
    change (_ + 1) % 4294967296 = 0 at value
    omega

theorem attemptNumber_eq_zero {attempts : Nat} (zero : attemptNumber attempts = 0) :
    attempts = 0 := by
  have value := congrArg UInt32.toNat zero
  rw [toNat_attemptNumber] at value
  change _ = 0 at value
  omega

variable (config : BrokerReconnectConfig)

/-- An attempt is permitted by its number, and its delay has just passed. -/
def Due (before : List LoopTrace) (entry : LoopTrace) : Prop :=
  entry = .attempted →
    config.allowsAttempt (attemptNumber (attemptsSinceRecovery before + 1)) = true ∧
      ∃ earlier, before = earlier ++
        [.waited (config.delayMsForAttempt (attemptNumber (attemptsSinceRecovery before + 1)))]

/-- What the counter is at each point of the task. -/
def Counted (state : LoopState σ) : LoopPoint σ → Prop
  | .loopTest | .take | .waitForSession | .drain _ | .poll _ | .restore _ _ | .forward _
  | .clear _ _ | .record _ .retests | .announce _ .retests | .clearRunning .retests =>
      state.reconnectAttempt = 0 ∧ attemptsSinceRecovery state.trace = 0
  | .reconnectTest _ _ | .connecting _ | .reconnectTake _ | .replaying _ _ | .replayFailed _ _ =>
      state.reconnectAttempt = attemptNumber (attemptsSinceRecovery state.trace)
  | .reconnectDelay _ _ =>
      state.reconnectAttempt = attemptNumber (attemptsSinceRecovery state.trace + 1) ∧
        config.allowsAttempt state.reconnectAttempt = true
  | .reconnectSlept _ _ =>
      (state.reconnectAttempt = attemptNumber (attemptsSinceRecovery state.trace + 1) ∧
        config.allowsAttempt state.reconnectAttempt = true) ∧
        ∃ earlier, state.trace =
          earlier ++ [.waited (config.delayMsForAttempt state.reconnectAttempt)]
  | .recovered _ _ _ | .forwardRecovered _ | .reset => attemptsSinceRecovery state.trace = 0
  | .reconnectEnded _ _ =>
      state.reconnectAttempt = 0 → attemptsSinceRecovery state.trace = 0
  | _ => True

/-- The error that a reconnect loop holds is that of the last failure. -/
def Blamed (state : LoopState σ) : LoopPoint σ → Prop
  | .clear _ error | .reconnectTest _ error | .reconnectDelay _ error | .reconnectSlept _ error
  | .replayFailed _ error | .reconnectEnded _ error | .endedTest error =>
      lastFailure state.trace = some error
  | _ => True

structure Paced (loop : ListenerLoop σ) : Prop where
  due : Always (Due config) loop.state.trace
  counted : Counted config loop.state loop.point
  blamed : Blamed loop.state loop.point

variable {config} {loop after : ListenerLoop σ} {label : LoopLabel σ}

theorem Counted.effect {state : LoopState σ} {point : LoopPoint σ} (task : OtherTask σ)
    (counted : Counted config state point) : Counted config (task.effect state) point := by
  cases task <;> exact counted

theorem Blamed.effect {state : LoopState σ} {point : LoopPoint σ} (task : OtherTask σ)
    (blamed : Blamed state point) : Blamed (task.effect state) point := by
  cases task <;> exact blamed

theorem trace_effect (state : LoopState σ) (task : OtherTask σ) :
    (task.effect state).trace = state.trace := by
  cases task <;> rfl

/-- An attempt starts only after its delay; nothing else in the trace is bound to a time. -/
theorem Paced.due_step (paced : Paced config loop) (step : LoopStep config loop label after) :
    Always (Due config) after.state.trace := by
  cases step with
  | other task =>
      rw [trace_effect]
      exact paced.due
  | reconnect running =>
      refine always_snoc.mpr ⟨paced.due, fun _ => ?_⟩
      obtain ⟨⟨counter, allowed⟩, waited⟩ := paced.counted
      rw [← counter]
      exact ⟨allowed, waited⟩
  | waitForSession | commandFailed | pollFailed | reconnectDelay | connectFailed
  | reconnectUnlocked | reconnectTakeNothing | replayFailed | replayed =>
      exact always_snoc.mpr ⟨paced.due, nofun⟩
  | _ => exact paced.due

theorem Paced.counted_step (paced : Paced config loop) (step : LoopStep config loop label after) :
    Counted config after.state after.point := by
  have counted := paced.counted
  cases step with
  | other task => exact counted.effect task
  | waitForSession => exact ⟨counted.1, (attemptsSinceRecovery_waited _ _).trans counted.2⟩
  | commandFailed | pollFailed =>
      exact ⟨counted.1, (attemptsSinceRecovery_failed _ _).trans counted.2⟩
  | poll => exact ⟨rfl, counted.2⟩
  | clear =>
      obtain ⟨unused, none_made⟩ := counted
      exact unused.trans (congrArg attemptNumber none_made).symm
  -- The counter is only ever zero in a loop that has made no attempt.
  | reconnectStopped => exact fun zero => attemptNumber_eq_zero (counted.symm.trans zero)
  | reconnectRefused => exact fun zero => absurd zero (saturatingSucc_ne_zero _)
  | sleptThroughStop =>
      obtain ⟨⟨counter, -⟩, -⟩ := counted
      exact fun zero =>
        absurd (attemptNumber_eq_zero (counter.symm.trans zero)) (Nat.succ_ne_zero _)
  | reconnectAllowed _ allowed =>
      exact ⟨(congrArg saturatingSucc counted).trans (saturatingSucc_attemptNumber _), allowed⟩
  | reconnectDelay =>
      obtain ⟨counter, allowed⟩ := counted
      refine ⟨⟨counter.trans ?_, allowed⟩, _, rfl⟩
      exact congrArg (attemptNumber <| · + 1) (attemptsSinceRecovery_waited _ _).symm
  | reconnect =>
      obtain ⟨⟨counter, -⟩, -⟩ := counted
      exact counter.trans (congrArg attemptNumber (attemptsSinceRecovery_attempted _).symm)
  | connectFailed | reconnectUnlocked | reconnectTakeNothing | replayFailed =>
      exact counted.trans (congrArg attemptNumber (attemptsSinceRecovery_failed _ _).symm)
  | replayed => exact attemptsSinceRecovery_recovered _
  | @recovered _ path => cases path <;> exact counted
  | reset => exact ⟨rfl, counted⟩
  | listenAgain unused => exact ⟨unused, counted unused⟩
  | @announce _ _ exit => cases exit <;> trivial
  | @clearRunning _ exit => cases exit <;> trivial
  | @record _ _ exit => cases exit <;> trivial
  | _ => trivial

theorem Paced.blamed_step (paced : Paced config loop) (step : LoopStep config loop label after) :
    Blamed after.state after.point := by
  have blamed := paced.blamed
  cases step with
  | other task => exact blamed.effect task
  | commandFailed | pollFailed | connectFailed | reconnectUnlocked | reconnectTakeNothing
  | replayFailed => exact lastFailure_failed _ _
  | reconnectDelay => exact (lastFailure_waited _ _).trans blamed
  | @recovered _ path => cases path <;> trivial
  | @announce _ _ exit => cases exit <;> trivial
  | @clearRunning _ exit => cases exit <;> trivial
  | _ => trivial

theorem Paced.step (paced : Paced config loop) (step : LoopStep config loop label after) :
    Paced config after where
  due := paced.due_step step
  counted := paced.counted_step step
  blamed := paced.blamed_step step

/-- In every run of the task, whatever other tasks do. -/
theorem paced_of_run {session : Option σ} {running : Bool} {error : Option String}
    {sender : Option Nat}
    (run : Run (LoopStep config) (fun _ _ => True) (.begin session running error sender) loop) :
    Paced config loop :=
  run.invariant (Paced config) ⟨always_nil, ⟨rfl, rfl⟩, trivial⟩ fun paced _ step => paced.step step

/-! ## How many attempts there are -/

/-- The number of an attempt that is permitted does not exceed the maximum, if the counter can. -/
theorem le_of_allowsAttempt {attempts : Nat} {maxAttempts : UInt32}
    (allowed : config.allowsAttempt (attemptNumber attempts) = true)
    (limited : config.maxAttempts = some maxAttempts) :
    min attempts 4294967295 ≤ maxAttempts.toNat := by
  rw [BrokerReconnectConfig.allowsAttempt, limited, Bool.and_eq_true] at allowed
  have within : attemptNumber attempts ≤ maxAttempts := of_decide_eq_true allowed.2
  rw [UInt32.le_iff_toNat_le, toNat_attemptNumber] at within
  exact within

theorem enabled_of_allowsAttempt {attempt : UInt32}
    (allowed : config.allowsAttempt attempt = true) : config.enabled = true :=
  (Bool.and_eq_true_iff.mp allowed).1

/-- The last attempt since a recovery was permitted. -/
theorem allowsAttempt_of_due {trace : List LoopTrace} (due : Always (Due config) trace) :
    attemptsSinceRecovery trace = 0 ∨
      config.allowsAttempt (attemptNumber (attemptsSinceRecovery trace)) = true := by
  refine due.invariant (fun trace => attemptsSinceRecovery trace = 0 ∨
    config.allowsAttempt (attemptNumber (attemptsSinceRecovery trace)) = true) (.inl rfl) ?_
  intro before entry permitted due
  cases entry with
  | waited delayMs =>
      rw [attemptsSinceRecovery_waited]
      exact permitted
  | attempted =>
      rw [attemptsSinceRecovery_attempted]
      exact .inr (due rfl).1
  | recovered => exact .inl (attemptsSinceRecovery_recovered before)
  | failed error =>
      rw [attemptsSinceRecovery_failed]
      exact permitted

variable (config) in
/-- No further attempt is permitted, and the task is about to find that out. -/
def ListenerLoop.Exhausted (error : String) (loop : ListenerLoop σ) : Prop :=
  (∃ path, loop.point = .reconnectTest path error) ∧ loop.state.listenerRunning = true ∧
    config.allowsAttempt (saturatingSucc loop.state.reconnectAttempt) = false

variable {error : String}

/-- The attempts are exhausted at once without reconnection, and after the maximum with it. -/
theorem attempts_of_exhausted (paced : Paced config loop)
    (exhausted : loop.Exhausted config error) :
    config.enabled = false ∧ attemptsSinceRecovery loop.state.trace = 0 ∨
      ∃ maxAttempts, config.maxAttempts = some maxAttempts ∧
        attemptsSinceRecovery loop.state.trace = maxAttempts.toNat := by
  obtain ⟨⟨path, at_test⟩, -, refused⟩ := exhausted
  have counted := paced.counted
  rw [at_test] at counted
  have counter : loop.state.reconnectAttempt =
      attemptNumber (attemptsSinceRecovery loop.state.trace) := counted
  rw [counter, saturatingSucc_attemptNumber] at refused
  have permitted := allowsAttempt_of_due paced.due
  cases enabled : config.enabled with
  | false =>
      refine .inl ⟨rfl, permitted.resolve_right fun allowed => ?_⟩
      rw [enabled_of_allowsAttempt allowed] at enabled
      cases enabled
  | true =>
      refine .inr ?_
      cases limit : config.maxAttempts with
      | none =>
          rw [BrokerReconnectConfig.allowsAttempt, enabled, limit] at refused
          cases refused
      | some maxAttempts =>
          refine ⟨maxAttempts, rfl, ?_⟩
          rw [BrokerReconnectConfig.allowsAttempt, enabled, limit] at refused
          have beyond := of_decide_eq_false refused
          rw [UInt32.le_iff_toNat_le, toNat_attemptNumber] at beyond
          rcases permitted with unused | allowed
          · omega
          · have within := le_of_allowsAttempt allowed limit
            omega

/-! ## Leaving after the last attempt -/

/-- Locks are acquired, and other tasks change at most the session. -/
def LeftAlone (_ : ListenerLoop σ) : LoopLabel σ → Prop
  | .lock acquired => acquired = true
  | .other task => ∃ session, task = .setSession session
  | _ => True

/-- The listener does not run, takes no commands and reports the error. -/
structure LoopState.FailedWith (error : String) (state : LoopState σ) : Prop where
  listenerRunning : state.listenerRunning = false
  listenerCommandSender : state.listenerCommandSender = none
  listenerError : state.listenerError = some error
  announced : state.broadcasts.getLast? = some (.failed error)

variable (config) in
/-- The points between the last attempt and the end of the task. -/
def Leaving (error : String) (state : LoopState σ) : LoopPoint σ → Prop
  | .reconnectTest _ held =>
      held = error ∧ state.listenerRunning = true ∧
        config.allowsAttempt (saturatingSucc state.reconnectAttempt) = false
  | .reconnectEnded _ held =>
      held = error ∧ state.listenerRunning = true ∧ state.reconnectAttempt ≠ 0
  | .endedTest held => held = error ∧ state.listenerRunning = true
  | .record held .stops => held = error
  | .announce held .stops => held = error ∧ state.listenerError = some error
  | .clearRunning .stops | .exitSender => state.listenerError = some error
  | .exitRunning => state.listenerError = some error ∧ state.listenerCommandSender = none
  | .exitStatus =>
      state.listenerError = some error ∧ state.listenerCommandSender = none ∧
        state.listenerRunning = false
  | .exitAnnounce status =>
      status = .failed error ∧ state.listenerError = some error ∧
        state.listenerCommandSender = none ∧ state.listenerRunning = false
  | .finished => state.FailedWith error
  | _ => False

/-- The steps that the task has still to make. -/
def LoopPoint.remaining : LoopPoint σ → Nat
  | .reconnectTest _ _ => 10
  | .reconnectEnded _ _ => 9
  | .endedTest _ => 8
  | .record _ _ => 7
  | .announce _ _ => 6
  | .clearRunning _ => 5
  | .exitSender => 4
  | .exitRunning => 3
  | .exitStatus => 2
  | .exitAnnounce _ => 1
  | _ => 0

theorem Leaving.setSession {state : LoopState σ} {point : LoopPoint σ} (session : Option σ)
    (leaving : Leaving config error state point) :
    Leaving config error { state with session } point := by
  cases point with
  | finished =>
      obtain ⟨idle, silent, reported, announced⟩ := leaving
      exact ⟨idle, silent, reported, announced⟩
  | record held exit => cases exit <;> exact leaving
  | announce held exit => cases exit <;> exact leaving
  | clearRunning exit => cases exit <;> exact leaving
  | _ => exact leaving

theorem leaving_step (leaving : Leaving config error loop.state loop.point)
    (alone : LeftAlone loop label) (step : LoopStep config loop label after) :
    Leaving config error after.state after.point ∧
      ((∀ task, label ≠ .other task) → after.point.remaining < loop.point.remaining) := by
  cases step with
  | other task =>
      obtain ⟨session, rfl⟩ := alone
      exact ⟨leaving.setSession session, fun own => absurd rfl (own _)⟩
  | reconnectStopped stopped =>
      obtain ⟨-, running, -⟩ := leaving
      cases running.symm.trans stopped
  | reconnectAllowed running allowed =>
      obtain ⟨-, -, refused⟩ := leaving
      cases refused.symm.trans allowed
  | reconnectRefused running refused =>
      exact ⟨⟨leaving.1, running, saturatingSucc_ne_zero _⟩, fun _ => Nat.lt_succ_self _⟩
  | listenAgain unused running => exact absurd unused leaving.2.2
  | reconnectEnded used => exact ⟨⟨leaving.1, leaving.2.1⟩, fun _ => Nat.lt_succ_self _⟩
  | endedByStop stopped =>
      obtain ⟨-, running⟩ := leaving
      cases running.symm.trans stopped
  | givenUp running => exact ⟨leaving.1, fun _ => Nat.lt_succ_self _⟩
  | @record _ held exit acquired =>
      cases exit with
      | stops =>
          obtain rfl : acquired = true := alone
          exact ⟨⟨leaving, congrArg some leaving⟩, fun _ => Nat.lt_succ_self _⟩
      | leaves | retests => exact leaving.elim
  | @announce _ held exit acquired =>
      cases exit with
      | stops => exact ⟨leaving.2, fun _ => Nat.lt_succ_self _⟩
      | leaves | retests => exact leaving.elim
  | @clearRunning _ exit =>
      cases exit with
      | stops => exact ⟨leaving, fun _ => Nat.lt_succ_self _⟩
      | leaves | retests => exact leaving.elim
  | exitSender acquired =>
      obtain rfl : acquired = true := alone
      exact ⟨⟨leaving, rfl⟩, fun _ => Nat.lt_succ_self _⟩
  | exitRunning => exact ⟨⟨leaving.1, leaving.2, rfl⟩, fun _ => Nat.lt_succ_self _⟩
  | exitStatus acquired =>
      obtain rfl : acquired = true := alone
      have final := congrArg (finalStatus true) leaving.1
      exact ⟨⟨final, leaving⟩, fun _ => Nat.lt_succ_self _⟩
  | @exitAnnounce state status acquired =>
      obtain rfl : acquired = true := alone
      obtain ⟨rfl, reported, silent, idle⟩ := leaving
      exact ⟨⟨idle, silent, reported, List.getLast?_concat⟩, fun _ => Nat.lt_succ_self _⟩
  | _ => exact leaving.elim

/-- Until it has ended, the task can make a step of its own. -/
theorem leaving_progress (leaving : Leaving config error loop.state loop.point)
    (unfinished : loop.point ≠ .finished) :
    ∃ label after, LeftAlone loop label ∧ (∀ task, label ≠ .other task) ∧
      LoopStep config loop label after := by
  obtain ⟨state, point⟩ := loop
  cases point with
  | reconnectTest path held =>
      exact ⟨.internal, _, trivial, nofun, .reconnectRefused leaving.2.1 leaving.2.2⟩
  | reconnectEnded path held =>
      exact ⟨.internal, _, trivial, nofun,
        .reconnectEnded fun ⟨_, unused, _⟩ => leaving.2.2 unused⟩
  | endedTest held => exact ⟨.internal, _, trivial, nofun, .givenUp leaving.2⟩
  | record held exit => exact ⟨.lock true, _, rfl, nofun, .record true⟩
  | announce held exit => exact ⟨.lock true, _, rfl, nofun, .announce true⟩
  | clearRunning exit => exact ⟨.internal, _, trivial, nofun, .clearRunning⟩
  | exitSender => exact ⟨.lock true, _, rfl, nofun, .exitSender true⟩
  | exitRunning => exact ⟨.internal, _, trivial, nofun, .exitRunning⟩
  | exitStatus => exact ⟨.lock true, _, rfl, nofun, .exitStatus true⟩
  | exitAnnounce status => exact ⟨.lock true, _, rfl, nofun, .exitAnnounce true⟩
  | finished => exact absurd rfl unfinished
  | _ => exact leaving.elim

variable (config) in
/-- The task has ended with the error, or its next step takes it nearer to that. -/
def ListenerLoop.Leaves (error : String) (loop : ListenerLoop σ) : Prop :=
  loop.point = .finished ∧ loop.state.FailedWith error ∨
    (∃ label after, LeftAlone loop label ∧ (∀ task, label ≠ .other task) ∧
      LoopStep config loop label after) ∧
    ∀ label after, LeftAlone loop label → (∀ task, label ≠ .other task) →
      LoopStep config loop label after → after.point.remaining < loop.point.remaining

theorem leaves_of_leaving (leaving : Leaving config error loop.state loop.point) :
    loop.Leaves config error := by
  by_cases ended : loop.point = .finished
  · rw [ended] at leaving
    exact .inl ⟨ended, leaving⟩
  · exact .inr ⟨leaving_progress leaving ended, fun label after alone own step =>
      (leaving_step leaving alone step).2 own⟩

theorem leaves_of_exhausted (exhausted : loop.Exhausted config error)
    (run : Run (LoopStep config) LeftAlone loop after) : after.Leaves config error := by
  obtain ⟨⟨path, at_test⟩, running, refused⟩ := exhausted
  refine leaves_of_leaving (run.invariant
    (fun later => Leaving config error later.state later.point) ?_
    fun leaving alone step => (leaving_step leaving alone step).1)
  rw [at_test]
  exact ⟨rfl, running, refused⟩

/-! ## Every run -/

variable (config) in
/-- An attempt is preceded by the delay of its number and is one of at most `max_attempts` since the
last recovery, of none without reconnection. -/
def Permitted (before : List LoopTrace) (entry : LoopTrace) : Prop :=
  entry = .attempted →
    config.enabled = true ∧
    (∀ maxAttempts, config.maxAttempts = some maxAttempts → maxAttempts < 4294967295 →
      attemptsSinceRecovery before + 1 ≤ maxAttempts.toNat) ∧
    ∃ earlier, before = earlier ++
      [.waited (config.delayMsForAttempt (attemptNumber (attemptsSinceRecovery before + 1)))]

theorem Due.permitted {before : List LoopTrace} {entry : LoopTrace}
    (due : Due config before entry) : Permitted config before entry := by
  intro attempted
  obtain ⟨allowed, waited⟩ := due attempted
  refine ⟨enabled_of_allowsAttempt allowed, fun maxAttempts limited below => ?_, waited⟩
  have within := le_of_allowsAttempt allowed limited
  have small : maxAttempts.toNat < 4294967295 := UInt32.lt_iff_toNat_lt.mp below
  omega

/-- In every run of the listener task, each attempt to reconnect is permitted and has waited for its
delay.  When the attempts are exhausted, the task leaves with the last error, unless another task
stops, starts or clears the listener in the meantime. -/
theorem reconnects_paced {session : Option σ} {running : Bool} {found : Option String}
    {sender : Option Nat}
    (run : Run (LoopStep config) (fun _ _ => True) (.begin session running found sender) loop) :
    Always (Permitted config) loop.state.trace ∧
    ∀ error, loop.Exhausted config error →
      lastFailure loop.state.trace = some error ∧
      (config.enabled = false ∧ attemptsSinceRecovery loop.state.trace = 0 ∨
        ∃ maxAttempts, config.maxAttempts = some maxAttempts ∧
          attemptsSinceRecovery loop.state.trace = maxAttempts.toNat) ∧
      ∀ later, Run (LoopStep config) LeftAlone loop later → later.Leaves config error := by
  have paced := paced_of_run run
  refine ⟨fun before entry later split => (paced.due before entry later split).permitted, ?_⟩
  intro error exhausted
  refine ⟨?_, attempts_of_exhausted paced exhausted, fun later onward =>
    leaves_of_exhausted exhausted onward⟩
  obtain ⟨⟨path, at_test⟩, -⟩ := exhausted
  have blamed := paced.blamed
  rw [at_test] at blamed
  exact blamed

/-- One attempt is permitted. -/
def oneAttempt : BrokerReconnectConfig :=
  { BrokerReconnectConfig.default with maxAttempts := some 1 }

/-- A listener whose only attempt after a failed read has failed too. -/
def refusedLoop : ListenerLoop Unit :=
  { state :=
      { reconnectAttempt := 1
        session := none
        listenerRunning := true
        listenerError := none
        listenerCommandSender := some 0
        broadcasts := []
        trace :=
          [.failed "connection reset", .waited 250, .attempted, .failed "connection refused"] }
    point := .reconnectTest .read "connection refused" }

theorem run_refusedLoop :
    Run (LoopStep oneAttempt) (fun _ _ => True) (.begin (some ()) true none (some 0)) refusedLoop :=
  (Run.refl _)
    |>.perform .internal trivial (.listen rfl)
    |>.perform (.lock true) trivial (.take rfl)
    |>.perform .noCommand trivial .drained
    |>.perform (.read (.error "connection reset") ()) trivial .pollFailed
    |>.perform (.lock true) trivial (.clear true)
    |>.perform .internal trivial (.reconnectAllowed rfl rfl)
    |>.perform .internal trivial .reconnectDelay
    |>.perform .internal trivial (.reconnect rfl)
    |>.perform (.connected (.error "connection refused")) trivial .connectFailed

theorem exhausted_refusedLoop : refusedLoop.Exhausted oneAttempt "connection refused" :=
  ⟨⟨.read, rfl⟩, rfl, rfl⟩

theorem refusedLoop_leaves : refusedLoop.Leaves oneAttempt "connection refused" :=
  ((reconnects_paced run_refusedLoop).2 _ exhausted_refusedLoop).2.2 _ (.refl _)

/-- A listener that is stopped when its attempts are exhausted leaves without an error. -/
theorem stoppedAfterExhaustion :
    ∃ loop final : ListenerLoop Unit,
      Run (LoopStep oneAttempt) (fun _ _ => True) (.begin (some ()) true none (some 0)) loop ∧
      loop.Exhausted oneAttempt "connection refused" ∧
      Run (LoopStep oneAttempt) (fun _ _ => True) loop final ∧ final.point = .finished ∧
      final.state.listenerError = none ∧ final.state.broadcasts = [.stopped] := by
  have run : Run (LoopStep oneAttempt) (fun _ _ => True) refusedLoop _ := (Run.refl refusedLoop)
    |>.perform .internal trivial (.reconnectRefused rfl rfl)
    |>.perform (.other .stopFlag) trivial (.other .stopFlag)
    |>.perform .internal trivial (.reconnectEnded nofun)
    |>.perform .internal trivial (.endedByStop rfl)
    |>.perform (.lock true) trivial (.exitSender true)
    |>.perform .internal trivial .exitRunning
    |>.perform (.lock true) trivial (.exitStatus true)
    |>.perform (.lock true) trivial (.exitAnnounce true)
  exact ⟨refusedLoop, _, run_refusedLoop, exhausted_refusedLoop, run, rfl, rfl, rfl⟩

end Mqtt
end Ferredge
