import Ferredge.Mqtt.DriverStep
import Ferredge.Window

/-!
# The recovery queue over time

Requests are put into the recovery queue one by one and taken out all at once.  In between the queue
is a window of the latest requests that were accepted.
-/

namespace Ferredge
namespace Mqtt

open Transition

/-- What happens to the recovery queue. -/
inductive RecoveryOperation where
  | enqueue (request : QueuedRequest)
  | drain
  deriving DecidableEq

/-- The queue, and the requests accepted since it was drained. -/
structure RecoveryState where
  queue : List QueuedRequest
  accepted : List QueuedRequest
  deriving DecidableEq

/-- The effect of one operation. -/
def RecoveryState.apply (reconnect : BrokerReconnectConfig) (state : RecoveryState) :
    RecoveryOperation → RecoveryState
  | .enqueue request =>
      match enqueueRecoveryRequest reconnect request state.queue with
      | .ok queue => { queue, accepted := state.accepted ++ [request] }
      | .error _ => state
  | .drain => { queue := [], accepted := [] }

/-- The state after a sequence of operations on a new driver. -/
def recoveryState (reconnect : BrokerReconnectConfig) (operations : List RecoveryOperation) :
    RecoveryState :=
  operations.foldl (RecoveryState.apply reconnect) { queue := [], accepted := [] }

/-- The queue holds the latest accepted requests, as many as its configuration allows. -/
structure RecoveryState.Lawful (reconnect : BrokerReconnectConfig) (state : RecoveryState) :
    Prop where
  bounded : state.queue.length ≤ reconnect.maxQueuedRequests.toNat
  latest : state.queue = state.accepted.rtake reconnect.maxQueuedRequests.toNat

variable {reconnect : BrokerReconnectConfig}

theorem recoveryState_snoc (operations : List RecoveryOperation) (operation : RecoveryOperation) :
    recoveryState reconnect (operations ++ [operation]) =
      (recoveryState reconnect operations).apply reconnect operation := by
  rw [recoveryState, List.foldl_append]
  rfl

/-- A queue that is disabled refuses every request. -/
theorem apply_of_disabled (disabled : reconnect.queueRequestsWhileDisconnected = false)
    (state : RecoveryState) (request : QueuedRequest) :
    state.apply reconnect (.enqueue request) = state := by
  simp only [RecoveryState.apply, enqueueRecoveryRequest, disabled, Bool.not_false, if_true]

/-- A queue that is enabled takes every request. -/
theorem apply_of_enabled (enabled : reconnect.queueRequestsWhileDisconnected = true)
    (state : RecoveryState) (request : QueuedRequest) :
    state.apply reconnect (.enqueue request) =
      { queue := Window.push reconnect.maxQueuedRequests.toNat state.queue request
        accepted := state.accepted ++ [request] } := by
  simp only [RecoveryState.apply, enqueueRecoveryRequest, Window.push, enabled, Bool.not_true,
    Bool.false_eq_true, if_false]
  by_cases full : reconnect.maxQueuedRequests.toNat ≤ state.queue.length
  · rw [if_pos full, if_pos full]
  · rw [if_neg full, if_neg full]

/-- The queue is a window of the accepted requests, but never one of capacity zero. -/
theorem recoveryState_queue (operations : List RecoveryOperation) :
    (recoveryState reconnect operations).queue =
      (recoveryState reconnect operations).accepted.rtake
        (max 1 reconnect.maxQueuedRequests.toNat) := by
  induction operations using List.reverseRecOn with
  | nil => exact (List.rtake_nil _).symm
  | append_singleton operations operation ih =>
      rw [recoveryState_snoc]
      cases operation with
      | drain => exact (List.rtake_nil _).symm
      | enqueue request =>
          cases enabled : reconnect.queueRequestsWhileDisconnected with
          | false =>
              rw [apply_of_disabled enabled]
              exact ih
          | true =>
              rw [apply_of_enabled enabled, ih]
              exact Window.push_rtake _ _ _

/-- Nothing has been accepted where the queue is disabled, or right after a drain. -/
theorem recoveryState_accepted_eq_nil_iff (operations : List RecoveryOperation) :
    (recoveryState reconnect operations).accepted = [] ↔
      reconnect.queueRequestsWhileDisconnected = false ∨
        ∀ request, operations.getLast? ≠ some (.enqueue request) := by
  induction operations using List.reverseRecOn with
  | nil => exact iff_of_true rfl (.inr nofun)
  | append_singleton operations operation ih =>
      rw [recoveryState_snoc, List.getLast?_concat]
      cases operation with
      | drain => exact iff_of_true rfl (.inr nofun)
      | enqueue request =>
          cases enabled : reconnect.queueRequestsWhileDisconnected with
          | false =>
              rw [apply_of_disabled enabled]
              exact iff_of_true (ih.mpr (.inl enabled)) (.inl rfl)
          | true =>
              rw [apply_of_enabled enabled]
              refine iff_of_false (List.concat_ne_nil _ _) ?_
              rintro (disabled | undrained)
              · cases disabled
              · exact undrained request rfl

/-- The queue keeps to its configuration, unless that allows no request at all and one has been
accepted since the last drain. -/
theorem recoveryState_lawful_iff (operations : List RecoveryOperation) :
    (recoveryState reconnect operations).Lawful reconnect ↔
      reconnect.queueRequestsWhileDisconnected = false ∨
        0 < reconnect.maxQueuedRequests.toNat ∨
        ∀ request, operations.getLast? ≠ some (.enqueue request) := by
  have window : (recoveryState reconnect operations).queue = _ := recoveryState_queue operations
  rw [or_left_comm, ← recoveryState_accepted_eq_nil_iff]
  constructor
  · rintro ⟨bounded, -⟩
    by_contra lost
    obtain ⟨full, accepted⟩ := not_or.mp lost
    have one : 0 < (recoveryState reconnect operations).accepted.length :=
      List.length_pos_iff.mpr accepted
    rw [window, Window.length_rtake] at bounded
    omega
  · rintro (positive | nothing)
    · rw [Nat.max_eq_right positive] at window
      refine ⟨?_, window⟩
      rw [window, Window.length_rtake]
      exact Nat.min_le_left _ _
    · rw [nothing, List.rtake_nil] at window
      refine ⟨?_, ?_⟩
      · rw [window]
        exact Nat.zero_le _
      · rw [window, nothing, List.rtake_nil]

/-- The default configuration without room for any request. -/
def roomForNone : BrokerReconnectConfig :=
  { BrokerReconnectConfig.default with maxQueuedRequests := 0 }

/-- A request is queued although there is room for none. -/
theorem roomForNone_unlawful :
    ¬(recoveryState roomForNone [.enqueue ⟨0, publishRequest "a"⟩]).Lawful roomForNone := by
  rintro ⟨bounded, -⟩
  exact absurd bounded (by decide)

/-! ## The queue of a driver -/

variable {stack : MqttStack} {config : MqttEndpointConfig}

/-- The queue of a driver is that of some sequence of operations. -/
def DriverSystem.Recovers (config : MqttEndpointConfig) (system : DriverSystem stack) : Prop :=
  ∃ operations, system.shared.recoveryQueue = (recoveryState config.reconnect operations).queue

theorem recovers_step {before after : DriverSystem stack} {label : Nat × StepLabel stack}
    (recovers : before.Recovers config) (step : SystemStep config before label after) :
    after.Recovers config := by
  obtain ⟨operations, same⟩ := recovers
  cases step with
  | spawn => exact ⟨operations, same⟩
  | task located step =>
      cases step with
      | @enqueue call =>
          refine ⟨operations ++ [.enqueue ⟨call.id, call.request⟩], ?_⟩
          rw [recoveryState_snoc]
          dsimp only [DriverShared.enqueue, RecoveryState.apply]
          rw [same]
          cases enqueueRecoveryRequest config.reconnect ⟨call.id, call.request⟩
            (recoveryState config.reconnect operations).queue <;> rfl
      | drainQueue =>
          refine ⟨operations ++ [.drain], ?_⟩
          rw [recoveryState_snoc]
          rfl
      | _ => exact ⟨operations, same⟩

/-- In every run of a driver its queue keeps to its capacity, or to one request if that is none. -/
theorem recoveryQueue_bounded {operations : List DriverOperation} {system : DriverSystem stack}
    (run : Run (SystemStep config) (fun _ _ => True) (.begin operations) system) :
    system.shared.recoveryQueue.length ≤ max 1 config.reconnect.maxQueuedRequests.toNat := by
  have recovers : system.Recovers config :=
    run.invariant (DriverSystem.Recovers config) ⟨[], rfl⟩
      fun recovers _ step => recovers_step recovers step
  obtain ⟨operations, same⟩ := recovers
  rw [same, recoveryState_queue, Window.length_rtake]
  exact Nat.min_le_left _ _

end Mqtt
end Ferredge
