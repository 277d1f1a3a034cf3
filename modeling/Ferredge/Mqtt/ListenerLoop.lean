import Ferredge.Core.Backoff
import Ferredge.Mqtt.DriverStep
import Ferredge.Mqtt.ListenerStatus

/-!
# The loop of the MQTT listener

The listener task from its start to its end, with both reconnect loops, the counter they share and
what the task reports.  A step takes the task from one program point to its next one; other tasks of
the driver may change what they share with it between any two of its steps.
-/

namespace Ferredge
namespace Mqtt

/-- What the task did to recover its connection: it waited, called `ensure_connected`, connected and
replayed its state, or failed. -/
inductive LoopTrace where
  | waited (delayMs : UInt64)
  | attempted
  | recovered
  | failed (error : String)
  deriving DecidableEq

/-- What a listener task reads and writes. -/
structure LoopState (σ : Type) where
  reconnectAttempt : UInt32
  session : Option σ
  listenerRunning : Bool
  listenerError : Option String
  listenerCommandSender : Option Nat
  /-- The statuses that were sent to the subscribers. -/
  broadcasts : List MqttListenerStatus
  trace : List LoopTrace

/-- How the task goes on after it has recorded and announced a failure. -/
inductive FailureExit where
  /-- It leaves the loop. -/
  | leaves
  /-- It clears the flag and leaves the loop. -/
  | stops
  /-- It clears the flag and tests it at the head of the loop. -/
  | retests

/-- Program points of the task. -/
inductive LoopPoint (σ : Type) where
  | loopTest
  | take
  | waitForSession
  | drain (session : σ)
  | poll (session : σ)
  | restore (session : σ) (events : List RoutedEvent)
  | forward (events : List RoutedEvent)
  -- The reconnect loops, with the error that led to the next attempt.
  | clear (path : ReconnectPath) (error : String)
  | reconnectTest (path : ReconnectPath) (error : String)
  | reconnectDelay (path : ReconnectPath) (error : String)
  | reconnectSlept (path : ReconnectPath) (error : String)
  | connecting (path : ReconnectPath)
  | reconnectTake (path : ReconnectPath)
  | replaying (path : ReconnectPath) (session : σ)
  | replayFailed (path : ReconnectPath) (error : String)
  | recovered (path : ReconnectPath) (session : σ) (events : List RoutedEvent)
  | forwardRecovered (events : List RoutedEvent)
  | reset
  | reconnectEnded (path : ReconnectPath) (error : String)
  | endedTest (error : String)
  -- A failure that ends the loop.
  | record (error : String) (exit : FailureExit)
  | announce (error : String) (exit : FailureExit)
  | clearRunning (exit : FailureExit)
  -- The end of the task.
  | exitSender
  | exitRunning
  | exitStatus
  | exitAnnounce (status : MqttListenerStatus)
  | finished

structure ListenerLoop (σ : Type) where
  state : LoopState σ
  point : LoopPoint σ

/-- What another task does to what it shares with the listener. -/
inductive OtherTask (σ : Type) where
  | setSession (session : Option σ)
  | stopFlag
  | stopSender
  | startFlag
  | startSender (channel : Nat)
  | clearError
  | joinFailed

/-- What the environment does during a step. -/
inductive LoopLabel (σ : Type) where
  | internal
  | lock (acquired : Bool)
  | noCommand
  | command (result : Except String Unit) (session : σ)
  | read (result : Except String (List RoutedMessage)) (session : σ)
  /-- `ensure_connected` returns, with a session for an empty slot. -/
  | connected (result : Except String σ)
  | replayed (result : Except String (List RoutedEvent)) (session : σ)
  | sink (accepts : Bool)
  | other (task : OtherTask σ)

variable {σ : Type}

namespace LoopState

def record (state : LoopState σ) (entry : LoopTrace) : LoopState σ :=
  { state with trace := state.trace ++ [entry] }

/-- Puts a value into the session slot, if the slot could be locked. -/
def putSession (state : LoopState σ) (acquired : Bool) (session : Option σ) : LoopState σ :=
  { state with session := if acquired then session else state.session }

def putError (state : LoopState σ) (acquired : Bool) (error : Option String) : LoopState σ :=
  { state with listenerError := if acquired then error else state.listenerError }

def broadcast (state : LoopState σ) (acquired : Bool) (status : MqttListenerStatus) :
    LoopState σ :=
  { state with
    broadcasts := if acquired then state.broadcasts ++ [status] else state.broadcasts }

end LoopState

def OtherTask.effect (state : LoopState σ) : OtherTask σ → LoopState σ
  | setSession session => { state with session }
  | stopFlag => { state with listenerRunning := false }
  | stopSender => { state with listenerCommandSender := none }
  | startFlag => { state with listenerRunning := true }
  | startSender channel => { state with listenerCommandSender := some channel }
  | clearError => { state with listenerError := none }
  | joinFailed =>
      { state with
        listenerError := state.listenerError.or (some "MQTT listener task panicked") }

/-- How long the task waits for a session that others use. -/
def sessionWaitPollMs : UInt64 := 10

/-- The loop over replayed events belongs to the command path. -/
def LoopPoint.afterRecovery (events : List RoutedEvent) : ReconnectPath → LoopPoint σ
  | .command => .forwardRecovered events
  | .read => .reset

def LoopPoint.afterAnnounce : FailureExit → LoopPoint σ
  | .leaves => .exitSender
  | exit => .clearRunning exit

def LoopPoint.afterClearRunning : FailureExit → LoopPoint σ
  | .retests => .loopTest
  | _ => .exitSender

/-- The status at the end of the task. -/
def finalStatus (acquired : Bool) (listenerError : Option String) : MqttListenerStatus :=
  if acquired then statusOfError listenerError
  else .failed "failed to lock MQTT listener error after listener exit"

variable (config : BrokerReconnectConfig)

/-- A step of the listener, or of another task. -/
inductive LoopStep : ListenerLoop σ → LoopLabel σ → ListenerLoop σ → Prop
  | other {state point} (task : OtherTask σ) :
      LoopStep ⟨state, point⟩ (.other task) ⟨task.effect state, point⟩
  | listen {state} (running : state.listenerRunning = true) :
      LoopStep ⟨state, .loopTest⟩ .internal ⟨state, .take⟩
  | listenEnds {state} (stopped : state.listenerRunning = false) :
      LoopStep ⟨state, .loopTest⟩ .internal ⟨state, .exitSender⟩
  | takeUnlocked {state} :
      LoopStep ⟨state, .take⟩ (.lock false)
        ⟨state, .record "failed to lock MQTT session while listening" .leaves⟩
  | take {state session} (stored : state.session = some session) :
      LoopStep ⟨state, .take⟩ (.lock true) ⟨state.putSession true none, .drain session⟩
  | takeNothing {state} (empty : state.session = none) :
      LoopStep ⟨state, .take⟩ (.lock true) ⟨state, .waitForSession⟩
  | waitForSession {state} :
      LoopStep ⟨state, .waitForSession⟩ .internal
        ⟨state.record (.waited sessionWaitPollMs), .loopTest⟩
  | drained {state session} : LoopStep ⟨state, .drain session⟩ .noCommand ⟨state, .poll session⟩
  | command {state session after} :
      LoopStep ⟨state, .drain session⟩ (.command (.ok ()) after) ⟨state, .drain after⟩
  | commandFailed {state session after error} :
      LoopStep ⟨state, .drain session⟩ (.command (.error error) after)
        ⟨state.record (.failed error), .clear .command error⟩
  | poll {state session after messages} :
      LoopStep ⟨state, .poll session⟩ (.read (.ok messages) after)
        ⟨{ state with reconnectAttempt := 0 }, .restore after (routedEvents messages)⟩
  | pollFailed {state session after error} :
      LoopStep ⟨state, .poll session⟩ (.read (.error error) after)
        ⟨state.record (.failed error), .clear .read error⟩
  | restore {state session events} (acquired : Bool) :
      LoopStep ⟨state, .restore session events⟩ (.lock acquired)
        ⟨state.putSession acquired (some session), .forward events⟩
  | forwarded {state} : LoopStep ⟨state, .forward []⟩ .internal ⟨state, .loopTest⟩
  | forward {state event events} :
      LoopStep ⟨state, .forward (event :: events)⟩ (.sink true) ⟨state, .forward events⟩
  | forwardRefused {state event events} :
      LoopStep ⟨state, .forward (event :: events)⟩ (.sink false)
        ⟨state, .record "failed to forward MQTT event to sink" .retests⟩
  -- The reconnect loops
  | clear {state path error} (acquired : Bool) :
      LoopStep ⟨state, .clear path error⟩ (.lock acquired)
        ⟨state.putSession acquired none, .reconnectTest path error⟩
  | reconnectStopped {state path error} (stopped : state.listenerRunning = false) :
      LoopStep ⟨state, .reconnectTest path error⟩ .internal ⟨state, .reconnectEnded path error⟩
  | reconnectRefused {state path error} (running : state.listenerRunning = true)
      (refused : config.allowsAttempt (saturatingSucc state.reconnectAttempt) = false) :
      LoopStep ⟨state, .reconnectTest path error⟩ .internal
        ⟨{ state with reconnectAttempt := saturatingSucc state.reconnectAttempt },
          .reconnectEnded path error⟩
  | reconnectAllowed {state path error} (running : state.listenerRunning = true)
      (allowed : config.allowsAttempt (saturatingSucc state.reconnectAttempt) = true) :
      LoopStep ⟨state, .reconnectTest path error⟩ .internal
        ⟨{ state with reconnectAttempt := saturatingSucc state.reconnectAttempt },
          .reconnectDelay path error⟩
  | reconnectDelay {state path error} :
      LoopStep ⟨state, .reconnectDelay path error⟩ .internal
        ⟨state.record (.waited (config.delayMsForAttempt state.reconnectAttempt)),
          .reconnectSlept path error⟩
  | sleptThroughStop {state path error} (stopped : state.listenerRunning = false) :
      LoopStep ⟨state, .reconnectSlept path error⟩ .internal ⟨state, .reconnectEnded path error⟩
  | reconnect {state path error} (running : state.listenerRunning = true) :
      LoopStep ⟨state, .reconnectSlept path error⟩ .internal
        ⟨state.record .attempted, .connecting path⟩
  | connectFailed {state path error} :
      LoopStep ⟨state, .connecting path⟩ (.connected (.error error))
        ⟨state.record (.failed error), .reconnectTest path error⟩
  | connected {state path session} :
      LoopStep ⟨state, .connecting path⟩ (.connected (.ok session))
        ⟨state.putSession true (state.session.or (some session)), .reconnectTake path⟩
  | reconnectUnlocked {state path} :
      LoopStep ⟨state, .reconnectTake path⟩ (.lock false)
        ⟨state.record (.failed "failed to lock MQTT session after reconnect"),
          .reconnectTest path "failed to lock MQTT session after reconnect"⟩
  | reconnectTakeNothing {state path} (empty : state.session = none) :
      LoopStep ⟨state, .reconnectTake path⟩ (.lock true)
        ⟨state.record (.failed "MQTT session missing after reconnect"),
          .reconnectTest path "MQTT session missing after reconnect"⟩
  | reconnectTake {state path session} (stored : state.session = some session) :
      LoopStep ⟨state, .reconnectTake path⟩ (.lock true)
        ⟨state.putSession true none, .replaying path session⟩
  | replayFailed {state path session after error} :
      LoopStep ⟨state, .replaying path session⟩ (.replayed (.error error) after)
        ⟨state.record (.failed error), .replayFailed path error⟩
  | replayDropped {state path error} (acquired : Bool) :
      LoopStep ⟨state, .replayFailed path error⟩ (.lock acquired)
        ⟨state.putSession acquired none, .reconnectTest path error⟩
  | replayed {state path session after events} :
      LoopStep ⟨state, .replaying path session⟩ (.replayed (.ok events) after)
        ⟨state.record .recovered, .recovered path after events⟩
  | recovered {state path session events} (acquired : Bool) :
      LoopStep ⟨state, .recovered path session events⟩ (.lock acquired)
        ⟨state.putSession acquired (some session), .afterRecovery events path⟩
  | forwardedRecovered {state} :
      LoopStep ⟨state, .forwardRecovered []⟩ .internal ⟨state, .reset⟩
  | forwardRecovered {state event events} :
      LoopStep ⟨state, .forwardRecovered (event :: events)⟩ (.sink true)
        ⟨state, .forwardRecovered events⟩
  | forwardRecoveredRefused {state event events} :
      LoopStep ⟨state, .forwardRecovered (event :: events)⟩ (.sink false)
        ⟨state, .record "failed to forward MQTT event to sink" .stops⟩
  | reset {state} (acquired : Bool) :
      LoopStep ⟨state, .reset⟩ (.lock acquired)
        ⟨{ state with reconnectAttempt := 0 }.putError acquired none, .loopTest⟩
  -- Only the read path looks at the counter before it gives up.
  | listenAgain {state error} (unused : state.reconnectAttempt = 0)
      (running : state.listenerRunning = true) :
      LoopStep ⟨state, .reconnectEnded .read error⟩ .internal ⟨state, .loopTest⟩
  | reconnectEnded {state path error}
      (used : ¬(path = .read ∧ state.reconnectAttempt = 0 ∧ state.listenerRunning = true)) :
      LoopStep ⟨state, .reconnectEnded path error⟩ .internal ⟨state, .endedTest error⟩
  | endedByStop {state error} (stopped : state.listenerRunning = false) :
      LoopStep ⟨state, .endedTest error⟩ .internal ⟨state, .exitSender⟩
  | givenUp {state error} (running : state.listenerRunning = true) :
      LoopStep ⟨state, .endedTest error⟩ .internal ⟨state, .record error .stops⟩
  -- A failure that ends the loop
  | record {state error exit} (acquired : Bool) :
      LoopStep ⟨state, .record error exit⟩ (.lock acquired)
        ⟨state.putError acquired (some error), .announce error exit⟩
  | announce {state error exit} (acquired : Bool) :
      LoopStep ⟨state, .announce error exit⟩ (.lock acquired)
        ⟨state.broadcast acquired (.failed error), .afterAnnounce exit⟩
  | clearRunning {state exit} :
      LoopStep ⟨state, .clearRunning exit⟩ .internal
        ⟨{ state with listenerRunning := false }, .afterClearRunning exit⟩
  -- The end of the task
  | exitSender {state} (acquired : Bool) :
      LoopStep ⟨state, .exitSender⟩ (.lock acquired)
        ⟨{ state with
            listenerCommandSender := if acquired then none else state.listenerCommandSender },
          .exitRunning⟩
  | exitRunning {state} :
      LoopStep ⟨state, .exitRunning⟩ .internal
        ⟨{ state with listenerRunning := false }, .exitStatus⟩
  | exitStatus {state} (acquired : Bool) :
      LoopStep ⟨state, .exitStatus⟩ (.lock acquired)
        ⟨state, .exitAnnounce (finalStatus acquired state.listenerError)⟩
  | exitAnnounce {state status} (acquired : Bool) :
      LoopStep ⟨state, .exitAnnounce status⟩ (.lock acquired)
        ⟨state.broadcast acquired status, .finished⟩

/-- A listener task that starts on the given shared state. -/
def ListenerLoop.begin (session : Option σ) (listenerRunning : Bool)
    (listenerError : Option String) (listenerCommandSender : Option Nat) : ListenerLoop σ :=
  { state :=
      { reconnectAttempt := 0
        session
        listenerRunning
        listenerError
        listenerCommandSender
        broadcasts := []
        trace := [] }
    point := .loopTest }

end Mqtt
end Ferredge
