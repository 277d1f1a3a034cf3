import Ferredge.Ledger
import Ferredge.Mqtt.Connect
import Ferredge.Mqtt.Replay

/-!
# The MQTT driver

Clones of one driver share its session slot, its command channel and its recovery queue.  Calls of
the driver and listener tasks interleave at their awaits: every task is at a program point, and a
step takes one task from there to its next one.  What the network, the packet library and the sinks
do is the label of the step.
-/

namespace Ferredge
namespace Mqtt

/-! ## Calls and the command channel -/

inductive CallKind where
  | publish
  | subscribe
  | unsubscribe
  deriving DecidableEq

/-- A call of `publish`, `subscribe` or `unsubscribe`, and the command it sends to a listener. -/
structure DriverCall where
  id : Nat
  kind : CallKind
  request : MqttPacketRequest
  deriving DecidableEq

inductive SessionCommandResult where
  | done
  | events (events : List RoutedEvent)

/-- A response in the response channel of a call. -/
structure SessionReply where
  call : DriverCall
  response : Except String SessionCommandResult

/-- The command channel of one listener. -/
structure CommandChannel where
  commands : List DriverCall
  receiverAlive : Bool

/-- Capacity of a listener's command channel. -/
def commandChannelCapacity : Nat := 64

/-- What happened to the request of a call: an attempt to send it, which may have reached the
socket, or the decision to leave it to the recovery queue. -/
inductive RequestTrace where
  | attempt (call : Nat) (written : Bool)
  | fellBack (call : Nat)
  deriving DecidableEq

/-- What all clones of a driver share, and a trace of requests and events. -/
structure DriverShared (stack : MqttStack) where
  session : Option (MqttClientSession stack)
  negotiatedConnack : Option MqttConnackProperties
  listenerRunning : Bool
  listenerHandle : Option Nat
  listenerCommandSender : Option Nat
  channels : List CommandChannel
  /-- Calls that still hold the receiver of their response channel. -/
  receivers : List Nat
  replies : List SessionReply
  desiredSubscriptions : List (String × MqttPacketRequest)
  recoveryQueue : List QueuedRequest
  requests : List RequestTrace
  /-- Events delivered on a session that a listener owns. -/
  delivered : List RoutedEvent
  /-- Events from such a session that were handed to a sink. -/
  handed : List RoutedEvent

/-! ## Program points -/

/-- Program points of `ensure_connected`. -/
inductive ConnectPoint (stack : MqttStack) where
  | test
  | dial
  | hello (session : MqttClientSession stack)
  | handshake (session : MqttClientSession stack)
  | install (session : MqttClientSession stack)

/-- The two copies of the reconnect loop: after a failed command and after a failed read. -/
inductive ReconnectPath where
  | command
  | read
  deriving DecidableEq

/-- Locals of a reconnect loop.  The failed session stays in scope until the loop is left. -/
structure Reconnect (stack : MqttStack) where
  path : ReconnectPath
  attempt : UInt32
  failed : MqttClientSession stack

/-- Locals of a replay: the session, what is still to send and the events collected so far. -/
structure Replay (stack : MqttStack) where
  session : MqttClientSession stack
  subscriptions : List MqttPacketRequest
  queued : List QueuedRequest
  recovered : List RoutedEvent

/-- Who calls `ensure_connected`. -/
inductive ConnectPurpose (stack : MqttStack) where
  | start
  | listening
  | call (call : DriverCall)
  | reconnect (channel : Nat) (locals : Reconnect stack)

/-- Program points of a listener task. -/
inductive ListenerPoint (stack : MqttStack) where
  | loopTest
  | take
  | drain (session : MqttClientSession stack)
  | send (session : MqttClientSession stack) (command : DriverCall)
  | ack (session : MqttClientSession stack) (command : DriverCall)
  | respond (session : MqttClientSession stack) (command : DriverCall)
      (response : Except String SessionCommandResult)
  | poll (session : MqttClientSession stack)
  | restore (session : MqttClientSession stack) (events : List RoutedEvent)
  | forward (events : List RoutedEvent)
  | clear (path : ReconnectPath) (failed : MqttClientSession stack)
  | reconnectTest (locals : Reconnect stack)
  | reconnectSlept (locals : Reconnect stack)
  | reconnectTake (locals : Reconnect stack)
  | replayLoad (locals : Reconnect stack) (session : MqttClientSession stack)
  | replaySubscriptions (locals : Reconnect stack) (replay : Replay stack)
  | replaySubscriptionAck (locals : Reconnect stack) (replay : Replay stack)
  | replayQueued (locals : Reconnect stack) (replay : Replay stack)
  | replayQueuedAck (locals : Reconnect stack) (replay : Replay stack)
  | replayFailed (locals : Reconnect stack) (session : MqttClientSession stack)
  | recovered (locals : Reconnect stack) (replay : Replay stack)
  | forwardRecovered (locals : Reconnect stack) (events : List RoutedEvent)
  | reconnectEnded (locals : Reconnect stack)
  | reconnectGivenUp (locals : Reconnect stack)
  | exitSender
  | exitRunning
  | exitClose

/-- Program points of `stop_listener` and, where the session is dropped as well, `stop`. -/
inductive StopPoint (stack : MqttStack) where
  | flag
  | sender
  | handle
  | join (channel : Nat)
  | take
  | disconnect (session : MqttClientSession stack)

/-- Program points of a task. -/
inductive TaskPoint (stack : MqttStack) where
  | finished
  | connect (purpose : ConnectPurpose stack) (point : ConnectPoint stack)
  | track (call : DriverCall)
  | testRunning (call : DriverCall)
  | cloneSender (call : DriverCall)
  | sendCommand (call : DriverCall) (channel : Nat)
  | awaitReply (call : DriverCall)
  | handOver (events : List RoutedEvent)
  | takeSession (call : DriverCall)
  | directSend (call : DriverCall) (session : MqttClientSession stack)
  | directAck (call : DriverCall) (session : MqttClientSession stack)
  | restoreSession (session : MqttClientSession stack) (events : List RoutedEvent)
  | handOverDirect (events : List RoutedEvent)
  | clearSession (call : DriverCall) (failed : MqttClientSession stack)
  | recheckRunning (call : DriverCall) (failed : MqttClientSession stack)
  | fallBack (call : DriverCall) (failed : Option (MqttClientSession stack))
  | swapRunning
  | openChannel
  | spawn (channel : Nat)
  | storeHandle (channel : Nat)
  | listener (channel : Nat) (point : ListenerPoint stack)
  | stop (disconnects : Bool) (point : StopPoint stack)

/-- What the environment does during a step. -/
inductive StepLabel (stack : MqttStack) where
  /-- Nothing: the step depends on the shared state alone. -/
  | internal
  | dial (outcome : DialOutcome)
  | hello (connect : Except String (List (ConnectionEvent stack)))
  | send (input : SendInput stack)
  | read (input : ReadInput stack)
  | sink (accepts : Bool)
  /-- The command timeout of a call passes without a response. -/
  | timeout
  /-- The broker's end of a failed connection closes. -/
  | peerCloses

variable {stack : MqttStack}

/-! ## Effects on the shared state -/

namespace DriverShared

def observe (shared : DriverShared stack) (state : SessionState stack) : DriverShared stack :=
  { shared with negotiatedConnack := state.negotiatedConnack }

def deliver (shared : DriverShared stack) (events : List RoutedEvent) : DriverShared stack :=
  { shared with delivered := shared.delivered ++ events }

def hand (shared : DriverShared stack) (event : RoutedEvent) : DriverShared stack :=
  { shared with handed := shared.handed ++ [event] }

def record (shared : DriverShared stack) (entry : RequestTrace) : DriverShared stack :=
  { shared with requests := shared.requests ++ [entry] }

/-- The session of the shared state, with the snapshot, as session functions take it. -/
def sessionState (shared : DriverShared stack) (session : MqttClientSession stack) :
    SessionState stack :=
  { session, negotiatedConnack := shared.negotiatedConnack }

/-- The receiver of a call's response channel is dropped. -/
def dropReceiver (shared : DriverShared stack) (call : Nat) : DriverShared stack :=
  { shared with receivers := shared.receivers.erase call }

/-- Sends a response; it is lost when its receiver is gone. -/
def respond (shared : DriverShared stack) (reply : SessionReply) : DriverShared stack :=
  { shared with
    replies :=
      if reply.call.id ∈ shared.receivers then shared.replies ++ [reply] else shared.replies }

/-- The response senders of dropped commands close their channels. -/
def closeReplies (shared : DriverShared stack) (commands : List DriverCall) :
    DriverShared stack :=
  { shared with
    replies := shared.replies ++
      (commands.filter fun call => call.id ∈ shared.receivers).map fun call =>
        { call, response := .error "MQTT listener command response channel closed" } }

def setChannel (shared : DriverShared stack) (index : Nat) (channel : CommandChannel) :
    DriverShared stack :=
  { shared with channels := shared.channels.set index channel }

/-- Queues the request of a call for the next replay, where the queue takes it. -/
def enqueue (shared : DriverShared stack) (reconnect : BrokerReconnectConfig)
    (call : DriverCall) : DriverShared stack :=
  { shared with
    recoveryQueue :=
      match enqueueRecoveryRequest reconnect ⟨call.id, call.request⟩ shared.recoveryQueue with
      | .ok recoveryQueue => recoveryQueue
      | .error _ => shared.recoveryQueue }

end DriverShared

/-! ## Continuations -/

/-- Where a caller of `ensure_connected` goes on. -/
def afterConnect : ConnectPurpose stack → Except String Unit → TaskPoint stack
  | .start, _ => .finished
  | .listening, .ok _ => .swapRunning
  | .listening, .error _ => .finished
  | .call call, .ok _ => .takeSession call
  | .call _, .error _ => .finished
  | .reconnect channel locals, .ok _ => .listener channel (.reconnectTake locals)
  | .reconnect channel locals, .error _ => .listener channel (.reconnectTest locals)

/-- Events that arrive while a connection is opened count as delivered to a listener when it is
the listener that reconnects. -/
def deliveredTo : ConnectPurpose stack → List RoutedEvent → List RoutedEvent
  | .reconnect _ _, events => events
  | _, _ => []

def afterDial (keepaliveSecs : Option UInt16) (purpose : ConnectPurpose stack) :
    DialOutcome → TaskPoint stack
  | .opened now => .connect purpose (.hello (openSession keepaliveSecs now))
  | .refused error => afterConnect purpose (.error s!"failed to connect to MQTT broker: {error}")
  | .readTimeoutRefused error =>
      afterConnect purpose (.error s!"failed to set MQTT read timeout: {error}")
  | .writeTimeoutRefused error =>
      afterConnect purpose (.error s!"failed to set MQTT write timeout: {error}")

def afterHello {result : Type} (purpose : ConnectPurpose stack) :
    Except String result × SessionState stack → TaskPoint stack
  | (.error error, _) => afterConnect purpose (.error error)
  | (.ok _, state) => .connect purpose (.handshake state.session)

def afterRound (purpose : ConnectPurpose stack) :
    ConnectVerdict × SessionState stack → TaskPoint stack
  | (verdict, state) =>
      match verdict.result with
      | none => .connect purpose (.handshake state.session)
      | some (.ok _) => .connect purpose (.install state.session)
      | some (.error error) => afterConnect purpose (.error error)

/-- A step of `ensure_connected` leads to another of its points, or back to its caller. -/
inductive ConnectPurpose.Onward (purpose : ConnectPurpose stack) : TaskPoint stack → Prop
  | stays (point : ConnectPoint stack) : Onward purpose (.connect purpose point)
  | returns (result : Except String Unit) : Onward purpose (afterConnect purpose result)

theorem onward_afterDial (keepaliveSecs : Option UInt16) (purpose : ConnectPurpose stack)
    (outcome : DialOutcome) : purpose.Onward (afterDial keepaliveSecs purpose outcome) := by
  cases outcome with
  | opened => exact .stays _
  | refused | readTimeoutRefused | writeTimeoutRefused => exact .returns _

theorem onward_afterHello {result : Type} (purpose : ConnectPurpose stack)
    (sent : Except String result × SessionState stack) :
    purpose.Onward (afterHello purpose sent) := by
  obtain ⟨error | _, state⟩ := sent
  · exact .returns _
  · exact .stays _

theorem onward_afterRound (purpose : ConnectPurpose stack)
    (round : ConnectVerdict × SessionState stack) : purpose.Onward (afterRound purpose round) := by
  obtain ⟨verdict, state⟩ := round
  unfold afterRound
  dsimp only
  split
  · exact .stays _
  · exact .stays _
  · exact .returns _

/-- The response to a command whose answer was read. -/
def commandResult (kind : CallKind) (messages : List RoutedMessage) : SessionCommandResult :=
  match kind with
  | .subscribe => .events (routedEvents messages)
  | .publish | .unsubscribe => .done

def afterCommandSend (command : DriverCall) :
    Except String Unit × SessionState stack → ListenerPoint stack
  | (.ok _, state) => .ack state.session command
  | (.error error, state) => .respond state.session command (.error error)

def afterCommandAck (command : DriverCall) :
    Except String (List RoutedMessage) × SessionState stack → ListenerPoint stack
  | (result, state) => .respond state.session command (result.map (commandResult command.kind))

def afterRespond (session : MqttClientSession stack) :
    Except String SessionCommandResult → ListenerPoint stack
  | .ok _ => .drain session
  | .error _ => .clear .command session

def afterPoll : Except String (List RoutedMessage) × SessionState stack → ListenerPoint stack
  | (.ok messages, state) => .restore state.session (routedEvents messages)
  | (.error _, state) => .clear .read state.session

def afterReplaySend (locals : Reconnect stack) (replay : Replay stack)
    (next : Reconnect stack → Replay stack → ListenerPoint stack) :
    Except String Unit × SessionState stack → ListenerPoint stack
  | (.ok _, state) => next locals { replay with session := state.session }
  | (.error _, state) => .replayFailed locals state.session

def afterReplayAck (locals : Reconnect stack) (replay : Replay stack)
    (next : Reconnect stack → Replay stack → ListenerPoint stack) :
    Except String (List RoutedMessage) × SessionState stack → ListenerPoint stack
  | (.ok messages, state) =>
      next locals
        { replay with
          session := state.session
          recovered := replay.recovered ++ routedEvents messages }
  | (.error _, state) => .replayFailed locals state.session

/-- The loop over replayed events belongs to the command path; the read path drops them. -/
def afterRecovered (locals : Reconnect stack) (recovered : List RoutedEvent) :
    ListenerPoint stack :=
  match locals.path with
  | .command => .forwardRecovered locals recovered
  | .read => .loopTest

/-- Where a call goes on with the response of the listener. -/
def afterReply (call : DriverCall) : Except String SessionCommandResult → TaskPoint stack
  | .ok (.events events) => if call.kind = .subscribe then .handOver events else .finished
  | .ok .done => .finished
  | .error _ => .fallBack call none

def afterDirectSend (call : DriverCall) :
    Except String Unit × SessionState stack → TaskPoint stack
  | (.ok _, state) => .directAck call state.session
  | (.error _, state) => .clearSession call state.session

def afterDirectAck (call : DriverCall) :
    Except String (List RoutedMessage) × SessionState stack → TaskPoint stack
  | (.ok messages, state) =>
      .restoreSession state.session
        (if call.kind = .subscribe then routedEvents messages else [])
  | (.error _, state) => .clearSession call state.session

/-- A failed call leaves its request to the recovery queue, and the trace says so. -/
def recordFallBack (call : DriverCall) (response : Except String SessionCommandResult)
    (shared : DriverShared stack) : DriverShared stack :=
  { shared with
    requests :=
      match response with
      | .ok _ => shared.requests
      | .error _ => shared.requests ++ [.fellBack call.id] }

/-- The broker closes the failed connection that a task still holds. -/
def Reconnect.closed (locals : Reconnect stack) : Reconnect stack :=
  { locals with
    failed :=
      { locals.failed with stream := { locals.failed.stream with peerOpen := false } } }

end Mqtt
end Ferredge
