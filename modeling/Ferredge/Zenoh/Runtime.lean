import Ferredge.Locking
import Ferredge.Transition
import Ferredge.Zenoh.Types

/-!
# The Zenoh std runtime

Clones of one driver share its session, the status of its listener and the sender that stops the
listener, each behind a lock of its own.  Calls of the driver and listener tasks interleave at their
awaits: every task is at a program point, and a step takes one task from there to its next one.
What the Zenoh library and the sinks do is the label of the step.
-/

namespace Ferredge
namespace Zenoh

/-! ## What the clones of a driver share -/

/-- Zenoh session state: the key expressions with a subscriber, and those with a queryable. -/
structure ZenohSessionState where
  subscriptions : List String
  queryables : List String
  deriving DecidableEq

/-- The stop channel of one listener; its capacity is one. -/
structure StopChannel where
  signal : Option Unit
  receiverAlive : Bool
  deriving DecidableEq

/-- The channel is as it was opened. -/
def StopChannel.fresh : StopChannel :=
  { signal := none, receiverAlive := true }

/-- The fields of the driver behind its locks, and the stop channels opened so far. -/
structure ZenohShared where
  session : Option ZenohSessionState
  listenerStatus : ZenohListenerStatus
  /-- The channel of the stored sender. -/
  listenerStopTx : Option Nat
  channels : List StopChannel
  deriving DecidableEq

/-- The driver as it is constructed. -/
def ZenohShared.new : ZenohShared :=
  { session := none, listenerStatus := .stopped, listenerStopTx := none, channels := [] }

/-! ## Calls that only use the session -/

/-- What a call does while it holds the session. -/
inductive SessionCall where
  | startSession
  | closeSession
  | publish (request : ZenohPublishRequest)
  | subscribe (subscription : ZenohSubscription)
  | unsubscribe (subscription : ZenohSubscription)
  | execute (request : ZenohRequest)
  deriving DecidableEq

/-- What a call returns: nothing, or the response of a request. -/
abbrev CallResult := Except ZenohError (Option ZenohResponse)

/-- Removes a key expression, or raises the error. -/
def removeKeyExpr (keyExpr : String) (missing : ZenohError) (keyExprs : List String) :
    Except ZenohError (List String) :=
  if keyExpr ∈ keyExprs then .ok (keyExprs.erase keyExpr) else .error missing

/-- Inserts a key expression unless it is there. -/
def insertKeyExpr (keyExpr : String) (keyExprs : List String) : List String :=
  if keyExpr ∈ keyExprs then keyExprs else keyExprs ++ [keyExpr]

/-- What a call does in an open session, with the library's answer: its error, or the replies of a
query. -/
def SessionCall.perform (answer : Except String (List ZenohReply)) (state : ZenohSessionState) :
    SessionCall → Except ZenohError (Option ZenohResponse × Option ZenohSessionState)
  | startSession => .ok (none, some state)
  | closeSession => .ok (none, none)
  | publish _ => do
      let _ ← answer.mapError ZenohError.io
      return (none, some state)
  | subscribe subscription => do
      if subscription.keyExpr ∈ state.subscriptions then
        return (none, some state)
      let _ ← answer.mapError ZenohError.io
      return (none, some { state with
        subscriptions := state.subscriptions ++ [subscription.keyExpr] })
  | unsubscribe subscription => do
      let subscriptions ← removeKeyExpr subscription.keyExpr
        (.subscriptionNotFound subscription.keyExpr) state.subscriptions
      return (none, some { state with subscriptions })
  | execute (.publish _) => do
      let _ ← answer.mapError ZenohError.io
      return (some .published, some state)
  | execute (.query _) => do
      let replies ← answer.mapError ZenohError.io
      return (some (.queryResponse replies), some state)
  | execute (.declareQueryable request) =>
      .ok (some .queryableDeclared, some { state with
        queryables := insertKeyExpr request.keyExpr state.queryables })
  | execute (.undeclareQueryable request) => do
      let queryables ← removeKeyExpr request.keyExpr (.queryableNotFound request.keyExpr)
        state.queryables
      return (some .queryableUndeclared, some { state with queryables })

/-- What a call does with the session slot. -/
def SessionCall.run (call : SessionCall) (answer : Except String (List ZenohReply)) :
    Option ZenohSessionState → CallResult × Option ZenohSessionState
  | some state =>
      match call.perform answer state with
      | .ok (response, session) => (.ok response, session)
      | .error error => (.error error, some state)
  | none =>
      match call with
      | startSession =>
          match answer with
          | .ok _ => (.ok none, some ⟨[], []⟩)
          | .error text => (.error (.sessionInitFailed text), none)
      | closeSession => (.ok none, none)
      | _ => (.error .sessionNotInitialized, none)

/-! ## Program points -/

/-- Program points of `start_listener`. -/
inductive StartPoint where
  | lockStatus
  | lockStopTx (channel : Nat)
  | store (channel : Nat)
  | running (channel : Nat)
  | spawn (channel : Nat)
  deriving DecidableEq

/-- Program points of `stop_listener`. -/
inductive StopPoint where
  | lockStopTx
  | take
  | send (channel : Nat)
  | lockStatus
  | stopped
  deriving DecidableEq

/-- Program points of a spawned listener: of its loop, and of the writes of its status.  A write
locks the status, and leaves it before the next await. -/
inductive ListenerPoint where
  | poll
  | lockSession
  | drain
  | sleep
  | refused
  | exit (result : Except ZenohError Unit)
  deriving DecidableEq

/-- Program points of a task. -/
inductive TaskPoint where
  | start (point : StartPoint)
  /-- `stop_listener`, and where the session is closed as well, `stop_session`. -/
  | stop (closes : Bool) (point : StopPoint)
  | lockSession (call : SessionCall)
  | useSession (call : SessionCall)
  | returned (result : CallResult)
  | listener (channel : Nat) (point : ListenerPoint)
  | ended
  deriving DecidableEq

/-- The calls of the driver. -/
inductive DriverCall where
  | startListener
  | stopListener
  | stopSession
  | session (call : SessionCall)
  deriving DecidableEq

/-- Where a call begins. -/
def DriverCall.entry : DriverCall → TaskPoint
  | startListener => .start .lockStatus
  | stopListener => .stop false .lockStopTx
  | stopSession => .stop true .lockStopTx
  | session call => .lockSession call

/-! ## Locks -/

inductive Lock where
  | listenerStatus
  | listenerStopTx
  | session
  deriving DecidableEq

/-- The locks a task holds at its program point. -/
def TaskPoint.held : TaskPoint → List Lock
  | start (.lockStopTx _) | start (.running _) => [.listenerStatus]
  | start (.store _) => [.listenerStatus, .listenerStopTx]
  | stop _ .take | stop _ (.send _) | stop _ .lockStatus => [.listenerStopTx]
  | stop _ .stopped => [.listenerStopTx, .listenerStatus]
  | useSession _ => [.session]
  | listener _ .drain => [.session]
  | _ => []

/-- The lock a task waits for at its program point. -/
def TaskPoint.awaits : TaskPoint → Option Lock
  | start .lockStatus | stop _ .lockStatus => some .listenerStatus
  | start (.lockStopTx _) | stop _ .lockStopTx => some .listenerStopTx
  | lockSession _ => some .session
  | listener _ .lockSession => some .session
  | listener _ .refused | listener _ (.exit _) => some .listenerStatus
  | _ => none

/-! ## Steps -/

/-- What the Zenoh library and the sinks do during a step. -/
inductive StepLabel where
  | internal
  /-- The answer to the call that uses the session. -/
  | answer (outcome : Except String (List ZenohReply))
  /-- A subscriber has a sample, and the sink takes or refuses its event. -/
  | sample (event : ZenohEvent) (accepted : Bool)
  /-- No subscriber has a sample any more. -/
  | drained
  deriving DecidableEq

/-- The status that a listener leaves behind. -/
def exitStatus : Except ZenohError Unit → ZenohListenerStatus
  | .ok _ => .stopped
  | .error error => .failed error.text

namespace ZenohShared

def setChannel (shared : ZenohShared) (index : Nat) (channel : StopChannel) : ZenohShared :=
  { shared with channels := shared.channels.set index channel }

end ZenohShared

/-- The step of a task at its program point; the lock that the point waits for is free. -/
inductive TaskStep : ZenohShared → TaskPoint → StepLabel → ZenohShared → TaskPoint → Prop
  | startRefused {shared} (running : shared.listenerStatus = .running) :
      TaskStep shared (.start .lockStatus) .internal shared
        (.returned (.error .listenerAlreadyRunning))
  | startOpens {shared} (idle : shared.listenerStatus ≠ .running) :
      TaskStep shared (.start .lockStatus) .internal
        { shared with channels := shared.channels ++ [.fresh] }
        (.start (.lockStopTx shared.channels.length))
  | startLocks {shared channel} :
      TaskStep shared (.start (.lockStopTx channel)) .internal shared (.start (.store channel))
  | startStores {shared channel} :
      TaskStep shared (.start (.store channel)) .internal
        { shared with listenerStopTx := some channel } (.start (.running channel))
  | startRuns {shared channel} :
      TaskStep shared (.start (.running channel)) .internal
        { shared with listenerStatus := .running } (.start (.spawn channel))
  | stopLocks {shared closes} :
      TaskStep shared (.stop closes .lockStopTx) .internal shared (.stop closes .take)
  | stopTakes {shared closes channel} (stored : shared.listenerStopTx = some channel) :
      TaskStep shared (.stop closes .take) .internal { shared with listenerStopTx := none }
        (.stop closes (.send channel))
  | stopFinds {shared closes} (missing : shared.listenerStopTx = none) :
      TaskStep shared (.stop closes .take) .internal shared (.stop closes .lockStatus)
  /-- The channel has room, or its receiver is gone and the signal is dropped. -/
  | stopSends {shared closes channel queue} (located : shared.channels[channel]? = some queue)
      (room : queue.signal = none ∨ queue.receiverAlive = false) :
      TaskStep shared (.stop closes (.send channel)) .internal
        (shared.setChannel channel
          { queue with signal := if queue.receiverAlive then some () else queue.signal })
        (.stop closes .lockStatus)
  | stopLocksStatus {shared closes} :
      TaskStep shared (.stop closes .lockStatus) .internal shared (.stop closes .stopped)
  | stopClears {shared closes} :
      TaskStep shared (.stop closes .stopped) .internal { shared with listenerStatus := .stopped }
        (if closes then .lockSession .closeSession else .returned (.ok none))
  | sessionLocks {shared call} :
      TaskStep shared (.lockSession call) .internal shared (.useSession call)
  | sessionAnswered {shared call outcome} :
      TaskStep shared (.useSession call) (.answer outcome)
        { shared with session := (call.run outcome shared.session).2 }
        (.returned (call.run outcome shared.session).1)
  | listenerStopped {shared channel queue} (located : shared.channels[channel]? = some queue)
      (told : queue.signal = some ()) :
      TaskStep shared (.listener channel .poll) .internal
        (shared.setChannel channel { signal := none, receiverAlive := false })
        (.listener channel (.exit (.ok ())))
  | listenerPolls {shared channel queue} (located : shared.channels[channel]? = some queue)
      (untold : queue.signal = none) :
      TaskStep shared (.listener channel .poll) .internal shared (.listener channel .lockSession)
  | listenerLocks {shared channel} :
      TaskStep shared (.listener channel .lockSession) .internal shared (.listener channel .drain)
  | listenerForwards {shared channel state event} (established : shared.session = some state)
      (subscribed : state.subscriptions ≠ []) :
      TaskStep shared (.listener channel .drain) (.sample event true) shared
        (.listener channel .drain)
  | listenerRefused {shared channel state event} (established : shared.session = some state)
      (subscribed : state.subscriptions ≠ []) :
      TaskStep shared (.listener channel .drain) (.sample event false) shared
        (.listener channel .refused)
  | listenerDrained {shared channel} :
      TaskStep shared (.listener channel .drain) .drained shared (.listener channel .sleep)
  | listenerSlept {shared channel} :
      TaskStep shared (.listener channel .sleep) .internal shared (.listener channel .poll)
  | listenerFails {shared channel queue} (located : shared.channels[channel]? = some queue) :
      TaskStep shared (.listener channel .refused) .internal
        { shared.setChannel channel { queue with receiverAlive := false } with
          listenerStatus := .failed "Sink closed" }
        (.listener channel (.exit (.error (.io "sink closed"))))
  | listenerEnds {shared channel result} :
      TaskStep shared (.listener channel (.exit result)) .internal
        { shared with listenerStatus := exitStatus result } .ended

/-- A driver and its tasks: calls, and the listeners they spawn. -/
structure ZenohSystem where
  shared : ZenohShared
  tasks : List TaskPoint
  deriving DecidableEq

/-- A driver that nothing has been asked of. -/
def ZenohSystem.new : ZenohSystem :=
  { shared := .new, tasks := [] }

/-- No task holds the lock. -/
def ZenohSystem.Free (system : ZenohSystem) (lock : Lock) : Prop :=
  ∀ point ∈ system.tasks, lock ∉ point.held

instance (system : ZenohSystem) (lock : Lock) : Decidable (system.Free lock) :=
  inferInstanceAs (Decidable (∀ point ∈ system.tasks, lock ∉ point.held))

/-- A call begins, or a task takes a step. -/
inductive SystemLabel where
  | call (call : DriverCall)
  | task (index : Nat) (label : StepLabel)
  deriving DecidableEq

/-- One step of the system. -/
inductive SystemStep : ZenohSystem → SystemLabel → ZenohSystem → Prop
  | call {system} (call : DriverCall) :
      SystemStep system (.call call) { system with tasks := system.tasks ++ [call.entry] }
  | task {system : ZenohSystem} {index point label shared next}
      (located : system.tasks[index]? = some point)
      (free : ∀ lock, point.awaits = some lock → system.Free lock)
      (step : TaskStep system.shared point label shared next) :
      SystemStep system (.task index label) { shared, tasks := system.tasks.set index next }
  | spawn {system : ZenohSystem} {index channel}
      (located : system.tasks[index]? = some (.start (.spawn channel))) :
      SystemStep system (.task index .internal)
        { system with
          tasks := system.tasks.set index (.returned (.ok none)) ++ [.listener channel .poll] }

end Zenoh
end Ferredge
