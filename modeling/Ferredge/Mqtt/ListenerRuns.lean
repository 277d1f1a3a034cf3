import Ferredge.Mqtt.Reconnecting

/-!
# The listeners of a driver run the loop

A listener task of the driver and the loop of the listener are the same code, once with its sessions
and commands and once with its errors and reports.  What other tasks of the driver do is what the
loop expects of other tasks.
-/

namespace Ferredge
namespace Mqtt

open Transition

variable {stack : MqttStack}

/-- The loop finds in the shared state what the driver has there. -/
structure LoopState.Sees (shared : DriverShared stack)
    (state : LoopState (MqttClientSession stack)) : Prop where
  session : state.session = shared.session
  listenerRunning : state.listenerRunning = shared.listenerRunning
  listenerCommandSender : state.listenerCommandSender = shared.listenerCommandSender

namespace LoopState.Sees

variable {shared : DriverShared stack} {state : LoopState (MqttClientSession stack)}

theorem observe (sees : state.Sees shared) (seen : SessionState stack) :
    state.Sees (shared.observe seen) :=
  ⟨sees.session, sees.listenerRunning, sees.listenerCommandSender⟩

theorem deliver (sees : state.Sees shared) (events : List RoutedEvent) :
    state.Sees (shared.deliver events) :=
  ⟨sees.session, sees.listenerRunning, sees.listenerCommandSender⟩

theorem record (sees : state.Sees shared) (entry : RequestTrace) :
    state.Sees (shared.record entry) :=
  ⟨sees.session, sees.listenerRunning, sees.listenerCommandSender⟩

theorem hand (sees : state.Sees shared) (event : RoutedEvent) : state.Sees (shared.hand event) :=
  ⟨sees.session, sees.listenerRunning, sees.listenerCommandSender⟩

theorem traced (sees : state.Sees shared) (entry : LoopTrace) : (state.record entry).Sees shared :=
  ⟨sees.session, sees.listenerRunning, sees.listenerCommandSender⟩

theorem counted (sees : state.Sees shared) (attempt : UInt32) :
    LoopState.Sees shared { state with reconnectAttempt := attempt } :=
  ⟨sees.session, sees.listenerRunning, sees.listenerCommandSender⟩

theorem put (sees : state.Sees shared) (session : Option (MqttClientSession stack)) :
    (state.putSession true session).Sees { shared with session } :=
  ⟨rfl, sees.listenerRunning, sees.listenerCommandSender⟩

end LoopState.Sees

/-- The task of a listener on a channel is where the loop is, with the same count of attempts. -/
inductive Stands (channel : Nat) (attempt : UInt32) :
    TaskPoint stack → LoopPoint (MqttClientSession stack) → Prop
  | loopTest : Stands channel attempt (.listener channel .loopTest) .loopTest
  | take : Stands channel attempt (.listener channel .take) .take
  | drain (session) : Stands channel attempt (.listener channel (.drain session)) (.drain session)
  | send (session command held) :
      Stands channel attempt (.listener channel (.send session command)) (.drain held)
  | ack (session command held) :
      Stands channel attempt (.listener channel (.ack session command)) (.drain held)
  | respond (session command response held) :
      Stands channel attempt (.listener channel (.respond session command response)) (.drain held)
  | poll (session) : Stands channel attempt (.listener channel (.poll session)) (.poll session)
  | restore (session events) :
      Stands channel attempt (.listener channel (.restore session events))
        (.restore session events)
  | forward (events) :
      Stands channel attempt (.listener channel (.forward events)) (.forward events)
  | clear (path failed error) :
      Stands channel attempt (.listener channel (.clear path failed)) (.clear path error)
  | reconnectTest (locals error) (counted : locals.attempt = attempt) :
      Stands channel attempt (.listener channel (.reconnectTest locals))
        (.reconnectTest locals.path error)
  | reconnectSlept (locals error) (counted : locals.attempt = attempt) :
      Stands channel attempt (.listener channel (.reconnectSlept locals))
        (.reconnectSlept locals.path error)
  | connect (locals point) (counted : locals.attempt = attempt) :
      Stands channel attempt (.connect (.reconnect channel locals) point) (.connecting locals.path)
  | reconnectTake (locals) (counted : locals.attempt = attempt) :
      Stands channel attempt (.listener channel (.reconnectTake locals))
        (.reconnectTake locals.path)
  | replayLoad (locals session held) (counted : locals.attempt = attempt) :
      Stands channel attempt (.listener channel (.replayLoad locals session))
        (.replaying locals.path held)
  | replaySubscriptions (locals replay held) (counted : locals.attempt = attempt) :
      Stands channel attempt (.listener channel (.replaySubscriptions locals replay))
        (.replaying locals.path held)
  | replaySubscriptionAck (locals replay held) (counted : locals.attempt = attempt) :
      Stands channel attempt (.listener channel (.replaySubscriptionAck locals replay))
        (.replaying locals.path held)
  | replayQueued (locals replay held) (counted : locals.attempt = attempt) :
      Stands channel attempt (.listener channel (.replayQueued locals replay))
        (.replaying locals.path held)
  | replayQueuedAck (locals replay held) (counted : locals.attempt = attempt) :
      Stands channel attempt (.listener channel (.replayQueuedAck locals replay))
        (.replaying locals.path held)
  | replayFailed (locals session error) (counted : locals.attempt = attempt) :
      Stands channel attempt (.listener channel (.replayFailed locals session))
        (.replayFailed locals.path error)
  | recovered (locals replay) :
      Stands channel attempt (.listener channel (.recovered locals replay))
        (.recovered locals.path replay.session replay.recovered)
  | forwardRecovered (locals events) :
      Stands channel attempt (.listener channel (.forwardRecovered locals events))
        (.forwardRecovered events)
  | reconnectEnded (locals error) (counted : locals.attempt = attempt) :
      Stands channel attempt (.listener channel (.reconnectEnded locals))
        (.reconnectEnded locals.path error)
  | reconnectGivenUp (locals error) :
      Stands channel attempt (.listener channel (.reconnectGivenUp locals)) (.endedTest error)
  | exitSender : Stands channel attempt (.listener channel .exitSender) .exitSender
  | exitRunning : Stands channel attempt (.listener channel .exitRunning) .exitRunning
  | exitClose : Stands channel attempt (.listener channel .exitClose) .exitStatus
  | finished : Stands channel attempt .finished .finished

variable {config : MqttEndpointConfig} {channel : Nat} {shared later : DriverShared stack}
  {point next : TaskPoint stack} {label : StepLabel stack}
  {loop : ListenerLoop (MqttClientSession stack)}

/-- Steps of the loop, with those of other tasks. -/
abbrev LoopRun (config : MqttEndpointConfig) :
    ListenerLoop (MqttClientSession stack) → ListenerLoop (MqttClientSession stack) → Prop :=
  Run (LoopStep config.reconnect) fun _ _ => True

/-- The loop goes on to where the listener is now. -/
def Mirrors (config : MqttEndpointConfig) (channel : Nat)
    (loop : ListenerLoop (MqttClientSession stack)) (shared : DriverShared stack)
    (point : TaskPoint stack) : Prop :=
  ∃ after, LoopRun config loop after ∧ after.state.Sees shared ∧
    Stands channel after.state.reconnectAttempt point after.point

/-- Other tasks may change whatever the listener shares with them. -/
theorem loopRun_others (loop : ListenerLoop (MqttClientSession stack))
    (shared : DriverShared stack) :
    LoopRun config loop
      { loop with
        state :=
          { loop.state with
            session := shared.session
            listenerRunning := shared.listenerRunning
            listenerCommandSender := shared.listenerCommandSender } } := by
  have stored : LoopRun config loop
      { loop with state := { loop.state with session := shared.session } } :=
    (Run.refl loop).perform (.other (.setSession shared.session)) trivial (.other _)
  have flagged : LoopRun config loop
      { loop with
        state :=
          { loop.state with
            session := shared.session, listenerRunning := shared.listenerRunning } } := by
    cases shared.listenerRunning with
    | false => exact stored.perform (.other .stopFlag) trivial (.other _)
    | true => exact stored.perform (.other .startFlag) trivial (.other _)
  cases shared.listenerCommandSender with
  | none => exact flagged.perform (.other .stopSender) trivial (.other _)
  | some sender => exact flagged.perform (.other (.startSender sender)) trivial (.other _)

theorem mirrors_others (stands : Stands channel loop.state.reconnectAttempt point loop.point)
    (shared : DriverShared stack) : Mirrors config channel loop shared point :=
  ⟨_, loopRun_others loop shared, ⟨rfl, rfl, rfl⟩, stands⟩

theorem mirrors_here (sees : loop.state.Sees shared)
    (stands : Stands channel loop.state.reconnectAttempt point loop.point) :
    Mirrors config channel loop shared point :=
  ⟨loop, .refl loop, sees, stands⟩

/-- A step of the loop, and what follows it. -/
theorem Mirrors.after {middle : ListenerLoop (MqttClientSession stack)}
    {first : LoopLabel (MqttClientSession stack)}
    (mirrors : Mirrors config channel middle shared point)
    (step : LoopStep config.reconnect loop first middle) :
    Mirrors config channel loop shared point := by
  obtain ⟨after, onward, sees, stands⟩ := mirrors
  exact ⟨after, ((Run.refl loop).perform first trivial step).trans onward, sees, stands⟩

variable {state : LoopState (MqttClientSession stack)} {locals : Reconnect stack}

/-- Where `ensure_connected` returns an error, the loop tries again. -/
theorem mirrors_connectFailed (sees : state.Sees shared)
    (counted : locals.attempt = state.reconnectAttempt) (error : String) :
    Mirrors config channel ⟨state, .connecting locals.path⟩ shared
      (afterConnect (.reconnect channel locals) (.error error)) :=
  (mirrors_here (sees.traced _) (.reconnectTest locals error counted)).after .connectFailed

/-- Where `ensure_connected` has a session in the slot, the loop takes it out. -/
theorem mirrors_connected (sees : state.Sees shared)
    (counted : locals.attempt = state.reconnectAttempt) (session : MqttClientSession stack) :
    Mirrors config channel ⟨state, .connecting locals.path⟩
      { shared with session := installSession session shared.session }
      (.listener channel (.reconnectTake locals)) := by
  have stored : state.session.or (some session) = installSession session shared.session := by
    rw [sees.session, installSession]
  exact (mirrors_here ⟨stored, sees.listenerRunning, sees.listenerCommandSender⟩
    (.reconnectTake locals counted)).after .connected

theorem TaskStep.mirrored_connect {connecting : ConnectPoint stack}
    (step : TaskStep config shared (.connect (.reconnect channel locals) connecting) label later
      next) (sees : state.Sees shared) (counted : locals.attempt = state.reconnectAttempt) :
    Mirrors config channel ⟨state, .connecting locals.path⟩ later next := by
  have stays {after : DriverShared stack} (seen : state.Sees after) (point : ConnectPoint stack) :
      Mirrors config channel ⟨state, .connecting locals.path⟩ after
        (.connect (.reconnect channel locals) point) :=
    mirrors_here seen (.connect locals point counted)
  cases step with
  | connectFound connected =>
      obtain ⟨session, stored⟩ := Option.isSome_iff_exists.mp connected
      have kept : installSession session shared.session = shared.session := by
        rw [stored]
        rfl
      have found : Mirrors config channel ⟨state, .connecting locals.path⟩ _ _ :=
        mirrors_connected sees counted session
      rwa [kept] at found
  | connectEmpty => exact stays sees _
  | @connectDial _ outcome =>
      cases outcome with
      | opened now => exact stays sees _
      | refused error =>
          exact mirrors_connectFailed sees counted ("failed to connect to MQTT broker: " ++ error)
      | readTimeoutRefused error =>
          exact mirrors_connectFailed sees counted ("failed to set MQTT read timeout: " ++ error)
      | writeTimeoutRefused error =>
          exact mirrors_connectFailed sees counted ("failed to set MQTT write timeout: " ++ error)
  | @connectUnbuilt _ _ error => exact mirrors_connectFailed sees counted error
  | @connectHello _ session events sent =>
      have seen := (sees.observe sent.2).deliver
        (deliveredTo (.reconnect channel locals) (deliveredEvents session.inboundDecoder events))
      obtain ⟨error | _, after⟩ := sent
      · exact mirrors_connectFailed seen counted error
      · exact stays seen _
  | @connectRead _ session input round =>
      have seen := (sees.observe round.2).deliver
        (deliveredTo (.reconnect channel locals)
          (input.read.deliveredEvents session.inboundDecoder))
      obtain ⟨verdict, after⟩ := round
      cases verdict with
      | alreadyConnected | accepted | waiting => exact stays seen _
      | rejected detail =>
          exact mirrors_connectFailed seen counted ("mqtt connect rejected: " ++ detail)
      | failed error => exact mirrors_connectFailed seen counted error
  | @connectInstall _ session => exact mirrors_connected sees counted session
  | peerCloses => exact mirrors_here sees (.connect locals.closed connecting counted)

/-! ## The loop -/

/-- A failure is recorded and announced before the flag is cleared. -/
theorem mirrors_fails (sees : state.Sees shared) (error : String) {exit : FailureExit}
    (clears : exit ≠ .leaves)
    (stands : Stands channel state.reconnectAttempt next (.afterClearRunning exit)) :
    Mirrors config channel ⟨state, .record error exit⟩ { shared with listenerRunning := false }
      next := by
  have cleared (reported : LoopState (MqttClientSession stack)) (seen : reported.Sees shared)
      (counted : reported.reconnectAttempt = state.reconnectAttempt) :
      Mirrors config channel ⟨reported, .clearRunning exit⟩
        { shared with listenerRunning := false } next :=
    (mirrors_here ⟨seen.session, rfl, seen.listenerCommandSender⟩ (counted ▸ stands)).after
      .clearRunning
  have announced : LoopPoint.afterAnnounce exit =
      (.clearRunning exit : LoopPoint (MqttClientSession stack)) := by
    cases exit with
    | leaves => exact absurd rfl clears
    | stops | retests => rfl
  have told := cleared ((state.putError true (some error)).broadcast true (.failed error))
    ⟨sees.session, sees.listenerRunning, sees.listenerCommandSender⟩ rfl
  rw [← announced] at told
  exact (told.after (.announce true)).after (.record true)

theorem TaskStep.mirrored_loopTest
    (step : TaskStep config shared (.listener channel .loopTest) label later next)
    (sees : state.Sees shared) : Mirrors config channel ⟨state, .loopTest⟩ later next := by
  cases step with
  | listen running =>
      exact (mirrors_here sees .take).after (.listen (sees.listenerRunning.trans running))
  | listenEnds stopped =>
      exact (mirrors_here sees .exitSender).after (.listenEnds (sees.listenerRunning.trans stopped))
  | peerCloses => exact mirrors_here sees .loopTest

theorem TaskStep.mirrored_take
    (step : TaskStep config shared (.listener channel .take) label later next)
    (sees : state.Sees shared) : Mirrors config channel ⟨state, .take⟩ later next := by
  cases step with
  | take stored =>
      exact (mirrors_here (sees.put none) (.drain _)).after (.take (sees.session.trans stored))
  | takeNothing empty =>
      have waited : Mirrors config channel ⟨state, .waitForSession⟩ shared
          (.listener channel .loopTest) :=
        (mirrors_here (sees.traced _) .loopTest).after .waitForSession
      exact waited.after (.takeNothing (sees.session.trans empty))
  | peerCloses => exact mirrors_here sees .take

theorem TaskStep.mirrored_drain {session : MqttClientSession stack}
    (step : TaskStep config shared (.listener channel (.drain session)) label later next)
    (sees : state.Sees shared) : Mirrors config channel ⟨state, .drain session⟩ later next := by
  cases step with
  | receiveCommand located first =>
      exact mirrors_here ⟨sees.session, sees.listenerRunning, sees.listenerCommandSender⟩
        (.send _ _ _)
  | drained => exact (mirrors_here sees (.poll session)).after .drained
  | peerCloses => exact mirrors_here sees (.drain session)

/-- While a command is served the loop waits for its result. -/
theorem TaskStep.mirrored_command {serving : ListenerPoint stack} {command : DriverCall}
    {session held : MqttClientSession stack}
    (served : serving = .send session command ∨ serving = .ack session command)
    (step : TaskStep config shared (.listener channel serving) label later next)
    (sees : state.Sees shared) : Mirrors config channel ⟨state, .drain held⟩ later next := by
  rcases served with rfl | rfl
  · cases step with
    | @commandSend _ _ _ input sent =>
        have seen := ((sees.observe sent.2).deliver
          (input.deliveredEvents session.inboundDecoder command.request)).record
            (.attempt command.id
              (sendReachedSocket command.request input (shared.sessionState session)))
        obtain ⟨error | _, after⟩ := sent
        · exact mirrors_here seen (.respond _ _ _ held)
        · exact mirrors_here seen (.ack _ _ held)
    | peerCloses => exact mirrors_here sees (.send session command held)
  · cases step with
    | @commandAck _ _ _ input answer =>
        have seen := (sees.observe answer.2).deliver
          (input.read.deliveredEvents session.inboundDecoder)
        exact mirrors_here seen (.respond _ _ _ held)
    | peerCloses => exact mirrors_here sees (.ack session command held)

theorem TaskStep.mirrored_respond {command : DriverCall} {session held : MqttClientSession stack}
    {response : Except String SessionCommandResult}
    (step : TaskStep config shared (.listener channel (.respond session command response)) label
      later next) (sees : state.Sees shared) :
    Mirrors config channel ⟨state, .drain held⟩ later next := by
  cases step with
  | respond =>
      have seen : state.Sees (shared.respond ⟨command, response⟩) :=
        ⟨sees.session, sees.listenerRunning, sees.listenerCommandSender⟩
      cases response with
      | ok result => exact (mirrors_here seen (.drain session)).after .command
      | error error =>
          have failed : LoopStep config.reconnect ⟨state, .drain held⟩
              (.command (.error error) session) ⟨_, .clear .command error⟩ := .commandFailed
          exact (mirrors_here (seen.traced _) (.clear .command session error)).after failed
  | peerCloses => exact mirrors_here sees (.respond session command response held)

theorem TaskStep.mirrored_poll {session : MqttClientSession stack}
    (step : TaskStep config shared (.listener channel (.poll session)) label later next)
    (sees : state.Sees shared) : Mirrors config channel ⟨state, .poll session⟩ later next := by
  cases step with
  | @poll _ _ input answer =>
      have seen := (sees.observe answer.2).deliver
        (input.read.deliveredEvents session.inboundDecoder)
      obtain ⟨error | messages, after⟩ := answer
      · have failed : LoopStep config.reconnect ⟨state, .poll session⟩
            (.read (.error error) after.session) ⟨_, .clear .read error⟩ := .pollFailed
        exact (mirrors_here (seen.traced _) (.clear .read after.session error)).after failed
      · have answered : LoopStep config.reconnect ⟨state, .poll session⟩
            (.read (.ok messages) after.session)
            ⟨_, .restore after.session (routedEvents messages)⟩ := .poll
        exact (mirrors_here (seen.counted 0) (.restore _ _)).after answered
  | peerCloses => exact mirrors_here sees (.poll session)

theorem TaskStep.mirrored_restore {session : MqttClientSession stack} {events : List RoutedEvent}
    (step : TaskStep config shared (.listener channel (.restore session events)) label later next)
    (sees : state.Sees shared) :
    Mirrors config channel ⟨state, .restore session events⟩ later next := by
  cases step with
  | restore =>
      exact (mirrors_here (sees.put (some session)) (.forward events)).after (.restore true)
  | peerCloses => exact mirrors_here sees (.restore session events)

theorem TaskStep.mirrored_forward {events : List RoutedEvent}
    (step : TaskStep config shared (.listener channel (.forward events)) label later next)
    (sees : state.Sees shared) : Mirrors config channel ⟨state, .forward events⟩ later next := by
  cases step with
  | forwarded => exact (mirrors_here sees .loopTest).after .forwarded
  | @forward _ event events =>
      have handed : LoopStep config.reconnect ⟨state, .forward (event :: events)⟩ (.sink true)
          ⟨state, .forward events⟩ := .forward
      exact (mirrors_here (sees.hand _) (.forward events)).after handed
  | @forwardRefused _ event events =>
      have refused : LoopStep config.reconnect ⟨state, .forward (event :: events)⟩ (.sink false)
          ⟨state, .record "failed to forward MQTT event to sink" .retests⟩ := .forwardRefused
      have failed : Mirrors config channel
          ⟨state, .record "failed to forward MQTT event to sink" .retests⟩
          { shared with listenerRunning := false } (.listener channel .loopTest) :=
        mirrors_fails sees _ nofun .loopTest
      exact failed.after refused
  | peerCloses => exact mirrors_here sees (.forward events)

/-! ## The reconnect loops -/

theorem TaskStep.mirrored_clear {path : ReconnectPath} {failed : MqttClientSession stack}
    {error : String}
    (step : TaskStep config shared (.listener channel (.clear path failed)) label later next)
    (sees : state.Sees shared) (unused : state.reconnectAttempt = 0) :
    Mirrors config channel ⟨state, .clear path error⟩ later next := by
  cases step with
  | clear =>
      have stands : Stands channel state.reconnectAttempt
          (.listener channel (.reconnectTest { path, attempt := 0, failed }))
          (.reconnectTest path error) :=
        .reconnectTest { path, attempt := 0, failed } error unused.symm
      exact (mirrors_here (sees.put none) stands).after (.clear true)
  | peerCloses => exact mirrors_here sees (.clear path failed error)

theorem TaskStep.mirrored_reconnectTest {error : String}
    (step : TaskStep config shared (.listener channel (.reconnectTest locals)) label later next)
    (sees : state.Sees shared) (counted : locals.attempt = state.reconnectAttempt) :
    Mirrors config channel ⟨state, .reconnectTest locals.path error⟩ later next := by
  obtain ⟨path, attempt, failed⟩ := locals
  obtain rfl : attempt = state.reconnectAttempt := counted
  cases step with
  | reconnectDelayed running allowed =>
      have waited : Mirrors config channel
          ⟨{ state with reconnectAttempt := saturatingSucc state.reconnectAttempt },
            .reconnectDelay path error⟩ shared
          (.listener channel
            (.reconnectSlept ⟨path, saturatingSucc state.reconnectAttempt, failed⟩)) :=
        (mirrors_here ((sees.counted _).traced _)
          (.reconnectSlept ⟨path, _, failed⟩ error rfl)).after .reconnectDelay
      exact waited.after (.reconnectAllowed (sees.listenerRunning.trans running) allowed)
  | reconnectRefused running refused =>
      exact (mirrors_here (sees.counted _) (.reconnectEnded ⟨path, _, failed⟩ error rfl)).after
          (.reconnectRefused (sees.listenerRunning.trans running) refused)
  | reconnectStopped stopped =>
      exact (mirrors_here sees (.reconnectEnded ⟨path, _, failed⟩ error rfl)).after
        (.reconnectStopped (sees.listenerRunning.trans stopped))
  | peerCloses => exact mirrors_here sees (.reconnectTest _ error rfl)

theorem TaskStep.mirrored_reconnectSlept {error : String}
    (step : TaskStep config shared (.listener channel (.reconnectSlept locals)) label later next)
    (sees : state.Sees shared) (counted : locals.attempt = state.reconnectAttempt) :
    Mirrors config channel ⟨state, .reconnectSlept locals.path error⟩ later next := by
  cases step with
  | reconnect running =>
      exact (mirrors_here (sees.traced _)
        (.connect locals .test counted)).after (.reconnect (sees.listenerRunning.trans running))
  | sleptThroughStop stopped =>
      exact (mirrors_here sees (.reconnectEnded locals error counted)).after
        (.sleptThroughStop (sees.listenerRunning.trans stopped))
  | peerCloses => exact mirrors_here sees (.reconnectSlept locals.closed error counted)

theorem TaskStep.mirrored_reconnectTake
    (step : TaskStep config shared (.listener channel (.reconnectTake locals)) label later next)
    (sees : state.Sees shared) (counted : locals.attempt = state.reconnectAttempt) :
    Mirrors config channel ⟨state, .reconnectTake locals.path⟩ later next := by
  cases step with
  | reconnectTake stored =>
      exact (mirrors_here (sees.put none)
        (.replayLoad locals _ _ counted)).after (.reconnectTake (sees.session.trans stored))
  | reconnectTakeNothing empty =>
      exact (mirrors_here (sees.traced _) (.reconnectTest locals _ counted)).after
          (.reconnectTakeNothing (sees.session.trans empty))
  | peerCloses => exact mirrors_here sees (.reconnectTake locals.closed counted)

/-! ## Replay -/

/-- A failed step of the replay ends it with its error. -/
theorem mirrors_replayFailed {held : MqttClientSession stack} (sees : state.Sees shared)
    (counted : locals.attempt = state.reconnectAttempt) (session : MqttClientSession stack)
    (error : String) :
    Mirrors config channel ⟨state, .replaying locals.path held⟩ shared
      (.listener channel (.replayFailed locals session)) := by
  have failed : LoopStep config.reconnect ⟨state, .replaying locals.path held⟩
      (.replayed (.error error) session) ⟨_, .replayFailed locals.path error⟩ := .replayFailed
  exact (mirrors_here (sees.traced _) (.replayFailed locals session error counted)).after failed

/-- Where a replay goes on, and with what it is stored. -/
inductive Replaying (locals : Reconnect stack) : ListenerPoint stack → Prop
  | load (session) : Replaying locals (.replayLoad locals session)
  | subscriptions (replay) : Replaying locals (.replaySubscriptions locals replay)
  | subscriptionAck (replay) : Replaying locals (.replaySubscriptionAck locals replay)
  | queued (replay) : Replaying locals (.replayQueued locals replay)
  | queuedAck (replay) : Replaying locals (.replayQueuedAck locals replay)

theorem Replaying.mirrored {replaying : ListenerPoint stack} {held : MqttClientSession stack}
    (replays : Replaying locals replaying) (sees : state.Sees shared)
    (counted : locals.attempt = state.reconnectAttempt) :
    Mirrors config channel ⟨state, .replaying locals.path held⟩ shared
      (.listener channel replaying) := by
  cases replays with
  | load session => exact mirrors_here sees (.replayLoad locals session held counted)
  | subscriptions replay =>
      exact mirrors_here sees (.replaySubscriptions locals replay held counted)
  | subscriptionAck replay =>
      exact mirrors_here sees (.replaySubscriptionAck locals replay held counted)
  | queued replay => exact mirrors_here sees (.replayQueued locals replay held counted)
  | queuedAck replay => exact mirrors_here sees (.replayQueuedAck locals replay held counted)

theorem mirrored_replaySend {held : MqttClientSession stack} {replay : Replay stack}
    {onward : Reconnect stack → Replay stack → ListenerPoint stack}
    {sent : Except String Unit × SessionState stack} (sees : state.Sees shared)
    (counted : locals.attempt = state.reconnectAttempt)
    (replays : ∀ replay, Replaying locals (onward locals replay)) :
    Mirrors config channel ⟨state, .replaying locals.path held⟩ shared
      (.listener channel (afterReplaySend locals replay onward sent)) := by
  obtain ⟨error | _, after⟩ := sent
  · exact mirrors_replayFailed sees counted after.session error
  · exact (replays _).mirrored sees counted

theorem mirrored_replayAck {held : MqttClientSession stack} {replay : Replay stack}
    {onward : Reconnect stack → Replay stack → ListenerPoint stack}
    {answer : Except String (List RoutedMessage) × SessionState stack} (sees : state.Sees shared)
    (counted : locals.attempt = state.reconnectAttempt)
    (replays : ∀ replay, Replaying locals (onward locals replay)) :
    Mirrors config channel ⟨state, .replaying locals.path held⟩ shared
      (.listener channel (afterReplayAck locals replay onward answer)) := by
  obtain ⟨error | messages, after⟩ := answer
  · exact mirrors_replayFailed sees counted after.session error
  · exact (replays _).mirrored sees counted

theorem TaskStep.mirrored_replaying {replaying : ListenerPoint stack}
    {held : MqttClientSession stack} (replays : Replaying locals replaying)
    (step : TaskStep config shared (.listener channel replaying) label later next)
    (sees : state.Sees shared) (counted : locals.attempt = state.reconnectAttempt) :
    Mirrors config channel ⟨state, .replaying locals.path held⟩ later next := by
  cases replays with
  | load session =>
      cases step with
      | replayLoad => exact (Replaying.subscriptions _).mirrored sees counted
      | peerCloses => exact mirrors_here sees (.replayLoad locals.closed session held counted)
  | subscriptions replay =>
      cases step with
      | @replaySubscription _ _ session request requests queued recovered input sent sends =>
          exact mirrored_replaySend ((sees.observe sent.2).deliver _) counted .subscriptionAck
      | drainQueue =>
          exact (Replaying.queued _).mirrored
            ⟨sees.session, sees.listenerRunning, sees.listenerCommandSender⟩ counted
      | peerCloses =>
          exact mirrors_here sees (.replaySubscriptions locals.closed replay held counted)
  | subscriptionAck replay =>
      cases step with
      | @replaySubscriptionAck _ _ _ input answer reads =>
          exact mirrored_replayAck ((sees.observe answer.2).deliver _) counted .subscriptions
      | peerCloses =>
          exact mirrors_here sees (.replaySubscriptionAck locals.closed replay held counted)
  | queued replay =>
      cases step with
      | @replayRequest _ _ session subscriptions entry entries recovered input sent sends =>
          exact mirrored_replaySend (((sees.observe sent.2).deliver _).record _) counted .queuedAck
      | @replayed _ _ session subscriptions recovered =>
          have finished : LoopStep config.reconnect ⟨state, .replaying locals.path held⟩
              (.replayed (.ok recovered) session) ⟨_, .recovered locals.path session recovered⟩ :=
            .replayed
          exact (mirrors_here (sees.traced _)
            (.recovered locals { session, subscriptions, queued := [], recovered })).after finished
      | peerCloses => exact mirrors_here sees (.replayQueued locals.closed replay held counted)
  | queuedAck replay =>
      cases step with
      | @replayRequestAck _ _ _ input answer reads =>
          exact mirrored_replayAck ((sees.observe answer.2).deliver _) counted .queued
      | peerCloses => exact mirrors_here sees (.replayQueuedAck locals.closed replay held counted)

theorem TaskStep.mirrored_replayFailed {session : MqttClientSession stack} {error : String}
    (step : TaskStep config shared (.listener channel (.replayFailed locals session)) label later
      next) (sees : state.Sees shared) (counted : locals.attempt = state.reconnectAttempt) :
    Mirrors config channel ⟨state, .replayFailed locals.path error⟩ later next := by
  cases step with
  | replayFailed =>
      exact (mirrors_here (sees.put none)
        (.reconnectTest locals error counted)).after (.replayDropped true)
  | peerCloses => exact mirrors_here sees (.replayFailed locals.closed session error counted)

theorem mirrors_reset (sees : state.Sees shared) :
    Mirrors config channel ⟨state, .reset⟩ shared (.listener channel .loopTest) :=
  (mirrors_here ⟨sees.session, sees.listenerRunning, sees.listenerCommandSender⟩ .loopTest).after
    (.reset true)

theorem TaskStep.mirrored_recovered {replay : Replay stack}
    (step : TaskStep config shared (.listener channel (.recovered locals replay)) label later next)
    (sees : state.Sees shared) :
    Mirrors config channel ⟨state, .recovered locals.path replay.session replay.recovered⟩ later
      next := by
  obtain ⟨path, attempt, failed⟩ := locals
  cases step with
  | recovered =>
      have seen : (state.putSession true (some replay.session)).Sees
          { shared with session := some replay.session } :=
        sees.put (some replay.session)
      cases path with
      | command =>
          exact (mirrors_here seen (.forwardRecovered _ replay.recovered)).after (.recovered true)
      | read => exact (mirrors_reset seen).after (.recovered true)
  | peerCloses => exact mirrors_here sees (.recovered _ replay)

theorem TaskStep.mirrored_forwardRecovered {events : List RoutedEvent}
    (step : TaskStep config shared (.listener channel (.forwardRecovered locals events)) label
      later next) (sees : state.Sees shared) :
    Mirrors config channel ⟨state, .forwardRecovered events⟩ later next := by
  cases step with
  | forwardedRecovered => exact (mirrors_reset sees).after .forwardedRecovered
  | @forwardRecovered _ _ event events =>
      have handed : LoopStep config.reconnect ⟨state, .forwardRecovered (event :: events)⟩
          (.sink true) ⟨state, .forwardRecovered events⟩ := .forwardRecovered
      exact (mirrors_here (sees.hand _) (.forwardRecovered locals events)).after handed
  | @forwardRecoveredRefused _ _ event events =>
      have refused : LoopStep config.reconnect ⟨state, .forwardRecovered (event :: events)⟩
          (.sink false) ⟨state, .record "failed to forward MQTT event to sink" .stops⟩ :=
        .forwardRecoveredRefused
      have failed : Mirrors config channel
          ⟨state, .record "failed to forward MQTT event to sink" .stops⟩
          { shared with listenerRunning := false } (.listener channel .exitSender) :=
        mirrors_fails sees _ nofun .exitSender
      exact failed.after refused
  | peerCloses => exact mirrors_here sees (.forwardRecovered _ events)

/-! ## The end -/

theorem TaskStep.mirrored_reconnectEnded {error : String}
    (step : TaskStep config shared (.listener channel (.reconnectEnded locals)) label later next)
    (sees : state.Sees shared) (counted : locals.attempt = state.reconnectAttempt) :
    Mirrors config channel ⟨state, .reconnectEnded locals.path error⟩ later next := by
  cases step with
  | listenAgain running unused =>
      obtain ⟨read, zero⟩ := unused
      rw [read]
      exact (mirrors_here sees .loopTest).after
        (.listenAgain (counted.symm.trans zero) (sees.listenerRunning.trans running))
  | reconnectEnded used =>
      refine (mirrors_here sees (.reconnectGivenUp locals error)).after (.reconnectEnded ?_)
      rintro ⟨read, zero, running⟩
      rcases used with stopped | used
      · cases stopped.symm.trans (sees.listenerRunning.symm.trans running)
      · exact used ⟨read, counted.trans zero⟩
  | peerCloses => exact mirrors_here sees (.reconnectEnded locals.closed error counted)

theorem TaskStep.mirrored_reconnectGivenUp {error : String}
    (step : TaskStep config shared (.listener channel (.reconnectGivenUp locals)) label later next)
    (sees : state.Sees shared) : Mirrors config channel ⟨state, .endedTest error⟩ later next := by
  cases step with
  | endedByStop stopped =>
      exact (mirrors_here sees .exitSender).after
        (.endedByStop (sees.listenerRunning.trans stopped))
  | reconnectGivenUp running =>
      have failed : Mirrors config channel ⟨state, .record error .stops⟩
          { shared with listenerRunning := false } (.listener channel .exitSender) :=
        mirrors_fails sees error nofun .exitSender
      exact failed.after (.givenUp (sees.listenerRunning.trans running))
  | peerCloses => exact mirrors_here sees (.reconnectGivenUp locals.closed error)

theorem TaskStep.mirrored_exitSender
    (step : TaskStep config shared (.listener channel .exitSender) label later next)
    (sees : state.Sees shared) : Mirrors config channel ⟨state, .exitSender⟩ later next := by
  cases step with
  | exitSender =>
      exact (mirrors_here ⟨sees.session, sees.listenerRunning, rfl⟩ .exitRunning).after
        (.exitSender true)
  | peerCloses => exact mirrors_here sees .exitSender

theorem TaskStep.mirrored_exitRunning
    (step : TaskStep config shared (.listener channel .exitRunning) label later next)
    (sees : state.Sees shared) : Mirrors config channel ⟨state, .exitRunning⟩ later next := by
  cases step with
  | exitRunning =>
      exact (mirrors_here ⟨sees.session, rfl, sees.listenerCommandSender⟩ .exitClose).after
        .exitRunning
  | peerCloses => exact mirrors_here sees .exitRunning

theorem TaskStep.mirrored_exitClose
    (step : TaskStep config shared (.listener channel .exitClose) label later next)
    (sees : state.Sees shared) : Mirrors config channel ⟨state, .exitStatus⟩ later next := by
  cases step with
  | @exitClose _ queue located =>
      have announced (status : MqttListenerStatus) :
          Mirrors config channel ⟨state, .exitAnnounce status⟩
            ((shared.setChannel channel { commands := [], receiverAlive := false }).closeReplies
              queue.commands)
            .finished :=
        (mirrors_here ⟨sees.session, sees.listenerRunning, sees.listenerCommandSender⟩
          .finished).after (.exitAnnounce true)
      exact (announced _).after (.exitStatus true)
  | peerCloses => exact mirrors_here sees .exitClose

theorem TaskStep.mirrored_finished
    (step : TaskStep config shared .finished label later next) (sees : state.Sees shared) :
    Mirrors config channel ⟨state, .finished⟩ later next := by
  cases step with
  | peerCloses => exact mirrors_here sees .finished

/-- Whatever the task of a listener does, the loop does too. -/
theorem TaskStep.mirrored (step : TaskStep config shared point label later next)
    (sees : loop.state.Sees shared)
    (stands : Stands channel loop.state.reconnectAttempt point loop.point)
    (paced : Paced config.reconnect loop) : Mirrors config channel loop later next := by
  obtain ⟨state, here⟩ := loop
  cases stands with
  | loopTest => exact step.mirrored_loopTest sees
  | take => exact step.mirrored_take sees
  | drain => exact step.mirrored_drain sees
  | send session command => exact step.mirrored_command (.inl rfl) sees
  | ack session command => exact step.mirrored_command (.inr rfl) sees
  | respond => exact step.mirrored_respond sees
  | poll => exact step.mirrored_poll sees
  | restore => exact step.mirrored_restore sees
  | forward => exact step.mirrored_forward sees
  | clear =>
      obtain ⟨unused, -⟩ := paced.counted
      exact step.mirrored_clear sees unused
  | reconnectTest locals error counted => exact step.mirrored_reconnectTest sees counted
  | reconnectSlept locals error counted => exact step.mirrored_reconnectSlept sees counted
  | connect locals connecting counted => exact step.mirrored_connect sees counted
  | reconnectTake locals counted => exact step.mirrored_reconnectTake sees counted
  | replayLoad locals session held counted => exact step.mirrored_replaying (.load _) sees counted
  | replaySubscriptions locals replay held counted =>
      exact step.mirrored_replaying (.subscriptions _) sees counted
  | replaySubscriptionAck locals replay held counted =>
      exact step.mirrored_replaying (.subscriptionAck _) sees counted
  | replayQueued locals replay held counted =>
      exact step.mirrored_replaying (.queued _) sees counted
  | replayQueuedAck locals replay held counted =>
      exact step.mirrored_replaying (.queuedAck _) sees counted
  | replayFailed locals session error counted => exact step.mirrored_replayFailed sees counted
  | recovered => exact step.mirrored_recovered sees
  | forwardRecovered => exact step.mirrored_forwardRecovered sees
  | reconnectEnded locals error counted => exact step.mirrored_reconnectEnded sees counted
  | reconnectGivenUp => exact step.mirrored_reconnectGivenUp sees
  | exitSender => exact step.mirrored_exitSender sees
  | exitRunning => exact step.mirrored_exitRunning sees
  | exitClose => exact step.mirrored_exitClose sees
  | finished => exact step.mirrored_finished sees

/-! ## The driver -/

variable {index : Nat} {system after : DriverSystem stack}

/-- The loop started as the listener did, and stands where it stands now. -/
def ListenerRuns (config : MqttEndpointConfig) (channel index : Nat)
    (began : ListenerLoop (MqttClientSession stack)) (system : DriverSystem stack) : Prop :=
  ∃ loop point, LoopRun config began loop ∧ system.tasks[index]? = some point ∧
    loop.state.Sees system.shared ∧ Stands channel loop.state.reconnectAttempt point loop.point

theorem Mirrors.listenerRuns {began : ListenerLoop (MqttClientSession stack)}
    (mirrors : Mirrors config channel loop system.shared point) (run : LoopRun config began loop)
    (located : system.tasks[index]? = some point) :
    ListenerRuns config channel index began system := by
  obtain ⟨after, onward, sees, stands⟩ := mirrors
  exact ⟨after, point, run.trans onward, located, sees, stands⟩

theorem listenerRuns_step {began : ListenerLoop (MqttClientSession stack)}
    {label : Nat × StepLabel stack} (paced : ∀ loop, LoopRun config began loop →
      Paced config.reconnect loop)
    (runs : ListenerRuns config channel index began system)
    (step : SystemStep config system label after) :
    ListenerRuns config channel index began after := by
  obtain ⟨loop, point, run, located, sees, stands⟩ := runs
  have bounded : index < system.tasks.length := (List.getElem?_eq_some_iff.mp located).1
  cases step with
  | @task other _ _ _ _ found step =>
      by_cases same : other = index
      · subst same
        obtain rfl := Option.some.inj (found.symm.trans located)
        exact (step.mirrored sees stands (paced loop run)).listenerRuns run
          (List.getElem?_set_self bounded)
      · exact (mirrors_others stands _).listenerRuns run
          ((List.getElem?_set_ne same).trans located)
  | @spawn other spawned found =>
      have apart : other ≠ index := by
        rintro rfl
        obtain rfl := Option.some.inj (found.symm.trans located)
        cases stands
      refine ⟨loop, point, run, ?_, sees, stands⟩
      rw [List.getElem?_append_left (by rwa [List.length_set]), List.getElem?_set_ne apart]
      exact located

/-- Whatever the tasks of a driver do, a listener that starts its loop there runs the loop. -/
theorem listener_runs_loop (started : system.tasks[index]? = some (.listener channel .loopTest))
    (found : Option String)
    (run : Run (SystemStep config) (fun _ _ => True) system after) :
    ListenerRuns config channel index
      (.begin system.shared.session system.shared.listenerRunning found
        system.shared.listenerCommandSender) after := by
  refine run.invariant (ListenerRuns config channel index _) ?_ fun runs _ step =>
    listenerRuns_step (fun _ reached => paced_of_run reached) runs step
  exact ⟨_, _, .refl _, started, ⟨rfl, rfl, rfl⟩, .loopTest⟩

/-- No listener of a driver connects again with an attempt beyond the maximum. -/
theorem reconnect_within_maximum {connecting : ConnectPoint stack} {maxAttempts : UInt32}
    (started : system.tasks[index]? = some (.listener channel .loopTest))
    (run : Run (SystemStep config) (fun _ _ => True) system after)
    (connects : after.tasks[index]? = some (.connect (.reconnect channel locals) connecting))
    (limited : config.reconnect.maxAttempts = some maxAttempts) :
    locals.attempt.toNat ≤ maxAttempts.toNat := by
  obtain ⟨loop, point, reached, located, sees, stands⟩ := listener_runs_loop started none run
  obtain rfl := Option.some.inj (located.symm.trans connects)
  have paced := paced_of_run reached
  obtain ⟨state, here⟩ := loop
  cases stands with
  | connect locals connecting counted =>
      have counter : state.reconnectAttempt = attemptNumber (attemptsSinceRecovery state.trace) :=
        paced.counted
      rw [counted, counter, toNat_attemptNumber]
      rcases allowsAttempt_of_due paced.due with unused | allowed
      · rw [unused]
        exact Nat.zero_le _
      · exact le_of_allowsAttempt allowed limited

end Mqtt
end Ferredge
