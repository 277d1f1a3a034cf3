import Ferredge.Mqtt.Driver
import Ferredge.Transition

/-!
# Steps of the MQTT driver

One step takes one task from a program point to its next one.  A step between two points is a single
access to the shared state or a single operation on a session that the task owns.
-/

namespace Ferredge
namespace Mqtt

variable {stack : MqttStack}

/-- The broker closes the failed connections that a listener still holds. -/
def ListenerPoint.closeFailed : ListenerPoint stack → ListenerPoint stack
  | reconnectTest locals => .reconnectTest locals.closed
  | reconnectSlept locals => .reconnectSlept locals.closed
  | reconnectTake locals => .reconnectTake locals.closed
  | replayLoad locals session => .replayLoad locals.closed session
  | replaySubscriptions locals replay => .replaySubscriptions locals.closed replay
  | replaySubscriptionAck locals replay => .replaySubscriptionAck locals.closed replay
  | replayQueued locals replay => .replayQueued locals.closed replay
  | replayQueuedAck locals replay => .replayQueuedAck locals.closed replay
  | replayFailed locals session => .replayFailed locals.closed session
  | recovered locals replay => .recovered locals.closed replay
  | forwardRecovered locals events => .forwardRecovered locals.closed events
  | reconnectEnded locals => .reconnectEnded locals.closed
  | reconnectGivenUp locals => .reconnectGivenUp locals.closed
  | point => point

/-- The broker closes the failed connections that a task still holds. -/
def TaskPoint.closeFailed : TaskPoint stack → TaskPoint stack
  | connect (.reconnect channel locals) point => .connect (.reconnect channel locals.closed) point
  | listener channel point => .listener channel point.closeFailed
  | point => point

/-- The next number of an attempt. -/
def saturatingSucc (attempt : UInt32) : UInt32 :=
  if attempt = 4294967295 then attempt else attempt + 1

variable (config : MqttEndpointConfig)

/-- The subscriptions that a replay sends, in any order: they are kept in a hash map. -/
def ReplaysSubscriptions (shared : DriverShared stack) (subscriptions : List MqttPacketRequest) :
    Prop :=
  if config.reconnect.replaySubscriptions then
    subscriptions.Perm (shared.desiredSubscriptions.map Prod.snd)
  else subscriptions = []

/-- A step of one task. -/
inductive TaskStep : DriverShared stack → TaskPoint stack → StepLabel stack →
    DriverShared stack → TaskPoint stack → Prop
  -- `ensure_connected`
  | connectFound {shared purpose} (connected : shared.session.isSome) :
      TaskStep shared (.connect purpose .test) .internal shared (afterConnect purpose (.ok ()))
  | connectEmpty {shared purpose} (empty : shared.session = none) :
      TaskStep shared (.connect purpose .test) .internal shared (.connect purpose .dial)
  | connectDial {shared purpose outcome} :
      TaskStep shared (.connect purpose .dial) (.dial outcome) shared
        (afterDial config.keepaliveSecs purpose outcome)
  | connectUnbuilt {shared purpose session error} :
      TaskStep shared (.connect purpose (.hello session)) (.hello (.error error)) shared
        (afterConnect purpose (.error error))
  | connectHello {shared purpose session events sent}
      (sends : handleConnectionEvents ⟨true, true⟩ events [] (shared.sessionState session) = sent) :
      TaskStep shared (.connect purpose (.hello session)) (.hello (.ok events))
        ((shared.observe sent.2).deliver
          (deliveredTo purpose (deliveredEvents session.inboundDecoder events)))
        (afterHello purpose sent)
  | connectRead {shared purpose session input round}
      (reads : connectRound input (shared.sessionState session) = round) :
      TaskStep shared (.connect purpose (.handshake session)) (.read input)
        ((shared.observe round.2).deliver
          (deliveredTo purpose (input.read.deliveredEvents session.inboundDecoder)))
        (afterRound purpose round)
  | connectInstall {shared purpose session} :
      TaskStep shared (.connect purpose (.install session)) .internal
        { shared with session := installSession session shared.session }
        (afterConnect purpose (.ok ()))
  -- `publish`, `subscribe` and `unsubscribe`
  | track {shared call} :
      TaskStep shared (.track call) .internal
        { shared with
          desiredSubscriptions :=
            trackSubscriptionIntent call.request shared.desiredSubscriptions }
        (.testRunning call)
  | viaListener {shared call} (running : shared.listenerRunning = true) :
      TaskStep shared (.testRunning call) .internal shared (.cloneSender call)
  | direct {shared call} (stopped : shared.listenerRunning = false) :
      TaskStep shared (.testRunning call) .internal shared (.connect (.call call) .test)
  | cloneSender {shared call channel} (stored : shared.listenerCommandSender = some channel) :
      TaskStep shared (.cloneSender call) .internal shared (.sendCommand call channel)
  | senderMissing {shared call} (missing : shared.listenerCommandSender = none) :
      TaskStep shared (.cloneSender call) .internal (shared.record (.fellBack call.id))
        (.fallBack call none)
  | sendCommand {shared call channel queue}
      (located : shared.channels[channel]? = some queue) (alive : queue.receiverAlive = true)
      (room : queue.commands.length < commandChannelCapacity) :
      TaskStep shared (.sendCommand call channel) .internal
        { shared.setChannel channel { queue with commands := queue.commands ++ [call] } with
          receivers := shared.receivers ++ [call.id] }
        (.awaitReply call)
  | sendCommandClosed {shared call channel queue}
      (located : shared.channels[channel]? = some queue) (dead : queue.receiverAlive = false) :
      TaskStep shared (.sendCommand call channel) .internal (shared.record (.fellBack call.id))
        (.fallBack call none)
  | reply {shared call response earlier later}
      (posted : shared.replies = earlier ++ ⟨call, response⟩ :: later) :
      TaskStep shared (.awaitReply call) .internal
        (recordFallBack call response
          ({ shared with replies := earlier ++ later }.dropReceiver call.id))
        (afterReply call response)
  | timeout {shared call} (silent : ∀ reply ∈ shared.replies, reply.call.id ≠ call.id) :
      TaskStep shared (.awaitReply call) .timeout
        ((shared.dropReceiver call.id).record (.fellBack call.id)) (.fallBack call none)
  | enqueue {shared call failed} :
      TaskStep shared (.fallBack call failed) .internal (shared.enqueue config.reconnect call)
        .finished
  | handedOver {shared} :
      TaskStep shared (.handOver []) .internal shared .finished
  | handOver {shared event events} :
      TaskStep shared (.handOver (event :: events)) (.sink true) (shared.hand event)
        (.handOver events)
  | handOverRefused {shared event events} :
      TaskStep shared (.handOver (event :: events)) (.sink false) shared .finished
  | takeSession {shared call session} (stored : shared.session = some session) :
      TaskStep shared (.takeSession call) .internal { shared with session := none }
        (.directSend call session)
  | sessionMissing {shared call} (empty : shared.session = none)
      (stopped : shared.listenerRunning = false) :
      TaskStep shared (.takeSession call) .internal shared .finished
  | directSend {shared call session input sent}
      (sends : sendPacketRequest call.request input (shared.sessionState session) = sent) :
      TaskStep shared (.directSend call session) (.send input)
        ((shared.observe sent.2).record (.attempt call.id
          (sendReachedSocket call.request input (shared.sessionState session))))
        (afterDirectSend call sent)
  | directAck {shared call session input answer}
      (reads : readFromSession ⟨true, true⟩ input (shared.sessionState session) = answer) :
      TaskStep shared (.directAck call session) (.read input) (shared.observe answer.2)
        (afterDirectAck call answer)
  | restoreSession {shared session events} :
      TaskStep shared (.restoreSession session events) .internal
        { shared with session := some session } (.handOverDirect events)
  | handedOverDirect {shared} :
      TaskStep shared (.handOverDirect []) .internal shared .finished
  | handOverDirect {shared event events} :
      TaskStep shared (.handOverDirect (event :: events)) (.sink true) shared
        (.handOverDirect events)
  | handOverDirectRefused {shared event events} :
      TaskStep shared (.handOverDirect (event :: events)) (.sink false) shared .finished
  | clearSession {shared call failed} :
      TaskStep shared (.clearSession call failed) .internal { shared with session := none }
        (.recheckRunning call failed)
  | recheckRunning {shared call failed} (running : shared.listenerRunning = true) :
      TaskStep shared (.recheckRunning call failed) .internal (shared.record (.fellBack call.id))
        (.fallBack call (some failed))
  | recheckStopped {shared call failed} (stopped : shared.listenerRunning = false) :
      TaskStep shared (.recheckRunning call failed) .internal shared .finished
  -- `start_listening`
  | swapRunning {shared} (stopped : shared.listenerRunning = false) :
      TaskStep shared .swapRunning .internal { shared with listenerRunning := true } .openChannel
  | alreadyRunning {shared} (running : shared.listenerRunning = true) :
      TaskStep shared .swapRunning .internal shared .finished
  | openChannel {shared} :
      TaskStep shared .openChannel .internal
        { shared with
          channels := shared.channels ++ [{ commands := [], receiverAlive := true }]
          listenerCommandSender := some shared.channels.length }
        (.spawn shared.channels.length)
  | storeHandle {shared channel} :
      TaskStep shared (.storeHandle channel) .internal
        { shared with listenerHandle := some channel } .finished
  -- The listener's loop
  | listen {shared channel} (running : shared.listenerRunning = true) :
      TaskStep shared (.listener channel .loopTest) .internal shared (.listener channel .take)
  | listenEnds {shared channel} (stopped : shared.listenerRunning = false) :
      TaskStep shared (.listener channel .loopTest) .internal shared
        (.listener channel .exitSender)
  | take {shared channel session} (stored : shared.session = some session) :
      TaskStep shared (.listener channel .take) .internal { shared with session := none }
        (.listener channel (.drain session))
  | takeNothing {shared channel} (empty : shared.session = none) :
      TaskStep shared (.listener channel .take) .internal shared (.listener channel .loopTest)
  | receiveCommand {shared channel session queue command commands}
      (located : shared.channels[channel]? = some queue)
      (first : queue.commands = command :: commands) :
      TaskStep shared (.listener channel (.drain session)) .internal
        (shared.setChannel channel { queue with commands })
        (.listener channel (.send session command))
  | drained {shared channel session queue} (located : shared.channels[channel]? = some queue)
      (empty : queue.commands = []) :
      TaskStep shared (.listener channel (.drain session)) .internal shared
        (.listener channel (.poll session))
  | commandSend {shared channel session command input sent}
      (sends : sendPacketRequest command.request input (shared.sessionState session) = sent) :
      TaskStep shared (.listener channel (.send session command)) (.send input)
        (((shared.observe sent.2).deliver
          (input.deliveredEvents session.inboundDecoder command.request)).record
            (.attempt command.id
              (sendReachedSocket command.request input (shared.sessionState session))))
        (.listener channel (afterCommandSend command sent))
  | commandAck {shared channel session command input answer}
      (reads : readFromSession ⟨false, true⟩ input (shared.sessionState session) = answer) :
      TaskStep shared (.listener channel (.ack session command)) (.read input)
        ((shared.observe answer.2).deliver (input.read.deliveredEvents session.inboundDecoder))
        (.listener channel (afterCommandAck command answer))
  | respond {shared channel session command response} :
      TaskStep shared (.listener channel (.respond session command response)) .internal
        (shared.respond ⟨command, response⟩) (.listener channel (afterRespond session response))
  | poll {shared channel session input answer}
      (reads : readFromSession ⟨true, true⟩ input (shared.sessionState session) = answer) :
      TaskStep shared (.listener channel (.poll session)) (.read input)
        ((shared.observe answer.2).deliver (input.read.deliveredEvents session.inboundDecoder))
        (.listener channel (afterPoll answer))
  | restore {shared channel session events} :
      TaskStep shared (.listener channel (.restore session events)) .internal
        { shared with session := some session } (.listener channel (.forward events))
  | forwarded {shared channel} :
      TaskStep shared (.listener channel (.forward [])) .internal shared
        (.listener channel .loopTest)
  | forward {shared channel event events} :
      TaskStep shared (.listener channel (.forward (event :: events))) (.sink true)
        (shared.hand event) (.listener channel (.forward events))
  | forwardRefused {shared channel event events} :
      TaskStep shared (.listener channel (.forward (event :: events))) (.sink false)
        { shared with listenerRunning := false } (.listener channel .loopTest)
  -- The reconnect loops
  | clear {shared channel path failed} :
      TaskStep shared (.listener channel (.clear path failed)) .internal
        { shared with session := none }
        (.listener channel (.reconnectTest { path, attempt := 0, failed }))
  | reconnectDelayed {shared channel locals} (running : shared.listenerRunning = true)
      (allowed : config.reconnect.allowsAttempt (saturatingSucc locals.attempt)) :
      TaskStep shared (.listener channel (.reconnectTest locals)) .internal shared
        (.listener channel
          (.reconnectSlept { locals with attempt := saturatingSucc locals.attempt }))
  | reconnectRefused {shared channel locals} (running : shared.listenerRunning = true)
      (refused : config.reconnect.allowsAttempt (saturatingSucc locals.attempt) = false) :
      TaskStep shared (.listener channel (.reconnectTest locals)) .internal shared
        (.listener channel
          (.reconnectEnded { locals with attempt := saturatingSucc locals.attempt }))
  | reconnectStopped {shared channel locals} (stopped : shared.listenerRunning = false) :
      TaskStep shared (.listener channel (.reconnectTest locals)) .internal shared
        (.listener channel (.reconnectEnded locals))
  | reconnect {shared channel locals} (running : shared.listenerRunning = true) :
      TaskStep shared (.listener channel (.reconnectSlept locals)) .internal shared
        (.connect (.reconnect channel locals) .test)
  | sleptThroughStop {shared channel locals} (stopped : shared.listenerRunning = false) :
      TaskStep shared (.listener channel (.reconnectSlept locals)) .internal shared
        (.listener channel (.reconnectEnded locals))
  | reconnectTake {shared channel locals session} (stored : shared.session = some session) :
      TaskStep shared (.listener channel (.reconnectTake locals)) .internal
        { shared with session := none } (.listener channel (.replayLoad locals session))
  | reconnectTakeNothing {shared channel locals} (empty : shared.session = none) :
      TaskStep shared (.listener channel (.reconnectTake locals)) .internal shared
        (.listener channel (.reconnectTest locals))
  | recovered {shared channel locals replay} :
      TaskStep shared (.listener channel (.recovered locals replay)) .internal
        { shared with session := some replay.session }
        (.listener channel (afterRecovered locals replay.recovered))
  | forwardedRecovered {shared channel locals} :
      TaskStep shared (.listener channel (.forwardRecovered locals [])) .internal shared
        (.listener channel .loopTest)
  | forwardRecovered {shared channel locals event events} :
      TaskStep shared (.listener channel (.forwardRecovered locals (event :: events))) (.sink true)
        (shared.hand event) (.listener channel (.forwardRecovered locals events))
  | forwardRecoveredRefused {shared channel locals event events} :
      TaskStep shared (.listener channel (.forwardRecovered locals (event :: events))) (.sink false)
        { shared with listenerRunning := false } (.listener channel .exitSender)
  | listenAgain {shared channel locals} (running : shared.listenerRunning = true)
      (unused : locals.path = .read ∧ locals.attempt = 0) :
      TaskStep shared (.listener channel (.reconnectEnded locals)) .internal shared
        (.listener channel .loopTest)
  | reconnectEnded {shared channel locals}
      (used : shared.listenerRunning = false ∨ ¬(locals.path = .read ∧ locals.attempt = 0)) :
      TaskStep shared (.listener channel (.reconnectEnded locals)) .internal shared
        (.listener channel (.reconnectGivenUp locals))
  | endedByStop {shared channel locals} (stopped : shared.listenerRunning = false) :
      TaskStep shared (.listener channel (.reconnectGivenUp locals)) .internal shared
        (.listener channel .exitSender)
  | reconnectGivenUp {shared channel locals} (running : shared.listenerRunning = true) :
      TaskStep shared (.listener channel (.reconnectGivenUp locals)) .internal
        { shared with listenerRunning := false } (.listener channel .exitSender)
  -- Replay
  | replayLoad {shared channel locals session subscriptions}
      (desired : ReplaysSubscriptions config shared subscriptions) :
      TaskStep shared (.listener channel (.replayLoad locals session)) .internal shared
        (.listener channel (.replaySubscriptions locals
          { session, subscriptions, queued := [], recovered := [] }))
  | replaySubscription {shared channel locals session request requests queued recovered input sent}
      (sends : sendPacketRequest request input (shared.sessionState session) = sent) :
      TaskStep shared
        (.listener channel (.replaySubscriptions locals
          { session, subscriptions := request :: requests, queued, recovered }))
        (.send input)
        ((shared.observe sent.2).deliver (input.deliveredEvents session.inboundDecoder request))
        (.listener channel (afterReplaySend locals
          { session, subscriptions := requests, queued, recovered } .replaySubscriptionAck sent))
  | replaySubscriptionAck {shared channel locals replay input answer}
      (reads : readFromSession ⟨true, true⟩ input (shared.sessionState replay.session) = answer) :
      TaskStep shared (.listener channel (.replaySubscriptionAck locals replay)) (.read input)
        ((shared.observe answer.2).deliver
          (input.read.deliveredEvents replay.session.inboundDecoder))
        (.listener channel (afterReplayAck locals replay .replaySubscriptions answer))
  | drainQueue {shared channel locals session queued recovered} :
      TaskStep shared
        (.listener channel (.replaySubscriptions locals
          { session, subscriptions := [], queued, recovered }))
        .internal { shared with recoveryQueue := [] }
        (.listener channel (.replayQueued locals
          { session, subscriptions := [], queued := shared.recoveryQueue, recovered }))
  | replayRequest {shared channel locals session subscriptions entry entries recovered input sent}
      (sends : sendPacketRequest entry.request input (shared.sessionState session) = sent) :
      TaskStep shared
        (.listener channel (.replayQueued locals
          { session, subscriptions, queued := entry :: entries, recovered }))
        (.send input)
        (((shared.observe sent.2).deliver
          (input.deliveredEvents session.inboundDecoder entry.request)).record (.attempt entry.call
            (sendReachedSocket entry.request input (shared.sessionState session))))
        (.listener channel (afterReplaySend locals
          { session, subscriptions, queued := entries, recovered } .replayQueuedAck sent))
  | replayRequestAck {shared channel locals replay input answer}
      (reads : readFromSession ⟨true, true⟩ input (shared.sessionState replay.session) = answer) :
      TaskStep shared (.listener channel (.replayQueuedAck locals replay)) (.read input)
        ((shared.observe answer.2).deliver
          (input.read.deliveredEvents replay.session.inboundDecoder))
        (.listener channel (afterReplayAck locals replay .replayQueued answer))
  | replayed {shared channel locals session subscriptions recovered} :
      TaskStep shared
        (.listener channel (.replayQueued locals
          { session, subscriptions, queued := [], recovered }))
        .internal shared
        (.listener channel (.recovered locals { session, subscriptions, queued := [], recovered }))
  | replayFailed {shared channel locals session} :
      TaskStep shared (.listener channel (.replayFailed locals session)) .internal
        { shared with session := none } (.listener channel (.reconnectTest locals))
  -- The end of a listener
  | exitSender {shared channel} :
      TaskStep shared (.listener channel .exitSender) .internal
        { shared with listenerCommandSender := none } (.listener channel .exitRunning)
  | exitRunning {shared channel} :
      TaskStep shared (.listener channel .exitRunning) .internal
        { shared with listenerRunning := false } (.listener channel .exitClose)
  | exitClose {shared channel queue} (located : shared.channels[channel]? = some queue) :
      TaskStep shared (.listener channel .exitClose) .internal
        ((shared.setChannel channel { commands := [], receiverAlive := false }).closeReplies
          queue.commands)
        .finished
  -- `stop_listening` and `stop`
  | stopFlag {shared disconnects} :
      TaskStep shared (.stop disconnects .flag) .internal
        { shared with listenerRunning := false } (.stop disconnects .sender)
  | stopSender {shared disconnects} :
      TaskStep shared (.stop disconnects .sender) .internal
        { shared with listenerCommandSender := none } (.stop disconnects .handle)
  | stopHandle {shared disconnects channel} (stored : shared.listenerHandle = some channel) :
      TaskStep shared (.stop disconnects .handle) .internal
        { shared with listenerHandle := none } (.stop disconnects (.join channel))
  | stopHandleMissing {shared disconnects} (missing : shared.listenerHandle = none) :
      TaskStep shared (.stop disconnects .handle) .internal shared (.stop disconnects .take)
  | stopJoin {shared disconnects channel queue}
      (located : shared.channels[channel]? = some queue) (ended : queue.receiverAlive = false) :
      TaskStep shared (.stop disconnects (.join channel)) .internal shared
        (.stop disconnects .take)
  | stopTake {shared session} (stored : shared.session = some session) :
      TaskStep shared (.stop true .take) .internal { shared with session := none }
        (.stop true (.disconnect session))
  | stopTakeNothing {shared disconnects} (done : disconnects = false ∨ shared.session = none) :
      TaskStep shared (.stop disconnects .take) .internal shared .finished
  | disconnect {shared disconnects session} :
      TaskStep shared (.stop disconnects (.disconnect session)) .internal shared .finished
  -- The network
  | peerCloses {shared point} :
      TaskStep shared point .peerCloses shared point.closeFailed

/-- The task is about to record the request of a call, or to open the channel of a listener. -/
def TaskPoint.enters : TaskPoint stack → Bool
  | track _ | openChannel => true
  | _ => false

theorem enters_onward {purpose : ConnectPurpose stack} {next : TaskPoint stack}
    (onward : purpose.Onward next) : next.enters = false := by
  cases onward with
  | stays => rfl
  | returns result => cases purpose <;> cases result <;> rfl

variable {config}

/-- No step leads to where a call records its request, and only the swap of the flag leads to where
a channel is opened. -/
theorem TaskStep.enters {shared later : DriverShared stack} {point next : TaskPoint stack}
    {label : StepLabel stack} (step : TaskStep config shared point label later next)
    (enters : next.enters = true) :
    next = point ∧ later = shared ∨ next = .openChannel ∧ shared.listenerRunning = false := by
  cases step with
  | connectFound | connectUnbuilt | connectInstall =>
      exact absurd enters (Bool.eq_false_iff.mp (enters_onward (.returns _)))
  | connectDial =>
      exact absurd enters (Bool.eq_false_iff.mp (enters_onward (onward_afterDial _ _ _)))
  | connectHello =>
      exact absurd enters (Bool.eq_false_iff.mp (enters_onward (onward_afterHello _ _)))
  | connectRead =>
      exact absurd enters (Bool.eq_false_iff.mp (enters_onward (onward_afterRound _ _)))
  | swapRunning stopped => exact .inr ⟨rfl, stopped⟩
  | peerCloses =>
      cases point with
      | track | openChannel => exact .inl ⟨rfl, rfl⟩
      | connect purpose point => cases purpose <;> cases enters
      | _ => cases enters
  | @reply call response earlier rest posted =>
      rcases response with error | (_ | events)
      · cases enters
      · cases enters
      · change (ite _ _ _ : TaskPoint stack).enters = _ at enters
        split at enters <;> cases enters
  | @directSend call session input sent sends =>
      obtain ⟨error | _, state⟩ := sent <;> cases enters
  | @directAck call session input answer reads =>
      obtain ⟨error | messages, state⟩ := answer <;> cases enters
  | _ => cases enters

variable (config)

/-- A driver and the tasks that run on its clones. -/
structure DriverSystem (stack : MqttStack) where
  shared : DriverShared stack
  tasks : List (TaskPoint stack)

/-- A step of the system: one task makes a step, or `start_listening` spawns a listener. -/
inductive SystemStep : DriverSystem stack → Nat × StepLabel stack → DriverSystem stack → Prop
  | task {system : DriverSystem stack} {index point label shared next}
      (located : system.tasks[index]? = some point)
      (step : TaskStep config system.shared point label shared next) :
      SystemStep system (index, label) { shared, tasks := system.tasks.set index next }
  | spawn {system : DriverSystem stack} {index channel}
      (located : system.tasks[index]? = some (.spawn channel)) :
      SystemStep system (index, .internal)
        { shared := system.shared
          tasks := system.tasks.set index (.storeHandle channel) ++
            [.listener channel .loopTest] }

/-- The shared state of a new driver. -/
def DriverShared.new : DriverShared stack :=
  { session := none
    negotiatedConnack := none
    listenerRunning := false
    listenerHandle := none
    listenerCommandSender := none
    channels := []
    receivers := []
    replies := []
    desiredSubscriptions := []
    recoveryQueue := []
    requests := []
    delivered := []
    handed := [] }

/-- An operation of the driver, as a caller starts it. -/
inductive DriverOperation where
  | start
  | stop
  | startListening
  | stopListening
  | call (kind : CallKind) (request : MqttPacketRequest)

/-- Where an operation begins; a call is known by the number of the operation. -/
def DriverOperation.entry (number : Nat) : DriverOperation → TaskPoint stack
  | .start => .connect .start .test
  | .stop => .stop true .flag
  | .startListening => .connect .listening .test
  | .stopListening => .stop false .flag
  | .call .publish request => .testRunning { id := number, kind := .publish, request }
  | .call kind request => .track { id := number, kind, request }

/-- A new driver on which the given operations are about to begin, each at any later time. -/
def DriverSystem.begin (operations : List DriverOperation) : DriverSystem stack :=
  { shared := .new, tasks := operations.mapIdx DriverOperation.entry }

/-- What holds where operations begin holds of every task of a new driver. -/
theorem forall_begin (holds : TaskPoint stack → Prop) (operations : List DriverOperation)
    (start : holds (.connect .start .test)) (listening : holds (.connect .listening .test))
    (stop : ∀ disconnects, holds (.stop disconnects .flag))
    (publish : ∀ call, holds (.testRunning call)) (track : ∀ call, holds (.track call)) :
    ∀ point ∈ (DriverSystem.begin operations).tasks, holds point := by
  intro point begun
  obtain ⟨number, _, rfl⟩ := List.mem_mapIdx.mp begun
  cases operations[number] with
  | call kind request =>
      cases kind with
      | publish => exact publish _
      | subscribe | unsubscribe => exact track _
  | start => exact start
  | startListening => exact listening
  | stop | stopListening => exact stop _

/-- A read at which the broker accepts the connection. -/
def acceptedRead : ReadInput echoStack :=
  { now := 1, read := .received [.notifyPacketReceived (.v5Connack 0 []) .noHandler] }

/-- A message that the broker publishes. -/
def publishedEvent : RoutedEvent :=
  { source := { deviceId := ⟨"broker"⟩, protocol := ⟨"mqtt"⟩ }
    route := .messaging "b"
    payload := .string "on"
    correlation := none
    transport := none }

/-- A read that brings the message. -/
def publishedRead : ReadInput echoStack :=
  { now := 2, read := .received [.notifyPacketReceived (.other publishedEvent) .noHandler] }

/-- A driver that listens on one connection, with a publish call that is about to begin. -/
def listeningDriver : DriverSystem echoStack :=
  { shared :=
      { (DriverShared.new : DriverShared echoStack) with
        session := some
          { echoSession with
            stream := { echoSession.stream with packetsReceived := [.v5Connack 0 []] }
            lastActivity := 1 }
        negotiatedConnack := some { reasonCode := some "Success", reasonString := none }
        listenerRunning := true
        listenerCommandSender := some 0
        channels := [{ commands := [], receiverAlive := true }] }
    tasks :=
      [.storeHandle 0, .testRunning ⟨1, .publish, publishRequest "a"⟩,
        .listener 0 .loopTest] }

theorem listeningDriver_run
    {careful : DriverSystem echoStack → Nat × StepLabel echoStack → Prop}
    (minded : ∀ system index label, label ≠ .timeout → careful system (index, label)) :
    Transition.Run (SystemStep brokerDevice.endpoint) careful
      (.begin [.startListening, .call .publish (publishRequest "a")]) listeningDriver :=
  (Transition.Run.refl _)
    |>.perform (0, .internal) (minded _ _ _ nofun) (.task rfl (.connectEmpty rfl))
    |>.perform (0, .dial (.opened 0)) (minded _ _ _ nofun) (.task rfl .connectDial)
    |>.perform (0, .hello (.ok [])) (minded _ _ _ nofun) (.task rfl (.connectHello rfl))
    |>.perform (0, .read acceptedRead) (minded _ _ _ nofun) (.task rfl (.connectRead rfl))
    |>.perform (0, .internal) (minded _ _ _ nofun) (.task rfl .connectInstall)
    |>.perform (0, .internal) (minded _ _ _ nofun) (.task rfl (.swapRunning rfl))
    |>.perform (0, .internal) (minded _ _ _ nofun) (.task rfl .openChannel)
    |>.perform (0, .internal) (minded _ _ _ nofun) (.spawn rfl)

theorem listeningDriver_reached :
    Transition.Run (SystemStep brokerDevice.endpoint) (fun _ _ => True)
      (.begin [.startListening, .call .publish (publishRequest "a")]) listeningDriver :=
  listeningDriver_run fun _ _ _ _ => trivial

end Mqtt
end Ferredge
