import Mathlib.Algebra.Order.Group.Multiset
import Mathlib.Tactic.Abel
import Ferredge.Mqtt.Requests

/-!
# Delivery of events

Events that arrive on a listener's session are in the hands of the listener, in the response to a
call or in the hands of its caller until a sink gets them.  A batch that cannot be handled to its
end drops the events before the failure.
-/

namespace Ferredge
/-- The AUTH packet of an exchange goes to the socket. -/
def AuthEvent.Undisturbed : AuthEvent → Prop
  | requestSendPacket (.sent _) | ignored => True
  | _ => False

/-- A handler answers the broker's AUTH packet, and the answer goes to the socket. -/
def AuthExchange.Undisturbed : AuthExchange → Prop
  | answered events => ∀ event ∈ events, event.Undisturbed
  | _ => False

namespace Mqtt

variable {stack : MqttStack}

/-! ## Undisturbed batches -/

/-- Nothing in a batch keeps its events from being handled: no protocol error, request to close or
failed write, no AUTH packet that is not answered, and no packet that does not decode. -/
def Undisturbed (observers : Observers) : stack.Decoder → List (ConnectionEvent stack) → Prop
  | _, [] => True
  | decoder, .requestSendPacket (.sent _) :: events | decoder, .housekeeping :: events =>
      Undisturbed observers decoder events
  | decoder, .notifyPacketReceived packet auth :: events =>
      (observers.authHandler → packet = .v5Auth → auth.Undisturbed) ∧
        (∃ inbound, (stack.decode decoder packet).1 = .ok inbound) ∧
          Undisturbed observers (stack.decode decoder packet).2 events
  | _, _ => False

theorem processOutboundAuthEvents_ok (events : List AuthEvent)
    (undisturbed : ∀ event ∈ events, event.Undisturbed) (session : MqttClientSession stack) :
    (processOutboundAuthEvents events session).1 = .ok () := by
  induction events generalizing session with
  | nil => rfl
  | cons event events ih =>
      have later := fun session =>
        ih (fun event member => undisturbed event (.tail _ member)) session
      have first := undisturbed event (.head _)
      cases event with
      | requestSendPacket outcome =>
          cases outcome with
          | sent now => exact later _
          | writeFailed | flushFailed => exact first.elim
      | notifyError error => exact first.elim
      | requestClose => exact first.elim
      | ignored => exact later _

theorem authorizePacket_ok {observers : Observers} {packet : InboundPacket stack.Packet}
    {auth : AuthExchange}
    (undisturbed : observers.authHandler → packet = .v5Auth → auth.Undisturbed)
    (session : MqttClientSession stack) :
    (authorizePacket observers packet auth session).1 = .ok () := by
  unfold authorizePacket
  split
  · rename_i handler
    cases packet with
    | v5Auth =>
        cases auth with
        | answered events => exact processOutboundAuthEvents_ok events (undisturbed handler rfl) _
        | noHandler | refused | noResponse | invalidResponse =>
            exact (undisturbed handler rfl).elim
    | v5Connack | v3Connack | other => rfl
  · rfl

/-- An undisturbed batch is handled without an error. -/
theorem handleConnectionEvents_ok {observers : Observers} {events : List (ConnectionEvent stack)}
    {state : SessionState stack}
    (undisturbed : Undisturbed observers state.session.inboundDecoder events)
    (routed : List RoutedMessage) :
    ∃ messages after,
      handleConnectionEvents observers events routed state = (.ok messages, after) := by
  induction events generalizing routed state with
  | nil => exact ⟨routed, state, rfl⟩
  | cons event events ih =>
      cases event with
      | requestSendPacket outcome =>
          cases outcome with
          | sent now =>
              refine ih ?_ _
              exact undisturbed
          | writeFailed | flushFailed => exact undisturbed.elim
      | notifyPacketReceived packet auth =>
          obtain ⟨answered, ⟨inbound, decoded⟩, later⟩ := undisturbed
          have authorized := authorizePacket_ok answered (receivePacket packet state.session)
          have kept := (authorizePacket_sameInbound observers packet auth
            (receivePacket packet state.session)).decoder
          rw [handleConnectionEvents, handleConnectionEvent, handlePacketReceived]
          rcases result : authorizePacket observers packet auth (receivePacket packet state.session)
            with ⟨_, session⟩
          rw [result] at authorized kept
          obtain rfl : _ = Except.ok () := authorized
          have same : session.inboundDecoder = state.session.inboundDecoder := kept
          simp only [decodePacket, same, decoded, Except.map]
          refine ih ?_ _
          exact later
      | notifyError error => exact undisturbed.elim
      | requestClose => exact undisturbed.elim
      | housekeeping => exact ih undisturbed _

/-- The keep-alive interval of the session has passed without traffic. -/
def KeepalivePingDue (now : Nat) (session : MqttClientSession stack) : Prop :=
  ∃ keepaliveSecs, session.keepaliveSecs = some keepaliveSecs ∧ keepaliveSecs ≠ 0 ∧
    keepaliveSecs.toNat * 1000000000 ≤ now - session.lastActivity

/-- A read that brings an undisturbed batch, or that times out while no PINGREQ is due or one can be
sent. -/
def ReadInput.Succeeds (observers : Observers) (session : MqttClientSession stack)
    (input : ReadInput stack) : Prop :=
  match input.read with
  | .received events => Undisturbed observers session.inboundDecoder events
  | .timedOut ping => KeepalivePingDue input.now session → session.awaitingPingresp = false ∧
      ∃ events, ping = .ok events ∧ Undisturbed ⟨false, false⟩ session.inboundDecoder events
  | .timeoutRefused _ | .closed | .failed _ => False

theorem sendKeepalivePingIfDue_ok {now : Nat} {ping : Except String (List (ConnectionEvent stack))}
    {state : SessionState stack}
    (pings : KeepalivePingDue now state.session → state.session.awaitingPingresp = false ∧
      ∃ events, ping = .ok events ∧
        Undisturbed ⟨false, false⟩ state.session.inboundDecoder events) :
    (sendKeepalivePingIfDue now ping state).1 = .ok () := by
  unfold sendKeepalivePingIfDue
  split
  · rfl
  · rename_i keepaliveSecs configured
    split_ifs with off early awaiting
    · rfl
    · rfl
    · obtain ⟨idle, -⟩ := pings ⟨keepaliveSecs, configured, off, Nat.le_of_not_lt early⟩
      rw [idle] at awaiting
      cases awaiting
    · obtain ⟨-, events, rfl, undisturbed⟩ :=
        pings ⟨keepaliveSecs, configured, off, Nat.le_of_not_lt early⟩
      let awaiting : SessionState stack :=
        { state with session := { state.session with awaitingPingresp := true } }
      have handled : Undisturbed ⟨false, false⟩ awaiting.session.inboundDecoder events :=
        undisturbed
      obtain ⟨messages, after, result⟩ := handleConnectionEvents_ok handled []
      simp only [awaiting] at result
      simp only [result, Except.map]

theorem readFromSession_ok {observers : Observers} {input : ReadInput stack}
    {state : SessionState stack} (succeeds : input.Succeeds observers state.session) :
    ∃ messages after, readFromSession observers input state = (.ok messages, after) := by
  obtain ⟨now, read⟩ := input
  cases read with
  | received events =>
      refine handleConnectionEvents_ok ?_ []
      exact succeeds
  | timedOut ping =>
      have pinged := sendKeepalivePingIfDue_ok succeeds
      refine ⟨[], _, Prod.ext ?_ rfl⟩
      simp only [readFromSession, pinged, Except.map]
  | timeoutRefused | closed | failed => exact succeeds.elim

/-- A send whose packet is built and reaches the socket. -/
def SendInput.Succeeds (request : MqttPacketRequest) (session : MqttClientSession stack)
    (input : SendInput stack) : Prop :=
  ∃ numbered, assignRuntimePacketId stack.library input.acquired request = .ok numbered ∧
    Undisturbed ⟨false, false⟩ (stack.recordOutboundRequest session.inboundDecoder numbered)
      input.events

theorem sendPacketRequest_ok {request : MqttPacketRequest} {input : SendInput stack}
    {state : SessionState stack} (succeeds : input.Succeeds request state.session) :
    ∃ after, sendPacketRequest request input state = (.ok (), after) := by
  obtain ⟨numbered, assigned, undisturbed⟩ := succeeds
  let recorded : SessionState stack :=
    { state with
      session :=
        { state.session with
          inboundDecoder := stack.recordOutboundRequest state.session.inboundDecoder numbered } }
  have handled : Undisturbed ⟨false, false⟩ recorded.session.inboundDecoder input.events :=
    undisturbed
  obtain ⟨messages, after, result⟩ := handleConnectionEvents_ok handled []
  refine ⟨after, ?_⟩
  simp only [recorded] at result
  simp only [sendPacketRequest, assigned, result, Except.map]

/-! ## Reads that keep their events -/

/-- A PINGREQ brings no event, and a read that brings one is handled to its end. -/
structure ReadInput.KeepsEvents (observers : Observers) (session : MqttClientSession stack)
    (input : ReadInput stack) : Prop where
  silentPing : ∀ ping, input.read = .timedOut (.ok ping) →
    deliveredEvents session.inboundDecoder ping = []
  handled : input.read.deliveredEvents session.inboundDecoder = [] ∨
    input.Succeeds observers session

/-- The events that a read passes on. -/
def passedEvents : Except String (List RoutedMessage) → List RoutedEvent
  | .ok messages => routedEvents messages
  | .error _ => []

theorem readFromSession_passed {observers : Observers} {input : ReadInput stack}
    {state : SessionState stack} (keeps : input.KeepsEvents observers state.session) :
    passedEvents (readFromSession observers input state).1 =
      input.read.deliveredEvents state.session.inboundDecoder := by
  rcases result : readFromSession observers input state with ⟨error | messages, after⟩
  · rcases keeps.handled with nothing | succeeds
    · exact nothing.symm
    · obtain ⟨messages, after, succeeded⟩ := readFromSession_ok succeeds
      rw [succeeded] at result
      cases result
  · exact readFromSession_delivered result keeps.silentPing

/-! ## Events on their way -/

/-- The events of a response that its call hands to a sink. -/
def responseEvents (call : DriverCall) : Except String SessionCommandResult → List RoutedEvent
  | .ok (.events events) => if call.kind = .subscribe then events else []
  | .ok .done | .error _ => []

/-- The events that a listener holds and hands on. -/
def ListenerPoint.pending : ListenerPoint stack → List RoutedEvent
  | respond _ command response => responseEvents command response
  | restore _ events | forward events | forwardRecovered _ events => events
  | replaySubscriptions _ replay | replaySubscriptionAck _ replay | replayQueued _ replay
  | replayQueuedAck _ replay | recovered _ replay => replay.recovered
  | _ => []

/-- The events from a listener's session that a task holds and hands on. -/
def TaskPoint.pending : TaskPoint stack → List RoutedEvent
  | handOver events => events
  | listener _ point => point.pending
  | _ => []

def SessionReply.pending (reply : SessionReply) : List RoutedEvent :=
  responseEvents reply.call reply.response

/-- Events in response channels. -/
def DriverShared.pending (shared : DriverShared stack) : Multiset RoutedEvent :=
  Ledger.total (fun reply => (reply.pending : Multiset RoutedEvent)) shared.replies

/-- Events that were delivered on a listener's session and are still to be handed to a sink. -/
def DriverSystem.pending (system : DriverSystem stack) : Multiset RoutedEvent :=
  system.shared.pending +
    Ledger.total (fun point => (point.pending : Multiset RoutedEvent)) system.tasks

/-! ## Steps that keep events -/

/-- A replay goes on after a send, or has nothing to lose. -/
structure ReplaySendKeeps (request : MqttPacketRequest) (replay : Replay stack)
    (input : SendInput stack) : Prop where
  silent : input.deliveredEvents replay.session.inboundDecoder request = []
  sent : replay.recovered = [] ∨ input.Succeeds request replay.session

/-- A replay goes on after a read, or has nothing to lose. -/
structure ReplayReadKeeps (replay : Replay stack) (input : ReadInput stack) : Prop where
  keeps : input.KeepsEvents ⟨true, true⟩ replay.session
  answered : replay.recovered = [] ∨ input.Succeeds ⟨true, true⟩ replay.session

/-- A step of a listener loses no event. -/
def ListenerPoint.Keeps (shared : DriverShared stack) :
    ListenerPoint stack → StepLabel stack → Prop
  | send session command, .send input =>
      input.deliveredEvents session.inboundDecoder command.request = []
  | ack session command, .read input =>
      if command.kind = .subscribe then input.KeepsEvents ⟨false, true⟩ session
      else input.read.deliveredEvents session.inboundDecoder = []
  | respond _ command response, .internal =>
      responseEvents command response = [] ∨ command.id ∈ shared.receivers
  | poll session, .read input => input.KeepsEvents ⟨true, true⟩ session
  | replaySubscriptions _ replay, .send input =>
      ∀ request ∈ replay.subscriptions.head?, ReplaySendKeeps request replay input
  | replayQueued _ replay, .send input =>
      ∀ entry ∈ replay.queued.head?, ReplaySendKeeps entry.request replay input
  | replaySubscriptionAck _ replay, .read input | replayQueuedAck _ replay, .read input =>
      ReplayReadKeeps replay input
  | recovered locals replay, .internal => locals.path = .command ∨ replay.recovered = []
  | forward _, .sink accepts | forwardRecovered _ _, .sink accepts => accepts
  | _, _ => True

/-- A step of a task loses no event. -/
def TaskPoint.Keeps (shared : DriverShared stack) : TaskPoint stack → StepLabel stack → Prop
  | connect (.reconnect _ _) (.hello session), .hello (.ok events) =>
      deliveredEvents session.inboundDecoder events = []
  | connect (.reconnect _ _) (.handshake session), .read input =>
      input.read.deliveredEvents session.inboundDecoder = []
  | handOver _, .sink accepts => accepts
  | listener _ point, label => point.Keeps shared label
  | _, _ => True

/-! ## What a step does to events -/

/-- What a step adds to the delivered events is handed to a sink or still held somewhere. -/
def Accounted (shared : DriverShared stack) (point : TaskPoint stack) (later : DriverShared stack)
    (next : TaskPoint stack) : Prop :=
  ∃ arrived : List RoutedEvent, later.delivered = shared.delivered ++ arrived ∧
    (later.handed : Multiset RoutedEvent) + later.pending + next.pending =
      shared.handed + shared.pending + point.pending + arrived

/-- A step that neither delivers nor hands over an event leaves the task with the same ones. -/
theorem Accounted.of_same {shared later : DriverShared stack} {point next : TaskPoint stack}
    (delivered : later.delivered = shared.delivered) (handed : later.handed = shared.handed)
    (replies : later.replies = shared.replies) (held : next.pending = point.pending) :
    Accounted shared point later next := by
  refine ⟨[], ?_, ?_⟩
  · rw [delivered, List.append_nil]
  · rw [DriverShared.pending, DriverShared.pending, handed, replies, held, Multiset.coe_nil,
      add_zero]

/-- A step that delivers events to the task that takes it. -/
theorem Accounted.of_arrived {shared later : DriverShared stack} {point next : TaskPoint stack}
    {arrived : List RoutedEvent} (delivered : later.delivered = shared.delivered ++ arrived)
    (handed : later.handed = shared.handed) (replies : later.replies = shared.replies)
    (held : next.pending = point.pending ++ arrived) : Accounted shared point later next := by
  refine ⟨arrived, delivered, ?_⟩
  rw [DriverShared.pending, DriverShared.pending, handed, replies, held, ← Multiset.coe_add,
    add_assoc, add_assoc, add_assoc]

theorem pending_afterConnect (purpose : ConnectPurpose stack) (result : Except String Unit) :
    (afterConnect purpose result).pending = [] := by
  cases purpose <;> cases result <;> rfl

theorem pending_onward {purpose : ConnectPurpose stack} {next : TaskPoint stack}
    (onward : purpose.Onward next) : next.pending = [] := by
  cases onward with
  | stays => rfl
  | returns => exact pending_afterConnect purpose _

theorem pending_closeFailed (point : TaskPoint stack) :
    point.closeFailed.pending = point.pending := by
  cases point with
  | connect purpose point => cases purpose <;> rfl
  | listener channel point => cases point <;> rfl
  | _ => rfl

/-- A step that hands the first of a task's events to a sink. -/
theorem Accounted.of_handed {shared : DriverShared stack} {point next : TaskPoint stack}
    {event : RoutedEvent} (held : point.pending = event :: next.pending) :
    Accounted shared point (shared.hand event) next := by
  refine ⟨[], (List.append_nil _).symm, ?_⟩
  have handed : ((shared.hand event).handed : Multiset RoutedEvent) =
      shared.handed + ([event] : List RoutedEvent) := (Multiset.coe_add _ _).symm
  have same : (shared.hand event).pending = shared.pending := rfl
  have share : (point.pending : Multiset RoutedEvent) =
      ([event] : List RoutedEvent) + next.pending := by
    rw [held, Multiset.coe_add, List.singleton_append]
  rw [handed, same, share, Multiset.coe_nil, add_zero]
  abel

theorem deliveredTo_eq_nil {purpose : ConnectPurpose stack} {events : List RoutedEvent}
    (nothing : ∀ channel locals, purpose = .reconnect channel locals → events = []) :
    deliveredTo purpose events = [] := by
  cases purpose with
  | reconnect channel locals => exact nothing channel locals rfl
  | start | listening | call => rfl

theorem pending_afterReply (call : DriverCall) (response : Except String SessionCommandResult) :
    (afterReply call response : TaskPoint stack).pending = responseEvents call response := by
  rcases response with error | _ | events
  · rfl
  · rfl
  · unfold afterReply responseEvents
    split_ifs <;> rfl

/-- A call takes the response that is posted for it. -/
theorem Accounted.of_reply {shared later : DriverShared stack} {call : DriverCall}
    {response : Except String SessionCommandResult} {front back : List SessionReply}
    (posted : shared.replies = front ++ ⟨call, response⟩ :: back)
    (delivered : later.delivered = shared.delivered) (handed : later.handed = shared.handed)
    (replies : later.replies = front ++ back) :
    Accounted shared (.awaitReply call) later (afterReply call response) := by
  refine ⟨[], ?_, ?_⟩
  · rw [delivered, List.append_nil]
  · have idle : (TaskPoint.awaitReply call : TaskPoint stack).pending = [] := rfl
    have share : (⟨call, response⟩ : SessionReply).pending = responseEvents call response := rfl
    rw [DriverShared.pending, DriverShared.pending, handed, replies, posted, pending_afterReply,
      Ledger.total_append, Ledger.total_append, Ledger.total_cons, share, idle, Multiset.coe_nil]
    abel

/-- A response waits for its call, or carries no event. -/
theorem Accounted.of_respond {shared : DriverShared stack} {point next : TaskPoint stack}
    {reply : SessionReply} (held : point.pending = reply.pending) (idle : next.pending = [])
    (keeps : reply.pending = [] ∨ reply.call.id ∈ shared.receivers) :
    Accounted shared point (shared.respond reply) next := by
  refine ⟨[], (List.append_nil _).symm, ?_⟩
  have handed : (shared.respond reply).handed = shared.handed := rfl
  have posted : (shared.respond reply).pending = shared.pending + reply.pending := by
    unfold DriverShared.pending DriverShared.respond
    dsimp only
    split
    · rw [Ledger.total_append, Ledger.total_cons, Ledger.total_nil, add_zero]
    · rename_i lost
      rw [keeps.resolve_right lost, Multiset.coe_nil, add_zero]
  rw [handed, posted, held, idle, Multiset.coe_nil, add_zero, add_zero, add_assoc]

/-- Commands that are dropped with their channel get error responses, which carry no event. -/
theorem pending_closeReplies (shared : DriverShared stack) (commands : List DriverCall) :
    (shared.closeReplies commands).pending = shared.pending := by
  unfold DriverShared.pending DriverShared.closeReplies
  rw [Ledger.total_append]
  refine (congrArg _ (Ledger.total_eq_zero ?_)).trans (add_zero _)
  intro reply member
  obtain ⟨call, -, rfl⟩ := List.mem_map.mp member
  rfl

theorem pending_afterCommandSend (channel : Nat) (command : DriverCall)
    (sent : Except String Unit × SessionState stack) :
    (TaskPoint.listener channel (afterCommandSend command sent)).pending = [] := by
  obtain ⟨error | _, state⟩ := sent <;> rfl

theorem pending_afterCommandAck (channel : Nat) (command : DriverCall)
    (answer : Except String (List RoutedMessage) × SessionState stack) :
    (TaskPoint.listener channel (afterCommandAck command answer)).pending =
      if command.kind = .subscribe then passedEvents answer.1 else [] := by
  obtain ⟨error | messages, state⟩ := answer
  · split_ifs <;> rfl
  · cases kind : command.kind <;>
      simp [afterCommandAck, TaskPoint.pending, ListenerPoint.pending, Except.map, commandResult,
        responseEvents, passedEvents, kind]

theorem pending_afterRespond (channel : Nat) (session : MqttClientSession stack)
    (response : Except String SessionCommandResult) :
    (TaskPoint.listener channel (afterRespond session response)).pending = [] := by
  cases response <;> rfl

theorem pending_afterPoll (channel : Nat)
    (answer : Except String (List RoutedMessage) × SessionState stack) :
    (TaskPoint.listener channel (afterPoll answer)).pending = passedEvents answer.1 := by
  obtain ⟨error | messages, state⟩ := answer <;> rfl

theorem pending_afterRecovered (channel : Nat) (locals : Reconnect stack)
    {events : List RoutedEvent} (keeps : locals.path = .command ∨ events = []) :
    (TaskPoint.listener channel (afterRecovered locals events)).pending = events := by
  unfold afterRecovered
  split
  · rfl
  · rename_i path
    rcases keeps with command | nothing
    · rw [command] at path
      cases path
    · exact nothing.symm

theorem pending_afterReplaySend (channel : Nat) (locals : Reconnect stack) (replay : Replay stack)
    {next : Reconnect stack → Replay stack → ListenerPoint stack}
    (goesOn : ∀ replay, (next locals replay).pending = replay.recovered)
    {sent : Except String Unit × SessionState stack}
    (keeps : replay.recovered = [] ∨ ∃ after, sent = (.ok (), after)) :
    (TaskPoint.listener channel (afterReplaySend locals replay next sent)).pending =
      replay.recovered := by
  obtain ⟨error | _, state⟩ := sent
  · rcases keeps with nothing | ⟨after, succeeded⟩
    · exact nothing.symm
    · cases succeeded
  · exact goesOn _

theorem pending_afterReplayAck (channel : Nat) (locals : Reconnect stack) (replay : Replay stack)
    {next : Reconnect stack → Replay stack → ListenerPoint stack}
    (goesOn : ∀ replay, (next locals replay).pending = replay.recovered)
    {answer : Except String (List RoutedMessage) × SessionState stack}
    (keeps : replay.recovered = [] ∨ ∃ messages after, answer = (.ok messages, after)) :
    (TaskPoint.listener channel (afterReplayAck locals replay next answer)).pending =
      replay.recovered ++ passedEvents answer.1 := by
  obtain ⟨error | messages, state⟩ := answer
  · rcases keeps with nothing | ⟨messages, after, succeeded⟩
    · rw [nothing]
      rfl
    · cases succeeded
  · exact goesOn _

/-- A replay's send loses no event. -/
theorem Accounted.of_replaySend {shared later : DriverShared stack} {channel : Nat}
    {locals : Reconnect stack} {point : TaskPoint stack} {replay : Replay stack}
    {next : Reconnect stack → Replay stack → ListenerPoint stack}
    {request : MqttPacketRequest} {input : SendInput stack}
    (keeps : ReplaySendKeeps request replay input)
    (delivered : later.delivered =
      shared.delivered ++ input.deliveredEvents replay.session.inboundDecoder request)
    (handed : later.handed = shared.handed) (replies : later.replies = shared.replies)
    (held : point.pending = replay.recovered)
    (goesOn : ∀ replay, (next locals replay).pending = replay.recovered) :
    Accounted shared point later (.listener channel (afterReplaySend locals replay next
      (sendPacketRequest request input (shared.sessionState replay.session)))) := by
  refine .of_arrived delivered handed replies ?_
  rw [keeps.silent, List.append_nil, held]
  exact pending_afterReplaySend channel locals replay goesOn
    (keeps.sent.imp_right fun succeeds => sendPacketRequest_ok succeeds)

/-- A replay's read loses no event. -/
theorem Accounted.of_replayRead {shared later : DriverShared stack} {channel : Nat}
    {locals : Reconnect stack} {point : TaskPoint stack} {replay : Replay stack}
    {next : Reconnect stack → Replay stack → ListenerPoint stack} {input : ReadInput stack}
    (keeps : ReplayReadKeeps replay input)
    (delivered : later.delivered =
      shared.delivered ++ input.read.deliveredEvents replay.session.inboundDecoder)
    (handed : later.handed = shared.handed) (replies : later.replies = shared.replies)
    (held : point.pending = replay.recovered)
    (goesOn : ∀ replay, (next locals replay).pending = replay.recovered) :
    Accounted shared point later (.listener channel (afterReplayAck locals replay next
      (readFromSession ⟨true, true⟩ input (shared.sessionState replay.session)))) := by
  refine .of_arrived delivered handed replies ?_
  have passed : passedEvents
      (readFromSession ⟨true, true⟩ input (shared.sessionState replay.session)).1 =
        input.read.deliveredEvents replay.session.inboundDecoder :=
    readFromSession_passed keeps.keeps
  rw [held, ← passed]
  exact pending_afterReplayAck channel locals replay goesOn
    (keeps.answered.imp_right fun succeeds => readFromSession_ok succeeds)

theorem TaskStep.accounted {config : MqttEndpointConfig} {shared later : DriverShared stack}
    {point next : TaskPoint stack} {label : StepLabel stack}
    (step : TaskStep config shared point label later next) (keeps : point.Keeps shared label) :
    Accounted shared point later next := by
  cases step with
  | connectFound | connectUnbuilt | connectInstall =>
      exact .of_same rfl rfl rfl (pending_afterConnect _ _)
  | connectDial => exact .of_same rfl rfl rfl (pending_onward (onward_afterDial _ _ _))
  | connectHello =>
      refine .of_arrived rfl rfl rfl ?_
      rw [pending_onward (onward_afterHello _ _), deliveredTo_eq_nil]
      · rfl
      · rintro channel locals rfl
        exact keeps
  | connectRead =>
      refine .of_arrived rfl rfl rfl ?_
      rw [pending_onward (onward_afterRound _ _), deliveredTo_eq_nil]
      · rfl
      · rintro channel locals rfl
        exact keeps
  | peerCloses => exact .of_same rfl rfl rfl (pending_closeFailed point)
  | reply posted => exact .of_reply posted rfl rfl rfl
  | handOver | forward | forwardRecovered => exact .of_handed rfl
  | @directSend call session input sent sends =>
      obtain ⟨error | _, state⟩ := sent <;> exact .of_same rfl rfl rfl rfl
  | @directAck call session input answer reads =>
      obtain ⟨error | _, state⟩ := answer <;> exact .of_same rfl rfl rfl rfl
  | commandSend =>
      refine .of_arrived rfl rfl rfl ?_
      rw [pending_afterCommandSend]
      exact (List.append_eq_nil_iff.mpr ⟨rfl, keeps⟩).symm
  | @commandAck channel session command input answer reads =>
      refine .of_arrived rfl rfl rfl ?_
      rw [pending_afterCommandAck, ← reads]
      have acknowledged : if command.kind = .subscribe then
          input.KeepsEvents ⟨false, true⟩ session
        else input.read.deliveredEvents session.inboundDecoder = [] := keeps
      split_ifs at acknowledged ⊢
      · exact readFromSession_passed acknowledged
      · exact acknowledged.symm
  | respond => exact .of_respond rfl (pending_afterRespond _ _ _) keeps
  | @poll channel session input answer reads =>
      refine .of_arrived rfl rfl rfl ?_
      rw [pending_afterPoll, ← reads]
      exact readFromSession_passed keeps
  | recovered => exact .of_same rfl rfl rfl (pending_afterRecovered _ _ keeps)
  | @replaySubscription channel locals session request requests queued recovered input sent sends =>
      have kept : ReplaySendKeeps request
          { session, subscriptions := request :: requests, queued, recovered } input :=
        keeps request rfl
      subst sends
      exact .of_replaySend ⟨kept.silent, kept.sent⟩ rfl rfl rfl rfl fun _ => rfl
  | @replayRequest channel locals session subscriptions entry entries recovered input sent sends =>
      have kept : ReplaySendKeeps entry.request
          { session, subscriptions, queued := entry :: entries, recovered } input :=
        keeps entry rfl
      subst sends
      exact .of_replaySend ⟨kept.silent, kept.sent⟩ rfl rfl rfl rfl fun _ => rfl
  | replaySubscriptionAck reads | replayRequestAck reads =>
      subst reads
      exact .of_replayRead keeps rfl rfl rfl rfl fun _ => rfl
  | exitClose =>
      refine ⟨[], (List.append_nil _).symm, ?_⟩
      rw [pending_closeReplies]
      exact (add_zero _).symm
  | handOverRefused | forwardRefused | forwardRecoveredRefused => cases keeps
  | _ => exact .of_same rfl rfl rfl rfl

/-! ## Responses and their receivers -/

/-- Every response waits in the channel of a call that still holds the receiver. -/
def Awaited (shared : DriverShared stack) : Prop :=
  ∀ reply ∈ shared.replies, reply.call.id ∈ shared.receivers

theorem TaskStep.awaited {config : MqttEndpointConfig} {shared later : DriverShared stack}
    {point next : TaskPoint stack} {label : StepLabel stack}
    (step : TaskStep config shared point label later next) (awaited : Awaited shared)
    (unique : ∀ number, shared.tokens number .answered ≤ 1) : Awaited later := by
  cases step with
  | sendCommand =>
      intro reply posted
      exact List.mem_append_left _ (awaited reply posted)
  | @reply call response front back posted =>
      intro reply member
      have taken := answered_posted call.id posted
      have single := unique call.id
      have other : reply.call.id ≠ call.id := by
        intro same
        have counted : 0 < (front ++ back).countP fun reply => reply.call.id = call.id :=
          List.countP_pos_iff.mpr ⟨reply, member, decide_eq_true same⟩
        rw [if_pos rfl] at taken
        omega
      refine (List.mem_erase_of_ne other).mpr (awaited reply ?_)
      rw [posted]
      exact List.mem_append.mpr
        ((List.mem_append.mp member).imp_right fun later => .tail _ later)
  | timeout silent =>
      intro reply posted
      exact (List.mem_erase_of_ne (silent reply posted)).mpr (awaited reply posted)
  | @respond channel session command response =>
      intro reply member
      unfold DriverShared.respond at member
      dsimp only at member
      split at member
      · rename_i held
        rcases List.mem_append.mp member with posted | new
        · exact awaited reply posted
        · cases List.mem_singleton.mp new
          exact held
      · exact awaited reply member
  | exitClose =>
      intro reply member
      rcases List.mem_append.mp member with posted | new
      · exact awaited reply posted
      · obtain ⟨command, kept, rfl⟩ := List.mem_map.mp new
        exact of_decide_eq_true (List.mem_filter.mp kept).2
  | _ => exact awaited

/-! ## Runs -/

/-- Every event delivered on a listener's session has been handed to a sink exactly once, or is
still on its way to one: a task holds it and hands it on, or it is in a response that its call still
waits for. -/
structure DriverSystem.HandedOnce (system : DriverSystem stack) : Prop where
  balanced : (system.shared.delivered : Multiset RoutedEvent) =
    system.shared.handed + system.pending
  awaited : Awaited system.shared
  settled : system.pending = 0 → system.shared.handed.Perm system.shared.delivered

/-- A step of the system loses no event. -/
def KeepsEvents (system : DriverSystem stack) : Nat × StepLabel stack → Prop
  | (index, label) =>
      ∀ point, system.tasks[index]? = some point → point.Keeps system.shared label

theorem pending_step {config : MqttEndpointConfig} {before after : DriverSystem stack}
    {label : Nat × StepLabel stack} (keeps : KeepsEvents before label)
    (step : SystemStep config before label after)
    (balanced : (before.shared.delivered : Multiset RoutedEvent) =
      before.shared.handed + before.pending) :
    (after.shared.delivered : Multiset RoutedEvent) = after.shared.handed + after.pending := by
  unfold DriverSystem.pending at balanced ⊢
  cases step with
  | @task index point label shared next located step =>
      obtain ⟨rest, whole, replaced⟩ :=
        Ledger.total_split (fun point => (point.pending : Multiset RoutedEvent)) located
      obtain ⟨arrived, delivered, held⟩ := step.accounted (keeps point located)
      dsimp only
      rw [delivered, ← Multiset.coe_add, balanced, whole, replaced]
      calc
        _ = rest + ((before.shared.handed : Multiset RoutedEvent) + before.shared.pending +
              point.pending + arrived) := by abel
        _ = rest + ((shared.handed : Multiset RoutedEvent) + shared.pending + next.pending) := by
          rw [held]
        _ = _ := by abel
  | @spawn index channel located =>
      obtain ⟨rest, whole, replaced⟩ :=
        Ledger.total_split (fun point => (point.pending : Multiset RoutedEvent)) located
      have handle : ((.storeHandle channel : TaskPoint stack).pending : Multiset RoutedEvent) = 0 :=
        rfl
      have listener :
          ((.listener channel .loopTest : TaskPoint stack).pending : Multiset RoutedEvent) = 0 :=
        rfl
      have idle : ((.spawn channel : TaskPoint stack).pending : Multiset RoutedEvent) = 0 := rfl
      dsimp only
      rw [Ledger.total_append, replaced, Ledger.total_cons, Ledger.total_nil, handle, listener,
        balanced, whole, idle]
      simp only [add_zero]

theorem awaited_step {config : MqttEndpointConfig} {before after : DriverSystem stack}
    {label : Nat × StepLabel stack} (bounded : before.Bounded config.reconnect)
    (step : SystemStep config before label after) (awaited : Awaited before.shared) :
    Awaited after.shared := by
  cases step with
  | task located step =>
      refine step.awaited awaited fun number => ?_
      have answered := (bounded number).command
      rw [DriverSystem.tokens, Pi.add_apply] at answered
      simp only [Pi.add_apply] at answered
      omega
  | spawn => exact awaited

theorem pending_begin (operations : List DriverOperation) :
    (DriverSystem.begin operations : DriverSystem stack).pending = 0 := by
  rw [DriverSystem.pending, Ledger.total_eq_zero]
  · rfl
  · exact forall_begin _ operations rfl rfl (fun _ => rfl) (fun _ => rfl) fun _ => rfl

/-- In a run whose steps lose no event, every event of a listener's session is handed to a sink
exactly once. -/
theorem handedOnce_of_keepsEvents {config : MqttEndpointConfig}
    {operations : List DriverOperation} {system : DriverSystem stack}
    (run : Transition.Run (SystemStep config) KeepsEvents (.begin operations) system) :
    system.HandedOnce := by
  let balanced (system : DriverSystem stack) : Prop :=
    (system.shared.delivered : Multiset RoutedEvent) = system.shared.handed + system.pending
  have invariant : system.Bounded config.reconnect ∧ Awaited system.shared ∧ balanced system := by
    refine run.invariant (fun system => system.Bounded config.reconnect ∧ Awaited system.shared ∧
      balanced system) ⟨bounded_begin operations, ?_, ?_⟩ ?_
    · intro reply posted
      cases posted
    · unfold balanced
      rw [pending_begin]
      rfl
    · rintro before label next ⟨bounded, awaited, kept⟩ keeps step
      exact ⟨bounded_step bounded step, awaited_step bounded step awaited,
        pending_step keeps step kept⟩
  obtain ⟨-, awaited, kept⟩ := invariant
  refine ⟨kept, awaited, fun nothing => ?_⟩
  have settled : (system.shared.delivered : Multiset RoutedEvent) = system.shared.handed + 0 :=
    nothing ▸ kept
  exact Multiset.coe_eq_coe.mp (settled.trans (add_zero _)).symm

/-- A task's step loses no event where the task is the one that the index names. -/
theorem KeepsEvents.of_located {system : DriverSystem stack} {index : Nat}
    {label : StepLabel stack} {point : TaskPoint stack}
    (located : system.tasks[index]? = some point)
    (keeps : point.Keeps system.shared label) : KeepsEvents system (index, label) := by
  intro other found
  cases located.symm.trans found
  exact keeps

theorem publishedRead_keepsEvents (session : MqttClientSession echoStack) :
    publishedRead.KeepsEvents ⟨true, true⟩ session where
  silentPing := nofun
  handled := .inr ⟨nofun, ⟨_, rfl⟩, trivial⟩

/-- The listener's poll brings a message, and the listener hands it to its sink. -/
theorem poll_handedOnce :
    ∃ system : DriverSystem echoStack,
      system.shared.delivered = [publishedEvent] ∧ system.shared.handed = [publishedEvent] ∧
        system.HandedOnce := by
  have run : Transition.Run (SystemStep brokerDevice.endpoint) KeepsEvents
      (.begin [.startListening] : DriverSystem echoStack) _ :=
    (Transition.Run.refl _)
    |>.perform (0, .internal) (by exact .of_located rfl trivial) (.task rfl (.connectEmpty rfl))
    |>.perform (0, .dial (.opened 0)) (by exact .of_located rfl trivial) (.task rfl .connectDial)
    |>.perform (0, .hello (.ok [])) (by exact .of_located rfl trivial)
      (.task rfl (.connectHello rfl))
    |>.perform (0, .read acceptedRead) (by exact .of_located rfl trivial)
      (.task rfl (.connectRead rfl))
    |>.perform (0, .internal) (by exact .of_located rfl trivial) (.task rfl .connectInstall)
    |>.perform (0, .internal) (by exact .of_located rfl trivial) (.task rfl (.swapRunning rfl))
    |>.perform (0, .internal) (by exact .of_located rfl trivial) (.task rfl .openChannel)
    |>.perform (0, .internal) (by exact .of_located rfl trivial) (.spawn rfl)
    |>.perform (1, .internal) (by exact .of_located rfl trivial) (.task rfl (.listen rfl))
    |>.perform (1, .internal) (by exact .of_located rfl trivial) (.task rfl (.take rfl))
    |>.perform (1, .internal) (by exact .of_located rfl trivial) (.task rfl (.drained rfl rfl))
    |>.perform (1, .read publishedRead) (by exact .of_located rfl (publishedRead_keepsEvents _))
      (.task rfl (.poll rfl))
    |>.perform (1, .internal) (by exact .of_located rfl trivial) (.task rfl .restore)
    |>.perform (1, .sink true) (by exact .of_located rfl rfl) (.task rfl .forward)
  exact ⟨_, rfl, rfl, handedOnce_of_keepsEvents run⟩

/-- The acknowledgement of a publish command comes with a message: nothing hands it to a sink. -/
theorem publishAck_dropsEvent :
    ∃ system : DriverSystem echoStack,
      Transition.Run (SystemStep brokerDevice.endpoint) (fun _ _ => True)
        (.begin [.startListening, .call .publish (publishRequest "a")]) system ∧
      system.shared.listenerRunning = true ∧ system.shared.delivered = [publishedEvent] ∧
      system.shared.handed = [] ∧ system.pending = 0 := by
  refine ⟨_, listeningDriver_reached
    |>.perform (1, .internal) trivial (.task rfl (.viaListener rfl))
    |>.perform (1, .internal) trivial (.task rfl (.cloneSender rfl))
    |>.perform (1, .internal) trivial (.task rfl (.sendCommand rfl rfl (by decide)))
    |>.perform (2, .internal) trivial (.task rfl (.listen rfl))
    |>.perform (2, .internal) trivial (.task rfl (.take rfl))
    |>.perform (2, .internal) trivial (.task rfl (.receiveCommand rfl rfl))
    |>.perform (2, .send (unansweredExchange (.sent 1)).send) trivial (.task rfl (.commandSend rfl))
    |>.perform (2, .read publishedRead) trivial (.task rfl (.commandAck rfl))
    |>.perform (2, .internal) trivial (.task rfl .respond)
    |>.perform (1, .internal) trivial (.task rfl (.reply rfl)), rfl, rfl, rfl, rfl⟩

end Mqtt
end Ferredge
