import Ferredge.Core.Routed
import Ferredge.Fallible
import Ferredge.Mqtt.Packet

/-!
# MQTT client sessions

A session is the socket, the connection library's state machine and the inbound decoder of one
broker connection.  What the library and the network do is input: every event the library reports
carries the outcome of the socket operation or of the AUTH exchange that its handling starts.
-/

namespace Ferredge

/-- A property of a CONNACK packet. -/
inductive ConnackProperty where
  | reasonString (text : String)
  | other

/-- Inbound packets, as far as a session looks into them before it decodes them. -/
inductive InboundPacket (packet : Type) where
  | v5Connack (reasonCode : UInt8) (props : List ConnackProperty)
  | v3Connack (returnCode : UInt8)
  | v5Auth
  | other (packet : packet)

/-- The part of the negotiated CONNACK snapshot that connecting depends on. -/
structure MqttConnackProperties where
  reasonCode : Option String
  reasonString : Option String
  deriving DecidableEq

/-- Texts the packet library gives for the result codes of a connection attempt. -/
structure ConnackTexts where
  v5 : UInt8 → String
  v3 : UInt8 → String

/-- Decoded inbound MQTT semantic message. -/
inductive MqttDecodedInbound where
  | ignored
  | event (event : RoutedEvent)
  | result (result : RoutedResult)

/-- The routed message a decoded packet projects to. -/
def MqttDecodedInbound.toRoutedMessage : MqttDecodedInbound → Option RoutedMessage
  | .ignored => none
  | .event message => some (.event message)
  | .result message => some (.result message)

/-- What a session is built on: the packet library and the stateful inbound decoder. -/
structure MqttStack where
  library : MqttLibrary
  texts : ConnackTexts
  /-- Inbound packets other than CONNACK and AUTH. -/
  Packet : Type
  /-- State of the inbound decoder. -/
  Decoder : Type
  newDecoder : Decoder
  recordOutboundRequest : Decoder → MqttPacketRequest → Decoder
  decode : Decoder → InboundPacket Packet → Except String MqttDecodedInbound × Decoder

/-- How the socket takes a packet. -/
inductive WriteOutcome where
  | sent (now : Nat)
  | writeFailed (error : String)
  | flushFailed (error : String)

/-- An event the library reports while an AUTH packet is sent. -/
inductive AuthEvent where
  | requestSendPacket (outcome : WriteOutcome)
  | notifyError (error : String)
  | requestClose
  | ignored

/-- How the exchange over an AUTH packet goes. -/
inductive AuthExchange where
  | noHandler
  | refused (error : String)
  | noResponse
  | invalidResponse (error : String)
  | answered (events : List AuthEvent)

/-- An event of the connection library. -/
inductive ConnectionEvent (stack : MqttStack) where
  | requestSendPacket (outcome : WriteOutcome)
  | notifyPacketReceived (packet : InboundPacket stack.Packet) (auth : AuthExchange)
  | notifyError (error : String)
  | requestClose
  /-- `NotifyPacketIdReleased`, `RequestTimerReset` or `RequestTimerCancel`. -/
  | housekeeping

/-- What went over a broker connection, and whether the broker has closed its end. -/
structure StackSocket (stack : MqttStack) where
  packetsSent : Nat
  packetsReceived : List (InboundPacket stack.Packet)
  peerOpen : Bool

/-- Runtime state of one broker connection. -/
structure MqttClientSession (stack : MqttStack) where
  stream : StackSocket stack
  keepaliveSecs : Option UInt16
  /-- Time of the last traffic in nanoseconds. -/
  lastActivity : Nat
  awaitingPingresp : Bool
  inboundDecoder : stack.Decoder

/-- A session together with the driver's negotiated CONNACK snapshot. -/
structure SessionState (stack : MqttStack) where
  session : MqttClientSession stack
  negotiatedConnack : Option MqttConnackProperties

/-- Which of the driver's shared cells the handling of events is given. -/
structure Observers where
  negotiatedConnack : Bool
  authHandler : Bool

namespace Mqtt

variable {stack : MqttStack}

/-! ## Connection events -/

/-- Hands a packet to the socket. -/
def writePacket (what : String) (outcome : WriteOutcome) (session : MqttClientSession stack) :
    Except String Unit × MqttClientSession stack :=
  let taken := { session.stream with packetsSent := session.stream.packetsSent + 1 }
  match outcome with
  | .sent now => (.ok (), { session with stream := taken, lastActivity := now })
  | .writeFailed error => (.error s!"failed to write MQTT {what}: {error}", session)
  | .flushFailed error =>
      (.error s!"failed to flush MQTT {what}: {error}", { session with stream := taken })

def processOutboundAuthEvents :
    List AuthEvent → MqttClientSession stack → Except String Unit × MqttClientSession stack
  | [], session => (.ok (), session)
  | .requestSendPacket outcome :: events, session =>
      match writePacket "auth packet" outcome session with
      | (.error error, session) => (.error error, session)
      | (.ok _, session) => processOutboundAuthEvents events session
  | .notifyError error :: _, session =>
      (.error s!"mqtt protocol error during auth exchange: {error}", session)
  | .requestClose :: _, session => (.error "mqtt auth exchange requested close", session)
  | .ignored :: events, session => processOutboundAuthEvents events session

/-- Answers an AUTH packet through the registered handler. -/
def processIncomingAuth (packet : InboundPacket stack.Packet) (exchange : AuthExchange)
    (session : MqttClientSession stack) : Except String Unit × MqttClientSession stack :=
  match packet, exchange with
  | .v5Auth, .noHandler =>
      (.error ("mqtt broker requested enhanced authentication but no auth handler is " ++
        "configured"), session)
  | .v5Auth, .refused error => (.error error, session)
  | .v5Auth, .noResponse =>
      (.error "mqtt auth handler returned no response for broker challenge", session)
  | .v5Auth, .invalidResponse error => (.error error, session)
  | .v5Auth, .answered events => processOutboundAuthEvents events session
  | _, _ => (.ok (), session)

/-- The last reason string among the properties of a CONNACK. -/
def connackReasonString (props : List ConnackProperty) : Option String :=
  props.foldl (fun found property =>
    match property with
    | .reasonString text => some text
    | .other => found) none

/-- The snapshot of a CONNACK packet. -/
def connackSnapshot (texts : ConnackTexts) {packet : Type} :
    InboundPacket packet → Option MqttConnackProperties
  | .v5Connack reasonCode props =>
      some
        { reasonCode := some (texts.v5 reasonCode)
          reasonString := connackReasonString props }
  | .v3Connack returnCode =>
      some { reasonCode := some (texts.v3 returnCode), reasonString := none }
  | _ => none

/-- The session's record of a packet the library delivers. -/
def receivePacket (packet : InboundPacket stack.Packet) (session : MqttClientSession stack) :
    MqttClientSession stack :=
  { session with
    stream :=
      { session.stream with packetsReceived := session.stream.packetsReceived ++ [packet] } }

/-- Stores the snapshot of a CONNACK packet in the driver. -/
def updateNegotiatedConnack (packet : InboundPacket stack.Packet)
    (negotiated : Option MqttConnackProperties) : Option MqttConnackProperties :=
  (connackSnapshot stack.texts packet).or negotiated

/-- Decodes a packet into the message it projects to. -/
def decodePacket (packet : InboundPacket stack.Packet) (session : MqttClientSession stack) :
    Except String (Option RoutedMessage) × MqttClientSession stack :=
  let decoded := stack.decode session.inboundDecoder packet
  (decoded.1.map MqttDecodedInbound.toRoutedMessage, { session with inboundDecoder := decoded.2 })

/-- Lets the registered handler answer an AUTH packet, where the caller gives one. -/
def authorizePacket (observers : Observers) (packet : InboundPacket stack.Packet)
    (auth : AuthExchange) (session : MqttClientSession stack) :
    Except String Unit × MqttClientSession stack :=
  if observers.authHandler then processIncomingAuth packet auth session else (.ok (), session)

/-- Handles one packet the library delivers. -/
def handlePacketReceived (observers : Observers) (packet : InboundPacket stack.Packet)
    (auth : AuthExchange) (state : SessionState stack) :
    Except String (Option RoutedMessage) × SessionState stack :=
  let negotiated :=
    if observers.negotiatedConnack then updateNegotiatedConnack packet state.negotiatedConnack
    else state.negotiatedConnack
  match authorizePacket observers packet auth (receivePacket packet state.session) with
  | (.error error, session) => (.error error, ⟨session, negotiated⟩)
  | (.ok _, session) =>
      let decoded := decodePacket packet session
      (decoded.1, ⟨decoded.2, negotiated⟩)

/-- Handles one event of the connection library. -/
def handleConnectionEvent (observers : Observers) (event : ConnectionEvent stack)
    (state : SessionState stack) : Except String (Option RoutedMessage) × SessionState stack :=
  match event with
  | .requestSendPacket outcome =>
      let written := writePacket "packet" outcome state.session
      (written.1.map fun _ => none, { state with session := written.2 })
  | .notifyPacketReceived packet auth => handlePacketReceived observers packet auth state
  | .notifyError error => (.error s!"mqtt protocol error: {error}", state)
  | .requestClose => (.error "mqtt connection requested close", state)
  | .housekeeping => (.ok none, state)

/-- Handles a batch of events and collects the routed messages; an error drops what is collected. -/
def handleConnectionEvents (observers : Observers) :
    List (ConnectionEvent stack) → List RoutedMessage → SessionState stack →
      Except String (List RoutedMessage) × SessionState stack
  | [], routed, state => (.ok routed, state)
  | event :: events, routed, state =>
      match handleConnectionEvent observers event state with
      | (.error error, state) => (.error error, state)
      | (.ok message, state) =>
          handleConnectionEvents observers events (routed ++ message.toList) state

/-! ## Reading -/

/-- What a read of the socket gives. -/
inductive SocketRead (stack : MqttStack) where
  | timeoutRefused (error : String)
  | closed
  | received (events : List (ConnectionEvent stack))
  | timedOut (ping : Except String (List (ConnectionEvent stack)))
  | failed (error : String)

/-- A read of the socket and the time at which it returns. -/
structure ReadInput (stack : MqttStack) where
  now : Nat
  read : SocketRead stack

/-- Sends a PINGREQ once the keep-alive interval has passed without traffic. -/
def sendKeepalivePingIfDue (now : Nat) (ping : Except String (List (ConnectionEvent stack)))
    (state : SessionState stack) : Except String Unit × SessionState stack :=
  match state.session.keepaliveSecs with
  | none => (.ok (), state)
  | some keepaliveSecs =>
      if keepaliveSecs = 0 then (.ok (), state)
      else if now - state.session.lastActivity < keepaliveSecs.toNat * 1000000000 then
        (.ok (), state)
      else if state.session.awaitingPingresp then
        (.error "mqtt keepalive timed out waiting for ping response", state)
      else
        match ping with
        | .error error => (.error error, state)
        | .ok events =>
            let awaiting := { state.session with awaitingPingresp := true }
            let handled :=
              handleConnectionEvents ⟨false, false⟩ events [] { state with session := awaiting }
            (handled.1.map fun _ => (), handled.2)

/-- Reads once from the session and handles what the library makes of it. -/
def readFromSession (observers : Observers) (input : ReadInput stack)
    (state : SessionState stack) : Except String (List RoutedMessage) × SessionState stack :=
  match input.read with
  | .timeoutRefused error => (.error s!"failed to set MQTT read timeout: {error}", state)
  | .closed =>
      let stream := { state.session.stream with peerOpen := false }
      (.error "mqtt stream closed", { state with session := { state.session with stream } })
  | .received events =>
      let active :=
        { state.session with lastActivity := input.now, awaitingPingresp := false }
      handleConnectionEvents observers events [] { state with session := active }
  | .timedOut ping =>
      let pinged := sendKeepalivePingIfDue input.now ping state
      (pinged.1.map fun _ => [], pinged.2)
  | .failed error => (.error s!"failed reading MQTT stream: {error}", state)

/-! ## Sending -/

/-- The library's part in sending a request: the packet identifier it hands out, and the events it
reports for the packet. -/
structure SendInput (stack : MqttStack) where
  acquired : Except String UInt16
  events : List (ConnectionEvent stack)

def publishRequiresPacketId : MqttWirePacket → Bool
  | .v5Publish publish _ | .v3Publish publish => publish.qos ≠ .atMostOnce
  | _ => false

/-- Whether a packet is given a fresh identifier when it is sent. -/
def takesPacketId : MqttWirePacket → Bool
  | .v5Subscribe _ _ | .v3Subscribe _ | .v5Unsubscribe _ _ | .v3Unsubscribe _ => true
  | packet => publishRequiresPacketId packet

def withPacketId (packetId : UInt16) : MqttWirePacket → MqttWirePacket
  | .v5Publish publish props => .v5Publish { publish with packetId := some packetId } props
  | .v3Publish publish => .v3Publish { publish with packetId := some packetId }
  | .v5Subscribe subscribe props => .v5Subscribe { subscribe with packetId } props
  | .v3Subscribe subscribe => .v3Subscribe { subscribe with packetId }
  | .v5Unsubscribe unsubscribe props => .v5Unsubscribe { unsubscribe with packetId } props
  | .v3Unsubscribe unsubscribe => .v3Unsubscribe { unsubscribe with packetId }

/-- The part of a packet that is checked again before the packet is rebuilt. -/
def recheck (library : MqttLibrary) : MqttWirePacket → Except MqttError Unit
  | .v5Publish publish _ | .v3Publish publish => library.topicName publish.topicName
  | .v5Unsubscribe unsubscribe _ | .v3Unsubscribe unsubscribe =>
      library.filters unsubscribe.entries
  | _ => .ok ()

def rebuildWithPacketId (library : MqttLibrary) (request : MqttPacketRequest)
    (packetId : UInt16) : Except String MqttPacketRequest := do
  let packet := withPacketId packetId request.packet
  (recheck library packet).mapError MqttError.name
  (library.build packet).mapError MqttError.name
  return { request with packet }

/-- Gives a request a packet identifier of the session, where its packet has one. -/
def assignRuntimePacketId (library : MqttLibrary) (acquired : Except String UInt16)
    (request : MqttPacketRequest) : Except String MqttPacketRequest :=
  if takesPacketId request.packet then acquired >>= rebuildWithPacketId library request
  else .ok request

/-- Sends a request over the session. -/
def sendPacketRequest (request : MqttPacketRequest) (input : SendInput stack)
    (state : SessionState stack) : Except String Unit × SessionState stack :=
  match assignRuntimePacketId stack.library input.acquired request with
  | .error error => (.error error, state)
  | .ok request =>
      let recorded := stack.recordOutboundRequest state.session.inboundDecoder request
      let session := { state.session with inboundDecoder := recorded }
      let handled :=
        handleConnectionEvents ⟨false, false⟩ input.events [] { state with session }
      (handled.1.map fun _ => (), handled.2)

/-- A send handed at least one packet to the socket. -/
def sendReachedSocket (request : MqttPacketRequest) (input : SendInput stack)
    (state : SessionState stack) : Bool :=
  state.session.stream.packetsSent <
    (sendPacketRequest request input state).2.session.stream.packetsSent

/-! ## What a batch delivers -/

/-- The events among routed messages. -/
def routedEvents (messages : List RoutedMessage) : List RoutedEvent :=
  messages.filterMap fun message =>
    match message with
    | .event event => some event
    | _ => none

/-- The event a packet decodes to. -/
def decodedEvents : Except String MqttDecodedInbound → List RoutedEvent
  | .ok (.event event) => [event]
  | _ => []

/-- The events that the packets of a batch decode to, whatever becomes of the batch. -/
def deliveredEvents (decoder : stack.Decoder) : List (ConnectionEvent stack) → List RoutedEvent
  | [] => []
  | .notifyPacketReceived packet _ :: events =>
      let decoded := stack.decode decoder packet
      decodedEvents decoded.1 ++ deliveredEvents decoded.2 events
  | _ :: events => deliveredEvents decoder events

/-- The events that a read of the socket delivers. -/
def SocketRead.deliveredEvents (decoder : stack.Decoder) : SocketRead stack → List RoutedEvent
  | .received events => Mqtt.deliveredEvents decoder events
  | .timedOut (.ok events) => Mqtt.deliveredEvents decoder events
  | _ => []

/-- The events that sending a request delivers. -/
def SendInput.deliveredEvents (decoder : stack.Decoder) (request : MqttPacketRequest)
    (input : SendInput stack) : List RoutedEvent :=
  match assignRuntimePacketId stack.library input.acquired request with
  | .error _ => []
  | .ok request =>
      Mqtt.deliveredEvents (stack.recordOutboundRequest decoder request) input.events

/-- Two sessions agree on everything received. -/
structure SameInbound (before after : MqttClientSession stack) : Prop where
  decoder : after.inboundDecoder = before.inboundDecoder
  received : after.stream.packetsReceived = before.stream.packetsReceived

theorem SameInbound.refl (session : MqttClientSession stack) : SameInbound session session :=
  ⟨rfl, rfl⟩

theorem SameInbound.trans {first second third : MqttClientSession stack}
    (earlier : SameInbound first second) (later : SameInbound second third) :
    SameInbound first third :=
  ⟨later.decoder.trans earlier.decoder, later.received.trans earlier.received⟩

theorem writePacket_sameInbound (what : String) (outcome : WriteOutcome)
    (session : MqttClientSession stack) :
    SameInbound session (writePacket what outcome session).2 := by
  cases outcome <;> exact ⟨rfl, rfl⟩

theorem processOutboundAuthEvents_sameInbound (events : List AuthEvent)
    (session : MqttClientSession stack) :
    SameInbound session (processOutboundAuthEvents events session).2 := by
  induction events generalizing session with
  | nil => exact .refl session
  | cons event events ih =>
      cases event with
      | requestSendPacket outcome =>
          have kept := writePacket_sameInbound "auth packet" outcome session
          rw [processOutboundAuthEvents]
          rcases written : writePacket "auth packet" outcome session with ⟨error | _, session'⟩
          · rw [written] at kept
            exact kept
          · rw [written] at kept
            exact kept.trans (ih session')
      | notifyError error => exact .refl session
      | requestClose => exact .refl session
      | ignored => exact ih session

theorem processIncomingAuth_sameInbound (packet : InboundPacket stack.Packet)
    (exchange : AuthExchange) (session : MqttClientSession stack) :
    SameInbound session (processIncomingAuth packet exchange session).2 := by
  cases packet with
  | v5Auth =>
      cases exchange with
      | answered events => exact processOutboundAuthEvents_sameInbound events session
      | noHandler | refused | noResponse | invalidResponse => exact .refl session
  | v5Connack | v3Connack | other => exact .refl session

theorem authorizePacket_sameInbound (observers : Observers) (packet : InboundPacket stack.Packet)
    (auth : AuthExchange) (session : MqttClientSession stack) :
    SameInbound session (authorizePacket observers packet auth session).2 := by
  unfold authorizePacket
  split
  · exact processIncomingAuth_sameInbound packet auth session
  · exact .refl session

theorem routedEvents_append (left right : List RoutedMessage) :
    routedEvents (left ++ right) = routedEvents left ++ routedEvents right :=
  List.filterMap_append

/-- A decoded packet yields the message of its event. -/
theorem routedEvents_decoded {decoded : Except String MqttDecodedInbound}
    {message : Option RoutedMessage}
    (projected : decoded.map MqttDecodedInbound.toRoutedMessage = .ok message) :
    routedEvents message.toList = decodedEvents decoded := by
  obtain ⟨inbound, rfl, rfl⟩ := Fallible.map_eq_ok.mp projected
  cases inbound <;> rfl

/-- An event that is handled without an error passes its events on. -/
theorem handleConnectionEvent_delivered {observers : Observers} {event : ConnectionEvent stack}
    {state after : SessionState stack} {message : Option RoutedMessage}
    (handled : handleConnectionEvent observers event state = (.ok message, after))
    (events : List (ConnectionEvent stack)) :
    routedEvents message.toList ++ deliveredEvents after.session.inboundDecoder events =
      deliveredEvents state.session.inboundDecoder (event :: events) := by
  cases event with
  | requestSendPacket outcome =>
      have kept := (writePacket_sameInbound "packet" outcome state.session).decoder
      obtain ⟨written, rfl⟩ := Prod.mk.inj handled
      obtain ⟨_, _, rfl⟩ := Fallible.map_eq_ok.mp written
      simp only [deliveredEvents, kept]
      rfl
  | notifyPacketReceived packet auth =>
      have kept := (authorizePacket_sameInbound observers packet auth
        (receivePacket packet state.session)).decoder
      simp only [handleConnectionEvent, handlePacketReceived] at handled
      rcases authorized : authorizePacket observers packet auth
        (receivePacket packet state.session) with ⟨error | _, session⟩
      · rw [authorized] at handled
        cases handled
      · rw [authorized] at handled kept
        obtain ⟨decoded, rfl⟩ := Prod.mk.inj handled
        have same : session.inboundDecoder = state.session.inboundDecoder := kept
        rw [routedEvents_decoded decoded]
        simp only [deliveredEvents, decodePacket, same]
  | notifyError error => cases handled
  | requestClose => cases handled
  | housekeeping =>
      cases handled
      rfl

/-- A batch that is handled without an error passes on exactly the events it delivers. -/
theorem handleConnectionEvents_delivered {observers : Observers}
    {events : List (ConnectionEvent stack)} {routed messages : List RoutedMessage}
    {state after : SessionState stack}
    (handled : handleConnectionEvents observers events routed state = (.ok messages, after)) :
    routedEvents messages =
      routedEvents routed ++ deliveredEvents state.session.inboundDecoder events := by
  induction events generalizing routed state with
  | nil =>
      cases handled
      simp [deliveredEvents]
  | cons event events ih =>
      rw [handleConnectionEvents] at handled
      rcases one : handleConnectionEvent observers event state with ⟨error | message, next⟩
      · rw [one] at handled
        cases handled
      · rw [one] at handled
        rw [ih handled, routedEvents_append, List.append_assoc,
          handleConnectionEvent_delivered one]

/-- A read that succeeds passes on exactly the events it delivers, unless it only sent a ping. -/
theorem readFromSession_delivered {observers : Observers} {input : ReadInput stack}
    {messages : List RoutedMessage} {state after : SessionState stack}
    (read : readFromSession observers input state = (.ok messages, after))
    (silent : ∀ ping, input.read = .timedOut (.ok ping) →
      deliveredEvents state.session.inboundDecoder ping = []) :
    routedEvents messages = input.read.deliveredEvents state.session.inboundDecoder := by
  obtain ⟨now, socketRead⟩ := input
  cases socketRead with
  | received events => exact handleConnectionEvents_delivered read
  | timedOut ping =>
      obtain ⟨result, rfl⟩ := Prod.mk.inj read
      obtain ⟨_, _, rfl⟩ := Fallible.map_eq_ok.mp result
      cases ping with
      | error error => rfl
      | ok events => exact (silent events rfl).symm
  | timeoutRefused | closed | failed => cases read

/-- A stack without checks, whose packets are the events they decode to. -/
def echoStack : MqttStack :=
  { library := permissiveLibrary
    texts :=
      { v5 := fun code => if code = 0 then "Success" else "Not authorized"
        v3 := fun code => if code = 0 then "Accepted" else "Not authorized" }
    Packet := RoutedEvent
    Decoder := Unit
    newDecoder := ()
    recordOutboundRequest := fun _ _ => ()
    decode := fun _ packet =>
      match packet with
      | .other event => (.ok (.event event), ())
      | _ => (.ok .ignored, ()) }

/-- A session of the stack on a connection that is just open. -/
def echoSession : MqttClientSession echoStack :=
  { stream := { packetsSent := 0, packetsReceived := [], peerOpen := true }
    keepaliveSecs := none
    lastActivity := 0
    awaitingPingresp := false
    inboundDecoder := () }

end Mqtt
end Ferredge
