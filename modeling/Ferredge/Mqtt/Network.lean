import Mathlib.Logic.Function.Basic
import Ferredge.Transition
import Ferredge.Mqtt.Forwarding

/-!
# Requests between nodes

Nodes that share a broker send each other requests over MQTT 5 and answer them.  The broker passes
a message on to whatever nodes it likes, at any time and as often as it likes, and the nodes renew
their sessions.  A node tells by the text of its correlation data which of its requests a message
answers.
-/

namespace Ferredge

open Fallible KeyedList Transition Mqtt MqttInboundDecoder

namespace MqttNetwork

/-! ## Nodes and messages -/

/-- A message that a node has sent. -/
structure SentMessage (ν : Type) where
  sender : ν
  /-- The session of the sender over which the message went. -/
  session : Nat
  /-- How many packets the sender had decoded before. -/
  decodedBefore : Nat
  command : Command
  publish : PublishPacket
  props : List MqttProperty
  /-- The event that the message answers, if it is an answer. -/
  answers : Option RoutedEvent

namespace SentMessage

variable {ν : Type}

def request (message : SentMessage ν) : MqttPacketRequest :=
  { commandId := message.command.id, packet := .v5Publish message.publish message.props }

/-- A pipeline makes the message of its command, and the session numbers it. -/
structure Accepted (lib : MqttLibrary) (device : MqttDevice) (message : SentMessage ν) :
    Prop where
  version : device.endpoint.preferredProtocolVersion = .v5_0
  intent : ∃ channel payload options, message.command.intent = .send channel payload options
  made : ∃ accepted acquired, Encodes lib device message.command accepted ∧
    assignRuntimePacketId lib acquired accepted = .ok message.request

/-- The message is a request, and its answers are to carry the text. -/
def Asks (message : SentMessage ν) (text : String) : Prop :=
  message.answers = none ∧ text ∈ correlationTexts message.props

instance (message : SentMessage ν) (text : String) : Decidable (message.Asks text) :=
  decidable_of_iff (message.answers.isNone ∧ text ∈ correlationTexts message.props)
    (and_congr_left' Option.isNone_iff_eq_none)

/-- The message is the same command of the same node again. -/
structure Repeats (message asked : SentMessage ν) : Prop where
  sender : message.sender = asked.sender
  command : message.command = asked.command

/-- The message carries the text that the event names, goes to the event's reply address, and does
not ask for a reply itself. -/
structure Answers (message : SentMessage ν) (event : RoutedEvent) : Prop where
  addressed : ∃ text, correlationTexts message.props = [text] ∧
    event.correlation =
      some { requestId := ⟨text⟩, replyTo := some (.channel message.publish.topicName) }
  final : (PublishFields.ofProps message.props).responseTopic = none

/-- A broker may pass the message on as the packet. -/
def IsCopy (message : SentMessage ν) (packet : MqttInboundPacket) : Prop :=
  ∃ publish duplicate props, packet = .v5Publish publish duplicate props ∧
    PassedOn message.publish message.props publish props

end SentMessage

/-- A node, with everything its decoders have made of packets. -/
structure Node where
  session : Nat
  decoder : MqttInboundDecoder
  decoded : List (MqttInboundPacket × MqttDecodedInbound)

namespace Node

def new (deviceId : DeviceId) : Node :=
  { session := 0, decoder := .new deviceId, decoded := [] }

def records (request : MqttPacketRequest) (node : Node) : Node :=
  { node with decoder := node.decoder.recordOutboundRequest request }

def decodes (packet : MqttInboundPacket) (node : Node) : Node :=
  { node with
    decoder := (node.decoder.decode packet).2
    decoded := node.decoded ++ [(packet, (node.decoder.decode packet).1)] }

/-- A new session has a new decoder. -/
def renews (node : Node) : Node :=
  { node with session := node.session + 1, decoder := .new node.decoder.deviceId }

end Node

/-- The nodes, and everything they have sent. -/
structure State (ν : Type) where
  node : ν → Node
  sent : List (SentMessage ν)

/-- What happens in the network. -/
inductive Label (ν : Type) where
  | sends (message : SentMessage ν)
  /-- A node sends a request without correlation data, such as a subscription. -/
  | records (actor : ν) (request : MqttPacketRequest)
  | receives (actor : ν) (message : SentMessage ν) (publish : PublishPacket) (duplicate : Bool)
      (props : List MqttProperty)
  /-- A packet comes in that none of the nodes has sent. -/
  | overhears (actor : ν) (packet : MqttInboundPacket)
  | renews (actor : ν)

section Steps

variable {ν : Type} [DecidableEq ν]

namespace State

def new (device : ν → MqttDevice) : State ν :=
  { node := fun actor => .new (device actor).id, sent := [] }

def act (state : State ν) (actor : ν) (does : Node → Node) : State ν :=
  { state with node := Function.update state.node actor (does (state.node actor)) }

/-- A node records a message and sends it. -/
def sends (state : State ν) (message : SentMessage ν) : State ν :=
  { state.act message.sender (Node.records message.request) with
    sent := state.sent ++ [message] }

/-- Nothing that was sent or decoded carries the text. -/
structure Unused (state : State ν) (text : String) : Prop where
  sent : ∀ message ∈ state.sent, text ∉ correlationTexts message.props
  decoded : ∀ actor, ∀ entry ∈ (state.node actor).decoded, text ∉ entry.1.correlationTexts

end State

inductive Step (lib : MqttLibrary) (device : ν → MqttDevice) :
    State ν → Label ν → State ν → Prop
  | sends (state : State ν) (message : SentMessage ν)
      (current : message.session = (state.node message.sender).session)
      (before : message.decodedBefore = (state.node message.sender).decoded.length)
      (accepted : message.Accepted lib (device message.sender))
      (known : ∀ event, message.answers = some event →
        ∃ packet, (packet, .event event) ∈ (state.node message.sender).decoded) :
      Step lib device state (.sends message) (state.sends message)
  | records (state : State ν) (actor : ν) (request : MqttPacketRequest)
      (plain : outboundCorrelation request.packet = none) :
      Step lib device state (.records actor request) (state.act actor (Node.records request))
  | receives (state : State ν) (actor : ν) (message : SentMessage ν) (publish : PublishPacket)
      (duplicate : Bool) (props : List MqttProperty) (sent : message ∈ state.sent)
      (passed : PassedOn message.publish message.props publish props) :
      Step lib device state (.receives actor message publish duplicate props)
        (state.act actor (Node.decodes (.v5Publish publish duplicate props)))
  | overhears (state : State ν) (actor : ν) (packet : MqttInboundPacket) :
      Step lib device state (.overhears actor packet) (state.act actor (Node.decodes packet))
  | renews (state : State ν) (actor : ν) :
      Step lib device state (.renews actor) (state.act actor Node.renews)

/-- Different requests carry different texts, none of them empty, requests do not come back to their
senders, a node answers what it has been asked, and what comes from elsewhere carries no text of a
request. -/
def Careful (state : State ν) : Label ν → Prop
  | .sends message =>
      (∀ text, message.Asks text → text ≠ "" ∧
        (state.Unused text ∨ ∃ asked ∈ state.sent, asked.Asks text ∧ message.Repeats asked)) ∧
        ∀ event, message.answers = some event → message.Answers event
  | .receives actor message _ _ _ => ∀ text, message.Asks text → actor ≠ message.sender
  | .overhears _ packet =>
      ∀ asked ∈ state.sent, ∀ text, asked.Asks text → text ∉ packet.correlationTexts
  | .records _ _ | .renews _ => True

end Steps

/-! ## What a node keeps of a request -/

/-- The entry is a result, and its packet carries the text. -/
def resultUnder (text : String) : MqttInboundPacket × MqttDecodedInbound → Bool
  | (packet, .result _) => decide (text ∈ packet.correlationTexts)
  | _ => false

theorem resultUnder_of_unmentioned {packet : MqttInboundPacket} {text : String}
    (unmentioned : text ∉ packet.correlationTexts) (decoded : MqttDecodedInbound) :
    resultUnder text (packet, decoded) = false := by
  cases decoded with
  | result result => exact decide_eq_false unmentioned
  | ignored | event => rfl

namespace Node

/-- What a node has under a text is the route of one request and results of it, and no more of them
than the number of times the request was sent. -/
structure Serves (node : Node) (text : String) (route : PendingReplyRoute) (times : Nat) :
    Prop where
  kept : ∀ found, lookup text node.decoder.pendingReplyRoutes = some found → found = route
  reported : ∀ publish duplicate props result,
    (.v5Publish publish duplicate props, .result result) ∈ node.decoded →
    text ∈ correlationTexts props →
    ∃ deviceId, result = replyResult deviceId route text publish duplicate props
  bounded : node.decoded.countP (resultUnder text) +
    (lookup text node.decoder.pendingReplyRoutes).isSome.toNat ≤ times

/-- A request that was sent over the current session has its route as long as nothing with its text
came in. -/
structure Waits (node : Node) (text : String) (route : PendingReplyRoute)
    (session decodedBefore : Nat) : Prop where
  past : session ≤ node.session
  earlier : decodedBefore ≤ node.decoded.length
  waiting : node.session = session →
    (∀ entry ∈ node.decoded.drop decodedBefore, text ∉ entry.1.correlationTexts) →
    lookup text node.decoder.pendingReplyRoutes = some route

variable {node : Node} {text : String} {route : PendingReplyRoute} {times : Nat}
  {session decodedBefore : Nat}

section Records

variable {request : MqttPacketRequest}

theorem Serves.records (serves : node.Serves text route times)
    (same : lookup text (node.decoder.recordOutboundRequest request).pendingReplyRoutes =
      lookup text node.decoder.pendingReplyRoutes) :
    (node.records request).Serves text route times where
  kept found known := serves.kept found (same ▸ known)
  reported := serves.reported
  bounded := by
    rw [Node.records, same]
    exact serves.bounded

theorem Waits.records (waits : node.Waits text route session decodedBefore)
    (same : lookup text (node.decoder.recordOutboundRequest request).pendingReplyRoutes =
      lookup text node.decoder.pendingReplyRoutes) :
    (node.records request).Waits text route session decodedBefore where
  past := waits.past
  earlier := waits.earlier
  waiting current quiet := same.trans (waits.waiting current quiet)

/-- A request that is sent again opens its route again. -/
theorem Serves.reopens (serves : node.Serves text route times)
    (opened : lookup text (node.decoder.recordOutboundRequest request).pendingReplyRoutes =
      some route) :
    (node.records request).Serves text route (times + 1) where
  kept found known := Option.some.inj (known.symm.trans opened)
  reported := serves.reported
  bounded := by
    have bounded := serves.bounded
    rw [Node.records, opened]
    simp only [Option.isSome_some, Bool.toNat_true]
    omega

/-- The first request with a text opens the route under it. -/
theorem Serves.opens (unused : ∀ entry ∈ node.decoded, text ∉ entry.1.correlationTexts)
    (opened : lookup text (node.decoder.recordOutboundRequest request).pendingReplyRoutes =
      some route) :
    (node.records request).Serves text route 1 where
  kept found known := Option.some.inj (known.symm.trans opened)
  reported publish duplicate props result decoded mentioned :=
    absurd mentioned (unused _ decoded)
  bounded := by
    have silent : node.decoded.countP (resultUnder text) = 0 := by
      refine List.countP_eq_zero.mpr fun entry decoded => ?_
      rw [resultUnder_of_unmentioned (unused entry decoded)]
      exact Bool.false_ne_true
    rw [Node.records, opened, silent]
    exact Nat.le_refl 1

theorem Waits.reopens (waits : node.Waits text route session decodedBefore)
    (opened : lookup text (node.decoder.recordOutboundRequest request).pendingReplyRoutes =
      some route) :
    (node.records request).Waits text route session decodedBefore where
  past := waits.past
  earlier := waits.earlier
  waiting _ _ := opened

theorem Waits.opens
    (opened : lookup text (node.decoder.recordOutboundRequest request).pendingReplyRoutes =
      some route) :
    (node.records request).Waits text route node.session node.decoded.length where
  past := Nat.le_refl _
  earlier := Nat.le_refl _
  waiting _ _ := opened

end Records

section Decodes

variable {packet : MqttInboundPacket}

theorem Waits.decodes (waits : node.Waits text route session decodedBefore) :
    (node.decodes packet).Waits text route session decodedBefore where
  past := waits.past
  earlier := by
    have earlier := waits.earlier
    rw [Node.decodes, List.length_append]
    omega
  waiting current quiet := by
    rw [Node.decodes, List.drop_append_of_le_length waits.earlier] at quiet
    have unmentioned : text ∉ packet.correlationTexts :=
      quiet _ (List.mem_append_right _ List.mem_cons_self)
    rw [Node.decodes, lookup_decode_of_unmentioned unmentioned]
    exact waits.waiting current fun entry decoded =>
      quiet entry (List.mem_append_left _ decoded)

/-- A packet that does not carry the text is neither its result nor answers its route. -/
theorem Serves.decodes_unmentioned (serves : node.Serves text route times)
    (unmentioned : text ∉ packet.correlationTexts) :
    (node.decodes packet).Serves text route times where
  kept found known := by
    rw [Node.decodes, lookup_decode_of_unmentioned unmentioned] at known
    exact serves.kept found known
  reported publish duplicate props result decoded mentioned := by
    rcases List.mem_append.mp decoded with earlier | last
    · exact serves.reported publish duplicate props result earlier mentioned
    · obtain ⟨rfl, -⟩ := Prod.mk.inj (List.mem_singleton.mp last)
      exact absurd mentioned unmentioned
  bounded := by
    rw [Node.decodes, List.countP_append, List.countP_singleton,
      resultUnder_of_unmentioned unmentioned, lookup_decode_of_unmentioned unmentioned]
    exact serves.bounded

/-- A message that carries the text is a result if its route is open, and then closes it. -/
theorem Serves.decodes_alone {publish : PublishPacket} {duplicate : Bool}
    {props : List MqttProperty} (serves : node.Serves text route times)
    (alone : correlationTexts props = [text]) :
    (node.decodes (.v5Publish publish duplicate props)).Serves text route times := by
  cases found : lookup text node.decoder.pendingReplyRoutes with
  | none =>
      have decoded := decode_of_no_route publish duplicate alone found
      constructor
      · intro kept known
        rw [Node.decodes, decoded] at known
        exact serves.kept kept known
      · intro other again otherProps result emitted mentioned
        rw [Node.decodes, decoded] at emitted
        rcases List.mem_append.mp emitted with earlier | last
        · exact serves.reported other again otherProps result earlier mentioned
        · cases List.mem_singleton.mp last
      · have bounded := serves.bounded
        rw [Node.decodes, decoded, List.countP_append]
        exact bounded
  | some kept =>
      obtain rfl : kept = route := serves.kept kept found
      have decoded := decode_of_route publish duplicate alone found
      constructor
      · intro other known
        rw [Node.decodes, decoded, lookup_remove_self] at known
        cases known
      · intro other again otherProps result emitted mentioned
        rw [Node.decodes, decoded] at emitted
        rcases List.mem_append.mp emitted with earlier | last
        · exact serves.reported other again otherProps result earlier mentioned
        · cases List.mem_singleton.mp last
          exact ⟨_, rfl⟩
      · have bounded := serves.bounded
        rw [found] at bounded
        rw [Node.decodes, decoded, List.countP_append, List.countP_singleton, lookup_remove_self]
        simp only [Option.isSome_some, Option.isSome_none, Bool.toNat_true, Bool.toNat_false] at *
        split <;> omega

end Decodes

theorem Serves.renews (serves : node.Serves text route times) :
    node.renews.Serves text route times where
  kept _ known := by cases known
  reported := serves.reported
  bounded := Nat.le_of_add_right_le serves.bounded

theorem Waits.renews (waits : node.Waits text route session decodedBefore) :
    node.renews.Waits text route session decodedBefore where
  past := Nat.le_succ_of_le waits.past
  earlier := waits.earlier
  waiting current _ := by
    have past := waits.past
    simp only [Node.renews] at current
    omega

end Node

/-! ## What a message conveys -/

namespace SentMessage

variable {ν : Type} {lib : MqttLibrary} {device : MqttDevice} {message asked : SentMessage ν}

theorem Accepted.packet (accepted : message.Accepted lib device) {request : MqttPacketRequest}
    (encoded : Encodes lib device message.command request) :
    ∃ publish packetId, request.packet = .v5Publish publish message.props ∧
      message.publish = { publish with packetId } ∧
      Conveys lib message.command message.publish message.props := by
  obtain ⟨channel, payload, options, intent⟩ := accepted.intent
  obtain ⟨known, acquired, again, assigned⟩ := accepted.made
  obtain rfl := encodes_unique intent encoded again
  obtain ⟨-, publish, props, packet, conveys⟩ :=
    conveys_of_encodes accepted.version intent encoded
  obtain ⟨-, packetId, numbered⟩ := assignRuntimePacketId_v5Publish packet assigned
  obtain ⟨named, rfl⟩ := MqttWirePacket.v5Publish.inj numbered
  refine ⟨publish, packetId, packet, named, ?_⟩
  rw [named]
  exact ⟨conveys.said, conveys.format, conveys.text⟩

theorem Accepted.conveys (accepted : message.Accepted lib device) :
    Conveys lib message.command message.publish message.props := by
  obtain ⟨_, _, encoded, -⟩ := accepted.made
  obtain ⟨_, _, -, -, conveys⟩ := accepted.packet encoded
  exact conveys

/-- The same command makes the same message again, up to the packet identifier. -/
theorem Accepted.same (accepted : message.Accepted lib device)
    (earlier : asked.Accepted lib device) (command : message.command = asked.command) :
    message.props = asked.props ∧ message.publish.topicName = asked.publish.topicName ∧
      message.publish.payload = asked.publish.payload := by
  obtain ⟨_, _, encoded, -⟩ := accepted.made
  obtain ⟨publish, _, packet, named, -⟩ := accepted.packet encoded
  obtain ⟨other, _, again, sameName, -⟩ := earlier.packet (command ▸ encoded)
  obtain ⟨rfl, props⟩ := MqttWirePacket.v5Publish.inj (packet.symm.trans again)
  rw [named, sameName]
  exact ⟨props, rfl, rfl⟩

theorem Repeats.refl (message : SentMessage ν) : message.Repeats message :=
  ⟨rfl, rfl⟩

theorem Repeats.symm (repeats : message.Repeats asked) : asked.Repeats message :=
  ⟨repeats.sender.symm, repeats.command.symm⟩

theorem Repeats.trans {first : SentMessage ν} (repeats : message.Repeats asked)
    (earlier : asked.Repeats first) : message.Repeats first :=
  ⟨repeats.sender.trans earlier.sender, repeats.command.trans earlier.command⟩

theorem replyRoute_eq (command : message.command = asked.command)
    (props : message.props = asked.props) :
    replyRoute message.request = replyRoute asked.request := by
  simp only [replyRoute, request, command, props]

end SentMessage

/-! ## The invariant -/

section Invariant

variable {ν : Type} {lib : MqttLibrary} {device : ν → MqttDevice}

/-- The request of the text is the only one, what carries the text and has been decoded is a copy
of it or of an answer, and its sender has no more than it asked for. -/
structure Followed (state : State ν) (asked : SentMessage ν) (text : String) : Prop where
  named : text ≠ ""
  alone : ∀ message ∈ state.sent, message.Asks text → message.Repeats asked
  copied : ∀ actor, ∀ entry ∈ (state.node actor).decoded, text ∈ entry.1.correlationTexts →
    ∃ message ∈ state.sent, text ∈ correlationTexts message.props ∧ message.IsCopy entry.1 ∧
      (message.answers = none → actor ≠ message.sender)
  serves : (state.node asked.sender).Serves text (replyRoute asked.request)
    (state.sent.countP fun message => message.Asks text)
  waits : (state.node asked.sender).Waits text (replyRoute asked.request) asked.session
    asked.decodedBefore

/-- Every message that was sent is accounted for. -/
structure Sound (lib : MqttLibrary) (device : ν → MqttDevice) (state : State ν) : Prop where
  accepted : ∀ message ∈ state.sent, message.Accepted lib (device message.sender)
  answers : ∀ message ∈ state.sent, ∀ event, message.answers = some event →
    message.Answers event ∧
      ∃ packet, (packet, .event event) ∈ (state.node message.sender).decoded
  events : ∀ actor packet event correlation,
    (packet, .event event) ∈ (state.node actor).decoded →
    event.correlation = some correlation →
    ∃ deviceId publish duplicate props, packet = .v5Publish publish duplicate props ∧
      event = routedEventFromV5Publish deviceId publish duplicate props
  followed : ∀ asked ∈ state.sent, ∀ text, asked.Asks text → Followed state asked text

theorem sound_new : Sound lib device (.new device) where
  accepted _ listed := absurd listed List.not_mem_nil
  answers _ listed := absurd listed List.not_mem_nil
  events _ _ _ _ decoded := absurd decoded List.not_mem_nil
  followed _ listed := absurd listed List.not_mem_nil

variable {state : State ν} {asked message : SentMessage ν} {text : String}

theorem Sound.same (sound : Sound lib device state)
    (accepted : message.Accepted lib (device message.sender)) (sent : asked ∈ state.sent)
    (repeats : message.Repeats asked) :
    message.props = asked.props ∧ message.publish.topicName = asked.publish.topicName ∧
      message.publish.payload = asked.publish.payload :=
  accepted.same (repeats.sender ▸ sound.accepted asked sent) repeats.command

/-- An event that asks for a reply under the text of a request comes from a copy of the request, and
not to the node that sent the request. -/
theorem Sound.of_event (sound : Sound lib device state) (sent : asked ∈ state.sent)
    (asks : asked.Asks text) {actor : ν} {packet : MqttInboundPacket} {event : RoutedEvent}
    {topic : String} (decoded : (packet, .event event) ∈ (state.node actor).decoded)
    (correlated : event.correlation =
      some { requestId := ⟨text⟩, replyTo := some (.channel topic) }) :
    actor ≠ asked.sender ∧ ∃ deviceId publish duplicate props,
      packet = .v5Publish publish duplicate props ∧
      PassedOn asked.publish asked.props publish props ∧
      event = routedEventFromV5Publish deviceId publish duplicate props ∧
      (PublishFields.ofProps asked.props).responseTopic = some topic := by
  have followed := sound.followed asked sent text asks
  obtain ⟨deviceId, publish, duplicate, props, rfl, rfl⟩ :=
    sound.events actor packet event _ decoded correlated
  obtain ⟨mentioned, responds⟩ := mentioned_of_event_correlation followed.named correlated
  obtain ⟨message, passed, carries, ⟨_, _, _, same, copied⟩, elsewhere⟩ :=
    followed.copied actor _ decoded mentioned
  cases same
  have sameTopic : (PublishFields.ofProps props).responseTopic =
      (PublishFields.ofProps message.props).responseTopic :=
    congrArg Saying.replyTopic copied.saying_eq
  rw [sameTopic] at responds
  cases known : message.answers with
  | some event =>
      have final := (sound.answers message passed event known).1.final
      exact absurd (responds.symm.trans final) (by simp)
  | none =>
      have repeats := followed.alone message passed ⟨known, carries⟩
      obtain ⟨sameProps, sameName, samePayload⟩ :=
        sound.same (sound.accepted message passed) sent repeats
      refine ⟨repeats.sender ▸ elsewhere known, deviceId, publish, duplicate, props, rfl, ?_, rfl,
        sameProps ▸ responds⟩
      exact ⟨copied.topicName.trans sameName, copied.payload.trans samePayload,
        fun identifier => (copied.props identifier).trans (sameProps ▸ rfl)⟩

/-- What is sent under the text of a request is the request again, or an answer of another node. -/
theorem Sound.sends_under (sound : Sound lib device state) (sent : asked ∈ state.sent)
    (asks : asked.Asks text) (careful : Careful state (.sends message))
    (known : ∀ event, message.answers = some event →
      ∃ packet, (packet, .event event) ∈ (state.node message.sender).decoded)
    (mentioned : text ∈ correlationTexts message.props) :
    message.Asks text ∧ message.Repeats asked ∨
      ¬message.Asks text ∧ message.sender ≠ asked.sender := by
  cases answers : message.answers with
  | none =>
      refine .inl ⟨⟨answers, mentioned⟩, ?_⟩
      have followed := sound.followed asked sent text asks
      rcases (careful.1 text ⟨answers, mentioned⟩).2 with unused | ⟨earlier, listed, same, repeats⟩
      · exact absurd asks.2 (unused.sent asked sent)
      · exact repeats.trans (followed.alone earlier listed same)
  | some event =>
      obtain ⟨packet, decoded⟩ := known event answers
      obtain ⟨carried, alone, correlated⟩ := (careful.2 event answers).addressed
      obtain rfl : text = carried := List.mem_singleton.mp (alone ▸ mentioned)
      refine .inr ⟨fun again => ?_, (sound.of_event sent asks decoded correlated).1⟩
      exact absurd (answers.symm.trans again.1) (by simp)

/-! ## Requests and their results -/

/-- A node was told the question of a request, and what it replied is the result of the request. -/
structure Exchange (lib : MqttLibrary) (state : State ν) (asked answer : SentMessage ν)
    (text : String) (question reply : Saying) (event : RoutedEvent) (result : RoutedResult) :
    Prop where
  asks : said lib asked.command = .ok question
  told : ∃ packet, asked.IsCopy packet ∧
    (packet, .event event) ∈ (state.node answer.sender).decoded
  route : event.route = .messaging question.topic
  payload : event.payload = question.value
  correlation : event.correlation =
    some { requestId := ⟨text⟩, replyTo := question.replyTopic.map Address.channel }
  answers : answer.answers = some event
  elsewhere : answer.sender ≠ asked.sender
  replies : said lib answer.command = .ok reply
  addressed : question.replyTopic = some reply.topic
  reported : ∃ deviceId, result.result =
    { commandId := asked.command.id
      deviceId
      state := .completed
      payload := some reply.value
      error := none
      correlation :=
        some { requestId := asked.command.id, replyTo := some (.channel reply.topic) } }

/-- What becomes of a request. -/
structure Accounted (lib : MqttLibrary) (state : State ν) (asked : SentMessage ν)
    (text : String) : Prop where
  /-- A result under its text is the answer of a node that was told the request. -/
  answered : ∀ publish duplicate props result,
    (.v5Publish publish duplicate props, .result result) ∈ (state.node asked.sender).decoded →
    text ∈ correlationTexts props →
    ∃ answer ∈ state.sent, ∃ question reply event,
      Exchange lib state asked answer text question reply event result
  /-- It has no more results than it was sent. -/
  bounded : (state.node asked.sender).decoded.countP (resultUnder text) ≤
    state.sent.countP fun message => message.Asks text
  /-- The first message under its text that comes in over its session is its result. -/
  waiting : (state.node asked.sender).session = asked.session →
    (∀ entry ∈ (state.node asked.sender).decoded.drop asked.decodedBefore,
      text ∉ entry.1.correlationTexts) →
    ∀ publish duplicate props, correlationTexts props = [text] →
      ∃ result, ((state.node asked.sender).decoder.decode
          (.v5Publish publish duplicate props)).1 = .result result ∧
        result.result.commandId = asked.command.id

theorem Sound.answered (sound : Sound lib device state) (sent : asked ∈ state.sent)
    (asks : asked.Asks text) {publish : PublishPacket} {duplicate : Bool}
    {props : List MqttProperty} {result : RoutedResult}
    (decoded : (.v5Publish publish duplicate props, .result result) ∈
      (state.node asked.sender).decoded)
    (mentioned : text ∈ correlationTexts props) :
    ∃ answer ∈ state.sent, ∃ question reply event,
      Exchange lib state asked answer text question reply event result := by
  have followed := sound.followed asked sent text asks
  obtain ⟨deviceId, rfl⟩ := followed.serves.reported _ _ _ _ decoded mentioned
  obtain ⟨answer, listed, carries, ⟨_, _, _, same, passed⟩, elsewhere⟩ :=
    followed.copied asked.sender _ decoded mentioned
  cases same
  cases answers : answer.answers with
  | none =>
      have repeats := followed.alone answer listed ⟨answers, carries⟩
      exact absurd repeats.sender.symm (elsewhere answers)
  | some event =>
      obtain ⟨fits, packet, told⟩ := sound.answers answer listed event answers
      obtain ⟨carried, alone, correlated⟩ := fits.addressed
      obtain rfl : text = carried := List.mem_singleton.mp (alone ▸ carries)
      obtain ⟨apart, device, eventPublish, again, eventProps, rfl, copied, rfl, responds⟩ :=
        sound.of_event sent asks told correlated
      have conveys := (sound.accepted answer listed).conveys
      refine ⟨answer, listed, saying asked.publish asked.props,
        saying answer.publish answer.props,
        routedEventFromV5Publish device eventPublish again eventProps, ?_⟩
      constructor
      · exact (sound.accepted asked sent).conveys.said
      · exact ⟨_, ⟨eventPublish, again, eventProps, rfl, copied⟩, told⟩
      · exact congrArg Route.messaging copied.topicName
      · exact congrArg Saying.value copied.saying_eq
      · rw [correlated, saying, responds]
        rfl
      · exact answers
      · exact apart
      · exact conveys.said
      · exact responds
      · refine ⟨deviceId, ?_⟩
        rw [replyResult, passed.mqttPayloadFormat_eq, conveys.format, passed.payload]
        simp only [replyRoute, SentMessage.request, responds]
        rfl

/-! ## Steps -/

variable [DecidableEq ν]

@[simp]
theorem act_node_self (state : State ν) (actor : ν) (does : Node → Node) :
    (state.act actor does).node actor = does (state.node actor) :=
  Function.update_self ..

theorem act_node_of_ne {actor other : ν} (apart : other ≠ actor) (state : State ν)
    (does : Node → Node) : (state.act actor does).node other = state.node other :=
  Function.update_of_ne apart ..

/-- What holds of the node that acts and of every other one holds of all of them. -/
theorem act_cases (holds : Node → Prop) {actor other : ν} {does : Node → Node}
    (acts : other = actor → holds (does (state.node other)))
    (rests : other ≠ actor → holds (state.node other)) :
    holds ((state.act actor does).node other) := by
  by_cases same : other = actor
  · subst same
    rw [act_node_self]
    exact acts rfl
  · rw [act_node_of_ne same]
    exact rests same

theorem node_sends (state : State ν) (message : SentMessage ν) :
    (state.sends message).node =
      (state.act message.sender (Node.records message.request)).node :=
  rfl

theorem sent_sends (state : State ν) (message : SentMessage ν) :
    (state.sends message).sent = state.sent ++ [message] :=
  rfl

/-- An action that decodes nothing leaves what was decoded as it is. -/
theorem decoded_act (actor : ν) (does : Node → Node)
    (unread : ∀ node, (does node).decoded = node.decoded) (other : ν) :
    ((state.act actor does).node other).decoded = (state.node other).decoded :=
  act_cases (fun node => node.decoded = (state.node other).decoded)
    (fun _ => unread _) fun _ => rfl

theorem decoded_sends (state : State ν) (message : SentMessage ν) (other : ν) :
    ((state.sends message).node other).decoded = (state.node other).decoded :=
  decoded_act message.sender (Node.records message.request) (fun _ => rfl) other

/-- The sender of a request has no more under its text than it asked for, whatever is sent. -/
theorem Sound.sends_kept (sound : Sound lib device state)
    (accepted : message.Accepted lib (device message.sender))
    (known : ∀ event, message.answers = some event →
      ∃ packet, (packet, .event event) ∈ (state.node message.sender).decoded)
    (careful : Careful state (.sends message)) (sent : asked ∈ state.sent)
    (asks : asked.Asks text) :
    ((state.sends message).node asked.sender).Serves text (replyRoute asked.request)
        ((state.sends message).sent.countP fun message => message.Asks text) ∧
      ((state.sends message).node asked.sender).Waits text (replyRoute asked.request)
        asked.session asked.decodedBefore := by
  have followed := sound.followed asked sent text asks
  rw [sent_sends, List.countP_append, List.countP_singleton, node_sends]
  by_cases mentioned : text ∈ correlationTexts message.props
  · rcases sound.sends_under sent asks careful known mentioned with
      ⟨again, repeats⟩ | ⟨final, apart⟩
    · obtain ⟨sameProps, -, -⟩ := sound.same accepted sent repeats
      have opened := lookup_record_of_mentioned message.request rfl accepted.conveys
        mentioned (state.node asked.sender).decoder
      rw [SentMessage.replyRoute_eq repeats.command sameProps] at opened
      rw [if_pos (decide_eq_true again), ← repeats.sender, act_node_self, repeats.sender]
      exact ⟨followed.serves.reopens opened, followed.waits.reopens opened⟩
    · rw [if_neg (by simpa using final), act_node_of_ne apart.symm]
      exact ⟨followed.serves, followed.waits⟩
  · have other : ¬message.Asks text := fun asks => mentioned asks.2
    rw [if_neg (by simpa using other)]
    refine act_cases (fun node => node.Serves .. ∧ node.Waits ..) (fun _ => ?_) fun _ => ?_
    · have same := lookup_record_of_unmentioned message.request rfl mentioned
        (state.node asked.sender).decoder
      exact ⟨followed.serves.records same, followed.waits.records same⟩
    · exact ⟨followed.serves, followed.waits⟩

theorem Sound.followed_sends (sound : Sound lib device state)
    (accepted : message.Accepted lib (device message.sender))
    (known : ∀ event, message.answers = some event →
      ∃ packet, (packet, .event event) ∈ (state.node message.sender).decoded)
    (careful : Careful state (.sends message)) (sent : asked ∈ state.sent)
    (asks : asked.Asks text) :
    Followed (state.sends message) asked text where
  named := (sound.followed asked sent text asks).named
  alone other listed again := by
    rcases List.mem_append.mp listed with earlier | last
    · exact (sound.followed asked sent text asks).alone other earlier again
    · obtain rfl := List.mem_singleton.mp last
      rcases sound.sends_under sent asks careful known again.2 with ⟨-, repeats⟩ | ⟨final, -⟩
      · exact repeats
      · exact absurd again final
  copied actor entry decoded mentioned := by
    rw [decoded_sends] at decoded
    obtain ⟨origin, listed, copied⟩ :=
      (sound.followed asked sent text asks).copied actor entry decoded mentioned
    exact ⟨origin, List.mem_append_left _ listed, copied⟩
  serves := (sound.sends_kept accepted known careful sent asks).1
  waits := (sound.sends_kept accepted known careful sent asks).2

/-- A request is followed from the time it is sent. -/
theorem Sound.followed_opens (sound : Sound lib device state)
    (accepted : message.Accepted lib (device message.sender))
    (current : message.session = (state.node message.sender).session)
    (before : message.decodedBefore = (state.node message.sender).decoded.length)
    (known : ∀ event, message.answers = some event →
      ∃ packet, (packet, .event event) ∈ (state.node message.sender).decoded)
    (careful : Careful state (.sends message)) (asks : message.Asks text) :
    Followed (state.sends message) message text := by
  obtain ⟨named, unused | ⟨earlier, sent, same, repeats⟩⟩ := careful.1 text asks
  all_goals
    have opened := lookup_record_of_mentioned message.request rfl accepted.conveys
      asks.2 (state.node message.sender).decoder
    have waits := Node.Waits.opens opened
    rw [← current, ← before] at waits
  · refine ⟨named, ?_, ?_, ?_, ?_⟩
    · intro other listed again
      rcases List.mem_append.mp listed with earlier | last
      · exact absurd again.2 (unused.sent other earlier)
      · exact List.mem_singleton.mp last ▸ .refl message
    · intro actor entry decoded mentioned
      rw [decoded_sends] at decoded
      exact absurd mentioned (unused.decoded actor entry decoded)
    · have unsent : state.sent.countP (fun other => other.Asks text) = 0 :=
        List.countP_eq_zero.mpr fun other listed again =>
          unused.sent other listed (of_decide_eq_true again).2
      rw [sent_sends, List.countP_append, List.countP_singleton, if_pos (decide_eq_true asks),
        unsent, node_sends, act_node_self]
      exact .opens (unused.decoded message.sender) opened
    · rw [node_sends, act_node_self]
      exact waits
  · have followed := sound.followed_sends accepted known careful sent same
    obtain ⟨sameProps, -, -⟩ := sound.same accepted sent repeats
    have route := SentMessage.replyRoute_eq repeats.command sameProps
    refine ⟨named, ?_, followed.copied, ?_, ?_⟩
    · intro other listed again
      exact (followed.alone other listed again).trans repeats.symm
    · rw [route, repeats.sender]
      exact followed.serves
    · rw [node_sends, act_node_self]
      exact waits

theorem Sound.sends (sound : Sound lib device state)
    (accepted : message.Accepted lib (device message.sender))
    (current : message.session = (state.node message.sender).session)
    (before : message.decodedBefore = (state.node message.sender).decoded.length)
    (known : ∀ event, message.answers = some event →
      ∃ packet, (packet, .event event) ∈ (state.node message.sender).decoded)
    (careful : Careful state (.sends message)) : Sound lib device (state.sends message) where
  accepted other listed := by
    rcases List.mem_append.mp listed with earlier | last
    · exact sound.accepted other earlier
    · exact List.mem_singleton.mp last ▸ accepted
  answers other listed event answers := by
    simp only [decoded_sends]
    rcases List.mem_append.mp listed with earlier | last
    · exact sound.answers other earlier event answers
    · obtain rfl := List.mem_singleton.mp last
      exact ⟨careful.2 event answers, known event answers⟩
  events actor packet event correlation decoded correlated := by
    rw [decoded_sends] at decoded
    exact sound.events actor packet event correlation decoded correlated
  followed other listed text asks := by
    rcases List.mem_append.mp listed with earlier | last
    · exact sound.followed_sends accepted known careful earlier asks
    · obtain rfl := List.mem_singleton.mp last
      exact sound.followed_opens accepted current before known careful asks

/-- What neither decodes nor sends has only to keep the routes of the node. -/
theorem Sound.act (sound : Sound lib device state) {actor : ν} {does : Node → Node}
    (unread : ∀ node, (does node).decoded = node.decoded)
    (serves : ∀ text route times, (state.node actor).Serves text route times →
      (does (state.node actor)).Serves text route times)
    (waits : ∀ text route session before, (state.node actor).Waits text route session before →
      (does (state.node actor)).Waits text route session before) :
    Sound lib device (state.act actor does) where
  accepted := sound.accepted
  answers other listed event answers := by
    rw [decoded_act actor does unread]
    exact sound.answers other listed event answers
  events other packet event correlation decoded correlated := by
    rw [decoded_act actor does unread] at decoded
    exact sound.events other packet event correlation decoded correlated
  followed asked listed text asks := by
    have followed := sound.followed asked listed text asks
    refine ⟨followed.named, followed.alone, ?_, ?_, ?_⟩
    · intro other entry decoded mentioned
      rw [decoded_act actor does unread] at decoded
      exact followed.copied other entry decoded mentioned
    · refine act_cases (fun node => node.Serves ..) ?_ fun _ => followed.serves
      rintro rfl
      exact serves _ _ _ followed.serves
    · refine act_cases (fun node => node.Waits ..) ?_ fun _ => followed.waits
      rintro rfl
      exact waits _ _ _ _ followed.waits

theorem Sound.records (sound : Sound lib device state) (actor : ν) {request : MqttPacketRequest}
    (plain : outboundCorrelation request.packet = none) :
    Sound lib device (state.act actor (Node.records request)) := by
  have same (text : String) := congrArg (lookup text)
    (routes_record_of_none plain (state.node actor).decoder)
  exact sound.act (fun _ => rfl) (fun text _ _ serves => serves.records (same text))
    fun text _ _ _ waits => waits.records (same text)

theorem Sound.renews (sound : Sound lib device state) (actor : ν) :
    Sound lib device (state.act actor Node.renews) :=
  sound.act (fun _ => rfl) (fun _ _ _ serves => serves.renews) fun _ _ _ _ waits => waits.renews

/-! ## Packets that come in -/

theorem mem_decodes {actor other : ν} {packet : MqttInboundPacket}
    {entry : MqttInboundPacket × MqttDecodedInbound} :
    entry ∈ ((state.act actor (Node.decodes packet)).node other).decoded ↔
      entry ∈ (state.node other).decoded ∨
        other = actor ∧ entry = (packet, ((state.node actor).decoder.decode packet).1) := by
  by_cases same : other = actor
  · subst same
    rw [act_node_self, Node.decodes, List.mem_append, List.mem_singleton]
    simp
  · rw [act_node_of_ne same]
    simp [same]

/-- The packet carries no text of a request, or is a copy of a message that carries it. -/
def Traceable (state : State ν) (actor : ν) (packet : MqttInboundPacket) (text : String) : Prop :=
  text ∈ packet.correlationTexts → ∃ message ∈ state.sent,
    text ∈ correlationTexts message.props ∧ message.IsCopy packet ∧
      (message.answers = none → actor ≠ message.sender)

theorem Sound.followed_decodes (sound : Sound lib device state) {actor : ν}
    {packet : MqttInboundPacket} (sent : asked ∈ state.sent) (asks : asked.Asks text)
    (origin : Traceable state actor packet text) :
    Followed (state.act actor (Node.decodes packet)) asked text where
  named := (sound.followed asked sent text asks).named
  alone := (sound.followed asked sent text asks).alone
  copied other entry decoded mentioned := by
    rcases mem_decodes.mp decoded with earlier | ⟨rfl, rfl⟩
    · exact (sound.followed asked sent text asks).copied other entry earlier mentioned
    · exact origin mentioned
  serves := by
    have serves := (sound.followed asked sent text asks).serves
    refine act_cases (fun node => node.Serves ..) (fun _ => ?_) fun _ => serves
    by_cases mentioned : text ∈ packet.correlationTexts
    · obtain ⟨message, listed, carries, ⟨publish, duplicate, props, rfl, passed⟩, -⟩ :=
        origin mentioned
      have alone := (sound.accepted message listed).conveys.alone carries
      exact serves.decodes_alone (passed.correlationTexts_eq.trans alone)
    · exact serves.decodes_unmentioned mentioned
  waits := act_cases (fun node => node.Waits ..)
    (fun _ => (sound.followed asked sent text asks).waits.decodes)
    fun _ => (sound.followed asked sent text asks).waits

theorem Sound.decodes (sound : Sound lib device state) {actor : ν} {packet : MqttInboundPacket}
    (origin : ∀ asked ∈ state.sent, ∀ text, asked.Asks text →
      Traceable state actor packet text) :
    Sound lib device (state.act actor (Node.decodes packet)) where
  accepted := sound.accepted
  answers other listed event answers := by
    obtain ⟨fits, earlier, decoded⟩ := sound.answers other listed event answers
    exact ⟨fits, earlier, mem_decodes.mpr (.inl decoded)⟩
  events other inbound event correlation decoded correlated := by
    rcases mem_decodes.mp decoded with earlier | ⟨-, last⟩
    · exact sound.events other inbound event correlation earlier correlated
    · obtain ⟨rfl, made⟩ := Prod.mk.inj last
      exact ⟨_, decode_event_correlated made.symm correlated⟩
  followed asked listed text asks :=
    sound.followed_decodes listed asks (origin asked listed text asks)

/-! ## Runs -/

theorem Sound.step {label : Label ν} {after : State ν} (sound : Sound lib device state)
    (careful : Careful state label) (step : Step lib device state label after) :
    Sound lib device after := by
  cases step with
  | sends message current before accepted known =>
      exact sound.sends accepted current before known careful
  | records actor request plain => exact sound.records actor plain
  | receives actor message publish duplicate props sent passed =>
      refine sound.decodes fun asked listed text asks mentioned => ?_
      have carries : text ∈ correlationTexts message.props :=
        passed.correlationTexts_eq ▸ mentioned
      exact ⟨message, sent, carries, ⟨publish, duplicate, props, rfl, passed⟩,
        fun answers => careful text ⟨answers, carries⟩⟩
  | overhears actor packet =>
      exact sound.decodes fun asked listed text asks mentioned =>
        absurd mentioned (careful asked listed text asks)
  | renews actor => exact sound.renews actor

theorem sound_of_run (run : Run (Step lib device) Careful (.new device) state) :
    Sound lib device state :=
  run.invariant (Sound lib device) sound_new fun sound careful step => sound.step careful step

theorem requests_accounted (run : Run (Step lib device) Careful (.new device) state)
    (sent : asked ∈ state.sent) (asks : asked.Asks text) : Accounted lib state asked text := by
  have sound := sound_of_run run
  have followed := sound.followed asked sent text asks
  refine ⟨fun _ _ _ _ => sound.answered sent asks, ?_, ?_⟩
  · exact Nat.le_of_add_right_le followed.serves.bounded
  · intro current quiet publish duplicate props alone
    have route := followed.waits.waiting current quiet
    rw [decode_of_route publish duplicate alone route]
    exact ⟨_, rfl, rfl⟩

end Invariant

/-! ## A request and its answer -/

/-- A reading that asks for a reply. -/
def question : SentMessage Bool :=
  { sender := false
    session := 0
    decodedBefore := 0
    command := readingCommand
    publish :=
      { topicName := "plant/temperature"
        qos := .exactlyOnce
        retain := true
        payload := Utf8.encode "21"
        packetId := some 7 }
    props :=
      [.payloadFormatIndicator .utf8, .responseTopic "replies",
        .correlationData (Utf8.encode "request-9"), .userProperty "unit" "C",
        .userProperty "sensor" "7"]
    answers := none }

/-- The reply to it. -/
def answer : SentMessage Bool :=
  { sender := true
    session := 0
    decodedBefore := 1
    command :=
      { id := ⟨"send-2"⟩
        sourceDeviceId := none
        targetDeviceId := ⟨"broker"⟩
        intent := .send { name := ⟨"replies"⟩, kind := some .topic } (.string "stored")
          { delivery := none, headers := [], extensions := none }
        correlation := some { requestId := ⟨"request-9"⟩, replyTo := none } }
    publish :=
      { topicName := "replies"
        qos := .atMostOnce
        retain := false
        payload := Utf8.encode "stored"
        packetId := none }
    props := [.correlationData (Utf8.encode "request-9")]
    answers := some
      (routedEventFromV5Publish brokerDevice.id question.publish false question.props) }

/-- The packet with which a broker passes on a message without changes. -/
def unchanged (message : SentMessage Bool) : MqttInboundPacket :=
  .v5Publish message.publish false message.props

def asking : State Bool := (State.new fun _ => brokerDevice).sends question

def told : State Bool := asking.act true (Node.decodes (unchanged question))

def replying : State Bool := told.sends answer

/-- Both messages have been sent and received. -/
def conversation : State Bool := replying.act false (Node.decodes (unchanged answer))

theorem correlationTexts_question : correlationTexts question.props = ["request-9"] :=
  congrArg (fun text => [text]) (Utf8.fromUtf8Lossy_encode "request-9")

theorem correlationTexts_answer : correlationTexts answer.props = ["request-9"] :=
  congrArg (fun text => [text]) (Utf8.fromUtf8Lossy_encode "request-9")

theorem correlation_question :
    (routedEventFromV5Publish brokerDevice.id question.publish false question.props).correlation =
      some { requestId := ⟨"request-9"⟩, replyTo := some (.channel "replies") } :=
  congrArg (fun text => some (Correlation.mk ⟨text⟩ (some (.channel "replies"))))
    (Utf8.fromUtf8Lossy_encode "request-9")

theorem question_accepted : question.Accepted permissiveLibrary brokerDevice :=
  ⟨rfl, ⟨_, _, _, rfl⟩, _, .ok 7, .inl rfl, rfl⟩

theorem answer_accepted : answer.Accepted permissiveLibrary brokerDevice :=
  ⟨rfl, ⟨_, _, _, rfl⟩, _, .ok 7, .inl rfl, rfl⟩

theorem answer_asks_nothing (text : String) : ¬answer.Asks text := by
  rintro ⟨⟨⟩, -⟩

theorem run_conversation :
    Run (Step permissiveLibrary fun _ => brokerDevice) Careful (.new fun _ => brokerDevice)
      conversation := by
  have asked : Run (Step permissiveLibrary fun _ => brokerDevice) Careful
      (.new fun _ => brokerDevice) asking := by
    refine (Run.refl _).perform (.sends question) ⟨?_, fun _ impossible => by cases impossible⟩
      (.sends _ _ rfl rfl question_accepted fun _ impossible => by cases impossible)
    rintro text ⟨-, carried⟩
    rw [correlationTexts_question, List.mem_singleton] at carried
    subst carried
    refine ⟨by decide, .inl ⟨?_, ?_⟩⟩
    · exact fun _ listed => absurd listed List.not_mem_nil
    · exact fun _ _ listed => absurd listed List.not_mem_nil
  have heard := asked.perform (.receives true question question.publish false question.props)
    (fun _ _ same => Bool.noConfusion same)
    (.receives _ _ _ _ _ _ List.mem_cons_self ⟨rfl, rfl, fun _ => rfl⟩)
  have replied : Run (Step permissiveLibrary fun _ => brokerDevice) Careful
      (.new fun _ => brokerDevice) replying := by
    refine heard.perform (.sends answer) ⟨fun text asks => absurd asks (answer_asks_nothing text),
      ?_⟩ (.sends _ _ rfl rfl answer_accepted ?_)
    · rintro _ ⟨⟩
      exact ⟨⟨"request-9", correlationTexts_answer, correlation_question⟩, rfl⟩
    · rintro _ ⟨⟩
      exact ⟨unchanged question, List.mem_cons_self⟩
  exact replied.perform (.receives false answer answer.publish false answer.props)
    (fun text asks => absurd asks (answer_asks_nothing text))
    (.receives _ _ _ _ _ _ (List.mem_append_right _ List.mem_cons_self) ⟨rfl, rfl, fun _ => rfl⟩)

/-- The reading has one result, with what the other node replied. -/
theorem conversation_accounted :
    Accounted permissiveLibrary conversation question "request-9" ∧
      ∃ result, (unchanged answer, .result result) ∈ (conversation.node false).decoded ∧
        result.result.commandId = ⟨"send-1"⟩ := by
  refine ⟨requests_accounted run_conversation List.mem_cons_self
    ⟨rfl, correlationTexts_question ▸ List.mem_cons_self⟩, ?_⟩
  have route : lookup "request-9" (replying.node false).decoder.pendingReplyRoutes = _ :=
    lookup_record_of_mentioned question.request rfl question_accepted.conveys
      (correlationTexts_question ▸ List.mem_cons_self) (.new brokerDevice.id)
  have decoded := decode_of_route answer.publish false correlationTexts_answer route
  refine ⟨_, mem_decodes.mpr (.inr ⟨rfl, Prod.ext rfl ?_⟩), ?_⟩
  · exact (congrArg Prod.fst decoded).symm
  · rfl

end MqttNetwork
end Ferredge
