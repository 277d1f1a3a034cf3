import Ferredge.Mqtt.Reception
import Ferredge.Mqtt.Replies
import Ferredge.Mqtt.ReplyCapture

/-!
# Messages that a broker passes on

A broker may change a PUBLISH on the way from one node to another.  What the decoder makes of the
message depends only on the parts that a broker leaves alone.
-/

namespace Ferredge

open Fallible KeyedList

namespace Mqtt

/-! ## What a broker leaves alone -/

/-- The properties of a PUBLISH that a broker passes on as they are.  The other ones are between the
broker and one of the nodes. -/
inductive EndToEnd where
  | payloadFormatIndicator
  | responseTopic
  | contentType
  | correlationData
  | userProperty
  deriving DecidableEq

def endToEnd : MqttProperty → Option EndToEnd
  | .payloadFormatIndicator _ => some .payloadFormatIndicator
  | .responseTopic _ => some .responseTopic
  | .contentType _ => some .contentType
  | .correlationData _ => some .correlationData
  | .userProperty _ _ => some .userProperty
  | .messageExpiryInterval _ | .topicAlias _ | .subscriptionIdentifier _ => none

/-- A broker may send the second PUBLISH on for the first one.  Only properties with the same
identifier have to keep their order. -/
structure PassedOn (publish : PublishPacket) (props : List MqttProperty) (arrived : PublishPacket)
    (arrivedProps : List MqttProperty) : Prop where
  topicName : arrived.topicName = publish.topicName
  payload : arrived.payload = publish.payload
  props : ∀ identifier, arrivedProps.filter (fun property => endToEnd property = some identifier) =
    props.filter fun property => endToEnd property = some identifier

/-- What a message says: where, what, and how it wants to be answered. -/
structure Saying where
  topic : String
  value : PayloadValue
  replyTopic : Option String
  correlationData : Option Bytes

/-- What a PUBLISH says. -/
def saying (publish : PublishPacket) (props : List MqttProperty) : Saying :=
  let fields := PublishFields.ofProps props
  { topic := publish.topicName
    value := payloadValueFromMqttBytes publish.payload fields.payloadFormat
    replyTopic := fields.responseTopic
    correlationData := fields.correlationData }

/-- The texts under which the decoder knows the correlation data among the properties. -/
def correlationTexts (props : List MqttProperty) : List String :=
  (props.filterMap correlationDataOf).map Utf8.fromUtf8Lossy

def responseTopicOf : MqttProperty → Option String
  | .responseTopic topic => some topic
  | _ => none

def payloadFormatOf : MqttProperty → Option MqttPayloadFormat
  | .payloadFormatIndicator format => some format
  | _ => none

/-- The first correlation data are known under the first text. -/
theorem firstCorrelationData_text (props : List MqttProperty) :
    (firstCorrelationData props).map Utf8.fromUtf8Lossy = (correlationTexts props).head? := by
  rw [firstCorrelationData_eq_head?, correlationTexts, List.head?_map]

theorem mqttPayloadFormat_eq_head? (props : List MqttProperty) :
    mqttPayloadFormat props = (props.filterMap payloadFormatOf).head? := by
  induction props with
  | nil => rfl
  | cons property props ih => cases property <;> first | exact ih | rfl

/-- Of a property that may be repeated, the last one counts. -/
theorem ofProps_eq_getLast? {α : Type} (read : PublishFields → Option α)
    (pick : MqttProperty → Option α) (empty : read .empty = none)
    (noted : ∀ fields property, read (fields.note property) = (pick property).or (read fields))
    (props : List MqttProperty) :
    read (PublishFields.ofProps props) = (props.filterMap pick).getLast? := by
  induction props using List.reverseRecOn with
  | nil => exact empty
  | append_singleton props property ih =>
      have last : PublishFields.ofProps (props ++ [property]) =
          (PublishFields.ofProps props).note property := by
        rw [PublishFields.ofProps, List.foldl_append]
        rfl
      rw [last, noted, ih, List.filterMap_append, List.getLast?_append]
      cases picked : pick property <;> simp [picked]

theorem ofProps_correlationData (props : List MqttProperty) :
    (PublishFields.ofProps props).correlationData =
      (props.filterMap correlationDataOf).getLast? :=
  ofProps_eq_getLast? PublishFields.correlationData correlationDataOf rfl
    (fun _ property => by cases property <;> rfl) props

theorem ofProps_responseTopic (props : List MqttProperty) :
    (PublishFields.ofProps props).responseTopic = (props.filterMap responseTopicOf).getLast? :=
  ofProps_eq_getLast? PublishFields.responseTopic responseTopicOf rfl
    (fun _ property => by cases property <;> rfl) props

theorem ofProps_payloadFormat (props : List MqttProperty) :
    (PublishFields.ofProps props).payloadFormat = (props.filterMap payloadFormatOf).getLast? :=
  ofProps_eq_getLast? PublishFields.payloadFormat payloadFormatOf rfl
    (fun _ property => by cases property <;> rfl) props

/-- The correlation data that count are known under the last text. -/
theorem ofProps_correlationText (props : List MqttProperty) :
    (PublishFields.ofProps props).correlationData.map Utf8.fromUtf8Lossy =
      (correlationTexts props).getLast? := by
  rw [ofProps_correlationData, correlationTexts, List.getLast?_map]

namespace PassedOn

variable {publish arrived : PublishPacket} {props arrivedProps : List MqttProperty}

/-- What is read of the properties with one identifier is the same when they arrive. -/
theorem filterMap_eq {α : Type} (passed : PassedOn publish props arrived arrivedProps)
    (identifier : EndToEnd) (pick : MqttProperty → Option α)
    (unread : ∀ property, endToEnd property ≠ some identifier → pick property = none) :
    arrivedProps.filterMap pick = props.filterMap pick := by
  have kept (props : List MqttProperty) :
      (props.filter fun property => endToEnd property = some identifier).filterMap pick =
        props.filterMap pick := by
    rw [List.filterMap_filter]
    congr 1
    funext property
    by_cases known : endToEnd property = some identifier
    · rw [if_pos (decide_eq_true known)]
    · rw [if_neg (by simpa using known), unread property known]
  rw [← kept arrivedProps, passed.props, kept]

theorem correlationData_eq (passed : PassedOn publish props arrived arrivedProps) :
    arrivedProps.filterMap correlationDataOf = props.filterMap correlationDataOf := by
  refine passed.filterMap_eq .correlationData correlationDataOf ?_
  intro property other
  cases property <;> first | rfl | exact absurd rfl other

theorem correlationTexts_eq (passed : PassedOn publish props arrived arrivedProps) :
    correlationTexts arrivedProps = correlationTexts props := by
  rw [correlationTexts, passed.correlationData_eq, correlationTexts]

theorem payloadFormats_eq (passed : PassedOn publish props arrived arrivedProps) :
    arrivedProps.filterMap payloadFormatOf = props.filterMap payloadFormatOf := by
  refine passed.filterMap_eq .payloadFormatIndicator payloadFormatOf ?_
  intro property other
  cases property <;> first | rfl | exact absurd rfl other

/-- The message says the same when it arrives. -/
theorem saying_eq (passed : PassedOn publish props arrived arrivedProps) :
    saying arrived arrivedProps = saying publish props := by
  have topics : arrivedProps.filterMap responseTopicOf = props.filterMap responseTopicOf := by
    refine passed.filterMap_eq .responseTopic responseTopicOf ?_
    intro property other
    cases property <;> first | rfl | exact absurd rfl other
  simp only [saying, ofProps_correlationData, ofProps_responseTopic, ofProps_payloadFormat,
    topics, passed.correlationData_eq, passed.payloadFormats_eq, passed.topicName, passed.payload]

theorem mqttPayloadFormat_eq (passed : PassedOn publish props arrived arrivedProps) :
    mqttPayloadFormat arrivedProps = mqttPayloadFormat props := by
  rw [mqttPayloadFormat_eq_head?, mqttPayloadFormat_eq_head?, passed.payloadFormats_eq]

end PassedOn

/-! ## What the message of a command says -/

/-- What the message of a command says.  The value is the payload's bytes, read in the declared
format. -/
def said (lib : MqttLibrary) (command : Command) : Except MqttCommandConversionError Saying :=
  match command.intent with
  | .send channel payload options => do
      let view ← splitMqttExtensions options.extensions
      let bytes ← mqttPayloadBytes lib payload
      return {
        topic := channel.name.text
        value := payloadValueFromMqttBytes bytes view.payloadFormat
        replyTopic := requestedResponseTopic command view
        correlationData := requestedCorrelationData command view }
  | _ => .error .unsupportedIntent

/-- The PUBLISH is the message of the command. -/
structure Conveys (lib : MqttLibrary) (command : Command) (publish : PublishPacket)
    (props : List MqttProperty) : Prop where
  said : said lib command = .ok (saying publish props)
  format : mqttPayloadFormat props = (PublishFields.ofProps props).payloadFormat
  text : correlationTexts props =
    ((PublishFields.ofProps props).correlationData.map Utf8.fromUtf8Lossy).toList

theorem Conveys.alone {lib : MqttLibrary} {command : Command} {publish : PublishPacket}
    {props : List MqttProperty} {text : String} (conveys : Conveys lib command publish props)
    (mentioned : text ∈ correlationTexts props) : correlationTexts props = [text] := by
  rw [conveys.text, Option.mem_toList] at mentioned
  rw [conveys.text, mentioned]
  rfl

/-- The two pipelines make at most one request of a message. -/
theorem encodes_unique {lib : MqttLibrary} {device : MqttDevice} {command : Command}
    {channel : BrokerAddress} {payload : PayloadValue} {options : BrokerMessageOptions}
    {request other : MqttPacketRequest} (intent : command.intent = .send channel payload options)
    (accepted : Encodes lib device command request) (again : Encodes lib device command other) :
    request = other := by
  obtain ⟨view, decoded, -, built⟩ := (encodes_send intent).mp accepted
  obtain ⟨_, same, -, rebuilt⟩ := (encodes_send intent).mp again
  cases decoded.symm.trans same
  exact Except.ok.inj (built.symm.trans rebuilt)

theorem filterMap_toList_map {α β γ : Type} (pick : β → Option γ) (make : α → β)
    (item : Option α) :
    (item.map make).toList.filterMap pick = (item.bind fun value => pick (make value)).toList := by
  cases item with
  | none => rfl
  | some value => cases picked : pick (make value) <;> simp [picked]

theorem filterMap_v5PublishProps {α : Type} (view : PublishView)
    (pick : MqttProperty → Option α) :
    (v5PublishProps view).filterMap pick =
      (view.payloadFormat.bind fun format => pick (.payloadFormatIndicator format)).toList ++
        (view.messageExpiryIntervalSecs.bind fun secs =>
          pick (.messageExpiryInterval secs)).toList ++
        (view.topicAlias.bind fun value => pick (.topicAlias value)).toList ++
        ((view.responseTopic.or view.replyTo).bind fun topic =>
          pick (.responseTopic topic)).toList ++
        (view.contentType.bind fun contentType => pick (.contentType contentType)).toList ++
        ((sentCorrelationData view).bind fun data => pick (.correlationData data)).toList ++
        view.projectedUserProperties.filterMap fun pair =>
          pick (.userProperty pair.1 pair.2) := by
  simp only [v5PublishProps, sentCorrelationData, List.filterMap_append, filterMap_toList_map,
    List.filterMap_map, Function.comp_def]

theorem correlationTexts_v5PublishProps (view : PublishView) :
    correlationTexts (v5PublishProps view) =
      ((sentCorrelationData view).map Utf8.fromUtf8Lossy).toList := by
  rw [correlationTexts, filterMap_v5PublishProps]
  simp only [correlationDataOf]
  cases sentCorrelationData view <;> simp

theorem mqttPayloadFormat_v5PublishProps (view : PublishView) :
    mqttPayloadFormat (v5PublishProps view) = view.payloadFormat := by
  rw [mqttPayloadFormat_eq_head?, filterMap_v5PublishProps]
  simp only [payloadFormatOf]
  cases view.payloadFormat <;> simp

/-- The PUBLISH of an accepted message conveys it. -/
theorem conveys_of_encodes {lib : MqttLibrary} {device : MqttDevice} {command : Command}
    {channel : BrokerAddress} {payload : PayloadValue} {options : BrokerMessageOptions}
    {request : MqttPacketRequest} (version : device.endpoint.preferredProtocolVersion = .v5_0)
    (intent : command.intent = .send channel payload options)
    (accepted : Encodes lib device command request) :
    request.commandId = command.id ∧
      ∃ publish props, request.packet = .v5Publish publish props ∧
        Conveys lib command publish props := by
  obtain ⟨view, decoded, -, built⟩ := (encodes_send intent).mp accepted
  rw [publishAccepted] at built
  obtain ⟨bytes, encoded, built⟩ := bind_eq_ok.mp built
  rw [version] at built
  refine ⟨?_, _, _, buildPublishPacket_v5_eq_ok built, ?_⟩
  · obtain ⟨_, -, built⟩ := bind_eq_ok.mp built
    obtain ⟨_, -, finished⟩ := bind_eq_ok.mp built
    obtain ⟨-, -, rfl⟩ := map_eq_ok.mp finished
    rfl
  · constructor
    · simp only [said, intent, decoded, encoded, saying, ofProps_v5PublishProps]
      rw [sentCorrelationData_eq command view _ rfl rfl rfl rfl rfl]
      rfl
    · rw [mqttPayloadFormat_v5PublishProps, ofProps_v5PublishProps]
    · rw [correlationTexts_v5PublishProps, ofProps_v5PublishProps]

/-- A session changes nothing in a message but its packet identifier. -/
theorem assignRuntimePacketId_v5Publish {library : MqttLibrary} {acquired : Except String UInt16}
    {request numbered : MqttPacketRequest} {publish : PublishPacket} {props : List MqttProperty}
    (packet : request.packet = .v5Publish publish props)
    (assigned : assignRuntimePacketId library acquired request = .ok numbered) :
    numbered.commandId = request.commandId ∧
      ∃ packetId, numbered.packet = .v5Publish { publish with packetId } props := by
  rw [assignRuntimePacketId] at assigned
  split at assigned
  · obtain ⟨packetId, -, rebuilt⟩ := bind_eq_ok.mp assigned
    obtain ⟨_, -, rebuilt⟩ := bind_eq_ok.mp rebuilt
    obtain ⟨_, -, rebuilt⟩ := bind_eq_ok.mp rebuilt
    cases rebuilt
    exact ⟨rfl, some packetId, by rw [packet]; rfl⟩
  · cases assigned
    exact ⟨rfl, publish.packetId, packet⟩

end Mqtt

/-! ## What the decoder makes of a message -/

/-- The texts under which the decoder knows the correlation data of a packet. -/
def MqttInboundPacket.correlationTexts : MqttInboundPacket → List String
  | .v5Publish _ _ props => Mqtt.correlationTexts props
  | _ => []

namespace MqttInboundDecoder

open Mqtt

theorem text_mem_of_firstCorrelationData {props : List MqttProperty} {data : Bytes}
    (carried : firstCorrelationData props = some data) :
    Utf8.fromUtf8Lossy data ∈ correlationTexts props := by
  have first := firstCorrelationData_text props
  rw [carried, Option.map_some] at first
  exact List.mem_of_mem_head? first.symm

/-- A packet that does not carry a text leaves the route under the text alone. -/
theorem lookup_decode_of_unmentioned {packet : MqttInboundPacket} {text : String}
    (unmentioned : text ∉ packet.correlationTexts) (decoder : MqttInboundDecoder) :
    lookup text (decoder.decode packet).2.pendingReplyRoutes =
      lookup text decoder.pendingReplyRoutes := by
  cases carried : Input.correlation (.decode packet) with
  | none => exact congrArg (lookup text) (routes_step_of_none carried decoder)
  | some data =>
      refine lookup_routes_step_of_ne carried ?_ decoder
      rintro rfl
      cases packet with
      | v5Publish publish duplicate props =>
          exact unmentioned (text_mem_of_firstCorrelationData carried)
      | _ => cases carried

/-- So does a request that does not carry it. -/
theorem lookup_record_of_unmentioned (request : MqttPacketRequest) {publish : PublishPacket}
    {props : List MqttProperty} {text : String}
    (packet : request.packet = .v5Publish publish props)
    (unmentioned : text ∉ correlationTexts props) (decoder : MqttInboundDecoder) :
    lookup text (decoder.recordOutboundRequest request).pendingReplyRoutes =
      lookup text decoder.pendingReplyRoutes := by
  cases carried : outboundCorrelation request.packet with
  | none => rw [routes_record_of_none carried]
  | some data =>
      rw [routes_record_of_some carried, lookup_insert_of_ne]
      rintro rfl
      rw [packet] at carried
      have last := ofProps_correlationText props
      rw [show (PublishFields.ofProps props).correlationData = some data from carried,
        Option.map_some] at last
      exact unmentioned (List.mem_of_mem_getLast? last.symm)

/-- A message that carries a text opens the route under the text. -/
theorem lookup_record_of_mentioned {lib : MqttLibrary} {command : Command}
    (request : MqttPacketRequest) {publish : PublishPacket} {props : List MqttProperty}
    {text : String} (packet : request.packet = .v5Publish publish props)
    (conveys : Conveys lib command publish props) (mentioned : text ∈ correlationTexts props)
    (decoder : MqttInboundDecoder) :
    lookup text (decoder.recordOutboundRequest request).pendingReplyRoutes =
      some (replyRoute request) := by
  rw [conveys.text, Option.mem_toList, Option.map_eq_some_iff] at mentioned
  obtain ⟨data, carried, rfl⟩ := mentioned
  have outbound : outboundCorrelation request.packet = some data := by
    rw [packet]
    exact carried
  rw [routes_record_of_some outbound, lookup_insert_self]

section Publish

variable {decoder : MqttInboundDecoder} {props : List MqttProperty} {text : String}
  (publish : PublishPacket) (duplicate : Bool)

/-- A message whose text has no route is an event. -/
theorem decode_of_no_route (alone : correlationTexts props = [text])
    (missing : lookup text decoder.pendingReplyRoutes = none) :
    decoder.decode (.v5Publish publish duplicate props) =
      (.event (routedEventFromV5Publish decoder.deviceId publish duplicate props), decoder) := by
  have first := firstCorrelationData_text props
  rw [alone, List.head?_cons, Option.map_eq_some_iff] at first
  obtain ⟨data, carried, rfl⟩ := first
  refine decode_unanswered decoder publish duplicate ?_
  rw [answeredRoute_of_some carried, missing]
  rfl

/-- A message whose text has a route is the result of the route's command. -/
theorem decode_of_route {route : PendingReplyRoute} (alone : correlationTexts props = [text])
    (found : lookup text decoder.pendingReplyRoutes = some route) :
    decoder.decode (.v5Publish publish duplicate props) =
      (.result (replyResult decoder.deviceId route text publish duplicate props),
        { decoder with pendingReplyRoutes := remove text decoder.pendingReplyRoutes }) := by
  have first := firstCorrelationData_text props
  rw [alone, List.head?_cons, Option.map_eq_some_iff] at first
  obtain ⟨data, carried, rfl⟩ := first
  exact decode_answered decoder publish duplicate carried found

end Publish

/-- Only an MQTT 5 message is decoded to an event with a correlation. -/
theorem decode_event_correlated {decoder : MqttInboundDecoder} {packet : MqttInboundPacket}
    {event : RoutedEvent} {correlation : Correlation}
    (decoded : (decoder.decode packet).1 = .event event)
    (correlated : event.correlation = some correlation) :
    ∃ publish duplicate props, packet = .v5Publish publish duplicate props ∧
      event = routedEventFromV5Publish decoder.deviceId publish duplicate props := by
  cases packet with
  | v5Publish publish duplicate props =>
      rcases answered_cases decoder.pendingReplyRoutes props with
        unanswered | ⟨data, route, carried, found⟩
      · rw [decode_unanswered _ _ _ unanswered] at decoded
        exact ⟨publish, duplicate, props, rfl, (MqttDecodedInbound.event.inj decoded).symm⟩
      · rw [decode_answered _ _ _ carried found] at decoded
        cases decoded
  | v3Publish =>
      cases decoded
      cases correlated
  | _ => cases decoded

end MqttInboundDecoder

namespace Mqtt

/-- An event that asks for a reply under a text comes from a message that does. -/
theorem mentioned_of_event_correlation {deviceId : DeviceId} {publish : PublishPacket}
    {duplicate : Bool} {props : List MqttProperty} {text topic : String} (named : text ≠ "")
    (correlated : (routedEventFromV5Publish deviceId publish duplicate props).correlation =
      some { requestId := ⟨text⟩, replyTo := some (.channel topic) }) :
    text ∈ correlationTexts props ∧
      (PublishFields.ofProps props).responseTopic = some topic := by
  simp only [routedEventFromV5Publish] at correlated
  split at correlated
  · have parts := Option.some.inj correlated
    have replyTo := congrArg Correlation.replyTo parts
    have requestId := congrArg (fun known => known.requestId.text) parts
    simp only [Option.map_eq_some_iff] at replyTo
    obtain ⟨_, responds, same⟩ := replyTo
    cases same
    refine ⟨?_, responds⟩
    have last := ofProps_correlationText props
    cases carried : (PublishFields.ofProps props).correlationData.map Utf8.fromUtf8Lossy with
    | none =>
        rw [carried] at requestId
        exact absurd requestId.symm named
    | some known =>
        rw [carried] at last requestId
        obtain rfl : known = text := requestId
        exact List.mem_of_mem_getLast? last.symm
  · cases correlated

end Mqtt
end Ferredge
