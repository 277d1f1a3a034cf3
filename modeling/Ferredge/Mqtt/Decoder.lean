import Ferredge.KeyedList
import Ferredge.Utf8
import Ferredge.Mqtt.Capture
import Ferredge.Mqtt.Session

/-!
# The MQTT inbound decoder

Every packet that arrives is turned into an event or a result.  An acknowledgement names the
command whose packet identifier it carries, and a PUBLISH with the correlation data of a pending
reply route is the result of the command that asked for it.
-/

namespace Ferredge

/-- A reason code, with the library's judgement of it. -/
structure ReasonCode where
  text : String
  isSuccess : Bool
  isFailure : Bool
  deriving DecidableEq

/-- The reason code of a DISCONNECT: a normal one, with or without a will, or another. -/
structure DisconnectReason where
  text : String
  isNormal : Bool
  deriving DecidableEq

/-- Inbound packets, with what the decoder reads of them. -/
inductive MqttInboundPacket where
  | v5Publish (publish : PublishPacket) (duplicate : Bool) (props : List MqttProperty)
  | v3Publish (publish : PublishPacket) (duplicate : Bool)
  | v5Puback (packetId : UInt16) (reasonCode : Option ReasonCode) (reasonString : Option String)
  | v3Puback (packetId : UInt16)
  | v5Pubrec (packetId : UInt16) (reasonCode : Option ReasonCode) (reasonString : Option String)
  | v3Pubrec (packetId : UInt16)
  | v5Pubrel (packetId : UInt16) (reasonCode : Option ReasonCode) (reasonString : Option String)
  | v3Pubrel (packetId : UInt16)
  | v5Pubcomp (packetId : UInt16) (reasonCode : Option ReasonCode) (reasonString : Option String)
  | v3Pubcomp (packetId : UInt16)
  | v5Suback (packetId : UInt16) (reasonCodes : List ReasonCode) (reasonString : Option String)
  | v3Suback (packetId : UInt16)
  | v5Unsuback (packetId : UInt16) (reasonCodes : List ReasonCode) (reasonString : Option String)
  | v3Unsuback (packetId : UInt16)
  | v5Disconnect (reasonCode : Option DisconnectReason) (reasonString : Option String)
  | v5Auth (reasonCode : Option ReasonCode) (reasonString : Option String)
  | other
  deriving DecidableEq

/-- Whom a reply goes to. -/
structure PendingReplyRoute where
  commandId : CommandId
  replyTo : Option Address
  deriving DecidableEq

/-- Stateful MQTT inbound decoder that preserves packet-id and reply-route correlation. -/
structure MqttInboundDecoder where
  deviceId : DeviceId
  pendingCommandIds : List (UInt16 × CommandId)
  pendingReplyRoutes : List (String × PendingReplyRoute)

namespace MqttInboundDecoder

def new (deviceId : DeviceId) : MqttInboundDecoder :=
  { deviceId, pendingCommandIds := [], pendingReplyRoutes := [] }

end MqttInboundDecoder

namespace Mqtt

open KeyedList

def packetRequestPacketId : MqttWirePacket → Option UInt16
  | .v5Publish publish _ | .v3Publish publish => publish.packetId
  | .v5Subscribe subscribe _ | .v3Subscribe subscribe => some subscribe.packetId
  | .v5Unsubscribe unsubscribe _ | .v3Unsubscribe unsubscribe => some unsubscribe.packetId

/-! ## Properties of a PUBLISH -/

/-- What the properties of a PUBLISH say.  Of a repeated property the last one counts. -/
structure PublishFields where
  correlationData : Option Bytes
  responseTopic : Option String
  contentType : Option String
  payloadFormat : Option MqttPayloadFormat
  messageExpiryIntervalSecs : Option UInt32
  topicAlias : Option UInt16
  subscriptionIdentifiers : List UInt32
  userProperties : List (String × String)

namespace PublishFields

def empty : PublishFields :=
  { correlationData := none
    responseTopic := none
    contentType := none
    payloadFormat := none
    messageExpiryIntervalSecs := none
    topicAlias := none
    subscriptionIdentifiers := []
    userProperties := [] }

def note (fields : PublishFields) : MqttProperty → PublishFields
  | .correlationData data => { fields with correlationData := some data }
  | .responseTopic topic => { fields with responseTopic := some topic }
  | .contentType contentType => { fields with contentType := some contentType }
  | .payloadFormatIndicator format => { fields with payloadFormat := some format }
  | .messageExpiryInterval seconds => { fields with messageExpiryIntervalSecs := some seconds }
  | .topicAlias value => { fields with topicAlias := some value }
  | .subscriptionIdentifier identifier =>
      { fields with
        subscriptionIdentifiers := fields.subscriptionIdentifiers ++ [identifier] }
  | .userProperty key value =>
      { fields with userProperties := fields.userProperties ++ [(key, value)] }

def ofProps (props : List MqttProperty) : PublishFields := props.foldl note empty

end PublishFields

/-- The first correlation data among the properties. -/
def firstCorrelationData (props : List MqttProperty) : Option Bytes :=
  props.findSome? fun property =>
    match property with
    | .correlationData data => some data
    | _ => none

/-- The first payload format among the properties. -/
def mqttPayloadFormat (props : List MqttProperty) : Option MqttPayloadFormat :=
  props.findSome? fun property =>
    match property with
    | .payloadFormatIndicator format => some format
    | _ => none

def qosByte : Qos → UInt8
  | .atMostOnce => 0
  | .atLeastOnce => 1
  | .exactlyOnce => 2

def headersOf (userProperties : List (String × String)) : Option Headers :=
  if userProperties.isEmpty then none
  else some (userProperties.map fun property => ⟨property.1, property.2⟩)

/-- The view of a PUBLISH. -/
def publishMeta (publish : PublishPacket) (duplicate : Bool) (fields : PublishFields) : MqttMeta :=
  { MqttMeta.default with
    topic := some publish.topicName
    qos := some (qosByte publish.qos)
    retain := publish.retain
    duplicate
    packetId := publish.packetId
    contentType := fields.contentType
    payloadFormat := fields.payloadFormat
    messageExpiryIntervalSecs := fields.messageExpiryIntervalSecs
    responseTopic := fields.responseTopic
    correlationData := fields.correlationData
    topicAlias := fields.topicAlias
    subscriptionIdentifiers := fields.subscriptionIdentifiers
    headers := headersOf fields.userProperties }

def payloadValueFromMqttBytes (bytes : Bytes) (payloadFormat : Option MqttPayloadFormat) :
    PayloadValue :=
  if payloadFormat = some .utf8 then
    match Utf8.decode? bytes with
    | some value => .string value
    | none => .bytes bytes
  else .bytes bytes

def mqttSource (deviceId : DeviceId) : EndpointRef := { deviceId, protocol := .mqtt }

def routedEventFromV5Publish (deviceId : DeviceId) (publish : PublishPacket) (duplicate : Bool)
    (props : List MqttProperty) : RoutedEvent :=
  let fields := PublishFields.ofProps props
  let replyTo := fields.responseTopic.map Address.channel
  { source := mqttSource deviceId
    route := .messaging publish.topicName
    payload := payloadValueFromMqttBytes publish.payload fields.payloadFormat
    correlation :=
      if fields.correlationData.isSome || replyTo.isSome then
        some
          { requestId := ⟨(fields.correlationData.map Utf8.fromUtf8Lossy).getD ""⟩
            replyTo }
      else none
    transport := some (publishMeta publish duplicate fields).intoTransportMeta }

def routedEventFromV3Publish (deviceId : DeviceId) (publish : PublishPacket) (duplicate : Bool) :
    RoutedEvent :=
  { source := mqttSource deviceId
    route := .messaging publish.topicName
    payload := .bytes publish.payload
    correlation := none
    transport := some (publishMeta publish duplicate .empty).intoTransportMeta }

/-! ## Results -/

def mqttResultMeta (packetId : Option UInt16) (reasonCodes : List String)
    (reasonString : Option String) : TransportMeta :=
  { MqttMeta.default with packetId, reasonCodes, reasonString }.intoTransportMeta

/-- A result without payload and correlation. -/
def plainResult (deviceId : DeviceId) (commandId : CommandId) (state : DeliveryState)
    (error : Option String) (transport : Option TransportMeta) : RoutedResult :=
  { source := mqttSource deviceId
    result :=
      { commandId
        deviceId
        state
        payload := none
        error
        correlation := none }
    transport }

/-- The command a packet identifier stands for, or else the identifier's own text. -/
def commandOfPacketId (pending : List (UInt16 × CommandId)) (packetId : UInt16) : CommandId :=
  (lookup packetId pending).getD ⟨toString packetId.toNat⟩

/-- The result of an acknowledgement, and the pending commands after it. -/
def routedResultFromPacketIdWithTransport (pending : List (UInt16 × CommandId))
    (deviceId : DeviceId) (packetId : UInt16) (state : DeliveryState) (error : Option String)
    (removes : Bool) (transport : Option TransportMeta) :
    RoutedResult × List (UInt16 × CommandId) :=
  (plainResult deviceId (commandOfPacketId pending packetId) state error transport,
    if removes then remove packetId pending else pending)

def routedResultFromPacketId (pending : List (UInt16 × CommandId)) (deviceId : DeviceId)
    (packetId : UInt16) (state : DeliveryState) (removes : Bool) :
    RoutedResult × List (UInt16 × CommandId) :=
  routedResultFromPacketIdWithTransport pending deviceId packetId state none removes none

/-- The state an optional reason code stands for, given the state of success. -/
def reasonState (success : DeliveryState) : Option ReasonCode → DeliveryState
  | some code => if code.isSuccess then success else .rejected
  | none => success

/-- The result of an acknowledgement with one reason code. -/
def routedResultFromReason (success : DeliveryState) (removes : Bool)
    (pending : List (UInt16 × CommandId)) (deviceId : DeviceId) (packetId : UInt16)
    (reasonCode : Option ReasonCode) (reasonString : Option String) :
    RoutedResult × List (UInt16 × CommandId) :=
  routedResultFromPacketIdWithTransport pending deviceId packetId
    (reasonState success reasonCode)
    ((reasonCode.filter ReasonCode.isFailure).map ReasonCode.text) removes
    (some (mqttResultMeta (some packetId) (reasonCode.toList.map ReasonCode.text) reasonString))

def routedResultFromV5Puback := routedResultFromReason .completed true

def routedResultFromV5Pubrec := routedResultFromReason .dispatched false

def routedResultFromV5Pubrel := routedResultFromReason .dispatched false

def routedResultFromV5Pubcomp := routedResultFromReason .completed true

/-- The result of an acknowledgement with a reason code for every topic filter. -/
def routedResultFromReasons (pending : List (UInt16 × CommandId)) (deviceId : DeviceId)
    (packetId : UInt16) (reasonCodes : List ReasonCode) (reasonString : Option String) :
    RoutedResult × List (UInt16 × CommandId) :=
  let failedCodes := (reasonCodes.filter ReasonCode.isFailure).map ReasonCode.text
  routedResultFromPacketIdWithTransport pending deviceId packetId
    (if failedCodes.isEmpty then .completed else .rejected)
    (if failedCodes.isEmpty then none else some (String.intercalate "," failedCodes)) true
    (some (mqttResultMeta (some packetId) (reasonCodes.map ReasonCode.text) reasonString))

def routedResultFromV5Suback := routedResultFromReasons

def routedResultFromV5Unsuback := routedResultFromReasons

def disconnectCommandId : CommandId := ⟨"__mqtt_disconnect__"⟩

def authCommandId : CommandId := ⟨"__mqtt_auth__"⟩

/-- A result that no command asked for. -/
def unsolicitedResult (deviceId : DeviceId) (commandId : CommandId) (state : DeliveryState)
    (reasonText reasonString : Option String) : RoutedResult :=
  plainResult deviceId commandId state (if state = .rejected then reasonText else none)
    (some (mqttResultMeta none reasonText.toList reasonString))

def routedResultFromV5Disconnect (deviceId : DeviceId) (reasonCode : Option DisconnectReason)
    (reasonString : Option String) : RoutedResult :=
  unsolicitedResult deviceId disconnectCommandId
    (if reasonCode.all DisconnectReason.isNormal then .completed else .rejected)
    (reasonCode.map DisconnectReason.text) reasonString

def routedResultFromV5Auth (deviceId : DeviceId) (reasonCode : Option ReasonCode)
    (reasonString : Option String) : RoutedResult :=
  unsolicitedResult deviceId authCommandId (reasonState .accepted reasonCode)
    (reasonCode.map ReasonCode.text) reasonString

/-! ## Replies -/

/-- The reply route a request opens, under the text of its correlation data. -/
def pendingReplyRouteFromPacket (request : MqttPacketRequest) :
    Option (String × PendingReplyRoute) :=
  match request.packet with
  | .v5Publish _ props =>
      let fields := PublishFields.ofProps props
      fields.correlationData.map fun data =>
        (Utf8.fromUtf8Lossy data,
          { commandId := request.commandId, replyTo := fields.responseTopic.map Address.channel })
  | _ => none

/-- The result of the command whose reply a PUBLISH is. -/
def replyResult (deviceId : DeviceId) (route : PendingReplyRoute) (correlationKey : String)
    (publish : PublishPacket) (duplicate : Bool) (props : List MqttProperty) : RoutedResult :=
  { source := mqttSource deviceId
    result :=
      { commandId := route.commandId
        deviceId
        state := .completed
        payload := some (payloadValueFromMqttBytes publish.payload (mqttPayloadFormat props))
        error := none
        correlation := some { requestId := route.commandId, replyTo := route.replyTo } }
    transport :=
      some (publishMeta publish duplicate
        { PublishFields.ofProps props with
          correlationData := some (Utf8.encode correlationKey) }).intoTransportMeta }

/-- The pending route that a PUBLISH answers, under its key. -/
def answeredRoute (routes : List (String × PendingReplyRoute)) (props : List MqttProperty) :
    Option (String × PendingReplyRoute) := do
  let data ← firstCorrelationData props
  let route ← lookup (Utf8.fromUtf8Lossy data) routes
  return (Utf8.fromUtf8Lossy data, route)

def routedReplyOrEventFromV5Publish (routes : List (String × PendingReplyRoute))
    (deviceId : DeviceId) (publish : PublishPacket) (duplicate : Bool)
    (props : List MqttProperty) : MqttDecodedInbound × List (String × PendingReplyRoute) :=
  match answeredRoute routes props with
  | some (correlationKey, route) =>
      (.result (replyResult deviceId route correlationKey publish duplicate props),
        remove correlationKey routes)
  | none => (.event (routedEventFromV5Publish deviceId publish duplicate props), routes)

end Mqtt

/-! ## The decoder -/

namespace MqttInboundDecoder

open Mqtt KeyedList

def recordOutboundRequest (decoder : MqttInboundDecoder) (request : MqttPacketRequest) :
    MqttInboundDecoder :=
  { decoder with
    pendingReplyRoutes :=
      match pendingReplyRouteFromPacket request with
      | some (correlationKey, route) => insert correlationKey route decoder.pendingReplyRoutes
      | none => decoder.pendingReplyRoutes
    pendingCommandIds :=
      match packetRequestPacketId request.packet with
      | some packetId => insert packetId request.commandId decoder.pendingCommandIds
      | none => decoder.pendingCommandIds }

/-- Emits a result and keeps the pending commands that are left after it. -/
def emit (decoder : MqttInboundDecoder) (outcome : RoutedResult × List (UInt16 × CommandId)) :
    MqttDecodedInbound × MqttInboundDecoder :=
  (.result outcome.1, { decoder with pendingCommandIds := outcome.2 })

def decode (decoder : MqttInboundDecoder) :
    MqttInboundPacket → MqttDecodedInbound × MqttInboundDecoder
  | .v5Publish publish duplicate props =>
      let outcome := routedReplyOrEventFromV5Publish decoder.pendingReplyRoutes decoder.deviceId
        publish duplicate props
      (outcome.1, { decoder with pendingReplyRoutes := outcome.2 })
  | .v3Publish publish duplicate =>
      (.event (routedEventFromV3Publish decoder.deviceId publish duplicate), decoder)
  | .v5Puback packetId reasonCode reasonString => decoder.emit <|
      routedResultFromV5Puback decoder.pendingCommandIds decoder.deviceId packetId reasonCode
        reasonString
  | .v3Puback packetId => decoder.emit <|
      routedResultFromPacketId decoder.pendingCommandIds decoder.deviceId packetId .completed true
  | .v5Pubrec packetId reasonCode reasonString => decoder.emit <|
      routedResultFromV5Pubrec decoder.pendingCommandIds decoder.deviceId packetId reasonCode
        reasonString
  | .v5Pubrel packetId reasonCode reasonString => decoder.emit <|
      routedResultFromV5Pubrel decoder.pendingCommandIds decoder.deviceId packetId reasonCode
        reasonString
  | .v3Pubrec packetId => decoder.emit <|
      routedResultFromPacketId decoder.pendingCommandIds decoder.deviceId packetId .dispatched
        false
  | .v3Pubrel packetId => decoder.emit <|
      routedResultFromPacketId decoder.pendingCommandIds decoder.deviceId packetId .dispatched
        false
  | .v5Pubcomp packetId reasonCode reasonString => decoder.emit <|
      routedResultFromV5Pubcomp decoder.pendingCommandIds decoder.deviceId packetId reasonCode
        reasonString
  | .v3Pubcomp packetId => decoder.emit <|
      routedResultFromPacketId decoder.pendingCommandIds decoder.deviceId packetId .completed true
  | .v5Suback packetId reasonCodes reasonString => decoder.emit <|
      routedResultFromV5Suback decoder.pendingCommandIds decoder.deviceId packetId reasonCodes
        reasonString
  | .v3Suback packetId => decoder.emit <|
      routedResultFromPacketId decoder.pendingCommandIds decoder.deviceId packetId .completed true
  | .v5Unsuback packetId reasonCodes reasonString => decoder.emit <|
      routedResultFromV5Unsuback decoder.pendingCommandIds decoder.deviceId packetId reasonCodes
        reasonString
  | .v3Unsuback packetId => decoder.emit <|
      routedResultFromPacketId decoder.pendingCommandIds decoder.deviceId packetId .completed true
  | .v5Disconnect reasonCode reasonString =>
      (.result (routedResultFromV5Disconnect decoder.deviceId reasonCode reasonString), decoder)
  | .v5Auth reasonCode reasonString =>
      (.result (routedResultFromV5Auth decoder.deviceId reasonCode reasonString), decoder)
  | .other => (.ignored, decoder)

/-! ## Runs -/

/-- What a run of the decoder is made of. -/
inductive Input where
  | record (request : MqttPacketRequest)
  | decode (packet : MqttInboundPacket)

def step (decoder : MqttInboundDecoder) : Input → MqttInboundDecoder
  | .record request => decoder.recordOutboundRequest request
  | .decode packet => (decoder.decode packet).2

/-- The decoder after a run. -/
def after (deviceId : DeviceId) (history : List Input) : MqttInboundDecoder :=
  history.foldl step (new deviceId)

theorem after_snoc (deviceId : DeviceId) (history : List Input) (input : Input) :
    after deviceId (history ++ [input]) = (after deviceId history).step input := by
  rw [after, List.foldl_append]
  rfl

end MqttInboundDecoder
end Ferredge
