import Ferredge.Bridge.Planner
import Ferredge.Mqtt.Packet

/-!
# MQTT packet requests

The two outbound pipelines of the MQTT adapter.  The native one plans a command directly; the
bridge one plans it into the bridge representation and reads the packet contents off that.  Both
project into the same views, from which the packets are built.
-/

namespace Ferredge

open Fallible

/-- What a native plan says about a message to publish. -/
structure MqttPublishPlan where
  commandId : CommandId
  topic : String
  payload : PayloadValue
  delivery : Option DeliveryGuarantee
  retain : Bool
  payloadFormat : Option MqttPayloadFormat
  contentType : Option String
  messageExpiryIntervalSecs : Option UInt32
  topicAlias : Option UInt16
  userProperties : List (String × String)
  replyTo : Option Address
  responseTopic : Option String
  correlationId : Option CommandId
  correlationData : Option Bytes

/-- What a native plan says about a subscription. -/
structure MqttSubscribePlan where
  commandId : CommandId
  topic : String
  delivery : Option DeliveryGuarantee
  durableName : Option String
  sharedGroup : Option String
  noLocal : Bool
  retainAsPublished : Bool
  retainHandling : Option MqttRetainHandling
  subscriptionIdentifier : Option UInt32
  userProperties : List (String × String)

/-- Native MQTT semantic plan. -/
inductive MqttNativePlan where
  | publish (plan : MqttPublishPlan)
  | subscribe (plan : MqttSubscribePlan)
  | unsubscribe (commandId : CommandId) (topic : String)

/-- Contents of a PUBLISH packet, independent of the protocol version. -/
structure PublishView where
  commandId : CommandId
  topic : String
  payload : Bytes
  delivery : Option DeliveryGuarantee
  retain : Bool
  payloadFormat : Option MqttPayloadFormat
  contentType : Option String
  messageExpiryIntervalSecs : Option UInt32
  topicAlias : Option UInt16
  replyTo : Option String
  responseTopic : Option String
  correlationId : Option String
  correlationData : Option Bytes
  projectedUserProperties : List (String × String)
  deriving DecidableEq

/-- Contents of a SUBSCRIBE or UNSUBSCRIBE packet, independent of the protocol version. -/
structure SubscribeView where
  commandId : CommandId
  topic : String
  delivery : Option DeliveryGuarantee
  durableName : Option String
  sharedGroup : Option String
  noLocal : Bool
  retainAsPublished : Bool
  retainHandling : Option MqttRetainHandling
  subscriptionIdentifier : Option UInt32
  projectedUserProperties : List (String × String)
  deriving DecidableEq

/-- Contents of an outbound packet. -/
inductive PacketSemantics where
  | publish (view : PublishView)
  | subscribe (view : SubscribeView)
  | unsubscribe (view : SubscribeView)
  deriving DecidableEq

namespace Mqtt

variable (lib : MqttLibrary)

def mqttPayloadBytes : PayloadValue → Except MqttCommandConversionError Bytes
  | .bytes bytes => .ok bytes
  | .string value => .ok value.toUTF8.data.toList
  | .null => .ok []
  | payload => (lib.jsonToVec payload).mapError .invalidPayload

def channelReplyTo : Address → Option String
  | .channel value => some value
  | .resource _ => none

/-- Header pairs of an ordered collection. -/
def headerPairs (headers : Headers) : List (String × String) :=
  headers.map fun header => (header.key, header.value)

/-! ## The native pipeline -/

/-- Splits an options capture into a typed MQTT view. -/
def splitMqttExtensions : Option TransportMeta → Except MqttCommandConversionError MqttMeta
  | some capture => MqttMeta.tryFromTransportMeta capture
  | none => .ok MqttMeta.default

/-- Appends capture-carried user properties after the envelope headers. -/
def mergedUserProperties (headers : Headers) : Option Headers → List (String × String)
  | some captured => headerPairs (headers.merge captured)
  | none => headerPairs headers

/-- Topic named by a broker channel. -/
def channelTopic (channel : BrokerAddress) : Except MqttCommandConversionError String :=
  match channel.kind with
  | some .topic => .ok channel.name.text
  | none => .ok channel.name.text
  | some kind => .error (.unsupportedChannelKind kind)

/-- Plans a command directly through protocol-native semantics. -/
def planNative (command : Command) : Except MqttCommandConversionError MqttNativePlan :=
  match command.intent with
  | .send channel payload options => do
      let view ← splitMqttExtensions options.extensions
      let topic ← channelTopic channel
      return .publish
        { commandId := command.id
          topic
          payload
          delivery := options.delivery
          retain := view.retain
          payloadFormat := view.payloadFormat
          contentType := view.contentType
          messageExpiryIntervalSecs := view.messageExpiryIntervalSecs
          topicAlias := view.topicAlias
          userProperties := mergedUserProperties options.headers view.headers
          replyTo := command.correlation.bind Correlation.replyTo
          responseTopic := view.responseTopic
          correlationId := command.correlation.map Correlation.requestId
          correlationData := view.correlationData }
  | .subscribe channel options => do
      let view ← splitMqttExtensions options.extensions
      let topic ← channelTopic channel
      return .subscribe
        { commandId := command.id
          topic
          delivery := options.delivery
          durableName := options.durableName
          sharedGroup := options.sharedGroup
          noLocal := view.noLocal
          retainAsPublished := view.retainAsPublished
          retainHandling := view.retainHandling
          subscriptionIdentifier := view.subscriptionIdentifiers.head?
          userProperties := mergedUserProperties [] view.headers }
  | .unsubscribe channel => do
      let topic ← channelTopic channel
      return .unsubscribe command.id topic
  | _ => .error .unsupportedIntent

/-- Packet contents of a native plan. -/
def packetSemanticsFromNativePlan :
    MqttNativePlan → Except MqttCommandConversionError PacketSemantics
  | .publish plan => do
      let payload ← mqttPayloadBytes lib plan.payload
      return .publish
        { commandId := plan.commandId
          topic := plan.topic
          payload
          delivery := plan.delivery
          retain := plan.retain
          payloadFormat := plan.payloadFormat
          contentType := plan.contentType
          messageExpiryIntervalSecs := plan.messageExpiryIntervalSecs
          topicAlias := plan.topicAlias
          replyTo := plan.replyTo.bind channelReplyTo
          responseTopic := plan.responseTopic
          correlationId := plan.correlationId.map CommandId.text
          correlationData := plan.correlationData
          projectedUserProperties := plan.userProperties }
  | .subscribe plan =>
      .ok <| .subscribe
        { commandId := plan.commandId
          topic := plan.topic
          delivery := plan.delivery
          durableName := plan.durableName
          sharedGroup := plan.sharedGroup
          noLocal := plan.noLocal
          retainAsPublished := plan.retainAsPublished
          retainHandling := plan.retainHandling
          subscriptionIdentifier := plan.subscriptionIdentifier
          projectedUserProperties := plan.userProperties }
  | .unsubscribe commandId topic =>
      .ok <| .unsubscribe
        { commandId
          topic
          delivery := none
          durableName := none
          sharedGroup := none
          noLocal := false
          retainAsPublished := false
          retainHandling := none
          subscriptionIdentifier := none
          projectedUserProperties := [] }

/-! ## The bridge pipeline -/

/-- Refuses channel kinds that are not topics. -/
def checkChannelKind (channel : BrokerAddress) : Except MqttCommandConversionError Unit :=
  match channel.kind with
  | some kind => if kind ≠ .topic then .error (.unsupportedChannelKind kind) else .ok ()
  | none => .ok ()

/-- Checks the channel kind of a messaging command and plans it into the bridge representation. -/
def plannerMessageForCommand (command : Command) :
    Except MqttCommandConversionError BridgeMessage :=
  match command.intent with
  | .send channel _ _ | .subscribe channel _ | .unsubscribe channel => do
      checkChannelKind channel
      (BridgePlanner.commandToMessaging command).mapError .bridge
  | _ => .error .unsupportedIntent

/-- Decodes and fully validates the bridge capture through the typed MQTT view. -/
def mqttCaptureView : Option TransportMeta → Except MqttCommandConversionError MqttMeta
  | some capture => MqttMeta.tryFromTransportMeta capture
  | none => .ok MqttMeta.default

def headerUserProperties (headers : Option Headers) : List (String × String) :=
  (headers.map headerPairs).getD []

/-- Messaging operation and topic of a bridge command. -/
def messagingParts (command : BridgeCommand) :
    Except MqttCommandConversionError (MessagingOp × String) :=
  match command.operation, command.route with
  | .messaging operation, .messaging topic => .ok (operation, topic)
  | _, _ => .error .invalidBridgeMessage

def publishViewFromBridge (command : BridgeCommand) :
    Except MqttCommandConversionError PublishView := do
  let (operation, topic) ← messagingParts command
  let view ← mqttCaptureView command.transport
  let some payload := command.payload | .error .invalidBridgeMessage
  let payload ← mqttPayloadBytes lib payload
  return {
    commandId := command.id
    topic
    payload
    delivery := operation.delivery
    retain := view.retain
    payloadFormat := view.payloadFormat
    contentType := view.contentType
    messageExpiryIntervalSecs := view.messageExpiryIntervalSecs
    topicAlias := view.topicAlias
    replyTo := (command.correlation.bind Correlation.replyTo).bind channelReplyTo
    responseTopic := view.responseTopic
    correlationId := command.correlation.map fun correlation => correlation.requestId.text
    correlationData := view.correlationData
    projectedUserProperties := headerUserProperties command.headers }

def subscriptionViewFromBridge (command : BridgeCommand) :
    Except MqttCommandConversionError SubscribeView := do
  let (operation, topic) ← messagingParts command
  let view ← mqttCaptureView command.transport
  return {
    commandId := command.id
    topic
    delivery := operation.delivery
    durableName := operation.durableName
    sharedGroup := operation.sharedGroup
    noLocal := view.noLocal
    retainAsPublished := view.retainAsPublished
    retainHandling := view.retainHandling
    subscriptionIdentifier := view.subscriptionIdentifiers.head?
    projectedUserProperties := headerUserProperties command.headers }

/-- Packet contents of a bridge message. -/
def packetSemanticsFromBridge : BridgeMessage → Except MqttCommandConversionError PacketSemantics
  | .command command =>
      match command.operation with
      | .messaging operation =>
          match operation.action with
          | .publish => (publishViewFromBridge lib command).map .publish
          | .subscribe => (subscriptionViewFromBridge command).map .subscribe
          | .unsubscribe => (subscriptionViewFromBridge command).map .unsubscribe
      | _ => .error .invalidBridgeMessage
  | _ => .error .invalidBridgeMessage

/-! ## Packet builders -/

def qosFromDelivery : Option DeliveryGuarantee → Qos
  | some .exactlyOnce => .exactlyOnce
  | some .atLeastOnce => .atLeastOnce
  | _ => .atMostOnce

def packetIdForQos : Qos → Option UInt16
  | .atMostOnce => none
  | .atLeastOnce | .exactlyOnce => some 1

/-- The result of a library check as a conversion error. -/
def checked {α : Type} (check : Except MqttError α) : Except MqttCommandConversionError α :=
  check.mapError .packetBuild

/-- Properties of a PUBLISH packet, in the order they are pushed. -/
def v5PublishProps (view : PublishView) : List MqttProperty :=
  let correlationData :=
    view.correlationData.or <|
      (view.correlationId.map fun value => value.toUTF8.data.toList).or <|
        if view.replyTo.isSome || view.responseTopic.isSome then
          some view.commandId.text.toUTF8.data.toList
        else none
  (view.payloadFormat.map MqttProperty.payloadFormatIndicator).toList ++
    (view.messageExpiryIntervalSecs.map MqttProperty.messageExpiryInterval).toList ++
    (view.topicAlias.map MqttProperty.topicAlias).toList ++
    ((view.responseTopic.or view.replyTo).map MqttProperty.responseTopic).toList ++
    (view.contentType.map MqttProperty.contentType).toList ++
    (correlationData.map MqttProperty.correlationData).toList ++
    view.projectedUserProperties.map fun pair => .userProperty pair.1 pair.2

def v5SubscribeProps (view : SubscribeView) : List MqttProperty :=
  (view.subscriptionIdentifier.map MqttProperty.subscriptionIdentifier).toList ++
    view.projectedUserProperties.map fun pair => .userProperty pair.1 pair.2

def v5UnsubscribeProps (view : SubscribeView) : List MqttProperty :=
  [.userProperty "ferredge-command-id" view.commandId.text]

/-- Checks the properties in the order they are pushed. -/
def buildProps (props : List MqttProperty) :
    Except MqttCommandConversionError (List MqttProperty) :=
  props.mapM fun property => (checked (lib.property property)).map fun _ => property

def validateV3PublishSupport (view : PublishView) : Except MqttCommandConversionError Unit :=
  if view.payloadFormat.isSome || view.contentType.isSome ||
      view.messageExpiryIntervalSecs.isSome || view.topicAlias.isSome ||
      view.responseTopic.isSome || view.correlationData.isSome ||
      !view.projectedUserProperties.isEmpty || view.replyTo.isSome ||
      view.correlationId.isSome then
    .error .mqttV5PublishOptionsOnV3
  else .ok ()

def validateV3SubscribeSupport (view : SubscribeView) : Except MqttCommandConversionError Unit :=
  if view.noLocal || view.retainAsPublished || view.retainHandling.isSome ||
      view.subscriptionIdentifier.isSome || !view.projectedUserProperties.isEmpty ||
      view.durableName.isSome || view.sharedGroup.isSome then
    .error .mqttV5SubscriptionOptionsOnV3
  else .ok ()

/-- Finishes a packet. -/
def finish (commandId : CommandId) (packet : MqttWirePacket) :
    Except MqttCommandConversionError MqttPacketRequest :=
  (checked (lib.build packet)).map fun _ => { commandId, packet }

def buildPublishPacket (view : PublishView) (version : MqttProtocolVersion) :
    Except MqttCommandConversionError MqttPacketRequest :=
  let qos := qosFromDelivery view.delivery
  let publish : PublishPacket :=
    { topicName := view.topic
      qos
      retain := view.retain
      payload := view.payload
      packetId := packetIdForQos qos }
  match version with
  | .v5_0 => do
      let props ← buildProps lib (v5PublishProps view)
      checked (lib.topicName view.topic)
      finish lib view.commandId (.v5Publish publish props)
  | .v3_1_1 => do
      validateV3PublishSupport view
      checked (lib.topicName view.topic)
      finish lib view.commandId (.v3Publish publish)

def mqttTopicFromSubscriptionParts (topic : String) : Option String → String
  | some sharedGroup => "$share/" ++ sharedGroup ++ "/" ++ topic
  | none => topic

def buildSubscribePacket (view : SubscribeView) (version : MqttProtocolVersion) :
    Except MqttCommandConversionError MqttPacketRequest := do
  let topic := mqttTopicFromSubscriptionParts view.topic view.sharedGroup
  let options : SubOpts :=
    { qos := qosFromDelivery view.delivery
      noLocal := view.noLocal
      retainAsPublished := view.retainAsPublished
      retainHandling := view.retainHandling.getD .sendRetained }
  let subscribe : SubscribePacket := { packetId := 1, entries := [(topic, options)] }
  checked (lib.subEntry topic options)
  match version with
  | .v5_0 => do
      let props ← buildProps lib (v5SubscribeProps view)
      finish lib view.commandId (.v5Subscribe subscribe props)
  | .v3_1_1 => do
      validateV3SubscribeSupport view
      finish lib view.commandId (.v3Subscribe subscribe)

def buildUnsubscribePacket (view : SubscribeView) (version : MqttProtocolVersion) :
    Except MqttCommandConversionError MqttPacketRequest :=
  let topic := mqttTopicFromSubscriptionParts view.topic view.sharedGroup
  let unsubscribe : UnsubscribePacket := { packetId := 1, entries := [topic] }
  match version with
  | .v5_0 => do
      let props ← buildProps lib (v5UnsubscribeProps view)
      checked (lib.filters [topic])
      finish lib view.commandId (.v5Unsubscribe unsubscribe props)
  | .v3_1_1 => do
      validateV3SubscribeSupport view
      checked (lib.filters [topic])
      finish lib view.commandId (.v3Unsubscribe unsubscribe)

def buildPacketRequest (semantics : PacketSemantics) (version : MqttProtocolVersion) :
    Except MqttCommandConversionError MqttPacketRequest :=
  match semantics with
  | .publish view => buildPublishPacket lib view version
  | .subscribe view => buildSubscribePacket lib view version
  | .unsubscribe view => buildUnsubscribePacket lib view version

/-- The packet request built directly from a command. -/
def nativePacketRequest (device : MqttDevice) (command : Command) :
    Except MqttCommandConversionError MqttPacketRequest := do
  let plan ← planNative command
  let semantics ← packetSemanticsFromNativePlan lib plan
  buildPacketRequest lib semantics device.endpoint.preferredProtocolVersion

/-- The packet request built from a command through the bridge representation. -/
def bridgePacketRequest (device : MqttDevice) (command : Command) :
    Except MqttCommandConversionError MqttPacketRequest := do
  let message ← plannerMessageForCommand command
  let semantics ← packetSemanticsFromBridge lib message
  buildPacketRequest lib semantics device.endpoint.preferredProtocolVersion

/-! ## Agreement of the two pipelines -/

theorem channelTopic_eq (channel : BrokerAddress) :
    channelTopic channel = (checkChannelKind channel).map fun _ => channel.name.text := by
  obtain ⟨name, kind⟩ := channel
  cases kind with
  | none => rfl
  | some kind => cases kind <;> rfl

theorem splitMqttExtensions_headers {extensions : Option TransportMeta} {view : MqttMeta}
    (decoded : splitMqttExtensions extensions = .ok view) :
    view.headers = extensions.bind TransportMeta.headers := by
  cases extensions with
  | none =>
      cases decoded
      rfl
  | some capture => exact MqttMeta.tryFromTransportMeta_headers decoded

theorem mergedUserProperties_eq (headers : Headers) (captured : Option Headers) :
    mergedUserProperties headers captured = headerPairs (headers ++ captured.getD []) := by
  cases captured <;> simp [mergedUserProperties, Headers.merge]

theorem headerUserProperties_captureWithHeaders (transport : Option TransportMeta)
    (headers : Headers) :
    headerUserProperties (BridgePlanner.captureWithHeaders transport headers).2 =
      headerPairs (headers ++ (transport.bind TransportMeta.headers).getD []) := by
  have pairs_getD (headers : Option Headers) :
      headerUserProperties headers = headerPairs (headers.getD []) := by
    cases headers <;> rfl
  rw [pairs_getD, BridgePlanner.captureWithHeaders_headers]

/-- The bridge capture has lost its headers and decodes to the same view otherwise. -/
theorem mqttCaptureView_captureWithHeaders (transport : Option TransportMeta) (headers : Headers) :
    mqttCaptureView (BridgePlanner.captureWithHeaders transport headers).1 =
      (splitMqttExtensions transport).map fun view => view.withHeaders none := by
  rw [BridgePlanner.captureWithHeaders_transport]
  cases transport with
  | none => rfl
  | some capture => exact MqttMeta.tryFromTransportMeta_setHeaders capture none

/-- What remains of a publish request once its capture and channel are accepted. -/
def publishAccepted (device : MqttDevice) (command : Command) (channel : BrokerAddress)
    (payload : PayloadValue) (options : BrokerMessageOptions) (view : MqttMeta) :
    Except MqttCommandConversionError MqttPacketRequest := do
  let bytes ← mqttPayloadBytes lib payload
  let publish : PublishView :=
    { commandId := command.id
      topic := channel.name.text
      payload := bytes
      delivery := options.delivery
      retain := view.retain
      payloadFormat := view.payloadFormat
      contentType := view.contentType
      messageExpiryIntervalSecs := view.messageExpiryIntervalSecs
      topicAlias := view.topicAlias
      replyTo := (command.correlation.bind Correlation.replyTo).bind channelReplyTo
      responseTopic := view.responseTopic
      correlationId := command.correlation.map fun correlation => correlation.requestId.text
      correlationData := view.correlationData
      projectedUserProperties :=
        headerPairs (options.headers ++ (options.extensions.bind TransportMeta.headers).getD []) }
  buildPublishPacket lib publish device.endpoint.preferredProtocolVersion

/-- What remains of a subscribe request once its capture and channel are accepted. -/
def subscribeAccepted (device : MqttDevice) (command : Command) (channel : BrokerAddress)
    (options : BrokerSubscriptionOptions) (view : MqttMeta) :
    Except MqttCommandConversionError MqttPacketRequest :=
  let subscribe : SubscribeView :=
    { commandId := command.id
      topic := channel.name.text
      delivery := options.delivery
      durableName := options.durableName
      sharedGroup := options.sharedGroup
      noLocal := view.noLocal
      retainAsPublished := view.retainAsPublished
      retainHandling := view.retainHandling
      subscriptionIdentifier := view.subscriptionIdentifiers.head?
      projectedUserProperties :=
        headerPairs ([] ++ (options.extensions.bind TransportMeta.headers).getD []) }
  buildSubscribePacket lib subscribe device.endpoint.preferredProtocolVersion

variable {device : MqttDevice} {command : Command} {channel : BrokerAddress}

/-- The native pipeline decodes the capture first and looks at the channel kind second. -/
theorem nativePacketRequest_send {payload : PayloadValue} {options : BrokerMessageOptions}
    (intent : command.intent = .send channel payload options) :
    nativePacketRequest lib device command =
      splitMqttExtensions options.extensions >>= fun view =>
        checkChannelKind channel >>= fun _ =>
          publishAccepted lib device command channel payload options view := by
  have renamed : (command.correlation.map Correlation.requestId).map CommandId.text =
      command.correlation.map fun correlation => correlation.requestId.text := by
    cases command.correlation <;> rfl
  simp only [nativePacketRequest, planNative, intent, channelTopic_eq, publishAccepted, ← renamed]
  cases decoded : splitMqttExtensions options.extensions with
  | error error => rfl
  | ok view =>
      rw [← splitMqttExtensions_headers decoded, ← mergedUserProperties_eq]
      cases checkChannelKind channel with
      | error error => rfl
      | ok _ =>
          change (mqttPayloadBytes lib payload >>= _) >>= _ = _
          cases mqttPayloadBytes lib payload <;> rfl

/-- The bridge pipeline looks at the channel kind first and decodes the capture second. -/
theorem bridgePacketRequest_send {payload : PayloadValue} {options : BrokerMessageOptions}
    (intent : command.intent = .send channel payload options) :
    bridgePacketRequest lib device command =
      checkChannelKind channel >>= fun _ =>
        splitMqttExtensions options.extensions >>= fun view =>
          publishAccepted lib device command channel payload options view := by
  simp only [bridgePacketRequest, plannerMessageForCommand, intent,
    BridgePlanner.commandToMessaging, publishAccepted,
    ← headerUserProperties_captureWithHeaders]
  cases checkChannelKind channel with
  | error error => rfl
  | ok _ =>
      have captured := mqttCaptureView_captureWithHeaders options.extensions options.headers
      change ((publishViewFromBridge lib _).map PacketSemantics.publish) >>= _ = _
      simp only [publishViewFromBridge, messagingParts]
      change Except.map _ (mqttCaptureView _ >>= _) >>= _ = _
      rw [captured]
      cases splitMqttExtensions options.extensions with
      | error error => rfl
      | ok view =>
          change Except.map _ (mqttPayloadBytes lib payload >>= _) >>= _ = _
          cases mqttPayloadBytes lib payload <;> rfl

theorem nativePacketRequest_subscribe {options : BrokerSubscriptionOptions}
    (intent : command.intent = .subscribe channel options) :
    nativePacketRequest lib device command =
      splitMqttExtensions options.extensions >>= fun view =>
        checkChannelKind channel >>= fun _ =>
          subscribeAccepted lib device command channel options view := by
  simp only [nativePacketRequest, planNative, intent, channelTopic_eq, subscribeAccepted]
  cases decoded : splitMqttExtensions options.extensions with
  | error error => rfl
  | ok view =>
      rw [← splitMqttExtensions_headers decoded, ← mergedUserProperties_eq]
      cases checkChannelKind channel <;> rfl

theorem bridgePacketRequest_subscribe {options : BrokerSubscriptionOptions}
    (intent : command.intent = .subscribe channel options) :
    bridgePacketRequest lib device command =
      checkChannelKind channel >>= fun _ =>
        splitMqttExtensions options.extensions >>= fun view =>
          subscribeAccepted lib device command channel options view := by
  simp only [bridgePacketRequest, plannerMessageForCommand, intent,
    BridgePlanner.commandToMessaging, subscribeAccepted,
    ← headerUserProperties_captureWithHeaders]
  cases checkChannelKind channel with
  | error error => rfl
  | ok _ =>
      have captured := mqttCaptureView_captureWithHeaders options.extensions []
      change ((subscriptionViewFromBridge _).map PacketSemantics.subscribe) >>= _ = _
      simp only [subscriptionViewFromBridge, messagingParts]
      change Except.map _ (mqttCaptureView _ >>= _) >>= _ = _
      rw [captured]
      cases splitMqttExtensions options.extensions <;> rfl

theorem nativePacketRequest_eq_of_unsubscribe
    (intent : command.intent = .unsubscribe channel) :
    nativePacketRequest lib device command = bridgePacketRequest lib device command := by
  simp only [nativePacketRequest, bridgePacketRequest, planNative, plannerMessageForCommand,
    intent, channelTopic_eq, BridgePlanner.commandToMessaging]
  cases checkChannelKind channel <;> rfl

/-- The capture of an options record does not decode as an MQTT view. -/
def CaptureMalformed (extensions : Option TransportMeta) : Prop :=
  ∃ error, splitMqttExtensions extensions = .error error

/-- The channel is explicitly something else than a topic. -/
def NoTopic (channel : BrokerAddress) : Prop :=
  ∃ kind, channel.kind = some kind ∧ kind ≠ .topic

/-- The command names a channel that is no topic and carries a malformed capture. -/
def DoublyWrong (command : Command) : Prop :=
  match command.intent with
  | .send channel _ options => NoTopic channel ∧ CaptureMalformed options.extensions
  | .subscribe channel options => NoTopic channel ∧ CaptureMalformed options.extensions
  | _ => False

theorem checkChannelKind_eq_error {error : MqttCommandConversionError} :
    checkChannelKind channel = .error error ↔
      ∃ kind, channel.kind = some kind ∧ kind ≠ .topic ∧ error = .unsupportedChannelKind kind := by
  unfold checkChannelKind
  cases channel.kind with
  | none => simp
  | some kind =>
      by_cases topic : kind = .topic
      · simp [topic]
      · simp [topic, eq_comm]

/-- An error about the channel kind is never one about the capture. -/
theorem swap_iff_not_doublyWrong {α : Type} (extensions : Option TransportMeta)
    (next : MqttMeta → Except MqttCommandConversionError α) :
    ((splitMqttExtensions extensions >>= fun view => checkChannelKind channel >>= fun _ =>
        next view) =
      checkChannelKind channel >>= fun _ => splitMqttExtensions extensions >>= fun view =>
        next view) ↔
      ¬(NoTopic channel ∧ CaptureMalformed extensions) := by
  rw [bind_swap_iff]
  constructor
  · rintro same ⟨⟨kind, named, other⟩, captureError, malformed⟩
    have refused := checkChannelKind_eq_error.mpr ⟨kind, named, other, rfl⟩
    have blamed : MqttMeta.IsCaptureError captureError := by
      cases extensions with
      | none => cases malformed
      | some capture => exact MqttMeta.tryFromTransportMeta_errors capture captureError malformed
    rw [same captureError _ malformed refused] at blamed
    exact blamed
  · intro sound captureError kindError malformed refused
    obtain ⟨kind, named, other, -⟩ := checkChannelKind_eq_error.mp refused
    exact absurd ⟨⟨kind, named, other⟩, captureError, malformed⟩ sound

/-- The two pipelines give the same packet request or the same error exactly when the command is not
wrong in its channel kind and its capture at once. -/
theorem nativePacketRequest_eq_bridgePacketRequest_iff (device : MqttDevice) (command : Command) :
    nativePacketRequest lib device command = bridgePacketRequest lib device command ↔
      ¬DoublyWrong command := by
  cases intent : command.intent with
  | send channel payload options =>
      rw [nativePacketRequest_send lib intent, bridgePacketRequest_send lib intent,
        swap_iff_not_doublyWrong, DoublyWrong, intent]
  | subscribe channel options =>
      rw [nativePacketRequest_subscribe lib intent, bridgePacketRequest_subscribe lib intent,
        swap_iff_not_doublyWrong, DoublyWrong, intent]
  | unsubscribe channel =>
      simp only [DoublyWrong, intent, not_false_eq_true, iff_true]
      exact nativePacketRequest_eq_of_unsubscribe lib intent
  | read | write | invoke =>
      simp only [nativePacketRequest, bridgePacketRequest, planNative, plannerMessageForCommand,
        DoublyWrong, intent, not_false_eq_true, iff_true]
      rfl

/-- A message for a queue, with a capture made for HTTP. -/
def queueCommand : Command :=
  { id := ⟨"send-1"⟩
    sourceDeviceId := none
    targetDeviceId := ⟨"broker"⟩
    intent := .send { name := ⟨"jobs"⟩, kind := some .queue } (.string "run")
      { delivery := none, headers := [], extensions := some (TransportMeta.new .http) }
    correlation := none }

/-- The native pipeline blames the capture of the message, the bridge pipeline its channel. -/
theorem queueCommand_disagrees :
    nativePacketRequest permissiveLibrary brokerDevice queueCommand =
        .error (.foreignExtensions .http) ∧
      bridgePacketRequest permissiveLibrary brokerDevice queueCommand =
        .error (.unsupportedChannelKind .queue) ∧
      nativePacketRequest permissiveLibrary brokerDevice queueCommand ≠
        bridgePacketRequest permissiveLibrary brokerDevice queueCommand := by
  refine ⟨rfl, rfl, ?_⟩
  intro same
  exact MqttCommandConversionError.noConfusion (Except.error.inj same)

end Mqtt
end Ferredge
