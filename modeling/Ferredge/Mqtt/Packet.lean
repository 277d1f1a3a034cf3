import Ferredge.Core.Device
import Ferredge.Mqtt.Meta

/-!
# MQTT packets

Outbound packets as the records of what their builders are given, and the packet library's
acceptance checks as a parameter of the model.
-/

namespace Ferredge

/-- MQTT protocol versions supported by broker configuration. -/
inductive MqttProtocolVersion where
  | v3_1_1
  | v5_0
  deriving DecidableEq

/-- MQTT-specific resource metadata placeholder. -/
structure MqttResourceAttributes where

/-- The part of the MQTT endpoint configuration that outbound traffic depends on. -/
structure MqttEndpointConfig where
  keepaliveSecs : Option UInt16
  reconnect : BrokerReconnectConfig
  supportedVersions : List MqttProtocolVersion

namespace MqttEndpointConfig

/-- Highest-preference MQTT version available in the configuration. -/
def preferredProtocolVersion (config : MqttEndpointConfig) : MqttProtocolVersion :=
  if .v5_0 ∈ config.supportedVersions then .v5_0
  else if .v3_1_1 ∈ config.supportedVersions then .v3_1_1
  else .v5_0

end MqttEndpointConfig

/-- Device definition bound to the MQTT endpoint and resource model. -/
abbrev MqttDevice := Device MqttResourceAttributes MqttEndpointConfig

/-- MQTT quality-of-service level of a packet. -/
inductive Qos where
  | atMostOnce
  | atLeastOnce
  | exactlyOnce
  deriving DecidableEq

/-- MQTT v5 properties the adapter sends. -/
inductive MqttProperty where
  | payloadFormatIndicator (format : MqttPayloadFormat)
  | messageExpiryInterval (seconds : UInt32)
  | topicAlias (value : UInt16)
  | responseTopic (topic : String)
  | contentType (contentType : String)
  | correlationData (data : Bytes)
  | userProperty (key value : String)
  | subscriptionIdentifier (identifier : UInt32)
  deriving DecidableEq

/-- Contents of a PUBLISH packet besides its properties. -/
structure PublishPacket where
  topicName : String
  qos : Qos
  retain : Bool
  payload : Bytes
  packetId : Option UInt16
  deriving DecidableEq

/-- Options of one subscription entry. -/
structure SubOpts where
  qos : Qos
  noLocal : Bool
  retainAsPublished : Bool
  retainHandling : MqttRetainHandling
  deriving DecidableEq

/-- Contents of a SUBSCRIBE packet besides its properties. -/
structure SubscribePacket where
  packetId : UInt16
  entries : List (String × SubOpts)
  deriving DecidableEq

/-- Contents of an UNSUBSCRIBE packet besides its properties. -/
structure UnsubscribePacket where
  packetId : UInt16
  entries : List String
  deriving DecidableEq

/-- Version-aware MQTT packet produced from routed commands. -/
inductive MqttWirePacket where
  | v5Publish (publish : PublishPacket) (props : List MqttProperty)
  | v3Publish (publish : PublishPacket)
  | v5Subscribe (subscribe : SubscribePacket) (props : List MqttProperty)
  | v3Subscribe (subscribe : SubscribePacket)
  | v5Unsubscribe (unsubscribe : UnsubscribePacket) (props : List MqttProperty)
  | v3Unsubscribe (unsubscribe : UnsubscribePacket)
  deriving DecidableEq

/-- Version-aware MQTT request plus the original command identity for correlation. -/
structure MqttPacketRequest where
  commandId : CommandId
  packet : MqttWirePacket
  deriving DecidableEq

/-- The packet library's checks and the payload serializer. -/
structure MqttLibrary where
  /-- Whether a PUBLISH may carry the topic name. -/
  topicName : String → Except MqttError Unit
  /-- Whether the property may carry its value. -/
  property : MqttProperty → Except MqttError Unit
  /-- Whether the filter and options form a subscription entry. -/
  subEntry : String → SubOpts → Except MqttError Unit
  /-- Whether an UNSUBSCRIBE may list the filters. -/
  filters : List String → Except MqttError Unit
  /-- Whether the builder finishes the packet. -/
  build : MqttWirePacket → Except MqttError Unit
  /-- JSON form of a payload. -/
  jsonToVec : PayloadValue → Except JsonError Bytes

namespace Mqtt

/-- A packet library without any checks. -/
def permissiveLibrary : MqttLibrary :=
  { topicName := fun _ => .ok ()
    property := fun _ => .ok ()
    subEntry := fun _ _ => .ok ()
    filters := fun _ => .ok ()
    build := fun _ => .ok ()
    jsonToVec := fun _ => .error ⟨"unsupported"⟩ }

/-- A broker device that speaks MQTT 5. -/
def brokerDevice : MqttDevice :=
  { id := ⟨"broker"⟩
    endpoint :=
      { keepaliveSecs := none, reconnect := .default, supportedVersions := [.v5_0] }
    resources := fun _ => none }

end Mqtt
end Ferredge
