import Ferredge.Mqtt.CaptureKeys

/-!
# Captures of MQTT options

Publish and subscription options travel in a capture of their own.  Its view holds the options and
nothing else.
-/

namespace Ferredge

/-- MQTT-specific broker send options encoded into the transport capture. -/
structure MqttMessageOptions where
  retain : Bool
  payloadFormat : Option MqttPayloadFormat
  contentType : Option String
  messageExpiryIntervalSecs : Option UInt32
  topicAlias : Option UInt16
  userProperties : List (String × String)
  responseTopic : Option String
  correlationData : Option Bytes
  deriving DecidableEq

/-- MQTT-specific broker subscription options encoded into the transport capture. -/
structure MqttSubscriptionOptions where
  noLocal : Bool
  retainAsPublished : Bool
  retainHandling : Option MqttRetainHandling
  subscriptionIdentifier : Option UInt32
  userProperties : List (String × String)
  deriving DecidableEq

open MqttMeta TransportMeta

/-- User properties travel as headers, unless there are none. -/
def userHeaders (userProperties : List (String × String)) : Option Headers :=
  if userProperties.isEmpty then none
  else some (userProperties.map fun property => { key := property.1, value := property.2 })

/-- Encodes publish options as an open MQTT transport capture. -/
def MqttMessageOptions.intoTransportMeta (options : MqttMessageOptions) : TransportMeta :=
  ((TransportMeta.new .mqtt).store
    [ ("retain", flagValue options.retain),
      ("payload-format", options.payloadFormat.map fun format => .str (payloadFormatName format)),
      ("content-type", options.contentType.map .str),
      ("message-expiry-interval-secs",
        options.messageExpiryIntervalSecs.map fun expiry => .u64 expiry.toUInt64),
      ("topic-alias", options.topicAlias.map fun topicAlias => .u64 topicAlias.toUInt64),
      ("response-topic", options.responseTopic.map .str),
      ("correlation-data", options.correlationData.map .bytes) ]).withHeaders
    (userHeaders options.userProperties)

/-- Encodes subscription options as an open MQTT transport capture. -/
def MqttSubscriptionOptions.intoTransportMeta (options : MqttSubscriptionOptions) :
    TransportMeta :=
  ((TransportMeta.new .mqtt).store
    [ ("no-local", flagValue options.noLocal),
      ("retain-as-published", flagValue options.retainAsPublished),
      ("retain-handling",
        options.retainHandling.map fun policy => .u64 (retainHandlingCode policy)),
      ("subscription-identifiers",
        options.subscriptionIdentifier.map fun identifier => .u64List [identifier.toUInt64]) ]
    ).withHeaders (userHeaders options.userProperties)

/-- The view of publish options. -/
def MqttMessageOptions.decoded (options : MqttMessageOptions) : MqttMeta :=
  { MqttMeta.default with
    retain := options.retain
    payloadFormat := options.payloadFormat
    contentType := options.contentType
    messageExpiryIntervalSecs := options.messageExpiryIntervalSecs
    topicAlias := options.topicAlias
    responseTopic := options.responseTopic
    correlationData := options.correlationData
    headers := userHeaders options.userProperties }

/-- The view of subscription options. -/
def MqttSubscriptionOptions.decoded (options : MqttSubscriptionOptions) : MqttMeta :=
  { MqttMeta.default with
    noLocal := options.noLocal
    retainAsPublished := options.retainAsPublished
    retainHandling := options.retainHandling
    subscriptionIdentifiers := options.subscriptionIdentifier.toList
    headers := userHeaders options.userProperties }

/-- A flag is found as it was stored. -/
theorem flagValue_cases (flag : Bool) :
    flagValue flag = some (.bool flag) ∨ flagValue flag = none ∧ flag = false := by
  cases flag
  · exact .inr ⟨rfl, rfl⟩
  · exact .inl rfl

theorem MqttMessageOptions.tryFromTransportMeta_intoTransportMeta (options : MqttMessageOptions) :
    tryFromTransportMeta options.intoTransportMeta = .ok options.decoded := by
  rw [MqttMeta.decodesFirst.reads]
  refine ⟨protocol_store _ _, rfl, ?_⟩
  simp only [documented, List.forall_mem_cons]
  simp [Documented.text, Documented.number, Documented.flag, Documented.list, intoTransportMeta,
    get_withHeaders, get_store, get_new, decoded, MqttMeta.default, Function.comp_def,
    flagValue_cases]

theorem MqttSubscriptionOptions.tryFromTransportMeta_intoTransportMeta
    (options : MqttSubscriptionOptions) :
    tryFromTransportMeta options.intoTransportMeta = .ok options.decoded := by
  obtain ⟨noLocal, retainAsPublished, retainHandling, identifier, userProperties⟩ := options
  rw [MqttMeta.decodesFirst.reads]
  refine ⟨protocol_store _ _, rfl, ?_⟩
  simp only [documented, List.forall_mem_cons]
  cases identifier <;>
    simp [Documented.text, Documented.number, Documented.flag, Documented.list, intoTransportMeta,
      get_withHeaders, get_store, get_new, decoded, MqttMeta.default, Function.comp_def,
      flagValue_cases]

end Ferredge
