import Ferredge.Mqtt.Convert

/-!
# Options of outbound commands

What a packet shows of the options of its command.  Version 3.1.1 refuses every option it has no
place for; version 5 has a place for all of them but one.
-/

namespace Ferredge

open Fallible

namespace MqttWirePacket

def publish : MqttWirePacket → Option PublishPacket
  | .v5Publish publish _ | .v3Publish publish => some publish
  | _ => none

def subscribe : MqttWirePacket → Option SubscribePacket
  | .v5Subscribe subscribe _ | .v3Subscribe subscribe => some subscribe
  | _ => none

/-- Properties of a packet; version 3.1.1 has none. -/
def props : MqttWirePacket → List MqttProperty
  | .v5Publish _ props | .v5Subscribe _ props | .v5Unsubscribe _ props => props
  | .v3Publish _ | .v3Subscribe _ | .v3Unsubscribe _ => []

end MqttWirePacket

/-- The level at which a broker gives the guarantee. -/
def DeliveryGuarantee.level : DeliveryGuarantee → Qos
  | bestEffort => .atMostOnce
  | atLeastOnce => .atLeastOnce
  | exactlyOnce => .exactlyOnce

namespace Mqtt

variable (lib : MqttLibrary) (device : MqttDevice)

/-- One of the two pipelines makes the request of the command. -/
def Encodes (command : Command) (request : MqttPacketRequest) : Prop :=
  nativePacketRequest lib device command = .ok request ∨
    bridgePacketRequest lib device command = .ok request

/-- The channel that answers to a command are sent to. -/
def replyChannel (command : Command) : Option String :=
  (command.correlation.bind Correlation.replyTo).bind channelReplyTo

/-- The packet shows every option of a message that is set: those of the capture, the delivery and
the headers of the message, and the correlation of its command.  An explicit response topic takes
the place of the reply channel, and explicit correlation data that of the request identity. -/
structure SendRepresented (command : Command) (options : BrokerMessageOptions) (view : MqttMeta)
    (publish : PublishPacket) (props : List MqttProperty) : Prop where
  delivery : ∀ guarantee, options.delivery = some guarantee → publish.qos = guarantee.level
  retain : publish.retain = view.retain
  payloadFormat : ∀ format, view.payloadFormat = some format →
    .payloadFormatIndicator format ∈ props
  contentType : ∀ contentType, view.contentType = some contentType →
    .contentType contentType ∈ props
  expiry : ∀ seconds, view.messageExpiryIntervalSecs = some seconds →
    .messageExpiryInterval seconds ∈ props
  topicAlias : ∀ value, view.topicAlias = some value → .topicAlias value ∈ props
  responseTopic : ∀ topic, view.responseTopic.or (replyChannel command) = some topic →
    .responseTopic topic ∈ props
  correlation : ∀ data,
    view.correlationData.or
      (command.correlation.map fun known => known.requestId.text.toUTF8.data.toList) = some data →
    .correlationData data ∈ props
  header : ∀ header ∈ options.headers, .userProperty header.key header.value ∈ props
  userProperty : ∀ captured, view.headers = some captured →
    ∀ header ∈ captured, .userProperty header.key header.value ∈ props

/-- The entry of a subscription and the properties of its packet show every option that is set,
except the durable name. -/
structure SubscribeRepresented (channel : BrokerAddress) (options : BrokerSubscriptionOptions)
    (view : MqttMeta) (filter : String) (entry : SubOpts) (props : List MqttProperty) : Prop where
  delivery : ∀ guarantee, options.delivery = some guarantee → entry.qos = guarantee.level
  sharedGroup : ∀ group, options.sharedGroup = some group →
    filter = "$share/" ++ group ++ "/" ++ channel.name.text
  noLocal : entry.noLocal = view.noLocal
  retainAsPublished : entry.retainAsPublished = view.retainAsPublished
  retainHandling : ∀ handling, view.retainHandling = some handling →
    entry.retainHandling = handling
  subscriptionIdentifier : ∀ identifier, view.subscriptionIdentifiers.head? = some identifier →
    .subscriptionIdentifier identifier ∈ props
  userProperty : ∀ captured, view.headers = some captured →
    ∀ header ∈ captured, .userProperty header.key header.value ∈ props

/-- The subscription without its durable name. -/
def anonymous (options : BrokerSubscriptionOptions) :
    BrokerSubscriptionOptions :=
  { options with durableName := none }

/-- The request shows the options of its command.  A packet has no field for a durable name, so the
name is shown if the request differs from the one of the subscription without the name. -/
def OptionsRepresented (command : Command) (request : MqttPacketRequest) : Prop :=
  match command.intent with
  | .send _ _ options =>
      ∃ view publish, splitMqttExtensions options.extensions = .ok view ∧
        request.packet.publish = some publish ∧
        SendRepresented command options view publish request.packet.props
  | .subscribe channel options =>
      ∃ view packetId filter entry, splitMqttExtensions options.extensions = .ok view ∧
        request.packet.subscribe = some { packetId, entries := [(filter, entry)] } ∧
        SubscribeRepresented channel options view filter entry request.packet.props ∧
        (options.durableName.isSome → ¬Encodes lib device
          { command with intent := .subscribe channel (anonymous options) } request)
  | _ => True

/-- The command is no subscription with a durable name. -/
def NoDurableName (command : Command) : Prop :=
  match command.intent with
  | .subscribe _ options => options.durableName = none
  | _ => True

/-! ## What each version has a place for -/

/-- Version 3.1.1 accepts the messages that have no properties under version 5, and only them. -/
theorem validateV3PublishSupport_eq_ok {view : PublishView} :
    validateV3PublishSupport view = .ok () ↔ v5PublishProps view = [] := by
  simp only [validateV3PublishSupport, Bool.or_eq_true, Bool.not_eq_eq_eq_not, Bool.not_true,
    List.isEmpty_eq_false_iff, ne_eq, ite_eq_right_iff, reduceCtorEq, imp_false, not_or,
    Bool.not_eq_true, Option.isSome_eq_false_iff, Option.isNone_iff_eq_none, Decidable.not_not,
    v5PublishProps, List.append_eq_nil_iff, Option.toList_eq_nil_iff, Option.map_eq_none_iff,
    Option.or_eq_none_iff, List.map_eq_nil_iff]
  tauto

/-- Version 3.1.1 accepts the subscriptions that have no properties under version 5 and none of the
other options that it lacks, and only them. -/
theorem validateV3SubscribeSupport_eq_ok {view : SubscribeView} :
    validateV3SubscribeSupport view = .ok () ↔
      v5SubscribeProps view = [] ∧ view.durableName = none ∧ view.sharedGroup = none ∧
        view.noLocal = false ∧ view.retainAsPublished = false ∧ view.retainHandling = none := by
  simp only [validateV3SubscribeSupport, Bool.or_eq_true, Bool.not_eq_eq_eq_not, Bool.not_true,
    List.isEmpty_eq_false_iff, ne_eq, ite_eq_right_iff, reduceCtorEq, imp_false, not_or,
    Bool.not_eq_true, Option.isSome_eq_false_iff, Option.isNone_iff_eq_none, Decidable.not_not,
    v5SubscribeProps, List.append_eq_nil_iff, Option.toList_eq_nil_iff, Option.map_eq_none_iff,
    List.map_eq_nil_iff]
  tauto

variable {lib device} {command : Command} {request : MqttPacketRequest}

theorem buildProps_eq_ok {props pushed : List MqttProperty}
    (built : buildProps lib props = .ok pushed) : pushed = props := by
  have kept := mapM_eq_ok.mp built
  clear built
  induction kept with
  | nil => rfl
  | cons accepted _ ih =>
      obtain ⟨-, -, rfl⟩ := map_eq_ok.mp accepted
      rw [ih]

theorem finish_eq_ok {commandId : CommandId} {packet : MqttWirePacket}
    (built : finish lib commandId packet = .ok request) : request.packet = packet := by
  obtain ⟨-, -, rfl⟩ := map_eq_ok.mp built
  rfl

/-- A message that is encoded has the properties of version 5, whatever the version is. -/
theorem buildPublishPacket_eq_ok {view : PublishView} {version : MqttProtocolVersion}
    (built : buildPublishPacket lib view version = .ok request) :
    ∃ publish, request.packet.publish = some publish ∧
      publish.qos = qosFromDelivery view.delivery ∧ publish.retain = view.retain ∧
      request.packet.props = v5PublishProps view := by
  cases version with
  | v5_0 =>
      obtain ⟨props, pushed, named⟩ := bind_eq_ok.mp built
      obtain ⟨-, -, finished⟩ := bind_eq_ok.mp named
      rw [finish_eq_ok finished, buildProps_eq_ok pushed]
      exact ⟨_, rfl, rfl, rfl, rfl⟩
  | v3_1_1 =>
      obtain ⟨⟨⟩, supported, named⟩ := bind_eq_ok.mp built
      obtain ⟨-, -, finished⟩ := bind_eq_ok.mp named
      rw [finish_eq_ok finished, validateV3PublishSupport_eq_ok.mp supported]
      exact ⟨_, rfl, rfl, rfl, rfl⟩

/-- A subscription that is encoded has the properties of version 5, whatever the version is, and
under version 3.1.1 it has no durable name. -/
theorem buildSubscribePacket_eq_ok {view : SubscribeView} {version : MqttProtocolVersion}
    (built : buildSubscribePacket lib view version = .ok request) :
    request.packet.subscribe = some
        { packetId := 1
          entries := [(mqttTopicFromSubscriptionParts view.topic view.sharedGroup,
            { qos := qosFromDelivery view.delivery
              noLocal := view.noLocal
              retainAsPublished := view.retainAsPublished
              retainHandling := view.retainHandling.getD .sendRetained })] } ∧
      request.packet.props = v5SubscribeProps view ∧
      (version = .v5_0 ∨ view.durableName = none) := by
  obtain ⟨-, -, entered⟩ := bind_eq_ok.mp built
  cases version with
  | v5_0 =>
      obtain ⟨props, pushed, finished⟩ := bind_eq_ok.mp entered
      rw [finish_eq_ok finished, buildProps_eq_ok pushed]
      exact ⟨rfl, rfl, .inl rfl⟩
  | v3_1_1 =>
      obtain ⟨⟨⟩, supported, finished⟩ := bind_eq_ok.mp entered
      obtain ⟨noProps, noName, -⟩ := validateV3SubscribeSupport_eq_ok.mp supported
      rw [finish_eq_ok finished, noProps]
      exact ⟨rfl, rfl, .inr noName⟩

/-! ## What the request of a command shows -/

theorem encodes_send {channel : BrokerAddress} {payload : PayloadValue}
    {options : BrokerMessageOptions} (intent : command.intent = .send channel payload options) :
    Encodes lib device command request ↔
      ∃ view, splitMqttExtensions options.extensions = .ok view ∧
        checkChannelKind channel = .ok () ∧
        publishAccepted lib device command channel payload options view = .ok request := by
  rw [Encodes, nativePacketRequest_send lib intent, bridgePacketRequest_send lib intent,
    bind_check_eq_ok]

theorem encodes_subscribe {channel : BrokerAddress} {options : BrokerSubscriptionOptions}
    (intent : command.intent = .subscribe channel options) :
    Encodes lib device command request ↔
      ∃ view, splitMqttExtensions options.extensions = .ok view ∧
        checkChannelKind channel = .ok () ∧
        subscribeAccepted lib device command channel options view = .ok request := by
  rw [Encodes, nativePacketRequest_subscribe lib intent, bridgePacketRequest_subscribe lib intent,
    bind_check_eq_ok]

theorem qosFromDelivery_some (guarantee : DeliveryGuarantee) :
    qosFromDelivery (some guarantee) = guarantee.level := by
  cases guarantee <;> rfl

theorem correlationData_mem {view : PublishView} {data : Bytes}
    (asked : view.correlationData.or
      (view.correlationId.map fun value => value.toUTF8.data.toList) = some data) :
    .correlationData data ∈ v5PublishProps view := by
  simp only [v5PublishProps, ← Option.or_assoc, asked, Option.some_or, Option.map_some,
    Option.toList_some, List.mem_append, List.mem_singleton, true_or, or_true]

theorem header_mem {headers : Headers} {header : Header} (listed : header ∈ headers) :
    .userProperty header.key header.value ∈
      (headerPairs headers).map fun pair => MqttProperty.userProperty pair.1 pair.2 :=
  List.mem_map.mpr ⟨(header.key, header.value), List.mem_map_of_mem listed, rfl⟩

theorem sendRepresented {channel : BrokerAddress} {payload : PayloadValue}
    {options : BrokerMessageOptions} {view : MqttMeta}
    (decoded : splitMqttExtensions options.extensions = .ok view)
    (built : publishAccepted lib device command channel payload options view = .ok request) :
    ∃ publish, request.packet.publish = some publish ∧
      SendRepresented command options view publish request.packet.props := by
  obtain ⟨bytes, -, built⟩ := bind_eq_ok.mp built
  obtain ⟨publish, present, qos, retain, props⟩ := buildPublishPacket_eq_ok built
  have captured := splitMqttExtensions_headers decoded
  refine ⟨publish, present, ?_⟩
  rw [props]
  constructor
  · intro guarantee asked
    rw [qos, asked, qosFromDelivery_some]
  · exact retain
  · intro format asked
    simp [v5PublishProps, asked]
  · intro contentType asked
    simp [v5PublishProps, asked]
  · intro seconds asked
    simp [v5PublishProps, asked]
  · intro value asked
    simp [v5PublishProps, asked]
  · intro topic asked
    rw [replyChannel] at asked
    simp [v5PublishProps, asked]
  · intro data asked
    refine correlationData_mem ?_
    rw [Option.map_map]
    exact asked
  · intro header listed
    exact List.mem_append_right _ (header_mem (List.mem_append_left _ listed))
  · intro headers asked header listed
    rw [asked] at captured
    refine List.mem_append_right _ (header_mem (List.mem_append_right _ ?_))
    rwa [← captured, Option.getD_some]

theorem subscribeRepresented {channel : BrokerAddress} {options : BrokerSubscriptionOptions}
    {view : MqttMeta} (decoded : splitMqttExtensions options.extensions = .ok view)
    (built : subscribeAccepted lib device command channel options view = .ok request) :
    ∃ packetId filter entry,
      request.packet.subscribe = some { packetId, entries := [(filter, entry)] } ∧
      SubscribeRepresented channel options view filter entry request.packet.props := by
  obtain ⟨present, props, -⟩ := buildSubscribePacket_eq_ok built
  have captured := splitMqttExtensions_headers decoded
  refine ⟨_, _, _, present, ?_⟩
  rw [props]
  constructor
  · intro guarantee asked
    change qosFromDelivery options.delivery = _
    rw [asked, qosFromDelivery_some]
  · intro group asked
    change mqttTopicFromSubscriptionParts channel.name.text options.sharedGroup = _
    rw [asked, mqttTopicFromSubscriptionParts]
  · rfl
  · rfl
  · intro handling asked
    change view.retainHandling.getD .sendRetained = handling
    rw [asked, Option.getD_some]
  · intro identifier asked
    simp [v5SubscribeProps, asked]
  · intro headers asked header listed
    rw [asked] at captured
    refine List.mem_append_right _ (header_mem ?_)
    rwa [List.nil_append, ← captured, Option.getD_some]

/-- A request shows the options of its command exactly when that is no subscription with a durable
name: version 3.1.1 refuses such a subscription, and version 5 forgets the name. -/
theorem optionsRepresented_iff (encoded : Encodes lib device command request) :
    OptionsRepresented lib device command request ↔ NoDurableName command := by
  cases intent : command.intent with
  | send channel payload options =>
      simp only [OptionsRepresented, NoDurableName, intent]
      obtain ⟨view, decoded, -, built⟩ := (encodes_send intent).mp encoded
      obtain ⟨publish, present, represented⟩ := sendRepresented decoded built
      exact iff_of_true ⟨view, publish, decoded, present, represented⟩ trivial
  | subscribe channel options =>
      simp only [OptionsRepresented, NoDurableName, intent]
      obtain ⟨view, decoded, allowed, built⟩ := (encodes_subscribe intent).mp encoded
      obtain ⟨packetId, filter, entry, present, represented⟩ := subscribeRepresented decoded built
      constructor
      · rintro ⟨-, -, -, -, -, -, -, shown⟩
        by_contra named
        refine shown (Option.isSome_iff_ne_none.mpr named) ?_
        obtain newer | unnamed := (buildSubscribePacket_eq_ok built).2.2
        · have unnamed : ({ command with intent := .subscribe channel (anonymous options) } :
              Command).intent = .subscribe channel (anonymous options) := rfl
          refine (encodes_subscribe unnamed).mpr ⟨view, decoded, allowed, ?_⟩
          rw [subscribeAccepted, newer] at built ⊢
          exact built
        · exact absurd unnamed named
      · intro unnamed
        refine ⟨view, packetId, filter, entry, decoded, present, represented, ?_⟩
        intro named
        rw [unnamed] at named
        cases named
  | unsubscribe | read | write | invoke =>
      simp only [OptionsRepresented, NoDurableName, intent]

/-- A subscription of a group of workers. -/
def workerSubscription (durableName : Option String) : Command :=
  { id := ⟨"subscribe-1"⟩
    sourceDeviceId := none
    targetDeviceId := ⟨"broker"⟩
    intent := .subscribe { name := ⟨"jobs"⟩, kind := none }
      { delivery := some .atLeastOnce
        durableName
        sharedGroup := some "workers"
        extensions := none }
    correlation := none }

theorem workerSubscription_represented :
    ∃ request, Encodes permissiveLibrary brokerDevice (workerSubscription none) request ∧
      OptionsRepresented permissiveLibrary brokerDevice (workerSubscription none) request := by
  have encoded : Encodes permissiveLibrary brokerDevice (workerSubscription none) _ := .inl rfl
  exact ⟨_, encoded, (optionsRepresented_iff encoded).mpr rfl⟩

/-- Under version 5 the same request is made with the durable name and without it. -/
theorem durableName_forgotten :
    ∃ request, Encodes permissiveLibrary brokerDevice (workerSubscription (some "night")) request ∧
      ¬OptionsRepresented permissiveLibrary brokerDevice (workerSubscription (some "night"))
        request := by
  refine ⟨_, .inl rfl, ?_⟩
  rintro ⟨-, -, -, -, -, -, -, shown⟩
  exact shown rfl (.inl rfl)

end Mqtt
end Ferredge
