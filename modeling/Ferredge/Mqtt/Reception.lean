import Ferredge.Mqtt.Decoder
import Ferredge.Mqtt.Options

/-!
# Messages on another node

What a message says once the node that receives it has decoded its PUBLISH.
-/

namespace Ferredge

open Fallible

namespace Mqtt

/-! ## Properties that are read back -/

namespace PublishFields

theorem foldl_note_option {α : Type} (fields : PublishFields) (item : Option α)
    (make : α → MqttProperty) (setField : Option α → PublishFields)
    (absent : setField none = fields)
    (present : ∀ value, fields.note (make value) = setField (some value)) :
    (item.map make).toList.foldl note fields = setField item := by
  cases item with
  | none => exact absent.symm
  | some value => exact present value

theorem foldl_note_userProperties (fields : PublishFields) (pairs : List (String × String)) :
    (pairs.map fun pair => MqttProperty.userProperty pair.1 pair.2).foldl note fields =
      { fields with userProperties := fields.userProperties ++ pairs } := by
  induction pairs generalizing fields with
  | nil => simp
  | cons pair pairs ih =>
      rw [List.map_cons, List.foldl_cons, ih]
      simp [note]

end PublishFields

/-- The correlation data of a PUBLISH. -/
def sentCorrelationData (view : PublishView) : Option Bytes :=
  view.correlationData.or <|
    (view.correlationId.map fun value => value.toUTF8.data.toList).or <|
      if view.replyTo.isSome || view.responseTopic.isSome then
        some view.commandId.text.toUTF8.data.toList
      else none

/-- The properties of a PUBLISH say what its view said. -/
theorem ofProps_v5PublishProps (view : PublishView) :
    PublishFields.ofProps (v5PublishProps view) =
      { correlationData := sentCorrelationData view
        responseTopic := view.responseTopic.or view.replyTo
        contentType := view.contentType
        payloadFormat := view.payloadFormat
        messageExpiryIntervalSecs := view.messageExpiryIntervalSecs
        topicAlias := view.topicAlias
        subscriptionIdentifiers := []
        userProperties := view.projectedUserProperties } := by
  let fields := PublishFields.empty
  have format := PublishFields.foldl_note_option fields view.payloadFormat
    .payloadFormatIndicator (fun payloadFormat => { fields with payloadFormat }) rfl
    fun value => rfl
  let fields := { fields with payloadFormat := view.payloadFormat }
  have expiry := PublishFields.foldl_note_option fields view.messageExpiryIntervalSecs
    .messageExpiryInterval
    (fun messageExpiryIntervalSecs => { fields with messageExpiryIntervalSecs }) rfl
    fun value => rfl
  let fields := { fields with messageExpiryIntervalSecs := view.messageExpiryIntervalSecs }
  have topicAlias := PublishFields.foldl_note_option fields view.topicAlias .topicAlias
    (fun topicAlias => { fields with topicAlias }) rfl fun value => rfl
  let fields := { fields with topicAlias := view.topicAlias }
  have responseTopic := PublishFields.foldl_note_option fields
    (view.responseTopic.or view.replyTo) .responseTopic
    (fun responseTopic => { fields with responseTopic }) rfl fun value => rfl
  let fields := { fields with responseTopic := view.responseTopic.or view.replyTo }
  have contentType := PublishFields.foldl_note_option fields view.contentType .contentType
    (fun contentType => { fields with contentType }) rfl fun value => rfl
  let fields := { fields with contentType := view.contentType }
  have correlationData := PublishFields.foldl_note_option fields (sentCorrelationData view)
    .correlationData (fun correlationData => { fields with correlationData }) rfl
    fun value => rfl
  let fields := { fields with correlationData := sentCorrelationData view }
  have userProperties := PublishFields.foldl_note_userProperties fields
    view.projectedUserProperties
  rw [sentCorrelationData] at correlationData
  simp only [PublishFields.ofProps, v5PublishProps, List.foldl_append]
  rw [format, expiry, topicAlias, responseTopic, contentType, correlationData]
  exact userProperties

/-! ## Accepted messages -/

variable (lib : MqttLibrary)

/-- The PUBLISH of an accepted message. -/
theorem buildPublishPacket_v5_eq_ok {lib : MqttLibrary} {view : PublishView}
    {request : MqttPacketRequest} (accepted : buildPublishPacket lib view .v5_0 = .ok request) :
    request.packet = .v5Publish
      { topicName := view.topic
        qos := qosFromDelivery view.delivery
        retain := view.retain
        payload := view.payload
        packetId := packetIdForQos (qosFromDelivery view.delivery) }
      (v5PublishProps view) := by
  rw [buildPublishPacket] at accepted
  obtain ⟨props, built, accepted⟩ := bind_eq_ok.mp accepted
  obtain ⟨_, -, finished⟩ := bind_eq_ok.mp accepted
  rw [finish_eq_ok finished, buildProps_eq_ok built]

/-! ## The message as it is received -/

/-- The topic on which a message asks for replies. -/
def requestedResponseTopic (command : Command) (view : MqttMeta) : Option String :=
  view.responseTopic.or ((command.correlation.bind Correlation.replyTo).bind channelReplyTo)

/-- The data with which a message asks its replies to come back. -/
def requestedCorrelationData (command : Command) (view : MqttMeta) : Option Bytes :=
  view.correlationData.or <|
    (command.correlation.map fun correlation => Utf8.encode correlation.requestId.text).or <|
      if (requestedResponseTopic command view).isSome then some (Utf8.encode command.id.text)
      else none

theorem sentCorrelationData_eq (command : Command) (view : MqttMeta) (sent : PublishView)
    (commandId : sent.commandId = command.id)
    (replyTo : sent.replyTo = (command.correlation.bind Correlation.replyTo).bind channelReplyTo)
    (responseTopic : sent.responseTopic = view.responseTopic)
    (correlationId :
      sent.correlationId = command.correlation.map fun correlation => correlation.requestId.text)
    (correlationData : sent.correlationData = view.correlationData) :
    sentCorrelationData sent = requestedCorrelationData command view := by
  have asked : (sent.replyTo.isSome || sent.responseTopic.isSome) =
      (requestedResponseTopic command view).isSome := by
    rw [requestedResponseTopic, ← replyTo, ← responseTopic, Option.isSome_or, Bool.or_comm]
  rw [sentCorrelationData, asked, correlationId, correlationData, commandId, Option.map_map]
  rfl

/-- A reading with one header of its own and one in its capture, and with a channel for replies. -/
def readingCommand : Command :=
  { id := ⟨"send-1"⟩
    sourceDeviceId := none
    targetDeviceId := ⟨"broker"⟩
    intent := .send { name := ⟨"plant/temperature"⟩, kind := some .topic } (.string "21")
      { delivery := some .exactlyOnce
        headers := [⟨"unit", "C"⟩]
        extensions := some
          { protocol := .mqtt
            headers := some [⟨"sensor", "7"⟩]
            entries := [("retain", .bool true), ("payload-format", .str "utf8")] } }
    correlation := some { requestId := ⟨"request-9"⟩, replyTo := some (.channel "replies") } }

end Mqtt
end Ferredge
