import Ferredge.Mqtt.CaptureKeys
import Ferredge.Mqtt.Replies

/-!
# Captures of replies

A PUBLISH is captured in one way when it is an event and in another when it is a reply: the reply's
capture has the text under which the request waited, and not the correlation data that arrived.
-/

namespace Ferredge

theorem MqttMeta.get_correlationData (view : MqttMeta) :
    view.intoTransportMeta.get "correlation-data" = view.correlationData.map .bytes := by
  have decoded := (decodesFirst.reads _ _).mp (tryFromTransportMeta_intoTransportMeta view)
  exact decoded.2.2
    { key := "correlation-data"
      admits := fun value => ∃ bytes, value = .bytes bytes
      holds := fun first view => first = view.correlationData.map .bytes } (by simp [documented])

namespace Mqtt

/-! ## The capture with given correlation data -/

/-- Notes a property, except for correlation data where there are some already. -/
def PublishFields.noteUnlessPresent (fields : PublishFields) : MqttProperty → PublishFields
  | .correlationData data =>
      if fields.correlationData.isNone then fields.note (.correlationData data) else fields
  | property => fields.note property

def mqttMetaFromV5Publish (publish : PublishPacket) (duplicate : Bool) (props : List MqttProperty)
    (correlationOverride : Option String) : TransportMeta :=
  let fields := props.foldl PublishFields.noteUnlessPresent
    { PublishFields.empty with correlationData := correlationOverride.map Utf8.encode }
  (publishMeta publish duplicate fields).intoTransportMeta

/-- Correlation data that are given stay, and the other fields are noted as ever. -/
theorem PublishFields.foldl_noteUnlessPresent (props : List MqttProperty) (fields : PublishFields)
    (data : Bytes) :
    props.foldl noteUnlessPresent { fields with correlationData := some data } =
      { props.foldl note fields with correlationData := some data } := by
  induction props generalizing fields with
  | nil => rfl
  | cons property props ih =>
      have noted : noteUnlessPresent { fields with correlationData := some data } property =
          { fields.note property with correlationData := some data } := by
        cases property <;> rfl
      rw [List.foldl_cons, noted, ih, List.foldl_cons]

theorem mqttMetaFromV5Publish_some (publish : PublishPacket) (duplicate : Bool)
    (props : List MqttProperty) (correlationKey : String) :
    mqttMetaFromV5Publish publish duplicate props (some correlationKey) =
      (publishMeta publish duplicate
        { PublishFields.ofProps props with
          correlationData := some (Utf8.encode correlationKey) }).intoTransportMeta := by
  rw [PublishFields.ofProps, ← PublishFields.foldl_noteUnlessPresent]
  rfl

/-- A reply's result has the capture with the text under which the request waited. -/
theorem transport_replyResult (deviceId : DeviceId) (route : PendingReplyRoute)
    (correlationKey : String) (publish : PublishPacket) (duplicate : Bool)
    (props : List MqttProperty) :
    (replyResult deviceId route correlationKey publish duplicate props).transport =
      some (mqttMetaFromV5Publish publish duplicate props (some correlationKey)) := by
  rw [mqttMetaFromV5Publish_some]
  rfl

/-! ## Correlation data that occur once -/

def correlationDataOf : MqttProperty → Option Bytes
  | .correlationData data => some data
  | _ => none

theorem firstCorrelationData_eq_head? (props : List MqttProperty) :
    firstCorrelationData props = (props.filterMap correlationDataOf).head? := by
  rw [List.head?_filterMap]
  rfl

theorem PublishFields.correlationData_foldl_note (props : List MqttProperty)
    (fields : PublishFields) :
    (props.foldl note fields).correlationData =
      (props.filterMap correlationDataOf).getLast?.or fields.correlationData := by
  induction props using List.reverseRecOn with
  | nil => rfl
  | append_singleton props property ih =>
      rw [List.foldl_append, List.filterMap_append, List.getLast?_append]
      cases property with
      | correlationData data => rfl
      | _ => exact ih

/-- Of correlation data that occur once the first are the last. -/
theorem correlationData_ofProps {props : List MqttProperty}
    (once : (props.filterMap correlationDataOf).length ≤ 1) :
    (PublishFields.ofProps props).correlationData = firstCorrelationData props := by
  rw [PublishFields.ofProps, PublishFields.correlationData_foldl_note,
    firstCorrelationData_eq_head?]
  match props.filterMap correlationDataOf, once with
  | [], _ => rfl
  | [_], _ => rfl

/-! ## Replies and events -/

/-- As a reply and as an event a PUBLISH has the same capture, with the correlation data that
arrived. -/
structure CapturedAlike (publish : PublishPacket) (duplicate : Bool) (props : List MqttProperty) :
    Prop where
  same : ∀ deviceId data, firstCorrelationData props = some data →
    some (mqttMetaFromV5Publish publish duplicate props (some (Utf8.fromUtf8Lossy data))) =
      (routedEventFromV5Publish deviceId publish duplicate props).transport
  raw : ∀ data, firstCorrelationData props = some data →
    (mqttMetaFromV5Publish publish duplicate props (some (Utf8.fromUtf8Lossy data))).get
      "correlation-data" = some (.bytes data)
  routed : ∀ (decoder : MqttInboundDecoder) result,
    (decoder.decode (.v5Publish publish duplicate props)).1 = .result result →
      result.transport =
        (routedEventFromV5Publish decoder.deviceId publish duplicate props).transport

section Publish

variable (publish : PublishPacket) (duplicate : Bool) {props : List MqttProperty}

theorem get_correlationData_of_reply (correlationKey : String) :
    (mqttMetaFromV5Publish publish duplicate props (some correlationKey)).get "correlation-data" =
      some (.bytes (Utf8.encode correlationKey)) := by
  rw [mqttMetaFromV5Publish_some, MqttMeta.get_correlationData]
  rfl

/-- A PUBLISH whose correlation data are the bytes of a text has the same capture as a reply to
that text and as an event. -/
theorem transport_eq_of_text (deviceId : DeviceId)
    (once : (props.filterMap correlationDataOf).length ≤ 1) {text : String}
    (carried : firstCorrelationData props = some (Utf8.encode text)) :
    some (mqttMetaFromV5Publish publish duplicate props (some text)) =
      (routedEventFromV5Publish deviceId publish duplicate props).transport := by
  have noted := correlationData_ofProps once
  rw [carried] at noted
  rw [mqttMetaFromV5Publish_some, ← noted]
  rfl

/-- Only a PUBLISH with correlation data becomes a result, with the capture of a reply to their
text. -/
theorem exists_key_of_result {decoder : MqttInboundDecoder} {result : RoutedResult}
    (replied : (decoder.decode (.v5Publish publish duplicate props)).1 = .result result) :
    ∃ data, firstCorrelationData props = some data ∧
      result.transport =
        some (mqttMetaFromV5Publish publish duplicate props (some (Utf8.fromUtf8Lossy data))) := by
  rcases MqttInboundDecoder.answered_cases decoder.pendingReplyRoutes props with
    unanswered | ⟨data, route, carried, found⟩
  · rw [MqttInboundDecoder.decode_unanswered _ _ _ unanswered] at replied
    cases replied
  · rw [MqttInboundDecoder.decode_answered _ _ _ carried found] at replied
    cases replied
    exact ⟨data, carried, transport_replyResult _ _ _ _ _ _⟩

/-- A PUBLISH in which correlation data occur at most once is captured alike exactly if they are
the bytes of a text.  Other properties may occur more often. -/
theorem capturedAlike_iff (once : (props.filterMap correlationDataOf).length ≤ 1) :
    CapturedAlike publish duplicate props ↔
      ∀ data, firstCorrelationData props = some data → ∃ text, Utf8.encode text = data := by
  constructor
  · intro alike data carried
    have stored := alike.raw data carried
    rw [get_correlationData_of_reply] at stored
    exact ⟨_, MetaValue.bytes.inj (Option.some.inj stored)⟩
  · intro texts
    have same (deviceId : DeviceId) (data : Bytes)
        (carried : firstCorrelationData props = some data) :
        some (mqttMetaFromV5Publish publish duplicate props (some (Utf8.fromUtf8Lossy data))) =
          (routedEventFromV5Publish deviceId publish duplicate props).transport := by
      obtain ⟨text, rfl⟩ := texts data carried
      rw [Utf8.fromUtf8Lossy_encode]
      exact transport_eq_of_text publish duplicate deviceId once carried
    refine ⟨same, ?_, ?_⟩
    · intro data carried
      obtain ⟨text, rfl⟩ := texts data carried
      rw [get_correlationData_of_reply, Utf8.fromUtf8Lossy_encode]
    · intro decoder result replied
      obtain ⟨data, carried, captured⟩ := exists_key_of_result publish duplicate replied
      exact captured.trans (same decoder.deviceId data carried)

end Publish

/-- A PUBLISH on the topic for replies. -/
def plainReply : PublishPacket :=
  { topicName := "plant/replies"
    qos := .atMostOnce
    retain := false
    payload := []
    packetId := none }

/-- Correlation data that are a text are captured as they arrived. -/
theorem textReply_capturedAlike :
    CapturedAlike plainReply false
      [.userProperty "unit" "bar", .correlationData (Utf8.encode "read-1")] := by
  refine (capturedAlike_iff _ _ (by decide)).mpr ?_
  intro data carried
  exact ⟨"read-1", Option.some.inj carried⟩

/-- The byte 255 is replaced in the capture of the reply. -/
theorem illFormedReply_rewritten :
    ¬CapturedAlike plainReply false [.correlationData [255]] := by
  intro alike
  have stored := alike.raw [255] rfl
  rw [get_correlationData_of_reply] at stored
  exact absurd (MetaValue.bytes.inj (Option.some.inj stored)) (by decide +kernel)

end Mqtt
end Ferredge
