import Ferredge.Mqtt.Replies

/-!
# Topics of replies

A request names the topic on which it expects its reply.  The decoder goes by the correlation data
alone, so that a PUBLISH on any other topic, such as the echo of the request itself, is taken for
the reply if it carries them.
-/

namespace Ferredge

open KeyedList History

namespace MqttInboundDecoder

open Mqtt

/-- The request was recorded with a response topic, and its route is pending. -/
structure AwaitsReply (deviceId : DeviceId) (before : List Input) (request : MqttPacketRequest)
    (correlationKey topic : String) : Prop where
  recorded : .record request ∈ before
  opened : pendingReplyRouteFromPacket request = some (correlationKey, replyRoute request)
  replyTo : (replyRoute request).replyTo = some (.channel topic)
  pending : lookup correlationKey (after deviceId before).pendingReplyRoutes =
    some (replyRoute request)

/-- A packet that is a PUBLISH on the topic. -/
def IsPublishOn (topic : String) (packet : MqttInboundPacket) : Prop :=
  ∃ publish duplicate props, packet = .v5Publish publish duplicate props ∧
    publish.topicName = topic

/-- Only a PUBLISH on the response topic of a request completes it. -/
structure CompletedOnTopic (deviceId : DeviceId) (before : List Input) (input : Input) :
    Prop where
  consumed : ∀ request correlationKey topic packet,
    AwaitsReply deviceId before request correlationKey topic → input = .decode packet →
    lookup correlationKey ((after deviceId before).decode packet).2.pendingReplyRoutes ≠
        some (replyRoute request) →
      IsPublishOn topic packet
  emitted : ∀ request correlationKey topic packet result,
    AwaitsReply deviceId before request correlationKey topic → input = .decode packet →
    ((after deviceId before).decode packet).1 = .result result →
    result.result.state = .completed →
    result.result.correlation =
        some { requestId := request.commandId, replyTo := some (.channel topic) } →
      IsPublishOn topic packet
  /-- A PUBLISH with the data of the request on another topic is an event. -/
  echoed : ∀ request correlationKey topic publish duplicate props data,
    AwaitsReply deviceId before request correlationKey topic →
    input = .decode (.v5Publish publish duplicate props) →
    firstCorrelationData props = some data → Utf8.fromUtf8Lossy data = correlationKey →
    publish.topicName ≠ topic →
      (after deviceId before).decode (.v5Publish publish duplicate props) =
        (.event (routedEventFromV5Publish deviceId publish duplicate props),
          after deviceId before)

/-- A PUBLISH with correlation data under whose text a request waits is on the request's response
topic. -/
def ArrivesOnTopic (deviceId : DeviceId) (before : List Input) (input : Input) : Prop :=
  ∀ publish duplicate props data route topic,
    input = .decode (.v5Publish publish duplicate props) →
    firstCorrelationData props = some data →
    lookup (Utf8.fromUtf8Lossy data) (after deviceId before).pendingReplyRoutes = some route →
    route.replyTo = some (.channel topic) → publish.topicName = topic

/-! ## Routes and the requests that opened them -/

/-- A packet leaves a route alone or is a PUBLISH with correlation data that uses it up. -/
theorem lookup_routes_decode (decoder : MqttInboundDecoder) (packet : MqttInboundPacket)
    (correlationKey : String) :
    lookup correlationKey (decoder.decode packet).2.pendingReplyRoutes =
        lookup correlationKey decoder.pendingReplyRoutes ∨
      ∃ publish duplicate props data, packet = .v5Publish publish duplicate props ∧
        firstCorrelationData props = some data ∧ Utf8.fromUtf8Lossy data = correlationKey := by
  cases carried : Input.correlation (.decode packet) with
  | none => exact .inl (congrArg _ (routes_step_of_none carried decoder))
  | some data =>
      by_cases same : correlationKey = Utf8.fromUtf8Lossy data
      · cases packet with
        | v5Publish publish duplicate props =>
            exact .inr ⟨publish, duplicate, props, data, rfl, carried, same.symm⟩
        | _ => cases carried
      · exact .inl (lookup_routes_step_of_ne carried same decoder)

/-- Every pending route was opened by a request. -/
theorem exists_request_of_lookup {deviceId : DeviceId} {history : List Input}
    {correlationKey : String} {route : PendingReplyRoute}
    (found : lookup correlationKey (after deviceId history).pendingReplyRoutes = some route) :
    ∃ request, .record request ∈ history ∧
      pendingReplyRouteFromPacket request = some (correlationKey, route) := by
  induction history using List.reverseRecOn with
  | nil => cases found
  | append_singleton before input ih =>
      have earlier (kept : lookup correlationKey (after deviceId before).pendingReplyRoutes =
          some route) : ∃ request, .record request ∈ before ++ [input] ∧
            pendingReplyRouteFromPacket request = some (correlationKey, route) := by
        obtain ⟨request, recorded, opened⟩ := ih kept
        exact ⟨request, List.mem_append_left _ recorded, opened⟩
      rw [after_snoc] at found
      cases carried : input.correlation with
      | none =>
          rw [routes_step_of_none carried] at found
          exact earlier found
      | some data =>
          by_cases same : correlationKey = Utf8.fromUtf8Lossy data
          · subst same
            cases input with
            | record request =>
                rw [step, routes_record_of_some carried, lookup_insert_self] at found
                have opened : pendingReplyRouteFromPacket request =
                    some (Utf8.fromUtf8Lossy data, replyRoute request) := by
                  rw [pendingReplyRouteFromPacket_eq]
                  exact congrArg (Option.map _) carried
                exact ⟨request, by simp, Option.some.inj found ▸ opened⟩
            | decode packet =>
                rw [step, routes_decode_of_some carried, lookup_remove_self] at found
                cases found
          · rw [lookup_routes_step_of_ne carried same] at found
            exact earlier found

/-- Only an answered PUBLISH has a result with a correlation. -/
theorem exists_route_of_correlation {decoder : MqttInboundDecoder} {packet : MqttInboundPacket}
    {result : RoutedResult} {correlation : Correlation}
    (emitted : (decoder.decode packet).1 = .result result)
    (correlated : result.result.correlation = some correlation) :
    ∃ publish duplicate props data route, packet = .v5Publish publish duplicate props ∧
      firstCorrelationData props = some data ∧
      lookup (Utf8.fromUtf8Lossy data) decoder.pendingReplyRoutes = some route ∧
      correlation = { requestId := route.commandId, replyTo := route.replyTo } := by
  cases packet with
  | v5Publish publish duplicate props =>
      rcases answered_cases decoder.pendingReplyRoutes props with
        unanswered | ⟨data, route, carried, found⟩
      · rw [decode_unanswered _ _ _ unanswered] at emitted
        cases emitted
      · rw [decode_answered _ _ _ carried found] at emitted
        cases emitted
        exact ⟨publish, duplicate, props, data, route, rfl, carried, found,
          (Option.some.inj correlated).symm⟩
  | v3Publish | other => cases emitted
  | v5Puback | v3Puback | v5Pubrec | v3Pubrec | v5Pubrel | v3Pubrel | v5Pubcomp | v3Pubcomp
  | v5Suback | v3Suback | v5Unsuback | v3Unsuback | v5Disconnect | v5Auth =>
      cases emitted
      cases correlated

theorem arrivesOnTopic_of_completedOnTopic {deviceId : DeviceId} {before : List Input}
    {input : Input} (completed : CompletedOnTopic deviceId before input) :
    ArrivesOnTopic deviceId before input := by
  rintro publish duplicate props data route topic rfl carried found replyTo
  obtain ⟨request, recorded, opened⟩ := exists_request_of_lookup found
  obtain rfl : replyRoute request = route := by
    rw [pendingReplyRouteFromPacket_eq] at opened
    obtain ⟨waiting, -, pair⟩ := Option.map_eq_some_iff.mp opened
    exact (Prod.mk.inj pair).2
  have used : lookup (Utf8.fromUtf8Lossy data) ((after deviceId before).decode
      (.v5Publish publish duplicate props)).2.pendingReplyRoutes ≠ some (replyRoute request) := by
    have correlated : Input.correlation (.decode (.v5Publish publish duplicate props)) =
        some data := carried
    rw [routes_decode_of_some correlated, lookup_remove_self]
    exact nofun
  obtain ⟨_, _, _, same, onTopic⟩ :=
    completed.consumed request _ topic _ ⟨recorded, opened, replyTo, found⟩ rfl used
  cases same
  exact onTopic

theorem completedOnTopic_of_arrivesOnTopic {deviceId : DeviceId} {before : List Input}
    {input : Input} (arrives : ArrivesOnTopic deviceId before input) :
    CompletedOnTopic deviceId before input where
  consumed := by
    rintro request correlationKey topic packet awaits rfl used
    rcases lookup_routes_decode (after deviceId before) packet correlationKey with
      same | ⟨publish, duplicate, props, data, rfl, carried, rfl⟩
    · exact absurd (same.trans awaits.pending) used
    · exact ⟨publish, duplicate, props, rfl,
        arrives publish duplicate props data _ topic rfl carried awaits.pending awaits.replyTo⟩
  emitted := by
    rintro request correlationKey topic packet result awaits rfl emitted - correlated
    obtain ⟨publish, duplicate, props, data, route, rfl, carried, found, named⟩ :=
      exists_route_of_correlation emitted correlated
    exact ⟨publish, duplicate, props, rfl, arrives publish duplicate props data route topic rfl
      carried found (congrArg Correlation.replyTo named).symm⟩
  echoed := by
    rintro request correlationKey topic publish duplicate props data awaits rfl carried rfl other
    exact absurd (arrives publish duplicate props data _ topic rfl carried awaits.pending
      awaits.replyTo) other

/-- In a run requests are completed on their response topics alone exactly if no PUBLISH with their
correlation data arrives on another topic. -/
theorem always_completedOnTopic_iff (deviceId : DeviceId) (history : List Input) :
    Always (CompletedOnTopic deviceId) history ↔ Always (ArrivesOnTopic deviceId) history := by
  constructor
  · intro completed before input later split
    exact arrivesOnTopic_of_completedOnTopic (completed before input later split)
  · intro arrives before input later split
    exact completedOnTopic_of_arrivesOnTopic (arrives before input later split)

/-- The echo of a request on its own topic. -/
def echoOf (data : Bytes) : MqttInboundPacket :=
  .v5Publish
    { topicName := "plant/requests"
      qos := .atMostOnce
      retain := false
      payload := []
      packetId := none } false [.responseTopic "plant/replies", .correlationData data]

/-- The echo of a request completes it. -/
theorem echoedRequest_completed :
    ¬Always (CompletedOnTopic ⟨"broker"⟩)
      [.record (correlatedRequest "read-1" (Utf8.encode "1")),
        .decode (echoOf (Utf8.encode "1"))] := by
  intro completed
  have last := completed [.record (correlatedRequest "read-1" (Utf8.encode "1"))] _ [] rfl
  have pending : lookup (Utf8.fromUtf8Lossy (Utf8.encode "1"))
      (after ⟨"broker"⟩ [.record (correlatedRequest "read-1"
        (Utf8.encode "1"))]).pendingReplyRoutes =
      some (replyRoute (correlatedRequest "read-1" (Utf8.encode "1"))) :=
    lookup_insert_self _ _ _
  have onTopic := arrivesOnTopic_of_completedOnTopic last _ _ _ _ _ "plant/replies" rfl rfl
    pending rfl
  exact absurd onTopic (by decide)

end MqttInboundDecoder
end Ferredge
