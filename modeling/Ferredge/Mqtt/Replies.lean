import Ferredge.Mqtt.Exchanges

/-!
# Replies to requests

A request that carries correlation data waits for a PUBLISH with the same data.  The decoder finds
the waiting request by the text that the data are rendered as, which different data may share.
-/

namespace Ferredge

open KeyedList History

namespace MqttInboundDecoder

open Mqtt

/-! ## Correlation data -/

/-- The correlation data of an outbound packet. -/
def outboundCorrelation : MqttWirePacket → Option Bytes
  | .v5Publish _ props => (PublishFields.ofProps props).correlationData
  | _ => none

/-- The correlation data that an input carries. -/
def Input.correlation : Input → Option Bytes
  | .record request => outboundCorrelation request.packet
  | .decode (.v5Publish _ _ props) => firstCorrelationData props
  | .decode _ => none

/-- A request was recorded with the correlation data, and nothing carried the same data since. -/
def Outstanding (request : MqttPacketRequest) (data : Bytes) (history : List Input) : Prop :=
  outboundCorrelation request.packet = some data ∧
    Since (· = .record request) (fun _ input => input.correlation = some data) history

/-- No request waits with other data that are rendered as the same text. -/
def Separated (before : List Input) (input : Input) : Prop :=
  ∀ request data other, Outstanding request data before → input.correlation = some other →
    Utf8.fromUtf8Lossy data = Utf8.fromUtf8Lossy other → data = other

/-- The route for the reply to a request. -/
def replyRoute (request : MqttPacketRequest) : PendingReplyRoute :=
  { commandId := request.commandId
    replyTo :=
      match request.packet with
      | .v5Publish _ props => (PublishFields.ofProps props).responseTopic.map Address.channel
      | _ => none }

theorem pendingReplyRouteFromPacket_eq (request : MqttPacketRequest) :
    pendingReplyRouteFromPacket request =
      (outboundCorrelation request.packet).map fun data =>
        (Utf8.fromUtf8Lossy data, replyRoute request) := by
  rw [pendingReplyRouteFromPacket, replyRoute]
  cases request.packet <;> rfl

/-! ## What one input does -/

theorem routes_record_of_none {request : MqttPacketRequest}
    (plain : outboundCorrelation request.packet = none) (decoder : MqttInboundDecoder) :
    (decoder.recordOutboundRequest request).pendingReplyRoutes = decoder.pendingReplyRoutes := by
  rw [recordOutboundRequest, pendingReplyRouteFromPacket_eq, plain]
  rfl

theorem routes_record_of_some {request : MqttPacketRequest} {data : Bytes}
    (carried : outboundCorrelation request.packet = some data) (decoder : MqttInboundDecoder) :
    (decoder.recordOutboundRequest request).pendingReplyRoutes =
      insert (Utf8.fromUtf8Lossy data) (replyRoute request) decoder.pendingReplyRoutes := by
  rw [recordOutboundRequest, pendingReplyRouteFromPacket_eq, carried]
  rfl

theorem answeredRoute_of_none {props : List MqttProperty}
    (plain : firstCorrelationData props = none) (routes : List (String × PendingReplyRoute)) :
    answeredRoute routes props = none := by
  rw [answeredRoute, plain]
  rfl

theorem answeredRoute_of_some {props : List MqttProperty} {data : Bytes}
    (carried : firstCorrelationData props = some data)
    (routes : List (String × PendingReplyRoute)) :
    answeredRoute routes props =
      (lookup (Utf8.fromUtf8Lossy data) routes).map fun route =>
        (Utf8.fromUtf8Lossy data, route) := by
  rw [answeredRoute, carried, Option.bind_eq_bind, Option.bind_some]
  cases lookup (Utf8.fromUtf8Lossy data) routes <;> rfl

/-- A PUBLISH answers no route, or the one under the text of its correlation data. -/
theorem answered_cases (routes : List (String × PendingReplyRoute)) (props : List MqttProperty) :
    answeredRoute routes props = none ∨
      ∃ data route, firstCorrelationData props = some data ∧
        lookup (Utf8.fromUtf8Lossy data) routes = some route := by
  cases carried : firstCorrelationData props with
  | none => exact .inl (answeredRoute_of_none carried routes)
  | some data =>
      cases found : lookup (Utf8.fromUtf8Lossy data) routes with
      | none =>
          refine .inl ?_
          rw [answeredRoute_of_some carried, found]
          rfl
      | some route => exact .inr ⟨data, route, rfl, found⟩

section Publish

variable (decoder : MqttInboundDecoder) (publish : PublishPacket) (duplicate : Bool)
  {props : List MqttProperty} {data : Bytes}

/-- A PUBLISH that answers no route is an event. -/
theorem decode_unanswered (unanswered : answeredRoute decoder.pendingReplyRoutes props = none) :
    decoder.decode (.v5Publish publish duplicate props) =
      (.event (routedEventFromV5Publish decoder.deviceId publish duplicate props), decoder) := by
  rw [decode, routedReplyOrEventFromV5Publish, unanswered]

/-- A PUBLISH that answers a route is the result of the command that opened the route. -/
theorem decode_answered {route : PendingReplyRoute}
    (carried : firstCorrelationData props = some data)
    (found : lookup (Utf8.fromUtf8Lossy data) decoder.pendingReplyRoutes = some route) :
    decoder.decode (.v5Publish publish duplicate props) =
      (.result (replyResult decoder.deviceId route (Utf8.fromUtf8Lossy data) publish duplicate
          props),
        { decoder with
          pendingReplyRoutes :=
            remove (Utf8.fromUtf8Lossy data) decoder.pendingReplyRoutes }) := by
  have answered : answeredRoute decoder.pendingReplyRoutes props =
      some (Utf8.fromUtf8Lossy data, route) := by
    rw [answeredRoute_of_some carried, found]
    rfl
  rw [decode, routedReplyOrEventFromV5Publish, answered]

end Publish

/-- Only an input with correlation data touches the routes. -/
theorem routes_step_of_none {input : Input} (plain : input.correlation = none)
    (decoder : MqttInboundDecoder) :
    (decoder.step input).pendingReplyRoutes = decoder.pendingReplyRoutes := by
  cases input with
  | record request => exact routes_record_of_none plain decoder
  | decode packet =>
      cases packet with
      | v5Publish publish duplicate props =>
          rw [step, decode_unanswered decoder publish duplicate (answeredRoute_of_none plain _)]
      | _ => rfl

/-- A PUBLISH with correlation data uses up the route under the text of the data, if there is
one. -/
theorem routes_decode_of_some {packet : MqttInboundPacket} {data : Bytes}
    (carried : Input.correlation (.decode packet) = some data) (decoder : MqttInboundDecoder) :
    (decoder.decode packet).2.pendingReplyRoutes =
      remove (Utf8.fromUtf8Lossy data) decoder.pendingReplyRoutes := by
  cases packet with
  | v5Publish publish duplicate props =>
      cases found : lookup (Utf8.fromUtf8Lossy data) decoder.pendingReplyRoutes with
      | none =>
          have unanswered : answeredRoute decoder.pendingReplyRoutes props = none := by
            rw [answeredRoute_of_some carried, found]
            rfl
          rw [decode_unanswered decoder publish duplicate unanswered, remove_of_lookup_none found]
      | some route => rw [decode_answered decoder publish duplicate carried found]
  | _ => cases carried

/-- An input with correlation data leaves the routes under other texts alone. -/
theorem lookup_routes_step_of_ne {input : Input} {data : Bytes} {correlationKey : String}
    (carried : input.correlation = some data) (other : correlationKey ≠ Utf8.fromUtf8Lossy data)
    (decoder : MqttInboundDecoder) :
    lookup correlationKey (decoder.step input).pendingReplyRoutes =
      lookup correlationKey decoder.pendingReplyRoutes := by
  cases input with
  | record request => rw [step, routes_record_of_some carried, lookup_insert_of_ne other]
  | decode packet => rw [step, routes_decode_of_some carried, lookup_remove_of_ne other]

/-! ## Routes and requests -/

/-- Every request that waits has its route, and every route is that of a request that waits. -/
structure RoutesExact (deviceId : DeviceId) (history : List Input) : Prop where
  kept : ∀ request data, Outstanding request data history →
    lookup (Utf8.fromUtf8Lossy data) (after deviceId history).pendingReplyRoutes =
      some (replyRoute request)
  opened : ∀ correlationKey route,
    lookup correlationKey (after deviceId history).pendingReplyRoutes = some route →
    ∃ request data, Outstanding request data history ∧
      Utf8.fromUtf8Lossy data = correlationKey ∧ replyRoute request = route

theorem outstanding_snoc {request : MqttPacketRequest} {data : Bytes} {history : List Input}
    {input : Input} :
    Outstanding request data (history ++ [input]) ↔
      outboundCorrelation request.packet = some data ∧ input = .record request ∨
        Outstanding request data history ∧ input.correlation ≠ some data := by
  rw [Outstanding, Outstanding, since_snoc, and_or_left, and_assoc]

theorem routesExact_step_of_none {deviceId : DeviceId} {before : List Input} {input : Input}
    (exact : RoutesExact deviceId before) (plain : input.correlation = none) :
    RoutesExact deviceId (before ++ [input]) := by
  have same (request : MqttPacketRequest) (data : Bytes) :
      Outstanding request data (before ++ [input]) ↔ Outstanding request data before := by
    rw [outstanding_snoc, plain]
    constructor
    · rintro (⟨carried, rfl⟩ | ⟨waits, -⟩)
      · exact absurd (plain.symm.trans carried) (by simp)
      · exact waits
    · exact fun waits => .inr ⟨waits, by simp⟩
  have routes := routes_step_of_none plain (after deviceId before)
  rw [← after_snoc] at routes
  constructor
  · intro request data waits
    rw [routes]
    exact exact.kept request data ((same request data).mp waits)
  · intro correlationKey route found
    rw [routes] at found
    obtain ⟨request, data, waits, text, opened⟩ := exact.opened correlationKey route found
    exact ⟨request, data, (same request data).mpr waits, text, opened⟩

theorem routesExact_step_of_some {deviceId : DeviceId} {before : List Input} {input : Input}
    {data : Bytes} (exact : RoutesExact deviceId before) (separated : Separated before input)
    (carried : input.correlation = some data) : RoutesExact deviceId (before ++ [input]) := by
  have other {request : MqttPacketRequest} {waiting : Bytes}
      (waits : Outstanding request waiting before) (different : waiting ≠ data) :
      Utf8.fromUtf8Lossy waiting ≠ Utf8.fromUtf8Lossy data := fun same =>
    different (separated request waiting data waits carried same)
  have untouched {correlationKey : String} (apart : correlationKey ≠ Utf8.fromUtf8Lossy data) :
      lookup correlationKey (after deviceId (before ++ [input])).pendingReplyRoutes =
        lookup correlationKey (after deviceId before).pendingReplyRoutes := by
    rw [after_snoc]
    exact lookup_routes_step_of_ne carried apart _
  constructor
  · intro request waiting waits
    rcases outstanding_snoc.mp waits with ⟨stored, rfl⟩ | ⟨waits, different⟩
    · cases carried.symm.trans stored
      rw [after_snoc, step, routes_record_of_some stored, lookup_insert_self]
    · have different : waiting ≠ data := by
        rintro rfl
        exact different carried
      rw [untouched (other waits different)]
      exact exact.kept request waiting waits
  · intro correlationKey route found
    by_cases same : correlationKey = Utf8.fromUtf8Lossy data
    · rw [same, after_snoc] at found
      cases input with
      | record request =>
          rw [step, routes_record_of_some carried, lookup_insert_self] at found
          exact ⟨request, data, outstanding_snoc.mpr (.inl ⟨carried, rfl⟩), same.symm,
            Option.some.inj found⟩
      | decode packet =>
          rw [step, routes_decode_of_some carried, lookup_remove_self] at found
          cases found
    · rw [untouched same] at found
      obtain ⟨request, waiting, waits, text, opened⟩ := exact.opened correlationKey route found
      refine ⟨request, waiting, outstanding_snoc.mpr (.inr ⟨waits, ?_⟩), text, opened⟩
      intro closes
      cases carried.symm.trans closes
      exact same text.symm

theorem routesExact_of_separated {deviceId : DeviceId} {history : List Input}
    (separated : Always Separated history) : RoutesExact deviceId history := by
  refine separated.invariant (RoutesExact deviceId) ⟨?_, ?_⟩ ?_
  · rintro request data ⟨-, waits⟩
    exact absurd waits not_since_nil
  · intro correlationKey route found
    cases found
  · intro before input exact separated
    cases carried : input.correlation with
    | none => exact routesExact_step_of_none exact carried
    | some data => exact routesExact_step_of_some exact separated carried

/-! ## One reply for a request -/

/-- The packet is a PUBLISH, and its result names the command. -/
def replyUnder (commandId : CommandId) : MqttInboundPacket × MqttDecodedInbound → Bool
  | (.v5Publish _ _ _, .result result) => decide (result.result.commandId = commandId)
  | _ => false

/-- The input records a request of the command that waits for a reply. -/
def asksUnder (commandId : CommandId) : Input → Bool
  | .record request =>
      (outboundCorrelation request.packet).isSome && decide (request.commandId = commandId)
  | .decode _ => false

/-- The route is that of a request of the command. -/
def routeUnder (commandId : CommandId) (route : PendingReplyRoute) : Bool :=
  decide (route.commandId = commandId)

/-- A reply that names the command uses up a route of the command. -/
theorem reply_add_routes_decode (decoder : MqttInboundDecoder) (commandId : CommandId)
    (packet : MqttInboundPacket) :
    [(packet, (decoder.decode packet).1)].countP (replyUnder commandId) +
        count (routeUnder commandId) (decoder.decode packet).2.pendingReplyRoutes ≤
      count (routeUnder commandId) decoder.pendingReplyRoutes := by
  rw [List.countP_singleton]
  cases packet with
  | v5Publish publish duplicate props =>
      rcases answered_cases decoder.pendingReplyRoutes props with
        unanswered | ⟨data, route, carried, found⟩
      · rw [decode_unanswered decoder publish duplicate unanswered, replyUnder]
        · simp
        · simp
      · rw [decode_answered decoder publish duplicate carried found, replyUnder]
        by_cases same : route.commandId = commandId
        · have used : count (routeUnder commandId)
                (remove (Utf8.fromUtf8Lossy data) decoder.pendingReplyRoutes) <
              count (routeUnder commandId) decoder.pendingReplyRoutes :=
            count_remove_lt found (decide_eq_true same)
          simp only [replyResult, same, decide_true, if_true]
          omega
        · have fewer : count (routeUnder commandId)
                (remove (Utf8.fromUtf8Lossy data) decoder.pendingReplyRoutes) ≤
              count (routeUnder commandId) decoder.pendingReplyRoutes :=
            count_remove_le _ _
          simpa [replyResult, same] using fewer
  | _ => simp [replyUnder, decode, emit]

/-- Every request that asks for a reply has at most one to come. -/
theorem reply_add_routes_le (deviceId : DeviceId) (commandId : CommandId) (history : List Input) :
    ((new deviceId).outputs history).countP (replyUnder commandId) +
        count (routeUnder commandId) (after deviceId history).pendingReplyRoutes ≤
      history.countP (asksUnder commandId) := by
  induction history using List.reverseRecOn with
  | nil => exact Nat.le_refl 0
  | append_singleton before input ih =>
      rw [after_snoc, List.countP_append, List.countP_singleton]
      cases input with
      | record request =>
          rw [outputs_snoc_record, step]
          cases carried : outboundCorrelation request.packet with
          | none =>
              rw [routes_record_of_none carried]
              omega
          | some data =>
              have stored : count (routeUnder commandId)
                    (insert (Utf8.fromUtf8Lossy data) (replyRoute request)
                      (after deviceId before).pendingReplyRoutes) ≤
                  count (routeUnder commandId) (after deviceId before).pendingReplyRoutes +
                    if routeUnder commandId (replyRoute request) then 1 else 0 :=
                count_insert_le _ _ _
              have counted : asksUnder commandId (.record request) =
                  routeUnder commandId (replyRoute request) := by
                rw [asksUnder, carried, Option.isSome_some, Bool.true_and]
                rfl
              rw [routes_record_of_some carried, counted]
              omega
      | decode packet =>
          have used := reply_add_routes_decode (after deviceId before) commandId packet
          have same : before.foldl step (new deviceId) = after deviceId before := rfl
          rw [outputs_snoc_decode, same, List.countP_append, step]
          omega

/-! ## Replies by exact data -/

/-- Replies go by the exact correlation data of the requests. -/
structure RepliesExact (deviceId : DeviceId) (history : List Input) : Prop where
  /-- A reply carries the data of the request it is the reply to. -/
  attributed : Always (fun before input => ∀ publish duplicate props result,
    input = .decode (.v5Publish publish duplicate props) →
    ((after deviceId before).decode (.v5Publish publish duplicate props)).1 = .result result →
    ∃ request data, Outstanding request data before ∧ firstCorrelationData props = some data ∧
      request.commandId = result.result.commandId) history
  /-- A request that waits has the route it opened. -/
  kept : ∀ request data correlationKey route, Outstanding request data history →
    pendingReplyRouteFromPacket request = some (correlationKey, route) →
    lookup correlationKey (after deviceId history).pendingReplyRoutes = some route
  /-- A command has no more replies than requests. -/
  once : ∀ commandId, ((new deviceId).outputs history).countP (replyUnder commandId) ≤
    history.countP (asksUnder commandId)

theorem repliesExact_of_separated {deviceId : DeviceId} {history : List Input}
    (separated : Always Separated history) : RepliesExact deviceId history where
  attributed := by
    rintro before input later split publish duplicate props result rfl emitted
    have earlier : Always Separated before := (split ▸ separated).of_append
    have exact : RoutesExact deviceId before := routesExact_of_separated earlier
    rcases answered_cases (after deviceId before).pendingReplyRoutes props with
      unanswered | ⟨data, route, carried, found⟩
    · rw [decode_unanswered _ _ _ unanswered] at emitted
      cases emitted
    · rw [decode_answered _ _ _ carried found] at emitted
      cases emitted
      obtain ⟨request, waiting, waits, text, rfl⟩ := exact.opened _ _ found
      have same := separated before _ later split request waiting data waits carried text
      exact ⟨request, data, same ▸ waits, carried, rfl⟩
  kept request data correlationKey route waits opened := by
    rw [pendingReplyRouteFromPacket_eq, waits.1] at opened
    cases opened
    exact (routesExact_of_separated separated).kept request data waits
  once commandId := by
    have bounded := reply_add_routes_le deviceId commandId history
    omega

/-- Correlation data that are text are told apart. -/
theorem separated_of_text {history : List Input}
    (texts : ∀ input ∈ history, ∀ data, input.correlation = some data →
      ∃ text, Utf8.encode text = data) : Always Separated history := by
  rintro before input later rfl request data other ⟨carried, waits⟩ arrived same
  obtain ⟨_, recorded, rfl⟩ := waits.exists_mem
  obtain ⟨text, rfl⟩ := texts _ (List.mem_append_left _ recorded) data carried
  obtain ⟨otherText, rfl⟩ :=
    texts input (List.mem_append_right before List.mem_cons_self) other arrived
  rw [Utf8.fromUtf8Lossy_encode, Utf8.fromUtf8Lossy_encode] at same
  rw [same]

/-- A request with correlation data. -/
def correlatedRequest (commandId : String) (data : Bytes) : MqttPacketRequest :=
  { commandId := ⟨commandId⟩
    packet := .v5Publish
      { topicName := "plant/requests"
        qos := .atMostOnce
        retain := false
        payload := []
        packetId := none } [.responseTopic "plant/replies", .correlationData data] }

/-- A reply with correlation data. -/
def correlatedReply (data : Bytes) : MqttInboundPacket :=
  .v5Publish
    { topicName := "plant/replies"
      qos := .atMostOnce
      retain := false
      payload := []
      packetId := none } false [.correlationData data]

/-- Two requests are answered in the other order. -/
theorem crossedReplies_exact :
    RepliesExact ⟨"broker"⟩
      [.record (correlatedRequest "read-1" (Utf8.encode "1")),
        .record (correlatedRequest "read-2" (Utf8.encode "2")),
        .decode (correlatedReply (Utf8.encode "2")),
        .decode (correlatedReply (Utf8.encode "1"))] := by
  refine repliesExact_of_separated (separated_of_text ?_)
  intro input member data carried
  simp only [List.mem_cons, List.not_mem_nil, or_false] at member
  rcases member with rfl | rfl | rfl | rfl
  · exact ⟨"1", Option.some.inj carried⟩
  · exact ⟨"2", Option.some.inj carried⟩
  · exact ⟨"2", Option.some.inj carried⟩
  · exact ⟨"1", Option.some.inj carried⟩

/-- The request waits for the byte 255, and a PUBLISH with the byte 254 is taken for its reply. -/
theorem illFormedReply_inexact :
    ¬RepliesExact ⟨"broker"⟩
      [.record (correlatedRequest "read-1" [255]), .decode (correlatedReply [254])] := by
  intro exact
  have same : Utf8.fromUtf8Lossy [254] = Utf8.fromUtf8Lossy [255] := by decide +kernel
  have found : lookup (Utf8.fromUtf8Lossy [254])
      (after ⟨"broker"⟩ [.record (correlatedRequest "read-1" [255])]).pendingReplyRoutes =
        some (replyRoute (correlatedRequest "read-1" [255])) := by
    rw [same]
    exact lookup_insert_self _ _ _
  obtain ⟨request, data, ⟨carried, waits⟩, arrived, -⟩ :=
    exact.attributed [.record (correlatedRequest "read-1" [255])] _ [] rfl _ _ _ _ rfl
      (congrArg Prod.fst (decode_answered _ _ _ rfl found))
  obtain ⟨input, recorded, rfl⟩ := waits.exists_mem
  cases List.mem_singleton.mp recorded
  cases arrived
  exact absurd (Option.some.inj carried) (by decide)

end MqttInboundDecoder
end Ferredge
