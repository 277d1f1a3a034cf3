import Ferredge.Mqtt.Exchanges

/-!
# Packet identifiers of both directions

Client and broker choose the packet identifiers of their exchanges independently, so the same one
may be in use in both directions.  An acknowledgement belongs to the exchange of one direction, and
its result has to name the request of that exchange.
-/

namespace Ferredge

open KeyedList History

/-- The acknowledgements that a packet is answered with. -/
def MqttWirePacket.expects : MqttWirePacket → List AckKind
  | .v5Publish publish _ | .v3Publish publish =>
      match publish.qos with
      | .atMostOnce => []
      | .atLeastOnce => [.puback]
      | .exactlyOnce => [.pubrec, .pubcomp]
  | .v5Subscribe _ _ | .v3Subscribe _ => [.suback]
  | .v5Unsubscribe _ _ | .v3Unsubscribe _ => [.unsuback]

/-- No request is answered with a PUBREL. -/
theorem pubrel_not_mem_expects (packet : MqttWirePacket) : .pubrel ∉ packet.expects := by
  cases packet with
  | v5Publish publish | v3Publish publish =>
      rw [MqttWirePacket.expects]
      cases publish.qos <;> decide
  | v5Subscribe | v3Subscribe | v5Unsubscribe | v3Unsubscribe =>
      rw [MqttWirePacket.expects]
      decide

namespace MqttInboundDecoder

open Mqtt

/-! ## Exchanges -/

/-- The input ends the exchange of the client, or starts another one in its place. -/
def ClosesRequest (packetId : UInt16) (_ : List Input) : Input → Prop
  | .record request => packetRequestPacketId request.packet = some packetId
  | .decode packet => ∃ kind, packet.ack = some (kind, packetId) ∧
      (kind.isLast = true ∨ kind = .pubrec ∧ packet.refuses = true)

/-- The exchange of a recorded request has not ended. -/
def OpenRequest (request : MqttPacketRequest) (packetId : UInt16) (history : List Input) : Prop :=
  packetRequestPacketId request.packet = some packetId ∧
    Since (· = .record request) (ClosesRequest packetId) history

/-- The broker publishes a message of QoS 2. -/
def OpensDelivery (packetId : UInt16) : Input → Prop
  | .decode (.v5Publish publish _ _) | .decode (.v3Publish publish _) =>
      publish.qos = .exactlyOnce ∧ publish.packetId = some packetId
  | _ => False

/-- The broker releases its message. -/
def ClosesDelivery (packetId : UInt16) (_ : List Input) (input : Input) : Prop :=
  ∃ packet, input = .decode packet ∧ packet.ack = some (.pubrel, packetId)

/-- The exchange of a message of the broker has not ended. -/
def OpenDelivery (packetId : UInt16) (history : List Input) : Prop :=
  Since (OpensDelivery packetId) (ClosesDelivery packetId) history

/-- A client does not use the packet identifier of an exchange that has not ended.  A PUBREL belongs
to an exchange of the broker, and any other acknowledgement to one of the client, which is answered
in this way. -/
def Legal (before : List Input) : Input → Prop
  | .record request => ∀ packetId, packetRequestPacketId request.packet = some packetId →
      ¬∃ other, OpenRequest other packetId before
  | .decode packet => ∀ kind packetId, packet.ack = some (kind, packetId) →
      if kind = .pubrel then OpenDelivery packetId before
      else ∃ request, OpenRequest request packetId before ∧ kind ∈ request.packet.expects

/-! ## Results -/

/-- A request was recorded under the command. -/
def Recorded (commandId : CommandId) (before : List Input) : Prop :=
  ∃ request, .record request ∈ before ∧ request.commandId = commandId

/-- The packet acknowledges the exchange of a request of the command. -/
def AcknowledgesOwn (commandId : CommandId) (packet : MqttInboundPacket) (before : List Input) :
    Prop :=
  ∃ kind packetId request, packet.ack = some (kind, packetId) ∧
    OpenRequest request packetId before ∧ kind ∈ request.packet.expects ∧
    request.commandId = commandId

/-- A result for the command of a recorded request comes from an acknowledgement of the exchange of
that request. -/
def OwnResult (deviceId : DeviceId) (before : List Input) (input : Input) : Prop :=
  ∀ packet result, input = .decode packet →
    ((after deviceId before).decode packet).1 = .result result →
    Recorded result.result.commandId before →
    AcknowledgesOwn result.result.commandId packet before

/-- The identifier of a PUBREL is not that of a request that the client waits for, nor is its text
the name of a recorded command, no PUBLISH answers a reply route that a recorded command waits for,
and no recorded command has the name that the results of DISCONNECT and AUTH go by. -/
def Apart (deviceId : DeviceId) (before : List Input) : Input → Prop
  | .record _ => True
  | .decode (.v5Publish _ _ props) => ∀ correlationKey route,
      answeredRoute (after deviceId before).pendingReplyRoutes props =
        some (correlationKey, route) →
      ¬Recorded route.commandId before
  | .decode (.v5Disconnect _ _) => ¬Recorded disconnectCommandId before
  | .decode (.v5Auth _ _) => ¬Recorded authCommandId before
  | .decode packet => ∀ packetId, packet.ack = some (.pubrel, packetId) →
      lookup packetId (after deviceId before).pendingCommandIds = none ∧
        ¬Recorded ⟨toString packetId.toNat⟩ before

/-- While the exchange of a request is open, its packet identifier stands for its command. -/
theorem lookup_of_openRequest {deviceId : DeviceId} {request : MqttPacketRequest}
    {packetId : UInt16} {history : List Input} (opened : OpenRequest request packetId history) :
    lookup packetId (after deviceId history).pendingCommandIds = some request.commandId := by
  obtain ⟨known, unclosed⟩ := opened
  induction history using List.reverseRecOn with
  | nil => exact absurd unclosed not_since_nil
  | append_singleton before input ih =>
      rw [after_snoc]
      rcases since_snoc.mp unclosed with rfl | ⟨earlier, still⟩
      · rw [step, lookup_recordOutboundRequest, if_pos known]
      · cases input with
        | record other =>
            have different : packetRequestPacketId other.packet ≠ some packetId := still
            rw [step, lookup_recordOutboundRequest, if_neg different]
            exact ih earlier
        | decode packet =>
            refine (lookup_decode_of_not_last ?_ _).trans (ih earlier)
            intro kind carried
            by_contra last
            rw [Bool.not_eq_false] at last
            exact still ⟨kind, carried, .inl last⟩

/-- An acknowledgement of the client's exchange names the request of the exchange. -/
theorem acknowledgesOwn_of_legal {deviceId : DeviceId} {before : List Input}
    {packet : MqttInboundPacket} {kind : AckKind} {packetId : UInt16} {result : RoutedResult}
    (known : packet.ack = some (kind, packetId)) (client : kind ≠ .pubrel)
    (legal : Legal before (.decode packet))
    (emitted : ((after deviceId before).decode packet).1 = .result result) :
    AcknowledgesOwn result.result.commandId packet before := by
  have answered := legal kind packetId known
  rw [if_neg client] at answered
  obtain ⟨request, opened, expected⟩ := answered
  obtain ⟨same, decoded, named, -⟩ := decode_ack known (after deviceId before)
  rw [decoded] at emitted
  cases emitted
  rw [commandOfPacketId, lookup_of_openRequest opened, Option.getD_some] at named
  exact ⟨kind, packetId, request, known, opened, expected, named.symm⟩

theorem apart_pubrel {deviceId : DeviceId} {before : List Input} {packet : MqttInboundPacket}
    {packetId : UInt16} (known : packet.ack = some (.pubrel, packetId))
    (apart : Apart deviceId before (.decode packet)) :
    lookup packetId (after deviceId before).pendingCommandIds = none ∧
      ¬Recorded ⟨toString packetId.toNat⟩ before := by
  cases packet with
  | v5Pubrel | v3Pubrel => exact apart packetId known
  | _ => cases known

/-- A result for a PUBREL of the broker names no recorded command. -/
theorem not_recorded_of_pubrel {deviceId : DeviceId} {before : List Input}
    {packet : MqttInboundPacket} {packetId : UInt16} {result : RoutedResult}
    (known : packet.ack = some (.pubrel, packetId))
    (apart : Apart deviceId before (.decode packet))
    (emitted : ((after deviceId before).decode packet).1 = .result result) :
    ¬Recorded result.result.commandId before := by
  obtain ⟨unknown, unnamed⟩ := apart_pubrel known apart
  obtain ⟨same, decoded, named, -⟩ := decode_ack known (after deviceId before)
  rw [decoded] at emitted
  cases emitted
  rw [named, commandOfPacketId, unknown]
  exact unnamed

/-- Without an acknowledgement no result names a recorded command. -/
theorem not_recorded_of_no_ack {deviceId : DeviceId} {before : List Input}
    {packet : MqttInboundPacket} {result : RoutedResult} (known : packet.ack = none)
    (apart : Apart deviceId before (.decode packet))
    (emitted : ((after deviceId before).decode packet).1 = .result result) :
    ¬Recorded result.result.commandId before := by
  cases packet with
  | v5Publish publish duplicate props =>
      rw [decode, routedReplyOrEventFromV5Publish] at emitted
      cases answered : answeredRoute (after deviceId before).pendingReplyRoutes props with
      | none =>
          rw [answered] at emitted
          cases emitted
      | some pending =>
          obtain ⟨correlationKey, route⟩ := pending
          rw [answered] at emitted
          cases emitted
          exact apart correlationKey route answered
  | v3Publish => cases emitted
  | v5Disconnect | v5Auth =>
      cases emitted
      exact apart
  | other => cases emitted
  | _ => cases known

theorem ownResult_of_apart {deviceId : DeviceId} {history : List Input}
    (legal : Always Legal history) (apart : Always (Apart deviceId) history) :
    Always (OwnResult deviceId) history := by
  rintro before input later split packet result rfl emitted recorded
  have legal := legal before _ later split
  have apart := apart before _ later split
  cases known : packet.ack with
  | none => exact absurd recorded (not_recorded_of_no_ack known apart emitted)
  | some carried =>
      obtain ⟨kind, packetId⟩ := carried
      by_cases broker : kind = .pubrel
      · rw [broker] at known
        exact absurd recorded (not_recorded_of_pubrel known apart emitted)
      · exact acknowledgesOwn_of_legal known broker legal emitted

theorem acceptedHistory_attributed : Always (OwnResult ⟨"broker"⟩) acceptedHistory := by
  have opened : OpenRequest exactlyOnceRequest 1 ([] ++ [.record exactlyOnceRequest]) :=
    ⟨rfl, since_snoc.mpr (.inl rfl)⟩
  have still : OpenRequest exactlyOnceRequest 1
      [.record exactlyOnceRequest, .decode (.v5Pubrec 1 none none)] := by
    refine ⟨rfl, since_snoc.mpr (.inr ⟨opened.2, ?_⟩)⟩
    rintro ⟨kind, known, last⟩
    cases known
    rcases last with last | ⟨-, refused⟩
    · cases last
    · cases refused
  refine ownResult_of_apart (always_snoc.mpr ⟨always_snoc.mpr ⟨always_snoc.mpr ⟨always_nil, ?_⟩,
    ?_⟩, ?_⟩) (always_snoc.mpr ⟨always_snoc.mpr ⟨always_snoc.mpr ⟨always_nil, trivial⟩, ?_⟩, ?_⟩)
  · rintro packetId - ⟨other, -, opened⟩
    exact not_since_nil opened
  · rintro kind packetId ⟨⟩
    exact ⟨exactlyOnceRequest, opened, by decide⟩
  · rintro kind packetId ⟨⟩
    exact ⟨exactlyOnceRequest, still, by decide⟩
  · rintro packetId ⟨⟩
  · rintro packetId ⟨⟩

/-- Messages of QoS 2 cross each other under one identifier, and the broker releases its own before
it has acknowledged the client's. -/
def crossingHistory : List Input :=
  [.record exactlyOnceRequest,
    .decode (.v5Publish
      { topicName := "plant/commands"
        qos := .exactlyOnce
        retain := false
        payload := []
        packetId := some 1 } false []),
    .decode (.v5Pubrel 1 none none)]

theorem crossingHistory_misattributed :
    Always Legal crossingHistory ∧ ¬Always (OwnResult ⟨"broker"⟩) crossingHistory := by
  constructor
  · refine always_snoc.mpr ⟨always_snoc.mpr ⟨always_snoc.mpr ⟨always_nil, ?_⟩, ?_⟩, ?_⟩
    · rintro packetId - ⟨other, -, opened⟩
      exact not_since_nil opened
    · rintro kind packetId ⟨⟩
    · rintro kind packetId ⟨⟩
      exact since_snoc.mpr (.inl ⟨rfl, rfl⟩)
  · intro own
    have released := own [.record exactlyOnceRequest, _] _ [] rfl _ _ rfl rfl
      ⟨exactlyOnceRequest, List.mem_cons_self, by decide +kernel⟩
    obtain ⟨kind, packetId, request, known, -, expected, -⟩ := released
    cases known
    exact pubrel_not_mem_expects request.packet expected

end MqttInboundDecoder
end Ferredge
