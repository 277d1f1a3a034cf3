import Ferredge.History
import Ferredge.Mqtt.Decoder

/-!
# Acknowledged exchanges

A request that is recorded with a packet identifier waits for the acknowledgements that carry it.
Some acknowledgements end the exchange, and the decoder has to forget the request with them.
-/

namespace Ferredge

open KeyedList History

/-- Kinds of acknowledgement packets. -/
inductive AckKind where
  | puback
  | pubrec
  | pubrel
  | pubcomp
  | suback
  | unsuback
  deriving DecidableEq

namespace AckKind

/-- Whether an acknowledgement of the kind is the last one of its exchange. -/
def isLast : AckKind → Bool
  | .pubrec | .pubrel => false
  | _ => true

end AckKind

namespace MqttInboundPacket

/-- The kind of an acknowledgement, and the packet identifier it carries. -/
def ack : MqttInboundPacket → Option (AckKind × UInt16)
  | .v5Puback packetId _ _ | .v3Puback packetId => some (.puback, packetId)
  | .v5Pubrec packetId _ _ | .v3Pubrec packetId => some (.pubrec, packetId)
  | .v5Pubrel packetId _ _ | .v3Pubrel packetId => some (.pubrel, packetId)
  | .v5Pubcomp packetId _ _ | .v3Pubcomp packetId => some (.pubcomp, packetId)
  | .v5Suback packetId _ _ | .v3Suback packetId => some (.suback, packetId)
  | .v5Unsuback packetId _ _ | .v3Unsuback packetId => some (.unsuback, packetId)
  | _ => none

/-- A PUBREC or PUBREL that reports a failure, and so ends its exchange early. -/
def refuses : MqttInboundPacket → Bool
  | .v5Pubrec _ (some code) _ | .v5Pubrel _ (some code) _ => !code.isSuccess
  | _ => false

end MqttInboundPacket

namespace DeliveryState

/-- Nothing follows a terminal state. -/
def isTerminal : DeliveryState → Bool
  | .completed | .rejected => true
  | _ => false

end DeliveryState

namespace Mqtt

theorem reasonState_completed_isTerminal (reasonCode : Option ReasonCode) :
    (reasonState .completed reasonCode).isTerminal = true := by
  rcases reasonCode with - | ⟨text, isSuccess, isFailure⟩
  · rfl
  · cases isSuccess <;> rfl

theorem reasonState_dispatched_isTerminal (reasonCode : Option ReasonCode) :
    (reasonState .dispatched reasonCode).isTerminal =
      reasonCode.any fun code => !code.isSuccess := by
  rcases reasonCode with - | ⟨text, isSuccess, isFailure⟩
  · rfl
  · cases isSuccess <;> rfl

end Mqtt

namespace MqttInboundDecoder

open Mqtt

/-! ## What one input does -/

/-- An acknowledgement is decoded to a result for the command its identifier stands for.  The
identifier is forgotten with the last acknowledgement of an exchange. -/
theorem decode_ack {packet : MqttInboundPacket} {kind : AckKind} {packetId : UInt16}
    (known : packet.ack = some (kind, packetId)) (decoder : MqttInboundDecoder) :
    ∃ result,
      decoder.decode packet =
        (.result result,
          { decoder with
            pendingCommandIds :=
              if kind.isLast then remove packetId decoder.pendingCommandIds
              else decoder.pendingCommandIds }) ∧
      result.result.commandId = commandOfPacketId decoder.pendingCommandIds packetId ∧
      result.result.state.isTerminal = (kind.isLast || packet.refuses) := by
  cases packet with
  | v5Puback | v5Pubcomp =>
      cases known
      exact ⟨_, rfl, rfl, reasonState_completed_isTerminal _⟩
  | v5Pubrec _ reasonCode | v5Pubrel _ reasonCode =>
      cases known
      refine ⟨_, rfl, rfl, (reasonState_dispatched_isTerminal _).trans ?_⟩
      cases reasonCode <;> rfl
  | v5Suback _ reasonCodes | v5Unsuback _ reasonCodes =>
      cases known
      refine ⟨_, rfl, rfl, ?_⟩
      change (ite _ _ _ : DeliveryState).isTerminal = true
      split <;> rfl
  | v3Puback | v3Pubrec | v3Pubrel | v3Pubcomp | v3Suback | v3Unsuback =>
      cases known
      exact ⟨_, rfl, rfl, rfl⟩
  | v5Publish | v3Publish | v5Disconnect | v5Auth | other => cases known

/-- Any other packet leaves the pending commands alone. -/
theorem decode_pendingCommandIds_of_no_ack {packet : MqttInboundPacket}
    (unknown : packet.ack = none) (decoder : MqttInboundDecoder) :
    (decoder.decode packet).2.pendingCommandIds = decoder.pendingCommandIds := by
  cases packet with
  | v5Publish | v3Publish | v5Disconnect | v5Auth | other => rfl
  | _ => cases unknown

/-! ## Requests that are waited for -/

/-- The input records a request with the packet identifier. -/
def Input.Opens (packetId : UInt16) : Input → Prop
  | .record request => packetRequestPacketId request.packet = some packetId
  | .decode _ => False

/-- The input is an acknowledgement with the packet identifier and has a terminal result. -/
def Ends (deviceId : DeviceId) (packetId : UInt16) (before : List Input) : Input → Prop
  | .record _ => False
  | .decode packet => ∃ kind result, packet.ack = some (kind, packetId) ∧
      ((after deviceId before).decode packet).1 = .result result ∧
      result.result.state.isTerminal = true

/-- A request was recorded with the packet identifier, and had no terminal result since. -/
def Awaits (deviceId : DeviceId) (packetId : UInt16) (history : List Input) : Prop :=
  Since (Input.Opens packetId) (Ends deviceId packetId) history

theorem ends_decode_iff {deviceId : DeviceId} {packetId : UInt16} {before : List Input}
    {packet : MqttInboundPacket} :
    Ends deviceId packetId before (.decode packet) ↔
      ∃ kind, packet.ack = some (kind, packetId) ∧ (kind.isLast || packet.refuses) = true := by
  constructor
  · rintro ⟨kind, result, known, emitted, terminal⟩
    obtain ⟨same, decoded, -, state⟩ := decode_ack known (after deviceId before)
    rw [decoded] at emitted
    cases emitted
    exact ⟨kind, known, state ▸ terminal⟩
  · rintro ⟨kind, known, last⟩
    obtain ⟨result, decoded, -, state⟩ := decode_ack known (after deviceId before)
    exact ⟨kind, result, known, by rw [decoded], state.trans last⟩

/-- Recording a request stores its command under its packet identifier. -/
theorem lookup_recordOutboundRequest (decoder : MqttInboundDecoder) (request : MqttPacketRequest)
    (packetId : UInt16) :
    lookup packetId (decoder.recordOutboundRequest request).pendingCommandIds =
      if packetRequestPacketId request.packet = some packetId then some request.commandId
      else lookup packetId decoder.pendingCommandIds := by
  rw [recordOutboundRequest]
  cases known : packetRequestPacketId request.packet with
  | none => simp
  | some recorded =>
      by_cases same : packetId = recorded
      · simp [same]
      · simp [lookup_insert_of_ne same, Ne.symm same]

/-- The last acknowledgement of an exchange removes its entry. -/
theorem lookup_decode_of_last {packet : MqttInboundPacket} {kind : AckKind} {packetId : UInt16}
    (known : packet.ack = some (kind, packetId)) (last : kind.isLast = true)
    (decoder : MqttInboundDecoder) :
    lookup packetId (decoder.decode packet).2.pendingCommandIds = none := by
  obtain ⟨result, decoded, -, -⟩ := decode_ack known decoder
  rw [decoded, last, if_pos rfl, lookup_remove_self]

theorem lookup_decode_of_not_last {packet : MqttInboundPacket} {packetId : UInt16}
    (unended : ∀ kind, packet.ack = some (kind, packetId) → kind.isLast = false)
    (decoder : MqttInboundDecoder) :
    lookup packetId (decoder.decode packet).2.pendingCommandIds =
      lookup packetId decoder.pendingCommandIds := by
  cases known : packet.ack with
  | none => rw [decode_pendingCommandIds_of_no_ack known]
  | some carried =>
      obtain ⟨kind, carriedId⟩ := carried
      obtain ⟨result, decoded, -, -⟩ := decode_ack known decoder
      rw [decoded]
      cases last : kind.isLast with
      | false => rfl
      | true =>
          have other : packetId ≠ carriedId := by
            rintro rfl
            exact Bool.noConfusion ((unended kind known).symm.trans last)
          rw [if_pos rfl, lookup_remove_of_ne other]

/-- A PUBREC or PUBREL that reports a failure carries an identifier that no request waits for. -/
def RefusesNothing (deviceId : DeviceId) (before : List Input) (input : Input) : Prop :=
  ∀ packet kind packetId, input = .decode packet → packet.ack = some (kind, packetId) →
    packet.refuses = true → lookup packetId (after deviceId before).pendingCommandIds = none

theorem lookup_step_of_ends {deviceId : DeviceId} {before : List Input} {input : Input}
    {packetId : UInt16} (careful : RefusesNothing deviceId before input)
    (ends : Ends deviceId packetId before input) :
    lookup packetId ((after deviceId before).step input).pendingCommandIds = none := by
  cases input with
  | record request => cases ends
  | decode packet =>
      obtain ⟨kind, known, last⟩ := ends_decode_iff.mp ends
      cases closing : kind.isLast with
      | true => exact lookup_decode_of_last known closing _
      | false =>
          rw [closing, Bool.false_or] at last
          have only (other : AckKind) (carried : packet.ack = some (other, packetId)) :
              other.isLast = false := by
            rw [known] at carried
            cases carried
            exact closing
          rw [step, lookup_decode_of_not_last only]
          exact careful packet kind packetId rfl known last

theorem lookup_step_of_not_ends {deviceId : DeviceId} {before : List Input} {input : Input}
    {packetId : UInt16} (unopened : ¬input.Opens packetId)
    (unended : ¬Ends deviceId packetId before input) :
    lookup packetId ((after deviceId before).step input).pendingCommandIds =
      lookup packetId (after deviceId before).pendingCommandIds := by
  cases input with
  | record request =>
      have other : packetRequestPacketId request.packet ≠ some packetId := unopened
      rw [step, lookup_recordOutboundRequest, if_neg other]
  | decode packet =>
      refine lookup_decode_of_not_last ?_ _
      intro kind known
      by_contra last
      rw [Bool.not_eq_false] at last
      exact unended (ends_decode_iff.mpr ⟨kind, known, by rw [last, Bool.true_or]⟩)

theorem pending_iff_awaits {deviceId : DeviceId} {history : List Input} (packetId : UInt16)
    (careful : Always (RefusesNothing deviceId) history) :
    (lookup packetId (after deviceId history).pendingCommandIds).isSome ↔
      Awaits deviceId packetId history := by
  refine careful.invariant (fun history =>
    (lookup packetId (after deviceId history).pendingCommandIds).isSome ↔
      Awaits deviceId packetId history) ?_ ?_
  · constructor
    · intro found
      cases found
    · intro awaits
      exact absurd awaits not_since_nil
  · intro before input ih careful
    rw [after_snoc, Awaits, since_snoc]
    by_cases opens : input.Opens packetId
    · cases input with
      | record request =>
          have known : packetRequestPacketId request.packet = some packetId := opens
          rw [step, lookup_recordOutboundRequest, if_pos known]
          exact ⟨fun _ => .inl opens, fun _ => rfl⟩
      | decode packet => cases opens
    · by_cases ends : Ends deviceId packetId before input
      · rw [lookup_step_of_ends careful ends]
        simp [opens, ends]
      · rw [lookup_step_of_not_ends opens ends, ih]
        simp [opens, ends, Awaits]

/-! ## One terminal result for a request -/

/-- What the packets of a run are decoded to. -/
def outputs (decoder : MqttInboundDecoder) :
    List Input → List (MqttInboundPacket × MqttDecodedInbound)
  | [] => []
  | .record request :: inputs => (decoder.recordOutboundRequest request).outputs inputs
  | .decode packet :: inputs =>
      let (inbound, next) := decoder.decode packet
      (packet, inbound) :: next.outputs inputs

theorem outputs_snoc_record (decoder : MqttInboundDecoder) (history : List Input)
    (request : MqttPacketRequest) :
    decoder.outputs (history ++ [.record request]) = decoder.outputs history := by
  induction history generalizing decoder with
  | nil => rfl
  | cons input history ih =>
      cases input with
      | record earlier => exact ih _
      | decode packet => exact congrArg (_ :: ·) (ih _)

theorem outputs_snoc_decode (decoder : MqttInboundDecoder) (history : List Input)
    (packet : MqttInboundPacket) :
    decoder.outputs (history ++ [.decode packet]) =
      decoder.outputs history ++ [(packet, ((history.foldl step decoder).decode packet).1)] := by
  induction history generalizing decoder with
  | nil => rfl
  | cons input history ih =>
      cases input with
      | record earlier => exact ih _
      | decode earlier => exact congrArg (_ :: ·) (ih _)

/-- The packet is an acknowledgement, and its terminal result names the command. -/
def terminalUnder (commandId : CommandId) (output : MqttInboundPacket × MqttDecodedInbound) :
    Bool :=
  match output.1.ack, output.2 with
  | some _, .result result =>
      result.result.state.isTerminal && decide (result.result.commandId = commandId)
  | _, _ => false

/-- The input records a request of the command that waits for acknowledgements. -/
def recordedUnder (commandId : CommandId) : Input → Bool
  | .record request =>
      (packetRequestPacketId request.packet).isSome && decide (request.commandId = commandId)
  | .decode _ => false

/-- A terminal acknowledgement that no request waits for does not stand for the command, as it
would if the text of its identifier were the command's. -/
def KeepsName (deviceId : DeviceId) (commandId : CommandId) (before : List Input)
    (input : Input) : Prop :=
  ∀ packet kind packetId, input = .decode packet → packet.ack = some (kind, packetId) →
    (kind.isLast || packet.refuses) = true →
    lookup packetId (after deviceId before).pendingCommandIds = none →
    commandId ≠ ⟨toString packetId.toNat⟩

/-- A terminal result that names the command uses up an entry of the command. -/
theorem terminal_add_pending_decode {deviceId : DeviceId} {commandId : CommandId}
    {before : List Input} {packet : MqttInboundPacket}
    (careful : RefusesNothing deviceId before (.decode packet))
    (named : KeepsName deviceId commandId before (.decode packet)) :
    ([(packet, ((after deviceId before).decode packet).1)].countP (terminalUnder commandId)) +
        count (· = commandId) ((after deviceId before).decode packet).2.pendingCommandIds ≤
      count (· = commandId) (after deviceId before).pendingCommandIds := by
  cases known : packet.ack with
  | none =>
      have unnamed : terminalUnder commandId (packet, ((after deviceId before).decode packet).1) =
          false := by
        rw [terminalUnder, known]
      rw [decode_pendingCommandIds_of_no_ack known, List.countP_singleton, unnamed]
      simp
  | some carried =>
      obtain ⟨kind, packetId⟩ := carried
      obtain ⟨result, decoded, meant, state⟩ := decode_ack known (after deviceId before)
      have counted : terminalUnder commandId (packet, .result result) =
          ((kind.isLast || packet.refuses) && decide (result.result.commandId = commandId)) := by
        rw [terminalUnder, known, ← state]
      have fewer : count (· = commandId) (if kind.isLast then
            remove packetId (after deviceId before).pendingCommandIds
            else (after deviceId before).pendingCommandIds) ≤
          count (· = commandId) (after deviceId before).pendingCommandIds := by
        split
        · exact count_remove_le packetId _
        · exact Nat.le_refl _
      rw [decoded, List.countP_singleton, counted]
      by_cases terminal : (kind.isLast || packet.refuses) = true
      · cases found : lookup packetId (after deviceId before).pendingCommandIds with
        | none =>
            have other := named packet kind packetId rfl known terminal found
            rw [commandOfPacketId, found] at meant
            have unnamed : result.result.commandId ≠ commandId := by
              rw [meant]
              exact Ne.symm other
            simpa [unnamed] using fewer
        | some stored =>
            have accepted : packet.refuses = false := by
              by_contra refused
              rw [Bool.not_eq_false] at refused
              rw [careful packet kind packetId rfl known refused] at found
              cases found
            rw [accepted, Bool.or_false] at terminal
            rw [commandOfPacketId, found, Option.getD_some] at meant
            rw [terminal] at fewer ⊢
            by_cases same : stored = commandId
            · have used : count (· = commandId)
                    (remove packetId (after deviceId before).pendingCommandIds) <
                  count (· = commandId) (after deviceId before).pendingCommandIds :=
                count_remove_lt found (by simp [same])
              simp only [meant, same, Bool.true_or, Bool.true_and, decide_true, if_true]
              omega
            · have unnamed : result.result.commandId ≠ commandId := by
                rw [meant]
                exact same
              simpa [unnamed] using fewer
      · rw [Bool.not_eq_true] at terminal
        simpa [terminal] using fewer

/-- Every request that is recorded under a command has at most one terminal result to come. -/
theorem terminal_add_pending_le {deviceId : DeviceId} {commandId : CommandId}
    {history : List Input} (careful : Always (RefusesNothing deviceId) history)
    (named : Always (KeepsName deviceId commandId) history) :
    ((new deviceId).outputs history).countP (terminalUnder commandId) +
        count (· = commandId) (after deviceId history).pendingCommandIds ≤
      history.countP (recordedUnder commandId) := by
  refine (careful.and named).invariant (fun history =>
    ((new deviceId).outputs history).countP (terminalUnder commandId) +
        count (· = commandId) (after deviceId history).pendingCommandIds ≤
      history.countP (recordedUnder commandId)) (Nat.le_refl 0) ?_
  rintro before input ih ⟨careful, named⟩
  rw [after_snoc, List.countP_append, List.countP_singleton]
  cases input with
  | record request =>
      rw [outputs_snoc_record, step, recordOutboundRequest]
      cases known : packetRequestPacketId request.packet with
      | none =>
          dsimp only
          omega
      | some packetId =>
          have stored : count (· = commandId) (insert packetId request.commandId
                (after deviceId before).pendingCommandIds) ≤
              count (· = commandId) (after deviceId before).pendingCommandIds +
                if decide (request.commandId = commandId) then 1 else 0 :=
            count_insert_le packetId request.commandId _
          have counted : recordedUnder commandId (.record request) =
              decide (request.commandId = commandId) := by
            rw [recordedUnder, known, Option.isSome_some, Bool.true_and]
          rw [counted]
          dsimp only
          omega
  | decode packet =>
      have used := terminal_add_pending_decode careful named
      have same : before.foldl step (new deviceId) = after deviceId before := rfl
      rw [outputs_snoc_decode, same, List.countP_append, step]
      omega

/-- The decoder keeps a packet identifier exactly while its request waits for a terminal result. -/
structure TracksRequests (deviceId : DeviceId) (history : List Input) : Prop where
  pending : ∀ packetId,
    (lookup packetId (after deviceId history).pendingCommandIds).isSome ↔
      Awaits deviceId packetId history
  removed : Always (fun before input => ∀ packetId, Ends deviceId packetId before input →
    lookup packetId ((after deviceId before).step input).pendingCommandIds = none) history
  kept : Always (fun before input => ∀ packetId, ¬input.Opens packetId →
    ¬Ends deviceId packetId before input →
    lookup packetId ((after deviceId before).step input).pendingCommandIds =
      lookup packetId (after deviceId before).pendingCommandIds) history
  once : ∀ commandId, 0 < history.countP (recordedUnder commandId) →
    ((new deviceId).outputs history).countP (terminalUnder commandId) ≤
      history.countP (recordedUnder commandId)

/-- No PUBREC or PUBREL refuses a request that is waited for, and the terminal acknowledgements that
no request waits for do not stand for a recorded command. -/
structure Orderly (deviceId : DeviceId) (history : List Input) : Prop where
  refusesNothing : Always (RefusesNothing deviceId) history
  keepsNames : ∀ commandId, 0 < history.countP (recordedUnder commandId) →
    Always (KeepsName deviceId commandId) history

theorem tracksRequests_of_orderly {deviceId : DeviceId} {history : List Input}
    (orderly : Orderly deviceId history) : TracksRequests deviceId history where
  pending packetId := pending_iff_awaits packetId orderly.refusesNothing
  removed before input later split packetId ends :=
    lookup_step_of_ends (orderly.refusesNothing before input later split) ends
  kept before input later split packetId unopened unended :=
    lookup_step_of_not_ends unopened unended
  once commandId recorded := by
    have bounded := terminal_add_pending_le orderly.refusesNothing
      (orderly.keepsNames commandId recorded)
    omega

/-- A message of QoS 2. -/
def exactlyOnceRequest : MqttPacketRequest :=
  { commandId := ⟨"send-1"⟩
    packet := .v5Publish
      { topicName := "plant/temperature"
        qos := .exactlyOnce
        retain := false
        payload := []
        packetId := some 1 } [] }

/-- The exchange of a message of QoS 2, as it goes well. -/
def acceptedHistory : List Input :=
  [.record exactlyOnceRequest, .decode (.v5Pubrec 1 none none), .decode (.v5Pubcomp 1 none none)]

/-- The exchange of a message of QoS 2 that the broker refuses. -/
def refusedHistory : List Input :=
  [.record exactlyOnceRequest, .decode (.v5Pubrec 1 (some ⟨"QuotaExceeded", false, true⟩) none)]

theorem acceptedHistory_tracked : TracksRequests ⟨"broker"⟩ acceptedHistory := by
  have always {met : List Input → Input → Prop} (recorded : met [] (.record exactlyOnceRequest))
      (received : met [.record exactlyOnceRequest] (.decode (.v5Pubrec 1 none none)))
      (completed : met [.record exactlyOnceRequest, .decode (.v5Pubrec 1 none none)]
        (.decode (.v5Pubcomp 1 none none))) : Always met acceptedHistory :=
    always_snoc.mpr ⟨always_snoc.mpr ⟨always_snoc.mpr ⟨always_nil, recorded⟩, received⟩, completed⟩
  refine tracksRequests_of_orderly ⟨always ?_ ?_ ?_, fun commandId _ => always ?_ ?_ ?_⟩
  · rintro packet kind packetId ⟨⟩
  · rintro packet kind packetId ⟨⟩ known refused
    cases refused
  · rintro packet kind packetId ⟨⟩ known refused
    cases refused
  · rintro packet kind packetId ⟨⟩
  · rintro packet kind packetId ⟨⟩ ⟨⟩ terminal
    cases terminal
  · rintro packet kind packetId ⟨⟩ ⟨⟩ terminal unknown
    have waits : (lookup 1 (after ⟨"broker"⟩ [.record exactlyOnceRequest,
        .decode (.v5Pubrec 1 none none)]).pendingCommandIds).isSome := by decide +kernel
    rw [unknown] at waits
    cases waits

theorem refusedHistory_untracked :
    lookup 1 (after ⟨"broker"⟩ refusedHistory).pendingCommandIds = some ⟨"send-1"⟩ ∧
      ¬TracksRequests ⟨"broker"⟩ refusedHistory := by
  have kept : lookup 1 (after ⟨"broker"⟩ refusedHistory).pendingCommandIds =
      some ⟨"send-1"⟩ := by decide +kernel
  refine ⟨kept, fun tracks => ?_⟩
  have gone := tracks.removed [.record exactlyOnceRequest] _ [] rfl 1
    (ends_decode_iff.mpr ⟨.pubrec, rfl, rfl⟩)
  rw [← after_snoc] at gone
  exact absurd (kept.symm.trans gone) (by simp)

end MqttInboundDecoder
end Ferredge
