import Ferredge.Http.Capture
import Ferredge.Mqtt.OptionCaptures

/-!
# Typed captures

What holds of the MQTT and of the HTTP captures alike: a view survives being stored in a capture,
and decoding a capture is looking up the first value of every documented key.
-/

namespace Ferredge

open TransportMeta

/-- A typed view reads a capture by first values: it is there exactly when the decoder succeeds, and
the decoder looks up every documented key. -/
structure ViewsFirst {View ε : Type} (protocol : ProtocolId) (documented : List (Documented View))
    (headersOf : View → Option Headers) (decode : TransportMeta → Except ε View)
    (fromTransportMeta view : TransportMeta → Option View) : Prop where
  decodes : DecodesFirst protocol documented headersOf decode
  moved : ∀ capture found, fromTransportMeta capture = some found ↔ decode capture = .ok found
  borrowed : ∀ capture found, view capture = some found ↔ decode capture = .ok found

theorem toOption_eq_some {α ε : Type} {action : Except ε α} {item : α} :
    action.toOption = some item ↔ action = .ok item := by
  cases action <;> simp [Except.toOption]

/-- Both typed views read a capture by the first value of every documented key. -/
theorem captures_viewFirst :
    ViewsFirst .mqtt MqttMeta.documented MqttMeta.headers MqttMeta.tryFromTransportMeta
        MqttMeta.fromTransportMeta MqttMeta.view ∧
      ViewsFirst .http HttpMeta.documented HttpMeta.headers HttpMeta.tryFromTransportMeta
        HttpMeta.fromTransportMeta HttpMeta.view := by
  refine ⟨⟨MqttMeta.decodesFirst, fun _ _ => toOption_eq_some, fun capture found => ?_⟩,
    ⟨HttpMeta.decodesFirst, fun _ _ => toOption_eq_some, fun capture found => ?_⟩⟩
  · rw [MqttMeta.view, asBorrowed_eq, toOption_eq_some]
  · rw [HttpMeta.view, asBorrowed_eq, toOption_eq_some]

end Ferredge
