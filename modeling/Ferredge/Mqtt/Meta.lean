import Mathlib.Algebra.Group.Nat.Defs
import Ferredge.Fallible
import Ferredge.Core.Command
import Ferredge.Bridge.Message

/-!
# MQTT capture view

The typed MQTT view over the open transport capture.  The known keys form a table of fields, each
with its reader; decoding walks the entries in order, skips keys already seen, ignores unknown ones
and stops at the first malformed entry.
-/

namespace Ferredge

open Fallible

/-- MQTT payload format indicator. -/
inductive MqttPayloadFormat where
  | bytes
  | utf8
  deriving DecidableEq

/-- MQTT retained-message handling policy for subscriptions. -/
inductive MqttRetainHandling where
  | sendRetained
  | sendRetainedIfNotExists
  | doNotSendRetained
  deriving DecidableEq

/-- Error of the payload serializer. -/
structure JsonError where
  message : String
  deriving DecidableEq

/-- Error of the packet library. -/
structure MqttError where
  name : String
  deriving DecidableEq

/-- Conversion error raised while projecting routed commands into MQTT packets. -/
inductive MqttCommandConversionError where
  | unsupportedIntent
  | unsupportedChannelKind (kind : BrokerChannelKind)
  | mqttV5PublishOptionsOnV3
  | mqttV5SubscriptionOptionsOnV3
  | invalidPayload (error : JsonError)
  | packetBuild (error : MqttError)
  | bridge (error : BridgePlannerError)
  | invalidBridgeMessage
  | foreignExtensions (protocol : ProtocolId)
  | invalidExtensionValue (key : String) (value : UInt64)
  | invalidExtensionName (key : String) (value : String)
  | invalidExtensionType (key : String)
  deriving DecidableEq

/-- Typed MQTT view over the open transport metadata capture. -/
structure MqttMeta where
  topic : Option String
  qos : Option UInt8
  retain : Bool
  duplicate : Bool
  packetId : Option UInt16
  contentType : Option String
  payloadFormat : Option MqttPayloadFormat
  messageExpiryIntervalSecs : Option UInt32
  responseTopic : Option String
  correlationData : Option Bytes
  topicAlias : Option UInt16
  subscriptionIdentifiers : List UInt32
  reasonCodes : List String
  reasonString : Option String
  durableName : Option String
  sharedGroup : Option String
  noLocal : Bool
  retainAsPublished : Bool
  retainHandling : Option MqttRetainHandling
  headers : Option Headers
  deriving DecidableEq

namespace MqttMeta

/-- The view with every field absent. -/
def default : MqttMeta :=
  { topic := none
    qos := none
    retain := false
    duplicate := false
    packetId := none
    contentType := none
    payloadFormat := none
    messageExpiryIntervalSecs := none
    responseTopic := none
    correlationData := none
    topicAlias := none
    subscriptionIdentifiers := []
    reasonCodes := []
    reasonString := none
    durableName := none
    sharedGroup := none
    noLocal := false
    retainAsPublished := false
    retainHandling := none
    headers := none }

def payloadFormatFromName : String → Option MqttPayloadFormat
  | "bytes" => some .bytes
  | "utf8" => some .utf8
  | _ => none

def retainHandlingFromCode (code : UInt64) : Option MqttRetainHandling :=
  if code = 0 then some .sendRetained
  else if code = 1 then some .sendRetainedIfNotExists
  else if code = 2 then some .doNotSendRetained
  else none

/-! ## Readers of single entries -/

/-- Requires one capture value to be UTF-8 text. -/
def expectStr (key : String) : MetaValue → Except MqttCommandConversionError String
  | .str value => .ok value
  | _ => .error (.invalidExtensionType key)

/-- Requires one capture value to be an unsigned integer. -/
def expectU64 (key : String) : MetaValue → Except MqttCommandConversionError UInt64
  | .u64 value => .ok value
  | _ => .error (.invalidExtensionType key)

/-- Requires one capture value to be a boolean flag. -/
def expectBool (key : String) : MetaValue → Except MqttCommandConversionError Bool
  | .bool value => .ok value
  | _ => .error (.invalidExtensionType key)

/-- Requires one capture value to be opaque bytes. -/
def expectBytes (key : String) : MetaValue → Except MqttCommandConversionError Bytes
  | .bytes value => .ok value
  | _ => .error (.invalidExtensionType key)

/-- Requires one capture value to be an unsigned integer list. -/
def expectU64List (key : String) : MetaValue → Except MqttCommandConversionError (List UInt64)
  | .u64List values => .ok values
  | _ => .error (.invalidExtensionType key)

/-- Requires one capture value to be a text list. -/
def expectStrList (key : String) : MetaValue → Except MqttCommandConversionError (List String)
  | .strList values => .ok values
  | _ => .error (.invalidExtensionType key)

/-- Range-checks one capture integer against a wire field of the given width. -/
def checkedCaptureValue (width : Nat) (key : String) (value : UInt64) :
    Except MqttCommandConversionError UInt64 :=
  if value.toNat < 2 ^ width then .ok value else .error (.invalidExtensionValue key value)

/-- One known key: how its value is read, and where it is stored in the view. -/
structure Field where
  key : String
  read : MetaValue → Except MqttCommandConversionError (MqttMeta → MqttMeta)

/-- A field holding text. -/
def textField (key : String) (store : String → MqttMeta → MqttMeta) : Field :=
  { key, read := fun value => (expectStr key value).map store }

/-- A field holding a flag. -/
def flagField (key : String) (store : Bool → MqttMeta → MqttMeta) : Field :=
  { key, read := fun value => (expectBool key value).map store }

/-- A field holding an integer of bounded width. -/
def numberField (width : Nat) (key : String) (store : UInt64 → MqttMeta → MqttMeta) : Field :=
  { key, read := fun value => (expectU64 key value >>= checkedCaptureValue width key).map store }

/-- Reads the name of a payload format. -/
def readPayloadFormat (key : String) (value : MetaValue) :
    Except MqttCommandConversionError MqttPayloadFormat := do
  let name ← expectStr key value
  match payloadFormatFromName name with
  | some format => .ok format
  | none => .error (.invalidExtensionName key name)

/-- Reads the code of a retain handling policy. -/
def readRetainHandling (key : String) (value : MetaValue) :
    Except MqttCommandConversionError MqttRetainHandling := do
  let code ← expectU64 key value
  match retainHandlingFromCode code with
  | some policy => .ok policy
  | none => .error (.invalidExtensionValue key code)

/-- Reads a list of subscription identifiers. -/
def readIdentifiers (key : String) (value : MetaValue) :
    Except MqttCommandConversionError (List UInt32) := do
  let values ← expectU64List key value
  values.mapM fun value => (checkedCaptureValue 32 key value).map UInt64.toUInt32

/-- The documented keys. -/
def fields : List Field :=
  [ textField "topic" fun text view => { view with topic := some text },
    numberField 8 "qos" fun number view => { view with qos := some number.toUInt8 },
    flagField "retain" fun flag view => { view with retain := flag },
    flagField "duplicate" fun flag view => { view with duplicate := flag },
    numberField 16 "packet-id" fun number view =>
      { view with packetId := some number.toUInt16 },
    textField "content-type" fun text view => { view with contentType := some text },
    { key := "payload-format"
      read := fun value => (readPayloadFormat "payload-format" value).map fun format view =>
        { view with payloadFormat := some format } },
    numberField 32 "message-expiry-interval-secs" fun number view =>
      { view with messageExpiryIntervalSecs := some number.toUInt32 },
    textField "response-topic" fun text view => { view with responseTopic := some text },
    { key := "correlation-data"
      read := fun value => (expectBytes "correlation-data" value).map fun bytes view =>
        { view with correlationData := some bytes } },
    numberField 16 "topic-alias" fun number view =>
      { view with topicAlias := some number.toUInt16 },
    { key := "subscription-identifiers"
      read := fun value => (readIdentifiers "subscription-identifiers" value).map
        fun identifiers view => { view with subscriptionIdentifiers := identifiers } },
    { key := "reason-codes"
      read := fun value => (expectStrList "reason-codes" value).map fun codes view =>
        { view with reasonCodes := codes } },
    textField "reason-string" fun text view => { view with reasonString := some text },
    textField "durable-name" fun text view => { view with durableName := some text },
    textField "shared-group" fun text view => { view with sharedGroup := some text },
    flagField "no-local" fun flag view => { view with noLocal := flag },
    flagField "retain-as-published" fun flag view => { view with retainAsPublished := flag },
    { key := "retain-handling"
      read := fun value => (readRetainHandling "retain-handling" value).map fun policy view =>
        { view with retainHandling := some policy } } ]

/-- Stores one capture entry in the view; unknown keys are ignored. -/
def decodeEntry (view : MqttMeta) (key : String) (value : MetaValue) :
    Except MqttCommandConversionError MqttMeta :=
  match fields.find? fun field => field.key == key with
  | some field => (field.read value).map fun store => store view
  | none => .ok view

/-- Decodes an MQTT capture, rejecting foreign protocols and malformed entries. -/
def tryFromTransportMeta (capture : TransportMeta) :
    Except MqttCommandConversionError MqttMeta :=
  if capture.protocol ≠ .mqtt then
    .error (.foreignExtensions capture.protocol)
  else
    TransportMeta.walkEntries decodeEntry [] { default with headers := capture.headers }
      capture.entries

/-! ## Headers pass through -/

/-- Replaces the headers carried by the view. -/
def withHeaders (view : MqttMeta) (headers : Option Headers) : MqttMeta :=
  { view with headers }

/-- The update neither reads nor writes the carried headers. -/
def IgnoresHeaders (update : MqttMeta → MqttMeta) : Prop :=
  ∀ view headers, update (view.withHeaders headers) = (update view).withHeaders headers

/-- A reader all of whose updates ignore the headers. -/
def Field.IgnoresHeaders (field : Field) : Prop :=
  ∀ value update, field.read value = .ok update → MqttMeta.IgnoresHeaders update

/-- A field that stores what it reads ignores the headers when its store does. -/
theorem ignoresHeaders_of_map {α : Type} {key : String}
    {read : MetaValue → Except MqttCommandConversionError α} {store : α → MqttMeta → MqttMeta}
    (stores : ∀ item, IgnoresHeaders (store item)) :
    Field.IgnoresHeaders { key, read := fun value => (read value).map store } := by
  intro value update decoded
  obtain ⟨item, -, rfl⟩ := map_eq_ok.mp decoded
  exact stores item

theorem fields_ignoreHeaders (field : Field) (known : field ∈ fields) : field.IgnoresHeaders := by
  simp only [fields, List.mem_cons, List.not_mem_nil, or_false] at known
  obtain rfl | rfl | rfl | rfl | rfl | rfl | rfl | rfl | rfl | rfl | rfl | rfl | rfl | rfl | rfl |
    rfl | rfl | rfl | rfl := known <;>
  exact ignoresHeaders_of_map fun item view headers => rfl

/-- Decoding one entry neither reads nor writes the carried headers. -/
theorem decodeEntry_withHeaders (view : MqttMeta) (headers : Option Headers)
    (key : String) (value : MetaValue) :
    decodeEntry (view.withHeaders headers) key value =
      (decodeEntry view key value).map fun decoded => decoded.withHeaders headers := by
  unfold decodeEntry
  cases found : fields.find? fun field => field.key == key with
  | none => rfl
  | some field =>
      have ignores := fields_ignoreHeaders field (List.mem_of_find?_eq_some found)
      cases read : field.read value with
      | error error => simp [read, Except.map]
      | ok update => simp [read, Except.map, ignores value update read view headers]

/-- Removing the headers from a capture removes them from its view and changes nothing else. -/
theorem tryFromTransportMeta_setHeaders (capture : TransportMeta) (headers : Option Headers) :
    tryFromTransportMeta { capture with headers } =
      (tryFromTransportMeta capture).map fun view => view.withHeaders headers := by
  unfold tryFromTransportMeta
  split
  · rfl
  · exact TransportMeta.walkEntries_update
      (fun view key value => decodeEntry_withHeaders view headers key value) capture.entries []
      { default with headers := capture.headers }

/-- The view carries exactly the capture's headers. -/
theorem tryFromTransportMeta_headers {capture : TransportMeta} {view : MqttMeta}
    (decoded : tryFromTransportMeta capture = .ok view) : view.headers = capture.headers :=
  TransportMeta.headers_of_decode (fun _ _ => rfl) tryFromTransportMeta_setHeaders decoded

/-! ## Errors of the decoder -/

/-- The errors that blame the capture. -/
def IsCaptureError : MqttCommandConversionError → Prop
  | .foreignExtensions _ => True
  | .invalidExtensionValue _ _ => True
  | .invalidExtensionName _ _ => True
  | .invalidExtensionType _ => True
  | _ => False

theorem expectStr_errors (key : String) (value : MetaValue) :
    ErrorsSatisfy IsCaptureError (expectStr key value) := by
  cases value with
  | str value => exact errorsSatisfy_ok value
  | _ => exact errorsSatisfy_error trivial

theorem expectU64_errors (key : String) (value : MetaValue) :
    ErrorsSatisfy IsCaptureError (expectU64 key value) := by
  cases value with
  | u64 value => exact errorsSatisfy_ok value
  | _ => exact errorsSatisfy_error trivial

theorem expectBool_errors (key : String) (value : MetaValue) :
    ErrorsSatisfy IsCaptureError (expectBool key value) := by
  cases value with
  | bool value => exact errorsSatisfy_ok value
  | _ => exact errorsSatisfy_error trivial

theorem expectBytes_errors (key : String) (value : MetaValue) :
    ErrorsSatisfy IsCaptureError (expectBytes key value) := by
  cases value with
  | bytes value => exact errorsSatisfy_ok value
  | _ => exact errorsSatisfy_error trivial

theorem expectU64List_errors (key : String) (value : MetaValue) :
    ErrorsSatisfy IsCaptureError (expectU64List key value) := by
  cases value with
  | u64List values => exact errorsSatisfy_ok values
  | _ => exact errorsSatisfy_error trivial

theorem expectStrList_errors (key : String) (value : MetaValue) :
    ErrorsSatisfy IsCaptureError (expectStrList key value) := by
  cases value with
  | strList values => exact errorsSatisfy_ok values
  | _ => exact errorsSatisfy_error trivial

theorem checkedCaptureValue_errors (width : Nat) (key : String) (value : UInt64) :
    ErrorsSatisfy IsCaptureError (checkedCaptureValue width key value) := by
  unfold checkedCaptureValue
  split
  · exact errorsSatisfy_ok value
  · exact errorsSatisfy_error trivial

theorem readPayloadFormat_errors (key : String) (value : MetaValue) :
    ErrorsSatisfy IsCaptureError (readPayloadFormat key value) := by
  refine (expectStr_errors key value).bind fun name _ => ?_
  cases payloadFormatFromName name with
  | some format => exact errorsSatisfy_ok format
  | none => exact errorsSatisfy_error trivial

theorem readRetainHandling_errors (key : String) (value : MetaValue) :
    ErrorsSatisfy IsCaptureError (readRetainHandling key value) := by
  refine (expectU64_errors key value).bind fun code _ => ?_
  cases retainHandlingFromCode code with
  | some policy => exact errorsSatisfy_ok policy
  | none => exact errorsSatisfy_error trivial

theorem readIdentifiers_errors (key : String) (value : MetaValue) :
    ErrorsSatisfy IsCaptureError (readIdentifiers key value) :=
  (expectU64List_errors key value).bind fun values _ =>
    ErrorsSatisfy.mapM (fun value => (checkedCaptureValue_errors 32 key value).map _) values

theorem numberField_errors (width : Nat) (key : String) (store : UInt64 → MqttMeta → MqttMeta)
    (value : MetaValue) : ErrorsSatisfy IsCaptureError ((numberField width key store).read value) :=
  ((expectU64_errors key value).bind fun number _ =>
    checkedCaptureValue_errors width key number).map store

theorem fields_errors (field : Field) (known : field ∈ fields) (value : MetaValue) :
    ErrorsSatisfy IsCaptureError (field.read value) := by
  simp only [fields, List.mem_cons, List.not_mem_nil, or_false] at known
  obtain rfl | rfl | rfl | rfl | rfl | rfl | rfl | rfl | rfl | rfl | rfl | rfl | rfl | rfl | rfl |
    rfl | rfl | rfl | rfl := known
  case inr.inl | inr.inr.inr.inr.inl | inr.inr.inr.inr.inr.inr.inr.inl |
      inr.inr.inr.inr.inr.inr.inr.inr.inr.inr.inl => exact numberField_errors _ _ _ value
  all_goals
    first
    | exact (expectStr_errors _ value).map _
    | exact (expectBool_errors _ value).map _
    | exact (readPayloadFormat_errors _ value).map _
    | exact (expectBytes_errors _ value).map _
    | exact (readIdentifiers_errors _ value).map _
    | exact (expectStrList_errors _ value).map _
    | exact (readRetainHandling_errors _ value).map _

theorem decodeEntry_errors (view : MqttMeta) (key : String) (value : MetaValue) :
    ErrorsSatisfy IsCaptureError (decodeEntry view key value) := by
  unfold decodeEntry
  cases found : fields.find? fun field => field.key == key with
  | none => exact errorsSatisfy_ok view
  | some field => exact (fields_errors field (List.mem_of_find?_eq_some found) value).map _

theorem tryFromTransportMeta_errors (capture : TransportMeta) :
    ErrorsSatisfy IsCaptureError (tryFromTransportMeta capture) := by
  unfold tryFromTransportMeta
  split
  · exact errorsSatisfy_error trivial
  · exact TransportMeta.walkEntries_errors decodeEntry_errors capture.entries [] _

end MqttMeta
end Ferredge
