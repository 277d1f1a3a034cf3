import Ferredge.Core.Documented
import Ferredge.Mqtt.Capture

/-!
# The documented keys of an MQTT capture

Each key has its type, its range and its vocabulary, and stands for one field of the view.  The
decoder reads the first value of every documented key and ignores all other entries.
-/

namespace Ferredge

open Fallible

namespace MqttMeta

/-- Every documented key, and the field it stands for. -/
def documented : List (Documented MqttMeta) :=
  [ .text "topic" MqttMeta.topic,
    .number 8 "qos" fun view => view.qos.map UInt8.toUInt64,
    .flag "retain" MqttMeta.retain,
    .flag "duplicate" MqttMeta.duplicate,
    .number 16 "packet-id" fun view => view.packetId.map UInt16.toUInt64,
    .text "content-type" MqttMeta.contentType,
    { key := "payload-format"
      admits := fun value => value = .str "bytes" ∨ value = .str "utf8"
      holds := fun first view =>
        first = view.payloadFormat.map fun format => .str (payloadFormatName format) },
    .number 32 "message-expiry-interval-secs" fun view =>
      view.messageExpiryIntervalSecs.map UInt32.toUInt64,
    .text "response-topic" MqttMeta.responseTopic,
    { key := "correlation-data"
      admits := fun value => ∃ bytes, value = .bytes bytes
      holds := fun first view => first = view.correlationData.map .bytes },
    .number 16 "topic-alias" fun view => view.topicAlias.map UInt16.toUInt64,
    .list "subscription-identifiers" .u64List
      (fun identifiers => ∀ identifier ∈ identifiers, identifier.toNat < 2 ^ 32)
      fun view => view.subscriptionIdentifiers.map UInt32.toUInt64,
    .list "reason-codes" .strList (fun _ => True) MqttMeta.reasonCodes,
    .text "reason-string" MqttMeta.reasonString,
    .text "durable-name" MqttMeta.durableName,
    .text "shared-group" MqttMeta.sharedGroup,
    .flag "no-local" MqttMeta.noLocal,
    .flag "retain-as-published" MqttMeta.retainAsPublished,
    { key := "retain-handling"
      admits := fun value => ∃ code, value = .u64 code ∧ code.toNat ≤ 2
      holds := fun first view =>
        first = view.retainHandling.map fun policy => .u64 (retainHandlingCode policy) } ]

/-! ## What the readers accept -/

variable {key : String} {value : MetaValue}

theorem expectStr_eq_ok {text : String} : expectStr key value = .ok text ↔ value = .str text := by
  cases value <;> simp [expectStr]

theorem expectU64_eq_ok {number : UInt64} :
    expectU64 key value = .ok number ↔ value = .u64 number := by
  cases value <;> simp [expectU64]

theorem expectBool_eq_ok {flag : Bool} : expectBool key value = .ok flag ↔ value = .bool flag := by
  cases value <;> simp [expectBool]

theorem expectBytes_eq_ok {bytes : Bytes} :
    expectBytes key value = .ok bytes ↔ value = .bytes bytes := by
  cases value <;> simp [expectBytes]

theorem expectU64List_eq_ok {numbers : List UInt64} :
    expectU64List key value = .ok numbers ↔ value = .u64List numbers := by
  cases value <;> simp [expectU64List]

theorem expectStrList_eq_ok {texts : List String} :
    expectStrList key value = .ok texts ↔ value = .strList texts := by
  cases value <;> simp [expectStrList]

theorem checkedCaptureValue_eq_ok {width : Nat} {number checked : UInt64} :
    checkedCaptureValue width key number = .ok checked ↔
      checked = number ∧ number.toNat < 2 ^ width := by
  unfold checkedCaptureValue
  split
  · simp_all [eq_comm]
  · simp_all

theorem readNumber_eq_ok {width : Nat} {number : UInt64} :
    (expectU64 key value >>= checkedCaptureValue width key) = .ok number ↔
      value = .u64 number ∧ number.toNat < 2 ^ width := by
  simp only [bind_eq_ok, expectU64_eq_ok, checkedCaptureValue_eq_ok]
  constructor
  · rintro ⟨number, rfl, rfl, fits⟩
    exact ⟨rfl, fits⟩
  · rintro ⟨rfl, fits⟩
    exact ⟨number, rfl, rfl, fits⟩

theorem payloadFormatFromName_eq_some {name : String} {format : MqttPayloadFormat} :
    payloadFormatFromName name = some format ↔ name = payloadFormatName format := by
  unfold payloadFormatFromName
  cases format <;> split <;> simp_all [payloadFormatName]

theorem readPayloadFormat_eq_ok {format : MqttPayloadFormat} :
    readPayloadFormat key value = .ok format ↔ value = .str (payloadFormatName format) := by
  simp only [readPayloadFormat, bind_eq_ok, expectStr_eq_ok]
  constructor
  · rintro ⟨name, rfl, found⟩
    rw [← payloadFormatFromName_eq_some.mp]
    cases known : payloadFormatFromName name <;> simp_all
  · rintro rfl
    exact ⟨payloadFormatName format, rfl, by rw [payloadFormatFromName_eq_some.mpr rfl]⟩

theorem retainHandlingFromCode_eq_some {code : UInt64} {policy : MqttRetainHandling} :
    retainHandlingFromCode code = some policy ↔ code = retainHandlingCode policy := by
  unfold retainHandlingFromCode
  cases policy <;> repeat' split <;> simp_all [retainHandlingCode]

theorem readRetainHandling_eq_ok {policy : MqttRetainHandling} :
    readRetainHandling key value = .ok policy ↔ value = .u64 (retainHandlingCode policy) := by
  simp only [readRetainHandling, bind_eq_ok, expectU64_eq_ok]
  constructor
  · rintro ⟨code, rfl, found⟩
    rw [← retainHandlingFromCode_eq_some.mp]
    cases known : retainHandlingFromCode code <;> simp_all
  · rintro rfl
    exact ⟨retainHandlingCode policy, rfl, by rw [retainHandlingFromCode_eq_some.mpr rfl]⟩

theorem readIdentifiers_eq_ok {identifiers : List UInt32} :
    readIdentifiers key value = .ok identifiers ↔
      value = .u64List (identifiers.map UInt32.toUInt64) := by
  simp only [readIdentifiers, bind_eq_ok, expectU64List_eq_ok]
  constructor
  · rintro ⟨values, rfl, converted⟩
    have pairs : List.Forall₂ (fun value identifier => value = UInt32.toUInt64 identifier)
        values identifiers := by
      refine (mapM_eq_ok.mp converted).imp fun {value identifier} read => ?_
      obtain ⟨number, checked, rfl⟩ := map_eq_ok.mp read
      obtain ⟨rfl, fits⟩ := checkedCaptureValue_eq_ok.mp checked
      exact (widened32 fits).symm
    rw [← List.forall₂_map_right_iff, List.forall₂_eq_eq_eq] at pairs
    rw [pairs]
  · rintro rfl
    exact ⟨_, rfl, mapM_checkedCaptureValue _ identifiers⟩

/-- Numbers that fit narrow fields are kept by them. -/
theorem map_widened32 {numbers : List UInt64} (fits : ∀ number ∈ numbers, number.toNat < 2 ^ 32) :
    (numbers.map UInt64.toUInt32).map UInt32.toUInt64 = numbers := by
  rw [List.map_map]
  calc
    numbers.map (UInt32.toUInt64 ∘ UInt64.toUInt32) = numbers.map id :=
      List.map_congr_left fun number listed => widened32 (fits number listed)
    _ = numbers := List.map_id numbers

theorem fits_identifiers (identifiers : List UInt32) :
    ∀ number ∈ identifiers.map UInt32.toUInt64, number.toNat < 2 ^ 32 := by
  intro number listed
  obtain ⟨identifier, -, rfl⟩ := List.mem_map.mp listed
  exact fits32 identifier

/-! ## Fields and keys -/

def Field.reader (field : Field) : Reader MqttMeta MqttCommandConversionError :=
  { key := field.key, read := field.read }

theorem decodeEntry_eq_decodeWith : decodeEntry = decodeWith (fields.map Field.reader) := by
  funext view key value
  rw [decodeWith, List.find?_map]
  unfold decodeEntry
  cases found : fields.find? fun field => field.key == key <;>
    simp [Function.comp_def, Field.reader, found]

theorem textField_follows {store : String → MqttMeta → MqttMeta}
    {field : MqttMeta → Option String} (stores : ∀ text view, field (store text view) = some text) :
    (textField key store).reader.Follows (.text key field) :=
  Reader.text_follows (fun _ _ => expectStr_eq_ok) stores

theorem flagField_follows {store : Bool → MqttMeta → MqttMeta} {field : MqttMeta → Bool}
    (stores : ∀ flag view, field (store flag view) = flag) :
    (flagField key store).reader.Follows (.flag key field) :=
  Reader.flag_follows (fun _ _ => expectBool_eq_ok) stores

theorem numberField_follows {width : Nat} {store : UInt64 → MqttMeta → MqttMeta}
    {field : MqttMeta → Option UInt64}
    (stores : ∀ number view, number.toNat < 2 ^ width → field (store number view) = some number) :
    (numberField width key store).reader.Follows (.number width key field) :=
  Reader.number_follows (fun _ _ => readNumber_eq_ok) stores

theorem readers_follow : List.Forall₂ Reader.Follows (fields.map Field.reader) documented := by
  refine .cons (textField_follows fun _ _ => rfl) ?_
  refine .cons (numberField_follows fun _ _ fits => congrArg some (widened8 fits)) ?_
  refine .cons (flagField_follows fun _ _ => rfl) ?_
  refine .cons (flagField_follows fun _ _ => rfl) ?_
  refine .cons (numberField_follows fun _ _ fits => congrArg some (widened16 fits)) ?_
  refine .cons (textField_follows fun _ _ => rfl) ?_
  refine .cons (Reader.follows_of_map { key := "payload-format", admits := _, holds := _ }
    (fun value => ?_) fun value format view read => ?_) ?_
  · simp only [readPayloadFormat_eq_ok]
    constructor
    · rintro ⟨format, rfl⟩
      cases format
      · exact .inl rfl
      · exact .inr rfl
    · rintro (rfl | rfl)
      · exact ⟨.bytes, rfl⟩
      · exact ⟨.utf8, rfl⟩
  · rw [readPayloadFormat_eq_ok.mp read]
    rfl
  refine .cons (numberField_follows fun _ _ fits => congrArg some (widened32 fits)) ?_
  refine .cons (textField_follows fun _ _ => rfl) ?_
  refine .cons (Reader.follows_of_map
    { key := "correlation-data", admits := _, holds := _ }
    (fun value => ?_) fun value bytes view read => ?_) ?_
  · simp only [expectBytes_eq_ok]
  · rw [expectBytes_eq_ok.mp read]
    rfl
  refine .cons (numberField_follows fun _ _ fits => congrArg some (widened16 fits)) ?_
  refine .cons (Reader.follows_of_map (.list "subscription-identifiers" _ _ _)
    (fun value => ?_) fun value identifiers view read => ?_) ?_
  · simp only [readIdentifiers_eq_ok]
    constructor
    · rintro ⟨identifiers, rfl⟩
      exact ⟨_, rfl, fits_identifiers identifiers⟩
    · rintro ⟨numbers, rfl, fits⟩
      exact ⟨numbers.map UInt64.toUInt32, congrArg MetaValue.u64List (map_widened32 fits).symm⟩
  · rw [readIdentifiers_eq_ok.mp read]
    exact .inl rfl
  refine .cons (Reader.list_follows (fun _ _ => by rw [expectStrList_eq_ok, and_true])
    fun _ _ _ => rfl) ?_
  refine .cons (textField_follows fun _ _ => rfl) ?_
  refine .cons (textField_follows fun _ _ => rfl) ?_
  refine .cons (textField_follows fun _ _ => rfl) ?_
  refine .cons (flagField_follows fun _ _ => rfl) ?_
  refine .cons (flagField_follows fun _ _ => rfl) ?_
  refine .cons (Reader.follows_of_map
    { key := "retain-handling", admits := _, holds := _ }
    (fun value => ?_) fun value policy view read => ?_) .nil
  · simp only [readRetainHandling_eq_ok]
    constructor
    · rintro ⟨policy, rfl⟩
      exact ⟨retainHandlingCode policy, rfl, by cases policy <;> decide⟩
    · rintro ⟨code, rfl, known⟩
      have listed : code.toNat = 0 ∨ code.toNat = 1 ∨ code.toNat = 2 := by omega
      rcases listed with zero | one | two
      · exact ⟨.sendRetained, congrArg MetaValue.u64 (UInt64.toNat_inj.mp zero)⟩
      · exact ⟨.sendRetainedIfNotExists, congrArg MetaValue.u64 (UInt64.toNat_inj.mp one)⟩
      · exact ⟨.doNotSendRetained, congrArg MetaValue.u64 (UInt64.toNat_inj.mp two)⟩
  · rw [readRetainHandling_eq_ok.mp read]
    rfl

/-- A field that stores what it reads leaves alone what the view says of the other keys. -/
theorem keeps_of_map {α : Type} {row : Documented MqttMeta}
    {read : MetaValue → Except MqttCommandConversionError α} {store : α → MqttMeta → MqttMeta}
    (same : ∀ item view first, row.holds first (store item view) ↔ row.holds first view)
    (value : MetaValue) (update : MqttMeta → MqttMeta)
    (decoded : Field.read { key, read := fun value => (read value).map store } value = .ok update)
    (view : MqttMeta) (first : Option MetaValue) :
    row.holds first (update view) ↔ row.holds first view := by
  obtain ⟨item, -, rfl⟩ := map_eq_ok.mp decoded
  exact same item view first

theorem fields_keep (field : Field) (known : field ∈ fields) (row : Documented MqttMeta)
    (listed : row ∈ documented) (different : field.key ≠ row.key) :
    ∀ value update, field.read value = .ok update → ∀ view first,
      (row.holds first (update view) ↔ row.holds first view) := by
  simp only [fields, List.mem_cons, List.not_mem_nil, or_false] at known
  simp only [documented, List.mem_cons, List.not_mem_nil, or_false] at listed
  obtain rfl | rfl | rfl | rfl | rfl | rfl | rfl | rfl | rfl | rfl | rfl | rfl | rfl | rfl | rfl |
      rfl | rfl | rfl | rfl := known <;>
    obtain rfl | rfl | rfl | rfl | rfl | rfl | rfl | rfl | rfl | rfl | rfl | rfl | rfl | rfl |
      rfl | rfl | rfl | rfl | rfl := listed <;>
    first
    | exact keeps_of_map fun _ _ _ => Iff.rfl
    | exact absurd rfl different

/-! ## What a view says -/

theorem payloadFormatName_injective : Function.Injective payloadFormatName := by
  intro left right same
  cases left <;> cases right <;> simp_all [payloadFormatName]

theorem retainHandlingCode_injective : Function.Injective retainHandlingCode := by
  intro left right same
  cases left <;> cases right <;> simp_all [retainHandlingCode]

theorem toUInt64_injective8 : Function.Injective UInt8.toUInt64 := fun left right same => by
  simpa using congrArg UInt64.toUInt8 same

theorem toUInt64_injective16 : Function.Injective UInt16.toUInt64 := fun left right same => by
  simpa using congrArg UInt64.toUInt16 same

theorem toUInt64_injective32 : Function.Injective UInt32.toUInt64 := fun left right same => by
  simpa using congrArg UInt64.toUInt32 same

/-- The headers and what is said of every key determine a view. -/
theorem eq_of_agree {view other : MqttMeta} (headers : view.headers = other.headers)
    (rows : ∀ row ∈ documented, row.Agree view other) : view = other := by
  simp only [documented, List.forall_mem_cons] at rows
  obtain ⟨topic, qos, retain, duplicate, packetId, contentType, ⟨format, rfl, formats⟩, expiry,
    responseTopic, ⟨data, rfl, correlations⟩, topicAlias, identifiers, reasonCodes, reasonString,
    durableName, sharedGroup, noLocal, retainAsPublished, ⟨policy, rfl, policies⟩, -⟩ := rows
  have payloadFormat : view.payloadFormat = other.payloadFormat :=
    Option.map_injective (fun _ _ same => payloadFormatName_injective (MetaValue.str.inj same))
      formats
  have correlationData : view.correlationData = other.correlationData :=
    Option.map_injective (fun _ _ => MetaValue.bytes.inj) correlations
  have retainHandling : view.retainHandling = other.retainHandling :=
    Option.map_injective (fun _ _ same => retainHandlingCode_injective (MetaValue.u64.inj same))
      policies
  have widened := Documented.list_agree (fun _ _ => MetaValue.u64List.inj) identifiers
  have subscriptionIdentifiers : view.subscriptionIdentifiers = other.subscriptionIdentifiers :=
    List.map_injective_iff.mpr toUInt64_injective32 widened
  have topic := Documented.text_agree topic
  have qos := Documented.number_agree toUInt64_injective8 qos
  have retain := Documented.flag_agree retain
  have duplicate := Documented.flag_agree duplicate
  have packetId := Documented.number_agree toUInt64_injective16 packetId
  have contentType := Documented.text_agree contentType
  have expiry := Documented.number_agree toUInt64_injective32 expiry
  have responseTopic := Documented.text_agree responseTopic
  have topicAlias := Documented.number_agree toUInt64_injective16 topicAlias
  have reasonCodes := Documented.list_agree (fun _ _ => MetaValue.strList.inj) reasonCodes
  have reasonString := Documented.text_agree reasonString
  have durableName := Documented.text_agree durableName
  have sharedGroup := Documented.text_agree sharedGroup
  have noLocal := Documented.flag_agree noLocal
  have retainAsPublished := Documented.flag_agree retainAsPublished
  cases view
  cases other
  simp_all

/-- What a view says of a key is a value that the key admits. -/
theorem admits_of_holds (value : MetaValue) (view : MqttMeta) :
    ∀ row ∈ documented, row.holds (some value) view → row.admits value := by
  simp only [documented, List.forall_mem_cons]
  refine ⟨Documented.text_admits, Documented.number_admits fits8, Documented.flag_admits,
    Documented.flag_admits, Documented.number_admits fits16, Documented.text_admits, ?_,
    Documented.number_admits fits32, Documented.text_admits, ?_, Documented.number_admits fits16,
    Documented.list_admits fun view => fits_identifiers view.subscriptionIdentifiers,
    Documented.list_admits fun _ => trivial, Documented.text_admits, Documented.text_admits,
    Documented.text_admits, Documented.flag_admits, Documented.flag_admits, ?_,
    List.forall_mem_nil _⟩
  · intro holds
    obtain ⟨format, -, rfl⟩ := Option.map_eq_some_iff.mp holds.symm
    cases format
    · exact .inl rfl
    · exact .inr rfl
  · intro holds
    obtain ⟨bytes, -, rfl⟩ := Option.map_eq_some_iff.mp holds.symm
    exact ⟨bytes, rfl⟩
  · intro holds
    obtain ⟨policy, -, rfl⟩ := Option.map_eq_some_iff.mp holds.symm
    exact ⟨retainHandlingCode policy, rfl, by cases policy <;> decide⟩

/-! ## The decoder -/

theorem keys_distinct : (documented.map Documented.key).Nodup := by
  decide +kernel

theorem readsEntries : TransportMeta.ReadsEntries documented MqttMeta.headers decodeEntry := by
  rw [decodeEntry_eq_decodeWith]
  refine readsEntries_of_readers readers_follow keys_distinct ?_ (fun _ _ => eq_of_agree)
    admits_of_holds
  intro reader member value update decoded
  obtain ⟨field, known, rfl⟩ := List.mem_map.mp member
  refine ⟨fun view => ?_, fun row listed different =>
    fields_keep field known row listed different value update decoded⟩
  have ignores := fields_ignoreHeaders field known value update decoded view view.headers
  rw [show view.withHeaders view.headers = view from rfl] at ignores
  rw [ignores]
  rfl

theorem decodesFirst :
    TransportMeta.DecodesFirst .mqtt documented MqttMeta.headers tryFromTransportMeta := by
  refine TransportMeta.decodesFirst_of_walk readsEntries
    (fun headers => { default with headers }) .foreignExtensions (fun _ => rfl) ?_ fun _ => rfl
  intro headers
  simp only [documented, List.forall_mem_cons]
  exact ⟨rfl, rfl, .inr ⟨rfl, rfl⟩, .inr ⟨rfl, rfl⟩, rfl, rfl, rfl, rfl, rfl, rfl, rfl,
    .inr ⟨rfl, rfl⟩, .inr ⟨rfl, rfl⟩, rfl, rfl, rfl, .inr ⟨rfl, rfl⟩, .inr ⟨rfl, rfl⟩, rfl,
    List.forall_mem_nil _⟩

/-! ## Whole views -/

def fromTransportMeta (capture : TransportMeta) : Option MqttMeta :=
  (tryFromTransportMeta capture).toOption

def view (capture : TransportMeta) : Option MqttMeta :=
  (tryFromTransportMeta capture.asBorrowed).toOption

end MqttMeta
end Ferredge
