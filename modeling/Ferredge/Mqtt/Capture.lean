import Ferredge.Mqtt.Meta

/-!
# Captures of the MQTT view

A view is stored in a capture field by field, under the documented keys.  Fields without a value
are left out, and decoding the capture gives the view back.
-/

namespace Ferredge

open Fallible

/-! ## Storing distinct keys -/

namespace TransportMeta

variable {View ε : Type} {decodeEntry : View → String → MetaValue → Except ε View}

theorem setEntry_of_absent {key : String} {entries : List (String × MetaValue)}
    (absent : key ∉ entries.map Prod.fst) (value : MetaValue) :
    setEntry key value entries = entries ++ [(key, value)] := by
  induction entries with
  | nil => rfl
  | cons entry entries ih =>
      rw [List.map_cons, List.mem_cons, not_or] at absent
      have different : (entry.1 == key) = false := beq_eq_false_iff_ne.mpr (Ne.symm absent.1)
      rw [setEntry, different, if_neg (by simp), ih absent.2, List.cons_append]

/-- Storing distinct new keys appends their entries. -/
theorem foldl_set (capture : TransportMeta) (added : List (String × MetaValue))
    (distinct : ((capture.entries ++ added).map Prod.fst).Nodup) :
    (added.foldl (fun capture entry => capture.set entry.1 entry.2) capture) =
      { capture with entries := capture.entries ++ added } := by
  induction added generalizing capture with
  | nil => simp
  | cons entry added ih =>
      have absent : entry.1 ∉ capture.entries.map Prod.fst := by
        rw [List.map_append, List.map_cons, List.nodup_append] at distinct
        intro member
        exact distinct.2.2 entry.1 member entry.1 List.mem_cons_self rfl
      have stored : capture.set entry.1 entry.2 =
          { capture with entries := capture.entries ++ [entry] } := by
        rw [set, setEntry_of_absent absent]
      rw [List.foldl_cons, stored, ih]
      · simp
      · simpa using distinct

/-- Distinct keys are all decoded. -/
theorem walkEntries_eq_foldlM {entries : List (String × MetaValue)} {seen : List String}
    (distinct : (entries.map Prod.fst).Nodup) (unseen : ∀ entry ∈ entries, entry.1 ∉ seen)
    (view : View) :
    walkEntries decodeEntry seen view entries =
      entries.foldlM (fun view entry => decodeEntry view entry.1 entry.2) view := by
  induction entries generalizing seen view with
  | nil => rfl
  | cons entry entries ih =>
      obtain ⟨key, value⟩ := entry
      rw [List.map_cons, List.nodup_cons] at distinct
      rw [walkEntries, if_neg (unseen (key, value) List.mem_cons_self), List.foldlM_cons]
      refine bind_congr fun next => ih distinct.2 ?_ next
      intro entry member listed
      rcases List.mem_cons.mp listed with same | listed
      · have repeated : entry.1 ∈ entries.map Prod.fst := List.mem_map_of_mem member
        rw [same] at repeated
        exact distinct.1 repeated
      · exact unseen entry (List.mem_cons_of_mem _ member) listed

end TransportMeta

namespace MqttMeta

def payloadFormatName : MqttPayloadFormat → String
  | .bytes => "bytes"
  | .utf8 => "utf8"

def retainHandlingCode : MqttRetainHandling → UInt64
  | .sendRetained => 0
  | .sendRetainedIfNotExists => 1
  | .doNotSendRetained => 2

/-- A flag is stored only when it is set. -/
def flagValue (flag : Bool) : Option MetaValue := if flag then some (.bool true) else none

/-- A list is stored only when it has members. -/
def listValue {α : Type} (store : List α → MetaValue) (items : List α) : Option MetaValue :=
  if items.isEmpty then none else some (store items)

/-- Every documented key, with the value it is stored under in a capture of the view. -/
def captured (view : MqttMeta) : List (String × Option MetaValue) :=
  [ ("topic", view.topic.map .str),
    ("qos", view.qos.map fun qos => .u64 qos.toUInt64),
    ("retain", flagValue view.retain),
    ("duplicate", flagValue view.duplicate),
    ("packet-id", view.packetId.map fun packetId => .u64 packetId.toUInt64),
    ("content-type", view.contentType.map .str),
    ("payload-format", view.payloadFormat.map fun format => .str (payloadFormatName format)),
    ("message-expiry-interval-secs",
      view.messageExpiryIntervalSecs.map fun expiry => .u64 expiry.toUInt64),
    ("response-topic", view.responseTopic.map .str),
    ("correlation-data", view.correlationData.map .bytes),
    ("topic-alias", view.topicAlias.map fun topicAlias => .u64 topicAlias.toUInt64),
    ("subscription-identifiers",
      listValue (fun identifiers => .u64List (identifiers.map UInt32.toUInt64))
        view.subscriptionIdentifiers),
    ("reason-codes", listValue .strList view.reasonCodes),
    ("reason-string", view.reasonString.map .str),
    ("durable-name", view.durableName.map .str),
    ("shared-group", view.sharedGroup.map .str),
    ("no-local", flagValue view.noLocal),
    ("retain-as-published", flagValue view.retainAsPublished),
    ("retain-handling", view.retainHandling.map fun policy => .u64 (retainHandlingCode policy)) ]

/-- The entries that have a value. -/
def presentEntries (table : List (String × Option MetaValue)) : List (String × MetaValue) :=
  table.filterMap fun row => row.2.map fun value => (row.1, value)

/-- Stores the view in a capture, one present field after the other. -/
def intoTransportMeta (view : MqttMeta) : TransportMeta :=
  { (presentEntries view.captured).foldl
      (fun capture entry => capture.set entry.1 entry.2) (TransportMeta.new .mqtt) with
    headers := view.headers }

/-! ## The capture of a view decodes to the view -/

theorem keys_presentEntries (table : List (String × Option MetaValue)) :
    ((presentEntries table).map Prod.fst).Sublist (table.map Prod.fst) := by
  induction table with
  | nil => exact List.Sublist.refl _
  | cons row table ih =>
      obtain ⟨key, value⟩ := row
      cases value with
      | none => exact ih.cons key
      | some value => exact ih.cons_cons key

theorem distinct_presentEntries (view : MqttMeta) :
    ((presentEntries view.captured).map Prod.fst).Nodup := by
  refine (keys_presentEntries view.captured).nodup ?_
  show ["topic", "qos", "retain", "duplicate", "packet-id", "content-type", "payload-format",
    "message-expiry-interval-secs", "response-topic", "correlation-data", "topic-alias",
    "subscription-identifiers", "reason-codes", "reason-string", "durable-name", "shared-group",
    "no-local", "retain-as-published", "retain-handling"].Nodup
  decide +kernel

/-- Decodes the value of one row, if it has one. -/
def decodeRow (view : MqttMeta) (row : String × Option MetaValue) :
    Except MqttCommandConversionError MqttMeta :=
  match row.2 with
  | some value => decodeEntry view row.1 value
  | none => .ok view

theorem foldlM_presentEntries (table : List (String × Option MetaValue)) (view : MqttMeta) :
    (presentEntries table).foldlM (fun view entry => decodeEntry view entry.1 entry.2) view =
      table.foldlM decodeRow view := by
  induction table generalizing view with
  | nil => rfl
  | cons row table ih =>
      obtain ⟨key, value⟩ := row
      rw [List.foldlM_cons]
      cases value with
      | none => exact ih view
      | some value =>
          have listed : presentEntries ((key, some value) :: table) =
              (key, value) :: presentEntries table := rfl
          rw [listed, List.foldlM_cons]
          exact bind_congr ih

/-- A row without a value leaves the field at its default, and one with a value sets it. -/
theorem decodeRow_option {α : Type} {key : String} {item : Option α} {store : α → MetaValue}
    {view : MqttMeta} (setField : Option α → MqttMeta)
    (absent : setField none = view)
    (present : ∀ value, decodeEntry view key (store value) = .ok (setField (some value))) :
    decodeRow view (key, item.map store) = .ok (setField item) := by
  cases item with
  | none => exact congrArg Except.ok absent.symm
  | some value => exact present value

theorem decodeRow_flag {key : String} {flag : Bool} {view : MqttMeta}
    (setField : Bool → MqttMeta) (absent : setField false = view)
    (present : decodeEntry view key (.bool true) = .ok (setField true)) :
    decodeRow view (key, flagValue flag) = .ok (setField flag) := by
  cases flag with
  | false => exact congrArg Except.ok absent.symm
  | true => exact present

theorem decodeRow_list {α : Type} {key : String} {items : List α} {store : List α → MetaValue}
    {view : MqttMeta} (setField : List α → MqttMeta) (absent : setField [] = view)
    (present : decodeEntry view key (store items) = .ok (setField items)) :
    decodeRow view (key, listValue store items) = .ok (setField items) := by
  cases items with
  | nil => exact congrArg Except.ok absent.symm
  | cons item items => exact present

/-- A known key is decoded by the reader of its field. -/
theorem decodeEntry_of_known {key : String} {field : Field} {view after : MqttMeta}
    {value : MetaValue} (known : fields.find? (fun field => field.key == key) = some field)
    {store : MqttMeta → MqttMeta} (read : field.read value = .ok store)
    (stored : store view = after) : decodeEntry view key value = .ok after := by
  rw [decodeEntry, known]
  simp only [read, ← stored]
  rfl

/-- A number that fits its field is read back. -/
theorem read_numberField {width : Nat} {key : String} {store : UInt64 → MqttMeta → MqttMeta}
    {number : UInt64} (fits : number.toNat < 2 ^ width) :
    (numberField width key store).read (.u64 number) = .ok (store number) := by
  simp [numberField, expectU64, checkedCaptureValue, fits, bind, Except.bind, Except.map]

/-- The view with only as many of its fields as a walk over the capture has reached. -/
def reached (count : Nat) (view : MqttMeta) : MqttMeta :=
  { topic := if 0 < count then view.topic else none
    qos := if 1 < count then view.qos else none
    retain := if 2 < count then view.retain else false
    duplicate := if 3 < count then view.duplicate else false
    packetId := if 4 < count then view.packetId else none
    contentType := if 5 < count then view.contentType else none
    payloadFormat := if 6 < count then view.payloadFormat else none
    messageExpiryIntervalSecs := if 7 < count then view.messageExpiryIntervalSecs else none
    responseTopic := if 8 < count then view.responseTopic else none
    correlationData := if 9 < count then view.correlationData else none
    topicAlias := if 10 < count then view.topicAlias else none
    subscriptionIdentifiers := if 11 < count then view.subscriptionIdentifiers else []
    reasonCodes := if 12 < count then view.reasonCodes else []
    reasonString := if 13 < count then view.reasonString else none
    durableName := if 14 < count then view.durableName else none
    sharedGroup := if 15 < count then view.sharedGroup else none
    noLocal := if 16 < count then view.noLocal else false
    retainAsPublished := if 17 < count then view.retainAsPublished else false
    retainHandling := if 18 < count then view.retainHandling else none
    headers := view.headers }

theorem foldlM_decodeRow {rows : List (String × Option MetaValue)}
    {row : String × Option MetaValue} {view last : MqttMeta} (next : MqttMeta)
    (first : decodeRow view row = .ok next) (later : rows.foldlM decodeRow next = .ok last) :
    (row :: rows).foldlM decodeRow view = .ok last := by
  rw [List.foldlM_cons, first]
  exact later

theorem fits8 (value : UInt8) : value.toUInt64.toNat < 2 ^ 8 := by
  simpa using value.toNat_lt

theorem fits16 (value : UInt16) : value.toUInt64.toNat < 2 ^ 16 := by
  simpa using value.toNat_lt

theorem fits32 (value : UInt32) : value.toUInt64.toNat < 2 ^ 32 := by
  simpa using value.toNat_lt

theorem mapM_checkedCaptureValue (key : String) (identifiers : List UInt32) :
    (identifiers.map UInt32.toUInt64).mapM (fun value =>
        (checkedCaptureValue 32 key value).map UInt64.toUInt32) = .ok identifiers := by
  rw [mapM_eq_ok, List.forall₂_map_left_iff, List.forall₂_same]
  intro identifier _
  rw [checkedCaptureValue, if_pos (fits32 identifier)]
  simp [Except.map]

theorem read_identifiers (identifiers : List UInt32) :
    ((readIdentifiers "subscription-identifiers"
        (.u64List (identifiers.map UInt32.toUInt64))).map fun identifiers (view : MqttMeta) =>
          { view with subscriptionIdentifiers := identifiers }) =
      .ok fun view => { view with subscriptionIdentifiers := identifiers } := by
  have read : readIdentifiers "subscription-identifiers"
      (.u64List (identifiers.map UInt32.toUInt64)) = .ok identifiers :=
    mapM_checkedCaptureValue "subscription-identifiers" identifiers
  rw [read]
  rfl

/-- Every row stores its own field of the view. -/
theorem foldlM_captured (view : MqttMeta) :
    view.captured.foldlM decodeRow (reached 0 view) = .ok view := by
  refine foldlM_decodeRow (reached 1 view) (decodeRow_option
    (fun topic => { reached 0 view with topic }) rfl
    fun value => decodeEntry_of_known rfl rfl rfl) ?_
  refine foldlM_decodeRow (reached 2 view) (decodeRow_option
    (fun qos => { reached 1 view with qos }) rfl
    fun value => decodeEntry_of_known rfl (read_numberField (fits8 value)) (by simp [reached])) ?_
  refine foldlM_decodeRow (reached 3 view) (decodeRow_flag
    (fun retain => { reached 2 view with retain }) rfl
    (decodeEntry_of_known rfl rfl rfl)) ?_
  refine foldlM_decodeRow (reached 4 view) (decodeRow_flag
    (fun duplicate => { reached 3 view with duplicate }) rfl
    (decodeEntry_of_known rfl rfl rfl)) ?_
  refine foldlM_decodeRow (reached 5 view) (decodeRow_option
    (fun packetId => { reached 4 view with packetId }) rfl
    fun value => decodeEntry_of_known rfl (read_numberField (fits16 value)) (by simp [reached])) ?_
  refine foldlM_decodeRow (reached 6 view) (decodeRow_option
    (fun contentType => { reached 5 view with contentType }) rfl
    fun value => decodeEntry_of_known rfl rfl rfl) ?_
  refine foldlM_decodeRow (reached 7 view) (decodeRow_option
    (fun payloadFormat => { reached 6 view with payloadFormat }) rfl
    fun value => by cases value <;> exact decodeEntry_of_known rfl rfl rfl) ?_
  refine foldlM_decodeRow (reached 8 view) (decodeRow_option
    (fun messageExpiryIntervalSecs => { reached 7 view with messageExpiryIntervalSecs }) rfl
    fun value => decodeEntry_of_known rfl (read_numberField (fits32 value)) (by simp [reached])) ?_
  refine foldlM_decodeRow (reached 9 view) (decodeRow_option
    (fun responseTopic => { reached 8 view with responseTopic }) rfl
    fun value => decodeEntry_of_known rfl rfl rfl) ?_
  refine foldlM_decodeRow (reached 10 view) (decodeRow_option
    (fun correlationData => { reached 9 view with correlationData }) rfl
    fun value => decodeEntry_of_known rfl rfl rfl) ?_
  refine foldlM_decodeRow (reached 11 view) (decodeRow_option
    (fun topicAlias => { reached 10 view with topicAlias }) rfl
    fun value => decodeEntry_of_known rfl (read_numberField (fits16 value)) (by simp [reached])) ?_
  refine foldlM_decodeRow (reached 12 view) (decodeRow_list
    (fun subscriptionIdentifiers => { reached 11 view with subscriptionIdentifiers }) rfl
    (decodeEntry_of_known rfl (read_identifiers _) rfl)) ?_
  refine foldlM_decodeRow (reached 13 view) (decodeRow_list
    (fun reasonCodes => { reached 12 view with reasonCodes }) rfl
    (decodeEntry_of_known rfl rfl rfl)) ?_
  refine foldlM_decodeRow (reached 14 view) (decodeRow_option
    (fun reasonString => { reached 13 view with reasonString }) rfl
    fun value => decodeEntry_of_known rfl rfl rfl) ?_
  refine foldlM_decodeRow (reached 15 view) (decodeRow_option
    (fun durableName => { reached 14 view with durableName }) rfl
    fun value => decodeEntry_of_known rfl rfl rfl) ?_
  refine foldlM_decodeRow (reached 16 view) (decodeRow_option
    (fun sharedGroup => { reached 15 view with sharedGroup }) rfl
    fun value => decodeEntry_of_known rfl rfl rfl) ?_
  refine foldlM_decodeRow (reached 17 view) (decodeRow_flag
    (fun noLocal => { reached 16 view with noLocal }) rfl
    (decodeEntry_of_known rfl rfl rfl)) ?_
  refine foldlM_decodeRow (reached 18 view) (decodeRow_flag
    (fun retainAsPublished => { reached 17 view with retainAsPublished }) rfl
    (decodeEntry_of_known rfl rfl rfl)) ?_
  refine foldlM_decodeRow (reached 19 view) (decodeRow_option
    (fun retainHandling => { reached 18 view with retainHandling }) rfl
    fun value => by cases value <;> exact decodeEntry_of_known rfl rfl rfl) ?_
  rfl

/-- Decoding the capture of a view gives the view. -/
theorem tryFromTransportMeta_intoTransportMeta (view : MqttMeta) :
    tryFromTransportMeta view.intoTransportMeta = .ok view := by
  have distinct := distinct_presentEntries view
  have entries : view.intoTransportMeta =
      { protocol := .mqtt, headers := view.headers, entries := presentEntries view.captured } := by
    rw [intoTransportMeta, TransportMeta.foldl_set _ _ distinct]
    rfl
  rw [entries, tryFromTransportMeta, if_neg (by simp)]
  rw [TransportMeta.walkEntries_eq_foldlM distinct (by simp), foldlM_presentEntries]
  exact foldlM_captured view

end MqttMeta
end Ferredge
