import Ferredge.Core.Meta

/-!
# Commands and payloads

The protocol-neutral command layer: identifiers, typed payloads, intents with their option
records, and command results.  A floating-point payload is kept as its IEEE 754 bit pattern.
-/

namespace Ferredge

/-- Unique identifier for command lifecycle and correlation. -/
structure CommandId where
  text : String
  deriving DecidableEq

/-- Stable identifier for a registered device. -/
structure DeviceId where
  text : String
  deriving DecidableEq

/-- Logical resource name targeted by request/response and addressed-access intents. -/
structure ResourceName where
  text : String
  deriving DecidableEq

/-- Named operation invoked on a device or service. -/
structure OperationName where
  text : String
  deriving DecidableEq

/-- Broker channel name such as a topic, queue, subject, or stream. -/
structure ChannelName where
  text : String
  deriving DecidableEq

/-- High-level lifecycle state for command delivery and completion. -/
inductive DeliveryState where
  | accepted
  | dispatched
  | completed
  | rejected
  | timedOut
  deriving DecidableEq

/-- Protocol-neutral logical address used by routed messages. -/
inductive Address where
  | resource (value : String)
  | channel (value : String)
  deriving DecidableEq

/-- Correlates async replies or completion events with the original request. -/
structure Correlation where
  requestId : CommandId
  replyTo : Option Address
  deriving DecidableEq

/-- Common delivery guarantees shared by broker-style protocols. -/
inductive DeliveryGuarantee where
  | bestEffort
  | atLeastOnce
  | exactlyOnce
  deriving DecidableEq

/-- Common broker channel categories used by transport-neutral routing. -/
inductive BrokerChannelKind where
  | topic
  | queue
  | subject
  | stream
  deriving DecidableEq

/-- Generic broker address used across topic, queue, subject, and stream transports. -/
structure BrokerAddress where
  name : ChannelName
  kind : Option BrokerChannelKind
  deriving DecidableEq

/-- Protocol-neutral broker send options. -/
structure BrokerMessageOptions where
  delivery : Option DeliveryGuarantee
  headers : Headers
  extensions : Option TransportMeta
  deriving DecidableEq

/-- Protocol-neutral request options preserved for request/response transports. -/
structure RequestOptions where
  headers : Headers
  contentType : Option String
  method : Option String
  path : Option String
  extensions : Option TransportMeta
  deriving DecidableEq

/-- Protocol-neutral broker subscription options. -/
structure BrokerSubscriptionOptions where
  delivery : Option DeliveryGuarantee
  durableName : Option String
  sharedGroup : Option String
  extensions : Option TransportMeta
  deriving DecidableEq

/-- The IEEE 754 bit pattern of a 64-bit floating-point payload. -/
abbrev F64Bits := UInt64

/-- Protocol-neutral typed payload carried across commands, results, and routing. -/
inductive PayloadValue where
  | null
  | bool (value : Bool)
  | i64 (value : Int64)
  | u64 (value : UInt64)
  | f64 (bits : F64Bits)
  | string (value : String)
  | bytes (value : Bytes)
  | list (values : List PayloadValue)
  | map (entries : List (String × PayloadValue))

/-- Protocol-neutral operation intent routed between adapters. -/
inductive Intent where
  | read (resource : ResourceName) (options : RequestOptions)
  | write (resource : ResourceName) (payload : PayloadValue) (options : RequestOptions)
  | invoke (operation : OperationName) (args : Option PayloadValue) (options : RequestOptions)
  | send (channel : BrokerAddress) (payload : PayloadValue) (options : BrokerMessageOptions)
  | subscribe (channel : BrokerAddress) (options : BrokerSubscriptionOptions)
  | unsubscribe (channel : BrokerAddress)

/-- A protocol-neutral command sent to a device or the core. -/
structure Command where
  id : CommandId
  sourceDeviceId : Option DeviceId
  targetDeviceId : DeviceId
  intent : Intent
  correlation : Option Correlation

/-- The result of command execution or delivery. -/
structure CommandResult where
  commandId : CommandId
  deviceId : DeviceId
  state : DeliveryState
  payload : Option PayloadValue
  error : Option String
  correlation : Option Correlation

/-! ## Borrowed payloads -/

namespace PayloadValue

mutual

/-- Re-borrows a payload; its content stays the same. -/
def asBorrowed : PayloadValue → PayloadValue
  | .null => .null
  | .bool value => .bool value
  | .i64 value => .i64 value
  | .u64 value => .u64 value
  | .f64 bits => .f64 bits
  | .string value => .string value
  | .bytes value => .bytes value
  | .list values => .list (borrowedValues values)
  | .map entries => .map (borrowedEntries entries)

def borrowedValues : List PayloadValue → List PayloadValue
  | [] => []
  | value :: values => value.asBorrowed :: borrowedValues values

def borrowedEntries : List (String × PayloadValue) → List (String × PayloadValue)
  | [] => []
  | (key, value) :: entries => (key, value.asBorrowed) :: borrowedEntries entries

end

mutual

@[simp]
theorem asBorrowed_eq : ∀ value : PayloadValue, value.asBorrowed = value
  | .null => rfl
  | .bool _ => rfl
  | .i64 _ => rfl
  | .u64 _ => rfl
  | .f64 _ => rfl
  | .string _ => rfl
  | .bytes _ => rfl
  | .list values => by rw [asBorrowed, borrowedValues_eq values]
  | .map entries => by rw [asBorrowed, borrowedEntries_eq entries]

theorem borrowedValues_eq : ∀ values, borrowedValues values = values
  | [] => rfl
  | value :: values => by rw [borrowedValues, asBorrowed_eq value, borrowedValues_eq values]

theorem borrowedEntries_eq : ∀ entries, borrowedEntries entries = entries
  | [] => rfl
  | (key, value) :: entries => by
      rw [borrowedEntries, asBorrowed_eq value, borrowedEntries_eq entries]

end

end PayloadValue

end Ferredge
