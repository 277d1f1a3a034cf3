import Ferredge.Core.Command

/-!
# Devices

Device definitions shared by the protocol adapters, and the reconnect policy of broker-oriented
transports.  A resource map is represented by its lookup function.
-/

namespace Ferredge

/-- A span of time. -/
structure Duration where
  /-- Length in nanoseconds. -/
  nanos : Nat
  deriving DecidableEq

/-- Protocol-specific resource descriptor attached to one device. -/
structure DeviceResource (attributes : Type) where
  /-- Protocol-specific resource metadata. -/
  resourceAttributes : attributes

/-- The metadata of a connected device that the protocol adapters read. -/
structure Device (attributes endpoint : Type) where
  /-- Stable device identifier. -/
  id : DeviceId
  /-- Protocol-owned transport endpoint configuration. -/
  endpoint : endpoint
  /-- Resource descriptors by name. -/
  resources : String → Option (DeviceResource attributes)

/-- Strategy used to compute the delay between broker reconnect attempts. -/
inductive BackoffStrategy where
  | fixed
  | exponential
  deriving DecidableEq

/-- Shared reconnect policy for broker-oriented transports. -/
structure BrokerReconnectConfig where
  /-- Whether automatic reconnect attempts are enabled. -/
  enabled : Bool
  /-- Delay before the first reconnect attempt in milliseconds. -/
  initialDelayMs : UInt64
  /-- Maximum delay between reconnect attempts in milliseconds. -/
  maxDelayMs : UInt64
  /-- Backoff strategy used to compute the retry delay. -/
  strategy : BackoffStrategy
  /-- Multiplier used by exponential backoff. -/
  multiplier : UInt32
  /-- Optional maximum reconnect attempts before surfacing failure. -/
  maxAttempts : Option UInt32
  /-- Whether broker subscriptions are replayed after a reconnect succeeds. -/
  replaySubscriptions : Bool
  /-- Whether outbound requests are queued while a reconnect is in progress. -/
  queueRequestsWhileDisconnected : Bool
  /-- Maximum number of queued outbound recovery requests retained in memory. -/
  maxQueuedRequests : UInt32
  deriving DecidableEq

namespace BrokerReconnectConfig

/-- The policy used when a device configures none. -/
def default : BrokerReconnectConfig :=
  { enabled := true
    initialDelayMs := 250
    maxDelayMs := 5000
    strategy := .exponential
    multiplier := 2
    maxAttempts := none
    replaySubscriptions := true
    queueRequestsWhileDisconnected := true
    maxQueuedRequests := 128 }

/-- Whether the given 1-based reconnect attempt is permitted. -/
def allowsAttempt (config : BrokerReconnectConfig) (attempt : UInt32) : Bool :=
  config.enabled && config.maxAttempts.all fun maxAttempts => attempt ≤ maxAttempts

end BrokerReconnectConfig
end Ferredge
