import Ferredge.Core.Command

/-!
# Routes and routed envelopes

Logical routes and the unified envelope accepted by the router and bridge layers.
-/

namespace Ferredge

/-- Typed addressed-access metadata used by addressed field/register planners and codecs. -/
structure AddressedAccessMeta where
  address : UInt32
  domain : String
  quantity : Option UInt16
  deriving DecidableEq

/-- Lossless logical route carried by routed and bridge envelopes. -/
inductive Route where
  | requestResponse (resource : String) (path : Option String)
  | messaging (topic : String)
  | addressedAccess (resource : String) (access : AddressedAccessMeta) (nodeId : Option UInt32)
  deriving DecidableEq

/-- Concrete source or target transport endpoint inside the router graph. -/
structure EndpointRef where
  deviceId : DeviceId
  protocol : ProtocolId
  deriving DecidableEq

/-- Normalized inbound event emitted by one protocol adapter. -/
structure RoutedEvent where
  source : EndpointRef
  route : Route
  payload : PayloadValue
  correlation : Option Correlation
  transport : Option TransportMeta

/-- Normalized command result or transport completion emitted by one adapter. -/
structure RoutedResult where
  source : EndpointRef
  result : CommandResult
  transport : Option TransportMeta

/-- Unified message envelope accepted by router and bridge layers. -/
inductive RoutedMessage where
  | command (command : Command)
  | event (event : RoutedEvent)
  | result (result : RoutedResult)

end Ferredge
