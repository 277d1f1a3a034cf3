import Ferredge.Core.Routed

/-!
# Bridge messages

The protocol-neutral intermediate representation: capability families, semantic operations, and
the command, event and result envelopes.
-/

namespace Ferredge

/-- Flags of one capability family. -/
structure CapabilityFlags where
  binaryPayloads : Bool
  deriving DecidableEq

/-- Capability family expressed by a bridge message. -/
inductive BridgeCapability where
  | messaging (flags : CapabilityFlags)
  | requestResponse (flags : CapabilityFlags)
  | registerAccess (flags : CapabilityFlags)
  | binaryStreamReserved
  | sessionStreamReserved
  deriving DecidableEq

/-- Concrete request/response action. -/
inductive RequestResponseAction where
  | read
  | write
  | invoke
  deriving DecidableEq

/-- Request/response operation. -/
structure RequestResponseOp where
  action : RequestResponseAction
  method : Option String
  contentType : Option String
  deriving DecidableEq

/-- Concrete messaging action. -/
inductive MessagingAction where
  | publish
  | subscribe
  | unsubscribe
  deriving DecidableEq

/-- Messaging operation. -/
structure MessagingOp where
  action : MessagingAction
  delivery : Option DeliveryGuarantee
  durableName : Option String
  sharedGroup : Option String
  deriving DecidableEq

/-- Concrete register-access action. -/
inductive RegisterAccessAction where
  | read
  | write
  deriving DecidableEq

/-- Register-access operation. -/
structure RegisterAccessOp where
  action : RegisterAccessAction
  deriving DecidableEq

/-- Semantic operation family represented by a bridge message. -/
inductive BridgeOp where
  | requestResponse (operation : RequestResponseOp)
  | messaging (operation : MessagingOp)
  | registerAccess (operation : RegisterAccessOp)
  deriving DecidableEq

/-- High-level bridge fault category. -/
inductive BridgeFaultCategory where
  | unsupported
  | notFound
  | invalidInput
  | transport
  | timeout
  | protocol
  | rejected
  | internal
  deriving DecidableEq

/-- Source context associated with a normalized bridge fault. -/
structure BridgeFaultSource where
  protocol : Option ProtocolId
  location : Option String
  deriving DecidableEq

/-- Normalized bridge fault with protocol-neutral classification. -/
structure BridgeFault where
  category : BridgeFaultCategory
  protocolCode : Option String
  retryable : Bool
  source : Option BridgeFaultSource
  detail : Option String
  deriving DecidableEq

/-- Normalized outbound bridge command. -/
structure BridgeCommand where
  id : CommandId
  sourceDeviceId : Option DeviceId
  targetDeviceId : DeviceId
  capability : BridgeCapability
  operation : BridgeOp
  payload : Option PayloadValue
  route : Route
  transport : Option TransportMeta
  headers : Option Headers
  correlation : Option Correlation

/-- Normalized inbound bridge event. -/
structure BridgeEvent where
  source : EndpointRef
  capability : BridgeCapability
  operation : BridgeOp
  payload : PayloadValue
  route : Route
  transport : Option TransportMeta
  headers : Option Headers
  correlation : Option Correlation

/-- Shared context metadata carried by every bridge result. -/
structure BridgeMessageMeta where
  source : EndpointRef
  commandId : CommandId
  capability : Option BridgeCapability
  operation : Option BridgeOp
  transport : Option TransportMeta
  headers : Option Headers
  correlation : Option Correlation

/-- Lifecycle outcome carried by a bridge result. -/
inductive BridgeOutcome where
  | progress (state : DeliveryState)
  | success (payload : Option PayloadValue)
  | failure (state : DeliveryState) (payload : Option PayloadValue) (error : Option String)
      (fault : BridgeFault)

/-- Normalized bridge result or completion. -/
structure BridgeResult where
  context : BridgeMessageMeta
  outcome : BridgeOutcome

/-- Top-level bridge message envelope shared across protocols. -/
inductive BridgeMessage where
  | command (command : BridgeCommand)
  | event (event : BridgeEvent)
  | result (result : BridgeResult)

/-- Planner error raised when core semantics cannot be expressed as a bridge message. -/
inductive BridgePlannerError where
  | unsupportedIntent
  | unexpectedMessageKind (expected : String)
  deriving DecidableEq

end Ferredge
