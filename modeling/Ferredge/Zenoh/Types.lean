import Ferredge.Core.Device

/-!
# Zenoh types

Resource attributes, native plans, requests and errors of the Zenoh adapter, and the status of its
background listener.
-/

namespace Ferredge

/-- Zenoh operation type for resource attributes. -/
inductive ZenohOperation where
  | publish
  | subscribe
  | query
  | queryable
  deriving DecidableEq

/-- Zenoh-specific resource attributes. -/
structure ZenohResourceAttributes where
  keyExpr : String
  operation : ZenohOperation
  queryTimeoutMs : Option UInt64
  deriving DecidableEq

/-- Zenoh-specific endpoint configuration. -/
structure ZenohEndpointConfig where
  locators : List String
  deriving DecidableEq

/-- Device definition bound to the Zenoh endpoint and resource model. -/
abbrev ZenohDevice := Device ZenohResourceAttributes ZenohEndpointConfig

/-- Native plan for Zenoh operations. -/
inductive ZenohNativePlan where
  | put (commandId keyExpr : String) (payload : PayloadValue)
  | subscribe (commandId keyExpr : String)
  | unsubscribe (commandId keyExpr : String)
  | get (commandId keyExpr : String) (parameters : Option String)
  | declareQueryable (commandId keyExpr : String)
  | undeclareQueryable (commandId keyExpr : String)

structure ZenohPublishRequest where
  commandId : String
  keyExpr : String
  payload : Bytes
  deriving DecidableEq

structure ZenohSubscription where
  commandId : String
  keyExpr : String
  deriving DecidableEq

structure ZenohQueryRequest where
  commandId : String
  keyExpr : String
  parameters : Option String
  timeoutMs : Option UInt64
  deriving DecidableEq

structure ZenohQueryableRequest where
  commandId : String
  keyExpr : String
  deriving DecidableEq

inductive ZenohRequest where
  | publish (request : ZenohPublishRequest)
  | query (request : ZenohQueryRequest)
  | declareQueryable (request : ZenohQueryableRequest)
  | undeclareQueryable (request : ZenohQueryableRequest)
  deriving DecidableEq

/-- Single reply from a query. -/
structure ZenohReply where
  keyExpr : String
  payload : Bytes
  deriving DecidableEq

inductive ZenohResponse where
  | published
  | queryResponse (replies : List ZenohReply)
  | queryableDeclared
  | queryableUndeclared
  deriving DecidableEq

/-- Zenoh event from a subscription. -/
structure ZenohEvent where
  keyExpr : String
  payload : Bytes
  deriving DecidableEq

/-- Zenoh protocol errors that the std runtime raises. -/
inductive ZenohError where
  | sessionNotInitialized
  | sessionInitFailed (text : String)
  | subscriptionNotFound (keyExpr : String)
  | queryableNotFound (keyExpr : String)
  | listenerAlreadyRunning
  | io (text : String)
  deriving DecidableEq

/-- How an error reads. -/
def ZenohError.text : ZenohError → String
  | sessionNotInitialized => "Zenoh session not initialized"
  | sessionInitFailed text => "Zenoh session initialization failed: " ++ text
  | subscriptionNotFound keyExpr => "Subscription not found: " ++ keyExpr
  | queryableNotFound keyExpr => "Queryable not found: " ++ keyExpr
  | listenerAlreadyRunning => "Listener already running"
  | io text => "IO error: " ++ text

/-- Command conversion errors that the adapter raises. -/
inductive ZenohCommandConversionError where
  | unsupportedIntent (text : String)
  | invalidAddressType (expected : String)
  | payloadEncoding (text : String)
  deriving DecidableEq

/-- Current state of the Zenoh background listener runtime. -/
inductive ZenohListenerStatus where
  | stopped
  | running
  /-- The listener stopped after a runtime or sink failure. -/
  | failed (text : String)
  deriving DecidableEq

end Ferredge
