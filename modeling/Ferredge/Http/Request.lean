import Ferredge.Core.Device
import Ferredge.Bridge.Planner
import Ferredge.Http.Meta

/-!
# HTTP requests

The two outbound pipelines of the HTTP adapter.  The native one plans a command directly; the
bridge one plans it into the bridge representation and lowers that.  Both end in the same encoder,
so they agree once their plans do.
-/

namespace Ferredge

open Fallible

/-- HTTP-specific resource metadata used to build outbound requests. -/
structure HttpResourceAttributes where
  slug : String
  method : String
  headers : Option (List (String × String))

/-- HTTP-specific endpoint configuration. -/
structure HttpEndpointConfig where
  url : String

/-- Device definition bound to the HTTP endpoint and resource model. -/
abbrev HttpDevice := Device HttpResourceAttributes HttpEndpointConfig

/-- Native outbound HTTP request used by the HTTP protocol adapter. -/
structure HttpRequest where
  method : String
  path : String
  body : Option Bytes
  headers : List (String × String)
  deriving DecidableEq

/-- Native outbound HTTP plan shared by direct and bridge-driven planning. -/
structure HttpNativePlan where
  resource : String
  action : RequestResponseAction
  payload : Option PayloadValue
  method : Option String
  path : Option String
  contentType : Option String
  headers : List (String × String)

namespace Http

/-- Splits an options capture into a typed HTTP view. -/
def splitHttpExtensions :
    Option TransportMeta → Except HttpCommandConversionError HttpMeta
  | some capture => HttpMeta.tryFromTransportMeta capture
  | none => .ok HttpMeta.default

/-- Header pairs of an ordered collection. -/
def headerPairs (headers : Headers) : List (String × String) :=
  headers.map fun header => (header.key, header.value)

/-- The plan of a request whose capture is decoded: options win over capture entries, and the
captured headers follow the envelope's own. -/
def mergedPlan (resource : String) (action : RequestResponseAction)
    (payload : Option PayloadValue) (options : RequestOptions) (capture : HttpMeta) :
    HttpNativePlan :=
  let headers :=
    match capture.headers with
    | some captured => options.headers.merge captured
    | none => options.headers
  { resource
    action
    payload
    method := options.method.or capture.method
    path := options.path.or capture.path
    contentType := options.contentType.or capture.contentType
    headers := headerPairs headers }

/-- The native plan shared by reads, writes and invocations. -/
def planRequest (resource : String) (action : RequestResponseAction)
    (payload : Option PayloadValue) (options : RequestOptions) :
    Except HttpCommandConversionError HttpNativePlan := do
  let capture ← splitHttpExtensions options.extensions
  return mergedPlan resource action payload options capture

/-- Plans a command directly through protocol-native semantics. -/
def planNative (command : Command) : Except HttpCommandConversionError HttpNativePlan :=
  match command.intent with
  | .read resource options => planRequest resource.text .read none options
  | .write resource payload options => planRequest resource.text .write (some payload) options
  | .invoke operation args options => planRequest operation.text .invoke args options
  | _ => .error .unsupportedIntent

/-- Plans a command through the bridge representation. -/
def planBridge (command : Command) : Except BridgePlannerError BridgeMessage :=
  BridgePlanner.commandToRequestResponse command

/-- Lowers a bridge message to a native plan. -/
def planOfBridge (message : BridgeMessage) :
    Except HttpCommandConversionError HttpNativePlan := do
  let .command command := message | .error .invalidBridgeMessage
  let .requestResponse operation := command.operation | .error .invalidBridgeMessage
  let .requestResponse resource path := command.route | .error .invalidBridgeMessage
  let capture ← splitHttpExtensions command.transport
  return {
    resource
    action := operation.action
    payload := command.payload
    method := operation.method.or capture.method
    path := path.or capture.path
    contentType := operation.contentType.or capture.contentType
    headers := (command.headers.map headerPairs).getD [] }

/-- Body bytes of a payload. -/
def httpBodyFromPayload : PayloadValue → Except HttpCommandConversionError Bytes
  | .bytes bytes => .ok bytes
  | .string value => .ok value.toUTF8.data.toList
  | .null => .ok []
  | _ => .error (.invalidPayload
      "HTTP bodies currently support only string or bytes payloads")

/-- Replaces the first header of the same name, or appends the pair. -/
def mergeHeader (key value : String) : List (String × String) → List (String × String)
  | [] => [(key, value)]
  | header :: rest =>
      if eqIgnoreAsciiCase header.1 key then (key, value) :: rest
      else header :: mergeHeader key value rest

/-- Body of an optional payload; every action encodes it the same way. -/
def encodeBody : Option PayloadValue → Except HttpCommandConversionError (Option Bytes)
  | some payload => (httpBodyFromPayload payload).map some
  | none => .ok none

/-- The resource definition a plan names. -/
def lookupResource (device : HttpDevice) (resource : String) :
    Except HttpCommandConversionError HttpResourceAttributes :=
  match device.resources resource with
  | some resourceDef => .ok resourceDef.resourceAttributes
  | none => .error (.unknownResource resource)

/-- Encodes a native plan against the resource map of one device. -/
def encode (device : HttpDevice) (planned : HttpNativePlan) :
    Except HttpCommandConversionError HttpRequest := do
  let attributes ← lookupResource device planned.resource
  let body ← encodeBody planned.payload
  let headers := planned.headers.foldl (fun headers header =>
    mergeHeader header.1 header.2 headers) (attributes.headers.getD [])
  return {
    method := planned.method.getD attributes.method
    path := planned.path.getD attributes.slug
    body
    headers :=
      match planned.contentType with
      | some contentType => mergeHeader "Content-Type" contentType headers
      | none => headers }

/-- The request built directly from a command. -/
def nativeRequest (device : HttpDevice) (command : Command) :
    Except HttpCommandConversionError HttpRequest := do
  let plan ← planNative command
  encode device plan

/-- The request built from a command through the bridge representation. -/
def bridgeRequest (device : HttpDevice) (command : Command) :
    Except HttpCommandConversionError HttpRequest := do
  let bridge ← (planBridge command).mapError .bridge
  let plan ← planOfBridge bridge
  encode device plan

/-- Reads the bridge planner's refusal of an intent as the adapter's own. -/
def unifyUnsupportedIntent : HttpCommandConversionError → HttpCommandConversionError
  | .bridge .unsupportedIntent => .unsupportedIntent
  | error => error

/-! ## Agreement of the two pipelines -/

theorem mergedPlan_eq (resource : String) (action : RequestResponseAction)
    (payload : Option PayloadValue) (options : RequestOptions) (capture : HttpMeta) :
    mergedPlan resource action payload options capture =
      { resource
        action
        payload
        method := options.method.or capture.method
        path := options.path.or capture.path
        contentType := options.contentType.or capture.contentType
        headers := headerPairs (options.headers ++ capture.headers.getD []) } := by
  obtain ⟨method, path, statusCode, contentType, captured⟩ := capture
  cases captured <;> simp [mergedPlan, Headers.merge]

/-- Lowering the planned bridge command of a request gives its native plan: the headers are already
merged, and the remaining fields of the capture decode alike. -/
theorem planOfBridge_bridgeRequestCommand (command : Command) (resource : String)
    (action : RequestResponseAction) (payload : Option PayloadValue) (options : RequestOptions) :
    planOfBridge (BridgePlanner.bridgeRequestCommand command resource action payload options) =
      planRequest resource action payload options := by
  have pairs_getD (headers : Option Headers) :
      (headers.map headerPairs).getD [] = headerPairs (headers.getD []) := by
    cases headers <;> rfl
  simp only [planOfBridge, BridgePlanner.bridgeRequestCommand, pairs_getD,
    BridgePlanner.captureWithHeaders_headers, BridgePlanner.captureWithHeaders_transport,
    planRequest, mergedPlan_eq]
  cases options.extensions with
  | none => rfl
  | some capture =>
      simp only [Option.map_some, Option.bind_some, splitHttpExtensions]
      rw [HttpMeta.tryFromTransportMeta_setHeaders]
      cases decoded : HttpMeta.tryFromTransportMeta capture with
      | error error => rfl
      | ok view =>
          rw [← HttpMeta.tryFromTransportMeta_headers decoded]
          rfl

/-- The bridge pipeline gives the native plan, or the planner's refusal of the intent. -/
theorem planBridge_bind_planOfBridge (command : Command) :
    ((planBridge command).mapError HttpCommandConversionError.bridge >>= planOfBridge) =
        planNative command ∨
      planBridge command = .error .unsupportedIntent ∧
        planNative command = .error .unsupportedIntent := by
  unfold planBridge BridgePlanner.commandToRequestResponse planNative
  cases command.intent with
  | read => exact .inl (planOfBridge_bridgeRequestCommand ..)
  | write => exact .inl (planOfBridge_bridgeRequestCommand ..)
  | invoke => exact .inl (planOfBridge_bridgeRequestCommand ..)
  | send | subscribe | unsubscribe => exact .inr ⟨rfl, rfl⟩

/-! ## Errors of the native pipeline -/

theorem planRequest_errors (resource : String) (action : RequestResponseAction)
    (payload : Option PayloadValue) (options : RequestOptions) :
    ErrorsSatisfy HttpMeta.IsAdapterError (planRequest resource action payload options) := by
  refine ErrorsSatisfy.bind ?_ fun capture _ => errorsSatisfy_ok _
  cases options.extensions with
  | none => exact errorsSatisfy_ok _
  | some capture => exact HttpMeta.tryFromTransportMeta_errors capture

theorem planNative_errors (command : Command) :
    ErrorsSatisfy HttpMeta.IsAdapterError (planNative command) := by
  unfold planNative
  cases command.intent with
  | read => exact planRequest_errors _ _ _ _
  | write => exact planRequest_errors _ _ _ _
  | invoke => exact planRequest_errors _ _ _ _
  | send | subscribe | unsubscribe => exact errorsSatisfy_error nofun

theorem encodeBody_errors (payload : Option PayloadValue) :
    ErrorsSatisfy HttpMeta.IsAdapterError (encodeBody payload) := by
  cases payload with
  | none => exact errorsSatisfy_ok none
  | some payload =>
      refine ErrorsSatisfy.map ?_ some
      cases payload with
      | null | string | bytes => exact errorsSatisfy_ok _
      | bool | i64 | u64 | f64 | list | map => exact errorsSatisfy_error nofun

theorem encode_errors (device : HttpDevice) (planned : HttpNativePlan) :
    ErrorsSatisfy HttpMeta.IsAdapterError (encode device planned) := by
  refine ErrorsSatisfy.bind ?_ fun attributes _ =>
    (encodeBody_errors planned.payload).bind fun body _ => errorsSatisfy_ok _
  unfold lookupResource
  split
  · exact errorsSatisfy_ok _
  · exact errorsSatisfy_error nofun

theorem nativeRequest_errors (device : HttpDevice) (command : Command) :
    ErrorsSatisfy HttpMeta.IsAdapterError (nativeRequest device command) :=
  (planNative_errors command).bind fun plan _ => encode_errors device plan

theorem unifyUnsupportedIntent_adapterError (error : HttpCommandConversionError)
    (own : HttpMeta.IsAdapterError error) : unifyUnsupportedIntent error = error := by
  cases error with
  | bridge inner => exact absurd rfl (own inner)
  | _ => rfl

/-- The two pipelines build equal requests or raise the same error, where the bridge planner's
refusal of an intent counts as the adapter's own. -/
theorem bridgeRequest_eq_nativeRequest (device : HttpDevice) (command : Command) :
    (bridgeRequest device command).mapError unifyUnsupportedIntent =
      nativeRequest device command := by
  have assoc : bridgeRequest device command =
      ((planBridge command).mapError HttpCommandConversionError.bridge >>= planOfBridge) >>=
        encode device :=
    (bind_assoc _ _ _).symm
  obtain agree | ⟨refused, native⟩ := planBridge_bind_planOfBridge command
  · rw [assoc, agree]
    exact (nativeRequest_errors device command).mapError_eq_self
      unifyUnsupportedIntent_adapterError
  · rw [assoc, refused, nativeRequest, native]
    rfl

end Http
end Ferredge
