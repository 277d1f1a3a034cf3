import Mathlib.Algebra.Group.Nat.Defs
import Ferredge.Fallible
import Ferredge.Core.Meta
import Ferredge.Bridge.Message

/-!
# HTTP capture view

The typed HTTP view over the open transport capture.  Decoding walks the entries in order, skips
keys already seen, and stops at the first malformed entry.
-/

namespace Ferredge

open Fallible

/-- Conversion error raised when a routed command cannot be represented as an HTTP request. -/
inductive HttpCommandConversionError where
  | unsupportedIntent
  | unknownResource (resource : String)
  | invalidPayload (message : String)
  | bridge (error : BridgePlannerError)
  | invalidBridgeMessage
  | foreignExtensions (protocol : ProtocolId)
  | invalidExtensionValue (key : String) (value : UInt64)
  | invalidExtensionType (key : String)
  deriving DecidableEq

/-- Typed HTTP view over the open transport metadata capture. -/
structure HttpMeta where
  method : Option String
  path : Option String
  statusCode : Option UInt16
  contentType : Option String
  headers : Option Headers
  deriving DecidableEq

namespace HttpMeta

def keyMethod : String := "method"
def keyPath : String := "path"
def keyStatusCode : String := "status-code"
def keyContentType : String := "content-type"

/-- The view with every field absent. -/
def default : HttpMeta :=
  { method := none, path := none, statusCode := none, contentType := none, headers := none }

/-- Requires one capture value to be UTF-8 text. -/
def expectStr (key : String) : MetaValue → Except HttpCommandConversionError String
  | .str value => .ok value
  | _ => .error (.invalidExtensionType key)

/-- Requires one capture value to be an unsigned integer. -/
def expectU64 (key : String) : MetaValue → Except HttpCommandConversionError UInt64
  | .u64 value => .ok value
  | _ => .error (.invalidExtensionType key)

/-- Stores one capture entry in the view; unknown keys are ignored. -/
def decodeEntry (view : HttpMeta) (key : String) (value : MetaValue) :
    Except HttpCommandConversionError HttpMeta := do
  if key = keyMethod then
    return { view with method := some (← expectStr keyMethod value) }
  else if key = keyPath then
    return { view with path := some (← expectStr keyPath value) }
  else if key = keyStatusCode then
    let code ← expectU64 keyStatusCode value
    if code.toNat < 2 ^ 16 then
      return { view with statusCode := some code.toUInt16 }
    else
      throw (.invalidExtensionValue keyStatusCode code)
  else if key = keyContentType then
    return { view with contentType := some (← expectStr keyContentType value) }
  else
    return view

/-- Decodes an HTTP capture, rejecting foreign protocols and malformed entries. -/
def tryFromTransportMeta (capture : TransportMeta) :
    Except HttpCommandConversionError HttpMeta :=
  if capture.protocol ≠ .http then
    .error (.foreignExtensions capture.protocol)
  else
    TransportMeta.walkEntries decodeEntry [] { default with headers := capture.headers }
      capture.entries

/-- Replaces the headers carried by the view. -/
def withHeaders (view : HttpMeta) (headers : Option Headers) : HttpMeta :=
  { view with headers }

/-- Decoding one entry neither reads nor writes the carried headers. -/
theorem decodeEntry_withHeaders (view : HttpMeta) (headers : Option Headers)
    (key : String) (value : MetaValue) :
    decodeEntry (view.withHeaders headers) key value =
      (decodeEntry view key value).map fun decoded => decoded.withHeaders headers := by
  unfold decodeEntry
  split
  · cases expectStr keyMethod value <;> rfl
  · split
    · cases expectStr keyPath value <;> rfl
    · split
      · cases expectU64 keyStatusCode value with
        | error error => rfl
        | ok code =>
            change (if _ then _ else _) = Except.map _ (if _ then _ else _)
            split <;> rfl
      · split
        · cases expectStr keyContentType value <;> rfl
        · rfl

/-- Removing the headers from a capture removes them from its view and changes nothing else. -/
theorem tryFromTransportMeta_setHeaders (capture : TransportMeta) (headers : Option Headers) :
    tryFromTransportMeta { capture with headers } =
      (tryFromTransportMeta capture).map fun view => view.withHeaders headers := by
  unfold tryFromTransportMeta
  split
  · rfl
  · exact TransportMeta.walkEntries_update
      (fun view key value => decodeEntry_withHeaders view headers key value) capture.entries []
      { default with headers := capture.headers }

/-- The view carries exactly the capture's headers. -/
theorem tryFromTransportMeta_headers {capture : TransportMeta} {view : HttpMeta}
    (decoded : tryFromTransportMeta capture = .ok view) : view.headers = capture.headers :=
  TransportMeta.headers_of_decode (fun _ _ => rfl) tryFromTransportMeta_setHeaders decoded

/-- The errors of the adapter itself, as opposed to those of the bridge planner. -/
def IsAdapterError (error : HttpCommandConversionError) : Prop :=
  ∀ inner, error ≠ .bridge inner

theorem expectStr_errors (key : String) (value : MetaValue) :
    ErrorsSatisfy IsAdapterError (expectStr key value) := by
  cases value with
  | str value => exact errorsSatisfy_ok value
  | _ => exact errorsSatisfy_error nofun

theorem expectU64_errors (key : String) (value : MetaValue) :
    ErrorsSatisfy IsAdapterError (expectU64 key value) := by
  cases value with
  | u64 value => exact errorsSatisfy_ok value
  | _ => exact errorsSatisfy_error nofun

theorem decodeEntry_errors (view : HttpMeta) (key : String) (value : MetaValue) :
    ErrorsSatisfy IsAdapterError (decodeEntry view key value) := by
  unfold decodeEntry
  split
  · exact (expectStr_errors keyMethod value).bind fun _ _ => errorsSatisfy_ok _
  · split
    · exact (expectStr_errors keyPath value).bind fun _ _ => errorsSatisfy_ok _
    · split
      · refine (expectU64_errors keyStatusCode value).bind fun code _ => ?_
        split
        · exact errorsSatisfy_ok _
        · exact errorsSatisfy_error nofun
      · split
        · exact (expectStr_errors keyContentType value).bind fun _ _ => errorsSatisfy_ok _
        · exact errorsSatisfy_ok view

theorem tryFromTransportMeta_errors (capture : TransportMeta) :
    ErrorsSatisfy IsAdapterError (tryFromTransportMeta capture) := by
  unfold tryFromTransportMeta
  split
  · exact errorsSatisfy_error nofun
  · exact TransportMeta.walkEntries_errors decodeEntry_errors capture.entries [] _

end HttpMeta
end Ferredge
