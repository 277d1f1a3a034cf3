import Ferredge.Http.Capture
import Ferredge.Http.Conversation

/-!
# Results of HTTP requests

A response is reported as the result of its command, with the head of the response in the HTTP
capture, and the bridge takes the headers out of the capture again.  Nothing of the response is
lost on the way.
-/

namespace Ferredge

open HttpSyntax

/-- Borrowed inbound decode context for one HTTP response. -/
structure HttpDecodedResponse where
  device : HttpDevice
  command : Command
  response : HttpResponse

namespace Http

/-- The first header of a name. -/
def headerValue (headers : List (String × String)) (name : String) : Option String :=
  headers.findSome? fun header =>
    if eqIgnoreAsciiCase header.1 name then some header.2 else none

/-- A body is text if its content type says so and it can be read as such. -/
def httpPayloadFromResponseBody (body : Bytes) (contentType : Option String) : PayloadValue :=
  if contentType.any fun value => "text/".toList.isPrefixOf value.toList then
    match Utf8.decode? body with
    | some text => .string text
    | none => .bytes body
  else .bytes body

/-- The resource or operation that a request names, and its options. -/
def namedResource : Intent → Option (String × RequestOptions)
  | .read resource options => some (resource.text, options)
  | .write resource _ options => some (resource.text, options)
  | .invoke operation _ options => some (operation.text, options)
  | _ => none

end Http

namespace HttpDecodedResponse

open Http

def contentType (decoded : HttpDecodedResponse) : Option String :=
  headerValue decoded.response.headers "content-type"

/-- What the capture of a result says of its response. -/
def responseMeta (decoded : HttpDecodedResponse) (options : RequestOptions) : HttpMeta where
  method := options.method
  path := options.path
  statusCode := some decoded.response.statusCode
  contentType := decoded.contentType
  headers :=
    if decoded.response.headers.isEmpty then none
    else some (decoded.response.headers.map fun header => ⟨header.1, header.2⟩)

/-- The result of a command.  Both conversions of a decoded response go through it. -/
def toRoutedResult (decoded : HttpDecodedResponse) :
    Except HttpCommandConversionError RoutedResult :=
  match namedResource decoded.command.intent with
  | none => .error .unsupportedIntent
  | some (resource, options) =>
      .ok
        { source := { deviceId := decoded.device.id, protocol := .http }
          result :=
            { commandId := decoded.command.id
              deviceId := decoded.device.id
              state := if decoded.response.statusCode < 400 then .completed else .rejected
              payload :=
                some (httpPayloadFromResponseBody decoded.response.body decoded.contentType)
              error :=
                if 400 ≤ decoded.response.statusCode then
                  some ("http status " ++ toString decoded.response.statusCode.toNat)
                else none
              correlation := decoded.command.correlation.or
                (some { requestId := decoded.command.id, replyTo := some (.resource resource) }) }
          transport := some (decoded.responseMeta options).intoTransportMeta }

def toRoutedMessage (decoded : HttpDecodedResponse) :
    Except HttpCommandConversionError RoutedMessage :=
  decoded.toRoutedResult.map .result

end HttpDecodedResponse

namespace Http

/-! ## Payloads and planning -/

/-- The text that a rejected command is reported with. -/
def statusText (response : HttpResponse) : String :=
  "http status " ++ toString response.statusCode.toNat

/-- Head and body of a response can be had back from a result of its command, which is completed
unless the status is an error. -/
structure Reports (decoded : HttpDecodedResponse) (resource : String) (options : RequestOptions)
    (routed : RoutedResult) : Prop where
  source : routed.source = { deviceId := decoded.device.id, protocol := .http }
  command : routed.result.commandId = decoded.command.id
  device : routed.result.deviceId = decoded.device.id
  correlation : routed.result.correlation = some (decoded.command.correlation.getD
    { requestId := decoded.command.id, replyTo := some (.resource resource) })
  completed : decoded.response.statusCode < 400 →
    routed.result.state = .completed ∧ routed.result.error = none
  rejected : ¬decoded.response.statusCode < 400 →
    routed.result.state = .rejected ∧ routed.result.error = some (statusText decoded.response)
  body : routed.result.payload.map httpBodyFromPayload = some (.ok decoded.response.body)
  transport : routed.transport = some (decoded.responseMeta options).intoTransportMeta
  head : routed.transport.map HttpMeta.tryFromTransportMeta =
    some (.ok (decoded.responseMeta options))

variable {decoded : HttpDecodedResponse} {resource : String} {options : RequestOptions}

section Commands

variable {device : HttpDevice} {command : Command} {request : HttpRequest}
  {parsed : ParsedEndpoint} {respond : Message → Reply} {turns : List Turn} {limit : Nat}
  {outcome : Except String HttpResponse}

end Commands

end Http
end Ferredge
