import Ferredge.Bridge.Message

/-!
# Bridge planner

Planning of core commands into bridge commands, and projection of routed results and events back
into bridge envelopes.  Capture-carried headers always leave the capture: they follow the
envelope's own headers, and an empty header set is represented by `none`.
-/

namespace Ferredge
namespace BridgePlanner

/-- Splits the capture-carried headers away from the passthrough capture. -/
def splitCaptureHeaders : Option TransportMeta → Option TransportMeta × Option Headers
  | some capture =>
      (some { capture with headers := none },
        capture.headers.filter fun headers => !headers.isEmpty)
  | none => (none, none)

/-- Appends capture-carried header pairs after the envelope set. -/
def captureWithHeaders (transport : Option TransportMeta) (headers : Headers) :
    Option TransportMeta × Option Headers :=
  let (transport, captureHeaders) := splitCaptureHeaders transport
  let headers :=
    match captureHeaders with
    | some captured => headers.merge captured
    | none => headers
  (transport, if headers.isEmpty then none else some headers)

@[simp]
theorem captureWithHeaders_transport (transport : Option TransportMeta) (headers : Headers) :
    (captureWithHeaders transport headers).1 =
      transport.map fun capture => { capture with headers := none } := by
  cases transport <;> rfl

/-- The planned header set is the envelope's own headers followed by the captured ones. -/
@[simp]
theorem captureWithHeaders_headers (transport : Option TransportMeta) (headers : Headers) :
    (captureWithHeaders transport headers).2.getD [] =
      headers ++ (transport.bind TransportMeta.headers).getD [] := by
  have getD_unless_empty (headers : Headers) :
      (if headers.isEmpty then none else some headers).getD [] = headers := by
    cases headers <;> rfl
  have unmerged : (if headers.isEmpty then none else some headers).getD [] = headers ++ [] := by
    rw [getD_unless_empty, List.append_nil]
  cases transport with
  | none => exact unmerged
  | some capture =>
      obtain ⟨protocol, captured, entries⟩ := capture
      cases captured with
      | none => exact unmerged
      | some captured =>
          cases captured with
          | nil => exact unmerged
          | cons first rest => exact getD_unless_empty (headers ++ first :: rest)

/-- The request/response command shared by reads, writes and invocations. -/
def bridgeRequestCommand (command : Command) (resource : String)
    (action : RequestResponseAction) (payload : Option PayloadValue) (options : RequestOptions) :
    BridgeMessage :=
  let merged := captureWithHeaders options.extensions options.headers
  .command
    { id := command.id
      sourceDeviceId := command.sourceDeviceId
      targetDeviceId := command.targetDeviceId
      capability := .requestResponse { binaryPayloads := true }
      operation := .requestResponse
        { action, method := options.method, contentType := options.contentType }
      payload
      route := .requestResponse resource options.path
      transport := merged.1
      headers := merged.2
      correlation := command.correlation }

/-- Plans a core command into a request/response bridge command. -/
def commandToRequestResponse (command : Command) : Except BridgePlannerError BridgeMessage :=
  match command.intent with
  | .read resource options =>
      .ok (bridgeRequestCommand command resource.text .read none options)
  | .write resource payload options =>
      .ok (bridgeRequestCommand command resource.text .write (some payload) options)
  | .invoke operation args options =>
      .ok (bridgeRequestCommand command operation.text .invoke args options)
  | _ => .error .unsupportedIntent

/-- Plans a core command into a messaging bridge command. -/
def commandToMessaging (command : Command) : Except BridgePlannerError BridgeMessage :=
  match command.intent with
  | .send channel payload options =>
      let (transport, headers) := captureWithHeaders options.extensions options.headers
      .ok <| .command
        { id := command.id
          sourceDeviceId := command.sourceDeviceId
          targetDeviceId := command.targetDeviceId
          capability := .messaging { binaryPayloads := true }
          operation := .messaging
            { action := .publish, delivery := options.delivery, durableName := none,
              sharedGroup := none }
          payload := some payload
          route := .messaging channel.name.text
          transport
          headers
          correlation := command.correlation }
  | .subscribe channel options =>
      let (transport, headers) := captureWithHeaders options.extensions []
      .ok <| .command
        { id := command.id
          sourceDeviceId := command.sourceDeviceId
          targetDeviceId := command.targetDeviceId
          capability := .messaging { binaryPayloads := true }
          operation := .messaging
            { action := .subscribe, delivery := options.delivery,
              durableName := options.durableName, sharedGroup := options.sharedGroup }
          payload := none
          route := .messaging channel.name.text
          transport
          headers
          correlation := command.correlation }
  | .unsubscribe channel =>
      .ok <| .command
        { id := command.id
          sourceDeviceId := command.sourceDeviceId
          targetDeviceId := command.targetDeviceId
          capability := .messaging { binaryPayloads := true }
          operation := .messaging
            { action := .unsubscribe, delivery := none, durableName := none, sharedGroup := none }
          payload := none
          route := .messaging channel.name.text
          transport := none
          headers := none
          correlation := command.correlation }
  | _ => .error .unsupportedIntent

/-- The register-access command shared by reads and writes. -/
def bridgeRegisterCommand (command : Command) (resource : ResourceName)
    (register : AddressedAccessMeta) (unitId : UInt8) (action : RegisterAccessAction)
    (payload : Option PayloadValue) : BridgeMessage :=
  .command
    { id := command.id
      sourceDeviceId := command.sourceDeviceId
      targetDeviceId := command.targetDeviceId
      capability := .registerAccess { binaryPayloads := true }
      operation := .registerAccess { action }
      payload
      route := .addressedAccess resource.text register (some unitId.toUInt32)
      transport := none
      headers := none
      correlation := command.correlation }

/-- Plans a core command into a register-access bridge command. -/
def commandToRegisterAccess (command : Command) (register : AddressedAccessMeta)
    (unitId : UInt8) : Except BridgePlannerError BridgeMessage :=
  match command.intent with
  | .read resource _ =>
      .ok (bridgeRegisterCommand command resource register unitId .read none)
  | .write resource payload _ =>
      .ok (bridgeRegisterCommand command resource register unitId .write (some payload))
  | _ => .error .unsupportedIntent

end BridgePlanner
end Ferredge
