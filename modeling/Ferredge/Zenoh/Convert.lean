import Ferredge.Bridge.Planner
import Ferredge.Fallible
import Ferredge.Zenoh.Types

/-!
# Zenoh requests

The two outbound pipelines of the Zenoh adapter.  The native one plans a command directly and
encodes the plan; the bridge one plans it into the bridge representation and encodes that.
-/

namespace Ferredge
namespace Zenoh

open Fallible

/-! ## Debug texts -/

def messagingActionText : MessagingAction → String
  | .publish => "Publish"
  | .subscribe => "Subscribe"
  | .unsubscribe => "Unsubscribe"

def requestResponseActionText : RequestResponseAction → String
  | .read => "Read"
  | .write => "Write"
  | .invoke => "Invoke"

def registerAccessActionText : RegisterAccessAction → String
  | .read => "Read"
  | .write => "Write"

/-! ## Encoders -/

/-- Bytes of a payload; structured payloads are written by the JSON library. -/
def payloadToBytes (json : PayloadValue → Except String Bytes) :
    PayloadValue → Except ZenohCommandConversionError Bytes
  | .bytes bytes => .ok bytes
  | .string value => .ok value.toUTF8.data.toList
  | .null => .ok []
  | other => (json other).mapError .payloadEncoding

/-- Encodes a bridge message. -/
def encodeBridge (json : PayloadValue → Except String Bytes) :
    BridgeMessage → Except ZenohCommandConversionError ZenohRequest
  | .command bridge =>
      match bridge.operation with
      | .messaging operation =>
          match operation.action with
          | .publish => do
              let .messaging topic := bridge.route
                | .error (.invalidAddressType "expected messaging route")
              let payload ← bridge.payload.mapM (payloadToBytes json)
              return .publish ⟨bridge.id.text, topic, payload.getD []⟩
          | action => .error (.unsupportedIntent
              ("messaging action " ++ messagingActionText action ++ " not supported"))
      | .requestResponse operation =>
          match operation.action with
          | .read => do
              let .requestResponse resource _ := bridge.route
                | .error (.invalidAddressType "expected request/response route")
              return .query ⟨bridge.id.text, resource, none, none⟩
          | action => .error (.unsupportedIntent
              ("request/response action " ++ requestResponseActionText action ++ " not supported"))
      | .registerAccess operation => .error (.unsupportedIntent
          ("operation RegisterAccess(RegisterAccessOp \x7b action: " ++
            registerAccessActionText operation.action ++ " \x7d) not supported"))
  | .event _ | .result _ => .error (.unsupportedIntent "only command messages are supported")

/-- Encodes a native plan. -/
def encodeNative (json : PayloadValue → Except String Bytes) :
    ZenohNativePlan → Except ZenohCommandConversionError ZenohRequest
  | .put commandId keyExpr payload => do
      let payload ← payloadToBytes json payload
      return .publish ⟨commandId, keyExpr, payload⟩
  | .get commandId keyExpr parameters => .ok (.query ⟨commandId, keyExpr, parameters, none⟩)
  | .subscribe _ _ => .error (.unsupportedIntent
      "Subscribe plan should be handled by PubSub::subscribe()")
  | .unsubscribe _ _ | .declareQueryable _ _ | .undeclareQueryable _ _ =>
      .error (.unsupportedIntent "only Put and Get plans supported for request encoding")

/-! ## Planners -/

/-- Whether Zenoh takes channels of the kind. -/
def topicLike : Option BrokerChannelKind → Bool
  | some .topic | none => true
  | _ => false

/-- Key expression of a channel. -/
def channelKeyExpr (channel : BrokerAddress) : Except ZenohCommandConversionError String :=
  if topicLike channel.kind then .ok channel.name.text
  else .error (.invalidAddressType "Zenoh only supports topic-like channels")

/-- Key expression among the arguments of a queryable invocation. -/
def queryableKeyExpr (args : Option PayloadValue) : Option String :=
  match args with
  | some (.map entries) =>
      match entries.find? fun entry => entry.1 = "key_expr" with
      | some (_, .string keyExpr) => some keyExpr
      | _ => none
  | _ => none

/-- Plans a command directly. -/
def planFromCommand (command : Command) (_device : ZenohDevice) :
    Except ZenohCommandConversionError ZenohNativePlan :=
  match command.intent with
  | .send channel payload _ => do
      let keyExpr ← channelKeyExpr channel
      return .put command.id.text keyExpr payload
  | .subscribe channel _ => do
      let keyExpr ← channelKeyExpr channel
      return .subscribe command.id.text keyExpr
  | .unsubscribe channel => do
      let keyExpr ← channelKeyExpr channel
      return .unsubscribe command.id.text keyExpr
  | .read resource _ => .ok (.get command.id.text resource.text none)
  | .write resource payload _ => .ok (.put command.id.text resource.text payload)
  | .invoke operation args _ =>
      if operation.text = "queryable" then
        match queryableKeyExpr args with
        | some keyExpr => .ok (.declareQueryable command.id.text keyExpr)
        | none => .error (.unsupportedIntent
            "Invoke queryable requires 'key_expr' string argument in map")
      else
        .error (.unsupportedIntent
          ("Invoke operation '" ++ operation.text ++ "' not supported for Zenoh"))

/-- The bridge planner for the family of the command's intent. -/
def planBridge (command : Command) : Except BridgePlannerError BridgeMessage :=
  match command.intent with
  | .send _ _ _ | .subscribe _ _ | .unsubscribe _ => BridgePlanner.commandToMessaging command
  | .read _ _ | .write _ _ _ | .invoke _ _ _ => BridgePlanner.commandToRequestResponse command

/-! ## The two pipelines -/

/-- Refusals of the bridge pipeline: by the planner, or by the encoder. -/
inductive BridgePathError where
  | planner (error : BridgePlannerError)
  | encoder (error : ZenohCommandConversionError)
  deriving DecidableEq

/-- The request built directly from a command. -/
def nativeRequest (json : PayloadValue → Except String Bytes) (device : ZenohDevice)
    (command : Command) : Except ZenohCommandConversionError ZenohRequest := do
  let plan ← planFromCommand command device
  encodeNative json plan

/-- The request built from a command through the bridge representation. -/
def bridgeRequest (json : PayloadValue → Except String Bytes) (command : Command) :
    Except BridgePathError ZenohRequest := do
  let message ← (planBridge command).mapError .planner
  (encodeBridge json message).mapError .encoder

/-! ## Where the two pipelines agree -/

/-- The publication of a payload, where it can be encoded. -/
def publication (json : PayloadValue → Except String Bytes) (commandId keyExpr : String)
    (payload : PayloadValue) : Option ZenohRequest :=
  (payloadToBytes json payload).toOption.map fun bytes => .publish ⟨commandId, keyExpr, bytes⟩

/-- The commands that only the native pipeline or only the bridge pipeline takes: writes, and sends
to channels that Zenoh does not take, where the payload can be encoded. -/
def TreatedApart (json : PayloadValue → Except String Bytes) (command : Command) : Prop :=
  match command.intent with
  | .write _ payload _ => (payloadToBytes json payload).isOk
  | .send channel payload _ =>
      topicLike channel.kind = false ∧ (payloadToBytes json payload).isOk
  | _ => False

variable {json : PayloadValue → Except String Bytes} {commandId keyExpr : String}
  {payload : PayloadValue}

theorem encodeNative_put :
    (encodeNative json (.put commandId keyExpr payload)).toOption =
      publication json commandId keyExpr payload := by
  dsimp only [encodeNative, publication]
  cases payloadToBytes json payload <;> rfl

theorem publication_eq_none_iff :
    publication json commandId keyExpr payload = none ↔ ¬(payloadToBytes json payload).isOk := by
  unfold publication
  cases payloadToBytes json payload <;> simp [Except.toOption, Except.isOk, Except.toBool]

/-- What the native pipeline makes of each intent. -/
theorem nativeRequest_toOption (device : ZenohDevice) (command : Command) :
    (nativeRequest json device command).toOption =
      match command.intent with
      | .send channel payload _ =>
          if topicLike channel.kind then
            publication json command.id.text channel.name.text payload
          else none
      | .read resource _ => some (.query ⟨command.id.text, resource.text, none, none⟩)
      | .write resource payload _ => publication json command.id.text resource.text payload
      | _ => none := by
  unfold nativeRequest planFromCommand
  cases command.intent with
  | send channel payload =>
      dsimp only [channelKeyExpr]
      split
      · exact encodeNative_put
      · rfl
  | subscribe channel | unsubscribe channel =>
      dsimp only [channelKeyExpr]
      split <;> rfl
  | read => rfl
  | write => exact encodeNative_put
  | invoke operation args =>
      dsimp only
      split
      · cases queryableKeyExpr args <;> rfl
      · rfl

/-- What the bridge pipeline makes of each intent. -/
theorem bridgeRequest_toOption (command : Command) :
    (bridgeRequest json command).toOption =
      match command.intent with
      | .send channel payload _ =>
          publication json command.id.text channel.name.text payload
      | .read resource _ => some (.query ⟨command.id.text, resource.text, none, none⟩)
      | _ => none := by
  unfold bridgeRequest planBridge BridgePlanner.commandToMessaging
    BridgePlanner.commandToRequestResponse
  cases command.intent with
  | send channel payload options =>
      unfold publication
      dsimp only [Except.mapError, bind, Except.bind, encodeBridge, Option.mapM]
      cases payloadToBytes json payload <;> rfl
  | _ => rfl

/-- Both pipelines build the same request, or both reject the command, unless it is one that they
treat apart. -/
theorem nativeRequest_agrees_iff (device : ZenohDevice) (command : Command) :
    (nativeRequest json device command).toOption = (bridgeRequest json command).toOption ↔
      ¬TreatedApart json command := by
  rw [nativeRequest_toOption, bridgeRequest_toOption, TreatedApart]
  cases command.intent with
  | send channel payload =>
      dsimp only
      by_cases taken : topicLike channel.kind = true
      · simp [taken]
      · have refused : topicLike channel.kind = false := Bool.eq_false_iff.mpr taken
        rw [if_neg taken, eq_comm, publication_eq_none_iff]
        simp [refused]
  | write resource payload => exact publication_eq_none_iff
  | read | invoke | subscribe | unsubscribe => exact iff_of_true rfl id

/-- A write of the text `on` to the resource `lamp`. -/
def writeCommand : Command :=
  { id := ⟨"write-1"⟩
    sourceDeviceId := none
    targetDeviceId := ⟨"device"⟩
    intent := .write ⟨"lamp"⟩ (.string "on") ⟨[], none, none, none, none⟩
    correlation := none }

/-- The native pipeline publishes the write and the bridge pipeline rejects it. -/
theorem writeCommand_treatedApart :
    ¬∀ (json : PayloadValue → Except String Bytes) (device : ZenohDevice) (command : Command),
      (nativeRequest json device command).toOption = (bridgeRequest json command).toOption := by
  intro agree
  have apart := agree (fun _ => .error "") ⟨⟨"device"⟩, ⟨[]⟩, fun _ => none⟩ writeCommand
  rw [nativeRequest_toOption, bridgeRequest_toOption] at apart
  cases apart

end Zenoh
end Ferredge
