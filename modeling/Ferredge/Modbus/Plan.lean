import Ferredge.Bridge.Planner
import Ferredge.Modbus.Codec
import Ferredge.Modbus.Convert

/-!
# Planning Modbus requests

Planning of commands against one device, lowering of bridge messages, and the encoder that turns a
plan into a native request.  The encoder reads the resource, action and payload of a plan; unit and
register come from the device definition.
-/

namespace Ferredge

open Fallible

/-- Native outbound Modbus plan. -/
structure ModbusNativePlan where
  resource : String
  action : RegisterAccessAction
  payload : Option PayloadValue
  register : AddressedAccessMeta
  unitId : UInt8

namespace Modbus

/-- Addressed-access metadata of a resource. -/
def registerMeta (attributes : ModbusResourceAttributes) : AddressedAccessMeta :=
  { address := attributes.address.toUInt32
    domain :=
      match attributes.registerKind with
      | .coil => "coil"
      | .discreteInput => "discrete-input"
      | .holdingRegister => "holding-register"
      | .inputRegister => "input-register"
    quantity := attributes.quantity }

/-- The resource definition a command or plan names. -/
def lookupResource (device : ModbusDevice) (resource : String) :
    Except ModbusCommandConversionError ModbusResourceAttributes :=
  match device.resources resource with
  | some resourceDef => .ok resourceDef.resourceAttributes
  | none => .error (.unknownResource resource)

namespace CommandPlanner

/-- Plans a command that stays with the caller. -/
def planRef (device : ModbusDevice) (command : Command) :
    Except ModbusCommandConversionError ModbusNativePlan := do
  let (resource, action, payload) ←
    match command.intent with
    | .read resource _ => .ok (resource.text, RegisterAccessAction.read, none)
    | .write resource payload _ => .ok (resource.text, .write, some payload.asBorrowed)
    | _ => .error .unsupportedIntent
  let attributes ← lookupResource device resource
  return {
    resource
    action
    payload
    register := registerMeta attributes
    unitId := device.endpoint.options.unitId }

/-- The register that a command for the bridge accesses. -/
def register (device : ModbusDevice) (command : Command) :
    Except ModbusCommandConversionError AddressedAccessMeta :=
  match command.intent with
  | .read resource _ => (lookupResource device resource.text).map registerMeta
  | .write resource _ _ => (lookupResource device resource.text).map registerMeta
  | _ => .error .unsupportedIntent

end CommandPlanner

/-- Lowers a bridge message that stays with the caller. -/
def planOfBridge : BridgeMessage → Except ModbusCommandConversionError ModbusNativePlan
  | .command command =>
      match command.operation, command.route with
      | .registerAccess operation, .addressedAccess resource access nodeId =>
          .ok
            { resource
              action := operation.action
              payload := command.payload.map PayloadValue.asBorrowed
              register := access
              unitId := (nodeId.getD 1).toUInt8 }
      | _, _ => .error .invalidBridgeMessage
  | _ => .error .invalidBridgeMessage

/-- Encodes a plan against the resource map and endpoint of the device. -/
def encodeRef (lib : Rmodbus) (device : ModbusDevice) (planned : ModbusNativePlan) :
    Except ModbusCommandConversionError ModbusRequest := do
  let attributes ← lookupResource device planned.resource
  match planned.action with
  | .read =>
      buildReadRequest lib planned.resource attributes device.endpoint.proto
        device.endpoint.options
  | .write =>
      match planned.payload with
      | some payload =>
          buildWriteRequest lib planned.resource attributes payload device.endpoint.proto
            device.endpoint.options
      | none => .error .invalidBridgeMessage

/-- The request built directly from a command. -/
def nativeRequest (lib : Rmodbus) (device : ModbusDevice) (command : Command) :
    Except ModbusCommandConversionError ModbusRequest := do
  let plan ← CommandPlanner.planRef device command
  encodeRef lib device plan

/-- Lowers a bridge message and encodes the plan. -/
def encodeBridge (lib : Rmodbus) (device : ModbusDevice) (message : BridgeMessage) :
    Except ModbusCommandConversionError ModbusRequest := do
  let plan ← planOfBridge message
  encodeRef lib device plan

/-- The request built from a command through the bridge representation. -/
def bridgeRequest (lib : Rmodbus) (device : ModbusDevice) (command : Command) :
    Except ModbusCommandConversionError ModbusRequest := do
  let register ← CommandPlanner.register device command
  let message ← (BridgePlanner.commandToRegisterAccess command register
    device.endpoint.options.unitId).mapError .bridge
  encodeBridge lib device message

/-! ## Plans -/

/-- The plan of an access to a resource. -/
def accessPlan (device : ModbusDevice) (resource : String) (action : RegisterAccessAction)
    (payload : Option PayloadValue) (attributes : ModbusResourceAttributes) : ModbusNativePlan :=
  { resource
    action
    payload
    register := registerMeta attributes
    unitId := device.endpoint.options.unitId }

section Plans

variable {device : ModbusDevice} {command : Command} {name : ResourceName}
  {payload : PayloadValue} {options : RequestOptions}

theorem planRef_of_read (reads : command.intent = .read name options) :
    CommandPlanner.planRef device command =
      (lookupResource device name.text).map (accessPlan device name.text .read none) := by
  simp only [CommandPlanner.planRef, reads]
  rfl

theorem planRef_of_write (writes : command.intent = .write name payload options) :
    CommandPlanner.planRef device command =
      (lookupResource device name.text).map
        (accessPlan device name.text .write (some payload)) := by
  simp only [CommandPlanner.planRef, writes, PayloadValue.asBorrowed_eq]
  rfl

/-- Only reads and writes are planned. -/
theorem planRef_eq_ok {planned : ModbusNativePlan}
    (accepted : CommandPlanner.planRef device command = .ok planned) :
    (∃ name options, command.intent = .read name options) ∨
      ∃ name payload options, command.intent = .write name payload options := by
  unfold CommandPlanner.planRef at accepted
  split at accepted
  · rename_i name options intent
    exact .inl ⟨name, options, intent⟩
  · rename_i name payload options intent
    exact .inr ⟨name, payload, options, intent⟩
  · cases accepted

end Plans

/-! ## Where a request goes -/

theorem readSeed_address {attributes : ModbusResourceAttributes} {quantity : UInt16}
    {seed : ModbusParserSeed} (checked : readSeed attributes quantity = .ok seed) :
    seed.address = attributes.address := by
  unfold readSeed at checked
  split at checked <;>
  · obtain ⟨_, -, rfl⟩ := map_eq_ok.mp checked
    rfl

/-- A read is addressed by the device definition alone. -/
theorem buildReadRequest_target {lib : Rmodbus} {resource : String}
    {attributes : ModbusResourceAttributes} {proto : ModbusProto} {options : ModbusClientOptions}
    {request : ModbusRequest}
    (built : buildReadRequest lib resource attributes proto options = .ok request) :
    request.unitId = options.unitId ∧ request.parserSeed.address = attributes.address := by
  obtain ⟨quantity, -, built⟩ := bind_eq_ok.mp built
  obtain ⟨seed, checked, built⟩ := bind_eq_ok.mp built
  obtain ⟨seed_eq, unit_eq⟩ := buildRequest_parserSeed built
  exact ⟨unit_eq, by rw [seed_eq, readSeed_address checked]⟩

/-- A write is addressed by the device definition alone. -/
theorem buildWriteRequest_target {lib : Rmodbus} {resource : String}
    {attributes : ModbusResourceAttributes} {payload : PayloadValue} {proto : ModbusProto}
    {options : ModbusClientOptions} {request : ModbusRequest}
    (built : buildWriteRequest lib resource attributes payload proto options = .ok request) :
    request.unitId = options.unitId ∧ request.parserSeed.address = attributes.address := by
  refine ⟨?_, (buildWriteRequest_units built).1⟩
  obtain ⟨value, -, built⟩ := bind_eq_ok.mp built
  obtain ⟨seed, -, built⟩ := bind_eq_ok.mp built
  exact (buildRequest_parserSeed built).2

/-- An encoded plan goes to the device's unit and the resource's configured address. -/
theorem encodeRef_target {lib : Rmodbus} {device : ModbusDevice} {planned : ModbusNativePlan}
    {request : ModbusRequest} (encoded : encodeRef lib device planned = .ok request) :
    ∃ attributes, lookupResource device planned.resource = .ok attributes ∧
      request.unitId = device.endpoint.options.unitId ∧
      request.parserSeed.address = attributes.address := by
  obtain ⟨attributes, found, encoded⟩ := bind_eq_ok.mp encoded
  refine ⟨attributes, found, ?_⟩
  split at encoded
  · exact buildReadRequest_target encoded
  · split at encoded
    · exact buildWriteRequest_target encoded
    · cases encoded

/-- A register-access message routed to a node and an address. -/
def RoutedTo (message : BridgeMessage) (resource : String) (nodeId address : UInt32) : Prop :=
  ∃ command operation access, message = .command command ∧
    command.operation = .registerAccess operation ∧
    command.route = .addressedAccess resource access (some nodeId) ∧ access.address = address

/-- The request goes to the given node and register. -/
def GoesTo (request : ModbusRequest) (nodeId address : UInt32) : Prop :=
  request.unitId.toNat = nodeId.toNat ∧ request.parserSeed.address.toNat = address.toNat

/-- The device definition places the resource at the given node and register. -/
def ConfiguredAt (device : ModbusDevice) (resource : String) (nodeId address : UInt32) : Prop :=
  device.endpoint.options.unitId.toNat = nodeId.toNat ∧
    ∃ resourceDef, device.resources resource = some resourceDef ∧
      resourceDef.resourceAttributes.address.toNat = address.toNat

theorem lookupResource_eq_ok {device : ModbusDevice} {resource : String}
    {attributes : ModbusResourceAttributes} :
    lookupResource device resource = .ok attributes ↔
      ∃ resourceDef, device.resources resource = some resourceDef ∧
        resourceDef.resourceAttributes = attributes := by
  unfold lookupResource
  cases device.resources resource <;> simp

/-- An accepted message reaches the node and register of its route exactly when the device
definition happens to place the resource there. -/
theorem encodeBridge_goesTo_iff (lib : Rmodbus) (device : ModbusDevice) (message : BridgeMessage)
    (resource : String) (nodeId address : UInt32) (request : ModbusRequest)
    (routed : RoutedTo message resource nodeId address)
    (encoded : encodeBridge lib device message = .ok request) :
    GoesTo request nodeId address ↔ ConfiguredAt device resource nodeId address := by
  obtain ⟨command, operation, access, rfl, op, route, rfl⟩ := routed
  obtain ⟨plan, lowered, encoded⟩ := bind_eq_ok.mp encoded
  have plan_resource : plan.resource = resource := by
    simp only [planOfBridge, op, route] at lowered
    cases lowered
    rfl
  obtain ⟨attributes, found, unit_eq, address_eq⟩ := encodeRef_target encoded
  rw [plan_resource] at found
  obtain ⟨resourceDef, defined, rfl⟩ := lookupResource_eq_ok.mp found
  unfold GoesTo ConfiguredAt
  rw [unit_eq, address_eq, defined]
  simp

/-- A device with one holding register, at address 40 of unit 1. -/
def levelDevice : ModbusDevice :=
  { id := ⟨"tank"⟩
    endpoint := .tcp "127.0.0.1" 502 { unitId := 1, requestTimeout := none }
    resources := fun name =>
      if name = "level" then
        some
          { resourceAttributes :=
              { address := 40, registerKind := .holdingRegister, codec := .u16, quantity := none } }
      else none }

/-- A read of the register, routed to the given node and address. -/
def readLevel (nodeId address : UInt32) : BridgeMessage :=
  .command
    { id := ⟨"read-1"⟩
      sourceDeviceId := none
      targetDeviceId := ⟨"tank"⟩
      capability := .registerAccess { binaryPayloads := true }
      operation := .registerAccess { action := .read }
      payload := none
      route := .addressedAccess "level"
        { address, domain := "holding-register", quantity := none } (some nodeId)
      transport := none
      headers := none
      correlation := none }

theorem readLevel_routedTo (nodeId address : UInt32) :
    RoutedTo (readLevel nodeId address) "level" nodeId address :=
  ⟨_, _, _, rfl, rfl, rfl, rfl⟩

/-- A message for the configured node and address reaches them. -/
theorem readLevel_configured :
    ∃ request, encodeBridge ReferenceClient.library levelDevice (readLevel 1 40) = .ok request ∧
      GoesTo request 1 40 := by
  refine ⟨_, rfl, ?_⟩
  refine (encodeBridge_goesTo_iff ReferenceClient.library levelDevice (readLevel 1 40) "level" 1 40
    _ (readLevel_routedTo 1 40) rfl).mpr ?_
  exact ⟨rfl, _, rfl, rfl⟩

/-- A message for register 7 of node 257 is accepted and sent to register 40 of unit 1. -/
theorem readLevel_misrouted :
    RoutedTo (readLevel 257 7) "level" 257 7 ∧
      ∃ request, encodeBridge ReferenceClient.library levelDevice (readLevel 257 7) = .ok request ∧
        request.unitId = 1 ∧ request.parserSeed = .readHoldings 40 1 ∧ ¬GoesTo request 257 7 := by
  refine ⟨readLevel_routedTo 257 7, _, rfl, rfl, rfl, ?_⟩
  rintro ⟨same_unit, -⟩
  exact absurd same_unit (by decide)

end Modbus
end Ferredge
