import Ferredge.Modbus.Plan

/-!
# Routes to a request

A command becomes a native request by a plan that borrows from it, by a plan that it is moved into,
and through the bridge representation and back.  A borrowed payload is rebuilt node by node.
-/

namespace Ferredge
namespace Modbus

/-! ## The other routes -/

namespace CommandPlanner

/-- Plans a command for native execution, taking its parts. -/
def plan (device : ModbusDevice) (command : Command) :
    Except ModbusCommandConversionError ModbusNativePlan := do
  let (resource, action, payload) ←
    match command.intent with
    | .read resource _ => .ok (resource, RegisterAccessAction.read, none)
    | .write resource payload _ => .ok (resource, .write, some payload)
    | _ => .error .unsupportedIntent
  let attributes ← lookupResource device resource.text
  return {
    register := registerMeta attributes
    resource := resource.text
    action
    payload
    unitId := device.endpoint.options.unitId }

/-- Plans a command for the bridge. -/
def planBridge (device : ModbusDevice) (command : Command) :
    Except ModbusCommandConversionError BridgeMessage := do
  let register ← register device command
  (BridgePlanner.commandToRegisterAccess command register device.endpoint.options.unitId).mapError
    .bridge

end CommandPlanner

/-! ## The routes agree -/

theorem map_asBorrowed (payload : Option PayloadValue) :
    payload.map PayloadValue.asBorrowed = payload := by
  cases payload with
  | none => rfl
  | some value => rw [Option.map_some, PayloadValue.asBorrowed_eq]

/-- A plan is the same whether the command is borrowed or moved. -/
theorem plan_eq (device : ModbusDevice) (command : Command) :
    CommandPlanner.plan device command = CommandPlanner.planRef device command := by
  unfold CommandPlanner.plan CommandPlanner.planRef
  cases command.intent with
  | write resource payload options => simp [bind, Except.bind]
  | _ => rfl

/-- The unit of a device survives the wider node number of the bridge. -/
theorem lowered_unitId (command : Command) (resource : ResourceName)
    (register : AddressedAccessMeta) (unitId : UInt8) (action : RegisterAccessAction)
    (payload : Option PayloadValue) :
    planOfBridge (BridgePlanner.bridgeRegisterCommand command resource register unitId action
      payload) = .ok { resource := resource.text, action, payload, register, unitId } := by
  simp [planOfBridge, BridgePlanner.bridgeRegisterCommand, map_asBorrowed]

/-- What is planned for the bridge is lowered to the plan made directly. -/
theorem planBridge_lowered (device : ModbusDevice) (command : Command) :
    (CommandPlanner.planBridge device command >>= planOfBridge) =
      CommandPlanner.planRef device command := by
  have lowered (resource : ResourceName) (action : RegisterAccessAction)
      (payload : Option PayloadValue) (attributes : ModbusResourceAttributes) :=
    lowered_unitId command resource (registerMeta attributes) device.endpoint.options.unitId action
      payload
  unfold CommandPlanner.planBridge CommandPlanner.register BridgePlanner.commandToRegisterAccess
  cases intent : command.intent with
  | read resource options =>
      rw [planRef_of_read intent]
      dsimp only
      cases lookupResource device resource.text with
      | error error => rfl
      | ok attributes => exact lowered resource .read none attributes
  | write resource payload options =>
      rw [planRef_of_write intent]
      dsimp only
      cases lookupResource device resource.text with
      | error error => rfl
      | ok attributes => exact lowered resource .write (some payload) attributes
  | _ =>
      rw [CommandPlanner.planRef, intent]
      rfl

theorem bridgeRequest_eq_planBridge (lib : Rmodbus) (device : ModbusDevice) (command : Command) :
    bridgeRequest lib device command =
      (CommandPlanner.planBridge device command >>= planOfBridge) >>= encodeRef lib device := by
  rw [bridgeRequest, CommandPlanner.planBridge]
  simp only [bind_assoc]
  rfl

/-- A request is the same whether its command is planned directly or through the bridge, and a plan
is the same whether its command is borrowed or moved. -/
theorem native_bridge_agree (lib : Rmodbus) (device : ModbusDevice) (command : Command) :
    nativeRequest lib device command = bridgeRequest lib device command ∧
      CommandPlanner.plan device command = CommandPlanner.planRef device command := by
  refine ⟨?_, plan_eq device command⟩
  rw [bridgeRequest_eq_planBridge, planBridge_lowered, nativeRequest]

end Modbus
end Ferredge
