import Ferredge.History
import Ferredge.Transition
import Ferredge.Modbus.Attempts
import Ferredge.Modbus.Registers

/-!
# Commands on a bus

The driver sends the requests of commands to a unit, over a link that may lose a request or its
answer, and attempts failed ones again.  One request is on its way at a time: it is served before
the next one is sent, or never.  A read that completes brings back the write that was acknowledged
last, or one that was tried after it.
-/

namespace Ferredge

open Cells Fallible History Retrying Transition
open ReferenceClient (wordBytes words)

/-- A unit: what serving a request frame leaves in its memory, what it answers, and how it refuses
a request that it does not serve. -/
structure ModbusUnit where
  serve : Bytes → RegisterMemory → RegisterMemory
  reply : Bytes → RegisterMemory → Bytes
  exception : Bytes → Bytes

/-- A frame of a unit that is not its answer to a request: a refusal, or the beginning of one or of
the answer. -/
def ModbusUnit.Spoils (unit : ModbusUnit) (request : Bytes) (memory : RegisterMemory)
    (frame : Bytes) : Prop :=
  frame <+: unit.exception request ∨
    frame <+: unit.reply request memory ∧ frame ≠ unit.reply request memory

/-- What becomes of one attempt of a request. -/
inductive Fate where
  /-- The request is not served, and the attempt fails. -/
  | lost (error : String)
  /-- The request is served, and the attempt fails. -/
  | unanswered (error : String)
  | answered
  | refused
  /-- The request is served or refused, and only the beginning of the frame reaches the driver. -/
  | cutShort (served : Bool) (length : Nat)
  deriving DecidableEq

/-- The driver may get a frame that is not the answer. -/
def Fate.Spoiled : Fate → Prop
  | .refused | .cutShort .. => True
  | .lost _ | .unanswered _ | .answered => False

/-- A unit's memory, and the fates of the attempts to come. -/
structure ModbusLink where
  memory : RegisterMemory
  fates : Nat → Fate

namespace ModbusLink

/-- The link after a fate has come. -/
def pass (link : ModbusLink) : ModbusLink :=
  { link with fates := fun place => link.fates (place + 1) }

/-- The link after a fate has come and a request has been served. -/
def serve (unit : ModbusUnit) (frame : Bytes) (link : ModbusLink) : ModbusLink :=
  { link.pass with memory := unit.serve frame link.memory }

end ModbusLink

/-- What requests are sent over: an attempt of a request, the end of the persistent session, and a
change of the unit's memory that is none of the driver's doing. -/
structure ModbusMedium (σ : Type) where
  attempt : ModbusRequest → σ → Except String Bytes × σ
  closeSession : σ → σ
  change : RegisterMemory → σ → σ

/-- How a command ends. -/
inductive CommandEnding where
  | returned (result : Except String ModbusResponse)
  | overflowed

namespace BridgePlannerError

/-- The text of an error. -/
def display : BridgePlannerError → String
  | unsupportedIntent => "unsupported command intent for requested bridge capability"
  | unexpectedMessageKind expected => "expected " ++ expected ++ " bridge message"

end BridgePlannerError

namespace ModbusCommandConversionError

/-- The text of an error. -/
def display : ModbusCommandConversionError → String
  | unsupportedIntent => "unsupported intent for Modbus driver"
  | unknownResource resource => "resource " ++ resource ++ " not found for Modbus driver"
  | invalidResource message => "invalid Modbus resource: " ++ message
  | invalidPayload message => "invalid Modbus payload: " ++ message
  | unsupportedWrite resource => "resource " ++ resource ++ " is not writable via Modbus"
  | bridge error => "invalid bridge request: " ++ error.display
  | invalidBridgeMessage => "bridge message does not describe a Modbus register request"

end ModbusCommandConversionError

namespace ModbusDriver

open Modbus

/-- One attempt of a request over the link. -/
def attemptOver (unit : ModbusUnit) (frame : Bytes) (link : ModbusLink) :
    Except String Bytes × ModbusLink :=
  match link.fates 0 with
  | .lost error => (.error error, link.pass)
  | .unanswered error => (.error error, link.serve unit frame)
  | .answered => (.ok (unit.reply frame link.memory), link.serve unit frame)
  | .refused => (.ok (unit.exception frame), link.pass)
  | .cutShort true length =>
      (.ok ((unit.reply frame link.memory).take length), link.serve unit frame)
  | .cutShort false length => (.ok ((unit.exception frame).take length), link.pass)

/-- A link to a unit. -/
def linkMedium (unit : ModbusUnit) : ModbusMedium ModbusLink where
  attempt request := attemptOver unit request.frame
  closeSession link := link
  change memory link := { link with memory }

variable {σ : Type}

/-- The response with the arguments of its request. -/
def buildModbusResponse (request : ModbusRequest) (rawFrame : Bytes) :
    Except String ModbusResponse :=
  .ok
    { frame := rawFrame
      proto := request.proto
      unitId := request.unitId
      parserSeed := request.parserSeed
      decoder := request.decoder }

/-- Executes a native request. -/
def execute (policy : ModbusReconnectPolicy) (medium : ModbusMedium σ) (request : ModbusRequest)
    (link : σ) : CommandEnding × σ :=
  let call := executeOnEndpoint policy request.isWrite true (medium.attempt request) link
  match call.ending with
  | .returned result => (.returned (result >>= buildModbusResponse request), call.world)
  | .overflowed => (.overflowed, call.world)

/-- Executes a command. -/
def executeCommand (lib : Rmodbus) (policy : ModbusReconnectPolicy) (medium : ModbusMedium σ)
    (device : ModbusDevice) (command : Command) (link : σ) : CommandEnding × σ :=
  match nativeRequest lib device command with
  | .error error => (.returned (.error error.display), link)
  | .ok request => execute policy medium request link

end ModbusDriver

/-- What happens on the bus: a command is executed, the driver is stopped, or the unit's memory
changes by itself. -/
inductive BusAction where
  | call (command : Command)
  | stop
  | change (memory : RegisterMemory)

/-- What is known of an action afterwards. -/
inductive BusEvent where
  | called (command : Command) (ending : CommandEnding)
  | stopped
  | changed

/-- What requests are sent over, and what has happened on it. -/
structure ModbusBus (σ : Type) where
  link : σ
  log : List BusEvent

namespace ModbusBus

variable {σ : Type}

/-- A bus on which nothing has happened. -/
def begin (link : σ) : ModbusBus σ := { link, log := [] }

/-- The bus after an action. -/
def act (lib : Rmodbus) (policy : ModbusReconnectPolicy) (medium : ModbusMedium σ)
    (device : ModbusDevice) (bus : ModbusBus σ) : BusAction → ModbusBus σ
  | .call command =>
      let (ending, link) := ModbusDriver.executeCommand lib policy medium device command bus.link
      { link, log := bus.log ++ [.called command ending] }
  | .stop => { link := medium.closeSession bus.link, log := bus.log ++ [.stopped] }
  | .change memory =>
      { link := medium.change memory bus.link
        log := bus.log ++ [.changed] }

/-- Actions as a step relation. -/
def Acts (lib : Rmodbus) (policy : ModbusReconnectPolicy) (medium : ModbusMedium σ)
    (device : ModbusDevice) (before : ModbusBus σ) (action : BusAction) (after : ModbusBus σ) :
    Prop :=
  after = before.act lib policy medium device action

end ModbusBus

namespace Modbus

/-! ## The requests of commands -/

section

variable {lib : Rmodbus} {device : ModbusDevice} {command : Command} {request : ModbusRequest}
  {name : ResourceName} {payload : PayloadValue} {options : RequestOptions}
  {attributes : ModbusResourceAttributes}

/-- A request carries the arguments it is built from. -/
theorem buildRequest_eq_ok {isWrite : Bool} {proto : ModbusProto} {options : ModbusClientOptions}
    {seed : ModbusParserSeed} {decoder : ModbusResponseDecoder} {resource : String}
    (built : buildRequest lib resource isWrite proto options seed decoder = .ok request) :
    request.parserSeed = seed ∧ request.isWrite = isWrite ∧ request.decoder = decoder := by
  obtain ⟨⟨client, frame⟩, -, built⟩ := bind_eq_ok.mp built
  obtain ⟨wire, -, built⟩ := bind_eq_ok.mp built
  cases built
  exact ⟨rfl, rfl, rfl⟩

/-- The request of a read. -/
theorem nativeRequest_of_read (reads : command.intent = .read name options)
    (requested : nativeRequest lib device command = .ok request)
    (found : lookupResource device name.text = .ok attributes) :
    ∃ quantity, quantityForRead attributes = .ok quantity ∧
      readSeed attributes quantity = .ok request.parserSeed ∧ request.isWrite = false ∧
      request.decoder = decoderForCodec attributes.codec quantity ∧
      buildRequest lib name.text false device.endpoint.proto device.endpoint.options
        request.parserSeed request.decoder = .ok request := by
  have same : nativeRequest lib device command =
      buildReadRequest lib name.text attributes device.endpoint.proto device.endpoint.options := by
    rw [nativeRequest, planRef_of_read reads, found]
    change (lookupResource device name.text >>= _) = _
    rw [found]
    rfl
  rw [same] at requested
  obtain ⟨quantity, span, requested⟩ := bind_eq_ok.mp requested
  obtain ⟨seed, checked, built⟩ := bind_eq_ok.mp requested
  obtain ⟨rfl, plain, decoder⟩ := buildRequest_eq_ok built
  exact ⟨quantity, span, checked, plain, decoder, decoder ▸ built⟩

/-- The request of a write. -/
theorem nativeRequest_of_write (writes : command.intent = .write name payload options)
    (requested : nativeRequest lib device command = .ok request)
    (found : lookupResource device name.text = .ok attributes) :
    ∃ value, modbusValueFromPayload attributes payload = .ok value ∧
      writeSeed name.text attributes value = .ok request.parserSeed ∧ request.isWrite = true ∧
      request.decoder = .ack ∧
      buildRequest lib name.text true device.endpoint.proto device.endpoint.options
        request.parserSeed .ack = .ok request := by
  have same : nativeRequest lib device command =
      buildWriteRequest lib name.text attributes payload device.endpoint.proto
        device.endpoint.options := by
    rw [nativeRequest, planRef_of_write writes, found]
    change (lookupResource device name.text >>= _) = _
    rw [found]
    rfl
  rw [same] at requested
  obtain ⟨value, converted, requested⟩ := bind_eq_ok.mp requested
  obtain ⟨seed, written, built⟩ := bind_eq_ok.mp requested
  obtain ⟨rfl, write, decoder⟩ := buildRequest_eq_ok built
  exact ⟨value, converted, written, write, decoder, built⟩

/-- Only reads and writes of known resources become requests. -/
theorem nativeRequest_eq_ok (requested : nativeRequest lib device command = .ok request) :
    ∃ name attributes, lookupResource device name.text = .ok attributes ∧
      ((∃ options, command.intent = .read name options) ∨
        ∃ payload options, command.intent = .write name payload options) := by
  obtain ⟨plan, planned, -⟩ := bind_eq_ok.mp requested
  rcases planRef_eq_ok planned with ⟨name, options, reads⟩ | ⟨name, payload, options, writes⟩
  · rw [planRef_of_read reads] at planned
    obtain ⟨attributes, found, -⟩ := map_eq_ok.mp planned
    exact ⟨name, attributes, found, .inl ⟨options, reads⟩⟩
  · rw [planRef_of_write writes] at planned
    obtain ⟨attributes, found, -⟩ := map_eq_ok.mp planned
    exact ⟨name, attributes, found, .inr ⟨payload, options, writes⟩⟩

/-- A request is sent as a write exactly when it is one. -/
theorem isRead_of_requested (requested : nativeRequest lib device command = .ok request)
    (plain : request.isWrite = false) : request.parserSeed.isRead = true := by
  obtain ⟨name, attributes, found, ⟨options, reads⟩ | ⟨payload, options, writes⟩⟩ :=
    nativeRequest_eq_ok requested
  · obtain ⟨quantity, -, checked, -⟩ := nativeRequest_of_read reads requested found
    exact (readSeed_eq_ok checked).1
  · obtain ⟨value, -, -, written, -, -⟩ := nativeRequest_of_write writes requested found
    exact absurd (written.symm.trans plain) Bool.noConfusion

end

end Modbus

namespace ModbusDriver

open Modbus

/-! ## What a request comes to -/

/-- A link during the attempts of a request: the request has been served or not, and some of the
fates have come. -/
structure Reached (padding : RegisterPadding) (link : ModbusLink) (seed : ModbusParserSeed)
    (now : ModbusLink) : Prop where
  memory : now.memory = link.memory ∨ now.memory = link.memory.perform padding seed
  fates : ∃ made, ∀ place, now.fates place = link.fates (place + made)

section

variable {policy : ModbusReconnectPolicy} {unit : ModbusUnit} {request : ModbusRequest}
  {link now : ModbusLink} {response : ModbusResponse} {padding : RegisterPadding}

theorem Reached.perform {seed : ModbusParserSeed} (reached : Reached padding link seed now) :
    now.memory.perform padding seed = link.memory.perform padding seed := by
  rcases reached.memory with same | same
  · rw [same]
  · rw [same, perform_perform]

/-- An attempt serves the request at most once more. -/
theorem Reached.attempt
    (served : ∀ memory, unit.serve request.frame memory = memory.perform padding request.parserSeed)
    (reached : Reached padding link request.parserSeed now) :
    Reached padding link request.parserSeed (attemptOver unit request.frame now).2 := by
  have fates : ∃ made, ∀ place, now.fates (place + 1) = link.fates (place + made) := by
    obtain ⟨made, shifted⟩ := reached.fates
    refine ⟨made + 1, fun place => ?_⟩
    rw [shifted, Nat.add_right_comm, Nat.add_assoc]
  have done : unit.serve request.frame now.memory =
      link.memory.perform padding request.parserSeed := by
    rw [served, reached.perform]
  unfold attemptOver
  split
  · exact ⟨reached.memory, fates⟩
  · exact ⟨.inr done, fates⟩
  · exact ⟨.inr done, fates⟩
  · exact ⟨reached.memory, fates⟩
  · exact ⟨.inr done, fates⟩
  · exact ⟨reached.memory, fates⟩

/-- A request ends as the last of its attempts does. -/
theorem execute_last (policy : ModbusReconnectPolicy)
    (served : ∀ memory, unit.serve request.frame memory = memory.perform padding request.parserSeed)
    (link : ModbusLink) :
    ∃ before outcome, Reached padding link request.parserSeed before ∧
      attemptOver unit request.frame before =
        (outcome, (execute policy (linkMedium unit) request link).2) ∧
      (execute policy (linkMedium unit) request link).1 =
        .returned (outcome >>= buildModbusResponse request) := by
  obtain ⟨made, last, ending, ends⟩ := executeOnEndpoint_follows policy request.isWrite
    ((linkMedium unit).attempt request) link
  have initial : Reached padding link request.parserSeed link := ⟨.inl rfl, 0, fun _ => rfl⟩
  have kept (now : ModbusLink) (reached : Reached padding link request.parserSeed now) :
      Reached padding link request.parserSeed (attemptOver unit request.frame now).2 :=
    reached.attempt served
  obtain ⟨before, outcome, reached, final, ends'⟩ := made.exists_last kept initial
  obtain rfl := Option.some.inj (ends.symm.trans ends')
  refine ⟨before, last, reached, ?_, ?_⟩
  · rw [final, execute, ending]
  · rw [execute, ending]

/-- A request leaves the memory as it was or as it is after it is served. -/
theorem execute_memory (policy : ModbusReconnectPolicy)
    (served : ∀ memory, unit.serve request.frame memory = memory.perform padding request.parserSeed)
    (link : ModbusLink) :
    Reached padding link request.parserSeed (execute policy (linkMedium unit) request link).2 := by
  obtain ⟨before, outcome, reached, attempted, -⟩ := execute_last policy served link
  have after := reached.attempt served
  rwa [attempted] at after

/-- An attempt that brings a frame was answered and served, or its frame was spoiled. -/
theorem attemptOver_eq_ok {frame got : Bytes}
    (attempted : attemptOver unit frame link = (.ok got, now)) :
    got = unit.reply frame link.memory ∧ now.memory = unit.serve frame link.memory ∨
      unit.Spoils frame link.memory got ∧ (link.fates 0).Spoiled := by
  unfold attemptOver at attempted
  split at attempted
  · cases attempted
  · cases attempted
  · cases attempted
    exact .inl ⟨rfl, rfl⟩
  · rename_i fate
    cases attempted
    exact .inr ⟨.inl (List.prefix_refl _), by rw [fate]; trivial⟩
  · rename_i length fate
    cases attempted
    by_cases whole : (unit.reply frame link.memory).take length = unit.reply frame link.memory
    · exact .inl ⟨whole, rfl⟩
    · exact .inr ⟨.inr ⟨List.take_prefix _ _, whole⟩, by rw [fate]; trivial⟩
  · rename_i length fate
    cases attempted
    exact .inr ⟨.inl (List.take_prefix _ _), by rw [fate]; trivial⟩

/-- A request that returns a frame was answered and served, or the frame was spoiled. -/
theorem execute_returned
    (served : ∀ memory, unit.serve request.frame memory = memory.perform padding request.parserSeed)
    (returned : (execute policy (linkMedium unit) request link).1 = .returned (.ok response)) :
    ∃ before, Reached padding link request.parserSeed before ∧
      buildModbusResponse request response.frame = .ok response ∧
      (response.frame = unit.reply request.frame before.memory ∧
          (execute policy (linkMedium unit) request link).2.memory =
            link.memory.perform padding request.parserSeed ∨
        unit.Spoils request.frame before.memory response.frame ∧ (before.fates 0).Spoiled) := by
  obtain ⟨before, outcome, reached, attempted, ending⟩ := execute_last policy served link
  refine ⟨before, reached, ?_⟩
  rw [ending] at returned
  obtain ⟨frame, rfl, built⟩ := bind_eq_ok.mp (CommandEnding.returned.inj returned)
  cases built
  refine ⟨rfl, ?_⟩
  rcases attemptOver_eq_ok attempted with ⟨reply, memory⟩ | spoiled
  · exact .inl ⟨reply, memory.trans ((served before.memory).trans reached.perform)⟩
  · exact .inr spoiled

end

end ModbusDriver

namespace Modbus

open ModbusBus ModbusDriver

/-- The unit serves the requests of the device's commands as their seeds say, padded as the frame
library does it, answers reads with what it holds, and the frame library takes its refusals and what
is cut short for errors. -/
structure Serves (lib : Rmodbus) (padding : RegisterPadding)
    (registers : lib.Client → Bytes → Except RmodbusError Bytes) (device : ModbusDevice)
    (unit : ModbusUnit) : Prop where
  serves : ∀ command request, nativeRequest lib device command = .ok request →
    ∀ memory, unit.serve request.frame memory = memory.perform padding request.parserSeed
  answers : ∀ command request, nativeRequest lib device command = .ok request →
    request.parserSeed.isRead = true → ∀ parser,
      makeParser lib request.proto request.unitId request.parserSeed = .ok parser → ∀ memory,
        Carries lib registers request.proto parser (unit.reply request.frame memory)
          (memory.contents request.parserSeed.registerKind request.parserSeed.address
            request.parserSeed.units) request.parserSeed.registerKind
  refuses : ∀ command request, nativeRequest lib device command = .ok request → ∀ parser,
    makeParser lib request.proto request.unitId request.parserSeed = .ok parser →
      ∀ memory frame, unit.Spoils request.frame memory frame →
        ∃ error, lib.parseOk parser frame = .error error

/-- The command's response is one that a routed result is made of. -/
def Completes (lib : Rmodbus) (device : ModbusDevice) (command : Command)
    (ending : CommandEnding) : Prop :=
  ∃ response routed, ending = .returned (.ok response) ∧
    routedResultOfDecoded lib device command response = .ok routed

/-- A write of the payload to the resource was tried. -/
def Tried (resource : String) (payload : PayloadValue) (event : BusEvent) : Prop :=
  ∃ command ending options, event = .called command ending ∧
    command.intent = .write ⟨resource⟩ payload options

/-- A write to the resource was acknowledged. -/
def Acknowledged (lib : Rmodbus) (device : ModbusDevice) (resource : String)
    (event : BusEvent) : Prop :=
  ∃ command ending payload options, event = .called command ending ∧
    command.intent = .write ⟨resource⟩ payload options ∧ Completes lib device command ending

/-- Writes to the resource fill its span, and nothing else changes what is in the span. -/
def Minds (lib : Rmodbus) (device : ModbusDevice) (resource : String)
    (attributes : ModbusResourceAttributes) (quantity : UInt16) (bus : ModbusBus ModbusLink) :
    BusAction → Prop
  | .call command =>
      (∀ payload options, command.intent = .write ⟨resource⟩ payload options →
        payloadUnits attributes.codec payload = quantity.toNat) ∧
      ∀ request, nativeRequest lib device command = .ok request →
        commandResource command ≠ .ok resource →
        request.parserSeed.registerKind = attributes.registerKind →
        request.isWrite = true → ∀ place, Touches request.parserSeed place →
          ¬InSpan attributes quantity place
  | .stop => True
  | .change memory => ∀ place, InSpan attributes quantity place →
      memory.cells attributes.registerKind place =
        bus.link.memory.cells attributes.registerKind place

/-- The contents of a resource's span. -/
def spanContents (attributes : ModbusResourceAttributes) (quantity : UInt16)
    (memory : RegisterMemory) : List UInt16 :=
  memory.contents attributes.registerKind attributes.address quantity.toNat

/-- Once a write to the resource was acknowledged, its span holds what the last one wrote, or one
that was tried after it. -/
def HoldsWritten (lib : Rmodbus) (padding : RegisterPadding) (device : ModbusDevice)
    (resource : String) (attributes : ModbusResourceAttributes) (quantity : UInt16)
    (bus : ModbusBus ModbusLink) : Prop :=
  (∃ event ∈ bus.log, Acknowledged lib device resource event) →
    ∃ payload value seed,
      Since (Tried resource payload) (fun _ event => Acknowledged lib device resource event)
        bus.log ∧
      modbusValueFromPayload attributes payload = .ok value ∧
      writeSeed resource attributes value = .ok seed ∧
      spanContents attributes quantity bus.link.memory = seed.written padding

section

variable {lib : Rmodbus} {registers : lib.Client → Bytes → Except RmodbusError Bytes}
  {device : ModbusDevice} {unit : ModbusUnit} {policy : ModbusReconnectPolicy}
  {resource : String} {attributes : ModbusResourceAttributes} {quantity : UInt16}
  {bus : ModbusBus ModbusLink} {link : ModbusLink} {event : BusEvent} {padding : RegisterPadding}

theorem spanContents_congr {memory other : RegisterMemory}
    (same : ∀ place, InSpan attributes quantity place →
      memory.cells attributes.registerKind place = other.cells attributes.registerKind place) :
    spanContents attributes quantity memory = spanContents attributes quantity other :=
  segment_congr fun place first last => same place ⟨first, last⟩

/-- An event that leaves the span alone. -/
theorem HoldsWritten.keep (holds : HoldsWritten lib padding device resource attributes quantity bus)
    (same : spanContents attributes quantity link.memory =
      spanContents attributes quantity bus.link.memory)
    (plain : ¬Acknowledged lib device resource event) :
    HoldsWritten lib padding device resource attributes quantity ⟨link, bus.log ++ [event]⟩ := by
  rintro ⟨noted, member, acknowledged⟩
  rcases List.mem_append.mp member with earlier | last
  · obtain ⟨payload, value, seed, since, converted, built, contents⟩ :=
      holds ⟨noted, earlier, acknowledged⟩
    exact ⟨payload, value, seed, since_snoc.mpr (.inr ⟨since, plain⟩), converted, built,
      same.trans contents⟩
  · obtain rfl := List.mem_singleton.mp last
    exact absurd acknowledged plain

/-- An event that writes the span. -/
theorem holdsWritten_of_written {payload : PayloadValue} {value : ModbusValue}
    {seed : ModbusParserSeed} {log : List BusEvent} (tried : Tried resource payload event)
    (converted : modbusValueFromPayload attributes payload = .ok value)
    (built : writeSeed resource attributes value = .ok seed)
    (contents : spanContents attributes quantity link.memory = seed.written padding) :
    HoldsWritten lib padding device resource attributes quantity ⟨link, log ++ [event]⟩ :=
  fun _ => ⟨payload, value, seed, since_snoc.mpr (.inl tried), converted, built, contents⟩

/-- A write that fills the span is found there. -/
theorem spanContents_perform {payload : PayloadValue} {value : ModbusValue}
    {seed : ModbusParserSeed} (memory : RegisterMemory)
    (converted : modbusValueFromPayload attributes payload = .ok value)
    (built : writeSeed resource attributes value = .ok seed)
    (fills : payloadUnits attributes.codec payload = quantity.toNat) :
    spanContents attributes quantity (memory.perform padding seed) = seed.written padding := by
  obtain ⟨write, kind⟩ := writeSeed_eq_ok built
  obtain ⟨start, units⟩ := writeSeed_units converted built
  rw [spanContents, ← kind, ← start]
  apply contents_perform
  rw [length_written, write, units, fills]
  rfl

/-- A routed result is made of a decoded frame. -/
theorem decoded_of_routed {command : Command} {response : ModbusResponse} {routed : RoutedResult}
    (made : routedResultOfDecoded lib device command response = .ok routed) :
    ∃ parser value, makeParser lib response.proto response.unitId response.parserSeed =
        .ok parser ∧
      decodeWith lib parser response.proto response.frame response.decoder = .ok value ∧
      routed.result.payload = some (payloadValueFromModbusValue value) := by
  obtain ⟨resource, -, made⟩ := bind_eq_ok.mp made
  obtain ⟨payload, decoded, made⟩ := bind_eq_ok.mp made
  rw [Modbus.payload, map_eq_ok] at decoded
  obtain ⟨value, decoded, rfl⟩ := decoded
  rw [decodeModbusValue, bind_eq_ok] at decoded
  obtain ⟨parser, built, decoded⟩ := decoded
  cases made
  exact ⟨parser, value, built, decoded, rfl⟩

/-- A request whose response a routed result is made of was answered and served. -/
theorem answered_of_routed {command : Command} {request : ModbusRequest}
    {response : ModbusResponse} {routed : RoutedResult} (checks : lib.ParsersCheck)
    (serves : Serves lib padding registers device unit)
    (requested : nativeRequest lib device command = .ok request)
    (legible : request.decoder = .bytes ∨ request.decoder = .utf8String →
      ∀ place, ¬(link.fates place).Spoiled)
    (returned : (ModbusDriver.execute policy (linkMedium unit) request link).1 =
      .returned (.ok response))
    (made : routedResultOfDecoded lib device command response = .ok routed) :
    ∃ before parser value, Reached padding link request.parserSeed before ∧
      (ModbusDriver.execute policy (linkMedium unit) request link).2.memory =
        link.memory.perform padding request.parserSeed ∧
      makeParser lib request.proto request.unitId request.parserSeed = .ok parser ∧
      decodeWith lib parser request.proto (unit.reply request.frame before.memory)
        request.decoder = .ok value ∧
      routed.result.payload = some (payloadValueFromModbusValue value) := by
  obtain ⟨before, reached, built, outcome⟩ :=
    execute_returned (serves.serves command request requested) returned
  obtain ⟨parser, value, parsed, decoded, payload⟩ := decoded_of_routed made
  obtain ⟨frame, proto, unitId, seed, decoder⟩ := response
  cases built
  rcases outcome with ⟨reply, memory⟩ | ⟨spoils, spoiled⟩
  · rw [reply] at decoded
    exact ⟨before, parser, value, reached, memory, parsed, decoded, payload⟩
  · exfalso
    obtain ⟨error, rejected⟩ :=
      serves.refuses command request requested parser parsed before.memory frame spoils
    obtain ⟨made, shifted⟩ := reached.fates
    rw [shifted] at spoiled
    exact legible (decodeWith_rejected checks rejected decoded) _ spoiled

/-- A request that does not touch the span leaves it alone, however it ends. -/
theorem spanContents_execute {command : Command} {request : ModbusRequest}
    (policy : ModbusReconnectPolicy) (serves : Serves lib padding registers device unit)
    (requested : nativeRequest lib device command = .ok request)
    (spares : request.parserSeed.registerKind = attributes.registerKind →
      request.isWrite = true → ∀ place, Touches request.parserSeed place →
        ¬InSpan attributes quantity place) :
    spanContents attributes quantity
        (ModbusDriver.execute policy (linkMedium unit) request link).2.memory =
      spanContents attributes quantity link.memory := by
  obtain ⟨same | served, -⟩ :=
    execute_memory policy (serves.serves command request requested) link
  · rw [same]
  · rw [served]
    refine spanContents_congr fun place inside => perform_of_untouched ?_
    by_cases kind : attributes.registerKind = request.parserSeed.registerKind
    · cases write : request.isWrite with
      | false => exact .inl (isRead_of_requested requested write)
      | true => exact .inr (.inr fun touched => spares kind.symm write place touched inside)
    · exact .inr (.inl kind)

theorem executeCommand_of_requested {command : Command} {request : ModbusRequest}
    (requested : nativeRequest lib device command = .ok request) :
    executeCommand lib policy (linkMedium unit) device command link =
      ModbusDriver.execute policy (linkMedium unit) request link := by
  rw [executeCommand, requested]

/-- A write of the resource leaves what the span held if it is not acknowledged, or writes it. -/
theorem HoldsWritten.write {name : ResourceName} {payload : PayloadValue}
    {options : RequestOptions} {command : Command} {request : ModbusRequest}
    (policy : ModbusReconnectPolicy) (checks : lib.ParsersCheck)
    (serves : Serves lib padding registers device unit)
    (found : lookupResource device name.text = .ok attributes)
    (holds : HoldsWritten lib padding device name.text attributes quantity bus)
    (requested : nativeRequest lib device command = .ok request)
    (writes : command.intent = .write name payload options)
    (fills : payloadUnits attributes.codec payload = quantity.toNat) :
    HoldsWritten lib padding device name.text attributes quantity
      ⟨(ModbusDriver.execute policy (linkMedium unit) request bus.link).2,
        bus.log ++ [.called command
          (ModbusDriver.execute policy (linkMedium unit) request bus.link).1]⟩ := by
  obtain ⟨value, converted, built, -, ack, -⟩ := nativeRequest_of_write writes requested found
  have tried (ending : CommandEnding) : Tried name.text payload (.called command ending) :=
    ⟨command, ending, options, rfl, writes⟩
  have written (memory : (ModbusDriver.execute policy (linkMedium unit) request bus.link).2.memory =
      bus.link.memory.perform padding request.parserSeed) :
      spanContents attributes quantity
        (ModbusDriver.execute policy (linkMedium unit) request bus.link).2.memory =
          request.parserSeed.written padding := by
    rw [memory]
    exact spanContents_perform bus.link.memory converted built fills
  by_cases completed : Completes lib device command
      (ModbusDriver.execute policy (linkMedium unit) request bus.link).1
  · obtain ⟨response, routed, returned, made⟩ := completed
    have legible : request.decoder = .bytes ∨ request.decoder = .utf8String →
        ∀ place, ¬(bus.link.fates place).Spoiled := by
      rw [ack]
      rintro (⟨⟨⟩⟩ | ⟨⟨⟩⟩)
    obtain ⟨-, -, -, -, memory, -⟩ :=
      answered_of_routed checks serves requested legible returned made
    exact holdsWritten_of_written (tried _) converted built (written memory)
  · rcases (execute_memory policy (serves.serves command request requested)
      bus.link).memory with same | served
    · refine holds.keep (congrArg _ same) ?_
      rintro ⟨other, ending, -, -, event, -, acknowledged⟩
      obtain ⟨rfl, rfl⟩ := BusEvent.called.inj event
      exact completed acknowledged
    · exact holdsWritten_of_written (tried _) converted built (written served)

/-- Every action keeps what the span is known to hold. -/
theorem HoldsWritten.act {action : BusAction} (policy : ModbusReconnectPolicy)
    (checks : lib.ParsersCheck) (serves : Serves lib padding registers device unit)
    (found : lookupResource device resource = .ok attributes)
    (holds : HoldsWritten lib padding device resource attributes quantity bus)
    (minds : Minds lib device resource attributes quantity bus action) :
    HoldsWritten lib padding device resource attributes quantity
      (bus.act lib policy (linkMedium unit) device action) := by
  cases action with
  | stop =>
      refine holds.keep rfl ?_
      rintro ⟨command, ending, payload, options, event, -⟩
      cases event
  | change memory =>
      refine holds.keep (spanContents_congr minds) ?_
      rintro ⟨command, ending, payload, options, event, -⟩
      cases event
  | call command =>
      obtain ⟨fills, spares⟩ := minds
      cases requested : nativeRequest lib device command with
      | error error =>
          rw [ModbusBus.act, executeCommand, requested]
          refine holds.keep rfl ?_
          rintro ⟨other, ending, payload, options, event, -, response, routed, returned, -⟩
          cases event
          cases returned
      | ok request =>
          rw [ModbusBus.act, executeCommand_of_requested requested]
          obtain ⟨name, known, lookup, intent⟩ := nativeRequest_eq_ok requested
          have plain (other : ∀ payload options,
              command.intent ≠ .write ⟨resource⟩ payload options) (ending : CommandEnding) :
              ¬Acknowledged lib device resource (.called command ending) := by
            rintro ⟨same, _, payload, options, event, writes, -⟩
            cases event
            exact other payload options writes
          rcases intent with ⟨options, reads⟩ | ⟨payload, options, writes⟩
          · obtain ⟨_, -, -, unwritten, -⟩ := nativeRequest_of_read reads requested lookup
            refine holds.keep (spanContents_execute policy serves requested fun _ write => ?_)
              (plain (fun _ _ writes => ?_) _)
            · exact absurd (unwritten.symm.trans write) Bool.noConfusion
            · cases reads.symm.trans writes
          · by_cases same : name = ⟨resource⟩
            · subst same
              rw [found] at lookup
              cases lookup
              exact holds.write policy checks serves found requested writes
                (fills payload options writes)
            · have other : commandResource command ≠ .ok resource := by
                intro named
                rw [commandResource, writes] at named
                exact same (congrArg ResourceName.mk (Except.ok.inj named))
              refine holds.keep (spanContents_execute policy serves requested
                (spares request requested other)) (plain (fun _ _ again => ?_) _)
              cases writes.symm.trans again
              exact same rfl

end

/-! ## A gauge -/

/-- A unit that understands the reads and writes of holding registers the reference client frames
for it. -/
def gaugeUnit : ModbusUnit where
  serve frame memory :=
    match frame.drop 7 with
    | 16 :: high :: low :: _ :: _ :: _ :: data =>
        { cells := fun kind =>
            if kind = .holdingRegister then
              overwrite (memory.cells kind) (fromBeBytes high low).toNat (words data)
            else memory.cells kind }
    | _ => memory
  reply frame memory :=
    let client : ReferenceClient := { unitId := 1, proto := .tcpUdp, function := 0 }
    match frame.drop 7 with
    | [3, high, low, _, count] =>
        client.wrap (3 :: (2 * count) :: wireBytes
          (memory.contents .holdingRegister (fromBeBytes high low) count.toNat))
    | written => client.wrap (written.take 5)
  exception frame := [0, 1, 0, 0, 0, 3, 1, (frame.drop 7).headD 0 ||| 0x80, 2]

/-- The level of the gauge is a number in two registers. -/
def gaugeLevel : ModbusResourceAttributes where
  address := 40
  registerKind := .holdingRegister
  codec := .u32Be
  quantity := none

def gaugeDevice : ModbusDevice where
  id := ⟨"gauge"⟩
  endpoint := .tcp "10.0.0.7" 502 { unitId := 1, requestTimeout := none }
  resources name := if name = "level" then some ⟨gaugeLevel⟩ else none

theorem length_wireBytes (registers : List UInt16) :
    (wireBytes registers).length = 2 * registers.length := by
  induction registers with
  | nil => rfl
  | cons register registers ih =>
      rw [wireBytes, List.flatMap_cons, List.length_append, ← wireBytes, ih, List.length_cons]
      change 2 + 2 * registers.length = _
      omega

/-- The gauge wraps what it answers. -/
theorem gauge_reply (frame : Bytes) (memory : RegisterMemory) :
    ∃ pdu, gaugeUnit.reply frame memory = ReferenceClient.wrap ⟨1, .tcpUdp, 0⟩ pdu ∧
      pdu.length + 1 < 2 ^ 16 := by
  rw [gaugeUnit]
  dsimp only
  split
  · rename_i high low spare count shape
    refine ⟨_, rfl, ?_⟩
    have held : (memory.contents .holdingRegister (fromBeBytes high low) count.toNat).length =
        count.toNat := by simp [RegisterMemory.contents]
    have most : count.toNat < 2 ^ 8 := count.toNat_lt
    rw [List.length_cons, List.length_cons, length_wireBytes, held]
    omega
  · refine ⟨_, rfl, ?_⟩
    rw [List.length_take]
    omega

/-- The gauge wraps its refusals. -/
theorem gauge_exception (frame : Bytes) :
    gaugeUnit.exception frame =
      ReferenceClient.wrap ⟨1, .tcpUdp, 0⟩ [(frame.drop 7).headD 0 ||| 0x80, 2] := by
  have three : ([0, 1, 0, 0, 0, 3] : Bytes) = [0, 1, 0, 0] ++ wordBytes (3 : Nat).toUInt16 := by
    decide
  exact congrArg (· ++ [1, (frame.drop 7).headD 0 ||| 0x80, 2]) three

/-- Reads are attempted three times, and writes once. -/
def gaugePolicy : ModbusReconnectPolicy where
  enabled := true
  maxAttempts := 2
  retryWrites := false
  initialDelay := none
  maxDelay := none
  strategy := .fixed
  multiplier := 1

/-- A command for the gauge. -/
def gaugeCommand (intent : Intent) : Command :=
  { id := ⟨"c-1"⟩
    sourceDeviceId := none
    targetDeviceId := ⟨"gauge"⟩
    intent
    correlation := none }

def gaugeOptions : RequestOptions :=
  { headers := [], extensions := none, method := none, contentType := none, path := none }

def writeGauge : Command := gaugeCommand (.write ⟨"level"⟩ (.u64 0x12345678) gaugeOptions)

def readGauge : Command := gaugeCommand (.read ⟨"level"⟩ gaugeOptions)

/-- The second attempt is lost. -/
def gaugeLink : ModbusLink where
  memory := ⟨fun _ _ => 0⟩
  fates place := if place = 1 then .lost "failed to read Modbus socket response: TimedOut"
    else .answered

/-- The frame that answers the read. -/
def gaugeAnswer : Bytes := [0, 1, 0, 0, 0, 7, 1, 3, 4, 0x12, 0x34, 0x56, 0x78]

end Modbus
end Ferredge
