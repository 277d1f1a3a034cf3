import Ferredge.Modbus.Types

/-!
# The Modbus frame library

The frame generators and response parsers of the client library, as a parameter of the model.  A
client object remembers the last request it generated, and its parsers judge frames against it.
-/

namespace Ferredge

/-- Error kinds of the frame library that the adapter tells apart, and the rest by name. -/
inductive RmodbusError where
  | oob
  | frameBroken
  | frameCrcError
  | utf8Error
  | other (name : String)
  deriving DecidableEq

namespace RmodbusError

/-- The variant's name, as its debug rendering prints it. -/
def debugText : RmodbusError → String
  | oob => "OOB"
  | frameBroken => "FrameBroken"
  | frameCrcError => "FrameCRCError"
  | utf8Error => "Utf8Error"
  | other name => name

end RmodbusError

/-- The operations of the frame library. -/
structure Rmodbus where
  /-- Client objects. -/
  Client : Type
  /-- A client for one unit and framing. -/
  new : UInt8 → ModbusProto → Client
  generateGetCoils : Client → UInt16 → UInt16 → Except RmodbusError (Client × Bytes)
  generateGetDiscretes : Client → UInt16 → UInt16 → Except RmodbusError (Client × Bytes)
  generateGetHoldings : Client → UInt16 → UInt16 → Except RmodbusError (Client × Bytes)
  generateGetInputs : Client → UInt16 → UInt16 → Except RmodbusError (Client × Bytes)
  generateSetCoil : Client → UInt16 → Bool → Except RmodbusError (Client × Bytes)
  generateSetHolding : Client → UInt16 → UInt16 → Except RmodbusError (Client × Bytes)
  generateSetCoilsBulk : Client → UInt16 → Bytes → Except RmodbusError (Client × Bytes)
  generateSetHoldingsBulk :
    Client → UInt16 → List UInt16 → Except RmodbusError (Client × Bytes)
  generateSetHoldingsBulkFromSlice :
    Client → UInt16 → Bytes → Except RmodbusError (Client × Bytes)
  generateSetHoldingsString : Client → UInt16 → String → Except RmodbusError (Client × Bytes)
  /-- Hexadecimal wire form of a binary frame. -/
  generateAsciiFrame : Bytes → Except RmodbusError Bytes
  /-- Judges a response frame against the generated request. -/
  parseOk : Client → Bytes → Except RmodbusError Unit
  parseBoolU8 : Client → Bytes → Except RmodbusError Bytes
  parseU16 : Client → Bytes → Except RmodbusError (List UInt16)
  parseI16 : Client → Bytes → Except RmodbusError (List Int16)
  parseU32Be : Client → Bytes → Except RmodbusError (List UInt32)
  parseU32Le : Client → Bytes → Except RmodbusError (List UInt32)
  parseI32Be : Client → Bytes → Except RmodbusError (List Int32)
  parseI32Le : Client → Bytes → Except RmodbusError (List Int32)
  parseF32Be : Client → Bytes → Except RmodbusError (List F32Bits)
  parseF32Le : Client → Bytes → Except RmodbusError (List F32Bits)

namespace Rmodbus

/-- Generates the request a seed describes. -/
def generate (lib : Rmodbus) (client : lib.Client) :
    ModbusParserSeed → Except RmodbusError (lib.Client × Bytes)
  | .readCoils address quantity => lib.generateGetCoils client address quantity
  | .readDiscretes address quantity => lib.generateGetDiscretes client address quantity
  | .readHoldings address quantity => lib.generateGetHoldings client address quantity
  | .readInputs address quantity => lib.generateGetInputs client address quantity
  | .writeSingleCoil address value => lib.generateSetCoil client address value
  | .writeSingleHolding address value => lib.generateSetHolding client address value
  | .writeMultipleCoils address values => lib.generateSetCoilsBulk client address values
  | .writeMultipleHoldings address values => lib.generateSetHoldingsBulk client address values
  | .writeMultipleHoldingsBytes address values =>
      lib.generateSetHoldingsBulkFromSlice client address values
  | .writeString address value => lib.generateSetHoldingsString client address value

/-- A parser that refuses every frame the acknowledgement check refuses. -/
def Guarded (lib : Rmodbus) {α : Type}
    (parse : lib.Client → Bytes → Except RmodbusError α) : Prop :=
  ∀ client frame error, lib.parseOk client frame = .error error →
    ∃ error, parse client frame = .error error

/-- Every value parser starts with the acknowledgement check. -/
structure ParsersCheck (lib : Rmodbus) : Prop where
  boolU8 : lib.Guarded lib.parseBoolU8
  u16 : lib.Guarded lib.parseU16
  i16 : lib.Guarded lib.parseI16
  u32Be : lib.Guarded lib.parseU32Be
  u32Le : lib.Guarded lib.parseU32Le
  i32Be : lib.Guarded lib.parseI32Be
  i32Le : lib.Guarded lib.parseI32Le
  f32Be : lib.Guarded lib.parseF32Be
  f32Le : lib.Guarded lib.parseF32Le

end Rmodbus
end Ferredge
