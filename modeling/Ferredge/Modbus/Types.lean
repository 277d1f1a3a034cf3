import Ferredge.Core.Device
import Ferredge.Bridge.Message

/-!
# Modbus types

Devices, requests, responses and decoded values of the Modbus adapter.  A 32-bit float is kept as
its IEEE 754 bit pattern.
-/

namespace Ferredge

/-- Wire framing of one Modbus exchange. -/
inductive ModbusProto where
  | tcpUdp
  | rtu
  | ascii
  deriving DecidableEq

/-- Modbus address space used by one resource. -/
inductive ModbusRegisterKind where
  | coil
  | discreteInput
  | holdingRegister
  | inputRegister
  deriving DecidableEq

/-- Payload codec used to map between Modbus data and routed command bytes. -/
inductive ModbusValueCodec where
  | bool
  | bits
  | u16
  | i16
  | u32Be
  | u32Le
  | i32Be
  | i32Le
  | f32Be
  | f32Le
  | bytes
  | utf8String
  deriving DecidableEq

/-- Modbus-specific resource metadata used to build requests and decode replies. -/
structure ModbusResourceAttributes where
  address : UInt16
  registerKind : ModbusRegisterKind
  codec : ModbusValueCodec
  quantity : Option UInt16
  deriving DecidableEq

/-- Client behavior options shared across Modbus transports. -/
structure ModbusClientOptions where
  unitId : UInt8
  requestTimeout : Option Duration
  deriving DecidableEq

/-- Modbus endpoint configuration across supported wire modes. -/
inductive ModbusEndpoint where
  | tcp (addr : String) (port : UInt16) (options : ModbusClientOptions)
  | rtuOverTcp (addr : String) (port : UInt16) (options : ModbusClientOptions)
  | rtu (path : String) (options : ModbusClientOptions)
  | ascii (path : String) (options : ModbusClientOptions)
  | udp (addr : String) (port : UInt16) (options : ModbusClientOptions)
  deriving DecidableEq

namespace ModbusEndpoint

/-- Client behavior options of this endpoint. -/
def options : ModbusEndpoint → ModbusClientOptions
  | tcp _ _ options => options
  | rtuOverTcp _ _ options => options
  | rtu _ options => options
  | ascii _ options => options
  | udp _ _ options => options

/-- Wire framing used by this endpoint. -/
def proto : ModbusEndpoint → ModbusProto
  | tcp .. => .tcpUdp
  | udp .. => .tcpUdp
  | rtuOverTcp .. => .rtu
  | rtu .. => .rtu
  | ascii .. => .ascii

end ModbusEndpoint

/-- Device definition bound to the Modbus endpoint and resource model. -/
abbrev ModbusDevice := Device ModbusResourceAttributes ModbusEndpoint

/-- What a response parser needs to know about the request it answers. -/
inductive ModbusParserSeed where
  | readCoils (address quantity : UInt16)
  | readDiscretes (address quantity : UInt16)
  | readHoldings (address quantity : UInt16)
  | readInputs (address quantity : UInt16)
  | writeSingleCoil (address : UInt16) (value : Bool)
  | writeSingleHolding (address value : UInt16)
  | writeMultipleCoils (address : UInt16) (values : Bytes)
  | writeMultipleHoldings (address : UInt16) (values : List UInt16)
  | writeMultipleHoldingsBytes (address : UInt16) (values : Bytes)
  | writeString (address : UInt16) (value : String)
  deriving DecidableEq

/-- How the data of a response is read. -/
inductive ModbusResponseDecoder where
  | ack
  | bool
  | bits (quantity : UInt16)
  | u16
  | i16
  | u32Be
  | u32Le
  | i32Be
  | i32Le
  | f32Be
  | f32Le
  | bytes
  | utf8String
  deriving DecidableEq

/-- The IEEE 754 bit pattern of a 32-bit floating-point register pair. -/
abbrev F32Bits := UInt32

/-- Typed value read from or written to Modbus registers. -/
inductive ModbusValue where
  | ack
  | bool (value : Bool)
  | bits (values : List Bool)
  | u16 (values : List UInt16)
  | i16 (values : List Int16)
  | u32 (values : List UInt32)
  | i32 (values : List Int32)
  | f32 (values : List F32Bits)
  | bytes (bytes : Bytes)
  | utf8String (value : String)
  deriving DecidableEq

/-- Conversion error raised when a command or response does not fit Modbus. -/
inductive ModbusCommandConversionError where
  | unsupportedIntent
  | unknownResource (resource : String)
  | invalidResource (message : String)
  | invalidPayload (message : String)
  | unsupportedWrite (resource : String)
  | bridge (error : BridgePlannerError)
  | invalidBridgeMessage
  deriving DecidableEq

/-- Native Modbus request used by the driver execute path. -/
structure ModbusRequest where
  resource : String
  isWrite : Bool
  frame : Bytes
  proto : ModbusProto
  unitId : UInt8
  parserSeed : ModbusParserSeed
  decoder : ModbusResponseDecoder
  timeout : Option Duration
  deriving DecidableEq

/-- Native Modbus response returned by the driver execute path. -/
structure ModbusResponse where
  frame : Bytes
  proto : ModbusProto
  unitId : UInt8
  parserSeed : ModbusParserSeed
  decoder : ModbusResponseDecoder
  deriving DecidableEq

namespace ModbusParserSeed

/-- First coil or register the request names. -/
def address : ModbusParserSeed → UInt16
  | readCoils address _ => address
  | readDiscretes address _ => address
  | readHoldings address _ => address
  | readInputs address _ => address
  | writeSingleCoil address _ => address
  | writeSingleHolding address _ => address
  | writeMultipleCoils address _ => address
  | writeMultipleHoldings address _ => address
  | writeMultipleHoldingsBytes address _ => address
  | writeString address _ => address

/-- Number of coils or registers the request reads or writes. -/
def units : ModbusParserSeed → Nat
  | readCoils _ quantity => quantity.toNat
  | readDiscretes _ quantity => quantity.toNat
  | readHoldings _ quantity => quantity.toNat
  | readInputs _ quantity => quantity.toNat
  | writeSingleCoil _ _ => 1
  | writeSingleHolding _ _ => 1
  | writeMultipleCoils _ values => values.length
  | writeMultipleHoldings _ values => values.length
  | writeMultipleHoldingsBytes _ values => (values.length + 1) / 2
  | writeString _ value => (value.utf8ByteSize + 1) / 2

end ModbusParserSeed
end Ferredge
