import Mathlib.Algebra.Group.Int.Defs
import Mathlib.Algebra.Group.Nat.Defs
import Ferredge.Fallible
import Ferredge.Core.Command
import Ferredge.Modbus.ReferenceClient

/-!
# Building Modbus requests

Payload conversion and the read and write request builders.  The seed recorded in a request always
carries the arguments its frame was generated from, so the two are produced together.
-/

namespace Ferredge

open Fallible

namespace Modbus

/-- Fails with an invalid-payload message. -/
def invalidPayload {α : Type} (message : String) : Except ModbusCommandConversionError α :=
  .error (.invalidPayload message)

/-! ## Payloads to values -/

def decodePayloadBool : PayloadValue → Except ModbusCommandConversionError Bool
  | .bool value => .ok value
  | _ => invalidPayload "bool payload must be a boolean"

def decodePayloadBits : PayloadValue → Except ModbusCommandConversionError (List Bool)
  | .list values => values.mapM fun
      | .bool flag => .ok flag
      | _ => invalidPayload "bits payload entries must be booleans"
  | _ => invalidPayload "payload must be a list"

/-- Integers of a payload: a scalar or a list of scalars, each checked by the given map. -/
def decodeNumericList {α : Type} (payload : PayloadValue) (scalarError : String)
    (convert : Int → Except ModbusCommandConversionError α) :
    Except ModbusCommandConversionError (List α) :=
  match payload with
  | .i64 value => (convert value.toInt).map fun value => [value]
  | .u64 value => (convert value.toNat).map fun value => [value]
  | .list values => values.mapM fun
      | .i64 value => convert value.toInt
      | .u64 value => convert value.toNat
      | _ => invalidPayload scalarError
  | _ => invalidPayload scalarError

/-- Range check of an integer conversion. -/
def inRange {α : Type} (low high : Int) (wrap : Int → α) (message : String) (value : Int) :
    Except ModbusCommandConversionError α :=
  if low ≤ value ∧ value < high then .ok (wrap value) else invalidPayload message

def decodePayloadU16List (payload : PayloadValue) :
    Except ModbusCommandConversionError (List UInt16) :=
  decodeNumericList payload "u16 payload must be unsigned integer"
    (inRange 0 (2 ^ 16) UInt16.ofInt "u16 payload out of range")

def decodePayloadI16List (payload : PayloadValue) :
    Except ModbusCommandConversionError (List Int16) :=
  decodeNumericList payload "i16 payload must be integer"
    (inRange (-2 ^ 15) (2 ^ 15) Int16.ofInt "i16 payload out of range")

def decodePayloadU32List (payload : PayloadValue) :
    Except ModbusCommandConversionError (List UInt32) :=
  decodeNumericList payload "u32 payload must be unsigned integer"
    (inRange 0 (2 ^ 32) UInt32.ofInt "u32 payload out of range")

def decodePayloadI32List (payload : PayloadValue) :
    Except ModbusCommandConversionError (List Int32) :=
  decodeNumericList payload "i32 payload must be integer"
    (inRange (-2 ^ 31) (2 ^ 31) Int32.ofInt "i32 payload out of range")

/-- A numeric scalar rounded to 32-bit precision. -/
def f32OfPayload : PayloadValue → Option F32Bits
  | .f64 bits => some (Float.ofBits bits).toFloat32.toBits
  | .i64 value => some value.toFloat32.toBits
  | .u64 value => some value.toFloat32.toBits
  | _ => none

def decodePayloadF32List (payload : PayloadValue) :
    Except ModbusCommandConversionError (List F32Bits) :=
  match payload with
  | .list values => values.mapM fun value =>
      match f32OfPayload value with
      | some bits => .ok bits
      | none => invalidPayload "f32 payload entries must be numeric"
  | payload =>
      match f32OfPayload payload with
      | some bits => .ok [bits]
      | none => invalidPayload "f32 payload must be numeric"

def decodeBytesFromPayloadValue : PayloadValue → Except ModbusCommandConversionError Bytes
  | .bytes bytes => .ok bytes
  | _ => invalidPayload "bytes payload must be binary data"

def decodePayloadString : PayloadValue → Except ModbusCommandConversionError String
  | .string value => .ok value
  | _ => invalidPayload "string payload must be utf8 text"

/-- The value a payload stands for under the resource's codec. -/
def modbusValueFromPayload (attributes : ModbusResourceAttributes) (payload : PayloadValue) :
    Except ModbusCommandConversionError ModbusValue :=
  match attributes.codec with
  | .bool => (decodePayloadBool payload).map .bool
  | .bits => (decodePayloadBits payload).map .bits
  | .u16 => (decodePayloadU16List payload).map .u16
  | .i16 => (decodePayloadI16List payload).map .i16
  | .u32Be | .u32Le => (decodePayloadU32List payload).map .u32
  | .i32Be | .i32Le => (decodePayloadI32List payload).map .i32
  | .f32Be | .f32Le => (decodePayloadF32List payload).map .f32
  | .bytes => (decodeBytesFromPayloadValue payload).map .bytes
  | .utf8String => (decodePayloadString payload).map .utf8String

/-! ## Values to register contents -/

def decodeBool : ModbusValue → Except ModbusCommandConversionError Bool
  | .bool value => .ok value
  | _ => invalidPayload "bool payload must be a boolean"

def decodeBits : ModbusValue → Except ModbusCommandConversionError Bytes
  | .bits values => .ok (values.map fun value => if value then 1 else 0)
  | _ => invalidPayload "bits payload must be a boolean list"

/-- The one register of a 16-bit value; a signed value is accepted when it is not negative. -/
def decodeU16 : ModbusValue → Except ModbusCommandConversionError UInt16
  | .u16 [value] => .ok value
  | .i16 [value] =>
      if 0 ≤ value.toInt then .ok value.toUInt16
      else invalidPayload "i16 payload must fit into unsigned u16"
  | _ => invalidPayload "u16 payload must be a single 16-bit value"

/-- The four bytes of a 32-bit pattern, most significant first. -/
def toBeBytes (value : UInt32) : UInt8 × UInt8 × UInt8 × UInt8 :=
  ((value >>> 24).toUInt8, (value >>> 16).toUInt8, (value >>> 8).toUInt8, value.toUInt8)

/-- The four bytes of a 32-bit pattern, least significant first. -/
def toLeBytes (value : UInt32) : UInt8 × UInt8 × UInt8 × UInt8 :=
  (value.toUInt8, (value >>> 8).toUInt8, (value >>> 16).toUInt8, (value >>> 24).toUInt8)

/-- The register with the given bytes. -/
def fromBeBytes (high low : UInt8) : UInt16 :=
  high.toUInt16 <<< 8 ||| low.toUInt16

/-- Register pair of a big-endian 32-bit pattern. -/
def wordsBe (value : UInt32) : List UInt16 :=
  let (byte0, byte1, byte2, byte3) := toBeBytes value
  [fromBeBytes byte0 byte1, fromBeBytes byte2 byte3]

/-- Register pair of a little-endian 32-bit pattern. -/
def wordsLe (value : UInt32) : List UInt16 :=
  let (byte0, byte1, byte2, byte3) := toLeBytes value
  [fromBeBytes byte2 byte3, fromBeBytes byte0 byte1]

def wordsFromU32 (split : UInt32 → List UInt16) :
    ModbusValue → Except ModbusCommandConversionError (List UInt16)
  | .u32 values => .ok (values.flatMap split)
  | _ => invalidPayload "u32 payload must be numeric"

def wordsFromI32 (split : UInt32 → List UInt16) :
    ModbusValue → Except ModbusCommandConversionError (List UInt16)
  | .i32 values => .ok (values.flatMap fun value => split value.toUInt32)
  | _ => invalidPayload "i32 payload must be numeric"

def wordsFromF32 (split : UInt32 → List UInt16) :
    ModbusValue → Except ModbusCommandConversionError (List UInt16)
  | .f32 values => .ok (values.flatMap split)
  | _ => invalidPayload "f32 payload must be numeric"

/-- Registers of a list of 32-bit values. -/
def wordsFromPayload (codec : ModbusValueCodec) (value : ModbusValue) :
    Except ModbusCommandConversionError (List UInt16) :=
  match codec with
  | .u32Be => wordsFromU32 wordsBe value
  | .i32Be => wordsFromI32 wordsBe value
  | .f32Be => wordsFromF32 wordsBe value
  | .u32Le => wordsFromU32 wordsLe value
  | .i32Le => wordsFromI32 wordsLe value
  | .f32Le => wordsFromF32 wordsLe value
  | _ => invalidPayload "word conversion requires 32-bit codec"

def decodeBytes : ModbusValue → Except ModbusCommandConversionError Bytes
  | .bytes bytes => .ok bytes
  | _ => invalidPayload "bytes payload must be binary data"

def decodeString : ModbusValue → Except ModbusCommandConversionError String
  | .utf8String value => .ok value
  | _ => invalidPayload "string payload must be utf8 text"

/-! ## Request builders -/

def mapRmodbusBuildError (error : RmodbusError) : ModbusCommandConversionError :=
  .invalidPayload <|
    match error with
    | .oob => "out of bounds"
    | .frameBroken => "frame broken"
    | .frameCrcError => "frame crc error"
    | .utf8Error => "utf8 error"
    | .other _ => "rmodbus error"

/-- The span a read of the resource covers. -/
def quantityForRead (attributes : ModbusResourceAttributes) :
    Except ModbusCommandConversionError UInt16 :=
  match attributes.quantity with
  | some quantity =>
      if quantity = 0 then .error (.invalidResource "quantity must be greater than zero")
      else .ok quantity
  | none =>
      match attributes.codec with
      | .bool | .bits | .u16 | .i16 => .ok 1
      | .u32Be | .u32Le | .i32Be | .i32Le | .f32Be | .f32Le => .ok 2
      | .bytes | .utf8String =>
          .error (.invalidResource "quantity is required for raw bytes and string codecs")

def decoderForCodec (codec : ModbusValueCodec) (quantity : UInt16) : ModbusResponseDecoder :=
  match codec with
  | .bool => .bool
  | .bits => .bits quantity
  | .u16 => .u16
  | .i16 => .i16
  | .u32Be => .u32Be
  | .u32Le => .u32Le
  | .i32Be => .i32Be
  | .i32Le => .i32Le
  | .f32Be => .f32Be
  | .f32Le => .f32Le
  | .bytes => .bytes
  | .utf8String => .utf8String

def validateBitCodec (codec : ModbusValueCodec) : Except ModbusCommandConversionError Unit :=
  match codec with
  | .bool | .bits => .ok ()
  | _ => .error (.invalidResource "bit resources require Bool or Bits codec")

def validateRegisterCodec (codec : ModbusValueCodec) :
    Except ModbusCommandConversionError Unit :=
  match codec with
  | .bool | .bits =>
      .error (.invalidResource "register resources cannot use Bool or Bits codec")
  | _ => .ok ()

/-- Wire form of a binary frame. -/
def encodeWireFrame (lib : Rmodbus) (proto : ModbusProto) (frame : Bytes) :
    Except RmodbusError Bytes :=
  if proto = .ascii then lib.generateAsciiFrame frame else .ok frame

/-- Generates the frame of a request and records its arguments as the parser seed. -/
def buildRequest (lib : Rmodbus) (resource : String) (isWrite : Bool) (proto : ModbusProto)
    (options : ModbusClientOptions) (seed : ModbusParserSeed) (decoder : ModbusResponseDecoder) :
    Except ModbusCommandConversionError ModbusRequest := do
  let (_, binaryFrame) ←
    (lib.generate (lib.new options.unitId proto) seed).mapError mapRmodbusBuildError
  let frame ← (encodeWireFrame lib proto binaryFrame).mapError mapRmodbusBuildError
  return {
    resource
    isWrite
    frame
    proto
    unitId := options.unitId
    parserSeed := seed
    decoder
    timeout := options.requestTimeout }

/-- Arguments of the read request of a resource, after its codec is checked. -/
def readSeed (attributes : ModbusResourceAttributes) (quantity : UInt16) :
    Except ModbusCommandConversionError ModbusParserSeed :=
  match attributes.registerKind with
  | .coil =>
      (validateBitCodec attributes.codec).map fun _ =>
        .readCoils attributes.address quantity
  | .discreteInput =>
      (validateBitCodec attributes.codec).map fun _ =>
        .readDiscretes attributes.address quantity
  | .holdingRegister =>
      (validateRegisterCodec attributes.codec).map fun _ =>
        .readHoldings attributes.address quantity
  | .inputRegister =>
      (validateRegisterCodec attributes.codec).map fun _ =>
        .readInputs attributes.address quantity

def buildReadRequest (lib : Rmodbus) (resource : String) (attributes : ModbusResourceAttributes)
    (proto : ModbusProto) (options : ModbusClientOptions) :
    Except ModbusCommandConversionError ModbusRequest := do
  let quantity ← quantityForRead attributes
  let seed ← readSeed attributes quantity
  buildRequest lib resource false proto options seed (decoderForCodec attributes.codec quantity)

/-- Arguments of the request that writes a value to coils. -/
def coilWriteSeed (resource : String) (attributes : ModbusResourceAttributes)
    (value : ModbusValue) : Except ModbusCommandConversionError ModbusParserSeed :=
  match attributes.codec with
  | .bool => (decodeBool value).map fun value => .writeSingleCoil attributes.address value
  | .bits => (decodeBits value).map fun values => .writeMultipleCoils attributes.address values
  | _ => .error (.unsupportedWrite resource)

/-- Arguments of the request that writes a value to holding registers. -/
def holdingWriteSeed (resource : String) (attributes : ModbusResourceAttributes)
    (value : ModbusValue) : Except ModbusCommandConversionError ModbusParserSeed :=
  match attributes.codec with
  | .u16 | .i16 =>
      (decodeU16 value).map fun value => .writeSingleHolding attributes.address value
  | .u32Be | .u32Le | .i32Be | .i32Le | .f32Be | .f32Le =>
      (wordsFromPayload attributes.codec value).map fun values =>
        .writeMultipleHoldings attributes.address values
  | .bytes =>
      (decodeBytes value).map fun values =>
        .writeMultipleHoldingsBytes attributes.address values
  | .utf8String => (decodeString value).map fun value => .writeString attributes.address value
  | .bool | .bits => .error (.unsupportedWrite resource)

/-- Arguments of the write request of a resource. -/
def writeSeed (resource : String) (attributes : ModbusResourceAttributes) (value : ModbusValue) :
    Except ModbusCommandConversionError ModbusParserSeed :=
  match attributes.registerKind with
  | .coil => coilWriteSeed resource attributes value
  | .holdingRegister => holdingWriteSeed resource attributes value
  | .discreteInput | .inputRegister => .error (.unsupportedWrite resource)

def buildWriteRequest (lib : Rmodbus) (resource : String) (attributes : ModbusResourceAttributes)
    (payload : PayloadValue) (proto : ModbusProto) (options : ModbusClientOptions) :
    Except ModbusCommandConversionError ModbusRequest := do
  let value ← modbusValueFromPayload attributes payload
  let seed ← writeSeed resource attributes value
  buildRequest lib resource true proto options seed .ack

/-! ## The span of a write -/

/-- Number of scalars in a payload. -/
def scalarCount : PayloadValue → Nat
  | .list values => values.length
  | _ => 1

/-- Number of bytes in a raw or text payload. -/
def byteLength : PayloadValue → Nat
  | .bytes bytes => bytes.length
  | .string value => value.utf8ByteSize
  | _ => 0

/-- Coils or registers a payload fills under a codec, counted on the payload itself. -/
def payloadUnits (codec : ModbusValueCodec) (payload : PayloadValue) : Nat :=
  match codec with
  | .bool | .u16 | .i16 => 1
  | .bits => scalarCount payload
  | .u32Be | .u32Le | .i32Be | .i32Le | .f32Be | .f32Le => 2 * scalarCount payload
  | .bytes | .utf8String => (byteLength payload + 1) / 2

theorem decodeNumericList_length {α : Type} {payload : PayloadValue} {scalarError : String}
    {convert : Int → Except ModbusCommandConversionError α} {values : List α}
    (decoded : decodeNumericList payload scalarError convert = .ok values) :
    values.length = scalarCount payload := by
  unfold decodeNumericList at decoded
  cases payload with
  | i64 value =>
      obtain ⟨item, -, rfl⟩ := map_eq_ok.mp decoded
      rfl
  | u64 value =>
      obtain ⟨item, -, rfl⟩ := map_eq_ok.mp decoded
      rfl
  | list items => exact (length_eq_of_mapM_eq_ok decoded).symm
  | null | bool | f64 | string | bytes | map => cases decoded

theorem decodePayloadF32List_length {payload : PayloadValue} {values : List F32Bits}
    (decoded : decodePayloadF32List payload = .ok values) :
    values.length = scalarCount payload := by
  unfold decodePayloadF32List at decoded
  cases payload with
  | list items => exact (length_eq_of_mapM_eq_ok decoded).symm
  | i64 | u64 | f64 =>
      cases decoded
      rfl
  | null | bool | string | bytes | map => cases decoded

theorem decodePayloadBits_length {payload : PayloadValue} {values : List Bool}
    (decoded : decodePayloadBits payload = .ok values) :
    values.length = scalarCount payload := by
  cases payload with
  | list items => exact (length_eq_of_mapM_eq_ok decoded).symm
  | null | bool | i64 | u64 | f64 | string | bytes | map => cases decoded

/-- Every 32-bit value fills two registers. -/
theorem length_flatMap_pair {α : Type} (split : α → List UInt16) (values : List α)
    (pairs : ∀ value, (split value).length = 2) :
    (values.flatMap split).length = 2 * values.length := by
  induction values with
  | nil => rfl
  | cons value values ih =>
      rw [List.flatMap_cons, List.length_append, ih, pairs value, List.length_cons]
      omega

/-- A list of 32-bit values fills two registers for every scalar of its payload. -/
theorem wordsFromPayload_length {attributes : ModbusResourceAttributes} {payload : PayloadValue}
    {value : ModbusValue} {words : List UInt16}
    (converted : modbusValueFromPayload attributes payload = .ok value)
    (split : wordsFromPayload attributes.codec value = .ok words) :
    words.length = 2 * scalarCount payload := by
  obtain ⟨address, registerKind, codec, quantity⟩ := attributes
  cases codec with
  | u32Be | u32Le =>
      obtain ⟨values, decoded, rfl⟩ := map_eq_ok.mp converted
      cases split
      rw [length_flatMap_pair _ values fun _ => rfl, decodeNumericList_length decoded]
  | i32Be | i32Le =>
      obtain ⟨values, decoded, rfl⟩ := map_eq_ok.mp converted
      cases split
      rw [length_flatMap_pair _ values fun _ => rfl, decodeNumericList_length decoded]
  | f32Be | f32Le =>
      obtain ⟨values, decoded, rfl⟩ := map_eq_ok.mp converted
      cases split
      rw [length_flatMap_pair _ values fun _ => rfl, decodePayloadF32List_length decoded]
  | bool | bits | u16 | i16 | bytes | utf8String => cases split

theorem coilWriteSeed_units {resource : String} {attributes : ModbusResourceAttributes}
    {payload : PayloadValue} {value : ModbusValue} {seed : ModbusParserSeed}
    (converted : modbusValueFromPayload attributes payload = .ok value)
    (written : coilWriteSeed resource attributes value = .ok seed) :
    seed.address = attributes.address ∧ seed.units = payloadUnits attributes.codec payload := by
  obtain ⟨address, registerKind, codec, quantity⟩ := attributes
  cases codec with
  | bool =>
      obtain ⟨state, -, rfl⟩ := map_eq_ok.mp written
      exact ⟨rfl, rfl⟩
  | bits =>
      obtain ⟨states, packed, rfl⟩ := map_eq_ok.mp written
      obtain ⟨values, decoded, rfl⟩ := map_eq_ok.mp converted
      cases packed
      refine ⟨rfl, ?_⟩
      rw [ModbusParserSeed.units, List.length_map, decodePayloadBits_length decoded]
      rfl
  | u16 | i16 | u32Be | u32Le | i32Be | i32Le | f32Be | f32Le | bytes | utf8String =>
      cases written

theorem holdingWriteSeed_units {resource : String} {attributes : ModbusResourceAttributes}
    {payload : PayloadValue} {value : ModbusValue} {seed : ModbusParserSeed}
    (converted : modbusValueFromPayload attributes payload = .ok value)
    (written : holdingWriteSeed resource attributes value = .ok seed) :
    seed.address = attributes.address ∧ seed.units = payloadUnits attributes.codec payload := by
  have length {words : List UInt16}
      (split : wordsFromPayload attributes.codec value = .ok words) :=
    wordsFromPayload_length converted split
  obtain ⟨address, registerKind, codec, quantity⟩ := attributes
  cases codec with
  | u16 | i16 =>
      obtain ⟨word, -, rfl⟩ := map_eq_ok.mp written
      exact ⟨rfl, rfl⟩
  | u32Be | u32Le | i32Be | i32Le | f32Be | f32Le =>
      obtain ⟨words, split, rfl⟩ := map_eq_ok.mp written
      exact ⟨rfl, length split⟩
  | bytes =>
      obtain ⟨bytes, raw, rfl⟩ := map_eq_ok.mp written
      obtain ⟨bytes', decoded, rfl⟩ := map_eq_ok.mp converted
      cases raw
      cases payload with
      | bytes => cases decoded; exact ⟨rfl, rfl⟩
      | null | bool | i64 | u64 | f64 | string | list | map => cases decoded
  | utf8String =>
      obtain ⟨text, raw, rfl⟩ := map_eq_ok.mp written
      obtain ⟨text', decoded, rfl⟩ := map_eq_ok.mp converted
      cases raw
      cases payload with
      | string => cases decoded; exact ⟨rfl, rfl⟩
      | null | bool | i64 | u64 | f64 | bytes | list | map => cases decoded
  | bool | bits => cases written

/-- An accepted write starts at the resource's address and fills what its payload holds. -/
theorem writeSeed_units {resource : String} {attributes : ModbusResourceAttributes}
    {payload : PayloadValue} {value : ModbusValue} {seed : ModbusParserSeed}
    (converted : modbusValueFromPayload attributes payload = .ok value)
    (written : writeSeed resource attributes value = .ok seed) :
    seed.address = attributes.address ∧ seed.units = payloadUnits attributes.codec payload := by
  unfold writeSeed at written
  split at written
  · exact coilWriteSeed_units converted written
  · exact holdingWriteSeed_units converted written
  · cases written
  · cases written

theorem buildRequest_parserSeed {lib : Rmodbus} {resource : String} {isWrite : Bool}
    {proto : ModbusProto} {options : ModbusClientOptions} {seed : ModbusParserSeed}
    {decoder : ModbusResponseDecoder} {request : ModbusRequest}
    (built : buildRequest lib resource isWrite proto options seed decoder = .ok request) :
    request.parserSeed = seed ∧ request.unitId = options.unitId := by
  obtain ⟨generated, -, built⟩ := bind_eq_ok.mp built
  obtain ⟨frame, -, built⟩ := bind_eq_ok.mp built
  cases built
  exact ⟨rfl, rfl⟩

/-- The coil or register is one the request reads or writes. -/
def Touches (seed : ModbusParserSeed) (register : Nat) : Prop :=
  seed.address.toNat ≤ register ∧ register < seed.address.toNat + seed.units

/-- The coil or register lies in the read span of the resource. -/
def InSpan (attributes : ModbusResourceAttributes) (quantity : UInt16) (register : Nat) : Prop :=
  attributes.address.toNat ≤ register ∧ register < attributes.address.toNat + quantity.toNat

theorem touches_subset_span_iff {seed : ModbusParserSeed} {attributes : ModbusResourceAttributes}
    (quantity : UInt16) (start : seed.address = attributes.address) :
    (∀ register, Touches seed register → InSpan attributes quantity register) ↔
      seed.units ≤ quantity.toNat := by
  unfold Touches InSpan
  rw [start]
  constructor
  · intro inside
    by_contra spill
    have last := inside (attributes.address.toNat + quantity.toNat)
    omega
  · intro fits register touched
    omega

theorem quantityForRead_pos {attributes : ModbusResourceAttributes} {quantity : UInt16}
    (span : quantityForRead attributes = .ok quantity) : 0 < quantity.toNat := by
  unfold quantityForRead at span
  split at span
  · split at span
    · cases span
    · rename_i declared _ nonzero
      cases span
      exact Nat.pos_of_ne_zero fun zero => nonzero (UInt16.toNat_inj.mp zero)
  · split at span <;> cases span <;> decide

theorem buildWriteRequest_units {lib : Rmodbus} {resource : String}
    {attributes : ModbusResourceAttributes} {payload : PayloadValue} {proto : ModbusProto}
    {options : ModbusClientOptions} {request : ModbusRequest}
    (accepted : buildWriteRequest lib resource attributes payload proto options = .ok request) :
    request.parserSeed.address = attributes.address ∧
      request.parserSeed.units = payloadUnits attributes.codec payload := by
  obtain ⟨value, converted, accepted⟩ := bind_eq_ok.mp accepted
  obtain ⟨seed, written, built⟩ := bind_eq_ok.mp accepted
  rw [(buildRequest_parserSeed built).1]
  exact writeSeed_units converted written

/-- An accepted write covers the block of coils or registers that starts at the resource's address
and is as long as the payload.  It stays inside the read span exactly when the payload is no longer
than the span, as single values always are. -/
theorem buildWriteRequest_span (lib : Rmodbus) (resource : String)
    (attributes : ModbusResourceAttributes) (payload : PayloadValue) (proto : ModbusProto)
    (options : ModbusClientOptions) (quantity : UInt16) (request : ModbusRequest)
    (span : quantityForRead attributes = .ok quantity)
    (accepted : buildWriteRequest lib resource attributes payload proto options = .ok request) :
    request.parserSeed.address = attributes.address ∧
      request.parserSeed.units = payloadUnits attributes.codec payload ∧
      ((∀ register, Touches request.parserSeed register → InSpan attributes quantity register) ↔
        payloadUnits attributes.codec payload ≤ quantity.toNat) ∧
      (attributes.codec = .bool ∨ attributes.codec = .u16 ∨ attributes.codec = .i16 →
        ∀ register, Touches request.parserSeed register →
          InSpan attributes quantity register) := by
  obtain ⟨start, units⟩ := buildWriteRequest_units accepted
  have inside := touches_subset_span_iff quantity start
  rw [units] at inside
  refine ⟨start, units, inside, ?_⟩
  intro single
  refine inside.mpr ?_
  have one : payloadUnits attributes.codec payload = 1 := by
    obtain codec | codec | codec := single <;> rw [codec] <;> rfl
  have positive := quantityForRead_pos span
  omega

/-- Three coils from address 100 on. -/
def threeCoils : ModbusResourceAttributes :=
  { address := 100, registerKind := .coil, codec := .bits, quantity := some 3 }

/-- The write of the given coil states to them. -/
def writeThreeCoils (states : List Bool) : Except ModbusCommandConversionError ModbusRequest :=
  buildWriteRequest ReferenceClient.library "coils" threeCoils (.list (states.map .bool)) .tcpUdp
    { unitId := 1, requestTimeout := none }

/-- Three states stay inside the span. -/
theorem writeThreeCoils_three :
    ∃ request, writeThreeCoils [true, false, true] = .ok request ∧
      request.parserSeed.units = 3 ∧
      ∀ register, Touches request.parserSeed register → InSpan threeCoils 3 register := by
  refine ⟨_, rfl, rfl, ?_⟩
  have span := buildWriteRequest_span ReferenceClient.library "coils" threeCoils
    (.list [.bool true, .bool false, .bool true]) .tcpUdp { unitId := 1, requestTimeout := none }
    3 _ rfl rfl
  exact span.2.2.1.mpr (by decide)

/-- Four states are accepted too, and the fourth goes to the coil after the span. -/
theorem writeThreeCoils_four :
    quantityForRead threeCoils = .ok 3 ∧
      ∃ request, writeThreeCoils [true, false, true, true] = .ok request ∧
        Touches request.parserSeed 103 ∧ ¬InSpan threeCoils 3 103 := by
  refine ⟨rfl, _, rfl, ?_, ?_⟩
  · exact ⟨by decide, by decide⟩
  · rintro ⟨-, inside⟩
    exact absurd inside (by decide)

end Modbus
end Ferredge
