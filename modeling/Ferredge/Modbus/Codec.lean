import Ferredge.Fallible
import Ferredge.Core.Routed
import Ferredge.Modbus.ReferenceClient

/-!
# Decoding Modbus responses

A response frame is decoded against a parser rebuilt from the request's seed.  Numeric decoders go
through the frame library; the raw ones cut the data out of the frame themselves.
-/

namespace Ferredge

open Fallible

namespace Modbus

def mapRmodbusError (error : RmodbusError) : String :=
  "rmodbus error: " ++ error.debugText

def mapRmodbusDecodeError (error : RmodbusError) : ModbusCommandConversionError :=
  .invalidPayload (mapRmodbusError error)

/-- The parser of responses to the request a seed describes. -/
def makeParser (lib : Rmodbus) (proto : ModbusProto) (unitId : UInt8) (seed : ModbusParserSeed) :
    Except ModbusCommandConversionError lib.Client :=
  ((lib.generate (lib.new unitId proto) seed).mapError mapRmodbusDecodeError).map Prod.fst

/-- Drops the zero bytes at the end. -/
def trimTrailingNuls (bytes : Bytes) : Bytes :=
  (bytes.reverse.dropWhile fun byte => byte == 0).reverse

/-- Position of the byte count in a read response. -/
def byteCountIndex : ModbusProto → Nat
  | .tcpUdp => 8
  | .rtu | .ascii => 2

/-- The data that follows the byte count of a read response. -/
def responseDataSlice (proto : ModbusProto) (frame : Bytes) :
    Except ModbusCommandConversionError Bytes :=
  let countIndex := byteCountIndex proto
  let dataIndex := countIndex + 1
  match frame[countIndex]? with
  | none => .error (.invalidPayload "response frame shorter than byte count header")
  | some byteCount =>
      let dataEnd := dataIndex + byteCount.toNat
      if frame.length < dataEnd then
        .error (.invalidPayload "response frame shorter than declared payload")
      else
        .ok ((frame.take dataEnd).drop dataIndex)

/-- Strict UTF-8 decoding. -/
def strFromUtf8 (bytes : Bytes) : Option String :=
  String.fromUTF8? ⟨bytes.toArray⟩

/-- Runs one value parser of the frame library. -/
def parseValue {α : Type} (parsed : Except RmodbusError α) (wrap : α → ModbusValue) :
    Except ModbusCommandConversionError ModbusValue :=
  (parsed.mapError mapRmodbusDecodeError).map wrap

/-- Reads the data of a frame as text, without its zero padding. -/
def decodeUtf8 (slice : Bytes) : Except ModbusCommandConversionError ModbusValue :=
  match strFromUtf8 (trimTrailingNuls slice) with
  | some text => .ok (.utf8String text)
  | none => .error (.invalidPayload "string payload must be valid utf8")

/-- Decodes the data of a frame with the parser of its request. -/
def decodeWith (lib : Rmodbus) (parser : lib.Client) (proto : ModbusProto) (frame : Bytes) :
    ModbusResponseDecoder → Except ModbusCommandConversionError ModbusValue
  | .ack => parseValue (lib.parseOk parser frame) fun _ => .ack
  | .bool => parseValue (lib.parseBoolU8 parser frame) fun values =>
      .bool (values.head?.getD 0 != 0)
  | .bits _ => parseValue (lib.parseBoolU8 parser frame) fun values =>
      .bits (values.map fun value => value != 0)
  | .u16 => parseValue (lib.parseU16 parser frame) .u16
  | .i16 => parseValue (lib.parseI16 parser frame) .i16
  | .u32Be => parseValue (lib.parseU32Be parser frame) .u32
  | .u32Le => parseValue (lib.parseU32Le parser frame) .u32
  | .i32Be => parseValue (lib.parseI32Be parser frame) .i32
  | .i32Le => parseValue (lib.parseI32Le parser frame) .i32
  | .f32Be => parseValue (lib.parseF32Be parser frame) .f32
  | .f32Le => parseValue (lib.parseF32Le parser frame) .f32
  | .bytes => (responseDataSlice proto frame).map .bytes
  | .utf8String => responseDataSlice proto frame >>= decodeUtf8

/-- Decodes the data of a response frame. -/
def decodeModbusValue (lib : Rmodbus) (proto : ModbusProto) (unitId : UInt8)
    (seed : ModbusParserSeed) (decoder : ModbusResponseDecoder) (frame : Bytes) :
    Except ModbusCommandConversionError ModbusValue := do
  let parser ← makeParser lib proto unitId seed
  decodeWith lib parser proto frame decoder

/-- A single value as a scalar, and any other number of values as a list. -/
def oneOrList {α : Type} (values : List α) (render : α → PayloadValue) : PayloadValue :=
  match values with
  | [value] => render value
  | values => .list (values.map render)

/-- The payload a decoded value is routed as. -/
def payloadValueFromModbusValue : ModbusValue → PayloadValue
  | .ack => .null
  | .bool value => .bool value
  | .bits values => .list (values.map .bool)
  | .u16 values => oneOrList values fun value => .u64 value.toUInt64
  | .i16 values => oneOrList values fun value => .i64 value.toInt64
  | .u32 values => oneOrList values fun value => .u64 value.toUInt64
  | .i32 values => oneOrList values fun value => .i64 value.toInt64
  | .f32 values => oneOrList values fun bits => .f64 (Float32.ofBits bits).toFloat.toBits
  | .bytes bytes => .bytes bytes
  | .utf8String value => .string value

/-- The payload of a received response. -/
def payload (lib : Rmodbus) (response : ModbusResponse) :
    Except ModbusCommandConversionError PayloadValue :=
  (decodeModbusValue lib response.proto response.unitId response.parserSeed response.decoder
    response.frame).map payloadValueFromModbusValue

/-- Resource named by a request that Modbus can carry. -/
def commandResource (command : Command) : Except ModbusCommandConversionError String :=
  match command.intent with
  | .read resource _ => .ok resource.text
  | .write resource _ _ => .ok resource.text
  | _ => .error .unsupportedIntent

/-- The routed result of a response to a command of the device. -/
def routedResultOfDecoded (lib : Rmodbus) (device : ModbusDevice) (command : Command)
    (response : ModbusResponse) : Except ModbusCommandConversionError RoutedResult := do
  let resource ← commandResource command
  let value ← payload lib response
  return {
    source := { deviceId := device.id, protocol := .modbus }
    result :=
      { commandId := command.id
        deviceId := device.id
        state := .completed
        payload := some value
        error := none
        correlation := command.correlation.or
          (some { requestId := command.id, replyTo := some (.resource resource) }) }
    transport := none }

/-! ## Invalid responses -/

/-- The frame is no valid successful response to the request the seed describes. -/
def InvalidResponse (lib : Rmodbus) (response : ModbusResponse) : Prop :=
  ∀ parser, makeParser lib response.proto response.unitId response.parserSeed = .ok parser →
    ∃ error, lib.parseOk parser response.frame = .error error

/-- Nothing is made of the response: no value, no payload, and no completed result. -/
structure Refused (lib : Rmodbus) (response : ModbusResponse) : Prop where
  value : ∃ error, decodeModbusValue lib response.proto response.unitId response.parserSeed
    response.decoder response.frame = .error error
  payload : ∃ error, payload lib response = .error error
  result : ∀ device command routed, routedResultOfDecoded lib device command response = .ok routed →
    ¬(routed.result.state = .completed ∧ routed.result.payload.isSome)

/-- The frame carries a byte count and at least as many data bytes after it. -/
def DataInFrame (proto : ModbusProto) (frame : Bytes) : Prop :=
  ∃ byteCount, frame[byteCountIndex proto]? = some byteCount ∧
    byteCountIndex proto + 1 + byteCount.toNat ≤ frame.length

/-- The data bytes of a frame, as far as it has them. -/
def dataBytes (proto : ModbusProto) (frame : Bytes) : Bytes :=
  (frame.drop (byteCountIndex proto + 1)).take ((frame.getD (byteCountIndex proto) 0).toNat)

/-- The raw decoders find data in the frame: enough bytes, and for text a valid encoding. -/
def RawDataReadable (response : ModbusResponse) : Prop :=
  response.decoder = .bytes ∧ DataInFrame response.proto response.frame ∨
    response.decoder = .utf8String ∧ DataInFrame response.proto response.frame ∧
      (strFromUtf8 (trimTrailingNuls (dataBytes response.proto response.frame))).isSome

/-- Cutting the data out of a frame succeeds exactly when the declared bytes are there. -/
theorem responseDataSlice_eq_ok {proto : ModbusProto} {frame data : Bytes} :
    responseDataSlice proto frame = .ok data ↔
      DataInFrame proto frame ∧ data = dataBytes proto frame := by
  cases counted : frame[byteCountIndex proto]? with
  | none => simp [responseDataSlice, DataInFrame, counted]
  | some byteCount =>
      have count_eq : frame.getD (byteCountIndex proto) 0 = byteCount := by
        rw [List.getD_eq_getElem?_getD, counted, Option.getD_some]
      simp only [responseDataSlice, DataInFrame, dataBytes, counted, count_eq,
        Option.some.injEq, exists_eq_left']
      split
      · rename_i short
        constructor
        · intro cut
          cases cut
        · rintro ⟨long, -⟩
          omega
      · rename_i long
        rw [Except.ok.injEq, List.drop_take, Nat.add_sub_cancel_left]
        constructor
        · rintro rfl
          exact ⟨by omega, rfl⟩
        · rintro ⟨-, rfl⟩
          rfl

theorem decodeUtf8_eq_ok {slice : Bytes} {value : ModbusValue} :
    decodeUtf8 slice = .ok value ↔
      ∃ text, strFromUtf8 (trimTrailingNuls slice) = some text ∧ value = .utf8String text := by
  unfold decodeUtf8
  cases strFromUtf8 (trimTrailingNuls slice) with
  | none => simp
  | some text => simp [eq_comm]

theorem parseValue_eq_ok {α : Type} {parsed : Except RmodbusError α} {wrap : α → ModbusValue}
    {value : ModbusValue} :
    parseValue parsed wrap = .ok value ↔ ∃ item, parsed = .ok item ∧ wrap item = value := by
  cases parsed <;> simp [parseValue, Except.mapError, Except.map]

/-- A decoder that goes through the frame library accepts nothing the library rejects. -/
theorem decodeWith_rejected {lib : Rmodbus} (checks : lib.ParsersCheck) {parser : lib.Client}
    {proto : ModbusProto} {frame : Bytes} {error : RmodbusError}
    (rejected : lib.parseOk parser frame = .error error) {decoder : ModbusResponseDecoder}
    {value : ModbusValue} (decoded : decodeWith lib parser proto frame decoder = .ok value) :
    decoder = .bytes ∨ decoder = .utf8String := by
  have guarded {α : Type} {parse : lib.Client → Bytes → Except RmodbusError α}
      (guard : lib.Guarded parse) {wrap : α → ModbusValue}
      (parsed : parseValue (parse parser frame) wrap = .ok value) : False := by
    obtain ⟨item, accepted, -⟩ := parseValue_eq_ok.mp parsed
    obtain ⟨raised, refused⟩ := guard parser frame error rejected
    rw [accepted] at refused
    cases refused
  cases decoder with
  | ack =>
      obtain ⟨item, accepted, -⟩ := parseValue_eq_ok.mp decoded
      rw [rejected] at accepted
      cases accepted
  | bool => exact (guarded checks.boolU8 decoded).elim
  | bits => exact (guarded checks.boolU8 decoded).elim
  | u16 => exact (guarded checks.u16 decoded).elim
  | i16 => exact (guarded checks.i16 decoded).elim
  | u32Be => exact (guarded checks.u32Be decoded).elim
  | u32Le => exact (guarded checks.u32Le decoded).elim
  | i32Be => exact (guarded checks.i32Be decoded).elim
  | i32Le => exact (guarded checks.i32Le decoded).elim
  | f32Be => exact (guarded checks.f32Be decoded).elim
  | f32Le => exact (guarded checks.f32Le decoded).elim
  | bytes => exact .inl rfl
  | utf8String => exact .inr rfl

/-- An invalid response is decoded exactly when its request can be rebuilt and the raw decoders
find data in it. -/
theorem decodeModbusValue_isOk_iff {lib : Rmodbus} (checks : lib.ParsersCheck)
    {response : ModbusResponse} (invalid : InvalidResponse lib response) :
    (∃ value, decodeModbusValue lib response.proto response.unitId response.parserSeed
        response.decoder response.frame = .ok value) ↔
      (∃ parser, makeParser lib response.proto response.unitId response.parserSeed =
        .ok parser) ∧ RawDataReadable response := by
  obtain ⟨frame, proto, unitId, seed, decoder⟩ := response
  constructor
  · rintro ⟨value, decoded⟩
    obtain ⟨parser, built, decoded⟩ := bind_eq_ok.mp decoded
    refine ⟨⟨parser, built⟩, ?_⟩
    obtain ⟨error, rejected⟩ := invalid parser built
    obtain rfl | rfl := decodeWith_rejected checks rejected decoded
    · obtain ⟨data, cut, -⟩ := map_eq_ok.mp decoded
      exact .inl ⟨rfl, (responseDataSlice_eq_ok.mp cut).1⟩
    · obtain ⟨data, cut, text⟩ := bind_eq_ok.mp decoded
      obtain ⟨present, rfl⟩ := responseDataSlice_eq_ok.mp cut
      obtain ⟨text, valid, -⟩ := decodeUtf8_eq_ok.mp text
      exact .inr ⟨rfl, present, Option.isSome_of_eq_some valid⟩
  · rintro ⟨⟨parser, built⟩, readable⟩
    obtain ⟨rfl, present⟩ | ⟨rfl, present, valid⟩ := readable
    · refine ⟨.bytes (dataBytes proto frame), bind_eq_ok.mpr ⟨parser, built, ?_⟩⟩
      exact map_eq_ok.mpr ⟨_, responseDataSlice_eq_ok.mpr ⟨present, rfl⟩, rfl⟩
    · obtain ⟨text, valid⟩ := Option.isSome_iff_exists.mp valid
      refine ⟨.utf8String text, bind_eq_ok.mpr ⟨parser, built, ?_⟩⟩
      exact bind_eq_ok.mpr ⟨_, responseDataSlice_eq_ok.mpr ⟨present, rfl⟩,
        decodeUtf8_eq_ok.mpr ⟨text, valid, rfl⟩⟩

/-- An invalid response is refused by every decoder of the frame library.  A raw decoder refuses it
exactly when its request cannot be rebuilt or the frame holds no readable data. -/
theorem refused_iff_of_invalidResponse (lib : Rmodbus) (checks : lib.ParsersCheck)
    (response : ModbusResponse) (invalid : InvalidResponse lib response) :
    Refused lib response ↔
      ¬((∃ parser, makeParser lib response.proto response.unitId response.parserSeed =
        .ok parser) ∧ RawDataReadable response) := by
  rw [← decodeModbusValue_isOk_iff checks invalid]
  constructor
  · rintro ⟨⟨error, failed⟩, -, -⟩ ⟨value, decoded⟩
    rw [decoded] at failed
    cases failed
  · intro undecoded
    cases decoded : decodeModbusValue lib response.proto response.unitId response.parserSeed
        response.decoder response.frame with
    | ok value => exact absurd ⟨value, decoded⟩ undecoded
    | error error =>
        have no_payload : payload lib response = .error error := by
          rw [payload, decoded]
          rfl
        refine ⟨⟨error, decoded⟩, ⟨error, no_payload⟩, ?_⟩
        intro device command routed built
        obtain ⟨resource, -, built⟩ := bind_eq_ok.mp built
        rw [no_payload] at built
        cases built

/-- A read of three holding registers of unit 1, answered by the given frame. -/
def threeHoldings (decoder : ModbusResponseDecoder) (frame : Bytes) : ModbusResponse :=
  { frame
    proto := .rtu
    unitId := 1
    parserSeed := .readHoldings 0 3
    decoder }

/-- The exception reply to it: function code 3 with the high bit, code 2, and a valid checksum. -/
def exceptionFrame : Bytes :=
  [0x01, 0x83, 0x02, 0xC0, 0xF1]

/-- The client that asked for the registers reports the exception. -/
theorem answer_exceptionFrame :
    ReferenceClient.answer { unitId := 1, proto := .rtu, function := 3 } exceptionFrame =
      .error (.other "IllegalDataAddress") := by
  decide +kernel

theorem exceptionFrame_invalid (decoder : ModbusResponseDecoder) :
    InvalidResponse ReferenceClient.library (threeHoldings decoder exceptionFrame) := by
  intro parser built
  have parser_eq : parser = { unitId := 1, proto := .rtu, function := 3 } :=
    (Except.ok.inj built).symm
  rw [parser_eq]
  exact ⟨_, ReferenceClient.parseOk_eq_error answer_exceptionFrame⟩

/-- A register decoder refuses the exception reply. -/
theorem exceptionFrame_refused_u16 :
    Refused ReferenceClient.library (threeHoldings .u16 exceptionFrame) := by
  refine (refused_iff_of_invalidResponse ReferenceClient.library
    ReferenceClient.library_parsersCheck _ (exceptionFrame_invalid .u16)).mpr ?_
  rintro ⟨-, ⟨wrong, -⟩ | ⟨wrong, -⟩⟩ <;> cases wrong

/-- The byte decoder reads the checksum of the exception reply as data. -/
theorem exceptionFrame_accepted_bytes :
    InvalidResponse ReferenceClient.library (threeHoldings .bytes exceptionFrame) ∧
      ¬Refused ReferenceClient.library (threeHoldings .bytes exceptionFrame) ∧
      payload ReferenceClient.library (threeHoldings .bytes exceptionFrame) =
        .ok (.bytes [0xC0, 0xF1]) := by
  have read : payload ReferenceClient.library (threeHoldings .bytes exceptionFrame) =
      .ok (.bytes [0xC0, 0xF1]) := rfl
  refine ⟨exceptionFrame_invalid .bytes, ?_, read⟩
  rintro ⟨-, ⟨error, failed⟩, -⟩
  rw [read] at failed
  cases failed

end Modbus
end Ferredge
