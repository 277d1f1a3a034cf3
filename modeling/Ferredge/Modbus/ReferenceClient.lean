import Ferredge.Fallible
import Ferredge.Modbus.Client

/-!
# A reference frame library

A concrete client that builds request frames and judges response frames for the three framings.
It shows that the assumptions made about the frame library can be met.
-/

namespace Ferredge

open Fallible

/-- A client object: its unit, its framing, and the function code of its last request. -/
structure ReferenceClient where
  unitId : UInt8
  proto : ModbusProto
  function : UInt8
  deriving DecidableEq

namespace ReferenceClient

/-- The two bytes of a word, most significant first. -/
def wordBytes (word : UInt16) : Bytes :=
  [(word >>> 8).toUInt8, word.toUInt8]

/-- One bit of the cyclic redundancy check. -/
def crcBit (crc : UInt16) : UInt16 :=
  if crc &&& 1 = 1 then (crc >>> 1) ^^^ 0xA001 else crc >>> 1

/-- The cyclic redundancy check of a serial frame. -/
def crc16 (bytes : Bytes) : UInt16 :=
  bytes.foldl (fun crc byte => Nat.repeat crcBit 8 (crc ^^^ byte.toUInt16)) 0xFFFF

/-- The longitudinal redundancy check of a hexadecimal frame. -/
def lrc (bytes : Bytes) : UInt8 :=
  0 - bytes.foldl (fun sum byte => sum + byte) 0

/-- Wraps a function code and its data in the envelope of the framing. -/
def wrap (client : ReferenceClient) (pdu : Bytes) : Bytes :=
  let body := client.unitId :: pdu
  match client.proto with
  | .tcpUdp => [0, 1, 0, 0] ++ wordBytes body.length.toUInt16 ++ body
  | .rtu => body ++ [(crc16 body).toUInt8, (crc16 body >>> 8).toUInt8]
  | .ascii => body ++ [lrc body]

/-- Builds a request and remembers its function code. -/
def request (client : ReferenceClient) (function : UInt8) (data : Bytes) :
    Except RmodbusError (ReferenceClient × Bytes) :=
  .ok ({ client with function }, client.wrap (function :: data))

/-- The unit, function code and data of a response frame whose envelope is intact. -/
def unwrap (client : ReferenceClient) (frame : Bytes) : Except RmodbusError Bytes :=
  match client.proto with
  | .tcpUdp =>
      let body := frame.drop 6
      if frame.take 6 = [0, 1, 0, 0] ++ wordBytes body.length.toUInt16 then .ok body
      else .error .frameBroken
  | .rtu =>
      let body := frame.take (frame.length - 2)
      if frame = body ++ [(crc16 body).toUInt8, (crc16 body >>> 8).toUInt8] then .ok body
      else .error .frameCrcError
  | .ascii =>
      let body := frame.take (frame.length - 1)
      if frame = body ++ [lrc body] then .ok body else .error .frameBroken

/-- Data of a successful response to the last request. -/
def answer (client : ReferenceClient) (frame : Bytes) : Except RmodbusError Bytes := do
  match ← client.unwrap frame with
  | unitId :: function :: data =>
      if unitId ≠ client.unitId then .error .frameBroken
      else if function = client.function then .ok data
      else if function = client.function ||| 0x80 then .error (.other "IllegalDataAddress")
      else .error .frameBroken
  | _ => .error .frameBroken

/-- Data bytes that follow the byte count of a read response. -/
def counted (client : ReferenceClient) (frame : Bytes) : Except RmodbusError Bytes :=
  (client.answer frame).map List.tail

/-- Big-endian words of a byte string. -/
def words : Bytes → List UInt16
  | high :: low :: rest => (high.toUInt16 <<< 8 ||| low.toUInt16) :: words rest
  | _ => []

/-- Word pairs of a word list, joined by the given order. -/
def joinWords (join : UInt16 → UInt16 → UInt32) : List UInt16 → List UInt32
  | first :: second :: rest => join first second :: joinWords join rest
  | _ => []

def joinBe (high low : UInt16) : UInt32 :=
  high.toUInt32 <<< 16 ||| low.toUInt32

/-- Bits of a byte string, least significant first. -/
def bits (bytes : Bytes) : Bytes :=
  bytes.flatMap fun byte => (List.range 8).map fun index => (byte >>> index.toUInt8) &&& 1

/-- Coil states packed eight to a byte, least significant first. -/
def packBits (states : Bytes) : Bytes :=
  (List.range ((states.length + 7) / 8)).map fun index =>
    ((states.drop (8 * index)).take 8).foldr
      (fun (state value : UInt8) => value <<< 1 ||| state) 0

/-- A byte string filled up to whole registers, by a zero byte before the last one. -/
def padEven (bytes : Bytes) : Bytes :=
  if bytes.length % 2 = 0 then bytes else bytes.dropLast ++ 0 :: bytes.drop (bytes.length - 1)

/-- Data of a request that writes several registers. -/
def holdingsData (address : UInt16) (bytes : Bytes) : Bytes :=
  let padded := padEven bytes
  wordBytes address ++ wordBytes (padded.length / 2).toUInt16 ++
    padded.length.toUInt8 :: padded

/-- Upper-case hexadecimal digit. -/
def hexDigit (value : UInt8) : UInt8 :=
  if value < 10 then value + 48 else value + 55

/-- The reference client as a frame library. -/
def library : Rmodbus where
  Client := ReferenceClient
  new unitId proto := { unitId, proto, function := 0 }
  generateGetCoils client address quantity :=
    client.request 1 (wordBytes address ++ wordBytes quantity)
  generateGetDiscretes client address quantity :=
    client.request 2 (wordBytes address ++ wordBytes quantity)
  generateGetHoldings client address quantity :=
    client.request 3 (wordBytes address ++ wordBytes quantity)
  generateGetInputs client address quantity :=
    client.request 4 (wordBytes address ++ wordBytes quantity)
  generateSetCoil client address value :=
    client.request 5 (wordBytes address ++ if value then [0xFF, 0] else [0, 0])
  generateSetHolding client address value :=
    client.request 6 (wordBytes address ++ wordBytes value)
  generateSetCoilsBulk client address values :=
    client.request 15
      (wordBytes address ++ wordBytes values.length.toUInt16 ++
        (packBits values).length.toUInt8 :: packBits values)
  generateSetHoldingsBulk client address values :=
    client.request 16 (holdingsData address (values.flatMap wordBytes))
  generateSetHoldingsBulkFromSlice client address values :=
    client.request 16 (holdingsData address values)
  generateSetHoldingsString client address value :=
    client.request 16 (holdingsData address value.toUTF8.data.toList)
  generateAsciiFrame frame :=
    .ok (58 :: frame.flatMap (fun (byte : UInt8) =>
      [hexDigit (byte >>> 4), hexDigit (byte &&& 15)]) ++ [13, 10])
  parseOk client frame := (client.answer frame).map fun _ => ()
  parseBoolU8 client frame := (client.counted frame).map bits
  parseU16 client frame := (client.counted frame).map words
  parseI16 client frame := (client.counted frame).map fun data => (words data).map UInt16.toInt16
  parseU32Be client frame := (client.counted frame).map fun data => joinWords joinBe (words data)
  parseU32Le client frame :=
    (client.counted frame).map fun data => joinWords (fun low high => joinBe high low) (words data)
  parseI32Be client frame :=
    (client.counted frame).map fun data => (joinWords joinBe (words data)).map UInt32.toInt32
  parseI32Le client frame :=
    (client.counted frame).map fun data =>
      (joinWords (fun low high => joinBe high low) (words data)).map UInt32.toInt32
  parseF32Be client frame := (client.counted frame).map fun data => joinWords joinBe (words data)
  parseF32Le client frame :=
    (client.counted frame).map fun data => joinWords (fun low high => joinBe high low) (words data)

theorem parseOk_eq_error {client : ReferenceClient} {frame : Bytes} {error : RmodbusError}
    (unanswered : client.answer frame = .error error) :
    library.parseOk client frame = .error error :=
  map_eq_error.mpr unanswered

/-- A parser that transforms the counted data starts with the acknowledgement check. -/
theorem guarded_counted {α : Type} (read : Bytes → α) :
    library.Guarded fun (client : ReferenceClient) frame => (client.counted frame).map read := by
  intro client frame error rejected
  have unanswered : client.answer frame = .error error := map_eq_error.mp rejected
  exact ⟨error, map_eq_error.mpr (map_eq_error.mpr unanswered)⟩

theorem library_parsersCheck : library.ParsersCheck where
  boolU8 := guarded_counted bits
  u16 := guarded_counted words
  i16 := guarded_counted _
  u32Be := guarded_counted _
  u32Le := guarded_counted _
  i32Be := guarded_counted _
  i32Le := guarded_counted _
  f32Be := guarded_counted _
  f32Le := guarded_counted _

end ReferenceClient
end Ferredge
