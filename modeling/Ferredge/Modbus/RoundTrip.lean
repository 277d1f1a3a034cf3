import Ferredge.ByteOrder
import Ferredge.Modbus.Codec
import Ferredge.Modbus.Convert

/-!
# Values written and read back

The write side of the adapter makes up the registers of a value itself, and the read side leaves it
to the frame library to take them apart.  A value comes back where the two agree on the order of its
bytes and on its range.
-/

namespace Ferredge
namespace Modbus

open Fallible
open ReferenceClient (wordBytes words)

/-! ## Register contents as bytes -/

/-- The bytes of registers on the wire, each register most significant byte first. -/
def wireBytes (registers : List UInt16) : Bytes :=
  registers.flatMap wordBytes

theorem toNat_fromBeBytes (high low : UInt8) :
    (fromBeBytes high low).toNat = high.toNat * 256 + low.toNat := by
  have shifted : high.toNat <<< 8 % 2 ^ 16 = high.toNat <<< 8 := by
    have bound := high.toNat_lt
    rw [Nat.shiftLeft_eq]
    omega
  simp only [fromBeBytes, UInt16.toNat_or, UInt16.toNat_shiftLeft, UInt8.toNat_toUInt16]
  change high.toNat <<< 8 % 2 ^ 16 ||| low.toNat = _
  rw [shifted, ← Nat.shiftLeft_add_eq_or_of_lt low.toNat_lt, Nat.shiftLeft_eq]

theorem wordBytes_fromBeBytes (high low : UInt8) :
    wordBytes (fromBeBytes high low) = [high, low] := by
  have highBound := high.toNat_lt
  have lowBound := low.toNat_lt
  have first : (fromBeBytes high low >>> 8).toUInt8 = high := by
    refine UInt8.toNat_inj.mp ?_
    rw [UInt16.toNat_toUInt8, UInt16.toNat_shiftRight, toNat_fromBeBytes]
    change (high.toNat * 256 + low.toNat) >>> 8 % 256 = high.toNat
    rw [Nat.shiftRight_eq_div_pow]
    omega
  have second : (fromBeBytes high low).toUInt8 = low := by
    refine UInt8.toNat_inj.mp ?_
    rw [UInt16.toNat_toUInt8, toNat_fromBeBytes]
    omega
  rw [wordBytes, first, second]

theorem shiftRight_toUInt8 (pattern : UInt32) :
    (pattern >>> 24).toUInt8 = ByteOrder.byteAt pattern 3 ∧
      (pattern >>> 16).toUInt8 = ByteOrder.byteAt pattern 2 ∧
      (pattern >>> 8).toUInt8 = ByteOrder.byteAt pattern 1 ∧
      pattern.toUInt8 = ByteOrder.byteAt pattern 0 := by
  refine ⟨?_, ?_, ?_, ?_⟩ <;>
    refine UInt8.toNat_inj.mp ?_ <;>
    simp [ByteOrder.toNat_byteAt, Nat.shiftRight_eq_div_pow]

/-- The registers of a big-endian pattern carry its bytes most significant first. -/
theorem wireBytes_wordsBe (pattern : UInt32) :
    wireBytes (wordsBe pattern) = ByteOrder.mostFirst.bytes pattern := by
  obtain ⟨third, second, first, zeroth⟩ := shiftRight_toUInt8 pattern
  simp only [wireBytes, wordsBe, toBeBytes, List.flatMap_cons, List.flatMap_nil,
    wordBytes_fromBeBytes, third, second, first, zeroth]
  rfl

/-- The registers of a little-endian pattern carry the bytes of its upper half before those of its
lower half, and each half least significant byte first. -/
theorem wireBytes_wordsLe (pattern : UInt32) :
    wireBytes (wordsLe pattern) =
      [ByteOrder.byteAt pattern 2, ByteOrder.byteAt pattern 3, ByteOrder.byteAt pattern 0,
        ByteOrder.byteAt pattern 1] := by
  obtain ⟨third, second, first, zeroth⟩ := shiftRight_toUInt8 pattern
  simp only [wireBytes, wordsLe, toLeBytes, List.flatMap_cons, List.flatMap_nil,
    wordBytes_fromBeBytes, third, second, first, zeroth]
  rfl

/-! ## 32-bit values -/

/-- The kinds of 32-bit values. -/
inductive PatternKind where
  | u32
  | i32
  | f32
  deriving DecidableEq

/-- The codec of a kind and a byte order. -/
def PatternKind.codec : PatternKind → ByteOrder → ModbusValueCodec
  | u32, .mostFirst => .u32Be
  | u32, .leastFirst => .u32Le
  | i32, .mostFirst => .i32Be
  | i32, .leastFirst => .i32Le
  | f32, .mostFirst => .f32Be
  | f32, .leastFirst => .f32Le

/-- The values of a kind with the given bit patterns. -/
def PatternKind.value : PatternKind → List UInt32 → ModbusValue
  | u32, patterns => .u32 patterns
  | i32, patterns => .i32 (patterns.map UInt32.toInt32)
  | f32, patterns => .f32 patterns

/-- The registers of a pattern under the codecs of a byte order. -/
def splitWords : ByteOrder → UInt32 → List UInt16
  | .mostFirst => wordsBe
  | .leastFirst => wordsLe

theorem wordsFromPayload_value (kind : PatternKind) (order : ByteOrder)
    (patterns : List UInt32) :
    wordsFromPayload (kind.codec order) (kind.value patterns) =
      .ok (patterns.flatMap (splitWords order)) := by
  cases kind with
  | u32 | f32 => cases order <;> rfl
  | i32 =>
      have unsigned : (patterns.map UInt32.toInt32).flatMap (splitWords order ∘ Int32.toUInt32) =
          patterns.flatMap (splitWords order) := by
        rw [List.flatMap_map]
        simp
      cases order <;> exact congrArg Except.ok unsigned

/-- The frame library takes the registers of a response for patterns in the codec's byte order. -/
structure ReadsPatterns (lib : Rmodbus)
    (registers : lib.Client → Bytes → Except RmodbusError Bytes) : Prop where
  u32Be : ∀ client frame, lib.parseU32Be client frame =
    (registers client frame).map ByteOrder.mostFirst.patterns
  u32Le : ∀ client frame, lib.parseU32Le client frame =
    (registers client frame).map ByteOrder.leastFirst.patterns
  i32Be : ∀ client frame, lib.parseI32Be client frame =
    (registers client frame).map fun data =>
      (ByteOrder.mostFirst.patterns data).map UInt32.toInt32
  i32Le : ∀ client frame, lib.parseI32Le client frame =
    (registers client frame).map fun data =>
      (ByteOrder.leastFirst.patterns data).map UInt32.toInt32
  f32Be : ∀ client frame, lib.parseF32Be client frame =
    (registers client frame).map ByteOrder.mostFirst.patterns
  f32Le : ∀ client frame, lib.parseF32Le client frame =
    (registers client frame).map ByteOrder.leastFirst.patterns

/-- A list of values is written, its bytes are on the wire in the codec's order, and a response with
the registers that were written is decoded to the list. -/
structure RoundTrips (lib : Rmodbus) (registers : lib.Client → Bytes → Except RmodbusError Bytes)
    (kind : PatternKind) (order : ByteOrder) (patterns : List UInt32) : Prop where
  written : ∃ written, wordsFromPayload (kind.codec order) (kind.value patterns) = .ok written ∧
    wireBytes written = patterns.flatMap order.bytes
  readBack : ∀ written, wordsFromPayload (kind.codec order) (kind.value patterns) = .ok written →
    ∀ proto unitId seed parser frame quantity, makeParser lib proto unitId seed = .ok parser →
      registers parser frame = .ok (wireBytes written) →
      decodeModbusValue lib proto unitId seed (decoderForCodec (kind.codec order) quantity) frame =
        .ok (kind.value patterns)

variable {lib : Rmodbus} {registers : lib.Client → Bytes → Except RmodbusError Bytes}

theorem decodeWith_patterns (reads : ReadsPatterns lib registers) (kind : PatternKind)
    (order : ByteOrder) (proto : ModbusProto) (quantity : UInt16) {parser : lib.Client}
    {frame data : Bytes} (present : registers parser frame = .ok data) :
    decodeWith lib parser proto frame (decoderForCodec (kind.codec order) quantity) =
      .ok (kind.value (order.patterns data)) := by
  cases kind <;> cases order <;>
    simp [decodeWith, decoderForCodec, PatternKind.codec, PatternKind.value, parseValue,
      reads.u32Be, reads.u32Le, reads.i32Be, reads.i32Le, reads.f32Be, reads.f32Le, present,
      Except.map]

/-- The upper and the lower register of the pattern are the same. -/
def HalvesEqual (pattern : UInt32) : Prop :=
  pattern.toNat / 2 ^ 16 = pattern.toNat % 2 ^ 16

theorem digits_eq_iff {high low high' low' : Nat} (bound : low < 256) (bound' : low' < 256) :
    high * 256 + low = high' * 256 + low' ↔ high = high' ∧ low = low' := by
  omega

theorem wireBytes_splitWords_eq_iff (order : ByteOrder) (pattern : UInt32) :
    wireBytes (splitWords order pattern) = order.bytes pattern ↔
      order = .mostFirst ∨ HalvesEqual pattern := by
  cases order with
  | mostFirst => exact iff_of_true (wireBytes_wordsBe pattern) (.inl rfl)
  | leastFirst =>
      have bound := pattern.toNat_lt
      have halves : ByteOrder.byteAt pattern 2 = ByteOrder.byteAt pattern 0 ∧
          ByteOrder.byteAt pattern 3 = ByteOrder.byteAt pattern 1 ↔ HalvesEqual pattern := by
        have upper : pattern.toNat / 2 ^ 16 =
            pattern.toNat / 256 ^ 3 % 256 * 256 + pattern.toNat / 256 ^ 2 % 256 := by omega
        have lower : pattern.toNat % 2 ^ 16 =
            pattern.toNat / 256 ^ 1 % 256 * 256 + pattern.toNat / 256 ^ 0 % 256 := by omega
        rw [HalvesEqual, upper, lower, digits_eq_iff (Nat.mod_lt _ (Nat.succ_pos 255))
          (Nat.mod_lt _ (Nat.succ_pos 255)), and_comm, ← UInt8.toNat_inj, ← UInt8.toNat_inj]
        simp only [ByteOrder.toNat_byteAt]
      change wireBytes (wordsLe pattern) = _ ↔ _
      rw [wireBytes_wordsLe, ← halves]
      simp only [ByteOrder.bytes, List.cons.injEq, reduceCtorEq, false_or]
      constructor
      · rintro ⟨second, third, -⟩
        exact ⟨second, third⟩
      · rintro ⟨second, third⟩
        exact ⟨second, third, second.symm, third.symm, trivial⟩

theorem length_wireBytes_splitWords (order : ByteOrder) (pattern : UInt32) :
    (wireBytes (splitWords order pattern)).length = (order.bytes pattern).length := by
  cases order <;> rfl

theorem wireBytes_flatMap (split : UInt32 → List UInt16) (patterns : List UInt32) :
    wireBytes (patterns.flatMap split) =
      patterns.flatMap fun pattern => wireBytes (split pattern) :=
  List.flatMap_assoc

/-- A list of 32-bit values comes back, with its bytes on the wire in the codec's order, if the
codec is a big-endian one or both registers of each value are the same, and only then. -/
theorem roundTrips_iff (reads : ReadsPatterns lib registers) (kind : PatternKind)
    (order : ByteOrder) (patterns : List UInt32) :
    RoundTrips lib registers kind order patterns ↔
      order = .mostFirst ∨ ∀ pattern ∈ patterns, HalvesEqual pattern := by
  have onWire : wireBytes (patterns.flatMap (splitWords order)) = patterns.flatMap order.bytes ↔
      order = .mostFirst ∨ ∀ pattern ∈ patterns, HalvesEqual pattern := by
    rw [wireBytes_flatMap,
      ByteOrder.flatMap_eq_flatMap_iff (length_wireBytes_splitWords order)]
    simp only [wireBytes_splitWords_eq_iff]
    cases order <;> simp
  rw [← onWire]
  constructor
  · rintro ⟨⟨written, accepted, sent⟩, -⟩
    rw [wordsFromPayload_value] at accepted
    obtain rfl := Except.ok.inj accepted
    exact sent
  · intro sent
    refine ⟨⟨_, wordsFromPayload_value kind order patterns, sent⟩, ?_⟩
    intro written accepted proto unitId seed parser frame quantity made present
    rw [wordsFromPayload_value] at accepted
    obtain rfl := Except.ok.inj accepted
    rw [sent] at present
    rw [decodeModbusValue, made]
    change decodeWith lib parser proto frame _ = _
    rw [decodeWith_patterns reads kind order proto quantity present,
      ByteOrder.patterns_flatMap_bytes]

/-- The reference client with parsers of 32-bit values that read bytes in the codec's order. -/
def patternLibrary : Rmodbus :=
  { ReferenceClient.library with
    parseU32Be := fun (client : ReferenceClient) frame =>
      (client.counted frame).map ByteOrder.mostFirst.patterns
    parseU32Le := fun (client : ReferenceClient) frame =>
      (client.counted frame).map ByteOrder.leastFirst.patterns
    parseI32Be := fun (client : ReferenceClient) frame =>
      (client.counted frame).map fun data =>
        (ByteOrder.mostFirst.patterns data).map UInt32.toInt32
    parseI32Le := fun (client : ReferenceClient) frame =>
      (client.counted frame).map fun data =>
        (ByteOrder.leastFirst.patterns data).map UInt32.toInt32
    parseF32Be := fun (client : ReferenceClient) frame =>
      (client.counted frame).map ByteOrder.mostFirst.patterns
    parseF32Le := fun (client : ReferenceClient) frame =>
      (client.counted frame).map ByteOrder.leastFirst.patterns }

theorem patternLibrary_reads : ReadsPatterns patternLibrary ReferenceClient.counted :=
  ⟨fun _ _ => rfl, fun _ _ => rfl, fun _ _ => rfl, fun _ _ => rfl, fun _ _ => rfl,
    fun _ _ => rfl⟩

theorem bigEndianPattern_roundTrips :
    RoundTrips patternLibrary ReferenceClient.counted .u32 .mostFirst [0x12345678] :=
  (roundTrips_iff patternLibrary_reads .u32 .mostFirst [0x12345678]).mpr (.inl rfl)

/-- The little-endian value 1 is written as the registers 0 and 256, whose bytes on the wire are
0, 0, 1 and 0. -/
theorem littleEndianOne_differs :
    ReadsPatterns patternLibrary ReferenceClient.counted ∧
      ¬RoundTrips patternLibrary ReferenceClient.counted .u32 .leastFirst [1] := by
  refine ⟨patternLibrary_reads, ?_⟩
  rintro ⟨⟨written, accepted, sent⟩, -⟩
  cases accepted
  exact absurd sent (by decide +kernel)

/-! ## 16-bit values -/

/-- The codecs of one register. -/
inductive RegisterKind16 where
  | unsigned
  | signed
  deriving DecidableEq

namespace RegisterKind16

def codec : RegisterKind16 → ModbusValueCodec
  | unsigned => .u16
  | signed => .i16

/-- The integers of the type. -/
def Fits : RegisterKind16 → Int → Prop
  | unsigned, value => 0 ≤ value ∧ value < 2 ^ 16
  | signed, value => -2 ^ 15 ≤ value ∧ value < 2 ^ 15

instance (kind : RegisterKind16) (value : Int) : Decidable (kind.Fits value) := by
  cases kind <;> exact inferInstanceAs (Decidable (_ ∧ _))

/-- The value of one register that holds the integer. -/
def value : RegisterKind16 → Int → ModbusValue
  | unsigned, value => .u16 [UInt16.ofInt value]
  | signed, value => .i16 [Int16.ofInt value]

/-- The payload that a register with the integer is read as. -/
def rendered : RegisterKind16 → Int → PayloadValue
  | unsigned, value => .u64 (UInt64.ofInt value)
  | signed, value => .i64 (Int64.ofInt value)

end RegisterKind16

/-- The integer that a payload stands for: a scalar, or a list of one. -/
def payloadInteger : PayloadValue → Option Int
  | .i64 value | .list [.i64 value] => some value.toInt
  | .u64 value | .list [.u64 value] => some value.toNat
  | _ => none

/-- The frame library takes the registers of a response for words. -/
structure ReadsWords (lib : Rmodbus)
    (registers : lib.Client → Bytes → Except RmodbusError Bytes) : Prop where
  u16 : ∀ client frame, lib.parseU16 client frame = (registers client frame).map words
  i16 : ∀ client frame, lib.parseI16 client frame =
    (registers client frame).map fun data => (words data).map UInt16.toInt16

/-- An integer that fits is written as its two's-complement word and read back as the same integer,
and one that does not fit is rejected. -/
structure RegisterRoundTrips (lib : Rmodbus)
    (registers : lib.Client → Bytes → Except RmodbusError Bytes) (kind : RegisterKind16)
    (attributes : ModbusResourceAttributes) (payload : PayloadValue) (value : Int) : Prop where
  accepted : kind.Fits value → ∀ resource proto options,
    buildWriteRequest lib resource attributes payload proto options =
      buildRequest lib resource true proto options
        (.writeSingleHolding attributes.address (UInt16.ofInt value)) .ack
  readBack : kind.Fits value →
    ∀ proto unitId seed parser frame quantity, makeParser lib proto unitId seed = .ok parser →
      registers parser frame = .ok (wordBytes (UInt16.ofInt value)) →
      (decodeModbusValue lib proto unitId seed (decoderForCodec attributes.codec quantity)
        frame).map payloadValueFromModbusValue = .ok (kind.rendered value)
  rejected : ¬kind.Fits value → ∀ resource proto options,
    ∃ error, buildWriteRequest lib resource attributes payload proto options = .error error

theorem toBitVec_ofInt (value : Int) : (UInt16.ofInt value).toBitVec = BitVec.ofInt 16 value := by
  refine BitVec.eq_of_toNat_eq ?_
  simp only [UInt16.ofInt, UInt16.toBitVec_ofNat', BitVec.toNat_ofNat, BitVec.toNat_ofInt]
  omega

theorem toInt16_ofInt (value : Int) : (UInt16.ofInt value).toInt16 = Int16.ofInt value :=
  Int16.toBitVec.inj (by simp [toBitVec_ofInt])

theorem toUInt16_ofInt (value : Int) : (Int16.ofInt value).toUInt16 = UInt16.ofInt value :=
  UInt16.toBitVec_inj.mp (by simp [toBitVec_ofInt])

theorem words_wordBytes (word : UInt16) : words (wordBytes word) = [word] := by
  have bound := word.toNat_lt
  refine congrArg (fun word => [word]) (UInt16.toNat_inj.mp ?_)
  change (fromBeBytes _ _).toNat = _
  rw [toNat_fromBeBytes, UInt16.toNat_toUInt8, UInt16.toNat_toUInt8, UInt16.toNat_shiftRight]
  change word.toNat >>> 8 % 256 * 256 + word.toNat % 256 = word.toNat
  rw [Nat.shiftRight_eq_div_pow]
  omega

/-- A scalar and a list of one are checked alike. -/
theorem decodeNumericList_of_integer {α : Type} {payload : PayloadValue} {value : Int}
    (stands : payloadInteger payload = some value) (scalarError : String)
    (convert : Int → Except ModbusCommandConversionError α) :
    decodeNumericList payload scalarError convert = (convert value).map fun value => [value] := by
  unfold payloadInteger at stands
  split at stands
  · cases stands
    rfl
  · cases stands
    rw [decodeNumericList, List.mapM_cons, List.mapM_nil]
    rfl
  · cases stands
    rfl
  · cases stands
    rw [decodeNumericList, List.mapM_cons, List.mapM_nil]
    rfl
  · cases stands

variable {attributes : ModbusResourceAttributes} {kind : RegisterKind16} {payload : PayloadValue}
  {value : Int}

/-- An integer is taken for the value of one register if and only if it is one of the type. -/
theorem modbusValueFromPayload_integer (codec : attributes.codec = kind.codec)
    (stands : payloadInteger payload = some value) :
    ∃ message, modbusValueFromPayload attributes payload =
      if kind.Fits value then .ok (kind.value value) else invalidPayload message := by
  rw [modbusValueFromPayload, codec]
  cases kind with
  | unsigned =>
      refine ⟨"u16 payload out of range", ?_⟩
      change (decodePayloadU16List payload).map _ = _
      rw [decodePayloadU16List, decodeNumericList_of_integer stands, inRange]
      by_cases fits : 0 ≤ value ∧ value < 2 ^ 16
      · rw [if_pos fits, if_pos (show RegisterKind16.unsigned.Fits value from fits)]
        rfl
      · rw [if_neg fits, if_neg (show ¬RegisterKind16.unsigned.Fits value from fits)]
        rfl
  | signed =>
      refine ⟨"i16 payload out of range", ?_⟩
      change (decodePayloadI16List payload).map _ = _
      rw [decodePayloadI16List, decodeNumericList_of_integer stands, inRange]
      by_cases fits : -2 ^ 15 ≤ value ∧ value < 2 ^ 15
      · rw [if_pos fits, if_pos (show RegisterKind16.signed.Fits value from fits)]
        rfl
      · rw [if_neg fits, if_neg (show ¬RegisterKind16.signed.Fits value from fits)]
        rfl

/-- The values that the wire word of the codec is refused for. -/
def NegativeSigned (kind : RegisterKind16) (value : Int) : Prop :=
  kind = .signed ∧ -2 ^ 15 ≤ value ∧ value < 0

theorem decodeU16_of_fits (fits : kind.Fits value) (allowed : ¬NegativeSigned kind value) :
    decodeU16 (kind.value value) = .ok (UInt16.ofInt value) := by
  cases kind with
  | unsigned => rfl
  | signed =>
      obtain ⟨low, high⟩ := fits
      have nonnegative : 0 ≤ value := by
        by_contra negative
        exact allowed ⟨rfl, low, by omega⟩
      change (if 0 ≤ (Int16.ofInt value).toInt then _ else _) = _
      rw [Int16.toInt_ofInt_of_le low high, if_pos nonnegative, toUInt16_ofInt]

theorem decodeU16_of_negative (fits : kind.Fits value) (negative : NegativeSigned kind value) :
    decodeU16 (kind.value value) = invalidPayload "i16 payload must fit into unsigned u16" := by
  obtain ⟨rfl, low, below⟩ := negative
  change (if 0 ≤ (Int16.ofInt value).toInt then _ else _) = _
  rw [Int16.toInt_ofInt_of_le low fits.2, if_neg (by omega)]

/-- The arguments of a write to a holding register are those of its one word. -/
theorem writeSeed_single (resource : String) (holding : attributes.registerKind = .holdingRegister)
    (codec : attributes.codec = kind.codec) (value : ModbusValue) :
    writeSeed resource attributes value =
      (decodeU16 value).map fun word => .writeSingleHolding attributes.address word := by
  rw [writeSeed, holding]
  change holdingWriteSeed resource attributes value = _
  rw [holdingWriteSeed, codec]
  cases kind <;> rfl

/-- A request that is not built fails with a text of the frame library. -/
theorem buildRequest_error {lib : Rmodbus} {resource : String} {isWrite : Bool}
    {proto : ModbusProto} {options : ModbusClientOptions} {seed : ModbusParserSeed}
    {decoder : ModbusResponseDecoder} {error : ModbusCommandConversionError}
    (failed : buildRequest lib resource isWrite proto options seed decoder = .error error) :
    ∃ cause, error = mapRmodbusBuildError cause := by
  rw [buildRequest] at failed
  obtain generated | ⟨⟨client, binaryFrame⟩, -, encoded⟩ := bind_eq_error.mp failed
  · obtain ⟨cause, -, rfl⟩ := mapError_eq_error.mp generated
    exact ⟨cause, rfl⟩
  · obtain unframed | ⟨frame, -, returned⟩ := bind_eq_error.mp encoded
    · obtain ⟨cause, -, rfl⟩ := mapError_eq_error.mp unframed
      exact ⟨cause, rfl⟩
    · cases returned

theorem mapRmodbusBuildError_ne (cause : RmodbusError) :
    mapRmodbusBuildError cause ≠ .invalidPayload "i16 payload must fit into unsigned u16" := by
  cases cause <;> simp [mapRmodbusBuildError]

theorem buildWriteRequest_of_fits {lib : Rmodbus}
    (holding : attributes.registerKind = .holdingRegister) (codec : attributes.codec = kind.codec)
    (stands : payloadInteger payload = some value) (fits : kind.Fits value) (resource : String)
    (proto : ModbusProto) (options : ModbusClientOptions) :
    buildWriteRequest lib resource attributes payload proto options =
      decodeU16 (kind.value value) >>= fun word =>
        buildRequest lib resource true proto options
          (.writeSingleHolding attributes.address word) .ack := by
  obtain ⟨message, converted⟩ := modbusValueFromPayload_integer codec stands
  rw [buildWriteRequest, converted, if_pos fits]
  change (writeSeed resource attributes (kind.value value) >>= _) = _
  rw [writeSeed_single resource holding codec]
  cases decodeU16 (kind.value value) <;> rfl

/-- What a register with the word of an integer is read as. -/
theorem decoded_register {lib : Rmodbus}
    {registers : lib.Client → Bytes → Except RmodbusError Bytes} (reads : ReadsWords lib registers)
    (codec : attributes.codec = kind.codec) (fits : kind.Fits value) {proto : ModbusProto}
    {unitId : UInt8} {seed : ModbusParserSeed} {parser : lib.Client} {frame : Bytes}
    (quantity : UInt16) (made : makeParser lib proto unitId seed = .ok parser)
    (present : registers parser frame = .ok (wordBytes (UInt16.ofInt value))) :
    (decodeModbusValue lib proto unitId seed (decoderForCodec attributes.codec quantity)
      frame).map payloadValueFromModbusValue = .ok (kind.rendered value) := by
  rw [decodeModbusValue, made, codec]
  cases kind with
  | unsigned =>
      obtain ⟨low, high⟩ := fits
      change (parseValue (lib.parseU16 parser frame) .u16).map _ = _
      rw [reads.u16, present]
      change Except.ok (payloadValueFromModbusValue (.u16 (words (wordBytes _)))) = _
      rw [words_wordBytes]
      refine congrArg (fun value => Except.ok (PayloadValue.u64 value)) (UInt64.toNat_inj.mp ?_)
      simp [UInt16.ofInt, UInt64.ofInt]
      omega
  | signed =>
      obtain ⟨low, high⟩ := fits
      change (parseValue (lib.parseI16 parser frame) .i16).map _ = _
      rw [reads.i16, present]
      change Except.ok
        (payloadValueFromModbusValue (.i16 ((words (wordBytes _)).map UInt16.toInt16))) = _
      rw [words_wordBytes]
      refine congrArg (fun value => Except.ok (PayloadValue.i64 value)) ?_
      have largest : Int16.maxValue.toInt = 2 ^ 15 - 1 := by decide
      rw [toInt16_ofInt, Int16.toInt64_ofInt low (by omega)]

/-- Every value of the type comes back except the negative ones of the signed type, and what is
outside the type is refused. -/
theorem registerRoundTrips_iff {lib : Rmodbus}
    {registers : lib.Client → Bytes → Except RmodbusError Bytes} (reads : ReadsWords lib registers)
    (holding : attributes.registerKind = .holdingRegister) (codec : attributes.codec = kind.codec)
    (stands : payloadInteger payload = some value) :
    RegisterRoundTrips lib registers kind attributes payload value ↔
      ¬NegativeSigned kind value := by
  constructor
  · rintro trips negative
    have fits : kind.Fits value := by
      obtain ⟨rfl, low, below⟩ := negative
      exact ⟨low, by omega⟩
    have refused := trips.accepted fits "" .tcpUdp ⟨0, none⟩
    rw [buildWriteRequest_of_fits holding codec stands fits,
      decodeU16_of_negative fits negative] at refused
    obtain ⟨cause, text⟩ := buildRequest_error refused.symm
    exact mapRmodbusBuildError_ne cause text.symm
  · intro allowed
    refine ⟨?_, ?_, ?_⟩
    · intro fits resource proto options
      rw [buildWriteRequest_of_fits holding codec stands fits, decodeU16_of_fits fits allowed]
      rfl
    · intro fits proto unitId seed parser frame quantity made present
      exact decoded_register reads codec fits quantity made present
    · intro outside resource proto options
      obtain ⟨message, refused⟩ := modbusValueFromPayload_integer codec stands
      refine ⟨.invalidPayload message, ?_⟩
      rw [buildWriteRequest, refused, if_neg outside]
      rfl

theorem referenceLibrary_readsWords :
    ReadsWords ReferenceClient.library ReferenceClient.counted :=
  ⟨fun _ _ => rfl, fun _ _ => rfl⟩

/-- A holding register of a signed value. -/
def signedHolding : ModbusResourceAttributes where
  address := 0
  registerKind := .holdingRegister
  codec := .i16
  quantity := none

theorem hundred_roundTrips :
    RegisterRoundTrips ReferenceClient.library ReferenceClient.counted .signed signedHolding
      (.list [.u64 100]) 100 :=
  (registerRoundTrips_iff referenceLibrary_readsWords rfl rfl rfl).mpr
    fun negative => absurd negative.2.2 (by decide)

/-- A write of -1 is refused. -/
theorem minusOne_refused :
    ReadsWords ReferenceClient.library ReferenceClient.counted ∧
      signedHolding.registerKind = .holdingRegister ∧
      signedHolding.codec = RegisterKind16.signed.codec ∧
      payloadInteger (.i64 (-1)) = some (-1) ∧
      ¬RegisterRoundTrips ReferenceClient.library ReferenceClient.counted .signed signedHolding
        (.i64 (-1)) (-1) := by
  refine ⟨referenceLibrary_readsWords, rfl, rfl, rfl, ?_⟩
  rintro ⟨accepted, -, -⟩
  have written := accepted (by decide) "" .tcpUdp ⟨1, none⟩
  exact absurd written (by decide +kernel)

end Modbus
end Ferredge
