import Ferredge.Modbus.Convert
import Ferredge.Modbus.Codec

/-!
# Payloads of routed values

A value that was read is routed as a payload, a single number as a scalar and any other count of
them as a list.  The codec of its kind parses the payload back.
-/

namespace Ferredge

open Fallible

namespace Modbus

/-- A machine integer type with its values among the integers. -/
structure IntegerType (α : Type) where
  low : Int
  high : Int
  wrap : Int → α
  toInt : α → Int
  bounds : ∀ value, low ≤ toInt value ∧ toInt value < high
  wrap_toInt : ∀ value, wrap (toInt value) = value
  toInt_wrap : ∀ integer, low ≤ integer → integer < high → toInt (wrap integer) = integer

namespace IntegerType

def u16 : IntegerType UInt16 where
  low := 0
  high := 2 ^ 16
  wrap := UInt16.ofInt
  toInt := fun value => value.toNat
  bounds := fun value => ⟨Int.natCast_nonneg _, by exact_mod_cast value.toNat_lt⟩
  wrap_toInt := fun value => by
    have bound := value.toNat_lt
    refine UInt16.toNat_inj.mp ?_
    simp [UInt16.ofInt]
    omega
  toInt_wrap := fun integer nonnegative below => by
    simp [UInt16.ofInt]
    omega

def i16 : IntegerType Int16 where
  low := -2 ^ 15
  high := 2 ^ 15
  wrap := Int16.ofInt
  toInt := Int16.toInt
  bounds := fun value => ⟨value.le_toInt, value.toInt_lt⟩
  wrap_toInt := fun value => by simp
  toInt_wrap := fun integer above below => Int16.toInt_ofInt_of_le above below

def u32 : IntegerType UInt32 where
  low := 0
  high := 2 ^ 32
  wrap := UInt32.ofInt
  toInt := fun value => value.toNat
  bounds := fun value => ⟨Int.natCast_nonneg _, by exact_mod_cast value.toNat_lt⟩
  wrap_toInt := fun value => by
    have bound := value.toNat_lt
    refine UInt32.toNat_inj.mp ?_
    simp [UInt32.ofInt]
    omega
  toInt_wrap := fun integer nonnegative below => by
    simp [UInt32.ofInt]
    omega

def i32 : IntegerType Int32 where
  low := -2 ^ 31
  high := 2 ^ 31
  wrap := Int32.ofInt
  toInt := Int32.toInt
  bounds := fun value => ⟨value.le_toInt, value.toInt_lt⟩
  wrap_toInt := fun value => by simp
  toInt_wrap := fun integer above below => Int32.toInt_ofInt_of_le above below

end IntegerType

/-- The integer of a scalar payload. -/
def scalarInteger : PayloadValue → Option Int
  | .i64 value => some value.toInt
  | .u64 value => some value.toNat
  | _ => none

/-- The integers of a payload: those of a list, or the one of a scalar. -/
def payloadIntegers : PayloadValue → Option (List Int)
  | .list values => values.mapM scalarInteger
  | value => (scalarInteger value).map fun integer => [integer]

section Integers

variable {α : Type} {integerType : IntegerType α} {scalarError message : String}

/-- The conversion of a scalar payload. -/
def convertScalar (scalarError : String) (convert : Int → Except ModbusCommandConversionError α)
    (payload : PayloadValue) : Except ModbusCommandConversionError α :=
  match scalarInteger payload with
  | some integer => convert integer
  | none => invalidPayload scalarError

/-- The range check of an integer type. -/
def IntegerType.check (integerType : IntegerType α) (message : String) :
    Int → Except ModbusCommandConversionError α :=
  inRange integerType.low integerType.high integerType.wrap message

theorem check_eq_ok {integer : Int} {value : α} :
    integerType.check message integer = .ok value ↔ integerType.toInt value = integer := by
  rw [IntegerType.check, inRange]
  constructor
  · intro checked
    split at checked
    · rename_i within
      obtain rfl := Except.ok.inj checked
      exact integerType.toInt_wrap integer within.1 within.2
    · cases checked
  · rintro rfl
    rw [if_pos (integerType.bounds value), integerType.wrap_toInt]

theorem convertScalar_eq_ok {payload : PayloadValue} {value : α} :
    convertScalar scalarError (integerType.check message) payload = .ok value ↔
      scalarInteger payload = some (integerType.toInt value) := by
  rw [convertScalar]
  cases scalarInteger payload with
  | none => simp [invalidPayload]
  | some integer => rw [check_eq_ok, Option.some_inj, eq_comm]

theorem mapM_convertScalar_eq_ok {payloads : List PayloadValue} {values : List α} :
    payloads.mapM (convertScalar scalarError (integerType.check message)) = .ok values ↔
      payloads.mapM scalarInteger = some (values.map integerType.toInt) := by
  induction payloads generalizing values with
  | nil => cases values <;> simp [pure, Except.pure]
  | cons payload payloads ih =>
      rw [List.mapM_cons, List.mapM_cons, bind_eq_ok]
      constructor
      · rintro ⟨value, converted, rest⟩
        obtain ⟨values', traversed, same⟩ := bind_eq_ok.mp rest
        obtain rfl := Except.ok.inj same
        rw [convertScalar_eq_ok.mp converted, ih.mp traversed]
        rfl
      · intro found
        obtain ⟨integer, first, rest⟩ := Option.bind_eq_some_iff.mp found
        obtain ⟨integers, others, same⟩ := Option.bind_eq_some_iff.mp rest
        cases values with
        | nil => cases same
        | cons value values =>
            obtain ⟨rfl, rfl⟩ := List.cons.inj (Option.some.inj same)
            exact ⟨value, convertScalar_eq_ok.mpr first,
              bind_eq_ok.mpr ⟨values, ih.mpr others, rfl⟩⟩

theorem decodeNumericList_eq (payload : PayloadValue)
    (convert : Int → Except ModbusCommandConversionError α) :
    decodeNumericList payload scalarError convert =
      match payload with
      | .list payloads => payloads.mapM (convertScalar scalarError convert)
      | payload => (convertScalar scalarError convert payload).map fun value => [value] := by
  have scalar : (fun payload : PayloadValue => match payload with
      | .i64 value => convert value.toInt
      | .u64 value => convert value.toNat
      | _ => invalidPayload scalarError) = convertScalar scalarError convert := by
    funext payload
    cases payload <;> rfl
  cases payload with
  | list payloads => exact congrArg (fun convert => payloads.mapM convert) scalar
  | _ => rfl

/-- A payload is accepted for an integer type exactly as the list of its integers. -/
theorem decodeNumericList_eq_ok {payload : PayloadValue} {values : List α} :
    decodeNumericList payload scalarError (integerType.check message) = .ok values ↔
      payloadIntegers payload = some (values.map integerType.toInt) := by
  rw [decodeNumericList_eq]
  have scalar :
      ((convertScalar scalarError (integerType.check message) payload).map fun value => [value]) =
          .ok values ↔
        ((scalarInteger payload).map fun integer => [integer]) =
          some (values.map integerType.toInt) := by
    rw [map_eq_ok, Option.map_eq_some_iff]
    constructor
    · rintro ⟨value, converted, rfl⟩
      exact ⟨_, convertScalar_eq_ok.mp converted, rfl⟩
    · rintro ⟨integer, found, same⟩
      cases values with
      | nil => cases same
      | cons value rest =>
          obtain ⟨rfl, none_left⟩ := List.cons.inj same
          obtain rfl := List.map_eq_nil_iff.mp none_left.symm
          exact ⟨value, convertScalar_eq_ok.mpr found, rfl⟩
  cases payload with
  | list payloads => exact mapM_convertScalar_eq_ok
  | _ => exact scalar

/-- The payload of a list of numbers holds their integers. -/
theorem payloadIntegers_oneOrList {render : α → PayloadValue}
    (rendered : ∀ value, scalarInteger (render value) = some (integerType.toInt value))
    (values : List α) :
    payloadIntegers (oneOrList values render) = some (values.map integerType.toInt) := by
  have listed (values : List α) :
      (values.map render).mapM scalarInteger = some (values.map integerType.toInt) := by
    induction values with
    | nil => rfl
    | cons value values ih =>
        rw [List.map_cons, List.mapM_cons, rendered, ih]
        rfl
  have scalar (value : α) : payloadIntegers (render value) = some [integerType.toInt value] := by
    have integer := rendered value
    cases payload : render value with
    | list payloads =>
        rw [payload] at integer
        cases integer
    | _ =>
        rw [payload] at integer
        exact congrArg (Option.map fun integer => [integer]) integer
  match values with
  | [] => exact listed []
  | [value] => exact scalar value
  | first :: second :: values => exact listed (first :: second :: values)

/-- A list of numbers is parsed back from its payload. -/
theorem parsed_integers {render : α → PayloadValue} {wrap : List α → ModbusValue}
    (rendered : ∀ value, scalarInteger (render value) = some (integerType.toInt value))
    (values : List α) :
    (decodeNumericList (oneOrList values render) scalarError (integerType.check message)).map wrap =
      .ok (wrap values) :=
  congrArg (Except.map wrap)
    (decodeNumericList_eq_ok.mpr (payloadIntegers_oneOrList rendered values))

/-- What is parsed are the integers of the payload, and all of them are in range. -/
theorem integers_of_parsed (integerType : IntegerType α) (wrap : List α → ModbusValue)
    {payload : PayloadValue} {value : ModbusValue}
    (accepted : (decodeNumericList payload scalarError (integerType.check message)).map wrap =
      .ok value) :
    ∃ values, wrap values = value ∧
      payloadIntegers payload = some (values.map integerType.toInt) ∧
      ∀ integer ∈ values.map integerType.toInt,
        integerType.low ≤ integer ∧ integer < integerType.high := by
  obtain ⟨values, decoded, same⟩ := map_eq_ok.mp accepted
  refine ⟨values, same, decodeNumericList_eq_ok.mp decoded, ?_⟩
  intro integer member
  obtain ⟨value, -, rfl⟩ := List.mem_map.mp member
  exact integerType.bounds value

end Integers

/-! ## Every kind -/

theorem decodePayloadBits_list (values : List Bool) :
    decodePayloadBits (.list (values.map .bool)) = .ok values := by
  rw [decodePayloadBits, mapM_eq_ok, List.forall₂_map_left_iff, List.forall₂_same]
  exact fun _ _ => rfl

/-- The codecs of a value, unless it consists of floating-point numbers. -/
inductive CodecOf : ModbusValue → ModbusValueCodec → Prop
  | bool (value : Bool) : CodecOf (.bool value) .bool
  | bits (values : List Bool) : CodecOf (.bits values) .bits
  | u16 (values : List UInt16) : CodecOf (.u16 values) .u16
  | i16 (values : List Int16) : CodecOf (.i16 values) .i16
  | u32Be (values : List UInt32) : CodecOf (.u32 values) .u32Be
  | u32Le (values : List UInt32) : CodecOf (.u32 values) .u32Le
  | i32Be (values : List Int32) : CodecOf (.i32 values) .i32Be
  | i32Le (values : List Int32) : CodecOf (.i32 values) .i32Le
  | bytes (bytes : Bytes) : CodecOf (.bytes bytes) .bytes
  | utf8String (value : String) : CodecOf (.utf8String value) .utf8String

/-- The integers from the first to before the second are those of the codec's type. -/
def codecRange : ModbusValueCodec → Option (Int × Int)
  | .u16 => some (0, 2 ^ 16)
  | .i16 => some (-2 ^ 15, 2 ^ 15)
  | .u32Be | .u32Le => some (0, 2 ^ 32)
  | .i32Be | .i32Le => some (-2 ^ 31, 2 ^ 31)
  | _ => none

/-- The integers of a value that is a list of them. -/
def valueIntegers : ModbusValue → Option (List Int)
  | .u16 values => some (values.map fun value => value.toNat)
  | .i16 values => some (values.map Int16.toInt)
  | .u32 values => some (values.map fun value => value.toNat)
  | .i32 values => some (values.map Int32.toInt)
  | _ => none

theorem rendered_u16 (value : UInt16) :
    scalarInteger (.u64 value.toUInt64) = some (IntegerType.u16.toInt value) := by
  rw [scalarInteger, UInt16.toNat_toUInt64]
  rfl

theorem rendered_i16 (value : Int16) :
    scalarInteger (.i64 value.toInt64) = some (IntegerType.i16.toInt value) := by
  rw [scalarInteger, Int16.toInt_toInt64]
  rfl

theorem rendered_u32 (value : UInt32) :
    scalarInteger (.u64 value.toUInt64) = some (IntegerType.u32.toInt value) := by
  rw [scalarInteger, UInt32.toNat_toUInt64]
  rfl

theorem rendered_i32 (value : Int32) :
    scalarInteger (.i64 value.toInt64) = some (IntegerType.i32.toInt value) := by
  rw [scalarInteger, Int32.toInt_toInt64]
  rfl

theorem parsed_of_codecOf {value : ModbusValue} {attributes : ModbusResourceAttributes}
    (kind : CodecOf value attributes.codec) :
    modbusValueFromPayload attributes (payloadValueFromModbusValue value) = .ok value := by
  obtain ⟨address, registerKind, codec, quantity⟩ := attributes
  cases kind with
  | bool value => rfl
  | bits values => exact congrArg (Except.map ModbusValue.bits) (decodePayloadBits_list values)
  | u16 values => exact parsed_integers rendered_u16 values
  | i16 values => exact parsed_integers rendered_i16 values
  | u32Be values | u32Le values => exact parsed_integers rendered_u32 values
  | i32Be values | i32Le values => exact parsed_integers rendered_i32 values
  | bytes bytes => rfl
  | utf8String value => rfl

theorem integers_of_accepted {payload : PayloadValue} {value : ModbusValue}
    {attributes : ModbusResourceAttributes} {low high : Int}
    (range : codecRange attributes.codec = some (low, high))
    (accepted : modbusValueFromPayload attributes payload = .ok value) :
    CodecOf value attributes.codec ∧ ∃ integers, payloadIntegers payload = some integers ∧
      valueIntegers value = some integers ∧
      ∀ integer ∈ integers, low ≤ integer ∧ integer < high := by
  obtain ⟨address, registerKind, codec, quantity⟩ := attributes
  cases codec with
  | u16 =>
      cases range
      obtain ⟨values, rfl, found, within⟩ := integers_of_parsed .u16 .u16 accepted
      exact ⟨.u16 values, _, found, rfl, within⟩
  | i16 =>
      cases range
      obtain ⟨values, rfl, found, within⟩ := integers_of_parsed .i16 .i16 accepted
      exact ⟨.i16 values, _, found, rfl, within⟩
  | u32Be =>
      cases range
      obtain ⟨values, rfl, found, within⟩ := integers_of_parsed .u32 .u32 accepted
      exact ⟨.u32Be values, _, found, rfl, within⟩
  | u32Le =>
      cases range
      obtain ⟨values, rfl, found, within⟩ := integers_of_parsed .u32 .u32 accepted
      exact ⟨.u32Le values, _, found, rfl, within⟩
  | i32Be =>
      cases range
      obtain ⟨values, rfl, found, within⟩ := integers_of_parsed .i32 .i32 accepted
      exact ⟨.i32Be values, _, found, rfl, within⟩
  | i32Le =>
      cases range
      obtain ⟨values, rfl, found, within⟩ := integers_of_parsed .i32 .i32 accepted
      exact ⟨.i32Le values, _, found, rfl, within⟩
  | bool | bits | f32Be | f32Le | bytes | utf8String => cases range

/-- Every value except floating-point numbers comes back from the payload that it is routed as, and
an integer codec accepts only integers of its type and keeps them in order. -/
theorem routed_payloads_parse :
    (∀ (value : ModbusValue) (attributes : ModbusResourceAttributes),
      CodecOf value attributes.codec →
        modbusValueFromPayload attributes (payloadValueFromModbusValue value) = .ok value) ∧
    (∀ (attributes : ModbusResourceAttributes) (payload : PayloadValue) (value : ModbusValue)
        (low high : Int), codecRange attributes.codec = some (low, high) →
      modbusValueFromPayload attributes payload = .ok value →
        CodecOf value attributes.codec ∧ ∃ integers, payloadIntegers payload = some integers ∧
          valueIntegers value = some integers ∧
          ∀ integer ∈ integers, low ≤ integer ∧ integer < high) :=
  ⟨fun _ _ kind => parsed_of_codecOf kind,
    fun _ _ _ _ _ range accepted => integers_of_accepted range accepted⟩

/-- The one register of a signed resource is routed as a scalar. -/
def signedRegister : ModbusResourceAttributes :=
  { address := 7, registerKind := .holdingRegister, codec := .i16, quantity := none }

theorem signedRegister_parses :
    modbusValueFromPayload signedRegister (payloadValueFromModbusValue (.i16 [-5])) =
        .ok (.i16 [-5]) ∧
      CodecOf (.i16 [-5]) signedRegister.codec :=
  ⟨routed_payloads_parse.1 (.i16 [-5]) signedRegister (.i16 [-5]),
    (routed_payloads_parse.2 signedRegister (.list [.i64 (-5)]) (.i16 [-5]) (-2 ^ 15) (2 ^ 15) rfl
      rfl).1⟩

end Modbus
end Ferredge
