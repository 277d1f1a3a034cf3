import Ferredge.Cells
import Ferredge.Utf8
import Ferredge.Modbus.Plan
import Ferredge.Modbus.RoundTrip

/-!
# The registers of a unit

A unit keeps coils and registers.  A write puts the contents its seed stands for into them, and a
read brings them back.  What a codec writes it reads as the same value, unless the value is padded,
zero bytes are cut off it, or its registers are exchanged.
-/

namespace Ferredge

open Cells Fallible
open ReferenceClient (wordBytes words)

/-- How the frame library fills up bytes to whole registers. -/
structure RegisterPadding where
  pad : Bytes → Bytes
  length_pad : ∀ bytes, (pad bytes).length = (bytes.length + 1) / 2 * 2
  pad_of_even : ∀ bytes, bytes.length % 2 = 0 → pad bytes = bytes

/-- The coils and registers of a unit.  A coil is set unless its cell is zero. -/
structure RegisterMemory where
  cells : ModbusRegisterKind → Nat → UInt16

namespace ModbusParserSeed

/-- The address space of a request. -/
def registerKind : ModbusParserSeed → ModbusRegisterKind
  | readCoils .. | writeSingleCoil .. | writeMultipleCoils .. => .coil
  | readDiscretes .. => .discreteInput
  | readInputs .. => .inputRegister
  | readHoldings .. | writeSingleHolding .. | writeMultipleHoldings .. => .holdingRegister
  | writeMultipleHoldingsBytes .. | writeString .. => .holdingRegister

/-- The request is a read. -/
def isRead : ModbusParserSeed → Bool
  | readCoils .. | readDiscretes .. | readHoldings .. | readInputs .. => true
  | _ => false

/-- What a write puts into the coils or registers from its address on. -/
def written (padding : RegisterPadding) : ModbusParserSeed → List UInt16
  | writeSingleCoil _ value => [if value then 1 else 0]
  | writeSingleHolding _ value => [value]
  | writeMultipleCoils _ values => values.map fun value => if value = 0 then 0 else 1
  | writeMultipleHoldings _ values => values
  | writeMultipleHoldingsBytes _ values => words (padding.pad values)
  | writeString _ value => words (padding.pad (Utf8.encode value))
  | _ => []

end ModbusParserSeed

namespace RegisterMemory

/-- The memory after a request was served. -/
def perform (padding : RegisterPadding) (memory : RegisterMemory) (seed : ModbusParserSeed) :
    RegisterMemory where
  cells kind :=
    if kind = seed.registerKind then
      overwrite (memory.cells kind) seed.address.toNat (seed.written padding)
    else memory.cells kind

@[simp]
theorem cells_perform (padding : RegisterPadding) (memory : RegisterMemory)
    (seed : ModbusParserSeed) (kind : ModbusRegisterKind) :
    (memory.perform padding seed).cells kind =
      if kind = seed.registerKind then
        overwrite (memory.cells kind) seed.address.toNat (seed.written padding)
      else memory.cells kind :=
  rfl

/-- The contents of consecutive coils or registers. -/
def contents (memory : RegisterMemory) (kind : ModbusRegisterKind) (address : UInt16)
    (count : Nat) : List UInt16 :=
  segment (memory.cells kind) address.toNat count

end RegisterMemory

namespace Modbus

/-! ## Bytes and words -/

theorem length_words : ∀ bytes : Bytes, (words bytes).length = bytes.length / 2
  | [] => rfl
  | [_] => by simp [words]
  | high :: low :: rest => by
      rw [words, List.length_cons, length_words rest]
      simp only [List.length_cons]
      omega

theorem length_words_pad (padding : RegisterPadding) (bytes : Bytes) :
    (words (padding.pad bytes)).length = (bytes.length + 1) / 2 := by
  rw [length_words, padding.length_pad, Nat.mul_div_cancel _ Nat.two_pos]

/-- Bytes that do not end in zero are not cut. -/
theorem trimTrailingNuls_of_last {bytes : Bytes} (ends : bytes.getLast? ≠ some 0) :
    trimTrailingNuls bytes = bytes := by
  have trimmed : bytes.reverse.dropWhile (fun byte => byte == 0) = bytes.reverse := by
    cases backwards : bytes.reverse with
    | nil => rfl
    | cons last rest =>
        have last_eq : bytes.getLast? = some last := by
          rw [List.getLast?_eq_head?_reverse, backwards]
          rfl
        have nonzero : (last == 0) = false := by
          refine beq_eq_false_iff_ne.mpr fun zero => ends ?_
          rw [last_eq, zero]
        rw [List.dropWhile_cons, nonzero]
        rfl
  rw [trimTrailingNuls, trimmed, List.reverse_reverse]

/-! ## Requests and the coils and registers they are about -/

/-- A write puts as many contents as it names coils or registers, and a read puts none. -/
theorem length_written (padding : RegisterPadding) (seed : ModbusParserSeed) :
    (seed.written padding).length = if seed.isRead then 0 else seed.units := by
  cases seed with
  | writeMultipleCoils address values => exact List.length_map _
  | writeMultipleHoldingsBytes address values => exact length_words_pad padding values
  | writeString address value => exact length_words_pad padding (Utf8.encode value)
  | _ => rfl

/-- A request leaves what it does not touch. -/
theorem perform_of_untouched {padding : RegisterPadding} {memory : RegisterMemory}
    {seed : ModbusParserSeed} {kind : ModbusRegisterKind} {place : Nat}
    (spared : seed.isRead = true ∨ kind ≠ seed.registerKind ∨ ¬Touches seed place) :
    (memory.perform padding seed).cells kind place = memory.cells kind place := by
  rw [RegisterMemory.cells_perform]
  split
  · rename_i same
    apply overwrite_of_outside
    rw [length_written, Outside]
    rcases spared with read | other | untouched
    · rw [if_pos read]
      omega
    · exact absurd same other
    · unfold Touches at untouched
      split <;> omega
  · rfl

/-- Serving a request again changes nothing. -/
theorem perform_perform (padding : RegisterPadding) (memory : RegisterMemory)
    (seed : ModbusParserSeed) :
    (memory.perform padding seed).perform padding seed = memory.perform padding seed := by
  refine congrArg RegisterMemory.mk (funext fun kind => ?_)
  by_cases same : kind = seed.registerKind
  · simp [same, overwrite_overwrite]
  · simp [same]

/-- A write that is served is found at its address. -/
theorem contents_perform {padding : RegisterPadding} (memory : RegisterMemory)
    {seed : ModbusParserSeed} {count : Nat} (count_eq : (seed.written padding).length = count) :
    (memory.perform padding seed).contents seed.registerKind seed.address count =
      seed.written padding := by
  subst count_eq
  simp [RegisterMemory.contents, segment_overwrite]

/-- The seed of a read names the span of its resource. -/
theorem readSeed_eq_ok {attributes : ModbusResourceAttributes} {quantity : UInt16}
    {seed : ModbusParserSeed} (checked : readSeed attributes quantity = .ok seed) :
    seed.isRead = true ∧ seed.registerKind = attributes.registerKind ∧
      seed.address = attributes.address ∧ seed.units = quantity.toNat := by
  unfold readSeed at checked
  split at checked <;> rename_i kind <;>
  · obtain ⟨_, -, rfl⟩ := map_eq_ok.mp checked
    exact ⟨rfl, kind.symm, rfl, rfl⟩

/-- The seed of a write names the address space of its resource. -/
theorem writeSeed_eq_ok {resource : String} {attributes : ModbusResourceAttributes}
    {value : ModbusValue} {seed : ModbusParserSeed}
    (written : writeSeed resource attributes value = .ok seed) :
    seed.isRead = false ∧ seed.registerKind = attributes.registerKind := by
  obtain ⟨address, registerKind, codec, quantity⟩ := attributes
  cases registerKind with
  | coil =>
      cases codec with
      | bool | bits =>
          obtain ⟨_, -, rfl⟩ := map_eq_ok.mp written
          exact ⟨rfl, rfl⟩
      | _ => cases written
  | holdingRegister =>
      cases codec with
      | bool | bits => cases written
      | _ =>
          obtain ⟨_, -, rfl⟩ := map_eq_ok.mp written
          exact ⟨rfl, rfl⟩
  | discreteInput | inputRegister => cases written

/-! ## Values in registers -/

/-- The value is read as it was written: raw bytes fill whole registers, a text is what is left of
its padded bytes without the zero bytes at their end, and the registers of a little-endian number
are the same. -/
def KeepsValue (padding : RegisterPadding) : ModbusValueCodec → ModbusValue → Prop
  | .bytes, .bytes bytes => bytes.length % 2 = 0
  | .utf8String, .utf8String text =>
      trimTrailingNuls (padding.pad (Utf8.encode text)) = Utf8.encode text
  | .u32Le, .u32 patterns | .f32Le, .f32 patterns => ∀ pattern ∈ patterns, HalvesEqual pattern
  | .i32Le, .i32 values => ∀ value ∈ values, HalvesEqual value.toUInt32
  | _, _ => True

/-- A text that fills whole registers and does not end in a zero byte is read as it was written. -/
theorem keepsValue_utf8String (padding : RegisterPadding) {text : String}
    (whole : (Utf8.encode text).length % 2 = 0) (ends : (Utf8.encode text).getLast? ≠ some 0) :
    KeepsValue padding .utf8String (.utf8String text) := by
  rw [KeepsValue, padding.pad_of_even _ whole, trimTrailingNuls_of_last ends]

/-- A frame brings the contents of coils or registers to the client that asked for them. -/
def Carries (lib : Rmodbus) (registers : lib.Client → Bytes → Except RmodbusError Bytes)
    (proto : ModbusProto) (parser : lib.Client) (frame : Bytes) (contents : List UInt16) :
    ModbusRegisterKind → Prop
  | .coil | .discreteInput =>
      lib.parseBoolU8 parser frame =
        .ok (contents.map fun state => if state = 0 then 0 else 1)
  | .holdingRegister | .inputRegister =>
      registers parser frame = .ok (wireBytes contents) ∧
        responseDataSlice proto frame = .ok (wireBytes contents)

section

variable {lib : Rmodbus} {registers : lib.Client → Bytes → Except RmodbusError Bytes}
  {attributes : ModbusResourceAttributes} {payload : PayloadValue} {value : ModbusValue}
  {resource : String} {seed : ModbusParserSeed} {proto : ModbusProto} {parser : lib.Client}
  {frame : Bytes} {quantity : UInt16} {padding : RegisterPadding}

end

end Modbus
end Ferredge
