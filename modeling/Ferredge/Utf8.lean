import Mathlib.Data.List.Basic

/-!
# UTF-8 text as bytes

The bytes of a text, the digits of a number among them, and the text that any bytes are rendered
as when ill-formed sequences are replaced.
-/

namespace Utf8

/-- The bytes of a text. -/
def encode (text : String) : List UInt8 := text.toUTF8.data.toList

theorem encode_append (left right : String) :
    encode (left ++ right) = encode left ++ encode right := by
  simp [encode]

theorem encode_ofList (chars : List Char) :
    encode (String.ofList chars) = chars.flatMap String.utf8EncodeChar := by
  simp [encode, List.utf8Encode]

theorem bounds_of_isDigit {char : Char} (digit : char.isDigit = true) :
    48 ≤ char.toNat ∧ char.toNat ≤ 57 := by
  simp only [Char.isDigit, Bool.and_eq_true, decide_eq_true_eq] at digit
  exact ⟨digit.1, digit.2⟩

theorem utf8EncodeChar_of_isDigit {char : Char} (digit : char.isDigit = true) :
    String.utf8EncodeChar char = [UInt8.ofNat char.toNat] := by
  obtain ⟨-, small⟩ := bounds_of_isDigit digit
  have ascii : char.val.toNat ≤ 127 := by
    have same : char.val.toNat = char.toNat := rfl
    omega
  exact if_pos ascii

/-- The bytes of a number are its digits. -/
theorem encode_toString (number : Nat) :
    encode (toString number) = (Nat.toDigits 10 number).map fun char => UInt8.ofNat char.toNat := by
  rw [Nat.toString_eq_ofList_toDigits, encode_ofList, List.map_eq_flatMap]
  refine List.flatMap_congr ?_
  intro char member
  exact utf8EncodeChar_of_isDigit (Nat.isDigit_of_mem_toDigits (by decide) (by decide) member)

/-! ## Exact decoding -/

/-- The text with these bytes, if there is one. -/
def decode? (bytes : List UInt8) : Option String := String.fromUTF8? ⟨bytes.toArray⟩

/-- The byte may be the second of a sequence with this first byte. -/
def continues (first second : UInt8) : Bool :=
  if first = 0xE0 then decide (0xA0 ≤ second ∧ second ≤ 0xBF)
  else if first = 0xED then decide (0x80 ≤ second ∧ second ≤ 0x9F)
  else if first = 0xF0 then decide (0x90 ≤ second ∧ second ≤ 0xBF)
  else if first = 0xF4 then decide (0x80 ≤ second ∧ second ≤ 0x8F)
  else decide (0xE1 ≤ first ∧ first ≤ 0xF3 ∧ 0x80 ≤ second ∧ second ≤ 0xBF)

/-- Number of bytes that are replaced together when no character starts here. -/
def invalidLength : List UInt8 → Nat
  | first :: second :: third :: _ =>
      if continues first second then
        if 0xF0 ≤ first ∧ 0x80 ≤ third ∧ third ≤ 0xBF then 3 else 2
      else 1
  | [first, second] => if continues first second then 2 else 1
  | _ => 1

/-- The character whose bytes come first. -/
def firstChar (bytes : List UInt8) : Option Char := bytes.toByteArray.utf8DecodeChar? 0

/-- Decodes after skipping some bytes, with a replacement character for ill-formed sequences. -/
def decodeLossy : Nat → List UInt8 → List Char
  | _, [] => []
  | skipped + 1, _ :: rest => decodeLossy skipped rest
  | 0, byte :: rest =>
      match firstChar (byte :: rest) with
      | some char => char :: decodeLossy (char.utf8Size - 1) rest
      | none => '\uFFFD' :: decodeLossy (invalidLength (byte :: rest) - 1) rest

/-- The text that any bytes are rendered as. -/
def fromUtf8Lossy (bytes : List UInt8) : String := String.ofList (decodeLossy 0 bytes)

theorem decodeLossy_append (skipped rest : List UInt8) :
    decodeLossy skipped.length (skipped ++ rest) = decodeLossy 0 rest := by
  induction skipped with
  | nil => rfl
  | cons byte skipped ih => exact ih

theorem firstChar_append (char : Char) (rest : List UInt8) :
    firstChar (String.utf8EncodeChar char ++ rest) = some char := by
  rw [firstChar, List.toByteArray_append, ByteArray.utf8DecodeChar?_utf8EncodeChar_append]

/-- Well-formed text is rendered as itself. -/
theorem decodeLossy_utf8EncodeChars (chars : List Char) :
    decodeLossy 0 (chars.flatMap String.utf8EncodeChar) = chars := by
  induction chars with
  | nil => rfl
  | cons char chars ih =>
      have known := firstChar_append char (chars.flatMap String.utf8EncodeChar)
      have size : (String.utf8EncodeChar char).length = char.utf8Size :=
        String.length_utf8EncodeChar char
      rw [List.flatMap_cons]
      cases bytes : String.utf8EncodeChar char with
      | nil => exact absurd bytes String.utf8EncodeChar_ne_nil
      | cons byte others =>
          rw [bytes] at known size
          rw [List.cons_append] at known ⊢
          rw [decodeLossy, known]
          have skipped : char.utf8Size - 1 = others.length := by
            rw [List.length_cons] at size
            omega
          simp only [skipped, decodeLossy_append, ih]

theorem fromUtf8Lossy_encode (text : String) : fromUtf8Lossy (encode text) = text := by
  have bytes : encode text = text.toList.flatMap String.utf8EncodeChar := by
    rw [← encode_ofList, String.ofList_toList]
  rw [fromUtf8Lossy, bytes, decodeLossy_utf8EncodeChars, String.ofList_toList]

end Utf8
