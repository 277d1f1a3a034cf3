import Ferredge.Lines
import Ferredge.Utf8

/-!
# Lines of lossy text

A character of one byte is decoded alone wherever it stands, in ill-formed text as well.  Bytes may
thus be cut into lines before or after they are decoded.
-/

namespace Utf8

/-- The character is a single byte. -/
structure IsAscii (char : Char) (byte : UInt8) : Prop where
  small : byte < 128
  encoded : String.utf8EncodeChar char = [byte]

theorem isAscii_lineFeed : IsAscii '\n' 10 := ⟨by decide, by decide⟩

theorem isAscii_carriageReturn : IsAscii '\r' 13 := ⟨by decide, by decide⟩

theorem firstChar_eq_some {bytes : List UInt8} {char : Char} :
    firstChar bytes = some char ↔ String.utf8EncodeChar char <+: bytes := by
  constructor
  · intro decoded
    obtain ⟨rest, split⟩ := ByteArray.exists_of_utf8DecodeChar?_eq_some decoded
    refine ⟨rest.data.toList, ?_⟩
    have bytes' := congrArg (fun array : ByteArray => array.data.toList) split
    simpa using bytes'.symm
  · rintro ⟨rest, rfl⟩
    exact firstChar_append char rest

/-- Only the first byte of a character is below 128. -/
theorem large_of_mem_tail {char : Char} {byte : UInt8}
    (later : byte ∈ (String.utf8EncodeChar char).tail) : 128 ≤ byte := by
  have large (number : Nat) : 128 ≤ UInt8.ofNat (number % 64 + 128) := by
    rw [UInt8.le_iff_toNat_le, UInt8.toNat_ofNat']
    change 128 ≤ _
    omega
  simp only [String.utf8EncodeChar] at later
  split_ifs at later
  all_goals simp only [List.tail_cons, List.mem_cons, List.not_mem_nil, or_false] at later
  · exact later ▸ large _
  · rcases later with rfl | rfl <;> exact large _
  · rcases later with rfl | rfl | rfl <;> exact large _

variable {char : Char} {byte : UInt8} {front rest : List UInt8}

/-- A byte of its own is no part of a longer character. -/
theorem prefix_of_prefix_append (ascii : IsAscii char byte) {other : Char}
    (nonempty : front ≠ []) (begins : String.utf8EncodeChar other <+: front ++ byte :: rest) :
    String.utf8EncodeChar other <+: front := by
  rcases List.prefix_or_prefix_of_prefix begins (List.prefix_append front _) with
    within | ⟨more, beyond⟩
  · exact within
  · rw [← beyond, List.prefix_append_right_inj] at begins
    cases more with
    | nil => rw [← beyond, List.append_nil]
    | cons next more =>
        obtain ⟨rfl, -⟩ := List.cons_prefix_cons.mp begins
        obtain ⟨first, front, rfl⟩ := List.exists_cons_of_ne_nil nonempty
        have later : next ∈ (String.utf8EncodeChar other).tail := by simp [← beyond]
        have large : 128 ≤ next := large_of_mem_tail later
        exact absurd ascii.small (UInt8.not_lt.mpr large)

theorem firstChar_append_cons (ascii : IsAscii char byte) (nonempty : front ≠ []) :
    firstChar (front ++ byte :: rest) = firstChar front := by
  refine Option.ext fun other => ?_
  rw [firstChar_eq_some, firstChar_eq_some]
  exact ⟨prefix_of_prefix_append ascii nonempty,
    fun begins => begins.trans (List.prefix_append _ _)⟩

theorem not_continues (ascii : IsAscii char byte) (first : UInt8) :
    continues first byte = false := by
  have small := ascii.small
  rw [UInt8.lt_iff_toNat_lt] at small
  have bound : (128 : UInt8).toNat = 128 := rfl
  simp only [continues, UInt8.le_iff_toNat_le]
  split_ifs <;> simp <;> omega

/-- As many bytes are replaced as without what follows. -/
theorem invalidLength_append_cons (ascii : IsAscii char byte) (nonempty : front ≠ []) :
    invalidLength (front ++ byte :: rest) = invalidLength front ∧
      invalidLength front ≤ front.length := by
  match front, nonempty with
  | [first], _ =>
      cases rest <;> simp [invalidLength, not_continues ascii]
  | [first, second], _ =>
      have small : ¬ 128 ≤ byte := UInt8.not_le.mpr ascii.small
      simp only [List.cons_append, List.nil_append, invalidLength, small, false_and, and_false,
        if_false, List.length_cons]
      split <;> simp
  | first :: second :: third :: front, _ =>
      simp only [List.cons_append, invalidLength, true_and, List.length_cons]
      split_ifs <;> omega

theorem decodeLossy_ascii (ascii : IsAscii char byte) :
    decodeLossy 0 (byte :: rest) = char :: decodeLossy 0 rest := by
  have first := firstChar_append char rest
  have size : (String.utf8EncodeChar char).length = char.utf8Size :=
    String.length_utf8EncodeChar char
  rw [ascii.encoded] at first size
  rw [decodeLossy, show firstChar (byte :: rest) = some char from first]
  simp only [← size]
  rfl

theorem decodeLossy_append_cons (ascii : IsAscii char byte) {skipped : Nat}
    (within : skipped ≤ front.length) :
    decodeLossy skipped (front ++ byte :: rest) =
      decodeLossy skipped front ++ char :: decodeLossy 0 rest := by
  induction front generalizing skipped with
  | nil =>
      obtain rfl := Nat.le_zero.mp within
      exact decodeLossy_ascii ascii
  | cons first front ih =>
      cases skipped with
      | succ skipped => exact ih (Nat.le_of_succ_le_succ within)
      | zero =>
          have nonempty : first :: front ≠ [] := List.cons_ne_nil first front
          have same : firstChar (first :: front ++ byte :: rest) = firstChar (first :: front) :=
            firstChar_append_cons ascii nonempty
          have replaced : invalidLength (first :: front ++ byte :: rest) =
                invalidLength (first :: front) ∧
              invalidLength (first :: front) ≤ (first :: front).length :=
            invalidLength_append_cons ascii nonempty
          obtain ⟨length, bound⟩ := replaced
          rw [List.cons_append] at same length ⊢
          rw [decodeLossy, decodeLossy, same, length]
          cases decoded : firstChar (first :: front) with
          | none =>
              have fits : invalidLength (first :: front) - 1 ≤ front.length := by
                rw [List.length_cons] at bound
                omega
              simp only [ih fits, List.cons_append]
          | some other =>
              have fits : other.utf8Size - 1 ≤ front.length := by
                have short := (firstChar_eq_some.mp decoded).length_le
                rw [String.length_utf8EncodeChar, List.length_cons] at short
                omega
              simp only [ih fits, List.cons_append]

theorem not_mem_decodeLossy (ascii : IsAscii char byte) (replaced : char ≠ '\uFFFD')
    (absent : byte ∉ front) (skipped : Nat) : char ∉ decodeLossy skipped front := by
  induction front generalizing skipped with
  | nil => simp [decodeLossy]
  | cons first front ih =>
      rw [List.mem_cons, not_or] at absent
      cases skipped with
      | succ skipped => exact ih absent.2 skipped
      | zero =>
          rw [decodeLossy]
          cases decoded : firstChar (first :: front) with
          | none => exact List.not_mem_cons_of_ne_of_not_mem replaced (ih absent.2 _)
          | some other =>
              refine List.not_mem_cons_of_ne_of_not_mem ?_ (ih absent.2 _)
              rintro rfl
              have begins := firstChar_eq_some.mp decoded
              rw [ascii.encoded, List.cons_prefix_cons] at begins
              exact absent.1 begins.1

theorem keepsApart (ascii : IsAscii char byte) (replaced : char ≠ '\uFFFD') :
    Lines.KeepsApart (decodeLossy 0) byte char where
  append _ _ := decodeLossy_append_cons ascii (Nat.zero_le _)
  absent _ absent := not_mem_decodeLossy ascii replaced absent 0

theorem decodeLossy_eq_nil (bytes : List UInt8) : decodeLossy 0 bytes = [] ↔ bytes = [] := by
  cases bytes with
  | nil => exact iff_of_true rfl rfl
  | cons byte bytes =>
      refine iff_of_false ?_ (List.cons_ne_nil byte bytes)
      rw [decodeLossy]
      split <;> exact List.cons_ne_nil _ _

/-- The lines of a text are the texts of the lines. -/
theorem lines_decodeLossy (bytes : List UInt8) :
    Lines.lines '\n' '\r' (decodeLossy 0 bytes) = (Lines.lines 10 13 bytes).map (decodeLossy 0) :=
  Lines.lines_decode (by decide) (by decide) (keepsApart isAscii_lineFeed (by decide))
    (keepsApart isAscii_carriageReturn (by decide)) decodeLossy_eq_nil bytes

end Utf8
