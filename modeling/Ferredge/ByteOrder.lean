import Mathlib.Algebra.Group.Nat.Defs
import Mathlib.Data.List.Basic

/-!
# Byte orders

A 32-bit pattern is written as its four bytes, the most or the least significant one first.  What is
written in one order is read back in the same order.
-/

/-- Which byte of a pattern comes first. -/
inductive ByteOrder where
  | mostFirst
  | leastFirst
  deriving DecidableEq

namespace ByteOrder

/-- The byte of a pattern at a place, counted from the least significant one. -/
def byteAt (pattern : UInt32) (place : Nat) : UInt8 :=
  UInt8.ofNat (pattern.toNat / 256 ^ place)

/-- The four bytes of a pattern. -/
def bytes : ByteOrder → UInt32 → List UInt8
  | mostFirst, pattern => [byteAt pattern 3, byteAt pattern 2, byteAt pattern 1, byteAt pattern 0]
  | leastFirst, pattern => [byteAt pattern 0, byteAt pattern 1, byteAt pattern 2, byteAt pattern 3]

/-- The pattern with the given bytes, the most significant one first. -/
def ofBytes (first second third fourth : UInt8) : UInt32 :=
  UInt32.ofNat
    (((first.toNat * 256 + second.toNat) * 256 + third.toNat) * 256 + fourth.toNat)

/-- The pattern that four bytes are read as. -/
def join : ByteOrder → UInt8 → UInt8 → UInt8 → UInt8 → UInt32
  | mostFirst, first, second, third, fourth => ofBytes first second third fourth
  | leastFirst, first, second, third, fourth => ofBytes fourth third second first

/-- The patterns in a byte string, four bytes each. -/
def patterns (order : ByteOrder) : List UInt8 → List UInt32
  | first :: second :: third :: fourth :: rest =>
      order.join first second third fourth :: patterns order rest
  | _ => []

theorem toNat_byteAt (pattern : UInt32) (place : Nat) :
    (byteAt pattern place).toNat = pattern.toNat / 256 ^ place % 256 :=
  UInt8.toNat_ofNat'

theorem ofBytes_byteAt (pattern : UInt32) :
    ofBytes (byteAt pattern 3) (byteAt pattern 2) (byteAt pattern 1) (byteAt pattern 0) =
      pattern := by
  have bound := pattern.toNat_lt
  refine UInt32.toNat_inj.mp ?_
  simp only [ofBytes, UInt32.toNat_ofNat', toNat_byteAt]
  omega

theorem patterns_bytes_append (order : ByteOrder) (pattern : UInt32) (rest : List UInt8) :
    order.patterns (order.bytes pattern ++ rest) = pattern :: order.patterns rest := by
  cases order <;>
    exact congrArg (· :: patterns _ rest) (ofBytes_byteAt pattern)

/-- What is written in an order is read back in it. -/
theorem patterns_flatMap_bytes (order : ByteOrder) (values : List UInt32) :
    order.patterns (values.flatMap order.bytes) = values := by
  induction values with
  | nil => rfl
  | cons value values ih => rw [List.flatMap_cons, patterns_bytes_append, ih]

/-- Two ways to write items with equally many bytes agree on a list when they do on its items. -/
theorem flatMap_eq_flatMap_iff {α β : Type*} {first second : α → List β}
    (width : ∀ item, (first item).length = (second item).length) (items : List α) :
    items.flatMap first = items.flatMap second ↔ ∀ item ∈ items, first item = second item := by
  induction items with
  | nil => exact iff_of_true rfl nofun
  | cons item items ih =>
      rw [List.flatMap_cons, List.flatMap_cons, List.forall_mem_cons, ← ih]
      constructor
      · intro same
        exact List.append_inj same (width item)
      · rintro ⟨head, tail⟩
        rw [head, tail]

end ByteOrder
