import Ferredge.Framing
import Ferredge.Modbus.Types
import Ferredge.Modbus.Client

/-!
# Response frames on a byte stream

When a response is complete on a stream, and where it ends.  A TCP frame carries its length, an
ASCII frame ends at its first line terminator, and RTU relies on the frame library's guess.
-/

namespace Ferredge

open Framing

/-- The frame library's operations on frames as they arrive. -/
structure RmodbusWire where
  /-- Length of a response judged by its first bytes. -/
  guessResponseFrameLen : Bytes → ModbusProto → Except RmodbusError UInt8
  /-- Binary frame of a hexadecimal one. -/
  parseAsciiFrame : Bytes → Except RmodbusError Bytes

namespace Modbus

def maxModbusTcpUdpFrameLen : Nat := 260

def maxModbusRtuFrameLen : Nat := 256

def maxModbusAsciiFrameLen : Nat := maxModbusRtuFrameLen * 2 + 3

def minGuessLen : ModbusProto → Nat
  | .tcpUdp => 6
  | .rtu => 5
  | .ascii => 7

def maxFrameLen : ModbusProto → Nat
  | .tcpUdp => maxModbusTcpUdpFrameLen
  | .rtu => maxModbusRtuFrameLen
  | .ascii => maxModbusAsciiFrameLen

/-- A big-endian 16-bit field. -/
def be16 (high low : UInt8) : Nat := high.toNat * 256 + low.toNat

/-- Length of a TCP frame, read from its header. -/
def tcpUdpFrameLen : Bytes → Option Nat
  | _ :: _ :: protocolHigh :: protocolLow :: lengthHigh :: lengthLow :: _ =>
      if be16 protocolHigh protocolLow ≠ 0 then none else some (be16 lengthHigh lengthLow + 6)
  | _ => none

/-- Position after the first line terminator. -/
def asciiFrameEnd : Bytes → Option Nat
  | first :: second :: rest =>
      if first = 13 ∧ second = 10 then some 2
      else (asciiFrameEnd (second :: rest)).map fun position => position + 1
  | _ => none

def asciiFrameComplete (frame : Bytes) : Bool :=
  frame.head? == some 58 &&
    (asciiFrameEnd frame).any fun frameEnd => decide (minGuessLen .ascii ≤ frameEnd)

/-- Whether a complete response frame has arrived. -/
def frameComplete (lib : RmodbusWire) (frame : Bytes) : ModbusProto → Bool
  | .tcpUdp => (tcpUdpFrameLen frame).any fun expectedLen => decide (expectedLen ≤ frame.length)
  | .ascii => asciiFrameComplete frame
  | .rtu =>
      decide (minGuessLen .rtu ≤ frame.length) &&
        match lib.guessResponseFrameLen frame .rtu with
        | .ok expectedLen => decide (expectedLen.toNat ≤ frame.length)
        | .error _ => false

/-- Cuts what has arrived down to its first frame. -/
def trimFrame (lib : RmodbusWire) (frame : Bytes) : ModbusProto → Bytes
  | .tcpUdp => match tcpUdpFrameLen frame with
      | some frameEnd => frame.take frameEnd
      | none => frame
  | .ascii => match asciiFrameEnd frame with
      | some frameEnd => frame.take frameEnd
      | none => frame
  | .rtu => match lib.guessResponseFrameLen frame .rtu with
      | .ok expectedLen => frame.take expectedLen.toNat
      | .error _ => frame

theorem tcpUdpFrameLen_append {received : Bytes} {expectedLen : Nat}
    (known : tcpUdpFrameLen received = some expectedLen) (more : Bytes) :
    tcpUdpFrameLen (received ++ more) = some expectedLen := by
  unfold tcpUdpFrameLen at known
  split at known
  · exact known
  · cases known

theorem six_le_of_tcpUdpFrameLen {received : Bytes} {expectedLen : Nat}
    (known : tcpUdpFrameLen received = some expectedLen) :
    6 ≤ expectedLen ∧ 6 ≤ received.length := by
  unfold tcpUdpFrameLen at known
  split at known
  · split at known
    · cases known
    · cases known
      simp only [List.length_cons]
      omega
  · cases known

/-- The header alone decides the length. -/
theorem tcpUdpFrameLen_take {received : Bytes} {expectedLen : Nat}
    (known : tcpUdpFrameLen received = some expectedLen) :
    tcpUdpFrameLen (received.take expectedLen) = some expectedLen := by
  obtain ⟨header, -⟩ := six_le_of_tcpUdpFrameLen known
  obtain ⟨payload, rfl⟩ := Nat.exists_eq_add_of_le' header
  unfold tcpUdpFrameLen at known
  split at known
  · simp only [List.take_succ_cons, tcpUdpFrameLen]
    exact known
  · cases known

theorem asciiFrameEnd_append {received : Bytes} {frameEnd : Nat}
    (known : asciiFrameEnd received = some frameEnd) (more : Bytes) :
    asciiFrameEnd (received ++ more) = some frameEnd := by
  induction received using asciiFrameEnd.induct generalizing frameEnd with
  | case1 first second rest terminator =>
      rw [asciiFrameEnd, if_pos terminator] at known
      rw [List.cons_append, List.cons_append, asciiFrameEnd, if_pos terminator, known]
  | case2 first second rest terminator ih =>
      rw [asciiFrameEnd, if_neg terminator, Option.map_eq_some_iff] at known
      obtain ⟨position, found, rfl⟩ := known
      rw [List.cons_append, List.cons_append, asciiFrameEnd, if_neg terminator]
      rw [← List.cons_append, ih found]
      rfl
  | case3 received short => simp [asciiFrameEnd] at known

theorem asciiFrameEnd_le_length {received : Bytes} {frameEnd : Nat}
    (known : asciiFrameEnd received = some frameEnd) : frameEnd ≤ received.length := by
  induction received using asciiFrameEnd.induct generalizing frameEnd with
  | case1 first second rest terminator =>
      rw [asciiFrameEnd, if_pos terminator] at known
      cases known
      simp
  | case2 first second rest terminator ih =>
      rw [asciiFrameEnd, if_neg terminator, Option.map_eq_some_iff] at known
      obtain ⟨position, found, rfl⟩ := known
      exact Nat.succ_le_succ (ih found)
  | case3 received short => simp [asciiFrameEnd] at known

theorem asciiFrameEnd_take {received : Bytes} {frameEnd : Nat}
    (known : asciiFrameEnd received = some frameEnd) :
    asciiFrameEnd (received.take frameEnd) = some frameEnd := by
  induction received using asciiFrameEnd.induct generalizing frameEnd with
  | case1 first second rest terminator =>
      rw [asciiFrameEnd, if_pos terminator] at known
      cases known
      simp [asciiFrameEnd, terminator]
  | case2 first second rest terminator ih =>
      rw [asciiFrameEnd, if_neg terminator, Option.map_eq_some_iff] at known
      obtain ⟨position, found, rfl⟩ := known
      have remaining := ih found
      cases position with
      | zero => cases remaining
      | succ position =>
          rw [List.take_succ_cons, List.take_succ_cons, asciiFrameEnd, if_neg terminator]
          rw [← List.take_succ_cons, remaining]
          rfl
  | case3 received short => simp [asciiFrameEnd] at known

theorem frameComplete_lasting (lib : RmodbusWire) {proto : ModbusProto}
    (framed : proto ≠ .rtu) : Lasting fun frame => frameComplete lib frame proto := by
  intro received more whole
  cases proto with
  | rtu => exact absurd rfl framed
  | tcpUdp =>
      obtain ⟨expectedLen, known, reached⟩ := (Option.any_eq_true _ _).mp whole
      simp only [decide_eq_true_eq] at reached
      simp only [frameComplete, tcpUdpFrameLen_append known, Option.any_some, decide_eq_true_eq,
        List.length_append]
      omega
  | ascii =>
      obtain ⟨start, ended⟩ := (Bool.and_eq_true _ _).mp whole
      obtain ⟨frameEnd, known, long⟩ := (Option.any_eq_true _ _).mp ended
      cases received with
      | nil => cases start
      | cons first rest =>
          have kept := asciiFrameEnd_append known more
          rw [List.cons_append] at kept
          simpa [frameComplete, asciiFrameComplete, kept] using And.intro start long

theorem frameComplete_nil (lib : RmodbusWire) (proto : ModbusProto) :
    frameComplete lib [] proto = false := by
  cases proto <;> rfl

/-- What arrives is cut down to its first frame. -/
theorem firstFrame_trimFrame (lib : RmodbusWire) {proto : ModbusProto} (framed : proto ≠ .rtu)
    {received : Bytes} (whole : frameComplete lib received proto = true) :
    FirstFrame (fun frame => frameComplete lib frame proto) received
      (trimFrame lib received proto) := by
  cases proto with
  | rtu => exact absurd rfl framed
  | tcpUdp =>
      obtain ⟨expectedLen, known, reached⟩ := (Option.any_eq_true _ _).mp whole
      simp only [decide_eq_true_eq] at reached
      simp only [trimFrame, known]
      refine ⟨List.take_prefix expectedLen received, ?_, ?_⟩
      · simp [frameComplete, tcpUdpFrameLen_take known, reached]
      · rintro candidate ⟨rest, rfl⟩ complete
        obtain ⟨other, found, within⟩ := (Option.any_eq_true _ _).mp complete
        simp only [decide_eq_true_eq] at within
        have same : other = expectedLen :=
          Option.some.inj ((tcpUdpFrameLen_append found rest).symm.trans known)
        rw [List.length_take]
        omega
  | ascii =>
      obtain ⟨start, ended⟩ := (Bool.and_eq_true _ _).mp whole
      obtain ⟨frameEnd, known, long⟩ := (Option.any_eq_true _ _).mp ended
      simp only [trimFrame, known]
      refine ⟨List.take_prefix frameEnd received, ?_, ?_⟩
      · have size : minGuessLen .ascii ≤ frameEnd := of_decide_eq_true long
        have lead : (received.take frameEnd).head? = received.head? := by
          rw [List.head?_take, if_neg (Nat.pos_iff_ne_zero.mp (Nat.le_trans (by decide) size))]
        simp only [frameComplete, asciiFrameComplete, asciiFrameEnd_take known, lead, start]
        simpa using size
      · rintro candidate ⟨rest, rfl⟩ complete
        obtain ⟨-, ended⟩ := (Bool.and_eq_true _ _).mp complete
        obtain ⟨other, found, -⟩ := (Option.any_eq_true _ _).mp ended
        have same : other = frameEnd :=
          Option.some.inj ((asciiFrameEnd_append found rest).symm.trans known)
        have inside : other ≤ candidate.length := asciiFrameEnd_le_length found
        rw [List.length_take]
        omega

end Modbus
end Ferredge
