import Ferredge.ShortWrites
import Ferredge.Core.Meta

/-!
# Writing whole buffers

Sockets and serial ports accept short writes.  The helpers that every driver sends its frames with
repeat the write until the buffer is through.
-/

namespace Ferredge

open ShortWrites

/-- Error returned by abstract async network operations. -/
inductive NetError where
  | closed
  | timedOut
  | unreachable
  | unsupported
  | runtimeUnavailable
  | other (message : String)
  deriving DecidableEq

/-- Error returned by abstract async serial operations. -/
inductive SerialError where
  | closed
  | timedOut
  | unsupported
  | runtimeUnavailable
  | other (message : String)
  deriving DecidableEq

variable {σ : Type*}

/-- Writes the full buffer to one async socket, retrying short writes until completion. -/
def writeAllSocket (write : σ → Bytes → Except NetError Nat × σ) (socket : σ) (buf : Bytes) :
    Except NetError Unit × σ :=
  writeAll write .closed buf 0 socket

/-- Writes the full buffer to one async serial port, retrying short writes until completion. -/
def writeAllSerialPort (write : σ → Bytes → Except SerialError Nat × σ) (port : σ) (buf : Bytes) :
    Except SerialError Unit × σ :=
  writeAll write .closed buf 0 port

/-- In every run the whole buffer is written, piece by piece and in order, or a proper prefix of it
and then nothing: the error is that of the last write, or `closed` if that took no bytes.  There are
at most as many writes as there are bytes. -/
theorem writeAll_socket_serialPort (buf : Bytes) :
    (∀ (write : σ → Bytes → Except NetError Nat × σ) (socket after : σ)
        (calls : List (Call UInt8 NetError)) (outcome : Except NetError Unit),
      writeAllSocket (recording write) (socket, []) buf = (outcome, after, calls) →
      (∀ call ∈ calls, call.Bounded) →
        writeAllSocket write socket buf = (outcome, after) ∧
          Delivered .closed buf calls outcome ∧ calls.length ≤ buf.length) ∧
    (∀ (write : σ → Bytes → Except SerialError Nat × σ) (port after : σ)
        (calls : List (Call UInt8 SerialError)) (outcome : Except SerialError Unit),
      writeAllSerialPort (recording write) (port, []) buf = (outcome, after, calls) →
      (∀ call ∈ calls, call.Bounded) →
        writeAllSerialPort write port buf = (outcome, after) ∧
          Delivered .closed buf calls outcome ∧ calls.length ≤ buf.length) :=
  ⟨fun _ _ _ _ _ ran bounded => writeAll_delivered ran bounded,
    fun _ _ _ _ _ ran bounded => writeAll_delivered ran bounded⟩

/-- A writer that takes the planned number of bytes at each write, and then all it is offered. -/
def partialWrite {ε : Type} : List Nat → Bytes → Except ε Nat × List Nat
  | [], offered => (.ok offered.length, [])
  | count :: plan, offered => (.ok (min count offered.length), plan)

theorem bounded_partialWrite {ε : Type} (plan : List Nat) (offered : Bytes) :
    Call.Bounded ⟨offered, (partialWrite plan offered : Except ε Nat × _).1⟩ := by
  intro count returned
  cases plan with
  | nil => exact Nat.le_of_eq (Except.ok.inj returned).symm
  | cons planned plan => exact Except.ok.inj returned ▸ Nat.min_le_right planned offered.length

/-- The writes that send eight bytes when the first two are short. -/
def partialCalls : List (Call UInt8 NetError) :=
  [⟨[97, 98, 99, 100, 101, 102, 103, 104], .ok 2⟩, ⟨[99, 100, 101, 102, 103, 104], .ok 3⟩,
    ⟨[102, 103, 104], .ok 3⟩]

theorem partialCalls_delivered :
    Delivered NetError.closed [97, 98, 99, 100, 101, 102, 103, 104] partialCalls (.ok ()) := by
  have ran : writeAllSocket (recording partialWrite) ([2, 3, 8], [])
      [97, 98, 99, 100, 101, 102, 103, 104] = (.ok (), [], partialCalls) := by
    simp [writeAllSocket, writeAll, recording, partialWrite, partialCalls]
  have bounded : ∀ call ∈ partialCalls, call.Bounded := by
    have recorded : ∀ call ∈ (writeAllSocket (recording partialWrite) ([2, 3, 8], [])
        [97, 98, 99, 100, 101, 102, 103, 104]).2.2, call.Bounded :=
      recorded_bounded bounded_partialWrite 0 ([2, 3, 8], [])
        fun _ member => absurd member List.not_mem_nil
    rwa [ran] at recorded
  exact ((writeAll_socket_serialPort _).1 partialWrite [2, 3, 8] [] partialCalls (.ok ()) ran
    bounded).2.1

end Ferredge
