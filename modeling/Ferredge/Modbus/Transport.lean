import Mathlib.Algebra.Group.Nat.Defs
import Ferredge.Modbus.Codec
import Ferredge.Modbus.Frame

/-!
# The Modbus stream transports

One exchange over a socket or a serial port: the request is written, the response is collected
read by read, and the connection is kept or closed.  A socket is the list of what its next
operations return, and `none` is an operation that has not returned yet.
-/

namespace Ferredge

open Framing

/-- What one read of a stream returns.  An error other than the end is its debug text. -/
inductive StreamRead where
  | bytes (chunk : Bytes)
  | closed
  | failed (error : String)
  deriving DecidableEq

/-- The kind of stream a response is read from. -/
inductive StreamSide where
  | socket
  | serial
  deriving DecidableEq

/-- An open socket or serial port. -/
structure StreamSocket where
  writes : List (Except String Unit)
  flushes : List (Except String Unit)
  reads : List StreamRead
  /-- What has been written. -/
  sent : Bytes

/-- Reconnect and retry policy for Modbus client transports. -/
structure ModbusReconnectConfig where
  enabled : Bool
  maxAttempts : UInt32
  retryWrites : Bool
  deriving DecidableEq

namespace StreamRead

/-- The read reports the end of the stream. -/
def ended : StreamRead → Bool
  | bytes chunk => chunk.isEmpty
  | closed => true
  | failed _ => false

def received : StreamRead → Bytes
  | bytes chunk => chunk
  | closed | failed _ => []

end StreamRead

namespace Modbus

def StreamSide.text : StreamSide → String
  | .socket => "socket"
  | .serial => "serial"

/-- The text of a failed read. -/
def readFailure (side : StreamSide) (reason : String) : String :=
  "failed to read Modbus " ++ StreamSide.text side ++ " response: " ++ reason

/-- Collects a response read by read, and keeps what has not been read. -/
def readLoop (lib : RmodbusWire) (side : StreamSide) (proto : ModbusProto) (frame : Bytes) :
    List StreamRead → Option (Except String Bytes × List StreamRead)
  | [] => none
  | .closed :: reads =>
      if frame.isEmpty then some (.error (readFailure side "Closed"), reads)
      else some (.ok (trimFrame lib frame proto), reads)
  | .failed error :: reads => some (.error (readFailure side error), reads)
  | .bytes chunk :: reads =>
      if chunk.isEmpty then
        if frame.isEmpty then some (.error (readFailure side "Closed"), reads)
        else some (.ok (trimFrame lib frame proto), reads)
      else if maxFrameLen proto < frame.length + chunk.length then
        some (.error (readFailure side
          ("frame exceeded " ++ toString (maxFrameLen proto) ++ " bytes")), reads)
      else if frameComplete lib (frame ++ chunk) proto then
        some (.ok (trimFrame lib (frame ++ chunk) proto), reads)
      else readLoop lib side proto (frame ++ chunk) reads

def readStreamResponse (lib : RmodbusWire) (side : StreamSide) (proto : ModbusProto) :
    List StreamRead → Option (Except String Bytes × List StreamRead) :=
  readLoop lib side proto []

def readStreamResponseSocket (lib : RmodbusWire) :
    ModbusProto → List StreamRead → Option (Except String Bytes × List StreamRead) :=
  readStreamResponse lib .socket

def readStreamResponseSerial (lib : RmodbusWire) :
    ModbusProto → List StreamRead → Option (Except String Bytes × List StreamRead) :=
  readStreamResponse lib .serial

/-- Writes and flushes a request.  A serial port does the same as a socket. -/
def writeStreamRequest (label : String) (frame : Bytes) (socket : StreamSocket) :
    Option (Except String Unit × StreamSocket) :=
  match socket.writes with
  | [] => none
  | .error error :: writes =>
      some (.error ("failed to write " ++ label ++ " request: " ++ error), { socket with writes })
  | .ok () :: writes =>
      match socket.flushes with
      | [] => none
      | .error error :: flushes =>
          some (.error ("failed to flush " ++ label ++ " request: " ++ error),
            { socket with writes, flushes, sent := socket.sent ++ frame })
      | .ok () :: flushes =>
          some (.ok (), { socket with writes, flushes, sent := socket.sent ++ frame })

/-- What sets one stream transport apart from another. -/
structure StreamWire where
  side : StreamSide
  label : String
  /-- Turns what was read into the response frame. -/
  decode : Bytes → Except String Bytes

/-- One exchange on an open socket. -/
def exchange (lib : RmodbusWire) (wire : StreamWire) (request : ModbusRequest)
    (socket : StreamSocket) : Option (Except String Bytes × StreamSocket) := do
  let (written, socket) ← writeStreamRequest wire.label request.frame socket
  match written with
  | .error error => some (.error error, socket)
  | .ok () =>
      let (raw, unread) ← readStreamResponse lib wire.side request.proto socket.reads
      some (raw >>= wire.decode, { socket with reads := unread })

/-- The result of an exchange, the session after it, and what later connections come to. -/
abbrev Exchanged :=
  Except String Bytes × Option StreamSocket × List (Except String StreamSocket)

/-- Keeps the socket of a successful exchange as the session if the endpoint is persistent. -/
def settle (persistent : Bool) (opens : List (Except String StreamSocket)) :
    Except String Bytes × StreamSocket → Exchanged
  | (.ok frame, socket) => (.ok frame, if persistent then some socket else none, opens)
  | (.error error, _) => (.error error, none, opens)

/-- The session of a persistent endpoint, or else a newly opened socket. -/
def takeSocket (persistent : Bool) (session : Option StreamSocket)
    (opens : List (Except String StreamSocket)) :
    Option (Except String StreamSocket × List (Except String StreamSocket)) :=
  -- A session left from a persistent configuration is closed, not reused.
  match if persistent then session else none, opens with
  | some socket, opens => some (.ok socket, opens)
  | none, [] => none
  | none, outcome :: opens => some (outcome, opens)

/-- Runs an exchange on the session, or on a socket opened for it. -/
def executeStream (lib : RmodbusWire) (wire : StreamWire) (persistent : Bool)
    (request : ModbusRequest) (session : Option StreamSocket)
    (opens : List (Except String StreamSocket)) :
    Option Exchanged := do
  let (outcome, opens) ← takeSocket persistent session opens
  match outcome with
  | .error error => some (.error error, none, opens)
  | .ok socket => (exchange lib wire request socket).map (settle persistent opens)

/-- What opening a TCP connection comes to. -/
inductive TcpOpen where
  | unreachable (error : String)
  | noReadTimeout (error : String)
  | noWriteTimeout (error : String)
  | opened (socket : StreamSocket)

def openSocket : TcpOpen → Except String StreamSocket
  | .unreachable error => .error ("failed to connect Modbus TCP socket: " ++ error)
  | .noReadTimeout error => .error ("failed to set Modbus TCP read timeout: " ++ error)
  | .noWriteTimeout error => .error ("failed to set Modbus TCP write timeout: " ++ error)
  | .opened socket => .ok socket

def openPort (label : String) (outcome : Except String StreamSocket) :
    Except String StreamSocket :=
  outcome.mapError fun error => "failed to open " ++ label ++ " serial port: " ++ error

def decodeAsciiWireFrame (lib : RmodbusWire) (frame : Bytes) : Except String Bytes :=
  (lib.parseAsciiFrame frame).mapError mapRmodbusError

def tcpWire : StreamWire := ⟨.socket, "Modbus TCP", .ok⟩

def rtuOverTcpWire : StreamWire := ⟨.socket, "Modbus RTU-over-TCP", .ok⟩

def rtuWire : StreamWire := ⟨.serial, "Modbus RTU", .ok⟩

def asciiWire (lib : RmodbusWire) : StreamWire :=
  ⟨.serial, "Modbus ASCII", decodeAsciiWireFrame lib⟩

/-- The wire a stream transport uses for an endpoint, unless it does not serve it. -/
def wireOf (lib : RmodbusWire) : StreamSide → ModbusEndpoint → Option StreamWire
  | .socket, .tcp .. => some tcpWire
  | .socket, .rtuOverTcp .. => some rtuOverTcpWire
  | .serial, .rtu .. => some rtuWire
  | .serial, .ascii .. => some (asciiWire lib)
  | _, _ => none

def foreignEndpoint : StreamSide → String
  | .socket => "device endpoint is not Modbus TCP"
  | .serial => "device endpoint is not Modbus serial"

/-- An exchange of a stream transport with an endpoint. -/
def executeTransport (lib : RmodbusWire) (side : StreamSide) (endpoint : ModbusEndpoint)
    (persistent : Bool) (request : ModbusRequest) (session : Option StreamSocket)
    (opens : List (Except String StreamSocket)) :
    Option Exchanged :=
  match wireOf lib side endpoint with
  | some wire => executeStream lib wire persistent request session opens
  | none => some (.error (foreignEndpoint side), session, opens)

def TcpTransport.execute (lib : RmodbusWire) := executeTransport lib .socket

def SerialTransport.execute (lib : RmodbusWire) := executeTransport lib .serial

def startsWith (text lead : String) : Bool := lead.toList.isPrefixOf text.toList

def isRetryableTransportError (error : String) : Bool :=
  startsWith error "failed to connect " || startsWith error "failed to bind " ||
    startsWith error "failed to open " || startsWith error "failed to send " ||
    startsWith error "failed to write " || startsWith error "failed to flush " ||
    startsWith error "failed to read "

def requestAttemptBudget (reconnect : ModbusReconnectConfig) (isWrite : Bool) : Nat :=
  if !reconnect.enabled || (isWrite && !reconnect.retryWrites) then 1
  else min (reconnect.maxAttempts.toNat + 1) (2 ^ 32 - 1)

section Reading

variable {lib : RmodbusWire} {side : StreamSide} {proto : ModbusProto} {frame : Bytes}

/-- Chunks that do not complete a frame are collected, up to the limit. -/
theorem readLoop_chunks (framed : proto ≠ .rtu) {chunks : List Bytes}
    (sent : ∀ chunk ∈ chunks, chunk ≠ [])
    (partly : frameComplete lib (frame ++ chunks.flatten) proto = false)
    (fits : (frame ++ chunks.flatten).length ≤ maxFrameLen proto) (reads : List StreamRead) :
    readLoop lib side proto frame (chunks.map StreamRead.bytes ++ reads) =
      readLoop lib side proto (frame ++ chunks.flatten) reads := by
  induction chunks generalizing frame with
  | nil => simp
  | cons chunk chunks ih =>
      have lasting := frameComplete_lasting lib framed
      rw [List.flatten_cons, ← List.append_assoc] at partly fits ⊢
      have collected : frameComplete lib (frame ++ chunk) proto = false :=
        lasting.of_append partly
      have nonempty : chunk.isEmpty = false := by
        simpa using sent chunk List.mem_cons_self
      have room : ¬ maxFrameLen proto < frame.length + chunk.length := by
        simp only [List.length_append] at fits
        omega
      rw [List.map_cons, List.cons_append, readLoop, nonempty, if_neg (by simp), if_neg room,
        collected, if_neg (by simp)]
      exact ih (fun later member => sent later (List.mem_cons_of_mem chunk member)) partly fits

/-- The end of a stream leaves what has been collected, or is an error if that is nothing. -/
theorem readLoop_ended {ending : StreamRead} (ended : ending.ended = true)
    (unread : List StreamRead) :
    readLoop lib side proto frame (ending :: unread) =
      if frame.isEmpty then some (.error (readFailure side "Closed"), unread)
      else some (.ok (trimFrame lib frame proto), unread) := by
  cases ending with
  | bytes chunk =>
      have nothing : chunk.isEmpty = true := ended
      rw [readLoop, nothing, if_pos rfl]
  | closed => rfl
  | failed error => cases ended

end Reading

theorem toList_readFailure (side : StreamSide) (reason : String) :
    (readFailure side reason).toList = "failed to read Modbus ".toList ++
      ((StreamSide.text side).toList ++ (" response: ".toList ++ reason.toList)) := by
  unfold readFailure
  rw [String.toList_append, String.toList_append, String.toList_append, List.append_assoc,
    List.append_assoc]

theorem retryable_readFailure (side : StreamSide) (reason : String) :
    isRetryableTransportError (readFailure side reason) = true := by
  have short : "failed to read ".toList <+: "failed to read Modbus ".toList := by decide
  have lead : startsWith (readFailure side reason) "failed to read " = true := by
    unfold startsWith
    rw [toList_readFailure, List.isPrefixOf_iff_prefix]
    exact short.trans (List.prefix_append _ _)
  unfold isRetryableTransportError
  simp only [lead, Bool.or_true]

/-- A response is read from a segmented stream exactly when the segment that completes it does
not take what has been read past the limit. -/
theorem readStreamResponse_segmented_iff (lib : RmodbusWire) (side : StreamSide)
    {proto : ModbusProto} (framed : proto ≠ .rtu) {chunks : List Bytes} {frame : Bytes}
    (sent : ∀ chunk ∈ chunks, chunk ≠ [])
    (first : FirstFrame (fun frame => frameComplete lib frame proto) chunks.flatten frame)
    (fits : frame.length ≤ maxFrameLen proto) (later : List StreamRead) :
    (∃ unread, readStreamResponse lib side proto (chunks.map StreamRead.bytes ++ later) =
        some (.ok frame, unread)) ↔
      ∃ count, frame.length ≤ (chunks.take count).flatten.length ∧
        (chunks.take count).flatten.length ≤ maxFrameLen proto := by
  have lasting := frameComplete_lasting lib framed
  have begun : 0 < frame.length := by
    refine List.length_pos_iff.mpr ?_
    rintro rfl
    exact Bool.false_ne_true ((frameComplete_nil lib proto).symm.trans first.whole)
  obtain ⟨earlier, chunk, rest, rfl, before, reached⟩ :=
    exists_completing_chunk begun first.leads.length_le
  have cut : (earlier ++ chunk :: rest).flatten =
      (earlier ++ [chunk]).flatten ++ rest.flatten := by simp
  rw [cut] at first
  have whole : frameComplete lib (earlier ++ [chunk]).flatten proto = true :=
    (FirstFrame.complete_iff lasting first).mpr reached
  have partly : frameComplete lib ([] ++ earlier.flatten) proto = false := by
    refine Bool.eq_false_iff.mpr fun complete => ?_
    have shortest := first.shortest earlier.flatten (by simp) complete
    omega
  have collected : readStreamResponse lib side proto
      ((earlier ++ chunk :: rest).map StreamRead.bytes ++ later) =
      readLoop lib side proto earlier.flatten
        (.bytes chunk :: (rest.map StreamRead.bytes ++ later)) := by
    rw [List.map_append, List.append_assoc]
    exact readLoop_chunks framed (fun piece member => sent piece (by simp [member])) partly
      (by rw [List.nil_append]; omega) _
  have nonempty : chunk.isEmpty = false := by simpa using sent chunk (by simp)
  have joined : earlier.flatten ++ chunk = (earlier ++ [chunk]).flatten := by simp
  rw [collected, readLoop, nonempty, if_neg (by simp), ← List.length_append, joined]
  rw [exists_count_within_iff before reached]
  by_cases room : (earlier ++ [chunk]).flatten.length ≤ maxFrameLen proto
  · have trimmed : trimFrame lib (earlier ++ [chunk]).flatten proto = frame :=
      (firstFrame_trimFrame lib framed whole).unique (first.of_append reached)
    rw [if_neg (by omega), whole, if_pos rfl, trimmed]
    exact iff_of_true ⟨_, rfl⟩ room
  · rw [if_pos (by omega)]
    refine iff_of_false ?_ room
    rintro ⟨unread, refused⟩
    cases refused

/-- A frame library that recognizes no frame. -/
def refusingWire : RmodbusWire where
  guessResponseFrameLen _ _ := .error .frameBroken
  parseAsciiFrame _ := .error .frameBroken

/-- A response in two segments, with one more byte behind it. -/
def twoSegments : List Bytes := [[0, 1, 0, 0], [0, 2, 1, 131, 9]]

theorem twoSegments_read :
    ∃ unread, readStreamResponse refusingWire .serial .tcpUdp
      (twoSegments.map StreamRead.bytes ++ [.closed]) =
        some (.ok [0, 1, 0, 0, 0, 2, 1, 131], unread) := by
  have trimmed : trimFrame refusingWire twoSegments.flatten .tcpUdp =
      [0, 1, 0, 0, 0, 2, 1, 131] := by decide +kernel
  have whole : frameComplete refusingWire twoSegments.flatten .tcpUdp = true := by
    decide +kernel
  have first := firstFrame_trimFrame refusingWire (by decide) whole
  rw [trimmed] at first
  refine (readStreamResponse_segmented_iff refusingWire .serial (by decide) (by decide) first
    (by decide) [.closed]).mpr ⟨2, ?_, ?_⟩ <;>
  decide

/-- A response of the greatest length, in segments of 64 bytes with 60 more bytes behind it. -/
def coalescedResponse : List Bytes :=
  [[0, 1, 0, 0, 0, 254] ++ List.replicate 58 0, List.replicate 64 0, List.replicate 64 0,
    List.replicate 64 0, List.replicate 64 0]

/-- A whole response is refused because of what arrived behind it in its last segment. -/
theorem coalescedResponse_refused :
    (∀ chunk ∈ coalescedResponse, chunk ≠ [] ∧ chunk.length ≤ 64) ∧
      FirstFrame (fun frame => frameComplete refusingWire frame .tcpUdp)
        coalescedResponse.flatten (coalescedResponse.flatten.take 260) ∧
      (coalescedResponse.flatten.take 260).length ≤ maxFrameLen .tcpUdp ∧
      ∀ unread, readStreamResponse refusingWire .socket .tcpUdp
          (coalescedResponse.map StreamRead.bytes) ≠
        some (.ok (coalescedResponse.flatten.take 260), unread) := by
  have trimmed : trimFrame refusingWire coalescedResponse.flatten .tcpUdp =
      coalescedResponse.flatten.take 260 := by decide +kernel
  have whole : frameComplete refusingWire coalescedResponse.flatten .tcpUdp = true := by
    decide +kernel
  refine ⟨by decide +kernel, ?_, by decide +kernel, ?_⟩
  · rw [← trimmed]
    exact firstFrame_trimFrame refusingWire (by decide) whole
  · intro unread accepted
    have refused : ((readStreamResponse refusingWire .socket .tcpUdp
        (coalescedResponse.map StreamRead.bytes)).any fun outcome => outcome.1.toBool) =
          false := by
      decide +kernel
    rw [accepted] at refused
    cases refused

end Modbus
end Ferredge
