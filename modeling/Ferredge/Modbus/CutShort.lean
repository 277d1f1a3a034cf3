import Ferredge.Modbus.Attempts

/-!
# Responses that are cut short

A peer may close before its response is complete.  That should be an error, after which no session
is kept and the driver attempts the request again, but what has arrived is returned as the response.
-/

namespace Ferredge
namespace Modbus

open Framing Retrying ModbusDriver

/-- The peer closes after sending these chunks, which hold no complete frame. -/
structure ClosesAfter (lib : RmodbusWire) (proto : ModbusProto) (chunks : List Bytes)
    (reads : List StreamRead) : Prop where
  sent : ∀ chunk ∈ chunks, chunk ≠ []
  partly : frameComplete lib chunks.flatten proto = false
  closes : ∃ ending unread, ending.ended = true ∧
    reads = chunks.map StreamRead.bytes ++ ending :: unread

/-- The peer closes in the middle of a response that is within the limit. -/
def CutShort (lib : RmodbusWire) (proto : ModbusProto) (reads : List StreamRead) : Prop :=
  ∃ chunks, ClosesAfter lib proto chunks reads ∧ chunks ≠ [] ∧
    chunks.flatten.length ≤ maxFrameLen proto

section

variable {lib : RmodbusWire} {side : StreamSide} {proto : ModbusProto} {frame : Bytes}

/-- Chunks that outgrow the limit without completing a frame are refused. -/
theorem readLoop_exceeded (framed : proto ≠ .rtu) {chunks : List Bytes}
    (sent : ∀ chunk ∈ chunks, chunk ≠ [])
    (partly : frameComplete lib (frame ++ chunks.flatten) proto = false)
    (room : frame.length ≤ maxFrameLen proto)
    (exceeded : maxFrameLen proto < (frame ++ chunks.flatten).length)
    (reads : List StreamRead) :
    ∃ reason unread, readLoop lib side proto frame (chunks.map StreamRead.bytes ++ reads) =
      some (.error (readFailure side reason), unread) := by
  induction chunks generalizing frame with
  | nil =>
      rw [List.flatten_nil, List.append_nil] at exceeded
      omega
  | cons chunk chunks ih =>
      have lasting := frameComplete_lasting lib framed
      rw [List.flatten_cons, ← List.append_assoc] at partly exceeded
      have collected : frameComplete lib (frame ++ chunk) proto = false :=
        lasting.of_append partly
      have nonempty : chunk.isEmpty = false := by
        simpa using sent chunk List.mem_cons_self
      rw [List.map_cons, List.cons_append, readLoop, nonempty, if_neg (by simp)]
      by_cases exceeding : maxFrameLen proto < frame.length + chunk.length
      · rw [if_pos exceeding]
        exact ⟨_, _, rfl⟩
      · rw [if_neg exceeding, collected, if_neg (by simp)]
        refine ih (fun later member => sent later (List.mem_cons_of_mem chunk member)) partly ?_
          exceeded
        rw [List.length_append]
        omega

/-- A frame is returned because it was completed, or because the stream ended. -/
theorem readLoop_eq_ok {reads unread : List StreamRead} {result : Bytes}
    (partly : frameComplete lib frame proto = false) (room : frame.length ≤ maxFrameLen proto)
    (returned : readLoop lib side proto frame reads = some (.ok result, unread)) :
    ∃ chunks : List Bytes, (∀ chunk ∈ chunks, chunk ≠ []) ∧
      ((reads = chunks.map StreamRead.bytes ++ unread ∧
          frameComplete lib (frame ++ chunks.flatten) proto = true ∧
          result = trimFrame lib (frame ++ chunks.flatten) proto) ∨
        ((∃ ending, ending.ended = true ∧
            reads = chunks.map StreamRead.bytes ++ ending :: unread) ∧
          frameComplete lib (frame ++ chunks.flatten) proto = false ∧
          frame ++ chunks.flatten ≠ [] ∧
          (frame ++ chunks.flatten).length ≤ maxFrameLen proto)) := by
  induction reads generalizing frame with
  | nil => cases returned
  | cons read reads ih =>
      by_cases ended : read.ended = true
      · rw [readLoop_ended ended] at returned
        split at returned
        · cases returned
        · rename_i collected
          cases returned
          refine ⟨[], by simp, .inr ⟨⟨read, ended, rfl⟩, ?_⟩⟩
          rw [List.flatten_nil, List.append_nil]
          exact ⟨partly, by simpa using collected, room⟩
      · cases read with
        | closed => exact absurd rfl ended
        | failed error => cases returned
        | bytes chunk =>
            have nonempty : chunk ≠ [] := by simpa [StreamRead.ended] using ended
            have known : chunk.isEmpty = false := by simpa using nonempty
            rw [readLoop, known, if_neg (by simp)] at returned
            split at returned
            · cases returned
            · rename_i within
              split at returned
              · rename_i whole
                cases returned
                exact ⟨[chunk], by simpa using nonempty, .inl ⟨rfl, by simpa using whole, by simp⟩⟩
              · rename_i incomplete
                obtain ⟨chunks, sent, outcome⟩ := ih (Bool.eq_false_iff.mpr incomplete)
                  (by rw [List.length_append]; omega) returned
                refine ⟨chunk :: chunks, ?_, ?_⟩
                · simpa using And.intro nonempty sent
                · rw [List.flatten_cons, ← List.append_assoc]
                  rcases outcome with ⟨rfl, whole⟩ | ⟨⟨ending, ended, rfl⟩, cut⟩
                  · exact .inl ⟨rfl, whole⟩
                  · exact .inr ⟨⟨ending, ended, rfl⟩, cut⟩

/-- A peer that closes early is noticed unless it has sent part of a response. -/
theorem readStreamResponse_refused (framed : proto ≠ .rtu) {reads : List StreamRead}
    {chunks : List Bytes} (closes : ClosesAfter lib proto chunks reads)
    (noticed : ¬ CutShort lib proto reads) :
    ∃ reason unread, readStreamResponse lib side proto reads =
      some (.error (readFailure side reason), unread) := by
  obtain ⟨ending, unread, ended, shape⟩ := closes.closes
  have partly : frameComplete lib ([] ++ chunks.flatten) proto = false := closes.partly
  by_cases fits : ([] ++ chunks.flatten).length ≤ maxFrameLen proto
  · have silent : chunks = [] := by
      by_contra begun
      exact noticed ⟨chunks, closes, begun, fits⟩
    subst silent
    refine ⟨"Closed", unread, ?_⟩
    rw [shape, readStreamResponse, List.map_nil, List.nil_append, readLoop_ended ended]
    rfl
  · rw [shape, readStreamResponse]
    exact readLoop_exceeded framed closes.sent partly (Nat.zero_le _) (by omega) _

end

/-- A request written on a socket leaves its pending reads. -/
theorem writeStreamRequest_reads {label : String} {sent : Bytes} {socket after : StreamSocket}
    (written : writeStreamRequest label sent socket = some (.ok (), after)) :
    after.reads = socket.reads := by
  unfold writeStreamRequest at written
  split at written
  · cases written
  · cases written
  · split at written
    · cases written
    · cases written
    · cases written
      rfl

/-- The exchange of a transport fails, without a session, when reading the response does. -/
theorem executeTransport_of_refused {lib : RmodbusWire} {side : StreamSide}
    {endpoint : ModbusEndpoint} {wire : StreamWire} {persistent : Bool} {request : ModbusRequest}
    {session : Option StreamSocket} {opens later : List (Except String StreamSocket)}
    {socket written : StreamSocket} {error : String} {unread : List StreamRead}
    (served : wireOf lib side endpoint = some wire) (sided : wire.side = side)
    (taken : takeSocket persistent session opens = some (.ok socket, later))
    (sent : writeStreamRequest wire.label request.frame socket = some (.ok (), written))
    (refused : readStreamResponse lib side request.proto socket.reads =
      some (.error error, unread)) :
    executeTransport lib side endpoint persistent request session opens =
      some (.error error, none, later) := by
  have pending : written.reads = socket.reads := writeStreamRequest_reads sent
  subst sided
  simp only [executeTransport, served, executeStream, taken, exchange, sent, pending, refused,
    Option.bind_eq_bind, Option.bind_some]
  rfl

theorem wireOf_side {lib : RmodbusWire} {side : StreamSide} {endpoint : ModbusEndpoint}
    {wire : StreamWire} (served : wireOf lib side endpoint = some wire) : wire.side = side := by
  cases side <;> cases endpoint <;> cases served <;> rfl

/-- The attempts of the driver are exchanges of the transport, wherever these return. -/
def Performs (lib : RmodbusWire) (side : StreamSide) (endpoint : ModbusEndpoint)
    (persistent : Bool) (request : ModbusRequest)
    (execute : Option StreamSocket × List (Except String StreamSocket) → Exchanged) : Prop :=
  ∀ session opens exchanged,
    executeTransport lib side endpoint persistent request session opens = some exchanged →
      execute (session, opens) = exchanged

/-- What reading a response from this stream promises, alone and as part of a request. -/
structure ResponseIntact (lib : RmodbusWire) (side : StreamSide) (proto : ModbusProto)
    (reads : List StreamRead) : Prop where
  whole : ∀ frame unread, readStreamResponse lib side proto reads = some (.ok frame, unread) →
    ∃ consumed, reads = consumed ++ unread ∧
      frameComplete lib (consumed.flatMap StreamRead.received) proto = true ∧
      FirstFrame (fun frame => frameComplete lib frame proto)
        (consumed.flatMap StreamRead.received) frame
  refused : ∀ chunks, ClosesAfter lib proto chunks reads →
    ∃ error unread, readStreamResponse lib side proto reads = some (.error error, unread)
  /-- No session is kept, and an attempt that remains is made without one. -/
  retried : ∀ chunks, ClosesAfter lib proto chunks reads →
    ∀ endpoint wire persistent request session opens later socket written,
      wireOf lib side endpoint = some wire → request.proto = proto → socket.reads = reads →
      takeSocket persistent session opens = some (.ok socket, later) →
      writeStreamRequest wire.label request.frame socket = some (.ok (), written) →
      (∃ error, executeTransport lib side endpoint persistent request session opens =
        some (.error error, none, later)) ∧
      ∀ policy execute start count, Performs lib side endpoint persistent request execute →
        (successive execute count start).2 = (session, opens) →
        count + 1 < requestAttemptBudget policy.toModbusReconnectConfig request.isWrite →
        count < (executeOnEndpoint policy request.isWrite true execute start).outcomes.length →
          count + 1 <
            (executeOnEndpoint policy request.isWrite true execute start).outcomes.length ∧
          (successive execute (count + 1) start).2 = (none, later)

/-- A response is handled soundly unless the peer closes in the middle of it: what has arrived
is then returned as the response. -/
theorem responseIntact_iff (lib : RmodbusWire) (side : StreamSide) {proto : ModbusProto}
    (framed : proto ≠ .rtu) (reads : List StreamRead) :
    ResponseIntact lib side proto reads ↔ ¬ CutShort lib proto reads := by
  constructor
  · rintro intact ⟨chunks, closes, begun, fits⟩
    obtain ⟨ending, unread, ended, shape⟩ := closes.closes
    obtain ⟨error, rest, refused⟩ := intact.refused chunks closes
    have collected : chunks.flatten.isEmpty = false := by
      cases chunks with
      | nil => exact absurd rfl begun
      | cons chunk chunks =>
          have nonempty := closes.sent chunk List.mem_cons_self
          simpa using fun nothing => absurd nothing nonempty
    rw [shape, readStreamResponse, readLoop_chunks framed closes.sent closes.partly fits,
      readLoop_ended ended, List.nil_append, collected] at refused
    cases refused
  · intro noticed
    refine ⟨?_, ?_, ?_⟩
    · intro frame unread returned
      obtain ⟨chunks, sent, ⟨rfl, whole, rfl⟩ |
          ⟨⟨ending, ended, shape⟩, partly, begun, fits⟩⟩ :=
        readLoop_eq_ok (frameComplete_nil lib proto) (Nat.zero_le _) returned
      · have arrived : (chunks.map StreamRead.bytes).flatMap StreamRead.received =
            chunks.flatten := by
          simp [List.flatMap_map, StreamRead.received, List.flatMap_id']
        refine ⟨chunks.map StreamRead.bytes, rfl, ?_, ?_⟩
        · rw [arrived]
          exact whole
        · rw [arrived]
          exact firstFrame_trimFrame lib framed whole
      · have closes : ClosesAfter lib proto chunks reads :=
          ⟨sent, partly, ending, unread, ended, shape⟩
        refine absurd ⟨chunks, closes, ?_, fits⟩ noticed
        rintro rfl
        exact begun rfl
    · intro chunks closes
      obtain ⟨reason, unread, refused⟩ := readStreamResponse_refused framed closes noticed
      exact ⟨_, unread, refused⟩
    · rintro chunks closes endpoint wire persistent request session opens later socket written
        served rfl rfl taken sent
      obtain ⟨reason, unread, refused⟩ := readStreamResponse_refused framed closes noticed
      have failed := executeTransport_of_refused served (wireOf_side served) taken sent refused
      refine ⟨⟨_, failed⟩, fun policy execute start count performs reached left within => ?_⟩
      have attempted : execute (session, opens) = (.error (readFailure side reason), none, later) :=
        performs _ _ _ failed
      obtain ⟨made, -⟩ := executeOnEndpoint_follows policy request.isWrite execute start
      refine ⟨made.succ_lt_length left within ?_ (retryable_readFailure side reason), ?_⟩
      · rw [reached, attempted]
      · rw [successive_succ, reached, attempted]

/-- A response in two chunks with one more byte behind it, after which the peer closes. -/
def splitResponse : List StreamRead :=
  [.bytes [0, 1, 0, 0], .bytes [0, 3, 1, 3, 0, 9], .closed]

theorem splitResponse_intact : ResponseIntact refusingWire .socket .tcpUdp splitResponse := by
  refine (responseIntact_iff refusingWire .socket (by decide) splitResponse).mpr ?_
  rintro ⟨chunks, ⟨-, partly, ending, unread, ended, shape⟩, -, -⟩
  have whole : frameComplete refusingWire ([[0, 1, 0, 0], [0, 3, 1, 3, 0, 9]] : List Bytes).flatten
      .tcpUdp = true := by decide +kernel
  match chunks, shape with
  | [], shape | [_], shape =>
      cases shape
      cases ended
  | [_, _], shape =>
      cases shape
      exact Bool.false_ne_true (partly.symm.trans whole)
  | _ :: _ :: _ :: _, shape => cases shape

/-- Half a response before the end of the stream is taken for the response. -/
theorem halfResponse_accepted :
    ¬ ResponseIntact refusingWire .socket .tcpUdp [.bytes [0, 1, 0, 0, 0, 6, 1], .closed] := by
  intro intact
  have returned : readStreamResponse refusingWire .socket .tcpUdp
      [.bytes [0, 1, 0, 0, 0, 6, 1], .closed] = some (.ok [0, 1, 0, 0, 0, 6, 1], []) := by
    decide +kernel
  have partly : frameComplete refusingWire [0, 1, 0, 0, 0, 6, 1] .tcpUdp = false := by
    decide +kernel
  obtain ⟨consumed, shape, whole, -⟩ := intact.whole _ _ returned
  rw [List.append_nil] at shape
  subst shape
  exact Bool.false_ne_true (partly.symm.trans whole)

end Modbus
end Ferredge
