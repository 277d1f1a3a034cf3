import Ferredge.Modbus.Bus

/-!
# The bus over TCP

The driver exchanges requests with a unit over TCP connections, and may keep one for the next
request.  What the unit sends on a connection arrives in pieces, and its end may come before all of
it has.  A unit that never sends more than one frame for a request cannot be misunderstood: what
the driver returns is an answer to the request it is returned for, or the beginning of one.
-/

namespace Ferredge

open Fallible Retrying Transition

/-- What a unit does with a request that reaches it. -/
inductive UnitService where
  | served
  | refused
  | ignored
  deriving DecidableEq

/-- What happens during one attempt.  A request that is not served within its own attempt never
is. -/
structure TcpTurn where
  /-- What opening a connection comes to. -/
  connect : Except String Unit
  write : Except String Unit
  flush : Except String Unit
  service : UnitService
  /-- How many of the bytes that the unit has sent arrive before the reads end. -/
  arriving : Nat
  /-- The sizes of the pieces that are read, less one. -/
  sizes : List Nat
  /-- The error that ends the reads, unless the unit closes the connection. -/
  failure : Option String

/-- A connection that is kept: what the unit has sent on it and has not been read, and whether its
end has been read. -/
structure TcpConnection where
  unread : Bytes
  closed : Bool

/-- A unit that is reached over TCP: its memory, the connection that is kept, and what happens
during the attempts to come. -/
structure TcpLink where
  memory : RegisterMemory
  held : Option TcpConnection
  turns : Nat → TcpTurn

/-- The link on which this fate comes first. -/
def ModbusLink.expecting (fate : Fate) (memory : RegisterMemory) (link : ModbusLink) :
    ModbusLink where
  memory
  fates
    | 0 => fate
    | place + 1 => link.fates place

namespace TcpConnection

/-- A connection that has just been opened. -/
def fresh : TcpConnection := { unread := [], closed := false }

/-- Nothing is left on the connection that could be taken for an answer to a later request. -/
def Clean (connection : TcpConnection) : Prop :=
  connection.closed = true ∨ connection.unread = []

end TcpConnection

/-- Nothing is left on the connection that is kept. -/
def TcpLink.Clean (link : TcpLink) : Prop := ∀ connection ∈ link.held, connection.Clean

namespace TcpTurn

/-- Bytes in pieces of the given sizes. -/
def pieces : List Nat → Bytes → List Bytes
  | _, [] => []
  | [], bytes => [bytes]
  | size :: sizes, bytes@(_ :: _) => bytes.take (size + 1) :: pieces sizes (bytes.drop (size + 1))

theorem flatten_pieces (sizes : List Nat) (bytes : Bytes) :
    (pieces sizes bytes).flatten = bytes := by
  induction sizes generalizing bytes with
  | nil => cases bytes <;> simp [pieces]
  | cons size sizes ih =>
      cases bytes with
      | nil => rfl
      | cons byte bytes => rw [pieces, List.flatten_cons, ih, List.take_append_drop]

theorem pieces_solid (sizes : List Nat) (bytes : Bytes) :
    ∀ piece ∈ pieces sizes bytes, piece ≠ [] := by
  induction sizes generalizing bytes with
  | nil => cases bytes <;> simp [pieces]
  | cons size sizes ih =>
      cases bytes with
      | nil => exact nofun
      | cons byte bytes => exact List.forall_mem_cons.mpr ⟨by simp, ih _⟩

/-- What the unit sends for a request, and its memory afterwards. -/
def respond (unit : ModbusUnit) (frame : Bytes) (memory : RegisterMemory) :
    UnitService → Bytes × RegisterMemory
  | .served => (unit.reply frame memory, unit.serve frame memory)
  | .refused => (unit.exception frame, memory)
  | .ignored => ([], memory)

/-- The read that ends the others. -/
def lastRead (turn : TcpTurn) : StreamRead :=
  match turn.failure with
  | some error => .failed error
  | none => .closed

/-- The unit does not refuse the request, and leaves the connection open. -/
def Plain (turn : TcpTurn) : Prop := turn.service ≠ .refused ∧ turn.failure ≠ none

/-- What is read during the attempt, if the unit sends this. -/
def arrived (turn : TcpTurn) (connection : TcpConnection) (sent : Bytes) : Bytes :=
  if connection.closed then [] else (connection.unread ++ sent).take turn.arriving

/-- The socket of a connection. -/
def socket (turn : TcpTurn) (connection : TcpConnection) (sent : Bytes) : StreamSocket where
  writes := [turn.write]
  flushes := [turn.flush]
  reads := (pieces turn.sizes (turn.arrived connection sent)).map .bytes ++ [turn.lastRead]
  sent := []

/-- The connection that an attempt uses. -/
def connection (turn : TcpTurn) (persistent : Bool) (held : Option TcpConnection) :
    Option TcpConnection :=
  match if persistent then held else none with
  | some connection => some connection
  | none => turn.connect.toOption.map fun _ => .fresh

/-- What the unit sends for a request on a connection, and its memory afterwards. -/
def answer (turn : TcpTurn) (unit : ModbusUnit) (frame : Bytes) (connection : Option TcpConnection)
    (memory : RegisterMemory) : Bytes × RegisterMemory :=
  if connection.any (fun used => !used.closed) && turn.write.isOk then
    respond unit frame memory turn.service
  else ([], memory)

/-- What is left of a connection after an exchange. -/
def leave (turn : TcpTurn) (connection : TcpConnection) (sent : Bytes) (socket : StreamSocket) :
    TcpConnection where
  unread := socket.reads.flatMap StreamRead.received ++
    (connection.unread ++ sent).drop turn.arriving
  closed := socket.reads.isEmpty

end TcpTurn

namespace ModbusDriver

open Modbus

/-- One attempt of a request over TCP. -/
def attemptOverTcp (lib : RmodbusWire) (endpoint : ModbusEndpoint) (persistent : Bool)
    (unit : ModbusUnit) (request : ModbusRequest) (link : TcpLink) :
    Except String Bytes × TcpLink :=
  let turn := link.turns 0
  let turns place := link.turns (place + 1)
  let used := turn.connection persistent link.held
  let (sent, memory) := turn.answer unit request.frame used link.memory
  match TcpTransport.execute lib endpoint persistent request
      (link.held.map fun connection => turn.socket connection sent)
      [turn.connect.map fun _ => turn.socket .fresh sent] with
  | some (outcome, kept, _) =>
      let held := used.bind fun connection => kept.map (turn.leave connection sent)
      (outcome, { memory, held, turns })
  -- Every operation of a turn returns.
  | none => (.error "", { memory, held := none, turns })

/-- A unit that is reached over TCP. -/
def tcpMedium (lib : RmodbusWire) (endpoint : ModbusEndpoint) (persistent : Bool)
    (unit : ModbusUnit) : ModbusMedium TcpLink where
  attempt := attemptOverTcp lib endpoint persistent unit
  closeSession link := { link with held := none }
  change memory link := { link with memory }

end ModbusDriver

namespace Modbus

open ModbusDriver

/-- What a unit sends is not longer than its header says. -/
def Counted (sent : Bytes) : Prop :=
  ∀ length, tcpUdpFrameLen sent = some length → sent.length ≤ length

section Reading

variable {lib : RmodbusWire} {side : StreamSide} {sent frame : Bytes}

/-- Only all of what is sent can be a complete frame. -/
theorem Counted.eq_of_complete (counted : Counted sent) (begins : frame <+: sent)
    (whole : frameComplete lib frame .tcpUdp = true) : frame = sent := by
  obtain ⟨length, known, reached⟩ := (Option.any_eq_true _ _).mp whole
  obtain ⟨rest, rfl⟩ := begins
  have most := counted length (tcpUdpFrameLen_append known rest)
  have reached := of_decide_eq_true reached
  refine (List.prefix_append frame rest).eq_of_length_le (Nat.le_trans most reached)

/-- The beginnings of what is sent are not cut down. -/
theorem Counted.trimFrame_eq (counted : Counted sent) (begins : frame <+: sent) :
    trimFrame lib frame .tcpUdp = frame := by
  simp only [trimFrame]
  split
  · rename_i length known
    obtain ⟨rest, rfl⟩ := begins
    have most := counted length (tcpUdpFrameLen_append known rest)
    rw [List.length_append] at most
    exact List.take_of_length_le (by omega)
  · rfl

/-- What is read of a frame that is sent is the frame or its beginning, and the reads end in the
beginning. -/
theorem readLoop_pieces (counted : Counted sent) {pieces : List Bytes} {last : StreamRead}
    (begins : frame ++ pieces.flatten <+: sent) (solid : ∀ piece ∈ pieces, piece ≠ [])
    (partly : frameComplete lib frame .tcpUdp = false)
    (ends : last = .closed ∨ ∃ error, last = .failed error) :
    ∃ result unread,
      readLoop lib side .tcpUdp frame (pieces.map .bytes ++ [last]) = some (result, unread) ∧
      ∀ got, result = .ok got → got = frame ++ pieces.flatten ∧ got ≠ [] ∧
        (unread = [] ∧ last = .closed ∨ got = sent ∧ unread = [last]) := by
  induction pieces generalizing frame with
  | nil =>
      rw [List.flatten_nil, List.append_nil] at begins ⊢
      rcases ends with rfl | ⟨error, rfl⟩
      · rw [List.map_nil, List.nil_append, readLoop_ended rfl]
        split
        · refine ⟨_, _, rfl, ?_⟩
          rintro got ⟨⟩
        · rename_i begun
          refine ⟨_, _, rfl, fun got same => ?_⟩
          cases same
          rw [counted.trimFrame_eq begins]
          exact ⟨rfl, by simpa using begun, .inl ⟨rfl, rfl⟩⟩
      · refine ⟨_, _, rfl, ?_⟩
        rintro got ⟨⟩
  | cons piece pieces ih =>
      have piece_solid : piece ≠ [] := solid piece List.mem_cons_self
      have nonempty : piece.isEmpty = false := by simpa using piece_solid
      rw [List.flatten_cons, ← List.append_assoc] at begins ⊢
      rw [List.map_cons, List.cons_append, readLoop, nonempty, if_neg (by simp)]
      split
      · refine ⟨_, _, rfl, ?_⟩
        rintro got ⟨⟩
      · split
        · rename_i whole
          have leads : frame ++ piece <+: sent :=
            (List.prefix_append _ pieces.flatten).trans begins
          have same := counted.eq_of_complete leads whole
          have nothing : pieces.flatten = [] := by
            have short := begins.length_le
            rw [← same, List.length_append] at short
            exact List.eq_nil_of_length_eq_zero (by omega)
          have done : pieces = [] := by
            cases pieces with
            | nil => rfl
            | cons next pieces =>
                exact absurd (List.append_eq_nil_iff.mp nothing).1 (solid next (by simp))
          subst done
          refine ⟨_, _, rfl, fun got same' => ?_⟩
          cases same'
          rw [counted.trimFrame_eq leads]
          refine ⟨by simp, by simp [piece_solid], .inr ⟨same, rfl⟩⟩
        · rename_i incomplete
          exact ih begins (fun later member => solid later (List.mem_cons_of_mem piece member))
            (Bool.eq_false_iff.mpr incomplete)

end Reading

section Attempting

variable {lib : RmodbusWire} {unit : ModbusUnit} {persistent : Bool} {request : ModbusRequest}
  {turn : TcpTurn} {connection : TcpConnection} {sent : Bytes}

theorem lastRead_ends (turn : TcpTurn) :
    turn.lastRead = .closed ∨ ∃ error, turn.lastRead = .failed error := by
  unfold TcpTurn.lastRead
  split
  · exact .inr ⟨_, rfl⟩
  · exact .inl rfl

theorem failure_of_closed (last : turn.lastRead = .closed) : turn.failure = none := by
  unfold TcpTurn.lastRead at last
  split at last
  · cases last
  · assumption

/-- Only what is sent for the request arrives on a clean connection. -/
theorem arrived_of_clean (clean : connection.Clean) :
    turn.arrived connection sent = [] ∨
      turn.arrived connection sent = sent.take turn.arriving ∧ connection.unread = [] := by
  unfold TcpTurn.arrived
  rcases clean with closed | nothing
  · exact .inl (if_pos closed)
  · rw [nothing]
    split
    · exact .inl rfl
    · exact .inr ⟨rfl, rfl⟩

/-- What is read on a clean connection is what the unit sends, or its beginning, and it leaves the
connection clean. -/
theorem read_turn (lib : RmodbusWire) (turn : TcpTurn) (clean : connection.Clean)
    (counted : Counted sent) :
    ∃ result unread, readStreamResponse lib .socket .tcpUdp (turn.socket connection sent).reads =
        some (result, unread) ∧
      ∀ got, result = .ok got → got = sent.take turn.arriving ∧ got ≠ [] ∧
        (got = sent ∨ turn.failure = none) ∧
        ∀ left : StreamSocket, left.reads = unread → (turn.leave connection sent left).Clean := by
  have begins : [] ++ (TcpTurn.pieces turn.sizes (turn.arrived connection sent)).flatten <+:
      sent := by
    rw [TcpTurn.flatten_pieces, List.nil_append]
    rcases arrived_of_clean clean with nothing | ⟨cut, -⟩
    · rw [nothing]
      exact List.nil_prefix
    · rw [cut]
      exact List.take_prefix _ _
  obtain ⟨result, unread, returned, read⟩ := readLoop_pieces counted begins
    (TcpTurn.pieces_solid _ _) (frameComplete_nil lib .tcpUdp) (lastRead_ends turn)
  refine ⟨result, unread, returned, fun got same => ?_⟩
  obtain ⟨arrived, begun, rest⟩ := read got same
  rw [TcpTurn.flatten_pieces, List.nil_append] at arrived
  rcases arrived_of_clean clean with nothing | ⟨cut, unread_nil⟩
  · exact absurd (arrived.trans nothing) begun
  · refine ⟨arrived.trans cut, begun, rest.elim (fun ended => .inr ?_) fun whole => .inl whole.1,
      ?_⟩
    · exact failure_of_closed ended.2
    rintro left rfl
    rcases rest with ⟨ended, -⟩ | ⟨whole, remaining⟩
    · left
      rw [TcpTurn.leave, ended]
      rfl
    · right
      have all : sent.drop turn.arriving = [] := by
        have same := congrArg List.length (arrived.trans cut)
        rw [whole, List.length_take] at same
        exact List.drop_of_length_le (by omega)
      have silent : [turn.lastRead].flatMap StreamRead.received = [] := by
        rcases lastRead_ends turn with last | ⟨error, last⟩ <;> rw [last] <;> rfl
      rw [TcpTurn.leave, remaining, unread_nil]
      simp only [silent, List.nil_append, all]

/-- What an exchange on a clean connection brings is what the unit sends, or its beginning, and it
leaves the connection clean. -/
theorem exchange_turn (framed : request.proto = .tcpUdp) (clean : connection.Clean)
    (counted : Counted sent) :
    ∃ outcome left,
      exchange lib tcpWire request (turn.socket connection sent) = some (outcome, left) ∧
      ∀ got, outcome = .ok got → got = sent.take turn.arriving ∧ got ≠ [] ∧
        (got = sent ∨ turn.failure = none) ∧ (turn.leave connection sent left).Clean := by
  obtain ⟨result, unread, returned, read⟩ := read_turn lib turn clean counted
  obtain ⟨connect, write, flush, service, arriving, sizes, failure⟩ := turn
  rcases write with error | ⟨⟨⟩⟩
  · exact ⟨_, _, rfl, nofun⟩
  · rcases flush with error | ⟨⟨⟩⟩
    · exact ⟨_, _, rfl, nofun⟩
    · refine ⟨result >>= .ok, ⟨[], [], unread, [] ++ request.frame⟩, ?_, fun got same => ?_⟩
      · unfold exchange
        rw [framed]
        change (readStreamResponse lib .socket .tcpUdp _).bind _ = _
        rw [returned]
        rfl
      · obtain ⟨raw, brought, same⟩ := bind_eq_ok.mp same
        cases same
        obtain ⟨cut, begun, whole, left⟩ := read got brought
        exact ⟨cut, begun, whole, left _ rfl⟩

theorem connection_clean {link : TcpLink} (clean : link.Clean)
    (used : turn.connection persistent link.held = some connection) : connection.Clean := by
  unfold TcpTurn.connection at used
  split at used
  · rename_i kept
    cases used
    cases persistent with
    | false => cases kept
    | true => exact clean connection kept
  · obtain ⟨nothing, -, rfl⟩ := Option.map_eq_some_iff.mp used
    exact .inr rfl

/-- The attempt is an exchange on the connection that it uses. -/
theorem execute_of_connection {host : String} {port : UInt16} {options : ModbusClientOptions}
    {held : Option TcpConnection} (used : turn.connection persistent held = some connection) :
    ∃ opens, TcpTransport.execute lib (.tcp host port options) persistent request
        (held.map fun connection => turn.socket connection sent)
        [turn.connect.map fun _ => turn.socket .fresh sent] =
      (exchange lib tcpWire request (turn.socket connection sent)).map
        (settle persistent opens) := by
  obtain ⟨connect, write, flush, service, arriving, sizes, failure⟩ := turn
  have opened (unkept : (if persistent then held else none) = none) :
      ∃ nothing, connect = .ok nothing ∧ connection = .fresh := by
    rw [TcpTurn.connection, unkept] at used
    rcases connect with error | nothing
    · cases used
    · exact ⟨nothing, rfl, (Option.some.inj used).symm⟩
  cases persistent with
  | false =>
      obtain ⟨nothing, rfl, rfl⟩ := opened rfl
      exact ⟨[], by cases held <;> rfl⟩
  | true =>
      cases held with
      | none =>
          obtain ⟨nothing, rfl, rfl⟩ := opened rfl
          exact ⟨[], rfl⟩
      | some held =>
          cases used
          exact ⟨_, rfl⟩

/-- An attempt without a connection fails. -/
theorem execute_of_no_connection {host : String} {port : UInt16} {options : ModbusClientOptions}
    {held : Option TcpConnection} (unused : turn.connection persistent held = none) :
    ∃ error, TcpTransport.execute lib (.tcp host port options) persistent request
        (held.map fun connection => turn.socket connection sent)
        [turn.connect.map fun _ => turn.socket .fresh sent] = some (.error error, none, []) := by
  obtain ⟨connect, write, flush, service, arriving, sizes, failure⟩ := turn
  have unkept : (if persistent then held else none) = none := by
    rw [TcpTurn.connection] at unused
    split at unused
    · cases unused
    · assumption
  rw [TcpTurn.connection, unkept] at unused
  rcases connect with error | nothing
  · refine ⟨error, ?_⟩
    cases persistent with
    | false => cases held <;> rfl
    | true =>
        cases held with
        | none => rfl
        | some held => cases unkept
  · cases unused

/-- The unit does something with the request, or it does not get there. -/
theorem answer_eq_respond (turn : TcpTurn) (unit : ModbusUnit) (frame : Bytes)
    (used : Option TcpConnection) (memory : RegisterMemory) :
    ∃ service, (turn.service ≠ .refused → service ≠ .refused) ∧
      turn.answer unit frame used memory = TcpTurn.respond unit frame memory service := by
  unfold TcpTurn.answer
  split
  · exact ⟨turn.service, id, rfl⟩
  · exact ⟨.ignored, nofun, rfl⟩

/-- The fate that explains what an attempt comes to. -/
theorem exists_fate (frame : Bytes) (memory : RegisterMemory) (service : UnitService)
    {outcome : Except String Bytes} {arriving : Nat}
    (brings : ∀ got, outcome = .ok got → got ≠ [] ∧
      got = (TcpTurn.respond unit frame memory service).1.take arriving) :
    ∃ fate : Fate,
      (service ≠ .refused → (∀ got, outcome = .ok got →
        got = (TcpTurn.respond unit frame memory service).1) → ¬fate.Spoiled) ∧
      ∀ wanted : ModbusLink, wanted.memory = (TcpTurn.respond unit frame memory service).2 →
        attemptOver unit frame (wanted.expecting fate memory) = (outcome, wanted) := by
  cases outcome with
  | error error =>
      cases service with
      | served =>
          refine ⟨.unanswered error, fun _ _ => id, ?_⟩
          rintro ⟨_, fates⟩ rfl
          rfl
      | refused =>
          refine ⟨.lost error, fun _ _ => id, ?_⟩
          rintro ⟨_, fates⟩ rfl
          rfl
      | ignored =>
          refine ⟨.lost error, fun _ _ => id, ?_⟩
          rintro ⟨_, fates⟩ rfl
          rfl
  | ok got =>
      obtain ⟨begun, cut⟩ := brings got rfl
      cases service with
      | served =>
          by_cases whole : got = unit.reply frame memory
          · subst whole
            refine ⟨.answered, fun _ _ => id, ?_⟩
            rintro ⟨_, fates⟩ rfl
            rfl
          · refine ⟨.cutShort true arriving, fun _ all => absurd (all got rfl) whole, ?_⟩
            rintro ⟨_, fates⟩ rfl
            rw [cut]
            rfl
      | refused =>
          refine ⟨.cutShort false arriving, fun plain => absurd rfl plain, ?_⟩
          rintro ⟨_, fates⟩ rfl
          rw [cut]
          rfl
      | ignored =>
          rw [TcpTurn.respond, List.take_nil] at cut
          exact absurd cut begun

variable {host : String} {port : UInt16} {options : ModbusClientOptions} {link : TcpLink}

/-- What an attempt comes to: it brings what the unit sends for the request, or its beginning, or
fails, and no connection is kept on which anything else is left. -/
theorem attemptOverTcp_comes (framed : request.proto = .tcpUdp) (clean : link.Clean)
    (counted : ∀ service,
      Counted (TcpTurn.respond unit request.frame link.memory service).1) :
    ∃ service outcome held, ((link.turns 0).service ≠ .refused → service ≠ .refused) ∧
      attemptOverTcp lib (.tcp host port options) persistent unit request link =
        (outcome,
          { memory := (TcpTurn.respond unit request.frame link.memory service).2
            held
            turns := fun place => link.turns (place + 1) }) ∧
      (∀ connection ∈ held, connection.Clean) ∧
      ∀ got, outcome = .ok got → got ≠ [] ∧
        got = (TcpTurn.respond unit request.frame link.memory service).1.take
          (link.turns 0).arriving ∧
        (got = (TcpTurn.respond unit request.frame link.memory service).1 ∨
          (link.turns 0).failure = none) := by
  obtain ⟨service, plain, answered⟩ := answer_eq_respond (link.turns 0) unit request.frame
    ((link.turns 0).connection persistent link.held) link.memory
  have whole := counted service
  refine ⟨service, ?_⟩
  unfold attemptOverTcp
  simp only [answered]
  generalize TcpTurn.respond unit request.frame link.memory service = answer at whole ⊢
  cases used : (link.turns 0).connection persistent link.held with
  | none =>
      obtain ⟨error, failed⟩ := @execute_of_no_connection lib persistent request _ answer.1 host
        port options _ used
      rw [failed]
      exact ⟨.error error, none, plain, rfl, nofun, nofun⟩
  | some connection =>
      obtain ⟨outcome, left, exchanged, brought⟩ :=
        @exchange_turn lib request (link.turns 0) _ _ framed (connection_clean clean used) whole
      obtain ⟨opens, executed⟩ := @execute_of_connection lib persistent request _ connection
        answer.1 host port options _ used
      rw [executed, exchanged]
      cases outcome with
      | error error => exact ⟨.error error, none, plain, rfl, nofun, nofun⟩
      | ok got =>
          obtain ⟨cut, begun, all, tidy⟩ := brought got rfl
          refine ⟨.ok got, _, plain, rfl, ?_, ?_⟩
          · cases persistent with
            | false => exact nofun
            | true =>
                rintro kept ⟨⟩
                exact tidy
          · rintro _ ⟨⟩
            exact ⟨begun, cut, all⟩

/-! ## The bus over TCP as a bus over a link -/

/-- The link has the same memory, and spoils frames only if the unit refuses requests or closes
connections. -/
structure Explained (link : TcpLink) (other : ModbusLink) : Prop where
  memory : other.memory = link.memory
  legible : (∀ place, (link.turns place).Plain) → ∀ place, ¬(other.fates place).Spoiled

/-- What an attempt over TCP comes to is what an attempt over a link can come to. -/
theorem attemptOverTcp_foretold (framed : request.proto = .tcpUdp) (clean : link.Clean)
    (counted : ∀ memory service, Counted (TcpTurn.respond unit request.frame memory service).1) :
    (attemptOverTcp lib (.tcp host port options) persistent unit request link).2.Clean ∧
      ∀ wanted, Explained
          (attemptOverTcp lib (.tcp host port options) persistent unit request link).2 wanted →
        ∃ known, Explained link known ∧ attemptOver unit request.frame known =
          ((attemptOverTcp lib (.tcp host port options) persistent unit request link).1,
            wanted) := by
  obtain ⟨service, outcome, held, plain, came, tidy, brought⟩ :=
    @attemptOverTcp_comes lib unit persistent request host port options link framed clean
      (counted link.memory)
  rw [came]
  refine ⟨tidy, fun wanted explained => ?_⟩
  obtain ⟨fate, legible, attempted⟩ := exists_fate request.frame link.memory service
    fun got same => ⟨(brought got same).1, (brought got same).2.1⟩
  refine ⟨wanted.expecting fate link.memory, ⟨rfl, fun all place => ?_⟩,
    attempted wanted explained.memory⟩
  cases place with
  | zero =>
      refine legible (plain (all 0).1) fun got same => ?_
      exact (brought got same).2.2.resolve_right (all 0).2
  | succ place => exact explained.legible (fun later => all (later + 1)) place

/-- A request over TCP ends as a request over a link can end. -/
theorem execute_foretold (policy : ModbusReconnectPolicy) (framed : request.proto = .tcpUdp)
    (clean : link.Clean)
    (counted : ∀ memory service, Counted (TcpTurn.respond unit request.frame memory service).1)
    {ending : CommandEnding} {after : TcpLink}
    (executed : execute policy (tcpMedium lib (.tcp host port options) persistent unit) request
      link = (ending, after)) :
    after.Clean ∧ ∀ wanted, Explained after wanted → ∃ known, Explained link known ∧
      execute policy (linkMedium unit) request known = (ending, wanted) := by
  obtain ⟨made, last, returned, ends⟩ := executeOnEndpoint_follows policy request.isWrite
    ((tcpMedium lib (.tcp host port options) persistent unit).attempt request) link
  rw [execute, returned] at executed
  cases executed
  have step (before : TcpLink) (clean : before.Clean) :=
    @attemptOverTcp_foretold lib unit persistent request host port options before framed clean
      counted
  constructor
  · obtain ⟨before, outcome, tidy, final, -⟩ :=
      made.exists_last (fun before clean => (step before clean).1) clean
    have after := (step before tidy).1
    rwa [show attemptOverTcp lib (.tcp host port options) persistent unit request before =
      (outcome, _) from final] at after
  · intro wanted explained
    obtain ⟨known, first, remade⟩ := made.backward clean (fun before clean => (step before clean).1)
      (fun before clean => (step before clean).2) explained
    refine ⟨known, first, ?_⟩
    obtain ⟨made', last', returned', ends'⟩ := executeOnEndpoint_follows policy request.isWrite
      ((linkMedium unit).attempt request) known
    obtain ⟨outcomes, worlds⟩ := made'.unique remade
    rw [outcomes, ends] at ends'
    rw [execute, returned', worlds, Option.some.inj ends']

end Attempting

/-- The unit sends at most one frame for a request of the device's commands. -/
def SendsFrames (lib : Rmodbus) (device : ModbusDevice) (unit : ModbusUnit) : Prop :=
  ∀ command request, nativeRequest lib device command = .ok request →
    ∀ memory service, Counted (TcpTurn.respond unit request.frame memory service).1

/-- The same has happened on two buses, and the one's link explains the other's. -/
def SameLog (bus : ModbusBus TcpLink) (other : ModbusBus ModbusLink) : Prop :=
  Explained bus.link other.link ∧ other.log = bus.log

section Running

open ModbusBus

variable {lib : Rmodbus} {wire : RmodbusWire} {device : ModbusDevice} {unit : ModbusUnit}
  {persistent : Bool} {policy : ModbusReconnectPolicy} {host : String} {port : UInt16}
  {options : ModbusClientOptions}

theorem buildRequest_proto {resource : String} {isWrite : Bool} {proto : ModbusProto}
    {options : ModbusClientOptions} {seed : ModbusParserSeed} {decoder : ModbusResponseDecoder}
    {request : ModbusRequest}
    (built : buildRequest lib resource isWrite proto options seed decoder = .ok request) :
    request.proto = proto := by
  obtain ⟨⟨client, frame⟩, -, built⟩ := bind_eq_ok.mp built
  obtain ⟨wire, -, built⟩ := bind_eq_ok.mp built
  cases built
  rfl

/-- Requests are framed for the device's endpoint. -/
theorem proto_of_requested {command : Command} {request : ModbusRequest}
    (requested : nativeRequest lib device command = .ok request) :
    request.proto = device.endpoint.proto := by
  obtain ⟨name, attributes, found, ⟨options, reads⟩ | ⟨payload, options, writes⟩⟩ :=
    nativeRequest_eq_ok requested
  · obtain ⟨quantity, -, -, -, -, built⟩ := nativeRequest_of_read reads requested found
    exact buildRequest_proto built
  · obtain ⟨value, -, -, -, -, built⟩ := nativeRequest_of_write writes requested found
    exact buildRequest_proto built

/-- What an action on the bus over TCP comes to is what it can come to over a link. -/
theorem act_foretold (tcp : device.endpoint = .tcp host port options)
    (frames : SendsFrames lib device unit) {bus : ModbusBus TcpLink} (clean : bus.link.Clean)
    (action : BusAction) :
    (bus.act lib policy (tcpMedium wire device.endpoint persistent unit) device
        action).link.Clean ∧
      ∀ wanted, Explained (bus.act lib policy (tcpMedium wire device.endpoint persistent unit)
          device action).link wanted →
        ∃ known, Explained bus.link known ∧
          ModbusBus.act lib policy (linkMedium unit) device ⟨known, bus.log⟩ action =
            ⟨wanted, (bus.act lib policy (tcpMedium wire device.endpoint persistent unit) device
              action).log⟩ := by
  cases action with
  | stop =>
      refine ⟨nofun, fun wanted explained => ?_⟩
      exact ⟨wanted, ⟨explained.memory, explained.legible⟩, rfl⟩
  | change memory =>
      refine ⟨clean, fun wanted explained => ?_⟩
      refine ⟨{ wanted with memory := bus.link.memory }, ⟨rfl, explained.legible⟩, ?_⟩
      obtain ⟨_, fates⟩ := wanted
      cases explained.memory
      rfl
  | call command =>
      cases requested : nativeRequest lib device command with
      | error error =>
          simp only [ModbusBus.act, executeCommand, requested]
          exact ⟨clean, fun wanted explained => ⟨wanted, explained, rfl⟩⟩
      | ok request =>
          have framed : request.proto = .tcpUdp := by
            rw [proto_of_requested requested, tcp]
            rfl
          simp only [ModbusBus.act, executeCommand, requested, tcp]
          rcases executed : execute policy
            (tcpMedium wire (.tcp host port options) persistent unit) request bus.link with
            ⟨ending, after⟩
          obtain ⟨tidy, foretold⟩ := execute_foretold policy framed clean
            (frames command request requested) executed
          refine ⟨tidy, fun wanted explained => ?_⟩
          obtain ⟨known, first, same⟩ := foretold wanted explained
          refine ⟨known, first, ?_⟩
          rw [same]

/-- The driver over TCP is the driver over a link: commands end over TCP connections as they do
over a link that loses requests and answers and cuts frames short, and no frame is ever taken for
the answer to another request.  Frames are spoiled only if the unit refuses requests or closes
connections. -/
theorem tcp_refines_link (tcp : device.endpoint = .tcp host port options)
    (frames : SendsFrames lib device unit) {careful : RegisterMemory → BusAction → Prop}
    {memory : RegisterMemory} {turns : Nat → TcpTurn} {bus : ModbusBus TcpLink}
    (run : Run (Acts lib policy (tcpMedium wire device.endpoint persistent unit) device)
      (fun before => careful before.link.memory) (.begin ⟨memory, none, turns⟩) bus) :
    ∃ fates link,
      Run (Acts lib policy (linkMedium unit) device) (fun before => careful before.link.memory)
        (.begin ⟨memory, fates⟩) ⟨link, bus.log⟩ ∧
      link.memory = bus.link.memory ∧
      ((∀ place, (turns place).Plain) → ∀ place, ¬(fates place).Spoiled) := by
  have final : SameLog bus ⟨⟨bus.link.memory, fun _ => .answered⟩, bus.log⟩ :=
    ⟨⟨rfl, fun _ _ => id⟩, rfl⟩
  have foretold : ∃ begun, SameLog (.begin ⟨memory, none, turns⟩) begun ∧
      Run (Acts lib policy (linkMedium unit) device) (fun before => careful before.link.memory)
        begun ⟨⟨bus.link.memory, fun _ => .answered⟩, bus.log⟩ := by
    refine run.backward (fun bus => bus.link.Clean) SameLog nofun (fun clean _ last => ?_)
      (fun clean met last wanted related => ?_) final
    · rw [last]
      exact (act_foretold tcp frames clean _).1
    · obtain ⟨wanted, log⟩ := wanted
      obtain ⟨explained, rfl⟩ := related
      rw [last] at explained ⊢
      obtain ⟨known, before, acted⟩ := (act_foretold tcp frames clean _).2 wanted explained
      refine ⟨⟨known, _⟩, ⟨before, rfl⟩, ?_, acted.symm⟩
      rw [before.memory]
      exact met
  obtain ⟨⟨⟨_, fates⟩, log⟩, ⟨⟨first, legible⟩, empty⟩, run⟩ := foretold
  cases first
  cases empty
  exact ⟨fates, _, run, rfl, legible⟩

end Running

theorem tcpUdpFrameLen_header (size : UInt16) (body : Bytes) :
    tcpUdpFrameLen ([0, 1, 0, 0] ++ ReferenceClient.wordBytes size ++ body) =
      some (size.toNat + 6) := by
  have whole := (List.cons.inj (words_wordBytes size)).1
  have sized : be16 (size >>> 8).toUInt8 size.toUInt8 = size.toNat :=
    (toNat_fromBeBytes _ _).symm.trans (congrArg UInt16.toNat whole)
  have plain : be16 0 0 = 0 := rfl
  simp [ReferenceClient.wordBytes, tcpUdpFrameLen, sized, plain]

/-- The reference client's frames say how long they are. -/
theorem counted_wrapped {pdu : Bytes} (short : pdu.length + 1 < 2 ^ 16) :
    Counted (ReferenceClient.wrap ⟨1, .tcpUdp, 0⟩ pdu) := by
  intro length known
  have size : (1 :: pdu : Bytes).length.toUInt16.toNat = pdu.length + 1 := Nat.mod_eq_of_lt short
  rw [ReferenceClient.wrap, tcpUdpFrameLen_header, size] at known
  obtain rfl := Option.some.inj known
  exact Nat.le_of_eq (by simp [ReferenceClient.wrap, ReferenceClient.wordBytes])

theorem gauge_sendsFrames : SendsFrames patternLibrary gaugeDevice gaugeUnit := by
  intro command request _ memory service
  cases service with
  | served =>
      obtain ⟨pdu, wrapped, short⟩ := gauge_reply request.frame memory
      rw [TcpTurn.respond, wrapped]
      exact counted_wrapped short
  | refused =>
      rw [TcpTurn.respond, gauge_exception]
      exact counted_wrapped (by simp)
  | ignored => exact nofun

/-- An attempt in which all goes well. -/
def smoothTurn : TcpTurn where
  connect := .ok ()
  write := .ok ()
  flush := .ok ()
  service := .served
  arriving := 100
  sizes := [4, 2]
  failure := some "TimedOut"

/-- The connection is found closed by the second attempt. -/
def gaugeTurns (place : Nat) : TcpTurn :=
  if place = 1 then { smoothTurn with service := .ignored, failure := none } else smoothTurn

def gaugeTcp : ModbusMedium TcpLink := tcpMedium refusingWire gaugeDevice.endpoint true gaugeUnit

/-- The bus after the write. -/
def writtenTcp : ModbusBus TcpLink :=
  (ModbusBus.begin ⟨⟨fun _ _ => 0⟩, none, gaugeTurns⟩).act patternLibrary gaugePolicy gaugeTcp
    gaugeDevice (.call writeGauge)

/-- The write is read back on a new connection, as it can be over a link. -/
theorem gaugeTcp_refines_link :
    (∃ response,
      (executeCommand patternLibrary gaugePolicy gaugeTcp gaugeDevice readGauge
        writtenTcp.link).1 = .returned (.ok response) ∧ response.frame = gaugeAnswer) ∧
    ∃ fates link,
      Run (ModbusBus.Acts patternLibrary gaugePolicy (linkMedium gaugeUnit) gaugeDevice)
        (fun _ _ => True) (.begin ⟨⟨fun _ _ => 0⟩, fates⟩)
        ⟨link, (writtenTcp.act patternLibrary gaugePolicy gaugeTcp gaugeDevice
          (.call readGauge)).log⟩ ∧
      link.memory = (writtenTcp.act patternLibrary gaugePolicy gaugeTcp gaugeDevice
        (.call readGauge)).link.memory ∧
      ((∀ place, (gaugeTurns place).Plain) → ∀ place, ¬(fates place).Spoiled) := by
  refine ⟨⟨_, rfl, rfl⟩, ?_⟩
  have run : Run (ModbusBus.Acts patternLibrary gaugePolicy gaugeTcp gaugeDevice)
      (fun _ _ => True) (.begin ⟨⟨fun _ _ => 0⟩, none, gaugeTurns⟩)
      (writtenTcp.act patternLibrary gaugePolicy gaugeTcp gaugeDevice (.call readGauge)) :=
    ((Run.refl _).perform (.call writeGauge) trivial rfl).perform (.call readGauge) trivial rfl
  exact @tcp_refines_link patternLibrary refusingWire gaugeDevice gaugeUnit true gaugePolicy
    "10.0.0.7" 502 _ rfl gauge_sendsFrames (fun _ _ => True) _ _ _ run

end Modbus
end Ferredge
