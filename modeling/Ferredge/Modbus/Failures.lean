import Ferredge.Modbus.Stack

/-!
# Failures that are retried

Whether a failed exchange is retried is read off the text of its error.  The texts of one operation
of the datagram transport and of the setting of timeouts are not among those that are retried.
-/

namespace Ferredge

open Retrying

/-- An operation on the network or on a serial port. -/
inductive IoStep where
  | connect
  | bind
  | openPort
  | setReadTimeout
  | setWriteTimeout
  | send
  | write
  | flush
  | read
  | receive
  deriving DecidableEq

namespace IoStep

/-- The operation is retried when it fails. -/
def isRetried : IoStep → Bool
  | setReadTimeout | setWriteTimeout | receive => false
  | connect | bind | openPort | send | write | flush | read => true

end IoStep

namespace Modbus

/-- An exchange on a stream fails in the given operation. -/
inductive StreamFailure (lib : RmodbusWire) (wire : StreamWire) (request : ModbusRequest)
    (stream : StreamSocket) : IoStep → Prop
  | write {error : String} {writes : List (Except String Unit)} :
      stream.writes = .error error :: writes → StreamFailure lib wire request stream .write
  | flush {error : String} {writes flushes : List (Except String Unit)} :
      stream.writes = .ok () :: writes → stream.flushes = .error error :: flushes →
        StreamFailure lib wire request stream .flush
  | read {error : String} {written : StreamSocket} {unread : List StreamRead} :
      writeStreamRequest wire.label request.frame stream = some (.ok (), written) →
      readStreamResponse lib wire.side request.proto written.reads =
        some (.error error, unread) →
        StreamFailure lib wire request stream .read

/-- An exchange of datagrams fails in the given operation. -/
inductive DatagramFailure (socket : DatagramSocket) : IoStep → Prop
  | setReadTimeout {error : String} :
      socket.readTimeout = .error error → DatagramFailure socket .setReadTimeout
  | send {error : String} {sends : List (Except String Unit)} :
      socket.readTimeout = .ok () → socket.sends = .error error :: sends →
        DatagramFailure socket .send
  | receive {error : String} {arrivals : List DatagramArrival} :
      Awaits socket → socket.arrivals = .failed error :: arrivals →
        DatagramFailure socket .receive

/-- Opening a stream fails in the given operation. -/
inductive OpeningFailure (world : StackWorld) : StreamSide → IoStep → Prop
  | connect {error : String} {connects : List TcpOpen} :
      world.connects = .unreachable error :: connects → OpeningFailure world .socket .connect
  | setReadTimeout {error : String} {connects : List TcpOpen} :
      world.connects = .noReadTimeout error :: connects →
        OpeningFailure world .socket .setReadTimeout
  | setWriteTimeout {error : String} {connects : List TcpOpen} :
      world.connects = .noWriteTimeout error :: connects →
        OpeningFailure world .socket .setWriteTimeout
  | openPort {error : String} {ports : List (Except String StreamSocket)} :
      world.ports = .error error :: ports → OpeningFailure world .serial .openPort

/-- A call fails in the given operation: in opening a stream, in the exchange on the one that it
reuses or opens, in binding a datagram socket, or in the exchange on that. -/
inductive CallFailure (lib : RmodbusWire) (before : StackState) (call : StackCall) :
    IoStep → Prop
  | opening {wire : StreamWire} {step : IoStep} :
      stackWire lib call.endpoint = some wire → reuses wire call before.session = false →
        OpeningFailure before.world wire.side step → CallFailure lib before call step
  | reused {wire : StreamWire} {kept : StackSession} {step : IoStep} :
      stackWire lib call.endpoint = some wire → reuses wire call before.session = true →
        before.session = some kept →
        StreamFailure lib wire call.request kept.connection.stream step →
        CallFailure lib before call step
  | opened {wire : StreamWire} {stream : StreamSocket} {step : IoStep} :
      stackWire lib call.endpoint = some wire → reuses wire call before.session = false →
        nextOpening wire before.world = some (.opened stream) →
        StreamFailure lib wire call.request stream step → CallFailure lib before call step
  | bind {error : String} {binds : List (Except String DatagramSocket)} :
      stackWire lib call.endpoint = none → before.world.binds = .error error :: binds →
        CallFailure lib before call .bind
  | datagram {socket : DatagramSocket} {binds : List (Except String DatagramSocket)}
      {step : IoStep} :
      stackWire lib call.endpoint = none → before.world.binds = .ok socket :: binds →
        DatagramFailure socket step → CallFailure lib before call step

/-- The text is classified as retryable, so that the driver makes another attempt if its budget
allows one. -/
structure RetriesAfter (message : String) : Prop where
  retryable : isRetryableTransportError message = true
  retried : ∀ {σ : Type} (policy : ModbusReconnectPolicy) (isWrite : Bool)
    (execute : σ → Except String Bytes × σ) (world : σ), (execute world).1 = .error message →
      1 < requestAttemptBudget policy.toModbusReconnectConfig isWrite →
        1 < (ModbusDriver.executeOnEndpoint policy isWrite true execute world).outcomes.length

/-! ## Texts -/

theorem startsWith_append_left {text lead : String} (starts : startsWith text lead = true)
    (rest : String) : startsWith (text ++ rest) lead = true := by
  rw [startsWith, List.isPrefixOf_iff_prefix] at starts
  rw [startsWith, String.toList_append, List.isPrefixOf_iff_prefix]
  exact starts.trans (List.prefix_append _ _)

/-- A text whose beginning differs from the lead does not start with it. -/
theorem startsWith_of_differ {text lead : String} (shorter : startsWith text lead = false)
    (longer : startsWith lead text = false) (rest : String) :
    startsWith (text ++ rest) lead = false := by
  refine Bool.eq_false_iff.mpr fun starts => ?_
  rw [startsWith, String.toList_append, List.isPrefixOf_iff_prefix] at starts
  rcases List.prefix_or_prefix_of_prefix starts (List.prefix_append text.toList rest.toList) with
    within | beyond
  · exact Bool.false_ne_true (shorter.symm.trans (List.isPrefixOf_iff_prefix.mpr within))
  · exact Bool.false_ne_true (longer.symm.trans (List.isPrefixOf_iff_prefix.mpr beyond))

/-- The leads of the texts that are retried. -/
def retryableLeads : List String :=
  ["failed to connect ", "failed to bind ", "failed to open ", "failed to send ",
    "failed to write ", "failed to flush ", "failed to read "]

theorem isRetryableTransportError_iff (message : String) :
    isRetryableTransportError message = true ↔
      ∃ lead ∈ retryableLeads, startsWith message lead = true := by
  simp [isRetryableTransportError, retryableLeads, or_assoc]

theorem retryable_append {text : String} (retryable : isRetryableTransportError text = true)
    (rest : String) : isRetryableTransportError (text ++ rest) = true := by
  obtain ⟨lead, listed, starts⟩ := (isRetryableTransportError_iff text).mp retryable
  exact (isRetryableTransportError_iff _).mpr ⟨lead, listed, startsWith_append_left starts rest⟩

theorem not_retryable_append {text : String}
    (differ : ∀ lead ∈ retryableLeads,
      startsWith text lead = false ∧ startsWith lead text = false) (rest : String) :
    isRetryableTransportError (text ++ rest) = false := by
  refine Bool.eq_false_iff.mpr fun retryable => ?_
  obtain ⟨lead, listed, starts⟩ := (isRetryableTransportError_iff _).mp retryable
  obtain ⟨shorter, longer⟩ := differ lead listed
  exact Bool.false_ne_true ((startsWith_of_differ shorter longer rest).symm.trans starts)

/-- A failed read is always reported as one. -/
theorem readLoop_eq_error {lib : RmodbusWire} {side : StreamSide} {proto : ModbusProto}
    {frame : Bytes} {reads unread : List StreamRead} {error : String}
    (failed : readLoop lib side proto frame reads = some (.error error, unread)) :
    ∃ reason, error = readFailure side reason := by
  induction reads generalizing frame with
  | nil => cases failed
  | cons first reads ih =>
      cases first with
      | closed =>
          rw [readLoop] at failed
          split at failed <;> cases failed
          exact ⟨_, rfl⟩
      | failed reason =>
          cases failed
          exact ⟨_, rfl⟩
      | bytes chunk =>
          rw [readLoop] at failed
          split_ifs at failed
          · cases failed
            exact ⟨_, rfl⟩
          · cases failed
          · cases failed
            exact ⟨_, rfl⟩
          · cases failed
          · exact ih failed

/-! ## Operations -/

section Operations

variable {lib : RmodbusWire} {wire : StreamWire} {request : ModbusRequest} {step : IoStep}

/-- The result is an error whose text is retried as the operation is. -/
def FailsAs {σ : Type} (step : IoStep) (result : Option (Except String Bytes × σ)) : Prop :=
  ∃ message after, result = some (.error message, after) ∧
    isRetryableTransportError message = step.isRetried

theorem FailsAs.map {σ τ : Type} {result : Option (Except String Bytes × σ)}
    {change : Except String Bytes × σ → Except String Bytes × τ} (fails : FailsAs step result)
    (keeps : ∀ message after, (change (.error message, after)).1 = .error message) :
    FailsAs step (result.map change) := by
  obtain ⟨message, after, rfl, text⟩ := fails
  exact ⟨message, (change (.error message, after)).2,
    congrArg some (Prod.ext (keeps message after) rfl), text⟩

/-- The texts of a stream name the stream's wire. -/
theorem retryable_labelled {lead : String} (retryable : isRetryableTransportError lead = true)
    (label error : String) :
    isRetryableTransportError (lead ++ label ++ " request: " ++ error) = true :=
  retryable_append (retryable_append (retryable_append retryable label) _) error

theorem exchange_failsAs {stream : StreamSocket}
    (fails : StreamFailure lib wire request stream step) :
    FailsAs step (exchange lib wire request stream) := by
  cases fails with
  | @write error writes refused =>
      refine ⟨"failed to write " ++ wire.label ++ " request: " ++ error, { stream with writes }, ?_,
        retryable_labelled (by decide +kernel) wire.label error⟩
      simp only [exchange, writeStreamRequest, refused]
      rfl
  | @flush error writes flushes accepted refused =>
      refine ⟨"failed to flush " ++ wire.label ++ " request: " ++ error,
        { stream with writes, flushes, sent := stream.sent ++ request.frame }, ?_,
        retryable_labelled (by decide +kernel) wire.label error⟩
      simp only [exchange, writeStreamRequest, accepted, refused]
      rfl
  | @read error written unread sent refused =>
      obtain ⟨reason, rfl⟩ := readLoop_eq_error refused
      refine ⟨readFailure wire.side reason, { written with reads := unread }, ?_,
        retryable_readFailure wire.side reason⟩
      simp only [exchange, sent, refused, Option.bind_eq_bind, Option.bind_some]
      rfl

theorem exchangeDatagrams_failsAs {socket : DatagramSocket} {address : String} {frame : Bytes}
    (fails : DatagramFailure socket step) :
    FailsAs step (exchangeDatagrams address frame socket) := by
  cases fails with
  | @setReadTimeout error refused =>
      refine ⟨datagramTimeoutFailure error, socket, ?_,
        not_retryable_append (by decide +kernel) error⟩
      rw [exchangeDatagrams, refused]
  | @send error sends set refused =>
      refine ⟨sendFailure error,
        { socket with sends, sent := socket.sent ++ [(address, frame)] }, ?_,
        retryable_append (by decide +kernel) error⟩
      simp only [exchangeDatagrams, set, refused]
  | @receive error arrivals awaits refused =>
      refine ⟨receiveFailure error, { socket with
        sends := socket.sends.tail, sent := socket.sent ++ [(address, frame)], arrivals }, ?_,
        not_retryable_append (by decide +kernel) error⟩
      rw [exchangeDatagrams_of_awaits awaits, refused]
      rfl

/-- The texts of an opening that fails, whether a connection is given up or never made. -/
theorem openStream_failsAs {world : StackWorld} (fails : OpeningFailure world wire.side step) :
    ∃ message after, isRetryableTransportError message = step.isRetried ∧
      (openStream wire world = some (.refused message, after) ∨
        openStream wire world = some (.abandoned message, after)) := by
  obtain ⟨side, label, decode⟩ := wire
  cases fails with
  | @connect error connects refused =>
      refine ⟨"failed to connect Modbus TCP socket: " ++ error, { world with connects },
        retryable_append (by decide +kernel) error, .inl ?_⟩
      simp only [openStream, refused]
      rfl
  | @setReadTimeout error connects refused =>
      refine ⟨"failed to set Modbus TCP read timeout: " ++ error, { world with connects },
        not_retryable_append (by decide +kernel) error, .inr ?_⟩
      simp only [openStream, refused]
      rfl
  | @setWriteTimeout error connects refused =>
      refine ⟨"failed to set Modbus TCP write timeout: " ++ error, { world with connects },
        not_retryable_append (by decide +kernel) error, .inr ?_⟩
      simp only [openStream, refused]
      rfl
  | @openPort error ports refused =>
      refine ⟨"failed to open " ++ label ++ " serial port: " ++ error, { world with ports },
        retryable_append (retryable_append (retryable_append (by decide +kernel) label) _) error,
        .inl ?_⟩
      simp only [openStream, refused]
      rfl

theorem exchangeOn_failsAs {connection : Connection} (persistent : Bool) (world : StackWorld)
    (fails : StreamFailure lib wire request connection.stream step) :
    FailsAs step (exchangeOn lib wire persistent request connection world) :=
  (exchange_failsAs fails).map fun _ _ => rfl

/-- A call that opens a connection fails in opening it or in the exchange on it. -/
theorem exchangeOnNew_failsAs (persistent : Bool) {world : StackWorld}
    (fails : OpeningFailure world wire.side step ∨
      ∃ stream, nextOpening wire world = some (.opened stream) ∧
        StreamFailure lib wire request stream step) :
    FailsAs step (exchangeOnNew lib wire persistent request world) := by
  rcases fails with opening | ⟨stream, next, exchanging⟩
  · obtain ⟨message, after, text, refused | abandoned⟩ := openStream_failsAs opening
    · refine ⟨message, (none, after), ?_, text⟩
      rw [exchangeOnNew, refused]
      rfl
    · refine ⟨message, (none, after.countOpened), ?_, text⟩
      rw [exchangeOnNew, abandoned]
      rfl
  · obtain ⟨after, opened⟩ := openStream_of_nextOpening next
    rw [exchangeOnNew, opened]
    exact exchangeOn_failsAs persistent after.countOpened exchanging

/-- Closing connections does not change what is opened next. -/
theorem OpeningFailure.of_same {world other : StackWorld} {side : StreamSide}
    (fails : OpeningFailure world side step) (connects : other.connects = world.connects)
    (ports : other.ports = world.ports) : OpeningFailure other side step := by
  cases fails with
  | connect refused => exact .connect (connects.trans refused)
  | setReadTimeout refused => exact .setReadTimeout (connects.trans refused)
  | setWriteTimeout refused => exact .setWriteTimeout (connects.trans refused)
  | openPort refused => exact .openPort (ports.trans refused)

/-- A call for datagrams fails in binding a socket or in the exchange on it. -/
theorem callDatagram_failsAs {endpoint : ModbusEndpoint} {world : StackWorld}
    (served : stackWire lib endpoint = none)
    (fails : (∃ error binds, world.binds = .error error :: binds ∧ step = .bind) ∨
      ∃ socket binds, world.binds = .ok socket :: binds ∧ DatagramFailure socket step) :
    FailsAs step (callDatagram endpoint request world) := by
  cases endpoint with
  | tcp | rtuOverTcp | rtu | ascii => cases served
  | udp addr port options =>
      rcases fails with ⟨error, binds, refused, rfl⟩ | ⟨socket, binds, bound, failed⟩
      · rw [callDatagram, refused]
        exact ⟨bindFailure error, _, rfl, retryable_append (by decide +kernel) error⟩
      · rw [callDatagram, bound]
        exact ((exchangeDatagrams_failsAs failed).map fun _ _ => rfl).map fun _ _ => rfl

/-- Every failed operation ends the call with an error whose text is retried as it is. -/
theorem execute_failsAs {before : StackState} {call : StackCall}
    (fails : CallFailure lib before call step) :
    FailsAs step (StackTransport.execute lib call.endpoint call.persistent call.request
      before.session before.world) := by
  have anew {wire : StreamWire} (served : stackWire lib call.endpoint = some wire)
      (opens : reuses wire call before.session = false)
      (fails : OpeningFailure before.world wire.side step ∨
        ∃ stream, nextOpening wire before.world = some (.opened stream) ∧
          StreamFailure lib wire call.request stream step) :
      FailsAs step (StackTransport.execute lib call.endpoint call.persistent call.request
        before.session before.world) := by
    have called : (call.persistent &&
        (takeSession wire.side before.session before.world).1.isSome) = false := by
      rw [takeSession_isSome]
      exact opens
    obtain ⟨closed, same⟩ := takeSession_closeStale wire.side before.session before.world
    simp only [StackTransport.execute, served]
    refine FailsAs.map ?_ fun _ _ => rfl
    rw [callStream_anew called, same]
    refine exchangeOnNew_failsAs call.persistent (fails.imp (fun opening => ?_) fun opened => ?_)
    · exact opening.of_same rfl rfl
    · exact opened
  cases fails with
  | opening served opens failed => exact anew served opens (.inl failed)
  | opened served opens next failed => exact anew served opens (.inr ⟨_, next, failed⟩)
  | @reused wire kept _ served again held failed =>
      obtain ⟨lasting, matching⟩ := (Bool.and_eq_true _ _).mp again
      rw [held] at matching
      have side : kept.side = wire.side := by simpa using matching
      simp only [StackTransport.execute, served, held, lasting, takeSession, side, if_true]
      exact (exchangeOn_failsAs true before.world failed).map fun _ _ => rfl
  | @bind error binds served refused =>
      simp only [StackTransport.execute, served]
      refine FailsAs.map (callDatagram_failsAs served (.inl ⟨error, binds, refused, rfl⟩)) ?_
      exact fun _ _ => rfl
  | @datagram socket binds _ served bound failed =>
      simp only [StackTransport.execute, served]
      refine FailsAs.map (callDatagram_failsAs served (.inr ⟨socket, binds, bound, failed⟩)) ?_
      exact fun _ _ => rfl

/-! ## No other failures -/

theorem exists_streamFailure {stream after : StreamSocket} {message : String}
    (failed : exchange lib wire request stream = some (.error message, after)) :
    (∃ step, StreamFailure lib wire request stream step) ∨
      ∃ raw, wire.decode raw = .error message := by
  obtain ⟨⟨written, sent⟩, wrote, rest⟩ := Option.bind_eq_some_iff.mp failed
  cases written with
  | error error =>
      left
      rcases writes : stream.writes with _ | ⟨refused | accepted, others⟩
      · rw [writeStreamRequest, writes] at wrote
        cases wrote
      · exact ⟨.write, .write writes⟩
      · rcases flushes : stream.flushes with _ | ⟨refused | accepted, more⟩
        · simp only [writeStreamRequest, writes, flushes] at wrote
          cases wrote
        · exact ⟨.flush, .flush writes flushes⟩
        · simp only [writeStreamRequest, writes, flushes] at wrote
          cases wrote
  | ok =>
      obtain ⟨⟨raw, unread⟩, read, shape⟩ := Option.bind_eq_some_iff.mp rest
      cases raw with
      | error error => exact .inl ⟨.read, .read wrote read⟩
      | ok raw => exact .inr ⟨raw, congrArg Prod.fst (Option.some.inj shape)⟩

theorem exists_exchangeFailure {persistent : Bool} {connection : Connection} {message : String}
    {kept : Option Connection} {world after : StackWorld}
    (failed : exchangeOn lib wire persistent request connection world =
      some (.error message, kept, after)) :
    (∃ step, StreamFailure lib wire request connection.stream step) ∨
      ∃ raw, wire.decode raw = .error message := by
  obtain ⟨⟨outcome, stream⟩, exchanged, shape⟩ := Option.map_eq_some_iff.mp failed
  cases outcome with
  | error error =>
      cases shape
      exact exists_streamFailure exchanged
  | ok frame => cases shape

theorem exists_datagramFailure {socket after : DatagramSocket} {address message : String}
    {frame : Bytes}
    (failed : exchangeDatagrams address frame socket = some (.error message, after)) :
    ∃ step, DatagramFailure socket step := by
  rcases readTimeout : socket.readTimeout with refused | ⟨⟩
  · exact ⟨.setReadTimeout, .setReadTimeout readTimeout⟩
  · rcases sends : socket.sends with _ | ⟨refused | ⟨⟩, others⟩
    · simp only [exchangeDatagrams, readTimeout, sends] at failed
      cases failed
    · exact ⟨.send, .send readTimeout sends⟩
    · have awaits : Awaits socket := ⟨readTimeout, congrArg List.head? sends⟩
      rw [exchangeDatagrams_of_awaits awaits] at failed
      rcases arrivals : socket.arrivals with _ | ⟨⟨peer, bytes⟩ | refused, later⟩
      · rw [arrivals] at failed
        cases failed
      · rw [arrivals] at failed
        cases failed
      · exact ⟨.receive, .receive awaits arrivals⟩

theorem exists_callDatagramFailure {endpoint : ModbusEndpoint} {socket : DatagramSocket}
    {world after : StackWorld} {binds : List (Except String DatagramSocket)} {message : String}
    (served : stackWire lib endpoint = none) (bound : world.binds = .ok socket :: binds)
    (failed : callDatagram endpoint request world = some (.error message, after)) :
    ∃ step, DatagramFailure socket step := by
  cases endpoint with
  | tcp | rtuOverTcp | rtu | ascii => cases served
  | udp addr port options =>
      rw [callDatagram, bound] at failed
      obtain ⟨⟨outcome, last⟩, executed, shape⟩ := Option.map_eq_some_iff.mp failed
      obtain ⟨rfl, -⟩ := Prod.mk.inj shape
      obtain ⟨⟨response, left⟩, exchanged, same⟩ := Option.map_eq_some_iff.mp executed
      obtain ⟨rfl, -⟩ := Prod.mk.inj same
      exact exists_datagramFailure exchanged

theorem exists_openingFailure {world after : StackWorld} {message : String}
    (failed : openStream wire world = some (.refused message, after) ∨
      openStream wire world = some (.abandoned message, after)) :
    ∃ step, OpeningFailure world wire.side step := by
  obtain ⟨side, label, decode⟩ := wire
  cases side with
  | socket =>
      rcases connects : world.connects with _ | ⟨outcome, later⟩
      · simp [openStream, connects] at failed
      · cases outcome with
        | unreachable error => exact ⟨.connect, .connect connects⟩
        | noReadTimeout error => exact ⟨.setReadTimeout, .setReadTimeout connects⟩
        | noWriteTimeout error => exact ⟨.setWriteTimeout, .setWriteTimeout connects⟩
        | opened socket => simp [openStream, connects, tcpOpening, openSocket] at failed
  | serial =>
      rcases ports : world.ports with _ | ⟨outcome, later⟩
      · simp [openStream, ports] at failed
      · cases outcome with
        | error error => exact ⟨.openPort, .openPort ports⟩
        | ok port => simp [openStream, ports, portOpening, openPort] at failed

theorem exists_callFailure_anew {persistent : Bool} {world : StackWorld} {message : String}
    {kept : Option Connection} {after : StackWorld}
    (failed : exchangeOnNew lib wire persistent request world =
      some (.error message, kept, after)) :
    (∃ step, OpeningFailure world wire.side step ∨
        ∃ stream, nextOpening wire world = some (.opened stream) ∧
          StreamFailure lib wire request stream step) ∨
      ∃ raw, wire.decode raw = .error message := by
  obtain ⟨⟨opening, later⟩, opened, rest⟩ := Option.bind_eq_some_iff.mp failed
  cases opening with
  | refused error =>
      obtain ⟨step, refused⟩ := exists_openingFailure (.inl opened)
      exact .inl ⟨step, .inl refused⟩
  | abandoned error =>
      obtain ⟨step, refused⟩ := exists_openingFailure (.inr opened)
      exact .inl ⟨step, .inl refused⟩
  | opened stream =>
      have next := nextOpening_of_openStream opened
      rcases exists_exchangeFailure rest with ⟨step, broken⟩ | undecodable
      · exact .inl ⟨step, .inr ⟨stream, next, broken⟩⟩
      · exact .inr undecodable

/-- Every error that a call returns is that of a failed operation, or of the decoding of a response
that was read. -/
theorem exists_callFailure {before after : StackState} {call : StackCall} {message : String}
    (returned : Returns lib before call (.error message) after) :
    (∃ step, CallFailure lib before call step) ∨
      ∃ wire raw, stackWire lib call.endpoint = some wire ∧ wire.decode raw = .error message := by
  cases served : stackWire lib call.endpoint with
  | none =>
      left
      obtain ⟨-, called⟩ := returned.datagram served
      rcases binds : before.world.binds with _ | ⟨refused | socket, later⟩
      · rw [callDatagram, binds] at called
        cases called
      · exact ⟨.bind, .bind served binds⟩
      · obtain ⟨step, failed⟩ := exists_callDatagramFailure served binds called
        exact ⟨step, .datagram served binds failed⟩
  | some wire =>
      obtain ⟨kept, -, called⟩ := returned.stream served
      cases opens : reuses wire call before.session with
      | false =>
          have anew : (call.persistent &&
              (takeSession wire.side before.session before.world).1.isSome) = false := by
            rw [takeSession_isSome]
            exact opens
          obtain ⟨closed, same⟩ := takeSession_closeStale wire.side before.session before.world
          rw [callStream_anew anew, same] at called
          rcases exists_callFailure_anew called with ⟨step, failed⟩ | ⟨raw, undecodable⟩
          · left
            rcases failed with refused | ⟨stream, next, broken⟩
            · exact ⟨step, .opening served opens (refused.of_same rfl rfl)⟩
            · exact ⟨step, .opened served opens next broken⟩
          · exact .inr ⟨wire, raw, rfl, undecodable⟩
      | true =>
          obtain ⟨lasting, matching⟩ := (Bool.and_eq_true _ _).mp opens
          cases held : before.session with
          | none =>
              rw [held] at matching
              cases matching
          | some session =>
              rw [held] at matching
              have side : session.side = wire.side := by simpa using matching
              simp only [held, takeSession, side, if_true, lasting] at called
              rcases exists_exchangeFailure called with ⟨step, broken⟩ | ⟨raw, undecodable⟩
              · exact .inl ⟨step, .reused served opens held broken⟩
              · exact .inr ⟨wire, raw, rfl, undecodable⟩

/-- The driver goes on after exactly the failures whose texts are classified as retryable. -/
theorem retriesAfter_iff (message : String) :
    RetriesAfter message ↔ isRetryableTransportError message = true := by
  refine ⟨fun retries => retries.retryable, fun retryable => ⟨retryable, ?_⟩⟩
  intro σ policy isWrite execute world failed more
  obtain ⟨made, -⟩ := ModbusDriver.executeOnEndpoint_follows policy isWrite execute world
  exact made.one_lt_length more failed retryable

/-- A failed operation is retried by the driver exactly if it is neither the receiving of a datagram
nor the setting of a timeout. -/
theorem callFailure_retried_iff {before : StackState} {call : StackCall}
    (fails : CallFailure lib before call step) :
    (∃ message after, Returns lib before call (.error message) after ∧ RetriesAfter message) ↔
      step ≠ .receive ∧ step ≠ .setReadTimeout ∧ step ≠ .setWriteTimeout := by
  obtain ⟨message, ⟨session, world⟩, returned, text⟩ := execute_failsAs fails
  have retried : step.isRetried = true ↔
      step ≠ .receive ∧ step ≠ .setReadTimeout ∧ step ≠ .setWriteTimeout := by
    cases step <;> decide
  rw [← retried, ← text, ← retriesAfter_iff]
  constructor
  · rintro ⟨other, after, returned', retries⟩
    cases returned.symm.trans returned'
    exact retries
  · exact fun retries => ⟨message, ⟨session, world⟩, returned, retries⟩

end Operations

/-- A stack on which connections break when they are written to, and no datagram arrives in time. -/
def brokenStack : StackState :=
  .begin [.opened { answeringStream with writes := [.error "Closed"] }] []
    [.ok (meterSocket [.failed "TimedOut"])]

def meterUdp : ModbusEndpoint := .udp "10.0.0.5" 502 meterOptions

/-- A connection that breaks is retried. -/
theorem brokenWrite_retried :
    ∃ message after,
      Returns refusingWire brokenStack (meterCall meterTcp false) (.error message) after ∧
        RetriesAfter message := by
  have fails : CallFailure refusingWire brokenStack (meterCall meterTcp false) .write :=
    .opened rfl rfl rfl (.write rfl)
  exact (callFailure_retried_iff fails).mpr (by decide)

/-- A response by datagram that does not arrive in time is not retried. -/
theorem lateDatagram_given_up :
    CallFailure refusingWire brokenStack (meterCall meterUdp false) .receive ∧
      Returns refusingWire brokenStack (meterCall meterUdp false)
        (.error "failed to receive Modbus UDP response: TimedOut")
        (afterCall refusingWire brokenStack (meterCall meterUdp false)) ∧
      isRetryableTransportError "failed to receive Modbus UDP response: TimedOut" = false :=
  ⟨.datagram rfl rfl (.receive ⟨rfl, rfl⟩ rfl), rfl, by decide⟩

end Modbus
end Ferredge
