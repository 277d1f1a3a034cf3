import Ferredge.Modbus.Attempts
import Ferredge.Modbus.Datagram
import Ferredge.Transition

/-!
# The Modbus stack transport

All endpoints are served by one transport that keeps one session.  Stream sockets and serial ports
are numbered as they are opened, and it is recorded which of them have been closed.
-/

namespace Ferredge

open Transition

/-- An opened stream socket or serial port. -/
structure Connection where
  number : Nat
  stream : StreamSocket

/-- The session kept between requests. -/
inductive StackSession where
  | tcp (socket : Connection)
  | serial (port : Connection)

namespace StackSession

def side : StackSession → StreamSide
  | tcp _ => .socket
  | serial _ => .serial

def connection : StackSession → Connection
  | tcp socket => socket
  | serial port => port

def number (session : StackSession) : Nat := session.connection.number

/-- The session of one side. -/
def ofSide : StreamSide → Connection → StackSession
  | .socket => tcp
  | .serial => serial

@[simp]
theorem side_ofSide (side : StreamSide) (connection : Connection) :
    (ofSide side connection).side = side := by
  cases side <;> rfl

@[simp]
theorem connection_ofSide (side : StreamSide) (connection : Connection) :
    (ofSide side connection).connection = connection := by
  cases side <;> rfl

end StackSession

/-- What opening a stream comes to: nothing is opened, or a connection that is given up before its
first use, or one that can be used. -/
inductive Opening where
  | refused (error : String)
  | abandoned (error : String)
  | opened (stream : StreamSocket)

/-- The network and the serial stack: what opening comes to later, how many streams have been opened
and which of them have been closed, and the requests handed over to be sent. -/
structure StackWorld where
  connects : List Modbus.TcpOpen
  ports : List (Except String StreamSocket)
  binds : List (Except String DatagramSocket)
  opened : Nat
  closed : List Nat
  sent : List Bytes

namespace StackWorld

def close (number : Nat) (world : StackWorld) : StackWorld :=
  { world with closed := world.closed ++ [number] }

/-- Closes a connection, if there is one. -/
def closeStale (stale : Option Connection) (world : StackWorld) : StackWorld :=
  match stale with
  | some connection => world.close connection.number
  | none => world

def send (frame : Bytes) (world : StackWorld) : StackWorld :=
  { world with sent := world.sent ++ [frame] }

def countOpened (world : StackWorld) : StackWorld := { world with opened := world.opened + 1 }

end StackWorld

namespace Modbus

/-- The connection is made, whether it can be used or not. -/
def TcpOpen.connected : TcpOpen → Bool
  | .unreachable _ => false
  | .noReadTimeout _ | .noWriteTimeout _ | .opened _ => true

def tcpOpening (outcome : TcpOpen) : Opening :=
  match openSocket outcome with
  | .ok socket => .opened socket
  | .error error => if outcome.connected then .abandoned error else .refused error

def portOpening (label : String) (outcome : Except String StreamSocket) : Opening :=
  match openPort label outcome with
  | .ok port => .opened port
  | .error error => .refused error

/-- Opens a stream socket or a serial port. -/
def openStream (wire : StreamWire) (world : StackWorld) : Option (Opening × StackWorld) :=
  match wire.side with
  | .socket =>
      match world.connects with
      | [] => none
      | outcome :: connects => some (tcpOpening outcome, { world with connects })
  | .serial =>
      match world.ports with
      | [] => none
      | outcome :: ports => some (portOpening wire.label outcome, { world with ports })

/-- What an exchange comes to, the connection that is kept, and the world after it. -/
abbrev StreamCall := Except String Bytes × Option Connection × StackWorld

/-- Exchanges on a connection, which is closed if that fails and kept if the endpoint is
persistent. -/
def exchangeOn (lib : RmodbusWire) (wire : StreamWire) (persistent : Bool)
    (request : ModbusRequest) (connection : Connection) (world : StackWorld) : Option StreamCall :=
  (exchange lib wire request connection.stream).map fun (outcome, stream) =>
    match outcome with
    | .ok frame =>
        (.ok frame, if persistent then some { connection with stream } else none,
          world.send request.frame)
    | .error error => (.error error, none, (world.send request.frame).close connection.number)

/-- Opens a connection and exchanges on it. -/
def exchangeOnNew (lib : RmodbusWire) (wire : StreamWire) (persistent : Bool)
    (request : ModbusRequest) (world : StackWorld) : Option StreamCall := do
  let (opening, world) ← openStream wire world
  match opening with
  | .refused error => some (.error error, none, world)
  | .abandoned error => some (.error error, none, world.countOpened)
  | .opened stream =>
      exchangeOn lib wire persistent request ⟨world.opened, stream⟩ world.countOpened

/-- Exchanges on the session of a persistent endpoint, or else on a new connection. -/
def callStream (lib : RmodbusWire) (wire : StreamWire) (persistent : Bool)
    (request : ModbusRequest) (session : Option Connection) (world : StackWorld) :
    Option StreamCall :=
  match persistent, session with
  | true, some connection => exchangeOn lib wire true request connection world
  -- A session left from a persistent configuration is closed, not reused.
  | _, stale => exchangeOnNew lib wire persistent request (world.closeStale stale)

/-- A call that reuses no session exchanges on a new connection. -/
theorem callStream_anew {lib : RmodbusWire} {wire : StreamWire} {persistent : Bool}
    {session : Option Connection} (opens : (persistent && session.isSome) = false)
    (request : ModbusRequest) (world : StackWorld) :
    callStream lib wire persistent request session world =
      exchangeOnNew lib wire persistent request (world.closeStale session) := by
  cases persistent with
  | false => rw [callStream]; exact nofun
  | true =>
      cases session with
      | none => rw [callStream]; exact nofun
      | some connection => cases opens

/-- The wire of an endpoint that is served over a stream. -/
def stackWire (lib : RmodbusWire) : ModbusEndpoint → Option StreamWire
  | .tcp .. => some tcpWire
  | .rtuOverTcp .. => some rtuOverTcpWire
  | .rtu .. => some rtuWire
  | .ascii .. => some (asciiWire lib)
  | .udp .. => none

/-- The session as a connection of one side; a session of the other side is closed. -/
def takeSession (side : StreamSide) (session : Option StackSession) (world : StackWorld) :
    Option Connection × StackWorld :=
  match session with
  | some session =>
      if session.side = side then (some session.connection, world)
      else (none, world.close session.connection.number)
  | none => (none, world)

theorem takeSession_isSome (side : StreamSide) (session : Option StackSession)
    (world : StackWorld) : (takeSession side session world).1.isSome =
      session.any fun kept => decide (kept.side = side) := by
  cases session with
  | none => rfl
  | some session =>
      unfold takeSession
      by_cases same : session.side = side <;> simp [same]

/-- The world in which a call opens its connection differs in the connections closed. -/
theorem takeSession_closeStale (side : StreamSide) (session : Option StackSession)
    (world : StackWorld) :
    ∃ closed, (takeSession side session world).2.closeStale (takeSession side session world).1 =
      { world with closed } := by
  cases session with
  | none => exact ⟨_, rfl⟩
  | some session =>
      unfold takeSession
      by_cases same : session.side = side
      · simp only [same, if_true]
        exact ⟨_, rfl⟩
      · simp only [same, if_false]
        exact ⟨_, rfl⟩

/-- The datagrams that an exchange has handed over. -/
def datagramsSent : Except String DatagramSocket → Option DatagramSocket → List Bytes
  | .ok before, some after => (after.sent.drop before.sent.length).map Prod.snd
  | _, _ => []

/-- Binds a socket and exchanges datagrams on it. -/
def callDatagram (endpoint : ModbusEndpoint) (request : ModbusRequest) (world : StackWorld) :
    Option (Except String Bytes × StackWorld) :=
  match world.binds with
  | [] => none
  | bind :: binds =>
      (UdpTransport.execute endpoint request bind).map fun (outcome, socket) =>
        (outcome, { world with binds, sent := world.sent ++ datagramsSent bind socket })

/-- One request served by the stack transport. -/
def StackTransport.execute (lib : RmodbusWire) (endpoint : ModbusEndpoint) (persistent : Bool)
    (request : ModbusRequest) (session : Option StackSession) (world : StackWorld) :
    Option (Except String Bytes × Option StackSession × StackWorld) :=
  match stackWire lib endpoint with
  | some wire =>
      let (taken, world) := takeSession wire.side session world
      (callStream lib wire persistent request taken world).map fun (outcome, kept, world) =>
        (outcome, kept.map (StackSession.ofSide wire.side), world)
  | none =>
      (callDatagram endpoint request world).map fun (outcome, world) => (outcome, session, world)

/-- What opening a stream comes to later. -/
def openings (wire : StreamWire) (world : StackWorld) : List (Except String StreamSocket) :=
  match wire.side with
  | .socket => world.connects.map openSocket
  | .serial => world.ports.map (openPort wire.label)

/-- What a call comes to when connections are not told apart by their numbers. -/
def unnumbered (wire : StreamWire) : StreamCall → Exchanged
  | (outcome, kept, world) => (outcome, kept.map Connection.stream, openings wire world)

section Unnumbered

variable {lib : RmodbusWire} {wire : StreamWire} {request : ModbusRequest}

theorem exchangeOn_unnumbered (persistent : Bool) (connection : Connection) (world : StackWorld) :
    (exchangeOn lib wire persistent request connection world).map (unnumbered wire) =
      (exchange lib wire request connection.stream).map
        (settle persistent (openings wire world)) := by
  rw [exchangeOn, Option.map_map]
  congr 1
  funext ⟨outcome, stream⟩
  cases outcome with
  | error error => rfl
  | ok frame => cases persistent <;> rfl

theorem exchangeOnNew_unnumbered (persistent : Bool) (world : StackWorld) :
    (exchangeOnNew lib wire persistent request world).map (unnumbered wire) =
      executeStream lib wire persistent request none (openings wire world) := by
  obtain ⟨side, label, decode⟩ := wire
  have nothing (opens : List (Except String StreamSocket)) :
      takeSocket persistent none opens = opens.head?.map fun outcome => (outcome, opens.tail) := by
    cases persistent <;> cases opens <;> rfl
  rw [executeStream, nothing]
  obtain ⟨connects, ports, binds, opened, closed, sent⟩ := world
  cases side with
  | socket =>
      rcases connects with _ | ⟨outcome, connects⟩
      · rfl
      · cases outcome with
        | unreachable error => rfl
        | noReadTimeout error => rfl
        | noWriteTimeout error => rfl
        | opened socket => exact exchangeOn_unnumbered persistent ⟨opened, socket⟩ _
  | serial =>
      rcases ports with _ | ⟨outcome, ports⟩
      · rfl
      · cases outcome with
        | error error => rfl
        | ok port => exact exchangeOn_unnumbered persistent ⟨opened, port⟩ _

theorem openings_closeStale (stale : Option Connection) (world : StackWorld) :
    openings wire (world.closeStale stale) = openings wire world := by
  cases stale <;> rfl

/-- A call over a stream does what the stream transport does. -/
theorem callStream_unnumbered (persistent : Bool) (session : Option Connection)
    (world : StackWorld) :
    (callStream lib wire persistent request session world).map (unnumbered wire) =
      executeStream lib wire persistent request (session.map Connection.stream)
        (openings wire world) := by
  cases persistent with
  | false =>
      rw [callStream_anew rfl, exchangeOnNew_unnumbered, openings_closeStale]
      rfl
  | true =>
      cases session with
      | none =>
          rw [callStream_anew rfl, exchangeOnNew_unnumbered]
          rfl
      | some connection => exact exchangeOn_unnumbered true connection world

end Unnumbered

/-! ## Connections that are accounted for -/

/-- The state between two calls of a stack transport. -/
structure StackState where
  session : Option StackSession
  world : StackWorld

/-- One call of a stack transport. -/
structure StackCall where
  endpoint : ModbusEndpoint
  persistent : Bool
  request : ModbusRequest

/-- The call returns with this outcome and leaves this state. -/
def Returns (lib : RmodbusWire) (before : StackState) (call : StackCall)
    (outcome : Except String Bytes) (after : StackState) : Prop :=
  StackTransport.execute lib call.endpoint call.persistent call.request before.session
    before.world = some (outcome, after.session, after.world)

def StackStep (lib : RmodbusWire) (before : StackState) (call : StackCall) (after : StackState) :
    Prop :=
  ∃ outcome, Returns lib before call outcome after

/-- Every connection that was opened is the one that is held or has been closed. -/
def Accounted (held : Option Nat) (world : StackWorld) : Prop :=
  ∀ number < world.opened, held = some number ∨ number ∈ world.closed

/-- When a call has returned, all connections are accounted for, and one is kept only after a
successful exchange on a persistent endpoint that uses it. -/
structure Disposed (lib : RmodbusWire) (call : StackCall) (outcome : Except String Bytes)
    (after : StackState) : Prop where
  accounted : Accounted (after.session.map StackSession.number) after.world
  kept : ∀ session ∈ after.session, (∃ frame, outcome = .ok frame) ∧ call.persistent = true ∧
    (stackWire lib call.endpoint).map StreamWire.side = some session.side

/-- What opening a stream comes to next. -/
def nextOpening (wire : StreamWire) (world : StackWorld) : Option Opening :=
  match wire.side with
  | .socket => world.connects.head?.map tcpOpening
  | .serial => world.ports.head?.map (portOpening wire.label)

/-- The call uses the session that is kept. -/
def reuses (wire : StreamWire) (call : StackCall) (session : Option StackSession) : Bool :=
  call.persistent && session.any fun kept => decide (kept.side = wire.side)

/-- A call over a stream gives up no connection before its first use, and on an endpoint that is not
persistent its exchange fails. -/
structure TidyStream (lib : RmodbusWire) (wire : StreamWire) (before : StackState)
    (call : StackCall) : Prop where
  usable : reuses wire call before.session = false → ∀ error,
    nextOpening wire before.world ≠ some (.abandoned error)
  failing : call.persistent = false → ∀ stream,
    nextOpening wire before.world = some (.opened stream) → ∀ frame after,
      exchange lib wire call.request stream ≠ some (.ok frame, after)

/-- A call for datagrams finds no session, and one over a stream leaves no connection behind. -/
def Tidy (lib : RmodbusWire) (before : StackState) (call : StackCall) : Prop :=
  match stackWire lib call.endpoint with
  | some wire => TidyStream lib wire before call
  | none => before.session = none

section Accounts

variable {lib : RmodbusWire} {wire : StreamWire} {persistent : Bool} {request : ModbusRequest}
  {world after : StackWorld} {outcome : Except String Bytes} {kept : Option Connection}

/-- Opening a stream changes only what is opened later. -/
theorem openStream_eq_some {opening : Opening}
    (opened : openStream wire world = some (opening, after)) :
    after = { world with connects := after.connects, ports := after.ports } := by
  unfold openStream at opened
  split at opened <;> split at opened <;> cases opened <;> rfl

theorem nextOpening_of_openStream {opening : Opening}
    (opened : openStream wire world = some (opening, after)) :
    nextOpening wire world = some opening := by
  unfold openStream at opened
  unfold nextOpening
  split at opened <;> split at opened <;> cases opened
  all_goals simp only [*]
  all_goals rfl

theorem openStream_of_nextOpening {opening : Opening}
    (next : nextOpening wire world = some opening) :
    ∃ after, openStream wire world = some (opening, after) := by
  unfold nextOpening at next
  unfold openStream
  split at next
  · obtain ⟨outcome, first, rfl⟩ := Option.map_eq_some_iff.mp next
    obtain ⟨connects, rest⟩ := List.head?_eq_some_iff.mp first
    rw [rest]
    exact ⟨_, rfl⟩
  · obtain ⟨outcome, first, rfl⟩ := Option.map_eq_some_iff.mp next
    obtain ⟨ports, rest⟩ := List.head?_eq_some_iff.mp first
    rw [rest]
    exact ⟨_, rfl⟩

theorem nextOpening_closeStale (stale : Option Connection) :
    nextOpening wire (world.closeStale stale) = nextOpening wire world := by
  cases stale <;> rfl

theorem nextOpening_takeSession (side : StreamSide) (session : Option StackSession) :
    nextOpening wire (takeSession side session world).2 = nextOpening wire world := by
  cases session with
  | none => rfl
  | some session =>
      unfold takeSession
      by_cases same : session.side = side
      · simp only [same, if_true]
      · simp only [same, if_false]
        rfl

/-- A call for datagrams opens and closes no connection. -/
theorem callDatagram_eq_some {endpoint : ModbusEndpoint}
    (returned : callDatagram endpoint request world = some (outcome, after)) :
    after = { world with binds := after.binds, sent := after.sent } := by
  unfold callDatagram at returned
  split at returned
  · cases returned
  · obtain ⟨⟨result, socket⟩, -, shape⟩ := Option.map_eq_some_iff.mp returned
    cases shape
    rfl

/-- What a call over a stream comes to. -/
theorem Returns.stream {before after : StackState} {call : StackCall}
    (returned : Returns lib before call outcome after)
    (served : stackWire lib call.endpoint = some wire) :
    ∃ kept, after.session = kept.map (StackSession.ofSide wire.side) ∧
      callStream lib wire call.persistent call.request
          (takeSession wire.side before.session before.world).1
          (takeSession wire.side before.session before.world).2 =
        some (outcome, kept, after.world) := by
  unfold Returns StackTransport.execute at returned
  simp only [served] at returned
  obtain ⟨⟨result, kept, world⟩, called, shape⟩ := Option.map_eq_some_iff.mp returned
  obtain ⟨rfl, sessions, rfl⟩ : result = outcome ∧
      kept.map (StackSession.ofSide wire.side) = after.session ∧ world = after.world := by
    simpa using shape
  exact ⟨kept, sessions.symm, called⟩

/-- What a call for datagrams comes to. -/
theorem Returns.datagram {before after : StackState} {call : StackCall}
    (returned : Returns lib before call outcome after)
    (served : stackWire lib call.endpoint = none) :
    after.session = before.session ∧
      callDatagram call.endpoint call.request before.world = some (outcome, after.world) := by
  unfold Returns StackTransport.execute at returned
  simp only [served] at returned
  obtain ⟨⟨result, world⟩, called, shape⟩ := Option.map_eq_some_iff.mp returned
  obtain ⟨rfl, sessions, rfl⟩ : result = outcome ∧ before.session = after.session ∧
      world = after.world := by simpa using shape
  exact ⟨sessions.symm, called⟩

theorem map_number_ofSide (side : StreamSide) (kept : Option Connection) :
    (kept.map (StackSession.ofSide side)).map StackSession.number =
      kept.map Connection.number := by
  cases kept <;> simp [StackSession.number]

/-- A connection is kept only after a successful exchange on a persistent endpoint. -/
theorem exchangeOn_kept {connection : Connection}
    (returned : exchangeOn lib wire persistent request connection world =
      some (outcome, kept, after)) :
    ∀ connection ∈ kept, (∃ frame, outcome = .ok frame) ∧ persistent = true := by
  obtain ⟨⟨result, stream⟩, -, shape⟩ := Option.map_eq_some_iff.mp returned
  cases result with
  | error error =>
      cases shape
      exact nofun
  | ok frame =>
      cases persistent with
      | false =>
          cases shape
          exact nofun
      | true =>
          cases shape
          exact fun _ _ => ⟨⟨frame, rfl⟩, rfl⟩

theorem exchangeOnNew_kept
    (returned : exchangeOnNew lib wire persistent request world = some (outcome, kept, after)) :
    ∀ connection ∈ kept, (∃ frame, outcome = .ok frame) ∧ persistent = true := by
  obtain ⟨⟨opening, later⟩, -, rest⟩ := Option.bind_eq_some_iff.mp returned
  cases opening with
  | refused error | abandoned error =>
      cases rest
      exact nofun
  | opened stream => exact exchangeOn_kept rest

theorem callStream_kept {session : Option Connection}
    (returned : callStream lib wire persistent request session world =
      some (outcome, kept, after)) :
    ∀ connection ∈ kept, (∃ frame, outcome = .ok frame) ∧ persistent = true := by
  cases opens : persistent && session.isSome with
  | false =>
      rw [callStream_anew opens] at returned
      exact exchangeOnNew_kept returned
  | true =>
      obtain ⟨rfl, held⟩ := (Bool.and_eq_true _ _).mp opens
      obtain ⟨connection, rfl⟩ := Option.isSome_iff_exists.mp held
      exact exchangeOn_kept returned

/-- A property of the connection that is held and of those opened and closed, which stays when that
connection is closed or another one opened. -/
structure IsAccount (holds : Option Nat → StackWorld → Prop) : Prop where
  close : ∀ {number world}, holds (some number) world → holds none (world.close number)
  countOpened : ∀ {world}, holds none world → holds (some world.opened) world.countOpened
  same : ∀ {held} {world other : StackWorld}, holds held world →
    other.opened = world.opened → other.closed = world.closed → holds held other

namespace IsAccount

variable {holds : Option Nat → StackWorld → Prop}

theorem closeStale (account : IsAccount holds) {stale : Option Connection}
    (before : holds (stale.map Connection.number) world) :
    holds none (world.closeStale stale) := by
  cases stale with
  | none => exact before
  | some connection => exact account.close before

theorem openStream (account : IsAccount holds) {held : Option Nat} {opening : Opening}
    (before : holds held world) (opened : Modbus.openStream wire world = some (opening, after)) :
    holds held after := by
  rw [openStream_eq_some opened]
  exact account.same before rfl rfl

/-- A session of the wrong side is closed before it can be taken. -/
theorem takeSession (account : IsAccount holds) (side : StreamSide)
    {session : Option StackSession} (before : holds (session.map StackSession.number) world) :
    holds ((Modbus.takeSession side session world).1.map Connection.number)
      (Modbus.takeSession side session world).2 := by
  cases session with
  | none => exact before
  | some session =>
      unfold Modbus.takeSession
      by_cases same : session.side = side
      · simp only [same, if_true]
        exact before
      · simp only [same, if_false]
        exact account.close before

/-- A connection is closed unless the exchange on it succeeds and the endpoint is persistent. -/
theorem exchangeOn (account : IsAccount holds) {connection : Connection}
    (before : holds (some connection.number) world)
    (unkept : persistent = false → ∀ frame stream,
      exchange lib wire request connection.stream = some (.ok frame, stream) →
        ∀ number world, holds (some number) world → holds none world)
    (returned : Modbus.exchangeOn lib wire persistent request connection world =
      some (outcome, kept, after)) : holds (kept.map Connection.number) after := by
  obtain ⟨⟨result, stream⟩, exchanged, shape⟩ := Option.map_eq_some_iff.mp returned
  have sent : holds (some connection.number) (world.send request.frame) :=
    account.same before rfl rfl
  cases result with
  | error error =>
      cases shape
      exact account.close sent
  | ok frame =>
      cases persistent with
      | false =>
          cases shape
          exact unkept rfl frame stream exchanged _ _ sent
      | true =>
          cases shape
          exact sent

/-- A call keeps an account that is indifferent to the connections that it loses. -/
theorem exchangeOnNew (account : IsAccount holds) (before : holds none world)
    (abandoned : ∀ error, nextOpening wire world = some (.abandoned error) →
      ∀ number world, holds (some number) world → holds none world)
    (unkept : persistent = false → ∀ stream, nextOpening wire world = some (.opened stream) →
      ∀ frame left, exchange lib wire request stream = some (.ok frame, left) →
        ∀ number world, holds (some number) world → holds none world)
    (returned : Modbus.exchangeOnNew lib wire persistent request world =
      some (outcome, kept, after)) : holds (kept.map Connection.number) after := by
  obtain ⟨⟨opening, later⟩, opened, rest⟩ := Option.bind_eq_some_iff.mp returned
  have before := account.openStream before opened
  have next := nextOpening_of_openStream opened
  cases opening with
  | refused error =>
      cases rest
      exact before
  | abandoned error =>
      cases rest
      exact abandoned error next _ _ (account.countOpened before)
  | opened stream =>
      exact account.exchangeOn (account.countOpened before)
        (fun lasting => unkept lasting stream next) rest

theorem callStream (account : IsAccount holds) {session : Option Connection}
    (before : holds (session.map Connection.number) world)
    (abandoned : (persistent && session.isSome) = false → ∀ error,
      nextOpening wire world = some (.abandoned error) →
        ∀ number world, holds (some number) world → holds none world)
    (unkept : persistent = false → ∀ stream, nextOpening wire world = some (.opened stream) →
      ∀ frame left, exchange lib wire request stream = some (.ok frame, left) →
        ∀ number world, holds (some number) world → holds none world)
    (returned : Modbus.callStream lib wire persistent request session world =
      some (outcome, kept, after)) : holds (kept.map Connection.number) after := by
  cases opens : persistent && session.isSome with
  | false =>
      rw [callStream_anew opens] at returned
      refine account.exchangeOnNew (account.closeStale before) ?_ ?_ returned
      · rw [nextOpening_closeStale]
        exact abandoned opens
      · rw [nextOpening_closeStale]
        exact unkept
  | true =>
      obtain ⟨rfl, held⟩ := (Bool.and_eq_true _ _).mp opens
      obtain ⟨connection, rfl⟩ := Option.isSome_iff_exists.mp held
      refine account.exchangeOn before ?_ returned
      exact nofun

/-- A call keeps an account unless it loses a connection that the account needs. -/
theorem of_returns (account : IsAccount holds) {before after : StackState} {call : StackCall}
    (held : holds (before.session.map StackSession.number) before.world)
    (lossless : Tidy lib before call ∨
      ∀ number world, holds (some number) world → holds none world)
    (returned : Returns lib before call outcome after) :
    holds (after.session.map StackSession.number) after.world := by
  cases served : stackWire lib call.endpoint with
  | none =>
      obtain ⟨sessions, called⟩ := returned.datagram served
      rw [sessions, callDatagram_eq_some called]
      exact account.same held rfl rfl
  | some wire =>
      simp only [Tidy, served] at lossless
      obtain ⟨kept, sessions, called⟩ := returned.stream served
      rw [sessions, map_number_ofSide]
      refine account.callStream (account.takeSession wire.side held) ?_ ?_ called
      · rw [takeSession_isSome, nextOpening_takeSession]
        intro opens error next
        exact lossless.resolve_left fun tidy => tidy.usable opens error next
      · rw [nextOpening_takeSession]
        intro lasting stream next frame left exchanged
        exact lossless.resolve_left fun tidy =>
          tidy.failing lasting stream next frame left exchanged

end IsAccount

theorem isAccount_accounted : IsAccount Accounted where
  close := by
    intro number world accounted other opened
    rcases accounted other opened with held | closed
    · exact .inr (List.mem_append_right _ (List.mem_singleton.mpr (Option.some.inj held).symm))
    · exact .inr (List.mem_append_left _ closed)
  countOpened := by
    intro world accounted other opened
    rcases Nat.lt_succ_iff_lt_or_eq.mp opened with earlier | rfl
    · exact .inr ((accounted other earlier).resolve_left nofun)
    · exact .inl rfl
  same := by
    intro held world other accounted opened closed
    rw [Accounted, opened, closed]
    exact accounted

theorem disposed_of_returns {before after : StackState} {call : StackCall}
    (accounted : Accounted (before.session.map StackSession.number) before.world)
    (tidy : Tidy lib before call) (returned : Returns lib before call outcome after) :
    Disposed lib call outcome after := by
  refine ⟨isAccount_accounted.of_returns accounted (.inl tidy) returned, ?_⟩
  unfold Tidy at tidy
  cases served : stackWire lib call.endpoint with
  | none =>
      simp only [served] at tidy
      rw [(returned.datagram served).1, tidy]
      exact nofun
  | some wire =>
      obtain ⟨kept, sessions, called⟩ := returned.stream served
      rw [sessions]
      intro session stored
      obtain ⟨connection, kept, rfl⟩ := Option.map_eq_some_iff.mp stored
      obtain ⟨succeeded, lasting⟩ := callStream_kept called connection kept
      exact ⟨succeeded, lasting, by rw [Option.map_some, StackSession.side_ofSide]⟩

/-- A transport that has opened nothing yet. -/
def StackState.begin (connects : List TcpOpen) (ports : List (Except String StreamSocket))
    (binds : List (Except String DatagramSocket)) : StackState :=
  { session := none
    world := { connects, ports, binds, opened := 0, closed := [], sent := [] } }

/-- Tidy calls leave every connection accounted for. -/
theorem accounted_of_run {connects : List TcpOpen} {ports : List (Except String StreamSocket)}
    {binds : List (Except String DatagramSocket)} {state : StackState}
    (run : Run (StackStep lib) (Tidy lib) (.begin connects ports binds) state) :
    Accounted (state.session.map StackSession.number) state.world := by
  refine run.invariant
    (fun state => Accounted (state.session.map StackSession.number) state.world) ?_ ?_
  · intro number opened
    exact absurd opened (Nat.not_lt_zero number)
  · rintro before call next accounted met ⟨outcome, returned⟩
    exact (disposed_of_returns accounted met returned).accounted

/-! ## Connections that are given up -/

/-- Connections have the numbers in whose order they are opened. -/
structure Numbered (held : Option Nat) (world : StackWorld) : Prop where
  held : ∀ number ∈ held, number < world.opened
  closed : ∀ number ∈ world.closed, number < world.opened

theorem Numbered.drop {number : Nat} (numbered : Numbered (some number) world) :
    Numbered none world :=
  ⟨nofun, numbered.closed⟩

theorem isAccount_numbered : IsAccount Numbered where
  close := by
    intro number world numbered
    refine ⟨nofun, fun other closed => ?_⟩
    rcases List.mem_append.mp closed with earlier | last
    · exact numbered.closed other earlier
    · obtain rfl := List.mem_singleton.mp last
      exact numbered.held other rfl
  countOpened := by
    intro world numbered
    refine ⟨fun number held => ?_, fun number closed => ?_⟩
    · cases held
      exact Nat.lt_succ_self world.opened
    · exact Nat.lt_succ_of_lt (numbered.closed number closed)
  same := by
    intro held world other numbered opened closed
    refine ⟨fun number held => ?_, fun number listed => ?_⟩
    · rw [opened]
      exact numbered.held number held
    · rw [opened]
      exact numbered.closed number (closed ▸ listed)

/-- A connection that is given up or not kept after its exchange is lost. -/
theorem exchangeOnNew_tidy (numbered : Numbered none world)
    (returned : exchangeOnNew lib wire persistent request world = some (outcome, kept, after))
    (accounted : Accounted (kept.map Connection.number) after) :
    (∀ error, nextOpening wire world ≠ some (.abandoned error)) ∧
      (persistent = false → ∀ stream, nextOpening wire world = some (.opened stream) →
        ∀ frame left, exchange lib wire request stream ≠ some (.ok frame, left)) := by
  obtain ⟨⟨opening, later⟩, opened, rest⟩ := Option.bind_eq_some_iff.mp returned
  have numbered := isAccount_numbered.openStream numbered opened
  rw [nextOpening_of_openStream opened]
  -- The number of the connection is not that of one closed before it was opened.
  have lost : later.opened ∉ later.closed := fun closed =>
    Nat.lt_irrefl _ (numbered.closed _ closed)
  refine ⟨fun error given => ?_, fun lasting stream usable frame left exchanged => ?_⟩
  · cases given
    cases rest
    rcases accounted later.opened (Nat.lt_succ_self _) with held | closed
    · cases held
    · exact lost closed
  · cases usable
    subst lasting
    change exchangeOn lib wire false request ⟨later.opened, stream⟩ later.countOpened = _ at rest
    rw [exchangeOn, exchanged] at rest
    cases rest
    rcases accounted later.opened (Nat.lt_succ_self _) with held | closed
    · cases held
    · exact lost closed

/-- Where connections are numbered, a call that disposes of its connections is tidy. -/
theorem tidy_of_disposed {before after : StackState} {call : StackCall}
    (numbered : Numbered (before.session.map StackSession.number) before.world)
    (returned : Returns lib before call outcome after)
    (disposed : Disposed lib call outcome after) : Tidy lib before call := by
  unfold Tidy
  cases served : stackWire lib call.endpoint with
  | none =>
      show before.session = none
      obtain ⟨sessions, -⟩ := returned.datagram served
      rw [← sessions, Option.eq_none_iff_forall_not_mem]
      intro session stored
      obtain ⟨-, -, uses⟩ := disposed.kept session stored
      rw [served] at uses
      cases uses
  | some wire =>
      show TidyStream lib wire before call
      obtain ⟨kept, sessions, called⟩ := returned.stream served
      have accounted := disposed.accounted
      rw [sessions, map_number_ofSide] at accounted
      have anew (opens : reuses wire call before.session = false) :
          (∀ error, nextOpening wire before.world ≠ some (.abandoned error)) ∧
            (call.persistent = false → ∀ stream,
              nextOpening wire before.world = some (.opened stream) → ∀ frame left,
                exchange lib wire call.request stream ≠ some (.ok frame, left)) := by
        rw [reuses, ← takeSession_isSome wire.side before.session before.world] at opens
        rw [callStream_anew opens] at called
        have numbered := isAccount_numbered.closeStale
          (isAccount_numbered.takeSession wire.side numbered)
        have tidy := exchangeOnNew_tidy numbered called accounted
        rwa [nextOpening_closeStale, nextOpening_takeSession] at tidy
      refine ⟨fun opens => (anew opens).1, fun lasting => (anew ?_).2 lasting⟩
      rw [reuses, lasting, Bool.false_and]

/-- After tidy calls only a call that is tidy disposes of its connections. -/
theorem disposed_iff_tidy {connects : List TcpOpen} {ports : List (Except String StreamSocket)}
    {binds : List (Except String DatagramSocket)} {before after : StackState} {call : StackCall}
    (run : Run (StackStep lib) (Tidy lib) (.begin connects ports binds) before)
    (returned : Returns lib before call outcome after) :
    Disposed lib call outcome after ↔ Tidy lib before call := by
  have numbered : Numbered (before.session.map StackSession.number) before.world := by
    refine run.invariant
      (fun state => Numbered (state.session.map StackSession.number) state.world) ?_ ?_
    · exact ⟨nofun, nofun⟩
    · rintro before call next numbered - ⟨outcome, returned⟩
      exact isAccount_numbered.of_returns numbered (.inr fun _ _ => Numbered.drop) returned
  constructor
  · exact tidy_of_disposed numbered returned
  · intro tidy
    exact disposed_of_returns (accounted_of_run run) tidy returned

/-- After tidy calls every call that is tidy disposes of its connections. -/
theorem disposed_of_tidy {connects : List TcpOpen} {ports : List (Except String StreamSocket)}
    {binds : List (Except String DatagramSocket)} {before after : StackState} {call : StackCall}
    (run : Run (StackStep lib) (Tidy lib) (.begin connects ports binds) before)
    (tidy : Tidy lib before call) (returned : Returns lib before call outcome after) :
    Disposed lib call outcome after :=
  disposed_of_returns (accounted_of_run run) tidy returned

end Accounts

/-- A stream that takes one request and brings one response. -/
def answeringStream : StreamSocket :=
  { writes := [.ok ()]
    flushes := [.ok ()]
    reads := [.bytes [0, 1, 0, 0, 0, 5, 1, 3, 2, 0, 7]]
    sent := [] }

def meterCall (endpoint : ModbusEndpoint) (persistent : Bool) : StackCall :=
  { endpoint, persistent, request := meterRequest }

def meterTcp : ModbusEndpoint := .tcp "10.0.0.5" 502 meterOptions

def meterSerial : ModbusEndpoint := .rtu "/dev/ttyS0" meterOptions

/-- The state after a call that returns. -/
def afterCall (lib : RmodbusWire) (before : StackState) (call : StackCall) : StackState :=
  match StackTransport.execute lib call.endpoint call.persistent call.request before.session
    before.world with
  | some (_, session, world) => { session, world }
  | none => before

/-- A stack on which one connection succeeds and no serial port can be opened. -/
def meterStack : StackState := .begin [.opened answeringStream] [.error "NotFound"] []

/-- A session that is kept is closed before a port is opened, although that fails. -/
theorem portAfterSession_disposed :
    Disposed refusingWire (meterCall meterSerial false)
      (.error "failed to open Modbus RTU serial port: NotFound")
      (afterCall refusingWire (afterCall refusingWire meterStack (meterCall meterTcp true))
        (meterCall meterSerial false)) := by
  have first : Run (StackStep refusingWire) (Tidy refusingWire) meterStack
      (afterCall refusingWire meterStack (meterCall meterTcp true)) := by
    refine (Run.refl meterStack).perform (meterCall meterTcp true)
      ⟨fun _ error opening => ?_, nofun⟩ ⟨.ok [0, 1, 0, 0, 0, 5, 1, 3, 2, 0, 7], rfl⟩
    cases opening
  refine disposed_of_tidy first ⟨fun _ error opening => ?_, fun _ stream opening => ?_⟩ rfl
  · cases opening
  · cases opening

/-- A connection that is not kept is not closed after a successful exchange. -/
theorem plainRead_leaks :
    Returns refusingWire meterStack (meterCall meterTcp false)
        (.ok [0, 1, 0, 0, 0, 5, 1, 3, 2, 0, 7])
        (afterCall refusingWire meterStack (meterCall meterTcp false)) ∧
      ¬ Disposed refusingWire (meterCall meterTcp false) (.ok [0, 1, 0, 0, 0, 5, 1, 3, 2, 0, 7])
        (afterCall refusingWire meterStack (meterCall meterTcp false)) := by
  refine ⟨rfl, fun disposed => ?_⟩
  have opened : (afterCall refusingWire meterStack (meterCall meterTcp false)).world.opened = 1 :=
    rfl
  rcases disposed.accounted 0 (opened ▸ Nat.one_pos) with held | closed
  · cases held
  · cases closed

end Modbus
end Ferredge
