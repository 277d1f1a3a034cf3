import Ferredge.Core.WriteAll
import Ferredge.Lending
import Ferredge.Transition

/-!
# Buffers of embassy sockets

A socket of embassy-net borrows its buffers for good, so the adapter leaks them and reclaims them by
hand: when a handle is dropped, and when a call that has made a socket fails or is given up.
-/

namespace Ferredge

open Lending Transition

/-- Buffer sizing for sockets created by the embassy network. -/
structure EmbassyNetConfig where
  tcpRxBufferSize : Nat
  tcpTxBufferSize : Nat
  udpRxBufferSize : Nat
  udpTxBufferSize : Nat
  udpRxMetadataSlots : Nat
  udpTxMetadataSlots : Nat

instance : Inhabited EmbassyNetConfig where
  default :=
    { tcpRxBufferSize := 4096
      tcpTxBufferSize := 4096
      udpRxBufferSize := 2048
      udpTxBufferSize := 2048
      udpRxMetadataSlots := 8
      udpTxMetadataSlots := 8 }

/-- Why the stack ends a connect. -/
inductive ConnectError where
  | connectionReset
  | noRoute
  | timedOut
  | invalidState

/-- Why the stack ends an accept. -/
inductive AcceptError where
  | connectionReset
  | invalidPort
  | invalidState

/-- Why the stack refuses to bind a datagram socket. -/
inductive BindError where
  | noRoute
  | invalidState

namespace Embassy

def mapConnectError : ConnectError → NetError
  | .connectionReset | .noRoute => .unreachable
  | .timedOut => .timedOut
  | .invalidState => .other "tcp connect invalid state"

def mapAcceptError : AcceptError → NetError
  | .connectionReset => .closed
  | .invalidPort => .unsupported
  | .invalidState => .other "tcp accept invalid state"

def mapUdpBindError : BindError → NetError
  | .noRoute => .unreachable
  | .invalidState => .other "udp bind invalid state"

variable {ι ε : Type}

/-- A stream socket, known to the stack's socket set by a key, and the notes of its buffers. -/
structure EmbassySocket (ι : Type) where
  socket : ι
  rxBuffer : Slice
  txBuffer : Slice
  deriving DecidableEq

structure EmbassyDatagramSocket (ι : Type) where
  socket : ι
  rxMetadata : Slice
  rxBuffer : Slice
  txMetadata : Slice
  txBuffer : Slice
  deriving DecidableEq

/-- Where the allocator finds the buffers of a stream socket, and the socket's key in the set. -/
structure TcpPlaces (ι : Type) where
  rx : Nat
  tx : Nat
  socket : ι

structure UdpPlaces (ι : Type) where
  rxMeta : Nat
  rx : Nat
  txMeta : Nat
  tx : Nat
  socket : ι

/-! ## Sockets -/

def makeTcpSocket (config : EmbassyNetConfig) (places : TcpPlaces ι) (memory : Memory ι) :
    Except Lending.Fault (EmbassySocket ι × Memory ι) := do
  let (rxRaw, memory) := memory.leak places.rx config.tcpRxBufferSize
  let (txRaw, memory) := memory.leak places.tx config.tcpTxBufferSize
  let memory ← memory.lend places.socket [rxRaw, txRaw]
  return ({ socket := places.socket, rxBuffer := rxRaw, txBuffer := txRaw }, memory)

variable [DecidableEq ι]

/-- The socket is dropped first, which removes it from the stack's socket set. -/
def EmbassySocket.drop (socket : EmbassySocket ι) (memory : Memory ι) :
    Except Lending.Fault (Memory ι) := do
  let memory ← memory.release socket.socket
  let memory ← memory.reclaim socket.rxBuffer
  memory.reclaim socket.txBuffer

/-- What a call that made a socket returns once the stack is done with it. -/
def EmbassySocket.settle (socket : EmbassySocket ι) (result : Except NetError Unit)
    (memory : Memory ι) : Except Lending.Fault (Except NetError (EmbassySocket ι) × Memory ι) :=
  match result with
  | .ok () => return (.ok socket, memory)
  | .error error => do
      let memory ← socket.drop memory
      return (.error error, memory)

def EmbassyDatagramSocket.drop (socket : EmbassyDatagramSocket ι) (memory : Memory ι) :
    Except Lending.Fault (Memory ι) := do
  let memory ← memory.release socket.socket
  let memory ← memory.reclaim socket.rxMetadata
  let memory ← memory.reclaim socket.rxBuffer
  let memory ← memory.reclaim socket.txMetadata
  memory.reclaim socket.txBuffer

/-- Binds a datagram socket to an endpoint that was parsed from its address. -/
def bindDatagram (config : EmbassyNetConfig) (parsed : Except NetError ε) (places : UdpPlaces ι)
    (bound : Except BindError Unit) (memory : Memory ι) :
    Except Lending.Fault (Except NetError (EmbassyDatagramSocket ι) × Memory ι) :=
  match parsed with
  | .error error => return (.error error, memory)
  | .ok _ => do
      let (rxMetaRaw, memory) := memory.leak places.rxMeta config.udpRxMetadataSlots
      let (rxRaw, memory) := memory.leak places.rx config.udpRxBufferSize
      let (txMetaRaw, memory) := memory.leak places.txMeta config.udpTxMetadataSlots
      let (txRaw, memory) := memory.leak places.tx config.udpTxBufferSize
      let memory ← memory.lend places.socket [rxMetaRaw, rxRaw, txMetaRaw, txRaw]
      let socket : EmbassyDatagramSocket ι :=
        { socket := places.socket
          rxMetadata := rxMetaRaw
          rxBuffer := rxRaw
          txMetadata := txMetaRaw
          txBuffer := txRaw }
      match bound.mapError mapUdpBindError with
      | .ok () => return (.ok socket, memory)
      | .error error =>
          let memory ← socket.drop memory
          return (.error error, memory)

/-! ## The network -/

/-- The memory and who holds a socket: a connect or an accept that waits for the stack, or the
application. -/
structure EmbassyNetState (ι : Type) where
  memory : Memory ι
  connecting : List (EmbassySocket ι)
  accepting : List (EmbassySocket ι)
  sockets : List (EmbassySocket ι)
  datagrams : List (EmbassyDatagramSocket ι)

/-- What is asked of the network, and what the stack answers. -/
inductive NetEvent (ι ε : Type) where
  | connect (resolved : Except NetError ε) (places : TcpPlaces ι)
  | connected (socket : EmbassySocket ι) (result : Except ConnectError Unit)
  | abandonConnect (socket : EmbassySocket ι)
  | accept (places : TcpPlaces ι)
  | accepted (socket : EmbassySocket ι) (result : Except AcceptError Unit)
  | abandonAccept (socket : EmbassySocket ι)
  | drop (socket : EmbassySocket ι)
  | bindDatagram (parsed : Except NetError ε) (places : UdpPlaces ι) (bound : Except BindError Unit)
  | dropDatagram (socket : EmbassyDatagramSocket ι)

/-- What a call hands to its caller. -/
def handed {α : Type} (returned : Except NetError α) : List α := returned.toOption.toList

/-- The allocator finds memory that is free, and the socket set a key that is not in use. -/
def TcpPlaces.Free (config : EmbassyNetConfig) (places : TcpPlaces ι) (memory : Memory ι) : Prop :=
  memory.Free places.rx ∧ (memory.leak places.rx config.tcpRxBufferSize).2.Free places.tx ∧
    places.socket ∉ memory.loans.map Prod.fst

def UdpPlaces.Free (config : EmbassyNetConfig) (places : UdpPlaces ι) (memory : Memory ι) : Prop :=
  let withRxMeta := (memory.leak places.rxMeta config.udpRxMetadataSlots).2
  let withRx := (withRxMeta.leak places.rx config.udpRxBufferSize).2
  let withTxMeta := (withRx.leak places.txMeta config.udpTxMetadataSlots).2
  memory.Free places.rxMeta ∧ withRxMeta.Free places.rx ∧ withRx.Free places.txMeta ∧
    withTxMeta.Free places.tx ∧ places.socket ∉ memory.loans.map Prod.fst

namespace EmbassyNetState

/-- Nothing is held yet. -/
def init : EmbassyNetState ι :=
  { memory := .empty, connecting := [], accepting := [], sockets := [], datagrams := [] }

def perform (config : EmbassyNetConfig) (state : EmbassyNetState ι) :
    NetEvent ι ε → Except Lending.Fault (EmbassyNetState ι)
  | .connect (.error _) _ => return state
  | .connect (.ok _) places => do
      let (socket, memory) ← makeTcpSocket config places state.memory
      return { state with memory, connecting := socket :: state.connecting }
  | .connected socket result => do
      let (returned, memory) ← socket.settle (result.mapError mapConnectError) state.memory
      return { state with
        memory
        connecting := state.connecting.erase socket
        sockets := handed returned ++ state.sockets }
  | .abandonConnect socket => do
      let memory ← socket.drop state.memory
      return { state with memory, connecting := state.connecting.erase socket }
  | .accept places => do
      let (socket, memory) ← makeTcpSocket config places state.memory
      return { state with memory, accepting := socket :: state.accepting }
  | .accepted socket result => do
      let (returned, memory) ← socket.settle (result.mapError mapAcceptError) state.memory
      return { state with
        memory
        accepting := state.accepting.erase socket
        sockets := handed returned ++ state.sockets }
  | .abandonAccept socket => do
      let memory ← socket.drop state.memory
      return { state with memory, accepting := state.accepting.erase socket }
  | .drop socket => do
      let memory ← socket.drop state.memory
      return { state with memory, sockets := state.sockets.erase socket }
  | .bindDatagram parsed places bound => do
      let (returned, memory) ← Embassy.bindDatagram config parsed places bound state.memory
      return { state with memory, datagrams := handed returned ++ state.datagrams }
  | .dropDatagram socket => do
      let memory ← socket.drop state.memory
      return { state with memory, datagrams := state.datagrams.erase socket }

/-- The event is about a socket that is held, or about memory that is free. -/
def Enabled (config : EmbassyNetConfig) (state : EmbassyNetState ι) : NetEvent ι ε → Prop
  | .connect (.error _) _ | .bindDatagram (.error _) _ _ => True
  | .connect (.ok _) places | .accept places => places.Free config state.memory
  | .bindDatagram (.ok _) places _ => places.Free config state.memory
  | .connected socket _ | .abandonConnect socket => socket ∈ state.connecting
  | .accepted socket _ | .abandonAccept socket => socket ∈ state.accepting
  | .drop socket => socket ∈ state.sockets
  | .dropDatagram socket => socket ∈ state.datagrams

def Step (config : EmbassyNetConfig) (state : EmbassyNetState ι) (event : NetEvent ι ε)
    (after : EmbassyNetState ι) : Prop :=
  state.perform config event = .ok after

/-- The state is reached by events that the allocator and the stack allow. -/
abbrev Reached (ε : Type) (config : EmbassyNetConfig) (state : EmbassyNetState ι) : Prop :=
  Run (Step config) (Enabled config : _ → NetEvent ι ε → Prop) init state

end EmbassyNetState

/-! ## One call -/

/-- What the stack was lent for a socket. -/
def EmbassySocket.loan (socket : EmbassySocket ι) : ι × List Slice :=
  (socket.socket, [socket.rxBuffer, socket.txBuffer])

def EmbassyDatagramSocket.loan (socket : EmbassyDatagramSocket ι) : ι × List Slice :=
  (socket.socket, [socket.rxMetadata, socket.rxBuffer, socket.txMetadata, socket.txBuffer])

/-- The buffers of a stream socket are as long as was configured. -/
def EmbassySocket.Sized (config : EmbassyNetConfig) (socket : EmbassySocket ι) : Prop :=
  socket.rxBuffer.len = config.tcpRxBufferSize ∧ socket.txBuffer.len = config.tcpTxBufferSize

def EmbassyDatagramSocket.Sized (config : EmbassyNetConfig) (socket : EmbassyDatagramSocket ι) :
    Prop :=
  socket.rxMetadata.len = config.udpRxMetadataSlots ∧
    socket.rxBuffer.len = config.udpRxBufferSize ∧
    socket.txMetadata.len = config.udpTxMetadataSlots ∧
    socket.txBuffer.len = config.udpTxBufferSize

variable {config : EmbassyNetConfig} {memory : Memory ι} {out : List (ι × List Slice)}

omit [DecidableEq ι] in
theorem makeTcpSocket_accounts {places : TcpPlaces ι} (accounts : memory.Accounts out [])
    (free : places.Free config memory) :
    ∃ socket after, makeTcpSocket config places memory = .ok (socket, after) ∧
      after.Accounts (socket.loan :: out) [] ∧ socket.Sized config := by
  obtain ⟨rx, tx, unused⟩ := free
  obtain ⟨after, lent, kept⟩ := ((accounts.leak rx).leak tx).lend unused
  let socket : EmbassySocket ι :=
    { socket := places.socket
      rxBuffer := { pointer := places.rx, len := config.tcpRxBufferSize }
      txBuffer := { pointer := places.tx, len := config.tcpTxBufferSize } }
  refine ⟨socket, after, ?_, kept, rfl, rfl⟩
  exact congrArg (Functor.map fun memory => (socket, memory)) lent

theorem drop_eq_discard (socket : EmbassySocket ι) (memory : Memory ι) :
    socket.drop memory = memory.discard socket.loan.1 socket.loan.2 := by
  simp [EmbassySocket.drop, Memory.discard, Memory.reclaimAll, EmbassySocket.loan]

theorem dropDatagram_eq_discard (socket : EmbassyDatagramSocket ι) (memory : Memory ι) :
    socket.drop memory = memory.discard socket.loan.1 socket.loan.2 := by
  simp [EmbassyDatagramSocket.drop, Memory.discard, Memory.reclaimAll, EmbassyDatagramSocket.loan]

theorem dropDatagram_accounts {socket : EmbassyDatagramSocket ι}
    (accounts : memory.Accounts (socket.loan :: out) []) :
    ∃ after, socket.drop memory = .ok after ∧ after.Accounts out [] := by
  rw [dropDatagram_eq_discard]
  exact accounts.discard

theorem drop_accounts {socket : EmbassySocket ι}
    (accounts : memory.Accounts (socket.loan :: out) []) :
    ∃ after, socket.drop memory = .ok after ∧ after.Accounts out [] := by
  rw [drop_eq_discard]
  exact accounts.discard

/-- A call either returns its socket or has dropped it. -/
theorem settle_accounts {socket : EmbassySocket ι} (result : Except NetError Unit)
    (accounts : memory.Accounts (socket.loan :: out) []) :
    ∃ returned after, socket.settle result memory = .ok (returned, after) ∧
      after.Accounts ((handed returned).map EmbassySocket.loan ++ out) [] ∧
      ∀ other ∈ handed returned, other = socket := by
  cases result with
  | ok =>
      refine ⟨.ok socket, memory, rfl, accounts, ?_⟩
      simp [handed, Except.toOption]
  | error error =>
      obtain ⟨after, dropped, kept⟩ := drop_accounts accounts
      refine ⟨.error error, after, ?_, kept, nofun⟩
      simp only [EmbassySocket.settle, dropped]
      rfl

theorem bindDatagram_accounts (parsed : Except NetError ε) {places : UdpPlaces ι}
    (bound : Except BindError Unit) (accounts : memory.Accounts out [])
    (free : ∀ endpoint, parsed = .ok endpoint → places.Free config memory) :
    ∃ returned after, bindDatagram config parsed places bound memory = .ok (returned, after) ∧
      after.Accounts ((handed returned).map EmbassyDatagramSocket.loan ++ out) [] ∧
      ∀ socket ∈ handed returned, socket.Sized config := by
  cases parsed with
  | error error => exact ⟨.error error, memory, rfl, accounts, nofun⟩
  | ok endpoint =>
      obtain ⟨rxMeta, rx, txMeta, tx, unused⟩ := free endpoint rfl
      obtain ⟨between, lent, kept⟩ :=
        ((((accounts.leak rxMeta).leak rx).leak txMeta).leak tx).lend unused
      let socket : EmbassyDatagramSocket ι :=
        { socket := places.socket
          rxMetadata := { pointer := places.rxMeta, len := config.udpRxMetadataSlots }
          rxBuffer := { pointer := places.rx, len := config.udpRxBufferSize }
          txMetadata := { pointer := places.txMeta, len := config.udpTxMetadataSlots }
          txBuffer := { pointer := places.tx, len := config.udpTxBufferSize } }
      cases bound with
      | ok =>
          refine ⟨.ok socket, between, ?_, kept, ?_⟩
          · exact congrArg (Functor.map fun memory => (Except.ok socket, memory)) lent
          · simp [handed, Except.toOption, EmbassyDatagramSocket.Sized, socket]
      | error error =>
          change between.Accounts (socket.loan :: out) [] at kept
          obtain ⟨after, dropped, left⟩ := dropDatagram_accounts kept
          refine ⟨.error (mapUdpBindError error), after, ?_, left, nofun⟩
          refine (congrArg (· >>= fun memory => socket.drop memory >>= fun memory =>
            pure (Except.error (mapUdpBindError error), memory)) lent).trans ?_
          exact congrArg (Functor.map fun memory =>
            (Except.error (mapUdpBindError error), memory)) dropped

/-! ## Runs -/

namespace EmbassyNetState

/-- The stream sockets that someone holds. -/
def streams (state : EmbassyNetState ι) : List (EmbassySocket ι) :=
  state.connecting ++ (state.accepting ++ state.sockets)

/-- What the stack was lent for the sockets that someone holds. -/
def held (state : EmbassyNetState ι) : List (ι × List Slice) :=
  state.streams.map EmbassySocket.loan ++ state.datagrams.map EmbassyDatagramSocket.loan

/-- The books of the memory are the sockets that someone holds, each with buffers as configured. -/
structure Sound (config : EmbassyNetConfig) (state : EmbassyNetState ι) : Prop where
  accounts : state.memory.Accounts state.held []
  streams : ∀ socket ∈ state.streams, socket.Sized config
  datagrams : ∀ socket ∈ state.datagrams, socket.Sized config

omit [DecidableEq ι] in
theorem sound_init (config : EmbassyNetConfig) : Sound config (init : EmbassyNetState ι) where
  accounts := Memory.accounts_empty
  streams := nofun
  datagrams := nofun

variable {state after : EmbassyNetState ι} {socket : EmbassySocket ι}
  {streams : List (EmbassySocket ι)}

/-- A stream socket that someone holds, first. -/
theorem connecting_front (held : socket ∈ state.connecting) :
    state.streams.Perm
      (socket :: (state.connecting.erase socket ++ (state.accepting ++ state.sockets))) :=
  (List.perm_cons_erase held).append_right _

theorem accepting_front (held : socket ∈ state.accepting) :
    state.streams.Perm
      (socket :: (state.connecting ++ (state.accepting.erase socket ++ state.sockets))) :=
  (((List.perm_cons_erase held).append_right _).append_left _).trans List.perm_middle

theorem sockets_front (held : socket ∈ state.sockets) :
    state.streams.Perm
      (socket :: (state.connecting ++ (state.accepting ++ state.sockets.erase socket))) := by
  rw [streams, ← List.append_assoc, ← List.append_assoc]
  exact ((List.perm_cons_erase held).append_left _).trans List.perm_middle

/-- What is returned joins the sockets of the application. -/
theorem joined_front {α : Type} (returned connecting accepting sockets : List α) :
    (returned ++ (connecting ++ (accepting ++ sockets))).Perm
      (connecting ++ (accepting ++ (returned ++ sockets))) :=
  (List.perm_append_comm_assoc _ _ _).trans ((List.perm_append_comm_assoc _ _ _).append_left _)

namespace Sound

omit [DecidableEq ι] in
/-- Who holds a stream socket does not matter to the memory. -/
theorem of_perm
    (accounts : after.memory.Accounts
      (streams.map EmbassySocket.loan ++ after.datagrams.map EmbassyDatagramSocket.loan) [])
    (same : streams.Perm after.streams) (sized : ∀ socket ∈ streams, socket.Sized config)
    (datagrams : ∀ socket ∈ after.datagrams, socket.Sized config) : Sound config after where
  accounts := accounts.perm ((same.map _).append_right _)
  streams := fun socket held => sized socket (same.mem_iff.mpr held)
  datagrams := datagrams

omit [DecidableEq ι] in
theorem make (sound : Sound config state) {places : TcpPlaces ι}
    (free : places.Free config state.memory) :
    ∃ socket memory, makeTcpSocket config places state.memory = .ok (socket, memory) ∧
      ∀ after : EmbassyNetState ι, after.memory = memory → after.datagrams = state.datagrams →
        (socket :: state.streams).Perm after.streams → Sound config after := by
  obtain ⟨socket, memory, made, accounts, sized⟩ := makeTcpSocket_accounts sound.accounts free
  refine ⟨socket, memory, made, ?_⟩
  rintro after rfl same perm
  refine of_perm ?_ perm (List.forall_mem_cons.mpr ⟨sized, sound.streams⟩) (same ▸ sound.datagrams)
  rw [same]
  exact accounts

/-- A stream socket that is dropped is held by no one. -/
theorem drop (sound : Sound config state) (front : state.streams.Perm (socket :: streams)) :
    ∃ memory, socket.drop state.memory = .ok memory ∧
      ∀ after : EmbassyNetState ι, after.memory = memory → after.datagrams = state.datagrams →
        streams.Perm after.streams → Sound config after := by
  have accounts := sound.accounts.perm ((front.map EmbassySocket.loan).append_right _)
  obtain ⟨memory, dropped, kept⟩ := drop_accounts accounts
  refine ⟨memory, dropped, ?_⟩
  rintro after rfl same perm
  refine of_perm ?_ perm (fun other member => sound.streams other ?_) (same ▸ sound.datagrams)
  · rw [same]
    exact kept
  · exact front.mem_iff.mpr (List.mem_cons_of_mem socket member)

/-- A stream socket that is settled is held by the application or by no one. -/
theorem settle (sound : Sound config state) (front : state.streams.Perm (socket :: streams))
    (result : Except NetError Unit) :
    ∃ returned memory, socket.settle result state.memory = .ok (returned, memory) ∧
      ∀ after : EmbassyNetState ι, after.memory = memory → after.datagrams = state.datagrams →
        (handed returned ++ streams).Perm after.streams → Sound config after := by
  have accounts := sound.accounts.perm ((front.map EmbassySocket.loan).append_right _)
  obtain ⟨returned, memory, settled, kept, only⟩ := settle_accounts result accounts
  refine ⟨returned, memory, settled, ?_⟩
  rintro after rfl same perm
  refine of_perm ?_ perm (fun other member => sound.streams other ?_) (same ▸ sound.datagrams)
  · rw [same, List.map_append, List.append_assoc]
    exact kept
  · refine front.mem_iff.mpr ?_
    rcases List.mem_append.mp member with member | member
    · rw [only other member]
      exact List.mem_cons_self
    · exact List.mem_cons_of_mem socket member

/-- Whatever happens next is without fault, and leaves the books in order. -/
theorem perform (sound : Sound config state) (event : NetEvent ι ε)
    (enabled : Enabled config state event) :
    ∃ after, state.perform config event = .ok after ∧ Sound config after := by
  cases event with
  | connect resolved places =>
      cases resolved with
      | error error => exact ⟨state, rfl, sound⟩
      | ok endpoint =>
          obtain ⟨socket, memory, made, next⟩ := sound.make enabled
          refine ⟨{ state with memory, connecting := socket :: state.connecting }, ?_,
            next _ rfl rfl (.refl _)⟩
          simp only [EmbassyNetState.perform, made]
          rfl
  | connected socket result =>
      obtain ⟨returned, memory, settled, next⟩ := sound.settle
        (connecting_front enabled) (result.mapError mapConnectError)
      refine ⟨{ state with
        memory
        connecting := state.connecting.erase socket
        sockets := handed returned ++ state.sockets }, ?_, next _ rfl rfl ?_⟩
      · simp only [EmbassyNetState.perform, settled]
        rfl
      · exact joined_front _ _ _ _
  | abandonConnect socket =>
      obtain ⟨memory, dropped, next⟩ := sound.drop (connecting_front enabled)
      refine ⟨{ state with memory, connecting := state.connecting.erase socket }, ?_,
        next _ rfl rfl (.refl _)⟩
      simp only [EmbassyNetState.perform, dropped]
      rfl
  | accept places =>
      obtain ⟨socket, memory, made, next⟩ := sound.make enabled
      refine ⟨{ state with memory, accepting := socket :: state.accepting }, ?_,
        next _ rfl rfl List.perm_middle.symm⟩
      simp only [EmbassyNetState.perform, made]
      rfl
  | accepted socket result =>
      obtain ⟨returned, memory, settled, next⟩ := sound.settle
        (accepting_front enabled) (result.mapError mapAcceptError)
      refine ⟨{ state with
        memory
        accepting := state.accepting.erase socket
        sockets := handed returned ++ state.sockets }, ?_, next _ rfl rfl ?_⟩
      · simp only [EmbassyNetState.perform, settled]
        rfl
      · exact joined_front _ _ _ _
  | abandonAccept socket =>
      obtain ⟨memory, dropped, next⟩ := sound.drop (accepting_front enabled)
      refine ⟨{ state with memory, accepting := state.accepting.erase socket }, ?_,
        next _ rfl rfl (.refl _)⟩
      simp only [EmbassyNetState.perform, dropped]
      rfl
  | drop socket =>
      obtain ⟨memory, dropped, next⟩ := sound.drop (sockets_front enabled)
      refine ⟨{ state with memory, sockets := state.sockets.erase socket }, ?_,
        next _ rfl rfl (.refl _)⟩
      simp only [EmbassyNetState.perform, dropped]
      rfl
  | bindDatagram parsed places bound =>
      obtain ⟨returned, memory, made, accounts, sized⟩ :=
        bindDatagram_accounts parsed bound sound.accounts (by rintro _ rfl; exact enabled)
      refine ⟨{ state with memory, datagrams := handed returned ++ state.datagrams }, ?_, ?_⟩
      · simp only [EmbassyNetState.perform, made]
        rfl
      · exact
          { accounts := accounts.perm (by
              rw [held, held, List.map_append]
              exact List.perm_append_comm_assoc _ _ _)
            streams := sound.streams
            datagrams := fun socket member =>
              (List.mem_append.mp member).elim (sized socket) (sound.datagrams socket) }
  | dropDatagram socket =>
      have front : state.held.Perm (socket.loan :: (state.streams.map EmbassySocket.loan ++
          (state.datagrams.erase socket).map EmbassyDatagramSocket.loan)) :=
        (((List.perm_cons_erase enabled).map _).append_left _).trans List.perm_middle
      obtain ⟨memory, dropped, kept⟩ := dropDatagram_accounts (sound.accounts.perm front)
      refine ⟨{ state with memory, datagrams := state.datagrams.erase socket }, ?_, ?_⟩
      · simp only [EmbassyNetState.perform, dropped]
        rfl
      · exact
          { accounts := kept
            streams := sound.streams
            datagrams := fun other member =>
              sound.datagrams other (List.mem_of_mem_erase member) }

end Sound

omit [DecidableEq ι] in
/-- The memory that the sockets take is the configured sum for each of them. -/
theorem Sound.totalLen_allocated (sound : Sound config state) :
    totalLen state.memory.allocated =
      state.streams.length * (config.tcpRxBufferSize + config.tcpTxBufferSize) +
        state.datagrams.length * (config.udpRxMetadataSlots + config.udpRxBufferSize +
          config.udpTxMetadataSlots + config.udpTxBufferSize) := by
  have streams : ∀ socket ∈ state.streams, totalLen socket.loan.2 =
      config.tcpRxBufferSize + config.tcpTxBufferSize := by
    intro socket member
    obtain ⟨rx, tx⟩ := sound.streams socket member
    simp [EmbassySocket.loan, totalLen, rx, tx]
  have datagrams : ∀ socket ∈ state.datagrams, totalLen socket.loan.2 =
      config.udpRxMetadataSlots + config.udpRxBufferSize + config.udpTxMetadataSlots +
        config.udpTxBufferSize := by
    intro socket member
    obtain ⟨rxMeta, rx, txMeta, tx⟩ := sound.datagrams socket member
    simp [EmbassyDatagramSocket.loan, totalLen, rxMeta, rx, txMeta, tx, Nat.add_assoc]
  rw [sound.accounts.totalLen_allocated, held, List.flatMap_append, totalLen_append,
    List.flatMap_map, List.flatMap_map, totalLen_flatMap streams, totalLen_flatMap datagrams]
  simp [totalLen]

/-- In every run that the allocator and the stack allow, no call or drop is ever at fault, the stack
uses only memory that is allocated, and what is allocated is what the sockets that someone holds
were made with. -/
theorem run_sound {config : EmbassyNetConfig} {state : EmbassyNetState ι}
    (run : Reached ε config state) :
    (∀ event : NetEvent ι ε, Enabled config state event →
        ∃ after, state.perform config event = .ok after) ∧
      state.memory.loans.Perm state.held ∧
      state.memory.allocated.Perm (state.held.flatMap fun loan => occupied loan.2) ∧
      (state.memory.allocated.map Slice.pointer).Nodup ∧
      (∀ slice ∈ state.memory.lent, slice ∈ state.memory.allocated) ∧
      totalLen state.memory.allocated =
        state.streams.length * (config.tcpRxBufferSize + config.tcpTxBufferSize) +
          state.datagrams.length * (config.udpRxMetadataSlots + config.udpRxBufferSize +
            config.udpTxMetadataSlots + config.udpTxBufferSize) := by
  have sound : Sound config state := by
    apply run.invariant (Sound config) (sound_init config)
    intro before event next sound enabled step
    obtain ⟨after, performed, kept⟩ := sound.perform event enabled
    rw [Except.ok.inj (step.symm.trans performed)]
    exact kept
  refine ⟨fun event enabled => ?_, sound.accounts.loans, sound.accounts.allocated,
    sound.accounts.apart, fun slice => sound.accounts.allocated_of_lent, sound.totalLen_allocated⟩
  obtain ⟨after, performed, -⟩ := sound.perform event enabled
  exact ⟨after, performed⟩

/-- A datagram socket in the memory and under the key of a connect that timed out. -/
def reused : EmbassyNetState Nat :=
  { memory :=
      { allocated := [⟨100, 2048⟩, ⟨400, 8⟩, ⟨200, 2048⟩, ⟨300, 8⟩]
        loans := [(0, [⟨300, 8⟩, ⟨200, 2048⟩, ⟨400, 8⟩, ⟨100, 2048⟩])] }
    connecting := []
    accepting := []
    sockets := []
    datagrams := [⟨0, ⟨300, 8⟩, ⟨200, 2048⟩, ⟨400, 8⟩, ⟨100, 2048⟩⟩] }

theorem reused_sound :
    Reached Unit default reused ∧
      (∀ event : NetEvent Nat Unit, Enabled default reused event →
        ∃ after, reused.perform default event = .ok after) ∧
      totalLen reused.memory.allocated = 4112 := by
  let socket : EmbassySocket Nat := ⟨0, ⟨100, 4096⟩, ⟨200, 4096⟩⟩
  let connecting : EmbassyNetState Nat :=
    { init with
      memory := { allocated := [⟨200, 4096⟩, ⟨100, 4096⟩], loans := [socket.loan] }
      connecting := [socket] }
  have started : Reached Unit default connecting := by
    refine (Run.refl _).perform (.connect (.ok ()) ⟨100, 200, 0⟩) ?_ rfl
    simp [Enabled, TcpPlaces.Free, Memory.Free, Memory.leak, occupied, init, Memory.empty,
      Slice.occupies, default]
  have failed : Reached Unit default (init : EmbassyNetState Nat) :=
    started.perform (.connected socket (.error .timedOut)) List.mem_cons_self rfl
  have run : Reached Unit default reused := by
    refine failed.perform (.bindDatagram (.ok ()) ⟨300, 200, 400, 100, 0⟩ (.ok ())) ?_ rfl
    simp [Enabled, UdpPlaces.Free, Memory.Free, Memory.leak, occupied, init, Memory.empty,
      Slice.occupies, default]
  obtain ⟨unfaulted, -, -, -, -, sum⟩ := run_sound run
  exact ⟨run, unfaulted, sum⟩

end EmbassyNetState

end Embassy
end Ferredge
