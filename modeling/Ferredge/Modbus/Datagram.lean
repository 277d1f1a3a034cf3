import Ferredge.Http.Wire
import Ferredge.Modbus.Transport

/-!
# The Modbus datagram transport

A request is sent in one datagram, and the next datagram that arrives is taken for its response.
The sender of that datagram is reported and not looked at.
-/

namespace Ferredge

/-- What one receive from a datagram socket comes to. -/
inductive DatagramArrival where
  | datagram (peer : String) (bytes : Bytes)
  | failed (error : String)
  deriving DecidableEq

/-- A bound datagram socket: what its next operations come to, and the datagrams handed to it with
their addresses. -/
structure DatagramSocket where
  readTimeout : Except String Unit
  sends : List (Except String Unit)
  arrivals : List DatagramArrival
  sent : List (String × Bytes)

namespace Modbus

def bindFailure (error : String) : String := "failed to bind Modbus UDP socket: " ++ error

def datagramTimeoutFailure (error : String) : String :=
  "failed to set Modbus UDP read timeout: " ++ error

def sendFailure (error : String) : String := "failed to send Modbus UDP request: " ++ error

def receiveFailure (error : String) : String := "failed to receive Modbus UDP response: " ++ error

/-- Takes the next datagram, as far as it fits. -/
def readDatagramResponse : List DatagramArrival →
    Option (Except String Bytes × List DatagramArrival)
  | [] => none
  | .datagram _ bytes :: arrivals => some (.ok (bytes.take (maxFrameLen .tcpUdp)), arrivals)
  | .failed error :: arrivals => some (.error (receiveFailure error), arrivals)

/-- The address a datagram exchange is configured with. -/
def udpAddress (addr : String) (port : UInt16) : String := Http.formatHostPort addr port.toNat

/-- One exchange on a bound socket. -/
def exchangeDatagrams (address : String) (frame : Bytes) (socket : DatagramSocket) :
    Option (Except String Bytes × DatagramSocket) :=
  match socket.readTimeout with
  | .error error => some (.error (datagramTimeoutFailure error), socket)
  | .ok () =>
      let sent := socket.sent ++ [(address, frame)]
      match socket.sends with
      | [] => none
      | .error error :: sends => some (.error (sendFailure error), { socket with sends, sent })
      | .ok () :: sends =>
          (readDatagramResponse socket.arrivals).map fun (response, arrivals) =>
            (response, { socket with sends, sent, arrivals })

/-- An exchange with an endpoint, on a socket bound for it. -/
def UdpTransport.execute (endpoint : ModbusEndpoint) (request : ModbusRequest)
    (bind : Except String DatagramSocket) :
    Option (Except String Bytes × Option DatagramSocket) :=
  match endpoint with
  | .udp addr port _ =>
      match bind with
      | .error error => some (.error (bindFailure error), none)
      | .ok socket =>
          (exchangeDatagrams (udpAddress addr port) request.frame socket).map
            fun (response, socket) => (response, some socket)
  | _ => some (.error "device endpoint is not Modbus UDP", none)

/-- The request is sent and a response awaited. -/
def Awaits (socket : DatagramSocket) : Prop :=
  socket.readTimeout = .ok () ∧ socket.sends.head? = some (.ok ())

section Senders

/-- The arrival is not a datagram from another peer. -/
def isGenuine (isOwn : String → Bool) : DatagramArrival → Bool
  | .datagram peer _ => isOwn peer
  | .failed _ => true

/-- A socket at which no datagrams from other peers arrive. -/
def undisturbed (isOwn : String → Bool) (socket : DatagramSocket) :
    DatagramSocket :=
  { socket with arrivals := socket.arrivals.filter (isGenuine isOwn) }

/-- The response comes from the configured address, and datagrams from others change nothing. -/
structure AuthenticResponse (isOwn : String → Bool) (endpoint : ModbusEndpoint)
    (request : ModbusRequest) (socket : DatagramSocket) : Prop where
  sender : ∀ frame after,
    UdpTransport.execute endpoint request (.ok socket) = some (.ok frame, some after) →
      ∃ earlier peer bytes, socket.arrivals = earlier ++ .datagram peer bytes :: after.arrivals ∧
        isOwn peer = true ∧ frame = bytes.take (maxFrameLen .tcpUdp)
  unmoved :
    (UdpTransport.execute endpoint request (.ok (undisturbed isOwn socket))).map Prod.fst =
      (UdpTransport.execute endpoint request (.ok socket)).map Prod.fst

variable {isOwn : String → Bool} {socket : DatagramSocket} {address : String} {frame : Bytes}

theorem exchangeDatagrams_of_awaits (awaits : Awaits socket) :
    exchangeDatagrams address frame socket =
      (readDatagramResponse socket.arrivals).map fun (response, arrivals) =>
        (response, { socket with
          sends := socket.sends.tail, sent := socket.sent ++ [(address, frame)], arrivals }) := by
  obtain ⟨readTimeout, sends, arrivals, sent⟩ := socket
  obtain ⟨rfl, first⟩ := awaits
  obtain ⟨sends, rfl⟩ := List.head?_eq_some_iff.mp first
  rfl

/-- An exchange that does not come to wait for a response does not look at what arrives. -/
theorem exchangeDatagrams_of_not_awaits (fails : ¬ Awaits socket) :
    (∀ response after, exchangeDatagrams address frame socket ≠ some (.ok response, after)) ∧
      (exchangeDatagrams address frame (undisturbed isOwn socket)).map Prod.fst =
        (exchangeDatagrams address frame socket).map Prod.fst := by
  obtain ⟨readTimeout, sends, arrivals, sent⟩ := socket
  cases readTimeout with
  | error error =>
      refine ⟨fun _ _ returned => ?_, rfl⟩
      cases returned
  | ok =>
      rcases sends with _ | ⟨error | sending, sends⟩
      · refine ⟨fun _ _ returned => ?_, rfl⟩
        cases returned
      · refine ⟨fun _ _ returned => ?_, rfl⟩
        cases returned
      · exact absurd ⟨rfl, rfl⟩ fails

section Executed

variable {addr : String} {port : UInt16} {options : ModbusClientOptions} {request : ModbusRequest}

theorem fst_execute (socket : DatagramSocket) :
    (UdpTransport.execute (.udp addr port options) request (.ok socket)).map Prod.fst =
      (exchangeDatagrams (udpAddress addr port) request.frame socket).map Prod.fst := by
  rw [UdpTransport.execute, Option.map_map]
  rfl

/-- Where no response is awaited there is none whose sender could matter. -/
theorem authenticResponse_of_not_awaits (fails : ¬ Awaits socket) :
    AuthenticResponse isOwn (.udp addr port options) request socket := by
  obtain ⟨never, same⟩ := exchangeDatagrams_of_not_awaits fails
  refine ⟨fun response after returned => ?_, ?_⟩
  · obtain ⟨⟨outcome, left⟩, exchanged, shape⟩ := Option.map_eq_some_iff.mp returned
    cases shape
    exact absurd exchanged (never response after)
  · rw [fst_execute, fst_execute, same]

/-- The first datagram that arrives is the response, so that none after it matters. -/
theorem authenticResponse_of_awaits (awaits : Awaits socket)
    (own : ∀ peer bytes later, socket.arrivals = .datagram peer bytes :: later →
      isOwn peer = true) : AuthenticResponse isOwn (.udp addr port options) request socket := by
  have awaits' : Awaits (undisturbed isOwn socket) := awaits
  refine ⟨fun response after returned => ?_, ?_⟩
  · rw [UdpTransport.execute, exchangeDatagrams_of_awaits awaits] at returned
    rcases arrived : socket.arrivals with _ | ⟨⟨peer, bytes⟩ | error, later⟩
    all_goals rw [arrived] at returned
    · cases returned
    · cases returned
      exact ⟨[], peer, bytes, rfl, own peer bytes later arrived, rfl⟩
    · cases returned
  · rw [fst_execute, fst_execute, exchangeDatagrams_of_awaits awaits,
      exchangeDatagrams_of_awaits awaits', undisturbed]
    rcases arrived : socket.arrivals with _ | ⟨⟨peer, bytes⟩ | error, later⟩
    · rfl
    · rw [List.filter_cons, isGenuine, if_pos (own peer bytes later arrived)]
      rfl
    · rfl

/-- The sender of the first datagram that arrives is the sender of the response. -/
theorem own_of_authenticResponse
    (authentic : AuthenticResponse isOwn (.udp addr port options) request socket)
    (awaits : Awaits socket) {peer : String} {bytes : Bytes} {later : List DatagramArrival}
    (arrivals : socket.arrivals = .datagram peer bytes :: later) : isOwn peer = true := by
  obtain ⟨earlier, sender, sent, split, own, -⟩ := authentic.sender _ _ (by
    rw [UdpTransport.execute, exchangeDatagrams_of_awaits awaits, arrivals]
    rfl)
  rw [arrivals] at split
  cases earlier with
  | nil =>
      cases split
      exact own
  | cons other earlier =>
      have lengths := congrArg List.length split
      simp only [List.cons_append, List.length_cons, List.length_append] at lengths
      omega

end Executed

/-- A response is authentic exactly when the first datagram that arrives after the request is from
the configured address. -/
theorem authenticResponse_iff (sameAddress : String → String → Bool) (addr : String)
    (port : UInt16) (options : ModbusClientOptions) (request : ModbusRequest)
    (socket : DatagramSocket) :
    AuthenticResponse (fun peer => sameAddress peer (udpAddress addr port))
        (.udp addr port options) request socket ↔
      (Awaits socket → ∀ peer bytes later, socket.arrivals = .datagram peer bytes :: later →
        sameAddress peer (udpAddress addr port) = true) := by
  constructor
  · intro authentic awaits peer bytes later arrivals
    exact own_of_authenticResponse authentic awaits arrivals
  · intro own
    by_cases awaits : Awaits socket
    · exact authenticResponse_of_awaits awaits (own awaits)
    · exact authenticResponse_of_not_awaits awaits

end Senders

/-- An exchange with a device at a numeric address. -/
def meterSocket (arrivals : List DatagramArrival) : DatagramSocket :=
  { readTimeout := .ok (), sends := [.ok ()], arrivals, sent := [] }

def meterRequest : ModbusRequest :=
  { resource := "level"
    isWrite := false
    frame := [0, 1, 0, 0, 0, 6, 1, 3, 0, 0, 0, 1]
    proto := .tcpUdp
    unitId := 1
    parserSeed := .readHoldings 0 1
    decoder := .u16
    timeout := none }

def meterOptions : ModbusClientOptions := { unitId := 1, requestTimeout := none }

def forgedResponse : DatagramArrival := .datagram "10.0.0.9:502" [0, 1, 0, 0, 0, 5, 1, 3, 2, 0, 9]

def meterResponse : DatagramArrival := .datagram "10.0.0.5:502" [0, 1, 0, 0, 0, 5, 1, 3, 2, 0, 7]

/-- A forged response changes nothing if it arrives second. -/
theorem forgedSecond_authentic :
    AuthenticResponse (· == udpAddress "10.0.0.5" 502) (.udp "10.0.0.5" 502 meterOptions)
      meterRequest (meterSocket [meterResponse, forgedResponse]) := by
  refine (authenticResponse_iff (· == ·) "10.0.0.5" 502 meterOptions meterRequest _).mpr ?_
  intro _ peer bytes later arrivals
  cases arrivals
  decide +kernel

/-- A forged response is returned if it arrives first. -/
theorem forgedFirst_returned :
    ¬ AuthenticResponse (· == udpAddress "10.0.0.5" 502) (.udp "10.0.0.5" 502 meterOptions)
      meterRequest (meterSocket [forgedResponse, meterResponse]) := by
  intro authentic
  have moved := authentic.unmoved
  revert moved
  decide +kernel

end Modbus
end Ferredge
