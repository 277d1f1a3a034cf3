import Ferredge.Mqtt.Session
import Ferredge.Transition

/-!
# Connection attempts

`ensure_connected` opens a connection unless the driver has a session, and decides over the CONNACK
snapshot of the driver.  The snapshot outlives connections and is never cleared.
-/

namespace Ferredge
namespace Mqtt

variable {stack : MqttStack}

/-- What the network does when a connection is opened. -/
inductive DialOutcome where
  | refused (error : String)
  | readTimeoutRefused (error : String)
  | writeTimeoutRefused (error : String)
  | opened (now : Nat)

/-- What the network and the library do during one connection attempt: the CONNECT packet and the
events of sending it, and the successive reads. -/
structure ConnectInput (stack : MqttStack) where
  dial : DialOutcome
  connect : Except String (List (ConnectionEvent stack))
  reads : List (ReadInput stack)

/-- How far a connection attempt has come. -/
inductive ConnectVerdict where
  | alreadyConnected
  | waiting
  | accepted
  | rejected (detail : String)
  | failed (error : String)
  deriving DecidableEq

/-- What the attempt returns, once it returns. -/
def ConnectVerdict.result : ConnectVerdict → Option (Except String Unit)
  | alreadyConnected | accepted => some (.ok ())
  | waiting => none
  | rejected detail => some (.error s!"mqtt connect rejected: {detail}")
  | failed error => some (.error error)

/-- The driver's shared session slot and CONNACK snapshot. -/
structure DriverCells (stack : MqttStack) where
  session : Option (MqttClientSession stack)
  negotiatedConnack : Option MqttConnackProperties

/-- What an attempt leaves behind: its verdict, the connection it opened and the driver. -/
structure ConnectOutcome (stack : MqttStack) where
  verdict : ConnectVerdict
  opened : Option (MqttClientSession stack)
  cells : DriverCells stack

/-- A session on a connection that is just open. -/
def openSession (keepaliveSecs : Option UInt16) (now : Nat) : MqttClientSession stack :=
  { stream := { packetsSent := 0, packetsReceived := [], peerOpen := true }
    keepaliveSecs
    lastActivity := now
    awaitingPingresp := false
    inboundDecoder := stack.newDecoder }

/-- The decision over the snapshot. -/
def connectVerdict : Option MqttConnackProperties → ConnectVerdict
  | none => .waiting
  | some connack =>
      if connack.reasonCode = some "Success" then .accepted
      else .rejected (connack.reasonString.getD (connack.reasonCode.getD ""))

/-- One read of the attempt and the decision after it. -/
def connectRound (input : ReadInput stack) (state : SessionState stack) :
    ConnectVerdict × SessionState stack :=
  match readFromSession ⟨true, true⟩ input state with
  | (.error error, state) => (.failed error, state)
  | (.ok _, state) => (connectVerdict state.negotiatedConnack, state)

/-- Reads until there is a snapshot to decide over. -/
def connectLoop : List (ReadInput stack) → SessionState stack →
    ConnectVerdict × SessionState stack
  | [], state => (.waiting, state)
  | input :: inputs, state =>
      match connectRound input state with
      | (.waiting, state) => connectLoop inputs state
      | decided => decided

/-- Sends the CONNECT packet over a fresh session. -/
def sendConnect (keepaliveSecs : Option UInt16) (now : Nat)
    (events : List (ConnectionEvent stack)) (negotiated : Option MqttConnackProperties) :
    Except String (List RoutedMessage) × SessionState stack :=
  handleConnectionEvents ⟨true, true⟩ events [] ⟨openSession keepaliveSecs now, negotiated⟩

/-- Stores a new session, unless the slot has one by now. -/
def installSession (session : MqttClientSession stack) (slot : Option (MqttClientSession stack)) :
    Option (MqttClientSession stack) :=
  slot.or (some session)

/-- Ends an attempt that has opened a connection. -/
def concludeConnect (cells : DriverCells stack) (verdict : ConnectVerdict)
    (state : SessionState stack) : ConnectOutcome stack :=
  { verdict
    opened := some state.session
    cells :=
      { session :=
          if verdict = .accepted then installSession state.session cells.session
          else cells.session
        negotiatedConnack := state.negotiatedConnack } }

/-- Connects to the broker unless the driver has a session. -/
def ensureConnected (keepaliveSecs : Option UInt16) (input : ConnectInput stack)
    (cells : DriverCells stack) : ConnectOutcome stack :=
  if cells.session.isSome then { verdict := .alreadyConnected, opened := none, cells }
  else
    match input.dial, input.connect with
    | .refused error, _ =>
        { verdict := .failed s!"failed to connect to MQTT broker: {error}", opened := none, cells }
    | .readTimeoutRefused error, _ =>
        { verdict := .failed s!"failed to set MQTT read timeout: {error}", opened := none, cells }
    | .writeTimeoutRefused error, _ =>
        { verdict := .failed s!"failed to set MQTT write timeout: {error}", opened := none, cells }
    | .opened _, .error error => { verdict := .failed error, opened := none, cells }
    | .opened now, .ok events =>
        match sendConnect keepaliveSecs now events cells.negotiatedConnack with
        | (.error error, state) => concludeConnect cells (.failed error) state
        | (.ok _, state) =>
            let decided := connectLoop input.reads state
            concludeConnect cells decided.1 decided.2

/-! ## Where a snapshot comes from -/

/-- The packet is a CONNACK that accepts the connection. -/
def AcceptingConnack {packet : Type} : InboundPacket packet → Prop
  | .v5Connack reasonCode _ => reasonCode = 0
  | .v3Connack returnCode => returnCode = 0
  | _ => False

/-- The packet is a CONNACK that refuses the connection. -/
def RejectingConnack {packet : Type} : InboundPacket packet → Prop
  | .v5Connack reasonCode _ => reasonCode ≠ 0
  | .v3Connack returnCode => returnCode ≠ 0
  | _ => False

/-- An accepting CONNACK whose text is not the one that the driver looks for. -/
def MisreadConnack (texts : ConnackTexts) {packet : Type} (inbound : InboundPacket packet) : Prop :=
  AcceptingConnack inbound ∧
    ∀ snapshot, connackSnapshot texts inbound = some snapshot →
      snapshot.reasonCode ≠ some "Success"

/-- The packets that a batch of events delivers. -/
def deliveredPackets (events : List (ConnectionEvent stack)) : List (InboundPacket stack.Packet) :=
  events.filterMap fun event =>
    match event with
    | .notifyPacketReceived packet _ => some packet
    | _ => none

/-- The packets that a read of the socket delivers. -/
def SocketRead.packets : SocketRead stack → List (InboundPacket stack.Packet)
  | .received events => deliveredPackets events
  | .timedOut (.ok events) => deliveredPackets events
  | _ => []

/-- The packets that an attempt delivers. -/
def ConnectInput.packets (input : ConnectInput stack) : List (InboundPacket stack.Packet) :=
  (match input.connect with
    | .ok events => deliveredPackets events
    | .error _ => []) ++
    input.reads.flatMap fun round => round.read.packets

/-- From one state of a session to a later one: the packets received in between, which may have
replaced the snapshot. -/
structure Receives (before after : SessionState stack)
    (packets : List (InboundPacket stack.Packet)) : Prop where
  received : after.session.stream.packetsReceived =
    before.session.stream.packetsReceived ++ packets
  snapshot : ∀ snapshot, after.negotiatedConnack = some snapshot →
    (∃ packet ∈ packets, connackSnapshot stack.texts packet = some snapshot) ∨
      before.negotiatedConnack = some snapshot

/-- The snapshot, if there is one, is that of a packet received on the session's own connection. -/
def SnapshotOwned (state : SessionState stack) : Prop :=
  ∀ snapshot, state.negotiatedConnack = some snapshot →
    ∃ packet ∈ state.session.stream.packetsReceived,
      connackSnapshot stack.texts packet = some snapshot

variable {before after third : SessionState stack}
  {packets morePackets : List (InboundPacket stack.Packet)}

theorem Receives.nothing (same : SameInbound before.session after.session)
    (kept : after.negotiatedConnack = before.negotiatedConnack) : Receives before after [] where
  received := by rw [same.received, List.append_nil]
  snapshot snapshot stored := .inr (kept ▸ stored)

theorem Receives.trans (earlier : Receives before after packets)
    (later : Receives after third morePackets) :
    Receives before third (packets ++ morePackets) where
  received := by rw [later.received, earlier.received, List.append_assoc]
  snapshot snapshot stored := by
    rcases later.snapshot snapshot stored with ⟨packet, arrived, same⟩ | stored
    · exact .inl ⟨packet, List.mem_append_right _ arrived, same⟩
    · rcases earlier.snapshot snapshot stored with ⟨packet, arrived, same⟩ | stored
      · exact .inl ⟨packet, List.mem_append_left _ arrived, same⟩
      · exact .inr stored

theorem SnapshotOwned.receives (owned : SnapshotOwned before)
    (receives : Receives before after packets) : SnapshotOwned after := by
  intro snapshot stored
  rw [receives.received]
  rcases receives.snapshot snapshot stored with ⟨packet, arrived, same⟩ | stored
  · exact ⟨packet, List.mem_append_right _ arrived, same⟩
  · obtain ⟨packet, arrived, same⟩ := owned snapshot stored
    exact ⟨packet, List.mem_append_left _ arrived, same⟩

theorem handlePacketReceived_received (observers : Observers)
    (packet : InboundPacket stack.Packet) (auth : AuthExchange) (state : SessionState stack) :
    (handlePacketReceived observers packet auth state).2.session.stream.packetsReceived =
      state.session.stream.packetsReceived ++ [packet] := by
  have kept := (authorizePacket_sameInbound observers packet auth
    (receivePacket packet state.session)).received
  unfold handlePacketReceived
  rcases authorized : authorizePacket observers packet auth (receivePacket packet state.session)
    with ⟨error | _, session⟩
  · rw [authorized] at kept
    exact kept
  · rw [authorized] at kept
    exact kept

theorem handlePacketReceived_negotiated (observers : Observers)
    (packet : InboundPacket stack.Packet) (auth : AuthExchange) (state : SessionState stack) :
    (handlePacketReceived observers packet auth state).2.negotiatedConnack =
      if observers.negotiatedConnack then updateNegotiatedConnack packet state.negotiatedConnack
      else state.negotiatedConnack := by
  unfold handlePacketReceived
  rcases authorizePacket observers packet auth (receivePacket packet state.session)
    with ⟨error | _, session⟩ <;> rfl

/-- One event receives the packet it reports. -/
theorem handleConnectionEvent_receives (observers : Observers) (event : ConnectionEvent stack)
    (state : SessionState stack) :
    Receives state (handleConnectionEvent observers event state).2 (deliveredPackets [event]) := by
  cases event with
  | requestSendPacket outcome =>
      exact .nothing (writePacket_sameInbound "packet" outcome state.session) rfl
  | notifyPacketReceived packet auth =>
      refine ⟨handlePacketReceived_received observers packet auth state, ?_⟩
      intro snapshot stored
      rw [handleConnectionEvent, handlePacketReceived_negotiated] at stored
      split at stored
      · rw [updateNegotiatedConnack, Option.or_eq_some_iff] at stored
        exact stored.imp (fun own => ⟨packet, List.mem_singleton.mpr rfl, own⟩) And.right
      · exact .inr stored
  | notifyError error => exact .nothing (.refl _) rfl
  | requestClose => exact .nothing (.refl _) rfl
  | housekeeping => exact .nothing (.refl _) rfl

theorem deliveredPackets_cons (event : ConnectionEvent stack)
    (events : List (ConnectionEvent stack)) :
    deliveredPackets (event :: events) = deliveredPackets [event] ++ deliveredPackets events :=
  List.filterMap_append (l := [event])

/-- A batch receives the packets it reports, up to the event that fails. -/
theorem handleConnectionEvents_receives (observers : Observers)
    (events : List (ConnectionEvent stack)) (routed : List RoutedMessage)
    (state : SessionState stack) :
    ∃ packets, packets ⊆ deliveredPackets events ∧
      Receives state (handleConnectionEvents observers events routed state).2 packets := by
  induction events generalizing routed state with
  | nil => exact ⟨[], List.nil_subset _, .nothing (.refl _) rfl⟩
  | cons event events ih =>
      have first := handleConnectionEvent_receives observers event state
      rw [deliveredPackets_cons, handleConnectionEvents]
      rcases handled : handleConnectionEvent observers event state with ⟨error | message, after⟩
      · rw [handled] at first
        exact ⟨_, List.subset_append_left _ _, first⟩
      · rw [handled] at first
        obtain ⟨packets, among, later⟩ := ih (routed ++ message.toList) after
        exact ⟨_, List.append_subset.mpr
          ⟨List.subset_append_left _ _, List.Subset.trans among (List.subset_append_right _ _)⟩,
          first.trans later⟩

/-- A batch that brings a CONNACK and is handled to its end leaves a snapshot of its own. -/
theorem handleConnectionEvents_owned {events : List (ConnectionEvent stack)}
    {routed messages : List RoutedMessage}
    (handled : handleConnectionEvents ⟨true, true⟩ events routed before = (.ok messages, after))
    (connack : ∃ packet ∈ deliveredPackets events,
      (connackSnapshot stack.texts packet).isSome) : SnapshotOwned after := by
  induction events generalizing routed before with
  | nil =>
      obtain ⟨packet, arrived, -⟩ := connack
      cases arrived
  | cons event events ih =>
      rw [handleConnectionEvents] at handled
      rcases one : handleConnectionEvent ⟨true, true⟩ event before with ⟨error | message, next⟩
      · rw [one] at handled
        cases handled
      · rw [one] at handled
        obtain ⟨packet, arrived, stored⟩ := connack
        rw [deliveredPackets_cons, List.mem_append] at arrived
        rcases arrived with first | later
        · -- The snapshot is this packet's now, and later packets replace it by their own.
          have owned : SnapshotOwned next := by
            cases event with
            | notifyPacketReceived reported auth =>
                cases List.mem_singleton.mp first
                have received := handlePacketReceived_received ⟨true, true⟩ packet auth before
                have negotiated := handlePacketReceived_negotiated ⟨true, true⟩ packet auth before
                rw [handleConnectionEvent] at one
                rw [one] at received negotiated
                obtain ⟨own, found⟩ := Option.isSome_iff_exists.mp stored
                have current : next.negotiatedConnack = some own := by
                  rw [negotiated, if_pos rfl, updateNegotiatedConnack, found, Option.some_or]
                intro snapshot same
                refine ⟨packet, ?_, found.trans (current.symm.trans same)⟩
                rw [received]
                exact List.mem_append_right _ first
            | requestSendPacket | notifyError | requestClose | housekeeping => cases first
          obtain ⟨packets, -, receives⟩ :=
            handleConnectionEvents_receives ⟨true, true⟩ events (routed ++ message.toList) next
          have final : (handleConnectionEvents ⟨true, true⟩ events (routed ++ message.toList)
              next).2 = after := congrArg Prod.snd handled
          exact owned.receives (final ▸ receives)
        · exact ih handled ⟨packet, later, stored⟩

theorem sendKeepalivePingIfDue_receives (now : Nat)
    (ping : Except String (List (ConnectionEvent stack))) (state : SessionState stack) :
    ∃ packets, packets ⊆ (SocketRead.timedOut ping).packets ∧
      Receives state (sendKeepalivePingIfDue now ping state).2 packets := by
  have nothing : Receives state state [] := .nothing (.refl _) rfl
  unfold sendKeepalivePingIfDue
  split
  · exact ⟨[], List.nil_subset _, nothing⟩
  split_ifs
  · exact ⟨[], List.nil_subset _, nothing⟩
  · exact ⟨[], List.nil_subset _, nothing⟩
  · exact ⟨[], List.nil_subset _, nothing⟩
  cases ping with
  | error error => exact ⟨[], List.nil_subset _, nothing⟩
  | ok events =>
      obtain ⟨packets, among, receives⟩ := handleConnectionEvents_receives ⟨false, false⟩ events []
        { state with session := { state.session with awaitingPingresp := true } }
      exact ⟨packets, among, receives.received, receives.snapshot⟩

theorem readFromSession_receives (observers : Observers) (input : ReadInput stack)
    (state : SessionState stack) :
    ∃ packets, packets ⊆ input.read.packets ∧
      Receives state (readFromSession observers input state).2 packets := by
  obtain ⟨now, socketRead⟩ := input
  cases socketRead with
  | received events =>
      obtain ⟨packets, among, receives⟩ := handleConnectionEvents_receives observers events []
        { state with
          session := { state.session with lastActivity := now, awaitingPingresp := false } }
      exact ⟨packets, among, receives.received, receives.snapshot⟩
  | timedOut ping => exact sendKeepalivePingIfDue_receives now ping state
  | closed => exact ⟨[], List.nil_subset _, .nothing ⟨rfl, rfl⟩ rfl⟩
  | timeoutRefused | failed => exact ⟨[], List.nil_subset _, .nothing (.refl _) rfl⟩

/-! ## Whose CONNACK decides -/

/-- The read brings a CONNACK. -/
def ReadInput.BringsConnack (input : ReadInput stack) : Prop :=
  ∃ events, input.read = .received events ∧
    ∃ packet ∈ deliveredPackets events, (connackSnapshot stack.texts packet).isSome

/-- The first read of the attempt brings a CONNACK, unless it fails. -/
def FirstReadDecides : List (ReadInput stack) → SessionState stack → Prop
  | [], _ => True
  | input :: _, state =>
      input.BringsConnack ∨ ∃ error, (readFromSession ⟨true, true⟩ input state).1 = .error error

theorem connectLoop_of_error {input : ReadInput stack} {inputs : List (ReadInput stack)}
    {error : String}
    (read : readFromSession ⟨true, true⟩ input before = (.error error, after)) :
    connectLoop (input :: inputs) before = (.failed error, after) := by
  rw [connectLoop, connectRound, read]

/-- A read without an error decides as soon as there is a snapshot. -/
theorem connectLoop_of_ok {input : ReadInput stack} {inputs : List (ReadInput stack)}
    {messages : List RoutedMessage}
    (read : readFromSession ⟨true, true⟩ input before = (.ok messages, after)) :
    connectLoop (input :: inputs) before =
      match after.negotiatedConnack with
      | none => connectLoop inputs after
      | some connack => (connectVerdict (some connack), after) := by
  rw [connectLoop, connectRound, read]
  dsimp only
  cases after.negotiatedConnack with
  | none => rfl
  | some connack =>
      dsimp only [connectVerdict]
      split_ifs <;> rfl

theorem connectLoop_receives (inputs : List (ReadInput stack)) (state : SessionState stack) :
    ∃ packets, packets ⊆ inputs.flatMap (fun round => round.read.packets) ∧
      Receives state (connectLoop inputs state).2 packets := by
  induction inputs generalizing state with
  | nil => exact ⟨[], List.nil_subset _, .nothing (.refl _) rfl⟩
  | cons input inputs ih =>
      obtain ⟨packets, among, receives⟩ := readFromSession_receives ⟨true, true⟩ input state
      rw [List.flatMap_cons]
      have first := List.Subset.trans among (List.subset_append_left _
        (inputs.flatMap fun round => round.read.packets))
      rcases read : readFromSession ⟨true, true⟩ input state with ⟨error | messages, after⟩
      · rw [read] at receives
        rw [connectLoop_of_error read]
        exact ⟨packets, first, receives⟩
      · rw [read] at receives
        rw [connectLoop_of_ok read]
        cases after.negotiatedConnack with
        | none =>
            obtain ⟨later, amongLater, receivesLater⟩ := ih after
            exact ⟨packets ++ later, List.append_subset.mpr
              ⟨first, List.Subset.trans amongLater (List.subset_append_right _ _)⟩,
              receives.trans receivesLater⟩
        | some connack => exact ⟨packets, first, receives⟩

/-- An attempt whose first read decides ends with a snapshot of its own, unless it fails. -/
theorem connectLoop_owned {inputs : List (ReadInput stack)} {state : SessionState stack}
    (decides : FirstReadDecides inputs state) :
    SnapshotOwned (connectLoop inputs state).2 ∨ (connectLoop inputs state).1 = .waiting ∨
      ∃ error, (connectLoop inputs state).1 = .failed error := by
  cases inputs with
  | nil => exact .inr (.inl rfl)
  | cons input inputs =>
      rcases read : readFromSession ⟨true, true⟩ input state with ⟨error | messages, after⟩
      · rw [connectLoop_of_error read]
        exact .inr (.inr ⟨error, rfl⟩)
      · rcases decides with ⟨events, received, connack⟩ | ⟨error, failed⟩
        · have owned : SnapshotOwned after := by
            rw [readFromSession, received] at read
            exact handleConnectionEvents_owned read connack
          left
          rw [connectLoop_of_ok read]
          split
          · obtain ⟨packets, -, receives⟩ := connectLoop_receives inputs after
            exact owned.receives receives
          · exact owned
        · rw [read] at failed
          cases failed

/-- A verdict is passed over the snapshot that it leaves behind. -/
theorem connectLoop_decided (inputs : List (ReadInput stack)) (state : SessionState stack) :
    ((connectLoop inputs state).1 = .accepted →
      ∃ snapshot, (connectLoop inputs state).2.negotiatedConnack = some snapshot ∧
        snapshot.reasonCode = some "Success") ∧
    ∀ detail, (connectLoop inputs state).1 = .rejected detail →
      ∃ snapshot, (connectLoop inputs state).2.negotiatedConnack = some snapshot ∧
        snapshot.reasonCode ≠ some "Success" := by
  induction inputs generalizing state with
  | nil => simp [connectLoop]
  | cons input inputs ih =>
      rcases read : readFromSession ⟨true, true⟩ input state with ⟨error | messages, after⟩
      · simp [connectLoop_of_error read]
      · rw [connectLoop_of_ok read]
        cases stored : after.negotiatedConnack with
        | none => exact ih after
        | some snapshot =>
            by_cases success : snapshot.reasonCode = some "Success"
            · simp [connectVerdict, success, stored]
            · simp [connectVerdict, success, stored]

/-- What the packet library says of result codes: the text "Success" stands for code 0, and for
MQTT 5 code 0 has no other text. -/
structure SuccessIsZero (texts : ConnackTexts) : Prop where
  v5 : ∀ reasonCode, texts.v5 reasonCode = "Success" ↔ reasonCode = 0
  v3 : ∀ returnCode, texts.v3 returnCode = "Success" → returnCode = 0

theorem acceptingConnack_of_success {texts : ConnackTexts} (documented : SuccessIsZero texts)
    {packet : Type} {inbound : InboundPacket packet} {snapshot : MqttConnackProperties}
    (taken : connackSnapshot texts inbound = some snapshot)
    (success : snapshot.reasonCode = some "Success") : AcceptingConnack inbound := by
  cases inbound with
  | v5Connack reasonCode props =>
      cases taken
      exact (documented.v5 reasonCode).mp (Option.some.inj success)
  | v3Connack returnCode =>
      cases taken
      exact documented.v3 returnCode (Option.some.inj success)
  | v5Auth => cases taken
  | other packet => cases taken

theorem rejectingConnack_of_failure {texts : ConnackTexts} {packet : Type}
    {inbound : InboundPacket packet} {snapshot : MqttConnackProperties}
    (taken : connackSnapshot texts inbound = some snapshot)
    (failure : snapshot.reasonCode ≠ some "Success") (wellRead : ¬MisreadConnack texts inbound) :
    RejectingConnack inbound := by
  have refused : ¬AcceptingConnack inbound := by
    intro accepting
    refine wellRead ⟨accepting, ?_⟩
    intro other same
    rw [taken] at same
    exact Option.some.inj same ▸ failure
  cases inbound with
  | v5Connack | v3Connack => exact refused
  | v5Auth | other => cases taken

/-- The attempt decides over a CONNACK of its own, and over none that is misread: the driver has no
snapshot when it starts or its first read decides, and no CONNACK accepts under a text that the
driver does not know. -/
structure DecidesOverOwnConnack (keepaliveSecs : Option UInt16) (cells : DriverCells stack)
    (input : ConnectInput stack) : Prop where
  own : cells.negotiatedConnack = none ∨ ∀ now events messages state,
    input.dial = .opened now → input.connect = .ok events →
      sendConnect keepaliveSecs now events cells.negotiatedConnack = (.ok messages, state) →
        FirstReadDecides input.reads state
  wellRead : ∀ packet ∈ input.packets, ¬MisreadConnack stack.texts packet

/-- The connection that the attempt opened received a packet with the property. -/
def ConnectOutcome.Received (outcome : ConnectOutcome stack)
    (property : InboundPacket stack.Packet → Prop) : Prop :=
  ∃ session, outcome.opened = some session ∧
    ∃ packet ∈ session.stream.packetsReceived, property packet

/-- What an attempt returns is justified by a CONNACK that its own connection received. -/
structure ConnectOutcome.Justified (before : DriverCells stack) (outcome : ConnectOutcome stack) :
    Prop where
  installed : outcome.cells.session ≠ before.session → outcome.verdict = .accepted
  accepted : outcome.verdict = .accepted → outcome.Received AcceptingConnack
  rejected : ∀ detail, outcome.verdict = .rejected detail → outcome.Received RejectingConnack

theorem justified_of_undecided {before : DriverCells stack} {outcome : ConnectOutcome stack}
    (same : outcome.cells.session = before.session)
    (undecided : outcome.verdict = .alreadyConnected ∨ outcome.verdict = .waiting ∨
      ∃ error, outcome.verdict = .failed error) : outcome.Justified before := by
  refine ⟨fun installed => absurd same installed, ?_, ?_⟩
  · intro accepted
    rw [accepted] at undecided
    simp at undecided
  · intro detail rejected
    rw [rejected] at undecided
    simp at undecided

/-- A verdict over a snapshot of the connection's own is justified. -/
theorem concludeConnect_justified (documented : SuccessIsZero stack.texts)
    (cells : DriverCells stack) (inputs : List (ReadInput stack)) (state : SessionState stack)
    (owned : SnapshotOwned (connectLoop inputs state).2)
    (wellRead : ∀ packet ∈ (connectLoop inputs state).2.session.stream.packetsReceived,
      ¬MisreadConnack stack.texts packet) :
    (concludeConnect cells (connectLoop inputs state).1
      (connectLoop inputs state).2).Justified cells := by
  obtain ⟨accepts, rejects⟩ := connectLoop_decided inputs state
  refine ⟨?_, ?_, ?_⟩
  · intro installed
    by_contra other
    exact installed (if_neg other)
  · intro accepted
    obtain ⟨snapshot, stored, success⟩ := accepts accepted
    obtain ⟨packet, received, taken⟩ := owned snapshot stored
    exact ⟨_, rfl, packet, received, acceptingConnack_of_success documented taken success⟩
  · intro detail rejected
    obtain ⟨snapshot, stored, failure⟩ := rejects detail rejected
    obtain ⟨packet, received, taken⟩ := owned snapshot stored
    exact ⟨_, rfl, packet, received,
      rejectingConnack_of_failure taken failure (wellRead packet received)⟩

/-- An attempt that decides over a CONNACK of its own is justified by it. -/
theorem ensureConnected_justified (documented : SuccessIsZero stack.texts)
    {keepaliveSecs : Option UInt16} {cells : DriverCells stack} {input : ConnectInput stack}
    (decides : cells.session = none → DecidesOverOwnConnack keepaliveSecs cells input) :
    (ensureConnected keepaliveSecs input cells).Justified cells := by
  unfold ensureConnected
  split_ifs with connected
  · exact justified_of_undecided rfl (.inl rfl)
  have decides := decides (by simpa using connected)
  split
  · exact justified_of_undecided rfl (.inr (.inr ⟨_, rfl⟩))
  · exact justified_of_undecided rfl (.inr (.inr ⟨_, rfl⟩))
  · exact justified_of_undecided rfl (.inr (.inr ⟨_, rfl⟩))
  · exact justified_of_undecided rfl (.inr (.inr ⟨_, rfl⟩))
  · rename_i now events dialled built
    obtain ⟨early, amongEarly, receivesEarly⟩ := handleConnectionEvents_receives ⟨true, true⟩ events
      [] ⟨openSession keepaliveSecs now, cells.negotiatedConnack⟩
    rcases sent : sendConnect keepaliveSecs now events cells.negotiatedConnack with
      ⟨error | messages, state⟩
    · exact justified_of_undecided rfl (.inr (.inr ⟨error, rfl⟩))
    · have reached := congrArg Prod.snd sent
      rw [sendConnect] at reached
      rw [reached] at receivesEarly
      obtain ⟨packets, among, receives⟩ := connectLoop_receives input.reads state
      have wellRead : ∀ packet ∈ (connectLoop input.reads state).2.session.stream.packetsReceived,
          ¬MisreadConnack stack.texts packet := by
        rw [receives.received, receivesEarly.received]
        intro packet received
        refine decides.wellRead packet ?_
        unfold ConnectInput.packets
        rw [built]
        rcases List.mem_append.mp received with received | received
        · exact List.mem_append_left _ (amongEarly received)
        · exact List.mem_append_right _ (among received)
      have conclude := concludeConnect_justified documented cells input.reads state
      rcases decides.own with none | first
      · have owned : SnapshotOwned state := by
          refine SnapshotOwned.receives ?_ receivesEarly
          intro snapshot stored
          rw [none] at stored
          cases stored
        exact conclude (owned.receives receives) wellRead
      · rcases connectLoop_owned (first now events messages state dialled built sent) with
          owned | waiting | ⟨error, failed⟩
        · exact conclude owned wellRead
        · refine justified_of_undecided (if_neg ?_) (.inr (.inl waiting))
          simp [waiting]
        · refine justified_of_undecided (if_neg ?_) (.inr (.inr ⟨error, failed⟩))
          simp [failed]

/-! ## Histories of attempts -/

/-- A driver and the attempts it has made, each with the cells it started from. -/
structure DriverHistory (stack : MqttStack) where
  cells : DriverCells stack
  attempts : List (DriverCells stack × ConnectOutcome stack)

/-- A driver that has made no attempt. -/
def DriverHistory.new : DriverHistory stack := ⟨⟨none, none⟩, []⟩

/-- A step of a driver: an attempt, or anything else that leaves the given cells. -/
inductive DriverOp (stack : MqttStack) where
  | connect (input : ConnectInput stack)
  | other (cells : DriverCells stack)

inductive HistoryStep (keepaliveSecs : Option UInt16) :
    DriverHistory stack → DriverOp stack → DriverHistory stack → Prop
  | connect (history : DriverHistory stack) (input : ConnectInput stack) :
      HistoryStep keepaliveSecs history (.connect input)
        { cells := (ensureConnected keepaliveSecs input history.cells).cells
          attempts := history.attempts ++
            [(history.cells, ensureConnected keepaliveSecs input history.cells)] }
  | other (history : DriverHistory stack) (cells : DriverCells stack) :
      HistoryStep keepaliveSecs history (.other cells) { history with cells }

/-- An attempt that opens a connection decides over a CONNACK of its own. -/
def OwnDecision (keepaliveSecs : Option UInt16) (history : DriverHistory stack) :
    DriverOp stack → Prop
  | .connect input =>
      history.cells.session = none → DecidesOverOwnConnack keepaliveSecs history.cells input
  | .other _ => True

/-- In a history whose attempts all decide over CONNACKs of their own, every attempt is justified by
what its connection received. -/
theorem attempts_justified (documented : SuccessIsZero stack.texts)
    {keepaliveSecs : Option UInt16} {history : DriverHistory stack}
    (run : Transition.Run (HistoryStep keepaliveSecs) (OwnDecision keepaliveSecs) .new history) :
    ∀ attempt ∈ history.attempts, attempt.2.Justified attempt.1 := by
  refine run.invariant (fun history => ∀ attempt ∈ history.attempts,
    attempt.2.Justified attempt.1) ?_ ?_
  · intro attempt made
    cases made
  · intro before op next justified met step
    cases step with
    | connect input =>
        intro attempt made
        rcases List.mem_append.mp made with earlier | last
        · exact justified attempt earlier
        · cases List.mem_singleton.mp last
          exact ensureConnected_justified documented met
    | other cells => exact justified

/-- An attempt over MQTT 5 whose connection opens, and then reads as given. -/
def attemptReading (read : SocketRead echoStack) : ConnectInput echoStack :=
  { dial := .opened 0
    connect := .ok [.requestSendPacket (.sent 0)]
    reads := [{ now := 1, read }] }

/-- An attempt that the broker accepts. -/
def acceptedAttempt : ConnectInput echoStack :=
  attemptReading (.received [.notifyPacketReceived (.v5Connack 0 []) .noHandler])

/-- An attempt in which the broker stays silent. -/
def silentAttempt : ConnectInput echoStack := attemptReading (.timedOut (.ok []))

theorem echoStack_successIsZero : SuccessIsZero echoStack.texts where
  v5 reasonCode := by
    by_cases zero : reasonCode = 0 <;> simp [echoStack, zero]
  v3 returnCode := by
    by_cases zero : returnCode = 0 <;> simp [echoStack, zero]

/-- A driver that is accepted once. -/
theorem acceptedAttempt_justified :
    (ensureConnected none acceptedAttempt ⟨none, none⟩).Justified ⟨none, none⟩ := by
  have decides : OwnDecision none DriverHistory.new (.connect acceptedAttempt) := by
    intro disconnected
    refine ⟨.inl rfl, ?_⟩
    intro packet arrived misread
    cases List.mem_singleton.mp arrived
    exact misread.2 _ rfl rfl
  exact attempts_justified echoStack_successIsZero
    (.tail (.refl _) decides (.connect _ acceptedAttempt)) _ (List.mem_singleton.mpr rfl)

/-- After an accepted connection is lost, a silent broker is taken for one that accepts. -/
theorem silentAttempt_accepted :
    ∃ history : DriverHistory echoStack,
      Transition.Run (HistoryStep none) (fun _ _ => True) .new history ∧
        ∃ attempt ∈ history.attempts, attempt.2.verdict = .accepted ∧
          attempt.2.opened.map (fun session => session.stream.packetsReceived) = some [] ∧
            ¬attempt.2.Justified attempt.1 := by
  refine ⟨_, .tail (.tail (.tail (.refl _) trivial (.connect _ acceptedAttempt)) trivial
      (.other _
        ⟨none, (ensureConnected none acceptedAttempt ⟨none, none⟩).cells.negotiatedConnack⟩))
      trivial (.connect _ silentAttempt),
    _, List.mem_append_right _ (List.mem_singleton.mpr rfl), rfl, rfl, ?_⟩
  intro justified
  obtain ⟨session, opened, packet, received, -⟩ := justified.accepted rfl
  cases opened
  cases received

end Mqtt
end Ferredge
