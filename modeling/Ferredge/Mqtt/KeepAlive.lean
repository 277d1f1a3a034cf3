import Ferredge.Transition
import Ferredge.Mqtt.Connect

/-!
# Keep-alive

A session counts the data it receives as activity and looks at the time only when a read times out.
It sends a packet often enough as long as no data that it leaves unanswered comes too late after the
last one.
-/

namespace Ferredge

/-! ## What is sent, and when -/

/-- The packet is sent, at a time between the two. -/
def WriteOutcome.Within (earliest latest : Nat) : WriteOutcome → Prop
  | sent now => earliest ≤ now ∧ now ≤ latest
  | writeFailed _ | flushFailed _ => False

def AuthEvent.Within (earliest latest : Nat) : AuthEvent → Prop
  | requestSendPacket outcome => outcome.Within earliest latest
  | _ => True

/-- Every packet of the exchange is sent, at a time between the two. -/
def AuthExchange.Within (earliest latest : Nat) : AuthExchange → Prop
  | answered events => ∀ event ∈ events, event.Within earliest latest
  | _ => True

/-- Every packet that the event makes the session send is sent, at a time between the two. -/
def ConnectionEvent.Within {stack : MqttStack} (earliest latest : Nat) :
    ConnectionEvent stack → Prop
  | requestSendPacket outcome => outcome.Within earliest latest
  | notifyPacketReceived _ auth => auth.Within earliest latest
  | _ => True

def AuthEvent.sends : AuthEvent → Bool
  | requestSendPacket _ => true
  | _ => false

/-- The event makes the session send a packet. -/
def ConnectionEvent.sends {stack : MqttStack} (observers : Observers) :
    ConnectionEvent stack → Bool
  | requestSendPacket _ => true
  | notifyPacketReceived .v5Auth (.answered events) =>
      observers.authHandler && events.any AuthEvent.sends
  | _ => false

namespace Mqtt

open Transition

variable {stack : MqttStack}

/-- What a part of the session's work sends between two times. -/
structure Traffic (earliest latest : Nat) (sends : Bool)
    (before after : MqttClientSession stack) : Prop where
  keepalive : after.keepaliveSecs = before.keepaliveSecs
  quiet : sends = false → after.stream.packetsSent = before.stream.packetsSent ∧
    after.lastActivity = before.lastActivity
  sent : sends = true → before.stream.packetsSent < after.stream.packetsSent ∧
    earliest ≤ after.lastActivity ∧ after.lastActivity ≤ latest

variable {earliest latest : Nat} {before after : MqttClientSession stack}

theorem Traffic.refl (session : MqttClientSession stack) :
    Traffic earliest latest false session session :=
  ⟨rfl, fun _ => ⟨rfl, rfl⟩, nofun⟩

theorem Traffic.trans {sends sends' : Bool} {middle : MqttClientSession stack}
    (first : Traffic earliest latest sends before middle)
    (second : Traffic earliest latest sends' middle after) :
    Traffic earliest latest (sends || sends') before after := by
  refine ⟨second.keepalive.trans first.keepalive, ?_, ?_⟩
  · intro quiet
    obtain ⟨quiet, quiet'⟩ := Bool.or_eq_false_iff.mp quiet
    obtain ⟨packets, activity⟩ := first.quiet quiet
    obtain ⟨packets', activity'⟩ := second.quiet quiet'
    exact ⟨packets'.trans packets, activity'.trans activity⟩
  · intro sent
    have counted : before.stream.packetsSent ≤ middle.stream.packetsSent := by
      cases sends with
      | false => exact Nat.le_of_eq (first.quiet rfl).1.symm
      | true => exact Nat.le_of_lt (first.sent rfl).1
    cases sends' with
    | true =>
        obtain ⟨more, inTime⟩ := second.sent rfl
        exact ⟨Nat.lt_of_le_of_lt counted more, inTime⟩
    | false =>
        obtain ⟨packets, activity⟩ := second.quiet rfl
        rw [packets, activity]
        exact first.sent ((Bool.or_false sends).symm.trans sent)

theorem writePacket_traffic {outcome : WriteOutcome} (within : outcome.Within earliest latest)
    (what : String) (session : MqttClientSession stack) :
    (writePacket what outcome session).1 = .ok () ∧
      Traffic earliest latest true session (writePacket what outcome session).2 := by
  cases outcome with
  | sent now => exact ⟨rfl, rfl, nofun, fun _ => ⟨Nat.lt_succ_self _, within⟩⟩
  | writeFailed | flushFailed => exact within.elim

theorem processOutboundAuthEvents_traffic {events : List AuthEvent}
    (within : ∀ event ∈ events, event.Within earliest latest)
    (handled : processOutboundAuthEvents events before = (.ok (), after)) :
    Traffic earliest latest (events.any AuthEvent.sends) before after := by
  induction events generalizing before with
  | nil =>
      cases handled
      exact .refl _
  | cons event events ih =>
      obtain ⟨first, rest⟩ := List.forall_mem_cons.mp within
      cases event with
      | requestSendPacket outcome =>
          obtain ⟨written, traffic⟩ := writePacket_traffic first "auth packet" before
          rw [processOutboundAuthEvents] at handled
          rcases wrote : writePacket "auth packet" outcome before with ⟨result, middle⟩
          rw [wrote] at written traffic handled
          cases written
          exact traffic.trans (ih rest handled)
      | notifyError error => cases handled
      | requestClose => cases handled
      | ignored => exact ih rest handled

theorem sends_notifyPacketReceived_of_unobserved {observers : Observers}
    (unobserved : observers.authHandler = false) (packet : InboundPacket stack.Packet)
    (auth : AuthExchange) :
    (ConnectionEvent.notifyPacketReceived packet auth).sends observers = false := by
  cases packet with
  | v5Auth =>
      cases auth with
      | answered events =>
          change (observers.authHandler && events.any AuthEvent.sends) = false
          rw [unobserved, Bool.false_and]
      | noHandler | refused | noResponse | invalidResponse => rfl
  | v5Connack | v3Connack | other => rfl

theorem authorizePacket_traffic {observers : Observers} {packet : InboundPacket stack.Packet}
    {auth : AuthExchange} (within : auth.Within earliest latest)
    (handled : authorizePacket observers packet auth before = (.ok (), after)) :
    Traffic earliest latest
      ((ConnectionEvent.notifyPacketReceived packet auth).sends observers) before after := by
  unfold authorizePacket at handled
  cases observed : observers.authHandler with
  | false =>
      rw [observed] at handled
      cases handled
      rw [sends_notifyPacketReceived_of_unobserved observed]
      exact .refl _
  | true =>
      rw [observed] at handled
      cases packet with
      | v5Auth =>
          cases auth with
          | answered events =>
              change Traffic _ _ (observers.authHandler && events.any AuthEvent.sends) _ _
              rw [observed, Bool.true_and]
              exact processOutboundAuthEvents_traffic within handled
          | noHandler | refused | noResponse | invalidResponse => cases handled
      | v5Connack | v3Connack | other =>
          cases handled
          exact .refl _

theorem handleConnectionEvent_traffic {observers : Observers} {event : ConnectionEvent stack}
    {state next : SessionState stack} {message : Option RoutedMessage}
    (within : event.Within earliest latest)
    (handled : handleConnectionEvent observers event state = (.ok message, next)) :
    Traffic earliest latest (event.sends observers) state.session next.session := by
  cases event with
  | requestSendPacket outcome =>
      obtain ⟨-, traffic⟩ := writePacket_traffic within "packet" state.session
      obtain ⟨-, rfl⟩ := Prod.mk.inj handled
      exact traffic
  | notifyPacketReceived packet auth =>
      simp only [handleConnectionEvent, handlePacketReceived] at handled
      rcases authorized : authorizePacket observers packet auth
        (receivePacket packet state.session) with ⟨error | _, session⟩
      · rw [authorized] at handled
        cases handled
      · rw [authorized] at handled
        obtain ⟨-, rfl⟩ := Prod.mk.inj handled
        have traffic := authorizePacket_traffic within authorized
        exact ⟨traffic.keepalive, traffic.quiet, traffic.sent⟩
  | notifyError error => cases handled
  | requestClose => cases handled
  | housekeeping =>
      cases handled
      exact .refl _

theorem handleConnectionEvents_traffic {observers : Observers}
    {events : List (ConnectionEvent stack)} {routed messages : List RoutedMessage}
    {state next : SessionState stack} (within : ∀ event ∈ events, event.Within earliest latest)
    (handled : handleConnectionEvents observers events routed state = (.ok messages, next)) :
    Traffic earliest latest (events.any fun event => event.sends observers) state.session
      next.session := by
  induction events generalizing routed state with
  | nil =>
      cases handled
      exact .refl _
  | cons event events ih =>
      obtain ⟨first, rest⟩ := List.forall_mem_cons.mp within
      rw [handleConnectionEvents] at handled
      rcases one : handleConnectionEvent observers event state with ⟨error | message, middle⟩
      · rw [one] at handled
        cases handled
      · rw [one] at handled
        exact (handleConnectionEvent_traffic first one).trans (ih rest handled)

/-! ## Polls -/

/-- Nanoseconds of a number of seconds. -/
def nanoseconds (seconds : UInt16) : Nat :=
  seconds.toNat * 1000000000

/-- The keep-alive of a connection: the one the CONNACK asks for, or else the configured one. -/
def keepAliveInForce (serverKeepAlive keepaliveSecs : Option UInt16) : Nat :=
  nanoseconds ((serverKeepAlive.or keepaliveSecs).getD 0)

/-- The read goes without a socket error, and every packet it leads to is sent at a time between the
two.  The library asks for a PINGREQ that it is given to be sent. -/
def SocketRead.Within (earliest latest : Nat) : SocketRead stack → Prop
  | received events => ∀ event ∈ events, event.Within earliest latest
  | timedOut (.ok events) => (∃ outcome, .requestSendPacket outcome ∈ events) ∧
      ∀ event ∈ events, event.Within earliest latest
  | timedOut (.error _) => True
  | timeoutRefused _ | closed | failed _ => False

/-- The read returns data, and the session sends nothing in return. -/
def SocketRead.unanswered (observers : Observers) : SocketRead stack → Bool
  | received events => !events.any fun event => event.sends observers
  | _ => false

/-- One call of `read_from_session`, and the time at which it returns. -/
structure Poll (stack : MqttStack) where
  observers : Observers
  input : ReadInput stack
  finish : Nat

/-- A session at the end of a poll, with the time and the time of the last packet that was sent. -/
structure PolledSession (stack : MqttStack) where
  state : SessionState stack
  clock : Nat
  lastSent : Nat

/-- A poll of at most the duration `longest`.  Unless it sends a packet, at most the time `lag`
passes after its last look at the clock. -/
structure PollStep (longest lag : Nat) (before : PolledSession stack) (poll : Poll stack)
    (after : PolledSession stack) : Prop where
  began : before.clock ≤ poll.input.now
  within : poll.input.read.Within poll.input.now poll.finish
  ended : poll.finish ≤ before.clock + longest
  prompt : after.state.session.stream.packetsSent = before.state.session.stream.packetsSent →
    poll.finish ≤ poll.input.now + lag
  returned : ∃ messages,
    readFromSession poll.observers poll.input before.state = (.ok messages, after.state)
  clock : after.clock = poll.finish
  lastSent : after.lastSent =
    if before.state.session.stream.packetsSent < after.state.session.stream.packetsSent then
      after.state.session.lastActivity
    else before.lastSent

/-- A session that has just sent its CONNECT packet. -/
def Connected (keepaliveSecs : Option UInt16) (start : PolledSession stack) : Prop :=
  ∃ opened negotiated, start.clock = start.lastSent ∧
    start.state = (sendConnect keepaliveSecs opened
      [.requestSendPacket (.sent start.lastSent)] negotiated).2

/-- The last packet was sent less than the keep-alive and one poll ago. -/
def PolledSession.InTime (keepAlive longest : Nat) (session : PolledSession stack) : Prop :=
  session.clock - session.lastSent < keepAlive + longest

instance (keepAlive longest : Nat) (session : PolledSession stack) :
    Decidable (session.InTime keepAlive longest) :=
  inferInstanceAs (Decidable (_ < _))

/-- The configured keep-alive leads to a PINGREQ soon enough, and data that is left unanswered comes
early enough after the last packet that was sent. -/
def KeepsUp (keepAlive longest lag : Nat) (before : PolledSession stack) (poll : Poll stack) :
    Prop :=
  ∃ keepaliveSecs, before.state.session.keepaliveSecs = some keepaliveSecs ∧
    0 < nanoseconds keepaliveSecs ∧ nanoseconds keepaliveSecs + lag ≤ keepAlive + longest ∧
    (poll.input.read.unanswered poll.observers = true →
      poll.input.now + (nanoseconds keepaliveSecs + lag) ≤ before.lastSent + (keepAlive + longest))

/-! ## One poll -/

theorem sendKeepalivePingIfDue_traffic {now : Nat}
    {ping : Except String (List (ConnectionEvent stack))} {state next : SessionState stack}
    {keepaliveSecs : UInt16} (configured : state.session.keepaliveSecs = some keepaliveSecs)
    (positive : 0 < nanoseconds keepaliveSecs)
    (within : (SocketRead.timedOut ping).Within earliest latest)
    (handled : sendKeepalivePingIfDue now ping state = (.ok (), next)) :
    (now - state.session.lastActivity < nanoseconds keepaliveSecs ∧ next = state) ∨
      Traffic earliest latest true state.session next.session := by
  have enabled : keepaliveSecs ≠ 0 := by
    rintro rfl
    exact absurd positive (by decide)
  unfold sendKeepalivePingIfDue at handled
  split at handled
  · next absent => cases configured.symm.trans absent
  · next known present =>
      cases configured.symm.trans present
      rw [if_neg enabled] at handled
      split at handled
      · next early =>
          cases handled
          exact .inl ⟨early, rfl⟩
      · split at handled
        · cases handled
        · cases ping with
          | error error => cases handled
          | ok events =>
              obtain ⟨⟨outcome, listed⟩, within⟩ := within
              obtain ⟨result, rfl⟩ := Prod.mk.inj handled
              obtain ⟨messages, succeeded, -⟩ := Fallible.map_eq_ok.mp result
              have traffic := handleConnectionEvents_traffic within (Prod.ext succeeded rfl)
              have sends : (events.any fun event => event.sends ⟨false, false⟩) = true :=
                List.any_eq_true.mpr ⟨_, listed, rfl⟩
              rw [sends] at traffic
              exact .inr ⟨traffic.keepalive, traffic.quiet, traffic.sent⟩

variable {session session' : PolledSession stack} {poll : Poll stack}
  {keepAlive longest lag : Nat}

/-- A poll sends a packet, or counts what it received as activity, or leaves everything as it is
because the keep-alive has not passed. -/
theorem PollStep.traffic {keepaliveSecs : UInt16}
    (step : PollStep longest lag session poll session')
    (configured : session.state.session.keepaliveSecs = some keepaliveSecs)
    (positive : 0 < nanoseconds keepaliveSecs) :
    session'.state.session.keepaliveSecs = some keepaliveSecs ∧
      (session.state.session.stream.packetsSent < session'.state.session.stream.packetsSent ∧
          poll.input.now ≤ session'.state.session.lastActivity ∨
        session'.state.session.stream.packetsSent = session.state.session.stream.packetsSent ∧
          (poll.input.read.unanswered poll.observers = true ∧
              session'.state.session.lastActivity = poll.input.now ∨
            session'.state.session.lastActivity = session.state.session.lastActivity ∧
              poll.input.now - session.state.session.lastActivity <
                nanoseconds keepaliveSecs)) := by
  obtain ⟨messages, returned⟩ := step.returned
  have within := step.within
  obtain ⟨observers, ⟨now, read⟩, finish⟩ := poll
  cases read with
  | timeoutRefused | closed | failed => exact within.elim
  | received events =>
      have traffic := handleConnectionEvents_traffic within returned
      refine ⟨traffic.keepalive.trans configured, ?_⟩
      cases sends : events.any fun event => event.sends observers with
      | true =>
          obtain ⟨more, early, -⟩ := traffic.sent sends
          exact .inl ⟨more, early⟩
      | false =>
          obtain ⟨same, active⟩ := traffic.quiet sends
          refine .inr ⟨same, .inl ⟨?_, active⟩⟩
          rw [SocketRead.unanswered, sends, Bool.not_false]
  | timedOut ping =>
      obtain ⟨result, next⟩ := Prod.mk.inj returned
      obtain ⟨⟨⟩, pinged, -⟩ := Fallible.map_eq_ok.mp result
      have handled : sendKeepalivePingIfDue now ping session.state = (.ok (), session'.state) :=
        Prod.ext pinged next
      obtain ⟨early, same⟩ | traffic :=
        sendKeepalivePingIfDue_traffic configured positive within handled
      · rw [same]
        exact ⟨configured, .inr ⟨rfl, .inr ⟨rfl, early⟩⟩⟩
      · obtain ⟨more, early, -⟩ := traffic.sent rfl
        exact ⟨traffic.keepalive.trans configured, .inl ⟨more, early⟩⟩

/-- The session has sent a packet in time, and the activity that it counts is not far ahead of the
last one. -/
structure PolledSession.Paced (keepAlive longest lag : Nat) (session : PolledSession stack) :
    Prop where
  sent : session.clock < session.lastSent + (keepAlive + longest)
  active : session.state.session.lastActivity ≤ session.lastSent ∨
    ∀ keepaliveSecs, session.state.session.keepaliveSecs = some keepaliveSecs →
      session.state.session.lastActivity + (nanoseconds keepaliveSecs + lag) ≤
        session.lastSent + (keepAlive + longest)

theorem paced_step (positive : 0 < keepAlive) (paced : session.Paced keepAlive longest lag)
    (keepsUp : KeepsUp keepAlive longest lag session poll)
    (step : PollStep longest lag session poll session') :
    session'.Paced keepAlive longest lag := by
  obtain ⟨keepaliveSecs, configured, enabled, soon, inTime⟩ := keepsUp
  obtain ⟨kept, ⟨more, early⟩ | ⟨same, activity⟩⟩ := step.traffic configured enabled
  · -- a packet was sent in this poll
    have sent := step.lastSent
    rw [if_pos more] at sent
    refine ⟨?_, .inl (Nat.le_of_eq sent.symm)⟩
    have began := step.began
    have ended := step.ended
    rw [step.clock, sent]
    omega
  · have sent := step.lastSent
    rw [if_neg (Nat.not_lt_of_le (Nat.le_of_eq same))] at sent
    have prompt := step.prompt same
    obtain ⟨unanswered, active⟩ | ⟨active, early⟩ := activity
    · -- data was received and left unanswered
      have bounded := inTime unanswered
      refine ⟨?_, .inr ?_⟩
      · rw [step.clock, sent]
        omega
      · intro seconds present
        cases kept.symm.trans present
        rw [active, sent]
        exact bounded
    · -- the keep-alive has not passed
      refine ⟨?_, ?_⟩
      · rw [step.clock, sent]
        obtain behind | ahead := paced.active
        · omega
        · have bounded := ahead keepaliveSecs configured
          omega
      · rw [active, sent]
        refine paced.active.imp_right ?_
        intro ahead seconds present
        cases kept.symm.trans present
        exact ahead keepaliveSecs configured

/-- A session that has just sent its CONNECT packet has sent it in time. -/
theorem paced_connected {keepaliveSecs : Option UInt16} {start : PolledSession stack}
    (connected : Connected keepaliveSecs start) (positive : 0 < keepAlive) :
    start.Paced keepAlive longest lag := by
  obtain ⟨opened, negotiated, clock, state⟩ := connected
  refine ⟨by omega, .inl ?_⟩
  rw [state]
  exact Nat.le_refl _

/-! ## Runs -/

/-- Between the polls of a session the last packet has been sent less than the keep-alive and one
poll ago, as long as no data that is left unanswered comes too late. -/
theorem inTime_of_keepsUp {serverKeepAlive keepaliveSecs : Option UInt16}
    (positive : 0 < keepAliveInForce serverKeepAlive keepaliveSecs)
    {start : PolledSession stack} (connected : Connected keepaliveSecs start)
    (run : Run (PollStep longest lag)
      (KeepsUp (keepAliveInForce serverKeepAlive keepaliveSecs) longest lag) start session) :
    session.InTime (keepAliveInForce serverKeepAlive keepaliveSecs) longest := by
  have paced : session.Paced (keepAliveInForce serverKeepAlive keepaliveSecs) longest lag := by
    refine run.invariant _ (paced_connected connected positive) ?_
    intro before poll after paced keepsUp step
    exact paced_step positive paced keepsUp step
  have sent := paced.sent
  rw [PolledSession.InTime]
  omega

/-- A session with a keep-alive of one second that has just sent its CONNECT packet. -/
def secondSession : PolledSession echoStack where
  state := (sendConnect (some 1) 0 [.requestSendPacket (.sent 0)] none).2
  clock := 0
  lastSent := 0

/-- A poll that receives a part of a packet. -/
def partReceived (now : Nat) : Poll echoStack where
  observers := ⟨true, true⟩
  input := ⟨now, .received [.housekeeping]⟩
  finish := now

/-- A poll that times out and may send a PINGREQ at once. -/
def pollTimedOut (now : Nat) : Poll echoStack where
  observers := ⟨true, true⟩
  input := ⟨now, .timedOut (.ok [.requestSendPacket (.sent now)])⟩
  finish := now

theorem secondSession_connected : Connected (some 1) secondSession :=
  ⟨0, none, rfl, rfl⟩

/-- The state after a poll that receives a part of a packet. -/
def PolledSession.afterPart (session : PolledSession echoStack) (now : Nat) :
    PolledSession echoStack :=
  { session with
    state := (readFromSession ⟨true, true⟩ (partReceived now).input session.state).2
    clock := now }

theorem pollStep_partReceived {longest : Nat} {session : PolledSession echoStack} {now : Nat}
    (later : session.clock ≤ now) (short : now ≤ session.clock + longest) :
    PollStep longest 0 session (partReceived now) (session.afterPart now) where
  began := later
  within := fun event listed => by
    cases List.mem_singleton.mp listed
    trivial
  ended := short
  prompt := fun _ => Nat.le_refl _
  returned := ⟨[], rfl⟩
  clock := rfl
  lastSent := (if_neg (Nat.lt_irrefl _)).symm

/-- The PINGREQ of the session is due after a second, and data may come right after it. -/
theorem pinged_inTime :
    ∃ session, Run (PollStep 1000000000 0) (KeepsUp (keepAliveInForce none (some 1)) 1000000000 0)
        secondSession session ∧ session.lastSent = 1000000000 ∧
      session.InTime (keepAliveInForce none (some 1)) 1000000000 := by
  have run : Run (PollStep 1000000000 0)
      (KeepsUp (keepAliveInForce none (some 1)) 1000000000 0) secondSession
      (PolledSession.afterPart
        { state := (readFromSession ⟨true, true⟩ (pollTimedOut 1000000000).input
            secondSession.state).2
          clock := 1000000000
          lastSent := 1000000000 } 1000000005) := by
    refine ((Run.refl secondSession).perform (pollTimedOut 1000000000) ?_ ?_).perform
      (partReceived 1000000005) ?_ (pollStep_partReceived (by decide) (by decide))
    · exact ⟨1, rfl, by decide, by decide, nofun⟩
    · refine ⟨by decide, ⟨⟨_, List.mem_cons_self⟩, ?_⟩, by decide, ?_, ⟨[], rfl⟩, rfl, rfl⟩
      · intro event listed
        cases List.mem_singleton.mp listed
        exact ⟨Nat.le_refl _, Nat.le_refl _⟩
      · exact fun _ => Nat.le_refl _
    · exact ⟨1, rfl, by decide, by decide, fun _ => by decide⟩
  exact ⟨_, run, rfl, inTime_of_keepsUp (by decide) secondSession_connected run⟩

/-- Data that comes every second keeps the session from sending anything for two seconds. -/
theorem steadyData_late :
    ∃ session, Connected (some 1) secondSession ∧
      Run (PollStep 1000000000 0) (fun _ _ => True) secondSession session ∧
      ¬session.InTime (keepAliveInForce none (some 1)) 1000000000 := by
  have run : Run (PollStep 1000000000 0) (fun _ _ => True) secondSession
      ((secondSession.afterPart 1000000000).afterPart 2000000000) := (Run.refl secondSession)
    |>.perform (partReceived 1000000000) trivial
      (pollStep_partReceived (by decide) (by decide))
    |>.perform (partReceived 2000000000) trivial
      (pollStep_partReceived (by decide) (by decide))
  exact ⟨_, secondSession_connected, run, by decide⟩

end Mqtt
end Ferredge
