import Ferredge.Mqtt.DriverStep

/-!
# Connections of one driver

A session is in the slot, or some task owns it and may put it back, or a task still holds it
although it has failed.  Counting these bounds the broker connections that are open at a time.
-/

namespace Ferredge
namespace Mqtt

variable {stack : MqttStack}

/-- A session counts as a live connection until the broker has closed its end. -/
def liveEnd (session : MqttClientSession stack) : Nat :=
  if session.stream.peerOpen then 1 else 0

theorem liveEnd_le_one (session : MqttClientSession stack) : liveEnd session ≤ 1 := by
  unfold liveEnd
  split_ifs <;> simp

/-! ## Sessions held by tasks -/

/-- The sessions that a listener has checked out of the slot. -/
@[simp]
def ListenerPoint.owned : ListenerPoint stack → List (MqttClientSession stack)
  | drain session | send session _ | ack session _ | respond session _ _ | poll session
  | restore session _ => [session]
  | replayLoad _ session => [session]
  | replaySubscriptions _ replay | replaySubscriptionAck _ replay | replayQueued _ replay
  | replayQueuedAck _ replay | recovered _ replay => [replay.session]
  | _ => []

/-- The failed sessions that a listener has not dropped yet. -/
@[simp]
def ListenerPoint.failed : ListenerPoint stack → List (MqttClientSession stack)
  | clear _ session => [session]
  | replayFailed locals session => [session, locals.failed]
  | reconnectTest locals | reconnectSlept locals | reconnectTake locals | replayLoad locals _
  | replaySubscriptions locals _ | replaySubscriptionAck locals _ | replayQueued locals _
  | replayQueuedAck locals _ | recovered locals _ | forwardRecovered locals _
  | reconnectEnded locals | reconnectGivenUp locals => [locals.failed]
  | _ => []

/-- The session that an attempt to connect is opening. -/
@[simp]
def ConnectPoint.owned : ConnectPoint stack → List (MqttClientSession stack)
  | test | dial => []
  | hello session | handshake session | install session => [session]

/-- The failed session of the listener that reconnects. -/
@[simp]
def ConnectPurpose.failed : ConnectPurpose stack → List (MqttClientSession stack)
  | reconnect _ locals => [locals.failed]
  | _ => []

/-- The sessions that a task has checked out of the slot, or opened to put them there. -/
@[simp]
def TaskPoint.owned : TaskPoint stack → List (MqttClientSession stack)
  | connect _ point => point.owned
  | directSend _ session | directAck _ session | restoreSession session _ => [session]
  | listener _ point => point.owned
  | stop _ (.disconnect session) => [session]
  | _ => []

/-- The failed sessions that a task has not dropped yet. -/
@[simp]
def TaskPoint.failed : TaskPoint stack → List (MqttClientSession stack)
  | connect purpose _ => purpose.failed
  | clearSession _ session | recheckRunning _ session => [session]
  | fallBack _ session => session.toList
  | listener _ point => point.failed
  | _ => []

/-- The attempt has found the slot empty and is about to open a connection. -/
def ConnectPoint.dialling : ConnectPoint stack → Nat
  | dial => 1
  | test | hello _ | handshake _ | install _ => 0

@[simp]
def TaskPoint.dialling : TaskPoint stack → Nat
  | connect _ point => point.dialling
  | _ => 0

/-- Live connections among the sessions that a task holds. -/
def TaskPoint.live (point : TaskPoint stack) : Nat :=
  Ledger.total liveEnd (point.owned ++ point.failed)

/-- Connections that a task stands for: those it may put into the slot, whether or not they are
still open, those it is about to open, and the failed ones that are still open. -/
def TaskPoint.claims (point : TaskPoint stack) : Nat :=
  point.owned.length + point.dialling + Ledger.total liveEnd point.failed

theorem total_liveEnd_le_length (sessions : List (MqttClientSession stack)) :
    Ledger.total liveEnd sessions ≤ sessions.length := by
  induction sessions with
  | nil => simp
  | cons session sessions ih =>
      have one := liveEnd_le_one session
      simp only [Ledger.total_cons, List.length_cons]
      omega

theorem live_le_claims (point : TaskPoint stack) : point.live ≤ point.claims := by
  have owned := total_liveEnd_le_length point.owned
  simp only [TaskPoint.live, TaskPoint.claims, Ledger.total_append]
  omega

namespace DriverSystem

/-- Live connections of the driver: in the slot and in the hands of its tasks. -/
def liveConnections (system : DriverSystem stack) : Nat :=
  Ledger.total liveEnd system.shared.session.toList +
    Ledger.total TaskPoint.live system.tasks

/-- Connections that the slot and the tasks stand for. -/
def claims (system : DriverSystem stack) : Nat :=
  system.shared.session.toList.length + Ledger.total TaskPoint.claims system.tasks

/-- There is at most one live connection, and while a task has a session checked out nothing is in
the slot that putting the session back would overwrite. -/
structure OneConnection (system : DriverSystem stack) : Prop where
  live : system.liveConnections ≤ 1
  vacant : ∀ point ∈ system.tasks, point.owned ≠ [] → system.shared.session = none

theorem oneConnection_of_claims {system : DriverSystem stack} (claimed : system.claims ≤ 1) :
    system.OneConnection := by
  unfold claims at claimed
  refine ⟨?_, ?_⟩
  · have tasks := Ledger.total_le_total live_le_claims system.tasks
    have slot := total_liveEnd_le_length system.shared.session.toList
    unfold liveConnections
    omega
  · intro point member owns
    have share := Ledger.le_total TaskPoint.claims member
    have owned := List.length_pos_of_ne_nil owns
    have claims : point.owned.length ≤ point.claims := by
      unfold TaskPoint.claims
      omega
    cases stored : system.shared.session with
    | none => rfl
    | some session =>
        rw [stored, Option.toList_some, List.length_singleton] at claimed
        omega

end DriverSystem

/-! ## What a step does to connections -/

theorem claims_afterConnect (purpose : ConnectPurpose stack) (result : Except String Unit) :
    (afterConnect purpose result).claims = Ledger.total liveEnd purpose.failed := by
  cases purpose <;> cases result <;> simp [afterConnect, TaskPoint.claims]

theorem claims_connect (purpose : ConnectPurpose stack) (point : ConnectPoint stack) :
    (TaskPoint.connect purpose point).claims =
      point.owned.length + point.dialling + Ledger.total liveEnd purpose.failed :=
  rfl

theorem claims_onward {purpose : ConnectPurpose stack} {next : TaskPoint stack}
    (onward : purpose.Onward next) : next.claims ≤ 1 + Ledger.total liveEnd purpose.failed := by
  cases onward with
  | returns => simp [claims_afterConnect]
  | stays point => cases point <;> simp [claims_connect, ConnectPoint.dialling]

theorem claims_listener (channel : Nat) (point : ListenerPoint stack) :
    (TaskPoint.listener channel point).claims =
      point.owned.length + Ledger.total liveEnd point.failed :=
  rfl

theorem claims_afterCommandSend (channel : Nat) (command : DriverCall)
    (sent : Except String Unit × SessionState stack) :
    (TaskPoint.listener channel (afterCommandSend command sent)).claims = 1 := by
  obtain ⟨error | _, state⟩ := sent <;> simp [afterCommandSend, claims_listener]

theorem claims_afterCommandAck (channel : Nat) (command : DriverCall)
    (answer : Except String (List RoutedMessage) × SessionState stack) :
    (TaskPoint.listener channel (afterCommandAck command answer)).claims = 1 := by
  obtain ⟨result, state⟩ := answer
  simp [afterCommandAck, claims_listener]

theorem claims_afterRespond (channel : Nat) (session : MqttClientSession stack)
    (response : Except String SessionCommandResult) :
    (TaskPoint.listener channel (afterRespond session response)).claims ≤ 1 := by
  cases response <;> simp [afterRespond, claims_listener, liveEnd_le_one]

theorem claims_afterPoll (channel : Nat)
    (answer : Except String (List RoutedMessage) × SessionState stack) :
    (TaskPoint.listener channel (afterPoll answer)).claims ≤ 1 := by
  obtain ⟨error | _, state⟩ := answer <;> simp [afterPoll, claims_listener, liveEnd_le_one]

theorem claims_afterRecovered (channel : Nat) (locals : Reconnect stack)
    (events : List RoutedEvent) :
    (TaskPoint.listener channel (afterRecovered locals events)).claims ≤
      liveEnd locals.failed := by
  unfold afterRecovered
  split <;> simp [claims_listener]

/-- A replay goes on with its session, or fails with it. -/
theorem claims_replayFailed (channel : Nat) (locals : Reconnect stack)
    (session : MqttClientSession stack) :
    (TaskPoint.listener channel (.replayFailed locals session)).claims ≤
      1 + liveEnd locals.failed := by
  simp [claims_listener, liveEnd_le_one]

theorem claims_afterReplaySend (channel : Nat) (locals : Reconnect stack) (replay : Replay stack)
    {next : Reconnect stack → Replay stack → ListenerPoint stack}
    (goesOn : ∀ replay, (TaskPoint.listener channel (next locals replay)).claims =
      1 + liveEnd locals.failed)
    (sent : Except String Unit × SessionState stack) :
    (TaskPoint.listener channel (afterReplaySend locals replay next sent)).claims ≤
      1 + liveEnd locals.failed := by
  obtain ⟨error | _, state⟩ := sent
  · exact claims_replayFailed channel locals state.session
  · exact Nat.le_of_eq (goesOn _)

theorem claims_afterReplayAck (channel : Nat) (locals : Reconnect stack) (replay : Replay stack)
    {next : Reconnect stack → Replay stack → ListenerPoint stack}
    (goesOn : ∀ replay, (TaskPoint.listener channel (next locals replay)).claims =
      1 + liveEnd locals.failed)
    (answer : Except String (List RoutedMessage) × SessionState stack) :
    (TaskPoint.listener channel (afterReplayAck locals replay next answer)).claims ≤
      1 + liveEnd locals.failed := by
  obtain ⟨error | _, state⟩ := answer
  · exact claims_replayFailed channel locals state.session
  · exact Nat.le_of_eq (goesOn _)

theorem claims_afterReply (call : DriverCall) (response : Except String SessionCommandResult) :
    (afterReply call response : TaskPoint stack).claims = 0 := by
  rcases response with error | _ | events
  · rfl
  · rfl
  · unfold afterReply
    split_ifs <;> rfl

theorem claims_afterDirectSend (call : DriverCall)
    (sent : Except String Unit × SessionState stack) : (afterDirectSend call sent).claims ≤ 1 := by
  obtain ⟨error | _, state⟩ := sent <;>
    simp [afterDirectSend, TaskPoint.claims, liveEnd_le_one]

theorem claims_afterDirectAck (call : DriverCall)
    (answer : Except String (List RoutedMessage) × SessionState stack) :
    (afterDirectAck call answer).claims ≤ 1 := by
  obtain ⟨error | _, state⟩ := answer <;>
    simp [afterDirectAck, TaskPoint.claims, liveEnd_le_one]

theorem claims_closeFailed (point : TaskPoint stack) : point.closeFailed.claims ≤ point.claims := by
  have closed (locals : Reconnect stack) : liveEnd locals.closed.failed = 0 := rfl
  cases point with
  | connect purpose point =>
      cases purpose with
      | reconnect channel locals =>
          have dropped : Ledger.total liveEnd [locals.closed.failed] ≤
              Ledger.total liveEnd [locals.failed] := by
            simp [closed]
          rw [TaskPoint.closeFailed, claims_connect, claims_connect]
          exact Nat.add_le_add_left dropped _
      | start | listening | call => exact Nat.le_refl _
  | listener channel point =>
      cases point <;>
        simp [TaskPoint.closeFailed, ListenerPoint.closeFailed, claims_listener, closed]
  | _ => exact Nat.le_refl _

/-- A step takes a session from one place to another or drops it, unless it finds the slot empty and
goes on to open a connection. -/
theorem TaskStep.claims_le {config : MqttEndpointConfig} {shared after : DriverShared stack}
    {point next : TaskPoint stack} {label : StepLabel stack}
    (step : TaskStep config shared point label after next) :
    after.session.toList.length + next.claims ≤ shared.session.toList.length + point.claims ∨
      ∃ purpose, point = .connect purpose .test ∧ label = .internal ∧ shared.session = none ∧
        after = shared ∧ next = .connect purpose .dial := by
  refine or_iff_not_imp_right.mpr fun connected => ?_
  cases step with
  | connectEmpty empty => exact absurd ⟨_, rfl, rfl, empty, rfl, rfl⟩ connected
  | connectFound | connectUnbuilt => simp [claims_afterConnect, claims_connect]
  | connectDial => exact Nat.add_le_add_left (claims_onward (onward_afterDial _ _ _)) _
  | connectHello => exact Nat.add_le_add_left (claims_onward (onward_afterHello _ _)) _
  | connectRead => exact Nat.add_le_add_left (claims_onward (onward_afterRound _ _)) _
  | connectInstall =>
      rw [claims_afterConnect, claims_connect]
      cases shared.session <;> simp [installSession]
  | reply => exact Nat.add_le_add_left (Nat.le_of_eq (claims_afterReply _ _)) _
  | directSend => exact Nat.add_le_add_left (claims_afterDirectSend _ _) _
  | directAck => exact Nat.add_le_add_left (claims_afterDirectAck _ _) _
  | commandSend => exact Nat.add_le_add_left (Nat.le_of_eq (claims_afterCommandSend _ _ _)) _
  | respond => exact Nat.add_le_add_left (claims_afterRespond _ _ _) _
  | poll => exact Nat.add_le_add_left (claims_afterPoll _ _) _
  | @recovered channel locals replay =>
      have dropped := claims_afterRecovered channel locals replay.recovered
      simp only [claims_listener, ListenerPoint.owned, ListenerPoint.failed, Ledger.total_cons,
        Ledger.total_nil, Option.toList_some, List.length_singleton] at dropped ⊢
      omega
  | replaySubscription | replayRequest =>
      exact Nat.add_le_add_left (claims_afterReplaySend _ _ _ (fun _ => rfl) _) _
  | replaySubscriptionAck | replayRequestAck =>
      exact Nat.add_le_add_left (claims_afterReplayAck _ _ _ (fun _ => rfl) _) _
  | peerCloses => exact Nat.add_le_add_left (claims_closeFailed point) _
  | commandAck => exact Nat.add_le_add_left (Nat.le_of_eq (claims_afterCommandAck _ _ _)) _
  | replayFailed =>
      simp [claims_listener]
      omega
  | _ =>
      clear connected
      simp_all [TaskPoint.claims, ConnectPoint.dialling, DriverShared.record, DriverShared.hand,
        DriverShared.setChannel, DriverShared.dropReceiver, DriverShared.closeReplies,
        DriverShared.enqueue]

/-! ## Runs -/

/-- A call of `ensure_connected` that finds the slot empty is the only one that is about to open a
connection, and no task holds a session: none is checked out or being opened, and no failed one is
still open. -/
def ConnectsAlone (system : DriverSystem stack) : Nat × StepLabel stack → Prop
  | (index, .internal) => ∀ purpose, system.tasks[index]? = some (.connect purpose .test) →
      system.shared.session = none → ∀ point ∈ system.tasks, point.claims = 0
  | _ => True

theorem claims_step {config : MqttEndpointConfig} {before after : DriverSystem stack}
    {label : Nat × StepLabel stack} (claimed : before.claims ≤ 1)
    (alone : ConnectsAlone before label) (step : SystemStep config before label after) :
    after.claims ≤ 1 := by
  unfold DriverSystem.claims at claimed ⊢
  cases step with
  | task located step =>
      obtain ⟨remainder, whole, replaced⟩ := Ledger.total_split TaskPoint.claims located
      dsimp only
      rw [replaced]
      rcases step.claims_le with moved | ⟨purpose, rfl, rfl, empty, rfl, rfl⟩
      · omega
      · have nothing := Ledger.total_eq_zero (alone purpose located empty)
        have single : (TaskPoint.connect purpose .dial).claims =
            (TaskPoint.connect purpose .test).claims + 1 := by
          simp only [claims_connect, ConnectPoint.owned, ConnectPoint.dialling, List.length_nil]
          omega
        rw [empty, Option.toList_none, List.length_nil]
        omega
  | spawn located =>
      obtain ⟨remainder, whole, replaced⟩ := Ledger.total_split TaskPoint.claims located
      dsimp only
      have listener (channel : Nat) :
          (TaskPoint.listener channel (.loopTest : ListenerPoint stack)).claims = 0 := rfl
      have handle (channel : Nat) : (TaskPoint.storeHandle channel : TaskPoint stack).claims = 0 :=
        rfl
      rw [Ledger.total_append, replaced, Ledger.total_cons, Ledger.total_nil, listener, handle]
      omega

theorem claims_begin (operations : List DriverOperation) :
    (DriverSystem.begin operations : DriverSystem stack).claims = 0 := by
  rw [DriverSystem.claims, Ledger.total_eq_zero]
  · rfl
  · exact forall_begin _ operations rfl rfl (fun _ => rfl) (fun _ => rfl) fun _ => rfl

/-- In a run in which every attempt to connect is alone, there is at most one live connection at any
time, and a session that is put back never overwrites another. -/
theorem oneConnection_of_connectsAlone {config : MqttEndpointConfig}
    {operations : List DriverOperation} {system : DriverSystem stack}
    (run : Transition.Run (SystemStep config) ConnectsAlone (.begin operations) system) :
    system.OneConnection := by
  refine DriverSystem.oneConnection_of_claims ?_
  refine run.invariant (fun system => system.claims ≤ 1) ?_ ?_
  · rw [claims_begin]
    exact Nat.zero_le 1
  · intro before label next claimed alone step
    exact claims_step claimed alone step

/-- A publish call connects, checks its session out and puts it back, and `start`, which has waited
in the meantime, finds it in the slot. -/
theorem start_connectsOnce :
    ∃ checkedOut restored : DriverSystem echoStack,
      checkedOut.OneConnection ∧ checkedOut.shared.session = none ∧
      checkedOut.liveConnections = 1 ∧ restored.OneConnection ∧
      restored.shared.session.isSome ∧ restored.liveConnections = 1 ∧
      restored.tasks = [.finished, .finished] := by
  have taken : Transition.Run (SystemStep brokerDevice.endpoint) ConnectsAlone
      (.begin [.call .publish (publishRequest "a"), .start] : DriverSystem echoStack) _ :=
    (Transition.Run.refl _)
    |>.perform (0, .internal) (by rintro _ ⟨⟩) (.task rfl (.direct rfl))
    |>.perform (0, .internal) (by rintro _ _ _ _ (⟨⟩ | ⟨_, ⟨⟩ | ⟨_, ⟨⟩⟩⟩) <;> rfl)
      (.task rfl (.connectEmpty rfl))
    |>.perform (0, .dial (.opened 0)) trivial (.task rfl .connectDial)
    |>.perform (0, .hello (.ok [])) trivial (.task rfl (.connectHello rfl))
    |>.perform (0, .read acceptedRead) trivial (.task rfl (.connectRead rfl))
    |>.perform (0, .internal) (by rintro _ ⟨⟩) (.task rfl .connectInstall)
    |>.perform (0, .internal) (by rintro _ ⟨⟩) (.task rfl (.takeSession rfl))
  have found := taken
    |>.perform (0, .send (unansweredExchange (.sent 1)).send) trivial (.task rfl (.directSend rfl))
    |>.perform (0, .read publishedRead) trivial (.task rfl (.directAck rfl))
    |>.perform (0, .internal) (by rintro _ ⟨⟩) (.task rfl .restoreSession)
    |>.perform (0, .internal) (by rintro _ ⟨⟩) (.task rfl .handedOverDirect)
    -- The slot is full again.
    |>.perform (1, .internal) (by rintro _ _ ⟨⟩) (.task rfl (.connectFound rfl))
  exact ⟨_, _, oneConnection_of_connectsAlone taken, rfl, rfl,
    oneConnection_of_connectsAlone found, rfl, rfl, rfl⟩

/-- A publish call has the session checked out when `start` finds the slot empty and connects a
second time. -/
theorem start_connectsTwice :
    ∃ system : DriverSystem echoStack,
      Transition.Run (SystemStep brokerDevice.endpoint) (fun _ _ => True)
        (.begin [.call .publish (publishRequest "a"), .start]) system ∧
      system.liveConnections = 2 := by
  refine ⟨_, (Transition.Run.refl _)
    |>.perform (0, .internal) trivial (.task rfl (.direct rfl))
    |>.perform (0, .internal) trivial (.task rfl (.connectEmpty rfl))
    |>.perform (0, .dial (.opened 0)) trivial (.task rfl .connectDial)
    |>.perform (0, .hello (.ok [])) trivial (.task rfl (.connectHello rfl))
    |>.perform (0, .read acceptedRead) trivial (.task rfl (.connectRead rfl))
    |>.perform (0, .internal) trivial (.task rfl .connectInstall)
    |>.perform (0, .internal) trivial (.task rfl (.takeSession rfl))
    |>.perform (1, .internal) trivial (.task rfl (.connectEmpty rfl))
    |>.perform (1, .dial (.opened 2)) trivial (.task rfl .connectDial), ?_⟩
  rfl

end Mqtt
end Ferredge
