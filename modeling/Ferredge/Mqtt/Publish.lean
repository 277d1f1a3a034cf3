import Ferredge.Mqtt.DriverStep

/-!
# Publish calls that succeed

A publish call succeeds with the response of a listener, with an answer it reads itself, or by
leaving its request to the recovery queue.
-/

namespace Ferredge
namespace Mqtt

open Fallible Transition

variable {stack : MqttStack}

/-! ## Packets that are written -/

/-- The library asks for a packet to be sent. -/
def ConnectionEvent.asksToSend : ConnectionEvent stack → Bool
  | .requestSendPacket _ => true
  | _ => false

/-- The library reports an error, or asks for the connection to be closed. -/
def ConnectionEvent.fails : ConnectionEvent stack → Bool
  | .notifyError _ | .requestClose => true
  | _ => false

/-- For a packet that it is given to send, the library reports an error or asks for the packet to be
sent. -/
def SendInput.ReportsPacket (input : SendInput stack) : Prop :=
  input.events.any ConnectionEvent.fails = false →
    input.events.any ConnectionEvent.asksToSend = true

theorem handleConnectionEvent_sent {event : ConnectionEvent stack}
    {state after : SessionState stack} {message : Option RoutedMessage}
    (handled : handleConnectionEvent ⟨false, false⟩ event state = (.ok message, after)) :
    ConnectionEvent.fails event = false ∧
      after.session.stream.packetsSent =
        state.session.stream.packetsSent + if ConnectionEvent.asksToSend event then 1 else 0 := by
  cases event with
  | requestSendPacket outcome =>
      cases outcome with
      | sent now =>
          cases handled
          exact ⟨rfl, rfl⟩
      | writeFailed | flushFailed => cases handled
  | notifyPacketReceived packet auth =>
      obtain ⟨-, rfl⟩ := Prod.mk.inj handled
      exact ⟨rfl, rfl⟩
  | notifyError | requestClose => cases handled
  | housekeeping =>
      cases handled
      exact ⟨rfl, rfl⟩

/-- A batch that is handled without an error sends a packet for each time the library asks. -/
theorem handleConnectionEvents_sent {events : List (ConnectionEvent stack)}
    {routed messages : List RoutedMessage} {state after : SessionState stack}
    (handled : handleConnectionEvents ⟨false, false⟩ events routed state = (.ok messages, after)) :
    events.any ConnectionEvent.fails = false ∧
      after.session.stream.packetsSent =
        state.session.stream.packetsSent + events.countP ConnectionEvent.asksToSend := by
  induction events generalizing routed state with
  | nil =>
      cases handled
      exact ⟨rfl, rfl⟩
  | cons event events ih =>
      rw [handleConnectionEvents] at handled
      rcases one : handleConnectionEvent ⟨false, false⟩ event state with ⟨error | message, next⟩
      · rw [one] at handled
        cases handled
      · rw [one] at handled
        obtain ⟨passes, first⟩ := handleConnectionEvent_sent one
        obtain ⟨pass, later⟩ := ih handled
        rw [List.any_cons, passes, pass, List.countP_cons]
        exact ⟨rfl, by omega⟩

/-- A request that is sent without an error has reached the socket. -/
theorem sendReachedSocket_of_ok {request : MqttPacketRequest} {input : SendInput stack}
    {state after : SessionState stack} (reports : input.ReportsPacket)
    (sent : sendPacketRequest request input state = (.ok (), after)) :
    sendReachedSocket request input state = true := by
  rw [sendReachedSocket, sent, decide_eq_true_eq]
  unfold sendPacketRequest at sent
  split at sent
  · cases sent
  · obtain ⟨result, rfl⟩ := Prod.mk.inj sent
    obtain ⟨messages, handled, -⟩ := map_eq_ok.mp result
    obtain ⟨passes, counted⟩ := handleConnectionEvents_sent (Prod.ext handled rfl)
    have asked : 0 < input.events.countP ConnectionEvent.asksToSend := by
      rw [List.countP_pos_iff]
      exact List.any_eq_true.mp (reports passes)
    exact (Nat.lt_add_of_pos_right asked).trans_eq counted.symm

/-! ## Calls whose request is written -/

/-- The request of the call has been written to a session. -/
def Written (call : DriverCall) (shared : DriverShared stack) : Prop :=
  .attempt call.id true ∈ shared.requests

/-- The request of the call waits in the recovery queue. -/
def Queued (call : DriverCall) (shared : DriverShared stack) : Prop :=
  ⟨call.id, call.request⟩ ∈ shared.recoveryQueue

/-- A request whose answer is awaited, or was read, has been written. -/
def TaskPoint.Written (shared : DriverShared stack) : TaskPoint stack → Prop
  | directAck call _ => Mqtt.Written call shared
  | listener _ (.ack _ command) => Mqtt.Written command shared
  | listener _ (.respond _ command (.ok _)) => Mqtt.Written command shared
  | _ => True

/-- A request to which the listener has responded without an error has been written. -/
def RepliesWritten (shared : DriverShared stack) : Prop :=
  ∀ reply ∈ shared.replies, ∀ result, reply.response = .ok result → Written reply.call shared

variable {config : MqttEndpointConfig} {shared later : DriverShared stack}
  {point next : TaskPoint stack} {label : StepLabel stack}

/-- The trace of requests only grows. -/
theorem TaskStep.requests_subset (step : TaskStep config shared point label later next) :
    shared.requests ⊆ later.requests := by
  cases step with
  | senderMissing | sendCommandClosed | timeout | directSend | recheckRunning | commandSend
  | replayRequest => exact List.subset_append_left _ _
  | @reply call response earlier rest posted =>
      cases response with
      | ok result => exact List.Subset.refl _
      | error error => exact List.subset_append_left _ _
  | _ => exact List.Subset.refl _

theorem TaskPoint.Written.mono (grown : shared.requests ⊆ later.requests)
    (written : point.Written shared) : point.Written later := by
  unfold TaskPoint.Written at written ⊢
  split at written
  · exact grown written
  · exact grown written
  · exact grown written
  · trivial

theorem written_afterConnect (purpose : ConnectPurpose stack) (result : Except String Unit) :
    (afterConnect purpose result).Written shared := by
  cases purpose <;> cases result <;> trivial

theorem written_onward {purpose : ConnectPurpose stack} (onward : purpose.Onward next) :
    next.Written shared := by
  cases onward with
  | stays => trivial
  | returns => exact written_afterConnect _ _

theorem written_closeFailed (written : point.Written shared) :
    point.closeFailed.Written shared := by
  cases point with
  | connect purpose point => cases purpose <;> trivial
  | listener channel point =>
      cases point with
      | ack | respond => exact written
      | _ => trivial
  | directAck => exact written
  | _ => trivial

/-- An attempt that succeeds is on record as written. -/
theorem written_record {call : DriverCall} {input : SendInput stack}
    {session : MqttClientSession stack} {sent : Except String Unit × SessionState stack}
    (reports : input.ReportsPacket)
    (sends : sendPacketRequest call.request input (shared.sessionState session) = sent)
    (accepted : sent.1 = .ok ()) (other : DriverShared stack) :
    Written call (other.record (.attempt call.id
      (sendReachedSocket call.request input (shared.sessionState session)))) := by
  have reached := sendReachedSocket_of_ok reports (sends.trans (Prod.ext accepted rfl))
  rw [Written, reached]
  exact List.mem_append_right _ List.mem_cons_self

theorem TaskStep.written (step : TaskStep config shared point label later next)
    (reports : ∀ input, label = .send input → input.ReportsPacket)
    (written : point.Written shared) : next.Written later := by
  cases step with
  | connectFound | connectUnbuilt | connectInstall => exact written_afterConnect _ _
  | connectDial => exact written_onward (onward_afterDial _ _ _)
  | connectHello => exact written_onward (onward_afterHello _ _)
  | connectRead => exact written_onward (onward_afterRound _ _)
  | peerCloses => exact written_closeFailed written
  | @reply call response earlier rest posted =>
      rcases response with error | (_ | events)
      · trivial
      · trivial
      · change (ite _ _ _ : TaskPoint stack).Written _
        split <;> trivial
  | @directSend call session input sent sends =>
      obtain ⟨error | _, state⟩ := sent
      · trivial
      · exact written_record (reports input rfl) sends rfl _
  | @directAck call session input answer reads =>
      obtain ⟨error | messages, state⟩ := answer <;> trivial
  | @commandSend channel session command input sent sends =>
      obtain ⟨error | _, state⟩ := sent
      · trivial
      · exact written_record (reports input rfl) sends rfl _
  | @commandAck channel session command input answer reads =>
      obtain ⟨error | messages, state⟩ := answer
      · trivial
      · exact written
  | @respond channel session command response => cases response <;> trivial
  | @poll channel session input answer reads =>
      obtain ⟨error | messages, state⟩ := answer <;> trivial
  | @recovered channel locals replay =>
      unfold afterRecovered
      split <;> trivial
  | @replaySubscription channel locals session request requests queued recovered input sent sends =>
      obtain ⟨error | _, state⟩ := sent <;> trivial
  | @replayRequest channel locals session subscriptions entry entries recovered input sent sends =>
      obtain ⟨error | _, state⟩ := sent <;> trivial
  | @replaySubscriptionAck channel locals replay input answer reads =>
      obtain ⟨error | messages, state⟩ := answer <;> trivial
  | @replayRequestAck channel locals replay input answer reads =>
      obtain ⟨error | messages, state⟩ := answer <;> trivial
  | _ => trivial

theorem TaskStep.repliesWritten (step : TaskStep config shared point label later next)
    (written : point.Written shared) (replies : RepliesWritten shared) :
    RepliesWritten later := by
  have grown := step.requests_subset
  cases step with
  | @reply call response earlier rest posted =>
      intro reply member result accepted
      have listed : reply ∈ shared.replies := by
        rw [posted]
        rcases List.mem_append.mp member with member | member
        · exact List.mem_append_left _ member
        · exact List.mem_append_right _ (List.mem_cons_of_mem _ member)
      exact grown (replies reply listed result accepted)
  | @respond channel session command response =>
      intro reply member result accepted
      rw [DriverShared.respond] at member
      dsimp only at member
      split at member
      · rcases List.mem_append.mp member with member | member
        · exact grown (replies reply member result accepted)
        · obtain rfl := List.mem_singleton.mp member
          dsimp only at accepted
          subst accepted
          exact grown written
      · exact grown (replies reply member result accepted)
  | @exitClose channel queue located =>
      intro reply member result accepted
      rw [DriverShared.closeReplies] at member
      dsimp only at member
      rcases List.mem_append.mp member with member | member
      · exact grown (replies reply member result accepted)
      · obtain ⟨command, -, rfl⟩ := List.mem_map.mp member
        cases accepted
  | _ => exact fun reply member result accepted => grown (replies reply member result accepted)

/-- The library keeps its word on the packets that a step gives it to send. -/
def Reports (_ : DriverSystem stack) (label : Nat × StepLabel stack) : Prop :=
  ∀ input, label.2 = .send input → input.ReportsPacket

/-- Every request that is reported or known as written is on record as written. -/
structure DriverSystem.Written (system : DriverSystem stack) : Prop where
  replies : RepliesWritten system.shared
  tasks : ∀ point ∈ system.tasks, point.Written system.shared

theorem written_step {before after : DriverSystem stack} {label : Nat × StepLabel stack}
    (written : before.Written) (reports : Reports before label)
    (step : SystemStep config before label after) : after.Written := by
  cases step with
  | @task index point label shared next located step =>
      have moved := written.tasks point (List.mem_of_getElem? located)
      refine ⟨step.repliesWritten moved written.replies, ?_⟩
      intro other member
      rcases List.mem_or_eq_of_mem_set member with member | rfl
      · exact (written.tasks other member).mono step.requests_subset
      · exact step.written reports moved
  | @spawn index channel located =>
      refine ⟨written.replies, ?_⟩
      intro other member
      rcases List.mem_append.mp member with member | member
      · rcases List.mem_or_eq_of_mem_set member with member | rfl
        · exact written.tasks other member
        · trivial
      · obtain rfl := List.mem_singleton.mp member
        trivial

theorem written_begin (operations : List DriverOperation) :
    (DriverSystem.begin operations : DriverSystem stack).Written := by
  constructor
  · intro reply member
    cases member
  · exact forall_begin _ operations trivial trivial (fun _ => trivial) (fun _ => trivial)
      fun _ => trivial

/-- A queue that is disabled stays empty. -/
theorem recoveryQueue_step {before after : DriverSystem stack} {label : Nat × StepLabel stack}
    (disabled : config.reconnect.queueRequestsWhileDisconnected = false)
    (empty : before.shared.recoveryQueue = []) (step : SystemStep config before label after) :
    after.shared.recoveryQueue = [] := by
  cases step with
  | spawn => exact empty
  | task located step =>
      cases step with
      | enqueue =>
          rw [DriverShared.enqueue, enqueueRecoveryRequest, disabled]
          exact empty
      | drainQueue => rfl
      | _ => exact empty

/-! ## Calls that succeed -/

/-- The step by which it is settled that the call returns without an error. -/
inductive ReturnsOk (config : MqttEndpointConfig) (call : DriverCall)
    (shared : DriverShared stack) : TaskPoint stack → TaskPoint stack → Prop
  /-- The listener has responded without an error. -/
  | answered : ReturnsOk config call shared (.awaitReply call) .finished
  /-- The request is queued after the listener has failed. -/
  | queued {queue}
      (accepted : enqueueRecoveryRequest config.reconnect ⟨call.id, call.request⟩
        shared.recoveryQueue = .ok queue) :
      ReturnsOk config call shared (.fallBack call none) .finished
  /-- The call has sent its request itself; only its session is left to restore. -/
  | acknowledged {session restored events} :
      ReturnsOk config call shared (.directAck call session) (.restoreSession restored events)
  /-- The call has failed to send its request itself, and a listener has come up meanwhile. -/
  | leftBehind {failed} : ReturnsOk config call shared (.fallBack call (some failed)) .finished

/-- A request that a call leaves behind has been written, or the queue takes it. -/
def TaskPoint.Kept (config : MqttEndpointConfig) (shared : DriverShared stack) :
    TaskPoint stack → Prop
  | fallBack call (some _) =>
      config.reconnect.queueRequestsWhileDisconnected = true ∨ Mqtt.Written call shared
  | _ => True

theorem queued_enqueue {call : DriverCall} {queue : List QueuedRequest}
    (accepted : enqueueRecoveryRequest config.reconnect ⟨call.id, call.request⟩
      shared.recoveryQueue = .ok queue) : Queued call (shared.enqueue config.reconnect call) := by
  rw [Queued, DriverShared.enqueue, accepted]
  unfold enqueueRecoveryRequest at accepted
  split_ifs at accepted
  · cases accepted
    exact List.mem_append_right _ List.mem_cons_self
  · cases accepted
    exact List.mem_append_right _ List.mem_cons_self

theorem enqueueRecoveryRequest_ok {reconnect : BrokerReconnectConfig}
    (enabled : reconnect.queueRequestsWhileDisconnected = true) (entry : QueuedRequest)
    (queue : List QueuedRequest) :
    ∃ longer, enqueueRecoveryRequest reconnect entry queue = .ok longer := by
  rw [enqueueRecoveryRequest, enabled, if_neg (by simp)]
  split
  · exact ⟨_, rfl⟩
  · exact ⟨_, rfl⟩

/-- A call that is done with the listener has a response without an error. -/
theorem TaskStep.replied {call : DriverCall}
    (step : TaskStep config shared (.awaitReply call) label later next)
    (returned : next = .finished) :
    ∃ result, ⟨call, .ok result⟩ ∈ shared.replies := by
  cases step with
  | @reply _ response earlier rest posted =>
      cases response with
      | ok result =>
          refine ⟨result, ?_⟩
          rw [posted]
          exact List.mem_append_right _ List.mem_cons_self
      | error error => cases returned
  | timeout => cases returned
  | peerCloses => cases returned

/-- A call that falls back ends once it has turned to the recovery queue. -/
theorem TaskStep.enqueued {call : DriverCall} {failed : Option (MqttClientSession stack)}
    (step : TaskStep config shared (.fallBack call failed) label later next)
    (returned : next = .finished) : later = shared.enqueue config.reconnect call := by
  cases step with
  | enqueue => rfl
  | peerCloses => cases returned

/-- A call that leaves its request behind has written it before, or has it taken by the queue. -/
theorem written_or_queued_enqueue_iff {call : DriverCall} {failed : MqttClientSession stack}
    (empty : config.reconnect.queueRequestsWhileDisconnected = false → shared.recoveryQueue = []) :
    Written call (shared.enqueue config.reconnect call) ∨
        Queued call (shared.enqueue config.reconnect call) ↔
      (TaskPoint.fallBack call (some failed)).Kept config shared := by
  cases enabled : config.reconnect.queueRequestsWhileDisconnected with
  | true =>
      obtain ⟨longer, accepted⟩ :=
        enqueueRecoveryRequest_ok enabled ⟨call.id, call.request⟩ shared.recoveryQueue
      exact iff_of_true (.inr (queued_enqueue accepted)) (.inl enabled)
  | false =>
      have unqueued : ¬Queued call (shared.enqueue config.reconnect call) := by
        rw [Queued, DriverShared.enqueue, enqueueRecoveryRequest, enabled, empty enabled]
        exact List.not_mem_nil
      constructor
      · rintro (written | queued)
        · exact .inr written
        · exact absurd queued unqueued
      · rintro (taken | written)
        · rw [enabled] at taken
          cases taken
        · exact .inl written

/-- A publish call that returns without an error has written or queued its request exactly when it
does not leave it behind, neither written nor taken by the queue. -/
theorem publish_keptOrWritten_iff {operations : List DriverOperation}
    {system : DriverSystem stack} {index : Nat} {call : DriverCall}
    (run : Run (SystemStep config) Reports (.begin operations) system)
    (located : system.tasks[index]? = some point)
    (step : TaskStep config system.shared point label later next)
    (returns : ReturnsOk config call system.shared point next) :
    Written call later ∨ Queued call later ↔ point.Kept config system.shared := by
  have written : system.Written :=
    run.invariant DriverSystem.Written (written_begin operations) fun kept reports step =>
      written_step kept reports step
  cases returns with
  | answered =>
      obtain ⟨result, posted⟩ := step.replied rfl
      exact iff_of_true (.inl (step.requests_subset (written.replies _ posted result rfl))) trivial
  | queued accepted =>
      rw [step.enqueued rfl]
      exact iff_of_true (.inr (queued_enqueue accepted)) trivial
  | acknowledged =>
      have sent := written.tasks _ (List.mem_of_getElem? located)
      exact iff_of_true (.inl (step.requests_subset sent)) trivial
  | leftBehind =>
      rw [step.enqueued rfl]
      refine written_or_queued_enqueue_iff fun disabled => ?_
      exact run.invariant (fun system => system.shared.recoveryQueue = []) rfl
        fun empty _ step => recoveryQueue_step disabled empty step

/-! ## Publishing while a listener comes up -/

/-- An endpoint that does not queue requests. -/
def unqueuedEndpoint : MqttEndpointConfig :=
  { brokerDevice.endpoint with
    reconnect := { BrokerReconnectConfig.default with queueRequestsWhileDisconnected := false } }

/-- A publish call. -/
def publishCall : DriverCall := { id := 0, kind := .publish, request := publishRequest "a" }

/-- The session of a connection that the broker has accepted. -/
def acceptedSession : MqttClientSession echoStack :=
  { echoSession with
    stream := { echoSession.stream with packetsReceived := [.v5Connack 0 []] }
    lastActivity := 1 }

/-- A driver on which the publish call is about to take the session, and another call to start a
listener. -/
def connectedDriver : DriverSystem echoStack :=
  { shared :=
      { (DriverShared.new : DriverShared echoStack) with
        session := some acceptedSession
        negotiatedConnack := some { reasonCode := some "Success", reasonString := none } }
    tasks := [.takeSession publishCall, .swapRunning] }

theorem connectedDriver_reached :
    Run (SystemStep unqueuedEndpoint) Reports
      (.begin [.call .publish (publishRequest "a"), .startListening]) connectedDriver := by
  have begun : Run (SystemStep unqueuedEndpoint) Reports
      (.begin [.call .publish (publishRequest "a"), .startListening])
      (.begin [.call .publish (publishRequest "a"), .startListening] : DriverSystem echoStack) :=
    .refl _
  have run := begun
    |>.perform (0, .internal) (by rintro _ ⟨⟩) (.task rfl (.direct rfl))
    |>.perform (0, .internal) (by rintro _ ⟨⟩) (.task rfl (.connectEmpty rfl))
    |>.perform (0, .dial (.opened 0)) (by rintro _ ⟨⟩) (.task rfl .connectDial)
    |>.perform (0, .hello (.ok [])) (by rintro _ ⟨⟩) (.task rfl (.connectHello rfl))
    |>.perform (0, .read acceptedRead) (by rintro _ ⟨⟩) (.task rfl (.connectRead rfl))
    |>.perform (0, .internal) (by rintro _ ⟨⟩) (.task rfl .connectInstall)
    |>.perform (1, .internal) (by rintro _ ⟨⟩) (.task rfl (.connectFound rfl))
  exact run

/-- A send whose packet the socket takes in the given way. -/
def publishSend (outcome : WriteOutcome) : SendInput echoStack :=
  { acquired := .ok 7, events := [.requestSendPacket outcome] }

/-- A read that brings nothing. -/
def quietRead : ReadInput echoStack := { now := 3, read := .received [] }

/-- The session over which the publish call has sent its request. -/
def publishedSession : MqttClientSession echoStack :=
  { acceptedSession with
    stream := { acceptedSession.stream with packetsSent := 1 }
    lastActivity := 2 }

/-- The driver once the publish call has sent its request. -/
def awaitingDriver : DriverSystem echoStack :=
  { shared :=
      { connectedDriver.shared with
        session := none
        requests := [.attempt 0 true] }
    tasks := [.directAck publishCall publishedSession, .swapRunning] }

/-- The publish call reads an answer to the request that it has sent. -/
theorem publishCall_written :
    Run (SystemStep unqueuedEndpoint) Reports
        (.begin [.call .publish (publishRequest "a"), .startListening]) awaitingDriver ∧
      ∃ later restored, TaskStep unqueuedEndpoint awaitingDriver.shared
          (.directAck publishCall publishedSession) (.read quietRead) later
          (.restoreSession restored []) ∧
        (Written publishCall later ∨ Queued publishCall later) := by
  have run := connectedDriver_reached
    |>.perform (0, .internal) (by rintro _ ⟨⟩) (.task rfl (.takeSession rfl))
    |>.perform (0, .send (publishSend (.sent 2))) (by rintro _ ⟨⟩ _; rfl)
      (.task rfl (.directSend rfl))
  have step : TaskStep unqueuedEndpoint awaitingDriver.shared
      (.directAck publishCall publishedSession) (.read quietRead) awaitingDriver.shared
      (.restoreSession { publishedSession with lastActivity := 3 } []) := .directAck rfl
  have reached : Run (SystemStep unqueuedEndpoint) Reports
      (.begin [.call .publish (publishRequest "a"), .startListening]) awaitingDriver := run
  have located : awaitingDriver.tasks[0]? = some (.directAck publishCall publishedSession) := rfl
  exact ⟨reached, _, _, step,
    (publish_keptOrWritten_iff reached located step .acknowledged).mpr trivial⟩

/-- The driver once the publish call has failed to send its request, and a listener has come up. -/
def leavingDriver : DriverSystem echoStack :=
  { shared :=
      { connectedDriver.shared with
        session := none
        listenerRunning := true
        requests := [.attempt 0 false, .fellBack 0] }
    tasks := [.fallBack publishCall (some acceptedSession), .openChannel] }

/-- The publish call returns without an error, and its request is neither written nor queued. -/
theorem leavingDriver_losesRequest :
    Run (SystemStep unqueuedEndpoint) Reports
        (.begin [.call .publish (publishRequest "a"), .startListening]) leavingDriver ∧
      leavingDriver.tasks[0]? = some (.fallBack publishCall (some acceptedSession)) ∧
      ∃ later, TaskStep unqueuedEndpoint leavingDriver.shared
          (.fallBack publishCall (some acceptedSession)) .internal later .finished ∧
        ReturnsOk unqueuedEndpoint publishCall leavingDriver.shared
          (.fallBack publishCall (some acceptedSession)) .finished ∧
        ¬(Written publishCall later ∨ Queued publishCall later) := by
  have run := connectedDriver_reached
    |>.perform (0, .internal) (by rintro _ ⟨⟩) (.task rfl (.takeSession rfl))
    |>.perform (0, .send (publishSend (.writeFailed "broken pipe"))) (by rintro _ ⟨⟩ _; rfl)
      (.task rfl (.directSend rfl))
    |>.perform (0, .internal) (by rintro _ ⟨⟩) (.task rfl .clearSession)
    |>.perform (1, .internal) (by rintro _ ⟨⟩) (.task rfl (.swapRunning rfl))
    |>.perform (0, .internal) (by rintro _ ⟨⟩) (.task rfl (.recheckRunning rfl))
  refine ⟨run, rfl, _, .enqueue, .leftBehind, ?_⟩
  rintro (written | queued)
  · have listed : RequestTrace.attempt 0 true ∈ [.attempt 0 false, .fellBack 0] := written
    simp at listed
  · cases queued

end Mqtt
end Ferredge
