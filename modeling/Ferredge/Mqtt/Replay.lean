import Ferredge.Core.Device
import Ferredge.Mqtt.Session

/-!
# Recovery after a reconnect

Requests that could not be handed to the broker wait in the recovery queue.  After a reconnect the
driver replays its desired subscriptions and then everything in the queue over the new session.
-/

namespace Ferredge
namespace Mqtt

variable {stack : MqttStack}

/-! ## Desired subscriptions -/

/-- Inserts into a map kept as a list in the order of its keys. -/
def insertKey {value : Type} (key : String) (item : value) :
    List (String × value) → List (String × value)
  | [] => [(key, item)]
  | (other, kept) :: entries =>
      if key < other then (key, item) :: (other, kept) :: entries
      else if key = other then (key, item) :: entries
      else (other, kept) :: insertKey key item entries

def removeKey {value : Type} (key : String) (entries : List (String × value)) :
    List (String × value) :=
  entries.filter fun entry => entry.1 ≠ key

/-- The topic filter that a subscription request is about. -/
def requestTopicKey (request : MqttPacketRequest) : Option String :=
  match request.packet with
  | .v5Subscribe subscribe _ | .v3Subscribe subscribe => subscribe.entries.head?.map Prod.fst
  | .v5Unsubscribe unsubscribe _ | .v3Unsubscribe unsubscribe => unsubscribe.entries.head?
  | _ => none

/-- Records a subscription request in the desired subscriptions. -/
def trackSubscriptionIntent (request : MqttPacketRequest)
    (desired : List (String × MqttPacketRequest)) : List (String × MqttPacketRequest) :=
  match requestTopicKey request, request.packet with
  | some topic, .v5Subscribe _ _ | some topic, .v3Subscribe _ => insertKey topic request desired
  | some topic, .v5Unsubscribe _ _ | some topic, .v3Unsubscribe _ => removeKey topic desired
  | _, _ => desired

/-! ## The recovery queue -/

/-- A request in the recovery queue, with the call of the driver that left it there. -/
structure QueuedRequest where
  call : Nat
  request : MqttPacketRequest
  deriving DecidableEq

/-- Appends a request to the recovery queue; a full queue gives up its oldest request. -/
def enqueueRecoveryRequest (reconnect : BrokerReconnectConfig) (entry : QueuedRequest)
    (queue : List QueuedRequest) : Except String (List QueuedRequest) :=
  if !reconnect.queueRequestsWhileDisconnected then .error "MQTT recovery queue is disabled"
  else if reconnect.maxQueuedRequests.toNat ≤ queue.length then .ok (queue.tail ++ [entry])
  else .ok (queue ++ [entry])

/-- What the library and the network do while a request is sent and its answer awaited. -/
structure ExchangeInput (stack : MqttStack) where
  send : SendInput stack
  read : ReadInput stack

/-- Sends a request and reads once from the session. -/
def exchange (observers : Observers) (request : MqttPacketRequest) (input : ExchangeInput stack)
    (state : SessionState stack) : Except String (List RoutedMessage) × SessionState stack :=
  match sendPacketRequest request input.send state with
  | (.error error, state) => (.error error, state)
  | (.ok _, state) => readFromSession observers input.read state

/-- Replays requests one after the other and collects the events that arrive meanwhile. -/
def replayRequests : List MqttPacketRequest → (Nat → ExchangeInput stack) → List RoutedEvent →
    SessionState stack → Except String (List RoutedEvent) × SessionState stack
  | [], _, recovered, state => (.ok recovered, state)
  | request :: requests, inputs, recovered, state =>
      match exchange ⟨true, true⟩ request (inputs 0) state with
      | (.error error, state) => (.error error, state)
      | (.ok messages, state) =>
          replayRequests requests (fun index => inputs (index + 1))
            (recovered ++ routedEvents messages) state

/-- What a replay leaves behind. -/
structure ReplayOutcome (stack : MqttStack) where
  result : Except String (List RoutedEvent)
  state : SessionState stack
  queue : List QueuedRequest

/-- What a replay starts from, and what happens during each of its exchanges. -/
structure ReplayInput (stack : MqttStack) where
  desired : List MqttPacketRequest
  queue : List QueuedRequest
  subscriptionInputs : Nat → ExchangeInput stack
  queuedInputs : Nat → ExchangeInput stack
  state : SessionState stack

/-- The subscriptions part of a replay. -/
def replaySubscriptions (reconnect : BrokerReconnectConfig) (input : ReplayInput stack) :
    Except String (List RoutedEvent) × SessionState stack :=
  if reconnect.replaySubscriptions then
    replayRequests input.desired input.subscriptionInputs [] input.state
  else (.ok [], input.state)

/-- Replays the desired subscriptions, then drains the recovery queue and replays what was in it. -/
def replayRecoveryStateOnSession (reconnect : BrokerReconnectConfig) (input : ReplayInput stack) :
    ReplayOutcome stack :=
  match replaySubscriptions reconnect input with
  | (.error error, state) => { result := .error error, state, queue := input.queue }
  | (.ok recovered, state) =>
      let replayed :=
        replayRequests (input.queue.map QueuedRequest.request) input.queuedInputs recovered state
      { result := replayed.1, state := replayed.2, queue := [] }

/-! ## Requests that a failed replay keeps -/

/-- The requests of a list whose packets a replay of the list does not hand to the socket. -/
def unwrittenRequests : List QueuedRequest → (Nat → ExchangeInput stack) → SessionState stack →
    List QueuedRequest
  | [], _, _ => []
  | entry :: entries, inputs, state =>
      let unwritten :=
        match exchange ⟨true, true⟩ entry.request (inputs 0) state with
        | (.error _, _) => entries
        | (.ok _, state) => unwrittenRequests entries (fun index => inputs (index + 1)) state
      if sendReachedSocket entry.request (inputs 0).send state then unwritten
      else entry :: unwritten

/-- The queued requests that a replay does not write to its session. -/
def unwrittenQueue (reconnect : BrokerReconnectConfig) (input : ReplayInput stack) :
    List QueuedRequest :=
  match replaySubscriptions reconnect input with
  | (.error _, _) => input.queue
  | (.ok _, state) => unwrittenRequests input.queue input.queuedInputs state

/-- Every request of a list reaches the socket, and the replay fails only over the last one. -/
def OnlyLastFails : List QueuedRequest → (Nat → ExchangeInput stack) → SessionState stack → Prop
  | [], _, _ => False
  | [entry], inputs, state =>
      sendReachedSocket entry.request (inputs 0).send state ∧
        ∃ error after, exchange ⟨true, true⟩ entry.request (inputs 0) state = (.error error, after)
  | entry :: entries, inputs, state =>
      sendReachedSocket entry.request (inputs 0).send state ∧
        ∃ messages after,
          exchange ⟨true, true⟩ entry.request (inputs 0) state = (.ok messages, after) ∧
            OnlyLastFails entries (fun index => inputs (index + 1)) after

/-- The replay fails over its subscriptions, before it looks at the queue. -/
def FailsOverSubscriptions (reconnect : BrokerReconnectConfig) (input : ReplayInput stack) :
    Prop :=
  ∃ error state, replaySubscriptions reconnect input = (.error error, state)

/-- The replay gets over its subscriptions and writes the whole queue, and fails only then. -/
def FailsOverLastRequest (reconnect : BrokerReconnectConfig) (input : ReplayInput stack) : Prop :=
  ∃ recovered state, replaySubscriptions reconnect input = (.ok recovered, state) ∧
    OnlyLastFails input.queue input.queuedInputs state

theorem unwrittenRequests_eq_nil_iff (entries : List QueuedRequest)
    (inputs : Nat → ExchangeInput stack) (recovered : List RoutedEvent)
    (state : SessionState stack) {error : String}
    (failed : (replayRequests (entries.map QueuedRequest.request) inputs recovered state).1 =
      .error error) :
    unwrittenRequests entries inputs state = [] ↔ OnlyLastFails entries inputs state := by
  induction entries generalizing inputs recovered state with
  | nil => cases failed
  | cons entry entries ih =>
      rw [List.map_cons, replayRequests] at failed
      rcases answered : exchange ⟨true, true⟩ entry.request (inputs 0) state with
        ⟨raised | messages, after⟩
      · cases entries with
        | nil => simp [unwrittenRequests, OnlyLastFails, answered]
        | cons next entries =>
            simp only [unwrittenRequests, OnlyLastFails, answered]
            split <;> simp
      · rw [answered] at failed
        have later := ih _ _ _ failed
        cases entries with
        | nil => cases failed
        | cons next entries =>
            rw [unwrittenRequests, OnlyLastFails]
            · simp only [answered]
              by_cases reached : sendReachedSocket entry.request (inputs 0).send state
              · simp [reached, later]
              · simp [reached]
            · simp

/-- A failed replay keeps every request it has not written, in order, exactly when it fails over its
subscriptions or has written the whole queue before it fails. -/
theorem unwrittenQueue_kept_iff (reconnect : BrokerReconnectConfig) (input : ReplayInput stack)
    {error : String}
    (failed : (replayRecoveryStateOnSession reconnect input).result = .error error) :
    (unwrittenQueue reconnect input).Sublist
        (replayRecoveryStateOnSession reconnect input).queue ↔
      FailsOverSubscriptions reconnect input ∨ FailsOverLastRequest reconnect input := by
  unfold replayRecoveryStateOnSession at failed ⊢
  unfold unwrittenQueue FailsOverSubscriptions FailsOverLastRequest
  rcases replayed : replaySubscriptions reconnect input with ⟨raised | recovered, state⟩
  · simp
  · rw [replayed] at failed
    simp [unwrittenRequests_eq_nil_iff _ _ _ _ failed]

/-- A QoS 1 message for a topic. -/
def publishRequest (topic : String) : MqttPacketRequest :=
  { commandId := ⟨topic⟩
    packet := .v3Publish
      { topicName := topic
        qos := .atLeastOnce
        retain := false
        payload := []
        packetId := some 1 } }

/-- An exchange whose packet the socket takes in the given way, and whose answer does not come. -/
def unansweredExchange (outcome : WriteOutcome) : ExchangeInput echoStack :=
  { send := { acquired := .ok 7, events := [.requestSendPacket outcome] }
    read := { now := 1, read := .closed } }

/-- A replay of two queued messages in which every exchange goes the same way. -/
def replayOfTwo (queue : List QueuedRequest) (outcome : WriteOutcome) : ReplayInput echoStack :=
  { desired := []
    queue
    subscriptionInputs := fun _ => unansweredExchange outcome
    queuedInputs := fun _ => unansweredExchange outcome
    state := ⟨echoSession, none⟩ }

/-- Two messages in the order in which they were accepted. -/
def twoMessages : List QueuedRequest := [⟨0, publishRequest "a"⟩, ⟨1, publishRequest "b"⟩]

/-- The replay of a single message keeps what it has not written when only the answer is lost. -/
theorem replayOfOne_keeps :
    (unwrittenQueue .default (replayOfTwo [⟨0, publishRequest "a"⟩] (.sent 1))).Sublist
      (replayRecoveryStateOnSession .default
        (replayOfTwo [⟨0, publishRequest "a"⟩] (.sent 1))).queue :=
  (unwrittenQueue_kept_iff .default _ rfl).mpr (.inr ⟨_, _, rfl, rfl, _, _, rfl⟩)

/-- The first write fails: both messages are unwritten, and the queue is empty. -/
theorem replayOfTwo_loses :
    (replayRecoveryStateOnSession .default
        (replayOfTwo twoMessages (.writeFailed "broken pipe"))).result =
      .error "failed to write MQTT packet: broken pipe" ∧
    unwrittenQueue .default (replayOfTwo twoMessages (.writeFailed "broken pipe")) = twoMessages ∧
    ¬(unwrittenQueue .default (replayOfTwo twoMessages (.writeFailed "broken pipe"))).Sublist
      (replayRecoveryStateOnSession .default
        (replayOfTwo twoMessages (.writeFailed "broken pipe"))).queue := by
  refine ⟨rfl, rfl, ?_⟩
  intro kept
  cases kept

end Mqtt
end Ferredge
