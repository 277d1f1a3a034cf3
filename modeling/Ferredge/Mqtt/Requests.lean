import Mathlib.Algebra.Group.Pi.Basic
import Mathlib.Algebra.GroupWithZero.Nat
import Ferredge.Mqtt.DriverStep

/-!
# Requests of one call

The request of a call is in the hands of its caller, in the command channel of a listener, or in the
recovery queue.  Each of these places holds a token for every copy of the request that may still be
sent from there, and every attempt to send the request uses up a token.
-/

namespace Ferredge
namespace Mqtt

variable {stack : MqttStack}

/-- What a token for a request stands for. -/
inductive RequestToken where
  /-- The caller has neither sent the request nor handed it over. -/
  | fresh
  /-- The caller has sent the request itself, and may leave it to the recovery queue. -/
  | tried
  /-- The caller waits for a response, and may leave the request to the recovery queue. -/
  | waiting
  /-- The command is in a channel, or a listener has taken it and not sent it. -/
  | unsent
  /-- A listener has sent the command, and the response is not received yet. -/
  | answered
  /-- The request is in the recovery queue, on its way there, or in a replay's hands. -/
  | queued
  deriving DecidableEq

/-! ## Tokens -/

/-- The token that a listener holds, and the call it is for. -/
def ListenerPoint.holds : ListenerPoint stack → Option (RequestToken × Nat)
  | send _ command => some (.unsent, command.id)
  | ack _ command | respond _ command _ => some (.answered, command.id)
  | _ => none

/-- The requests that a replay has drained from the queue and not sent. -/
def ListenerPoint.drained : ListenerPoint stack → List QueuedRequest
  | replaySubscriptions _ replay | replaySubscriptionAck _ replay | replayQueued _ replay
  | replayQueuedAck _ replay => replay.queued
  | _ => []

/-- The token that a task holds, and the call it is for.  A request that the queue would refuse is
given up rather than left to it. -/
def TaskPoint.holds (reconnect : BrokerReconnectConfig) :
    TaskPoint stack → Option (RequestToken × Nat)
  | track call | testRunning call | cloneSender call | sendCommand call _
  | connect (.call call) _ | takeSession call | directSend call _ => some (.fresh, call.id)
  | directAck call _ | clearSession call _ | recheckRunning call _ => some (.tried, call.id)
  | awaitReply call => some (.waiting, call.id)
  | fallBack call _ =>
      if reconnect.queueRequestsWhileDisconnected then some (.queued, call.id) else none
  | listener _ point => point.holds
  | _ => none

def TaskPoint.drained : TaskPoint stack → List QueuedRequest
  | listener _ point => point.drained
  | _ => []

/-- How many of some queued requests come from the call. -/
def queuedFor (number : Nat) (entries : List QueuedRequest) : Nat :=
  entries.countP fun entry => entry.call = number

theorem queuedFor_cons (number : Nat) (entry : QueuedRequest) (entries : List QueuedRequest) :
    queuedFor number (entry :: entries) =
      queuedFor number entries + if entry.call = number then 1 else 0 := by
  simp [queuedFor, List.countP_cons]

/-- Tokens for the requests of a call that a task holds. -/
def TaskPoint.tokens (reconnect : BrokerReconnectConfig) (number : Nat) (point : TaskPoint stack)
    (token : RequestToken) : Nat :=
  (if point.holds reconnect = some (token, number) then 1 else 0) +
    if token = .queued then queuedFor number point.drained else 0

/-- Commands of a call in a channel. -/
def CommandChannel.commandsOf (number : Nat) (channel : CommandChannel) : Nat :=
  channel.commands.countP fun command => command.id = number

/-- Tokens for the requests of a call in the shared state. -/
def DriverShared.tokens (number : Nat) (shared : DriverShared stack) : RequestToken → Nat
  | .unsent => Ledger.total (CommandChannel.commandsOf number) shared.channels
  | .answered => shared.replies.countP fun reply => reply.call.id = number
  | .queued => queuedFor number shared.recoveryQueue
  | .fresh | .tried | .waiting => 0

/-- Tokens for the requests of a call in the whole system. -/
def DriverSystem.tokens (reconnect : BrokerReconnectConfig) (number : Nat)
    (system : DriverSystem stack) : RequestToken → Nat :=
  system.shared.tokens number + Ledger.total (TaskPoint.tokens reconnect number) system.tasks

/-! ## Traces -/

/-- What happened to the request of one call. -/
inductive CallEvent where
  | attempt (written : Bool)
  | fellBack
  deriving DecidableEq

/-- The part of a trace entry that is about the call. -/
def RequestTrace.about (number : Nat) : RequestTrace → Option CallEvent
  | .attempt call written => if call = number then some (.attempt written) else none
  | .fellBack call => if call = number then some .fellBack else none

/-- What happened to the request of a call, in order. -/
def DriverShared.callTrace (number : Nat) (shared : DriverShared stack) : List CallEvent :=
  shared.requests.filterMap (RequestTrace.about number)

/-- The attempts to send a request, and whether they reached the socket. -/
def sendAttempts (events : List CallEvent) : List Bool :=
  events.filterMap fun event =>
    match event with
    | .attempt written => some written
    | .fellBack => none

/-- The attempts to send a request after its call has left it to the recovery queue. -/
def attemptsAfterFallBack : List CallEvent → List Bool
  | [] => []
  | .fellBack :: events => sendAttempts events
  | .attempt _ :: events => attemptsAfterFallBack events

/-- What a step does to the tokens of a call, and what it adds to the call's trace. -/
inductive TokenMove (timedOut : Prop) (before after : RequestToken → Nat) : List CallEvent → Prop
  /-- Tokens stay where they are, are dropped, or pass from a command to its response. -/
  | pass (fresh : after .fresh ≤ before .fresh) (tried : after .tried ≤ before .tried)
      (waiting : after .waiting ≤ before .waiting) (unsent : after .unsent ≤ before .unsent)
      (answered : after .unsent + after .answered ≤ before .unsent + before .answered)
      (queued : after .queued ≤ before .queued) : TokenMove timedOut before after []
  /-- The caller sends its command to a listener. -/
  | command (fresh : after .fresh + 1 ≤ before .fresh) (tried : after .tried ≤ before .tried)
      (waiting : after .waiting ≤ before .waiting + 1)
      (unsent : after .unsent ≤ before .unsent + 1)
      (answered : after .answered ≤ before .answered) (queued : after .queued ≤ before .queued) :
      TokenMove timedOut before after []
  /-- A listener sends the request of the command. -/
  | sendCommand (written : Bool) (fresh : after .fresh ≤ before .fresh)
      (tried : after .tried ≤ before .tried) (waiting : after .waiting ≤ before .waiting)
      (unsent : after .unsent + 1 ≤ before .unsent)
      (answered : after .answered ≤ before .answered + 1)
      (queued : after .queued ≤ before .queued) :
      TokenMove timedOut before after [.attempt written]
  /-- The caller sends the request itself. -/
  | sendDirect (written : Bool) (fresh : after .fresh + 1 ≤ before .fresh)
      (tried : after .tried ≤ before .tried + 1) (waiting : after .waiting ≤ before .waiting)
      (unsent : after .unsent ≤ before .unsent) (answered : after .answered ≤ before .answered)
      (queued : after .queued ≤ before .queued) :
      TokenMove timedOut before after [.attempt written]
  /-- A replay sends the request. -/
  | sendQueued (written : Bool) (fresh : after .fresh ≤ before .fresh)
      (tried : after .tried ≤ before .tried) (waiting : after .waiting ≤ before .waiting)
      (unsent : after .unsent ≤ before .unsent) (answered : after .answered ≤ before .answered)
      (queued : after .queued + 1 ≤ before .queued) :
      TokenMove timedOut before after [.attempt written]
  /-- The caller leaves the request to the recovery queue without having handed it over. -/
  | fallBack (fresh : after .fresh ≤ before .fresh)
      (undecided : after .fresh + after .tried + 1 ≤ before .fresh + before .tried)
      (waiting : after .waiting ≤ before .waiting) (unsent : after .unsent ≤ before .unsent)
      (answered : after .answered ≤ before .answered)
      (queued : after .queued ≤ before .queued + 1) : TokenMove timedOut before after [.fellBack]
  /-- The caller leaves the request to the recovery queue because of the response. -/
  | refused (fresh : after .fresh ≤ before .fresh) (tried : after .tried ≤ before .tried)
      (waiting : after .waiting + 1 ≤ before .waiting) (unsent : after .unsent ≤ before .unsent)
      (answered : after .answered + 1 ≤ before .answered)
      (queued : after .queued ≤ before .queued + 1) : TokenMove timedOut before after [.fellBack]
  /-- The caller leaves the request to the recovery queue for want of a response, or gives it up
  because the queue is disabled. -/
  | timeout (passed : timedOut ∨ after .queued ≤ before .queued)
      (fresh : after .fresh ≤ before .fresh)
      (tried : after .tried ≤ before .tried) (waiting : after .waiting + 1 ≤ before .waiting)
      (unsent : after .unsent ≤ before .unsent) (answered : after .answered ≤ before .answered)
      (queued : after .queued ≤ before .queued + 1) : TokenMove timedOut before after [.fellBack]

/-! ## What moves preserve -/

/-- The tokens of a call that are around, against what has happened to it already. -/
structure TokensBounded (tokens : RequestToken → Nat) (events : List CallEvent) : Prop where
  command : tokens .fresh + tokens .tried + tokens .unsent + tokens .answered ≤ 1
  undecided : tokens .fresh + tokens .tried + tokens .waiting + events.count .fellBack ≤ 1
  attempts : (sendAttempts events).length + 2 * tokens .fresh + tokens .tried + tokens .waiting +
    tokens .unsent + tokens .queued ≤ 2

/-- At most one copy of a request may still be sent once the call has left it to the queue. -/
structure SingleCopy (tokens : RequestToken → Nat) (events : List CallEvent) : Prop where
  undecided : tokens .fresh + tokens .tried + tokens .waiting + tokens .queued +
    (attemptsAfterFallBack events).length ≤ 1
  copies : tokens .unsent + tokens .queued + (attemptsAfterFallBack events).length ≤ 1

theorem sendAttempts_append (earlier later : List CallEvent) :
    sendAttempts (earlier ++ later) = sendAttempts earlier ++ sendAttempts later :=
  List.filterMap_append

variable {timedOut : Prop} {before after : RequestToken → Nat} {events new : List CallEvent}

@[simp]
theorem sendAttempts_nil : sendAttempts [] = [] := rfl

@[simp]
theorem sendAttempts_attempt (written : Bool) : sendAttempts [.attempt written] = [written] := rfl

@[simp]
theorem sendAttempts_fellBack : sendAttempts [.fellBack] = [] := rfl

@[simp]
theorem attemptsAfterFallBack_nil : attemptsAfterFallBack [] = [] := rfl

@[simp]
theorem attemptsAfterFallBack_singleton (event : CallEvent) :
    attemptsAfterFallBack [event] = [] := by
  cases event <;> rfl

theorem attemptsAfterFallBack_append (earlier later : List CallEvent) :
    attemptsAfterFallBack (earlier ++ later) =
      if earlier.count .fellBack = 0 then attemptsAfterFallBack later
      else attemptsAfterFallBack earlier ++ sendAttempts later := by
  induction earlier with
  | nil => simp
  | cons event earlier ih =>
      cases event with
      | fellBack => simp [attemptsAfterFallBack, sendAttempts_append]
      | attempt written => simpa [attemptsAfterFallBack] using ih

theorem TokensBounded.move (bounded : TokensBounded before events)
    (moved : TokenMove timedOut before after new) : TokensBounded after (events ++ new) := by
  obtain ⟨command, undecided, attempts⟩ := bounded
  constructor
  · cases moved <;> omega
  · rw [List.count_append]
    cases moved <;> simp <;> omega
  · rw [sendAttempts_append, List.length_append]
    cases moved <;> simp <;> omega

/-- While the command of a call cannot be sent any more when the call times out, no second copy of
its request comes into being. -/
theorem SingleCopy.move (single : SingleCopy before events) (bounded : TokensBounded before events)
    (moved : TokenMove timedOut before after new) (patient : timedOut → before .unsent = 0) :
    SingleCopy after (events ++ new) := by
  obtain ⟨undecided, copies⟩ := single
  obtain ⟨command, undecided', -⟩ := bounded
  constructor
  · rw [attemptsAfterFallBack_append]
    cases moved <;> split_ifs <;> simp <;> omega
  · rw [attemptsAfterFallBack_append]
    cases moved with
    | timeout passed =>
        rcases passed with passed | refused
        · have sent := patient passed
          split_ifs <;> simp <;> omega
        · split_ifs <;> simp <;> omega
    | _ => split_ifs <;> simp <;> omega

theorem balanced_initial {tokens : RequestToken → Nat}
    (fewer : ∀ token, tokens token ≤ if token = .fresh then 1 else 0) :
    TokensBounded tokens [] ∧ SingleCopy tokens [] := by
  have fresh := fewer .fresh
  have tried := fewer .tried
  have waiting := fewer .waiting
  have unsent := fewer .unsent
  have answered := fewer .answered
  have queued := fewer .queued
  simp only [reduceCtorEq, if_true, if_false] at *
  refine ⟨⟨by omega, ?_, ?_⟩, ?_, ?_⟩
  · rw [List.count_nil]
    omega
  · rw [sendAttempts_nil, List.length_nil]
    omega
  · rw [attemptsAfterFallBack_nil, List.length_nil]
    omega
  · rw [attemptsAfterFallBack_nil, List.length_nil]
    omega

/-! ## The moves of a step -/

theorem TokenMove.of_le (fewer : ∀ token, after token ≤ before token) :
    TokenMove timedOut before after [] :=
  .pass (fewer _) (fewer _) (fewer _) (fewer _) (Nat.add_le_add (fewer _) (fewer _)) (fewer _)

variable {reconnect : BrokerReconnectConfig} {number : Nat}

/-- What is recorded about one call moves no tokens of the others. -/
theorem TokenMove.of_entry {entry : RequestTrace} {event : CallEvent} {call : Nat}
    (about : entry.about number = if call = number then some event else none)
    (own : call = number → TokenMove timedOut before after [event])
    (apart : call ≠ number → ∀ token, after token ≤ before token) :
    TokenMove timedOut before after (entry.about number).toList := by
  rw [about]
  by_cases same : call = number
  · rw [if_pos same]
    exact own same
  · rw [if_neg same]
    exact .of_le (apart same)

/-- A step that leaves requests alone in the shared state moves only the task's own tokens. -/
theorem TokenMove.of_next {shared : RequestToken → Nat} {point next : TaskPoint stack}
    (fewer : ∀ token, next.tokens reconnect number token ≤ point.tokens reconnect number token) :
    TokenMove timedOut (shared + point.tokens reconnect number)
      (shared + next.tokens reconnect number) [] :=
  .of_le fun token => Nat.add_le_add_left (fewer token) _

/-- A task that holds the same token or none, and has drained the same requests or none, holds no
more than before. -/
theorem tokens_le {point next : TaskPoint stack}
    (holds : next.holds reconnect = point.holds reconnect ∨ next.holds reconnect = none)
    (drained : next.drained = point.drained ∨ next.drained = []) (token : RequestToken) :
    next.tokens reconnect number token ≤ point.tokens reconnect number token := by
  unfold TaskPoint.tokens
  rcases holds with holds | holds <;> rcases drained with drained | drained <;>
    rw [holds, drained] <;> simp [queuedFor]

theorem tokens_afterConnect (purpose : ConnectPurpose stack) (result : Except String Unit)
    (point : ConnectPoint stack) (token : RequestToken) :
    (afterConnect purpose result).tokens reconnect number token ≤
      (TaskPoint.connect purpose point).tokens reconnect number token := by
  cases purpose <;> cases result <;>
    exact tokens_le (by simp [afterConnect, TaskPoint.holds, ListenerPoint.holds])
      (by simp [afterConnect, TaskPoint.drained, ListenerPoint.drained]) token

theorem tokens_connect (purpose : ConnectPurpose stack) (point other : ConnectPoint stack)
    (token : RequestToken) :
    (TaskPoint.connect purpose point).tokens reconnect number token ≤
      (TaskPoint.connect purpose other).tokens reconnect number token := by
  refine tokens_le (.inl ?_) (.inl ?_) token
  · cases purpose <;> rfl
  · rfl

theorem tokens_onward {purpose : ConnectPurpose stack} {next : TaskPoint stack}
    (onward : purpose.Onward next) (point : ConnectPoint stack) (token : RequestToken) :
    next.tokens reconnect number token ≤
      (TaskPoint.connect purpose point).tokens reconnect number token := by
  cases onward with
  | stays other => exact tokens_connect purpose other point token
  | returns result => exact tokens_afterConnect purpose result point token

theorem tokens_afterReplayAck (channel : Nat) (locals : Reconnect stack) (replay : Replay stack)
    {point : TaskPoint stack} {next : Reconnect stack → Replay stack → ListenerPoint stack}
    (holds : ∀ replay, (next locals replay).holds = none)
    (drained : ∀ replay, (next locals replay).drained = replay.queued)
    (same : point.drained = replay.queued)
    (answer : Except String (List RoutedMessage) × SessionState stack) (token : RequestToken) :
    (TaskPoint.listener channel (afterReplayAck locals replay next answer)).tokens reconnect number
      token ≤ point.tokens reconnect number token := by
  obtain ⟨error | messages, state⟩ := answer
  · exact tokens_le (.inr rfl) (.inr rfl) token
  · refine tokens_le (.inr ?_) (.inl ?_) token
    · exact holds _
    · exact (drained _).trans same.symm

theorem tokens_afterReplaySend (channel : Nat) (locals : Reconnect stack) (replay : Replay stack)
    {point : TaskPoint stack} {next : Reconnect stack → Replay stack → ListenerPoint stack}
    (holds : ∀ replay, (next locals replay).holds = none)
    (drained : ∀ replay, (next locals replay).drained = replay.queued)
    (same : point.drained = replay.queued)
    (sent : Except String Unit × SessionState stack) (token : RequestToken) :
    (TaskPoint.listener channel (afterReplaySend locals replay next sent)).tokens reconnect number
      token ≤ point.tokens reconnect number token := by
  obtain ⟨error | messages, state⟩ := sent
  · exact tokens_le (.inr rfl) (.inr rfl) token
  · refine tokens_le (.inr ?_) (.inl ?_) token
    · exact holds _
    · exact (drained _).trans same.symm

theorem tokens_closeFailed (point : TaskPoint stack) (token : RequestToken) :
    point.closeFailed.tokens reconnect number token ≤ point.tokens reconnect number token := by
  cases point with
  | connect purpose point => cases purpose <;> exact tokens_le (.inl rfl) (.inl rfl) token
  | listener channel point => cases point <;> exact tokens_le (.inl rfl) (.inl rfl) token
  | _ => exact Nat.le_refl _

theorem callTrace_record (shared : DriverShared stack) (entry : RequestTrace) :
    (shared.record entry).callTrace number =
      shared.callTrace number ++ (entry.about number).toList := by
  unfold DriverShared.callTrace DriverShared.record
  rw [List.filterMap_append]
  cases about : entry.about number <;> simp [about]

theorem tokens_of_holds {point : TaskPoint stack} {held : RequestToken} {call : Nat}
    (number : Nat) (holds : point.holds reconnect = some (held, call))
    (drained : point.drained = []) (token : RequestToken) :
    point.tokens reconnect number token = if held = token ∧ call = number then 1 else 0 := by
  simp [TaskPoint.tokens, holds, drained, queuedFor]

theorem tokens_of_none {point : TaskPoint stack} (number : Nat)
    (holds : point.holds reconnect = none) (token : RequestToken) :
    point.tokens reconnect number token =
      if token = .queued then queuedFor number point.drained else 0 := by
  simp [TaskPoint.tokens, holds]

theorem tokens_of_idle {point : TaskPoint stack} (holds : point.holds reconnect = none)
    (drained : point.drained = []) : point.tokens reconnect number = 0 := by
  funext token
  simp [TaskPoint.tokens, holds, drained, queuedFor]

@[simp]
theorem tokens_fallBack (call : DriverCall) (failed : Option (MqttClientSession stack))
    (token : RequestToken) :
    (TaskPoint.fallBack call failed).tokens reconnect number token =
      if reconnect.queueRequestsWhileDisconnected ∧ token = .queued ∧ call.id = number then 1
      else 0 := by
  by_cases queues : reconnect.queueRequestsWhileDisconnected <;>
    simp [TaskPoint.tokens, TaskPoint.holds, TaskPoint.drained, queuedFor, queues, eq_comm]

@[simp]
theorem tokens_awaitReply (call : DriverCall) (token : RequestToken) :
    (TaskPoint.awaitReply call : TaskPoint stack).tokens reconnect number token =
      if token = .waiting ∧ call.id = number then 1 else 0 := by
  simp [TaskPoint.tokens, TaskPoint.holds, TaskPoint.drained, queuedFor, eq_comm]

section Recorded

variable {shared : RequestToken → Nat} {point next : TaskPoint stack} {call : Nat}

/-- A listener sends the request of a command that it has taken. -/
theorem TokenMove.of_commandSend (written : Bool)
    (before : point.holds reconnect = some (.unsent, call)) (none : point.drained = [])
    (after : next.holds reconnect = some (.answered, call)) (drained : next.drained = []) :
    TokenMove timedOut (shared + point.tokens reconnect number)
      (shared + next.tokens reconnect number)
      ((RequestTrace.attempt call written).about number).toList := by
  have earlier := tokens_of_holds number before none
  have later := tokens_of_holds number after drained
  refine .of_entry rfl (fun own => ?_) fun apart token => ?_
  · apply TokenMove.sendCommand <;> simp [earlier, later, own]
  · simp [earlier, later, apart]

/-- The caller sends the request on the session that it has checked out. -/
theorem TokenMove.of_directSend (written : Bool)
    (before : point.holds reconnect = some (.fresh, call)) (none : point.drained = [])
    (after : next.holds reconnect = some (.tried, call)) (drained : next.drained = []) :
    TokenMove timedOut (shared + point.tokens reconnect number)
      (shared + next.tokens reconnect number)
      ((RequestTrace.attempt call written).about number).toList := by
  have earlier := tokens_of_holds number before none
  have later := tokens_of_holds number after drained
  refine .of_entry rfl (fun own => ?_) fun apart token => ?_
  · apply TokenMove.sendDirect <;> simp [earlier, later, own]
  · simp [earlier, later, apart]

/-- A replay sends the first of the requests that it has drained from the queue. -/
theorem TokenMove.of_replay (written : Bool) {entry : QueuedRequest} {entries : List QueuedRequest}
    (before : point.holds reconnect = none) (first : point.drained = entry :: entries)
    (after : next.holds reconnect = none) (drained : next.drained = entries ∨ next.drained = []) :
    TokenMove timedOut (shared + point.tokens reconnect number)
      (shared + next.tokens reconnect number)
      ((RequestTrace.attempt entry.call written).about number).toList := by
  have earlier := tokens_of_none number before
  have later := tokens_of_none number after
  rw [first] at earlier
  have fewer : queuedFor number next.drained ≤ queuedFor number entries := by
    rcases drained with drained | drained <;> simp [drained, queuedFor]
  refine .of_entry rfl (fun own => ?_) fun apart token => ?_
  · apply TokenMove.sendQueued <;> simp [earlier, later]
    rw [queuedFor_cons, if_pos own]
    omega
  · by_cases queued : token = .queued
    · simpa [earlier, later, queued, queuedFor_cons, apart] using fewer
    · simp [earlier, later, queued]

/-- The caller leaves the request to the recovery queue before any listener has taken over. -/
theorem TokenMove.of_fellBack {call : DriverCall} {failed : Option (MqttClientSession stack)}
    {held : RequestToken} (holds : point.holds reconnect = some (held, call.id))
    (drained : point.drained = []) (undecided : held = .fresh ∨ held = .tried) :
    TokenMove timedOut (shared + point.tokens reconnect number)
      (shared + (TaskPoint.fallBack call failed).tokens reconnect number)
      ((RequestTrace.fellBack call.id).about number).toList := by
  have share := tokens_of_holds number holds drained
  refine .of_entry rfl (fun own => ?_) fun apart token => ?_
  · have left : (TaskPoint.fallBack call failed).tokens reconnect number .queued ≤ 1 := by
      rw [tokens_fallBack]
      split <;> simp
    have others (token : RequestToken) (other : token ≠ .queued) :
        (TaskPoint.fallBack call failed).tokens reconnect number token = 0 := by
      simp [other]
    rcases undecided with rfl | rfl <;> apply TokenMove.fallBack <;>
      simp only [Pi.add_apply, share, own, others, ne_eq, reduceCtorEq, not_false_eq_true,
        and_true, if_true, if_false] <;> omega
  · simp [apart]

end Recorded

/-- The caller leaves the request to the recovery queue for want of a response. -/
theorem TokenMove.of_timeout {shared : RequestToken → Nat} (call : DriverCall)
    (passed : reconnect.queueRequestsWhileDisconnected → call.id = number → timedOut) :
    TokenMove timedOut
      (shared + (TaskPoint.awaitReply call : TaskPoint stack).tokens reconnect number)
      (shared + (TaskPoint.fallBack call none : TaskPoint stack).tokens reconnect number)
      ((RequestTrace.fellBack call.id).about number).toList := by
  refine .of_entry rfl (fun own => ?_) fun apart token => ?_
  · by_cases queues : reconnect.queueRequestsWhileDisconnected
    · apply TokenMove.timeout (.inl (passed queues own)) <;> simp [own, queues]
    · apply TokenMove.timeout (.inr (by simp [queues])) <;> simp [own, queues]
  · simp [apart]

/-- The caller takes a response out of its channel. -/
theorem answered_posted {shared : DriverShared stack} {reply : SessionReply}
    {earlier later : List SessionReply} (number : Nat)
    (posted : shared.replies = earlier ++ reply :: later) :
    shared.tokens number .answered =
      (earlier ++ later).countP (fun reply => reply.call.id = number) +
        if reply.call.id = number then 1 else 0 := by
  simp only [DriverShared.tokens, posted, List.countP_append, List.countP_cons, decide_eq_true_eq]
  omega

/-- The caller leaves the request to the recovery queue because of the response. -/
theorem TokenMove.of_refused {shared taken : RequestToken → Nat} {call : DriverCall}
    (answered : shared .answered = taken .answered + if call.id = number then 1 else 0)
    (same : ∀ token, token ≠ .answered → taken token = shared token) :
    TokenMove timedOut
      (shared + (TaskPoint.awaitReply call : TaskPoint stack).tokens reconnect number)
      (taken + (TaskPoint.fallBack call none : TaskPoint stack).tokens reconnect number)
      ((RequestTrace.fellBack call.id).about number).toList := by
  refine .of_entry rfl (fun own => ?_) fun apart token => ?_
  · by_cases queues : reconnect.queueRequestsWhileDisconnected <;> apply TokenMove.refused <;>
      simp [same, answered, own, queues]
  · by_cases response : token = .answered
    · simp [response, answered, apart]
    · simp [same token response, apart]

/-- What a channel gains by an update, the shared state gains. -/
theorem unsent_setChannel {shared : DriverShared stack} {index : Nat} {queue : CommandChannel}
    (number : Nat) (located : shared.channels[index]? = some queue)
    (replacement : CommandChannel) :
    (shared.setChannel index replacement).tokens number .unsent + queue.commandsOf number =
      shared.tokens number .unsent + replacement.commandsOf number := by
  obtain ⟨rest, whole, replaced⟩ := Ledger.total_split (CommandChannel.commandsOf number) located
  simp only [DriverShared.tokens, DriverShared.setChannel, whole, replaced]
  omega

/-- The caller puts its command into a listener's channel. -/
theorem TokenMove.of_sendCommand {shared sent : RequestToken → Nat} {call : DriverCall}
    {channel : Nat} (unsent : sent .unsent = shared .unsent + if call.id = number then 1 else 0)
    (same : ∀ token, token ≠ .unsent → sent token = shared token) :
    TokenMove timedOut
      (shared + (TaskPoint.sendCommand call channel : TaskPoint stack).tokens reconnect number)
      (sent + (TaskPoint.awaitReply call : TaskPoint stack).tokens reconnect number) [] := by
  have share (token : RequestToken) :
      (TaskPoint.sendCommand call channel : TaskPoint stack).tokens reconnect number token =
        if .fresh = token ∧ call.id = number then 1 else 0 :=
    tokens_of_holds number rfl rfl token
  by_cases own : call.id = number
  · apply TokenMove.command <;> simp [same, unsent, share, own]
  · refine .of_le fun token => ?_
    by_cases command : token = .unsent
    · simp [command, unsent, own]
    · simp [same token command, own]

/-- A request that the recovery queue takes may displace the oldest one. -/
theorem queuedFor_enqueue (reconnect : BrokerReconnectConfig) (number : Nat)
    (shared : DriverShared stack) (call : DriverCall) :
    queuedFor number (shared.enqueue reconnect call).recoveryQueue ≤
      queuedFor number shared.recoveryQueue +
        if reconnect.queueRequestsWhileDisconnected ∧ call.id = number then 1 else 0 := by
  unfold DriverShared.enqueue enqueueRecoveryRequest
  have shorter := (List.tail_sublist shared.recoveryQueue).countP_le
    (p := fun entry : QueuedRequest => entry.call = number)
  by_cases queues : reconnect.queueRequestsWhileDisconnected
  · split_ifs <;> simp_all [queuedFor, List.countP_append]
  · simp [queues]

theorem tokens_afterReply (call : DriverCall) (result : SessionCommandResult) :
    (afterReply call (.ok result) : TaskPoint stack).tokens reconnect number = 0 := by
  cases result with
  | done => exact tokens_of_idle rfl rfl
  | events events =>
      unfold afterReply
      split_ifs <;> exact tokens_of_idle rfl rfl

/-- A closed channel leaves its commands to the error responses for them. -/
theorem answered_closeReplies (number : Nat) (shared : DriverShared stack)
    (queue : CommandChannel) :
    (shared.closeReplies queue.commands).tokens number .answered ≤
      shared.tokens number .answered + queue.commandsOf number := by
  simp only [DriverShared.tokens, DriverShared.closeReplies, List.countP_append, List.countP_map,
    CommandChannel.commandsOf]
  exact Nat.add_le_add_left (List.filter_sublist.countP_le) _

/-- A response is kept for its receiver, or lost. -/
theorem answered_respond (number : Nat) (shared : DriverShared stack) (reply : SessionReply) :
    (shared.respond reply).tokens number .answered ≤
      shared.tokens number .answered + if reply.call.id = number then 1 else 0 := by
  simp only [DriverShared.tokens, DriverShared.respond]
  split <;> simp [List.countP_append, List.countP_singleton]

/-- A step moves tokens; `timedOut` may be anything that follows when the call stops waiting. -/
theorem TaskStep.tokenMove {config : MqttEndpointConfig} {shared later : DriverShared stack}
    {point next : TaskPoint stack} {label : StepLabel stack}
    (step : TaskStep config shared point label later next) (number : Nat)
    (passed : config.reconnect.queueRequestsWhileDisconnected → label = .timeout →
      ∀ call, point = .awaitReply call → call.id = number → timedOut) :
    ∃ new, later.callTrace number = shared.callTrace number ++ new ∧
      TokenMove timedOut (shared.tokens number + point.tokens config.reconnect number)
        (later.tokens number + next.tokens config.reconnect number) new := by
  have quiet := (List.append_nil (shared.callTrace number)).symm
  cases step with
  | connectFound | connectUnbuilt | connectInstall =>
      exact ⟨[], quiet, .of_next (tokens_afterConnect _ _ _)⟩
  | connectDial => exact ⟨[], quiet, .of_next (tokens_onward (onward_afterDial _ _ _) _)⟩
  | connectHello => exact ⟨[], quiet, .of_next (tokens_onward (onward_afterHello _ _) _)⟩
  | connectRead => exact ⟨[], quiet, .of_next (tokens_onward (onward_afterRound _ _) _)⟩
  | replaySubscription =>
      exact ⟨[], quiet, .of_next (tokens_afterReplaySend _ _ _ (fun _ => rfl) (fun _ => rfl) rfl _)⟩
  | replaySubscriptionAck | replayRequestAck =>
      exact ⟨[], quiet, .of_next (tokens_afterReplayAck _ _ _ (fun _ => rfl) (fun _ => rfl) rfl _)⟩
  | peerCloses => exact ⟨[], quiet, .of_next (tokens_closeFailed point)⟩
  | connectEmpty => exact ⟨[], quiet, .of_next (tokens_connect _ _ _)⟩
  | senderMissing | sendCommandClosed =>
      exact ⟨_, callTrace_record _ _, .of_fellBack rfl rfl (.inl rfl)⟩
  | recheckRunning => exact ⟨_, callTrace_record _ _, .of_fellBack rfl rfl (.inr rfl)⟩
  | @sendCommand call channel queue located alive room =>
      have moved := unsent_setChannel number located
        { queue with commands := queue.commands ++ [call] }
      refine ⟨[], quiet, .of_sendCommand ?_ ?_⟩
      · simp only [CommandChannel.commandsOf, List.countP_append, List.countP_singleton,
          decide_eq_true_eq] at moved
        exact Nat.add_right_cancel (moved.trans (Nat.add_left_comm _ _ _ ▸ Nat.add_comm _ _))
      · intro token other
        cases token <;> first | rfl | exact absurd rfl other
  | @reply call response earlier later posted =>
      rcases response with error | result
      · refine ⟨_, callTrace_record _ _, .of_refused (answered_posted number posted) ?_⟩
        intro token other
        cases token <;> first | rfl | exact absurd rfl other
      · refine ⟨[], quiet, .of_le fun token => ?_⟩
        rw [tokens_afterReply]
        cases token with
        | answered =>
            have taken := answered_posted number posted
            exact Nat.le_add_right_of_le ((Nat.le_add_right _ _).trans_eq taken.symm)
        | _ => exact Nat.le_add_right _ _
  | @timeout call silent =>
      refine ⟨_, callTrace_record _ _, ?_⟩
      exact .of_timeout call fun queues own => passed queues rfl call rfl own
  | @enqueue call failed =>
      refine ⟨[], quiet, .of_le fun token => ?_⟩
      rw [tokens_of_idle rfl rfl]
      cases token with
      | queued =>
          have taken := queuedFor_enqueue config.reconnect number shared call
          simpa [DriverShared.tokens] using taken
      | _ => exact Nat.le_add_right _ _
  | @directSend call session input sent sends =>
      refine ⟨_, callTrace_record _ _, ?_⟩
      obtain ⟨error | _, state⟩ := sent <;> exact .of_directSend _ rfl rfl rfl rfl
  | @directAck call session input answer reads =>
      refine ⟨[], quiet, .of_next fun token => ?_⟩
      obtain ⟨error | _, state⟩ := answer
      · exact tokens_le (.inl rfl) (.inl rfl) token
      · refine tokens_le (.inr ?_) (.inl ?_) token <;> rfl
  | openChannel =>
      refine ⟨[], quiet, .of_le fun token => ?_⟩
      rw [tokens_of_idle rfl rfl]
      cases token with
      | unsent => simp [DriverShared.tokens, CommandChannel.commandsOf]
      | _ => exact Nat.le_add_right _ _
  | @receiveCommand channel session queue command commands located first =>
      refine ⟨[], quiet, .of_le fun token => ?_⟩
      cases token with
      | unsent =>
          have moved := unsent_setChannel number located { queue with commands }
          have share : (TaskPoint.listener channel (.send session command)).tokens
              config.reconnect number .unsent = if command.id = number then 1 else 0 := by
            simp [TaskPoint.tokens, TaskPoint.holds, ListenerPoint.holds]
          simp only [CommandChannel.commandsOf, first, List.countP_cons, decide_eq_true_eq] at moved
          rw [Pi.add_apply, Pi.add_apply, share]
          omega
      | _ => exact Nat.le_refl _
  | @commandSend channel session command input sent sends =>
      refine ⟨_, callTrace_record _ _, ?_⟩
      obtain ⟨error | _, state⟩ := sent <;> exact .of_commandSend _ rfl rfl rfl rfl
  | @commandAck channel session command input answer reads =>
      refine ⟨[], quiet, .of_next fun token => ?_⟩
      exact tokens_le (.inl rfl) (.inl rfl) token
  | @respond channel session command response =>
      refine ⟨[], quiet, .of_le fun token => ?_⟩
      have idle : (TaskPoint.listener channel (afterRespond session response)).tokens
          config.reconnect number = 0 := by
        cases response <;> exact tokens_of_idle rfl rfl
      rw [idle]
      cases token with
      | answered =>
          have kept := answered_respond number shared ⟨command, response⟩
          have share : (TaskPoint.listener channel (.respond session command response)).tokens
              config.reconnect number .answered = if command.id = number then 1 else 0 := by
            simp [TaskPoint.tokens, TaskPoint.holds, ListenerPoint.holds]
          rwa [Pi.add_apply, Pi.add_apply, share]
      | _ => exact Nat.le_add_right _ _
  | @poll channel session input answer reads =>
      refine ⟨[], quiet, .of_next fun token => ?_⟩
      obtain ⟨error | _, state⟩ := answer
      · exact tokens_le (.inl rfl) (.inl rfl) token
      · exact tokens_le (.inr rfl) (.inl rfl) token
  | @recovered channel locals replay =>
      refine ⟨[], quiet, .of_next fun token => ?_⟩
      unfold afterRecovered
      split
      · exact tokens_le (.inr rfl) (.inl rfl) token
      · exact tokens_le (.inr rfl) (.inl rfl) token
  | drainQueue =>
      refine ⟨[], quiet, .of_le fun token => ?_⟩
      cases token <;> simp [DriverShared.tokens, TaskPoint.tokens, TaskPoint.holds,
        TaskPoint.drained, ListenerPoint.holds, ListenerPoint.drained, queuedFor]
  | @replayRequest channel locals session subscriptions entry entries recovered input sent sends =>
      refine ⟨_, callTrace_record _ _, ?_⟩
      obtain ⟨error | _, state⟩ := sent
      · exact .of_replay _ rfl rfl rfl (.inr rfl)
      · exact .of_replay _ rfl rfl rfl (.inl rfl)
  | @exitClose channel queue located =>
      -- Commands in the channel become error responses.
      have moved : _ = shared.tokens number .unsent := unsent_setChannel number located
        { commands := [], receiverAlive := false }
      have closed := answered_closeReplies number
        (shared.setChannel channel { commands := [], receiverAlive := false }) queue
      rw [tokens_of_idle rfl rfl, tokens_of_idle rfl rfl, add_zero, add_zero]
      refine ⟨[], quiet, .pass (Nat.le_refl _) (Nat.le_refl _) (Nat.le_refl _) ?_ ?_
        (Nat.le_refl _)⟩
      · exact Nat.le.intro moved
      · refine Nat.le_trans (Nat.add_le_add_left closed _) (Nat.le_of_eq ?_)
        rw [← moved, Nat.add_left_comm]
        exact Nat.add_comm _ _
  | _ =>
      exact ⟨[], quiet,
        .of_next (tokens_le (by first | exact .inl rfl | exact .inr rfl) (.inl rfl))⟩

/-! ## Runs -/

theorem TokenMove.frame (rest : RequestToken → Nat) (moved : TokenMove timedOut before after new) :
    TokenMove timedOut (rest + before) (rest + after) new := by
  cases moved with
  | pass => apply TokenMove.pass <;> simp only [Pi.add_apply] <;> omega
  | command => apply TokenMove.command <;> simp only [Pi.add_apply] <;> omega
  | sendCommand => apply TokenMove.sendCommand <;> simp only [Pi.add_apply] <;> omega
  | sendDirect => apply TokenMove.sendDirect <;> simp only [Pi.add_apply] <;> omega
  | sendQueued => apply TokenMove.sendQueued <;> simp only [Pi.add_apply] <;> omega
  | fallBack => apply TokenMove.fallBack <;> simp only [Pi.add_apply] <;> omega
  | refused => apply TokenMove.refused <;> simp only [Pi.add_apply] <;> omega
  | timeout passed =>
      apply TokenMove.timeout (passed.imp_right fun dropped => Nat.add_le_add_left dropped _) <;>
        simp only [Pi.add_apply] <;> omega

namespace DriverSystem

/-- A command of the call is in the command channel of a listener. -/
def CommandPending (number : Nat) (system : DriverSystem stack) : Prop :=
  ∃ channel ∈ system.shared.channels, ∃ command ∈ channel.commands, command.id = number

/-- A listener has taken a command of the call out of its channel and not sent its request. -/
def CommandTaken (number : Nat) (system : DriverSystem stack) : Prop :=
  ∃ channel session command, .listener channel (.send session command) ∈ system.tasks ∧
    command.id = number

/-- The request of the call is in the recovery queue. -/
def RequestQueued (number : Nat) (system : DriverSystem stack) : Prop :=
  ∃ entry ∈ system.shared.recoveryQueue, entry.call = number

/-- The request of a call is never both in the recovery queue and in a command channel.  It reaches
the socket at most once after an attempt that did not, and at most once after its call has left it
to the recovery queue. -/
structure SentOnce (number : Nat) (system : DriverSystem stack) : Prop where
  apart : ¬(system.RequestQueued number ∧ system.CommandPending number)
  afterFailure : ∀ attempts, sendAttempts (system.shared.callTrace number) = false :: attempts →
    attempts.count true ≤ 1
  afterFallBack : (attemptsAfterFallBack (system.shared.callTrace number)).count true ≤ 1

theorem sentOnce_of_single {system : DriverSystem stack}
    (bounded : TokensBounded (system.tokens reconnect number) (system.shared.callTrace number))
    (single : SingleCopy (system.tokens reconnect number) (system.shared.callTrace number)) :
    system.SentOnce number := by
  refine ⟨?_, ?_, ?_⟩
  · rintro ⟨⟨entry, queued, queuedOwn⟩, channel, member, command, pending, pendingOwn⟩
    have inQueue : 0 < queuedFor number system.shared.recoveryQueue :=
      List.countP_pos_iff.mpr ⟨entry, queued, decide_eq_true queuedOwn⟩
    have inChannel : 0 < channel.commandsOf number :=
      List.countP_pos_iff.mpr ⟨command, pending, decide_eq_true pendingOwn⟩
    have share := Ledger.le_total (CommandChannel.commandsOf number) member
    have copies := single.copies
    simp only [tokens, DriverShared.tokens, Pi.add_apply] at copies
    omega
  · intro attempts failed
    have length := bounded.attempts
    rw [failed, List.length_cons] at length
    have written := attempts.count_le_length (a := true)
    omega
  · have length := single.copies
    have written := (attemptsAfterFallBack (system.shared.callTrace number)).count_le_length
      (a := true)
    omega

end DriverSystem

/-- While the recovery queue takes requests, the call does not stop waiting for a response as long
as a listener may still send its command. -/
def WaitsForCommand (config : MqttEndpointConfig) (number : Nat) (system : DriverSystem stack) :
    Nat × StepLabel stack → Prop
  | (index, .timeout) => config.reconnect.queueRequestsWhileDisconnected → ∀ call,
      system.tasks[index]? = some (.awaitReply call) → call.id = number →
        ¬system.CommandPending number ∧ ¬system.CommandTaken number
  | _ => True

theorem waitsForCommand_of_ne (config : MqttEndpointConfig) (number : Nat)
    (system : DriverSystem stack) (index : Nat) {label : StepLabel stack}
    (other : label ≠ .timeout) :
    WaitsForCommand config number system (index, label) := by
  cases label with
  | timeout => exact absurd rfl other
  | _ => trivial

/-- Only a listener that has taken a command and not sent it holds the token of the command. -/
theorem holds_unsent {point : TaskPoint stack}
    (holds : point.holds reconnect = some (.unsent, number)) :
    ∃ channel session command, point = .listener channel (.send session command) ∧
      command.id = number := by
  cases point with
  | listener channel point =>
      cases point with
      | send session command =>
          simp only [TaskPoint.holds, ListenerPoint.holds, Option.some.injEq,
            Prod.mk.injEq] at holds
          exact ⟨channel, session, command, rfl, holds.2⟩
      | _ => simp [TaskPoint.holds, ListenerPoint.holds] at holds
  | connect purpose => cases purpose <;> simp [TaskPoint.holds] at holds
  | _ => simp [TaskPoint.holds] at holds

theorem unsent_eq_zero {system : DriverSystem stack} (pending : ¬system.CommandPending number)
    (taken : ¬system.CommandTaken number) : system.tokens reconnect number .unsent = 0 := by
  have channels : Ledger.total (CommandChannel.commandsOf number) system.shared.channels = 0 := by
    refine Ledger.total_eq_zero fun channel member => ?_
    refine List.countP_eq_zero.mpr fun command present => ?_
    rw [decide_eq_true_eq]
    exact fun own => pending ⟨channel, member, command, present, own⟩
  have tasks : Ledger.total (TaskPoint.tokens reconnect number) system.tasks .unsent = 0 := by
    rw [Ledger.total_apply]
    refine Ledger.total_eq_zero fun point member => ?_
    have spent : point.holds reconnect ≠ some (.unsent, number) := by
      intro holds
      obtain ⟨channel, session, command, rfl, own⟩ := holds_unsent holds
      exact taken ⟨channel, session, command, member, own⟩
    simp [TaskPoint.tokens, spent]
  rw [DriverSystem.tokens, Pi.add_apply, tasks]
  exact channels

theorem tokens_step {config : MqttEndpointConfig} {before after : DriverSystem stack}
    {label : Nat × StepLabel stack} (step : SystemStep config before label after) (number : Nat)
    (passed : config.reconnect.queueRequestsWhileDisconnected → label.2 = .timeout →
      ∀ call, before.tasks[label.1]? = some (.awaitReply call) → call.id = number → timedOut) :
    ∃ new, after.shared.callTrace number = before.shared.callTrace number ++ new ∧
      TokenMove timedOut (before.tokens config.reconnect number)
        (after.tokens config.reconnect number) new := by
  unfold DriverSystem.tokens
  cases step with
  | task located step =>
      obtain ⟨rest, whole, replaced⟩ :=
        Ledger.total_split (TaskPoint.tokens config.reconnect number) located
      obtain ⟨new, appended, moved⟩ := step.tokenMove number fun queues timeout call waits own =>
        passed queues timeout call (waits ▸ located) own
      refine ⟨new, appended, ?_⟩
      dsimp only
      rw [whole, replaced, add_left_comm, add_left_comm _ rest]
      exact moved.frame rest
  | @spawn index channel located =>
      obtain ⟨rest, whole, replaced⟩ :=
        Ledger.total_split (TaskPoint.tokens config.reconnect number) located
      refine ⟨[], (List.append_nil _).symm, ?_⟩
      have handle : (TaskPoint.storeHandle channel : TaskPoint stack).tokens config.reconnect
          number = 0 := tokens_of_idle rfl rfl
      have listener : (TaskPoint.listener channel .loopTest : TaskPoint stack).tokens
          config.reconnect number = 0 := tokens_of_idle rfl rfl
      dsimp only
      rw [Ledger.total_append, replaced, Ledger.total_cons, Ledger.total_nil, handle, listener,
        whole]
      exact .of_le fun token => by simp

/-- An operation that has not begun holds a token if it is a call. -/
theorem tokens_entry (index : Nat) (operation : DriverOperation) (token : RequestToken) :
    (operation.entry index : TaskPoint stack).tokens reconnect number token ≤
      if token = .fresh ∧ index = number then 1 else 0 := by
  have idle {point : TaskPoint stack} (holds : point.holds reconnect = none)
      (drained : point.drained = []) :
      point.tokens reconnect number token ≤ if token = .fresh ∧ index = number then 1 else 0 := by
    rw [tokens_of_idle holds drained]
    exact Nat.zero_le _
  have fresh {point : TaskPoint stack} (holds : point.holds reconnect = some (.fresh, index))
      (drained : point.drained = []) :
      point.tokens reconnect number token ≤ if token = .fresh ∧ index = number then 1 else 0 := by
    simp only [tokens_of_holds number holds drained, eq_comm (a := RequestToken.fresh), Nat.le_refl]
  cases operation with
  | call kind request => cases kind <;> exact fresh rfl rfl
  | start | stop | startListening | stopListening => exact idle rfl rfl

/-- Operations that have not begun hold at most one token for a call. -/
theorem tokens_entries (operations : List DriverOperation) (offset : Nat) (token : RequestToken) :
    Ledger.total (fun point : TaskPoint stack => point.tokens reconnect number token)
        (operations.mapIdx fun index => DriverOperation.entry (offset + index)) ≤
      if token = .fresh ∧ offset ≤ number then 1 else 0 := by
  induction operations generalizing offset with
  | nil => exact Nat.zero_le _
  | cons operation operations ih =>
      have first : (operation.entry offset : TaskPoint stack).tokens reconnect number token ≤
          if token = .fresh ∧ offset = number then 1 else 0 :=
        tokens_entry offset operation token
      have later := ih (offset + 1)
      rw [List.mapIdx_cons, Ledger.total_cons]
      simp only [Nat.add_zero, Nat.add_right_comm _ 1, ← Nat.add_assoc] at later ⊢
      by_cases fresh : token = .fresh
      · simp only [fresh, true_and] at first later ⊢
        split_ifs at first later ⊢ <;> omega
      · simpa [fresh] using And.intro first later

/-- A new driver holds at most one token for a call: that of the call which may begin. -/
theorem tokens_begin (operations : List DriverOperation) (token : RequestToken) :
    (DriverSystem.begin operations : DriverSystem stack).tokens reconnect number token ≤
      if token = .fresh then 1 else 0 := by
  have entries : Ledger.total (fun point : TaskPoint stack => point.tokens reconnect number token)
        (operations.mapIdx fun index => DriverOperation.entry (0 + index)) ≤
      if token = .fresh ∧ 0 ≤ number then 1 else 0 :=
    tokens_entries operations 0 token
  have shared : (DriverShared.new : DriverShared stack).tokens number token = 0 := by
    cases token <;> rfl
  simp only [Nat.zero_add, Nat.zero_le, and_true] at entries
  rw [DriverSystem.tokens, Pi.add_apply, Ledger.total_apply]
  exact Nat.le_trans (Nat.le_of_eq (congrArg (· + _) shared)) ((Nat.zero_add _).symm ▸ entries)

/-- What is around of each call is bounded, whatever the calls do. -/
def DriverSystem.Bounded (reconnect : BrokerReconnectConfig) (system : DriverSystem stack) : Prop :=
  ∀ number, TokensBounded (system.tokens reconnect number) (system.shared.callTrace number)

theorem bounded_begin (operations : List DriverOperation) :
    (DriverSystem.begin operations : DriverSystem stack).Bounded reconnect := by
  intro number
  exact (balanced_initial (tokens_begin operations)).1

theorem bounded_step {config : MqttEndpointConfig} {before after : DriverSystem stack}
    {label : Nat × StepLabel stack} (bounded : before.Bounded config.reconnect)
    (step : SystemStep config before label after) : after.Bounded config.reconnect := by
  intro number
  obtain ⟨new, appended, moved⟩ := tokens_step step number fun _ _ _ _ _ => trivial
  rw [appended]
  exact (bounded number).move moved

/-- In a run in which a call never stops waiting while a listener may still send its command, its
request is sent at most once over. -/
theorem sentOnce_of_waits {config : MqttEndpointConfig} {operations : List DriverOperation}
    {system : DriverSystem stack} (number : Nat)
    (run : Transition.Run (SystemStep config) (WaitsForCommand config number)
      (.begin operations) system) :
    system.SentOnce number := by
  let single (system : DriverSystem stack) : Prop :=
    SingleCopy (system.tokens config.reconnect number) (system.shared.callTrace number)
  have invariant : system.Bounded config.reconnect ∧ single system := by
    refine run.invariant (fun system => system.Bounded config.reconnect ∧ single system)
      ⟨bounded_begin operations, (balanced_initial (tokens_begin operations)).2⟩ ?_
    rintro before ⟨index, label⟩ next ⟨bounded, copies⟩ waits step
    refine ⟨bounded_step bounded step, ?_⟩
    have patient : config.reconnect.queueRequestsWhileDisconnected → label = .timeout →
        ∀ call, before.tasks[index]? = some (.awaitReply call) → call.id = number →
          before.tokens config.reconnect number .unsent = 0 := by
      rintro queues rfl call located own
      obtain ⟨pending, taken⟩ := waits queues call located own
      exact unsent_eq_zero pending taken
    obtain ⟨new, appended, moved⟩ := tokens_step step number patient
    unfold single
    rw [appended]
    exact copies.move (bounded number) moved id
  exact DriverSystem.sentOnce_of_single (invariant.1 number) invariant.2

/-- A listener's write of a command fails, and the call stops waiting before it hears of it.  Its
request is left to the recovery queue, and the listener reconnects and sends it from there, once. -/
theorem publish_sentOnce :
    ∃ system : DriverSystem echoStack,
      system.shared.callTrace 1 = [.attempt false, .fellBack, .attempt true] ∧
        system.SentOnce 1 := by
  have unwritten := listeningDriver_run
      (fun system index _ other =>
        waitsForCommand_of_ne brokerDevice.endpoint 1 system index other)
    |>.perform (1, .internal) trivial (.task rfl (.viaListener rfl))
    |>.perform (1, .internal) trivial (.task rfl (.cloneSender rfl))
    |>.perform (1, .internal) trivial (.task rfl (.sendCommand rfl rfl (by decide)))
    |>.perform (2, .internal) trivial (.task rfl (.listen rfl))
    |>.perform (2, .internal) trivial (.task rfl (.take rfl))
    |>.perform (2, .internal) trivial (.task rfl (.receiveCommand rfl rfl))
    |>.perform (2, .send (unansweredExchange (.writeFailed "broken pipe")).send) trivial
      (.task rfl (.commandSend rfl))
  have replayed := unwritten
    -- The channel is empty, and the listener has sent what it took out.
    |>.perform (1, .timeout)
      (fun _ _ _ _ => ⟨by rintro ⟨_, ⟨⟩ | ⟨_, ⟨⟩⟩, _, ⟨⟩, -⟩,
        by rintro ⟨_, _, _, ⟨⟩ | ⟨_, ⟨⟩ | ⟨_, ⟨⟩ | ⟨_, ⟨⟩⟩⟩⟩, -⟩⟩)
      (.task rfl (.timeout fun _ posted => nomatch posted))
    |>.perform (1, .internal) trivial (.task rfl .enqueue)
    |>.perform (2, .internal) trivial (.task rfl .respond)
    |>.perform (2, .internal) trivial (.task rfl .clear)
    |>.perform (2, .internal) trivial (.task rfl (.reconnectDelayed rfl rfl))
    |>.perform (2, .internal) trivial (.task rfl (.reconnect rfl))
    |>.perform (2, .internal) trivial (.task rfl (.connectEmpty rfl))
    |>.perform (2, .dial (.opened 2)) trivial (.task rfl .connectDial)
    |>.perform (2, .hello (.ok [])) trivial (.task rfl (.connectHello rfl))
    |>.perform (2, .read acceptedRead) trivial (.task rfl (.connectRead rfl))
    |>.perform (2, .internal) trivial (.task rfl .connectInstall)
    |>.perform (2, .internal) trivial (.task rfl (.reconnectTake rfl))
    |>.perform (2, .internal) trivial (.task rfl (.replayLoad (.refl _)))
    |>.perform (2, .internal) trivial (.task rfl .drainQueue)
    |>.perform (2, .send (unansweredExchange (.sent 3)).send) trivial
      (.task rfl (.replayRequest rfl))
  exact ⟨_, rfl, sentOnce_of_waits 1 replayed⟩

/-- A publish call stops waiting while its command is still in the channel: its request is then in
the recovery queue as well.  The listener sends the command, loses the answer and reconnects, and
the replay sends the request again. -/
theorem publish_sentTwice :
    ∃ overtaken replayed : DriverSystem echoStack,
      Transition.Run (SystemStep brokerDevice.endpoint) (fun _ _ => True)
        (.begin [.startListening, .call .publish (publishRequest "a")]) overtaken ∧
      overtaken.RequestQueued 1 ∧ overtaken.CommandPending 1 ∧
      Transition.Run (SystemStep brokerDevice.endpoint) (fun _ _ => True)
        (.begin [.startListening, .call .publish (publishRequest "a")]) replayed ∧
      replayed.shared.callTrace 1 = [.fellBack, .attempt true, .attempt true] := by
  have timedOut := listeningDriver_reached
    |>.perform (1, .internal) trivial (.task rfl (.viaListener rfl))
    |>.perform (1, .internal) trivial (.task rfl (.cloneSender rfl))
    |>.perform (1, .internal) trivial (.task rfl (.sendCommand rfl rfl (by decide)))
    |>.perform (1, .timeout) trivial (.task rfl (.timeout fun _ posted => nomatch posted))
    |>.perform (1, .internal) trivial (.task rfl .enqueue)
  refine ⟨_, _, timedOut, ⟨_, .head _, rfl⟩, ⟨_, .head _, _, .head _, rfl⟩, timedOut
    |>.perform (2, .internal) trivial (.task rfl (.listen rfl))
    |>.perform (2, .internal) trivial (.task rfl (.take rfl))
    |>.perform (2, .internal) trivial (.task rfl (.receiveCommand rfl rfl))
    |>.perform (2, .send (unansweredExchange (.sent 1)).send) trivial (.task rfl (.commandSend rfl))
    |>.perform (2, .read (unansweredExchange (.sent 1)).read) trivial (.task rfl (.commandAck rfl))
    |>.perform (2, .internal) trivial (.task rfl .respond)
    |>.perform (2, .internal) trivial (.task rfl .clear)
    |>.perform (2, .internal) trivial (.task rfl (.reconnectDelayed rfl rfl))
    |>.perform (2, .internal) trivial (.task rfl (.reconnect rfl))
    |>.perform (2, .internal) trivial (.task rfl (.connectEmpty rfl))
    |>.perform (2, .dial (.opened 2)) trivial (.task rfl .connectDial)
    |>.perform (2, .hello (.ok [])) trivial (.task rfl (.connectHello rfl))
    |>.perform (2, .read acceptedRead) trivial (.task rfl (.connectRead rfl))
    |>.perform (2, .internal) trivial (.task rfl .connectInstall)
    |>.perform (2, .internal) trivial (.task rfl (.reconnectTake rfl))
    |>.perform (2, .internal) trivial (.task rfl (.replayLoad (.refl _)))
    |>.perform (2, .internal) trivial (.task rfl .drainQueue)
    |>.perform (2, .send (unansweredExchange (.sent 3)).send) trivial
      (.task rfl (.replayRequest rfl)), ?_⟩
  rfl

end Mqtt
end Ferredge
