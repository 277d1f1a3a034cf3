import Ferredge.Draining
import Ferredge.Core.WriteAll
import Ferredge.Http.Response

/-!
# One HTTP exchange over a connection

The driver opens a connection, writes the head and the body of its request, flushes, and reads
until the server closes.  Writes may be short and reads may cut the response anywhere.
-/

namespace Ferredge

open ShortWrites Draining

/-- The text of a network error. -/
def NetError.text : NetError → String
  | .closed => "network transport is closed"
  | .timedOut => "network operation timed out"
  | .unreachable => "network target is unreachable"
  | .unsupported => "network operation is unsupported"
  | .runtimeUnavailable => "network runtime is unavailable"
  | .other message => message

/-- The text the driver reports an error as. -/
def HttpTransportError.text : HttpTransportError → String
  | .missingAuthority => "HTTP endpoint missing authority"
  | .malformedIpv6Authority => "HTTP endpoint has malformed IPv6 authority"
  | .connect error => "failed to connect to endpoint: " ++ error
  | .sendRequest error => "failed to send request: " ++ error
  | .sendRequestBody error => "failed to send request body: " ++ error
  | .flushRequest error => "failed to flush request: " ++ error
  | .readResponse error => "failed to read response: " ++ error
  | .invalidResponse reason => "invalid HTTP response: " ++ reason

/-- The operations of a connection.  A read returns at most as many bytes as its buffer holds, or
is `none` while it has not returned. -/
structure AsyncSocket (σ : Type*) where
  read : σ → Nat → Option (Except NetError Bytes × σ)
  write : σ → Bytes → Except NetError Nat × σ
  flush : σ → Except NetError Unit × σ

/-- A network that opens connections of one kind. -/
structure AsyncNet (σ : Type*) where
  connect : String → Except NetError σ
  socket : AsyncSocket σ

namespace Http.Exchange

variable {σ : Type*}

/-- Writes the body, if there is one. -/
def sendBody (socket : AsyncSocket σ) (upstream : σ) :
    Option Bytes → Except NetError Unit × σ
  | some body => writeAllSocket socket.write upstream body
  | none => (.ok (), upstream)

/-- The exchange on an open connection, with at most `limit` reads. -/
def converse (socket : AsyncSocket σ) (limit : Nat) (head : Bytes) (body : Option Bytes)
    (upstream : σ) : Option (Except HttpTransportError HttpResponse × σ) :=
  match writeAllSocket socket.write upstream head with
  | (.error error, after) => some (.error (.sendRequest error.text), after)
  | (.ok (), upstream) =>
      match sendBody socket upstream body with
      | (.error error, after) => some (.error (.sendRequestBody error.text), after)
      | (.ok (), upstream) =>
          match socket.flush upstream with
          | (.error error, after) => some (.error (.flushRequest error.text), after)
          | (.ok (), upstream) =>
              match drain (fun upstream => socket.read upstream 4096) limit [] upstream with
              | none => none
              | some (.error error, after) => some (.error (.readResponse error.text), after)
              | some (.ok response, after) => some (parseResponse response, after)

/-- Sends one request, and returns what came of it with the connection, if one was opened. -/
def sendRequest (net : AsyncNet σ) (limit : Nat) (endpoint : String) (request : HttpRequest) :
    Option (Except HttpTransportError HttpResponse × Option σ) :=
  match parseEndpoint endpoint with
  | .error error => some (.error error, none)
  | .ok parsed =>
      match net.connect parsed.connectTarget with
      | .error error => some (.error (.connect error.text), none)
      | .ok upstream =>
          (converse net.socket limit (Utf8.encode (wireRequest parsed.hostHeader request))
            request.body upstream).map (Prod.map id some)

/-- The driver reports errors as text. -/
def execute (net : AsyncNet σ) (limit : Nat) (device : HttpDevice) (request : HttpRequest) :
    Option (Except String HttpResponse) :=
  (sendRequest net limit device.endpoint.url request).map fun result =>
    result.1.mapError HttpTransportError.text

/-! ## What the network sees -/

/-- One operation on a connection, with its result. -/
inductive SocketEvent where
  | wrote (call : Call UInt8 NetError)
  | flushed (result : Except NetError Unit)
  | read (result : Except NetError Bytes)

/-- A connection that keeps a log of its operations. -/
def logging (socket : AsyncSocket σ) : AsyncSocket (σ × List SocketEvent) where
  read state size := (socket.read state.1 size).map fun result =>
    (result.1, result.2, state.2 ++ [.read result.1])
  write := noting .wrote socket.write
  flush state :=
    ((socket.flush state.1).1, (socket.flush state.1).2,
      state.2 ++ [.flushed (socket.flush state.1).1])

def loggingNet (net : AsyncNet σ) : AsyncNet (σ × List SocketEvent) where
  connect target := (net.connect target).map fun upstream => (upstream, [])
  socket := logging net.socket

/-- The writes of a body. -/
def BodyDelivered (calls : List (Call UInt8 NetError)) (outcome : Except NetError Unit) :
    Option Bytes → Prop
  | some body => Delivered .closed body calls outcome
  | none => calls = [] ∧ outcome = .ok ()

/-- What the log of one exchange says, and what is reported of it.  Every step is taken after the
one before it has succeeded, and the response is read after the whole request is flushed. -/
inductive Account (head : Bytes) (body : Option Bytes) :
    List SocketEvent → Except HttpTransportError HttpResponse → Prop
  | headFailed {calls : List (Call UInt8 NetError)} {error : NetError}
      (part : Delivered .closed head calls (.error error)) :
      Account head body (calls.map .wrote) (.error (.sendRequest error.text))
  | bodyFailed {calls more : List (Call UInt8 NetError)} {error : NetError}
      (sent : Delivered .closed head calls (.ok ()))
      (part : BodyDelivered more (.error error) body) :
      Account head body (calls.map .wrote ++ more.map .wrote)
        (.error (.sendRequestBody error.text))
  | flushFailed {calls more : List (Call UInt8 NetError)} {error : NetError}
      (sent : Delivered .closed head calls (.ok ())) (whole : BodyDelivered more (.ok ()) body) :
      Account head body (calls.map .wrote ++ more.map .wrote ++ [.flushed (.error error)])
        (.error (.flushRequest error.text))
  | readFailed {calls more : List (Call UInt8 NetError)} {pieces : List Bytes} {error : NetError}
      (sent : Delivered .closed head calls (.ok ())) (whole : BodyDelivered more (.ok ()) body)
      (pieced : [] ∉ pieces) :
      Account head body
        (calls.map .wrote ++ more.map .wrote ++ [.flushed (.ok ())] ++
          pieces.map (fun piece => .read (.ok piece)) ++ [.read (.error error)])
        (.error (.readResponse error.text))
  | answered {calls more : List (Call UInt8 NetError)} {pieces : List Bytes}
      (sent : Delivered .closed head calls (.ok ())) (whole : BodyDelivered more (.ok ()) body)
      (pieced : [] ∉ pieces) :
      Account head body
        (calls.map .wrote ++ more.map .wrote ++ [.flushed (.ok ())] ++
          pieces.map (fun piece => .read (.ok piece)) ++ [.read (.ok [])])
        (parseResponse pieces.flatten)

/-- A connection that never takes more than it is offered. -/
def Honest (socket : AsyncSocket σ) : Prop :=
  ∀ state offered, Call.Bounded ⟨offered, (socket.write state offered).1⟩

variable {socket : AsyncSocket σ} {net : AsyncNet σ} {limit : Nat}

/-- A buffer is delivered as far as the outcome says, and the log does not change what happens. -/
theorem writeAllSocket_logged (honest : Honest socket) (upstream : σ) (buf : Bytes) :
    ∃ (calls : List (Call UInt8 NetError)) (outcome : Except NetError Unit) (after : σ),
      writeAllSocket socket.write upstream buf = (outcome, after) ∧
      (∀ log, writeAllSocket (logging socket).write (upstream, log) buf =
        (outcome, after, log ++ calls.map .wrote)) ∧
      Delivered .closed buf calls outcome := by
  obtain ⟨calls, outcome, after, recorded, noted⟩ :=
    @writeAll_noting _ _ _ socket.write .closed buf _ SocketEvent.wrote 0 upstream
  have bounded : ∀ call ∈ calls, call.Bounded := by
    have kept := @recorded_bounded _ _ _ socket.write .closed buf honest 0 (upstream, []) nofun
    rwa [recorded] at kept
  obtain ⟨same, delivered, -⟩ := writeAll_delivered (recorded []) bounded
  exact ⟨calls, outcome, after, same, noted, delivered⟩

theorem sendBody_logged (honest : Honest socket) (upstream : σ) (body : Option Bytes) :
    ∃ (calls : List (Call UInt8 NetError)) (outcome : Except NetError Unit) (after : σ),
      sendBody socket upstream body = (outcome, after) ∧
      (∀ log, sendBody (logging socket) (upstream, log) body =
        (outcome, after, log ++ calls.map .wrote)) ∧
      BodyDelivered calls outcome body := by
  cases body with
  | none => exact ⟨[], .ok (), upstream, rfl, fun log => by simp [sendBody], rfl, rfl⟩
  | some body => exact writeAllSocket_logged honest upstream body

/-- The log of the reads that drain a connection. -/
theorem drain_logged {upstream after : σ} {log later : List SocketEvent}
    {outcome : Except NetError Bytes}
    (ran : drain (fun upstream => (logging socket).read upstream 4096) limit [] (upstream, log) =
      some (outcome, after, later)) :
    ∃ pieces : List Bytes, [] ∉ pieces ∧
      (outcome = .ok pieces.flatten ∧
          later = log ++ pieces.map (fun piece => .read (.ok piece)) ++ [.read (.ok [])] ∨
        ∃ error, outcome = .error error ∧
          later =
            log ++ pieces.map (fun piece => .read (.ok piece)) ++ [.read (.error error)]) := by
  let holds (state : σ × List SocketEvent) (gathered : Bytes) : Prop :=
    ∃ pieces : List Bytes, [] ∉ pieces ∧ gathered = pieces.flatten ∧
      state.2 = log ++ pieces.map fun piece => .read (.ok piece)
  have noted {state next : σ × List SocketEvent} {result : Except NetError Bytes}
      (returned : (logging socket).read state 4096 = some (result, next)) :
      next.2 = state.2 ++ [.read result] := by
    obtain ⟨⟨brought, reached⟩, -, taken⟩ := Option.map_eq_some_iff.mp returned
    cases taken
    rfl
  have step (state : σ × List SocketEvent) (gathered piece : Bytes) (next : σ × List SocketEvent)
      (before : holds state gathered) (nonempty : piece ≠ [])
      (returned : (logging socket).read state 4096 = some (.ok piece, next)) :
      holds next (gathered ++ piece) := by
    obtain ⟨pieces, pieced, total, kept⟩ := before
    refine ⟨pieces ++ [piece], ?_, ?_, ?_⟩
    · simp [pieced, nonempty.symm]
    · simp [total]
    · simp [noted returned, kept]
  obtain ⟨last, total, ⟨pieces, pieced, gathered, kept⟩, ends⟩ :=
    drain_invariant holds step ⟨[], by simp, rfl, by simp⟩ ran
  refine ⟨pieces, pieced, ?_⟩
  cases ends with
  | through returned => exact .inl ⟨by rw [gathered], by rw [← kept]; exact noted returned⟩
  | failed returned => exact .inr ⟨_, rfl, by rw [← kept]; exact noted returned⟩

theorem drain_logging (limit : Nat) (state : σ × List SocketEvent) :
    (drain (fun upstream => (logging socket).read upstream 4096) limit [] state).map
        (Prod.map id Prod.fst) =
      drain (fun upstream => socket.read upstream 4096) limit [] state.1 := by
  refine drain_map Prod.fst (fun state => ?_) limit [] state
  simp only [logging, Option.map_map]
  exact Option.map_id'

/-- What one exchange reports is what its log says. -/
theorem converse_account (honest : Honest socket) {head : Bytes} {body : Option Bytes}
    {upstream after : σ} {log : List SocketEvent}
    {outcome : Except HttpTransportError HttpResponse}
    (ran : converse (logging socket) limit head body (upstream, []) =
      some (outcome, after, log)) : Account head body log outcome := by
  obtain ⟨calls, headSent, afterHead, -, headLogged, sent⟩ :=
    writeAllSocket_logged honest upstream head
  obtain ⟨more, bodySent, afterBody, -, bodyLogged, whole⟩ :=
    sendBody_logged honest afterHead body
  rw [converse, headLogged] at ran
  cases headSent with
  | error error =>
      cases ran
      exact .headFailed sent
  | ok done =>
      simp only [bodyLogged, List.nil_append] at ran
      cases bodySent with
      | error error =>
          cases ran
          exact .bodyFailed sent whole
      | ok done =>
          simp only [logging] at ran
          cases flushed : (socket.flush afterBody).1 with
          | error error =>
              rw [flushed] at ran
              cases ran
              exact .flushFailed sent whole
          | ok done =>
              simp only [flushed] at ran
              split at ran
              · cases ran
              · rename_i error reached drained
                cases ran
                obtain ⟨pieces, pieced, ⟨through, -⟩ | ⟨other, same, rfl⟩⟩ := drain_logged drained
                · cases through
                · cases same
                  exact .readFailed sent whole pieced
              · rename_i response reached drained
                cases ran
                obtain ⟨pieces, pieced, ⟨through, rfl⟩ | ⟨other, same, -⟩⟩ := drain_logged drained
                · cases through
                  exact .answered sent whole pieced
                · cases same

/-- The log changes nothing. -/
theorem converse_logging (honest : Honest socket) (limit : Nat) (head : Bytes)
    (body : Option Bytes) (upstream : σ) (log : List SocketEvent) :
    (converse (logging socket) limit head body (upstream, log)).map (Prod.map id Prod.fst) =
      converse socket limit head body upstream := by
  obtain ⟨calls, headSent, afterHead, headPlain, headLogged, -⟩ :=
    writeAllSocket_logged honest upstream head
  obtain ⟨more, bodySent, afterBody, bodyPlain, bodyLogged, -⟩ :=
    sendBody_logged honest afterHead body
  rw [converse, converse, headPlain, headLogged]
  cases headSent with
  | error error => rfl
  | ok done =>
      simp only [bodyPlain, bodyLogged]
      cases bodySent with
      | error error => rfl
      | ok done =>
          simp only [logging]
          cases flushed : socket.flush afterBody with
          | mk result reached =>
              cases result with
              | error error => rfl
              | ok done =>
                  have drained := @drain_logging σ socket limit
                    (reached, log ++ calls.map .wrote ++ more.map .wrote ++ [.flushed (.ok ())])
                  simp only [logging] at drained
                  simp only [← drained]
                  generalize drain _ limit [] _ = result
                  rcases result with _ | ⟨_ | _, _⟩ <;> rfl

/-- What is reported of a request with no connection, or with the log of one. -/
def Accounted (net : AsyncNet σ) (endpoint : String) (request : HttpRequest)
    (outcome : Except HttpTransportError HttpResponse) : Option (List SocketEvent) → Prop
  | none =>
      (∃ error, parseEndpoint endpoint = .error error ∧ outcome = .error error) ∨
        ∃ parsed error, parseEndpoint endpoint = .ok parsed ∧
          net.connect parsed.connectTarget = .error error ∧ outcome = .error (.connect error.text)
  | some log => ∃ parsed upstream, parseEndpoint endpoint = .ok parsed ∧
      net.connect parsed.connectTarget = .ok upstream ∧
      Account (Utf8.encode (wireRequest parsed.hostHeader request)) request.body log outcome

/-- Whatever the network does with a request, what is reported of it is what a log of the
connection's operations says, and the log changes nothing. -/
theorem sendRequest_account (honest : Honest net.socket) (limit : Nat) (endpoint : String)
    (request : HttpRequest) :
    (sendRequest (loggingNet net) limit endpoint request).map
        (Prod.map id (Option.map Prod.fst)) = sendRequest net limit endpoint request ∧
      ∀ outcome after, sendRequest (loggingNet net) limit endpoint request = some (outcome, after) →
        Accounted net endpoint request outcome (after.map Prod.snd) := by
  rw [sendRequest, sendRequest]
  cases accepted : parseEndpoint endpoint with
  | error error =>
      refine ⟨rfl, fun outcome after ran => ?_⟩
      cases ran
      exact .inl ⟨error, accepted, rfl⟩
  | ok parsed =>
      simp only [loggingNet]
      cases opened : net.connect parsed.connectTarget with
      | error error =>
          refine ⟨rfl, fun outcome after ran => ?_⟩
          cases ran
          exact .inr ⟨parsed, error, accepted, opened, rfl⟩
      | ok upstream =>
          constructor
          · simp only [Except.map, ← converse_logging honest limit _ _ upstream [], Option.map_map]
            rfl
          · intro outcome after ran
            obtain ⟨⟨returned, reached, log⟩, conversed, taken⟩ := Option.map_eq_some_iff.mp ran
            cases taken
            exact ⟨parsed, upstream, accepted, opened, converse_account honest conversed⟩

/-- A network that takes all it is offered, and whose server closes without an answer. -/
def silentNet : AsyncNet Unit where
  connect _ := .ok ()
  socket :=
    { read := fun _ _ => some (.ok [], ())
      write := fun _ offered => (.ok offered.length, ())
      flush := fun _ => (.ok (), ()) }

theorem silentNet_honest : Honest silentNet.socket :=
  fun _ _ _ returned => Nat.le_of_eq (Except.ok.inj returned).symm

/-- Nothing is answered, and the log says so. -/
theorem silentNet_account :
    ∃ log, Accounted silentNet "http://meter" notedRequest
      (.error (.invalidResponse "missing header terminator")) (some log) := by
  have accepted : parseEndpoint "http://meter" =
      .ok { connectTarget := "meter:80", hostHeader := "meter" } := by decide +kernel
  obtain ⟨⟨_, log⟩, sent, -⟩ := @writeAll_succeeds _ _ _ (logging silentNet.socket).write .closed
    (Utf8.encode (wireRequest "meter" notedRequest)) (fun _ _ => True) ((), []) []
    (fun state _ offered _ nonempty => ⟨offered.length - 1, ((), state.2 ++ _), by
      rw [Nat.sub_add_cancel (List.length_pos_of_ne_nil nonempty)]
      rfl, trivial⟩) trivial
  have ran : sendRequest (loggingNet silentNet) 1 "http://meter" notedRequest =
      some (.error (.invalidResponse "missing header terminator"),
        some ((), log ++ [.flushed (.ok ())] ++ [.read (.ok [])])) := by
    have opened : silentNet.connect "meter:80" = .ok () := rfl
    simp only [sendRequest, accepted, loggingNet, opened, Except.map, converse, writeAllSocket,
      sent]
    rfl
  exact ⟨_, (sendRequest_account silentNet_honest 1 _ _).2 _ _ ran⟩

end Http.Exchange
end Ferredge
