import Ferredge.Http.Exchange
import Ferredge.Http.Reply

/-!
# The driver and a server

The other end of the connection is a server.  Between two operations of the driver the network may
deliver any number of bytes, and the server may answer what it has received so far.  However these
steps fall, the driver ends with the answer to its request.
-/

namespace Ferredge.Http

open HttpSyntax ShortWrites Draining Exchange

/-- What may happen on the other side between two operations of the driver. -/
inductive LinkEvent where
  | deliver (count : Nat)
  | answer

/-- What happens before one operation of the driver, which moves at most one byte more than
`extra`. -/
structure Turn where
  events : List LinkEvent
  extra : Nat

/-- A connection that loses nothing.  The server answers once, and then closes its side. -/
structure Link where
  /-- On its way to the server. -/
  outgoing : Bytes
  received : Bytes
  answered : Bool
  /-- Of the answer, what has not been read. -/
  incoming : Bytes
  turns : List Turn

namespace Link

variable (serve : Bytes → Option Bytes)

def happen (link : Link) : LinkEvent → Link
  | .deliver count =>
      { link with
        received := link.received ++ link.outgoing.take count
        outgoing := link.outgoing.drop count }
  | .answer =>
      if link.answered then link
      else match serve link.received with
        | some reply => { link with answered := true, incoming := reply }
        | none => link

def happenAll (link : Link) (events : List LinkEvent) : Link := events.foldl (happen serve) link

def write (link : Link) (offered : Bytes) : Except NetError Nat × Link :=
  match link.turns with
  | [] => (.ok offered.length, { link with outgoing := link.outgoing ++ offered })
  | turn :: turns =>
      let reached := happenAll serve link turn.events
      (.ok (min (turn.extra + 1) offered.length),
        { reached with outgoing := reached.outgoing ++ offered.take (turn.extra + 1), turns })

def flush (link : Link) : Except NetError Unit × Link :=
  match link.turns with
  | [] => (.ok (), link)
  | turn :: turns => (.ok (), { happenAll serve link turn.events with turns })

/-- A read waits for a turn in which there is something to read or the server has closed. -/
def awaitTurn (size : Nat) (link : Link) : List Turn → Option (Except NetError Bytes × Link)
  | [] => none
  | turn :: turns =>
      let reached := happenAll serve link turn.events
      if reached.incoming = [] ∧ reached.answered = false then awaitTurn size reached turns
      else some (.ok (reached.incoming.take (min (turn.extra + 1) size)),
        { reached with incoming := reached.incoming.drop (min (turn.extra + 1) size), turns })

def read (link : Link) (size : Nat) : Option (Except NetError Bytes × Link) :=
  awaitTurn serve size link link.turns

def socket : AsyncSocket Link where
  read := read serve
  write := write serve
  flush := flush serve

def opened (turns : List Turn) : Link where
  outgoing := []
  received := []
  answered := false
  incoming := []
  turns := turns

/-- The network on which every connection reaches the one server. -/
def net (turns : List Turn) : AsyncNet Link where
  connect _ := .ok (opened turns)
  socket := socket serve

/-- All that was sent is delivered or on its way, and what was heard is the beginning of the
server's answer to a part of it. -/
structure Sound (sent heard : Bytes) (link : Link) : Prop where
  flow : link.received ++ link.outgoing = sent
  unanswered : link.answered = false → heard = [] ∧ link.incoming = []
  answered : link.answered = true →
    ∃ asked, asked <+: sent ∧ serve asked = some (heard ++ link.incoming)

variable {serve} {sent heard : Bytes} {link : Link}

theorem sound_opened (turns : List Turn) : Sound serve [] [] (opened turns) :=
  ⟨rfl, fun _ => ⟨rfl, rfl⟩, fun closed => absurd closed Bool.false_ne_true⟩

theorem Sound.happen (sound : Sound serve sent heard link) (event : LinkEvent) :
    Sound serve sent heard (link.happen serve event) := by
  cases event with
  | deliver count =>
      refine ⟨?_, sound.unanswered, sound.answered⟩
      have flow := sound.flow
      simpa [Link.happen] using flow
  | answer =>
      simp only [Link.happen]
      split
      · exact sound
      · rename_i silent
        split
        · rename_i reply served
          obtain ⟨nothing, -⟩ := sound.unanswered (Bool.eq_false_iff.mpr silent)
          refine ⟨sound.flow, nofun, fun _ => ⟨link.received, ?_, ?_⟩⟩
          · exact sound.flow ▸ List.prefix_append _ _
          · rw [served, nothing, List.nil_append]
        · exact sound

theorem Sound.happenAll (sound : Sound serve sent heard link) (events : List LinkEvent) :
    Sound serve sent heard (link.happenAll serve events) := by
  induction events generalizing link with
  | nil => exact sound
  | cons event events ih => exact ih (sound.happen event)

/-- What the driver hands over is sent. -/
theorem Sound.sending (sound : Sound serve sent heard link) (piece : Bytes) (turns : List Turn) :
    Sound serve (sent ++ piece) heard
      { link with outgoing := link.outgoing ++ piece, turns } := by
  refine ⟨?_, sound.unanswered, fun closed => ?_⟩
  · rw [← sound.flow, List.append_assoc]
  · obtain ⟨asked, part, served⟩ := sound.answered closed
    exact ⟨asked, part.trans (List.prefix_append _ _), served⟩

theorem Sound.write (sound : Sound serve sent heard link) {offered : Bytes}
    (nonempty : offered ≠ []) :
    ∃ count next, link.write serve offered = (.ok (count + 1), next) ∧
      Sound serve (sent ++ offered.take (count + 1)) heard next := by
  have positive : 0 < offered.length := List.length_pos_of_ne_nil nonempty
  unfold Link.write
  split
  · refine ⟨offered.length - 1, _, by rw [Nat.sub_add_cancel positive], ?_⟩
    rw [Nat.sub_add_cancel positive, List.take_length]
    exact sound.sending offered link.turns
  · rename_i turn turns _
    have count : min (turn.extra + 1) offered.length - 1 + 1 =
        min (turn.extra + 1) offered.length := by omega
    have taken : offered.take (min (turn.extra + 1) offered.length) =
        offered.take (turn.extra + 1) := by
      rw [← List.take_take, List.take_length]
    refine ⟨min (turn.extra + 1) offered.length - 1, _, by rw [count], ?_⟩
    rw [count, taken]
    exact (sound.happenAll turn.events).sending _ turns

theorem Sound.flush (sound : Sound serve sent heard link) :
    ∃ next, link.flush serve = (.ok (), next) ∧ Sound serve sent heard next := by
  unfold Link.flush
  split
  · exact ⟨link, rfl, sound⟩
  · rename_i turn turns _
    have reached := sound.happenAll turn.events
    exact ⟨_, rfl, reached.flow, reached.unanswered, reached.answered⟩

/-- What is read is the next piece of the answer, and nothing once all of it is read. -/
theorem Sound.read (sound : Sound serve sent heard link) {size : Nat} (room : 0 < size)
    {result : Except NetError Bytes} {next : Link}
    (returned : link.read serve size = some (result, next)) :
    ∃ piece, result = .ok piece ∧ Sound serve sent (heard ++ piece) next ∧
      (piece = [] → next.answered = true ∧ next.incoming = []) := by
  have waits (turns : List Turn) (link : Link) (sound : Sound serve sent heard link)
      (returned : awaitTurn serve size link turns = some (result, next)) :
      ∃ piece, result = .ok piece ∧ Sound serve sent (heard ++ piece) next ∧
        (piece = [] → next.answered = true ∧ next.incoming = []) := by
    induction turns generalizing link with
    | nil => cases returned
    | cons turn turns ih =>
        have reached := sound.happenAll turn.events
        simp only [awaitTurn] at returned
        split at returned
        · exact ih _ reached returned
        · rename_i ready
          cases returned
          have closed : (link.happenAll serve turn.events).answered = true := by
            by_contra silent
            have unanswered := Bool.eq_false_iff.mpr silent
            exact ready ⟨(reached.unanswered unanswered).2, unanswered⟩
          refine ⟨_, rfl, ⟨reached.flow, fun silent => ?_, fun _ => ?_⟩, fun empty => ⟨closed, ?_⟩⟩
          · exact absurd (silent.symm.trans closed) (by decide)
          · obtain ⟨asked, part, served⟩ := reached.answered closed
            exact ⟨asked, part, by rw [served, List.append_assoc, List.take_append_drop]⟩
          · have some_room : min (turn.extra + 1) size ≠ 0 := by omega
            rcases List.take_eq_nil_iff.mp empty with none | all
            · exact absurd none some_room
            · simp [all]
  exact waits link.turns link sound returned

/-! ## What the driver ends with -/

variable {limit : Nat} {after : Link} {outcome : Except HttpTransportError HttpResponse}

/-- The request is handed over in full. -/
theorem Sound.sendAll (sound : Sound serve sent heard link) (buf : Bytes) :
    ∃ next, writeAllSocket (Link.socket serve).write link buf = (.ok (), next) ∧
      Sound serve (sent ++ buf) heard next :=
  writeAll_succeeds (fun link sent => Sound serve sent heard link)
    (fun _ _ _ sound nonempty => sound.write nonempty) sound

theorem Sound.sendBody (sound : Sound serve sent heard link) (body : Option Bytes) :
    ∃ next, Exchange.sendBody (Link.socket serve) link body = (.ok (), next) ∧
      Sound serve (sent ++ body.getD []) heard next := by
  cases body with
  | none => exact ⟨link, rfl, by simpa using sound⟩
  | some body => exact sound.sendAll body

/-- What is drained is the whole answer to a part of what was sent. -/
theorem Sound.drained (sound : Sound serve sent [] link) {result : Except NetError Bytes}
    (ran : drain (fun link => (Link.socket serve).read link 4096) limit [] link =
      some (result, after)) :
    ∃ asked reply, asked <+: sent ∧ serve asked = some reply ∧ result = .ok reply := by
  obtain ⟨last, total, kept, ends⟩ :=
    drain_invariant (fun link heard => Sound serve sent heard link)
      (fun link heard piece next sound _ returned => by
        obtain ⟨other, same, kept, -⟩ := sound.read (by decide) returned
        cases same
        exact kept) sound ran
  cases ends with
  | through returned =>
      obtain ⟨piece, same, through, empty⟩ := kept.read (by decide) returned
      cases same
      obtain ⟨closed, nothing⟩ := empty rfl
      obtain ⟨asked, part, served⟩ := through.answered closed
      exact ⟨asked, total, part, by simpa [nothing] using served, rfl⟩
  | failed returned =>
      obtain ⟨piece, same, -⟩ := kept.read (by decide) returned
      cases same

/-- Every exchange that ends does so with an answer of the server to a part of the request. -/
theorem converse_link {head : Bytes} {body : Option Bytes} (sound : Sound serve [] [] link)
    (ran : converse (Link.socket serve) limit head body link = some (outcome, after)) :
    ∃ asked reply, asked <+: head ++ body.getD [] ∧ serve asked = some reply ∧
      outcome = parseResponse reply := by
  obtain ⟨headed, headSent, soundHead⟩ := sound.sendAll head
  obtain ⟨whole, bodySent, soundBody⟩ := soundHead.sendBody body
  obtain ⟨flushed, flushing, soundFlush⟩ := soundBody.flush
  have flushes : (Link.socket serve).flush whole = (.ok (), flushed) := flushing
  simp only [converse, headSent, bodySent, flushes] at ran
  split at ran
  · cases ran
  · rename_i error reached drained
    obtain ⟨asked, reply, -, -, same⟩ := soundFlush.drained drained
    cases same
  · rename_i response reached drained
    cases ran
    obtain ⟨asked, reply, part, served, same⟩ := soundFlush.drained drained
    cases same
    exact ⟨asked, response, by simpa using part, served, rfl⟩

/-! ## That the driver ends -/

/-- At least so many turns are left, at the end of the schedule, of those that settle all. -/
def Lasts (settled : Turn → Prop) (needed : Nat) (turns : List Turn) : Prop :=
  ∃ late, late <:+ turns ∧ (∀ turn ∈ late, settled turn) ∧ needed ≤ late.length

variable {settled : Turn → Prop} {needed fewer : Nat} {turn : Turn} {turns : List Turn}

theorem Lasts.mono (lasts : Lasts settled needed turns) (less : fewer ≤ needed) :
    Lasts settled fewer turns := by
  obtain ⟨late, last, all, enough⟩ := lasts
  exact ⟨late, last, all, Nat.le_trans less enough⟩

/-- Each operation takes one turn. -/
theorem Lasts.tail (lasts : Lasts settled needed turns) :
    Lasts settled (needed - 1) turns.tail := by
  obtain ⟨late, last, all, enough⟩ := lasts
  cases turns with
  | nil => exact ⟨late, last, all, Nat.le_trans (Nat.sub_le needed 1) enough⟩
  | cons turn turns =>
      rcases List.suffix_cons_iff.mp last with rfl | later
      · exact ⟨turns, List.suffix_rfl,
          fun other member => all other (List.mem_cons_of_mem turn member),
          Nat.sub_le_of_le_add enough⟩
      · exact ⟨late, later, all, Nat.le_trans (Nat.sub_le needed 1) enough⟩

/-- The next turn settles all, or no turn that does is lost with it. -/
theorem Lasts.cons (lasts : Lasts settled needed (turn :: turns)) :
    settled turn ∨ Lasts settled needed turns := by
  obtain ⟨late, last, all, enough⟩ := lasts
  rcases List.suffix_cons_iff.mp last with rfl | later
  · exact .inl (all turn List.mem_cons_self)
  · exact .inr ⟨late, later, all, enough⟩

theorem not_lasts_nil : ¬Lasts settled (needed + 1) [] := by
  rintro ⟨late, last, -, enough⟩
  rw [List.suffix_nil.mp last] at enough
  exact Nat.not_succ_le_zero _ enough

/-- A turn that delivers everything and lets the server answer. -/
def Settles (size : Nat) (turn : Turn) : Prop := turn.events = [.deliver size, .answer]

/-- After such a turn the server has answered, if it answers the whole of what was sent. -/
theorem Sound.answered_of_settles (sound : Sound serve sent heard link)
    (settles : Settles sent.length turn) (answers : (serve sent).isSome = true) :
    (link.happenAll serve turn.events).answered = true := by
  have delivered : (link.happen serve (.deliver sent.length)).received = sent := by
    have short : link.outgoing.length ≤ sent.length := by
      rw [← sound.flow, List.length_append]
      exact Nat.le_add_left _ _
    simpa [Link.happen, List.take_of_length_le short] using sound.flow
  obtain ⟨reply, served⟩ := Option.isSome_iff_exists.mp answers
  have events : turn.events = [.deliver sent.length, .answer] := settles
  rw [events]
  change ((link.happen serve (.deliver sent.length)).happen serve .answer).answered = true
  generalize link.happen serve (.deliver sent.length) = reached at delivered
  simp only [Link.happen, delivered, served]
  split
  · assumption
  · rfl

/-- No read waits for ever while a turn that settles all is left, and none takes a turn more than
it must. -/
theorem Sound.read_returns (sound : Sound serve sent heard link)
    (answers : (serve sent).isSome = true) {size : Nat}
    (lasts : Lasts (Settles sent.length) (needed + 1) link.turns) :
    ∃ result next, link.read serve size = some (result, next) ∧
      Lasts (Settles sent.length) needed next.turns ∧ next.turns.length < link.turns.length := by
  have waits (turns : List Turn) (link : Link) (sound : Sound serve sent heard link)
      (lasts : Lasts (Settles sent.length) (needed + 1) turns) :
      ∃ result next, awaitTurn serve size link turns = some (result, next) ∧
        Lasts (Settles sent.length) needed next.turns ∧ next.turns.length < turns.length := by
    induction turns generalizing link with
    | nil => exact absurd lasts not_lasts_nil
    | cons turn turns ih =>
        simp only [awaitTurn]
        split
        · rename_i waiting
          have later : Lasts (Settles sent.length) (needed + 1) turns := by
            rcases lasts.cons with settles | later
            · have closed := sound.answered_of_settles settles answers
              exact absurd (waiting.2.symm.trans closed) (by decide)
            · exact later
          obtain ⟨result, next, returned, kept, shorter⟩ :=
            ih _ (sound.happenAll turn.events) later
          exact ⟨result, next, returned, kept, Nat.lt_succ_of_lt shorter⟩
        · exact ⟨_, _, rfl, lasts.tail, Nat.lt_succ_self _⟩
  exact waits link.turns link sound lasts

theorem write_turns (offered : Bytes) : (link.write serve offered).2.turns = link.turns.tail := by
  unfold Link.write
  split <;> simp [*]

theorem flush_turns : (link.flush serve).2.turns = link.turns.tail := by
  unfold Link.flush
  split <;> simp [*]

/-- The request is handed over in no more turns than it has bytes. -/
theorem Sound.sendAll_lasts (sound : Sound serve sent heard link) (buf : Bytes)
    (lasts : Lasts settled (needed - sent.length) link.turns) :
    ∃ next, writeAllSocket (Link.socket serve).write link buf = (.ok (), next) ∧
      Sound serve (sent ++ buf) heard next ∧
      Lasts settled (needed - (sent ++ buf).length) next.turns ∧
      next.turns.length ≤ link.turns.length := by
  refine writeAll_succeeds (fun state sent => Sound serve sent heard state ∧
    Lasts settled (needed - sent.length) state.turns ∧ state.turns.length ≤ link.turns.length)
    ?_ ⟨sound, lasts, Nat.le_refl _⟩
  rintro state taken offered ⟨sound, lasts, fewer⟩ nonempty
  obtain ⟨count, next, returned, kept⟩ := sound.write nonempty
  have turns : next.turns = state.turns.tail := by
    rw [← write_turns offered, returned]
  have positive : 0 < offered.length := List.length_pos_of_ne_nil nonempty
  refine ⟨count, next, returned, kept, ?_, ?_⟩
  · rw [turns]
    refine lasts.tail.mono ?_
    rw [List.length_append, List.length_take]
    omega
  · rw [turns, List.length_tail]
    omega

theorem Sound.sendBody_lasts (sound : Sound serve sent heard link) (body : Option Bytes)
    (lasts : Lasts settled (needed - sent.length) link.turns) :
    ∃ next, Exchange.sendBody (Link.socket serve) link body = (.ok (), next) ∧
      Sound serve (sent ++ body.getD []) heard next ∧
      Lasts settled (needed - (sent ++ body.getD []).length) next.turns ∧
      next.turns.length ≤ link.turns.length := by
  cases body with
  | none => exact ⟨link, rfl, by simpa using sound, by simpa using lasts, Nat.le_refl _⟩
  | some body => exact sound.sendAll_lasts body lasts

/-- The answer is read in no more turns than it has bytes, and one for its end. -/
theorem Sound.drain_returns (sound : Sound serve sent [] link)
    (answers : (serve sent).isSome = true) {bound : Nat}
    (bounded : ∀ asked reply, asked <+: sent → serve asked = some reply → reply.length ≤ bound)
    (lasts : Lasts (Settles sent.length) (bound + 1) link.turns)
    (enough : link.turns.length < limit) :
    ∃ result, drain (fun link => (Link.socket serve).read link 4096) limit [] link =
      some result := by
  refine Draining.drain_returns (fun link => ∃ heard, Sound serve sent heard link ∧
    Lasts (Settles sent.length) (bound + 1 - heard.length) link.turns)
    (fun link => link.turns.length) ?_ ⟨[], sound, lasts⟩ enough
  rintro link ⟨heard, sound, lasts⟩
  have short : heard.length ≤ bound := by
    cases closed : link.answered with
    | false =>
        rw [(sound.unanswered closed).1]
        exact Nat.zero_le _
    | true =>
        obtain ⟨asked, part, served⟩ := sound.answered closed
        have whole := bounded asked _ part served
        rw [List.length_append] at whole
        omega
  rw [Nat.succ_sub short] at lasts
  obtain ⟨result, next, returned, kept, fewer⟩ := sound.read_returns answers lasts
  refine ⟨result, next, returned, ?_⟩
  rintro piece rfl nonempty
  obtain ⟨other, same, further, -⟩ := sound.read (by decide) returned
  cases same
  have positive : 0 < piece.length := List.length_pos_of_ne_nil nonempty
  refine ⟨⟨heard ++ piece, further, kept.mono ?_⟩, fewer⟩
  rw [List.length_append]
  omega

/-- Enough turns that settle all bring every exchange to its end. -/
theorem converse_returns {head : Bytes} {body : Option Bytes} {bound : Nat}
    (answers : (serve (head ++ body.getD [])).isSome = true)
    (bounded : ∀ asked reply, asked <+: head ++ body.getD [] → serve asked = some reply →
      reply.length ≤ bound)
    (lasts : Lasts (Settles (head ++ body.getD []).length)
      ((head ++ body.getD []).length + bound + 2) turns)
    (enough : turns.length < limit) :
    ∃ result, converse (Link.socket serve) limit head body (opened turns) = some result := by
  have unspent : Lasts (Settles (head ++ body.getD []).length)
      ((head ++ body.getD []).length + bound + 2 - ([] : Bytes).length) (opened turns).turns :=
    lasts
  obtain ⟨headed, headSent, soundHead, lastsHead, fewerHead⟩ :=
    (sound_opened turns).sendAll_lasts head unspent
  obtain ⟨whole, bodySent, soundBody, lastsBody, fewerBody⟩ :=
    soundHead.sendBody_lasts body lastsHead
  obtain ⟨flushed, flushing, soundFlush⟩ := soundBody.flush
  have remaining : flushed.turns = whole.turns.tail := by rw [← flush_turns, flushing]
  have lastsFlush : Lasts (Settles (head ++ body.getD []).length) (bound + 1) flushed.turns := by
    rw [remaining]
    refine lastsBody.tail.mono ?_
    simp only [List.nil_append]
    omega
  have left : flushed.turns.length < limit := by
    have start : (opened turns).turns.length = turns.length := rfl
    rw [remaining, List.length_tail]
    omega
  obtain ⟨⟨result, last⟩, drained⟩ := soundFlush.drain_returns answers bounded lastsFlush left
  have flushes : (Link.socket serve).flush whole = (.ok (), flushed) := flushing
  simp only [converse, headSent, bodySent, flushes, drained]
  cases result <;> exact ⟨_, rfl⟩

end Link

/-- A server that answers every request it can read. -/
def serving (respond : Message → Reply) (bytes : Bytes) : Option Bytes :=
  (parse bytes).map fun message => (respond message).render

/-- A server answers no proper part of a well-formed message. -/
theorem eq_render_of_serving {respond : Message → Reply} {message : Message}
    (formed : message.WellFormed) {asked reply : Bytes} (part : asked <+: render message)
    (served : serving respond asked = some reply) :
    asked = render message ∧ reply = (respond message).render := by
  obtain ⟨early, read, rfl⟩ := Option.map_eq_some_iff.mp served
  obtain ⟨more, whole⟩ := part
  have late := parse_render formed
  rw [← whole] at late
  obtain rfl := eq_nil_of_parse_append read late
  rw [List.append_nil] at whole
  subst whole
  cases read.symm.trans (parse_render formed)
  exact ⟨rfl, rfl⟩

section Answers

variable {respond : Message → Reply} {turns : List Turn} {limit : Nat} {endpoint : String}
  {request : HttpRequest} {parsed : ParsedEndpoint}

/-- The exchange after the connection is opened. -/
theorem sendRequest_net (accepted : parseEndpoint endpoint = .ok parsed) :
    Exchange.sendRequest (Link.net (serving respond) turns) limit endpoint request =
      (converse (Link.socket (serving respond)) limit
        (Utf8.encode (wireRequest parsed.hostHeader request)) request.body
        (Link.opened turns)).map (Prod.map id some) := by
  simp only [Exchange.sendRequest, accepted, Link.net]

/-- Every exchange that ends does so with the server's answer to the one message meant. -/
theorem outcome_of_sendRequest {after : Option Link}
    {outcome : Except HttpTransportError HttpResponse}
    (accepted : parseEndpoint endpoint = .ok parsed)
    (unambiguous : Unambiguous parsed.hostHeader request)
    (clear : (respond (meantMessage parsed.hostHeader request)).Clear)
    (announced : ∀ length ∈
        expectedLength (respond (meantMessage parsed.hostHeader request)).response.headers,
      length ≤ (respond (meantMessage parsed.hostHeader request)).response.body.length)
    (ran : Exchange.sendRequest (Link.net (serving respond) turns) limit endpoint request =
      some (outcome, after)) :
    outcome = .ok (respond (meantMessage parsed.hostHeader request)).response := by
  have formed := (wellFormed_meantMessage_iff _ request).mpr unambiguous
  rw [sendRequest_net accepted] at ran
  obtain ⟨⟨returned, reached⟩, ended, taken⟩ := Option.map_eq_some_iff.mp ran
  cases taken
  obtain ⟨asked, reply, part, served, result⟩ :=
    Link.converse_link (Link.sound_opened turns) ended
  rw [encode_wireRequest] at part
  obtain ⟨-, rfl⟩ := eq_render_of_serving formed part served
  exact result.trans (Reply.parseResponse_render clear announced)

/-- Enough turns that settle all bring the exchange to its end. -/
theorem sendRequest_returns (accepted : parseEndpoint endpoint = .ok parsed)
    (unambiguous : Unambiguous parsed.hostHeader request)
    (lasts : Link.Lasts (Link.Settles (render (meantMessage parsed.hostHeader request)).length)
      ((render (meantMessage parsed.hostHeader request)).length +
        (respond (meantMessage parsed.hostHeader request)).render.length + 2) turns)
    (enough : turns.length < limit) :
    ∃ outcome after, Exchange.sendRequest (Link.net (serving respond) turns) limit endpoint
      request = some (outcome, some after) := by
  have formed := (wellFormed_meantMessage_iff _ request).mpr unambiguous
  have whole : serving respond (render (meantMessage parsed.hostHeader request)) =
      some (respond (meantMessage parsed.hostHeader request)).render := by
    rw [serving, parse_render formed]
    rfl
  obtain ⟨⟨outcome, after⟩, ended⟩ : ∃ result,
      converse (Link.socket (serving respond)) limit
        (Utf8.encode (wireRequest parsed.hostHeader request)) request.body (Link.opened turns) =
          some result := by
    refine Link.converse_returns ?_ ?_ (by rw [encode_wireRequest]; exact lasts) enough
    · rw [encode_wireRequest, whole]
      rfl
    · intro asked reply part served
      rw [encode_wireRequest] at part
      obtain ⟨-, rfl⟩ := eq_render_of_serving formed part served
      exact Nat.le_refl _
  exact ⟨outcome, after, by rw [sendRequest_net accepted, ended]; rfl⟩

/-- Every exchange about an unambiguous request that ends does so with the server's answer to the
one message it means, however the bytes are cut and their delivery is ordered.  It ends if the
last turns, as many as there are bytes and two more, deliver everything and let the server
answer. -/
theorem sendRequest_answered (accepted : parseEndpoint endpoint = .ok parsed)
    (unambiguous : Unambiguous parsed.hostHeader request)
    (clear : (respond (meantMessage parsed.hostHeader request)).Clear)
    (announced : ∀ length ∈
        expectedLength (respond (meantMessage parsed.hostHeader request)).response.headers,
      length ≤ (respond (meantMessage parsed.hostHeader request)).response.body.length) :
    let message := meantMessage parsed.hostHeader request
    let exchange := Exchange.sendRequest (Link.net (serving respond) turns) limit endpoint request
    (∀ outcome after, exchange = some (outcome, after) →
        outcome = .ok (respond message).response) ∧
      (Link.Lasts (Link.Settles (render message).length)
          ((render message).length + (respond message).render.length + 2) turns →
        turns.length < limit →
          ∃ after, exchange = some (.ok (respond message).response, some after)) := by
  intro message exchange
  have answered (outcome : Except HttpTransportError HttpResponse) (after : Option Link)
      (ran : exchange = some (outcome, after)) : outcome = .ok (respond message).response :=
    outcome_of_sendRequest accepted unambiguous clear announced ran
  refine ⟨answered, fun lasts enough => ?_⟩
  obtain ⟨outcome, after, ran⟩ := sendRequest_returns accepted unambiguous lasts enough
  exact ⟨after, ran.trans (by rw [answered outcome (some after) ran])⟩

/-- A request for the level of a meter. -/
def levelRequest : HttpRequest where
  method := "GET"
  path := "/level"
  body := none
  headers := []

theorem levelRequest_unambiguous : Unambiguous "meter" levelRequest :=
  ⟨by decide +kernel, by decide +kernel, by decide +kernel, by decide, by decide, by decide,
    .inl (by decide)⟩

theorem parseEndpoint_meter : parseEndpoint "http://meter" =
    .ok { connectTarget := "meter:80", hostHeader := "meter" } := by
  decide +kernel

/-- The server is asked too early, and answers when all has been delivered. -/
def lateTurns : List Turn :=
  ⟨[.answer, .deliver 3], 2⟩ ::
    List.replicate ((render (meantMessage "meter" levelRequest)).length +
        Reply.greeting.render.length + 2)
      ⟨[.deliver (render (meantMessage "meter" levelRequest)).length, .answer], 6⟩

theorem lateTurns_last :
    Link.Lasts (Link.Settles (render (meantMessage "meter" levelRequest)).length)
      ((render (meantMessage "meter" levelRequest)).length + Reply.greeting.render.length + 2)
      lateTurns := by
  refine ⟨_, List.suffix_cons _ _, fun turn member => ?_, Nat.le_of_eq ?_⟩
  · rw [List.eq_of_mem_replicate member]
    rfl
  · exact List.length_replicate.symm

/-- The meter's server greets, and the driver gets its greeting. -/
theorem levelRequest_answered :
    ∃ after, Exchange.sendRequest (Link.net (serving fun _ => Reply.greeting) lateTurns)
        (lateTurns.length + 1) "http://meter" levelRequest =
      some (.ok Reply.greeting.response, some after) :=
  (sendRequest_answered parseEndpoint_meter levelRequest_unambiguous Reply.greeting_clear
    (by decide +kernel)).2 lateTurns_last (Nat.lt_succ_self _)

end Answers
end Ferredge.Http
