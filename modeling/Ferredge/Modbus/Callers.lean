import Ferredge.Modbus.Bus

/-!
# Callers of one driver

Any number of callers execute commands of one driver at the same time.  A call waits for the lock of
the persistent session and holds it over all of its attempts and the delays between them.  Whatever
the order of their steps, the calls end as if they had been made one after the other.
-/

namespace Ferredge

open Retrying Transition

/-- How far a call has come. -/
inductive CallState where
  /-- No call is under way. -/
  | idle
  /-- The call waits for the lock of the session. -/
  | waiting (command : Command) (request : ModbusRequest)
  /-- The call holds the lock and has attempts left. -/
  | trying (command : Command) (request : ModbusRequest) (remaining : Nat) (attempt : UInt32)
      (lastError : Option String)

namespace CallState

def holdsLock : CallState → Bool
  | .trying .. => true
  | .idle | .waiting .. => false

end CallState

/-- The callers of a driver, the lock of its session, what requests are sent over, and what has
happened. -/
structure ModbusCallers (σ : Type) where
  calls : Nat → CallState
  locked : Bool
  link : σ
  log : List BusEvent

/-- A step of one of the callers, a stop of the driver, or a change of the unit's memory.  An
attempt is one step: nothing else can use the session or the link until it has ended. -/
inductive CallerStep where
  | call (caller : Nat) (command : Command)
  | lock (caller : Nat)
  | attempt (caller : Nat)
  | stop
  | change (memory : RegisterMemory)

namespace ModbusCallers

open ModbusDriver Modbus

variable {σ : Type}

/-- Callers none of which has made a call. -/
def begin (link : σ) : ModbusCallers σ :=
  { calls := fun _ => .idle, locked := false, link, log := [] }

/-- The callers after one of them has come further. -/
def proceed (state : ModbusCallers σ) (caller : Nat) (call : CallState) : ModbusCallers σ :=
  { state with calls := fun other => if other = caller then call else state.calls other }

/-- The callers after a call has returned and released the lock. -/
def finish (state : ModbusCallers σ) (caller : Nat) (command : Command) (ending : CommandEnding)
    (link : σ) : ModbusCallers σ :=
  { state.proceed caller .idle with
    locked := false
    link
    log := state.log ++ [.called command ending] }

/-- The number of attempts that a request is allowed. -/
def maxAttempts (policy : ModbusReconnectPolicy) (request : ModbusRequest) : UInt32 :=
  UInt32.ofNat (requestAttemptBudget policy.toModbusReconnectConfig request.isWrite)

/-- One attempt of a call that holds the lock, and the delay after it. -/
def tryOnce (policy : ModbusReconnectPolicy) (medium : ModbusMedium σ) (state : ModbusCallers σ)
    (caller : Nat) (command : Command) (request : ModbusRequest) (remaining : Nat)
    (attempt : UInt32) : ModbusCallers σ :=
  match medium.attempt request state.link with
  | (.ok frame, link) =>
      state.finish caller command (.returned (buildModbusResponse request frame)) link
  | (.error error, link) =>
      match checkedAdd attempt 1 with
      | none => state.finish caller command .overflowed link
      | some next =>
          if maxAttempts policy request ≤ next || !isRetryableTransportError error then
            state.finish caller command (.returned (.error error)) link
          else
            { state.proceed caller (.trying command request remaining next (some error)) with
              link }

/-- The callers after a step, if it is possible. -/
def step (lib : Rmodbus) (policy : ModbusReconnectPolicy) (medium : ModbusMedium σ)
    (device : ModbusDevice) (state : ModbusCallers σ) : CallerStep → Option (ModbusCallers σ)
  | .call caller command =>
      match state.calls caller with
      | .idle =>
          match nativeRequest lib device command with
          | .error error =>
              some
                { state with
                  log := state.log ++ [.called command (.returned (.error error.display))] }
          | .ok request => some (state.proceed caller (.waiting command request))
      | .waiting .. | .trying .. => none
  | .lock caller =>
      match state.calls caller with
      | .waiting command request =>
          if state.locked then none
          else
            some
              { state.proceed caller
                  (.trying command request (maxAttempts policy request).toNat 0 none) with
                locked := true }
      | .idle | .trying .. => none
  | .attempt caller =>
      match state.calls caller with
      | .trying command request (remaining + 1) attempt _ =>
          some (state.tryOnce policy medium caller command request remaining attempt)
      | .trying command _ 0 _ lastError =>
          some (state.finish caller command
            (.returned (.error (lastError.getD "Modbus execute failed"))) state.link)
      | .idle | .waiting .. => none
  | .stop =>
      if state.locked then none
      else
        some { state with link := medium.closeSession state.link, log := state.log ++ [.stopped] }
  | .change memory =>
      -- The unit serves one request at a time and changes its memory between them.
      if state.locked then none
      else
        some
          { state with
            link := medium.change memory state.link
            log := state.log ++ [.changed] }

/-- Steps of callers as a relation. -/
def Steps (lib : Rmodbus) (policy : ModbusReconnectPolicy) (medium : ModbusMedium σ)
    (device : ModbusDevice) (before : ModbusCallers σ) (label : CallerStep)
    (after : ModbusCallers σ) : Prop :=
  before.step lib policy medium device label = some after

/-- The step brings a call that was made earlier further. -/
def Advances : CallerStep → Prop
  | .lock _ | .attempt _ => True
  | .call .. | .stop | .change _ => False

/-- The actions are minded when they are asked for. -/
def Minds (careful : σ → BusAction → Prop) (state : ModbusCallers σ) : CallerStep → Prop
  | .call _ command => ∀ link, careful link (.call command)
  | .lock _ | .attempt _ => True
  | .stop => careful state.link .stop
  | .change memory => careful state.link (.change memory)

/-! ## One call after the other -/

/-- How a command ends after the attempts of its request. -/
def conclude (request : ModbusRequest) (call : DriverCall σ) : CommandEnding × σ :=
  match call.ending with
  | .returned result => (.returned (result >>= buildModbusResponse request), call.world)
  | .overflowed => (.overflowed, call.world)

/-- How a call ends that has attempts left. -/
def remains (policy : ModbusReconnectPolicy) (medium : ModbusMedium σ) (request : ModbusRequest)
    (remaining : Nat) (attempt : UInt32) (lastError : Option String) (link : σ) :
    CommandEnding × σ :=
  conclude request (attemptsFrom policy (maxAttempts policy request) (medium.attempt request)
    remaining attempt lastError link)

/-- The request of a call that has not returned. -/
def pending : CallState → Option (Command × ModbusRequest)
  | .idle => none
  | .waiting command request | .trying command request .. => some (command, request)

/-- Where a bus stands on which the finished calls were made one after the other, in this order:
the call that holds the lock, if there is one, ends from here as it would end on the bus. -/
inductive Stands (policy : ModbusReconnectPolicy) (medium : ModbusMedium σ) (link : σ)
    (state : ModbusCallers σ) : Prop
  | free (unlocked : state.locked = false) (same : state.link = link)
      (nobody : ∀ caller, (state.calls caller).holdsLock = false)
  | held {caller : Nat} {command : Command} {request : ModbusRequest} {remaining : Nat}
      {attempt : UInt32} {lastError : Option String} (locked : state.locked = true)
      (trying : state.calls caller = .trying command request remaining attempt lastError)
      (ends : execute policy medium request link =
        remains policy medium request remaining attempt lastError state.link)
      (nobody : ∀ other, other ≠ caller → (state.calls other).holdsLock = false)

/-- The callers are where a bus can be, and each call has the request of its command. -/
structure Sequential (lib : Rmodbus) (policy : ModbusReconnectPolicy) (medium : ModbusMedium σ)
    (device : ModbusDevice) (careful : σ → BusAction → Prop) (start : σ)
    (state : ModbusCallers σ) : Prop where
  bus : ∃ bus, Run (ModbusBus.Acts lib policy medium device) (fun bus => careful bus.link)
      (.begin start) bus ∧ bus.log = state.log ∧ Stands policy medium bus.link state
  requests : ∀ caller command request, pending (state.calls caller) = some (command, request) →
    nativeRequest lib device command = .ok request ∧ ∀ link, careful link (.call command)

section

variable {lib : Rmodbus} {policy : ModbusReconnectPolicy} {medium : ModbusMedium σ}
  {device : ModbusDevice} {careful : σ → BusAction → Prop} {state : ModbusCallers σ}
  {caller : Nat} {command : Command} {request : ModbusRequest} {remaining : Nat}
  {attempt : UInt32} {lastError : Option String} {link : σ}

theorem execute_eq_remains (policy : ModbusReconnectPolicy) (medium : ModbusMedium σ)
    (request : ModbusRequest) (link : σ) :
    execute policy medium request link =
      remains policy medium request (maxAttempts policy request).toNat 0 none link := by
  rw [remains, maxAttempts, execute, ModbusDriver.executeOnEndpoint, if_pos rfl]
  rfl

theorem conclude_after (error : String) (delay : Option Duration) (call : DriverCall σ) :
    conclude request (call.after error delay) = conclude request call := rfl

@[simp]
theorem proceed_calls_self (state : ModbusCallers σ) (caller : Nat) (call : CallState) :
    (state.proceed caller call).calls caller = call := if_pos rfl

theorem proceed_calls_other {other : Nat} (apart : other ≠ caller) (call : CallState) :
    (state.proceed caller call).calls other = state.calls other := if_neg apart

/-- An attempt ends a call, or leaves it with one attempt less. -/
theorem tryOnce_cases (policy : ModbusReconnectPolicy) (medium : ModbusMedium σ)
    (state : ModbusCallers σ) (caller : Nat) (command : Command) (request : ModbusRequest)
    (remaining : Nat) (attempt : UInt32) (lastError : Option String) :
    (∃ ending link, remains policy medium request (remaining + 1) attempt lastError state.link =
        (ending, link) ∧
      state.tryOnce policy medium caller command request remaining attempt =
        state.finish caller command ending link) ∨
    ∃ next error link, remains policy medium request (remaining + 1) attempt lastError state.link =
        remains policy medium request remaining next (some error) link ∧
      state.tryOnce policy medium caller command request remaining attempt =
        { state.proceed caller (.trying command request remaining next (some error)) with
          link } := by
  unfold tryOnce remains
  rw [attemptsFrom]
  rcases medium.attempt request state.link with ⟨error | frame, link⟩
  · cases added : checkedAdd attempt 1 with
    | none => exact .inl ⟨_, _, rfl, rfl⟩
    | some next =>
        simp only
        split
        · exact .inl ⟨_, _, rfl, rfl⟩
        · exact .inr ⟨_, _, _, conclude_after _ _ _, rfl⟩
  · exact .inl ⟨_, _, rfl, rfl⟩

theorem begin_sequential (lib : Rmodbus) (policy : ModbusReconnectPolicy)
    (medium : ModbusMedium σ) (device : ModbusDevice) (careful : σ → BusAction → Prop) (start : σ) :
    Sequential lib policy medium device careful start (.begin start) where
  bus := ⟨.begin start, .refl _, rfl, .free rfl rfl fun _ => rfl⟩
  requests _ _ _ asked := by cases asked

/-- While the lock is free, the callers are where a bus is. -/
theorem Stands.link_eq (stands : Stands policy medium link state)
    (unlocked : state.locked = false) : state.link = link := by
  cases stands with
  | free _ same _ => exact same
  | held locked => cases unlocked.symm.trans locked

/-- A call that has attempts left holds the lock, alone. -/
theorem Stands.of_trying (stands : Stands policy medium link state)
    (trying : state.calls caller = .trying command request remaining attempt lastError) :
    state.locked = true ∧
      execute policy medium request link =
        remains policy medium request remaining attempt lastError state.link ∧
      ∀ other, other ≠ caller → (state.calls other).holdsLock = false := by
  cases stands with
  | free _ _ nobody =>
      have unheld := nobody caller
      rw [trying] at unheld
      cases unheld
  | @held holder _ _ _ _ _ locked holds ends nobody =>
      by_cases same : caller = holder
      · subst same
        cases holds.symm.trans trying
        exact ⟨locked, ends, nobody⟩
      · have unheld := nobody caller same
        rw [trying] at unheld
        cases unheld

/-- A change of a call that neither holds the lock nor takes it. -/
theorem Stands.proceed (stands : Stands policy medium link state) {call : CallState}
    (before : (state.calls caller).holdsLock = false) (after : call.holdsLock = false) :
    Stands policy medium link (state.proceed caller call) := by
  have kept (other : Nat) (unheld : (state.calls other).holdsLock = false) :
      ((state.proceed caller call).calls other).holdsLock = false := by
    by_cases same : other = caller
    · rw [same, proceed_calls_self, after]
    · rw [proceed_calls_other same, unheld]
  cases stands with
  | free unlocked same nobody => exact .free unlocked same fun other => kept other (nobody other)
  | @held holder _ _ _ _ _ locked trying ends nobody =>
      have apart : holder ≠ caller := by
        rintro rfl
        rw [trying] at before
        cases before
      exact .held locked ((proceed_calls_other apart call).trans trying) ends
        fun other different => kept other (nobody other different)

variable {start : σ} {after : ModbusCallers σ}

/-- The requests of the calls after one of them has come further. -/
theorem Sequential.requests_proceed
    (sequential : Sequential lib policy medium device careful start state) {call : CallState}
    (asked : ∀ command request, pending call = some (command, request) →
      nativeRequest lib device command = .ok request ∧ ∀ link, careful link (.call command))
    (other : Nat) (command : Command) (request : ModbusRequest)
    (waits : pending ((state.proceed caller call).calls other) = some (command, request)) :
    nativeRequest lib device command = .ok request ∧ ∀ link, careful link (.call command) := by
  by_cases same : other = caller
  · rw [same, proceed_calls_self] at waits
    exact asked command request waits
  · rw [proceed_calls_other same] at waits
    exact sequential.requests other command request waits

/-- A call that returns has been made on the bus. -/
theorem Sequential.finish (sequential : Sequential lib policy medium device careful start state)
    (trying : state.calls caller = .trying command request remaining attempt lastError)
    {ending : CommandEnding}
    (ends : remains policy medium request remaining attempt lastError state.link =
      (ending, link)) :
    Sequential lib policy medium device careful start
      (state.finish caller command ending link) := by
  obtain ⟨bus, run, log, stands⟩ := sequential.bus
  obtain ⟨-, executes, nobody⟩ := stands.of_trying trying
  obtain ⟨requested, minded⟩ := sequential.requests caller command request (by rw [trying]; rfl)
  constructor
  · refine ⟨_, run.perform (.call command) (minded bus.link) rfl, ?_, .free rfl ?_ fun other => ?_⟩
    · rw [ModbusBus.act, executeCommand, requested, log]
      simp only [executes, ends]
      rfl
    · rw [ModbusBus.act, executeCommand, requested]
      simp only [executes, ends]
      rfl
    · by_cases same : other = caller
      · rw [same]
        exact congrArg CallState.holdsLock (proceed_calls_self state caller .idle)
      · exact (congrArg CallState.holdsLock (proceed_calls_other same .idle)).trans
          (nobody other same)
  · refine sequential.requests_proceed ?_
    rintro _ _ ⟨⟩

/-- A call that goes on ends as it would have. -/
theorem Sequential.again (sequential : Sequential lib policy medium device careful start state)
    (trying : state.calls caller = .trying command request remaining attempt lastError)
    {left : Nat} {next : UInt32} {error : Option String}
    (ends : remains policy medium request remaining attempt lastError state.link =
      remains policy medium request left next error link) :
    Sequential lib policy medium device careful start
      { state.proceed caller (.trying command request left next error) with link } := by
  obtain ⟨bus, run, log, stands⟩ := sequential.bus
  obtain ⟨locked, executes, nobody⟩ := stands.of_trying trying
  have asked := sequential.requests caller command request (by rw [trying]; rfl)
  constructor
  · refine ⟨bus, run, log, .held locked (proceed_calls_self state caller _) (executes.trans ends)
      fun other apart => ?_⟩
    exact (congrArg CallState.holdsLock (proceed_calls_other apart _)).trans (nobody other apart)
  · refine sequential.requests_proceed ?_
    rintro _ _ ⟨⟩
    exact asked

/-- A call that takes the lock ends as it would on the bus. -/
theorem Sequential.lock (sequential : Sequential lib policy medium device careful start state)
    (waits : state.calls caller = .waiting command request) (unlocked : state.locked = false) :
    Sequential lib policy medium device careful start
      { state.proceed caller
          (.trying command request (maxAttempts policy request).toNat 0 none) with
        locked := true } := by
  obtain ⟨bus, run, log, stands⟩ := sequential.bus
  have same := stands.link_eq unlocked
  have asked := sequential.requests caller command request (by rw [waits]; rfl)
  constructor
  · refine ⟨bus, run, log, .held rfl (proceed_calls_self state caller _) ?_ fun other apart => ?_⟩
    · rw [execute_eq_remains, ← same]
      rfl
    · cases stands with
      | free _ _ nobody =>
          exact (congrArg CallState.holdsLock (proceed_calls_other apart _)).trans (nobody other)
      | held locked => cases unlocked.symm.trans locked
  · refine sequential.requests_proceed ?_
    rintro _ _ ⟨⟩
    exact asked

/-- An action that is no call finds the lock free. -/
theorem Sequential.act (sequential : Sequential lib policy medium device careful start state)
    (unlocked : state.locked = false) {action : BusAction} {event : BusEvent} {change : σ → σ}
    (minded : careful state.link action)
    (acts : ∀ bus : ModbusBus σ, bus.act lib policy medium device action =
      { link := change bus.link, log := bus.log ++ [event] }) :
    Sequential lib policy medium device careful start
      { state with link := change state.link, log := state.log ++ [event] } := by
  obtain ⟨bus, run, log, stands⟩ := sequential.bus
  have same := stands.link_eq unlocked
  refine ⟨⟨_, run.perform action (same ▸ minded) rfl, ?_, ?_⟩, sequential.requests⟩
  · rw [acts, log]
  · rw [acts]
    cases stands with
    | free _ _ nobody => exact .free unlocked (congrArg change same) nobody
    | held locked => cases unlocked.symm.trans locked

/-- Every step keeps the calls in the order of a bus. -/
theorem Sequential.step (sequential : Sequential lib policy medium device careful start state)
    {label : CallerStep} (minded : state.Minds careful label)
    (stepped : Steps lib policy medium device state label after) :
    Sequential lib policy medium device careful start after := by
  unfold Steps ModbusCallers.step at stepped
  cases label with
  | call caller command =>
      cases called : state.calls caller with
      | idle =>
          cases requested : nativeRequest lib device command with
          | error error =>
              simp only [called, requested, Option.some.injEq] at stepped
              subst stepped
              obtain ⟨bus, run, log, stands⟩ := sequential.bus
              refine ⟨⟨_, run.perform (.call command) (minded bus.link) rfl, ?_, ?_⟩,
                sequential.requests⟩
              · rw [ModbusBus.act, executeCommand, requested, log]
              · rw [ModbusBus.act, executeCommand, requested]
                cases stands with
                | free unlocked same nobody => exact .free unlocked same nobody
                | held locked trying ends nobody => exact .held locked trying ends nobody
          | ok request =>
              simp only [called, requested, Option.some.injEq] at stepped
              subst stepped
              obtain ⟨bus, run, log, stands⟩ := sequential.bus
              refine ⟨⟨bus, run, log, stands.proceed (by rw [called]; rfl) rfl⟩,
                sequential.requests_proceed ?_⟩
              rintro _ _ ⟨⟩
              exact ⟨requested, minded⟩
      | waiting => simp [called] at stepped
      | trying => simp [called] at stepped
  | lock caller =>
      cases called : state.calls caller with
      | waiting command request =>
          cases unlocked : state.locked with
          | true => simp [called, unlocked] at stepped
          | false =>
              simp only [called, unlocked, Bool.false_eq_true, if_false, Option.some.injEq]
                at stepped
              subst stepped
              exact sequential.lock called unlocked
      | idle => simp [called] at stepped
      | trying => simp [called] at stepped
  | attempt caller =>
      cases called : state.calls caller with
      | trying command request remaining attempt lastError =>
          cases remaining with
          | zero =>
              simp only [called, Option.some.injEq] at stepped
              subst stepped
              exact sequential.finish called rfl
          | succ remaining =>
              simp only [called, Option.some.injEq] at stepped
              subst stepped
              rcases tryOnce_cases policy medium state caller command request remaining attempt
                lastError with ⟨ending, link, ends, tried⟩ | ⟨next, error, link, ends, tried⟩
              · rw [tried]
                exact sequential.finish called ends
              · rw [tried]
                exact sequential.again called ends
      | idle => simp [called] at stepped
      | waiting => simp [called] at stepped
  | stop =>
      cases unlocked : state.locked with
      | true => simp [unlocked] at stepped
      | false =>
          simp only [unlocked, Bool.false_eq_true, if_false, Option.some.injEq] at stepped
          subst stepped
          have acted := sequential.act unlocked minded fun _ => rfl
          rwa [unlocked] at acted
  | change memory =>
      cases unlocked : state.locked with
      | true => simp [unlocked] at stepped
      | false =>
          simp only [unlocked, Bool.false_eq_true, if_false, Option.some.injEq] at stepped
          subst stepped
          have acted := sequential.act unlocked minded fun _ => rfl
          rwa [unlocked] at acted

/-! ## No call is stuck -/

/-- A call that holds the lock returns after the attempts that it has left. -/
theorem exists_returned
    (trying : state.calls caller = .trying command request remaining attempt lastError) :
    ∃ after, Run (Steps lib policy medium device) (fun _ => Advances) state after ∧
      after.calls caller = .idle ∧ after.locked = false ∧
      ∀ other, other ≠ caller → after.calls other = state.calls other := by
  have returns (state : ModbusCallers σ) (ending : CommandEnding) (link : σ) :
      (state.finish caller command ending link).calls caller = .idle ∧
        ∀ other, other ≠ caller →
          (state.finish caller command ending link).calls other = state.calls other :=
    ⟨proceed_calls_self state caller .idle, fun other apart => proceed_calls_other apart .idle⟩
  induction remaining generalizing state attempt lastError with
  | zero =>
      obtain ⟨idle, others⟩ := returns state
        (.returned (.error (lastError.getD "Modbus execute failed"))) state.link
      refine ⟨_, (Run.refl state).perform (.attempt caller) trivial ?_, idle, rfl, others⟩
      rw [Steps, ModbusCallers.step, trying]
  | succ remaining ih =>
      have tries : Steps lib policy medium device state (.attempt caller)
          (state.tryOnce policy medium caller command request remaining attempt) := by
        rw [Steps, ModbusCallers.step, trying]
      have first : Run (Steps lib policy medium device) (fun _ => Advances) state _ :=
        (Run.refl state).perform (.attempt caller) trivial tries
      rcases tryOnce_cases policy medium state caller command request remaining attempt lastError
        with ⟨ending, link, -, tried⟩ | ⟨next, error, link, -, tried⟩
      · rw [tried] at first
        obtain ⟨idle, others⟩ := returns state ending link
        exact ⟨_, first, idle, rfl, others⟩
      · rw [tried] at first
        have left : ({ state.proceed caller (.trying command request remaining next (some error))
            with link } : ModbusCallers σ).calls caller =
              .trying command request remaining next (some error) :=
          proceed_calls_self state caller _
        obtain ⟨after, later, idle, unlocked, others⟩ := ih left
        refine ⟨after, first.trans later, idle, unlocked, fun other apart => ?_⟩
        exact (others other apart).trans (proceed_calls_other apart _)

/-- Calls that have been made can return. -/
theorem Sequential.exists_returned
    (sequential : Sequential lib policy medium device careful start state) (caller : Nat) :
    ∃ after, Run (Steps lib policy medium device) (fun _ => Advances) state after ∧
      after.calls caller = .idle := by
  cases called : state.calls caller with
  | idle => exact ⟨state, .refl state, called⟩
  | trying command request remaining attempt lastError =>
      obtain ⟨after, run, idle, -⟩ := ModbusCallers.exists_returned called
      exact ⟨after, run, idle⟩
  | waiting command request =>
      -- First the lock is released, then it is taken.
      have free : ∃ middle, Run (Steps lib policy medium device) (fun _ => Advances) state middle ∧
          middle.locked = false ∧ middle.calls caller = .waiting command request := by
        obtain ⟨bus, -, -, stands⟩ := sequential.bus
        cases stands with
        | free unlocked same nobody => exact ⟨state, .refl state, unlocked, called⟩
        | @held holder _ _ _ _ _ locked trying ends nobody =>
            obtain ⟨middle, run, -, unlocked, others⟩ := ModbusCallers.exists_returned trying
            refine ⟨middle, run, unlocked, ?_⟩
            rw [others caller, called]
            rintro rfl
            cases called.symm.trans trying
      obtain ⟨middle, before, unlocked, waits⟩ := free
      have locks : Steps lib policy medium device middle (.lock caller)
          { middle.proceed caller
              (.trying command request (maxAttempts policy request).toNat 0 none) with
            locked := true } := by
        simp only [Steps, ModbusCallers.step, waits, unlocked, Bool.false_eq_true, if_false]
      have trying : ({ middle.proceed caller
          (.trying command request (maxAttempts policy request).toNat 0 none) with
            locked := true } : ModbusCallers σ).calls caller =
              .trying command request (maxAttempts policy request).toNat 0 none :=
        proceed_calls_self middle caller _
      obtain ⟨after, later, idle, -⟩ := ModbusCallers.exists_returned trying
      exact ⟨after, (before.perform (.lock caller) trivial locks).trans later, idle⟩

/-- In whatever order the steps of callers come, what has happened is what happens on a bus on which
the calls are made one after the other, in the order in which they returned; and no call is ever
stuck. -/
theorem callers_take_turns
    (run : Run (Steps lib policy medium device) (Minds careful) (.begin start) state) :
    (∃ bus, Run (ModbusBus.Acts lib policy medium device) (fun bus => careful bus.link)
        (.begin start) bus ∧ bus.log = state.log ∧
        (state.locked = false → bus.link = state.link)) ∧
      ∀ caller, ∃ after, Run (Steps lib policy medium device) (fun _ => Advances) state after ∧
        after.calls caller = .idle := by
  have sequential : Sequential lib policy medium device careful start state :=
    run.invariant _ (begin_sequential lib policy medium device careful start)
      fun sequential minded stepped => sequential.step minded stepped
  refine ⟨?_, sequential.exists_returned⟩
  obtain ⟨bus, run, log, stands⟩ := sequential.bus
  exact ⟨bus, run, log, fun unlocked => (stands.link_eq unlocked).symm⟩

end

/-- The callers of the gauge's driver take steps. -/
def GaugeSteps : ModbusCallers ModbusLink → CallerStep → ModbusCallers ModbusLink → Prop :=
  Steps patternLibrary gaugePolicy (linkMedium gaugeUnit) gaugeDevice

/-- A read waits for a write, and is then attempted twice. -/
theorem gaugeCallers_run :
    ∃ state, Run GaugeSteps (Minds fun _ _ => True) (.begin gaugeLink) state ∧
      state.log.length = 2 ∧ state.locked = false := by
  have run : Run GaugeSteps (Minds fun _ _ => True) (.begin gaugeLink) (.begin gaugeLink) := .refl _
  have run := run.perform (.call 0 writeGauge) (fun _ => trivial) rfl
  have run := run.perform (.call 1 readGauge) (fun _ => trivial) rfl
  have run := (run.perform (.lock 0) trivial rfl).perform (.attempt 0) trivial rfl
  have run := (run.perform (.lock 1) trivial rfl).perform (.attempt 1) trivial rfl
  exact ⟨_, run.perform (.attempt 1) trivial rfl, rfl, rfl⟩

theorem gaugeCallers_take_turns :
    ∃ state, state.log.length = 2 ∧ state.locked = false ∧
      (∃ bus, Run (ModbusBus.Acts patternLibrary gaugePolicy (linkMedium gaugeUnit) gaugeDevice)
          (fun _ _ => True) (.begin gaugeLink) bus ∧ bus.log = state.log ∧
          (state.locked = false → bus.link = state.link)) ∧
        ∀ caller, ∃ after, Run GaugeSteps (fun _ => Advances) state after ∧
          after.calls caller = .idle := by
  obtain ⟨state, run, count, unlocked⟩ := gaugeCallers_run
  exact ⟨state, count, unlocked, callers_take_turns run⟩

end ModbusCallers
end Ferredge
