import Mathlib.Data.List.Nodup
import Ferredge.AtMostOne
import Ferredge.Zenoh.Locks

/-!
# Delivery of Zenoh samples

Each subscriber of a session keeps the samples that come in for it in a channel of its own, and the
listeners take them out while they hold the session.  Whatever the calls do and however many
listeners there are, the samples of a subscriber reach the sinks in the order in which they came,
each of them once, and a pass of a listener leaves none behind that was there when it began.
-/

namespace Ferredge
namespace Zenoh

open Transition

/-! ## Subscribers -/

/-- A subscriber that a session has declared.  Its channel is taken to be first in, first out, and
to lose nothing, as the library's default handler documents it. -/
structure ZenohSubscriber where
  keyExpr : String
  /-- The session still has it. -/
  declared : Bool
  /-- The samples that came in for it, oldest first, and those that wait in its channel. -/
  arrived : List ZenohEvent
  waiting : List ZenohEvent
  deriving DecidableEq

def ZenohSubscriber.fresh (keyExpr : String) : ZenohSubscriber :=
  { keyExpr, declared := true, arrived := [], waiting := [] }

def ZenohSubscriber.undeclare (subscriber : ZenohSubscriber) : ZenohSubscriber :=
  { subscriber with declared := false }

@[simp]
theorem declared_undeclare (subscriber : ZenohSubscriber) :
    subscriber.undeclare.declared = false := rfl

@[simp]
theorem keyExpr_undeclare (subscriber : ZenohSubscriber) :
    subscriber.undeclare.keyExpr = subscriber.keyExpr := rfl

/-- What a call does with the subscribers of the session it holds. -/
def SessionCall.resubscribe (outcome : Except String (List ZenohReply))
    (session : Option ZenohSessionState) (subscribers : List ZenohSubscriber) :
    SessionCall → List ZenohSubscriber
  | closeSession => subscribers.map ZenohSubscriber.undeclare
  | subscribe subscription =>
      match session, outcome with
      | some state, .ok _ =>
          if subscription.keyExpr ∈ state.subscriptions then subscribers
          else subscribers ++ [.fresh subscription.keyExpr]
      | _, _ => subscribers
  | unsubscribe subscription =>
      subscribers.map fun subscriber =>
        if subscriber.keyExpr = subscription.keyExpr then subscriber.undeclare else subscriber
  | _ => subscribers

/-- A sample that a listener took from a subscriber, and whether the sink accepted its event. -/
structure Handover where
  task : Nat
  subscriber : Nat
  event : ZenohEvent
  accepted : Bool
  deriving DecidableEq

/-- A driver, and what its listeners do with the samples.  Subscribers are known by the order in
which they were declared. -/
structure DeliverySystem where
  driver : ZenohSystem
  subscribers : List ZenohSubscriber
  handovers : List Handover
  /-- The subscribers that the pass of a listener has yet to visit; it is at the first of them. -/
  remaining : Nat → List Nat
  /-- How many samples had come in for each subscriber when the pass of a listener began. -/
  due : Nat → List Nat

namespace DeliverySystem

def new : DeliverySystem :=
  { driver := .new
    subscribers := []
    handovers := []
    remaining := fun _ => []
    due := fun _ => [] }

/-- What the sinks were handed from a subscriber, oldest first. -/
def handed (system : DeliverySystem) (number : Nat) : List ZenohEvent :=
  (system.handovers.filter fun handover => handover.subscriber = number).map Handover.event

/-- The session has the subscriber. -/
def Declared (system : DeliverySystem) (number : Nat) : Prop :=
  ∃ subscriber, system.subscribers[number]? = some subscriber ∧ subscriber.declared = true

end DeliverySystem

/-! ## Steps -/

inductive DeliveryLabel where
  | driver (label : SystemLabel)
  /-- A sample comes in for a subscriber. -/
  | arrives (number : Nat) (event : ZenohEvent)
  /-- A listener finds the channel of a subscriber empty, or closed. -/
  | next (index : Nat)

/-- The step does nothing with the samples: no task answers a call that holds the session, begins a
pass or goes on with it. -/
def Quiet (driver : ZenohSystem) : SystemLabel → Prop
  | .call _ => True
  | .task index label =>
      label = .internal ∧ ∀ channel, driver.tasks[index]? ≠ some (.listener channel .lockSession)

inductive DeliveryStep : DeliverySystem → DeliveryLabel → DeliverySystem → Prop
  | quiet {system : DeliverySystem} {label driver} (step : SystemStep system.driver label driver)
      (quiet : Quiet system.driver label) :
      DeliveryStep system (.driver label) { system with driver }
  | answered {system : DeliverySystem} {index call outcome driver}
      (located : system.driver.tasks[index]? = some (.useSession call))
      (step : SystemStep system.driver (.task index (.answer outcome)) driver) :
      DeliveryStep system (.driver (.task index (.answer outcome)))
        { system with
          driver
          subscribers :=
            call.resubscribe outcome system.driver.shared.session system.subscribers }
  /-- A pass visits the subscribers of the session in some order. -/
  | begins {system : DeliverySystem} {index channel driver} {order : List Nat}
      (located : system.driver.tasks[index]? = some (.listener channel .lockSession))
      (step : SystemStep system.driver (.task index .internal) driver)
      (unrepeated : order.Nodup) (every : ∀ number, number ∈ order ↔ system.Declared number) :
      DeliveryStep system (.driver (.task index .internal))
        { system with
          driver
          remaining := Function.update system.remaining index order
          due := Function.update system.due index
            (system.subscribers.map fun subscriber => subscriber.arrived.length) }
  | arrives {system : DeliverySystem} {number : Nat} {subscriber event}
      (located : system.subscribers[number]? = some subscriber)
      (declared : subscriber.declared = true) :
      DeliveryStep system (.arrives number event)
        { system with
          subscribers := system.subscribers.set number
            { subscriber with
              arrived := subscriber.arrived ++ [event]
              waiting := subscriber.waiting ++ [event] } }
  | takes {system : DeliverySystem} {index number : Nat} {rest : List Nat} {subscriber event later}
      {accepted : Bool} {driver} (visiting : system.remaining index = number :: rest)
      (located : system.subscribers[number]? = some subscriber)
      (first : subscriber.waiting = event :: later)
      (step : SystemStep system.driver (.task index (.sample event accepted)) driver) :
      DeliveryStep system (.driver (.task index (.sample event accepted)))
        { system with
          driver
          subscribers := system.subscribers.set number { subscriber with waiting := later }
          handovers := system.handovers ++ [⟨index, number, event, accepted⟩] }
  | next {system : DeliverySystem} {index channel number : Nat} {rest : List Nat} {subscriber}
      (draining : system.driver.tasks[index]? = some (.listener channel .drain))
      (visiting : system.remaining index = number :: rest)
      (located : system.subscribers[number]? = some subscriber)
      (empty : subscriber.waiting = []) :
      DeliveryStep system (.next index)
        { system with remaining := Function.update system.remaining index rest }
  | drained {system : DeliverySystem} {index driver} (visited : system.remaining index = [])
      (step : SystemStep system.driver (.task index .drained) driver) :
      DeliveryStep system (.driver (.task index .drained)) { system with driver }

/-! ## What the driver does -/

variable {before after driver : ZenohSystem} {shared later : ZenohShared}
  {point next : TaskPoint} {index place channel : Nat} {label : StepLabel}

/-- Only the answer to a call touches the session. -/
theorem TaskStep.session (step : TaskStep shared point label later next)
    (unanswered : ∀ outcome, label ≠ .answer outcome) : later.session = shared.session := by
  cases step with
  | sessionAnswered => exact absurd rfl (unanswered _)
  | _ => rfl

/-- A pass begins when the session is locked, and goes on where the sink accepts an event. -/
theorem TaskStep.drain (step : TaskStep shared point label later (.listener channel .drain)) :
    point = .listener channel .lockSession ∧ label = .internal ∨
      point = .listener channel .drain := by
  generalize reached : TaskPoint.listener channel .drain = next at step
  cases step with
  | @stopClears closes => cases closes <;> cases reached
  | listenerLocks =>
      cases reached
      exact .inl ⟨rfl, rfl⟩
  | listenerForwards =>
      cases reached
      exact .inr rfl
  | _ => cases reached

theorem session_of_step {label : SystemLabel} (step : SystemStep before label after)
    (unanswered : ∀ index outcome, label ≠ .task index (.answer outcome)) :
    after.shared.session = before.shared.session := by
  cases step with
  | call | spawn => rfl
  | task located free step =>
      exact step.session fun outcome same => unanswered _ outcome (by rw [same])

theorem session_answered {call : SessionCall} {outcome : Except String (List ZenohReply)}
    (located : before.tasks[index]? = some (.useSession call))
    (step : SystemStep before (.task index (.answer outcome)) after) :
    after.shared =
      { before.shared with session := (call.run outcome before.shared.session).2 } := by
  cases step with
  | task located' free step =>
      cases located.symm.trans located'
      cases step
      rfl

/-- A listener in a pass was in it before, or has just begun it. -/
theorem drain_of_step {label : SystemLabel} (step : SystemStep before label after)
    (drains : after.tasks[place]? = some (.listener channel .drain)) :
    before.tasks[place]? = some (.listener channel .drain) ∨
      label = .task place .internal ∧
        before.tasks[place]? = some (.listener channel .lockSession) := by
  cases step with
  | call call =>
      rcases AtMostOne.located_append drains with ⟨-, same⟩ | located
      · cases call <;> cases same
      · exact .inl located
  | task located free step =>
      rcases AtMostOne.located_set drains with ⟨rfl, rfl⟩ | ⟨-, located⟩
      · rcases step.drain with ⟨rfl, rfl⟩ | rfl
        · exact .inr ⟨rfl, located⟩
        · exact .inl located
      · exact .inl located
  | spawn located =>
      rcases AtMostOne.located_append drains with ⟨-, same⟩ | located
      · cases same
      · rcases AtMostOne.located_set located with ⟨-, same⟩ | ⟨-, located⟩
        · cases same
        · exact .inl located

/-- While a listener is in a pass, no call holds the session. -/
theorem drain_excludes_use {call : SessionCall} (single : driver.holders .session ≤ 1)
    (drains : driver.tasks[place]? = some (.listener channel .drain))
    (uses : driver.tasks[index]? = some (.useSession call)) : False := by
  have apart : place ≠ index := by
    rintro rfl
    cases drains.symm.trans uses
  have both := Ledger.add_le_total (fun point : TaskPoint => point.held.count .session)
    apart drains uses
  change 1 + 1 ≤ driver.holders .session at both
  omega

/-! ## What the session has -/

/-- The key expressions of the subscribers that the session has. -/
def declaredKeys (subscribers : List ZenohSubscriber) : List String :=
  (subscribers.filter ZenohSubscriber.declared).map ZenohSubscriber.keyExpr

/-- The key expressions that the driver keeps. -/
def ZenohShared.subscriptions (shared : ZenohShared) : List String :=
  (shared.session.map ZenohSessionState.subscriptions).getD []

variable {subscribers : List ZenohSubscriber} {subscriber other : ZenohSubscriber} {number : Nat}

theorem declaredKeys_set (located : subscribers[number]? = some subscriber)
    (key : other.keyExpr = subscriber.keyExpr) (declared : other.declared = subscriber.declared) :
    declaredKeys (subscribers.set number other) = declaredKeys subscribers := by
  induction subscribers generalizing number with
  | nil => rfl
  | cons first subscribers ih =>
      cases number with
      | zero =>
          obtain rfl : first = subscriber := by simpa using located
          simp [declaredKeys, List.filter_cons, declared, apply_ite, key]
      | succ number =>
          have rest := @ih number (by simpa using located)
          simp only [declaredKeys] at rest ⊢
          simp [List.filter_cons, apply_ite, rest]

theorem declaredKeys_undeclare (subscribers : List ZenohSubscriber) :
    declaredKeys (subscribers.map ZenohSubscriber.undeclare) = [] := by
  simp [declaredKeys]

theorem declaredKeys_append_fresh (keyExpr : String) (subscribers : List ZenohSubscriber) :
    declaredKeys (subscribers ++ [.fresh keyExpr]) = declaredKeys subscribers ++ [keyExpr] := by
  simp [declaredKeys, ZenohSubscriber.fresh]

/-- The subscribers that are left are those with other key expressions. -/
theorem declaredKeys_remove (keyExpr : String) (subscribers : List ZenohSubscriber) :
    declaredKeys (subscribers.map fun subscriber =>
        if subscriber.keyExpr = keyExpr then subscriber.undeclare else subscriber) =
      (declaredKeys subscribers).filter fun key => key != keyExpr := by
  induction subscribers with
  | nil => rfl
  | cons first subscribers ih =>
      simp only [declaredKeys] at ih ⊢
      by_cases same : first.keyExpr = keyExpr <;> cases declared : first.declared <;>
        simp [same, declared, ih]

/-- A call does the same with the subscribers as with the key expressions that the driver keeps. -/
theorem declaredKeys_resubscribe (call : SessionCall) (outcome : Except String (List ZenohReply))
    (kept : declaredKeys subscribers = shared.subscriptions)
    (unrepeated : (declaredKeys subscribers).Nodup) :
    declaredKeys (call.resubscribe outcome shared.session subscribers) =
      ({ shared with session := (call.run outcome shared.session).2 } : ZenohShared).subscriptions
    := by
  cases session : shared.session with
  | none =>
      have nothing : declaredKeys subscribers = [] := by
        rw [kept, ZenohShared.subscriptions, session]
        rfl
      cases call with
      | startSession => cases outcome <;> exact nothing
      | closeSession => exact declaredKeys_undeclare subscribers
      | unsubscribe subscription =>
          refine (declaredKeys_remove subscription.keyExpr subscribers).trans ?_
          rw [nothing]
          rfl
      | publish | subscribe | execute => exact nothing
  | some state =>
      have same : declaredKeys subscribers = state.subscriptions := by
        rw [kept, ZenohShared.subscriptions, session]
        rfl
      cases call with
      | startSession => exact same
      | closeSession => exact declaredKeys_undeclare subscribers
      | publish => cases outcome <;> exact same
      | subscribe subscription =>
          by_cases present : subscription.keyExpr ∈ state.subscriptions
          · have kept : ((SessionCall.subscribe subscription).run outcome (some state)).2 =
                some state := by
              simp only [SessionCall.run, SessionCall.perform, if_pos present]
              rfl
            cases outcome <;>
              simpa [SessionCall.resubscribe, present, kept, ZenohShared.subscriptions] using same
          · cases outcome with
            | error text =>
                simp only [SessionCall.resubscribe, SessionCall.run, SessionCall.perform,
                  if_neg present]
                exact same
            | ok replies =>
                simp only [SessionCall.resubscribe, SessionCall.run, SessionCall.perform,
                  if_neg present]
                rw [declaredKeys_append_fresh, same]
                rfl
      | unsubscribe subscription =>
          refine (declaredKeys_remove subscription.keyExpr subscribers).trans ?_
          rw [← unrepeated.erase_eq_filter, same]
          by_cases present : subscription.keyExpr ∈ state.subscriptions
          · simp [SessionCall.run, SessionCall.perform, removeKeyExpr, present,
              ZenohShared.subscriptions]
          · simp [SessionCall.run, SessionCall.perform, removeKeyExpr, present,
              ZenohShared.subscriptions, List.erase_of_not_mem]
      | execute request =>
          cases request with
          | publish | query => cases outcome <;> exact same
          | declareQueryable => exact same
          | undeclareQueryable request =>
              by_cases present : request.keyExpr ∈ state.queryables <;>
                simpa [SessionCall.resubscribe, SessionCall.run, SessionCall.perform,
                  removeKeyExpr, present, ZenohShared.subscriptions] using same

theorem nodup_resubscribe (call : SessionCall) (outcome : Except String (List ZenohReply))
    (kept : declaredKeys subscribers = shared.subscriptions)
    (unrepeated : (declaredKeys subscribers).Nodup) :
    (declaredKeys (call.resubscribe outcome shared.session subscribers)).Nodup := by
  cases call with
  | startSession | publish | execute => exact unrepeated
  | closeSession =>
      rw [SessionCall.resubscribe, declaredKeys_undeclare]
      exact .nil
  | subscribe subscription =>
      simp only [SessionCall.resubscribe]
      split
      · rename_i state replies session
        split
        · exact unrepeated
        · rename_i absent
          rw [ZenohShared.subscriptions, session] at kept
          rw [declaredKeys_append_fresh, List.nodup_append_comm]
          exact List.nodup_cons.mpr ⟨kept ▸ absent, unrepeated⟩
      · exact unrepeated
  | unsubscribe subscription =>
      rw [SessionCall.resubscribe, declaredKeys_remove]
      exact unrepeated.filter _

/-- A call keeps what its session has seen: every subscriber is the one it was, with what came in
for it, or is a new one. -/
theorem resubscribe_getElem? (call : SessionCall) (outcome : Except String (List ZenohReply))
    (session : Option ZenohSessionState)
    (located : (call.resubscribe outcome session subscribers)[number]? = some subscriber) :
    (number = subscribers.length ∧ subscriber.arrived = [] ∧ subscriber.waiting = []) ∨
      ∃ earlier, subscribers[number]? = some earlier ∧ subscriber.arrived = earlier.arrived ∧
        subscriber.waiting = earlier.waiting := by
  cases call with
  | startSession | publish | execute => exact .inr ⟨subscriber, located, rfl, rfl⟩
  | closeSession =>
      rw [SessionCall.resubscribe, List.getElem?_map] at located
      obtain ⟨earlier, found, rfl⟩ := Option.map_eq_some_iff.mp located
      exact .inr ⟨earlier, found, rfl, rfl⟩
  | subscribe subscription =>
      simp only [SessionCall.resubscribe] at located
      split at located
      · split at located
        · exact .inr ⟨subscriber, located, rfl, rfl⟩
        · rcases AtMostOne.located_append located with ⟨last, rfl⟩ | found
          · exact .inl ⟨last, rfl, rfl⟩
          · exact .inr ⟨subscriber, found, rfl, rfl⟩
      · exact .inr ⟨subscriber, located, rfl, rfl⟩
  | unsubscribe subscription =>
      rw [SessionCall.resubscribe, List.getElem?_map] at located
      obtain ⟨earlier, found, rfl⟩ := Option.map_eq_some_iff.mp located
      refine .inr ⟨earlier, found, ?_⟩
      split <;> exact ⟨rfl, rfl⟩

theorem length_resubscribe (call : SessionCall) (outcome : Except String (List ZenohReply))
    (session : Option ZenohSessionState) (subscribers : List ZenohSubscriber) :
    subscribers.length ≤ (call.resubscribe outcome session subscribers).length := by
  cases call with
  | startSession | publish | execute => exact Nat.le_refl _
  | closeSession | unsubscribe => simp [SessionCall.resubscribe]
  | subscribe subscription =>
      simp only [SessionCall.resubscribe]
      split
      · split
        · exact Nat.le_refl _
        · simp
      · exact Nat.le_refl _

/-! ## Passes -/

namespace DeliverySystem

variable {system : DeliverySystem}

/-- The pass of a listener has yet to visit only subscribers that the session has, and has taken
from the others all that was there when it began. -/
structure Passing (system : DeliverySystem) (index : Nat) : Prop where
  visits : ∀ number ∈ system.remaining index, system.Declared number
  due : ∀ (number : Nat) count, (system.due index)[number]? = some count →
    ∃ subscriber, system.subscribers[number]? = some subscriber ∧
      count ≤ subscriber.arrived.length ∧ (subscriber.declared = true →
        number ∈ system.remaining index ∨ count ≤ (system.handed number).length)

/-- What is known of the samples at any time. -/
structure Sound (system : DeliverySystem) : Prop where
  single : system.driver.holders .session ≤ 1
  table : declaredKeys system.subscribers = system.driver.shared.subscriptions
  unrepeated : (declaredKeys system.subscribers).Nodup
  known : ∀ handover ∈ system.handovers, handover.subscriber < system.subscribers.length
  fifo : ∀ (number : Nat) subscriber, system.subscribers[number]? = some subscriber →
    subscriber.arrived = system.handed number ++ subscriber.waiting
  passing : ∀ (index channel : Nat),
    system.driver.tasks[index]? = some (.listener channel .drain) → system.Passing index

theorem sound_new : Sound new where
  single := Nat.zero_le 1
  table := rfl
  unrepeated := .nil
  known := nofun
  fifo := fun number subscriber located => by simp [new] at located
  passing := fun index channel located => by simp [new, ZenohSystem.new] at located

theorem handed_unknown (sound : system.Sound) :
    system.handed system.subscribers.length = [] := by
  rw [handed, List.map_eq_nil_iff, List.filter_eq_nil_iff]
  intro handover member same
  exact absurd (of_decide_eq_true same) (Nat.ne_of_lt (sound.known handover member))

theorem handed_append (system : DeliverySystem) (handover : Handover) (number : Nat) :
    ({ system with handovers := system.handovers ++ [handover] } : DeliverySystem).handed number =
      system.handed number ++ if handover.subscriber = number then [handover.event] else [] := by
  by_cases same : handover.subscriber = number <;> simp [handed, same]

/-! ## One step -/

/-- A step that leaves the samples alone and begins no pass. -/
theorem Sound.keep {label : SystemLabel} (sound : system.Sound)
    (step : SystemStep system.driver label driver)
    (unanswered : ∀ index outcome, label ≠ .task index (.answer outcome))
    (begun : ∀ index channel, label = .task index .internal →
      system.driver.tasks[index]? ≠ some (.listener channel .lockSession)) :
    ({ system with driver } : DeliverySystem).Sound where
  single := holders_step sound.single step
  table := by
    rw [ZenohShared.subscriptions, session_of_step step unanswered]
    exact sound.table
  unrepeated := sound.unrepeated
  known := sound.known
  fifo := sound.fifo
  passing := fun index channel drains => by
    rcases drain_of_step step drains with drains | ⟨same, locks⟩
    · exact ⟨(sound.passing index channel drains).visits, (sound.passing index channel drains).due⟩
    · exact absurd locks (begun index channel same)

theorem Sound.answer {call : SessionCall} {outcome : Except String (List ZenohReply)}
    (sound : system.Sound) (located : system.driver.tasks[index]? = some (.useSession call))
    (step : SystemStep system.driver (.task index (.answer outcome)) driver) :
    ({ system with
      driver
      subscribers := call.resubscribe outcome system.driver.shared.session system.subscribers } :
        DeliverySystem).Sound where
  single := holders_step sound.single step
  table := by
    rw [declaredKeys_resubscribe call outcome sound.table sound.unrepeated,
      session_answered located step]
  unrepeated := nodup_resubscribe call outcome sound.table sound.unrepeated
  known := fun handover member =>
    (sound.known handover member).trans_le (length_resubscribe call outcome _ _)
  fifo := fun number subscriber found => by
    rcases resubscribe_getElem? call outcome _ found with ⟨rfl, arrived, waiting⟩ |
      ⟨earlier, found, arrived, waiting⟩
    · rw [arrived, waiting, List.append_nil]
      exact (handed_unknown sound).symm
    · rw [arrived, waiting]
      exact sound.fifo number earlier found
  passing := fun place channel drains => by
    rcases drain_of_step step drains with drains | ⟨same, -⟩
    · exact absurd located fun located => drain_excludes_use sound.single drains located
    · cases same

theorem Sound.begin {order : List Nat} (sound : system.Sound)
    (locks : system.driver.tasks[index]? = some (.listener channel .lockSession))
    (step : SystemStep system.driver (.task index .internal) driver)
    (every : ∀ number, number ∈ order ↔ system.Declared number) :
    ({ system with
      driver
      remaining := Function.update system.remaining index order
      due := Function.update system.due index
        (system.subscribers.map fun subscriber => subscriber.arrived.length) } :
          DeliverySystem).Sound where
  single := holders_step sound.single step
  table := by
    rw [ZenohShared.subscriptions, session_of_step step nofun]
    exact sound.table
  unrepeated := sound.unrepeated
  known := sound.known
  fifo := sound.fifo
  passing := fun place channel' drains => by
    by_cases same : place = index
    · subst same
      refine ⟨?_, ?_⟩
      · intro number member
        dsimp only at member
        rw [Function.update_self] at member
        exact (every number).mp member
      · intro number count begun
        dsimp only at begun ⊢
        rw [Function.update_self, List.getElem?_map] at begun
        obtain ⟨subscriber, found, rfl⟩ := Option.map_eq_some_iff.mp begun
        refine ⟨subscriber, found, Nat.le_refl _, fun declared => .inl ?_⟩
        rw [Function.update_self]
        exact (every number).mpr ⟨subscriber, found, declared⟩
    · rcases drain_of_step step drains with drains | ⟨equal, -⟩
      · have passing := sound.passing place channel' drains
        refine ⟨?_, ?_⟩
        · intro number member
          dsimp only at member
          rw [Function.update_of_ne same] at member
          exact passing.visits number member
        · intro number count begun
          dsimp only at begun ⊢
          rw [Function.update_of_ne same] at begun
          rw [Function.update_of_ne same]
          exact passing.due number count begun
      · cases equal
        exact absurd rfl same

/-- The session keeps a subscriber whose channel changes. -/
theorem declared_set (located : system.subscribers[number]? = some subscriber)
    (declared : other.declared = subscriber.declared) {place : Nat}
    (known : system.Declared place) :
    ({ system with subscribers := system.subscribers.set number other } :
      DeliverySystem).Declared place := by
  obtain ⟨found, located', has⟩ := known
  by_cases same : number = place
  · subst same
    cases located.symm.trans located'
    exact ⟨other, by rw [List.getElem?_set_self (List.getElem?_eq_some_iff.mp located).1],
      declared.trans has⟩
  · exact ⟨found, by rw [List.getElem?_set_ne same, located'], has⟩

theorem Sound.arrive {event : ZenohEvent} (sound : system.Sound)
    (located : system.subscribers[number]? = some subscriber) :
    ({ system with
      subscribers := system.subscribers.set number
        { subscriber with
          arrived := subscriber.arrived ++ [event]
          waiting := subscriber.waiting ++ [event] } } : DeliverySystem).Sound where
  single := sound.single
  table := Eq.trans (declaredKeys_set located (by rfl) (by rfl)) sound.table
  unrepeated := by
    dsimp only
    rw [declaredKeys_set located (by rfl) (by rfl)]
    exact sound.unrepeated
  known := fun handover member => by
    rw [List.length_set]
    exact sound.known handover member
  fifo := fun place found located' => by
    rcases AtMostOne.located_set located' with ⟨rfl, rfl⟩ | ⟨-, located'⟩
    · change subscriber.arrived ++ [event] =
        system.handed place ++ (subscriber.waiting ++ [event])
      rw [sound.fifo place subscriber located, List.append_assoc]
    · exact sound.fifo place found located'
  passing := fun index channel drains => by
    have passing := sound.passing index channel drains
    refine ⟨fun place member => ?_, fun place count begun => ?_⟩
    · exact declared_set located (by rfl) (passing.visits place member)
    · obtain ⟨found, located', bound, due⟩ := passing.due place count begun
      by_cases same : number = place
      · subst same
        cases located.symm.trans located'
        refine ⟨_, List.getElem?_set_self (List.getElem?_eq_some_iff.mp located).1, ?_, due⟩
        rw [List.length_append]
        exact Nat.le_add_right_of_le bound
      · exact ⟨found, by rw [List.getElem?_set_ne same, located'], bound, due⟩

theorem Sound.take {event : ZenohEvent} {later : List ZenohEvent} {accepted : Bool}
    (sound : system.Sound) (located : system.subscribers[number]? = some subscriber)
    (first : subscriber.waiting = event :: later)
    (step : SystemStep system.driver (.task index (.sample event accepted)) driver) :
    ({ system with
      driver
      subscribers := system.subscribers.set number { subscriber with waiting := later }
      handovers := system.handovers ++ [⟨index, number, event, accepted⟩] } :
        DeliverySystem).Sound := by
  have kept := sound.keep step nofun nofun
  refine ⟨kept.single, ?_, ?_, ?_, ?_, ?_⟩
  · exact Eq.trans (declaredKeys_set located (by rfl) (by rfl)) kept.table
  · dsimp only
    rw [declaredKeys_set located (by rfl) (by rfl)]
    exact kept.unrepeated
  · intro handover member
    rw [List.length_set]
    rcases List.mem_append.mp member with member | member
    · exact sound.known handover member
    · cases List.mem_singleton.mp member
      exact (List.getElem?_eq_some_iff.mp located).1
  · intro place found located'
    refine Eq.trans ?_ (congrArg (· ++ found.waiting) (handed_append system _ place).symm)
    rcases AtMostOne.located_set located' with ⟨rfl, rfl⟩ | ⟨elsewhere, located'⟩
    · simpa [first] using sound.fifo place subscriber located
    · simpa [Ne.symm elsewhere] using sound.fifo place found located'
  · intro place channel drains
    have passing := kept.passing place channel drains
    refine ⟨fun other member => ?_, fun other count begun => ?_⟩
    · exact declared_set located (by rfl) (passing.visits other member)
    · obtain ⟨found, located', bound, due⟩ := passing.due other count begun
      have more : (system.handed other).length ≤ (({ system with
          handovers := system.handovers ++ [⟨index, number, event, accepted⟩] } :
            DeliverySystem).handed other).length := by
        rw [handed_append, List.length_append]
        exact Nat.le_add_right _ _
      have due' := fun declared => (due declared).imp_right fun taken => taken.trans more
      by_cases same : number = other
      · subst same
        cases located.symm.trans located'
        exact ⟨_, List.getElem?_set_self (List.getElem?_eq_some_iff.mp located).1, bound, due'⟩
      · exact ⟨found, by rw [List.getElem?_set_ne same, located'], bound, due'⟩

/-- The pass goes on where nothing waits. -/
theorem Sound.advance {rest : List Nat} (sound : system.Sound)
    (visiting : system.remaining index = number :: rest)
    (located : system.subscribers[number]? = some subscriber) (empty : subscriber.waiting = []) :
    ({ system with remaining := Function.update system.remaining index rest } :
      DeliverySystem).Sound := by
  refine ⟨sound.single, sound.table, sound.unrepeated, sound.known, sound.fifo, ?_⟩
  intro place channel drains
  have passing := sound.passing place channel drains
  by_cases same : place = index
  · subst same
    refine ⟨fun other member => ?_, fun other count begun => ?_⟩
    · dsimp only at member
      rw [Function.update_self] at member
      exact passing.visits other (by rw [visiting]; exact List.mem_cons_of_mem number member)
    · obtain ⟨found, located', bound, due⟩ := passing.due other count begun
      refine ⟨found, located', bound, fun declared => ?_⟩
      dsimp only
      rw [Function.update_self]
      rcases due declared with member | taken
      · rw [visiting] at member
        rcases List.mem_cons.mp member with rfl | member
        · -- everything that came in for it was taken
          cases located.symm.trans located'
          have all := sound.fifo other subscriber located
          rw [empty, List.append_nil] at all
          exact .inr (all ▸ bound)
        · exact .inl member
      · exact .inr taken
  · refine ⟨fun other member => ?_, fun other count begun => ?_⟩
    · dsimp only at member
      rw [Function.update_of_ne same] at member
      exact passing.visits other member
    · dsimp only
      rw [Function.update_of_ne same]
      exact passing.due other count begun

theorem Sound.step {label : DeliveryLabel} {after : DeliverySystem} (sound : system.Sound)
    (step : DeliveryStep system label after) : after.Sound := by
  cases step with
  | @quiet label driver step quiet =>
      refine sound.keep step ?_ ?_
      · rintro index outcome rfl
        cases quiet.1
      · rintro index channel rfl
        exact quiet.2 channel
  | answered located step => exact sound.answer located step
  | begins locks step unrepeated every => exact sound.begin locks step every
  | arrives located declared => exact sound.arrive located
  | takes visiting located first step => exact sound.take located first step
  | next draining visiting located empty => exact sound.advance visiting located empty
  | drained visited step => exact sound.keep step nofun nofun

theorem sound_of_run (run : Run DeliveryStep (fun _ _ => True) new system) : system.Sound :=
  run.invariant Sound sound_new fun sound _ step => sound.step step

/-! ## Runs -/

/-- The driver of a delivery system goes its own way: its steps are those of the driver alone. -/
theorem driver_run (run : Run DeliveryStep (fun _ _ => True) new system) :
    Run SystemStep (fun _ _ => True) .new system.driver := by
  induction run with
  | refl => exact .refl _
  | tail earlier met last ih =>
      cases last with
      | arrives | next => exact ih
      | quiet step | answered _ step | begins _ step | takes _ _ _ step | drained _ step =>
          exact ih.tail trivial step

/-- The step is the listener's next one in its pass. -/
inductive PassStep (system : DeliverySystem) (index : Nat) : Prop
  | next (after : DeliverySystem) (step : DeliveryStep system (.next index) after)
  | takes (event : ZenohEvent) (step : ∀ accepted, ∃ after,
      DeliveryStep system (.driver (.task index (.sample event accepted))) after)
  | drained (after : DeliverySystem)
      (step : DeliveryStep system (.driver (.task index .drained)) after)

/-- A pass is never stuck. -/
theorem Sound.passStep (sound : system.Sound)
    (drains : system.driver.tasks[index]? = some (.listener channel .drain)) :
    system.PassStep index := by
  have free : ∀ lock, (TaskPoint.listener channel .drain).awaits = some lock →
      system.driver.Free lock := nofun
  cases visiting : system.remaining index with
  | nil => exact .drained _ (.drained visiting (.task drains free .listenerDrained))
  | cons number rest =>
      obtain ⟨subscriber, located, declared⟩ :=
        (sound.passing index channel drains).visits number (by rw [visiting]; simp)
      cases waits : subscriber.waiting with
      | nil => exact .next _ (.next drains visiting located waits)
      | cons event later =>
          have listed : subscriber.keyExpr ∈ declaredKeys system.subscribers :=
            List.mem_map_of_mem (List.mem_filter.mpr ⟨List.mem_of_getElem? located, declared⟩)
          rw [sound.table, ZenohShared.subscriptions] at listed
          cases established : system.driver.shared.session with
          | none =>
              rw [established] at listed
              cases listed
          | some state =>
              rw [established] at listed
              have subscribed : state.subscriptions ≠ [] := List.ne_nil_of_mem listed
              refine .takes event fun accepted => ?_
              cases accepted with
              | true =>
                  exact ⟨_, .takes visiting located waits
                    (.task drains free (.listenerForwards established subscribed))⟩
              | false =>
                  exact ⟨_, .takes visiting located waits
                    (.task drains free (.listenerRefused established subscribed))⟩

/-- In every run the driver does what it does alone, the subscribers it has are those of its
session, the sinks are handed what came in for a subscriber in order and without repetition, a pass
goes on until every subscriber is visited, and at its end all that had come in before it began has
been handed over. -/
theorem delivered_in_order (run : Run DeliveryStep (fun _ _ => True) new system) :
    Run SystemStep (fun _ _ => True) .new system.driver ∧
      declaredKeys system.subscribers = system.driver.shared.subscriptions ∧
      (declaredKeys system.subscribers).Nodup ∧
      (∀ (number : Nat) subscriber, system.subscribers[number]? = some subscriber →
        subscriber.arrived = system.handed number ++ subscriber.waiting) ∧
      (∀ (index channel : Nat),
        system.driver.tasks[index]? = some (.listener channel .drain) →
          system.PassStep index) ∧
      ∀ index after, DeliveryStep system (.driver (.task index .drained)) after →
        ∀ (number : Nat) subscriber count, system.subscribers[number]? = some subscriber →
          subscriber.declared = true → (system.due index)[number]? = some count →
            subscriber.arrived.take count <+: system.handed number := by
  have sound := sound_of_run run
  refine ⟨driver_run run, sound.table, sound.unrepeated, sound.fifo,
    fun index channel drains => sound.passStep drains, ?_⟩
  intro index after step number subscriber count located declared begun
  have finishes : ∃ channel, system.driver.tasks[index]? = some (.listener channel .drain) ∧
      system.remaining index = [] := by
    cases step with
    | quiet _ quiet => cases quiet.1
    | drained visited step =>
        cases step with
        | task located _ step =>
            cases step
            exact ⟨_, located, visited⟩
  obtain ⟨channel, drains, visited⟩ := finishes
  obtain ⟨found, located', bound, due⟩ :=
    (sound.passing index channel drains).due number count begun
  cases located.symm.trans located'
  rcases due declared with member | taken
  · rw [visited] at member
    cases member
  · rw [sound.fifo number subscriber located, List.take_append_of_le_length taken]
    exact List.take_prefix count _

/-- A sample came in for a subscriber after a pass had begun, and the pass took it nevertheless. -/
def lampDelivered : DeliverySystem :=
  { driver :=
      { shared :=
          { session := some ⟨["lamp"], []⟩
            listenerStatus := .running
            listenerStopTx := some 0
            channels := [.fresh] }
        tasks := [.returned (.ok none), .returned (.ok none), .returned (.ok none),
          .listener 0 .drain] }
    subscribers := [⟨"lamp", true, [⟨"lamp", [1]⟩], []⟩]
    handovers := [⟨3, 0, ⟨"lamp", [1]⟩, true⟩]
    remaining := Function.update (Function.update (fun _ => []) 3 [0]) 3 []
    due := Function.update (fun _ => []) 3 [0] }

theorem lampDelivered_in_order :
    (∀ (number : Nat) subscriber, lampDelivered.subscribers[number]? = some subscriber →
        subscriber.arrived = lampDelivered.handed number ++ subscriber.waiting) ∧
      lampDelivered.PassStep 3 := by
  have started : Run DeliveryStep (fun _ _ => True) new new := .refl _
  have subscribed := started
    |>.perform (.driver (.call (.session .startSession))) trivial (.quiet (.call _) trivial)
    |>.perform (.driver (.task 0 .internal)) trivial
      (.quiet (.task rfl (by decide) .sessionLocks) ⟨rfl, nofun⟩)
    |>.perform (.driver (.task 0 (.answer (.ok [])))) trivial
      (.answered rfl (.task rfl (by decide) .sessionAnswered))
    |>.perform (.driver (.call (.session (.subscribe ⟨"subscribe-1", "lamp"⟩)))) trivial
      (.quiet (.call _) trivial)
    |>.perform (.driver (.task 1 .internal)) trivial
      (.quiet (.task rfl (by decide) .sessionLocks) ⟨rfl, nofun⟩)
    |>.perform (.driver (.task 1 (.answer (.ok [])))) trivial
      (.answered rfl (.task rfl (by decide) .sessionAnswered))
  have listening := subscribed
    |>.perform (.driver (.call .startListener)) trivial (.quiet (.call _) trivial)
    |>.perform (.driver (.task 2 .internal)) trivial
      (.quiet (.task rfl (by decide) (.startOpens nofun)) ⟨rfl, nofun⟩)
    |>.perform (.driver (.task 2 .internal)) trivial
      (.quiet (.task rfl (by decide) .startLocks) ⟨rfl, nofun⟩)
    |>.perform (.driver (.task 2 .internal)) trivial
      (.quiet (.task rfl (by decide) .startStores) ⟨rfl, nofun⟩)
    |>.perform (.driver (.task 2 .internal)) trivial
      (.quiet (.task rfl (by decide) .startRuns) ⟨rfl, nofun⟩)
    |>.perform (.driver (.task 2 .internal)) trivial (.quiet (.spawn rfl) ⟨rfl, nofun⟩)
    |>.perform (.driver (.task 3 .internal)) trivial
      (.quiet (.task rfl (by decide) (.listenerPolls rfl rfl)) ⟨rfl, nofun⟩)
  have every : ∀ number, number ∈ [0] ↔ Declared
      { lampDelivered with subscribers := [.fresh "lamp"] } number := by
    intro number
    cases number with
    | zero => exact iff_of_true (List.mem_singleton_self 0) ⟨_, rfl, rfl⟩
    | succ number => simp [Declared]
  have run := listening
    |>.perform (.driver (.task 3 .internal)) trivial
      (.begins rfl (.task rfl (by decide) .listenerLocks) (List.nodup_singleton 0) every)
    |>.perform (.arrives 0 ⟨"lamp", [1]⟩) trivial (.arrives rfl rfl)
    |>.perform (.driver (.task 3 (.sample ⟨"lamp", [1]⟩ true))) trivial
      (.takes (by rfl) rfl rfl (.task rfl (by decide) (.listenerForwards rfl nofun)))
    |>.perform (.next 3) trivial (.next rfl (by rfl) rfl rfl)
  obtain ⟨-, -, -, fifo, passes, -⟩ := delivered_in_order
    (show Run DeliveryStep (fun _ _ => True) new lampDelivered from run)
  exact ⟨fifo, passes 3 0 rfl⟩

end DeliverySystem

end Zenoh
end Ferredge
