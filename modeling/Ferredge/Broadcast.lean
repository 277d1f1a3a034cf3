import Mathlib.Data.List.Basic

/-!
# Broadcasts over bounded channels

A value is offered to the channel of every subscriber: a channel without room loses it, and one
whose receiver is gone is forgotten.  A subscriber that empties its channel often enough has always
received the latest value.
-/

namespace Broadcast

variable {α : Type*}

/-- A subscriber: what waits in its channel and what it has taken from there. -/
structure Subscriber (α : Type*) where
  queue : List α
  received : List α
  /-- The receiver of the channel is there. -/
  alive : Bool
  /-- The subscriber empties its channel whenever the broadcaster pauses. -/
  drains : Bool
  deriving DecidableEq

/-- Offers a value to one channel, unless its receiver is gone. -/
def offer (capacity : Nat) (value : α) (subscriber : Subscriber α) : Option (Subscriber α) :=
  if subscriber.alive then
    if subscriber.queue.length < capacity then
      some { subscriber with queue := subscriber.queue ++ [value] }
    else some subscriber
  else none

/-- Offers a value to every channel. -/
def send (capacity : Nat) (value : α) (subscribers : List (Subscriber α)) :
    List (Subscriber α) :=
  subscribers.filterMap (offer capacity value)

/-- Takes everything that waits in the channel. -/
def Subscriber.drain (subscriber : Subscriber α) : Subscriber α :=
  { subscriber with queue := [], received := subscriber.received ++ subscriber.queue }

/-- Takes the first value from the channel, if one waits there. -/
def Subscriber.receive (subscriber : Subscriber α) : Subscriber α :=
  match subscriber.queue with
  | [] => subscriber
  | value :: rest =>
      { subscriber with queue := rest, received := subscriber.received ++ [value] }

/-- Drops the receiver of the channel. -/
def Subscriber.hangUp (subscriber : Subscriber α) : Subscriber α :=
  { subscriber with alive := false }

/-- A pause of the broadcaster. -/
def settle (subscribers : List (Subscriber α)) : List (Subscriber α) :=
  subscribers.map fun subscriber => if subscriber.drains then subscriber.drain else subscriber

/-- The subscriber is there and empties its channel in every pause. -/
def Subscriber.Attentive (subscriber : Subscriber α) : Prop :=
  subscriber.alive = true ∧ subscriber.drains = true

/-- At most the given number of values wait in the channel of an attentive subscriber. -/
def Waiting (count : Nat) (subscribers : List (Subscriber α)) : Prop :=
  ∀ subscriber ∈ subscribers, subscriber.Attentive → subscriber.queue.length ≤ count

/-- The value is the last one in the channel of every attentive subscriber. -/
def Latest (value : α) (subscribers : List (Subscriber α)) : Prop :=
  ∀ subscriber ∈ subscribers, subscriber.Attentive → subscriber.queue.getLast? = some value

/-- Every attentive subscriber has emptied its channel, and the value is the last one it took. -/
def Follows (value : α) (subscribers : List (Subscriber α)) : Prop :=
  ∀ subscriber ∈ subscribers, subscriber.Attentive →
    subscriber.queue = [] ∧ subscriber.received.getLast? = some value

variable {capacity count : Nat} {value : α} {subscribers : List (Subscriber α)}
  {subscriber after : Subscriber α}

theorem offer_eq_some (offered : offer capacity value subscriber = some after) :
    after.alive = subscriber.alive ∧ after.drains = subscriber.drains ∧
      after.queue =
        if subscriber.queue.length < capacity then subscriber.queue ++ [value]
        else subscriber.queue := by
  unfold offer at offered
  split at offered
  · split at offered
    · next room =>
        cases offered
        exact ⟨rfl, rfl, (if_pos room).symm⟩
    · next full =>
        cases offered
        exact ⟨rfl, rfl, (if_neg full).symm⟩
  · cases offered

/-- An attentive subscriber was one before the value was sent. -/
theorem mem_send (listed : after ∈ send capacity value subscribers) (attentive : after.Attentive) :
    ∃ subscriber ∈ subscribers, subscriber.Attentive ∧
      after.queue =
        if subscriber.queue.length < capacity then subscriber.queue ++ [value]
        else subscriber.queue := by
  obtain ⟨subscriber, present, offered⟩ := List.mem_filterMap.mp listed
  obtain ⟨alive, drains, queue⟩ := offer_eq_some offered
  rw [Subscriber.Attentive, alive, drains] at attentive
  exact ⟨subscriber, present, attentive, queue⟩

/-- An attentive subscriber has emptied its channel in the pause. -/
theorem mem_settle (listed : after ∈ settle subscribers) (attentive : after.Attentive) :
    ∃ subscriber ∈ subscribers, subscriber.Attentive ∧ after = subscriber.drain := by
  obtain ⟨subscriber, present, rfl⟩ := List.mem_map.mp listed
  by_cases drains : subscriber.drains = true
  · rw [if_pos drains] at attentive ⊢
    exact ⟨subscriber, present, attentive, rfl⟩
  · rw [if_neg drains] at attentive
    exact absurd attentive.2 drains

theorem Follows.waiting (follows : Follows value subscribers) : Waiting 0 subscribers := by
  intro subscriber listed attentive
  exact Nat.le_of_eq (List.length_eq_zero_iff.mpr (follows subscriber listed attentive).1)

theorem Waiting.mono {more : Nat} (waiting : Waiting count subscribers) (fewer : count ≤ more) :
    Waiting more subscribers :=
  fun subscriber listed attentive => Nat.le_trans (waiting subscriber listed attentive) fewer

theorem Waiting.send (waiting : Waiting count subscribers) :
    Waiting (count + 1) (send capacity value subscribers) := by
  intro after listed attentive
  obtain ⟨subscriber, present, attends, queue⟩ := mem_send listed attentive
  have bound := waiting subscriber present attends
  rw [queue]
  split
  · rw [List.length_append, List.length_singleton]
    omega
  · omega

/-- A value is the last one in every channel that has room for it. -/
theorem Waiting.latest (waiting : Waiting count subscribers) (room : count < capacity) :
    Latest value (Broadcast.send capacity value subscribers) := by
  intro after listed attentive
  obtain ⟨subscriber, present, attends, queue⟩ := mem_send listed attentive
  have bound := waiting subscriber present attends
  rw [queue, if_pos (by omega), List.getLast?_concat]

theorem Latest.settle (latest : Latest value subscribers) :
    Follows value (settle subscribers) := by
  intro after listed attentive
  obtain ⟨subscriber, present, attends, rfl⟩ := mem_settle listed attentive
  have last := latest subscriber present attends
  refine ⟨rfl, ?_⟩
  change (subscriber.received ++ subscriber.queue).getLast? = some value
  rw [List.getLast?_append, last, Option.some_or]

/-- A pause before which nothing was sent changes nothing for attentive subscribers. -/
theorem Follows.settle (follows : Follows value subscribers) :
    Follows value (settle subscribers) := by
  intro after listed attentive
  obtain ⟨subscriber, present, attends, rfl⟩ := mem_settle listed attentive
  obtain ⟨empty, last⟩ := follows subscriber present attends
  refine ⟨rfl, ?_⟩
  change (subscriber.received ++ subscriber.queue).getLast? = some value
  rw [empty, List.append_nil, last]

/-- A broadcast and a pause leave an attentive subscriber exactly where there was one. -/
theorem exists_attentive_iff :
    (∃ after ∈ Broadcast.settle (send capacity value subscribers), after.Attentive) ↔
      ∃ subscriber ∈ subscribers, subscriber.Attentive := by
  constructor
  · rintro ⟨after, listed, attentive⟩
    obtain ⟨sent, listed, attentive, -⟩ := mem_settle listed attentive
    obtain ⟨subscriber, present, attends, -⟩ := mem_send listed attentive
    exact ⟨subscriber, present, attends⟩
  · rintro ⟨subscriber, present, attends⟩
    have offered : ∃ kept, offer capacity value subscriber = some kept := by
      rw [offer, if_pos attends.1]
      split
      · exact ⟨_, rfl⟩
      · exact ⟨_, rfl⟩
    obtain ⟨kept, offered⟩ := offered
    obtain ⟨alive, drains, -⟩ := offer_eq_some offered
    have drained : kept.drains = true := drains.trans attends.2
    refine ⟨kept.drain, List.mem_map.mpr ⟨kept, ?_, if_pos drained⟩, ?_⟩
    · exact List.mem_filterMap.mpr ⟨subscriber, present, offered⟩
    · exact ⟨alive.trans attends.1, drained⟩

/-- What one subscriber does on its own, if it leaves an empty channel alone. -/
theorem Follows.modify (follows : Follows value subscribers) (index : Nat)
    (act : Subscriber α → Subscriber α)
    (keeps : ∀ subscriber, (act subscriber).Attentive → subscriber.Attentive ∧
      (subscriber.queue = [] → act subscriber = subscriber)) :
    Follows value (subscribers.modify index act) := by
  intro after listed attentive
  obtain ⟨place, located⟩ := List.mem_iff_getElem?.mp listed
  rw [List.getElem?_modify] at located
  obtain ⟨subscriber, there, rfl⟩ := Option.map_eq_some_iff.mp located
  have present := List.mem_of_getElem? there
  by_cases same : index = place
  · rw [if_pos same] at attentive ⊢
    obtain ⟨attended, kept⟩ := keeps subscriber attentive
    have followed := follows subscriber present attended
    rw [kept followed.1]
    exact followed
  · rw [if_neg same] at attentive ⊢
    exact follows subscriber present attentive

theorem Follows.receive (follows : Follows value subscribers) (index : Nat) :
    Follows value (subscribers.modify index Subscriber.receive) := by
  refine follows.modify index _ fun subscriber attentive => ⟨?_, ?_⟩
  · unfold Subscriber.receive at attentive
    split at attentive <;> exact attentive
  · intro empty
    simp only [Subscriber.receive, empty]

theorem Follows.hangUp (follows : Follows value subscribers) (index : Nat) :
    Follows value (subscribers.modify index Subscriber.hangUp) :=
  follows.modify index _ fun _ attentive => nomatch attentive.1

/-- A subscriber that is seeded with the value follows it after the next pause. -/
theorem Follows.seed (follows : Follows value subscribers) (subscriber : Subscriber α)
    (seeded : subscriber.queue = [value]) :
    Follows value (Broadcast.settle (subscribers ++ [subscriber])) := by
  intro after listed attentive
  rw [Broadcast.settle, List.map_append] at listed
  obtain earlier | fresh := List.mem_append.mp listed
  · exact follows.settle after earlier attentive
  · have latest : Latest value [subscriber] := by
      intro single member _
      rw [List.mem_singleton.mp member, seeded]
      rfl
    exact latest.settle after fresh attentive

end Broadcast
