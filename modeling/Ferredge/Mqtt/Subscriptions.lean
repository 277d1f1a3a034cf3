import Mathlib.Data.Set.List
import Mathlib.Data.String.Basic
import Ferredge.History
import Ferredge.Mqtt.DriverStep
import Ferredge.Mqtt.Options

/-!
# Desired subscriptions

The driver keeps the subscribe requests it has to repeat after a reconnect, each under the topic
filter in its packet.  A subscribe command puts its shared group into the filter, and an unsubscribe
command names no group.
-/

namespace Ferredge

open Fallible History

namespace Mqtt

/-! ## Ordered entries -/

/-- The entries are in the order of their keys. -/
def Ordered {value : Type} (entries : List (String × value)) : Prop :=
  entries.Pairwise fun left right => left.1 < right.1

section Ordered

variable {value : Type} {key : String} {item : value} {entry : String × value}
  {entries : List (String × value)}

end Ordered

/-! ## Subscription commands -/

/-- A subscribe command with its options, or an unsubscribe command without any, and the request
that one of the two pipelines builds from it. -/
structure SubscriptionCall (lib : MqttLibrary) (device : MqttDevice) where
  command : Command
  channel : BrokerAddress
  options : Option BrokerSubscriptionOptions
  request : MqttPacketRequest
  intent : command.intent =
    match options with
    | some options => .subscribe channel options
    | none => .unsubscribe channel
  built : nativePacketRequest lib device command = .ok request ∨
    bridgePacketRequest lib device command = .ok request

variable {lib : MqttLibrary} {device : MqttDevice}

namespace SubscriptionCall

/-- The topic filter that the channel and the shared group of the command make up. -/
def filter (call : SubscriptionCall lib device) : String :=
  mqttTopicFromSubscriptionParts call.channel.name.text
    (call.options.bind BrokerSubscriptionOptions.sharedGroup)

end SubscriptionCall

/-- The desired subscriptions after a run of commands. -/
def desiredAfter (calls : List (SubscriptionCall lib device)) : List (String × MqttPacketRequest) :=
  calls.foldl (fun desired call => trackSubscriptionIntent call.request desired) []

namespace SubscriptionCall

end SubscriptionCall

/-! ## Entries and their commands -/

variable {calls : List (SubscriptionCall lib device)} {call : SubscriptionCall lib device}
  {name : ChannelName} {entry : String × MqttPacketRequest}

section Driver

open Transition

variable {stack : MqttStack} {config : MqttEndpointConfig} {shared later : DriverShared stack}
  {point next : TaskPoint stack} {label : StepLabel stack}

/-- Only a call that records its request changes the desired subscriptions. -/
theorem TaskStep.desiredSubscriptions (step : TaskStep config shared point label later next) :
    later.desiredSubscriptions = shared.desiredSubscriptions ∨
      ∃ call, point = .track call ∧
        later.desiredSubscriptions =
          trackSubscriptionIntent call.request shared.desiredSubscriptions := by
  cases step with
  | track => exact .inr ⟨_, rfl, rfl⟩
  | _ => exact .inl rfl

/-- A call is about to record its request only before its first step. -/
theorem TaskStep.tracks {call : DriverCall} (step : TaskStep config shared point label later next)
    (tracks : next = .track call) : point = .track call := by
  have enters : next.enters = true := by
    rw [tracks]
    rfl
  rcases step.enters enters with ⟨same, -⟩ | ⟨opens, -⟩
  · exact same.symm.trans tracks
  · cases tracks.symm.trans opens

/-- One of the operations subscribes or unsubscribes with the request. -/
def Asked (operations : List DriverOperation) (request : MqttPacketRequest) : Prop :=
  ∃ kind, kind ≠ .publish ∧ .call kind request ∈ operations

/-- The desired subscriptions are what requests of the operations leave, and the requests that are
about to be recorded are theirs too. -/
structure DriverSystem.Records (operations : List DriverOperation) (system : DriverSystem stack) :
    Prop where
  waiting : ∀ call, .track call ∈ system.tasks → Asked operations call.request
  recorded : ∃ requests : List MqttPacketRequest,
    (∀ request ∈ requests, Asked operations request) ∧
      system.shared.desiredSubscriptions =
        requests.foldl (fun desired request => trackSubscriptionIntent request desired) []

theorem records_step {operations : List DriverOperation} {before after : DriverSystem stack}
    {label : Nat × StepLabel stack} (records : before.Records operations)
    (step : SystemStep config before label after) : after.Records operations := by
  obtain ⟨waiting, requests, asked, desired⟩ := records
  cases step with
  | @task index point label shared next located step =>
      refine ⟨?_, ?_⟩
      · intro call member
        rcases List.mem_or_eq_of_mem_set member with member | begins
        · exact waiting call member
        · rw [step.tracks begins.symm] at located
          exact waiting call (List.mem_of_getElem? located)
      · rcases step.desiredSubscriptions with same | ⟨call, rfl, tracked⟩
        · exact ⟨requests, asked, same.trans desired⟩
        · refine ⟨requests ++ [call.request], ?_, ?_⟩
          · intro request member
            rcases List.mem_append.mp member with member | member
            · exact asked request member
            · obtain rfl := List.mem_singleton.mp member
              exact waiting call (List.mem_of_getElem? located)
          · rw [List.foldl_append, ← desired]
            exact tracked
  | @spawn index channel located =>
      refine ⟨fun call member => ?_, requests, asked, desired⟩
      rcases List.mem_append.mp member with member | member
      · rcases List.mem_or_eq_of_mem_set member with member | begins
        · exact waiting call member
        · cases begins
      · cases List.mem_singleton.mp member

theorem records_begin (operations : List DriverOperation) :
    (DriverSystem.begin operations : DriverSystem stack).Records operations := by
  refine ⟨?_, [], nofun, rfl⟩
  intro call begun
  obtain ⟨number, bounded, entry⟩ := List.mem_mapIdx.mp begun
  have listed := List.getElem_mem bounded
  cases operation : operations[number] with
  | call kind request =>
      rw [operation] at entry listed
      have subscribing : kind ≠ .publish := by
        rintro rfl
        cases entry
      cases kind with
      | publish => exact absurd rfl subscribing
      | subscribe | unsubscribe =>
          cases entry
          exact ⟨_, subscribing, listed⟩
  | start | stop | startListening | stopListening =>
      rw [operation] at entry
      cases entry

/-- In a run whose subscription requests are those of commands, the desired subscriptions are what
some of these commands leave, in the order of the calls. -/
theorem desiredSubscriptions_of_commands {operations : List DriverOperation}
    {careful : DriverSystem stack → Nat × StepLabel stack → Prop} {system : DriverSystem stack}
    (run : Run (SystemStep config) careful (.begin operations) system)
    (commanded : ∀ request, Asked operations request →
      ∃ call : SubscriptionCall lib device, call.request = request) :
    ∃ calls : List (SubscriptionCall lib device),
      (∀ call ∈ calls, Asked operations call.request) ∧
        system.shared.desiredSubscriptions = desiredAfter calls := by
  obtain ⟨-, requests, asked, desired⟩ := run.invariant (DriverSystem.Records operations)
    (records_begin operations) fun records _ step => records_step records step
  have named : requests ∈
      Set.range (List.map fun call : SubscriptionCall lib device => call.request) := by
    rw [Set.range_list_map]
    exact fun request member => commanded request (asked request member)
  obtain ⟨calls, rfl⟩ := named
  refine ⟨calls, ?_, ?_⟩
  · exact fun call member => asked call.request (List.mem_map_of_mem member)
  · rw [desired, List.foldl_map]
    rfl

end Driver

/-! ## Shared subscriptions -/

end Mqtt
end Ferredge
