import Ferredge.Broadcast
import Ferredge.Transition

/-!
# The status of the MQTT listener

The status is computed from the running flag and the recorded error, and is sent to its subscribers
as a value written out at each place that changes one of the two.  Every operation is taken as a
whole: nothing else happens until it has run to its end.
-/

namespace Ferredge

/-- Current state of the MQTT background listener runtime. -/
inductive MqttListenerStatus where
  | stopped
  | running
  | failed (error : String)
  deriving DecidableEq

namespace Mqtt

open Broadcast Transition

/-- The listener task behind a join handle. -/
inductive ListenerTask where
  | listening
  | finished
  | panicked
  deriving DecidableEq

/-- What the driver and its listener know about the listener. -/
structure ListenerCells where
  listenerRunning : Bool
  listenerError : Option String
  listenerHandle : Option ListenerTask
  listenerStatusSubscribers : List (Subscriber MqttListenerStatus)
  deriving DecidableEq

/-- A driver that has not listened yet. -/
def ListenerCells.new : ListenerCells where
  listenerRunning := false
  listenerError := none
  listenerHandle := none
  listenerStatusSubscribers := []

/-- Capacity of the channel of a status subscriber. -/
def statusChannelCapacity : Nat := 8

/-- The status of a listener that is not running. -/
def statusOfError : Option String → MqttListenerStatus
  | some error => .failed error
  | none => .stopped

def listenerStatus (cells : ListenerCells) : MqttListenerStatus :=
  if cells.listenerRunning then .running else statusOfError cells.listenerError

def broadcastListenerStatus (status : MqttListenerStatus) (cells : ListenerCells) :
    ListenerCells :=
  { cells with
    listenerStatusSubscribers :=
      send statusChannelCapacity status cells.listenerStatusSubscribers }

def clearListenerError (cells : ListenerCells) : ListenerCells :=
  broadcastListenerStatus .stopped { cells with listenerError := none }

/-- Starts a listener once a connection is there. -/
def startListening (connected : Except String Unit) (cells : ListenerCells) :
    Except String Unit × ListenerCells :=
  match connected with
  | .error error => (.error error, cells)
  | .ok _ =>
      if cells.listenerRunning then (.error "MQTT listener already running", cells)
      else
        let cleared := clearListenerError { cells with listenerRunning := true }
        let started := broadcastListenerStatus .running cleared
        (.ok (), { started with listenerHandle := some .listening })

/-- The end of the listener task. -/
def listenerExits (cells : ListenerCells) : ListenerCells :=
  broadcastListenerStatus (statusOfError cells.listenerError)
    { cells with listenerRunning := false, listenerHandle := some .finished }

/-- A failure of the listener: a sink that refuses an event, or a connection given up. -/
def listenerFails (error : String) (cells : ListenerCells) : ListenerCells :=
  listenerExits (broadcastListenerStatus (.failed error) { cells with listenerError := some error })

/-- A connection that the listener has recovered. -/
def listenerRecovers (cells : ListenerCells) : ListenerCells :=
  { cells with listenerError := none }

/-- Waits for the listener task, whose last round may fail. -/
def joinListener (lastRound : Option String) (cells : ListenerCells) : ListenerCells :=
  match cells.listenerHandle with
  | some .listening =>
      match lastRound with
      | some error => listenerFails error cells
      | none => listenerExits cells
  | some .panicked =>
      { cells with
        listenerError := cells.listenerError.or (some "MQTT listener task panicked") }
  | some .finished | none => cells

def stopListener (lastRound : Option String) (cells : ListenerCells) : ListenerCells :=
  let joined := joinListener lastRound { cells with listenerRunning := false }
  let stopped := { joined with listenerHandle := none }
  broadcastListenerStatus (listenerStatus stopped) stopped

/-- Subscribes to the status, whose current value is put into the new channel. -/
def subscribeListenerStatus (drains : Bool) (cells : ListenerCells) : ListenerCells :=
  { cells with
    listenerStatusSubscribers := cells.listenerStatusSubscribers ++
      [{ queue := [listenerStatus cells], received := [], alive := true, drains }] }

/-! ## Operations -/

/-- What happens to the listener, from outside or by itself, and what a subscriber does. -/
inductive ListenerOperation where
  | start (connected : Except String Unit)
  | stop (lastRound : Option String)
  | clear
  | fail (error : String)
  | recover
  | panic
  | subscribe (drains : Bool)
  | receive (index : Nat)
  | hangUp (index : Nat)

/-- A listener fails, recovers or panics while it listens. -/
def ListenerOperation.Enabled (cells : ListenerCells) : ListenerOperation → Prop
  | fail _ | recover | panic =>
      cells.listenerRunning = true ∧ cells.listenerHandle = some .listening
  | _ => True

def ListenerOperation.effect (cells : ListenerCells) : ListenerOperation → ListenerCells
  | start connected => (startListening connected cells).2
  | stop lastRound => stopListener lastRound cells
  | clear => clearListenerError cells
  | fail error => listenerFails error cells
  | recover => listenerRecovers cells
  | panic => { cells with listenerHandle := some .panicked }
  | subscribe drains => subscribeListenerStatus drains cells
  | receive index =>
      { cells with
        listenerStatusSubscribers :=
          cells.listenerStatusSubscribers.modify index Subscriber.receive }
  | hangUp index =>
      { cells with
        listenerStatusSubscribers :=
          cells.listenerStatusSubscribers.modify index Subscriber.hangUp }

/-- Subscribers that keep their channel drained empty it. -/
def ListenerCells.settled (cells : ListenerCells) : ListenerCells :=
  { cells with listenerStatusSubscribers := settle cells.listenerStatusSubscribers }

/-- One operation, run to its end. -/
def ListenerStep (cells : ListenerCells) (operation : ListenerOperation)
    (after : ListenerCells) : Prop :=
  operation.Enabled cells ∧ after = (operation.effect cells).settled

/-- The last status that each subscriber received, if it keeps its channel drained, is the one that
is returned to a query. -/
def ListenerCells.InStep (cells : ListenerCells) : Prop :=
  Follows (listenerStatus cells) cells.listenerStatusSubscribers

/-- The recorded error is cleared only while no listener runs, or while nobody looks. -/
def ClearsIdle (cells : ListenerCells) (operation : ListenerOperation) : Prop :=
  operation = .clear → cells.listenerRunning = false ∨
    ∀ subscriber ∈ cells.listenerStatusSubscribers, ¬subscriber.Attentive

/-! ## One operation -/

variable {cells before after : ListenerCells} {status : MqttListenerStatus}
  {operation : ListenerOperation}

/-- At most the given number of values wait in a drained channel. -/
abbrev ListenerCells.Waiting (count : Nat) (cells : ListenerCells) : Prop :=
  Broadcast.Waiting count cells.listenerStatusSubscribers

theorem waiting_broadcast {count : Nat} (waiting : cells.Waiting count) :
    (broadcastListenerStatus status cells).Waiting (count + 1) :=
  Waiting.send waiting

/-- An operation that ends with a broadcast of the status keeps the subscribers in step. -/
theorem inStep_broadcast {count : Nat} (waiting : cells.Waiting count)
    (room : count < statusChannelCapacity) :
    (broadcastListenerStatus (listenerStatus cells) cells).settled.InStep :=
  (waiting.latest room).settle

theorem inStep_start (inStep : cells.InStep) (connected : Except String Unit) :
    (startListening connected cells).2.settled.InStep := by
  cases connected with
  | error error => exact inStep.settle
  | ok _ =>
      rw [startListening]
      split
      · exact inStep.settle
      · have waiting : (clearListenerError { cells with listenerRunning := true }).Waiting 1 :=
          waiting_broadcast inStep.waiting
        exact inStep_broadcast waiting (by decide)

theorem waiting_listenerExits {count : Nat} (waiting : cells.Waiting count) :
    (listenerExits cells).Waiting (count + 1) :=
  waiting_broadcast waiting

theorem waiting_listenerFails {count : Nat} (waiting : cells.Waiting count) (error : String) :
    (listenerFails error cells).Waiting (count + 2) :=
  waiting_listenerExits (waiting_broadcast waiting)

theorem waiting_joinListener (waiting : cells.Waiting 0) (lastRound : Option String) :
    (joinListener lastRound cells).Waiting 2 := by
  have unchanged : cells.Waiting 2 := waiting.mono (by decide)
  unfold joinListener
  split
  · cases lastRound with
    | some error => exact waiting_listenerFails waiting error
    | none => exact (waiting_listenerExits waiting).mono (by decide)
  · exact unchanged
  · exact unchanged
  · exact unchanged

theorem inStep_stop (inStep : cells.InStep) (lastRound : Option String) :
    (stopListener lastRound cells).settled.InStep := by
  have told : ({ cells with listenerRunning := false } : ListenerCells).Waiting 0 :=
    inStep.waiting
  exact inStep_broadcast (waiting_joinListener told lastRound) (by decide)

theorem inStep_fail (inStep : cells.InStep) (error : String) :
    (listenerFails error cells).settled.InStep := by
  have waiting : (broadcastListenerStatus (.failed error)
      { cells with listenerError := some error }).Waiting 1 :=
    waiting_broadcast inStep.waiting
  exact inStep_broadcast waiting (by decide)

/-- A recovered listener runs on: neither the status nor a channel changes. -/
theorem inStep_recover (inStep : cells.InStep) (running : cells.listenerRunning = true) :
    (listenerRecovers cells).settled.InStep := by
  have unchanged : listenerStatus (listenerRecovers cells) = listenerStatus cells := by
    rw [listenerStatus, listenerStatus, if_pos running]
    exact if_pos running
  rw [ListenerCells.InStep] at inStep
  rw [← unchanged] at inStep
  exact inStep.settle

/-- Clearing the error announces a stopped listener. -/
theorem follows_clear (inStep : cells.InStep) :
    Follows .stopped (clearListenerError cells).settled.listenerStatusSubscribers :=
  (Waiting.latest inStep.waiting (by decide)).settle

/-- Clearing the error keeps the subscribers in step while no listener runs, or while nobody looks,
and only then. -/
theorem inStep_clear_iff (inStep : cells.InStep) :
    (clearListenerError cells).settled.InStep ↔
      cells.listenerRunning = false ∨
        ∀ subscriber ∈ cells.listenerStatusSubscribers, ¬subscriber.Attentive := by
  have follows := follows_clear inStep
  have status : listenerStatus (clearListenerError cells).settled =
      if cells.listenerRunning then .running else .stopped := rfl
  rw [ListenerCells.InStep, status]
  cases running : cells.listenerRunning with
  | false => exact iff_of_true follows (.inl rfl)
  | true =>
      constructor
      · intro kept
        refine .inr fun subscriber listed attentive => ?_
        obtain ⟨after, present, attends⟩ :=
          exists_attentive_iff.mpr ⟨subscriber, listed, attentive⟩
        cases (follows after present attends).2.symm.trans (kept after present attends).2
      · rintro (stopped | unseen)
        · cases stopped
        · intro after listed attentive
          obtain ⟨subscriber, present, attends⟩ :=
            exists_attentive_iff.mp ⟨after, listed, attentive⟩
          exact absurd attends (unseen subscriber present)

/-- Every operation but a clear keeps the subscribers in step, and so does a clear while no listener
runs. -/
theorem inStep_effect (inStep : cells.InStep) (idle : ClearsIdle cells operation)
    (enabled : operation.Enabled cells) : (operation.effect cells).settled.InStep := by
  cases operation with
  | start connected => exact inStep_start inStep connected
  | stop lastRound => exact inStep_stop inStep lastRound
  | clear => exact (inStep_clear_iff inStep).mpr (idle rfl)
  | fail error => exact inStep_fail inStep error
  | recover => exact inStep_recover inStep enabled.1
  | panic => exact Follows.settle inStep
  | subscribe drains => exact Follows.seed inStep _ rfl
  | receive index => exact (Follows.receive inStep index).settle
  | hangUp index => exact (Follows.hangUp inStep index).settle

/-! ## Runs -/

/-- As long as the error is not cleared under a running listener, every subscriber that keeps its
channel drained has last received what a query returns. -/
theorem inStep_of_clearsIdle (run : Run ListenerStep ClearsIdle .new cells) : cells.InStep := by
  refine run.invariant ListenerCells.InStep ?_ ?_
  · exact fun _ listed => nomatch listed
  · rintro before operation after inStep idle ⟨enabled, rfl⟩
    exact inStep_effect inStep idle enabled

theorem failureCleared_inStep :
    ∃ cells, Run ListenerStep ClearsIdle .new cells ∧
      cells.listenerStatusSubscribers.length = 1 ∧ cells.InStep := by
  have run : Run ListenerStep ClearsIdle .new _ := (Run.refl ListenerCells.new)
    |>.perform (.subscribe true) nofun ⟨trivial, rfl⟩
    |>.perform (.start (.ok ())) nofun ⟨trivial, rfl⟩
    |>.perform (.fail "connection reset") nofun ⟨⟨rfl, rfl⟩, rfl⟩
    |>.perform .clear (fun _ => .inl rfl) ⟨trivial, rfl⟩
  exact ⟨_, run, rfl, inStep_of_clearsIdle run⟩

/-- A subscriber is told that the listener has stopped while a query says that it runs. -/
theorem clearedUnderListener_outOfStep :
    ∃ cells, Run ListenerStep (fun _ _ => True) .new cells ∧
      listenerStatus cells = .running ∧ ¬cells.InStep := by
  have run : Run ListenerStep (fun _ _ => True) .new _ := (Run.refl ListenerCells.new)
    |>.perform (.subscribe true) trivial ⟨trivial, rfl⟩
    |>.perform (.start (.ok ())) trivial ⟨trivial, rfl⟩
    |>.perform .clear trivial ⟨trivial, rfl⟩
  refine ⟨_, run, rfl, ?_⟩
  intro inStep
  cases (inStep _ List.mem_cons_self ⟨rfl, rfl⟩).2

end Mqtt
end Ferredge
