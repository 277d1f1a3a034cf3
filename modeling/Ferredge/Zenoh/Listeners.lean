import Ferredge.AtMostOne
import Ferredge.Zenoh.Locks

/-!
# Listeners of the Zenoh driver

`stop_listener` does not wait for the listener it stops, which writes the status of the driver once
more when it ends.  As long as no listener is started before that, calls that are made one after
another keep the status in step with the one listener there is.
-/

namespace Ferredge
namespace Zenoh

open Transition

/-! ## The status and the listeners -/

/-- The call has not returned. -/
def TaskPoint.underWay : TaskPoint → Bool
  | start _ | stop _ _ | lockSession _ | useSession _ => true
  | _ => false

/-- The task is a listener that has not ended. -/
def TaskPoint.listening : TaskPoint → Bool
  | listener _ _ => true
  | _ => false

/-- The listener is in its loop. -/
def ListenerPoint.polling : ListenerPoint → Bool
  | poll | lockSession | drain | sleep => true
  | _ => false

/-- The listener has received the signal to stop. -/
def ListenerPoint.told : ListenerPoint → Bool
  | exit (.ok _) => true
  | _ => false

/-- The task is a listener that has not been told to stop: no signal has been sent to it. -/
def ZenohSystem.Untold (system : ZenohSystem) (index : Nat) : Prop :=
  ∃ channel point, system.tasks[index]? = some (.listener channel point) ∧
    point.told = false ∧ system.shared.Unsent channel

/-- The status is in step with the listeners of the driver. -/
structure ZenohSystem.ListenersTracked (system : ZenohSystem) : Prop where
  /-- There is at most one listener that has not been told to stop. -/
  single : ∀ first second, system.Untold first → system.Untold second → first = second
  /-- The status is running while a listener polls that has not been told to stop. -/
  running : ∀ (index channel : Nat) (point : ListenerPoint),
    system.tasks[index]? = some (.listener channel point) → point.polling = true →
    system.shared.Unsent channel → system.shared.listenerStatus = .running
  /-- A listener that has yet to write its status has no successor. -/
  exits : ∀ (first second channel other : Nat) (leaving point : ListenerPoint),
    system.tasks[first]? = some (.listener channel leaving) → leaving.polling = false →
    system.tasks[second]? = some (.listener other point) → first = second

/-- A call begins when every earlier one has returned. -/
def Sequential (system : ZenohSystem) : SystemLabel → Prop
  | .call _ => ∀ point ∈ system.tasks, point.underWay = false
  | .task _ _ => True

/-- A start that finds a status other than running goes on when every earlier listener has ended. -/
def StartsAlone (system : ZenohSystem) : SystemLabel → Prop
  | .call _ => True
  | .task index _ =>
      match system.tasks[index]? with
      | some (.start .lockStatus) => system.shared.listenerStatus ≠ .running →
          ∀ point ∈ system.tasks, point.listening = false
      | _ => True

/-- Calls are made one after another, and starts go on when every earlier listener has ended. -/
abbrev Unhurried (system : ZenohSystem) (label : SystemLabel) : Prop :=
  Sequential system label ∧ StartsAlone system label

/-! ## What each task relies on -/

/-- The task runs a listener, or is about to start one. -/
def TaskPoint.serving : TaskPoint → Bool
  | start .lockStatus => false
  | start _ | listener _ _ => true
  | _ => false

/-- The receiver of the channel is there. -/
def ZenohShared.Received (channel : Nat) (shared : ZenohShared) : Prop :=
  ∃ queue, shared.channels[channel]? = some queue ∧ queue.receiverAlive = true

/-- What is known at a program point. -/
def TaskPoint.Backed (shared : ZenohShared) : TaskPoint → Prop
  | start (.lockStopTx channel) | start (.store channel) => shared.Received channel
  | start (.running channel) => shared.Received channel ∧ shared.listenerStopTx = some channel
  | start (.spawn channel) => shared.Received channel ∧ shared.listenerStopTx = some channel ∧
      shared.listenerStatus = .running
  | stop _ (.send _) | stop _ .lockStatus | stop _ .stopped => shared.listenerStopTx = none
  | listener channel point => point.polling = true → shared.Received channel
  | _ => True

/-- The task is about to tell the listener on the channel to stop. -/
def TaskPoint.sends (channel : Nat) : TaskPoint → Bool
  | stop _ (.send sent) => sent = channel
  | _ => false

/-- Calls are made one at a time, there is at most one listener, and the sender of a listener that
has not been told to stop is stored or in the hands of the call that tells it. -/
structure ZenohSystem.Orderly (system : ZenohSystem) : Prop where
  calls : AtMostOne TaskPoint.underWay system.tasks
  servers : AtMostOne TaskPoint.serving system.tasks
  backed : ∀ point ∈ system.tasks, point.Backed system.shared
  handled : ∀ (index channel : Nat) (point : ListenerPoint),
    system.tasks[index]? = some (.listener channel point) → point.polling = true →
    system.shared.Unsent channel → system.shared.listenerStatus = .running ∧
      (system.shared.listenerStopTx = some channel ∨
        ∃ other ∈ system.tasks, other.sends channel = true)

variable {system before after : ZenohSystem} {shared later : ZenohShared}
  {point next other : TaskPoint} {label : StepLabel} {index channel : Nat}

theorem listenersTracked_of_orderly (orderly : system.Orderly) : system.ListenersTracked := by
  refine ⟨?_, ?_, ?_⟩
  · rintro first second ⟨_, _, located, -⟩ ⟨_, _, located', -⟩
    exact orderly.servers _ _ _ _ located located' rfl rfl
  · intro index channel point located polls unsent
    exact (orderly.handled index channel point located polls unsent).1
  · intro first second channel other leaving point located _ located'
    exact orderly.servers _ _ _ _ located located' rfl rfl

/-! ## One step -/

theorem TaskStep.underWay (step : TaskStep shared point label later next)
    (remains : next.underWay = true) : point.underWay = true := by
  cases step with
  | @stopClears closes => rfl
  | _ => first | rfl | cases remains

theorem TaskStep.underWay_of_not_serving (step : TaskStep shared point label later next)
    (unserving : point.serving = false) : point.underWay = true := by
  cases step with
  | listenerForwards | listenerPolls | listenerLocks | listenerDrained | listenerSlept
  | listenerRefused | listenerStopped | listenerFails | listenerEnds => cases unserving
  | _ => rfl

theorem underWay_of_sends (sends : point.sends channel = true) : point.underWay = true := by
  cases point with
  | stop => rfl
  | _ => cases sends

/-- Only a start that finds another status begins to serve. -/
theorem TaskStep.serving (step : TaskStep shared point label later next)
    (serves : next.serving = true) : point.serving = true ∨
      point = .start .lockStatus ∧ shared.listenerStatus ≠ .running := by
  cases step with
  | startOpens idle => exact .inr ⟨rfl, idle⟩
  | @stopClears closes => cases closes <;> cases serves
  | _ => first | exact .inl rfl | cases serves

theorem ZenohShared.Received.setChannel {index : Nat} {queue : StopChannel}
    (received : shared.Received channel)
    (kept : index = channel → queue.receiverAlive = true) :
    (shared.setChannel index queue).Received channel := by
  obtain ⟨present, located, alive⟩ := received
  dsimp only [ZenohShared.Received, ZenohShared.setChannel]
  by_cases same : index = channel
  · subst same
    have within := (List.getElem?_eq_some_iff.mp located).1
    exact ⟨queue, by rw [List.getElem?_set_self within], kept rfl⟩
  · exact ⟨present, by rw [List.getElem?_set_ne same, located], alive⟩

/-- A task arrives with what its new program point relies on. -/
theorem TaskStep.backed (step : TaskStep shared point label later next)
    (backed : point.Backed shared) : next.Backed later := by
  cases step with
  | startOpens =>
      exact ⟨.fresh, List.getElem?_concat_length, rfl⟩
  | startStores => exact ⟨backed, rfl⟩
  | startRuns => exact ⟨backed.1, backed.2, rfl⟩
  | stopFinds missing => exact missing
  | @stopClears closes => cases closes <;> trivial
  | startLocks | stopSends | stopLocksStatus | listenerForwards | listenerSlept => exact backed
  | listenerPolls | listenerLocks | listenerDrained => exact fun _ => backed rfl
  | listenerStopped | listenerRefused | listenerFails => nofun
  | stopTakes => rfl
  | _ => trivial

/-- What the other tasks rely on is left alone: a call is the only one, and so is a listener. -/
theorem TaskStep.backed_other (step : TaskStep shared point label later next)
    (backed : other.Backed shared) (call : point.underWay = true → other.underWay = false)
    (server : point.serving = true → other.serving = false)
    (starts : next.serving = true → other.serving = false) : other.Backed later := by
  cases other with
  | lockSession | useSession | returned | ended => trivial
  | start start =>
      cases start with
      | lockStatus => trivial
      | _ =>
          cases step with
          | listenerForwards | listenerPolls | listenerLocks | listenerDrained | listenerSlept
          | listenerRefused | listenerStopped | listenerFails | listenerEnds =>
              cases server rfl
          | _ => cases call rfl
  | stop closes stop =>
      have kept (same : later.listenerStopTx = shared.listenerStopTx) :
          (TaskPoint.stop closes stop).Backed later := by
        cases stop with
        | lockStopTx | take => trivial
        | send | lockStatus | stopped => exact same.trans backed
      cases step with
      | listenerForwards | listenerPolls | listenerLocks | listenerDrained | listenerSlept
      | listenerRefused | listenerStopped | listenerFails | listenerEnds => exact kept rfl
      | _ => cases call rfl
  | listener channel listener =>
      cases step with
      | @stopSends closes sent queue located room =>
          intro polls
          refine (backed polls).setChannel ?_
          rintro rfl
          obtain ⟨present, located', alive⟩ := backed polls
          cases located.symm.trans located'
          exact alive
      | startRefused | stopLocks | stopTakes | stopFinds | stopLocksStatus | stopClears
      | sessionLocks | sessionAnswered => exact backed
      | startOpens | startLocks | startStores | startRuns => cases starts rfl
      | _ => cases server rfl

/-- A call that does not serve keeps the status running, and the sender at hand, for a listener
that it does not tell to stop. -/
theorem TaskStep.handled (step : TaskStep shared point label later next)
    (call : point.underWay = true) (idle : next.serving = false) (backed : point.Backed shared)
    (received : shared.Received channel)
    (handled : shared.Unsent channel → shared.listenerStatus = .running ∧
      (shared.listenerStopTx = some channel ∨ point.sends channel = true))
    (unsent : later.Unsent channel) :
    later.listenerStatus = .running ∧
      (later.listenerStopTx = some channel ∨ next.sends channel = true) := by
  cases step with
  | startOpens | startLocks | startStores | startRuns => cases idle
  | startRefused | stopLocks | sessionLocks | sessionAnswered =>
      obtain ⟨running, stored | sends⟩ := handled unsent
      · exact ⟨running, .inl stored⟩
      · cases sends
  | @stopTakes closes taken stored =>
      obtain ⟨running, kept | sends⟩ := handled unsent
      · cases stored.symm.trans kept
        exact ⟨running, .inr (decide_eq_true rfl)⟩
      · cases sends
  | stopFinds missing =>
      obtain ⟨running, kept | sends⟩ := handled unsent
      · cases missing.symm.trans kept
      · cases sends
  | @stopSends closes sent queue located room =>
      obtain ⟨present, found, empty⟩ := unsent
      have within := (List.getElem?_eq_some_iff.mp located).1
      by_cases same : sent = channel
      · -- the signal waits in the channel
        subst same
        obtain ⟨_, located', alive⟩ := received
        cases located.symm.trans located'
        dsimp only [ZenohShared.setChannel] at found
        rw [List.getElem?_set_self within] at found
        obtain rfl := Option.some.inj found
        rw [if_pos alive] at empty
        cases empty
      · dsimp only [ZenohShared.setChannel] at found
        rw [List.getElem?_set_ne same] at found
        obtain ⟨-, kept | sends⟩ := handled ⟨present, found, empty⟩
        · cases backed.symm.trans kept
        · exact absurd (of_decide_eq_true sends) same
  | stopLocksStatus | stopClears =>
      obtain ⟨-, kept | sends⟩ := handled unsent
      · cases backed.symm.trans kept
      · cases sends
  | _ => cases call

/-- A listener leaves the status and the sender alone while it polls. -/
theorem TaskStep.polls {listener : ListenerPoint}
    (step : TaskStep shared point label later (.listener channel listener))
    (polls : listener.polling = true) :
    later = shared ∧ ∃ earlier : ListenerPoint, point = .listener channel earlier ∧
      earlier.polling = true := by
  generalize reached : TaskPoint.listener channel listener = next at step
  cases step with
  | @stopClears closes => cases closes <;> cases reached
  | listenerForwards | listenerPolls | listenerLocks | listenerDrained | listenerSlept =>
      cases reached
      exact ⟨rfl, _, rfl, rfl⟩
  | listenerStopped | listenerRefused | listenerFails =>
      cases reached
      cases polls
  | _ => cases reached

/-! ## Runs -/

theorem orderly_call (orderly : before.Orderly) (call : DriverCall)
    (sequential : ∀ point ∈ before.tasks, point.underWay = false) :
    ({ before with tasks := before.tasks ++ [call.entry] } : ZenohSystem).Orderly := by
  refine ⟨?_, ?_, ?_, ?_⟩
  · exact orderly.calls.append fun _ => sequential
  · refine orderly.servers.append fun serves => ?_
    cases call <;> cases serves
  · intro point member
    rcases List.mem_append.mp member with member | member
    · exact orderly.backed point member
    · cases List.mem_singleton.mp member
      cases call <;> trivial
  · intro index channel point located polls unsent
    rcases AtMostOne.located_append located with ⟨-, same⟩ | located
    · cases call <;> cases same
    · obtain ⟨running, kept⟩ := orderly.handled index channel point located polls unsent
      refine ⟨running, kept.imp_right ?_⟩
      rintro ⟨other, member, sends⟩
      exact ⟨other, List.mem_append_left _ member, sends⟩

/-- A task that begins to serve is the only one that does: every listener has ended, and every other
call has returned. -/
theorem servers_apart (orderly : before.Orderly) (alone : StartsAlone before (.task index label))
    (located : before.tasks[index]? = some point)
    (step : TaskStep before.shared point label later next) (serves : next.serving = true)
    {place : Nat} (elsewhere : place ≠ index) (located' : before.tasks[place]? = some other) :
    other.serving = false := by
  rcases step.serving serves with serving | ⟨rfl, idle⟩
  · exact orderly.servers.apart located serving elsewhere located'
  · dsimp only [StartsAlone] at alone
    rw [located] at alone
    have ended := alone idle other (List.mem_of_getElem? located')
    have returned := orderly.calls.apart located rfl elsewhere located'
    cases other with
    | start => cases returned
    | listener => cases ended
    | _ => rfl

theorem servers_task (orderly : before.Orderly) (alone : StartsAlone before (.task index label))
    (located : before.tasks[index]? = some point)
    (step : TaskStep before.shared point label later next) :
    AtMostOne TaskPoint.serving (before.tasks.set index next) := by
  intro first second one two here there serves serves'
  rcases AtMostOne.located_set here with ⟨rfl, rfl⟩ | ⟨apart, earlier⟩
  · rcases AtMostOne.located_set there with ⟨rfl, -⟩ | ⟨apart, earlier⟩
    · rfl
    · cases serves'.symm.trans (servers_apart orderly alone located step serves apart earlier)
  · rcases AtMostOne.located_set there with ⟨rfl, rfl⟩ | ⟨-, earlier'⟩
    · cases serves.symm.trans (servers_apart orderly alone located step serves' apart earlier)
    · exact orderly.servers _ _ _ _ earlier earlier' serves serves'

theorem backed_task (orderly : before.Orderly) (alone : StartsAlone before (.task index label))
    (located : before.tasks[index]? = some point)
    (step : TaskStep before.shared point label later next) :
    ∀ other ∈ before.tasks.set index next, other.Backed later := by
  intro other member
  obtain ⟨place, found⟩ := List.mem_iff_getElem?.mp member
  rcases AtMostOne.located_set found with ⟨-, rfl⟩ | ⟨apart, earlier⟩
  · exact step.backed (orderly.backed point (List.mem_of_getElem? located))
  · refine step.backed_other (orderly.backed other (List.mem_of_getElem? earlier)) ?_ ?_ ?_
    · exact fun call => orderly.calls.apart located call apart earlier
    · exact fun serves => orderly.servers.apart located serves apart earlier
    · exact fun serves => servers_apart orderly alone located step serves apart earlier

/-- A step of another task keeps the status running, and the sender at hand, for a listener that
polls and has not been told to stop. -/
theorem handled_apart (orderly : before.Orderly) (alone : StartsAlone before (.task index label))
    (located : before.tasks[index]? = some point)
    (step : TaskStep before.shared point label later next) {place : Nat}
    {listener : ListenerPoint} (elsewhere : place ≠ index)
    (earlier : before.tasks[place]? = some (.listener channel listener))
    (polls : listener.polling = true) (unsent : later.Unsent channel) :
    later.listenerStatus = .running ∧
      (later.listenerStopTx = some channel ∨ next.sends channel = true) := by
  have idle : next.serving = false := by
    refine Bool.eq_false_iff.mpr fun serves => ?_
    cases servers_apart orderly alone located step serves elsewhere earlier
  have unserving : point.serving = false := by
    refine Bool.eq_false_iff.mpr fun serves => ?_
    cases orderly.servers.apart located serves elsewhere earlier
  have call : point.underWay = true := step.underWay_of_not_serving unserving
  have handled (unsent : before.shared.Unsent channel) :
      before.shared.listenerStatus = .running ∧
        (before.shared.listenerStopTx = some channel ∨ point.sends channel = true) := by
    refine (orderly.handled place channel listener earlier polls unsent).imp_right ?_
    refine Or.imp_right ?_
    rintro ⟨other, member, sends⟩
    obtain ⟨there, seen⟩ := List.mem_iff_getElem?.mp member
    obtain rfl := orderly.calls _ _ _ _ located seen call (underWay_of_sends sends)
    cases located.symm.trans seen
    exact sends
  have backed := orderly.backed point (List.mem_of_getElem? located)
  have received := orderly.backed _ (List.mem_of_getElem? earlier) polls
  exact step.handled call idle backed received handled unsent

theorem orderly_task (orderly : before.Orderly) (alone : StartsAlone before (.task index label))
    (located : before.tasks[index]? = some point)
    (step : TaskStep before.shared point label later next) :
    (⟨later, before.tasks.set index next⟩ : ZenohSystem).Orderly := by
  refine ⟨orderly.calls.set located step.underWay, servers_task orderly alone located step,
    backed_task orderly alone located step, ?_⟩
  intro place channel listener found polls unsent
  rcases AtMostOne.located_set found with ⟨rfl, rfl⟩ | ⟨apart, earlier⟩
  · -- the listener itself has moved
    obtain ⟨rfl, point, rfl, polled⟩ := step.polls polls
    obtain ⟨running, kept⟩ := orderly.handled place channel point located polled unsent
    refine ⟨running, kept.imp_right ?_⟩
    rintro ⟨other, member, sends⟩
    obtain ⟨there, seen⟩ := List.mem_iff_getElem?.mp member
    by_cases same : there = place
    · subst same
      cases located.symm.trans seen
      cases sends
    · exact ⟨other, AtMostOne.mem_set seen same, sends⟩
  · have handled := handled_apart orderly alone located step apart earlier polls unsent
    refine handled.imp_right (Or.imp_right fun sends => ⟨next, ?_, sends⟩)
    exact List.mem_set (List.getElem?_eq_some_iff.mp located).1 next

theorem orderly_spawn (orderly : before.Orderly)
    (located : before.tasks[index]? = some (.start (.spawn channel))) :
    ({ before with
        tasks := before.tasks.set index (.returned (.ok none)) ++ [.listener channel .poll] } :
      ZenohSystem).Orderly := by
  obtain ⟨received, stored, running⟩ := orderly.backed _ (List.mem_of_getElem? located)
  let returnedTasks := before.tasks.set index (.returned (.ok none))
  have unserving (point : TaskPoint) (member : point ∈ returnedTasks) :
      point.serving = false := by
    obtain ⟨place, found⟩ := List.mem_iff_getElem?.mp member
    rcases AtMostOne.located_set found with ⟨-, rfl⟩ | ⟨apart, earlier⟩
    · rfl
    · exact orderly.servers.apart located rfl apart earlier
  refine ⟨?_, ?_, ?_, ?_⟩
  · have returned : AtMostOne TaskPoint.underWay returnedTasks :=
      orderly.calls.set located fun _ => rfl
    exact returned.append fun remains => by cases remains
  · have returned : AtMostOne TaskPoint.serving returnedTasks :=
      orderly.servers.set located fun _ => rfl
    exact returned.append fun _ => unserving
  · intro point member
    rcases List.mem_append.mp member with member | member
    · rcases List.mem_or_eq_of_mem_set member with member | rfl
      · exact orderly.backed point member
      · trivial
    · cases List.mem_singleton.mp member
      exact fun _ => received
  · intro place channel listener found polls unsent
    rcases AtMostOne.located_append found with ⟨-, same⟩ | found
    · cases same
      exact ⟨running, .inl stored⟩
    · cases unserving _ (List.mem_of_getElem? found)

theorem orderly_step {label : SystemLabel} (orderly : before.Orderly)
    (sequential : Sequential before label) (alone : StartsAlone before label)
    (step : SystemStep before label after) : after.Orderly := by
  cases step with
  | call call => exact orderly_call orderly call sequential
  | task located free step => exact orderly_task orderly alone located step
  | spawn located => exact orderly_spawn orderly located

/-- In a run whose calls are made one after another and whose starts go on when every earlier
listener has ended, the status stays in step with the listeners. -/
theorem listenersTracked_of_startsAlone
    (run : Run SystemStep Unhurried .new system) : system.ListenersTracked := by
  refine listenersTracked_of_orderly (run.invariant ZenohSystem.Orderly ?_ ?_)
  · exact ⟨.of_absent nofun, .of_absent nofun, nofun, nofun⟩
  · intro before label after orderly met step
    exact orderly_step orderly met.1 met.2 step

/-! ## A restart -/

/-- A listener was started and told to stop, and has yet to find out. -/
def stoppedListener : ZenohSystem :=
  { shared := { ZenohShared.new with channels := [⟨some (), true⟩] }
    tasks := [.returned (.ok none), .listener 0 .poll, .returned (.ok none)] }

theorem stoppedListener_reached : Run SystemStep Unhurried .new stoppedListener := by
  have begun : Run SystemStep Unhurried .new .new := .refl _
  have run := begun
    |>.perform (.call .startListener) ⟨nofun, trivial⟩ (.call _)
    |>.perform (.task 0 .internal) ⟨trivial, fun _ => by decide⟩
      (.task rfl (by decide) (.startOpens nofun))
    |>.perform (.task 0 .internal) ⟨trivial, trivial⟩ (.task rfl (by decide) .startLocks)
    |>.perform (.task 0 .internal) ⟨trivial, trivial⟩ (.task rfl (by decide) .startStores)
    |>.perform (.task 0 .internal) ⟨trivial, trivial⟩ (.task rfl (by decide) .startRuns)
    |>.perform (.task 0 .internal) ⟨trivial, trivial⟩ (.spawn rfl)
    |>.perform (.call .stopListener)
      ⟨show ∀ point ∈ _, TaskPoint.underWay point = false by decide, trivial⟩ (.call _)
    |>.perform (.task 2 .internal) ⟨trivial, trivial⟩ (.task rfl (by decide) .stopLocks)
    |>.perform (.task 2 .internal) ⟨trivial, trivial⟩ (.task rfl (by decide) (.stopTakes rfl))
    |>.perform (.task 2 .internal) ⟨trivial, trivial⟩
      (.task rfl (by decide) (.stopSends rfl (.inl rfl)))
    |>.perform (.task 2 .internal) ⟨trivial, trivial⟩ (.task rfl (by decide) .stopLocksStatus)
    |>.perform (.task 2 .internal) ⟨trivial, trivial⟩ (.task rfl (by decide) .stopClears)
  exact run

/-- The listener that was stopped has ended, and a second one polls. -/
def restarted : ZenohSystem :=
  { shared :=
      { session := none
        listenerStatus := .running
        listenerStopTx := some 1
        channels := [⟨none, false⟩, .fresh] }
    tasks := [.returned (.ok none), .ended, .returned (.ok none), .returned (.ok none),
      .listener 1 .poll] }

theorem restarted_tracked : restarted.ListenersTracked := by
  have run := stoppedListener_reached
    |>.perform (.task 1 .internal) ⟨trivial, trivial⟩
      (.task rfl (by decide) (.listenerStopped rfl rfl))
    |>.perform (.task 1 .internal) ⟨trivial, trivial⟩ (.task rfl (by decide) .listenerEnds)
    |>.perform (.call .startListener)
      ⟨show ∀ point ∈ _, TaskPoint.underWay point = false by decide, trivial⟩ (.call _)
    |>.perform (.task 3 .internal) ⟨trivial, fun _ => by decide⟩
      (.task rfl (by decide) (.startOpens nofun))
    |>.perform (.task 3 .internal) ⟨trivial, trivial⟩ (.task rfl (by decide) .startLocks)
    |>.perform (.task 3 .internal) ⟨trivial, trivial⟩ (.task rfl (by decide) .startStores)
    |>.perform (.task 3 .internal) ⟨trivial, trivial⟩ (.task rfl (by decide) .startRuns)
    |>.perform (.task 3 .internal) ⟨trivial, trivial⟩ (.spawn rfl)
  have tracked := listenersTracked_of_startsAlone run
  exact tracked

/-- A second listener was started before the first one found out that it was stopped.  The first
one has cleared the status of the second, and a third one has been started. -/
def restartedEarly : ZenohSystem :=
  { shared :=
      { session := none
        listenerStatus := .running
        listenerStopTx := some 2
        channels := [⟨none, false⟩, .fresh, .fresh] }
    tasks := [.returned (.ok none), .ended, .returned (.ok none), .returned (.ok none),
      .listener 1 .poll, .returned (.ok none), .listener 2 .poll] }

/-- Two listeners are left that nothing has told to stop. -/
theorem restartedEarly_untracked :
    Run SystemStep Sequential .new restartedEarly ∧ ¬restartedEarly.ListenersTracked := by
  have run := (stoppedListener_reached.mono fun _ _ met => met.1)
    |>.perform (.call .startListener)
      (show ∀ point ∈ _, TaskPoint.underWay point = false by decide) (.call _)
    |>.perform (.task 3 .internal) trivial (.task rfl (by decide) (.startOpens nofun))
    |>.perform (.task 3 .internal) trivial (.task rfl (by decide) .startLocks)
    |>.perform (.task 3 .internal) trivial (.task rfl (by decide) .startStores)
    |>.perform (.task 3 .internal) trivial (.task rfl (by decide) .startRuns)
    |>.perform (.task 3 .internal) trivial (.spawn rfl)
    |>.perform (.task 1 .internal) trivial (.task rfl (by decide) (.listenerStopped rfl rfl))
    |>.perform (.task 1 .internal) trivial (.task rfl (by decide) .listenerEnds)
    |>.perform (.call .startListener)
      (show ∀ point ∈ _, TaskPoint.underWay point = false by decide) (.call _)
    |>.perform (.task 5 .internal) trivial (.task rfl (by decide) (.startOpens nofun))
    |>.perform (.task 5 .internal) trivial (.task rfl (by decide) .startLocks)
    |>.perform (.task 5 .internal) trivial (.task rfl (by decide) .startStores)
    |>.perform (.task 5 .internal) trivial (.task rfl (by decide) .startRuns)
    |>.perform (.task 5 .internal) trivial (.spawn rfl)
  refine ⟨run, fun tracked => ?_⟩
  have single := tracked.single 4 6 ⟨1, .poll, rfl, rfl, .fresh, rfl, rfl⟩
    ⟨2, .poll, rfl, rfl, .fresh, rfl, rfl⟩
  exact absurd single (by decide)

end Zenoh
end Ferredge
