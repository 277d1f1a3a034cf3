import Mathlib.Data.Fintype.Card
import Ferredge.Ledger
import Ferredge.Zenoh.Runtime

/-!
# Locks of the Zenoh driver

`start_listener` locks the listener's status and then the sender that stops it; `stop_listener`
locks the two the other way round.  They cannot go on once each of them holds its first lock, and
nothing else stands in the way of a call.
-/

namespace Ferredge
namespace Zenoh

open Locking Transition

/-! ## Who waits for whom -/

/-- The locks that the tasks of the driver hold and wait for. -/
def ZenohSystem.waiting (system : ZenohSystem) : Waiting Nat Lock :=
  { holds := fun index lock =>
      ∃ point, system.tasks[index]? = some point ∧ lock ∈ point.held
    awaits := fun index => system.tasks[index]?.bind TaskPoint.awaits }

/-- The task has nothing left to do. -/
def TaskPoint.finished : TaskPoint → Bool
  | returned _ | ended => true
  | _ => false

/-- Tasks never wait for each other in a circle, and every unfinished task waits, if at all, for
tasks that wait for a task which can take a step. -/
structure ZenohSystem.DeadlockFree (system : ZenohSystem) : Prop where
  uncircled : ¬system.waiting.Deadlock
  progress : ∀ index point, system.tasks[index]? = some point → point.finished = false →
    ∃ last, Relation.ReflTransGen system.waiting.BlockedOn index last ∧
      ∃ label after, SystemStep system (.task last label) after

variable {system before after : ZenohSystem} {shared later : ZenohShared}
  {point next : TaskPoint} {label : StepLabel} {index channel : Nat} {lock : Lock}

/-! ## A lock has one holder -/

/-- A task takes no lock but the one it waits for. -/
theorem TaskStep.held_le (step : TaskStep shared point label later next) (lock : Lock) :
    next.held.count lock ≤ point.held.count lock + if point.awaits = some lock then 1 else 0 := by
  cases step with
  | @stopClears closes => cases closes <;> exact Nat.zero_le _
  | _ => cases lock <;> simp [TaskPoint.held, TaskPoint.awaits]

/-- How many tasks hold the lock. -/
def ZenohSystem.holders (lock : Lock) (system : ZenohSystem) : Nat :=
  Ledger.total (fun point : TaskPoint => point.held.count lock) system.tasks

theorem holders_of_free (free : system.Free lock) : system.holders lock = 0 :=
  Ledger.total_eq_zero fun point member => List.count_eq_zero.mpr (free point member)

theorem holders_step {label : SystemLabel} (exclusive : before.holders lock ≤ 1)
    (step : SystemStep before label after) : after.holders lock ≤ 1 := by
  unfold ZenohSystem.holders at exclusive ⊢
  cases step with
  | call call =>
      have nothing : call.entry.held = [] := by cases call <;> rfl
      rw [Ledger.total_append, Ledger.total_cons, nothing]
      exact exclusive
  | task located free step =>
      obtain ⟨remainder, whole, replaced⟩ :=
        Ledger.total_split (fun point : TaskPoint => point.held.count lock) located
      have moved := step.held_le lock
      dsimp only
      rw [replaced]
      split at moved
      · have unheld := holders_of_free (free lock ‹_›)
        unfold ZenohSystem.holders at unheld
        omega
      · omega
  | spawn located =>
      obtain ⟨remainder, whole, replaced⟩ :=
        Ledger.total_split (fun point : TaskPoint => point.held.count lock) located
      have holdsNothing (channel : Nat) : (TaskPoint.listener channel .poll).held = [] := rfl
      have returnsNothing : (TaskPoint.returned (.ok none)).held = [] := rfl
      dsimp only
      rw [Ledger.total_append, replaced, Ledger.total_cons, Ledger.total_nil, holdsNothing,
        returnsNothing, List.count_nil]
      omega

/-- Whatever the calls do, a lock has at most one holder. -/
theorem holders_le_one (run : Run SystemStep (fun _ _ => True) .new system) (lock : Lock) :
    system.holders lock ≤ 1 :=
  run.invariant (fun system => system.holders lock ≤ 1) (Nat.zero_le 1)
    fun exclusive _ step => holders_step exclusive step

/-! ## A signal always has room -/

/-- The channel whose sender the task has. -/
def TaskPoint.sender : TaskPoint → Option Nat
  | start (.lockStopTx channel) | start (.store channel) | stop _ (.send channel) => some channel
  | _ => none

/-- How often the sender of a channel is stored or had by a task. -/
def ZenohSystem.senders (channel : Nat) (system : ZenohSystem) : Nat :=
  system.shared.listenerStopTx.toList.count channel +
    Ledger.total (fun point : TaskPoint => point.sender.toList.count channel) system.tasks

/-- The channel is open and nothing has been sent on it. -/
def ZenohShared.Unsent (channel : Nat) (shared : ZenohShared) : Prop :=
  ∃ queue, shared.channels[channel]? = some queue ∧ queue.signal = none

/-- There is one sender of each channel, and as long as it is there, nothing has been sent. -/
def ZenohSystem.SendsOnce (system : ZenohSystem) : Prop :=
  ∀ channel, system.senders channel = 0 ∨
    system.senders channel = 1 ∧ system.shared.Unsent channel

theorem ZenohShared.Unsent.setChannel {other : Nat} {queue : StopChannel}
    (unsent : shared.Unsent channel) (kept : other = channel → queue.signal = none) :
    (shared.setChannel other queue).Unsent channel := by
  obtain ⟨present, located, empty⟩ := unsent
  dsimp only [ZenohShared.Unsent, ZenohShared.setChannel]
  by_cases same : other = channel
  · subst same
    have within := (List.getElem?_eq_some_iff.mp located).1
    exact ⟨queue, by rw [List.getElem?_set_self within], kept rfl⟩
  · exact ⟨present, by rw [List.getElem?_set_ne same, located], empty⟩

theorem ZenohShared.Unsent.opened {opened : StopChannel} (unsent : shared.Unsent channel) :
    ({ shared with channels := shared.channels ++ [opened] } : ZenohShared).Unsent channel := by
  obtain ⟨queue, located, empty⟩ := unsent
  have within := (List.getElem?_eq_some_iff.mp located).1
  exact ⟨queue, by rw [List.getElem?_append_left within, located], empty⟩

/-- A sender as the shared state and one task have it. -/
def sendersOf (channel : Nat) (shared : ZenohShared) (point : TaskPoint) : Nat :=
  shared.listenerStopTx.toList.count channel + point.sender.toList.count channel

/-- A step opens a channel with its sender, or leaves no more senders than there were and sends on
no channel whose sender is left. -/
theorem TaskStep.senders (step : TaskStep shared point label later next) (channel : Nat) :
    (shared.channels.length = channel ∧ later.Unsent channel ∧
        sendersOf channel later next ≤ sendersOf channel shared point + 1) ∨
      sendersOf channel later next ≤ sendersOf channel shared point ∧
        (shared.Unsent channel → later.Unsent channel ∨
          sendersOf channel later next < sendersOf channel shared point) := by
  cases step with
  | startOpens =>
      by_cases opened : shared.channels.length = channel
      · refine .inl ⟨opened, ⟨.fresh, ?_, rfl⟩, ?_⟩
        · rw [← opened, List.getElem?_concat_length]
        · exact Nat.add_le_add_left List.count_le_length _
      · refine .inr ⟨?_, fun unsent => .inl unsent.opened⟩
        simp [sendersOf, TaskPoint.sender, opened]
  | @stopSends closes sent queue located room =>
      by_cases same : sent = channel
      · subst same
        have fewer : sendersOf sent (shared.setChannel sent
            { queue with signal := if queue.receiverAlive then some () else queue.signal })
            (.stop closes .lockStatus) < sendersOf sent shared (.stop closes (.send sent)) := by
          simp [sendersOf, TaskPoint.sender, ZenohShared.setChannel]
        exact .inr ⟨fewer.le, fun _ => .inr fewer⟩
      · refine .inr ⟨?_, fun unsent => .inl (unsent.setChannel fun equal => absurd equal same)⟩
        exact Nat.add_le_add_left (Nat.zero_le _) _
  | listenerStopped =>
      exact .inr ⟨Nat.le_refl _, fun unsent => .inl (unsent.setChannel fun _ => rfl)⟩
  | @listenerFails failing queue located =>
      refine .inr ⟨Nat.le_refl _, fun unsent => .inl (unsent.setChannel ?_)⟩
      rintro rfl
      obtain ⟨present, located', empty⟩ := unsent
      cases located.symm.trans located'
      exact empty
  | @stopClears closes =>
      refine .inr ⟨?_, fun unsent => .inl unsent⟩
      cases closes <;> exact Nat.le_refl _
  | startStores =>
      refine .inr ⟨?_, fun unsent => .inl unsent⟩
      simp only [sendersOf, TaskPoint.sender, Option.toList, List.count_nil]
      omega
  | stopTakes stored =>
      refine .inr ⟨?_, fun unsent => .inl unsent⟩
      simp only [sendersOf, TaskPoint.sender, stored, Option.toList, List.count_nil]
      omega
  | _ => exact .inr ⟨by simp [sendersOf, TaskPoint.sender], fun unsent => .inl unsent⟩

theorem sendsOnce_step {label : SystemLabel} (once : before.SendsOnce)
    (step : SystemStep before label after) : after.SendsOnce := by
  intro channel
  have known := once channel
  unfold ZenohSystem.senders at known ⊢
  cases step with
  | call call =>
      have nothing : call.entry.sender = none := by cases call <;> rfl
      rw [Ledger.total_append, Ledger.total_cons, nothing]
      exact known
  | task located free step =>
      obtain ⟨remainder, whole, replaced⟩ :=
        Ledger.total_split (fun point : TaskPoint => point.sender.toList.count channel) located
      have moved := step.senders channel
      dsimp only [sendersOf] at moved ⊢
      rw [replaced]
      rcases moved with ⟨opened, unsent, more⟩ | ⟨fewer, kept⟩
      · rcases known with unknown | ⟨-, queue, located, -⟩
        · refine (Nat.le_one_iff_eq_zero_or_eq_one.mp ?_).imp_right fun single => ⟨single, unsent⟩
          omega
        · have within := (List.getElem?_eq_some_iff.mp located).1
          omega
      · rcases known with unknown | ⟨single, unsent⟩
        · omega
        · rcases kept unsent with unsent | lost
          · refine (Nat.le_one_iff_eq_zero_or_eq_one.mp ?_).imp_right
              fun single => ⟨single, unsent⟩
            omega
          · omega
  | spawn located =>
      obtain ⟨remainder, whole, replaced⟩ :=
        Ledger.total_split (fun point : TaskPoint => point.sender.toList.count channel) located
      have sendsNothing (channel : Nat) : (TaskPoint.start (.spawn channel)).sender = none ∧
          (TaskPoint.listener channel .poll).sender = none := ⟨rfl, rfl⟩
      have returnsNothing : (TaskPoint.returned (.ok none)).sender = none := rfl
      dsimp only at whole ⊢
      rw [Ledger.total_append, replaced, Ledger.total_cons, Ledger.total_nil, returnsNothing,
        (sendsNothing _).2, Option.toList_none, List.count_nil, Nat.add_zero, Nat.add_zero]
      rwa [whole, (sendsNothing _).1, Option.toList_none, List.count_nil] at known

/-- The channel that the task starts or runs a listener on. -/
def TaskPoint.ownChannel : TaskPoint → Option Nat
  | start (.lockStopTx channel) | start (.store channel) | start (.running channel)
  | start (.spawn channel) | listener channel _ => some channel
  | _ => none

/-- Listeners have channels of their driver. -/
def ZenohSystem.Numbered (system : ZenohSystem) : Prop :=
  ∀ point ∈ system.tasks, ∀ channel, point.ownChannel = some channel →
    channel < system.shared.channels.length

theorem TaskStep.channels_length (step : TaskStep shared point label later next) :
    shared.channels.length ≤ later.channels.length := by
  cases step with
  | startOpens => exact List.length_append ▸ Nat.le_add_right _ _
  | stopSends | listenerStopped | listenerFails => exact Nat.le_of_eq List.length_set.symm
  | _ => exact Nat.le_refl _

theorem TaskStep.ownChannel (step : TaskStep shared point label later next)
    (numbered : next.ownChannel = some channel) :
    point.ownChannel = some channel ∨ channel < later.channels.length := by
  cases step with
  | startOpens =>
      obtain rfl := Option.some.inj numbered
      exact .inr (List.length_append ▸ Nat.lt_succ_self _)
  | @stopClears closes => cases closes <;> cases numbered
  | _ => first | exact .inl numbered | cases numbered

theorem numbered_step {label : SystemLabel} (numbered : before.Numbered)
    (step : SystemStep before label after) : after.Numbered := by
  intro point member channel carried
  cases step with
  | call call =>
      rcases List.mem_append.mp member with member | member
      · exact numbered point member channel carried
      · cases List.mem_singleton.mp member
        cases call <;> cases carried
  | task located free step =>
      rcases List.mem_or_eq_of_mem_set member with member | rfl
      · exact (numbered point member channel carried).trans_le step.channels_length
      · rcases step.ownChannel carried with carried | within
        · have within := numbered _ (List.mem_of_getElem? located) channel carried
          exact within.trans_le step.channels_length
        · exact within
  | spawn located =>
      rcases List.mem_append.mp member with member | member
      · rcases List.mem_or_eq_of_mem_set member with member | rfl
        · exact numbered point member channel carried
        · cases carried
      · cases List.mem_singleton.mp member
        obtain rfl := Option.some.inj carried
        exact numbered _ (List.mem_of_getElem? located) _ rfl

/-! ## Who can go on -/

/-- The lock that a task awaits is free if no other task blocks it. -/
theorem free_of_unblocked (located : system.tasks[index]? = some point)
    (unblocked : ∀ holder, ¬system.waiting.BlockedOn index holder) :
    ∀ lock, point.awaits = some lock → system.Free lock := by
  intro lock awaited other member held
  obtain ⟨holder, found⟩ := List.mem_iff_getElem?.mp member
  refine unblocked holder ⟨lock, ?_, other, found, held⟩
  change system.tasks[index]?.bind TaskPoint.awaits = some lock
  rw [located, Option.bind_some, awaited]

/-- A task that has the sender of a channel finds room there: nothing has been sent. -/
theorem unsent_of_sender {channel : Nat} (once : system.SendsOnce)
    (located : system.tasks[index]? = some point) (sender : point.sender = some channel) :
    ∃ queue, system.shared.channels[channel]? = some queue ∧ queue.signal = none := by
  have sends := Ledger.le_total
    (fun point : TaskPoint => point.sender.toList.count channel) (List.mem_of_getElem? located)
  have carried : point.sender.toList.count channel = 1 := by
    rw [sender]
    exact List.count_singleton_self
  rcases once channel with nothing | ⟨-, queue, found, unsent⟩
  · unfold ZenohSystem.senders at nothing
    omega
  · exact ⟨queue, found, unsent⟩

/-- A task that waits for no other one has a step to take, unless it is finished. -/
theorem exists_step (once : system.SendsOnce) (numbered : system.Numbered)
    (located : system.tasks[index]? = some point) (unfinished : point.finished = false)
    (unblocked : ∀ holder, ¬system.waiting.BlockedOn index holder) :
    ∃ label after, SystemStep system (.task index label) after := by
  have free := free_of_unblocked located unblocked
  have opened (channel : Nat) (carried : point.ownChannel = some channel) :
      ∃ queue, system.shared.channels[channel]? = some queue :=
    ⟨_, List.getElem?_eq_getElem (numbered _ (List.mem_of_getElem? located) channel carried)⟩
  cases point with
  | returned | ended => cases unfinished
  | start point =>
      cases point with
      | lockStatus =>
          by_cases running : system.shared.listenerStatus = .running
          · exact ⟨_, _, .task located free (.startRefused running)⟩
          · exact ⟨_, _, .task located free (.startOpens running)⟩
      | lockStopTx => exact ⟨_, _, .task located free .startLocks⟩
      | store => exact ⟨_, _, .task located free .startStores⟩
      | running => exact ⟨_, _, .task located free .startRuns⟩
      | spawn => exact ⟨_, _, .spawn located⟩
  | stop closes point =>
      cases point with
      | lockStopTx => exact ⟨_, _, .task located free .stopLocks⟩
      | take =>
          cases stored : system.shared.listenerStopTx with
          | none => exact ⟨_, _, .task located free (.stopFinds stored)⟩
          | some channel => exact ⟨_, _, .task located free (.stopTakes stored)⟩
      | send channel =>
          obtain ⟨queue, found, unsent⟩ := unsent_of_sender once located rfl
          exact ⟨_, _, .task located free (.stopSends found (.inl unsent))⟩
      | lockStatus => exact ⟨_, _, .task located free .stopLocksStatus⟩
      | stopped => exact ⟨_, _, .task located free .stopClears⟩
  | lockSession => exact ⟨_, _, .task located free .sessionLocks⟩
  | useSession => exact ⟨.answer (.ok []), _, .task located free .sessionAnswered⟩
  | listener channel point =>
      obtain ⟨queue, found⟩ := opened channel rfl
      cases point with
      | poll =>
          cases sent : queue.signal with
          | none => exact ⟨_, _, .task located free (.listenerPolls found sent)⟩
          | some => exact ⟨_, _, .task located free (.listenerStopped found sent)⟩
      | lockSession => exact ⟨_, _, .task located free .listenerLocks⟩
      | drain => exact ⟨_, _, .task located free .listenerDrained⟩
      | sleep => exact ⟨_, _, .task located free .listenerSlept⟩
      | refused => exact ⟨_, _, .task located free (.listenerFails found)⟩
      | exit => exact ⟨_, _, .task located free .listenerEnds⟩

/-! ## The order of the two locks -/

/-- The call has locked the status and waits for the sender. -/
def TaskPoint.starting : TaskPoint → Bool
  | start (.lockStopTx _) => true
  | _ => false

/-- The call has locked the sender and has yet to lock the status. -/
def TaskPoint.stopping : TaskPoint → Bool
  | stop _ .take | stop _ (.send _) | stop _ .lockStatus => true
  | _ => false

/-- A start has its first lock, and so has a stop. -/
def ZenohSystem.Crossing (system : ZenohSystem) : Prop :=
  (∃ point ∈ system.tasks, point.starting = true) ∧ ∃ point ∈ system.tasks, point.stopping = true

/-- A start that locks the status and goes on finds the sender free, and a stop that locks the
sender finds no start that holds the status and waits for the sender. -/
def LocksInTurn (system : ZenohSystem) : SystemLabel → Prop
  | .call _ => True
  | .task index _ =>
      match system.tasks[index]? with
      | some (.start .lockStatus) =>
          system.shared.listenerStatus ≠ .running → system.Free .listenerStopTx
      | some (.stop _ .lockStopTx) => ∀ point ∈ system.tasks, point.starting = false
      | _ => True

theorem TaskPoint.holds_and_awaits {held : Lock} (holds : held ∈ point.held)
    (awaits : point.awaits = some lock) :
    point.starting = true ∧ held = .listenerStatus ∧ lock = .listenerStopTx ∨
      point.stopping = true ∧ held = .listenerStopTx ∧ lock = .listenerStatus := by
  cases point with
  | start point =>
      cases point with
      | lockStopTx channel =>
          obtain rfl := Option.some.inj awaits
          exact .inl ⟨rfl, List.mem_singleton.mp holds, rfl⟩
      | lockStatus => cases holds
      | store | running | spawn => cases awaits
  | stop closes point =>
      cases point with
      | lockStatus =>
          obtain rfl := Option.some.inj awaits
          exact .inr ⟨rfl, List.mem_singleton.mp holds, rfl⟩
      | lockStopTx => cases holds
      | take | send | stopped => cases awaits
  | lockSession => cases holds
  | useSession => cases awaits
  | listener channel point =>
      cases point with
      | drain => cases awaits
      | _ => cases holds
  | returned | ended => cases holds

/-- Unless calls cross, the two locks are ranked. -/
theorem exists_rank (uncrossed : ¬system.Crossing) :
    ∃ rank : Lock → Bool, system.waiting.Ordered rank := by
  have located {index : Nat} {lock : Lock} (awaits : system.waiting.awaits index = some lock)
      {point : TaskPoint} (found : system.tasks[index]? = some point) :
      point.awaits = some lock := by
    change system.tasks[index]?.bind TaskPoint.awaits = some lock at awaits
    rwa [found] at awaits
  by_cases starts : ∃ point ∈ system.tasks, point.starting = true
  · refine ⟨fun lock => decide (lock = .listenerStopTx), ?_⟩
    rintro index held lock ⟨point, found, holds⟩ awaits
    rcases TaskPoint.holds_and_awaits holds (located awaits found) with
      ⟨-, rfl, rfl⟩ | ⟨stopping, -⟩
    · decide
    · exact absurd ⟨starts, point, List.mem_of_getElem? found, stopping⟩ uncrossed
  · refine ⟨fun lock => decide (lock = .listenerStatus), ?_⟩
    rintro index held lock ⟨point, found, holds⟩ awaits
    rcases TaskPoint.holds_and_awaits holds (located awaits found) with
      ⟨starting, -⟩ | ⟨-, rfl, rfl⟩
    · exact absurd ⟨point, List.mem_of_getElem? found, starting⟩ starts
    · decide

theorem TaskStep.starts (step : TaskStep shared point label later next)
    (starts : next.starting = true) :
    point = .start .lockStatus ∧ shared.listenerStatus ≠ .running := by
  cases step with
  | startOpens idle => exact ⟨rfl, idle⟩
  | @stopClears closes => cases closes <;> cases starts
  | _ => cases starts

theorem TaskStep.stops (step : TaskStep shared point label later next)
    (stops : next.stopping = true) :
    point.stopping = true ∨ ∃ closes, point = .stop closes .lockStopTx := by
  cases step with
  | @stopLocks closes => exact .inr ⟨closes, rfl⟩
  | stopTakes | stopFinds | stopSends => exact .inl rfl
  | @stopClears closes => cases closes <;> cases stops
  | _ => cases stops

theorem held_of_stopping (stopping : point.stopping = true) : .listenerStopTx ∈ point.held := by
  cases point with
  | stop closes point =>
      cases point with
      | take | send | lockStatus => exact List.mem_singleton_self _
      | _ => cases stopping
  | _ => cases stopping

theorem held_of_starting (starting : point.starting = true) : .listenerStatus ∈ point.held := by
  cases point with
  | start point =>
      cases point with
      | lockStopTx => exact List.mem_singleton_self _
      | _ => cases starting
  | _ => cases starting

/-- A task that a step adds, or leaves at a point without locks, is not in the way. -/
theorem crossing_of_lockless {tasks : List TaskPoint}
    (added : ∀ point ∈ after.tasks, point ∈ tasks ∨ point.held = [])
    (crossing : after.Crossing) : (⟨shared, tasks⟩ : ZenohSystem).Crossing := by
  obtain ⟨⟨first, member, starts⟩, second, member', stops⟩ := crossing
  refine ⟨⟨first, ?_, starts⟩, second, ?_, stops⟩
  · refine (added first member).resolve_right fun nothing => ?_
    exact absurd (held_of_starting starts) (nothing ▸ List.not_mem_nil)
  · refine (added second member').resolve_right fun nothing => ?_
    exact absurd (held_of_stopping stops) (nothing ▸ List.not_mem_nil)

theorem uncrossed_step {label : SystemLabel} (uncrossed : ¬before.Crossing)
    (inTurn : LocksInTurn before label) (step : SystemStep before label after) :
    ¬after.Crossing := by
  intro crossing
  cases step with
  | call call =>
      refine uncrossed (crossing_of_lockless (fun point member => ?_) crossing)
      refine (List.mem_append.mp member).imp_right fun member => ?_
      cases List.mem_singleton.mp member
      cases call <;> rfl
  | spawn located =>
      refine uncrossed (crossing_of_lockless (fun point member => ?_) crossing)
      rcases List.mem_append.mp member with member | member
      · rcases List.mem_or_eq_of_mem_set member with earlier | rfl
        · exact .inl earlier
        · exact .inr rfl
      · cases List.mem_singleton.mp member
        exact .inr rfl
  | @task index point label shared next located free step =>
      obtain ⟨⟨first, member, starts⟩, second, member', stops⟩ := crossing
      have present := List.mem_of_getElem? located
      dsimp only [LocksInTurn] at inTurn
      rw [located] at inTurn
      rcases List.mem_or_eq_of_mem_set member with earlier | rfl
      · rcases List.mem_or_eq_of_mem_set member' with earlier' | rfl
        · exact uncrossed ⟨⟨first, earlier, starts⟩, second, earlier', stops⟩
        · rcases step.stops stops with stopping | ⟨closes, rfl⟩
          · exact uncrossed ⟨⟨first, earlier, starts⟩, point, present, stopping⟩
          · exact absurd starts (Bool.eq_false_iff.mp (inTurn first earlier))
      · obtain ⟨rfl, idle⟩ := step.starts starts
        rcases List.mem_or_eq_of_mem_set member' with earlier' | rfl
        · exact inTurn idle second earlier' (held_of_stopping stops)
        · obtain ⟨opening, -⟩ | ⟨closes, stopping⟩ := step.stops stops
          · cases stopping

/-- In a run whose calls take the two locks in turn, no calls wait for each other in a circle, and
no call is kept from going on. -/
theorem deadlockFree_of_inTurn (run : Run SystemStep LocksInTurn .new system) :
    system.DeadlockFree := by
  have once : system.SendsOnce :=
    run.invariant ZenohSystem.SendsOnce (fun _ => .inl rfl)
      fun once _ step => sendsOnce_step once step
  have numbered : system.Numbered :=
    run.invariant ZenohSystem.Numbered nofun fun numbered _ step => numbered_step numbered step
  have uncrossed : ¬system.Crossing := by
    refine run.invariant (fun system => ¬system.Crossing) ?_
      fun uncrossed inTurn step => uncrossed_step uncrossed inTurn step
    rintro ⟨⟨_, member, -⟩, -⟩
    cases member
  obtain ⟨rank, ordered⟩ := exists_rank uncrossed
  refine ⟨ordered.not_deadlock, ?_⟩
  intro index point located unfinished
  obtain ⟨last, chain, unblocked⟩ := ordered.released index
  refine ⟨last, chain, ?_⟩
  rcases Relation.ReflTransGen.cases_tail chain with rfl | ⟨earlier, -, lock, -, held⟩
  · exact exists_step once numbered located unfinished unblocked
  · obtain ⟨holder, found, holds⟩ := held
    refine exists_step once numbered found ?_ unblocked
    cases holder with
    | returned | ended => cases holds
    | _ => rfl

/-- A start has stored its sender, and a stop has locked it, before the start leaves the status. -/
def turnsTaken : ZenohSystem :=
  { shared := { ZenohShared.new with listenerStopTx := some 0, channels := [.fresh] }
    tasks := [.start (.running 0), .stop false .take] }

theorem turnsTaken_deadlockFree : turnsTaken.DeadlockFree := by
  have begun : Run SystemStep LocksInTurn .new .new := .refl _
  have run := begun
    |>.perform (.call .startListener) trivial (.call _)
    |>.perform (.call .stopListener) trivial (.call _)
    |>.perform (.task 0 .internal) (fun _ => by decide)
      (.task rfl (by decide) (.startOpens nofun))
    |>.perform (.task 0 .internal) trivial (.task rfl (by decide) .startLocks)
    |>.perform (.task 0 .internal) trivial (.task rfl (by decide) .startStores)
    |>.perform (.task 1 .internal) (show ∀ point ∈ _, TaskPoint.starting point = false by decide)
      (.task rfl (by decide) .stopLocks)
  exact deadlockFree_of_inTurn run

/-- A start has locked the status, and a stop the sender. -/
def locksCrossed : ZenohSystem :=
  { shared := { ZenohShared.new with channels := [.fresh] }
    tasks := [.start (.lockStopTx 0), .stop false .lockStatus] }

/-- Each of the two calls waits for the other. -/
theorem locksCrossed_deadlock :
    Run SystemStep (fun _ _ => True) .new locksCrossed ∧
      locksCrossed.waiting.BlockedOn 0 1 ∧ locksCrossed.waiting.BlockedOn 1 0 ∧
      ¬locksCrossed.DeadlockFree := by
  have begun : Run SystemStep (fun _ _ => True) .new .new := .refl _
  have run := begun
    |>.perform (.call .startListener) trivial (.call _)
    |>.perform (.call .stopListener) trivial (.call _)
    |>.perform (.task 0 .internal) trivial (.task rfl (by decide) (.startOpens nofun))
    |>.perform (.task 1 .internal) trivial (.task rfl (by decide) .stopLocks)
    |>.perform (.task 1 .internal) trivial (.task rfl (by decide) (.stopFinds rfl))
  have startWaits : locksCrossed.waiting.BlockedOn 0 1 :=
    ⟨.listenerStopTx, rfl, _, rfl, List.mem_singleton_self _⟩
  have stopWaits : locksCrossed.waiting.BlockedOn 1 0 :=
    ⟨.listenerStatus, rfl, _, rfl, List.mem_singleton_self _⟩
  refine ⟨run, startWaits, stopWaits, fun deadlockFree => ?_⟩
  exact deadlockFree.uncircled (Waiting.deadlock_of_circle startWaits stopWaits)

end Zenoh
end Ferredge
