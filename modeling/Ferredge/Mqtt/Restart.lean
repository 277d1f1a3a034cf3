import Ferredge.Mqtt.DriverStep

/-!
# Listeners that are started again

All listeners of a driver share one flag and one slot for the sender of their command channel.  A
listener that ends clears both, whoever set them last.
-/

namespace Ferredge
namespace Mqtt

open Transition

variable {stack : MqttStack}

/-! ## What a listener leaves behind -/

/-- The task has yet to open a channel, to start or to run a listener, or to clear the sender of one
that it has stopped.  A listener that is about to drop its channel is past all this. -/
def TaskPoint.engaged : TaskPoint stack → Bool
  | openChannel | spawn _ | connect (.reconnect _ _) _ | stop _ .sender => true
  | listener _ .exitClose => false
  | listener _ _ => true
  | _ => false

/-- Nothing is left to do for a listener that was started before. -/
def DriverSystem.Quiet (system : DriverSystem stack) : Prop :=
  ∀ point ∈ system.tasks, point.engaged = false

/-- A stop begins, or the listener on the channel fails: its sink refuses an event, or it gives up
to reconnect. -/
inductive TaskPoint.Ends (channel : Nat) : TaskPoint stack → StepLabel stack → Prop
  | stopped {disconnects} : Ends channel (.stop disconnects .flag) .internal
  | refused {event events} :
      Ends channel (.listener channel (.forward (event :: events))) (.sink false)
  | refusedRecovered {locals event events} :
      Ends channel (.listener channel (.forwardRecovered locals (event :: events))) (.sink false)
  | givenUp {locals} : Ends channel (.listener channel (.reconnectGivenUp locals)) .internal

/-- The step neither stops the listener on the channel nor is its failure. -/
def LeavesRunning (channel : Nat) (system : DriverSystem stack)
    (label : Nat × StepLabel stack) : Prop :=
  ∀ point, system.tasks[label.1]? = some point → ¬point.Ends channel label.2

/-- The sender that calls find is that of the channel, and its receiver is alive. -/
def DriverShared.Opened (channel : Nat) (shared : DriverShared stack) : Prop :=
  shared.listenerCommandSender = some channel ∧
    ∃ queue, shared.channels[channel]? = some queue ∧ queue.receiverAlive = true

/-! ## Channels are numbered -/

/-- The channel of a listener that reconnects. -/
def ConnectPurpose.owner : ConnectPurpose stack → Option Nat
  | reconnect channel _ => some channel
  | _ => none

/-- The channel of the listener that the task starts or runs. -/
def TaskPoint.owner : TaskPoint stack → Option Nat
  | spawn channel | listener channel _ => some channel
  | connect purpose _ => purpose.owner
  | _ => none

variable {config : MqttEndpointConfig} {shared later : DriverShared stack}
  {point next : TaskPoint stack} {label : StepLabel stack} {channel : Nat}

theorem owner_afterConnect (purpose : ConnectPurpose stack) (result : Except String Unit) :
    (afterConnect purpose result).owner = purpose.owner := by
  cases purpose <;> cases result <;> rfl

theorem owner_onward {purpose : ConnectPurpose stack} (onward : purpose.Onward next) :
    next.owner = purpose.owner := by
  cases onward with
  | stays => rfl
  | returns => exact owner_afterConnect _ _

theorem owner_closeFailed (point : TaskPoint stack) : point.closeFailed.owner = point.owner := by
  cases point with
  | connect purpose point => cases purpose <;> rfl
  | _ => rfl

/-- A step adds a channel where it opens one, and takes none away. -/
theorem TaskStep.channels_length (step : TaskStep config shared point label later next) :
    later.channels.length = shared.channels.length ∨
      point = .openChannel ∧ later.channels.length = shared.channels.length + 1 := by
  cases step with
  | openChannel => exact .inr ⟨rfl, List.length_append⟩
  | sendCommand | receiveCommand | exitClose => exact .inl List.length_set
  | _ => exact .inl rfl

/-- A task keeps the channel of its listener, or has just opened it. -/
theorem TaskStep.owner (step : TaskStep config shared point label later next) (owner : Nat)
    (owned : next.owner = some owner) :
    point.owner = some owner ∨ owner < later.channels.length := by
  cases step with
  | connectFound | connectUnbuilt | connectInstall =>
      exact .inl ((owner_afterConnect _ _).symm.trans owned)
  | connectDial => exact .inl ((owner_onward (onward_afterDial _ _ _)).symm.trans owned)
  | connectHello => exact .inl ((owner_onward (onward_afterHello _ _)).symm.trans owned)
  | connectRead => exact .inl ((owner_onward (onward_afterRound _ _)).symm.trans owned)
  | peerCloses => exact .inl ((owner_closeFailed _).symm.trans owned)
  | openChannel =>
      obtain rfl := Option.some.inj owned
      refine .inr ?_
      dsimp only
      rw [List.length_append]
      exact Nat.lt_succ_self _
  | @reply call response earlier rest posted =>
      rcases response with error | (_ | events)
      · cases owned
      · cases owned
      · change (ite _ _ _ : TaskPoint stack).owner = _ at owned
        split at owned <;> cases owned
  | @directSend call session input sent sends =>
      obtain ⟨error | _, state⟩ := sent <;> cases owned
  | @directAck call session input answer reads =>
      obtain ⟨error | messages, state⟩ := answer <;> cases owned
  | _ => first | exact .inl owned | cases owned

/-- The listeners that tasks start or run have channels of their driver. -/
def DriverSystem.Numbered (system : DriverSystem stack) : Prop :=
  ∀ point ∈ system.tasks, ∀ owner, point.owner = some owner → owner < system.shared.channels.length

theorem numbered_step {before after : DriverSystem stack} {label : Nat × StepLabel stack}
    (numbered : before.Numbered) (step : SystemStep config before label after) :
    after.Numbered := by
  cases step with
  | @task index point label shared next located step =>
      have grown : before.shared.channels.length ≤ shared.channels.length := by
        rcases step.channels_length with same | ⟨-, longer⟩
        · exact Nat.le_of_eq same.symm
        · exact longer ▸ Nat.le_succ _
      intro other member owner owned
      rcases List.mem_or_eq_of_mem_set member with member | rfl
      · exact Nat.lt_of_lt_of_le (numbered other member owner owned) grown
      · rcases step.owner owner owned with kept | opened
        · have known := numbered point (List.mem_of_getElem? located) owner kept
          exact Nat.lt_of_lt_of_le known grown
        · exact opened
  | @spawn index channel located =>
      have known := numbered _ (List.mem_of_getElem? located) channel rfl
      intro other member owner owned
      rcases List.mem_append.mp member with member | member
      · rcases List.mem_or_eq_of_mem_set member with member | rfl
        · exact numbered other member owner owned
        · cases owned
      · obtain rfl := List.mem_singleton.mp member
        cases owned
        exact known

theorem numbered_begin (operations : List DriverOperation) :
    (DriverSystem.begin operations : DriverSystem stack).Numbered := by
  intro point begun owner owned
  have unowned : point.owner = none :=
    forall_begin (fun point => point.owner = none) operations rfl rfl (fun _ => rfl)
      (fun _ => rfl) (fun _ => rfl) point begun
  cases unowned.symm.trans owned

/-! ## Tasks that spare a listener -/

/-- A listener task spares the listener on a channel that is not its own once it only has to drop
its own; its own listener it runs without ending it. -/
def ListenerPoint.Spares (channel owner : Nat) : ListenerPoint stack → Prop
  | exitSender | exitRunning => False
  | exitClose => owner ≠ channel
  | _ => owner = channel

/-- The task leaves the flag and the sender to the listener on the channel. -/
def TaskPoint.Spares (channel : Nat) : TaskPoint stack → Prop
  | spawn opened => opened = channel
  | connect purpose _ => ∀ owner, purpose.owner = some owner → owner = channel
  | listener owner point => point.Spares channel owner
  | stop _ .sender => False
  | _ => True

theorem spares_of_quiet (quiet : point.engaged = false)
    (other : ∀ owner, point.owner = some owner → owner ≠ channel) : point.Spares channel := by
  cases point with
  | spawn => cases quiet
  | connect purpose point =>
      intro owner owned
      cases purpose with
      | reconnect => cases quiet
      | start | listening | call => cases owned
  | listener owner point =>
      cases point with
      | exitClose => exact other owner rfl
      | _ => cases quiet
  | stop disconnects point =>
      cases point with
      | sender => cases quiet
      | _ => trivial
  | _ => trivial

theorem spares_afterConnect {purpose : ConnectPurpose stack} (result : Except String Unit)
    (spares : ∀ owner, purpose.owner = some owner → owner = channel) :
    (afterConnect purpose result).Spares channel := by
  cases purpose with
  | reconnect owner locals => cases result <;> exact spares owner rfl
  | start | listening | call => cases result <;> trivial

theorem spares_onward {purpose : ConnectPurpose stack}
    (spares : ∀ owner, purpose.owner = some owner → owner = channel)
    (onward : purpose.Onward next) : next.Spares channel := by
  cases onward with
  | stays => exact spares
  | returns => exact spares_afterConnect _ spares

theorem spares_closeFailed (spares : point.Spares channel) :
    point.closeFailed.Spares channel := by
  cases point with
  | connect purpose point => cases purpose <;> exact spares
  | listener owner point => cases point <;> exact spares
  | _ => exact spares

/-- While the listener on a channel runs, the tasks that spare it go on doing so. -/
theorem TaskStep.spares (step : TaskStep config shared point label later next)
    (running : shared.listenerRunning = true) (lasts : ¬point.Ends channel label)
    (opening : point = .openChannel → shared.channels.length = channel)
    (spares : point.Spares channel) : next.Spares channel := by
  cases step with
  | connectFound | connectUnbuilt | connectInstall => exact spares_afterConnect _ spares
  | connectDial => exact spares_onward spares (onward_afterDial _ _ _)
  | connectHello => exact spares_onward spares (onward_afterHello _ _)
  | connectRead => exact spares_onward spares (onward_afterRound _ _)
  | peerCloses => exact spares_closeFailed spares
  | openChannel => exact opening rfl
  | @reply call response earlier rest posted =>
      rcases response with error | (_ | events)
      · trivial
      · trivial
      · change (ite _ _ _ : TaskPoint stack).Spares _
        split <;> trivial
  | @directSend call session input sent sends => obtain ⟨error | _, state⟩ := sent <;> trivial
  | @directAck call session input answer reads =>
      obtain ⟨error | messages, state⟩ := answer <;> trivial
  | @commandSend channel session command input sent sends =>
      obtain ⟨error | _, state⟩ := sent <;> exact spares
  | @commandAck channel session command input answer reads =>
      obtain ⟨error | messages, state⟩ := answer <;> exact spares
  | @respond channel session command response => cases response <;> exact spares
  | @poll channel session input answer reads =>
      obtain ⟨error | messages, state⟩ := answer <;> exact spares
  | @recovered channel locals replay =>
      unfold afterRecovered
      split <;> exact spares
  | @replaySubscription channel locals session request requests queued recovered input sent sends =>
      obtain ⟨error | _, state⟩ := sent <;> exact spares
  | @replayRequest channel locals session subscriptions entry entries recovered input sent sends =>
      obtain ⟨error | _, state⟩ := sent <;> exact spares
  | @replaySubscriptionAck channel locals replay input answer reads =>
      obtain ⟨error | messages, state⟩ := answer <;> exact spares
  | @replayRequestAck channel locals replay input answer reads =>
      obtain ⟨error | messages, state⟩ := answer <;> exact spares
  | listenEnds stopped | sleptThroughStop stopped | endedByStop stopped =>
      rw [running] at stopped
      cases stopped
  | forwardRefused =>
      obtain rfl := spares
      exact absurd .refused lasts
  | forwardRecoveredRefused =>
      obtain rfl := spares
      exact absurd .refusedRecovered lasts
  | reconnectGivenUp =>
      obtain rfl := spares
      exact absurd .givenUp lasts
  | stopFlag => exact absurd .stopped lasts
  | direct => exact nofun
  | reconnect =>
      rintro owner ⟨⟩
      exact spares
  | _ => first | exact spares | trivial

/-! ## A listener that lasts -/

/-- While the listener on a channel runs, no task that spares it clears the flag. -/
theorem TaskStep.staysRunning (step : TaskStep config shared point label later next)
    (running : shared.listenerRunning = true) (lasts : ¬point.Ends channel label)
    (spares : point.Spares channel) : later.listenerRunning = true := by
  cases step with
  | forwardRefused =>
      obtain rfl := spares
      exact absurd .refused lasts
  | forwardRecoveredRefused =>
      obtain rfl := spares
      exact absurd .refusedRecovered lasts
  | reconnectGivenUp =>
      obtain rfl := spares
      exact absurd .givenUp lasts
  | stopFlag => exact absurd .stopped lasts
  | exitRunning => cases spares
  | swapRunning => rfl
  | _ => exact running

/-- While a listener runs, no other comes to open a channel. -/
theorem TaskStep.unopened (step : TaskStep config shared point label later next)
    (running : shared.listenerRunning = true) (opens : next = .openChannel) :
    point = .openChannel ∧ later = shared := by
  have enters : next.enters = true := by
    rw [opens]
    rfl
  rcases step.enters enters with ⟨same, unchanged⟩ | ⟨-, stopped⟩
  · exact ⟨same.symm.trans opens, unchanged⟩
  · rw [running] at stopped
    cases stopped

theorem DriverShared.Opened.setChannel {other : Nat} {queue : CommandChannel}
    (opened : shared.Opened channel) (alive : other = channel → queue.receiverAlive = true) :
    (shared.setChannel other queue).Opened channel := by
  obtain ⟨stored, known, located, listening⟩ := opened
  refine ⟨stored, ?_⟩
  by_cases same : other = channel
  · subst same
    have bounded := List.getElem?_eq_some_iff.mp located |>.1
    exact ⟨queue, List.getElem?_set_self bounded, alive rfl⟩
  · exact ⟨known, (List.getElem?_set_ne same).trans located, listening⟩

/-- A task that spares the listener on a channel leaves its sender, and its receiver alive. -/
theorem TaskStep.opened (step : TaskStep config shared point label later next)
    (spares : point.Spares channel) (other : point ≠ .openChannel)
    (opened : shared.Opened channel) : later.Opened channel := by
  cases step with
  | openChannel => exact absurd rfl other
  | exitSender | stopSender => cases spares
  | sendCommand located alive => exact opened.setChannel fun _ => alive
  | @receiveCommand channel session queue command commands located =>
      refine opened.setChannel ?_
      rintro rfl
      obtain ⟨-, known, found, alive⟩ := opened
      cases located.symm.trans found
      exact alive
  | exitClose => exact opened.setChannel fun same => absurd same spares
  | _ => exact opened

/-- The task that opens a channel is handed the number of the listener. -/
theorem TaskStep.opens (step : TaskStep config shared .openChannel label later next)
    (number : shared.channels.length = channel) :
    next = .openChannel ∨ later.Opened channel := by
  cases step with
  | openChannel =>
      subst number
      exact .inr ⟨rfl, _, List.getElem?_concat_length, rfl⟩
  | peerCloses => exact .inl rfl

/-- Since the task has set the flag, the driver listens on the channel, or is about to open it. -/
structure DriverSystem.Listens (index channel : Nat) (system : DriverSystem stack) : Prop where
  running : system.shared.listenerRunning = true
  spared : ∀ point ∈ system.tasks, point.Spares channel
  opening : ∀ other, system.tasks[other]? = some .openChannel →
    other = index ∧ system.shared.channels.length = channel
  opened : system.tasks[index]? = some .openChannel ∨ system.shared.Opened channel

theorem listens_task {system : DriverSystem stack} {index moved : Nat}
    (listens : system.Listens index channel) (located : system.tasks[moved]? = some point)
    (step : TaskStep config system.shared point label later next)
    (lasts : ¬point.Ends channel label) :
    DriverSystem.Listens index channel
      { shared := later, tasks := system.tasks.set moved next } := by
  have spares := listens.spared point (List.mem_of_getElem? located)
  have bounded : moved < system.tasks.length := (List.getElem?_eq_some_iff.mp located).1
  refine ⟨step.staysRunning listens.running lasts spares, ?_, ?_, ?_⟩
  · intro other member
    rcases List.mem_or_eq_of_mem_set member with member | rfl
    · exact listens.spared other member
    · refine step.spares listens.running lasts ?_ spares
      rintro rfl
      exact (listens.opening moved located).2
  · intro other opens
    dsimp only at opens ⊢
    by_cases same : moved = other
    · subst same
      rw [List.getElem?_set_self bounded] at opens
      obtain ⟨rfl, rfl⟩ := step.unopened listens.running (Option.some.inj opens)
      exact listens.opening moved located
    · rw [List.getElem?_set_ne same] at opens
      obtain ⟨rfl, number⟩ := listens.opening other opens
      rcases step.channels_length with kept | ⟨rfl, -⟩
      · exact ⟨rfl, kept.trans number⟩
      · exact absurd (listens.opening moved located).1 same
  · dsimp only
    by_cases opens : point = .openChannel
    · subst opens
      obtain ⟨rfl, number⟩ := listens.opening moved located
      rw [List.getElem?_set_self bounded]
      exact (step.opens number).imp_left (congrArg some)
    · refine listens.opened.imp (fun waiting => ?_) (step.opened spares opens)
      have apart : moved ≠ index := by
        rintro rfl
        exact opens (Option.some.inj (located.symm.trans waiting))
      rw [List.getElem?_set_ne apart]
      exact waiting

theorem listens_spawn {system : DriverSystem stack} {index moved owner : Nat}
    (listens : system.Listens index channel)
    (located : system.tasks[moved]? = some (.spawn owner)) :
    DriverSystem.Listens index channel
      { shared := system.shared
        tasks := system.tasks.set moved (.storeHandle owner) ++ [.listener owner .loopTest] } := by
  have spares : owner = channel := listens.spared _ (List.mem_of_getElem? located)
  have bounded : moved < system.tasks.length := (List.getElem?_eq_some_iff.mp located).1
  refine ⟨listens.running, ?_, ?_, ?_⟩
  · intro other member
    rcases List.mem_append.mp member with member | member
    · rcases List.mem_or_eq_of_mem_set member with member | rfl
      · exact listens.spared other member
      · trivial
    · obtain rfl := List.mem_singleton.mp member
      exact spares
  · intro other opens
    dsimp only at opens ⊢
    rw [List.getElem?_append] at opens
    split at opens
    · by_cases same : moved = other
      · subst same
        rw [List.getElem?_set_self bounded] at opens
        cases opens
      · rw [List.getElem?_set_ne same] at opens
        exact listens.opening other opens
    · cases List.mem_singleton.mp (List.mem_of_getElem? opens)
  · refine listens.opened.imp_left fun waiting => ?_
    have apart : moved ≠ index := by
      rintro rfl
      cases located.symm.trans waiting
    have listed : (system.tasks.set moved (.storeHandle owner))[index]? = some .openChannel :=
      (List.getElem?_set_ne apart).trans waiting
    exact (List.getElem?_append_left (List.getElem?_eq_some_iff.mp listed).1).trans listed

theorem listens_step {before after : DriverSystem stack} {label : Nat × StepLabel stack}
    {index : Nat} (listens : before.Listens index channel)
    (leaves : LeavesRunning channel before label) (step : SystemStep config before label after) :
    after.Listens index channel := by
  cases step with
  | task located step => exact listens_task listens located step (leaves _ located)
  | spawn located => exact listens_spawn listens located

theorem listens_restart {system restarted : DriverSystem stack} {index : Nat}
    (located : system.tasks[index]? = some .swapRunning)
    (stopped : system.shared.listenerRunning = false) (quiet : system.Quiet)
    (numbered : system.Numbered)
    (restart : SystemStep config system (index, .internal) restarted) :
    restarted.Listens index system.shared.channels.length := by
  have bounded : index < system.tasks.length := (List.getElem?_eq_some_iff.mp located).1
  cases restart with
  | spawn found => cases located.symm.trans found
  | task found step =>
      cases located.symm.trans found
      cases step with
      | alreadyRunning running =>
          rw [stopped] at running
          cases running
      | swapRunning =>
          refine ⟨rfl, ?_, ?_, .inl (List.getElem?_set_self bounded)⟩
          · intro other member
            rcases List.mem_or_eq_of_mem_set member with member | rfl
            · exact spares_of_quiet (quiet other member) fun owner owned =>
                Nat.ne_of_lt (numbered other member owner owned)
            · trivial
          · intro other opens
            by_cases same : index = other
            · exact ⟨same.symm, rfl⟩
            · dsimp only at opens
              rw [List.getElem?_set_ne same] at opens
              cases quiet _ (List.mem_of_getElem? opens)

/-- A listener that is started while nothing is left to do for an earlier one keeps the flag and the
sender for as long as it is neither stopped nor fails. -/
theorem listens_of_quiet {operations : List DriverOperation}
    {system restarted later : DriverSystem stack} {index : Nat}
    (run : Run (SystemStep config) (fun _ _ => True) (.begin operations) system)
    (located : system.tasks[index]? = some .swapRunning)
    (stopped : system.shared.listenerRunning = false) (quiet : system.Quiet)
    (restart : SystemStep config system (index, .internal) restarted)
    (listening : Run (SystemStep config) (LeavesRunning system.shared.channels.length)
      restarted later) :
    later.shared.listenerRunning = true ∧
      (later.tasks[index]? = some .openChannel ∨
        later.shared.Opened system.shared.channels.length) := by
  have numbered : system.Numbered :=
    run.invariant DriverSystem.Numbered (numbered_begin operations) fun numbered _ step =>
      numbered_step numbered step
  have begun := listens_restart located stopped quiet numbered restart
  have listens := listening.invariant (DriverSystem.Listens index system.shared.channels.length)
    begun fun listens leaves step => listens_step listens leaves step
  exact ⟨listens.running, listens.opened⟩

/-! ## Starting again after a refused event -/

/-- A driver whose first listener has failed on an event that its sink refused and is about to clear
the sender, with a second listener about to be started. -/
def endingDriver : DriverSystem echoStack :=
  { shared :=
      { (DriverShared.new : DriverShared echoStack) with
        session := some
          { echoSession with
            stream :=
              { echoSession.stream with
                packetsReceived := [.v5Connack 0 [], .other publishedEvent] }
            lastActivity := 2 }
        negotiatedConnack := some { reasonCode := some "Success", reasonString := none }
        listenerHandle := some 0
        listenerCommandSender := some 0
        channels := [{ commands := [], receiverAlive := true }]
        delivered := [publishedEvent] }
    tasks := [.finished, .swapRunning, .listener 0 .exitSender] }

theorem endingDriver_reached :
    Run (SystemStep brokerDevice.endpoint) (fun _ _ => True)
      (.begin [.startListening, .startListening]) endingDriver := by
  have begun : Run (SystemStep brokerDevice.endpoint) (fun _ _ => True)
      (.begin [.startListening, .startListening])
      (.begin [.startListening, .startListening] : DriverSystem echoStack) := .refl _
  have run := begun
    |>.perform (0, .internal) trivial (.task rfl (.connectEmpty rfl))
    |>.perform (0, .dial (.opened 0)) trivial (.task rfl .connectDial)
    |>.perform (0, .hello (.ok [])) trivial (.task rfl (.connectHello rfl))
    |>.perform (0, .read acceptedRead) trivial (.task rfl (.connectRead rfl))
    |>.perform (0, .internal) trivial (.task rfl .connectInstall)
    |>.perform (0, .internal) trivial (.task rfl (.swapRunning rfl))
    |>.perform (0, .internal) trivial (.task rfl .openChannel)
    |>.perform (0, .internal) trivial (.spawn rfl)
    |>.perform (0, .internal) trivial (.task rfl .storeHandle)
    |>.perform (2, .internal) trivial (.task rfl (.listen rfl))
    |>.perform (2, .internal) trivial (.task rfl (.take rfl))
    |>.perform (2, .internal) trivial (.task rfl (.drained rfl rfl))
    |>.perform (2, .read publishedRead) trivial (.task rfl (.poll rfl))
    |>.perform (2, .internal) trivial (.task rfl .restore)
    |>.perform (2, .sink false) trivial (.task rfl .forwardRefused)
    |>.perform (2, .internal) trivial (.task rfl (.listenEnds rfl))
    |>.perform (1, .internal) trivial (.task rfl (.connectFound rfl))
  exact run

/-- The driver once the second listener is started before the first has cleared the sender. -/
def restartedEarly : DriverSystem echoStack :=
  { shared := { endingDriver.shared with listenerRunning := true }
    tasks := [.finished, .openChannel, .listener 0 .exitSender] }

/-- The first listener clears the flag and the sender of the second, which runs. -/
theorem restartedEarly_silenced :
    Run (SystemStep brokerDevice.endpoint) (fun _ _ => True)
        (.begin [.startListening, .startListening]) endingDriver ∧
      endingDriver.tasks[1]? = some .swapRunning ∧
      endingDriver.shared.listenerRunning = false ∧
      SystemStep brokerDevice.endpoint endingDriver (1, .internal) restartedEarly ∧
      ∃ later, Run (SystemStep brokerDevice.endpoint)
          (LeavesRunning endingDriver.shared.channels.length) restartedEarly later ∧
        later.tasks[1]? = some .finished ∧ later.shared.listenerRunning = false ∧
        later.shared.listenerCommandSender = none := by
  have restarted : Run (SystemStep brokerDevice.endpoint)
      (LeavesRunning endingDriver.shared.channels.length) restartedEarly restartedEarly := .refl _
  have run := restarted
    |>.perform (1, .internal) (by rintro _ ⟨⟩ ⟨⟩) (.task rfl .openChannel)
    |>.perform (1, .internal) (by rintro _ ⟨⟩ ⟨⟩) (.spawn rfl)
    |>.perform (1, .internal) (by rintro _ ⟨⟩ ⟨⟩) (.task rfl .storeHandle)
    |>.perform (2, .internal) (by rintro _ ⟨⟩ ⟨⟩) (.task rfl .exitSender)
    |>.perform (2, .internal) (by rintro _ ⟨⟩ ⟨⟩) (.task rfl .exitRunning)
  exact ⟨endingDriver_reached, rfl, rfl, .task rfl (.swapRunning rfl), _, run, rfl, rfl, rfl⟩

/-- The driver once the first listener has cleared flag and sender. -/
def endedDriver : DriverSystem echoStack :=
  { shared := { endingDriver.shared with listenerCommandSender := none }
    tasks := [.finished, .swapRunning, .listener 0 .exitClose] }

/-- The driver once the second listener is started, with the first still to drop its channel. -/
def restartedLate : DriverSystem echoStack :=
  { shared := { endedDriver.shared with listenerRunning := true }
    tasks := [.finished, .openChannel, .listener 0 .exitClose] }

/-- The second listener outlasts the first, which drops its channel after the start. -/
theorem endedDriver_listens :
    ∃ later : DriverSystem echoStack, later.tasks[1]? = some .finished ∧
      later.tasks[2]? = some .finished ∧ later.shared.listenerRunning = true ∧
      (later.tasks[1]? = some .openChannel ∨ later.shared.Opened 1) := by
  have run := endingDriver_reached
    |>.perform (2, .internal) trivial (.task rfl .exitSender)
    |>.perform (2, .internal) trivial (.task rfl .exitRunning)
  have ended : Run (SystemStep brokerDevice.endpoint) (fun _ _ => True)
      (.begin [.startListening, .startListening]) endedDriver := run
  have quiet : endedDriver.Quiet := by
    intro point member
    simp only [endedDriver, List.mem_cons, List.not_mem_nil, or_false] at member
    rcases member with rfl | rfl | rfl <;> rfl
  have located : endedDriver.tasks[1]? = some .swapRunning := rfl
  have restart : SystemStep brokerDevice.endpoint endedDriver (1, .internal) restartedLate :=
    .task rfl (.swapRunning rfl)
  have restarted : Run (SystemStep brokerDevice.endpoint)
      (LeavesRunning endedDriver.shared.channels.length) restartedLate restartedLate := .refl _
  have listening := restarted
    |>.perform (1, .internal) (by rintro _ ⟨⟩ ⟨⟩) (.task rfl .openChannel)
    |>.perform (1, .internal) (by rintro _ ⟨⟩ ⟨⟩) (.spawn rfl)
    |>.perform (1, .internal) (by rintro _ ⟨⟩ ⟨⟩) (.task rfl .storeHandle)
    |>.perform (2, .internal) (by rintro _ ⟨⟩ ⟨⟩) (.task rfl (.exitClose rfl))
  exact ⟨_, rfl, rfl, listens_of_quiet ended located rfl quiet restart listening⟩

end Mqtt
end Ferredge
