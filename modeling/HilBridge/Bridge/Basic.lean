import HilBridge.Actuator.Dispatcher
import HilBridge.Connection.Lifecycle
import HilBridge.Lockstep.Wait

/-!
# `HilBridge.Bridge.Basic` — from the simulation to the autopilot and back

The simulation calls the bridge twice in every tick. Before its physics step, `preUpdate` obtains the
actuator state, waiting for the autopilot where lockstep asks for that, and publishes it. After the step,
`postUpdate` sends what the sensors have delivered. In between, samples are handed over as they come.

Both calls first open the link if it is closed and its address known. Whenever it was opened anew, what was
in flight is forgotten. While it cannot be opened nothing is assembled, so that once it can be, only the
newest sample of each category goes out.
-/

namespace HilBridge

/-- A bridge over a link. -/
structure Bridge (L α : Type) where
  assembler : Assembler α
  dispatcher : Dispatcher α
  scheduler : Scheduler
  connection : Connection L α
  messagesSent : Nat

namespace Bridge

variable {L α : Type} [Scalar α]

/-- A bridge that has not started, if the configuration is valid. -/
def configure (c : Config α) (link : L) (names : NameService) :
    Except (ConfigError α) (Bridge L α) := do
  let dispatcher ← Dispatcher.new c
  .ok
    { assembler := .new c (discoverRangeLinks NamingPattern.standard c.rangeSensorLinks)
      dispatcher
      scheduler := .new c
      connection := .new c link names
      messagesSent := 0 }

/-! ## Samples -/

/-- Takes a sample. The first result tells whether it was kept. -/
def onSample (b : Bridge L α) (sample : Sample α) : Bool × Bridge L α :=
  let (kept, assembler) := b.assembler.deliver sample
  (kept, { b with assembler })

/-- Takes an inertial sample whatever its time; the first result is its number. -/
def storeImu (b : Bridge L α) (sample : Stamped (ImuReading α)) : UInt8 × Bridge L α :=
  let (seq, assembler) := b.assembler.storeImu sample
  (seq, { b with assembler })

/-- Takes a distance of a link. The first result tells whether it was kept. -/
def onRange (b : Bridge L α) (link : String) (sample : Stamped α) : Bool × Bridge L α :=
  let (kept, assembler) := b.assembler.deliverRange link sample
  (kept, { b with assembler })

/-! ## The connection -/

/-- Applies a change of the connection. -/
def mapConnection {β : Type} (f : Connection L α → β × Connection L α) (b : Bridge L α) :
    β × Bridge L α :=
  let (result, connection) := f b.connection
  (result, { b with connection })

/-- Forgets what was in flight if the link was opened anew. -/
def syncEpoch (b : Bridge L α) : Bridge L α :=
  match b.scheduler.onEpoch b.connection.epoch with
  | (true, scheduler) => { b with scheduler, assembler := b.assembler.resetSequence }
  | (false, scheduler) => { b with scheduler }

variable [AutopilotLink L α]

/-- Opens the link if that is possible. The first result tells whether it is open. -/
def pollReady (b : Bridge L α) : Bool × Bridge L α :=
  let (ready, b) := b.mapConnection Connection.pollReady
  (ready, b.syncEpoch)

/-- Closes the link and opens it again. -/
def reconnect (b : Bridge L α) : Except BridgeError Unit × Bridge L α :=
  let (result, b) := b.mapConnection Connection.reconnect
  (result, b.syncEpoch)

/-- Stops for good. -/
def shutdown (b : Bridge L α) : Bridge L α :=
  { b with connection := b.connection.shutdown }

/-! ## Before the physics step -/

/-- What a tick's first half came to. -/
structure TickStart (L α : Type) where
  status : SyncStatus
  published : List (Publication α)
  bridge : Bridge L α
  /-- What has not happened yet, counted from the end of the wait. -/
  ahead : List (Burst α)

/--
Obtains the actuator state, while the given bursts happen if there is a wait; the last result are those that
have not happened by its end. There is a wait only after a report went out, so the address is known and no
resolver runs meanwhile.
-/
def awaitControls (b : Bridge L α) (bursts : List (Burst α)) :
    WaitResult α × Bridge L α × List (Burst α) :=
  let c := b.connection
  let heard := Burst.heard (AutopilotLink.isListening c.link) bursts
  let result := b.scheduler.awaitControls c.channel b.dispatcher.receivedFirst c.isShutdown heard
  (result,
   { b with
     scheduler := result.scheduler
     connection :=
       { c with
         channel := result.channel
         isShutdown := c.isShutdown || result.isShutdown
         now := c.now + result.waited } },
   Burst.countedFrom result.waited (bursts.drop (bursts.length - result.ahead.length)))

/-- Applies a command, if there is one. -/
def applyCommand (b : Bridge L α) (command : Option (Command α)) : Bridge L α :=
  match command with
  | some command => { b with dispatcher := (b.dispatcher.apply command).2 }
  | none => b

/-- Before the physics step: obtains the actuator state of the tick and publishes it. -/
def preUpdate (b : Bridge L α) (tick : Tick) (bursts : List (Burst α)) : TickStart L α :=
  if b.connection.isShutdown then ⟨.shutdown, [], b, bursts⟩
  else if tick.paused then ⟨.holding, [], b, bursts⟩
  else
    let (_, b) := b.pollReady
    let (result, b, ahead) := b.awaitControls bursts
    if result.status = .shutdown then ⟨.shutdown, [], b, ahead⟩
    else
      let b := b.applyCommand result.command
      ⟨result.status, b.dispatcher.outputs.publications, b, ahead⟩

/-! ## After the physics step -/

/-- What became of messages that were to go out in turn. -/
structure Sending (L α : Type) where
  /-- Those that the connection was asked to send. -/
  handed : List (Message α)
  /-- Those of them that went out. -/
  sent : List (Message α)
  connection : Connection L α

/-- Sends messages in turn. A message that fails is passed over, and a shutdown ends the sending. -/
def sendAll (c : Connection L α) : List (Message α) → Sending L α
  | [] => ⟨[], [], c⟩
  | message :: rest =>
    match c.send message with
    | (.ok (), c) =>
      let later := sendAll c rest
      ⟨message :: later.handed, message :: later.sent, later.connection⟩
    | (.error .shutdown, c) => ⟨[message], [], c⟩
    | (.error _, c) =>
      let later := sendAll c rest
      { later with handed := message :: later.handed }

/-- The messages of a planned cycle: a heartbeat if one is due, then all reports. -/
def cycleMessages (b : Bridge L α) (plan : CyclePlan) : List (Message α) × Bridge L α :=
  let (beat, scheduler) := b.scheduler.heartbeatDue plan.now
  let (reports, assembler) := b.assembler.assemble plan
  ((if beat then [.heartbeat] else []) ++ reports.map .report, { b with scheduler, assembler })

/-- What a tick's second half came to. -/
structure TickEnd (L α : Type) where
  /-- The messages of the cycle, if there was one. -/
  messages : List (Message α)
  /-- Those that the connection was asked to send. -/
  handed : List (Message α)
  /-- Those that went out. -/
  sent : List (Message α)
  bridge : Bridge L α

/-- Sends the messages of a planned cycle. -/
def runCycle (b : Bridge L α) (plan : CyclePlan) : TickEnd L α :=
  let (messages, b) := b.cycleMessages plan
  let sending := sendAll b.connection messages
  { messages
    handed := sending.handed
    sent := sending.sent
    bridge :=
      { b with
        connection := sending.connection
        scheduler := b.scheduler.markSent plan.now (sending.sent.filterMap Message.imuTime?).getLast?
        messagesSent := b.messagesSent + sending.sent.length } }

/-- Opens the link if that is possible, and plans the tick's cycle if the link is open. -/
def planCycle (b : Bridge L α) (tick : Tick) : Option CyclePlan × Bridge L α :=
  if tick.paused || b.connection.isShutdown then (none, b)
  else
    match b.pollReady with
    | (false, b) => (none, b)
    | (true, b) =>
      let (plan, scheduler) := b.scheduler.planCycle tick
      (plan, { b with scheduler })

/-- After the physics step: sends what is due. -/
def tickEnd (b : Bridge L α) (tick : Tick) : TickEnd L α :=
  match b.planCycle tick with
  | (none, b) => ⟨[], [], [], b⟩
  | (some plan, b) => b.runCycle plan

/-- After the physics step, for the simulation: the first result is the number of messages sent. -/
def postUpdate (b : Bridge L α) (tick : Tick) : Nat × Bridge L α :=
  let e := b.tickEnd tick
  (e.sent.length, e.bridge)

end Bridge

end HilBridge
