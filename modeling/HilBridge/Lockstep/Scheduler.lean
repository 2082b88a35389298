import HilBridge.Lockstep.CommandChannel
import HilBridge.Lockstep.Tick
import HilBridge.Number.Decimal
import HilBridge.Sensor.Assembler
import HilBridge.Text.Duration

/-!
# `HilBridge.Lockstep.Scheduler` — what each tick sends, and what it waits for

Outside lockstep the simulation runs at its own pace and reports go out at fixed intervals of simulation
time. In lockstep the inertial report goes out in every so many cycles, and the tick after it waits for the
autopilot's answer: the command stamped with the time of that report or a later one.

The scheduler holds the timetable of both and remembers which report is still unanswered. It knows nothing
of the link but its epoch, the number of times it was opened, and forgets what was in flight when that
changes.
-/

namespace HilBridge

/-- Who sets the pace. -/
inductive TimeMode where
  /-- The simulation, at so many simulated seconds per second. -/
  | freeRunning (speedFactor : Float)
  /-- The autopilot, waited for up to so many milliseconds. -/
  | lockstep (timeoutMs : Nat)

namespace TimeMode

/-- The mode that a configuration asks for. -/
def ofConfig {α : Type} (c : Config α) : TimeMode :=
  if c.lockstep then .lockstep c.lockstepTimeoutMs else .freeRunning c.speedFactor

/-- Simulated time as fast as real time. -/
def default : TimeMode :=
  .freeRunning 1.0

def isLockstep : TimeMode → Bool
  | .freeRunning _ => false
  | .lockstep _ => true

/-- The mode for logs. -/
def describe : TimeMode → String
  | .freeRunning speedFactor =>
    "FreeRunning \x7b speed_factor: " ++ Binary64.debugText speedFactor ++ " \x7d"
  | .lockstep timeoutMs => "Lockstep \x7b timeout: " ++ Text.milliseconds timeoutMs ++ " \x7d"

end TimeMode

/-- How the actuator state of a tick was obtained. -/
inductive SyncStatus where
  /-- Whatever had arrived was taken. -/
  | freeRunning
  /-- The answer to the last report arrived. -/
  | acknowledged
  /-- There was nothing to wait for, or only a late answer came. -/
  | holding
  /-- No answer came in time. -/
  | timedOut
  | shutdown
  deriving Repr, DecidableEq

/-- The status in words. -/
def SyncStatus.name : SyncStatus → String
  | .freeRunning => "FreeRunning"
  | .acknowledged => "Acknowledged"
  | .holding => "Holding"
  | .timedOut => "TimedOut"
  | .shutdown => "Shutdown"

/-- Counts of cycles and answers. -/
structure LockstepStats where
  cycles : Nat
  acknowledged : Nat
  timeouts : Nat
  /-- Answers stamped before the last report. -/
  late : Nat
  /-- Whether a timeout has happened since the last answer. -/
  degraded : Bool
  deriving Repr, DecidableEq

/-- The timetable and what is in flight. -/
structure Scheduler where
  mode : TimeMode
  skipFactor : Nat
  imuInterval : Nat
  heartbeatInterval : Nat
  lastPlanned : Option Nat
  lastImuSent : Option Nat
  lastHeartbeat : Option Nat
  /-- In lockstep, the time that the last inertial report was stamped with. -/
  lastSend : Option Nat
  /-- Whether the last inertial report is unanswered. -/
  awaiting : Bool
  epoch : Nat
  stats : LockstepStats

namespace Scheduler

variable {α : Type}

/-- A scheduler that has planned and sent nothing. -/
def new (c : Config α) : Scheduler :=
  { mode := .ofConfig c
    skipFactor := max c.skipFactor.toNat 1
    imuInterval := microseconds c.imuInterval
    heartbeatInterval := microseconds c.heartbeatInterval
    lastPlanned := none
    lastImuSent := none
    lastHeartbeat := none
    lastSend := none
    awaiting := false
    epoch := 0
    stats := ⟨0, 0, 0, 0, false⟩ }

/-- Whether the interval has passed since an earlier time, if there was one. -/
def isElapsed (last : Option Nat) (now interval : Nat) : Bool :=
  last.all fun last => interval ≤ now - last

/-! ## The timetable -/

/-- What the cycle with a number is to send at a time. -/
def cyclePlan (s : Scheduler) (cycle now : Nat) : CyclePlan :=
  match s.mode with
  | .lockstep _ =>
    { now, sendImu := cycle % s.skipFactor = 0, imuStep := some (UInt8.ofNat s.skipFactor) }
  | .freeRunning _ =>
    { now, sendImu := isElapsed s.lastImuSent now s.imuInterval, imuStep := none }

/-- Plans the cycle of a tick, unless the simulation is paused or its time already planned. -/
def planCycle (s : Scheduler) (tick : Tick) : Option CyclePlan × Scheduler :=
  if tick.paused || s.lastPlanned == some tick.time then (none, s)
  else
    (some (s.cyclePlan s.stats.cycles tick.time),
     { s with stats.cycles := s.stats.cycles + 1, lastPlanned := some tick.time })

/-- Records a cycle's end, with the stamp of the inertial report if one was sent. -/
def markSent (s : Scheduler) (now : Nat) (imuTime : Option Nat) : Scheduler :=
  match imuTime with
  | none => s
  | some time =>
    let s := { s with lastImuSent := some now }
    if s.mode.isLockstep then { s with lastSend := some time, awaiting := true } else s

/-- Whether a heartbeat is due; if so, this is the one. -/
def heartbeatDue (s : Scheduler) (now : Nat) : Bool × Scheduler :=
  if isElapsed s.lastHeartbeat now s.heartbeatInterval then
    (true, { s with lastHeartbeat := some now })
  else (false, s)

/-- Forgets what was in flight if the link was opened anew. The first result tells whether it was. -/
def onEpoch (s : Scheduler) (epoch : Nat) : Bool × Scheduler :=
  if epoch = s.epoch then (false, s)
  else
    (true,
     { s with
       epoch
       awaiting := false
       lastSend := none
       lastImuSent := none
       lastHeartbeat := none
       stats.degraded := false })

/-! ## Pacing -/

/-- How long a tick should take. -/
inductive Pacing where
  /-- The autopilot decides. -/
  | unpaced
  | nanoseconds (count : Nat)
  /-- No span of time: negative, not a number, or of `2 ^ 64` seconds and more. -/
  | impossible
  deriving Repr, DecidableEq

/-- Seconds as whole nanoseconds; a half goes to the even neighbour. -/
def nanoseconds? (seconds : Float) : Option Nat :=
  match Binary64.classify seconds with
  | .finite d =>
    if d.negative && d.mantissa != 0 then none
    else if Nat.pow 2 64 * d.den ≤ d.num then none
    else some (roundHalfEven (d.num * Nat.pow 10 9) d.den)
  | _ => none

/-- The real time of a tick of so many microseconds. -/
def pacing (s : Scheduler) (step : Nat) : Pacing :=
  match s.mode with
  | .lockstep _ => .unpaced
  | .freeRunning speedFactor =>
    match nanoseconds? (Float.ofNat step / 1000000.0 / speedFactor) with
    | some count => .nanoseconds count
    | none => .impossible

/-! ## Answers -/

/-- Whether a command answers the last report rather than an earlier one. -/
def answers (s : Scheduler) (c : Command α) : Bool :=
  s.lastSend.all (· ≤ c.time)

/-- Counts an answer. -/
def acknowledge (s : Scheduler) : Scheduler :=
  { s with
    awaiting := false
    stats.acknowledged := s.stats.acknowledged + 1
    stats.degraded := false }

/-- Counts a late answer. -/
def noteLate (s : Scheduler) : Scheduler :=
  { s with stats.late := s.stats.late + 1 }

/-- Gives up waiting. -/
def timeOut (s : Scheduler) : Scheduler :=
  { s with
    awaiting := false
    stats.timeouts := s.stats.timeouts + 1
    stats.degraded := true }

end Scheduler

end HilBridge
