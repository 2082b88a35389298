import HilBridge.Lockstep.Burst
import HilBridge.Lockstep.Scheduler

/-!
# `HilBridge.Lockstep.Wait` — obtaining the actuator state of a tick

What happens while a tick waits is given beforehand, as a list of bursts. All of one burst happens before the
waiting side looks again, so of several commands in a burst it sees the last.

A wait ends with the first burst that leaves an answer in the channel, with a shutdown, or at its deadline,
whatever comes first; a burst at the deadline comes too late. The bursts that have not happened by then are
part of the result.
-/

namespace HilBridge

variable {α : Type}

/-- How a tick's wait ended. -/
structure WaitResult (α : Type) where
  status : SyncStatus
  /-- The command to apply. -/
  command : Option (Command α)
  scheduler : Scheduler
  channel : CommandChannel α
  /-- Whether the bridge has been told to shut down. -/
  isShutdown : Bool
  /-- Milliseconds from the start. -/
  waited : Nat
  /-- What has not happened yet, counted from the start. -/
  ahead : List (Burst α)

namespace Scheduler

/-! ## Without waiting -/

/-- Takes what is in the channel when there is no answer to wait for. -/
def takeUnawaited (s : Scheduler) (channel : CommandChannel α) (receivedFirst : Bool)
    (bursts : List (Burst α)) : WaitResult α :=
  match channel.takeLatest with
  | (none, channel) => ⟨.holding, none, s, channel, false, 0, bursts⟩
  | (some command, channel) =>
    if s.answers command then ⟨.acknowledged, some command, s.acknowledge, channel, false, 0, bursts⟩
    else
      ⟨.holding, if receivedFirst then none else some command, s.noteLate, channel, false, 0, bursts⟩

/-! ## Waiting -/

/-- What a look at the channel comes to for a tick that waits. -/
inductive Look (α : Type) where
  /-- The wait is over. -/
  | ended (status : SyncStatus) (command : Option (Command α)) (scheduler : Scheduler)
  /-- There is no answer so far, and one may still come. -/
  | waiting (scheduler : Scheduler)

/--
One look at the channel. A late answer is counted and passed over; when nothing more can be published there
is nothing to wait for.
-/
def look (s : Scheduler) (channel : CommandChannel α) : Look α :=
  match (if channel.unseen then channel.newest else none) with
  | some command =>
    if s.answers command then .ended .acknowledged (some command) s.acknowledge
    else if channel.closed then .ended .holding none { s.noteLate with awaiting := false }
    else .waiting s.noteLate
  | none =>
    if channel.closed then .ended .holding none { s with awaiting := false }
    else .waiting s

/--
Waits from the moment `now` for at most `timeout` milliseconds after the start, while the bursts that are
left happen.
-/
def waitFrom (timeout now : Nat) (s : Scheduler) (channel : CommandChannel α)
    (bursts : List (Burst α)) : WaitResult α :=
  match s.look channel, bursts with
  | .ended status command s, _ => ⟨status, command, s, channel.markSeen, false, now, bursts⟩
  | .waiting s, [] => ⟨.timedOut, none, s.timeOut, channel.markSeen, false, timeout, []⟩
  | .waiting s, burst :: rest =>
    if burst.time < timeout then
      let (channel, isShutdown) := WaitEvent.applyAll channel.markSeen false burst.events
      if isShutdown then ⟨.shutdown, none, s, channel, true, burst.time, rest⟩
      else waitFrom timeout burst.time s channel rest
    else ⟨.timedOut, none, s.timeOut, channel.markSeen, false, timeout, burst :: rest⟩

/-! ## Both -/

/--
The actuator state of a tick. Only a tick in lockstep that follows an unanswered report, and only once the
autopilot has ever sent a command, waits at all.
-/
def awaitControls (s : Scheduler) (channel : CommandChannel α) (receivedFirst isShutdown : Bool)
    (bursts : List (Burst α)) : WaitResult α :=
  if isShutdown then ⟨.shutdown, none, s, channel, true, 0, bursts⟩
  else
    match s.mode with
    | .freeRunning _ =>
      let (command, channel) := channel.takeLatest
      ⟨.freeRunning, command, s, channel, false, 0, bursts⟩
    | .lockstep timeout =>
      if s.awaiting && receivedFirst then s.waitFrom timeout 0 channel bursts
      else s.takeUnawaited channel receivedFirst bursts

end Scheduler

end HilBridge
