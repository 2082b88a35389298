import HilBridge.Lockstep.CommandChannel

/-!
# `HilBridge.Lockstep.Burst` — what happens while somebody waits

Commands come in and the bridge is told to shut down while an operation waits. What will happen is given
beforehand, as a list of bursts in order of time: at some moment one or more events, all of which happen
before the waiting side looks again. An operation that does not wait lets nothing happen.
-/

namespace HilBridge

variable {α : Type}

/-- Something that happens while an operation waits. -/
inductive WaitEvent (α : Type) where
  /-- A value is published. -/
  | publish (value : Option (Command α))
  /-- The bridge is told to shut down. -/
  | shutdown
  deriving Repr, DecidableEq

namespace WaitEvent

/-- The channel and the shutdown signal after some events. -/
def applyAll (channel : CommandChannel α) (isShutdown : Bool) :
    List (WaitEvent α) → CommandChannel α × Bool
  | [] => (channel, isShutdown)
  | .publish value :: rest => applyAll (channel.publish value) isShutdown rest
  | .shutdown :: rest => applyAll channel true rest

/-- What comes of some events: unless the link listens, no command is published. -/
def heard (isListening : Bool) (events : List (WaitEvent α)) : List (WaitEvent α) :=
  events.filter fun
    | .publish _ => isListening
    | .shutdown => true

end WaitEvent

/-- What happens at one moment, in milliseconds from the start of the operation. -/
structure Burst (α : Type) where
  time : Nat
  events : List (WaitEvent α)
  deriving Repr, DecidableEq

namespace Burst

/-- Adds an event at the end of the last burst if it is of the same moment, otherwise as a burst of its own. -/
def append (bursts : List (Burst α)) (time : Nat) (event : WaitEvent α) : List (Burst α) :=
  match bursts.getLast? with
  | some last =>
    if last.time = time then bursts.dropLast ++ [{ last with events := last.events ++ [event] }]
    else bursts ++ [⟨time, [event]⟩]
  | none => [⟨time, [event]⟩]

/-- The bursts of events with their moments: in order of time, and those of one moment as given. -/
def ofEvents (events : List (Nat × WaitEvent α)) : List (Burst α) :=
  (events.mergeSort fun a b => a.1 ≤ b.1).foldl (fun bursts (time, event) => append bursts time event) []

/-- The same bursts as counted from a moment that is so many milliseconds later. -/
def countedFrom (ms : Nat) (bursts : List (Burst α)) : List (Burst α) :=
  bursts.map fun burst => { burst with time := burst.time - ms }

/-- What comes of some bursts: unless the link listens, no command is published. -/
def heard (isListening : Bool) (bursts : List (Burst α)) : List (Burst α) :=
  bursts.map fun burst => { burst with events := WaitEvent.heard isListening burst.events }

end Burst

end HilBridge
