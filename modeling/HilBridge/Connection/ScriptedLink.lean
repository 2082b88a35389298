import HilBridge.Connection.Lifecycle

/-!
# `HilBridge.Connection.ScriptedLink` — a link in memory, for trials

Nothing leaves the program: messages are kept in a list, and what the autopilot does is set beforehand. Each
operation can be made to fail, the link can be dropped, and inertial reports can be answered at once.
-/

namespace HilBridge

variable {α : Type}

/-- The answer to an inertial report: a command with the report's time, shifted by microseconds. -/
structure Echo (α : Type) where
  command : Command α
  shift : Int
  deriving Repr, DecidableEq

/-- The answer to a report of a time. No time is below zero. -/
def Echo.answer (e : Echo α) (time : Nat) : Command α :=
  { e.command with time := (time + e.shift).toNat }

/-- A link in memory. -/
structure ScriptedLink (α : Type) where
  name : String
  refusesOpen : Bool
  refusesSend : Bool
  refusesClose : Bool
  /-- Whether the bridge is told to shut down while the next message is sent. -/
  endsAtSend : Bool
  echo : Option (Echo α)
  isOpen : Bool
  /-- Whether there is a channel to publish commands to. A dropped link keeps it, a closed one does not. -/
  hasChannel : Bool
  opens : Nat
  closes : Nat
  /-- The endpoint of the last opening. -/
  remote : Option Endpoint
  /-- All messages sent, the newest first. -/
  sent : List (Message α)

namespace ScriptedLink

/-- A closed link that refuses nothing and answers nothing. -/
def new (name : String) : ScriptedLink α :=
  { name
    refusesOpen := false
    refusesSend := false
    refusesClose := false
    endsAtSend := false
    echo := none
    isOpen := false
    hasChannel := false
    opens := 0
    closes := 0
    remote := none
    sent := [] }

def openTo (l : ScriptedLink α) (remote : Endpoint) : LinkOutcome (ScriptedLink α) α :=
  if l.refusesOpen then .quiet (.error (.connectionFailed "bind refused")) l
  else
    .quiet (.ok ())
      { l with isOpen := true, hasChannel := true, opens := l.opens + 1, remote := some remote }

/-- What the link publishes when a message is sent. -/
def answers (l : ScriptedLink α) (message : Message α) : List (Option (Command α)) :=
  match l.echo, message.imuTime? with
  | some echo, some time => if l.hasChannel then [some (echo.answer time)] else []
  | _, _ => []

def send (l : ScriptedLink α) (message : Message α) : LinkOutcome (ScriptedLink α) α :=
  if l.refusesSend && !l.endsAtSend then .quiet (.error (.protocolError "encode refused")) l
  else
    ⟨.ok (), { l with sent := message :: l.sent, endsAtSend := false }, l.answers message, l.endsAtSend⟩

def close (l : ScriptedLink α) : LinkOutcome (ScriptedLink α) α :=
  if l.refusesClose then .quiet (.error (.connectionFailed "close refused")) l
  else
    .quiet (.ok ())
      { l with
        isOpen := false
        hasChannel := false
        closes := if l.isOpen then l.closes + 1 else l.closes }

/-- The link after the other side went away. -/
def drop (l : ScriptedLink α) : ScriptedLink α :=
  { l with isOpen := false }

end ScriptedLink

instance : AutopilotLink (ScriptedLink α) α where
  name := ScriptedLink.name
  openTo := ScriptedLink.openTo
  send := ScriptedLink.send
  close := ScriptedLink.close
  isOpen := ScriptedLink.isOpen
  isListening := ScriptedLink.hasChannel

namespace Connection

/-- Publishes a command as the autopilot would, if the link has a channel. The first result tells that. -/
def inject (c : Connection (ScriptedLink α) α) (command : Command α) :
    Bool × Connection (ScriptedLink α) α :=
  if c.link.hasChannel then (true, { c with channel := c.channel.publish (some command) })
  else (false, c)

end Connection

end HilBridge
