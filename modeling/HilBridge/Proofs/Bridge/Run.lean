import HilBridge.Bridge.Basic
import HilBridge.Connection.ScriptedLink
import HilBridge.Proofs.Bridge.Journal

/-!
# `HilBridge.Proofs.Bridge.Run` — runs of a bridge, with their journals

A run is any sequence of calls on a configured bridge, with everything that may happen in between: commands
come in, the bridge is told to shut down, the resolver gets to any state, the link changes its ways. Each call
adds to the journal what it makes happen (`Call.events`).

`Journal.Records` is what bridge and journal have in common. It is the invariant of all runs
(`records_run`): a configured bridge has it with the empty journal, and one lemma for each operation shows
that the operation keeps it. For the operations on the link these lemmas speak of the connection alone
(`Connection.Moves`); those compose.
-/

namespace HilBridge

variable {L α : Type}

/-! ## What an operation makes happen -/

/-- A link that is left closed and was open has dropped. -/
def dropEvents [AutopilotLink L α] (before after : L) : Journal α :=
  if AutopilotLink.isOpen before && !AutopilotLink.isOpen after then [.dropped] else []

namespace Connection

variable [AutopilotLink L α]

def openEvents (c : Connection L α) (remote : Endpoint) : Journal α :=
  let o := AutopilotLink.openTo c.link remote
  (if o.result.isOk then [.opened] else []) ++ Journal.publications o.published

def pollEvents (c : Connection L α) : Journal α :=
  if c.isShutdown || AutopilotLink.isOpen c.link then []
  else
    match c.remote with
    | .error _ => []
    | .ok remote => c.openEvents remote

/-- Commands that come in before the closing returns are of the connection that it ends. -/
def reconnectEvents (c : Connection L α) : Journal α :=
  if c.isShutdown then []
  else
    let o := AutopilotLink.close c.link
    let c := c.absorb o
    Journal.publications o.published ++ .closing ::
      match o.result, c.resolution with
      | .ok (), .resolved remote => c.openEvents remote
      | _, _ => []

/-- A report counts as sent only if the link says so. -/
def sendEvents (c : Connection L α) (message : Message α) : Journal α :=
  if c.isShutdown || !AutopilotLink.isOpen c.link then []
  else
    let o := AutopilotLink.send c.link message
    (match o.result, message.imuTime? with
      | .ok (), some time => [.reported time]
      | _, _ => []) ++ Journal.publications o.published ++ dropEvents c.link o.link

end Connection

namespace Bridge

variable [AutopilotLink L α]

/-- What sending messages in turn makes happen. -/
def sendAllEvents (c : Connection L α) : List (Message α) → Journal α
  | [] => []
  | message :: rest =>
    c.sendEvents message ++
      match c.send message with
      | (.ok (), c) => sendAllEvents c rest
      | (.error .shutdown, _) => []
      | (.error _, c) => sendAllEvents c rest

variable [Scalar α]

/-- What the link lets through of some bursts. -/
def heard (b : Bridge L α) (bursts : List (Burst α)) : List (Burst α) :=
  Burst.heard (AutopilotLink.isListening b.connection.link) bursts

/-- What is published while a tick waits. -/
def meanwhile (b : Bridge L α) (bursts : List (Burst α)) : List (Option (Command α)) :=
  let left := (b.awaitControls bursts).1.ahead.length
  ((b.heard bursts).take ((b.heard bursts).length - left)).flatMap fun burst =>
    WaitEvent.published burst.events

def preUpdateEvents (b : Bridge L α) (tick : Tick) (bursts : List (Burst α)) : Journal α :=
  if b.connection.isShutdown || tick.paused then []
  else
    let polled := b.pollReady.2
    let result := (polled.awaitControls bursts).1
    b.connection.pollEvents ++ Journal.publications (polled.meanwhile bursts)
      ++ [.tick result.status result.command]

def postUpdateEvents (b : Bridge L α) (tick : Tick) : Journal α :=
  if tick.paused || b.connection.isShutdown then []
  else b.connection.pollEvents ++ sendAllEvents b.pollReady.2.connection (b.tickEnd tick).messages

end Bridge

/-! ## Calls and runs -/

/-- What can be done with a bridge, and what may happen between two calls. -/
inductive Call (L α : Type) [AutopilotLink L α] where
  | sample (sample : Sample α)
  | storeImu (sample : Stamped (ImuReading α))
  | range (link : String) (sample : Stamped α)
  | preUpdate (tick : Tick) (bursts : List (Burst α))
  | postUpdate (tick : Tick)
  | reconnect
  /-- Commands come in, or the bridge is told to shut down. -/
  | happen (events : List (WaitEvent α))
  /-- The resolution gets to any state, at any moment. -/
  | resolve (resolver : Option Resolver) (moment : Nat)
  /-- The link changes by itself. -/
  | relink (change : L → L)

/-- A bridge with its journal. -/
structure Recorded (L α : Type) where
  bridge : Bridge L α
  journal : Journal α

section
variable [Scalar α] [AutopilotLink L α]

namespace Call

/-- The bridge after a call. -/
def apply (b : Bridge L α) : Call L α → Bridge L α
  | .sample s => (b.onSample s).2
  | .storeImu s => (b.storeImu s).2
  | .range link s => (b.onRange link s).2
  | .preUpdate tick bursts => (b.preUpdate tick bursts).bridge
  | .postUpdate tick => (b.postUpdate tick).2
  | .reconnect => b.reconnect.2
  | .happen events => { b with connection := b.connection.happen events }
  | .resolve resolver moment => { b with connection := { b.connection with resolver, now := moment } }
  | .relink change => { b with connection := { b.connection with link := change b.connection.link } }

/-- What a call makes happen. -/
def events (b : Bridge L α) : Call L α → Journal α
  | .sample _ => []
  | .storeImu _ => []
  | .range .. => []
  | .preUpdate tick bursts => b.preUpdateEvents tick bursts
  | .postUpdate tick => b.postUpdateEvents tick
  | .reconnect => b.connection.reconnectEvents
  | .happen events =>
    Journal.publications (WaitEvent.published
      (WaitEvent.heard (AutopilotLink.isListening b.connection.link) events))
  | .resolve .. => []
  | .relink change => dropEvents b.connection.link (change b.connection.link)

end Call

namespace Recorded

/-- One call. -/
def step (r : Recorded L α) (call : Call L α) : Recorded L α :=
  ⟨call.apply r.bridge, r.journal ++ call.events r.bridge⟩

/-- A run from a bridge with nothing recorded. -/
def run (b : Bridge L α) (calls : List (Call L α)) : Recorded L α :=
  calls.foldl step ⟨b, []⟩

/-- What holds at first and is kept by every call holds after every run. -/
theorem run_induction {P : Recorded L α → Prop} {b : Bridge L α} (base : P ⟨b, []⟩)
    (kept : ∀ r call, P r → P (r.step call)) (calls : List (Call L α)) : P (run b calls) := by
  unfold run
  generalize (⟨b, []⟩ : Recorded L α) = r at base
  induction calls generalizing r with
  | nil => exact base
  | cons call rest ih => exact ih (r.step call) (kept r call base)

end Recorded

end

/-! ## A bridge over a link in memory

What runs on fixed inputs are made of. -/

namespace Trial

/-- Lockstep with 10 ms to wait. -/
def config : Config Float :=
  { (Config.default : Config Float) with lockstep := true, lockstepTimeoutMs := 10 }

def link : ScriptedLink Float :=
  .new "trial"

def names : NameService :=
  .numeric "127.0.0.1" 4560

def tick (time : Nat) : Tick :=
  ⟨time, 4000, false⟩

def command (time : Nat) : Command Float :=
  ⟨time, [0.5], true⟩

/-- The address gets known, and the first tick opens the link. -/
def opening : List (Call (ScriptedLink Float) Float) :=
  [.resolve (some ⟨.default, .settled (.resolved ⟨.v4 [127, 0, 0, 1], 4560⟩), 1⟩) 0,
   .preUpdate (tick 0) []]

/-- An inertial report goes out. -/
def report (time : Nat) : List (Call (ScriptedLink Float) Float) :=
  [.sample ⟨time, .imu ⟨⟨0.0, 0.0, 0.0⟩, ⟨0.0, 0.0, 9.8⟩⟩⟩, .postUpdate (tick time)]

/-- What can be computed of the configured bridge holds of a bridge. -/
theorem exists_of_map {β γ : Type} {e : Except (ConfigError Float) β} {f : β → γ} {x : γ}
    (h : e.toOption.map f = some x) : ∃ b, e = .ok b ∧ f b = x := by
  cases e with
  | error _ => cases h
  | ok b => exact ⟨b, rfl, Option.some.inj h⟩

end Trial

end HilBridge
