import HilBridge.Connection.Link
import HilBridge.Connection.Resolver
import HilBridge.Lockstep.Burst
import HilBridge.Text.Quoted

/-!
# `HilBridge.Connection.Lifecycle` — resolving, opening, sending, reopening, shutting down

A `Connection` owns the link, the resolver that finds its address and the channel that the link publishes
commands to. Opening the link is only ever tried with a resolved address; every successful opening begins a
new epoch. Once the bridge has been told to shut down no operation starts anything any more.

The clock of a connection counts milliseconds. It moves only where an operation waits.
-/

namespace HilBridge

/-- A link with its resolver. -/
structure Connection (L α : Type) where
  host : String
  port : UInt16
  policy : RetryPolicy
  names : NameService
  link : L
  resolver : Option Resolver
  /-- Lookups made of the name service while there is no resolver. -/
  lookups : Nat
  channel : CommandChannel α
  /-- Whether the bridge has been told to shut down. -/
  isShutdown : Bool
  /-- How often the link was opened. -/
  epoch : Nat
  sendFailures : Nat
  openFailures : Nat
  /-- Milliseconds. -/
  now : Nat

namespace Connection

variable {L α : Type}

/-- A connection that has not started. -/
def new (c : Config α) (link : L) (names : NameService) : Connection L α :=
  { host := c.hostname
    port := c.port
    policy := c.resolver
    names, link
    resolver := none
    lookups := 0
    channel := .empty
    isShutdown := false
    epoch := 0
    sendFailures := 0
    openFailures := 0
    now := 0 }

/-! ## Resolution -/

/-- How far the resolution is; idle before it started. -/
def resolution (c : Connection L α) : ResolutionState :=
  match c.resolver with
  | some r => r.state
  | none => .idle

def isResolving (c : Connection L α) : Bool :=
  c.resolver.any (·.isRunning)

/-- Lookups made of the name service. -/
def lookupCount (c : Connection L α) : Nat :=
  match c.resolver with
  | some r => r.lookups
  | none => c.lookups

/-- Puts a new resolver in the place of any before. -/
def spawnResolver (c : Connection L α) : Connection L α :=
  { c with resolver := some (.spawn c.policy c.now c.lookupCount) }

/-- The address of the autopilot, or why there is none. -/
def remote (c : Connection L α) : Except BridgeError Endpoint :=
  match c.resolution with
  | .resolved remote => .ok remote
  | .unavailable attempts => .error (.resolutionFailed c.host attempts)
  | .cancelled => .error .shutdown
  | .idle => .error .notReady
  | .resolving _ => .error .notReady

/-- Starts the resolution, if it has not started before. -/
def start (c : Connection L α) : Except BridgeError Unit × Connection L α :=
  if c.isShutdown then (.error .shutdown, c)
  else if c.resolver.isNone then (.ok (), c.spawnResolver)
  else (.ok (), c)

/-! ## Time -/

/-- Lets the resolver do what is due until a moment; it notices a shutdown at once. -/
def runResolver (c : Connection L α) (moment : Nat) : Connection L α :=
  { c with
    resolver := c.resolver.map fun r =>
      if c.isShutdown then r.cancel else r.runUntil c.names moment }

/-- Lets time pass until a moment, if that is not over. -/
def passUntil (c : Connection L α) (moment : Nat) : Connection L α :=
  { c.runResolver (max c.now moment) with now := max c.now moment }

/-- Waits until the resolver has ended. -/
def join (c : Connection L α) : Connection L α :=
  match c.resolver with
  | none => c
  | some r =>
    if c.isShutdown then { c with resolver := some r.cancel }
    else
      let (r, now) := r.runToEnd c.names c.now
      { c with resolver := some r, now }

/-- Tells the bridge to shut down. -/
def cancel (c : Connection L α) : Connection L α :=
  { c with isShutdown := true }

variable [AutopilotLink L α]

/-- Lets the events of a moment happen. The resolver notices a shutdown at once. -/
def happen (c : Connection L α) (events : List (WaitEvent α)) : Connection L α :=
  let events := WaitEvent.heard (AutopilotLink.isListening c.link) events
  let (channel, isShutdown) := WaitEvent.applyAll c.channel c.isShutdown events
  { c with
    channel, isShutdown
    resolver := c.resolver.map fun r => if isShutdown then r.cancel else r }

/--
Lets time pass until the moment of a burst, up to the burst itself. Of what the resolver does at that same
moment only what it has been waiting for all the time, since `armed`, comes before the burst.
-/
def passUntilBurst (c : Connection L α) (armed : Option Nat) (moment : Nat) : Connection L α :=
  let limit := if armed = some moment then moment + 1 else moment
  { c with
    resolver := c.resolver.map fun r =>
      if c.isShutdown then r.cancel else r.runBefore c.names limit
    now := max c.now moment }

/-- Lets so many milliseconds pass, while bursts happen. -/
def advance (c : Connection L α) (ms : Nat) (bursts : List (Burst α)) : Connection L α :=
  let start := c.now
  let c := c.passUntil start
  let armed := c.resolver.bind (·.due?)
  let c := (bursts.filter (·.time ≤ ms)).foldl
    (fun c burst => (c.passUntilBurst armed (start + burst.time)).happen burst.events) c
  c.passUntil (start + ms)

/-- Waits until the resolver has ended, while bursts happen at their moments after `start`. -/
def awaitResolver (start : Nat) (armed : Option Nat) (c : Connection L α) :
    List (Burst α) → Connection L α
  | [] => c.join
  | burst :: rest =>
    let next := c.passUntilBurst armed (start + burst.time)
    if next.isResolving then awaitResolver start armed (next.happen burst.events) rest
    else if c.join.now < start + burst.time then c.join
    else next.happen burst.events

/-- Waits until the resolver has ended, if there is one that has not, while bursts happen. -/
def waitSettled (c : Connection L α) (bursts : List (Burst α)) : Connection L α :=
  if c.isResolving then
    let c := c.passUntil c.now
    awaitResolver c.now (c.resolver.bind (·.due?)) c bursts
  else c

/-! ## The link -/

/-- Whether messages can be sent. -/
def isReady (c : Connection L α) : Bool :=
  !c.isShutdown && AutopilotLink.isOpen c.link

/-- Takes over what happened during an operation on the link. -/
def absorb (c : Connection L α) (o : LinkOutcome L α) : Connection L α :=
  { c with
    link := o.link
    channel := o.published.foldl CommandChannel.publish c.channel
    isShutdown := c.isShutdown || o.isShutdown }

/-- Opens the link. Success begins an epoch. -/
def openLink (c : Connection L α) (remote : Endpoint) : Except BridgeError Unit × Connection L α :=
  let o := AutopilotLink.openTo c.link remote
  let c := c.absorb o
  match o.result with
  | .ok () => (.ok (), { c with epoch := c.epoch + 1 })
  | .error e => (.error e, { c with openFailures := c.openFailures + 1 })

/-- Opens the link if it is closed and the address known. The first result tells whether it is open. -/
def pollReady (c : Connection L α) : Bool × Connection L α :=
  if c.isShutdown then (false, c)
  else if AutopilotLink.isOpen c.link then (true, c)
  else
    match c.remote with
    | .error _ => (false, c)
    | .ok remote =>
      let (result, c) := c.openLink remote
      (result.isOk, c)

/-- Sends a message over the open link. -/
def send (c : Connection L α) (message : Message α) : Except BridgeError Unit × Connection L α :=
  if c.isShutdown then (.error .shutdown, c)
  else if AutopilotLink.isOpen c.link then
    let o := AutopilotLink.send c.link message
    let c := c.absorb o
    match o.result with
    | .ok () => (.ok (), c)
    | .error e => (.error e, { c with sendFailures := c.sendFailures + 1 })
  else (.error .notReady, c)

/--
Closes the link and opens it again with the address that is known. Without one the resolution starts over,
unless it is still on its way.
-/
def reconnect (c : Connection L α) : Except BridgeError Unit × Connection L α :=
  if c.isShutdown then (.error .shutdown, c)
  else
    let o := AutopilotLink.close c.link
    let c := c.absorb o
    match o.result with
    | .error e => (.error e, c)
    | .ok () =>
      match c.resolution with
      | .resolved remote => c.openLink remote
      | _ =>
        if c.isResolving then (.error .notReady, c)
        else (.error .notReady, c.join.spawnResolver)

/-- Ends everything: no resolver runs afterwards, and the link is closed if it can be. -/
def shutdown (c : Connection L α) : Connection L α :=
  let c := c.cancel.join
  c.absorb (AutopilotLink.close c.link)

/-- A summary of the connection for logs. -/
def describe (c : Connection L α) : String :=
  "ConnectionLifecycle \x7b host: " ++ Text.quoted c.host ++ s!", port: {c.port.toNat}, link: "
    ++ Text.quoted (AutopilotLink.name c.link) ++ ", state: " ++ c.resolution.describe
    ++ s!", epoch: {c.epoch} \x7d"

end Connection

end HilBridge
