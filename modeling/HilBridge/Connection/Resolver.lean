import HilBridge.Config.Basic
import HilBridge.Connection.HostName

/-!
# `HilBridge.Connection.Resolver` — looking up the autopilot's address, again and again

A lookup takes time and may fail, so it runs beside everything else and publishes how far it is. The
resolver makes a bounded number of attempts, with a pause after each failed one but the last that doubles
up to a limit. It ends in a settled state, which never changes: an address, none after all attempts, or
cancelled.

Time is a number of milliseconds. `Resolver.runUntil` makes everything happen that is due up to a moment,
each thing at the moment it is due.
-/

namespace HilBridge

/-- How far the resolution is. -/
inductive ResolutionState where
  | idle
  | resolving (attempt : Nat)
  | resolved (remote : Endpoint)
  | unavailable (attempts : Nat)
  | cancelled
  deriving Repr, DecidableEq

namespace ResolutionState

/-- Whether the state is final. -/
def isSettled : ResolutionState → Bool
  | .idle => false
  | .resolving _ => false
  | .resolved _ => true
  | .unavailable _ => true
  | .cancelled => true

/-- The state in words. -/
def describe : ResolutionState → String
  | .idle => "Idle"
  | .resolving attempt => s!"Resolving \x7b attempt: {attempt} \x7d"
  | .resolved remote => "Resolved(" ++ remote.toText ++ ")"
  | .unavailable attempts => s!"Unavailable \x7b attempts: {attempts} \x7d"
  | .cancelled => "Cancelled"

end ResolutionState

/-- The answer to one lookup: when it comes, and the addresses unless the lookup failed. -/
structure LookupAnswer where
  delayMs : Nat
  addresses : Option (List Endpoint)
  deriving Repr, DecidableEq, Inhabited

/-- A name service, as the answers it gives to the lookups made of it, counted from zero. -/
abbrev NameService := Nat → LookupAnswer

/-- The service that needs nobody else's help: it knows what `HostName` knows, and answers at once. -/
def NameService.numeric (host : String) (port : UInt16) : NameService :=
  fun _ => ⟨0, (HostName.address? host).map fun address => [⟨address, port⟩]⟩

/-- The address to use: the first of version four, or else the first. -/
def pickAddress (addresses : List Endpoint) : Option Endpoint :=
  (addresses.find? (·.address.isV4)).or addresses.head?

/-- What a resolver is doing. -/
inductive ResolverPhase where
  /-- It has been asked to start, at a moment. -/
  | spawned (since : Nat)
  /-- An attempt is made whose answer comes at `due`; `backoff` is the pause that would follow it. -/
  | looking (attempt backoff due : Nat) (answer : Option (List Endpoint))
  /-- An attempt has failed; the next one begins at `due`. -/
  | pausing (attempt backoff due : Nat)
  /-- It has ended. -/
  | settled (state : ResolutionState)
  deriving Repr, DecidableEq

/-- A resolver and the number of lookups made of the name service so far, also by resolvers before it. -/
structure Resolver where
  policy : RetryPolicy
  phase : ResolverPhase
  lookups : Nat
  deriving Repr, DecidableEq

namespace Resolver

/-- A resolver about to start. -/
def spawn (policy : RetryPolicy) (now lookups : Nat) : Resolver :=
  ⟨policy, .spawned now, lookups⟩

/-- Attempts made at most; at least one. -/
def attempts (r : Resolver) : Nat :=
  max r.policy.maxAttempts 1

/-- What the resolver has published. -/
def state (r : Resolver) : ResolutionState :=
  match r.phase with
  | .spawned _ => .idle
  | .looking attempt .. => .resolving attempt
  | .pausing attempt .. => .resolving attempt
  | .settled state => state

/-- Whether it has not ended. -/
def isRunning (r : Resolver) : Bool :=
  match r.phase with
  | .settled _ => false
  | _ => true

/-- When the next thing happens by itself. -/
def due? (r : Resolver) : Option Nat :=
  match r.phase with
  | .spawned since => some since
  | .looking _ _ due _ => some due
  | .pausing _ _ due => some due
  | .settled _ => none

/-- The pause after the first attempt. -/
def firstBackoff (r : Resolver) : Nat :=
  min r.policy.initialBackoffMs r.policy.maxBackoffMs

/-- The pause that follows a pause. -/
def nextBackoff (r : Resolver) (backoff : Nat) : Nat :=
  min (2 * backoff) r.policy.maxBackoffMs

/-- Makes an attempt at a moment. -/
def begin (r : Resolver) (names : NameService) (attempt backoff now : Nat) : Resolver :=
  let answer := names r.lookups
  { r with
    phase := .looking attempt backoff (now + answer.delayMs) answer.addresses
    lookups := r.lookups + 1 }

/-- What an answer leads to at the moment it comes. -/
def conclude (r : Resolver) (attempt backoff now : Nat) (answer : Option (List Endpoint)) :
    Resolver :=
  match answer.bind pickAddress with
  | some remote => { r with phase := .settled (.resolved remote) }
  | none =>
    if attempt < r.attempts then { r with phase := .pausing attempt backoff (now + backoff) }
    else { r with phase := .settled (.unavailable r.attempts) }

/-- The next thing that happens by itself, at the moment it is due. -/
def step (r : Resolver) (names : NameService) : Resolver :=
  match r.phase with
  | .spawned since => r.begin names 1 r.firstBackoff since
  | .looking attempt backoff due answer => r.conclude attempt backoff due answer
  | .pausing attempt backoff due => r.begin names (attempt + 1) (r.nextBackoff backoff) due
  | .settled _ => r

/-! ## Running -/

/-- How many more steps there can be, at most. -/
def remaining (r : Resolver) : Nat :=
  match r.phase with
  | .spawned _ => 3 * r.attempts + 2
  | .looking attempt .. => 3 * (r.attempts - attempt) + 1
  | .pausing attempt .. => max (3 * (r.attempts - attempt)) 2
  | .settled _ => 0

/-- A resolver that still has something to do comes closer to its end with every step. -/
theorem remaining_step {r : Resolver} {due : Nat} (names : NameService) (h : r.due? = some due) :
    (r.step names).remaining < r.remaining := by
  obtain ⟨policy, phase, lookups⟩ := r
  have hA : 1 ≤ max policy.maxAttempts 1 := Nat.le_max_right ..
  cases phase with
  | spawned since =>
    simp only [step, begin, remaining, attempts]
    omega
  | looking attempt backoff due answer =>
    simp only [step, conclude]
    split
    · simp only [remaining]
      omega
    · split
      · rename_i hlt
        simp only [remaining, attempts] at hlt ⊢
        omega
      · simp only [remaining]
        omega
  | pausing attempt backoff due =>
    simp only [step, begin, remaining, attempts]
    omega
  | settled state => simp [due?] at h

/-- Everything that is due before a moment. -/
def runBefore (names : NameService) (limit : Nat) (r : Resolver) : Resolver :=
  match _h : r.due? with
  | some due => if due < limit then runBefore names limit (r.step names) else r
  | none => r
termination_by r.remaining
decreasing_by exact remaining_step names ‹_›

/-- Everything that is due up to a moment. -/
def runUntil (names : NameService) (moment : Nat) (r : Resolver) : Resolver :=
  runBefore names (moment + 1) r

/-- Everything there is to do, and the moment at which it is done, not before `now`. -/
def runToEnd (names : NameService) (now : Nat) (r : Resolver) : Resolver × Nat :=
  match _h : r.due? with
  | some due => runToEnd names (max now due) (r.step names)
  | none => (r, now)
termination_by r.remaining
decreasing_by exact remaining_step names ‹_›

/-- Ends a resolver that has not ended. -/
def cancel (r : Resolver) : Resolver :=
  if r.isRunning then { r with phase := .settled .cancelled } else r

/-- A summary of the resolver of a host for logs. -/
def describe (r : Resolver) (hostText : String) : String :=
  "AddressResolver \x7b host: " ++ hostText ++ ", state: " ++ r.state.describe
    ++ s!", running: {r.isRunning} \x7d"

end Resolver

end HilBridge
