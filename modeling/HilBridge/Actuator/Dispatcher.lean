import HilBridge.Actuator.Outputs
import HilBridge.Config.Validate

/-!
# `HilBridge.Actuator.Dispatcher` — from commands to actuator targets

The dispatcher keeps the last command that had any values and maps it through the channels. Whatever the
command holds, every channel gets a target: where an entry is missing or not finite, or the arithmetic
leaves the finite numbers, the target is that of a disarmed vehicle. Before the first command and while
disarmed, all of them are.
-/

namespace HilBridge

/-- Counts of commands and of values that could not be used. -/
structure DispatchStats where
  received : Nat
  /-- Channel values whose entry was missing or not finite. -/
  malformed : Nat
  /-- Commands without any values. -/
  rejected : Nat
  deriving Repr, DecidableEq

/-- The channels of a vehicle and the last command for them. -/
structure Dispatcher (α : Type) where
  channels : List (Channel α)
  thrustTorque : Option (ThrustTorque α)
  externalControllers : ExternalControllers
  /-- Whether a command with values has ever come. -/
  receivedFirst : Bool
  armed : Bool
  controls : List α
  stats : DispatchStats
  deriving Repr, DecidableEq

namespace Dispatcher

variable {α : Type} [Scalar α]

/-- A dispatcher that has had no command, if the configuration is valid. -/
def new (c : Config α) : Except (ConfigError α) (Dispatcher α) := do
  c.validate
  .ok
    { channels := c.channels
      thrustTorque := c.thrustTorque
      externalControllers := c.externalControllers
      receivedFirst := false
      armed := false
      controls := []
      stats := ⟨0, 0, 0⟩ }

/-! ## Targets -/

/-- Whether the last command counts. -/
def isActive (d : Dispatcher α) : Bool :=
  d.receivedFirst && d.armed

/-- A finite number, or nothing. -/
def finite? (x : α) : Option α :=
  if Scalar.isFinite x then some x else none

/-- The entry of the last command at an index, if it is there and finite. -/
def entry? (d : Dispatcher α) (index : Nat) : Option α :=
  d.controls[index]?.bind finite?

/-- The target of a motor or servo. -/
def target (d : Dispatcher α) (c : Channel α) : α :=
  if d.isActive then
    let commanded := (d.entry? c.inputIndex).bind fun u =>
      finite? ((u + c.inputOffset) * c.inputScaling + c.zeroArmed)
    commanded.getD c.zeroDisarmed
  else c.zeroDisarmed

/-- The normalized command of a channel that is driven elsewhere. -/
def normalizedTarget (d : Dispatcher α) (c : Channel α) : α :=
  let fallback := Scalar.clamp (-1.0) 1.0 c.zeroDisarmed
  if d.isActive then
    let commanded := (d.entry? c.inputIndex).bind fun u =>
      finite? (Scalar.clamp (-1.0) 1.0 (u + c.inputOffset))
    commanded.getD fallback
  else fallback

/-- An entry times a scaling; zero where there is no finite value. -/
def scaledEntry (d : Dispatcher α) (index : Nat) (scaling : α) : α :=
  ((d.entry? index).bind fun u => finite? (u * scaling)).getD 0.0

/-- Thrust and torque of the whole vehicle. -/
def wrench (d : Dispatcher α) (t : ThrustTorque α) : Wrench α :=
  if d.isActive then
    ⟨d.scaledEntry t.thrustIndex t.thrustScaling, d.scaledEntry t.torqueIndex t.torqueScaling⟩
  else ⟨0.0, 0.0⟩

/-- Whether a channel is driven by a controller outside. -/
def isExternal (d : Dispatcher α) (c : Channel α) : Bool :=
  c.control == .passThrough || d.externalControllers.handles c.role

/-- The outputs with the target of one more channel at the end of its path. -/
def route (d : Dispatcher α) (o : Outputs α) (c : Channel α) (position : Nat) : Outputs α :=
  if d.isExternal c then
    { o with external := o.external ++ [⟨position, c.role, d.normalizedTarget c⟩] }
  else
    match c.control with
    | .motor => { o with motors := o.motors ++ [d.target c] }
    | .servo => { o with servos := o.servos ++ [⟨position, d.target c⟩] }
    | .passThrough => o

/-- What the last command asks for, or what holds without one. -/
def outputs (d : Dispatcher α) : Outputs α :=
  match d.thrustTorque with
  | some t => { Outputs.empty with wrench := some (d.wrench t) }
  | none => d.channels.zipIdx.foldl (fun o (c, position) => d.route o c position) .empty

/-! ## Commands -/

/-- The entries of a command that are used, one for each use. -/
def usedIndices (d : Dispatcher α) : List Nat :=
  match d.thrustTorque with
  | some t => [t.thrustIndex, t.torqueIndex]
  | none => d.channels.map (·.inputIndex)

/-- How many used entries are missing or not finite. -/
def countMalformed (d : Dispatcher α) (controls : List α) : Nat :=
  d.usedIndices.countP fun index => !(controls[index]?.any Scalar.isFinite)

/-- Takes a command as the last one. The first result tells whether it had any values. -/
def apply (d : Dispatcher α) (c : Command α) : Bool × Dispatcher α :=
  if c.controls.isEmpty then
    (false, { d with stats.rejected := d.stats.rejected + 1 })
  else
    (true,
     { d with
       receivedFirst := true
       armed := c.armed
       controls := c.controls
       stats.received := d.stats.received + 1
       stats.malformed := d.stats.malformed + d.countMalformed c.controls })

end Dispatcher

end HilBridge
