import HilBridge.Config.Basic

/-!
# `HilBridge.Actuator.Outputs` — commands of the autopilot and what the simulation gets of them

Outputs are published path by path. A path without values is left out, and a thrust and torque for the whole
vehicle takes the place of all other paths.
-/

namespace HilBridge

/-- A command of the autopilot. -/
structure Command (α : Type) where
  /-- The time of the sensor message that it answers, in microseconds. -/
  time : Nat
  controls : List α
  armed : Bool
  deriving Repr, DecidableEq

/-- A position for the joint of a channel. -/
structure ServoTarget (α : Type) where
  channel : Nat
  position : α
  deriving Repr, DecidableEq

/-- A command in `[-1, 1]` for a channel whose loop is closed elsewhere. -/
structure ExternalCommand (α : Type) where
  channel : Nat
  role : ChannelRole
  normalized : α
  deriving Repr, DecidableEq

/-- Thrust and torque of the whole vehicle. -/
structure Wrench (α : Type) where
  thrust : α
  torque : α
  deriving Repr, DecidableEq

/-- Everything that is published for one tick. -/
structure Outputs (α : Type) where
  motors : List α
  servos : List (ServoTarget α)
  external : List (ExternalCommand α)
  wrench : Option (Wrench α)
  deriving Repr, DecidableEq

/-- One call on the simulation's actuator interface. -/
inductive Publication (α : Type) where
  | motors (velocities : List α)
  | servos (targets : List (ServoTarget α))
  | external (commands : List (ExternalCommand α))
  | wrench (wrench : Wrench α)
  deriving Repr, DecidableEq

namespace Outputs

variable {α : Type}

def empty : Outputs α :=
  ⟨[], [], [], none⟩

/-- The publications of all paths that have values, in their order. -/
def publications (o : Outputs α) : List (Publication α) :=
  match o.wrench with
  | some wrench => [.wrench wrench]
  | none =>
    (if o.motors.isEmpty then [] else [.motors o.motors])
      ++ (if o.servos.isEmpty then [] else [.servos o.servos])
      ++ (if o.external.isEmpty then [] else [.external o.external])

end Outputs

end HilBridge
