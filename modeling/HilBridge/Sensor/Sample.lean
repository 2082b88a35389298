import HilBridge.Geometry.Quaternion

/-!
# `HilBridge.Sensor.Sample` — what the simulation delivers

A sample is a reading with the simulation time at which it was taken, in microseconds. Readings are in the
simulation's conventions: world vectors east, north, up and body vectors forward, left, up.
-/

namespace HilBridge

/-- A value with its simulation time in microseconds. -/
structure Stamped (β : Type) where
  time : Nat
  value : β
  deriving Repr, DecidableEq

variable {α : Type}

/-- Position and attitude of the vehicle. -/
structure Pose (α : Type) where
  position : Vec3 α
  orientation : Quaternion α
  deriving Repr, DecidableEq

/-- Radians per second and metres per square second, along the body axes. -/
structure ImuReading (α : Type) where
  angularVelocity : Vec3 α
  acceleration : Vec3 α
  deriving Repr, DecidableEq

/-- Degrees, metres and metres per second. -/
structure GpsReading (α : Type) where
  latitude : α
  longitude : α
  altitude : α
  velocity : Vec3 α
  deriving Repr, DecidableEq

/-- A reading of one of the sensors that every vehicle has. -/
inductive Reading (α : Type) where
  | pose (pose : Pose α)
  | imu (reading : ImuReading α)
  /-- Pascal. -/
  | barometer (pressure : α)
  /-- Tesla, along the body axes. -/
  | magnetometer (field : Vec3 α)
  | gps (reading : GpsReading α)
  deriving Repr, DecidableEq

/-- A reading at its time. -/
abbrev Sample (α : Type) := Stamped (Reading α)

end HilBridge
