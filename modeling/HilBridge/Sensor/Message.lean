import HilBridge.Sensor.Discovery
import HilBridge.Sensor.Sample

/-!
# `HilBridge.Sensor.Message` — what the autopilot is told

Reports are in the autopilot's conventions: world vectors north, east, down and body vectors forward, right,
down. A message is a report with the time of the sample it was made from, or a heartbeat.
-/

namespace HilBridge

/-- Inertial measurements and the number of their sample. -/
structure ImuReport (α : Type) where
  seq : UInt8
  /-- Metres per square second. -/
  acceleration : Vec3 α
  /-- Radians per second. -/
  angularVelocity : Vec3 α
  deriving Repr, DecidableEq

/-- Pressure, and the altitude and temperature that go with it. -/
structure BarometerReport (α : Type) where
  /-- Hectopascal. -/
  pressure : α
  /-- Metres. -/
  altitude : α
  /-- Degrees Celsius. -/
  temperature : α
  deriving Repr, DecidableEq

/-- Position and velocity with their accuracy. -/
structure GpsReport (α : Type) where
  latitude : α
  longitude : α
  altitude : α
  velocity : Vec3 α
  /-- Horizontal and vertical accuracy in metres. -/
  horizontalAccuracy : α
  verticalAccuracy : α
  fixType : UInt8
  satellites : UInt8
  deriving Repr, DecidableEq

/-- The true motion of the vehicle. -/
structure TruthReport (α : Type) where
  attitude : Quaternion α
  angularVelocity : Vec3 α
  latitude : α
  longitude : α
  altitude : α
  velocity : Vec3 α
  /-- What an accelerometer would read. -/
  acceleration : Vec3 α
  deriving Repr, DecidableEq

/-- A distance and the limits of the sensor that measured it, in metres. -/
structure RangeReport (α : Type) where
  kind : RangeKind
  distance : α
  least : α
  greatest : α
  deriving Repr, DecidableEq

/-- A report of one category. -/
inductive Report (α : Type) where
  | imu (report : ImuReport α)
  | barometer (report : BarometerReport α)
  /-- Gauss, along the body axes. -/
  | magnetometer (field : Vec3 α)
  | gps (report : GpsReport α)
  | groundTruth (report : TruthReport α)
  | range (report : RangeReport α)
  deriving Repr, DecidableEq

/-- What goes to the autopilot. -/
inductive Message (α : Type) where
  | heartbeat
  | report (report : Stamped (Report α))
  deriving Repr, DecidableEq

namespace Message

variable {α : Type}

/-- The report of a message that is one. -/
def report? : Message α → Option (Stamped (Report α))
  | .heartbeat => none
  | .report made => some made

/-- The sample time of a message from the inertial measurement unit. -/
def imuTime? : Message α → Option Nat
  | .report ⟨time, .imu _⟩ => some time
  | _ => none

end Message

end HilBridge
