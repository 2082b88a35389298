import HilBridge.Config.Basic
import HilBridge.Number.Decimal

/-!
# `HilBridge.Config.Validate` — which settings a bridge starts with

`Config.validate` is the list of all checks in order; the first that fails is the error. So a valid
configuration satisfies every check, and the error of an invalid one names its first fault.
-/

namespace HilBridge

/-- Why settings are refused. -/
inductive ConfigError (α : Type) where
  | tooManyChannels (count : Nat)
  | channelIndexOutOfRange (channel index : Nat)
  | nonFiniteChannelValue (channel : Nat) (field : String)
  | invalidSkipFactor
  | invalidSpeedFactor (factor : Float)
  | invalidNoise (field : String) (noise : Noise α)
  | invalidInterval (field : String)
  | commandIndicesOutOfRange (thrust torque : Nat)
  | nonFiniteCommandScaling
  deriving Repr

/-- The error in words. -/
def ConfigError.message : ConfigError Float → String
  | .tooManyChannels count =>
    s!"Too many actuator channels: {count} (max {maxChannels})"
  | .channelIndexOutOfRange channel index =>
    s!"Channel {channel}: input index {index} outside command vector (len {maxChannels})"
  | .nonFiniteChannelValue channel field =>
    s!"Channel {channel}: {field} must be finite"
  | .invalidSkipFactor => "update_skip_factor must be at least 1"
  | .invalidSpeedFactor factor =>
    "speed_factor must be finite and positive, got " ++ Binary64.plainText factor
  | .invalidNoise field noise =>
    "Noise parameters for " ++ field ++ " are invalid (mean " ++ Binary64.plainText noise.mean
      ++ ", stddev " ++ Binary64.plainText noise.stddev ++ ")"
  | .invalidInterval field => field ++ " must be finite and non-negative"
  | .commandIndicesOutOfRange thrust torque =>
    s!"cmd_vel configuration invalid: indices ({thrust}, {torque}) must be below {maxChannels}"
  | .nonFiniteCommandScaling => "cmd_vel configuration invalid: scaling must be finite"

/-- Why a bridge with such settings does not start. -/
def ConfigError.startMessage (e : ConfigError Float) : String :=
  "Configuration error: " ++ e.message

variable {α : Type} [Scalar α]

/-- A condition, or the error of its failing. -/
def check (condition : Bool) (error : ConfigError α) : Except (ConfigError α) Unit :=
  if condition then .ok () else .error error

namespace Noise

/-- The noise of the named reading is usable. -/
def validate (field : String) (n : Noise α) : Except (ConfigError α) Unit :=
  check n.isValid (.invalidNoise field n)

end Noise

namespace Channel

/-- The numbers of a channel under the names they are configured by. -/
def values (c : Channel α) : List (String × α) :=
  [("input_scaling", c.inputScaling), ("input_offset", c.inputOffset),
   ("zero_position_disarmed", c.zeroDisarmed), ("zero_position_armed", c.zeroArmed)]

/-- The channel at a position: its entry exists and its numbers are finite. -/
def validate (position : Nat) (c : Channel α) : Except (ConfigError α) Unit := do
  check (c.inputIndex < maxChannels) (.channelIndexOutOfRange position c.inputIndex)
  c.values.forM fun (field, value) =>
    check (Scalar.isFinite value) (.nonFiniteChannelValue position field)

end Channel

namespace ThrustTorque

/-- Both entries exist and both scalings are finite. -/
def validate (t : ThrustTorque α) : Except (ConfigError α) Unit := do
  check (t.thrustIndex < maxChannels && t.torqueIndex < maxChannels)
    (.commandIndicesOutOfRange t.thrustIndex t.torqueIndex)
  check (Scalar.isFinite t.thrustScaling && Scalar.isFinite t.torqueScaling) .nonFiniteCommandScaling

end ThrustTorque

namespace SensorNoise

/-- The noise of each reading under the name it is configured by. -/
def fields (n : SensorNoise α) : List (String × Noise α) :=
  [("baro_pressure_hpa", n.pressure), ("baro_temperature_c", n.temperature),
   ("mag_gauss", n.magnetic), ("gps_horizontal_m", n.horizontal),
   ("gps_vertical_m", n.vertical), ("gps_velocity_ms", n.velocity)]

/-- The noise of every reading is usable. -/
def validate (n : SensorNoise α) : Except (ConfigError α) Unit :=
  n.fields.forM fun (field, noise) => noise.validate field

end SensorNoise

namespace Config

/-- The intervals under the names they are configured by. -/
def intervals (c : Config α) : List (String × Float) :=
  [("imu_update_interval_s", c.imuInterval), ("baro_update_interval_s", c.barometerInterval),
   ("mag_update_interval_s", c.magnetometerInterval), ("gps_update_interval_s", c.gpsInterval),
   ("heartbeat_interval_s", c.heartbeatInterval)]

/-- Every condition that a bridge relies on. -/
def validate (c : Config α) : Except (ConfigError α) Unit := do
  check (c.channels.length ≤ maxChannels) (.tooManyChannels c.channels.length)
  c.channels.zipIdx.forM fun (channel, position) => channel.validate position
  check (c.skipFactor != 0) .invalidSkipFactor
  check (c.speedFactor.isFinite && !(c.speedFactor <= 0.0)) (.invalidSpeedFactor c.speedFactor)
  c.intervals.forM fun (field, interval) =>
    check (interval.isFinite && !(interval < 0.0)) (.invalidInterval field)
  check (c.gravity.toList.all Scalar.isFinite) (.invalidInterval "gravity")
  match c.thrustTorque with
  | some t => t.validate
  | none => pure ()
  c.noise.validate

end Config

end HilBridge
