import HilBridge.Config.Validate
import HilBridge.Json.Reader
import HilBridge.Json.Record

/-!
# `HilBridge.Config.Reader` — settings from JSON

Each record of the settings lists its fields in the order in which they may be given without names, and
reads every field with the value that holds when the field is missing. `Config.read` reads a text and
checks the result; a text that cannot be read has no error of its own beyond that.
-/

namespace HilBridge

open Json (Record)

/-! ## Names of variants -/

namespace ControlType

/-- The name in configurations. -/
def name : ControlType → String
  | .motor => "motor"
  | .servo => "servo"
  | .passThrough => "pass_through"

def ofName? (name : String) : Option ControlType :=
  [motor, servo, passThrough].find? (·.name == name)

end ControlType

namespace ChannelRole

/-- The name in configurations. -/
def name : ChannelRole → String
  | .generic => "generic"
  | .propeller => "propeller"
  | .elevator => "elevator"
  | .leftElevon => "left_elevon"
  | .rightElevon => "right_elevon"

/-- All roles. -/
def all : List ChannelRole :=
  [generic, propeller, elevator, leftElevon, rightElevon]

def ofName? (name : String) : Option ChannelRole :=
  all.find? (·.name == name)

end ChannelRole

/-! ## Records -/

/-- A microsecond, millisecond or seed count: any number of 64 bits. -/
def readCount (j : Json) : Option Nat :=
  j.natBelow? (Nat.pow 2 64)

/-- A port number. -/
def readPort (j : Json) : Option UInt16 :=
  (j.natBelow? (Nat.pow 2 16)).map UInt16.ofNat

namespace Channel

def fieldNames : List String :=
  ["control_type", "input_index", "input_scaling", "input_offset", "zero_position_disarmed",
   "zero_position_armed", "role", "topic"]

/-- A channel needs its control type and its entry; it is a generic one of scale one without offsets. -/
def ofJson? (j : Json) : Option (Channel Float) := do
  let r ← j.record? fieldNames
  let control ← r.required "control_type" (·.variant?.bind ControlType.ofName?)
  let inputIndex ← r.required "input_index" readCount
  let inputScaling ← r.optional "input_scaling" Json.float? 1.0
  let inputOffset ← r.optional "input_offset" Json.float? 0.0
  let zeroDisarmed ← r.optional "zero_position_disarmed" Json.float? 0.0
  let zeroArmed ← r.optional "zero_position_armed" Json.float? 0.0
  let role ← r.optional "role" (·.variant?.bind ChannelRole.ofName?) .generic
  let topic ← r.optional "topic" (Json.nullable? Json.text?) none
  some { control, inputIndex, inputScaling, inputOffset, zeroDisarmed, zeroArmed, role, topic }

end Channel

namespace ThrustTorque

def fieldNames : List String :=
  ["thrust_index", "torque_index", "thrust_scaling", "torque_scaling"]

def ofJson? (j : Json) : Option (ThrustTorque Float) := do
  let missing : ThrustTorque Float := .default
  let r ← j.record? fieldNames
  let thrustIndex ← r.optional "thrust_index" readCount missing.thrustIndex
  let torqueIndex ← r.optional "torque_index" readCount missing.torqueIndex
  let thrustScaling ← r.optional "thrust_scaling" Json.float? missing.thrustScaling
  let torqueScaling ← r.optional "torque_scaling" Json.float? missing.torqueScaling
  some { thrustIndex, torqueIndex, thrustScaling, torqueScaling }

end ThrustTorque

namespace ExternalControllers

def fieldNames : List String :=
  ["use_propeller_pid", "use_elevator_pid", "use_left_elevon_pid", "use_right_elevon_pid"]

def ofJson? (j : Json) : Option ExternalControllers := do
  let r ← j.record? fieldNames
  let propeller ← r.optional "use_propeller_pid" Json.bool? none.propeller
  let elevator ← r.optional "use_elevator_pid" Json.bool? none.elevator
  let leftElevon ← r.optional "use_left_elevon_pid" Json.bool? none.leftElevon
  let rightElevon ← r.optional "use_right_elevon_pid" Json.bool? none.rightElevon
  some { propeller, elevator, leftElevon, rightElevon }

end ExternalControllers

namespace Topics

def fieldNames : List String :=
  ["pose", "imu", "gps", "magnetometer", "barometer", "cmd_vel", "motor_speed"]

def ofJson? (j : Json) : Option Topics := do
  let r ← j.record? fieldNames
  let pose ← r.optional "pose" Json.text? default.pose
  let imu ← r.optional "imu" Json.text? default.imu
  let gps ← r.optional "gps" Json.text? default.gps
  let magnetometer ← r.optional "magnetometer" Json.text? default.magnetometer
  let barometer ← r.optional "barometer" Json.text? default.barometer
  let cmdVel ← r.optional "cmd_vel" Json.text? default.cmdVel
  let motorSpeed ← r.optional "motor_speed" Json.text? default.motorSpeed
  some { pose, imu, gps, magnetometer, barometer, cmdVel, motorSpeed }

end Topics

namespace GeoPoint

def fieldNames : List String :=
  ["lat_deg", "lon_deg", "alt_m"]

def ofJson? (j : Json) : Option (GeoPoint Float) := do
  let missing : GeoPoint Float := .default
  let r ← j.record? fieldNames
  let latitude ← r.optional "lat_deg" Json.float? missing.latitude
  let longitude ← r.optional "lon_deg" Json.float? missing.longitude
  let altitude ← r.optional "alt_m" Json.float? missing.altitude
  some { latitude, longitude, altitude }

end GeoPoint

namespace Noise

def fieldNames : List String :=
  ["mean", "stddev"]

/-- A part that is missing is zero, whatever noise the reading has by default. -/
def ofJson? (j : Json) : Option (Noise Float) := do
  let missing : Noise Float := .none
  let r ← j.record? fieldNames
  let mean ← r.optional "mean" Json.float? missing.mean
  let stddev ← r.optional "stddev" Json.float? missing.stddev
  some { mean, stddev }

end Noise

namespace SensorNoise

def fieldNames : List String :=
  ["baro_pressure_hpa", "baro_temperature_c", "mag_gauss", "gps_horizontal_m", "gps_vertical_m",
   "gps_velocity_ms"]

def ofJson? (j : Json) : Option (SensorNoise Float) := do
  let missing : SensorNoise Float := .default
  let r ← j.record? fieldNames
  let pressure ← r.optional "baro_pressure_hpa" Noise.ofJson? missing.pressure
  let temperature ← r.optional "baro_temperature_c" Noise.ofJson? missing.temperature
  let magnetic ← r.optional "mag_gauss" Noise.ofJson? missing.magnetic
  let horizontal ← r.optional "gps_horizontal_m" Noise.ofJson? missing.horizontal
  let vertical ← r.optional "gps_vertical_m" Noise.ofJson? missing.vertical
  let velocity ← r.optional "gps_velocity_ms" Noise.ofJson? missing.velocity
  some { pressure, temperature, magnetic, horizontal, vertical, velocity }

end SensorNoise

namespace RetryPolicy

def fieldNames : List String :=
  ["max_attempts", "initial_backoff_ms", "max_backoff_ms"]

def ofJson? (j : Json) : Option RetryPolicy := do
  let r ← j.record? fieldNames
  let maxAttempts ← r.optional "max_attempts" (Json.natBelow? (Nat.pow 2 32)) default.maxAttempts
  let initialBackoffMs ← r.optional "initial_backoff_ms" readCount default.initialBackoffMs
  let maxBackoffMs ← r.optional "max_backoff_ms" readCount default.maxBackoffMs
  some { maxAttempts, initialBackoffMs, maxBackoffMs }

end RetryPolicy

/-- A vector as an array of its three components. -/
def Vec3.ofJson? (j : Json) : Option (Vec3 Float) :=
  match j.list? Json.float? with
  | some [x, y, z] => some ⟨x, y, z⟩
  | _ => none

namespace Config

def fieldNames : List String :=
  ["namespace", "topics", "hostname", "port", "local_port", "protocol_version", "enable_lockstep",
   "speed_factor", "update_skip_factor", "imu_update_interval_s", "baro_update_interval_s",
   "mag_update_interval_s", "gps_update_interval_s", "heartbeat_interval_s", "lockstep_timeout_ms",
   "gravity", "home", "noise", "channels", "cmd_vel", "external_controllers", "resolver",
   "random_seed", "range_sensor_links"]

/-- The settings that a JSON value gives, the default ones where it gives none. -/
def ofJson? (j : Json) : Option (Config Float) := do
  let missing : Config Float := .default
  let r ← j.record? fieldNames
  let topicNamespace ← r.optional "namespace" Json.text? missing.topicNamespace
  let topics ← r.optional "topics" Topics.ofJson? missing.topics
  let hostname ← r.optional "hostname" Json.text? missing.hostname
  let port ← r.optional "port" readPort missing.port
  let localPort ← r.optional "local_port" readPort missing.localPort
  let protocolVersion ← r.optional "protocol_version" Json.binary32? missing.protocolVersion
  let lockstep ← r.optional "enable_lockstep" Json.bool? missing.lockstep
  let speedFactor ← r.optional "speed_factor" Json.float? missing.speedFactor
  let skipFactor ← r.optional "update_skip_factor" (Json.natBelow? (Nat.pow 2 8)) missing.skipFactor.toNat
  let imuInterval ← r.optional "imu_update_interval_s" Json.float? missing.imuInterval
  let barometerInterval ← r.optional "baro_update_interval_s" Json.float? missing.barometerInterval
  let magnetometerInterval ←
    r.optional "mag_update_interval_s" Json.float? missing.magnetometerInterval
  let gpsInterval ← r.optional "gps_update_interval_s" Json.float? missing.gpsInterval
  let heartbeatInterval ← r.optional "heartbeat_interval_s" Json.float? missing.heartbeatInterval
  let lockstepTimeoutMs ← r.optional "lockstep_timeout_ms" readCount missing.lockstepTimeoutMs
  let gravity ← r.optional "gravity" Vec3.ofJson? missing.gravity
  let home ← r.optional "home" GeoPoint.ofJson? missing.home
  let noise ← r.optional "noise" SensorNoise.ofJson? missing.noise
  let channels ← r.optional "channels" (Json.list? Channel.ofJson?) missing.channels
  let thrustTorque ←
    r.optional "cmd_vel" (Json.nullable? ThrustTorque.ofJson?) missing.thrustTorque
  let externalControllers ←
    r.optional "external_controllers" ExternalControllers.ofJson? missing.externalControllers
  let resolver ← r.optional "resolver" RetryPolicy.ofJson? missing.resolver
  let seed ← r.optional "random_seed" (Json.nullable? readCount) (missing.randomSeed.map UInt64.toNat)
  let rangeSensorLinks ←
    r.optional "range_sensor_links" (Json.list? Json.text?) missing.rangeSensorLinks
  some
    { topicNamespace, topics, hostname, port, localPort, protocolVersion, lockstep, speedFactor
      skipFactor := UInt8.ofNat skipFactor
      imuInterval, barometerInterval, magnetometerInterval, gpsInterval, heartbeatInterval
      lockstepTimeoutMs, gravity, home, noise, channels, thrustTorque, externalControllers, resolver
      randomSeed := seed.map UInt64.ofNat
      rangeSensorLinks }

/-- What a configuration text comes to. -/
inductive ReadError where
  /-- The text does not write settings. -/
  | unreadable
  | refused (error : ConfigError Float)

/-- The settings of a text that writes some and whose settings are valid. -/
def read (text : String) : Except ReadError (Config Float) :=
  match (Json.parse? text).bind ofJson? with
  | none => .error .unreadable
  | some config =>
    match config.validate with
    | .error e => .error (.refused e)
    | .ok () => .ok config

end Config

end HilBridge
