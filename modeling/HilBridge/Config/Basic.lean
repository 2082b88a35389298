import HilBridge.Noise

/-!
# `HilBridge.Config.Basic` — the settings of a bridge and their defaults

Timings, rates and the protocol version are double or single precision numbers as configured. What enters
the physics (gravity, home position, noise, actuator scalings) is over any `Scalar`, like the models that
use it.
-/

namespace HilBridge

/-- Length of a command vector, and so the largest number of actuator channels. -/
def maxChannels : Nat :=
  16

/-! ## Actuator channels -/

/-- Where the output of a channel goes. -/
inductive ControlType where
  /-- A rotor velocity. -/
  | motor
  /-- A joint position. -/
  | servo
  /-- A normalized command for an external joint controller. -/
  | passThrough
  deriving Repr, DecidableEq

/-- What a channel moves on the airframe. -/
inductive ChannelRole where
  | generic
  | propeller
  | elevator
  | leftElevon
  | rightElevon
  deriving Repr, DecidableEq

/-- One actuator output and how it follows from an entry of the command. -/
structure Channel (α : Type) where
  control : ControlType
  /-- Position of the entry in the command vector. -/
  inputIndex : Nat
  inputScaling : α
  inputOffset : α
  zeroDisarmed : α
  zeroArmed : α
  role : ChannelRole
  topic : Option String
  deriving Repr, DecidableEq

namespace Channel

variable {α : Type} [Scalar α]

/-- A rotor: no offsets, no role. -/
def motor (inputIndex : Nat) (inputScaling : α) : Channel α :=
  { control := .motor
    inputIndex, inputScaling
    inputOffset := 0.0
    zeroDisarmed := 0.0
    zeroArmed := 0.0
    role := .generic
    topic := none }

/-- A joint: no offsets, no role. -/
def servo (inputIndex : Nat) (inputScaling : α) : Channel α :=
  { motor inputIndex inputScaling with control := .servo }

end Channel

/-- Two entries of the command taken as thrust and torque of the whole vehicle, in place of all channels. -/
structure ThrustTorque (α : Type) where
  thrustIndex : Nat
  torqueIndex : Nat
  thrustScaling : α
  torqueScaling : α
  deriving Repr, DecidableEq

/-- The first two entries, unscaled. -/
def ThrustTorque.default {α : Type} [Scalar α] : ThrustTorque α :=
  ⟨0, 1, 1.0, 1.0⟩

/-- The roles that an external closed-loop controller drives. -/
structure ExternalControllers where
  propeller : Bool
  elevator : Bool
  leftElevon : Bool
  rightElevon : Bool
  deriving Repr, DecidableEq

namespace ExternalControllers

def none : ExternalControllers :=
  ⟨false, false, false, false⟩

/-- Whether a controller drives channels of the role. -/
def handles (e : ExternalControllers) : ChannelRole → Bool
  | .generic => false
  | .propeller => e.propeller
  | .elevator => e.elevator
  | .leftElevon => e.leftElevon
  | .rightElevon => e.rightElevon

end ExternalControllers

/-! ## Topics -/

/-- Names of the simulation's topics, relative to a namespace. -/
structure Topics where
  pose : String
  imu : String
  gps : String
  magnetometer : String
  barometer : String
  cmdVel : String
  motorSpeed : String
  deriving Repr, DecidableEq

namespace Topics

def default : Topics :=
  { pose := "/pose"
    imu := "/imu"
    gps := "/gps"
    magnetometer := "/magnetometer"
    barometer := "/air_pressure"
    cmdVel := "/cmd_vel"
    motorSpeed := "/gazebo/command/motor_speed" }

/-- All names, in the order of the fields. -/
def toList (t : Topics) : List String :=
  [t.pose, t.imu, t.gps, t.magnetometer, t.barometer, t.cmdVel, t.motorSpeed]

end Topics

/-- The text without slashes at its front. -/
def trimSlashesLeft (text : String) : String :=
  String.ofList (text.toList.dropWhile (· == '/'))

/-- The text without slashes at its end. -/
def trimSlashesRight (text : String) : String :=
  String.ofList (text.toList.reverse.dropWhile (· == '/')).reverse

/-- A topic under a namespace: one slash in front of each of the two, an empty namespace left out. -/
def qualifiedTopic (space topic : String) : String :=
  let space := trimSlashesRight (trimSlashesLeft space)
  let topic := "/" ++ trimSlashesLeft topic
  if space.isEmpty then topic else "/" ++ space ++ topic

/-! ## Sensors and surroundings -/

/-- A point on the earth: degrees and metres. -/
structure GeoPoint (α : Type) where
  latitude : α
  longitude : α
  altitude : α
  deriving Repr, DecidableEq

/-- The home position where none is configured. -/
def GeoPoint.default {α : Type} [Scalar α] : GeoPoint α :=
  ⟨47.397742, 8.545594, 488.0⟩

/-- The noise put on each kind of reading. -/
structure SensorNoise (α : Type) where
  /-- Hectopascal. -/
  pressure : Noise α
  /-- Degrees Celsius. -/
  temperature : Noise α
  /-- Gauss, on each axis. -/
  magnetic : Noise α
  /-- Metres, north and east. -/
  horizontal : Noise α
  /-- Metres. -/
  vertical : Noise α
  /-- Metres per second, on each axis. -/
  velocity : Noise α
  deriving Repr, DecidableEq

/-- A little noise on pressure, temperature and magnetic field, none on positions. -/
def SensorNoise.default {α : Type} [Scalar α] : SensorNoise α :=
  { pressure := ⟨0.0, 0.01⟩
    temperature := ⟨0.0, 0.05⟩
    magnetic := ⟨0.0, 0.001⟩
    horizontal := .none
    vertical := .none
    velocity := .none }

/-! ## The whole -/

/-- How often and how patiently the autopilot's host name is looked up. -/
structure RetryPolicy where
  maxAttempts : Nat
  initialBackoffMs : Nat
  maxBackoffMs : Nat
  deriving Repr, DecidableEq

def RetryPolicy.default : RetryPolicy :=
  ⟨5, 100, 2000⟩

/-- The settings of a bridge. -/
structure Config (α : Type) where
  /-- Namespace of the simulation's topics. -/
  topicNamespace : String
  topics : Topics
  hostname : String
  port : UInt16
  /-- Zero lets the system choose. -/
  localPort : UInt16
  protocolVersion : Binary32
  lockstep : Bool
  /-- Simulated seconds per second, outside lockstep. -/
  speedFactor : Float
  /-- In lockstep the IMU goes out in every so many cycles. -/
  skipFactor : UInt8
  /-- Seconds between IMU messages, outside lockstep. -/
  imuInterval : Float
  barometerInterval : Float
  magnetometerInterval : Float
  gpsInterval : Float
  heartbeatInterval : Float
  lockstepTimeoutMs : Nat
  /-- Metres per square second, east, north, up. -/
  gravity : Vec3 α
  home : GeoPoint α
  noise : SensorNoise α
  channels : List (Channel α)
  thrustTorque : Option (ThrustTorque α)
  externalControllers : ExternalControllers
  resolver : RetryPolicy
  randomSeed : Option UInt64
  /-- Names of the vehicle's links, among which range sensors are looked for. -/
  rangeSensorLinks : List String
  deriving Repr, DecidableEq

namespace Config

variable {α : Type} [Scalar α]

/-- The settings that hold where nothing is said. -/
def default : Config α :=
  { topicNamespace := ""
    topics := .default
    hostname := "localhost"
    port := 4560
    localPort := 0
    protocolVersion := .ofNat 2
    lockstep := false
    speedFactor := 1.0
    skipFactor := 1
    imuInterval := 0.004
    barometerInterval := 0.02
    magnetometerInterval := 0.02
    gpsInterval := 0.2
    heartbeatInterval := 1.0
    lockstepTimeoutMs := 500
    gravity := ⟨0.0, 0.0, -9.8⟩
    home := .default
    noise := .default
    channels := []
    thrustTorque := none
    externalControllers := .none
    resolver := .default
    randomSeed := none
    rangeSensorLinks := [] }

/-- The name of a topic under the configured namespace. -/
def topic (c : Config α) (name : String) : String :=
  qualifiedTopic c.topicNamespace name

/-- Host and port of the autopilot, as one text. -/
def autopilotAddress (c : Config α) : String :=
  c.hostname ++ ":" ++ toString c.port.toNat

end Config

/-- Largest count of 64 bits. -/
def maxCount : Nat :=
  Nat.pow 2 64 - 1

/-- Seconds as whole microseconds: the nearest, and within 64 bits. -/
def microseconds (seconds : Float) : Nat :=
  (Binary64.roundClamped 0 maxCount (seconds * 1000000.0)).toNat

end HilBridge
