import HilBridge.Actuator.Outputs
import HilBridge.Geometry.Quaternion
import HilBridge.Wire.Dialect
import HilBridge.Wire.Words

/-!
# `HilBridge.Wire.Packet` — what the simulator and the autopilot say to each other

A packet is a record of whole numbers and single-precision bit patterns. Its kind fixes the number that
identifies it on the wire, the seed that its check ends with, and the widths of its fields in the order in
which they are sent. A field that names one of several things, such as the type of a vehicle, refuses the
numbers that name nothing; a field of flags forgets the flags that are not known.
-/

namespace HilBridge.Wire

/-! ## Kinds -/

/-- The kinds of packet. -/
inductive PacketKind where
  | heartbeat
  | sensors
  | gps
  | truth
  | distance
  | actuators
  deriving Repr, DecidableEq

namespace PacketKind

def all : List PacketKind :=
  [.heartbeat, .sensors, .gps, .truth, .distance, .actuators]

/-- What a kind is called on the wire. -/
def id : PacketKind → Nat
  | .heartbeat => 0
  | .sensors => 107
  | .gps => 113
  | .truth => 115
  | .distance => 132
  | .actuators => 93

/-- The byte that the check of a frame ends with, which sender and receiver know. -/
def seed : PacketKind → UInt8
  | .heartbeat => 50
  | .sensors => 108
  | .gps => 124
  | .truth => 4
  | .distance => 85
  | .actuators => 47

/-- The widths of the fields, in bytes. -/
def widths : PacketKind → List Nat
  | .heartbeat => [4, 1, 1, 1, 1, 1]
  | .sensors => 8 :: List.replicate 13 4 ++ [4, 1]
  | .gps => [8, 4, 4, 4, 2, 2, 2, 2, 2, 2, 2, 1, 1, 1, 2]
  | .truth => 8 :: List.replicate 10 4 ++ List.replicate 8 2
  | .distance => [4, 2, 2, 2, 1, 1, 1, 1] ++ List.replicate 6 4 ++ [1]
  | .actuators => 8 :: 8 :: List.replicate 16 4 ++ [1]

/-- The kind that is called so on the wire. -/
def ofId? (id : Nat) : Option PacketKind :=
  all.find? (·.id == id)

/-- The seed of a frame of any name. A name that stands for no kind has seed zero. -/
def seedOf (id : Nat) : UInt8 :=
  match ofId? id with
  | some kind => kind.seed
  | none => (otherSeed? id).getD 0

end PacketKind

/-! ## Packets -/

/-- A sign of life. -/
structure HeartbeatPacket where
  customMode : UInt32
  vehicleType : UInt8
  autopilot : UInt8
  baseMode : UInt8
  systemStatus : UInt8
  version : UInt8
  deriving Repr, DecidableEq

/-- Inertial, magnetic and pressure readings; `updated` has a flag for each that is new. -/
structure SensorPacket where
  time : UInt64
  acceleration : Vec3 Binary32
  angularVelocity : Vec3 Binary32
  magneticField : Vec3 Binary32
  pressure : Binary32
  differentialPressure : Binary32
  pressureAltitude : Binary32
  temperature : Binary32
  updated : UInt32
  id : UInt8
  deriving Repr, DecidableEq

/-- A position fix: degrees in units of `1e-7`, millimetres, centimetres per second, centidegrees. -/
structure GpsPacket where
  time : UInt64
  latitude : Int32
  longitude : Int32
  altitude : Int32
  horizontalAccuracy : UInt16
  verticalAccuracy : UInt16
  speed : UInt16
  velocity : Vec3 Int16
  course : UInt16
  fixType : UInt8
  satellites : UInt8
  id : UInt8
  yaw : UInt16
  deriving Repr, DecidableEq

/-- The true motion, in the units of a position fix; accelerations in thousandths of gravity. -/
structure TruthPacket where
  time : UInt64
  attitude : Quaternion Binary32
  rates : Vec3 Binary32
  latitude : Int32
  longitude : Int32
  altitude : Int32
  velocity : Vec3 Int16
  indicatedAirspeed : UInt16
  trueAirspeed : UInt16
  acceleration : Vec3 Int16
  deriving Repr, DecidableEq

/-- A distance in centimetres. -/
structure DistancePacket where
  /-- Milliseconds. -/
  time : UInt32
  least : UInt16
  greatest : UInt16
  current : UInt16
  sensorType : UInt8
  id : UInt8
  orientation : UInt8
  covariance : UInt8
  horizontalView : Binary32
  verticalView : Binary32
  attitude : Quaternion Binary32
  quality : UInt8
  deriving Repr, DecidableEq

/-- A command of the autopilot. -/
structure ActuatorPacket where
  time : UInt64
  flags : UInt64
  controls : Vector Binary32 16
  mode : UInt8
  deriving Repr, DecidableEq

/-- A packet of any kind. -/
inductive Packet where
  | heartbeat (packet : HeartbeatPacket)
  | sensors (packet : SensorPacket)
  | gps (packet : GpsPacket)
  | truth (packet : TruthPacket)
  | distance (packet : DistancePacket)
  | actuators (packet : ActuatorPacket)
  deriving Repr, DecidableEq

def Packet.kind : Packet → PacketKind
  | .heartbeat _ => .heartbeat
  | .sensors _ => .sensors
  | .gps _ => .gps
  | .truth _ => .truth
  | .distance _ => .distance
  | .actuators _ => .actuators

/-! ## Fields as numbers -/

/-- A bit pattern as a number. -/
def floatWord (x : Binary32) : Nat :=
  x.bits.toNat

/-- A number of 16 bits with sign as one without. -/
def int16Word (x : Int16) : Nat :=
  x.toUInt16.toNat

/-- A number of 32 bits with sign as one without. -/
def int32Word (x : Int32) : Nat :=
  x.toUInt32.toNat

/-- The words of a packet, in the order in which they are sent. -/
def Packet.words : Packet → List Nat
  | .heartbeat p =>
    [p.customMode.toNat, p.vehicleType.toNat, p.autopilot.toNat, p.baseMode.toNat,
     p.systemStatus.toNat, p.version.toNat]
  | .sensors p =>
    p.time.toNat
      :: ((p.acceleration.toList ++ p.angularVelocity.toList ++ p.magneticField.toList
            ++ [p.pressure, p.differentialPressure, p.pressureAltitude, p.temperature]).map floatWord
          ++ [p.updated.toNat, p.id.toNat])
  | .gps p =>
    p.time.toNat
      :: ([p.latitude, p.longitude, p.altitude].map int32Word
          ++ [p.horizontalAccuracy.toNat, p.verticalAccuracy.toNat, p.speed.toNat]
          ++ p.velocity.toList.map int16Word
          ++ [p.course.toNat, p.fixType.toNat, p.satellites.toNat, p.id.toNat, p.yaw.toNat])
  | .truth p =>
    p.time.toNat
      :: ((p.attitude.toList ++ p.rates.toList).map floatWord
          ++ [p.latitude, p.longitude, p.altitude].map int32Word
          ++ p.velocity.toList.map int16Word
          ++ [p.indicatedAirspeed.toNat, p.trueAirspeed.toNat]
          ++ p.acceleration.toList.map int16Word)
  | .distance p =>
    [p.time.toNat, p.least.toNat, p.greatest.toNat, p.current.toNat, p.sensorType.toNat, p.id.toNat,
     p.orientation.toNat, p.covariance.toNat]
      ++ ([p.horizontalView, p.verticalView] ++ p.attitude.toList).map floatWord
      ++ [p.quality.toNat]
  | .actuators p =>
    p.time.toNat :: p.flags.toNat :: (p.controls.toList.map floatWord ++ [p.mode.toNat])

/-! ## Fields from numbers -/

/-- The bit pattern that a number stands for. -/
def wordFloat (n : Nat) : Binary32 :=
  ⟨UInt32.ofNat n⟩

/-- The number of 16 bits with sign that one without stands for. -/
def wordInt16 (n : Nat) : Int16 :=
  (UInt16.ofNat n).toInt16

/-- The number of 32 bits with sign that one without stands for. -/
def wordInt32 (n : Nat) : Int32 :=
  (UInt32.ofNat n).toInt32

/-- Three consecutive words as a vector. -/
def wordVec {β : Type} (read : Nat → β) (word : Nat → Nat) (first : Nat) : Vec3 β :=
  ⟨read (word first), read (word (first + 1)), read (word (first + 2))⟩

/-- Four consecutive words as a quaternion, scalar first. -/
def wordQuaternion (word : Nat → Nat) (first : Nat) : Quaternion Binary32 :=
  ⟨wordFloat (word first), wordVec wordFloat word (first + 1)⟩

/-- The flags of readings that are known. -/
def knownUpdates : UInt32 :=
  0x80001fff

/-- The flags of commands that are known. -/
def knownActuatorFlags : UInt64 :=
  1

namespace Packet

/-- Whether every field that names something names what there is. -/
def isValid : Packet → Bool
  | .heartbeat p => p.vehicleType ≤ 45 && p.autopilot ≤ 20 && p.systemStatus ≤ 8
  | .distance p => p.sensorType ≤ 4 && (p.orientation ≤ 40 || p.orientation == 100)
  | _ => true

/-- The packet of a kind with the given words, whatever they name. -/
def ofWords (kind : PacketKind) (word : Nat → Nat) : Packet :=
  match kind with
  | .heartbeat =>
    .heartbeat
      { customMode := .ofNat (word 0)
        vehicleType := .ofNat (word 1)
        autopilot := .ofNat (word 2)
        baseMode := .ofNat (word 3)
        systemStatus := .ofNat (word 4)
        version := .ofNat (word 5) }
  | .sensors =>
    .sensors
      { time := .ofNat (word 0)
        acceleration := wordVec wordFloat word 1
        angularVelocity := wordVec wordFloat word 4
        magneticField := wordVec wordFloat word 7
        pressure := wordFloat (word 10)
        differentialPressure := wordFloat (word 11)
        pressureAltitude := wordFloat (word 12)
        temperature := wordFloat (word 13)
        updated := UInt32.ofNat (word 14) &&& knownUpdates
        id := .ofNat (word 15) }
  | .gps =>
    .gps
      { time := .ofNat (word 0)
        latitude := wordInt32 (word 1)
        longitude := wordInt32 (word 2)
        altitude := wordInt32 (word 3)
        horizontalAccuracy := .ofNat (word 4)
        verticalAccuracy := .ofNat (word 5)
        speed := .ofNat (word 6)
        velocity := wordVec wordInt16 word 7
        course := .ofNat (word 10)
        fixType := .ofNat (word 11)
        satellites := .ofNat (word 12)
        id := .ofNat (word 13)
        yaw := .ofNat (word 14) }
  | .truth =>
    .truth
      { time := .ofNat (word 0)
        attitude := wordQuaternion word 1
        rates := wordVec wordFloat word 5
        latitude := wordInt32 (word 8)
        longitude := wordInt32 (word 9)
        altitude := wordInt32 (word 10)
        velocity := wordVec wordInt16 word 11
        indicatedAirspeed := .ofNat (word 14)
        trueAirspeed := .ofNat (word 15)
        acceleration := wordVec wordInt16 word 16 }
  | .distance =>
    .distance
      { time := .ofNat (word 0)
        least := .ofNat (word 1)
        greatest := .ofNat (word 2)
        current := .ofNat (word 3)
        sensorType := .ofNat (word 4)
        id := .ofNat (word 5)
        orientation := .ofNat (word 6)
        covariance := .ofNat (word 7)
        horizontalView := wordFloat (word 8)
        verticalView := wordFloat (word 9)
        attitude := wordQuaternion word 10
        quality := .ofNat (word 14) }
  | .actuators =>
    .actuators
      { time := .ofNat (word 0)
        flags := UInt64.ofNat (word 1) &&& knownActuatorFlags
        controls := Vector.ofFn fun i => wordFloat (word (i + 2))
        mode := .ofNat (word 18) }

/-- The bytes of a packet. -/
def payload (p : Packet) : List UInt8 :=
  writeWords p.kind.widths p.words

/-- The packet of a kind that some bytes write, if it is valid. -/
def ofPayload? (kind : PacketKind) (bytes : List UInt8) : Option Packet :=
  let words := readWords kind.widths bytes
  let packet := ofWords kind fun i => words.getD i 0
  if packet.isValid then some packet else none

end Packet

/-! ## Commands -/

/-- The mode bit of an armed vehicle. -/
def armedMode : UInt8 :=
  128

namespace ActuatorPacket

/-- Whether the mode is that of an armed vehicle. -/
def isArmed (p : ActuatorPacket) : Bool :=
  p.mode &&& armedMode != 0

/-- The command that the packet carries. -/
def command (p : ActuatorPacket) : Command Float :=
  ⟨p.time.toNat, p.controls.toList.map Binary32.toFloat, p.isArmed⟩

end ActuatorPacket

end HilBridge.Wire
