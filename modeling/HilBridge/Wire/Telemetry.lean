import HilBridge.Sensor.Message
import HilBridge.Wire.Packet

/-!
# `HilBridge.Wire.Telemetry` — the packets of the bridge's messages

Quantities go out in the units of the wire. Where those are whole numbers, the nearest one is taken, and the
largest or smallest there is if it does not fit; "not a number" becomes zero.
-/

namespace HilBridge.Wire

/-! ## Units -/

/-- The nearest unsigned number of 16 bits. -/
def nearestU16 (x : Float) : UInt16 :=
  .ofInt (Binary64.roundClamped 0 65535 x)

/-- The nearest signed number of 16 bits. -/
def nearestI16 (x : Float) : Int16 :=
  .ofInt (Binary64.roundClamped (-32768) 32767 x)

/-- The nearest signed number of 32 bits. -/
def nearestI32 (x : Float) : Int32 :=
  .ofInt (Binary64.roundClamped (-2147483648) 2147483647 x)

/-- Degrees in units of `1e-7`. -/
def degreeUnits (degrees : Float) : Int32 :=
  nearestI32 (degrees * 1e7)

/-- Metres in millimetres. -/
def millimeters (meters : Float) : Int32 :=
  nearestI32 (meters * 1000.0)

/-- Metres, or metres per second, in hundredths. -/
def hundredths (x : Float) : UInt16 :=
  nearestU16 (x * 100.0)

/-- Metres per second in hundredths, with sign. -/
def signedHundredths (x : Float) : Int16 :=
  nearestI16 (x * 100.0)

/-- Metres per square second in thousandths of standard gravity. -/
def milliGravity (x : Float) : Int16 :=
  nearestI16 (x / 9.80665 * 1000.0)

/-- The direction of a velocity in hundredths of a degree, clockwise from north. No motion is north. -/
def course (north east : Float) : UInt16 :=
  if north == 0.0 && east == 0.0 then 0
  else
    let degrees := Scalar.modulo (Scalar.degrees (Scalar.atan2 east north)) 360.0
    nearestU16 (degrees * 100.0) % 36000

/-- A vector in single precision. -/
def singleVec (v : Vec3 Float) : Vec3 Binary32 :=
  v.map .ofFloat

/-- A quaternion in single precision. -/
def singleQuaternion (q : Quaternion Float) : Quaternion Binary32 :=
  ⟨.ofFloat q.w, singleVec q.imag⟩

/-! ## Packets -/

/-- The bridge's sign of life: an active system that is no autopilot. -/
def heartbeat : HeartbeatPacket :=
  { customMode := 0
    vehicleType := 0
    autopilot := 8
    baseMode := 0
    systemStatus := 4
    version := 3 }

/-- Readings of which none is there. -/
def noReadings (time : Nat) : SensorPacket :=
  let zero : Binary32 := .ofNat 0
  { time := .ofNat time
    acceleration := ⟨zero, zero, zero⟩
    angularVelocity := ⟨zero, zero, zero⟩
    magneticField := ⟨zero, zero, zero⟩
    pressure := zero
    differentialPressure := zero
    pressureAltitude := zero
    temperature := zero
    updated := 0
    id := 0 }

/-- The flags of acceleration and angular velocity. -/
def inertialUpdate : UInt32 :=
  0x3f

/-- The flags of the magnetic field. -/
def magneticUpdate : UInt32 :=
  0x1c0

/-- The flags of pressure, pressure altitude and temperature. -/
def pressureUpdate : UInt32 :=
  0x1a00

def ofImu (time : Nat) (r : ImuReport Float) : SensorPacket :=
  { noReadings time with
    acceleration := singleVec r.acceleration
    angularVelocity := singleVec r.angularVelocity
    updated := inertialUpdate }

def ofBarometer (time : Nat) (r : BarometerReport Float) : SensorPacket :=
  { noReadings time with
    pressure := .ofFloat r.pressure
    pressureAltitude := .ofFloat r.altitude
    temperature := .ofFloat r.temperature
    updated := pressureUpdate }

def ofMagnetometer (time : Nat) (field : Vec3 Float) : SensorPacket :=
  { noReadings time with
    magneticField := singleVec field
    updated := magneticUpdate }

def ofGps (time : Nat) (r : GpsReport Float) : GpsPacket :=
  { time := .ofNat time
    latitude := degreeUnits r.latitude
    longitude := degreeUnits r.longitude
    altitude := millimeters r.altitude
    horizontalAccuracy := hundredths r.horizontalAccuracy
    verticalAccuracy := hundredths r.verticalAccuracy
    speed := hundredths r.velocity.horizontalNorm
    velocity := r.velocity.map signedHundredths
    course := course r.velocity.x r.velocity.y
    fixType := r.fixType
    satellites := r.satellites
    id := 0
    yaw := 0 }

def ofTruth (time : Nat) (r : TruthReport Float) : TruthPacket :=
  { time := .ofNat time
    attitude := singleQuaternion r.attitude
    rates := singleVec r.angularVelocity
    latitude := degreeUnits r.latitude
    longitude := degreeUnits r.longitude
    altitude := millimeters r.altitude
    velocity := r.velocity.map signedHundredths
    indicatedAirspeed := hundredths r.velocity.norm
    trueAirspeed := hundredths r.velocity.norm
    acceleration := r.acceleration.map milliGravity }

/-- The number of a kind of distance sensor. -/
def distanceSensorType : RangeKind → UInt8
  | .lidar => 0
  | .sonar => 1

/-- The number that tells the sensors of a vehicle apart. All sensors of a kind share one. -/
def distanceSensorId : RangeKind → UInt8
  | .lidar => 0
  | .sonar => 1

/-- The orientation of a sensor that looks down. -/
def downward : UInt8 :=
  25

/-- A distance of the sensor with the given number. -/
def ofRange (time : Nat) (r : RangeReport Float) (id : UInt8) : DistancePacket :=
  let zero : Binary32 := .ofNat 0
  { time := .ofNat (time / 1000)
    least := hundredths r.least
    greatest := hundredths r.greatest
    current := hundredths r.distance
    sensorType := distanceSensorType r.kind
    id
    orientation := downward
    covariance := 0
    horizontalView := zero
    verticalView := zero
    attitude := ⟨zero, zero, zero, zero⟩
    quality := 0 }

/-- The packet of a report. -/
def ofReport (report : Stamped (Report Float)) : Packet :=
  match report.value with
  | .imu r => .sensors (ofImu report.time r)
  | .barometer r => .sensors (ofBarometer report.time r)
  | .magnetometer field => .sensors (ofMagnetometer report.time field)
  | .gps r => .gps (ofGps report.time r)
  | .groundTruth r => .truth (ofTruth report.time r)
  | .range r => .distance (ofRange report.time r (distanceSensorId r.kind))

/-- The packet of a message. -/
def ofMessage : Message Float → Packet
  | .heartbeat => .heartbeat heartbeat
  | .report report => ofReport report

end HilBridge.Wire
