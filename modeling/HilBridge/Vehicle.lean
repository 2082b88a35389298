import HilBridge.Actuator.Outputs
import HilBridge.Atmosphere
import HilBridge.Config.Basic
import HilBridge.Geometry.Quaternion
import HilBridge.Lockstep.Tick
import HilBridge.Noise
import HilBridge.Number.Decimal
import HilBridge.Sensor.Sample

/-!
# `HilBridge.Vehicle` — a vehicle with thrust and heading only

A stand-in for a physics engine: rotors lift the vehicle and turn it about its vertical axis, and it stays
level. The ground holds it, and on the ground it does not turn. What its sensors read follows from its state
in the simulation's conventions.
-/

namespace HilBridge

/-! ## State -/

/-- What a vehicle is made of and where it is. -/
structure VehicleSettings (α : Type) where
  /-- Microseconds. -/
  step : Nat
  mass : α
  /-- Thrust per squared rotor velocity. -/
  motorConstant : α
  /-- Reaction torque per thrust. -/
  momentConstant : α
  maxRotorVelocity : α
  /-- Moment of inertia about the vertical axis. -/
  inertia : α
  /-- East, north, up, like the magnetic field in tesla. -/
  gravity : Vec3 α
  home : GeoPoint α
  magneticField : Vec3 α
  accelerationNoise : Noise α
  gyroNoise : Noise α
  seed : Option UInt64
  deriving Repr, DecidableEq

/-- How a vehicle moves. -/
structure VehicleState (α : Type) where
  /-- Above ground. -/
  altitude : α
  climbRate : α
  verticalAcceleration : α
  /-- Zero is east, and counterclockwise is positive. -/
  yaw : α
  yawRate : α
  deriving Repr, DecidableEq

/-- A vehicle with what was last published for it. -/
structure Vehicle (α : Type) where
  settings : VehicleSettings α
  state : VehicleState α
  noise : NoiseSource
  /-- Simulation time in microseconds. -/
  time : Nat
  paused : Bool
  rotors : List α
  servos : List (ServoTarget α)
  external : List (ExternalCommand α)
  wrench : Option (Wrench α)
  /-- Set for good once a step is to be made with a largest rotor velocity that is not one. -/
  fault : Bool
  deriving Repr, DecidableEq

variable {α : Type} [Scalar α]

namespace VehicleSettings

/-- A small quadrotor. -/
def default : VehicleSettings α :=
  { step := 4000
    mass := 1.5
    motorConstant := 8.54858e-6
    momentConstant := 0.016
    maxRotorVelocity := 1100.0
    inertia := 0.03
    gravity := ⟨0.0, 0.0, -9.8⟩
    home := .default
    magneticField := ⟨0.0, 2.1e-5, -4.2e-5⟩
    accelerationNoise := .none
    gyroNoise := .none
    seed := none }

/-- The same with gravity, home and seed of a bridge. -/
def ofConfig (c : Config α) : VehicleSettings α :=
  { VehicleSettings.default with gravity := c.gravity, home := c.home, seed := c.randomSeed }

end VehicleSettings

namespace Vehicle

/-- A vehicle at rest on the ground. -/
def new (settings : VehicleSettings α) : Vehicle α :=
  { settings
    state := ⟨0.0, 0.0, 0.0, 0.0, 0.0⟩
    noise := .ofSeed settings.seed 1
    time := 0
    paused := false
    rotors := []
    servos := []
    external := []
    wrench := none
    fault := false }

/-! ## Actuators -/

/-- Takes over what is published on one path. Nothing published takes a wrench away again. -/
def receive (v : Vehicle α) : Publication α → Vehicle α
  | .motors velocities => { v with rotors := velocities }
  | .servos targets => { v with servos := targets }
  | .external commands => { v with external := commands }
  | .wrench wrench => { v with wrench := some wrench }

/-- Takes over all that is published for a tick. -/
def receiveAll (v : Vehicle α) (publications : List (Publication α)) : Vehicle α :=
  publications.foldl receive v

/-- Thrust and torque with those of one more rotor. Rotors turn counterclockwise and clockwise in turn. -/
def addRotor? (s : VehicleSettings α) (sum : Wrench α) (rotor : α × Nat) : Option (Wrench α) := do
  let velocity ← Scalar.clamp? (-s.maxRotorVelocity) s.maxRotorVelocity rotor.1
  let force := s.motorConstant * velocity * velocity
  let sign : α := if rotor.2 % 2 = 0 then 1.0 else -1.0
  some ⟨sum.thrust + force, sum.torque + sign * s.momentConstant * force⟩

/-- Thrust and torque of the vehicle, if its largest rotor velocity is one. -/
def wrench? (v : Vehicle α) : Option (Wrench α) :=
  match v.wrench with
  | some wrench => some wrench
  | none => v.rotors.zipIdx.foldlM (addRotor? v.settings) ⟨0.0, 0.0⟩

/-! ## Motion -/

/-- An angle brought between half a turn clockwise and half a turn counterclockwise. -/
def normalizeAngle (angle : α) : α :=
  Scalar.modulo (angle + Scalar.pi) (2.0 * Scalar.pi) - Scalar.pi

/-- The seconds of a step. -/
def stepSeconds (s : VehicleSettings α) : α :=
  Scalar.ofNat s.step / 1000000.0

/-- Vertical acceleration and climb rate as the ground allows them before the step. -/
def liftOff (state : VehicleState α) (acceleration : α) : α × α :=
  if Scalar.le state.altitude 0.0 && Scalar.lt acceleration 0.0 then
    (0.0, Scalar.max state.climbRate 0.0)
  else (acceleration, state.climbRate)

/-- Altitude, climb rate and acceleration after the step: the ground stops what would sink into it. -/
def touchDown (altitude climbRate acceleration : α) : α × α × α :=
  if Scalar.lt altitude 0.0 then (0.0, 0.0, 0.0) else (altitude, climbRate, acceleration)

/-- The motion one step later. -/
def integrate (s : VehicleSettings α) (state : VehicleState α) (w : Wrench α) : VehicleState α :=
  let dt := stepSeconds s
  let (acceleration, climbRate) := liftOff state (w.thrust / s.mass + s.gravity.z)
  let climbRate := climbRate + acceleration * dt
  let (altitude, climbRate, verticalAcceleration) :=
    touchDown (state.altitude + climbRate * dt) climbRate acceleration
  let yawRate :=
    if Scalar.le altitude 0.0 then 0.0 else state.yawRate + w.torque / s.inertia * dt
  { altitude, climbRate, verticalAcceleration, yawRate
    yaw := normalizeAngle (state.yaw + yawRate * dt) }

/-- Makes one step, unless paused. -/
def advance (v : Vehicle α) : Vehicle α :=
  if v.paused then v
  else
    match v.wrench? with
    | none => { v with fault := true }
    | some w =>
      { v with state := integrate v.settings v.state w, time := v.time + v.settings.step }

/-- The tick about to run. -/
def tick (v : Vehicle α) : Tick :=
  ⟨v.time, v.settings.step, v.paused⟩

/-! ## Sensors -/

def orientation (v : Vehicle α) : Quaternion α :=
  .ofAxisAngle Vec3.unitZ v.state.yaw

/-- Altitude above mean sea level. -/
def amsl (v : Vehicle α) : α :=
  v.settings.home.altitude + v.state.altitude

/-- A reading at the time of the vehicle. -/
def stamp {β : Type} (v : Vehicle α) (value : β) : Stamped β :=
  ⟨v.time, value⟩

/-- What the accelerometer would read without disturbance. -/
def specificForce (v : Vehicle α) : Vec3 α :=
  v.orientation.conj.rotate (⟨0.0, 0.0, v.state.verticalAcceleration⟩ - v.settings.gravity)

/-- The inertial reading, the body rates disturbed first. -/
def imuReading (v : Vehicle α) : ImuReading α × NoiseSource :=
  let (angularVelocity, noise) := v.noise.addVec ⟨0.0, 0.0, v.state.yawRate⟩ v.settings.gyroNoise
  let (acceleration, noise) := noise.addVec v.specificForce v.settings.accelerationNoise
  (⟨angularVelocity, acceleration⟩, noise)

/-- One sample of every sensor that every vehicle has. -/
def samples (v : Vehicle α) : List (Sample α) × Vehicle α :=
  let (imu, noise) := v.imuReading
  ([v.stamp (.pose ⟨⟨0.0, 0.0, v.state.altitude⟩, v.orientation⟩),
    v.stamp (.imu imu),
    v.stamp (.barometer (Atmosphere.standard.pressureAt v.amsl)),
    v.stamp (.magnetometer (v.orientation.conj.rotate v.settings.magneticField)),
    v.stamp (.gps
      { latitude := v.settings.home.latitude
        longitude := v.settings.home.longitude
        altitude := v.amsl
        velocity := ⟨0.0, 0.0, v.state.climbRate⟩ })],
   { v with noise })

/-- The distance to the ground, the same for every range sensor. -/
def rangeSample (v : Vehicle α) : Stamped α :=
  v.stamp v.state.altitude

/-- Whether something was asked of the vehicle that has no answer. -/
def hasFault (v : Vehicle α) : Bool :=
  v.fault || v.noise.fault

end Vehicle

/-- A summary of the vehicle for logs. -/
def Vehicle.describe (v : Vehicle Float) : String :=
  s!"KinematicHost \x7b sim_time_us: {v.time}, altitude: " ++ Binary64.debugText v.state.altitude
    ++ ", yaw: " ++ Binary64.debugText v.state.yaw ++ " \x7d"

end HilBridge
