import HilBridge.Atmosphere
import HilBridge.Config.Basic
import HilBridge.Geometry.Frame
import HilBridge.Sensor.Message
import HilBridge.Sensor.Slot

/-!
# `HilBridge.Sensor.Assembler` — from samples to reports

Samples arrive at any time and in any order; in each send cycle the assembler turns the pending ones into
reports. Every category has its own feed, so a sample waits at most until a newer one of its category
replaces it, and what is older than the last report of its category is dropped and counted.

The inertial measurement unit differs twice. Its samples may also be put into the store directly, past the
staleness check, which is therefore repeated when the sample is taken out. And its samples are numbered:
where a cycle expects the number to advance by a fixed step, any other step counts as a gap.
-/

namespace HilBridge

/-- What a send cycle is to do. -/
structure CyclePlan where
  /-- Simulation time in microseconds. -/
  now : Nat
  /-- Whether the pending IMU sample goes out. -/
  sendImu : Bool
  /-- By how much the IMU number should advance from one report to the next, where that is fixed. -/
  imuStep : Option UInt8
  deriving Repr, DecidableEq

/-! ## State -/

/-- What an assembler is set up with. -/
structure AssemblySettings (α : Type) where
  frame : FrameChange α
  noise : SensorNoise α
  atmosphere : Atmosphere α
  home : GeoPoint α
  gravity : Vec3 α
  /-- Microseconds between two reports of the category. -/
  barometerInterval : Nat
  magnetometerInterval : Nat
  gpsInterval : Nat
  deriving Repr, DecidableEq

/-- Counts of what went wrong. -/
structure AssemblyStats where
  /-- IMU reports whose number did not advance by the expected step. -/
  imuSeqGaps : Nat
  /-- Samples older than the last report of their category. -/
  staleDropped : Nat
  deriving Repr, DecidableEq

/-- The pose of the last ground-truth report and the velocity reported with it, east, north, up. -/
structure Motion (α : Type) where
  pose : Stamped (Pose α)
  velocity : Vec3 α
  deriving Repr, DecidableEq

/-- A range sensor with its samples. -/
structure RangeChannel (α : Type) where
  link : RangeLink
  feed : Feed α
  deriving Repr, DecidableEq

/-- The pending samples of all categories and what is remembered of the reports sent. -/
structure Assembler (α : Type) where
  settings : AssemblySettings α
  noise : NoiseSource
  imu : ImuStore α
  lastImuSent : Option Nat
  previousImuSeq : Option UInt8
  barometer : Feed α
  magnetometer : Feed (Vec3 α)
  gps : Feed (GpsReading α)
  pose : Feed (Pose α)
  previousMotion : Option (Motion α)
  ranges : List (RangeChannel α)
  stats : AssemblyStats
  deriving Repr, DecidableEq

variable {α : Type} [Scalar α]

/-- What the settings of a bridge say about assembling. -/
def Config.assembly (c : Config α) : AssemblySettings α :=
  { frame := .simToAutopilot
    noise := c.noise
    atmosphere := .standard
    home := c.home
    gravity := c.gravity
    barometerInterval := microseconds c.barometerInterval
    magnetometerInterval := microseconds c.magnetometerInterval
    gpsInterval := microseconds c.gpsInterval }

/-! ## Reports from readings -/

/-- Metres in a degree of latitude. -/
def metersPerDegree : α :=
  111320.0

/-- Metres in a degree of longitude at a latitude in degrees; never zero. -/
def metersPerDegreeLongitude (latitude : α) : α :=
  Scalar.max (metersPerDegree * Scalar.cos (Scalar.radians latitude)) 2.220446049250313e-16

namespace AssemblySettings

/-- A body-frame report of an inertial sample. -/
def imuReport (s : AssemblySettings α) (sample : Numbered (Stamped (ImuReading α))) :
    ImuReport α :=
  { seq := sample.seq
    acceleration := s.frame.bodyVector sample.value.value.acceleration
    angularVelocity := s.frame.bodyVector sample.value.value.angularVelocity }

/-- The disturbed pressure, and altitude and temperature as the atmosphere gives them for it. -/
def barometerReport (s : AssemblySettings α) (noise : NoiseSource) (pressure : α) :
    BarometerReport α × NoiseSource :=
  let (hectopascal, noise) := noise.add (pressure * 0.01) s.noise.pressure
  let pascal := hectopascal * 100.0
  let (temperature, noise) := noise.add (s.atmosphere.celsiusForPressure pascal) s.noise.temperature
  (⟨hectopascal, s.atmosphere.pressureAltitude pascal, temperature⟩, noise)

/-- The disturbed field in gauss. -/
def magnetometerReport (s : AssemblySettings α) (noise : NoiseSource) (field : Vec3 α) :
    Vec3 α × NoiseSource :=
  noise.addVec (s.frame.bodyVector field * (10000.0 : α)) s.noise.magnetic

/-- The disturbed position and velocity. Accuracies are those of the noise, but never too good. -/
def gpsReport (s : AssemblySettings α) (noise : NoiseSource) (r : GpsReading α) :
    GpsReport α × NoiseSource :=
  let (north, noise) := noise.sample s.noise.horizontal
  let (east, noise) := noise.sample s.noise.horizontal
  let (velocity, noise) := noise.addVec (s.frame.worldVector r.velocity) s.noise.velocity
  let (altitude, noise) := noise.add r.altitude s.noise.vertical
  ({ latitude := r.latitude + north / metersPerDegree
     longitude := r.longitude + east / metersPerDegreeLongitude r.latitude
     altitude, velocity
     horizontalAccuracy := Scalar.max s.noise.horizontal.stddev 1.0
     verticalAccuracy := Scalar.max s.noise.vertical.stddev 1.5
     fixType := 3
     satellites := 10 }, noise)

/-- Velocity, acceleration and body rates at a pose, from the motion before. -/
def derivatives (previous : Option (Motion α)) (pose : Stamped (Pose α)) :
    Vec3 α × Vec3 α × Vec3 α :=
  match previous with
  | none => (.zero, .zero, .zero)
  | some before =>
    let seconds : α := Scalar.ofNat (pose.time - before.pose.time) / 1000000.0
    if Scalar.lt 0.0 seconds then
      let velocity := (pose.value.position - before.pose.value.position) / seconds
      let turn := before.pose.value.orientation.conj * pose.value.orientation
      (velocity, (velocity - before.velocity) / seconds, turn.scaledAxis / seconds)
    else (before.velocity, .zero, .zero)

/-- The ground truth at a pose, and the motion to remember. -/
def truthReport (s : AssemblySettings α) (previous : Option (Motion α)) (pose : Stamped (Pose α)) :
    TruthReport α × Motion α :=
  let (velocity, acceleration, rates) := derivatives previous pose
  let orientation := pose.value.orientation
  let position := pose.value.position
  ({ attitude := s.frame.orientation orientation
     angularVelocity := s.frame.bodyVector rates
     latitude := s.home.latitude + position.y / metersPerDegree
     longitude := s.home.longitude + position.x / metersPerDegreeLongitude s.home.latitude
     altitude := s.home.altitude + position.z
     velocity := s.frame.worldVector velocity
     acceleration := s.frame.bodyVector (orientation.conj.rotate (acceleration - s.gravity)) },
   ⟨pose, velocity⟩)

end AssemblySettings

/-- A distance within the limits of its sensor. -/
def rangeReport (kind : RangeKind) (distance : α) : RangeReport α :=
  let (least, greatest) := (kind.limits : α × α)
  ⟨kind, Scalar.clamp least greatest distance, least, greatest⟩

namespace Assembler

/-- An assembler without samples, for the range sensors on the given links. -/
def new (c : Config α) (links : List RangeLink) : Assembler α :=
  { settings := c.assembly
    noise := .ofSeed c.randomSeed
    imu := .empty
    lastImuSent := none
    previousImuSeq := none
    barometer := .empty
    magnetometer := .empty
    gps := .empty
    pose := .empty
    previousMotion := none
    ranges := links.map (⟨·, .empty⟩)
    stats := ⟨0, 0⟩ }

/-- The range sensors, in the order of their reports. -/
def rangeLinks (a : Assembler α) : List RangeLink :=
  a.ranges.map (·.link)

/-! ## Delivery -/

/-- Counts a stale sample. -/
def dropStale (a : Assembler α) : Assembler α :=
  { a with stats.staleDropped := a.stats.staleDropped + 1 }

/-- Stores an inertial sample whatever its time; the first result is its number. -/
def storeImu (a : Assembler α) (sample : Stamped (ImuReading α)) : UInt8 × Assembler α :=
  let (seq, imu) := a.imu.store sample
  (seq, { a with imu })

/-- Delivers a sample. The first result tells whether it was kept. -/
def deliver (a : Assembler α) (sample : Sample α) : Bool × Assembler α :=
  match sample.value with
  | .pose pose =>
    match a.pose.offer? ⟨sample.time, pose⟩ with
    | some pose => (true, { a with pose })
    | none => (false, a.dropStale)
  | .imu reading =>
    if a.lastImuSent.any (sample.time < ·) then (false, a.dropStale)
    else (true, (a.storeImu ⟨sample.time, reading⟩).2)
  | .barometer pressure =>
    match a.barometer.offer? ⟨sample.time, pressure⟩ with
    | some barometer => (true, { a with barometer })
    | none => (false, a.dropStale)
  | .magnetometer field =>
    match a.magnetometer.offer? ⟨sample.time, field⟩ with
    | some magnetometer => (true, { a with magnetometer })
    | none => (false, a.dropStale)
  | .gps reading =>
    match a.gps.offer? ⟨sample.time, reading⟩ with
    | some gps => (true, { a with gps })
    | none => (false, a.dropStale)

/-- What became of a distance sample. -/
inductive Delivery where
  | stored
  | stale
  | unknownLink
  deriving Repr, DecidableEq

/-- Delivers a distance to the first channel of a link. -/
def offerRange (link : String) (sample : Stamped α) :
    List (RangeChannel α) → Delivery × List (RangeChannel α)
  | [] => (.unknownLink, [])
  | channel :: rest =>
    if channel.link.name = link then
      match channel.feed.offer? sample with
      | some feed => (.stored, { channel with feed } :: rest)
      | none => (.stale, channel :: rest)
    else
      let (outcome, rest) := offerRange link sample rest
      (outcome, channel :: rest)

/-- Delivers a distance sample of a link. The first result tells whether it was kept. -/
def deliverRange (a : Assembler α) (link : String) (sample : Stamped α) : Bool × Assembler α :=
  match offerRange link sample a.ranges with
  | (.stored, ranges) => (true, { a with ranges })
  | (.stale, _) => (false, a.dropStale)
  | (.unknownLink, _) => (false, a)

/-- Forgets the number of the last IMU report, after which no step is expected of the next. -/
def resetSequence (a : Assembler α) : Assembler α :=
  { a with previousImuSeq := none }

/-! ## The send cycle -/

/-- Whether the number of an IMU sample advances otherwise than expected. -/
def isGap (previous step : Option UInt8) (seq : UInt8) : Bool :=
  match previous, step with
  | some previous, some step => seq - previous != step
  | _, _ => false

/-- The report of the pending inertial sample. A stale one is dropped here. -/
def takeImu (a : Assembler α) (step : Option UInt8) : Option (Stamped (ImuReport α)) × Assembler α :=
  match a.imu.take with
  | (none, imu) => (none, { a with imu })
  | (some sample, imu) =>
    if a.lastImuSent.any (sample.value.time < ·) then (none, { a with imu }.dropStale)
    else
      let gaps := a.stats.imuSeqGaps + if isGap a.previousImuSeq step sample.seq then 1 else 0
      (some ⟨sample.value.time, a.settings.imuReport sample⟩,
       { a with
         imu
         stats.imuSeqGaps := gaps
         previousImuSeq := some sample.seq
         lastImuSent := some sample.value.time })

/-- The report of the pending pressure, once its interval has passed. -/
def takeBarometer (a : Assembler α) (now : Nat) :
    Option (Stamped (BarometerReport α)) × Assembler α :=
  match a.barometer.sendDue now a.settings.barometerInterval with
  | (none, barometer) => (none, { a with barometer })
  | (some sample, barometer) =>
    let (report, noise) := a.settings.barometerReport a.noise sample.value
    (some ⟨sample.time, report⟩, { a with barometer, noise })

/-- The report of the pending field, once its interval has passed. -/
def takeMagnetometer (a : Assembler α) (now : Nat) : Option (Stamped (Vec3 α)) × Assembler α :=
  match a.magnetometer.sendDue now a.settings.magnetometerInterval with
  | (none, magnetometer) => (none, { a with magnetometer })
  | (some sample, magnetometer) =>
    let (report, noise) := a.settings.magnetometerReport a.noise sample.value
    (some ⟨sample.time, report⟩, { a with magnetometer, noise })

/-- The report of the pending position, once its interval has passed. -/
def takeGps (a : Assembler α) (now : Nat) : Option (Stamped (GpsReport α)) × Assembler α :=
  match a.gps.sendDue now a.settings.gpsInterval with
  | (none, gps) => (none, { a with gps })
  | (some sample, gps) =>
    let (report, noise) := a.settings.gpsReport a.noise sample.value
    (some ⟨sample.time, report⟩, { a with gps, noise })

/-- The ground truth of the pending pose. -/
def takeTruth (a : Assembler α) : Option (Stamped (TruthReport α)) × Assembler α :=
  match a.pose.send with
  | (none, pose) => (none, { a with pose })
  | (some sample, pose) =>
    let (report, motion) := a.settings.truthReport a.previousMotion sample
    (some ⟨sample.time, report⟩, { a with pose, previousMotion := some motion })

/-- The report of a channel's pending distance. -/
def takeRange (channel : RangeChannel α) :
    Option (Stamped (RangeReport α)) × RangeChannel α :=
  match channel.feed.send with
  | (none, feed) => (none, { channel with feed })
  | (some sample, feed) =>
    (some ⟨sample.time, rangeReport channel.link.kind sample.value⟩, { channel with feed })

/-- The reports of all pending distances, in the order of the channels. -/
def takeRanges (a : Assembler α) : List (Stamped (RangeReport α)) × Assembler α :=
  let taken := a.ranges.map takeRange
  (taken.filterMap (·.1), { a with ranges := taken.map (·.2) })

/-- A report under its category. -/
def wrap {β : Type} (category : β → Report α) (sample : Stamped β) : Stamped (Report α) :=
  ⟨sample.time, category sample.value⟩

/-- The reports due in a cycle; their samples are used up. -/
def assemble (a : Assembler α) (plan : CyclePlan) : List (Stamped (Report α)) × Assembler α :=
  let (imu, a) := if plan.sendImu then a.takeImu plan.imuStep else (none, a)
  let (barometer, a) := a.takeBarometer plan.now
  let (magnetometer, a) := a.takeMagnetometer plan.now
  let (gps, a) := a.takeGps plan.now
  let (truth, a) := a.takeTruth
  let (ranges, a) := a.takeRanges
  ((imu.map (wrap .imu)).toList ++ (barometer.map (wrap .barometer)).toList
    ++ (magnetometer.map (wrap .magnetometer)).toList ++ (gps.map (wrap .gps)).toList
    ++ (truth.map (wrap .groundTruth)).toList ++ ranges.map (wrap .range), a)

/-- A summary of the assembler for logs. -/
def describe (a : Assembler α) : String :=
  s!"SensorAssembler \x7b stats: AssemblerStats \x7b imu_seq_gaps: {a.stats.imuSeqGaps}, "
    ++ s!"stale_dropped: {a.stats.staleDropped} \x7d, range_sensors: {a.ranges.length} \x7d"

end Assembler

end HilBridge
