import Mathlib
import HilBridge.Connection.ScriptedLink
import HilBridge.Proofs.Bridge.Run
import HilBridge.Proofs.Bridge.Samples
import HilBridge.Proofs.Geometry.Rotation
import HilBridge.Proofs.Sensor.CycleReports
import HilBridge.Proofs.Simulation.Faults
import HilBridge.Proofs.Simulation.Refill
import HilBridge.Proofs.Simulation.Ticks

/-!
# `HilBridge.Proofs.Simulation.TrueMotion` — the ground truth agrees with the sensors

The bridge is told poses, and works out velocity and acceleration from differences between them. The sensors of the
vehicle report what its own equations of motion come to. In exact arithmetic both are the same wherever these equations
hold, that is where the ground does not interfere (`Vehicle.MovesFreely`): the velocity as soon as there is a pose
before, and the acceleration once the velocity before was right as well.

**Main statement.** `truth_agrees_with_sensors`: along every run whose ticks all report, from the third pose on.
-/

namespace HilBridge

variable {L α : Type}

/-! ## The vehicle -/

namespace Vehicle

section
variable [Scalar α]

/-- The pose that a vehicle reports. -/
def truePose (v : Vehicle α) : Stamped (Pose α) :=
  v.stamp ⟨⟨0.0, 0.0, v.state.altitude⟩, v.orientation⟩

/-- The velocity that it moves with. -/
def trueVelocity (v : Vehicle α) : Vec3 α :=
  ⟨0.0, 0.0, v.state.climbRate⟩

/-- Where the last inertial report is not later, a cycle after a delivery has the delivered one to report, if any. -/
theorem imuReports_refill (v : Vehicle α) (a : Assembler α) (plan : CyclePlan) :
    reportsOf Report.imu? ((v.refill a).assemble plan).1 = []
      ∨ ∃ seq, reportsOf Report.imu? ((v.refill a).assemble plan).1
        = [⟨v.time, a.settings.imuReport ⟨seq, v.stamp v.imuReading.1⟩⟩] := by
  have hpending : (v.refill a).imu.slot.pending? = some ⟨a.imu.nextSeq, v.stamp v.imuReading.1⟩ := rfl
  rw [Assembler.imuReports_cycle, Assembler.takeImuDue]
  split
  · by_cases hstale : (v.refill a).lastImuSent.any ((v.stamp v.imuReading.1).time < ·) = true
    · rw [Assembler.takeImu_of_stale hpending hstale]
      exact .inl rfl
    · rw [Assembler.takeImu_of_fresh hpending hstale]
      exact .inr ⟨a.imu.nextSeq, rfl⟩
  · exact .inl rfl

theorem gpsReports_refill (v : Vehicle α) (a : Assembler α) (plan : CyclePlan) :
    reportsOf Report.gps? ((v.refill a).assemble plan).1 = []
      ∨ ∃ noise, reportsOf Report.gps? ((v.refill a).assemble plan).1
        = [⟨v.time, (a.settings.gpsReport noise ⟨v.settings.home.latitude, v.settings.home.longitude, v.amsl,
            v.trueVelocity⟩).1⟩] := by
  obtain ⟨noise, hreports⟩ := (v.refill a).gpsReports_cycle plan
  rw [hreports, Feed.sendDue]
  split
  · exact .inr ⟨noise, rfl⟩
  · exact .inl rfl

theorem truthReports_refill (v : Vehicle α) (a : Assembler α) (plan : CyclePlan) :
    reportsOf Report.truth? ((v.refill a).assemble plan).1
        = [⟨v.time, (a.settings.truthReport a.previousMotion v.truePose).1⟩]
      ∧ ((v.refill a).assemble plan).2.previousMotion = some (a.settings.truthReport a.previousMotion v.truePose).2 :=
  Assembler.truthReports_cycle (a := v.refill a) rfl plan

/-- A delivery and a cycle keep the settings, and leave only samples behind that are no newer than the vehicle. -/
theorem books_refill_assemble {v : Vehicle α} {a : Assembler α} (hnotAfter : a.NotAfter v.time) (hordered : a.InOrder)
    (plan : CyclePlan) :
    let after := ((v.refill a).assemble plan).2
    after.settings = a.settings ∧ after.NotAfter v.time ∧ after.InOrder := by
  intro after
  have hfed := (fed_refill hnotAfter).accepts
  have hbooks := Assembler.books_assemble (hfed.inOrder hordered) plan
  refine ⟨hbooks.settings, hbooks.notAfter (hfed.notAfter hnotAfter) fun x hx => ?_,
    hbooks.inOrder (hfed.inOrder hordered)⟩
  obtain ⟨e, he, hex⟩ := List.mem_filterMap.mp hx
  rw [Assembler.arrival?_of_mem_assembleEntries he] at hex
  cases hex

end

/-- A step can be made, and the ground alters neither altitude nor climb rate in it. -/
def MovesFreely (v : Vehicle ℝ) : Prop :=
  ∃ w, v.wrench? = some w ∧
    let dt := stepSeconds v.settings
    let lifted := liftOff v.state (w.thrust / v.settings.mass + v.settings.gravity.z)
    let climbRate := lifted.2 + lifted.1 * dt
    let altitude := v.state.altitude + climbRate * dt
    let landed := touchDown altitude climbRate lifted.1
    lifted.2 = v.state.climbRate ∧ landed.1 = altitude ∧ landed.2.1 = climbRate

/-- A step that can be made changes state and time. -/
theorem advance_eq {v : Vehicle ℝ} {w : Wrench ℝ} (hpaused : v.paused = false) (hwrench : v.wrench? = some w) :
    v.advance = { v with state := integrate v.settings v.state w, time := v.time + v.settings.step } := by
  rw [Vehicle.advance, if_neg (by rw [hpaused]; exact Bool.false_ne_true), hwrench]

/-- The equations of motion of a step that is made freely. -/
theorem MovesFreely.advance {v : Vehicle ℝ} (h : v.MovesFreely) (hpaused : v.paused = false) :
    v.advance.time = v.time + v.settings.step
      ∧ v.advance.state.climbRate
        = v.state.climbRate + v.advance.state.verticalAcceleration * stepSeconds v.settings
      ∧ v.advance.state.altitude = v.state.altitude + v.advance.state.climbRate * stepSeconds v.settings := by
  obtain ⟨w, hwrench, hfree⟩ := h
  rw [advance_eq hpaused hwrench, integrate]
  generalize liftOff v.state (w.thrust / v.settings.mass + v.settings.gravity.z) = lifted at hfree ⊢
  obtain ⟨acceleration, climbRate⟩ := lifted
  obtain ⟨rfl, haltitude, -⟩ := hfree
  -- a step that ends in the ground has its altitude altered
  have habove : ¬ Scalar.lt (v.state.altitude
      + (v.state.climbRate + acceleration * stepSeconds v.settings) * stepSeconds v.settings) 0.0 = true := by
    intro hbelow
    simp only [touchDown, if_pos hbelow] at haltitude
    rw [← haltitude, Scalar.lt_iff] at hbelow
    exact lt_irrefl _ hbelow
  simp only [touchDown, if_neg habove, and_self]

theorem stepSeconds_nonneg (s : VehicleSettings ℝ) : 0 ≤ stepSeconds s := by
  show (0 : ℝ) ≤ (s.step : ℝ) / 1000000.0
  exact div_nonneg s.step.cast_nonneg (by norm_num)

theorem stepSeconds_pos {s : VehicleSettings ℝ} (h : 0 < s.step) : 0 < stepSeconds s := by
  show (0 : ℝ) < (s.step : ℝ) / 1000000.0
  exact div_pos (Nat.cast_pos.mpr h) (by norm_num)

/-- A vehicle that is lifted, and not on its way down. -/
structure Rises (v : Vehicle ℝ) (w : Wrench ℝ) : Prop where
  running : v.paused = false
  wrench : v.wrench? = some w
  lift : 0 ≤ w.thrust / v.settings.mass + v.settings.gravity.z
  altitude : 0 ≤ v.state.altitude
  climbRate : 0 ≤ v.state.climbRate

namespace Rises

variable {v : Vehicle ℝ} {w : Wrench ℝ}

theorem liftOff (h : v.Rises w) :
    Vehicle.liftOff v.state (w.thrust / v.settings.mass + v.settings.gravity.z)
      = (w.thrust / v.settings.mass + v.settings.gravity.z, v.state.climbRate) := by
  have hlift : Scalar.lt (w.thrust / v.settings.mass + v.settings.gravity.z) 0.0 = false := by
    rw [Bool.eq_false_iff, Ne, Scalar.lt_iff]
    norm_num
    exact h.lift
  rw [Vehicle.liftOff, hlift, Bool.and_false, if_neg Bool.false_ne_true]

theorem climbRate_nonneg (h : v.Rises w) :
    0 ≤ v.state.climbRate + (w.thrust / v.settings.mass + v.settings.gravity.z) * stepSeconds v.settings :=
  add_nonneg h.climbRate (mul_nonneg h.lift (stepSeconds_nonneg v.settings))

theorem touchDown (h : v.Rises w) {climbRate : ℝ} (hclimb : 0 ≤ climbRate) (acceleration : ℝ) :
    Vehicle.touchDown (v.state.altitude + climbRate * stepSeconds v.settings) climbRate acceleration
      = (v.state.altitude + climbRate * stepSeconds v.settings, climbRate, acceleration) := by
  have haltitude := add_nonneg h.altitude (mul_nonneg hclimb (stepSeconds_nonneg v.settings))
  rw [Vehicle.touchDown, if_neg]
  rw [Scalar.lt_iff]
  norm_num
  exact haltitude

theorem movesFreely (h : v.Rises w) : v.MovesFreely := by
  refine ⟨w, h.wrench, ?_⟩
  simp only [h.liftOff, h.touchDown h.climbRate_nonneg, and_self]

protected theorem advance (h : v.Rises w) : v.advance.Rises w := by
  have hclimb := h.climbRate_nonneg
  have haltitude := add_nonneg h.altitude (mul_nonneg hclimb (stepSeconds_nonneg v.settings))
  rw [advance_eq h.running h.wrench, integrate]
  simp only [h.liftOff, h.touchDown hclimb]
  exact ⟨h.running, h.wrench, h.lift, haltitude, hclimb⟩

end Rises

end Vehicle

/-! ## Reports -/

section
variable [Scalar α]

namespace AssemblySettings

theorem acceleration_imuReport (s : AssemblySettings α) (seq : UInt8) (v : Vehicle α) (r : ImuReading α) :
    (s.imuReport ⟨seq, v.stamp r⟩).acceleration = s.frame.bodyVector r.acceleration :=
  rfl

theorem velocity_gpsReport (s : AssemblySettings α) (noise : NoiseSource) (r : GpsReading α) :
    ∃ drawn : NoiseSource,
      (s.gpsReport noise r).1.velocity = (drawn.addVec (s.frame.worldVector r.velocity) s.noise.velocity).1 :=
  ⟨_, rfl⟩

end AssemblySettings

theorem Vehicle.acceleration_imuReading (v : Vehicle α) :
    ∃ drawn : NoiseSource,
      v.imuReading.1.acceleration = (drawn.addVec v.specificForce v.settings.accelerationNoise).1 :=
  ⟨_, rfl⟩

end

/-! ## Differences of poses -/

section
variable {u v : Vehicle ℝ} {m : Motion ℝ}

/-- After a pose of the vehicle one free step before, its velocity is worked out. -/
theorem derivatives_of_free (hfree : u.MovesFreely) (hpaused : u.paused = false) (hstep : 0 < u.settings.step)
    (hm : m.pose = u.truePose) :
    (AssemblySettings.derivatives (some m) u.advance.truePose).1 = u.advance.trueVelocity
      ∧ (m.velocity = u.trueVelocity →
        (AssemblySettings.derivatives (some m) u.advance.truePose).2.1
          = ⟨0.0, 0.0, u.advance.state.verticalAcceleration⟩) := by
  obtain ⟨htime, hclimb, haltitude⟩ := hfree.advance hpaused
  have hdt := Vehicle.stepSeconds_pos hstep
  have hseconds : (Scalar.ofNat (u.advance.truePose.time - m.pose.time) / 1000000.0 : ℝ)
      = Vehicle.stepSeconds u.settings := by
    rw [hm]
    show (Scalar.ofNat (u.advance.time - u.time) / 1000000.0 : ℝ) = Scalar.ofNat u.settings.step / 1000000.0
    rw [htime, Nat.add_sub_cancel_left]
  have hpositive : Scalar.lt 0.0 (Vehicle.stepSeconds u.settings) = true := by
    rw [Scalar.lt_iff]
    norm_num
    exact hdt
  have hvelocity : (u.advance.truePose.value.position - m.pose.value.position) / Vehicle.stepSeconds u.settings
      = u.advance.trueVelocity := by
    rw [hm]
    ext
    · norm_num [Vehicle.truePose, Vehicle.trueVelocity, Vehicle.stamp]
    · norm_num [Vehicle.truePose, Vehicle.trueVelocity, Vehicle.stamp]
    · show (u.advance.state.altitude - u.state.altitude) / Vehicle.stepSeconds u.settings = u.advance.state.climbRate
      rw [haltitude]
      field_simp
      ring
  rw [AssemblySettings.derivatives_of_later hseconds hpositive]
  refine ⟨hvelocity, fun hm' => ?_⟩
  simp only [hvelocity, hm']
  ext
  · norm_num [Vehicle.trueVelocity]
  · norm_num [Vehicle.trueVelocity]
  · show (u.advance.state.climbRate - u.state.climbRate) / Vehicle.stepSeconds u.settings
      = u.advance.state.verticalAcceleration
    rw [hclimb]
    field_simp
    ring

end

/-! ## The bridge -/

namespace Assembler

/-- The assembler with another number remembered of the last inertial report. -/
def renumbered (a : Assembler α) (previous : Option UInt8) : Assembler α :=
  { a with previousImuSeq := previous }

theorem books_renumbered [Scalar α] (a : Assembler α) (previous : Option UInt8) :
    a.Books [] (a.renumbered previous) :=
  .still rfl rfl rfl (fun k => by cases k <;> rfl) (fun _ => rfl) rfl

end Assembler

namespace Bridge

variable [Scalar α] [AutopilotLink L α]

/-- The link may be opened before either half of a tick, and then the numbering starts over. -/
theorem pollCalls_restart (b : Bridge L α) (a : Assembler α) :
    ∃ previous, ((Assembler.numbering α).run a b.pollCalls).1 = a.renumbered previous := by
  unfold pollCalls epochCalls
  split
  · exact ⟨a.previousImuSeq, rfl⟩
  · exact ⟨none, rfl⟩

theorem pollReady_restarts (b : Bridge L α) :
    ∃ previous, b.pollReady.2.assembler = b.assembler.renumbered previous := by
  rw [assembler_pollReady]
  exact b.pollCalls_restart b.assembler

theorem preUpdate_restarts (b : Bridge L α) (tick : Tick) (bursts : List (Burst α)) :
    ∃ previous, (b.preUpdate tick bursts).bridge.assembler = b.assembler.renumbered previous := by
  rw [(b.preUpdate_numbering tick bursts).1]
  split
  · exact ⟨b.assembler.previousImuSeq, rfl⟩
  · exact b.pollCalls_restart b.assembler

/-- A tick that makes any report has a cycle. -/
theorem tickEnd_of_reports {b : Bridge L α} {tick : Tick}
    (h : (b.tickEnd tick).messages.filterMap Message.report? ≠ []) :
    tick.paused = false ∧ ∃ plan previous,
      (b.tickEnd tick).messages.filterMap Message.report? = ((b.assembler.renumbered previous).assemble plan).1
        ∧ (b.tickEnd tick).bridge.assembler = ((b.assembler.renumbered previous).assemble plan).2 := by
  rcases b.tickEnd_eq_or tick with ⟨b', -, hend, -⟩ | ⟨plan, b', hplanned, hend⟩
  · rw [hend] at h
    exact absurd rfl h
  · obtain ⟨previous, hpolled⟩ := b.pollReady_restarts
    obtain ⟨hrunning, -, -, hassembler⟩ := planCycle_eq_some hplanned
    refine ⟨(Bool.or_eq_false_iff.mp hrunning).1, plan, previous, ?_⟩
    rw [hend, ← hpolled, ← hassembler]
    exact ⟨reports_cycleMessages b' plan, rfl⟩

end Bridge

/-! ## Ticks -/

namespace Simulation

variable [Scalar α] [AutopilotLink L α]

/-- The vehicle of a tick as it is about to make its step. -/
def stepping (s : Simulation L α) (bursts : List (Burst α)) : Vehicle α :=
  s.vehicle.receiveAll (s.bridge.preUpdate s.vehicle.tick bursts).published

/-- What is reported in a tick. -/
def reportsDuring (s : Simulation L α) (bursts : List (Burst α)) : List (Stamped (Report α)) :=
  (s.stepDuring bursts).messages.filterMap Message.report?

/-- A tick that reports has made its step, delivered all samples and run its cycle. -/
theorem stepDuring_of_reports {s : Simulation L α} {bursts : List (Burst α)}
    (hnotAfter : s.bridge.assembler.NotAfter s.vehicle.time) (hreports : s.reportsDuring bursts ≠ []) :
    let v := (s.stepping bursts).advance
    s.vehicle.paused = false ∧ s.vehicle.time ≤ v.time ∧ ∃ plan previous noise,
      let fed := v.refill (s.bridge.assembler.renumbered previous)
      s.reportsDuring bursts = (fed.assemble plan).1
        ∧ (s.stepDuring bursts).simulation.bridge.assembler = (fed.assemble plan).2
        ∧ (s.stepDuring bursts).simulation.vehicle = { v with noise } := by
  intro v
  let start := s.bridge.preUpdate s.vehicle.tick bursts
  obtain ⟨hsettings, hstill, htime⟩ := s.moved_cases start.published
  obtain ⟨previous, hstart⟩ := s.bridge.preUpdate_restarts s.vehicle.tick bursts
  have hgoes : ¬ start.status = .shutdown := by
    intro hshutdown
    have hend : s.stepDuring bursts = _ := if_pos hshutdown
    rw [reportsDuring, hend] at hreports
    exact hreports rfl
  have hdelivered := deliver_eq_refill (s := (⟨start.bridge, v⟩ : Simulation L α)) (by
    show Assembler.NotAfter start.bridge.assembler v.time
    rw [hstart]
    exact hnotAfter.mono htime)
  have hstep : s.stepDuring bursts =
      let fed := Simulation.deliver (⟨start.bridge, v⟩ : Simulation L α)
      let e := fed.bridge.tickEnd fed.vehicle.tick
      ⟨start.status, start.published, e.messages, e.sent, { fed with bridge := e.bridge }, start.ahead⟩ := if_neg hgoes
  rw [hdelivered] at hstep
  rw [reportsDuring, hstep] at hreports
  obtain ⟨hpaused, plan, restarted, hcycle, hafter⟩ := Bridge.tickEnd_of_reports hreports
  -- numbering may have started over in both halves of the tick, and it is the second time that counts
  refine ⟨hstill.symm.trans hpaused, htime, plan, restarted, v.imuReading.2, ?_, ?_, ?_⟩
  · rw [reportsDuring, hstep, hcycle, hstart]
    rfl
  · rw [hstep, hafter, hstart]
    rfl
  · rw [hstep]

end Simulation

/-! ## Runs -/

/-- What happens to a simulation for a tick: anything to its connection, and bursts while it waits. -/
structure Turn (L α : Type) where
  connection : Connection L α → Connection L α
  bursts : List (Burst α)

/-- What a tick shows of the motion. -/
structure MotionRecord where
  reports : List (Stamped (Report ℝ))
  /-- The step is made and the ground does not interfere. -/
  free : Prop

namespace MotionRecord

/-- The inertial report and the position were due, and so the samples of the tick are assembled in it. -/
def IsComplete (r : MotionRecord) : Prop :=
  reportsOf Report.imu? r.reports ≠ [] ∧ reportsOf Report.gps? r.reports ≠ []

/-- There is one report of each kind, and the ground truth says what the sensors say. -/
def Agrees (r : MotionRecord) : Prop :=
  ∃ truth gps imu, reportsOf Report.truth? r.reports = [truth] ∧ reportsOf Report.gps? r.reports = [gps]
    ∧ reportsOf Report.imu? r.reports = [imu]
    ∧ truth.value.velocity = gps.value.velocity ∧ truth.value.acceleration = imu.value.acceleration

end MotionRecord

namespace Simulation

/-- The simulation before a tick. -/
def turned (s : Simulation L α) (turn : Turn L α) : Simulation L α :=
  { s with bridge.connection := turn.connection s.bridge.connection }

variable [AutopilotLink L ℝ]

/-- Runs with what their ticks show of the motion. -/
noncomputable def observer (L : Type) [AutopilotLink L ℝ] : Recorder (Simulation L ℝ) (Turn L ℝ) MotionRecord where
  apply s turn := ((s.turned turn).stepDuring turn.bursts).simulation
  entries s turn :=
    [⟨(s.turned turn).reportsDuring turn.bursts, ((s.turned turn).stepping turn.bursts).MovesFreely⟩]

/-- A bridge and a vehicle that take gravity to be the same, and measure motion without disturbance. -/
structure Exact (c : Config ℝ) (s : Simulation L ℝ) : Prop where
  settings : s.bridge.assembler.settings = c.assembly
  step : 0 < s.vehicle.settings.step
  gravity : s.vehicle.settings.gravity = c.gravity
  velocity : c.noise.velocity = .none
  acceleration : s.vehicle.settings.accelerationNoise = .none

/-- What is remembered of the last tick is how the vehicle moves. -/
structure Remembers (s : Simulation L ℝ) (log : List MotionRecord) : Prop where
  notAfter : s.bridge.assembler.NotAfter s.vehicle.time
  inOrder : s.bridge.assembler.InOrder
  motion : log ≠ [] → ∃ m, s.bridge.assembler.previousMotion = some m ∧ m.pose = s.vehicle.truePose
    ∧ (2 ≤ log.length → (∀ r ∈ log.getLast?, r.free) → m.velocity = s.vehicle.trueVelocity)

variable {c : Config ℝ} {s : Simulation L ℝ} {log : List MotionRecord}

/-- The motion worked out in a tick that follows others. -/
theorem Remembers.derivatives (h : s.Remembers log) (hexact : s.Exact c) {bursts : List (Burst ℝ)}
    (hlog : log ≠ []) (hpaused : s.vehicle.paused = false) (hfree : (s.stepping bursts).MovesFreely) :
    let v := (s.stepping bursts).advance
    let derived := AssemblySettings.derivatives s.bridge.assembler.previousMotion v.truePose
    derived.1 = v.trueVelocity
      ∧ (2 ≤ log.length → (∀ r ∈ log.getLast?, r.free) → derived.2.1 = ⟨0.0, 0.0, v.state.verticalAcceleration⟩) := by
  intro v derived
  obtain ⟨m, hm, hpose, hvelocity⟩ := h.motion hlog
  obtain ⟨rotors, servos, external, wrench, hreceived⟩ :=
    s.vehicle.receiveAll_eq (s.bridge.preUpdate s.vehicle.tick bursts).published
  have hstepping : s.stepping bursts = { s.vehicle with rotors, servos, external, wrench } := hreceived
  have hmoves := derivatives_of_free (m := m) hfree (by rw [hstepping]; exact hpaused)
    (by rw [hstepping]; exact hexact.step) (by rw [hstepping]; exact hpose)
  simp only [derived, hm]
  refine ⟨hmoves.1, fun htwo hlast => hmoves.2 ?_⟩
  rw [hstepping]
  exact hvelocity htwo hlast

theorem addVec_none (noise : NoiseSource) (v : Vec3 ℝ) : (noise.addVec v .none).1 = v := by
  have hcalm : (Noise.none : Noise ℝ).isRandom = false := by
    simp [Noise.isRandom, Noise.none]
  simp only [NoiseSource.addVec, NoiseSource.add, NoiseSource.sample_of_calm hcalm]
  ext <;> norm_num [Noise.none]

/-- After a tick that reports, the motion of the vehicle in it is remembered. -/
theorem Remembers.stepDuring (h : s.Remembers log) (hexact : s.Exact c) {bursts : List (Burst ℝ)}
    (hreports : s.reportsDuring bursts ≠ []) {r : MotionRecord} (hr : r.free → (s.stepping bursts).MovesFreely) :
    (s.stepDuring bursts).simulation.Exact c ∧ (s.stepDuring bursts).simulation.Remembers (log ++ [r]) := by
  obtain ⟨hpaused, htime, plan, previous, noise, -, hassembler, hvehicle⟩ :=
    stepDuring_of_reports h.notAfter hreports
  have hderived := fun (hlog : log ≠ []) (hfree : (s.stepping bursts).MovesFreely) =>
    h.derivatives hexact hlog hpaused hfree
  obtain ⟨hsettings, -, -⟩ := s.moved_cases (s.bridge.preUpdate s.vehicle.tick bursts).published
  have hsettings : (s.stepping bursts).advance.settings = s.vehicle.settings := hsettings
  -- how the vehicle came to move as it does no longer matters, nor whether the link was opened
  generalize (s.stepping bursts).advance = v at *
  have hrestart := s.bridge.assembler.books_renumbered previous
  have hremembered : (s.bridge.assembler.renumbered previous).previousMotion = s.bridge.assembler.previousMotion := rfl
  generalize s.bridge.assembler.renumbered previous = a at *
  have hnotAfter : a.NotAfter v.time := (hrestart.notAfter h.notAfter nofun).mono htime
  obtain ⟨hkept, hnotAfter', hordered⟩ :=
    Vehicle.books_refill_assemble hnotAfter (hrestart.inOrder h.inOrder) plan
  obtain ⟨-, hmotion⟩ := v.truthReports_refill a plan
  refine ⟨?exact, ?remembers⟩
  case exact =>
    refine ⟨?_, ?_, ?_, hexact.velocity, ?_⟩
    · rw [hassembler, hkept]
      exact hrestart.settings.trans hexact.settings
    · rw [hvehicle]
      exact hsettings ▸ hexact.step
    · rw [hvehicle]
      exact (congrArg VehicleSettings.gravity hsettings).trans hexact.gravity
    · rw [hvehicle]
      exact (congrArg VehicleSettings.accelerationNoise hsettings).trans hexact.acceleration
  case remembers =>
    refine ⟨?_, hassembler ▸ hordered,
      fun _ => ⟨(a.settings.truthReport a.previousMotion v.truePose).2, ?_, ?_, fun htwo hlast => ?_⟩⟩
    · rw [hassembler, hvehicle]
      exact hnotAfter'
    · exact (congrArg Assembler.previousMotion hassembler).trans hmotion
    · rw [hvehicle]
      rfl
    · have hlog : log ≠ [] := by
        rintro rfl
        exact absurd htwo (Nat.not_succ_le_self 1)
      have hfree : r.free := hlast r (by rw [List.getLast?_concat]; rfl)
      rw [hvehicle, AssemblySettings.velocity_motion, hremembered]
      exact (hderived hlog (hr hfree)).1

/-- Where the motion before was that of the vehicle, all reports of a tick agree. -/
theorem Remembers.agrees (h : s.Remembers log) (hexact : s.Exact c) {bursts : List (Burst ℝ)}
    {r : MotionRecord} (hr : r.reports = s.reportsDuring bursts) (hcomplete : r.IsComplete)
    (htwo : 2 ≤ log.length) (hlast : ∀ p ∈ log.getLast?, p.free) (hfree : (s.stepping bursts).MovesFreely) :
    r.Agrees := by
  have hreports : s.reportsDuring bursts ≠ [] := by
    intro hnone
    rw [MotionRecord.IsComplete, hr, hnone] at hcomplete
    exact hcomplete.1 rfl
  have hlog : log ≠ [] := by
    rintro rfl
    exact absurd htwo (by decide)
  obtain ⟨hpaused, -, plan, previous, noise, hcycle, -, -⟩ := stepDuring_of_reports h.notAfter hreports
  obtain ⟨hvelocity, hacceleration⟩ := h.derivatives hexact hlog hpaused hfree
  have hacceleration := hacceleration htwo hlast
  obtain ⟨hsettings, -, -⟩ := s.moved_cases (s.bridge.preUpdate s.vehicle.tick bursts).published
  have hsettings : (s.stepping bursts).advance.settings = s.vehicle.settings := hsettings
  generalize (s.stepping bursts).advance = v at *
  have ha : (s.bridge.assembler.renumbered previous).settings = c.assembly := hexact.settings
  have hremembered : (s.bridge.assembler.renumbered previous).previousMotion = s.bridge.assembler.previousMotion := rfl
  generalize s.bridge.assembler.renumbered previous = a at *
  obtain ⟨htruth, -⟩ := v.truthReports_refill a plan
  rw [MotionRecord.IsComplete, hr, hcycle] at hcomplete
  rw [MotionRecord.Agrees, hr, hcycle]
  rcases v.gpsReports_refill a plan with hnone | ⟨noise', hgps⟩
  · exact absurd hnone hcomplete.2
  rcases v.imuReports_refill a plan with hnone | ⟨seq, himu⟩
  · exact absurd hnone hcomplete.1
  refine ⟨_, _, _, htruth, hgps, himu, ?velocity, ?acceleration⟩
  case velocity =>
    obtain ⟨noise, hgps⟩ := a.settings.velocity_gpsReport noise'
      ⟨v.settings.home.latitude, v.settings.home.longitude, v.amsl, v.trueVelocity⟩
    have hcalm : a.settings.noise.velocity = .none := ha ▸ hexact.velocity
    rw [hgps, hcalm, addVec_none, AssemblySettings.velocity_truthReport, hremembered, hvelocity]
  case acceleration =>
    have hgravity : a.settings.gravity = v.settings.gravity := by
      rw [ha, hsettings, hexact.gravity]
      rfl
    have hcalm : v.settings.accelerationNoise = .none := by rw [hsettings, hexact.acceleration]
    obtain ⟨noise, hforce⟩ := v.acceleration_imuReading
    rw [AssemblySettings.acceleration_truthReport, AssemblySettings.acceleration_imuReport, hforce, hcalm, addVec_none,
      hgravity, hremembered, hacceleration]
    rfl

/-! ## The theorem -/

omit [AutopilotLink L ℝ] in
theorem remembers_new {links : List RangeLink} (h : s.bridge.assembler = .new c links) : s.Remembers [] := by
  have hempty : ∀ k, s.bridge.assembler.tray k = .empty := by
    rw [h]
    exact Assembler.tray_new c links
  exact ⟨Assembler.notAfter_of_empty hempty _, Assembler.inOrder_of_empty hempty, fun hlog => absurd rfl hlog⟩

/--
**The ground truth agrees with the sensors**, in exact arithmetic. A bridge that has assembled nothing yet and a vehicle
in any state take gravity to be the same, and neither the position nor the acceleration is disturbed. Whatever happens
to the connection before and during the ticks, if every tick of a run reports its inertial sample and its position,
then from the third on, and where the ground interferes neither in the tick nor in the one before, there is one report
of each kind in the tick, and the ground truth has the velocity of the position and the acceleration of the inertial
report.
-/
theorem truth_agrees_with_sensors {links : List RangeLink} (hstart : s.bridge.assembler = .new c links)
    (hstep : 0 < s.vehicle.settings.step) (hgravity : s.vehicle.settings.gravity = c.gravity)
    (hvelocity : c.noise.velocity = .none) (hacceleration : s.vehicle.settings.accelerationNoise = .none)
    (turns : List (Turn L ℝ)) (hcomplete : ∀ r ∈ ((observer L).run s turns).2, r.IsComplete) :
    ∀ before p r after, ((observer L).run s turns).2 = before ++ p :: r :: after → before ≠ [] →
      p.free → r.free → r.Agrees := by
  -- which ticks report is known of the finished log only, and so the invariant depends on it
  let Kept (t : Simulation L ℝ) (log : List MotionRecord) : Prop :=
    (∀ r ∈ log, r.IsComplete) → t.Exact c ∧ t.Remembers log ∧ EachAfter (fun before r =>
      2 ≤ before.length → (∀ p ∈ before.getLast?, p.free) → r.free → r.Agrees) log
  have hbase : Kept s [] := by
    intro _
    refine ⟨⟨?_, hstep, hgravity, hvelocity, hacceleration⟩, remembers_new hstart, .nil⟩
    rw [hstart]
    rfl
  have hkept : ∀ t log turn, Kept t log →
      Kept ((observer L).apply t turn) (log ++ (observer L).entries t turn) := by
    intro t log turn h hall
    obtain ⟨hexact, hremembers, heach⟩ := h fun r hr => hall r (List.mem_append_left _ hr)
    have hcomplete := hall _ (List.mem_append_right _ List.mem_cons_self)
    -- what happens to the connection before a tick shows neither in the vehicle nor in the assembler
    have hexact' : (t.turned turn).Exact c := ⟨hexact.1, hexact.2, hexact.3, hexact.4, hexact.5⟩
    have hremembers' : (t.turned turn).Remembers log := ⟨hremembers.1, hremembers.2, hremembers.3⟩
    have hreports : (t.turned turn).reportsDuring turn.bursts ≠ [] := by
      intro hnone
      have himu := hcomplete.1
      dsimp only at himu
      rw [hnone] at himu
      exact himu rfl
    obtain ⟨hexact'', hremembers''⟩ := hremembers'.stepDuring hexact' hreports
      (r := ⟨_, ((t.turned turn).stepping turn.bursts).MovesFreely⟩) fun hfree => hfree
    exact ⟨hexact'', hremembers'', heach.concat fun htwo hlast hfree =>
      hremembers'.agrees hexact' rfl hcomplete htwo hlast hfree⟩
  obtain ⟨-, -, heach⟩ := (observer L).run_induction hbase hkept turns hcomplete
  intro before p r after hsplit hbefore hp hr
  refine heach (before ++ [p]) r after ?_ ?_ ?_ hr
  · rw [hsplit, List.append_assoc]
    rfl
  · have hpositive := List.length_pos_iff.mpr hbefore
    rw [List.length_append, List.length_singleton]
    omega
  · intro q hq
    rw [List.getLast?_concat] at hq
    exact Option.some.inj hq ▸ hp

/-! ## A climb -/

/-- Positions are reported as often as inertial samples. -/
noncomputable def climbConfig : Config ℝ :=
  { Config.default with gpsInterval := 0.004 }

/-- A vehicle on the ground whose rotors lift it, and a bridge that has no link yet. -/
noncomputable def climb : Simulation (ScriptedLink ℝ) ℝ :=
  { bridge :=
      { assembler := .new climbConfig []
        dispatcher := ⟨[], none, .none, false, false, [], ⟨0, 0, 0⟩⟩
        scheduler := .new climbConfig
        connection := .new climbConfig (.new "memory") Trial.names
        messagesSent := 0 }
    vehicle := { Vehicle.new (VehicleSettings.ofConfig climbConfig) with wrench := some ⟨30.0, 0.0⟩ } }

/-- A tick before which the remote endpoint is resolved. -/
noncomputable def climbOpening : Turn (ScriptedLink ℝ) ℝ :=
  ⟨fun c => { c with resolver := some ⟨.default, .settled (.resolved ⟨.v4 [127, 0, 0, 1], 4560⟩), 1⟩ }, []⟩

/-- A tick in which nothing comes in. -/
def quietTurn : Turn (ScriptedLink ℝ) ℝ :=
  ⟨id, []⟩

noncomputable def climbOnce : Simulation (ScriptedLink ℝ) ℝ :=
  (observer (ScriptedLink ℝ)).apply climb climbOpening

noncomputable def climbTwice : Simulation (ScriptedLink ℝ) ℝ :=
  (observer (ScriptedLink ℝ)).apply climbOnce quietTurn

noncomputable def climbLog : List MotionRecord :=
  ((observer (ScriptedLink ℝ)).run climb [climbOpening, quietTurn, quietTurn]).2

theorem rises_climb : climb.vehicle.Rises ⟨30.0, 0.0⟩ where
  running := rfl
  wrench := rfl
  lift := by
    show (0 : ℝ) ≤ 30.0 / 1.5 + -9.8
    norm_num
  altitude := by
    show (0 : ℝ) ≤ 0.0
    norm_num
  climbRate := by
    show (0 : ℝ) ≤ 0.0
    norm_num

theorem isComplete_climbLog : ∀ r ∈ climbLog, r.IsComplete := by
  have hsome : climbLog.map (fun r => (reportsOf Report.imu? r.reports).isEmpty
      || (reportsOf Report.gps? r.reports).isEmpty) = [false, false, false] := by
    decide +kernel
  intro r hr
  have hmem := List.mem_map_of_mem (f := fun r : MotionRecord => (reportsOf Report.imu? r.reports).isEmpty
      || (reportsOf Report.gps? r.reports).isEmpty) hr
  rw [hsome] at hmem
  simpa [MotionRecord.IsComplete] using hmem

/-- Nothing is published in these ticks, and so the vehicle steps as it was. -/
theorem free_climbOnce : ((climbOnce.turned quietTurn).stepping []).MovesFreely := by
  have hstepping : (climbOnce.turned quietTurn).stepping []
      = { climb.vehicle.advance with noise := climbOnce.vehicle.noise } := rfl
  have h := rises_climb.advance
  rw [hstepping]
  exact Vehicle.Rises.movesFreely ⟨h.1, h.2, h.3, h.4, h.5⟩

theorem free_climbTwice : ((climbTwice.turned quietTurn).stepping []).MovesFreely := by
  have hstepping : (climbTwice.turned quietTurn).stepping []
      = { climb.vehicle.advance.advance with noise := climbTwice.vehicle.noise } := rfl
  have h := rises_climb.advance.advance
  rw [hstepping]
  exact Vehicle.Rises.movesFreely ⟨h.1, h.2, h.3, h.4, h.5⟩

theorem truth_agrees_in_climb :
    climb.bridge.assembler = .new climbConfig [] ∧ 0 < climb.vehicle.settings.step
      ∧ climb.vehicle.settings.gravity = climbConfig.gravity ∧ climbConfig.noise.velocity = .none
      ∧ climb.vehicle.settings.accelerationNoise = .none ∧ (∀ r ∈ climbLog, r.IsComplete)
      ∧ ∃ first second third, climbLog = [first, second, third] ∧ second.free ∧ third.free ∧ third.Agrees := by
  have hlog : climbLog = [⟨_, _⟩, ⟨_, _⟩, ⟨_, _⟩] := rfl
  refine ⟨rfl, by decide, rfl, rfl, rfl, isComplete_climbLog, _, _, _, hlog, free_climbOnce, free_climbTwice, ?_⟩
  exact truth_agrees_with_sensors (s := climb) (c := climbConfig) rfl (by decide) rfl rfl rfl _ isComplete_climbLog
    [⟨_, _⟩] ⟨_, _⟩ ⟨_, _⟩ [] hlog (List.cons_ne_nil _ _) free_climbOnce free_climbTwice

end Simulation

end HilBridge
