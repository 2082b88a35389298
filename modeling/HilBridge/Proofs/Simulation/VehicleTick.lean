import HilBridge.Proofs.Sensor.Feeding
import HilBridge.Simulation

/-!
# `HilBridge.Proofs.Simulation.VehicleTick` — what a tick does to the vehicle, and its samples to the bridge

What is published for a vehicle changes its actuators only, and a step its state and its time, or it is a fault
(`Vehicle.advance_cases`). A vehicle whose largest rotor velocity is one can always make the step.

All samples of a tick are of one moment, so that a bridge which has nothing later accepts all of them
(`Simulation.fed_deliver`).
-/

namespace HilBridge

variable {L α : Type} [Scalar α]

namespace Vehicle

omit [Scalar α] in
/-- What is published for a vehicle are its actuators. -/
theorem receiveAll_eq (v : Vehicle α) (publications : List (Publication α)) :
    ∃ rotors servos external wrench,
      v.receiveAll publications = { v with rotors, servos, external, wrench } := by
  induction publications generalizing v with
  | nil => exact ⟨v.rotors, v.servos, v.external, v.wrench, rfl⟩
  | cons publication rest ih =>
    obtain ⟨rotors, servos, external, wrench, hrest⟩ := ih (v.receive publication)
    refine ⟨rotors, servos, external, wrench, ?_⟩
    rw [receiveAll, List.foldl_cons]
    rw [receiveAll] at hrest
    rw [hrest]
    cases publication <;> rfl

/-- With a largest rotor velocity, every rotor adds to thrust and torque. -/
theorem isSome_foldlM_addRotor? {s : VehicleSettings α}
    (hlimit : Scalar.le (-s.maxRotorVelocity) s.maxRotorVelocity = true) (rotors : List (α × Nat)) (sum : Wrench α) :
    (rotors.foldlM (addRotor? s) sum).isSome = true := by
  induction rotors generalizing sum with
  | nil => rfl
  | cons rotor rest ih =>
    obtain ⟨next, hnext⟩ : ∃ next, addRotor? s sum rotor = some next := by
      simp only [addRotor?, Scalar.clamp?, if_pos hlimit]
      exact ⟨_, rfl⟩
    rw [List.foldlM_cons, hnext]
    exact ih next

theorem isSome_wrench? {v : Vehicle α}
    (hlimit : Scalar.le (-v.settings.maxRotorVelocity) v.settings.maxRotorVelocity = true) :
    v.wrench?.isSome = true := by
  unfold Vehicle.wrench?
  split
  · rfl
  · exact isSome_foldlM_addRotor? hlimit _ _

/-- A step is a fault, or it changes state and time, and if the vehicle is paused not even these. -/
theorem advance_cases (v : Vehicle α) :
    v.wrench? = none ∧ v.advance = { v with fault := true }
      ∨ ∃ state, v.advance = { v with state, time := v.time + if v.paused then 0 else v.settings.step } := by
  by_cases hpaused : v.paused = true
  · exact .inr ⟨v.state, by rw [if_pos hpaused, Vehicle.advance, if_pos hpaused]; rfl⟩
  · cases hwrench : v.wrench? with
    | none => exact .inl ⟨rfl, by simp only [Vehicle.advance, if_neg hpaused, hwrench]⟩
    | some wrench => exact .inr ⟨_, by simp only [if_neg hpaused, Vehicle.advance, hwrench]; rfl⟩

/-- The samples of a moment are accepted where nothing is later, the inertial one among them. -/
theorem fed_samples (v : Vehicle α) {a : Assembler α} (h : a.NotAfter v.time) :
    Assembler.Fed v.time a (v.samples.1.foldl (fun a sample => (a.deliver sample).2) a) := by
  let pose : Sample α := v.stamp (.pose ⟨⟨0.0, 0.0, v.state.altitude⟩, v.orientation⟩)
  let barometer : Sample α := v.stamp (.barometer (Atmosphere.standard.pressureAt v.amsl))
  let magnetometer : Sample α := v.stamp (.magnetometer (v.orientation.conj.rotate v.settings.magneticField))
  let gps : Sample α := v.stamp (.gps
    ⟨v.settings.home.latitude, v.settings.home.longitude, v.amsl, ⟨0.0, 0.0, v.state.climbRate⟩⟩)
  let a₁ := (a.deliver pose).2
  let a₂ := (a₁.deliver (v.stamp (.imu v.imuReading.1))).2
  let a₃ := (a₂.deliver barometer).2
  let a₄ := (a₃.deliver magnetometer).2
  -- one sample after another, and after each of them still nothing is later
  have hpose : Assembler.Passes v.time a a₁ := Assembler.passes_deliver pose h nofun
  have himu : Assembler.Fed v.time a a₂ :=
    hpose.fed (Assembler.fed_deliver _ (hpose.accepts.notAfter h))
  have hbarometer : Assembler.Fed v.time a a₃ :=
    himu.passes (Assembler.passes_deliver barometer (himu.accepts.notAfter h) nofun)
  have hmagnetometer : Assembler.Fed v.time a a₄ :=
    hbarometer.passes (Assembler.passes_deliver magnetometer (hbarometer.accepts.notAfter h) nofun)
  exact hmagnetometer.passes (Assembler.passes_deliver gps (hmagnetometer.accepts.notAfter h) nofun)

end Vehicle

namespace Simulation

omit [Scalar α] in
/-- What happens to the assembler only, one thing after another, leaves the rest of a bridge alone. -/
theorem foldl_assembler {β : Type} (f : Assembler α → β → Assembler α) (xs : List β) (b : Bridge L α) :
    xs.foldl (fun b x => { b with assembler := f b.assembler x }) b
      = { b with assembler := xs.foldl f b.assembler } := by
  induction xs generalizing b with
  | nil => rfl
  | cons x rest ih => rw [List.foldl_cons, List.foldl_cons, ih]

omit [Scalar α] in
theorem foldl_onSample (samples : List (Sample α)) (b : Bridge L α) :
    samples.foldl (fun b sample => (b.onSample sample).2) b
      = { b with assembler := samples.foldl (fun a sample => (a.deliver sample).2) b.assembler } :=
  foldl_assembler (fun a sample => (a.deliver sample).2) samples b

omit [Scalar α] in
theorem foldl_onRange (links : List RangeLink) (sample : Stamped α) (b : Bridge L α) :
    links.foldl (fun b link => (b.onRange link.name sample).2) b
      = { b with assembler := links.foldl (fun a link => (a.deliverRange link.name sample).2) b.assembler } :=
  foldl_assembler (fun a (link : RangeLink) => (a.deliverRange link.name sample).2) links b

/-- Of bridge and vehicle, the samples of a tick change the assembler and the source of noise. -/
theorem deliver_eq (s : Simulation L α) :
    s.deliver =
      let sampled := s.vehicle.samples.1.foldl (fun a sample => (a.deliver sample).2) s.bridge.assembler
      ⟨{ s.bridge with
          assembler := sampled.rangeLinks.foldl
            (fun a link => (a.deliverRange link.name s.vehicle.rangeSample).2) sampled },
        { s.vehicle with noise := s.vehicle.imuReading.2 }⟩ := by
  simp only [Simulation.deliver, foldl_onSample, foldl_onRange]
  rfl

/-- The samples of a tick are accepted by a bridge that has nothing later. -/
theorem fed_deliver (s : Simulation L α) (h : s.bridge.assembler.NotAfter s.vehicle.time) :
    ∃ assembler noise, s.deliver = ⟨{ s.bridge with assembler }, { s.vehicle with noise }⟩
      ∧ Assembler.Fed s.vehicle.time s.bridge.assembler assembler := by
  have hsampled := s.vehicle.fed_samples h
  rw [deliver_eq]
  exact ⟨_, _, rfl, hsampled.passes (Assembler.passes_ranges s.vehicle.rangeSample (hsampled.accepts.notAfter h) _)⟩

end Simulation

end HilBridge
