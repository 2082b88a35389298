import HilBridge.Proofs.Bridge.Samples
import HilBridge.Proofs.Simulation.VehicleTick

/-!
# `HilBridge.Proofs.Simulation.Faults` — a simulation whose settings are in order has no fault

Two things can be asked of a simulation that have no answer: a disturbance between limits that are out of order,
and a rotor velocity within a largest one that is not a velocity. Both are matters of the settings alone, which no
tick changes. So with settings in order (`Simulation.Sound`) no run ever has a fault that was not there before,
whatever happens to the bridge meanwhile (`Sound.runDuring`). A fault that is there stays.
-/

namespace HilBridge

variable {L α : Type} [Scalar α]

/-! ## The vehicle -/

namespace VehicleSettings

/-- Everything can be asked of a vehicle with such settings. -/
structure Sound (s : VehicleSettings α) : Prop where
  limit : Scalar.le (-s.maxRotorVelocity) s.maxRotorVelocity = true
  acceleration : s.accelerationNoise.Bounded
  gyro : s.gyroNoise.Bounded

end VehicleSettings

namespace Vehicle

omit [Scalar α] in
theorem settings_receiveAll (v : Vehicle α) (publications : List (Publication α)) :
    (v.receiveAll publications).settings = v.settings := by
  obtain ⟨rotors, servos, external, wrench, hreceived⟩ := v.receiveAll_eq publications
  rw [hreceived]

omit [Scalar α] in
theorem hasFault_receiveAll (v : Vehicle α) (publications : List (Publication α)) :
    (v.receiveAll publications).hasFault = v.hasFault := by
  obtain ⟨rotors, servos, external, wrench, hreceived⟩ := v.receiveAll_eq publications
  rw [hreceived]
  rfl

theorem settings_advance (v : Vehicle α) : v.advance.settings = v.settings := by
  rcases v.advance_cases with ⟨-, hadvance⟩ | ⟨state, hadvance⟩ <;> rw [hadvance]

/-- A fault stays. -/
theorem fault_advance {v : Vehicle α} (h : v.fault = true) : v.advance.fault = true := by
  rcases v.advance_cases with ⟨-, hadvance⟩ | ⟨state, hadvance⟩ <;> rw [hadvance]
  exact h

theorem hasFault_advance {v : Vehicle α} (h : v.settings.Sound) : v.advance.hasFault = v.hasFault := by
  rcases v.advance_cases with ⟨hnone, -⟩ | ⟨state, hadvance⟩
  · -- thrust and torque are undefined only where the limit is not one
    have hsome := isSome_wrench? h.limit
    rw [hnone] at hsome
    cases hsome
  · rw [hadvance]
    rfl

theorem fault_imuReading {v : Vehicle α} (h : v.settings.Sound) : v.imuReading.2.fault = v.noise.fault := by
  simp only [imuReading, NoiseSource.fault_addVec h.acceleration, NoiseSource.fault_addVec h.gyro]

end Vehicle

/-! ## The samples of a tick -/

namespace Assembler

/-- Operations that have a ledger each have one together. -/
theorem exists_books_foldl {β : Type} {f : Assembler α → β → Assembler α}
    (hf : ∀ (a : Assembler α) x, ∃ l, a.Books l (f a x)) (xs : List β) (a : Assembler α) :
    ∃ l, a.Books l (xs.foldl f a) := by
  induction xs generalizing a with
  | nil => exact ⟨[], .refl a⟩
  | cons x rest ih =>
    obtain ⟨l, hl⟩ := hf a x
    obtain ⟨m, hm⟩ := ih (f a x)
    exact ⟨l ++ m, hl.trans hm⟩

end Assembler

/-! ## Ticks and runs -/

namespace Simulation

/-- The settings on both sides are in order, and so is what waits. -/
structure Sound (s : Simulation L α) : Prop where
  vehicle : s.vehicle.settings.Sound
  sensors : s.bridge.assembler.settings.noise.Bounded
  inOrder : s.bridge.assembler.InOrder

/-- Where a step leaves the settings as they were and has no fault, the simulation stays sound. -/
theorem Sound.of_books {s t : Simulation L α} (h : s.Sound) {l : Ledger α}
    (hbooks : s.bridge.assembler.Books l t.bridge.assembler) (hsettings : t.vehicle.settings = s.vehicle.settings)
    (hvehicle : t.vehicle.hasFault = s.vehicle.hasFault) : t.Sound ∧ t.hasFault = s.hasFault := by
  refine ⟨⟨hsettings ▸ h.vehicle, hbooks.settings ▸ h.sensors, hbooks.inOrder h.inOrder⟩, ?_⟩
  rw [hasFault, hasFault, hbooks.faultless h.sensors, hvehicle]

theorem Sound.deliver {s : Simulation L α} (h : s.Sound) : s.deliver.Sound ∧ s.deliver.hasFault = s.hasFault := by
  obtain ⟨l, hsamples⟩ := Assembler.exists_books_foldl
    (fun a sample => ⟨_, a.books_deliver sample⟩) s.vehicle.samples.1 s.bridge.assembler
  obtain ⟨m, hranges⟩ := Assembler.exists_books_foldl
    (fun a (link : RangeLink) => ⟨_, a.books_deliverRange link.name s.vehicle.rangeSample⟩) _ _
  rw [deliver_eq]
  refine h.of_books (hsamples.trans hranges) rfl ?_
  rw [Vehicle.hasFault, Vehicle.hasFault, Vehicle.fault_imuReading h.vehicle]

variable [AutopilotLink L α]

/-- A tick has no new fault. -/
theorem Sound.stepDuring {s : Simulation L α} (h : s.Sound) (bursts : List (Burst α)) :
    let t := (s.stepDuring bursts).simulation
    t.Sound ∧ t.hasFault = s.hasFault := by
  -- the four things that happen in a tick, one after another
  let start : Simulation L α := ⟨(s.bridge.preUpdate s.vehicle.tick bursts).bridge,
    s.vehicle.receiveAll (s.bridge.preUpdate s.vehicle.tick bursts).published⟩
  let moved : Simulation L α := { start with vehicle := start.vehicle.advance }
  let delivered := moved.deliver
  let ended : Simulation L α :=
    { delivered with bridge := (delivered.bridge.tickEnd delivered.vehicle.tick).bridge }
  obtain ⟨hstart, hstartFault⟩ : start.Sound ∧ start.hasFault = s.hasFault :=
    h.of_books (s.bridge.books_preUpdate s.vehicle.tick bursts) (s.vehicle.settings_receiveAll _)
      (s.vehicle.hasFault_receiveAll _)
  obtain ⟨hmoved, hmovedFault⟩ : moved.Sound ∧ moved.hasFault = start.hasFault :=
    hstart.of_books (.refl _) start.vehicle.settings_advance (Vehicle.hasFault_advance hstart.vehicle)
  obtain ⟨hdelivered, hdeliveredFault⟩ := hmoved.deliver
  obtain ⟨hended, hendedFault⟩ : ended.Sound ∧ ended.hasFault = delivered.hasFault :=
    hdelivered.of_books (Bridge.books_postUpdate hdelivered.inOrder _) rfl rfl
  unfold Simulation.stepDuring
  dsimp only
  split
  · exact ⟨hstart, hstartFault⟩
  · exact ⟨hended, hendedFault.trans (hdeliveredFault.trans (hmovedFault.trans hstartFault))⟩

/-- No run has a new fault. -/
theorem Sound.runDuring {s : Simulation L α} (h : s.Sound) (bursts : List (Burst α)) (n : Nat) :
    let t := (s.runDuring bursts n).2
    t.Sound ∧ t.hasFault = s.hasFault := by
  induction n generalizing s bursts with
  | zero => exact ⟨h, rfl⟩
  | succ n ih =>
    obtain ⟨hsound, hfault⟩ := h.stepDuring bursts
    obtain ⟨hrest, hfaults⟩ := ih hsound (s.stepDuring bursts).ahead
    exact ⟨hrest, hfaults.trans hfault⟩

/-! ## Faults stay -/

theorem fault_stepDuring {s : Simulation L α} (h : s.vehicle.fault = true) (bursts : List (Burst α)) :
    (s.stepDuring bursts).simulation.vehicle.fault = true := by
  obtain ⟨rotors, servos, external, wrench, hreceived⟩ :=
    s.vehicle.receiveAll_eq (s.bridge.preUpdate s.vehicle.tick bursts).published
  have hstart : (s.vehicle.receiveAll (s.bridge.preUpdate s.vehicle.tick bursts).published).fault = true := by
    rw [hreceived]
    exact h
  unfold Simulation.stepDuring
  dsimp only
  split
  · exact hstart
  · rw [deliver_eq]
    exact Vehicle.fault_advance hstart

theorem fault_runDuring {s : Simulation L α} (h : s.vehicle.fault = true) (bursts : List (Burst α)) (n : Nat) :
    (s.runDuring bursts n).2.vehicle.fault = true := by
  induction n generalizing s bursts with
  | zero => exact h
  | succ n ih => exact ih (fault_stepDuring h bursts) (s.stepDuring bursts).ahead

end Simulation

end HilBridge
